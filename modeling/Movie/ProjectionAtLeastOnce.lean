import Movie.ProjectionRunner
import Mathlib.Data.List.Chain

/-!
# At-least-once projections

Competing runners of one projection. The handler runs before the offset is saved in a transaction of
its own, and anything may happen in between.
-/
namespace Movie.ProjectionAtLeastOnce

open Function DurableModel SQLiteStore DurableHistory SQLiteStoreInvariant ChangeFeed ProjectionRunner
open Reachability

universe u

variable {R:Type u}

inductive TraceEvent where
 | registered (offset:ℕ)
 | retired
 | completed (changes:List DurableStateChange)
 | committed (offset:ℕ)

/-- The initial offset of the registration in force after a trace. -/
def initialAt (trace:List TraceEvent):Option ℕ:=
 trace.foldl (fun initial event=>
  match event with
  | .registered offset=>some offset
  | .retired=>none
  | .completed _ | .committed _=>initial) none

structure HandedBatch where
 lastSeen:Option ℕ
 changes:List DurableStateChange
 offset:ℕ

structure Worker extends Runner where
 seen:List ℕ
 handed:List HandedBatch

structure Fleet (R:Type u) where
 db:Database R
 log:List Mutation
 workers:ℕ → Option Worker
 trace:List TraceEvent

inductive SaveOutcome where
 | learned
 | unlearned
 | rolledBack

inductive Event (R:Type u) where
 | launch (k:ℕ) (initialOffset:Option ℕ) (limits:Limits)
 | register (k:ℕ) (learned:Bool)
 | fetch (k:ℕ) (failure:Option StoreError)
 | handle (k:ℕ) (completes:Bool)
 | save (k:ℕ) (outcome:SaveOutcome)
 | stop (k:ℕ)
 | retire
 | foreign (transaction:Transaction R)

namespace Worker

def setPhase (w:Worker) (phase:Phase):Worker:={ w with phase:=phase }

def afterRegister (w:Worker) (reply:ℕ×Database.Registration):Worker:=
 { w with
   phase:=ProjectionRunner.afterRegister reply
   seen:=if reply.2=.ok then w.seen++[reply.1] else w.seen }

def hand (w:Worker) (batch:DurableStateChangeBatch):Worker:=
 { w with handed:=w.handed++[⟨w.seen.getLast?,batch.changes,batch.offset⟩] }

def afterSave (w:Worker) (offset:ℕ) (batch:DurableStateChangeBatch) (reply:Bool×ℤ):
  Worker:=
 { w with
   phase:=afterCommit offset batch reply
   seen:=if reply.1 then w.seen++[batch.offset] else w.seen }

end Worker

namespace Fleet

def setWorker (s:Fleet R) (k:ℕ) (w:Worker):Fleet R:=
 { s with workers:=update s.workers k (some w) }

def record (s:Fleet R) (events:List TraceEvent):Fleet R:=
 { s with trace:=s.trace++events }

end Fleet

def atLeastOnceSystem (settings:Settings) (projection:Projection):
  System (Fleet R) (Event R) where
 init s:=∃readModel,s=⟨Database.create readModel,[],fun _=>none,[]⟩
 step s event t:=
  match event with
  | .launch k initialOffset limits=>s.workers k=none ∧
   t=s.setWorker k ⟨⟨initialOffset,limits,.registering⟩,[],[]⟩
  | .register k learned=>∃w reply db,
   s.workers k=some w ∧ w.phase=.registering ∧
   s.db.projectionRegister projection.id projection.source .atLeastOnce w.initialOffset =
    (reply,db) ∧
   t=Fleet.setWorker (Fleet.record { s with db:=db }
    (if s.db.projections.lookup projection.id=none ∧ reply.2=.ok then
     [.registered reply.1] else []))
    k (if learned then w.afterRegister reply else w)
  | .fetch k failure=>∃w offset,s.workers k=some w ∧ w.phase=.polling offset ∧
   t=s.setWorker k (w.setPhase (afterFetch offset (failure.elim
    (s.db.changesAfter settings projection.source offset w.limits.batchSize
     w.limits.batchBytes w.limits.scanLimit) .error)))
  | .handle k completes=>∃w offset batch,
   s.workers k=some w ∧ w.phase=.fetched offset batch ∧
   if batch.changes=[] then t=s.setWorker k (w.setPhase (.handled offset batch))
   else if completes then
    t=Fleet.setWorker (s.record [.completed batch.changes]) k
     ((w.hand batch).setPhase (.handled offset batch))
   else t=s.setWorker k ((w.hand batch).setPhase (.polling offset))
  | .save k outcome=>∃w offset batch,
   s.workers k=some w ∧ w.phase=.handled offset batch ∧
   if batch.offset=offset then t=s.setWorker k (w.setPhase (.polling offset))
   else ∃reply db,
    s.db.projectionSaveOffset projection.id offset batch.offset=(reply,db) ∧
    let saved:=Fleet.record { s with db:=db }
     (if reply.1 then [.committed batch.offset] else [])
    match outcome with
    | .learned=>t=saved.setWorker k (w.afterSave offset batch reply)
    | .unlearned=>t=saved.setWorker k (w.setPhase (.polling offset))
    | .rolledBack=>t=s.setWorker k (w.setPhase (.polling offset))
  | .stop k=>∃w,s.workers k=some w ∧ t=s.setWorker k (w.setPhase (.stopped none))
  | .retire=>t=Fleet.record { s with db:=(s.db.deleteProjectionOffset projection.id).2 }
   [.retired]
  | .foreign transaction=>Foreign projection.id transaction ∧ ∃reply db,
   transaction.run settings s.db=.ok (reply,db) ∧
   t={ s with db:=db,log:=s.log++transaction.logged reply }

/-! The trace. -/

@[simp] lemma initialAt_snoc_registered (trace:List TraceEvent) (offset:ℕ):
  initialAt (trace++[.registered offset])=some offset:=by
 simp [initialAt]

@[simp] lemma initialAt_snoc_completed (trace:List TraceEvent)
  (changes:List DurableStateChange):
  initialAt (trace++[.completed changes])=initialAt trace:=by
 simp [initialAt]

@[simp] lemma initialAt_snoc_committed (trace:List TraceEvent) (offset:ℕ):
  initialAt (trace++[.committed offset])=initialAt trace:=by
 simp [initialAt]

def CompletedIn (trace:List TraceEvent) (change:DurableStateChange):Prop:=
 ∃changes,.completed changes∈trace ∧ change∈changes

lemma CompletedIn.append {trace:List TraceEvent} {change:DurableStateChange}
  (h:CompletedIn trace change) (more:List TraceEvent):CompletedIn (trace++more) change:=by
 obtain ⟨changes,hmem,hchange⟩:=h
 exact ⟨changes,List.mem_append_left _ hmem,hchange⟩

lemma committed_mem_snoc {trace pre post:List TraceEvent} {event:TraceEvent} {n:ℕ}
  (h:trace++[event]=pre ++ .committed n::post):
  (pre=trace ∧ event=.committed n) ∨ ∃post',trace=pre ++ .committed n::post':=by
 rcases List.eq_nil_or_concat post with rfl|⟨post',last,rfl⟩
 · obtain ⟨htrace,hlast⟩:=List.append_inj' h rfl
   exact .inl ⟨htrace.symm,(List.cons.inj hlast).1⟩
 · rw [List.concat_eq_append,←List.cons_append,←List.append_assoc] at h
   exact .inr ⟨post',(List.append_inj' h rfl).1⟩

/-! One runner. -/

def heldOffset : Phase → Option ℕ
 | .polling offset | .fetched offset _ | .handled offset _=>some offset
 | .registering | .stopped _=>none

lemma Worker.last_hand (w:Worker) {batch:DurableStateChangeBatch} {a:HandedBatch}
  (h:(w.hand batch).handed.getLast? = some a):a=⟨w.seen.getLast?,batch.changes,batch.offset⟩:=by
 change (w.handed++[_]).getLast? = some a at h
 rw [List.getLast?_concat] at h
 exact (Option.some.inj h).symm

/-- `b` starts where `a` started, or after everything `a` covered. -/
def Follows (a b:HandedBatch):Prop:=
 b.lastSeen=a.lastSeen ∨ ∃offset,b.lastSeen=some offset ∧ a.offset≤offset

structure WorkerOk (settings:Settings) (source:ProjectionSource) (log:List Mutation)
  (trace:List TraceEvent) (w:Worker):Prop where
 phase:PhaseOk settings source log w.phase
 fresh:w.phase=.registering → w.seen=[] ∧ w.handed=[]
 seen:∀offset,heldOffset w.phase=some offset → w.seen.getLast? = some offset
 handed:∀a∈w.handed,∃offset,a.lastSeen=some offset ∧ a.changes≠[] ∧
  a.changes=sourceWindow settings.sha256 source log offset a.offset ∧
  a.offset ≤ min log.length (offset+w.limits.scanLimit)
 chain:w.handed.IsChain Follows
 last:∀offset a,heldOffset w.phase=some offset → w.handed.getLast? = some a →
  a.lastSeen=some offset ∨ a.offset≤offset
 fetched:∀offset batch,w.phase=.fetched offset batch →
  batch.offset ≤ min log.length (offset+w.limits.scanLimit) ∧
  ∀a,w.handed.getLast? = some a → a.lastSeen=some offset → batch.changes≠[]
 handled:∀offset batch,w.phase=.handled offset batch →
  (∀change∈batch.changes,CompletedIn trace change) ∧
  ∀a,w.handed.getLast? = some a → a.offset≤batch.offset

variable {offset:ℕ} {batch:DurableStateChangeBatch}

namespace WorkerOk

variable {settings:Settings} {source:ProjectionSource} {log:List Mutation}
 {trace:List TraceEvent} {w:Worker}

lemma launch (initialOffset:Option ℕ) (limits:Limits):
  WorkerOk settings source log trace ⟨⟨initialOffset,limits,.registering⟩,[],[]⟩ where
 phase:=trivial
 fresh _:=⟨rfl,rfl⟩
 seen _ ho:=by cases ho
 handed _ ha:=by cases ha
 chain:=List.isChain_nil
 last _ _ ho:=by cases ho
 fetched _ _ hphase:=by cases hphase
 handled _ _ hphase:=by cases hphase

section

variable (h:WorkerOk settings source log trace w)
include h

lemma grow (more:List Mutation) (events:List TraceEvent):
  WorkerOk settings source (log++more) (trace++events) w where
 phase:=h.phase.grow more
 fresh:=h.fresh
 seen:=h.seen
 handed a ha:=by
  obtain ⟨offset,hseen,hne,hchanges,hle⟩:=h.handed a ha
  have hlength:a.offset≤log.length:=hle.trans (Nat.min_le_left _ _)
  refine ⟨offset,hseen,hne,?_,?_⟩
  · rw [sourceWindow_grow _ _ _ _ hlength]
    exact hchanges
  · rw [List.length_append]
    omega
 chain:=h.chain
 last:=h.last
 fetched offset batch hphase:=by
  refine ⟨?_,(h.fetched offset batch hphase).2⟩
  have hle:=(h.fetched offset batch hphase).1
  rw [List.length_append]
  omega
 handled offset batch hphase:=
  ⟨fun change hchange=>((h.handled offset batch hphase).1 change hchange).append events,
   (h.handled offset batch hphase).2⟩

/-- The runner goes on at the offset it holds. -/
lemma keep (hheld:heldOffset w.phase=some offset) {phase:Phase}
  (hkeeps:heldOffset phase=some offset) (hphase:PhaseOk settings source log phase)
  (hfetched:∀o b,phase=.fetched o b → b.offset ≤ min log.length (o+w.limits.scanLimit) ∧
   ∀a,w.handed.getLast? = some a → a.lastSeen=some o → b.changes≠[])
  (hhandled:∀o b,phase=.handled o b → (∀change∈b.changes,CompletedIn trace change) ∧
   ∀a,w.handed.getLast? = some a → a.offset≤b.offset):
  WorkerOk settings source log trace (w.setPhase phase) where
 phase:=hphase
 fresh hregistering:=by
  change phase=_ at hregistering
  subst hregistering
  cases hkeeps
 seen o ho:=h.seen o (hheld.trans (hkeeps.symm.trans ho))
 handed:=h.handed
 chain:=h.chain
 last o a ho:=h.last o a (hheld.trans (hkeeps.symm.trans ho))
 fetched:=hfetched
 handled:=hhandled

lemma poll (hheld:heldOffset w.phase=some offset) (hle:offset≤log.length):
  WorkerOk settings source log trace (w.setPhase (.polling offset)):=
 h.keep hheld rfl hle (by rintro _ _ ⟨⟩) (by rintro _ _ ⟨⟩)

lemma stop (error:Option RunnerError):
  WorkerOk settings source log trace (w.setPhase (.stopped error)) where
 phase:=trivial
 fresh hphase:=by cases hphase
 seen _ ho:=by cases ho
 handed:=h.handed
 chain:=h.chain
 last _ _ ho:=by cases ho
 fetched _ _ hphase:=by cases hphase
 handled _ _ hphase:=by cases hphase

lemma register (hphase:w.phase=.registering) {reply:ℕ×Database.Registration}
  (hreply:PhaseOk settings source log (ProjectionRunner.afterRegister reply)):
  WorkerOk settings source log trace (w.afterRegister reply):=by
 obtain ⟨hseen,hhanded⟩:=h.fresh hphase
 obtain ⟨offset,registration⟩:=reply
 cases registration with
 | ok=>
  refine ⟨hreply,(by rintro ⟨⟩),?_,h.handed,h.chain,?_,(by rintro _ _ ⟨⟩),
   (by rintro _ _ ⟨⟩)⟩
  · intro o ho
    cases ho
    change (w.seen++[offset]).getLast? = some offset
    simp
  · intro o a _ ha
    change w.handed.getLast? = some a at ha
    rw [hhanded] at ha
    cases ha
 | baselineRequired | invalidBaseline=>exact h.stop (some .baseline)
 | sourceConflict=>exact h.stop (some .sourceConflict)

lemma fetch {db:Database R} (hrep:Represents settings db log) (hphase:w.phase=.polling offset)
  (failure:Option StoreError):
  WorkerOk settings source log trace (w.setPhase (afterFetch offset (failure.elim
   (db.changesAfter settings source offset w.limits.batchSize w.limits.batchBytes
    w.limits.scanLimit) .error))):=by
 have hoffset:=h.phase
 rw [hphase] at hoffset
 have hheld:heldOffset w.phase=some offset:=by rw [hphase]; rfl
 have hok:=afterFetch_ok hrep source hoffset w.limits failure
 generalize hresult:failure.elim (db.changesAfter settings source offset w.limits.batchSize
  w.limits.batchBytes w.limits.scanLimit) .error=result at *
 cases result with
 | error error=>
  unfold afterFetch
  split
  · rename_i heq
    cases heq
  · exact h.stop _
  · exact h.poll hheld hoffset
 | ok batch=>
  cases failure with
  | some error=>cases hresult
  | none=>
   obtain ⟨_,hle,_⟩:=changesAfter_page hrep hresult hoffset
   refine h.keep hheld rfl hok ?_ (by rintro _ _ ⟨⟩)
   rintro _ _ ⟨⟩
   refine ⟨hle,fun a ha hlast=>?_⟩
   obtain ⟨o,hseen,hne,hchanges,hbound⟩:=h.handed a (List.mem_of_getLast? ha)
   obtain rfl:=Option.some.inj (hlast.symm.trans hseen)
   exact changesAfter_ne_nil hrep hresult w.limits.batchSize_range.1 hbound (hchanges▸hne)

section

variable (hphase:w.phase=.fetched offset batch)
include hphase

lemma held:heldOffset w.phase=some offset ∧ PhaseOk settings source log (.fetched offset batch):=
 ⟨by rw [hphase]; rfl,hphase▸h.phase⟩

lemma skip (hempty:batch.changes=[]):
  WorkerOk settings source log trace (w.setPhase (.handled offset batch)):=by
 obtain ⟨hheld,hbatch⟩:=h.held hphase
 refine h.keep hheld rfl hbatch (by rintro _ _ ⟨⟩) ?_
 rintro _ _ ⟨⟩
 refine ⟨?_,fun a ha=>?_⟩
 · rw [hempty]
   intro change hchange
   cases hchange
 · rcases h.last _ a hheld ha with hlast|hlast
   · exact absurd hempty ((h.fetched _ _ hphase).2 a ha hlast)
   · exact hlast.trans hbatch.1

lemma hand (hne:batch.changes≠[]):WorkerOk settings source log trace (w.hand batch):=by
 obtain ⟨hheld,hbatch⟩:=h.held hphase
 have hseen:=h.seen offset hheld
 refine ⟨h.phase,fun hfresh=>(by cases hphase.symm.trans hfresh),h.seen,?_,?_,?_,?_,
  fun _ _ hhandled=>(by cases hphase.symm.trans hhandled)⟩
 · intro a ha
   rcases List.mem_append.mp ha with hold|hnew
   · exact h.handed a hold
   · rw [List.mem_singleton.mp hnew]
     exact ⟨offset,hseen,hne,hbatch.2.2,(h.fetched offset batch hphase).1⟩
 · refine h.chain.append (List.isChain_singleton _) ?_
   intro a ha b hb
   cases hb
   rcases h.last offset a hheld ha with hlast|hlast
   · exact .inl (hseen.trans hlast.symm)
   · exact .inr ⟨offset,hseen,hlast⟩
 · intro o a ho ha
   rw [w.last_hand ha]
   exact .inl (h.seen o ho)
 · intro o b hb
   cases hphase.symm.trans hb
   exact ⟨(h.fetched offset batch hphase).1,fun _ _ _=>hne⟩

lemma complete (hne:batch.changes≠[]):
  WorkerOk settings source log (trace++[.completed batch.changes])
   ((w.hand batch).setPhase (.handled offset batch)):=by
 obtain ⟨hheld,hbatch⟩:=h.held hphase
 have hgrown:=(h.hand hphase hne).grow [] [.completed batch.changes]
 rw [List.append_nil] at hgrown
 refine hgrown.keep hheld rfl hbatch (by rintro _ _ ⟨⟩) ?_
 rintro _ _ ⟨⟩
 refine ⟨fun change hchange=>⟨batch.changes,by simp,hchange⟩,fun a ha=>?_⟩
 rw [w.last_hand ha]

lemma handlerFails (hne:batch.changes≠[]):
  WorkerOk settings source log trace ((w.hand batch).setPhase (.polling offset)):=by
 obtain ⟨hheld,hbatch⟩:=h.held hphase
 exact (h.hand hphase hne).poll hheld (hbatch.1.trans hbatch.2.1)

end

lemma save (hphase:w.phase=.handled offset batch)
  (reply:Bool×ℤ):WorkerOk settings source log trace (w.afterSave offset batch reply):=by
 have hbatch:=h.phase
 rw [hphase] at hbatch
 obtain ⟨saved,actual⟩:=reply
 cases saved with
 | false=>exact h.stop _
 | true=>
  refine ⟨hbatch.2.1,(by rintro ⟨⟩),?_,h.handed,h.chain,?_,(by rintro _ _ ⟨⟩),
   (by rintro _ _ ⟨⟩)⟩
  · intro o ho
    cases ho
    change (w.seen++[batch.offset]).getLast? = _
    rw [List.getLast?_concat]
  · intro o a ho ha
    cases ho
    exact .inr ((h.handled offset batch hphase).2 a ha)

end

end WorkerOk

/-! The projection as a whole. -/

/-- The registration in force: every change between its initial and the stored offset was
 in a completed batch, and the stored offset is the initial one or was committed. -/
structure Registered (settings:Settings) (projection:Projection) (s:Fleet R)
  (row:ProjectionRow) (initial:ℕ):Prop where
 start:initialAt s.trace=some initial
 le_stored:initial ≤ row.offset
 stored_le:row.offset ≤ s.log.length
 completed:∀change∈sourceWindow settings.sha256 projection.source s.log initial row.offset,
  CompletedIn s.trace change
 committed:row.offset=initial ∨ ∃pre post,s.trace=pre ++ .committed row.offset::post ∧
  initialAt pre=some initial

structure Invariant (settings:Settings) (projection:Projection) (s:Fleet R):Prop where
 represents:Represents settings s.db s.log
 workers:∀k w,s.workers k=some w →
  WorkerOk settings projection.source s.log s.trace w
 registered:∀row,s.db.projections.lookup projection.id=some row →
  ∃initial,Registered settings projection s row initial
 covered:∀pre n post,s.trace=pre ++ .committed n::post → n ≤ s.log.length ∧
  ∀initial,initialAt pre=some initial →
   ∀change∈sourceWindow settings.sha256 projection.source s.log initial n,
    CompletedIn pre change

namespace Invariant

variable {settings:Settings} {projection:Projection} {s:Fleet R}

section

variable (h:Invariant settings projection s)
include h

variable {event:Event R} {db:Database R} {t:Fleet R}

lemma setWorker (k:ℕ) {w:Worker} (hw:WorkerOk settings projection.source s.log s.trace w):
  Invariant settings projection (s.setWorker k w) where
 represents:=h.represents
 workers k' w' hw':=by
  change update s.workers k _ k'=some w' at hw'
  by_cases hk:k'=k
  · subst hk
    rw [update_self] at hw'
    obtain rfl:=Option.some.inj hw'
    exact hw
  · rw [update_of_ne hk] at hw'
    exact h.workers k' w' hw'
 registered row hrow:=by
  obtain ⟨initial,hr⟩:=h.registered row hrow
  exact ⟨initial,hr.start,hr.le_stored,hr.stored_le,hr.completed,hr.committed⟩
 covered:=h.covered

lemma covered_snoc {event:TraceEvent}
  (hevent:∀n,event≠.committed n) {pre post:List TraceEvent} {n:ℕ}
  (htrace:s.trace++[event]=pre ++ .committed n::post):
  n ≤ s.log.length ∧ ∀initial,initialAt pre=some initial →
   ∀change∈sourceWindow settings.sha256 projection.source s.log initial n,
    CompletedIn pre change:=by
 rcases committed_mem_snoc htrace with ⟨_,hlast⟩|⟨post',htrace'⟩
 · exact absurd hlast (hevent n)
 · exact h.covered pre n post' htrace'

lemma complete (changes:List DurableStateChange):
  Invariant settings projection (s.record [.completed changes]) where
 represents:=h.represents
 workers k w hw:=by
  have:=(h.workers k w hw).grow [] [.completed changes]
  rwa [List.append_nil] at this
 registered row hrow:=by
  obtain ⟨initial,hr⟩:=h.registered row hrow
  refine ⟨initial,?_,hr.le_stored,hr.stored_le,fun c hc=>(hr.completed c hc).append _,?_⟩
  · exact (initialAt_snoc_completed _ _).trans hr.start
  · rcases hr.committed with heq|⟨pre,post,htrace,hpre⟩
    · exact .inl heq
    · refine .inr ⟨pre,post++[.completed changes],?_,hpre⟩
      change s.trace++_=_
      rw [htrace,List.append_assoc,List.cons_append]
 covered pre n post htrace:=h.covered_snoc (fun _=>by simp) htrace

lemma register {mode:ProcessingMode} {initialOffset:Option ℕ} {reply:ℕ×Database.Registration}
  (hrun:s.db.projectionRegister projection.id projection.source mode initialOffset =
   (reply,db)):Invariant settings projection (Fleet.record { s with db:=db }
   (if s.db.projections.lookup projection.id=none ∧ reply.2=.ok then
    [.registered reply.1] else [])) ∧
  PhaseOk settings projection.source s.log (ProjectionRunner.afterRegister reply):=by
 obtain ⟨hphase,⟨rfl,hnot⟩|⟨hnew,hle,hrep,rfl⟩⟩:=register_cases h.represents (fun row hrow=>by
  obtain ⟨_,hr⟩:=h.registered row hrow
  exact hr.stored_le) hrun <;> refine ⟨?_,hphase⟩
 · rw [if_neg hnot]
   change Invariant settings projection { s with trace:=s.trace++[] }
   rw [List.append_nil]
   exact h
 · rw [if_pos hnew]
   refine ⟨hrep,?_,?_,?_⟩
   · intro k w hw
     have:=(h.workers k w hw).grow [] [.registered reply.1]
     rwa [List.append_nil] at this
   · intro row hrow
     change (s.db.projections.insert projection.id _).lookup projection.id=some row at hrow
     rw [AList.lookup_insert] at hrow
     cases hrow
     refine ⟨reply.1,initialAt_snoc_registered _ _,Nat.le_refl _,hle,?_,.inl rfl⟩
     rw [sourceWindow_of_le (Nat.le_refl _)]
     intro change hchange
     cases hchange
   · exact fun pre n post htrace=>h.covered_snoc (fun _=>by simp) htrace

/-- Saving moves the offset only from the one the runner holds; what it skips over was in
 the batch the runner completed. -/
lemma save (hbatch:PhaseOk settings projection.source s.log (.handled offset batch))
  (hcompleted:∀change∈batch.changes,CompletedIn s.trace change) {reply:Bool×ℤ}
  (hrun:s.db.projectionSaveOffset projection.id offset batch.offset=(reply,db)):
  Invariant settings projection (Fleet.record { s with db:=db }
   (if reply.1 then [.committed batch.offset] else [])):=by
 have hcases:=s.db.projectionSaveOffset_cases projection.id offset batch.offset
 rw [hrun] at hcases
 dsimp only at hcases
 rcases hcases with ⟨hreply,rfl⟩|⟨rfl,row,hrow,rfl,rfl⟩
 · rw [hreply]
   change Invariant settings projection { s with trace:=s.trace++[] }
   rw [List.append_nil]
   exact h
 · obtain ⟨hle,hlength,hchanges⟩:=hbatch
   obtain ⟨initial,hr⟩:=h.registered row hrow
   have hall:∀change∈sourceWindow settings.sha256 projection.source s.log initial
    batch.offset,CompletedIn s.trace change:=by
    rw [←sourceWindow_append _ _ hr.le_stored hle hlength]
    intro change hchange
    rcases List.mem_append.mp hchange with hold|hnew
    · exact hr.completed change hold
    · exact hcompleted change (hchanges▸hnew)
   refine ⟨h.represents.same ⟨rfl,rfl,rfl,rfl,rfl,rfl⟩,?_,?_,?_⟩
   · intro k w hw
     have:=(h.workers k w hw).grow [] [.committed batch.offset]
     rwa [List.append_nil] at this
   · intro row' hrow'
     change (s.db.projections.insert projection.id _).lookup projection.id=some row' at hrow'
     rw [AList.lookup_insert] at hrow'
     obtain rfl:=Option.some.inj hrow'
     refine ⟨initial,?_,hr.le_stored.trans hle,hlength,
      fun change hchange=>(hall change hchange).append _,.inr ⟨s.trace,[],rfl,hr.start⟩⟩
     exact (initialAt_snoc_committed _ _).trans hr.start
   · intro pre n post htrace
     rcases committed_mem_snoc htrace with ⟨rfl,hlast⟩|⟨post',htrace'⟩
     · obtain rfl:=TraceEvent.committed.inj hlast
       refine ⟨hlength,fun i hi=>?_⟩
       obtain rfl:=Option.some.inj (hr.start.symm.trans hi)
       exact hall
     · exact h.covered pre n post' htrace'

lemma retire : Invariant settings projection
   (Fleet.record { s with db:=(s.db.deleteProjectionOffset projection.id).2 } [.retired]):=by
 refine ⟨h.represents.same ⟨rfl,rfl,rfl,rfl,rfl,rfl⟩,?_,?_,?_⟩
 · intro k w hw
   have:=(h.workers k w hw).grow [] [.retired]
   rwa [List.append_nil] at this
 · intro row hrow
   change (s.db.projections.erase projection.id).lookup projection.id=some row at hrow
   rw [AList.lookup_erase] at hrow
   cases hrow
 · exact fun pre n post htrace=>h.covered_snoc (fun _=>by simp) htrace

lemma foreign {transaction:Transaction R} (hforeign:Foreign projection.id transaction) {reply:Reply}
  (hrun:transaction.run settings s.db=.ok (reply,db)):Invariant settings projection
   { s with db:=db,log:=s.log++transaction.logged reply }:=by
 obtain ⟨hlookup,_⟩:=hforeign.unchanged hrun
 have hlength:s.log.length≤(s.log++transaction.logged reply).length:=by simp
 refine ⟨h.represents.run hrun,?_,?_,?_⟩
 · intro k w hw
   have:=(h.workers k w hw).grow (transaction.logged reply) []
   rwa [List.append_nil] at this
 · intro row hrow
   obtain ⟨initial,hr⟩:=h.registered row (hlookup▸hrow)
   refine ⟨initial,hr.start,hr.le_stored,hr.stored_le.trans hlength,?_,hr.committed⟩
   rw [sourceWindow_grow _ _ _ _ hr.stored_le]
   exact hr.completed
 · intro pre n post htrace
   obtain ⟨hn,hcovered⟩:=h.covered pre n post htrace
   refine ⟨hn.trans hlength,fun initial hinitial=>?_⟩
   rw [sourceWindow_grow _ _ _ _ hn]
   exact hcovered initial hinitial

lemma step (hstep:(atLeastOnceSystem settings projection).step s event t):
  Invariant settings projection t:=by
 cases event with
 | launch k initialOffset limits=>
  obtain ⟨_,rfl⟩:=hstep
  exact h.setWorker k (.launch initialOffset limits)
 | register k learned=>
  obtain ⟨w,reply,db,hw,hphase,hrun,rfl⟩:=hstep
  obtain ⟨hregistered,hreply⟩:=h.register hrun
  refine hregistered.setWorker k ?_
  have hok:WorkerOk settings projection.source s.log s.trace
   (if learned then w.afterRegister reply else w):=by
   split_ifs
   · exact (h.workers k w hw).register hphase hreply
   · exact h.workers k w hw
  have:=hok.grow []
  rw [List.append_nil] at this
  exact this _
 | fetch k failure=>
  obtain ⟨w,offset,hw,hphase,rfl⟩:=hstep
  exact h.setWorker k ((h.workers k w hw).fetch h.represents hphase failure)
 | handle k completes=>
  obtain ⟨w,offset,batch,hw,hphase,hstep⟩:=hstep
  split_ifs at hstep with hempty hcompletes
  · obtain rfl:=hstep
    exact h.setWorker k ((h.workers k w hw).skip hphase hempty)
  · obtain rfl:=hstep
    exact (h.complete batch.changes).setWorker k ((h.workers k w hw).complete hphase hempty)
  · obtain rfl:=hstep
    exact h.setWorker k ((h.workers k w hw).handlerFails hphase hempty)
 | save k outcome=>
  obtain ⟨w,offset,batch,hw,hphase,hstep⟩:=hstep
  have hok:=h.workers k w hw
  have hheld:heldOffset w.phase=some offset:=by rw [hphase]; rfl
  have hbatch:=hok.phase
  rw [hphase] at hbatch
  have hpoll:=hok.poll hheld (hbatch.1.trans hbatch.2.1)
  split_ifs at hstep
  · obtain rfl:=hstep
    exact h.setWorker k hpoll
  · obtain ⟨reply,db,hrun,hstep⟩:=hstep
    have hsaved:=h.save hbatch (hok.handled offset batch hphase).1 hrun
    have hgrow:∀ {w':Worker} events,WorkerOk settings projection.source s.log s.trace w' →
     WorkerOk settings projection.source s.log (s.trace++events) w':=by
     intro w' events hw'
     have:=hw'.grow [] events
     rwa [List.append_nil] at this
    cases outcome with
    | learned=>
     obtain rfl:=hstep
     exact hsaved.setWorker k (hgrow _ (hok.save hphase reply))
    | unlearned=>
     obtain rfl:=hstep
     exact hsaved.setWorker k (hgrow _ hpoll)
    | rolledBack=>
     obtain rfl:=hstep
     exact h.setWorker k hpoll
 | stop k=>
  obtain ⟨w,hw,rfl⟩:=hstep
  exact h.setWorker k ((h.workers k w hw).stop none)
 | retire=>
  obtain rfl:=hstep
  exact h.retire
 | foreign transaction=>
  obtain ⟨hforeign,reply,db,hrun,rfl⟩:=hstep
  exact h.foreign hforeign hrun

lemma stored_mono
  (hstep:(atLeastOnceSystem settings projection).step s event t) {row row':ProjectionRow}
  (hrow:s.db.projections.lookup projection.id=some row)
  (hrow':t.db.projections.lookup projection.id=some row'):row.offset ≤ row'.offset:=by
 have hkept:t.db.projections.lookup projection.id=s.db.projections.lookup projection.id →
  row.offset ≤ row'.offset:=by
  intro hlookup
  obtain rfl:=Option.some.inj (hrow.symm.trans (hlookup.symm.trans hrow'))
  exact Nat.le_refl _
 cases event with
 | launch k initialOffset limits=>
  obtain ⟨_,rfl⟩:=hstep
  exact hkept rfl
 | register k learned=>
  obtain ⟨w,reply,db,_,_,hrun,rfl⟩:=hstep
  have hcases:=s.db.projectionRegister_cases projection.id projection.source .atLeastOnce
   w.initialOffset
  rw [hrun] at hcases
  rcases hcases with ⟨_,_,hdb,_⟩|⟨hnone,_⟩|⟨hnone,_⟩
  · exact hkept (congrArg (fun db:Database R=>db.projections.lookup projection.id) hdb)
  · rw [hnone] at hrow
    cases hrow
  · rw [hnone] at hrow
    cases hrow
 | fetch k failure=>
  obtain ⟨w,offset,_,_,rfl⟩:=hstep
  exact hkept rfl
 | handle k completes=>
  obtain ⟨w,offset,batch,_,_,hstep⟩:=hstep
  split_ifs at hstep <;> obtain rfl:=hstep <;> exact hkept rfl
 | save k outcome=>
  obtain ⟨w,offset,batch,hw,hphase,hstep⟩:=hstep
  have hbatch:=(h.workers k w hw).phase
  rw [hphase] at hbatch
  split_ifs at hstep
  · obtain rfl:=hstep
    exact hkept rfl
  · obtain ⟨reply,db,hrun,hstep⟩:=hstep
    have hcases:=s.db.projectionSaveOffset_cases projection.id offset batch.offset
    rw [hrun] at hcases
    have hdb:db.projections.lookup projection.id=some row' → row.offset ≤ row'.offset:=by
     intro hdb
     rcases hcases with ⟨_,heq⟩|⟨_,stored,hstored,hoffset,heq⟩
     · obtain rfl:db=s.db:=heq
       obtain rfl:=Option.some.inj (hrow.symm.trans hdb)
       exact Nat.le_refl _
     · obtain rfl:db=_:=heq
       rw [AList.lookup_insert] at hdb
       cases hdb
       obtain rfl:=Option.some.inj (hrow.symm.trans hstored)
       rw [hoffset]
       exact hbatch.1
    cases outcome with
    | learned | unlearned=>
     obtain rfl:=hstep
     exact hdb hrow'
    | rolledBack=>
     obtain rfl:=hstep
     exact hkept rfl
 | stop k=>
  obtain ⟨w,_,rfl⟩:=hstep
  exact hkept rfl
 | retire=>
  obtain rfl:=hstep
  change (s.db.projections.erase projection.id).lookup projection.id=some row' at hrow'
  rw [AList.lookup_erase] at hrow'
  cases hrow'
 | foreign transaction=>
  obtain ⟨hforeign,reply,db,hrun,rfl⟩:=hstep
  exact hkept (hforeign.unchanged hrun).1

end

end Invariant

/-- Every change below the stored offset was in a completed batch before an offset covering
 it was committed; the stored offset does not go back while the projection is registered;
 each batch of a runner starts where the one before it started or after all of it. -/
theorem at_least_once (settings:Settings) (projection:Projection) {s:Fleet R}
  (h:(atLeastOnceSystem settings projection).Reachable s):
  (∀row,s.db.projections.lookup projection.id=some row →
   ∃initial,initialAt s.trace=some initial ∧ initial ≤ row.offset ∧
    ∀change∈journal settings.sha256 s.log,projection.source.selects change →
     initial<change.offset → change.offset ≤ row.offset →
     ∃pre n post,s.trace=pre ++ .committed n::post ∧ initialAt pre=some initial ∧
      change.offset≤n ∧ CompletedIn pre change) ∧
  (∀pre n post,s.trace=pre ++ .committed n::post →
   ∀initial,initialAt pre=some initial →
    ∀change∈journal settings.sha256 s.log,projection.source.selects change →
     initial<change.offset → change.offset≤n → CompletedIn pre change) ∧
  (∀event t,(atLeastOnceSystem settings projection).step s event t →
   ∀row row',s.db.projections.lookup projection.id=some row →
    t.db.projections.lookup projection.id=some row' → row.offset ≤ row'.offset) ∧
  (∀k w,s.workers k=some w →
   (∀a∈w.handed,∃seen,a.lastSeen=some seen ∧
    (a.changes.Pairwise fun x y=>x.offset<y.offset) ∧
    ∀change∈a.changes,seen<change.offset ∧ change.offset≤a.offset) ∧
   w.handed.IsChain Follows):=by
 have hinv:Invariant settings projection s:=by
  refine h.invariant (I := Invariant settings projection) ?_
   fun s a t _ hs hstep=>hs.step hstep
  rintro _ ⟨readModel,rfl⟩
  refine ⟨Represents.create settings readModel,?_,?_,?_⟩
  · intro k w hw
    cases hw
  · intro row hrow
    cases hrow
  · intro pre n post htrace
    cases pre <;> cases htrace
 have hcovered:∀pre n post,s.trace=pre ++ .committed n::post →
  ∀initial,initialAt pre=some initial →
   ∀change∈journal settings.sha256 s.log,projection.source.selects change →
    initial<change.offset → change.offset≤n → CompletedIn pre change:=by
  intro pre n post htrace initial hinitial change hmem hselect hlt hle
  exact (hinv.covered pre n post htrace).2 initial hinitial change
   (mem_sourceWindow.mpr ⟨hmem,hselect,hlt,hle⟩)
 refine ⟨?_,hcovered,fun event t hstep row row'=>hinv.stored_mono hstep,?_⟩
 · intro row hrow
   obtain ⟨initial,hr⟩:=hinv.registered row hrow
   refine ⟨initial,hr.start,hr.le_stored,?_⟩
   intro change hmem hselect hlt hle
   rcases hr.committed with heq|⟨pre,post,htrace,hpre⟩
   · omega
   · exact ⟨pre,row.offset,post,htrace,hpre,hle,
      hcovered pre row.offset post htrace initial hpre change hmem hselect hlt hle⟩
 · intro k w hw
   have hok:=hinv.workers k w hw
   refine ⟨fun a ha=>?_,hok.chain⟩
   obtain ⟨seen,hseen,_,hchanges,_⟩:=hok.handed a ha
   refine ⟨seen,hseen,?_,?_⟩
   · rw [hchanges]
     exact sourceWindow_pairwise ..
   · intro change hchange
     rw [hchanges] at hchange
     exact (mem_sourceWindow.mp hchange).2.2

theorem at_least_once_retried_change : ∃(s:Fleet Unit) (row:ProjectionRow) (w:Worker),
  s.db.projections.lookup cartProjection=some row ∧ row.offset=1 ∧
  s.workers 0=some w ∧ w.handed.length=2 ∧ w.handed.IsChain Follows ∧
  ∃initial,initialAt s.trace=some initial ∧ initial ≤ row.offset:=by
 have h₀:(atLeastOnceSystem plainSettings ⟨cartProjection,cartSource⟩).Reachable
  (⟨Database.create (),[],fun _=>none,[]⟩:Fleet Unit):=.start ⟨(),rfl⟩
 have h₁:=h₀.next (.foreign (.upsert cartId 0 ⟨⟨1,by decide⟩⟩ (cartState 7) 5))
  ⟨trivial,_,_,rfl,rfl⟩
 have h₂:=h₁.next (.launch 0 none ⟨10,1024,10,by decide⟩) ⟨rfl,rfl⟩
 have h₃:=h₂.next (.register 0 true) ⟨_,_,_,rfl,rfl,rfl,rfl⟩
 have h₄:=h₃.next (.fetch 0 none) ⟨_,_,rfl,rfl,rfl⟩
 have h₅:=h₄.next (.handle 0 false) ⟨_,_,_,rfl,rfl,rfl⟩
 have h₆:=h₅.next (.fetch 0 none) ⟨_,_,rfl,rfl,rfl⟩
 have h₇:=h₆.next (.handle 0 true) ⟨_,_,_,rfl,rfl,rfl⟩
 have h₈:=h₇.next (.save 0 .learned) ⟨_,_,_,rfl,rfl,⟨_,_,rfl,rfl⟩⟩
 obtain ⟨hstored,_,_,hworkers⟩:=at_least_once plainSettings ⟨cartProjection,cartSource⟩ h₈
 obtain ⟨initial,hinitial,hle,_⟩:=hstored _ rfl
 exact ⟨_,_,_,rfl,rfl,rfl,rfl,(hworkers 0 _ rfl).2,initial,hinitial,hle⟩

end Movie.ProjectionAtLeastOnce
