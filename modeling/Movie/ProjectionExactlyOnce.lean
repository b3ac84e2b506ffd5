import Movie.ProjectionRunner

/-!
# Exactly-once projections

Competing runners of one projection. The handler's writes and the move of the stored offset are one
transaction, so the read model is the fold of the handler over everything between the initial and
the stored offset.
-/
namespace Movie.ProjectionExactlyOnce

open Function DurableModel SQLiteStore DurableHistory SQLiteStoreInvariant ChangeFeed ProjectionRunner
open Reachability

universe u

variable {R:Type u}

structure Handler (R:Type u) where
 onChange:R → DurableStateChange → R
 onBatch:R → List DurableStateChange → R
 agrees:∀readModel changes,onBatch readModel changes=changes.foldl onChange readModel

/-- `apply` of `_run_exactly_once` when the handler returns: it is not called for a page
 without changes. -/
def Handler.apply (handler:Handler R) (batch:DurableStateChangeBatch) (readModel:R):
  Except StoreError R:=
 if batch.changes=[] then .ok readModel else .ok (handler.onBatch readModel batch.changes)

lemma Handler.apply_eq (handler:Handler R) (batch:DurableStateChangeBatch) (readModel:R):
  handler.apply batch readModel=.ok (batch.changes.foldl handler.onChange readModel):=by
 unfold Handler.apply
 split_ifs with hempty
 · rw [hempty]
   rfl
 · rw [handler.agrees]

/-- `origin` is the initial offset of the present registration and the read model it
 started from. -/
structure Fleet (R:Type u) where
 db:Database R
 log:List Mutation
 runners:ℕ → Option Runner
 origin:Option (ℕ×R)

/-- How a commit ends: `unlearned` is a commit that went through although the runner saw
 an error; `rolledBack` covers handlers that raise or time out, stop requests and
 database errors. -/
inductive CommitOutcome where
 | learned
 | unlearned
 | rolledBack

inductive Event (R:Type u) where
 | launch (k:ℕ) (initialOffset:Option ℕ) (limits:Limits)
 | register (k:ℕ) (learned:Bool)
 | fetch (k:ℕ) (failure:Option StoreError)
 | commit (k:ℕ) (outcome:CommitOutcome)
 | stop (k:ℕ)
 | retire
 | foreign (transaction:Transaction R)

def Fleet.setPhase (s:Fleet R) (k:ℕ) (runner:Runner) (phase:Phase):Fleet R:=
 { s with runners:=update s.runners k (some { runner with phase:=phase }) }

def originAfter (s:Fleet R) (id:ProjectionId) (offset:ℕ) (registration:Database.Registration):
  Option (ℕ×R):=
 if s.db.projections.lookup id=none ∧ registration=.ok then some (offset,s.db.readModel)
 else s.origin

def exactlyOnceSystem (settings:Settings) (projection:Projection) (handler:Handler R):
  System (Fleet R) (Event R) where
 init s:=∃readModel,s=⟨Database.create readModel,[],fun _=>none,none⟩
 step s event t:=
  match event with
  | .launch k initialOffset limits=>s.runners k=none ∧
   t=s.setPhase k ⟨initialOffset,limits,.registering⟩ .registering
  | .register k learned=>∃runner reply db,
   s.runners k=some runner ∧ runner.phase=.registering ∧
   s.db.projectionRegister projection.id projection.source .sqliteExactlyOnce
    runner.initialOffset=(reply,db) ∧
   t=Fleet.setPhase
    { s with db:=db,origin:=originAfter s projection.id reply.1 reply.2 } k runner
    (if learned then afterRegister reply else .registering)
  | .fetch k failure=>∃runner offset,
   s.runners k=some runner ∧ runner.phase=.polling offset ∧
   t=s.setPhase k runner (afterFetch offset (failure.elim
    (s.db.changesAfter settings projection.source offset runner.limits.batchSize
     runner.limits.batchBytes runner.limits.scanLimit) .error))
  | .commit k outcome=>∃runner offset batch,
   s.runners k=some runner ∧ runner.phase=.fetched offset batch ∧
   if batch.offset=offset then t=s.setPhase k runner (.polling offset)
   else match outcome with
    | .rolledBack=>t=s.setPhase k runner (.polling offset)
    | .learned=>∃reply db,
     s.db.projectionCommit projection.id offset batch.offset (handler.apply batch) =
      .ok (reply,db) ∧
     t=Fleet.setPhase { s with db:=db } k runner (afterCommit offset batch reply)
    | .unlearned=>∃reply db,
     s.db.projectionCommit projection.id offset batch.offset (handler.apply batch) =
      .ok (reply,db) ∧
     t=Fleet.setPhase { s with db:=db } k runner (.polling offset)
  | .stop k=>∃runner,s.runners k=some runner ∧ t=s.setPhase k runner (.stopped none)
  | .retire=>t={ s with
   db:=(s.db.deleteProjectionOffset projection.id).2
   origin:=none }
  | .foreign transaction=>Foreign projection.id transaction ∧ ∃reply db,
   transaction.run settings s.db=.ok (reply,db) ∧
   t={ s with db:=db,log:=s.log++transaction.logged reply }

structure Invariant (settings:Settings) (projection:Projection) (handler:Handler R)
  (s:Fleet R):Prop where
 represents:Represents settings s.db s.log
 phases:∀k runner,s.runners k=some runner →
  PhaseOk settings projection.source s.log runner.phase
 folded:∀row,s.db.projections.lookup projection.id=some row →
  ∃initial base,s.origin=some (initial,base) ∧ initial ≤ row.offset ∧
   row.offset ≤ s.log.length ∧
   s.db.readModel=(sourceWindow settings.sha256 projection.source s.log initial
    row.offset).foldl handler.onChange base

namespace Invariant

variable {settings:Settings} {projection:Projection} {handler:Handler R} {s:Fleet R}

section

variable (h:Invariant settings projection handler s)
include h

lemma setPhase (k:ℕ) (runner:Runner)
  {phase:Phase} (hphase:PhaseOk settings projection.source s.log phase):
  Invariant settings projection handler (s.setPhase k runner phase) where
 represents:=h.represents
 phases k' runner' hrunner':=by
  change update s.runners k _ k'=some runner' at hrunner'
  by_cases hk:k'=k
  · subst hk
    rw [update_self] at hrunner'
    obtain rfl:=Option.some.inj hrunner'
    exact hphase
  · rw [update_of_ne hk] at hrunner'
    exact h.phases k' runner' hrunner'
 folded:=h.folded

lemma register {mode:ProcessingMode}
  {initialOffset:Option ℕ} {reply:ℕ×Database.Registration} {db:Database R}
  (hrun:s.db.projectionRegister projection.id projection.source mode initialOffset =
   (reply,db)):Invariant settings projection handler
   { s with db:=db,origin:=originAfter s projection.id reply.1 reply.2 } ∧
  PhaseOk settings projection.source s.log (afterRegister reply):=by
 obtain ⟨hphase,⟨rfl,hnot⟩|⟨hnew,hle,hrep,rfl⟩⟩:=register_cases h.represents (fun row hrow=>by
  obtain ⟨_,_,_,_,hle,_⟩:=h.folded row hrow
  exact hle) hrun
 · have horigin:originAfter s projection.id reply.1 reply.2=s.origin:=if_neg hnot
   rw [horigin]
   exact ⟨h,hphase⟩
 · refine ⟨⟨hrep,h.phases,?_⟩,hphase⟩
   intro row hrow
   change (s.db.projections.insert projection.id _).lookup projection.id=some row at hrow
   rw [AList.lookup_insert] at hrow
   cases hrow
   refine ⟨reply.1,s.db.readModel,if_pos hnew,Nat.le_refl _,hle,?_⟩
   rw [sourceWindow_of_le (Nat.le_refl _)]
   rfl

lemma commit {offset:ℕ} {batch:DurableStateChangeBatch}
  (hbatch:PhaseOk settings projection.source s.log (.fetched offset batch))
  {reply:Bool×ℤ} {db:Database R}
  (hrun:s.db.projectionCommit projection.id offset batch.offset (handler.apply batch) =
   .ok (reply,db)):Invariant settings projection handler { s with db:=db }:=by
 rcases Database.projectionCommit_cases hrun with
  ⟨_,rfl⟩|⟨_,row,readModel,hrow,rfl,happly,rfl⟩
 · exact h
 · obtain ⟨hle,hlength,hchanges⟩:=hbatch
   refine ⟨h.represents.same ⟨rfl,rfl,rfl,rfl,rfl,rfl⟩,h.phases,?_⟩
   intro row' hrow'
   change (s.db.projections.insert projection.id _).lookup projection.id=some row' at hrow'
   rw [AList.lookup_insert] at hrow'
   obtain rfl:=Option.some.inj hrow'
   obtain ⟨initial,base,horigin,hinitial,_,hfold⟩:=h.folded row hrow
   refine ⟨initial,base,horigin,hinitial.trans hle,hlength,?_⟩
   rw [handler.apply_eq,hfold,hchanges,←List.foldl_append,
    sourceWindow_append _ _ hinitial hle hlength] at happly
   exact (Except.ok.inj happly).symm

lemma foreign {transaction:Transaction R}
  (hforeign:Foreign projection.id transaction) {reply:Reply} {db:Database R}
  (hrun:transaction.run settings s.db=.ok (reply,db)):Invariant settings projection handler
   { s with db:=db,log:=s.log++transaction.logged reply }:=by
 obtain ⟨hlookup,hmodel⟩:=hforeign.unchanged hrun
 refine ⟨h.represents.run hrun,fun k runner hk=>(h.phases k runner hk).grow _,?_⟩
 intro row hrow
 obtain ⟨initial,base,horigin,hinitial,hle,hfold⟩:=h.folded row (hlookup▸hrow)
 refine ⟨initial,base,horigin,hinitial,?_,?_⟩
 · change row.offset≤(s.log++_).length
   rw [List.length_append]
   exact Nat.le_add_right_of_le hle
 · change db.readModel=_
   rw [hmodel,sourceWindow_grow _ _ _ _ hle]
   exact hfold

lemma step {event:Event R} {t:Fleet R}
  (hstep:(exactlyOnceSystem settings projection handler).step s event t):
  Invariant settings projection handler t:=by
 cases event with
 | launch k initialOffset limits=>
  obtain ⟨_,rfl⟩:=hstep
  exact h.setPhase k _ trivial
 | register k learned=>
  obtain ⟨runner,reply,db,_,_,hrun,rfl⟩:=hstep
  obtain ⟨hregistered,hphase⟩:=h.register hrun
  refine hregistered.setPhase k runner ?_
  cases learned with
  | true=>exact hphase
  | false=>trivial
 | fetch k failure=>
  obtain ⟨runner,offset,hk,hpolling,rfl⟩:=hstep
  have hoffset:=h.phases k runner hk
  rw [hpolling] at hoffset
  exact h.setPhase k runner (afterFetch_ok h.represents _ hoffset _ failure)
 | commit k outcome=>
  obtain ⟨runner,offset,batch,hk,hfetched,hstep⟩:=hstep
  have hbatch:=h.phases k runner hk
  rw [hfetched] at hbatch
  have hpolling:PhaseOk settings projection.source s.log (.polling offset):=
   hbatch.1.trans hbatch.2.1
  split_ifs at hstep with hsame
  · obtain rfl:=hstep
    exact h.setPhase k runner hpolling
  · cases outcome with
    | rolledBack=>
     obtain rfl:=hstep
     exact h.setPhase k runner hpolling
    | learned=>
     obtain ⟨reply,db,hrun,rfl⟩:=hstep
     refine (h.commit hbatch hrun).setPhase k runner ?_
     unfold afterCommit
     split_ifs
     · exact hbatch.2.1
     · trivial
    | unlearned=>
     obtain ⟨reply,db,hrun,rfl⟩:=hstep
     exact (h.commit hbatch hrun).setPhase k runner hpolling
 | stop k=>
  obtain ⟨runner,_,rfl⟩:=hstep
  exact h.setPhase k runner trivial
 | retire=>
  obtain rfl:=hstep
  refine ⟨h.represents.same ⟨rfl,rfl,rfl,rfl,rfl,rfl⟩,h.phases,?_⟩
  intro row hrow
  change (s.db.projections.erase projection.id).lookup projection.id=some row at hrow
  rw [AList.lookup_erase] at hrow
  cases hrow
 | foreign transaction=>
  obtain ⟨hforeign,reply,db,hrun,rfl⟩:=hstep
  exact h.foreign hforeign hrun

end

end Invariant

/-- Exactly once. In every reachable database the read model is the fold of the handler,
 from where the registration found it, over all changes of the source with offset in
 `(initial offset, stored offset]`, each once and in offset order. -/
theorem exactly_once_fold (settings:Settings) (projection:Projection) (handler:Handler R)
  {s:Fleet R} (h:(exactlyOnceSystem settings projection handler).Reachable s)
  {row:ProjectionRow} (hrow:s.db.projections.lookup projection.id=some row):
  ∃initial base,s.origin=some (initial,base) ∧ initial ≤ row.offset ∧
   row.offset ≤ s.db.highWatermark ∧
   s.db.readModel=((journal settings.sha256 s.log).filter fun change=>
    projection.source.selects change ∧ initial<change.offset ∧
     change.offset ≤ row.offset).foldl handler.onChange base:=by
 have hinv:Invariant settings projection handler s:=by
  refine h.invariant (I := Invariant settings projection handler) ?_
   fun s a t _ hs hstep=>hs.step hstep
  rintro _ ⟨readModel,rfl⟩
  refine ⟨Represents.create settings readModel,?_,?_⟩
  · intro k runner hk
    cases hk
  · intro row hrow
    cases hrow
 obtain ⟨initial,base,horigin,hinitial,hle,hfold⟩:=hinv.folded row hrow
 refine ⟨initial,base,horigin,hinitial,?_,?_⟩
 · rw [hinv.represents.highWatermark]
   exact hle
 · rw [hfold,sourceWindow_eq_filter]

def countingHandler : Handler ℕ where
 onChange count _:=count+1
 onBatch count changes:=changes.foldl (fun count _=>count+1) count
 agrees _ _:=rfl

theorem exactly_once_counts_one_change : ∃(s:Fleet ℕ) (row:ProjectionRow),
  s.db.projections.lookup cartProjection=some row ∧ row.offset=1 ∧ s.db.readModel=1 ∧
  ∃initial base,s.origin=some (initial,base) ∧
   s.db.readModel=((journal plainSettings.sha256 s.log).filter fun change=>
    cartSource.selects change ∧ initial<change.offset ∧
     change.offset ≤ row.offset).foldl countingHandler.onChange base:=by
 have h₀:(exactlyOnceSystem plainSettings ⟨cartProjection,cartSource⟩ countingHandler).Reachable
  (⟨Database.create 0,[],fun _=>none,none⟩:Fleet ℕ):=.start ⟨0,rfl⟩
 have h₁:=h₀.next (.foreign (.upsert cartId 0 ⟨⟨1,by decide⟩⟩ (cartState 7) 5))
  ⟨trivial,_,_,rfl,rfl⟩
 have h₂:=h₁.next (.launch 0 none ⟨10,1024,10,by decide⟩) ⟨rfl,rfl⟩
 have h₃:=h₂.next (.register 0 true) ⟨_,_,_,rfl,rfl,rfl,rfl⟩
 have h₄:=h₃.next (.fetch 0 none) ⟨_,_,rfl,rfl,rfl⟩
 have h₅:=h₄.next (.commit 0 .unlearned) ⟨_,_,_,rfl,rfl,⟨_,_,rfl,rfl⟩⟩
 obtain ⟨initial,base,horigin,_,_,hfold⟩:=
  exactly_once_fold plainSettings ⟨cartProjection,cartSource⟩ countingHandler h₅ rfl
 exact ⟨_,_,rfl,rfl,rfl,initial,base,horigin,hfold⟩

end Movie.ProjectionExactlyOnce
