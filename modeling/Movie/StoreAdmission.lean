import Mathlib.Data.Int.Notation
import Mathlib.Data.List.Nodup
import Movie.Reachability

/-!
# Admission to the SQLite store

`SQLiteDurableStateStore._submit` and `_projection_operation` share one capacity. Each section under
the lock is one step, and so is the settlement of a result, which follows the release.
-/
namespace Movie.StoreAdmission

open Reachability

inductive State
 | new | starting | running | stopping | stopped
 deriving DecidableEq

/-- Why a submission is refused; the last two are raised by the shared pool. -/
inductive Refusal
 | notAccepting | operationsFull | bytesFull | commandsFull | poolFailed
 deriving DecidableEq

structure Limits where
 operationCapacity:ℕ
 pendingByteCapacity:ℕ

/-- `inside` counts the projection operations in their body, `released` lists the sources
 whose `complete` has left the lock and `settled` the results that were set. -/
structure Store where
 state:State:=.new
 pending:List (ℕ×ℕ):=[]
 pendingBytes:ℤ:=0
 internalOperations:ℤ:=0
 submitted:ℕ:=0
 inside:ℕ:=0
 released:List ℕ:=[]
 settled:List ℕ:=[]

variable (limits:Limits)

def Store.full (s:Store):Prop:=
 (limits.operationCapacity:ℤ) ≤ s.pending.length+s.internalOperations

instance (s:Store):Decidable (s.full limits):=inferInstanceAs (Decidable (_ ≤ _))

def submit (s:Store) (retained:ℕ) (pool:Option Refusal):Except Refusal Store:=
 if s.state≠.running then .error .notAccepting
 else if s.full limits then .error .operationsFull
 else if limits.pendingByteCapacity<s.pendingBytes+retained then .error .bytesFull
 else match pool with
  | some refusal=>.error refusal
  | none=>.ok { s with pending:=s.pending++[(s.submitted,retained)]
                       pendingBytes:=s.pendingBytes+retained
                       submitted:=s.submitted+1 }

def enter (s:Store):Except Refusal Store:=
 if s.state≠.running ∧ s.state≠.stopping then .error .notAccepting
 else if s.full limits then .error .operationsFull
 else .ok { s with internalOperations:=s.internalOperations+1, inside:=s.inside+1 }

inductive Event
 | submit (retained:ℕ) (pool:Option Refusal)
 | complete (source:ℕ)
 | settle (source:ℕ)
 | enter
 | leave
 | move (state:State)

/-- `complete` runs once for each source and a projection operation leaves once; the other
 sections of the store only move its state. -/
def step (s:Store):Event → Store → Prop
 | .submit retained pool,t=>t=(submit limits s retained pool).toOption.getD s
 | .complete source,t=>∃(before:List (ℕ×ℕ)) (retained:ℕ) (after:List (ℕ×ℕ)),
  s.pending=before++(source,retained)::after ∧
   t={ s with pending:=before++after
              pendingBytes:=s.pendingBytes-retained
              released:=s.released++[source] }
 | .settle source,t=>∃before after,s.released=before++source::after ∧
   t={ s with released:=before++after, settled:=s.settled++[source] }
 | .enter,t=>t=(enter limits s).toOption.getD s
 | .leave,t=>0<s.inside ∧
   t={ s with internalOperations:=s.internalOperations-1, inside:=s.inside-1 }
 | .move state,t=>t={ s with state:=state }

def store : System Store Event where
 init s:=s={}
 step:=step limits

def retainedBytes : List (ℕ×ℕ) → ℕ
 | []=>0
 | entry::rest=>entry.2+retainedBytes rest

lemma retainedBytes_append (first second:List (ℕ×ℕ)):
  retainedBytes (first++second)=retainedBytes first+retainedBytes second:=by
 induction first with
 | nil=>simp [retainedBytes]
 | cons entry first ih=>rw [List.cons_append,retainedBytes,ih,retainedBytes,Nat.add_assoc]

def Store.sources (s:Store):List ℕ:=s.pending.map (·.1)++(s.released++s.settled)

structure Accounted (s:Store):Prop where
 bytes:s.pendingBytes=retainedBytes s.pending
 byteCapacity:s.pendingBytes ≤ limits.pendingByteCapacity
 internal:s.internalOperations=s.inside
 capacity:s.pending.length+s.internalOperations ≤ limits.operationCapacity
 sources:s.sources.Perm (List.range s.submitted)

variable {limits} {s t:Store}

lemma submit_accounted {retained:ℕ} {pool:Option Refusal} (h:Accounted limits s)
  (ht:submit limits s retained pool=.ok t):Accounted limits t:=by
 unfold submit at ht
 split_ifs at ht with _ hfull hbytes
 rw [Store.full] at hfull
 cases pool with
 | some refusal=>cases ht
 | none=>
  cases ht
  refine ⟨?_,by simpa using hbytes,h.internal,?_,?_⟩
  · simp [retainedBytes_append,retainedBytes,h.bytes]
  · simp only [List.length_append,List.length_singleton]
    omega
  · simp only [Store.sources,List.map_append,List.map_singleton,List.append_assoc]
    rw [List.range_succ]
    exact List.perm_middle.trans ((h.sources.cons _).trans (List.perm_append_singleton _ _).symm)

lemma enter_accounted (h:Accounted limits s) (ht:enter limits s=.ok t):
  Accounted limits t:=by
 unfold enter at ht
 split_ifs at ht with _ hfull
 rw [Store.full] at hfull
 cases ht
 have hinternal:=h.internal
 exact ⟨h.bytes,h.byteCapacity,by simp [hinternal],by dsimp only; omega,h.sources⟩

lemma accounted_of_toOption {result:Except Refusal Store} (h:Accounted limits s)
  (hok:∀t,result=.ok t → Accounted limits t):Accounted limits (result.toOption.getD s):=by
 cases result with
 | error refusal=>exact h
 | ok t=>exact hok t rfl

lemma accounted_step {event:Event} (h:Accounted limits s) (ht:step limits s event t):
  Accounted limits t:=by
 cases event with
 | submit retained pool=>
  subst ht
  exact accounted_of_toOption h fun _=>submit_accounted h
 | enter=>
  subst ht
  exact accounted_of_toOption h fun _=>enter_accounted h
 | move state=>
  subst ht
  exact ⟨h.bytes,h.byteCapacity,h.internal,h.capacity,h.sources⟩
 | leave=>
  obtain ⟨hinside,rfl⟩:=ht
  have hinternal:=h.internal
  have hcapacity:=h.capacity
  exact ⟨h.bytes,h.byteCapacity,by dsimp only; omega,by dsimp only; omega,h.sources⟩
 | complete source=>
  obtain ⟨before,retained,after,hpending,rfl⟩:=ht
  have hbytes:=h.bytes
  have hlimit:=h.byteCapacity
  have hcapacity:=h.capacity
  have hsources:=h.sources
  simp only [Store.sources,hpending,retainedBytes_append,retainedBytes,List.length_append,
   List.length_cons,List.map_append,List.map_cons] at hbytes hcapacity hsources
  refine ⟨?_,by dsimp only; omega,h.internal,?_,?_⟩
  · simp only [retainedBytes_append]
    omega
  · simp only [List.length_append]
    omega
  · refine List.Perm.trans ?_ hsources
    simp only [Store.sources,List.map_append,List.append_assoc]
    refine List.Perm.append_left _ ?_
    rw [List.cons_append]
    grind
 | settle source=>
  obtain ⟨before,after,hreleased,rfl⟩:=ht
  refine ⟨h.bytes,h.byteCapacity,h.internal,h.capacity,List.Perm.trans ?_ h.sources⟩
  simp only [Store.sources,hreleased,List.append_assoc,List.cons_append]
  refine List.Perm.append_left _ (List.Perm.append_left _ ?_)
  grind

lemma accounted (h:(store limits).Reachable s):Accounted limits s:=by
 refine h.invariant (I := Accounted limits) ?_ fun s event t _ h ht=>accounted_step h ht
 rintro s rfl
 exact ⟨rfl,by simp,rfl,by simp,.nil⟩

lemma erase_of_nodup {α:Type} [BEq α] [LawfulBEq α] {before after:List α} {a:α}
  (h:(before++a::after).Nodup):(before++a::after).erase a=before++after:=by
 have hnot:a∉before:=fun hmem=>List.disjoint_of_nodup_append h hmem (by simp)
 rw [List.erase_append_right _ hnot,List.erase_cons_head]

/-- Completing a source gives back the bytes that were retained for it. -/
lemma Accounted.complete_iff (h:Accounted limits s) {source retained:ℕ}
  (hmem:(source,retained)∈s.pending):step limits s (.complete source) t ↔
   t={ s with pending:=s.pending.erase (source,retained)
              pendingBytes:=s.pendingBytes-retained
              released:=s.released++[source] }:=by
 have hnodup:(s.pending.map (·.1)).Nodup:=
  (List.nodup_append.mp (h.sources.nodup_iff.mpr List.nodup_range)).1
 constructor
 · rintro ⟨before,bytes,after,hpending,rfl⟩
   have hsame:(source,bytes)=(source,retained):=
    List.inj_on_of_nodup_map hnodup (by simp [hpending]) hmem rfl
   cases hsame
   rw [hpending,erase_of_nodup (hpending▸List.Nodup.of_map _ hnodup)]
 · rintro rfl
   obtain ⟨before,after,hpending⟩:=List.append_of_mem hmem
   exact ⟨before,retained,after,hpending,
    by rw [hpending,erase_of_nodup (hpending▸List.Nodup.of_map _ hnodup)]⟩

lemma Accounted.settle_iff (h:Accounted limits s) {source:ℕ} (hmem:source∈s.released):
  step limits s (.settle source) t ↔
   t={ s with released:=s.released.erase source, settled:=s.settled++[source] }:=by
 have hnodup:s.released.Nodup:=
  (List.nodup_append.mp (List.nodup_append.mp (h.sources.nodup_iff.mpr List.nodup_range)).2.1).1
 constructor
 · rintro ⟨before,after,hreleased,rfl⟩
   rw [hreleased,erase_of_nodup (hreleased▸hnodup)]
 · rintro rfl
   obtain ⟨before,after,hreleased⟩:=List.append_of_mem hmem
   exact ⟨before,after,hreleased,by rw [hreleased,erase_of_nodup (hreleased▸hnodup)]⟩

/-- A source is settled after it was released and released by its completion. -/
lemma step_order {event:Event} (ht:step limits s event t):
  (∀source∈t.released,source∈s.released ∨
   event=.complete source ∧ source∈s.pending.map (·.1)) ∧
  (t.settled=s.settled ∨
   ∃source∈s.released,event=.settle source ∧ t.settled=s.settled++[source]):=by
 cases event with
 | submit retained pool=>
  simp only [step,submit] at ht
  split_ifs at ht <;> try cases pool
  all_goals
   subst ht
   exact ⟨fun _=>.inl,.inl rfl⟩
 | enter=>
  simp only [step,enter] at ht
  split_ifs at ht <;> exact ht▸⟨fun _=>.inl,.inl rfl⟩
 | move state=>
  subst ht
  exact ⟨fun _=>.inl,.inl rfl⟩
 | leave=>
  obtain ⟨-,rfl⟩:=ht
  exact ⟨fun _=>.inl,.inl rfl⟩
 | complete source=>
  obtain ⟨before,retained,after,hpending,rfl⟩:=ht
  refine ⟨fun other hmem=>?_,.inl rfl⟩
  rcases List.mem_append.mp hmem with hold|hnew
  · exact .inl hold
  · exact .inr ⟨by rw [List.mem_singleton.mp hnew],by simp_all⟩
 | settle source=>
  obtain ⟨before,after,hreleased,rfl⟩:=ht
  exact ⟨by grind,.inr ⟨source,by simp [hreleased],rfl,rfl⟩⟩

/-- Every submitted operation is pending, released or settled. `complete` gives its bytes back
 and releases it, and only a released operation is settled, once. -/
theorem admission_accounted (limits:Limits) (s:Store) (h:(store limits).Reachable s):
  (s.pendingBytes=retainedBytes s.pending ∧ 0 ≤ s.pendingBytes ∧
   s.pendingBytes ≤ limits.pendingByteCapacity) ∧
  (0 ≤ s.internalOperations ∧
   s.pending.length+s.internalOperations ≤ limits.operationCapacity) ∧
  ((∀source<s.submitted,(s.pending.map (·.1)).count source+s.released.count source +
    s.settled.count source=1) ∧
   (∀source retained t,(source,retained)∈s.pending → (step limits s (.complete source) t ↔
    t={ s with pending:=s.pending.erase (source,retained)
               pendingBytes:=s.pendingBytes-retained
               released:=s.released++[source] })) ∧
   (∀source∈s.released,∀t,step limits s (.settle source) t ↔
    t={ s with released:=s.released.erase source, settled:=s.settled++[source] }) ∧
   ∀event t,step limits s event t → (∀source∈t.released,source∈s.released ∨
     event=.complete source ∧ source∈s.pending.map (·.1)) ∧
    (t.settled=s.settled ∨
     ∃source∈s.released,event=.settle source ∧ t.settled=s.settled++[source])) ∧
  ∀retained pool refusal t,submit limits s retained pool=.error refusal →
   step limits s (.submit retained pool) t → t=s:=by
 have haccounted:=accounted h
 have hbytes:=haccounted.bytes
 have hinternal:=haccounted.internal
 refine ⟨⟨hbytes,by omega,haccounted.byteCapacity⟩,⟨by omega,haccounted.capacity⟩,
  ⟨fun source hsource=>?_,fun source retained t=>haccounted.complete_iff,
   fun source hmem t=>haccounted.settle_iff hmem,fun event t=>step_order⟩,?_⟩
 · have hcount:=haccounted.sources.count_eq source
   rw [List.count_range,if_pos hsource,Store.sources,
    List.count_append,List.count_append] at hcount
   omega
 · intro retained pool refusal t herror ht
   rw [step,herror] at ht
   exact ht

theorem admission_accounted_settled : ∃s t u:Store,(store ⟨1,8⟩).Reachable s ∧
  s.pendingBytes=5 ∧ step ⟨1,8⟩ s (.complete 0) t ∧ t.pendingBytes=0 ∧ t.settled=[] ∧
  step ⟨1,8⟩ t (.settle 0) u ∧ u.settled=[0]:=by
 have hstart:(store ⟨1,8⟩).Reachable {}:=.start rfl
 have hs:=(hstart.next (.move .running) rfl).next (.submit 5 none) rfl
 have hcomplete:=((admission_accounted _ _ hs).2.2.1.2.1 0 5 _ (by decide)).mpr rfl
 have ht:=hs.next (.complete 0) hcomplete
 have hsettle:=((admission_accounted _ _ ht).2.2.1.2.2.1 0 (by decide) _).mpr rfl
 exact ⟨_,_,_,hs,rfl,hcomplete,rfl,rfl,hsettle,rfl⟩

end Movie.StoreAdmission
