import Movie.Reachability
import Mathlib.Tactic.Ring

/-!
# Futures and their callbacks

`RuntimeFuture` of `future.py`, called by any threads; a drain that was submitted is run at some
time. A step is one section under the lock or one call of a callback, which may raise. Hooks are
left out.
-/
namespace Movie.Futures

open Reachability

inductive State
 | pending | running | cancelled | cancelledAndNotified | finished
 deriving DecidableEq

def State.done : State → Bool
 | .pending | .running=>false
 | .cancelled | .cancelledAndNotified | .finished=>true

/-- What a thread has still to do: the call of `_invoke_callbacks` that follows a settlement, its
 internal callbacks and then the drain, or one of the points of a drain. -/
inductive Task
 | settled
 | internal (left:List ℕ) (start:Bool)
 | submitting
 | queued
 | looping
 | calling (callback:ℕ)
 deriving DecidableEq

/-- The fields after `tasks` record which callbacks were added and run. -/
structure Future where
 state:State:=.pending
 doneCallbacks:List ℕ:=[]
 internalCallbacks:List ℕ:=[]
 pendingCallbacks:List ℕ:=[]
 callbacksStarted:Bool:=false
 callbackDraining:Bool:=false
 tasks:List Task:=[]
 users:List ℕ:=[]
 begun:List ℕ:=[]
 internals:List ℕ:=[]
 ran:List ℕ:=[]

namespace Future

def addDoneCallback (f:Future) (callback:ℕ):Future:=
 let f:={ f with users:=f.users++[callback] }
 if f.state.done && f.callbacksStarted then
  { f with pendingCallbacks:=f.pendingCallbacks++[callback]
           callbackDraining:=true
           tasks:=if f.callbackDraining then f.tasks else .submitting::f.tasks }
 else { f with doneCallbacks:=f.doneCallbacks++[callback] }

def addInternalDoneCallback (f:Future) (callback:ℕ):Future:=
 let f:={ f with internals:=f.internals++[callback] }
 if f.state.done && f.callbacksStarted then { f with tasks:=.internal [callback] false::f.tasks }
 else { f with internalCallbacks:=f.internalCallbacks++[callback] }

/-- `set_result` and `set_exception`; they raise where nothing changes. -/
def settle (f:Future):Future:=
 if f.state.done then f else { f with state:=.finished, tasks:=.settled::f.tasks }

def cancel (cancellable:Bool) (f:Future):Future:=
 if cancellable && f.state=.pending then { f with state:=.cancelled, tasks:=.settled::f.tasks }
 else f

def setRunningOrNotifyCancel (f:Future):Future:=
 match f.state with
 | .pending=>{ f with state:=.running }
 | .cancelled=>{ f with state:=.cancelledAndNotified }
 | .running | .cancelledAndNotified | .finished=>f

/-- What one task does next, and what is left of it. -/
def work (f:Future):Task → Future×Option Task
 | .settled=>
  if f.callbacksStarted then (f,none)
  else
   let pending:=f.pendingCallbacks++f.doneCallbacks
   let start:=!pending.isEmpty && !f.callbackDraining
   ({ f with callbacksStarted:=true
             pendingCallbacks:=pending
             callbackDraining:=f.callbackDraining || start },
    some (.internal f.internalCallbacks start))
 | .internal (callback::left) start=>({ f with ran:=f.ran++[callback] },some (.internal left start))
 | .internal [] start=>(f,if start then some .queued else none)
 | .submitting=>(f,some .queued)
 | .queued=>(f,some .looping)
 | .looping=>
  match f.pendingCallbacks with
  | []=>({ f with callbackDraining:=false },none)
  | callback::rest=>
   ({ f with pendingCallbacks:=rest, begun:=f.begun++[callback] },some (.calling callback))
 | .calling _=>(f,some .looping)

end Future

inductive Event
 | addDoneCallback (callback:ℕ)
 | addInternalDoneCallback (callback:ℕ)
 | settle
 | cancel
 | setRunningOrNotifyCancel
 | work (task:Task)

def future (cancellable:Bool):System Future Event where
 init f:=f={}
 step f event t:=match event with
  | .addDoneCallback callback=>t=f.addDoneCallback callback
  | .addInternalDoneCallback callback=>t=f.addInternalDoneCallback callback
  | .settle=>t=f.settle
  | .cancel=>t=f.cancel cancellable
  | .setRunningOrNotifyCancel=>t=f.setRunningOrNotifyCancel
  | .work task=>∃before after,f.tasks=before++task::after ∧
   t={ (f.work task).1 with tasks:=before++((f.work task).2.toList++after) }

/-- A task that drains the callbacks, or will. -/
def Task.drains : Task → ℕ
 | .settled=>0
 | .internal _ start=>start.toNat
 | .submitting | .queued | .looping | .calling _=>1

def Task.settles (task:Task):ℕ:=if task=.settled then 1 else 0

def Task.left : Task → List ℕ
 | .internal left _=>left
 | _=>[]

def Task.calls : Task → Bool
 | .calling _=>true
 | _=>false

structure Sound (f:Future):Prop where
 drains:(f.tasks.map Task.drains).sum=f.callbackDraining.toNat
 settles:(f.tasks.map Task.settles).sum+f.callbacksStarted.toNat=f.state.done.toNat
 users:f.users=f.begun++(f.pendingCallbacks++bif f.callbacksStarted then [] else f.doneCallbacks)
 draining:f.pendingCallbacks≠[] → f.callbackDraining=true
 unstarted:f.callbacksStarted=false →
  (∀task∈f.tasks,task=.settled) ∧ f.callbackDraining=false ∧
   f.begun=[] ∧ f.pendingCallbacks=[] ∧ f.ran=[]
 counted:∀callback,f.internals.count callback=f.ran.count callback +
  (f.tasks.flatMap Task.left).count callback +
   (bif f.callbacksStarted then [] else f.internalCallbacks).count callback

section

variable {f:Future} {task:Task} {before after:List Task}

lemma Sound.started (h:Sound f) (hmem:task∈f.tasks) (hne:task≠.settled):f.callbacksStarted=true:=by
 by_contra hnot
 exact hne ((h.unstarted (by simpa using hnot)).1 task hmem)

/-- A task that goes on without the lock. -/
lemma Sound.replace (h:Sound f) (htasks:f.tasks=before++task::after) (hne:task≠.settled)
  (next:Option Task) (hdrains:(next.toList.map Task.drains).sum=task.drains)
  (hsettles:(next.toList.map Task.settles).sum=0) (hleft:next.toList.flatMap Task.left=task.left):
  Sound { f with tasks:=before++(next.toList++after) }:=by
 have hs:=h.started (by simp [htasks]) hne
 obtain ⟨hdrains',hsettles',husers,hdraining,-,hcounted⟩:=h
 refine ⟨?_,?_,husers,hdraining,fun hnot=>(by cases hs.symm.trans hnot),?_⟩
 · simpa [htasks,hdrains] using hdrains'
 · simpa [htasks,hsettles,hne,Task.settles] using hsettles'
 · simpa [htasks,hleft] using hcounted

lemma Sound.work (h:Sound f) (htasks:f.tasks=before++task::after):
  Sound { (f.work task).1 with tasks:=before++((f.work task).2.toList++after) }:=by
 have hmem:task∈f.tasks:=by simp [htasks]
 have hstarted:=h.started hmem
 cases task with
 | submitting | queued | calling callback=>exact h.replace htasks nofun (some _) rfl rfl rfl
 | internal left start=>
  cases left with
  | nil=>cases start <;> exact h.replace htasks nofun _ rfl rfl rfl
  | cons callback left=>
   obtain ⟨hdrains,hsettles,husers,hdraining,-,hcounted⟩:=h
   refine ⟨?_,?_,husers,hdraining,fun hnot=>(by cases (hstarted nofun).symm.trans hnot),fun other=>?_⟩
   · simpa [Future.work,htasks,Task.drains] using hdrains
   · simpa [Future.work,htasks,Task.settles] using hsettles
   · have hone:=hcounted other
     simp [Future.work,htasks,Task.left,List.count_cons] at hone ⊢
     omega
 | settled=>
  obtain ⟨hdrains,hsettles,husers,-,hunstarted,hcounted⟩:=h
  simp only [htasks,List.map_append,List.map_cons,List.sum_append,List.sum_cons,
   List.flatMap_append,List.flatMap_cons,List.count_append] at hdrains hsettles hcounted
  have hnot:f.callbacksStarted=false:=by
   have hle:=Bool.toNat_le f.state.done
   cases hs:f.callbacksStarted with
   | false=>rfl
   | true=>
    simp only [hs,Task.settles,if_true,Bool.toNat_true] at hsettles
    omega
  have hidle:=(hunstarted hnot).2.1
  refine ⟨?_,?_,?_,?_,?_,fun callback=>?_⟩
  · simp [Future.work,hnot,hidle,Task.drains] at hdrains ⊢
    omega
  · simp [Future.work,hnot,Task.settles] at hsettles ⊢
    omega
  · simp [Future.work,hnot,husers]
  · simp [Future.work,hnot,hidle]
  · simp [Future.work,hnot]
  · have hone:=hcounted callback
    simp [Future.work,hnot,Task.left] at hone ⊢
    omega
 | looping=>
  have hs:=hstarted nofun
  obtain ⟨hdrains,hsettles,husers,hdraining,-,hcounted⟩:=h
  simp only [htasks,List.map_append,List.map_cons,List.sum_append,List.sum_cons,
   List.flatMap_append,List.flatMap_cons] at hdrains hsettles hcounted
  cases hpending:f.pendingCallbacks with
  | nil=>
   have hle:=Bool.toNat_le f.callbackDraining
   refine ⟨?_,?_,?_,?_,fun hnot=>?_,?_⟩
   · simp [Future.work,hpending,Task.drains] at hdrains ⊢
     omega
   · simpa [Future.work,hpending,Task.settles] using hsettles
   · simpa [Future.work,hpending,hs] using husers
   · simp [Future.work,hpending]
   · simp [Future.work,hpending,hs] at hnot
   · simpa [Future.work,hpending,Task.left] using hcounted
  | cons callback rest=>
   refine ⟨?_,?_,?_,fun _=>?_,fun hnot=>?_,?_⟩
   · simpa [Future.work,hpending,Task.drains] using hdrains
   · simpa [Future.work,hpending,Task.settles] using hsettles
   · simpa [Future.work,hpending,hs] using husers
   · simpa [Future.work,hpending] using hdraining
   · simp [Future.work,hpending,hs] at hnot
   · simpa [Future.work,hpending,Task.left] using hcounted

end

lemma Sound.done {f:Future} (h:Sound f) (hstarted:f.callbacksStarted=true):
  f.state.done=true:=by
 have hsettles:=h.settles
 cases hdone:f.state.done with
 | true=>rfl
 | false=>simp [hstarted,hdone] at hsettles

lemma Sound.settled {f:Future} {state:State} (h:Sound f) (hbefore:f.state.done=false)
  (hafter:state.done=true):Sound { f with state:=state, tasks:=.settled::f.tasks }:=by
 have hnot:f.callbacksStarted=false:=by
  by_contra hs
  cases hbefore.symm.trans (h.done (by simpa using hs))
 obtain ⟨hdrains,hsettles,husers,hdraining,hunstarted,hcounted⟩:=h
 refine ⟨?_,?_,husers,hdraining,fun hs=>⟨?_,(hunstarted hs).2⟩,?_⟩
 · simpa [Task.drains] using hdrains
 · simp [hnot,hbefore,hafter,Task.settles] at hsettles ⊢
   exact hsettles
 · simpa using (hunstarted hs).1
 · simpa [Task.left] using hcounted

lemma Sound.step {cancellable:Bool} {f t:Future} {event:Event} (h:Sound f)
  (hstep:(future cancellable).step f event t):Sound t:=by
 cases event with
 | work task=>
  obtain ⟨before,after,htasks,rfl⟩:=hstep
  exact h.work htasks
 | addDoneCallback callback=>
  cases hstep
  have hdone:=h.done
  obtain ⟨hdrains,hsettles,husers,hdraining,hunstarted,hcounted⟩:=h
  unfold Future.addDoneCallback
  dsimp only
  split
  · rename_i hstarted
    have hs:=(Bool.and_eq_true_iff.mp hstarted).2
    refine ⟨?_,?_,by simp [husers,hs],fun _=>rfl,fun hnot=>(by cases hs.symm.trans hnot),?_⟩
    · cases hd:f.callbackDraining <;> simpa [hd,Task.drains] using hdrains
    · cases hd:f.callbackDraining <;> simpa [hd,Task.settles] using hsettles
    · cases hd:f.callbackDraining <;> simpa [hd,Task.left] using hcounted
  · rename_i hstarted
    have hs:f.callbacksStarted=false:=Bool.eq_false_iff.mpr fun hs=>
     hstarted (Bool.and_eq_true_iff.mpr ⟨hdone hs,hs⟩)
    exact ⟨hdrains,hsettles,by simp [husers,hs],hdraining,hunstarted,hcounted⟩
 | addInternalDoneCallback callback=>
  cases hstep
  have hdone:=h.done
  obtain ⟨hdrains,hsettles,husers,hdraining,hunstarted,hcounted⟩:=h
  unfold Future.addInternalDoneCallback
  dsimp only
  split
  · rename_i hstarted
    have hs:=(Bool.and_eq_true_iff.mp hstarted).2
    refine ⟨by simpa [Task.drains] using hdrains,by simpa [Task.settles] using hsettles,husers,
     hdraining,fun hnot=>(by cases hs.symm.trans hnot),fun other=>?_⟩
    have hone:=hcounted other
    simp [hs,Task.left,List.count_cons] at hone ⊢
    omega
  · rename_i hstarted
    have hs:f.callbacksStarted=false:=Bool.eq_false_iff.mpr fun hs=>
     hstarted (Bool.and_eq_true_iff.mpr ⟨hdone hs,hs⟩)
    refine ⟨hdrains,hsettles,husers,hdraining,hunstarted,fun other=>?_⟩
    have hone:=hcounted other
    simp [hs] at hone ⊢
    omega
 | settle=>
  cases hstep
  unfold Future.settle
  split_ifs with hdone
  · exact h
  · exact h.settled (by simpa using hdone) rfl
 | cancel=>
  cases hstep
  unfold Future.cancel
  split_ifs with hcancel
  · exact h.settled (by simp_all [State.done]) rfl
  · exact h
 | setRunningOrNotifyCancel=>
  cases hstep
  unfold Future.setRunningOrNotifyCancel
  split
  case h_1 hstate | h_2 hstate=>
   exact ⟨h.drains,by simpa [hstate,State.done] using h.settles,h.users,h.draining,h.unstarted,
    h.counted⟩
  all_goals exact h

lemma reachable_sound {cancellable:Bool} {f:Future} (h:(future cancellable).Reachable f):Sound f:=by
 refine h.invariant ?_ fun _ _ _ _ hs hstep=>hs.step hstep
 rintro _ rfl
 exact ⟨rfl,rfl,rfl,nofun,by simp,by simp⟩

/-- What the tasks have still to do at most. -/
def Task.duty : Task → ℕ
 | .settled=>4
 | .internal left start=>left.length+1+2*start.toNat
 | .submitting=>3
 | .queued | .calling _=>2
 | .looping=>1

def Future.duty (f:Future):ℕ:=
 (f.tasks.map Task.duty).sum+2*f.pendingCallbacks.length +
  bif f.callbacksStarted then 0 else 2*f.doneCallbacks.length+f.internalCallbacks.length

lemma duty_work {f:Future} {task:Task} {before after:List Task}
  (htasks:f.tasks=before++task::after):Future.duty { (f.work task).1 with
   tasks:=before++((f.work task).2.toList++after) }<f.duty:=by
 simp only [Future.duty,htasks,List.map_append,List.map_cons,List.sum_append,List.sum_cons]
 cases task with
 | settled=>
  cases hs:f.callbacksStarted with
  | true=>simp [Future.work,hs,Task.duty]
  | false=>
   have hle:=Bool.toNat_le (!(f.pendingCallbacks++f.doneCallbacks).isEmpty && !f.callbackDraining)
   simp only [Future.work,hs,Bool.false_eq_true,if_false,Option.toList_some,List.map_cons,
    List.map_nil,List.sum_cons,List.sum_nil,Task.duty,List.length_append,cond_true,cond_false]
   omega
 | internal left start=>
  cases left with
  | nil=>cases start <;> simp [Future.work,Task.duty]
  | cons callback left=>simp [Future.work,Task.duty]
 | submitting | queued | calling callback=>simp [Future.work,Task.duty]
 | looping=>
  cases hpending:f.pendingCallbacks with
  | nil=>simp [Future.work,hpending,Task.duty]
  | cons callback rest=>
   simp [Future.work,hpending,Task.duty]
   omega

lemma countP_calls_le (tasks:List Task):
  tasks.countP Task.calls ≤ (tasks.map Task.drains).sum:=by
 induction tasks with
 | nil=>exact Nat.le_refl _
 | cons task tasks ih=>
  rw [List.countP_cons,List.map_cons,List.sum_cons]
  cases task <;> simp [Task.calls,Task.drains] <;> omega

/-- User callbacks run one at a time and in the order in which they were added, none before the
 future is done, and no internal callback runs more often than it was added. -/
theorem callbacks_run_in_order {cancellable:Bool} {f:Future} (h:(future cancellable).Reachable f):
  f.begun<+:f.users ∧ f.tasks.countP Task.calls ≤ 1 ∧
  (f.begun≠[] ∨ f.ran≠[] → f.state.done=true) ∧
  ∀callback,f.ran.count callback ≤ f.internals.count callback:=by
 have hsound:=reachable_sound h
 refine ⟨hsound.users▸List.prefix_append _ _,?_,fun hran=>?_,fun callback=>?_⟩
 · exact Nat.le_trans (countP_calls_le f.tasks) (hsound.drains▸Bool.toNat_le _)
 · refine hsound.done (by_contra fun hnot=>?_)
   obtain ⟨-,-,hbegun,-,hnone⟩:=hsound.unstarted (by simpa using hnot)
   exact hran.elim (· hbegun) (· hnone)
 · rw [hsound.counted callback]
   omega

/-- Every step of a task brings the end nearer, and then all callbacks have been run. -/
theorem callbacks_all_run {cancellable:Bool} {f:Future} (h:(future cancellable).Reachable f):
  (∀task t,(future cancellable).step f (.work task) t → t.duty<f.duty) ∧
  (f.tasks=[] → f.state.done=true →
   f.begun=f.users ∧ ∀callback,f.ran.count callback=f.internals.count callback):=by
 obtain ⟨hdrains,hsettles,husers,hdraining,-,hcounted⟩:=reachable_sound h
 refine ⟨?_,fun htasks hdone=>?_⟩
 · rintro task t ⟨before,after,htasks,rfl⟩
   exact duty_work htasks
 · rw [htasks] at hdrains hsettles
   have hstarted:f.callbacksStarted=true:=by simpa [hdone] using hsettles
   have hpending:f.pendingCallbacks=[]:=by
    by_contra hne
    simp [hdraining hne] at hdrains
   exact ⟨by simp [husers,hpending,hstarted],fun callback=>by simp [hcounted,htasks,hstarted]⟩

/-- Callbacks of both kinds are added before the settlement, and one after it. -/
def drainedRun : { f // (future true).Reachable f }:=⟨_,by
 have h₁:=(((System.Reachable.start (M := future true) rfl).next (.addDoneCallback 7)
  rfl).next (.addInternalDoneCallback 8) rfl).next .settle rfl
 have h₂:=((h₁.next (.work .settled) ⟨[],[],rfl,rfl⟩).next (.work (.internal [8] true))
  ⟨[],[],rfl,rfl⟩).next (.work (.internal [] true)) ⟨[],[],rfl,rfl⟩
 have h₃:=((h₂.next (.addDoneCallback 9) rfl).next (.work .queued) ⟨[],[],rfl,rfl⟩).next
  (.work .looping) ⟨[],[],rfl,rfl⟩
 have h₄:=(h₃.next (.work (.calling 7)) ⟨[],[],rfl,rfl⟩).next (.work .looping) ⟨[],[],rfl,rfl⟩
 exact (h₄.next (.work (.calling 9)) ⟨[],[],rfl,rfl⟩).next (.work .looping) ⟨[],[],rfl,rfl⟩⟩

theorem callbacks_run_in_order_drained :
  drainedRun.1.begun=[7,9] ∧ drainedRun.1.begun<+:drainedRun.1.users:=
 ⟨rfl,(callbacks_run_in_order drainedRun.2).1⟩

theorem callbacks_all_run_drained : drainedRun.1.tasks=[] ∧ drainedRun.1.internals=[8] ∧
  drainedRun.1.begun=drainedRun.1.users ∧ drainedRun.1.ran.count 8=1:=
 have hall:=(callbacks_all_run drainedRun.2).2 rfl rfl
 ⟨rfl,rfl,hall.1,hall.2 8⟩

end Movie.Futures
