import Movie.WorkerPoolDrain
import Mathlib.Algebra.BigOperators.Fin
import Mathlib.Algebra.BigOperators.Ring.Finset

/-!
# The queues of a worker pool

The queues together hold no more than the configured capacities. A call of `dispatch_system` looks
at one queue after the other, so it may find each of them full although all of them never were.
-/
namespace Movie.WorkerPoolQueues

open Function Reachability WorkerPool WorkerPoolControl WorkerPoolDrain

variable {config:PoolConfig} {r r':Pool config} {event:Event config}
 {index:Fin config.workers}

inductive Touch (r:Pool config) (event:Event config) (index:Fin config.workers):
  WorkQueue → Prop where
 | rest:Touch r event index (r.queues index)
 | takeSystem (worker:Fin config.workers) (again:Bool) (offset:ℕ):
  event=.worker worker → r.workers worker=.scanningSystem again offset →
  config.slot worker offset=index →
  Touch r event index ((r.queues index).takeSystem (decide (offset=0))).1
 | takeOrdinary (owner:Bool):Touch r event index ((r.queues index).takeOrdinary owner).1
 | append (system:Bool) (task:Task):¬(r.queues index).Full system →
  Touch r event index ((r.queues index).append system task)
 | wake:Touch r event index { r.queues index with ready:=true }
 | detach (next:ℕ):event=.stopper → r.stopper=.detaching next →
  Touch r event index (r.queues index).detach

lemma touch_setQueue {slot:Fin config.workers} {queue:WorkQueue}
  (h:Touch r event slot queue) (index:Fin config.workers):
  Touch r event index ((r.setQueue slot queue).queues index):=by
 by_cases heq:index=slot
 · subst heq
   simpa [Pool.setQueue] using h
 · simpa [Pool.setQueue,heq] using Touch.rest

lemma turn_touch {worker:Fin config.workers} (h:Turn r worker r')
  (index:Fin config.workers):Touch r (.worker worker) index (r'.queues index):=by
 cases h with
 | idle | look | count | finish=>exact .rest
 | missSystem again offset queue hworker htake | hitSystem again offset queue task hworker htake=>
  refine touch_setQueue ?_ index
  have htouch:=Touch.takeSystem worker again offset rfl hworker rfl
  rwa [htake] at htouch
 | missOrdinary again offset queue hworker htake | hitOrdinary again offset queue task hworker htake=>
  refine touch_setQueue ?_ index
  have htouch:Touch r (.worker worker) (config.slot worker offset) _:=
   Touch.takeOrdinary (decide (offset=0))
  rwa [htake] at htouch

lemma publish_touch (task:Task) (system:Bool) (start offset:ℕ) (index:Fin config.workers):
  Touch r event index ((r.publish task system start offset).queues index):=by
 unfold Pool.publish
 dsimp only
 split_ifs with hoffset hrunning hfull hsystem
 · exact .rest
 · exact .rest
 · exact touch_setQueue (.append system task hfull) index
 · exact touch_setQueue (.append system task hfull) index
 all_goals exact .rest

lemma touch_next (h:next r event=some r') (index:Fin config.workers):
  Touch r event index (r'.queues index):=by
 cases event with
 | start | stop | call=>
  simp only [next] at h
  split_ifs at h
  cases h
  exact .rest
 | starter=>
  simp only [next,Pool.startStep] at h
  split at h
  · split_ifs at h <;> cases h <;> exact .rest
  · cases h
    exact .rest
  · split_ifs at h <;> cases h
    · exact touch_setQueue .wake index
    · exact .rest
  · cases h
    exact .rest
  all_goals cases h
 | startFails=>
  simp only [next] at h
  split at h <;> cases h
  exact .rest
 | publish task=>
  simp only [next] at h
  split at h <;> cases h
  exact publish_touch task _ _ _ index
 | worker worker=>exact turn_touch (turn_of_workerStep h) index
 | stopper=>
  simp only [next,Pool.stopStep] at h
  split at h
  · split at h <;> cases h <;> exact .rest
  · split_ifs at h <;> cases h
    · exact touch_setQueue .wake index
    all_goals exact .rest
  · split_ifs at h
    cases h
    exact .rest
  · rename_i later hstopper
    split_ifs at h <;> cases h
    · exact touch_setQueue (.detach later rfl hstopper) index
    · exact .rest
  · cases h
    exact .rest
  all_goals cases h
 | stopTimeout=>
  simp only [next,Pool.stopTimeout] at h
  split at h
  · cases h
    exact .rest
  · cases h
    exact .rest
  · split_ifs at h
    cases h
    exact .rest
  all_goals cases h

structure Fit (config:PoolConfig) (index:ℕ) (queue:WorkQueue):Prop where
 capacity:queue.capacity=config.share config.queueCapacity index
 systemCapacity:queue.systemCapacity=config.share config.systemQueueCapacity index
 tasks:queue.tasks.length≤queue.capacity
 systemTasks:queue.systemTasks.length≤queue.systemCapacity
 ready:queue.tasks≠[] ∨ queue.systemTasks≠[] → queue.ready=true

section

variable {queue:WorkQueue} {n:ℕ}

lemma Fit.takeSystem (h:Fit config n queue) (owner:Bool):
  Fit config n (queue.takeSystem owner).1:=by
 obtain ⟨tasks,systemTasks,ready,capacity,systemCapacity⟩:=queue
 obtain ⟨hcapacity,hsystem,htasks,hsystemTasks,hready⟩:=h
 cases systemTasks with
 | nil=>exact ⟨hcapacity,hsystem,htasks,hsystemTasks,by grind [WorkQueue.takeSystem]⟩
 | cons task rest=>
  exact ⟨hcapacity,hsystem,htasks,(Nat.le_succ _).trans hsystemTasks,
   by grind [WorkQueue.takeSystem]⟩

lemma Fit.takeOrdinary (h:Fit config n queue) (owner:Bool):
  Fit config n (queue.takeOrdinary owner).1:=by
 obtain ⟨tasks,systemTasks,ready,capacity,systemCapacity⟩:=queue
 obtain ⟨hcapacity,hsystem,htasks,hsystemTasks,hready⟩:=h
 cases tasks with
 | nil=>exact ⟨hcapacity,hsystem,htasks,hsystemTasks,by grind [WorkQueue.takeOrdinary]⟩
 | cons task rest=>
  exact ⟨hcapacity,hsystem,(Nat.le_succ _).trans htasks,hsystemTasks,
   by grind [WorkQueue.takeOrdinary]⟩

lemma Fit.append (h:Fit config n queue) {system:Bool} (task:Task)
  (hroom:¬queue.Full system):Fit config n (queue.append system task):=by
 obtain ⟨hcapacity,hsystem,htasks,hsystemTasks,hready⟩:=h
 have hnow:(queue.ready || (queue.tasks.isEmpty && queue.systemTasks.isEmpty))=true:=by
  grind
 cases system with
 | true=>
  have hlt:queue.systemTasks.length<queue.systemCapacity:=Nat.not_le.mp hroom
  exact ⟨hcapacity,hsystem,htasks,by simpa [WorkQueue.append] using Nat.succ_le_of_lt hlt,fun _=>hnow⟩
 | false=>
  have hlt:queue.tasks.length<queue.capacity:=Nat.not_le.mp hroom
  exact ⟨hcapacity,hsystem,by simpa [WorkQueue.append] using Nat.succ_le_of_lt hlt,hsystemTasks,fun _=>hnow⟩

lemma Touch.fit (h:Touch r event index queue) (hfit:Fit config index (r.queues index)):
  Fit config index queue:=by
 cases h with
 | rest=>exact hfit
 | takeSystem=>exact hfit.takeSystem _
 | takeOrdinary owner=>exact hfit.takeOrdinary owner
 | append system task hroom=>exact hfit.append task hroom
 | wake=>exact { hfit with ready:=fun _=>rfl }
 | detach=>exact ⟨hfit.capacity,hfit.systemCapacity,Nat.zero_le _,Nat.zero_le _,by simp [WorkQueue.detach]⟩

end

lemma reachable_fit (h:(system config).Reachable r) (index:Fin config.workers):
  Fit config index (r.queues index):=by
 refine h.invariant (I := fun r=>∀index:Fin config.workers,Fit config index (r.queues index))
  ?_ ?_ index
 · rintro _ rfl index
   exact ⟨rfl,rfl,Nat.zero_le _,Nat.zero_le _,by simp [Pool.create]⟩
 · intro r event r' _ hfit hstep index
   exact (touch_next hstep index).fit (hfit index)

lemma sum_share (config:PoolConfig) (capacity:ℕ):
  ∑ index:Fin config.workers,config.share capacity index=capacity:=by
 have hmod:capacity % config.workers<config.workers:=Nat.mod_lt _ config.workers_pos
 have hextra:((Finset.range config.workers).filter (·<capacity % config.workers)) =
  Finset.range (capacity % config.workers):=by
  ext i
  simp only [Finset.mem_filter,Finset.mem_range]
  omega
 rw [Fin.sum_univ_eq_sum_range (config.share capacity) config.workers]
 simp only [PoolConfig.share,Finset.sum_add_distrib,Finset.sum_const,Finset.card_range,
  Finset.sum_boole,hextra,smul_eq_mul,Nat.cast_id]
 exact Nat.div_add_mod capacity config.workers

/-- The queues, the events and the counter of a dispatcher that runs. -/
theorem pool_queue_invariant (config:PoolConfig) (r:Pool config)
  (h:(system config).Reachable r) (hrunning:r.state=.running):
  (∀index,(r.queues index).tasks≠[] ∨ (r.queues index).systemTasks≠[] →
   (r.queues index).ready=true ∧
   (r.workers index=.waiting →
    next r (.worker index)=some (r.setWorker index .entering))) ∧
  ((∃index,(r.queues index).systemTasks≠[]) → r.systemAvailable=true) ∧
  r.systemCount=(∑ index,(r.queues index).systemTasks.length:ℕ) +
   (∑ index,uncounted (r.workers index):ℕ) ∧
  0 ≤ r.systemCount ∧
  ∑ index,(r.queues index).tasks.length ≤ config.queueCapacity ∧
  ∑ index,(r.queues index).systemTasks.length ≤ config.systemQueueCapacity:=by
 have hfit:=reachable_fit h
 have hs:=reachable_sound h
 have hcounted:Counted r:=hs.ledger.counted fun later hstopper=>
  hs.control.phases.not_running hrunning |>.1 (by simp [phase,hstopper,Stops])
 have hcount:r.systemCount=(∑ index,(r.queues index).systemTasks.length:ℕ) +
  (∑ index,uncounted (r.workers index):ℕ):=by
  rw [hcounted.count,systemTotal]
  push_cast
  rfl
 refine ⟨fun index hne=>⟨(hfit index).ready hne,fun hwaiting=>?_⟩,?_,hcount,?_,?_,?_⟩
 · simp [next,Pool.workerStep,hwaiting,(hfit index).ready hne]
 · rintro ⟨index,hne⟩
   have hle:(r.queues index).systemTasks.length ≤
    ∑ other,(r.queues other).systemTasks.length:=
    Finset.single_le_sum (f := fun other=>(r.queues other).systemTasks.length)
     (fun _ _=>Nat.zero_le _) (Finset.mem_univ index)
   have hpos:=List.length_pos_iff.mpr hne
   rw [hcounted.available,hcount]
   exact decide_eq_true (by omega)
 · rw [hcount]
   omega
 · refine (Finset.sum_le_sum fun index _=>?_).trans_eq (sum_share config config.queueCapacity)
   exact (hfit index).capacity▸(hfit index).tasks
 · refine (Finset.sum_le_sum fun index _=>?_).trans_eq
    (sum_share config config.systemQueueCapacity)
   exact (hfit index).systemCapacity▸(hfit index).systemTasks

section

def queued (r:Pool config):ℕ:=∑ index,(r.queues index).systemTasks.length

def InCall (r:Pool config) (task:Task):Bool:=
 match r.calls task with
 | .publishing true _ _=>true
 | _=>false

/-- While a call of `dispatch_system` goes on, the dispatcher runs and has room. -/
def Roomy (task:Task) (r:Pool config):Prop:=
 InCall r task=true → r.state=.running ∧ queued r<config.systemQueueCapacity

instance (task:Task) (r:Pool config):Decidable (Roomy task r):=
 inferInstanceAs (Decidable (_ → _))

def passed (r:Pool config) (task:Task):List (Fin config.workers):=
 match r.calls task with
 | .publishing true start offset=>(List.range offset).map (config.slot start)
 | _=>[]

def disturbs (task:Task) (r:Pool config):Event config → Bool
 | .worker worker=>
  match r.workers worker with
  | .scanningSystem _ offset=>decide (config.slot worker offset∈passed r task) &&
   !(r.queues (config.slot worker offset)).systemTasks.isEmpty
  | _=>false
 | _=>false

def fullText : String:= "Dispatcher system activation queue is full"

lemma calls_next (h:next r event=some r') (task:Task):
  r'.calls task=r.calls task ∨ (∃system start,r'.calls task=.publishing system start 0) ∨
   ∃system start offset,r.calls task=.publishing system start offset ∧
    r'=r.publish task system start offset:=by
 cases event with
 | worker worker=>
  left
  cases turn_of_workerStep h <;> rfl
 | call other system start=>
  simp only [next] at h
  split_ifs at h
  cases h
  by_cases heq:task=other
  · subst heq
    exact .inr (.inl ⟨system,start,by simp [Pool.setCall]⟩)
  · exact .inl (by simp [Pool.setCall,heq])
 | publish other=>
  simp only [next] at h
  split at h <;> cases h
  rename_i system start offset hcall
  by_cases heq:task=other
  · subst heq
    exact .inr (.inr ⟨system,start,offset,hcall,rfl⟩)
  · refine .inl ?_
    rcases publish_cases r other system start offset with ⟨call,-,hsame⟩|haccepted
    · rw [hsame]
      simp [Pool.setCall,heq]
    · rw [haccepted.calls,update_of_ne heq]
 | starter=>left; grind [next,Pool.startStep,Pool.setWorker,Pool.wake,Pool.setQueue]
 | stopper=>left; grind [next,Pool.stopStep,Pool.wake,Pool.setQueue]
 | start | startFails | stop | stopTimeout=>left; grind [next,Pool.stopTimeout]

lemma Touch.full {queue:WorkQueue} {task:Task} (h:Touch r event index queue)
  (hfull:(r.queues index).Full true) (hmem:index∈passed r task)
  (hquiet:disturbs task r event=false) (hrunning:∀later,r.stopper≠.detaching later):
  queue.Full true:=by
 cases h with
 | rest | wake=>exact hfull
 | takeSystem worker again offset hevent hworker hslot=>
  subst hevent hslot
  have hempty:(r.queues (config.slot worker offset)).systemTasks=[]:=by
   simpa [disturbs,hworker,hmem] using hquiet
  simpa [WorkQueue.takeSystem,hempty,WorkQueue.Full] using hfull
 | takeOrdinary owner=>
  unfold WorkQueue.takeOrdinary
  split <;> exact hfull
 | append system other hroom=>
  cases system with
  | true=>exact absurd hfull hroom
  | false=>exact hfull
 | detach later _ hstopper=>exact absurd hstopper (hrunning later)

lemma not_detaching (h:(system config).Reachable r) (hrunning:r.state=.running) (later:ℕ):
  r.stopper≠.detaching later:=fun hstopper=>
 ((reachable_sound h).control.phases.not_running hrunning).1 (by simp [phase,hstopper,Stops])

lemma inCall_of_passed {task:Task} (h:index∈passed r task):InCall r task=true:=by
 unfold passed at h
 unfold InCall
 split at h <;> simp_all

lemma queued_of_full (h:(system config).Reachable r)
  (hfull:∀index,(r.queues index).Full true):config.systemQueueCapacity≤queued r:=by
 rw [←sum_share config config.systemQueueCapacity]
 exact Finset.sum_le_sum fun index _=>(reachable_fit h index).systemCapacity▸hfull index

structure Undisturbed (task:Task) (r:Pool config):Prop where
 reachable:(system config).Reachable r
 accepted:r.calls task≠.raised fullText
 full:∀index∈passed r task,(r.queues index).Full true

lemma Undisturbed.publish {task:Task} {system:Bool} {start offset:ℕ}
  (h:Undisturbed task r) (hcall:r.calls task=.publishing system start offset)
  (hroomy:Roomy task r):(r.publish task system start offset).calls task≠.raised fullText ∧
   ∀index∈passed (r.publish task system start offset) task,
    ((r.publish task system start offset).queues index).Full true:=by
 have hdone {s:Pool config} {call:Call} (hs:s.calls task=call)
  (hnot:∀start offset,call≠.publishing true start offset) (hne:call≠.raised fullText):
  s.calls task≠.raised fullText ∧ ∀index∈passed s task,(s.queues index).Full true:=by
  refine ⟨hs▸hne,fun index hmem=>?_⟩
  unfold passed at hmem
  split at hmem
  · exact absurd (hs.symm.trans ‹_›) (hnot _ _)
  · cases hmem
 unfold Pool.publish
 dsimp only
 split_ifs with hoffset hrunning hfull hsystem hsystem
 · exact hdone (update_self ..) nofun (by decide)
 · cases system with
   | false=>exact hdone (update_self ..) nofun nofun
   | true=>
    have hcalls:(r.setCall task (.publishing true start (offset+1))).calls task =
     .publishing true start (offset+1):=update_self ..
    refine ⟨by simp [hcalls],fun index hmem=>?_⟩
    simp only [passed,hcalls,List.range_succ,List.map_append,List.mem_append,List.map_cons,
     List.map_nil,List.mem_singleton] at hmem
    rcases hmem with hold|rfl
    · exact h.full index (by simpa only [passed,hcall] using hold)
    · exact hfull
 · exact hdone (update_self ..) nofun nofun
 · exact hdone (update_self ..) nofun nofun
 · subst hsystem
   obtain ⟨-,hroom⟩:=hroomy (by simp [InCall,hcall])
   refine absurd (queued_of_full h.reachable fun index=>?_) (Nat.not_le.mpr hroom)
   obtain ⟨other,hother,hslot⟩:=exists_slot start index
   refine h.full index ?_
   simp only [passed,hcall,List.mem_map,List.mem_range]
   exact ⟨other,by omega,hslot⟩
 · exact hdone (update_self ..) nofun (by decide)

/-- Nobody takes a system task out of a queue that the call has found full; then the call
 does not raise while there is room. -/
theorem system_capacity_usable (config:PoolConfig) (task:Task) (r:Pool config)
  (h:((system config).restrictSteps fun s event s'=>
   (Roomy task s ∧ Roomy task s') ∧ disturbs task s event=false).Reachable r):
  r.calls task≠.raised "Dispatcher system activation queue is full" := by
 refine (h.invariant (I := Undisturbed task) ?_ ?_).accepted
 · rintro _ rfl
   exact ⟨.start rfl,nofun,nofun⟩
 · rintro s event s' - hs ⟨⟨⟨hroomy,-⟩,hquiet⟩,hstep⟩
   have hreach:=hs.reachable.next event hstep
   rcases calls_next hstep task with hsame|⟨system,start,hnew⟩|⟨system,start,offset,hcall,rfl⟩
   · refine ⟨hreach,hsame▸hs.accepted,fun index hmem=>?_⟩
     have hpassed:index∈passed s task:=by simpa only [passed,hsame] using hmem
     have hrunning:=(hroomy (inCall_of_passed hpassed)).1
     exact (touch_next hstep index).full (hs.full index hpassed) hpassed hquiet
      (not_detaching hs.reachable hrunning)
   · refine ⟨hreach,hnew▸nofun,fun index hmem=>?_⟩
     cases system <;> simp [passed,hnew] at hmem
   · obtain ⟨haccepted,hfull⟩:=hs.publish hcall hroomy
     exact ⟨hreach,haccepted,hfull⟩

def twoWorkers : PoolConfig:=⟨2,2,2,Nat.two_pos,Nat.two_pos,Nat.two_pos⟩

def leftWorker : Event twoWorkers:=.worker ⟨0,Nat.two_pos⟩

def roomyStep (task:Task) (strict:Bool) (s:Pool twoWorkers) (event:Event twoWorkers):
  Option (Pool twoWorkers):=
 (next s event).filter fun s'=>decide (Roomy task s ∧ Roomy task s') &&
  !(strict && disturbs task s event)

def launched : List (Event twoWorkers):=[.start,.starter,.starter,.starter]

lemma roomyStep_spec {task:Task} {strict:Bool} {s s':Pool twoWorkers}
  {event:Event twoWorkers} (h:roomyStep task strict s event=some s'):
  ((Roomy task s ∧ Roomy task s') ∧ (strict=true → disturbs task s event=false)) ∧
   next s event=some s':=by
 obtain ⟨hnext,hok⟩:=Option.filter_eq_some_iff.mp h
 simp only [Bool.and_eq_true,decide_eq_true_eq,Bool.not_eq_true',Bool.and_eq_false_imp] at hok
 exact ⟨hok,hnext⟩

/-- The call passes the first queue, whose task is then taken, and finds in the second queue
 a task that was published meanwhile; one of two places is free all the time. -/
theorem room_missed : ∃r:Pool twoWorkers,
  ((system twoWorkers).restrictSteps fun s _ s'=>Roomy 1 s ∧ Roomy 1 s').Reachable r ∧
   r.calls 1=.raised "Dispatcher system activation queue is full" := by
 have hcreated:((system twoWorkers).restrictSteps fun s _ s'=>Roomy 1 s ∧ Roomy 1 s').Reachable
  (.create twoWorkers):=.start rfl
 have hplayed:=hcreated.play (f := roomyStep 1 false)
  (by exact fun _ _ _ h=>⟨(roomyStep_spec h).1.1,(roomyStep_spec h).2⟩)
  (launched++[.call 0 true 0,.publish 0,.call 1 true 0,.publish 1,leftWorker,leftWorker,
   leftWorker,.call 2 true 1,.publish 2,.publish 1,.publish 1]) rfl
 exact ⟨_,hplayed,rfl⟩

theorem system_capacity_usable_second_queue : ∃r:Pool twoWorkers,
  (system twoWorkers).Reachable r ∧ r.calls 1=.returned ∧
   r.calls 1≠.raised "Dispatcher system activation queue is full" := by
 have hcreated:((system twoWorkers).restrictSteps fun s event s'=>
  (Roomy 1 s ∧ Roomy 1 s') ∧ disturbs 1 s event=false).Reachable (.create twoWorkers):=
  .start rfl
 have hplayed:=hcreated.play (f := roomyStep 1 true)
  (by exact fun _ _ _ h=>⟨⟨(roomyStep_spec h).1.1,(roomyStep_spec h).1.2 rfl⟩,
   (roomyStep_spec h).2⟩)
  (launched++[.call 0 true 0,.publish 0,.call 1 true 0,.publish 1,.publish 1]) rfl
 exact ⟨_,hplayed.of_restrictSteps,rfl,system_capacity_usable twoWorkers 1 _ hplayed⟩

theorem pool_queue_invariant_taken : ∃r,(system twoWorkers).Reachable r ∧
  r.state=.running ∧ queued r=1 ∧ r.systemCount=2 ∧
   ((∃index,(r.queues index).systemTasks≠[]) → r.systemAvailable=true):=by
 have hcreated:(system twoWorkers).Reachable (.create twoWorkers):=.start rfl
 have hplayed:=hcreated.play (f := next) (fun _ _ _ h=>h)
  (launched++[.call 0 true 0,.publish 0,.call 1 true 1,.publish 1,leftWorker,leftWorker,
   leftWorker]) rfl
 exact ⟨_,hplayed,rfl,by decide +kernel,rfl,(pool_queue_invariant twoWorkers _ hplayed rfl).2.1⟩

end

end Movie.WorkerPoolQueues
