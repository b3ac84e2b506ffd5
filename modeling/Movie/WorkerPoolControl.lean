import Movie.WorkerPool

/-!
# How the threads of a worker pool keep together

`stop` detaches the queues only when no worker is alive, and a task is published only while the
dispatcher runs.
-/
namespace Movie.WorkerPoolControl

open Function WorkerPool

variable {config:PoolConfig} {r r':Pool config} {index:Fin config.workers}

section

variable {queue queue':WorkQueue} {owner:Bool} {task:Task}

lemma takeSystem_some (h:queue.takeSystem owner=(queue',some task)):
  queue.systemTasks=task::queue'.systemTasks ∧ queue'.tasks=queue.tasks:=by
 unfold WorkQueue.takeSystem at h
 split at h
 · cases h
 · rename_i hhead
   cases h
   exact ⟨hhead,rfl⟩

lemma takeSystem_none (h:queue.takeSystem owner=(queue',none)):
  queue.systemTasks=[] ∧ queue'.systemTasks=[] ∧ queue'.tasks=queue.tasks:=by
 unfold WorkQueue.takeSystem at h
 split at h
 · rename_i hempty
   cases h
   exact ⟨hempty,hempty,rfl⟩
 · cases h

lemma takeOrdinary_some (h:queue.takeOrdinary owner=(queue',some task)):
  queue.tasks=task::queue'.tasks ∧ queue'.systemTasks=queue.systemTasks:=by
 unfold WorkQueue.takeOrdinary at h
 split at h
 · cases h
 · rename_i hhead
   cases h
   exact ⟨hhead,rfl⟩

lemma takeOrdinary_none (h:queue.takeOrdinary owner=(queue',none)):
  queue.tasks=[] ∧ queue'.tasks=[] ∧ queue'.systemTasks=queue.systemTasks:=by
 unfold WorkQueue.takeOrdinary at h
 split at h
 · rename_i hempty
   cases h
   exact ⟨hempty,hempty,rfl⟩
 · cases h

end

section

inductive Idles (r:Pool config):Worker → Worker → Prop where
 | enter:r.abort=false → Idles r .entering (.looking false)
 | abort:r.abort=true → Idles r .entering .ended
 | stop (again:Bool):r.state=.stopping ∨ r.state=.stopped →
  Idles r (.deciding again) .ended
 | retry:¬(r.state=.stopping ∨ r.state=.stopped) → Idles r (.deciding false) (.looking true)
 | wait:¬(r.state=.stopping ∨ r.state=.stopped) → Idles r (.deciding true) .waiting
 | woken:Idles r .waiting .entering

inductive Turn (r:Pool config) (index:Fin config.workers):Pool config → Prop where
 | idle {worker:Worker}:Idles r (r.workers index) worker → Turn r index (r.setWorker index worker)
 | look (again:Bool):r.workers index=.looking again →
  Turn r index (r.setWorker index
   (if r.systemAvailable then .scanningSystem again 0 else .scanningOrdinary again 0))
 | missSystem (again:Bool) (offset:ℕ) (queue:WorkQueue):
  r.workers index=.scanningSystem again offset →
  (r.queues (config.slot index offset)).takeSystem (decide (offset=0))=(queue,none) →
  Turn r index ((r.setQueue (config.slot index offset) queue).setWorker index
   (if offset+1<config.workers then .scanningSystem again (offset+1)
    else .scanningOrdinary again 0))
 | hitSystem (again:Bool) (offset:ℕ) (queue:WorkQueue) (task:Task):
  r.workers index=.scanningSystem again offset →
  (r.queues (config.slot index offset)).takeSystem (decide (offset=0))=(queue,some task) →
  Turn r index ((r.setQueue (config.slot index offset) queue).setWorker index (.counting task))
 | count (task:Task):r.workers index=.counting task →
  Turn r index ({ r with
   systemCount:=r.systemCount - 1
   systemAvailable:=if r.systemCount - 1=0 then false else r.systemAvailable }.setWorker
    index (.running task))
 | missOrdinary (again:Bool) (offset:ℕ) (queue:WorkQueue):
  r.workers index=.scanningOrdinary again offset →
  (r.queues (config.slot index offset)).takeOrdinary (decide (offset=0))=(queue,none) →
  Turn r index ((r.setQueue (config.slot index offset) queue).setWorker index
   (if offset+1<config.workers then .scanningOrdinary again (offset+1)
    else .deciding again))
 | hitOrdinary (again:Bool) (offset:ℕ) (queue:WorkQueue) (task:Task):
  r.workers index=.scanningOrdinary again offset →
  (r.queues (config.slot index offset)).takeOrdinary (decide (offset=0)) =
   (queue,some task) →
  Turn r index ((r.setQueue (config.slot index offset) queue).setWorker index (.running task))
 | finish (task:Task):r.workers index=.running task →
  Turn r index ({ r with finished:=r.finished++[task] }.setWorker index .entering)

lemma turn_of_workerStep (h:r.workerStep index=some r'):Turn r index r':=by
 unfold Pool.workerStep at h
 split at h
 · cases h
 · rename_i hworker
   cases h
   refine Turn.idle ?_
   rw [hworker]
   split
   · exact Idles.abort ‹_›
   · exact Idles.enter (Bool.eq_false_iff.2 ‹_›)
 · rename_i again hworker
   cases h
   exact Turn.look again hworker
 · rename_i again offset hworker
   dsimp only at h
   split at h
   · cases h
     exact Turn.hitSystem again offset _ _ hworker ‹_›
   · cases h
     exact Turn.missSystem again offset _ hworker ‹_›
 · rename_i task hworker
   cases h
   exact Turn.count task hworker
 · rename_i again offset hworker
   dsimp only at h
   split at h
   · cases h
     exact Turn.hitOrdinary again offset _ _ hworker ‹_›
   · cases h
     exact Turn.missOrdinary again offset _ hworker ‹_›
 · rename_i again hworker
   cases h
   refine Turn.idle ?_
   rw [hworker]
   split
   · exact Idles.stop again ‹_›
   · cases again with
     | false=>exact Idles.retry ‹_›
     | true=>exact Idles.wait ‹_›
 · rename_i hworker
   split at h
   · cases h
     refine Turn.idle ?_
     rw [hworker]
     exact Idles.woken
   · cases h
 · rename_i task hworker
   cases h
   exact Turn.finish task hworker
 · cases h

end

section

def Empty (queue:WorkQueue):Prop:=queue.tasks=[] ∧ queue.systemTasks=[]

def AllEmpty (r:Pool config):Prop:=∀index,Empty (r.queues index)

def Shrinks (r r':Pool config):Prop:=∀index,
 ((r.queues index).tasks=[] → (r'.queues index).tasks=[]) ∧
  ((r.queues index).systemTasks=[] → (r'.queues index).systemTasks=[])

lemma AllEmpty.shrinks (h:AllEmpty r) (hs:Shrinks r r'):AllEmpty r':=
 fun index=>⟨(hs index).1 (h index).1,(hs index).2 (h index).2⟩

lemma shrinks_refl (r:Pool config):Shrinks r r:=fun _=>⟨id,id⟩

lemma shrinks_setQueue {queue:WorkQueue} (htasks:(r.queues index).tasks=[] → queue.tasks=[])
  (hsystem:(r.queues index).systemTasks=[] → queue.systemTasks=[]):
  Shrinks r (r.setQueue index queue):=by
 intro other
 unfold Pool.setQueue
 dsimp only
 by_cases hother:other=index
 · rw [hother,update_self]
   exact ⟨htasks,hsystem⟩
 · rw [update_of_ne hother]
   exact ⟨id,id⟩

lemma shrinks_wake (r:Pool config) (index:Fin config.workers):Shrinks r (r.wake index):=
 shrinks_setQueue id id

structure Phase where
 state:DispatcherState
 abort:Bool
 starter:Starter
 stopper:Stopper

def phase (r:Pool config):Phase:=⟨r.state,r.abort,r.starter,r.stopper⟩

def InRange (config:PoolConfig):Worker → Prop
 | .scanningSystem _ offset | .scanningOrdinary _ offset=>offset<config.workers
 | _=>True

structure Worked (r r':Pool config) (index:Fin config.workers):Prop where
 phase:phase r'=phase r
 abandoned:r'.abandoned=r.abandoned
 alive:¬(r.workers index).Quiet
 bound:InRange config (r'.workers index)
 workers:∀other,other≠index → r'.workers other=r.workers other
 shrinks:Shrinks r r'

lemma worked_setWorker {worker:Worker} (halive:¬(r.workers index).Quiet)
  (hbound:InRange config worker) (hs:Shrinks r r') (hphase:phase r'=phase r)
  (habandoned:r'.abandoned=r.abandoned) (hworkers:r'.workers=r.workers):
  Worked r (r'.setWorker index worker) index where
 phase:=hphase
 abandoned:=habandoned
 alive:=halive
 bound:=by
  unfold Pool.setWorker
  dsimp only
  rwa [update_self]
 workers other hne:=by
  unfold Pool.setWorker
  dsimp only
  rw [update_of_ne hne,hworkers]
 shrinks:=hs

lemma Turn.alive (h:Turn r index r'):¬(r.workers index).Quiet:=by
 unfold Worker.Quiet
 cases h with
 | idle hidles=>
  generalize r.workers index=before at hidles
  cases hidles <;> simp
 | look _ hworker | missSystem _ _ _ hworker | hitSystem _ _ _ _ hworker | count _ hworker
 | missOrdinary _ _ _ hworker | hitOrdinary _ _ _ _ hworker | finish _ hworker=>
  simp [hworker]

lemma Turn.worked (h:Turn r index r'):Worked r r' index:=by
 have halive:=h.alive
 have hpos:=config.workers_pos
 cases h with
 | idle hidles=>
  refine worked_setWorker halive ?_ (shrinks_refl r) rfl rfl rfl
  generalize r.workers index=before at hidles
  cases hidles <;> trivial
 | look again hworker=>
  refine worked_setWorker halive ?_ (shrinks_refl r) rfl rfl rfl
  split <;> exact hpos
 | missSystem again offset queue hworker htake=>
  obtain ⟨hsystem,hsystem',htasks⟩:=takeSystem_none htake
  refine worked_setWorker halive ?_
   (shrinks_setQueue (fun h=>htasks.trans h) fun _=>hsystem') rfl rfl rfl
  split
  · assumption
  · exact hpos
 | hitSystem again offset queue task hworker htake=>
  obtain ⟨hsystem,htasks⟩:=takeSystem_some htake
  exact worked_setWorker halive trivial
   (shrinks_setQueue (fun h=>htasks.trans h) fun h=>nomatch hsystem.symm.trans h) rfl rfl rfl
 | count task hworker | finish task hworker=>
  exact worked_setWorker halive trivial (shrinks_refl r) rfl rfl rfl
 | missOrdinary again offset queue hworker htake=>
  obtain ⟨htasks,htasks',hsystem⟩:=takeOrdinary_none htake
  refine worked_setWorker halive ?_
   (shrinks_setQueue (fun _=>htasks') fun h=>hsystem.trans h) rfl rfl rfl
  split
  · assumption
  · trivial
 | hitOrdinary again offset queue task hworker htake=>
  obtain ⟨htasks,hsystem⟩:=takeOrdinary_some htake
  exact worked_setWorker halive trivial
   (shrinks_setQueue (fun h=>nomatch htasks.symm.trans h) fun h=>hsystem.trans h) rfl rfl rfl

end

section

def Busy (starter:Starter):Prop:=
 starter≠.idle ∧ starter≠.returned ∧ starter≠.raised

def Stops : Stopper → Prop
 | .waking .. | .joining | .detaching _ | .finishing=>True
 | .idle | .entered | .returned | .raised=>False

inductive Phase.Step (p:Phase):Phase → Prop where
 | start:p.state=.new → p.stopper=.idle ∨ p.stopper=.returned ∨ p.stopper=.raised →
  Step p { p with state:=.starting,starter:=.launching 0 }
 | launch (next:ℕ):p.starter=.launching next → Step p { p with starter:=.launching (next+1) }
 | launched (next:ℕ):p.starter=.launching next →
  Step p { p with state:=.running,starter:=.returned }
 | startFails (next:ℕ):p.starter=.launching next →
  Step p { p with abort:=true,starter:=.aborting }
 | aborts:p.starter=.aborting → Step p { p with state:=.stopping,starter:=.waking 0 }
 | wakes (next:ℕ):p.starter=.waking next → Step p { p with starter:=.waking (next+1) }
 | woken (next:ℕ):p.starter=.waking next → Step p { p with starter:=.joining }
 | startEnds:p.starter=.joining → Step p { p with state:=.stopped,starter:=.raised }
 | stop:¬Busy p.starter → p.stopper=.idle → Step p { p with stopper:=.entered }
 | stopsStopped:p.stopper=.entered → p.state=.stopped → Step p { p with stopper:=.returned }
 | stopsNew:p.stopper=.entered → p.state=.new →
  Step p { p with state:=.stopped,stopper:=.returned }
 | stopsRunning:p.stopper=.entered → p.state=.running →
  Step p { p with state:=.stopping,stopper:=.waking false 0 }
 | stopsLate:p.stopper=.entered → p.state=.starting ∨ p.state=.stopping →
  Step p { p with stopper:=.joining }
 | goesOn (stopper:Stopper):Stops p.stopper → Stops stopper ∨ stopper=.raised →
  Step p { p with stopper:=stopper }
 | stopEnds:p.stopper=.finishing → Step p { p with state:=.stopped,stopper:=.returned }
 | raises:p.stopper=.entered → Step p { p with stopper:=.raised }
 | aborted:p.stopper=.joining → Step p { p with abort:=true,stopper:=.waking true 0 }

structure Phase.Sound (p:Phase):Prop where
 new:p.state=.new → p.starter=.idle ∧ ¬Stops p.stopper ∧ p.stopper≠.returned
 starting:p.state=.starting → Busy p.starter
 launching:∀next,p.starter=.launching next → p.state=.starting
 busy:Busy p.starter → p.stopper=.idle ∨ p.stopper=.raised
 failing:p.starter=.aborting ∨ (∃next,p.starter=.waking next) ∨ p.starter=.joining ∨
  p.starter=.raised → p.abort=true
 stops:Stops p.stopper → p.state=.stopping
 before:p.abort=false → p.stopper=.idle ∨ p.stopper=.entered →
  p.state≠.stopping ∧ p.state≠.stopped
 returned:p.stopper=.returned → p.state=.stopped

section

variable {p p':Phase} (h:p.Sound) (hstep:p.Step p')
include h hstep

lemma Phase.Sound.step_new :
  p'.state=.new → p'.starter=.idle ∧ ¬Stops p'.stopper ∧ p'.stopper≠.returned:=by
 have hnew:=h.new
 have hstops:=h.stops
 cases hstep <;> grind [Busy,Stops]

lemma Phase.Sound.step_starting : p'.state=.starting → Busy p'.starter:=by
 have hstarting:=h.starting
 have hlaunching:=h.launching
 cases hstep <;> grind [Busy,Stops]

lemma Phase.Sound.step_launching : ∀next,p'.starter=.launching next → p'.state=.starting:=by
 have hlaunching:=h.launching
 have hbusy:=h.busy
 have hstops:=h.stops
 cases hstep <;> grind [Busy,Stops]

lemma Phase.Sound.step_busy : Busy p'.starter → p'.stopper=.idle ∨ p'.stopper=.raised:=by
 have hnew:=h.new
 have hbusy:=h.busy
 cases hstep <;> grind [Busy,Stops]

lemma Phase.Sound.step_failing :
  p'.starter=.aborting ∨ (∃next,p'.starter=.waking next) ∨ p'.starter=.joining ∨
   p'.starter=.raised → p'.abort=true:=by
 have hfailing:=h.failing
 cases hstep <;> grind

lemma Phase.Sound.step_stops : Stops p'.stopper → p'.state=.stopping:=by
 have hnew:=h.new
 have hbusy:=h.busy
 have hstarting:=h.starting
 have hstops:=h.stops
 cases hstep <;> grind [Busy,Stops]

lemma Phase.Sound.step_before : p'.abort=false → p'.stopper=.idle ∨ p'.stopper=.entered →
  p'.state≠.stopping ∧ p'.state≠.stopped:=by
 have hbefore:=h.before
 have hfailing:=h.failing
 cases hstep <;> grind [Stops]

lemma Phase.Sound.step_returned : p'.stopper=.returned → p'.state=.stopped:=by
 have hreturned:=h.returned
 have hnew:=h.new
 have hbusy:=h.busy
 cases hstep <;> grind [Busy,Stops]

lemma Phase.Sound.step : p'.Sound:=
 ⟨h.step_new hstep,h.step_starting hstep,h.step_launching hstep,h.step_busy hstep,
  h.step_failing hstep,h.step_stops hstep,h.step_before hstep,h.step_returned hstep⟩

omit h

/-- What a step of the threads says of the step before. -/
lemma Phase.Step.before :
  (p'.state=.new ∨ p'.state=.starting → p.state=.new ∨ p.state=.starting) ∧
  (p'.state=.new → p.state=.new) ∧
  (∀next,p'.starter=.launching next →
   p.state=.new ∨ ∃first ≤ next,p.starter=.launching first) ∧
  (p'.stopper=.idle ∨ p'.stopper=.entered → p.stopper=.idle ∨ p.stopper=.entered):=by
 cases hstep <;> grind [Stops]

end

lemma Phase.Sound.not_running {p:Phase} (h:p.Sound) (hrunning:p.state=.running):
  ¬Stops p.stopper ∧ p.stopper≠.returned:=by
 refine ⟨fun hstops=>?_,fun hreturned=>?_⟩
 · cases hrunning.symm.trans (h.stops hstops)
 · cases hrunning.symm.trans (h.returned hreturned)

structure Control (r:Pool config):Prop where
 phases:(phase r).Sound
 unused:r.state=.new ∨ r.state=.starting → AllEmpty r
 unstarted:r.state=.new → ∀index,r.workers index=.unstarted
 launching:∀next,r.starter=.launching next →
  ∀index:Fin config.workers,next ≤ index → r.workers index=.unstarted
 bounds:∀index,InRange config (r.workers index)
 joined:(∃next,r.stopper=.detaching next) ∨ r.stopper=.finishing ∨
  r.stopper=.returned ∧ r.abort=false → ∀index,(r.workers index).Quiet
 detached:∀next,r.stopper=.detaching next →
  ∀index:Fin config.workers,index<next → Empty (r.queues index)
 emptied:r.stopper=.finishing ∨ r.stopper=.returned ∧ r.abort=false → AllEmpty r
 abandoned:r.stopper=.idle ∨ r.stopper=.entered → r.abandoned=[]

lemma control_create (config:PoolConfig):Control (.create config) where
 phases:=⟨fun _=>⟨rfl,id,nofun⟩,nofun,nofun,fun h=>absurd rfl h.1,
  fun h=>by simp [phase,Pool.create] at h,nofun,fun _ _=>⟨nofun,nofun⟩,nofun⟩
 unused _ _:=⟨rfl,rfl⟩
 unstarted _ _:=rfl
 launching:=nofun
 bounds _:=trivial
 joined h:=by simp [Pool.create] at h
 detached:=nofun
 emptied h:=by simp [Pool.create] at h
 abandoned _:=rfl

lemma phase_eq (h:phase r'=phase r):r'.state=r.state ∧ r'.abort=r.abort ∧
  r'.starter=r.starter ∧ r'.stopper=r.stopper:=by
 simpa [phase] using h

lemma Worked.control (hw:Worked r r' index) (h:Control r):Control r':=by
 obtain ⟨hphase,habandoned,halive,hbound,hworkers,hshrinks⟩:=hw
 obtain ⟨hstate,habort,hstarter,hstopper⟩:=phase_eq hphase
 have hstays:(∀other,(r.workers other).Quiet) → False:=fun hquiet=>halive (hquiet index)
 have hunstarted:∀other,r.workers other=.unstarted → r'.workers other=.unstarted:=by
  intro other hother
  have hne:other≠index:=by
   rintro rfl
   exact halive (Or.inl hother)
  rw [hworkers other hne,hother]
 refine ⟨hphase▸h.phases,?_,?_,?_,?_,?_,?_,?_,?_⟩
 · rw [hstate]
   exact fun hnew=>(h.unused hnew).shrinks hshrinks
 · rw [hstate]
   exact fun hnew other=>hunstarted other (h.unstarted hnew other)
 · rw [hstarter]
   exact fun next hlaunching other hle=>hunstarted other (h.launching next hlaunching other hle)
 · intro other
   by_cases hne:other=index
   · exact hne▸hbound
   · exact hworkers other hne▸h.bounds other
 · rw [hstopper,habort]
   exact fun hjoined=>(hstays (h.joined hjoined)).elim
 · rw [hstopper]
   exact fun next hdetaching=>(hstays (h.joined (Or.inl ⟨next,hdetaching⟩))).elim
 · rw [hstopper,habort]
   exact fun hemptied=>(hstays (h.joined (Or.inr hemptied))).elim
 · rw [habandoned,hstopper]
   exact h.abandoned

structure Accepted (r r':Pool config) (task:Task) (slot:Fin config.workers)
  (system:Bool):Prop where
 running:r.state=.running
 queues:r'.queues=update r.queues slot ((r.queues slot).append system task)
 calls:r'.calls=update r.calls task .returned
 count:r'.systemCount=r.systemCount+if system then 1 else 0
 available:r'.systemAvailable=(system || r.systemAvailable)
 phase:phase r'=phase r
 workers:r'.workers=r.workers
 finished:r'.finished=r.finished
 abandoned:r'.abandoned=r.abandoned

lemma publish_cases (r:Pool config) (task:Task) (system:Bool) (start offset:ℕ):
  (∃call,call≠.returned ∧ r.publish task system start offset=r.setCall task call) ∨
   Accepted r (r.publish task system start offset) task (config.slot start offset) system:=by
 unfold Pool.publish
 by_cases hoffset:offset<config.workers
 · rw [if_pos hoffset]
   dsimp only
   by_cases hrunning:r.state=.running
   · rw [if_neg (not_not.2 hrunning)]
     by_cases hfull:(r.queues (config.slot start offset)).Full system
     · rw [if_pos hfull]
       exact Or.inl ⟨.publishing system start (offset+1),nofun,rfl⟩
     · rw [if_neg hfull]
       cases system with
       | true=>exact Or.inr ⟨hrunning,rfl,rfl,rfl,rfl,rfl,rfl,rfl,rfl⟩
       | false=>exact Or.inr ⟨hrunning,rfl,rfl,(Int.add_zero _).symm,rfl,rfl,rfl,rfl,rfl⟩
   · rw [if_pos hrunning]
     exact Or.inl ⟨.raised _,nofun,rfl⟩
 · rw [if_neg hoffset]
   exact Or.inl ⟨.raised _,nofun,rfl⟩

lemma Accepted.control {task:Task} {slot:Fin config.workers} {system:Bool}
  (ha:Accepted r r' task slot system) (h:Control r):Control r':=by
 obtain ⟨hstate,habort,hstarter,hstopper⟩:=phase_eq ha.phase
 have hphases:¬Stops r.stopper ∧ r.stopper≠.returned:=h.phases.not_running ha.running
 refine ⟨ha.phase▸h.phases,?_,?_,?_,ha.workers▸h.bounds,?_,?_,?_,?_⟩
 · rw [hstate,ha.running]
   exact fun hnew=>by simp at hnew
 · rw [hstate,ha.workers]
   exact h.unstarted
 · rw [hstarter,ha.workers]
   exact h.launching
 · rw [hstopper,habort,ha.workers]
   exact h.joined
 · rw [hstopper]
   exact fun next hdetaching=>(hphases.1 (hdetaching▸trivial)).elim
 · rw [hstopper]
   rintro (hfinishing|⟨hreturned,-⟩)
   · exact (hphases.1 (hfinishing▸trivial)).elim
   · exact (hphases.2 hreturned).elim
 · rw [ha.abandoned,hstopper]
   exact h.abandoned

section

variable (h:Control r) (hphase:(phase r).Step (phase r')) (hworkers:r'.workers=r.workers)
 (habandoned:r'.abandoned=r.abandoned) (hshrinks:Shrinks r r')
include h hphase hworkers habandoned hshrinks

lemma Control.move
  (hjoined:(∃next,r'.stopper=.detaching next) ∨ r'.stopper=.finishing ∨
   r'.stopper=.returned ∧ r'.abort=false → ∀index,(r.workers index).Quiet)
  (hdetached:∀next,r'.stopper=.detaching next →
   ∀index:Fin config.workers,index<next → Empty (r.queues index))
  (hemptied:r'.stopper=.finishing ∨ r'.stopper=.returned ∧ r'.abort=false → AllEmpty r):
  Control r':=by
 obtain ⟨hunused,hunstarted,hlaunching,hopen⟩:=hphase.before
 refine ⟨h.phases.step hphase,fun hnew=>(h.unused (hunused hnew)).shrinks hshrinks,?_,?_,
  hworkers▸h.bounds,hworkers▸hjoined,fun next hstopper index hlt=>?_,
  fun hstopper=>(hemptied hstopper).shrinks hshrinks,
  fun hstopper=>habandoned.trans (h.abandoned (hopen hstopper))⟩
 · rw [hworkers]
   exact fun hnew=>h.unstarted (hunstarted hnew)
 · intro next hstarter index hle
   rw [hworkers]
   rcases hlaunching next hstarter with hnew|⟨first,hfirst,hsame⟩
   · exact h.unstarted hnew index
   · exact h.launching first hsame index (hfirst.trans hle)
 · exact ⟨(hshrinks index).1 (hdetached next hstopper index hlt).1,
    (hshrinks index).2 (hdetached next hstopper index hlt).2⟩

lemma Control.early
  (hearly:(∀next,r'.stopper≠.detaching next) ∧ r'.stopper≠.finishing ∧ (r'.stopper=.returned →
   r'.abort=true)):Control r':=by
 obtain ⟨hdetaching,hfinishing,hreturned⟩:=hearly
 have hnot:¬(r'.stopper=.returned ∧ r'.abort=false):=by
  rintro ⟨hstopper,habort⟩
  rw [hreturned hstopper] at habort
  cases habort
 refine h.move hphase hworkers habandoned hshrinks ?_ ?_ ?_
 · rintro (⟨next,hnext⟩|hlate|hlate)
   · exact absurd hnext (hdetaching next)
   · exact absurd hlate hfinishing
   · exact absurd hlate hnot
 · exact fun next hnext=>absurd hnext (hdetaching next)
 · rintro (hlate|hlate)
   · exact absurd hlate hfinishing
   · exact absurd hlate hnot

end

lemma Control.launch (h:Control r) {next:ℕ} (hstarter:r.starter=.launching next)
  (hnext:next<config.workers):
  Control { r.setWorker ⟨next,hnext⟩ .entering with starter:=.launching (next+1) }:=by
 have hstarting:r.state=.starting:=h.phases.launching next hstarter
 have hstopper:r.stopper=.idle ∨ r.stopper=.raised:=
  h.phases.busy (h.phases.starting hstarting)
 refine ⟨h.phases.step (.launch next hstarter),h.unused,?_,?_,?_,?_,?_,?_,h.abandoned⟩
 · exact fun hnew=>nomatch hstarting.symm.trans hnew
 · intro later hlater index hle
   cases hlater
   have hne:index≠⟨next,hnext⟩:=Fin.ne_of_gt hle
   exact (update_of_ne hne _ _).trans
    (h.launching next hstarter index (Nat.le_of_succ_le hle))
 · intro index
   change InRange config (update r.workers _ _ index)
   rw [update_apply]
   split
   · trivial
   · exact h.bounds index
 all_goals rcases hstopper with hstopper|hstopper <;> simp [hstopper,Pool.setWorker]

lemma Control.detach (h:Control r) {next:ℕ} (hstopper:r.stopper=.detaching next)
  (hnext:next<config.workers):
  Control { r.setQueue ⟨next,hnext⟩ (r.queues ⟨next,hnext⟩).detach with
   abandoned:=r.abandoned++(r.queues ⟨next,hnext⟩).tasks ++
    (r.queues ⟨next,hnext⟩).systemTasks
   stopper:=.detaching (next+1) }:=by
 have hstops:Stops r.stopper:=hstopper▸trivial
 have hstate:r.state=.stopping:=h.phases.stops hstops
 refine ⟨h.phases.step (.goesOn (.detaching (next+1)) hstops (Or.inl trivial)),?_,?_,h.launching,
  h.bounds,fun _=>h.joined (Or.inl ⟨next,hstopper⟩),?_,?_,?_⟩
 · rintro (hnew|hnew) <;> cases hstate.symm.trans hnew
 · exact fun hnew=>nomatch hstate.symm.trans hnew
 · intro later hlater index hlt
   cases hlater
   change Empty (update r.queues ⟨next,hnext⟩ (r.queues ⟨next,hnext⟩).detach index)
   by_cases hindex:index=⟨next,hnext⟩
   · rw [hindex,update_self]
     exact ⟨rfl,rfl⟩
   · rw [update_of_ne hindex]
     exact h.detached next hstopper index
      (lt_of_le_of_ne (Nat.le_of_lt_succ hlt) fun heq=>hindex (Fin.ext heq))
 · rintro (hfinishing|⟨hreturned,-⟩)
   · cases hfinishing
   · cases hreturned
 · rintro (hidle|hentered)
   · cases hidle
   · cases hentered

lemma Control.starter (h:Control r) (hstep:r.startStep=some r'):Control r':=by
 have hmove:∀ {t:Pool config},(phase r).Step (phase t) → t.workers=r.workers →
  t.abandoned=r.abandoned → Shrinks r t → t.stopper=r.stopper → t.abort=r.abort → Control t:=by
  intro t hphase hworkers habandoned hshrinks hstopper habort
  refine h.move hphase hworkers habandoned hshrinks ?_ ?_ ?_ <;> rw [hstopper]
  · rw [habort]
    exact h.joined
  · exact h.detached
  · rw [habort]
    exact h.emptied
 unfold Pool.startStep at hstep
 split at hstep
 · rename_i next hstarter
   split at hstep
   · rename_i hnext
     cases hstep
     exact h.launch hstarter hnext
   · cases hstep
     exact hmove (.launched next hstarter) rfl rfl (shrinks_refl r) rfl rfl
 · rename_i hstarter
   cases hstep
   exact hmove (.aborts hstarter) rfl rfl (shrinks_refl r) rfl rfl
 · rename_i next hstarter
   split at hstep
   · cases hstep
     exact hmove (.wakes next hstarter) rfl rfl (shrinks_wake r _) rfl rfl
   · cases hstep
     exact hmove (.woken next hstarter) rfl rfl (shrinks_refl r) rfl rfl
 · rename_i hstarter
   cases hstep
   exact hmove (.startEnds hstarter) rfl rfl (shrinks_refl r) rfl rfl
 all_goals cases hstep

lemma Control.stopper (h:Control r) (hstep:r.stopStep=some r'):Control r':=by
 unfold Pool.stopStep at hstep
 split at hstep
 · rename_i hstopper
   split at hstep
   · rename_i hstate
     cases hstep
     -- Unless there was an abort, the state is not `STOPPED` before `stop` sets it.
     have habort:r.abort=true:=by
      by_contra hfalse
      exact (h.phases.before (Bool.eq_false_iff.2 hfalse) (Or.inr hstopper)).2 hstate
     exact h.early (.stopsStopped hstopper hstate) rfl rfl (shrinks_refl r)
      ⟨nofun,nofun,fun _=>habort⟩
   · rename_i hstate
     cases hstep
     exact h.move (.stopsNew hstopper hstate) rfl rfl (shrinks_refl r)
      (fun _ index=>Or.inl (h.unstarted hstate index)) nofun fun _=>h.unused (Or.inl hstate)
   · rename_i hstate
     cases hstep
     exact h.early (.stopsRunning hstopper hstate) rfl rfl (shrinks_refl r) ⟨nofun,nofun,nofun⟩
   all_goals
    rename_i hstate
    cases hstep
    refine h.early (.stopsLate hstopper ?_) rfl rfl (shrinks_refl r) ⟨nofun,nofun,nofun⟩
   · exact Or.inl hstate
   · exact Or.inr hstate
 · rename_i aborting next hstopper
   have hstops:Stops r.stopper:=hstopper▸trivial
   split at hstep
   · cases hstep
     exact h.early (.goesOn _ hstops (Or.inl trivial)) rfl rfl (shrinks_wake r _)
      ⟨nofun,nofun,nofun⟩
   · cases hstep
     cases aborting with
     | true=>
      exact h.early (.goesOn _ hstops (Or.inr rfl)) rfl rfl (shrinks_refl r) ⟨nofun,nofun,nofun⟩
     | false=>
      exact h.early (.goesOn _ hstops (Or.inl trivial)) rfl rfl (shrinks_refl r)
       ⟨nofun,nofun,nofun⟩
 · rename_i hstopper
   have hstops:Stops r.stopper:=hstopper▸trivial
   split at hstep
   · rename_i hquiet
     cases hstep
     refine h.move (.goesOn (.detaching 0) hstops (Or.inl trivial)) rfl rfl (shrinks_refl r)
      (fun _=>hquiet) ?_ ?_
     · rintro next hnext index hlt
       cases hnext
       exact absurd hlt (Nat.not_lt_zero _)
     · rintro (hlate|⟨hlate,-⟩) <;> cases hlate
   · cases hstep
 · rename_i next hstopper
   split at hstep
   · rename_i hnext
     cases hstep
     exact h.detach hstopper hnext
   · rename_i hnext
     cases hstep
     have hempty:AllEmpty r:=fun index=>
      h.detached next hstopper index (index.isLt.trans_le (Nat.not_lt.1 hnext))
     exact h.move (.goesOn .finishing (hstopper▸trivial:Stops r.stopper) (Or.inl trivial)) rfl rfl
      (shrinks_refl r) (fun _=>h.joined (Or.inl ⟨next,hstopper⟩)) nofun fun _=>hempty
 · rename_i hstopper
   cases hstep
   exact h.move (.stopEnds hstopper) rfl rfl (shrinks_refl r)
    (fun _=>h.joined (Or.inr (Or.inl hstopper))) nofun fun _=>h.emptied (Or.inl hstopper)
 all_goals cases hstep

lemma Control.stopTimeout (h:Control r) (hstep:r.stopTimeout=some r'):Control r':=by
 unfold Pool.stopTimeout at hstep
 split at hstep
 · rename_i hstopper
   cases hstep
   exact h.early (.raises hstopper) rfl rfl (shrinks_refl r) ⟨nofun,nofun,nofun⟩
 · rename_i hstopper
   cases hstep
   exact h.early (.goesOn .raised (hstopper▸trivial:Stops r.stopper) (Or.inr rfl)) rfl rfl
    (shrinks_refl r) ⟨nofun,nofun,nofun⟩
 · rename_i hstopper
   split at hstep
   · cases hstep
   · cases hstep
     exact h.early (.aborted hstopper) rfl rfl (shrinks_refl r) ⟨nofun,nofun,nofun⟩
 all_goals cases hstep

lemma Control.setCall (h:Control r) (task:Task) (call:Call):Control (r.setCall task call):=
 ⟨h.phases,h.unused,h.unstarted,h.launching,h.bounds,h.joined,h.detached,h.emptied,h.abandoned⟩

lemma control_next {event:Event config} (h:Control r) (hstep:next r event=some r'):
  Control r':=by
 cases event with
 | start=>
  simp only [next] at hstep
  split at hstep
  · rename_i hfree
    cases hstep
    exact h.move (.start hfree.2 hfree.1.2) rfl rfl (shrinks_refl r) h.joined h.detached h.emptied
  · cases hstep
 | starter=>exact h.starter hstep
 | startFails=>
  simp only [next] at hstep
  split at hstep
  · rename_i later hstarter
    cases hstep
    refine h.move (.startFails later hstarter) rfl rfl (shrinks_refl r) ?_ h.detached ?_
    · exact fun hlate=>h.joined (by simpa using hlate.imp_right (Or.imp_right nofun))
    · exact fun hlate=>h.emptied (by simpa using hlate.imp_right nofun)
  · cases hstep
 | call task system start=>
  simp only [next] at hstep
  split at hstep
  · cases hstep
    exact h.setCall task _
  · cases hstep
 | publish task=>
  simp only [next] at hstep
  split at hstep
  · cases hstep
    rcases publish_cases r task _ _ _ with ⟨call,-,heq⟩|haccepted
    · rw [heq]
      exact h.setCall task call
    · exact haccepted.control h
  · cases hstep
 | worker index=>exact (turn_of_workerStep hstep).worked.control h
 | stop=>
  simp only [next] at hstep
  split at hstep
  · rename_i hfree
    cases hstep
    refine h.early (.stop (fun hbusy=>?_) hfree.2) rfl rfl (shrinks_refl r) ⟨nofun,nofun,nofun⟩
    rcases hfree.1.1 with hstarter|hstarter|hstarter
    · exact hbusy.1 hstarter
    · exact hbusy.2.1 hstarter
    · exact hbusy.2.2 hstarter
  · cases hstep
 | stopper=>exact h.stopper hstep
 | stopTimeout=>exact h.stopTimeout hstep

end

end Movie.WorkerPoolControl
