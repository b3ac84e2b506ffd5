import Movie.Reachability
import Mathlib.Data.Fintype.Basic
import Mathlib.Logic.Function.Basic

/-!
# The worker pool dispatcher

`WorkerPoolDispatcherImpl` of `dispatch/worker_pool.py`: sharded queues, their workers, the calls
that publish, `start` and one `stop`. A step is one section under a lock or one access to an event
or to the state. Where a call begins its round is a parameter.
-/
namespace Movie.WorkerPool

open Function Reachability

inductive DispatcherState where
 | new
 | starting
 | running
 | stopping
 | stopped
 deriving DecidableEq

abbrev Task:=ℕ

structure WorkQueue where
 tasks:List Task
 systemTasks:List Task
 ready:Bool
 capacity:ℕ
 systemCapacity:ℕ

namespace WorkQueue

def takeSystem (queue:WorkQueue) (owner:Bool):WorkQueue×Option Task:=
 match queue.systemTasks with
 | []=>({ queue with ready:=queue.ready && !(owner && queue.tasks.isEmpty) },none)
 | task::rest=>
  ({ queue with
   systemTasks:=rest
   ready:=queue.ready && !(owner && rest.isEmpty && queue.tasks.isEmpty) },some task)

def takeOrdinary (queue:WorkQueue) (owner:Bool):WorkQueue×Option Task:=
 match queue.tasks with
 | []=>({ queue with ready:=queue.ready && !(owner && queue.systemTasks.isEmpty) },none)
 | task::rest=>
  ({ queue with
   tasks:=rest
   ready:=queue.ready && !(owner && queue.systemTasks.isEmpty && rest.isEmpty) },some task)

def append (queue:WorkQueue) (system:Bool) (task:Task):WorkQueue:=
 let ready:=queue.ready || (queue.tasks.isEmpty && queue.systemTasks.isEmpty)
 if system then { queue with systemTasks:=queue.systemTasks++[task],ready:=ready }
 else { queue with tasks:=queue.tasks++[task],ready:=ready }

def Full (queue:WorkQueue) (system:Bool):Prop:=
 if system then queue.systemCapacity≤queue.systemTasks.length
 else queue.capacity≤queue.tasks.length

instance (queue:WorkQueue) (system:Bool):Decidable (queue.Full system):=
 inferInstanceAs (Decidable (ite _ _ _))

def detach (queue:WorkQueue):WorkQueue:=
 { queue with tasks:=[],systemTasks:=[],ready:=false }

end WorkQueue

structure PoolConfig where
 workers:ℕ
 queueCapacity:ℕ
 systemQueueCapacity:ℕ
 workers_pos:0<workers
 queueCapacity_pos:0<queueCapacity
 systemQueueCapacity_pos:0<systemQueueCapacity

def PoolConfig.slot (config:PoolConfig) (start offset:ℕ):Fin config.workers:=
 ⟨(start+offset) % config.workers,Nat.mod_lt _ config.workers_pos⟩

def PoolConfig.share (config:PoolConfig) (capacity index:ℕ):ℕ:=
 capacity / config.workers+if index<capacity % config.workers then 1 else 0

/-- Where a worker stands in `run` and `next_task`; `again` marks the second scan of a round,
 made after the worker has announced that it is idle. -/
inductive Worker where
 | unstarted
 | entering
 | looking (again:Bool)
 | scanningSystem (again:Bool) (offset:ℕ)
 | counting (task:Task)
 | scanningOrdinary (again:Bool) (offset:ℕ)
 | deciding (again:Bool)
 | waiting
 | running (task:Task)
 | ended
 deriving DecidableEq

def Worker.Quiet (worker:Worker):Prop:=worker=.unstarted ∨ worker=.ended

instance (worker:Worker):Decidable worker.Quiet:=inferInstanceAs (Decidable (_ ∨ _))

/-- How far a call of `dispatch` or `dispatch_system` has come. -/
inductive Call where
 | unmade
 | publishing (system:Bool) (start offset:ℕ)
 | returned
 | raised (error:String)
 deriving DecidableEq

inductive Starter where
 | idle
 | launching (next:ℕ)
 | aborting
 | waking (next:ℕ)
 | joining
 | returned
 | raised
 deriving DecidableEq

inductive Stopper where
 | idle
 | entered
 | waking (aborting:Bool) (next:ℕ)
 | joining
 | detaching (next:ℕ)
 | finishing
 | returned
 | raised
 deriving DecidableEq

/-- The dispatcher with its threads. The code has no `finished` and `abandoned`, the tasks that
 left the queues. -/
structure Pool (config:PoolConfig) where
 state:DispatcherState
 abort:Bool
 queues:Fin config.workers → WorkQueue
 systemCount:ℤ
 systemAvailable:Bool
 workers:Fin config.workers → Worker
 calls:Task → Call
 starter:Starter
 stopper:Stopper
 finished:List Task
 abandoned:List Task

namespace Pool

variable {config:PoolConfig}

def create (config:PoolConfig):Pool config where
 state:=.new
 abort:=false
 queues index:=⟨[],[],false,config.share config.queueCapacity index,
  config.share config.systemQueueCapacity index⟩
 systemCount:=0
 systemAvailable:=false
 workers _:=.unstarted
 calls _:=.unmade
 starter:=.idle
 stopper:=.idle
 finished:=[]
 abandoned:=[]

def setQueue (r:Pool config) (index:Fin config.workers) (queue:WorkQueue):Pool config:=
 { r with queues:=update r.queues index queue }

def setWorker (r:Pool config) (index:Fin config.workers) (worker:Worker):Pool config:=
 { r with workers:=update r.workers index worker }

def setCall (r:Pool config) (task:Task) (call:Call):Pool config:=
 { r with calls:=update r.calls task call }

def wake (r:Pool config) (index:Fin config.workers):Pool config:=
 r.setQueue index { r.queues index with ready:=true }

/-- One round of the loop of `_publish`, under the lock of the queue it has come to. -/
def publish (r:Pool config) (task:Task) (system:Bool) (start offset:ℕ):Pool config:=
 if offset<config.workers then
  let index:=config.slot start offset
  let queue:=r.queues index
  if r.state≠.running then
   r.setCall task (.raised "Dispatcher is not accepting tasks")
  else if queue.Full system then r.setCall task (.publishing system start (offset+1))
  else
   let r':=(r.setQueue index (queue.append system task)).setCall task .returned
   if system then { r' with systemCount:=r.systemCount+1,systemAvailable:=true } else r'
 else
  r.setCall task (.raised (if system then "Dispatcher system activation queue is full"
   else "Dispatcher ordinary activation queue is full"))

/-- One step of a worker; `none` where it is blocked or has no step. -/
def workerStep (r:Pool config) (index:Fin config.workers):Option (Pool config):=
 match r.workers index with
 | .unstarted=>none
 | .entering=>some (r.setWorker index (if r.abort then .ended else .looking false))
 | .looking again=>
  some (r.setWorker index
   (if r.systemAvailable then .scanningSystem again 0 else .scanningOrdinary again 0))
 | .scanningSystem again offset=>
  let slot:=config.slot index offset
  match (r.queues slot).takeSystem (decide (offset=0)) with
  | (queue,some task)=>some ((r.setQueue slot queue).setWorker index (.counting task))
  | (queue,none)=>some ((r.setQueue slot queue).setWorker index
   (if offset+1<config.workers then .scanningSystem again (offset+1)
    else .scanningOrdinary again 0))
 | .counting task=>
  some ({ r with
   systemCount:=r.systemCount - 1
   systemAvailable:=if r.systemCount - 1=0 then false else r.systemAvailable }.setWorker
    index (.running task))
 | .scanningOrdinary again offset=>
  let slot:=config.slot index offset
  match (r.queues slot).takeOrdinary (decide (offset=0)) with
  | (queue,some task)=>some ((r.setQueue slot queue).setWorker index (.running task))
  | (queue,none)=>some ((r.setQueue slot queue).setWorker index
   (if offset+1<config.workers then .scanningOrdinary again (offset+1)
    else .deciding again))
 | .deciding again=>
  some (r.setWorker index
   (if r.state=.stopping ∨ r.state=.stopped then .ended
    else if again then .waiting else .looking true))
 | .waiting=>if (r.queues index).ready then some (r.setWorker index .entering) else none
 | .running task=>
  some ({ r with finished:=r.finished++[task] }.setWorker index .entering)
 | .ended=>none

def LockFree (r:Pool config):Prop:=
 (r.starter=.idle ∨ r.starter=.returned ∨ r.starter=.raised) ∧
 (r.stopper=.idle ∨ r.stopper=.returned ∨ r.stopper=.raised)

instance (r:Pool config):Decidable r.LockFree:=inferInstanceAs (Decidable (_ ∧ _))

def startStep (r:Pool config):Option (Pool config):=
 match r.starter with
 | .launching next=>
  if h:next<config.workers then
   some { r.setWorker ⟨next,h⟩ .entering with starter:=.launching (next+1) }
  else some { r with state:=.running,starter:=.returned }
 | .aborting=>some { r with state:=.stopping,starter:=.waking 0 }
 | .waking next=>
  if h:next<config.workers then
   some { r.wake ⟨next,h⟩ with starter:=.waking (next+1) }
  else some { r with starter:=.joining }
 | .joining=>some { r with state:=.stopped,starter:=.raised }
 | .idle | .returned | .raised=>none

def stopStep (r:Pool config):Option (Pool config):=
 match r.stopper with
 | .entered=>
  match r.state with
  | .stopped=>some { r with stopper:=.returned }
  | .new=>some { r with state:=.stopped,stopper:=.returned }
  | .running=>some { r with state:=.stopping,stopper:=.waking false 0 }
  | .starting | .stopping=>some { r with stopper:=.joining }
 | .waking aborting next=>
  if h:next<config.workers then
   some { r.wake ⟨next,h⟩ with stopper:=.waking aborting (next+1) }
  else some { r with stopper:=if aborting then .raised else .joining }
 | .joining=>
  if ∀index,(r.workers index).Quiet then some { r with stopper:=.detaching 0 } else none
 | .detaching next=>
  if h:next<config.workers then
   some { r.setQueue ⟨next,h⟩ (r.queues ⟨next,h⟩).detach with
    abandoned:=r.abandoned++(r.queues ⟨next,h⟩).tasks++(r.queues ⟨next,h⟩).systemTasks
    stopper:=.detaching (next+1) }
  else some { r with systemCount:=0,systemAvailable:=false,stopper:=.finishing }
 | .finishing=>some { r with state:=.stopped,stopper:=.returned }
 | .idle | .returned | .raised=>none

def stopTimeout (r:Pool config):Option (Pool config):=
 match r.stopper with
 | .entered | .finishing=>some { r with stopper:=.raised }
 | .joining=>
  if ∀index,(r.workers index).Quiet then none
  else some { r with abort:=true,stopper:=.waking true 0 }
 | .idle | .waking .. | .detaching _ | .returned | .raised=>none

end Pool

inductive Event (config:PoolConfig) where
 | start
 | starter
 | startFails
 | call (task:Task) (system:Bool) (start:ℕ)
 | publish (task:Task)
 | worker (index:Fin config.workers)
 | stop
 | stopper
 | stopTimeout

def next {config:PoolConfig} (r:Pool config):Event config → Option (Pool config)
 | .start=>
  if r.LockFree ∧ r.state=.new then some { r with state:=.starting,starter:=.launching 0 }
  else none
 | .starter=>r.startStep
 | .startFails=>
  match r.starter with
  | .launching _=>some { r with abort:=true,starter:=.aborting }
  | _=>none
 | .call task system start=>
  if r.calls task=.unmade then some (r.setCall task (.publishing system start 0)) else none
 | .publish task=>
  match r.calls task with
  | .publishing system start offset=>some (r.publish task system start offset)
  | _=>none
 | .worker index=>r.workerStep index
 | .stop=>if r.LockFree ∧ r.stopper=.idle then some { r with stopper:=.entered } else none
 | .stopper=>r.stopStep
 | .stopTimeout=>r.stopTimeout

def system (config:PoolConfig):System (Pool config) (Event config) where
 init r:=r=.create config
 step r event r':=next r event=some r'

end Movie.WorkerPool
