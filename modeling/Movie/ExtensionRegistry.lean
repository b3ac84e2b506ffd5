import Movie.Reachability
import Mathlib.Data.List.AList
import Mathlib.Logic.Function.Basic

/-!
# The registry of extensions

`ExtensionRegistry.get` and `stop_all` of `actor/extension.py` from the activation on. A step is one
section under the condition or the end of a call of the extension's code, which may call `get`
again. A notified thread keeps its entry in `_waiting_for` until it has the lock again.
-/
namespace Movie.ExtensionRegistry

open Reachability

inductive RegistryState where
 | active
 | preparing
 | stopping
 | stopped
 deriving DecidableEq

structure Extension where
 object:ℕ
 managed:Bool
 deriving DecidableEq

/-- Where an initialisation stands: in `create_extension`, `start` or the `stop` that cleans up,
 or before the last section under the lock. -/
inductive Stage where
 | creating
 | starting
 | cleaning
 | failing (cleaned:Bool)
 | finishing
 deriving DecidableEq

structure Frame where
 key:ℕ
 stage:Stage
 extension:Option Extension

inductive Phase where
 | entering
 | waiting
 | woken
 deriving DecidableEq

structure Call where
 key:ℕ
 phase:Phase
 deriving DecidableEq

/-- The initialisations that a thread is in, the innermost first, and its innermost `get`. -/
structure Thread where
 frames:List Frame
 call:Option Call

inductive Stopper where
 | idle
 | waiting
 | choosing
 | stopping (key:ℕ)
 deriving DecidableEq

structure Registry where
 state:RegistryState
 instances:List (ℕ×Extension)
 configured:List ℕ
 initializing:AList fun _:ℕ=>ℕ
 waitingFor:AList fun _:ℕ=>ℕ
 started:List ℕ
 stopped:List ℕ
 failed:List ℕ
 threads:ℕ → Thread
 stopper:Stopper
 created:ℕ

def Registry.activate (configured:List (ℕ×Extension)):Registry where
 state:=.active
 instances:=configured
 configured:=configured.map (·.1)
 initializing:=∅
 waitingFor:=∅
 started:=[]
 stopped:=[]
 failed:=[]
 threads _:=⟨[],none⟩
 stopper:=.idle
 created:=configured.length

inductive LookupError where
 | stopping
 | failedStart
 | notActive
 | recursive
 | cycle
 deriving DecidableEq

inductive Outcome where
 | raises (error:LookupError)
 | returns (extension:Extension)
 | waits (owner:ℕ)
 | initializes
 deriving DecidableEq

/-- The walk along `_waiting_for`; `none` when it needs more steps than the fuel. -/
def walk (waitingFor:AList fun _:ℕ=>ℕ) (owner:ℕ):ℕ → ℕ → Option Bool
 | 0,_=>none
 | fuel+1,current=>
  match waitingFor.lookup current with
  | none=>some false
  | some following=>
   if following=owner then some true else walk waitingFor owner fuel following

def Call.wake (call:Call):Call:=
 if call.phase=.waiting then { call with phase:=.woken } else call

namespace Registry

def setThread (r:Registry) (thread:ℕ) (value:Thread):Registry:=
 { r with threads:=Function.update r.threads thread value }

def notifyAll (r:Registry):Registry:=
 { r with threads:=fun thread=>
  ⟨(r.threads thread).frames,(r.threads thread).call.map Call.wake⟩ }

def instanceOf (r:Registry) (key:ℕ):Option Extension:=r.instances.lookup key

def setInstance (r:Registry) (key:ℕ) (extension:Extension):Registry:=
 { r with instances:=
  if (r.instanceOf key).isSome then
   r.instances.map fun entry=>if entry.1=key then (key,extension) else entry
  else r.instances++[(key,extension)] }

/-- One round of the loop of `get` under the lock, after the entry of the thread has been taken
 out of `_waiting_for`. -/
def round (r:Registry) (thread key fuel:ℕ):Option Outcome:=
 if r.state=.stopping ∨ r.state=.stopped then
  some (.raises .stopping)
 else if key∈r.failed then some (.raises .failedStart)
 else match r.instanceOf key,decide (key∈r.started) with
  | some extension,true=>some (.returns extension)
  | _,_=>
   if r.state≠.active then some (.raises .notActive)
   else match r.initializing.lookup key with
    | some owner=>
     if owner=thread then some (.raises .recursive)
     else (walk (r.waitingFor.insert thread owner) thread fuel owner).map fun cycle=>
      if cycle then .raises .cycle else .waits owner
    | none=>some .initializes

def firstStage : Option Extension → Stage
 | none=>.creating
 | some extension=>if extension.managed then .starting else .finishing

def lock (r:Registry) (thread fuel:ℕ):Option Registry:=
 match (r.threads thread).call with
 | some ⟨key,phase⟩=>
  if phase=.waiting then none
  else
   let free:={ r with waitingFor:=r.waitingFor.erase thread }
   let frames:=(r.threads thread).frames
   (free.round thread key fuel).map fun
    | .raises _ | .returns _=>free.setThread thread ⟨frames,none⟩
    | .waits owner=>
     { free with waitingFor:=free.waitingFor.insert thread owner }.setThread thread
      ⟨frames,some ⟨key,.waiting⟩⟩
    | .initializes=>
     { free with initializing:=free.initializing.insert key thread }.setThread thread
      ⟨⟨key,firstStage (r.instanceOf key),r.instanceOf key⟩::frames,none⟩
 | none=>none

def cleanup : Option Extension → Stage
 | some ⟨_,true⟩=>.cleaning
 | _=>.failing true

def callback (r:Registry) (thread:ℕ) (frame:Frame) (frames:List Frame)
  (returns:Option Bool):Option Registry:=
 let enter (r:Registry) (extension:Option Extension) (stage:Stage):=
  r.setThread thread ⟨⟨frame.key,stage,extension⟩::frames,none⟩
 match frame.stage,returns with
 | .creating,some managed=>
  let extension:=⟨r.created,managed⟩
  let published:=({ r with created:=r.created+1 }.setInstance frame.key extension).notifyAll
  some (enter published (some extension)
   ((if r.state=.active then firstStage else cleanup) (some extension)))
 | .creating,none=>some (enter r none (.failing true))
 | .starting,some _=>some (enter r frame.extension .finishing)
 | .starting,none=>some (enter r frame.extension .cleaning)
 | .cleaning,answer=>some (enter r frame.extension (.failing answer.isSome))
 | .failing _,_ | .finishing,_=>none

def settle (r:Registry) (thread:ℕ) (frame:Frame) (frames:List Frame):Option Registry:=
 let done (r:Registry):=
  ({ r with initializing:=r.initializing.erase frame.key }.setThread thread
   ⟨frames,none⟩).notifyAll
 match frame.stage with
 | .failing cleaned=>
  if cleaned ∧ frame.key∉r.configured ∧ r.instanceOf frame.key=frame.extension then
   some (done { r with instances:=r.instances.filter (·.1≠frame.key) })
  else some (done { r with failed:=r.failed++[frame.key] })
 | .finishing=>
  frame.extension.map fun extension=>
   done { r.setInstance frame.key extension with started:=r.started++[frame.key] }
 | .creating | .starting | .cleaning=>none

def lifecycleOrder (r:Registry):List ℕ:=
 r.started++(r.instances.map (·.1)).filter (·∉r.started)

def nextToStop (r:Registry):Option ℕ:=
 (r.lifecycleOrder.filter (·∉r.stopped)).getLast?

/-- A section of `stop_all`; it may also run out of time, or the extension's `stop` may fail. -/
def stopStep (r:Registry) (fails:Bool):Option Registry:=
 match r.stopper with
 | .idle=>
  if r.state=.stopped then none
  else some { r with
   state:=.stopping
   stopper:=.waiting }.notifyAll
 | .waiting=>
  if r.initializing.entries=[] then some { r with stopper:=.choosing }
  else if fails then some { r with stopper:=.idle } else none
 | .choosing=>
  match r.nextToStop with
  | none=>some { r with
    state:=.stopped
    stopper:=.idle }.notifyAll
  | some key=>
   some { r with stopper:=if fails then .idle else .stopping key }
 | .stopping key=>
  if fails then some { r with stopper:=.idle }
  else
   let ended:={ r with
    stopper:=.choosing
    failed:=r.failed.filter (·≠key) }
   if key∈r.configured then some { ended with stopped:=r.stopped++[key] }
   else some { ended with
    instances:=r.instances.filter (·.1≠key)
    started:=r.started.erase key }

end Registry

inductive Event where
 | get (thread key:ℕ)
 | lock (thread fuel:ℕ)
 | callback (thread:ℕ) (returns:Option Bool)
 | settle (thread:ℕ)
 | prepare
 | stop (fails:Bool)

/-- `get` is called by a thread that is in no other call of `get` or in the extension's code. -/
def next (r:Registry):Event → Option Registry
 | .get thread key=>
  match r.threads thread with
  | ⟨[],none⟩=>some (r.setThread thread ⟨[],some ⟨key,.entering⟩⟩)
  | ⟨frame::frames,none⟩=>
   if frame.stage=.creating ∨ frame.stage=.starting ∨ frame.stage=.cleaning then
    some (r.setThread thread ⟨frame::frames,some ⟨key,.entering⟩⟩)
   else none
  | ⟨_,some _⟩=>none
 | .lock thread fuel=>r.lock thread fuel
 | .callback thread returns=>
  match r.threads thread with
  | ⟨frame::frames,none⟩=>r.callback thread frame frames returns
  | _=>none
 | .settle thread=>
  match r.threads thread with
  | ⟨frame::frames,none⟩=>r.settle thread frame frames
  | _=>none
 | .prepare=>if r.state=.active then some { r with state:=.preparing }.notifyAll else none
 | .stop fails=>r.stopStep fails

/-- The instances that were configured before the activation have different keys. -/
def system : System Registry Event where
 init r:=∃configured,(configured.map Prod.fst).Nodup ∧ r=.activate configured
 step r event r':=next r event=some r'

end Movie.ExtensionRegistry
