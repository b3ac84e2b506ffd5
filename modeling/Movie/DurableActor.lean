import Movie.ActorContext
import Movie.DurableBehavior

/-!
# Durable State behaviours in their actors

`DurableStateBehavior` with its callbacks, and the part of `LocalActorContext` that hosts it. Any
number of actors share one store. A message may be invoked at any time and in any order, so that
every mailbox is covered.
-/
namespace Movie.DurableActor

open ActorContext (ActorState LocalActorContext SystemMessage)
open DurableModel SQLiteStore DurableHistory SQLiteStoreInvariant Reachability
open DurableBehavior hiding DurableEffect PendingEffect Event

universe u

variable {R:Type u} {S K A:Type}

inductive EffectKind (S:Type) where
 | none
 | persist (state:S) (operationId:OperationId)
 | delete (operationId:OperationId)

structure DurableEffect (S K:Type) where
 kind:EffectKind S
 callbacks:List K
 stop:Bool

def DurableEffect.operationId (effect:DurableEffect S K):Option OperationId:=
 match effect.kind with
 | .none=>none
 | .persist _ operationId | .delete operationId=>some operationId

/-- `effect` is the place of the command in the trace. -/
structure PendingEffect (S K:Type) where
 effect:ℕ
 state:S
 callbacks:List K
 stop:Bool

structure DurableStateBehavior (S K A:Type) where
 internalContext:A
 persistenceId:PersistenceId
 phase:Phase
 revision:ℕ
 state:Option S
 pending:Option (PendingEffect S K)

/-- What the trace records: a call of `handle_command` with the effect it returned, a call of
 a callback, and a commit of the store. -/
inductive Moment (S K:Type) where
 | handled (effect generation:ℕ) (id:PersistenceId) (state:S) (revision:ℕ)
  (returned:Option (DurableEffect S K))
 | ran (effect:ℕ) (callback:K)
 | committed (id:PersistenceId) (operationId:OperationId)

structure Outcome (S K A:Type) where
 behavior:DurableStateBehavior S K A
 suspended:Bool
 moments:List (Moment S K)
 reaction:Reaction S

def Outcome.after (outcome:Outcome S K A) (moment:Moment S K):Outcome S K A:=
 { outcome with moments:=moment::outcome.moments }

/-- `_run_callbacks`: the callbacks that were called, and whether one raised. -/
def runCallbacks (codec:StateCodec S) (state:Option S):
  (ℕ → Bool) → List K → List K×Bool
 | _,[]=>([],false)
 | raises,callback::callbacks=>
  match state.elim (.error "no state") (Behavior.copyState codec) with
  | .error _=>([],true)
  | .ok _=>
   if raises 0 then ([callback],true)
   else
    let rest:=runCallbacks codec state (fun n=>raises (n+1)) callbacks
    (callback::rest.1,rest.2)

namespace DurableStateBehavior

def create (context:A) (id:PersistenceId):DurableStateBehavior S K A:=
 ⟨context,id,.recovering,0,none,none⟩

def raise (b:DurableStateBehavior S K A) (suspended:Bool) (error:BehaviorError):
  Outcome S K A:=
 ⟨b,suspended,[],.raised error⟩

def recoveryFailure (b:DurableStateBehavior S K A) (suspended:Bool):Outcome S K A:=
 b.raise suspended (.recoveryFailed b.persistenceId)

def persistFailure (b:DurableStateBehavior S K A) (suspended:Bool):Outcome S K A:=
 b.raise suspended (.commitFailed b.persistenceId)

def finishPendingEffect (codec:StateCodec S) (b:DurableStateBehavior S K A)
  (suspended applyCandidate:Bool) (callbackRaises:ℕ → Bool):Outcome S K A:=
 match b.pending with
 | none=>b.raise suspended .noPendingEffect
 | some pending=>
  let state:=if applyCandidate then some pending.state else b.state
  let b:={ b with pending:=none,state:=state,phase:=.running }
  let ran:=runCallbacks codec state callbackRaises pending.callbacks
  let moments:=ran.1.map (.ran pending.effect)
  if ran.2 then ⟨b,suspended,moments,.raised .userCode⟩
  else if pending.stop then ⟨{ b with phase:=.stopping },true,moments,.done⟩
  else ⟨b,false,moments,.done⟩

def completeRecovery (entity:Entity S) (b:DurableStateBehavior S K A) (suspended:Bool)
  (result:Except StoreError (Option DurableStateRecord)) (duplicate hookRaises:Bool)
  (callbackRaises:ℕ → Bool):Outcome S K A:=
 match result with
 | .error _=>b.recoveryFailure suspended
 | .ok record=>
  match Behavior.recoveredState entity record with
  | .error _=>b.recoveryFailure suspended
  | .ok (state,revision)=>
   let b:={ b with state:=some state,revision:=revision }
   if hookRaises then b.raise suspended .userCode
   else if duplicate then b.finishPendingEffect entity.codec suspended false callbackRaises
   else ⟨{ b with phase:=.running },false,[],.done⟩

/-- The part of `_process_command` after `handle_command` has returned. -/
def applyEffect (entity:Entity S) (b:DurableStateBehavior S K A) (suspended:Bool)
  (number:ℕ) (argument:S) (effect:DurableEffect S K) (callbackRaises:ℕ → Bool):
  Outcome S K A:=
 match effect.kind with
 | .none=>
  let ran:=runCallbacks entity.codec b.state callbackRaises effect.callbacks
  let moments:=ran.1.map (.ran number)
  if ran.2 then ⟨b,suspended,moments,.raised .userCode⟩
  else if effect.stop then ⟨{ b with phase:=.stopping },true,moments,.done⟩
  else ⟨b,suspended,moments,.done⟩
 | .persist next operationId=>
  match entity.codec.encode next with
  | .error _=>b.persistFailure suspended
  | .ok encoded=>
   match entity.codec.decode encoded with
   | .error _=>b.persistFailure suspended
   | .ok candidate=>
    ⟨{ b with
     pending:=some ⟨number,candidate,effect.callbacks,effect.stop⟩
     phase:=.persisting },true,[],.write operationId (.live encoded) argument⟩
 | .delete operationId=>
  match Behavior.copyState entity.codec entity.emptyState with
  | .error _=>b.persistFailure suspended
  | .ok candidate=>
   ⟨{ b with
    pending:=some ⟨number,candidate,effect.callbacks,effect.stop⟩
    phase:=.persisting },true,[],.write operationId .tombstone argument⟩

def processCommand (entity:Entity S) (b:DurableStateBehavior S K A) (suspended:Bool)
  (generation number:ℕ) (handleCommand:S → Except String (DurableEffect S K))
  (callbackRaises:ℕ → Bool):Outcome S K A:=
 match b.state with
 | none=>b.raise suspended .userCode
 | some current=>
  match Behavior.copyState entity.codec current with
  | .error _=>b.raise suspended .userCode
  | .ok state=>
   match handleCommand state with
   | .error _=>Outcome.after (b.raise suspended .userCode)
    (.handled number generation b.persistenceId state b.revision none)
   | .ok effect=>
    Outcome.after (b.applyEffect entity suspended number state effect callbackRaises)
     (.handled number generation b.persistenceId state b.revision (some effect))

def receive (entity:Entity S) (b:DurableStateBehavior S K A) (suspended:Bool)
  (generation number:ℕ) (handleCommand:S → Except String (DurableEffect S K))
  (callbackRaises:ℕ → Bool):Outcome S K A:=
 if b.phase≠.running then b.raise suspended .suspended
 else b.processCommand entity suspended generation number handleCommand callbackRaises

def completeWrite (codec:StateCodec S) (b:DurableStateBehavior S K A) (suspended:Bool)
  (result:Except StoreError WriteResult) (callbackRaises:ℕ → Bool):Outcome S K A:=
 match result with
 | .error _=>b.persistFailure suspended
 | .ok result=>
  if result.duplicate then ⟨{ b with phase:=.recovering },suspended,[],.load true⟩
  else if result.revision≠b.revision+1 then b.persistFailure suspended
  else { b with revision:=result.revision }.finishPendingEffect codec suspended true
   callbackRaises

end DurableStateBehavior

/-- What `_behavior` of a context is. -/
inductive Installed where
 | deferred
 | failed
 | durable (generation:ℕ)
 deriving DecidableEq

structure Actor where
 context:LocalActorContext
 behavior:Installed
 deriving DecidableEq

/-- The generation whose methods the actor may call. -/
def Actor.live (actor:Actor):Option ℕ:=
 match actor.behavior with
 | .durable generation=>if actor.context.state=.stopped then none else some generation
 | _=>none

/-- What the factory and the surroundings decide when a behaviour is materialized; a refused
 start is a constructor that raises. -/
structure Startup where
 id:PersistenceId
 accepted:Bool

structure Host (R:Type u) (S K A:Type) where
 db:Database R
 commits:List (Commit S)
 objects:ℕ → Option (DurableStateBehavior S K A)
 nextGeneration:ℕ
 inflight:List (ℕ×Operation S)
 actors:A → Actor
 trace:List (Moment S K)

namespace Host

variable [DecidableEq A]

def setActor (h:Host R S K A) (a:A) (actor:Actor):Host R S K A:=
 { h with actors:=Function.update h.actors a actor }

def setContext (h:Host R S K A) (a:A) (context:LocalActorContext):Host R S K A:=
 h.setActor a { h.actors a with context:=context }

def setObject (h:Host R S K A) (g:ℕ) (b:DurableStateBehavior S K A):Host R S K A:=
 { h with objects:=Function.update h.objects g (some b) }

def submit (h:Host R S K A) (g:ℕ) (operation:Operation S):Host R S K A:=
 { h with inflight:=h.inflight++[(g,operation)] }

def stopBehavior (h:Host R S K A):Installed → Host R S K A
 | .durable g=>
  match h.objects g with
  | none=>h
  | some b=>h.setObject g { b with phase:=.stopping }
 | _=>h

def fail (h:Host R S K A) (a:A):Host R S K A:=
 let actor:=h.actors a
 if actor.context.state=.stopping ∨ actor.context.state=.stopped then h
 else (h.setActor a ⟨actor.context.fail,.failed⟩).stopBehavior actor.behavior

def record (h:Host R S K A) (g:ℕ) (outcome:Outcome S K A):Host R S K A:=
 let a:=outcome.behavior.internalContext
 { (h.setObject g outcome.behavior).setContext a
    { (h.actors a).context with userMessagesSuspended:=outcome.suspended } with
   trace:=h.trace++outcome.moments }

def settle (settings:Settings) (h:Host R S K A) (g:ℕ) (outcome:Outcome S K A)
  (accepted:Bool):Host R S K A:=
 let b:=outcome.behavior
 match outcome.reaction with
 | .done=>h.record g outcome
 | .raised _=>(h.record g outcome).fail b.internalContext
 | .load duplicate=>
  if accepted then (h.record g outcome).submit g (.load b.persistenceId duplicate)
  else (h.record g outcome).fail b.internalContext
 | .write operationId content argument=>
  if accepted ∧ content.retainedBytes ≤ settings.maxStateBytes ∧ content.Fingerprinted then
   (h.record g outcome).submit g
    (.write ⟨b.persistenceId,b.revision,operationId,content,argument⟩)
  else (h.record g outcome).fail b.internalContext

def construct (h:Host R S K A) (a:A) (startup:Startup):Host R S K A×Bool:=
 let g:=h.nextGeneration
 let context:={ (h.actors a).context with userMessagesSuspended:=true }
 if startup.accepted then
  ((({ h with nextGeneration:=g+1 }.setObject g (.create a startup.id)).setActor a
   ⟨context,.durable g⟩).submit g (.load startup.id false),false)
 else ({ h with nextGeneration:=g+1 }.setContext a context,true)

def materializeBehaviour (h:Host R S K A) (a:A) (startup:Startup):
  Host R S K A×Bool:=
 if (h.actors a).behavior=.deferred then h.construct a startup else (h,false)

def finishStart (h:Host R S K A) (a:A):Host R S K A:=
 h.setContext a (h.actors a).context.finishStart

/-- `raises` says that the signal `PreStart` or the end of the start raises. -/
def preStart (h:Host R S K A) (a:A) (startup:Startup) (raises:Bool):Host R S K A:=
 if (h.actors a).context.state=.starting then
  let result:=h.materializeBehaviour a startup
  if result.2 || raises then result.1.fail a else result.1.finishStart a
 else h

def completeRestart (h:Host R S K A) (a:A) (startup:Startup) (raises:Bool):
  Host R S K A:=
 let context:=(h.actors a).context
 let result:=(h.setActor a
  ⟨{ context with userMessagesSuspended:=false },.deferred⟩).materializeBehaviour a startup
 if result.2 || raises then
  result.1.setActor a ⟨{ (result.1.actors a).context with state:=.failed },.failed⟩
 else result.1.finishStart a

def completeStop (h:Host R S K A) (a:A):Host R S K A:=
 let actor:=h.actors a
 if actor.context.state=.stopped then h
 else (h.setContext a { actor.context with state:=.stopped }).stopBehavior actor.behavior

def beginStop (h:Host R S K A) (a:A) (noChildren:Bool):Host R S K A:=
 let context:=(h.actors a).context
 let stopping:=if context.state=.stopping then h
  else h.setContext a { context with state:=.stopping,restartPending:=false }
 if noChildren then stopping.completeStop a else stopping

def beginRestart (h:Host R S K A) (a:A) (noChildren:Bool) (startup:Startup)
  (raises:Bool):Host R S K A:=
 let starting:=
  h.setContext a { (h.actors a).context with state:=.starting,restartPending:=true }
 if noChildren then starting.completeRestart a startup raises else starting

def start (h:Host R S K A) (a:A) (mailboxFails:Bool):Host R S K A:=
 let context:=(h.actors a).context
 if context.state=.new then
  h.setContext a { context with state:=if mailboxFails then .failed else .starting }
 else h

def abortStart (h:Host R S K A) (a:A):Host R S K A:=
 (h.setContext a { (h.actors a).context with state:=.failed }).completeStop a

def invoke (settings:Settings) (entity:Entity S) (h:Host R S K A) (a:A)
  (handleCommand:S → Except String (DurableEffect S K)) (callbackRaises:ℕ → Bool)
  (accepted:Bool):Host R S K A:=
 let actor:=h.actors a
 if actor.context.state≠.running then h
 else if actor.context.userMessagesSuspended then h.fail a
 else
  match actor.behavior with
  | .durable g=>
   match h.objects g with
   | none=>h
   | some b=>h.settle settings g (b.receive entity actor.context.userMessagesSuspended g
    h.trace.length handleCommand callbackRaises) accepted
  | _=>h

/-- `_invoke_system`, apart from completions. `raises` says that the behaviour's own code
 raises. -/
def invokeSystem (h:Host R S K A) (a:A) (message:SystemMessage) (noChildren raises:Bool)
  (startup:Startup):Host R S K A:=
 let context:=(h.actors a).context
 if context.state=.stopped then h
 else match message with
  | .preStart=>h.preStart a startup raises
  | .stop | .terminate=>h.beginStop a noChildren
  | .terminated=>
   if context.state=.stopping ∧ noChildren then h.completeStop a
   else if context.restartPending ∧ noChildren then h.completeRestart a startup raises
   else h
  | .restart=>
   if context.state=.stopping then h else h.beginRestart a noChildren startup raises
  | .failed | .control | .signal=>if raises then h.fail a else h

def deliver (settings:Settings) (entity:Entity S) (h:Host R S K A) (g:ℕ)
  (operation:Operation S) (hookRaises:Bool) (callbackRaises:ℕ → Bool) (accepted:Bool):
  Host R S K A:=
 match h.objects g with
 | none=>h
 | some b=>
  let actor:=h.actors b.internalContext
  if actor.live=some g then
   match operation with
   | .loaded duplicate result=>
    h.settle settings g (b.completeRecovery entity actor.context.userMessagesSuspended result
     duplicate hookRaises callbackRaises) accepted
   | .wrote result=>
    h.settle settings g (b.completeWrite entity.codec actor.context.userMessagesSuspended
     result callbackRaises) accepted
   | .load .. | .write _=>h
  else h

end Host

inductive Event (R:Type u) (S K A:Type) where
 | start (a:A) (mailboxFails:Bool)
 | abortStart (a:A)
 | invoke (a:A) (handleCommand:S → Except String (DurableEffect S K))
  (callbackRaises:ℕ → Bool) (accepted:Bool)
 | invokeSystem (a:A) (message:SystemMessage) (noChildren raises:Bool) (startup:Startup)
 | runLoad (g:ℕ) (result:Except StoreError (Option DurableStateRecord))
 | commitWrite (g:ℕ) (committedAtNs:ℤ) (learned:Option StoreError)
 | abortWrite (g:ℕ) (error:StoreError)
 | deliver (g:ℕ) (hookRaises:Bool) (callbackRaises:ℕ → Bool) (accepted:Bool)
 | maintain (transaction:Transaction R)

def Completed : Operation S → Prop
 | .loaded .. | .wrote _=>True
 | .load .. | .write _=>False

def Host.create (readModel:R):Host R S K A:=
 ⟨Database.create readModel,[],fun _=>none,0,[],
  fun _=>⟨⟨.new,false,false⟩,.deferred⟩,[]⟩

def Host.commit (h:Host R S K A) (request:WriteRequest S) (committedAtNs:ℤ) (result:WriteResult)
  (db:Database R) (inflight:List (ℕ×Operation S)):Host R S K A:=
 { h with
   db:=db
   commits:=h.commits++if result.duplicate then [] else
    [⟨⟨request.persistenceId,request.operationId,request.content,committedAtNs⟩,
     result.revision,request.argument⟩]
   inflight:=inflight
   trace:=h.trace++if result.duplicate then [] else
    [.committed request.persistenceId request.operationId] }

def hostSystem [DecidableEq A] (settings:Settings) (entity:Entity S):
  System (Host R S K A) (Event R S K A) where
 init h:=∃readModel,h=Host.create readModel
 step h event t:=
  match event with
  | .start a mailboxFails=>t=h.start a mailboxFails
  | .abortStart a=>t=h.abortStart a
  | .invoke a handleCommand callbackRaises accepted=>
   t=h.invoke settings entity a handleCommand callbackRaises accepted
  | .invokeSystem a message noChildren raises startup=>
   t=h.invokeSystem a message noChildren raises startup
  | .runLoad g result=>∃before after id duplicate,
   h.inflight=before++(g,.load id duplicate)::after ∧
   (h.db.load settings id=result ∨ ∃error,result=.error error) ∧
   t={ h with inflight:=before++(g,.loaded duplicate result)::after }
  | .commitWrite g committedAtNs learned=>∃before after request result db,
   h.inflight=before++(g,.write request)::after ∧
   h.db.mutate settings request.persistenceId request.expectedRevision request.operationId
    request.content committedAtNs=.ok (result,db) ∧
   t=h.commit request committedAtNs result db
    (before++(g,.wrote (learned.elim (.ok result) .error))::after)
  | .abortWrite g error=>∃before after request,
   h.inflight=before++(g,.write request)::after ∧
   t={ h with inflight:=before++(g,.wrote (.error error))::after }
  | .deliver g hookRaises callbackRaises accepted=>∃before after operation,
   h.inflight=before++(g,operation)::after ∧ Completed operation ∧
   t={ h with inflight:=before++after }.deliver settings entity g operation hookRaises
    callbackRaises accepted
  | .maintain transaction=>Maintenance transaction ∧ ∃reply db,
   transaction.run settings h.db=.ok (reply,db) ∧ t={ h with db:=db }

end Movie.DurableActor
