import Movie.SQLiteStoreInvariant

/-!
# The Durable State behaviour

The state machine of `persistence/behavior.py`, one function for each method, and the system of any
number of behaviours over one store. What user code and the runtime decide is chosen by the label of
a step.
-/
namespace Movie.DurableBehavior

open DurableModel SQLiteStore DurableHistory SQLiteStoreInvariant Reachability

universe u

/-- A codec may reject a state or a payload, but it decodes what it encoded. -/
structure StateCodec (S:Type) where
 encode:S → Except String EncodedState
 decode:EncodedState → Except String S
 decode_encode:∀ {state encoded},encode state=.ok encoded → decode encoded=.ok state

structure Entity (S:Type) where
 codec:StateCodec S
 emptyState:S

inductive Phase where
 | recovering
 | running
 | persisting
 | stopping
 deriving DecidableEq

structure PendingEffect (S:Type) where
 state:S
 stop:Bool

structure Behavior (S:Type) where
 persistenceId:PersistenceId
 phase:Phase
 revision:ℕ
 state:Option S
 pending:Option (PendingEffect S)

inductive DurableEffect (S:Type) where
 | none (stop:Bool)
 | persist (state:S) (operationId:OperationId) (stop:Bool)
 | delete (operationId:OperationId) (stop:Bool)

inductive BehaviorError where
 | recoveryFailed (id:PersistenceId)
 | commitFailed (id:PersistenceId)
 | noPendingEffect
 | suspended
 | userCode

def BehaviorError.message : BehaviorError → Option String
 | .recoveryFailed id=>some ("Recovery failed for " ++ id.toText)
 | .commitFailed id=>some ("Durable State commit failed for " ++ id.toText)
 | .noPendingEffect=>some "Durable State completion has no pending effect"
 | .suspended=>some "Durable State command was invoked while recovery was suspended"
 | .userCode=>none

/-- What a method asks of its surroundings when it returns or raises. A write carries
 the argument that `handle_command` was called with. -/
inductive Reaction (S:Type) where
 | done
 | load (duplicate:Bool)
 | write (operationId:OperationId) (content:Content) (argument:S)
 | raised (error:BehaviorError)

variable {S:Type}

namespace Behavior

def recoveryFailure (b:Behavior S):Reaction S:=
 .raised (.recoveryFailed b.persistenceId)

def persistFailure (b:Behavior S):Reaction S:=
 .raised (.commitFailed b.persistenceId)

def create (id:PersistenceId):Behavior S:=⟨id,.recovering,0,none,none⟩

def copyState (codec:StateCodec S) (state:S):Except String S:=do
 let encoded ← codec.encode state
 codec.decode encoded

def beginRecovery (b:Behavior S) (duplicate:Bool):Behavior S×Reaction S:=
 ({ b with phase:=.recovering },.load duplicate)

/-- `callbacksRaise` says that one of the effect's callbacks raises. -/
def finishPendingEffect (b:Behavior S) (applyCandidate callbacksRaise:Bool):
  Behavior S×Reaction S:=
 match b.pending with
 | none=>(b,.raised .noPendingEffect)
 | some pending=>
  let b:={ b with
   pending:=none
   state:=if applyCandidate then some pending.state else b.state
   phase:=.running }
  if callbacksRaise then (b,.raised .userCode)
  else if pending.stop then ({ b with phase:=.stopping },.done)
  else (b,.done)

def recoveredState (entity:Entity S):Option DurableStateRecord → Except String (S×ℕ)
 | none=>do
  let state ← copyState entity.codec entity.emptyState
  return (state,0)
 | some record=>
  match record.content with
  | .tombstone=>do
   let state ← copyState entity.codec entity.emptyState
   return (state,record.revision)
  | .live encoded=>do
   let decoded ← entity.codec.decode encoded
   let state ← copyState entity.codec decoded
   return (state,record.revision)

/-- `hookRaises` stands for `on_recovery_completed` and the copy it is given. -/
def completeRecovery (entity:Entity S) (b:Behavior S)
  (result:Except StoreError (Option DurableStateRecord))
  (duplicate hookRaises callbacksRaise:Bool):Behavior S×Reaction S:=
 match result with
 | .error _=>(b,b.recoveryFailure)
 | .ok record=>
  match recoveredState entity record with
  | .error _=>(b,b.recoveryFailure)
  | .ok (state,revision)=>
   let b:={ b with state:=some state,revision:=revision }
   if hookRaises then (b,.raised .userCode)
   else if duplicate then b.finishPendingEffect false callbacksRaise
   else ({ b with phase:=.running },.done)

def processCommand (entity:Entity S) (b:Behavior S)
  (handleCommand:S → Except String (DurableEffect S)) (callbacksRaise:Bool):
  Behavior S×Reaction S:=
 match b.state with
 | none=>(b,.raised .userCode)
 | some current=>
  match copyState entity.codec current with
  | .error _=>(b,.raised .userCode)
  | .ok state=>
   match handleCommand state with
   | .error _=>(b,.raised .userCode)
   | .ok (.none stop)=>
    if callbacksRaise then (b,.raised .userCode)
    else if stop then ({ b with phase:=.stopping },.done)
    else (b,.done)
   | .ok (.persist next operationId stop)=>
    match entity.codec.encode next with
    | .error _=>(b,b.persistFailure)
    | .ok encoded=>
     match entity.codec.decode encoded with
     | .error _=>(b,b.persistFailure)
     | .ok candidate=>
      ({ b with pending:=some ⟨candidate,stop⟩,phase:=.persisting },
       .write operationId (.live encoded) state)
   | .ok (.delete operationId stop)=>
    match copyState entity.codec entity.emptyState with
    | .error _=>(b,b.persistFailure)
    | .ok candidate=>
     ({ b with pending:=some ⟨candidate,stop⟩,phase:=.persisting },
      .write operationId .tombstone state)

def receive (entity:Entity S) (b:Behavior S)
  (handleCommand:S → Except String (DurableEffect S)) (callbacksRaise:Bool):
  Behavior S×Reaction S:=
 if b.phase≠.running then
  (b,.raised .suspended)
 else
  b.processCommand entity handleCommand callbacksRaise

def completeWrite (b:Behavior S) (result:Except StoreError WriteResult)
  (callbacksRaise:Bool):Behavior S×Reaction S:=
 match result with
 | .error _=>(b,b.persistFailure)
 | .ok result=>
  if result.duplicate then b.beginRecovery true
  else if result.revision≠b.revision+1 then (b,b.persistFailure)
  else { b with revision:=result.revision }.finishPendingEffect true callbacksRaise

end Behavior

structure WriteRequest (S:Type) where
 persistenceId:PersistenceId
 expectedRevision:ℕ
 operationId:OperationId
 content:Content
 argument:S

inductive Operation (S:Type) where
 | load (id:PersistenceId) (duplicate:Bool)
 | write (request:WriteRequest S)
 | loaded (duplicate:Bool) (result:Except StoreError (Option DurableStateRecord))
 | wrote (result:Except StoreError WriteResult)

/-- A committed mutation that was not a duplicate, with the revision the store gave it
 and the argument of the command handler that produced it. -/
structure Commit (S:Type) where
 mutation:Mutation
 revision:ℕ
 argument:S

/-- All behaviours by generation, the store, and the requests and completions between
 them. A generation without a behaviour was replaced, failed or stopped. -/
structure World (R:Type u) (S:Type) where
 db:Database R
 commits:List (Commit S)
 behaviors:ℕ → Option (Behavior S)
 nextGeneration:ℕ
 inflight:List (ℕ×Operation S)

namespace World

variable {R:Type u}

def log (s:World R S):List Mutation:=s.commits.map (·.mutation)

def setBehavior (s:World R S) (g:ℕ) (b:Option (Behavior S)):World R S:=
 { s with behaviors:=Function.update s.behaviors g b }

def submit (s:World R S) (g:ℕ) (operation:Operation S):World R S:=
 { s with inflight:=s.inflight++[(g,operation)] }

/-- What the surroundings decide after a method: whether the store accepts the request, and
 whether a raised error finds the actor stopping, so that the behaviour stays installed. -/
structure Surroundings where
 accepted:Bool
 actorStopping:Bool

def fail (s:World R S) (g:ℕ) (b:Behavior S) (e:Surroundings):World R S:=
 s.setBehavior g (if e.actorStopping then some b else none)

/-- `load`, `upsert` and `delete` may refuse a request; `upsert` refuses a record that
 exceeds `max-state-bytes` or has no fingerprint. -/
def react (settings:Settings) (s:World R S) (g:ℕ) (result:Behavior S×Reaction S)
  (e:Surroundings):World R S:=
 let (b,reaction):=result
 match reaction with
 | .done=>s.setBehavior g (some b)
 | .raised _=>s.fail g b e
 | .load duplicate=>
  if e.accepted then
   (s.setBehavior g (some b)).submit g (.load b.persistenceId duplicate)
  else s.fail g b e
 | .write operationId content argument=>
  if e.accepted ∧ content.retainedBytes ≤ settings.maxStateBytes ∧ content.Fingerprinted then
   (s.setBehavior g (some b)).submit g
    (.write ⟨b.persistenceId,b.revision,operationId,content,argument⟩)
  else s.fail g b e

end World

inductive Event (R:Type u) (S:Type) where
 | create (id:PersistenceId) (e:World.Surroundings)
 | command (g:ℕ) (handleCommand:S → Except String (DurableEffect S)) (callbacksRaise:Bool)
  (e:World.Surroundings)
 | runLoad (g:ℕ) (result:Except StoreError (Option DurableStateRecord))
 | commitWrite (g:ℕ) (committedAtNs:ℤ) (learned:Option StoreError)
 | abortWrite (g:ℕ) (error:StoreError)
 | deliver (g:ℕ) (hookRaises callbacksRaise:Bool) (e:World.Surroundings)
 | stop (g:ℕ)
 | replace (g:ℕ)
 | maintain (transaction:Transaction R)

def Maintenance {R:Type u}:Transaction R → Prop
 | .upsert .. | .delete ..=>False
 | _=>True

/-- One step of the behaviours over the store. A write whose commit went through may
 still be reported as an error (`learned`); a load may fail or time out at any time. -/
def durableSystem {R:Type u} (settings:Settings) (entity:Entity S):
  System (World R S) (Event R S) where
 init s:=∃readModel,s=⟨Database.create readModel,[],fun _=>none,0,[]⟩
 step s event t:=
  match event with
  | .create id e=>
   t=World.react settings { s with nextGeneration:=s.nextGeneration+1 } s.nextGeneration
    ((Behavior.create id).beginRecovery false) e
  | .command g handleCommand callbacksRaise e=>∃b,s.behaviors g=some b ∧
   t=s.react settings g (b.receive entity handleCommand callbacksRaise) e
  | .runLoad g result=>∃before after id duplicate,
   s.inflight=before++(g,.load id duplicate)::after ∧
   (s.db.load settings id=result ∨ ∃error,result=.error error) ∧
   t={ s with inflight:=before++(g,.loaded duplicate result)::after }
  | .commitWrite g committedAtNs learned=>∃before after request result db,
   s.inflight=before++(g,.write request)::after ∧
   s.db.mutate settings request.persistenceId request.expectedRevision request.operationId
    request.content committedAtNs=.ok (result,db) ∧
   t={ s with
    db:=db
    commits:=s.commits++if result.duplicate then [] else
     [⟨⟨request.persistenceId,request.operationId,request.content,committedAtNs⟩,
      result.revision,request.argument⟩]
    inflight:=before++(g,.wrote (learned.elim (.ok result) .error))::after }
  | .abortWrite g error=>∃before after request,
   s.inflight=before++(g,.write request)::after ∧
   t={ s with inflight:=before++(g,.wrote (.error error))::after }
  | .deliver g hookRaises callbacksRaise e=>∃before after operation,
   s.inflight=before++(g,operation)::after ∧
   match s.behaviors g,operation with
   | some b,.loaded duplicate result=>
    t=World.react settings { s with inflight:=before++after } g
     (b.completeRecovery entity result duplicate hookRaises callbacksRaise) e
   | some b,.wrote result=>
    t=World.react settings { s with inflight:=before++after } g
     (b.completeWrite result callbacksRaise) e
   | none,.loaded .. | none,.wrote _=>t={ s with inflight:=before++after }
   | _,.load .. | _,.write _=>False
  | .stop g=>∃b,s.behaviors g=some b ∧
   t=s.setBehavior g (some { b with phase:=.stopping })
  | .replace g=>(s.behaviors g).isSome ∧ t=s.setBehavior g none
  | .maintain transaction=>Maintenance transaction ∧ ∃reply db,
   transaction.run settings s.db=.ok (reply,db) ∧ t={ s with db:=db }

end Movie.DurableBehavior
