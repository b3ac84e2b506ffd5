import Movie.Serialization
import Mathlib.Data.List.Perm.Basic

/-!
# Receiving on an active association

`_active_loop`, `_handle_user_messages` and `_prepare_user_message` of `remoting/association.py`,
with their buffers and `finally` blocks. Decoding, admission and the handlers of control frames are
up to the environment.
-/
namespace Movie.AssociationReceive

open Wire Serialization DurableModel

structure LogicalChannel where
 kind:StreamKind
 laneId:ℕ
 deriving DecidableEq

structure TransportRecord where
 channel:LogicalChannel
 payload:List UInt8
 deriving DecidableEq

/-- What the handshake fixed for receiving. `receiveRoutes` gives the manifests that the
 peer may send with a serializer. -/
structure ActiveAssociation where
 associationUid:UUID
 laneCount:ℕ
 peerIncarnationUid:UUID
 incarnationUid:UUID
 receiveRoutes:ℕ → Option (List String)

inductive RemoteAdmissionResult where
 | accepted
 | actorNotFound
 | actorStopping
 | mailboxFull
 deriving DecidableEq

/-- What `_active_loop` does with a frame that is not a user message. -/
inductive ControlKind where
 | handled
 | goAway
 | invalid (typeName:String)
 deriving DecidableEq

structure Environment (R C:Type) where
 decode:R → Except WireError (Frame C)
 channel:R → LogicalChannel
 deserialize:R → UserMessage → Deserialized
 admitRemoteMessage:R → UserMessage → RemoteAdmissionResult
 kind:C → ControlKind
 handlerReturns:R → C → Bool

inductive Failure where
 | protocolViolation (detail:String)
 | wire (error:WireError)
 | raised
 deriving DecidableEq

structure Pending (R:Type) where
 record:R
 message:UserMessage
 channel:LogicalChannel

inductive Handled (R:Type) where
 | admitted (pending:Pending R) (result:RemoteAdmissionResult)
 | rejected (pending:Pending R) (reason:DeserializationReason)

def Handled.pending {R:Type}:Handled R → Pending R
 | .admitted pending _ | .rejected pending _=>pending

def laneSequences {α:Type} (message:α → UserMessage) (lane:ℕ) (items:List α):List ℕ:=
 (items.filter fun item=>(message item).laneId=lane).map
  fun item=>(message item).laneSequence

section

variable {α:Type} (message:α → UserMessage)

lemma laneSequences_cons_self (item:α) (items:List α):
  laneSequences message (message item).laneId (item::items) =
   (message item).laneSequence::laneSequences message (message item).laneId items:=by
 unfold laneSequences
 rw [List.filter_cons_of_pos (by simp),List.map_cons]

lemma laneSequences_cons_of_ne {lane:ℕ} {item:α} (h:(message item).laneId≠lane) (items:List α):
  laneSequences message lane (item::items)=laneSequences message lane items:=by
 unfold laneSequences
 rw [List.filter_cons_of_neg (by simpa using h)]

lemma laneSequences_append (lane:ℕ) (front back:List α):
  laneSequences message lane (front++back) =
   laneSequences message lane front++laneSequences message lane back:=by
 unfold laneSequences
 rw [List.filter_append,List.map_append]

end

/-- The receiving side's state. `log` lists the messages handed to the actor system and
 those rejected because of their payload, in the order in which that happened. -/
structure ReceiveState (R:Type) where
 inboundSequences:ℕ → ℕ
 sequenceViolations:ℕ
 sequenceViolationsByLane:ℕ → ℕ
 log:List (Handled R)

def ReceiveState.create (R:Type):ReceiveState R:=⟨fun _=>0,0,fun _=>0,[]⟩

inductive Preparation where
 | prepared
 | rejected
 | failed (failure:Failure)

section

variable {R C:Type} (association:ActiveAssociation) (environment:Environment R C)

/-- The first test of `_prepare_user_message`. -/
def Addressed (pending:Pending R):Prop:=
 pending.message.associationUid=association.associationUid ∧
 pending.message.laneId<association.laneCount ∧
 (pending.channel.kind=.deliveryLane → pending.channel.laneId=pending.message.laneId) ∧
 pending.message.senderIncarnationUid=association.peerIncarnationUid ∧
 pending.message.recipientIncarnationUid=association.incarnationUid

instance (pending:Pending R):Decidable (Addressed association pending):=
 inferInstanceAs (Decidable (_ ∧ _ ∧ _ ∧ _ ∧ _))

def Routed (pending:Pending R):Prop:=
 ∃manifests∈association.receiveRoutes pending.message.serializerId,
  pending.message.manifest∈manifests

instance (pending:Pending R):Decidable (Routed association pending):=
 match h:association.receiveRoutes pending.message.serializerId with
 | none=>.isFalse fun ⟨_,hm,_⟩=>by rw [h] at hm; cases hm
 | some manifests=>
  decidable_of_iff (pending.message.manifest∈manifests) (by simp [Routed,h])

def prepareUserMessage (s:ReceiveState R) (pending:Pending R):
  ReceiveState R×Preparation:=
 let lane:=pending.message.laneId
 let expected:=s.inboundSequences lane
 if ¬Addressed association pending then
  (s,.failed (.protocolViolation "user-message association, lane, or incarnation is invalid"))
 else if pending.message.laneSequence≠expected then
  ({ s with
   sequenceViolations:=s.sequenceViolations+1
   sequenceViolationsByLane:=
    Function.update s.sequenceViolationsByLane lane (s.sequenceViolationsByLane lane+1) },
   .failed (.protocolViolation ("delivery lane " ++ toString lane ++ " expected sequence " ++
    toString expected ++ ", got " ++ toString pending.message.laneSequence)))
 else if ¬Routed association pending then
  (s,.failed (.protocolViolation "user-message serializer route was not negotiated"))
 else
  let s':={ s with
   inboundSequences:=Function.update s.inboundSequences lane (expected+1) }
  match environment.deserialize pending.record pending.message with
  | .value=>(s',.prepared)
  | .rejected reason=>({ s' with log:=s.log++[.rejected pending reason] },.rejected)
  | .raised=>(s',.failed .raised)

/-- The loop of `_handle_user_messages`: what was prepared before it ended, and the
 failure that ended it early. -/
def prepareAll (s:ReceiveState R):
  List (Pending R) → ReceiveState R×List (Pending R)×Option Failure
 | []=>(s,[],none)
 | pending::rest=>
  match prepareUserMessage association environment s pending with
  | (s',.failed failure)=>(s',[],some failure)
  | (s',.rejected)=>prepareAll s' rest
  | (s',.prepared)=>
   let (s'',prepared,failure):=prepareAll s' rest
   (s'',pending::prepared,failure)

def admitPreparedUserMessages (s:ReceiveState R) (prepared:List (Pending R)):
  ReceiveState R:=
 { s with
   log:=s.log++prepared.map fun pending=>
    .admitted pending (environment.admitRemoteMessage pending.record pending.message) }

/-- The prepared messages are admitted in the `finally` block. -/
def handleUserMessages (s:ReceiveState R) (frames:List (Pending R)):
  ReceiveState R×Option Failure:=
 let (s',prepared,failure):=prepareAll association environment s frames
 (admitPreparedUserMessages environment s' prepared,failure)

/-- `flush_users`: `pending_users` is cleared only when handling did not raise. -/
def flushUsers (s:ReceiveState R) (pending:List (Pending R)):
  ReceiveState R×List (Pending R)×Option Failure:=
 if pending.isEmpty then (s,[],none)
 else
  match handleUserMessages association environment s pending with
  | (s',none)=>(s',[],none)
  | (s',some failure)=>(s',pending,some failure)

lemma flushUsers_of_returns {s s':ReceiveState R} {head:Pending R} {rest:List (Pending R)}
  (h:handleUserMessages association environment s (head::rest)=(s',none)):
  flushUsers association environment s (head::rest)=(s',[],none):=by
 unfold flushUsers
 rw [h]
 rfl

lemma flushUsers_of_fails {s s':ReceiveState R} {head:Pending R} {rest:List (Pending R)}
  {failure:Failure} (h:handleUserMessages association environment s (head::rest)=(s',some failure)):
  flushUsers association environment s (head::rest)=(s',head::rest,some failure):=by
 unfold flushUsers
 rw [h]
 rfl

inductive Outcome where
 | continues
 | returned
 | raised (failure:Failure)

/-- The body of the `try` block: the `for` loop over the records of one batch. -/
def receiveRecords (s:ReceiveState R) (pending:List (Pending R)):
  List R → ReceiveState R×List (Pending R)×Outcome
 | []=>(s,pending,.continues)
 | record::records=>
  match environment.decode record with
  | .error error=>(s,pending,.raised (.wire error))
  | .ok (.userMessage message)=>
   receiveRecords s (pending++[⟨record,message,environment.channel record⟩]) records
  | .ok (.control frame)=>
   match flushUsers association environment s pending with
   | (s',pending',some failure)=>(s',pending',.raised failure)
   | (s',pending',none)=>
    match environment.kind frame with
    | .goAway=>(s',pending',.returned)
    | .invalid typeName=>(s',pending',.raised (.protocolViolation
     (typeName ++ " is not valid on an active association")))
    | .handled=>
     if environment.handlerReturns record frame then receiveRecords s' pending' records
     else (s',pending',.raised .raised)

/-- One batch with its `finally` block, whose own failure replaces an earlier one. -/
def receiveBatch (s:ReceiveState R) (records:List R):ReceiveState R×Outcome:=
 let (s',pending,outcome):=receiveRecords association environment s [] records
 match flushUsers association environment s' pending with
 | (s'',_,some failure)=>(s'',.raised failure)
 | (s'',_,none)=>(s'',outcome)

/-- `_active_loop` over the batches received until it ended or was asked to stop. -/
def activeLoop (s:ReceiveState R):List (List R) → ReceiveState R×Outcome
 | []=>(s,.continues)
 | records::batches=>
  match receiveBatch association environment s records with
  | (s',.continues)=>activeLoop s' batches
  | (s',.returned)=>(s',.returned)
  | (s',.raised failure)=>(s',.raised failure)

end

end Movie.AssociationReceive
