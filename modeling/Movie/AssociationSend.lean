import Movie.AssociationManager
import Movie.Handshake
import Movie.Reachability

/-!
# Sending user messages

`send_user_message` of `remoting/association.py` run by any number of threads: a message is
serialized without a lock, then numbered, encoded and handed over under `_send_lock`.
-/
namespace Movie.AssociationSend

open Function Wire Serialization AssociationReceive Handshake Checked DurableModel Reachability
open AssociationManager (AssociationState)

structure ActorIdentity where
 systemIncarnationUid:UUID
 actorUid:UUID

/-- How `_send_if_current` ends. `refused` stands for the errors that are passed on: the
 association is not current, the incarnation is stale or the runtime stops. -/
inductive TransportAnswer where
 | admitted
 | capacity
 | closed
 | refused
 deriving DecidableEq

inductive SendFailure where
 | serialization (failure:SerializationFailure)
 | noAssociation (detail:String)
 | capacity (detail:String)
 | wire (error:WireError)
 | refused

structure Admitted where
 frame:UserMessage
 record:TransportRecord

structure SendState where
 state:AssociationState
 outboundSequences:ℕ → ℕ
 admitted:List Admitted

def SendState.create : SendState:=⟨.active,fun _=>0,[]⟩

section

variable {T:Type} (nfc:String → Bool) (association:Association T) (negotiated:Negotiated)

/-- The part of `send_user_message` before the lock. -/
def serializeUserMessage (messageType:T) (answer:Option (List UInt8)):
  Except SendFailure SerializedPayload:=
 match association.runtime.serializers.bindings messageType with
 | none=>.error (.serialization .unknownSerializer)
 | some binding=>
  match negotiated.sendRoutes binding.serializerId with
  | none=>.error (.serialization .unsupportedManifest)
  | some route=>do
   reject (binding.manifest∉route.manifests) (.serialization .unsupportedManifest)
   match negotiated.serializerMinors binding.serializerId with
   | none=>.error (.serialization .keyError)
   | some minor=>
    (association.runtime.serializers.serializeForRoute messageType route minor answer).mapError
     .serialization

def laneOf (recipient:ActorIdentity):ℕ:=
 (recipient.systemIncarnationUid.int * 2 ^ 128+recipient.actorUid.int) %
  negotiated.accept.laneCount

def userMessage (recipient:ActorIdentity) (serialized:SerializedPayload)
  (laneSequence:ℕ):UserMessage where
 associationUid:=association.associationUid
 laneId:=laneOf negotiated recipient
 laneSequence:=laneSequence
 senderIncarnationUid:=association.runtime.incarnationUid
 recipientIncarnationUid:=recipient.systemIncarnationUid
 recipientActorUid:=recipient.actorUid
 serializerId:=serialized.serializerId
 manifest:=serialized.manifest
 payload:=serialized.payload
 correlationId:=0

/-- The part of `send_user_message` under `_send_lock`. -/
def sendLocked (s:SendState) (recipient:ActorIdentity) (serialized:SerializedPayload)
  (answer:TransportAnswer):SendState×Except SendFailure Unit:=
 if s.state≠.active then (s,.error (.noAssociation "association is not active"))
 else if negotiated.peerIncarnationUid≠recipient.systemIncarnationUid then
  (s,.error (.noAssociation "association targets another actor-system incarnation"))
 else
  let laneId:=laneOf negotiated recipient
  let laneSequence:=s.outboundSequences laneId
  if maxU64<laneSequence then
   ({ s with state:=.closing },.error (.capacity "delivery lane sequence is exhausted"))
  else
   let frame:=userMessage association negotiated recipient serialized laneSequence
   match encodeUserMessageFrame nfc frame negotiated.accept.maximumFrameBytes with
   | .error error=>(s,.error (.wire error))
   | .ok payload=>
    match answer with
    | .capacity=>(s,.error (.capacity "outbound association capacity is full"))
    | .closed=>(s,.error (.noAssociation "association closed before admission"))
    | .refused=>(s,.error .refused)
    | .admitted=>
     ({ s with
      outboundSequences:=update s.outboundSequences laneId (laneSequence+1)
      admitted:=s.admitted++[⟨frame,⟨⟨.deliveryLane,laneId⟩,payload⟩⟩] },
      .ok ())

inductive Sender (T:Type) where
 | called (recipient:ActorIdentity) (messageType:T)
 | serialized (recipient:ActorIdentity) (payload:SerializedPayload)

structure World (T:Type) where
 send:SendState
 senders:List (Sender T)

inductive Event (T:Type) where
 | call (recipient:ActorIdentity) (messageType:T)
 | serialize (recipient:ActorIdentity) (messageType:T) (answer:Option (List UInt8))
 | deliver (recipient:ActorIdentity) (payload:SerializedPayload) (answer:TransportAnswer)
 | close (state:AssociationState)

def sendSystem : System (World T) (Event T) where
 init s:=s=⟨.create,[]⟩
 step s event t:=
  match event with
  | .call recipient messageType=>
   t={ s with senders:=.called recipient messageType::s.senders }
  | .serialize recipient messageType answer=>∃before after,
   s.senders=before ++ .called recipient messageType::after ∧
   t={ s with
    senders:=before ++
     match serializeUserMessage association negotiated messageType answer with
     | .error _=>after
     | .ok payload=>.serialized recipient payload::after }
  | .deliver recipient payload answer=>∃before after,
   s.senders=before ++ .serialized recipient payload::after ∧
   t={
    send:=(sendLocked nfc association negotiated s.send recipient payload answer).1
    senders:=before++after }
  | .close state=>(state=.closing ∨ state=.closed) ∧
   t={ s with send:={ s.send with state:=state } }

end

section

variable {T:Type} {nfc:String → Bool} {association:Association T} {negotiated:Negotiated}

def Sendable (negotiated:Negotiated) (serializerId:ℕ) (manifest:String):Prop:=
 ∃route,negotiated.sendRoutes serializerId=some route ∧ manifest∈route.manifests

variable {payload:SerializedPayload} {s:World T} {recipient:ActorIdentity}

lemma serializeUserMessage_sendable {messageType:T} {answer:Option (List UInt8)}
  (h:serializeUserMessage association negotiated messageType answer=.ok payload):
  Sendable negotiated payload.serializerId payload.manifest:=by
 unfold serializeUserMessage at h
 split at h
 next=>cases h
 next binding hbinding=>
  split at h
  next=>cases h
  next route hroute=>
   rw [bind_reject_eq_ok,not_not] at h
   obtain ⟨hmanifest,h⟩:=h
   split at h
   next=>cases h
   next minor _=>
    have hserialized:=mapError_eq_ok.mp h
    unfold SerializerRegistry.serializeForRoute at hserialized
    rw [hbinding] at hserialized
    simp only [bind_reject_eq_ok] at hserialized
    obtain ⟨-,hserialized⟩:=hserialized
    split at hserialized
    next=>cases hserialized
    next descriptor _=>
     rw [bind_reject_eq_ok] at hserialized
     cases answer with
     | none=>cases hserialized.2
     | some bytes=>
      cases hserialized.2
      exact ⟨route,hroute,hmanifest⟩

structure WellSent (nfc:String → Bool) (association:Association T) (negotiated:Negotiated)
  (sent:Admitted):Prop where
 record_eq:sent.record=⟨⟨.deliveryLane,sent.frame.laneId⟩,userMessageBytes sent.frame⟩
 encodable:Encodable nfc sent.frame negotiated.accept.maximumFrameBytes
 association_eq:sent.frame.associationUid=association.associationUid
 lane:0<negotiated.accept.laneCount → sent.frame.laneId<negotiated.accept.laneCount
 sender:sent.frame.senderIncarnationUid=association.runtime.incarnationUid
 recipient:sent.frame.recipientIncarnationUid=negotiated.peerIncarnationUid
 sendable:Sendable negotiated sent.frame.serializerId sent.frame.manifest

lemma sendLocked_cases (nfc:String → Bool) (association:Association T) (s:SendState) (recipient:ActorIdentity)
  (payload:SerializedPayload) (answer:TransportAnswer)
  (hsendable:Sendable negotiated payload.serializerId payload.manifest):
  ((sendLocked nfc association negotiated s recipient payload answer).1.outboundSequences =
   s.outboundSequences ∧
   (sendLocked nfc association negotiated s recipient payload answer).1.admitted=s.admitted) ∨
  ∃sent,WellSent nfc association negotiated sent ∧
   sent.frame.laneSequence=s.outboundSequences sent.frame.laneId ∧
   (sendLocked nfc association negotiated s recipient payload answer).1.outboundSequences =
    update s.outboundSequences sent.frame.laneId
     (s.outboundSequences sent.frame.laneId+1) ∧
   (sendLocked nfc association negotiated s recipient payload answer).1.admitted =
    s.admitted++[sent]:=by
 unfold sendLocked
 by_cases hactive:s.state=.active
 · rw [if_neg (not_not.mpr hactive)]
   by_cases hpeer:negotiated.peerIncarnationUid=recipient.systemIncarnationUid
   · rw [if_neg (not_not.mpr hpeer)]
     dsimp only
     by_cases hexhausted:maxU64<s.outboundSequences (laneOf negotiated recipient)
     · rw [if_pos hexhausted]
       exact .inl ⟨rfl,rfl⟩
     · rw [if_neg hexhausted]
       split
       next=>exact .inl ⟨rfl,rfl⟩
       next bytes hencode=>
        obtain ⟨hencodable,rfl⟩:=encodeUserMessageFrame_eq_ok.mp hencode
        cases answer with
        | capacity | closed | refused=>exact .inl ⟨rfl,rfl⟩
        | admitted=>
         refine .inr ⟨_,⟨rfl,hencodable,rfl,fun hlanes=>?_,rfl,hpeer.symm,hsendable⟩,
          rfl,rfl,rfl⟩
         exact Nat.mod_lt _ hlanes
   · rw [if_pos hpeer]
     exact .inl ⟨rfl,rfl⟩
 · rw [if_pos hactive]
   exact .inl ⟨rfl,rfl⟩

lemma sendLocked_admits {s:SendState} {frame:UserMessage} (hactive:s.state=.active)
  (hpeer:negotiated.peerIncarnationUid=recipient.systemIncarnationUid)
  (hframe:frame=userMessage association negotiated recipient payload
   (s.outboundSequences (laneOf negotiated recipient)))
  (hencodable:Encodable nfc frame negotiated.accept.maximumFrameBytes):
  (sendLocked nfc association negotiated s recipient payload .admitted).1 =
   { s with
     outboundSequences:=update s.outboundSequences frame.laneId
      (frame.laneSequence+1)
     admitted:=s.admitted ++
      [⟨frame,⟨⟨.deliveryLane,frame.laneId⟩,userMessageBytes frame⟩⟩] }:=by
 subst hframe
 have hsequence:¬maxU64<s.outboundSequences (laneOf negotiated recipient):=
  Nat.not_lt.mpr hencodable.sequence
 unfold sendLocked
 rw [if_neg (not_not.mpr hactive),if_neg (not_not.mpr hpeer)]
 dsimp only
 rw [if_neg hsequence,encodeUserMessageFrame_eq_ok.mpr ⟨hencodable,rfl⟩]
 rfl

/-- The sending side's invariant: on each lane the admitted records carry the numbers below
 the lane's counter, in order. -/
structure Sending (nfc:String → Bool) (association:Association T) (negotiated:Negotiated)
  (s:World T):Prop where
 numbered:∀lane,laneSequences Admitted.frame lane s.send.admitted =
  List.range (s.send.outboundSequences lane)
 sent:∀sent∈s.send.admitted,WellSent nfc association negotiated sent
 senders:∀recipient payload,.serialized recipient payload∈s.senders →
  Sendable negotiated payload.serializerId payload.manifest

lemma Sending.deliver {before after:List (Sender T)} (h:Sending nfc association negotiated s)
  (hsenders:s.senders=before ++ .serialized recipient payload::after)
  (answer:TransportAnswer):Sending nfc association negotiated
   { send:=(sendLocked nfc association negotiated s.send recipient payload answer).1
     senders:=before++after }:=by
 have hmem:.serialized recipient payload∈s.senders:=by
  rw [hsenders]
  exact List.mem_append_right _ List.mem_cons_self
 have hothers (recipient':ActorIdentity) (payload':SerializedPayload)
  (hother:.serialized recipient' payload'∈before++after):
  Sendable negotiated payload'.serializerId payload'.manifest:=by
  apply h.senders recipient' payload'
  rw [hsenders]
  exact ((List.sublist_cons_self _ after).append_left before).subset hother
 rcases sendLocked_cases nfc association s.send recipient payload answer
  (h.senders _ _ hmem) with
  ⟨hsequences,hadmitted⟩|⟨sent,hsent,hnumber,hsequences,hadmitted⟩
 · refine ⟨fun lane=>?_,?_,hothers⟩
   · dsimp only
     rw [hadmitted,hsequences]
     exact h.numbered lane
   · dsimp only
     rw [hadmitted]
     exact h.sent
 · refine ⟨fun lane=>?_,?_,hothers⟩
   · dsimp only
     rw [hadmitted,hsequences,laneSequences_append,h.numbered]
     by_cases hlane:sent.frame.laneId=lane
     · subst hlane
       rw [laneSequences_cons_self,hnumber,update_self,List.range_succ]
       rfl
     · rw [laneSequences_cons_of_ne _ hlane,update_of_ne (Ne.symm hlane)]
       exact List.append_nil _
   · dsimp only
     rw [hadmitted]
     intro other hother
     rcases List.mem_append.mp hother with hother|hother
     · exact h.sent other hother
     · rw [List.mem_singleton.mp hother]
       exact hsent

lemma reachable_sending (h:(sendSystem nfc association negotiated).Reachable s):
  Sending nfc association negotiated s:=by
 refine h.invariant (I := Sending nfc association negotiated) ?_ ?_
 · rintro s rfl
   exact ⟨fun _=>rfl,nofun,nofun⟩
 · intro s event t _ hs hstep
   cases event with
   | call recipient messageType=>
    cases hstep
    refine ⟨hs.numbered,hs.sent,fun recipient' payload hmem=>?_⟩
    rcases List.mem_cons.mp hmem with hmem|hmem
    · cases hmem
    · exact hs.senders recipient' payload hmem
   | serialize recipient messageType answer=>
    obtain ⟨before,after,hsenders,rfl⟩:=hstep
    refine ⟨hs.numbered,hs.sent,fun recipient' payload hmem=>?_⟩
    have hkept (hkept:.serialized recipient' payload∈before++after):
     Sendable negotiated payload.serializerId payload.manifest:=by
     apply hs.senders recipient' payload
     rw [hsenders]
     exact ((List.sublist_cons_self _ after).append_left before).subset hkept
    cases hserialize:serializeUserMessage association negotiated messageType answer with
    | error failure=>
     dsimp only at hmem
     rw [hserialize] at hmem
     exact hkept hmem
    | ok serialized=>
     dsimp only at hmem
     rw [hserialize] at hmem
     rcases List.mem_append.mp hmem with hmem|hmem
     · exact hkept (List.mem_append_left _ hmem)
     · rcases List.mem_cons.mp hmem with hmem|hmem
       · cases hmem
         exact serializeUserMessage_sendable hserialize
       · exact hkept (List.mem_append_right _ hmem)
   | deliver recipient payload answer=>
    obtain ⟨before,after,hsenders,rfl⟩:=hstep
    exact hs.deliver hsenders answer
   | close state=>
    obtain ⟨-,rfl⟩:=hstep
    exact ⟨hs.numbered,hs.sent,hs.senders⟩

end

end Movie.AssociationSend
