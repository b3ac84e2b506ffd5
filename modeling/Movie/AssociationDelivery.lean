import Movie.AssociationIntegrity
import Movie.AssociationSend

/-!
# Delivery between two associations

What one side admits to the transport passes all the checks of the other, as long as the records of
each lane arrive in their order.
-/
namespace Movie.AssociationDelivery

open Function Wire Serialization AssociationReceive AssociationIntegrity Handshake AssociationSend
 DurableModel Reachability
open WireFrames (HelloAccept)

section

variable {R C:Type} {association:ActiveAssociation} {environment:Environment R C}

lemma validUsers_eq_self (messages:List (Pending R)) (sequences:ℕ → ℕ) (hchecked:∀pending∈messages,
   Addressed association pending ∧ Routed association pending)
  (hnumbered:∀lane,laneSequences Pending.message lane messages =
   List.range' (sequences lane) (laneSequences Pending.message lane messages).length):
  validUsers association sequences messages=messages:=by
 induction messages generalizing sequences with
 | nil=>rfl
 | cons pending rest ih=>
  have hhead:=hnumbered pending.message.laneId
  rw [laneSequences_cons_self,List.length_cons,List.range'_succ,List.cons.injEq] at hhead
  obtain ⟨hchecks,hrest⟩:=List.forall_mem_cons.mp hchecked
  rw [validUsers_cons_of_accepts ⟨hchecks.1,hhead.1,hchecks.2⟩,List.cons_inj_right]
  apply ih _ hrest
  intro lane
  unfold advance
  by_cases hlane:pending.message.laneId=lane
  · subst hlane
    rw [update_self]
    exact hhead.2
  · rw [update_of_ne (Ne.symm hlane),←laneSequences_cons_of_ne _ hlane]
    exact hnumbered lane

def Returns (environment:Environment R C) (pending:Pending R):Prop:=
 environment.deserialize pending.record pending.message≠.raised

lemma prepareAll_complete (frames:List (Pending R)) (s:ReceiveState R)
  (hvalid:validUsers association s.inboundSequences frames=frames)
  (hreturns:∀pending∈frames,Returns environment pending):
  (prepareAll association environment s frames).2.2=none ∧
   (prepareAll association environment s frames).1.sequenceViolations =
    s.sequenceViolations:=by
 induction frames generalizing s with
 | nil=>exact ⟨rfl,rfl⟩
 | cons pending rest ih=>
  have haccepts:Accepts association s.inboundSequences pending:=
   accepts_of_validUsers hvalid
  rw [validUsers_cons_of_accepts haccepts,List.cons_inj_right] at hvalid
  obtain ⟨hpending,hrest⟩:=List.forall_mem_cons.mp hreturns
  unfold prepareAll
  rw [prepareUserMessage_of_accepts haccepts]
  cases hdeserialize:environment.deserialize pending.record pending.message with
  | value=>
   exact ih { s with inboundSequences:=advance s.inboundSequences pending } hvalid hrest
  | rejected reason=>
   exact ih
    { s with
      inboundSequences:=advance s.inboundSequences pending
      log:=s.log++[.rejected pending reason] } hvalid hrest
  | raised=>exact absurd hdeserialize hpending

lemma flushUsers_complete (s:ReceiveState R) (pending:List (Pending R))
  (hvalid:validUsers association s.inboundSequences pending=pending)
  (hreturns:∀message∈pending,Returns environment message):
  (flushUsers association environment s pending).2.2=none ∧
   (flushUsers association environment s pending).1.sequenceViolations =
    s.sequenceViolations:=by
 cases pending with
 | nil=>exact ⟨rfl,rfl⟩
 | cons head rest=>
  obtain ⟨hnone,hviolations⟩:=prepareAll_complete (head::rest) s hvalid hreturns
  rcases hprepare:prepareAll association environment s (head::rest) with
   ⟨s₁,prepared,failure⟩
  rw [hprepare] at hnone hviolations
  dsimp only at hnone hviolations
  subst hnone
  have hhandle:handleUserMessages association environment s (head::rest) =
   (admitPreparedUserMessages environment s₁ prepared,none):=by
   rw [handleUserMessages,hprepare]
  rw [flushUsers_of_returns association environment hhandle]
  exact ⟨rfl,hviolations⟩

def Quiet (environment:Environment R C) (record:R):Prop:=
 match environment.decode record with
 | .error _=>False
 | .ok (.userMessage message)=>
  Returns environment ⟨record,message,environment.channel record⟩
 | .ok (.control frame)=>
  environment.kind frame=.handled ∧ environment.handlerReturns record frame=true

lemma users_append_of_quiet (records later:List R)
  (hquiet:∀record∈records,Quiet environment record):users environment (records++later) =
   users environment records++users environment later:=by
 induction records with
 | nil=>rfl
 | cons record records ih=>
  obtain ⟨hrecord,hrest⟩:=List.forall_mem_cons.mp hquiet
  unfold Quiet at hrecord
  rw [List.cons_append,users,users]
  cases hdecode:environment.decode record with
  | error error=>
   rw [hdecode] at hrecord
   exact hrecord.elim
  | ok frame=>
   rw [hdecode] at hrecord
   cases frame with
   | userMessage message=>exact congrArg _ (ih hrest)
   | control frame=>
    dsimp only at hrecord ⊢
    rw [hrecord.1]
    dsimp only
    rw [if_pos hrecord.2,if_pos hrecord.2]
    exact ih hrest

lemma receiveRecords_continues (records:List R) (s:ReceiveState R)
  (pending:List (Pending R)) (hquiet:∀record∈records,Quiet environment record)
  (hreturns:∀message∈pending,Returns environment message)
  (hvalid:validUsers association s.inboundSequences (pending++users environment records) =
   pending++users environment records):
  (receiveRecords association environment s pending records).2.2=.continues ∧
   (flushUsers association environment
    (receiveRecords association environment s pending records).1
    (receiveRecords association environment s pending records).2.1).2.2=none ∧
   (flushUsers association environment
    (receiveRecords association environment s pending records).1
    (receiveRecords association environment s pending records).2.1).1.sequenceViolations =
    s.sequenceViolations:=by
 induction records generalizing s pending with
 | nil=>
  unfold users at hvalid
  rw [List.append_nil] at hvalid
  exact ⟨rfl,flushUsers_complete s pending hvalid hreturns⟩
 | cons record records ih=>
  obtain ⟨hrecord,hrest⟩:=List.forall_mem_cons.mp hquiet
  unfold Quiet at hrecord
  unfold receiveRecords
  rw [users] at hvalid
  cases hdecode:environment.decode record with
  | error error=>
   rw [hdecode] at hrecord
   exact hrecord.elim
  | ok frame=>
   rw [hdecode] at hrecord hvalid
   cases frame with
   | userMessage message=>
    refine ih s (pending++[⟨record,message,environment.channel record⟩]) hrest ?_ ?_
    · intro other hother
      rcases List.mem_append.mp hother with hother|hother
      · exact hreturns other hother
      · rw [List.mem_singleton.mp hother]
        exact hrecord
    · rw [List.append_assoc]
      exact hvalid
   | control frame=>
    dsimp only at hrecord hvalid ⊢
    rw [hrecord.1] at hvalid
    dsimp only at hvalid
    rw [if_pos hrecord.2] at hvalid
    obtain ⟨hfront,hback⟩:=(validUsers_append_eq_self_iff _ _ _).mp hvalid
    obtain ⟨hnone,hviolations⟩:=flushUsers_complete s pending hfront hreturns
    obtain ⟨taken,hflushes⟩:=flushUsers_flushes association environment s pending
    rcases hflush:flushUsers association environment s pending with ⟨s₁,pending₁,failure⟩
    rw [hflush] at hnone hviolations hflushes
    obtain ⟨hempty,-,hsequences⟩:=hflushes.complete hnone
    dsimp only at hnone hviolations hempty hsequences
    subst hnone hempty
    dsimp only
    rw [hrecord.1,←hviolations]
    dsimp only
    rw [if_pos hrecord.2]
    apply ih s₁ [] hrest (fun _ h=>absurd h List.not_mem_nil)
    rw [List.nil_append,hsequences]
    exact hback

lemma receiveBatch_continues (records:List R) (s:ReceiveState R)
  (hquiet:∀record∈records,Quiet environment record)
  (hvalid:validUsers association s.inboundSequences (users environment records) =
   users environment records):(receiveBatch association environment s records).2=.continues ∧
   (receiveBatch association environment s records).1.sequenceViolations =
    s.sequenceViolations:=by
 obtain ⟨hcontinues,hnone,hviolations⟩:=
  receiveRecords_continues records s [] hquiet nofun hvalid
 unfold receiveBatch
 rcases hreceive:receiveRecords association environment s [] records with
  ⟨s₁,pending,outcome⟩
 rw [hreceive] at hcontinues hnone hviolations
 dsimp only at hcontinues hnone hviolations ⊢
 rcases hflush:flushUsers association environment s₁ pending with ⟨s₂,pending₂,failure⟩
 rw [hflush] at hnone hviolations
 dsimp only at hnone hviolations
 subst hnone
 exact ⟨hcontinues,hviolations⟩

lemma activeLoop_continues (batches:List (List R)) (s:ReceiveState R)
  (hquiet:∀record∈batches.flatten,Quiet environment record)
  (hvalid:validUsers association s.inboundSequences (users environment batches.flatten) =
   users environment batches.flatten):
  (activeLoop association environment s batches).2=.continues ∧
   (activeLoop association environment s batches).1.sequenceViolations =
    s.sequenceViolations:=by
 induction batches generalizing s with
 | nil=>exact ⟨rfl,rfl⟩
 | cons records batches ih=>
  rw [List.flatten_cons] at hquiet hvalid
  have hrecords (record:R) (h:record∈records):Quiet environment record:=
   hquiet record (List.mem_append_left _ h)
  have hsplit:=users_append_of_quiet records batches.flatten hrecords
  rw [hsplit] at hvalid
  obtain ⟨hfront,-⟩:=(validUsers_append_eq_self_iff _ _ _).mp hvalid
  obtain ⟨hcontinues,hviolations⟩:=receiveBatch_continues records s hrecords hfront
  obtain ⟨taken,hreceives⟩:=receiveBatch_receives association environment s records
  unfold activeLoop
  rcases hbatch:receiveBatch association environment s records with ⟨s₁,outcome⟩
  rw [hbatch] at hcontinues hviolations hreceives
  dsimp only at hcontinues hviolations
  subst hcontinues
  have htaken:=hreceives.complete rfl []
  rw [List.append_nil,List.nil_append,hfront] at htaken
  have hlater:=hreceives.complete rfl batches.flatten
  rw [List.nil_append,List.nil_append,hsplit,hvalid,htaken,List.nil_append,users,
   validUsers,List.append_nil,List.append_right_inj] at hlater
  obtain ⟨hcontinues,hsame⟩:=ih s₁
   (fun record h=>hquiet record (List.mem_append_right _ h)) hlater.symm
  exact ⟨hcontinues,hsame.trans hviolations⟩

end

section

inductive Arrival where
 | user (sent:Admitted) (channel:LogicalChannel)
 | control (record:TransportRecord)

def Arrival.record : Arrival → TransportRecord
 | .user sent channel=>⟨channel,sent.record.payload⟩
 | .control record=>record

structure Surroundings (C:Type) where
 decodeBody:FrameHeader → List UInt8 → Except WireError C
 reads:Arrival → UserMessage → Bool
 admitRemoteMessage:Arrival → UserMessage → RemoteAdmissionResult
 kind:C → ControlKind
 handlerReturns:Arrival → C → Bool

def receiver {U C:Type} (nfc:String → Bool) (association:Association U)
  (negotiated:Negotiated) (surroundings:Surroundings C):Environment Arrival C where
 decode arrival:=decodeFrame nfc surroundings.decodeBody arrival.record.payload
  negotiated.accept.maximumFrameBytes arrival.record.channel.kind
 channel arrival:=arrival.record.channel
 deserialize arrival message:=association.runtime.serializers.deserialize
  message.serializerId message.manifest (negotiated.serializerMinors message.serializerId)
  (surroundings.reads arrival message)
 admitRemoteMessage:=surroundings.admitRemoteMessage
 kind:=surroundings.kind
 handlerReturns:=surroundings.handlerReturns

def sentOf (arrivals:List Arrival):List Admitted:=
 arrivals.filterMap fun
  | .user sent _=>some sent
  | .control _=>none

def pendingOf (arrivals:List Arrival):List (Pending Arrival):=
 arrivals.filterMap fun
  | .user sent channel=>some ⟨.user sent channel,sent.frame,channel⟩
  | .control _=>none

def onLane (lane:ℕ) (messages:List UserMessage):List UserMessage:=
 messages.filter fun message=>message.laneId=lane

/-- On each lane the first ones of the admitted records arrived, in their order, over the
 channel they were sent on or over a multiplexed one. -/
structure InLaneOrder {C:Type} (environment:Environment Arrival C) (admitted:List Admitted)
  (arrivals:List Arrival):Prop where
 channels:∀sent channel,.user sent channel∈arrivals →
  channel=sent.record.channel ∨ channel=⟨.multiplexed,controlLaneId⟩
 controls:∀record,.control record∈arrivals → ∀message,
  environment.decode (.control record)≠.ok (.userMessage message)
 lanes:∀lane,(sentOf arrivals).filter (fun sent=>sent.frame.laneId=lane) <+:
  admitted.filter fun sent=>sent.frame.laneId=lane

variable {arrivals:List Arrival}

lemma mem_sentOf {sent:Admitted} {channel:LogicalChannel}
  (h:.user sent channel∈arrivals):sent∈sentOf arrivals:=
 List.mem_filterMap.mpr ⟨_,h,rfl⟩

lemma mem_pendingOf {pending:Pending Arrival} (h:pending∈pendingOf arrivals):
  ∃sent channel,.user sent channel∈arrivals ∧
   pending=⟨.user sent channel,sent.frame,channel⟩:=by
 obtain ⟨arrival,harrival,heq⟩:=List.mem_filterMap.mp h
 cases arrival with
 | user sent channel=>exact ⟨sent,channel,harrival,(Option.some.inj heq).symm⟩
 | control record=>cases heq

lemma map_message_pendingOf (arrivals:List Arrival):
  (pendingOf arrivals).map Pending.message=(sentOf arrivals).map Admitted.frame:=by
 unfold pendingOf sentOf
 rw [List.map_filterMap,List.map_filterMap]
 congr 1
 funext arrival
 cases arrival <;> rfl

lemma laneSequences_eq_map {α:Type} (message:α → UserMessage) (lane:ℕ) (items:List α):
  laneSequences message lane items =
   (onLane lane (items.map message)).map UserMessage.laneSequence:=by
 unfold laneSequences onLane
 rw [List.filter_map,List.map_map]
 rfl

lemma InLaneOrder.admitted {C:Type} {environment:Environment Arrival C} {admitted:List Admitted}
  (h:InLaneOrder environment admitted arrivals) {sent:Admitted} {channel:LogicalChannel}
  (harrival:.user sent channel∈arrivals):sent∈admitted:=by
 have hmem:sent∈(sentOf arrivals).filter fun other=>other.frame.laneId=sent.frame.laneId:=
  List.mem_filter.mpr ⟨mem_sentOf harrival,decide_eq_true rfl⟩
 exact (List.mem_filter.mp ((h.lanes _).subset hmem)).1

lemma users_prefix_pendingOf {C:Type} (environment:Environment Arrival C)
  (arrivals:List Arrival) (huser:∀sent channel,.user sent channel∈arrivals →
   environment.decode (.user sent channel)=.ok (.userMessage sent.frame) ∧
    environment.channel (.user sent channel)=channel)
  (hcontrol:∀record,.control record∈arrivals → ∀message,
   environment.decode (.control record)≠.ok (.userMessage message)):
  users environment arrivals <+:pendingOf arrivals ∧
   ((∀record,.control record∈arrivals → Quiet environment (.control record)) →
    users environment arrivals=pendingOf arrivals):=by
 induction arrivals with
 | nil=>exact ⟨List.nil_prefix,fun _=>rfl⟩
 | cons arrival arrivals ih=>
  obtain ⟨hfront,hall⟩:=ih
   (fun sent channel h=>huser sent channel (List.mem_cons_of_mem _ h))
   (fun record h=>hcontrol record (List.mem_cons_of_mem _ h))
  cases arrival with
  | user sent channel=>
   obtain ⟨hdecode,hchannel⟩:=huser sent channel List.mem_cons_self
   have husers:users environment (.user sent channel::arrivals) =
    ⟨.user sent channel,sent.frame,channel⟩::users environment arrivals:=by
    rw [users,hdecode,hchannel]
   have hpending:pendingOf (.user sent channel::arrivals) =
    ⟨.user sent channel,sent.frame,channel⟩::pendingOf arrivals:=rfl
   rw [husers,hpending]
   refine ⟨(List.prefix_cons_inj _).mpr hfront,fun hquiet=>?_⟩
   rw [hall fun record h=>hquiet record (List.mem_cons_of_mem _ h)]
  | control record=>
   have hpending:pendingOf (.control record::arrivals)=pendingOf arrivals:=rfl
   rw [hpending,users]
   cases hdecode:environment.decode (.control record) with
   | error error=>
    refine ⟨List.nil_prefix,fun hquiet=>?_⟩
    have hrecord:=hquiet record List.mem_cons_self
    unfold Quiet at hrecord
    rw [hdecode] at hrecord
    exact hrecord.elim
   | ok frame=>
    cases frame with
    | userMessage message=>exact absurd hdecode (hcontrol record List.mem_cons_self message)
    | control frame=>
     dsimp only
     refine ⟨?_,fun hquiet=>?_⟩
     · split
       · split_ifs
         · exact hfront
         · exact List.nil_prefix
       all_goals exact List.nil_prefix
     · have hrecord:=hquiet record List.mem_cons_self
       unfold Quiet at hrecord
       rw [hdecode] at hrecord
       dsimp only at hrecord
       rw [hrecord.1]
       dsimp only
       rw [if_pos hrecord.2]
       exact hall fun other h=>hquiet other (List.mem_cons_of_mem _ h)

end

section

variable {T U C:Type} {nfc:String → Bool} {a:Association T} {b:Association U}
 {negotiatedA negotiatedB:Negotiated}

section

variable (hagreed:Agreed a b negotiatedA negotiatedB)
include hagreed

section

variable {sent:Admitted} (hsent:WellSent nfc a negotiatedA sent) {channel:LogicalChannel}
 (hchannel:channel=sent.record.channel ∨ channel=⟨.multiplexed,controlLaneId⟩)
include hsent hchannel

lemma receiver_decode (surroundings:Surroundings C):(receiver nfc b negotiatedB surroundings).decode
  (.user sent channel) = .ok (.userMessage sent.frame):=by
 have hstream:validateStream .userMessage channel.kind=.ok ():=by
  rcases hchannel with rfl|rfl
  · rw [hsent.record_eq]
    rfl
  · rfl
 have hencodable:=hsent.encodable
 rw [hagreed.accept] at hencodable
 change decodeFrame nfc surroundings.decodeBody sent.record.payload
  negotiatedB.accept.maximumFrameBytes channel.kind=.ok (.userMessage sent.frame)
 rw [hsent.record_eq]
 exact decodeFrame_userMessageBytes surroundings.decodeBody hstream hencodable

lemma sent_addressed : Addressed (b.active negotiatedB)
  (⟨.user sent channel,sent.frame,channel⟩:Pending Arrival):=by
 refine ⟨?_,?_,fun hkind=>?_,?_,?_⟩
 · exact hsent.association_eq.trans hagreed.association
 · have hlane:=hsent.lane hagreed.lanes
   rw [hagreed.accept] at hlane
   exact hlane
 · rcases hchannel with rfl|rfl
   · rw [hsent.record_eq]
   · cases hkind
 · exact hsent.sender.trans hagreed.sender.symm
 · exact hsent.recipient.trans hagreed.recipient

end

lemma sent_routed {sent:Admitted} (hsent:WellSent nfc a negotiatedA sent) (channel:LogicalChannel):
  Routed (b.active negotiatedB) (⟨.user sent channel,sent.frame,channel⟩:Pending Arrival):=by
 obtain ⟨route,hroute,hmanifest⟩:=hsent.sendable
 rw [hagreed.routes] at hroute
 refine ⟨route.manifests,?_,hmanifest⟩
 change route.manifests∈(negotiatedB.receiveRoutes sent.frame.serializerId).map _
 rw [hroute]
 rfl

lemma sent_deserialize {sent:Admitted}
  (hsent:WellSent nfc a negotiatedA sent) (channel:LogicalChannel) (surroundings:Surroundings C):
  (receiver nfc b negotiatedB surroundings).deserialize (.user sent channel) sent.frame =
   if surroundings.reads (.user sent channel) sent.frame then .value
   else .rejected .malformedPayload:=by
 obtain ⟨route,hroute,hmanifest⟩:=hsent.sendable
 rw [hagreed.routes] at hroute
 obtain ⟨descriptor,minor,hregistered,hminors,hminor,hreadable⟩:=
  hagreed.readable _ _ hroute
 change b.runtime.serializers.deserialize sent.frame.serializerId sent.frame.manifest
  (negotiatedB.serializerMinors sent.frame.serializerId) _=_
 rw [hminors]
 exact b.runtime.serializers.deserialize_reaches_codec hregistered (hreadable _ hmanifest)
  hminor _

end

variable {s:World T} {arrivals:List Arrival}

lemma eq_range_of_prefix_range {numbers:List ℕ} {n:ℕ} (h:numbers <+:List.range n):
  numbers=List.range' 0 numbers.length:=by
 rw [←List.range_eq_range']
 have htake:=List.prefix_iff_eq_take.mp h
 have hlength:numbers.length≤n:=by
  have hle:=h.length_le
  rwa [List.length_range] at hle
 rw [List.take_range,Nat.min_eq_left hlength] at htake
 exact htake

section

variable (hagreed:Agreed a b negotiatedA negotiatedB) (hsending:Sending nfc a negotiatedA s)
 (surroundings:Surroundings C)
 (horder:InLaneOrder (receiver nfc b negotiatedB surroundings) s.send.admitted arrivals)
include hagreed hsending surroundings horder

lemma arrivals_valid : validUsers (b.active negotiatedB) (fun _=>0) (pendingOf arrivals)=pendingOf
  arrivals:=by
 apply validUsers_eq_self
 · intro pending hpending
   obtain ⟨sent,channel,harrival,rfl⟩:=mem_pendingOf hpending
   have hsent:=hsending.sent sent (horder.admitted harrival)
   exact ⟨sent_addressed hagreed hsent (horder.channels sent channel harrival),
    sent_routed hagreed hsent channel⟩
 · intro lane
   have hlane:laneSequences Pending.message lane (pendingOf arrivals) =
    laneSequences Admitted.frame lane (sentOf arrivals):=by
    rw [laneSequences_eq_map,laneSequences_eq_map,map_message_pendingOf]
   have hfront:laneSequences Admitted.frame lane (sentOf arrivals) <+:
    List.range (s.send.outboundSequences lane):=by
    rw [←hsending.numbered lane]
    exact (horder.lanes lane).map _
   rw [hlane]
   exact eq_range_of_prefix_range hfront

structure AllPass (environment:Environment Arrival C) (association:ActiveAssociation)
  (surroundings:Surroundings C) (arrivals:List Arrival):Prop where
 decoded:∀sent channel,.user sent channel∈arrivals →
  environment.decode (.user sent channel)=.ok (.userMessage sent.frame)
 checked:validUsers association (fun _=>0) (pendingOf arrivals)=pendingOf arrivals
 conforms:conforming association environment arrivals=users environment arrivals
 deserialized:∀sent channel,.user sent channel∈arrivals →
  environment.deserialize (.user sent channel) sent.frame =
   if surroundings.reads (.user sent channel) sent.frame then .value
   else .rejected .malformedPayload

def handledMessages (log:List (Handled Arrival)):List UserMessage:=
 log.map fun entry=>entry.pending.message

structure HandledOnce (log:List (Handled Arrival)) (received:List UserMessage) (lane:ℕ):
  Prop where
 once:(onLane lane (handledMessages log)).Perm (onLane lane received)
 admissions:(onLane lane ((admittedOf log).map Pending.message)).Sublist (onLane lane received)
 rejections:(onLane lane ((rejectedOf log).map Pending.message)).Sublist (onLane lane received)

lemma arrivals_allPass : AllPass (receiver nfc b negotiatedB surroundings) (b.active negotiatedB)
  surroundings arrivals ∧
  ((∀record,.control record∈arrivals → Quiet (receiver nfc b negotiatedB surroundings) (.control
   record)) → users (receiver nfc b negotiatedB surroundings) arrivals=pendingOf arrivals):=by
 have hvalid:=arrivals_valid hagreed hsending surroundings horder
 have hdecode (sent:Admitted) (channel:LogicalChannel)
  (harrival:.user sent channel∈arrivals):
  (receiver nfc b negotiatedB surroundings).decode (.user sent channel) =
   .ok (.userMessage sent.frame):=
  receiver_decode hagreed (hsending.sent sent (horder.admitted harrival))
   (horder.channels sent channel harrival) surroundings
 obtain ⟨⟨rest,hfront⟩,hall⟩:=users_prefix_pendingOf
  (receiver nfc b negotiatedB surroundings) arrivals
  (fun sent channel h=>⟨hdecode sent channel h,rfl⟩) horder.controls
 refine ⟨⟨hdecode,hvalid,?_,fun sent channel harrival=>?_⟩,hall⟩
 · rw [←hfront] at hvalid
   exact ((validUsers_append_eq_self_iff _ _ _).mp hvalid).1
 · exact sent_deserialize hagreed (hsending.sent sent (horder.admitted harrival)) channel
    surroundings

end

lemma user_quiet {surroundings:Surroundings C} {sent:Admitted} {channel:LogicalChannel}
  (hpass:AllPass (receiver nfc b negotiatedB surroundings) (b.active negotiatedB) surroundings
   arrivals) (harrival:.user sent channel∈arrivals):
  Quiet (receiver nfc b negotiatedB surroundings) (.user sent channel):=by
 unfold Quiet
 rw [hpass.decoded sent channel harrival]
 unfold Returns
 dsimp only
 rw [hpass.deserialized sent channel harrival]
 split_ifs <;> nofun

/-- After the handshake and any sends, the admitted records are numbered without gap on each
 lane, and whatever front of each lane has arrived passes all checks. While no control frame
 ends the loop, each message is handled once and in the sender's order. -/
theorem remote_delivery (h:Connected nfc a b negotiatedA negotiatedB) {s:World T}
  (hs:(sendSystem nfc a negotiatedA).Reachable s):
  (∀lane,laneSequences Admitted.frame lane s.send.admitted =
   List.range (s.send.outboundSequences lane)) ∧
  ∀(surroundings:Surroundings C) (batches:List (List Arrival)),
   let environment:=receiver nfc b negotiatedB surroundings
  let arrivals:=batches.flatten
  let received:=(sentOf arrivals).map Admitted.frame
  InLaneOrder environment s.send.admitted arrivals →
  AllPass environment (b.active negotiatedB) surroundings arrivals ∧
  ((∀record,.control record∈arrivals → Quiet environment (.control record)) →
   let result:=activeLoop (b.active negotiatedB) environment (.create Arrival) batches
   result.2=.continues ∧ result.1.sequenceViolations=0 ∧
   ∀lane,onLane lane received <+:onLane lane (s.send.admitted.map Admitted.frame) ∧
    HandledOnce result.1.log received lane ∧
    ((∀sent channel,.user sent channel∈arrivals →
     surroundings.reads (.user sent channel) sent.frame=true) →
     onLane lane (handledMessages result.1.log)=onLane lane received)):=by
 have hagreed:=h.agreed
 have hsending:=reachable_sending hs
 refine ⟨hsending.numbered,?_⟩
 intro surroundings batches environment arrivals received horder
 obtain ⟨hpass,hall⟩:=arrivals_allPass hagreed hsending surroundings horder
 refine ⟨hpass,fun hcontrols=>?_⟩
 intro result
 have hquiet (arrival:Arrival) (harrival:arrival∈arrivals):Quiet environment arrival:=by
  cases arrival with
  | user sent channel=>exact user_quiet hpass harrival
  | control record=>exact hcontrols record harrival
 obtain ⟨hcontinues,hviolations⟩:=
  activeLoop_continues batches (.create Arrival) hquiet hpass.conforms
 obtain ⟨taken,-,hlogs,htaken⟩:=
  activeLoop_logs (b.active negotiatedB) environment batches (.create Arrival)
 have heq:pendingOf arrivals=taken:=by
  rw [←htaken hcontinues,←hall hcontrols]
  exact hpass.conforms.symm
 have hlog:=hlogs [] ⟨nofun,.nil,.slnil,.slnil⟩
 rw [List.nil_append,←heq] at hlog
 have hreceived:(pendingOf arrivals).map Pending.message=received:=
  map_message_pendingOf arrivals
 have hhandled:handledMessages result.1.log =
  (result.1.log.map Handled.pending).map Pending.message:=(List.map_map ..).symm
 refine ⟨hcontinues,hviolations,fun lane=>⟨?_,⟨?_,?_,?_⟩,fun hreads=>?_⟩⟩
 · have hfront:=(horder.lanes lane).map Admitted.frame
   unfold onLane
   rw [List.filter_map,List.filter_map]
   exact hfront
 · rw [hhandled,←hreceived]
   exact (hlog.handled.map _).filter _
 · rw [←hreceived]
   exact (hlog.admitted.map _).filter _
 · rw [←hreceived]
   exact (hlog.rejected.map _).filter _
 · have hnone:rejectedOf result.1.log=[]:=by
    rw [List.eq_nil_iff_forall_not_mem]
    intro pending hpending
    obtain ⟨entry,hentry,hrejected⟩:=List.mem_filterMap.mp hpending
    cases entry with
    | admitted other result=>cases hrejected
    | rejected other reason=>
     have hjustified:=hlog.justified _ hentry
     obtain ⟨sent,channel,harrival,rfl⟩:=
      mem_pendingOf (hlog.handled.subset (List.mem_map_of_mem hentry))
     have hvalue:=hpass.deserialized sent channel harrival
     rw [if_pos (hreads sent channel harrival)] at hvalue
     cases hvalue.symm.trans hjustified
   rw [hhandled,hlog.map_pending_eq hnone,hreceived]

end

def greetings : SerializerDescriptor where
 serializerId:=7
 name:= "greetings"
 protocolMajor:=1
 protocolMinor:=0
 readableManifests:=["greeting"]
 writableManifests:=["greeting"]
 serializerId_pos:=by decide
 serializerId_le:=by decide
 protocolMajor_le:=by decide
 protocolMinor_le:=by decide
 readable_canonical:=List.pairwise_singleton _ _
 writable_canonical:=List.pairwise_singleton _ _

def greetingRegistry : SerializerRegistry Unit where
 descriptors:=[greetings]
 bindings _:=some ⟨7, "greeting"⟩
 ids_nodup:=by decide
 names_nodup:=by decide
 bound _ binding hbinding:=by
  cases hbinding
  exact ⟨greetings,List.mem_singleton.mpr rfl,rfl,List.mem_singleton.mpr rfl⟩

def node (name peer:String) (uid:UUID) (initiator:Bool):Association Unit where
 runtime:=
  { systemName:=name
    incarnationUid:=uid
    endpoint:=⟨name,1⟩
    limits:=⟨4096,8,65536,8,65536⟩
    laneCount:=1
    serializers:=greetingRegistry
    peers:=fun system=>if system=peer then some ⟨peer,1⟩ else none }
 associationUid:=toUUID 1
 initiator:=initiator
 expectedSystemName:=none
 expectedEndpoint:=none

def nodeA : Association Unit:=node "a" "b" (toUUID 2) true
def nodeB : Association Unit:=node "b" "a" (toUUID 3) false

def greetingRoute (uid:UUID):SerializerRoute:=
 ⟨uid,7,["greeting"],Nat.succ_pos 6,List.cons_ne_nil _ _,List.pairwise_singleton _ _⟩

def pairAccept : HelloAccept:=
 ⟨toUUID 1,0,4096,1,8,65536,8,65536,
  [greetingRoute (toUUID 2),greetingRoute (toUUID 3)],[],0⟩

def negotiatedOf (own:Association Unit) (peer:Association Unit):Negotiated:=
 own.prepareNegotiated peer.runtime.incarnationUid pairAccept [⟨7,0⟩]

lemma nodes_connected : Connected (fun _=>true) nodeA nodeB (negotiatedOf nodeA nodeB)
  (negotiatedOf nodeB nodeA):=⟨rfl,rfl⟩

def greetedActor : ActorIdentity:=⟨toUUID 3,toUUID 4⟩

def greetingFrame (sequence:ℕ):UserMessage:=greeting sequence [65]

def sentGreeting (sequence:ℕ):Admitted:=
 ⟨greetingFrame sequence,⟨⟨.deliveryLane,0⟩,userMessageBytes (greetingFrame sequence)⟩⟩

lemma greetingFrame_zero_encodable : Encodable (fun _=>true) (greetingFrame 0) 4096:=
 ⟨rfl,by decide,by decide,by decide,by decide,by decide,by decide,by decide,by decide,
  by decide,by decide,by decide,by decide,by decide⟩

lemma greetingFrame_encodable (sequence:ℕ) (h:sequence ≤ maxU64):
  Encodable (fun _=>true) (greetingFrame sequence) 4096:=
 { greetingFrame_zero_encodable with sequence:=h }

lemma laneOf_greetedActor : laneOf (negotiatedOf nodeA nodeB) greetedActor=0:=Nat.mod_one _

def sentState (count:ℕ):SendState where
 state:=.active
 outboundSequences:=update (fun _=>0) 0 count
 admitted:=(List.range count).map sentGreeting

lemma sentState_succ (count:ℕ) (h:count ≤ maxU64):
  (sendLocked (fun _=>true) nodeA (negotiatedOf nodeA nodeB) (sentState count) greetedActor
   ⟨7, "greeting",[65]⟩ .admitted).1=sentState (count+1):=by
 have hframe:greetingFrame count=userMessage nodeA (negotiatedOf nodeA nodeB) greetedActor
  ⟨7, "greeting",[65]⟩
  ((sentState count).outboundSequences (laneOf (negotiatedOf nodeA nodeB) greetedActor)):=by
  unfold userMessage
  rw [laneOf_greetedActor]
  rfl
 rw [sendLocked_admits rfl rfl hframe (greetingFrame_encodable count h)]
 unfold sentState
 rw [List.range_succ,List.map_append]
 dsimp only [greetingFrame,greeting]
 rw [update_idem]
 rfl

lemma sentState_reachable (count:ℕ) (h:count ≤ maxU64+1):
  (sendSystem (fun _=>true) nodeA (negotiatedOf nodeA nodeB)).Reachable
   ⟨sentState count,[]⟩:=by
 induction count with
 | zero=>
  apply System.Reachable.start
  change (⟨sentState 0,[]⟩:World Unit)=⟨.create,[]⟩
  unfold sentState SendState.create
  rw [update_eq_self]
  rfl
 | succ count ih=>
  have hcalled:=(ih (Nat.le_of_succ_le h)).next (.call greetedActor ()) rfl
  have hserialized:=hcalled.next (.serialize greetedActor () (some [65])) ⟨[],[],rfl,rfl⟩
  have hsent:=hserialized.next (.deliver greetedActor ⟨7, "greeting",[65]⟩ .admitted)
   ⟨[],[],rfl,rfl⟩
  rw [←sentState_succ count (Nat.le_of_succ_le_succ h)]
  exact hsent

def greetingArrivals (count:ℕ):List Arrival:=
 (List.range count).map fun sequence=>
  .user (sentGreeting sequence) ⟨.multiplexed,controlLaneId⟩

def reading (test:UserMessage → Bool):Surroundings Unit where
 decodeBody _ _:=.ok ()
 reads _ message:=test message
 admitRemoteMessage _ _:=.accepted
 kind _:=.handled
 handlerReturns _ _:=true

lemma control_not_mem_greetingArrivals (record:TransportRecord) (count:ℕ):
  .control record∉greetingArrivals count:=by
 intro h
 obtain ⟨sequence,-,heq⟩:=List.mem_map.mp h
 cases heq

lemma sentOf_greetingArrivals (count:ℕ):
  sentOf (greetingArrivals count)=(sentState count).admitted:=by
 unfold sentOf greetingArrivals
 rw [List.filterMap_map]
 exact congrFun List.filterMap_eq_map _

lemma greetingArrivals_inLaneOrder (environment:Environment Arrival Unit) (count:ℕ):
  InLaneOrder environment (sentState count).admitted (greetingArrivals count):=by
 refine ⟨fun sent channel h=>?_,fun record h=>?_,fun lane=>?_⟩
 · obtain ⟨sequence,-,heq⟩:=List.mem_map.mp h
   cases heq
   exact .inr rfl
 · exact absurd h (control_not_mem_greetingArrivals record count)
 · have hsame:(sentOf (greetingArrivals count)).filter (fun sent=>sent.frame.laneId=lane) =
    (sentState count).admitted.filter fun sent=>sent.frame.laneId=lane:=by
    rw [sentOf_greetingArrivals]
   exact ⟨[],(List.append_nil _).trans hsame⟩

def greetingRun (test:UserMessage → Bool):ReceiveState Arrival×Outcome:=
 activeLoop (nodeB.active (negotiatedOf nodeB nodeA))
  (receiver (fun _=>true) nodeB (negotiatedOf nodeB nodeA) (reading test))
  (.create Arrival) [greetingArrivals 2]

theorem remote_delivery_two_greetings :
  (greetingRun fun _=>true).2=.continues ∧
   (greetingRun fun _=>true).1.sequenceViolations=0 ∧
   onLane 0 (handledMessages (greetingRun fun _=>true).1.log) =
    [greetingFrame 0,greetingFrame 1]:=by
 have hflatten:[greetingArrivals 2].flatten=greetingArrivals 2:=List.flatten_singleton
 obtain ⟨-,hdelivery⟩:=remote_delivery (C := Unit) nodes_connected
  (sentState_reachable 2 (by decide))
 obtain ⟨-,hhandled⟩:=hdelivery (reading fun _=>true) [greetingArrivals 2]
  (by rw [hflatten]; exact greetingArrivals_inLaneOrder _ 2)
 rw [hflatten,sentOf_greetingArrivals] at hhandled
 obtain ⟨hcontinues,hviolations,hlanes⟩:=hhandled fun record hrecord=>
  absurd hrecord (control_not_mem_greetingArrivals record 2)
 unfold greetingRun
 exact ⟨hcontinues,hviolations,(hlanes 0).2.2 fun _ _ _=>rfl⟩

theorem rejection_overtakes_delivery :
  Connected (fun _=>true) nodeA nodeB (negotiatedOf nodeA nodeB) (negotiatedOf nodeB nodeA) ∧
  (sendSystem (fun _=>true) nodeA (negotiatedOf nodeA nodeB)).Reachable ⟨sentState 2,[]⟩ ∧
  (∀environment:Environment Arrival Unit,
   InLaneOrder environment (sentState 2).admitted (greetingArrivals 2)) ∧
  onLane 0 ((sentState 2).admitted.map Admitted.frame)=[greetingFrame 0,greetingFrame 1] ∧
  onLane 0 (handledMessages (greetingRun fun message=>message.laneSequence=0).1.log) =
   [greetingFrame 1,greetingFrame 0]:=by
 have hreachable:=sentState_reachable 2 (by decide)
 have horder (environment:Environment Arrival Unit):=greetingArrivals_inLaneOrder environment 2
 refine ⟨nodes_connected,hreachable,horder,rfl,?_⟩
 have harrivals:greetingArrivals 2 =
  [.user (sentGreeting 0) ⟨.multiplexed,controlLaneId⟩,
   .user (sentGreeting 1) ⟨.multiplexed,controlLaneId⟩]:=rfl
 obtain ⟨⟨hdecoded,-,hconforms,hdeserialized⟩,-⟩:=arrivals_allPass nodes_connected.agreed
  (reachable_sending hreachable) (reading fun message=>message.laneSequence=0) (horder _)
 rw [harrivals] at hdecoded hconforms hdeserialized
 have hlog:=activeLoop_overtakes (hdecoded _ _ List.mem_cons_self)
  (hdecoded _ _ (List.mem_cons_of_mem _ List.mem_cons_self)) hconforms
  (hdeserialized _ _ List.mem_cons_self)
  (hdeserialized _ _ (List.mem_cons_of_mem _ List.mem_cons_self))
 unfold greetingRun
 rw [harrivals,hlog]
 rfl

end Movie.AssociationDelivery
