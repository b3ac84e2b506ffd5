import Movie.AssociationManager
import Movie.ClusterInvariant

/-!
# What a record can change at a coordinator

Whatever a record claims, its handler reads and writes the coordinator's maps at the identity of the
association it came over. Only a request to join can do more: it may evict members that have left.
-/
namespace Movie.ClusterIsolation

open DurableModel Handshake Wire ClusterModel ClusterCoordinator ClusterSections ClusterInvariant
open AssociationReceive (RemoteAdmissionResult)

inductive ControlRecord where
 | request (message:Request)
 | notice (message:Notice)

def ControlRecord.IsJoinRequest : ControlRecord → Prop
 | .request (.joinRequest _)=>True
 | _=>False

def ControlRecord.IsReply : ControlRecord → Prop
 | .notice message=>match message.kind with
  | .leaveAck _ | .membershipUpdate _=>True
  | .joinAccepted .. | .heartbeatAck ..=>False
 | .request _=>False

instance (record:ControlRecord):Decidable record.IsReply:=
 match record with
 | .notice ⟨_,_,_,_,.leaveAck _,_,_⟩=>isTrue trivial
 | .notice ⟨_,_,_,_,.membershipUpdate _,_,_⟩=>isTrue trivial
 | .notice ⟨_,_,_,_,.joinAccepted ..,_,_⟩=>isFalse id
 | .notice ⟨_,_,_,_,.heartbeatAck ..,_,_⟩=>isFalse id
 | .request _=>isFalse id

structure AssociationSnapshot where
 associationUid:UUID
 state:AssociationManager.AssociationState
 peerSystemName:Option String
 peerIncarnationUid:Option UUID
 peerEndpoint:Option Endpoint

def AssociationSnapshot.peer (association:AssociationSnapshot):
  Option (MemberIdentity×Endpoint):=do
 guard (association.state=.active)
 let systemName ← association.peerSystemName
 let incarnationUid ← association.peerIncarnationUid
 let endpoint ← association.peerEndpoint
 return (⟨systemName,incarnationUid⟩,endpoint)

structure InboundControl where
 message:ControlRecord
 source:MemberIdentity
 sourceEndpoint:Endpoint

/-- `_admit_remote_control` for a record sent to the control actor, with what it puts into the
 queue; `full` says that the queue has no room. -/
def admitRemoteControl (state:RuntimeState) (associations:List AssociationSnapshot)
  (associationUid:UUID) (full:Bool) (message:ControlRecord):
  RemoteAdmissionResult×Option InboundControl:=
 match (associations.filter fun association=>
  association.associationUid=associationUid).findSome? AssociationSnapshot.peer with
 | none=>(.actorNotFound,none)
 | some (source,sourceEndpoint)=>
  if ¬state.Serving ∧ ¬(state=.stopping ∧ message.IsReply) then (.actorStopping,none)
  else if full then (.mailboxFull,none)
  else (.accepted,some ⟨message,source,sourceEndpoint⟩)

lemma source_of_admitted {state:RuntimeState} {associations:List AssociationSnapshot}
  {associationUid:UUID} {full:Bool} {message:ControlRecord} {inbound:InboundControl}
  (h:(admitRemoteControl state associations associationUid full message).2=some inbound):
  inbound.message=message ∧ ∃association∈associations,
   association.associationUid=associationUid ∧
   association.peer=some (inbound.source,inbound.sourceEndpoint):=by
 unfold admitRemoteControl at h
 split at h
 · cases h
 · rename_i source sourceEndpoint hfound
   split at h
   · cases h
   split at h
   · cases h
   cases h
   obtain ⟨association,hmem,hpeer⟩:=List.exists_of_findSome?_eq_some hfound
   rw [List.mem_filter,decide_eq_true_eq] at hmem
   exact ⟨rfl,association,hmem.1,hmem.2,hpeer⟩

/-- The record names the cluster, this incarnation and the source it came from, and where it
 carries a token of the source, that one. -/
def Matches (node:Coordinator) (s:CoordinatorState) (source:MemberIdentity)
  (sourceEndpoint:Endpoint):ControlRecord → Prop
 | .request (.joinRequest message)=>
  FromMember node message.clusterName message.sourceSystemName message.sourceIncarnationUid
   message.targetIncarnationUid source ∧
   sourceEndpoint=⟨message.sourceHost,message.sourcePort⟩
 | .request (.joinConfirm message)=>
  FromMember node message.clusterName message.sourceSystemName message.sourceIncarnationUid
   message.targetIncarnationUid source ∧
   s.memberTokens.lookup source=some message.membershipToken
 | .request (.heartbeat message)=>
  FromMember node message.clusterName message.sourceSystemName message.sourceIncarnationUid
   message.targetIncarnationUid source ∧
   s.memberTokens.lookup source=some message.membershipToken
 | .request (.leave message)=>
  FromMember node message.clusterName message.sourceSystemName message.sourceIncarnationUid
   message.targetIncarnationUid source ∧
   s.memberTokens.lookup source=some message.membershipToken
 | .notice message=>
  FromMember node message.clusterName message.sourceSystemName message.sourceIncarnationUid
   message.targetIncarnationUid source

def IsCoordinator (node:Coordinator):Prop:=
 node.selfIdentity.systemName=node.config.seed.systemName

/-- The tests of a handler before it reads the snapshot of a notice, up to that of the token. -/
def Heeds (node:Coordinator) (coordinatorIdentity:Option MemberIdentity) (message:Notice)
  (source:MemberIdentity):Prop:=
 (match message.kind with
  | .joinAccepted .. | .heartbeatAck .. | .leaveAck _=>¬IsCoordinator node
  | .membershipUpdate _=>True) ∧
 node.TargetsSelf message.clusterName message.targetIncarnationUid ∧
 coordinatorIdentity=some source ∧
 message.sourceSystemName=source.systemName ∧ message.sourceIncarnationUid=source.incarnationUid

/-- `_handle_control` on a coordinator, up to the end of the handler's first section. What follows
 the test of a notice is left open, since no notice passes it: `_join` alone, which a coordinator
 does not run, sets `_coordinator_identity`. -/
def handleControl (node:Coordinator) (r:CoordinatorRun) (source:MemberIdentity)
  (sourceEndpoint:Endpoint) (token:UUID) (now:ℤ) (returned:Bool):
  ControlRecord → CoordinatorRun → Prop
 | .request (.joinRequest message),r'=>
  workerStep node r (.joinRequest message source sourceEndpoint token now) r'
 | .request (.joinConfirm message),r'=>workerStep node r (.joinConfirm message source now) r'
 | .request (.heartbeat message),r'=>
  workerStep node r (.heartbeat message source now returned) r'
 | .request (.leave message),r'=>workerStep node r (.leave message source) r'
 | .notice message,r'=>r.worker=.idle ∧ (¬Heeds node none message source → r'=r)

lemma handleControl_notice {node:Coordinator} {r r':CoordinatorRun} {source:MemberIdentity}
  {sourceEndpoint:Endpoint} {token:UUID} {now:ℤ} {returned:Bool} {message:Notice}
  (h:handleControl node r source sourceEndpoint token now returned (.notice message) r'):
  r.worker=.idle ∧ r'=r:=
 h.imp_right fun hheeded=>hheeded nofun

def Handles (source:MemberIdentity) (worker:Worker):Prop:=
 ∃requestId,worker=.accepting source requestId ∨ worker=.leaving source requestId

section

structure Account where
 member:Option ClusterMember
 token:Option UUID
 reference:Option RemoteActorRef
 pendingJoin:Option (UUID×ℤ)
 heartbeatSequence:Option ℤ
 evidence:Option ℤ
 retired:Bool

def account (s:CoordinatorState) (identity:MemberIdentity):Account where
 member:=s.members.lookup identity
 token:=s.memberTokens.lookup identity
 reference:=s.memberRefs.lookup identity
 pendingJoin:=s.pendingJoins.lookup identity
 heartbeatSequence:=s.lastHeartbeatSequence.lookup identity
 evidence:=s.lastEvidence.lookup identity
 retired:=decide (identity∈s.retiredIdentities)

def evicted : Account:=⟨none,none,none,none,none,none,true⟩

variable {s:CoordinatorState} {identity other:MemberIdentity}

lemma account_advance {member:ClusterMember} (hne:other≠member.identity):
  account (s.advance member) other=account s other:=by
 unfold account
 congr 1
 exact lookup_replaceMember_ne s.toMemberView hne

lemma account_revokeMember (hne:other≠identity):
  account (s.revokeMember identity) other=account s other:=by
 unfold account CoordinatorState.revokeMember
 simp only [AList.lookup_erase_ne hne]

lemma account_removeMember (hne:other≠identity):
  account (s.removeMember identity) other=account s other:=by
 unfold account CoordinatorState.removeMember
 simp only [AList.lookup_erase_ne hne]

lemma account_retireMember (hne:other≠identity):
  account (retireMember s identity) other=account s other:=by
 unfold retireMember
 rw [account_revokeMember hne,account_removeMember hne]
 unfold account
 simp only [Finset.mem_insert,hne,false_or]

lemma account_retireMember_self : account (retireMember s identity) identity=evicted:=by
 unfold account retireMember CoordinatorState.revokeMember CoordinatorState.removeMember evicted
 simp only [AList.lookup_erase,Finset.mem_insert,true_or,decide_true]

lemma account_provision (node:Coordinator) {reference:RemoteActorRef}
  {requestId token:UUID} {now:ℤ} (hne:other≠identity):
  account (provision node s identity reference requestId token now) other=account s other:=by
 unfold account provision
 simp only [AList.lookup_insert_ne hne]

end

def Spares (source:MemberIdentity) (s t:CoordinatorState):Prop:=
 ∀other,other≠source → account t other=account s other

def Evicts (s t:CoordinatorState) (identity:MemberIdentity):Prop:=
 (s.members.lookup identity).map ClusterMember.status=some .left ∧ account t identity=evicted

section

variable {node:Coordinator} {s t u:CoordinatorState} {source:MemberIdentity}

lemma Spares.refl (s:CoordinatorState):Spares source s s:=fun _ _=>rfl

lemma Spares.trans (h:Spares source s t) (h':Spares source t u):Spares source s u:=
 fun other hne=>(h' other hne).trans (h other hne)

lemma spares_advance (member:ClusterMember) (hid:member.identity=source):
  Spares source s (s.advance member):=by
 subst hid
 exact fun _ hne=>account_advance hne

lemma spares_revokeMember : Spares source s (s.revokeMember source):=
 fun _ hne=>account_revokeMember hne

lemma spares_handleJoinConfirm (hkeyed:Keyed s.members) (message:JoinConfirm) (now:ℤ):
  Spares source s (handleJoinConfirm node s message source now).1:=by
 obtain hsame|⟨member,hm,-,-,heq⟩:=handleJoinConfirm_cases node s message source now
 · rw [hsame]
   exact .refl s
 · rw [heq]
   refine Spares.trans (fun other hne=>?_) (spares_advance _ (hkeyed source member hm))
   unfold account
   simp only [AList.lookup_erase_ne hne,AList.lookup_insert_ne hne]

lemma spares_handleHeartbeat (hkeyed:Keyed s.members) (message:Heartbeat) (now:ℤ):
  Spares source s (handleHeartbeat node s message source now).1:=by
 obtain hsame|⟨member,t,became,hm,-,-,hshape,heq⟩:=
  handleHeartbeat_cases node s message source now
 · rw [hsame]
   exact .refl s
 · rw [heq]
   have hseen:Spares source s { s with
    lastHeartbeatSequence:=s.lastHeartbeatSequence.insert source (message.sequence:ℤ)
    lastEvidence:=s.lastEvidence.insert source now }:=by
    intro other hne
    unfold account
    simp only [AList.lookup_insert_ne hne]
   obtain ⟨-,rfl⟩|⟨-,rfl⟩:=hshape
   · exact hseen
   · exact hseen.trans (spares_advance _ (hkeyed source member hm))

lemma spares_handleLeave (hkeyed:Keyed s.members) (message:Leave):
  Spares source s (handleLeave node s message source).1:=by
 obtain hsame|⟨member,hm,-,⟨-,heq⟩|⟨-,heq⟩⟩:=handleLeave_cases node s message source
 · rw [hsame]
   exact .refl s
 · rw [heq]
   exact spares_advance _ (hkeyed source member hm)
 · rw [heq]
   exact .refl s

lemma spares_finishLeave (hkeyed:Keyed s.members) (requestId:UUID):
  Spares source s (finishLeave node s source requestId).1:=by
 unfold finishLeave
 split
 · exact .refl s
 · rename_i member hm
   dsimp only
   split
   · exact spares_revokeMember
   · exact (spares_advance { member with status:=.left }
      (hkeyed source member hm)).trans spares_revokeMember

lemma spares_expireProvisionalJoin (requestId:UUID):
  Spares source s (expireProvisionalJoin s source requestId):=by
 unfold expireProvisionalJoin
 split
 · intro other hne
   let held:CoordinatorState:={ s with pendingJoins:=s.pendingJoins.erase source }
   change account ((held.removeMember source).revokeMember source) other=_
   rw [account_revokeMember hne,account_removeMember hne]
   unfold account
   simp only [held,AList.lookup_erase_ne hne]
 · exact .refl s

variable (node s) in
lemma reserveMemberCapacity_account (order:List MemberIdentity) (other:MemberIdentity):
  account (reserveMemberCapacity node s order).1 other=account s other ∨
   Evicts s (reserveMemberCapacity node s order).1 other:=by
 induction order generalizing s with
 | nil=>exact Or.inl rfl
 | cons identity rest ih=>
  unfold reserveMemberCapacity
  split_ifs with hfull hleft hroom
  · exact Or.inl rfl
  · by_cases hother:other=identity
    · subst hother
      -- Once retired it is no member, so no later round can evict it again.
      have hnone:(retireMember s other).members.lookup other=none:=AList.lookup_erase _ _
      refine Or.inr ⟨hleft,?_⟩
      rcases ih (retireMember s other) with hsame|⟨hagain,-⟩
      · exact hsame.trans account_retireMember_self
      · rw [hnone] at hagain
        cases hagain
    · have hkept:account (retireMember s identity) other=account s other:=
       account_retireMember hother
      rcases ih (retireMember s identity) with hsame|⟨hgone,hevicted⟩
      · exact Or.inl (hsame.trans hkept)
      · have hmember:(retireMember s identity).members.lookup other=s.members.lookup other:=
         congrArg Account.member hkept
        exact Or.inr ⟨hmember▸hgone,hevicted⟩
  · exact ih s
  · exact Or.inl rfl

variable (node s) in
lemma handleJoinRequest_account (message:JoinRequest) (sourceEndpoint:Endpoint)
  (token:UUID) (now:ℤ) {other:MemberIdentity} (hne:other≠source):
  account (handleJoinRequest node s message source sourceEndpoint token now).1 other =
   account s other ∨
   Evicts s (handleJoinRequest node s message source sourceEndpoint token now).1 other:=by
 unfold handleJoinRequest
 dsimp only
 split
 · exact Or.inl rfl
 split
 · exact Or.inl rfl
 split
 · exact Or.inl rfl
 split
 · exact Or.inl (account_provision node hne)
 · have hreserved:=reserveMemberCapacity_account node s s.leftOrder other
   split
   · rename_i t heq
     rw [heq] at hreserved
     exact hreserved
   · rename_i t heq
     rw [heq] at hreserved
     unfold Evicts at hreserved ⊢
     rwa [account_provision node hne,account_advance hne]

end

section

variable {node:Coordinator} {s:CoordinatorState} {source:MemberIdentity}
 {sourceEndpoint:Endpoint}

lemma handleJoinRequest_of_mismatch {message:JoinRequest} {token:UUID} {now:ℤ}
  (h:¬Matches node s source sourceEndpoint (.request (.joinRequest message))):
  handleJoinRequest node s message source sourceEndpoint token now=(s,none):=by
 have hinvalid:¬JoinRequestValid node message source sourceEndpoint:=
  fun ⟨htarget,_,hsource,hendpoint,_⟩=>h ⟨⟨htarget,hsource⟩,hendpoint⟩
 unfold handleJoinRequest
 rw [if_pos hinvalid]

lemma handleJoinConfirm_of_mismatch {message:JoinConfirm} {now:ℤ}
  (h:¬Matches node s source sourceEndpoint (.request (.joinConfirm message))):
  handleJoinConfirm node s message source now=(s,false):=by
 unfold handleJoinConfirm
 split
 · rename_i hfrom
   split
   · split
     · rename_i hc
       exact absurd ⟨hfrom.1,hc.2.2.2⟩ h
     · rfl
   · rfl
 · rfl

lemma handleHeartbeat_of_mismatch {message:Heartbeat} {now:ℤ}
  (h:¬Matches node s source sourceEndpoint (.request (.heartbeat message))):
  handleHeartbeat node s message source now=(s,none):=by
 unfold handleHeartbeat
 split
 · rename_i hfrom
   split
   · split
     · rename_i hc
       exact absurd ⟨hfrom,hc.2.1⟩ h
     · rfl
   · rfl
 · rfl

lemma handleLeave_of_mismatch {message:Leave}
  (h:¬Matches node s source sourceEndpoint (.request (.leave message))):
  handleLeave node s message source=(s,none):=by
 unfold handleLeave
 split
 · rename_i hfrom
   split
   · split
     · rename_i hc
       exact absurd ⟨hfrom,hc.1⟩ h
     · rfl
   · rfl
 · rfl

end

section

variable {node:Coordinator} {r r':CoordinatorRun} {source:MemberIdentity}
 {sourceEndpoint:Endpoint} {token:UUID} {now:ℤ} {returned:Bool} {record:ControlRecord}

section

variable (h:handleControl node r source sourceEndpoint token now returned record r')
include h

lemma handleControl_account (hkeyed:Keyed r.data.members) {other:MemberIdentity}
  (hne:other≠source):account r'.data other=account r.data other ∨
   record.IsJoinRequest ∧ Evicts r.data r'.data other:=by
 match record with
 | .request (.joinRequest message)=>
  obtain ⟨-,data,reply,heq,rfl⟩:=h
  have hframe:=handleJoinRequest_account node r.data message sourceEndpoint token now hne
  rw [heq] at hframe
  exact hframe.imp_right fun hevicts=>⟨trivial,hevicts⟩
 | .request (.joinConfirm message)=>
  obtain ⟨-,data,changed,heq,rfl⟩:=h
  have hframe:Spares source r.data (handleJoinConfirm node r.data message source now).1:=
   spares_handleJoinConfirm hkeyed message now
  rw [heq] at hframe
  exact Or.inl (hframe other hne)
 | .request (.heartbeat message)=>
  obtain ⟨-,data,ack,heq,rfl⟩:=h
  have hframe:Spares source r.data (handleHeartbeat node r.data message source now).1:=
   spares_handleHeartbeat hkeyed message now
  rw [heq] at hframe
  exact Or.inl (hframe other hne)
 | .request (.leave message)=>
  obtain ⟨-,data,wasUp,heq,rfl⟩:=h
  have hframe:Spares source r.data (handleLeave node r.data message source).1:=
   spares_handleLeave hkeyed message
  rw [heq] at hframe
  exact Or.inl (hframe other hne)
 | .notice _=>
  obtain ⟨-,rfl⟩:=handleControl_notice h
  exact Or.inl rfl

lemma handleControl_worker :
  r'.worker=.idle ∨ Handles source r'.worker:=by
 match record with
 | .request (.joinRequest message)=>
  obtain ⟨-,data,reply,-,rfl⟩:=h
  cases reply with
  | none=>exact Or.inl rfl
  | some _=>exact Or.inr ⟨message.requestId,Or.inl rfl⟩
 | .request (.leave message)=>
  obtain ⟨-,data,wasUp,-,rfl⟩:=h
  cases wasUp with
  | none=>exact Or.inl rfl
  | some _=>exact Or.inr ⟨message.requestId,Or.inr rfl⟩
 | .request (.joinConfirm _)=>
  obtain ⟨hidle,data,changed,-,rfl⟩:=h
  exact Or.inl hidle
 | .request (.heartbeat _)=>
  obtain ⟨hidle,data,ack,-,rfl⟩:=h
  exact Or.inl hidle
 | .notice _=>
  obtain ⟨hidle,rfl⟩:=handleControl_notice h
  exact Or.inl hidle

lemma handleControl_of_mismatch (hmismatch:¬Matches node r.data source sourceEndpoint record):r'=r:=by
 obtain ⟨data,starter,worker,stopper,broadcasts,sent⟩:=r
 match record with
 | .request (.joinRequest message)=>
  obtain ⟨hidle,data',reply,heq,rfl⟩:=h
  rw [handleJoinRequest_of_mismatch hmismatch] at heq
  cases heq
  cases hidle
  simp [outgoing]
 | .request (.joinConfirm message)=>
  obtain ⟨hidle,data',changed,heq,rfl⟩:=h
  rw [handleJoinConfirm_of_mismatch hmismatch] at heq
  cases heq
  simp [pending]
 | .request (.heartbeat message)=>
  obtain ⟨hidle,data',ack,heq,rfl⟩:=h
  rw [handleHeartbeat_of_mismatch hmismatch] at heq
  cases heq
  simp [pending,outgoing]
 | .request (.leave message)=>
  obtain ⟨hidle,data',wasUp,heq,rfl⟩:=h
  rw [handleLeave_of_mismatch hmismatch] at heq
  cases heq
  cases hidle
  simp [pending]
 | .notice _=>exact (handleControl_notice h).2

end

lemma spares_of_handles (hkeyed:Keyed r.data.members) (hhandles:Handles source r.worker)
  {event:WorkerEvent} (h:workerStep node r event r'):Spares source r.data r'.data:=by
 obtain ⟨requestId,hworker⟩:=hhandles
 have hbusy:r.worker≠.idle:=by
  rintro hidle
  rw [hidle] at hworker
  obtain hworker|hworker:=hworker <;> cases hworker
 match event with
 | .acceptedSent returned=>
  obtain ⟨identity,requestId',haccepting,rfl⟩:=h
  obtain hworker|hworker:=hworker
  · rw [hworker] at haccepting
    cases haccepting
    cases returned with
    | true=>exact .refl r.data
    | false=>exact spares_expireProvisionalJoin requestId
  · rw [hworker] at haccepting
    cases haccepting
 | .leaveFinishes=>
  obtain ⟨identity,requestId',data,record,hleaving,heq,rfl⟩:=h
  obtain hworker|hworker:=hworker
  · rw [hworker] at hleaving
    cases hleaving
  · rw [hworker] at hleaving
    cases hleaving
    have hframe:Spares source r.data (finishLeave node r.data source requestId).1:=
     spares_finishLeave hkeyed requestId
    rw [heq] at hframe
    exact hframe
 | .workerFails=>
  obtain ⟨-,-,rfl⟩:=h
  exact fun _ _=>rfl
 | .expireNext=>
  obtain ⟨identity,requestId',rest,hexpiring,-⟩:=h
  rw [hexpiring] at hworker
  obtain hworker|hworker:=hworker <;> cases hworker
 | .expireEnds=>
  rw [h.1] at hworker
  obtain hworker|hworker:=hworker <;> cases hworker
 | .detect=>
  obtain ⟨now,data,changed,hdetecting,-⟩:=h
  rw [hdetecting] at hworker
  obtain hworker|hworker:=hworker <;> cases hworker
 | .joinRequest .. | .joinConfirm .. | .heartbeat .. | .leave .. | .expire .. | .tick ..
 | .workerEnds=>exact absurd h.1 hbusy

end

/-- Handling a record spares everyone but the peer it came from, and one that does not match
 changes nothing. Other threads may come between the two sections of a handler, so each starts
 from any state in which members are stored under their identities. -/
theorem control_isolated (node:Coordinator) (source:MemberIdentity)
  (sourceEndpoint:Endpoint) (record:ControlRecord):
  (∀state associations associationUid full,
   (admitRemoteControl state associations associationUid full record).2 =
    some ⟨record,source,sourceEndpoint⟩ →
    ∃association∈associations,association.associationUid=associationUid ∧
     association.peer=some (source,sourceEndpoint)) ∧
  (∀r,(system node).Reachable r → Keyed r.data.members) ∧
  ∀r r':CoordinatorRun,Keyed r.data.members →
   (∀token now returned,
    handleControl node r source sourceEndpoint token now returned record r' →
    (∀other,other≠source → account r'.data other=account r.data other ∨
     record.IsJoinRequest ∧ Evicts r.data r'.data other) ∧
    (r'.worker=.idle ∨ Handles source r'.worker) ∧
    (¬Matches node r.data source sourceEndpoint record → r'=r)) ∧
   (∀event,Handles source r.worker → workerStep node r event r' →
    Spares source r.data r'.data):=by
 refine ⟨fun state associations associationUid full hadmitted=>
  (source_of_admitted hadmitted).2,fun r hr=>(reachable_sound hr).inv.keyed,
  fun r r' hkeyed=>⟨?_,?_⟩⟩
 · intro token now returned h
   exact ⟨fun other hne=>handleControl_account h hkeyed hne,handleControl_worker h,
    handleControl_of_mismatch h⟩
 · intro event hhandles h
   exact spares_of_handles hkeyed hhandles h

theorem control_isolated_evicts : ∃r r',(system north).Reachable r ∧
  handleControl north r east eastEndpoint (toUUID 10) 3 true
   (.request (.joinRequest eastJoins)) r' ∧
  Evicts r.data r'.data south ∧
  ∀other,other≠east → account r'.data other=account r.data other ∨
   Evicts r.data r'.data other:=by
 have hisolated:=control_isolated north east eastEndpoint
  (.request (.joinRequest eastJoins))
 refine ⟨_,_,southLeft.2,⟨rfl,_,_,rfl,rfl⟩,⟨rfl,rfl⟩,fun other hne=>?_⟩
 have hframe:=((hisolated.2.2 _ _ (hisolated.2.1 _ southLeft.2)).1 (toUUID 10) 3 true
  ⟨rfl,_,_,rfl,rfl⟩).1 other hne
 exact hframe.imp_right And.right

end Movie.ClusterIsolation
