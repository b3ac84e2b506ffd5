import Movie.ClusterCoordinator

/-!
# A participant of the cluster

The `ClusterRuntime` of `cluster/runtime.py` on a system that is not the coordinator. One definition
stands for one critical section.
-/
namespace Movie.ClusterParticipant

open Checked DurableModel Handshake ClusterModel ClusterCoordinator Reachability

structure Participant where
 config:ClusterConfig
 identity:MemberIdentity
 endpoint:Endpoint
 not_seed:identity.systemName≠config.seed.systemName

inductive Joiner where
 | idle
 | entered
 | contacted
 | done
 deriving DecidableEq

structure ParticipantState extends MemberView where
 state:RuntimeState
 startupSettled:Bool
 joiner:Joiner
 stopper:Stopper
 revision:ℕ
 coordinatorIdentity:Option MemberIdentity
 membershipToken:Option UUID
 pendingJoinRequest:Option UUID
 pendingJoinSubmission:Option Request
 joinComplete:Bool
 pendingLeaveRequest:Option UUID
 leaveComplete:Bool
 heartbeatSequence:ℕ
 lastHeartbeatAck:ℤ
 lastEvidence:AList fun _:MemberIdentity=>ℤ
 retiredIdentities:Finset MemberIdentity
 authoritativeSnapshot:Option (List WireMember)

def ParticipantState.create (node:Participant) (now:ℤ):ParticipantState where
 viewRevision:=0
 members:=AList.singleton node.identity ⟨node.identity,node.endpoint,.joining,.reachable⟩
 state:=.new
 startupSettled:=false
 joiner:=.idle
 stopper:=.idle
 revision:=0
 coordinatorIdentity:=none
 membershipToken:=none
 pendingJoinRequest:=none
 pendingJoinSubmission:=none
 joinComplete:=false
 pendingLeaveRequest:=none
 leaveComplete:=false
 heartbeatSequence:=0
 lastHeartbeatAck:=-1
 lastEvidence:=AList.singleton node.identity now
 retiredIdentities:=∅
 authoritativeSnapshot:=none

def ParticipantState.Leaving (s:ParticipantState):Prop:=
 s.state=.stopping ∨ s.state=.stopped

instance (s:ParticipantState):Decidable s.Leaving:=inferInstanceAs (Decidable (_ ∨ _))

def ParticipantState.replaceMember (s:ParticipantState) (member:ClusterMember):
  ParticipantState:=
 { s with toMemberView:=s.toMemberView.replaceMember member }

section

variable (node:Participant)

def membership (s:ParticipantState):Except String MembershipSnapshot:=
 MembershipSnapshot.create node.config.name s.viewRevision node.identity (Members.values s.members)

/-- A member may not have another endpoint than the runtime knows for it. -/
def EndpointKnown (member:ClusterMember):Prop:=
 if member.identity=node.identity then member.endpoint=node.endpoint
 else member.identity.systemName=node.config.seed.systemName →
  member.endpoint=node.config.seed.endpoint

instance (member:ClusterMember):Decidable (EndpointKnown node member):=
 inferInstanceAs (Decidable (ite _ _ _))

def convertMembers (converted:Members):List WireMember → Option Members
 | []=>some converted
 | wire::rest=>
  if EndpointKnown node wire.toMember then
   convertMembers (converted.insert wire.toMember.identity wire.toMember) rest
  else none

def newlyRetired (members converted:Members):Finset MemberIdentity:=
 ((members.entries.filter fun entry=>entry.2.status=.left ∧ entry.1∉converted).map
  Sigma.fst).toFinset

/-- A member that the participant knows to have left is shown as active again. -/
def Resurrects (s:ParticipantState) (converted:Members):Prop:=
 ∃entry∈converted.entries,entry.2.Active ∧
  (entry.1∈s.retiredIdentities ∨
   (s.members.lookup entry.1).map ClusterMember.status=some .left)

instance (s:ParticipantState) (converted:Members):Decidable (Resurrects s converted):=
 inferInstanceAs (Decidable (∃_∈_,_))

/-- A participant that leaves keeps its own status. -/
def overrideSelf (s:ParticipantState) (selfMember:ClusterMember) (converted:Members):
  Members:=
 match s.members.lookup node.identity with
 | some current=>
  if current.status.Departing then
   converted.insert node.identity { selfMember with status:=current.status }
  else converted
 | none=>converted

def applyWireSnapshot (s:ParticipantState) (revision:ℕ) (members:List WireMember):
  ParticipantState×Bool:=
 if revision<s.revision ∨ node.config.memberLimit < members.length then (s,false)
 else if revision=s.revision ∧ s.authoritativeSnapshot.isSome then
  (s,decide (s.authoritativeSnapshot=some members))
 else
  match convertMembers node ∅ members with
  | none=>(s,false)
  | some converted=>
   match converted.lookup node.identity,s.coordinatorIdentity with
   | some selfMember,some coordinator=>
    if coordinator∉converted then (s,false)
    else if node.config.retiredIdentityLimit <
     (s.retiredIdentities ∪ newlyRetired s.members converted).card then (s,false)
    else if Resurrects s converted then (s,false)
    else
     let current:=overrideSelf node s selfMember converted
     ({ s with
      viewRevision:=if s.members.entries.Perm current.entries then s.viewRevision
       else s.viewRevision+1
      members:=current
      revision:=revision
      retiredIdentities:=s.retiredIdentities ∪ newlyRetired s.members converted
      authoritativeSnapshot:=some members },true)
   | _,_=>(s,false)

def ValidCoordinatorMessage (s:ParticipantState) (record:Notice) (source:MemberIdentity)
  (membershipToken:Option UUID):Prop:=
 record.clusterName=node.config.name ∧
 record.targetIncarnationUid=node.identity.incarnationUid ∧
 s.coordinatorIdentity=some source ∧
 record.sourceSystemName=source.systemName ∧
 record.sourceIncarnationUid=source.incarnationUid ∧
 (membershipToken=none ∨ membershipToken=s.membershipToken)

instance (s:ParticipantState) (record:Notice) (source:MemberIdentity)
  (membershipToken:Option UUID):
  Decidable (ValidCoordinatorMessage node s record source membershipToken):=
 inferInstanceAs (Decidable (_ ∧ _ ∧ _ ∧ _ ∧ _ ∧ _))

def markCoordinatorReachable (s:ParticipantState):ParticipantState:=
 match s.coordinatorIdentity.bind fun identity=>s.members.lookup identity with
 | some member=>
  if member.reachability=.unreachable then
   s.replaceMember { member with reachability:=.reachable }
  else s
 | none=>s

def completeJoinIfUp (s:ParticipantState):ParticipantState:=
 if s.pendingJoinRequest.isSome ∧
  (s.members.lookup node.identity).map ClusterMember.status=some .up then
  { s with pendingJoinRequest:=none,joinComplete:=true }
 else s

def handleJoinAccepted (s:ParticipantState) (record:Notice) (requestId token:UUID)
  (source:MemberIdentity) (now:ℤ):ParticipantState:=
 if ValidCoordinatorMessage node s record source none ∧
  s.pendingJoinRequest=some requestId then
  match applyWireSnapshot node s record.revision record.members with
  | (s',false)=>s'
  | (s',true)=>{ s' with
   membershipToken:=some token
   lastEvidence:=s'.lastEvidence.insert source now
   pendingJoinSubmission:=some (.joinConfirm ⟨node.config.name,node.identity.systemName,
    node.identity.incarnationUid,source.incarnationUid,requestId,token⟩) }
 else s

/-- What `_handle_heartbeat_ack` and `_handle_membership_update` do after a snapshot. -/
def heardFromCoordinator (s:ParticipantState) (source:MemberIdentity) (now:ℤ):
  ParticipantState:=
 completeJoinIfUp node
  (markCoordinatorReachable { s with lastEvidence:=s.lastEvidence.insert source now })

def handleHeartbeatAck (s:ParticipantState) (record:Notice) (token:UUID) (sequence:ℕ)
  (source:MemberIdentity) (now:ℤ):ParticipantState:=
 if ValidCoordinatorMessage node s record source (some token) ∧
  s.lastHeartbeatAck<sequence ∧ sequence<s.heartbeatSequence then
  match applyWireSnapshot node s record.revision record.members with
  | (s',false)=>s'
  | (s',true)=>heardFromCoordinator node { s' with lastHeartbeatAck:=sequence } source now
 else s

def handleMembershipUpdate (s:ParticipantState) (record:Notice) (token:UUID)
  (source:MemberIdentity) (now:ℤ):ParticipantState:=
 if ValidCoordinatorMessage node s record source (some token) then
  match applyWireSnapshot node s record.revision record.members with
  | (s',false)=>s'
  | (s',true)=>heardFromCoordinator node s' source now
 else s

/-- `_handle_leave_ack` completes the leave whether or not the snapshot is applied. -/
def handleLeaveAck (s:ParticipantState) (record:Notice) (requestId:UUID)
  (source:MemberIdentity):ParticipantState:=
 if ValidCoordinatorMessage node s record source none ∧
  s.pendingLeaveRequest=some requestId then
  { (applyWireSnapshot node s record.revision record.members).1 with
    leaveComplete:=true
    pendingLeaveRequest:=none }
 else s

def handleControl (s:ParticipantState) (record:Notice) (source:MemberIdentity) (now:ℤ):
  ParticipantState:=
 match record.kind with
 | .joinAccepted requestId token=>handleJoinAccepted node s record requestId token source now
 | .heartbeatAck token sequence=>handleHeartbeatAck node s record token sequence source now
 | .membershipUpdate token=>handleMembershipUpdate node s record token source now
 | .leaveAck requestId=>handleLeaveAck node s record requestId source

/-- The section of `_join` that fixes the coordinator. -/
def join (s:ParticipantState) (peerUid requestId controlActorUid:UUID):ParticipantState:=
 { s with
   coordinatorIdentity:=some ⟨node.config.seed.systemName,peerUid⟩
   pendingJoinRequest:=some requestId
   pendingJoinSubmission:=some (.joinRequest ⟨node.config.name,node.config.fingerprint,
    node.identity.systemName,node.identity.incarnationUid,node.endpoint.host,
    node.endpoint.port,controlActorUid,peerUid,requestId⟩) }

/-- The section of `_send_heartbeat`. -/
def sendHeartbeat (s:ParticipantState):ParticipantState:=
 if s.coordinatorIdentity.isSome ∧ s.membershipToken.isSome then
  { s with heartbeatSequence:=s.heartbeatSequence+1 }
 else s

def detectUnreachableCoordinator (s:ParticipantState) (now:ℤ):ParticipantState:=
 match s.coordinatorIdentity with
 | none=>s
 | some identity=>
  match s.members.lookup identity with
  | none=>s
  | some member=>
   if member.status≠.up ∨ member.reachability=.unreachable ∨
    now - (s.lastEvidence.lookup identity).getD now<node.config.unreachableTimeout then s
   else s.replaceMember { member with reachability:=.unreachable }

/-- The test with which `_stop_before_locked` decides to leave. -/
def CanLeave (s:ParticipantState):Prop:=
 (s.members.lookup node.identity).map ClusterMember.status=some .up ∨
 (s.members.lookup node.identity).map ClusterMember.status=some .joining ∧
  s.membershipToken.isSome ∧ s.coordinatorIdentity.isSome

instance (s:ParticipantState):Decidable (CanLeave node s):=
 inferInstanceAs (Decidable (_ ∨ _ ∧ _ ∧ _))

def setOwnStatus (status:MemberStatus) (s:ParticipantState):ParticipantState:=
 match s.members.lookup node.identity with
 | none=>s
 | some member=>s.replaceMember { member with status:=status }

/-- The first section of `_member_leave`. -/
def memberLeave (s:ParticipantState) (requestId:UUID):ParticipantState:=
 { setOwnStatus node .leaving s with
   pendingLeaveRequest:=some requestId
   leaveComplete:=false }

/-- The last section of `_member_leave`, and with `STOPPED` that of `_stop_before_locked`. -/
def endLeave (s:ParticipantState):ParticipantState:=
 if (s.members.lookup node.identity).map ClusterMember.status=some .left then s
 else setOwnStatus node .left s

end

inductive ParticipantEvent where
 | start
 | join (peerUid requestId controlActorUid:UUID)
 | submitted
 | startReturns
 | startFails
 | receive (record:Notice) (source:MemberIdentity) (now:ℤ)
 | sendHeartbeat
 | detect (now:ℤ)
 | workerFails
 | stop
 | stopFails
 | stopDecides
 | leave (requestId:UUID)
 | leaveEnds
 | stopFinishes

def participantStep (node:Participant) (s:ParticipantState):
  ParticipantEvent → ParticipantState → Prop
 | .start,s'=>s.joiner=.idle ∧ s.state=.new ∧
  s'={ s with state:=.starting,joiner:=.entered }
 | .join peerUid requestId controlActorUid,s'=>s.joiner=.entered ∧
  s'={ join node s peerUid requestId controlActorUid with joiner:=.contacted }
 | .submitted,s'=>s'={ s with pendingJoinSubmission:=none }
 | .startReturns,s'=>s.joiner=.contacted ∧ s.joinComplete=true ∧
  s'={ s with
   state:=if s.state=.starting then .running else s.state
   startupSettled:=true
   joiner:=.done }
 | .startFails,s'=>s.joiner≠.idle ∧ s.joiner≠.done ∧
  s'={ s with
   state:=if s.state=.starting then .failed else s.state
   startupSettled:=true
   joiner:=.done }
 | .receive record source now,s'=>s'=handleControl node s record source now
 | .sendHeartbeat,s'=>s'=sendHeartbeat s
 | .detect now,s'=>s'=detectUnreachableCoordinator node s now
 | .workerFails,s'=>s'={ s with
  state:=if s.state=.stopping ∨ s.state=.stopped then s.state else .failed }
 | .stop,s'=>s.stopper=.idle ∧ s.state≠.stopped ∧
  s'={ s with
   state:=.stopping
   startupSettled:=s.startupSettled || decide (s.state=.new)
   stopper:=.waiting }
 | .stopFails,s'=>(s.stopper=.waiting ∨ s.stopper=.ending) ∧
  s'={ s with stopper:=.idle }
 | .stopDecides,s'=>s.stopper=.waiting ∧ s.startupSettled=true ∧
  s'={ s with stopper:=if CanLeave node s then .announcing else .ending }
 | .leave requestId,s'=>s.stopper=.announcing ∧
  s'={ memberLeave node s requestId with stopper:=.departing }
 | .leaveEnds,s'=>s.stopper=.departing ∧
  s'={ endLeave node s with stopper:=.ending }
 | .stopFinishes,s'=>s.stopper=.ending ∧
  s'={ endLeave node s with state:=.stopped,stopper:=.idle }

def participantSystem (node:Participant):System ParticipantState ParticipantEvent where
 init s:=∃now,s=.create node now
 step:=participantStep node

section

variable {node:Participant} {s:ParticipantState}

variable {members:List WireMember} {converted:Members} {selfMember:ClusterMember} {revision:ℕ}

lemma convertMembers_lookup {start:Members} (h:convertMembers node start members=some converted)
  (hnodup:(members.map fun wire=>wire.toMember.identity).Nodup):
  (∀wire∈members,converted.lookup wire.toMember.identity=some wire.toMember) ∧
  ∀identity,(∀wire∈members,wire.toMember.identity≠identity) →
   converted.lookup identity=start.lookup identity:=by
 induction members generalizing start with
 | nil=>
  cases h
  exact ⟨fun _ hmem=>absurd hmem List.not_mem_nil,fun _ _=>rfl⟩
 | cons wire rest ih=>
  unfold convertMembers at h
  split at h
  · rw [List.map_cons,List.nodup_cons] at hnodup
    obtain ⟨hrest,hothers⟩:=ih h hnodup.2
    have hfresh:∀other∈rest,other.toMember.identity≠wire.toMember.identity:=by
     intro other hmem heq
     exact hnodup.1 (List.mem_map.2 ⟨other,hmem,heq⟩)
    constructor
    · intro other hmem
      rcases List.mem_cons.1 hmem with rfl|hmem
      · rw [hothers _ hfresh]
        exact AList.lookup_insert _
      · exact hrest other hmem
    · intro identity hne
      rw [hothers identity fun other hmem=>hne other (List.mem_cons_of_mem _ hmem)]
      exact AList.lookup_insert_ne (hne wire List.mem_cons_self).symm
  · cases h

variable {identity:MemberIdentity}

lemma mem_convertMembers {start:Members} (h:convertMembers node start members=some converted):
  identity∈converted ↔ identity∈start ∨ ∃wire∈members,wire.toMember.identity=identity:=by
 induction members generalizing start with
 | nil=>
  cases h
  simp
 | cons wire rest ih=>
  unfold convertMembers at h
  split at h
  · rw [ih h,AList.mem_insert,List.exists_mem_cons_iff,or_assoc,or_left_comm,eq_comm]
  · cases h

lemma convertMembers_wireMembers {members:Members} (hkeyed:Keyed members)
  (h:convertMembers node ∅ (wireMembers members)=some converted)
  (identity:MemberIdentity):converted.lookup identity=members.lookup identity:=by
 obtain ⟨hmembers,hothers⟩:=convertMembers_lookup h (nodup_wireMembers hkeyed)
 cases hm:members.lookup identity with
 | some member=>
  have hid:=hkeyed identity member hm
  subst hid
  exact hmembers member.toWire (mem_wireMembers.2 ⟨_,member,hm,rfl⟩)
 | none=>
  rw [hothers identity]
  · rfl
  · intro wire hmem heq
    obtain ⟨other,member,hfound,rfl⟩:=mem_wireMembers.1 hmem
    have hid:member.identity=identity:=heq
    rw [←hkeyed other member hfound,hid,hm] at hfound
    cases hfound

lemma overrideSelf_lookup_self {current:ClusterMember}
  (hself:converted.lookup node.identity=some selfMember)
  (hcurrent:s.members.lookup node.identity=some current):
  (overrideSelf node s selfMember converted).lookup node.identity =
   some { selfMember with
    status:=if current.status.Departing then current.status else selfMember.status }:=by
 unfold overrideSelf
 rw [hcurrent]
 dsimp only
 by_cases hd:current.status.Departing
 · rw [if_pos hd,if_pos hd]
   exact AList.lookup_insert _
 · rw [if_neg hd,if_neg hd]
   exact hself

lemma overrideSelf_lookup_ne (selfMember:ClusterMember) (hne:identity≠node.identity):
  (overrideSelf node s selfMember converted).lookup identity=converted.lookup identity:=by
 unfold overrideSelf
 split
 · split
   · exact AList.lookup_insert_ne hne
   · rfl
 · rfl

lemma mem_overrideSelf (hself:converted.lookup node.identity=some selfMember):
  identity∈overrideSelf node s selfMember converted ↔ identity∈converted:=by
 unfold overrideSelf
 split
 · split
   · rw [AList.mem_insert]
     refine or_iff_right_of_imp ?_
     rintro rfl
     exact AList.lookup_isSome.1 (hself▸rfl)
   · rfl
 · rfl

structure Accepted (node:Participant) (s:ParticipantState) (revision:ℕ)
  (members:List WireMember) (converted:Members) (selfMember:ClusterMember):Prop where
 le:s.revision ≤ revision
 lt:s.authoritativeSnapshot.isSome → s.revision<revision
 size:members.length≤node.config.memberLimit
 converts:convertMembers node ∅ members=some converted
 own:converted.lookup node.identity=some selfMember
 contact:∃coordinator,s.coordinatorIdentity=some coordinator ∧ coordinator∈converted
 limit:(s.retiredIdentities ∪ newlyRetired s.members converted).card ≤
  node.config.retiredIdentityLimit
 final:¬Resurrects s converted

lemma applyWireSnapshot_cases (node:Participant) (s:ParticipantState) (revision:ℕ)
  (members:List WireMember):(applyWireSnapshot node s revision members).1=s ∨
  ∃converted selfMember viewRevision,
   Accepted node s revision members converted selfMember ∧
   (applyWireSnapshot node s revision members).1={ s with
    viewRevision:=viewRevision
    members:=overrideSelf node s selfMember converted
    revision:=revision
    retiredIdentities:=s.retiredIdentities ∪ newlyRetired s.members converted
    authoritativeSnapshot:=some members }:=by
 unfold applyWireSnapshot
 split
 · exact Or.inl rfl
 rename_i hold
 split
 · exact Or.inl rfl
 rename_i hsame
 have hle:s.revision ≤ revision:=Nat.not_lt.1 (not_or.1 hold).1
 have hlt:s.authoritativeSnapshot.isSome → s.revision<revision:=
  fun hsome=>hle.lt_of_ne fun heq=>hsame ⟨heq.symm,hsome⟩
 split
 · exact Or.inl rfl
 rename_i converted hconverted
 split
 · rename_i selfMember coordinator hself hcoordinator
   split
   · exact Or.inl rfl
   rename_i hmem
   split
   · exact Or.inl rfl
   rename_i hlimit
   split
   · exact Or.inl rfl
   · rename_i hfinal
     exact Or.inr ⟨converted,selfMember,_,⟨hle,hlt,Nat.not_lt.1 (not_or.1 hold).2,
      hconverted,hself,⟨coordinator,hcoordinator,not_not.1 hmem⟩,Nat.not_lt.1 hlimit,
      hfinal⟩,rfl⟩
 · exact Or.inl rfl

lemma applyWireSnapshot_of_accepted
    (h:Accepted node s revision members converted selfMember):
  (applyWireSnapshot node s revision members).2=true ∧
   (applyWireSnapshot node s revision members).1.members=overrideSelf node s selfMember converted:=by
 obtain ⟨coordinator,hcoordinator,hmem⟩:=h.contact
 have hold:¬(revision<s.revision ∨ node.config.memberLimit < members.length):=
  not_or.2 ⟨Nat.not_lt.2 h.le,Nat.not_lt.2 h.size⟩
 have hsame:¬(revision=s.revision ∧ s.authoritativeSnapshot.isSome):=
  fun hsame=>absurd hsame.1 (h.lt hsame.2).ne'
 unfold applyWireSnapshot
 rw [if_neg hold,if_neg hsame,h.converts]
 dsimp only
 rw [h.own,hcoordinator]
 dsimp only
 rw [if_neg (not_not.2 hmem),if_neg (Nat.not_lt.2 h.limit),if_neg h.final]
 exact ⟨rfl,rfl⟩

lemma snapshot_of_applied {t:ParticipantState}
  (heq:applyWireSnapshot node s revision members=(t,true)):
  t.authoritativeSnapshot.isSome:=by
 unfold applyWireSnapshot at heq
 split at heq
 · cases heq
 split at heq
 · rename_i hsame
   obtain ⟨rfl,-⟩:=Prod.mk.inj heq
   exact hsame.2
 split at heq
 · cases heq
 split at heq
 · split at heq
   · cases heq
   split at heq
   · cases heq
   split at heq
   · cases heq
   · obtain ⟨rfl,-⟩:=Prod.mk.inj heq
     rfl
 · cases heq

end

structure SameView (s t:ParticipantState):Prop where
 members:t.members=s.members
 revision:t.revision=s.revision
 retired:t.retiredIdentities=s.retiredIdentities
 snapshot:t.authoritativeSnapshot=s.authoritativeSnapshot
 contact:t.coordinatorIdentity=s.coordinatorIdentity
 token:t.membershipToken.isSome → s.membershipToken.isSome ∨ s.authoritativeSnapshot.isSome

structure Noted (s t:ParticipantState):Prop extends SameView s t where
 state:t.state=s.state
 stopper:t.stopper=s.stopper
 leave:t.pendingLeaveRequest.isSome → s.pendingLeaveRequest.isSome

section

variable {node:Participant} {s t:ParticipantState} {P:ParticipantState → Prop}

def Observes (P:ParticipantState → Prop):Prop:=
 ∀u stored member reachability,P u → u.coordinatorIdentity=some stored →
  u.members.lookup stored=some member →
  P (u.replaceMember { member with reachability:=reachability })

lemma markCoordinatorReachable_rule (hs:P s) (hobserve:Observes P):
  P (markCoordinatorReachable s):=by
 unfold markCoordinatorReachable
 split
 · rename_i member hbind
   obtain ⟨stored,hcontact,hm⟩:=Option.bind_eq_some_iff.1 hbind
   split
   · exact hobserve s stored member .reachable hs hcontact hm
   · exact hs
 · exact hs

lemma heardFromCoordinator_rule (hs:P s) (hnoted:∀u t,P u → Noted u t → P t) (hobserve:Observes P)
  (source:MemberIdentity) (now:ℤ):P (heardFromCoordinator node s source now):=by
 have hmarked:P (markCoordinatorReachable
  { s with lastEvidence:=s.lastEvidence.insert source now }):=
  markCoordinatorReachable_rule (hnoted s _ hs ⟨⟨rfl,rfl,rfl,rfl,rfl,.inl⟩,rfl,rfl,id⟩)
   hobserve
 unfold heardFromCoordinator completeJoinIfUp
 split
 · exact hnoted _ _ hmarked ⟨⟨rfl,rfl,rfl,rfl,rfl,.inl⟩,rfl,rfl,id⟩
 · exact hmarked

lemma handleControl_rule {record:Notice} {source:MemberIdentity} (now:ℤ) (hs:P s)
  (happly:s.coordinatorIdentity=some source →
   ((∃requestId,record.kind=.leaveAck requestId) → s.pendingLeaveRequest.isSome) →
   P (applyWireSnapshot node s record.revision record.members).1)
  (hnoted:∀u t,P u → Noted u t → P t) (hobserve:Observes P):
  P (handleControl node s record source now):=by
 have hother:∀ {kind:NoticeKind},record.kind=kind →
  (∀requestId,kind≠.leaveAck requestId) →
  (∃requestId,record.kind=.leaveAck requestId) → s.pendingLeaveRequest.isSome:=by
  rintro kind hkind hne ⟨requestId,hleave⟩
  exact absurd (hkind.symm.trans hleave) (hne requestId)
 unfold handleControl
 split
 · rename_i requestId token hkind
   unfold handleJoinAccepted
   split
   · rename_i hc
     have hp:=happly hc.1.2.2.1 (hother hkind fun _=>nofun)
     split
     · rename_i t heq
       rwa [heq] at hp
     · rename_i t heq
       rw [heq] at hp
       exact hnoted t _ hp ⟨⟨rfl,rfl,rfl,rfl,rfl,fun _=>.inr (snapshot_of_applied heq)⟩,
        rfl,rfl,id⟩
   · exact hs
 · rename_i token sequence hkind
   unfold handleHeartbeatAck
   split
   · rename_i hc
     have hp:=happly hc.1.2.2.1 (hother hkind fun _=>nofun)
     split
     · rename_i t heq
       rwa [heq] at hp
     · rename_i t heq
       rw [heq] at hp
       exact heardFromCoordinator_rule (hnoted t { t with lastHeartbeatAck:=sequence } hp
        ⟨⟨rfl,rfl,rfl,rfl,rfl,.inl⟩,rfl,rfl,id⟩) hnoted hobserve source now
   · exact hs
 · rename_i token hkind
   unfold handleMembershipUpdate
   split
   · rename_i hc
     have hp:=happly hc.2.2.1 (hother hkind fun _=>nofun)
     split
     · rename_i t heq
       rwa [heq] at hp
     · rename_i t heq
       rw [heq] at hp
       exact heardFromCoordinator_rule hp hnoted hobserve source now
   · exact hs
 · unfold handleLeaveAck
   split
   · rename_i hc
     have hp:=happly hc.1.2.2.1 fun _=>hc.2▸Option.isSome_some
     exact hnoted _ _ hp ⟨⟨rfl,rfl,rfl,rfl,rfl,.inl⟩,rfl,rfl,nofun⟩
   · exact hs

lemma setOwnStatus_rule (hs:P s)
  (hown:∀member status,s.members.lookup node.identity=some member → status.Departing →
   P (s.replaceMember { member with status:=status })) {status:MemberStatus}
  (hdeparting:status.Departing):P (setOwnStatus node status s):=by
 unfold setOwnStatus
 split
 · exact hs
 · rename_i member hm
   exact hown member status hm hdeparting

/-- The rule for the sections of a participant, for a property that does not depend on how far
 its threads have come. -/
lemma participantStep_rule {event:ParticipantEvent} (hstep:participantStep node s event t)
  (hs:P s) (hreceive:∀record source now,event=.receive record source now →
   P (handleControl node s record source now)) (hjoin:∀peerUid requestId controlActorUid,
   event=.join peerUid requestId controlActorUid →
   P (join node s peerUid requestId controlActorUid)) (hsame:∀u t,P u → SameView u t → P t)
  (hobserve:Observes P)
  (hown:∀member status,s.members.lookup node.identity=some member → status.Departing →
   P (s.replaceMember { member with status:=status })):P t:=by
 have hends:P (endLeave node s):=by
  unfold endLeave
  split
  · exact hs
  · exact setOwnStatus_rule hs hown (.inr rfl)
 cases event with
 | receive record source now=>
  cases hstep
  exact hreceive record source now rfl
 | join peerUid requestId controlActorUid=>
  obtain ⟨-,rfl⟩:=hstep
  exact hsame _ _ (hjoin peerUid requestId controlActorUid rfl) ⟨rfl,rfl,rfl,rfl,rfl,.inl⟩
 | sendHeartbeat=>
  cases hstep
  unfold sendHeartbeat
  split
  · exact hsame s _ hs ⟨rfl,rfl,rfl,rfl,rfl,.inl⟩
  · exact hs
 | detect now=>
  cases hstep
  unfold detectUnreachableCoordinator
  split
  · exact hs
  rename_i stored hcontact
  split
  · exact hs
  rename_i member hm
  split
  · exact hs
  · exact hobserve s stored member .unreachable hs hcontact hm
 | leave requestId=>
  obtain ⟨-,rfl⟩:=hstep
  exact hsame _ _ (setOwnStatus_rule hs hown (.inl rfl)) ⟨rfl,rfl,rfl,rfl,rfl,.inl⟩
 | leaveEnds | stopFinishes=>
  obtain ⟨-,rfl⟩:=hstep
  exact hsame _ _ hends ⟨rfl,rfl,rfl,rfl,rfl,.inl⟩
 | submitted | workerFails=>
  cases hstep
  exact hsame s _ hs ⟨rfl,rfl,rfl,rfl,rfl,.inl⟩
 | stopFails=>
  obtain ⟨-,rfl⟩:=hstep
  exact hsame s _ hs ⟨rfl,rfl,rfl,rfl,rfl,.inl⟩
 | start | startReturns | startFails | stop | stopDecides=>
  obtain ⟨-,-,rfl⟩:=hstep
  exact hsame s _ hs ⟨rfl,rfl,rfl,rfl,rfl,.inl⟩

end

end Movie.ClusterParticipant
