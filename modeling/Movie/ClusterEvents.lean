import Movie.ClusterParticipant
import Movie.ClusterInvariant

/-!
# The events of a cluster runtime

The events of a section are given beside the section itself; an observer keeps the members that are
up from the events alone.
-/
namespace Movie.ClusterEvents

open Checked DurableModel Handshake ClusterModel ClusterCoordinator ClusterSections
 ClusterInvariant ClusterParticipant

inductive ClusterEventKind where
 | memberUp
 | memberLeaving
 | memberLeft
 | memberReachable
 | memberUnreachable
 deriving DecidableEq

structure ClusterEvent where
 kind:ClusterEventKind
 member:ClusterMember
 revision:ℕ
 deriving DecidableEq

def statusKind : MemberStatus → Option ClusterEventKind
 | .joining=>none
 | .up=>some .memberUp
 | .leaving=>some .memberLeaving
 | .left=>some .memberLeft

def reachabilityKind : Reachability → ClusterEventKind
 | .reachable=>.memberReachable
 | .unreachable=>.memberUnreachable

def publishMemberChanges (revision:ℕ) (previous:Option ClusterMember)
  (member:ClusterMember):List ClusterEvent:=
 match previous with
 | none=>if member.status=.up then [⟨.memberUp,member,revision⟩] else []
 | some previous=>
  (if previous.status=member.status then []
   else (statusKind member.status).toList.map fun kind=>⟨kind,member,revision⟩) ++
  if previous.reachability=member.reachability then []
  else [⟨reachabilityKind member.reachability,member,revision⟩]

def replaceEvents (view:MemberView) (member:ClusterMember):List ClusterEvent:=
 if view.members.lookup member.identity=some member then []
 else publishMemberChanges (view.viewRevision+1) (view.members.lookup member.identity) member

def publishSnapshotChanges (revision:ℕ) (previous current:Members):List ClusterEvent:=
 ((Members.values current).insertionSort memberLe).flatMap fun member=>
  publishMemberChanges revision (previous.lookup member.identity) member

section

variable (node:Coordinator)

def setSelfStatusEvents (status:MemberStatus) (s:CoordinatorState):List ClusterEvent:=
 match s.members.lookup node.selfIdentity with
 | none=>[]
 | some member=>replaceEvents s.toMemberView { member with status:=status }

def handleJoinRequestEvents (s:CoordinatorState) (message:JoinRequest)
  (source:MemberIdentity) (sourceEndpoint:Endpoint):List ClusterEvent:=
 if ¬JoinRequestValid node message source sourceEndpoint then []
 else if ¬s.state.Serving then []
 else if JoinRefused s source message.requestId then []
 else if (s.members.lookup source).isSome then []
 else
  match reserveMemberCapacity node s s.leftOrder with
  | (_,false)=>[]
  | (s',true)=>replaceEvents s'.toMemberView ⟨source,sourceEndpoint,.joining,.reachable⟩

def handleJoinConfirmEvents (s:CoordinatorState) (message:JoinConfirm)
  (source:MemberIdentity) (now:ℤ):List ClusterEvent:=
 match (handleJoinConfirm node s message source now).2,s.members.lookup source with
 | true,some member=>replaceEvents s.toMemberView { member with status:=.up }
 | _,_=>[]

def handleHeartbeatEvents (s:CoordinatorState) (message:Heartbeat) (source:MemberIdentity)
  (now:ℤ):List ClusterEvent:=
 match (handleHeartbeat node s message source now).2,s.members.lookup source with
 | some (_,true),some member=>
  replaceEvents s.toMemberView { member with reachability:=.reachable }
 | _,_=>[]

def handleLeaveEvents (s:CoordinatorState) (message:Leave) (source:MemberIdentity):
  List ClusterEvent:=
 match (handleLeave node s message source).2,s.members.lookup source with
 | some true,some member=>replaceEvents s.toMemberView { member with status:=.leaving }
 | _,_=>[]

def leftEvents (view:MemberView) (identity:MemberIdentity):List ClusterEvent:=
 match view.members.lookup identity with
 | none=>[]
 | some member=>
  if member.status=.left then [] else replaceEvents view { member with status:=.left }

def detectUnreachableMembersEvents (now:ℤ) (s:CoordinatorState):
  List (Σ _:MemberIdentity,ClusterMember) → List ClusterEvent
 | []=>[]
 | ⟨identity,member⟩::rest=>
  if identity=node.selfIdentity ∨ member.status≠.up ∨
   member.reachability=.unreachable ∨
   now - (s.lastEvidence.lookup identity).getD now<node.config.unreachableTimeout then
   detectUnreachableMembersEvents now s rest
  else
   replaceEvents s.toMemberView { member with reachability:=.unreachable } ++
    detectUnreachableMembersEvents now
     (s.advance { member with reachability:=.unreachable }) rest

def downEvents (s:CoordinatorState) (identity:MemberIdentity):List ClusterEvent:=
 match down node s identity with
 | .ok _=>leftEvents s.toMemberView identity
 | .error _=>[]

/-- What the section of an event publishes. Members that are removed, when their join expires
 or their tombstone is evicted, are removed without an event. -/
def coordinatorEvents (r:CoordinatorRun):Event → List ClusterEvent
 | .caller .form=>setSelfStatusEvents node .up r.data
 | .caller (.down identity)=>downEvents node r.data identity
 | .caller .announce=>setSelfStatusEvents node .leaving r.data
 | .caller .depart=>setSelfStatusEvents node .left r.data
 | .caller .stopFinishes=>leftEvents r.data.toMemberView node.selfIdentity
 | .worker (.joinRequest message source sourceEndpoint _ _)=>
  handleJoinRequestEvents node r.data message source sourceEndpoint
 | .worker (.joinConfirm message source now)=>
  handleJoinConfirmEvents node r.data message source now
 | .worker (.heartbeat message source now _)=>
  handleHeartbeatEvents node r.data message source now
 | .worker (.leave message source)=>handleLeaveEvents node r.data message source
 | .worker .leaveFinishes=>
  match r.worker with
  | .leaving identity _=>leftEvents r.data.toMemberView identity
  | _=>[]
 | .worker .detect=>
  match r.worker with
  | .detecting now=>detectUnreachableMembersEvents node now r.data r.data.members.entries
  | _=>[]
 | _=>[]

end

section

variable (node:Participant)

def applyWireSnapshotEvents (s:ParticipantState) (revision:ℕ) (members:List WireMember):
  List ClusterEvent:=
 match applyWireSnapshot node s revision members with
 | (s',true)=>
  -- the snapshot that the participant has is not published again
  if revision=s.revision ∧ s.authoritativeSnapshot.isSome then []
  else publishSnapshotChanges s'.viewRevision s.members s'.members
 | (_,false)=>[]

def markCoordinatorReachableEvents (s:ParticipantState):List ClusterEvent:=
 match s.coordinatorIdentity.bind fun identity=>s.members.lookup identity with
 | some member=>
  if member.reachability=.unreachable then
   replaceEvents s.toMemberView { member with reachability:=.reachable }
  else []
 | none=>[]

/-- What follows a snapshot in `_handle_heartbeat_ack` and `_handle_membership_update`. -/
def heardEvents (s:ParticipantState) (record:Notice):List ClusterEvent:=
 match applyWireSnapshot node s record.revision record.members with
 | (s',true)=>markCoordinatorReachableEvents s'
 | (_,false)=>[]

def handleControlEvents (s:ParticipantState) (record:Notice) (source:MemberIdentity):
  List ClusterEvent:=
 match record.kind with
 | .joinAccepted requestId _=>
  if ValidCoordinatorMessage node s record source none ∧
   s.pendingJoinRequest=some requestId then
   applyWireSnapshotEvents node s record.revision record.members
  else []
 | .heartbeatAck token sequence=>
  if ValidCoordinatorMessage node s record source (some token) ∧
   s.lastHeartbeatAck<sequence ∧ sequence<s.heartbeatSequence then
   applyWireSnapshotEvents node s record.revision record.members++heardEvents node s record
  else []
 | .membershipUpdate token=>
  if ValidCoordinatorMessage node s record source (some token) then
   applyWireSnapshotEvents node s record.revision record.members++heardEvents node s record
  else []
 | .leaveAck requestId=>
  if ValidCoordinatorMessage node s record source none ∧
   s.pendingLeaveRequest=some requestId then
   applyWireSnapshotEvents node s record.revision record.members
  else []

def detectUnreachableCoordinatorEvents (s:ParticipantState) (now:ℤ):List ClusterEvent:=
 match s.coordinatorIdentity with
 | none=>[]
 | some identity=>
  match s.members.lookup identity with
  | none=>[]
  | some member=>
   if member.status≠.up ∨ member.reachability=.unreachable ∨
    now - (s.lastEvidence.lookup identity).getD now<node.config.unreachableTimeout then []
   else replaceEvents s.toMemberView { member with reachability:=.unreachable }

def memberLeaveEvents (s:ParticipantState):List ClusterEvent:=
 match s.members.lookup node.identity with
 | none=>[]
 | some member=>replaceEvents s.toMemberView { member with status:=.leaving }

def participantEvents (s:ParticipantState):ParticipantEvent → List ClusterEvent
 | .receive record source _=>handleControlEvents node s record source
 | .detect now=>detectUnreachableCoordinatorEvents node s now
 | .leave _=>memberLeaveEvents node s
 | .leaveEnds=>leftEvents s.toMemberView node.identity
 | .stopFinishes=>leftEvents s.toMemberView node.identity
 | _=>[]

end

def upMembers (members:Members):Finset MemberIdentity:=
 ((members.entries.filter fun entry=>entry.2.status=.up).map Sigma.fst).toFinset

lemma mem_upMembers {members:Members} {identity:MemberIdentity}:
  identity∈upMembers members ↔
   (members.lookup identity).map ClusterMember.status=some .up:=by
 unfold upMembers
 rw [List.mem_toFinset,List.mem_map]
 constructor
 · rintro ⟨⟨stored,member⟩,hmem,rfl⟩
   rw [List.mem_filter,decide_eq_true_iff] at hmem
   rw [AList.mem_lookup_iff.2 hmem.1,Option.map_some,hmem.2]
 · intro hup
   obtain ⟨member,hm,hstatus⟩:=Option.map_eq_some_iff.1 hup
   refine ⟨⟨identity,member⟩,?_,rfl⟩
   rw [List.mem_filter,decide_eq_true_iff]
   exact ⟨AList.mem_lookup_iff.1 hm,hstatus⟩

def observe (up:Finset MemberIdentity) (event:ClusterEvent):Finset MemberIdentity:=
 match event.kind with
 | .memberUp=>insert event.member.identity up
 | .memberLeaving=>up.erase event.member.identity
 | .memberLeft=>up.erase event.member.identity
 | .memberReachable=>up
 | .memberUnreachable=>up

def Describes (before:Members) (events:List ClusterEvent) (after:Members):Prop:=
 events.foldl observe (upMembers before)=upMembers after

section

variable {up:Finset MemberIdentity} {revision:ℕ} {previous:Option ClusterMember}
 {member:ClusterMember} {identity:MemberIdentity}

lemma observe_reachability (up:Finset MemberIdentity) (member:ClusterMember)
  (reachability:Reachability) (revision:ℕ):
  observe up ⟨reachabilityKind reachability,member,revision⟩=up:=by
 cases reachability with
 | reachable=>rfl
 | unreachable=>rfl

def statusEvents (revision:ℕ) (member:ClusterMember):List ClusterEvent:=
 (statusKind member.status).toList.map fun kind=>⟨kind,member,revision⟩

lemma foldl_publish_some (up:Finset MemberIdentity) (before:ClusterMember):
  (publishMemberChanges revision (some before) member).foldl observe up =
   if before.status=member.status then up
   else (statusEvents revision member).foldl observe up:=by
 have hreachable:∀up:Finset MemberIdentity,
  List.foldl observe up (if before.reachability=member.reachability then []
   else [⟨reachabilityKind member.reachability,member,revision⟩])=up:=by
  intro up
  split
  · rfl
  · exact observe_reachability up member _ revision
 unfold publishMemberChanges
 dsimp only
 rw [List.foldl_append,hreachable]
 split
 · rfl
 · rfl

lemma foldl_publish_other (hne:identity≠member.identity):
  identity∈(publishMemberChanges revision previous member).foldl observe up ↔
   identity∈up:=by
 cases previous with
 | none=>
  unfold publishMemberChanges
  dsimp only
  split
  · exact Finset.mem_insert.trans (or_iff_right hne)
  · exact Iff.rfl
 | some before=>
  rw [foldl_publish_some]
  split
  · exact Iff.rfl
  · unfold statusEvents
    cases member.status with
    | joining=>exact Iff.rfl
    | up=>exact Finset.mem_insert.trans (or_iff_right hne)
    | leaving | left=>exact Finset.mem_erase.trans (and_iff_right hne)

def Forward (previous:Option ClusterMember) (member:ClusterMember):Prop:=
 previous.map ClusterMember.status=some .up → member.status≠.joining

lemma foldl_publish_self (hup:member.identity∈up ↔ previous.map ClusterMember.status=some .up)
  (hforward:Forward previous member):
  member.identity∈(publishMemberChanges revision previous member).foldl observe up ↔
   member.status=.up:=by
 cases previous with
 | none=>
  unfold publishMemberChanges
  dsimp only
  split
  · rename_i hstatus
    exact iff_of_true (Finset.mem_insert_self _ _) hstatus
  · rename_i hstatus
    exact iff_of_false (fun hmem=>absurd (hup.1 hmem) nofun) hstatus
 | some before=>
  rw [foldl_publish_some]
  have hbefore:member.identity∈up ↔ before.status=.up:=by
   rw [hup,Option.map_some,Option.some_inj]
  split
  · rename_i hsame
    rw [hbefore,hsame]
  · have hforward':before.status=.up → member.status≠.joining:=
     fun hstatus=>hforward (congrArg some hstatus)
    unfold statusEvents
    cases hstatus:member.status with
    | joining=>
     refine iff_of_false (fun hmem=>hforward' (hbefore.1 hmem) hstatus) nofun
    | up=>exact iff_of_true (Finset.mem_insert_self _ _) rfl
    | leaving | left=>exact iff_of_false (Finset.notMem_erase _ _) nofun

lemma mem_foldl_changes (before:Members) (members:List ClusterMember)
  (hnodup:(members.map ClusterMember.identity).Nodup) (hup:∀member∈members,member.identity∈up ↔
   (before.lookup member.identity).map ClusterMember.status=some .up)
  (hforward:∀member∈members,Forward (before.lookup member.identity) member):
  identity∈(members.flatMap fun member=>
   publishMemberChanges revision (before.lookup member.identity) member).foldl observe up ↔
   (∃member∈members,member.identity=identity ∧ member.status=.up) ∨
   (∀member∈members,member.identity≠identity) ∧ identity∈up:=by
 induction members generalizing up with
 | nil=>simp
 | cons first rest ih=>
  rw [List.map_cons,List.nodup_cons] at hnodup
  have hrest:∀member∈rest,member.identity≠first.identity:=
   fun member hmem heq=>hnodup.1 (List.mem_map.2 ⟨member,hmem,heq⟩)
  have hself:first.identity∈(publishMemberChanges revision
   (before.lookup first.identity) first).foldl observe up ↔ first.status=.up:=
   foldl_publish_self (hup first List.mem_cons_self) (hforward first List.mem_cons_self)
  rw [List.flatMap_cons,List.foldl_append,ih hnodup.2 ?_ fun member hmem=>
   hforward member (List.mem_cons_of_mem _ hmem)]
  · rw [List.exists_mem_cons_iff,List.forall_mem_cons]
    by_cases heq:first.identity=identity
    · subst heq
      have hnone:¬∃member∈rest,member.identity=first.identity ∧ member.status=.up:=by
       rintro ⟨member,hmem,hid,-⟩
       exact hrest member hmem hid
      rw [hself,or_iff_right hnone,and_iff_right hrest]
      refine ⟨fun hstatus=>.inl (.inl ⟨rfl,hstatus⟩),?_⟩
      rintro ((⟨-,hstatus⟩|hsome)|⟨⟨hne,-⟩,-⟩)
      · exact hstatus
      · exact absurd hsome hnone
      · exact absurd rfl hne
    · have hfirst:¬(first.identity=identity ∧ first.status=.up):=fun h=>heq h.1
      rw [foldl_publish_other (Ne.symm heq),or_iff_right hfirst,and_iff_right heq]
  · intro member hmem
    rw [foldl_publish_other (hrest member hmem)]
    exact hup member (List.mem_cons_of_mem _ hmem)

lemma describes_snapshot {before after:Members} (hkeyed:Keyed after) (revision:ℕ)
  (hforward:∀identity member,after.lookup identity=some member →
   Forward (before.lookup identity) member):
  Describes before (publishSnapshotChanges revision before after) after ↔
   ∀identity∈upMembers before,identity∈after:=by
 let members:=(Members.values after).insertionSort memberLe
 have hmem:∀ {member},member∈members ↔ after.lookup member.identity=some member:=by
  intro member
  rw [List.mem_insertionSort,mem_values]
  refine ⟨?_,fun hm=>⟨_,hm⟩⟩
  rintro ⟨identity,hm⟩
  rwa [hkeyed identity member hm]
 have hnodup:(members.map ClusterMember.identity).Nodup:=by
  have hperm:=(List.perm_insertionSort memberLe (Members.values after)).map
   ClusterMember.identity
  refine hperm.nodup_iff.2 ?_
  rw [values_map_identity hkeyed]
  exact after.keys_nodup
 have hobserved:∀identity,
  identity∈(publishSnapshotChanges revision before after).foldl observe (upMembers before) ↔
   identity∈upMembers after ∨ identity∉after ∧ identity∈upMembers before:=by
  intro identity
  refine (mem_foldl_changes before members hnodup (fun member _=>mem_upMembers) ?_).trans ?_
  · exact fun member hmember=>hforward _ member (hmem.1 hmember)
  · refine or_congr ?_ (and_congr_left fun _=>?_)
    · rw [mem_upMembers,Option.map_eq_some_iff]
      constructor
      · rintro ⟨member,hmember,rfl,hstatus⟩
        exact ⟨member,hmem.1 hmember,hstatus⟩
      · rintro ⟨member,hm,hstatus⟩
        have hid:=hkeyed identity member hm
        exact ⟨member,hmem.2 (hid.symm▸hm),hid,hstatus⟩
    · rw [←AList.lookup_eq_none]
      constructor
      · intro hnone
        cases hm:after.lookup identity with
        | none=>rfl
        | some member=>
         have hid:=hkeyed identity member hm
         exact absurd hid (hnone member (hmem.2 (hid.symm▸hm)))
      · rintro hnone member hmember rfl
        rw [hmem.1 hmember] at hnone
        cases hnone
 unfold Describes
 rw [Finset.ext_iff]
 refine forall_congr' fun identity=>?_
 rw [hobserved]
 constructor
 · intro hiff hup
   by_contra hnone
   have hstays:=hiff.1 (.inr ⟨hnone,hup⟩)
   rw [mem_upMembers,AList.lookup_eq_none.2 hnone] at hstays
   cases hstays
 · intro hkept
   refine or_iff_left_of_imp ?_
   rintro ⟨hnone,hup⟩
   exact absurd (hkept hup) hnone

lemma Describes.trans {before between after:Members} {events events':List ClusterEvent}
  (h:Describes before events between) (h':Describes between events' after):
  Describes before (events++events') after:=by
 unfold Describes at *
 rw [List.foldl_append,h,h']

lemma describes_nil {before after:Members}
  (h:∀identity,(after.lookup identity).map ClusterMember.status=some .up ↔
   (before.lookup identity).map ClusterMember.status=some .up):Describes before [] after:=by
 refine Finset.ext fun identity=>?_
 rw [List.foldl_nil,mem_upMembers,mem_upMembers,h]

lemma describes_erase {members:Members} {status:MemberStatus}
  (h:(members.lookup identity).map ClusterMember.status=some status)
  (hup:status≠.up):Describes members [] (members.erase identity):=by
 refine describes_nil fun other=>?_
 by_cases heq:other=identity
 · rw [heq,AList.lookup_erase,h]
   exact iff_of_false nofun fun hsome=>hup (Option.some.inj hsome)
 · rw [AList.lookup_erase_ne heq]

lemma ne_joining_of_up {status:MemberStatus} (hup:status=.up):status≠.joining:=by
 rw [hup]
 decide

lemma describes_replace (view:MemberView) (member:ClusterMember)
  (hforward:Forward (view.members.lookup member.identity) member):
  Describes view.members (replaceEvents view member) (view.replaceMember member).members:=by
 unfold replaceEvents
 split
 · rename_i hsame
   refine describes_nil fun identity=>?_
   unfold MemberView.replaceMember
   rw [if_pos hsame]
 · refine Finset.ext fun identity=>?_
   rw [mem_upMembers]
   by_cases heq:identity=member.identity
   · rw [heq,foldl_publish_self mem_upMembers hforward,lookup_replaceMember_self,
      Option.map_some,Option.some_inj]
   · rw [foldl_publish_other heq,mem_upMembers,lookup_replaceMember_ne view heq]

lemma describes_update (view:MemberView) {stored:MemberIdentity} {before:ClusterMember}
  (member:ClusterMember) (hm:view.members.lookup stored=some before)
  (hid:member.identity=stored) (hforward:before.status=.up → member.status≠.joining):
  Describes view.members (replaceEvents view member) (view.replaceMember member).members:=by
 refine describes_replace view member fun hup=>?_
 rw [hid,hm,Option.map_some] at hup
 exact hforward (Option.some.inj hup)

lemma describes_left (view:MemberView) (hkeyed:Keyed view.members) {after:Members}
  (hleft:∀member,view.members.lookup identity=some member → member.status=.left →
   after=view.members)
  (hactive:∀member,view.members.lookup identity=some member → member.status≠.left →
   after=(view.replaceMember { member with status:=.left }).members)
  (hnone:view.members.lookup identity=none → after=view.members):
  Describes view.members (leftEvents view identity) after:=by
 unfold leftEvents
 split
 · rename_i hm
   rw [hnone hm]
   exact describes_nil fun _=>Iff.rfl
 · rename_i member hm
   split
   · rename_i hstatus
     rw [hleft member hm hstatus]
     exact describes_nil fun _=>Iff.rfl
   · rename_i hstatus
     rw [hactive member hm hstatus]
     exact describes_update view { member with status:=.left } hm (hkeyed _ member hm)
      fun _=>nofun

end

section

variable {node:Coordinator} {s:CoordinatorState} {r r':CoordinatorRun}

section

variable (h:Inv node s)
include h

lemma setSelfStatus_describes {status:MemberStatus}
  (hstatus:status≠.joining):Describes s.members (setSelfStatusEvents node status s)
   (setSelfStatus node status s).members:=by
 unfold setSelfStatusEvents setSelfStatus
 cases hm:s.members.lookup node.selfIdentity with
 | none=>exact describes_nil fun _=>Iff.rfl
 | some member=>
  exact describes_update s.toMemberView { member with status:=status } hm
   (h.keyed _ member hm) fun _=>hstatus

lemma handleJoinConfirm_describes (message:JoinConfirm) (source:MemberIdentity) (now:ℤ):
  Describes s.members (handleJoinConfirmEvents node s message source now)
   (handleJoinConfirm node s message source now).1.members:=by
 unfold handleJoinConfirmEvents
 obtain heq|⟨member,hm,-,-,heq⟩:=handleJoinConfirm_cases node s message source now
 · rw [heq]
   exact describes_nil fun _=>Iff.rfl
 · rw [heq,hm]
   exact describes_update s.toMemberView { member with status:=.up } hm (h.keyed _ member hm)
    fun _=>nofun

lemma handleLeave_describes (message:Leave) (source:MemberIdentity):
  Describes s.members (handleLeaveEvents node s message source)
   (handleLeave node s message source).1.members:=by
 unfold handleLeaveEvents
 obtain heq|⟨member,hm,-,⟨-,heq⟩|⟨-,heq⟩⟩:=handleLeave_cases node s message source
 · rw [heq]
   exact describes_nil fun _=>Iff.rfl
 · rw [heq,hm]
   exact describes_update s.toMemberView { member with status:=.leaving } hm
    (h.keyed _ member hm) fun _=>nofun
 · rw [heq]
   exact describes_nil fun _=>Iff.rfl

lemma handleHeartbeat_describes (message:Heartbeat) (source:MemberIdentity) (now:ℤ):
  Describes s.members (handleHeartbeatEvents node s message source now)
   (handleHeartbeat node s message source now).1.members:=by
 unfold handleHeartbeatEvents
 obtain heq|⟨member,t,became,hm,-,-,⟨rfl,rfl⟩|⟨rfl,rfl⟩,heq⟩:=
  handleHeartbeat_cases node s message source now
 · rw [heq]
   exact describes_nil fun _=>Iff.rfl
 · rw [heq]
   exact describes_nil fun _=>Iff.rfl
 · rw [heq,hm]
   exact describes_update s.toMemberView { member with reachability:=.reachable } hm
    (h.keyed _ member hm) fun hup=>ne_joining_of_up hup

lemma finishLeave_describes (identity:MemberIdentity) (requestId:UUID):
  Describes s.members (leftEvents s.toMemberView identity)
   (finishLeave node s identity requestId).1.members:=by
 refine describes_left s.toMemberView h.keyed (fun member hm hleft=>?_)
  (fun member hm hactive=>?_) fun hnone=>?_
 · unfold finishLeave
   rw [hm]
   dsimp only
   rw [if_pos hleft]
   rfl
 · unfold finishLeave
   rw [hm]
   dsimp only
   rw [if_neg hactive]
   rfl
 · unfold finishLeave
   rw [hnone]

lemma finishStop_describes :
  Describes s.members (leftEvents s.toMemberView node.selfIdentity)
   (finishStop node s).members:=by
 refine describes_left s.toMemberView h.keyed (fun member hm hleft=>?_)
  (fun member hm hactive=>?_) fun hnone=>?_
 · unfold finishStop
   rw [hm]
   dsimp only
   rw [if_pos hleft]
 · unfold finishStop
   rw [hm]
   dsimp only
   rw [if_neg hactive]
 · unfold finishStop
   rw [hnone]

lemma down_describes {identity:MemberIdentity} {t:CoordinatorState}
  {changed:Bool} (hdown:down node s identity=.ok (t,changed)):
  Describes s.members (downEvents node s identity) t.members:=by
 unfold downEvents
 rw [hdown]
 have hactive:∀member,s.members.lookup identity=some member → member.status≠.left →
  t.members=(s.toMemberView.replaceMember { member with status:=.left }).members:=by
  intro member hm hactive
  unfold down at hdown
  simp only [bind_reject_eq_ok] at hdown
  rw [hm] at hdown
  dsimp only at hdown
  rw [if_neg hactive] at hdown
  simp only [bind_reject_eq_ok] at hdown
  obtain ⟨-,-,-,-,hdown⟩:=hdown
  cases hdown
  rfl
 obtain rfl|⟨found,hfound,hup,-,-,rfl⟩:=down_cases hdown
 · exact describes_left t.toMemberView h.keyed (fun _ _ _=>rfl) hactive fun _=>rfl
 · refine describes_left s.toMemberView h.keyed (fun member hm hleft=>?_) hactive
    fun hnone=>?_
   · rw [Option.some.inj (hm.symm.trans hfound),hup] at hleft
     cases hleft
   · rw [hfound] at hnone
     cases hnone

end

lemma detectUnreachableMembers_describes (node:Coordinator) (now:ℤ)
  {items:List (Σ _:MemberIdentity,ClusterMember)} (hitems:Listed s items):
  Describes s.members (detectUnreachableMembersEvents node now s items)
   (detectUnreachableMembers node now s items).1.members:=by
 induction items generalizing s with
 | nil=>exact describes_nil fun _=>Iff.rfl
 | cons item rest ih=>
  unfold detectUnreachableMembersEvents detectUnreachableMembers
  split
  · exact ih hitems.tail
  · exact Describes.trans (describes_update s.toMemberView
     { item.2 with reachability:=.unreachable } hitems.head.2 rfl
     fun hup=>ne_joining_of_up hup) (ih hitems.advance)

lemma expireProvisionalJoin_describes (identity:MemberIdentity) (requestId:UUID):
  Describes s.members [] (expireProvisionalJoin s identity requestId).members:=by
 unfold expireProvisionalJoin
 split
 · rename_i hc
   exact describes_erase hc.2 (by decide)
 · exact describes_nil fun _=>Iff.rfl

lemma join_describes (view:MemberView) (source:MemberIdentity) (sourceEndpoint:Endpoint)
  (hnone:view.members.lookup source=none):
  Describes view.members (replaceEvents view ⟨source,sourceEndpoint,.joining,.reachable⟩)
   (view.replaceMember ⟨source,sourceEndpoint,.joining,.reachable⟩).members:=by
 refine describes_replace view _ fun hup=>?_
 rw [show view.members.lookup source=none from hnone] at hup
 cases hup

lemma handleJoinRequest_describes (h:Inv node s) (message:JoinRequest)
  (source:MemberIdentity) (sourceEndpoint:Endpoint) (token:UUID) (now:ℤ):
  Describes s.members (handleJoinRequestEvents node s message source sourceEndpoint)
   (handleJoinRequest node s message source sourceEndpoint token now).1.members:=by
 have hsame:Describes s.members [] s.members:=describes_nil fun _=>Iff.rfl
 unfold handleJoinRequestEvents handleJoinRequest
 dsimp only
 by_cases hvalid:¬JoinRequestValid node message source sourceEndpoint
 · simp only [if_pos hvalid]
   exact hsame
 by_cases hserving:¬s.state.Serving
 · simp only [if_neg hvalid,if_pos hserving]
   exact hsame
 by_cases hrefused:JoinRefused s source message.requestId
 · simp only [if_neg hvalid,if_neg hserving,if_pos hrefused]
   exact hsame
 by_cases hsome:(s.members.lookup source).isSome
 · simp only [if_neg hvalid,if_neg hserving,if_neg hrefused,if_pos hsome]
   exact hsame
 simp only [if_neg hvalid,if_neg hserving,if_neg hrefused,if_neg hsome]
 have hnone:s.members.lookup source=none:=Option.not_isSome_iff_eq_none.1 hsome
 obtain ⟨rest,-,hfails|⟨-,hfits⟩|⟨identity,-,hleft,-,hevicts⟩⟩:=
  reserveMemberCapacity_cases h.size s.leftOrder
 · rw [hfails]
   exact hsame
 · rw [hfits]
   exact join_describes s.toMemberView source sourceEndpoint hnone
 · rw [hevicts]
   have herased:(s.members.erase identity).lookup source=none:=by
    by_cases heq:source=identity
    · rw [heq]
      exact AList.lookup_erase _ _
    · rw [AList.lookup_erase_ne heq,hnone]
   exact (describes_erase hleft (by decide)).trans
    (join_describes (retireMember s identity).toMemberView source sourceEndpoint herased)

lemma coordinator_describes (h:Sound node r) {event:Event} (hstep:(system node).step r event r'):
  Describes r.data.members (coordinatorEvents node r event) r'.data.members:=by
 have hsame:∀ {members:Members},members=r.data.members →
  Describes r.data.members [] members:=by
  rintro members rfl
  exact describes_nil fun _=>Iff.rfl
 cases event with
 | caller event=>
  cases event with
  | form | announce | depart=>
   obtain ⟨-,rfl⟩:=hstep
   exact setSelfStatus_describes h.inv nofun
  | stopFinishes=>
   obtain ⟨-,-,rfl⟩:=hstep
   exact finishStop_describes h.inv
  | down identity=>
   obtain ⟨data,changed,hdown,rfl⟩:=hstep
   exact down_describes h.inv hdown
  | broadcast=>
   obtain ⟨before,exclude,after,-,rfl⟩:=hstep
   exact hsame rfl
  | start | launch | startFails | stop | stopDecides=>
   obtain ⟨-,-,rfl⟩:=hstep
   exact hsame rfl
  | startReturns | stopFails=>
   obtain ⟨-,rfl⟩:=hstep
   exact hsame rfl
 | worker event=>
  cases event with
  | joinRequest message source sourceEndpoint token now=>
   obtain ⟨-,data,record,heq,rfl⟩:=hstep
   have hd:=handleJoinRequest_describes h.inv message source sourceEndpoint token now
   rwa [heq] at hd
  | joinConfirm message source now=>
   obtain ⟨-,data,changed,heq,rfl⟩:=hstep
   have hd:=handleJoinConfirm_describes h.inv message source now
   rwa [heq] at hd
  | heartbeat message source now returned=>
   obtain ⟨-,data,ack,heq,rfl⟩:=hstep
   have hd:=handleHeartbeat_describes h.inv message source now
   rwa [heq] at hd
  | leave message source=>
   obtain ⟨-,data,wasUp,heq,rfl⟩:=hstep
   have hd:=handleLeave_describes h.inv message source
   rwa [heq] at hd
  | leaveFinishes=>
   obtain ⟨identity,requestId,data,record,hleaving,heq,rfl⟩:=hstep
   have hd:=finishLeave_describes h.inv identity requestId
   rw [heq] at hd
   unfold coordinatorEvents
   rw [hleaving]
   exact hd
  | detect=>
   obtain ⟨now,data,changed,hdetecting,heq,rfl⟩:=hstep
   have hd:=detectUnreachableMembers_describes node now h.inv.listed
   rw [heq] at hd
   unfold coordinatorEvents
   rw [hdetecting]
   exact hd
  | acceptedSent returned=>
   obtain ⟨identity,requestId,-,rfl⟩:=hstep
   dsimp only
   split
   · exact hsame rfl
   · exact expireProvisionalJoin_describes identity requestId
  | expireNext=>
   obtain ⟨identity,requestId,rest,-,rfl⟩:=hstep
   exact expireProvisionalJoin_describes identity requestId
  | tick now=>
   obtain ⟨-,-,-,rfl⟩:=hstep
   exact hsame rfl
  | expire | expireEnds | workerEnds=>
   obtain ⟨-,rfl⟩:=hstep
   exact hsame rfl
  | workerFails=>
   obtain ⟨-,-,rfl⟩:=hstep
   exact hsame rfl

end

end Movie.ClusterEvents
