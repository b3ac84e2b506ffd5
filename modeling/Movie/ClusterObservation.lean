import Movie.ClusterAcceptance
import Movie.ClusterEvents

/-!
# What the published events say of the view

At the coordinator the events give the members that are up in every run; at a participant exactly as
long as no snapshot that it takes over omits a member that is up in its view.
-/
namespace Movie.ClusterObservation

open Function Checked DurableModel Handshake Wire ClusterModel ClusterCoordinator ClusterSections
 ClusterInvariant ClusterHistory ClusterProgress ClusterParticipant ClusterView ClusterAgreement
 ClusterTerminal ClusterAcceptance ClusterEvents Reachability

section

variable {node:Participant} {s t:ParticipantState}

lemma applyWireSnapshot_refused {revision:ℕ} {members:List WireMember}
  (heq:applyWireSnapshot node s revision members=(t,false)):t=s:=by
 unfold applyWireSnapshot at heq
 split at heq
 · exact (Prod.mk.inj heq).1.symm
 split at heq
 · exact (Prod.mk.inj heq).1.symm
 split at heq
 · exact (Prod.mk.inj heq).1.symm
 split at heq
 · split at heq
   · exact (Prod.mk.inj heq).1.symm
   split at heq
   · exact (Prod.mk.inj heq).1.symm
   split at heq
   · exact (Prod.mk.inj heq).1.symm
   · cases (Prod.mk.inj heq).2
 · exact (Prod.mk.inj heq).1.symm

lemma applyWireSnapshot_known {revision:ℕ} {members:List WireMember}
  (hsame:revision=s.revision ∧ s.authoritativeSnapshot.isSome):
  (applyWireSnapshot node s revision members).1=s:=by
 unfold applyWireSnapshot
 split
 · rfl
 · rfl

lemma applyWireSnapshotEvents_cases (node:Participant) (s:ParticipantState) (revision:ℕ)
  (members:List WireMember):applyWireSnapshotEvents node s revision members=[] ∧
   (applyWireSnapshot node s revision members).1=s ∨
  ∃viewRevision,applyWireSnapshotEvents node s revision members =
   publishSnapshotChanges viewRevision s.members
    (applyWireSnapshot node s revision members).1.members:=by
 unfold applyWireSnapshotEvents
 split
 · rename_i t heq
   split
   · rename_i hsame
     exact .inl ⟨rfl,applyWireSnapshot_known hsame⟩
   · rw [heq]
     exact .inr ⟨_,rfl⟩
 · rename_i t heq
   rw [heq]
   exact .inl ⟨rfl,applyWireSnapshot_refused heq⟩

/-- The test that stands before the snapshot in the handler of the record. -/
def Heeds (node:Participant) (s:ParticipantState) (record:Notice) (source:MemberIdentity):Prop:=
 match record.kind with
 | .joinAccepted requestId _=>
  ValidCoordinatorMessage node s record source none ∧ s.pendingJoinRequest=some requestId
 | .heartbeatAck token sequence=>
  ValidCoordinatorMessage node s record source (some token) ∧
   s.lastHeartbeatAck<sequence ∧ sequence<s.heartbeatSequence
 | .membershipUpdate token=>ValidCoordinatorMessage node s record source (some token)
 | .leaveAck requestId=>
  ValidCoordinatorMessage node s record source none ∧ s.pendingLeaveRequest=some requestId

/-- The participant takes over a snapshot that has no entry for a member that is up in its view. -/
def Omits (node:Participant) (s:ParticipantState):ParticipantEvent → Prop
 | .receive record source _=>Heeds node s record source ∧
  (∃converted selfMember,
   Accepted node s record.revision record.members converted selfMember) ∧
  ∃identity∈upMembers s.members,∀wire∈record.members,wire.toMember.identity≠identity
 | _=>False

lemma mem_of_up {members:Members} {identity:MemberIdentity} (hup:identity∈upMembers members):
  identity∈members:=by
 obtain ⟨member,hm,-⟩:=Option.map_eq_some_iff.1 (mem_upMembers.1 hup)
 rw [←AList.lookup_isSome,hm]
 rfl

lemma applyWireSnapshot_keepsUp (node:Participant) (s:ParticipantState) (revision:ℕ)
  (members:List WireMember):
  (∀identity∈upMembers s.members,
   identity∈(applyWireSnapshot node s revision members).1.members) ↔
  ¬((∃converted selfMember,Accepted node s revision members converted selfMember) ∧
   ∃identity∈upMembers s.members,∀wire∈members,wire.toMember.identity≠identity):=by
 by_cases haccepted:∃converted selfMember,Accepted node s revision members converted selfMember
 · rw [and_iff_right haccepted]
   obtain ⟨converted,selfMember,haccepted⟩:=haccepted
   have hmem (identity:MemberIdentity):
    identity∈(applyWireSnapshot node s revision members).1.members ↔
     ∃wire∈members,wire.toMember.identity=identity:=by
    rw [(applyWireSnapshot_of_accepted haccepted).2,mem_overrideSelf haccepted.own,
     mem_convertMembers haccepted.converts]
    exact or_iff_right (AList.notMem_empty identity)
   simp only [hmem]
   push Not
   rfl
 · have hsame:=(applyWireSnapshot_cases node s revision members).resolve_right
    fun ⟨converted,selfMember,_,h,_⟩=>haccepted ⟨converted,selfMember,h⟩
   rw [hsame]
   exact iff_of_true (fun _=>mem_of_up) fun h=>haccepted h.1

lemma foldl_observed (view:MemberView) {member:ClusterMember}
  (hm:view.members.lookup member.identity=some member) (reachability:Reachability)
  (up:Finset MemberIdentity):
  (replaceEvents view { member with reachability:=reachability }).foldl observe up=up:=by
 unfold replaceEvents
 dsimp only
 split
 · rfl
 · rw [hm,foldl_publish_some,if_pos rfl]

lemma markCoordinatorReachable_silent (hkeyed:Keyed s.members) (up:Finset MemberIdentity):
  (markCoordinatorReachableEvents s).foldl observe up=up:=by
 unfold markCoordinatorReachableEvents
 split
 · rename_i member hbind
   obtain ⟨stored,-,hm⟩:=Option.bind_eq_some_iff.1 hbind
   split
   · exact foldl_observed s.toMemberView ((hkeyed stored member hm).symm▸hm) .reachable up
   · rfl
 · rfl

lemma heardEvents_silent (hkeyed:Keyed s.members) (record:Notice)
  (up:Finset MemberIdentity):(heardEvents node s record).foldl observe up=up:=by
 unfold heardEvents
 split
 · rename_i t heq
   have happlied:Keeps node s (applyWireSnapshot node s record.revision record.members).1:=
    applyWireSnapshot_keeps hkeyed record.revision record.members
   rw [heq] at happlied
   exact markCoordinatorReachable_silent happlied.keyed up
 · rfl

lemma handleControl_members (node:Participant) (hkeyed:Keyed s.members) (record:Notice)
  (source:MemberIdentity) (now:ℤ):
  (¬Heeds node s record source ∧ handleControl node s record source now=s ∧
   handleControlEvents node s record source=[]) ∨
  Heeds node s record source ∧ s.coordinatorIdentity=some source ∧
   (∀identity,shownStatus (handleControl node s record source now) identity =
    shownStatus (applyWireSnapshot node s record.revision record.members).1 identity) ∧
   ∀up,(handleControlEvents node s record source).foldl observe up =
    (applyWireSnapshotEvents node s record.revision record.members).foldl observe up:=by
 have hkeeps:Keeps node s (applyWireSnapshot node s record.revision record.members).1:=
  applyWireSnapshot_keeps hkeyed record.revision record.members
 have happlied:=hkeeps.keyed
 have hheard:∀ {t:ParticipantState},Keyed t.members → ∀identity,
  shownStatus (heardFromCoordinator node t source now) identity=shownStatus t identity:=by
  intro t ht
  refine (heardFromCoordinator_rule (P := fun u=>Keyed u.members ∧
   ∀identity,shownStatus u identity=shownStatus t identity) ⟨ht,fun _=>rfl⟩ ?_ ?_
   source now).2
  · intro u v hu hnoted
    refine ⟨hnoted.members▸hu.1,fun identity=>?_⟩
    unfold shownStatus
    rw [hnoted.members]
    exact hu.2 identity
  · intro u stored member reachability hu _ hm
    refine ⟨keyed_replaceMember hu.1 _,fun identity=>?_⟩
    have hresembles:Resembles u (u.replaceMember { member with reachability:=reachability })
     identity:=replaceMember_resembles hm (hu.1 stored member hm) fun _=>rfl
    exact hresembles.2.trans (hu.2 identity)
 have hmore:∀up,(applyWireSnapshotEvents node s record.revision record.members ++
  heardEvents node s record).foldl observe up =
  (applyWireSnapshotEvents node s record.revision record.members).foldl observe up:=by
  intro up
  rw [List.foldl_append,heardEvents_silent hkeyed]
 unfold handleControl handleControlEvents Heeds
 cases record.kind with
 | joinAccepted requestId token=>
  dsimp only
  unfold handleJoinAccepted
  split
  · rename_i hc
    refine .inr ⟨hc,hc.1.2.2.1,fun identity=>?_,fun _=>rfl⟩
    split
    · rename_i t heq
      rw [heq]
    · rename_i t heq
      rw [heq]
      rfl
  · rename_i hc
    exact .inl ⟨hc,rfl,rfl⟩
 | heartbeatAck token sequence=>
  dsimp only
  unfold handleHeartbeatAck
  split
  · rename_i hc
    refine .inr ⟨hc,hc.1.2.2.1,fun identity=>?_,hmore⟩
    split
    · rename_i t heq
      rw [heq]
    · rename_i t heq
      rw [heq] at happlied ⊢
      exact hheard (t := { t with lastHeartbeatAck:=sequence }) happlied identity
  · rename_i hc
    exact .inl ⟨hc,rfl,rfl⟩
 | membershipUpdate token=>
  dsimp only
  unfold handleMembershipUpdate
  split
  · rename_i hc
    refine .inr ⟨hc,hc.2.2.1,fun identity=>?_,hmore⟩
    split
    · rename_i t heq
      rw [heq]
    · rename_i t heq
      rw [heq] at happlied ⊢
      exact hheard happlied identity
  · rename_i hc
    exact .inl ⟨hc,rfl,rfl⟩
 | leaveAck requestId=>
  dsimp only
  unfold handleLeaveAck
  split
  · rename_i hc
    exact .inr ⟨hc,hc.1.2.2.1,fun _=>rfl,fun _=>rfl⟩
  · rename_i hc
    exact .inl ⟨hc,rfl,rfl⟩

lemma upMembers_of_status {before after:Members}
  (h:∀identity,(after.lookup identity).map ClusterMember.status =
   (before.lookup identity).map ClusterMember.status):upMembers after=upMembers before:=by
 refine Finset.ext fun identity=>?_
 rw [mem_upMembers,mem_upMembers,h]

section

variable (hkeyed:Keyed s.members)
include hkeyed

lemma handleControl_describes {record:Notice} {source:MemberIdentity} (now:ℤ)
  (hforward:s.coordinatorIdentity=some source → ∀identity member,
   (applyWireSnapshot node s record.revision record.members).1.members.lookup identity =
    some member → Forward (s.members.lookup identity) member):
  Describes s.members (handleControlEvents node s record source)
   (handleControl node s record source now).members ↔
   ¬Omits node s (.receive record source now):=by
 obtain ⟨hrefused,hsame,hnone⟩|⟨hheeds,hcontact,hstatus,hevents⟩:=
  handleControl_members node hkeyed record source now
 · rw [hsame,hnone]
   exact iff_of_true (describes_nil fun _=>Iff.rfl) fun homits=>hrefused homits.1
 · have hkeeps:Keeps node s (applyWireSnapshot node s record.revision record.members).1:=
    applyWireSnapshot_keeps hkeyed record.revision record.members
   have happlied:Describes s.members
    (applyWireSnapshotEvents node s record.revision record.members)
    (applyWireSnapshot node s record.revision record.members).1.members ↔
    ∀identity∈upMembers s.members,
     identity∈(applyWireSnapshot node s record.revision record.members).1.members:=by
    obtain ⟨hnone,hsame⟩|⟨viewRevision,hchanges⟩:=
     applyWireSnapshotEvents_cases node s record.revision record.members
    · rw [hnone,hsame]
      exact iff_of_true (describes_nil fun _=>Iff.rfl) fun _=>mem_of_up
    · rw [hchanges]
      exact describes_snapshot hkeeps.keyed viewRevision (hforward hcontact)
   refine Iff.trans ?_ (happlied.trans ((applyWireSnapshot_keepsUp node s _ _).trans
    (not_congr (and_iff_right hheeds).symm)))
   unfold Describes
   rw [hevents,upMembers_of_status hstatus]

lemma setOwnStatus_describes (status:MemberStatus)
  (hstatus:status≠.joining) {events:List ClusterEvent}
  (hnone:s.members.lookup node.identity=none → events=[])
  (hsome:∀member,s.members.lookup node.identity=some member →
   events=replaceEvents s.toMemberView { member with status:=status }):
  Describes s.members events (setOwnStatus node status s).members:=by
 unfold setOwnStatus
 cases hm:s.members.lookup node.identity with
 | none=>
  rw [hnone hm]
  exact describes_nil fun _=>Iff.rfl
 | some member=>
  rw [hsome member hm]
  exact describes_update s.toMemberView { member with status:=status } hm (hkeyed _ member hm)
   fun _=>hstatus

lemma endLeave_describes :
  Describes s.members (leftEvents s.toMemberView node.identity) (endLeave node s).members:=by
 unfold endLeave setOwnStatus
 refine describes_left s.toMemberView hkeyed (fun member hm hleft=>?_) (fun member hm hactive=>?_)
  fun hnone=>?_
 · rw [hm,Option.map_some,if_pos (congrArg some hleft)]
 · rw [hm,Option.map_some,if_neg fun heq=>hactive (Option.some.inj heq)]
   rfl
 · rw [hnone,if_neg nofun]

lemma detectUnreachableCoordinator_describes (now:ℤ):
  Describes s.members (detectUnreachableCoordinatorEvents node s now)
   (detectUnreachableCoordinator node s now).members:=by
 have hsame:Describes s.members [] s.members:=describes_nil fun _=>Iff.rfl
 unfold detectUnreachableCoordinatorEvents detectUnreachableCoordinator
 cases hcontact:s.coordinatorIdentity with
 | none=>exact hsame
 | some stored=>
  dsimp only
  cases hm:s.members.lookup stored with
  | none=>exact hsame
  | some member=>
   dsimp only
   split
   · exact hsame
   · exact describes_update s.toMemberView { member with reachability:=.unreachable } hm
      (hkeyed stored member hm) fun hup=>ne_joining_of_up hup

lemma participant_describes {event:ParticipantEvent} (hstep:participantStep node s event t)
  (hforward:∀record source now,event=.receive record source now →
   s.coordinatorIdentity=some source → ∀identity member,
   (applyWireSnapshot node s record.revision record.members).1.members.lookup identity =
    some member → Forward (s.members.lookup identity) member):
  Describes s.members (participantEvents node s event) t.members ↔ ¬Omits node s event:=by
 have hsame:∀ {members:Members},members=s.members →
  (Describes s.members [] members ↔ ¬False):=by
  rintro members rfl
  exact iff_of_true (describes_nil fun _=>Iff.rfl) id
 cases event with
 | receive record source now=>
  cases hstep
  exact handleControl_describes hkeyed now (hforward record source now rfl)
 | detect now=>
  cases hstep
  exact iff_of_true (detectUnreachableCoordinator_describes hkeyed now) id
 | leave requestId=>
  obtain ⟨-,rfl⟩:=hstep
  refine iff_of_true (setOwnStatus_describes hkeyed .leaving nofun (fun hnone=>?_)
   fun member hm=>?_) id
  · change memberLeaveEvents node s=[]
    unfold memberLeaveEvents
    rw [hnone]
  · change memberLeaveEvents node s=_
    unfold memberLeaveEvents
    rw [hm]
 | leaveEnds | stopFinishes=>
  obtain ⟨-,rfl⟩:=hstep
  exact iff_of_true (endLeave_describes hkeyed) id
 | sendHeartbeat=>
  cases hstep
  unfold sendHeartbeat
  split
  · exact hsame rfl
  · exact hsame rfl
 | submitted | workerFails=>
  cases hstep
  exact hsame rfl
 | join | stopFails=>
  obtain ⟨-,rfl⟩:=hstep
  exact hsame rfl
 | start | startReturns | startFails | stop | stopDecides=>
  obtain ⟨-,-,rfl⟩:=hstep
  exact hsame rfl

end

lemma forward_of_shown {coordinator:Coordinator} {past:List CoordinatorState}
  {c:CoordinatorState} {record:Notice} (h:Heard past node s)
  (hj:Joined coordinator past node s) (hp:History coordinator past) (hl:Linear past)
  (hc:c∈past) (hrecord:Shown c node.identity record) (identity:MemberIdentity)
  (member:ClusterMember)
  (hm:(applyWireSnapshot node s record.revision record.members).1.members.lookup identity =
   some member):Forward (s.members.lookup identity) member:=by
 intro hup
 obtain ⟨current,hcurrent,hstatus⟩:=Option.map_eq_some_iff.1 hup
 obtain heq|⟨converted,selfMember,viewRevision,haccepted,heq⟩:=
  applyWireSnapshot_cases node s record.revision record.members
 · rw [heq,hcurrent] at hm
   rw [←Option.some.inj hm,hstatus]
   exact nofun
 rw [heq] at hm
 have hconverts:=haccepted.converts
 rw [hrecord.members] at hconverts
 have hlookup:=convertMembers_wireMembers (hp.inv c hc).keyed hconverts
 have hnot:¬current.status.Departing:=by
  rw [hstatus]
  decide
 have hseated:Seated c identity:=by
  cases hsnapshot:s.authoritativeSnapshot with
  | none=>
   obtain rfl:=(hj.alone hsnapshot).2.1 identity (hcurrent▸Option.isSome_some)
   exact absurd hstatus (h.waiting hsnapshot current hcurrent)
  | some wire=>
   obtain ⟨c₀,hc₀,hrevision,-,hr⟩:=hj.view wire hsnapshot
   obtain ⟨shown,hshown⟩:=Option.isSome_iff_exists.1
    ((hr.same identity).symm.trans (hcurrent▸Option.isSome_some))
   have hsame:current.status=shown.status:=
    (hr.status identity current shown hcurrent hshown).resolve_right fun hown=>hnot hown.2.2
   have hlt:=haccepted.lt (hsnapshot▸Option.isSome_some)
   rw [hrecord.revision,←hrevision] at hlt
   refine (hl.onward_of_lt hc₀ hc hlt).seated identity (.inr ⟨shown,hshown,?_⟩)
   rw [←hsame,hstatus]
   exact nofun
 by_cases hown:identity=node.identity
 · subst hown
   rw [←Option.some.inj ((overrideSelf_lookup_self haccepted.own hcurrent).symm.trans hm)]
   dsimp only
   rw [if_neg hnot]
   exact hseated.ne_joining (hp.inv c hc) ((hlookup _).symm.trans haccepted.own)
 · have hshown:=(overrideSelf_lookup_ne selfMember hown).symm.trans hm
   exact hseated.ne_joining (hp.inv c hc) ((hlookup identity).symm.trans hshown)

end

structure Observed (ι:Type) where
 world:World ι
 published:List ClusterEvent
 heard:ι → List ClusterEvent

section

variable {ι:Type} [DecidableEq ι] (coordinator:Coordinator) (nodes:ι → Participant)

def observedStep (o:Observed ι):WorldEvent ι → Observed ι → Prop
 | .coordinator event,o'=>∃world,
  worldStep coordinator nodes o.world (.coordinator event) world ∧
  o'={ o with
   world:=world
   published:=o.published++coordinatorEvents coordinator o.world.coordinator event }
 | .participant index event,o'=>∃world,
  worldStep coordinator nodes o.world (.participant index event) world ∧
  o'={ o with
   world:=world
   heard:=update o.heard index (o.heard index ++
    participantEvents (nodes index) (o.world.participants index) event) }

def observed : System (Observed ι) (WorldEvent ι) where
 init o:=(cluster coordinator nodes).init o.world ∧ o.published=[] ∧ ∀index,o.heard index=[]
 step:=observedStep coordinator nodes

/-- In this step the participant takes over a snapshot without a member that was up. -/
def Drops (index:ι) (o:Observed ι):WorldEvent ι → Prop
 | .coordinator _=>False
 | .participant moved event=>
  moved=index ∧ Omits (nodes index) (o.world.participants index) event

def keepingUp (index:ι):System (Observed ι) (WorldEvent ι):=
 (observed coordinator nodes).restrict fun o event=>¬Drops nodes index o event

end

section

variable {ι:Type} [DecidableEq ι] {coordinator:Coordinator} {nodes:ι → Participant}
 {o o':Observed ι} {event:WorldEvent ι}

lemma world_step (hstep:(observed coordinator nodes).step o event o'):
  (cluster coordinator nodes).step o.world event o'.world:=by
 cases event with
 | coordinator event | participant index event=>
  obtain ⟨world,hworld,rfl⟩:=hstep
  exact hworld

lemma world_reachable (h:(observed coordinator nodes).Reachable o):
  (cluster coordinator nodes).Reachable o.world:=
 System.Reachable.simulates (M := observed coordinator nodes) (f := Observed.world)
  (fun _ hinit=>hinit.1)
  (fun _ event _ _ _ hstep=>.single ⟨event,world_step hstep⟩) h

lemma published_step (h:(observed coordinator nodes).Reachable o)
  (hstep:(observed coordinator nodes).step o event o'):
  ∃more,o'.published=o.published++more ∧
   Describes o.world.coordinator.data.members more o'.world.coordinator.data.members:=by
 have hsound:=(reachable_agrees (world_reachable h)).sound
 cases event with
 | coordinator event=>
  obtain ⟨world,⟨run,hrun,rfl⟩,rfl⟩:=hstep
  exact ⟨_,rfl,coordinator_describes hsound hrun⟩
 | participant index event=>
  obtain ⟨world,⟨-,p,-,rfl⟩,rfl⟩:=hstep
  exact ⟨[],(List.append_nil _).symm,describes_nil fun _=>Iff.rfl⟩

lemma heard_step (h:(observed coordinator nodes).Reachable o) (index:ι)
  (hstep:(observed coordinator nodes).step o event o'):
  ∃more,o'.heard index=o.heard index++more ∧
   (Describes (o.world.participants index).members more
    (o'.world.participants index).members ↔ ¬Drops nodes index o event):=by
 have hsame:Describes (o.world.participants index).members []
  (o.world.participants index).members:=describes_nil fun _=>Iff.rfl
 have hagrees:=reachable_agrees (world_reachable h)
 have hfollows:=reachable_follows (world_reachable h)
 cases event with
 | coordinator event=>
  obtain ⟨world,⟨run,-,rfl⟩,rfl⟩:=hstep
  exact ⟨[],(List.append_nil _).symm,iff_of_true hsame id⟩
 | participant moved event=>
  obtain ⟨world,⟨hpermitted,p,hp,rfl⟩,rfl⟩:=hstep
  by_cases heq:index=moved
  · subst heq
    refine ⟨participantEvents (nodes index) (o.world.participants index) event,?_,?_⟩
    · exact update_self ..
    · change Describes _ _ (update o.world.participants index p index).members ↔
       ¬(index=index ∧ Omits _ _ event)
      rw [update_self,and_iff_right rfl]
      have hj:=hagrees.joined index
      refine participant_describes hj.keyed hp ?_
      rintro record source now rfl hcontact
      obtain ⟨c,hc,hrecord⟩:=hagrees.sent _ (hpermitted (hj.contact source hcontact))
      exact forward_of_shown (hfollows.heard index) hj hagrees.history hfollows.linear hc hrecord
  · refine ⟨[],?_,?_⟩
    · rw [List.append_nil]
      exact update_of_ne heq ..
    · change Describes _ _ (update o.world.participants moved p index).members ↔ _
      rw [update_of_ne heq]
      exact iff_of_true hsame fun hdrops=>heq hdrops.1.symm

end

/-- The events of a coordinator give the members that are up in its view. Those of a participant
 do so exactly as long as no snapshot that it takes over omits a member that is up in its view. -/
theorem events_describe_view {ι:Type} [DecidableEq ι] (coordinator:Coordinator)
  (nodes:ι → Participant) (o:Observed ι) (h:(observed coordinator nodes).Reachable o):
  (∀o',(observed coordinator nodes).Runs o o' →
   ∃more,o'.published=o.published++more ∧
    Describes o.world.coordinator.data.members more o'.world.coordinator.data.members) ∧
  (∀index o',(keepingUp coordinator nodes index).Runs o o' →
   ∃more,o'.heard index=o.heard index++more ∧
    Describes (o.world.participants index).members more
     (o'.world.participants index).members) ∧
  ∀index event o',(observed coordinator nodes).step o event o' →
   Drops nodes index o event → ∀more,o'.heard index=o.heard index++more →
    ¬Describes (o.world.participants index).members more
     (o'.world.participants index).members:=by
 refine ⟨?_,?_,?_⟩
 · intro o' hruns
   refine (hruns.explained (P := (observed coordinator nodes).Reachable) Observed.published
    (fun o=>upMembers o.world.coordinator.data.members) observe ?_ h).2
   exact fun o event o' ho hstep=>⟨ho.next event hstep,published_step ho hstep⟩
 · intro index o' hruns
   refine (hruns.explained (P := (observed coordinator nodes).Reachable)
    (fun o=>o.heard index) (fun o=>upMembers (o.world.participants index).members)
    observe ?_ h).2
   rintro o event o' ho ⟨hkeeps,hstep⟩
   obtain ⟨more,hlog,hdescribes⟩:=heard_step ho index hstep
   exact ⟨ho.next event hstep,more,hlog,hdescribes.2 hkeeps⟩
 · intro index event o' hstep hdrops more hmore hdescribes
   obtain ⟨more',hlog,hiff⟩:=heard_step h index hstep
   obtain rfl:more=more':=List.append_cancel_left (hmore.symm.trans hlog)
   exact hiff.1 hdescribes hdrops

def eastLeaves : Leave:=⟨"orders", "east",toUUID 7,toUUID 1,toUUID 10,toUUID 11⟩

def westJoins : JoinRequest:=
 ⟨"orders", "orders-v1", "west",toUUID 12, "10.0.0.4",7004,toUUID 13,toUUID 1,toUUID 14⟩

def wireWest : WireMember:=⟨"west",toUUID 12, "10.0.0.4",7004,.joining,.reachable⟩

def teamCreated : Observed Bool where
 world:=⟨.create teamNorth 0,[.create teamNorth 0],fun index=>.create (team index) 0⟩
 published:=[]
 heard _:=[]

lemma teamCreated_init : (observed teamNorth team).init teamCreated:=
 ⟨⟨0,rfl,rfl,fun _=>⟨0,rfl⟩⟩,rfl,fun _=>rfl⟩

lemma keepingUp_next {o o':Observed Bool}
  (h:(keepingUp teamNorth team false).Runs teamCreated o) (event:WorldEvent Bool)
  (hstep:(observed teamNorth team).step o event o') (hkeeps:¬Drops team false o event):
  (keepingUp teamNorth team false).Runs teamCreated o':=.tail h ⟨event,hkeeps,hstep⟩

lemma not_drops {o:Observed Bool} {record:Notice} {source:MemberIdentity} {now:ℤ}
  (h:∀identity∈upMembers (o.world.participants false).members,
   ∃wire∈record.members,wire.toMember.identity=identity):
  ¬Drops team false o (.participant false (.receive record source now)):=by
 rintro ⟨-,-,-,identity,hup,hmissing⟩
 obtain ⟨wire,hwire,heq⟩:=h identity hup
 exact hmissing wire hwire heq

def southJoined : { o // (keepingUp teamNorth team false).Runs teamCreated o }:=⟨_,by
 have h₁:=keepingUp_next (keepingUp_next (keepingUp_next .refl
  (.coordinator (.caller .start)) ⟨_,⟨_,⟨rfl,rfl,rfl⟩,rfl⟩,rfl⟩ id)
  (.coordinator (.caller .form)) ⟨_,⟨_,⟨rfl,rfl⟩,rfl⟩,rfl⟩ id)
  (.coordinator (.caller .launch)) ⟨_,⟨_,⟨rfl,rfl,rfl⟩,rfl⟩,rfl⟩ id
 have h₂:=keepingUp_next (keepingUp_next h₁ (.participant false .start)
  ⟨_,⟨trivial,_,⟨rfl,rfl,rfl⟩,rfl⟩,rfl⟩ And.right)
  (.participant false (.join (toUUID 1) (toUUID 4) (toUUID 3)))
  ⟨_,⟨rfl,_,⟨rfl,rfl⟩,rfl⟩,rfl⟩ And.right
 have h₃:=keepingUp_next (keepingUp_next h₂ (.coordinator (.worker (.joinRequest southJoins south
  southEndpoint (toUUID 5) 1))) ⟨_,⟨_,⟨rfl,_,_,rfl,rfl⟩,rfl⟩,rfl⟩ id)
  (.participant false (.receive (teamNotice (toUUID 2) (.joinAccepted (toUUID 4) (toUUID 5)) 2
   [wireNorth,wireSouth .joining]) ⟨"north",toUUID 1⟩ 1))
  ⟨_,⟨fun _=>by decide,_,rfl,rfl⟩,rfl⟩ (not_drops (by decide))
 exact keepingUp_next (keepingUp_next h₃ (.coordinator (.worker (.acceptedSent true)))
  ⟨_,⟨_,⟨_,_,rfl,rfl⟩,rfl⟩,rfl⟩ id) (.coordinator (.worker (.joinConfirm southConfirms
   south 2))) ⟨_,⟨_,⟨rfl,_,_,Prod.mk.eta.symm,rfl⟩,rfl⟩,rfl⟩ id⟩

/-- East has joined too, and south has heard of it. -/
def southHeard : { o // (keepingUp teamNorth team false).Runs teamCreated o }:=⟨_,by
 have h₁:=keepingUp_next (keepingUp_next (keepingUp_next southJoined.2
  (.coordinator (.worker (.joinRequest eastJoins east eastEndpoint (toUUID 10) 3)))
  ⟨_,⟨_,⟨rfl,_,_,rfl,rfl⟩,rfl⟩,rfl⟩ id)
  (.coordinator (.worker (.acceptedSent true))) ⟨_,⟨_,⟨_,_,rfl,rfl⟩,rfl⟩,rfl⟩ id)
  (.coordinator (.worker (.joinConfirm eastConfirms east 4)))
  ⟨_,⟨_,⟨rfl,_,_,rfl,rfl⟩,rfl⟩,rfl⟩ id
 exact keepingUp_next (keepingUp_next h₁ (.coordinator (.caller .broadcast))
  ⟨_,⟨_,⟨[],none,[none],rfl,rfl⟩,rfl⟩,rfl⟩ id)
  (.participant false (.receive (teamNotice (toUUID 2) (.membershipUpdate (toUUID 5)) 5
   [wireEast .up,wireNorth,wireSouth .up]) ⟨"north",toUUID 1⟩ 5))
  ⟨_,⟨fun _=>by decide,_,rfl,rfl⟩,rfl⟩ (not_drops (by decide))⟩

theorem events_describe_view_heard : ∃o,(keepingUp teamNorth team false).Runs teamCreated o ∧
  (o.world.participants false).revision=5 ∧ east∈upMembers (o.world.participants false).members ∧
  ∃more,o.heard false=more ∧ Describes (teamCreated.world.participants false).members more
   (o.world.participants false).members:=
 ⟨_,southHeard.2,rfl,by decide,
  (events_describe_view teamNorth team _ (.start teamCreated_init)).2.1 false _ southHeard.2⟩

/-- South saw east as up. While it hears nothing east leaves and west takes its place; south's
 view then has no east, and no event said so. -/
theorem vanished_member_stays_up : ∃o,(observed teamNorth team).Reachable o ∧
  (∀o₀,(observed teamNorth team).init o₀ →
   upMembers (o₀.world.participants false).members=∅ ∧ o₀.heard false=[]) ∧
  east∈(o.heard false).foldl observe ∅ ∧
  east∉upMembers (o.world.participants false).members:=by
 have h₀:(observed teamNorth team).Reachable southHeard.1:=
  .of_restrict ⟨_,teamCreated_init,southHeard.2⟩
 have h₁:=(h₀.next (.coordinator (.worker (.leave eastLeaves east)))
  ⟨_,⟨_,⟨rfl,_,_,rfl,rfl⟩,rfl⟩,rfl⟩).next (.coordinator (.worker .leaveFinishes))
  ⟨_,⟨_,⟨_,_,_,_,rfl,rfl,rfl⟩,rfl⟩,rfl⟩
 have h₂:=(h₁.next (.coordinator (.worker (.joinRequest westJoins ⟨"west",toUUID 12⟩
  westEndpoint (toUUID 15) 6))) ⟨_,⟨_,⟨rfl,_,_,rfl,rfl⟩,rfl⟩,rfl⟩).next
  (.coordinator (.caller .broadcast)) ⟨_,⟨_,⟨[],none,[none,some east],rfl,rfl⟩,rfl⟩,rfl⟩
 have h₃:=h₂.next (.participant false (.receive (teamNotice (toUUID 2)
  (.membershipUpdate (toUUID 5)) 8 [wireNorth,wireSouth .up,wireWest]) ⟨"north",toUUID 1⟩ 7))
  ⟨_,⟨fun _=>by decide,_,rfl,rfl⟩,rfl⟩
 refine ⟨_,h₃,?_,by decide,by decide⟩
 rintro o₀ ⟨⟨now,-,-,hparticipants⟩,-,hheard⟩
 obtain ⟨now',heq⟩:=hparticipants false
 rw [heq]
 exact ⟨rfl,hheard false⟩

end Movie.ClusterObservation
