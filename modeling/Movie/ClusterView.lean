import Movie.ClusterHistory
import Movie.ClusterParticipant

/-!
# What a participant shows

A participant's members reflect one state of the coordinator's history, as long as what it hears
from the coordinator is what was sent to it.
-/
namespace Movie.ClusterView

open Checked DurableModel Handshake ClusterModel ClusterCoordinator ClusterSections
 ClusterInvariant ClusterHistory ClusterParticipant Reachability

structure Reflects (coordinator:Coordinator) (node:Participant) (s:ParticipantState)
  (c:CoordinatorState):Prop where
 suits:Suits c node.identity
 same:∀identity,(s.members.lookup identity).isSome=(c.members.lookup identity).isSome
 endpoint:∀identity member shown,s.members.lookup identity=some member →
  c.members.lookup identity=some shown → member.endpoint=shown.endpoint
 status:∀identity member shown,s.members.lookup identity=some member →
  c.members.lookup identity=some shown → member.status=shown.status ∨
   identity=node.identity ∧ s.Leaving ∧ member.status.Departing
 reachability:∀identity member shown,s.members.lookup identity=some member →
  c.members.lookup identity=some shown → member.reachability=shown.reachability ∨
   identity=coordinator.selfIdentity
 stays:s.Leaving ∨ ∀member,s.members.lookup node.identity=some member → member.Active

structure Joined (coordinator:Coordinator) (past:List CoordinatorState) (node:Participant)
  (s:ParticipantState):Prop where
 contact:∀identity,s.coordinatorIdentity=some identity →
  identity=coordinator.selfIdentity
 own:(s.members.lookup node.identity).isSome
 keyed:Keyed s.members
 leaves:s.pendingLeaveRequest.isSome → s.Leaving
 stopping:s.stopper≠.idle → s.Leaving
 /-- Before the first snapshot a participant knows nobody but itself. -/
 alone:s.authoritativeSnapshot=none → s.revision=0 ∧
  (∀identity,(s.members.lookup identity).isSome → identity=node.identity) ∧
  (s.Leaving ∨ ∀member,s.members.lookup node.identity=some member →
   ¬member.status.Departing)
 view:∀wire,s.authoritativeSnapshot=some wire → ∃c∈past,
  c.revision=s.revision ∧ wire=wireMembers c.members ∧ Reflects coordinator node s c

structure Displays (coordinator:MemberIdentity) (node:Participant) (s:ParticipantState)
  (snapshot:List ClusterMember):Prop where
 distinct:(snapshot.map ClusterMember.identity).Nodup
 complete:∀shown∈snapshot,shown.identity∈s.members
 members:∀identity member,s.members.lookup identity=some member →
  ∃shown∈snapshot,shown.identity=identity ∧ member.identity=identity ∧
   member.endpoint=shown.endpoint ∧
   (member.status=shown.status ∨ identity=node.identity ∧ s.Leaving ∧
    (member.status=.leaving ∨ member.status=.left)) ∧
   (member.reachability=shown.reachability ∨ identity=coordinator)

section

variable {coordinator:Coordinator} {past:List CoordinatorState} {node:Participant}
 {s t:ParticipantState}

lemma Joined.of_past {past':List CoordinatorState} (h:Joined coordinator past node s)
  (hpast:past ⊆ past'):Joined coordinator past' node s where
 __:=h
 view wire hwire:=by
  obtain ⟨c,hmem,hview⟩:=h.view wire hwire
  exact ⟨c,hpast hmem,hview⟩

variable (h:Joined coordinator past node s)

include h in
lemma Joined.of_same (hmembers:t.members=s.members) (hrevision:t.revision=s.revision)
  (hsnapshot:t.authoritativeSnapshot=s.authoritativeSnapshot) (hleaving:s.Leaving → t.Leaving)
  (hcontact:∀identity,t.coordinatorIdentity=some identity →
   identity=coordinator.selfIdentity) (hleaves:t.pendingLeaveRequest.isSome → t.Leaving)
  (hstopping:t.stopper≠.idle → t.Leaving):Joined coordinator past node t where
 contact:=hcontact
 own:=hmembers▸h.own
 keyed:=hmembers▸h.keyed
 leaves:=hleaves
 stopping:=hstopping
 alone hnone:=by
  rw [hmembers,hrevision]
  obtain ⟨hzero,honly,hstatus⟩:=h.alone (hsnapshot▸hnone)
  exact ⟨hzero,honly,hstatus.imp_left hleaving⟩
 view wire hwire:=by
  obtain ⟨c,hmem,hc,hwireEq,hr⟩:=h.view wire (hsnapshot▸hwire)
  refine ⟨c,hmem,hc.trans hrevision.symm,hwireEq,hr.suits,hmembers▸hr.same,
   hmembers▸hr.endpoint,?_,hmembers▸hr.reachability,?_⟩
  · rw [hmembers]
    intro identity member shown hm hshown
    exact (hr.status identity member shown hm hshown).imp_right
     fun ⟨hown,hl,hd⟩=>⟨hown,hleaving hl,hd⟩
  · rw [hmembers]
    exact hr.stays.imp_left hleaving

include h in
lemma Joined.replaceMember {member:ClusterMember}
  (member':ClusterMember) (hm:s.members.lookup member'.identity=some member)
  (hendpoint:member'.endpoint=member.endpoint) (hstatus:member'.status=member.status ∨
   member'.identity=node.identity ∧ s.Leaving ∧ member'.status.Departing)
  (hreachability:member'.reachability=member.reachability ∨
   member'.identity=coordinator.selfIdentity):
  Joined coordinator past node (s.replaceMember member'):=by
 have hself:=lookup_replaceMember_self s.toMemberView member'
 have hother:∀identity,identity≠member'.identity →
  (s.replaceMember member').members.lookup identity=s.members.lookup identity:=
  fun identity hne=>lookup_replaceMember_ne s.toMemberView hne
 have hsome:∀identity,((s.replaceMember member').members.lookup identity).isSome =
  (s.members.lookup identity).isSome:=by
  intro identity
  by_cases heq:identity=member'.identity
  · rw [heq,hm]
    exact (congrArg Option.isSome hself:_=(some member').isSome)
  · rw [hother identity heq]
 have hbefore:∀identity found,
  (s.replaceMember member').members.lookup identity=some found →
  ∃before,s.members.lookup identity=some before ∧ found.endpoint=before.endpoint ∧
   (found.status=before.status ∨
    identity=node.identity ∧ s.Leaving ∧ found.status.Departing) ∧
   (found.reachability=before.reachability ∨ identity=coordinator.selfIdentity):=by
  intro identity found hfound
  by_cases heq:identity=member'.identity
  · subst heq
    cases Option.some.inj (hfound.symm.trans hself)
    exact ⟨member,hm,hendpoint,hstatus,hreachability⟩
  · exact ⟨found,(hother identity heq).symm.trans hfound,rfl,Or.inl rfl,Or.inl rfl⟩
 constructor
 case contact=>exact h.contact
 case own=>exact (hsome node.identity).trans h.own
 case keyed=>
  intro identity found hfound
  by_cases heq:identity=member'.identity
  · rw [heq] at hfound ⊢
    rw [Option.some.inj (hfound.symm.trans hself)]
  · exact h.keyed identity found ((hother identity heq).symm.trans hfound)
 case leaves=>exact h.leaves
 case stopping=>exact h.stopping
 case alone=>
  intro hnone
  obtain ⟨hzero,honly,hjoining⟩:=h.alone hnone
  refine ⟨hzero,fun identity hfound=>honly identity (hsome identity▸hfound),?_⟩
  by_cases hleaving:s.Leaving
  · exact Or.inl hleaving
  · refine Or.inr fun found hfound=>?_
    obtain ⟨before,hb,-,hsame|⟨-,hl,-⟩,-⟩:=hbefore node.identity found hfound
    · rw [hsame]
      exact hjoining.resolve_left hleaving before hb
    · exact absurd hl hleaving
 case view=>
  intro wire hwire
  obtain ⟨c,hmem,hrevision,hwireEq,hr⟩:=h.view wire hwire
  refine ⟨c,hmem,hrevision,hwireEq,hr.suits,
   fun identity=>(hsome identity).trans (hr.same identity),?_,?_,?_,?_⟩
  · intro identity found shown hfound hshown
    obtain ⟨before,hb,hsame,-⟩:=hbefore identity found hfound
    exact hsame.trans (hr.endpoint identity before shown hb hshown)
  · intro identity found shown hfound hshown
    obtain ⟨before,hb,-,hsame|hown,-⟩:=hbefore identity found hfound
    · rw [hsame]
      exact hr.status identity before shown hb hshown
    · exact Or.inr hown
  · intro identity found shown hfound hshown
    obtain ⟨before,hb,-,-,hsame|hobserved⟩:=hbefore identity found hfound
    · rw [hsame]
      exact hr.reachability identity before shown hb hshown
    · exact Or.inr hobserved
  · by_cases hleaving:s.Leaving
    · exact Or.inl hleaving
    · refine Or.inr fun found hfound=>?_
      obtain ⟨before,hb,-,hsame|⟨-,hl,-⟩,-⟩:=hbefore node.identity found hfound
      · unfold ClusterMember.Active
        rw [hsame]
        exact hr.stays.resolve_left hleaving before hb
      · exact absurd hl hleaving

/-- The states of one coordinator, in some order. -/
structure History (coordinator:Coordinator) (past:List CoordinatorState):Prop where
 inv:∀c∈past,Inv coordinator c
 linear:∀c∈past,∀c'∈past,Later c c' ∨ Later c' c

lemma History.later_of_lt (h:History coordinator past) {c c':CoordinatorState}
  (hc:c∈past) (hc':c'∈past) (hlt:c.revision<c'.revision):Later c c':=by
 rcases h.linear c hc c' hc' with hlater|hlater
 · exact hlater
 · exact absurd hlater.revision (Nat.not_le.2 hlt)

lemma History.members_eq (h:History coordinator past) {c c':CoordinatorState}
  (hc:c∈past) (hc':c'∈past) (heq:c.revision=c'.revision) (hpos:0<c.revision):
  c.members=c'.members:=by
 rcases h.linear c hc c' hc' with hlater|hlater
 · exact (hlater.members heq hpos).symm
 · exact hlater.members heq.symm (heq▸hpos)

section

variable (h:Joined coordinator past node s)
include h

lemma Joined.status_of_departing (hp:History coordinator past) {c:CoordinatorState} (hc:c∈past)
  {current shown:ClusterMember} (hcurrent:s.members.lookup node.identity=some current)
  (hdeparting:current.status.Departing) (hleaving:¬s.Leaving)
  (hlt:s.authoritativeSnapshot.isSome → s.revision<c.revision)
  (hshown:c.members.lookup node.identity=some shown) (hactive:shown.Active):
  current.status=shown.status:=by
 cases hsnapshot:s.authoritativeSnapshot with
 | none=>
  have hjoining:=(h.alone hsnapshot).2.2.resolve_left hleaving
  exact absurd hdeparting (hjoining current hcurrent)
 | some wire=>
  obtain ⟨c₀,hc₀,hrevision,-,hr⟩:=h.view wire hsnapshot
  obtain ⟨shown₀,hshown₀⟩:=Option.isSome_iff_exists.1 hr.suits.member
  have hsame:current.status=shown₀.status:=
   (hr.status _ current shown₀ hcurrent hshown₀).resolve_right fun hown=>hleaving hown.2.1
  have hcurrentActive:current.Active:=hr.stays.resolve_left hleaving current hcurrent
  have hlater:Later c₀ c:=by
   refine hp.later_of_lt hc₀ hc ?_
   rw [hrevision]
   exact hlt (hsnapshot▸Option.isSome_some)
  rcases hlater.departed node.identity (Or.inr ⟨shown₀,hshown₀,hsame▸hdeparting⟩) with
   hretired | ⟨found,hfound,hfoundDeparting⟩
  · exact absurd (((hp.inv c hc).disjoint _ hretired).symm.trans hshown) nofun
  · rw [hshown] at hfound
    cases hfound
    rw [hdeparting.resolve_right hcurrentActive,hfoundDeparting.resolve_right hactive]

lemma Joined.applyWireSnapshot
  (hp:History coordinator past) {c:CoordinatorState} (hc:c∈past) {record:Notice}
  (hrecord:Shown c node.identity record)
  (hack:(∃requestId,record.kind=.leaveAck requestId) → s.Leaving):
  Joined coordinator past node
   (applyWireSnapshot node s record.revision record.members).1:=by
 obtain heq|⟨converted,selfMember,viewRevision,haccepted,heq⟩:=
  applyWireSnapshot_cases node s record.revision record.members
 · rw [heq]
   exact h
 rw [heq]
 have hlt:=haccepted.lt
 have hconverted:=haccepted.converts
 have hself:=haccepted.own
 have hkeyed:Keyed c.members:=(hp.inv c hc).keyed
 rw [hrecord.members] at hconverted
 have hlookup:=convertMembers_wireMembers hkeyed hconverted
 have hshown:c.members.lookup node.identity=some selfMember:=
  (hlookup node.identity).symm.trans hself
 obtain ⟨current,hcurrent⟩:=Option.isSome_iff_exists.1 h.own
 have hown:=overrideSelf_lookup_self hself hcurrent
 have hother:∀identity,identity≠node.identity →
  (overrideSelf node s selfMember converted).lookup identity=c.members.lookup identity:=
  fun identity hne=>(overrideSelf_lookup_ne selfMember hne).trans (hlookup identity)
 have hselfActive:¬s.Leaving → selfMember.Active:=
  fun hleaving hleft=>hleaving (hack (hrecord.left selfMember hshown hleft))
 rw [hrecord.revision] at hlt
 have hcompare:∀identity member shown,
  (overrideSelf node s selfMember converted).lookup identity=some member →
  c.members.lookup identity=some shown → member=shown ∨
   identity=node.identity ∧ shown=selfMember ∧ member={ selfMember with
    status:=if current.status.Departing then current.status else selfMember.status }:=by
  intro identity member shown hm hfound
  by_cases hne:identity=node.identity
  · subst hne
    exact Or.inr ⟨rfl,Option.some.inj (hfound.symm.trans hshown),
     Option.some.inj (hm.symm.trans hown)⟩
  · exact Or.inl (Option.some.inj (hm.symm.trans ((hother identity hne).trans hfound)))
 have hstatus:(if current.status.Departing then current.status else selfMember.status) =
  selfMember.status ∨ s.Leaving ∧
  (if current.status.Departing then current.status else selfMember.status).Departing:=by
  by_cases hd:current.status.Departing
  · rw [if_pos hd]
    by_cases hleaving:s.Leaving
    · exact Or.inr ⟨hleaving,hd⟩
    · exact Or.inl (h.status_of_departing hp hc hcurrent hd hleaving hlt hshown
       (hselfActive hleaving))
  · rw [if_neg hd]
    exact Or.inl rfl
 constructor
 case contact=>exact h.contact
 case own=>exact hown▸Option.isSome_some
 case keyed=>
  intro identity member hm
  by_cases hne:identity=node.identity
  · subst hne
    cases Option.some.inj (hm.symm.trans hown)
    exact hkeyed _ selfMember hshown
  · exact hkeyed identity member ((hother identity hne).symm.trans hm)
 case leaves=>exact h.leaves
 case stopping=>exact h.stopping
 case alone=>exact nofun
 case view=>
  intro wire hwire
  cases hwire
  refine ⟨c,hc,hrecord.revision.symm,hrecord.members,hrecord.suits,?_,?_,?_,?_,?_⟩
  · intro identity
    by_cases hne:identity=node.identity
    · rw [hne,hshown]
      exact hown▸rfl
    · exact congrArg Option.isSome (hother identity hne)
  · intro identity member shown hm hfound
    obtain rfl|⟨-,rfl,rfl⟩:=hcompare identity member shown hm hfound
    · rfl
    · rfl
  · intro identity member shown hm hfound
    obtain rfl|⟨hidentity,rfl,rfl⟩:=hcompare identity member shown hm hfound
    · exact Or.inl rfl
    · exact hstatus.imp_right fun hleaves=>⟨hidentity,hleaves⟩
  · intro identity member shown hm hfound
    obtain rfl|⟨-,rfl,rfl⟩:=hcompare identity member shown hm hfound
    · exact Or.inl rfl
    · exact Or.inl rfl
  · by_cases hleaving:s.Leaving
    · exact Or.inl hleaving
    · refine Or.inr fun member hm=>?_
      cases Option.some.inj (hm.symm.trans hown)
      unfold ClusterMember.Active
      rw [hstatus.resolve_right fun hleaves=>hleaving hleaves.1]
      exact hselfActive hleaving

lemma Joined.noted (hnoted:Noted s t):
  Joined coordinator past node t:=by
 have hleaving:s.Leaving → t.Leaving:=by
  unfold ParticipantState.Leaving
  rw [hnoted.state]
  exact id
 exact h.of_same hnoted.members hnoted.revision hnoted.snapshot hleaving
  (hnoted.contact▸h.contact) (fun hleave=>hleaving (h.leaves (hnoted.leave hleave)))
  (fun hne=>hleaving (h.stopping (hnoted.stopper▸hne)))

lemma Joined.observe {stored:MemberIdentity}
  {member:ClusterMember} (hcontact:s.coordinatorIdentity=some stored)
  (hm:s.members.lookup stored=some member) (reachability:Reachability):
  Joined coordinator past node (s.replaceMember { member with reachability:=reachability }):=by
 have hid:=h.keyed stored member hm
 subst hid
 exact h.replaceMember { member with reachability:=reachability } hm rfl (Or.inl rfl)
  (Or.inr (h.contact _ hcontact))

lemma Joined.handleControl (hp:History coordinator past) {record:Notice} {source:MemberIdentity}
  (hsent:source=coordinator.selfIdentity → ∃c∈past,Shown c node.identity record)
  (now:ℤ):Joined coordinator past node (handleControl node s record source now):=by
 refine handleControl_rule (P := Joined coordinator past node) now h ?_
  (fun _ _ hu hnoted=>hu.noted hnoted)
  fun _ _ _ reachability hu hcontact hm=>hu.observe hcontact hm reachability
 intro hcontact hleave
 obtain ⟨c,hc,hrecord⟩:=hsent (h.contact source hcontact)
 exact h.applyWireSnapshot hp hc hrecord fun hack=>h.leaves (hleave hack)

lemma Joined.setOwnStatus (hleaving:s.Leaving) (status:MemberStatus) (hdeparting:status.Departing):
  Joined coordinator past node (setOwnStatus node status s):=by
 obtain ⟨member,hm⟩:=Option.isSome_iff_exists.1 h.own
 have hid:=h.keyed _ member hm
 unfold ClusterParticipant.setOwnStatus
 rw [hm]
 rw [←hid] at hm
 exact h.replaceMember { member with status:=status } hm rfl
  (Or.inr ⟨hid,hleaving,hdeparting⟩) (Or.inl rfl)

end

lemma setOwnStatus_state (node:Participant) (status:MemberStatus) (s:ParticipantState):
  (setOwnStatus node status s).state=s.state:=by
 unfold ClusterParticipant.setOwnStatus
 split
 · rfl
 · rfl

include h in
lemma Joined.endLeave (hleaving:s.Leaving):
  Joined coordinator past node (endLeave node s):=by
 unfold ClusterParticipant.endLeave
 split
 · exact h
 · exact h.setOwnStatus hleaving .left (Or.inr rfl)

lemma endLeave_state (node:Participant) (s:ParticipantState):
  (endLeave node s).state=s.state:=by
 unfold ClusterParticipant.endLeave
 split
 · rfl
 · exact setOwnStatus_state node .left s

include h in
lemma Joined.detectUnreachableCoordinator (now:ℤ):
  Joined coordinator past node (detectUnreachableCoordinator node s now):=by
 unfold ClusterParticipant.detectUnreachableCoordinator
 split
 · exact h
 · rename_i identity hidentity
   split
   · exact h
   · rename_i member hm
     split
     · exact h
     · exact h.observe hidentity hm .unreachable

def Permitted (coordinator:Coordinator) (node:Participant)
  (sent:List (MemberIdentity×Notice)):ParticipantEvent → Prop
 | .join peerUid _ _=>(⟨node.config.seed.systemName,peerUid⟩:MemberIdentity) =
  coordinator.selfIdentity
 | .receive record source _=>source=coordinator.selfIdentity →
  (node.identity,record)∈sent
 | _=>True

lemma leaving_unless_starting {other:RuntimeState} (h:s.Leaving):
  (if s.state=.starting then other else s.state)=.stopping ∨
   (if s.state=.starting then other else s.state)=.stopped:=by
 have hne:s.state≠.starting:=by
  intro hstarting
  unfold ParticipantState.Leaving at h
  rw [hstarting] at h
  exact absurd h (by decide)
 rw [if_neg hne]
 exact h

include h in
lemma Joined.of_control (hmembers:t.members=s.members)
  (hrevision:t.revision=s.revision) (hsnapshot:t.authoritativeSnapshot=s.authoritativeSnapshot)
  (hcontact:t.coordinatorIdentity=s.coordinatorIdentity)
  (hrequest:t.pendingLeaveRequest=s.pendingLeaveRequest) (hstopper:t.stopper=s.stopper)
  (hleaving:s.Leaving → t.Leaving):Joined coordinator past node t:=
 h.of_same hmembers hrevision hsnapshot hleaving (hcontact▸h.contact)
  (fun hsome=>hleaving (h.leaves (hrequest▸hsome)))
  (fun hne=>hleaving (h.stopping (hstopper▸hne)))

include h in
lemma Joined.step (hp:History coordinator past) {sent:List (MemberIdentity×Notice)}
  (hsent:∀entry∈sent,∃c∈past,Shown c entry.1 entry.2) {event:ParticipantEvent}
  (hpermitted:Permitted coordinator node sent event)
  (hstep:participantStep node s event t):Joined coordinator past node t:=by
 cases event with
 | start=>
  obtain ⟨-,hnew,rfl⟩:=hstep
  refine h.of_control rfl rfl rfl rfl rfl rfl fun hleaving=>?_
  unfold ParticipantState.Leaving at hleaving
  rw [hnew] at hleaving
  exact absurd hleaving (by decide)
 | join peerUid requestId controlActorUid=>
  obtain ⟨-,rfl⟩:=hstep
  refine h.of_same rfl rfl rfl id ?_ h.leaves h.stopping
  intro identity hidentity
  cases hidentity
  exact hpermitted
 | submitted=>
  cases hstep
  exact h.of_control rfl rfl rfl rfl rfl rfl id
 | startReturns | startFails=>
  obtain ⟨-,-,rfl⟩:=hstep
  exact h.of_control rfl rfl rfl rfl rfl rfl leaving_unless_starting
 | receive record source now=>
  cases hstep
  refine h.handleControl hp (fun hsource=>?_) now
  exact hsent _ (hpermitted hsource)
 | sendHeartbeat=>
  cases hstep
  unfold ClusterParticipant.sendHeartbeat
  split
  · exact h.of_control rfl rfl rfl rfl rfl rfl id
  · exact h
 | detect now=>
  cases hstep
  exact h.detectUnreachableCoordinator now
 | workerFails=>
  cases hstep
  refine h.of_control rfl rfl rfl rfl rfl rfl fun hleaving=>?_
  unfold ParticipantState.Leaving at hleaving ⊢
  rw [if_pos hleaving]
  exact hleaving
 | stop=>
  obtain ⟨-,-,rfl⟩:=hstep
  have hstops:ParticipantState.Leaving { s with
   state:=.stopping
   startupSettled:=s.startupSettled || decide (s.state=.new)
   stopper:=.waiting }:=Or.inl rfl
  exact h.of_same rfl rfl rfl (fun _=>hstops) h.contact (fun _=>hstops) fun _=>hstops
 | stopFails=>
  obtain ⟨-,rfl⟩:=hstep
  exact h.of_same rfl rfl rfl id h.contact h.leaves fun hne=>absurd rfl hne
 | stopDecides=>
  obtain ⟨hwaiting,-,rfl⟩:=hstep
  have hleaving:s.Leaving:=h.stopping (hwaiting▸nofun)
  exact h.of_same rfl rfl rfl id h.contact h.leaves fun _=>hleaving
 | leave requestId=>
  obtain ⟨hannouncing,rfl⟩:=hstep
  have hleaving:s.Leaving:=h.stopping (hannouncing▸nofun)
  have hj:=h.setOwnStatus hleaving .leaving (Or.inl rfl)
  have hleaves:(ClusterParticipant.setOwnStatus node .leaving s).Leaving:=by
   unfold ParticipantState.Leaving
   rw [setOwnStatus_state node .leaving s]
   exact hleaving
  exact hj.of_same rfl rfl rfl id hj.contact (fun _=>hleaves) fun _=>hleaves
 | leaveEnds=>
  obtain ⟨hdeparting,rfl⟩:=hstep
  have hleaving:s.Leaving:=h.stopping (hdeparting▸nofun)
  have hj:=h.endLeave hleaving
  have hleaves:(ClusterParticipant.endLeave node s).Leaving:=by
   unfold ParticipantState.Leaving
   rw [endLeave_state node s]
   exact hleaving
  exact hj.of_same rfl rfl rfl id hj.contact hj.leaves fun _=>hleaves
 | stopFinishes=>
  obtain ⟨hending,rfl⟩:=hstep
  have hleaving:s.Leaving:=h.stopping (hending▸nofun)
  have hj:=h.endLeave hleaving
  have hstopped:ParticipantState.Leaving { ClusterParticipant.endLeave node s with
   state:=.stopped
   stopper:=.idle }:=Or.inr rfl
  exact hj.of_same rfl rfl rfl (fun _=>hstopped) hj.contact (fun _=>hstopped)
   fun _=>hstopped

lemma applyWireSnapshot_revision (node:Participant) (s:ParticipantState) (revision:ℕ)
  (members:List WireMember):
  s.revision≤(applyWireSnapshot node s revision members).1.revision:=by
 obtain heq|⟨_,_,_,haccepted,heq⟩:=applyWireSnapshot_cases node s revision members
 · rw [heq]
 · rw [heq]
   exact haccepted.le

lemma participantStep_revision {event:ParticipantEvent}
  (hstep:participantStep node s event t):s.revision≤t.revision:=by
 refine participantStep_rule (P := fun t=>s.revision≤t.revision) hstep le_rfl ?_
  (fun _ _ _ _=>le_rfl) (fun _ _ hle hsame=>hsame.revision▸hle)
  (fun _ _ _ _ hle _ _=>hle) fun _ _ _ _=>le_rfl
 intro record source now _
 exact handleControl_rule (P := fun t=>s.revision≤t.revision) now le_rfl
  (fun _ _=>applyWireSnapshot_revision node s record.revision record.members)
  (fun _ _ hle hnoted=>hnoted.revision▸hle) fun _ _ _ _ hle _ _=>hle

include h in
lemma Joined.names (hp:History coordinator past)
  {first second:MemberIdentity} {member member':ClusterMember}
  (hfirst:s.members.lookup first=some member)
  (hsecond:s.members.lookup second=some member') (hactive:member.Active)
  (hactive':member'.Active) (hname:first.systemName=second.systemName):first=second:=by
 cases hsnapshot:s.authoritativeSnapshot with
 | none=>
  obtain ⟨-,honly,-⟩:=h.alone hsnapshot
  rw [honly first (hfirst▸Option.isSome_some),honly second (hsecond▸Option.isSome_some)]
 | some wire=>
  obtain ⟨c,hc,-,-,hr⟩:=h.view wire hsnapshot
  have hshown:∀ {identity found},s.members.lookup identity=some found →
   ∃shown,c.members.lookup identity=some shown ∧
    (identity≠node.identity → shown.status=found.status):=by
   intro identity found hfound
   have hsome:=hr.same identity
   rw [hfound] at hsome
   obtain ⟨shown,hshown⟩:=Option.isSome_iff_exists.1 hsome.symm
   refine ⟨shown,hshown,fun hne=>?_⟩
   exact ((hr.status identity found shown hfound hshown).resolve_right
    fun hown=>hne hown.1).symm
  obtain ⟨shown,hm,hstatus⟩:=hshown hfirst
  obtain ⟨shown',hm',hstatus'⟩:=hshown hsecond
  -- the participant's own status may differ, but nobody else of its name is active
  by_contra hne
  by_cases hown:first=node.identity
  · have hother:second≠node.identity:=fun heq=>hne (hown.trans heq.symm)
    have hshownActive:shown'.Active:=by
     unfold ClusterMember.Active
     rw [hstatus' hother]
     exact hactive'
    exact hr.suits.alone second shown' hother hm' hshownActive (hown▸hname.symm)
  · have hshownActive:shown.Active:=by
     unfold ClusterMember.Active
     rw [hstatus hown]
     exact hactive
    by_cases hown':second=node.identity
    · exact hr.suits.alone first shown hown hm hshownActive (hown'▸hname)
    · have hshownActive':shown'.Active:=by
       unfold ClusterMember.Active
       rw [hstatus' hown']
       exact hactive'
      exact hne ((hp.inv c hc).names first second shown shown' hm hm' hshownActive
       hshownActive' hname)

include h in
lemma Joined.membership_ok
  (hp:History coordinator past):∃snapshot,membership node s=.ok snapshot:=by
 obtain ⟨own,hown⟩:=Option.isSome_iff_exists.1 h.own
 have hunique:(Members.values s.members).Pairwise
  fun first second=>first.identity≠second.identity:=by
  rw [←List.pairwise_map,values_map_identity h.keyed]
  exact s.members.keys_nodup
 refine MembershipSnapshot.create_ok node.config.name_valid hunique ?_
  ⟨own,mem_values.2 ⟨_,hown⟩,h.keyed _ own hown⟩
 refine hunique.imp_of_mem fun {first second} hfirst hsecond hne hactive hactive' hname=>?_
 obtain ⟨identity,hm⟩:=mem_values.1 hfirst
 obtain ⟨identity',hm'⟩:=mem_values.1 hsecond
 rw [h.keyed identity first hm,h.keyed identity' second hm'] at hname hne
 exact hne (h.names hp hm hm' hactive hactive' hname)

include h in
lemma Joined.snapshot_of_pos
  (hp:History coordinator past) (hpos:0<s.revision):(∃c∈past,c.revision=s.revision) ∧
  ∀c∈past,c.revision=s.revision →
   s.authoritativeSnapshot=some (wireMembers c.members):=by
 cases hsnapshot:s.authoritativeSnapshot with
 | none=>exact absurd (h.alone hsnapshot).1 hpos.ne'
 | some wire=>
  obtain ⟨c,hc,hrevision,rfl,-⟩:=h.view wire hsnapshot
  refine ⟨⟨c,hc,hrevision⟩,fun c' hc' hrevision'=>?_⟩
  rw [hp.members_eq hc hc' (hrevision.trans hrevision'.symm) (hrevision▸hpos)]

include h in
lemma Joined.displays (hp:History coordinator past)
  {wire:List WireMember} (hwire:s.authoritativeSnapshot=some wire):
  Displays coordinator.selfIdentity node s (wire.map WireMember.toMember):=by
 obtain ⟨c,hc,-,rfl,hr⟩:=h.view wire hwire
 have hkeyed:Keyed c.members:=(hp.inv c hc).keyed
 constructor
 case distinct=>
  rw [List.map_map]
  exact nodup_wireMembers hkeyed
 case complete=>
  intro shown hmem
  obtain ⟨wire,hwireMem,rfl⟩:=List.mem_map.1 hmem
  obtain ⟨identity,member,hm,rfl⟩:=mem_wireMembers.1 hwireMem
  rw [toMember_toWire,hkeyed identity member hm,←AList.lookup_isSome,hr.same,hm]
  rfl
 case members=>
  intro identity member hm
  have hsome:=hr.same identity
  rw [hm] at hsome
  obtain ⟨shown,hshown⟩:=Option.isSome_iff_exists.1 hsome.symm
  exact ⟨shown,List.mem_map.2 ⟨shown.toWire,mem_wireMembers.2 ⟨identity,shown,hshown,rfl⟩,rfl⟩,
   hkeyed identity shown hshown,h.keyed identity member hm,
   hr.endpoint identity member shown hm hshown,hr.status identity member shown hm hshown,
   hr.reachability identity member shown hm hshown⟩

lemma Reflects.lookup_eq {c:CoordinatorState} (hr:Reflects coordinator node s c)
  (hleaving:¬s.Leaving) (identity:MemberIdentity):
  (s.members.lookup identity).map (fun member=>(member.endpoint,member.status)) =
   (c.members.lookup identity).map (fun member=>(member.endpoint,member.status)):=by
 have hsome:=hr.same identity
 cases hm:s.members.lookup identity with
 | none=>
  rw [hm] at hsome
  rw [Option.isNone_iff_eq_none.1 (Option.isSome_eq_false_iff.1 hsome.symm)]
 | some member=>
  rw [hm] at hsome
  obtain ⟨shown,hshown⟩:=Option.isSome_iff_exists.1 hsome.symm
  rw [hshown,Option.map_some,Option.map_some,hr.endpoint identity member shown hm hshown,
   (hr.status identity member shown hm hshown).resolve_right fun hown=>hleaving hown.2.1]

lemma Joined.agree {node':Participant} (h:Joined coordinator past node s)
  (h':Joined coordinator past node' t) (hp:History coordinator past)
  (heq:s.revision=t.revision) (hpos:0<s.revision) (hleaving:¬s.Leaving)
  (hleaving':¬t.Leaving) (identity:MemberIdentity):
  (s.members.lookup identity).map (fun member=>(member.endpoint,member.status)) =
   (t.members.lookup identity).map (fun member=>(member.endpoint,member.status)):=by
 have hview:∀ {node:Participant} {u:ParticipantState},Joined coordinator past node u →
  0<u.revision → ∃c∈past,c.revision=u.revision ∧ Reflects coordinator node u c:=by
  intro node u hj hu
  cases hsnapshot:u.authoritativeSnapshot with
  | none=>exact absurd (hj.alone hsnapshot).1 hu.ne'
  | some wire=>
   obtain ⟨c,hc,hrevision,-,hr⟩:=hj.view wire hsnapshot
   exact ⟨c,hc,hrevision,hr⟩
 obtain ⟨c,hc,hrevision,hr⟩:=hview h hpos
 obtain ⟨c',hc',hrevision',hr'⟩:=hview h' (heq▸hpos)
 have hmembers:=hp.members_eq hc hc' (hrevision.trans (heq.trans hrevision'.symm))
  (hrevision▸hpos)
 rw [hr.lookup_eq hleaving,hr'.lookup_eq hleaving',hmembers]

end

end Movie.ClusterView
