import Movie.ClusterAgreement
import Movie.ClusterTerminal

/-!
# Honest updates are accepted

What a participant derives from the snapshots it saw never goes beyond what the coordinator knows,
so no check of `_apply_wire_snapshot_locked` refuses a newer record of the coordinator.
-/
namespace Movie.ClusterAcceptance

open Function Checked DurableModel Handshake Wire ClusterModel ClusterCoordinator ClusterSections
 ClusterInvariant ClusterHistory ClusterProgress ClusterParticipant ClusterView ClusterAgreement
 ClusterTerminal Reachability

section

variable {node:Coordinator} {r r':CoordinatorRun}

def Halting (state:RuntimeState):Prop:=state=.stopping ∨ state=.stopped

instance (state:RuntimeState):Decidable (Halting state):=inferInstanceAs (Decidable (_ ∨ _))

lemma halting_unless_starting {state:RuntimeState} (other:RuntimeState)
  (h:Halting state):Halting (if state=.starting then other else state):=by
 rcases h with rfl|rfl
 · exact .inl rfl
 · exact .inr rfl

lemma not_serving_of_halting {state:RuntimeState} (h:Halting state):¬state.Serving:=by
 rcases h with rfl|rfl
 · decide
 · decide

structure Attends (node:Coordinator) (r:CoordinatorRun):Prop where
 stopping:r.stopper≠.idle → Halting r.data.state
 departing:∀member,r.data.members.lookup node.selfIdentity=some member →
  member.status.Departing → Halting r.data.state

lemma attends_create (node:Coordinator) (now:ℤ):Attends node (.create node now):=by
 refine ⟨fun hne=>absurd rfl hne,fun member hm hdeparting=>?_⟩
 obtain rfl:=Option.some.inj ((AList.lookup_insert (s := ∅)).symm.trans hm)
 exact absurd hdeparting (by decide:¬MemberStatus.joining.Departing)

lemma Attends.active (h:Attends node r) (hserving:r.data.state.Serving)
  {member:ClusterMember} (hm:r.data.members.lookup node.selfIdentity=some member):
  member.Active:=
 fun hleft=>not_serving_of_halting (h.departing member hm (.inr hleft)) hserving

lemma Attends.of_same (h:Attends node r)
  (hself:r'.data.members.lookup node.selfIdentity=r.data.members.lookup node.selfIdentity)
  (hstate:Halting r.data.state → Halting r'.data.state)
  (hstopper:r'.stopper≠.idle → r.stopper≠.idle):Attends node r':=
 ⟨fun hne=>hstate (h.stopping (hstopper hne)),
  fun member hm hdeparting=>hstate (h.departing member (hself▸hm) hdeparting)⟩

lemma Attends.of_halting (h:Halting r.data.state):Attends node r:=
 ⟨fun _=>h,fun _ _ _=>h⟩

lemma setSelfStatus_state (node:Coordinator) (status:MemberStatus) (s:CoordinatorState):
  (setSelfStatus node status s).state=s.state:=by
 unfold setSelfStatus
 split
 · rfl
 · rfl

lemma attends_callerStep (h:Sound node r) (ha:Attends node r) {event:CallerEvent}
  (hstep:callerStep node r event r'):Attends node r':=by
 cases event with
 | start=>
  obtain ⟨-,hnew,rfl⟩:=hstep
  refine ha.of_same rfl (fun hhalting=>?_) id
  rw [hnew] at hhalting
  exact absurd hhalting (by decide)
 | form=>
  obtain ⟨hentered,rfl⟩:=hstep
  obtain ⟨hc,-,-⟩:=setSelfStatus_spec h.inv .up (h.phases.entered hentered)
   (fun _=>by decide) (fun hdeparting=>absurd hdeparting (by decide))
  refine ⟨fun hne=>?_,fun member hm hdeparting=>?_⟩
  · exact setSelfStatus_state node .up r.data▸ha.stopping hne
  · have hup:member.status=.up:=Option.some.inj ((selfStatus_of_lookup hm).symm.trans hc.status)
    rw [hup] at hdeparting
    exact absurd hdeparting (by decide)
 | launch=>
  obtain ⟨-,-,rfl⟩:=hstep
  exact ha.of_same rfl id id
 | startReturns=>
  obtain ⟨-,rfl⟩:=hstep
  exact ha.of_same rfl (halting_unless_starting .running) id
 | startFails=>
  obtain ⟨-,-,rfl⟩:=hstep
  exact ha.of_same rfl (halting_unless_starting .failed) id
 | down identity=>
  obtain ⟨data,changed,hdown,rfl⟩:=hstep
  have hsection:=down_section h.inv hdown
  exact ha.of_same hsection.self (hsection.state▸id) id
 | broadcast=>
  obtain ⟨before,exclude,after,-,rfl⟩:=hstep
  exact ha.of_same rfl id id
 | stop=>
  obtain ⟨-,-,rfl⟩:=hstep
  exact .of_halting (.inl rfl)
 | stopFails=>
  obtain ⟨-,rfl⟩:=hstep
  exact ha.of_same rfl id fun hne=>absurd rfl hne
 | stopDecides=>
  obtain ⟨hwaiting,-,rfl⟩:=hstep
  exact ha.of_same rfl id fun _=>hwaiting▸nofun
 | announce=>
  obtain ⟨hannouncing,rfl⟩:=hstep
  refine .of_halting ?_
  dsimp only
  rw [setSelfStatus_state]
  exact ha.stopping (hannouncing▸nofun)
 | depart=>
  obtain ⟨hdeparting,rfl⟩:=hstep
  refine .of_halting ?_
  dsimp only
  rw [setSelfStatus_state]
  exact ha.stopping (hdeparting▸nofun)
 | stopFinishes=>
  obtain ⟨-,-,rfl⟩:=hstep
  exact .of_halting (.inr (finishStop_spec h.inv).2.1)

lemma attends_step (h:Sound node r) (ha:Attends node r) {event:Event}
  (hstep:(system node).step r event r'):Attends node r':=by
 cases event with
 | caller event=>exact attends_callerStep h ha hstep
 | worker event=>
  rcases workerStep_works h hstep with rfl|hworks
  · obtain ⟨-,-,rfl⟩:=hstep
    refine ha.of_same rfl (fun hhalting=>?_) id
    have hstopped:r.data.state=.stopping ∨ r.data.state=.stopped:=hhalting
    dsimp only
    rwa [if_pos hstopped]
  · exact ha.of_same hworks.changes.self (hworks.changes.state▸id) (hworks.stopper▸id)

structure Known (node:Coordinator) (s:CoordinatorState):Prop where
 own:∀member,s.members.lookup node.selfIdentity=some member →
  member.endpoint=node.endpoint
 peer:∀identity member,identity≠node.selfIdentity →
  s.members.lookup identity=some member →
  node.peers identity.systemName=some member.endpoint ∧
   identity.systemName≠node.config.seed.systemName

lemma known_create (node:Coordinator) (now:ℤ):
  Known node (CoordinatorState.create node now):=by
 refine ⟨fun member hm=>?_,fun identity member hne hm=>?_⟩
 · rw [←Option.some.inj ((AList.lookup_insert (s := ∅)).symm.trans hm)]
 · have hnone:(CoordinatorState.create node now).members.lookup identity=none:=
    AList.lookup_insert_ne (s := ∅) hne
   rw [hnone] at hm
   cases hm

lemma Known.progress {U:MemberIdentity → Prop} {s t:CoordinatorState} (h:Known node s)
  (hp:Progress node U s t) (hself:(s.members.lookup node.selfIdentity).isSome)
  (hactive:s.state.Serving → ∀member,s.members.lookup node.selfIdentity=some member →
   member.Active):Known node t:=by
 obtain ⟨current,hcurrent⟩:=Option.isSome_iff_exists.1 hself
 have hkept:∀identity member,t.members.lookup identity=some member →
  (∃before,s.members.lookup identity=some before ∧ member.endpoint=before.endpoint) ∨
  s.members.lookup identity=none ∧ s.state.Serving ∧
   node.peers identity.systemName=some member.endpoint ∧
   (∀other found,s.members.lookup other=some found → found.Active →
    other.systemName≠identity.systemName):=by
  intro identity member hm
  cases hp.fate identity with
  | kept hsame=>exact .inl ⟨member,hsame▸hm,rfl⟩
  | joined found hbefore hafter _ _ hserving hpeer halone=>
   obtain rfl:=Option.some.inj (hm.symm.trans hafter)
   exact .inr ⟨hbefore,hserving,hpeer,halone⟩
  | expired _ _ hafter | evicted _ _ hafter=>
   rw [hafter] at hm
   cases hm
  | replaced before found hbefore hafter hendpoint=>
   obtain rfl:=Option.some.inj (hm.symm.trans hafter)
   exact .inl ⟨before,hbefore,hendpoint⟩
 refine ⟨fun member hm=>?_,fun identity member hne hm=>?_⟩
 · rcases hkept _ member hm with ⟨before,hbefore,hendpoint⟩|⟨hnone,-⟩
   · exact hendpoint.trans (h.own before hbefore)
   · rw [hnone] at hcurrent
     cases hcurrent
 · rcases hkept _ member hm with ⟨before,hbefore,hendpoint⟩|⟨-,hserving,hpeer,halone⟩
   · rw [hendpoint]
     exact h.peer identity before hne hbefore
   · exact ⟨hpeer,(halone _ current hcurrent (hactive hserving current hcurrent)).symm⟩

structure Onward (s t:CoordinatorState):Prop where
 revision:s.revision≤t.revision
 retired:s.retiredIdentities ⊆ t.retiredIdentities
 gone:∀identity,Gone s identity → Gone t identity
 seated:∀identity,Seated s identity → Seated t identity

lemma Onward.refl (s:CoordinatorState):Onward s s:=
 ⟨le_rfl,Finset.Subset.refl _,fun _ h=>h,fun _ h=>h⟩

lemma Onward.trans {s t u:CoordinatorState} (h:Onward s t) (h':Onward t u):Onward s u:=
 ⟨h.revision.trans h'.revision,Finset.Subset.trans h.retired h'.retired,
  fun identity hgone=>h'.gone identity (h.gone identity hgone),
  fun identity hseated=>h'.seated identity (h.seated identity hseated)⟩

lemma step_onward (h:Sound node r) {event:Event} (hstep:(system node).step r event r'):
  Onward r.data r'.data:=by
 have hprogress:=step_progress h hstep
 exact ⟨(sound_step h hstep).2.revision,hprogress.retired,fun _ hgone=>hprogress.gone hgone,
  fun _ hseated=>hprogress.seated hseated⟩

end

section

variable {coordinator:Coordinator} {past:List CoordinatorState} {node:Participant}
 {s t:ParticipantState}

def Linear (past:List CoordinatorState):Prop:=
 ∀c∈past,∀c'∈past,Onward c c' ∨ Onward c' c

lemma Linear.onward_of_lt (h:Linear past) {c c':CoordinatorState} (hc:c∈past)
  (hc':c'∈past) (hlt:c.revision<c'.revision):Onward c c':=
 (h c hc c' hc').resolve_right fun honward=>absurd honward.revision (Nat.not_le.2 hlt)

structure Heard (past:List CoordinatorState) (node:Participant) (s:ParticipantState):
  Prop where
 admitted:s.membershipToken.isSome → s.authoritativeSnapshot.isSome
 contact:s.authoritativeSnapshot.isSome → s.coordinatorIdentity.isSome
 own:∀member,s.members.lookup node.identity=some member → member.endpoint=node.endpoint
 fresh:s.authoritativeSnapshot=none → s.retiredIdentities=∅
 waiting:s.authoritativeSnapshot=none → ∀member,
  s.members.lookup node.identity=some member → member.status≠.up
 retired:s.authoritativeSnapshot.isSome → ∃c∈past,c.revision=s.revision ∧
  s.retiredIdentities ⊆ c.retiredIdentities

lemma heard_create (past:List CoordinatorState) (node:Participant) (now:ℤ):
  Heard past node (.create node now):=by
 refine ⟨nofun,nofun,fun member hm=>?_,fun _=>rfl,fun _ member hm=>?_,nofun⟩
 · rw [←Option.some.inj ((AList.lookup_insert (s := ∅)).symm.trans hm)]
 · rw [←Option.some.inj ((AList.lookup_insert (s := ∅)).symm.trans hm)]
   exact nofun

lemma Heard.of_past {past':List CoordinatorState} (h:Heard past node s)
  (hpast:past ⊆ past'):Heard past' node s where
 __:=h
 retired hsome:=by
  obtain ⟨c,hmem,hview⟩:=h.retired hsome
  exact ⟨c,hpast hmem,hview⟩

variable (h:Heard past node s)

include h in
lemma Heard.same (hsame:SameView s t):Heard past node t where
 admitted htoken:=by
  rw [hsame.snapshot]
  exact (hsame.token htoken).elim h.admitted id
 contact:=by
  rw [hsame.snapshot,hsame.contact]
  exact h.contact
 own:=by
  rw [hsame.members]
  exact h.own
 fresh:=by
  rw [hsame.snapshot,hsame.retired]
  exact h.fresh
 waiting:=by
  rw [hsame.snapshot,hsame.members]
  exact h.waiting
 retired:=by
  rw [hsame.snapshot,hsame.retired,hsame.revision]
  exact h.retired

include h in
lemma Heard.replaceMember (hkeyed:Keyed s.members)
  {stored:MemberIdentity} {member member':ClusterMember}
  (hm:s.members.lookup stored=some member) (hid:member'.identity=member.identity)
  (hendpoint:member'.endpoint=member.endpoint) (hstatus:member'.status=.up → member.status=.up):
  Heard past node (s.replaceMember member'):=by
 have hbefore:∀found,(s.replaceMember member').members.lookup node.identity=some found →
  ∃before,s.members.lookup node.identity=some before ∧
   found.endpoint=before.endpoint ∧ (found.status=.up → before.status=.up):=by
  intro found hfound
  have hstored:member'.identity=stored:=hid.trans (hkeyed stored member hm)
  by_cases heq:node.identity=member'.identity
  · have hself:=lookup_replaceMember_self s.toMemberView member'
    rw [←heq] at hself
    rw [←hstored,←heq] at hm
    rw [←Option.some.inj (hself.symm.trans hfound)]
    exact ⟨member,hm,hendpoint,hstatus⟩
  · exact ⟨found,(lookup_replaceMember_ne s.toMemberView heq).symm.trans hfound,rfl,id⟩
 refine ⟨h.admitted,h.contact,fun found hfound=>?_,h.fresh,fun hnone found hfound hup=>?_,
  h.retired⟩
 · obtain ⟨before,hm,hsame,-⟩:=hbefore found hfound
   exact hsame.trans (h.own before hm)
 · obtain ⟨before,hm,-,hsame⟩:=hbefore found hfound
   exact h.waiting hnone before hm (hsame hup)

lemma gone_of_shown (hj:Joined coordinator past node s) (hl:Linear past)
  {c:CoordinatorState} (hc:c∈past)
  (hlt:s.authoritativeSnapshot.isSome → s.revision<c.revision) {identity:MemberIdentity}
  (hne:identity≠node.identity) (hleft:shownStatus s identity=some .left):
  Gone c identity:=by
 obtain ⟨member,hm,hstatus⟩:=Option.map_eq_some_iff.1 hleft
 cases hsnapshot:s.authoritativeSnapshot with
 | none=>
  exact absurd ((hj.alone hsnapshot).2.1 identity (hm▸Option.isSome_some)) hne
 | some wire=>
  obtain ⟨c₀,hc₀,hrevision,-,hr⟩:=hj.view wire hsnapshot
  obtain ⟨shown,hshown⟩:=Option.isSome_iff_exists.1
   ((hr.same identity).symm.trans (hm▸Option.isSome_some))
  have hsame:member.status=shown.status:=
   (hr.status identity member shown hm hshown).resolve_right fun hown=>hne hown.1
  have honward:Onward c₀ c:=by
   refine hl.onward_of_lt hc₀ hc ?_
   rw [hrevision]
   exact hlt (hsnapshot▸Option.isSome_some)
  refine honward.gone identity (.inr ?_)
  rw [hshown,Option.map_some,←hsame,hstatus]

variable {c:CoordinatorState} {converted:Members}

include h in
lemma Heard.retired_subset (hj:Joined coordinator past node s)
  (hl:Linear past) (hc:c∈past) (hsuits:Suits c node.identity)
  (hlt:s.authoritativeSnapshot.isSome → s.revision<c.revision)
  (hlookup:∀identity,converted.lookup identity=c.members.lookup identity):
  s.retiredIdentities ∪ newlyRetired s.members converted ⊆ c.retiredIdentities:=by
 intro identity hmem
 rcases Finset.mem_union.1 hmem with hretired|hnew
 · cases hsnapshot:s.authoritativeSnapshot with
   | none=>
    rw [h.fresh hsnapshot] at hretired
    exact absurd hretired (Finset.notMem_empty _)
   | some wire=>
    have hsome:s.authoritativeSnapshot.isSome:=hsnapshot▸Option.isSome_some
    obtain ⟨c₀,hc₀,hrevision,hsubset⟩:=h.retired hsome
    exact (hl.onward_of_lt hc₀ hc (hrevision▸hlt hsome)).retired (hsubset hretired)
 · obtain ⟨hleft,hnone⟩:=mem_newlyRetired.1 hnew
   rw [hlookup] at hnone
   have hne:identity≠node.identity:=by
    rintro rfl
    have hmember:=hsuits.member
    rw [hnone] at hmember
    cases hmember
   rcases gone_of_shown hj hl hc hlt hne hleft with hretired|hleft
   · exact hretired
   · rw [hnone] at hleft
     cases hleft

include h in
lemma Heard.not_resurrects (hj:Joined coordinator past node s)
  (hl:Linear past) (hc:c∈past) (hinv:Inv coordinator c) (hsuits:Suits c node.identity)
  (hlt:s.authoritativeSnapshot.isSome → s.revision<c.revision)
  (hlookup:∀identity,converted.lookup identity=c.members.lookup identity)
  (hleaving:¬s.Leaving):¬Resurrects s converted:=by
 refine not_resurrects_iff.2 fun identity member hm hactive=>⟨fun hretired=>?_,fun hleft=>?_⟩
 · have hgone:=h.retired_subset hj hl hc hsuits hlt hlookup (Finset.mem_union_left _ hretired)
   rw [hlookup,hinv.disjoint identity hgone] at hm
   cases hm
 · by_cases heq:identity=node.identity
   · subst heq
     obtain ⟨current,hcurrent,hstatus⟩:=Option.map_eq_some_iff.1 hleft
     cases hsnapshot:s.authoritativeSnapshot with
     | none=>
      exact (hj.alone hsnapshot).2.2.resolve_left hleaving current hcurrent (.inr hstatus)
     | some wire=>
      obtain ⟨_,-,-,-,hr⟩:=hj.view wire hsnapshot
      exact hr.stays.resolve_left hleaving current hcurrent hstatus
   · rw [hlookup] at hm
     exact hactive ((gone_of_shown hj hl hc hlt heq hleft).left hinv hm)

lemma convertMembers_known {members:List WireMember} {start:Members}
  (h:convertMembers node start members=some converted)
  (hstart:∀identity member,start.lookup identity=some member →
   EndpointKnown node member) (identity:MemberIdentity) (member:ClusterMember)
  (hm:converted.lookup identity=some member):EndpointKnown node member:=by
 induction members generalizing start with
 | nil=>
  cases h
  exact hstart identity member hm
 | cons wire rest ih=>
  unfold convertMembers at h
  split at h
  · rename_i hknown
    refine ih h fun stored found hfound=>?_
    by_cases heq:stored=wire.toMember.identity
    · rw [heq,AList.lookup_insert] at hfound
      rw [←Option.some.inj hfound]
      exact hknown
    · rw [AList.lookup_insert_ne heq] at hfound
      exact hstart stored found hfound
  · cases h

lemma convertMembers_of_known {members:List WireMember}
  (h:∀wire∈members,EndpointKnown node wire.toMember) (start:Members):
  ∃converted,convertMembers node start members=some converted:=by
 induction members generalizing start with
 | nil=>exact ⟨start,rfl⟩
 | cons wire rest ih=>
  unfold convertMembers
  rw [if_pos (h wire List.mem_cons_self)]
  exact ih (fun other hmem=>h other (List.mem_cons_of_mem _ hmem)) _

section

variable (hj:Joined coordinator past node s)
include hj

include h in
lemma Heard.applyWireSnapshot
  (hp:History coordinator past) (hl:Linear past) (hc:c∈past) {record:Notice}
  (hrecord:Shown c node.identity record):
  Heard past node (applyWireSnapshot node s record.revision record.members).1:=by
 obtain heq|⟨converted,selfMember,viewRevision,haccepted,heq⟩:=
  applyWireSnapshot_cases node s record.revision record.members
 · rw [heq]
   exact h
 rw [heq]
 have hkeyed:Keyed c.members:=(hp.inv c hc).keyed
 have hconverts:=haccepted.converts
 rw [hrecord.members] at hconverts
 have hlookup:=convertMembers_wireMembers hkeyed hconverts
 obtain ⟨current,hcurrent⟩:=Option.isSome_iff_exists.1 hj.own
 obtain ⟨contact,hcontact,-⟩:=haccepted.contact
 refine ⟨fun _=>rfl,fun _=>hcontact▸Option.isSome_some,fun member hm=>?_,nofun,nofun,
  fun _=>⟨c,hc,hrecord.revision.symm,?_⟩⟩
 · have hknown:=convertMembers_known haccepted.converts
    (fun _ _ hnone=>absurd hnone nofun) node.identity selfMember haccepted.own
   have hid:=keyed_convertMembers keyed_empty haccepted.converts _ selfMember haccepted.own
   unfold EndpointKnown at hknown
   rw [if_pos hid] at hknown
   rw [←Option.some.inj ((overrideSelf_lookup_self haccepted.own hcurrent).symm.trans hm)]
   exact hknown
 · exact h.retired_subset hj hl hc hrecord.suits (hrecord.revision▸haccepted.lt) hlookup

include h in
lemma Heard.step
  (hp:History coordinator past) (hl:Linear past) {sent:List (MemberIdentity×Notice)}
  (hsent:∀entry∈sent,∃c∈past,Shown c entry.1 entry.2) {event:ParticipantEvent}
  (hpermitted:Permitted coordinator node sent event)
  (hstep:participantStep node s event t):Heard past node t:=by
 have hobserve:∀u stored member reachability,Heard past node u ∧ Keyed u.members →
  u.coordinatorIdentity=some stored → u.members.lookup stored=some member →
  Heard past node (u.replaceMember { member with reachability:=reachability }) ∧
   Keyed (u.replaceMember { member with reachability:=reachability }).members:=by
  intro u stored member reachability hu _ hm
  exact ⟨hu.1.replaceMember hu.2 hm rfl rfl id,keyed_replaceMember hu.2 _⟩
 refine (participantStep_rule (P := fun u=>Heard past node u ∧ Keyed u.members) hstep
  ⟨h,hj.keyed⟩ ?_ ?_ (fun u t hu hsame=>⟨hu.1.same hsame,hsame.members▸hu.2⟩) hobserve ?_).1
 · rintro record source now rfl
   refine handleControl_rule (P := fun u=>Heard past node u ∧ Keyed u.members) now
    ⟨h,hj.keyed⟩ (fun hcontact _=>?_)
    (fun u t hu hnoted=>⟨hu.1.same hnoted.toSameView,hnoted.members▸hu.2⟩) hobserve
   obtain ⟨c,hc,hrecord⟩:=hsent _ (hpermitted (hj.contact source hcontact))
   exact ⟨h.applyWireSnapshot hj hp hl hc hrecord,
    (applyWireSnapshot_keeps hj.keyed record.revision record.members).keyed⟩
 · rintro peerUid requestId controlActorUid -
   exact ⟨⟨h.admitted,fun _=>rfl,h.own,h.fresh,h.waiting,h.retired⟩,hj.keyed⟩
 · intro member status hm hdeparting
   refine ⟨h.replaceMember hj.keyed hm rfl rfl fun hup=>?_,keyed_replaceMember hj.keyed _⟩
   have hstatus:status=.up:=hup
   rw [hstatus] at hdeparting
   exact absurd hdeparting (by decide)

include h in
lemma endpointKnown_of_known (hp:History coordinator past) (hknown:∀c∈past,Known coordinator c)
  (hconfig:node.config=coordinator.config) (hsnapshot:s.authoritativeSnapshot.isSome)
  (hc:c∈past) {identity:MemberIdentity} {member:ClusterMember}
  (hm:c.members.lookup identity=some member):EndpointKnown node member:=by
 have hid:=((hp.inv c hc).tidy identity).keyed member hm
 have hself:node.identity≠coordinator.selfIdentity:=by
  intro heq
  refine node.not_seed ?_
  rw [heq,hconfig]
  rfl
 unfold EndpointKnown
 split
 · rename_i hown
   obtain rfl:identity=node.identity:=hid.symm.trans hown
   obtain ⟨wire,hwire⟩:=Option.isSome_iff_exists.1 hsnapshot
   obtain ⟨c₀,hc₀,-,-,hr⟩:=hj.view wire hwire
   obtain ⟨current,hcurrent⟩:=Option.isSome_iff_exists.1 hj.own
   obtain ⟨shown,hshown⟩:=Option.isSome_iff_exists.1 hr.suits.member
   have hendpoint:=hr.endpoint _ current shown hcurrent hshown
   have hbefore:=((hknown c₀ hc₀).peer _ shown hself hshown).1
   have hnow:=((hknown c hc).peer _ member hself hm).1
   rw [←h.own current hcurrent,hendpoint]
   exact Option.some.inj (hnow.symm.trans hbefore)
 · intro hname
   rw [hid,hconfig] at hname
   have hidentity:identity=coordinator.selfIdentity:=by
    by_contra hne
    exact ((hknown c hc).peer identity member hne hm).2 hname
   rw [hidentity] at hm
   rw [hconfig]
   exact (hknown c hc).own member hm

include h in
lemma Heard.accepts
  (hp:History coordinator past) (hl:Linear past) (hknown:∀c∈past,Known coordinator c)
  (hconfig:node.config=coordinator.config) (hsnapshot:s.authoritativeSnapshot.isSome)
  (hleaving:¬s.Leaving) (hc:c∈past) {record:Notice}
  (hrecord:Shown c node.identity record) (hnewer:s.revision<record.revision):
  (ClusterParticipant.applyWireSnapshot node s record.revision record.members).2=true:=by
 have hinv:=hp.inv c hc
 have hkeyed:Keyed c.members:=hinv.keyed
 obtain ⟨converted,hconverted⟩:∃converted,
  convertMembers node ∅ (wireMembers c.members)=some converted:=by
  refine convertMembers_of_known (fun wire hmem=>?_) ∅
  obtain ⟨identity,member,hm,rfl⟩:=mem_wireMembers.1 hmem
  rw [toMember_toWire]
  exact endpointKnown_of_known h hj hp hknown hconfig hsnapshot hc hm
 have hlookup:=convertMembers_wireMembers hkeyed hconverted
 obtain ⟨selfMember,hself⟩:=Option.isSome_iff_exists.1 hrecord.suits.member
 obtain ⟨contact,hcontact⟩:=Option.isSome_iff_exists.1 (h.contact hsnapshot)
 have hlt:s.authoritativeSnapshot.isSome → s.revision<c.revision:=
  fun _=>hrecord.revision▸hnewer
 have hmember:contact∈converted:=by
  rw [←AList.lookup_isSome,hlookup,hj.contact contact hcontact]
  exact hinv.own
 have hsize:(wireMembers c.members).length≤node.config.memberLimit:=by
  rw [hconfig,length_wireMembers]
  exact hinv.size
 have hlimit:(s.retiredIdentities ∪ newlyRetired s.members converted).card ≤
  node.config.retiredIdentityLimit:=by
  rw [hconfig]
  exact (Finset.card_le_card (h.retired_subset hj hl hc hrecord.suits hlt hlookup)).trans
   hinv.retired
 have haccepted:Accepted node s record.revision (wireMembers c.members) converted selfMember:=
  ⟨hnewer.le,fun _=>hnewer,hsize,hconverted,(hlookup _).trans hself,
   ⟨contact,hcontact,hmember⟩,hlimit,
   h.not_resurrects hj hl hc hinv hrecord.suits hlt hlookup hleaving⟩
 rw [hrecord.members]
 exact (applyWireSnapshot_of_accepted haccepted).1

end

end

section

variable {ι:Type} {coordinator:Coordinator} {nodes:ι → Participant} {w:World ι}

structure Follows (coordinator:Coordinator) (nodes:ι → Participant) (w:World ι):Prop where
 attends:Attends coordinator w.coordinator
 now:w.coordinator.data∈w.past
 known:∀c∈w.past,Known coordinator c
 current:∀c∈w.past,Onward c w.coordinator.data
 linear:Linear w.past
 heard:∀index,Heard w.past (nodes index) (w.participants index)

lemma Follows.coordinatorStep (h:Follows coordinator nodes w)
  (hagrees:Agrees coordinator nodes w) {event:Event} {run:CoordinatorRun}
  (hstep:(ClusterCoordinator.system coordinator).step w.coordinator event run):
  Follows coordinator nodes ⟨run,run.data::w.past,w.participants⟩:=by
 have hsound:=hagrees.sound
 have honward:=step_onward hsound hstep
 have hcurrent:∀c∈run.data::w.past,Onward c run.data:=by
  intro c hc
  rcases List.mem_cons.1 hc with rfl|hc
  · exact .refl _
  · exact (h.current c hc).trans honward
 refine ⟨attends_step hsound h.attends hstep,List.mem_cons_self,?_,hcurrent,?_,fun index=>
  (h.heard index).of_past (List.subset_cons_self _ _)⟩
 · intro c hc
   rcases List.mem_cons.1 hc with rfl|hc
   · exact (h.known _ h.now).progress (step_progress hsound hstep) hsound.inv.own
      fun hserving member hm=>h.attends.active hserving hm
   · exact h.known c hc
 · intro c hc c' hc'
   rcases List.mem_cons.1 hc' with rfl|hc'
   · exact .inl (hcurrent c hc)
   · rcases List.mem_cons.1 hc with rfl|hc
     · exact .inr (hcurrent c' (List.mem_cons_of_mem _ hc'))
     · exact h.linear c hc c' hc'

lemma Heard.retired_current {node:Participant} {s:ParticipantState}
  (h:Heard w.past node s) (hcurrent:∀c∈w.past,Onward c w.coordinator.data):
  s.retiredIdentities ⊆ w.coordinator.data.retiredIdentities:=by
 cases hsnapshot:s.authoritativeSnapshot with
 | none=>
  rw [h.fresh hsnapshot]
  exact Finset.empty_subset _
 | some wire=>
  obtain ⟨c,hc,-,hsubset⟩:=h.retired (hsnapshot▸Option.isSome_some)
  exact Finset.Subset.trans hsubset (hcurrent c hc).retired

variable [DecidableEq ι]

lemma reachable_follows (h:(cluster coordinator nodes).Reachable w):
  Follows coordinator nodes w:=by
 refine h.invariant (I := Follows coordinator nodes) ?_ ?_
 · rintro ⟨run,past,participants⟩ ⟨now,rfl,rfl,hparticipants⟩
   refine ⟨attends_create coordinator now,List.mem_singleton.2 rfl,?_,?_,?_,fun index=>?_⟩
   · intro c hc
     rw [List.mem_singleton.1 hc]
     exact known_create coordinator now
   · intro c hc
     rw [List.mem_singleton.1 hc]
     exact .refl _
   · intro c hc c' hc'
     rw [List.mem_singleton.1 hc,List.mem_singleton.1 hc']
     exact .inl (.refl _)
   · obtain ⟨now',heq⟩:=hparticipants index
     rw [heq]
     exact heard_create _ _ now'
 · intro w event w' hreachable hw hstep
   have hagrees:=reachable_agrees hreachable
   cases event with
   | coordinator event=>
    obtain ⟨run,hrun,rfl⟩:=hstep
    exact hw.coordinatorStep hagrees hrun
   | participant index event=>
    obtain ⟨hpermitted,p,hp,rfl⟩:=hstep
    refine ⟨hw.attends,hw.now,hw.known,hw.current,hw.linear,fun other=>?_⟩
    by_cases heq:other=index
    · subst heq
      change Heard w.past (nodes other) (update w.participants other p other)
      rw [update_self]
      exact (hw.heard other).step (hagrees.joined other) hagrees.history hw.linear hagrees.sent
       hpermitted hp
    · change Heard w.past (nodes other) (update w.participants index p other)
      rw [update_of_ne heq]
      exact hw.heard other

end

/-- Whatever became of the records on their way, an admitted participant that does not leave
 takes over every newer record that the coordinator sent to it. -/
theorem honest_updates_accepted {ι:Type} [DecidableEq ι] (coordinator:Coordinator)
  (nodes:ι → Participant) (w:World ι) (h:(cluster coordinator nodes).Reachable w)
  (index:ι) (hconfig:(nodes index).config=coordinator.config):
  (w.participants index).retiredIdentities ⊆ w.coordinator.data.retiredIdentities ∧
  ((w.participants index).membershipToken.isSome → ¬(w.participants index).Leaving →
   ∀record,((nodes index).identity,record)∈w.coordinator.sent →
    (w.participants index).revision<record.revision →
    (applyWireSnapshot (nodes index) (w.participants index) record.revision
     record.members).2=true):=by
 have hagrees:=reachable_agrees h
 have hfollows:=reachable_follows h
 have hheard:=hfollows.heard index
 refine ⟨hheard.retired_current hfollows.current,fun htoken hleaving record hsent hnewer=>?_⟩
 obtain ⟨c,hc,hrecord⟩:=hagrees.sent _ hsent
 exact hheard.accepts (hagrees.joined index) hagrees.history hfollows.linear hfollows.known hconfig
  (hheard.admitted htoken) hleaving hc hrecord hnewer

theorem honest_updates_accepted_south : ∃w,(cluster teamNorth team).Reachable w ∧
  (w.participants false).revision=2 ∧
  (applyWireSnapshot (team false) (w.participants false) 3 [wireNorth,wireSouth .up]).2 =
   true:=by
 have h:=southConfirmed.2.next (.coordinator (.caller .broadcast))
  ⟨_,⟨[],none,[],rfl,rfl⟩,rfl⟩
 refine ⟨_,h,rfl,?_⟩
 exact (honest_updates_accepted teamNorth team _ h false rfl).2 rfl (by decide)
  (teamNotice (toUUID 2) (.membershipUpdate (toUUID 5)) 3 [wireNorth,wireSouth .up])
  (by decide) (by decide)

end Movie.ClusterAcceptance
