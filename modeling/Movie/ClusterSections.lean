import Movie.ClusterCoordinator

/-!
# What the sections of a coordinator do

The six maps of a coordinator stay in step through every section of its lock. `Section` and
`SelfChange` say once what a section does.
-/
namespace Movie.ClusterSections

open Checked DurableModel Handshake ClusterModel ClusterCoordinator Reachability

def Bare (s:CoordinatorState) (identity:MemberIdentity):Prop:=
 s.memberTokens.lookup identity=none ∧ s.memberRefs.lookup identity=none ∧
  s.pendingJoins.lookup identity=none

/-- The six maps fit together at one identity. -/
structure Tidy (node:Coordinator) (s:CoordinatorState) (identity:MemberIdentity):Prop where
 own:identity=node.selfIdentity → Bare s identity
 keyed:∀member,s.members.lookup identity=some member → member.identity=identity
 pending:identity≠node.selfIdentity → ∀member,s.members.lookup identity=some member →
  (member.status=.joining ↔ (s.pendingJoins.lookup identity).isSome)
 credentials:identity≠node.selfIdentity →
  ∀member,s.members.lookup identity=some member → member.Active →
   (s.memberTokens.lookup identity).isSome ∧ (s.memberRefs.lookup identity).isSome
 bare:(∀member,s.members.lookup identity=some member → ¬member.Active) → Bare s identity

variable {identity:MemberIdentity} {s:CoordinatorState}

lemma Tidy.left {node:Coordinator} (h:Tidy node s identity) (member:ClusterMember)
  (hm:s.members.lookup identity=some member) (hleft:member.status=.left):
  Bare s identity:=by
 refine h.bare fun found hfound hactive=>?_
 rw [hm] at hfound
 cases hfound
 exact hactive hleft

structure Inv (node:Coordinator) (s:CoordinatorState):Prop where
 own:(s.members.lookup node.selfIdentity).isSome
 size:s.members.keys.length≤node.config.memberLimit
 names:∀first second member member',s.members.lookup first=some member →
  s.members.lookup second=some member' → member.Active → member'.Active →
  first.systemName=second.systemName → first=second
 disjoint:∀identity∈s.retiredIdentities,s.members.lookup identity=none
 retired:s.retiredIdentities.card≤node.config.retiredIdentityLimit
 order:node.selfIdentity∉s.leftOrder
 tidy:∀identity,Tidy node s identity

lemma Inv.keyed {node:Coordinator} (h:Inv node s):
  Keyed s.members:=fun identity=>(h.tidy identity).keyed

structure Alters (s t:CoordinatorState) (identity:MemberIdentity):Prop where
 members:∀other,other≠identity → t.members.lookup other=s.members.lookup other
 tokens:∀other,other≠identity → t.memberTokens.lookup other=s.memberTokens.lookup other
 refs:∀other,other≠identity → t.memberRefs.lookup other=s.memberRefs.lookup other
 pending:∀other,other≠identity → t.pendingJoins.lookup other=s.pendingJoins.lookup other

section

variable {s t u:CoordinatorState} {identity:MemberIdentity}

lemma Alters.trans (h:Alters s t identity) (h':Alters t u identity):
  Alters s u identity where
 members other hne:=(h'.members other hne).trans (h.members other hne)
 tokens other hne:=(h'.tokens other hne).trans (h.tokens other hne)
 refs other hne:=(h'.refs other hne).trans (h.refs other hne)
 pending other hne:=(h'.pending other hne).trans (h.pending other hne)

lemma alters_advance (s:CoordinatorState) (member:ClusterMember):
  Alters s (s.advance member) member.identity where
 members _ hne:=lookup_replaceMember_ne s.toMemberView hne
 tokens _ _:=rfl
 refs _ _:=rfl
 pending _ _:=rfl

lemma alters_revokeMember (s:CoordinatorState) (identity:MemberIdentity):
  Alters s (s.revokeMember identity) identity where
 members _ _:=rfl
 tokens _ hne:=AList.lookup_erase_ne hne
 refs _ hne:=AList.lookup_erase_ne hne
 pending _ hne:=AList.lookup_erase_ne hne

lemma alters_removeMember (s:CoordinatorState) (identity:MemberIdentity):
  Alters s (s.removeMember identity) identity where
 members _ hne:=AList.lookup_erase_ne hne
 tokens _ _:=rfl
 refs _ _:=rfl
 pending _ _:=rfl

lemma leftOrder_revokeMember (s:CoordinatorState) (identity:MemberIdentity):
  (s.revokeMember identity).leftOrder ⊆ identity::s.leftOrder:=by
 intro other hmem
 change other∈ite _ _ _ at hmem
 split_ifs at hmem
 · rcases List.mem_append.1 hmem with hmem|hmem
   · exact List.mem_cons_of_mem _ hmem
   · rw [List.mem_singleton.1 hmem]
     exact List.mem_cons_self
 · exact List.mem_cons_of_mem _ hmem

lemma bare_revokeMember (s:CoordinatorState) (identity:MemberIdentity):
  Bare (s.revokeMember identity) identity:=
 ⟨AList.lookup_erase _ _,AList.lookup_erase _ _,AList.lookup_erase _ _⟩

variable {node:Coordinator}

lemma Tidy.of_alters {other:MemberIdentity} (h:Tidy node s other)
  (ha:Alters s t identity) (hne:other≠identity):Tidy node t other:=by
 have hbare:Bare s other → Bare t other:=by
  intro ⟨htoken,href,hpending⟩
  exact ⟨(ha.tokens other hne).trans htoken,(ha.refs other hne).trans href,
   (ha.pending other hne).trans hpending⟩
 have hmembers:=ha.members other hne
 refine ⟨fun ho=>hbare (h.own ho),?_,?_,?_,?_⟩
 · intro member hm
   exact h.keyed member (hmembers▸hm)
 · intro ho member hm
   rw [ha.pending other hne]
   exact h.pending ho member (hmembers▸hm)
 · intro ho member hm
   rw [ha.tokens other hne,ha.refs other hne]
   exact h.credentials ho member (hmembers▸hm)
 · intro hnone
   exact hbare (h.bare fun member hm=>hnone member (hmembers.trans hm))

lemma tidy_of_absent (h:s.members.lookup identity=none) (hbare:Bare s identity):
  Tidy node s identity:=by
 refine ⟨fun _=>hbare,?_,?_,?_,fun _=>hbare⟩ <;>
 · intros
   simp_all

lemma tidy_of_left {member:ClusterMember} (hm:s.members.lookup identity=some member)
  (hid:member.identity=identity) (hleft:member.status=.left) (hbare:Bare s identity):
  Tidy node s identity:=by
 have hget:∀other,s.members.lookup identity=some other → other=member:=
  fun other ho=>Option.some.inj (ho.symm.trans hm)
 refine ⟨fun _=>hbare,?_,?_,?_,fun _=>hbare⟩
 · intro other ho
   rw [hget other ho]
   exact hid
 · intro _ other ho
   rw [hget other ho,hleft,hbare.2.2]
   exact ⟨nofun,nofun⟩
 · intro _ other ho hactive
   rw [hget other ho] at hactive
   exact absurd hleft hactive

lemma tidy_of_active {member:ClusterMember} (hm:s.members.lookup identity=some member)
  (hid:member.identity=identity) (hne:identity≠node.selfIdentity) (hactive:member.Active)
  (hpending:member.status=.joining ↔ (s.pendingJoins.lookup identity).isSome)
  (htoken:(s.memberTokens.lookup identity).isSome)
  (href:(s.memberRefs.lookup identity).isSome):Tidy node s identity:=by
 have hget:∀other,s.members.lookup identity=some other → other=member:=
  fun other ho=>Option.some.inj (ho.symm.trans hm)
 refine ⟨fun hself=>absurd hself hne,?_,?_,fun _ _ _ _=>⟨htoken,href⟩,
  fun hnone=>absurd hactive (hnone member hm)⟩
 · intro other ho
   rw [hget other ho]
   exact hid
 · intro _ other ho
   rw [hget other ho]
   exact hpending

lemma Inv.of_alters (h:Inv node s) (ha:Alters s t identity)
  (hown:node.selfIdentity=identity → (t.members.lookup identity).isSome)
  (hsize:t.members.keys.length≤node.config.memberLimit)
  (hnames:∀member,t.members.lookup identity=some member → member.Active →
   ∀other member',other≠identity → s.members.lookup other=some member' →
    member'.Active → other.systemName≠identity.systemName)
  (hdisjoint:∀other∈t.retiredIdentities,t.members.lookup other=none)
  (hretired:t.retiredIdentities.card≤node.config.retiredIdentityLimit)
  (horder:node.selfIdentity∉t.leftOrder) (htidy:Tidy node t identity):Inv node t where
 own:=by
  by_cases hself:node.selfIdentity=identity
  · rw [hself]
    exact hown hself
  · rw [ha.members _ hself]
    exact h.own
 size:=hsize
 names:=by
  intro first second member member' hfirst hsecond hactive hactive' hname
  by_cases hf:first=identity
  · by_cases hs:second=identity
    · rw [hf,hs]
    · subst hf
      rw [ha.members second hs] at hsecond
      exact absurd hname.symm (hnames member hfirst hactive second member' hs hsecond hactive')
  · rw [ha.members first hf] at hfirst
    by_cases hs:second=identity
    · subst hs
      exact absurd hname (hnames member' hsecond hactive' first member hf hfirst hactive)
    · rw [ha.members second hs] at hsecond
      exact h.names first second member member' hfirst hsecond hactive hactive' hname
 disjoint:=hdisjoint
 retired:=hretired
 order:=horder
 tidy:=by
  intro other
  by_cases ho:other=identity
  · rw [ho]
    exact htidy
  · exact (h.tidy other).of_alters ha ho

end

def Departed (s:CoordinatorState) (identity:MemberIdentity):Prop:=
 identity∈s.retiredIdentities ∨ ∃member,s.members.lookup identity=some member ∧
  member.status.Departing

/-- `t` is `s` or comes after it: once the cluster is formed, one revision has one list of
 members. -/
structure Later (s t:CoordinatorState):Prop where
 revision:s.revision≤t.revision
 members:s.revision=t.revision → 0<s.revision → t.members=s.members
 departed:∀identity,Departed s identity → Departed t identity

lemma Later.refl (s:CoordinatorState):Later s s:=⟨le_rfl,fun _ _=>rfl,fun _ h=>h⟩

structure Section (node:Coordinator) (s t:CoordinatorState):Prop where
 inv:Inv node t
 self:t.members.lookup node.selfIdentity=s.members.lookup node.selfIdentity
 state:t.state=s.state
 settled:t.startupSettled=s.startupSettled
 later:Later s t

lemma Section.refl {node:Coordinator} (h:Inv node s):
  Section node s s:=⟨h,rfl,rfl,rfl,.refl s⟩

structure Updates (s t:CoordinatorState) (identity:MemberIdentity)
  (member member':ClusterMember):Prop where
 alters:Alters s t identity
 before:s.members.lookup identity=some member
 after:t.members.lookup identity=some member'
 active:member'.Active → member.Active
 departing:member.status.Departing → member'.status.Departing
 keys:t.members.keys.length=s.members.keys.length
 retired:t.retiredIdentities=s.retiredIdentities
 order:t.leftOrder ⊆ identity::s.leftOrder
 state:t.state=s.state
 settled:t.startupSettled=s.startupSettled

section

variable {node:Coordinator} {s t u:CoordinatorState} {identity:MemberIdentity}
 {member member':ClusterMember}

lemma advance_updates {member:ClusterMember} (member':ClusterMember)
  (hm:s.members.lookup member'.identity=some member) (hactive:member'.Active → member.Active)
  (hdeparting:member.status.Departing → member'.status.Departing):
  Updates s (s.advance member') member'.identity member member' where
 alters:=alters_advance s member'
 before:=hm
 after:=lookup_replaceMember_self s.toMemberView member'
 active:=hactive
 departing:=hdeparting
 keys:=keys_replaceMember_of_mem s.toMemberView
  (AList.lookup_isSome.1 (hm▸Option.isSome_some))
 retired:=rfl
 order:=List.subset_cons_self _ _
 state:=rfl
 settled:=rfl

section

variable (hu:Updates s t identity member member')
include hu

lemma Updates.inv (h:Inv node s)
  (htidy:Tidy node t identity) (horder:node.selfIdentity∉t.leftOrder):Inv node t:=by
 have hne:∀other,s.members.lookup other=none → other≠identity:=by
  rintro other hnone rfl
  rw [hu.before] at hnone
  cases hnone
 refine h.of_alters hu.alters ?_ (hu.keys▸h.size) ?_ ?_ (hu.retired▸h.retired) horder htidy
 · intro
   rw [hu.after]
   rfl
 · intro updated hupdated hactive other found hother hfound hfoundActive hname
   rw [hu.after] at hupdated
   cases hupdated
   exact hother (h.names other identity found member hfound hu.before hfoundActive
    (hu.active hactive) hname)
 · intro other hother
   rw [hu.retired] at hother
   have hnone:=h.disjoint other hother
   rw [hu.alters.members other (hne other hnone)]
   exact hnone

lemma Updates.later (hrevision:t.revision=s.revision+1):Later s t where
 revision:=by
  rw [hrevision]
  exact Nat.le_succ _
 members heq:=by
  rw [hrevision] at heq
  exact absurd heq (Nat.ne_of_lt (Nat.lt_succ_self _))
 departed:=by
  rintro other (hretired|⟨found,hfound,hstatus⟩)
  · exact Or.inl (hu.retired▸hretired)
  · by_cases ho:other=identity
    · subst ho
      rw [hu.before] at hfound
      cases hfound
      exact Or.inr ⟨member',hu.after,hu.departing hstatus⟩
    · exact Or.inr ⟨found,(hu.alters.members other ho).trans hfound,hstatus⟩

lemma Updates.toSection (h:Inv node s)
  (hrevision:t.revision=s.revision+1) (hne:identity≠node.selfIdentity)
  (htidy:Tidy node t identity):Section node s t where
 inv:=by
  refine hu.inv h htidy fun hmem=>?_
  rcases List.mem_cons.1 (hu.order hmem) with heq|hmem
  · exact hne heq.symm
  · exact h.order hmem
 self:=hu.alters.members _ hne.symm
 state:=hu.state
 settled:=hu.settled
 later:=hu.later hrevision

lemma Updates.revokeMember  :
  Updates s (t.revokeMember identity) identity member member' where
 alters:=hu.alters.trans (alters_revokeMember t identity)
 before:=hu.before
 after:=hu.after
 active:=hu.active
 departing:=hu.departing
 keys:=hu.keys
 retired:=hu.retired
 order:=by
  intro other hmem
  rcases List.mem_cons.1 (leftOrder_revokeMember t identity hmem) with rfl|hmem
  · exact List.mem_cons_self
  · exact hu.order hmem
 state:=hu.state
 settled:=hu.settled

end

end

section

variable (node:Coordinator) (s:CoordinatorState)

lemma handleJoinConfirm_cases (message:JoinConfirm) (source:MemberIdentity) (now:ℤ):
  handleJoinConfirm node s message source now=(s,false) ∨
  ∃member,s.members.lookup source=some member ∧ member.status=.joining ∧
   s.memberTokens.lookup source=some message.membershipToken ∧
   handleJoinConfirm node s message source now=({ s with
    pendingJoins:=s.pendingJoins.erase source
    lastEvidence:=s.lastEvidence.insert source now }.advance
     { member with status:=.up },true):=by
 unfold handleJoinConfirm
 split
 · split
   · rename_i member requestId deadline hm hp
     split
     · rename_i hc
       exact Or.inr ⟨member,hm,hc.1,hc.2.2.2,rfl⟩
     · exact Or.inl rfl
   · exact Or.inl rfl
 · exact Or.inl rfl

lemma handleHeartbeat_cases (message:Heartbeat) (source:MemberIdentity) (now:ℤ):
  handleHeartbeat node s message source now=(s,none) ∨
  ∃member t became,s.members.lookup source=some member ∧ member.status=.up ∧
   s.memberTokens.lookup source=some message.membershipToken ∧
   (became=false ∧ t={ s with
    lastHeartbeatSequence:=s.lastHeartbeatSequence.insert source (message.sequence:ℤ)
    lastEvidence:=s.lastEvidence.insert source now } ∨
    became=true ∧ t={ s with
     lastHeartbeatSequence:=s.lastHeartbeatSequence.insert source (message.sequence:ℤ)
     lastEvidence:=s.lastEvidence.insert source now }.advance
      { member with reachability:=.reachable }) ∧
   handleHeartbeat node s message source now=(t,some (notice node t source
    (.heartbeatAck message.membershipToken message.sequence),became)):=by
 unfold handleHeartbeat
 split
 · split
   · rename_i member hm
     by_cases hc:member.status=.up ∧
      s.memberTokens.lookup source=some message.membershipToken ∧
      (s.memberRefs.lookup source).isSome ∧
      (s.lastHeartbeatSequence.lookup source).getD (-1) < message.sequence
     · rw [if_pos hc]
       refine Or.inr ⟨member,_,_,hm,hc.1,hc.2.1,?_,rfl⟩
       by_cases hunreachable:member.reachability=.unreachable
       · rw [if_pos hunreachable,decide_eq_true hunreachable]
         exact Or.inr ⟨rfl,rfl⟩
       · rw [if_neg hunreachable,decide_eq_false hunreachable]
         exact Or.inl ⟨rfl,rfl⟩
     · rw [if_neg hc]
       exact Or.inl rfl
   · exact Or.inl rfl
 · exact Or.inl rfl

lemma handleLeave_cases (message:Leave) (source:MemberIdentity):
  handleLeave node s message source=(s,none) ∨
  ∃member,s.members.lookup source=some member ∧
   s.memberTokens.lookup source=some message.membershipToken ∧
   (member.status=.up ∧ handleLeave node s message source =
    (s.advance { member with status:=.leaving },some true) ∨
    member.status≠.up ∧ handleLeave node s message source=(s,some false)):=by
 unfold handleLeave
 split
 · split
   · rename_i member hm
     split
     · rename_i hc
       refine Or.inr ⟨member,hm,hc.1,?_⟩
       split
       · rename_i hup
         exact Or.inl ⟨hup,rfl⟩
       · rename_i hup
         exact Or.inr ⟨hup,rfl⟩
     · exact Or.inl rfl
   · exact Or.inl rfl
 · exact Or.inl rfl

variable {node s} in
lemma running_of_down {result:CoordinatorState×Bool}
  (h:down node s identity=.ok result):s.state=.running:=by
 unfold down at h
 simp only [bind_reject_eq_ok] at h
 exact Decidable.not_not.1 h.2.1

variable {node s} in
lemma down_cases {t:CoordinatorState} {changed:Bool} (h:down node s identity=.ok (t,changed)):
  t=s ∨ ∃member,s.members.lookup identity=some member ∧ member.status=.up ∧
   identity≠node.selfIdentity ∧ s.state=.running ∧
   t=(s.advance { member with status:=.left }).revokeMember identity:=by
 unfold down at h
 simp only [bind_reject_eq_ok] at h
 obtain ⟨hne,hrunning,h⟩:=h
 cases hm:s.members.lookup identity with
 | none=>
  rw [hm] at h
  cases h
  exact Or.inl rfl
 | some member=>
  rw [hm] at h
  dsimp only at h
  split at h
  · cases h
    exact Or.inl rfl
  · simp only [bind_reject_eq_ok] at h
    obtain ⟨hup,-,h⟩:=h
    cases h
    exact Or.inr ⟨member,rfl,Decidable.not_not.1 hup,hne,Decidable.not_not.1 hrunning,rfl⟩

end

section

variable {node:Coordinator} {s t:CoordinatorState}

variable {status:MemberStatus} {member':ClusterMember} {u:CoordinatorState}

lemma Inv.of_same (h:Inv node s) (hmembers:t.members=s.members)
  (htokens:t.memberTokens=s.memberTokens) (hrefs:t.memberRefs=s.memberRefs)
  (hpending:t.pendingJoins=s.pendingJoins) (hretired:t.retiredIdentities=s.retiredIdentities)
  (horder:t.leftOrder ⊆ s.leftOrder):Inv node t where
 own:=hmembers▸h.own
 size:=hmembers▸h.size
 names:=hmembers▸h.names
 disjoint:=hmembers▸hretired▸h.disjoint
 retired:=hretired▸h.retired
 order hmem:=h.order (horder hmem)
 tidy identity:=
  { own:=by
     unfold Bare
     rw [htokens,hrefs,hpending]
     exact (h.tidy identity).own
    keyed:=hmembers▸(h.tidy identity).keyed
    pending:=by
     rw [hmembers,hpending]
     exact (h.tidy identity).pending
    credentials:=by
     rw [hmembers,htokens,hrefs]
     exact (h.tidy identity).credentials
    bare:=by
     unfold Bare
     rw [hmembers,htokens,hrefs,hpending]
     exact (h.tidy identity).bare }

lemma Inv.ne_self_of_token (h:Inv node s) {token:UUID}
  (htoken:s.memberTokens.lookup identity=some token):identity≠node.selfIdentity:=by
 intro hself
 rw [((h.tidy identity).own hself).1] at htoken
 cases htoken

variable {member:ClusterMember}

lemma active_of_status (hstatus:member.status=status) (hne:status≠.left):member.Active:=by
 unfold ClusterMember.Active
 rw [hstatus]
 exact hne

lemma departing_of_status (hstatus:member.status=status) (hnot:¬status.Departing):
  member.status.Departing → member'.status.Departing:=
 fun hdeparting=>absurd (hstatus▸hdeparting) hnot

lemma handleJoinConfirm_section (h:Inv node s) (message:JoinConfirm)
  (source:MemberIdentity) (now:ℤ):
  Section node s (handleJoinConfirm node s message source now).1:=by
 obtain heq|⟨member,hm,hjoining,htoken,heq⟩:=
  handleJoinConfirm_cases node s message source now
 · rw [heq]
   exact .refl h
 · rw [heq]
   have hne:=h.ne_self_of_token htoken
   obtain rfl:=h.keyed source member hm
   have hactive:member.Active:=active_of_status hjoining nofun
   obtain ⟨hsome,href⟩:=(h.tidy _).credentials hne member hm hactive
   let erased:CoordinatorState:={ s with
    pendingJoins:=s.pendingJoins.erase member.identity
    lastEvidence:=s.lastEvidence.insert member.identity now }
   have herased:Alters s erased member.identity:=
    ⟨fun _ _=>rfl,fun _ _=>rfl,fun _ _=>rfl,
     fun _ hother=>AList.lookup_erase_ne hother⟩
   let up:ClusterMember:={ member with status:=.up }
   have hu:Updates s (erased.advance up) member.identity member up:=
    { advance_updates (s := erased) up hm (fun _=>hactive)
       (departing_of_status hjoining (by decide)) with
      alters:=herased.trans (alters_advance erased up)
      before:=hm }
   refine hu.toSection h rfl hne (tidy_of_active hu.after rfl hne nofun ?_ hsome href)
   change _ ↔ ((s.pendingJoins.erase member.identity).lookup member.identity).isSome=true
   rw [AList.lookup_erase]
   exact ⟨nofun,nofun⟩

lemma advance_section (h:Inv node s) (hm:s.members.lookup member.identity=some member)
  (hid:member'.identity=member.identity) (hne:member.identity≠node.selfIdentity)
  (hup:member.status=.up) (hstatus:member'.status=.up ∨ member'.status=.leaving):
  Section node s (s.advance member'):=by
 have hactive:member.Active:=active_of_status hup nofun
 have hactive':member'.Active:=by
  rcases hstatus with hstatus|hstatus
  · exact active_of_status hstatus nofun
  · exact active_of_status hstatus nofun
 obtain ⟨hsome,href⟩:=(h.tidy _).credentials hne member hm hactive
 rw [←hid] at hm hne hsome href
 have hu:=advance_updates member' hm (fun _=>hactive) (departing_of_status hup (by decide))
 refine hu.toSection h rfl hne (tidy_of_active hu.after rfl hne hactive' ?_ hsome href)
 have hpending:=(h.tidy _).pending hne member hm
 rw [hup] at hpending
 change _ ↔ (s.pendingJoins.lookup member'.identity).isSome=true
 rw [←hpending]
 refine ⟨fun hjoining=>?_,nofun⟩
 rw [hjoining] at hstatus
 exact absurd hstatus (by decide)

lemma Section.of_same (h:Inv node s) (hmembers:t.members=s.members)
  (htokens:t.memberTokens=s.memberTokens) (hrefs:t.memberRefs=s.memberRefs)
  (hpending:t.pendingJoins=s.pendingJoins) (hretired:t.retiredIdentities=s.retiredIdentities)
  (horder:t.leftOrder ⊆ s.leftOrder) (hstate:t.state=s.state)
  (hsettled:t.startupSettled=s.startupSettled) (hrevision:t.revision=s.revision):
  Section node s t where
 inv:=h.of_same hmembers htokens hrefs hpending hretired horder
 self:=by rw [hmembers]
 state:=hstate
 settled:=hsettled
 later:=by
  refine ⟨hrevision.ge,fun _ _=>hmembers,?_⟩
  unfold Departed
  rw [hmembers,hretired]
  exact fun _ hdeparted=>hdeparted

lemma Later.trans (h:Later s t) (h':Later t u):Later s u where
 revision:=h.revision.trans h'.revision
 members heq hpos:=by
  have hst:s.revision=t.revision:=h.revision.antisymm (heq▸h'.revision)
  exact (h'.members (hst▸heq) (hst▸hpos)).trans (h.members hst hpos)
 departed identity hdeparted:=h'.departed identity (h.departed identity hdeparted)

lemma Section.trans (h:Section node s t) (h':Section node t u):
  Section node s u:=
 ⟨h'.inv,h'.self.trans h.self,h'.state.trans h.state,h'.settled.trans h.settled,
  h.later.trans h'.later⟩

lemma handleHeartbeat_section (h:Inv node s) (message:Heartbeat) (source:MemberIdentity) (now:ℤ):
  Section node s (handleHeartbeat node s message source now).1:=by
 obtain heq|⟨member,t,_,hm,hup,htoken,ht,heq⟩:=
  handleHeartbeat_cases node s message source now
 · rw [heq]
   exact .refl h
 · rw [heq]
   have hne:=h.ne_self_of_token htoken
   obtain rfl:=h.keyed source member hm
   have hseen:=Section.of_same (t := { s with
    lastHeartbeatSequence:=
     s.lastHeartbeatSequence.insert member.identity (message.sequence:ℤ)
    lastEvidence:=s.lastEvidence.insert member.identity now })
    h rfl rfl rfl rfl rfl (List.Subset.refl _) rfl rfl rfl
   rcases ht with ⟨-,rfl⟩|⟨-,rfl⟩
   · exact hseen
   · exact hseen.trans (advance_section hseen.inv hm rfl hne hup (Or.inl hup))

lemma handleLeave_section (h:Inv node s) (message:Leave) (source:MemberIdentity):
  Section node s (handleLeave node s message source).1:=by
 obtain heq|⟨member,hm,htoken,⟨hup,heq⟩|⟨_,heq⟩⟩:=
  handleLeave_cases node s message source
 · rw [heq]
   exact .refl h
 · rw [heq]
   have hne:=h.ne_self_of_token htoken
   obtain rfl:=h.keyed source member hm
   exact advance_section h hm rfl hne hup (Or.inr rfl)
 · rw [heq]
   exact .refl h

lemma leave_section (h:Inv node s) (hm:s.members.lookup member.identity=some member)
  (hne:member.identity≠node.selfIdentity) (hactive:member.Active):Section node s
   ((s.advance { member with status:=.left }).revokeMember member.identity):=by
 have hu:=(advance_updates (s := s) { member with status:=.left } hm
  (fun _=>hactive) (fun _=>Or.inr rfl)).revokeMember
 exact hu.toSection h rfl hne (tidy_of_left hu.after rfl rfl (bare_revokeMember _ _))

lemma down_section (h:Inv node s) {changed:Bool}
  (hdown:down node s identity=.ok (t,changed)):Section node s t:=by
 obtain rfl|⟨member,hm,hup,hne,_,rfl⟩:=down_cases hdown
 · exact .refl h
 · obtain rfl:=h.keyed identity member hm
   exact leave_section h hm hne (active_of_status hup nofun)

lemma finishLeave_section (h:Inv node s)
  (hm:s.members.lookup identity=some member) (hne:identity≠node.selfIdentity)
  (hactive:member.Active) (requestId:UUID):
  Section node s (finishLeave node s identity requestId).1:=by
 obtain rfl:=h.keyed identity member hm
 unfold finishLeave
 rw [hm]
 dsimp only
 rw [if_neg hactive]
 exact leave_section h hm hne hactive

lemma Inv.remove (h:Inv node s) (ha:Alters s t identity)
  (hne:identity≠node.selfIdentity) (hnone:t.members.lookup identity=none)
  (hbare:Bare t identity) (hkeys:t.members.keys.length ≤ s.members.keys.length)
  (hretired:∀other∈t.retiredIdentities,other=identity ∨ other∈s.retiredIdentities)
  (hcard:t.retiredIdentities.card≤node.config.retiredIdentityLimit)
  (horder:t.leftOrder ⊆ identity::s.leftOrder):Inv node t:=by
 refine h.of_alters ha (fun hself=>absurd hself.symm hne) (hkeys.trans h.size) ?_ ?_ hcard ?_
  (tidy_of_absent hnone hbare)
 · intro member hm
   rw [hnone] at hm
   cases hm
 · intro other hother
   by_cases heq:other=identity
   · rw [heq]
     exact hnone
   · rw [ha.members other heq]
     exact h.disjoint other ((hretired other hother).resolve_left heq)
 · intro hmem
   rcases List.mem_cons.1 (horder hmem) with heq|hmem
   · exact hne heq.symm
   · exact h.order hmem

lemma keys_removeMember_le (s:CoordinatorState) (identity:MemberIdentity):
  (s.removeMember identity).members.keys.length ≤ s.members.keys.length:=by
 change (s.members.erase identity).keys.length≤_
 rw [AList.keys_erase]
 exact List.length_erase_le

lemma expireProvisionalJoin_section (h:Inv node s) (identity:MemberIdentity)
  (requestId:UUID):Section node s (expireProvisionalJoin s identity requestId):=by
 unfold expireProvisionalJoin
 split
 · rename_i hc
   obtain ⟨pending,hpending,-⟩:=Option.map_eq_some_iff.1 hc.1
   obtain ⟨member,hm,hjoining⟩:=Option.map_eq_some_iff.1 hc.2
   have hne:identity≠node.selfIdentity:=by
    intro hself
    rw [((h.tidy identity).own hself).2.2] at hpending
    cases hpending
   let popped:CoordinatorState:={ s with pendingJoins:=s.pendingJoins.erase identity }
   have hpopped:Alters s popped identity:=
    ⟨fun _ _=>rfl,fun _ _=>rfl,fun _ _=>rfl,
     fun _ hother=>AList.lookup_erase_ne hother⟩
   let removed:=(popped.removeMember identity).revokeMember identity
   have ha:Alters s removed identity:=
    (hpopped.trans (alters_removeMember popped identity)).trans (alters_revokeMember _ identity)
   have hinv:Inv node removed:=
    h.remove ha hne (AList.lookup_erase _ _) (bare_revokeMember _ _)
     (keys_removeMember_le popped identity) (fun _ hmem=>Or.inr hmem) h.retired
     (leftOrder_revokeMember _ _)
   refine ⟨hinv.of_same rfl rfl rfl rfl rfl (List.Subset.refl _),ha.members _ hne.symm,rfl,rfl,
    Nat.le_succ _,fun heq=>absurd heq (Nat.ne_of_lt (Nat.lt_succ_self _)),?_⟩
   rintro other (hretired|⟨found,hfound,hdeparting⟩)
   · exact Or.inl hretired
   · have hother:other≠identity:=by
      rintro rfl
      rw [hm] at hfound
      cases hfound
      exact absurd (hjoining▸hdeparting) (by decide)
     exact Or.inr ⟨found,(ha.members other hother).trans hfound,hdeparting⟩
 · exact .refl h

/-- Members as the registry holds them, each listed once. -/
structure Listed (s:CoordinatorState) (items:List (Σ _:MemberIdentity,ClusterMember)):Prop where
 nodup:items.NodupKeys
 keyed:∀item∈items,item.2.identity=item.1
 held:∀item∈items,s.members.lookup item.1=some item.2

lemma Inv.listed (h:Inv node s):Listed s s.members.entries where
 nodup:=s.members.nodupKeys
 keyed item hmem:=h.keyed item.1 item.2 (AList.mem_lookup_iff.2 hmem)
 held _ hmem:=AList.mem_lookup_iff.2 hmem

section

variable {item:Σ _:MemberIdentity,ClusterMember} {rest:List (Σ _:MemberIdentity,ClusterMember)}
 (h:Listed s (item::rest))
include h

lemma Listed.tail : Listed s rest where
 nodup:=(List.nodupKeys_cons.1 h.nodup).2
 keyed item hmem:=h.keyed item (List.mem_cons_of_mem _ hmem)
 held item hmem:=h.held item (List.mem_cons_of_mem _ hmem)

lemma Listed.head : item.2.identity=item.1 ∧ s.members.lookup item.2.identity=some item.2:=by
 have hid:=h.keyed _ List.mem_cons_self
 exact ⟨hid,hid▸h.held _ List.mem_cons_self⟩

lemma Listed.advance : Listed (s.advance { item.2 with reachability:=.unreachable }) rest where
 nodup:=h.tail.nodup
 keyed:=h.tail.keyed
 held other hmem:=by
  refine ((alters_advance s { item.2 with reachability:=.unreachable }).members other.1
   fun heq=>?_).trans (h.tail.held other hmem)
  have hkey:other.1∈rest.keys:=List.mem_keys_of_mem hmem
  rw [heq.trans h.head.1] at hkey
  exact (List.nodupKeys_cons.1 h.nodup).1 hkey

end

lemma detectUnreachableMembers_section (now:ℤ) {items:List (Σ _:MemberIdentity,ClusterMember)}
  (h:Inv node s) (hitems:Listed s items):
  Section node s (detectUnreachableMembers node now s items).1:=by
 induction items generalizing s with
 | nil=>exact .refl h
 | cons item rest ih=>
  unfold detectUnreachableMembers
  split
  · exact ih h hitems.tail
  · rename_i hc
    obtain ⟨hne,hc⟩:=not_or.1 hc
    have hup:item.2.status=.up:=Decidable.not_not.1 (not_or.1 hc).1
    obtain ⟨hid,hm⟩:=hitems.head
    have hstep:Section node s (s.advance { item.2 with reachability:=.unreachable }):=
     advance_section h hm rfl (hid▸hne) hup (Or.inl hup)
    exact hstep.trans (ih hstep.inv hitems.advance)

lemma reserveMemberCapacity_of_lt (hlt:s.members.keys.length<node.config.memberLimit)
  (order:List MemberIdentity):
  reserveMemberCapacity node s order=({ s with leftOrder:=order },true):=by
 cases order with
 | nil=>
  unfold reserveMemberCapacity
  rw [decide_eq_true hlt]
 | cons identity rest=>
  unfold reserveMemberCapacity
  rw [if_neg (Nat.not_le.2 hlt)]

lemma keys_retireMember_lt (hm:s.members.lookup identity=some member):
  (retireMember s identity).members.keys.length<s.members.keys.length:=by
 have hkey:identity∈s.members.keys:=
  AList.mem_keys.1 (AList.lookup_isSome.1 (hm▸Option.isSome_some))
 change (s.members.erase identity).keys.length<_
 rw [AList.keys_erase,List.length_erase_of_mem hkey]
 exact Nat.pred_lt (Nat.ne_of_gt (List.length_pos_of_mem hkey))

lemma leftOrder_retireMember (s:CoordinatorState) (identity:MemberIdentity):
  (retireMember s identity).leftOrder=s.leftOrder:=by
 refine if_neg ?_
 change ((s.members.erase identity).lookup identity).map _≠_
 rw [AList.lookup_erase]
 exact nofun

lemma reserveMemberCapacity_cases (hsize:s.members.keys.length≤node.config.memberLimit)
  (order:List MemberIdentity):∃rest,rest ⊆ order ∧
   (reserveMemberCapacity node s order=({ s with leftOrder:=rest },false) ∨
   s.members.keys.length<node.config.memberLimit ∧
    reserveMemberCapacity node s order=({ s with leftOrder:=rest },true) ∨
   ∃identity∈order,(s.members.lookup identity).map ClusterMember.status=some .left ∧
    ¬(identity∉s.retiredIdentities ∧
     node.config.retiredIdentityLimit ≤ s.retiredIdentities.card) ∧
    reserveMemberCapacity node s order =
     ({ retireMember s identity with leftOrder:=rest },true)):=by
 induction order with
 | nil=>
  refine ⟨[],List.Subset.refl _,?_⟩
  unfold reserveMemberCapacity
  by_cases hlt:s.members.keys.length<node.config.memberLimit
  · rw [decide_eq_true hlt]
    exact Or.inr (Or.inl ⟨hlt,rfl⟩)
  · rw [decide_eq_false hlt]
    exact Or.inl rfl
 | cons identity order ih=>
  unfold reserveMemberCapacity
  split
  · split
    · rename_i hleft
      split
      · exact ⟨order,List.subset_cons_self _ _,Or.inl rfl⟩
      · rename_i hroom
        obtain ⟨member,hm,-⟩:=Option.map_eq_some_iff.1 hleft
        refine ⟨order,List.subset_cons_self _ _,Or.inr (Or.inr
         ⟨identity,List.mem_cons_self,hleft,hroom,?_⟩)⟩
        exact reserveMemberCapacity_of_lt ((keys_retireMember_lt hm).trans_le hsize) order
    · obtain ⟨rest,hrest,hfails|hfits|⟨found,hfound,htombstone⟩⟩:=ih
      · exact ⟨rest,List.subset_cons_of_subset _ hrest,Or.inl hfails⟩
      · exact ⟨rest,List.subset_cons_of_subset _ hrest,Or.inr (Or.inl hfits)⟩
      · exact ⟨rest,List.subset_cons_of_subset _ hrest,
         Or.inr (Or.inr ⟨found,List.mem_cons_of_mem _ hfound,htombstone⟩)⟩
  · rename_i hlt
    exact ⟨identity::order,List.Subset.refl _,Or.inr (Or.inl ⟨Nat.not_le.1 hlt,rfl⟩)⟩

structure Reserved (node:Coordinator) (s t:CoordinatorState):Prop where
 inv:Inv node t
 room:t.members.keys.length<node.config.memberLimit
 shrinks:∀identity member,t.members.lookup identity=some member →
  s.members.lookup identity=some member
 retired:∀identity∈t.retiredIdentities,
  identity∈s.retiredIdentities ∨ (s.members.lookup identity).isSome
 self:t.members.lookup node.selfIdentity=s.members.lookup node.selfIdentity
 state:t.state=s.state
 settled:t.startupSettled=s.startupSettled
 revision:t.revision=s.revision
 departed:∀identity,Departed s identity → Departed t identity

lemma retireMember_reserved (h:Inv node s) (hne:identity≠node.selfIdentity)
  (hleft:(s.members.lookup identity).map ClusterMember.status=some .left)
  (hroom:¬(identity∉s.retiredIdentities ∧
   node.config.retiredIdentityLimit ≤ s.retiredIdentities.card))
  {rest:List MemberIdentity} (hrest:rest ⊆ s.leftOrder):
  Reserved node s { retireMember s identity with leftOrder:=rest }:=by
 obtain ⟨member,hm,-⟩:=Option.map_eq_some_iff.1 hleft
 have hfresh:identity∉s.retiredIdentities:=by
  intro hmem
  rw [h.disjoint identity hmem] at hm
  cases hm
 have hcard:s.retiredIdentities.card<node.config.retiredIdentityLimit:=
  Nat.not_le.1 fun hle=>hroom ⟨hfresh,hle⟩
 let named:CoordinatorState:=
  { s with retiredIdentities:=insert identity s.retiredIdentities }
 have hnamed:Alters s named identity:=
  ⟨fun _ _=>rfl,fun _ _=>rfl,fun _ _=>rfl,fun _ _=>rfl⟩
 have ha:Alters s (retireMember s identity) identity:=
  (hnamed.trans (alters_removeMember named identity)).trans (alters_revokeMember _ identity)
 have hnone:(retireMember s identity).members.lookup identity=none:=AList.lookup_erase _ _
 have hinv:Inv node (retireMember s identity):=by
  refine h.remove ha hne hnone (bare_revokeMember _ _) (keys_retireMember_lt hm).le
   (fun other hmem=>Finset.mem_insert.1 hmem) ?_ (leftOrder_revokeMember _ _)
  change (insert identity s.retiredIdentities).card≤_
  rw [Finset.card_insert_of_notMem hfresh]
  exact hcard
 have hkept:Inv node { retireMember s identity with leftOrder:=rest }:=
  hinv.of_same rfl rfl rfl rfl rfl ((leftOrder_retireMember s identity).symm▸hrest)
 refine ⟨hkept,(keys_retireMember_lt hm).trans_le h.size,?_,?_,ha.members _ hne.symm,rfl,rfl,
  rfl,?_⟩
 · intro other found hfound
   have hother:other≠identity:=by
    rintro rfl
    exact absurd (hnone.symm.trans hfound) nofun
   exact (ha.members other hother).symm.trans hfound
 · intro other hmem
   rcases Finset.mem_insert.1 hmem with rfl|hmem
   · exact Or.inr (hm▸Option.isSome_some)
   · exact Or.inl hmem
 · rintro other (hmem|⟨found,hfound,hdeparting⟩)
   · exact Or.inl (Finset.mem_insert_of_mem hmem)
   · by_cases hother:other=identity
     · rw [hother]
       exact Or.inl (Finset.mem_insert_self _ _)
     · exact Or.inr ⟨found,(ha.members other hother).trans hfound,hdeparting⟩

lemma reserveMemberCapacity_spec (h:Inv node s):(∃rest,rest ⊆ s.leftOrder ∧
   reserveMemberCapacity node s s.leftOrder=({ s with leftOrder:=rest },false)) ∨
  ∃t,Reserved node s t ∧ reserveMemberCapacity node s s.leftOrder=(t,true):=by
 obtain ⟨rest,hrest,hfails|⟨hlt,hfits⟩|⟨identity,hmem,hleft,hroom,heq⟩⟩:=
  reserveMemberCapacity_cases h.size s.leftOrder
 · exact Or.inl ⟨rest,hrest,hfails⟩
 · have hsame:Section node s { s with leftOrder:=rest }:=
    .of_same h rfl rfl rfl rfl rfl hrest rfl rfl rfl
   exact Or.inr ⟨_,⟨hsame.inv,hlt,fun _ _ hm=>hm,fun _ hmem=>Or.inl hmem,rfl,rfl,rfl,rfl,
    fun _ hdeparted=>hdeparted⟩,hfits⟩
 · have hne:identity≠node.selfIdentity:=by
    rintro rfl
    exact h.order hmem
   exact Or.inr ⟨_,retireMember_reserved h hne hleft hroom hrest,heq⟩

lemma alters_provision (node:Coordinator) (s:CoordinatorState) (identity:MemberIdentity)
  (reference:RemoteActorRef) (requestId token:UUID) (now:ℤ):
  Alters s (provision node s identity reference requestId token now) identity where
 members _ _:=rfl
 tokens _ hne:=AList.lookup_insert_ne hne
 refs _ hne:=AList.lookup_insert_ne hne
 pending _ hne:=AList.lookup_insert_ne hne

lemma tidy_provision
  (hm:s.members.lookup member.identity=some member) (hjoining:member.status=.joining)
  (hne:member.identity≠node.selfIdentity) (reference:RemoteActorRef) (requestId token:UUID) (now:ℤ):
  Tidy node (provision node s member.identity reference requestId token now)
   member.identity:=by
 have hmembers:(provision node s member.identity reference requestId token now).members.lookup
  member.identity=some member:=hm
 have hsome:∀ {β:Type} (map:AList fun _:MemberIdentity=>β) (value:β),
  ((map.insert member.identity value).lookup member.identity).isSome:=by
  intro β map value
  rw [AList.lookup_insert]
  rfl
 exact tidy_of_active hmembers rfl hne (active_of_status hjoining nofun)
  ⟨fun _=>hsome _ _,fun _=>hjoining⟩ (hsome _ _) (hsome _ _)

lemma provision_section (h:Inv node s)
  (hm:s.members.lookup member.identity=some member) (hjoining:member.status=.joining)
  (hne:member.identity≠node.selfIdentity) (reference:RemoteActorRef) (requestId token:UUID) (now:ℤ):
  Section node s (provision node s member.identity reference requestId token now):=by
 refine ⟨h.of_alters (alters_provision node s _ reference requestId token now)
  (fun hself=>absurd hself.symm hne) h.size ?_ h.disjoint h.retired h.order
  (tidy_provision hm hjoining hne reference requestId token now),rfl,rfl,rfl,le_rfl,
  fun _ _=>rfl,fun _ hdeparted=>hdeparted⟩
 intro found hfound hactive other member' hother hm' hactive' hname
 exact hother (h.names other _ member' found hm' hfound hactive' hactive hname)

lemma provision_advance_section (h:Inv node s) {reserved:CoordinatorState}
  (hr:Reserved node s reserved) (member:ClusterMember)
  (hnone:s.members.lookup member.identity=none) (hjoining:member.status=.joining)
  {reference:RemoteActorRef} {requestId:UUID}
  (hrefused:¬JoinRefused s member.identity requestId) (token:UUID) (now:ℤ):
  Section node s (provision node (reserved.advance member) member.identity reference requestId
   token now):=by
 obtain ⟨hnames,hrefused⟩:=not_or.1 hrefused
 have hfresh:member.identity∉reserved.retiredIdentities:=by
  intro hmem
  rcases hr.retired _ hmem with hmem|hsome
  · exact (not_or.1 hrefused).1 hmem
  · rw [hnone] at hsome
    cases hsome
 have hne:member.identity≠node.selfIdentity:=by
  intro hself
  have hown:=h.own
  rw [←hself,hnone] at hown
  cases hown
 have habsent:reserved.members.lookup member.identity=none:=by
  cases hfound:reserved.members.lookup member.identity with
  | none=>rfl
  | some found=>exact absurd (hnone.symm.trans (hr.shrinks _ found hfound)) nofun
 have hm:(reserved.advance member).members.lookup member.identity=some member:=
  lookup_replaceMember_self reserved.toMemberView member
 have hkeys:(reserved.advance member).members.keys.length=reserved.members.keys.length+1:=
  keys_replaceMember_of_notMem reserved.toMemberView (AList.lookup_eq_none.1 habsent)
 have ha:=(alters_advance reserved member).trans
  (alters_provision node (reserved.advance member) member.identity reference requestId
   token now)
 refine ⟨hr.inv.of_alters ha (fun hself=>absurd hself.symm hne) (hkeys▸hr.room) ?_ ?_
  hr.inv.retired hr.inv.order (tidy_provision hm hjoining hne reference requestId token now),
  (ha.members _ hne.symm).trans hr.self,hr.state,hr.settled,?_,?_,?_⟩
 · intro _ _ _ other found hother hfound hactive hname
   have hkept:=hr.shrinks other found hfound
   have hid:=(h.tidy other).keyed found hkept
   exact hnames ⟨found,mem_values.2 ⟨other,hkept⟩,hid▸hname,hid▸hother,hactive⟩
 · intro other hmem
   have hother:other≠member.identity:=by
    rintro rfl
    exact hfresh hmem
   exact (ha.members other hother).trans (hr.inv.disjoint other hmem)
 · exact hr.revision▸Nat.le_succ _
 · intro heq
   change s.revision=reserved.revision+1 at heq
   rw [hr.revision] at heq
   exact absurd heq (Nat.ne_of_lt (Nat.lt_succ_self _))
 · intro other hdeparted
   rcases hr.departed other hdeparted with hmem|⟨found,hfound,hdeparting⟩
   · exact Or.inl hmem
   · have hother:other≠member.identity:=by
      rintro rfl
      exact absurd (habsent.symm.trans hfound) nofun
     exact Or.inr ⟨found,(ha.members other hother).trans hfound,hdeparting⟩

lemma handleJoinRequest_spec (h:Inv node s) (hself:selfStatus node s≠some .joining)
  (message:JoinRequest) (source:MemberIdentity) (sourceEndpoint:Endpoint) (token:UUID)
  (now:ℤ) {record:Option Notice}
  (heq:handleJoinRequest node s message source sourceEndpoint token now=(t,record)):
  Section node s t ∧ (record=none ∨ ∃held member,
   record=some (notice node t source (.joinAccepted message.requestId held)) ∧
   t.members.lookup source=some member ∧ member.status=.joining):=by
 unfold handleJoinRequest at heq
 dsimp only at heq
 split at heq
 · cases heq
   exact ⟨.refl h,Or.inl rfl⟩
 split at heq
 · cases heq
   exact ⟨.refl h,Or.inl rfl⟩
 split at heq
 · cases heq
   exact ⟨.refl h,Or.inl rfl⟩
 rename_i hrefused
 split at heq
 · rename_i hsome
   obtain ⟨member,hm⟩:=Option.isSome_iff_exists.1 hsome
   have hjoining:member.status=.joining:=by
    by_contra hnot
    exact hrefused (Or.inr (Or.inr (Or.inl ⟨member,hm,hnot⟩)))
   have hne:source≠node.selfIdentity:=by
    rintro rfl
    exact hself (by rw [selfStatus,hm,Option.map_some,hjoining])
   obtain rfl:=h.keyed source member hm
   cases heq
   exact ⟨provision_section h hm hjoining hne _ _ _ _,Or.inr ⟨_,member,rfl,hm,hjoining⟩⟩
 · rename_i hsome
   have hnone:s.members.lookup source=none:=Option.not_isSome_iff_eq_none.1 hsome
   obtain ⟨rest,hrest,hfails⟩|⟨reserved,hr,hfits⟩:=reserveMemberCapacity_spec h
   · rw [hfails] at heq
     cases heq
     exact ⟨.of_same h rfl rfl rfl rfl rfl hrest rfl rfl rfl,Or.inl rfl⟩
   · rw [hfits] at heq
     cases heq
     let member:ClusterMember:=⟨source,sourceEndpoint,.joining,.reachable⟩
     exact ⟨provision_advance_section h hr member hnone rfl hrefused token now,
      Or.inr ⟨_,member,rfl,lookup_replaceMember_self reserved.toMemberView member,rfl⟩⟩

lemma tidy_self (h:Inv node s) (hm:t.members.lookup node.selfIdentity=some member)
  (hid:member.identity=node.selfIdentity) (htokens:t.memberTokens=s.memberTokens)
  (hrefs:t.memberRefs=s.memberRefs) (hpending:t.pendingJoins=s.pendingJoins):
  Tidy node t node.selfIdentity:=by
 have hbare:Bare t node.selfIdentity:=by
  unfold Bare
  rw [htokens,hrefs,hpending]
  exact (h.tidy _).own rfl
 refine ⟨fun _=>hbare,?_,fun hne=>absurd rfl hne,fun hne=>absurd rfl hne,
  fun _=>hbare⟩
 intro found hfound
 rw [hm] at hfound
 cases hfound
 exact hid

structure SelfChange (node:Coordinator) (s t:CoordinatorState) (status:MemberStatus):
  Prop where
 inv:Inv node t
 status:selfStatus node t=some status
 others:∀identity,identity≠node.selfIdentity →
  t.members.lookup identity=s.members.lookup identity
 settled:t.startupSettled=s.startupSettled
 departed:∀identity,Departed s identity → Departed t identity

lemma SelfChange.later (hc:SelfChange node s t status)
  (hrevision:t.revision=s.revision+1):Later s t:=
 ⟨hrevision▸Nat.le_succ _,
  fun heq=>absurd (heq.trans hrevision) (Nat.ne_of_lt (Nat.lt_succ_self _)),hc.departed⟩

lemma selfStatus_of_lookup (hm:s.members.lookup node.selfIdentity=some member):
  selfStatus node s=some member.status:=by
 rw [selfStatus,hm,Option.map_some]

lemma advance_selfChange (h:Inv node s)
  (hm:s.members.lookup node.selfIdentity=some member) (hactive:status≠.left → member.Active)
  (hdeparting:member.status.Departing → status.Departing):
  SelfChange node s (s.advance { member with status:=status }) status:=by
 have hid:=(h.tidy _).keyed member hm
 have hu:Updates s (s.advance { member with status:=status }) node.selfIdentity member
  { member with status:=status }:=by
  rw [←hid]
  rw [←hid] at hm
  exact advance_updates { member with status:=status } hm hactive hdeparting
 refine ⟨hu.inv h (tidy_self h hu.after hid rfl rfl rfl) h.order,selfStatus_of_lookup hu.after,
  hu.alters.members,rfl,(hu.later rfl).departed⟩

lemma setSelfStatus_spec (h:Inv node s) {old:MemberStatus} (status:MemberStatus)
  (hold:selfStatus node s=some old) (hactive:status≠.left → old≠.left)
  (hdeparting:old.Departing → status.Departing):
  SelfChange node s (setSelfStatus node status s) status ∧
   (setSelfStatus node status s).state=s.state ∧
   (setSelfStatus node status s).revision=s.revision+1:=by
 obtain ⟨member,hm,rfl⟩:=Option.map_eq_some_iff.1 hold
 have heq:setSelfStatus node status s=s.advance { member with status:=status }:=by
  unfold setSelfStatus
  rw [hm]
 rw [heq]
 exact ⟨advance_selfChange h hm hactive hdeparting,rfl,rfl⟩

lemma finishStop_spec (h:Inv node s):
  SelfChange node s (finishStop node s) .left ∧ (finishStop node s).state=.stopped ∧
   (finishStop node s).revision=s.revision ∧
   (selfStatus node s=some .left → (finishStop node s).members=s.members):=by
 obtain ⟨member,hm⟩:=Option.isSome_iff_exists.1 h.own
 have hstatus:=selfStatus_of_lookup hm
 unfold finishStop
 rw [hm]
 dsimp only
 by_cases hleft:member.status=.left
 · rw [if_pos hleft]
   have hinv:Inv node { s with state:=.stopped }:=
    h.of_same rfl rfl rfl rfl rfl (List.Subset.refl _)
   exact ⟨⟨hinv,hleft▸hstatus,fun _ _=>rfl,rfl,fun _ hdeparted=>hdeparted⟩,rfl,rfl,
    fun _=>rfl⟩
 · rw [if_neg hleft]
   have hc:SelfChange node s (s.advance { member with status:=.left }) .left:=
    advance_selfChange h hm (fun hne=>absurd rfl hne) (fun _=>Or.inr rfl)
   refine ⟨⟨hc.inv.of_same rfl rfl rfl rfl rfl (List.Subset.refl _),hc.status,hc.others,rfl,
    hc.departed⟩,rfl,rfl,fun hself=>?_⟩
   rw [hstatus] at hself
   exact absurd (Option.some.inj hself) hleft

end

end Movie.ClusterSections
