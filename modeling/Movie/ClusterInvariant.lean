import Movie.ClusterSections

/-!
# The membership a coordinator keeps

The invariant of a coordinator with its threads: the maps fit together, and so do the
points at which the threads stand.
-/
namespace Movie.ClusterInvariant

open Checked DurableModel Handshake Wire ClusterModel ClusterCoordinator ClusterSections
 Reachability

def Departs (node:Coordinator) (s:CoordinatorState) (identity:MemberIdentity):Prop:=
 identity≠node.selfIdentity ∧
  ∃member,s.members.lookup identity=some member ∧ member.Active ∧ member.status≠.up

@[grind cases]
structure Phases (starter:Starter) (worker:Worker) (stopper:Stopper) (state:RuntimeState)
  (settled:Bool) (status:Option MemberStatus) (revision:ℕ):Prop where
 joining:status=some .joining → revision=0
 fresh:state=.new → starter=.idle ∧ status=some .joining
 entered:starter=.entered → status=some .joining
 formed:starter=.formed ∨ starter=.launched → 0<revision
 working:worker≠.notStarted → 0<revision
 running:state=.running → 0<revision
 startDone:settled=true → starter=.done ∨ starter=.idle ∧ state≠.new
 stopping:stopper≠.idle → stopper≠.waiting → settled=true
 announcing:stopper=.announcing → status=some .up
 leaving:status=some .leaving → stopper=.departing
 ending:stopper=.ending → status=some .left ∨ revision=0

structure Sound (node:Coordinator) (r:CoordinatorRun):Prop where
 inv:Inv node r.data
 phases:Phases r.starter r.worker r.stopper r.data.state r.data.startupSettled
  (selfStatus node r.data) r.data.revision
 departs:∀identity requestId,r.worker=.leaving identity requestId →
  Departs node r.data identity

section

variable {starter:Starter} {worker:Worker} {stopper:Stopper} {state:RuntimeState}
 {settled:Bool} {status:Option MemberStatus} {revision revision':ℕ}

lemma Phases.worked (h:Phases starter worker stopper state settled status revision)
  (hpos:0<revision) (hle:revision ≤ revision') (worker':Worker):
  Phases starter worker' stopper state settled status revision':=by
 constructor <;> grind

lemma Phases.start (h:Phases .idle worker stopper .new settled status revision):
  Phases .entered worker stopper .starting settled status revision:=by
 constructor <;> grind

lemma Phases.form (h:Phases .entered worker stopper state settled status revision):
  Phases .formed worker stopper state settled (some .up) (revision+1):=by
 constructor <;> grind

lemma Phases.launch (h:Phases .formed worker stopper state settled status revision):
  Phases .launched .idle stopper state settled status revision:=by
 constructor <;> grind

lemma Phases.startReturns (h:Phases .launched worker stopper state settled status revision):
  Phases .done worker stopper (if state=.starting then .running else state) true status
   revision:=by
 constructor <;> grind

lemma Phases.startFails (h:Phases starter worker stopper state settled status revision)
  (hidle:starter≠.idle):
  Phases .done worker stopper (if state=.starting then .failed else state) true status
   revision:=by
 constructor <;> grind

lemma Phases.stop (h:Phases starter worker .idle state settled status revision):
  Phases starter worker .waiting .stopping (settled || decide (state=.new)) status
   revision:=by
 constructor <;> grind

lemma Phases.stopFails (h:Phases starter worker stopper state settled status revision)
  (hstopper:stopper=.waiting ∨ stopper=.ending):
  Phases starter worker .idle state settled status revision:=by
 constructor <;> grind

lemma Phases.stopDecides (h:Phases starter worker .waiting state true status revision)
  (hstatus:status.isSome):
  Phases starter worker (if status=some .up then .announcing else .ending) state true status
   revision:=by
 obtain ⟨old,rfl⟩:=Option.isSome_iff_exists.1 hstatus
 cases old <;> constructor <;> grind

lemma Phases.announce (h:Phases starter worker .announcing state settled status revision):
  Phases starter worker .departing state settled (some .leaving) (revision+1):=by
 constructor <;> grind

lemma Phases.depart (h:Phases starter worker .departing state settled status revision):
  Phases starter worker .ending state settled (some .left) (revision+1):=by
 constructor <;> grind

lemma Phases.stopFinishes (h:Phases starter worker .ending state settled status revision):
  Phases starter worker .idle .stopped settled (some .left) revision:=by
 constructor <;> grind

lemma Phases.workerFails (h:Phases starter worker stopper state settled status revision)
  (hpos:worker≠.notStarted):
  Phases starter .ended stopper (if state=.stopping ∨ state=.stopped then state else .failed)
   settled status revision:=by
 constructor <;> grind

end

section

variable {node:Coordinator} {r:CoordinatorRun}

variable {t s:CoordinatorState} {event:WorkerEvent} {r':CoordinatorRun}

lemma sound_create (node:Coordinator) (now:ℤ):Sound node (.create node now):=by
 have hm:(CoordinatorState.create node now).members.lookup node.selfIdentity =
  some ⟨node.selfIdentity,node.endpoint,.joining,.reachable⟩:=
  AList.lookup_insert (s := ∅)
 have hother:∀identity,identity≠node.selfIdentity →
  (CoordinatorState.create node now).members.lookup identity=none:=
  fun identity hne=>AList.lookup_insert_ne (s := ∅) hne
 have hstatus:selfStatus node (CoordinatorState.create node now)=some .joining:=
  selfStatus_of_lookup hm
 have hbare:∀identity,Bare (CoordinatorState.create node now) identity:=
  fun identity=>⟨rfl,rfl,rfl⟩
 have honly:∀identity member,
  (CoordinatorState.create node now).members.lookup identity=some member →
  identity=node.selfIdentity:=by
  intro identity member hfound
  by_contra hne
  rw [hother identity hne] at hfound
  cases hfound
 refine ⟨⟨hm▸Option.isSome_some,node.config.memberLimit_pos,?_,nofun,
  Nat.zero_le _,nofun,fun identity=>?_⟩,?_,nofun⟩
 · intro first second member member' hfirst hsecond _ _ _
   rw [honly first member hfirst,honly second member' hsecond]
 · by_cases hself:identity=node.selfIdentity
   · subst hself
     refine ⟨fun _=>hbare _,?_,fun hne=>absurd rfl hne,fun hne=>absurd rfl hne,
      fun _=>hbare _⟩
     intro member hfound
     change (CoordinatorState.create node now).members.lookup _=_ at hfound
     rw [hm] at hfound
     cases hfound
     rfl
   · exact tidy_of_absent (hother identity hself) (hbare identity)
 · change Phases .idle .notStarted .idle .new false
    (selfStatus node (CoordinatorState.create node now)) 0
   rw [hstatus]
   constructor <;> grind

lemma Sound.positive (h:Sound node r) (hworker:r.worker≠.notStarted):
  0<r.data.revision:=h.phases.working hworker

lemma Sound.of_section (h:Sound node r) (hs:Section node r.data t)
  (hpos:0<r.data.revision) {worker:Worker}
  (hdeparts:∀identity requestId,worker=.leaving identity requestId →
   Departs node t identity)
  (broadcasts:List (Option MemberIdentity)) (sent:List (MemberIdentity×Notice)):
  Sound node { r with
   data:=t
   worker:=worker
   broadcasts:=broadcasts
   sent:=sent } ∧ Later r.data t:=by
 refine ⟨⟨hs.inv,?_,hdeparts⟩,hs.later⟩
 have hself:selfStatus node t=selfStatus node r.data:=by
  unfold selfStatus
  rw [hs.self]
 change Phases r.starter worker r.stopper t.state t.startupSettled (selfStatus node t) t.revision
 rw [hs.state,hs.settled,hself]
 exact h.phases.worked hpos hs.later.revision worker

lemma Departs.of_others {identity:MemberIdentity}
  (h:Departs node s identity) (hothers:∀identity,identity≠node.selfIdentity →
   t.members.lookup identity=s.members.lookup identity):Departs node t identity:=by
 obtain ⟨hne,member,hm,hmember⟩:=h
 exact ⟨hne,member,(hothers identity hne).trans hm,hmember⟩

lemma Departs.down {identity downed:MemberIdentity} {changed:Bool}
  (h:Departs node s identity) (hdown:down node s downed=.ok (t,changed)) (hs:Inv node s):
  Departs node t identity:=by
 obtain ⟨hne,member,hm,hactive,hstatus⟩:=h
 obtain rfl|⟨found,hfound,hup,_,_,rfl⟩:=down_cases hdown
 · exact ⟨hne,member,hm,hactive,hstatus⟩
 · have hother:identity≠downed:=by
    rintro rfl
    rw [hfound] at hm
    cases hm
    exact hstatus hup
   obtain rfl:=hs.keyed downed found hfound
   have ha:=(alters_advance s { found with status:=.left }).trans
    (alters_revokeMember _ found.identity)
   exact ⟨hne,member,(ha.members identity hother).trans hm,hactive,hstatus⟩

lemma handleLeave_departs (h:Inv node s) {message:Leave} {source:MemberIdentity} {wasUp:Bool}
  (heq:handleLeave node s message source=(t,some wasUp)):Departs node t source:=by
 obtain hnone|⟨member,hm,htoken,⟨hup,hleave⟩|⟨hup,hleave⟩⟩:=
  handleLeave_cases node s message source
 · rw [hnone] at heq
   cases heq
 · rw [hleave] at heq
   cases heq
   obtain rfl:=h.keyed source member hm
   exact ⟨h.ne_self_of_token htoken,{ member with status:=.leaving },
    lookup_replaceMember_self s.toMemberView { member with status:=.leaving },nofun,nofun⟩
 · rw [hleave] at heq
   cases heq
   refine ⟨h.ne_self_of_token htoken,member,hm,fun hleft=>?_,hup⟩
   rw [((h.tidy source).left member hm hleft).1] at htoken
   cases htoken

lemma Sound.selfStatus_ne_joining (h:Sound node r) (hpos:0<r.data.revision):
  selfStatus node r.data≠some .joining:=
 fun hjoining=>absurd (h.phases.joining hjoining) hpos.ne'

lemma control_same (h:Sound node r) (state:RuntimeState) (settled:Bool):
  Inv node { r.data with state:=state,startupSettled:=settled } ∧
   Later r.data { r.data with state:=state,startupSettled:=settled }:=
 ⟨h.inv.of_same rfl rfl rfl rfl rfl (List.Subset.refl _),le_rfl,fun _ _=>rfl,fun _ hd=>hd⟩

structure Works (node:Coordinator) (r r':CoordinatorRun):Prop where
 changes:Section node r.data r'.data
 positive:0<r.data.revision
 departs:∀identity requestId,r'.worker=.leaving identity requestId →
  Departs node r'.data identity
 starter:r'.starter=r.starter
 stopper:r'.stopper=r.stopper

lemma workerStep_works (h:Sound node r)
  (hstep:workerStep node r event r'):event=.workerFails ∨ Works node r r':=by
 have hpos:∀ {worker:Worker},r.worker=worker → worker≠.notStarted →
  0<r.data.revision:=fun heq hne=>h.positive (heq▸hne)
 cases event with
 | joinRequest message source sourceEndpoint token now=>
  obtain ⟨hidle,data,record,heq,rfl⟩:=hstep
  have hpos:=hpos hidle nofun
  have hspec:=handleJoinRequest_spec h.inv (h.selfStatus_ne_joining hpos) message source
   sourceEndpoint token now heq
  refine .inr ⟨hspec.1,hpos,?_,rfl,rfl⟩
  intro identity requestId hleaving
  dsimp only at hleaving
  split_ifs at hleaving
 | acceptedSent returned=>
  obtain ⟨identity,requestId,haccepting,rfl⟩:=hstep
  refine .inr ⟨?_,hpos haccepting nofun,by rintro _ _ ⟨⟩,rfl,rfl⟩
  dsimp only
  split
  · exact .refl h.inv
  · exact expireProvisionalJoin_section h.inv identity requestId
 | joinConfirm message source now=>
  obtain ⟨hidle,data,changed,heq,rfl⟩:=hstep
  have hs:=handleJoinConfirm_section h.inv message source now
  rw [heq] at hs
  exact .inr ⟨hs,hpos hidle nofun,(fun _ _ hne=>nomatch hidle▸hne),rfl,rfl⟩
 | heartbeat message source now returned=>
  obtain ⟨hidle,data,ack,heq,rfl⟩:=hstep
  have hs:=handleHeartbeat_section h.inv message source now
  rw [heq] at hs
  exact .inr ⟨hs,hpos hidle nofun,(fun _ _ hne=>nomatch hidle▸hne),rfl,rfl⟩
 | leave message source=>
  obtain ⟨hidle,data,wasUp,heq,rfl⟩:=hstep
  have hs:=handleLeave_section h.inv message source
  rw [heq] at hs
  refine .inr ⟨hs,hpos hidle nofun,?_,rfl,rfl⟩
  intro identity requestId hleaving
  cases wasUp with
  | none=>cases hleaving
  | some wasUp=>
   cases hleaving
   exact handleLeave_departs h.inv heq
 | leaveFinishes=>
  obtain ⟨identity,requestId,data,record,hleaving,heq,rfl⟩:=hstep
  obtain ⟨hne,member,hm,hactive,-⟩:=h.departs identity requestId hleaving
  have hs:=finishLeave_section h.inv hm hne hactive requestId
  rw [heq] at hs
  exact .inr ⟨hs,hpos hleaving nofun,by rintro _ _ ⟨⟩,rfl,rfl⟩
 | expire now | workerEnds=>
  obtain ⟨hidle,rfl⟩:=hstep
  exact .inr ⟨.refl h.inv,hpos hidle nofun,by rintro _ _ ⟨⟩,rfl,rfl⟩
 | expireNext=>
  obtain ⟨identity,requestId,rest,hexpiring,rfl⟩:=hstep
  exact .inr ⟨expireProvisionalJoin_section h.inv identity requestId,hpos hexpiring nofun,
   by rintro _ _ ⟨⟩,rfl,rfl⟩
 | expireEnds=>
  obtain ⟨hexpiring,rfl⟩:=hstep
  exact .inr ⟨.refl h.inv,hpos hexpiring nofun,by rintro _ _ ⟨⟩,rfl,rfl⟩
 | tick now=>
  obtain ⟨hidle,-,-,rfl⟩:=hstep
  exact .inr ⟨.refl h.inv,hpos hidle nofun,by rintro _ _ ⟨⟩,rfl,rfl⟩
 | detect=>
  obtain ⟨now,data,changed,hdetecting,heq,rfl⟩:=hstep
  have hs:=detectUnreachableMembers_section now h.inv h.inv.listed
  rw [heq] at hs
  exact .inr ⟨hs,hpos hdetecting nofun,by rintro _ _ ⟨⟩,rfl,rfl⟩
 | workerFails=>exact .inl rfl

lemma sound_workerStep (h:Sound node r)
  (hstep:workerStep node r event r'):Sound node r' ∧ Later r.data r'.data:=by
 rcases workerStep_works h hstep with rfl|hworks
 · obtain ⟨hstarted,-,rfl⟩:=hstep
   have hsame:=control_same h (if r.data.state=.stopping ∨ r.data.state=.stopped then
    r.data.state else .failed) r.data.startupSettled
   exact ⟨⟨hsame.1,h.phases.workerFails hstarted,by rintro _ _ ⟨⟩⟩,hsame.2⟩
 · obtain ⟨data,starter,worker,stopper,broadcasts,sent⟩:=r'
   obtain rfl:starter=r.starter:=hworks.starter
   obtain rfl:stopper=r.stopper:=hworks.stopper
   exact h.of_section hworks.changes hworks.positive hworks.departs broadcasts sent

lemma Sound.of_selfChange (h:Sound node r) {status:MemberStatus}
  (hc:SelfChange node r.data t status) {starter:Starter} {stopper:Stopper}
  (hphases:Phases starter r.worker stopper t.state r.data.startupSettled (some status)
   t.revision) (broadcasts:List (Option MemberIdentity)):Sound node { r with
   data:=t
   starter:=starter
   stopper:=stopper
   broadcasts:=broadcasts }:=by
 refine ⟨hc.inv,?_,fun identity requestId hleaving=>
  (h.departs identity requestId hleaving).of_others hc.others⟩
 change Phases starter r.worker stopper t.state t.startupSettled (selfStatus node t) t.revision
 rw [hc.settled,hc.status]
 exact hphases

lemma Sound.exists_selfStatus (h:Sound node r):
  ∃status,selfStatus node r.data=some status:=by
 obtain ⟨member,hm⟩:=Option.isSome_iff_exists.1 h.inv.own
 exact ⟨member.status,selfStatus_of_lookup hm⟩

lemma sound_callerStep (h:Sound node r) {event:CallerEvent}
  (hstep:callerStep node r event r'):Sound node r' ∧ Later r.data r'.data:=by
 have hsame:=control_same h
 have hphases:=h.phases
 cases event with
 | start=>
  obtain ⟨hidle,hnew,rfl⟩:=hstep
  rw [hidle,hnew] at hphases
  exact ⟨⟨(hsame _ _).1,hphases.start,h.departs⟩,(hsame _ _).2⟩
 | form=>
  obtain ⟨hentered,rfl⟩:=hstep
  rw [hentered] at hphases
  obtain ⟨hc,hstate,hrevision⟩:=setSelfStatus_spec h.inv .up
   (h.phases.entered hentered) (fun _=>by decide) (fun hdeparting=>absurd hdeparting (by decide))
  refine ⟨h.of_selfChange hc ?_ r.broadcasts,hc.later hrevision⟩
  rw [hstate,hrevision]
  exact hphases.form
 | launch=>
  obtain ⟨hformed,-,rfl⟩:=hstep
  rw [hformed] at hphases
  exact ⟨⟨h.inv,hphases.launch,by rintro _ _ ⟨⟩⟩,.refl _⟩
 | startReturns=>
  obtain ⟨hlaunched,rfl⟩:=hstep
  rw [hlaunched] at hphases
  exact ⟨⟨(hsame _ _).1,hphases.startReturns,h.departs⟩,(hsame _ _).2⟩
 | startFails=>
  obtain ⟨hidle,-,rfl⟩:=hstep
  exact ⟨⟨(hsame _ _).1,hphases.startFails hidle,h.departs⟩,(hsame _ _).2⟩
 | down identity=>
  obtain ⟨data,changed,hdown,rfl⟩:=hstep
  exact h.of_section (down_section h.inv hdown) (h.phases.running (running_of_down hdown))
   (fun identity requestId hleaving=>(h.departs identity requestId hleaving).down hdown h.inv)
   _ r.sent
 | broadcast=>
  obtain ⟨before,exclude,after,-,rfl⟩:=hstep
  exact ⟨⟨h.inv,h.phases,h.departs⟩,.refl _⟩
 | stop=>
  obtain ⟨hidle,-,rfl⟩:=hstep
  rw [hidle] at hphases
  exact ⟨⟨(hsame _ _).1,hphases.stop,h.departs⟩,(hsame _ _).2⟩
 | stopFails=>
  obtain ⟨hstopper,rfl⟩:=hstep
  exact ⟨⟨h.inv,hphases.stopFails hstopper,h.departs⟩,.refl _⟩
 | stopDecides=>
  obtain ⟨hwaiting,hsettled,rfl⟩:=hstep
  rw [hwaiting,hsettled] at hphases
  obtain ⟨status,hstatus⟩:=h.exists_selfStatus
  have hdecided:=hphases.stopDecides (hstatus▸Option.isSome_some)
  rw [←hsettled] at hdecided
  exact ⟨⟨h.inv,hdecided,h.departs⟩,.refl _⟩
 | announce=>
  obtain ⟨hannouncing,rfl⟩:=hstep
  rw [hannouncing] at hphases
  obtain ⟨hc,hstate,hrevision⟩:=setSelfStatus_spec h.inv .leaving
   (hphases.announcing rfl) (fun _=>by decide) (fun _=>Or.inl rfl)
  refine ⟨h.of_selfChange hc ?_ _,hc.later hrevision⟩
  rw [hstate,hrevision]
  exact hphases.announce
 | depart=>
  obtain ⟨hdeparting,rfl⟩:=hstep
  rw [hdeparting] at hphases
  obtain ⟨status,hstatus⟩:=h.exists_selfStatus
  obtain ⟨hc,hstate,hrevision⟩:=setSelfStatus_spec h.inv .left hstatus
   (fun hne=>absurd rfl hne) (fun _=>Or.inr rfl)
  refine ⟨h.of_selfChange hc ?_ _,hc.later hrevision⟩
  rw [hstate,hrevision]
  exact hphases.depart
 | stopFinishes=>
  obtain ⟨hending,-,rfl⟩:=hstep
  rw [hending] at hphases
  obtain ⟨hc,hstate,hrevision,hmembers⟩:=finishStop_spec h.inv
  refine ⟨h.of_selfChange hc ?_ r.broadcasts,hrevision.ge,?_,hc.departed⟩
  · rw [hstate,hrevision]
    exact hphases.stopFinishes
  · -- a coordinator that has not left by itself was never formed
    intro _ hpos
    exact hmembers ((hphases.ending rfl).resolve_right hpos.ne')

lemma sound_step (h:Sound node r) {event:Event}
  (hstep:(system node).step r event r'):Sound node r' ∧ Later r.data r'.data:=by
 cases event with
 | caller event=>exact sound_callerStep h hstep
 | worker event=>exact sound_workerStep h hstep

lemma reachable_sound (h:(system node).Reachable r):Sound node r:=by
 refine h.invariant (I := Sound node) ?_ ?_
 · rintro _ ⟨now,rfl⟩
   exact sound_create node now
 · intro s event t _ hs hstep
   exact (sound_step hs hstep).1

end

structure MembershipInvariant (node:Coordinator) (s:CoordinatorState):Prop where
 own:∃member,s.members.lookup node.selfIdentity=some member
 size:(Members.values s.members).length≤node.config.memberLimit
 names:∀first∈Members.values s.members,∀second∈Members.values s.members,
  first.status≠.left → second.status≠.left →
  first.identity.systemName=second.identity.systemName → first=second
 retired_disjoint:∀identity∈s.retiredIdentities,identity∉s.members
 retired_bounded:s.retiredIdentities.card≤node.config.retiredIdentityLimit
 pending:∀identity member,identity≠node.selfIdentity →
  s.members.lookup identity=some member →
  (member.status=.joining ↔ identity∈s.pendingJoins)
 credentials:∀identity member,identity≠node.selfIdentity →
  s.members.lookup identity=some member →
  member.status=.joining ∨ member.status=.up ∨ member.status=.leaving →
  identity∈s.memberTokens ∧ identity∈s.memberRefs
 left:∀identity member,s.members.lookup identity=some member → member.status=.left →
  identity∉s.memberTokens ∧ identity∉s.memberRefs ∧ identity∉s.pendingJoins

/-- The membership invariant holds along every run of a coordinator: whatever its peers send,
 whichever sends fail, and however its threads interleave. -/
theorem coordinator_membership (node:Coordinator) (r:CoordinatorRun)
  (h:(system node).Reachable r):MembershipInvariant node r.data:=by
 have hinv:=(reachable_sound h).inv
 refine ⟨Option.isSome_iff_exists.1 hinv.own,?_,?_,?_,hinv.retired,?_,?_,?_⟩
 · have hsize:=hinv.size
   unfold AList.keys List.keys at hsize
   unfold Members.values
   rwa [List.length_map] at hsize ⊢
 · intro first hfirst second hsecond hactive hactive' hname
   obtain ⟨identity,hm⟩:=mem_values.1 hfirst
   obtain ⟨identity',hm'⟩:=mem_values.1 hsecond
   rw [(hinv.tidy identity).keyed first hm,(hinv.tidy identity').keyed second hm'] at hname
   have hsame:=hinv.names identity identity' first second hm hm' hactive hactive' hname
   rw [hsame,hm'] at hm
   exact (Option.some.inj hm).symm
 · intro identity hmem
   exact AList.lookup_eq_none.1 (hinv.disjoint identity hmem)
 · intro identity member hne hm
   rw [←AList.lookup_isSome]
   exact (hinv.tidy identity).pending hne member hm
 · intro identity member hne hm hstatus
   rw [←AList.lookup_isSome,←AList.lookup_isSome]
   refine (hinv.tidy identity).credentials hne member hm fun hleft=>?_
   rw [hleft] at hstatus
   exact absurd hstatus (by decide)
 · intro identity member hm hleft
   obtain ⟨htoken,href,hpending⟩:=(hinv.tidy identity).left member hm hleft
   exact ⟨AList.lookup_eq_none.1 htoken,AList.lookup_eq_none.1 href,
    AList.lookup_eq_none.1 hpending⟩

lemma orders_valid : ValidClusterName "orders" := by decide
lemma orders_limits : 0<2 ∧ 2≤256:=by decide

def ordersConfig : ClusterConfig where
 name:= "orders"
 seed:=⟨"north",⟨"10.0.0.1",7001⟩⟩
 unreachableTimeout:=30
 joinTimeout:=60
 memberLimit:=2
 retiredIdentityLimit:=2
 fingerprint:= "orders-v1"
 name_valid:=orders_valid
 memberLimit_pos:=orders_limits.1
 memberLimit_le:=orders_limits.2
 retiredIdentityLimit_pos:=orders_limits.1

def south : MemberIdentity:=⟨"south",toUUID 2⟩
def east : MemberIdentity:=⟨"east",toUUID 7⟩
def southEndpoint : Endpoint:=⟨"10.0.0.2",7002⟩
def eastEndpoint : Endpoint:=⟨"10.0.0.3",7003⟩
def westEndpoint : Endpoint:=⟨"10.0.0.4",7004⟩

def ordersPeers : String → Option Endpoint
 | "south" => some southEndpoint
 | "east" => some eastEndpoint
 | "west" => some westEndpoint
 | _=>none

def north : Coordinator:=⟨ordersConfig,toUUID 1,ordersPeers⟩

def southJoins : JoinRequest:=
 ⟨"orders", "orders-v1", "south",toUUID 2, "10.0.0.2",7002,toUUID 3,toUUID 1,toUUID 4⟩

def southConfirms : JoinConfirm:=
 ⟨"orders", "south",toUUID 2,toUUID 1,toUUID 4,toUUID 5⟩

def southLeaves : Leave:=⟨"orders", "south",toUUID 2,toUUID 1,toUUID 5,toUUID 6⟩

def eastJoins : JoinRequest:=
 ⟨"orders", "orders-v1", "east",toUUID 7, "10.0.0.3",7003,toUUID 8,toUUID 1,toUUID 9⟩

def southLeft : { r // (system north).Reachable r }:=⟨_,by
 have h₀:(system north).Reachable (.create north 0):=.start ⟨0,rfl⟩
 have h₁:=(((h₀.next (.caller .start) ⟨rfl,rfl,rfl⟩).next (.caller .form) ⟨rfl,rfl⟩).next
  (.caller .launch) ⟨rfl,rfl,rfl⟩).next (.caller .startReturns) ⟨rfl,rfl⟩
 have h₂:=h₁.next (.worker (.joinRequest southJoins south southEndpoint
  (toUUID 5) 1)) ⟨rfl,_,_,rfl,rfl⟩
 have h₃:=h₂.next (.worker (.acceptedSent true)) ⟨_,_,rfl,rfl⟩
 have h₄:=h₃.next (.worker (.joinConfirm southConfirms south 2))
  ⟨rfl,_,_,rfl,rfl⟩
 have h₅:=h₄.next (.worker (.leave southLeaves south)) ⟨rfl,_,_,rfl,rfl⟩
 exact h₅.next (.worker .leaveFinishes) ⟨_,_,_,_,rfl,rfl,rfl⟩⟩

theorem coordinator_membership_evicts : ∃r,(system north).Reachable r ∧
  r.data.retiredIdentities={south} ∧
  (r.data.members.lookup east).map ClusterMember.status=some .joining ∧
  MembershipInvariant north r.data:=by
 have h:=southLeft.2.next (.worker (.joinRequest eastJoins east eastEndpoint
  (toUUID 10) 3)) ⟨rfl,_,_,rfl,rfl⟩
 exact ⟨_,h,rfl,rfl,coordinator_membership north _ h⟩

/-- A table that is empty where `Bare` says so has entries for other members only. -/
lemma keys_length_lt {node:Coordinator} {s:CoordinatorState} (h:Inv node s) {β:Type}
  (table:AList fun _:MemberIdentity=>β)
  (hbare:∀identity,Bare s identity → table.lookup identity=none):
  table.keys.length<node.config.memberLimit:=by
 have hsubset:table.keys ⊆ s.members.keys.erase node.selfIdentity:=by
  intro identity hmem
  have hentry:table.lookup identity≠none:=fun hnone=>AList.lookup_eq_none.1 hnone hmem
  have hne:identity≠node.selfIdentity:=fun heq=>
   hentry (hbare _ ((h.tidy identity).own heq))
  refine (List.mem_erase_of_ne hne).2 (by_contra fun hout=>hentry (hbare _ ?_))
  refine (h.tidy identity).bare fun member hm=>?_
  rw [AList.lookup_eq_none.2 hout] at hm
  cases hm
 have hlength:=(List.subperm_of_subset table.keys_nodup hsubset).length_le
 have hown:node.selfIdentity∈s.members.keys:=AList.lookup_isSome.1 h.own
 rw [List.length_erase_of_mem hown] at hlength
 have hsize:=h.size
 have hpos:=List.length_pos_of_mem hown
 omega

/-- Whatever the peers send, the tables of credentials and of joins do not outgrow the members. -/
theorem coordinator_tables_bounded (node:Coordinator) (r:CoordinatorRun)
  (h:(system node).Reachable r):
  r.data.memberTokens.keys.length<node.config.memberLimit ∧
  r.data.memberRefs.keys.length<node.config.memberLimit ∧
  r.data.pendingJoins.keys.length<node.config.memberLimit:=
 have hinv:=(reachable_sound h).inv
 ⟨keys_length_lt hinv _ fun _ hbare=>hbare.1,keys_length_lt hinv _ fun _ hbare=>hbare.2.1,
  keys_length_lt hinv _ fun _ hbare=>hbare.2.2⟩

theorem coordinator_tables_bounded_left : ∃r,(system north).Reachable r ∧
  r.data.pendingJoins.keys.length=1 ∧ r.data.pendingJoins.keys.length<ordersConfig.memberLimit:=by
 have h:=southLeft.2.next (.worker (.joinRequest eastJoins east eastEndpoint
  (toUUID 10) 3)) ⟨rfl,_,_,rfl,rfl⟩
 exact ⟨_,h,rfl,(coordinator_tables_bounded north _ h).2.2⟩

end Movie.ClusterInvariant
