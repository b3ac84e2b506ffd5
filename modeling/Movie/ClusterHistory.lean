import Movie.ClusterInvariant

/-!
# The snapshots a coordinator sends

Every record of a coordinator shows the members of one of its states, and a state in which
its target has its system name for itself.
-/
namespace Movie.ClusterHistory

open Checked DurableModel Handshake ClusterModel ClusterCoordinator ClusterSections
 ClusterInvariant Reachability

structure Suits (s:CoordinatorState) (target:MemberIdentity):Prop where
 member:(s.members.lookup target).isSome
 alone:∀other member,other≠target → s.members.lookup other=some member →
  member.Active → other.systemName≠target.systemName

structure Shown (s:CoordinatorState) (target:MemberIdentity) (record:Notice):Prop where
 revision:record.revision=s.revision
 members:record.members=wireMembers s.members
 suits:Suits s target
 left:∀member,s.members.lookup target=some member → member.status=.left →
  ∃requestId,record.kind=.leaveAck requestId

section

variable {node:Coordinator} {s t:CoordinatorState}

lemma shown_of_active (h:Inv node s) {target:MemberIdentity} {member:ClusterMember}
  (hm:s.members.lookup target=some member) (hactive:member.Active) (kind:NoticeKind):
  Shown s target (notice node s target kind):=by
 refine ⟨rfl,rfl,⟨hm▸Option.isSome_some,?_⟩,?_⟩
 · intro other found hne hfound hfoundActive hname
   exact hne (h.names other target found member hfound hm hfoundActive hactive hname)
 · intro found hfound hleft
   rw [hm] at hfound
   cases hfound
   exact absurd hleft hactive

lemma finishLeave_shown (h:Inv node s) {identity:MemberIdentity} {member:ClusterMember}
  (hm:s.members.lookup identity=some member) (hactive:member.Active) {requestId:UUID}
  {record:Notice} (heq:finishLeave node s identity requestId=(t,some record)):
  Shown t identity record:=by
 obtain rfl:=h.keyed identity member hm
 unfold finishLeave at heq
 rw [hm] at heq
 dsimp only at heq
 rw [if_neg hactive] at heq
 cases heq
 refine ⟨rfl,rfl,⟨?_,?_⟩,fun _ _ _=>⟨requestId,rfl⟩⟩
 · change ((s.toMemberView.replaceMember { member with status:=.left }).members.lookup
    member.identity).isSome
   rw [lookup_replaceMember_self s.toMemberView { member with status:=.left }]
   rfl
 · intro other found hne hfound hfoundActive hname
   have hkept:s.members.lookup other=some found:=
    ((alters_advance s { member with status:=.left }).members other hne).symm.trans hfound
   exact hne (h.names other member.identity found member hkept hm hfoundActive hactive hname)

lemma handleHeartbeat_shown (h:Inv node s) {message:Heartbeat} {source:MemberIdentity}
  {now:ℤ} {ack:Notice×Bool} (heq:handleHeartbeat node s message source now=(t,some ack)):
  Shown t source ack.1:=by
 have hs:=handleHeartbeat_section h message source now
 obtain hnone|⟨member,t',became,hm,hup,-,ht,hack⟩:=
  handleHeartbeat_cases node s message source now
 · rw [hnone] at heq
   cases heq
 · rw [heq] at hs
   rw [hack] at heq
   cases heq
   obtain rfl:=h.keyed source member hm
   rcases ht with ⟨-,rfl⟩|⟨-,rfl⟩
   · exact shown_of_active hs.inv hm (active_of_status hup nofun) _
   · exact shown_of_active hs.inv
      (lookup_replaceMember_self s.toMemberView { member with reachability:=.reachable })
      (active_of_status (show ClusterMember.status { member with reachability:=.reachable }=.up
       from hup) nofun) _

lemma broadcastMembership_shown (h:Inv node s) {exclude:Option MemberIdentity}
  {entry:MemberIdentity×Notice} (hmem:entry∈broadcastMembership node s exclude):
  Shown s entry.1 entry.2:=by
 unfold broadcastMembership at hmem
 obtain ⟨target,-,hentry⟩:=List.mem_filterMap.1 hmem
 obtain ⟨token,htoken,rfl⟩:=Option.map_eq_some_iff.1 hentry
 -- a token belongs to an active member
 have hactive:∃member,s.members.lookup target=some member ∧ member.Active:=by
  by_contra hnone
  rw [not_exists] at hnone
  have hbare:=(h.tidy target).bare fun member hm hactive=>hnone member ⟨hm,hactive⟩
  rw [hbare.1] at htoken
  cases htoken
 obtain ⟨member,hm,hactive⟩:=hactive
 exact shown_of_active h hm hactive _

end

section

variable {node:Coordinator} {r r':CoordinatorRun}

lemma step_sent (h:Sound node r) {event:Event} (hstep:(system node).step r event r'):
  ∃more,r'.sent=r.sent++more ∧ ∀entry∈more,Shown r'.data entry.1 entry.2:=by
 have hsound:=(sound_step h hstep).1.inv
 have hnone:∀ {run:CoordinatorRun},run.sent=r.sent →
  ∃more,run.sent=r.sent++more ∧ ∀entry∈more,Shown run.data entry.1 entry.2:=
  fun heq=>⟨[],by rw [heq,List.append_nil],nofun⟩
 cases event with
 | caller event=>
  cases event with
  | broadcast=>
   obtain ⟨before,exclude,after,-,rfl⟩:=hstep
   exact ⟨_,rfl,fun entry hmem=>broadcastMembership_shown h.inv hmem⟩
  | down identity=>
   obtain ⟨data,changed,-,rfl⟩:=hstep
   exact hnone rfl
  | start | launch | startFails | stop | stopDecides | stopFinishes=>
   obtain ⟨-,-,rfl⟩:=hstep
   exact hnone rfl
  | form | startReturns | stopFails | announce | depart=>
   obtain ⟨-,rfl⟩:=hstep
   exact hnone rfl
 | worker event=>
  cases event with
  | joinRequest message source sourceEndpoint token now=>
   obtain ⟨hidle,data,record,heq,rfl⟩:=hstep
   have hpos:=h.positive (hidle▸nofun)
   refine ⟨_,rfl,fun entry hmem=>?_⟩
   obtain ⟨-,rfl|⟨held,member,rfl,hm,hjoining⟩⟩:=handleJoinRequest_spec h.inv
    (h.selfStatus_ne_joining hpos) message source sourceEndpoint token now heq
   · cases hmem
   · rw [List.mem_singleton.1 hmem]
     exact shown_of_active hsound hm (active_of_status hjoining nofun) _
  | heartbeat message source now returned=>
   obtain ⟨-,data,ack,heq,rfl⟩:=hstep
   refine ⟨_,rfl,fun entry hmem=>?_⟩
   cases ack with
   | none=>cases hmem
   | some ack=>
    rw [List.mem_singleton.1 hmem]
    exact handleHeartbeat_shown h.inv heq
  | leaveFinishes=>
   obtain ⟨identity,requestId,data,record,hleaving,heq,rfl⟩:=hstep
   obtain ⟨-,member,hm,hactive,-⟩:=h.departs identity requestId hleaving
   refine ⟨_,rfl,fun entry hmem=>?_⟩
   rw [List.mem_singleton.1 hmem]
   exact finishLeave_shown h.inv hm hactive heq
  | acceptedSent returned=>
   obtain ⟨identity,requestId,-,rfl⟩:=hstep
   exact hnone rfl
  | joinConfirm message source now=>
   obtain ⟨-,data,changed,-,rfl⟩:=hstep
   exact hnone rfl
  | leave message source=>
   obtain ⟨-,data,wasUp,-,rfl⟩:=hstep
   exact hnone rfl
  | expireNext=>
   obtain ⟨identity,requestId,rest,-,rfl⟩:=hstep
   exact hnone rfl
  | detect=>
   obtain ⟨now,data,changed,-,-,rfl⟩:=hstep
   exact hnone rfl
  | tick now=>
   obtain ⟨-,-,-,rfl⟩:=hstep
   exact hnone rfl
  | expire | expireEnds | workerEnds=>
   obtain ⟨-,rfl⟩:=hstep
   exact hnone rfl
  | workerFails=>
   obtain ⟨-,-,rfl⟩:=hstep
   exact hnone rfl

end

end Movie.ClusterHistory
