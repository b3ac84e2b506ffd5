import Movie.ClusterProgress
import Movie.ClusterParticipant

/-!
# Leaving is final

An identity that has left does not come back, at the coordinator or in the view of a participant,
and a member is up only by a confirmation of its pending join.
-/
namespace Movie.ClusterTerminal

open Checked DurableModel Handshake Wire ClusterModel ClusterCoordinator ClusterSections
 ClusterInvariant ClusterHistory ClusterProgress ClusterParticipant Reachability

section

def Retains (s t:CoordinatorState):Prop:=
 ∀identity,t.pendingJoins.lookup identity=none ∨
  t.pendingJoins.lookup identity=s.pendingJoins.lookup identity ∧
   t.memberTokens.lookup identity=s.memberTokens.lookup identity

variable {node:Coordinator} {s t u:CoordinatorState} {identity:MemberIdentity}

lemma Retains.of_same (hpending:t.pendingJoins=s.pendingJoins)
  (htokens:t.memberTokens=s.memberTokens):Retains s t:=
 fun _=>.inr ⟨by rw [hpending],by rw [htokens]⟩

lemma Retains.trans (h:Retains s t) (h':Retains t u):Retains s u:=by
 intro identity
 rcases h' identity with hnone|⟨hpending',htoken'⟩
 · exact .inl hnone
 · rcases h identity with hnone|⟨hpending,htoken⟩
   · exact .inl (hpending'.trans hnone)
   · exact .inr ⟨hpending'.trans hpending,htoken'.trans htoken⟩

lemma Retains.of_alters (ha:Alters s t identity)
  (hnone:t.pendingJoins.lookup identity=none):Retains s t:=by
 intro other
 by_cases heq:other=identity
 · exact .inl (heq▸hnone)
 · exact .inr ⟨ha.pending other heq,ha.tokens other heq⟩

lemma revokeMember_retains (s:CoordinatorState) (identity:MemberIdentity):
  Retains s (s.revokeMember identity):=
 .of_alters (alters_revokeMember s identity) (bare_revokeMember s identity).2.2

lemma handleJoinConfirm_retains (message:JoinConfirm) (source:MemberIdentity) (now:ℤ):
  Retains s (handleJoinConfirm node s message source now).1:=by
 obtain heq|⟨member,-,-,-,heq⟩:=handleJoinConfirm_cases node s message source now
 · rw [heq]
   exact .of_same rfl rfl
 · rw [heq]
   intro other
   by_cases hother:other=source
   · rw [hother]
     exact .inl (AList.lookup_erase _ _)
   · exact .inr ⟨AList.lookup_erase_ne hother,rfl⟩

lemma handleHeartbeat_retains (message:Heartbeat) (source:MemberIdentity) (now:ℤ):
  Retains s (handleHeartbeat node s message source now).1:=by
 obtain heq|⟨member,t,_,-,-,-,⟨-,rfl⟩|⟨-,rfl⟩,heq⟩:=
  handleHeartbeat_cases node s message source now
 · rw [heq]
   exact .of_same rfl rfl
 · rw [heq]
   exact .of_same rfl rfl
 · rw [heq]
   exact .of_same rfl rfl

lemma handleLeave_retains (message:Leave) (source:MemberIdentity):
  Retains s (handleLeave node s message source).1:=by
 obtain heq|⟨member,-,-,⟨-,heq⟩|⟨-,heq⟩⟩:=handleLeave_cases node s message source
 · rw [heq]
   exact .of_same rfl rfl
 · rw [heq]
   exact .of_same rfl rfl
 · rw [heq]
   exact .of_same rfl rfl

lemma finishLeave_retains (identity:MemberIdentity) (requestId:UUID):
  Retains s (finishLeave node s identity requestId).1:=by
 unfold finishLeave
 split
 · exact .of_same rfl rfl
 · dsimp only
   split
   · exact revokeMember_retains _ _
   · exact Retains.trans (.of_same rfl rfl) (revokeMember_retains _ _)

lemma down_retains {changed:Bool} (hdown:down node s identity=.ok (t,changed)):
  Retains s t:=by
 obtain rfl|⟨member,-,-,-,-,rfl⟩:=down_cases hdown
 · exact .of_same rfl rfl
 · exact Retains.trans (.of_same rfl rfl) (revokeMember_retains _ _)

lemma expireProvisionalJoin_retains (identity:MemberIdentity) (requestId:UUID):
  Retains s (expireProvisionalJoin s identity requestId):=by
 unfold expireProvisionalJoin
 split
 · intro other
   by_cases heq:other=identity
   · rw [heq]
     exact .inl (AList.lookup_erase _ _)
   · refine .inr ⟨?_,AList.lookup_erase_ne heq⟩
     exact (AList.lookup_erase_ne heq).trans (AList.lookup_erase_ne heq)
 · exact .of_same rfl rfl

lemma detectUnreachableMembers_retains (now:ℤ) (items:List (Σ _:MemberIdentity,ClusterMember)):
  Retains s (detectUnreachableMembers node now s items).1:=by
 induction items generalizing s with
 | nil=>exact .of_same rfl rfl
 | cons item rest ih=>
  unfold detectUnreachableMembers
  split
  · exact ih
  · exact Retains.trans (.of_same rfl rfl) ih

lemma setSelfStatus_retains (status:MemberStatus):
  Retains s (setSelfStatus node status s):=by
 unfold setSelfStatus
 split
 · exact .of_same rfl rfl
 · exact .of_same rfl rfl

lemma finishStop_retains : Retains s (finishStop node s):=by
 unfold finishStop
 split
 · exact .of_same rfl rfl
 · dsimp only
   split
   · exact .of_same rfl rfl
   · exact .of_same rfl rfl

lemma reserveMemberCapacity_retains (order:List MemberIdentity):
  Retains s (reserveMemberCapacity node s order).1:=by
 induction order generalizing s with
 | nil=>exact .of_same rfl rfl
 | cons identity rest ih=>
  unfold reserveMemberCapacity
  split
  · split
    · split
      · exact .of_same rfl rfl
      · exact Retains.trans (Retains.trans (.of_same rfl rfl) (revokeMember_retains _ _)) ih
    · exact ih
  · exact .of_same rfl rfl

end

section

variable {node:Coordinator} {s:CoordinatorState}

def Holds (s:CoordinatorState) (identity:MemberIdentity) (requestId token:UUID):Prop:=
 s.memberTokens.lookup identity=some token ∧
  ∃deadline,s.pendingJoins.lookup identity=some (requestId,deadline)

variable {t:CoordinatorState} {requestId token token':UUID} {source:MemberIdentity} {now:ℤ}
 {identity:MemberIdentity}

lemma Retains.holds (h:Retains s t) (hholds:Holds t identity requestId token):
  Holds s identity requestId token:=by
 obtain ⟨htoken,deadline,hpending⟩:=hholds
 rcases h identity with hnone|⟨hpending',htoken'⟩
 · rw [hnone] at hpending
   cases hpending
 · exact ⟨htoken'.symm.trans htoken,deadline,hpending'.symm.trans hpending⟩

lemma provision_holds {reference:RemoteActorRef} {requestId':UUID}
  (hrequest:∀pending,s.pendingJoins.lookup source=some pending → pending.1=requestId)
  (hholds:Holds (provision node s source reference requestId token now) identity requestId'
   token'):Holds s identity requestId' token' ∨ identity=source ∧ requestId'=requestId ∧
   token'=(s.memberTokens.lookup source).getD token:=by
 obtain ⟨htoken,deadline,hpending⟩:=hholds
 have ha:=alters_provision node s source reference requestId token now
 by_cases heq:identity=source
 · subst heq
   have htoken':(s.memberTokens.lookup identity).getD token=token':=
    Option.some.inj ((AList.lookup_insert s.memberTokens).symm.trans htoken)
   have hpending':(s.pendingJoins.lookup identity).getD
    (requestId,now+node.config.joinTimeout)=(requestId',deadline):=
    Option.some.inj ((AList.lookup_insert s.pendingJoins).symm.trans hpending)
   refine .inr ⟨rfl,?_,htoken'.symm⟩
   cases hp:s.pendingJoins.lookup identity with
   | none=>
    rw [hp] at hpending'
    exact (congrArg Prod.fst hpending').symm
   | some pending=>
    rw [hp] at hpending'
    rw [←hrequest pending hp]
    exact (congrArg Prod.fst hpending').symm
 · exact .inl ⟨(ha.tokens identity heq).symm.trans htoken,deadline,
    (ha.pending identity heq).symm.trans hpending⟩

lemma handleJoinRequest_holds {message:JoinRequest}
  {sourceEndpoint:Endpoint} {record:Option Notice}
  (heq:handleJoinRequest node s message source sourceEndpoint token now=(t,record))
  (hholds:Holds t identity requestId token'):Holds s identity requestId token' ∨
   ∃answer,record=some answer ∧ identity=source ∧
    answer.kind=.joinAccepted requestId token':=by
 unfold handleJoinRequest at heq
 dsimp only at heq
 split at heq
 · cases heq
   exact .inl hholds
 split at heq
 · cases heq
   exact .inl hholds
 split at heq
 · cases heq
   exact .inl hholds
 rename_i hrefused
 have hrequest:∀pending,s.pendingJoins.lookup source=some pending →
  pending.1=message.requestId:=by
  intro pending hp
  by_contra hne
  exact hrefused (.inr (.inr (.inr ⟨pending,hp,hne⟩)))
 split at heq
 · cases heq
   rcases provision_holds hrequest hholds with hbefore|⟨hid,rfl,rfl⟩
   · exact .inl hbefore
   · exact .inr ⟨_,rfl,hid,rfl⟩
 have hretains:Retains s (reserveMemberCapacity node s s.leftOrder).1:=
  reserveMemberCapacity_retains s.leftOrder
 split at heq
 · rename_i reserved hreserved
   cases heq
   rw [hreserved] at hretains
   exact .inl (hretains.holds hholds)
 · rename_i reserved hreserved
   cases heq
   rw [hreserved] at hretains
   have hreserving:∀pending,reserved.pendingJoins.lookup source=some pending →
    pending.1=message.requestId:=by
    intro pending hp
    rcases hretains source with hnone|⟨hsame,-⟩
    · rw [hnone] at hp
      cases hp
    · exact hrequest pending (hsame.symm.trans hp)
   rcases provision_holds (s := reserved.advance _) hreserving hholds with
    hbefore | ⟨hid,rfl,rfl⟩
   · exact .inl (hretains.holds hbefore)
   · exact .inr ⟨_,rfl,hid,rfl⟩

def Issued (r:CoordinatorRun):Prop:=
 ∀identity requestId token,Holds r.data identity requestId token →
  ∃record,(identity,record)∈r.sent ∧ record.kind=.joinAccepted requestId token

variable {r r':CoordinatorRun}

lemma Issued.of_retains (h:Issued r) (hretains:Retains r.data r'.data)
  (hsent:r.sent ⊆ r'.sent):Issued r':=by
 intro identity requestId token hholds
 obtain ⟨record,hmem,hkind⟩:=h identity requestId token (hretains.holds hholds)
 exact ⟨record,hsent hmem,hkind⟩

lemma issued_callerStep (h:Issued r) {event:CallerEvent}
  (hstep:callerStep node r event r'):Issued r':=by
 cases event with
 | form=>
  obtain ⟨-,rfl⟩:=hstep
  exact h.of_retains (setSelfStatus_retains .up) (List.Subset.refl _)
 | announce=>
  obtain ⟨-,rfl⟩:=hstep
  exact h.of_retains (setSelfStatus_retains .leaving) (List.Subset.refl _)
 | depart=>
  obtain ⟨-,rfl⟩:=hstep
  exact h.of_retains (setSelfStatus_retains .left) (List.Subset.refl _)
 | stopFinishes=>
  obtain ⟨-,-,rfl⟩:=hstep
  exact h.of_retains finishStop_retains (List.Subset.refl _)
 | down identity=>
  obtain ⟨data,changed,hdown,rfl⟩:=hstep
  exact h.of_retains (down_retains hdown) (List.Subset.refl _)
 | broadcast=>
  obtain ⟨before,exclude,after,-,rfl⟩:=hstep
  exact h.of_retains (.of_same rfl rfl) (List.subset_append_left _ _)
 | start | launch | startFails | stop | stopDecides=>
  obtain ⟨-,-,rfl⟩:=hstep
  exact h.of_retains (.of_same rfl rfl) (List.Subset.refl _)
 | startReturns | stopFails=>
  obtain ⟨-,rfl⟩:=hstep
  exact h.of_retains (.of_same rfl rfl) (List.Subset.refl _)

lemma issued_workerStep (h:Issued r) {event:WorkerEvent}
  (hstep:workerStep node r event r'):Issued r':=by
 cases event with
 | joinRequest message source sourceEndpoint token now=>
  obtain ⟨-,data,record,heq,rfl⟩:=hstep
  intro identity requestId held hholds
  rcases handleJoinRequest_holds heq hholds with hbefore|⟨answer,rfl,rfl,hkind⟩
  · obtain ⟨before,hmem,hkind⟩:=h identity requestId held hbefore
    exact ⟨before,List.mem_append_left _ hmem,hkind⟩
  · exact ⟨answer,List.mem_append_right _ (List.mem_singleton.2 rfl),hkind⟩
 | acceptedSent returned=>
  obtain ⟨identity,requestId,-,rfl⟩:=hstep
  refine h.of_retains ?_ (List.Subset.refl _)
  dsimp only
  split
  · exact .of_same rfl rfl
  · exact expireProvisionalJoin_retains identity requestId
 | joinConfirm message source now=>
  obtain ⟨-,data,changed,heq,rfl⟩:=hstep
  refine h.of_retains ?_ (List.Subset.refl _)
  have hretains:Retains r.data (handleJoinConfirm node r.data message source now).1:=
   handleJoinConfirm_retains message source now
  rwa [heq] at hretains
 | heartbeat message source now returned=>
  obtain ⟨-,data,ack,heq,rfl⟩:=hstep
  refine h.of_retains ?_ (List.subset_append_left _ _)
  have hretains:Retains r.data (handleHeartbeat node r.data message source now).1:=
   handleHeartbeat_retains message source now
  rwa [heq] at hretains
 | leave message source=>
  obtain ⟨-,data,wasUp,heq,rfl⟩:=hstep
  refine h.of_retains ?_ (List.Subset.refl _)
  have hretains:Retains r.data (handleLeave node r.data message source).1:=
   handleLeave_retains message source
  rwa [heq] at hretains
 | leaveFinishes=>
  obtain ⟨identity,requestId,data,record,-,heq,rfl⟩:=hstep
  refine h.of_retains ?_ (List.subset_append_left _ _)
  have hretains:Retains r.data (finishLeave node r.data identity requestId).1:=
   finishLeave_retains identity requestId
  rwa [heq] at hretains
 | expireNext=>
  obtain ⟨identity,requestId,rest,-,rfl⟩:=hstep
  exact h.of_retains (expireProvisionalJoin_retains identity requestId) (List.Subset.refl _)
 | detect=>
  obtain ⟨now,data,changed,-,heq,rfl⟩:=hstep
  refine h.of_retains ?_ (List.Subset.refl _)
  have hretains:Retains r.data
   (detectUnreachableMembers node now r.data r.data.members.entries).1:=
   detectUnreachableMembers_retains now r.data.members.entries
  rwa [heq] at hretains
 | tick now=>
  obtain ⟨-,-,-,rfl⟩:=hstep
  exact h.of_retains (.of_same rfl rfl) (List.Subset.refl _)
 | expire | expireEnds | workerEnds=>
  obtain ⟨-,rfl⟩:=hstep
  exact h.of_retains (.of_same rfl rfl) (List.Subset.refl _)
 | workerFails=>
  obtain ⟨-,-,rfl⟩:=hstep
  exact h.of_retains (.of_same rfl rfl) (List.Subset.refl _)

lemma reachable_issued (h:(system node).Reachable r):Issued r:=by
 refine h.invariant (I := Issued) ?_ fun r event r' _ hr hstep=>?_
 · rintro r ⟨now,rfl⟩ identity requestId token ⟨htoken,-⟩
   cases htoken
 · cases event with
   | caller event=>exact issued_callerStep hr hstep
   | worker event=>exact issued_workerStep hr hstep

end

section

variable {node:Coordinator} {r r':CoordinatorRun}

structure Confirms (r:CoordinatorRun) (message:JoinConfirm) (source:MemberIdentity) (now:ℤ)
  (deadline:ℤ):Prop where
 joining:(r.data.members.lookup source).map ClusterMember.status=some .joining
 pending:r.data.pendingJoins.lookup source=some (message.requestId,deadline)
 unexpired:now≤deadline
 token:r.data.memberTokens.lookup source=some message.membershipToken
 issued:∃record,(source,record)∈r.sent ∧
  record.kind=.joinAccepted message.requestId message.membershipToken

lemma confirms_of_accepted (h:Issued r) {message:JoinConfirm} {source:MemberIdentity}
  {now:ℤ} (haccepted:(handleJoinConfirm node r.data message source now).2=true):
  ∃deadline,Confirms r message source now deadline:=by
 unfold handleJoinConfirm at haccepted
 split at haccepted
 · split at haccepted
   · rename_i member requestId deadline hm hp
     split at haccepted
     · rename_i hc
       obtain ⟨hjoining,rfl,hunexpired,htoken⟩:=hc
       refine ⟨deadline,?_,hp,hunexpired,htoken,h source _ _ ⟨htoken,deadline,hp⟩⟩
       rw [hm,Option.map_some,hjoining]
     · cases haccepted
   · cases haccepted
 · cases haccepted

lemma up_of_step (hr:(system node).Reachable r) {event:Event}
  (hstep:(system node).step r event r') {identity:MemberIdentity}
  (hup:(r'.data.members.lookup identity).map ClusterMember.status=some .up)
  (hbefore:(r.data.members.lookup identity).map ClusterMember.status≠some .up):
  Rises node r event identity:=by
 obtain ⟨member',hafter,hstatus⟩:=Option.map_eq_some_iff.1 hup
 have hsame:∀found,r'.data.members.lookup identity=some found → found.status=.up:=by
  intro found hfound
  rw [Option.some.inj (hfound.symm.trans hafter)]
  exact hstatus
 cases (step_progress (reachable_sound hr) hstep).fate identity with
 | kept hkept=>
  rw [hkept] at hup
  exact absurd hup hbefore
 | joined member _ hm hjoining=>
  rw [hsame member hm] at hjoining
  cases hjoining
 | expired _ _ hnone | evicted _ _ hnone=>
  rw [hnone] at hafter
  cases hafter
 | replaced member found hm hfound _ _ hrises=>
  rcases hrises (hsame found hfound) with hstays|hrises
  · rw [hm,Option.map_some,hstays] at hbefore
    exact absurd rfl hbefore
  · exact hrises

end

section

variable {node:Participant} {s t u:ParticipantState} {identity:MemberIdentity}

def shownStatus (s:ParticipantState) (identity:MemberIdentity):Option MemberStatus:=
 (s.members.lookup identity).map ClusterMember.status

def SeenLeft (s:ParticipantState) (identity:MemberIdentity):Prop:=
 (identity∈s.retiredIdentities ∨ shownStatus s identity=some .left) ∧
  ∀status,shownStatus s identity=some status → status=.left

def Resembles (s t:ParticipantState) (identity:MemberIdentity):Prop:=
 t.retiredIdentities=s.retiredIdentities ∧ shownStatus t identity=shownStatus s identity

variable {member':ClusterMember} {stored:MemberIdentity} {members converted:Members}

lemma SeenLeft.resembles (h:SeenLeft s identity) (hr:Resembles s t identity):
  SeenLeft t identity:=by
 obtain ⟨hretired,hstatus⟩:=hr
 unfold SeenLeft
 rw [hretired,hstatus]
 exact h

variable {member:ClusterMember}

lemma replaceMember_resembles
  (hm:s.members.lookup stored=some member) (hstored:member'.identity=stored)
  (hother:stored=identity → member'.status=member.status):
  Resembles s (s.replaceMember member') identity:=by
 refine ⟨rfl,?_⟩
 subst hstored
 unfold shownStatus
 by_cases heq:identity=member'.identity
 · rw [heq,hm,Option.map_some,←hother heq.symm]
   exact congrArg _ (lookup_replaceMember_self s.toMemberView member')
 · exact congrArg _ (lookup_replaceMember_ne s.toMemberView heq)

lemma keyed_empty : Keyed ∅:=fun _ _ hm=>by cases hm

lemma keyed_insert (h:Keyed members)
  (hid:member.identity=identity):Keyed (members.insert identity member):=by
 intro stored found hfound
 by_cases heq:stored=identity
 · rw [heq,AList.lookup_insert] at hfound
   rw [←Option.some.inj hfound,heq]
   exact hid
 · rw [AList.lookup_insert_ne heq] at hfound
   exact h stored found hfound

lemma keyed_replaceMember (h:Keyed s.members) (member:ClusterMember):
  Keyed (s.replaceMember member).members:=by
 unfold ParticipantState.replaceMember MemberView.replaceMember
 split
 · exact h
 · exact keyed_insert h rfl

lemma keyed_convertMembers {members:List WireMember} {start:Members}
  (h:Keyed start) (hconverted:convertMembers node start members=some converted):
  Keyed converted:=by
 induction members generalizing start with
 | nil=>
  cases hconverted
  exact h
 | cons wire rest ih=>
  unfold convertMembers at hconverted
  split at hconverted
  · exact ih (keyed_insert h rfl) hconverted
  · cases hconverted

lemma keyed_overrideSelf {selfMember:ClusterMember}
  (h:Keyed converted) (hself:converted.lookup node.identity=some selfMember):
  Keyed (overrideSelf node s selfMember converted):=by
 have hid:=h node.identity selfMember hself
 unfold overrideSelf
 split
 · split
   · exact keyed_insert h hid
   · exact h
 · exact h

structure Keeps (node:Participant) (s t:ParticipantState):Prop where
 keyed:Keyed t.members
 seen:∀identity,identity≠node.identity → SeenLeft s identity → SeenLeft t identity

lemma Keeps.of_same (h:Keyed s.members) (hmembers:t.members=s.members)
  (hretired:t.retiredIdentities=s.retiredIdentities):Keeps node s t:=by
 refine ⟨hmembers▸h,fun identity _ hseen=>hseen.resembles ⟨hretired,?_⟩⟩
 unfold shownStatus
 rw [hmembers]

lemma Keeps.trans (h:Keeps node s t) (h':Keeps node t u):Keeps node s u:=
 ⟨h'.keyed,fun identity hne hseen=>h'.seen identity hne (h.seen identity hne hseen)⟩

lemma Keeps.congr (h:Keeps node s t) (hmembers:u.members=t.members)
  (hretired:u.retiredIdentities=t.retiredIdentities):Keeps node s u:=
 h.trans (.of_same h.keyed hmembers hretired)

lemma replaceMember_keeps (h:Keyed s.members)
  (hm:s.members.lookup stored=some member) (hstored:member'.identity=stored)
  (hstatus:stored≠node.identity → member'.status=member.status):
  Keeps node s (s.replaceMember member'):=by
 refine ⟨keyed_replaceMember h member',fun identity hne hseen=>?_⟩
 refine hseen.resembles (replaceMember_resembles hm hstored fun heq=>hstatus ?_)
 rwa [heq]

lemma mem_newlyRetired : identity∈newlyRetired members converted ↔
   (members.lookup identity).map ClusterMember.status=some .left ∧
    converted.lookup identity=none:=by
 unfold newlyRetired
 rw [List.mem_toFinset,List.mem_map]
 constructor
 · rintro ⟨⟨stored,member⟩,hmem,rfl⟩
   rw [List.mem_filter,decide_eq_true_iff] at hmem
   refine ⟨?_,AList.lookup_eq_none.2 hmem.2.2⟩
   rw [AList.mem_lookup_iff.2 hmem.1,Option.map_some,hmem.2.1]
 · rintro ⟨hleft,hnone⟩
   obtain ⟨member,hm,hstatus⟩:=Option.map_eq_some_iff.1 hleft
   refine ⟨⟨identity,member⟩,?_,rfl⟩
   rw [List.mem_filter,decide_eq_true_iff]
   exact ⟨AList.mem_lookup_iff.1 hm,hstatus,AList.lookup_eq_none.1 hnone⟩

lemma not_resurrects_iff :
  ¬Resurrects s converted ↔ ∀identity member,converted.lookup identity=some member →
   member.Active → identity∉s.retiredIdentities ∧ shownStatus s identity≠some .left:=by
 constructor
 · intro h identity member hm hactive
   have hmem:=AList.mem_lookup_iff.1 hm
   exact ⟨fun hretired=>h ⟨⟨identity,member⟩,hmem,hactive,.inl hretired⟩,
    fun hleft=>h ⟨⟨identity,member⟩,hmem,hactive,.inr hleft⟩⟩
 · rintro h ⟨⟨identity,member⟩,hmem,hactive,hgone⟩
   obtain ⟨hretired,hleft⟩:=h identity member (AList.mem_lookup_iff.2 hmem) hactive
   exact hgone.elim hretired hleft

lemma applyWireSnapshot_keeps (h:Keyed s.members) (revision:ℕ) (members:List WireMember):
  Keeps node s (applyWireSnapshot node s revision members).1:=by
 obtain heq|⟨converted,selfMember,viewRevision,haccepted,heq⟩:=
  applyWireSnapshot_cases node s revision members
 · rw [heq]
   exact .of_same h rfl rfl
 have hkeyed:Keyed converted:=keyed_convertMembers keyed_empty haccepted.converts
 have hmembers:=congrArg (fun t:ParticipantState=>t.members) heq
 have hretired:=congrArg (fun t:ParticipantState=>t.retiredIdentities) heq
 dsimp only at hmembers hretired
 refine ⟨hmembers▸keyed_overrideSelf hkeyed haccepted.own,fun identity hne hseen=>?_⟩
 have hstatus:shownStatus (applyWireSnapshot node s revision members).1 identity =
  (converted.lookup identity).map ClusterMember.status:=by
  unfold shownStatus
  rw [hmembers,overrideSelf_lookup_ne selfMember hne]
 unfold SeenLeft
 rw [hstatus,hretired,Finset.mem_union,mem_newlyRetired]
 cases hm:converted.lookup identity with
 | none=>
  refine ⟨.inl (hseen.1.imp id fun hleft=>⟨hleft,rfl⟩),?_⟩
  intro status hnone
  cases hnone
 | some member=>
  have hleft:member.status=.left:=by
   by_contra hactive
   obtain ⟨hfresh,hactive⟩:=not_resurrects_iff.1 haccepted.final identity member hm hactive
   exact hseen.1.elim hfresh hactive
  rw [Option.map_some,hleft]
  refine ⟨.inr rfl,?_⟩
  intro status hsome
  exact (Option.some.inj hsome).symm

lemma participantStep_keeps (h:Keyed s.members) {event:ParticipantEvent}
  (hstep:participantStep node s event t):Keeps node s t:=by
 have hkept:Keeps node s s:=.of_same h rfl rfl
 have hobserve:∀u stored member reachability,Keeps node s u →
  u.coordinatorIdentity=some stored → u.members.lookup stored=some member →
  Keeps node s (u.replaceMember { member with reachability:=reachability }):=by
  intro u stored member reachability hu _ hm
  exact hu.trans (replaceMember_keeps hu.keyed hm (hu.keyed _ member hm) fun _=>rfl)
 refine participantStep_rule (P := Keeps node s) hstep hkept ?_ (fun _ _ _ _=>
  .of_same h rfl rfl) (fun _ _ hu hsame=>hu.congr hsame.members hsame.retired) hobserve ?_
 · intro record source now _
   exact handleControl_rule (P := Keeps node s) now hkept
    (fun _ _=>applyWireSnapshot_keeps h record.revision record.members)
    (fun _ _ hu hnoted=>hu.congr hnoted.members hnoted.retired) hobserve
 · intro member status hm _
   exact replaceMember_keeps h hm (h _ member hm) fun hne=>absurd rfl hne

lemma keyed_of_reachable (h:(participantSystem node).Reachable s):Keyed s.members:=by
 refine h.invariant (I := fun s=>Keyed s.members) ?_ fun s event t _ hs hstep=>
  (participantStep_keeps hs hstep).keyed
 rintro s ⟨now,rfl⟩
 exact keyed_insert keyed_empty rfl

end

/-- Leaving is final at a coordinator and in the view of a participant. A member is up only by
 a confirmation of its pending join, the coordinator itself when it forms the cluster. -/
theorem left_is_final (node:Coordinator) (member:Participant):
  (∀r r' identity,(system node).Reachable r → (system node).Runs r r' →
   (r.data.members.lookup identity).map ClusterMember.status=some .left →
   ∀found,r'.data.members.lookup identity=some found → found.status=.left) ∧
  (∀r event r' identity,(system node).Reachable r → (system node).step r event r' →
   (r'.data.members.lookup identity).map ClusterMember.status=some .up →
   (r.data.members.lookup identity).map ClusterMember.status≠some .up →
   event=.caller .form ∧ identity=node.selfIdentity ∨
   ∃message now deadline,event=.worker (.joinConfirm message identity now) ∧
    Confirms r message identity now deadline) ∧
  ∀s t identity,(participantSystem member).Reachable s → (participantSystem member).Runs s t →
   identity≠member.identity → shownStatus s identity=some .left →
   ∀status,shownStatus t identity=some status → status=.left:=by
 refine ⟨?_,?_,?_⟩
 · intro r r' identity hr hruns hleft found hfound
   have hgone:Gone r'.data identity:=hruns.stable (P := fun r=>Gone r.data identity)
    (fun r event r' hr hgone hstep=>
     (step_progress (reachable_sound hr) hstep).gone hgone) hr (.inr hleft)
   exact hgone.left (reachable_sound (hr.runs hruns)).inv hfound
 · intro r event r' identity hr hstep hup hbefore
   have hrises:=up_of_step hr hstep hup hbefore
   cases event with
   | caller event=>
    cases event with
    | form=>exact .inl ⟨rfl,hrises⟩
    | _=>exact hrises.elim
   | worker event=>
    cases event with
    | joinConfirm message source now=>
     obtain ⟨rfl,haccepted⟩:=hrises
     obtain ⟨deadline,hconfirms⟩:=confirms_of_accepted (reachable_issued hr) haccepted
     exact .inr ⟨message,now,deadline,rfl,hconfirms⟩
    | _=>exact hrises.elim
 · intro s t identity hs hruns hne hleft
   have hseen:SeenLeft s identity:=by
    refine ⟨.inr hleft,fun status hstatus=>?_⟩
    rw [hleft] at hstatus
    exact (Option.some.inj hstatus).symm
   exact (hruns.stable (P := fun s=>SeenLeft s identity)
    (fun s event t hs hseen hstep=>(participantStep_keeps (keyed_of_reachable hs)
     hstep).seen identity hne hseen) hs hseen).2

lemma south_ne_north : "south" ≠ "north" := by decide

def southNode : Participant:=
 ⟨ordersConfig,south,southEndpoint,south_ne_north⟩

theorem left_is_final_evicted : ∃r r',(system north).Reachable r ∧
  (system north).Runs r r' ∧
  (r.data.members.lookup south).map ClusterMember.status=some .left ∧
  r'.data.members.lookup south=none ∧
  ∀t,(system north).Runs r' t → ∀found,
   t.data.members.lookup south=some found → found.status=.left:=by
 let evicts:Event:=
  .worker (.joinRequest eastJoins east eastEndpoint (toUUID 10) 3)
 refine ⟨_,_,southLeft.2,.single ⟨evicts,rfl,_,_,rfl,rfl⟩,rfl,rfl,fun t ht=>?_⟩
 exact (left_is_final north southNode).1 _ t _ southLeft.2 (.head ⟨evicts,rfl,_,_,rfl,rfl⟩ ht) rfl

end Movie.ClusterTerminal
