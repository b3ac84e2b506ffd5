import Movie.ClusterHistory

/-!
# How the members of a coordinator change

Statuses only move forward, an entry disappears when its join expires or its tombstone is retired,
and a retired identity is never given an entry again.
-/
namespace Movie.ClusterProgress

open Checked DurableModel Handshake ClusterModel ClusterCoordinator ClusterSections
 ClusterInvariant ClusterHistory Reachability

def rank : MemberStatus → ℕ
 | .joining=>0
 | .up=>1
 | .leaving=>2
 | .left=>3

inductive Fate (node:Coordinator) (rises:MemberIdentity → Prop) (s t:CoordinatorState)
  (identity:MemberIdentity):Prop where
 | kept (hsame:t.members.lookup identity=s.members.lookup identity)
 | joined (member:ClusterMember) (hbefore:s.members.lookup identity=none)
  (hafter:t.members.lookup identity=some member) (hjoining:member.status=.joining)
  (hfresh:identity∉s.retiredIdentities) (hserving:s.state.Serving)
  (hpeer:node.peers identity.systemName=some member.endpoint)
  (halone:∀other found,s.members.lookup other=some found → found.Active →
   other.systemName≠identity.systemName)
 | expired (member:ClusterMember) (hbefore:s.members.lookup identity=some member)
  (hafter:t.members.lookup identity=none) (hjoining:member.status=.joining)
 | evicted (member:ClusterMember) (hbefore:s.members.lookup identity=some member)
  (hafter:t.members.lookup identity=none) (hleft:member.status=.left)
  (hretired:identity∈t.retiredIdentities)
 | replaced (member member':ClusterMember) (hbefore:s.members.lookup identity=some member)
  (hafter:t.members.lookup identity=some member')
  (hendpoint:member'.endpoint=member.endpoint)
  (hrank:rank member.status ≤ rank member'.status)
  (hup:member'.status=.up → member.status=.up ∨ rises identity)

structure Progress (node:Coordinator) (rises:MemberIdentity → Prop) (s t:CoordinatorState):
  Prop where
 retired:s.retiredIdentities ⊆ t.retiredIdentities
 fate:∀identity,Fate node rises s t identity

section

variable {node:Coordinator} {U:MemberIdentity → Prop} {s t u:CoordinatorState}
 {identity:MemberIdentity}

lemma Progress.of_same (hmembers:t.members=s.members)
  (hretired:t.retiredIdentities=s.retiredIdentities):Progress node U s t:=
 ⟨hretired.ge,fun _=>.kept (by rw [hmembers])⟩

lemma Progress.of_alters (ha:Alters s t identity)
  (hretired:s.retiredIdentities ⊆ t.retiredIdentities) (hfate:Fate node U s t identity):
  Progress node U s t:=by
 refine ⟨hretired,fun other=>?_⟩
 by_cases heq:other=identity
 · rw [heq]
   exact hfate
 · exact .kept (ha.members other heq)

lemma advance_progress (member':ClusterMember) {member:ClusterMember}
  (hm:s.members.lookup member'.identity=some member) (hendpoint:member'.endpoint=member.endpoint)
  (hrank:rank member.status ≤ rank member'.status)
  (hup:member'.status=.up → member.status=.up ∨ U member'.identity):
  Progress node U s (s.advance member'):=
 .of_alters (alters_advance s member') (Finset.Subset.refl _)
  (.replaced member member' hm (lookup_replaceMember_self s.toMemberView member') hendpoint hrank
   hup)

lemma Progress.congr (h:Progress node U s t) (hmembers:u.members=t.members)
  (hretired:u.retiredIdentities=t.retiredIdentities):Progress node U s u:=by
 refine ⟨hretired▸h.retired,fun identity=>?_⟩
 cases h.fate identity with
 | kept hsame=>exact .kept (hmembers▸hsame)
 | joined member hbefore hafter hjoining hfresh hserving hpeer halone=>
  exact .joined member hbefore (hmembers▸hafter) hjoining hfresh hserving hpeer halone
 | expired member hbefore hafter hjoining=>
  exact .expired member hbefore (hmembers▸hafter) hjoining
 | evicted member hbefore hafter hleft hmem=>
  exact .evicted member hbefore (hmembers▸hafter) hleft (hretired▸hmem)
 | replaced member member' hbefore hafter hendpoint hrank hup=>
  exact .replaced member member' hbefore (hmembers▸hafter) hendpoint hrank hup

lemma setSelfStatus_progress (h:Inv node s) {status:MemberStatus}
  (hrank:∀member,s.members.lookup node.selfIdentity=some member →
   rank member.status ≤ rank status) (hup:status=.up → U node.selfIdentity):
  Progress node U s (setSelfStatus node status s):=by
 obtain ⟨member,hm⟩:=Option.isSome_iff_exists.1 h.own
 have hid:=(h.tidy _).keyed member hm
 unfold setSelfStatus
 rw [hm]
 rw [←hid] at hm
 exact advance_progress { member with status:=status } hm rfl (hrank member (hid▸hm))
  fun hstatus=>.inr (hid▸hup hstatus)

lemma rank_le_left (status:MemberStatus):rank status ≤ rank .left:=by
 cases status <;> decide

lemma finishStop_progress (h:Inv node s):Progress node U s (finishStop node s):=by
 obtain ⟨member,hm⟩:=Option.isSome_iff_exists.1 h.own
 have hid:=(h.tidy _).keyed member hm
 have hleft:Progress node U s (s.advance { member with status:=.left }):=by
  rw [←hid] at hm
  exact advance_progress { member with status:=.left } hm rfl (rank_le_left _) nofun
 unfold finishStop
 rw [hm]
 dsimp only
 split
 · exact .of_same rfl rfl
 · exact hleft.congr rfl rfl

lemma down_progress (h:Inv node s) {changed:Bool}
  (hdown:down node s identity=.ok (t,changed)):Progress node U s t:=by
 obtain rfl|⟨member,hm,-,-,-,rfl⟩:=down_cases hdown
 · exact .of_same rfl rfl
 · obtain rfl:=h.keyed identity member hm
   exact (advance_progress { member with status:=.left } hm rfl (rank_le_left _)
    nofun).congr rfl rfl

lemma handleJoinConfirm_progress (h:Inv node s) (message:JoinConfirm)
  (source:MemberIdentity) (now:ℤ)
  (hrises:(handleJoinConfirm node s message source now).2=true → U source):
  Progress node U s (handleJoinConfirm node s message source now).1:=by
 obtain heq|⟨member,hm,hjoining,-,heq⟩:=handleJoinConfirm_cases node s message source now
 · rw [heq]
   exact .of_same rfl rfl
 · rw [heq]
   obtain rfl:=h.keyed source member hm
   rw [heq] at hrises
   refine (advance_progress (s := s) { member with status:=.up } hm rfl ?_
    fun _=>.inr (hrises rfl)).congr rfl rfl
   rw [hjoining]
   exact Nat.zero_le _

lemma handleHeartbeat_progress (h:Inv node s) (message:Heartbeat) (source:MemberIdentity)
  (now:ℤ):Progress node U s (handleHeartbeat node s message source now).1:=by
 obtain heq|⟨member,t,_,hm,-,-,ht,heq⟩:=handleHeartbeat_cases node s message source now
 · rw [heq]
   exact .of_same rfl rfl
 · rw [heq]
   obtain rfl:=h.keyed source member hm
   rcases ht with ⟨-,rfl⟩|⟨-,rfl⟩
   · exact .of_same rfl rfl
   · exact (advance_progress (s := s) { member with reachability:=.reachable } hm rfl le_rfl
      .inl).congr rfl rfl

lemma handleLeave_progress (h:Inv node s) (message:Leave) (source:MemberIdentity):
  Progress node U s (handleLeave node s message source).1:=by
 obtain heq|⟨member,hm,-,⟨hup,heq⟩|⟨-,heq⟩⟩:=handleLeave_cases node s message source
 · rw [heq]
   exact .of_same rfl rfl
 · rw [heq]
   obtain rfl:=h.keyed source member hm
   refine advance_progress { member with status:=.leaving } hm rfl ?_ nofun
   rw [hup]
   exact Nat.le_succ 1
 · rw [heq]
   exact .of_same rfl rfl

lemma finishLeave_progress (h:Inv node s) (identity:MemberIdentity) (requestId:UUID):
  Progress node U s (finishLeave node s identity requestId).1:=by
 unfold finishLeave
 split
 · exact .of_same rfl rfl
 · rename_i member hm
   obtain rfl:=h.keyed identity member hm
   dsimp only
   split
   · exact .of_same rfl rfl
   · exact (advance_progress { member with status:=.left } hm rfl (rank_le_left _)
      nofun).congr rfl rfl

lemma expireProvisionalJoin_progress (identity:MemberIdentity) (requestId:UUID):
  Progress node U s (expireProvisionalJoin s identity requestId):=by
 unfold expireProvisionalJoin
 split
 · rename_i hc
   obtain ⟨member,hm,hjoining⟩:=Option.map_eq_some_iff.1 hc.2
   have hexpired:Progress node U s (s.removeMember identity):=
    .of_alters (alters_removeMember s identity) (Finset.Subset.refl _)
     (.expired member hm (AList.lookup_erase _ _) hjoining)
   exact hexpired.congr rfl rfl
 · exact .of_same rfl rfl

lemma detectUnreachableMembers_lookup (node:Coordinator) (now:ℤ)
  {items:List (Σ _:MemberIdentity,ClusterMember)} (hitems:Listed s items)
  (identity:MemberIdentity):
  (detectUnreachableMembers node now s items).1.retiredIdentities=s.retiredIdentities ∧
  ((detectUnreachableMembers node now s items).1.members.lookup identity =
   s.members.lookup identity ∨
   ∃member∈s.members.lookup identity,
    (detectUnreachableMembers node now s items).1.members.lookup identity =
     some { member with reachability:=.unreachable }):=by
 induction items generalizing s with
 | nil=>exact ⟨rfl,.inl rfl⟩
 | cons item rest ih=>
  unfold detectUnreachableMembers
  split
  · exact ih hitems.tail
  · obtain ⟨hretired,hlookup⟩:=ih hitems.advance
    refine ⟨hretired,?_⟩
    by_cases heq:identity=item.2.identity
    · subst heq
      have hself:(s.advance { item.2 with reachability:=.unreachable }).members.lookup
       item.2.identity=some { item.2 with reachability:=.unreachable }:=
       lookup_replaceMember_self s.toMemberView { item.2 with reachability:=.unreachable }
      refine .inr ⟨item.2,hitems.head.2,?_⟩
      rcases hlookup with hsame|⟨again,hagain,hafter⟩
      · exact hsame.trans hself
      · rw [hself] at hagain
        cases hagain
        exact hafter
    · rwa [(alters_advance s { item.2 with reachability:=.unreachable }).members identity heq]
       at hlookup

lemma detectUnreachableMembers_progress (h:Inv node s) (now:ℤ):
  Progress node U s (detectUnreachableMembers node now s s.members.entries).1:=by
 have hspec:=detectUnreachableMembers_lookup node now h.listed
 refine ⟨(hspec node.selfIdentity).1.ge,fun identity=>?_⟩
 rcases (hspec identity).2 with hsame|⟨member,hm,hafter⟩
 · exact .kept hsame
 · exact .replaced member _ hm hafter rfl le_rfl .inl

lemma handleJoinRequest_cases (hsize:s.members.keys.length≤node.config.memberLimit)
  (message:JoinRequest) (source:MemberIdentity) (sourceEndpoint:Endpoint) (token:UUID) (now:ℤ):
  ((handleJoinRequest node s message source sourceEndpoint token now).1.members=s.members ∧
   (handleJoinRequest node s message source sourceEndpoint token now).1.retiredIdentities =
    s.retiredIdentities) ∨
  (s.members.lookup source=none ∧ JoinRequestValid node message source sourceEndpoint ∧
   s.state.Serving ∧ ¬JoinRefused s source message.requestId ∧
   ∃reserved:CoordinatorState,
    (reserved.members=s.members ∧ reserved.retiredIdentities=s.retiredIdentities ∨
     ∃identity,(s.members.lookup identity).map ClusterMember.status=some .left ∧
      reserved.members=s.members.erase identity ∧
      reserved.retiredIdentities=insert identity s.retiredIdentities) ∧
    (handleJoinRequest node s message source sourceEndpoint token now).1.members =
     (reserved.advance ⟨source,sourceEndpoint,.joining,.reachable⟩).members ∧
    (handleJoinRequest node s message source sourceEndpoint token now).1.retiredIdentities =
     reserved.retiredIdentities):=by
 unfold handleJoinRequest
 dsimp only
 split
 · exact .inl ⟨rfl,rfl⟩
 rename_i hvalid
 split
 · exact .inl ⟨rfl,rfl⟩
 rename_i hserving
 split
 · exact .inl ⟨rfl,rfl⟩
 rename_i hrefused
 split
 · exact .inl ⟨rfl,rfl⟩
 rename_i hsome
 obtain ⟨rest,-,hfails|⟨-,hfits⟩|⟨identity,-,hleft,-,hevicts⟩⟩:=
  reserveMemberCapacity_cases hsize s.leftOrder
 · rw [hfails]
   exact .inl ⟨rfl,rfl⟩
 · rw [hfits]
   exact .inr ⟨Option.not_isSome_iff_eq_none.1 hsome,not_not.1 hvalid,not_not.1 hserving,
    hrefused,_,.inl ⟨rfl,rfl⟩,rfl,rfl⟩
 · rw [hevicts]
   exact .inr ⟨Option.not_isSome_iff_eq_none.1 hsome,not_not.1 hvalid,not_not.1 hserving,
    hrefused,_,.inr ⟨identity,hleft,rfl,rfl⟩,rfl,rfl⟩

lemma alone_of_not_refused (h:Inv node s) {source:MemberIdentity} {requestId:UUID}
  (hnone:s.members.lookup source=none) (hrefused:¬JoinRefused s source requestId)
  (other:MemberIdentity) (found:ClusterMember) (hm:s.members.lookup other=some found)
  (hactive:found.Active):other.systemName≠source.systemName:=by
 intro hname
 have hid:=(h.tidy other).keyed found hm
 refine hrefused (.inl ⟨found,mem_values.2 ⟨other,hm⟩,hid▸hname,?_,hactive⟩)
 rintro rfl
 rw [←hid,hnone] at hm
 cases hm

lemma handleJoinRequest_progress (h:Inv node s) (message:JoinRequest)
  (source:MemberIdentity) (sourceEndpoint:Endpoint) (token:UUID) (now:ℤ):
  Progress node U s (handleJoinRequest node s message source sourceEndpoint token now).1:=by
 obtain ⟨hmembers,hretired⟩|⟨hnone,hvalid,hserving,hrefused,reserved,hreserved,hmembers,
  hretired⟩:=handleJoinRequest_cases h.size message source sourceEndpoint token now
 · exact .of_same hmembers hretired
 let member:ClusterMember:=⟨source,sourceEndpoint,.joining,.reachable⟩
 have ha:=alters_advance reserved member
 have hpeer:node.peers source.systemName=some sourceEndpoint:=by
  obtain ⟨-,-,hsource,hendpoint,hpeers⟩:=hvalid
  rw [hsource,hendpoint]
  exact hpeers
 have hjoined:Fate node U s
  (handleJoinRequest node s message source sourceEndpoint token now).1 source:=by
  refine .joined member hnone ?_ rfl (fun hmem=>hrefused (.inr (.inl hmem))) hserving hpeer
   (alone_of_not_refused h hnone hrefused)
  rw [hmembers]
  exact lookup_replaceMember_self reserved.toMemberView member
 refine ⟨?_,fun identity=>?_⟩
 · rw [hretired]
   rcases hreserved with ⟨-,hsame⟩|⟨_,-,-,hinsert⟩
   · exact hsame.ge
   · rw [hinsert]
     exact Finset.subset_insert _ _
 · by_cases heq:identity=source
   · rw [heq]
     exact hjoined
   · have hkept:(handleJoinRequest node s message source sourceEndpoint token
      now).1.members.lookup identity=reserved.members.lookup identity:=by
      rw [hmembers]
      exact ha.members identity heq
     rcases hreserved with ⟨hsame,-⟩|⟨retired,hleft,herase,hinsert⟩
     · exact .kept (hkept.trans (by rw [hsame]))
     · by_cases hevicted:identity=retired
       · subst hevicted
         obtain ⟨found,hfound,hstatus⟩:=Option.map_eq_some_iff.1 hleft
         refine .evicted found hfound ?_ hstatus ?_
         · rw [hkept,herase,AList.lookup_erase]
         · rw [hretired,hinsert]
           exact Finset.mem_insert_self _ _
       · refine .kept (hkept.trans ?_)
         rw [herase,AList.lookup_erase_ne hevicted]

end

section

variable {node:Coordinator} {r r':CoordinatorRun}

/-- Who becomes up in a step: the coordinator when it forms the cluster, and the sender of a
 confirmation that is accepted. -/
def Rises (node:Coordinator) (r:CoordinatorRun):Event → MemberIdentity → Prop
 | .caller .form,identity=>identity=node.selfIdentity
 | .worker (.joinConfirm message source now),identity=>identity=source ∧
  (handleJoinConfirm node r.data message source now).2=true
 | _,_=>False

lemma workerStep_progress (h:Sound node r) {event:WorkerEvent} (hstep:workerStep node r event r'):
  Progress node (Rises node r (.worker event)) r.data r'.data:=by
 cases event with
 | joinRequest message source sourceEndpoint token now=>
  obtain ⟨-,data,record,heq,rfl⟩:=hstep
  have hprogress:=handleJoinRequest_progress (U := Rises node r
   (.worker (.joinRequest message source sourceEndpoint token now))) h.inv message source
   sourceEndpoint token now
  rwa [heq] at hprogress
 | acceptedSent returned=>
  obtain ⟨identity,requestId,-,rfl⟩:=hstep
  dsimp only
  split
  · exact .of_same rfl rfl
  · exact expireProvisionalJoin_progress identity requestId
 | joinConfirm message source now=>
  obtain ⟨-,data,changed,heq,rfl⟩:=hstep
  have hprogress:=handleJoinConfirm_progress (U := Rises node r
   (.worker (.joinConfirm message source now))) h.inv message source now fun hup=>⟨rfl,hup⟩
  rwa [heq] at hprogress
 | heartbeat message source now returned=>
  obtain ⟨-,data,ack,heq,rfl⟩:=hstep
  have hprogress:=handleHeartbeat_progress (U := Rises node r
   (.worker (.heartbeat message source now returned))) h.inv message source now
  rwa [heq] at hprogress
 | leave message source=>
  obtain ⟨-,data,wasUp,heq,rfl⟩:=hstep
  have hprogress:=handleLeave_progress (U := Rises node r (.worker (.leave message source)))
   h.inv message source
  rwa [heq] at hprogress
 | leaveFinishes=>
  obtain ⟨identity,requestId,data,record,-,heq,rfl⟩:=hstep
  have hprogress:=finishLeave_progress (U := Rises node r (.worker .leaveFinishes))
   h.inv identity requestId
  rwa [heq] at hprogress
 | expireNext=>
  obtain ⟨identity,requestId,rest,-,rfl⟩:=hstep
  exact expireProvisionalJoin_progress identity requestId
 | detect=>
  obtain ⟨now,data,changed,-,heq,rfl⟩:=hstep
  have hprogress:=detectUnreachableMembers_progress (U := Rises node r (.worker .detect))
   h.inv now
  rwa [heq] at hprogress
 | tick now=>
  obtain ⟨-,-,-,rfl⟩:=hstep
  exact .of_same rfl rfl
 | expire | expireEnds | workerEnds=>
  obtain ⟨-,rfl⟩:=hstep
  exact .of_same rfl rfl
 | workerFails=>
  obtain ⟨-,-,rfl⟩:=hstep
  exact .of_same rfl rfl

lemma callerStep_progress (h:Sound node r) {event:CallerEvent} (hstep:callerStep node r event r'):
  Progress node (Rises node r (.caller event)) r.data r'.data:=by
 have hstatus:∀ {status:MemberStatus},selfStatus node r.data=some status →
  ∀member,r.data.members.lookup node.selfIdentity=some member →
   member.status=status:=by
  intro status hself member hm
  rw [selfStatus_of_lookup hm] at hself
  exact Option.some.inj hself
 cases event with
 | form=>
  obtain ⟨hentered,rfl⟩:=hstep
  refine setSelfStatus_progress h.inv (fun member hm=>?_) fun _=>rfl
  rw [hstatus (h.phases.entered hentered) member hm]
  exact Nat.zero_le _
 | announce=>
  obtain ⟨hannouncing,rfl⟩:=hstep
  refine setSelfStatus_progress h.inv (fun member hm=>?_) nofun
  rw [hstatus (h.phases.announcing hannouncing) member hm]
  exact Nat.le_succ 1
 | depart=>
  obtain ⟨-,rfl⟩:=hstep
  exact setSelfStatus_progress h.inv (fun member _=>rank_le_left _) nofun
 | stopFinishes=>
  obtain ⟨-,-,rfl⟩:=hstep
  exact finishStop_progress h.inv
 | down identity=>
  obtain ⟨data,changed,hdown,rfl⟩:=hstep
  exact down_progress h.inv hdown
 | broadcast=>
  obtain ⟨before,exclude,after,-,rfl⟩:=hstep
  exact .of_same rfl rfl
 | start | launch | startFails | stop | stopDecides=>
  obtain ⟨-,-,rfl⟩:=hstep
  exact .of_same rfl rfl
 | startReturns | stopFails=>
  obtain ⟨-,rfl⟩:=hstep
  exact .of_same rfl rfl

lemma step_progress (h:Sound node r) {event:Event} (hstep:(system node).step r event r'):
  Progress node (Rises node r event) r.data r'.data:=by
 cases event with
 | caller event=>exact callerStep_progress h hstep
 | worker event=>exact workerStep_progress h hstep

end

def Reached (bound:ℕ) (s:CoordinatorState) (identity:MemberIdentity):Prop:=
 identity∈s.retiredIdentities ∨
  ∃member,s.members.lookup identity=some member ∧ bound ≤ rank member.status

def Gone (s:CoordinatorState) (identity:MemberIdentity):Prop:=
 identity∈s.retiredIdentities ∨
  (s.members.lookup identity).map ClusterMember.status=some .left

def Seated (s:CoordinatorState) (identity:MemberIdentity):Prop:=
 identity∈s.retiredIdentities ∨
  ∃member,s.members.lookup identity=some member ∧ member.status≠.joining

section

variable {node:Coordinator} {U:MemberIdentity → Prop} {s t:CoordinatorState}
 {identity:MemberIdentity}

lemma Progress.reached (h:Progress node U s t) {bound:ℕ} (hpos:0<bound)
  (hreached:Reached bound s identity):Reached bound t identity:=by
 rcases hreached with hretired|⟨member,hm,hle⟩
 · exact .inl (h.retired hretired)
 have hsame:∀found,s.members.lookup identity=some found → found=member:=
  fun found hfound=>Option.some.inj (hfound.symm.trans hm)
 cases h.fate identity with
 | kept hkept=>exact .inr ⟨member,hkept.trans hm,hle⟩
 | joined _ hbefore=>
  rw [hm] at hbefore
  cases hbefore
 | expired found hbefore _ hjoining=>
  rw [hsame found hbefore] at hjoining
  rw [hjoining] at hle
  exact absurd hle (Nat.not_le.2 hpos)
 | evicted _ _ _ _ hretired=>exact .inl hretired
 | replaced found member' hbefore hafter _ hrank=>
  rw [hsame found hbefore] at hrank
  exact .inr ⟨member',hafter,hle.trans hrank⟩

lemma rank_eq_left {status:MemberStatus}:3 ≤ rank status ↔ status=.left:=by
 cases status <;> decide

lemma rank_ne_joining {status:MemberStatus}:1 ≤ rank status ↔ status≠.joining:=by
 cases status <;> decide

lemma gone_iff : Gone s identity ↔ Reached 3 s identity:=by
 unfold Gone Reached
 rw [Option.map_eq_some_iff]
 simp only [rank_eq_left]

lemma seated_iff : Seated s identity ↔ Reached 1 s identity:=by
 unfold Seated Reached
 simp only [rank_ne_joining]

lemma Progress.gone (h:Progress node U s t) (hgone:Gone s identity):Gone t identity:=
 gone_iff.2 (h.reached (by decide) (gone_iff.1 hgone))

lemma Progress.seated (h:Progress node U s t) (hseated:Seated s identity):
  Seated t identity:=
 seated_iff.2 (h.reached (by decide) (seated_iff.1 hseated))

lemma Gone.left (h:Inv node s) (hgone:Gone s identity) {member:ClusterMember}
  (hm:s.members.lookup identity=some member):member.status=.left:=by
 rcases hgone with hretired|hleft
 · rw [h.disjoint identity hretired] at hm
   cases hm
 · rw [hm,Option.map_some] at hleft
   exact Option.some.inj hleft

lemma Seated.ne_joining (h:Inv node s) (hseated:Seated s identity) {member:ClusterMember}
  (hm:s.members.lookup identity=some member):member.status≠.joining:=by
 rcases hseated with hretired|⟨found,hfound,hstatus⟩
 · rw [h.disjoint identity hretired] at hm
   cases hm
 · rw [Option.some.inj (hm.symm.trans hfound)]
   exact hstatus

end

end Movie.ClusterProgress
