import Movie.Handshake
import Mathlib.Data.List.AList

/-!
# Values of the cluster membership protocol

The members, control records and configuration of `cluster/model.py`, `cluster/_protocol.py` and
`cluster/config.py`. Control records are values that passed their codec.
-/
namespace Movie.ClusterModel

open Checked DurableModel Handshake

inductive MemberStatus where
 | joining
 | up
 | leaving
 | left
 deriving DecidableEq

def MemberStatus.Departing (status:MemberStatus):Prop:=status=.leaving ∨ status=.left

instance (status:MemberStatus):Decidable status.Departing:=inferInstanceAs (Decidable (_ ∨ _))

inductive Reachability where
 | reachable
 | unreachable
 deriving DecidableEq

structure MemberIdentity where
 systemName:String
 incarnationUid:UUID
 deriving DecidableEq

structure ClusterMember where
 identity:MemberIdentity
 endpoint:Endpoint
 status:MemberStatus
 reachability:Reachability
 deriving DecidableEq

def ClusterMember.Active (member:ClusterMember):Prop:=member.status≠.left

instance (member:ClusterMember):Decidable member.Active:=
 inferInstanceAs (Decidable (_≠_))

structure WireMember where
 systemName:String
 incarnationUid:UUID
 host:String
 port:ℕ
 status:MemberStatus
 reachability:Reachability
 deriving DecidableEq

def ClusterMember.toWire (member:ClusterMember):WireMember:=
 ⟨member.identity.systemName,member.identity.incarnationUid,member.endpoint.host,
  member.endpoint.port,member.status,member.reachability⟩

def WireMember.toMember (wire:WireMember):ClusterMember:=
 ⟨⟨wire.systemName,wire.incarnationUid⟩,⟨wire.host,wire.port⟩,wire.status,
  wire.reachability⟩

lemma toMember_toWire (member:ClusterMember):member.toWire.toMember=member:=rfl

abbrev Members:=AList fun _:MemberIdentity=>ClusterMember

def Members.values (members:Members):List ClusterMember:=members.entries.map Sigma.snd

variable {members:Members} {member:ClusterMember}

lemma mem_values :
  member∈Members.values members ↔ ∃identity,members.lookup identity=some member:=by
 unfold Members.values
 rw [List.mem_map]
 constructor
 · rintro ⟨⟨identity,found⟩,hmem,rfl⟩
   exact ⟨identity,AList.mem_lookup_iff.2 hmem⟩
 · rintro ⟨identity,hm⟩
   exact ⟨⟨identity,member⟩,AList.mem_lookup_iff.1 hm,rfl⟩

def Keyed (members:Members):Prop:=
 ∀identity member,members.lookup identity=some member → member.identity=identity

lemma values_map_identity (h:Keyed members):
  (Members.values members).map ClusterMember.identity=members.keys:=by
 unfold Members.values AList.keys List.keys
 rw [List.map_map]
 refine List.map_congr_left fun entry hmem=>?_
 exact h entry.1 entry.2 (AList.mem_lookup_iff.2 hmem)

structure MemberView where
 viewRevision:ℕ
 members:Members

def MemberView.replaceMember (view:MemberView) (member:ClusterMember):MemberView:=
 if view.members.lookup member.identity=some member then view
 else ⟨view.viewRevision+1,view.members.insert member.identity member⟩

lemma lookup_replaceMember_self (view:MemberView) (member:ClusterMember):
  (view.replaceMember member).members.lookup member.identity=some member:=by
 unfold MemberView.replaceMember
 split_ifs with h
 · exact h
 · exact AList.lookup_insert _

lemma lookup_replaceMember_ne (view:MemberView)
  {identity:MemberIdentity} (hne:identity≠member.identity):
  (view.replaceMember member).members.lookup identity=view.members.lookup identity:=by
 unfold MemberView.replaceMember
 split_ifs with h
 · rfl
 · exact AList.lookup_insert_ne hne

lemma keys_replaceMember_of_mem (view:MemberView) (h:member.identity∈view.members):
  (view.replaceMember member).members.keys.length=view.members.keys.length:=by
 unfold MemberView.replaceMember
 split_ifs
 · rfl
 · have hkey:member.identity∈view.members.keys:=AList.mem_keys.1 h
   rw [AList.keys_insert,List.length_cons,List.length_erase_of_mem hkey]
   exact Nat.succ_pred_eq_of_pos (List.length_pos_of_mem hkey)

lemma keys_replaceMember_of_notMem (view:MemberView) (h:member.identity∉view.members):
  (view.replaceMember member).members.keys.length=view.members.keys.length+1:=by
 have hkey:member.identity∉view.members.keys:=fun hm=>h (AList.mem_keys.2 hm)
 unfold MemberView.replaceMember
 rw [AList.lookup_eq_none.2 h,if_neg nofun,AList.keys_insert,List.length_cons,
  List.erase_of_not_mem hkey]

def memberLe (first second:ClusterMember):Prop:=
 first.identity.systemName<second.identity.systemName ∨
 first.identity.systemName=second.identity.systemName ∧
  first.identity.incarnationUid.int ≤ second.identity.incarnationUid.int

instance : DecidableRel memberLe:=fun _ _=>inferInstanceAs (Decidable (_ ∨ _ ∧ _))

def wireMembers (members:Members):List WireMember:=
 ((Members.values members).insertionSort memberLe).map ClusterMember.toWire

lemma mem_wireMembers {wire:WireMember}:
  wire∈wireMembers members ↔ ∃identity member,members.lookup identity=some member ∧
   member.toWire=wire:=by
 unfold wireMembers
 rw [List.mem_map]
 constructor
 · rintro ⟨member,hmem,rfl⟩
   obtain ⟨identity,hm⟩:=mem_values.1 ((List.mem_insertionSort _).1 hmem)
   exact ⟨identity,member,hm,rfl⟩
 · rintro ⟨identity,member,hm,rfl⟩
   exact ⟨member,(List.mem_insertionSort _).2 (mem_values.2 ⟨identity,hm⟩),rfl⟩

lemma length_wireMembers (members:Members):
  (wireMembers members).length=members.keys.length:=by
 unfold wireMembers Members.values AList.keys List.keys
 rw [List.length_map,List.length_insertionSort,List.length_map,List.length_map]

lemma nodup_wireMembers (h:Keyed members):
  ((wireMembers members).map fun wire=>wire.toMember.identity).Nodup:=by
 unfold wireMembers
 rw [List.map_map]
 have hperm:=(List.perm_insertionSort memberLe (Members.values members)).map
  ClusterMember.identity
 refine hperm.nodup_iff.2 ?_
 rw [values_map_identity h]
 exact members.keys_nodup

/-- The regular expression `[A-Za-z0-9._~-]{1,255}`. -/
def ValidClusterName (value:String):Prop:=
 value ≠ "" ∧ value.length≤255 ∧
  (value.toList.all fun character=>
   character.isAlphanum || ['.','_','~','-'].contains character)=true

instance (value:String):Decidable (ValidClusterName value):=
 inferInstanceAs (Decidable (_ ∧ _ ∧ _))

structure SeedContact where
 systemName:String
 endpoint:Endpoint

/-- Times are readings of the monotonic clock in some unit. `fingerprint` stands for
 `_compatibility_fingerprint`. -/
structure ClusterConfig where
 name:String
 seed:SeedContact
 unreachableTimeout:ℤ
 joinTimeout:ℤ
 memberLimit:ℕ
 retiredIdentityLimit:ℕ
 fingerprint:String
 name_valid:ValidClusterName name
 memberLimit_pos:0 < memberLimit
 memberLimit_le:memberLimit≤256
 retiredIdentityLimit_pos:0<retiredIdentityLimit

structure MembershipSnapshot where
 clusterName:String
 revision:ℕ
 selfIdentity:MemberIdentity
 members:List ClusterMember

def checkMembers (identities:List MemberIdentity) (activeNames:List String):
  List ClusterMember → Except String (List MemberIdentity)
 | []=>.ok identities
 | member::rest=>do
  reject (member.identity∈identities) "membership member identities must be unique"
  if member.Active then do
   reject (member.identity.systemName∈activeNames)
    "membership cannot contain multiple active incarnations with one actor-system name"
   checkMembers (member.identity::identities) (member.identity.systemName::activeNames) rest
  else checkMembers (member.identity::identities) activeNames rest

def MembershipSnapshot.create (clusterName:String) (revision:ℕ)
  (selfIdentity:MemberIdentity) (members:List ClusterMember):
  Except String MembershipSnapshot:=do
 reject (¬ValidClusterName clusterName)
  "cluster name must be 1-255 ASCII URI-unreserved characters"
 let identities ← checkMembers [] [] members
 reject (selfIdentity∉identities) "membership snapshot must contain self identity"
 return ⟨clusterName,revision,selfIdentity,members.insertionSort memberLe⟩

lemma checkMembers_ok {members:List ClusterMember} {identities:List MemberIdentity}
  {activeNames:List String} (hidentities:∀member∈members,member.identity∉identities)
  (hnames:∀member∈members,member.Active → member.identity.systemName∉activeNames)
  (hunique:members.Pairwise fun first second=>first.identity≠second.identity)
  (hactive:members.Pairwise fun first second=>first.Active → second.Active →
   first.identity.systemName≠second.identity.systemName):
  ∃result,checkMembers identities activeNames members=.ok result ∧
   identities ⊆ result ∧ ∀member∈members,member.identity∈result:=by
 induction members generalizing identities activeNames with
 | nil=>exact ⟨identities,rfl,List.Subset.refl _,fun _ hmem=>absurd hmem List.not_mem_nil⟩
 | cons member rest ih=>
  rw [List.pairwise_cons] at hunique hactive
  have hrest:∀other∈rest,other.identity∉member.identity::identities:=by
   intro other hmem hother
   rcases List.mem_cons.1 hother with heq|hother
   · exact hunique.1 other hmem heq.symm
   · exact hidentities other (List.mem_cons_of_mem _ hmem) hother
  have hself:member.identity∉identities:=hidentities member List.mem_cons_self
  have hgrows:∀ {names:List String},
   (∃result,checkMembers (member.identity::identities) names rest=.ok result ∧
    member.identity::identities ⊆ result ∧
    ∀other∈rest,other.identity∈result) →
   ∃result,checkMembers (member.identity::identities) names rest=.ok result ∧
    identities ⊆ result ∧ ∀other∈member::rest,other.identity∈result:=by
   rintro names ⟨result,hok,hsubset,hmembers⟩
   refine ⟨result,hok,fun _ hmem=>hsubset (List.mem_cons_of_mem _ hmem),?_⟩
   intro other hmem
   rcases List.mem_cons.1 hmem with rfl|hmem
   · exact hsubset List.mem_cons_self
   · exact hmembers other hmem
  unfold checkMembers
  simp only [bind_reject_eq_ok]
  by_cases ha:member.Active
  · have hname:member.identity.systemName∉activeNames:=
     hnames member List.mem_cons_self ha
    rw [if_pos ha]
    simp only [bind_reject_eq_ok,hself,hname,not_false_eq_true,true_and]
    refine hgrows (ih hrest ?_ hunique.2 hactive.2)
    intro other hmem hother hin
    rcases List.mem_cons.1 hin with heq|hin
    · exact hactive.1 other hmem ha hother heq.symm
    · exact hnames other (List.mem_cons_of_mem _ hmem) hother hin
  · rw [if_neg ha]
    simp only [hself,not_false_eq_true,true_and]
    exact hgrows (ih hrest (fun other hmem=>hnames other (List.mem_cons_of_mem _ hmem))
     hunique.2 hactive.2)

lemma MembershipSnapshot.create_ok {clusterName:String} {revision:ℕ}
  {selfIdentity:MemberIdentity} {members:List ClusterMember} (hname:ValidClusterName clusterName)
  (hunique:members.Pairwise fun first second=>first.identity≠second.identity)
  (hactive:members.Pairwise fun first second=>first.Active → second.Active →
   first.identity.systemName≠second.identity.systemName)
  (hself:∃member∈members,member.identity=selfIdentity):
  ∃snapshot,MembershipSnapshot.create clusterName revision selfIdentity members =
   .ok snapshot:=by
 have hchecked:∃result,checkMembers [] [] members=.ok result ∧ [] ⊆ result ∧
  ∀member∈members,member.identity∈result:=
  checkMembers_ok (fun _ _=>List.not_mem_nil) (fun _ _ _=>List.not_mem_nil) hunique hactive
 obtain ⟨result,hok,-,hmembers⟩:=hchecked
 obtain ⟨member,hmem,rfl⟩:=hself
 refine ⟨⟨clusterName,revision,member.identity,members.insertionSort memberLe⟩,?_⟩
 unfold MembershipSnapshot.create
 rw [bind_reject_eq_ok]
 refine ⟨not_not.2 hname,?_⟩
 rw [bind_of_ok hok,bind_reject_eq_ok]
 exact ⟨not_not.2 (hmembers member hmem),rfl⟩

structure JoinRequest where
 clusterName:String
 configFingerprint:String
 sourceSystemName:String
 sourceIncarnationUid:UUID
 sourceHost:String
 sourcePort:ℕ
 sourceControlActorUid:UUID
 targetIncarnationUid:UUID
 requestId:UUID

structure JoinConfirm where
 clusterName:String
 sourceSystemName:String
 sourceIncarnationUid:UUID
 targetIncarnationUid:UUID
 requestId:UUID
 membershipToken:UUID

structure Heartbeat where
 clusterName:String
 sourceSystemName:String
 sourceIncarnationUid:UUID
 targetIncarnationUid:UUID
 membershipToken:UUID
 sequence:ℕ

structure Leave where
 clusterName:String
 sourceSystemName:String
 sourceIncarnationUid:UUID
 targetIncarnationUid:UUID
 membershipToken:UUID
 requestId:UUID

/-- The control records that a coordinator handles. -/
inductive Request where
 | joinRequest (message:JoinRequest)
 | joinConfirm (message:JoinConfirm)
 | heartbeat (message:Heartbeat)
 | leave (message:Leave)

inductive NoticeKind where
 | joinAccepted (requestId membershipToken:UUID)
 | heartbeatAck (membershipToken:UUID) (sequence:ℕ)
 | membershipUpdate (membershipToken:UUID)
 | leaveAck (requestId:UUID)
 deriving DecidableEq

/-- A control record of a coordinator: `_JoinAccepted`, `_HeartbeatAck`,
 `_MembershipUpdate` or `_LeaveAck`. -/
structure Notice where
 clusterName:String
 sourceSystemName:String
 sourceIncarnationUid:UUID
 targetIncarnationUid:UUID
 kind:NoticeKind
 revision:ℕ
 members:List WireMember
 deriving DecidableEq

structure RemoteActorRef where
 systemName:String
 incarnationUid:UUID
 actorUid:UUID
 endpoint:Endpoint

end Movie.ClusterModel
