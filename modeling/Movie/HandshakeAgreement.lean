import Movie.Handshake

/-!
# Both sides of a handshake compute the same agreement

`_derive_accept` runs on both sides with the arguments swapped, over descriptors in any order. Its
outcome is the same up to the error it raises.
-/
namespace Movie.HandshakeAgreement

open Wire WireFrames Serialization Handshake Checked DurableModel

variable {T U:Type} {nfc:String → Bool}

lemma checkCapabilities_congr {capabilities others:List String}
  (h:∀capability,capability∈capabilities ↔ capability∈others):
  (checkCapabilities nfc capabilities).toOption=(checkCapabilities nfc others).toOption:=by
 have hiff:checkCapabilities nfc capabilities=.ok () ↔
  checkCapabilities nfc others=.ok ():=by
  simp only [checkCapabilities,checkTexts_eq_ok,h]
 cases hfirst:checkCapabilities nfc capabilities with
 | ok=>
  rw [hiff.mp hfirst]
 | error error=>
  cases hsecond:checkCapabilities nfc others with
  | ok=>cases hfirst.symm.trans (hiff.mpr hsecond)
  | error error'=>rfl

lemma negotiateCapabilities_comm (first second:List String):
  (negotiateCapabilities nfc first second).toOption =
   (negotiateCapabilities nfc second first).toOption:=by
 have hvalue:(first.dedup.filter (·∈second)).insertionSort utf8Le =
  (second.dedup.filter (·∈first)).insertionSort utf8Le:=by
  refine (canonical_insertionSort ((List.nodup_dedup first).filter _)).ext
   (canonical_insertionSort ((List.nodup_dedup second).filter _)) fun capability=>?_
  simp only [List.mem_insertionSort,List.mem_filter,List.mem_dedup,decide_eq_true_eq]
  exact and_comm
 rw [negotiateCapabilities,negotiateCapabilities,toOption_bind,toOption_bind,hvalue,
  checkCapabilities_congr fun capability=>?_]
 rw [List.mem_append,List.mem_append,or_comm]

lemma deriveAccept_toOption (association:Association T) (own peer:Hello):
  (association.deriveAccept nfc own peer).toOption =
   (negotiateSerializers own.systemIncarnationUid own.serializers peer.systemIncarnationUid
    peer.serializers).toOption.bind fun negotiation=>
   (negotiateCapabilities nfc own.capabilities peer.capabilities).toOption.bind
    fun capabilities=>
   let initiator:=if association.initiator then own else peer
  let responder:=if association.initiator then peer else own
  some (⟨association.associationUid,min own.protocolMinor peer.protocolMinor,
   min own.maximumFrameBytes peer.maximumFrameBytes,min own.laneCount peer.laneCount,
   min initiator.outboundMessageLimit responder.inboundMessageLimit,
   min initiator.outboundByteLimit responder.inboundByteLimit,
   min responder.outboundMessageLimit initiator.inboundMessageLimit,
   min responder.outboundByteLimit initiator.inboundByteLimit,
   negotiation.routes,capabilities,0⟩,negotiation.serializers):=by
 unfold Association.deriveAccept
 cases association.initiator <;>
 · simp only [toOption_bind,toOption_mapError]
   rfl

structure Meeting (a:Association T) (b:Association U) (helloA helloB:Hello):Prop where
 initiator:a.initiator=true
 responder:b.initiator=false
 ownA:helloA.systemIncarnationUid=a.runtime.incarnationUid
 ownB:helloB.systemIncarnationUid=b.runtime.incarnationUid
 association:helloA.associationUid=helloB.associationUid
 acceptedA:b.validatePeerHello helloA=.ok ()
 acceptedB:a.validatePeerHello helloB=.ok ()

variable {a:Association T} {b:Association U} {helloA helloB:Hello}

lemma Meeting.associationUid_eq (h:Meeting a b helloA helloB):
  a.associationUid=b.associationUid:=by
 have hA:=h.acceptedA
 have hB:=h.acceptedB
 simp only [Association.validatePeerHello,bind_reject_eq_ok,ne_eq,not_not] at hA hB
 rw [←hA.2.2.1,←hB.2.2.1,h.association]

lemma Meeting.deriveAccept_eq (h:Meeting a b helloA helloB):
  (a.deriveAccept nfc helloA helloB).toOption=(b.deriveAccept nfc helloB helloA).toOption:=by
 rw [deriveAccept_toOption,deriveAccept_toOption,negotiateSerializers_comm,
  negotiateCapabilities_comm,h.initiator,h.responder,h.associationUid_eq,
  min_comm helloA.protocolMinor,min_comm helloA.maximumFrameBytes,min_comm helloA.laneCount]
 rfl

lemma deriveAccept_perm (association:Association T) (own peer:Hello)
  {owns peers:List SerializerDescriptor} (hown:own.serializers.Perm owns)
  (hpeer:peer.serializers.Perm peers):
  (association.deriveAccept nfc { own with serializers:=owns }
   { peer with serializers:=peers }).toOption =
  (association.deriveAccept nfc own peer).toOption:=by
 rw [deriveAccept_toOption,deriveAccept_toOption]
 dsimp only
 rw [←negotiateSerializers_perm own.systemIncarnationUid peer.systemIncarnationUid hown hpeer]
 cases association.initiator <;> rfl

def Usable (origin target:Hello) (route:SerializerRoute):Prop:=
 route.originIncarnationUid=origin.systemIncarnationUid ∧
 ∃writer∈origin.serializers,∃reader∈target.serializers,
  writer.serializerId=route.serializerId ∧ reader.serializerId=route.serializerId ∧
  ∀manifest∈route.manifests,
   manifest∈writer.writableManifests ∧ manifest∈reader.readableManifests

lemma usable_of_between {origin target:Hello} {route:SerializerRoute}
  (h:RouteBetween origin.systemIncarnationUid origin.serializers target.serializers route):
  Usable origin target route:=by
 obtain ⟨horigin,writer,hwriter,reader,hreader,hwriterId,hreaderId,hmanifests⟩:=h
 refine ⟨horigin,writer,hwriter,reader,hreader,hwriterId,hreaderId,fun manifest hmem=>?_⟩
 rw [hmanifests] at hmem
 exact mem_sendable.mp hmem

lemma deriveAccept_usable {association:Association T} {own peer:Hello}
  {accept:HelloAccept} {serializers:List NegotiatedSerializer}
  (h:association.deriveAccept nfc own peer=.ok (accept,serializers)):
  ∀route∈accept.serializerRoutes,Usable own peer route ∨ Usable peer own route:=by
 obtain ⟨negotiation,hnegotiation,h⟩:=bind_eq_ok h
 obtain ⟨capabilities,-,h⟩:=bind_eq_ok h
 cases h
 obtain ⟨-,hspec⟩:=negotiateSerializers_negotiates (mapError_eq_ok.mp hnegotiation)
 intro route hroute
 exact ((hspec.route route).mp hroute).imp usable_of_between usable_of_between

structure Mirrored (first second:Negotiated):Prop where
 outboundMessages:first.outboundMessageLimit=second.inboundMessageLimit
 outboundBytes:first.outboundByteLimit=second.inboundByteLimit
 inboundMessages:first.inboundMessageLimit=second.outboundMessageLimit
 inboundBytes:first.inboundByteLimit=second.outboundByteLimit
 sendRoutes:first.sendRoutes=second.receiveRoutes
 receiveRoutes:first.receiveRoutes=second.sendRoutes
 minors:first.serializerMinors=second.serializerMinors

lemma Meeting.mirrored (h:Meeting a b helloA helloB) (accept:HelloAccept)
  (serializers:List NegotiatedSerializer):
  Mirrored (a.prepareNegotiated helloB.systemIncarnationUid accept serializers)
   (b.prepareNegotiated helloA.systemIncarnationUid accept serializers):=by
 unfold Association.prepareNegotiated
 rw [h.initiator,h.responder,h.ownA,h.ownB]
 exact ⟨rfl,rfl,rfl,rfl,rfl,rfl,rfl⟩

/-- Both sides fail or both derive one `HELLO_ACCEPT` with the same serializers, in whatever
 order either lists its descriptors, and what they keep of it fits together. -/
theorem handshake_agreement (h:Meeting a b helloA helloB):
  (a.deriveAccept nfc helloA helloB).toOption =
   (b.deriveAccept nfc helloB helloA).toOption ∧
  (∀serializersA serializersB,helloA.serializers.Perm serializersA →
   helloB.serializers.Perm serializersB →
   (a.deriveAccept nfc { helloA with serializers:=serializersA }
    { helloB with serializers:=serializersB }).toOption =
    (a.deriveAccept nfc helloA helloB).toOption ∧
   (b.deriveAccept nfc { helloB with serializers:=serializersB }
    { helloA with serializers:=serializersA }).toOption =
    (b.deriveAccept nfc helloB helloA).toOption) ∧
  ∀acceptA serializersA acceptB serializersB,
   a.deriveAccept nfc helloA helloB=.ok (acceptA,serializersA) →
   b.deriveAccept nfc helloB helloA=.ok (acceptB,serializersB) →
   acceptA=acceptB ∧ serializersA=serializersB ∧
   Mirrored (a.prepareNegotiated helloB.systemIncarnationUid acceptA serializersA)
    (b.prepareNegotiated helloA.systemIncarnationUid acceptB serializersB) ∧
   ∀route∈acceptA.serializerRoutes,
    Usable helloA helloB route ∨ Usable helloB helloA route:=by
 refine ⟨h.deriveAccept_eq,fun serializersA serializersB hA hB=>?_,?_⟩
 · exact ⟨deriveAccept_perm a helloA helloB hA hB,deriveAccept_perm b helloB helloA hB hA⟩
 · intro acceptA serializersA acceptB serializersB hA hB
   have hequal:(a.deriveAccept nfc helloA helloB).toOption =
    (b.deriveAccept nfc helloB helloA).toOption:=h.deriveAccept_eq
   rw [hA,hB] at hequal
   cases hequal
   exact ⟨rfl,rfl,h.mirrored acceptA serializersA,deriveAccept_usable hA⟩

lemma talk_minor_le (minor:ℕ):minor % 8 ≤ maxU16:=
 (Nat.mod_lt minor (by decide)).le.trans (by decide)

lemma talk_serializerId_le (serializerId:ℕ):serializerId % 8+1 ≤ maxU32:=
 (Nat.mod_lt serializerId (by decide)).trans (by decide)

def talk (serializerId:ℕ) (name:String) (minor:ℕ) (readable writable:String):
  SerializerDescriptor where
 serializerId:=serializerId % 8+1
 name:=name
 protocolMajor:=1
 protocolMinor:=minor % 8
 readableManifests:=[readable]
 writableManifests:=[writable]
 serializerId_pos:=Nat.succ_pos _
 serializerId_le:=talk_serializerId_le serializerId
 protocolMajor_le:=talk_minor_le 1
 protocolMinor_le:=talk_minor_le minor
 readable_canonical:=List.pairwise_singleton _ _
 writable_canonical:=List.pairwise_singleton _ _

def side (name peer:String) (uid:UUID) (initiator:Bool) (outbound inbound:ℕ):
  Association Empty where
 runtime:=
  { systemName:=name
    incarnationUid:=uid
    endpoint:=⟨name,1⟩
    limits:=⟨4096,outbound,65536,inbound,65536⟩
    laneCount:=2
    serializers:=⟨[],Empty.elim,List.nodup_nil,List.nodup_nil,Empty.rec⟩
    peers:=fun system=>if system=peer then some ⟨peer,1⟩ else none }
 associationUid:=toUUID 1
 initiator:=initiator
 expectedSystemName:=none
 expectedEndpoint:=none

def shop : Association Empty:=side "shop" "bank" (toUUID 2) true 8 16
def bank : Association Empty:=side "bank" "shop" (toUUID 3) false 4 6

def shopHello : Hello:=
 { shop.localHello with
   serializers:=[talk 4 "orders" 0 "receipt" "order",talk 6 "refunds" 2 "refund" "claim"] }

def bankHello : Hello:=
 { bank.localHello with
   serializers:=[talk 6 "refunds" 1 "claim" "denial",talk 4 "orders" 3 "order" "receipt"] }

lemma shop_meets_bank : Meeting shop bank shopHello bankHello:=
 ⟨rfl,rfl,rfl,rfl,rfl,rfl,rfl⟩

def shopRoute (uid:UUID) (serializerId:ℕ) (manifest:String):SerializerRoute:=
 ⟨uid,serializerId+1,[manifest],Nat.succ_pos _,List.cons_ne_nil _ _,
  List.pairwise_singleton _ _⟩

theorem handshake_agreement_shop :
  (bank.deriveAccept (fun _=>true) bankHello
   { shopHello with serializers:=shopHello.serializers.reverse }).toOption =
  some (⟨toUUID 1,0,4096,2,6,65536,4,65536,
   [shopRoute (toUUID 2) 4 "order",shopRoute (toUUID 2) 6 "claim",
    shopRoute (toUUID 3) 4 "receipt"],[],0⟩,[⟨5,0⟩,⟨7,1⟩]):=by
 obtain ⟨hequal,hperm,-⟩:=
  @handshake_agreement _ _ (fun _=>true) _ _ _ _ shop_meets_bank
 obtain ⟨-,hbank⟩:=hperm shopHello.serializers.reverse bankHello.serializers
  (List.reverse_perm _).symm (.refl _)
 refine hbank.trans (hequal.symm.trans ?_)
 rfl

end Movie.HandshakeAgreement
