import Movie.AssociationReceive
import Movie.WireFrames

/-!
# The association handshake

`_local_hello`, `_validate_peer_hello`, `_derive_accept`, `_prepare_negotiated` and the part of
`_handshake` that puts them together. Timeouts and the transport are left out.
-/
namespace Movie.Handshake

open Wire WireFrames Serialization AssociationReceive Checked DurableModel

def protocolMajor : ℕ:=1
def protocolMinor : ℕ:=0
def minimumGoawayFrameBytes : ℕ:=commonHeaderSize+4

structure Endpoint where
 host:String
 port:ℕ
 deriving DecidableEq

def Endpoint.Valid (endpoint:Endpoint):Prop:=
 nul∉endpoint.host.toList ∧ endpoint.port ≤ maxU16

instance (endpoint:Endpoint):Decidable endpoint.Valid:=inferInstanceAs (Decidable (_ ∧ _))

structure TransportLimits where
 maximumRecordBytes:ℕ
 outboundMessageLimit:ℕ
 outboundByteLimit:ℕ
 inboundMessageLimit:ℕ
 inboundByteLimit:ℕ

inductive HandshakeFailure where
 | failure (reason:ReasonCode) (detail:String)
 | negotiation (error:SerializerNegotiationError)
 | wire (error:WireError)
 deriving DecidableEq

structure RemotingRuntime (T:Type) where
 systemName:String
 incarnationUid:UUID
 endpoint:Endpoint
 limits:TransportLimits
 laneCount:ℕ
 serializers:SerializerRegistry T
 peers:String → Option Endpoint

structure Association (T:Type) where
 runtime:RemotingRuntime T
 associationUid:UUID
 initiator:Bool
 expectedSystemName:Option String
 expectedEndpoint:Option Endpoint

structure Negotiated where
 accept:HelloAccept
 peerIncarnationUid:UUID
 outboundMessageLimit:ℕ
 outboundByteLimit:ℕ
 inboundMessageLimit:ℕ
 inboundByteLimit:ℕ
 sendRoutes:ℕ → Option SerializerRoute
 receiveRoutes:ℕ → Option SerializerRoute
 serializerMinors:ℕ → Option ℕ

section

variable {T:Type} (nfc:String → Bool)

def Association.role (association:Association T):AssociationRole:=
 if association.initiator then .initiator else .responder

def Association.localHello (association:Association T):Hello where
 protocolMajor:=protocolMajor
 protocolMinor:=protocolMinor
 role:=association.role
 systemName:=association.runtime.systemName
 systemIncarnationUid:=association.runtime.incarnationUid
 associationUid:=association.associationUid
 endpointHost:=association.runtime.endpoint.host
 endpointPort:=association.runtime.endpoint.port
 maximumFrameBytes:=association.runtime.limits.maximumRecordBytes
 laneCount:=association.runtime.laneCount
 outboundMessageLimit:=association.runtime.limits.outboundMessageLimit
 outboundByteLimit:=association.runtime.limits.outboundByteLimit
 inboundMessageLimit:=association.runtime.limits.inboundMessageLimit
 inboundByteLimit:=association.runtime.limits.inboundByteLimit
 serializers:=association.runtime.serializers.descriptors
 capabilities:=[]
 correlationId:=0

def otherRole : AssociationRole → AssociationRole
 | .initiator=>.responder
 | .responder=>.initiator

def positiveLimits (hello:Hello):List ℕ:=
 [hello.maximumFrameBytes,hello.laneCount,hello.outboundMessageLimit,hello.outboundByteLimit,
  hello.inboundMessageLimit,hello.inboundByteLimit]

def Association.Allowlisted (association:Association T) (hello:Hello):Prop:=
 association.runtime.peers hello.systemName=some ⟨hello.endpointHost,hello.endpointPort⟩ ∧
 (∀name∈association.expectedSystemName,hello.systemName=name) ∧
 (∀endpoint∈association.expectedEndpoint,
  (⟨hello.endpointHost,hello.endpointPort⟩:Endpoint)=endpoint)

instance (association:Association T) (hello:Hello):
  Decidable (association.Allowlisted hello):=inferInstanceAs (Decidable (_ ∧ _ ∧ _))

def Association.validatePeerHello (association:Association T) (hello:Hello):
  Except HandshakeFailure Unit:=do
 reject (hello.protocolMajor≠protocolMajor)
  (.failure .incompatibleVersion ("protocol major " ++ toString hello.protocolMajor ++
   " is incompatible with " ++ toString protocolMajor))
 reject (hello.role≠otherRole association.role)
  (.failure .protocolViolation "peer HELLO has the wrong association role")
 reject (hello.associationUid≠association.associationUid)
  (.failure .protocolViolation "peer HELLO association UID does not match the transport")
 reject (hello.systemIncarnationUid=association.runtime.incarnationUid)
  (.failure .protocolViolation "peer and local incarnation UIDs must differ")
 reject (0∈positiveLimits hello)
  (.failure .protocolViolation "peer HELLO limits must be positive")
 reject (hello.maximumFrameBytes < minimumGoawayFrameBytes)
  (.failure .protocolViolation "peer maximum frame bytes cannot encode the minimum GOAWAY frame")
 reject (¬(⟨hello.endpointHost,hello.endpointPort⟩:Endpoint).Valid)
  (.failure .systemNameMismatch "peer advertised an invalid endpoint")
 reject (¬association.Allowlisted hello)
  (.failure .systemNameMismatch
   "peer actor-system name or advertised endpoint is not allowlisted")

def negotiateCapabilities (first second:List String):Except WireError (List String):=do
 checkCapabilities nfc (first++second)
 return (first.dedup.filter (·∈second)).insertionSort utf8Le

def Association.deriveAccept (association:Association T) (own peer:Hello):
  Except HandshakeFailure (HelloAccept×List NegotiatedSerializer):=do
 let (initiator,responder):=if association.initiator then (own,peer) else (peer,own)
 let negotiation ← (negotiateSerializers own.systemIncarnationUid own.serializers
  peer.systemIncarnationUid peer.serializers).mapError .negotiation
 let capabilities ←
  (negotiateCapabilities nfc own.capabilities peer.capabilities).mapError .wire
 return (
  { associationUid:=association.associationUid
    protocolMinor:=min own.protocolMinor peer.protocolMinor
    maximumFrameBytes:=min own.maximumFrameBytes peer.maximumFrameBytes
    laneCount:=min own.laneCount peer.laneCount
    outboundMessageLimit:=min initiator.outboundMessageLimit responder.inboundMessageLimit
    outboundByteLimit:=min initiator.outboundByteLimit responder.inboundByteLimit
    inboundMessageLimit:=min responder.outboundMessageLimit initiator.inboundMessageLimit
    inboundByteLimit:=min responder.outboundByteLimit initiator.inboundByteLimit
    serializerRoutes:=negotiation.routes
    capabilities:=capabilities
    correlationId:=0 },
  negotiation.serializers)

/-- A dictionary comprehension over the routes of one origin: the last route of a
 serializer stays. -/
def routesFrom (routes:List SerializerRoute) (originUid:UUID) (serializerId:ℕ):
  Option SerializerRoute:=
 routes.reverse.find? fun route=>
  route.originIncarnationUid=originUid ∧ route.serializerId=serializerId

def minorsOf (serializers:List NegotiatedSerializer) (serializerId:ℕ):Option ℕ:=
 (serializers.reverse.find? fun serializer=>
  serializer.serializerId=serializerId).map NegotiatedSerializer.protocolMinor

def Association.prepareNegotiated (association:Association T) (peerIncarnationUid:UUID)
  (accept:HelloAccept) (serializers:List NegotiatedSerializer):Negotiated where
 accept:=accept
 peerIncarnationUid:=peerIncarnationUid
 outboundMessageLimit:=
  if association.initiator then accept.outboundMessageLimit else accept.inboundMessageLimit
 outboundByteLimit:=
  if association.initiator then accept.outboundByteLimit else accept.inboundByteLimit
 inboundMessageLimit:=
  if association.initiator then accept.inboundMessageLimit else accept.outboundMessageLimit
 inboundByteLimit:=
  if association.initiator then accept.inboundByteLimit else accept.outboundByteLimit
 sendRoutes:=routesFrom accept.serializerRoutes association.runtime.incarnationUid
 receiveRoutes:=routesFrom accept.serializerRoutes peerIncarnationUid
 serializerMinors:=minorsOf serializers

def Association.handshake (association:Association T) (peerHello:Hello)
  (peerAccept:HelloAccept):Except HandshakeFailure Negotiated:=do
 association.validatePeerHello peerHello
 let (accept,serializers) ← association.deriveAccept nfc association.localHello peerHello
 reject (peerAccept≠accept)
  (.failure .protocolViolation "peer HELLO_ACCEPT is not the canonical negotiated value")
 return association.prepareNegotiated peerHello.systemIncarnationUid accept serializers

def Association.active (association:Association T) (negotiated:Negotiated):
  ActiveAssociation where
 associationUid:=association.associationUid
 laneCount:=negotiated.accept.laneCount
 peerIncarnationUid:=negotiated.peerIncarnationUid
 incarnationUid:=association.runtime.incarnationUid
 receiveRoutes serializerId:=(negotiated.receiveRoutes serializerId).map
  SerializerRoute.manifests

end

section

variable {T U:Type} {nfc:String → Bool}

structure Handshaken (association:Association T) (peerHello:Hello) (peerAccept:HelloAccept)
  (negotiated:Negotiated) (negotiation:SerializerNegotiation):Prop where
 association_eq:peerHello.associationUid=association.associationUid
 lanes_ne:peerHello.laneCount≠0
 serializers:negotiateSerializers association.runtime.incarnationUid
  association.runtime.serializers.descriptors peerHello.systemIncarnationUid
  peerHello.serializers=.ok negotiation
 accept_eq:negotiated.accept=peerAccept
 laneCount:negotiated.accept.laneCount=min association.runtime.laneCount peerHello.laneCount
 routes:negotiated.accept.serializerRoutes=negotiation.routes
 peer:negotiated.peerIncarnationUid=peerHello.systemIncarnationUid
 sends:negotiated.sendRoutes =
  routesFrom negotiation.routes association.runtime.incarnationUid
 receives:negotiated.receiveRoutes =
  routesFrom negotiation.routes peerHello.systemIncarnationUid
 minors:negotiated.serializerMinors=minorsOf negotiation.serializers

variable {peerHello:Hello} {peerAccept:HelloAccept} {negotiated:Negotiated} {route:SerializerRoute}

lemma Association.handshake_handshaken {association:Association T}
    (h:association.handshake nfc peerHello peerAccept=.ok negotiated):
  ∃negotiation,Handshaken association peerHello peerAccept negotiated negotiation:=by
 obtain ⟨_,hvalid,h⟩:=bind_eq_ok h
 obtain ⟨⟨accept,serializers⟩,hderive,h⟩:=bind_eq_ok h
 simp only [bind_reject_eq_ok,ne_eq,not_not] at h
 obtain ⟨haccept,heq⟩:=h
 cases heq
 simp only [validatePeerHello,bind_reject_eq_ok,ne_eq,not_not] at hvalid
 obtain ⟨-,-,hassociation,-,hlimits,-⟩:=hvalid
 obtain ⟨negotiation,hnegotiation,hderive⟩:=bind_eq_ok hderive
 obtain ⟨capabilities,-,hderive⟩:=bind_eq_ok hderive
 cases hderive
 refine ⟨negotiation,hassociation,fun hzero=>hlimits ?_,mapError_eq_ok.mp hnegotiation,
  haccept.symm,rfl,rfl,rfl,rfl,rfl,rfl⟩
 rw [←hzero]
 exact List.mem_cons_of_mem _ List.mem_cons_self

lemma routesFrom_mem {routes:List SerializerRoute} {originUid:UUID} {serializerId:ℕ}
  (h:routesFrom routes originUid serializerId=some route):
  route∈routes ∧ route.originIncarnationUid=originUid ∧
   route.serializerId=serializerId:=by
 have hfound:=List.find?_some h
 exact ⟨List.mem_reverse.mp (List.mem_of_find?_eq_some h),of_decide_eq_true hfound⟩

lemma minorsOf_of_mem {serializers:List NegotiatedSerializer}
  {serializer:NegotiatedSerializer} (h:serializer∈serializers):
  ∃entry∈serializers,entry.serializerId=serializer.serializerId ∧
   minorsOf serializers serializer.serializerId=some entry.protocolMinor:=by
 have hsome:(serializers.reverse.find? fun entry=>
  entry.serializerId=serializer.serializerId).isSome=true:=by
  rw [List.find?_isSome]
  exact ⟨serializer,List.mem_reverse.mpr h,decide_eq_true rfl⟩
 obtain ⟨entry,hentry⟩:=Option.isSome_iff_exists.mp hsome
 have hfound:=List.find?_some hentry
 refine ⟨entry,List.mem_reverse.mp (List.mem_of_find?_eq_some hentry),
  of_decide_eq_true hfound,?_⟩
 unfold minorsOf
 rw [hentry]
 rfl

structure Connected (nfc:String → Bool) (a:Association T) (b:Association U)
  (negotiatedA negotiatedB:Negotiated):Prop where
 first:a.handshake nfc b.localHello negotiatedB.accept=.ok negotiatedA
 second:b.handshake nfc a.localHello negotiatedA.accept=.ok negotiatedB

def Readable (registry:SerializerRegistry U) (negotiated:Negotiated) (serializerId:ℕ)
  (route:SerializerRoute):Prop:=
 ∃descriptor minor,findId registry.descriptors serializerId=some descriptor ∧
  negotiated.serializerMinors serializerId=some minor ∧
  minor≤descriptor.protocolMinor ∧
  ∀manifest∈route.manifests,manifest∈descriptor.readableManifests

lemma Handshaken.readable {association:Association U} {negotiation:SerializerNegotiation}
  (h:Handshaken association peerHello peerAccept negotiated negotiation) {serializerId:ℕ}
  (hroute:negotiated.receiveRoutes serializerId=some route):
  Readable association.runtime.serializers negotiated serializerId route:=by
 obtain ⟨hcompatible,hspec⟩:=negotiateSerializers_negotiates h.serializers
 rw [h.receives] at hroute
 obtain ⟨hmem,horigin,hid⟩:=routesFrom_mem hroute
 rcases (hspec.route route).mp hmem with ⟨hown,-⟩|⟨-,writer,hwriter,reader,hreader,hsame⟩
 · exact absurd (hown.symm.trans horigin) hcompatible.origins_ne
 · obtain ⟨hwriterId,hreaderId,hmanifests⟩:=hsame
   have hminor:=(hspec.serializer ⟨reader.serializerId,min reader.protocolMinor
    writer.protocolMinor⟩).mpr ⟨reader,hreader,writer,hwriter,rfl,
     hwriterId.trans hreaderId.symm,rfl⟩
   obtain ⟨entry,hentry,hentryId,hentryMinor⟩:=minorsOf_of_mem hminor
   obtain ⟨reader',hreader',writer',-,hid',-,hmin⟩:=(hspec.serializer entry).mp hentry
   obtain rfl:reader'=reader:=List.inj_on_of_nodup_map hcompatible.first.ids hreader' hreader
    (hid'.trans hentryId)
   rw [hreaderId,hid] at hentryMinor
   refine ⟨reader',entry.protocolMinor,?_,?_,?_,fun manifest hmanifest=>?_⟩
   · rw [←hid,←hreaderId]
     exact findId_of_mem hcompatible.first hreader'
   · rw [h.minors]
     exact hentryMinor
   · rw [hmin]
     exact Nat.min_le_left _ _
   · rw [hmanifests] at hmanifest
     exact (mem_sendable.mp hmanifest).2

structure Agreed (a:Association T) (b:Association U) (negotiatedA negotiatedB:Negotiated):
  Prop where
 accept:negotiatedA.accept=negotiatedB.accept
 association:a.associationUid=b.associationUid
 lanes:0<negotiatedA.accept.laneCount
 recipient:negotiatedA.peerIncarnationUid=b.runtime.incarnationUid
 sender:negotiatedB.peerIncarnationUid=a.runtime.incarnationUid
 routes:negotiatedA.sendRoutes=negotiatedB.receiveRoutes
 readable:∀serializerId route,negotiatedB.receiveRoutes serializerId=some route →
  Readable b.runtime.serializers negotiatedB serializerId route

lemma Connected.agreed {a:Association T} {b:Association U} {negotiatedA negotiatedB:Negotiated}
  (h:Connected nfc a b negotiatedA negotiatedB):Agreed a b negotiatedA negotiatedB:=by
 obtain ⟨negotiationA,hA⟩:=Association.handshake_handshaken h.first
 obtain ⟨negotiationB,hB⟩:=Association.handshake_handshaken h.second
 have hroutes:negotiationA.routes=negotiationB.routes:=by
  rw [←hA.routes,←hB.routes,hA.accept_eq]
 refine ⟨hA.accept_eq,hB.association_eq,?_,hA.peer,hB.peer,?_,fun _ _=>hB.readable⟩
 · rw [hA.laneCount]
   exact Nat.lt_min.mpr ⟨Nat.pos_of_ne_zero hB.lanes_ne,Nat.pos_of_ne_zero hA.lanes_ne⟩
 · rw [hA.sends,hB.receives,hroutes]
   rfl

end

end Movie.Handshake
