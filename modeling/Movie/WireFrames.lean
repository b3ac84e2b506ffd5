import Movie.Codec
import Movie.Serialization

/-!
# The frames of the control stream

The other frames of `remoting/wire.py`. How a serializer descriptor is written is a parameter: the
codec of the source and the plain listing on the wire are its two instances.
-/
namespace Movie.WireFrames

open BigEndian Checked Codec DurableModel Wire Serialization

def maxU8 : ℕ:=2 ^ 8 - 1

inductive AssociationRole where
 | initiator
 | responder
 deriving DecidableEq

namespace AssociationRole

def value : AssociationRole → ℕ
 | initiator=>0
 | responder=>1

def all : List AssociationRole:=[initiator,responder]

def ofValue (value:ℕ):Option AssociationRole:=all.find? fun role=>role.value=value

end AssociationRole

inductive ReasonCode where
 | normalShutdown
 | incompatibleVersion
 | systemNameMismatch
 | duplicateAssociation
 | unsupportedFrame
 | protocolViolation
 | flowControlViolation
 | actorNotFound
 | actorStopping
 | mailboxFull
 | invalidPath
 | unknownSerializer
 | unsupportedManifest
 | malformedPayload
 deriving DecidableEq

namespace ReasonCode

def value : ReasonCode → ℕ
 | normalShutdown=>0x0000
 | incompatibleVersion=>0x0001
 | systemNameMismatch=>0x0002
 | duplicateAssociation=>0x0003
 | unsupportedFrame=>0x0004
 | protocolViolation=>0x0005
 | flowControlViolation=>0x0006
 | actorNotFound=>0x0010
 | actorStopping=>0x0011
 | mailboxFull=>0x0012
 | invalidPath=>0x0013
 | unknownSerializer=>0x0020
 | unsupportedManifest=>0x0021
 | malformedPayload=>0x0022

def name : ReasonCode → String
 | normalShutdown => "NORMAL_SHUTDOWN"
 | incompatibleVersion => "INCOMPATIBLE_VERSION"
 | systemNameMismatch => "SYSTEM_NAME_MISMATCH"
 | duplicateAssociation => "DUPLICATE_ASSOCIATION"
 | unsupportedFrame => "UNSUPPORTED_FRAME"
 | protocolViolation => "PROTOCOL_VIOLATION"
 | flowControlViolation => "FLOW_CONTROL_VIOLATION"
 | actorNotFound => "ACTOR_NOT_FOUND"
 | actorStopping => "ACTOR_STOPPING"
 | mailboxFull => "MAILBOX_FULL"
 | invalidPath => "INVALID_PATH"
 | unknownSerializer => "UNKNOWN_SERIALIZER"
 | unsupportedManifest => "UNSUPPORTED_MANIFEST"
 | malformedPayload => "MALFORMED_PAYLOAD"

def all : List ReasonCode:=
 [normalShutdown,incompatibleVersion,systemNameMismatch,duplicateAssociation,
  unsupportedFrame,protocolViolation,flowControlViolation,actorNotFound,actorStopping,
  mailboxFull,invalidPath,unknownSerializer,unsupportedManifest,malformedPayload]

def ofValue (value:ℕ):Option ReasonCode:=all.find? fun reason=>reason.value=value

def allowed : FrameType → Option (List ReasonCode)
 | .resolveRejected=>some [systemNameMismatch,actorNotFound,actorStopping,invalidPath]
 | .recipientUnavailable=>some [actorNotFound,actorStopping,mailboxFull]
 | .deserializationRejected=>some [unknownSerializer,unsupportedManifest,malformedPayload]
 | _=>none

end ReasonCode

structure HelloWith (D:Type) where
 protocolMajor:ℕ
 protocolMinor:ℕ
 role:AssociationRole
 systemName:String
 systemIncarnationUid:UUID
 associationUid:UUID
 endpointHost:String
 endpointPort:ℕ
 maximumFrameBytes:ℕ
 laneCount:ℕ
 outboundMessageLimit:ℕ
 outboundByteLimit:ℕ
 inboundMessageLimit:ℕ
 inboundByteLimit:ℕ
 serializers:List D
 capabilities:List String
 correlationId:ℕ
 deriving DecidableEq

abbrev Hello:=HelloWith SerializerDescriptor

structure HelloAccept where
 associationUid:UUID
 protocolMinor:ℕ
 maximumFrameBytes:ℕ
 laneCount:ℕ
 outboundMessageLimit:ℕ
 outboundByteLimit:ℕ
 inboundMessageLimit:ℕ
 inboundByteLimit:ℕ
 serializerRoutes:List SerializerRoute
 capabilities:List String
 correlationId:ℕ
 deriving DecidableEq

/-- `GoAway` and `HelloReject`. -/
structure Farewell where
 reason:ReasonCode
 detail:String
 correlationId:ℕ
 deriving DecidableEq

structure ResolveRequest where
 correlationId:ℕ
 systemName:String
 actorPath:String
 deriving DecidableEq

structure ResolveResponse where
 correlationId:ℕ
 systemIncarnationUid:UUID
 actorUid:UUID
 actorPath:String
 deriving DecidableEq

structure ResolveRejected where
 correlationId:ℕ
 reason:ReasonCode
 detail:String
 deriving DecidableEq

/-- `RecipientUnavailable` and `DeserializationRejected`. -/
structure Advisory where
 associationUid:UUID
 laneId:ℕ
 laneSequence:ℕ
 recipientActorUid:UUID
 reason:ReasonCode
 detail:String
 correlationId:ℕ
 deriving DecidableEq

inductive ControlFrame (D:Type) where
 | hello (frame:HelloWith D)
 | helloAccept (frame:HelloAccept)
 | goAway (frame:Farewell)
 | helloReject (frame:Farewell)
 | resolveRequest (frame:ResolveRequest)
 | resolveResponse (frame:ResolveResponse)
 | resolveRejected (frame:ResolveRejected)
 | recipientUnavailable (frame:Advisory)
 | deserializationRejected (frame:Advisory)
 deriving DecidableEq

namespace ControlFrame

variable {D:Type}

def frameType : ControlFrame D → FrameType
 | hello _=>.hello
 | helloAccept _=>.helloAccept
 | goAway _=>.goAway
 | helloReject _=>.helloReject
 | resolveRequest _=>.resolveRequest
 | resolveResponse _=>.resolveResponse
 | resolveRejected _=>.resolveRejected
 | recipientUnavailable _=>.recipientUnavailable
 | deserializationRejected _=>.deserializationRejected

def correlationId : ControlFrame D → ℕ
 | hello frame=>frame.correlationId
 | helloAccept frame=>frame.correlationId
 | goAway frame | helloReject frame=>frame.correlationId
 | resolveRequest frame=>frame.correlationId
 | resolveResponse frame=>frame.correlationId
 | resolveRejected frame=>frame.correlationId
 | recipientUnavailable frame | deserializationRejected frame=>frame.correlationId

end ControlFrame

section

variable (nfc:String → Bool)

def writeUint (width maximum value:ℕ) (field:String):Except WireError (List UInt8):=do
 uint value 0 maximum field .protocolValidation
 return toBytes width value

def writeU8 (value:ℕ) (field:String):=writeUint 1 maxU8 value field
def writeU16 (value:ℕ) (field:String):=writeUint 2 maxU16 value field
def writeU32 (value:ℕ) (field:String):=writeUint 4 maxU32 value field
def writeU64 (value:ℕ) (field:String):=writeUint 8 maxU64 value field

def truncated (field:String):WireError:=.malformedFrame ("truncated " ++ field)

def readU8 (field:String):Reader WireError ℕ:=readUint 1 (truncated field)
def readU16 (field:String):Reader WireError ℕ:=readUint 2 (truncated field)
def readU32 (field:String):Reader WireError ℕ:=readUint 4 (truncated field)
def readU64 (field:String):Reader WireError ℕ:=readUint 8 (truncated field)

def writeUuid (value:UUID) (field:String):Except WireError (List UInt8):=do
 uuid value field .protocolValidation
 return toBytes 16 value.int

def readUuid (field:String):Reader WireError UUID:=do
 let bytes ← take 16 (truncated field)
 accept (uuid (toUUID (ofBytes bytes)) field .malformedFrame)
 return toUUID (ofBytes bytes)

def writeString16 (value field:String) (maximum:ℕ) (nonempty:Bool):
  Except WireError (List UInt8):=do
 let encoded ← textBytes nfc value field (min maximum maxU16) nonempty .protocolValidation
 writeAll [writeU16 encoded.length (field ++ " length"),.ok encoded]

def decodeText (bytes:List UInt8) (field:String):Except WireError String:=
 match utf8Decode bytes with
 | none=>.error (.malformedFrame (field ++ " is not valid UTF-8"))
 | some value=>.ok value

def readString16 (field:String) (maximum:ℕ) (nonempty:Bool):Reader WireError String:=do
 let length ← readU16 (field ++ " length")
 refuse (maximum<length)
  (.malformedFrame (field ++ " exceeds " ++ toString maximum ++ " UTF-8 bytes"))
 let encoded ← take length (truncated field)
 let value ← accept (decodeText encoded field)
 let _ ← accept (textBytes nfc value field maximum nonempty .malformedFrame)
 return value

def unreserved (character:Char):Bool:=
 character.isAlphanum || ['.','_','~','-'].contains character

def systemName (value:String) (error:String → WireError):Except WireError (List UInt8):=do
 let encoded ← textBytes nfc value "actor-system name" 255 true error
 reject (value.toList.all unreserved=false)
  (error "actor-system name contains a non-URI-unreserved character")
 return encoded

def segments (value:String):List (List Char):=(value.toList.drop 1).splitOn '/'

def segmentOk (segment:List Char):Bool:=
 decide (1 ≤ segment.length ∧ segment.length≤255) && segment.all unreserved

def actorPath (value:String) (error:String → WireError):Except WireError (List UInt8):=do
 let encoded ← textBytes nfc value "actor path" maxU16 true error
 reject (value.toList.head? ≠ some '/' ∨ value.toList.take 2=['/','/'])
  (error "actor path must start with exactly one slash")
 reject ([]∈segments value) (error "actor path must not contain empty segments")
 reject ((segments value).all segmentOk=false)
  (error "actor path segment is not 1-255 ASCII URI-unreserved bytes")
 return encoded

def writeValidated (validate:(String → WireError) → Except WireError (List UInt8))
  (field:String):Except WireError (List UInt8):=do
 let encoded ← validate .protocolValidation
 writeAll [writeU16 encoded.length (field ++ " length"),.ok encoded]

def writeSystemName (value:String):Except WireError (List UInt8):=
 writeValidated (systemName nfc value) "actor-system name"

def writeActorPath (value:String):Except WireError (List UInt8):=
 writeValidated (actorPath nfc value) "actor path"

def readSystemName : Reader WireError String:=do
 let value ← readString16 nfc "actor-system name" 255 true
 let _ ← accept (systemName nfc value .malformedFrame)
 return value

def readActorPath : Reader WireError String:=do
 let value ← readString16 nfc "actor path" maxU16 true
 let _ ← accept (actorPath nfc value .malformedFrame)
 return value

end

section

variable (nfc:String → Bool)

structure SerializerListing where
 serializerId:ℕ
 name:String
 protocolMajor:ℕ
 protocolMinor:ℕ
 readable:List String
 writable:List String
 deriving DecidableEq

def writeManifests (count field:String) (manifests:List String):
  Except WireError (List UInt8):=
 writeCounted (writeU16 · count) (writeString16 nfc · field maxManifestBytes true) manifests

def readManifests (count field:String):Reader WireError (List String):=
 readCounted (readU16 count) (readString16 nfc field maxManifestBytes true)

def writeListing (listing:SerializerListing):Except WireError (List UInt8):=
 writeAll
  [writeU32 listing.serializerId "serializer ID",
   writeString16 nfc listing.name "serializer name" maxU16 true,
   writeU16 listing.protocolMajor "serializer protocol major",
   writeU16 listing.protocolMinor "serializer protocol minor",
   writeManifests nfc "readable manifest count" "readable manifest" listing.readable,
   writeManifests nfc "writable manifest count" "writable manifest" listing.writable]

def readListing : Reader WireError SerializerListing:=do
 let serializerId ← readU32 "serializer ID"
 let name ← readString16 nfc "serializer name" maxU16 true
 let protocolMajor ← readU16 "serializer protocol major"
 let protocolMinor ← readU16 "serializer protocol minor"
 let readable ← readManifests nfc "readable manifest count" "readable manifest"
 let writable ← readManifests nfc "writable manifest count" "writable manifest"
 return ⟨serializerId,name,protocolMajor,protocolMinor,readable,writable⟩

def listingOf (descriptor:SerializerDescriptor):SerializerListing where
 serializerId:=descriptor.serializerId
 name:=descriptor.name
 protocolMajor:=descriptor.protocolMajor
 protocolMinor:=descriptor.protocolMinor
 readable:=descriptor.readableManifests.insertionSort utf8Le
 writable:=descriptor.writableManifests.insertionSort utf8Le

def describe (listing:SerializerListing):Except WireError SerializerDescriptor:=do
 reject (¬listing.readable.Nodup ∨ ¬listing.writable.Nodup)
  (.malformedFrame "serializer descriptor contains duplicate manifests")
 (SerializerDescriptor.create nfc listing.serializerId listing.name listing.protocolMajor
  listing.protocolMinor listing.readable listing.writable).mapError .malformedFrame

def writeDescriptor (descriptor:SerializerDescriptor):Except WireError (List UInt8):=
 writeListing nfc (listingOf descriptor)

def readDescriptor : Reader WireError SerializerDescriptor:=do
 let listing ← readListing nfc
 accept (describe nfc listing)

structure EntryFormat (D:Type) where
 serializerId:D → ℕ
 name:D → String
 write:D → Except WireError (List UInt8)
 read:Reader WireError D

def descriptorFormat : EntryFormat SerializerDescriptor where
 serializerId:=SerializerDescriptor.serializerId
 name:=SerializerDescriptor.name
 write:=writeDescriptor nfc
 read:=readDescriptor nfc

def listingFormat : EntryFormat SerializerListing where
 serializerId:=SerializerListing.serializerId
 name:=SerializerListing.name
 write:=writeListing nfc
 read:=readListing nfc

structure FrameLimits where
 maximumFrameBytes:ℕ
 laneCount:ℕ
 outboundMessageLimit:ℕ
 outboundByteLimit:ℕ
 inboundMessageLimit:ℕ
 inboundByteLimit:ℕ

def smallMaximum : String:=
 "maximum frame bytes must be at least " ++ toString commonHeaderSize

def writeLimits (limits:FrameLimits):Except WireError (List UInt8):=
 writeAll
  [writeU32 limits.maximumFrameBytes "maximum frame bytes",
   check (limits.maximumFrameBytes<commonHeaderSize) (.protocolValidation smallMaximum),
   writeU16 limits.laneCount "lane count",
   writeU32 limits.outboundMessageLimit "outbound message limit",
   writeU64 limits.outboundByteLimit "outbound byte limit",
   writeU32 limits.inboundMessageLimit "inbound message limit",
   writeU64 limits.inboundByteLimit "inbound byte limit"]

def readLimits : Reader WireError FrameLimits:=do
 let maximumFrameBytes ← readU32 "maximum frame bytes"
 refuse (maximumFrameBytes<commonHeaderSize) (.malformedFrame smallMaximum)
 let laneCount ← readU16 "lane count"
 let outboundMessageLimit ← readU32 "outbound message limit"
 let outboundByteLimit ← readU64 "outbound byte limit"
 let inboundMessageLimit ← readU32 "inbound message limit"
 let inboundByteLimit ← readU64 "inbound byte limit"
 return ⟨maximumFrameBytes,laneCount,outboundMessageLimit,outboundByteLimit,
  inboundMessageLimit,inboundByteLimit⟩

def checkCapabilities (capabilities:List String):Except WireError Unit:=
 checkTexts nfc "capability name" maxU16 .protocolValidation capabilities

def writeCapabilities (capabilities:List String):Except WireError (List UInt8):=do
 reject (maxU16<capabilities.length) (.protocolValidation "capability count exceeds 65535")
 checkCapabilities nfc capabilities
 reject (¬capabilities.Nodup) (.protocolValidation "capability names must be unique")
 writeCounted (writeU16 · "capability count") (writeString16 nfc · "capability name" maxU16 true)
  capabilities

def readCapabilities : Reader WireError (List String):=do
 let capabilities ← readCounted (readU16 "capability count")
  (readString16 nfc "capability name" maxU16 true)
 refuse (¬capabilities.Nodup) (.malformedFrame "capability names must be unique")
 return capabilities

def routeId (route:SerializerRoute):UUID×ℕ:=
 (route.originIncarnationUid,route.serializerId)

def unsortedRoutes : String:= "serializer routes are not in canonical order"

def repeatedRoutes : String:= "serializer routes contain a duplicate origin and ID"

def writeRoute (route:SerializerRoute):Except WireError (List UInt8):=
 writeAll
  [writeUuid route.originIncarnationUid "route origin incarnation UID",
   writeU32 route.serializerId "route serializer ID",
   writeManifests nfc "route manifest count" "route manifest" route.manifests]

def readRoute : Reader WireError SerializerRoute:=do
 let originUid ← readUuid "route origin incarnation UID"
 let serializerId ← readU32 "route serializer ID"
 let manifests ← readManifests nfc "route manifest count" "route manifest"
 refuse (manifests=[] ∨ manifests≠frozenset manifests)
  (.malformedFrame "route manifests are empty, duplicated, or noncanonical")
 accept ((SerializerRoute.create nfc originUid serializerId manifests).mapError .malformedFrame)

def writeRoutes (routes:List SerializerRoute):Except WireError (List UInt8):=do
 reject (maxU16<routes.length) (.protocolValidation "serializer route count exceeds 65535")
 reject (routes.insertionSort routeLe≠routes) (.protocolValidation unsortedRoutes)
 reject (¬(routes.map routeId).Nodup) (.protocolValidation repeatedRoutes)
 writeCounted (writeU16 · "serializer route count") (writeRoute nfc) routes

def readRoutes : Reader WireError (List SerializerRoute):=do
 let routes ← readCounted (readU16 "serializer route count") (readRoute nfc)
 refuse (routes≠routes.insertionSort routeLe) (.malformedFrame unsortedRoutes)
 refuse (¬(routes.map routeId).Nodup) (.malformedFrame repeatedRoutes)
 return routes

def hexCode (value:ℕ):String:=
 String.ofList (['0','x']++[value / 4096,value / 256 % 16,value / 16 % 16,value % 16].map
  Nat.digitChar)

def writeReason (reason:ReasonCode) (detail:String):Except WireError (List UInt8):=
 writeAll
  [writeU16 reason.value "reason code",writeString16 nfc detail "reason detail" maxU16 false]

def reasonOf (value:ℕ):Except WireError ReasonCode:=
 match ReasonCode.ofValue value with
 | none=>.error (.malformedFrame ("unknown reason code " ++ hexCode value))
 | some reason=>.ok reason

def readReason : Reader WireError (ReasonCode×String):=do
 let value ← readU16 "reason code"
 let reason ← accept (reasonOf value)
 let detail ← readString16 nfc "reason detail" maxU16 false
 return (reason,detail)

def Disallowed (frameType:FrameType) (reason:ReasonCode):Prop:=
 ∃allowed∈ReasonCode.allowed frameType,reason∉allowed

instance (frameType:FrameType) (reason:ReasonCode):
  Decidable (Disallowed frameType reason):=
 match h:ReasonCode.allowed frameType with
 | none=>.isFalse fun ⟨_,hmem,_⟩=>by rw [h] at hmem; cases hmem
 | some allowed=>decidable_of_iff (reason∉allowed) (by simp [Disallowed,h])

def disallowedText (frameType:FrameType) (reason:ReasonCode):String:=
 "reason " ++ reason.name ++ " is not valid for " ++ frameType.name

def writeAdvisory (advisory:Advisory):Except WireError (List UInt8):=
 writeAll
  [writeUuid advisory.associationUid "association UID",
   writeU16 advisory.laneId "lane ID",
   check (advisory.laneId=controlLaneId)
    (.protocolValidation "advisory lane ID cannot be 0xffff"),
   writeU64 advisory.laneSequence "lane sequence",
   writeUuid advisory.recipientActorUid "recipient actor UID",
   writeReason nfc advisory.reason advisory.detail]

def readAdvisory (correlationId:ℕ):Reader WireError Advisory:=do
 let associationUid ← readUuid "association UID"
 let laneId ← readU16 "lane ID"
 refuse (laneId=controlLaneId) (.malformedFrame "advisory lane ID cannot be 0xffff")
 let laneSequence ← readU64 "lane sequence"
 let recipientActorUid ← readUuid "recipient actor UID"
 let (reason,detail) ← readReason nfc
 return ⟨associationUid,laneId,laneSequence,recipientActorUid,reason,detail,correlationId⟩

end

section

variable (nfc:String → Bool) {D:Type} (entry:EntryFormat D)

def HelloWith.frameLimits (frame:HelloWith D):FrameLimits:=
 ⟨frame.maximumFrameBytes,frame.laneCount,frame.outboundMessageLimit,frame.outboundByteLimit,
  frame.inboundMessageLimit,frame.inboundByteLimit⟩

def HelloAccept.frameLimits (frame:HelloAccept):FrameLimits:=
 ⟨frame.maximumFrameBytes,frame.laneCount,frame.outboundMessageLimit,frame.outboundByteLimit,
  frame.inboundMessageLimit,frame.inboundByteLimit⟩

def Repeats (serializers:List D):Prop:=
 ¬(serializers.map entry.serializerId).Nodup ∨ ¬(serializers.map entry.name).Nodup

instance (serializers:List D):Decidable (Repeats entry serializers):=
 inferInstanceAs (Decidable (_ ∨ _))

def repeatedSerializers : String:= "HELLO serializer IDs and names must be unique"

def writeHello (frame:HelloWith D):Except WireError (List UInt8):=
 writeAll
  [writeU16 frame.protocolMajor "protocol major",
   writeU16 frame.protocolMinor "protocol minor",
   writeU8 frame.role.value "role",
   writeSystemName nfc frame.systemName,
   writeUuid frame.systemIncarnationUid "system incarnation UID",
   writeUuid frame.associationUid "association UID",
   writeString16 nfc frame.endpointHost "endpoint host" maxU16 true,
   writeU16 frame.endpointPort "endpoint port",
   writeLimits frame.frameLimits,
   check (maxU16<frame.serializers.length)
    (.protocolValidation "serializer descriptor count exceeds 65535"),
   check (Repeats entry frame.serializers) (.protocolValidation repeatedSerializers),
   writeCounted (writeU16 · "serializer descriptor count") entry.write frame.serializers,
   writeCapabilities nfc frame.capabilities]

def roleOf (value:ℕ):Except WireError AssociationRole:=
 match AssociationRole.ofValue value with
 | none=>.error (.malformedFrame ("unknown association role " ++ toString value))
 | some role=>.ok role

def readRole : Reader WireError AssociationRole:=do
 let value ← readU8 "role"
 accept (roleOf value)

def readHello (correlationId:ℕ):Reader WireError (HelloWith D):=do
 let protocolMajor ← readU16 "protocol major"
 let protocolMinor ← readU16 "protocol minor"
 let role ← readRole
 let systemName ← readSystemName nfc
 let systemUid ← readUuid "system incarnation UID"
 let associationUid ← readUuid "association UID"
 let endpointHost ← readString16 nfc "endpoint host" maxU16 true
 let endpointPort ← readU16 "endpoint port"
 let limits ← readLimits
 let serializers ← readCounted (readU16 "serializer descriptor count") entry.read
 refuse (Repeats entry serializers) (.malformedFrame repeatedSerializers)
 let capabilities ← readCapabilities nfc
 return ⟨protocolMajor,protocolMinor,role,systemName,systemUid,associationUid,endpointHost,
  endpointPort,limits.maximumFrameBytes,limits.laneCount,limits.outboundMessageLimit,
  limits.outboundByteLimit,limits.inboundMessageLimit,limits.inboundByteLimit,serializers,
  capabilities,correlationId⟩

def writeHelloAccept (frame:HelloAccept):Except WireError (List UInt8):=
 writeAll
  [writeUuid frame.associationUid "association UID",
   writeU16 frame.protocolMinor "protocol minor",
   writeLimits frame.frameLimits,
   writeRoutes nfc frame.serializerRoutes,
   writeCapabilities nfc frame.capabilities]

def readHelloAccept (correlationId:ℕ):Reader WireError HelloAccept:=do
 let associationUid ← readUuid "association UID"
 let protocolMinor ← readU16 "protocol minor"
 let limits ← readLimits
 let routes ← readRoutes nfc
 let capabilities ← readCapabilities nfc
 return ⟨associationUid,protocolMinor,limits.maximumFrameBytes,limits.laneCount,
  limits.outboundMessageLimit,limits.outboundByteLimit,limits.inboundMessageLimit,
  limits.inboundByteLimit,routes,capabilities,correlationId⟩

/-- `_encode_body`, for the frames that `encode_frame` passes to it. -/
def encodeBody : ControlFrame D → Except WireError (List UInt8)
 | .hello frame=>writeHello nfc entry frame
 | .helloAccept frame=>writeHelloAccept nfc frame
 | .goAway frame | .helloReject frame=>writeReason nfc frame.reason frame.detail
 | .resolveRequest frame=>
  writeAll [writeSystemName nfc frame.systemName,writeActorPath nfc frame.actorPath]
 | .resolveResponse frame=>
  writeAll
   [writeUuid frame.systemIncarnationUid "system incarnation UID",
    writeUuid frame.actorUid "actor UID",
    writeActorPath nfc frame.actorPath]
 | .resolveRejected frame=>
  writeAll
   [check (Disallowed .resolveRejected frame.reason)
    (.protocolValidation (disallowedText .resolveRejected frame.reason)),
    writeReason nfc frame.reason frame.detail]
 | .recipientUnavailable frame=>
  writeAll
   [check (Disallowed .recipientUnavailable frame.reason)
    (.protocolValidation (disallowedText .recipientUnavailable frame.reason)),
    writeAdvisory nfc frame]
 | .deserializationRejected frame=>
  writeAll
   [check (Disallowed .deserializationRejected frame.reason)
    (.protocolValidation (disallowedText .deserializationRejected frame.reason)),
    writeAdvisory nfc frame]

def readFarewell (correlationId:ℕ):Reader WireError Farewell:=do
 let (reason,detail) ← readReason nfc
 return ⟨reason,detail,correlationId⟩

def readResolveRequest (correlationId:ℕ):Reader WireError ResolveRequest:=do
 let systemName ← readSystemName nfc
 let actorPath ← readActorPath nfc
 return ⟨correlationId,systemName,actorPath⟩

def readResolveResponse (correlationId:ℕ):Reader WireError ResolveResponse:=do
 let systemIncarnationUid ← readUuid "system incarnation UID"
 let actorUid ← readUuid "actor UID"
 let actorPath ← readActorPath nfc
 return ⟨correlationId,systemIncarnationUid,actorUid,actorPath⟩

def readResolveRejected (correlationId:ℕ):Reader WireError ResolveRejected:=do
 let (reason,detail) ← readReason nfc
 refuse (Disallowed .resolveRejected reason)
  (.malformedFrame (disallowedText .resolveRejected reason))
 return ⟨correlationId,reason,detail⟩

def readAdvisoryFrame (frameType:FrameType) (correlationId:ℕ):Reader WireError Advisory:=do
 let advisory ← readAdvisory nfc correlationId
 refuse (Disallowed frameType advisory.reason)
  (.malformedFrame (disallowedText frameType advisory.reason))
 return advisory

def readBody (correlationId:ℕ):FrameType → Reader WireError (ControlFrame D)
 | .hello=>.hello <$> readHello nfc entry correlationId
 | .helloAccept=>.helloAccept <$> readHelloAccept nfc correlationId
 | .goAway=>.goAway <$> readFarewell nfc correlationId
 | .helloReject=>.helloReject <$> readFarewell nfc correlationId
 | .resolveRequest=>.resolveRequest <$> readResolveRequest nfc correlationId
 | .resolveResponse=>.resolveResponse <$> readResolveResponse nfc correlationId
 | .resolveRejected=>.resolveRejected <$> readResolveRejected nfc correlationId
 | .recipientUnavailable=>
  .recipientUnavailable <$> readAdvisoryFrame nfc .recipientUnavailable correlationId
 | .deserializationRejected=>
  .deserializationRejected <$> readAdvisoryFrame nfc .deserializationRejected correlationId
 | .userMessage=>accept (.error (.unsupportedFrame "unsupported frame type USER_MESSAGE"))

def decodeBody (header:FrameHeader) (body:List UInt8):
  Except WireError (ControlFrame D):=do
 let (frame,rest) ← readBody nfc entry header.correlationId header.frameType body
 reject (rest≠[])
  (.malformedFrame ("frame body has " ++ toString rest.length ++ " trailing bytes"))
 return frame

def encodeCommonHeader (frameType:FrameType) (bodyLength correlationId maximumFrameBytes:ℕ):
  Except WireError (List UInt8):=do
 uint bodyLength 0 (maxU32 - headerAfterLengthSize) "frame body length" .protocolValidation
 validateCorrelation frameType correlationId .protocolValidation
 let frameLength:=headerAfterLengthSize+bodyLength
 let totalLength:=frameLength+4
 let limit ← effectiveLimit frameType maximumFrameBytes
 reject (limit<totalLength)
  (.frameTooLarge ("frame size " ++ toString totalLength ++ " exceeds limit " ++
   toString limit))
 return pack headerWidths [frameLength,frameType.value,0,headerVersion,correlationId]

def encodeFrame (frame:Frame (ControlFrame D)) (maximumFrameBytes:ℕ)
  (streamKind:Option StreamKind):Except WireError (List UInt8):=
 match frame with
 | .userMessage message=>do
  validateStream .userMessage streamKind
  encodeUserMessageFrame nfc message maximumFrameBytes
 | .control frame=>do
  validateStream frame.frameType streamKind
  let body ← encodeBody nfc entry frame
  let header ← encodeCommonHeader frame.frameType body.length frame.correlationId
   maximumFrameBytes
  return header++body

def decodeFrame (data:List UInt8) (maximumFrameBytes:ℕ) (streamKind:Option StreamKind):
  Except WireError (Frame (ControlFrame D)):=
 Wire.decodeFrame nfc (decodeBody nfc entry) data maximumFrameBytes streamKind

end

end Movie.WireFrames
