import Movie.Checked
import Movie.DurableModel

/-!
# User-message frames on the wire

The common header and the `USER_MESSAGE` frame of `remoting/wire.py`, with the texts of their
errors. The bodies of the other frame types and the NFC test are parameters.
-/
namespace Movie.Wire

open BigEndian Checked DurableModel

inductive StreamKind where
 | control
 | deliveryLane
 | multiplexed
 deriving DecidableEq

def StreamKind.name : StreamKind → String
 | .control => "CONTROL"
 | .deliveryLane => "DELIVERY_LANE"
 | .multiplexed => "MULTIPLEXED"

inductive FrameType where
 | hello
 | helloAccept
 | goAway
 | helloReject
 | resolveRequest
 | resolveResponse
 | resolveRejected
 | userMessage
 | recipientUnavailable
 | deserializationRejected
 deriving DecidableEq

namespace FrameType

def value : FrameType → ℕ
 | hello=>0x01
 | helloAccept=>0x02
 | goAway=>0x03
 | helloReject=>0x04
 | resolveRequest=>0x10
 | resolveResponse=>0x11
 | resolveRejected=>0x12
 | userMessage=>0x20
 | recipientUnavailable=>0x30
 | deserializationRejected=>0x31

def name : FrameType → String
 | hello => "HELLO"
 | helloAccept => "HELLO_ACCEPT"
 | goAway => "GOAWAY"
 | helloReject => "HELLO_REJECT"
 | resolveRequest => "RESOLVE_REQUEST"
 | resolveResponse => "RESOLVE_RESPONSE"
 | resolveRejected => "RESOLVE_REJECTED"
 | userMessage => "USER_MESSAGE"
 | recipientUnavailable => "RECIPIENT_UNAVAILABLE"
 | deserializationRejected => "DESERIALIZATION_REJECTED"

def all : List FrameType:=
 [hello,helloAccept,goAway,helloReject,resolveRequest,resolveResponse,resolveRejected,
  userMessage,recipientUnavailable,deserializationRejected]

def ofValue (value:ℕ):Option FrameType:=all.find? fun frameType=>frameType.value=value

def zeroCorrelation : FrameType → Bool
 | resolveRequest | resolveResponse | resolveRejected=>false
 | _=>true

def bootstrap : FrameType → Bool
 | hello | helloAccept | helloReject=>true
 | _=>false

end FrameType

inductive WireError where
 | protocolValidation (detail:String)
 | malformedFrame (detail:String)
 | frameTooLarge (detail:String)
 | unsupportedFrame (detail:String)
 | unsupportedFeature (detail:String)
 | unsupportedHeaderVersion (detail:String)
 | wrongStream (detail:String)
 deriving DecidableEq

def headerVersion : ℕ:=1
def bootstrapMaxFrameBytes : ℕ:=2 ^ 20
def commonHeaderSize : ℕ:=16
def controlLaneId : ℕ:=0xFFFF
def maxU16 : ℕ:=2 ^ 16 - 1
def maxU32 : ℕ:=2 ^ 32 - 1
def maxU64 : ℕ:=2 ^ 64 - 1
def maxManifestBytes : ℕ:=1024
def headerAfterLengthSize : ℕ:=12
def userMessageFixedBodySize : ℕ:=84

/-- The field widths of the formats `>IBBHQ` and `>16sHQ16s16s16sIHI`. -/
def headerWidths : List ℕ:=[4,1,1,2,8]
def userMessageWidths : List ℕ:=[16,2,8,16,16,16,4,2,4]

structure UserMessage where
 associationUid:UUID
 laneId:ℕ
 laneSequence:ℕ
 senderIncarnationUid:UUID
 recipientIncarnationUid:UUID
 recipientActorUid:UUID
 serializerId:ℕ
 manifest:String
 payload:List UInt8
 correlationId:ℕ
 deriving DecidableEq

structure FrameHeader where
 frameLength:ℕ
 frameType:FrameType
 flags:ℕ
 headerVersion:ℕ
 correlationId:ℕ
 deriving DecidableEq

def FrameHeader.totalLength (header:FrameHeader):ℕ:=header.frameLength+4
def FrameHeader.bodyLength (header:FrameHeader):ℕ:=header.frameLength - headerAfterLengthSize

def uint {ε:Type} (value minimum maximum:ℕ) (field:String) (error:String → ε):
  Except ε Unit:=
 reject (value < minimum ∨ maximum<value)
  (error (field ++ " must be between " ++ toString minimum ++ " and " ++ toString maximum))

def uuid (value:UUID) (field:String) (error:String → WireError):Except WireError Unit:=
 reject (value.int=0) (error (field ++ " must be a nonzero UUID"))

def textBytes {ε:Type} (nfc:String → Bool) (value field:String) (maximum:ℕ)
  (nonempty:Bool) (error:String → ε):Except ε (List UInt8):=do
 reject (nfc value=false) (error (field ++ " must be NFC-normalized"))
 reject (nonempty=true ∧ utf8 value=[]) (error (field ++ " must not be empty"))
 reject (maximum<(utf8 value).length)
  (error (field ++ " exceeds " ++ toString maximum ++ " UTF-8 bytes"))
 return utf8 value

def hexByte (value:ℕ):String:=
 String.ofList ['0','x',Nat.digitChar (value / 16),Nat.digitChar (value % 16)]

def utf8Decode (bytes:List UInt8):Option String:=
 bytes.toByteArray.utf8Decode?.map fun chars=>String.ofList chars.toList

def validateCorrelation (frameType:FrameType) (correlationId:ℕ)
  (error:String → WireError):Except WireError Unit:=do
 uint correlationId 0 maxU64 "correlation ID" error
 reject (frameType.zeroCorrelation=true ∧ correlationId≠0)
  (error (frameType.name ++ " requires correlation ID zero"))
 reject (frameType.zeroCorrelation=false ∧ correlationId=0)
  (error (frameType.name ++ " requires a nonzero correlation ID"))

def effectiveLimit (frameType:FrameType) (maximumFrameBytes:ℕ):Except WireError ℕ:=do
 uint maximumFrameBytes commonHeaderSize maxU32 "maximum frame bytes" .protocolValidation
 return if frameType.bootstrap then min maximumFrameBytes bootstrapMaxFrameBytes
  else maximumFrameBytes

def userMessageFields (frame:UserMessage) (totalLength manifestLength:ℕ):List ℕ:=
 [totalLength - 4,FrameType.userMessage.value,0,headerVersion,0] ++
  [frame.associationUid.int,frame.laneId,frame.laneSequence,frame.senderIncarnationUid.int,
   frame.recipientIncarnationUid.int,frame.recipientActorUid.int,frame.serializerId,
   manifestLength,frame.payload.length]

def userMessagePrefixSize : ℕ:=(headerWidths++userMessageWidths).sum

def encodeUserMessageFrame (nfc:String → Bool) (frame:UserMessage) (maximumFrameBytes:ℕ):
  Except WireError (List UInt8):=do
 let error:=WireError.protocolValidation
 validateCorrelation .userMessage frame.correlationId error
 uuid frame.associationUid "association UID" error
 uint frame.laneId 0 maxU16 "lane ID" error
 reject (frame.laneId=controlLaneId) (error "user-message lane ID cannot be 0xffff")
 uint frame.laneSequence 0 maxU64 "lane sequence" error
 uuid frame.senderIncarnationUid "sender incarnation UID" error
 uuid frame.recipientIncarnationUid "recipient incarnation UID" error
 uuid frame.recipientActorUid "recipient actor UID" error
 uint frame.serializerId 0 maxU32 "serializer ID" error
 reject (frame.serializerId=0) (error "user-message serializer ID must be nonzero")
 let manifest ← textBytes nfc frame.manifest "serializer manifest" maxManifestBytes true error
 uint frame.payload.length 0 maxU32 "payload length" error
 let totalLength:=userMessagePrefixSize+manifest.length+frame.payload.length
 let limit ← effectiveLimit .userMessage maximumFrameBytes
 reject (limit<totalLength)
  (.frameTooLarge ("frame size " ++ toString totalLength ++ " exceeds limit " ++
   toString limit))
 return pack (headerWidths++userMessageWidths)
  (userMessageFields frame totalLength manifest.length)++(manifest++frame.payload)

/-- The checks of `decode_common_header` on the unpacked header. -/
def checkHeader (maximumFrameBytes:ℕ):List ℕ → Except WireError FrameHeader
 | [frameLength,typeValue,flags,version,correlationId]=>do
  reject (frameLength<headerAfterLengthSize)
   (.malformedFrame "frame length is smaller than the common header")
  uint maximumFrameBytes commonHeaderSize maxU32 "maximum frame bytes" .protocolValidation
  reject (maximumFrameBytes<frameLength+4)
   (.frameTooLarge ("declared frame size " ++ toString (frameLength+4) ++
    " exceeds limit " ++ toString maximumFrameBytes))
  match FrameType.ofValue typeValue with
  | none=>.error (.unsupportedFrame ("unknown frame type " ++ hexByte typeValue))
  | some frameType=>
   let limit ← effectiveLimit frameType maximumFrameBytes
   reject (limit<frameLength+4)
    (.frameTooLarge ("declared frame size " ++ toString (frameLength+4) ++
     " exceeds limit " ++ toString limit))
   reject (flags≠0)
    (.unsupportedFeature ("unsupported mandatory frame flags " ++ hexByte flags))
   reject (version≠headerVersion)
    (.unsupportedHeaderVersion ("unsupported frame header version " ++ toString version))
   validateCorrelation frameType correlationId .malformedFrame
   return ⟨frameLength,frameType,flags,version,correlationId⟩
 | _=>.error (.malformedFrame "common frame header")

def decodeCommonHeader (data:List UInt8) (maximumFrameBytes:ℕ):
  Except WireError FrameHeader:=do
 reject (data.length<commonHeaderSize)
  (.malformedFrame ("common frame header requires " ++ toString commonHeaderSize ++ " bytes"))
 checkHeader maximumFrameBytes (unpack headerWidths data)

def validateStream (frameType:FrameType) (streamKind:Option StreamKind):
  Except WireError Unit:=
 let expected:=if frameType=.userMessage then StreamKind.deliveryLane else .control
 reject (streamKind≠none ∧ streamKind≠some .multiplexed ∧ streamKind≠some expected)
  (.wrongStream (frameType.name ++ " is valid only on a " ++ expected.name ++ " stream"))

def toUUID (value:ℕ):UUID:=⟨value % 2 ^ 128,Nat.mod_lt _ (by decide)⟩

def decodeManifest (nfc:String → Bool) (bytes:List UInt8):Except WireError String:=
 match utf8Decode bytes with
 | none=>.error (.malformedFrame "serializer manifest is not valid UTF-8")
 | some manifest=>do
  let _ ← textBytes nfc manifest "serializer manifest" maxManifestBytes true .malformedFrame
  return manifest

/-- The checks of `_decode_user_message_frame` on the unpacked fixed body; `rest` is what
 follows it. -/
def checkUserMessage (nfc:String → Bool) (header:FrameHeader) (rest:List UInt8):
  List ℕ → Except WireError UserMessage
 | [association,laneId,laneSequence,sender,recipient,actor,serializerId,manifestLength,
  payloadLength]=>do
  let error:=WireError.malformedFrame
  uuid (toUUID association) "association UID" error
  reject (laneId=controlLaneId) (error "user-message lane ID cannot be 0xffff")
  uuid (toUUID sender) "sender incarnation UID" error
  uuid (toUUID recipient) "recipient incarnation UID" error
  uuid (toUUID actor) "recipient actor UID" error
  reject (serializerId=0) (error "user-message serializer ID must be nonzero")
  reject (maxManifestBytes < manifestLength)
   (error ("serializer manifest exceeds " ++ toString maxManifestBytes ++ " UTF-8 bytes"))
  reject (userMessageFixedBodySize+manifestLength+payloadLength≠header.bodyLength)
   (error "manifest and payload lengths do not exactly fit frame body")
  let manifest ← decodeManifest nfc (rest.take manifestLength)
  return ⟨toUUID association,laneId,laneSequence,toUUID sender,toUUID recipient,
   toUUID actor,serializerId,manifest,rest.drop manifestLength,header.correlationId⟩
 | _=>.error (.malformedFrame "truncated user-message fixed body")

def decodeUserMessageFrame (nfc:String → Bool) (data:List UInt8) (header:FrameHeader):
  Except WireError UserMessage:=do
 let body:=data.drop commonHeaderSize
 reject (body.length<userMessageFixedBodySize)
  (.malformedFrame "truncated user-message fixed body")
 checkUserMessage nfc header (body.drop userMessageFixedBodySize) (unpack userMessageWidths body)

/-- A decoded frame; `C` is the type of frames other than user messages. -/
inductive Frame (C:Type) where
 | userMessage (message:UserMessage)
 | control (frame:C)

def decodeFrame {C:Type} (nfc:String → Bool)
  (decodeBody:FrameHeader → List UInt8 → Except WireError C) (data:List UInt8)
  (maximumFrameBytes:ℕ) (streamKind:Option StreamKind):Except WireError (Frame C):=do
 let header ← decodeCommonHeader data maximumFrameBytes
 validateStream header.frameType streamKind
 reject (data.length<header.totalLength)
  (.malformedFrame ("truncated frame: declared " ++ toString header.totalLength ++
   " bytes, received " ++ toString data.length))
 reject (header.totalLength<data.length)
  (.malformedFrame ("frame has " ++ toString (data.length - header.totalLength) ++
   " bytes after its declared boundary"))
 if header.frameType=.userMessage then
  return .userMessage (← decodeUserMessageFrame nfc data header)
 else return .control (← decodeBody header (data.drop commonHeaderSize))

section

variable {β:Type} {nfc:String → Bool} {error:String → WireError} {field:String} {b:β}

variable {ε:Type} {maximum maximumFrameBytes:ℕ} {f:Unit → Except WireError β}

lemma bind_uint_eq_ok {error:String → ε} {value minimum:ℕ}
  {f:Unit → Except ε β}:(uint value minimum maximum field error >>= f)=.ok b ↔
   (minimum≤value ∧ value ≤ maximum) ∧ f ()=.ok b:=by
 rw [uint,bind_reject_eq_ok,not_or,Nat.not_lt,Nat.not_lt]

lemma bind_uuid_eq_ok {value:UUID}:
  (uuid value field error >>= f)=.ok b ↔ value.int≠0 ∧ f ()=.ok b:=by
 rw [uuid,bind_reject_eq_ok]

def TextOk (nfc:String → Bool) (value:String) (maximum:ℕ) (nonempty:Bool):Prop:=
 nfc value=true ∧ (nonempty=true → utf8 value≠[]) ∧ (utf8 value).length ≤ maximum

instance (value:String) (maximum:ℕ) (nonempty:Bool):
  Decidable (TextOk nfc value maximum nonempty):=inferInstanceAs (Decidable (_ ∧ _ ∧ _))

lemma bind_textBytes_eq_ok {error:String → ε} {value:String}
  {nonempty:Bool} {f:List UInt8 → Except ε β}:
  (textBytes nfc value field maximum nonempty error >>= f)=.ok b ↔
   TextOk nfc value maximum nonempty ∧ f (utf8 value)=.ok b:=by
 simp only [textBytes,TextOk,bind_assoc,bind_reject_eq_ok,pure_bind,Bool.not_eq_false,
  Nat.not_lt,not_and,and_assoc,ne_eq]

lemma bind_validateCorrelation_eq_ok {correlationId:ℕ}:
  (validateCorrelation .userMessage correlationId error >>= f)=.ok b ↔
   correlationId=0 ∧ f ()=.ok b:=by
 simp only [validateCorrelation,FrameType.zeroCorrelation,bind_assoc,bind_uint_eq_ok,
  bind_reject_eq_ok,true_and,Bool.true_eq_false,false_and,not_false_eq_true,not_not,
  Nat.zero_le]
 constructor
 · exact fun h=>h.2
 · rintro ⟨rfl,h⟩
   exact ⟨Nat.zero_le _,rfl,h⟩

lemma bind_effectiveLimit_eq_ok {f:ℕ → Except WireError β}:
  (effectiveLimit .userMessage maximumFrameBytes >>= f)=.ok b ↔
   (commonHeaderSize ≤ maximumFrameBytes ∧ maximumFrameBytes ≤ maxU32) ∧
    f maximumFrameBytes=.ok b:=by
 simp only [effectiveLimit,bind_assoc,bind_uint_eq_ok,pure_bind]
 rfl

lemma utf8Decode_utf8 (text:String):utf8Decode (utf8 text)=some text:=by
 have hbytes:(utf8 text).toByteArray=text.toList.utf8Encode:=rfl
 rw [utf8Decode,hbytes,List.utf8Decode?_utf8Encode]
 simp

structure Encodable (nfc:String → Bool) (frame:UserMessage) (maximumFrameBytes:ℕ):
  Prop where
 correlation:frame.correlationId=0
 association:frame.associationUid.int≠0
 lane:frame.laneId ≤ maxU16
 lane_ne:frame.laneId≠controlLaneId
 sequence:frame.laneSequence ≤ maxU64
 sender:frame.senderIncarnationUid.int≠0
 recipient:frame.recipientIncarnationUid.int≠0
 actor:frame.recipientActorUid.int≠0
 serializer:frame.serializerId ≤ maxU32
 serializer_ne:frame.serializerId≠0
 manifest:TextOk nfc frame.manifest maxManifestBytes true
 payload:frame.payload.length ≤ maxU32
 maximum:commonHeaderSize ≤ maximumFrameBytes ∧ maximumFrameBytes ≤ maxU32
 total:userMessagePrefixSize+(utf8 frame.manifest).length+frame.payload.length ≤
  maximumFrameBytes

def userMessageBytes (frame:UserMessage):List UInt8:=
 pack (headerWidths++userMessageWidths)
  (userMessageFields frame
   (userMessagePrefixSize+(utf8 frame.manifest).length+frame.payload.length)
   (utf8 frame.manifest).length)++(utf8 frame.manifest++frame.payload)

lemma encodeUserMessageFrame_eq_ok {frame:UserMessage}
  {bytes:List UInt8}:encodeUserMessageFrame nfc frame maximumFrameBytes=.ok bytes ↔
   Encodable nfc frame maximumFrameBytes ∧ userMessageBytes frame=bytes:=by
 simp only [encodeUserMessageFrame,bind_validateCorrelation_eq_ok,bind_uuid_eq_ok,
  bind_uint_eq_ok,bind_reject_eq_ok,bind_textBytes_eq_ok,bind_effectiveLimit_eq_ok,
  Nat.zero_le,true_and,Nat.not_lt]
 constructor
 · rintro ⟨hc,ha,hl,hn,hq,hs,hr,hu,hi,hz,hm,hp,hx,ht,hb⟩
   exact ⟨⟨hc,ha,hl,hn,hq,hs,hr,hu,hi,hz,hm,hp,hx,ht⟩,Except.ok.inj hb⟩
 · rintro ⟨⟨hc,ha,hl,hn,hq,hs,hr,hu,hi,hz,hm,hp,hx,ht⟩,hb⟩
   exact ⟨hc,ha,hl,hn,hq,hs,hr,hu,hi,hz,hm,hp,hx,ht,congrArg Except.ok hb⟩

section

variable {frame:UserMessage} {maximumFrameBytes:ℕ}

def headerFields (frame:UserMessage):List ℕ:=
 [userMessagePrefixSize+(utf8 frame.manifest).length+frame.payload.length - 4,
  FrameType.userMessage.value,0,headerVersion,0]

def bodyFields (frame:UserMessage):List ℕ:=
 [frame.associationUid.int,frame.laneId,frame.laneSequence,frame.senderIncarnationUid.int,
  frame.recipientIncarnationUid.int,frame.recipientActorUid.int,frame.serializerId,
  (utf8 frame.manifest).length,frame.payload.length]

lemma userMessageBytes_eq (frame:UserMessage):
  userMessageBytes frame=pack headerWidths (headerFields frame) ++
   (pack userMessageWidths (bodyFields frame)++(utf8 frame.manifest++frame.payload)):=by
 rw [←List.append_assoc,←pack_append (by rfl)]
 rfl

lemma userMessageBytes_length (frame:UserMessage):(userMessageBytes frame).length =
   userMessagePrefixSize+(utf8 frame.manifest).length+frame.payload.length:=by
 rw [userMessageBytes_eq,List.length_append,List.length_append,List.length_append,
  pack_length (by rfl),pack_length (by rfl),←Nat.add_assoc,←Nat.add_assoc]
 rfl

lemma userMessageBytes_body (frame:UserMessage):
  (userMessageBytes frame).drop commonHeaderSize =
   pack userMessageWidths (bodyFields frame)++(utf8 frame.manifest++frame.payload):=by
 rw [userMessageBytes_eq]
 exact List.drop_left' (pack_length (by rfl))

lemma headerFields_fit (h:Encodable nfc frame maximumFrameBytes):
  Fits headerWidths (headerFields frame):=by
 have htotal:=h.total
 have hmaximum:=h.maximum.2
 have hlength:userMessagePrefixSize+(utf8 frame.manifest).length+frame.payload.length - 4 <
  256 ^ 4:=by
  unfold maxU32 at hmaximum
  omega
 exact .cons hlength (.cons (by decide) (.cons (by decide) (.cons (by decide)
  (.cons (by decide) .nil))))

lemma bodyFields_fit (h:Encodable nfc frame maximumFrameBytes):
  Fits userMessageWidths (bodyFields frame):=by
 have hlane:=h.lane
 have hsequence:=h.sequence
 have hserializer:=h.serializer
 have hmanifest:=h.manifest.2.2
 have hpayload:=h.payload
 unfold maxU16 at hlane
 unfold maxU64 at hsequence
 unfold maxU32 at hserializer hpayload
 unfold maxManifestBytes at hmanifest
 have huuid (value:UUID):value.int<256 ^ 16:=value.bounded
 exact .cons (huuid _) (.cons (by omega) (.cons (by omega) (.cons (huuid _) (.cons (huuid _)
  (.cons (huuid _) (.cons (by omega) (.cons (by omega) (.cons (by omega) .nil))))))))

lemma toUUID_int (value:UUID):toUUID value.int=value:=by
 have hmod:value.int % 2 ^ 128=value.int:=Nat.mod_eq_of_lt value.bounded
 unfold toUUID
 cases value
 congr

lemma decodeCommonHeader_userMessageBytes (h:Encodable nfc frame maximumFrameBytes):
  decodeCommonHeader (userMessageBytes frame) maximumFrameBytes =
   .ok ⟨userMessagePrefixSize+(utf8 frame.manifest).length+frame.payload.length - 4,
    .userMessage,0,headerVersion,0⟩:=by
 have htotal:=h.total
 have hlength:=userMessageBytes_length frame
 have hsize_eq:userMessagePrefixSize=100:=rfl
 have hfields:unpack headerWidths (userMessageBytes frame)=headerFields frame:=by
  rw [userMessageBytes_eq]
  exact unpack_pack (headerFields_fit h) _
 have htype:FrameType.ofValue FrameType.userMessage.value=some .userMessage:=rfl
 rw [decodeCommonHeader,hfields,headerFields,checkHeader,htype]
 simp only [bind_reject_eq_ok,bind_uint_eq_ok,bind_effectiveLimit_eq_ok,
  bind_validateCorrelation_eq_ok,Nat.not_lt,ne_eq,not_not]
 refine ⟨?_,?_,h.maximum,?_,h.maximum,?_,trivial,trivial,trivial,rfl⟩
 · rw [hlength,hsize_eq,commonHeaderSize]
   omega
 · rw [hsize_eq,headerAfterLengthSize]
   omega
 · omega
 · omega

lemma decodeUserMessageFrame_userMessageBytes (h:Encodable nfc frame maximumFrameBytes):
  decodeUserMessageFrame nfc (userMessageBytes frame)
   ⟨userMessagePrefixSize+(utf8 frame.manifest).length+frame.payload.length - 4,
    .userMessage,0,headerVersion,0⟩=.ok frame:=by
 have hsize:(pack userMessageWidths (bodyFields frame)).length=userMessageFixedBodySize:=
  pack_length (by rfl)
 have hrest:((userMessageBytes frame).drop commonHeaderSize).drop userMessageFixedBodySize =
  utf8 frame.manifest++frame.payload:=by
  rw [userMessageBytes_body]
  exact List.drop_left' hsize
 have hfields:unpack userMessageWidths ((userMessageBytes frame).drop commonHeaderSize) =
  bodyFields frame:=by
  rw [userMessageBytes_body]
  exact unpack_pack (bodyFields_fit h) _
 have hmanifest:decodeManifest nfc (utf8 frame.manifest)=.ok frame.manifest:=by
  rw [decodeManifest,utf8Decode_utf8]
  exact bind_textBytes_eq_ok.mpr ⟨h.manifest,rfl⟩
 simp only [decodeUserMessageFrame]
 rw [hrest,hfields,bodyFields,checkUserMessage]
 simp only [bind_reject_eq_ok,bind_uuid_eq_ok,toUUID_int,Nat.not_lt,ne_eq,not_not,
  List.take_left',List.drop_left',hmanifest]
 refine ⟨?_,h.association,h.lane_ne,h.sender,h.recipient,h.actor,h.serializer_ne,
  h.manifest.2.2,?_,?_⟩
 · rw [userMessageBytes_body,List.length_append,hsize]
   exact Nat.le_add_right _ _
 · change 84+(utf8 frame.manifest).length+frame.payload.length =
    100+(utf8 frame.manifest).length+frame.payload.length - 4 - 12
   omega
 · have hcorrelation:=h.correlation
   cases frame
   cases hcorrelation
   rfl

lemma decodeFrame_userMessageBytes {C:Type}
  (decodeBody:FrameHeader → List UInt8 → Except WireError C) {streamKind:Option StreamKind}
  (hstream:validateStream .userMessage streamKind=.ok ()) (h:Encodable nfc frame maximumFrameBytes):
  decodeFrame nfc decodeBody (userMessageBytes frame) maximumFrameBytes streamKind =
   .ok (.userMessage frame):=by
 have hsize_eq:userMessagePrefixSize=100:=rfl
 have hlength:=userMessageBytes_length frame
 rw [decodeFrame,bind_of_ok (decodeCommonHeader_userMessageBytes h),bind_of_ok hstream,
  bind_reject_eq_ok,bind_reject_eq_ok,if_pos rfl,
  bind_of_ok (decodeUserMessageFrame_userMessageBytes h),Nat.not_lt,Nat.not_lt,
  FrameHeader.totalLength]
 dsimp only
 refine ⟨?_,?_,rfl⟩ <;> omega

end

end

end Movie.Wire
