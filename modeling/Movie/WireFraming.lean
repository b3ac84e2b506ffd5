import Movie.WireCodec

/-!
# Frames and their encodings

When each serializer entry is written in one way only, a byte string decodes to a frame exactly when
it is what the frame is encoded as.
-/
namespace Movie.WireFraming

open BigEndian Checked Codec DurableModel Wire WireFrames WireCodec

variable {nfc:String → Bool} {maximumFrameBytes:ℕ} {data:List UInt8}

section

def CorrelationOk (frameType:FrameType) (correlationId:ℕ):Prop:=
 correlationId ≤ maxU64 ∧ (frameType.zeroCorrelation=true ↔ correlationId=0)

variable {frameType:FrameType}

lemma bind_correlation_eq_ok {β:Type} {b:β} {correlationId:ℕ}
  {error:String → WireError} {f:Unit → Except WireError β}:
  (validateCorrelation frameType correlationId error >>= f)=.ok b ↔
   CorrelationOk frameType correlationId ∧ f ()=.ok b:=by
 simp only [validateCorrelation,bind_assoc,bind_uint_eq_ok,bind_reject_eq_ok,CorrelationOk]
 cases frameType.zeroCorrelation <;> simp [and_assoc]

def limitOf (frameType:FrameType) (maximumFrameBytes:ℕ):ℕ:=
 if frameType.bootstrap then min maximumFrameBytes bootstrapMaxFrameBytes else maximumFrameBytes

lemma limitOf_le (frameType:FrameType) (maximumFrameBytes:ℕ):
  limitOf frameType maximumFrameBytes ≤ maximumFrameBytes:=by
 unfold limitOf
 split_ifs
 · exact Nat.min_le_left _ _
 · exact Nat.le_refl _

def MaximumOk (maximumFrameBytes:ℕ):Prop:=
 commonHeaderSize ≤ maximumFrameBytes ∧ maximumFrameBytes ≤ maxU32

lemma bind_limit_eq_ok {β:Type} {b:β} {f:ℕ → Except WireError β}:
  (effectiveLimit frameType maximumFrameBytes >>= f)=.ok b ↔
   MaximumOk maximumFrameBytes ∧ f (limitOf frameType maximumFrameBytes)=.ok b:=by
 simp only [effectiveLimit,bind_assoc,bind_uint_eq_ok,pure_bind]
 rfl

structure HeaderOk (frameType:FrameType) (bodyLength correlationId maximumFrameBytes:ℕ):
  Prop where
 correlation:CorrelationOk frameType correlationId
 maximum:MaximumOk maximumFrameBytes
 total:commonHeaderSize+bodyLength≤limitOf frameType maximumFrameBytes

def headerBytes (frameType:FrameType) (bodyLength correlationId:ℕ):List UInt8:=
 pack headerWidths
  [headerAfterLengthSize+bodyLength,frameType.value,0,headerVersion,correlationId]

lemma headerBytes_length (frameType:FrameType) (bodyLength correlationId:ℕ):
  (headerBytes frameType bodyLength correlationId).length=commonHeaderSize:=
 pack_length rfl

lemma encodeCommonHeader_eq_ok {bodyLength correlationId:ℕ}:
  encodeCommonHeader frameType bodyLength correlationId maximumFrameBytes=.ok data ↔
   HeaderOk frameType bodyLength correlationId maximumFrameBytes ∧
    headerBytes frameType bodyLength correlationId=data:=by
 have htotal:headerAfterLengthSize+bodyLength+4=commonHeaderSize+bodyLength:=by
  unfold headerAfterLengthSize commonHeaderSize
  omega
 simp only [encodeCommonHeader,bind_uint_eq_ok,bind_correlation_eq_ok,bind_limit_eq_ok,
  bind_reject_eq_ok,Nat.not_lt,htotal]
 constructor
 · rintro ⟨-,hcorrelation,hmaximum,hlimit,h⟩
   exact ⟨⟨hcorrelation,hmaximum,hlimit⟩,Except.ok.inj h⟩
 · rintro ⟨⟨hcorrelation,hmaximum,hlimit⟩,h⟩
   refine ⟨⟨Nat.zero_le _,?_⟩,hcorrelation,hmaximum,hlimit,congrArg Except.ok h⟩
   have hle:=hlimit.trans ((limitOf_le _ _).trans hmaximum.2)
   unfold commonHeaderSize maxU32 at hle
   unfold maxU32 headerAfterLengthSize
   omega

lemma frameType_ofValue_eq_some {value:ℕ}:
  FrameType.ofValue value=some frameType ↔ frameType.value=value:=
 find?_code_eq_some fun frameType=>by cases frameType <;> rfl

lemma checkHeader_eq_ok {frameLength typeValue flags version correlationId:ℕ} {header:FrameHeader}:
  checkHeader maximumFrameBytes [frameLength,typeValue,flags,version,correlationId] =
   .ok header ↔
  ∃frameType bodyLength,
   HeaderOk frameType bodyLength correlationId maximumFrameBytes ∧
   frameLength=headerAfterLengthSize+bodyLength ∧ typeValue=frameType.value ∧
   flags=0 ∧ version=headerVersion ∧
   header=⟨frameLength,frameType,flags,version,correlationId⟩:=by
 have htotal (bodyLength:ℕ):
  headerAfterLengthSize+bodyLength+4=commonHeaderSize+bodyLength:=by
  unfold headerAfterLengthSize commonHeaderSize
  omega
 simp only [checkHeader,bind_reject_eq_ok,bind_uint_eq_ok,Nat.not_lt]
 constructor
 · rintro ⟨hshort,-,-,h⟩
   obtain ⟨bodyLength,rfl⟩:=Nat.exists_eq_add_of_le hshort
   split at h
   · cases h
   · rename_i frameType htype
     simp only [bind_limit_eq_ok,bind_reject_eq_ok,bind_correlation_eq_ok,Nat.not_lt,ne_eq,
      not_not,htotal] at h
     obtain ⟨hmaximum,hlimit,hflags,hversion,hcorrelation,h⟩:=h
     exact ⟨frameType,bodyLength,⟨hcorrelation,hmaximum,hlimit⟩,rfl,
      (frameType_ofValue_eq_some.mp htype).symm,hflags,hversion,(Except.ok.inj h).symm⟩
 · rintro ⟨frameType,bodyLength,hok,rfl,rfl,rfl,rfl,rfl⟩
   rw [frameType_ofValue_eq_some.mpr rfl]
   simp only [bind_limit_eq_ok,bind_reject_eq_ok,bind_correlation_eq_ok,Nat.not_lt,ne_eq,
    not_not,htotal]
   exact ⟨Nat.le_add_right _ _,hok.maximum,hok.total.trans (limitOf_le _ _),hok.maximum,
    hok.total,trivial,trivial,hok.correlation,rfl⟩

lemma headerFields_fits {bodyLength correlationId:ℕ}
  (h:HeaderOk frameType bodyLength correlationId maximumFrameBytes):Fits headerWidths
   [headerAfterLengthSize+bodyLength,frameType.value,0,headerVersion,correlationId]:=by
 have hle:=h.total.trans ((limitOf_le _ _).trans h.maximum.2)
 have hcorrelation:=h.correlation.1
 unfold commonHeaderSize maxU32 at hle
 unfold maxU64 at hcorrelation
 have htype:frameType.value<256 ^ 1:=by cases frameType <;> decide
 exact .cons (by unfold headerAfterLengthSize; omega) (.cons htype (.cons (by decide)
  (.cons (by decide) (.cons (by omega) .nil))))

lemma decodeCommonHeader_eq_ok {header:FrameHeader}:
  decodeCommonHeader data maximumFrameBytes=.ok header ↔
  ∃bodyLength body,HeaderOk header.frameType bodyLength header.correlationId maximumFrameBytes ∧
   header=⟨headerAfterLengthSize+bodyLength,header.frameType,0,headerVersion,
    header.correlationId⟩ ∧
   data=headerBytes header.frameType bodyLength header.correlationId++body:=by
 rw [decodeCommonHeader,bind_reject_eq_ok,Nat.not_lt]
 constructor
 · rintro ⟨hlength,h⟩
   have hpack:pack headerWidths (unpack headerWidths data)=data.take commonHeaderSize:=
    pack_unpack hlength
   obtain ⟨frameLength,typeValue,flags,version,correlationId,hfields⟩:
    ∃frameLength typeValue flags version correlationId,unpack headerWidths data =
     [frameLength,typeValue,flags,version,correlationId]:=⟨_,_,_,_,_,rfl⟩
   rw [hfields] at h hpack
   obtain ⟨frameType,bodyLength,hok,rfl,rfl,rfl,rfl,rfl⟩:=checkHeader_eq_ok.mp h
   refine ⟨bodyLength,data.drop commonHeaderSize,hok,rfl,?_⟩
   rw [headerBytes,hpack,List.take_append_drop]
 · rintro ⟨bodyLength,body,hok,hheader,rfl⟩
   refine ⟨?_,?_⟩
   · rw [List.length_append,headerBytes_length]
     exact Nat.le_add_right _ _
   · rw [headerBytes,unpack_pack (headerFields_fits hok),checkHeader_eq_ok]
     exact ⟨header.frameType,bodyLength,hok,rfl,rfl,rfl,rfl,hheader⟩

end

section

variable {message:UserMessage} {header:FrameHeader}

lemma decodeManifest_eq_ok {bytes:List UInt8} {manifest:String}:
  decodeManifest nfc bytes=.ok manifest ↔
   TextOk nfc manifest maxManifestBytes true ∧ utf8 manifest=bytes:=by
 rw [←utf8Decode_eq_some,decodeManifest]
 cases utf8Decode bytes with
 | none=>exact ⟨fun h=>(by cases h),fun h=>(by cases h.2)⟩
 | some text=>
  rw [bind_textBytes_eq_ok,Option.some.injEq]
  constructor
  · rintro ⟨htext,h⟩
    cases h
    exact ⟨htext,rfl⟩
  · rintro ⟨htext,rfl⟩
    exact ⟨htext,rfl⟩

lemma toUUID_int_of_lt {value:ℕ} (h:value<256 ^ 16):(toUUID value).int=value:=
 Nat.mod_eq_of_lt h

lemma checkUserMessage_eq_ok {rest:List UInt8} {association laneId laneSequence sender recipient
  actor serializerId manifestLength payloadLength:ℕ}
  (h:checkUserMessage nfc header rest [association,laneId,laneSequence,sender,recipient,
   actor,serializerId,manifestLength,payloadLength]=.ok message):
  ((toUUID association).int≠0 ∧ laneId≠controlLaneId ∧ (toUUID sender).int≠0 ∧
   (toUUID recipient).int≠0 ∧ (toUUID actor).int≠0 ∧ serializerId≠0) ∧
  userMessageFixedBodySize+manifestLength+payloadLength=header.bodyLength ∧
  ∃manifest,TextOk nfc manifest maxManifestBytes true ∧
   utf8 manifest=rest.take manifestLength ∧
   message=⟨toUUID association,laneId,laneSequence,toUUID sender,toUUID recipient,
    toUUID actor,serializerId,manifest,rest.drop manifestLength,header.correlationId⟩:=by
 simp only [checkUserMessage,bind_uuid_eq_ok,bind_reject_eq_ok,ne_eq,not_not] at h
 obtain ⟨hassociation,hlane,hsender,hrecipient,hactor,hserializer,-,hfit,h⟩:=h
 obtain ⟨manifest,hmanifest,h⟩:=bind_eq_ok h
 obtain ⟨htext,hbytes⟩:=decodeManifest_eq_ok.mp hmanifest
 exact ⟨⟨hassociation,hlane,hsender,hrecipient,hactor,hserializer⟩,hfit,manifest,htext,
  hbytes,(Except.ok.inj h).symm⟩

lemma encodable_of_decoded (hheader:decodeCommonHeader data maximumFrameBytes=.ok header)
  (htype:header.frameType=.userMessage) (htotal:data.length=header.totalLength)
  (h:decodeUserMessageFrame nfc data header=.ok message):
  Encodable nfc message maximumFrameBytes ∧ userMessageBytes message=data:=by
 obtain ⟨bodyLength,body,hok,heq,rfl⟩:=decodeCommonHeader_eq_ok.mp hheader
 rw [htype] at hok heq htotal h ⊢
 have hdrop:(headerBytes .userMessage bodyLength header.correlationId++body).drop
  commonHeaderSize=body:=List.drop_left' (headerBytes_length _ _ _)
 have hzero:header.correlationId=0:=hok.correlation.2.mp rfl
 have hlength:body.length=bodyLength:=by
  rw [List.length_append,headerBytes_length,heq] at htotal
  change 16+body.length=12+bodyLength+4 at htotal
  omega
 have hbody:header.bodyLength=bodyLength:=by
  rw [heq]
  exact Nat.add_sub_cancel_left _ _
 simp only [decodeUserMessageFrame,bind_reject_eq_ok,hdrop,Nat.not_lt] at h
 obtain ⟨hfixed,h⟩:=h
 have hpack:pack userMessageWidths (unpack userMessageWidths body) =
  body.take userMessageFixedBodySize:=pack_unpack hfixed
 have hfits:=unpack_fits userMessageWidths body
 obtain ⟨association,laneId,laneSequence,sender,recipient,actor,serializerId,
  manifestLength,payloadLength,hfields⟩:∃a b c d e f g i j,
  unpack userMessageWidths body=[a,b,c,d,e,f,g,i,j]:=
  ⟨_,_,_,_,_,_,_,_,_,rfl⟩
 rw [hfields] at h hpack hfits
 obtain ⟨⟨hassociation,hlane,hsender,hrecipient,hactor,hserializer⟩,hfit,manifest,htext,
  hmanifest,rfl⟩:=checkUserMessage_eq_ok h
 simp only [Fits,userMessageWidths,List.forall₂_cons,List.Forall₂.nil,and_true] at hfits
 obtain ⟨hassociation',hlane',hsequence',hsender',hrecipient',hactor',hserializer',-,
  hpayload'⟩:=hfits
 have hsize:userMessagePrefixSize=100:=rfl
 have hfixedSize:userMessageFixedBodySize=84:=rfl
 have hrest:(body.drop userMessageFixedBodySize).length=manifestLength+payloadLength:=by
  rw [List.length_drop]
  omega
 have hmanifestLength:(utf8 manifest).length=manifestLength:=by
  rw [hmanifest,List.length_take]
  omega
 have hpayload:((body.drop userMessageFixedBodySize).drop manifestLength).length =
  payloadLength:=by
  rw [List.length_drop]
  omega
 refine ⟨?_,?_⟩
 · refine ⟨hzero,hassociation,?_,hlane,?_,hsender,hrecipient,hactor,?_,hserializer,htext,
    ?_,hok.maximum,?_⟩
   · exact Nat.le_of_lt_succ hlane'
   · exact Nat.le_of_lt_succ hsequence'
   · exact Nat.le_of_lt_succ hserializer'
   · rw [hpayload]
     exact Nat.le_of_lt_succ hpayload'
   · have htotal:commonHeaderSize+bodyLength ≤ maximumFrameBytes:=hok.total
     have hheaderSize:commonHeaderSize=16:=rfl
     rw [hpayload,hmanifestLength]
     omega
 · rw [userMessageBytes_eq,headerFields,bodyFields,headerBytes]
   dsimp only
   rw [hmanifestLength,hpayload,toUUID_int_of_lt hassociation',toUUID_int_of_lt hsender',
    toUUID_int_of_lt hrecipient',toUUID_int_of_lt hactor',hpack,hmanifest,
    List.take_append_drop,List.take_append_drop,hzero]
   have hframe:userMessagePrefixSize+manifestLength+payloadLength - 4 =
    headerAfterLengthSize+bodyLength:=by
    unfold headerAfterLengthSize
    omega
   rw [hframe]

end

section

variable {D:Type} {entry:EntryFormat D} {streamKind:Option StreamKind} {C:Type}
 {decodeBody:FrameHeader → List UInt8 → Except WireError C}

lemma decodeFrame_eq_ok {frame:Frame C}:
  Wire.decodeFrame nfc decodeBody data maximumFrameBytes streamKind=.ok frame ↔
  ∃header,decodeCommonHeader data maximumFrameBytes=.ok header ∧
   validateStream header.frameType streamKind=.ok () ∧
   data.length=header.totalLength ∧
   ((header.frameType=.userMessage ∧ ∃message,
    decodeUserMessageFrame nfc data header=.ok message ∧ frame=.userMessage message) ∨
    (header.frameType≠.userMessage ∧ ∃body,
     decodeBody header (data.drop commonHeaderSize)=.ok body ∧ frame=.control body)):=by
 unfold Wire.decodeFrame
 constructor
 · intro h
   obtain ⟨header,hheader,h⟩:=bind_eq_ok h
   obtain ⟨⟨⟩,hstream,h⟩:=bind_eq_ok h
   rw [bind_reject_eq_ok,bind_reject_eq_ok,Nat.not_lt,Nat.not_lt] at h
   obtain ⟨hshort,hlong,h⟩:=h
   refine ⟨header,hheader,hstream,Nat.le_antisymm hlong hshort,?_⟩
   split_ifs at h with htype
   · obtain ⟨message,hmessage,h⟩:=bind_eq_ok h
     exact .inl ⟨htype,message,hmessage,(Except.ok.inj h).symm⟩
   · obtain ⟨body,hbody,h⟩:=bind_eq_ok h
     exact .inr ⟨htype,body,hbody,(Except.ok.inj h).symm⟩
 · rintro ⟨header,hheader,hstream,htotal,hframe⟩
   rw [bind_of_ok hheader,bind_of_ok hstream,bind_reject_eq_ok,bind_reject_eq_ok,htotal]
   refine ⟨Nat.lt_irrefl _,Nat.lt_irrefl _,?_⟩
   rcases hframe with ⟨htype,message,hmessage,rfl⟩|⟨htype,body,hbody,rfl⟩
   · rw [if_pos htype,bind_of_ok hmessage]
     rfl
   · rw [if_neg htype,bind_of_ok hbody]
     rfl

lemma decodeFrame_userMessage_iff {message:UserMessage}:
  Wire.decodeFrame nfc decodeBody data maximumFrameBytes streamKind=.ok (.userMessage message) ↔
   validateStream .userMessage streamKind=.ok () ∧
    encodeUserMessageFrame nfc message maximumFrameBytes=.ok data:=by
 rw [encodeUserMessageFrame_eq_ok]
 constructor
 · intro h
   obtain ⟨header,hheader,hstream,htotal,hframe⟩:=decodeFrame_eq_ok.mp h
   rcases hframe with ⟨htype,other,hmessage,heq⟩|⟨-,body,-,heq⟩
   · cases heq
     rw [htype] at hstream
     exact ⟨hstream,encodable_of_decoded hheader htype htotal hmessage⟩
   · cases heq
 · rintro ⟨hstream,hencodable,rfl⟩
   exact decodeFrame_userMessageBytes decodeBody hstream hencodable

lemma frameType_ne (frame:ControlFrame D):frame.frameType≠.userMessage:=by
 cases frame <;> exact nofun

lemma encodeFrame_control_eq_ok {frame:ControlFrame D}:
  encodeFrame nfc entry (.control frame) maximumFrameBytes streamKind=.ok data ↔
  validateStream frame.frameType streamKind=.ok () ∧
   ∃body,encodeBody nfc entry frame=.ok body ∧
    HeaderOk frame.frameType body.length frame.correlationId maximumFrameBytes ∧
    data=headerBytes frame.frameType body.length frame.correlationId++body:=by
 unfold encodeFrame
 constructor
 · intro h
   obtain ⟨⟨⟩,hstream,h⟩:=bind_eq_ok h
   obtain ⟨body,hbody,h⟩:=bind_eq_ok h
   obtain ⟨header,hheader,h⟩:=bind_eq_ok h
   obtain ⟨hok,rfl⟩:=encodeCommonHeader_eq_ok.mp hheader
   exact ⟨hstream,body,hbody,hok,(Except.ok.inj h).symm⟩
 · rintro ⟨hstream,body,hbody,hok,rfl⟩
   dsimp only
   rw [bind_of_ok hstream,bind_of_ok hbody,bind_of_ok (encodeCommonHeader_eq_ok.mpr ⟨hok,rfl⟩)]
   rfl

lemma decodeFrame_control_iff {frame:C}:
  Wire.decodeFrame nfc decodeBody data maximumFrameBytes streamKind=.ok (.control frame) ↔
  ∃frameType correlationId body,frameType≠.userMessage ∧
   validateStream frameType streamKind=.ok () ∧
   HeaderOk frameType body.length correlationId maximumFrameBytes ∧
   data=headerBytes frameType body.length correlationId++body ∧
   decodeBody ⟨headerAfterLengthSize+body.length,frameType,0,headerVersion,correlationId⟩
    body=.ok frame:=by
 rw [decodeFrame_eq_ok]
 constructor
 · rintro ⟨header,hheader,hstream,htotal,⟨-,_,-,heq⟩|⟨htype,other,hbody,heq⟩⟩
   · cases heq
   cases heq
   obtain ⟨bodyLength,body,hok,heq,rfl⟩:=decodeCommonHeader_eq_ok.mp hheader
   rw [List.drop_left' (headerBytes_length _ _ _)] at hbody
   have hlength:body.length=bodyLength:=by
    rw [List.length_append,headerBytes_length,heq] at htotal
    change 16+body.length=12+bodyLength+4 at htotal
    omega
   subst hlength
   exact ⟨header.frameType,header.correlationId,body,htype,hstream,hok,rfl,heq▸hbody⟩
 · rintro ⟨frameType,correlationId,body,htype,hstream,hok,rfl,hbody⟩
   refine ⟨⟨headerAfterLengthSize+body.length,frameType,0,headerVersion,correlationId⟩,
    decodeCommonHeader_eq_ok.mpr ⟨body.length,body,hok,rfl,rfl⟩,hstream,?_,
    .inr ⟨htype,frame,?_,rfl⟩⟩
   · rw [List.length_append,headerBytes_length]
     change 16+body.length=12+body.length+4
     omega
   · rw [List.drop_left' (headerBytes_length _ _ _)]
     exact hbody

lemma decodeFrame_iff_encodeFrame (hentry:Inverts entry.read entry.write)
  {frame:Frame (ControlFrame D)}:
  WireFrames.decodeFrame nfc entry data maximumFrameBytes streamKind=.ok frame ↔
   encodeFrame nfc entry frame maximumFrameBytes streamKind=.ok data:=by
 cases frame with
 | userMessage message=>
  rw [WireFrames.decodeFrame,decodeFrame_userMessage_iff,encodeFrame]
  constructor
  · rintro ⟨hstream,h⟩
    rw [bind_of_ok hstream]
    exact h
  · intro h
    obtain ⟨⟨⟩,hstream,h⟩:=bind_eq_ok h
    exact ⟨hstream,h⟩
 | control frame=>
  rw [WireFrames.decodeFrame,decodeFrame_control_iff,encodeFrame_control_eq_ok]
  simp only [decodeBody_eq_ok hentry]
  constructor
  · rintro ⟨_,_,body,-,hstream,hok,rfl,⟨rfl,rfl⟩,hbody⟩
    exact ⟨hstream,body,hbody,hok,rfl⟩
  · rintro ⟨hstream,body,hbody,hok,rfl⟩
    exact ⟨frame.frameType,frame.correlationId,body,frameType_ne frame,hstream,hok,rfl,
     ⟨rfl,rfl⟩,hbody⟩

end

end Movie.WireFraming
