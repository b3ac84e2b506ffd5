import Movie.WireFraming

/-!
# What is encoded is decoded again

A serializer descriptor holds sets of manifests and the wire holds lists, so the frames of the
source are described by frames over plain listings, for which decoding and encoding are inverse to
each other.
-/
namespace Movie.WireRoundTrip

open BigEndian Checked Codec DurableModel Wire WireFrames WireCodec WireFraming Serialization

variable {nfc:String → Bool} {maximumFrameBytes:ℕ} {streamKind:Option StreamKind}
 {data:List UInt8}

section

def HelloWith.withSerializers {D E:Type} (frame:HelloWith D) (serializers:List E):
  HelloWith E where
 protocolMajor:=frame.protocolMajor
 protocolMinor:=frame.protocolMinor
 role:=frame.role
 systemName:=frame.systemName
 systemIncarnationUid:=frame.systemIncarnationUid
 associationUid:=frame.associationUid
 endpointHost:=frame.endpointHost
 endpointPort:=frame.endpointPort
 maximumFrameBytes:=frame.maximumFrameBytes
 laneCount:=frame.laneCount
 outboundMessageLimit:=frame.outboundMessageLimit
 outboundByteLimit:=frame.outboundByteLimit
 inboundMessageLimit:=frame.inboundMessageLimit
 inboundByteLimit:=frame.inboundByteLimit
 serializers:=serializers
 capabilities:=frame.capabilities
 correlationId:=frame.correlationId

def listed : ControlFrame SerializerDescriptor → ControlFrame SerializerListing
 | .hello frame=>.hello (HelloWith.withSerializers frame (frame.serializers.map listingOf))
 | .helloAccept frame=>.helloAccept frame
 | .goAway frame=>.goAway frame
 | .helloReject frame=>.helloReject frame
 | .resolveRequest frame=>.resolveRequest frame
 | .resolveResponse frame=>.resolveResponse frame
 | .resolveRejected frame=>.resolveRejected frame
 | .recipientUnavailable frame=>.recipientUnavailable frame
 | .deserializationRejected frame=>.deserializationRejected frame

def Described (nfc:String → Bool) (listings:List SerializerListing)
  (descriptors:List SerializerDescriptor):Prop:=
 List.Forall₂ (fun listing descriptor=>describe nfc listing=.ok descriptor) listings
  descriptors

def Describes (nfc:String → Bool) (listing:ControlFrame SerializerListing):
  ControlFrame SerializerDescriptor → Prop
 | .hello frame=>∃listings,listing=.hello (HelloWith.withSerializers frame listings) ∧
  Described nfc listings frame.serializers
 | frame=>listing=listed frame

lemma listed_frameType (frame:ControlFrame SerializerDescriptor):
  (listed frame).frameType=frame.frameType:=by
 cases frame <;> rfl

lemma listed_correlationId (frame:ControlFrame SerializerDescriptor):
  (listed frame).correlationId=frame.correlationId:=by
 cases frame <;> rfl

def helloFields {D:Type} (nfc:String → Bool) (frame:HelloWith D):
  List (Except WireError (List UInt8)):=
 [writeU16 frame.protocolMajor "protocol major",
  writeU16 frame.protocolMinor "protocol minor",
  writeU8 frame.role.value "role",
  writeSystemName nfc frame.systemName,
  writeUuid frame.systemIncarnationUid "system incarnation UID",
  writeUuid frame.associationUid "association UID",
  writeString16 nfc frame.endpointHost "endpoint host" maxU16 true,
  writeU16 frame.endpointPort "endpoint port",
  writeLimits frame.frameLimits]

def serializerParts {D:Type} (entry:EntryFormat D) (serializers:List D):
  List (Except WireError (List UInt8)):=
 [check (maxU16<serializers.length)
  (.protocolValidation "serializer descriptor count exceeds 65535"),
  check (Repeats entry serializers) (.protocolValidation repeatedSerializers),
  writeCounted (writeU16 · "serializer descriptor count") entry.write serializers]

lemma writeHello_eq {D E:Type} (entry:EntryFormat E) (frame:HelloWith D)
  (serializers:List E):writeHello nfc entry (HelloWith.withSerializers frame serializers) =
   writeAll (helloFields nfc frame++(serializerParts entry serializers ++
    [writeCapabilities nfc frame.capabilities])):=rfl

lemma serializerParts_listed (serializers:List SerializerDescriptor):
  serializerParts (listingFormat nfc) (serializers.map listingOf) =
   serializerParts (descriptorFormat nfc) serializers:=by
 have hrepeats:Repeats (listingFormat nfc) (serializers.map listingOf) ↔
  Repeats (descriptorFormat nfc) serializers:=by
  unfold Repeats
  rw [List.map_map,List.map_map]
  exact Iff.rfl
 unfold serializerParts writeCounted
 rw [check_congr _ hrepeats,List.length_map,List.map_map]
 rfl

lemma encodeBody_listed (frame:ControlFrame SerializerDescriptor):
  encodeBody nfc (listingFormat nfc) (listed frame) =
   encodeBody nfc (descriptorFormat nfc) frame:=by
 cases frame with
 | hello frame=>
  change writeHello nfc _ (HelloWith.withSerializers frame _) =
   writeHello nfc _ (HelloWith.withSerializers frame frame.serializers)
  rw [writeHello_eq,writeHello_eq,serializerParts_listed]
 | _=>rfl

lemma encodeFrame_listed (frame:ControlFrame SerializerDescriptor):
  encodeFrame nfc (listingFormat nfc) (.control (listed frame)) maximumFrameBytes streamKind =
   encodeFrame nfc (descriptorFormat nfc) (.control frame) maximumFrameBytes streamKind:=by
 simp only [encodeFrame,listed_frameType,listed_correlationId,encodeBody_listed]

end

section

lemma describe_eq_ok {listing:SerializerListing} {descriptor:SerializerDescriptor}:
  describe nfc listing=.ok descriptor ↔
   (listing.readable.Nodup ∧ listing.writable.Nodup) ∧
   SerializerDescriptor.create nfc listing.serializerId listing.name listing.protocolMajor
    listing.protocolMinor listing.readable listing.writable=.ok descriptor:=by
 rw [describe,bind_reject_eq_ok,mapError_eq_ok,not_or,not_not,not_not]

lemma repeats_described {listings:List SerializerListing}
  {descriptors:List SerializerDescriptor} (h:Described nfc listings descriptors):
  Repeats (listingFormat nfc) listings ↔ Repeats (descriptorFormat nfc) descriptors:=by
 have hids:listings.map SerializerListing.serializerId =
  descriptors.map SerializerDescriptor.serializerId ∧
  listings.map SerializerListing.name=descriptors.map SerializerDescriptor.name:=by
  induction h with
  | nil=>exact ⟨rfl,rfl⟩
  | cons hdescribe _ ih=>
   obtain ⟨-,hcreate⟩:=describe_eq_ok.mp hdescribe
   obtain ⟨-,hid,hname,-⟩:=SerializerDescriptor.create_eq_ok.mp hcreate
   rw [List.map_cons,List.map_cons,List.map_cons,List.map_cons,hid,hname,ih.1,ih.2]
   exact ⟨rfl,rfl⟩
 unfold Repeats
 change ¬(listings.map SerializerListing.serializerId).Nodup ∨
  ¬(listings.map SerializerListing.name).Nodup ↔ _
 rw [hids.1,hids.2]
 exact Iff.rfl

lemma readHello_described (correlationId:ℕ) {frame:Hello} {rest:List UInt8}:
  readHello nfc (descriptorFormat nfc) correlationId data=.ok (frame,rest) ↔
   ∃listings,readHello nfc (listingFormat nfc) correlationId data =
    .ok (HelloWith.withSerializers frame listings,rest) ∧
    Described nfc listings frame.serializers:=by
 have hread:(descriptorFormat nfc).read =
  readListing nfc >>= fun listing=>accept (describe nfc listing):=rfl
 simp only [readHello,bind_run_eq_ok,refuse_run_eq_ok,pure_run_eq_ok,hread,
  readCounted_accept_run_eq_ok]
 constructor
 · rintro ⟨major,_,hmajor,minor,_,hminor,role,_,hrole,name,_,hname,systemUid,_,
    hsystem,associationUid,_,hassociation,host,_,hhost,port,_,hport,limits,_,hlimits,
    serializers,_,⟨listings,hlistings,hall⟩,⟨⟩,_,⟨hdistinct,rfl⟩,capabilities,_,
    hcapabilities,rfl,rfl⟩
   exact ⟨listings,⟨major,_,hmajor,minor,_,hminor,role,_,hrole,name,_,hname,systemUid,
    _,hsystem,associationUid,_,hassociation,host,_,hhost,port,_,hport,limits,_,
    hlimits,listings,_,hlistings,(),_,⟨fun h=>hdistinct ((repeats_described hall).mp h),rfl⟩,
    capabilities,_,hcapabilities,rfl,rfl⟩,hall⟩
 · rintro ⟨listings,⟨major,_,hmajor,minor,_,hminor,role,_,hrole,name,_,hname,
    systemUid,_,hsystem,associationUid,_,hassociation,host,_,hhost,port,_,hport,
    limits,_,hlimits,others,_,hlistings,⟨⟩,_,⟨hdistinct,rfl⟩,capabilities,_,
    hcapabilities,heq,rfl⟩,hall⟩
   obtain ⟨⟩:=frame
   cases heq
   exact ⟨_,_,hmajor,_,_,hminor,_,_,hrole,_,_,hname,_,_,hsystem,_,_,hassociation,
    _,_,hhost,_,_,hport,limits,_,hlimits,_,_,⟨listings,hlistings,hall⟩,(),_,
    ⟨fun h=>hdistinct ((repeats_described hall).mpr h),rfl⟩,_,_,hcapabilities,rfl,rfl⟩

variable {frame:ControlFrame SerializerDescriptor}

lemma map_described {α:Type} {read:Reader WireError α} {rest:List UInt8}
  {f:α → ControlFrame SerializerDescriptor}
  {g:α → ControlFrame SerializerListing} (h:∀a frame,Describes nfc (g a) frame ↔ f a=frame):
  (f <$> read) data=.ok (frame,rest) ↔
   ∃listing,(g <$> read) data=.ok (listing,rest) ∧ Describes nfc listing frame:=by
 simp only [map_run_eq_ok]
 constructor
 · rintro ⟨a,hread,hframe⟩
   exact ⟨g a,⟨a,hread,rfl⟩,(h a frame).mpr hframe⟩
 · rintro ⟨_,⟨a,hread,rfl⟩,hdescribes⟩
   exact ⟨a,hread,(h a frame).mp hdescribes⟩

lemma readBody_described (correlationId:ℕ) (frameType:FrameType) {rest:List UInt8}:
  readBody nfc (descriptorFormat nfc) correlationId frameType data=.ok (frame,rest) ↔
   ∃listing,readBody nfc (listingFormat nfc) correlationId frameType data =
    .ok (listing,rest) ∧ Describes nfc listing frame:=by
 cases frameType with
 | hello=>
  simp only [readBody,map_run_eq_ok,readHello_described]
  constructor
  · rintro ⟨frame,⟨listings,hread,hall⟩,rfl⟩
    exact ⟨_,⟨_,hread,rfl⟩,listings,rfl,hall⟩
  · rintro ⟨_,⟨_,hread,rfl⟩,hdescribes⟩
    cases frame with
    | hello frame=>
     obtain ⟨listings,heq,hall⟩:=hdescribes
     cases heq
     exact ⟨frame,⟨listings,hread,hall⟩,rfl⟩
    | _=>cases hdescribes
 | helloAccept | goAway | helloReject | resolveRequest | resolveResponse | resolveRejected
 | recipientUnavailable | deserializationRejected=>
  refine map_described fun a frame=>?_
  cases frame <;> simp [Describes,listed]
 | userMessage=>
  simp only [readBody,accept_run_eq_ok]
  refine ⟨fun h=>(by cases h.1),?_⟩
  rintro ⟨_,⟨⟨⟩,_⟩,_⟩

lemma decodeBody_described {header:FrameHeader}:
  decodeBody nfc (descriptorFormat nfc) header data=.ok frame ↔
   ∃listing,decodeBody nfc (listingFormat nfc) header data=.ok listing ∧
    Describes nfc listing frame:=by
 simp only [decodeBody_eq_run,readBody_described]

lemma decodeFrame_described:
  WireFrames.decodeFrame nfc (descriptorFormat nfc) data maximumFrameBytes streamKind =
   .ok (.control frame) ↔
  ∃listing,WireFrames.decodeFrame nfc (listingFormat nfc) data maximumFrameBytes streamKind =
   .ok (.control listing) ∧ Describes nfc listing frame:=by
 simp only [WireFrames.decodeFrame,decodeFrame_control_iff,decodeBody_described]
 constructor
 · rintro ⟨frameType,correlationId,body,htype,hstream,hok,hdata,listing,hlisting,
    hdescribes⟩
   exact ⟨listing,⟨frameType,correlationId,body,htype,hstream,hok,hdata,hlisting⟩,
    hdescribes⟩
 · rintro ⟨listing,⟨frameType,correlationId,body,htype,hstream,hok,hdata,hlisting⟩,
    hdescribes⟩
   exact ⟨frameType,correlationId,body,htype,hstream,hok,hdata,listing,hlisting,
    hdescribes⟩

end

section

lemma describe_listingOf {descriptor:SerializerDescriptor} {bytes:List UInt8}
  (h:writeDescriptor nfc descriptor=.ok bytes):
  describe nfc (listingOf descriptor)=.ok descriptor:=by
 obtain ⟨_,_,-,h,-⟩:=writeAll_cons_eq_ok.mp h
 obtain ⟨_,_,hname,h,-⟩:=writeAll_cons_eq_ok.mp h
 obtain ⟨_,_,-,h,-⟩:=writeAll_cons_eq_ok.mp h
 obtain ⟨_,_,-,h,-⟩:=writeAll_cons_eq_ok.mp h
 obtain ⟨_,_,hreadable,h,-⟩:=writeAll_cons_eq_ok.mp h
 obtain ⟨_,_,hwritable,h,-⟩:=writeAll_cons_eq_ok.mp h
 have hreadable_eq:=descriptor.readable_canonical.insertionSort_eq
 have hwritable_eq:=descriptor.writable_canonical.insertionSort_eq
 obtain ⟨hreadableCount,hreadable⟩:=texts_of_written (Nat.le_of_ble_eq_true rfl) hreadable
 obtain ⟨hwritableCount,hwritable⟩:=texts_of_written (Nat.le_of_ble_eq_true rfl) hwritable
 rw [describe_eq_ok,SerializerDescriptor.create_eq_ok]
 dsimp only [listingOf] at hreadable hwritable hreadableCount hwritableCount ⊢
 rw [hreadable_eq] at hreadable hreadableCount ⊢
 rw [hwritable_eq] at hwritable hwritableCount ⊢
 rw [frozenset_of_canonical descriptor.readable_canonical,
  frozenset_of_canonical descriptor.writable_canonical]
 exact ⟨⟨descriptor.readable_canonical.nodup,descriptor.writable_canonical.nodup⟩,
  ⟨((writeString16_eq_ok (Nat.le_refl _)).mp hname).1,⟨hreadableCount,hwritableCount⟩,
   hreadable,hwritable⟩,rfl,rfl,rfl,rfl,rfl,rfl⟩

lemma described_map_listingOf {descriptors:List SerializerDescriptor} {bytes:List UInt8}
  (h:writeAll (descriptors.map (writeDescriptor nfc))=.ok bytes):
  Described nfc (descriptors.map listingOf) descriptors:=by
 rw [Described,List.forall₂_map_left_iff,List.forall₂_same]
 intro descriptor hmem
 obtain ⟨_,hwritten⟩:=written_of_mem h (List.mem_map_of_mem hmem)
 exact describe_listingOf hwritten

lemma describes_listed {frame:ControlFrame SerializerDescriptor} {body:List UInt8}
  (h:encodeBody nfc (descriptorFormat nfc) frame=.ok body):
  Describes nfc (listed frame) frame:=by
 cases frame with
 | hello frame=>
  refine ⟨_,rfl,?_⟩
  have hpart:writeCounted (writeU16 · "serializer descriptor count") (writeDescriptor nfc)
   frame.serializers∈helloFields nfc frame ++
    (serializerParts (descriptorFormat nfc) frame.serializers ++
     [writeCapabilities nfc frame.capabilities]):=
   List.mem_append_right _ (List.mem_append_left _ (List.mem_cons_of_mem _
    (List.mem_cons_of_mem _ List.mem_cons_self)))
  obtain ⟨_,hwritten⟩:=written_of_mem h hpart
  obtain ⟨_,_,-,hentries,-⟩:=writeAll_cons_eq_ok.mp hwritten
  exact described_map_listingOf hentries
 | _=>exact rfl

end

section

variable {frame:Frame (ControlFrame SerializerDescriptor)}

def frameTypeOf : Frame (ControlFrame SerializerDescriptor) → FrameType
 | .userMessage _=>.userMessage
 | .control frame=>frame.frameType

lemma decodeFrame_of_encodeFrame
  (h:encodeFrame nfc (descriptorFormat nfc) frame maximumFrameBytes streamKind=.ok data):
  WireFrames.decodeFrame nfc (descriptorFormat nfc) data maximumFrameBytes streamKind =
   .ok frame:=by
 cases frame with
 | userMessage message=>
  obtain ⟨⟨⟩,hstream,h⟩:=bind_eq_ok h
  exact decodeFrame_userMessage_iff.mpr ⟨hstream,h⟩
 | control frame=>
  obtain ⟨-,body,hbody,-⟩:=encodeFrame_control_eq_ok.mp h
  rw [←encodeFrame_listed] at h
  exact decodeFrame_described.mpr ⟨listed frame,
   (decodeFrame_iff_encodeFrame listing_codes).mpr h,describes_listed hbody⟩

lemma encodeFrame_length
  (h:encodeFrame nfc (descriptorFormat nfc) frame maximumFrameBytes streamKind=.ok data):
  data.length≤limitOf (frameTypeOf frame) maximumFrameBytes:=by
 cases frame with
 | userMessage message=>
  obtain ⟨⟨⟩,-,h⟩:=bind_eq_ok h
  obtain ⟨hencodable,rfl⟩:=encodeUserMessageFrame_eq_ok.mp h
  rw [userMessageBytes_length]
  exact hencodable.total
 | control frame=>
  obtain ⟨-,body,-,hok,rfl⟩:=encodeFrame_control_eq_ok.mp h
  rw [List.length_append,headerBytes_length]
  exact hok.total

/-- What `encode_frame` returns is within the limits of the frame, and `decode_frame` returns
 the frame for it. -/
theorem wire_round_trip
  (h:encodeFrame nfc (descriptorFormat nfc) frame maximumFrameBytes streamKind=.ok data):
  WireFrames.decodeFrame nfc (descriptorFormat nfc) data maximumFrameBytes streamKind =
   .ok frame ∧
  data.length ≤ maximumFrameBytes ∧
  ((frameTypeOf frame).bootstrap=true → data.length≤bootstrapMaxFrameBytes):=by
 have hlength:=encodeFrame_length h
 refine ⟨decodeFrame_of_encodeFrame h,hlength.trans (limitOf_le _ _),fun hbootstrap=>?_⟩
 rw [limitOf,if_pos hbootstrap] at hlength
 exact hlength.trans (Nat.min_le_right _ _)

lemma orders_id_pos : 0<5:=by decide

lemma orders_id_le : 5 ≤ maxU32:=by decide

lemma orders_major_le : 1 ≤ maxU16:=by decide

lemma orders_readable : Canonical ["order", "receipt"]:=by decide

lemma orders_writable : Canonical ["order"]:=by decide

def orders : SerializerDescriptor where
 serializerId:=5
 name:= "orders"
 protocolMajor:=1
 protocolMinor:=0
 readableManifests:=["order", "receipt"]
 writableManifests:=["order"]
 serializerId_pos:=orders_id_pos
 serializerId_le:=orders_id_le
 protocolMajor_le:=orders_major_le
 protocolMinor_le:=Nat.zero_le _
 readable_canonical:=orders_readable
 writable_canonical:=orders_writable

def ordersHello : Hello:=
 ⟨1,0,.initiator, "shop",toUUID 2,toUUID 1, "localhost",2552,4096,2,8,65536,16,65536,
  [orders],["resume"],0⟩

theorem wire_round_trip_ordersHello :
  ∃bytes,encodeFrame (fun _=>true) (descriptorFormat fun _=>true)
   (.control (.hello ordersHello)) 4096 (some .control)=.ok bytes ∧
  WireFrames.decodeFrame (fun _=>true) (descriptorFormat fun _=>true) bytes 4096
   (some .control)=.ok (.control (.hello ordersHello)) ∧ bytes.length=157:=by
 have hsize:(encodeFrame (fun _=>true) (descriptorFormat fun _=>true)
  (.control (.hello ordersHello)) 4096 (some .control)).toOption.map List.length =
  some 157:=by decide +kernel
 obtain ⟨bytes,hbytes,hlength⟩:=Option.map_eq_some_iff.mp hsize
 have hencoded:=toOption_eq_some.mp hbytes
 exact ⟨bytes,hencoded,(wire_round_trip hencoded).1,hlength⟩

end

end Movie.WireRoundTrip
