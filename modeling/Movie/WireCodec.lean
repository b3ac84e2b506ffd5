import Movie.WireFrames

/-!
# Each reader of a frame body inverts its writer

A reader accepts exactly the bytes that the writer of the same part produces.
-/
namespace Movie.WireCodec

open BigEndian Checked Codec DurableModel Wire WireFrames Serialization

variable {nfc:String → Bool}

section

variable {maximum:ℕ} {bytes encoded:List UInt8} {nonempty:Bool}

lemma writeUint_eq {width:ℕ} (h:maximum+1=256 ^ width) (value:ℕ)
  (field:String):writeUint width maximum value field =
   if 256 ^ width≤value then .error (.protocolValidation (field ++ " must be between " ++
    toString 0 ++ " and " ++ toString maximum))
   else .ok (toBytes width value):=by
 rw [←h,writeUint,uint,reject]
 split_ifs with hout hlarge hlarge
 · rfl
 · omega
 · omega
 · rfl

lemma uint_codes {width:ℕ} (h:maximum+1=256 ^ width) (field:String):
  Inverts (readUint width (truncated field)) (writeUint width maximum · field):=by
 have hwrite:=funext fun value=>writeUint_eq h value field
 rw [hwrite]
 exact Codes.uint _

lemma u8_codes (field:String):Inverts (readU8 field) (writeU8 · field):=
 uint_codes rfl field

lemma u16_codes (field:String):Inverts (readU16 field) (writeU16 · field):=
 uint_codes rfl field

lemma u32_codes (field:String):Inverts (readU32 field) (writeU32 · field):=
 uint_codes rfl field

lemma u64_codes (field:String):Inverts (readU64 field) (writeU64 · field):=
 uint_codes rfl field

variable {field:String}

lemma writeUint_eq_ok {width value:ℕ}:
  writeUint width maximum value field=.ok bytes ↔
   value ≤ maximum ∧ toBytes width value=bytes:=by
 rw [writeUint,bind_uint_eq_ok]
 refine and_congr ⟨fun h=>h.2,fun h=>⟨Nat.zero_le _,h⟩⟩ ?_
 exact ⟨Except.ok.inj,congrArg Except.ok⟩

lemma writeU16_eq_ok {value:ℕ}:
  writeU16 value field=.ok bytes ↔ value ≤ maxU16 ∧ toBytes 2 value=bytes:=
 writeUint_eq_ok

lemma writeUuid_eq_ok {value:UUID}:
  writeUuid value field=.ok bytes ↔ value.int≠0 ∧ toBytes 16 value.int=bytes:=by
 rw [writeUuid,bind_uuid_eq_ok]
 exact and_congr_right fun _=>⟨Except.ok.inj,congrArg Except.ok⟩

lemma toUUID_ofBytes_int (h:bytes.length=16):
  (toUUID (ofBytes bytes)).int=ofBytes bytes:=by
 have hlt:=ofBytes_lt bytes
 rw [h] at hlt
 exact Nat.mod_eq_of_lt hlt

lemma uuid_codes (field:String):Inverts (readUuid field) (writeUuid · field):=by
 intro data value rest
 simp only [readUuid,bind_run_eq_ok,take_run_eq_ok,accept_run_eq_ok,pure_run_eq_ok,
  writeUuid_eq_ok,true_and]
 constructor
 · rintro ⟨bytes,_,⟨hlength,rfl⟩,⟨⟩,_,⟨hvalid,rfl⟩,rfl,rfl⟩
   have hnonzero:(toUUID (ofBytes bytes)).int≠0:=by
    intro hzero
    rw [uuid,reject,if_pos hzero] at hvalid
    cases hvalid
   refine ⟨bytes,⟨hnonzero,?_⟩,rfl⟩
   rw [toUUID_ofBytes_int hlength,←hlength,toBytes_ofBytes]
 · rintro ⟨bytes,⟨hnonzero,hbytes⟩,rfl⟩
   have hlength:bytes.length=16:=hbytes▸toBytes_length _ _
   have hvalue:toUUID (ofBytes bytes)=value:=by
    rw [←hbytes,ofBytes_toBytes 16 value.int value.bounded,toUUID_int]
   refine ⟨bytes,rest,⟨hlength,rfl⟩,(),rest,⟨?_,rfl⟩,hvalue,rfl⟩
   rw [hvalue,uuid,reject,if_neg hnonzero]

lemma utf8Decode_eq_some {text:String}:
  utf8Decode bytes=some text ↔ utf8 text=bytes:=by
 constructor
 · intro h
   rw [utf8Decode,Option.map_eq_some_iff] at h
   obtain ⟨chars,hchars,rfl⟩:=h
   have hsome:bytes.toByteArray.utf8Decode?.isSome=true:=by
    rw [hchars]
    rfl
   have hencode:=ByteArray.utf8Encode_get_utf8Decode? (h := hsome)
   simp only [hchars,Option.get_some] at hencode
   rw [utf8,String.toList_ofList]
   exact List.toByteArray_inj.mp hencode
 · rintro rfl
   exact utf8Decode_utf8 text

lemma decodeText_eq_ok {field text:String}:
  decodeText bytes field=.ok text ↔ utf8 text=bytes:=by
 rw [←utf8Decode_eq_some,decodeText]
 cases utf8Decode bytes with
 | none=>exact ⟨nofun,nofun⟩
 | some value=>rw [Except.ok.injEq,Option.some.injEq]

lemma textBytes_eq_ok {ε:Type} {value field:String} {error:String → ε}:
  textBytes nfc value field maximum nonempty error=.ok encoded ↔
   TextOk nfc value maximum nonempty ∧ utf8 value=encoded:=by
 rw [←bind_pure (textBytes nfc value field maximum nonempty error),bind_textBytes_eq_ok]
 exact and_congr_right fun _=>⟨Except.ok.inj,congrArg Except.ok⟩

def lengthPrefixed (value:String):List UInt8:=toBytes 2 (utf8 value).length++utf8 value

lemma writeLength_eq_ok {value field:String} (h:(utf8 value).length ≤ maxU16):
  writeAll [writeU16 (utf8 value).length field,.ok (utf8 value)]=.ok bytes ↔
   lengthPrefixed value=bytes:=by
 rw [lengthPrefixed,writeAll,writeAll,writeAll,bind_of_ok (writeU16_eq_ok.mpr ⟨h,rfl⟩)]
 change Except.ok (toBytes 2 (utf8 value).length++(utf8 value++[]))=.ok bytes ↔ _
 rw [List.append_nil,Except.ok.injEq]

lemma writeString16_eq_ok {value field:String} (hmaximum:maximum ≤ maxU16):
  writeString16 nfc value field maximum nonempty=.ok bytes ↔
   TextOk nfc value maximum nonempty ∧ lengthPrefixed value=bytes:=by
 rw [writeString16,Nat.min_eq_left hmaximum,bind_textBytes_eq_ok]
 exact and_congr_right fun htext=>writeLength_eq_ok (htext.2.2.trans hmaximum)

lemma readString16_run_eq_ok {data rest:List UInt8} {value:String} (hmaximum:maximum ≤ maxU16):
  readString16 nfc field maximum nonempty data=.ok (value,rest) ↔
   TextOk nfc value maximum nonempty ∧ data=lengthPrefixed value++rest:=by
 simp only [readString16,bind_run_eq_ok,refuse_run_eq_ok,take_run_eq_ok,accept_run_eq_ok,
  pure_run_eq_ok,decodeText_eq_ok,textBytes_eq_ok,u16_codes (field ++ " length") data,
  writeU16_eq_ok,true_and]
 constructor
 · rintro ⟨length,_,⟨_,⟨-,rfl⟩,rfl⟩,⟨⟩,_,⟨-,rfl⟩,_,_,⟨rfl,rfl⟩,_,_,⟨rfl,rfl⟩,
    _,_,⟨⟨htext,rfl⟩,rfl⟩,rfl,rfl⟩
   rw [lengthPrefixed,List.append_assoc]
   exact ⟨htext,rfl⟩
 · rintro ⟨htext,rfl⟩
   have hlength:=htext.2.2
   refine ⟨(utf8 value).length,utf8 value++rest,⟨_,⟨hlength.trans hmaximum,rfl⟩,?_⟩,(),_,
    ⟨Nat.not_lt.mpr hlength,rfl⟩,utf8 value,rest,⟨rfl,rfl⟩,value,rest,⟨rfl,rfl⟩,
    utf8 value,rest,⟨⟨htext,rfl⟩,rfl⟩,rfl,rfl⟩
   rw [lengthPrefixed,List.append_assoc]

lemma string16_codes (field:String) (nonempty:Bool)
  (hmaximum:maximum ≤ maxU16):Inverts (readString16 nfc field maximum nonempty)
   (writeString16 nfc · field maximum nonempty):=by
 intro data value rest
 simp only [readString16_run_eq_ok hmaximum,writeString16_eq_ok hmaximum,true_and]
 constructor
 · rintro ⟨htext,rfl⟩
   exact ⟨_,⟨htext,rfl⟩,rfl⟩
 · rintro ⟨_,⟨htext,rfl⟩,rfl⟩
   exact ⟨htext,rfl⟩

def SystemNameOk (value:String):Prop:=value.toList.all unreserved=true

def ActorPathOk (value:String):Prop:=
 ¬(value.toList.head? ≠ some '/' ∨ value.toList.take 2=['/','/']) ∧ []∉segments value ∧
  (segments value).all segmentOk=true

lemma systemName_eq_ok {value:String} {error:String → WireError}:
  systemName nfc value error=.ok encoded ↔
   (TextOk nfc value 255 true ∧ SystemNameOk value) ∧ utf8 value=encoded:=by
 rw [systemName,bind_textBytes_eq_ok,bind_reject_eq_ok,Bool.not_eq_false,and_assoc]
 exact and_congr_right fun _=>and_congr_right fun _=>⟨Except.ok.inj,congrArg Except.ok⟩

lemma actorPath_eq_ok {value:String} {error:String → WireError}:
  actorPath nfc value error=.ok encoded ↔
   (TextOk nfc value maxU16 true ∧ ActorPathOk value) ∧ utf8 value=encoded:=by
 rw [actorPath,bind_textBytes_eq_ok,bind_reject_eq_ok,bind_reject_eq_ok,bind_reject_eq_ok,
  Bool.not_eq_false,ActorPathOk,and_assoc,and_assoc,and_assoc]
 refine and_congr_right fun _=>and_congr_right fun _=>and_congr_right fun _=>
  and_congr_right fun _=>?_
 exact ⟨Except.ok.inj,congrArg Except.ok⟩

section

variable {validate:String → (String → WireError) → Except WireError (List UInt8)} {maximum:ℕ}
 {valid:String → Prop}

lemma validated_codes (hmaximum:maximum ≤ maxU16)
  (hvalidate:∀value error encoded,validate value error=.ok encoded ↔
   (TextOk nfc value maximum true ∧ valid value) ∧ utf8 value=encoded) (field:String):Inverts
   (readString16 nfc field maximum true >>= fun value=>
    accept (validate value .malformedFrame) >>= fun _=>pure value)
   (fun value=>writeValidated (validate value) field):=by
 have hnext:∀(value:String) (data:List UInt8) (other:String) (rest:List UInt8),
  (accept (validate value .malformedFrame) >>= fun _=>pure value:Reader WireError String)
   data=.ok (other,rest) ↔
  (TextOk nfc value maximum true ∧ valid value) ∧ value=other ∧ data=rest:=by
  intro value data other rest
  simp only [bind_run_eq_ok,accept_run_eq_ok,pure_run_eq_ok,hvalidate]
  constructor
  · rintro ⟨_,_,⟨⟨hvalid,rfl⟩,rfl⟩,rfl,rfl⟩
    exact ⟨hvalid,rfl,rfl⟩
  · rintro ⟨hvalid,rfl,rfl⟩
    exact ⟨_,_,⟨⟨hvalid,rfl⟩,rfl⟩,rfl,rfl⟩
 refine ((string16_codes field true hmaximum).restrict hnext).congr fun value bytes=>?_
 rw [writeString16_eq_ok hmaximum,writeValidated]
 constructor
 · rintro ⟨⟨-,htext,hvalid⟩,-,hbytes⟩
   refine ⟨trivial,?_⟩
   rw [bind_of_ok ((hvalidate _ _ _).mpr ⟨⟨htext,hvalid⟩,rfl⟩)]
   exact (writeLength_eq_ok (htext.2.2.trans hmaximum)).mpr hbytes
 · rintro ⟨-,h⟩
   obtain ⟨encoded,hencoded,h⟩:=bind_eq_ok h
   obtain ⟨⟨htext,hvalid⟩,rfl⟩:=(hvalidate _ _ _).mp hencoded
   exact ⟨⟨trivial,htext,hvalid⟩,htext,
    (writeLength_eq_ok (htext.2.2.trans hmaximum)).mp h⟩

end

lemma systemName_codes : Inverts (readSystemName nfc) (writeSystemName nfc):=
 validated_codes (Nat.le_of_ble_eq_true rfl) (fun _ _ _=>systemName_eq_ok) _

lemma actorPath_codes : Inverts (readActorPath nfc) (writeActorPath nfc):=
 validated_codes (Nat.le_refl _) (fun _ _ _=>actorPath_eq_ok) _

end

section

lemma texts_codes (count field:String) {maximum:ℕ} (hmaximum:maximum ≤ maxU16):
  Inverts (readCounted (readU16 count) (readString16 nfc field maximum true))
   (writeCounted (writeU16 · count) (writeString16 nfc · field maximum true)):=
 (Codes.counted (u16_codes count) (string16_codes field true hmaximum)).imp fun _=>
  ⟨fun _=>trivial,fun _ _ _=>trivial⟩

lemma manifests_codes (count field:String):
  Inverts (readManifests nfc count field) (writeManifests nfc count field):=
 texts_codes count field (Nat.le_of_ble_eq_true rfl)

lemma listing_codes : Inverts (readListing nfc) (writeListing nfc):=by
 refine Codes.field SerializerListing.serializerId (u32_codes _) fun _ _=>?_
 refine Codes.field SerializerListing.name (string16_codes _ true (Nat.le_refl _)) fun _ _=>?_
 refine Codes.field SerializerListing.protocolMajor (u16_codes _) fun _ _=>?_
 refine Codes.field SerializerListing.protocolMinor (u16_codes _) fun _ _=>?_
 refine Codes.field SerializerListing.readable (manifests_codes _ _) fun _ _=>?_
 refine Codes.field SerializerListing.writable (manifests_codes _ _) fun _ _=>?_
 refine Codes.pure fun other=>?_
 cases other
 simp only [SerializerListing.mk.injEq]
 grind

lemma limits_codes : Inverts readLimits writeLimits:=by
 refine Codes.field FrameLimits.maximumFrameBytes (u32_codes _) fun maximum _=>?_
 refine Codes.check (fun limits:FrameLimits=>limits.maximumFrameBytes<commonHeaderSize) ?_
 refine Codes.refuse (fun limits h=>?_) fun hlarge=>?_
 · rw [←h.1.2]
   exact h.2
 refine Codes.field FrameLimits.laneCount (u16_codes _) fun _ _=>?_
 refine Codes.field FrameLimits.outboundMessageLimit (u32_codes _) fun _ _=>?_
 refine Codes.field FrameLimits.outboundByteLimit (u64_codes _) fun _ _=>?_
 refine Codes.field FrameLimits.inboundMessageLimit (u32_codes _) fun _ _=>?_
 refine Codes.field FrameLimits.inboundByteLimit (u64_codes _) fun _ _=>?_
 refine Codes.pure fun other=>?_
 cases other
 simp only [FrameLimits.mk.injEq]
 grind

lemma texts_of_written {count field:String} {maximum:ℕ} (hmaximum:maximum ≤ maxU16)
  {texts:List String} {bytes:List UInt8}
  (h:writeCounted (writeU16 · count) (writeString16 nfc · field maximum true) texts =
   .ok bytes):texts.length ≤ maxU16 ∧ ∀text∈texts,TextOk nfc text maximum true:=by
 obtain ⟨first,rest,hcount,hrest,-⟩:=writeAll_cons_eq_ok.mp h
 refine ⟨(writeU16_eq_ok.mp hcount).1,?_⟩
 clear h hcount
 induction texts generalizing rest with
 | nil=>exact fun _ hmem=>absurd hmem List.not_mem_nil
 | cons text texts ih=>
  obtain ⟨_,others,htext,hothers,-⟩:=writeAll_cons_eq_ok.mp hrest
  exact List.forall_mem_cons.mpr ⟨((writeString16_eq_ok hmaximum).mp htext).1,ih others hothers⟩

lemma capabilities_codes : Inverts (readCapabilities nfc) (writeCapabilities nfc):=by
 have hnext:∀(capabilities:List String) (data:List UInt8) (others:List String)
  (rest:List UInt8),
  (refuse (¬capabilities.Nodup) (.malformedFrame "capability names must be unique") >>=
   fun _=>pure capabilities:Reader WireError (List String)) data=.ok (others,rest) ↔
  capabilities.Nodup ∧ capabilities=others ∧ data=rest:=by
  intro capabilities data others rest
  rw [refuse_bind_run_eq_ok,pure_run_eq_ok,not_not]
 refine ((texts_codes _ _ (Nat.le_refl _)).restrict hnext).congr fun capabilities bytes=>?_
 rw [writeCapabilities,bind_reject_eq_ok,Nat.not_lt,true_and,true_and]
 constructor
 · rintro ⟨hnodup,hbytes⟩
   obtain ⟨hcount,hall⟩:=texts_of_written (Nat.le_refl _) hbytes
   refine ⟨hcount,?_⟩
   rw [checkCapabilities,bind_of_ok (checkTexts_eq_ok.mpr hall),bind_reject_eq_ok,not_not]
   exact ⟨hnodup,hbytes⟩
 · rintro ⟨-,h⟩
   obtain ⟨⟨⟩,-,h⟩:=bind_eq_ok h
   rw [bind_reject_eq_ok,not_not] at h
   exact h

lemma frozenset_of_canonical {manifests:List String} (h:Canonical manifests):
  frozenset manifests=manifests:=by
 rw [frozenset,h.nodup.dedup,h.insertionSort_eq]

lemma route_codes : Inverts (readRoute nfc) (writeRoute nfc):=by
 refine Codes.field SerializerRoute.originIncarnationUid (uuid_codes _) fun origin horigin=>?_
 refine Codes.field SerializerRoute.serializerId (u32_codes _) fun serializerId hserializer=>?_
 refine Codes.field SerializerRoute.manifests (manifests_codes _ _) fun manifests hmanifests=>?_
 obtain ⟨_,horigin⟩:=horigin
 obtain ⟨_,hserializer⟩:=hserializer
 obtain ⟨_,hmanifests⟩:=hmanifests
 obtain ⟨hcount,hall⟩:=texts_of_written (Nat.le_of_ble_eq_true rfl) hmanifests
 refine Codes.refuse (fun route h=>?_) fun hrefused=>?_
 · obtain ⟨-,rfl⟩:=h
   rintro (hempty|hcanonical)
   · exact route.manifests_ne hempty
   · exact hcanonical (frozenset_of_canonical route.manifests_canonical).symm
 obtain ⟨-,hcanonical⟩:=not_or.mp hrefused
 rw [ne_eq,not_not] at hcanonical
 refine Codes.accepted fun route=>?_
 rw [mapError_eq_ok,SerializerRoute.create_eq_ok,←hcanonical]
 constructor
 · rintro ⟨⟨⟨-,rfl⟩,rfl⟩,rfl⟩
   exact ⟨⟨(writeUuid_eq_ok.mp horigin).1,(writeUint_eq_ok.mp hserializer).1,hcount,hall,
    route.manifests_canonical.nodup⟩,rfl,rfl,rfl⟩
 · rintro ⟨-,rfl,rfl,rfl⟩
   exact ⟨⟨⟨trivial,rfl⟩,rfl⟩,rfl⟩

lemma routes_codes : Inverts (readRoutes nfc) (writeRoutes nfc):=by
 have hnext:∀(routes:List SerializerRoute) (data:List UInt8)
  (others:List SerializerRoute) (rest:List UInt8),
  (refuse (routes≠routes.insertionSort routeLe) (.malformedFrame unsortedRoutes) >>= fun _=>
   refuse (¬(routes.map routeId).Nodup) (.malformedFrame repeatedRoutes) >>= fun _=>
   pure routes:Reader WireError (List SerializerRoute)) data=.ok (others,rest) ↔
  (routes.insertionSort routeLe=routes ∧ (routes.map routeId).Nodup) ∧ routes=others ∧
   data=rest:=by
  intro routes data others rest
  rw [refuse_bind_run_eq_ok,refuse_bind_run_eq_ok,pure_run_eq_ok,ne_eq,not_not,not_not,
   and_assoc,eq_comm]
 refine ((Codes.counted (u16_codes _) route_codes).restrict hnext).congr fun routes bytes=>?_
 rw [writeRoutes,bind_reject_eq_ok,bind_reject_eq_ok,bind_reject_eq_ok,Nat.not_lt,ne_eq,
  not_not,not_not]
 constructor
 · rintro ⟨⟨-,hsorted,hnodup⟩,hbytes⟩
   obtain ⟨_,_,hcount,-⟩:=writeAll_cons_eq_ok.mp hbytes
   exact ⟨trivial,(writeU16_eq_ok.mp hcount).1,hsorted,hnodup,hbytes⟩
 · rintro ⟨-,-,hsorted,hnodup,hbytes⟩
   exact ⟨⟨fun _ _=>trivial,hsorted,hnodup⟩,hbytes⟩

lemma reasonOf_eq_ok {value:ℕ} {reason:ReasonCode}:
  reasonOf value=.ok reason ↔ reason.value=value:=by
 have hcode:ReasonCode.ofValue value=some reason ↔ reason.value=value:=
  find?_code_eq_some fun reason=>by cases reason <;> rfl
 rw [←hcode,reasonOf]
 cases ReasonCode.ofValue value with
 | none=>exact ⟨nofun,nofun⟩
 | some other=>rw [Except.ok.injEq,Option.some.injEq]

lemma roleOf_eq_ok {value:ℕ} {role:AssociationRole}:
  roleOf value=.ok role ↔ role.value=value:=by
 have hcode:AssociationRole.ofValue value=some role ↔ role.value=value:=
  find?_code_eq_some fun role=>by cases role <;> rfl
 rw [←hcode,roleOf]
 cases AssociationRole.ofValue value with
 | none=>exact ⟨nofun,nofun⟩
 | some other=>rw [Except.ok.injEq,Option.some.injEq]

lemma role_codes : Inverts readRole (fun role=>writeU8 role.value "role"):=
 Codes.coded AssociationRole.value (u8_codes "role") fun _ _=>roleOf_eq_ok

lemma reason_codes :
  Inverts (readReason nfc) (fun reason=>writeReason nfc reason.1 reason.2):=by
 refine Codes.field (fun reason:ReasonCode×String=>reason.1.value) (u16_codes _)
  fun value _=>?_
 refine Codes.accept (fun reason h=>⟨reason.1,reasonOf_eq_ok.mpr h.2⟩) fun reason hreason=>?_
 refine Codes.field Prod.snd (string16_codes _ false (Nat.le_refl _)) fun detail _=>?_
 refine Codes.pure fun other=>?_
 obtain ⟨code,text⟩:=other
 rw [Prod.mk.injEq]
 constructor
 · rintro ⟨⟨-,hvalue⟩,hdetail⟩
   rw [←reasonOf_eq_ok,hreason] at hvalue
   exact ⟨Except.ok.inj hvalue,hdetail.symm⟩
 · rintro ⟨rfl,rfl⟩
   exact ⟨⟨trivial,reasonOf_eq_ok.mp hreason⟩,rfl⟩

lemma advisory_codes (correlationId:ℕ):
  Codes (fun advisory=>advisory.correlationId=correlationId) (writeAdvisory nfc)
   (readAdvisory nfc correlationId):=by
 refine Codes.field Advisory.associationUid (uuid_codes _) fun _ _=>?_
 refine Codes.field Advisory.laneId (u16_codes _) fun laneId _=>?_
 refine Codes.check (fun advisory:Advisory=>advisory.laneId=controlLaneId) ?_
 refine Codes.refuse (fun advisory h=>?_) fun hlane=>?_
 · rw [←h.1.2]
   exact h.2
 refine Codes.field Advisory.laneSequence (u64_codes _) fun _ _=>?_
 refine Codes.field Advisory.recipientActorUid (uuid_codes _) fun _ _=>?_
 refine Codes.field (fun advisory:Advisory=>(advisory.reason,advisory.detail)) reason_codes
  fun reason _=>?_
 obtain ⟨reason,detail⟩:=reason
 refine Codes.pure fun other=>?_
 cases other
 simp only [Advisory.mk.injEq,Prod.mk.injEq]
 grind

end

section

variable {D:Type} {entry:EntryFormat D}

lemma hello_codes (hentry:Inverts entry.read entry.write) (correlationId:ℕ):
  Codes (fun frame=>frame.correlationId=correlationId) (writeHello nfc entry)
   (readHello nfc entry correlationId):=by
 refine Codes.field HelloWith.protocolMajor (u16_codes _) fun _ _=>?_
 refine Codes.field HelloWith.protocolMinor (u16_codes _) fun _ _=>?_
 refine Codes.field HelloWith.role role_codes fun _ _=>?_
 refine Codes.field HelloWith.systemName systemName_codes fun _ _=>?_
 refine Codes.field HelloWith.systemIncarnationUid (uuid_codes _) fun _ _=>?_
 refine Codes.field HelloWith.associationUid (uuid_codes _) fun _ _=>?_
 refine Codes.field HelloWith.endpointHost (string16_codes _ true (Nat.le_refl _)) fun _ _=>?_
 refine Codes.field HelloWith.endpointPort (u16_codes _) fun _ _=>?_
 refine Codes.field HelloWith.frameLimits limits_codes fun limits _=>?_
 refine Codes.check (fun frame:HelloWith D=>maxU16<frame.serializers.length) ?_
 refine Codes.check (fun frame:HelloWith D=>Repeats entry frame.serializers) ?_
 refine Codes.bind HelloWith.serializers (Codes.counted (u16_codes _) hentry)
  (fun _ _ _ _=>trivial) fun serializers hserializers=>?_
 refine Codes.refuse (fun frame h=>?_) fun hdistinct=>?_
 · rw [←h.2]
   exact h.1.2
 refine Codes.field HelloWith.capabilities capabilities_codes fun capabilities _=>?_
 have hcount:¬maxU16<serializers.length:=by
  obtain ⟨_,hserializers⟩:=hserializers
  obtain ⟨_,_,hwritten,-⟩:=writeAll_cons_eq_ok.mp hserializers
  exact Nat.not_lt.mpr (writeU16_eq_ok.mp hwritten).1
 refine Codes.pure fun other=>?_
 cases other
 cases limits
 simp only [HelloWith.frameLimits,FrameLimits.mk.injEq,HelloWith.mk.injEq]
 grind

lemma helloAccept_codes (correlationId:ℕ):
  Codes (fun frame=>frame.correlationId=correlationId) (writeHelloAccept nfc)
   (readHelloAccept nfc correlationId):=by
 refine Codes.field HelloAccept.associationUid (uuid_codes _) fun _ _=>?_
 refine Codes.field HelloAccept.protocolMinor (u16_codes _) fun _ _=>?_
 refine Codes.field HelloAccept.frameLimits limits_codes fun limits _=>?_
 refine Codes.field HelloAccept.serializerRoutes routes_codes fun _ _=>?_
 refine Codes.field HelloAccept.capabilities capabilities_codes fun _ _=>?_
 refine Codes.pure fun other=>?_
 cases other
 cases limits
 simp only [HelloAccept.frameLimits,FrameLimits.mk.injEq,HelloAccept.mk.injEq]
 grind

lemma farewell_codes (correlationId:ℕ):
  Codes (fun frame=>frame.correlationId=correlationId)
   (fun frame=>writeReason nfc frame.reason frame.detail) (readFarewell nfc correlationId):=by
 intro data frame rest
 simp only [readFarewell,bind_run_eq_ok,reason_codes data,true_and]
 constructor
 · rintro ⟨⟨reason,detail⟩,_,⟨bytes,hbytes,rfl⟩,h⟩
   obtain ⟨rfl,rfl⟩:=pure_run_eq_ok.mp h
   exact ⟨rfl,bytes,hbytes,rfl⟩
 · rintro ⟨rfl,bytes,hbytes,rfl⟩
   exact ⟨(frame.reason,frame.detail),rest,⟨bytes,hbytes,rfl⟩,rfl⟩

lemma resolveRequest_codes (correlationId:ℕ):
  Codes (fun frame=>frame.correlationId=correlationId)
   (fun frame=>writeAll
    [writeSystemName nfc frame.systemName,writeActorPath nfc frame.actorPath])
   (readResolveRequest nfc correlationId):=by
 refine Codes.field ResolveRequest.systemName systemName_codes fun _ _=>?_
 refine Codes.field ResolveRequest.actorPath actorPath_codes fun _ _=>?_
 refine Codes.pure fun other=>?_
 cases other
 simp only [ResolveRequest.mk.injEq]
 grind

lemma resolveResponse_codes (correlationId:ℕ):
  Codes (fun frame=>frame.correlationId=correlationId)
   (fun frame=>writeAll
    [writeUuid frame.systemIncarnationUid "system incarnation UID",
     writeUuid frame.actorUid "actor UID",writeActorPath nfc frame.actorPath])
   (readResolveResponse nfc correlationId):=by
 refine Codes.field ResolveResponse.systemIncarnationUid (uuid_codes _) fun _ _=>?_
 refine Codes.field ResolveResponse.actorUid (uuid_codes _) fun _ _=>?_
 refine Codes.field ResolveResponse.actorPath actorPath_codes fun _ _=>?_
 refine Codes.pure fun other=>?_
 cases other
 simp only [ResolveResponse.mk.injEq]
 grind

lemma writeAll_singleton (part:Except WireError (List UInt8)):writeAll [part]=part:=by
 cases part with
 | error error=>rfl
 | ok bytes=>exact congrArg Except.ok (List.append_nil bytes)

lemma resolveRejected_codes (correlationId:ℕ):
  Codes (fun frame=>frame.correlationId=correlationId)
   (fun frame=>writeAll
    [check (Disallowed .resolveRejected frame.reason)
     (.protocolValidation (disallowedText .resolveRejected frame.reason)),
     writeReason nfc frame.reason frame.detail])
   (readResolveRejected nfc correlationId):=by
 refine Codes.check (fun frame:ResolveRejected=>Disallowed .resolveRejected frame.reason) ?_
 refine Codes.field (fun frame:ResolveRejected=>(frame.reason,frame.detail)) reason_codes
  fun reason _=>?_
 obtain ⟨reason,detail⟩:=reason
 refine Codes.refuse (fun frame h=>?_) fun hallowed=>?_
 · have hreason:frame.reason=reason:=congrArg Prod.fst h.2
   rw [←hreason]
   exact h.1.2
 refine Codes.pure fun other=>?_
 cases other
 simp only [ResolveRejected.mk.injEq,Prod.mk.injEq]
 grind

lemma advisoryFrame_codes (frameType:FrameType) (correlationId:ℕ):
  Codes (fun frame=>frame.correlationId=correlationId)
   (fun frame=>writeAll
    [check (Disallowed frameType frame.reason)
     (.protocolValidation (disallowedText frameType frame.reason)),
     writeAdvisory nfc frame])
   (readAdvisoryFrame nfc frameType correlationId):=by
 refine Codes.check (fun frame:Advisory=>Disallowed frameType frame.reason) ?_
 simp only [writeAll_singleton]
 refine (advisory_codes correlationId).restrict fun advisory data other rest=>?_
 rw [refuse_bind_run_eq_ok,pure_run_eq_ok]

lemma body_codes (hentry:Inverts entry.read entry.write) (correlationId:ℕ) (frameType:FrameType):
  Codes (fun frame=>frame.frameType=frameType ∧ frame.correlationId=correlationId)
   (encodeBody nfc entry) (readBody nfc entry correlationId frameType):=by
 cases frameType with
 | hello=>
  refine (hello_codes hentry correlationId).map (fun frame=>?_) fun _=>rfl
  cases frame <;> simp [ControlFrame.frameType,ControlFrame.correlationId]
 | helloAccept=>
  refine (helloAccept_codes correlationId).map (fun frame=>?_) fun _=>rfl
  cases frame <;> simp [ControlFrame.frameType,ControlFrame.correlationId]
 | goAway | helloReject=>
  refine (farewell_codes correlationId).map (fun frame=>?_) fun _=>rfl
  cases frame <;> simp [ControlFrame.frameType,ControlFrame.correlationId]
 | resolveRequest=>
  refine (resolveRequest_codes correlationId).map (fun frame=>?_) fun _=>rfl
  cases frame <;> simp [ControlFrame.frameType,ControlFrame.correlationId]
 | resolveResponse=>
  refine (resolveResponse_codes correlationId).map (fun frame=>?_) fun _=>rfl
  cases frame <;> simp [ControlFrame.frameType,ControlFrame.correlationId]
 | resolveRejected=>
  refine (resolveRejected_codes correlationId).map (fun frame=>?_) fun _=>rfl
  cases frame <;> simp [ControlFrame.frameType,ControlFrame.correlationId]
 | recipientUnavailable | deserializationRejected=>
  refine (advisoryFrame_codes _ correlationId).map (fun frame=>?_) fun _=>rfl
  cases frame <;> simp [ControlFrame.frameType,ControlFrame.correlationId]
 | userMessage=>
  intro data frame rest
  rw [readBody,accept_run_eq_ok]
  refine ⟨nofun,?_⟩
  rintro ⟨⟨htype,-⟩,-⟩
  cases frame <;> cases htype

lemma decodeBody_eq_run {header:FrameHeader} {body:List UInt8} {frame:ControlFrame D}:
  decodeBody nfc entry header body=.ok frame ↔
   readBody nfc entry header.correlationId header.frameType body=.ok (frame,[]):=by
 unfold decodeBody
 constructor
 · intro h
   obtain ⟨⟨other,rest⟩,hbody,h⟩:=bind_eq_ok h
   rw [bind_reject_eq_ok,ne_eq,not_not] at h
   obtain ⟨rfl,h⟩:=h
   cases h
   exact hbody
 · intro h
   rw [bind_of_ok h]
   rfl

lemma decodeBody_eq_ok (hentry:Inverts entry.read entry.write) {header:FrameHeader}
  {body:List UInt8} {frame:ControlFrame D}:decodeBody nfc entry header body=.ok frame ↔
   (frame.frameType=header.frameType ∧ frame.correlationId=header.correlationId) ∧
    encodeBody nfc entry frame=.ok body:=by
 rw [decodeBody_eq_run,body_codes hentry]
 refine and_congr_right fun _=>⟨?_,fun h=>⟨body,h,(List.append_nil body).symm⟩⟩
 rintro ⟨bytes,hbytes,rfl⟩
 rw [List.append_nil]
 exact hbytes

end

end Movie.WireCodec
