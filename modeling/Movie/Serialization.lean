import Movie.Wire
import Mathlib.Data.List.Dedup
import Mathlib.Data.List.Sort

/-!
# Serializer registries and their negotiation

The registry and `negotiate_serializers` of `remoting/serialization.py`. Whether a codec reads or
writes a payload is given where it is called. Frozen sets are their lists in byte order.
-/
namespace Movie.Serialization

open Wire Checked DurableModel

section

def utf8Le (first second:String):Prop:=utf8 first≤utf8 second

instance : DecidableRel utf8Le:=fun first second=>
 inferInstanceAs (Decidable (utf8 first≤utf8 second))

instance : Std.Total utf8Le:=⟨fun _ _=>List.le_total _ _⟩

instance : IsTrans String utf8Le:=⟨fun _ _ _=>List.le_trans⟩

instance : Std.Antisymm utf8Le:=⟨fun _ _ h h'=>utf8_injective (List.le_antisymm h h')⟩

def Canonical (texts:List String):Prop:=
 texts.Pairwise fun first second=>utf8 first<utf8 second

instance (texts:List String):Decidable (Canonical texts):=
 inferInstanceAs (Decidable (texts.Pairwise _))

variable {texts others:List String}

lemma Canonical.nodup (h:Canonical texts):texts.Nodup:=by
 refine List.Pairwise.imp (fun hlt heq=>?_) h
 rw [heq] at hlt
 exact List.lt_irrefl _ hlt

lemma Canonical.sorted (h:Canonical texts):texts.Pairwise utf8Le:=
 h.imp List.le_of_lt

lemma canonical_of_sorted (hsorted:texts.Pairwise utf8Le) (hnodup:texts.Nodup):
  Canonical texts:=by
 refine List.Pairwise.imp₂ (fun first second hle hne=>?_) hsorted hnodup
 by_contra hnot
 exact hne (utf8_injective (List.le_antisymm hle (List.not_lt.mp hnot)))

lemma canonical_insertionSort (h:texts.Nodup):Canonical (texts.insertionSort utf8Le):=
 canonical_of_sorted (List.pairwise_insertionSort _ _)
  ((List.perm_insertionSort _ _).nodup_iff.mpr h)

lemma Canonical.insertionSort_eq (h:Canonical texts):texts.insertionSort utf8Le=texts:=
 List.Pairwise.insertionSort_eq h.sorted

lemma Canonical.ext (h:Canonical texts) (h':Canonical others)
  (hmem:∀text,text∈texts ↔ text∈others):texts=others:=
 ((List.perm_ext_iff_of_nodup h.nodup h'.nodup).mpr hmem).eq_of_pairwise' h.sorted h'.sorted

end

structure SerializerDescriptor where
 serializerId:ℕ
 name:String
 protocolMajor:ℕ
 protocolMinor:ℕ
 readableManifests:List String
 writableManifests:List String
 serializerId_pos:0<serializerId
 serializerId_le:serializerId ≤ maxU32
 protocolMajor_le:protocolMajor ≤ maxU16
 protocolMinor_le:protocolMinor ≤ maxU16
 readable_canonical:Canonical readableManifests
 writable_canonical:Canonical writableManifests
 deriving DecidableEq

structure SerializerBinding where
 serializerId:ℕ
 manifest:String
 deriving DecidableEq

/-- What `SerializerRegistryBuilder` can build, over the message types `T`. -/
structure SerializerRegistry (T:Type) where
 descriptors:List SerializerDescriptor
 bindings:T → Option SerializerBinding
 ids_nodup:(descriptors.map SerializerDescriptor.serializerId).Nodup
 names_nodup:(descriptors.map SerializerDescriptor.name).Nodup
 bound:∀messageType,∀binding∈bindings messageType,∃descriptor∈descriptors,
  descriptor.serializerId=binding.serializerId ∧
   binding.manifest∈descriptor.writableManifests

structure SerializerRoute where
 originIncarnationUid:UUID
 serializerId:ℕ
 manifests:List String
 serializerId_pos:0<serializerId
 manifests_ne:manifests≠[]
 manifests_canonical:Canonical manifests
 deriving DecidableEq

variable {descriptor writer reader:SerializerDescriptor} {serializerId:ℕ}
  {route:SerializerRoute}

section

variable (nfc:String → Bool)

def frozenset (texts:List String):List String:=texts.dedup.insertionSort utf8Le

lemma frozenset_canonical (texts:List String):Canonical (frozenset texts):=
 canonical_insertionSort (List.nodup_dedup texts)

def outOfRange (field:String) (minimum maximum:ℕ):String:=
 field ++ " must be between " ++ toString minimum ++ " and " ++ toString maximum

def checkTexts {ε:Type} (field:String) (maximum:ℕ) (error:String → ε):
  List String → Except ε Unit
 | []=>.ok ()
 | text::rest=>do
  let _ ← textBytes nfc text field maximum true error
  checkTexts field maximum error rest

def SerializerDescriptor.create (serializerId:ℕ) (name:String)
  (protocolMajor protocolMinor:ℕ) (readable writable:List String):
  Except String SerializerDescriptor:=
 if hid:¬(0<serializerId ∧ serializerId ≤ maxU32) then
  .error (outOfRange "serializer ID" 1 maxU32)
 else do
  let _ ← textBytes nfc name "serializer name" maxU16 true id
  if hmajor:maxU16<protocolMajor then
   .error (outOfRange "serializer protocol major" 0 maxU16)
  else if hminor:maxU16<protocolMinor then
   .error (outOfRange "serializer protocol minor" 0 maxU16)
  else do
   reject (maxU16<(frozenset readable).length ∨ maxU16<(frozenset writable).length)
    "manifest count exceeds 65535"
   checkTexts nfc "serializer manifest" maxManifestBytes id
    (frozenset readable++frozenset writable)
   return ⟨serializerId,name,protocolMajor,protocolMinor,frozenset readable,
    frozenset writable,(not_not.mp hid).1,(not_not.mp hid).2,Nat.not_lt.mp hmajor,
    Nat.not_lt.mp hminor,frozenset_canonical readable,frozenset_canonical writable⟩

def SerializerRoute.create (originIncarnationUid:UUID) (serializerId:ℕ)
  (manifests:List String):Except String SerializerRoute:=do
 reject (originIncarnationUid.int=0) "route origin incarnation UID must be a nonzero UUID"
 if hid:¬(0<serializerId ∧ serializerId ≤ maxU32) then
  .error (outOfRange "route serializer ID" 1 maxU32)
 else do
  reject (maxU16 < manifests.length) "route manifest count exceeds 65535"
  checkTexts nfc "route manifest" maxManifestBytes id manifests
  reject (¬manifests.Nodup) "route manifests must be unique"
  if hne:frozenset manifests=[] then
   .error "a serializer route must contain a manifest"
  else
   return ⟨originIncarnationUid,serializerId,frozenset manifests,(not_not.mp hid).1,hne,
    frozenset_canonical manifests⟩

variable {nfc}

lemma checkTexts_eq_ok {ε:Type} {field:String} {maximum:ℕ} {error:String → ε}
  {texts:List String}:checkTexts nfc field maximum error texts=.ok () ↔
   ∀text∈texts,TextOk nfc text maximum true:=by
 induction texts with
 | nil=>exact ⟨fun _ _ hmem=>absurd hmem List.not_mem_nil,fun _=>rfl⟩
 | cons text rest ih=>rw [checkTexts,bind_textBytes_eq_ok,ih,List.forall_mem_cons]

lemma mem_frozenset {text:String} {texts:List String}:
  text∈frozenset texts ↔ text∈texts:=by
 rw [frozenset,List.mem_insertionSort,List.mem_dedup]

lemma SerializerDescriptor.create_eq_ok {name:String}
  {protocolMajor protocolMinor:ℕ} {readable writable:List String}:
  SerializerDescriptor.create nfc serializerId name protocolMajor protocolMinor readable
   writable=.ok descriptor ↔ (TextOk nfc name maxU16 true ∧
   ((frozenset readable).length ≤ maxU16 ∧ (frozenset writable).length ≤ maxU16) ∧
   (∀text∈readable,TextOk nfc text maxManifestBytes true) ∧
   ∀text∈writable,TextOk nfc text maxManifestBytes true) ∧
  descriptor.serializerId=serializerId ∧ descriptor.name=name ∧
   descriptor.protocolMajor=protocolMajor ∧ descriptor.protocolMinor=protocolMinor ∧
   descriptor.readableManifests=frozenset readable ∧
   descriptor.writableManifests=frozenset writable:=by
 obtain ⟨_,_,_,_,_,_,hpos,hle,hmajor,hminor,_,_⟩:=descriptor
 have htexts:checkTexts nfc "serializer manifest" maxManifestBytes id
  (frozenset readable++frozenset writable)=.ok () ↔
  (∀text∈readable,TextOk nfc text maxManifestBytes true) ∧
   ∀text∈writable,TextOk nfc text maxManifestBytes true:=by
  simp only [checkTexts_eq_ok,List.forall_mem_append,mem_frozenset]
 unfold SerializerDescriptor.create
 split_ifs with hid hmajor' hminor'
 · rw [bind_textBytes_eq_ok]
   refine ⟨fun h=>(by cases h.2),?_⟩
   rintro ⟨-,-,-,rfl,-⟩
   exact absurd hmajor (Nat.not_le.mpr hmajor')
 · rw [bind_textBytes_eq_ok]
   refine ⟨fun h=>(by cases h.2),?_⟩
   rintro ⟨-,-,-,-,rfl,-⟩
   exact absurd hminor (Nat.not_le.mpr hminor')
 · rw [bind_textBytes_eq_ok,bind_reject_eq_ok,not_or,Nat.not_lt,Nat.not_lt]
   constructor
   · rintro ⟨hname,hcounts,h⟩
     obtain ⟨⟨⟩,hcheck,h⟩:=bind_eq_ok h
     cases h
     exact ⟨⟨hname,hcounts,htexts.mp hcheck⟩,rfl,rfl,rfl,rfl,rfl,rfl⟩
   · rintro ⟨⟨hname,hcounts,hall⟩,rfl,rfl,rfl,rfl,rfl,rfl⟩
     refine ⟨hname,hcounts,?_⟩
     rw [bind_of_ok (htexts.mpr hall)]
     rfl
 · refine ⟨fun h=>(by cases h),?_⟩
   rintro ⟨-,rfl,-⟩
   exact absurd ⟨hpos,hle⟩ hid

lemma SerializerRoute.create_eq_ok {originUid:UUID} {manifests:List String}:
  SerializerRoute.create nfc originUid serializerId manifests=.ok route ↔
  (originUid.int≠0 ∧ serializerId ≤ maxU32 ∧ manifests.length ≤ maxU16 ∧
   (∀text∈manifests,TextOk nfc text maxManifestBytes true) ∧ manifests.Nodup) ∧
  route.originIncarnationUid=originUid ∧ route.serializerId=serializerId ∧
   route.manifests=frozenset manifests:=by
 obtain ⟨_,_,_,hpos,hne,_⟩:=route
 unfold SerializerRoute.create
 rw [bind_reject_eq_ok]
 split_ifs with hid hempty
 · refine ⟨?_,?_⟩
   · rw [bind_reject_eq_ok]
     rintro ⟨-,-,h⟩
     obtain ⟨⟨⟩,-,h⟩:=bind_eq_ok h
     rw [bind_reject_eq_ok] at h
     cases h.2
   · rintro ⟨-,-,-,rfl⟩
     exact absurd hempty hne
 · rw [bind_reject_eq_ok,Nat.not_lt]
   constructor
   · rintro ⟨horigin,hcount,h⟩
     obtain ⟨⟨⟩,hcheck,h⟩:=bind_eq_ok h
     rw [bind_reject_eq_ok,not_not] at h
     obtain ⟨hnodup,h⟩:=h
     cases h
     exact ⟨⟨horigin,hid.2,hcount,checkTexts_eq_ok.mp hcheck,hnodup⟩,rfl,rfl,rfl⟩
   · rintro ⟨⟨horigin,-,hcount,hall,hnodup⟩,rfl,rfl,rfl⟩
     refine ⟨horigin,hcount,?_⟩
     rw [bind_of_ok (checkTexts_eq_ok.mpr hall),bind_reject_eq_ok,not_not]
     exact ⟨hnodup,rfl⟩
 · refine ⟨fun h=>h.2.elim,?_⟩
   rintro ⟨⟨-,hle,-⟩,-,rfl,-⟩
   exact absurd ⟨hpos,hle⟩ hid

end

structure NegotiatedSerializer where
 serializerId:ℕ
 protocolMinor:ℕ
 deriving DecidableEq

structure SerializerNegotiation where
 routes:List SerializerRoute
 serializers:List NegotiatedSerializer

structure SerializedPayload where
 serializerId:ℕ
 manifest:String
 payload:List UInt8
 deriving DecidableEq

inductive SerializationFailure where
 | unknownSerializer
 | unsupportedManifest
 | registry
 | serialization
 | keyError
 deriving DecidableEq

inductive DeserializationReason where
 | unknownSerializer
 | unsupportedManifest
 | malformedPayload
 deriving DecidableEq

/-- How `deserialize` ends; `raised` is an exception that `_prepare_user_message` does not
 catch. -/
inductive Deserialized where
 | value
 | rejected (reason:DeserializationReason)
 | raised
 deriving DecidableEq

inductive SerializerNegotiationError where
 | zeroOrigin (position:String)
 | sameOrigin
 | repeatedId (peer:String) (serializerId:ℕ)
 | repeatedName (peer name:String)
 | conflictingIds (name:String) (first second:ℕ)
 | conflictingNames (serializerId:ℕ) (first second:String)
 | conflictingMajors (serializerId first second:ℕ)
 deriving DecidableEq

def findId (descriptors:List SerializerDescriptor) (serializerId:ℕ):
  Option SerializerDescriptor:=
 descriptors.find? fun descriptor=>descriptor.serializerId=serializerId

variable {negotiation:SerializerNegotiation}

section

variable {T:Type} (registry:SerializerRegistry T)

def SerializerRegistry.registration (serializerId:ℕ):Option SerializerDescriptor:=
 findId registry.descriptors serializerId

/-- `serialize_for_route` after `binding_for`. The codec's answer is `none` when it raises
 or does not return bytes. -/
def SerializerRegistry.serializeForRoute (messageType:T) (route:SerializerRoute)
  (protocolMinor:ℕ) (answer:Option (List UInt8)):
  Except SerializationFailure SerializedPayload:=
 match registry.bindings messageType with
 | none=>.error .unknownSerializer
 | some binding=>do
  reject (binding.serializerId≠route.serializerId ∨ binding.manifest∉route.manifests)
   .unsupportedManifest
  match registry.registration binding.serializerId with
  | none=>.error .keyError
  | some descriptor=>do
   reject (descriptor.protocolMinor<protocolMinor) .registry
   match answer with
   | none=>.error .serialization
   | some payload=>.ok ⟨binding.serializerId,binding.manifest,payload⟩

/-- `deserialize`, as `_prepare_user_message` calls it with the negotiated minor of the
 serializer: a missing minor is a `KeyError`, a minor out of range a
 `SerializerRegistryError`. -/
def SerializerRegistry.deserialize (serializerId:ℕ) (manifest:String)
  (protocolMinor:Option ℕ) (reads:Bool):Deserialized:=
 match protocolMinor with
 | none=>.raised
 | some minor=>
  match registry.registration serializerId with
  | none=>.rejected .unknownSerializer
  | some descriptor=>
   if manifest∉descriptor.readableManifests then .rejected .unsupportedManifest
   else if descriptor.protocolMinor < minor then .raised
   else if reads then .value
   else .rejected .malformedPayload

end

section

/-- `_descriptor_maps`: the entries of `by_id`, in the order of their insertion. -/
def descriptorMaps (peer:String) (byId:List SerializerDescriptor):
  List SerializerDescriptor → Except SerializerNegotiationError (List SerializerDescriptor)
 | []=>.ok byId
 | descriptor::rest=>do
  reject (descriptor.serializerId∈byId.map SerializerDescriptor.serializerId)
   (.repeatedId peer descriptor.serializerId)
  reject (descriptor.name∈byId.map SerializerDescriptor.name)
   (.repeatedName peer descriptor.name)
  descriptorMaps peer (byId++[descriptor]) rest

def findName (descriptors:List SerializerDescriptor) (name:String):
  Option SerializerDescriptor:=
 descriptors.find? fun descriptor=>descriptor.name=name

def checkNames (secondById:List SerializerDescriptor):
  List SerializerDescriptor → Except SerializerNegotiationError Unit
 | []=>.ok ()
 | first::rest=>
  match findName secondById first.name with
  | none=>checkNames secondById rest
  | some second=>do
   reject (first.serializerId≠second.serializerId)
    (.conflictingIds first.name first.serializerId second.serializerId)
   checkNames secondById rest

def sendable (writer reader:SerializerDescriptor):List String:=
 (writer.writableManifests.filter (·∈reader.readableManifests)).insertionSort utf8Le

lemma sendable_canonical (writer reader:SerializerDescriptor):
  Canonical (sendable writer reader):=
 canonical_insertionSort (writer.writable_canonical.nodup.filter _)

def directedRoute (originUid:UUID) (writer reader:SerializerDescriptor):
  List SerializerRoute:=
 if h:sendable writer reader=[] then []
 else [⟨originUid,writer.serializerId,sendable writer reader,writer.serializerId_pos,h,
  sendable_canonical writer reader⟩]

def routeLe (first second:SerializerRoute):Prop:=
 first.originIncarnationUid.int<second.originIncarnationUid.int ∨
 first.originIncarnationUid.int=second.originIncarnationUid.int ∧
  (first.serializerId<second.serializerId ∨
   first.serializerId=second.serializerId ∧
    first.manifests.map utf8 ≤ second.manifests.map utf8)

instance : DecidableRel routeLe:=fun _ _=>inferInstanceAs (Decidable (_ ∨ _ ∧ (_ ∨ _ ∧ _)))

/-- The loop over the common serializers. -/
def negotiatePairs (firstOriginUid secondOriginUid:UUID)
  (firstById secondById:List SerializerDescriptor):
  List ℕ → Except SerializerNegotiationError SerializerNegotiation
 | []=>.ok ⟨[],[]⟩
 | serializerId::rest=>
  match findId firstById serializerId,findId secondById serializerId with
  | some first,some second=>do
   reject (first.name≠second.name)
    (.conflictingNames serializerId first.name second.name)
   reject (first.protocolMajor≠second.protocolMajor)
    (.conflictingMajors serializerId first.protocolMajor second.protocolMajor)
   let others ← negotiatePairs firstOriginUid secondOriginUid firstById secondById rest
   return ⟨directedRoute firstOriginUid first second ++
    directedRoute secondOriginUid second first++others.routes,
    ⟨serializerId,min first.protocolMinor second.protocolMinor⟩::others.serializers⟩
  | _,_=>negotiatePairs firstOriginUid secondOriginUid firstById secondById rest

def commonIds (firstById secondById:List SerializerDescriptor):List ℕ:=
 ((firstById.map SerializerDescriptor.serializerId).filter
  (·∈secondById.map SerializerDescriptor.serializerId)).insertionSort (· ≤ ·)

def negotiateSerializers (firstOriginUid:UUID) (firstDescriptors:List SerializerDescriptor)
  (secondOriginUid:UUID) (secondDescriptors:List SerializerDescriptor):
  Except SerializerNegotiationError SerializerNegotiation:=do
 reject (firstOriginUid.int=0) (.zeroOrigin "first")
 reject (secondOriginUid.int=0) (.zeroOrigin "second")
 reject (firstOriginUid=secondOriginUid) .sameOrigin
 let firstById ← descriptorMaps "first peer" [] firstDescriptors
 let secondById ← descriptorMaps "second peer" [] secondDescriptors
 checkNames secondById firstById
 let negotiated ← negotiatePairs firstOriginUid secondOriginUid firstById secondById
  (commonIds firstById secondById)
 return ⟨negotiated.routes.insertionSort routeLe,negotiated.serializers⟩

end

section

variable {firstOriginUid secondOriginUid:UUID}
 {firstDescriptors secondDescriptors:List SerializerDescriptor}

variable {manifest:String} {originUid:UUID}
 {descriptors others secondById firstById writers readers firstOthers secondOthers:List SerializerDescriptor}
 {ids:List ℕ}

lemma mem_sendable : manifest∈sendable writer reader ↔
   manifest∈writer.writableManifests ∧ manifest∈reader.readableManifests:=by
 unfold sendable
 rw [List.mem_insertionSort,List.mem_filter,decide_eq_true_iff]

lemma mem_directedRoute : route∈directedRoute originUid writer reader ↔
   route.originIncarnationUid=originUid ∧ route.serializerId=writer.serializerId ∧
    route.manifests=sendable writer reader:=by
 obtain ⟨uid,serializerId,manifests,hpos,hne,hcanonical⟩:=route
 unfold directedRoute
 split_ifs with hempty
 · refine ⟨fun h=>absurd h List.not_mem_nil,fun h=>?_⟩
   exact absurd (h.2.2.trans hempty) hne
 · rw [List.mem_singleton,SerializerRoute.mk.injEq]

structure Distinct (descriptors:List SerializerDescriptor):Prop where
 ids:(descriptors.map SerializerDescriptor.serializerId).Nodup
 names:(descriptors.map SerializerDescriptor.name).Nodup

lemma Distinct.perm (h:Distinct descriptors) (hperm:descriptors.Perm others):Distinct others:=
 ⟨(hperm.map _).nodup_iff.mp h.ids,(hperm.map _).nodup_iff.mp h.names⟩

lemma Distinct.left (h:Distinct (descriptors++others)):Distinct descriptors:=by
 obtain ⟨hids,hnames⟩:=h
 rw [List.map_append] at hids hnames
 exact ⟨(List.nodup_append.mp hids).1,(List.nodup_append.mp hnames).1⟩

lemma distinct_snoc :
  Distinct (descriptors++[descriptor]) ↔
   descriptor.serializerId∉descriptors.map SerializerDescriptor.serializerId ∧
   descriptor.name∉descriptors.map SerializerDescriptor.name ∧ Distinct descriptors:=by
 have hsplit:Distinct (descriptors++[descriptor]) ↔
  (descriptor.serializerId::descriptors.map SerializerDescriptor.serializerId).Nodup ∧
  (descriptor.name::descriptors.map SerializerDescriptor.name).Nodup:=by
  constructor
  · rintro ⟨hids,hnames⟩
    rw [List.map_append,List.nodup_append_comm] at hids hnames
    exact ⟨hids,hnames⟩
  · rintro ⟨hids,hnames⟩
    constructor <;> rw [List.map_append,List.nodup_append_comm] <;> assumption
 rw [hsplit,List.nodup_cons,List.nodup_cons]
 constructor
 · rintro ⟨⟨hid,hids⟩,hname,hnames⟩
   exact ⟨hid,hname,hids,hnames⟩
 · rintro ⟨hid,hname,hids,hnames⟩
   exact ⟨⟨hid,hids⟩,hname,hnames⟩

lemma descriptorMaps_eq_ok {peer:String} {byId result:List SerializerDescriptor}
  (hbyId:Distinct byId):descriptorMaps peer byId descriptors=.ok result ↔
   result=byId++descriptors ∧ Distinct (byId++descriptors):=by
 induction descriptors generalizing byId with
 | nil=>
  rw [List.append_nil]
  constructor
  · rintro ⟨⟩
    exact ⟨rfl,hbyId⟩
  · rintro ⟨rfl,_⟩
    rfl
 | cons descriptor rest ih=>
  rw [descriptorMaps,bind_reject_eq_ok,bind_reject_eq_ok,
   List.append_cons byId descriptor rest]
  constructor
  · rintro ⟨hid,hname,h⟩
    exact (ih (distinct_snoc.mpr ⟨hid,hname,hbyId⟩)).mp h
  · rintro ⟨hresult,h⟩
    obtain ⟨hid,hname,-⟩:=distinct_snoc.mp h.left
    exact ⟨hid,hname,(ih h.left).mpr ⟨hresult,h⟩⟩

lemma findId_serializerId (h:findId descriptors serializerId=some descriptor):
  descriptor.serializerId=serializerId:=by
 have hfound:=List.find?_some h
 exact of_decide_eq_true hfound

lemma findName_name {name:String}
  (h:findName descriptors name=some descriptor):descriptor.name=name:=by
 have hfound:=List.find?_some h
 exact of_decide_eq_true hfound

lemma findId_of_mem (h:Distinct descriptors) (hmem:descriptor∈descriptors):
  findId descriptors descriptor.serializerId=some descriptor:=by
 cases hfind:findId descriptors descriptor.serializerId with
 | none=>
  exact absurd (decide_eq_true rfl) (List.find?_eq_none.mp hfind descriptor hmem)
 | some other=>
  rw [List.inj_on_of_nodup_map h.ids (List.mem_of_find?_eq_some hfind) hmem
   (findId_serializerId hfind)]

lemma findId_eq_some (h:Distinct descriptors):
  findId descriptors serializerId=some descriptor ↔
   descriptor∈descriptors ∧ descriptor.serializerId=serializerId:=by
 constructor
 · intro hfind
   exact ⟨List.mem_of_find?_eq_some hfind,findId_serializerId hfind⟩
 · rintro ⟨hmem,rfl⟩
   exact findId_of_mem h hmem

lemma checkNames_eq_ok (hsecond:Distinct secondById):
  checkNames secondById firstById=.ok () ↔ ∀first∈firstById,∀second∈secondById,
   first.name=second.name → first.serializerId=second.serializerId:=by
 induction firstById with
 | nil=>exact ⟨fun _=>nofun,fun _=>rfl⟩
 | cons first rest ih=>
  rw [List.forall_mem_cons,checkNames,←ih]
  cases hfind:findName secondById first.name with
  | none=>
   have hnone:∀second∈secondById,first.name≠second.name:=fun second hmem heq=>
    absurd (decide_eq_true heq.symm) (List.find?_eq_none.mp hfind second hmem)
   exact ⟨fun h=>⟨fun second hmem heq=>absurd heq (hnone second hmem),h⟩,fun h=>h.2⟩
  | some found=>
   have hname:found.name=first.name:=findName_name hfind
   have hmem:=List.mem_of_find?_eq_some hfind
   dsimp only
   rw [bind_reject_eq_ok,ne_eq,not_not]
   refine and_congr_left fun _=>⟨fun heq second hsecond' hsame=>?_,fun h=>?_⟩
   · have:found=second:=
      List.inj_on_of_nodup_map hsecond.names hmem hsecond' (hname.trans hsame)
     rw [heq,this]
   · exact h found hmem hname.symm

def RouteBetween (originUid:UUID) (writers readers:List SerializerDescriptor)
  (route:SerializerRoute):Prop:=
 route.originIncarnationUid=originUid ∧ ∃writer∈writers,∃reader∈readers,
  writer.serializerId=route.serializerId ∧ reader.serializerId=route.serializerId ∧
   route.manifests=sendable writer reader

def MinorOf (firstDescriptors secondDescriptors:List SerializerDescriptor)
  (serializer:NegotiatedSerializer):Prop:=
 ∃first∈firstDescriptors,∃second∈secondDescriptors,
  first.serializerId=serializer.serializerId ∧
  second.serializerId=serializer.serializerId ∧
  serializer.protocolMinor=min first.protocolMinor second.protocolMinor

structure PairsSpec (firstOriginUid secondOriginUid:UUID)
  (firstById secondById:List SerializerDescriptor) (ids:List ℕ)
  (negotiated:SerializerNegotiation):Prop where
 route:∀route,route∈negotiated.routes ↔ route.serializerId∈ids ∧
  (RouteBetween firstOriginUid firstById secondById route ∨
   RouteBetween secondOriginUid secondById firstById route)
 nodup:negotiated.routes.Nodup
 serializer:∀serializer,serializer∈negotiated.serializers ↔
  serializer.serializerId∈ids ∧ MinorOf firstById secondById serializer
 ids:negotiated.serializers.map NegotiatedSerializer.serializerId=ids

def SameProtocol (first second:SerializerDescriptor):Prop:=
 first.name=second.name ∧ first.protocolMajor=second.protocolMajor

lemma routeBetween_iff (hwriters:Distinct writers)
  (hreaders:Distinct readers) (hwriter:writer∈writers)
  (hreader:reader∈readers) (hid:writer.serializerId=reader.serializerId)
  : route∈directedRoute originUid writer reader ↔
   route.serializerId=writer.serializerId ∧ RouteBetween originUid writers readers route:=by
 rw [mem_directedRoute]
 constructor
 · rintro ⟨horigin,hroute,hmanifests⟩
   exact ⟨hroute,horigin,writer,hwriter,reader,hreader,hroute.symm,
    hid.symm.trans hroute.symm,hmanifests⟩
 · rintro ⟨hroute,horigin,writer',hwriter',reader',hreader',hid',hid'',hmanifests⟩
   have heq:writer'=writer:=
    List.inj_on_of_nodup_map hwriters.ids hwriter' hwriter (hid'.trans hroute)
   have heq':reader'=reader:=List.inj_on_of_nodup_map hreaders.ids hreader' hreader
    (hid''.trans (hroute.trans hid))
   rw [heq,heq'] at hmanifests
   exact ⟨horigin,hroute,hmanifests⟩

lemma directedRoute_nodup (originUid:UUID) (writer reader:SerializerDescriptor):
  (directedRoute originUid writer reader).Nodup:=by
 unfold directedRoute
 split_ifs
 · exact List.nodup_nil
 · exact List.nodup_singleton _

lemma PairsSpec.cons (hfirstById:Distinct firstById) (hsecondById:Distinct secondById)
  (hdistinct:firstOriginUid≠secondOriginUid) {negotiated:SerializerNegotiation}
  (h:PairsSpec firstOriginUid secondOriginUid firstById secondById ids negotiated)
  {first second:SerializerDescriptor} (hfirst:first∈firstById)
  (hsecond:second∈secondById) (hid:first.serializerId=second.serializerId)
  (hnew:first.serializerId∉ids):
  PairsSpec firstOriginUid secondOriginUid firstById secondById (first.serializerId::ids)
   ⟨directedRoute firstOriginUid first second++directedRoute secondOriginUid second first ++
    negotiated.routes,
    ⟨first.serializerId,min first.protocolMinor second.protocolMinor⟩ ::
     negotiated.serializers⟩ where
 route route:=by
  rw [List.mem_append,List.mem_append,h.route,List.mem_cons,
   routeBetween_iff hfirstById hsecondById hfirst hsecond hid,
   routeBetween_iff hsecondById hfirstById hsecond hfirst hid.symm,←hid]
  tauto
 nodup:=by
  have hkeys:∀route,route∈directedRoute firstOriginUid first second ++
   directedRoute secondOriginUid second first →
   route.serializerId=first.serializerId:=by
   intro route hmem
   rcases List.mem_append.mp hmem with hmem|hmem
   · exact (mem_directedRoute.mp hmem).2.1
   · exact (mem_directedRoute.mp hmem).2.1.trans hid.symm
  refine List.nodup_append.mpr ⟨List.nodup_append.mpr ⟨directedRoute_nodup ..,
   directedRoute_nodup ..,?_⟩,h.nodup,?_⟩
  · rintro route hroute other hother rfl
    exact hdistinct ((mem_directedRoute.mp hroute).1.symm.trans (mem_directedRoute.mp hother).1)
  · rintro route hroute other hother rfl
    exact hnew (hkeys route hroute▸((h.route route).mp hother).1)
 serializer serializer:=by
  rw [List.mem_cons,List.mem_cons,h.serializer]
  constructor
  · rintro (rfl|⟨hmem,hminor⟩)
    · exact ⟨.inl rfl,first,hfirst,second,hsecond,rfl,hid.symm,rfl⟩
    · exact ⟨.inr hmem,hminor⟩
  · rintro ⟨hid'|hmem,hminor⟩
    · obtain ⟨first',hfirst',second',hsecond',heq,heq',hmin⟩:=hminor
      have hf:first'=first:=
       List.inj_on_of_nodup_map hfirstById.ids hfirst' hfirst (heq.trans hid')
      have hs:second'=second:=List.inj_on_of_nodup_map hsecondById.ids hsecond' hsecond
       (heq'.trans (hid'.trans hid))
      rw [hf,hs] at hmin
      cases serializer
      cases hid'
      cases hmin
      exact .inl rfl
    · exact .inr ⟨hmem,hminor⟩
 ids:=by
  rw [List.map_cons,h.ids]

lemma negotiatePairs_eq_ok (hfirstById:Distinct firstById) (hsecondById:Distinct secondById)
  (hdistinct:firstOriginUid≠secondOriginUid) (hids:ids.Nodup)
  (hcommon:∀serializerId∈ids,∃first∈firstById,∃second∈secondById,
   first.serializerId=serializerId ∧ second.serializerId=serializerId):
  ((∃negotiated,negotiatePairs firstOriginUid secondOriginUid firstById secondById ids =
   .ok negotiated) ↔
   ∀first∈firstById,∀second∈secondById,first.serializerId∈ids →
    first.serializerId=second.serializerId → SameProtocol first second) ∧
  ∀negotiated,negotiatePairs firstOriginUid secondOriginUid firstById secondById ids =
   .ok negotiated →
   PairsSpec firstOriginUid secondOriginUid firstById secondById ids negotiated:=by
 induction ids with
 | nil=>
  refine ⟨⟨fun _ _ _ _ _ hmem=>absurd hmem List.not_mem_nil,fun _=>⟨_,rfl⟩⟩,?_⟩
  rintro negotiated ⟨⟩
  exact ⟨fun _=>by simp,List.nodup_nil,fun _=>by simp,rfl⟩
 | cons serializerId rest ih=>
  obtain ⟨first,hfirst,second,hsecond,hid,hid'⟩:=hcommon serializerId List.mem_cons_self
  obtain ⟨hnew,hrest⟩:=List.nodup_cons.mp hids
  obtain ⟨hsuccess,hvalue⟩:=
   ih hrest fun other hmem=>hcommon other (List.mem_cons_of_mem _ hmem)
  have hfindFirst:findId firstById serializerId=some first:=
   (findId_eq_some hfirstById).mpr ⟨hfirst,hid⟩
  have hfindSecond:findId secondById serializerId=some second:=
   (findId_eq_some hsecondById).mpr ⟨hsecond,hid'⟩
  subst hid
  simp only [negotiatePairs,hfindFirst,hfindSecond,bind_reject_eq_ok,ne_eq,not_not]
  constructor
  · constructor
    · rintro ⟨negotiated,hname,hmajor,h⟩ other hother peer hpeer hmem hsame
      obtain ⟨others,hothers,-⟩:=bind_eq_ok h
      rcases List.mem_cons.mp hmem with heq|hmem
      · have hf:other=first:=List.inj_on_of_nodup_map hfirstById.ids hother hfirst heq
        have hs:peer=second:=List.inj_on_of_nodup_map hsecondById.ids hpeer hsecond
         (hsame.symm.trans (heq.trans hid'.symm))
        rw [hf,hs]
        exact ⟨hname,hmajor⟩
      · exact hsuccess.mp ⟨others,hothers⟩ other hother peer hpeer hmem hsame
    · intro hagree
      obtain ⟨others,hothers⟩:=hsuccess.mpr fun other hother peer hpeer hmem=>
       hagree other hother peer hpeer (List.mem_cons_of_mem _ hmem)
      obtain ⟨hname,hmajor⟩:=hagree first hfirst second hsecond List.mem_cons_self hid'.symm
      exact ⟨_,hname,hmajor,bind_of_ok hothers⟩
  · rintro negotiated ⟨-,-,h⟩
    obtain ⟨others,hothers,heq⟩:=bind_eq_ok h
    cases heq
    exact (hvalue others hothers).cons hfirstById hsecondById hdistinct hfirst hsecond
     hid'.symm hnew

lemma mem_commonIds :
  serializerId∈commonIds firstById secondById ↔ ∃first∈firstById,∃second∈secondById,
   first.serializerId=serializerId ∧ second.serializerId=serializerId:=by
 unfold commonIds
 rw [List.mem_insertionSort,List.mem_filter,decide_eq_true_iff,List.mem_map,List.mem_map]
 constructor
 · rintro ⟨⟨first,hfirst,hid⟩,second,hsecond,hid'⟩
   exact ⟨first,hfirst,second,hsecond,hid,hid'⟩
 · rintro ⟨first,hfirst,second,hsecond,hid,hid'⟩
   exact ⟨⟨first,hfirst,hid⟩,second,hsecond,hid'⟩

lemma commonIds_nodup (h:Distinct firstById)
  (secondById:List SerializerDescriptor):(commonIds firstById secondById).Nodup:=
 (List.perm_insertionSort _ _).nodup_iff.mpr (h.ids.filter _)

instance : Std.Total routeLe where
 total first second:=by
  unfold routeLe
  rcases Nat.lt_trichotomy first.originIncarnationUid.int second.originIncarnationUid.int with
   h | h | h
  · exact .inl (.inl h)
  · rcases Nat.lt_trichotomy first.serializerId second.serializerId with hid|hid|hid
    · exact .inl (.inr ⟨h,.inl hid⟩)
    · rcases List.le_total (first.manifests.map utf8) (second.manifests.map utf8) with hle|hle
      · exact .inl (.inr ⟨h,.inr ⟨hid,hle⟩⟩)
      · exact .inr (.inr ⟨h.symm,.inr ⟨hid.symm,hle⟩⟩)
    · exact .inr (.inr ⟨h.symm,.inl hid⟩)
  · exact .inr (.inl h)

instance : IsTrans SerializerRoute routeLe where
 trans first second third h h':=by
  unfold routeLe at h h' ⊢
  rcases h with h|⟨h,hid⟩
  · omega
  · rcases h' with h'|⟨h',hid'⟩
    · omega
    · refine .inr ⟨h.trans h',?_⟩
      rcases hid with hid|⟨hid,hle⟩
      · omega
      · rcases hid' with hid'|⟨hid',hle'⟩
        · omega
        · exact .inr ⟨hid.trans hid',List.le_trans hle hle'⟩

instance : Std.Antisymm routeLe where
 antisymm first second h h':=by
  obtain ⟨⟨uid,hbounded⟩,serializerId,manifests,_,_,_⟩:=first
  obtain ⟨⟨uid',hbounded'⟩,serializerId',manifests',_,_,_⟩:=second
  simp only [routeLe] at h h'
  have huid:uid=uid':=by omega
  have hid:serializerId=serializerId':=by omega
  have hle:manifests.map utf8 ≤ manifests'.map utf8:=by
   rcases h with h|⟨-,h|⟨-,h⟩⟩
   · omega
   · omega
   · exact h
  have hge:manifests'.map utf8 ≤ manifests.map utf8:=by
   rcases h' with h|⟨-,h|⟨-,h⟩⟩
   · omega
   · omega
   · exact h
  have hmanifests:manifests=manifests':=
   List.map_injective_iff.mpr utf8_injective (List.le_antisymm hle hge)
  subst huid hid hmanifests
  rfl

/-- What `negotiate_serializers` is for, without reference to who is first or to the order
 of the descriptors. -/
structure Negotiates (firstOriginUid secondOriginUid:UUID)
  (firstDescriptors secondDescriptors:List SerializerDescriptor)
  (negotiation:SerializerNegotiation):Prop where
 route:∀route,route∈negotiation.routes ↔
  RouteBetween firstOriginUid firstDescriptors secondDescriptors route ∨
   RouteBetween secondOriginUid secondDescriptors firstDescriptors route
 routes_nodup:negotiation.routes.Nodup
 routes_sorted:negotiation.routes.Pairwise routeLe
 serializer:∀serializer,serializer∈negotiation.serializers ↔
  MinorOf firstDescriptors secondDescriptors serializer
 serializers_sorted:
  (negotiation.serializers.map NegotiatedSerializer.serializerId).Pairwise (·<·)

structure Compatible (firstOriginUid secondOriginUid:UUID)
  (firstDescriptors secondDescriptors:List SerializerDescriptor):Prop where
 first_ne:firstOriginUid.int≠0
 second_ne:secondOriginUid.int≠0
 origins_ne:firstOriginUid≠secondOriginUid
 first:Distinct firstDescriptors
 second:Distinct secondDescriptors
 names:∀first∈firstDescriptors,∀second∈secondDescriptors,
  first.name=second.name → first.serializerId=second.serializerId
 protocols:∀first∈firstDescriptors,∀second∈secondDescriptors,
  first.serializerId=second.serializerId → SameProtocol first second

lemma distinct_nil : Distinct []:=⟨List.nodup_nil,List.nodup_nil⟩

lemma negotiateSerializers_negotiates
  (h:negotiateSerializers firstOriginUid firstDescriptors secondOriginUid secondDescriptors =
   .ok negotiation):Compatible firstOriginUid secondOriginUid firstDescriptors secondDescriptors ∧
   Negotiates firstOriginUid secondOriginUid firstDescriptors secondDescriptors
    negotiation:=by
 simp only [negotiateSerializers,bind_reject_eq_ok] at h
 obtain ⟨hfirst,hsecond,horigins,h⟩:=h
 obtain ⟨firstById,hfirstById,h⟩:=bind_eq_ok h
 obtain ⟨secondById,hsecondById,h⟩:=bind_eq_ok h
 obtain ⟨⟨⟩,hnames,h⟩:=bind_eq_ok h
 obtain ⟨pairs,hpairs,heq⟩:=bind_eq_ok h
 cases heq
 obtain ⟨hfirstEq,hdistinct⟩:=(descriptorMaps_eq_ok distinct_nil).mp hfirstById
 obtain ⟨hsecondEq,hdistinct'⟩:=(descriptorMaps_eq_ok distinct_nil).mp hsecondById
 obtain rfl:firstDescriptors=firstById:=hfirstEq.symm
 obtain rfl:secondDescriptors=secondById:=hsecondEq.symm
 obtain ⟨hsuccess,hvalue⟩:=negotiatePairs_eq_ok hdistinct hdistinct' horigins
  (commonIds_nodup hdistinct secondDescriptors) fun _=>mem_commonIds.mp
 have hspec:=hvalue pairs hpairs
 refine ⟨⟨hfirst,hsecond,horigins,hdistinct,hdistinct',
  (checkNames_eq_ok hdistinct').mp hnames,fun first hmem second hmem' hid=>?_⟩,?_⟩
 · exact hsuccess.mp ⟨pairs,hpairs⟩ first hmem second hmem'
    (mem_commonIds.mpr ⟨first,hmem,second,hmem',rfl,hid.symm⟩) hid
 · refine ⟨fun route=>?_,(List.perm_insertionSort _ _).nodup_iff.mpr hspec.nodup,
    List.pairwise_insertionSort _ _,fun serializer=>?_,?_⟩
   · rw [List.mem_insertionSort,hspec.route]
     refine and_iff_right_of_imp fun hroute=>mem_commonIds.mpr ?_
     rcases hroute with ⟨-,w,hw,r,hr,hid,hid',-⟩|⟨-,w,hw,r,hr,hid,hid',-⟩
     · exact ⟨w,hw,r,hr,hid,hid'⟩
     · exact ⟨r,hr,w,hw,hid',hid⟩
   · rw [hspec.serializer]
     refine and_iff_right_of_imp fun hminor=>mem_commonIds.mpr ?_
     obtain ⟨f,hf,g,hg,hid,hid',-⟩:=hminor
     exact ⟨f,hf,g,hg,hid,hid'⟩
   · rw [hspec.ids]
     have hsorted:(commonIds firstDescriptors secondDescriptors).Pairwise (· ≤ ·):=
      List.pairwise_insertionSort _ _
     exact hsorted.imp₂ (fun _ _ hle hne=>Nat.lt_of_le_of_ne hle hne)
      (commonIds_nodup hdistinct secondDescriptors)

section

variable (h:Compatible firstOriginUid secondOriginUid firstDescriptors secondDescriptors)
include h

lemma negotiateSerializers_of_compatible :
  ∃negotiation,negotiateSerializers firstOriginUid firstDescriptors secondOriginUid
   secondDescriptors=.ok negotiation:=by
 have hfirst:descriptorMaps "first peer" [] firstDescriptors=.ok firstDescriptors:=
  (descriptorMaps_eq_ok distinct_nil).mpr ⟨rfl,h.first⟩
 have hsecond:descriptorMaps "second peer" [] secondDescriptors=.ok secondDescriptors:=
  (descriptorMaps_eq_ok distinct_nil).mpr ⟨rfl,h.second⟩
 obtain ⟨pairs,hpairs⟩:=(negotiatePairs_eq_ok h.first h.second h.origins_ne
  (commonIds_nodup h.first secondDescriptors) fun _=>mem_commonIds.mp).1.mpr
  fun first hmem second hmem' _=>h.protocols first hmem second hmem'
 simp only [negotiateSerializers,bind_reject_eq_ok]
 refine ⟨⟨pairs.routes.insertionSort routeLe,pairs.serializers⟩,h.first_ne,h.second_ne,
  h.origins_ne,?_⟩
 rw [bind_of_ok hfirst,bind_of_ok hsecond,bind_of_ok ((checkNames_eq_ok h.second).mpr h.names),
  bind_of_ok hpairs]
 rfl

lemma Compatible.symm :
  Compatible secondOriginUid firstOriginUid secondDescriptors firstDescriptors where
 first_ne:=h.second_ne
 second_ne:=h.first_ne
 origins_ne:=h.origins_ne.symm
 first:=h.second
 second:=h.first
 names first hfirst second hsecond heq:=(h.names second hsecond first hfirst heq.symm).symm
 protocols first hfirst second hsecond heq:=by
  obtain ⟨hname,hmajor⟩:=h.protocols second hsecond first hfirst heq.symm
  exact ⟨hname.symm,hmajor.symm⟩

lemma Compatible.perm
  (hfirst:firstDescriptors.Perm firstOthers) (hsecond:secondDescriptors.Perm secondOthers):
  Compatible firstOriginUid secondOriginUid firstOthers secondOthers where
 first_ne:=h.first_ne
 second_ne:=h.second_ne
 origins_ne:=h.origins_ne
 first:=h.first.perm hfirst
 second:=h.second.perm hsecond
 names first hmem second hmem':=
  h.names first (hfirst.mem_iff.mpr hmem) second (hsecond.mem_iff.mpr hmem')
 protocols first hmem second hmem':=
  h.protocols first (hfirst.mem_iff.mpr hmem) second (hsecond.mem_iff.mpr hmem')

end

lemma RouteBetween.perm {otherReaders:
  List SerializerDescriptor} (hwriters:writers.Perm others)
  (hreaders:readers.Perm otherReaders):RouteBetween originUid writers readers route ↔
   RouteBetween originUid others otherReaders route:=by
 simp only [RouteBetween,hwriters.mem_iff,hreaders.mem_iff]

section

variable
 (h:Negotiates firstOriginUid secondOriginUid firstDescriptors secondDescriptors negotiation)
include h

/-- The specification does not say which side is first, nor in which order the descriptors
 are listed. -/
lemma Negotiates.symm : Negotiates secondOriginUid firstOriginUid secondDescriptors firstDescriptors
   negotiation where
 route route:=(h.route route).trans or_comm
 routes_nodup:=h.routes_nodup
 routes_sorted:=h.routes_sorted
 serializer serializer:=by
  rw [h.serializer]
  constructor
  · rintro ⟨first,hfirst,second,hsecond,hid,hid',hminor⟩
    exact ⟨second,hsecond,first,hfirst,hid',hid,by rw [hminor,Nat.min_comm]⟩
  · rintro ⟨second,hsecond,first,hfirst,hid',hid,hminor⟩
    exact ⟨first,hfirst,second,hsecond,hid,hid',by rw [hminor,Nat.min_comm]⟩
 serializers_sorted:=h.serializers_sorted

lemma Negotiates.perm
  (hfirst:firstDescriptors.Perm firstOthers) (hsecond:secondDescriptors.Perm secondOthers):
  Negotiates firstOriginUid secondOriginUid firstOthers secondOthers negotiation where
 route route:=by
  rw [h.route,RouteBetween.perm hfirst hsecond,RouteBetween.perm hsecond hfirst]
 routes_nodup:=h.routes_nodup
 routes_sorted:=h.routes_sorted
 serializer serializer:=by
  simp only [h.serializer,MinorOf,hfirst.mem_iff,hsecond.mem_iff]
 serializers_sorted:=h.serializers_sorted

/-- A negotiation is determined by its specification: both lists are sorted without
 repetition, and their elements are given. -/
lemma Negotiates.unique {other:SerializerNegotiation}
  (h':Negotiates firstOriginUid secondOriginUid firstDescriptors secondDescriptors other):
  negotiation=other:=by
 have hserializers:negotiation.serializers=other.serializers:=by
  have hsorted:=List.pairwise_map.mp h.serializers_sorted
  have hsorted':=List.pairwise_map.mp h'.serializers_sorted
  refine List.Perm.eq_of_pairwise (fun a b _ _ hab hba=>by omega) hsorted hsorted' ?_
  refine (List.perm_ext_iff_of_nodup (hsorted.imp ?_) (hsorted'.imp ?_)).mpr fun serializer=>?_
  · rintro a _ hlt rfl
    omega
  · rintro a _ hlt rfl
    omega
  · rw [h.serializer,h'.serializer]
 have hroutes:negotiation.routes=other.routes:=by
  refine List.Perm.eq_of_pairwise' h.routes_sorted h'.routes_sorted ?_
  refine (List.perm_ext_iff_of_nodup h.routes_nodup h'.routes_nodup).mpr fun route=>?_
  rw [h.route,h'.route]
 cases negotiation
 cases other
 cases hroutes
 cases hserializers
 rfl

end

lemma negotiateSerializers_toOption_eq {firstOriginUid' secondOriginUid':UUID}
  {firstDescriptors' secondDescriptors':List SerializerDescriptor}
  (hcompatible:Compatible firstOriginUid secondOriginUid firstDescriptors secondDescriptors ↔
   Compatible firstOriginUid' secondOriginUid' firstDescriptors' secondDescriptors')
  (hnegotiates:∀negotiation,
   Negotiates firstOriginUid secondOriginUid firstDescriptors secondDescriptors negotiation →
   Negotiates firstOriginUid' secondOriginUid' firstDescriptors' secondDescriptors'
    negotiation):(negotiateSerializers firstOriginUid firstDescriptors secondOriginUid
   secondDescriptors).toOption =
  (negotiateSerializers firstOriginUid' firstDescriptors' secondOriginUid'
   secondDescriptors').toOption:=by
 cases h:negotiateSerializers firstOriginUid firstDescriptors secondOriginUid
  secondDescriptors with
 | ok negotiation=>
  obtain ⟨hfirst,hspec⟩:=negotiateSerializers_negotiates h
  obtain ⟨other,hother⟩:=negotiateSerializers_of_compatible (hcompatible.mp hfirst)
  obtain ⟨-,hspec'⟩:=negotiateSerializers_negotiates hother
  rw [hother,(hnegotiates negotiation hspec).unique hspec']
 | error error=>
  cases h':negotiateSerializers firstOriginUid' firstDescriptors' secondOriginUid'
   secondDescriptors' with
  | error error'=>rfl
  | ok other=>
   obtain ⟨hsecond,-⟩:=negotiateSerializers_negotiates h'
   obtain ⟨negotiation,hok⟩:=negotiateSerializers_of_compatible (hcompatible.mpr hsecond)
   rw [h] at hok
   cases hok

lemma negotiateSerializers_comm (firstOriginUid secondOriginUid:UUID)
  (firstDescriptors secondDescriptors:List SerializerDescriptor):
  (negotiateSerializers firstOriginUid firstDescriptors secondOriginUid
   secondDescriptors).toOption =
  (negotiateSerializers secondOriginUid secondDescriptors firstOriginUid
   firstDescriptors).toOption:=
 negotiateSerializers_toOption_eq ⟨.symm,.symm⟩ fun _=>.symm

lemma negotiateSerializers_perm (firstOriginUid secondOriginUid:UUID)
  (hfirst:firstDescriptors.Perm firstOthers) (hsecond:secondDescriptors.Perm secondOthers):
  (negotiateSerializers firstOriginUid firstDescriptors secondOriginUid
   secondDescriptors).toOption =
  (negotiateSerializers firstOriginUid firstOthers secondOriginUid secondOthers).toOption:=
 negotiateSerializers_toOption_eq
  ⟨fun h=>h.perm hfirst hsecond,fun h=>h.perm hfirst.symm hsecond.symm⟩
  fun _ h=>h.perm hfirst hsecond

lemma SerializerRegistry.deserialize_reaches_codec {T:Type} (registry:SerializerRegistry T)
  {serializerId minor:ℕ} (hregistered:findId registry.descriptors serializerId=some descriptor)
  (hreadable:manifest∈descriptor.readableManifests)
  (hminor:minor≤descriptor.protocolMinor) (reads:Bool):
  registry.deserialize serializerId manifest (some minor) reads =
   if reads then .value else .rejected .malformedPayload:=by
 unfold SerializerRegistry.deserialize SerializerRegistry.registration
 rw [hregistered]
 dsimp only
 rw [if_neg (not_not.mpr hreadable),if_neg (Nat.not_lt.mpr hminor)]

end

end Movie.Serialization
