import Movie.WireRoundTrip

/-!
# What is decoded is encoded as it was

The decoder accepts the manifests of a descriptor in any order and the encoder writes them sorted.
-/
namespace Movie.WireCanonicity

open BigEndian Checked Codec DurableModel Wire WireFrames WireCodec WireFraming WireRoundTrip
 Serialization

variable {nfc:String → Bool} {maximumFrameBytes:ℕ} {streamKind:Option StreamKind}
 {data:List UInt8}

section

def sorted (listing:SerializerListing):SerializerListing:=
 { listing with
   readable:=listing.readable.insertionSort utf8Le
   writable:=listing.writable.insertionSort utf8Le }

lemma frozenset_of_nodup {texts:List String} (h:texts.Nodup):
  frozenset texts=texts.insertionSort utf8Le:=by
 rw [frozenset,h.dedup]

lemma listingOf_described {listing:SerializerListing} {descriptor:SerializerDescriptor}
  (h:describe nfc listing=.ok descriptor):listingOf descriptor=sorted listing:=by
 obtain ⟨⟨hreadable,hwritable⟩,hcreate⟩:=describe_eq_ok.mp h
 obtain ⟨-,hid,hname,hmajor,hminor,hreadable',hwritable'⟩:=
  SerializerDescriptor.create_eq_ok.mp hcreate
 rw [listingOf,descriptor.readable_canonical.insertionSort_eq,
  descriptor.writable_canonical.insertionSort_eq,hid,hname,hmajor,hminor,hreadable',
  hwritable',frozenset_of_nodup hreadable,frozenset_of_nodup hwritable]
 rfl

lemma map_listingOf_described {listings:List SerializerListing}
  {descriptors:List SerializerDescriptor} (h:Described nfc listings descriptors):
  descriptors.map listingOf=listings.map sorted:=by
 induction h with
 | nil=>rfl
 | cons hdescribe _ ih=>rw [List.map_cons,List.map_cons,listingOf_described hdescribe,ih]

lemma writeManifests_sorted (count field:String) (manifests:List String):
  SameSize (writeManifests nfc count field manifests)
   (writeManifests nfc count field (manifests.insertionSort utf8Le)):=by
 unfold writeManifests writeCounted
 rw [(List.perm_insertionSort utf8Le manifests).length_eq]
 exact .cons (.refl _) (.perm ((List.perm_insertionSort utf8Le manifests).symm.map _))

lemma writeListing_sorted (listing:SerializerListing):
  SameSize (writeListing nfc listing) (writeListing nfc (sorted listing)):=
 .cons (.refl _) (.cons (.refl _) (.cons (.refl _) (.cons (.refl _)
  (.cons (writeManifests_sorted _ _ _) (.cons (writeManifests_sorted _ _ _) (.refl _))))))

lemma repeats_sorted (listings:List SerializerListing):
  Repeats (listingFormat nfc) (listings.map sorted) ↔ Repeats (listingFormat nfc) listings:=by
 unfold Repeats
 rw [List.map_map,List.map_map]
 exact Iff.rfl

lemma writeHello_sorted (frame:Hello) (listings:List SerializerListing):
  SameSize (writeHello nfc (listingFormat nfc) (HelloWith.withSerializers frame listings))
   (writeHello nfc (listingFormat nfc)
    (HelloWith.withSerializers frame (listings.map sorted))):=by
 rw [writeHello_eq,writeHello_eq]
 refine .append _ ?_
 unfold serializerParts writeCounted
 rw [check_congr _ (repeats_sorted listings),List.length_map]
 exact .cons (.refl _) (.cons (.refl _) (.cons (.cons (.refl _) (.map writeListing_sorted listings))
  (.refl _)))

variable {frame:ControlFrame SerializerDescriptor} {listing:ControlFrame SerializerListing}

lemma encodeBody_sorted (h:Describes nfc listing frame):
  SameSize (encodeBody nfc (listingFormat nfc) listing)
   (encodeBody nfc (listingFormat nfc) (listed frame)):=by
 cases frame with
 | hello frame=>
  obtain ⟨listings,rfl,hall⟩:=h
  rw [listed,map_listingOf_described hall]
  exact writeHello_sorted frame listings
 | _=>
  rw [h]
  exact .refl _

lemma describes_frameType (h:Describes nfc listing frame):
  listing.frameType=frame.frameType ∧ listing.correlationId=frame.correlationId:=by
 cases frame with
 | hello frame=>
  obtain ⟨listings,rfl,-⟩:=h
  exact ⟨rfl,rfl⟩
 | _=>
  rw [h]
  exact ⟨rfl,rfl⟩

lemma encodeFrame_sorted (hdescribes:Describes nfc listing frame):SameSize
   (encodeFrame nfc (listingFormat nfc) (.control listing) maximumFrameBytes streamKind)
   (encodeFrame nfc (listingFormat nfc) (.control (listed frame)) maximumFrameBytes
    streamKind):=by
 intro bytes h
 obtain ⟨hstream,body,hbody,hok,rfl⟩:=encodeFrame_control_eq_ok.mp h
 obtain ⟨other,hother,hlength⟩:=encodeBody_sorted hdescribes body hbody
 obtain ⟨htype,hcorrelation⟩:=describes_frameType hdescribes
 rw [htype] at hstream hok
 rw [hcorrelation,←hlength] at hok
 rw [←listed_frameType] at hstream hok
 rw [←listed_correlationId] at hok
 refine ⟨_,encodeFrame_control_eq_ok.mpr ⟨hstream,other,hother,hok,rfl⟩,?_⟩
 rw [List.length_append,List.length_append,headerBytes_length,headerBytes_length,hlength]

end

section

/-- A `HELLO` that lists the manifests of some serializer in another order than that of their
 bytes. -/
def ListsUnsorted (nfc:String → Bool) (data:List UInt8) (maximumFrameBytes:ℕ)
  (streamKind:Option StreamKind):Prop:=
 ∃hello,WireFrames.decodeFrame nfc (listingFormat nfc) data maximumFrameBytes streamKind =
  .ok (.control (.hello hello)) ∧
  ∃listing∈hello.serializers,
   ¬(listing.readable.Pairwise utf8Le ∧ listing.writable.Pairwise utf8Le)

lemma sorted_eq_self {listing:SerializerListing}:sorted listing=listing ↔
   listing.readable.Pairwise utf8Le ∧ listing.writable.Pairwise utf8Le:=by
 have hsorted (texts:List String):
  texts.insertionSort utf8Le=texts ↔ texts.Pairwise utf8Le:=by
  refine ⟨fun h=>?_,fun h=>h.insertionSort_eq⟩
  rw [←h]
  exact List.pairwise_insertionSort utf8Le texts
 cases listing
 simp only [sorted,SerializerListing.mk.injEq,true_and,hsorted]

lemma map_sorted_eq_self {listings:List SerializerListing}:
  listings.map sorted=listings ↔ ∀listing∈listings,
   listing.readable.Pairwise utf8Le ∧ listing.writable.Pairwise utf8Le:=by
 have hid:listings.map sorted=listings ↔ listings.map sorted=listings.map id:=by
  rw [List.map_id]
 rw [hid,List.map_inj_left]
 exact forall_congr' fun listing=>imp_congr_right fun _=>sorted_eq_self

lemma listed_eq_iff {listing:ControlFrame SerializerListing}
  {frame:ControlFrame SerializerDescriptor} (hdescribes:Describes nfc listing frame)
  (h:WireFrames.decodeFrame nfc (listingFormat nfc) data maximumFrameBytes streamKind =
   .ok (.control listing)):
  listed frame=listing ↔ ¬ListsUnsorted nfc data maximumFrameBytes streamKind:=by
 unfold ListsUnsorted
 rw [h]
 cases frame with
 | hello frame=>
  obtain ⟨listings,rfl,hall⟩:=hdescribes
  have hlisted:listed (.hello frame)=.hello (HelloWith.withSerializers frame listings) ↔
   listings.map sorted=listings:=by
   rw [listed,map_listingOf_described hall]
   constructor
   · intro heq
     injection heq with heq
     exact congrArg HelloWith.serializers heq
   · intro heq
     rw [heq]
  rw [hlisted,map_sorted_eq_self]
  constructor
  · rintro hsorted ⟨_,heq,listing,hmem,hunsorted⟩
    cases heq
    exact hunsorted (hsorted listing hmem)
  · intro hnone listing hmem
    by_contra hunsorted
    exact hnone ⟨_,rfl,listing,hmem,hunsorted⟩
 | _=>
  rw [hdescribes]
  refine iff_of_true rfl ?_
  rintro ⟨_,heq,-⟩
  cases heq

variable {frame:Frame (ControlFrame SerializerDescriptor)}

lemma encodeFrame_of_decodeFrame
  (h:WireFrames.decodeFrame nfc (descriptorFormat nfc) data maximumFrameBytes streamKind =
   .ok frame):∃bytes,encodeFrame nfc (descriptorFormat nfc) frame maximumFrameBytes streamKind =
   .ok bytes ∧ bytes.length=data.length ∧
   (bytes=data ↔ ¬ListsUnsorted nfc data maximumFrameBytes streamKind):=by
 cases frame with
 | userMessage message=>
  have hmessage:=decodeFrame_userMessage_iff.mp h
  refine ⟨data,?_,rfl,iff_of_true rfl ?_⟩
  · rw [encodeFrame,bind_of_ok hmessage.1]
    exact hmessage.2
  · rintro ⟨hello,hhello,-⟩
    cases hhello.symm.trans (decodeFrame_userMessage_iff.mpr hmessage)
 | control frame=>
  obtain ⟨listing,hlisting,hdescribes⟩:=decodeFrame_described.mp h
  have hencoded:=(decodeFrame_iff_encodeFrame listing_codes).mp hlisting
  obtain ⟨bytes,hbytes,hlength⟩:=encodeFrame_sorted hdescribes data hencoded
  refine ⟨bytes,(encodeFrame_listed frame).symm.trans hbytes,hlength,?_⟩
  rw [←listed_eq_iff hdescribes hlisting]
  constructor
  · rintro rfl
    have hdecoded:=(decodeFrame_iff_encodeFrame listing_codes).mpr hbytes
    cases hdecoded.symm.trans hlisting
    rfl
  · intro heq
    rw [heq,hencoded] at hbytes
    exact (Except.ok.inj hbytes).symm

lemma encodeFrame_unique {D:Type} {entry:EntryFormat D} {frame:Frame (ControlFrame D)}
  {data':List UInt8} {maximumFrameBytes':ℕ} {streamKind':Option StreamKind}
  (h:encodeFrame nfc entry frame maximumFrameBytes streamKind=.ok data)
  (h':encodeFrame nfc entry frame maximumFrameBytes' streamKind'=.ok data'):data'=data:=by
 cases frame with
 | userMessage message=>
  obtain ⟨⟨⟩,-,h⟩:=bind_eq_ok h
  obtain ⟨⟨⟩,-,h'⟩:=bind_eq_ok h'
  rw [←(encodeUserMessageFrame_eq_ok.mp h).2,←(encodeUserMessageFrame_eq_ok.mp h').2]
 | control frame=>
  obtain ⟨-,body,hbody,-,rfl⟩:=encodeFrame_control_eq_ok.mp h
  obtain ⟨-,body',hbody',-,rfl⟩:=encodeFrame_control_eq_ok.mp h'
  rw [hbody] at hbody'
  rw [Except.ok.inj hbody']

lemma not_listsUnsorted (hframe:∀hello,frame≠.control (.hello hello))
  (h:WireFrames.decodeFrame nfc (descriptorFormat nfc) data maximumFrameBytes streamKind =
   .ok frame):¬ListsUnsorted nfc data maximumFrameBytes streamKind:=by
 rintro ⟨hello,hhello,-⟩
 cases frame with
 | userMessage message=>
  cases hhello.symm.trans (decodeFrame_userMessage_iff.mpr (decodeFrame_userMessage_iff.mp h))
 | control frame=>
  obtain ⟨listing,hlisting,hdescribes⟩:=decodeFrame_described.mp h
  cases hhello.symm.trans hlisting
  cases frame with
  | hello frame=>exact hframe frame rfl
  | _=>cases hdescribes

/-- A decoded frame is encoded again, in as many bytes and as a frame that is decoded alike.
 These are the bytes it was decoded from, but for a `HELLO` with manifests out of order. -/
theorem wire_canonicity
  (h:WireFrames.decodeFrame nfc (descriptorFormat nfc) data maximumFrameBytes streamKind =
   .ok frame):
  (∃bytes,encodeFrame nfc (descriptorFormat nfc) frame maximumFrameBytes streamKind =
   .ok bytes ∧ bytes.length=data.length ∧
   WireFrames.decodeFrame nfc (descriptorFormat nfc) bytes maximumFrameBytes streamKind =
    .ok frame ∧
   (bytes=data ↔ ¬ListsUnsorted nfc data maximumFrameBytes streamKind)) ∧
  ((∀hello,frame≠.control (.hello hello)) → ∀data' maximumFrameBytes' streamKind',
   WireFrames.decodeFrame nfc (descriptorFormat nfc) data' maximumFrameBytes' streamKind' =
    .ok frame → data'=data):=by
 obtain ⟨bytes,hbytes,hlength,hsame⟩:=encodeFrame_of_decodeFrame h
 refine ⟨⟨bytes,hbytes,hlength,decodeFrame_of_encodeFrame hbytes,hsame⟩,?_⟩
 intro hframe data' maximumFrameBytes' streamKind' h'
 obtain ⟨bytes',hbytes',-,hsame'⟩:=encodeFrame_of_decodeFrame h'
 rw [←hsame.mpr (not_listsUnsorted hframe h),←hsame'.mpr (not_listsUnsorted hframe h')]
 exact encodeFrame_unique hbytes hbytes'

def unsortedOrders : SerializerListing:=⟨5, "orders",1,0,["receipt", "order"],["order"]⟩

/-- A `HELLO` that lists manifests unsorted is accepted and encoded otherwise. -/
theorem wire_canonicity_unsortedOrders :
  ∃data bytes,WireFrames.decodeFrame (fun _=>true) (descriptorFormat fun _=>true) data 4096
   none=.ok (.control (.hello ordersHello)) ∧
   encodeFrame (fun _=>true) (descriptorFormat fun _=>true) (.control (.hello ordersHello))
    4096 none=.ok bytes ∧ bytes.length=data.length ∧ bytes≠data:=by
 have hsize:(encodeFrame (fun _=>true) (listingFormat fun _=>true)
  (.control (.hello (HelloWith.withSerializers ordersHello [unsortedOrders]))) 4096
  none).toOption.map List.length=some 157:=by decide +kernel
 obtain ⟨data,hdata,-⟩:=Option.map_eq_some_iff.mp hsize
 have hlisting:=(decodeFrame_iff_encodeFrame listing_codes).mpr (toOption_eq_some.mp hdata)
 have hdescribes:Describes (fun _=>true)
  (.hello (HelloWith.withSerializers ordersHello [unsortedOrders])) (.hello ordersHello):=
  ⟨[unsortedOrders],rfl,.cons rfl .nil⟩
 have hdecoded:=decodeFrame_described.mpr ⟨_,hlisting,hdescribes⟩
 obtain ⟨⟨bytes,hbytes,hlength,-,hsame⟩,-⟩:=wire_canonicity hdecoded
 refine ⟨data,bytes,hdecoded,hbytes,hlength,fun heq=>hsame.mp heq ?_⟩
 refine ⟨_,hlisting,unsortedOrders,List.mem_singleton.mpr rfl,fun h=>?_⟩
 exact absurd h.1 (by decide)

end

end Movie.WireCanonicity
