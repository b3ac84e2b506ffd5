import Movie.TransportDelivery
import Movie.WireRoundTrip

/-!
# Frames over a connection

An association encodes each frame for the stream of its channel, and the peer decodes what its
reader has cut out of the multiplexed stream.
-/
namespace Movie.WireTransport

open AsyncioTcp BigEndian Checked Framing Handshake Reachability Serialization Wire WireFrames
 WireFraming WireRoundTrip TransportDelivery AssociationReceive

variable {nfc:String → Bool} {frame:Frame (ControlFrame SerializerDescriptor)}
 {maximumFrameBytes:ℕ} {streamKind:Option StreamKind} {data:List UInt8}

lemma framed_of_length {value:ℕ} {widths values:List ℕ} {rest:List UInt8}
  (hlength:(pack (4::widths) (value::values)++rest).length=value+4)
  (hheader:commonHeaderSize ≤ value+4) (hfits:value+4 ≤ maxU32):
  Framed declaredLength commonHeaderSize (pack (4::widths) (value::values)++rest):=by
 unfold maxU32 at hfits
 refine ⟨hlength▸hheader,?_⟩
 rw [hlength,declaredLength,pack,List.append_assoc,List.take_left' (toBytes_length _ _),
  ofBytes_toBytes _ _ (by omega)]

lemma encodeFrame_framed
  (h:encodeFrame nfc (descriptorFormat nfc) frame maximumFrameBytes streamKind=.ok data):
  Framed declaredLength commonHeaderSize data:=by
 cases frame with
 | userMessage message=>
  obtain ⟨⟨⟩,-,h⟩:=bind_eq_ok h
  obtain ⟨hencodable,rfl⟩:=encodeUserMessageFrame_eq_ok.mp h
  have hlength:=userMessageBytes_length message
  have hprefix:commonHeaderSize ≤ userMessagePrefixSize:=by decide
  have htotal:=hencodable.total.trans hencodable.maximum.2
  have hfour:4 ≤ commonHeaderSize:=by decide
  rw [userMessageBytes] at hlength ⊢
  refine framed_of_length (hlength.trans ?_) ?_ ?_ <;> omega
 | control frame=>
  obtain ⟨-,body,-,hok,rfl⟩:=encodeFrame_control_eq_ok.mp h
  have htotal:=hok.total.trans ((limitOf_le _ _).trans hok.maximum.2)
  have hsize:headerAfterLengthSize+4=commonHeaderSize:=rfl
  have hlength:=congrArg (·+body.length)
   (headerBytes_length frame.frameType body.length frame.correlationId)
  rw [←List.length_append] at hlength
  rw [headerBytes] at hlength ⊢
  refine framed_of_length (hlength.trans ?_) ?_ ?_ <;> omega

lemma encodeFrame_multiplexed
  (h:encodeFrame nfc (descriptorFormat nfc) frame maximumFrameBytes streamKind=.ok data):
  encodeFrame nfc (descriptorFormat nfc) frame maximumFrameBytes (some .multiplexed)=.ok data:=by
 cases frame with
 | userMessage message=>
  obtain ⟨⟨⟩,-,h⟩:=bind_eq_ok h
  exact h
 | control frame=>
  obtain ⟨-,hrest⟩:=encodeFrame_control_eq_ok.mp h
  exact encodeFrame_control_eq_ok.mpr ⟨rfl,hrest⟩

/-- The frames that the peer decodes are those that were sent first, on every channel in the order
 in which they were admitted. -/
theorem frames_delivered (nfc:String → Bool) (maximumFrameBytes:ℕ) {s:Stream}
  (h:streamSystem.Reachable s) (frameOf:Entry → Frame (ControlFrame SerializerDescriptor))
  (hencoded:∀entry∈s.admitted,encodeFrame nfc (descriptorFormat nfc) (frameOf entry)
   maximumFrameBytes (some entry.record.channel.kind)=.ok entry.record.payload):
  ∃arrived,arrived <+:s.transmitted ∧
   s.enqueued.map (fun record=>WireFrames.decodeFrame nfc (descriptorFormat nfc) record.payload
    maximumFrameBytes (some record.channel.kind))=arrived.map (fun entry=>.ok (frameOf entry)) ∧
   ∀channel,onChannel channel arrived <+:onChannel channel s.admitted:=by
 have haccounted:=reachable_accounted h
 obtain ⟨arrived,harrived,henqueued⟩:=
  arrived_prefix h fun entry hmem=>encodeFrame_framed (hencoded entry hmem)
 refine ⟨arrived,harrived,?_,fun channel=>(harrived.filter _).trans (haccounted.sent channel)⟩
 rw [henqueued,payloads,List.map_map,List.map_map,List.map_inj_left]
 intro entry hmem
 have hadmitted:=haccounted.transmitted_admitted (harrived.subset hmem)
 exact decodeFrame_of_encodeFrame (encodeFrame_multiplexed (hencoded entry hadmitted))

def greeting : Frame (ControlFrame SerializerDescriptor):=
 .userMessage ⟨toUUID 1,0,0,toUUID 2,toUUID 3,toUUID 4,1, "m",[7],0⟩

def bye : Frame (ControlFrame SerializerDescriptor):=.control (.goAway ⟨.normalShutdown, "bye",0⟩)

def encoded (frame:Frame (ControlFrame SerializerDescriptor)):List UInt8:=
 (encodeFrame (fun _=>true) (descriptorFormat fun _=>true) frame 128 none).toOption.getD []

def twoRecords : List TransportRecord:=
 [⟨⟨.deliveryLane,0⟩,encoded greeting⟩,⟨⟨.control,controlLaneId⟩,encoded bye⟩]

def bothSent : List StreamEvent:=
 twoRecords.map (.sendActive · true)++[.collect,.transfer 125,.waitForActivation,
  .receiveChunk 16,.reserve,.receiveChunk 86,.finishBody,.waitForActivation,
  .receiveChunk 16,.reserve,.receiveChunk 7,.finishBody]

def wide : TransportLimits:=⟨128,8,512,8,512⟩

theorem frames_delivered_bye : ∃s,streamSystem.Reachable s ∧
  s.admitted=twoRecords.map plain ∧
  s.enqueued.map (fun record=>WireFrames.decodeFrame (fun _=>true) (descriptorFormat fun _=>true)
   record.payload 128 (some record.channel.kind))=[.ok greeting,.ok bye]:=by
 have hplayed:((bothSent.foldlM Stream.step (Stream.create wide wide)).map fun s=>
  (s.enqueued.length,s.admitted,s.transmitted)) =
   some (2,twoRecords.map plain,twoRecords.map plain):=by decide +kernel
 obtain ⟨s,hs,hfacts⟩:=Option.map_eq_some_iff.mp hplayed
 simp only [Prod.mk.injEq] at hfacts
 obtain ⟨htwo,hadmitted,hsent⟩:=hfacts
 have hreachable:streamSystem.Reachable s:=
  System.Reachable.play (fun _ _ _ hstep=>hstep) bothSent (.start ⟨wide,wide,rfl⟩) hs
 obtain ⟨arrived,harrived,hdecoded,-⟩:=frames_delivered (fun _=>true) 128 hreachable
  (fun entry=>if entry.record.channel.kind=.control then bye else greeting) fun entry hmem=>by
   rw [hadmitted] at hmem
   revert entry
   decide +kernel
 have hlength:=congrArg List.length hdecoded
 rw [List.length_map,List.length_map,htwo] at hlength
 rw [hsent] at harrived
 obtain rfl:=harrived.eq_of_length hlength.symm
 exact ⟨s,hreachable,hadmitted,hdecoded⟩

end Movie.WireTransport
