import Movie.AsyncioTcp
import Movie.Framing

/-!
# What the reader of the peer enqueues

The sender's queues keep the order of admission on each channel, and its terminal record waits until
they are empty. The reader cuts the bytes at the same places.
-/
namespace Movie.TransportDelivery

open AssociationReceive AsyncioTcp BigEndian Checked Framing Handshake Reachability RoundRobin Wire

variable {c d:Connection} {s t:Stream}

def onChannel (channel:LogicalChannel) (entries:List Entry):List Entry:=
 entries.filter fun entry=>entry.record.channel=channel

def plain (record:TransportRecord):Entry:=⟨record,false⟩

lemma onChannel_append (channel:LogicalChannel) (first second:List Entry):
  onChannel channel (first++second)=onChannel channel first++onChannel channel second:=
 List.filter_append _ _

variable {entry:Entry} {loopAvailable:Bool} {count maximumRecordBytes consumed size:ℕ}
  {writer:WriterTask} {entries:List Entry}

lemma mem_onChannel {channel:LogicalChannel}:
  entry∈onChannel channel entries ↔ entry∈entries ∧ entry.record.channel=channel:=by
 rw [onChannel,List.mem_filter,decide_eq_true_iff]

lemma onChannel_cons (channel:LogicalChannel) (entry:Entry) (entries:List Entry):
  onChannel channel (entry::entries) =
   (if entry.record.channel=channel then [entry] else [])++onChannel channel entries:=by
 simp only [onChannel,List.filter_cons,decide_eq_true_eq]
 split_ifs <;> rfl

section

inductive Admits (c:Connection):Entry → Connection → Prop where
 | queued (record:TransportRecord) {d:Connection} (hopen:c.state≠.closed)
  (hterminal:c.terminalOutboundRecord=none) (hstate:d.state=c.state)
  (hqueues:d.outbound=push c.outbound record.channel record)
  (hrecord:d.terminalOutboundRecord=none):Admits c (plain record) d
 | terminal (record:TransportRecord) {d:Connection} (hopen:c.state≠.closed)
  (hterminal:c.terminalOutboundRecord=none) (hstate:d.state=c.state)
  (hqueues:d.outbound=c.outbound)
  (hrecord:d.terminalOutboundRecord=some record)
  (hpending:d.terminalOutboundPending=true):Admits c ⟨record,true⟩ d

lemma wakeWriterIf_cases {needed:Prop} [Decidable needed]
  (h:c.wakeWriterIf needed loopAvailable=.ok d):
  d=c ∨ d={ c with writerWakeScheduled:=true }:=by
 unfold Connection.wakeWriterIf Connection.wakeWriter at h
 split_ifs at h <;> cases h
 · exact .inl rfl
 · exact .inr rfl
 · exact .inl rfl

variable {record:TransportRecord}

lemma enqueueOutbound_admits (hopen:c.state≠.closed) (hterminal:c.terminalOutboundRecord=none)
  (h:c.enqueueOutbound record loopAvailable=.ok d):Admits c (plain record) d:=by
 obtain ⟨woken,hwoken,h⟩:=bind_eq_ok h
 cases h
 rcases wakeWriterIf_cases hwoken with rfl|rfl
 · exact .queued record hopen hterminal rfl rfl hterminal
 · exact .queued record hopen hterminal rfl rfl hterminal

lemma send_admits
  (h:c.send record maximumRecordBytes loopAvailable=.ok d):Admits c (plain record) d:=by
 obtain ⟨_,-,h⟩:=bind_eq_ok h
 obtain ⟨hopen,h⟩:=bind_reject_eq_ok.mp h
 obtain ⟨hterminal,h⟩:=bind_reject_eq_ok.mp h
 obtain ⟨_,-,h⟩:=bind_eq_ok h
 obtain ⟨-,h⟩:=bind_reject_eq_ok.mp h
 exact enqueueOutbound_admits hopen (not_not.mp hterminal) h

lemma sendUnvalidated_admits {messageLimit byteLimit:ℕ}
  (h:c.sendUnvalidated record messageLimit byteLimit loopAvailable=.ok d):
  Admits c (plain record) d:=by
 obtain ⟨hopen,h⟩:=bind_reject_eq_ok.mp h
 obtain ⟨hterminal,h⟩:=bind_reject_eq_ok.mp h
 obtain ⟨-,h⟩:=bind_reject_eq_ok.mp h
 obtain ⟨-,h⟩:=bind_reject_eq_ok.mp h
 exact enqueueOutbound_admits hopen (not_not.mp hterminal) h

lemma sendTerminal_admits (h:c.sendTerminal record maximumRecordBytes loopAvailable=.ok d):
  Admits c ⟨record,true⟩ d:=by
 obtain ⟨_,-,h⟩:=bind_eq_ok h
 obtain ⟨hopen,h⟩:=bind_reject_eq_ok.mp h
 obtain ⟨hterminal,h⟩:=bind_reject_eq_ok.mp h
 obtain ⟨_,-,h⟩:=bind_eq_ok h
 obtain ⟨woken,hwoken,h⟩:=bind_eq_ok h
 cases h
 rcases wakeWriterIf_cases hwoken with rfl|rfl
 · exact .terminal record hopen (not_not.mp hterminal) rfl rfl rfl rfl
 · exact .terminal record hopen (not_not.mp hterminal) rfl rfl rfl rfl

end

section

def Routed (queues:Queues LogicalChannel TransportRecord):Prop:=
 ∀channel,∀record∈queues.queue channel,record.channel=channel

def pendingTerminal (c:Connection):List Entry:=
 if c.terminalOutboundPending then c.terminalOutboundRecord.toList.map fun record=>⟨record,true⟩
 else []

def waiting (c:Connection) (channel:LogicalChannel):List Entry:=
 (c.outbound.queue channel).map plain++onChannel channel (pendingTerminal c)

lemma routed_empty : Routed (RoundRobin.empty LogicalChannel TransportRecord):=by
 intro channel record hmem
 cases hmem

lemma Routed.push {queues:Queues LogicalChannel TransportRecord} (h:Routed queues)
  (record:TransportRecord):Routed (push queues record.channel record):=by
 intro channel other hmem
 rw [push_queue] at hmem
 split_ifs at hmem with heq
 · rcases List.mem_append.mp hmem with hold|hnew
   · exact (h _ _ hold).trans heq.symm
   · rw [List.mem_singleton.mp hnew,heq]
 · exact h _ _ hmem

/-- `taken` comes from the fronts of the queues, and `rest` is left. -/
structure Drawn (queues:Queues LogicalChannel TransportRecord) (taken:List TransportRecord)
  (rest:Queues LogicalChannel TransportRecord):Prop where
 routed:Routed rest
 split:∀channel,(queues.queue channel).map plain =
  onChannel channel (taken.map plain)++(rest.queue channel).map plain

section

variable {queues popped rest:Queues LogicalChannel TransportRecord} {record:TransportRecord}
 {taken:List TransportRecord}

lemma Drawn.nothing (h:Routed queues):Drawn queues [] queues:=⟨h,fun _=>rfl⟩

lemma Routed.pop (h:Routed queues) (hpop:pop queues=some (record,popped)):
  Routed popped ∧ ∀channel,queues.queue channel =
   (if record.channel=channel then [record] else [])++popped.queue channel:=by
 obtain ⟨key,hqueue,hothers⟩:=pop_eq_some hpop
 have hkey:record.channel=key:=h key record (hqueue▸List.mem_cons_self)
 subst hkey
 have hsplit:∀channel,queues.queue channel =
  (if record.channel=channel then [record] else [])++popped.queue channel:=by
  intro channel
  split_ifs with heq
  · rw [←heq,hqueue,List.singleton_append]
  · rw [hothers channel (Ne.symm heq),List.nil_append]
 refine ⟨fun channel other hmem=>h channel other ?_,hsplit⟩
 rw [hsplit]
 exact List.mem_append_right _ hmem

lemma Drawn.pop (h:Routed queues) (hpop:pop queues=some (record,popped))
  (hrest:Drawn popped taken rest):Drawn queues (record::taken) rest:=by
 refine ⟨hrest.routed,fun channel=>?_⟩
 rw [(h.pop hpop).2,List.map_append,hrest.split,List.map_cons,onChannel_cons,
  List.append_assoc]
 change _=(if record.channel=channel then [plain record] else [])++_
 split_ifs <;> rfl

lemma fill_spec (slots:ℕ) (records:List TransportRecord) (batchBytes:ℕ)
  (h:Routed queues):∃taken,(fill slots records batchBytes queues).1=records++taken ∧
   Drawn queues taken (fill slots records batchBytes queues).2.2:=by
 induction slots generalizing records batchBytes queues with
 | zero=>exact ⟨[],(List.append_nil _).symm,.nothing h⟩
 | succ slots ih=>
  rw [fill]
  cases hpop:RoundRobin.pop queues with
  | none=>exact ⟨[],(List.append_nil _).symm,.nothing h⟩
  | some result=>
   obtain ⟨record,popped⟩:=result
   dsimp only
   split_ifs with hfull
   · exact ⟨[],(List.append_nil _).symm,.nothing h⟩
   · obtain ⟨taken,hrecords,hdrawn⟩:=ih (records++[record])
      (batchBytes+record.payload.length) (h.pop hpop).1
     refine ⟨record::taken,?_,hdrawn.pop h hpop⟩
     rw [hrecords,List.append_assoc,List.singleton_append]

end

structure Collected (c:Connection) (entries:List Entry) (d:Connection):Prop where
 state:d.state=c.state
 record:d.terminalOutboundRecord=c.terminalOutboundRecord
 routed:Routed d.outbound
 split:∀channel,waiting c channel=onChannel channel entries++waiting d channel
 last:entries.Pairwise fun entry _=>entry.terminal=false
 complete:(∃entry∈entries,entry.terminal=true) → ∀channel,waiting d channel=[]

lemma plain_not_terminal {records:List TransportRecord}
  (h:entry∈records.map plain):entry.terminal=false:=by
 obtain ⟨record,-,rfl⟩:=List.mem_map.mp h
 rfl

lemma pairwise_of_forall (h:∀entry∈entries,entry.terminal=false):
  entries.Pairwise fun entry _=>entry.terminal=false:=
 List.pairwise_of_forall_mem_list fun entry hmem _ _=>h entry hmem

lemma pendingTerminal_of_none (h:c.terminalOutboundRecord=none):pendingTerminal c=[]:=by
 unfold pendingTerminal
 rw [h]
 split_ifs <;> rfl

lemma collected_plain {taken:List TransportRecord}
  {rest:Queues LogicalChannel TransportRecord} (h:Drawn c.outbound taken rest):
  Collected c (taken.map plain) { c with outbound:=rest } where
 state:=rfl
 record:=rfl
 routed:=h.routed
 split channel:=by
  unfold waiting
  rw [h.split,List.append_assoc]
  rfl
 last:=pairwise_of_forall fun _=>plain_not_terminal
 complete:=by
  rintro ⟨entry,hmem,hterminal⟩
  rw [plain_not_terminal hmem] at hterminal
  cases hterminal

lemma collected_terminal {taken:List TransportRecord} {terminal:TransportRecord}
  {rest:Queues LogicalChannel TransportRecord} (h:Drawn c.outbound taken rest)
  (hready:rest.ready=[]) (hpending:c.terminalOutboundPending=true)
  (hrecord:c.terminalOutboundRecord=some terminal):
  Collected c (taken.map plain++[⟨terminal,true⟩])
   { c with outbound:=rest,terminalOutboundPending:=false } where
 state:=rfl
 record:=rfl
 routed:=h.routed
 split channel:=by
  have hnow:pendingTerminal c=[⟨terminal,true⟩]:=by
   unfold pendingTerminal
   rw [if_pos hpending,hrecord]
   rfl
  have hthen:waiting { c with outbound:=rest,terminalOutboundPending:=false } channel =
   (rest.queue channel).map plain:=List.append_nil _
  rw [hthen,waiting,h.split,hnow,queue_eq_nil_of_ready hready,List.map_nil,
   List.append_nil,List.append_nil,onChannel_append]
 last:=by
  exact List.pairwise_append.mpr ⟨pairwise_of_forall fun _=>plain_not_terminal,
   List.pairwise_singleton _ _,fun entry hmem _ _=>plain_not_terminal hmem⟩
 complete _ channel:=by
  change (rest.queue channel).map plain++[]=[]
  rw [queue_eq_nil_of_ready hready]
  rfl

lemma collect_spec (hrouted:Routed c.outbound):Collected c c.collect.1 c.collect.2.2:=by
 obtain ⟨taken,htaken,hdrawn⟩:=fill_spec writeBatchRecords [] 0 hrouted
 rw [List.nil_append] at htaken
 unfold Connection.collect
 rw [←htaken] at hdrawn
 dsimp only
 split
 · exact collected_plain hdrawn
 · rename_i terminal hrecord
   split_ifs with hlast
   · exact collected_terminal hdrawn hlast.1 hlast.2.1 hrecord
   · exact collected_plain hdrawn

end

section

def Keeps (c d:Connection):Prop:=
 d.state≠.closed → c.state≠.closed ∧ (Routed c.outbound → Routed d.outbound ∧
  d.terminalOutboundRecord=c.terminalOutboundRecord ∧
  ∀channel,waiting d channel=waiting c channel)

inductive Writes (s:Stream):WriterTask → List UInt8 → Prop where
 | transfer {remaining:List UInt8} {records batchBytes:ℕ} (count:ℕ)
  (hwriter:s.writer=.sending remaining records batchBytes):
  Writes s (.sending (remaining.drop count) records batchBytes)
   (s.wire++remaining.take count)
 | finish {records batchBytes:ℕ} (hwriter:s.writer=.sending [] records batchBytes):
  Writes s .idle s.wire
 | stop:Writes s .stopped s.wire

structure Chunk (s:Stream) (chunk:List UInt8) (count size:ℕ):Prop where
 eq:chunk=(s.wire.drop s.consumed).take count
 le:count ≤ size
 available:s.consumed+count ≤ s.wire.length

inductive Reads (s:Stream):ReaderTask → ℕ → List TransportRecord → Prop where
 | stay:Reads s s.reader s.consumed []
 | stop:Reads s .stopped s.consumed []
 | stopAfter {chunk:List UInt8} {count size:ℕ} (hchunk:Chunk s chunk count size):
  Reads s .stopped (s.consumed+count) []
 | start (hreader:s.reader=.waiting):Reads s (.header []) s.consumed []
 | header {data chunk:List UInt8} {count:ℕ} (hreader:s.reader=.header data)
  (hchunk:Chunk s chunk count (commonHeaderSize - data.length))
  (hlength:data.length+chunk.length<commonHeaderSize):
  Reads s (.header (data++chunk)) (s.consumed+count) []
 | parsed {data chunk:List UInt8} {count:ℕ} (hreader:s.reader=.header data)
  (hchunk:Chunk s chunk count (commonHeaderSize - data.length))
  (hlength:commonHeaderSize≤data.length+chunk.length)
  (hframe:commonHeaderSize - 4≤ofBytes ((data++chunk).take 4)):
  Reads s (.reserving (data++chunk) (ofBytes ((data++chunk).take 4)+4))
   (s.consumed+count) []
 | reserved {headerBytes:List UInt8} {totalLength:ℕ}
  (hreader:s.reader=.reserving headerBytes totalLength):
  Reads s (.body headerBytes totalLength []) s.consumed []
 | body {headerBytes data chunk:List UInt8} {totalLength count:ℕ}
  (hreader:s.reader=.body headerBytes totalLength data)
  (hchunk:Chunk s chunk count (totalLength - commonHeaderSize - data.length)):
  Reads s (.body headerBytes totalLength (data++chunk)) (s.consumed+count) []
 | enqueued {headerBytes data:List UInt8} {totalLength:ℕ}
  (hreader:s.reader=.body headerBytes totalLength data)
  (hlength:data.length=totalLength - commonHeaderSize):
  Reads s .waiting s.consumed [⟨⟨.multiplexed,controlLaneId⟩,headerBytes++data⟩]

/-- All that a step can do to a stream. -/
inductive Change (s:Stream):Stream → Prop where
 | admission {entry:Entry} {d:Connection} (h:Admits s.sender entry d):
  Change s { s with sender:=d,admitted:=s.admitted++[entry] }
 | sender {d:Connection} (h:Keeps s.sender d):Change s { s with sender:=d }
 | batch {entries:List Entry} {records batchBytes:ℕ} {d:Connection}
  (hopen:s.sender.state≠.closed) (hwriter:s.writer=.idle)
  (hentries:entries=s.sender.collect.1) (hsender:d=s.sender.collect.2.2):
  Change s { s with
   sender:=d
   writer:=.sending (entries.flatMap fun entry=>entry.record.payload) records batchBytes
   transmitted:=s.transmitted++entries }
 | writer {d:Connection} {writer:WriterTask} {wire:List UInt8} (hsender:Keeps s.sender d)
  (h:Writes s writer wire):Change s { s with sender:=d,writer:=writer,wire:=wire }
 | reader {receiver:Connection} {reader:ReaderTask} {consumed:ℕ}
  {enqueued:List TransportRecord} (h:Reads s reader consumed enqueued):
  Change s { s with
   receiver:=receiver
   reader:=reader
   consumed:=consumed
   enqueued:=s.enqueued++enqueued }

lemma Keeps.refl (c:Connection):Keeps c c:=
 fun hopen=>⟨hopen,fun hrouted=>⟨hrouted,rfl,fun _=>rfl⟩⟩

lemma markClosed_state (cause:Option TransportError):
  (c.markClosed cause).state=.closed:=by
 unfold Connection.markClosed
 by_cases hclosed:c.state=.closed
 · rw [if_pos hclosed,hclosed]
 · rw [if_neg hclosed]

lemma keeps_markClosed (cause:Option TransportError):Keeps c (c.markClosed cause):=
 fun hopen=>absurd (markClosed_state cause) hopen

lemma keeps_failRead (cause:TransportError):Keeps c (c.failRead cause):=by
 unfold Connection.failRead
 split_ifs with hclosed
 · exact .refl c
 · exact fun _=>⟨hclosed,fun hrouted=>⟨hrouted,rfl,fun _=>rfl⟩⟩

lemma keeps_activate {limits:TransportLimits} (h:c.activate limits=.ok d):Keeps c d:=by
 obtain ⟨-,h⟩:=bind_reject_eq_ok.mp h
 obtain ⟨-,h⟩:=bind_reject_eq_ok.mp h
 cases h
 exact fun hopen=>⟨hopen,fun hrouted=>⟨hrouted,rfl,fun _=>rfl⟩⟩

lemma keeps_setMaximumRecordBytes (h:c.setMaximumRecordBytes maximumRecordBytes=.ok d):Keeps c d:=by
 obtain ⟨-,h⟩:=bind_reject_eq_ok.mp h
 obtain ⟨-,h⟩:=bind_reject_eq_ok.mp h
 obtain ⟨-,h⟩:=bind_reject_eq_ok.mp h
 cases h
 exact fun hopen=>⟨hopen,fun hrouted=>⟨hrouted,rfl,fun _=>rfl⟩⟩

lemma Change.read {receiver:Connection} {reader:ReaderTask} (h:Reads s reader consumed []):
  Change s { s with receiver:=receiver,reader:=reader,consumed:=consumed }:=by
 have hchange:Change s { s with
  receiver:=receiver
  reader:=reader
  consumed:=consumed
  enqueued:=s.enqueued++[] }:=.reader h
 rwa [List.append_nil] at hchange

lemma change_admission {sender:Except TransportError Connection}
  (hadmits:∀d,sender=.ok d → Admits s.sender entry d)
  (h:s.admission sender entry=some t):Change s t:=by
 unfold Stream.admission at h
 split at h
 · cases h
 · cases h
   exact .admission (hadmits _ rfl)

lemma change_withSender {sender:Except TransportError Connection}
  (hkeeps:∀d,sender=.ok d → Keeps s.sender d) (h:s.withSender sender=some t):
  Change s t:=by
 unfold Stream.withSender at h
 split at h
 · cases h
 · cases h
   exact .sender (hkeeps _ rfl)

lemma change_withReceiver {receiver:Except TransportError Connection}
  (h:s.withReceiver receiver=some t):Change s t:=by
 unfold Stream.withReceiver at h
 split at h
 · cases h
 · cases h
   exact .read .stay

lemma change_collect (h:s.collect=some t):Change s t:=by
 unfold Stream.collect at h
 split at h
 · rename_i hwriter
   split_ifs at h with hclosed
   · cases h
     exact .writer (.refl _) .stop
   · dsimp only at h
     split_ifs at h with hempty
     · cases h
       refine .sender fun _=>⟨hclosed,fun hrouted=>?_⟩
       have hspec:=collect_spec hrouted
       refine ⟨hspec.routed,hspec.record,fun channel=>?_⟩
       have hsplit:=hspec.split channel
       rw [hempty] at hsplit
       exact hsplit.symm
     · cases h
       exact .batch hclosed hwriter rfl rfl
 · cases h

lemma change_transfer (h:s.transfer count=some t):Change s t:=by
 unfold Stream.transfer at h
 split at h
 · rename_i remaining records batchBytes hwriter
   cases h
   exact .writer (.refl _) (.transfer count hwriter)
 · cases h

lemma change_finishBatch (h:s.finishBatch=some t):Change s t:=by
 unfold Stream.finishBatch at h
 split at h
 · rename_i records batchBytes hwriter
   split_ifs at h with hclosed
   · cases h
     exact .writer (.refl _) .stop
   · cases h
     exact .writer (fun hopen=>⟨hopen,fun hrouted=>⟨hrouted,rfl,fun _=>rfl⟩⟩) (.finish hwriter)
 · cases h

lemma chunk_spec {chunk:List UInt8} (h:s.chunk count size=some chunk):
  Chunk s chunk count size:=by
 unfold Stream.chunk at h
 split_ifs at h with hcount
 cases h
 exact ⟨rfl,hcount.2.1.trans (min_le_right _ _),hcount.2.2⟩

lemma change_receiveChunk (h:s.receiveChunk count=some t):Change s t:=by
 unfold Stream.receiveChunk at h
 split at h
 · rename_i data hreader
   obtain ⟨chunk,hchunk,h⟩:=Option.bind_eq_some_iff.mp h
   have hspec:=chunk_spec hchunk
   dsimp only at h
   split_ifs at h with hclosed hlength
   · cases h
     exact .read (.stopAfter hspec)
   · cases h
     exact .read (.header hreader hspec hlength)
   · cases h
     unfold Connection.parseHeader Connection.fails
     dsimp only
     split_ifs with hframe
     · exact .read (.stopAfter hspec)
     · exact .read (.parsed hreader hspec (Nat.not_lt.mp hlength) (Nat.not_lt.mp hframe))
 · rename_i headerBytes totalLength data hreader
   obtain ⟨chunk,hchunk,h⟩:=Option.bind_eq_some_iff.mp h
   cases h
   exact .read (.body hreader (chunk_spec hchunk))
 · cases h

lemma change_waitForActivation (h:s.waitForActivation=some t):Change s t:=by
 unfold Stream.waitForActivation at h
 split at h
 · rename_i hreader
   obtain ⟨result,hresult,rfl⟩:=Option.map_eq_some_iff.mp h
   unfold Connection.waitForActivation at hresult
   split_ifs at hresult <;> cases hresult
   · exact .read .stop
   · exact .read (.start hreader)
 · cases h

lemma change_reserve (h:s.reserve=some t):Change s t:=by
 unfold Stream.reserve at h
 split at h
 · rename_i headerBytes totalLength hreader
   cases h
   unfold Connection.reserveInbound Connection.fails
   dsimp only
   split_ifs
   · exact .read .stop
   · exact .read .stop
   · exact .read .stop
   · exact .read .stop
   · exact .read (.reserved hreader)
   · exact .read (hreader▸.stay)
 · cases h

lemma change_finishBody (h:s.finishBody=some t):Change s t:=by
 unfold Stream.finishBody at h
 split at h
 · rename_i headerBytes totalLength data hreader
   split_ifs at h with hlength
   cases h
   unfold Connection.enqueueInbound Connection.fails
   dsimp only
   split_ifs
   · exact .reader .stop
   · exact .reader .stop
   · exact .reader .stop
   · exact .reader (.enqueued hreader hlength)
 · cases h

lemma step_change {event:StreamEvent} (h:s.step event=some t):Change s t:=by
 cases event with
 | send record maximumRecordBytes loopAvailable=>
  exact change_admission (fun _=>send_admits) h
 | sendPrevalidated record messageLimit byteLimit loopAvailable=>
  exact change_admission (fun _=>sendUnvalidated_admits) h
 | sendActive record loopAvailable=>exact change_admission (fun _=>sendUnvalidated_admits) h
 | sendTerminal record maximumRecordBytes loopAvailable=>
  exact change_admission (fun _=>sendTerminal_admits) h
 | collect=>exact change_collect h
 | transfer count=>exact change_transfer h
 | finishBatch=>exact change_finishBatch h
 | cancelWriter=>
  cases h
  exact .writer (.refl _) .stop
 | closeSender cause=>
  cases h
  exact .sender (keeps_markClosed cause)
 | failSender cause=>
  cases h
  exact .sender (keeps_failRead cause)
 | activateSender limits=>exact change_withSender (fun _=>keeps_activate) h
 | tightenSender maximumRecordBytes=>
  exact change_withSender (fun _=>keeps_setMaximumRecordBytes) h
 | waitForActivation=>exact change_waitForActivation h
 | receiveChunk count=>exact change_receiveChunk h
 | reserve=>exact change_reserve h
 | finishBody=>exact change_finishBody h
 | peerEOF cause | cancelReader=>
  cases h
  exact .read .stop
 | closeReceiver cause | receiveMany maxRecords=>
  cases h
  exact .read .stay
 | activateReceiver limits | tightenReceiver maximumRecordBytes=>exact change_withReceiver h

end

section

structure Waits (c:Connection) (admitted transmitted:List Entry):Prop where
 routed:Routed c.outbound
 split:∀channel,
  onChannel channel transmitted++waiting c channel=onChannel channel admitted
 unsent:c.terminalOutboundRecord=none → ∀entry∈admitted,entry.terminal=false

structure Accounted (s:Stream):Prop where
 live:s.sender.state≠.closed → Waits s.sender s.admitted s.transmitted
 sent:∀channel,onChannel channel s.transmitted <+:onChannel channel s.admitted
 admitted_last:s.admitted.Pairwise fun entry _=>entry.terminal=false
 transmitted_last:s.transmitted.Pairwise fun entry _=>entry.terminal=false
 complete:(∃entry∈s.transmitted,entry.terminal=true) →
  ∀channel,onChannel channel s.transmitted=onChannel channel s.admitted

lemma Admits.waiting (h:Admits c entry d) (channel:LogicalChannel):
  waiting d channel=waiting c channel++onChannel channel [entry]:=by
 unfold TransportDelivery.waiting
 cases h with
 | queued record _ hterminal _ hqueues hrecord=>
  rw [pendingTerminal_of_none hterminal,pendingTerminal_of_none hrecord,hqueues,push_queue,
   onChannel_cons]
  change _=_++[]++((if record.channel=channel then [plain record] else [])++[])
  rw [List.append_nil,List.append_nil]
  by_cases heq:channel=record.channel
  · rw [if_pos heq,if_pos heq.symm,List.map_append,heq]
    exact List.append_nil _
  · rw [if_neg heq,if_neg (Ne.symm heq)]
    rfl
 | terminal record _ hterminal _ hqueues hrecord hpending=>
  have hnow:pendingTerminal d=[⟨record,true⟩]:=by
   unfold pendingTerminal
   rw [if_pos hpending,hrecord]
   rfl
  rw [pendingTerminal_of_none hterminal,hqueues,hnow]
  exact congrArg (·++_) (List.append_nil _).symm

lemma Admits.routed (h:Admits c entry d) (hrouted:Routed c.outbound):Routed d.outbound:=by
 cases h with
 | queued record _ _ _ hqueues _=>
  rw [hqueues]
  exact hrouted.push record
 | terminal record _ _ _ hqueues _ _=>rwa [hqueues]

lemma Admits.before (h:Admits c entry d):
  c.state≠.closed ∧ c.terminalOutboundRecord=none:=by
 cases h with
 | queued _ hopen hterminal | terminal _ hopen hterminal=>exact ⟨hopen,hterminal⟩

lemma Admits.unsent (h:Admits c entry d)
  (hnone:d.terminalOutboundRecord=none):entry.terminal=false:=by
 cases h with
 | queued=>rfl
 | terminal record _ _ _ _ hrecord _=>
  rw [hnone] at hrecord
  cases hrecord

lemma Accounted.transmitted_admitted (h:Accounted s) (hmem:entry∈s.transmitted):entry∈s.admitted:=by
 have hchannel:=mem_onChannel.mpr ⟨hmem,rfl⟩
 exact (mem_onChannel.mp ((h.sent _).subset hchannel)).1

lemma Accounted.admission (h:Accounted s) (hadmits:Admits s.sender entry d):
  Accounted { s with sender:=d,admitted:=s.admitted++[entry] }:=by
 obtain ⟨hopen,hnone⟩:=hadmits.before
 have hwaits:=h.live hopen
 have hunsent:=hwaits.unsent hnone
 refine ⟨fun _=>⟨hadmits.routed hwaits.routed,fun channel=>?_,?_⟩,fun channel=>?_,?_,
  h.transmitted_last,?_⟩
 · rw [hadmits.waiting,←List.append_assoc,hwaits.split,←onChannel_append]
 · intro hnow other hmem
   rcases List.mem_append.mp hmem with hold|hnew
   · exact hunsent other hold
   · rw [List.mem_singleton.mp hnew]
     exact hadmits.unsent hnow
 · rw [onChannel_append]
   exact (h.sent channel).trans (List.prefix_append _ _)
 · exact List.pairwise_append.mpr ⟨h.admitted_last,List.pairwise_singleton _ _,
    fun other hmem _ _=>hunsent other hmem⟩
 · rintro ⟨other,hmem,hterminal⟩
   rw [hunsent other (h.transmitted_admitted hmem)] at hterminal
   cases hterminal

lemma Accounted.keep {wire:List UInt8} (h:Accounted s) (hkeeps:Keeps s.sender d):
  Accounted { s with sender:=d,writer:=writer,wire:=wire }:=by
 refine ⟨fun hopen=>?_,h.sent,h.admitted_last,h.transmitted_last,h.complete⟩
 obtain ⟨hbefore,hkeep⟩:=hkeeps hopen
 have hwaits:=h.live hbefore
 obtain ⟨hrouted,hrecord,hwaiting⟩:=hkeep hwaits.routed
 refine ⟨hrouted,fun channel=>?_,fun hnone=>hwaits.unsent (hrecord▸hnone)⟩
 rw [hwaiting]
 exact hwaits.split channel

lemma Accounted.batch (h:Accounted s)
  (hopen:s.sender.state≠.closed) (hbatch:Collected s.sender entries d):
  Accounted { s with sender:=d,writer:=writer,transmitted:=s.transmitted++entries }:=by
 have hwaits:=h.live hopen
 have hsplit:∀channel,onChannel channel (s.transmitted++entries)++waiting d channel =
  onChannel channel s.admitted:=by
  intro channel
  rw [onChannel_append,List.append_assoc,←hbatch.split,hwaits.split]
 have hbefore:∀entry∈s.transmitted,∀other∈entries,entry.terminal=false:=by
  intro entry hmem other hother
  by_contra hterminal
  have hall:=h.complete ⟨entry,hmem,Bool.eq_true_of_not_eq_false hterminal⟩
   other.record.channel
  have hwaiting:=hwaits.split other.record.channel
  rw [hall,List.append_right_eq_self,hbatch.split,List.append_eq_nil_iff] at hwaiting
  have hchannel:=mem_onChannel.mpr ⟨hother,rfl⟩
  rw [hwaiting.1] at hchannel
  cases hchannel
 refine ⟨fun _=>⟨hbatch.routed,hsplit,fun hnone=>hwaits.unsent (hbatch.record▸hnone)⟩,
  fun channel=>⟨_,hsplit channel⟩,h.admitted_last,
  List.pairwise_append.mpr ⟨h.transmitted_last,hbatch.last,hbefore⟩,?_⟩
 rintro ⟨entry,hmem,hterminal⟩ channel
 rcases List.mem_append.mp hmem with hold|hnew
 · cases entries with
   | nil=>
    rw [List.append_nil]
    exact h.complete ⟨entry,hold,hterminal⟩ channel
   | cons other entries=>
    rw [hbefore entry hold other List.mem_cons_self] at hterminal
    cases hterminal
 · rw [←hsplit channel,hbatch.complete ⟨entry,hnew,hterminal⟩,List.append_nil]

lemma Accounted.create (sendLimits receiveLimits:TransportLimits):
  Accounted (Stream.create sendLimits receiveLimits) where
 live _:=⟨routed_empty,fun _=>rfl,fun _ _=>nofun⟩
 sent _:=List.nil_prefix
 admitted_last:=.nil
 transmitted_last:=.nil
 complete:=by
  rintro ⟨entry,hmem,-⟩
  cases hmem

lemma Accounted.step (h:Accounted s) (hchange:Change s t):Accounted t:=by
 cases hchange with
 | admission hadmits=>exact h.admission hadmits
 | sender hkeeps | writer hkeeps _=>exact h.keep hkeeps
 | batch hopen _ hentries hsender=>
  subst hentries hsender
  exact h.batch hopen (collect_spec (h.live hopen).routed)
 | reader _=>exact ⟨h.live,h.sent,h.admitted_last,h.transmitted_last,h.complete⟩

end

section

def payloads (entries:List Entry):List (List UInt8):=
 entries.map fun entry=>entry.record.payload

def Carries (wire total:List UInt8):WriterTask → Prop
 | .idle=>wire=total
 | .sending remaining _ _=>wire++remaining=total
 | .stopped=>wire <+:total

def Carried (s:Stream):Prop:=Carries s.wire (payloads s.transmitted).flatten s.writer

lemma Carried.le (h:Carried s):s.wire <+:(payloads s.transmitted).flatten:=by
 unfold Carried at h
 cases hwriter:s.writer with
 | idle=>
  rw [hwriter] at h
  exact h▸List.prefix_rfl
 | sending remaining records batchBytes=>
  rw [hwriter] at h
  exact ⟨remaining,h⟩
 | stopped=>
  rw [hwriter] at h
  exact h

lemma Carried.batch {records batchBytes:ℕ} (h:Carried s)
  (hwriter:s.writer=.idle):Carries s.wire (payloads (s.transmitted++entries)).flatten
   (.sending (entries.flatMap fun entry=>entry.record.payload) records batchBytes):=by
 unfold Carried at h
 rw [hwriter] at h
 change s.wire++_=_
 rw [h,payloads,payloads,List.map_append,List.flatten_append,List.flatMap_def]

lemma Carried.write {wire:List UInt8} (h:Carried s) (hwrites:Writes s writer wire):
  Carries wire (payloads s.transmitted).flatten writer:=by
 cases hwrites with
 | transfer count hwriter=>
  unfold Carried at h
  rw [hwriter] at h
  change s.wire++_++_=_
  rw [List.append_assoc,List.take_append_drop]
  exact h
 | finish hwriter=>
  unfold Carried at h
  rw [hwriter] at h
  exact (List.append_nil _).symm.trans h
 | stop=>exact h.le

lemma Carried.step (h:Carried s) (hchange:Change s t):Carried t:=by
 cases hchange with
 | admission _ | sender _ | reader _=>exact h
 | batch _ hwriter _ _=>exact h.batch hwriter
 | writer _ hwrites=>exact h.write hwrites

/-- The length that the first four bytes of a record declare. -/
def declaredLength (payload:List UInt8):ℕ:=ofBytes (payload.take 4)+4

lemma readsHeader_declaredLength : ReadsHeader declaredLength commonHeaderSize:=by
 intro frame rest hlength
 unfold declaredLength
 rw [List.take_append_of_le_length (le_trans (by decide) hlength)]

def Cut (read taken wire:List UInt8):ReaderTask → Prop
 | .waiting=>read=taken
 | .header data=>read++data=taken ∧ data.length<commonHeaderSize
 | .reserving headerBytes totalLength=>
  read++headerBytes=taken ∧ headerBytes.length=commonHeaderSize ∧
   totalLength=declaredLength headerBytes ∧ commonHeaderSize≤totalLength
 | .body headerBytes totalLength data=>
  read++(headerBytes++data)=taken ∧ headerBytes.length=commonHeaderSize ∧
   totalLength=declaredLength headerBytes ∧ commonHeaderSize≤totalLength
 | .stopped=>read <+:wire

def received (payload:List UInt8):TransportRecord:=
 ⟨⟨.multiplexed,controlLaneId⟩,payload⟩

section

variable {read taken wire:List UInt8} {reader:ReaderTask}

lemma Cut.le (h:Cut read taken wire reader) (htaken:taken <+:wire):read <+:wire:=by
 cases reader with
 | waiting=>exact h▸htaken
 | header data=>exact List.IsPrefix.trans ⟨data,h.1⟩ htaken
 | reserving headerBytes totalLength=>exact List.IsPrefix.trans ⟨headerBytes,h.1⟩ htaken
 | body headerBytes totalLength data=>
  exact List.IsPrefix.trans ⟨headerBytes++data,h.1⟩ htaken
 | stopped=>exact h

lemma Cut.append (h:Cut read taken wire reader) (more:List UInt8):
  Cut read taken (wire++more) reader:=by
 cases reader with
 | waiting | header data | reserving headerBytes totalLength
 | body headerBytes totalLength data=>exact h
 | stopped=>exact List.IsPrefix.trans h (List.prefix_append _ _)

end

structure Reading (s:Stream) (read:List (List UInt8)):Prop where
 bound:s.consumed ≤ s.wire.length
 enqueued:s.enqueued=read.map received
 cut:Cut read.flatten (s.wire.take s.consumed) s.wire s.reader
 framed:∀payload∈read,Framed declaredLength commonHeaderSize payload

lemma Chunk.take {chunk:List UInt8} (h:Chunk s chunk count size):
  s.wire.take (s.consumed+count)=s.wire.take s.consumed++chunk:=by
 rw [h.eq,List.take_add]

lemma Chunk.length_le {chunk:List UInt8} (h:Chunk s chunk count size):
  chunk.length ≤ size:=by
 rw [h.eq]
 exact (List.length_take_le _ _).trans h.le

section

variable {read:List (List UInt8)}

lemma Reading.le (h:Reading s read):read.flatten <+:s.wire:=
 h.cut.le (List.take_prefix _ _)

lemma Reading.write {wire:List UInt8} (h:Reading s read) (hwrites:Writes s writer wire):
  Reading { s with sender:=d,writer:=writer,wire:=wire } read:=by
 obtain ⟨more,rfl⟩:∃more,wire=s.wire++more:=by
  cases hwrites with
  | transfer count _=>exact ⟨_,rfl⟩
  | finish _ | stop=>exact ⟨[],(List.append_nil _).symm⟩
 refine ⟨h.bound.trans (List.prefix_append _ _).length_le,h.enqueued,?_,h.framed⟩
 change Cut _ ((s.wire++more).take s.consumed) (s.wire++more) s.reader
 rw [List.take_append_of_le_length h.bound]
 exact h.cut.append more

lemma Reading.move {receiver:Connection} {reader:ReaderTask}
  (h:Reading s read) (hbound:consumed ≤ s.wire.length)
  (hcut:Cut read.flatten (s.wire.take consumed) s.wire reader):Reading { s with
   receiver:=receiver
   reader:=reader
   consumed:=consumed
   enqueued:=s.enqueued++[] } read:=
 ⟨hbound,(List.append_nil _).trans h.enqueued,hcut,h.framed⟩

lemma Reading.advance {receiver:Connection} {reader:ReaderTask}
  {enqueued:List TransportRecord} (h:Reading s read)
  (hreads:Reads s reader consumed enqueued):∃read',Reading { s with
   receiver:=receiver
   reader:=reader
   consumed:=consumed
   enqueued:=s.enqueued++enqueued } read':=by
 have hcut:=h.cut
 cases hreads with
 | stay=>exact ⟨read,h.move h.bound hcut⟩
 | stop=>exact ⟨read,h.move h.bound h.le⟩
 | stopAfter hchunk=>exact ⟨read,h.move hchunk.available h.le⟩
 | start hreader=>
  rw [hreader] at hcut
  exact ⟨read,h.move h.bound ⟨(List.append_nil _).trans hcut,by decide⟩⟩
 | header hreader hchunk hlength=>
  rw [hreader] at hcut
  refine ⟨read,h.move hchunk.available ⟨?_,?_⟩⟩
  · rw [hchunk.take,←hcut.1,List.append_assoc]
  · rwa [List.length_append]
 | parsed hreader hchunk hlength hframe=>
  rw [hreader] at hcut
  refine ⟨read,h.move hchunk.available ⟨?_,?_,rfl,?_⟩⟩
  · rw [hchunk.take,←hcut.1,List.append_assoc]
  · have hle:=hchunk.length_le
    have hlt:=hcut.2
    rw [List.length_append]
    omega
  · exact Nat.sub_le_iff_le_add.mp hframe
 | reserved hreader=>
  rw [hreader] at hcut
  refine ⟨read,h.move h.bound ⟨?_,hcut.2⟩⟩
  rw [List.append_nil]
  exact hcut.1
 | body hreader hchunk=>
  rw [hreader] at hcut
  refine ⟨read,h.move hchunk.available ⟨?_,hcut.2⟩⟩
  rw [hchunk.take,←hcut.1,List.append_assoc,List.append_assoc]
 | enqueued hreader hlength=>
  rename_i headerBytes data totalLength
  rw [hreader] at hcut
  obtain ⟨hread,hheader,htotal,hle⟩:=hcut
  refine ⟨read++[headerBytes++data],h.bound,?_,?_,?_⟩
  · change s.enqueued++_=_
    rw [h.enqueued,List.map_append]
    rfl
  · change List.flatten _=_
    rw [List.flatten_append,←hread]
    exact congrArg _ (List.append_nil _)
  · intro payload hmem
    rcases List.mem_append.mp hmem with hold|hnew
    · exact h.framed payload hold
    · obtain rfl:=List.mem_singleton.mp hnew
      have hlength':(headerBytes++data).length=totalLength:=by
       rw [List.length_append]
       omega
      refine ⟨hlength'▸hle,?_⟩
      rw [readsHeader_declaredLength headerBytes data hheader.ge,←htotal,hlength']

lemma Reading.step (h:Reading s read) (hchange:Change s t):∃read',Reading t read':=by
 cases hchange with
 | admission _ | sender _ | batch _ _ _ _=>exact ⟨read,h.bound,h.enqueued,h.cut,h.framed⟩
 | writer _ hwrites=>exact ⟨read,h.write hwrites⟩
 | reader hreads=>exact h.advance hreads

end

end

section

lemma reachable_accounted (h:streamSystem.Reachable s):Accounted s:=by
 refine h.invariant ?_ ?_
 · rintro s ⟨sendLimits,receiveLimits,rfl⟩
   exact .create sendLimits receiveLimits
 · intro s event t _ hs hstep
   exact hs.step (step_change hstep)

lemma reachable_carried (h:streamSystem.Reachable s):Carried s:=by
 refine h.invariant ?_ ?_
 · rintro s ⟨sendLimits,receiveLimits,rfl⟩
   rfl
 · intro s event t _ hs hstep
   exact hs.step (step_change hstep)

lemma reachable_reading (h:streamSystem.Reachable s):∃read,Reading s read:=by
 refine System.Reachable.invariant (I := fun s=>∃read,Reading s read) h ?_ ?_
 · rintro s ⟨sendLimits,receiveLimits,rfl⟩
   exact ⟨[],Nat.le_refl 0,rfl,rfl,fun _=>nofun⟩
 · intro s event t _ ⟨read,hs⟩ hstep
   exact hs.step (step_change hstep)

lemma terminal_last {before after entries:List Entry} {terminal:Entry}
  (h:entries.Pairwise fun entry _=>entry.terminal=false)
  (hentries:entries=before++terminal::after) (hterminal:terminal.terminal=true):
  after=[]:=by
 rw [hentries] at h
 cases after with
 | nil=>rfl
 | cons other after=>
  have hfalse:=(List.pairwise_cons.mp (List.pairwise_append.mp h).2.1).1 other
   List.mem_cons_self
  rw [hterminal] at hfalse
  cases hfalse

lemma arrived_prefix (h:streamSystem.Reachable s)
  (hframed:∀entry∈s.admitted,Framed declaredLength commonHeaderSize entry.record.payload):
  ∃arrived,arrived <+:s.transmitted ∧ s.enqueued=(payloads arrived).map received:=by
 obtain ⟨read,hread⟩:=reachable_reading h
 have hsent:∀payload∈payloads s.transmitted,
  Framed declaredLength commonHeaderSize payload:=by
  intro payload hmem
  obtain ⟨entry,hentry,rfl⟩:=List.mem_map.mp hmem
  exact hframed entry ((reachable_accounted h).transmitted_admitted hentry)
 have hprefix:read <+:payloads s.transmitted:=
  prefix_of_flatten_prefix readsHeader_declaredLength (by decide) hread.framed hsent
   (hread.le.trans (reachable_carried h).le)
 refine ⟨s.transmitted.take read.length,List.take_prefix _ _,?_⟩
 rw [hread.enqueued,payloads,List.map_take]
 exact congrArg _ (List.prefix_iff_eq_take.mp hprefix)

theorem transport_delivery (h:streamSystem.Reachable s):
  ((∀entry∈s.admitted,Framed declaredLength commonHeaderSize entry.record.payload) →
   ∃arrived,arrived <+:s.transmitted ∧ s.enqueued=(payloads arrived).map received ∧
    ∀channel,onChannel channel arrived <+:onChannel channel s.admitted) ∧
  (∀before terminal after,s.transmitted=before++terminal::after →
   terminal.terminal=true → after=[] ∧ ∃earlier,s.admitted=earlier++[terminal] ∧
    ∀channel,onChannel channel before=onChannel channel earlier) ∧
  ∀before terminal after,s.admitted=before++terminal::after →
   terminal.terminal=true → after=[]:=by
 have haccounted:=reachable_accounted h
 refine ⟨fun hframed=>?_,?_,fun before terminal after=>terminal_last haccounted.admitted_last⟩
 · obtain ⟨arrived,harrived,henqueued⟩:= arrived_prefix h hframed
   exact ⟨arrived,harrived,henqueued,
    fun channel=>(harrived.filter _).trans (haccounted.sent channel)⟩
 · intro before terminal after htransmitted hterminal
   obtain rfl:=terminal_last haccounted.transmitted_last htransmitted hterminal
   have hmem:terminal∈s.transmitted:=by
    rw [htransmitted]
    exact List.mem_append_right _ List.mem_cons_self
   obtain ⟨earlier,later,hadmitted⟩:=
    List.append_of_mem (haccounted.transmitted_admitted hmem)
   obtain rfl:=terminal_last haccounted.admitted_last hadmitted hterminal
   refine ⟨rfl,earlier,hadmitted,fun channel=>?_⟩
   have hall:=haccounted.complete ⟨terminal,hmem,hterminal⟩ channel
   rw [htransmitted,hadmitted,onChannel_append,onChannel_append] at hall
   exact List.append_cancel_right hall

def frame (frameType:FrameType) (body:List UInt8):List UInt8:=
 pack headerWidths [headerAfterLengthSize+body.length,frameType.value,0,headerVersion,0] ++
  body

def onLane (laneId:ℕ) (body:List UInt8):TransportRecord:=
 ⟨⟨.deliveryLane,laneId⟩,frame .userMessage body⟩

def goodbye : TransportRecord:=⟨⟨.control,controlLaneId⟩,frame .goAway []⟩

def small : TransportLimits:=⟨64,8,512,8,512⟩

def interrupted : List StreamEvent:=
 [.sendActive (onLane 0 [1]) true,.send (onLane 0 [2]) 64 true,
  .sendPrevalidated (onLane 1 [3]) 4 256 true,.sendTerminal goodbye 64 true,
  .collect,.transfer 25,.waitForActivation,.receiveChunk 10,.receiveChunk 6,.reserve,
  .receiveChunk 1,.finishBody,.waitForActivation,.receiveChunk 8,
  .peerEOF (.protocol "peer closed during common frame header")]

def played : Option Stream:=interrupted.foldlM Stream.step (Stream.create small small)

theorem transport_delivery_interrupted :
  ∃s,played=some s ∧ s.enqueued=[received (frame .userMessage [1])] ∧
   s.transmitted=[plain (onLane 0 [1]),plain (onLane 1 [3]),plain (onLane 0 [2]),
    ⟨goodbye,true⟩] ∧
   (∃arrived,arrived <+:s.transmitted ∧ s.enqueued=(payloads arrived).map received ∧
    ∀channel,onChannel channel arrived <+:onChannel channel s.admitted) ∧
   ∃earlier,s.admitted=earlier++[⟨goodbye,true⟩]:=by
 have hsome:played.isSome:=by decide +kernel
 obtain ⟨s,hs⟩:=Option.isSome_iff_exists.mp hsome
 have hfacts:(played.map fun s=>(s.enqueued,s.admitted,s.transmitted)) =
  some ([received (frame .userMessage [1])],
   [plain (onLane 0 [1]),plain (onLane 0 [2]),plain (onLane 1 [3]),⟨goodbye,true⟩],
   [plain (onLane 0 [1]),plain (onLane 1 [3]),plain (onLane 0 [2]),⟨goodbye,true⟩]):=by
  decide +kernel
 rw [hs,Option.map_some,Option.some.injEq,Prod.mk.injEq,Prod.mk.injEq] at hfacts
 obtain ⟨henqueued,hadmitted,htransmitted⟩:=hfacts
 have hreachable:streamSystem.Reachable s:=
  System.Reachable.play (fun _ _ _ hstep=>hstep) interrupted (.start ⟨small,small,rfl⟩) hs
 obtain ⟨harrived,hterminal,-⟩:=transport_delivery hreachable
 have hframed:∀entry∈s.admitted,
  Framed declaredLength commonHeaderSize entry.record.payload:=by
  intro entry hmem
  rw [hadmitted] at hmem
  have hall:∀entry∈[plain (onLane 0 [1]),plain (onLane 0 [2]),plain (onLane 1 [3]),
   ⟨goodbye,true⟩],commonHeaderSize≤entry.record.payload.length ∧
    declaredLength entry.record.payload=entry.record.payload.length:=by
   decide +kernel
  exact ⟨(hall entry hmem).1,(hall entry hmem).2⟩
 obtain ⟨-,earlier,hearlier,-⟩:=hterminal
  [plain (onLane 0 [1]),plain (onLane 1 [3]),plain (onLane 0 [2])] ⟨goodbye,true⟩ []
  htransmitted rfl
 exact ⟨s,hs,henqueued,htransmitted,harrived hframed,earlier,hearlier⟩

end

end Movie.TransportDelivery
