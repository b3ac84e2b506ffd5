import Movie.Handshake
import Movie.Reachability
import Movie.RoundRobin

/-!
# A TCP connection with two tasks

`AsyncioTcpConnection` of `remoting/asyncio_tcp.py`: the four ways to send, the batches of the
writer task and the reader task that cuts the stream into records. A section under the lock is one
step; a task may look at its queues at any time.
-/
namespace Movie.AsyncioTcp

open AssociationReceive BigEndian Checked Handshake Reachability RoundRobin Wire

def writeBatchBytes : ℕ:=256 * 1024
def writeBatchRecords : ℕ:=64
def receiveChunkBytes : ℕ:=64 * 1024

inductive ConnectionState where
 | opened
 | readFailed
 | closed
 deriving DecidableEq

inductive TransportError where
 | protocol (detail:String)
 | capacity (detail:String)
 | closed (detail:String)
 | flowControl (detail:String)
 deriving DecidableEq

structure Connection where
 state:ConnectionState
 cause:Option TransportError
 limits:TransportLimits
 activated:Bool
 peerAcceptSeen:Bool
 maximumRecordBytes:ℕ
 outbound:Queues LogicalChannel TransportRecord
 outboundMessages:ℕ
 outboundBytes:ℕ
 terminalOutboundRecord:Option TransportRecord
 terminalOutboundPending:Bool
 writerWakeScheduled:Bool
 inbound:List TransportRecord
 inboundMessages:ℕ
 inboundBytes:ℕ
 readingRecordSize:Option ℕ
 readingHeaderBytes:ℕ
 readerBackpressured:Bool

def Connection.create (limits:TransportLimits):Connection where
 state:=.opened
 cause:=none
 limits:=limits
 activated:=false
 peerAcceptSeen:=false
 maximumRecordBytes:=limits.maximumRecordBytes
 outbound:=RoundRobin.empty LogicalChannel TransportRecord
 outboundMessages:=0
 outboundBytes:=0
 terminalOutboundRecord:=none
 terminalOutboundPending:=false
 writerWakeScheduled:=false
 inbound:=[]
 inboundMessages:=0
 inboundBytes:=0
 readingRecordSize:=none
 readingHeaderBytes:=0
 readerBackpressured:=false

def wireDetail : WireError → String
 | .protocolValidation detail | .malformedFrame detail | .frameTooLarge detail
 | .unsupportedFrame detail | .unsupportedFeature detail | .unsupportedHeaderVersion detail
 | .wrongStream detail=>detail

def validateRecord (record:TransportRecord) (maximumRecordBytes:ℕ):
  Except TransportError FrameHeader:=do
 let header ← (decodeCommonHeader record.payload maximumRecordBytes).mapError fun error=>
  .protocol ("invalid transport record: " ++ wireDetail error)
 reject (record.payload.length≠header.totalLength)
  (.protocol ("record has " ++ toString record.payload.length ++ " bytes but declared " ++
   toString header.totalLength))
 reject (record.channel.kind=.control ∧ header.frameType=.userMessage)
  (.protocol "USER_MESSAGE cannot use a CONTROL logical channel")
 reject (record.channel.kind=.deliveryLane ∧ header.frameType≠.userMessage)
  (.protocol (header.frameType.name ++ " cannot use a DELIVERY_LANE logical channel"))
 return header

/-- The second check of a record, under the lock, if the maximum has changed since the first. -/
def validateAgain {α:Type} (validate:ℕ → Except TransportError α) (before now:ℕ):
  Except TransportError Unit:=
 if before≠now then (validate now).map fun _=>() else .ok ()

def validateTerminal (record:TransportRecord) (maximumRecordBytes:ℕ):
  Except TransportError Unit:=do
 let header ← validateRecord record maximumRecordBytes
 reject (header.frameType≠.goAway ∨ record.channel.kind≠.control)
  (.protocol "terminal transport reserve accepts only GOAWAY")

namespace Connection

def wakeWriter (c:Connection) (loopAvailable:Bool):Except TransportError Connection:=
 if c.writerWakeScheduled then .ok c
 else if loopAvailable then .ok { c with writerWakeScheduled:=true }
 else .error (.closed "Asyncio I/O extension loop is not available")

def wakeWriterIf (c:Connection) (needed:Prop) [Decidable needed] (loopAvailable:Bool):
  Except TransportError Connection:=
 if needed then c.wakeWriter loopAvailable else .ok c

def enqueueOutbound (c:Connection) (record:TransportRecord) (loopAvailable:Bool):
  Except TransportError Connection:=do
 let woken ← c.wakeWriterIf (c.outbound.queue record.channel=[] ∧ c.outbound.ready=[] ∧
  c.terminalOutboundPending=false) loopAvailable
 return { woken with
  outbound:=push c.outbound record.channel record
  outboundMessages:=c.outboundMessages+1
  outboundBytes:=c.outboundBytes+record.payload.length }

def requireOpen (c:Connection):Except TransportError Unit:=
 reject (c.state=.closed) (.closed "transport connection is closed")

def requireNoTerminal (c:Connection):Except TransportError Unit:=
 reject (c.terminalOutboundRecord≠none)
  (.closed "terminal transport record is already admitted")

def requireCapacity (c:Connection) (messageLimit byteLimit recordBytes:ℕ):
  Except TransportError Unit:=
 reject (messageLimit ≤ c.outboundMessages ∨ byteLimit<c.outboundBytes+recordBytes)
  (.capacity "outbound transport capacity is full")

def send (c:Connection) (record:TransportRecord) (maximumRecordBytes:ℕ)
  (loopAvailable:Bool):Except TransportError Connection:=do
 let _ ← validateRecord record maximumRecordBytes
 c.requireOpen
 c.requireNoTerminal
 validateAgain (validateRecord record) maximumRecordBytes c.maximumRecordBytes
 c.requireCapacity c.limits.outboundMessageLimit c.limits.outboundByteLimit record.payload.length
 c.enqueueOutbound record loopAvailable

/-- The common part of `send_active` and `send_prevalidated`. -/
def sendUnvalidated (c:Connection) (record:TransportRecord) (messageLimit byteLimit:ℕ)
  (loopAvailable:Bool):Except TransportError Connection:=do
 c.requireOpen
 c.requireNoTerminal
 reject (c.maximumRecordBytes<record.payload.length)
  (.protocol "prevalidated record exceeds maximum record bytes")
 c.requireCapacity messageLimit byteLimit record.payload.length
 c.enqueueOutbound record loopAvailable

def sendPrevalidated (c:Connection) (record:TransportRecord) (messageLimit byteLimit:ℕ)
  (loopAvailable:Bool):Except TransportError Connection:=
 c.sendUnvalidated record (min messageLimit c.limits.outboundMessageLimit)
  (min byteLimit c.limits.outboundByteLimit) loopAvailable

def sendActive (c:Connection) (record:TransportRecord) (loopAvailable:Bool):
  Except TransportError Connection:=
 c.sendUnvalidated record c.limits.outboundMessageLimit c.limits.outboundByteLimit loopAvailable

def sendTerminal (c:Connection) (record:TransportRecord) (maximumRecordBytes:ℕ)
  (loopAvailable:Bool):Except TransportError Connection:=do
 validateTerminal record maximumRecordBytes
 c.requireOpen
 reject (c.terminalOutboundRecord≠none) (.capacity "terminal transport reserve is already in use")
 validateAgain (validateTerminal record) maximumRecordBytes c.maximumRecordBytes
 let woken ← c.wakeWriterIf (c.outbound.ready=[]) loopAvailable
 return { woken with
  terminalOutboundRecord:=some record
  terminalOutboundPending:=true
  outboundMessages:=c.outboundMessages+1
  outboundBytes:=c.outboundBytes+record.payload.length }

end Connection

structure Entry where
 record:TransportRecord
 terminal:Bool
 deriving DecidableEq

/-- The inner loop of `_writer_loop`, with the number of records that still fit. -/
def fill : ℕ → List TransportRecord → ℕ → Queues LogicalChannel TransportRecord →
  List TransportRecord×ℕ×Queues LogicalChannel TransportRecord
 | 0,records,batchBytes,queues=>(records,batchBytes,queues)
 | slots+1,records,batchBytes,queues=>
  match pop queues with
  | none=>(records,batchBytes,queues)
  | some (record,rest)=>
   if records≠[] ∧ writeBatchBytes<batchBytes+record.payload.length then
    (records,batchBytes,queues)
   else fill slots (records++[record]) (batchBytes+record.payload.length) rest

def Connection.collect (c:Connection):List Entry×ℕ×Connection:=
 let (records,batchBytes,queues):=fill writeBatchRecords [] 0 c.outbound
 let entries:=records.map fun record=>(⟨record,false⟩:Entry)
 match c.terminalOutboundRecord with
 | none=>(entries,batchBytes,{ c with outbound:=queues })
 | some terminal=>
  if queues.ready=[] ∧ c.terminalOutboundPending=true ∧
   records.length<writeBatchRecords ∧
   (records=[] ∨ batchBytes+terminal.payload.length≤writeBatchBytes) then
   (entries++[⟨terminal,true⟩],batchBytes+terminal.payload.length,
    { c with outbound:=queues,terminalOutboundPending:=false })
  else (entries,batchBytes,{ c with outbound:=queues })

inductive WriterTask where
 | idle
 | sending (remaining:List UInt8) (records batchBytes:ℕ)
 | stopped

inductive ReaderTask where
 | waiting
 | header (data:List UInt8)
 | reserving (headerBytes:List UInt8) (totalLength:ℕ)
 | body (headerBytes:List UInt8) (totalLength:ℕ) (data:List UInt8)
 | stopped

namespace Connection

def markClosed (c:Connection) (cause:Option TransportError):Connection:=
 if c.state=.closed then c
 else
  { c with
    state:=.closed
    cause:=if cause≠none ∨ c.cause=none then cause else c.cause
    outbound:=RoundRobin.empty LogicalChannel TransportRecord
    outboundMessages:=0
    outboundBytes:=0
    terminalOutboundRecord:=none
    terminalOutboundPending:=false
    writerWakeScheduled:=false
    inbound:=[]
    inboundMessages:=0
    inboundBytes:=0
    readingRecordSize:=none
    readingHeaderBytes:=0
    readerBackpressured:=false }

def failRead (c:Connection) (cause:TransportError):Connection:=
 if c.state=.closed then c
 else
  { c with
    state:=.readFailed
    cause:=some cause
    inboundBytes:=c.inboundBytes - c.readingHeaderBytes
    readingHeaderBytes:=0
    readerBackpressured:=false }

def release (c:Connection) (totalLength:ℕ):Connection:=
 match c.readingRecordSize with
 | none=>c
 | some _=>
  { c with
    readingRecordSize:=none
    inboundMessages:=c.inboundMessages - 1
    inboundBytes:=c.inboundBytes - totalLength }

def activate (c:Connection) (limits:TransportLimits):Except TransportError Connection:=do
 c.requireOpen
 reject (c.activated=true) (.protocol "transport connection limits are already active")
 return { c with
  limits:=limits
  maximumRecordBytes:=limits.maximumRecordBytes
  activated:=true }

def setMaximumRecordBytes (c:Connection) (maximumRecordBytes:ℕ):
  Except TransportError Connection:=do
 reject (maximumRecordBytes<commonHeaderSize ∨ maxU32 < maximumRecordBytes)
  (.protocol ("maximum record bytes must be between " ++ toString commonHeaderSize ++ " and " ++
   toString maxU32))
 c.requireOpen
 reject (c.maximumRecordBytes < maximumRecordBytes)
  (.protocol "maximum record bytes can only tighten")
 return { c with maximumRecordBytes:=maximumRecordBytes }

def receiveMany (c:Connection) (maxRecords:ℕ):List TransportRecord×Connection:=
 let records:=c.inbound.take maxRecords
 (records,
  { c with
    inbound:=c.inbound.drop maxRecords
    inboundMessages:=c.inboundMessages - records.length
    inboundBytes:=c.inboundBytes - (records.map fun record=>record.payload.length).sum })

def terminalHeader (headerBytes:List UInt8):Bool:=
 headerBytes[4]?.map UInt8.toNat=some FrameType.goAway.value

def messageLimit (c:Connection) (terminalRecord:Bool):ℕ:=
 c.limits.inboundMessageLimit+(if terminalRecord then 1 else 0)

def byteLimit (c:Connection) (terminalRecord:Bool):ℕ:=
 c.limits.inboundByteLimit+(if terminalRecord then c.maximumRecordBytes else 0)

def fails (c:Connection) (error:TransportError):Connection×ReaderTask:=
 (c.failRead error,.stopped)

def waitForActivation (c:Connection):Option (Connection×ReaderTask):=
 if c.state=.closed then some (c,.stopped)
 else if c.peerAcceptSeen=false ∨ c.activated=true then some (c,.header [])
 else none

def parseHeader (c:Connection) (headerBytes:List UInt8):Connection×ReaderTask:=
 let frameLength:=ofBytes (headerBytes.take 4)
 if frameLength<commonHeaderSize - 4 then
  c.fails (.protocol "inbound frame length is smaller than the common header")
 else (c,.reserving headerBytes (frameLength+4))

/-- `_reserve_inbound`; a reader that waits for capacity comes back to it. -/
def reserveInbound (c:Connection) (headerBytes:List UInt8) (totalLength:ℕ):
  Connection×ReaderTask:=
 let terminalRecord:=terminalHeader headerBytes
 let bodyLength:=totalLength - commonHeaderSize
 if c.state=.closed then (c,.stopped)
 else if c.maximumRecordBytes<totalLength then
  c.fails (.flowControl "inbound record exceeds maximum record bytes")
 else if c.byteLimit terminalRecord<totalLength then
  c.fails (.flowControl "inbound record exceeds inbound byte limit")
 else if c.messageLimit terminalRecord=0 then
  c.fails (.flowControl "inbound message limit does not admit records")
 else if c.inboundMessages<c.messageLimit terminalRecord ∧
  c.inboundBytes+bodyLength ≤ c.byteLimit terminalRecord then
  ({ c with
   readerBackpressured:=false
   readingRecordSize:=some totalLength
   readingHeaderBytes:=0
   inboundMessages:=c.inboundMessages+1
   inboundBytes:=c.inboundBytes+bodyLength },.body headerBytes totalLength [])
 else ({ c with readerBackpressured:=true },.reserving headerBytes totalLength)

/-- The part of `_reader_loop` after the body of a record, with the record if it is enqueued. -/
def enqueueInbound (c:Connection) (headerBytes:List UInt8) (totalLength:ℕ)
  (data:List UInt8):(Connection×ReaderTask)×Option TransportRecord:=
 let record:TransportRecord:=⟨⟨.multiplexed,controlLaneId⟩,headerBytes++data⟩
 let terminalRecord:=terminalHeader headerBytes
 if c.state=.closed then ((c.release totalLength,.stopped),none)
 else if c.maximumRecordBytes<totalLength then
  ((c.release totalLength).fails (.flowControl "inbound record exceeds maximum record bytes"),
   none)
 else if c.messageLimit terminalRecord<c.inboundMessages ∨
  c.byteLimit terminalRecord<c.inboundBytes then
  ((c.release totalLength).fails
   (.flowControl "inbound record exceeds current inbound capacity"),none)
 else
  (({ c with
   readingRecordSize:=none
   peerAcceptSeen:=c.peerAcceptSeen ||
    (headerBytes[4]?.map UInt8.toNat=some FrameType.helloAccept.value)
   inbound:=c.inbound++[record] },.waiting),some record)

end Connection

/-- A sender and the reader of its peer, with the records that were admitted, put into batches
 and enqueued by the reader, and the bytes that went over the wire and were read from it. -/
structure Stream where
 sender:Connection
 writer:WriterTask
 admitted:List Entry
 transmitted:List Entry
 wire:List UInt8
 receiver:Connection
 reader:ReaderTask
 consumed:ℕ
 enqueued:List TransportRecord

inductive StreamEvent where
 | send (record:TransportRecord) (maximumRecordBytes:ℕ) (loopAvailable:Bool)
 | sendPrevalidated (record:TransportRecord) (messageLimit byteLimit:ℕ)
  (loopAvailable:Bool)
 | sendActive (record:TransportRecord) (loopAvailable:Bool)
 | sendTerminal (record:TransportRecord) (maximumRecordBytes:ℕ) (loopAvailable:Bool)
 | collect
 | transfer (count:ℕ)
 | finishBatch
 | cancelWriter
 | closeSender (cause:Option TransportError)
 | failSender (cause:TransportError)
 | activateSender (limits:TransportLimits)
 | tightenSender (maximumRecordBytes:ℕ)
 | waitForActivation
 | receiveChunk (count:ℕ)
 | reserve
 | finishBody
 | peerEOF (cause:TransportError)
 | cancelReader
 | closeReceiver (cause:Option TransportError)
 | activateReceiver (limits:TransportLimits)
 | tightenReceiver (maximumRecordBytes:ℕ)
 | receiveMany (maxRecords:ℕ)

namespace Stream

def chunk (s:Stream) (count size:ℕ):Option (List UInt8):=
 if 0<count ∧ count ≤ min receiveChunkBytes size ∧ s.consumed+count ≤ s.wire.length then
  some ((s.wire.drop s.consumed).take count)
 else none

def withSender (s:Stream) (sender:Except TransportError Connection):Option Stream:=
 match sender with
 | .error _=>none
 | .ok sender=>some { s with sender:=sender }

def withReceiver (s:Stream) (receiver:Except TransportError Connection):Option Stream:=
 match receiver with
 | .error _=>none
 | .ok receiver=>some { s with receiver:=receiver }

def admission (s:Stream) (sender:Except TransportError Connection) (entry:Entry):
  Option Stream:=
 match sender with
 | .error _=>none
 | .ok sender=>some { s with sender:=sender,admitted:=s.admitted++[entry] }

def collect (s:Stream):Option Stream:=
 match s.writer with
 | .idle=>
  if s.sender.state=.closed then some { s with writer:=.stopped }
  else
   let (entries,batchBytes,sender):=s.sender.collect
   if entries=[] then some { s with sender:={ sender with writerWakeScheduled:=false } }
   else some { s with
    sender:=sender
    writer:=.sending (entries.flatMap fun entry=>entry.record.payload) entries.length
     batchBytes
    transmitted:=s.transmitted++entries }
 | _=>none

def transfer (s:Stream) (count:ℕ):Option Stream:=
 match s.writer with
 | .sending remaining records batchBytes=>some { s with
  writer:=.sending (remaining.drop count) records batchBytes
  wire:=s.wire++remaining.take count }
 | _=>none

def finishBatch (s:Stream):Option Stream:=
 match s.writer with
 | .sending [] records batchBytes=>
  if s.sender.state=.closed then some { s with writer:=.stopped }
  else some { s with
   writer:=.idle
   sender:={ s.sender with
    outboundMessages:=s.sender.outboundMessages - records
    outboundBytes:=s.sender.outboundBytes - batchBytes } }
 | _=>none

def withReader (s:Stream) (result:Connection×ReaderTask):Stream:=
 { s with receiver:=result.1,reader:=result.2 }

def waitForActivation (s:Stream):Option Stream:=
 match s.reader with
 | .waiting=>s.receiver.waitForActivation.map s.withReader
 | _=>none

def receiveChunk (s:Stream) (count:ℕ):Option Stream:=
 match s.reader with
 | .header data=>do
  let chunk ← s.chunk count (commonHeaderSize - data.length)
  let s:={ s with consumed:=s.consumed+count }
  if s.receiver.state=.closed then return { s with reader:=.stopped }
  let receiver:={ s.receiver with
   readingHeaderBytes:=s.receiver.readingHeaderBytes+chunk.length
   inboundBytes:=s.receiver.inboundBytes+chunk.length }
  if data.length+chunk.length<commonHeaderSize then
   return s.withReader (receiver,.header (data++chunk))
  else return s.withReader (receiver.parseHeader (data++chunk))
 | .body headerBytes totalLength data=>do
  let chunk ← s.chunk count (totalLength - commonHeaderSize - data.length)
  return { s with
   consumed:=s.consumed+count
   reader:=.body headerBytes totalLength (data++chunk) }
 | _=>none

def reserve (s:Stream):Option Stream:=
 match s.reader with
 | .reserving headerBytes totalLength=>
  some (s.withReader (s.receiver.reserveInbound headerBytes totalLength))
 | _=>none

def finishBody (s:Stream):Option Stream:=
 match s.reader with
 | .body headerBytes totalLength data=>
  if data.length=totalLength - commonHeaderSize then
   let result:=s.receiver.enqueueInbound headerBytes totalLength data
   some { s.withReader result.1 with enqueued:=s.enqueued++result.2.toList }
  else none
 | _=>none

/-- The reader finds the end of the stream, or is cancelled: it gives its reservation back. -/
def stopReader (s:Stream) (close:Connection → Connection):Stream:=
 { s with
   receiver:=close (match s.reader with
    | .body _ totalLength _=>s.receiver.release totalLength
    | _=>s.receiver)
   reader:=.stopped }

def step (s:Stream):StreamEvent → Option Stream
 | .send record maximumRecordBytes loopAvailable=>
  s.admission (s.sender.send record maximumRecordBytes loopAvailable) ⟨record,false⟩
 | .sendPrevalidated record messageLimit byteLimit loopAvailable=>
  s.admission (s.sender.sendPrevalidated record messageLimit byteLimit loopAvailable)
   ⟨record,false⟩
 | .sendActive record loopAvailable=>
  s.admission (s.sender.sendActive record loopAvailable) ⟨record,false⟩
 | .sendTerminal record maximumRecordBytes loopAvailable=>
  s.admission (s.sender.sendTerminal record maximumRecordBytes loopAvailable) ⟨record,true⟩
 | .collect=>s.collect
 | .transfer count=>s.transfer count
 | .finishBatch=>s.finishBatch
 | .cancelWriter=>some { s with writer:=.stopped }
 | .closeSender cause=>some { s with sender:=s.sender.markClosed cause }
 | .failSender cause=>some { s with sender:=s.sender.failRead cause }
 | .activateSender limits=>s.withSender (s.sender.activate limits)
 | .tightenSender maximumRecordBytes=>
  s.withSender (s.sender.setMaximumRecordBytes maximumRecordBytes)
 | .waitForActivation=>s.waitForActivation
 | .receiveChunk count=>s.receiveChunk count
 | .reserve=>s.reserve
 | .finishBody=>s.finishBody
 | .peerEOF cause=>some (s.stopReader (·.markClosed (some cause)))
 | .cancelReader=>some (s.stopReader id)
 | .closeReceiver cause=>some { s with receiver:=s.receiver.markClosed cause }
 | .activateReceiver limits=>s.withReceiver (s.receiver.activate limits)
 | .tightenReceiver maximumRecordBytes=>
  s.withReceiver (s.receiver.setMaximumRecordBytes maximumRecordBytes)
 | .receiveMany maxRecords=>some { s with receiver:=(s.receiver.receiveMany maxRecords).2 }

def create (sendLimits receiveLimits:TransportLimits):Stream where
 sender:=.create sendLimits
 writer:=.idle
 admitted:=[]
 transmitted:=[]
 wire:=[]
 receiver:=.create receiveLimits
 reader:=.waiting
 consumed:=0
 enqueued:=[]

end Stream

def streamSystem : System Stream StreamEvent where
 init s:=∃sendLimits receiveLimits,s=Stream.create sendLimits receiveLimits
 step s event t:=s.step event=some t

end Movie.AsyncioTcp
