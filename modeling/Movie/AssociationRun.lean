import Movie.AssociationManager
import Movie.Handshake
import Movie.Reachability

/-!
# Connection attempts between two runtimes

`_run`, `_handshake`, `_active_loop` and the closing paths of `remoting/association.py`, for any
number of attempts between two runtimes. A section under a lock is one step. Timeouts, capacities,
the end of a runtime and user traffic are left out.
-/
namespace Movie.AssociationRun

open Function AssociationManager DurableModel Serialization WireFrames Reachability

inductive Side where
 | first
 | second
 deriving DecidableEq

def Side.other : Side → Side
 | .first=>.second
 | .second=>.first

structure Attempt where
 initiator:Side
 associationUid:UUID
 deriving DecidableEq

/-- The association of an attempt on one side, and its thread. -/
structure Thread where
 side:Side
 attempt:Attempt
 deriving DecidableEq

def Thread.peer (thread:Thread):Thread:=⟨thread.side.other,thread.attempt⟩

def Thread.initiator (thread:Thread):Bool:=thread.attempt.initiator=thread.side

abbrev Frame:=ControlFrame SerializerDescriptor

structure Pair (T:Side → Type) where
 runtime:(side:Side) → Handshake.RemotingRuntime (T side)
 nfc:String → Bool
 describe:Handshake.HandshakeFailure → String

inductive Phase where
 | absent
 | starting
 | awaitingHello
 | greeted (peerHello:Hello)
 | answering (peerHello:Hello)
 | negotiating (peerHello:Hello)
 | awaitingAccept (accept:HelloAccept)
 | shaken
 | replacing (replaced:Attempt)
 | notifying (replaced:Attempt)
 | activated
 | running
 | failing (terminal:Bool) (reason:ReasonCode) (detail:String)
 | ending (reason:Option ReasonCode) (detail:String)
 | disconnecting
 | disconnected
 | unregistering
 | done
 deriving DecidableEq

structure Outbound where
 frames:List Frame
 terminal:Bool
 closed:Bool

structure World where
 manager:Side → Manager Attempt
 phase:Thread → Phase
 outbound:Thread → Outbound

def Outbound.create : Outbound:=⟨[],false,false⟩

/-- Nothing is admitted after a terminal frame or on a closed connection. -/
def Outbound.send (outbound:Outbound) (terminal:Bool) (frame:Frame):Outbound:=
 if outbound.terminal=true ∨ outbound.closed=true then outbound
 else { outbound with frames:=outbound.frames++[frame],terminal:=terminal }

def Outbound.receive (outbound:Outbound):Outbound:=
 { outbound with frames:=outbound.frames.tail }

/-- Frames that were not flushed in time are dropped with the connection. -/
def Outbound.close (outbound:Outbound) (flushed:ℕ):Outbound:=
 { outbound with frames:=outbound.frames.take flushed,closed:=true }

structure Turn where
 phase:Phase
 manager:Manager Attempt
 outbound:Thread → Outbound

namespace World

def association (w:World) (thread:Thread):Association:=
 (w.manager thread.side).association thread.attempt

def apply (w:World) (thread:Thread) (turn:Turn):World where
 manager:=update w.manager thread.side turn.manager
 phase:=update w.phase thread turn.phase
 outbound:=turn.outbound

def goTo (w:World) (thread:Thread) (phase:Phase):Turn:=
 ⟨phase,w.manager thread.side,w.outbound⟩

def revise (w:World) (thread:Thread) (f:Association → Association) (phase:Phase):Turn:=
 ⟨phase,(w.manager thread.side).update thread.attempt f,w.outbound⟩

def send (w:World) (thread:Thread) (terminal:Bool) (frame:Frame) (phase:Phase):Turn:=
 ⟨phase,w.manager thread.side,
  update w.outbound thread ((w.outbound thread).send terminal frame)⟩

def received (w:World) (thread:Thread):World:=
 { w with
   outbound:=update w.outbound thread.peer (w.outbound thread.peer).receive }

end World

def refusal : String:= "a canonical duplicate association was retained"
def replacement : String:= "a canonical replacement association was retained"

def className : Frame → String
 | .hello _ => "Hello"
 | .helloAccept _ => "HelloAccept"
 | .goAway _ => "GoAway"
 | .helloReject _ => "HelloReject"
 | .resolveRequest _ => "ResolveRequest"
 | .resolveResponse _ => "ResolveResponse"
 | .resolveRejected _ => "ResolveRejected"
 | .recipientUnavailable _ => "RecipientUnavailable"
 | .deserializationRejected _ => "DeserializationRejected"

def farewell (terminal:Bool) (reason:ReasonCode) (detail:String):Frame:=
 if terminal then .goAway ⟨reason,detail,0⟩ else .helloReject ⟨reason,detail,0⟩

namespace World

def retain (w:World) (thread:Thread) (peerHello:Hello):Option Turn:=
 ((w.manager thread.side).retainHandshakeCandidate thread.attempt).map fun retained=>
  w.goTo thread (if retained then
   if thread.initiator then .negotiating peerHello else .answering peerHello
   else .failing false .duplicateAssociation refusal)

def activate (w:World) (thread:Thread):Option Turn:=
 ((w.manager thread.side).activateAssociation thread.attempt).map fun (activation,manager)=>
  match activation with
  | .refused=>⟨.failing true .duplicateAssociation refusal,manager,w.outbound⟩
  | .accepted none=>⟨.activated,manager,w.outbound⟩
  | .accepted (some replaced)=>⟨.replacing replaced,manager,w.outbound⟩

def receiveAccept (w:World) (thread:Thread) (accept:HelloAccept) (frame:Frame):Turn:=
 match frame with
 | .helloReject reject=>w.goTo thread (.ending (some reject.reason) reject.detail)
 | .helloAccept peerAccept=>
  w.goTo thread (if peerAccept=accept then .shaken
   else .failing false .protocolViolation
    "peer HELLO_ACCEPT is not the canonical negotiated value")
 | _=>w.goTo thread
  (.failing false .protocolViolation ("expected HELLO_ACCEPT, got " ++ className frame))

def receiveActive (w:World) (thread:Thread) (frame:Frame):Turn:=
 match frame with
 | .goAway goAway=>w.goTo thread (.ending (some goAway.reason) goAway.detail)
 | _=>w.goTo thread (.failing true .protocolViolation
  (className frame ++ " is not valid on an active association"))

/-- A thread finds the connection closed by the peer; a reader has read all frames before. -/
def lose (w:World) (thread:Thread) (detail:String):Option Turn:=
 if (w.outbound thread.peer).closed=true then
  match w.phase thread with
  | .awaitingHello | .awaitingAccept _ | .running=>
   if (w.outbound thread.peer).frames=[] then some (w.goTo thread (.ending none detail))
   else none
  | .starting | .answering _ | .negotiating _=>some (w.goTo thread (.ending none detail))
  | .shaken=>some (w.goTo thread
   (.ending (some .protocolViolation) "transport failed before association activation"))
  | _=>none
 else none

def disconnect (w:World) (thread:Thread) (flushed:ℕ):Option Turn:=
 if w.phase thread=.disconnecting then
  some ⟨.disconnected,w.manager thread.side,
   update w.outbound thread ((w.outbound thread).close flushed)⟩
 else none

end World

section

variable {T:Side → Type} (pair:Pair T)

namespace Pair

def peerName (side:Side):String:=(pair.runtime side.other).systemName

def peerUid (side:Side):UUID:=(pair.runtime side.other).incarnationUid

def side (thread:Thread):Handshake.Association (T thread.side) where
 runtime:=pair.runtime thread.side
 associationUid:=thread.attempt.associationUid
 initiator:=thread.initiator
 expectedSystemName:=if thread.initiator then some (pair.peerName thread.side) else none
 expectedEndpoint:=
  if thread.initiator then (pair.runtime thread.side).peers (pair.peerName thread.side)
  else none

def localHello (thread:Thread):Hello:=(pair.side thread).localHello

def fails (failure:Handshake.HandshakeFailure):Phase:=
 match failure with
 | .failure reason detail=>.failing false reason detail
 | .negotiation _=>.failing false .protocolViolation (pair.describe failure)
 | .wire _=>.failing true .protocolViolation (pair.describe failure)

def register (w:World) (thread:Thread):Option Turn:=
 match w.phase thread with
 | .absent=>some
  ⟨if thread.initiator then .starting else .awaitingHello,
   (w.manager thread.side).registerAndStart thread.attempt
    (.create thread.attempt.associationUid thread.initiator
     (pair.side thread).expectedSystemName) true,
   w.outbound⟩
 | _=>none

def negotiate (w:World) (thread:Thread) (peerHello:Hello):Turn:=
 match (pair.side thread).deriveAccept pair.nfc (pair.localHello thread) peerHello with
 | .ok (accept,_)=>w.send thread false (.helloAccept accept) (.awaitingAccept accept)
 | .error failure=>w.goTo thread (pair.fails failure)

def advance (w:World) (thread:Thread):Option Turn:=
 match w.phase thread with
 | .starting=>some (w.send thread false (.hello (pair.localHello thread)) .awaitingHello)
 | .greeted peerHello=>w.retain thread peerHello
 | .answering peerHello=>
  some (w.send thread false (.hello (pair.localHello thread)) (.negotiating peerHello))
 | .negotiating peerHello=>some (pair.negotiate w thread peerHello)
 | .shaken=>w.activate thread
 | .replacing replaced=>some
  ⟨if (w.association ⟨thread.side,replaced⟩).Ending then .activated else .notifying replaced,
   (w.manager thread.side).update replaced (·.requestClose .duplicateAssociation replacement),
   w.outbound⟩
 | .notifying replaced=>some
  ⟨.activated,w.manager thread.side,update w.outbound ⟨thread.side,replaced⟩
   ((w.outbound ⟨thread.side,replaced⟩).send true (farewell true .duplicateAssociation replacement))⟩
 | .activated=>
  if (w.association thread).state=.handshaking then
   some (w.revise thread (·.becomeActive) .running)
  else some (w.goTo thread .disconnecting)
 | .running=>
  if (w.association thread).Ending then some (w.goTo thread .disconnecting) else none
 | .failing terminal reason detail=>
  some (w.send thread terminal (farewell terminal reason detail) (.ending (some reason) detail))
 | .ending reason detail=>
  some (w.revise thread (·.setCloseReason reason detail) .disconnecting)
 | .disconnected=>some (w.revise thread (·.markClosed) .unregistering)
 | .unregistering=>
  some ⟨.done,(w.manager thread.side).associationClosed thread.attempt,w.outbound⟩
 | _=>none

def receiveHello (w:World) (thread:Thread) (frame:Frame):Turn:=
 match frame with
 | .hello peerHello=>
  match (pair.side thread).validatePeerHello peerHello with
  | .ok ()=>w.revise thread
   (·.greet peerHello.systemName peerHello.systemIncarnationUid) (.greeted peerHello)
  | .error failure=>w.goTo thread (pair.fails failure)
 | .helloReject reject=>w.goTo thread (.ending (some reject.reason) reject.detail)
 | _=>w.goTo thread
  (.failing false .protocolViolation ("expected HELLO, got " ++ className frame))

def receive (w:World) (thread:Thread):Option Turn:=
 match (w.outbound thread.peer).frames with
 | []=>none
 | frame::_=>
  match w.phase thread with
  | .awaitingHello=>some (pair.receiveHello (w.received thread) thread frame)
  | .awaitingAccept accept=>some ((w.received thread).receiveAccept thread accept frame)
  | .running=>some ((w.received thread).receiveActive thread frame)
  | _=>none

end Pair

inductive RunEvent where
 | register (thread:Thread)
 | advance (thread:Thread)
 | receive (thread:Thread)
 | lose (thread:Thread) (detail:String)
 | disconnect (thread:Thread) (flushed:ℕ)

def RunEvent.thread : RunEvent → Thread
 | .register thread | .advance thread | .receive thread | .lose thread _
 | .disconnect thread _=>thread

def Pair.turn (w:World):RunEvent → Option Turn
 | .register thread=>pair.register w thread
 | .advance thread=>pair.advance w thread
 | .receive thread=>pair.receive w thread
 | .lose thread detail=>w.lose thread detail
 | .disconnect thread flushed=>w.disconnect thread flushed

def Pair.step (attempts:List Attempt) (w:World) (event:RunEvent):Option World:=
 if event.thread.attempt∈attempts then
  (pair.turn w event).map (w.apply event.thread)
 else none

structure Initial (w:World):Prop where
 running:∀side,(w.manager side).state=.running
 incarnation:∀side,(w.manager side).incarnationUid=(pair.runtime side).incarnationUid
 associations:∀side,(w.manager side).associations=[]
 active:∀side,(w.manager side).active (pair.peerName side)=none
 known:∀side,¬(w.manager side).KnownOther (pair.peerName side) (pair.peerUid side)
 absent:∀thread,w.phase thread=.absent
 outbound:∀thread,w.outbound thread=.create

def attemptsSystem (attempts:List Attempt):System World RunEvent where
 init:=Initial pair
 step w event w':=pair.step attempts w event=some w'

end

end Movie.AssociationRun
