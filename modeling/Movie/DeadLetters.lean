import Movie.MailboxFifo
import Mathlib.Algebra.Order.Group.Multiset

/-!
# Tells and dead letters of a local actor

`LocalActorRef.tell` of `actor/impl/ref.py` over the mailbox of an actor. A tell asks the cell under
its lock, calls `mailbox.send` outside it, and publishes a dead letter when the message is refused.
-/
namespace Movie.DeadLetters

open Function Reachability Mailbox ActorContext

/-- How far a call of `tell` has come. A tell is `raised` as soon as it can only raise. -/
inductive Tell where
 | unmade
 | checking
 | sending
 | enqueuing
 | refusing
 | overflowing
 | returned
 | raised
 deriving DecidableEq

/-- User messages are the numbers of the tells that send them; `none` is any other message,
 such as one that a remote system sends. -/
abbrev Payload:=Message (Option ℕ)

def tellOf : Payload → Option ℕ
 | .user (some tell)=>some tell
 | .user none | .system _=>none

def numbers (slots:List (Slot Payload)):List ℕ:=
 slots.filterMap fun slot=>tellOf slot.message

/-- The mailbox with the actor behind it, the cell and the calls of `tell`. `publishing` is
 what `stop_user_messages` has taken out of the mailbox and not published yet. -/
structure Ref where
 world:World LocalActorContext (Invocation (Option ℕ)) Payload
 attached:Bool
 accepting:Bool
 closed:Bool
 tells:ℕ → Tell
 publishing:List ℕ
 deadLetters:List ℕ

inductive Event where
 | attach
 | tell (tell:ℕ)
 | check (tell:ℕ)
 | send (tell:ℕ)
 | refuse (tell:ℕ)
 | overflow (tell:ℕ)
 | stopCell
 | closeCell
 | publish
 | mailbox (event:Mailbox.Event (Invocation (Option ℕ)) Payload)

def sent : Enqueued → Tell
 | .returned _=>.returned
 | .raised=>.overflowing
 | .dispatching=>.enqueuing

namespace Ref

def create (context:LocalActorContext):Ref where
 world:=.create context
 attached:=false
 accepting:=true
 closed:=false
 tells _:=.unmade
 publishing:=[]
 deadLetters:=[]

def setTell (r:Ref) (tell:ℕ) (state:Tell):Ref:=
 { r with tells:=update r.tells tell state }

/-- The locked section of `ActorCell.tell`. -/
def check (r:Ref):Tell:=
 if r.closed || !r.accepting then .refusing
 else if r.attached then .sending
 else .raised

def send (config:Config) (r:Ref) (tell:ℕ):Ref:=
 let message:Payload:=.user (some tell)
 let result:=r.world.mailbox.enqueue config r.world.actor.canProcessUserMessages .send
  ⟨r.world.sent,message⟩
 { r.setTell tell (sent result.1) with
   world:=r.world.enqueue config (localActor (Option ℕ)) .send message }

def At (r:Ref) (point:Point):Prop:=
 ∃batch invocation system,.invoking batch invocation system∈r.world.workers ∧
  invocation.point=point

/-- The steps of the mailbox and its actor. The cell's flag is set before `stop_user_messages`
 and `close` of the mailbox are called, and dead letters are published before the actor goes on. -/
def Allows (r:Ref):Mailbox.Event (Invocation (Option ℕ)) Payload → Prop
 | .enqueue _ message=>tellOf message=none
 | .call .stopUserMessages=>r.accepting=false ∧ r.publishing=[]
 | .call .close=>r.closed=true ∧ r.publishing=[]
 | .call .internal | .call (.deliver _) | .finish _=>r.publishing=[]
 | .dispatch _ _ | .rollback _ | .publish _ | .dequeue | .work _ _=>True

def settle (tells:ℕ → Tell):
  Mailbox.Event (Invocation (Option ℕ)) Payload → ℕ → Tell
 | .dispatch enqueuer .published=>
  match tellOf enqueuer.slot.message with
  | some tell=>update tells tell .returned
  | none=>tells
 | .rollback enqueuer=>
  match tellOf enqueuer.slot.message with
  | some tell=>update tells tell .raised
  | none=>tells
 | _=>tells

def taken (r:Ref):Mailbox.Event (Invocation (Option ℕ)) Payload → List ℕ
 | .call .stopUserMessages=>numbers r.world.mailbox.messages
 | _=>[]

end Ref

abbrev boxSystem (config:Config):=mailboxSystem config (localActor (Option ℕ))

def step (config:Config) (r:Ref):Event → Ref → Prop
 | .attach,r'=>r'={ r with attached:=true }
 | .tell tell,r'=>r.tells tell=.unmade ∧ r'=r.setTell tell .checking
 | .check tell,r'=>r.tells tell=.checking ∧ r'=r.setTell tell r.check
 | .send tell,r'=>r.tells tell=.sending ∧ r'=r.send config tell
 | .refuse tell,r'=>r.tells tell=.refusing ∧
  r'={ r.setTell tell .returned with deadLetters:=r.deadLetters++[tell] }
 | .overflow tell,r'=>r.tells tell=.overflowing ∧
  r'={ r.setTell tell .raised with deadLetters:=r.deadLetters++[tell] }
 | .stopCell,r'=>(r.At .stopping ∨ r.At .completing) ∧ r'={ r with accepting:=false }
 | .closeCell,r'=>r.At .closing ∧ r'={ r with accepting:=false,closed:=true }
 | .publish,r'=>∃tell rest,r.publishing=tell::rest ∧
  r'={ r with publishing:=rest,deadLetters:=r.deadLetters++[tell] }
 | .mailbox event,r'=>r.Allows event ∧ ∃world,
  (boxSystem config).step r.world event world ∧
  r'={ r with
   world:=world
   tells:=Ref.settle r.tells event
   publishing:=r.publishing++r.taken event }

def system (config:Config):System Ref Event where
 init r:=∃context,(localActor (Option ℕ)).init context ∧ r=.create context
 step:=step config

end Movie.DeadLetters
