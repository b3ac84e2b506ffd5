import Movie.Reachability
import Mathlib.Data.List.Basic

/-!
# The default mailbox

`DefaultMailbox` of `mailbox/default.py`. Every section that holds the lock is one function on the
mailbox's fields; the code between two sections is a program point of its thread.
-/
namespace Movie.Mailbox

open Reachability

/-- A queued message. The number stands for the identity that `_Entry` gives a message;
 the three-way difference of entry, raw item and unwrapped message is not observable. -/
structure Slot (M:Type) where
 id:ℕ
 message:M

structure Config where
 capacity:ℕ
 throughput:ℕ
 capacity_pos:0<capacity
 throughput_pos:0<throughput

structure DefaultMailbox (M:Type) where
 messages:List (Slot M)
 systemMessages:List (Slot M)
 inFlightUserMessages:ℕ
 scheduled:Bool
 running:Bool
 inlineRunRequested:Bool
 acceptingUserMessages:Bool
 closed:Bool

inductive MailboxAdmissionResult where
 | accepted
 | full
 | stopping
 deriving DecidableEq

inductive Sending where
 | send
 | trySend
 | sendSystem
 deriving DecidableEq

def Sending.userMessage : Sending → Bool
 | .send | .trySend=>true
 | .sendSystem=>false

def Sending.reportFull : Sending → Bool
 | .trySend=>true
 | .send | .sendSystem=>false

/-- How the first locked section of `_enqueue` ends; `raised` is `MailboxCapacityExceeded`. -/
inductive Enqueued where
 | returned (result:MailboxAdmissionResult)
 | raised
 | dispatching
 deriving DecidableEq

namespace DefaultMailbox

variable {M:Type}

def create : DefaultMailbox M where
 messages:=[]
 systemMessages:=[]
 inFlightUserMessages:=0
 scheduled:=false
 running:=false
 inlineRunRequested:=false
 acceptingUserMessages:=true
 closed:=false

def target (box:DefaultMailbox M) (userMessage:Bool):List (Slot M):=
 if userMessage then box.messages else box.systemMessages

def append (box:DefaultMailbox M) (userMessage:Bool) (slot:Slot M):DefaultMailbox M:=
 if userMessage then { box with messages:=box.messages++[slot] }
 else { box with systemMessages:=box.systemMessages++[slot] }

def enqueue (config:Config) (canProcess:Bool) (box:DefaultMailbox M) (sending:Sending)
  (slot:Slot M):Enqueued×DefaultMailbox M:=
 let user:=sending.userMessage
 if box.closed || (user && !box.acceptingUserMessages) then (.returned .stopping,box)
 else if user && decide (config.capacity≤box.messages.length+box.inFlightUserMessages) then
  (if sending.reportFull then .returned .full else .raised,box)
 else if box.scheduled || (user && !canProcess) then
  (.returned .accepted,box.append user slot)
 else (.dispatching,{ box.append user slot with scheduled:=true })

def holdsMessages (box:DefaultMailbox M):Bool:=
 !box.systemMessages.isEmpty || !box.messages.isEmpty

/-- What `_enqueue` does under the lock after its dispatch raised. -/
structure Rollback (M:Type) where
 lifecycleAccepted:Bool
 publishFallback:Bool
 mailbox:DefaultMailbox M

def rollback (box:DefaultMailbox M) (userMessage:Bool) (id:ℕ):Rollback M:=
 let queued:=(box.target userMessage).any fun slot=>slot.id == id
 let box':=if queued && userMessage then
  { box with messages:=box.messages.eraseP fun slot=>slot.id == id }
  else box
 if queued && box'.holdsMessages then
  ⟨queued && !userMessage,true,{ box' with scheduled:=true }⟩
 else
  ⟨queued && !userMessage,false,if queued then { box' with scheduled:=false } else box'⟩

def close (box:DefaultMailbox M):DefaultMailbox M:=
 { box with
   acceptingUserMessages:=false
   closed:=true
   messages:=[]
   systemMessages:=[]
   inFlightUserMessages:=0 }

def stopUserMessages (box:DefaultMailbox M):DefaultMailbox M:=
 { box with acceptingUserMessages:=false,messages:=[] }

/-- The head of `__call__`: an activation that finds the mailbox running leaves a request. -/
def enter (box:DefaultMailbox M):Bool×DefaultMailbox M:=
 if box.running then (false,{ box with inlineRunRequested:=true })
 else (true,{ box with running:=true })

/-- The three tests that end a run: the mailbox is closed, empty, or holds only user
 messages that the actor cannot process now. -/
def nothingToRun (canProcess:Bool) (box:DefaultMailbox M):Bool:=
 box.closed || (box.systemMessages.isEmpty && box.messages.isEmpty) ||
  (box.systemMessages.isEmpty && !canProcess)

/-- The head of the loop of `_run_batch`. System messages go first. -/
def takeBatch (config:Config) (canProcess:Bool) (box:DefaultMailbox M):
  Option (List (Slot M)×Bool)×DefaultMailbox M:=
 if box.nothingToRun canProcess then (none,{ box with scheduled:=false })
 else if box.systemMessages.isEmpty then
  (some (box.messages.take config.throughput,false),
   { box with
     messages:=box.messages.drop config.throughput
     inFlightUserMessages:=
      box.inFlightUserMessages+(box.messages.take config.throughput).length })
 else
  (some (box.systemMessages.take config.throughput,true),
   { box with systemMessages:=box.systemMessages.drop config.throughput })

def restoreBatch (box:DefaultMailbox M) (messages:List (Slot M)) (system:Bool):
  DefaultMailbox M:=
 let box':=if system then box else { box with inFlightUserMessages:=0 }
 if box'.closed || messages.isEmpty then box'
 else if system then { box' with systemMessages:=messages++box'.systemMessages }
 else { box' with messages:=messages++box'.messages }

/-- The tests after a batch in `_run_batch`, and those of `_recover_after_failure`. -/
def continues (canProcess:Bool) (box:DefaultMailbox M):Bool×DefaultMailbox M:=
 if box.nothingToRun canProcess then (false,{ box with scheduled:=false }) else (true,box)

/-- After a hand-off: was the activation run, or noted, while this worker was running? -/
def ranInline (box:DefaultMailbox M):Bool×DefaultMailbox M:=
 (box.inlineRunRequested,{ box with inlineRunRequested:=false })

/-- The end of the loop of `__call__`. -/
def leave (box:DefaultMailbox M):Bool×DefaultMailbox M:=
 if box.inlineRunRequested then (true,{ box with inlineRunRequested:=false })
 else (false,{ box with running:=false })

def clearInFlight (box:DefaultMailbox M):DefaultMailbox M:=
 { box with inFlightUserMessages:=0 }

/-- `_recover_after_failure` once its dispatch raised: only lifecycle messages are
 published again. -/
def recoveryRejected (box:DefaultMailbox M):Bool×DefaultMailbox M:=
 if box.systemMessages.isEmpty then (false,{ box with scheduled:=false }) else (true,box)

def hasWork (canProcess:Bool) (box:DefaultMailbox M):Bool:=
 !box.systemMessages.isEmpty || (!box.messages.isEmpty && canProcess)

end DefaultMailbox

section

variable {M:Type} (box:DefaultMailbox M)

/-- What the first section of `_enqueue` checked before it appended a message. -/
def Admits (config:Config) (sending:Sending):Prop:=
 box.closed=false ∧ (sending.userMessage=true →
  box.acceptingUserMessages=true ∧
   box.messages.length+box.inFlightUserMessages<config.capacity)

lemma enqueue_cases (config:Config) (canProcess:Bool) (sending:Sending) (slot:Slot M):
  (∃result,box.enqueue config canProcess sending slot=(result,box) ∧
   (result=.returned .stopping ∨ result=.returned .full ∨
    (result=.raised ∧ sending.userMessage=true))) ∨
  (Admits box config sending ∧
   (box.scheduled=true ∨ (sending.userMessage=true ∧ canProcess=false)) ∧
   box.enqueue config canProcess sending slot =
    (.returned .accepted,box.append sending.userMessage slot)) ∨
  (Admits box config sending ∧ box.scheduled=false ∧
   box.enqueue config canProcess sending slot =
    (.dispatching,{ box.append sending.userMessage slot with scheduled:=true })):=by
 unfold DefaultMailbox.enqueue
 dsimp only
 split_ifs with hclosed hcapacity hreport hscheduled
 · exact .inl ⟨_,rfl,.inl rfl⟩
 · exact .inl ⟨_,rfl,.inr (.inl rfl)⟩
 · refine .inl ⟨_,rfl,.inr (.inr ⟨rfl,?_⟩)⟩
   simp only [Bool.and_eq_true] at hcapacity
   exact hcapacity.1
 all_goals
  have hopen:box.closed=false:=by
   cases hc:box.closed with
   | false=>rfl
   | true=>simp [hc] at hclosed
  have hadmits:Admits box config sending:=by
   refine ⟨hopen,fun huser=>?_⟩
   simp only [hopen,huser,Bool.false_or,Bool.true_and,Bool.not_eq_true',
    Bool.not_eq_false,decide_eq_true_eq,Nat.not_le] at hclosed hcapacity
   exact ⟨hclosed,hcapacity⟩
 · refine .inr (.inl ⟨hadmits,?_,rfl⟩)
   simpa using hscheduled
 · refine .inr (.inr ⟨hadmits,?_,rfl⟩)
   simp only [Bool.or_eq_true,not_or,Bool.not_eq_true] at hscheduled
   exact hscheduled.1

lemma enqueue_send (config:Config) (canProcess:Bool) (slot:Slot M):
  ((box.closed=true ∨ box.acceptingUserMessages=false) ∧
   box.enqueue config canProcess .send slot=(.returned .stopping,box)) ∨
  ((box.closed=false ∧ box.acceptingUserMessages=true) ∧
   ((config.capacity≤box.messages.length+box.inFlightUserMessages ∧
    box.enqueue config canProcess .send slot=(.raised,box)) ∨
    (box.messages.length+box.inFlightUserMessages<config.capacity ∧
     (box.enqueue config canProcess .send slot=(.returned .accepted,box.append true slot) ∨
      box.enqueue config canProcess .send slot =
       (.dispatching,{ box.append true slot with scheduled:=true }))))):=by
 unfold DefaultMailbox.enqueue
 cases hclosed:box.closed with
 | true=>exact .inl ⟨.inl rfl,by simp⟩
 | false=>
  cases haccepting:box.acceptingUserMessages with
  | false=>exact .inl ⟨.inr rfl,by simp [Sending.userMessage]⟩
  | true=>
   refine .inr ⟨⟨rfl,rfl⟩,?_⟩
   simp only [Sending.userMessage,Sending.reportFull,Bool.false_or,Bool.true_and,
    Bool.not_true,Bool.false_eq_true,if_false,decide_eq_true_eq]
   by_cases hfull:config.capacity≤box.messages.length+box.inFlightUserMessages
   · exact .inl ⟨hfull,by rw [if_pos hfull]⟩
   · refine .inr ⟨Nat.lt_of_not_le hfull,?_⟩
     rw [if_neg hfull]
     split_ifs
     · exact .inl rfl
     · exact .inr rfl

def takenBack (user:Bool) (id:ℕ):DefaultMailbox M:=
 if user then { box with messages:=box.messages.eraseP fun slot=>slot.id == id } else box

lemma rollback_of_queued {user:Bool} {id:ℕ}
  (hqueued:∃slot∈box.target user,slot.id=id):box.rollback user id =
   ⟨!user,(takenBack box user id).holdsMessages,
    { takenBack box user id with scheduled:=(takenBack box user id).holdsMessages }⟩:=by
 have hany:((box.target user).any fun slot=>slot.id == id)=true:=by
  obtain ⟨slot,hmem,hid⟩:=hqueued
  exact List.any_eq_true.mpr ⟨slot,hmem,by simpa using hid⟩
 unfold DefaultMailbox.rollback
 cases user with
 | false=>
  simp only [hany,takenBack,Bool.and_false,Bool.true_and,Bool.false_eq_true,if_false,if_true]
  cases box.holdsMessages <;> rfl
 | true=>
  simp only [hany,takenBack,Bool.and_true,Bool.true_and,if_true]
  split_ifs with hholds
  · rw [hholds]
  · rw [Bool.not_eq_true] at hholds
    rw [hholds]

end

/-- What code running inside `invoke_batch` does to its mailbox. -/
inductive Call (M:Type) where
 | internal
 | deliver (slot:Slot M)
 | stopUserMessages
 | close

inductive BatchResult (M:Type) where
 | returned (remaining:List (Slot M))
 | batchFailed (remaining:List (Slot M)) (system:Bool)
 | raised

/-- The actor behind a mailbox (`InternalActorContext`): its state and the program points
 of `invoke_batch`. Its state changes inside a batch only. -/
structure Actor (σ ι M:Type) where
 init:σ → Prop
 canProcessUserMessages:σ → Bool
 invokeBatch:List (Slot M) → Bool → ι
 call:σ → ι → Call M → σ → ι → Prop
 finish:σ → ι → BatchResult M → Prop

inductive DispatchOutcome where
 | published
 | runtimeError
 | otherError
 deriving DecidableEq

inductive EnqueuePoint where
 | dispatching
 | rejected
 | publishing (lifecycleAccepted:Bool)
 deriving DecidableEq

structure Enqueuer (M:Type) where
 slot:Slot M
 sending:Sending
 point:EnqueuePoint

/-- A worker inside `__call__`, named by what it does next. The batch that `invoke_batch`
 was given is kept until it has been accounted for. -/
inductive Worker (ι M:Type) where
 | arriving
 | taking
 | invoking (batch:List (Slot M)) (invocation:ι) (system:Bool)
 | restoring (batch remaining:List (Slot M)) (system:Bool)
 | checking
 | handingOff
 | handedOff
 | batchFailed (batch remaining:List (Slot M)) (system:Bool)
 | raised (batch:List (Slot M)) (system:Bool)
 | recovering
 | recoveryDispatching
 | recoveryRejected
 | recoveryPublishing
 | leaving

structure Advance (ι M:Type) where
 mailbox:DefaultMailbox M
 worker:Option (Worker ι M)
 published:ℕ

section

variable {σ ι M:Type}

def Worker.advance (config:Config) (actor:Actor σ ι M) (state:σ) (box:DefaultMailbox M)
  (outcome:DispatchOutcome):Worker ι M → Option (Advance ι M)
 | .arriving=>
  match box.enter with
  | (true,box')=>some ⟨box',some .taking,0⟩
  | (false,box')=>some ⟨box',none,0⟩
 | .taking=>
  match box.takeBatch config (actor.canProcessUserMessages state) with
  | (some (batch,system),box')=>
   some ⟨box',some (.invoking batch (actor.invokeBatch batch system) system),0⟩
  | (none,box')=>some ⟨box',some .leaving,0⟩
 | .invoking ..=>none
 | .restoring _ remaining system=>some ⟨box.restoreBatch remaining system,some .checking,0⟩
 | .checking=>
  match box.continues (actor.canProcessUserMessages state) with
  | (true,box')=>some ⟨box',some .handingOff,0⟩
  | (false,box')=>some ⟨box',some .leaving,0⟩
 | .handingOff=>
  match outcome with
  | .published=>some ⟨box,some .handedOff,1⟩
  | .runtimeError=>some ⟨box,some .taking,0⟩
  | .otherError=>some ⟨box,some (.raised [] true),0⟩
 | .handedOff=>
  match box.ranInline with
  | (true,box')=>some ⟨box',some .taking,0⟩
  | (false,box')=>some ⟨box',some .leaving,0⟩
 | .batchFailed _ remaining system=>
  some ⟨box.restoreBatch remaining system,some .recovering,0⟩
 | .raised ..=>some ⟨box.clearInFlight,some .recovering,0⟩
 | .recovering=>
  match box.continues (actor.canProcessUserMessages state) with
  | (true,box')=>some ⟨box',some .recoveryDispatching,0⟩
  | (false,box')=>some ⟨box',some .leaving,0⟩
 | .recoveryDispatching=>
  match outcome with
  | .published=>some ⟨box,some .leaving,1⟩
  | .runtimeError | .otherError=>some ⟨box,some .recoveryRejected,0⟩
 | .recoveryRejected=>
  match box.recoveryRejected with
  | (true,box')=>some ⟨box',some .recoveryPublishing,0⟩
  | (false,box')=>some ⟨box',some .leaving,0⟩
 | .recoveryPublishing=>some ⟨box,some .leaving,1⟩
 | .leaving=>
  match box.leave with
  | (true,box')=>some ⟨box',some .taking,0⟩
  | (false,box')=>some ⟨box',none,0⟩

inductive Advances (config:Config) (actor:Actor σ ι M) (state:σ) (box:DefaultMailbox M):
  Worker ι M → Advance ι M → Prop
 | start (idle:box.running=false):
  Advances config actor state box .arriving ⟨{ box with running:=true },some .taking,0⟩
 | request (busy:box.running=true):
  Advances config actor state box .arriving ⟨{ box with inlineRunRequested:=true },none,0⟩
 | takeUser (work:box.nothingToRun (actor.canProcessUserMessages state)=false)
  (system:box.systemMessages=[]):
  Advances config actor state box .taking
   ⟨{ box with
    messages:=box.messages.drop config.throughput
    inFlightUserMessages:=
     box.inFlightUserMessages+(box.messages.take config.throughput).length },
    some (.invoking (box.messages.take config.throughput)
     (actor.invokeBatch (box.messages.take config.throughput) false) false),0⟩
 | takeSystem (work:box.nothingToRun (actor.canProcessUserMessages state)=false):
  Advances config actor state box .taking
   ⟨{ box with systemMessages:=box.systemMessages.drop config.throughput },
    some (.invoking (box.systemMessages.take config.throughput)
     (actor.invokeBatch (box.systemMessages.take config.throughput) true) true),0⟩
 | settle (worker:Worker ι M)
  (loop:worker=.taking ∨ worker=.checking ∨ worker=.recovering)
  (idle:box.nothingToRun (actor.canProcessUserMessages state)=true):
  Advances config actor state box worker ⟨{ box with scheduled:=false },some .leaving,0⟩
 | restore (batch remaining:List (Slot M)) (system:Bool):
  Advances config actor state box (.restoring batch remaining system)
   ⟨box.restoreBatch remaining system,some .checking,0⟩
 | check:Advances config actor state box .checking ⟨box,some .handingOff,0⟩
 | handOff:Advances config actor state box .handingOff ⟨box,some .handedOff,1⟩
 | runAgain:Advances config actor state box .handingOff ⟨box,some .taking,0⟩
 | handOffRaised:Advances config actor state box .handingOff ⟨box,some (.raised [] true),0⟩
 | inline (worker:Worker ι M) (gap:worker=.handedOff ∨ worker=.leaving)
  (requested:box.inlineRunRequested=true):
  Advances config actor state box worker
   ⟨{ box with inlineRunRequested:=false },some .taking,0⟩
 | handedOff (requested:box.inlineRunRequested=false):
  Advances config actor state box .handedOff
   ⟨{ box with inlineRunRequested:=false },some .leaving,0⟩
 | restoreFailed (batch remaining:List (Slot M)) (system:Bool):
  Advances config actor state box (.batchFailed batch remaining system)
   ⟨box.restoreBatch remaining system,some .recovering,0⟩
 | clear (batch:List (Slot M)) (system:Bool):
  Advances config actor state box (.raised batch system)
   ⟨box.clearInFlight,some .recovering,0⟩
 | recover:Advances config actor state box .recovering ⟨box,some .recoveryDispatching,0⟩
 | publish (worker:Worker ι M)
  (dispatch:worker=.recoveryDispatching ∨ worker=.recoveryPublishing):
  Advances config actor state box worker ⟨box,some .leaving,1⟩
 | recoveryFails:
  Advances config actor state box .recoveryDispatching ⟨box,some .recoveryRejected,0⟩
 | lifecycle (system:box.systemMessages≠[]):
  Advances config actor state box .recoveryRejected ⟨box,some .recoveryPublishing,0⟩
 | abandon (system:box.systemMessages=[]):
  Advances config actor state box .recoveryRejected
   ⟨{ box with scheduled:=false },some .leaving,0⟩
 | finish (requested:box.inlineRunRequested=false):
  Advances config actor state box .leaving ⟨{ box with running:=false },none,0⟩

lemma Worker.advance_cases {config:Config} {actor:Actor σ ι M} {state:σ}
  {box:DefaultMailbox M} {outcome:DispatchOutcome} {worker:Worker ι M}
  {result:Advance ι M} (h:worker.advance config actor state box outcome=some result):
  Advances config actor state box worker result:=by
 cases worker with
 | arriving=>
  unfold advance DefaultMailbox.enter at h
  split_ifs at h with hrun <;> cases h
  · exact .request hrun
  · exact .start (by simpa using hrun)
 | taking=>
  unfold advance DefaultMailbox.takeBatch at h
  dsimp only at h
  split_ifs at h with hidle hsystem <;> cases h
  · exact .settle _ (.inl rfl) hidle
  · exact .takeUser (by simpa using hidle) (by simpa using hsystem)
  · exact .takeSystem (by simpa using hidle)
 | invoking=>cases h
 | restoring batch remaining system=>cases h; exact .restore batch remaining system
 | checking=>
  unfold advance DefaultMailbox.continues at h
  dsimp only at h
  split_ifs at h with hidle <;> cases h
  · exact .settle _ (.inr (.inl rfl)) hidle
  · exact .check
 | handingOff=>
  cases outcome <;> cases h
  · exact .handOff
  · exact .runAgain
  · exact .handOffRaised
 | handedOff=>
  unfold advance DefaultMailbox.ranInline at h
  cases hreq:box.inlineRunRequested <;> rw [hreq] at h <;> cases h
  · exact .handedOff hreq
  · exact .inline _ (.inl rfl) hreq
 | batchFailed batch remaining system=>cases h; exact .restoreFailed batch remaining system
 | raised batch system=>cases h; exact .clear batch system
 | recovering=>
  unfold advance DefaultMailbox.continues at h
  dsimp only at h
  split_ifs at h with hidle <;> cases h
  · exact .settle _ (.inr (.inr rfl)) hidle
  · exact .recover
 | recoveryDispatching=>
  cases outcome <;> cases h
  · exact .publish _ (.inl rfl)
  · exact .recoveryFails
  · exact .recoveryFails
 | recoveryRejected=>
  unfold advance DefaultMailbox.recoveryRejected at h
  dsimp only at h
  split_ifs at h with hsystem <;> cases h
  · exact .abandon (by simpa using hsystem)
  · exact .lifecycle (by simpa using hsystem)
 | recoveryPublishing=>cases h; exact .publish _ (.inr rfl)
 | leaving=>
  unfold advance DefaultMailbox.leave at h
  split_ifs at h with hreq <;> cases h
  · exact .inline _ (.inr rfl) hreq
  · exact .finish (by simpa using hreq)

def Worker.finished (batch:List (Slot M)) (system:Bool):BatchResult M → Worker ι M
 | .returned remaining=>.restoring batch remaining system
 | .batchFailed remaining system'=>.batchFailed batch remaining system'
 | .raised=>.raised batch system

def Call.apply (box:DefaultMailbox M):Call M → DefaultMailbox M
 | .internal | .deliver _=>box
 | .stopUserMessages=>box.stopUserMessages
 | .close=>box.close

def Call.delivered : Call M → List (Slot M)
 | .deliver slot=>[slot]
 | .internal | .stopUserMessages | .close=>[]

end

/-- The mailbox, the actor behind it and every thread inside one of its methods. `activations`
 counts its tasks in the dispatcher. The last three fields record the user messages accepted
 and not rolled back, those whose send raised and those passed to the behaviour. -/
structure World (σ ι M:Type) where
 mailbox:DefaultMailbox M
 actor:σ
 enqueuers:List (Enqueuer M)
 activations:ℕ
 workers:List (Worker ι M)
 sent:ℕ
 accepted:List (Slot M)
 refused:List (Slot M)
 delivered:List (Slot M)

inductive Event (ι M:Type) where
 | enqueue (sending:Sending) (message:M)
 | dispatch (enqueuer:Enqueuer M) (outcome:DispatchOutcome)
 | rollback (enqueuer:Enqueuer M)
 | publish (enqueuer:Enqueuer M)
 | dequeue
 | work (worker:Worker ι M) (outcome:DispatchOutcome)
 | call (call:Call M)
 | finish (result:BatchResult M)

section

variable {σ ι M:Type}

def World.create (state:σ):World σ ι M where
 mailbox:=.create
 actor:=state
 enqueuers:=[]
 activations:=0
 workers:=[]
 sent:=0
 accepted:=[]
 refused:=[]
 delivered:=[]

def userSlots (sending:Sending) (slot:Slot M):List (Slot M):=
 if sending.userMessage then [slot] else []

def World.enqueue (config:Config) (actor:Actor σ ι M) (s:World σ ι M) (sending:Sending)
  (message:M):World σ ι M:=
 let slot:Slot M:=⟨s.sent,message⟩
 let kept:=userSlots sending slot
 match s.mailbox.enqueue config (actor.canProcessUserMessages s.actor) sending slot with
 | (.returned .accepted,box)=>
  { s with mailbox:=box,sent:=s.sent+1,accepted:=s.accepted++kept }
 | (.dispatching,box)=>
  { s with
    mailbox:=box
    sent:=s.sent+1
    accepted:=s.accepted++kept
    enqueuers:=⟨slot,sending,.dispatching⟩::s.enqueuers }
 | (.raised,box)=>{ s with mailbox:=box,sent:=s.sent+1,refused:=s.refused++kept }
 | (.returned _,box)=>{ s with mailbox:=box,sent:=s.sent+1 }

lemma World.enqueue_cases (config:Config) (actor:Actor σ ι M) (s:World σ ι M)
  (sending:Sending) (message:M):(∃refused,(refused=[] ∨ refused=[⟨s.sent,message⟩]) ∧
   s.enqueue config actor sending message =
    { s with sent:=s.sent+1,refused:=s.refused++refused }) ∨
  (Admits s.mailbox config sending ∧
   (s.mailbox.scheduled=true ∨
    (sending.userMessage=true ∧ actor.canProcessUserMessages s.actor=false)) ∧
   s.enqueue config actor sending message =
    { s with
      mailbox:=s.mailbox.append sending.userMessage ⟨s.sent,message⟩
      sent:=s.sent+1
      accepted:=s.accepted++userSlots sending ⟨s.sent,message⟩ }) ∨
  (Admits s.mailbox config sending ∧ s.mailbox.scheduled=false ∧
   s.enqueue config actor sending message =
    { s with
      mailbox:={ s.mailbox.append sending.userMessage ⟨s.sent,message⟩ with
       scheduled:=true }
      sent:=s.sent+1
      accepted:=s.accepted++userSlots sending ⟨s.sent,message⟩
      enqueuers:=⟨⟨s.sent,message⟩,sending,.dispatching⟩::s.enqueuers }):=by
 rcases Mailbox.enqueue_cases s.mailbox config (actor.canProcessUserMessages s.actor) sending
  ⟨s.sent,message⟩ with
  ⟨result,heq,hresult⟩|⟨hadmits,hwhy,heq⟩|⟨hadmits,hidle,heq⟩
 · refine .inl ?_
   unfold World.enqueue
   rcases hresult with rfl|rfl|⟨rfl,huser⟩ <;> simp only [heq]
   · exact ⟨[],.inl rfl,by rw [List.append_nil]⟩
   · exact ⟨[],.inl rfl,by rw [List.append_nil]⟩
   · exact ⟨_,.inr rfl,by rw [userSlots,if_pos huser]⟩
 · refine .inr (.inl ⟨hadmits,hwhy,?_⟩)
   unfold World.enqueue
   simp only [heq]
 · refine .inr (.inr ⟨hadmits,hidle,?_⟩)
   unfold World.enqueue
   simp only [heq]

/-- The locked section after a rejected dispatch. A user message's send raises from here
 on, so its message counts as refused. -/
def World.rollback (s:World σ ι M) (enqueuer:Enqueuer M) (others:List (Enqueuer M)):
  World σ ι M:=
 let user:=enqueuer.sending.userMessage
 let result:=s.mailbox.rollback user enqueuer.slot.id
 { s with
   mailbox:=result.mailbox
   enqueuers:=if result.publishFallback then
    { enqueuer with point:=.publishing result.lifecycleAccepted }::others
    else others
   accepted:=if user then s.accepted.eraseP fun slot=>slot.id == enqueuer.slot.id
    else s.accepted
   refused:=if user then s.refused++[enqueuer.slot] else s.refused }

lemma World.rollback_of_queued {s:World σ ι M} {enqueuer:Enqueuer M}
  (others:List (Enqueuer M)) (hqueued:∃slot∈s.mailbox.target enqueuer.sending.userMessage,
   slot.id=enqueuer.slot.id):s.rollback enqueuer others =
   { s with
     mailbox:={ takenBack s.mailbox enqueuer.sending.userMessage enqueuer.slot.id with
      scheduled:=
       (takenBack s.mailbox enqueuer.sending.userMessage enqueuer.slot.id).holdsMessages }
     enqueuers:=
      if (takenBack s.mailbox enqueuer.sending.userMessage enqueuer.slot.id).holdsMessages then
       { enqueuer with point:=.publishing (!enqueuer.sending.userMessage) }::others
      else others
     accepted:=if enqueuer.sending.userMessage then
      s.accepted.eraseP fun slot=>slot.id == enqueuer.slot.id
      else s.accepted
     refused:=if enqueuer.sending.userMessage then s.refused++[enqueuer.slot]
      else s.refused }:=by
 unfold World.rollback
 simp only [Mailbox.rollback_of_queued s.mailbox hqueued]

def mailboxSystem (config:Config) (actor:Actor σ ι M):System (World σ ι M) (Event ι M) where
 init s:=∃state,actor.init state ∧ s=.create state
 step s event t:=
  match event with
  | .enqueue sending message=>t=s.enqueue config actor sending message
  | .dispatch enqueuer outcome=>∃before after,
   s.enqueuers=before++enqueuer::after ∧ enqueuer.point=.dispatching ∧
   t=if outcome=.published then
    { s with enqueuers:=before++after,activations:=s.activations+1 }
    else { s with enqueuers:=before++{ enqueuer with point:=.rejected }::after }
  | .rollback enqueuer=>∃before after,
   s.enqueuers=before++enqueuer::after ∧ enqueuer.point=.rejected ∧
   t=s.rollback enqueuer (before++after)
  | .publish enqueuer=>∃before after lifecycleAccepted,
   s.enqueuers=before++enqueuer::after ∧
   enqueuer.point=.publishing lifecycleAccepted ∧
   t={ s with enqueuers:=before++after,activations:=s.activations+1 }
  | .dequeue=>∃activations,s.activations=activations+1 ∧
   t={ s with activations:=activations,workers:=.arriving::s.workers }
  | .work worker outcome=>∃before after result,
   s.workers=before++worker::after ∧
   worker.advance config actor s.actor s.mailbox outcome=some result ∧
   t={ s with
    mailbox:=result.mailbox
    workers:=before++(result.worker.toList++after)
    activations:=s.activations+result.published }
  | .call call=>∃before after batch invocation system state invocation',
   s.workers=before ++ .invoking batch invocation system::after ∧
   actor.call s.actor invocation call state invocation' ∧
   t={ s with
    mailbox:=call.apply s.mailbox
    actor:=state
    workers:=before ++ .invoking batch invocation' system::after
    delivered:=s.delivered++call.delivered }
  | .finish result=>∃before after batch invocation system,
   s.workers=before ++ .invoking batch invocation system::after ∧
   actor.finish s.actor invocation result ∧
   t={ s with workers:=before ++ .finished batch system result::after }

end

end Movie.Mailbox
