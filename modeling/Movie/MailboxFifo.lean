import Movie.MailboxSchedule
import Movie.ActorContext

/-!
# Order and bound of a mailbox

A mailbox with a `LocalActorContext` behind it. The accepted user messages are, in order, those
passed to the behaviour, those taken out and those in the queue; while the actor stops some of the
last may be missing.
-/
namespace Movie.MailboxFifo

open Reachability Mailbox MailboxSchedule ActorContext

section

variable {U:Type}

def pendingOf : Worker (Invocation U) (Message U) → List (Slot (Message U))
 | .invoking _ invocation false=>invocation.rest
 | .restoring _ remaining false | .batchFailed _ remaining false=>remaining
 | _=>[]

def inFlightOf : Worker (Invocation U) (Message U) → List (Slot (Message U))
 | .invoking batch _ false | .restoring batch _ false | .batchFailed batch _ false
 | .raised batch false=>batch
 | _=>[]

def pending (workers:List (Worker (Invocation U) (Message U))):List (Slot (Message U)):=
 workers.flatMap pendingOf

def inFlight (workers:List (Worker (Invocation U) (Message U))):List (Slot (Message U)):=
 workers.flatMap inFlightOf

def WorkerOk (context:LocalActorContext):Worker (Invocation U) (Message U) → Prop
 | .invoking batch invocation system=>invocation.Sound context ∧
  invocation.system=system ∧ (system=false → invocation.rest.length≤batch.length)
 | .restoring batch remaining system | .batchFailed batch remaining system=>
  system=false → remaining.length≤batch.length
 | .raised batch _=>batch=[]
 | _=>True

def Undecided (enqueuer:Enqueuer (Message U)):Prop:=
 enqueuer.point=.dispatching ∨ enqueuer.point=.rejected

structure Fifo (config:Config) (s:World LocalActorContext (Invocation U) (Message U)):
  Prop where
 started:s.actor.Started
 accepting:¬s.actor.Stopping →
  s.mailbox.acceptingUserMessages=true ∧ s.mailbox.closed=false
 workers:∀worker∈s.workers,WorkerOk s.actor worker
 increasing:s.accepted.Pairwise fun a b=>a.id<b.id
 below:∀slot∈s.accepted,slot.id<s.sent
 refused:∀slot∈s.refused,slot.id<s.sent ∧ ∀kept∈s.accepted,kept.id≠slot.id
 order:∃tail,s.accepted=s.delivered++(pending s.workers++tail) ∧
  s.mailbox.messages.Sublist tail ∧ (¬s.actor.Stopping → tail=s.mailbox.messages)
 enqueuers:∀enqueuer∈s.enqueuers,enqueuer.slot.id<s.sent ∧ (Undecided enqueuer →
  enqueuer.sending.userMessage=true →
  ∀slot∈s.delivered++pending s.workers,slot.id≠enqueuer.slot.id)
 bound:s.mailbox.messages.length+(inFlight s.workers).length ≤ config.capacity
 counter:s.mailbox.closed=false →
  s.mailbox.inFlightUserMessages=(inFlight s.workers).length

end

section

variable {U:Type} {config:Config} {s:World LocalActorContext (Invocation U) (Message U)}

variable {enqueuers:List (Enqueuer (Message U))} {enqueuer:Enqueuer (Message U)}

lemma Fifo.create : Fifo config
  (World.create ⟨.starting,false,false⟩:World _ (Invocation U) (Message U)) where
 started:=⟨nofun,nofun⟩
 accepting:=fun _=>⟨rfl,rfl⟩
 workers:=nofun
 increasing:=List.Pairwise.nil
 below:=nofun
 refused:=nofun
 order:=⟨[],rfl,.slnil,fun _=>rfl⟩
 enqueuers:=nofun
 bound:=Nat.zero_le _
 counter:=fun _=>rfl

lemma Fifo.accepted_lt (h:Fifo config s) {slot:Slot (Message U)}
  (hslot:slot∈s.delivered++pending s.workers):slot.id<s.sent:=by
 obtain ⟨tail,heq,_⟩:=h.order
 apply h.below
 rw [heq,←List.append_assoc]
 exact List.mem_append_left _ hslot

lemma increasing_concat {accepted:List (Slot (Message U))} {last:Slot (Message U)}
  (hincreasing:accepted.Pairwise fun a b=>a.id<b.id) (hbelow:∀slot∈accepted,slot.id<last.id):
  (accepted++[last]).Pairwise fun a b=>a.id<b.id:=by
 rw [List.pairwise_append]
 refine ⟨hincreasing,List.pairwise_singleton _ _,?_⟩
 intro slot hslot slot' hlast
 rw [List.mem_singleton.mp hlast]
 exact hbelow slot hslot

lemma Fifo.admit (h:Fifo config s) {sending:Sending} (hadmits:Admits s.mailbox config sending)
  (message:Message U) (scheduled:Bool)
  (hnew:∀enqueuer∈enqueuers,enqueuer∈s.enqueuers ∨ enqueuer.slot.id=s.sent):
  Fifo config { s with
   mailbox:={ s.mailbox.append sending.userMessage ⟨s.sent,message⟩ with
    scheduled:=scheduled }
   sent:=s.sent+1
   accepted:=s.accepted++userSlots sending ⟨s.sent,message⟩
   enqueuers:=enqueuers }:=by
 have henqueuers:∀enqueuer∈enqueuers,enqueuer.slot.id<s.sent+1 ∧
  (Undecided enqueuer → enqueuer.sending.userMessage=true →
   ∀slot∈s.delivered++pending s.workers,slot.id≠enqueuer.slot.id):=by
  intro enqueuer hmem
  rcases hnew enqueuer hmem with hold|hid
  · obtain ⟨hlt,hfresh⟩:=h.enqueuers enqueuer hold
    exact ⟨Nat.lt_succ_of_lt hlt,hfresh⟩
  · rw [hid]
    exact ⟨Nat.lt_succ_self _,fun _ _ slot hslot=>Nat.ne_of_lt (h.accepted_lt hslot)⟩
 have hrefused:∀slot∈s.refused,slot.id<s.sent+1 ∧ slot.id≠s.sent:=fun slot hslot=>
  ⟨Nat.lt_succ_of_lt (h.refused slot hslot).1,Nat.ne_of_lt (h.refused slot hslot).1⟩
 obtain ⟨tail,haccepted,htail,hopen⟩:=h.order
 cases huser:sending.userMessage with
 | false=>
  simp only [userSlots,huser,Bool.false_eq_true,if_false,List.append_nil]
  exact ⟨h.started,h.accepting,h.workers,h.increasing,
   fun slot hslot=>Nat.lt_succ_of_lt (h.below slot hslot),
   fun slot hslot=>⟨(hrefused slot hslot).1,(h.refused slot hslot).2⟩,
   ⟨tail,haccepted,htail,hopen⟩,henqueuers,h.bound,h.counter⟩
 | true=>
  simp only [userSlots,huser,if_true]
  obtain ⟨hclosed,hroom⟩:=hadmits
  obtain ⟨_,hroom⟩:=hroom huser
  refine ⟨h.started,h.accepting,h.workers,increasing_concat h.increasing h.below,?_,?_,
   ⟨tail++[⟨s.sent,message⟩],?_,?_,?_⟩,henqueuers,?_,h.counter⟩
  · intro slot hslot
    rcases List.mem_append.mp hslot with hold|hlast
    · exact Nat.lt_succ_of_lt (h.below slot hold)
    · rw [List.mem_singleton.mp hlast]
      exact Nat.lt_succ_self _
  · intro slot hslot
    refine ⟨(hrefused slot hslot).1,fun kept hkept=>?_⟩
    rcases List.mem_append.mp hkept with hold|hlast
    · exact (h.refused slot hslot).2 kept hold
    · rw [List.mem_singleton.mp hlast]
      exact (hrefused slot hslot).2.symm
  · rw [haccepted]
    simp only [List.append_assoc]
  · change (s.mailbox.messages++[_]).Sublist _
    exact htail.append_right _
  · intro hrunning
    rw [hopen hrunning]
    rfl
  · have hcounter:=h.counter hclosed
    change (s.mailbox.messages++[_]).length+(inFlight s.workers).length≤_
    rw [List.length_append,List.length_singleton]
    omega

lemma Fifo.enqueue (h:Fifo config s) (sending:Sending) (message:Message U):
  Fifo config (s.enqueue config (localActor U) sending message):=by
 rcases s.enqueue_cases config (localActor U) sending message with
  ⟨refused,hrefused,heq⟩|⟨hadmits,_,heq⟩|⟨hadmits,_,heq⟩ <;> rw [heq]
 · refine ⟨h.started,h.accepting,h.workers,h.increasing,
    fun slot hslot=>Nat.lt_succ_of_lt (h.below slot hslot),?_,h.order,?_,h.bound,
    h.counter⟩
   · intro slot hslot
     rcases List.mem_append.mp hslot with hold|hlast
     · exact ⟨Nat.lt_succ_of_lt (h.refused slot hold).1,(h.refused slot hold).2⟩
     · rcases hrefused with rfl|rfl
       · cases hlast
       · rw [List.mem_singleton.mp hlast]
         exact ⟨Nat.lt_succ_self _,fun kept hkept=>Nat.ne_of_lt (h.below kept hkept)⟩
   · intro enqueuer hmem
     exact ⟨Nat.lt_succ_of_lt (h.enqueuers enqueuer hmem).1,(h.enqueuers enqueuer hmem).2⟩
 · exact h.admit hadmits message (s.mailbox.append _ _).scheduled fun enqueuer hmem=>.inl hmem
 · refine h.admit hadmits message true fun enqueuer hmem=>?_
   rcases List.mem_cons.mp hmem with rfl|hold
   · exact .inr rfl
   · exact .inl hold

lemma Fifo.senders (h:Fifo config s) (activations:ℕ)
  (hold:∀enqueuer∈enqueuers,∃old∈s.enqueuers,enqueuer.slot=old.slot ∧
   enqueuer.sending=old.sending ∧ (Undecided enqueuer → Undecided old)):
  Fifo config { s with enqueuers:=enqueuers,activations:=activations }:=by
 refine ⟨h.started,h.accepting,h.workers,h.increasing,h.below,h.refused,h.order,?_,
  h.bound,h.counter⟩
 intro enqueuer hmem
 obtain ⟨old,hmem,hslot,hsending,hundecided⟩:=hold enqueuer hmem
 obtain ⟨hlt,hfresh⟩:=h.enqueuers old hmem
 rw [hslot,hsending]
 exact ⟨hlt,fun hu=>hfresh (hundecided hu)⟩

variable {before after:List (Enqueuer (Message U))}

lemma Fifo.published (h:Fifo config s) (hmem:s.enqueuers=before++enqueuer::after):
  Fifo config { s with enqueuers:=before++after,activations:=s.activations+1 }:=by
 refine h.senders _ fun old hold=>⟨old,?_,rfl,rfl,id⟩
 rw [hmem]
 rcases List.mem_append.mp hold with hold|hold
 · exact List.mem_append_left _ hold
 · exact List.mem_append_right _ (List.mem_cons_of_mem _ hold)

lemma Fifo.rejected (h:Fifo config s)
  (hmem:s.enqueuers=before++enqueuer::after) (hpoint:enqueuer.point=.dispatching):Fifo config
   { s with enqueuers:=before++{ enqueuer with point:=.rejected }::after }:=by
 refine h.senders _ fun old hold=>?_
 rw [hmem]
 simp only [List.mem_append,List.mem_cons] at hold ⊢
 rcases hold with hold|rfl|hold
 · exact ⟨old,.inl hold,rfl,rfl,id⟩
 · exact ⟨enqueuer,.inr (.inl rfl),rfl,rfl,fun _=>.inl hpoint⟩
 · exact ⟨old,.inr (.inr hold),rfl,rfl,id⟩

lemma eraseP_eq_filter {slots:List (Slot (Message U))} (h:slots.Pairwise fun a b=>a.id<b.id) (id:ℕ):
  (slots.eraseP fun slot=>slot.id == id)=slots.filter fun slot=>slot.id != id:=by
 induction slots with
 | nil=>rfl
 | cons slot slots ih=>
  obtain ⟨hlt,htail⟩:=List.pairwise_cons.mp h
  by_cases hid:slot.id=id
  · subst hid
    rw [List.eraseP_cons_of_pos (by simp),List.filter_cons_of_neg (by simp)]
    refine (List.filter_eq_self.mpr fun other hother=>?_).symm
    simpa using Nat.ne_of_gt (hlt other hother)
  · rw [List.eraseP_cons_of_neg (by simpa using hid),List.filter_cons_of_pos (by simpa using hid),
     ih htail]

lemma Fifo.rollback (h:Fifo config s) (hscheduled:Scheduled s)
  (hmem:s.enqueuers=before++enqueuer::after) (hpoint:enqueuer.point=.rejected):
  Fifo config (s.rollback enqueuer (before++after)):=by
 have hmem':enqueuer∈s.enqueuers:=by rw [hmem]; simp
 obtain ⟨hlt,hfresh⟩:=h.enqueuers enqueuer hmem'
 rw [World.rollback_of_queued _ (hscheduled.queued enqueuer hmem' (.inr hpoint)),
  (hscheduled.alone hmem).1]
 have henqueuers (delivered:List (Slot (Message U))) (fallback:Bool):
  ∀e∈(if fallback then [{ enqueuer with
   point:=.publishing (!enqueuer.sending.userMessage) }] else []),
  e.slot.id<s.sent ∧ (Undecided e → e.sending.userMessage=true →
   ∀slot∈delivered,slot.id≠e.slot.id):=by
  intro e he
  cases fallback with
  | false=>cases he
  | true=>
   rw [if_pos rfl,List.mem_singleton] at he
   subst he
   exact ⟨hlt,by rintro (hp | hp) <;> cases hp⟩
 cases huser:enqueuer.sending.userMessage with
 | false=>
  simp only [Bool.false_eq_true,if_false]
  rw [huser] at henqueuers
  exact ⟨h.started,h.accepting,h.workers,h.increasing,h.below,h.refused,h.order,
   henqueuers _ _,h.bound,h.counter⟩
 | true=>
  simp only [if_true]
  rw [huser] at henqueuers
  obtain ⟨tail,haccepted,htail,hopen⟩:=h.order
  have hnone:∀slot∈s.delivered++pending s.workers,
   ¬(slot.id == enqueuer.slot.id)=true:=by
   intro slot hslot
   simpa using hfresh (.inr hpoint) huser slot hslot
  refine ⟨h.started,h.accepting,h.workers,h.increasing.sublist List.eraseP_sublist,
   fun slot hslot=>h.below slot (List.mem_of_mem_eraseP hslot),?_,
   ⟨tail.eraseP fun slot=>slot.id == enqueuer.slot.id,?_,htail.eraseP,?_⟩,
   henqueuers _ _,?_,h.counter⟩
  · intro slot hslot
    rcases List.mem_append.mp hslot with hold|hlast
    · exact ⟨(h.refused slot hold).1,
       fun kept hkept=>(h.refused slot hold).2 kept (List.mem_of_mem_eraseP hkept)⟩
    · rw [List.mem_singleton.mp hlast]
      refine ⟨hlt,fun kept hkept=>?_⟩
      rw [eraseP_eq_filter h.increasing,List.mem_filter] at hkept
      simpa using hkept.2
  · rw [haccepted,←List.append_assoc,←List.append_assoc,List.eraseP_append_right _ hnone]
  · intro hrunning
    rw [hopen hrunning]
    rfl
  · have hbound:=h.bound
    have hle:=(List.eraseP_sublist
     (p := fun slot=>slot.id == enqueuer.slot.id) (l := s.mailbox.messages)).length_le
    change (s.mailbox.messages.eraseP _).length+(inFlight s.workers).length≤_
    omega

end

section

variable {U:Type} {config:Config} {s:World LocalActorContext (Invocation U) (Message U)}
 {before after:List (Worker (Invocation U) (Message U))}
 {worker:Worker (Invocation U) (Message U)}

variable {f:Worker (Invocation U) (Message U) → List (Slot (Message U))}
 {box:DefaultMailbox (Message U)} {context:LocalActorContext} {invocation:Invocation U}

lemma flatMap_middle
  (workers:List (Worker (Invocation U) (Message U))) (hworker:f worker=workers.flatMap f):
  (before++(workers++after)).flatMap f=(before++worker::after).flatMap f:=by
 simp only [List.flatMap_append,List.flatMap_cons,hworker]

lemma others_arriving (hscheduled:Scheduled s) (hmem:s.workers=before++worker::after)
  (hruns:runs worker=true):∀other∈before++after,other=.arriving:=by
 intro other hother
 have hcount:=hscheduled.runs_eq
 have hone:=Bool.toNat_le s.mailbox.running
 rw [hmem,countP_middle,hruns,Bool.toNat_true,←List.countP_append] at hcount
 have hzero:(before++after).countP runs=0:=by omega
 have hidle:=List.countP_eq_zero.mp hzero other hother
 cases other <;> first | rfl | exact absurd rfl hidle

lemma flatMap_runner (hf:f .arriving=[]) (hscheduled:Scheduled s)
  (hmem:s.workers=before++worker::after) (hruns:runs worker=true)
  (workers:List (Worker (Invocation U) (Message U))):
  (before++(workers++after)).flatMap f=workers.flatMap f:=by
 have hothers:=others_arriving hscheduled hmem hruns
 have hbefore:before.flatMap f=[]:=List.flatMap_eq_nil_iff.mpr fun other hother=>by
  rw [hothers other (List.mem_append_left _ hother),hf]
 have hafter:after.flatMap f=[]:=List.flatMap_eq_nil_iff.mpr fun other hother=>by
  rw [hothers other (List.mem_append_right _ hother),hf]
 rw [List.flatMap_append,List.flatMap_append,hbefore,hafter,List.append_nil,
  List.nil_append]

lemma pending_runner (hscheduled:Scheduled s) (hmem:s.workers=before++worker::after)
  (hruns:runs worker=true):pending s.workers=pendingOf worker:=by
 have h:=flatMap_runner (f := pendingOf) rfl hscheduled hmem hruns [worker]
 rw [List.flatMap_singleton] at h
 rw [hmem]
 exact h

lemma inFlight_runner (hscheduled:Scheduled s) (hmem:s.workers=before++worker::after)
  (hruns:runs worker=true):inFlight s.workers=inFlightOf worker:=by
 have h:=flatMap_runner (f := inFlightOf) rfl hscheduled hmem hruns [worker]
 rw [List.flatMap_singleton] at h
 rw [hmem]
 exact h

def SameUserSide (box box':DefaultMailbox (Message U)):Prop:=
 box'.messages=box.messages ∧ box'.acceptingUserMessages=box.acceptingUserMessages ∧
  box'.closed=box.closed ∧
  (box.closed=false → box'.inFlightUserMessages=box.inFlightUserMessages)

lemma Fifo.quiet (h:Fifo config s) (hmem:s.workers=before++worker::after)
  (hpending:pendingOf worker=[]) (hinFlight:inFlightOf worker=[])
  (box:DefaultMailbox (Message U)) (workers:List (Worker (Invocation U) (Message U)))
  (hpending':workers.flatMap pendingOf=[]) (hinFlight':workers.flatMap inFlightOf=[])
  (hworkers:∀w∈workers,WorkerOk s.actor w)
  (hsame:SameUserSide s.mailbox box) (activations:ℕ):Fifo config { s with
   mailbox:=box
   workers:=before++(workers++after)
   activations:=activations }:=by
 obtain ⟨hmessages,haccepting,hclosed,hcounter⟩:=hsame
 have hpending_eq:pending (before++(workers++after))=pending s.workers:=by
  rw [hmem]
  exact flatMap_middle workers (by rw [hpending,hpending'])
 have hinFlight_eq:inFlight (before++(workers++after))=inFlight s.workers:=by
  rw [hmem]
  exact flatMap_middle workers (by rw [hinFlight,hinFlight'])
 refine ⟨h.started,?_,?_,h.increasing,h.below,h.refused,?_,?_,?_,?_⟩
 · rw [haccepting,hclosed]
   exact h.accepting
 · intro w hw
   have hold:=h.workers
   rw [hmem] at hold
   simp only [List.mem_append,List.mem_cons] at hw hold
   rcases hw with hw|hw|hw
   · exact hold w (.inl hw)
   · exact hworkers w hw
   · exact hold w (.inr (.inr hw))
 · rw [hpending_eq,hmessages]
   exact h.order
 · rw [hpending_eq]
   exact h.enqueuers
 · rw [hinFlight_eq,hmessages]
   exact h.bound
 · rw [hinFlight_eq,hclosed]
   exact fun hopen=>(hcounter hopen).trans (h.counter hopen)

lemma canProcess_of_work {canProcess:Bool}
  (hwork:box.nothingToRun canProcess=false) (hsystem:box.systemMessages=[]):
  canProcess=true:=by
 cases canProcess with
 | true=>rfl
 | false=>
  unfold DefaultMailbox.nothingToRun at hwork
  simp [hsystem] at hwork

lemma not_stopping_of_canProcess (h:context.canProcessUserMessages=true):¬context.Stopping:=by
 unfold LocalActorContext.canProcessUserMessages at h
 simp only [Bool.and_eq_true,decide_eq_true_eq] at h
 rintro (hs|hs) <;> rw [h.1] at hs <;> cases hs

lemma Fifo.replace (h:Fifo config s) (hscheduled:Scheduled s)
  (hmem:s.workers=before++worker::after) (hruns:runs worker=true)
  (hholds:holdsToken worker=true) (worker':Worker (Invocation U) (Message U))
    {delivered:List (Slot (Message U))} (hstarted:context.Started)
  (haccepting:¬context.Stopping → box.acceptingUserMessages=true ∧ box.closed=false)
  (hworker:WorkerOk context worker') (horder:∃tail,s.accepted=delivered++(pendingOf worker'++tail) ∧
   box.messages.Sublist tail ∧ (¬context.Stopping → tail=box.messages))
  (hbound:box.messages.length+(inFlightOf worker').length ≤ config.capacity)
  (hcounter:box.closed=false → box.inFlightUserMessages=(inFlightOf worker').length):
  Fifo config { s with
   mailbox:=box
   actor:=context
   workers:=before++worker'::after
   delivered:=delivered }:=by
 have hnone:=hscheduled.no_enqueuers (by rw [hmem,countP_middle,hholds]; simp)
 have hothers:=others_arriving hscheduled hmem hruns
 have hpending:pending (before++worker'::after)=pendingOf worker':=by
  have heq:=flatMap_runner (f := pendingOf) rfl hscheduled hmem hruns [worker']
  rwa [List.flatMap_singleton] at heq
 have hinFlight:inFlight (before++worker'::after)=inFlightOf worker':=by
  have heq:=flatMap_runner (f := inFlightOf) rfl hscheduled hmem hruns [worker']
  rwa [List.flatMap_singleton] at heq
 refine ⟨hstarted,haccepting,?_,h.increasing,h.below,h.refused,?_,?_,?_,?_⟩
 · intro w hw
   simp only [List.mem_append,List.mem_cons] at hw
   rcases hw with hw|rfl|hw
   · rw [hothers w (List.mem_append_left _ hw)]
     trivial
   · exact hworker
   · rw [hothers w (List.mem_append_right _ hw)]
     trivial
 · rw [hpending]
   exact horder
 · rw [hnone]
   exact nofun
 · rw [hinFlight]
   exact hbound
 · rw [hinFlight]
   exact hcounter

lemma Fifo.takeUser (h:Fifo config s) (hscheduled:Scheduled s)
  (hmem:s.workers=before ++ .taking::after)
  (hwork:s.mailbox.nothingToRun s.actor.canProcessUserMessages=false)
  (hsystem:s.mailbox.systemMessages=[]):Fifo config { s with
   mailbox:={ s.mailbox with
    messages:=s.mailbox.messages.drop config.throughput
    inFlightUserMessages:=s.mailbox.inFlightUserMessages +
     (s.mailbox.messages.take config.throughput).length }
   workers:=before ++ .invoking (s.mailbox.messages.take config.throughput)
    ⟨s.mailbox.messages.take config.throughput,false,.next⟩ false::after }:=by
 have hrunning:=not_stopping_of_canProcess (canProcess_of_work hwork hsystem)
 have hinFlight:=inFlight_runner hscheduled hmem rfl
 obtain ⟨tail,haccepted,_,hopen⟩:=h.order
 rw [pending_runner hscheduled hmem rfl,hopen hrunning] at haccepted
 refine h.replace hscheduled hmem rfl rfl
  (.invoking (s.mailbox.messages.take config.throughput)
   ⟨s.mailbox.messages.take config.throughput,false,.next⟩ false)
  h.started h.accepting ⟨⟨h.started,trivial⟩,rfl,fun _=>Nat.le_refl _⟩
  ⟨s.mailbox.messages.drop config.throughput,?_,List.Sublist.refl _,fun _=>rfl⟩ ?_ ?_
 · change _=s.delivered++(s.mailbox.messages.take _++s.mailbox.messages.drop _)
   rw [List.take_append_drop]
   exact haccepted
 · have hbound:=h.bound
   rw [hinFlight] at hbound
   change (s.mailbox.messages.drop _).length+(s.mailbox.messages.take _).length≤_
   rw [Nat.add_comm,←List.length_append,List.take_append_drop]
   exact hbound
 · intro hclosed
   have hcounter:=h.counter hclosed
   rw [hinFlight] at hcounter
   change s.mailbox.inFlightUserMessages+_=_
   rw [hcounter]
   exact Nat.zero_add _

lemma restoreBatch_user (box:DefaultMailbox (Message U)) (remaining:List (Slot (Message U))):
  box.restoreBatch remaining false =
   { box with
     messages:=if box.closed then box.messages else remaining++box.messages
     inFlightUserMessages:=0 }:=by
 unfold DefaultMailbox.restoreBatch
 cases hclosed:box.closed with
 | true=>simp
 | false=>cases remaining <;> simp

lemma restoreBatch_system (box:DefaultMailbox (Message U))
  (remaining:List (Slot (Message U))):∃systemMessages,box.restoreBatch remaining true =
   { box with systemMessages:=systemMessages }:=by
 unfold DefaultMailbox.restoreBatch
 dsimp only
 rw [if_pos rfl,if_pos rfl]
 split_ifs
 · exact ⟨box.systemMessages,rfl⟩
 · exact ⟨_,rfl⟩

lemma Fifo.restore (h:Fifo config s) (hscheduled:Scheduled s)
  {batch remaining:List (Slot (Message U))} {system:Bool}
  (hworker:worker=.restoring batch remaining system ∨
   worker=.batchFailed batch remaining system)
  (hmem:s.workers=before++worker::after) {worker':Worker (Invocation U) (Message U)}
  (hworker':worker'=.checking ∨ worker'=.recovering):Fifo config { s with
   mailbox:=s.mailbox.restoreBatch remaining system
   workers:=before++worker'::after }:=by
 have hok:=h.workers worker (by rw [hmem]; simp)
 have hok':WorkerOk s.actor worker':=by rcases hworker' with rfl|rfl <;> trivial
 have hpending':pendingOf worker'=[]:=by rcases hworker' with rfl|rfl <;> rfl
 have hinFlight':inFlightOf worker'=[]:=by rcases hworker' with rfl|rfl <;> rfl
 cases system with
 | true=>
  obtain ⟨systemMessages,heq⟩:=restoreBatch_system s.mailbox remaining
  rw [heq]
  have hheld:pendingOf worker=[] ∧ inFlightOf worker=[]:=by
   rcases hworker with rfl|rfl <;> exact ⟨rfl,rfl⟩
  exact h.quiet hmem hheld.1 hheld.2 _ [worker'] (by simpa using hpending')
   (by simpa using hinFlight') (by simpa using hok') (by exact ⟨rfl,rfl,rfl,fun _=>rfl⟩) s.activations
 | false=>
  have hruns:runs worker=true ∧ holdsToken worker=true:=by
   rcases hworker with rfl|rfl <;> exact ⟨rfl,rfl⟩
  have hpending:pendingOf worker=remaining:=by rcases hworker with rfl|rfl <;> rfl
  have hinFlight:inFlightOf worker=batch:=by rcases hworker with rfl|rfl <;> rfl
  have hlength:remaining.length≤batch.length:=by
   rcases hworker with rfl|rfl <;> exact hok rfl
  obtain ⟨tail,haccepted,htail,hopen⟩:=h.order
  have hbound:=h.bound
  rw [inFlight_runner hscheduled hmem hruns.1,hinFlight] at hbound
  rw [pending_runner hscheduled hmem hruns.1,hpending] at haccepted
  rw [restoreBatch_user]
  refine h.replace hscheduled hmem hruns.1 hruns.2 worker' h.started h.accepting hok'
   ⟨remaining++tail,?_,?_,?_⟩ ?_ ?_
  · rw [hpending',haccepted]
    rfl
  · dsimp only
    split_ifs
    · exact htail.trans (List.sublist_append_right _ _)
    · exact htail.append_left _
  · intro hrunning
    dsimp only
    rw [(h.accepting hrunning).2,hopen hrunning]
    rfl
  · rw [hinFlight']
    dsimp only
    split_ifs
    · simp only [List.length_nil]
      omega
    · simp only [List.length_append,List.length_nil]
      omega
  · intro _
    rw [hinFlight']
    rfl

lemma Fifo.work (h:Fifo config s) (hscheduled:Scheduled s) {result:Advance _ (Message U)}
  (hmem:s.workers=before++worker::after)
  (hadvance:Advances config (localActor U) s.actor s.mailbox worker result):Fifo config { s with
   mailbox:=result.mailbox
   workers:=before++(result.worker.toList++after)
   activations:=s.activations+result.published }:=by
 have hquiet (box:DefaultMailbox (Message U)) (workers:List (Worker _ (Message U)))
  (hheld:pendingOf worker=[] ∧ inFlightOf worker=[])
  (hheld':workers.flatMap pendingOf=[] ∧ workers.flatMap inFlightOf=[])
  (hworkers:∀w∈workers,WorkerOk s.actor w):=
  h.quiet hmem hheld.1 hheld.2 box workers hheld'.1 hheld'.2 hworkers
 cases hadvance with
 | takeUser hwork hsystem=>exact h.takeUser hscheduled hmem hwork hsystem
 | takeSystem=>
  exact hquiet _ [_] ⟨rfl,rfl⟩ ⟨rfl,rfl⟩
   (by simp [WorkerOk,localActor,Invocation.Sound,LocalActorContext.At,h.started])
   (by exact ⟨rfl,rfl,rfl,fun _=>rfl⟩) _
 | restore batch remaining system=>
  exact h.restore hscheduled (.inl rfl) hmem (.inl rfl)
 | restoreFailed batch remaining system=>
  exact h.restore hscheduled (.inr rfl) hmem (.inr rfl)
 | clear batch system=>
  have hbatch:batch=[]:=h.workers (.raised batch system) (by rw [hmem]; simp)
  have hheld:inFlightOf (.raised batch system:Worker (Invocation U) (Message U))=[]:=by
   cases system
   · exact hbatch
   · rfl
  refine hquiet s.mailbox.clearInFlight [.recovering] ⟨rfl,hheld⟩ ⟨rfl,rfl⟩
   (by simp [WorkerOk]) ⟨rfl,rfl,rfl,fun hopen=>?_⟩ _
  rw [h.counter hopen,inFlight_runner hscheduled hmem rfl,hheld]
  rfl
 | settle worker loop=>
  refine hquiet _ [_] ?_ ⟨rfl,rfl⟩ (by simp [WorkerOk]) (by exact ⟨rfl,rfl,rfl,fun _=>rfl⟩) _
  rcases loop with rfl|rfl|rfl <;> exact ⟨rfl,rfl⟩
 | inline worker gap=>
  refine hquiet _ [_] ?_ ⟨rfl,rfl⟩ (by simp [WorkerOk]) (by exact ⟨rfl,rfl,rfl,fun _=>rfl⟩) _
  rcases gap with rfl|rfl <;> exact ⟨rfl,rfl⟩
 | publish worker dispatch=>
  refine hquiet _ [_] ?_ ⟨rfl,rfl⟩ (by simp [WorkerOk]) (by exact ⟨rfl,rfl,rfl,fun _=>rfl⟩) _
  rcases dispatch with rfl|rfl <;> exact ⟨rfl,rfl⟩
 | request | finish=>
  exact hquiet _ [] ⟨rfl,rfl⟩ ⟨rfl,rfl⟩ nofun (by exact ⟨rfl,rfl,rfl,fun _=>rfl⟩) _
 | _=>
  exact hquiet _ [_] ⟨rfl,rfl⟩ ⟨rfl,rfl⟩ (by simp [WorkerOk]) (by exact ⟨rfl,rfl,rfl,fun _=>rfl⟩) _

lemma apply_of_running {call:Call (Message U)} (box:DefaultMailbox (Message U))
  (h:¬(call=.stopUserMessages ∨ call=.close)):call.apply box=box:=by
 cases call with
 | internal | deliver=>rfl
 | stopUserMessages=>exact absurd (.inl rfl) h
 | close=>exact absurd (.inr rfl) h

lemma apply_messages_sublist (call:Call (Message U)) (box:DefaultMailbox (Message U)):
  (call.apply box).messages.Sublist box.messages:=by
 cases call with
 | internal | deliver=>exact List.Sublist.refl _
 | stopUserMessages | close=>exact List.nil_sublist _

lemma Fifo.call (h:Fifo config s) (hscheduled:Scheduled s) {batch:List (Slot (Message U))}
  {invocation':Invocation U} {system:Bool} {call:Call (Message U)}
  (hmem:s.workers=before ++ .invoking batch invocation system::after)
  (hcall:invocation.call s.actor call context invocation'):Fifo config { s with
   mailbox:=call.apply s.mailbox
   actor:=context
   workers:=before ++ .invoking batch invocation' system::after
   delivered:=s.delivered++call.delivered }:=by
 obtain ⟨hsound,hsystem,hlength⟩:=
  h.workers (.invoking batch invocation system) (by rw [hmem]; simp)
 have heffect:=hsound.call hcall
 have hpass:pendingOf (.invoking batch invocation system) =
  call.delivered++pendingOf (.invoking batch invocation' system):=by
  cases system with
  | false=>exact heffect.user_rest hsystem
  | true=>rw [heffect.system_delivers hsystem]; rfl
 have hrest:system=false → invocation'.rest.length≤batch.length:=by
  intro huser
  have hle:=hlength huser
  rw [heffect.user_rest (hsystem.trans huser),List.length_append] at hle
  omega
 obtain ⟨tail,haccepted,htail,hopen⟩:=h.order
 rw [pending_runner hscheduled hmem rfl,hpass] at haccepted
 have hbatch:inFlightOf (.invoking batch invocation' system) =
  inFlightOf (.invoking batch invocation system):=by cases system <;> rfl
 have hmessages:=apply_messages_sublist call s.mailbox
 refine h.replace hscheduled hmem rfl rfl (.invoking batch invocation' system) heffect.sound.1 ?_
  ⟨heffect.sound,heffect.system_eq.trans hsystem,hrest⟩
  ⟨tail,?_,hmessages.trans htail,?_⟩ ?_ ?_
 · intro hrunning
   rw [apply_of_running _ (mt heffect.stops hrunning)]
   exact h.accepting (mt heffect.stays hrunning)
 · rw [haccepted]
   simp only [List.append_assoc]
 · intro hrunning
   rw [apply_of_running _ (mt heffect.stops hrunning)]
   exact hopen (mt heffect.stays hrunning)
 · have hbound:=h.bound
   rw [inFlight_runner hscheduled hmem rfl,←hbatch] at hbound
   have hle:=hmessages.length_le
   omega
 · intro hclosed
   have hcounter:=h.counter
   rw [inFlight_runner hscheduled hmem rfl,←hbatch] at hcounter
   cases call with
   | internal | deliver | stopUserMessages=>exact hcounter hclosed
   | close=>cases hclosed

lemma Fifo.finish (h:Fifo config s) (hscheduled:Scheduled s)
  {batch:List (Slot (Message U))} {system:Bool} {result:BatchResult (Message U)}
  (hmem:s.workers=before ++ .invoking batch invocation system::after)
  (hfinish:invocation.finish s.actor result):
  Fifo config { s with workers:=before ++ .finished batch system result::after }:=by
 obtain ⟨hsound,hsystem,hlength⟩:=
  h.workers (.invoking batch invocation system) (by rw [hmem]; simp)
 obtain ⟨tail,haccepted,htail,hopen⟩:=h.order
 have hbound:=h.bound
 have hcounter:=h.counter
 rw [pending_runner hscheduled hmem rfl] at haccepted
 rw [inFlight_runner hscheduled hmem rfl] at hbound hcounter
 cases result with
 | raised=>exact absurd hfinish not_finish_raised
 | batchFailed remaining system'=>
  obtain ⟨rfl,hsystem'⟩:=finish_batchFailed hfinish
  rw [hsystem] at hsystem'
  subst hsystem'
  refine h.replace hscheduled hmem rfl rfl (.batchFailed batch invocation.rest system')
   h.started h.accepting hlength ⟨tail,?_,htail,hopen⟩ ?_ ?_
  · cases system' <;> exact haccepted
  · cases system' <;> exact hbound
  · cases system' <;> exact hcounter
 | returned remaining=>
  refine h.replace hscheduled hmem rfl rfl (.restoring batch remaining system)
   h.started h.accepting ?_ ?_ ?_ ?_
  · intro huser
    rcases finish_returned hsound.1 hfinish with rfl|⟨rfl,_⟩
    · exact hlength huser
    · exact Nat.zero_le _
  · cases system with
    | true=>exact ⟨tail,haccepted,htail,hopen⟩
    | false=>
     rcases finish_returned hsound.1 hfinish with rfl|⟨rfl,hstopping⟩
     · exact ⟨tail,haccepted,htail,hopen⟩
     · -- a stopping actor drops the rest of its batch
       exact ⟨invocation.rest++tail,haccepted,
        htail.trans (List.sublist_append_right _ _),fun hrunning=>absurd hstopping hrunning⟩
  · cases system <;> exact hbound
  · cases system <;> exact hcounter

end

section

variable {U:Type} {config:Config} {s t:World LocalActorContext (Invocation U) (Message U)}

lemma Fifo.step {event:Event (Invocation U) (Message U)} (h:Fifo config s)
  (hscheduled:Scheduled s) (hstep:(mailboxSystem config (localActor U)).step s event t):
  Fifo config t:=by
 cases event with
 | enqueue sending message=>
  change t=_ at hstep
  rw [hstep]
  exact h.enqueue sending message
 | dispatch enqueuer outcome=>
  obtain ⟨before,after,hmem,hpoint,rfl⟩:=hstep
  split_ifs
  · exact h.published hmem
  · exact h.rejected hmem hpoint
 | rollback enqueuer=>
  obtain ⟨before,after,hmem,hpoint,rfl⟩:=hstep
  exact h.rollback hscheduled hmem hpoint
 | publish enqueuer=>
  obtain ⟨before,after,_,hmem,_,rfl⟩:=hstep
  exact h.published hmem
 | dequeue=>
  obtain ⟨activations,hactivations,rfl⟩:=hstep
  refine ⟨h.started,h.accepting,?_,h.increasing,h.below,h.refused,h.order,h.enqueuers,
   h.bound,h.counter⟩
  intro worker hworker
  rcases List.mem_cons.mp hworker with rfl|hold
  · trivial
  · exact h.workers worker hold
 | work worker outcome=>
  obtain ⟨before,after,result,hmem,hadvance,rfl⟩:=hstep
  exact h.work hscheduled hmem (Worker.advance_cases hadvance)
 | call call=>
  obtain ⟨before,after,batch,invocation,system,state,invocation',hmem,hcall,rfl⟩:=
   hstep
  exact h.call hscheduled hmem hcall
 | finish result=>
  obtain ⟨before,after,batch,invocation,system,hmem,hfinish,rfl⟩:=hstep
  exact h.finish hscheduled hmem hfinish

lemma reachable_fifo (h:(mailboxSystem config (localActor U)).Reachable s):Fifo config s:=by
 refine h.invariant (I := Fifo config) ?_ ?_
 · rintro _ ⟨state,hinit,rfl⟩
   cases hinit
   exact .create
 · intro s event t hs hfifo hstep
   exact hfifo.step (reachable_scheduled hs) hstep

lemma Fifo.messages_sublist (h:Fifo config s):s.mailbox.messages.Sublist s.accepted:=by
 obtain ⟨tail,haccepted,htail,_⟩:=h.order
 rw [haccepted,←List.append_assoc]
 exact htail.trans (List.sublist_append_right _ _)

lemma Fifo.front (h:Fifo config s):(s.delivered++pending s.workers) <+:s.accepted:=by
 obtain ⟨tail,haccepted,_⟩:=h.order
 exact ⟨tail,by rw [haccepted,List.append_assoc]⟩

lemma Fifo.refusal {event:Event (Invocation U) (Message U)} (h:Fifo config s)
  (hscheduled:Scheduled s) (hstep:(mailboxSystem config (localActor U)).step s event t):
  t.refused=s.refused ∨ ∃slot,t.refused=s.refused++[slot] ∧
   t.mailbox.messages=s.mailbox.messages.filter fun kept=>kept.id != slot.id:=by
 cases event with
 | enqueue sending message=>
  change t=_ at hstep
  rw [hstep]
  rcases s.enqueue_cases config (localActor U) sending message with
   ⟨refused,hrefused,heq⟩|⟨_,_,heq⟩|⟨_,_,heq⟩ <;> rw [heq]
  · rcases hrefused with rfl|rfl
    · exact .inl (List.append_nil _)
    · refine .inr ⟨_,rfl,(List.filter_eq_self.mpr fun kept hkept=>?_).symm⟩
      simpa using Nat.ne_of_lt (h.below kept (h.messages_sublist.subset hkept))
  · exact .inl rfl
  · exact .inl rfl
 | dispatch enqueuer outcome=>
  obtain ⟨before,after,hmem,hpoint,rfl⟩:=hstep
  split_ifs <;> exact .inl rfl
 | rollback enqueuer=>
  obtain ⟨before,after,hmem,hpoint,rfl⟩:=hstep
  rw [World.rollback_of_queued _ (hscheduled.queued enqueuer (by rw [hmem]; simp) (.inr hpoint))]
  cases enqueuer.sending.userMessage with
  | false=>exact .inl rfl
  | true=>
   exact .inr ⟨enqueuer.slot,rfl,
    eraseP_eq_filter (h.increasing.sublist h.messages_sublist) enqueuer.slot.id⟩
 | publish enqueuer=>
  obtain ⟨before,after,_,hmem,_,rfl⟩:=hstep
  exact .inl rfl
 | dequeue=>
  obtain ⟨activations,hactivations,rfl⟩:=hstep
  exact .inl rfl
 | work worker outcome=>
  obtain ⟨before,after,result,hmem,hadvance,rfl⟩:=hstep
  exact .inl rfl
 | call call=>
  obtain ⟨before,after,batch,invocation,system,state,invocation',hmem,hcall,rfl⟩:=
   hstep
  exact .inl rfl
 | finish result=>
  obtain ⟨before,after,batch,invocation,system,hmem,hfinish,rfl⟩:=hstep
  exact .inl rfl

/-- What the behaviour has seen is, in order and without repetition, a part of the accepted
 messages, and unless the actor is stopping the batch and the queue are all the rest. User
 messages stay within the capacity. A send that raises leaves out its own message only. -/
theorem fifo_once_bounded (h:(mailboxSystem config (localActor U)).Reachable s):
  s.delivered.Sublist s.accepted ∧ (s.delivered.map Slot.id).Nodup ∧
  (s.delivered++pending s.workers) <+:s.accepted ∧
  (¬s.actor.Stopping →
   s.accepted=s.delivered++(pending s.workers++s.mailbox.messages)) ∧
  s.mailbox.messages.length+(inFlight s.workers).length ≤ config.capacity ∧
  (s.mailbox.closed=false →
   s.mailbox.inFlightUserMessages=(inFlight s.workers).length) ∧
  (∀slot∈s.refused,∀kept∈s.accepted,kept.id≠slot.id) ∧
  s.mailbox.messages.Sublist s.accepted ∧
  ∀event t,(mailboxSystem config (localActor U)).step s event t →
   t.refused=s.refused ∨ ∃slot,t.refused=s.refused++[slot] ∧
    t.mailbox.messages=s.mailbox.messages.filter fun kept=>kept.id != slot.id:=by
 have hfifo:=reachable_fifo h
 have hdelivered:s.delivered.Sublist s.accepted:=
  (List.sublist_append_left _ _).trans hfifo.front.sublist
 refine ⟨hdelivered,?_,hfifo.front,?_,hfifo.bound,hfifo.counter,
  fun slot hslot=>(hfifo.refused slot hslot).2,hfifo.messages_sublist,
  fun event t hstep=>hfifo.refusal (reachable_scheduled h) hstep⟩
 · rw [List.Nodup,List.pairwise_map]
   exact (hfifo.increasing.sublist hdelivered).imp fun hlt=>Nat.ne_of_lt hlt
 · intro hrunning
   obtain ⟨tail,haccepted,_,hopen⟩:=hfifo.order
   rw [haccepted,hopen hrunning]

end

/-- An actor starts, a message sent meanwhile is taken in the same activation after a
 rejected hand-off, and is passed to the behaviour. -/
theorem fifo_once_bounded_started :
  ∃s:World LocalActorContext (Invocation ℕ) (Message ℕ),
   (mailboxSystem smallMailbox (localActor ℕ)).Reachable s ∧
   s.delivered=[⟨1,.user 7⟩] ∧ s.delivered.Sublist s.accepted ∧
   s.accepted=s.delivered++(pending s.workers++s.mailbox.messages):=by
 have h₀:(mailboxSystem smallMailbox (localActor ℕ)).Reachable
  (.create ⟨.starting,false,false⟩):=.start ⟨_,rfl,rfl⟩
 have h₁:=h₀.next (.enqueue .sendSystem (.system .preStart)) rfl
 have h₂:=h₁.next (.dispatch ⟨⟨0,.system .preStart⟩,.sendSystem,.dispatching⟩ .published)
  ⟨[],[],rfl,rfl,rfl⟩
 have h₃:=h₂.next .dequeue ⟨0,rfl,rfl⟩
 have h₄:=h₃.next (.work .arriving .published) ⟨[],[],_,rfl,rfl,rfl⟩
 have h₅:=h₄.next (.work .taking .published) ⟨[],[],_,rfl,rfl,rfl⟩
 have h₆:=h₅.next (.call .internal)
  ⟨[],[],_,_,_,_,_,rfl,⟨_,_,rfl,rfl,true,rfl,rfl⟩,rfl⟩
 have h₇:=h₆.next (.call .internal)
  ⟨[],[],_,_,_,_,_,rfl,⟨rfl,true,.returned false,rfl,rfl⟩,rfl⟩
 have h₈:=h₇.next (.call .internal)
  ⟨[],[],_,_,_,_,_,rfl,⟨rfl,.inl rfl,rfl,rfl⟩,rfl⟩
 have h₉:=h₈.next (.enqueue .send (.user 7)) rfl
 have h₁₀:=h₉.next (.finish (.returned [])) ⟨[],[],_,_,_,rfl,.inl ⟨rfl,rfl⟩,rfl⟩
 have h₁₁:=h₁₀.next (.work (.restoring [⟨0,.system .preStart⟩] [] true) .published)
  ⟨[],[],_,rfl,rfl,rfl⟩
 have h₁₂:=h₁₁.next (.work .checking .published) ⟨[],[],_,rfl,rfl,rfl⟩
 have h₁₃:=h₁₂.next (.work .handingOff .runtimeError) ⟨[],[],_,rfl,rfl,rfl⟩
 have h₁₄:=h₁₃.next (.work .taking .published) ⟨[],[],_,rfl,rfl,rfl⟩
 have h₁₅:=h₁₄.next (.call (.deliver ⟨1,.user 7⟩))
  ⟨[],[],_,_,_,_,_,rfl,⟨_,_,rfl,rfl,rfl,rfl,rfl⟩,rfl⟩
 have hresult:=fifo_once_bounded h₁₅
 exact ⟨_,h₁₅,rfl,hresult.1,hresult.2.2.2.1 (by rintro (h | h) <;> cases h)⟩

end Movie.MailboxFifo
