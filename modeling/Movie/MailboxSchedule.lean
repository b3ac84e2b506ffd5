import Movie.Mailbox

/-!
# Activations of a mailbox

A token is the duty to look at the mailbox again: of a sender, an activation, a worker up to its
hand-off or a request for an inline run. The mailbox is scheduled exactly when there is one.
-/
namespace Movie.MailboxSchedule

open Reachability Mailbox

section

variable {σ ι M:Type}

def holdsToken : Worker ι M → Bool
 | .handedOff | .leaving=>false
 | _=>true

def runs : Worker ι M → Bool
 | .arriving=>false
 | _=>true

def isInvoking : Worker ι M → Bool
 | .invoking ..=>true
 | _=>false

def tokens (s:World σ ι M):ℕ:=
 s.enqueuers.length+s.activations+s.workers.countP holdsToken +
  s.mailbox.inlineRunRequested.toNat

end

section

variable {M:Type} (box:DefaultMailbox M)

@[simp] lemma append_scheduled (user:Bool) (slot:Slot M):
  (box.append user slot).scheduled=box.scheduled:=by
 cases user <;> rfl

@[simp] lemma append_running (user:Bool) (slot:Slot M):
  (box.append user slot).running=box.running:=by
 cases user <;> rfl

@[simp] lemma append_inlineRunRequested (user:Bool) (slot:Slot M):
  (box.append user slot).inlineRunRequested=box.inlineRunRequested:=by
 cases user <;> rfl

@[simp] lemma restoreBatch_scheduled (messages:List (Slot M)) (system:Bool):
  (box.restoreBatch messages system).scheduled=box.scheduled:=by
 unfold DefaultMailbox.restoreBatch
 cases system <;> dsimp only <;> split_ifs <;> rfl

@[simp] lemma restoreBatch_running (messages:List (Slot M)) (system:Bool):
  (box.restoreBatch messages system).running=box.running:=by
 unfold DefaultMailbox.restoreBatch
 cases system <;> dsimp only <;> split_ifs <;> rfl

@[simp] lemma restoreBatch_inlineRunRequested (messages:List (Slot M)) (system:Bool):
  (box.restoreBatch messages system).inlineRunRequested=box.inlineRunRequested:=by
 unfold DefaultMailbox.restoreBatch
 cases system <;> dsimp only <;> split_ifs <;> rfl

end

section

variable {σ ι M:Type} {config:Config} {actor:Actor σ ι M} {state:σ}
 {box:DefaultMailbox M} {worker:Worker ι M} {result:Advance ι M}

section

variable (h:Advances config actor state box worker result)
include h

lemma advances_tokens
  (hle:(holdsToken worker).toNat+box.inlineRunRequested.toNat≤box.scheduled.toNat):
  result.published+result.worker.toList.countP holdsToken +
   result.mailbox.inlineRunRequested.toNat+box.scheduled.toNat =
   (holdsToken worker).toNat+box.inlineRunRequested.toNat +
    result.mailbox.scheduled.toNat:=by
 have hone:=Bool.toNat_le box.scheduled
 cases h with
 | start | takeUser | takeSystem | restore | check | handOff | runAgain | handOffRaised
 | restoreFailed | recover | recoveryFails | lifecycle | finish=>simp [holdsToken]
 | request busy=>
  change 1+box.inlineRunRequested.toNat≤_ at hle
  change 0+0+1+box.scheduled.toNat=1+box.inlineRunRequested.toNat+box.scheduled.toNat
  omega
 | settle worker loop=>
  have hholds:(holdsToken worker).toNat=1:=by rcases loop with rfl|rfl|rfl <;> rfl
  rw [hholds] at hle ⊢
  change 0+0+box.inlineRunRequested.toNat+box.scheduled.toNat =
   1+box.inlineRunRequested.toNat+0
  omega
 | inline worker gap requested=>rcases gap with rfl|rfl <;> simp [holdsToken,requested]
 | handedOff requested=>simp [holdsToken,requested]
 | clear=>rfl
 | publish worker dispatch=>rcases dispatch with rfl|rfl <;> simp [holdsToken]
 | abandon=>
  change 1+box.inlineRunRequested.toNat≤_ at hle
  change 0+0+box.inlineRunRequested.toNat+box.scheduled.toNat =
   1+box.inlineRunRequested.toNat+0
  omega

lemma advances_runs (hle:(runs worker).toNat≤box.running.toNat):
  result.worker.toList.countP runs+box.running.toNat =
   (runs worker).toNat+result.mailbox.running.toNat:=by
 cases h with
 | start idle=>simp [runs,idle]
 | request busy=>simp [runs]
 | settle worker loop=>rcases loop with rfl|rfl|rfl <;> simp [runs]
 | inline worker gap requested=>rcases gap with rfl|rfl <;> simp [runs]
 | publish worker dispatch=>rcases dispatch with rfl|rfl <;> simp [runs]
 | finish=>
  change 1≤box.running.toNat at hle
  have hone:=Bool.toNat_le box.running
  change 0+box.running.toNat=1+0
  omega
 | _=>simp [runs,DefaultMailbox.clearInFlight]

lemma advances_inline (hinline:box.inlineRunRequested=true → box.running=true):
  result.mailbox.inlineRunRequested=true → result.mailbox.running=true:=by
 cases h with
 | start=>exact fun _=>rfl
 | request busy=>exact fun _=>busy
 | inline | handedOff=>exact fun hreq=>by cases hreq
 | finish requested=>exact fun hreq=>by rw [requested] at hreq; cases hreq
 | restore | restoreFailed=>simpa using hinline
 | _=>exact hinline

lemma advances_queues (hidle:holdsToken worker=false) (user:Bool):
  result.mailbox.target user=box.target user:=by
 cases h with
 | settle worker loop=>rcases loop with rfl|rfl|rfl <;> cases hidle
 | inline | handedOff | finish=>rfl
 | publish worker dispatch=>rfl
 | _=>cases hidle

end

end

section

variable {σ ι M:Type} {config:Config} {actor:Actor σ ι M}

/-- A sender that may still take its message back finds it in its queue. -/
def Queued (box:DefaultMailbox M) (enqueuer:Enqueuer M):Prop:=
 enqueuer.point=.dispatching ∨ enqueuer.point=.rejected →
  ∃slot∈box.target enqueuer.sending.userMessage,slot.id=enqueuer.slot.id

/-- The scheduling state of a mailbox: one token while it is scheduled, none otherwise;
 one worker past the head of `__call__` while it is running, none otherwise. -/
structure Scheduled (s:World σ ι M):Prop where
 tokens_eq:tokens s=s.mailbox.scheduled.toNat
 runs_eq:s.workers.countP runs=s.mailbox.running.toNat
 inline_running:s.mailbox.inlineRunRequested=true → s.mailbox.running=true
 queued:∀enqueuer∈s.enqueuers,Queued s.mailbox enqueuer

variable {box:DefaultMailbox M} {enqueuer:Enqueuer M} {s:World σ ι M}

lemma Scheduled.create (state:σ):Scheduled (World.create state:World σ ι M) where
 tokens_eq:=rfl
 runs_eq:=rfl
 inline_running:=by rintro ⟨⟩
 queued:=by rintro _ ⟨⟩

lemma Queued.append (h:Queued box enqueuer)
  (user:Bool) (slot:Slot M):Queued (box.append user slot) enqueuer:=by
 intro hpoint
 obtain ⟨queued,hmem,hid⟩:=h hpoint
 refine ⟨queued,?_,hid⟩
 cases huser:enqueuer.sending.userMessage <;> rw [huser] at hmem <;> cases user
 · exact List.mem_append_left _ hmem
 · exact hmem
 · exact hmem
 · exact List.mem_append_left _ hmem

lemma mem_target_append (box:DefaultMailbox M) (user:Bool) (slot:Slot M):
  slot∈(box.append user slot).target user:=by
 cases user
 · exact List.mem_append_right _ (List.mem_singleton_self slot)
 · exact List.mem_append_right _ (List.mem_singleton_self slot)

lemma Scheduled.no_enqueuers (h:Scheduled s)
  (hworker:1 ≤ s.workers.countP holdsToken):s.enqueuers=[]:=by
 have htokens:=h.tokens_eq
 have hone:=Bool.toNat_le s.mailbox.scheduled
 unfold tokens at htokens
 exact List.eq_nil_of_length_eq_zero (by omega)

lemma Scheduled.enqueue (h:Scheduled s) (sending:Sending) (message:M):
  Scheduled (s.enqueue config actor sending message):=by
 rcases s.enqueue_cases config actor sending message with
  ⟨refused,_,heq⟩|⟨_,_,heq⟩|⟨_,hidle,heq⟩ <;> rw [heq]
 · exact ⟨h.tokens_eq,h.runs_eq,h.inline_running,h.queued⟩
 · refine ⟨?_,?_,?_,fun e he=>(h.queued e he).append _ _⟩
   · simpa [tokens] using h.tokens_eq
   · simpa using h.runs_eq
   · simpa using h.inline_running
 · have htokens:=h.tokens_eq
   rw [hidle] at htokens
   unfold tokens at htokens
   refine ⟨?_,?_,?_,?_⟩
   · simp only [tokens,List.length_cons,append_inlineRunRequested,Bool.toNat_true]
     simp only [Bool.toNat_false] at htokens
     omega
   · simpa using h.runs_eq
   · simpa using h.inline_running
   · intro e he hpoint
     rcases List.mem_cons.mp he with rfl|he
     · exact ⟨_,mem_target_append s.mailbox sending.userMessage ⟨s.sent,message⟩,rfl⟩
     · exact (h.queued e he).append _ _ hpoint

variable {before after:List (Enqueuer M)}

lemma Scheduled.published (h:Scheduled s) (hmem:s.enqueuers=before++enqueuer::after):
  Scheduled { s with enqueuers:=before++after,activations:=s.activations+1 }:=by
 refine ⟨?_,h.runs_eq,h.inline_running,fun e he=>h.queued e ?_⟩
 · have htokens:=h.tokens_eq
   simp only [tokens,hmem,List.length_append,List.length_cons] at htokens ⊢
   omega
 · rw [hmem]
   rcases List.mem_append.mp he with he|he
   · exact List.mem_append_left _ he
   · exact List.mem_append_right _ (List.mem_cons_of_mem _ he)

lemma Scheduled.rejected (h:Scheduled s)
  (hmem:s.enqueuers=before++enqueuer::after) (hpoint:enqueuer.point=.dispatching):
  Scheduled { s with enqueuers:=before++{ enqueuer with point:=.rejected }::after }:=by
 refine ⟨?_,h.runs_eq,h.inline_running,fun e he=>?_⟩
 · have htokens:=h.tokens_eq
   simp only [tokens,hmem,List.length_append,List.length_cons] at htokens ⊢
   omega
 · have hqueued:=h.queued
   rw [hmem] at hqueued
   simp only [List.mem_append,List.mem_cons] at he hqueued
   rcases he with he|rfl|he
   · exact hqueued e (.inl he)
   · intro _
     exact hqueued enqueuer (.inr (.inl rfl)) (.inl hpoint)
   · exact hqueued e (.inr (.inr he))

@[simp] lemma takenBack_running (box:DefaultMailbox M) (user:Bool) (id:ℕ):
  (takenBack box user id).running=box.running:=by
 cases user <;> rfl

@[simp] lemma takenBack_inlineRunRequested (box:DefaultMailbox M) (user:Bool) (id:ℕ):
  (takenBack box user id).inlineRunRequested=box.inlineRunRequested:=by
 cases user <;> rfl

lemma Scheduled.alone (h:Scheduled s) (hmem:s.enqueuers=before++enqueuer::after):
  before++after=[] ∧ s.activations=0 ∧ s.workers.countP holdsToken=0 ∧
   s.mailbox.inlineRunRequested=false:=by
 have htokens:=h.tokens_eq
 have hone:=Bool.toNat_le s.mailbox.scheduled
 simp only [tokens,hmem,List.length_append,List.length_cons] at htokens
 refine ⟨List.eq_nil_of_length_eq_zero ?_,by omega,by omega,?_⟩
 · rw [List.length_append]
   omega
 · exact Bool.toNat_eq_zero.mp (by omega)

lemma Scheduled.rollback (h:Scheduled s) (hmem:s.enqueuers=before++enqueuer::after)
  (hpoint:enqueuer.point=.rejected):Scheduled (s.rollback enqueuer (before++after)):=by
 obtain ⟨hothers,hactivations,hworkers,hinline⟩:=h.alone hmem
 have hqueued:=h.queued enqueuer (by rw [hmem]; simp) (.inr hpoint)
 rw [World.rollback_of_queued _ hqueued,hothers]
 refine ⟨?_,?_,?_,?_⟩
 · simp only [tokens,hactivations,hworkers,takenBack_inlineRunRequested,hinline]
   split_ifs with hfallback
   · rw [hfallback]
     rfl
   · rw [Bool.not_eq_true] at hfallback
     rw [hfallback]
     rfl
 · simpa using h.runs_eq
 · simpa using h.inline_running
 · dsimp only
   intro e he hpending
   split_ifs at he
   · rw [List.mem_singleton] at he
     subst he
     rcases hpending with hpending|hpending <;> cases hpending
   · cases he

lemma countP_middle (p:Worker ι M → Bool) (before after:List (Worker ι M))
  (worker:Worker ι M):(before++worker::after).countP p =
   before.countP p+after.countP p+(p worker).toNat:=by
 rw [List.countP_append,List.countP_cons]
 cases p worker <;> simp
 omega

lemma Scheduled.dequeue (h:Scheduled s) {activations:ℕ} (hactivations:s.activations=activations+1):
  Scheduled { s with activations:=activations,workers:=.arriving::s.workers }:=by
 refine ⟨?_,?_,h.inline_running,h.queued⟩
 · have htokens:=h.tokens_eq
   have hcount:(Worker.arriving::s.workers).countP holdsToken =
    s.workers.countP holdsToken+1:=List.countP_cons_of_pos rfl
   simp only [tokens,hactivations,hcount] at htokens ⊢
   omega
 · rw [←h.runs_eq]
   exact List.countP_cons_of_neg (by simp [runs])

lemma Scheduled.work (h:Scheduled s) {before after:List (Worker ι M)}
  {worker:Worker ι M} {result:Advance ι M} (hmem:s.workers=before++worker::after)
  (hadvance:Advances config actor s.actor s.mailbox worker result):Scheduled { s with
   mailbox:=result.mailbox
   workers:=before++(result.worker.toList++after)
   activations:=s.activations+result.published }:=by
 have htokens:=h.tokens_eq
 have hruns:=h.runs_eq
 rw [hmem,countP_middle] at hruns
 simp only [tokens,hmem,countP_middle] at htokens
 refine ⟨?_,?_,advances_inline hadvance h.inline_running,?_⟩
 · have hbalance:=advances_tokens hadvance (by omega)
   simp only [tokens,List.countP_append]
   omega
 · have hbalance:=advances_runs hadvance (by omega)
   simp only [List.countP_append]
   omega
 · intro e he hpending
   have hidle:holdsToken worker=false:=by
    cases hholds:holdsToken worker with
    | false=>rfl
    | true=>
     have hnone:=h.no_enqueuers (by rw [hmem,countP_middle,hholds]; simp)
     rw [hnone] at he
     cases he
   change ∃slot∈result.mailbox.target _,_
   rw [advances_queues hadvance hidle]
   exact h.queued e he hpending

lemma Scheduled.invoking (h:Scheduled s) {before after:List (Worker ι M)}
  {worker worker':Worker ι M} (hmem:s.workers=before++worker::after)
  (hinvoking:isInvoking worker=true)
  (hscheduled:box.scheduled=s.mailbox.scheduled) (hrunning:box.running=s.mailbox.running)
  (hinline:box.inlineRunRequested=s.mailbox.inlineRunRequested)
  (hholds:holdsToken worker'=true) (hruns:runs worker'=true) (state:σ)
  (delivered:List (Slot M)):Scheduled { s with
   mailbox:=box
   actor:=state
   workers:=before++worker'::after
   delivered:=delivered }:=by
 have hworker:holdsToken worker=true ∧ runs worker=true:=by
  cases worker <;> first | exact ⟨rfl,rfl⟩ | cases hinvoking
 have hnone:=h.no_enqueuers (by rw [hmem,countP_middle,hworker.1]; simp)
 refine ⟨?_,?_,?_,?_⟩
 · have htokens:=h.tokens_eq
   simp only [tokens,hmem,countP_middle,hworker.1] at htokens
   simp only [tokens,countP_middle,hholds,hinline,hscheduled]
   exact htokens
 · have hcount:=h.runs_eq
   rw [hmem,countP_middle,hworker.2] at hcount
   rw [countP_middle,hruns,hrunning]
   exact hcount
 · rw [hinline,hrunning]
   exact h.inline_running
 · intro e he
   rw [hnone] at he
   cases he

lemma Scheduled.step {t:World σ ι M} {event:Event ι M} (h:Scheduled s)
  (hstep:(mailboxSystem config actor).step s event t):Scheduled t:=by
 cases event with
 | enqueue sending message=>
  change t=_ at hstep
  rw [hstep]
  exact h.enqueue sending message
 | dispatch enqueuer outcome=>
  obtain ⟨before,after,hmem,hpoint,rfl⟩:=hstep
  split_ifs
  · exact h.published hmem
  · exact h.rejected hmem hpoint
 | rollback enqueuer=>
  obtain ⟨before,after,hmem,hpoint,rfl⟩:=hstep
  exact h.rollback hmem hpoint
 | publish enqueuer=>
  obtain ⟨before,after,_,hmem,_,rfl⟩:=hstep
  exact h.published hmem
 | dequeue=>
  obtain ⟨activations,hactivations,rfl⟩:=hstep
  exact h.dequeue hactivations
 | work worker outcome=>
  obtain ⟨before,after,result,hmem,hadvance,rfl⟩:=hstep
  exact h.work hmem (Worker.advance_cases hadvance)
 | call call=>
  obtain ⟨before,after,batch,invocation,system,state,invocation',hmem,_,rfl⟩:=hstep
  exact h.invoking hmem rfl (by cases call <;> rfl) (by cases call <;> rfl)
   (by cases call <;> rfl) rfl rfl state _
 | finish result=>
  obtain ⟨before,after,batch,invocation,system,hmem,_,rfl⟩:=hstep
  exact h.invoking hmem rfl rfl rfl rfl (by cases result <;> rfl) (by cases result <;> rfl)
   s.actor s.delivered

lemma reachable_scheduled (h:(mailboxSystem config actor).Reachable s):
  Scheduled s:=by
 refine h.invariant (I := Scheduled) ?_ (fun _ _ _ _ hs hstep=>hs.step hstep)
 rintro _ ⟨state,_,rfl⟩
 exact .create state

end

section

variable {σ ι M:Type} {config:Config} {actor:Actor σ ι M}

def Awake (actor:Actor σ ι M) (s:World σ ι M):Prop:=
 s.mailbox.closed=false → s.mailbox.hasWork (actor.canProcessUserMessages s.actor)=true →
  s.mailbox.scheduled=true

/-- The one step that may lose a wake-up: `_recover_after_failure` gives up after a
 rejected dispatch although user messages wait that the actor can process. -/
def RecoveryKeepsWork (actor:Actor σ ι M) (s:World σ ι M):Event ι M → Prop
 | .work .recoveryRejected _=>s.mailbox.closed=true ∨ s.mailbox.systemMessages≠[] ∨
  s.mailbox.messages=[] ∨ actor.canProcessUserMessages s.actor=false
 | _=>True

variable {box:DefaultMailbox M} {canProcess:Bool} {s t:World σ ι M} {event:Event ι M}

lemma hasWork_of_nothingToRun (hopen:box.closed=false) (h:box.nothingToRun canProcess=true):
  box.hasWork canProcess=false:=by
 unfold DefaultMailbox.nothingToRun at h
 unfold DefaultMailbox.hasWork
 rw [hopen] at h
 cases hs:box.systemMessages.isEmpty <;> cases hm:box.messages.isEmpty <;>
  cases hc:canProcess <;> simp_all

lemma hasWork_holdsMessages (h:box.hasWork canProcess=true):box.holdsMessages=true:=by
 unfold DefaultMailbox.hasWork at h
 unfold DefaultMailbox.holdsMessages
 cases hs:box.systemMessages.isEmpty with
 | false=>rfl
 | true=>
  rw [hs,Bool.not_true,Bool.false_or,Bool.and_eq_true] at h
  rw [h.1,Bool.or_true]

lemma Scheduled.scheduled_of_token (h:Scheduled s)
  {before after:List (Worker ι M)} {worker:Worker ι M}
  (hmem:s.workers=before++worker::after) (hholds:holdsToken worker=true):
  s.mailbox.scheduled=true:=by
 have htokens:=h.tokens_eq
 simp only [tokens,hmem,countP_middle,hholds,Bool.toNat_true] at htokens
 cases hs:s.mailbox.scheduled with
 | true=>rfl
 | false=>
  rw [hs,Bool.toNat_false] at htokens
  omega

lemma Awake.enqueue (h:Awake actor s) (sending:Sending) (message:M):
  Awake actor (s.enqueue config actor sending message):=by
 rcases s.enqueue_cases config actor sending message with
  ⟨refused,_,heq⟩|⟨_,hwhy,heq⟩|⟨_,_,heq⟩ <;> rw [heq]
 · exact h
 · rcases hwhy with hscheduled|⟨huser,hcan⟩
   · intro _ _
     change (DefaultMailbox.append _ _ _).scheduled=true
     rw [append_scheduled]
     exact hscheduled
   · -- a user message that cannot be processed now adds no work
     intro hopen hwork
     rw [huser] at hopen hwork ⊢
     apply h hopen
     change (!s.mailbox.systemMessages.isEmpty || (_ && actor.canProcessUserMessages s.actor))=true
      at hwork
     rw [hcan,Bool.and_false,Bool.or_false] at hwork
     change (!s.mailbox.systemMessages.isEmpty || _)=true
     rw [hwork,Bool.true_or]
 · exact fun _ _=>rfl

lemma Awake.work (h:Awake actor s) (hscheduled:Scheduled s)
  {before after:List (Worker ι M)} {worker:Worker ι M} {outcome:DispatchOutcome}
  {result:Advance ι M} (hmem:s.workers=before++worker::after)
  (hadvance:Advances config actor s.actor s.mailbox worker result)
  (hok:RecoveryKeepsWork actor s (.work worker outcome)):Awake actor { s with
   mailbox:=result.mailbox
   workers:=before++(result.worker.toList++after)
   activations:=s.activations+result.published }:=by
 have htoken:=hscheduled.scheduled_of_token hmem
 intro hopen hwork
 cases hadvance with
 | settle worker loop idle=>
  have hnone:s.mailbox.hasWork (actor.canProcessUserMessages s.actor)=false:=
   hasWork_of_nothingToRun hopen idle
  cases hnone.symm.trans hwork
 | abandon system=>
  have hopen':s.mailbox.closed=false:=hopen
  change s.mailbox.hasWork (actor.canProcessUserMessages s.actor)=true at hwork
  unfold DefaultMailbox.hasWork at hwork
  rcases hok with hclosed|hsystem|hmessages|hcan
  · rw [hopen'] at hclosed
    cases hclosed
  · exact absurd system hsystem
  · rw [system,hmessages] at hwork
    cases hwork
  · rw [system,hcan,Bool.and_false] at hwork
    cases hwork
 | inline worker gap requested | handedOff | finish | publish worker dispatch=>exact h hopen hwork
 | restore | restoreFailed=>
  change (DefaultMailbox.restoreBatch _ _ _).scheduled=true
  rw [restoreBatch_scheduled]
  exact htoken rfl
 | _=>exact htoken rfl

lemma Awake.step (h:Awake actor s) (hscheduled:Scheduled s) (hok:RecoveryKeepsWork actor s event)
  (hstep:(mailboxSystem config actor).step s event t):Awake actor t:=by
 cases event with
 | enqueue sending message=>
  change t=_ at hstep
  rw [hstep]
  exact h.enqueue sending message
 | dispatch enqueuer outcome=>
  obtain ⟨before,after,hmem,hpoint,rfl⟩:=hstep
  split_ifs
  · exact h
  · exact h
 | rollback enqueuer=>
  obtain ⟨before,after,hmem,hpoint,rfl⟩:=hstep
  have hqueued:=hscheduled.queued enqueuer (by rw [hmem]; simp) (.inr hpoint)
  rw [World.rollback_of_queued _ hqueued]
  exact fun _ hwork=>hasWork_holdsMessages hwork
 | publish enqueuer=>
  obtain ⟨before,after,_,hmem,_,rfl⟩:=hstep
  exact h
 | dequeue=>
  obtain ⟨activations,hactivations,rfl⟩:=hstep
  exact h
 | work worker outcome=>
  obtain ⟨before,after,result,hmem,hadvance,rfl⟩:=hstep
  exact h.work hscheduled hmem (Worker.advance_cases hadvance) hok
 | call call=>
  obtain ⟨before,after,batch,invocation,system,state,invocation',hmem,_,rfl⟩:=hstep
  intro _ _
  have hkept:(call.apply s.mailbox).scheduled=s.mailbox.scheduled:=by cases call <;> rfl
  exact hkept.trans (hscheduled.scheduled_of_token hmem rfl)
 | finish result=>
  obtain ⟨before,after,batch,invocation,system,hmem,_,rfl⟩:=hstep
  exact fun _ _=>hscheduled.scheduled_of_token hmem rfl

def Idle (s:World σ ι M):Prop:=s.enqueuers=[] ∧ s.workers=[]

def Stranded (actor:Actor σ ι M) (s:World σ ι M):Prop:=
 s.mailbox.closed=false ∧ s.mailbox.hasWork (actor.canProcessUserMessages s.actor)=true ∧
  tokens s=0

lemma Scheduled.one_invocation (h:Scheduled s):
  s.workers.countP isInvoking≤1:=by
 have hle:s.workers.countP isInvoking ≤ s.workers.countP runs:=by
  apply List.countP_mono_left
  intro worker _ hinvoking
  cases worker <;> first | rfl | cases hinvoking
 calc
  s.workers.countP isInvoking ≤ s.workers.countP runs:=hle
  _=s.mailbox.running.toNat:=h.runs_eq
  _≤1:=Bool.toNat_le _

lemma Scheduled.activations_of_idle (h:Scheduled s) (hidle:Idle s):
  s.activations=s.mailbox.scheduled.toNat:=by
 have htokens:=h.tokens_eq
 have hruns:=h.runs_eq
 rw [hidle.2] at hruns
 have hinline:s.mailbox.inlineRunRequested=false:=by
  cases hi:s.mailbox.inlineRunRequested with
  | false=>rfl
  | true=>
   rw [h.inline_running hi] at hruns
   cases hruns
 simpa [tokens,hidle.1,hidle.2,hinline] using htokens

lemma stranded_of_abandon (h:Scheduled s) (hstep:(mailboxSystem config actor).step s event t)
  (hlost:¬RecoveryKeepsWork actor s event):Stranded actor t:=by
 cases event with
 | work worker outcome=>
  cases worker with
  | recoveryRejected=>
   obtain ⟨before,after,result,hmem,hadvance,rfl⟩:=hstep
   simp only [RecoveryKeepsWork,not_or,Bool.not_eq_true,not_not,Bool.not_eq_false] at hlost
   obtain ⟨hopen,hsystem,hmessages,hcan⟩:=hlost
   have hadvances:=Worker.advance_cases hadvance
   have hscheduled:=h.work hmem hadvances
   have hresult:result=⟨{ s.mailbox with scheduled:=false },some .leaving,0⟩:=by
    cases hadvances with
    | settle worker loop=>simp at loop
    | inline worker gap=>simp at gap
    | publish worker dispatch=>simp at dispatch
    | lifecycle system=>exact absurd hsystem system
    | abandon=>rfl
   subst hresult
   refine ⟨hopen,?_,hscheduled.tokens_eq⟩
   change (!s.mailbox.systemMessages.isEmpty ||
    (!s.mailbox.messages.isEmpty && actor.canProcessUserMessages s.actor))=true
   simp [hcan,hmessages]
  | _=>exact absurd trivial hlost
 | _=>exact absurd trivial hlost

/-- At most one `invoke_batch` runs at any time. Where no rejected recovery dispatch abandons
 user messages, work in an open mailbox that no thread is inside of has one activation; a
 step that does abandon them strands them. -/
theorem one_invocation_no_lost_wakeup (config:Config) (actor:Actor σ ι M):
  (∀s,(mailboxSystem config actor).Reachable s → s.workers.countP isInvoking≤1) ∧
  (∀s,((mailboxSystem config actor).restrict (RecoveryKeepsWork actor)).Reachable s →
   Idle s → s.mailbox.closed=false →
   s.mailbox.hasWork (actor.canProcessUserMessages s.actor)=true → s.activations=1) ∧
  (∀s event t,(mailboxSystem config actor).Reachable s →
   (mailboxSystem config actor).step s event t → ¬RecoveryKeepsWork actor s event →
   Stranded actor t):=by
 refine ⟨fun s h=>(reachable_scheduled h).one_invocation,?_,?_⟩
 · intro s h hidle hopen hwork
   have hinvariant:Scheduled s ∧ Awake actor s:=by
    refine h.invariant (I := fun s=>Scheduled s ∧ Awake actor s) ?_ ?_
    · rintro _ ⟨state,_,rfl⟩
      exact ⟨.create state,fun _ hwork=>by cases hwork⟩
    · intro s event t _ hs hstep
      exact ⟨hs.1.step hstep.2,hs.2.step hs.1 hstep.1 hstep.2⟩
   rw [hinvariant.1.activations_of_idle hidle,hinvariant.2 hopen hwork]
   rfl
 · intro s event t h hstep hlost
   exact stranded_of_abandon (reachable_scheduled h) hstep hlost

end

def rawFailingActor : Actor Unit (List (Slot ℕ)) ℕ where
 init _:=True
 canProcessUserMessages _:=true
 invokeBatch batch _:=batch
 call _ _ _ _ _:=False
 finish _ _ result:=result=.raised

def smallMailbox : Config:=⟨10,1,by decide,by decide⟩

theorem one_invocation_no_lost_wakeup_sent :
  ∃s,((mailboxSystem smallMailbox rawFailingActor).restrict
   (RecoveryKeepsWork rawFailingActor)).Reachable s ∧
   s.mailbox.messages=[⟨0,7⟩] ∧ s.activations=1:=by
 have h₀:((mailboxSystem smallMailbox rawFailingActor).restrict
  (RecoveryKeepsWork rawFailingActor)).Reachable (.create ()):=.start ⟨(),trivial,rfl⟩
 have h₁:=h₀.next (.enqueue .send 7) ⟨trivial,rfl⟩
 have h₂:=h₁.next (.dispatch ⟨⟨0,7⟩,.send,.dispatching⟩ .published)
  ⟨trivial,[],[],rfl,rfl,rfl⟩
 exact ⟨_,h₂,rfl,
  (one_invocation_no_lost_wakeup smallMailbox rawFailingActor).2.1 _ h₂ ⟨rfl,rfl⟩ rfl rfl⟩

/-- A batch fails while a second message waits, and the dispatch of
 `_recover_after_failure` is rejected: the second message stays without an activation. -/
theorem rejected_recovery_loses_wakeup :
  ∃s,(mailboxSystem smallMailbox rawFailingActor).Reachable s ∧ Idle s ∧
   s.mailbox.closed=false ∧ s.mailbox.messages=[⟨1,8⟩] ∧
   rawFailingActor.canProcessUserMessages s.actor=true ∧ s.activations=0:=by
 have h₀:(mailboxSystem smallMailbox rawFailingActor).Reachable (.create ()):=
  .start ⟨(),trivial,rfl⟩
 have h₁:=h₀.next (.enqueue .send 7) rfl
 have h₂:=h₁.next (.dispatch ⟨⟨0,7⟩,.send,.dispatching⟩ .published) ⟨[],[],rfl,rfl,rfl⟩
 have h₃:=h₂.next (.enqueue .send 8) rfl
 have h₄:=h₃.next .dequeue ⟨0,rfl,rfl⟩
 have h₅:=h₄.next (.work .arriving .published) ⟨[],[],_,rfl,rfl,rfl⟩
 have h₆:=h₅.next (.work .taking .published) ⟨[],[],_,rfl,rfl,rfl⟩
 have h₇:=h₆.next (.finish .raised) ⟨[],[],_,_,_,rfl,rfl,rfl⟩
 have h₈:=h₇.next (.work (.raised [⟨0,7⟩] false) .published) ⟨[],[],_,rfl,rfl,rfl⟩
 have h₉:=h₈.next (.work .recovering .published) ⟨[],[],_,rfl,rfl,rfl⟩
 have h₁₀:=h₉.next (.work .recoveryDispatching .runtimeError) ⟨[],[],_,rfl,rfl,rfl⟩
 have h₁₁:=h₁₀.next (.work .recoveryRejected .published) ⟨[],[],_,rfl,rfl,rfl⟩
 have h₁₂:=h₁₁.next (.work .leaving .published) ⟨[],[],_,rfl,rfl,rfl⟩
 exact ⟨_,h₁₂,⟨rfl,rfl⟩,rfl,rfl,rfl,rfl⟩

end Movie.MailboxSchedule
