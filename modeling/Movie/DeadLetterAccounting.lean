import Movie.DeadLetters

/-!
# Every told message is accounted for

A told message is counted where it is; no step makes a second copy. A copy is lost by a send to a
mailbox which no longer accepts messages and by a stop that begins in the middle of a batch.
-/
namespace Movie.DeadLetterAccounting

open Function Reachability Mailbox MailboxSchedule MailboxFifo ActorContext DeadLetters

abbrev Box:=World LocalActorContext (Invocation (Option ℕ)) Payload

lemma numbers_append (first second:List (Slot Payload)):
  numbers (first++second)=numbers first++numbers second:=List.filterMap_append

@[simp]
lemma numbers_nil : numbers []=[]:=rfl

lemma numbers_cons (slot:Slot Payload) (slots:List (Slot Payload)):
  numbers (slot::slots)=(tellOf slot.message).toList++numbers slots:=by
 cases h:tellOf slot.message <;> simp [numbers,h]

def copies (tell:ℕ) (s:Box):ℕ:=
 (numbers s.delivered).count tell+(numbers (pending s.workers)).count tell +
  (numbers s.mailbox.messages).count tell

def occurs (tell:ℕ) (r:Ref):ℕ:=
 copies tell r.world+r.publishing.count tell+r.deadLetters.count tell

section

variable {config:Config} {s:Box} {tell:ℕ}

lemma count_append (box:DefaultMailbox Payload) (user:Bool) (slot:Slot Payload)
  (tell:ℕ):(numbers (box.append user slot).messages).count tell =
   (numbers box.messages).count tell +
    if user then (tellOf slot.message).toList.count tell else 0:=by
 cases user with
 | false=>rfl
 | true=>
  simp [DefaultMailbox.append,numbers_append,numbers_cons]

lemma copies_enqueue (sending:Sending) {message:Payload} (h:tellOf message=none) (tell:ℕ):
  copies tell (s.enqueue config (localActor (Option ℕ)) sending message)=copies tell s:=by
 rcases s.enqueue_cases config (localActor (Option ℕ)) sending message with
  ⟨refused,-,heq⟩|⟨-,-,heq⟩|⟨-,-,heq⟩ <;> rw [heq]
 · rfl
 · simp [copies,count_append,h]
 · have happend:=count_append s.mailbox sending.userMessage ⟨s.sent,message⟩ tell
   simp only [h,Option.toList_none,List.count_nil,ite_self,Nat.add_zero] at happend
   simp only [copies,happend]

inductive Sends (r:Ref) (tell:ℕ):Ref → Prop where
 | lost (hclosed:r.world.mailbox.closed=true ∨
  r.world.mailbox.acceptingUserMessages=false):
  Sends r tell { r.setTell tell .returned with
   world:={ r.world with sent:=r.world.sent+1 } }
 | full (refused:List (Slot Payload)):
  Sends r tell { r.setTell tell .overflowing with
   world:={ r.world with sent:=r.world.sent+1,refused:=refused } }
 | queued (hopen:r.world.mailbox.closed=false ∧
  r.world.mailbox.acceptingUserMessages=true) (accepted:List (Slot Payload)):
  Sends r tell { r.setTell tell .returned with
   world:={ r.world with
    mailbox:=r.world.mailbox.append true ⟨r.world.sent,.user (some tell)⟩
    sent:=r.world.sent+1
    accepted:=accepted } }
 | dispatching (hopen:r.world.mailbox.closed=false ∧
  r.world.mailbox.acceptingUserMessages=true) (accepted:List (Slot Payload)):
  Sends r tell { r.setTell tell .enqueuing with
   world:={ r.world with
    mailbox:={ r.world.mailbox.append true ⟨r.world.sent,.user (some tell)⟩ with
     scheduled:=true }
    sent:=r.world.sent+1
    accepted:=accepted
    enqueuers:=⟨⟨r.world.sent,.user (some tell)⟩,.send,.dispatching⟩ ::
     r.world.enqueuers } }

lemma sends_send (r:Ref) (tell:ℕ):Sends r tell (r.send config tell):=by
 have hsame:(localActor (Option ℕ)).canProcessUserMessages r.world.actor =
  r.world.actor.canProcessUserMessages:=rfl
 unfold Ref.send World.enqueue
 rw [hsame]
 rcases enqueue_send r.world.mailbox config r.world.actor.canProcessUserMessages
  ⟨r.world.sent,.user (some tell)⟩ with
  ⟨hclosed,heq⟩|⟨hopen,⟨-,heq⟩|⟨-,heq | heq⟩⟩ <;> simp only [heq,sent]
 · exact .lost hclosed
 · exact .full _
 · exact .queued hopen _
 · exact .dispatching hopen _

end

section

variable {config:Config} {s:Box} {before after:List (Worker (Invocation (Option ℕ)) Payload)}
 {worker:Worker (Invocation (Option ℕ)) Payload}

lemma numbers_count_take_drop (slots:List (Slot Payload)) (n tell:ℕ):
  (numbers (slots.take n)).count tell+(numbers (slots.drop n)).count tell =
   (numbers slots).count tell:=by
 rw [←List.count_append,←numbers_append,List.take_append_drop]

lemma count_restoreBatch (box:DefaultMailbox Payload) (remaining:List (Slot Payload))
  (system:Bool) (tell:ℕ):(numbers (box.restoreBatch remaining system).messages).count tell =
   (numbers box.messages).count tell +
    if box.closed || system then 0 else (numbers remaining).count tell:=by
 cases system with
 | true=>
  obtain ⟨systemMessages,heq⟩:=restoreBatch_system box remaining
  simp [heq]
 | false=>
  rw [restoreBatch_user]
  cases box.closed with
  | true=>simp
  | false=>simp [numbers_append,Nat.add_comm]

lemma pending_append (first second:List (Worker (Invocation (Option ℕ)) Payload)):
  pending (first++second)=pending first++pending second:=List.flatMap_append

lemma pending_cons (w:Worker (Invocation (Option ℕ)) Payload)
  (workers:List (Worker (Invocation (Option ℕ)) Payload)):
  pending (w::workers)=pendingOf w++pending workers:=List.flatMap_cons

lemma count_pending (workers:List (Worker (Invocation (Option ℕ)) Payload)) (tell:ℕ):
  (numbers (pending (before++(workers++after)))).count tell =
   (numbers (pending before)).count tell+(numbers (pending workers)).count tell +
    (numbers (pending after)).count tell:=by
 simp only [pending_append,numbers_append,List.count_append]
 omega

lemma count_pending_cons (tell:ℕ):(numbers (pending (before++worker::after))).count tell =
   (numbers (pending before)).count tell+(numbers (pendingOf worker)).count tell +
    (numbers (pending after)).count tell:=by
 simp only [pending_append,pending_cons,numbers_append,List.count_append]
 omega

lemma advances_count {result:Advance (Invocation (Option ℕ)) Payload}
  (h:Advances config (localActor (Option ℕ)) s.actor s.mailbox worker result) (tell:ℕ):
  (numbers (pending result.worker.toList)).count tell +
   (numbers result.mailbox.messages).count tell +
   (if s.mailbox.closed then (numbers (pendingOf worker)).count tell else 0) =
   (numbers (pendingOf worker)).count tell+(numbers s.mailbox.messages).count tell:=by
 cases h with
 | takeUser=>
  have hsplit:=numbers_count_take_drop s.mailbox.messages config.throughput tell
  simp [pending,pendingOf,localActor,hsplit]
 | restore batch remaining system | restoreFailed batch remaining system=>
  cases system <;> cases hclosed:s.mailbox.closed <;>
   simp [pending,pendingOf,count_restoreBatch,hclosed,Nat.add_comm]
 | settle worker loop=>rcases loop with rfl|rfl|rfl <;> simp [pending,pendingOf]
 | inline worker gap=>rcases gap with rfl|rfl <;> simp [pending,pendingOf]
 | publish worker dispatch=>rcases dispatch with rfl|rfl <;> simp [pending,pendingOf]
 | clear=>simp [pending,pendingOf,DefaultMailbox.clearInFlight]
 | _=>simp [pending,pendingOf]

lemma copies_work {result:Advance (Invocation (Option ℕ)) Payload}
  (hmem:s.workers=before++worker::after)
  (hadvance:Advances config (localActor (Option ℕ)) s.actor s.mailbox worker result)
  (activations tell:ℕ):copies tell { s with
   mailbox:=result.mailbox
   workers:=before++(result.worker.toList++after)
   activations:=activations } +
   (if s.mailbox.closed then (numbers (pendingOf worker)).count tell else 0) =
    copies tell s:=by
 have hcount:=advances_count hadvance tell
 simp only [copies,hmem,count_pending,count_pending_cons]
 omega

lemma copies_call {batch:List (Slot Payload)} {invocation invocation':Invocation (Option ℕ)}
  {system:Bool} {call:Call Payload} {context context':LocalActorContext}
  (hmem:s.workers=before ++ .invoking batch invocation system::after)
  (hsystem:invocation.system=system)
  (heffect:CallEffect context invocation call context' invocation') (tell:ℕ):
  copies tell { s with
   mailbox:=call.apply s.mailbox
   actor:=context'
   workers:=before ++ .invoking batch invocation' system::after
   delivered:=s.delivered++call.delivered } +
   (numbers s.mailbox.messages).count tell =
    copies tell s+(numbers (call.apply s.mailbox).messages).count tell:=by
 have hpass:(numbers (pendingOf (.invoking batch invocation system))).count tell =
  (numbers call.delivered).count tell +
   (numbers (pendingOf (.invoking batch invocation' system))).count tell:=by
  rw [←List.count_append,←numbers_append]
  cases system with
  | false=>
   change (numbers invocation.rest).count tell=_
   rw [heffect.user_rest hsystem]
   rfl
  | true=>rw [heffect.system_delivers hsystem]; rfl
 simp only [copies,hmem,count_pending_cons,numbers_append,List.count_append]
 omega

lemma copies_finish {batch:List (Slot Payload)} {invocation:Invocation (Option ℕ)}
  {system:Bool} {result:BatchResult Payload} (hstarted:s.actor.Started)
  (hmem:s.workers=before ++ .invoking batch invocation system::after)
  (hsystem:invocation.system=system) (hfinish:invocation.finish s.actor result) (tell:ℕ):
  copies tell { s with workers:=before ++ .finished batch system result::after } ≤
   copies tell s ∧
   ((s.actor.Stopping → numbers (pending s.workers)=[]) →
    copies tell { s with workers:=before ++ .finished batch system result::after } =
     copies tell s):=by
 have hkept:pendingOf (.finished batch system result) =
  pendingOf (.invoking batch invocation system) ∨
  (pendingOf (.finished batch system result:Worker (Invocation (Option ℕ)) Payload)=[] ∧
   s.actor.Stopping):=by
  cases result with
  | raised=>exact absurd hfinish not_finish_raised
  | batchFailed remaining system'=>
   obtain ⟨rfl,rfl⟩:=finish_batchFailed hfinish
   rw [hsystem]
   cases system <;> exact .inl rfl
  | returned remaining=>
   cases system with
   | true=>exact .inl rfl
   | false=>
    rcases finish_returned hstarted hfinish with rfl|⟨rfl,hstopping⟩
    · exact .inl rfl
    · exact .inr ⟨rfl,hstopping⟩
 simp only [copies,hmem,count_pending_cons]
 rcases hkept with heq|⟨heq,hstopping⟩
 · rw [heq]
   exact ⟨Nat.le_refl _,fun _=>rfl⟩
 · rw [heq,numbers_nil,List.count_nil]
   refine ⟨by omega,fun hbatch=>?_⟩
   have hnone:(numbers (pending
    (before ++ .invoking batch invocation system::after))).count tell=_:=
    count_pending_cons tell
   rw [hbatch hstopping,List.count_nil] at hnone
   omega

lemma count_eraseP {slots:List (Slot Payload)}
  (hincreasing:slots.Pairwise fun a b=>a.id<b.id) {slot:Slot Payload} (hmem:slot∈slots) (tell:ℕ):
  (numbers (slots.eraseP fun other=>other.id == slot.id)).count tell +
   (tellOf slot.message).toList.count tell=(numbers slots).count tell:=by
 obtain ⟨found,first,second,hfirst,hfound,rfl,herase⟩:=List.exists_of_eraseP
  (p := fun other=>other.id == slot.id) hmem (by simp)
 -- numbers are increasing, so the message found is the sender's own one
 have hsame:found=slot:=by
  rw [beq_iff_eq] at hfound
  rcases List.mem_append.mp hmem with hleft|hright
  · exact absurd (beq_self_eq_true slot.id) (hfirst slot hleft)
  · rcases List.mem_cons.mp hright with heq|hlater
    · exact heq.symm
    · have hlt:=(List.pairwise_cons.mp (List.pairwise_append.mp hincreasing).2.1).1 slot hlater
      omega
 rw [herase,hsame,numbers_append,numbers_append,List.count_append,List.count_append]
 rw [numbers_cons,List.count_append]
 omega

lemma copies_rollback {enqueuer:Enqueuer Payload} (others:List (Enqueuer Payload))
  (hfifo:Fifo config s) (hqueued:∃slot∈s.mailbox.target enqueuer.sending.userMessage,
   slot.id=enqueuer.slot.id)
  (hheld:enqueuer.sending.userMessage=true → enqueuer.slot∈s.mailbox.messages)
  (hsystem:enqueuer.sending.userMessage=false → tellOf enqueuer.slot.message=none)
  (tell:ℕ):copies tell (s.rollback enqueuer others) +
   (tellOf enqueuer.slot.message).toList.count tell=copies tell s:=by
 rw [World.rollback_of_queued others hqueued]
 cases huser:enqueuer.sending.userMessage with
 | false=>simp [copies,takenBack,hsystem huser]
 | true=>
  have hcount:=count_eraseP (hfifo.increasing.sublist hfifo.messages_sublist)
   (hheld huser) tell
  simp only [copies,takenBack,if_true]
  omega

end

section

variable {config:Config} {r r':Ref}

variable {event:Mailbox.Event (Invocation (Option ℕ)) Payload} {state:Tell} {t:Box}

lemma world_runs {event:DeadLetters.Event} (h:step config r event r'):
  (boxSystem config).Runs r.world r'.world:=by
 cases event with
 | send tell=>
  obtain ⟨-,rfl⟩:=h
  exact .single ⟨.enqueue .send (.user (some tell)),rfl⟩
 | mailbox event=>
  obtain ⟨-,world,hstep,rfl⟩:=h
  exact .single ⟨event,hstep⟩
 | publish=>
  obtain ⟨tell,rest,-,rfl⟩:=h
  exact .refl
 | attach=>
  cases h
  exact .refl
 | tell | check | refuse | overflow | stopCell | closeCell=>
  obtain ⟨-,rfl⟩:=h
  exact .refl

lemma world_reachable (h:(system config).Reachable r):
  (boxSystem config).Reachable r.world:=by
 refine h.simulates (f := Ref.world) ?_ fun r event r' _ _ hstep=>world_runs hstep
 rintro _ ⟨context,hinit,rfl⟩
 exact ⟨context,hinit,rfl⟩

def made : Tell → Bool
 | .enqueuing | .returned | .raised=>true
 | .unmade | .checking | .sending | .refusing | .overflowing=>false

structure Accounted (r:Ref):Prop where
 once:∀tell,occurs tell r≤(made (r.tells tell)).toNat
 held:∀enqueuer∈r.world.enqueuers,Undecided enqueuer →
  enqueuer.sending.userMessage=true → enqueuer.slot∈r.world.mailbox.messages
 owned:∀enqueuer∈r.world.enqueuers,Undecided enqueuer → ∀tell,
  tellOf enqueuer.slot.message=some tell →
   enqueuer.sending.userMessage=true ∧ r.tells tell=.enqueuing

lemma Accounted.tell_step (h:Accounted r) {tell:ℕ} (htells:r'.tells=update r.tells tell state)
  (hbefore:r.tells tell≠.enqueuing) (hself:occurs tell r'≤(made state).toNat)
  (hothers:∀other,other≠tell → occurs other r'=occurs other r)
  (hmessages:∀slot∈r.world.mailbox.messages,slot∈r'.world.mailbox.messages)
  (henqueuers:∀enqueuer∈r'.world.enqueuers,enqueuer∈r.world.enqueuers ∨
   (enqueuer.sending.userMessage=true ∧ tellOf enqueuer.slot.message=some tell ∧
    enqueuer.slot∈r'.world.mailbox.messages ∧ state=.enqueuing)):Accounted r':=by
 refine ⟨fun other=>?_,fun enqueuer hmem hundecided huser=>?_,
  fun enqueuer hmem hundecided other hother=>?_⟩
 · rw [htells]
   by_cases hsame:other=tell
   · rw [hsame,update_self]
     exact hself
   · rw [update_of_ne hsame,hothers other hsame]
     exact h.once other
 · rcases henqueuers enqueuer hmem with hold|⟨-,-,hslot,-⟩
   · exact hmessages _ (h.held enqueuer hold hundecided huser)
   · exact hslot
 · rw [htells]
   rcases henqueuers enqueuer hmem with hold|⟨huser,htell,-,rfl⟩
   · obtain ⟨huser,henqueuing⟩:=h.owned enqueuer hold hundecided other hother
     have hne:other≠tell:=by
      rintro rfl
      exact hbefore henqueuing
     rw [update_of_ne hne]
     exact ⟨huser,henqueuing⟩
   · have hsame:other=tell:=Option.some.inj (hother.symm.trans htell)
     rw [hsame,update_self]
     exact ⟨huser,rfl⟩

lemma Accounted.occurs_eq_zero (h:Accounted r) {tell:ℕ} (hmade:made (r.tells tell)=false):
  occurs tell r=0:=by
 have honce:=h.once tell
 rw [hmade] at honce
 exact Nat.eq_zero_of_le_zero honce

lemma occurs_queued {slot:Slot Payload} {told:ℕ} (hslot:tellOf slot.message=some told)
  (hdelivered:r'.world.delivered=r.world.delivered) (hworkers:r'.world.workers=r.world.workers)
  (hmessages:r'.world.mailbox.messages=r.world.mailbox.messages++[slot])
  (hpublishing:r'.publishing=r.publishing) (hletters:r'.deadLetters=r.deadLetters)
  (tell:ℕ):occurs tell r'=occurs tell r+[told].count tell:=by
 simp only [occurs,copies,hdelivered,hworkers,hmessages,hpublishing,hletters,numbers_append,
  numbers_cons,hslot,Option.toList_some,numbers_nil,List.append_nil,List.count_append]
 omega

lemma occurs_published {letters:List ℕ} {tells:ℕ → Tell} (n:ℕ):
  occurs n { r with tells:=tells,deadLetters:=r.deadLetters++letters } =
   occurs n r+letters.count n:=by
 simp only [occurs,List.count_append]
 omega

lemma count_singleton_of_ne {tell other:ℕ} (h:other≠tell):[tell].count other=0:=
 List.count_eq_zero_of_not_mem fun hmem=>h (List.mem_singleton.mp hmem)

lemma not_enqueuing {tell:ℕ} (hmade:made (r.tells tell)=false):
  r.tells tell≠.enqueuing:=by
 intro henqueuing
 rw [henqueuing] at hmade
 cases hmade

lemma Accounted.one_more (h:Accounted r) {tell:ℕ}
  (hmade:made (r.tells tell)=false) (hstate:made state=true)
  (htells:r'.tells=update r.tells tell state) (hone:∀n,occurs n r'=occurs n r+[tell].count n)
  (hmessages:∀slot∈r.world.mailbox.messages,slot∈r'.world.mailbox.messages)
  (henqueuers:∀enqueuer∈r'.world.enqueuers,enqueuer∈r.world.enqueuers ∨
   (enqueuer.sending.userMessage=true ∧ tellOf enqueuer.slot.message=some tell ∧
    enqueuer.slot∈r'.world.mailbox.messages ∧ state=.enqueuing)):Accounted r':=by
 refine h.tell_step htells (not_enqueuing hmade) ?_ ?_ hmessages henqueuers
 · rw [hone,h.occurs_eq_zero hmade,List.count_singleton_self,hstate]
   rfl
 · intro other hne
   rw [hone,count_singleton_of_ne hne,Nat.add_zero]

lemma Accounted.sends (h:Accounted r) {tell:ℕ} (hmade:made (r.tells tell)=false)
  (hsends:Sends r tell r'):Accounted r':=by
 have hzero:=h.occurs_eq_zero hmade
 cases hsends with
 | lost hclosed=>
  exact h.tell_step rfl (not_enqueuing hmade) (hzero.le.trans (Nat.zero_le _)) (fun _ _=>rfl)
   (fun _ hold=>hold) fun _ hold=>.inl hold
 | full refused=>
  exact h.tell_step rfl (not_enqueuing hmade) hzero.le (fun _ _=>rfl) (fun _ hold=>hold)
   fun _ hold=>.inl hold
 | queued hopen accepted=>
  refine h.one_more hmade rfl rfl ?_ (fun slot hold=>List.mem_append_left _ hold)
   fun _ hold=>.inl hold
  exact occurs_queued (by rfl) rfl rfl rfl rfl rfl
 | dispatching hopen accepted=>
  refine h.one_more hmade rfl rfl ?_ (fun slot hold=>List.mem_append_left _ hold)
   fun enqueuer hmem=>?_
  · exact occurs_queued (by rfl) rfl rfl rfl rfl rfl
  · rcases List.mem_cons.mp hmem with rfl|hold
    · exact .inr ⟨rfl,rfl,List.mem_append_right _ (List.mem_singleton_self _),rfl⟩
    · exact .inl hold

def rolledBack : Mailbox.Event (Invocation (Option ℕ)) Payload → List ℕ
 | .rollback enqueuer=>(tellOf enqueuer.slot.message).toList
 | _=>[]

lemma stopping_of_closed {s:Box} (h:Fifo config s) (hclosed:s.mailbox.closed=true):
  s.actor.Stopping:=by
 by_contra hrunning
 rw [(h.accepting hrunning).2] at hclosed
 cases hclosed

lemma Accounted.system_untold (h:Accounted r) {enqueuer:Enqueuer Payload}
  (hmem:enqueuer∈r.world.enqueuers) (hundecided:Undecided enqueuer)
  (huser:enqueuer.sending.userMessage=false):tellOf enqueuer.slot.message=none:=by
 cases htell:tellOf enqueuer.slot.message with
 | none=>rfl
 | some tell=>
  have howned:=(h.owned enqueuer hmem hundecided tell htell).1
  rw [huser] at howned
  cases howned

/-- What a step of the mailbox does to the copies of a message: none is made, and none is lost
 unless a batch is cut off by a stop or a mailbox is closed over its messages. -/
lemma Accounted.copies_step
  (h:Accounted r) (hfifo:Fifo config r.world) (hscheduled:Scheduled r.world)
  (hallows:r.Allows event) (hstep:(boxSystem config).step r.world event t) (tell:ℕ):
  copies tell t+(r.taken event).count tell ≤ copies tell r.world ∧
   ((r.world.actor.Stopping → numbers (pending r.world.workers)=[]) →
    (event=.call .close → numbers r.world.mailbox.messages=[]) →
    copies tell t+(r.taken event).count tell+(rolledBack event).count tell =
     copies tell r.world):=by
 cases event with
 | enqueue sending message=>
  cases hstep
  have hsame:copies tell (r.world.enqueue config (localActor (Option ℕ)) sending message) =
   copies tell r.world:=copies_enqueue sending hallows tell
  exact ⟨hsame.le,fun _ _=>hsame⟩
 | dispatch enqueuer outcome=>
  obtain ⟨before,after,hmem,hpoint,rfl⟩:=hstep
  split_ifs <;> exact ⟨Nat.le_refl _,fun _ _=>rfl⟩
 | rollback enqueuer=>
  obtain ⟨before,after,hmem,hpoint,rfl⟩:=hstep
  have hmem':enqueuer∈r.world.enqueuers:=by rw [hmem]; simp
  have hcount:=copies_rollback (before++after) hfifo
   (hscheduled.queued enqueuer hmem' (.inr hpoint)) (h.held enqueuer hmem' (.inr hpoint))
   (h.system_untold hmem' (.inr hpoint)) tell
  simp only [Ref.taken,rolledBack,List.count_nil]
  exact ⟨by omega,fun _ _=>hcount⟩
 | publish enqueuer=>
  obtain ⟨before,after,_,hmem,_,rfl⟩:=hstep
  exact ⟨Nat.le_refl _,fun _ _=>rfl⟩
 | dequeue=>
  obtain ⟨activations,hactivations,rfl⟩:=hstep
  exact ⟨Nat.le_refl _,fun _ _=>rfl⟩
 | work worker outcome=>
  obtain ⟨before,after,result,hmem,hadvance,rfl⟩:=hstep
  have hcount:=copies_work hmem (Worker.advance_cases hadvance)
   (r.world.activations+result.published) tell
  simp only [Ref.taken,rolledBack,List.count_nil]
  refine ⟨by omega,fun hbatch _=>?_⟩
  split_ifs at hcount with hclosed
  · have hnone:(numbers (pending (before++worker::after))).count tell=_:=
     count_pending_cons tell
    rw [←hmem,hbatch (stopping_of_closed hfifo hclosed),List.count_nil] at hnone
    omega
  · omega
 | call call=>
  obtain ⟨before,after,batch,invocation,system,state,invocation',hmem,hcall,rfl⟩:=
   hstep
  obtain ⟨hsound,hsystem,-⟩:=
   hfifo.workers (.invoking batch invocation system) (by rw [hmem]; simp)
  have hcount:=copies_call hmem hsystem (hsound.call hcall) tell
  cases call with
  | internal | deliver=>
   simp only [Ref.taken,rolledBack,List.count_nil,Call.apply] at hcount ⊢
   exact ⟨by omega,fun _ _=>by omega⟩
  | stopUserMessages=>
   simp only [Ref.taken,rolledBack,List.count_nil,Call.apply,
    DefaultMailbox.stopUserMessages,numbers_nil] at hcount ⊢
   exact ⟨by omega,fun _ _=>by omega⟩
  | close=>
   simp only [Ref.taken,rolledBack,List.count_nil,Call.apply,
    DefaultMailbox.close,numbers_nil] at hcount ⊢
   refine ⟨by omega,fun _ hempty=>?_⟩
   rw [hempty trivial,List.count_nil] at hcount
   omega
 | finish result=>
  obtain ⟨before,after,batch,invocation,system,hmem,hfinish,rfl⟩:=hstep
  obtain ⟨-,hsystem,-⟩:=
   hfifo.workers (.invoking batch invocation system) (by rw [hmem]; simp)
  obtain ⟨hle,heq⟩:=copies_finish hfifo.started hmem hsystem hfinish tell
  exact ⟨hle,fun hbatch _=>heq hbatch⟩

lemma mem_append_messages {box:DefaultMailbox Payload} {slot:Slot Payload} (user:Bool)
  (added:Slot Payload) (h:slot∈box.messages):slot∈(box.append user added).messages:=by
 cases user with
 | false=>exact h
 | true=>exact List.mem_append_left _ h

lemma Accounted.senders (h:Accounted r) (hscheduled:Scheduled r.world) (hallows:r.Allows event)
  (hstep:(boxSystem config).step r.world event t):
  ∀enqueuer∈t.enqueuers,Undecided enqueuer →
   (enqueuer.sending.userMessage=true → enqueuer.slot∈t.mailbox.messages) ∧
   ∀tell,tellOf enqueuer.slot.message=some tell →
    enqueuer.sending.userMessage=true ∧ Ref.settle r.tells event tell=.enqueuing:=by
 intro enqueuer hmem hundecided
 cases event with
 | enqueue sending message=>
  cases hstep
  have hold (hmem:enqueuer∈r.world.enqueuers):=
   And.intro (h.held enqueuer hmem hundecided) (h.owned enqueuer hmem hundecided)
  rcases r.world.enqueue_cases config (localActor (Option ℕ)) sending message with
   ⟨refused,-,heq⟩|⟨-,-,heq⟩|⟨-,-,heq⟩ <;> rw [heq] at hmem ⊢
  · exact hold hmem
  · obtain ⟨hheld,howned⟩:=hold hmem
    exact ⟨fun huser=>mem_append_messages _ _ (hheld huser),howned⟩
  · rcases List.mem_cons.mp hmem with rfl|hmem
    · refine ⟨fun huser=>?_,fun tell htell=>?_⟩
      · dsimp only at huser ⊢
        rw [huser]
        exact List.mem_append_right _ (List.mem_singleton_self _)
      · rw [show tellOf message=none from hallows] at htell
        cases htell
    · obtain ⟨hheld,howned⟩:=hold hmem
      exact ⟨fun huser=>mem_append_messages _ _ (hheld huser),howned⟩
 | dispatch dispatched outcome=>
  obtain ⟨before,after,hdispatched,hpoint,rfl⟩:=hstep
  obtain ⟨rfl,rfl⟩:=List.append_eq_nil_iff.mp (hscheduled.alone hdispatched).1
  have hmem':dispatched∈r.world.enqueuers:=by rw [hdispatched]; simp
  split_ifs at hmem ⊢ with houtcome
  · cases hmem
  · rw [List.nil_append,List.mem_singleton] at hmem
    subst hmem
    have howned:=h.owned dispatched hmem' (.inl hpoint)
    refine ⟨h.held dispatched hmem' (.inl hpoint),?_⟩
    cases outcome with
    | published=>exact absurd rfl houtcome
    | runtimeError | otherError=>exact howned
 | rollback rejected=>
  obtain ⟨before,after,hrejected,hpoint,rfl⟩:=hstep
  unfold World.rollback at hmem
  rw [(hscheduled.alone hrejected).1] at hmem
  dsimp only at hmem
  split_ifs at hmem
  · rw [List.mem_singleton] at hmem
    subst hmem
    rcases hundecided with hpoint|hpoint <;> cases hpoint
  · cases hmem
 | publish enqueuer=>
  obtain ⟨before,after,_,hmem',_,rfl⟩:=hstep
  rw [(hscheduled.alone hmem').1] at hmem
  cases hmem
 | dequeue=>
  obtain ⟨activations,hactivations,rfl⟩:=hstep
  exact ⟨h.held enqueuer hmem hundecided,h.owned enqueuer hmem hundecided⟩
 | work worker outcome=>
  obtain ⟨before,after,result,hworker,hadvance,rfl⟩:=hstep
  cases hholds:holdsToken worker with
  | true=>
   rw [hscheduled.no_enqueuers (by rw [hworker,countP_middle,hholds]; simp)] at hmem
   cases hmem
  | false=>
   have hqueue:=advances_queues (Worker.advance_cases hadvance) hholds true
   change result.mailbox.messages=r.world.mailbox.messages at hqueue
   refine ⟨fun huser=>?_,h.owned enqueuer hmem hundecided⟩
   rw [hqueue]
   exact h.held enqueuer hmem hundecided huser
 | call call=>
  obtain ⟨before,after,batch,invocation,system,state,invocation',hworker,-,rfl⟩:=hstep
  rw [hscheduled.no_enqueuers (by rw [hworker,countP_middle]; simp [holdsToken])] at hmem
  cases hmem
 | finish result=>
  obtain ⟨before,after,batch,invocation,system,hworker,-,rfl⟩:=hstep
  rw [hscheduled.no_enqueuers (by rw [hworker,countP_middle]; simp [holdsToken])] at hmem
  cases hmem

lemma Accounted.settle_made (h:Accounted r)
  (hstep:(boxSystem config).step r.world event t) (tell:ℕ):
  made (Ref.settle r.tells event tell)=made (r.tells tell):=by
 have hleaves {enqueuer:Enqueuer Payload} {before after:List (Enqueuer Payload)} {state:Tell}
  (hmem:r.world.enqueuers=before++enqueuer::after) (hundecided:Undecided enqueuer)
  (hstate:made state=true) {told:ℕ} (htold:tellOf enqueuer.slot.message=some told):
  made (update r.tells told state tell)=made (r.tells tell):=by
  have howned:=(h.owned enqueuer (by rw [hmem]; simp) hundecided told htold).2
  by_cases hsame:tell=told
  · rw [hsame,update_self,howned,hstate]
    rfl
  · rw [update_of_ne hsame]
 cases event with
 | dispatch enqueuer outcome=>
  obtain ⟨before,after,hmem,hpoint,-⟩:=hstep
  cases outcome with
  | published=>
   cases htold:tellOf enqueuer.slot.message with
   | none=>simp only [Ref.settle,htold]
   | some told=>
    simp only [Ref.settle,htold]
    exact hleaves hmem (.inl hpoint) rfl htold
  | runtimeError | otherError=>rfl
 | rollback enqueuer=>
  obtain ⟨before,after,hmem,hpoint,-⟩:=hstep
  cases htold:tellOf enqueuer.slot.message with
  | none=>simp only [Ref.settle,htold]
  | some told=>
   simp only [Ref.settle,htold]
   exact hleaves hmem (.inr hpoint) rfl htold
 | enqueue | publish | dequeue | work | call | finish=>rfl

lemma Accounted.mailbox (h:Accounted r) (hfifo:Fifo config r.world) (hscheduled:Scheduled r.world)
  (hallows:r.Allows event) (hstep:(boxSystem config).step r.world event t):Accounted { r with
   world:=t
   tells:=Ref.settle r.tells event
   publishing:=r.publishing++r.taken event }:=by
 have hsenders:=h.senders hscheduled hallows hstep
 refine ⟨fun tell=>?_,fun enqueuer hmem hundecided=>(hsenders enqueuer hmem hundecided).1,
  fun enqueuer hmem hundecided=>(hsenders enqueuer hmem hundecided).2⟩
 have honce:=h.once tell
 have hcopies:=(h.copies_step hfifo hscheduled hallows hstep tell).1
 simp only [occurs,h.settle_made hstep,List.count_append] at honce ⊢
 omega

lemma reachable_accounted (h:(system config).Reachable r):Accounted r:=by
 refine h.invariant (I := Accounted) ?_ ?_
 · rintro _ ⟨context,-,rfl⟩
   exact ⟨fun _=>Nat.le_refl 0,by simp [Ref.create,World.create],
    by simp [Ref.create,World.create]⟩
 · intro r event r' hreachable haccounted hstep
   have hworld:=world_reachable hreachable
   cases event with
   | attach=>
    cases hstep
    exact ⟨haccounted.once,haccounted.held,haccounted.owned⟩
   | tell tell | check tell=>
    obtain ⟨hstate,rfl⟩:=hstep
    have hmade:made (r.tells tell)=false:=by rw [hstate]; rfl
    exact haccounted.tell_step rfl (not_enqueuing hmade)
     ((haccounted.occurs_eq_zero hmade).le.trans (Nat.zero_le _)) (fun _ _=>rfl)
     (fun _ hold=>hold) fun _ hold=>.inl hold
   | send tell=>
    obtain ⟨hstate,rfl⟩:=hstep
    exact haccounted.sends (by rw [hstate]; rfl) (sends_send r tell)
   | refuse tell | overflow tell=>
    obtain ⟨hstate,rfl⟩:=hstep
    exact haccounted.one_more (by rw [hstate]; rfl) rfl rfl occurs_published (fun _ hold=>hold)
     fun _ hold=>.inl hold
   | stopCell | closeCell=>
    obtain ⟨-,rfl⟩:=hstep
    exact ⟨haccounted.once,haccounted.held,haccounted.owned⟩
   | publish=>
    obtain ⟨tell,rest,hpublishing,rfl⟩:=hstep
    refine ⟨fun n=>?_,haccounted.held,haccounted.owned⟩
    have honce:=haccounted.once n
    simp only [occurs,hpublishing,List.count_append,List.count_cons,List.count_nil]
     at honce ⊢
    omega
   | mailbox event=>
    obtain ⟨hallows,world,hstep,rfl⟩:=hstep
    exact haccounted.mailbox (reachable_fifo hworld) (reachable_scheduled hworld) hallows hstep

end

section

variable {config:Config} {r r' t:Ref} {slot:Slot Payload} {tell:ℕ}

lemma accepted_enqueue (config:Config) (s:Box) (sending:Sending) (message:Payload):
  (s.enqueue config (localActor (Option ℕ)) sending message).sent=s.sent+1 ∧
  ∀slot∈(s.enqueue config (localActor (Option ℕ)) sending message).accepted,
   slot∈s.accepted ∨ slot=⟨s.sent,message⟩:=by
 rcases s.enqueue_cases config (localActor (Option ℕ)) sending message with
  ⟨_,-,heq⟩|⟨-,-,heq⟩|⟨-,-,heq⟩ <;> rw [heq]
 · exact ⟨rfl,fun _ hslot=>.inl hslot⟩
 all_goals
  refine ⟨rfl,fun slot hslot=>(List.mem_append.mp hslot).imp_right fun hnew=>?_⟩
  unfold userSlots at hnew
  split_ifs at hnew
  · exact List.mem_singleton.mp hnew
  · cases hnew

lemma accepted_mailbox {event:Mailbox.Event (Invocation (Option ℕ)) Payload} {world:Box}
  (hallows:r.Allows event) (hstep:(boxSystem config).step r.world event world):
  r.world.sent ≤ world.sent ∧
  ∀slot∈world.accepted,∀tell,tellOf slot.message=some tell → slot∈r.world.accepted:=by
 cases event with
 | enqueue sending message=>
  cases hstep
  obtain ⟨hsent,haccepted⟩:=accepted_enqueue config r.world sending message
  refine ⟨by omega,fun slot hslot tell htell=>(haccepted slot hslot).resolve_right ?_⟩
  rintro rfl
  cases htell.symm.trans hallows
 | rollback enqueuer=>
  obtain ⟨_,_,-,-,rfl⟩:=hstep
  refine ⟨Nat.le_refl _,fun slot hslot _ _=>?_⟩
  unfold World.rollback at hslot
  dsimp only at hslot
  split_ifs at hslot
  · exact List.mem_of_mem_eraseP hslot
  · exact hslot
 | dispatch enqueuer outcome=>
  obtain ⟨_,_,-,-,rfl⟩:=hstep
  split_ifs <;> exact ⟨Nat.le_refl _,fun _ hslot _ _=>hslot⟩
 | publish | work=>
  obtain ⟨_,_,_,-,-,rfl⟩:=hstep
  exact ⟨Nat.le_refl _,fun _ hslot _ _=>hslot⟩
 | dequeue=>
  obtain ⟨_,-,rfl⟩:=hstep
  exact ⟨Nat.le_refl _,fun _ hslot _ _=>hslot⟩
 | call=>
  obtain ⟨_,_,_,_,_,_,_,-,-,rfl⟩:=hstep
  exact ⟨Nat.le_refl _,fun _ hslot _ _=>hslot⟩
 | finish=>
  obtain ⟨_,_,_,_,_,-,-,rfl⟩:=hstep
  exact ⟨Nat.le_refl _,fun _ hslot _ _=>hslot⟩

lemma made_update {state:Tell} {told:ℕ} (hbefore:made (r.tells told)=false)
  (hmade:made (r.tells tell)=true):made (update r.tells told state tell)=true:=by
 rw [update_of_ne]
 · exact hmade
 · rintro rfl
   cases hmade.symm.trans hbefore

/-- A message is accepted only by the step that makes its tell. -/
structure Follows (r r':Ref):Prop where
 sent:r.world.sent ≤ r'.world.sent
 stays:∀tell,made (r.tells tell)=true → made (r'.tells tell)=true
 accepted:∀slot∈r'.world.accepted,∀tell,tellOf slot.message=some tell → slot∈r.world.accepted ∨
  (r.world.sent ≤ slot.id ∧ made (r.tells tell)=false ∧ made (r'.tells tell)=true)

lemma follows_step {event:DeadLetters.Event} (h:Accounted r) (hstep:step config r event r'):
  Follows r r':=by
 cases event with
 | send told=>
  obtain ⟨hstate,rfl⟩:=hstep
  have hunmade:made (r.tells told)=false:=by rw [hstate]; rfl
  obtain ⟨hsent,haccepted⟩:=
   accepted_enqueue config r.world .send (.user (some told))
  have hsends:Sends r told (r.send config told):=sends_send r told
  refine ⟨Nat.le_of_lt (Nat.lt_of_lt_of_eq (Nat.lt_succ_self _) hsent.symm),
   fun _=>made_update hunmade,fun slot hslot tell htell=>?_⟩
  rcases haccepted slot hslot with hold|rfl
  · exact .inl hold
  · obtain rfl:=Option.some.inj htell
    generalize r.send config told=q at hsends hslot ⊢
    cases hsends with
    | full=>exact .inl hslot
    | lost | queued | dispatching=>
     refine .inr ⟨Nat.le_refl _,hunmade,?_⟩
     simp [Ref.setTell,made]
 | mailbox event=>
  obtain ⟨hallows,world,hstep,rfl⟩:=hstep
  obtain ⟨hsent,haccepted⟩:=accepted_mailbox hallows hstep
  exact ⟨hsent,fun tell hmade=>(h.settle_made hstep tell).trans hmade,
   fun slot hslot tell htell=>.inl (haccepted slot hslot tell htell)⟩
 | tell told | check told | refuse told | overflow told=>
  obtain ⟨hstate,rfl⟩:=hstep
  exact ⟨Nat.le_refl _,fun _=>made_update (by rw [hstate]; rfl),fun _ hslot _ _=>.inl hslot⟩
 | publish=>
  obtain ⟨_,_,-,rfl⟩:=hstep
  exact ⟨Nat.le_refl _,fun _ hmade=>hmade,fun _ hslot _ _=>.inl hslot⟩
 | attach=>
  cases hstep
  exact ⟨Nat.le_refl _,fun _ hmade=>hmade,fun _ hslot _ _=>.inl hslot⟩
 | stopCell | closeCell=>
  obtain ⟨-,rfl⟩:=hstep
  exact ⟨Nat.le_refl _,fun _ hmade=>hmade,fun _ hslot _ _=>.inl hslot⟩

lemma Follows.trans (h:Follows r r') (h':Follows r' t):Follows r t:=by
 refine ⟨h.sent.trans h'.sent,fun tell hmade=>h'.stays tell (h.stays tell hmade),
  fun slot hslot tell htell=>?_⟩
 rcases h'.accepted slot hslot tell htell with hold|⟨hid,hnot,hmade⟩
 · exact (h.accepted slot hold tell htell).imp_right fun ⟨hid,hnot,hmade⟩=>
    ⟨hid,hnot,h'.stays tell hmade⟩
 · refine .inr ⟨h.sent.trans hid,?_,hmade⟩
   by_contra hearlier
   cases hnot.symm.trans (h.stays tell (by simpa using hearlier))

lemma follows_runs (h:(system config).Reachable r) (hruns:(system config).Runs r t):
  (system config).Reachable t ∧ Follows r t:=by
 induction hruns with
 | refl=>exact ⟨h,Nat.le_refl _,fun _ hmade=>hmade,fun _ hslot _ _=>.inl hslot⟩
 | tail _ hnext ih=>
  obtain ⟨event,hstep⟩:=hnext
  exact ⟨ih.1.next event hstep,ih.2.trans (follows_step (reachable_accounted ih.1) hstep)⟩

lemma reachable_made (h:(system config).Reachable r) (hslot:slot∈r.world.accepted)
  (htell:tellOf slot.message=some tell):made (r.tells tell)=true:=by
 obtain ⟨r₀,⟨context,hinit,rfl⟩,hruns⟩:=h
 obtain ⟨-,hfollows⟩:=follows_runs (.start ⟨context,hinit,rfl⟩) hruns
 rcases hfollows.accepted slot hslot tell htell with hold|⟨-,-,hmade⟩
 · cases hold
 · exact hmade

/-- The order of tells is kept: a message sent later does not overtake one sent before. -/
theorem tells_in_order (config:Config) {r t:Ref} {first second:ℕ}
  (hreachable:(system config).Reachable r) (hruns:(system config).Runs r t)
  (hfirst:made (r.tells first)=true) (hsecond:made (r.tells second)=false):
  ¬[second,first].Sublist (numbers (t.world.delivered ++
   (pending t.world.workers++t.world.mailbox.messages))):=by
 obtain ⟨hreached,hfollows⟩:=follows_runs hreachable hruns
 have hfifo:=reachable_fifo (world_reachable hreached)
 have hbelow:=(reachable_fifo (world_reachable hreachable)).below
 have hpairs:(numbers t.world.accepted).Pairwise fun n m=>¬(n=second ∧ m=first):=by
  refine List.pairwise_filterMap.mpr (hfifo.increasing.imp_of_mem ?_)
  rintro slot slot' hslot hslot' hlt _ htell _ htell' ⟨rfl,rfl⟩
  rcases hfollows.accepted slot' hslot' _ htell' with hold|⟨-,hnot,-⟩
  · rcases hfollows.accepted slot hslot _ htell with hearly|⟨hid,-,-⟩
    · cases hsecond.symm.trans (reachable_made hreachable hearly htell)
    · have hbelow':=hbelow slot' hold
      omega
  · cases hfirst.symm.trans hnot
 obtain ⟨tail,haccepted,htail,-⟩:=hfifo.order
 have hslots:(t.world.delivered++(pending t.world.workers++t.world.mailbox.messages)).Sublist
  t.world.accepted:=by
  rw [haccepted]
  exact (htail.append_left _).append_left _
 intro hsub
 simpa using hpairs.sublist (hsub.trans (hslots.filterMap _))

/-- Two tells in a row before the actor has started. -/
theorem tells_in_order_queued : ∃r:Ref,(system smallMailbox).Reachable r ∧
  numbers r.world.mailbox.messages=[0,1] ∧ ¬[1,0].Sublist (numbers (r.world.delivered ++
   (pending r.world.workers++r.world.mailbox.messages))):=by
 have attached:=(System.Reachable.start (M := system smallMailbox) ⟨_,rfl,rfl⟩).next .attach rfl
 have told:=((attached.next (.tell 0) ⟨rfl,rfl⟩).next (.check 0) ⟨rfl,rfl⟩).next (.send 0) ⟨rfl,rfl⟩
 have next:=((told.next (.tell 1) ⟨rfl,rfl⟩).next (.check 1) ⟨rfl,rfl⟩).next (.send 1) ⟨rfl,rfl⟩
 refine ⟨_,next,rfl,tells_in_order smallMailbox told ?_ rfl rfl⟩
 exact ((Relation.ReflTransGen.single ⟨.tell 1,rfl,rfl⟩).tail ⟨.check 1,rfl,rfl⟩).tail
  ⟨.send 1,rfl,rfl⟩

end

end Movie.DeadLetterAccounting
