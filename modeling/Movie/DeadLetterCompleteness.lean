import Movie.DeadLetterAccounting

/-!
# Dead letters are complete when nothing is cut off

Runs in which no send reaches a mailbox that has stopped accepting messages and no stop begins with
told messages in the batch: a message is then always somewhere.
-/
namespace Movie.DeadLetterAccounting

open Function Reachability Mailbox MailboxSchedule MailboxFifo ActorContext DeadLetters

def Keeps (r:Ref) (event:DeadLetters.Event) (r':Ref):Prop:=
 match event with
 | .send _=>r.world.mailbox.closed=false ∧ r.world.mailbox.acceptingUserMessages=true
 | .mailbox (.call _)=>r'.world.actor.Stopping → numbers (pending r'.world.workers)=[]
 | _=>True

variable {context context':LocalActorContext} {tell:ℕ}

section

variable {U:Type}

def BeginsStop (context:LocalActorContext) (after:LocalActorContext×Point):Prop:=
 ¬context.Stopping → after.1.Stopping → after.1.state=.stopping ∧ after.2=.stopping

variable {invocation invocation':Invocation U}

lemma beginsStop_of_state {after:LocalActorContext×Point}
  (h:after.1.state=context.state):BeginsStop context after:=by
 intro hrunning hstopping
 unfold LocalActorContext.Stopping at hrunning hstopping
 rw [h] at hstopping
 exact absurd hstopping hrunning

lemma beginsStop_of_running {after:LocalActorContext×Point}
  (state:ActorState) (hstate:after.1.state=state)
  (hrunning:state≠.stopping ∧ state≠.stopped):BeginsStop context after:=by
 subst hstate
 exact fun _ hstops=>absurd hstops (not_or.mpr hrunning)

lemma invokeSystem_beginsStop (context:LocalActorContext) (noChildren:Bool)
  (message:SystemMessage):BeginsStop context (context.invokeSystem noChildren message):=by
 by_cases hrunning:context.Stopping
 · exact fun hnot=>absurd hrunning hnot
 obtain ⟨hstopping,hstopped⟩:=not_or.mp hrunning
 unfold LocalActorContext.invokeSystem
 rw [if_neg hstopped]
 cases message with
 | stop | terminate=>
  dsimp only
  rw [if_neg hstopping]
  exact fun _ _=>⟨rfl,rfl⟩
 | preStart=>
  dsimp only
  split_ifs <;> exact beginsStop_of_state rfl
 | terminated=>
  dsimp only
  rw [if_neg fun h=>hstopping h.1]
  split_ifs <;> exact beginsStop_of_state rfl
 | restart=>
  dsimp only
  rw [if_neg hstopping]
  split_ifs <;> exact beginsStop_of_running .starting rfl (by decide)
 | failed | control | signal=>exact beginsStop_of_state rfl

lemma runCallback_beginsStop (context:LocalActorContext) (noChildren:Bool)
  (running:Callback) (effect:Effect):
  BeginsStop context (context.runCallback noChildren running effect):=by
 have hfail (point:Point):BeginsStop context (context.fail,point):=by
  unfold LocalActorContext.fail
  split_ifs
  · exact beginsStop_of_state rfl
  · exact beginsStop_of_running .failed rfl (by decide)
 cases effect with
 | suspendUserMessages | resumeUserMessages=>exact beginsStop_of_state rfl
 | returned stopped=>
  cases running with
  | receive=>
   cases stopped
   · exact beginsStop_of_state rfl
   · exact invokeSystem_beginsStop context noChildren .stop
  | signal=>cases stopped <;> exact beginsStop_of_state rfl
  | preStart | restart=>cases stopped <;> exact beginsStop_of_running .running rfl (by decide)
 | exception | baseException=>
  cases running with
  | restart=>exact beginsStop_of_running .failed rfl (by decide)
  | receive | preStart | signal=>exact hfail _

lemma call_beginsStop {call:Call (Message U)} (hsound:invocation.Sound context)
  (hcall:invocation.call context call context' invocation') (hrunning:¬context.Stopping)
  (hstopping:context'.Stopping):context'.state=.stopping ∧ invocation'.point=.stopping:=by
 unfold Invocation.call at hcall
 cases hpoint:invocation.point with
 | next=>
  simp only [hpoint] at hcall
  obtain ⟨slot,rest,-,hcall⟩:=hcall
  split_ifs at hcall
  · obtain ⟨-,noChildren,rfl,rfl⟩:=hcall
    exact invokeSystem_beginsStop context noChildren _ hrunning hstopping
  · obtain ⟨-,-,rfl,rfl⟩:=hcall
    exact absurd hstopping hrunning
 | callback running=>
  simp only [hpoint] at hcall
  obtain ⟨-,noChildren,effect,rfl,rfl⟩:=hcall
  exact runCallback_beginsStop context noChildren running effect hrunning hstopping
 | stopping | stopChildren | completing | closing=>
  obtain ⟨-,hat⟩:=hsound
  rw [hpoint] at hat
  exact absurd hat hrunning
 | invoked=>
  simp only [hpoint] at hcall
  obtain ⟨-,-,rfl,rfl⟩:=hcall
  exact absurd hstopping hrunning
 | failed=>
  simp only [hpoint] at hcall

lemma call_at_stopping {call:Call (Message U)} (hpoint:invocation.point=.stopping)
  (hcall:invocation.call context call context' invocation'):call=.stopUserMessages:=by
 unfold Invocation.call at hcall
 simp only [hpoint] at hcall
 exact hcall.1

lemma stopUserMessages_keeps_context
  (hcall:invocation.call context .stopUserMessages context' invocation'):
  context'=context:=by
 unfold Invocation.call at hcall
 cases hpoint:invocation.point with
 | stopping | completing=>
  simp only [hpoint] at hcall
  exact hcall.2.1
 | next=>
  simp only [hpoint] at hcall
  obtain ⟨slot,rest,-,hcall⟩:=hcall
  split_ifs at hcall
  · cases hcall.1
  · cases hcall.2.1
 | closing=>
  simp only [hpoint] at hcall
  rcases hcall with ⟨h,-⟩|⟨h,-⟩ <;> cases h
 | callback | stopChildren | invoked=>
  simp only [hpoint] at hcall
  cases hcall.1
 | failed=>simp only [hpoint] at hcall

lemma close_at_closing
  (hcall:invocation.call context .close context' invocation'):invocation.point=.closing:=by
 unfold Invocation.call at hcall
 cases hpoint:invocation.point with
 | closing=>rfl
 | next=>
  simp only [hpoint] at hcall
  obtain ⟨slot,rest,-,hcall⟩:=hcall
  split_ifs at hcall
  · cases hcall.1
  · cases hcall.2.1
 | callback | stopping | stopChildren | completing | invoked=>
  simp only [hpoint] at hcall
  cases hcall.1
 | failed=>simp only [hpoint] at hcall

end

section

variable {config:Config} {r r':Ref}

/-- A stopping actor is about to tell its mailbox, or its mailbox holds no told message and
 takes none. -/
def Drained (s:Box):Prop:=
 (s.actor.state=.stopping ∧ ∃batch invocation system,
  .invoking batch invocation system∈s.workers ∧ invocation.point=.stopping) ∨
 (numbers s.mailbox.messages=[] ∧ s.mailbox.acceptingUserMessages=false)

structure Complete (r:Ref):Prop where
 batch:r.world.actor.Stopping → numbers (pending r.world.workers)=[]
 drained:r.world.actor.Stopping → Drained r.world
 published:r.publishing=[] ∨ r.world.actor.state=.stopping
 counted:∀tell,r.tells tell=.enqueuing ∨ r.tells tell=.returned → 1≤occurs tell r

lemma eq_nil_of_count {list:List ℕ} (h:∀tell,list.count tell=0):list=[]:=
 List.eq_nil_iff_forall_not_mem.mpr fun tell=>List.count_eq_zero.mp (h tell)

lemma advances_accepting {s:Box} {worker:Worker (Invocation (Option ℕ)) Payload}
  {result:Advance (Invocation (Option ℕ)) Payload}
  (h:Advances config (localActor (Option ℕ)) s.actor s.mailbox worker result):
  result.mailbox.acceptingUserMessages=s.mailbox.acceptingUserMessages:=by
 cases h with
 | restore batch remaining system | restoreFailed batch remaining system=>
  unfold DefaultMailbox.restoreBatch
  cases system <;> dsimp only <;> split_ifs <;> rfl
 | _=>rfl

lemma advances_stopping {s:Box} {worker:Worker (Invocation (Option ℕ)) Payload}
  {result:Advance (Invocation (Option ℕ)) Payload} (hstopping:s.actor.Stopping)
  (h:Advances config (localActor (Option ℕ)) s.actor s.mailbox worker result):
  pending result.worker.toList=[]:=by
 cases h with
 | takeUser hwork hsystem=>
  exact absurd hstopping (not_stopping_of_canProcess (canProcess_of_work hwork hsystem))
 | _=>rfl

lemma invoking_unique {s:Box} (hscheduled:Scheduled s)
  {before after:List (Worker (Invocation (Option ℕ)) Payload)}
  {batch batch':List (Slot Payload)} {invocation invocation':Invocation (Option ℕ)}
  {system system':Bool} (hmem:s.workers=before ++ .invoking batch invocation system::after)
  (hworker:.invoking batch' invocation' system'∈s.workers):invocation'=invocation:=by
 have hothers:=others_arriving hscheduled hmem rfl
 rw [hmem] at hworker
 simp only [List.mem_append,List.mem_cons] at hworker hothers
 rcases hworker with hbefore|heq|hafter
 · cases hothers _ (.inl hbefore)
 · cases heq
   rfl
 · cases hothers _ (.inr hafter)

section

variable {event:Mailbox.Event (Invocation (Option ℕ)) Payload} {t:Box}

lemma Complete.batch_step (h:Complete r) (hfifo:Fifo config r.world)
  (hcalls:∀call,event=.call call → t.actor.Stopping → numbers (pending t.workers)=[])
  (hstep:(boxSystem config).step r.world event t):
  t.actor.Stopping → numbers (pending t.workers)=[]:=by
 have hempty (hstopping:r.world.actor.Stopping) (tell:ℕ):
  (numbers (pending r.world.workers)).count tell=0:=by
  rw [h.batch hstopping,List.count_nil]
 cases event with
 | enqueue sending message=>
  cases hstep
  rcases r.world.enqueue_cases config (localActor (Option ℕ)) sending message with
   ⟨refused,-,heq⟩|⟨-,-,heq⟩|⟨-,-,heq⟩ <;> rw [heq] <;> exact h.batch
 | dispatch enqueuer outcome=>
  obtain ⟨before,after,-,-,rfl⟩:=hstep
  split_ifs <;> exact h.batch
 | rollback enqueuer=>
  obtain ⟨before,after,-,-,rfl⟩:=hstep
  exact h.batch
 | publish enqueuer=>
  obtain ⟨before,after,_,-,-,rfl⟩:=hstep
  exact h.batch
 | dequeue=>
  obtain ⟨activations,-,rfl⟩:=hstep
  exact h.batch
 | work worker outcome=>
  obtain ⟨before,after,result,hmem,hadvance,rfl⟩:=hstep
  intro hstopping
  refine eq_nil_of_count fun tell=>?_
  have hzero:=hempty hstopping tell
  rw [hmem,count_pending_cons] at hzero
  dsimp only
  have hnone:=advances_stopping (s := r.world) hstopping (Worker.advance_cases hadvance)
  rw [count_pending,hnone,numbers_nil,List.count_nil]
  omega
 | call call=>exact hcalls call rfl
 | finish result=>
  obtain ⟨before,after,batch,invocation,system,hmem,hfinish,rfl⟩:=hstep
  obtain ⟨-,hsystem,-⟩:=
   hfifo.workers (.invoking batch invocation system) (by rw [hmem]; simp)
  intro hstopping
  refine eq_nil_of_count fun tell=>?_
  have hzero:=hempty hstopping tell
  have hle:=(copies_finish hfifo.started hmem hsystem hfinish tell).1
  simp only [copies] at hle
  dsimp only
  omega

lemma Complete.drained_step (h:Complete r) (hfifo:Fifo config r.world)
  (hscheduled:Scheduled r.world) (hallows:r.Allows event)
  (hstep:(boxSystem config).step r.world event t) (hstopping:t.actor.Stopping):Drained t:=by
 cases event with
 | enqueue sending message=>
  cases hstep
  rcases r.world.enqueue_cases config (localActor (Option ℕ)) sending message with
   ⟨refused,-,heq⟩|⟨-,-,heq⟩|⟨-,-,heq⟩ <;> rw [heq] at hstopping ⊢
  · exact h.drained hstopping
  all_goals
   refine (h.drained hstopping).imp_right fun ⟨hempty,haccepting⟩=>⟨?_,?_⟩
   · refine eq_nil_of_count fun tell=>?_
     have hcount:=count_append r.world.mailbox sending.userMessage ⟨r.world.sent,message⟩ tell
     rw [hempty,show tellOf message=none from hallows] at hcount
     simpa using hcount
   · cases sending <;> exact haccepting
 | dispatch enqueuer outcome=>
  obtain ⟨before,after,-,-,rfl⟩:=hstep
  split_ifs at hstopping ⊢ <;> exact h.drained hstopping
 | rollback enqueuer=>
  obtain ⟨before,after,hmem,hpoint,rfl⟩:=hstep
  have hqueued:=hscheduled.queued enqueuer (by rw [hmem]; simp) (.inr hpoint)
  rw [World.rollback_of_queued _ hqueued] at hstopping ⊢
  refine (h.drained hstopping).imp_right fun ⟨hempty,haccepting⟩=>?_
  change numbers (takenBack r.world.mailbox _ _).messages=[] ∧
   (takenBack r.world.mailbox _ _).acceptingUserMessages=false
  cases enqueuer.sending.userMessage with
  | false=>exact ⟨hempty,haccepting⟩
  | true=>
   refine ⟨List.eq_nil_of_subset_nil fun tell htell=>?_,haccepting⟩
   rw [←hempty]
   exact (List.eraseP_sublist.filterMap _).subset htell
 | publish enqueuer=>
  obtain ⟨before,after,_,-,-,rfl⟩:=hstep
  exact h.drained hstopping
 | dequeue=>
  obtain ⟨activations,-,rfl⟩:=hstep
  exact (h.drained hstopping).imp_left
   fun ⟨hstate,batch,invocation,system,hworker,hpoint⟩=>
    ⟨hstate,batch,invocation,system,List.mem_cons_of_mem _ hworker,hpoint⟩
 | work worker outcome=>
  obtain ⟨before,after,result,hmem,hadvance,rfl⟩:=hstep
  have hadvance':=Worker.advance_cases hadvance
  rcases h.drained hstopping with ⟨hstate,batch,invocation,system,hworker,hpoint⟩ |
   ⟨hempty,haccepting⟩
  · -- the worker that stops the actor is not the one that moves
    refine .inl ⟨hstate,batch,invocation,system,?_,hpoint⟩
    rw [hmem] at hworker
    simp only [List.mem_append,List.mem_cons] at hworker ⊢
    rcases hworker with hbefore|rfl|hafter
    · exact .inl hbefore
    · cases hadvance
    · exact .inr (.inr hafter)
  · refine .inr ⟨eq_nil_of_count fun tell=>?_,?_⟩
    · have hcount:=advances_count (s := r.world) hadvance' tell
      have hbatch:(numbers (pending r.world.workers)).count tell=0:=by
       rw [h.batch hstopping,List.count_nil]
      rw [hmem,count_pending_cons] at hbatch
      rw [hempty,List.count_nil] at hcount
      dsimp only
      omega
    · exact (advances_accepting (s := r.world) hadvance').trans haccepting
 | call call=>
  obtain ⟨before,after,batch,invocation,system,state,invocation',hmem,hcall,rfl⟩:=
   hstep
  obtain ⟨hsound,hsystem,-⟩:=
   hfifo.workers (.invoking batch invocation system) (by rw [hmem]; simp)
  by_cases hbefore:r.world.actor.Stopping
  · cases call with
    | stopUserMessages | close=>exact .inr ⟨rfl,rfl⟩
    | internal | deliver=>
     rcases h.drained hbefore with ⟨hstate,_,other,_,hworker,hpoint⟩|hempty
     · rw [invoking_unique hscheduled hmem hworker] at hpoint
       cases call_at_stopping hpoint hcall
     · exact .inr hempty
  · obtain ⟨hstate,hpoint⟩:=call_beginsStop hsound hcall hbefore hstopping
    exact .inl ⟨hstate,batch,invocation',system,by simp,hpoint⟩
 | finish result=>
  obtain ⟨before,after,batch,invocation,system,hmem,hfinish,rfl⟩:=hstep
  rcases h.drained hstopping with ⟨hstate,_,other,_,hworker,hpoint⟩|hempty
  · rw [invoking_unique hscheduled hmem hworker] at hpoint
    change invocation.finish _ _ at hfinish
    unfold Invocation.finish at hfinish
    simp only [hpoint] at hfinish
  · exact .inr hempty

lemma Complete.published_step (h:Complete r) (hfifo:Fifo config r.world) (hallows:r.Allows event)
  (hstep:(boxSystem config).step r.world event t):
  r.publishing++r.taken event=[] ∨ t.actor.state=.stopping:=by
 cases event with
 | enqueue sending message=>
  cases hstep
  rcases r.world.enqueue_cases config (localActor (Option ℕ)) sending message with
   ⟨refused,-,heq⟩|⟨-,-,heq⟩|⟨-,-,heq⟩ <;> rw [heq] <;>
   simpa [Ref.taken] using h.published
 | dispatch enqueuer outcome=>
  obtain ⟨before,after,-,-,rfl⟩:=hstep
  split_ifs <;> simpa [Ref.taken] using h.published
 | rollback enqueuer=>
  obtain ⟨before,after,-,-,rfl⟩:=hstep
  simpa [Ref.taken,World.rollback] using h.published
 | publish enqueuer=>
  obtain ⟨before,after,_,-,-,rfl⟩:=hstep
  simpa [Ref.taken] using h.published
 | dequeue=>
  obtain ⟨activations,-,rfl⟩:=hstep
  simpa [Ref.taken] using h.published
 | work worker outcome=>
  obtain ⟨before,after,result,-,-,rfl⟩:=hstep
  simpa [Ref.taken] using h.published
 | finish result=>
  obtain ⟨before,after,batch,invocation,system,-,-,rfl⟩:=hstep
  simpa [Ref.taken] using h.published
 | call call=>
  obtain ⟨before,after,batch,invocation,system,state,invocation',hmem,hcall,rfl⟩:=
   hstep
  cases call with
  | internal | deliver=>exact .inl (by simpa [Ref.taken,Ref.Allows] using hallows)
  | close=>exact .inl (by simpa [Ref.taken] using hallows.2)
  | stopUserMessages=>
   obtain ⟨hsound,-,-⟩:=
    hfifo.workers (.invoking batch invocation system) (by rw [hmem]; simp)
   have hkept:=stopUserMessages_keeps_context hcall
   have hstopping:=(hsound.call hcall).stops (.inl rfl)
   rw [hkept] at hstopping
   rcases h.drained hstopping with ⟨hstate,-⟩|⟨hempty,-⟩
   · refine .inr ?_
     dsimp only
     rw [hkept]
     exact hstate
   · exact .inl (by simp [Ref.taken,hallows.2,hempty])

lemma settle_kept (haccounted:Accounted r) (hstep:(boxSystem config).step r.world event t)
  (hsettled:Ref.settle r.tells event tell=.enqueuing ∨
   Ref.settle r.tells event tell=.returned):
  (r.tells tell=.enqueuing ∨ r.tells tell=.returned) ∧ (rolledBack event).count tell=0:=by
 cases event with
 | dispatch enqueuer outcome=>
  obtain ⟨before,after,hmem,hpoint,-⟩:=hstep
  refine ⟨?_,rfl⟩
  cases outcome with
  | runtimeError | otherError=>exact hsettled
  | published=>
   cases htold:tellOf enqueuer.slot.message with
   | none=>
    simp only [Ref.settle,htold] at hsettled
    exact hsettled
   | some told=>
    simp only [Ref.settle,htold] at hsettled
    by_cases hsame:tell=told
    · have howned:=haccounted.owned enqueuer (by rw [hmem]; simp) (.inl hpoint) told htold
      rw [hsame]
      exact .inl howned.2
    · rw [update_of_ne hsame] at hsettled
      exact hsettled
 | rollback enqueuer=>
  cases htold:tellOf enqueuer.slot.message with
  | none=>
   simp only [Ref.settle,htold] at hsettled
   exact ⟨hsettled,by simp [rolledBack,htold]⟩
  | some told=>
   simp only [Ref.settle,htold] at hsettled
   by_cases hsame:tell=told
   · rw [hsame,update_self] at hsettled
     rcases hsettled with h|h <;> cases h
   · rw [update_of_ne hsame] at hsettled
     refine ⟨hsettled,?_⟩
     rw [rolledBack,htold]
     exact count_singleton_of_ne hsame
 | enqueue | publish | dequeue | work | call | finish=>exact ⟨hsettled,rfl⟩

lemma Complete.close_drained (h:Complete r) (hfifo:Fifo config r.world)
  (hscheduled:Scheduled r.world) (hstep:(boxSystem config).step r.world (.call .close) t):
  numbers r.world.mailbox.messages=[]:=by
 obtain ⟨before,after,batch,invocation,system,state,invocation',hmem,hcall,rfl⟩:=hstep
 have hclosing:=close_at_closing hcall
 obtain ⟨⟨-,hat⟩,-,-⟩:=
  hfifo.workers (.invoking batch invocation system) (by rw [hmem]; simp)
 rw [hclosing] at hat
 rcases h.drained hat with ⟨-,_,other,_,hworker,hpoint⟩|⟨hempty,-⟩
 · rw [invoking_unique hscheduled hmem hworker,hclosing] at hpoint
   cases hpoint
 · exact hempty

lemma Complete.mailbox (h:Complete r) (haccounted:Accounted r) (hfifo:Fifo config r.world)
  (hscheduled:Scheduled r.world) (hallows:r.Allows event)
  (hcalls:∀call,event=.call call → t.actor.Stopping → numbers (pending t.workers)=[])
  (hstep:(boxSystem config).step r.world event t):Complete { r with
   world:=t
   tells:=Ref.settle r.tells event
   publishing:=r.publishing++r.taken event }:=by
 refine ⟨h.batch_step hfifo hcalls hstep,h.drained_step hfifo hscheduled hallows hstep,
  h.published_step hfifo hallows hstep,fun tell hsettled=>?_⟩
 obtain ⟨hbefore,hkept⟩:=settle_kept haccounted hstep hsettled
 have hsome:=h.counted tell hbefore
 have hcopies:=(haccounted.copies_step hfifo hscheduled hallows hstep tell).2 h.batch
  fun hclose=>by
   subst hclose
   exact h.close_drained hfifo hscheduled hstep
 simp only [occurs,List.count_append] at hsome ⊢
 omega

end

section

variable (h:Complete r) {state:Tell} (htells:r'.tells=update r.tells tell state)
 (hactor:r'.world.actor=r.world.actor) (hworkers:r'.world.workers=r.world.workers)
 (hmessages:r.world.mailbox.acceptingUserMessages=false → r'.world.mailbox=r.world.mailbox)
 (hpublishing:r'.publishing=r.publishing)
include h htells hactor hworkers hmessages hpublishing

lemma Complete.tell_step (hoccurs:∀n,occurs n r≤occurs n r')
  (hself:state=.enqueuing ∨ state=.returned → 1≤occurs tell r'):Complete r':=by
 refine ⟨?_,?_,?_,fun other hother=>?_⟩
 · rw [hactor,hworkers]
   exact h.batch
 · intro hstopping
   rw [hactor] at hstopping
   unfold Drained
   rw [hactor,hworkers]
   refine (h.drained hstopping).imp_right fun hempty=>?_
   rw [hmessages hempty.2]
   exact hempty
 · rw [hactor,hpublishing]
   exact h.published
 · rw [htells] at hother
   by_cases hsame:other=tell
   · rw [hsame,update_self] at hother
     rw [hsame]
     exact hself hother
   · rw [update_of_ne hsame] at hother
     exact (h.counted other hother).trans (hoccurs other)

lemma Complete.one_more (hone:∀n,occurs n r'=occurs n r+[tell].count n):Complete r':=by
 refine h.tell_step htells hactor hworkers hmessages hpublishing (fun n=>?_) fun _=>?_
 · rw [hone]
   exact Nat.le_add_right _ _
 · rw [hone,List.count_singleton_self]
   exact Nat.le_add_left 1 _

end

lemma Complete.sends (h:Complete r)
  (hopen:r.world.mailbox.closed=false ∧ r.world.mailbox.acceptingUserMessages=true)
  (hsends:Sends r tell r'):Complete r':=by
 have hmessages (box:DefaultMailbox Payload)
  (hrefuses:r.world.mailbox.acceptingUserMessages=false):box=r.world.mailbox:=by
  rw [hopen.2] at hrefuses
  cases hrefuses
 cases hsends with
 | lost hclosed=>
  rw [hopen.1,hopen.2] at hclosed
  rcases hclosed with hclosed|hclosed <;> cases hclosed
 | full refused=>
  exact h.tell_step rfl rfl rfl (hmessages _) rfl (fun _=>Nat.le_refl _)
   (by rintro (hstate | hstate) <;> cases hstate)
 | queued hopen accepted | dispatching hopen accepted=>
  refine h.one_more rfl rfl rfl (hmessages _) rfl ?_
  exact occurs_queued (by rfl) rfl rfl rfl rfl rfl

lemma reachable_complete (h:((system config).restrictSteps Keeps).Reachable r):
  Complete r:=by
 refine h.invariant (I := Complete) ?_ ?_
 · rintro _ ⟨context,hinit,rfl⟩
   cases hinit
   refine ⟨fun _=>rfl,?_,.inl rfl,fun tell=>?_⟩ <;>
    rintro (hstate|hstate) <;> cases hstate
 · intro r event r' hreachable hcomplete hstep
   obtain ⟨hkeeps,hstep⟩:=hstep
   have haccounted:=reachable_accounted hreachable.of_restrictSteps
   have hworld:=world_reachable hreachable.of_restrictSteps
   cases event with
   | attach=>
    cases hstep
    exact ⟨hcomplete.batch,hcomplete.drained,hcomplete.published,hcomplete.counted⟩
   | tell tell=>
    obtain ⟨-,rfl⟩:=hstep
    exact hcomplete.tell_step rfl rfl rfl (fun _=>rfl) rfl (fun _=>Nat.le_refl _)
     (by rintro (hstate | hstate) <;> cases hstate)
   | check tell=>
    obtain ⟨-,rfl⟩:=hstep
    refine hcomplete.tell_step rfl rfl rfl (fun _=>rfl) rfl (fun _=>Nat.le_refl _) ?_
    unfold Ref.check
    split_ifs <;> rintro (hstate | hstate) <;> cases hstate
   | send tell=>
    obtain ⟨-,rfl⟩:=hstep
    exact hcomplete.sends hkeeps (sends_send r tell)
   | refuse tell | overflow tell=>
    obtain ⟨-,rfl⟩:=hstep
    exact hcomplete.one_more rfl rfl rfl (fun _=>rfl) rfl occurs_published
   | stopCell | closeCell=>
    obtain ⟨-,rfl⟩:=hstep
    exact ⟨hcomplete.batch,hcomplete.drained,hcomplete.published,hcomplete.counted⟩
   | publish=>
    obtain ⟨tell,rest,hpublishing,rfl⟩:=hstep
    refine ⟨hcomplete.batch,hcomplete.drained,?_,fun n hn=>?_⟩
    · rcases hcomplete.published with hnone|hstate
      · rw [hpublishing] at hnone
        cases hnone
      · exact .inr hstate
    · have hsome:=hcomplete.counted n hn
      simp only [occurs,hpublishing,List.count_append,List.count_cons,List.count_nil]
       at hsome ⊢
      omega
   | mailbox event=>
    obtain ⟨hallows,world,hstep,rfl⟩:=hstep
    refine hcomplete.mailbox haccounted (reachable_fifo hworld) (reachable_scheduled hworld)
     hallows (fun call hcall=>?_) hstep
    subst hcall
    exact hkeeps

/-- No told message is received or published twice. When no send comes after the mailbox stopped
 accepting messages and no stop begins within a batch, each is once the actor is stopped. -/
theorem told_accounted_once (config:Config) (r:Ref):
  ((system config).Reachable r → ∀tell,
   (numbers r.world.delivered).count tell+r.deadLetters.count tell≤1) ∧
  (((system config).restrictSteps Keeps).Reachable r → r.world.actor.state=.stopped →
   ∀tell,r.tells tell=.returned →
    (numbers r.world.delivered).count tell+r.deadLetters.count tell=1):=by
 have honce (h:(system config).Reachable r) (tell:ℕ):occurs tell r≤1:=
  ((reachable_accounted h).once tell).trans (Bool.toNat_le _)
 refine ⟨fun h tell=>?_,fun h hstopped tell hreturned=>?_⟩
 · have hle:=honce h tell
   simp only [occurs,copies] at hle
   omega
 · have hcomplete:=reachable_complete h
   have hpublishing:r.publishing=[]:=by
    refine hcomplete.published.resolve_right fun hstopping=>?_
    rw [hstopped] at hstopping
    cases hstopping
   have hmessages:numbers r.world.mailbox.messages=[]:=by
    rcases hcomplete.drained (.inr hstopped) with ⟨hstopping,-⟩|⟨hempty,-⟩
    · rw [hstopped] at hstopping
      cases hstopping
    · exact hempty
   have hsome:=hcomplete.counted tell (.inr hreturned)
   have hle:=honce h.of_restrictSteps tell
   simp only [occurs,copies,hcomplete.batch (.inr hstopped),hpublishing,hmessages,
    List.count_nil] at hsome hle
   omega

end

lemma pairs_capacity : 0<10:=by decide

lemma pairs_throughput : 0<2:=by decide

def pairs : Config:=⟨10,2,pairs_capacity,pairs_throughput⟩

def Over (r:Ref):Prop:=
 r.world.actor.state=.stopped ∧ r.world.mailbox.closed=true ∧
  pending r.world.workers=[] ∧ r.publishing=[]

/-- Both ways to lose a message: a send after `stop_user_messages`, and a stop by the first of
 two messages that were taken out together. -/
theorem told_message_lost :
  (∃r,(system pairs).Reachable r ∧ Over r ∧ r.tells 0=.returned ∧
   r.world.delivered=[] ∧ r.deadLetters=[]) ∧
  (∃r,(system pairs).Reachable r ∧ Over r ∧ r.tells 1=.returned ∧
   numbers r.world.delivered=[0] ∧ r.deadLetters=[]):=by
 have attached:=(System.Reachable.start (M := system pairs) ⟨_,rfl,rfl⟩).next .attach rfl
 have told:=(attached.next (.tell 0) ⟨rfl,rfl⟩).next (.check 0) ⟨rfl,rfl⟩
 refine ⟨?_,?_⟩
 · have scheduled:=told.next (.mailbox (.enqueue .sendSystem (.system .stop)))
    ⟨rfl,_,rfl,rfl⟩
   have dispatched:=scheduled.next (.mailbox (.dispatch _ .published))
    ⟨trivial,_,⟨[],[],rfl,rfl,rfl⟩,rfl⟩
   have arrived:=dispatched.next (.mailbox .dequeue) ⟨trivial,_,⟨0,rfl,rfl⟩,rfl⟩
   have running:=arrived.next (.mailbox (.work .arriving .published))
    ⟨trivial,_,⟨[],[],_,rfl,rfl,rfl⟩,rfl⟩
   have invoking:=running.next (.mailbox (.work .taking .published))
    ⟨trivial,_,⟨[],[],_,rfl,rfl,rfl⟩,rfl⟩
   have stopping:=invoking.next (.mailbox (.call .internal))
    ⟨rfl,_,⟨[],[],_,_,_,_,_,rfl,⟨_,_,rfl,rfl,true,rfl,rfl⟩,rfl⟩,rfl⟩
   have refusing:=stopping.next .stopCell ⟨.inl ⟨_,_,_,.head _,rfl⟩,rfl⟩
   have emptied:=refusing.next (.mailbox (.call .stopUserMessages))
    ⟨⟨rfl,rfl⟩,_,⟨[],[],_,_,_,_,_,rfl,⟨rfl,rfl,rfl⟩,rfl⟩,rfl⟩
   have sent:=emptied.next (.send 0) ⟨rfl,rfl⟩
   have stopped:=sent.next (.mailbox (.call .internal))
    ⟨rfl,_,⟨[],[],_,_,_,_,_,rfl,⟨rfl,true,rfl,rfl⟩,rfl⟩,rfl⟩
   have completed:=stopped.next (.mailbox (.call .stopUserMessages))
    ⟨⟨rfl,rfl⟩,_,⟨[],[],_,_,_,_,_,rfl,⟨rfl,rfl,rfl⟩,rfl⟩,rfl⟩
   have closing:=completed.next .closeCell ⟨⟨_,_,_,.head _,rfl⟩,rfl⟩
   have closed:=closing.next (.mailbox (.call .close))
    ⟨⟨rfl,rfl⟩,_,⟨[],[],_,_,_,_,_,rfl,.inr ⟨rfl,false,rfl,rfl⟩,rfl⟩,rfl⟩
   exact ⟨_,closed,⟨rfl,rfl,rfl,rfl⟩,rfl,rfl,rfl⟩
 · have both:=((told.next (.send 0) ⟨rfl,rfl⟩).next (.tell 1) ⟨rfl,rfl⟩).next (.check 1)
    ⟨rfl,rfl⟩
   have queued:=both.next (.send 1) ⟨rfl,rfl⟩
   have scheduled:=queued.next (.mailbox (.enqueue .sendSystem (.system .preStart)))
    ⟨rfl,_,rfl,rfl⟩
   have dispatched:=scheduled.next (.mailbox (.dispatch _ .published))
    ⟨trivial,_,⟨[],[],rfl,rfl,rfl⟩,rfl⟩
   have arrived:=dispatched.next (.mailbox .dequeue) ⟨trivial,_,⟨0,rfl,rfl⟩,rfl⟩
   have running:=arrived.next (.mailbox (.work .arriving .published))
    ⟨trivial,_,⟨[],[],_,rfl,rfl,rfl⟩,rfl⟩
   have invoking:=running.next (.mailbox (.work .taking .published))
    ⟨trivial,_,⟨[],[],_,rfl,rfl,rfl⟩,rfl⟩
   have starting:=invoking.next (.mailbox (.call .internal))
    ⟨rfl,_,⟨[],[],_,_,_,_,_,rfl,⟨_,_,rfl,rfl,true,rfl,rfl⟩,rfl⟩,rfl⟩
   have started:=starting.next (.mailbox (.call .internal))
    ⟨rfl,_,⟨[],[],_,_,_,_,_,rfl,⟨rfl,true,.returned false,rfl,rfl⟩,rfl⟩,rfl⟩
   have ended:=started.next (.mailbox (.call .internal))
    ⟨rfl,_,⟨[],[],_,_,_,_,_,rfl,⟨rfl,.inl rfl,rfl,rfl⟩,rfl⟩,rfl⟩
   have finished:=ended.next (.mailbox (.finish (.returned [])))
    ⟨rfl,_,⟨[],[],_,_,_,rfl,.inl ⟨rfl,rfl⟩,rfl⟩,rfl⟩
   have restored:=finished.next (.mailbox (.work _ .published))
    ⟨trivial,_,⟨[],[],_,rfl,rfl,rfl⟩,rfl⟩
   have checked:=restored.next (.mailbox (.work .checking .published))
    ⟨trivial,_,⟨[],[],_,rfl,rfl,rfl⟩,rfl⟩
   have again:=checked.next (.mailbox (.work .handingOff .runtimeError))
    ⟨trivial,_,⟨[],[],_,rfl,rfl,rfl⟩,rfl⟩
   have taken:=again.next (.mailbox (.work .taking .published))
    ⟨trivial,_,⟨[],[],_,rfl,rfl,rfl⟩,rfl⟩
   have received:=taken.next (.mailbox (.call (.deliver _)))
    ⟨rfl,_,⟨[],[],_,_,_,_,_,rfl,⟨_,_,rfl,rfl,rfl,rfl,rfl⟩,rfl⟩,rfl⟩
   have stopping:=received.next (.mailbox (.call .internal))
    ⟨rfl,_,⟨[],[],_,_,_,_,_,rfl,⟨rfl,true,.returned true,rfl,rfl⟩,rfl⟩,rfl⟩
   have refusing:=stopping.next .stopCell ⟨.inl ⟨_,_,_,.head _,rfl⟩,rfl⟩
   have emptied:=refusing.next (.mailbox (.call .stopUserMessages))
    ⟨⟨rfl,rfl⟩,_,⟨[],[],_,_,_,_,_,rfl,⟨rfl,rfl,rfl⟩,rfl⟩,rfl⟩
   have stopped:=emptied.next (.mailbox (.call .internal))
    ⟨rfl,_,⟨[],[],_,_,_,_,_,rfl,⟨rfl,true,rfl,rfl⟩,rfl⟩,rfl⟩
   have completed:=stopped.next (.mailbox (.call .stopUserMessages))
    ⟨⟨rfl,rfl⟩,_,⟨[],[],_,_,_,_,_,rfl,⟨rfl,rfl,rfl⟩,rfl⟩,rfl⟩
   have closing:=completed.next .closeCell ⟨⟨_,_,_,.head _,rfl⟩,rfl⟩
   have closed:=closing.next (.mailbox (.call .close))
    ⟨⟨rfl,rfl⟩,_,⟨[],[],_,_,_,_,_,rfl,.inr ⟨rfl,false,rfl,rfl⟩,rfl⟩,rfl⟩
   have settled:=closed.next (.mailbox (.finish (.returned [])))
    ⟨rfl,_,⟨[],[],_,_,_,rfl,⟨rfl,rfl,rfl⟩,rfl⟩,rfl⟩
   exact ⟨_,settled,⟨rfl,rfl,rfl,rfl⟩,rfl,rfl,rfl⟩

theorem told_accounted_once_stopped : ∃r,
  ((system pairs).restrictSteps Keeps).Reachable r ∧ r.world.actor.state=.stopped ∧
  ∀tell,tell=0 ∨ tell=1 →
   (numbers r.world.delivered).count tell+r.deadLetters.count tell=1:=by
 have attached:=(System.Reachable.start (M := (system pairs).restrictSteps Keeps)
  ⟨_,rfl,rfl⟩).next .attach ⟨trivial,rfl⟩
 have told:=(attached.next (.tell 0) ⟨trivial,rfl,rfl⟩).next (.check 0) ⟨trivial,rfl,rfl⟩
 have sent:=told.next (.send 0) ⟨⟨rfl,rfl⟩,rfl,rfl⟩
 have scheduled:=sent.next (.mailbox (.enqueue .sendSystem (.system .stop)))
  ⟨trivial,rfl,_,rfl,rfl⟩
 have dispatched:=scheduled.next (.mailbox (.dispatch _ .published))
  ⟨trivial,trivial,_,⟨[],[],rfl,rfl,rfl⟩,rfl⟩
 have arrived:=dispatched.next (.mailbox .dequeue) ⟨trivial,trivial,_,⟨0,rfl,rfl⟩,rfl⟩
 have running:=arrived.next (.mailbox (.work .arriving .published))
  ⟨trivial,trivial,_,⟨[],[],_,rfl,rfl,rfl⟩,rfl⟩
 have invoking:=running.next (.mailbox (.work .taking .published))
  ⟨trivial,trivial,_,⟨[],[],_,rfl,rfl,rfl⟩,rfl⟩
 have stopping:=invoking.next (.mailbox (.call .internal))
  ⟨fun _=>rfl,rfl,_,
   ⟨[],[],_,_,_,_,_,rfl,⟨_,_,rfl,rfl,true,rfl,rfl⟩,rfl⟩,rfl⟩
 have refusing:=stopping.next .stopCell ⟨trivial,.inl ⟨_,_,_,.head _,rfl⟩,rfl⟩
 have emptied:=refusing.next (.mailbox (.call .stopUserMessages))
  ⟨fun _=>rfl,⟨rfl,rfl⟩,_,
   ⟨[],[],_,_,_,_,_,rfl,⟨rfl,rfl,rfl⟩,rfl⟩,rfl⟩
 have late:=(emptied.next (.tell 1) ⟨trivial,rfl,rfl⟩).next (.check 1) ⟨trivial,rfl,rfl⟩
 have refused:=late.next (.refuse 1) ⟨trivial,rfl,rfl⟩
 have published:=refused.next .publish ⟨trivial,_,_,rfl,rfl⟩
 have stopped:=published.next (.mailbox (.call .internal))
  ⟨fun _=>rfl,rfl,_,⟨[],[],_,_,_,_,_,rfl,⟨rfl,true,rfl,rfl⟩,rfl⟩,rfl⟩
 refine ⟨_,stopped,rfl,fun tell htell=>?_⟩
 refine (told_accounted_once pairs _).2 stopped rfl tell ?_
 rcases htell with rfl|rfl <;> rfl

end Movie.DeadLetterAccounting
