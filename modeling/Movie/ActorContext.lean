import Movie.Mailbox

/-!
# The local actor context

`LocalActorContext` of `actor/impl/context.py` behind a mailbox: its lifecycle state and the program
points of `invoke_batch`. The behaviour's own code is up to the environment.
-/
namespace Movie.ActorContext

open Mailbox

inductive ActorState where
 | new
 | starting
 | running
 | stopping
 | stopped
 | failed
 deriving DecidableEq

inductive SystemMessage where
 | preStart
 | stop
 | terminate
 | terminated
 | restart
 | failed
 | control
 | signal
 deriving DecidableEq

inductive Message (U:Type) where
 | user (message:U)
 | system (message:SystemMessage)

def Message.asSystem {U:Type}:Message U → SystemMessage
 | .user _=>.signal
 | .system message=>message

structure LocalActorContext where
 state:ActorState
 userMessagesSuspended:Bool
 restartPending:Bool
 deriving DecidableEq

inductive Callback where
 | receive
 | preStart
 | restart
 | signal
 deriving DecidableEq

/-- What a callback does next. `returned` tells whether it returned `Behaviors.stopped`. -/
inductive Effect where
 | suspendUserMessages
 | resumeUserMessages
 | returned (stopped:Bool)
 | exception
 | baseException
 deriving DecidableEq

/-- Program points of `invoke_batch`. -/
inductive Point where
 | next
 | callback (running:Callback)
 | stopping
 | stopChildren
 | completing
 | closing
 | failed
 | invoked
 deriving DecidableEq

structure Invocation (U:Type) where
 rest:List (Slot (Message U))
 system:Bool
 point:Point

namespace LocalActorContext

def canProcessUserMessages (context:LocalActorContext):Bool:=
 decide (context.state=.running) && !context.userMessagesSuspended

def fail (context:LocalActorContext):LocalActorContext:=
 if context.state=.stopping ∨ context.state=.stopped then context
 else { context with state:=.failed }

/-- `_complete_stop` up to its first call of the mailbox. -/
def completeStop (context:LocalActorContext):LocalActorContext×Point:=
 if context.state=.stopped then (context,.invoked)
 else ({ context with state:=.stopped },.completing)

/-- `_complete_restart` up to the behaviour's code. -/
def completeRestart (context:LocalActorContext):LocalActorContext×Point:=
 ({ context with userMessagesSuspended:=false },.callback .restart)

def finishStart (context:LocalActorContext):LocalActorContext:=
 { context with state:=.running,restartPending:=false }

def childrenStopped (context:LocalActorContext) (noChildren:Bool):
  LocalActorContext×Point:=
 if noChildren then context.completeStop else (context,.invoked)

def invokeSystem (context:LocalActorContext) (noChildren:Bool) (message:SystemMessage):
  LocalActorContext×Point:=
 if context.state=.stopped then (context,.invoked)
 else match message with
  | .preStart=>
   if context.state=.starting then (context,.callback .preStart) else (context,.invoked)
  | .stop | .terminate=>
   if context.state=.stopping then context.childrenStopped noChildren
   else ({ context with state:=.stopping,restartPending:=false },.stopping)
  | .terminated=>
   if context.state=.stopping ∧ noChildren then context.completeStop
   else if context.restartPending ∧ noChildren then context.completeRestart
   else (context,.invoked)
  | .restart=>
   if context.state=.stopping then (context,.invoked)
   else
    let context':={ context with state:=.starting,restartPending:=true }
    if noChildren then context'.completeRestart else (context',.invoked)
  | .failed | .control | .signal=>(context,.callback .signal)

def runCallback (context:LocalActorContext) (noChildren:Bool) (running:Callback)
  (effect:Effect):LocalActorContext×Point:=
 match effect,running with
 | .suspendUserMessages,_=>
  ({ context with userMessagesSuspended:=true },.callback running)
 | .resumeUserMessages,_=>
  ({ context with userMessagesSuspended:=false },.callback running)
 | .returned true,.receive=>context.invokeSystem noChildren .stop
 | .returned _,.receive | .returned _,.signal=>(context,.invoked)
 | .returned _,.preStart | .returned _,.restart=>(context.finishStart,.invoked)
 | .exception,.restart | .baseException,.restart=>
  ({ context with state:=.failed },.invoked)
 | .exception,_=>(context.fail,.invoked)
 | .baseException,_=>(context.fail,.failed)

/-- What `invoke_batch` gives back when the actor cannot process user messages. -/
def remaining {U:Type} (context:LocalActorContext) (rest:List (Slot (Message U))):
  List (Slot (Message U)):=
 if context.state=.starting ∨ context.state=.running ∨ context.state=.failed then rest
 else []

end LocalActorContext

section

variable {U:Type}

def Invocation.goes (invocation:Invocation U) (after:LocalActorContext×Point)
  (context:LocalActorContext) (invocation':Invocation U):Prop:=
 context=after.1 ∧ invocation'={ invocation with point:=after.2 }

def Invocation.call (context:LocalActorContext) (invocation:Invocation U)
  (call:Call (Message U)) (context':LocalActorContext) (invocation':Invocation U):Prop:=
 match invocation.point with
 | .next=>∃slot rest,invocation.rest=slot::rest ∧
  if invocation.system then
   call=.internal ∧ ∃noChildren,
    Invocation.goes { invocation with rest:=rest }
     (context.invokeSystem noChildren slot.message.asSystem) context' invocation'
  else
   context.canProcessUserMessages=true ∧ call=.deliver slot ∧
    Invocation.goes { invocation with rest:=rest } (context,.callback .receive)
     context' invocation'
 | .callback running=>call=.internal ∧ ∃noChildren effect,
  invocation.goes (context.runCallback noChildren running effect) context' invocation'
 | .stopping=>call=.stopUserMessages ∧
  invocation.goes (context,.stopChildren) context' invocation'
 | .stopChildren=>call=.internal ∧ ∃noChildren,
  invocation.goes (context.childrenStopped noChildren) context' invocation'
 | .completing=>call=.stopUserMessages ∧
  invocation.goes (context,.closing) context' invocation'
 | .closing=>
  (call=.internal ∧ ∃suspended,invocation.goes
   ({ context with userMessagesSuspended:=suspended },.closing) context' invocation') ∨
  (call=.close ∧ ∃raised:Bool,
   invocation.goes (context,if raised then .failed else .invoked) context' invocation')
 | .invoked=>call=.internal ∧
  (invocation.system=true ∨ context.canProcessUserMessages=true) ∧
  invocation.goes (context,.next) context' invocation'
 | .failed=>False

def Invocation.finish (context:LocalActorContext) (invocation:Invocation U)
  (result:BatchResult (Message U)):Prop:=
 match invocation.point with
 | .next=>
  (invocation.rest=[] ∧ result=.returned []) ∨
  (invocation.rest≠[] ∧ invocation.system=false ∧
   context.canProcessUserMessages=false ∧
   result=.returned (context.remaining invocation.rest))
 | .invoked=>invocation.system=false ∧ context.canProcessUserMessages=false ∧
  result=.returned (context.remaining invocation.rest)
 | .failed=>result=.batchFailed invocation.rest invocation.system
 | .callback _ | .stopping | .stopChildren | .completing | .closing=>False

def localActor (U:Type):Actor LocalActorContext (Invocation U) (Message U) where
 init context:=context=⟨.starting,false,false⟩
 canProcessUserMessages context:=context.canProcessUserMessages
 invokeBatch batch system:=⟨batch,system,.next⟩
 call:=Invocation.call
 finish:=Invocation.finish

end

variable {context context':LocalActorContext} {point:Point}

section

namespace LocalActorContext

def Stopping (context:LocalActorContext):Prop:=
 context.state=.stopping ∨ context.state=.stopped

/-- An actor with a mailbox has left `NEW`, and one that stops no longer restarts. -/
structure Started (context:LocalActorContext):Prop where
 not_new:context.state≠.new
 restarting:context.restartPending=true → ¬context.Stopping

def At (context:LocalActorContext):Point → Prop
 | .callback .preStart | .callback .restart=>¬context.Stopping
 | .stopping | .stopChildren | .completing | .closing=>context.Stopping
 | .callback .receive | .callback .signal | .next | .failed | .invoked=>True

structure Moves (context:LocalActorContext) (after:LocalActorContext×Point):Prop where
 started:after.1.Started
 arrived:after.1.At after.2
 stays:context.Stopping → after.1.Stopping

section

variable (h:context.Started)
include h

lemma Moves.stay (hpoint:context.At point):context.Moves (context,point):=⟨h,hpoint,id⟩

lemma Moves.suspended (suspended:Bool) (hpoint:context.At point):
  context.Moves ({ context with userMessagesSuspended:=suspended },point):=by
 refine ⟨⟨h.not_new,h.restarting⟩,?_,id⟩
 unfold At at hpoint ⊢
 split at hpoint <;> exact hpoint

lemma completeStop_moves (hstopping:context.Stopping):context.Moves context.completeStop:=by
 unfold completeStop
 split_ifs with hstopped
 · exact .stay h trivial
 · refine ⟨⟨nofun,fun hrestart=>?_⟩,.inr rfl,fun _=>.inr rfl⟩
   exact absurd hstopping (h.restarting hrestart)

lemma childrenStopped_moves (hstopping:context.Stopping) (noChildren:Bool):
  context.Moves (context.childrenStopped noChildren):=by
 cases noChildren
 · exact .stay h trivial
 · exact completeStop_moves h hstopping

lemma completeRestart_moves (hstopping:¬context.Stopping):context.Moves context.completeRestart:=
 .suspended h false hstopping

lemma invokeSystem_moves (noChildren:Bool) (message:SystemMessage):
  context.Moves (context.invokeSystem noChildren message):=by
 unfold invokeSystem
 by_cases hstopped:context.state=.stopped
 · rw [if_pos hstopped]
   exact .stay h trivial
 rw [if_neg hstopped]
 cases message with
 | preStart=>
  dsimp only
  split_ifs with hstarting
  · refine .stay h ?_
    rintro (hs|hs) <;> rw [hstarting] at hs <;> cases hs
  · exact .stay h trivial
 | stop | terminate=>
  dsimp only
  split_ifs with hstopping
  · exact childrenStopped_moves h (.inl hstopping) noChildren
  · exact ⟨⟨nofun,nofun⟩,.inl rfl,fun _=>.inl rfl⟩
 | terminated=>
  dsimp only
  split_ifs with hstopping hrestart
  · exact completeStop_moves h (.inl hstopping.1)
  · exact completeRestart_moves h (h.restarting hrestart.1)
  · exact .stay h trivial
 | restart=>
  dsimp only
  split_ifs with hstopping hchildren
  · exact .stay h trivial
  all_goals
   have hnot:¬context.Stopping:=by
    rintro (hs|hs)
    · exact hstopping hs
    · exact hstopped hs
   have hnot':¬Stopping { context with state:=.starting,restartPending:=true }:=by
    rintro (hs|hs) <;> cases hs
   have hstarted:Started { context with state:=.starting,restartPending:=true }:=
    ⟨nofun,fun _=>hnot'⟩
  · have hmoves:=completeRestart_moves hstarted hnot'
    exact ⟨hmoves.started,hmoves.arrived,fun hs=>absurd hs hnot⟩
  · exact ⟨hstarted,trivial,fun hs=>absurd hs hnot⟩
 | failed | control | signal=>exact .stay h trivial

lemma fail_moves (hpoint:point=.invoked ∨ point=.failed):context.Moves (context.fail,point):=by
 unfold fail
 have harrived (context:LocalActorContext):context.At point:=by
  rcases hpoint with rfl|rfl <;> trivial
 split_ifs with hstopping
 · exact .stay h (harrived _)
 · refine ⟨⟨nofun,fun _=>?_⟩,harrived _,fun hs=>absurd hs hstopping⟩
   rintro (hs|hs) <;> cases hs

end

lemma restart_fails (hstopping:¬context.Stopping):
  context.Moves ({ context with state:=.failed },.invoked):=by
 refine ⟨⟨nofun,fun _=>?_⟩,trivial,fun hs=>absurd hs hstopping⟩
 rintro (hs|hs) <;> cases hs

lemma finishStart_moves (hstopping:¬context.Stopping):
  context.Moves (context.finishStart,.invoked):=
 ⟨⟨nofun,nofun⟩,trivial,fun hs=>absurd hs hstopping⟩

lemma runCallback_moves (h:context.Started)
  {running:Callback} (hpoint:context.At (.callback running)) (noChildren:Bool)
  (effect:Effect):context.Moves (context.runCallback noChildren running effect):=by
 cases effect with
 | suspendUserMessages=>exact .suspended h true hpoint
 | resumeUserMessages=>exact .suspended h false hpoint
 | returned stopped=>
  cases running with
  | receive=>
   cases stopped
   · exact .stay h trivial
   · exact invokeSystem_moves h noChildren .stop
  | signal=>cases stopped <;> exact .stay h trivial
  | preStart | restart=>cases stopped <;> exact finishStart_moves hpoint
 | exception=>
  cases running with
  | restart=>exact restart_fails hpoint
  | receive | preStart | signal=>exact fail_moves h (.inl rfl)
 | baseException=>
  cases running with
  | restart=>exact restart_fails hpoint
  | receive | preStart | signal=>exact fail_moves h (.inr rfl)

end LocalActorContext

variable {U:Type}

def Invocation.Sound (context:LocalActorContext) (invocation:Invocation U):Prop:=
 context.Started ∧ context.At invocation.point

structure CallEffect (context:LocalActorContext) (invocation:Invocation U)
  (call:Call (Message U)) (context':LocalActorContext) (invocation':Invocation U):
  Prop where
 sound:invocation'.Sound context'
 stays:context.Stopping → context'.Stopping
 stops:call=.stopUserMessages ∨ call=.close → context'.Stopping
 system_eq:invocation'.system=invocation.system
 user_rest:invocation.system=false → invocation.rest=call.delivered++invocation'.rest
 system_delivers:invocation.system=true → call.delivered=[]

variable {invocation invocation':Invocation U}

lemma CallEffect.internal {after:LocalActorContext×Point}
  (hmoves:context.Moves after) (hgoes:invocation.goes after context' invocation'):
  CallEffect context invocation .internal context' invocation':=by
 obtain ⟨rfl,rfl⟩:=hgoes
 exact ⟨⟨hmoves.started,hmoves.arrived⟩,hmoves.stays,(by rintro (h | h) <;> cases h),rfl,
  fun _=>rfl,fun _=>rfl⟩

lemma CallEffect.stop {call:Call (Message U)} (hstarted:context.Started)
  (hstopping:context.Stopping) (harrived:context.At point)
  (hcall:call=.stopUserMessages ∨ call=.close)
  (hgoes:invocation.goes (context,point) context' invocation'):
  CallEffect context invocation call context' invocation':=by
 obtain ⟨rfl,rfl⟩:=hgoes
 have hdelivered:call.delivered=[]:=by rcases hcall with rfl|rfl <;> rfl
 exact ⟨⟨hstarted,harrived⟩,id,fun _=>hstopping,rfl,fun _=>by rw [hdelivered]; rfl,
  fun _=>hdelivered⟩

lemma Invocation.Sound.call {call:Call (Message U)}
  (h:invocation.Sound context) (hcall:invocation.call context call context' invocation'):
  CallEffect context invocation call context' invocation':=by
 obtain ⟨hstarted,hat⟩:=h
 unfold Invocation.call at hcall
 cases hpoint:invocation.point with
 | next=>
  simp only [hpoint] at hcall
  obtain ⟨slot,rest,hrest,hcall⟩:=hcall
  split_ifs at hcall with hsystem
  · obtain ⟨rfl,noChildren,rfl,rfl⟩:=hcall
    have hmoves:=LocalActorContext.invokeSystem_moves hstarted noChildren
     slot.message.asSystem
    exact ⟨⟨hmoves.started,hmoves.arrived⟩,hmoves.stays,(by rintro (h | h) <;> cases h),rfl,
     fun huser=>by simp [huser] at hsystem,fun _=>rfl⟩
  · obtain ⟨_,rfl,rfl,rfl⟩:=hcall
    exact ⟨⟨hstarted,trivial⟩,id,(by rintro (h | h) <;> cases h),rfl,fun _=>hrest,
     fun hsys=>absurd hsys hsystem⟩
 | callback running=>
  simp only [hpoint] at hcall hat
  obtain ⟨rfl,noChildren,effect,hgoes⟩:=hcall
  exact .internal (LocalActorContext.runCallback_moves hstarted hat noChildren effect) hgoes
 | stopping=>
  simp only [hpoint] at hcall hat
  have harrived:context.At .stopChildren:=hat
  exact .stop hstarted hat harrived (.inl hcall.1) hcall.2
 | stopChildren=>
  simp only [hpoint] at hcall hat
  obtain ⟨rfl,noChildren,hgoes⟩:=hcall
  exact .internal (LocalActorContext.childrenStopped_moves hstarted hat noChildren) hgoes
 | completing=>
  simp only [hpoint] at hcall hat
  have harrived:context.At .closing:=hat
  exact .stop hstarted hat harrived (.inl hcall.1) hcall.2
 | closing=>
  simp only [hpoint] at hcall hat
  rcases hcall with ⟨rfl,suspended,hgoes⟩|⟨hclose,raised,hgoes⟩
  · exact .internal (.suspended hstarted suspended hat) hgoes
  · exact .stop hstarted hat (by cases raised <;> trivial) (.inr hclose) hgoes
 | invoked=>
  simp only [hpoint] at hcall
  obtain ⟨rfl,_,hgoes⟩:=hcall
  have harrived:context.At .next:=trivial
  exact .internal (.stay hstarted harrived) hgoes
 | failed=>simp only [hpoint] at hcall

lemma remaining_of_started (h:context.Started) (rest:List (Slot (Message U))):
  context.remaining rest=rest ∨ (context.remaining rest=[] ∧ context.Stopping):=by
 unfold LocalActorContext.remaining LocalActorContext.Stopping
 have hnew:=h.not_new
 cases hstate:context.state <;> simp_all

lemma finish_returned {remaining:List (Slot (Message U))} (h:context.Started)
  (hfinish:invocation.finish context (.returned remaining)):
  remaining=invocation.rest ∨ (remaining=[] ∧ context.Stopping):=by
 unfold Invocation.finish at hfinish
 cases hpoint:invocation.point with
 | next=>
  simp only [hpoint] at hfinish
  rcases hfinish with ⟨hrest,heq⟩|⟨_,_,_,heq⟩ <;> cases heq
  · exact .inl hrest.symm
  · exact remaining_of_started h invocation.rest
 | invoked=>
  simp only [hpoint] at hfinish
  obtain ⟨_,_,heq⟩:=hfinish
  cases heq
  exact remaining_of_started h invocation.rest
 | failed=>
  simp only [hpoint] at hfinish
  cases hfinish
 | callback | stopping | stopChildren | completing | closing=>simp only [hpoint] at hfinish

lemma finish_batchFailed {remaining:List (Slot (Message U))} {system:Bool}
  (hfinish:invocation.finish context (.batchFailed remaining system)):
  remaining=invocation.rest ∧ system=invocation.system:=by
 unfold Invocation.finish at hfinish
 cases hpoint:invocation.point <;> simp [hpoint] at hfinish
 exact hfinish

lemma not_finish_raised : ¬invocation.finish context .raised:=by
 intro hfinish
 unfold Invocation.finish at hfinish
 cases hpoint:invocation.point <;> simp [hpoint] at hfinish

end

end Movie.ActorContext
