import Movie.DurableActor
import Movie.DurableNoLostUpdate

/-!
# What the actors can do

Each method of a hosted behaviour by cases, and the changes that the steps of the actors are made
of.
-/
namespace Movie.DurableActorChanges

open Function
open ActorContext (ActorState LocalActorContext SystemMessage)
open DurableModel SQLiteStore DurableHistory SQLiteStoreInvariant Reachability DurableActor
open DurableBehavior hiding DurableEffect PendingEffect Event

universe u

variable {R:Type u} {S K A:Type}

section

inductive Commands (b:DurableStateBehavior S K A) (g n:ℕ):Outcome S K A → Prop where
 | refused (suspended:Bool) (error:BehaviorError):Commands b g n (b.raise suspended error)
 | raised {state:S} {returned:Option (DurableEffect S K)} {ran:List K}
  (hphase:b.phase=.running) (hstate:b.state=some state)
  (hran:ran=[] ∨ ∃effect,returned=some effect ∧ effect.operationId=none ∧
   ran <+:effect.callbacks) (suspended:Bool) (error:BehaviorError):
  Commands b g n ⟨b,suspended,
   .handled n g b.persistenceId state b.revision returned::ran.map (.ran n),.raised error⟩
 | done {state:S} {effect:DurableEffect S K} {ran:List K} (hphase:b.phase=.running)
  (hstate:b.state=some state) (hkind:effect.operationId=none)
  (hran:ran <+:effect.callbacks) (hstop:effect.stop=false) (suspended:Bool):
  Commands b g n ⟨b,suspended,
   .handled n g b.persistenceId state b.revision (some effect)::ran.map (.ran n),.done⟩
 | stops {state:S} {effect:DurableEffect S K} {ran:List K} (hphase:b.phase=.running)
  (hstate:b.state=some state) (hkind:effect.operationId=none)
  (hran:ran <+:effect.callbacks):
  Commands b g n ⟨{ b with phase:=.stopping },true,
   .handled n g b.persistenceId state b.revision (some effect)::ran.map (.ran n),.done⟩
 | writes {state candidate:S} {operationId:OperationId} (effect:DurableEffect S K)
  (content:Content) (hphase:b.phase=.running) (hstate:b.state=some state)
  (hkind:effect.operationId=some operationId):
  Commands b g n ⟨{ b with
   pending:=some ⟨n,candidate,effect.callbacks,effect.stop⟩
   phase:=.persisting },true,
   [.handled n g b.persistenceId state b.revision (some effect)],
   .write operationId content state⟩

def Succeeds (entity:Entity S) (b:DurableStateBehavior S K A):Operation S → Prop
 | .loaded _ result=>∃record recovered,result=.ok record ∧
  Behavior.recoveredState entity record=.ok recovered
 | .wrote result=>result=.ok ⟨b.revision+1,false⟩
 | .load .. | .write _=>False

inductive Confirms : Operation S → Prop where
 | loaded (record:Option DurableStateRecord):Confirms (.loaded true (.ok record))
 | wrote (revision:ℕ):Confirms (.wrote (.ok ⟨revision,false⟩))

inductive Completion (entity:Entity S) (b:DurableStateBehavior S K A):
  Operation S → Outcome S K A → Prop where
 | failed (operation:Operation S) (suspended:Bool) (error:BehaviorError):
  Completion entity b operation (b.raise suspended error)
 | raised {operation:Operation S} {state:Option S} {revision:ℕ}
  (hsucceeds:Succeeds entity b operation) (suspended:Bool) (error:BehaviorError):
  Completion entity b operation
   ({ b with state:=state,revision:=revision }.raise suspended error)
 | recovered {record:Option DurableStateRecord} {state:Option S} {revision:ℕ}
  (hsucceeds:Succeeds entity b (.loaded false (.ok record))):
  Completion entity b (.loaded false (.ok record))
   ⟨{ b with state:=state,revision:=revision,phase:=.running },false,[],.done⟩
 | repeated (revision:ℕ) (suspended:Bool):
  Completion entity b (.wrote (.ok ⟨revision,true⟩))
   ⟨{ b with phase:=.recovering },suspended,[],.load true⟩
 | finished {operation:Operation S} {pending:PendingEffect S K} {ran:List K}
  {state:Option S} {revision:ℕ} {phase:Phase} {suspended:Bool}
  {reaction:Reaction S} (hpending:b.pending=some pending)
  (hran:ran <+:pending.callbacks)
  (hreaction:(∃error,reaction=.raised error) ∨
   reaction=.done ∧ phase=if pending.stop then .stopping else .running)
  (hconfirms:Confirms operation) (hsucceeds:Succeeds entity b operation):
  Completion entity b operation ⟨{ b with
   pending:=none
   state:=state
   revision:=revision
   phase:=phase },suspended,ran.map (.ran pending.effect),reaction⟩

variable (entity:Entity S) (b:DurableStateBehavior S K A) (suspended:Bool)
 (callbackRaises:ℕ → Bool)

lemma runCallbacks_prefix (codec:StateCodec S) (state:Option S) (callbackRaises:ℕ → Bool)
  (callbacks:List K):(runCallbacks codec state callbackRaises callbacks).1 <+:callbacks:=by
 induction callbacks generalizing callbackRaises with
 | nil=>exact List.nil_prefix
 | cons callback callbacks ih=>
  unfold runCallbacks
  split
  · exact List.nil_prefix
  · split_ifs
    · exact List.cons_prefix_cons.mpr ⟨rfl,List.nil_prefix⟩
    · exact List.cons_prefix_cons.mpr ⟨rfl,ih _⟩

lemma finishPendingEffect_cases (applyCandidate:Bool) {operation:Operation S}
  {state:Option S} {revision:ℕ} (hconfirms:Confirms operation)
  (hsucceeds:Succeeds entity b operation):Completion entity b operation
   ({ b with state:=state,revision:=revision }.finishPendingEffect entity.codec suspended
    applyCandidate callbackRaises):=by
 unfold DurableStateBehavior.finishPendingEffect
 dsimp only
 split
 · exact .raised hsucceeds suspended _
 · rename_i pending hpending
   generalize (if applyCandidate=true then some pending.state else state)=next
   have hran:= runCallbacks_prefix entity.codec next callbackRaises pending.callbacks
   split_ifs with hraised hstop
   · exact .finished hpending hran (.inl ⟨_,rfl⟩) hconfirms hsucceeds
   · exact .finished hpending hran (.inr ⟨rfl,by rw [if_pos hstop]⟩) hconfirms hsucceeds
   · exact .finished hpending hran (.inr ⟨rfl,by rw [if_neg hstop]⟩) hconfirms hsucceeds

lemma completeRecovery_cases (loaded:Except StoreError (Option DurableStateRecord))
  (duplicate hookRaises:Bool):Completion entity b (.loaded duplicate loaded)
   (b.completeRecovery entity suspended loaded duplicate hookRaises callbackRaises):=by
 unfold DurableStateBehavior.completeRecovery
 cases loaded with
 | error e=>exact .failed _ suspended _
 | ok record=>
  dsimp only
  split
  · exact .failed _ suspended _
  · rename_i state revision hrecovered
    have hsucceeds:Succeeds entity b (.loaded duplicate (.ok record)):=
     ⟨record,(state,revision),rfl,hrecovered⟩
    split_ifs with hhook hduplicate
    · exact .raised hsucceeds suspended _
    · subst hduplicate
      exact finishPendingEffect_cases entity b suspended callbackRaises false (.loaded record)
       hsucceeds
    · obtain rfl:=Bool.eq_false_of_not_eq_true hduplicate
      exact .recovered hsucceeds

lemma completeWrite_cases (written:Except StoreError WriteResult):
  Completion entity b (.wrote written)
   (b.completeWrite entity.codec suspended written callbackRaises):=by
 unfold DurableStateBehavior.completeWrite
 cases written with
 | error e=>exact .failed _ suspended _
 | ok written=>
  obtain ⟨revision,duplicate⟩:=written
  dsimp only
  split_ifs with hduplicate hrevision
  · subst hduplicate
    exact .repeated revision suspended
  · exact .failed _ suspended _
  · obtain rfl:=Bool.eq_false_of_not_eq_true hduplicate
    have hsucceeds:Succeeds entity b (.wrote (.ok ⟨revision,false⟩)):=by
     change Except.ok _=Except.ok _
     rw [not_not.mp hrevision]
    exact finishPendingEffect_cases entity b suspended callbackRaises true (.wrote revision)
     hsucceeds

lemma applyEffect_cases (g n:ℕ) {state:S} (effect:DurableEffect S K)
  (hphase:b.phase=.running) (hstate:b.state=some state):
  Commands b g n (Outcome.after (b.applyEffect entity suspended n state effect callbackRaises)
   (.handled n g b.persistenceId state b.revision (some effect))):=by
 obtain ⟨kind,callbacks,stop⟩:=effect
 unfold DurableStateBehavior.applyEffect Outcome.after
 cases kind with
 | none=>
  have hran:= runCallbacks_prefix entity.codec b.state callbackRaises callbacks
  dsimp only
  split_ifs with hraised hstop
  · exact .raised hphase hstate (.inr ⟨_,rfl,rfl,hran⟩) suspended _
  · exact .stops hphase hstate rfl hran
  · exact .done hphase hstate rfl hran (Bool.eq_false_of_not_eq_true hstop) suspended
 | persist next operationId=>
  dsimp only
  split
  · exact @Commands.raised _ _ _ b g n state _ [] hphase hstate (.inl rfl) suspended _
  · split
    · exact @Commands.raised _ _ _ b g n state _ [] hphase hstate (.inl rfl) suspended _
    · exact .writes ⟨.persist next operationId,callbacks,stop⟩ _ hphase hstate rfl
 | delete operationId=>
  dsimp only
  split
  · exact @Commands.raised _ _ _ b g n state _ [] hphase hstate (.inl rfl) suspended _
  · exact .writes ⟨.delete operationId,callbacks,stop⟩ _ hphase hstate rfl

lemma receive_cases (g n:ℕ) (handleCommand:S → Except String (DurableEffect S K)):
  Commands b g n (b.receive entity suspended g n handleCommand callbackRaises):=by
 unfold DurableStateBehavior.receive
 split_ifs with hphase
 · exact .refused suspended _
 · have hrunning:=not_not.mp hphase
   unfold DurableStateBehavior.processCommand
   split
   · exact .refused suspended _
   · rename_i current hstate
     split
     · exact .refused suspended _
     · rename_i state hcopy
       obtain rfl:=DurableNoLostUpdate.copyState_eq_ok hcopy
       split
       · exact .raised hrunning hstate (.inl rfl) suspended _
       · rename_i effect _
         exact applyEffect_cases entity b suspended callbackRaises g n effect hrunning hstate

variable {b}

lemma Commands.keeps {g n:ℕ} {outcome:Outcome S K A} (h:Commands b g n outcome):
  outcome.behavior.internalContext=b.internalContext ∧
   outcome.behavior.persistenceId=b.persistenceId:=by
 cases h <;> exact ⟨rfl,rfl⟩

variable {entity}

lemma Completion.keeps {operation:Operation S} {outcome:Outcome S K A}
  (h:Completion entity b operation outcome):
  outcome.behavior.internalContext=b.internalContext ∧
   outcome.behavior.persistenceId=b.persistenceId:=by
 cases h <;> exact ⟨rfl,rfl⟩

end

section

variable {h t r:Host R S K A} {a:A}

def Ending (actor:Actor):Prop:=
 actor.context.state=.stopping ∨ actor.context.state=.stopped

variable {actor:Actor}

lemma live_eq_some {g:ℕ}:actor.live=some g ↔
  actor.behavior=.durable g ∧ actor.context.state≠.stopped:=by
 unfold Actor.live
 split
 · rename_i generation hbehavior
   rw [hbehavior,Installed.durable.injEq]
   split_ifs with hstopped
   · exact ⟨nofun,fun hlive=>absurd hstopped hlive.2⟩
   · rw [Option.some.injEq]
     exact ⟨fun heq=>⟨heq,hstopped⟩,fun hlive=>hlive.1⟩
 · rename_i hbehavior
   exact ⟨nofun,fun hlive=>absurd hlive.1 (hbehavior g)⟩

lemma not_ending (h:actor.context.state=.starting):¬Ending actor:=by
 unfold Ending
 rw [h]
 decide

structure Moves (a:A) (h t:Host R S K A):Prop where
 db:t.db=h.db
 commits:t.commits=h.commits
 nextGeneration:t.nextGeneration=h.nextGeneration
 inflight:t.inflight=h.inflight
 trace:t.trace=h.trace
 others:∀other,other≠a → t.actors other=h.actors other
 live:(t.actors a).live=(h.actors a).live ∨ (t.actors a).live=none
 installed:(t.actors a).behavior=(h.actors a).behavior ∨
  ∀g,(t.actors a).behavior≠.durable g
 ending:Ending (h.actors a) → Ending (t.actors a)
 objects:∀g,t.objects g=h.objects g ∨ ∃b,h.objects g=some b ∧
  b.internalContext=a ∧ (t.actors a).live≠some g ∧
  t.objects g=some { b with phase:=.stopping }

lemma Moves.refl (a:A) (h:Host R S K A):Moves a h h:=
 ⟨rfl,rfl,rfl,rfl,rfl,fun _ _=>rfl,.inl rfl,.inl rfl,id,fun _=>.inl rfl⟩

lemma Moves.live_ne (hmove:Moves a h t) {g:ℕ} (hlive:(h.actors a).live≠some g):
  (t.actors a).live≠some g:=by
 rcases hmove.live with hsame|hnone
 · rwa [hsame]
 · rw [hnone]
   exact nofun

lemma Moves.trans (hfirst:Moves a h t) (hsecond:Moves a t r):Moves a h r where
 db:=hsecond.db.trans hfirst.db
 commits:=hsecond.commits.trans hfirst.commits
 nextGeneration:=hsecond.nextGeneration.trans hfirst.nextGeneration
 inflight:=hsecond.inflight.trans hfirst.inflight
 trace:=hsecond.trace.trans hfirst.trace
 others other hne:=(hsecond.others other hne).trans (hfirst.others other hne)
 live:=by
  rcases hsecond.live with hsame|hnone
  · rw [hsame]
    exact hfirst.live
  · exact .inr hnone
 installed:=by
  rcases hsecond.installed with hsame|hnone
  · rw [hsame]
    exact hfirst.installed
  · exact .inr hnone
 ending hending:=hsecond.ending (hfirst.ending hending)
 objects g:=by
  rcases hfirst.objects g with hsame|⟨b,hobject,howner,hdead,hstopped⟩
  · rcases hsecond.objects g with hsame'|⟨b,hobject,howner,hdead,hstopped⟩
    · exact .inl (hsame'.trans hsame)
    · exact .inr ⟨b,hsame▸hobject,howner,hdead,hstopped⟩
  · refine .inr ⟨b,hobject,howner,hsecond.live_ne hdead,?_⟩
    rcases hsecond.objects g with hsame'|⟨b',hobject',_,_,hstopped'⟩
    · exact hsame'.trans hstopped
    · obtain rfl:=Option.some.inj (hstopped.symm.trans hobject')
      exact hstopped'

variable [DecidableEq A]

lemma setActor_self (actor:Actor):(h.setActor a actor).actors a=actor:=
 update_self ..

lemma setActor_of_ne {other:A} (hne:other≠a):
  (h.setActor a actor).actors other=h.actors other:=
 update_of_ne hne ..

lemma moves_setActor (hlive:actor.live=(h.actors a).live ∨ actor.live=none)
  (hinstalled:actor.behavior=(h.actors a).behavior ∨ ∀g,actor.behavior≠.durable g)
  (hending:Ending (h.actors a) → Ending actor):Moves a h (h.setActor a actor):=by
 refine ⟨rfl,rfl,rfl,rfl,rfl,fun other hne=>setActor_of_ne hne,?_,?_,?_,
  fun g=>.inl rfl⟩
 · rwa [setActor_self]
 · rwa [setActor_self]
 · rwa [setActor_self]

lemma moves_setContext {context:LocalActorContext}
  (hstopped:(h.actors a).context.state=.stopped → context.state=.stopped)
  (hending:(h.actors a).context.state=.stopping →
   context.state=.stopping ∨ context.state=.stopped):Moves a h (h.setContext a context):=by
 refine moves_setActor ?_ (.inl rfl) ?_
 · unfold Actor.live
   dsimp only
   split
   · by_cases hnow:context.state=.stopped
     · rw [if_pos hnow]
       exact .inr rfl
     · rw [if_neg hnow,if_neg (fun hbefore=>hnow (hstopped hbefore))]
       exact .inl rfl
   · exact .inl rfl
 · rintro (hstopping|hstop)
   · exact hending hstopping
   · exact .inr (hstopped hstop)

omit [DecidableEq A] in
lemma moves_stopBehavior {installed:Installed}
  (howner:∀g b,installed=.durable g → h.objects g=some b → b.internalContext=a)
  (hdead:∀g,installed=.durable g → (h.actors a).live≠some g):
  Moves a h (h.stopBehavior installed):=by
 unfold Host.stopBehavior
 split
 · rename_i g
   split
   · exact .refl a h
   · rename_i b hobject
     refine ⟨rfl,rfl,rfl,rfl,rfl,fun _ _=>rfl,.inl rfl,.inl rfl,id,fun g'=>?_⟩
     by_cases heq:g'=g
     · subst heq
       exact .inr ⟨b,hobject,howner g' b rfl hobject,hdead g' rfl,update_self ..⟩
     · exact .inl (update_of_ne heq ..)
 · exact .refl a h

omit [DecidableEq A] in
lemma stopBehavior_actors (installed:Installed):
  (h.stopBehavior installed).actors=h.actors:=by
 unfold Host.stopBehavior
 split
 · split <;> rfl
 · rfl

structure Hosted (h:Host R S K A):Prop where
 installed:∀a g,(h.actors a).behavior=.durable g →
  ∃b,h.objects g=some b ∧ b.internalContext=a
 fresh:∀g,h.nextGeneration≤g → h.objects g=none

omit [DecidableEq A] in
lemma Hosted.owner (hosted:Hosted h) {g:ℕ} {b:DurableStateBehavior S K A}
  (hbehavior:(h.actors a).behavior=.durable g) (hobject:h.objects g=some b):
  b.internalContext=a:=by
 obtain ⟨b',hobject',howner⟩:=hosted.installed a g hbehavior
 obtain rfl:=Option.some.inj (hobject'.symm.trans hobject)
 exact howner

lemma moves_fail (hosted:Hosted h) (a:A):Moves a h (h.fail a):=by
 unfold Host.fail
 dsimp only
 split_ifs with hending
 · exact .refl a h
 · have hset:Moves a h (h.setActor a ⟨(h.actors a).context.fail,.failed⟩):=
    moves_setActor (.inr rfl) (.inr fun g hbehavior=>(by cases hbehavior))
     fun hbefore=>absurd hbefore hending
   refine hset.trans (moves_stopBehavior (fun g b hbehavior hobject=>?_) fun g _=>?_)
   · exact hosted.owner hbehavior hobject
   · rw [setActor_self]
     exact nofun

lemma moves_stopped (hosted:Hosted h) (context:LocalActorContext) (hstopped:context.state=.stopped):
  Moves a h ((h.setContext a context).stopBehavior (h.actors a).behavior):=by
 refine (moves_setContext (fun _=>hstopped) fun _=>.inr hstopped).trans
  (moves_stopBehavior (fun g b hbehavior hobject=>?_) fun g _=>?_)
 · exact hosted.owner hbehavior hobject
 · rw [Host.setContext,setActor_self,Ne,live_eq_some]
   exact fun hlive=>hlive.2 hstopped

lemma moves_abortStart (hosted:Hosted h) (a:A):Moves a h (h.abortStart a):=by
 have habort:h.abortStart a=(h.setContext a
  { (h.actors a).context with state:=.stopped }).stopBehavior (h.actors a).behavior:=by
  unfold Host.abortStart Host.completeStop Host.setContext
  dsimp only
  rw [setActor_self,if_neg fun hstate:ActorState.failed=.stopped=>(by cases hstate)]
  unfold Host.setActor
  dsimp only
  rw [update_idem]
 rw [habort]
 exact moves_stopped hosted _ rfl

lemma moves_completeStop (hosted:Hosted h) (a:A):Moves a h (h.completeStop a):=by
 unfold Host.completeStop
 dsimp only
 split_ifs with hstopped
 · exact .refl a h
 · exact moves_stopped hosted _ rfl

lemma Hosted.move (hosted:Hosted h) (hmove:Moves a h t):Hosted t where
 installed other g hbehavior:=by
  have hbefore:(h.actors other).behavior=.durable g:=by
   by_cases heq:other=a
   · subst heq
     rcases hmove.installed with hsame|hnone
     · rwa [←hsame]
     · exact absurd hbehavior (hnone g)
   · rwa [←hmove.others other heq]
  obtain ⟨b,hobject,howner⟩:=hosted.installed other g hbefore
  rcases hmove.objects g with hsame|⟨b',hobject',_,_,hstopped⟩
  · exact ⟨b,hsame.trans hobject,howner⟩
  · obtain rfl:=Option.some.inj (hobject.symm.trans hobject')
    exact ⟨_,hstopped,howner⟩
 fresh g hge:=by
  rw [hmove.nextGeneration] at hge
  rcases hmove.objects g with hsame|⟨b,hobject,_⟩
  · rw [hsame]
    exact hosted.fresh g hge
  · rw [hosted.fresh g hge] at hobject
    cases hobject

end

section

inductive Completes (entity:Entity S) (b:DurableStateBehavior S K A) (suspended:Bool):
  Operation S → Outcome S K A → Prop where
 | loaded (duplicate:Bool) (loaded:Except StoreError (Option DurableStateRecord))
  (hookRaises:Bool) (callbackRaises:ℕ → Bool):
  Completes entity b suspended (.loaded duplicate loaded)
   (b.completeRecovery entity suspended loaded duplicate hookRaises callbackRaises)
 | wrote (written:Except StoreError WriteResult) (callbackRaises:ℕ → Bool):
  Completes entity b suspended (.wrote written)
   (b.completeWrite entity.codec suspended written callbackRaises)

lemma Completes.completion {entity:Entity S} {b:DurableStateBehavior S K A}
  {suspended:Bool} {operation:Operation S} {outcome:Outcome S K A}
  (h:Completes entity b suspended operation outcome):Completion entity b operation outcome:=by
 cases h with
 | loaded duplicate loaded hookRaises callbackRaises=>
  exact completeRecovery_cases entity b suspended callbackRaises loaded duplicate hookRaises
 | wrote written callbackRaises=>
  exact completeWrite_cases entity b suspended callbackRaises written

inductive Answers (settings:Settings) (db:Database R):Operation S → Operation S → Prop where
 | loaded {id:PersistenceId} {duplicate:Bool}
  {result:Except StoreError (Option DurableStateRecord)}
  (hresult:db.load settings id=result ∨ ∃error,result=.error error):
  Answers settings db (.load id duplicate) (.loaded duplicate result)
 | aborted (request:WriteRequest S) (error:StoreError):
  Answers settings db (.write request) (.wrote (.error error))

variable [DecidableEq A]

inductive Lifecycle (h:Host R S K A):Host R S K A → Prop where
 | move {a:A} {t:Host R S K A} (hmove:Moves a h t):Lifecycle h t
 | construct {a:A} (startup:Startup) (hdeferred:(h.actors a).behavior=.deferred)
  (hending:¬Ending (h.actors a)):Lifecycle h (h.construct a startup).1

def Lives : Host R S K A → Host R S K A → Prop:=Relation.ReflTransGen Lifecycle

/-- The parts that the steps of the actors and of the store are made of. -/
inductive Change (settings:Settings) (entity:Entity S) (h:Host R S K A):
  Host R S K A → Prop where
 | lifecycle {t:Host R S K A} (hlife:Lifecycle h t):Change settings entity h t
 | invoked {a:A} {g:ℕ} {b:DurableStateBehavior S K A}
  {handleCommand:S → Except String (DurableEffect S K)} {callbackRaises:ℕ → Bool}
  (accepted:Bool) (hstate:(h.actors a).context.state=.running)
  (hbehavior:(h.actors a).behavior=.durable g) (hobject:h.objects g=some b):
  Change settings entity h (h.settle settings g
   (b.receive entity false g h.trace.length handleCommand callbackRaises) accepted)
 | delivered {before after:List (ℕ×Operation S)} {g:ℕ} {operation:Operation S}
  {b:DurableStateBehavior S K A} {suspended:Bool} {outcome:Outcome S K A}
  (accepted:Bool) (hin:h.inflight=before++(g,operation)::after)
  (hobject:h.objects g=some b) (hlive:(h.actors b.internalContext).live=some g)
  (houtcome:Completes entity b suspended operation outcome):
  Change settings entity h
   ({ h with inflight:=before++after }.settle settings g outcome accepted)
 | dropped {before after:List (ℕ×Operation S)} {g:ℕ} {operation:Operation S}
  (hin:h.inflight=before++(g,operation)::after) (hcompleted:Completed operation)
  (hdead:∀b,h.objects g=some b → (h.actors b.internalContext).live≠some g):
  Change settings entity h { h with inflight:=before++after }
 | answered {before after:List (ℕ×Operation S)} {g:ℕ} {operation next:Operation S}
  (hin:h.inflight=before++(g,operation)::after)
  (hnext:Answers settings h.db operation next):
  Change settings entity h { h with inflight:=before++(g,next)::after }
 | committed {before after:List (ℕ×Operation S)} {g:ℕ} {request:WriteRequest S}
  {committedAtNs:ℤ} {result:WriteResult} {db:Database R} (learned:Option StoreError)
  (hin:h.inflight=before++(g,.write request)::after)
  (hmutate:h.db.mutate settings request.persistenceId request.expectedRevision
   request.operationId request.content committedAtNs=.ok (result,db)):
  Change settings entity h (h.commit request committedAtNs result db
   (before++(g,.wrote (learned.elim (.ok result) .error))::after))
 | maintained {transaction:Transaction R} {reply:Reply} {db:Database R}
  (hkind:Maintenance transaction) (hrun:transaction.run settings h.db=.ok (reply,db)):
  Change settings entity h { h with db:=db }

def changeSystem (settings:Settings) (entity:Entity S):System (Host R S K A) Unit where
 init h:=∃readModel,h=Host.create readModel
 step h _ t:=Change settings entity h t

variable {settings:Settings} {entity:Entity S} {h t:Host R S K A} {a:A}

variable {g:ℕ} {b:DurableStateBehavior S K A} {outcome:Outcome S K A} {operation:Operation S}

lemma runs_change (hchange:Change settings entity h t):
  (changeSystem settings entity).Runs h t:=.single ⟨(),hchange⟩

lemma lives_move (hmove:Moves a h t):Lives h t:=.single (.move hmove)

lemma runs_lives (hlives:Lives h t):(changeSystem settings entity).Runs h t:=
 Relation.ReflTransGen.mono (fun _ _ hlife=>⟨(),.lifecycle hlife⟩) _ _ hlives

lemma record_actors_behavior (g:ℕ) (outcome:Outcome S K A) (other:A):
  ((h.record g outcome).actors other).behavior=(h.actors other).behavior:=by
 change (update h.actors _ _ other).behavior=_
 by_cases heq:other=outcome.behavior.internalContext
 · subst heq
   rw [update_self]
   rfl
 · rw [update_of_ne heq]

lemma Hosted.record (hosted:Hosted h) (hobject:h.objects g=some b)
  (howner:outcome.behavior.internalContext=b.internalContext):
  Hosted (h.record g outcome) where
 installed other g' hbehavior:=by
  rw [record_actors_behavior] at hbehavior
  obtain ⟨b',hobject',howner'⟩:=hosted.installed other g' hbehavior
  by_cases heq:g'=g
  · subst heq
    obtain rfl:=Option.some.inj (hobject'.symm.trans hobject)
    exact ⟨outcome.behavior,update_self ..,howner.trans howner'⟩
  · exact ⟨b',(update_of_ne heq ..).trans hobject',howner'⟩
 fresh g' hge:=by
  have hne:g'≠g:=by
   rintro rfl
   rw [hosted.fresh g' hge] at hobject
   cases hobject
  exact (update_of_ne hne ..).trans (hosted.fresh g' hge)

lemma settle_cases (settings:Settings) (h:Host R S K A) (g:ℕ) (outcome:Outcome S K A)
  (accepted:Bool):
  (outcome.reaction=.done ∧ h.settle settings g outcome accepted=h.record g outcome) ∨
  h.settle settings g outcome accepted =
   (h.record g outcome).fail outcome.behavior.internalContext ∨
  (∃duplicate,outcome.reaction=.load duplicate ∧ h.settle settings g outcome accepted =
   (h.record g outcome).submit g (.load outcome.behavior.persistenceId duplicate)) ∨
  ∃operationId content argument,outcome.reaction=.write operationId content argument ∧
   h.settle settings g outcome accepted=(h.record g outcome).submit g
    (.write ⟨outcome.behavior.persistenceId,outcome.behavior.revision,operationId,content,
     argument⟩):=by
 unfold Host.settle
 dsimp only
 cases outcome.reaction with
 | done=>exact .inl ⟨rfl,rfl⟩
 | raised error=>exact .inr (.inl rfl)
 | load duplicate=>
  dsimp only
  split_ifs
  · exact .inr (.inr (.inl ⟨duplicate,rfl,rfl⟩))
  · exact .inr (.inl rfl)
 | write operationId content argument=>
  dsimp only
  split_ifs
  · exact .inr (.inr (.inr ⟨operationId,content,argument,rfl,rfl⟩))
  · exact .inr (.inl rfl)

lemma Hosted.settle (hosted:Hosted h) (accepted:Bool) (hobject:h.objects g=some b)
  (howner:outcome.behavior.internalContext=b.internalContext):
  Hosted (h.settle settings g outcome accepted):=by
 have hrecord:=hosted.record hobject howner
 rcases settle_cases settings h g outcome accepted with
  ⟨_,heq⟩ | heq | ⟨_,_,heq⟩|⟨_,_,_,_,heq⟩
 · rwa [heq]
 · rw [heq]
   exact hrecord.move (moves_fail hrecord _)
 · rw [heq]
   exact ⟨hrecord.installed,hrecord.fresh⟩
 · rw [heq]
   exact ⟨hrecord.installed,hrecord.fresh⟩

lemma Hosted.construct (hosted:Hosted h) (a:A) (startup:Startup):
  Hosted (h.construct a startup).1:=by
 have hnone:=hosted.fresh h.nextGeneration le_rfl
 unfold Host.construct
 dsimp only
 split_ifs
 · refine ⟨fun other g hbehavior=>?_,fun g hge=>?_⟩
   · change (update h.actors a _ other).behavior=_ at hbehavior
     by_cases heq:other=a
     · subst heq
       rw [update_self] at hbehavior
       obtain rfl:=Installed.durable.inj hbehavior
       exact ⟨_,update_self ..,rfl⟩
     · rw [update_of_ne heq] at hbehavior
       obtain ⟨b,hobject,howner⟩:=hosted.installed other g hbehavior
       have hne:g≠h.nextGeneration:=by
        rintro rfl
        rw [hnone] at hobject
        cases hobject
       exact ⟨b,(update_of_ne hne ..).trans hobject,howner⟩
   · have hlt:h.nextGeneration<g:=hge
     exact (update_of_ne hlt.ne' ..).trans (hosted.fresh g hlt.le)
 · refine ⟨fun other g hbehavior=>?_,fun g hge=>hosted.fresh g (Nat.le_of_succ_le hge)⟩
   refine hosted.installed other g ?_
   change (update h.actors a _ other).behavior=_ at hbehavior
   by_cases heq:other=a
   · subst heq
     rwa [update_self] at hbehavior
   · rwa [update_of_ne heq] at hbehavior

omit [DecidableEq A] in
lemma Hosted.withInflight (hosted:Hosted h) (inflight:List (ℕ×Operation S)):
  Hosted { h with inflight:=inflight }:=⟨hosted.installed,hosted.fresh⟩

lemma Hosted.lifecycle (hosted:Hosted h) (hlife:Lifecycle h t):Hosted t:=by
 cases hlife with
 | move hmove=>exact hosted.move hmove
 | construct startup _ _=>exact hosted.construct _ startup

lemma Hosted.change (hosted:Hosted h) (hchange:Change settings entity h t):Hosted t:=by
 cases hchange with
 | lifecycle hlife=>exact hosted.lifecycle hlife
 | invoked accepted _ _ hobject=>
  exact hosted.settle accepted hobject (receive_cases ..).keeps.1
 | delivered accepted _ hobject _ houtcome=>
  exact (hosted.withInflight _).settle accepted hobject houtcome.completion.keeps.1
 | dropped _ _ _ | answered _ _ | committed _ _ _
 | maintained _ _=>exact ⟨hosted.installed,hosted.fresh⟩

lemma reachable_hosted (hreachable:(changeSystem settings entity).Reachable h):Hosted h:=by
 refine hreachable.invariant ?_ fun s _ t _ hs hchange=>hs.change hchange
 rintro s ⟨readModel,rfl⟩
 exact ⟨fun _ _=>nofun,fun _ _=>rfl⟩

/-! The steps of the actors are runs of changes. -/

lemma lives_fail (hosted:Hosted h) (a:A):Lives h (h.fail a):=
 lives_move (moves_fail hosted a)

lemma lives_finishStart (hending:¬Ending (h.actors a)):Lives h (h.finishStart a):=
 lives_move (moves_setContext (fun hstopped=>absurd (.inr hstopped) hending)
  fun hstopping=>absurd (.inl hstopping) hending)

lemma construct_ending (startup:Startup) (hending:¬Ending (h.actors a)):
  ¬Ending ((h.construct a startup).1.actors a):=by
 have hactor:((h.construct a startup).1.actors a).context.state=(h.actors a).context.state:=by
  unfold Host.construct
  dsimp only
  split_ifs
  · change (update h.actors a _ a).context.state=_
    rw [update_self]
  · change (update h.actors a _ a).context.state=_
    rw [update_self]
 unfold Ending
 rwa [hactor]

lemma lives_materializeBehaviour (startup:Startup) (hosted:Hosted h)
  (hending:¬Ending (h.actors a)):Lives h (h.materializeBehaviour a startup).1 ∧
   Hosted (h.materializeBehaviour a startup).1 ∧
   ¬Ending ((h.materializeBehaviour a startup).1.actors a):=by
 unfold Host.materializeBehaviour
 split_ifs with hdeferred
 · exact ⟨.single (.construct startup hdeferred hending),hosted.construct a startup,
    construct_ending startup hending⟩
 · exact ⟨.refl,hosted,hending⟩

lemma lives_preStart (startup:Startup) (raises:Bool) (hosted:Hosted h):
  Lives h (h.preStart a startup raises):=by
 unfold Host.preStart
 by_cases hstarting:(h.actors a).context.state=.starting
 · rw [if_pos hstarting]
   obtain ⟨hruns,hhosted,hafter⟩:=
    lives_materializeBehaviour startup hosted (not_ending hstarting)
   dsimp only
   split_ifs
   · exact hruns.trans (lives_fail hhosted a)
   · exact hruns.trans (lives_finishStart hafter)
 · rw [if_neg hstarting]
   exact .refl

lemma lives_completeRestart (startup:Startup) (raises:Bool) (hosted:Hosted h)
  (hending:¬Ending (h.actors a)):Lives h (h.completeRestart a startup raises):=by
 have hreset:Moves a h (h.setActor a
  ⟨{ (h.actors a).context with userMessagesSuspended:=false },.deferred⟩):=
  moves_setActor (.inr rfl) (.inr fun g hbehavior=>(by cases hbehavior)) id
 have hending':¬Ending ((h.setActor a
  ⟨{ (h.actors a).context with userMessagesSuspended:=false },.deferred⟩).actors a):=by
  rwa [setActor_self]
 obtain ⟨hruns,hhosted,hafter⟩:=
  lives_materializeBehaviour startup (hosted.move hreset) hending'
 have hruns':=(lives_move hreset).trans hruns
 unfold Host.completeRestart
 dsimp only
 split_ifs
 · exact hruns'.trans (lives_move (moves_setActor (.inr rfl)
    (.inr fun g hbehavior=>(by cases hbehavior)) fun hbefore=>absurd hbefore hafter))
 · exact hruns'.trans (lives_finishStart hafter)

lemma lives_completeStop (hosted:Hosted h) (a:A):Lives h (h.completeStop a):=
 lives_move (moves_completeStop hosted a)

lemma lives_beginStop (noChildren:Bool) (hosted:Hosted h)
  (hstopped:(h.actors a).context.state≠.stopped):Lives h (h.beginStop a noChildren):=by
 unfold Host.beginStop
 dsimp only
 by_cases hstopping:(h.actors a).context.state=.stopping
 · rw [if_pos hstopping]
   split_ifs
   · exact lives_completeStop hosted a
   · exact .refl
 · rw [if_neg hstopping]
   have hmove:Moves a h (h.setContext a
    { (h.actors a).context with state:=.stopping,restartPending:=false }):=
    moves_setContext (fun hbefore=>absurd hbefore hstopped) fun _=>.inl rfl
   split_ifs
   · exact (lives_move hmove).trans (lives_completeStop (hosted.move hmove) a)
   · exact lives_move hmove

lemma lives_beginRestart (noChildren:Bool) (startup:Startup) (raises:Bool)
  (hosted:Hosted h) (hending:¬Ending (h.actors a)):
  Lives h (h.beginRestart a noChildren startup raises):=by
 unfold Host.beginRestart
 dsimp only
 have hmove:Moves a h (h.setContext a
  { (h.actors a).context with state:=.starting,restartPending:=true }):=
  moves_setContext (fun hstopped=>absurd (.inr hstopped) hending)
   fun hstopping=>absurd (.inl hstopping) hending
 split_ifs
 · refine (lives_move hmove).trans (lives_completeRestart startup raises (hosted.move hmove) ?_)
   rw [Host.setContext,setActor_self]
   exact not_ending rfl
 · exact lives_move hmove

lemma lives_invokeSystem (message:SystemMessage) (noChildren raises:Bool)
  (startup:Startup) (hosted:Hosted h):Lives h
   (h.invokeSystem a message noChildren raises startup):=by
 unfold Host.invokeSystem
 dsimp only
 by_cases hstopped:(h.actors a).context.state=.stopped
 · rw [if_pos hstopped]
   exact .refl
 · rw [if_neg hstopped]
   have hsignal:Lives h
    (if raises=true then h.fail a else h):=by
    split_ifs
    · exact lives_fail hosted a
    · exact .refl
   cases message with
   | preStart=>exact lives_preStart startup raises hosted
   | stop | terminate=>exact lives_beginStop noChildren hosted hstopped
   | terminated=>
    dsimp only
    split_ifs with hstop hrestart
    · exact lives_completeStop hosted a
    · refine lives_completeRestart startup raises hosted ?_
      rintro (hstopping|hnow)
      · exact hstop ⟨hstopping,hrestart.2⟩
      · exact hstopped hnow
    · exact .refl
   | restart=>
    dsimp only
    split_ifs with hstopping
    · exact .refl
    · refine lives_beginRestart noChildren startup raises hosted ?_
      rintro (hnow|hnow)
      · exact hstopping hnow
      · exact hstopped hnow
   | failed | control | signal=>exact hsignal

lemma invoke_cases (settings:Settings) (entity:Entity S) (h:Host R S K A) (a:A)
  (handleCommand:S → Except String (DurableEffect S K)) (callbackRaises:ℕ → Bool)
  (accepted:Bool):h.invoke settings entity a handleCommand callbackRaises accepted=h ∨
  h.invoke settings entity a handleCommand callbackRaises accepted=h.fail a ∨
  ∃g b,(h.actors a).context.state=.running ∧ (h.actors a).behavior=.durable g ∧
   h.objects g=some b ∧
   h.invoke settings entity a handleCommand callbackRaises accepted=h.settle settings g
    (b.receive entity false g h.trace.length handleCommand callbackRaises) accepted:=by
 unfold Host.invoke
 dsimp only
 split_ifs with hstate hsuspended
 · exact .inl rfl
 · exact .inr (.inl rfl)
 · split
   · rename_i g hbehavior
     split
     · exact .inl rfl
     · rename_i b hobject
       rw [Bool.eq_false_of_not_eq_true hsuspended]
       exact .inr (.inr ⟨g,b,not_not.mp hstate,hbehavior,hobject,rfl⟩)
   · exact .inl rfl

lemma runs_invoke {handleCommand:S → Except String (DurableEffect S K)}
  {callbackRaises:ℕ → Bool} (accepted:Bool) (hosted:Hosted h):
  (changeSystem settings entity).Runs h
   (h.invoke settings entity a handleCommand callbackRaises accepted):=by
 rcases invoke_cases settings entity h a handleCommand callbackRaises accepted with
  heq | heq | ⟨g,b,hstate,hbehavior,hobject,heq⟩
 · rw [heq]
   exact .refl
 · rw [heq]
   exact runs_lives (lives_fail hosted a)
 · rw [heq]
   exact runs_change (.invoked accepted hstate hbehavior hobject)

lemma deliver_cases (settings:Settings) (entity:Entity S) (h:Host R S K A) (g:ℕ)
  (hookRaises:Bool) (callbackRaises:ℕ → Bool) (accepted:Bool) (hcompleted:Completed operation):
  ((∀b,h.objects g=some b → (h.actors b.internalContext).live≠some g) ∧
   h.deliver settings entity g operation hookRaises callbackRaises accepted=h) ∨
  ∃b suspended outcome,h.objects g=some b ∧ (h.actors b.internalContext).live=some g ∧
   Completes entity b suspended operation outcome ∧
   h.deliver settings entity g operation hookRaises callbackRaises accepted =
    h.settle settings g outcome accepted:=by
 unfold Host.deliver
 cases hobject:h.objects g with
 | none=>exact .inl ⟨fun b hsome=>(by cases hsome),rfl⟩
 | some b=>
  dsimp only
  split_ifs with hlive
  · refine .inr ⟨b,(h.actors b.internalContext).context.userMessagesSuspended,?_⟩
    cases operation with
    | load id duplicate | write request=>exact hcompleted.elim
    | loaded duplicate loaded=>
     exact ⟨_,rfl,hlive,.loaded duplicate loaded hookRaises callbackRaises,rfl⟩
    | wrote written=>exact ⟨_,rfl,hlive,.wrote written callbackRaises,rfl⟩
  · refine .inl ⟨fun b' hsome=>?_,rfl⟩
    cases hsome
    exact hlive

lemma runs_deliver {before after:List (ℕ×Operation S)}
  (hookRaises:Bool) (callbackRaises:ℕ → Bool) (accepted:Bool)
  (hin:h.inflight=before++(g,operation)::after) (hcompleted:Completed operation):
  (changeSystem settings entity).Runs h ({ h with inflight:=before++after }.deliver settings
   entity g operation hookRaises callbackRaises accepted):=by
 rcases deliver_cases settings entity { h with inflight:=before++after } g hookRaises
  callbackRaises accepted hcompleted with ⟨hdead,heq⟩|⟨b,suspended,outcome,hobject,hlive,
   houtcome,heq⟩
 · rw [heq]
   exact runs_change (.dropped hin hcompleted hdead)
 · rw [heq]
   exact runs_change (.delivered accepted hin hobject hlive houtcome)

lemma lives_start (mailboxFails:Bool):Lives h (h.start a mailboxFails):=by
 unfold Host.start
 dsimp only
 by_cases hnew:(h.actors a).context.state=.new
 · rw [if_pos hnew]
   refine lives_move (moves_setContext (fun hstopped=>?_) fun hstopping=>?_)
   · rw [hnew] at hstopped
     cases hstopped
   · rw [hnew] at hstopping
     cases hstopping
 · rw [if_neg hnew]
   exact .refl

lemma runs_step {event:Event R S K A} (hosted:Hosted h)
  (hstep:(hostSystem settings entity).step h event t):
  (changeSystem settings entity).Runs h t:=by
 cases event with
 | start a mailboxFails=>
  obtain rfl:=hstep
  exact runs_lives (lives_start mailboxFails)
 | abortStart a=>
  obtain rfl:=hstep
  exact runs_lives (lives_move (moves_abortStart hosted a))
 | invoke a handleCommand callbackRaises accepted=>
  obtain rfl:=hstep
  exact runs_invoke accepted hosted
 | invokeSystem a message noChildren raises startup=>
  obtain rfl:=hstep
  exact runs_lives (lives_invokeSystem message noChildren raises startup hosted)
 | runLoad g result=>
  obtain ⟨before,after,id,duplicate,hin,hresult,rfl⟩:=hstep
  exact runs_change (.answered hin (.loaded hresult))
 | commitWrite g committedAtNs learned=>
  obtain ⟨before,after,request,result,db,hin,hmutate,rfl⟩:=hstep
  exact runs_change (.committed learned hin hmutate)
 | abortWrite g error=>
  obtain ⟨before,after,request,hin,rfl⟩:=hstep
  exact runs_change (.answered hin (.aborted request error))
 | deliver g hookRaises callbackRaises accepted=>
  obtain ⟨before,after,operation,hin,hcompleted,rfl⟩:=hstep
  exact runs_deliver hookRaises callbackRaises accepted hin hcompleted
 | maintain transaction=>
  obtain ⟨hkind,reply,db,hrun,rfl⟩:=hstep
  exact runs_change (.maintained hkind hrun)

lemma reachable_changes (hreachable:(hostSystem settings entity).Reachable h):
  (changeSystem settings entity).Reachable h:=by
 refine hreachable.simulates (f := id) (fun _ hinit=>?_) fun _ _ _ _ hreached hstep=>?_
 · exact hinit
 · exact runs_step (reachable_hosted hreached) hstep

end

end Movie.DurableActorChanges
