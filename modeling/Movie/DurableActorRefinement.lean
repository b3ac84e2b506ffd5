import Movie.DurableActorChanges

/-!
# Hosted behaviours refine behaviours

Without its callbacks, and as long as its actor may call it, a hosted behaviour is a
behaviour of `DurableBehavior`; every change of the actors is a run of those behaviours.
-/
namespace Movie.DurableActorRefinement

open Function
open ActorContext (ActorState LocalActorContext SystemMessage)
open DurableModel SQLiteStore DurableHistory SQLiteStoreInvariant Reachability DurableActor
open DurableActorChanges
open DurableBehavior hiding DurableEffect PendingEffect Event
open DurableNoLostUpdate (Invariant)

universe u

variable {R:Type u} {S K A:Type}

section

def forgetPending (pending:PendingEffect S K):DurableBehavior.PendingEffect S:=
 ⟨pending.state,pending.stop⟩

def forgetEffect (effect:DurableEffect S K):DurableBehavior.DurableEffect S:=
 match effect.kind with
 | .none=>.none effect.stop
 | .persist state operationId=>.persist state operationId effect.stop
 | .delete operationId=>.delete operationId effect.stop

def forget (b:DurableStateBehavior S K A):Behavior S:=
 ⟨b.persistenceId,b.phase,b.revision,b.state,b.pending.map forgetPending⟩

def result (outcome:Outcome S K A):Behavior S×Reaction S:=
 (forget outcome.behavior,outcome.reaction)

variable (entity:Entity S) (b:DurableStateBehavior S K A) (suspended:Bool)
 (callbackRaises:ℕ → Bool)

lemma finishPendingEffect_refines (codec:StateCodec S) (applyCandidate:Bool):
  ∃callbacksRaise,
   result (b.finishPendingEffect codec suspended applyCandidate callbackRaises) =
    (forget b).finishPendingEffect applyCandidate callbacksRaise:=by
 obtain ⟨context,id,phase,revision,state,pending⟩:=b
 cases pending with
 | none=>exact ⟨false,rfl⟩
 | some pending=>
  refine ⟨(runCallbacks codec (if applyCandidate then some pending.state else state)
   callbackRaises pending.callbacks).2,?_⟩
  unfold DurableStateBehavior.finishPendingEffect Behavior.finishPendingEffect forget
  dsimp only [Option.map_some,forgetPending]
  split_ifs <;> rfl

lemma completeRecovery_refines (loaded:Except StoreError (Option DurableStateRecord))
  (duplicate hookRaises:Bool):∃callbacksRaise,
   result (b.completeRecovery entity suspended loaded duplicate hookRaises callbackRaises) =
    (forget b).completeRecovery entity loaded duplicate hookRaises callbacksRaise:=by
 unfold DurableStateBehavior.completeRecovery Behavior.completeRecovery
 cases loaded with
 | error e=>exact ⟨false,rfl⟩
 | ok record=>
  dsimp only
  cases Behavior.recoveredState entity record with
  | error e=>exact ⟨false,rfl⟩
  | ok recovered=>
   dsimp only
   split_ifs
   · exact ⟨false,rfl⟩
   · exact finishPendingEffect_refines
      { b with state:=some recovered.1,revision:=recovered.2 } suspended callbackRaises
      entity.codec false
   · exact ⟨false,rfl⟩

lemma completeWrite_refines (written:Except StoreError WriteResult):∃callbacksRaise,
  result (b.completeWrite entity.codec suspended written callbackRaises) =
   (forget b).completeWrite written callbacksRaise:=by
 unfold DurableStateBehavior.completeWrite Behavior.completeWrite
 cases written with
 | error e=>exact ⟨false,rfl⟩
 | ok written=>
  dsimp only
  rw [show (forget b).revision=b.revision from rfl]
  split_ifs
  · exact ⟨false,rfl⟩
  · exact ⟨false,rfl⟩
  · exact finishPendingEffect_refines { b with revision:=written.revision } suspended
     callbackRaises entity.codec true

lemma processCommand_refines (generation number:ℕ)
  (handleCommand:S → Except String (DurableEffect S K)):∃callbacksRaise,
   result (b.processCommand entity suspended generation number handleCommand callbackRaises) =
    (forget b).processCommand entity (fun state=>(handleCommand state).map forgetEffect)
     callbacksRaise:=by
 obtain ⟨context,id,phase,revision,state,pending⟩:=b
 unfold DurableStateBehavior.processCommand Behavior.processCommand
 cases state with
 | none=>exact ⟨false,rfl⟩
 | some current=>
  dsimp only [forget]
  cases Behavior.copyState entity.codec current with
  | error e=>exact ⟨false,rfl⟩
  | ok state=>
   dsimp only
   cases handleCommand state with
   | error e=>exact ⟨false,rfl⟩
   | ok effect=>
    obtain ⟨kind,callbacks,stop⟩:=effect
    unfold DurableStateBehavior.applyEffect
    dsimp only [Except.map,forgetEffect]
    cases kind with
    | none=>
     refine ⟨(runCallbacks entity.codec (some current) callbackRaises callbacks).2,?_⟩
     dsimp only
     split_ifs <;> rfl
    | persist next operationId=>
     refine ⟨false,?_⟩
     dsimp only
     cases entity.codec.encode next with
     | error e=>rfl
     | ok encoded=>
      dsimp only
      cases entity.codec.decode encoded <;> rfl
    | delete operationId=>
     refine ⟨false,?_⟩
     dsimp only
     cases Behavior.copyState entity.codec entity.emptyState <;> rfl

lemma receive_refines (generation number:ℕ)
  (handleCommand:S → Except String (DurableEffect S K)):∃callbacksRaise,
   result (b.receive entity suspended generation number handleCommand callbackRaises) =
    (forget b).receive entity (fun state=>(handleCommand state).map forgetEffect)
     callbacksRaise:=by
 unfold DurableStateBehavior.receive Behavior.receive
 rw [show (forget b).phase=b.phase from rfl]
 split_ifs
 · exact ⟨false,rfl⟩
 · exact processCommand_refines entity b suspended callbackRaises generation number handleCommand

end

section

def world (h:Host R S K A):World R S where
 db:=h.db
 commits:=h.commits
 behaviors g:=(h.objects g).bind fun b=>
  if (h.actors b.internalContext).live=some g then some (forget b) else none
 nextGeneration:=h.nextGeneration
 inflight:=h.inflight

variable {h t:Host R S K A} {a:A} {g:ℕ} {b:DurableStateBehavior S K A}

lemma world_behaviors_live (hobject:h.objects g=some b)
  (hlive:(h.actors b.internalContext).live=some g):
  (world h).behaviors g=some (forget b):=by
 change (h.objects g).bind _=_
 rw [hobject,Option.bind_some,if_pos hlive]

lemma world_behaviors_dead (hdead:∀b,h.objects g=some b → (h.actors b.internalContext).live≠some g):
  (world h).behaviors g=none:=by
 change (h.objects g).bind _=_
 cases hobject:h.objects g with
 | none=>rfl
 | some b=>rw [Option.bind_some,if_neg (hdead b hobject)]

lemma world_behaviors_congr (hobject:t.objects g=h.objects g)
  (hlive:∀b,h.objects g=some b → ((t.actors b.internalContext).live=some g ↔
   (h.actors b.internalContext).live=some g)):
  (world t).behaviors g=(world h).behaviors g:=by
 change (t.objects g).bind _=(h.objects g).bind _
 rw [hobject]
 cases hsome:h.objects g with
 | none=>rfl
 | some b=>
  rw [Option.bind_some,Option.bind_some]
  exact if_congr (hlive b hsome) rfl rfl

end

section

variable [DecidableEq A] {settings:Settings} {entity:Entity S} {h t:Host R S K A} {a:A}

lemma world_ext {w w':World R S} (hdb:w.db=w'.db) (hcommits:w.commits=w'.commits)
  (hbehaviors:∀g,w.behaviors g=w'.behaviors g)
  (hnext:w.nextGeneration=w'.nextGeneration) (hinflight:w.inflight=w'.inflight):
  w=w':=by
 obtain ⟨db,commits,behaviors,nextGeneration,inflight⟩:=w
 obtain rfl:behaviors=w'.behaviors:=funext hbehaviors
 subst hdb hcommits hnext hinflight
 rfl

lemma setBehavior_self (w:World R S) (g:ℕ) (b:Option (Behavior S)):
  (w.setBehavior g b).behaviors g=b:=update_self ..

lemma setBehavior_of_ne (w:World R S) {g g':ℕ} (b:Option (Behavior S)) (hne:g'≠g):
  (w.setBehavior g b).behaviors g'=w.behaviors g':=update_of_ne hne ..

lemma moves_behaviors (hmove:Moves a h t) {g:ℕ}
  (hkept:(t.actors a).live=some g ↔ (h.actors a).live=some g):
  (world t).behaviors g=(world h).behaviors g:=by
 have hlive:∀b:DurableStateBehavior S K A,((t.actors b.internalContext).live=some g ↔
  (h.actors b.internalContext).live=some g):=by
  intro b
  by_cases heq:b.internalContext=a
  · rwa [heq]
  · rw [hmove.others _ heq]
 rcases hmove.objects g with hsame|⟨b,hobject,howner,hdead,hstopped⟩
 · exact world_behaviors_congr hsame fun b _=>hlive b
 · rw [world_behaviors_dead,world_behaviors_dead]
   · intro b' hobject'
     obtain rfl:=Option.some.inj (hobject.symm.trans hobject')
     rw [howner]
     exact fun hbefore=>hdead (hkept.mpr hbefore)
   · intro b' hobject'
     obtain rfl:=Option.some.inj (hstopped.symm.trans hobject')
     rwa [howner]

lemma moves_retires (hosted:Hosted h) (hmove:Moves a h t) {g:ℕ}
  (hbefore:(h.actors a).live=some g) (hnone:(t.actors a).live=none):
  world t=(world h).setBehavior g none:=by
 obtain ⟨b,hobject,howner⟩:=hosted.installed a g (live_eq_some.mp hbefore).1
 refine world_ext hmove.db hmove.commits (fun g'=>?_) hmove.nextGeneration hmove.inflight
 by_cases hg:g'=g
 · subst hg
   rw [setBehavior_self]
   refine world_behaviors_dead fun b' hobject'=>?_
   have howner':b'.internalContext=a:=by
    rcases hmove.objects g' with hkeep|⟨b'',hobject'',howner'',_,hstopped⟩
    · obtain rfl:=Option.some.inj ((hkeep.symm.trans hobject').symm.trans hobject)
      exact howner
    · obtain rfl:=Option.some.inj (hstopped.symm.trans hobject')
      exact howner''
   rw [howner',hnone]
   exact nofun
 · rw [setBehavior_of_ne _ _ hg]
   refine moves_behaviors hmove ?_
   rw [hnone,hbefore,Option.some.injEq]
   exact ⟨nofun,fun heq=>absurd heq.symm hg⟩

lemma moves_simulates (hosted:Hosted h) (hmove:Moves a h t):
  (durableSystem settings entity).Runs (world h) (world t):=by
 have hstay:(t.actors a).live=(h.actors a).live →
  (durableSystem settings entity).Runs (world h) (world t):=by
  intro hsame
  have heq:world t=world h:=world_ext hmove.db hmove.commits
   (fun g=>moves_behaviors hmove (by rw [hsame])) hmove.nextGeneration hmove.inflight
  rw [heq]
  exact .refl
 rcases hmove.live with hsame|hnone
 · exact hstay hsame
 · cases hbefore:(h.actors a).live with
   | none=>exact hstay (hnone.trans hbefore.symm)
   | some g=>
    obtain ⟨b,hobject,howner⟩:=hosted.installed a g (live_eq_some.mp hbefore).1
    refine .single ⟨.replace g,?_,moves_retires hosted hmove hbefore hnone⟩
    rw [world_behaviors_live hobject (howner▸hbefore)]
    rfl

lemma construct_of_accepted {startup:Startup} (haccepted:startup.accepted=true):
  (h.construct a startup).1={ h with
   nextGeneration:=h.nextGeneration+1
   objects:=update h.objects h.nextGeneration (some (.create a startup.id))
   actors:=update h.actors a
    ⟨{ (h.actors a).context with userMessagesSuspended:=true },.durable h.nextGeneration⟩
   inflight:=h.inflight++[(h.nextGeneration,.load startup.id false)] }:=by
 unfold Host.construct
 dsimp only
 rw [if_pos haccepted]
 rfl

lemma construct_of_refused {startup:Startup} (hrefused:startup.accepted=false):
  (h.construct a startup).1={ h with
   nextGeneration:=h.nextGeneration+1
   actors:=update h.actors a { h.actors a with
    context:={ (h.actors a).context with userMessagesSuspended:=true } } }:=by
 unfold Host.construct
 dsimp only
 rw [if_neg (by rw [hrefused]; exact Bool.false_ne_true)]
 rfl

lemma live_update_iff {actor:Actor} {g:ℕ} (b:DurableStateBehavior S K A)
  (hactor:actor.live=some g ↔ (h.actors a).live=some g):
  (update h.actors a actor b.internalContext).live=some g ↔
   (h.actors b.internalContext).live=some g:=by
 by_cases heq:b.internalContext=a
 · rw [heq,update_self]
   exact hactor
 · rw [update_of_ne heq]

lemma construct_simulates (hosted:Hosted h) (startup:Startup)
  (hdeferred:(h.actors a).behavior=.deferred) (hstopped:(h.actors a).context.state≠.stopped):
  (durableSystem settings entity).Runs (world h) (world (h.construct a startup).1):=by
 have hbefore:(h.actors a).live=none:=by
  unfold Actor.live
  rw [hdeferred]
 refine .single ⟨.create startup.id ⟨startup.accepted,false⟩,?_⟩
 change world (h.construct a startup).1=World.react settings
  { world h with nextGeneration:=h.nextGeneration+1 } h.nextGeneration
  ((Behavior.create startup.id).beginRecovery false) ⟨startup.accepted,false⟩
 cases haccepted:startup.accepted with
 | true=>
  rw [construct_of_accepted haccepted]
  refine world_ext rfl rfl (fun g=>?_) rfl rfl
  change _=(World.setBehavior _ h.nextGeneration _).behaviors g
  by_cases hg:g=h.nextGeneration
  · subst hg
    rw [setBehavior_self]
    refine world_behaviors_live (b := .create a startup.id) (update_self ..) ?_
    change (update h.actors a _ a).live=_
    rw [update_self,live_eq_some]
    exact ⟨rfl,hstopped⟩
  · rw [setBehavior_of_ne _ _ hg]
    refine world_behaviors_congr (update_of_ne hg ..) fun b _=>live_update_iff b ?_
    rw [hbefore,live_eq_some]
    exact ⟨fun hlive=>absurd (Installed.durable.inj hlive.1).symm hg,
     nofun⟩
 | false=>
  rw [construct_of_refused haccepted]
  refine world_ext rfl rfl (fun g=>?_) rfl rfl
  change _=(World.setBehavior _ h.nextGeneration none).behaviors g
  by_cases hg:g=h.nextGeneration
  · subst hg
    rw [setBehavior_self]
    refine world_behaviors_dead fun b hobject=>?_
    rw [hosted.fresh _ le_rfl] at hobject
    cases hobject
  · rw [setBehavior_of_ne _ _ hg]
    exact world_behaviors_congr rfl fun b _=>live_update_iff b Iff.rfl

section

variable {g:ℕ} {outcome:Outcome S K A}

lemma record_actor : (h.record g outcome).actors outcome.behavior.internalContext =
  { h.actors outcome.behavior.internalContext with
    context:={ (h.actors outcome.behavior.internalContext).context with
     userMessagesSuspended:=outcome.suspended } }:=
 update_self ..

lemma world_record (hlive:(h.actors outcome.behavior.internalContext).live=some g):
  world (h.record g outcome) =
   (world h).setBehavior g (some (forget outcome.behavior)):=by
 refine world_ext rfl rfl (fun g'=>?_) rfl rfl
 by_cases hg:g'=g
 · subst hg
   rw [setBehavior_self]
   refine world_behaviors_live (update_self ..) ?_
   rw [record_actor]
   exact hlive
 · rw [setBehavior_of_ne _ _ hg]
   exact world_behaviors_congr (update_of_ne hg ..) fun b _=>live_update_iff b Iff.rfl

lemma fail_live (hstopping:(h.actors a).context.state≠.stopping):
  ((h.fail a).actors a).live=none:=by
 unfold Host.fail
 dsimp only
 split_ifs with hending
 · unfold Actor.live
   split
   · rw [if_pos (hending.resolve_left hstopping)]
   · rfl
 · rw [stopBehavior_actors,setActor_self]
   rfl

lemma fail_of_stopping (hstopping:(h.actors a).context.state=.stopping):h.fail a=h:=by
 unfold Host.fail
 dsimp only
 rw [if_pos (.inl hstopping)]

lemma world_settle (hosted:Hosted h) {b:DurableStateBehavior S K A} (accepted:Bool)
  (hobject:h.objects g=some b) (howner:outcome.behavior.internalContext=b.internalContext)
  (hlive:(h.actors b.internalContext).live=some g):
  world (h.settle settings g outcome accepted)=(world h).react settings g (result outcome)
   ⟨accepted,decide ((h.actors b.internalContext).context.state=.stopping)⟩:=by
 rw [←howner] at hlive ⊢
 have hrecord:=world_record hlive
 have hfail:world ((h.record g outcome).fail outcome.behavior.internalContext) =
  (world h).fail g (forget outcome.behavior) ⟨accepted,
   decide ((h.actors outcome.behavior.internalContext).context.state=.stopping)⟩:=by
  have hhosted:=hosted.record hobject howner
  unfold World.fail
  by_cases hstopping:(h.actors outcome.behavior.internalContext).context.state=.stopping
  · rw [decide_eq_true hstopping,if_pos rfl,fail_of_stopping (by rwa [record_actor])]
    exact hrecord
  · rw [decide_eq_false hstopping,if_neg Bool.false_ne_true,
     moves_retires hhosted (moves_fail hhosted _) (by rwa [record_actor])
      (fail_live (by rwa [record_actor])),hrecord]
    refine world_ext rfl rfl (fun g'=>?_) rfl rfl
    by_cases hg:g'=g
    · subst hg
      rw [setBehavior_self,setBehavior_self]
    · rw [setBehavior_of_ne _ _ hg,setBehavior_of_ne _ _ hg,setBehavior_of_ne _ _ hg]
 unfold Host.settle World.react result
 dsimp only
 cases outcome.reaction with
 | done=>exact hrecord
 | raised error=>exact hfail
 | load duplicate | write operationId content argument=>
  dsimp only
  split_ifs
  · exact congrArg (World.submit · g _) hrecord
  · exact hfail

end

lemma invoked_simulates (hosted:Hosted h) {g:ℕ} {b:DurableStateBehavior S K A}
  {handleCommand:S → Except String (DurableEffect S K)} {callbackRaises:ℕ → Bool}
  (accepted:Bool) (hstate:(h.actors a).context.state=.running)
  (hbehavior:(h.actors a).behavior=.durable g) (hobject:h.objects g=some b):
  (durableSystem settings entity).Runs (world h) (world (h.settle settings g
   (b.receive entity false g h.trace.length handleCommand callbackRaises) accepted)):=by
 have howner:=hosted.owner hbehavior hobject
 have hlive:(h.actors b.internalContext).live=some g:=by
  rw [howner,live_eq_some,hstate]
  exact ⟨hbehavior,nofun⟩
 obtain ⟨callbacksRaise,hreceive⟩:=
  receive_refines entity b false callbackRaises g h.trace.length handleCommand
 refine .single ⟨.command g (fun state=>(handleCommand state).map forgetEffect) callbacksRaise
  ⟨accepted,decide ((h.actors b.internalContext).context.state=.stopping)⟩,forget b,
  world_behaviors_live hobject hlive,?_⟩
 rw [world_settle hosted accepted hobject (receive_cases ..).keeps.1 hlive,hreceive]

lemma delivered_simulates (hosted:Hosted h) {before after:List (ℕ×Operation S)} {g:ℕ}
  {operation:Operation S} {b:DurableStateBehavior S K A} {suspended:Bool}
  {outcome:Outcome S K A} (accepted:Bool)
  (hin:h.inflight=before++(g,operation)::after) (hobject:h.objects g=some b)
  (hlive:(h.actors b.internalContext).live=some g)
  (houtcome:Completes entity b suspended operation outcome):
  (durableSystem settings entity).Runs (world h)
   (world ({ h with inflight:=before++after }.settle settings g outcome accepted)):=by
 have hbehavior:=world_behaviors_live hobject hlive
 have hsettle:world ({ h with inflight:=before++after }.settle settings g outcome
  accepted)=World.react settings { world h with inflight:=before++after } g
   (result outcome)
   ⟨accepted,decide ((h.actors b.internalContext).context.state=.stopping)⟩:=
  world_settle (hosted.withInflight (before++after)) accepted hobject
   houtcome.completion.keeps.1 hlive
 rw [hsettle]
 cases houtcome with
 | loaded duplicate loaded hookRaises callbackRaises=>
  obtain ⟨callbacksRaise,hrecovery⟩:=completeRecovery_refines entity b suspended
   callbackRaises loaded duplicate hookRaises
  refine .single ⟨.deliver g hookRaises callbacksRaise ⟨accepted,
   decide ((h.actors b.internalContext).context.state=.stopping)⟩,before,after,_,hin,?_⟩
  rw [hbehavior,hrecovery]
 | wrote written callbackRaises=>
  obtain ⟨callbacksRaise,hwrite⟩:=
   completeWrite_refines entity b suspended callbackRaises written
  refine .single ⟨.deliver g false callbacksRaise ⟨accepted,
   decide ((h.actors b.internalContext).context.state=.stopping)⟩,before,after,_,hin,?_⟩
  rw [hbehavior,hwrite]

lemma change_simulates (hosted:Hosted h) (hchange:Change settings entity h t):
  (durableSystem settings entity).Runs (world h) (world t):=by
 cases hchange with
 | lifecycle hlife=>
  cases hlife with
  | move hmove=>exact moves_simulates hosted hmove
  | construct startup hdeferred hending=>
   exact construct_simulates hosted startup hdeferred fun hstopped=>hending (.inr hstopped)
 | invoked accepted hstate hbehavior hobject=>
  exact invoked_simulates hosted accepted hstate hbehavior hobject
 | delivered accepted hin hobject hlive houtcome=>
  exact delivered_simulates hosted accepted hin hobject hlive houtcome
 | dropped hin hcompleted hdead=>
  rename_i operation
  refine .single ⟨.deliver _ false false ⟨false,false⟩,_,_,operation,hin,?_⟩
  rw [world_behaviors_dead hdead]
  cases operation with
  | load id duplicate | write request=>exact hcompleted.elim
  | loaded duplicate loaded=>rfl
  | wrote written=>rfl
 | answered hin hnext=>
  cases hnext with
  | loaded hresult=>exact .single ⟨.runLoad _ _,_,_,_,_,hin,hresult,rfl⟩
  | aborted request error=>exact .single ⟨.abortWrite _ error,_,_,request,hin,rfl⟩
 | committed learned hin hmutate=>
  exact .single ⟨.commitWrite _ _ learned,_,_,_,_,_,hin,hmutate,rfl⟩
 | maintained hkind hrun=>exact .single ⟨.maintain _,hkind,_,_,hrun,rfl⟩

lemma reachable_world (hreachable:(changeSystem settings entity).Reachable h):
  (durableSystem settings entity).Reachable (world h):=by
 refine hreachable.simulates ?_ ?_
 · rintro s ⟨readModel,rfl⟩
   exact ⟨readModel,rfl⟩
 · intro s _ t hreached _ hchange
   exact change_simulates (reachable_hosted hreached) hchange

lemma reachable_invariant (hreachable:(changeSystem settings entity).Reachable h):
  Invariant settings entity (world h):=by
 refine (reachable_world hreachable).invariant (I := Invariant settings entity) ?_
  fun _ _ _ _ hs hstep=>hs.step hstep
 rintro _ ⟨readModel,rfl⟩
 exact .start

end

end Movie.DurableActorRefinement
