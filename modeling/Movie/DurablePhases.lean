import Movie.DurableTrace

/-!
# Phases of a Durable State behaviour

When commands are handled and callbacks run, what a completion may change, and that a stop effect is
the last one, for all interleavings.
-/
namespace Movie.DurablePhases

open Function
open ActorContext (ActorState)
open DurableModel SQLiteStore DurableHistory SQLiteStoreInvariant Reachability DurableActor
open DurableActorChanges DurableActorRefinement DurableTrace
open DurableBehavior hiding DurableEffect PendingEffect Event
open DurableNoLostUpdate (Invariant StateAt)

universe u

variable {R:Type u} {S K A:Type}

section

def Over (actor:Actor) (g:ℕ):Prop:=actor.live≠some g ∨ actor.context.state=.stopping

/-- No command will be handled by generation `g`: it waits for the write of its last effect, it
 has stopped, or its actor has given it up. -/
def Spent (h:Host R S K A) (g:ℕ):Prop:=
 ∀b,h.objects g=some b →
  (∃pending,b.pending=some pending ∧ pending.stop=true ∧ b.phase≠.running) ∨
  (b.phase=.stopping ∧ g∉h.inflight.map (·.1)) ∨ Over (h.actors b.internalContext) g

variable {h t:Host R S K A} {a:A} {g:ℕ} {b:DurableStateBehavior S K A}

lemma Over.move (hmove:Moves a h t) {other:A} (hover:Over (h.actors other) g):
  Over (t.actors other) g:=by
 by_cases heq:other=a
 · subst heq
   rcases hover with hlive|hstopping
   · exact .inl (hmove.live_ne hlive)
   · rcases hmove.ending (.inl hstopping) with hstill|hstopped
     · exact .inr hstill
     · exact .inl fun hlive=>(live_eq_some.mp hlive).2 hstopped
 · rwa [hmove.others other heq]

lemma Spent.move (hspent:Spent h g) (hmove:Moves a h t):Spent t g:=by
 intro b' hobject
 rcases hmove.objects g with hsame|⟨b,hbefore,howner,hdead,hstopped⟩
 · rcases hspent b' (hsame.symm.trans hobject) with hpending|hdone|hover
   · exact .inl hpending
   · exact .inr (.inl (by rwa [hmove.inflight]))
   · exact .inr (.inr (hover.move hmove))
 · obtain rfl:=Option.some.inj (hstopped.symm.trans hobject)
   refine .inr (.inr (.inl ?_))
   change (t.actors b.internalContext).live≠some g
   rwa [howner]

lemma Spent.withInflight (hspent:Spent h g) {inflight:List (ℕ×Operation S)}
  (hsub:g∈inflight.map (·.1) → g∈h.inflight.map (·.1)):
  Spent { h with inflight:=inflight } g:=by
 intro b hobject
 rcases hspent b hobject with hpending|hdone|hover
 · exact .inl hpending
 · exact .inr (.inl ⟨hdone.1,fun hmem=>hdone.2 (hsub hmem)⟩)
 · exact .inr (.inr hover)

variable [DecidableEq A] {outcome:Outcome S K A}

lemma Over.record {other:A} (hover:Over (h.actors other) g) {g':ℕ}:
  Over ((h.record g' outcome).actors other) g:=by
 change Over (update h.actors _ _ other) g
 by_cases heq:other=outcome.behavior.internalContext
 · subst heq
   rw [update_self]
   exact hover
 · rwa [update_of_ne heq]

lemma Spent.record_of_ne (hspent:Spent h g) {g':ℕ} (hne:g≠g'):
  Spent (h.record g' outcome) g:=by
 intro b hobject
 rw [show (h.record g' outcome).objects g=h.objects g from update_of_ne hne ..]
  at hobject
 rcases hspent b hobject with hpending|hdone|hover
 · exact .inl hpending
 · exact .inr (.inl hdone)
 · exact .inr (.inr hover.record)

lemma over_fail (h:Host R S K A) (a:A) (g:ℕ):Over ((h.fail a).actors a) g:=by
 by_cases hstopping:(h.actors a).context.state=.stopping
 · rw [fail_of_stopping hstopping]
   exact .inr hstopping
 · refine .inl ?_
   rw [fail_live hstopping]
   exact nofun

lemma Spent.settle_of_ne {settings:Settings} (hspent:Spent h g) (hosted:Hosted h) {g':ℕ}
  (hobject:h.objects g'=some b)
  (howner:outcome.behavior.internalContext=b.internalContext) (accepted:Bool)
  (hne:g≠g'):Spent (h.settle settings g' outcome accepted) g:=by
 have hrecord:Spent (h.record g' outcome) g:=hspent.record_of_ne hne
 have hsubmit:∀operation,Spent ((h.record g' outcome).submit g' operation) g:=by
  refine fun operation=>hrecord.withInflight fun hmem=>?_
  rw [List.map_append,List.mem_append] at hmem
  rcases hmem with hbefore|hnew
  · exact hbefore
  · exact absurd (List.mem_singleton.mp hnew) hne
 rcases settle_cases settings h g' outcome accepted with
  ⟨_,heq⟩ | heq | ⟨_,_,heq⟩|⟨_,_,_,_,heq⟩
 · rwa [heq]
 · rw [heq]
   exact hrecord.move (moves_fail (hosted.record hobject howner) _)
 · rw [heq]
   exact hsubmit _
 · rw [heq]
   exact hsubmit _

lemma spent_settle (settings:Settings) (hosted:Hosted h) (hobject:h.objects g=some b)
  (howner:outcome.behavior.internalContext=b.internalContext) (accepted:Bool)
  (hleft:(∃pending,outcome.behavior.pending=some pending ∧ pending.stop=true ∧
   outcome.behavior.phase≠.running) ∨
   (outcome.behavior.phase=.stopping ∧ outcome.reaction=.done ∧ g∉h.inflight.map (·.1)) ∨
   (∃error,outcome.reaction=.raised error) ∨
   (h.actors b.internalContext).context.state=.stopping):
  Spent (h.settle settings g outcome accepted) g:=by
 have hfail:Spent ((h.record g outcome).fail outcome.behavior.internalContext) g:=by
  intro b' hobject'
  refine .inr (.inr ?_)
  have howner':b'.internalContext=outcome.behavior.internalContext:=by
   have hmove:=moves_fail (hosted.record hobject howner) outcome.behavior.internalContext
   rcases hmove.objects g with hsame|⟨_,_,howner',_,hstopped⟩
   · rw [hsame,record_object] at hobject'
     rw [Option.some.inj hobject']
   · rw [←Option.some.inj (hstopped.symm.trans hobject')]
     exact howner'
  rw [howner']
  exact over_fail ..
 have hstopping:(h.actors b.internalContext).context.state=.stopping →
  Over ((h.record g outcome).actors outcome.behavior.internalContext) g:=by
  intro hstate
  rw [howner]
  exact Over.record (.inr hstate)
 have hsubmit:∀operation,outcome.reaction≠.done →
  (∀error,outcome.reaction≠.raised error) →
  Spent ((h.record g outcome).submit g operation) g:=by
  intro operation hdone hraised b' hobject'
  obtain rfl:=Option.some.inj (record_object.symm.trans hobject')
  rcases hleft with hpending|⟨_,hreaction,_⟩|⟨error,hreaction⟩|hstate
  · exact .inl hpending
  · exact absurd hreaction hdone
  · exact absurd hreaction (hraised error)
  · exact .inr (.inr (hstopping hstate))
 rcases settle_cases settings h g outcome accepted with
  ⟨hreaction,heq⟩ | heq | ⟨_,hreaction,heq⟩|⟨_,_,_,hreaction,heq⟩
 · rw [heq]
   intro b' hobject'
   obtain rfl:=Option.some.inj (record_object.symm.trans hobject')
   rcases hleft with hpending|⟨hphase,_,hidle⟩|⟨error,hraised⟩|hstate
   · exact .inl hpending
   · exact .inr (.inl ⟨hphase,hidle⟩)
   · rw [hreaction] at hraised
     cases hraised
   · exact .inr (.inr (hstopping hstate))
 · rwa [heq]
 · rw [heq]
   refine hsubmit _ ?_ fun error=>?_
   · rw [hreaction]
     exact nofun
   · rw [hreaction]
     exact nofun
 · rw [heq]
   refine hsubmit _ ?_ fun error=>?_
   · rw [hreaction]
     exact nofun
   · rw [hreaction]
     exact nofun

end

section

def Stopped (h:Host R S K A):Prop:=
 ∀n g id effect,Handled h.trace n g id effect → effect.stop=true →
  Spent h g ∧ ∀j m id' state revision returned,n<j →
   h.trace[j]? ≠ some (.handled m g id' state revision returned)

def NoCommand (moments:List (Moment S K)):Prop:=
 ∀n g id state revision returned,.handled n g id state revision returned∉moments

variable {h t:Host R S K A} {a:A} {g:ℕ} {b:DurableStateBehavior S K A}

lemma getElem?_append_cases {α:Type} {l m:List α} {i:ℕ} {x:α}
  (hget:(l++m)[i]? = some x):l[i]? = some x ∨ l.length ≤ i ∧ x∈m:=by
 rcases Nat.lt_or_ge i l.length with hlt|hge
 · exact .inl (by rwa [List.getElem?_append_left hlt] at hget)
 · rw [List.getElem?_append_right hge] at hget
   exact .inr ⟨hge,List.mem_of_getElem? hget⟩

lemma Stopped.quiet (stopped:Stopped h) (more:List (Moment S K))
  (htrace:t.trace=h.trace++more) (hmore:NoCommand more)
  (hkept:∀n g id effect,Handled h.trace n g id effect → Spent h g → Spent t g):Stopped t:=by
 intro n g id effect hhandled hstop
 have hbefore:Handled h.trace n g id effect:=by
  obtain ⟨state,revision,hget⟩:=hhandled
  rw [htrace] at hget
  rcases getElem?_append_cases hget with hold|⟨_,hnew⟩
  · exact ⟨state,revision,hold⟩
  · exact (hmore _ _ _ _ _ _ hnew).elim
 obtain ⟨hspent,hlast⟩:=stopped n g id effect hbefore hstop
 refine ⟨hkept n g id effect hbefore hspent,fun j m id' state revision returned hlt hget=>?_⟩
 rw [htrace] at hget
 rcases getElem?_append_cases hget with hold|⟨_,hnew⟩
 · exact hlast j m id' state revision returned hlt hold
 · exact hmore _ _ _ _ _ _ hnew

lemma Stopped.command (stopped:Stopped h) {id:PersistenceId} {state:S} {revision:ℕ}
  {returned:Option (DurableEffect S K)} (more:List (Moment S K)) (hmore:NoCommand more)
  (htrace:t.trace=h.trace ++ .handled h.trace.length g id state revision returned::more)
  (hactive:¬Spent h g) (hkept:∀g',g'≠g → Spent h g' → Spent t g')
  (hnew:∀effect,returned=some effect → effect.stop=true → Spent t g):Stopped t:=by
 have hcases:∀ {j m g' id' state' revision' returned'},
  t.trace[j]? = some (.handled m g' id' state' revision' returned') →
  h.trace[j]? = some (.handled m g' id' state' revision' returned') ∨
   m=h.trace.length ∧ g'=g ∧ returned'=returned ∧ h.trace.length≤j:=by
  intro j m g' id' state' revision' returned' hget
  rw [htrace] at hget
  rcases getElem?_append_cases hget with hold|⟨hge,hmem⟩
  · exact .inl hold
  · rcases List.mem_cons.mp hmem with heq|hcallback
    · injection heq with hm hg _ _ _ hreturned
      exact .inr ⟨hm,hg,hreturned,hge⟩
    · exact (hmore _ _ _ _ _ _ hcallback).elim
 intro n g' id' effect hhandled hstop
 obtain ⟨state',revision',hget⟩:=hhandled
 rcases hcases hget with hold|⟨hn,rfl,hreturned,hge⟩
 · obtain ⟨hspent,hlast⟩:=stopped n g' id' effect ⟨state',revision',hold⟩ hstop
   have hne:g'≠g:=by
    rintro rfl
    exact hactive hspent
   refine ⟨hkept g' hne hspent,fun j m id'' state'' revision'' returned'' hlt hget'=>?_⟩
   rcases hcases hget' with hold'|⟨_,heq,_⟩
   · exact hlast j m id'' state'' revision'' returned'' hlt hold'
   · exact hne heq
 · refine ⟨hnew effect hreturned.symm hstop,
    fun j m id'' state'' revision'' returned'' hlt hget'=>?_⟩
   -- The only moment of a command is the first of the new ones.
   have hj:h.trace.length<j:=by omega
   rw [htrace,List.getElem?_append_right hj.le] at hget'
   obtain ⟨k,hk⟩:∃k,j - h.trace.length=k+1:=⟨j - h.trace.length - 1,by omega⟩
   rw [hk,List.getElem?_cons_succ] at hget'
   exact hmore _ _ _ _ _ _ (List.mem_of_getElem? hget')

lemma noCommand_ran (n:ℕ) (ran:List K):NoCommand (ran.map (.ran n):List (Moment S K)):=by
 intro _ _ _ _ _ _ hmem
 obtain ⟨_,_,heq⟩:=List.mem_map.mp hmem
 cases heq

variable [DecidableEq A] {settings:Settings} {entity:Entity S} {outcome:Outcome S K A}

variable {operation:Operation S}

lemma settle_trace (settings:Settings) (h:Host R S K A) (g:ℕ) (outcome:Outcome S K A)
  (accepted:Bool) (hosted:Hosted (h.record g outcome)):
  (h.settle settings g outcome accepted).trace=h.trace++outcome.moments:=by
 rcases settle_cases settings h g outcome accepted with
  ⟨_,heq⟩ | heq | ⟨_,_,heq⟩|⟨_,_,_,_,heq⟩
 · rw [heq]
   rfl
 · rw [heq,(moves_fail hosted _).trace]
   rfl
 · rw [heq]
   rfl
 · rw [heq]
   rfl

omit [DecidableEq A] in
lemma not_spent (hobject:h.objects g=some b) (hphase:b.phase=.running)
  (hlive:(h.actors b.internalContext).live=some g)
  (hstate:(h.actors b.internalContext).context.state=.running):¬Spent h g:=by
 intro hspent
 rcases hspent b hobject with ⟨_,_,_,hnot⟩|⟨hstopping,_⟩|hdead|hstopping
 · exact hnot hphase
 · rw [hphase] at hstopping
   cases hstopping
 · exact hdead hlive
 · rw [hstate] at hstopping
   cases hstopping

lemma Stopped.invoked (stopped:Stopped h) (hosted:Hosted h) (hobject:h.objects g=some b)
  (hlive:(h.actors b.internalContext).live=some g)
  (hstate:(h.actors b.internalContext).context.state=.running)
  (hidle:b.phase=.running → g∉h.inflight.map (·.1))
  (hcommands:Commands b g h.trace.length outcome) (accepted:Bool):
  Stopped (h.settle settings g outcome accepted):=by
 have howner:=hcommands.keeps.1
 have htrace:=settle_trace settings h g outcome accepted
  (hosted.record hobject howner)
 have hkept:∀g',g'≠g → Spent h g' → Spent (h.settle settings g outcome accepted) g':=
  fun g' hne hspent=>hspent.settle_of_ne hosted hobject howner accepted hne
 have hspent:=spent_settle settings hosted hobject howner accepted
 cases hcommands with
 | refused suspended error=>
  refine stopped.quiet [] htrace (fun _ _ _ _ _ _=>nofun)
   fun _ g' _ _ _ hspent'=>?_
  by_cases heq:g'=g
  · rw [heq]
    exact hspent (.inr (.inr (.inl ⟨error,rfl⟩)))
  · exact hkept g' heq hspent'
 | raised hphase _ hran suspended error=>
  exact stopped.command _ (noCommand_ran _ _) htrace (not_spent hobject hphase hlive hstate) hkept
   fun _ _ _=>hspent (.inr (.inr (.inl ⟨error,rfl⟩)))
 | done hphase _ hkind hran hstop suspended=>
  refine stopped.command _ (noCommand_ran _ _) htrace (not_spent hobject hphase hlive hstate) hkept
   fun effect heffect hstop'=>?_
  cases heffect
  rw [hstop] at hstop'
  cases hstop'
 | stops hphase _ hkind hran=>
  exact stopped.command _ (noCommand_ran _ _) htrace (not_spent hobject hphase hlive hstate) hkept
   fun _ _ _=>hspent (.inr (.inl ⟨rfl,rfl,hidle hphase⟩))
 | writes effect content hphase _ hkind=>
  refine stopped.command [] (fun _ _ _ _ _ _=>nofun) htrace
   (not_spent hobject hphase hlive hstate) hkept fun effect' heffect hstop=>?_
  cases heffect
  exact hspent (.inl ⟨_,rfl,hstop,nofun⟩)

variable {before after:List (ℕ×Operation S)}

lemma Spent.delivered
  (hspent:Spent h g) (hosted:Hosted h) (traced:Traced h) (hgenerations:(h.inflight.map (·.1)).Nodup)
  (hin:h.inflight=before++(g,operation)::after) (hobject:h.objects g=some b)
  (hlive:(h.actors b.internalContext).live=some g)
  (hcompletion:Completion entity b operation outcome) (accepted:Bool):
  Spent ({ h with inflight:=before++after }.settle settings g outcome accepted) g:=by
 have hmem:(g,operation)∈h.inflight:=by
  rw [hin]
  exact List.mem_append_right _ (List.mem_cons_self ..)
 have hgone:g∉(before++after).map (·.1):=by
  rw [hin,List.map_append,List.map_cons,List.nodup_middle] at hgenerations
  rw [List.map_append]
  exact (List.nodup_cons.mp hgenerations).1
 refine spent_settle settings (hosted.withInflight (before++after)) hobject hcompletion.keeps.1 accepted ?_
 rcases hspent b hobject with ⟨pending,hpending,hstop,hphase⟩|⟨_,hidle⟩|hdead|hstopping
 · cases hcompletion with
   | failed operation suspended error
   | raised hsucceeds suspended error=>exact .inr (.inr (.inl ⟨error,rfl⟩))
   | recovered hsucceeds=>
    -- A first recovery has no pending effect.
    obtain ⟨_,_,hawaits⟩:=traced.pending hobject hpending
    cases (hawaits.linked _ hmem).1
   | repeated revision suspended=>
    exact .inl ⟨pending,hpending,hstop,nofun⟩
   | finished hpending' hran hreaction hconfirms hsucceeds=>
    obtain rfl:=Option.some.inj (hpending.symm.trans hpending')
    rcases hreaction with hraised|⟨hdone,hphase'⟩
    · exact .inr (.inr (.inl hraised))
    · rw [if_pos hstop] at hphase'
      exact .inr (.inl ⟨hphase',hdone,hgone⟩)
 · exact absurd (List.mem_map_of_mem hmem) hidle
 · exact absurd hlive hdead
 · exact .inr (.inr (.inr hstopping))

omit [DecidableEq A] in
lemma completion_noCommand
  (hcompletion:Completion entity b operation outcome):NoCommand outcome.moments:=by
 cases hcompletion with
 | finished _ _ _ _ _=>exact noCommand_ran _ _
 | failed _ _ _ | raised _ _ _ | recovered _
 | repeated _ _=>exact fun _ _ _ _ _ _=>nofun

lemma Stopped.delivered (stopped:Stopped h) (hosted:Hosted h) (traced:Traced h)
  (hgenerations:(h.inflight.map (·.1)).Nodup)
  (hin:h.inflight=before++(g,operation)::after) (hobject:h.objects g=some b)
  (hlive:(h.actors b.internalContext).live=some g)
  (hcompletion:Completion entity b operation outcome) (accepted:Bool):
  Stopped ({ h with inflight:=before++after }.settle settings g outcome accepted):=by
 have hhosted:=hosted.withInflight (before++after)
 refine stopped.quiet _ (settle_trace settings _ g outcome accepted
  (hhosted.record hobject hcompletion.keeps.1)) (completion_noCommand hcompletion)
  fun _ g' _ _ _ hspent=>?_
 by_cases heq:g'=g
 · subst heq
   exact hspent.delivered hosted traced hgenerations hin hobject hlive hcompletion accepted
 · refine Spent.settle_of_ne (hspent.withInflight fun hmem=>?_) hhosted hobject
    hcompletion.keeps.1 accepted heq
   rw [hin]
   exact (((List.Sublist.refl _).append (List.sublist_cons_self ..)).map _).subset hmem

lemma Stopped.construct (stopped:Stopped h) (hosted:Hosted h) (traced:Traced h)
  (startup:Startup) (hdeferred:(h.actors a).behavior=.deferred):
  Stopped (h.construct a startup).1:=by
 have hdead:∀g,(h.actors a).live≠some g:=by
  intro g hlive
  have hbehavior:=(live_eq_some.mp hlive).1
  rw [hdeferred] at hbehavior
  cases hbehavior
 have hnone:=hosted.fresh h.nextGeneration le_rfl
 cases haccepted:startup.accepted with
 | false=>
  rw [construct_of_refused haccepted]
  refine stopped.quiet [] (List.append_nil _).symm
   (fun _ _ _ _ _ _=>nofun) fun _ g _ _ _ hspent b hobject=>?_
  rcases hspent b hobject with hpending|hdone|hover
  · exact .inl hpending
  · exact .inr (.inl hdone)
  · refine .inr (.inr ?_)
    change Over (update h.actors a _ b.internalContext) g
    by_cases heq:b.internalContext=a
    · rw [heq,update_self]
      exact .inl (hdead g)
    · rwa [update_of_ne heq]
 | true=>
  rw [construct_of_accepted haccepted]
  refine stopped.quiet [] (List.append_nil _).symm
   (fun _ _ _ _ _ _=>nofun) fun _ g id effect hhandled hspent b hobject=>?_
  obtain ⟨_,_,hget⟩:=hhandled
  obtain ⟨b',hobject'⟩:=traced.owned (List.mem_of_getElem? hget)
  have hne:g≠h.nextGeneration:=by
   rintro rfl
   rw [hnone] at hobject'
   cases hobject'
  change update h.objects _ _ g=_ at hobject
  rw [update_of_ne hne] at hobject
  rcases hspent b hobject with hpending|⟨hphase,hidle⟩|hover
  · exact .inl hpending
  · refine .inr (.inl ⟨hphase,fun hmem=>?_⟩)
    rw [List.map_append,List.mem_append] at hmem
    rcases hmem with hbefore|hnew
    · exact hidle hbefore
    · exact hne (List.mem_singleton.mp hnew)
  · refine .inr (.inr ?_)
    change Over (update h.actors a _ b.internalContext) g
    by_cases heq:b.internalContext=a
    · rw [heq,update_self]
      refine .inl fun hlive=>hne ?_
      exact (Installed.durable.inj (live_eq_some.mp hlive).1).symm
    · rwa [update_of_ne heq]

omit [DecidableEq A] in
lemma answered_generations {next:Operation S} (hin:h.inflight=before++(g,operation)::after):
  (before++(g,next)::after).map (·.1)=h.inflight.map (·.1):=by
 rw [hin,List.map_append,List.map_append]
 rfl

lemma Stopped.change (stopped:Stopped h) (hosted:Hosted h) (traced:Traced h)
  (hinvariant:Invariant settings entity (world h)) (hchange:Change settings entity h t):
  Stopped t:=by
 have hnothing:NoCommand ([]:List (Moment S K)):=fun _ _ _ _ _ _=>nofun
 cases hchange with
 | lifecycle hlife=>
  cases hlife with
  | move hmove=>
   refine stopped.quiet [] ?_ hnothing fun _ _ _ _ _ hspent=>hspent.move hmove
   rw [hmove.trace,List.append_nil]
  | construct startup hdeferred _=>exact stopped.construct hosted traced startup hdeferred
 | @invoked a g b handleCommand callbackRaises accepted hstate hbehavior hobject=>
  obtain rfl:=hosted.owner hbehavior hobject
  have hlive:(h.actors b.internalContext).live=some g:=by
   rw [live_eq_some,hstate]
   exact ⟨hbehavior,nofun⟩
  exact stopped.invoked hosted hobject hlive hstate
   (fun hphase=>
    (hinvariant.running g (forget b) (world_behaviors_live hobject hlive) hphase).1)
   (receive_cases ..) accepted
 | delivered accepted hin hobject hlive houtcome=>
  exact stopped.delivered hosted traced hinvariant.generations hin hobject hlive
   houtcome.completion accepted
 | dropped hin _ _=>
  refine stopped.quiet [] (List.append_nil _).symm hnothing
   fun _ _ _ _ _ hspent=>hspent.withInflight fun hmem=>?_
  rw [hin]
  exact (((List.Sublist.refl _).append (List.sublist_cons_self ..)).map _).subset hmem
 | answered hin _=>
  refine stopped.quiet [] (List.append_nil _).symm hnothing
   fun _ _ _ _ _ hspent=>hspent.withInflight fun hmem=>?_
  rwa [answered_generations hin] at hmem
 | committed learned hin _=>
  refine stopped.quiet _ rfl (fun _ _ _ _ _ _ hmem=>?_) fun _ g _ _ _ hspent b hobject=>?_
  · split_ifs at hmem
    · cases hmem
    · cases List.mem_singleton.mp hmem
  · rcases hspent b hobject with hpending|⟨hphase,hidle⟩|hover
    · exact .inl hpending
    · refine .inr (.inl ⟨hphase,fun hmem=>hidle ?_⟩)
      rwa [Host.commit,answered_generations hin] at hmem
    · exact .inr (.inr hover)
 | maintained _ _=>
  exact stopped.quiet [] (List.append_nil _).symm hnothing fun _ _ _ _ _ hspent=>hspent

lemma reachable_stopped (hreachable:(changeSystem settings entity).Reachable h):Stopped h:=by
 refine hreachable.invariant ?_ fun s _ t hreached hs hchange=>hs.change
  (reachable_hosted hreached) (reachable_traced hreached) (reachable_invariant hreached) hchange
 rintro s ⟨readModel,rfl⟩
 rintro n g id effect ⟨_,_,hget⟩
 cases hget

end

section

structure Ready (entity:Entity S) (h:Host R S K A) (g:ℕ) (id:PersistenceId) (state:S)
  (revision:ℕ) (b:DurableStateBehavior S K A):Prop where
 object:h.objects g=some b
 installed:(h.actors b.internalContext).behavior=.durable g
 running:(h.actors b.internalContext).context.state=.running
 phase:b.phase=.running
 idle:g∉h.inflight.map (·.1)
 committed:StateAt entity h.commits id revision state
 identity:b.persistenceId=id
 state:b.state=some state
 revision:b.revision=revision

def Advances (entity:Entity S) (h:Host R S K A) (g:ℕ) (b:DurableStateBehavior S K A)
  (event:Event R S K A):Prop:=
 ∃hookRaises callbackRaises accepted before after operation,
  event=.deliver g hookRaises callbackRaises accepted ∧
  h.inflight=before++(g,operation)::after ∧
  (h.actors b.internalContext).live=some g ∧ Succeeds entity b operation

def Keeps (h t:Host R S K A):Prop:=
 ∀g b,h.objects g=some b →
  ∃b',t.objects g=some b' ∧ b'.state=b.state ∧ b'.revision=b.revision

variable {h t r:Host R S K A} {a:A} {g:ℕ} {b:DurableStateBehavior S K A}

lemma Keeps.refl (h:Host R S K A):Keeps h h:=fun _ b hobject=>⟨b,hobject,rfl,rfl⟩

lemma Keeps.trans (hfirst:Keeps h t) (hsecond:Keeps t r):Keeps h r:=by
 intro g b hobject
 obtain ⟨b₁,hobject₁,hstate₁,hrevision₁⟩:=hfirst g b hobject
 obtain ⟨b₂,hobject₂,hstate₂,hrevision₂⟩:=hsecond g b₁ hobject₁
 exact ⟨b₂,hobject₂,hstate₂.trans hstate₁,hrevision₂.trans hrevision₁⟩

lemma keeps_move (hmove:Moves a h t):Keeps h t:=by
 intro g b hobject
 rcases hmove.objects g with hsame|⟨b',hobject',_,_,hstopped⟩
 · exact ⟨b,hsame.trans hobject,rfl,rfl⟩
 · obtain rfl:=Option.some.inj (hobject.symm.trans hobject')
   exact ⟨_,hstopped,rfl,rfl⟩

variable [DecidableEq A] {settings:Settings} {entity:Entity S} {outcome:Outcome S K A}

lemma lifecycle_keeps (hosted:Hosted h) (hlife:Lifecycle h t):
  Keeps h t ∧ t.trace=h.trace:=by
 cases hlife with
 | move hmove=>exact ⟨keeps_move hmove,hmove.trace⟩
 | construct startup _ _=>
  cases haccepted:startup.accepted with
  | false=>
   rw [construct_of_refused haccepted]
   exact ⟨.refl h,rfl⟩
  | true=>
   rw [construct_of_accepted haccepted]
   refine ⟨fun g b hobject=>⟨b,?_,rfl,rfl⟩,rfl⟩
   have hne:g≠h.nextGeneration:=by
    rintro rfl
    rw [hosted.fresh _ le_rfl] at hobject
    cases hobject
   exact (update_of_ne hne ..).trans hobject

lemma lives_keeps (hosted:Hosted h) (hlives:Lives h t):
  Hosted t ∧ Keeps h t ∧ t.trace=h.trace:=by
 induction hlives with
 | refl=>exact ⟨hosted,.refl h,rfl⟩
 | tail _ hlife ih=>
  obtain ⟨hhosted,hkeeps,htrace⟩:=ih
  obtain ⟨hkeeps',htrace'⟩:=lifecycle_keeps hhosted hlife
  exact ⟨hhosted.lifecycle hlife,hkeeps.trans hkeeps',htrace'.trans htrace⟩

lemma settle_keeps (settings:Settings) (hosted:Hosted (h.record g outcome)) (accepted:Bool):
  Keeps (h.record g outcome) (h.settle settings g outcome accepted):=by
 rcases settle_cases settings h g outcome accepted with
  ⟨_,heq⟩ | heq | ⟨_,_,heq⟩|⟨_,_,_,_,heq⟩
 · rw [heq]
   exact .refl _
 · rw [heq]
   exact keeps_move (moves_fail hosted _)
 · rw [heq]
   exact .refl _
 · rw [heq]
   exact .refl _

lemma settle_object (settings:Settings) (hosted:Hosted h) (hobject:h.objects g=some b)
  (howner:outcome.behavior.internalContext=b.internalContext) (accepted:Bool) {g':ℕ}
  {b':DurableStateBehavior S K A} (hobject':h.objects g'=some b'):
  ∃next,(h.settle settings g outcome accepted).objects g'=some next ∧
   (next.state=b'.state ∧ next.revision=b'.revision ∨
    g'=g ∧ next.state=outcome.behavior.state ∧
     next.revision=outcome.behavior.revision):=by
 have hkeeps:=settle_keeps settings (hosted.record hobject howner) accepted
 by_cases heq:g'=g
 · subst heq
   obtain ⟨next,hnext,hstate,hrevision⟩:=hkeeps g' outcome.behavior record_object
   exact ⟨next,hnext,.inr ⟨rfl,hstate,hrevision⟩⟩
 · obtain ⟨next,hnext,hsame⟩:=hkeeps g' b' ((update_of_ne heq ..).trans hobject')
   exact ⟨next,hnext,.inl hsame⟩

omit [DecidableEq A] in
lemma commands_keeps {n:ℕ} (hcommands:Commands b g n outcome):
  outcome.behavior.state=b.state ∧ outcome.behavior.revision=b.revision:=by
 cases hcommands <;> exact ⟨rfl,rfl⟩

omit [DecidableEq A] in
lemma commands_handled {n m g':ℕ} {id:PersistenceId} {state:S} {revision:ℕ}
  {returned:Option (DurableEffect S K)} (hcommands:Commands b g n outcome)
  (hmem:.handled m g' id state revision returned∈outcome.moments):
  g'=g ∧ id=b.persistenceId ∧ revision=b.revision ∧ b.phase=.running ∧
   b.state=some state:=by
 have hfirst:∀ {state':S} {returned':Option (DurableEffect S K)} (ran:List K),
  .handled m g' id state revision returned ∈
   Moment.handled n g b.persistenceId state' b.revision returned'::ran.map (.ran n) →
  g'=g ∧ id=b.persistenceId ∧ revision=b.revision ∧ state=state':=by
  intro state' returned' ran hin
  rcases List.mem_cons.mp hin with heq|hcallback
  · injection heq with _ hg hid hstate hrevision
    exact ⟨hg,hid,hrevision,hstate⟩
  · exact (noCommand_ran n ran _ _ _ _ _ _ hcallback).elim
 cases hcommands with
 | refused _ _=>cases hmem
 | raised hphase hstate _ _ _ | done hphase hstate _ _ _ _ | stops hphase hstate _ _=>
  obtain ⟨rfl,rfl,rfl,rfl⟩:=hfirst _ hmem
  exact ⟨rfl,rfl,rfl,hphase,hstate⟩
 | writes _ _ hphase hstate _=>
  obtain ⟨rfl,rfl,rfl,rfl⟩:=hfirst [] hmem
  exact ⟨rfl,rfl,rfl,hphase,hstate⟩

omit [DecidableEq A] in
lemma completion_keeps {operation:Operation S} (hcompletion:Completion entity b operation outcome):
  outcome.behavior.state=b.state ∧ outcome.behavior.revision=b.revision ∨
   Succeeds entity b operation:=by
 cases hcompletion with
 | failed _ _ _ | repeated _ _=>exact .inl ⟨rfl,rfl⟩
 | raised hsucceeds _ _ | recovered hsucceeds | finished _ _ _ _ hsucceeds=>exact .inr hsucceeds

lemma step_ready {event:Event R S K A} (hreachable:(changeSystem settings entity).Reachable h)
  (hstep:(hostSystem settings entity).step h event t):
  ∃more,t.trace=h.trace++more ∧ ∀n g id state revision returned,
   .handled n g id state revision returned∈more →
    ∃b,Ready entity h g id state revision b:=by
 have hosted:=reachable_hosted hreachable
 have hinvariant:=reachable_invariant hreachable
 have hnothing:t.trace=h.trace → ∃more,t.trace=h.trace++more ∧
  ∀n g id state revision returned,.handled n g id state revision returned∈more →
   ∃b,Ready entity h g id state revision b:=fun hsame=>
  ⟨[],hsame.trans (List.append_nil _).symm,fun _ _ _ _ _ _=>nofun⟩
 cases event with
 | start a mailboxFails=>
  obtain rfl:=hstep
  exact hnothing (lives_keeps hosted (lives_start mailboxFails)).2.2
 | abortStart a=>
  obtain rfl:=hstep
  exact hnothing (moves_abortStart hosted a).trace
 | invokeSystem a message noChildren raises startup=>
  obtain rfl:=hstep
  exact hnothing
   (lives_keeps hosted (lives_invokeSystem message noChildren raises startup hosted)).2.2
 | runLoad g result=>
  obtain ⟨before,after,id,duplicate,hin,hresult,rfl⟩:=hstep
  exact hnothing rfl
 | abortWrite g error=>
  obtain ⟨before,after,request,hin,rfl⟩:=hstep
  exact hnothing rfl
 | maintain transaction=>
  obtain ⟨hkind,reply,db,hrun,rfl⟩:=hstep
  exact hnothing rfl
 | commitWrite g committedAtNs learned=>
  obtain ⟨before,after,request,result,db,hin,hmutate,rfl⟩:=hstep
  refine ⟨_,rfl,fun _ _ _ _ _ _ hmem=>?_⟩
  split_ifs at hmem
  · cases hmem
  · cases List.mem_singleton.mp hmem
 | deliver g hookRaises callbackRaises accepted=>
  obtain ⟨before,after,operation,hin,hcompleted,rfl⟩:=hstep
  have hhosted:=hosted.withInflight (before++after)
  rcases deliver_cases settings entity { h with inflight:=before++after } g hookRaises
   callbackRaises accepted hcompleted with ⟨_,heq⟩|⟨b,_,outcome,hobject,_,houtcome,heq⟩
  · rw [heq]
    exact ⟨[],(List.append_nil _).symm,fun _ _ _ _ _ _=>nofun⟩
  · rw [heq]
    refine ⟨outcome.moments,settle_trace settings _ g outcome accepted
     (hhosted.record hobject houtcome.completion.keeps.1),fun _ _ _ _ _ _ hmem=>?_⟩
    exact (completion_noCommand houtcome.completion _ _ _ _ _ _ hmem).elim
 | invoke a handleCommand callbackRaises accepted=>
  obtain rfl:=hstep
  rcases invoke_cases settings entity h a handleCommand callbackRaises accepted with
   heq | heq | ⟨g,b,hstate,hbehavior,hobject,heq⟩
  · exact hnothing (by rw [heq])
  · exact hnothing (by rw [heq,(moves_fail hosted a).trace])
  · have hcommands:Commands b g h.trace.length
     (b.receive entity false g h.trace.length handleCommand callbackRaises):=
     receive_cases ..
    obtain rfl:=hosted.owner hbehavior hobject
    refine ⟨_,(congrArg Host.trace heq).trans (settle_trace settings h g _ accepted
     (hosted.record hobject hcommands.keeps.1)),fun n g' id state revision returned hmem=>?_⟩
    obtain ⟨rfl,rfl,rfl,hphase,hheld⟩:=commands_handled hcommands hmem
    have hlive:(h.actors b.internalContext).live=some g':=by
     rw [live_eq_some,hstate]
     exact ⟨hbehavior,nofun⟩
    obtain ⟨hidle,state',hstate',hcommitted⟩:=
     hinvariant.running g' (forget b) (world_behaviors_live hobject hlive) hphase
    obtain rfl:=Option.some.inj (hheld.symm.trans hstate')
    exact ⟨b,⟨hobject,hbehavior,hstate,hphase,hidle,hcommitted,rfl,hheld,rfl⟩⟩

lemma step_keeps {event:Event R S K A} (hosted:Hosted h)
  (hstep:(hostSystem settings entity).step h event t) (g:ℕ)
  {b:DurableStateBehavior S K A} (hobject:h.objects g=some b):
  ∃b',t.objects g=some b' ∧ (b'.state=b.state ∧ b'.revision=b.revision ∨
   Advances entity h g b event):=by
 have hkept:Keeps h t → ∃b',t.objects g=some b' ∧
  (b'.state=b.state ∧ b'.revision=b.revision ∨ Advances entity h g b event):=by
  intro hkeeps
  obtain ⟨b',hobject',hsame⟩:=hkeeps g b hobject
  exact ⟨b',hobject',.inl hsame⟩
 cases event with
 | start a mailboxFails=>
  obtain rfl:=hstep
  exact hkept (lives_keeps hosted (lives_start mailboxFails)).2.1
 | abortStart a=>
  obtain rfl:=hstep
  exact hkept (keeps_move (moves_abortStart hosted a))
 | invokeSystem a message noChildren raises startup=>
  obtain rfl:=hstep
  exact hkept
   (lives_keeps hosted (lives_invokeSystem message noChildren raises startup hosted)).2.1
 | runLoad _ result=>
  obtain ⟨before,after,id,duplicate,hin,hresult,rfl⟩:=hstep
  exact hkept (.refl h)
 | abortWrite _ error=>
  obtain ⟨before,after,request,hin,rfl⟩:=hstep
  exact hkept (.refl h)
 | maintain transaction=>
  obtain ⟨hkind,reply,db,hrun,rfl⟩:=hstep
  exact hkept (.refl h)
 | commitWrite _ committedAtNs learned=>
  obtain ⟨before,after,request,result,db,hin,hmutate,rfl⟩:=hstep
  exact hkept (.refl h)
 | deliver completed hookRaises callbackRaises accepted=>
  obtain ⟨before,after,operation,hin,hcompleted,rfl⟩:=hstep
  rcases deliver_cases settings entity { h with inflight:=before++after } completed hookRaises
   callbackRaises accepted hcompleted with
    ⟨_,heq⟩|⟨own,_,outcome,hown,hlive,houtcome,heq⟩
  · rw [heq]
    exact ⟨b,hobject,.inl ⟨rfl,rfl⟩⟩
  · rw [heq]
    have hcompletion:=houtcome.completion
    obtain ⟨next,hnext,hsame|⟨rfl,hnew⟩⟩:=settle_object settings
     (hosted.withInflight (before++after)) hown hcompletion.keeps.1 accepted hobject
    · exact ⟨next,hnext,.inl hsame⟩
    · obtain rfl:=Option.some.inj (hobject.symm.trans hown)
      refine ⟨next,hnext,?_⟩
      rcases completion_keeps hcompletion with ⟨hstate,hrevision⟩|hsucceeds
      · exact .inl ⟨hnew.1.trans hstate,hnew.2.trans hrevision⟩
      · exact .inr ⟨hookRaises,callbackRaises,accepted,before,after,operation,rfl,hin,
         hlive,hsucceeds⟩
 | invoke a handleCommand callbackRaises accepted=>
  obtain rfl:=hstep
  rcases invoke_cases settings entity h a handleCommand callbackRaises accepted with
   heq | heq | ⟨own,ownBehavior,_,_,hown,heq⟩
  · exact hkept (by rw [heq]; exact .refl h)
  · exact hkept (by rw [heq]; exact keeps_move (moves_fail hosted a))
  · have hcommands:Commands ownBehavior own h.trace.length
     (ownBehavior.receive entity false own h.trace.length handleCommand callbackRaises):=
     receive_cases ..
    rw [heq]
    obtain ⟨next,hnext,hsame|⟨rfl,hnew⟩⟩:=
     settle_object settings hosted hown hcommands.keeps.1 accepted hobject
    · exact ⟨next,hnext,.inl hsame⟩
    · obtain rfl:=Option.some.inj (hobject.symm.trans hown)
      obtain ⟨hstate,hrevision⟩:=commands_keeps hcommands
      exact ⟨next,hnext,.inl ⟨hnew.1.trans hstate,hnew.2.trans hrevision⟩⟩

/-- A command is handled only by a ready generation; the callbacks of a write are called in
 order, each at most once, after a commit of its operation; only a successful completion of
 the current generation changes a state; and a stop effect is the last one. -/
theorem durable_behavior_phases (settings:Settings) (entity:Entity S) {s:Host R S K A}
  (hreachable:(hostSystem settings entity).Reachable s):
  (∀event t,(hostSystem settings entity).step s event t →
   ∃more,t.trace=s.trace++more ∧ ∀n g id state revision returned,
    .handled n g id state revision returned∈more →
     ∃b,Ready entity s g id state revision b) ∧
  (∀n g id effect operationId,Handled s.trace n g id effect →
   effect.operationId=some operationId →
    (called s.trace n <+:effect.callbacks) ∧
    ∀i callback,s.trace[i]? = some (.ran n callback) →
     n < i ∧ ∃j,j < i ∧ s.trace[j]? = some (.committed id operationId)) ∧
  (∀event t,(hostSystem settings entity).step s event t → ∀g b,s.objects g=some b →
   ∃b',t.objects g=some b' ∧ (b'.state=b.state ∧ b'.revision=b.revision ∨
    Advances entity s g b event)) ∧
  ∀n g id effect,Handled s.trace n g id effect → effect.stop=true →
   ∀j m id' state revision returned,n<j →
    s.trace[j]? ≠ some (.handled m g id' state revision returned):=by
 have hchanges:=reachable_changes hreachable
 have hordered:=(reachable_traced hchanges).ordered
 refine ⟨fun event t hstep=>step_ready hchanges hstep,?_,
  fun event t hstep g b hobject=>step_keeps (reachable_hosted hchanges) hstep g hobject,
  fun n g id effect hhandled hstop=>(reachable_stopped hchanges n g id effect hhandled hstop).2⟩
 intro n g id effect operationId hhandled hoperation
 refine ⟨hordered.inOrder hhandled,fun i callback hget=>?_⟩
 obtain ⟨g',id',effect',hlt,hhandled',hcommitted⟩:=hordered.ran hget
 obtain ⟨_,rfl,rfl⟩:=hhandled.unique hhandled'
 exact ⟨hlt,hcommitted operationId hoperation⟩

def recovered : { s:Host Unit UInt8 ℕ Unit //
  (hostSystem plainSettings DurableNoLostUpdate.byteEntity).Reachable s }:=⟨_,by
 have h₀:(hostSystem plainSettings DurableNoLostUpdate.byteEntity).Reachable
  (Host.create ():Host Unit UInt8 ℕ Unit):=.start ⟨(),rfl⟩
 have h₁:=h₀.next (.start () false) rfl
 have h₂:=h₁.next (.invokeSystem () .preStart true false ⟨cartId,true⟩) rfl
 have h₃:=h₂.next (.runLoad 0 (.ok none)) ⟨[],[],_,_,rfl,.inl rfl,rfl⟩
 exact h₃.next (.deliver 0 false (fun _=>false) true) ⟨[],[],_,rfl,trivial,rfl⟩⟩

def lastEffect : DurableEffect UInt8 ℕ:=⟨.persist 7 (cartOperation 1),[1,2],true⟩

theorem durable_behavior_phases_last_command : ∃s:Host Unit UInt8 ℕ Unit,
  (hostSystem plainSettings DurableNoLostUpdate.byteEntity).Reachable s ∧
  Handled s.trace 0 0 cartId lastEffect ∧
  called s.trace 0=[1,2] ∧
  (called s.trace 0 <+:lastEffect.callbacks) ∧
  ∀j m id state revision returned,0<j →
   s.trace[j]? ≠ some (.handled m 0 id state revision returned):=by
 have h₁:=recovered.2.next (.invoke () (fun _=>.ok lastEffect) (fun _=>false) true) rfl
 have h₂:=h₁.next (.commitWrite 0 5 none) ⟨[],[],_,_,_,rfl,rfl,rfl⟩
 have h₃:=h₂.next (.deliver 0 false (fun _=>false) true) ⟨[],[],_,rfl,trivial,rfl⟩
 have h₄:=h₃.next (.invoke () (fun _=>.ok ⟨.none,[3],false⟩) (fun _=>false) true) rfl
 obtain ⟨_,hcalls,_,hlast⟩:=
  durable_behavior_phases plainSettings DurableNoLostUpdate.byteEntity h₄
 exact ⟨_,h₄,⟨0,0,rfl⟩,rfl,
  (hcalls 0 0 cartId lastEffect (cartOperation 1) ⟨0,0,rfl⟩ rfl).1,
  hlast 0 0 cartId lastEffect ⟨0,0,rfl⟩ rfl⟩

/-- No lost update in the host of the actors, across failures, restarts and stops. -/
theorem hosted_no_lost_update (settings:Settings) (entity:Entity S) {s:Host R S K A}
  (hreachable:(hostSystem settings entity).Reachable s):
  (∀commit∈s.commits,∃r,commit.revision=r+1 ∧
   StateAt entity s.commits commit.mutation.persistenceId r commit.argument) ∧
  ∀g b,s.objects g=some b → (s.actors b.internalContext).live=some g → b.phase=.running →
   ∃state,b.state=some state ∧ StateAt entity s.commits b.persistenceId b.revision state:=by
 have hinv:=reachable_invariant (reachable_changes hreachable)
 refine ⟨hinv.arguments,fun g b hobject hlive hphase=>?_⟩
 exact (hinv.running g (forget b) (world_behaviors_live hobject hlive) hphase).2

theorem hosted_no_lost_update_persisted : ∃s:Host Unit UInt8 ℕ Unit,
  (hostSystem plainSettings DurableNoLostUpdate.byteEntity).Reachable s ∧
  s.commits.map (fun commit=>(commit.revision,commit.argument))=[(1,0)] ∧
  StateAt DurableNoLostUpdate.byteEntity s.commits cartId 1 7:=by
 have h₁:=recovered.2.next (.invoke () (fun _=>.ok ⟨.persist 7 (cartOperation 1),[],false⟩)
  (fun _=>false) true) rfl
 have h₂:=h₁.next (.commitWrite 0 5 none) ⟨[],[],_,_,_,rfl,rfl,rfl⟩
 have h₃:=h₂.next (.deliver 0 false (fun _=>false) true) ⟨[],[],_,rfl,trivial,rfl⟩
 obtain ⟨-,hstates⟩:=hosted_no_lost_update plainSettings DurableNoLostUpdate.byteEntity h₃
 obtain ⟨state,hstate,hat⟩:=hstates 0 _ rfl rfl rfl
 cases hstate
 exact ⟨_,h₃,rfl,hat⟩

end

end Movie.DurablePhases
