import Movie.DurableActorRefinement
import Movie.OperationIdempotence

/-!
# Callbacks and commits in the trace

Every callback belongs to an effect that a command returned before, and comes in the order of
registration and after a commit of the effect's operation.
-/
namespace Movie.DurableTrace

open Function DurableModel SQLiteStore DurableHistory SQLiteStoreInvariant Reachability DurableActor
open DurableActorChanges DurableActorRefinement
open DurableBehavior hiding DurableEffect PendingEffect Event
open DurableNoLostUpdate (Invariant)

universe u

variable {R:Type u} {S K A:Type}

section

def called (moments:List (Moment S K)) (n:ℕ):List K:=
 moments.filterMap fun moment=>
  match moment with
  | .ran effect callback=>if effect=n then some callback else none
  | .handled .. | .committed ..=>none

def Handled (moments:List (Moment S K)) (n g:ℕ) (id:PersistenceId) (effect:DurableEffect S K):Prop:=
 ∃state revision,moments[n]? = some (.handled n g id state revision (some effect))

structure Ordered (moments:List (Moment S K)):Prop where
 numbered:∀ {i n g:ℕ} {id:PersistenceId} {state:S} {revision:ℕ}
  {returned:Option (DurableEffect S K)},
  moments[i]? = some (.handled n g id state revision returned) → n=i
 ran:∀ {i n:ℕ} {callback:K},moments[i]? = some (.ran n callback) → ∃g id effect,
  n < i ∧ Handled moments n g id effect ∧ ∀operationId,effect.operationId=some operationId →
   ∃j,j < i ∧ moments[j]? = some (.committed id operationId)
 inOrder:∀ {n g:ℕ} {id:PersistenceId} {effect:DurableEffect S K},
  Handled moments n g id effect → called moments n <+:effect.callbacks

variable {moments more:List (Moment S K)} {n g:ℕ} {id:PersistenceId}
 {effect:DurableEffect S K}

lemma getElem?_append_of_some {α:Type} {l m:List α} {i:ℕ} {x:α} (h:l[i]? = some x):
  (l++m)[i]? = some x:=by
 obtain ⟨hlt,_⟩:=List.getElem?_eq_some_iff.mp h
 rwa [List.getElem?_append_left hlt]

lemma getElem?_snoc {α:Type} {l:List α} {a x:α} {i:ℕ} (h:(l++[a])[i]? = some x):
  l[i]? = some x ∨ i=l.length ∧ a=x:=by
 obtain ⟨hlt,hget⟩:=List.getElem?_eq_some_iff.mp h
 rw [List.length_append,List.length_singleton] at hlt
 rcases Nat.lt_succ_iff_lt_or_eq.mp hlt with hbefore|rfl
 · rw [List.getElem?_append_left hbefore] at h
   exact .inl h
 · rw [List.getElem?_concat_length] at h
   exact .inr ⟨rfl,Option.some.inj h⟩

lemma Handled.append (h:Handled moments n g id effect) (more:List (Moment S K)):
  Handled (moments++more) n g id effect:=by
 obtain ⟨state,revision,hget⟩:=h
 exact ⟨state,revision,getElem?_append_of_some hget⟩

lemma Handled.lt (h:Handled moments n g id effect):n < moments.length:=by
 obtain ⟨_,_,hget⟩:=h
 exact (List.getElem?_eq_some_iff.mp hget).1

lemma Handled.unique {g':ℕ} {id':PersistenceId} {effect':DurableEffect S K}
  (h:Handled moments n g id effect) (h':Handled moments n g' id' effect'):
  g=g' ∧ id=id' ∧ effect=effect':=by
 obtain ⟨_,_,hget⟩:=h
 obtain ⟨_,_,hget'⟩:=h'
 injection Option.some.inj (hget.symm.trans hget') with _ hg hid _ _ heffect
 exact ⟨hg,hid,Option.some.inj heffect⟩

lemma called_append (moments more:List (Moment S K)) (n:ℕ):
  called (moments++more) n=called moments n++called more n:=List.filterMap_append

lemma called_eq_nil (h:∀callback,.ran n callback∉moments):called moments n=[]:=by
 refine List.filterMap_eq_nil_iff.mpr fun moment hmem=>?_
 cases moment with
 | ran effect callback=>
  refine if_neg fun heq=>h callback ?_
  rwa [←heq]
 | handled=>rfl
 | committed=>rfl

lemma called_ran (n:ℕ) (ran:List K):
  called (ran.map (.ran n):List (Moment S K)) n=ran:=by
 induction ran with
 | nil=>rfl
 | cons callback ran ih=>
  refine (List.filterMap_cons_some (f := _) (b := callback) ?_).trans ?_
  · exact if_pos rfl
  · exact congrArg (callback::·) ih

lemma Ordered.called_length (h:Ordered moments):called moments moments.length=[]:=by
 refine called_eq_nil fun callback hmem=>?_
 obtain ⟨i,hget⟩:=List.mem_iff_getElem?.mp hmem
 obtain ⟨_,_,_,hlt,_⟩:=h.ran hget
 have hbound:=(List.getElem?_eq_some_iff.mp hget).1
 omega

lemma Ordered.nil : Ordered ([]:List (Moment S K)) where
 numbered h:=(by cases h)
 ran h:=(by cases h)
 inOrder _:=List.nil_prefix

lemma Ordered.snoc (h:Ordered moments) (moment:Moment S K)
  (hnumbered:∀n g id state revision returned,
   moment=.handled n g id state revision returned → n=moments.length)
  (hran:∀n callback,moment=.ran n callback → ∃g id effect,
   Handled moments n g id effect ∧ (called moments n++[callback] <+:effect.callbacks) ∧
    ∀operationId,effect.operationId=some operationId → .committed id operationId∈moments):
  Ordered (moments++[moment]) where
 numbered hget:=by
  rcases getElem?_snoc hget with hbefore|⟨rfl,hnew⟩
  · exact h.numbered hbefore
  · exact hnumbered _ _ _ _ _ _ hnew
 ran hget:=by
  rcases getElem?_snoc hget with hbefore|⟨rfl,hnew⟩
  · obtain ⟨g,id,effect,hlt,hhandled,hcommitted⟩:=h.ran hbefore
    refine ⟨g,id,effect,hlt,hhandled.append _,fun operationId hoperation=>?_⟩
    obtain ⟨j,hj,hcommit⟩:=hcommitted operationId hoperation
    exact ⟨j,hj,getElem?_append_of_some hcommit⟩
  · obtain ⟨g,id,effect,hhandled,_,hcommitted⟩:=hran _ _ hnew
    refine ⟨g,id,effect,hhandled.lt,hhandled.append _,fun operationId hoperation=>?_⟩
    obtain ⟨j,hj⟩:=List.mem_iff_getElem?.mp (hcommitted operationId hoperation)
    exact ⟨j,(List.getElem?_eq_some_iff.mp hj).1,getElem?_append_of_some hj⟩
 inOrder:=by
  intro n g id effect hhandled
  obtain ⟨state,revision,hget⟩:=hhandled
  rw [called_append]
  rcases getElem?_snoc hget with hbefore|⟨rfl,rfl⟩
  · by_cases hcall:∃callback,moment=.ran n callback
    · obtain ⟨callback,rfl⟩:=hcall
      obtain ⟨g',id',effect',hhandled',hfits,_⟩:=hran n callback rfl
      obtain ⟨_,_,rfl⟩:=Handled.unique ⟨state,revision,hbefore⟩ hhandled'
      rwa [show called [Moment.ran n callback] n=[callback] from called_ran (S := S) n [callback]]
    · have hnone:called [moment] n=[]:=called_eq_nil fun callback hmem=>
       hcall ⟨callback,(List.mem_singleton.mp hmem).symm⟩
      rw [hnone,List.append_nil]
      exact h.inOrder ⟨state,revision,hbefore⟩
  · rw [h.called_length]
    exact List.nil_prefix

lemma Ordered.committed (h:Ordered moments) (id:PersistenceId) (operationId:OperationId):
  Ordered (moments++[.committed id operationId]):=
 h.snoc _ (fun _ _ _ _ _ _=>nofun) fun _ _=>nofun

lemma Ordered.handled (h:Ordered moments) (g:ℕ) (id:PersistenceId) (state:S)
  (revision:ℕ) (returned:Option (DurableEffect S K)):
  Ordered (moments++[.handled moments.length g id state revision returned]):=by
 refine h.snoc _ (fun _ _ _ _ _ _ heq=>?_) fun _ _=>nofun
 injection heq with hn
 exact hn.symm

lemma Ordered.calls (h:Ordered moments) {ran:List K} (hhandled:Handled moments n g id effect)
  (hran:called moments n++ran <+:effect.callbacks)
  (hcommitted:∀operationId,effect.operationId=some operationId →
   .committed id operationId∈moments):Ordered (moments++ran.map (.ran n)):=by
 induction ran generalizing moments with
 | nil=>rwa [List.map_nil,List.append_nil]
 | cons callback ran ih=>
  have hsplit:called moments n++callback::ran=(called moments n++[callback])++ran:=by
   rw [List.append_assoc,List.singleton_append]
  rw [hsplit] at hran
  have hfirst:Ordered (moments++[.ran n callback]):=by
   refine h.snoc _ (fun _ _ _ _ _ _=>nofun) fun m callback' heq=>?_
   obtain ⟨rfl,rfl⟩:=Moment.ran.inj heq
   exact ⟨g,id,effect,hhandled,(List.prefix_append _ _).trans hran,hcommitted⟩
  have hcalled:called (moments++[.ran n callback]) n=called moments n++[callback]:=by
   rw [called_append]
   exact congrArg _ (called_ran n [callback])
  have hrest:=ih hfirst (hhandled.append _) (by rwa [hcalled]) fun operationId hoperation=>
   List.mem_append_left _ (hcommitted operationId hoperation)
  rwa [List.append_assoc,List.singleton_append] at hrest

lemma Ordered.command (h:Ordered moments) {state:S} {revision:ℕ}
  {returned:Option (DurableEffect S K)} {ran:List K}
  (hran:ran=[] ∨ ∃effect,returned=some effect ∧ effect.operationId=none ∧
   ran <+:effect.callbacks):
  Ordered (moments ++ .handled moments.length g id state revision returned ::
   ran.map (.ran moments.length)):=by
 have hfirst:=h.handled g id state revision returned
 rw [←List.singleton_append,←List.append_assoc]
 rcases hran with rfl|⟨effect,rfl,hkind,hran⟩
 · rwa [List.map_nil,List.append_nil]
 · have hhandled:Handled (moments++[.handled moments.length g id state revision (some effect)])
    moments.length g id effect:=⟨state,revision,List.getElem?_concat_length⟩
   refine hfirst.calls hhandled ?_ fun operationId hoperation=>?_
   · rw [called_append,h.called_length]
     exact hran
   · rw [hkind] at hoperation
     cases hoperation

end

section

def Linked (moments:List (Moment S K)) (id:PersistenceId) (operationId:OperationId):
  Operation S → Prop
 | .write request=>request.persistenceId=id ∧ request.operationId=operationId
 | .wrote (.ok _)=>.committed id operationId∈moments
 | .wrote (.error _)=>True
 | .load _ duplicate=>duplicate=true ∧ .committed id operationId∈moments
 | .loaded duplicate _=>duplicate=true ∧ .committed id operationId∈moments

structure Awaits (moments:List (Moment S K)) (inflight:List (ℕ×Operation S)) (g:ℕ)
  (id:PersistenceId) (pending:PendingEffect S K) (effect:DurableEffect S K)
  (operationId:OperationId):Prop where
 handled:Handled moments pending.effect g id effect
 callbacks:pending.callbacks=effect.callbacks
 stop:pending.stop=effect.stop
 operation:effect.operationId=some operationId
 uncalled:called moments pending.effect=[]
 linked:∀operation,(g,operation)∈inflight → Linked moments id operationId operation

variable {moments more:List (Moment S K)} {inflight:List (ℕ×Operation S)} {g:ℕ}
 {id:PersistenceId} {pending:PendingEffect S K} {effect:DurableEffect S K}
 {operationId:OperationId}

lemma Linked.append {operation:Operation S} (h:Linked moments id operationId operation)
  (more:List (Moment S K)):Linked (moments++more) id operationId operation:=by
 cases operation with
 | write request=>exact h
 | wrote result=>
  cases result with
  | ok result=>exact List.mem_append_left _ h
  | error error=>trivial
 | load _ duplicate | loaded duplicate _=>exact ⟨h.1,List.mem_append_left _ h.2⟩

lemma Linked.confirmed {operation:Operation S} (h:Linked moments id operationId operation)
  (hconfirms:Confirms operation):.committed id operationId∈moments:=by
 cases hconfirms with
 | loaded record=>exact h.2
 | wrote revision=>exact h

lemma Awaits.append (h:Awaits moments inflight g id pending effect operationId)
  (hno:∀callback,.ran pending.effect callback∉more):
  Awaits (moments++more) inflight g id pending effect operationId where
 handled:=h.handled.append more
 callbacks:=h.callbacks
 stop:=h.stop
 operation:=h.operation
 uncalled:=by rw [called_append,h.uncalled,called_eq_nil hno,List.append_nil]
 linked operation hmem:=(h.linked operation hmem).append more

lemma Awaits.unique {effect':DurableEffect S K}
  {operationId':OperationId} (h:Awaits moments inflight g id pending effect operationId)
  (hhandled:Handled moments pending.effect g id effect')
  (hoperation:effect'.operationId=some operationId'):operationId=operationId':=by
 obtain ⟨_,_,rfl⟩:=h.handled.unique hhandled
 exact Option.some.inj (h.operation.symm.trans hoperation)

end

section

structure Traced (h:Host R S K A):Prop where
 ordered:Ordered h.trace
 owned:∀ {n g:ℕ} {id:PersistenceId} {state:S} {revision:ℕ}
  {returned:Option (DurableEffect S K)},
  .handled n g id state revision returned∈h.trace → ∃b,h.objects g=some b
 pending:∀ {g:ℕ} {b:DurableStateBehavior S K A} {pending:PendingEffect S K},
  h.objects g=some b → b.pending=some pending → ∃effect operationId,
   Awaits h.trace h.inflight g b.persistenceId pending effect operationId
 commits:∀commit∈h.commits,
  .committed commit.mutation.persistenceId commit.mutation.operationId∈h.trace

variable {h t:Host R S K A} {a:A}

lemma Traced.move (traced:Traced h) (hmove:Moves a h t):Traced t where
 ordered:=by
  rw [hmove.trace]
  exact traced.ordered
 owned hmem:=by
  rw [hmove.trace] at hmem
  obtain ⟨b,hobject⟩:=traced.owned hmem
  rcases hmove.objects _ with hsame|⟨_,_,_,_,hstopped⟩
  · exact ⟨b,hsame.trans hobject⟩
  · exact ⟨_,hstopped⟩
 pending hobject hpending:=by
  rw [hmove.trace,hmove.inflight]
  rcases hmove.objects _ with hsame|⟨b,hbefore,_,_,hstopped⟩
  · exact traced.pending (hsame.symm.trans hobject) hpending
  · obtain rfl:=Option.some.inj (hstopped.symm.trans hobject)
    exact traced.pending (b := b) hbefore hpending
 commits:=by
  rw [hmove.commits,hmove.trace]
  exact traced.commits

lemma Traced.withInflight (traced:Traced h) {inflight:List (ℕ×Operation S)}
  (hlinked:∀g operation,(g,operation)∈inflight → (g,operation)∈h.inflight ∨
   ∀b pending effect operationId,h.objects g=some b → b.pending=some pending →
    Awaits h.trace h.inflight g b.persistenceId pending effect operationId →
    Linked h.trace b.persistenceId operationId operation):
  Traced { h with inflight:=inflight } where
 ordered:=traced.ordered
 owned:=traced.owned
 pending hobject hpending:=by
  obtain ⟨effect,operationId,hawaits⟩:=traced.pending hobject hpending
  refine ⟨effect,operationId,{ hawaits with linked:=fun operation hmem=>?_ }⟩
  rcases hlinked _ operation hmem with hbefore|hnew
  · exact hawaits.linked operation hbefore
  · exact hnew _ _ _ _ hobject hpending hawaits
 commits:=traced.commits

variable {before after:List (ℕ×Operation S)}

lemma Traced.consumed (traced:Traced h) {g:ℕ}
  {operation:Operation S} (hin:h.inflight=before++(g,operation)::after):
  Traced { h with inflight:=before++after }:=by
 refine traced.withInflight fun g' operation' hmem=>.inl ?_
 rw [hin]
 rcases List.mem_append.mp hmem with hbefore|hafter
 · exact List.mem_append_left _ hbefore
 · exact List.mem_append_right _ (List.mem_cons_of_mem _ hafter)

variable [DecidableEq A]

lemma Traced.construct (traced:Traced h) (hosted:Hosted h) (startup:Startup):
  Traced (h.construct a startup).1:=by
 have hnone:=hosted.fresh h.nextGeneration le_rfl
 cases haccepted:startup.accepted with
 | false=>
  rw [construct_of_refused haccepted]
  exact ⟨traced.ordered,traced.owned,traced.pending,traced.commits⟩
 | true=>
  rw [construct_of_accepted haccepted]
  refine ⟨traced.ordered,fun {n g id state revision returned} hmem=>?_,
   fun {g b pending} hobject hpending=>?_,traced.commits⟩
  · obtain ⟨b,hobject⟩:=traced.owned hmem
    have hne:g≠h.nextGeneration:=by
     rintro rfl
     rw [hnone] at hobject
     cases hobject
    exact ⟨b,(update_of_ne hne ..).trans hobject⟩
  · change update h.objects _ _ g=_ at hobject
    by_cases heq:g=h.nextGeneration
    · subst heq
      rw [update_self] at hobject
      cases hobject
      cases hpending
    · rw [update_of_ne heq] at hobject
      obtain ⟨effect,operationId,hawaits⟩:=traced.pending hobject hpending
      refine ⟨effect,operationId,{ hawaits with linked:=fun operation hmem=>?_ }⟩
      rcases List.mem_append.mp hmem with hbefore|hnew
      · exact hawaits.linked operation hbefore
      · exact absurd (Prod.mk.inj (List.mem_singleton.mp hnew)).1 heq

variable {g:ℕ} {b:DurableStateBehavior S K A} {outcome:Outcome S K A}

variable {entity:Entity S} {operation:Operation S} {settings:Settings}

lemma record_object : (h.record g outcome).objects g=some outcome.behavior:=
 update_self ..

lemma Traced.record (traced:Traced h) (hobject:h.objects g=some b)
  (hordered:Ordered (h.trace++outcome.moments)) (howned:∀n g' id state revision returned,
   .handled n g' id state revision returned∈outcome.moments → g'=g)
  (hran:∀n callback,.ran n callback∈outcome.moments → n=h.trace.length ∨
   ∃pending,b.pending=some pending ∧ n=pending.effect)
  (hpending:∀pending,outcome.behavior.pending=some pending → ∃effect operationId,
   Awaits (h.trace++outcome.moments) h.inflight g outcome.behavior.persistenceId pending
    effect operationId):Traced (h.record g outcome) where
 ordered:=hordered
 owned {n g' id state revision returned} hmem:=by
  change ∃b,update h.objects g (some outcome.behavior) g'=some b
  by_cases heq:g'=g
  · exact ⟨outcome.behavior,by rw [heq,update_self]⟩
  · rw [update_of_ne heq]
    rcases List.mem_append.mp hmem with hbefore|hnew
    · exact traced.owned hbefore
    · exact absurd (howned _ _ _ _ _ _ hnew) heq
 pending {g' b' pending} hobject' hpending':=by
  change update h.objects g (some outcome.behavior) g'=some b' at hobject'
  by_cases heq:g'=g
  · subst heq
    rw [update_self] at hobject'
    obtain rfl:=Option.some.inj hobject'
    exact hpending pending hpending'
  · rw [update_of_ne heq] at hobject'
    obtain ⟨effect,operationId,hawaits⟩:=traced.pending hobject' hpending'
    refine ⟨effect,operationId,hawaits.append fun callback hmem=>?_⟩
    -- The other effect was handled by another generation, so its callbacks are not among these.
    rcases hran _ _ hmem with hlength|⟨own,hown,hsame⟩
    · have hlt:=hawaits.handled.lt
      omega
    · obtain ⟨_,_,hawaits'⟩:=traced.pending hobject hown
      have hother:=hawaits.handled
      rw [hsame] at hother
      exact heq (hother.unique hawaits'.handled).1
 commits commit hmem:=List.mem_append_left _ (traced.commits commit hmem)

lemma Traced.record_silent (traced:Traced h) (hobject:h.objects g=some b)
  (hmoments:outcome.moments=[]) (hpending:outcome.behavior.pending=b.pending)
  (hid:outcome.behavior.persistenceId=b.persistenceId):Traced (h.record g outcome):=by
 refine traced.record hobject ?_ ?_ ?_ ?_
 · rw [hmoments,List.append_nil]
   exact traced.ordered
 · intro _ _ _ _ _ _ hmem
   rw [hmoments] at hmem
   cases hmem
 · intro _ _ hmem
   rw [hmoments] at hmem
   cases hmem
 · intro pending hsome
   rw [hmoments,List.append_nil,hid]
   exact traced.pending hobject (hpending.symm.trans hsome)

lemma Traced.record_command (traced:Traced h) (hobject:h.objects g=some b) {state:S}
  {revision:ℕ} {returned:Option (DurableEffect S K)} {ran:List K}
  (hran:ran=[] ∨ ∃effect,returned=some effect ∧ effect.operationId=none ∧
   ran <+:effect.callbacks)
  (hmoments:outcome.moments=.handled h.trace.length g b.persistenceId state revision
   returned::ran.map (.ran h.trace.length)) (hpending:outcome.behavior.pending=b.pending)
  (hid:outcome.behavior.persistenceId=b.persistenceId):Traced (h.record g outcome):=by
 have hcalls:∀n callback,.ran n callback∈outcome.moments → n=h.trace.length:=by
  intro n callback hmem
  rw [hmoments] at hmem
  rcases List.mem_cons.mp hmem with heq|hmem
  · cases heq
  · obtain ⟨_,_,heq⟩:=List.mem_map.mp hmem
    exact (Moment.ran.inj heq).1.symm
 refine traced.record hobject ?_ ?_ (fun n callback hmem=>.inl (hcalls n callback hmem)) ?_
 · rw [hmoments]
   exact traced.ordered.command hran
 · intro n g' id state' revision' returned' hmem
   rw [hmoments] at hmem
   rcases List.mem_cons.mp hmem with heq|hmem
   · injection heq
   · obtain ⟨_,_,heq⟩:=List.mem_map.mp hmem
     cases heq
 · intro pending hsome
   rw [hid]
   obtain ⟨effect,operationId,hawaits⟩:=
    traced.pending hobject (hpending.symm.trans hsome)
   refine ⟨effect,operationId,hawaits.append fun callback hmem=>?_⟩
   have hlt:=hawaits.handled.lt
   have hlength:=hcalls _ _ hmem
   omega

lemma Traced.commands (traced:Traced h) (hobject:h.objects g=some b)
  (hidle:b.phase=.running → g∉h.inflight.map (·.1))
  (hcommands:Commands b g h.trace.length outcome):Traced (h.record g outcome):=by
 cases hcommands with
 | refused suspended error=>exact traced.record_silent hobject rfl rfl rfl
 | raised _ _ hran suspended error=>exact traced.record_command hobject hran rfl rfl rfl
 | done _ _ hkind hran _ suspended | stops _ _ hkind hran=>
  exact traced.record_command hobject (.inr ⟨_,rfl,hkind,hran⟩) rfl rfl rfl
 | @writes state candidate operationId effect content hphase hstate hkind=>
  have hordered:=traced.ordered.handled g b.persistenceId state b.revision (some effect)
  refine traced.record hobject hordered ?_ ?_ ?_
  · intro n g' id state' revision' returned' hmem
    injection List.mem_singleton.mp hmem
  · intro n callback hmem
    cases List.mem_singleton.mp hmem
  · intro pending hsome
    cases hsome
    refine ⟨effect,operationId,⟨⟨state,b.revision,List.getElem?_concat_length⟩,rfl,rfl,hkind,
     ?_,fun operation hmem=>?_⟩⟩
    · rw [called_append,traced.ordered.called_length]
      rfl
    · exact absurd (List.mem_map_of_mem hmem) (hidle hphase)

lemma Traced.completion (traced:Traced h)
  (hin:h.inflight=before++(g,operation)::after) (hobject:h.objects g=some b)
  (hcompletion:Completion entity b operation outcome):
  Traced ({ h with inflight:=before++after }.record g outcome):=by
 have hconsumed:=traced.consumed hin
 cases hcompletion with
 | failed operation suspended error | raised hsucceeds suspended error | recovered hsucceeds
 | repeated revision suspended=>exact hconsumed.record_silent hobject rfl rfl rfl
 | @finished _ pending ran state revision phase suspended reaction hpending hran hreaction
  hconfirms hsucceeds=>
  obtain ⟨effect,operationId,hawaits⟩:=traced.pending hobject hpending
  have hlinked:=hawaits.linked operation (by rw [hin]; simp)
  refine hconsumed.record hobject ?_ ?_ ?_ ?_
  · refine traced.ordered.calls hawaits.handled ?_ fun operationId' hoperation=>?_
    · rwa [hawaits.uncalled,List.nil_append,←hawaits.callbacks]
    · obtain rfl:=Option.some.inj (hawaits.operation.symm.trans hoperation)
      exact hlinked.confirmed hconfirms
  · intro _ _ _ _ _ _ hmem
    obtain ⟨_,_,heq⟩:=List.mem_map.mp hmem
    cases heq
  · intro n callback hmem
    obtain ⟨_,_,heq⟩:=List.mem_map.mp hmem
    exact .inr ⟨pending,hpending,(Moment.ran.inj heq).1.symm⟩
  · intro _ hnone
    cases hnone

def Requests (moments:List (Moment S K)) (outcome:Outcome S K A) (operationId:OperationId):
  Prop:=
 match outcome.reaction with
 | .load duplicate=>duplicate=true ∧
  .committed outcome.behavior.persistenceId operationId∈moments
 | .write requested _ _=>requested=operationId
 | .done | .raised _=>True

lemma Traced.settle (hosted:Hosted h)
  (traced:Traced (h.record g outcome)) (hobject:h.objects g=some b)
  (howner:outcome.behavior.internalContext=b.internalContext)
  (hrequests:∀pending effect operationId,outcome.behavior.pending=some pending →
   Awaits (h.trace++outcome.moments) h.inflight g outcome.behavior.persistenceId pending
    effect operationId → Requests (h.trace++outcome.moments) outcome operationId)
  (accepted:Bool):Traced (h.settle settings g outcome accepted):=by
 have hsubmit:∀operation,(∀operationId,
  Requests (h.trace++outcome.moments) outcome operationId →
   Linked (h.trace++outcome.moments) outcome.behavior.persistenceId operationId operation) →
  Traced ((h.record g outcome).submit g operation):=by
  intro operation hlinked
  refine traced.withInflight fun g' operation' hmem=>?_
  rcases List.mem_append.mp hmem with hbefore|hnew
  · exact .inl hbefore
  · obtain ⟨rfl,rfl⟩:=Prod.mk.inj (List.mem_singleton.mp hnew)
    refine .inr fun b' pending effect operationId hobject' hpending hawaits=>?_
    obtain rfl:=Option.some.inj (record_object.symm.trans hobject')
    exact hlinked operationId (hrequests pending effect operationId hpending hawaits)
 rcases settle_cases settings h g outcome accepted with
  ⟨_,heq⟩ | heq | ⟨duplicate,hreaction,heq⟩|⟨requested,content,argument,hreaction,heq⟩
 · rwa [heq]
 · rw [heq]
   exact traced.move (moves_fail (hosted.record hobject howner) _)
 · rw [heq]
   refine hsubmit _ fun operationId hrequest=>?_
   unfold Requests at hrequest
   rw [hreaction] at hrequest
   exact hrequest
 · rw [heq]
   refine hsubmit _ fun operationId hrequest=>?_
   unfold Requests at hrequest
   rw [hreaction] at hrequest
   exact ⟨rfl,hrequest⟩

lemma Traced.invoked (hosted:Hosted h) (traced:Traced h)
  (hobject:h.objects g=some b) (hidle:b.phase=.running → g∉h.inflight.map (·.1))
  (hcommands:Commands b g h.trace.length outcome) (accepted:Bool):
  Traced (h.settle settings g outcome accepted):=by
 refine (traced.commands hobject hidle hcommands).settle hosted hobject hcommands.keeps.1 ?_ accepted
 cases hcommands with
 | refused suspended error | raised _ _ _ suspended error | done _ _ _ _ _ suspended
 | stops _ _ _ _=>exact fun _ _ _ _ _=>trivial
 | @writes state candidate operationId effect content hphase hstate hkind=>
  intro pending effect' operationId' hpending hawaits
  cases hpending
  exact (hawaits.unique ⟨state,b.revision,List.getElem?_concat_length⟩ hkind).symm

lemma Traced.delivered (hosted:Hosted h)
  (traced:Traced h) (hin:h.inflight=before++(g,operation)::after)
  (hobject:h.objects g=some b) (hcompletion:Completion entity b operation outcome) (accepted:Bool):
  Traced ({ h with inflight:=before++after }.settle settings g outcome accepted):=by
 refine (traced.completion hin hobject hcompletion).settle (hosted.withInflight _) hobject
  hcompletion.keeps.1 ?_ accepted
 cases hcompletion with
 | failed operation suspended error | raised hsucceeds suspended error
 | recovered hsucceeds=>exact fun _ _ _ _ _=>trivial
 | repeated revision suspended=>
  intro pending effect operationId hpending hawaits
  obtain ⟨effect',operationId',hbefore⟩:=traced.pending hobject hpending
  have hhandled:Handled (h.trace++[]) pending.effect g b.persistenceId effect':=
   hbefore.handled.append []
  obtain rfl:=hawaits.unique hhandled hbefore.operation
  have hlinked:=hbefore.linked (.wrote (.ok ⟨revision,true⟩)) (by rw [hin]; simp)
  exact ⟨rfl,List.mem_append_left _ hlinked⟩
 | finished hpending hran hreaction hconfirms hsucceeds=>
  intro _ _ _ hnone
  cases hnone

omit [DecidableEq A] in
lemma Traced.committed
  {request:WriteRequest S} {committedAtNs:ℤ} {result:WriteResult} {db:Database R}
  (traced:Traced h) (hrepresents:Represents settings h.db (world h).log)
  (learned:Option StoreError) (hin:h.inflight=before++(g,.write request)::after)
  (hmutate:h.db.mutate settings request.persistenceId request.expectedRevision
   request.operationId request.content committedAtNs=.ok (result,db)):
  Traced (h.commit request committedAtNs result db
   (before++(g,.wrote (learned.elim (.ok result) .error))::after)):=by
 unfold Host.commit
 generalize hmore:(if result.duplicate then [] else
  [.committed request.persistenceId request.operationId]:List (Moment S K))=more
 have hno:∀n callback,.ran n callback∉more:=by
  intro n callback hmem
  rw [←hmore] at hmem
  split_ifs at hmem
  · cases hmem
  · cases List.mem_singleton.mp hmem
 have hcommitted:.committed request.persistenceId request.operationId∈h.trace++more:=by
  rcases Database.mutate_cases hmutate with ⟨row,hrow,_,rfl,_⟩|⟨_,_,_,rfl,_⟩
  · -- A duplicate has its row, so there is an earlier commit.
    refine List.mem_append_left _ ?_
    by_contra hnone
    have hnew:h.db.operations.lookup (request.persistenceId,request.operationId)=none:=by
     refine OperationIdempotence.operation_new hrepresents fun mutation hmem hid hoperation=>?_
     obtain ⟨commit,hcommit,rfl⟩:=List.mem_map.mp hmem
     refine hnone ?_
     rw [←hid,←hoperation]
     exact traced.commits commit hcommit
    rw [hnew] at hrow
    cases hrow
  · rw [←hmore]
    exact List.mem_append_right _ (List.mem_singleton_self _)
 refine ⟨?_,fun hmem=>?_,fun {g' b pending} hobject hpending=>?_,fun commit hmem=>?_⟩
 · change Ordered (h.trace++more)
   rw [←hmore]
   split_ifs
   · rw [List.append_nil]
     exact traced.ordered
   · exact traced.ordered.committed _ _
 · rcases List.mem_append.mp hmem with hbefore|hnew
   · exact traced.owned hbefore
   · rw [←hmore] at hnew
     split_ifs at hnew
     · cases hnew
     · cases List.mem_singleton.mp hnew
 · obtain ⟨effect,operationId,hawaits⟩:=traced.pending hobject hpending
   have hgrown:=hawaits.append (hno pending.effect)
   refine ⟨effect,operationId,{ hgrown with linked:=fun operation hmem=>?_ }⟩
   rcases List.mem_append.mp hmem with hbefore|hrest
   · exact hgrown.linked operation (by rw [hin]; exact List.mem_append_left _ hbefore)
   · rcases List.mem_cons.mp hrest with heq|hafter
     · cases heq
       obtain ⟨hid,hoperation⟩:=hawaits.linked (.write request) (by rw [hin]; simp)
       cases learned with
       | none=>
        change .committed b.persistenceId operationId∈h.trace++more
        rwa [←hid,←hoperation]
       | some error=>trivial
     · exact hgrown.linked operation (by
        rw [hin]
        exact List.mem_append_right _ (List.mem_cons_of_mem _ hafter))
 · rcases List.mem_append.mp hmem with hbefore|hnew
   · exact List.mem_append_left _ (traced.commits commit hbefore)
   · split_ifs at hnew
     · cases hnew
     · obtain rfl:=List.mem_singleton.mp hnew
       exact hcommitted

omit [DecidableEq A] in
lemma Traced.answered {next:Operation S} (traced:Traced h)
  (hin:h.inflight=before++(g,operation)::after) (hnext:Answers settings h.db operation next):
  Traced { h with inflight:=before++(g,next)::after }:=by
 refine traced.withInflight fun g' operation' hmem=>?_
 rcases List.mem_append.mp hmem with hbefore|hrest
 · exact .inl (by rw [hin]; exact List.mem_append_left _ hbefore)
 · rcases List.mem_cons.mp hrest with heq|hafter
   · cases heq
     refine .inr fun b pending effect operationId hobject hpending hawaits=>?_
     have hlinked:=hawaits.linked operation (by rw [hin]; simp)
     cases hnext with
     | loaded hresult=>exact hlinked
     | aborted request error=>trivial
   · exact .inl (by rw [hin]; exact List.mem_append_right _ (List.mem_cons_of_mem _ hafter))

variable {settings:Settings} {entity:Entity S}

lemma Traced.change (traced:Traced h) (hosted:Hosted h)
  (hinvariant:Invariant settings entity (world h)) (hchange:Change settings entity h t):
  Traced t:=by
 cases hchange with
 | lifecycle hlife=>
  cases hlife with
  | move hmove=>exact traced.move hmove
  | construct startup _ _=>exact traced.construct hosted startup
 | @invoked a g b handleCommand callbackRaises accepted hstate hbehavior hobject=>
  refine traced.invoked hosted hobject (fun hphase=>?_) (receive_cases ..) accepted
  have howner:=hosted.owner hbehavior hobject
  have hlive:(h.actors b.internalContext).live=some g:=by
   rw [howner,live_eq_some,hstate]
   exact ⟨hbehavior,nofun⟩
  exact (hinvariant.running g (forget b) (world_behaviors_live hobject hlive) hphase).1
 | delivered accepted hin hobject _ houtcome=>
  exact traced.delivered hosted hin hobject houtcome.completion accepted
 | dropped hin _ _=>exact traced.consumed hin
 | answered hin hnext=>exact traced.answered hin hnext
 | committed learned hin hmutate=>exact traced.committed hinvariant.represents learned hin hmutate
 | maintained _ _=>exact ⟨traced.ordered,traced.owned,traced.pending,traced.commits⟩

lemma reachable_traced (hreachable:(changeSystem settings entity).Reachable h):Traced h:=by
 refine hreachable.invariant ?_ fun s _ t hreached hs hchange=>
  hs.change (reachable_hosted hreached) (reachable_invariant hreached) hchange
 rintro s ⟨readModel,rfl⟩
 exact ⟨.nil,nofun,nofun,
  fun _=>nofun⟩

end

end Movie.DurableTrace
