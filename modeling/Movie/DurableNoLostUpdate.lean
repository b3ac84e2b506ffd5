import Movie.DurableBehavior

/-!
# No lost update

The state a command handler is given is the content of the revision that its effect is
committed after, whatever the behaviours, restarts, duplicates and failures around it.
-/
namespace Movie.DurableNoLostUpdate

open Function Checked DurableModel SQLiteStore DurableHistory SQLiteStoreInvariant DurableBehavior Reachability

universe u

variable {R:Type u} {S:Type}

def HoldsState (entity:Entity S):Content → S → Prop
 | .tombstone,state=>state=entity.emptyState
 | .live encoded,state=>entity.codec.decode encoded=.ok state

def CommittedAt (commits:List (Commit S)) (id:PersistenceId) (revision:ℕ) (content:Content):Prop:=
 ∃commit∈commits,commit.mutation.persistenceId=id ∧ commit.revision=revision ∧
  commit.mutation.content=content

/-- `state` is the state at a revision: the empty one before the first commit. -/
def StateAt (entity:Entity S) (commits:List (Commit S)) (id:PersistenceId)
  (revision:ℕ) (state:S):Prop:=
 (revision=0 ∧ state=entity.emptyState) ∨
  ∃content,CommittedAt commits id revision content ∧ HoldsState entity content state

variable {g revision:ℕ} {id:PersistenceId} {callbacksRaise:Bool}

variable {commits:List (Commit S)} {content:Content} {entity:Entity S} {state:S}
 {callbacksRaise:Bool} {b:Behavior S} {s:World R S} {operation:Operation S}

lemma CommittedAt.append (h:CommittedAt commits id revision content) (more:List (Commit S)):
  CommittedAt (commits++more) id revision content:=by
 obtain ⟨commit,hmem,hrest⟩:=h
 exact ⟨commit,List.mem_append_left _ hmem,hrest⟩

lemma StateAt.append (h:StateAt entity commits id revision state)
  (more:List (Commit S)):StateAt entity (commits++more) id revision state:=by
 rcases h with h|⟨content,hcommit,hstate⟩
 · exact .inl h
 · exact .inr ⟨content,hcommit.append more,hstate⟩

/-! The methods of one behaviour. -/

lemma copyState_eq_ok {codec:StateCodec S} {copy:S}
  (h:Behavior.copyState codec state=.ok copy):copy=state:=by
 obtain ⟨encoded,hencode,hdecode⟩:=bind_eq_ok h
 rw [codec.decode_encode hencode] at hdecode
 exact (Except.ok.inj hdecode).symm

structure Sound (entity:Entity S) (commits:List (Commit S)) (id:PersistenceId)
  (result:Behavior S×Reaction S):Prop where
 identity:result.1.persistenceId=id
 running:result.1.phase=.running →
  ∃state,result.1.state=some state ∧ StateAt entity commits id result.1.revision state
 load:∀duplicate,result.2=.load duplicate → result.1.phase≠.running
 write:∀operationId content argument,result.2=.write operationId content argument →
  result.1.phase≠.running ∧ StateAt entity commits id result.1.revision argument ∧
   ∃pending,result.1.pending=some pending ∧ HoldsState entity content pending.state

def Quiet : Reaction S → Prop
 | .done | .raised _=>True
 | .load _ | .write ..=>False

lemma Sound.quiet
  {result:Behavior S×Reaction S} (hid:result.1.persistenceId=id) (hquiet:Quiet result.2)
  (running:result.1.phase=.running → ∃state,result.1.state=some state ∧
   StateAt entity commits id result.1.revision state):Sound entity commits id result where
 identity:=hid
 running:=running
 load duplicate h:=by
  rw [h] at hquiet
  exact hquiet.elim
 write operationId content argument h:=by
  rw [h] at hquiet
  exact hquiet.elim

lemma recoveredState_stateAt {record:Option DurableStateRecord}
  (h:Behavior.recoveredState entity record=.ok (state,revision))
  (hrecord:∀r,record=some r → CommittedAt commits id r.revision r.content):
  StateAt entity commits id revision state:=by
 cases record with
 | none=>
  obtain ⟨copy,hcopy,heq⟩:=bind_eq_ok h
  cases heq
  exact .inl ⟨rfl,copyState_eq_ok hcopy⟩
 | some record=>
  have hcommit:=hrecord record rfl
  cases hcontent:record.content with
  | tombstone=>
   simp only [Behavior.recoveredState,hcontent] at h
   obtain ⟨copy,hcopy,heq⟩:=bind_eq_ok h
   cases heq
   exact .inr ⟨.tombstone,hcontent▸hcommit,copyState_eq_ok hcopy⟩
  | live encoded=>
   simp only [Behavior.recoveredState,hcontent] at h
   obtain ⟨decoded,hdecode,hrest⟩:=bind_eq_ok h
   obtain ⟨copy,hcopy,heq⟩:=bind_eq_ok hrest
   cases heq
   rw [copyState_eq_ok hcopy]
   exact .inr ⟨.live encoded,hcontent▸hcommit,hdecode⟩

lemma finishPendingEffect_sound (b:Behavior S) (hid:b.persistenceId=id) {applyCandidate:Bool}
  (hrunning:b.phase=.running →
   ∃state,b.state=some state ∧ StateAt entity commits id b.revision state)
  (hpending:∀pending,b.pending=some pending →
   ∃state,(if applyCandidate then some pending.state else b.state)=some state ∧
    StateAt entity commits id b.revision state):
  Sound entity commits id (b.finishPendingEffect applyCandidate callbacksRaise):=by
 unfold Behavior.finishPendingEffect
 cases hsome:b.pending with
 | none=>exact .quiet hid trivial hrunning
 | some pending=>
  have hstate:=hpending pending hsome
  by_cases hraise:callbacksRaise
  · simp only [if_pos hraise]
    exact .quiet hid trivial fun _=>hstate
  · simp only [if_neg hraise]
    by_cases hstop:pending.stop
    · rw [if_pos hstop]
      exact .quiet hid trivial (by simp)
    · rw [if_neg hstop]
      exact .quiet hid trivial fun _=>hstate

lemma completeRecovery_sound {result:Except StoreError (Option DurableStateRecord)}
  {duplicate hookRaises:Bool} (hrunning:b.phase=.running → ∃state,b.state=some state ∧
   StateAt entity commits b.persistenceId b.revision state)
  (hrecord:∀record,result=.ok (some record) →
   CommittedAt commits b.persistenceId record.revision record.content):
  Sound entity commits b.persistenceId
   (b.completeRecovery entity result duplicate hookRaises callbacksRaise):=by
 unfold Behavior.completeRecovery
 cases result with
 | error e=>exact .quiet rfl trivial hrunning
 | ok record=>
  cases hrecovered:Behavior.recoveredState entity record with
  | error e=>
   simp only [hrecovered]
   exact .quiet rfl trivial hrunning
  | ok recovered=>
   have hstate:StateAt entity commits b.persistenceId recovered.2 recovered.1:=
    recoveredState_stateAt hrecovered fun r hr=>hrecord r (by rw [hr])
   simp only [hrecovered]
   by_cases hhook:hookRaises
   · rw [if_pos hhook]
     exact .quiet rfl trivial fun _=>⟨_,rfl,hstate⟩
   · rw [if_neg hhook]
     by_cases hdup:duplicate
     · rw [if_pos hdup]
       exact finishPendingEffect_sound
        { b with state:=some recovered.1,revision:=recovered.2 } rfl
        (fun _=>⟨_,rfl,hstate⟩) fun _ _=>⟨_,rfl,hstate⟩
     · rw [if_neg hdup]
       exact .quiet rfl trivial fun _=>⟨_,rfl,hstate⟩

lemma completeWrite_sound {result:Except StoreError WriteResult} (hphase:b.phase≠.running)
  (hcommitted:∀revision pending,result=.ok ⟨revision,false⟩ → b.pending=some pending →
   StateAt entity commits b.persistenceId revision pending.state):
  Sound entity commits b.persistenceId (b.completeWrite result callbacksRaise):=by
 have hrunning:b.phase=.running → ∃state,b.state=some state ∧
  StateAt entity commits b.persistenceId b.revision state:=fun h=>absurd h hphase
 unfold Behavior.completeWrite
 cases result with
 | error e=>exact .quiet rfl trivial hrunning
 | ok result=>
  obtain ⟨revision,duplicate⟩:=result
  cases duplicate with
  | true=>
   exact ⟨rfl,by simp [Behavior.beginRecovery],by simp [Behavior.beginRecovery],
    by simp [Behavior.beginRecovery]⟩
  | false=>
   simp only [if_neg Bool.false_ne_true]
   by_cases hrev:revision≠b.revision+1
   · rw [if_pos hrev]
     exact .quiet rfl trivial hrunning
   · rw [if_neg hrev]
     refine finishPendingEffect_sound { b with revision:=revision } rfl
      (fun h=>absurd h hphase) ?_
     intro pending hpending
     exact ⟨pending.state,rfl,hcommitted revision pending rfl hpending⟩

lemma Sound.persisting {operationId:OperationId} {argument:S}
  {pending:PendingEffect S} (hid:b.persistenceId=id) (hphase:b.phase=.persisting)
  (hpending:b.pending=some pending) (hstate:StateAt entity commits id b.revision argument)
  (hcandidate:HoldsState entity content pending.state):
  Sound entity commits id (b,.write operationId content argument) where
 identity:=hid
 running h:=by
  rw [hphase] at h
  cases h
 load _ h:=by cases h
 write _ _ _ h:=by
  cases h
  exact ⟨by simp [hphase],hstate,pending,hpending,hcandidate⟩

lemma receive_sound {handleCommand:S → Except String (DurableEffect S)}
  (hrunning:b.phase=.running → ∃state,b.state=some state ∧
   StateAt entity commits b.persistenceId b.revision state):
  Sound entity commits b.persistenceId (b.receive entity handleCommand callbacksRaise):=by
 unfold Behavior.receive
 split_ifs with hphase
 · exact .quiet rfl trivial hrunning
 · obtain ⟨state,hsome,hstate⟩:=hrunning (not_not.mp hphase)
   unfold Behavior.processCommand
   simp only [hsome]
   cases hcopy:Behavior.copyState entity.codec state with
   | error e=>exact .quiet rfl trivial hrunning
   | ok copy=>
    obtain rfl:=copyState_eq_ok hcopy
    simp only
    cases handleCommand copy with
    | error e=>exact .quiet rfl trivial hrunning
    | ok effect=>
     cases effect with
     | none stop=>
      simp only
      split_ifs
      · exact .quiet rfl trivial hrunning
      · exact .quiet rfl trivial (by simp)
      · exact .quiet rfl trivial hrunning
     | persist next operationId stop=>
      simp only
      cases hencode:entity.codec.encode next with
      | error e=>exact .quiet rfl trivial hrunning
      | ok encoded=>
       simp only [entity.codec.decode_encode hencode]
       have hcandidate:HoldsState entity (.live encoded) next:=
        entity.codec.decode_encode hencode
       exact .persisting rfl rfl rfl hstate hcandidate
     | delete operationId stop=>
      simp only
      cases hempty:Behavior.copyState entity.codec entity.emptyState with
      | error e=>exact .quiet rfl trivial hrunning
      | ok candidate=>
       have hcandidate:HoldsState entity .tombstone candidate:=copyState_eq_ok hempty
       exact .persisting rfl rfl rfl hstate hcandidate

/-! The invariant of the whole system. -/

/-- What is known about a request or completion while its behaviour is installed. -/
def OperationOk (entity:Entity S) (s:World R S) (g:ℕ):Operation S → Prop
 | .load id _=>∀b,s.behaviors g=some b → b.persistenceId=id
 | .loaded _ result=>∀b record,s.behaviors g=some b → result=.ok (some record) →
  CommittedAt s.commits b.persistenceId record.revision record.content
 | .write request=>
  StateAt entity s.commits request.persistenceId request.expectedRevision request.argument ∧
   ∀b pending,s.behaviors g=some b → b.pending=some pending →
    b.persistenceId=request.persistenceId ∧ HoldsState entity request.content pending.state
 | .wrote result=>∀b pending revision,s.behaviors g=some b → b.pending=some pending →
  result=.ok ⟨revision,false⟩ → StateAt entity s.commits b.persistenceId revision pending.state

def committedKeys (commits:List (Commit S)):List (PersistenceId×ℕ×Content):=
 commits.map fun commit=>
  (commit.mutation.persistenceId,commit.revision,commit.mutation.content)

structure Invariant (settings:Settings) (entity:Entity S) (s:World R S):Prop where
 represents:Represents settings s.db s.log
 revisions:committedKeys s.commits=(journal settings.sha256 s.log).map fun change=>
  (change.persistenceId,change.revision,change.content)
 arguments:∀commit∈s.commits,∃revision,commit.revision=revision+1 ∧
  StateAt entity s.commits commit.mutation.persistenceId revision commit.argument
 generations:(s.inflight.map (·.1)).Nodup
 fresh:∀g,s.nextGeneration≤g → s.behaviors g=none ∧ g∉s.inflight.map (·.1)
 running:∀g b,s.behaviors g=some b → b.phase=.running →
  g∉s.inflight.map (·.1) ∧
   ∃state,b.state=some state ∧ StateAt entity s.commits b.persistenceId b.revision state
 operations:∀g operation,(g,operation)∈s.inflight → OperationOk entity s g operation

lemma OperationOk.of_behavior {t:World R S} (h:OperationOk entity s g operation)
  (hcommits:t.commits=s.commits) (hbehavior:∀b,t.behaviors g=some b → ∃b₀,s.behaviors g=some b₀ ∧
   b₀.persistenceId=b.persistenceId ∧ b₀.pending=b.pending):
  OperationOk entity t g operation:=by
 cases operation with
 | load id duplicate=>
  intro b hb
  obtain ⟨b₀,hb₀,hid,_⟩:=hbehavior b hb
  rw [←hid]
  exact h b₀ hb₀
 | loaded duplicate result=>
  intro b record hb hresult
  obtain ⟨b₀,hb₀,hid,_⟩:=hbehavior b hb
  rw [hcommits,←hid]
  exact h b₀ record hb₀ hresult
 | write request=>
  refine ⟨hcommits▸h.1,fun b pending hb hpending=>?_⟩
  obtain ⟨b₀,hb₀,hid,hpend⟩:=hbehavior b hb
  rw [←hid]
  exact h.2 b₀ pending hb₀ (hpend.trans hpending)
 | wrote result=>
  intro b pending revision hb hpending hresult
  obtain ⟨b₀,hb₀,hid,hpend⟩:=hbehavior b hb
  rw [hcommits,←hid]
  exact h b₀ pending revision hb₀ (hpend.trans hpending) hresult

lemma OperationOk.commit
  (h:OperationOk entity s g operation) (db:Database R) (more:List (Commit S)):
  OperationOk entity { s with db:=db,commits:=s.commits++more } g operation:=by
 cases operation with
 | load id duplicate=>exact h
 | loaded duplicate result=>exact fun b record hb hr=>(h b record hb hr).append more
 | write request=>exact ⟨h.1.append more,h.2⟩
 | wrote result=>
  exact fun b pending revision hb hp hr=>(h b pending revision hb hp hr).append more

namespace Invariant

variable {settings:Settings} {entity:Entity S} {s:World R S}

section

variable (h:Invariant settings entity s)
include h

variable {operation:Operation S} {db:Database R}

lemma setBehavior {b:Option (Behavior S)} (hg:g<s.nextGeneration)
  (hrunning:∀b',b=some b' → b'.phase=.running → g∉s.inflight.map (·.1) ∧
   ∃state,b'.state=some state ∧ StateAt entity s.commits b'.persistenceId b'.revision state)
  (hsame:∀b',b=some b' → g∉s.inflight.map (·.1) ∨ ∃b₀,s.behaviors g=some b₀ ∧
   b₀.persistenceId=b'.persistenceId ∧ b₀.pending=b'.pending):
  Invariant settings entity (s.setBehavior g b) where
 represents:=h.represents
 revisions:=h.revisions
 arguments:=h.arguments
 generations:=h.generations
 fresh g' hg':=by
  refine ⟨?_,(h.fresh g' hg').2⟩
  have hne:g'≠g:=by
   rintro rfl
   exact absurd hg (Nat.not_lt.mpr hg')
  change update s.behaviors g b g'=none
  rw [update_of_ne hne]
  exact (h.fresh g' hg').1
 running g' b' hb' hphase:=by
  change update s.behaviors g b g'=some b' at hb'
  by_cases hne:g'=g
  · subst hne
    rw [update_self] at hb'
    exact hrunning b' hb' hphase
  · rw [update_of_ne hne] at hb'
    exact h.running g' b' hb' hphase
 operations g' operation hmem:=by
  refine (h.operations g' operation hmem).of_behavior rfl fun b' hb'=>?_
  change update s.behaviors g b g'=some b' at hb'
  by_cases hne:g'=g
  · subst hne
    rw [update_self] at hb'
    rcases hsame b' hb' with hidle|hsame
    · exact absurd (List.mem_map_of_mem hmem) hidle
    · exact hsame
  · rw [update_of_ne hne] at hb'
    exact ⟨b',hb',rfl,rfl⟩

lemma submit (hg:g<s.nextGeneration) (hidle:g∉s.inflight.map (·.1))
  (hphase:∀b,s.behaviors g=some b → b.phase≠.running) (hoperation:OperationOk entity s g operation):
  Invariant settings entity (s.submit g operation) where
 represents:=h.represents
 revisions:=h.revisions
 arguments:=h.arguments
 generations:=by
  change ((s.inflight++[(g,operation)]).map (·.1)).Nodup
  rw [List.map_append,List.nodup_append]
  refine ⟨h.generations,by simp,?_⟩
  rintro g' hg' last hlast rfl
  obtain rfl:g'=g:=by simpa using hlast
  exact hidle hg'
 fresh g' hg':=by
  refine ⟨(h.fresh g' hg').1,?_⟩
  change g'∉(s.inflight++[(g,operation)]).map (·.1)
  rw [List.map_append,List.mem_append,not_or]
  refine ⟨(h.fresh g' hg').2,?_⟩
  rw [List.map_singleton,List.mem_singleton]
  rintro rfl
  exact absurd hg (Nat.not_lt.mpr hg')
 running g' b hb hrunning:=by
  obtain ⟨hidle',hstate⟩:=h.running g' b hb hrunning
  refine ⟨?_,hstate⟩
  change g'∉(s.inflight++[(g,operation)]).map (·.1)
  rw [List.map_append,List.mem_append,not_or]
  refine ⟨hidle',?_⟩
  rw [List.map_singleton,List.mem_singleton]
  rintro rfl
  exact hphase b hb hrunning
 operations g' op hmem:=by
  rcases List.mem_append.mp hmem with hold|hnew
  · exact (h.operations g' op hold).of_behavior rfl fun b hb=>⟨b,hb,rfl,rfl⟩
  · obtain ⟨rfl,rfl⟩:=Prod.mk.inj (List.mem_singleton.mp hnew)
    exact hoperation.of_behavior rfl fun b hb=>⟨b,hb,rfl,rfl⟩

lemma consume {before after:List (ℕ×Operation S)} (hin:s.inflight=before++(g,operation)::after):
  Invariant settings entity { s with inflight:=before++after } ∧
   g∉(before++after).map (·.1):=by
 have hsub:(before++after).Sublist s.inflight:=by
  rw [hin]
  exact (List.sublist_cons_self _ _).append_left _
 have hmap:=hsub.map (fun entry:ℕ×Operation S=>entry.1)
 have hnodup:=h.generations
 refine ⟨⟨h.represents,h.revisions,h.arguments,hnodup.sublist hmap,?_,?_,?_⟩,?_⟩
 · exact fun g' hg'=>⟨(h.fresh g' hg').1,fun hmem=>(h.fresh g' hg').2 (hmap.mem hmem)⟩
 · intro g' b hb hphase
   obtain ⟨hidle,hstate⟩:=h.running g' b hb hphase
   exact ⟨fun hmem=>hidle (hmap.mem hmem),hstate⟩
 · intro g' op hmem
   exact (h.operations g' op (hsub.mem hmem)).of_behavior rfl fun b hb=>⟨b,hb,rfl,rfl⟩
 · rw [hin,List.map_append,List.map_cons] at hnodup
   rw [List.map_append]
   exact (List.nodup_cons.mp (List.perm_middle.nodup_iff.mp hnodup)).1

lemma advance {before after:List (ℕ×Operation S)}
  {next:Operation S} (hin:s.inflight=before++(g,operation)::after)
  (hnext:OperationOk entity s g next):
  Invariant settings entity { s with inflight:=before++(g,next)::after }:=by
 have hmap:(before++(g,next)::after).map (·.1)=s.inflight.map (·.1):=by
  rw [hin]
  simp
 refine ⟨h.represents,h.revisions,h.arguments,?_,?_,?_,?_⟩
 · change ((before++(g,next)::after).map (·.1)).Nodup
   rw [hmap]
   exact h.generations
 · intro g' hg'
   refine ⟨(h.fresh g' hg').1,?_⟩
   change g'∉(before++(g,next)::after).map (·.1)
   rw [hmap]
   exact (h.fresh g' hg').2
 · intro g' b hb hphase
   change g'∉(before++(g,next)::after).map (·.1) ∧ _
   rw [hmap]
   exact h.running g' b hb hphase
 · intro g' op hmem
   have hold:(g',op)=(g,next) ∨ (g',op)∈s.inflight:=by
    rw [hin]
    simp only [List.mem_append,List.mem_cons] at hmem ⊢
    tauto
   rcases hold with heq|hold
   · cases heq
     exact hnext.of_behavior rfl fun b hb=>⟨b,hb,rfl,rfl⟩
   · exact (h.operations g' op hold).of_behavior rfl fun b hb=>⟨b,hb,rfl,rfl⟩

section

variable (hg:g<s.nextGeneration) (hidle:g∉s.inflight.map (·.1)) {result:Behavior S×Reaction S}
 (hsound:Sound entity s.commits id result) (e:World.Surroundings)
include hg hidle hsound e

lemma fail : Invariant settings entity (s.fail g result.1 e):=by
 refine h.setBehavior hg ?_ fun _ _=>.inl hidle
 intro b hb hphase
 split_ifs at hb
 · cases hb
   refine ⟨hidle,?_⟩
   rw [hsound.identity]
   exact hsound.running hphase

lemma react : Invariant settings entity (s.react settings g result e):=by
 have hset:Invariant settings entity (s.setBehavior g (some result.1)):=by
  refine h.setBehavior hg ?_ fun _ _=>.inl hidle
  intro b hb hphase
  cases hb
  refine ⟨hidle,?_⟩
  rw [hsound.identity]
  exact hsound.running hphase
 have hget:∀b,(s.setBehavior g (some result.1)).behaviors g=some b → b=result.1:=by
  intro b hb
  change update s.behaviors g (some result.1) g=some b at hb
  rw [update_self] at hb
  exact (Option.some.inj hb).symm
 obtain ⟨b,reaction⟩:=result
 cases reaction with
 | done=>exact hset
 | raised error=>exact h.fail hg hidle hsound e
 | load duplicate=>
  simp only [World.react]
  split_ifs
  · refine hset.submit hg hidle ?_ ?_
    · intro b' hb'
      rw [hget b' hb']
      exact hsound.load duplicate rfl
    · intro b' hb'
      rw [hget b' hb']
  · exact h.fail hg hidle hsound e
 | write operationId content argument=>
  simp only [World.react]
  obtain ⟨hphase,hstate,pending,hpending,hcandidate⟩:=hsound.write _ _ _ rfl
  split_ifs
  · refine hset.submit hg hidle ?_ ⟨?_,?_⟩
    · intro b' hb'
      rw [hget b' hb']
      exact hphase
    · change StateAt entity s.commits b.persistenceId b.revision argument
      rw [hsound.identity]
      exact hstate
    · intro b' pending' hb' hpending'
      rw [hget b' hb'] at hpending' ⊢
      obtain rfl:=Option.some.inj (hpending.symm.trans hpending')
      exact ⟨rfl,hcandidate⟩
  · exact h.fail hg hidle hsound e

end

lemma load_committed {record:DurableStateRecord} (hload:s.db.load settings id=.ok (some record)):
  CommittedAt s.commits id record.revision record.content:=by
 unfold Database.load at hload
 cases hrow:s.db.states.lookup id with
 | none=>
  simp only [hrow] at hload
  cases hload
 | some row=>
  simp only [hrow] at hload
  split_ifs at hload
  obtain rfl:=Option.some.inj (Except.ok.inj hload)
  rw [h.represents.states,Option.map_eq_some_iff] at hrow
  obtain ⟨change,hlast,rfl⟩:=hrow
  obtain ⟨hmem,hid⟩:=List.mem_filter.mp (List.mem_of_getLast? hlast)
  have hkey:(change.persistenceId,change.revision,change.content) ∈
   committedKeys s.commits:=by
   rw [h.revisions]
   exact List.mem_map_of_mem (f := fun c:DurableStateChange=>
    (c.persistenceId,c.revision,c.content)) hmem
  obtain ⟨commit,hcommit,heq⟩:=List.mem_map.mp hkey
  simp only [Prod.mk.injEq] at heq
  exact ⟨commit,hcommit,heq.1.trans (of_decide_eq_true hid),heq.2.1,heq.2.2⟩

lemma commit {request:WriteRequest S}
  (hmem:(g,.write request)∈s.inflight) {committedAtNs:ℤ} {result:WriteResult}
  (hmutate:s.db.mutate settings request.persistenceId
   request.expectedRevision request.operationId request.content committedAtNs =
    .ok (result,db)):let commits:=s.commits++if result.duplicate then [] else
  [⟨⟨request.persistenceId,request.operationId,request.content,committedAtNs⟩,
   result.revision,request.argument⟩]
 Invariant settings entity { s with db:=db,commits:=commits } ∧
  OperationOk entity { s with db:=db,commits:=commits } g (.wrote (.ok result)):=by
 intro commits
 have hrequest:OperationOk entity s g (.write request):=h.operations g _ hmem
 rcases h.represents.mutate hmutate with ⟨hdup,rfl⟩|⟨rfl,hexpected,_,_,hrep⟩
 · have hcommits:commits=s.commits:=by simp [commits,hdup]
   rw [hcommits]
   refine ⟨h,fun b pending revision _ _ hresult=>?_⟩
   rw [Except.ok.inj hresult] at hdup
   cases hdup
 · have hcommits:commits=s.commits++[⟨⟨request.persistenceId,request.operationId,
    request.content,committedAtNs⟩,request.expectedRevision+1,request.argument⟩]:=rfl
   clear_value commits
   subst hcommits
   have hlast:CommittedAt (s.commits++[⟨⟨request.persistenceId,request.operationId,
    request.content,committedAtNs⟩,request.expectedRevision+1,request.argument⟩])
    request.persistenceId (request.expectedRevision+1) request.content:=
    ⟨_,List.mem_append_right _ (List.mem_singleton_self _),rfl,rfl,rfl⟩
   refine ⟨⟨?_,?_,?_,h.generations,h.fresh,?_,?_⟩,?_⟩
   · change Represents settings db (List.map _ (s.commits++_))
     rw [List.map_append]
     exact hrep
   · change List.map _ (s.commits++_)=List.map _ (journal _ (List.map _ (s.commits++_)))
     rw [List.map_append,List.map_append]
     change committedKeys s.commits++_=_
     rw [h.revisions,List.map_singleton,List.map_singleton,journal_snoc,List.map_append]
     change _=_++[(request.persistenceId,
      (mutationsOf s.log request.persistenceId).length+1,request.content)]
     rw [←hexpected]
     rfl
   · intro commit hcommit
     rcases List.mem_append.mp hcommit with hold|hnew
     · obtain ⟨revision,hrevision,hstate⟩:=h.arguments commit hold
       exact ⟨revision,hrevision,hstate.append _⟩
     · rw [List.mem_singleton.mp hnew]
       exact ⟨request.expectedRevision,rfl,hrequest.1.append _⟩
   · intro g' b hb hphase
     obtain ⟨hidle,state,hstate,hat⟩:=h.running g' b hb hphase
     exact ⟨hidle,state,hstate,hat.append _⟩
   · exact fun g' op hop=>(h.operations g' op hop).commit db _
   · intro b pending revision hb hpending hresult
     obtain ⟨hid,hcandidate⟩:=hrequest.2 b pending hb hpending
     cases hresult
     rw [hid]
     exact .inr ⟨request.content,hlast,hcandidate⟩

lemma maintain {transaction:Transaction R} {reply:Reply} (hkind:Maintenance transaction)
  (hrun:transaction.run settings s.db=.ok (reply,db)):
  Invariant settings entity { s with db:=db }:=by
 have hlogged:transaction.logged reply=[]:=by
  cases transaction with
  | upsert | delete=>exact hkind.elim
  | _=>rfl
 have hrep:=h.represents.run hrun
 rw [hlogged,List.append_nil] at hrep
 exact ⟨hrep,h.revisions,h.arguments,h.generations,h.fresh,h.running,
  fun g op hop=>(h.operations g op hop).of_behavior rfl fun b hb=>⟨b,hb,rfl,rfl⟩⟩

end

lemma start {readModel:R}:Invariant settings entity
   (⟨Database.create readModel,[],fun _=>none,0,[]⟩:World R S) where
 represents:=Represents.create settings readModel
 revisions:=rfl
 arguments _ h:=by cases h
 generations:=List.nodup_nil
 fresh _ _:=⟨rfl,by simp⟩
 running _ _ h:=by cases h
 operations _ _ h:=by cases h

section

variable (h:Invariant settings entity s)
include h

variable {b:Behavior S}

lemma behavior_lt (hb:s.behaviors g=some b):g<s.nextGeneration:=by
 by_contra hge
 rw [(h.fresh g (Nat.not_lt.mp hge)).1] at hb
 cases hb

lemma running_state (hb:s.behaviors g=some b) (hphase:b.phase=.running):
  ∃state,b.state=some state ∧ StateAt entity s.commits b.persistenceId b.revision state:=
 (h.running g b hb hphase).2

lemma create (id:PersistenceId) (e:World.Surroundings):
  Invariant settings entity (World.react settings { s with nextGeneration:=s.nextGeneration+1 }
   s.nextGeneration ((Behavior.create id).beginRecovery false) e):=by
 have hnext:Invariant settings entity { s with nextGeneration:=s.nextGeneration+1 }:=
  ⟨h.represents,h.revisions,h.arguments,h.generations,
   fun g hg=>h.fresh g (Nat.le_of_succ_le hg),h.running,
   fun g op hop=>(h.operations g op hop).of_behavior rfl fun b hb=>⟨b,hb,rfl,rfl⟩⟩
 have hsound:Sound entity s.commits id ((Behavior.create id).beginRecovery false):=
  ⟨rfl,by simp [Behavior.beginRecovery],by simp [Behavior.beginRecovery],
   by simp [Behavior.beginRecovery]⟩
 exact hnext.react (Nat.lt_succ_self _) (h.fresh _ (Nat.le_refl _)).2 hsound e

lemma command (hb:s.behaviors g=some b) (handleCommand:S → Except String (DurableEffect S))
  (callbacksRaise:Bool) (e:World.Surroundings):Invariant settings entity
   (s.react settings g (b.receive entity handleCommand callbacksRaise) e):=by
 by_cases hphase:b.phase=.running
 · exact h.react (h.behavior_lt hb) (h.running g b hb hphase).1
    (receive_sound (h.running_state hb)) e
 · have hreceive:b.receive entity handleCommand callbacksRaise=(b,.raised .suspended):=
    if_pos hphase
   rw [hreceive]
   refine h.setBehavior (h.behavior_lt hb) ?_ ?_
   · intro b' hb' hphase'
     split_ifs at hb'
     cases hb'
     exact absurd hphase' hphase
   · intro b' hb'
     split_ifs at hb'
     cases hb'
     exact .inr ⟨b,hb,rfl,rfl⟩

lemma deliver {before after:List (ℕ×Operation S)}
  {operation:Operation S} (hin:s.inflight=before++(g,operation)::after)
  (hb:s.behaviors g=some b) {result:Behavior S×Reaction S}
  (hsound:b.phase≠.running → Sound entity s.commits b.persistenceId result)
  (e:World.Surroundings):Invariant settings entity
   (World.react settings { s with inflight:=before++after } g result e):=by
 obtain ⟨hrest,hidle⟩:=h.consume hin
 have hphase:b.phase≠.running:=by
  intro hrun
  refine (h.running g b hb hrun).1 ?_
  rw [hin]
  simp
 exact hrest.react (h.behavior_lt hb) hidle (hsound hphase) e

lemma step {event:Event R S} {t:World R S}
  (hstep:(durableSystem settings entity).step s event t):Invariant settings entity t:=by
 cases event with
 | create id e=>
  obtain rfl:=hstep
  exact h.create id e
 | command g handleCommand callbacksRaise e=>
  obtain ⟨b,hb,rfl⟩:=hstep
  exact h.command hb handleCommand callbacksRaise e
 | runLoad g result=>
  obtain ⟨before,after,id,duplicate,hin,hresult,rfl⟩:=hstep
  have hop:OperationOk entity s g (.load id duplicate):=h.operations g _ (by rw [hin]; simp)
  refine h.advance hin fun b record hb hrecord=>?_
  rcases hresult with hload|⟨error,rfl⟩
  · rw [hop b hb]
    exact h.load_committed (hload.trans hrecord)
  · cases hrecord
 | commitWrite g committedAtNs learned=>
  obtain ⟨before,after,request,result,db,hin,hmutate,rfl⟩:=hstep
  obtain ⟨hcommit,hop⟩:=h.commit (by rw [hin]; simp:(g,.write request)∈s.inflight) hmutate
  refine hcommit.advance hin ?_
  cases learned with
  | none=>exact hop
  | some error=>
   intro b pending revision _ _ hresult
   cases hresult
 | abortWrite g error=>
  obtain ⟨before,after,request,hin,rfl⟩:=hstep
  refine h.advance hin fun b pending revision _ _ hresult=>?_
  cases hresult
 | deliver g hookRaises callbacksRaise e=>
  obtain ⟨before,after,operation,hin,hrest⟩:=hstep
  have hop:OperationOk entity s g operation:=h.operations g _ (by rw [hin]; simp)
  cases hb:s.behaviors g with
  | none=>
   rw [hb] at hrest
   cases operation with
   | load | write=>exact hrest.elim
   | loaded | wrote=>
    obtain rfl:=hrest
    exact (h.consume hin).1
  | some b=>
   rw [hb] at hrest
   cases operation with
   | load | write=>exact hrest.elim
   | loaded duplicate result=>
    obtain rfl:=hrest
    exact h.deliver hin hb (fun _=>completeRecovery_sound (h.running_state hb)
     fun record hrecord=>hop b record hb hrecord) e
   | wrote result=>
    obtain rfl:=hrest
    exact h.deliver hin hb (fun hphase=>completeWrite_sound hphase
     fun revision pending hresult hpending=>hop b pending revision hb hpending hresult) e
 | stop g=>
  obtain ⟨b,hb,rfl⟩:=hstep
  refine h.setBehavior (h.behavior_lt hb) ?_ ?_
  · intro b' hb' hphase
    cases hb'
    cases hphase
  · intro b' hb'
    cases hb'
    exact .inr ⟨b,hb,rfl,rfl⟩
 | replace g=>
  obtain ⟨hsome,rfl⟩:=hstep
  obtain ⟨b,hb⟩:=Option.isSome_iff_exists.mp hsome
  exact h.setBehavior (h.behavior_lt hb) (fun _ h=>by cases h) fun _ h=>by cases h
 | maintain transaction=>
  obtain ⟨hkind,reply,db,hrun,rfl⟩:=hstep
  exact h.maintain hkind hrun

end

end Invariant

/-- No lost update. Every revision of an identity is committed once, and the command
 handler that produced revision `r + 1` was called with the state of revision `r`. -/
theorem no_lost_update (settings:Settings) (entity:Entity S) {s:World R S}
  (h:(durableSystem settings entity).Reachable s):
  (s.commits.map fun commit=>(commit.mutation.persistenceId,commit.revision)).Nodup ∧
  ∀commit∈s.commits,∃r,commit.revision=r+1 ∧
   StateAt entity s.commits commit.mutation.persistenceId r commit.argument:=by
 have hinv:Invariant settings entity s:=by
  refine h.invariant (I := Invariant settings entity) ?_ fun s a t _ hs hstep=>hs.step hstep
  rintro _ ⟨readModel,rfl⟩
  exact .start
 refine ⟨?_,hinv.arguments⟩
 have hkeys:=congrArg (List.map fun key=>(key.1,key.2.1)) hinv.revisions
 rw [committedKeys,List.map_map,List.map_map] at hkeys
 change s.commits.map (fun commit=>(commit.mutation.persistenceId,commit.revision)) =
  (journal settings.sha256 s.log).map (fun change=>(change.persistenceId,change.revision)) at hkeys
 rw [hkeys]
 exact journal_revisions_nodup settings.sha256 s.log

def byteEntity : Entity UInt8 where
 codec:=
  { encode:=fun byte=>.ok (cartState byte)
    decode:=fun encoded=>
     match encoded.payload with
     | [byte]=>.ok byte
     | _=>.error "unexpected payload"
    decode_encode:=by
     intro byte encoded h
     cases h
     rfl }
 emptyState:=0

theorem no_lost_update_two_commands : ∃s:World Unit UInt8,
  (durableSystem plainSettings byteEntity).Reachable s ∧
  s.commits.map (fun commit=>(commit.revision,commit.argument))=[(1,0),(2,7)] ∧
  ∀commit∈s.commits,∃r,commit.revision=r+1 ∧
   StateAt byteEntity s.commits commit.mutation.persistenceId r commit.argument:=by
 have h₀:(durableSystem plainSettings byteEntity).Reachable
  (⟨Database.create (),[],fun _=>none,0,[]⟩:World Unit UInt8):=.start ⟨(),rfl⟩
 have h₁:=h₀.next (.create cartId ⟨true,false⟩) rfl
 have h₂:=h₁.next (.runLoad 0 (.ok none)) ⟨[],[],_,_,rfl,.inl rfl,rfl⟩
 have h₃:=h₂.next (.deliver 0 false false ⟨true,false⟩) ⟨[],[],_,rfl,rfl⟩
 have h₄:=h₃.next (.command 0 (fun _=>.ok (.persist 7 ⟨⟨1,by decide⟩⟩ false)) false
  ⟨true,false⟩) ⟨_,rfl,rfl⟩
 have h₅:=h₄.next (.commitWrite 0 5 none) ⟨[],[],_,_,_,rfl,rfl,rfl⟩
 have h₆:=h₅.next (.deliver 0 false false ⟨true,false⟩) ⟨[],[],_,rfl,rfl⟩
 have h₇:=h₆.next (.command 0 (fun _=>.ok (.persist 9 ⟨⟨2,by decide⟩⟩ false)) false
  ⟨true,false⟩) ⟨_,rfl,rfl⟩
 have h₈:=h₇.next (.commitWrite 0 6 none) ⟨[],[],_,_,_,rfl,rfl,rfl⟩
 exact ⟨_,h₈,rfl,(no_lost_update plainSettings byteEntity h₈).2⟩

end Movie.DurableNoLostUpdate
