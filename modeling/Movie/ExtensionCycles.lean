import Movie.ExtensionRegistry

/-!
# Waiting for extensions

The walk along `_waiting_for` always ends, and threads that are blocked in `get` never wait for each
other only. The walk may follow the entry of a thread that was notified and does not have the lock
yet.
-/
namespace Movie.ExtensionCycles

open Function Reachability ExtensionRegistry

def wake (thread:Thread):Thread:=⟨thread.frames,thread.call.map Call.wake⟩

inductive Shift (r:Registry) (event:Event) (r':Registry):Prop where
 | quiet (hkeys:r'.initializing=r.initializing) (hwaits:r'.waitingFor=r.waitingFor)
  (hthreads:r'.threads=r.threads ∨ r'.threads=fun thread=>wake (r.threads thread))
 | calls {thread key:ℕ} {frames:List Frame} (hevent:event=.get thread key)
  (hthread:r.threads thread=⟨frames,none⟩)
  (hkeys:r'.initializing=r.initializing) (hwaits:r'.waitingFor=r.waitingFor)
  (hthreads:r'.threads =
   update r.threads thread ⟨frames,some ⟨key,.entering⟩⟩)
 | leaves {thread key:ℕ} {phase:Phase}
  (hcall:(r.threads thread).call=some ⟨key,phase⟩) (hphase:phase≠.waiting)
  (hkeys:r'.initializing=r.initializing)
  (hwaits:r'.waitingFor=r.waitingFor.erase thread)
  (hthreads:r'.threads=update r.threads thread ⟨(r.threads thread).frames,none⟩)
 | waits {thread key owner fuel:ℕ} {phase:Phase}
  (hcall:(r.threads thread).call=some ⟨key,phase⟩) (hphase:phase≠.waiting)
  (howner:r.initializing.lookup key=some owner)
  (hwalk:walk ((r.waitingFor.erase thread).insert thread owner) thread fuel owner=some false)
  (hkeys:r'.initializing=r.initializing)
  (hwaits:r'.waitingFor=(r.waitingFor.erase thread).insert thread owner)
  (hthreads:r'.threads=update r.threads thread
   ⟨(r.threads thread).frames,some ⟨key,.waiting⟩⟩)
 | initializes {thread key:ℕ} {phase:Phase} {frame:Frame}
  (hcall:(r.threads thread).call=some ⟨key,phase⟩) (hphase:phase≠.waiting)
  (hfree:r.initializing.lookup key=none) (hkey:frame.key=key)
  (hkeys:r'.initializing=r.initializing.insert key thread)
  (hwaits:r'.waitingFor=r.waitingFor.erase thread)
  (hthreads:r'.threads=update r.threads thread
   ⟨frame::(r.threads thread).frames,none⟩)
 | steps {thread:ℕ} {frame frame':Frame} {frames:List Frame} (change:Thread → Thread)
  (hchange:change=id ∨ change=wake) (hthread:r.threads thread=⟨frame::frames,none⟩)
  (hkeys:r'.initializing=r.initializing) (hwaits:r'.waitingFor=r.waitingFor)
  (hthreads:r'.threads =
   update (fun thread=>change (r.threads thread)) thread ⟨frame'::frames,none⟩)
  (hkey:frame'.key=frame.key)
 | settles {thread:ℕ} {frame:Frame} {frames:List Frame}
  (hthread:r.threads thread=⟨frame::frames,none⟩)
  (hkeys:r'.initializing=r.initializing.erase frame.key)
  (hwaits:r'.waitingFor=r.waitingFor)
  (hthreads:r'.threads =
   fun other=>wake (update r.threads thread ⟨frames,none⟩ other))

section

variable {r r':Registry} {event:Event} {thread key fuel:ℕ}

lemma round_waits {owner:ℕ} (h:r.round thread key fuel=some (.waits owner)):
  r.initializing.lookup key=some owner ∧
   walk (r.waitingFor.insert thread owner) thread fuel owner=some false:=by
 unfold Registry.round at h
 repeat' split at h
 all_goals simp only [Option.some.injEq,reduceCtorEq,Option.map_eq_some_iff] at h
 obtain ⟨cycle,hwalk,hwaits⟩:=h
 cases cycle with
 | true=>cases hwaits
 | false=>
  simp only [Bool.false_eq_true,if_false,Outcome.waits.injEq] at hwaits
  subst hwaits
  rename_i howner _
  exact ⟨howner,hwalk⟩

lemma round_initializes (h:r.round thread key fuel=some .initializes):
  r.initializing.lookup key=none:=by
 unfold Registry.round at h
 repeat' split at h
 all_goals simp only [Option.some.injEq,reduceCtorEq,Option.map_eq_some_iff] at h
 · obtain ⟨cycle,-,hwaits⟩:=h
   cases cycle <;> cases hwaits
 · assumption

lemma shift_lock (h:r.lock thread fuel=some r'):Shift r event r':=by
 unfold Registry.lock at h
 split at h
 · rename_i key phase hcall
   split at h
   · cases h
   · rename_i hphase
     obtain ⟨outcome,hround,rfl⟩:=Option.map_eq_some_iff.mp h
     cases outcome with
     | raises | returns=>exact .leaves hcall hphase rfl rfl rfl
     | waits owner=>
      obtain ⟨howner,hwalk⟩:=round_waits hround
      exact .waits hcall hphase howner hwalk rfl rfl rfl
     | initializes=>
      have hfree:=round_initializes hround
      exact .initializes hcall hphase hfree rfl rfl rfl rfl
 · cases h

lemma shift_callback {frame:Frame} {frames:List Frame} {returns:Option Bool}
  (hthread:r.threads thread=⟨frame::frames,none⟩)
  (h:r.callback thread frame frames returns=some r'):Shift r event r':=by
 unfold Registry.callback at h
 dsimp only at h
 split at h
 case h_1=>
  cases h
  exact .steps wake (.inr rfl) hthread rfl rfl rfl rfl
 case h_6 | h_7=>cases h
 all_goals
  cases h
  exact .steps id (.inl rfl) hthread rfl rfl rfl rfl

lemma shift_settle {frame:Frame} {frames:List Frame} (hthread:r.threads thread=⟨frame::frames,none⟩)
  (h:r.settle thread frame frames=some r'):Shift r event r':=by
 unfold Registry.settle at h
 dsimp only at h
 split at h
 · split at h
   all_goals
    cases h
    exact .settles hthread rfl rfl rfl
 · obtain ⟨extension,-,rfl⟩:=Option.map_eq_some_iff.mp h
   exact .settles hthread rfl rfl rfl
 all_goals cases h

lemma shift_stopStep {fails:Bool} (h:r.stopStep fails=some r'):Shift r event r':=by
 unfold Registry.stopStep at h
 dsimp only at h
 split at h
 · split at h <;> cases h
   exact .quiet rfl rfl (.inr rfl)
 all_goals
  repeat' split at h
  all_goals cases h
  all_goals first
   | exact .quiet rfl rfl (.inl rfl)
   | exact .quiet rfl rfl (.inr rfl)

lemma shift_next (h:next r event=some r'):Shift r event r':=by
 cases event with
 | get thread key=>
  simp only [next] at h
  split at h
  · rename_i hthread
    cases h
    exact .calls rfl hthread rfl rfl rfl
  · rename_i hthread
    split at h <;> cases h
    exact .calls rfl hthread rfl rfl rfl
  · cases h
 | lock thread fuel=>exact shift_lock h
 | callback thread returns=>
  simp only [next] at h
  split at h
  · rename_i hthread
    exact shift_callback hthread h
  · cases h
 | settle thread=>
  simp only [next] at h
  split at h
  · rename_i hthread
    exact shift_settle hthread h
  · cases h
 | prepare=>
  simp only [next] at h
  split at h <;> cases h
  exact .quiet rfl rfl (.inr rfl)
 | stop fails=>exact shift_stopStep h

end

section

variable {waits:AList fun _:ℕ=>ℕ} {owner fuel current:ℕ}

def Edge (waits:AList fun _:ℕ=>ℕ) (first second:ℕ):Prop:=
 waits.lookup first=some second

def Ends (waits:AList fun _:ℕ=>ℕ) (thread:ℕ):Prop:=
 ∃last,Relation.ReflTransGen (Edge waits) thread last ∧ waits.lookup last=none

lemma Ends.erase {thread:ℕ} (h:Ends waits thread) (left:ℕ):
  Ends (waits.erase left) thread:=by
 obtain ⟨last,hchain,hlast⟩:=h
 induction hchain using Relation.ReflTransGen.head_induction_on with
 | refl=>
  refine ⟨last,.refl,?_⟩
  by_cases heq:last=left
  · rw [heq,AList.lookup_erase]
  · rw [AList.lookup_erase_ne heq,hlast]
 | head hedge hchain ih=>
  rename_i first second
  by_cases heq:first=left
  · exact ⟨first,.refl,by rw [heq,AList.lookup_erase]⟩
  · obtain ⟨end',hrest,hend⟩:=ih
    exact ⟨end',.head (by rwa [Edge,AList.lookup_erase_ne heq]) hrest,hend⟩

lemma Ends.insert {thread entering:ℕ} (h:Ends waits thread)
  (hfree:waits.lookup entering=none) (howner:Ends (waits.insert entering owner) owner):
  Ends (waits.insert entering owner) thread:=by
 obtain ⟨last,hchain,hlast⟩:=h
 induction hchain using Relation.ReflTransGen.head_induction_on with
 | refl=>
  by_cases heq:last=entering
  · obtain ⟨end',hrest,hend⟩:=howner
    exact ⟨end',.head (by rw [Edge,heq,AList.lookup_insert]) hrest,hend⟩
  · exact ⟨last,.refl,by rw [AList.lookup_insert_ne heq,hlast]⟩
 | head hedge hchain ih=>
  rename_i first second
  have heq:first≠entering:=by
   rintro rfl
   rw [Edge,hfree] at hedge
   cases hedge
  obtain ⟨end',hrest,hend⟩:=ih
  exact ⟨end',.head (by rwa [Edge,AList.lookup_insert_ne heq]) hrest,hend⟩

lemma ends_of_walk (h:walk waits owner fuel current=some false):Ends waits current:=by
 induction fuel generalizing current with
 | zero=>cases h
 | succ fuel ih=>
  rw [walk] at h
  split at h
  · rename_i hnone
    exact ⟨current,.refl,hnone⟩
  · rename_i following hsome
    split at h
    · cases h
    · obtain ⟨last,hrest,hlast⟩:=ih h
      exact ⟨last,.head hsome hrest,hlast⟩

lemma cycle_of_walk (h:walk waits owner fuel current=some true):
  Relation.TransGen (Edge waits) current owner:=by
 induction fuel generalizing current with
 | zero=>cases h
 | succ fuel ih=>
  rw [walk] at h
  split at h
  · cases h
  · rename_i following hsome
    split at h
    · rename_i heq
      exact .single (heq▸hsome)
    · exact .head hsome (ih h)

lemma walk_isSome (owner:ℕ) {thread:ℕ} (h:Ends waits current) (hne:current≠thread):
  ∃fuel,(walk (waits.insert thread owner) thread fuel current).isSome:=by
 obtain ⟨last,hchain,hlast⟩:=h
 induction hchain using Relation.ReflTransGen.head_induction_on with
 | refl=>exact ⟨1,by rw [walk,AList.lookup_insert_ne hne,hlast]; rfl⟩
 | head hedge hchain ih=>
  rename_i first second
  have hlookup:(waits.insert thread owner).lookup first=some second:=by
   rwa [AList.lookup_insert_ne hne]
  by_cases heq:second=thread
  · exact ⟨1,by simp [walk,hlookup,heq]⟩
  · obtain ⟨fuel,hfuel⟩:=ih heq
    exact ⟨fuel+1,by simpa [walk,hlookup,heq] using hfuel⟩

end

structure Sound (r:Registry):Prop where
 waits:∀thread owner,r.waitingFor.lookup thread=some owner →
  ∃key phase,(r.threads thread).call=some ⟨key,phase⟩ ∧ phase≠.entering
 blocked:∀thread key,(r.threads thread).call=some ⟨key,.waiting⟩ →
  ∃owner,r.waitingFor.lookup thread=some owner ∧ r.initializing.lookup key=some owner
 owned:∀key owner,r.initializing.lookup key=some owner →
  key∈(r.threads owner).frames.map (·.key)
 ends:∀thread,Ends r.waitingFor thread

section

variable {r r':Registry}

lemma wake_call (thread:Thread) (key:ℕ):(wake thread).call≠some ⟨key,.waiting⟩:=by
 rcases thread with ⟨frames,_|⟨other,phase⟩⟩
 · simp [wake]
 · cases phase <;> simp [wake,Call.wake]

lemma wake_entry {thread:Thread} {key:ℕ} {phase:Phase} (h:thread.call=some ⟨key,phase⟩)
  (hphase:phase≠.entering):
  ∃phase,(wake thread).call=some ⟨key,phase⟩ ∧ phase≠.entering:=by
 cases phase <;> simp_all [wake,Call.wake]

lemma Sound.notified (h:Sound r) (hwaits:r'.waitingFor=r.waitingFor)
  (hthreads:∀thread,(r'.threads thread).call=(wake (r.threads thread)).call)
  (howned:∀key owner,r'.initializing.lookup key=some owner →
   key∈(r'.threads owner).frames.map (·.key)):Sound r':=by
 refine ⟨fun thread owner hentry=>?_,fun thread key hcall=>?_,howned,hwaits▸h.ends⟩
 · rw [hwaits] at hentry
   obtain ⟨key,phase,hcall,hphase⟩:=h.waits thread owner hentry
   rw [hthreads]
   exact ⟨key,wake_entry hcall hphase⟩
 · rw [hthreads] at hcall
   exact absurd hcall (wake_call _ key)

lemma Sound.own (h:Sound r) (thread:ℕ)
  (hothers:∀other,other≠thread → (r'.threads other).call=(r.threads other).call)
  (hthread:∀key,(r'.threads thread).call≠some ⟨key,.waiting⟩)
  (hwaits:r'.waitingFor=r.waitingFor.erase thread ∨
   r'.waitingFor=r.waitingFor ∧ (r.threads thread).call=none)
  (hkeys:∀key owner,r.initializing.lookup key=some owner →
   r'.initializing.lookup key=some owner)
  (howned:∀key owner,r'.initializing.lookup key=some owner →
   key∈(r'.threads owner).frames.map (·.key)):Sound r':=by
 have hnone:r'.waitingFor.lookup thread=none:=by
  rcases hwaits with hwaits|⟨hwaits,hcall⟩
  · rw [hwaits,AList.lookup_erase]
  · rw [hwaits,Option.eq_none_iff_forall_ne_some]
    intro owner hentry
    obtain ⟨key,phase,hsome,-⟩:=h.waits thread owner hentry
    rw [hcall] at hsome
    cases hsome
 have hentries (other:ℕ) (hne:other≠thread):
  r'.waitingFor.lookup other=r.waitingFor.lookup other:=by
  rcases hwaits with hwaits|⟨hwaits,-⟩
  · rw [hwaits,AList.lookup_erase_ne hne]
  · rw [hwaits]
 refine ⟨fun other owner hentry=>?_,fun other key hcall=>?_,howned,fun other=>?_⟩
 · have hne:other≠thread:=by
    rintro rfl
    rw [hnone] at hentry
    cases hentry
   rw [hothers other hne]
   exact h.waits other owner (hentries other hne▸hentry)
 · have hne:other≠thread:=fun heq=>hthread key (heq▸hcall)
   rw [hothers other hne] at hcall
   obtain ⟨owner,hentry,hkey⟩:=h.blocked other key hcall
   exact ⟨owner,by rw [hentries other hne,hentry],hkeys key owner hkey⟩
 · rcases hwaits with hwaits|⟨hwaits,-⟩
   · exact hwaits▸(h.ends other).erase thread
   · exact hwaits▸h.ends other

lemma Sound.block (h:Sound r) {thread key owner fuel:ℕ}
  (howner:r.initializing.lookup key=some owner)
  (hwalk:walk ((r.waitingFor.erase thread).insert thread owner) thread fuel owner=some false)
  (hkeys:r'.initializing=r.initializing)
  (hwaits:r'.waitingFor=(r.waitingFor.erase thread).insert thread owner)
  (hthreads:r'.threads=update r.threads thread
   ⟨(r.threads thread).frames,some ⟨key,.waiting⟩⟩):Sound r':=by
 have hentries (other:ℕ) (hne:other≠thread):
  r'.waitingFor.lookup other=r.waitingFor.lookup other:=by
  rw [hwaits,AList.lookup_insert_ne hne,AList.lookup_erase_ne hne]
 refine ⟨fun other found hentry=>?_,fun other wanted hcall=>?_,fun wanted found hkey=>?_,
  fun other=>?_⟩
 · rw [hthreads]
   by_cases heq:other=thread
   · subst heq
     exact ⟨key,.waiting,by simp,by simp⟩
   · rw [update_of_ne heq]
     exact h.waits other found (hentries other heq▸hentry)
 · rw [hthreads] at hcall
   by_cases heq:other=thread
   · subst heq
     simp only [update_self,Option.some.injEq,Call.mk.injEq,and_true] at hcall
     exact ⟨owner,by rw [hwaits,AList.lookup_insert],by rw [hkeys,←hcall,howner]⟩
   · rw [update_of_ne heq] at hcall
     rw [hentries other heq,hkeys]
     exact h.blocked other wanted hcall
 · rw [hkeys] at hkey
   have howned:=h.owned wanted found hkey
   rw [hthreads]
   by_cases heq:found=thread
   · subst heq
     simpa using howned
   · rwa [update_of_ne heq]
 · rw [hwaits]
   exact ((h.ends other).erase thread).insert (AList.lookup_erase _ _) (ends_of_walk hwalk)

lemma Sound.shift {event:Event} (h:Sound r) (hshift:Shift r event r'):Sound r':=by
 cases hshift with
 | quiet hkeys hwaits hthreads=>
  rcases hthreads with hthreads|hthreads
  · exact ⟨by rw [hwaits,hthreads]; exact h.waits,by rw [hwaits,hthreads,hkeys]; exact h.blocked,
     by rw [hthreads,hkeys]; exact h.owned,hwaits▸h.ends⟩
  · exact h.notified hwaits (by simp [hthreads]) (by simpa [hthreads,hkeys,wake] using h.owned)
 | calls hevent hthread hkeys hwaits hthreads=>
  rename_i thread key frames
  refine h.own thread (fun other hne=>by simp [hthreads,hne]) (by simp [hthreads])
   (.inr ⟨hwaits,by rw [hthread]⟩) (by simp [hkeys]) fun wanted owner hkey=>?_
  have howned:=h.owned wanted owner (hkeys▸hkey)
  by_cases heq:owner=thread
  · subst heq
    simpa [hthreads,hthread] using howned
  · simpa [hthreads,heq] using howned
 | leaves hcall hphase hkeys hwaits hthreads=>
  rename_i thread key phase
  refine h.own thread (fun other hne=>by simp [hthreads,hne]) (by simp [hthreads])
   (.inl hwaits) (by simp [hkeys]) fun wanted owner hkey=>?_
  have howned:=h.owned wanted owner (hkeys▸hkey)
  by_cases heq:owner=thread
  · subst heq
    simpa [hthreads] using howned
  · simpa [hthreads,heq] using howned
 | waits hcall hphase howner hwalk hkeys hwaits hthreads=>
  exact h.block howner hwalk hkeys hwaits hthreads
 | initializes hcall hphase hfree hkey hkeys hwaits hthreads=>
  rename_i thread key phase frame
  refine h.own thread (fun other hne=>by simp [hthreads,hne]) (by simp [hthreads])
   (.inl hwaits) (fun wanted owner hsome=>?_) fun wanted owner hsome=>?_
  · have hne:wanted≠key:=by
     rintro rfl
     rw [hfree] at hsome
     cases hsome
    rw [hkeys,AList.lookup_insert_ne hne,hsome]
  · by_cases heq:wanted=key
    · subst heq
      rw [hkeys,AList.lookup_insert] at hsome
      cases hsome
      simp [hthreads,hkey]
    · rw [hkeys,AList.lookup_insert_ne heq] at hsome
      have howned:=h.owned wanted owner hsome
      by_cases hown:owner=thread
      · subst hown
        simp only [hthreads,update_self,List.map_cons,List.mem_cons]
        exact .inr howned
      · simpa [hthreads,hown] using howned
 | steps change hchange hthread hkeys hwaits hthreads hkey=>
  rename_i thread frame frame' frames
  have howned (wanted owner:ℕ) (hsome:r'.initializing.lookup wanted=some owner):
   wanted∈(r'.threads owner).frames.map (·.key):=by
   have howned:=h.owned wanted owner (hkeys▸hsome)
   by_cases heq:owner=thread
   · subst heq
     simpa [hthreads,hthread,hkey] using howned
   · rcases hchange with rfl|rfl <;> simpa [hthreads,heq,wake] using howned
  rcases hchange with rfl|rfl
  · exact h.own thread (fun other hne=>by simp [hthreads,hne]) (by simp [hthreads])
     (.inr ⟨hwaits,by rw [hthread]⟩) (by simp [hkeys]) howned
  · refine h.notified hwaits (fun other=>?_) howned
    by_cases heq:other=thread
    · subst heq
      simp [hthreads,hthread,wake]
    · simp [hthreads,heq]
 | settles hthread hkeys hwaits hthreads=>
  rename_i thread frame frames
  refine h.notified hwaits (fun other=>?_) fun wanted owner hsome=>?_
  · by_cases heq:other=thread
    · subst heq
      simp [hthreads,hthread,wake]
    · simp [hthreads,heq]
  · have hne:wanted≠frame.key:=by
     rintro rfl
     rw [hkeys,AList.lookup_erase] at hsome
     cases hsome
    rw [hkeys,AList.lookup_erase_ne hne] at hsome
    have howned:=h.owned wanted owner hsome
    by_cases heq:owner=thread
    · subst heq
      simpa [hthreads,hthread,wake,hne] using howned
    · simpa [hthreads,heq,wake] using howned

lemma reachable_sound (h:system.Reachable r):Sound r:=by
 refine h.invariant ?_ fun _ _ _ _ hsound hstep=>hsound.shift (shift_next hstep)
 rintro _ ⟨configured,-,rfl⟩
 exact ⟨by simp [Registry.activate],by simp [Registry.activate],by simp [Registry.activate],
  fun thread=>⟨thread,.refl,by simp [Registry.activate]⟩⟩

end

section

variable {r:Registry}

lemma round_isSome (h:Sound r) (thread key:ℕ):
  ∃fuel,({ r with waitingFor:=r.waitingFor.erase thread }.round thread key fuel).isSome:=by
 cases howner:r.initializing.lookup key with
 | none=>
  refine ⟨0,?_⟩
  simp only [Registry.round,howner]
  repeat' split
  all_goals rfl
 | some owner=>
  by_cases heq:owner=thread
  · refine ⟨0,?_⟩
    simp only [Registry.round,howner,heq]
    repeat' split
    all_goals first | rfl | contradiction
  · obtain ⟨fuel,hfuel⟩:=walk_isSome owner ((h.ends owner).erase thread) heq
    refine ⟨fuel,?_⟩
    simp only [Registry.round,howner,heq]
    repeat' split
    all_goals first | rfl | contradiction | simpa using hfuel

/-- Every chain of waits ends in a thread that is not blocked, so that `get` gets through its
 section under the lock, and no threads wait for keys that only they initialise. -/
theorem waits_end (r:Registry) (h:system.Reachable r):
  (∀thread,∃last,Relation.ReflTransGen (Edge r.waitingFor) thread last ∧
   r.waitingFor.lookup last=none ∧ ∀key,(r.threads last).call≠some ⟨key,.waiting⟩) ∧
  (∀thread key phase,(r.threads thread).call=some ⟨key,phase⟩ → phase≠.waiting →
   ∃fuel,(r.lock thread fuel).isSome) ∧
  ∀blocked:Set ℕ,blocked.Nonempty → ¬∀thread∈blocked,∃key owner,
   (r.threads thread).call=some ⟨key,.waiting⟩ ∧ r.initializing.lookup key=some owner ∧
   owner∈blocked:=by
 have hsound:=reachable_sound h
 refine ⟨fun thread=>?_,fun thread key phase hcall hphase=>?_,fun blocked ⟨first,hfirst⟩ hall=>?_⟩
 · obtain ⟨last,hchain,hlast⟩:=hsound.ends thread
   refine ⟨last,hchain,hlast,fun key hcall=>?_⟩
   obtain ⟨owner,hentry,-⟩:=hsound.blocked last key hcall
   rw [hlast] at hentry
   cases hentry
 · obtain ⟨fuel,hfuel⟩:=round_isSome hsound thread key
   exact ⟨fuel,by simpa [Registry.lock,hcall,hphase] using hfuel⟩
 · -- the chain from a member never leaves the set, where every thread has an entry
   obtain ⟨last,hchain,hlast⟩:=hsound.ends first
   have hmember:last∈blocked:=by
    clear hlast
    induction hchain with
    | refl=>exact hfirst
    | tail _ hedge ih=>
     obtain ⟨key,owner,hcall,hkey,howner⟩:=hall _ ih
     obtain ⟨entry,hentry,hsame⟩:=hsound.blocked _ key hcall
     rw [hsame] at hkey
     rw [Edge,hentry,hkey] at hedge
     cases hedge
     exact howner
   obtain ⟨key,owner,hcall,-,-⟩:=hall last hmember
   obtain ⟨entry,hentry,-⟩:=hsound.blocked last key hcall
   rw [hlast] at hentry
   cases hentry

def waitingRun : List Event:=
 [.get 1 0,.lock 1 0,.get 2 1,.lock 2 0,.get 1 1,.lock 1 2]

theorem waits_end_waiting : ∃r,system.Reachable r ∧ (r.threads 1).call=some ⟨1,.waiting⟩ ∧
  r.waitingFor.lookup 1=some 2 ∧ ∃last,Relation.ReflTransGen (Edge r.waitingFor) 1 last ∧
   r.waitingFor.lookup last=none ∧ ∀key,(r.threads last).call≠some ⟨key,.waiting⟩:=by
 have hcreated:system.Reachable (.activate []):=.start ⟨[],List.nodup_nil,rfl⟩
 have hplayed:=hcreated.play (f := next) (fun _ _ _ h=>h) waitingRun rfl
 exact ⟨_,hplayed,rfl,rfl,(waits_end _ hplayed).1 1⟩

end

section

variable {r:Registry}

def Stuck (r:Registry) (first second:ℕ):Prop:=
 ∃key phase,(r.threads first).call=some ⟨key,phase⟩ ∧
  r.initializing.lookup key=some second

lemma round_cycle {thread key fuel:ℕ} (h:r.round thread key fuel=some (.raises .cycle)):
  ∃owner,r.initializing.lookup key=some owner ∧
   walk (r.waitingFor.insert thread owner) thread fuel owner=some true:=by
 unfold Registry.round at h
 repeat' split at h
 all_goals simp only [Option.some.injEq,reduceCtorEq,Outcome.raises.injEq,
  Option.map_eq_some_iff] at h
 obtain ⟨cycle,hwalk,hraises⟩:=h
 cases cycle with
 | true=>
  rename_i owner howner _
  exact ⟨owner,howner,hwalk⟩
 | false=>cases hraises

/-- No other thread has been notified and does not have the lock yet. -/
def Settled (r:Registry) (thread:ℕ):Prop:=
 ∀other,other≠thread → ∀key,(r.threads other).call≠some ⟨key,.woken⟩

structure Reports (r:Registry) (thread key:ℕ):Prop where
 call:∃phase,(r.threads thread).call=some ⟨key,phase⟩ ∧ phase≠.waiting
 raises:∃fuel,{ r with waitingFor:=r.waitingFor.erase thread }.round thread key fuel =
  some (.raises .cycle)

lemma stuck_of_edge (h:Sound r) {thread key owner first second:ℕ} {phase:Phase}
  (hcall:(r.threads thread).call=some ⟨key,phase⟩)
  (howner:r.initializing.lookup key=some owner) (hsettled:Settled r thread)
  (hedge:Edge ((r.waitingFor.erase thread).insert thread owner) first second):
  Stuck r first second:=by
 by_cases heq:first=thread
 · subst heq
   rw [Edge,AList.lookup_insert] at hedge
   cases hedge
   exact ⟨key,phase,hcall,howner⟩
 · rw [Edge,AList.lookup_insert_ne heq,AList.lookup_erase_ne heq] at hedge
   obtain ⟨wanted,state,hwanted,hstate⟩:=h.waits first second hedge
   cases state with
   | entering=>exact absurd rfl hstate
   | woken=>exact absurd hwanted (hsettled first heq wanted)
   | waiting=>
    obtain ⟨found,hentry,hkey⟩:=h.blocked first wanted hwanted
    rw [hedge] at hentry
    cases hentry
    exact ⟨wanted,.waiting,hwanted,hkey⟩

lemma stuck_of_reports (h:Sound r) {thread key:ℕ} (hreports:Reports r thread key)
  (hsettled:Settled r thread):Relation.TransGen (Stuck r) thread thread:=by
 obtain ⟨⟨phase,hcall,-⟩,fuel,hraises⟩:=hreports
 obtain ⟨owner,howner,hwalk⟩:=round_cycle hraises
 have hcycle:=Relation.TransGen.mono
  (fun _ _=>stuck_of_edge h hcall howner hsettled) _ _ (cycle_of_walk hwalk)
 exact .head ⟨key,phase,hcall,howner⟩ hcycle

/-- `get` is only called for keys on which the key that is being initialised depends. -/
def Depends (dependsOn:ℕ → ℕ → Prop) (r:Registry):Event → Prop
 | .get thread key=>∀frame,(r.threads thread).frames.head? = some frame → dependsOn frame.key key
 | _=>True

def line (thread:Thread):List ℕ:=
 (thread.call.map (·.key)).toList++thread.frames.map (·.key)

def Nested (dependsOn:ℕ → ℕ → Prop) (r:Registry):Prop:=
 ∀thread,(line (r.threads thread)).Pairwise fun inner outer=>
  Relation.TransGen dependsOn outer inner

lemma line_wake (thread:Thread):line (wake thread)=line thread:=by
 rcases thread with ⟨frames,_|⟨key,phase⟩⟩
 · rfl
 · cases phase <;> rfl

section

variable {r':Registry} {event:Event} {dependsOn:ℕ → ℕ → Prop}

lemma Nested.update (h:Nested dependsOn r) (thread:ℕ) (value:Thread)
  (hthreads:∀other,line (r'.threads other) =
   line (update r.threads thread value other))
  (hvalue:(line value).Pairwise fun inner outer=>Relation.TransGen dependsOn outer inner):
  Nested dependsOn r':=by
 intro other
 rw [hthreads other]
 by_cases heq:other=thread
 · simpa [heq] using hvalue
 · simpa [heq] using h other

lemma Nested.shift (h:Nested dependsOn r) (hdepends:Depends dependsOn r event)
  (hshift:Shift r event r'):Nested dependsOn r':=by
 cases hshift with
 | quiet hkeys hwaits hthreads=>
  intro thread
  rcases hthreads with hthreads|hthreads
  · exact hthreads▸h thread
  · rw [hthreads,line_wake]
    exact h thread
 | calls hevent hthread hkeys hwaits hthreads=>
  rename_i thread key frames
  subst hevent
  refine h.update thread _ (fun _=>by rw [hthreads]) ?_
  have hframes:=h thread
  rw [hthread] at hframes
  cases frames with
  | nil=>simp [line]
  | cons frame frames=>
   have hdirect:dependsOn frame.key key:=hdepends frame (by simp [hthread])
   simp only [line,Option.map_none,Option.toList_none,List.nil_append,List.map_cons,
    List.pairwise_cons] at hframes
   simp only [line,Option.map_some,Option.toList_some,List.cons_append,List.nil_append,
    List.map_cons,List.pairwise_cons,List.mem_cons]
   refine ⟨?_,hframes⟩
   rintro outer (rfl|houter)
   · exact .single hdirect
   · exact (hframes.1 outer houter).tail hdirect
 | leaves hcall hphase hkeys hwaits hthreads=>
  rename_i thread key phase
  refine h.update thread _ (fun _=>by rw [hthreads]) ?_
  have hthread:=h thread
  simp only [line,hcall,Option.map_some,Option.toList_some,List.cons_append,List.nil_append,
   List.pairwise_cons] at hthread
  exact hthread.2
 | waits hcall hphase howner hwalk hkeys hwaits hthreads=>
  rename_i thread key owner fuel phase
  refine h.update thread _ (fun _=>by rw [hthreads]) ?_
  simpa [line,hcall] using h thread
 | initializes hcall hphase hfree hkey hkeys hwaits hthreads=>
  rename_i thread key phase frame
  refine h.update thread _ (fun _=>by rw [hthreads]) ?_
  simpa [line,hcall,hkey] using h thread
 | steps change hchange hthread hkeys hwaits hthreads hkey=>
  rename_i thread frame frame' frames
  refine h.update thread ⟨frame'::frames,none⟩ (fun other=>?_) ?_
  · by_cases heq:other=thread
    · simp [hthreads,heq]
    · rcases hchange with rfl|rfl <;> simp [hthreads,heq,line_wake]
  · simpa [line,hthread,hkey] using h thread
 | settles hthread hkeys hwaits hthreads=>
  rename_i thread frame frames
  refine h.update thread _ (fun other=>by rw [hthreads,line_wake]) ?_
  have hframes:=h thread
  simp only [line,hthread,Option.map_none,Option.toList_none,List.nil_append,List.map_cons,
   List.pairwise_cons] at hframes
  exact hframes.2

lemma dependsOn_of_stuck (hsound:Sound r) (h:Nested dependsOn r) {first last:ℕ}
  (hstuck:Relation.TransGen (Stuck r) first last) {key key':ℕ} {phase phase':Phase}
  (hfirst:(r.threads first).call=some ⟨key,phase⟩) (hlast:(r.threads last).call=some ⟨key',phase'⟩):
  Relation.TransGen dependsOn key key':=by
 have hsingle {first second key key':ℕ} {phase phase':Phase} (hstuck:Stuck r first second)
  (hfirst:(r.threads first).call=some ⟨key,phase⟩)
  (hsecond:(r.threads second).call=some ⟨key',phase'⟩):
  Relation.TransGen dependsOn key key':=by
  obtain ⟨wanted,state,hwanted,howner⟩:=hstuck
  rw [hfirst] at hwanted
  cases hwanted
  have hline:=h second
  simp only [line,hsecond,Option.map_some,Option.toList_some,List.cons_append,List.nil_append,
   List.pairwise_cons] at hline
  exact hline.1 key (hsound.owned key second howner)
 induction hstuck using Relation.TransGen.head_induction_on generalizing key phase with
 | single hedge=>exact hsingle hedge hfirst hlast
 | head hedge hrest ih=>
  obtain ⟨middle,⟨wanted,state,hwanted,-⟩,-⟩:=Relation.TransGen.head'_iff.mp hrest
  exact (hsingle hedge hfirst hwanted).trans (ih hwanted)

end

/-- When no other thread is between its notification and the lock, a cycle that is reported is
 one of threads each of which initialises the key of the one before. If the keys depend on each
 other without a cycle, none is reported then. -/
theorem reported_cycle_genuine (r:Registry) (thread key:ℕ) (hsettled:Settled r thread):
  (system.Reachable r → Reports r thread key → Relation.TransGen (Stuck r) thread thread) ∧
  ∀dependsOn:ℕ → ℕ → Prop,(∀key,¬Relation.TransGen dependsOn key key) →
   (system.restrict (Depends dependsOn)).Reachable r → ¬Reports r thread key:=by
 refine ⟨fun h hreports=>stuck_of_reports (reachable_sound h) hreports hsettled,
  fun dependsOn hacyclic h hreports=>?_⟩
 have hsound:=reachable_sound h.of_restrict
 have hnested:Nested dependsOn r:=by
  refine h.invariant ?_ fun _ _ _ _ hnested hstep=>hnested.shift hstep.1 (shift_next hstep.2)
  rintro _ ⟨configured,-,rfl⟩ thread
  exact .nil
 obtain ⟨⟨phase,hcall,-⟩,-⟩:=id hreports
 exact hacyclic key (dependsOn_of_stuck hsound hnested
  (stuck_of_reports hsound hreports hsettled) hcall hcall)

/-- Key 0 depends on key 1 only. Thread 2 has initialised key 1 and asks for key 0 while thread 1,
 which initialises it, has been notified that key 1 is there. -/
theorem cycle_reported_after_start : ∃r,
  (system.restrict (Depends fun first second=>first=0 ∧ second=1)).Reachable r ∧
   Reports r 2 0 ∧ ¬Relation.TransGen (Stuck r) 2 2:=by
 have h₀:(system.restrict (Depends fun first second=>first=0 ∧ second=1)).Reachable
  (.activate []):=.start ⟨[],List.nodup_nil,rfl⟩
 have h₁:=(h₀.next (.get 1 0) ⟨by simp [Depends,Registry.activate],rfl⟩).next
  (.lock 1 0) ⟨trivial,rfl⟩
 have h₂:=(h₁.next (.get 2 1) ⟨fun _=>nofun,rfl⟩).next
  (.lock 2 0) ⟨trivial,rfl⟩
 have h₃:=(h₂.next (.get 1 1) ⟨fun _ hframe=>(by cases hframe; exact ⟨rfl,rfl⟩),rfl⟩).next
  (.lock 1 2) ⟨trivial,rfl⟩
 have h₄:=(h₃.next (.callback 2 (some false)) ⟨trivial,rfl⟩).next (.settle 2) ⟨trivial,rfl⟩
 have h₅:=h₄.next (.get 2 0) ⟨fun _=>nofun,rfl⟩
 refine ⟨_,h₅,⟨⟨.entering,rfl,by decide⟩,2,rfl⟩,fun hcycle=>?_⟩
 obtain ⟨second,⟨key,phase,hcall,howner⟩,hrest⟩:=Relation.TransGen.head'_iff.mp hcycle
 cases hcall
 cases howner
 obtain heq|⟨third,⟨wanted,state,hwanted,hnone⟩,-⟩:=hrest.cases_head
 · cases heq
 · cases hwanted
   cases hnone

theorem reported_cycle_genuine_two : ∃r,system.Reachable r ∧ Reports r 2 0 ∧
  Relation.TransGen (Stuck r) 2 2:=by
 have hcreated:system.Reachable (.activate []):=.start ⟨[],List.nodup_nil,rfl⟩
 have hplayed:=hcreated.play (f := next) (fun _ _ _ h=>h) (waitingRun++[.get 2 0]) rfl
 refine ⟨_,hplayed,⟨⟨.entering,rfl,by decide⟩,2,rfl⟩,(reported_cycle_genuine _ 2 0 ?_).1
  hplayed ⟨⟨.entering,rfl,by decide⟩,2,rfl⟩⟩
 intro other hother key hwoken
 rcases other with _|_|_|other
 · cases hwoken
 · cases hwoken
 · exact hother rfl
 · cases hwoken

end

end Movie.ExtensionCycles
