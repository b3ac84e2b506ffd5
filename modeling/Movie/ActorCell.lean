import Movie.Reachability
import Mathlib.Data.List.Perm.Basic
import Mathlib.Logic.Function.Basic

/-!
# System messages while a mailbox is attached

`ActorCell.attach` and `tell_system` of `actor/impl/ref.py`, called by any threads: no message is
lost, but a buffered one may be overtaken by a later one of its thread.
-/
namespace Movie.ActorCell

open Function Reachability

/-- A thread and the number of its call of `tell_system`. -/
abbrev Message:=ℕ×ℕ

/-- Where a thread stands: it has found no mailbox, it is about to call `sendSystem`, or it
 replays the buffered messages. -/
inductive Phase where
 | idle
 | unattached (number:ℕ)
 | sending (number:ℕ)
 | replaying
 deriving DecidableEq

/-- The cell before any `close`; `replay` is the local list of `attach`, `mailbox` lists the
 calls of `sendSystem` and `sent` counts the calls of each thread. -/
structure Cell where
 attached:Bool
 pending:List Message
 replay:List Message
 mailbox:List Message
 phase:ℕ → Phase
 sent:ℕ → ℕ

def Cell.create : Cell:=⟨false,[],[],[],fun _=>.idle,fun _=>0⟩

inductive Event where
 | tell (thread:ℕ)
 | work (thread:ℕ)
 | attach (thread:ℕ)

def Cell.goTo (c:Cell) (thread:ℕ) (phase:Phase):Cell:=
 { c with phase:=update c.phase thread phase }

def Cell.work (c:Cell) (thread:ℕ):Option Cell:=
 match c.phase thread with
 | .idle=>none
 | .unattached number=>
  if c.attached then some (c.goTo thread (.sending number))
  else some ({ c with pending:=c.pending++[(thread,number)] }.goTo thread .idle)
 | .sending number=>some ({ c with mailbox:=c.mailbox++[(thread,number)] }.goTo thread .idle)
 | .replaying=>
  match c.replay with
  | []=>some (c.goTo thread .idle)
  | message::rest=>some { c with replay:=rest,mailbox:=c.mailbox++[message] }

def next (c:Cell):Event → Option Cell
 | .tell thread=>
  if c.phase thread=.idle then
   some ({ c with sent:=update c.sent thread (c.sent thread+1) }.goTo thread
    (if c.attached then .sending (c.sent thread) else .unattached (c.sent thread)))
  else none
 | .work thread=>c.work thread
 | .attach thread=>
  if c.phase thread=.idle ∧ c.attached=false then
   some ({ c with attached:=true,pending:=[],replay:=c.pending }.goTo thread .replaying)
  else none

def system : System Cell Event where
 init c:=c=.create
 step c event c':=next c event=some c'

def own (thread:ℕ) (messages:List Message):List ℕ:=
 (messages.filter (·.1=thread)).map (·.2)

def Phase.number : Phase → List ℕ
 | .unattached number | .sending number=>[number]
 | .idle | .replaying=>[]

def line (c:Cell) (thread:ℕ):List ℕ:=
 own thread c.mailbox++own thread c.replay++own thread c.pending++(c.phase thread).number

def begun (c:Cell) (thread:ℕ):Event → List ℕ
 | .tell other=>if other=thread then [c.sent thread] else []
 | _=>[]

/-- No thread calls `sendSystem` while a message of its own waits for the replay. -/
def Replayed (c:Cell):Event → Prop
 | .work thread=>∀number,c.phase thread=.sending number → own thread c.replay=[]
 | _=>True

instance (c:Cell) (event:Event):Decidable (Replayed c event):=
 match event with
 | .work thread=>match h:c.phase thread with
  | .sending number=>decidable_of_iff (own thread c.replay=[]) (by simp [Replayed,h])
  | .idle | .unattached _ | .replaying=>isTrue (by simp [Replayed,h])
 | .tell _ | .attach _=>isTrue trivial

structure Sound (c:Cell):Prop where
 replay:c.attached=false → c.replay=[]
 pending:c.attached=true → c.pending=[]
 sending:∀thread number,c.phase thread=.sending number → c.attached=true
 replaying:c.replay≠[] → ∃thread,c.phase thread=.replaying

section

variable {c c':Cell} {event:Event}

@[simp] lemma own_append (thread:ℕ) (first second:List Message):
  own thread (first++second)=own thread first++own thread second:=by
 simp [own]

@[simp] lemma own_cons (thread:ℕ) (message:Message) (rest:List Message):
  own thread (message::rest) =
   (if message.1=thread then [message.2] else [])++own thread rest:=by
 by_cases h:message.1=thread <;> simp [own,h]

@[simp] lemma own_nil (thread:ℕ):own thread []=[]:=rfl

lemma Sound.goTo (h:Sound c) (thread:ℕ) (phase:Phase)
  (hdone:c.phase thread=.replaying → c.replay=[])
  (hphase:∀number,phase=.sending number → c.attached=true):Sound (c.goTo thread phase):=by
 refine ⟨h.replay,h.pending,fun other number hother=>?_,fun hreplay=>?_⟩
 · by_cases heq:other=thread
   · subst heq
     exact hphase number (by simpa [Cell.goTo] using hother)
   · exact h.sending other number (by simpa [Cell.goTo,heq] using hother)
 · obtain ⟨other,hother⟩:=h.replaying hreplay
   have heq:other≠thread:=fun heq=>hreplay (hdone (heq▸hother))
   exact ⟨other,by simpa [Cell.goTo,heq] using hother⟩

lemma Sound.next (h:Sound c) (hnext:next c event=some c'):Sound c':=by
 cases event with
 | tell thread=>
  simp only [ActorCell.next] at hnext
  split at hnext <;> rename_i hidle <;> cases hnext
  have hcounted:Sound { c with sent:=update c.sent thread (c.sent thread+1) }:=
   ⟨h.replay,h.pending,h.sending,h.replaying⟩
  refine hcounted.goTo thread _ (by simp [hidle]) fun number hphase=>?_
  by_contra hattached
  simp [hattached] at hphase
 | attach thread=>
  simp only [ActorCell.next] at hnext
  split at hnext <;> cases hnext
  exact ⟨by simp [Cell.goTo],fun _=>rfl,fun _ _ _=>rfl,
   fun _=>⟨thread,by simp [Cell.goTo]⟩⟩
 | work thread=>
  simp only [ActorCell.next,Cell.work] at hnext
  split at hnext
  case h_1=>cases hnext
  case h_2 number hphase=>
   split at hnext <;> rename_i hattached <;> cases hnext
   · exact h.goTo thread _ (by simp [hphase]) fun _ _=>hattached
   · have hbuffered:Sound { c with pending:=c.pending++[(thread,number)] }:=
      ⟨h.replay,fun hnow=>absurd hnow hattached,h.sending,h.replaying⟩
     exact hbuffered.goTo thread .idle (by simp [hphase]) (by simp)
  case h_3 number hphase=>
   cases hnext
   have hreceived:Sound { c with mailbox:=c.mailbox++[(thread,number)] }:=
    ⟨h.replay,h.pending,h.sending,h.replaying⟩
   exact hreceived.goTo thread .idle (by simp [hphase]) (by simp)
  case h_4 hphase=>
   split at hnext <;> rename_i hreplay <;> cases hnext
   · exact h.goTo thread .idle (fun _=>hreplay) (by simp)
   · refine ⟨fun hnot=>?_,h.pending,h.sending,fun _=>⟨thread,hphase⟩⟩
     rw [h.replay hnot] at hreplay
     cases hreplay

lemma line_next (h:Sound c) (hreplayed:Replayed c event) (hnext:next c event=some c')
  (thread:ℕ):line c' thread=line c thread++begun c thread event:=by
 cases event with
 | tell other=>
  simp only [ActorCell.next] at hnext
  split at hnext <;> rename_i hidle <;> cases hnext
  by_cases heq:thread=other
  · subst heq
    by_cases hattached:c.attached=true <;>
     simp [line,begun,Cell.goTo,hidle,hattached,Phase.number]
  · simp [line,begun,Cell.goTo,heq,Ne.symm heq]
 | attach other=>
  simp only [ActorCell.next] at hnext
  split at hnext <;> rename_i hguard <;> cases hnext
  have hreplay:=h.replay hguard.2
  by_cases heq:thread=other
  · subst heq
    simp [line,begun,Cell.goTo,hguard.1,hreplay,Phase.number]
  · simp [line,begun,Cell.goTo,heq,hreplay]
 | work other=>
  simp only [ActorCell.next,Cell.work] at hnext
  split at hnext
  case h_1=>cases hnext
  case h_2 number hphase=>
   split at hnext <;> rename_i hattached <;> cases hnext
   all_goals
    by_cases heq:thread=other
    · subst heq
      simp [line,begun,Cell.goTo,hphase,Phase.number]
    · simp [line,begun,Cell.goTo,heq,Ne.symm heq]
  case h_3 number hphase=>
   cases hnext
   have hpending:=h.pending (h.sending other number hphase)
   by_cases heq:thread=other
   · subst heq
     simp [line,begun,Cell.goTo,hphase,hpending,hreplayed number hphase,Phase.number]
   · simp [line,begun,Cell.goTo,heq,Ne.symm heq]
  case h_4 hphase=>
   split at hnext <;> rename_i hreplay <;> cases hnext
   · by_cases heq:thread=other
     · subst heq
       simp [line,begun,Cell.goTo,hphase,hreplay,Phase.number]
     · simp [line,begun,Cell.goTo,heq]
   · simp [line,begun,hreplay]

lemma line_perm (h:Sound c) (hnext:next c event=some c') (thread:ℕ):
  (line c' thread).Perm (line c thread++begun c thread event):=by
 by_cases hreplayed:Replayed c event
 · rw [line_next h hreplayed hnext thread]
 cases event with
 | tell | attach=>exact absurd trivial hreplayed
 | work other=>
  simp only [Replayed,not_forall] at hreplayed
  obtain ⟨number,hphase,-⟩:=hreplayed
  simp only [ActorCell.next,Cell.work,hphase,Option.some.injEq] at hnext
  subst hnext
  have hpending:=h.pending (h.sending other number hphase)
  by_cases heq:thread=other
  · subst heq
    simp only [line,begun,Cell.goTo,hphase,hpending,Phase.number,own_append,own_cons,own_nil]
    simpa using (List.perm_append_comm:([number]++_).Perm _).append_left (own thread c.mailbox)
  · simp [line,begun,Cell.goTo,heq,Ne.symm heq]

end

lemma sent_next {c c':Cell} {event:Event} (hnext:next c event=some c') (thread:ℕ):
  List.range (c.sent thread)++begun c thread event=List.range (c'.sent thread):=by
 cases event with
 | tell other=>
  simp only [next] at hnext
  split at hnext <;> cases hnext
  by_cases heq:thread=other
  · subst heq
    simp [begun,Cell.goTo,List.range_succ]
  · simp [begun,Cell.goTo,heq,Ne.symm heq]
 | attach other=>
  simp only [next] at hnext
  split at hnext <;> cases hnext
  simp [begun,Cell.goTo]
 | work other=>
  have hsent:c'.sent=c.sent:=by
   simp only [next,Cell.work] at hnext
   repeat' split at hnext
   all_goals cases hnext
   all_goals rfl
  simp [begun,hsent]

lemma reachable_line {c:Cell} (h:system.Reachable c):
  Sound c ∧ ∀thread,(line c thread).Perm (List.range (c.sent thread)):=by
 refine h.invariant (I := fun c=>Sound c ∧ ∀thread,
  (line c thread).Perm (List.range (c.sent thread))) ?_ ?_
 · rintro _ rfl
   exact ⟨⟨fun _=>rfl,by simp [Cell.create],by simp [Cell.create],by simp [Cell.create]⟩,
    fun _=>.refl _⟩
 · intro c event c' _ hc hstep
   refine ⟨hc.1.next hstep,fun thread=>?_⟩
   rw [←sent_next hstep thread]
   exact (line_perm hc.1 hstep thread).trans ((hc.2 thread).append_right _)

lemma count_own (messages:List Message) (message:Message):
  (own message.1 messages).count message.2=messages.count message:=by
 induction messages with
 | nil=>rfl
 | cons head rest ih=>
  by_cases heq:head=message
  · simp [heq,ih]
  · by_cases hthread:head.1=message.1
    · have hnumber:head.2≠message.2:=fun hnumber=>heq (Prod.ext hthread hnumber)
      simp [hthread,hnumber,heq,ih]
    · simp [hthread,heq,ih]

/-- Once the mailbox is attached and no call is going on it has each message once. When no call
 overtakes the replay of its thread's own messages, it has them in the order of the calls. -/
theorem system_messages_replayed (c:Cell):
  (system.Reachable c → c.attached=true → (∀thread,c.phase thread=.idle) →
   ∀message:Message,c.mailbox.count message=if message.2<c.sent message.1 then 1 else 0) ∧
  ((system.restrict Replayed).Reachable c → ∀thread,
   (own thread c.mailbox).Pairwise (·<·)):=by
 refine ⟨fun h hattached hidle message=>?_,fun h thread=>?_⟩
 · obtain ⟨hsound,hline⟩:=reachable_line h
   have hreplay:c.replay=[]:=by
    by_contra hreplay
    obtain ⟨thread,hthread⟩:=hsound.replaying hreplay
    rw [hidle thread] at hthread
    cases hthread
   have hperm:=hline message.1
   simp only [line,hreplay,hsound.pending hattached,hidle,own_nil,Phase.number,
    List.append_nil] at hperm
   rw [←count_own,hperm.count_eq,List.count_range]
 · have hline:line c thread=List.range (c.sent thread):=by
    refine (h.invariant (I := fun c=>system.Reachable c ∧ ∀thread,
     line c thread=List.range (c.sent thread)) ?_ ?_).2 thread
    · rintro _ rfl
      exact ⟨.start rfl,fun _=>rfl⟩
    · rintro c event c' - ⟨hreachable,hline⟩ ⟨hreplayed,hstep⟩
      refine ⟨hreachable.next event hstep,fun thread=>?_⟩
      rw [line_next (reachable_line hreachable).1 hreplayed hstep thread,hline,
       sent_next hstep thread]
   have hsorted:(line c thread).Pairwise (·<·):=hline▸List.pairwise_lt_range
   simp only [line,List.append_assoc] at hsorted
   exact (List.pairwise_append.mp hsorted).1

/-- Thread 1 is buffered, thread 0 attaches the mailbox, and thread 1 sends again before the
 replay of its first message. -/
theorem system_message_overtaken : ∃c:Cell,system.Reachable c ∧ c.mailbox=[(1,1),(1,0)]:=by
 have hcreated:system.Reachable .create:=.start rfl
 have hplayed:=hcreated.play (f := next) (fun _ _ _ h=>h)
  [.tell 1,.work 1,.attach 0,.tell 1,.work 1,.work 0] rfl
 exact ⟨_,hplayed,rfl⟩

theorem system_messages_replayed_in_turn : ∃c:Cell,c.mailbox=[(1,0),(1,1)] ∧
  (own 1 c.mailbox).Pairwise (·<·) ∧ c.mailbox.count (1,1)=1:=by
 have hcreated:(system.restrict Replayed).Reachable .create:=.start rfl
 have hplayed:=hcreated.play (f := fun c event=>if Replayed c event then next c event else none)
  (fun _ _ _ h=>by
   split at h
   · rename_i hreplayed
     exact ⟨hreplayed,h⟩
   · cases h)
  [.tell 1,.work 1,.attach 0,.work 0,.work 0,.tell 1,.work 1] rfl
 refine ⟨_,rfl,(system_messages_replayed _).2 hplayed 1,
  (system_messages_replayed _).1 hplayed.of_restrict rfl (fun thread=>?_) (1,1)⟩
 rcases thread with _|_|thread <;> rfl

end Movie.ActorCell
