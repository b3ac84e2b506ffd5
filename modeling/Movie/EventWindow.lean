import Movie.Reachability
import Mathlib.Data.List.Nodup
import Mathlib.Data.List.Range
import Mathlib.Logic.Function.Basic

/-!
# Bounded event windows

`DeadLetterBroker` of `actor/dead_letter.py` and `ClusterEvents` of `cluster/observability.py`.
Every method holds the lock, so that one call is one step. The two classes differ only in what they
do with a closed subscription.
-/
namespace Movie.EventWindow

open Reachability

inductive Stream where
 | deadLetters
 | clusterEvents
 deriving DecidableEq

/-- A subscription. `start`, `returned` and `counted` record the sequence number it began at,
 what its polls returned and the numbers behind its dropped count; the code has none of
 them. -/
structure Subscription (E:Type) where
 cursor:ℕ
 dropped:ℕ
 closed:Bool
 start:ℕ
 returned:List (ℕ×E)
 counted:List ℕ
 deriving DecidableEq

/-- A window with its subscriptions; `published` lists every event it has taken. -/
structure Window (E:Type) where
 entries:List (ℕ×E)
 nextSequence:ℕ
 subscriptions:List (Subscription E)
 closed:Bool
 published:List E

variable {E:Type}

def advanceCursor (w:Window E) (s:Subscription E):Subscription E:=
 match w.entries.head? with
 | none=>s
 | some (first,_)=>
  if s.cursor<first then
   { s with
     dropped:=s.dropped+(first - s.cursor)
     cursor:=first
     counted:=s.counted++List.range' s.cursor (first - s.cursor) }
  else s

def poll (w:Window E) (s:Subscription E):Option E×Subscription E:=
 if s.closed then (none,s)
 else
  let s:=advanceCursor w s
  match w.entries.head? with
  | none=>(none,s)
  | some (first,_)=>
   match w.entries[s.cursor - first]? with
   | none=>(none,s)
   | some (sequence,event)=>
    (some event,{ s with
     cursor:=sequence+1
     returned:=s.returned++[(sequence,event)] })

def droppedCount (stream:Stream) (w:Window E) (s:Subscription E):ℕ×Subscription E:=
 let s':=if stream=.clusterEvents ∧ s.closed then s else advanceCursor w s
 (s'.dropped,s')

def unsubscribe (stream:Stream) (w:Window E) (s:Subscription E):Subscription E:=
 if s.closed then s
 else if stream=.clusterEvents then { advanceCursor w s with closed:=true }
 else { s with closed:=true }

/-- `publish`: a deque of bounded length drops its first entry. -/
def publish (capacity:ℕ) (w:Window E) (event:E):Window E:=
 if w.closed then w
 else
  let entries:=w.entries++[(w.nextSequence,event)]
  { w with
    entries:=entries.drop (entries.length - capacity)
    nextSequence:=w.nextSequence+1
    published:=w.published++[event] }

def Stream.closedText : Stream → String
 | .deadLetters => "Dead-letter broker is closed"
 | .clusterEvents => "Cluster event stream is closed"

def Stream.limitText : Stream → String
 | .deadLetters => "Dead-letter subscription limit exceeded"
 | .clusterEvents => "Cluster event subscription limit exceeded"

def Subscription.create (E:Type) (cursor:ℕ):Subscription E:=
 ⟨cursor,0,false,cursor,[],[]⟩

/-- `subscribe`; the set of subscriptions holds those that are not closed. -/
def subscribe (stream:Stream) (maxSubscriptions:ℕ) (w:Window E):
  Except String (Window E):=
 if w.closed then .error stream.closedText
 else if maxSubscriptions≤(w.subscriptions.filter fun s=>!s.closed).length then
  .error stream.limitText
 else .ok { w with subscriptions:=w.subscriptions++[.create E w.nextSequence] }

inductive Call (E:Type) where
 | publish (event:E)
 | subscribe
 | close
 | poll (subscription:ℕ)
 | droppedCount (subscription:ℕ)
 | unsubscribe (subscription:ℕ)

def onSubscription (w:Window E) (i:ℕ) (f:Subscription E → Subscription E):Window E:=
 { w with subscriptions:=w.subscriptions.modify i f }

def call (stream:Stream) (capacity maxSubscriptions:ℕ) (w:Window E):Call E → Window E
 | .publish event=>publish capacity w event
 | .subscribe=>(subscribe stream maxSubscriptions w).toOption.getD w
 | .close=>{ w with closed:=true }
 | .poll i=>onSubscription w i fun s=>(poll w s).2
 | .droppedCount i=>onSubscription w i fun s=>(droppedCount stream w s).2
 | .unsubscribe i=>onSubscription w i (unsubscribe stream w)

def system (E:Type) (stream:Stream) (capacity maxSubscriptions:ℕ):
  System (Window E) (Call E) where
 init w:=w=⟨[],0,[],false,[]⟩
 step w label w':=w'=call stream capacity maxSubscriptions w label

def numbered (events:List E):List (ℕ×E):=events.zipIdx.map Prod.swap

lemma numbered_length (events:List E):(numbered events).length=events.length:=by
 simp [numbered]

lemma numbered_snoc (events:List E) (event:E):
  numbered (events++[event])=numbered events++[(events.length,event)]:=by
 simp [numbered,List.zipIdx_append]

lemma numbered_get (events:List E) (i:ℕ):
  (numbered events)[i]? = events[i]?.map fun event=>(i,event):=by
 simp [numbered,Function.comp_def]

lemma numbered_keys (events:List E):
  (numbered events).map Prod.fst=List.range events.length:=by
 simp [numbered,Function.comp_def,List.range_eq_range']

structure Retains (capacity:ℕ) (w:Window E):Prop where
 next:w.nextSequence=w.published.length
 entries:w.entries=(numbered w.published).drop (w.published.length - capacity)

structure Accounts (published:List E) (s:Subscription E):Prop where
 start:s.start ≤ s.cursor
 cursor:s.cursor≤published.length
 seen:(s.returned.map Prod.fst++s.counted).Perm (List.range' s.start (s.cursor - s.start))
 ordered:(s.returned.map Prod.fst).Pairwise (·<·)
 events:∀entry∈s.returned,published[entry.1]? = some entry.2
 dropped:s.dropped=s.counted.length

lemma range_split {a b c:ℕ} (hab:a≤b) (hbc:b ≤ c):
  List.range' a (b - a)++List.range' b (c - b)=List.range' a (c - a):=by
 obtain ⟨m,rfl⟩:=Nat.exists_eq_add_of_le hab
 obtain ⟨k,rfl⟩:=Nat.exists_eq_add_of_le hbc
 rw [Nat.add_sub_cancel_left,Nat.add_sub_cancel_left,List.range'_append_1,Nat.add_assoc,
  Nat.add_sub_cancel_left]

section

variable {capacity:ℕ} {w:Window E} {s:Subscription E}

lemma Retains.head (h:Retains capacity w) (hcapacity:0<capacity):
  w.entries.head?.map Prod.fst =
   if w.published=[] then none else some (w.published.length - capacity):=by
 rw [h.entries,List.head?_drop,numbered_get,Option.map_map]
 cases hpublished:w.published with
 | nil=>rfl
 | cons event rest=>
  have hlt:(event::rest).length - capacity<(event::rest).length:=by
   simp only [List.length_cons]
   omega
  rw [List.getElem?_eq_getElem hlt]
  simp

lemma advanceCursor_eq (h:Retains capacity w) (hcapacity:0<capacity):advanceCursor w s =
   if s.cursor<w.published.length - capacity then
    { s with
      dropped:=s.dropped+(w.published.length - capacity - s.cursor)
      cursor:=w.published.length - capacity
      counted:=s.counted ++
       List.range' s.cursor (w.published.length - capacity - s.cursor) }
   else s:=by
 have hhead:=h.head hcapacity
 unfold advanceCursor
 cases hentries:w.entries.head? with
 | none=>
  rw [hentries] at hhead
  have hnil:w.published=[]:=by
   by_contra hne
   simp [hne] at hhead
  simp [hnil]
 | some entry=>
  rw [hentries] at hhead
  split_ifs at hhead with hnil
  · cases hhead
  · rw [Option.map_some,Option.some.injEq] at hhead
    simp only [hhead]

lemma Accounts.advance (hs:Accounts w.published s) (h:Retains capacity w) (hcapacity:0<capacity):
  Accounts w.published (advanceCursor w s) ∧ w.published.length - capacity≤(advanceCursor w s).cursor:=by
 rw [advanceCursor_eq h hcapacity]
 split_ifs with hlt
 · refine ⟨⟨hs.start.trans hlt.le,Nat.sub_le _ _,?_,hs.ordered,hs.events,?_⟩,Nat.le_refl _⟩
   · change (s.returned.map Prod.fst++(s.counted++_)).Perm _
     rw [←List.append_assoc,←range_split hs.start hlt.le]
     exact hs.seen.append_right _
   · simp [hs.dropped]
 · exact ⟨hs,Nat.not_lt.mp hlt⟩

lemma poll_eq (hs:Accounts w.published s) (h:Retains capacity w) (hcapacity:0<capacity)
  (hopen:s.closed=false):(poll w s).2=match w.published[(advanceCursor w s).cursor]? with
   | none=>advanceCursor w s
   | some event=>{ advanceCursor w s with
    cursor:=(advanceCursor w s).cursor+1
    returned:=(advanceCursor w s).returned++[((advanceCursor w s).cursor,event)] }:=by
 obtain ⟨-,hfirst⟩:=hs.advance h hcapacity
 have hhead:=h.head hcapacity
 unfold poll
 simp only [hopen,Bool.false_eq_true,if_false]
 generalize advanceCursor w s=s' at hfirst ⊢
 cases hentries:w.entries.head? with
 | none=>
  have hnil:w.published=[]:=by
   by_contra hne
   simp [hentries,hne] at hhead
  simp [hnil]
 | some entry=>
  rw [hentries] at hhead
  split_ifs at hhead with hnil
  · cases hhead
  · rw [Option.map_some,Option.some.injEq] at hhead
    have hget:w.entries[s'.cursor - entry.1]? =
     w.published[s'.cursor]?.map fun event=>(s'.cursor,event):=by
     rw [hhead,h.entries,List.getElem?_drop,Nat.add_sub_cancel' hfirst,numbered_get]
    simp only [hget]
    cases w.published[s'.cursor]? <;> rfl

lemma Accounts.poll (hs:Accounts w.published s) (h:Retains capacity w) (hcapacity:0<capacity):
  Accounts w.published (poll w s).2:=by
 cases hopen:s.closed with
 | true=>
  simpa [EventWindow.poll,hopen] using hs
 | false=>
  rw [poll_eq hs h hcapacity hopen]
  obtain ⟨hadvanced,-⟩:=hs.advance h hcapacity
  generalize advanceCursor w s=s' at hadvanced ⊢
  cases hevent:w.published[s'.cursor]? with
  | none=>exact hadvanced
  | some event=>
   have hlt:=(List.getElem?_eq_some_iff.mp hevent).1
   have hstart:=hadvanced.start
   refine ⟨by simpa using hstart.trans (Nat.le_succ _),hlt,?_,?_,?_,hadvanced.dropped⟩
   · have hnext:List.range' s'.start (s'.cursor+1 - s'.start) =
      List.range' s'.start (s'.cursor - s'.start)++[s'.cursor]:=by
      rw [←range_split hstart (Nat.le_succ _),Nat.succ_sub (Nat.le_refl _),Nat.sub_self]
      rfl
     simp only [List.map_append,List.map_cons,List.map_nil,hnext]
     rw [List.append_assoc]
     refine (List.perm_append_comm.append_left _).trans ?_
     rw [←List.append_assoc]
     exact hadvanced.seen.append_right _
   · simp only [List.map_append,List.map_cons,List.map_nil,List.pairwise_append]
     refine ⟨hadvanced.ordered,List.pairwise_singleton _ _,fun i hi j hj=>?_⟩
     rw [List.mem_singleton.mp hj]
     have hseen:=hadvanced.seen.mem_iff.mp (List.mem_append_left _ hi)
     rw [List.mem_range'_1] at hseen
     omega
   · intro entry hentry
     rcases List.mem_append.mp hentry with hold|hnew
     · exact hadvanced.events entry hold
     · rw [List.mem_singleton.mp hnew]
       exact hevent

lemma Retains.publish (h:Retains capacity w) (event:E):
  Retains capacity (publish capacity w event):=by
 unfold EventWindow.publish
 split_ifs with hclosed
 · exact h
 · refine ⟨by simp [h.next],?_⟩
   simp only [h.entries,numbered_snoc,h.next]
   rw [←List.drop_append_of_le_length (by simp [numbered_length]),List.drop_drop]
   congr 1
   simp [numbered_length]
   omega

lemma Accounts.publish (hs:Accounts w.published s) (event:E):
  Accounts (publish capacity w event).published s:=by
 unfold EventWindow.publish
 split_ifs with hclosed
 · exact hs
 · refine { hs with cursor:=?_,events:=fun entry hentry=>?_ }
   · simpa using hs.cursor.trans (Nat.le_succ _)
   · have hold:=hs.events entry hentry
     exact List.getElem?_append_left (List.getElem?_eq_some_iff.mp hold).1▸hold

lemma Accounts.create (h:Retains capacity w):Accounts w.published (.create E w.nextSequence):=
 ⟨Nat.le_refl _,h.next.le,by simp [Subscription.create],List.Pairwise.nil,nofun,rfl⟩

lemma Accounts.close (hs:Accounts w.published s):
  Accounts w.published { s with closed:=true }:={ hs with }

lemma forall_onSubscription {P:Subscription E → Prop} (i:ℕ)
  {f:Subscription E → Subscription E} (h:∀s∈w.subscriptions,P s)
  (hf:∀s∈w.subscriptions,P (f s)):∀s∈(onSubscription w i f).subscriptions,P s:=by
 intro s hmem
 obtain ⟨j,hj⟩:=List.mem_iff_getElem?.mp hmem
 rw [onSubscription,List.getElem?_modify] at hj
 obtain ⟨old,hold,heq⟩:=Option.map_eq_some_iff.mp hj
 have hin:=List.mem_iff_getElem?.mpr ⟨j,hold⟩
 subst heq
 split_ifs
 · exact hf old hin
 · exact h old hin

end

section

variable {stream:Stream} {capacity maxSubscriptions:ℕ} {w:Window E}

def Sound (capacity:ℕ) (w:Window E):Prop:=
 Retains capacity w ∧ ∀s∈w.subscriptions,Accounts w.published s

lemma Sound.call (hcapacity:0<capacity) (h:Sound capacity w) (label:Call E):
  Sound capacity (call stream capacity maxSubscriptions w label):=by
 obtain ⟨hretains,hall⟩:=h
 have hadvance (s:Subscription E) (hs:s∈w.subscriptions):
  Accounts w.published (advanceCursor w s):=((hall s hs).advance hretains hcapacity).1
 have hkept:∀subscriptions closed,Retains capacity { w with subscriptions,closed }:=
  fun _ _=>⟨hretains.next,hretains.entries⟩
 cases label with
 | publish event=>
  refine ⟨hretains.publish event,fun s hs=>(hall s ?_).publish event⟩
  simp only [EventWindow.call,publish] at hs
  split_ifs at hs <;> exact hs
 | subscribe=>
  simp only [EventWindow.call,subscribe]
  split_ifs
  · exact ⟨hretains,hall⟩
  · exact ⟨hretains,hall⟩
  · refine ⟨hkept _ _,fun s hs=>?_⟩
    rcases List.mem_append.mp hs with hold|hnew
    · exact hall s hold
    · rw [List.mem_singleton.mp hnew]
      exact Accounts.create (w := w) hretains
 | close=>exact ⟨hkept _ _,hall⟩
 | poll i=>
  exact ⟨hkept _ _,forall_onSubscription i hall fun s hs=>(hall s hs).poll hretains hcapacity⟩
 | droppedCount i=>
  refine ⟨hkept _ _,forall_onSubscription i hall fun s hs=>?_⟩
  unfold droppedCount
  dsimp only
  split_ifs
  · exact hall s hs
  · exact hadvance s hs
 | unsubscribe i=>
  refine ⟨hkept _ _,forall_onSubscription i hall fun s hs=>?_⟩
  unfold unsubscribe
  split_ifs
  · exact hall s hs
  · exact (hadvance s hs).close
  · exact (hall s hs).close

lemma reachable_accounts (hcapacity:0<capacity)
  (h:(system E stream capacity maxSubscriptions).Reachable w):Sound capacity w:=by
 refine h.invariant (I := Sound capacity) ?_ ?_
 · rintro _ rfl
   exact ⟨⟨rfl,by simp [numbered]⟩,nofun⟩
 · rintro w label _ _ hinv rfl
   exact hinv.call hcapacity label

def available (w:Window E) (s:Subscription E):List ℕ:=
 (w.entries.map Prod.fst).filter fun sequence=>s.cursor ≤ sequence

lemma available_eq (h:Retains capacity w) {s:Subscription E}
  (hfirst:w.published.length - capacity ≤ s.cursor) (hcursor:s.cursor≤w.published.length):
  available w s=List.range' s.cursor (w.published.length - s.cursor):=by
 have hkeys:w.entries.map Prod.fst=List.range' (w.published.length - capacity)
  (s.cursor - (w.published.length - capacity)) ++
   List.range' s.cursor (w.published.length - s.cursor):=by
  rw [range_split hfirst hcursor,h.entries,List.map_drop,numbered_keys,List.range_eq_range',
   List.drop_range',Nat.zero_add,Nat.mul_one]
 rw [available,hkeys,List.filter_append]
 have hbefore:(List.range' (w.published.length - capacity)
  (s.cursor - (w.published.length - capacity))).filter (fun i=>s.cursor ≤ i)=[]:=by
  rw [List.filter_eq_nil_iff]
  intro i hi
  rw [List.mem_range'_1] at hi
  simp only [decide_eq_true_eq]
  omega
 rw [hbefore,List.nil_append,List.filter_eq_self]
 intro i hi
 rw [List.mem_range'_1] at hi
 exact decide_eq_true hi.1

/-- Nothing is lost silently: with the overwritten events that the next access counts, every
 event since the subscription is returned once, counted once or still ahead of the cursor. -/
theorem window_conserves (stream:Stream) {capacity:ℕ} (maxSubscriptions:ℕ)
  (hcapacity:0<capacity) (h:(system E stream capacity maxSubscriptions).Reachable w)
  {s:Subscription E} (hs:s∈w.subscriptions) (hopen:s.closed=false):
  let s':=(droppedCount stream w s).2
 (∀i,s.start ≤ i → i<w.published.length →
  (s.returned.map Prod.fst).count i+s'.counted.count i+(available w s').count i=1) ∧
 s.dropped=s.counted.length ∧ s'.dropped=s'.counted.length ∧
 (∀i,s.cursor ≤ i → i<w.published.length →
  i∈available w s' ∨ i∉s.counted ∧ i∈s'.counted) ∧
 (s.returned.map Prod.fst).Pairwise (·<·) ∧
 (∀entry∈s.returned,s.start≤entry.1 ∧ w.published[entry.1]? = some entry.2) ∧
 s.returned.length+(droppedCount stream w s).1+(available w s').length =
  w.published.length - s.start:=by
 obtain ⟨hretains,hall⟩:=reachable_accounts hcapacity h
 have haccounts:=hall s hs
 obtain ⟨hadvanced,hfirst⟩:=haccounts.advance hretains hcapacity
 have hsame:(droppedCount stream w s).2=advanceCursor w s:=by
  simp [droppedCount,hopen]
 have hfields:(advanceCursor w s).returned=s.returned ∧
  (advanceCursor w s).start=s.start ∧ ∀i,s.cursor ≤ i → i<(advanceCursor w s).cursor →
   i∈(advanceCursor w s).counted:=by
  rw [advanceCursor_eq hretains hcapacity]
  split_ifs
  · refine ⟨rfl,rfl,fun i hi hlt=>List.mem_append_right _ ?_⟩
    rw [List.mem_range'_1]
    change i<w.published.length - capacity at hlt
    omega
  · exact ⟨rfl,rfl,fun i hi hlt=>absurd hlt (Nat.not_lt.mpr hi)⟩
 have hcount:(droppedCount stream w s).1=(advanceCursor w s).dropped:=by
  simp [droppedCount,hopen]
 obtain ⟨hreturned,hstart,hpassed⟩:=hfields
 have havailable:=available_eq hretains hfirst hadvanced.cursor
 have hperm:(s.returned.map Prod.fst++(advanceCursor w s).counted ++
  available w (advanceCursor w s)).Perm
   (List.range' s.start (w.published.length - s.start)):=by
  rw [havailable,←hreturned,←hstart,←range_split hadvanced.start hadvanced.cursor]
  exact hadvanced.seen.append_right _
 dsimp only
 rw [hsame,hcount]
 refine ⟨fun i hi hlt=>?_,haccounts.dropped,hadvanced.dropped,fun i hi hlt=>?_,
  haccounts.ordered,fun entry hentry=>⟨?_,haccounts.events entry hentry⟩,?_⟩
 · rw [←List.count_append,←List.count_append,hperm.count_eq]
   exact List.count_eq_one_of_mem List.nodup_range' (List.mem_range'_1.mpr ⟨hi,by omega⟩)
 · by_cases hahead:(advanceCursor w s).cursor ≤ i
   · rw [havailable,List.mem_range'_1]
     omega
   · refine .inr ⟨fun hin=>?_,hpassed i hi (Nat.not_le.mp hahead)⟩
     have hseen:=haccounts.seen.mem_iff.mp (List.mem_append_right _ hin)
     rw [List.mem_range'_1] at hseen
     have:=haccounts.start
     omega
 · have hseen:=haccounts.seen.mem_iff.mp
    (List.mem_append_left _ (List.mem_map_of_mem hentry))
   exact (List.mem_range'_1.mp hseen).1
 · have hlength:=hperm.length_eq
   rw [List.length_append,List.length_append,List.length_map,List.length_range'] at hlength
   rw [hadvanced.dropped]
   exact hlength

theorem window_conserves_overwritten : ∃w:Window ℕ,
  (system ℕ .deadLetters 1 5).Reachable w ∧ ∃s∈w.subscriptions,s.closed=false ∧
   s.returned=[(1,8)] ∧ s.returned.length+(droppedCount .deadLetters w s).1 +
    (available w (droppedCount .deadLetters w s).2).length=2:=by
 have hreach:(system ℕ .deadLetters 1 5).Reachable
  (call .deadLetters 1 5 (call .deadLetters 1 5 (call .deadLetters 1 5 (call .deadLetters 1 5
   ⟨[],0,[],false,[]⟩ .subscribe) (.publish 7)) (.publish 8)) (.poll 0)):=
  ((((System.Reachable.start rfl).next _ rfl).next _ rfl).next _ rfl).next _ rfl
 refine ⟨_,hreach,⟨2,1,false,0,[(1,8)],[0]⟩,by decide,rfl,rfl,?_⟩
 exact (window_conserves .deadLetters 5 (by decide) hreach (by decide) rfl).2.2.2.2.2.2

end

end Movie.EventWindow
