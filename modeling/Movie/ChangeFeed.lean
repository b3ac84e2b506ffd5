import Movie.SQLiteStoreInvariant

/-!
# Pages of the change feed

A page of `_changes` is the complete part of the journal between the offset it was asked for and the
one it reports, restricted to the source.
-/
namespace Movie.ChangeFeed

open Checked DurableModel SQLiteStore DurableHistory SQLiteStoreInvariant LogWindow

universe u

variable {R:Type u}

def sourceWindow (sha256:List UInt8 → List UInt8) (source:ProjectionSource)
  (log:List Mutation) (i s:ℕ):List DurableStateChange:=
 (window (journal sha256 log) i s).filter source.selects

lemma sourceWindow_eq_filter (sha256:List UInt8 → List UInt8) (source:ProjectionSource)
  (log:List Mutation) (i s:ℕ):
  sourceWindow sha256 source log i s=(journal sha256 log).filter fun change=>
   source.selects change ∧ i<change.offset ∧ change.offset ≤ s:=by
 rw [sourceWindow,journal_window,List.filter_filter]
 simp only [Bool.decide_and,Bool.decide_eq_true]

variable {settings:Settings} {source:ProjectionSource}
  {limit maxBytes after scanLimit s i through:ℕ} {log:List Mutation}
  {batch:DurableStateChangeBatch} {rows cursor:List DurableStateChange} {exhausted:Bool}

variable {sha256:List UInt8 → List UInt8} {i s limit maxBytes retained k:ℕ}
 {changes cursor out:List DurableStateChange} {last:DurableStateChange} {db:Database R}

lemma mem_sourceWindow {change:DurableStateChange}:
  change∈sourceWindow sha256 source log i s ↔
   change∈journal sha256 log ∧ source.selects change ∧ i<change.offset ∧
    change.offset ≤ s:=by
 rw [sourceWindow_eq_filter,List.mem_filter,decide_eq_true_eq]

lemma sourceWindow_of_le (h:s ≤ i):sourceWindow sha256 source log i s=[]:=by
 refine List.eq_nil_iff_forall_not_mem.mpr fun change hmem=>?_
 obtain ⟨_,_,hlt,hle⟩:=mem_sourceWindow.mp hmem
 omega

lemma sourceWindow_append (sha256:List UInt8 → List UInt8) (source:ProjectionSource)
  {t:ℕ} (hi:i ≤ s) (hs:s≤t) (ht:t≤log.length):
  sourceWindow sha256 source log i s++sourceWindow sha256 source log s t =
   sourceWindow sha256 source log i t:=by
 rw [sourceWindow,sourceWindow,sourceWindow,←List.filter_append,
  window_append _ hi hs (by rw [journal_length]; exact ht)]

lemma sourceWindow_grow (sha256:List UInt8 → List UInt8) (source:ProjectionSource)
  (log more:List Mutation) (hs:s≤log.length):
  sourceWindow sha256 source (log++more) i s=sourceWindow sha256 source log i s:=by
 rw [sourceWindow,sourceWindow,journal_window_append _ _ _ hs]

lemma sourceWindow_pairwise (sha256:List UInt8 → List UInt8) (source:ProjectionSource)
  (log:List Mutation) (i s:ℕ):
  (sourceWindow sha256 source log i s).Pairwise fun a b=>a.offset<b.offset:=by
 rw [sourceWindow,journal_window]
 exact ((journal_pairwise_offset sha256 log).filter _).filter _

lemma orderByOffset_eq (h:changes.Pairwise fun a b=>a.offset<b.offset):
  Database.orderByOffset changes=changes:=
 List.Pairwise.insertionSort_eq (h.imp Nat.le_of_lt)

lemma fetchRows_eq_ok {rows:List DurableStateChange}
  (h:Database.fetchRows settings limit maxBytes rows retained cursor=.ok (out,exhausted)):
  (∃k,out=rows++cursor.take k) ∧
   (exhausted=true → out=rows++cursor ∧ out.length<limit):=by
 induction cursor generalizing rows retained with
 | nil=>
  cases h
  exact ⟨⟨0,by simp⟩,fun hlt=>⟨by simp,of_decide_eq_true hlt⟩⟩
 | cons row cursor ih=>
  simp only [Database.fetchRows] at h
  split_ifs at h
  · cases h
    exact ⟨⟨0,by simp⟩,fun hfalse=>by cases hfalse⟩
  · cases h
    exact ⟨⟨0,by simp⟩,fun hfalse=>by cases hfalse⟩
  · obtain ⟨⟨k,hk⟩,hall⟩:=ih h
    refine ⟨⟨k+1,by simpa using hk⟩,fun hex=>?_⟩
    simpa using hall hex

lemma fetchRows_ne_nil (hlimit:1≤limit) (hcursor:cursor≠[])
  (h:Database.fetchRows settings limit maxBytes [] 0 cursor=.ok (out,exhausted)):
  out≠[]:=by
 cases cursor with
 | nil=>exact absurd rfl hcursor
 | cons row cursor=>
  simp only [Database.fetchRows] at h
  split_ifs at h with hfull _ hbytes
  · exact absurd hfull (by simp; omega)
  · exact absurd rfl hbytes.1
  · obtain ⟨⟨k,hk⟩,_⟩:=fetchRows_eq_ok h
    rw [hk]
    simp

lemma fetchRows_eq_error {error:StoreError}
  (h:Database.fetchRows settings limit maxBytes rows retained cursor=.error error):
  error=.capacity "Durable State Change exceeds max-state-bytes" ∧
   ∃row∈cursor,settings.maxStateBytes<row.content.retainedBytes:=by
 induction cursor generalizing rows retained with
 | nil=>cases h
 | cons row cursor ih=>
  simp only [Database.fetchRows] at h
  split_ifs at h with _ hsize
  · exact ⟨(Except.error.inj h).symm,row,List.mem_cons_self,hsize⟩
  · obtain ⟨herror,other,hmem,hother⟩:=ih h
    exact ⟨herror,other,List.mem_cons_of_mem row hmem,hother⟩

lemma take_eq_filter_of_getLast? (hsorted:changes.Pairwise fun a b=>a.offset<b.offset)
  (hlast:(changes.take k).getLast? = some last):
  changes.take k=changes.filter fun change=>change.offset≤last.offset:=by
 have hsplit:=List.take_append_drop k changes
 rw [←hsplit] at hsorted
 obtain ⟨hfirst,_,hcross⟩:=List.pairwise_append.mp hsorted
 conv_rhs=>rw [←hsplit,List.filter_append]
 have hkeep:(changes.take k).filter (fun change=>change.offset≤last.offset) =
  changes.take k:=by
  refine List.filter_eq_self.mpr fun change hmem=>decide_eq_true ?_
  obtain ⟨init,hinit⟩:=List.getLast?_eq_some_iff.mp hlast
  rw [hinit] at hmem hfirst
  rcases List.mem_append.mp hmem with hinit'|hend
  · exact Nat.le_of_lt ((List.pairwise_append.mp hfirst).2.2 change hinit' last (by simp))
  · rw [List.mem_singleton.mp hend]
 have hdrop:(changes.drop k).filter (fun change=>change.offset≤last.offset)=[]:=by
  refine List.filter_eq_nil_iff.mpr fun change hmem hle=>?_
  have hlt:=hcross last (List.mem_of_getLast? hlast) change hmem
  have hle:=of_decide_eq_true hle
  omega
 rw [hkeep,hdrop,List.append_nil]

lemma selected_eq (h:Represents settings db log) (source:ProjectionSource)
  (hafter:db.compactedThrough≤after):(db.changes.filter fun change=>
   source.selects change ∧ after<change.offset ∧ change.offset≤through) =
   sourceWindow settings.sha256 source log after through:=by
 rw [sourceWindow,journal_window,h.changes,←journal_filter_lt,List.filter_filter,
  List.filter_filter]
 refine List.filter_congr fun change _=>?_
 rw [Bool.eq_iff_iff]
 simp only [Bool.and_eq_true,decide_eq_true_eq]
 constructor
 · rintro ⟨⟨hselect,hlt,hle⟩,_⟩
   exact ⟨hselect,hlt,hle⟩
 · rintro ⟨hselect,hlt,hle⟩
   exact ⟨⟨hselect,hlt,hle⟩,by omega⟩

lemma readChanges_eq_ok (h:Represents settings db log)
  (hok:db.readChanges settings source after limit maxBytes scanLimit =
   .ok (rows,through,exhausted)):through=min log.length (after+scanLimit) ∧
   (∃k,rows=(sourceWindow settings.sha256 source log after through).take k) ∧
   (exhausted=true → rows=sourceWindow settings.sha256 source log after through) ∧
   (1≤limit → sourceWindow settings.sha256 source log after through≠[] → rows≠[]):=by
 unfold Database.readChanges at hok
 split_ifs at hok with hcompacted
 obtain ⟨⟨out,flag⟩,hfetch,heq⟩:=bind_eq_ok hok
 obtain ⟨rfl,htail⟩:=Prod.mk.inj (Except.ok.inj heq)
 cases htail
 rw [selected_eq h source (Nat.not_lt.mp hcompacted),
  orderByOffset_eq (sourceWindow_pairwise ..)] at hfetch
 obtain ⟨⟨k,hk⟩,hall⟩:=fetchRows_eq_ok hfetch
 rw [List.nil_append] at hk hall
 refine ⟨by rw [h.highWatermark],⟨min k limit,by rw [hk,List.take_take]⟩,fun hflag=>?_,
  fun hlimit hne=>fetchRows_ne_nil hlimit ?_ hfetch⟩
 · obtain ⟨hout,hlength⟩:=hall hflag
   rw [hout,List.length_take] at hlength
   rw [hout,List.take_of_length_le (by omega)]
 · rw [ne_eq,List.take_eq_nil_iff,not_or]
   exact ⟨by omega,hne⟩

lemma sourceWindow_take (hlast:((sourceWindow sha256 source log i s).take k).getLast? = some last):
  (sourceWindow sha256 source log i s).take k=sourceWindow sha256 source log i last.offset:=by
 have hmem:=mem_sourceWindow.mp (List.mem_of_mem_take (List.mem_of_getLast? hlast))
 rw [take_eq_filter_of_getLast? (sourceWindow_pairwise ..) hlast,sourceWindow,sourceWindow,
  journal_window,journal_window,List.filter_filter,List.filter_filter,List.filter_filter]
 refine List.filter_congr fun change _=>?_
 rw [Bool.eq_iff_iff]
 simp only [Bool.and_eq_true,decide_eq_true_eq]
 constructor
 · rintro ⟨⟨hle,hselect⟩,hlt,_⟩
   exact ⟨hselect,hlt,hle⟩
 · rintro ⟨hselect,hlt,hle⟩
   exact ⟨⟨hle,hselect⟩,hlt,Nat.le_trans hle hmem.2.2.2⟩

lemma readChanges_empty (hlimit:1≤limit):
  db.readChanges settings source after limit maxBytes scanLimit≠.ok ([],through,false):=by
 intro hread
 unfold Database.readChanges at hread
 split_ifs at hread
 obtain ⟨⟨rows,exhausted⟩,hfetch,heq⟩:=bind_eq_ok hread
 obtain ⟨rfl,htail⟩:=Prod.mk.inj (Except.ok.inj heq)
 obtain ⟨_,rfl⟩:=Prod.mk.inj htail
 generalize ((Database.orderByOffset _).take limit)=cursor at hfetch
 cases cursor with
 | cons row cursor=>exact fetchRows_ne_nil hlimit (List.cons_ne_nil _ _) hfetch rfl
 | nil=>
  have hflag:=congrArg Prod.snd (Except.ok.inj hfetch)
  exact absurd hlimit (of_decide_eq_false hflag)

lemma changesAfter_eq_ok
  (hok:db.changesAfter settings source after limit maxBytes scanLimit=.ok batch):
  ∃through exhausted,db.readChanges settings source after limit maxBytes scanLimit =
   .ok (batch.changes,through,exhausted) ∧
   ((exhausted=true ∧ batch.offset=max after through) ∨
    ∃last,batch.changes.getLast? = some last ∧ batch.offset=last.offset):=by
 obtain ⟨⟨rows,through,exhausted⟩,hread,hpage⟩:=bind_eq_ok hok
 cases exhausted with
 | true=>
  cases hpage
  exact ⟨through,true,hread,.inl ⟨rfl,rfl⟩⟩
 | false=>
  cases hlast:rows.getLast? with
  | none=>
   simp only [hlast] at hpage
   cases hpage
  | some last=>
   simp only [hlast] at hpage
   cases hpage
   exact ⟨through,false,hread,.inr ⟨last,hlast,rfl⟩⟩

lemma changesAfter_eq_error {error:StoreError} (hafter:db.compactedThrough≤after)
  (h:db.changesAfter settings source after limit maxBytes scanLimit=.error error):
  (error=.capacity "Durable State Change exceeds max-state-bytes" ∧
   ∃change∈db.changes,settings.maxStateBytes<change.content.retainedBytes) ∨
  (error=.emptyPage ∧ limit=0):=by
 rcases bind_eq_error h with hread|⟨⟨rows,through,exhausted⟩,hread,hpage⟩
 · unfold Database.readChanges at hread
   rw [if_neg (Nat.not_lt.mpr hafter)] at hread
   rcases bind_eq_error hread with hfetch|⟨_,_,hreturn⟩
   · obtain ⟨herror,change,hchange,hsize⟩:=fetchRows_eq_error hfetch
     have hselected:=(List.perm_insertionSort _ _).mem_iff.mp (List.mem_of_mem_take hchange)
     exact .inl ⟨herror,change,(List.mem_filter.mp hselected).1,hsize⟩
   · cases hreturn
 · cases exhausted with
   | true=>cases hpage
   | false=>
    cases hlast:rows.getLast? with
    | some last=>
     simp only [hlast] at hpage
     cases hpage
    | none=>
     simp only [hlast] at hpage
     obtain rfl:StoreError.emptyPage=error:=Except.error.inj hpage
     refine .inr ⟨rfl,?_⟩
     obtain rfl:=List.getLast?_eq_none_iff.mp hlast
     by_contra hlimit
     exact readChanges_empty (Nat.pos_of_ne_zero hlimit) hread

section

variable (h:Represents settings db log)
 (hok:db.changesAfter settings source after limit maxBytes scanLimit=.ok batch)
include h hok

lemma changesAfter_page (hafter:after≤log.length):
  after≤batch.offset ∧ batch.offset ≤ min log.length (after+scanLimit) ∧
   batch.changes=sourceWindow settings.sha256 source log after batch.offset:=by
 obtain ⟨through,exhausted,hread,hoffset⟩:=changesAfter_eq_ok hok
 obtain ⟨rfl,⟨k,hk⟩,hall,_⟩:=readChanges_eq_ok h hread
 rcases hoffset with ⟨hexhausted,hoffset⟩|⟨last,hlast,hoffset⟩
 · have hle:after ≤ min log.length (after+scanLimit):=
    Nat.le_min.mpr ⟨hafter,Nat.le_add_right _ _⟩
   rw [Nat.max_eq_right hle] at hoffset
   rw [hoffset]
   exact ⟨hle,Nat.le_refl _,hall hexhausted⟩
 · rw [hk] at hlast
   have hmem:=mem_sourceWindow.mp (List.mem_of_mem_take (List.mem_of_getLast? hlast))
   rw [hoffset]
   refine ⟨Nat.le_of_lt hmem.2.2.1,hmem.2.2.2,?_⟩
   rw [hk,sourceWindow_take hlast]

lemma changesAfter_offset :
  after≤batch.offset ∧ (batch.offset≤log.length ∨ batch.offset=after):=by
 obtain ⟨through,exhausted,hread,hoffset⟩:=changesAfter_eq_ok hok
 obtain ⟨rfl,⟨k,hk⟩,_,_⟩:=readChanges_eq_ok h hread
 rcases hoffset with ⟨_,hoffset⟩|⟨last,hlast,hoffset⟩
 · omega
 · rw [hk] at hlast
   have hmem:=mem_sourceWindow.mp (List.mem_of_mem_take (List.mem_of_getLast? hlast))
   omega

lemma changesAfter_ne_nil (hlimit:1≤limit) (hs:s ≤ min log.length (after+scanLimit))
  (hne:sourceWindow settings.sha256 source log after s≠[]):batch.changes≠[]:=by
 obtain ⟨through,exhausted,hread,_⟩:=changesAfter_eq_ok hok
 obtain ⟨rfl,_,_,hnonempty⟩:=readChanges_eq_ok h hread
 refine hnonempty hlimit ?_
 obtain ⟨change,hchange⟩:=List.exists_mem_of_ne_nil _ hne
 obtain ⟨hmem,hselect,hlt,hle⟩:=mem_sourceWindow.mp hchange
 exact List.ne_nil_of_mem (mem_sourceWindow.mpr ⟨hmem,hselect,hlt,hle.trans hs⟩)

end

end Movie.ChangeFeed
