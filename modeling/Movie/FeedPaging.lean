import Movie.ChangeFeed

/-!
# Reading the change feed page by page

A reader asks again and again at the offset that the previous page reported, with any limits, while
the store goes on committing.
-/
namespace Movie.FeedPaging

open Checked DurableModel SQLiteStore DurableHistory SQLiteStoreInvariant ChangeFeed

universe u

variable {R:Type u}

def Appends : Transaction R → Prop
 | .compactChanges _=>False
 | _=>True

structure Round (R:Type u) where
 between:List (Transaction R)
 limit:ℕ
 maxBytes:ℕ
 scanLimit:ℕ
 appends:∀transaction∈between,Appends transaction
 limit_pos:1≤limit
 maxBytes_pos:1 ≤ maxBytes
 scanLimit_pos:1 ≤ scanLimit

structure Reading where
 afterOffset:ℕ
 highWatermark:ℕ
 batch:DurableStateChangeBatch

def transact (settings:Settings) (s:Run R) (transaction:Transaction R):Run R:=
 match transaction.run settings s.db with
 | .ok (reply,db)=>⟨db,s.log++transaction.logged reply⟩
 | .error _=>s

def readPages (settings:Settings) (source:ProjectionSource):
  List (Round R) → Run R → ℕ → Except StoreError (List Reading×Run R)
 | [],s,_=>.ok ([],s)
 | round::rounds,s,offset=>
  let s:=round.between.foldl (transact settings) s
  match s.db.changesAfter settings source offset round.limit round.maxBytes round.scanLimit with
  | .error error=>.error error
  | .ok batch=>
   match readPages settings source rounds s batch.offset with
   | .error error=>.error error
   | .ok (readings,t)=>.ok (⟨offset,s.db.highWatermark,batch⟩::readings,t)

def lastOffset (offset:ℕ) (readings:List Reading):ℕ:=
 (readings.getLast?.map (·.batch.offset)).getD offset

structure Readable (settings:Settings) (s:Run R):Prop where
 represents:Represents settings s.db s.log
 sizes:∀change∈s.db.changes,change.content.retainedBytes ≤ settings.maxStateBytes

structure Extends (s t:Run R):Prop where
 log:∃more,t.log=s.log++more
 compacted:t.db.compactedThrough=s.db.compactedThrough

lemma Extends.refl (s:Run R):Extends s s:=⟨⟨[],(List.append_nil _).symm⟩,rfl⟩

lemma Extends.trans {s t w:Run R} (h:Extends s t) (h':Extends t w):Extends s w:=by
 obtain ⟨more,hmore⟩:=h.log
 obtain ⟨more',hmore'⟩:=h'.log
 refine ⟨⟨more++more',?_⟩,h'.compacted.trans h.compacted⟩
 rw [hmore',hmore,List.append_assoc]

lemma Extends.length_le {s t:Run R} (h:Extends s t):s.log.length≤t.log.length:=by
 obtain ⟨more,hmore⟩:=h.log
 rw [hmore,List.length_append]
 exact Nat.le_add_right _ _

variable {settings:Settings}

lemma run_compacted {db db':Database R} {transaction:Transaction R}
  (happends:Appends transaction) {reply:Reply} (hrun:transaction.run settings db=.ok (reply,db')):
  db'.compactedThrough=db.compactedThrough:=by
 cases transaction with
 | upsert id expected operationId encoded now=>
  obtain ⟨⟨result,db₁⟩,hok,heq⟩:=bind_eq_ok hrun
  cases heq
  rcases Database.mutate_cases (upsert_eq_ok hok) with
   ⟨_,_,_,_,rfl⟩|⟨_,_,_,_,high,rfl,_,_⟩ <;> rfl
 | delete id expected operationId now=>
  obtain ⟨⟨result,db₁⟩,hok,heq⟩:=bind_eq_ok hrun
  cases heq
  rcases Database.mutate_cases hok with
   ⟨_,_,_,_,rfl⟩|⟨_,_,_,_,high,rfl,_,_⟩ <;> rfl
 | compactChanges limit=>exact happends.elim
 | projectionRegister id source mode initialOffset=>
  cases hrun
  exact (projectionRegister_same db id source mode initialOffset).compactedThrough
 | projectionSaveOffset id expected new=>
  cases hrun
  exact (projectionSaveOffset_same db id expected new).compactedThrough
 | projectionCommit id expected new apply=>
  obtain ⟨⟨⟨saved,actual⟩,db₁⟩,hok,heq⟩:=bind_eq_ok hrun
  cases heq
  rcases Database.projectionCommit_cases hok with ⟨_,rfl⟩|⟨_,row,readModel,_,_,_,rfl⟩ <;>
   rfl
 | retire id=>
  cases hrun
  rfl

lemma retained_mutations {s:Run R} (h:Represents settings s.db s.log):
  s.db.changes.map mutationOf=s.log.drop s.db.compactedThrough:=by
 rw [h.changes,List.map_drop,journal_mutations]

lemma transact_readable {s:Run R} (h:Readable settings s)
  {transaction:Transaction R} (happends:Appends transaction):
  Readable settings (transact settings s transaction) ∧
   Extends s (transact settings s transaction):=by
 unfold transact
 cases hrun:transaction.run settings s.db with
 | error error=>exact ⟨h,.refl s⟩
 | ok result=>
  obtain ⟨reply,db⟩:=result
  have hrep:=h.represents.run hrun
  have hcompacted:=run_compacted happends hrun
  refine ⟨⟨hrep,fun change hchange=>?_⟩,⟨_,rfl⟩,hcompacted⟩
  have hmutation:=List.mem_map_of_mem (f := mutationOf) hchange
  rw [retained_mutations (s := ⟨db,_⟩) hrep] at hmutation
  change _∈(s.log++transaction.logged reply).drop db.compactedThrough at hmutation
  rw [hcompacted,List.drop_append_of_le_length h.represents.compacted] at hmutation
  rcases List.mem_append.mp hmutation with hold|hnew
  · rw [←retained_mutations h.represents] at hold
    obtain ⟨other,hother,heq⟩:=List.mem_map.mp hold
    have hcontent:other.content=change.content:=congrArg Mutation.content heq
    exact hcontent▸h.sizes other hother
  · exact (Transaction.logged_accepted hrun hnew).1

lemma between_readable {transactions:List (Transaction R)}
  (happends:∀transaction∈transactions,Appends transaction) {s:Run R}
  (h:Readable settings s):Readable settings (transactions.foldl (transact settings) s) ∧
   Extends s (transactions.foldl (transact settings) s):=by
 induction transactions generalizing s with
 | nil=>exact ⟨h,.refl s⟩
 | cons transaction rest ih=>
  obtain ⟨hnext,hextends⟩:=transact_readable h (happends transaction List.mem_cons_self)
  obtain ⟨hlast,hmore⟩:=
   ih (fun other hmem=>happends other (List.mem_cons_of_mem _ hmem)) hnext
  exact ⟨hlast,hextends.trans hmore⟩

lemma changesAfter_progress {s:Run R} (h:Readable settings s)
  (source:ProjectionSource) {offset limit scanLimit:ℕ} (maxBytes:ℕ)
  (hlow:s.db.compactedThrough≤offset) (hhigh:offset ≤ s.log.length)
  (hlimit:1≤limit) (hscan:1 ≤ scanLimit):
  ∃batch,s.db.changesAfter settings source offset limit maxBytes scanLimit=.ok batch ∧
   offset≤batch.offset ∧ batch.offset ≤ s.log.length ∧
   (offset<s.log.length → offset<batch.offset) ∧
   batch.changes=sourceWindow settings.sha256 source s.log offset batch.offset:=by
 cases hcall:s.db.changesAfter settings source offset limit maxBytes scanLimit with
 | error error=>
  rcases changesAfter_eq_error hlow hcall with ⟨_,change,hchange,hsize⟩|⟨_,hzero⟩
  · exact absurd (h.sizes change hchange) (Nat.not_le.mpr hsize)
  · omega
 | ok batch=>
  obtain ⟨hle,hend,hchanges⟩:=changesAfter_page h.represents hcall hhigh
  refine ⟨batch,rfl,hle,hend.trans (Nat.min_le_left _ _),fun hbehind=>?_,hchanges⟩
  obtain ⟨through,exhausted,hread,hoffset⟩:=changesAfter_eq_ok hcall
  obtain ⟨rfl,_,_,_⟩:=readChanges_eq_ok h.represents hread
  rcases hoffset with ⟨_,hoffset⟩|⟨last,hlast,hoffset⟩
  · omega
  · have hmem:=List.mem_of_getLast? hlast
    rw [hchanges] at hmem
    have hlt:=(mem_sourceWindow.mp hmem).2.2.1
    omega

lemma lastOffset_cons (offset:ℕ) (reading:Reading) (readings:List Reading):
  lastOffset offset (reading::readings)=lastOffset reading.batch.offset readings:=by
 rw [lastOffset,lastOffset,List.getLast?_cons]
 cases readings.getLast? <;> rfl

structure Covers (settings:Settings) (source:ProjectionSource) (s:Run R) (offset:ℕ)
  (rounds:List (Round R)) (readings:List Reading) (t:Run R):Prop where
 returns:readPages settings source rounds s offset=.ok (readings,t)
 readable:Readable settings t
 extended:Extends s t
 delivered:readings.flatMap (·.batch.changes) =
  sourceWindow settings.sha256 source t.log offset (lastOffset offset readings)
 starts:offset≤lastOffset offset readings
 ends:lastOffset offset readings≤t.log.length
 progress:∀reading∈readings,reading.afterOffset ≤ reading.batch.offset ∧
  (reading.afterOffset<reading.highWatermark → reading.afterOffset<reading.batch.offset)
 reaches:min s.log.length (offset+rounds.length)≤lastOffset offset readings

lemma readPages_covers (source:ProjectionSource)
  (rounds:List (Round R)) {s:Run R} (h:Readable settings s) {offset:ℕ}
  (hlow:s.db.compactedThrough≤offset) (hhigh:offset ≤ s.log.length):
  ∃readings t,Covers settings source s offset rounds readings t:=by
 induction rounds generalizing s offset with
 | nil=>
  refine ⟨[],s,rfl,h,.refl s,?_,Nat.le_refl _,hhigh,fun _ hmem=>?_,?_⟩
  · exact (sourceWindow_of_le (Nat.le_refl _)).symm
  · cases hmem
  · exact Nat.min_le_right _ _
 | cons round rounds ih=>
  obtain ⟨hread,hextends⟩:=between_readable round.appends h
  generalize hs':round.between.foldl (transact settings) s=s' at hread hextends
  obtain ⟨batch,hcall,hle,hend,hstrict,hchanges⟩:=changesAfter_progress hread source
   round.maxBytes (hextends.compacted.trans_le hlow) (hhigh.trans hextends.length_le)
   round.limit_pos round.scanLimit_pos
  obtain ⟨readings,t,hcovers⟩:=ih hread
   ((hextends.compacted.trans_le hlow).trans hle) hend
  obtain ⟨more,hmore⟩:=hcovers.extended.log
  refine ⟨⟨offset,s'.db.highWatermark,batch⟩::readings,t,?_,hcovers.readable,
   hextends.trans hcovers.extended,?_,?_,?_,?_,?_⟩
  · simp only [readPages,hs',hcall,hcovers.returns]
  · rw [List.flatMap_cons,hcovers.delivered,lastOffset_cons]
    change batch.changes++_=_
    rw [hchanges,←sourceWindow_grow _ _ _ more hend,←hmore]
    exact sourceWindow_append _ _ hle hcovers.starts hcovers.ends
  · rw [lastOffset_cons]
    exact hle.trans hcovers.starts
  · rw [lastOffset_cons]
    exact hcovers.ends
  · intro reading hmem
    rcases List.mem_cons.mp hmem with rfl|hrest
    · refine ⟨hle,fun hbehind=>hstrict ?_⟩
      rwa [←hread.represents.highWatermark]
    · exact hcovers.progress reading hrest
  · rw [lastOffset_cons,List.length_cons]
    have hreaches:=hcovers.reaches
    have hgrow:=hextends.length_le
    have hstarts:=hcovers.starts
    change min s.log.length (offset+(rounds.length+1))≤lastOffset batch.offset readings
    omega

/-- Calls that follow the reported offsets deliver exactly the source's changes between them,
 and as many calls as there are offsets in between reach any watermark. -/
theorem feed_paging (settings:Settings) (source:ProjectionSource) {s:Run R}
  (h:Represents settings s.db s.log)
  (hsizes:∀change∈s.db.changes,change.content.retainedBytes ≤ settings.maxStateBytes)
  {offset:ℕ} (hlow:s.db.compactedThrough≤offset) (hhigh:offset ≤ s.db.highWatermark)
  (rounds:List (Round R)):
  ∃readings t,readPages settings source rounds s offset=.ok (readings,t) ∧
   readings.flatMap (·.batch.changes)=t.db.changes.filter (fun change=>
    source.selects change ∧ offset<change.offset ∧
     change.offset≤lastOffset offset readings) ∧
   (readings.flatMap (·.batch.changes)).Pairwise (fun a b=>a.offset<b.offset) ∧
   (∀reading∈readings,reading.afterOffset ≤ reading.batch.offset ∧
    (reading.afterOffset<reading.highWatermark →
     reading.afterOffset<reading.batch.offset)) ∧
   ∀watermark ≤ s.db.highWatermark,watermark - offset ≤ rounds.length →
    watermark≤lastOffset offset readings:=by
 rw [h.highWatermark] at hhigh
 obtain ⟨readings,t,hcovers⟩:=readPages_covers source rounds ⟨h,hsizes⟩ hlow hhigh
 refine ⟨readings,t,hcovers.returns,?_,?_,hcovers.progress,?_⟩
 · rw [hcovers.delivered,selected_eq hcovers.readable.represents source
    (hcovers.extended.compacted.trans_le hlow)]
 · rw [hcovers.delivered]
   exact sourceWindow_pairwise ..
 · intro watermark hwatermark hrounds
   rw [h.highWatermark] at hwatermark
   have hreaches:=hcovers.reaches
   omega

def cartDeletion (deletes:Bool):List (Transaction Unit):=
 if deletes then [.delete cartId 1 (cartOperation 2) 6] else []

lemma cartDeletion_appends (deletes:Bool):
  ∀transaction∈cartDeletion deletes,Appends transaction:=by
 intro transaction hmem
 cases deletes with
 | false=>cases hmem
 | true=>
  rw [List.mem_singleton.mp hmem]
  trivial

lemma cartLimit_pos : 1≤1:=Nat.le_refl 1

def cartRound (deletes:Bool):Round Unit:=
 ⟨cartDeletion deletes,1,1,1,cartDeletion_appends deletes,cartLimit_pos,cartLimit_pos,
  cartLimit_pos⟩

def cartRounds : List (Round Unit):=[cartRound false,cartRound true]

theorem feed_paging_cart : ∃(s t:Run Unit) (readings:List Reading),
  replay plainSettings [.upsert cartId 0 ⟨⟨1,by decide⟩⟩ (cartState 7) 5]
   ⟨Database.create (),[]⟩=some s ∧
  s.db.compactedThrough≤0 ∧
  readPages plainSettings cartSource cartRounds s 0=.ok (readings,t) ∧
  readings.flatMap (·.batch.changes)=t.db.changes.filter (fun change=>
   cartSource.selects change ∧ 0<change.offset ∧ change.offset≤lastOffset 0 readings) ∧
  1≤lastOffset 0 readings:=by
 have hrun:(replay plainSettings [.upsert cartId 0 ⟨⟨1,by decide⟩⟩ (cartState 7) 5]
  (⟨Database.create (),[]⟩:Run Unit)).map (fun s=>(s.db.compactedThrough,
   s.db.highWatermark,s.db.changes.map (·.content))) =
  some (0,1,[.live (cartState 7)]):=by decide
 obtain ⟨s,hs,hmarks⟩:=Option.map_eq_some_iff.mp hrun
 obtain ⟨hcompacted,htail⟩:=Prod.mk.inj hmarks
 obtain ⟨hwatermark,hcontents⟩:=Prod.mk.inj htail
 have hreach:(storeSystem plainSettings).Reachable s:=replay_reachable (.start ⟨(),rfl⟩) hs
 have hsizes:∀change∈s.db.changes,
  change.content.retainedBytes≤plainSettings.maxStateBytes:=by
  intro change hchange
  have hcontent:=List.mem_map_of_mem (f := fun c:DurableStateChange=>c.content) hchange
  rw [hcontents] at hcontent
  rw [List.mem_singleton.mp hcontent]
  decide
 obtain ⟨readings,t,hreturns,hdelivered,_,_,hreaches⟩:=
  feed_paging plainSettings cartSource (reachable_represents plainSettings hreach) hsizes
   hcompacted.le (Nat.zero_le _) cartRounds
 exact ⟨s,t,readings,hs,hcompacted.le,hreturns,hdelivered,
  hreaches 1 hwatermark.ge (by decide)⟩

end Movie.FeedPaging
