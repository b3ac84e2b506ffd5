import Movie.ChangeFeed

/-!
# Compaction and the projections that still read

Runners read pages of the feed and move the stored offset later. In between the projection may be
retired and registered again, and the feed compacted.
-/
namespace Movie.CompactionSafety

open Checked DurableModel SQLiteStore DurableHistory SQLiteStoreInvariant ChangeFeed Reachability

universe u

variable {R:Type u}

structure Obtained where
 offset:ℕ
 batch:DurableStateChangeBatch

structure Feed (R:Type u) where
 db:Database R
 obtained:List Obtained

inductive FeedEvent (R:Type u) where
 | fetch (source:ProjectionSource) (offset limit maxBytes scanLimit:ℕ)
 | commit (transaction:Transaction R)

def MovesOver (obtained:List Obtained):Transaction R → Prop
 | .projectionSaveOffset _ expectedOffset newOffset
 | .projectionCommit _ expectedOffset newOffset _=>
  ∃page∈obtained,page.offset=expectedOffset ∧ page.batch.offset=newOffset
 | _=>True

/-- Any number of runners, each of which may use a page that it has obtained at any later
 time, again and for any projection. A transaction that is rolled back is no step. -/
def feedSystem (settings:Settings):System (Feed R) (FeedEvent R) where
 init s:=∃readModel,s=⟨Database.create readModel,[]⟩
 step s event t:=
  match event with
  | .fetch source offset limit maxBytes scanLimit=>∃batch,
   s.db.changesAfter settings source offset limit maxBytes scanLimit=.ok batch ∧
    t={ s with obtained:=s.obtained++[⟨offset,batch⟩] }
  | .commit transaction=>MovesOver s.obtained transaction ∧ ∃reply,
   transaction.run settings s.db=.ok (reply,t.db) ∧ t.obtained=s.obtained

def Bounded (db:Database R):Prop:=
 ∀id row,db.projections.lookup id=some row →
  db.compactedThrough ≤ row.offset ∧ row.offset≤db.highWatermark

variable {log:List Mutation} {settings:Settings}

namespace Bounded

variable {db db':Database R}

lemma insert (h:Bounded db) (id:ProjectionId) {row:ProjectionRow}
  (hlow:db.compactedThrough ≤ row.offset) (hhigh:row.offset≤db.highWatermark)
  (hprojections:db'.projections=db.projections.insert id row)
  (hcompacted:db'.compactedThrough=db.compactedThrough)
  (hwatermark:db'.highWatermark=db.highWatermark):Bounded db':=by
 intro id' row' hrow
 rw [hcompacted,hwatermark]
 rw [hprojections] at hrow
 by_cases hid:id'=id
 · subst hid
   rw [AList.lookup_insert] at hrow
   cases hrow
   exact ⟨hlow,hhigh⟩
 · rw [AList.lookup_insert_ne hid] at hrow
   exact h id' row' hrow

lemma mutate (h:Bounded db) {log log':List Mutation}
  (hrep:Represents settings db log) (hrep':Represents settings db' log')
  (hlog:log.length≤log'.length) (hprojections:db'.projections=db.projections)
  (hcompacted:db'.compactedThrough=db.compactedThrough):Bounded db':=by
 intro id row hrow
 rw [hprojections] at hrow
 obtain ⟨hlow,hhigh⟩:=h id row hrow
 rw [hrep.highWatermark] at hhigh
 rw [hcompacted,hrep'.highWatermark]
 exact ⟨hlow,hhigh.trans hlog⟩

lemma compactChanges (h:Bounded db) {limit count:ℕ}
  (hrun:db.compactChanges limit=.ok (count,db')):Bounded db':=by
 rcases Database.compactChanges_cases hrun with rfl|⟨through,_,hpassed,_,rfl⟩
 · exact h
 · intro id row hrow
   exact ⟨hpassed id row hrow,(h id row hrow).2⟩

lemma erase (h:Bounded db) (id:ProjectionId):Bounded (db.deleteProjectionOffset id).2:=by
 intro id' row hrow
 change (db.projections.erase id).lookup id'=some row at hrow
 by_cases hid:id'=id
 · subst hid
   rw [AList.lookup_erase] at hrow
   cases hrow
 · rw [AList.lookup_erase_ne hid] at hrow
   exact h id' row hrow

end Bounded

def Obtained.Within (log:List Mutation) (page:Obtained):Prop:=
 page.offset≤page.batch.offset ∧
  (page.batch.offset≤log.length ∨ page.batch.offset=page.offset)

variable {page:Obtained} {db db':Database R} {s:Feed R}

lemma Obtained.Within.grow (h:page.Within log) (more:List Mutation):page.Within (log++more):=by
 refine ⟨h.1,h.2.imp_left fun hle=>?_⟩
 rw [List.length_append]
 omega

lemma Bounded.move (h:Bounded db) (hrep:Represents settings db log)
  (hpage:page.Within log) {id:ProjectionId} {row:ProjectionRow}
  (hrow:db.projections.lookup id=some row) (hoffset:row.offset=page.offset)
  (hprojections:db'.projections =
   db.projections.insert id { row with offset:=page.batch.offset })
  (hcompacted:db'.compactedThrough=db.compactedThrough)
  (hwatermark:db'.highWatermark=db.highWatermark):Bounded db':=by
 obtain ⟨hlow,hhigh⟩:=h id row hrow
 obtain ⟨hle,hend⟩:=hpage
 have hlog:=hrep.highWatermark
 refine h.insert id ?_ ?_ hprojections hcompacted hwatermark
 · change db.compactedThrough≤page.batch.offset
   omega
 · change page.batch.offset≤db.highWatermark
   omega

lemma Bounded.run (h:Bounded db) (hrep:Represents settings db log) {obtained:List Obtained}
  (hpages:∀page∈obtained,page.Within log) {transaction:Transaction R} {reply:Reply}
  (hmoves:MovesOver obtained transaction)
  (hrun:transaction.run settings db=.ok (reply,db')):Bounded db':=by
 have hrep':=hrep.run hrun
 have hlength:log.length≤(log++transaction.logged reply).length:=by simp
 cases transaction with
 | upsert id expected operationId encoded now=>
  obtain ⟨⟨result,db₁⟩,hok,heq⟩:=bind_eq_ok hrun
  cases heq
  rcases Database.mutate_cases (upsert_eq_ok hok) with
   ⟨_,_,_,_,rfl⟩|⟨_,_,_,_,high,rfl,_,_⟩
  · exact h
  · exact h.mutate hrep hrep' hlength rfl rfl
 | delete id expected operationId now=>
  obtain ⟨⟨result,db₁⟩,hok,heq⟩:=bind_eq_ok hrun
  cases heq
  rcases Database.mutate_cases hok with
   ⟨_,_,_,_,rfl⟩|⟨_,_,_,_,high,rfl,_,_⟩
  · exact h
  · exact h.mutate hrep hrep' hlength rfl rfl
 | compactChanges limit=>
  obtain ⟨⟨count,db₁⟩,hok,heq⟩:=bind_eq_ok hrun
  cases heq
  exact h.compactChanges hok
 | projectionRegister id source mode initialOffset=>
  cases hrun
  change Bounded (db.projectionRegister id source mode initialOffset).2
  rcases db.projectionRegister_cases id source mode initialOffset with
   ⟨_,_,hdb,_⟩|⟨_,hdb,_⟩|⟨_,_,hlow,hhigh,hdb⟩ <;> rw [hdb]
  · exact h
  · exact h
  · exact h.insert id hlow hhigh rfl rfl rfl
 | projectionSaveOffset id expected new=>
  cases hrun
  change Bounded (db.projectionSaveOffset id expected new).2
  obtain ⟨page,hpage,rfl,rfl⟩:=hmoves
  rcases db.projectionSaveOffset_cases id page.offset page.batch.offset with
   ⟨_,hdb⟩|⟨_,row,hrow,hoffset,hdb⟩ <;> rw [hdb]
  · exact h
  · exact h.move hrep (hpages page hpage) hrow hoffset rfl rfl rfl
 | projectionCommit id expected new apply=>
  obtain ⟨⟨⟨saved,actual⟩,db₁⟩,hok,heq⟩:=bind_eq_ok hrun
  cases heq
  obtain ⟨page,hpage,rfl,rfl⟩:=hmoves
  rcases Database.projectionCommit_cases hok with
   ⟨_,rfl⟩|⟨_,row,readModel,hrow,hoffset,_,rfl⟩
  · exact h
  · exact h.move hrep (hpages page hpage) hrow hoffset rfl rfl rfl
 | retire id=>
  cases hrun
  exact h.erase id

structure Safe (settings:Settings) (s:Feed R) (log:List Mutation):Prop where
 represents:Represents settings s.db log
 pages:∀page∈s.obtained,page.Within log
 bounded:Bounded s.db

lemma safe_step (settings:Settings) {t:Feed R}
  (h:Safe settings s log) {event:FeedEvent R} (hstep:(feedSystem settings).step s event t):
  ∃more,Safe settings t (log++more):=by
 cases event with
 | fetch source offset limit maxBytes scanLimit=>
  obtain ⟨batch,hok,rfl⟩:=hstep
  refine ⟨[],?_⟩
  rw [List.append_nil]
  refine ⟨h.represents,fun page hpage=>?_,h.bounded⟩
  rcases List.mem_append.mp hpage with hold|hnew
  · exact h.pages page hold
  · rw [List.mem_singleton.mp hnew]
    exact changesAfter_offset h.represents hok
 | commit transaction=>
  obtain ⟨hmoves,reply,hrun,hobtained⟩:=hstep
  refine ⟨transaction.logged reply,h.represents.run hrun,?_,
   h.bounded.run h.represents h.pages hmoves hrun⟩
  intro page hpage
  rw [hobtained] at hpage
  exact (h.pages page hpage).grow _

lemma reachable_safe (settings:Settings)
  (h:(feedSystem settings).Reachable s):∃log,Safe settings s log:=by
 refine h.invariant (I := fun s=>∃log,Safe settings s log) ?_ ?_
 · rintro _ ⟨readModel,rfl⟩
   refine ⟨[],Represents.create settings readModel,fun _ hpage=>?_,fun _ _ hrow=>?_⟩
   · cases hpage
   · cases hrow
 · rintro s event t _ ⟨log,hsafe⟩ hstep
   obtain ⟨more,hsafe'⟩:=safe_step settings hsafe hstep
   exact ⟨_,hsafe'⟩

lemma changesAfter_ne_compacted {source:ProjectionSource} {offset limit maxBytes scanLimit:ℕ}
  (h:db.compactedThrough≤offset) (requested compacted:ℕ):
  db.changesAfter settings source offset limit maxBytes scanLimit ≠
   .error (.changeFeedCompacted requested compacted):=by
 intro herror
 rcases changesAfter_eq_error h herror with ⟨hcapacity,_⟩|⟨hempty,_⟩
 · cases hcapacity
 · cases hempty

/-- No compaction overtakes a registered projection. -/
theorem compaction_safe (settings:Settings) {s:Feed R} (h:(feedSystem settings).Reachable s):
  (∀id row,s.db.projections.lookup id=some row →
   s.db.compactedThrough ≤ row.offset ∧ row.offset ≤ s.db.highWatermark ∧
   ∀source limit maxBytes scanLimit requested compacted,
    s.db.changesAfter settings source row.offset limit maxBytes scanLimit ≠
     .error (.changeFeedCompacted requested compacted)) ∧
  ∀limit count db,s.db.compactChanges limit=.ok (count,db) →
   ∀change∈s.db.changes,change∉db.changes →
    ∀id row,s.db.projections.lookup id=some row → change.offset ≤ row.offset:=by
 obtain ⟨log,hsafe⟩:=reachable_safe settings h
 constructor
 · intro id row hrow
   obtain ⟨hlow,hhigh⟩:=hsafe.bounded id row hrow
   exact ⟨hlow,hhigh,fun _ _ _ _=>changesAfter_ne_compacted hlow⟩
 · intro limit count db hrun change hmem hdeleted id row hrow
   rcases Database.compactChanges_cases hrun with rfl|⟨through,_,hpassed,_,rfl⟩
   · exact absurd hmem hdeleted
   · have hthrough:change.offset≤through:=by
      by_contra hlt
      exact hdeleted (List.mem_filter.mpr ⟨hmem,decide_eq_true (Nat.not_le.mp hlt)⟩)
     exact hthrough.trans (hpassed id row hrow)

/-- A page is read, the projection is retired and registered again, and the page is
 committed after that; then the feed is compacted. -/
theorem compaction_safe_reregistered : ∃s:Feed Unit,
  (feedSystem plainSettings).Reachable s ∧
  (s.db.projections.lookup cartProjection).map (·.offset)=some 1 ∧
  s.db.compactedThrough=1 ∧
  ∀requested compacted,s.db.changesAfter plainSettings cartSource 1 10 1024 10 ≠
   .error (.changeFeedCompacted requested compacted):=by
 have h₀:(feedSystem plainSettings).Reachable (⟨Database.create (),[]⟩:Feed Unit):=
  .start ⟨(),rfl⟩
 have h₁:=h₀.next (t := ⟨_,_⟩) (.commit (.upsert cartId 0 ⟨⟨1,by decide⟩⟩ (cartState 7) 5))
  ⟨trivial,_,rfl,rfl⟩
 have h₂:=h₁.next (t := ⟨_,_⟩)
  (.commit (.projectionRegister cartProjection cartSource .atLeastOnce none))
  ⟨trivial,_,rfl,rfl⟩
 have h₃:=h₂.next (.fetch cartSource 0 10 1024 10) ⟨⟨_,1⟩,rfl,rfl⟩
 have h₄:=h₃.next (t := ⟨_,_⟩) (.commit (.retire cartProjection)) ⟨trivial,_,rfl,rfl⟩
 have h₅:=h₄.next (t := ⟨_,_⟩) (.commit (.delete cartId 1 ⟨⟨2,by decide⟩⟩ 6))
  ⟨trivial,_,rfl,rfl⟩
 have h₆:=h₅.next (t := ⟨_,_⟩)
  (.commit (.projectionRegister cartProjection cartSource .atLeastOnce (some 0)))
  ⟨trivial,_,rfl,rfl⟩
 have h₇:=h₆.next (t := ⟨_,_⟩) (.commit (.projectionSaveOffset cartProjection 0 1))
  ⟨⟨_,List.mem_singleton.mpr rfl,rfl,rfl⟩,_,rfl,rfl⟩
 have h₈:=h₇.next (t := ⟨_,_⟩) (.commit (.compactChanges 10)) ⟨trivial,_,rfl,rfl⟩
 refine ⟨_,h₈,rfl,rfl,?_⟩
 exact ((compaction_safe plainSettings h₈).1 cartProjection ⟨cartSource,.atLeastOnce,1⟩
  rfl).2.2 cartSource 10 1024 10

end Movie.CompactionSafety
