import Movie.DurableModel
import Mathlib.Data.List.AList
import Mathlib.Data.List.Sort

/-!
# The SQLite Durable State store

The tables of `persistence/sqlite.py` and the body of each of its transactions. A transaction that
raises returns no database: the caller keeps the one it had.
-/
namespace Movie.SQLiteStore

open DurableModel

universe u

inductive ProcessingMode where
 | atLeastOnce
 | sqliteExactlyOnce
 deriving DecidableEq

@[ext]
structure ProjectionSource where
 entityType:String
 minSlice:ℕ
 maxSlice:ℕ
 entityType_valid:ValidName entityType
 slices_ordered:minSlice ≤ maxSlice
 slices_bounded:maxSlice<persistenceSliceCount

instance : DecidableEq ProjectionSource:=fun _ _=>
 decidable_of_iff _ ProjectionSource.ext_iff.symm

def ProjectionSource.selects (source:ProjectionSource) (change:DurableStateChange):Bool:=
 change.persistenceId.entityType=source.entityType ∧
  source.minSlice ≤ change.slice ∧ change.slice ≤ source.maxSlice

structure StateRow where
 revision:ℕ
 operationId:OperationId
 content:Content
 deriving DecidableEq

structure OperationRow where
 fingerprint:List UInt8
 revision:ℕ
 deriving DecidableEq

structure ProjectionRow where
 source:ProjectionSource
 mode:ProcessingMode
 offset:ℕ
 deriving DecidableEq

/-- The five tables, the AUTOINCREMENT counter of the change table, and the tables
 that projection handlers write (`readModel`). -/
structure Database (R:Type u) where
 states:AList (fun _:PersistenceId=>StateRow)
 operations:AList (fun _:PersistenceId×OperationId=>OperationRow)
 changes:List DurableStateChange
 sequence:ℕ
 projections:AList (fun _:ProjectionId=>ProjectionRow)
 highWatermark:ℕ
 compactedThrough:ℕ
 readModel:R

structure Settings where
 sha256:List UInt8 → List UInt8
 maxStateBytes:ℕ

inductive StoreError where
 | operationConflict
 | concurrentWrite (expectedRevision actualRevision:ℕ)
 | changeFeedCompacted (requestedOffset compactedThrough:ℕ)
 | capacity (text:String)
 | invalid (text:String)
 | timeout (text:String)
 | handler (text:String)
 | integrity
 | overflow
 | emptyPage
 deriving DecidableEq

def StoreError.message : StoreError → String
 | .operationConflict => "Operation identity was reused with different content"
 | .concurrentWrite expected actual=>
  "Expected durable-state revision " ++ toString expected ++ ", found " ++ toString actual
 | .changeFeedCompacted requested compacted=>
  "Projection Offset " ++ toString requested ++ " precedes compacted Change Feed offset " ++
   toString compacted
 | .capacity text | .invalid text | .timeout text | .handler text=>text
 | .integrity => "constraint failed"
 | .overflow => "int too big to convert"
 | .emptyPage => "tuple index out of range"

namespace Database

variable {R:Type u}

def create (readModel:R):Database R:=
 ⟨∅,∅,[],0,∅,0,0,readModel⟩

/-! The statements of a mutation. -/

def upsertState (db:Database R) (id:PersistenceId) (row:StateRow):Database R:=
 { db with states:=db.states.insert id row }

def insertOperation (db:Database R) (id:PersistenceId) (operationId:OperationId)
  (row:OperationRow):Except StoreError (Database R):=
 if (id,operationId)∈db.operations then
  .error .integrity
 else
  .ok { db with operations:=db.operations.insert (id,operationId) row }

def insertChange (db:Database R) (id:PersistenceId) (slice revision:ℕ)
  (operationId:OperationId) (content:Content) (committedAtNs:ℤ):
  Except StoreError (Database R):=
 if persistenceSliceCount ≤ slice ∨ committedAtNs≤0 ∨
  ∃change∈db.changes,change.persistenceId=id ∧ change.revision=revision then
  .error .integrity
 else
  let offset:=db.sequence+1
  .ok { db with
   changes:=db.changes++[⟨offset,id,revision,operationId,slice,content,committedAtNs⟩]
   sequence:=offset }

/-- `SET high_watermark = (SELECT max(global_offset) …)` under the table's constraints. -/
def updateHighWatermark (db:Database R):Except StoreError (Database R):=
 match (db.changes.map (·.offset)).max? with
 | none=>.error .integrity
 | some high=>
  if high<db.compactedThrough then .error .integrity
  else .ok { db with highWatermark:=high }

def storedRevision (db:Database R) (id:PersistenceId):ℕ:=
 ((db.states.lookup id).map (·.revision)).getD 0

def mutate (settings:Settings) (db:Database R) (id:PersistenceId) (expectedRevision:ℕ)
  (operationId:OperationId) (content:Content) (committedAtNs:ℤ):
  Except StoreError (WriteResult×Database R):=
 let fingerprint:=fingerprint settings.sha256 content
 match db.operations.lookup (id,operationId) with
 | some duplicate=>
  if duplicate.fingerprint≠fingerprint then .error .operationConflict
  else .ok (⟨duplicate.revision,true⟩,db)
 | none=>
  let actualRevision:=db.storedRevision id
  if actualRevision≠expectedRevision then
   .error (.concurrentWrite expectedRevision actualRevision)
  else do
   let revision:=actualRevision+1
   let db:=db.upsertState id ⟨revision,operationId,content⟩
   let db ← db.insertOperation id operationId ⟨fingerprint,revision⟩
   let db ← db.insertChange id (persistenceSlice settings.sha256 id) revision operationId
    content committedAtNs
   let db ← db.updateHighWatermark
   return (⟨revision,false⟩,db)

def upsert (settings:Settings) (db:Database R) (id:PersistenceId) (expectedRevision:ℕ)
  (operationId:OperationId) (encoded:EncodedState) (committedAtNs:ℤ):
  Except StoreError (WriteResult×Database R):=
 if settings.maxStateBytes<(Content.live encoded).retainedBytes then
  .error (.capacity "State record exceeds max-state-bytes")
 else if ¬(Content.live encoded).Fingerprinted then
  .error .overflow
 else
  db.mutate settings id expectedRevision operationId (.live encoded) committedAtNs

def delete (settings:Settings) (db:Database R) (id:PersistenceId) (expectedRevision:ℕ)
  (operationId:OperationId) (committedAtNs:ℤ):
  Except StoreError (WriteResult×Database R):=
 db.mutate settings id expectedRevision operationId .tombstone committedAtNs

def load (settings:Settings) (db:Database R) (id:PersistenceId):
  Except StoreError (Option DurableStateRecord):=
 match db.states.lookup id with
 | none=>.ok none
 | some row=>
  if settings.maxStateBytes<row.content.retainedBytes then
   .error (.capacity ("Recovered state exceeds max-state-bytes for " ++ id.toText))
  else
   .ok (some ⟨id,row.revision,row.operationId,row.content⟩)

/-! The change feed. -/

def orderByOffset (changes:List DurableStateChange):List DurableStateChange:=
 changes.insertionSort fun a b=>a.offset≤b.offset

/-- The cursor loop of `_read_changes`: `rows` and `retained` are what it has kept so
 far; the flag of the result says that the cursor was exhausted. -/
def fetchRows (settings:Settings) (limit maxBytes:ℕ):
  List DurableStateChange → ℕ → List DurableStateChange →
   Except StoreError (List DurableStateChange×Bool)
 | rows,_,[]=>.ok (rows,decide (rows.length<limit))
 | rows,retained,row::cursor=>
  if limit ≤ rows.length then
   .ok (rows,false)
  else
   let stateBytes:=row.content.retainedBytes
   if settings.maxStateBytes<stateBytes then
    .error (.capacity "Durable State Change exceeds max-state-bytes")
   else if rows≠[] ∧ maxBytes<retained+stateBytes then
    .ok (rows,false)
   else
    fetchRows settings limit maxBytes (rows++[row]) (retained+stateBytes) cursor

def readChanges (settings:Settings) (db:Database R) (source:ProjectionSource)
  (afterOffset limit maxBytes scanLimit:ℕ):
  Except StoreError (List DurableStateChange×ℕ×Bool):=
 if afterOffset<db.compactedThrough then
  .error (.changeFeedCompacted afterOffset db.compactedThrough)
 else do
  let scanThrough:=min db.highWatermark (afterOffset+scanLimit)
  let selected:=db.changes.filter fun change=>
   source.selects change ∧ afterOffset<change.offset ∧ change.offset ≤ scanThrough
  let (rows,exhausted) ←
   fetchRows settings limit maxBytes [] 0 ((orderByOffset selected).take limit)
  return (rows,scanThrough,exhausted)

/-- `_changes`. An unfinished page is never empty for a positive `limit`; otherwise
 `changes[-1]` raises. -/
def changesAfter (settings:Settings) (db:Database R) (source:ProjectionSource)
  (afterOffset limit maxBytes scanLimit:ℕ):Except StoreError DurableStateChangeBatch:=do
 let (rows,scanThrough,exhausted) ←
  db.readChanges settings source afterOffset limit maxBytes scanLimit
 if exhausted then
  return ⟨rows,max afterOffset scanThrough⟩
 else
  match rows.getLast? with
  | some last=>return ⟨rows,last.offset⟩
  | none=>throw .emptyPage

def compactChanges (db:Database R) (limit:ℕ):Except StoreError (ℕ×Database R):=
 if ¬(1≤limit ∧ limit≤100000) then
  .error (.invalid "Change Feed compaction limit must be between 1 and 100000")
 else
  match (db.projections.entries.map (·.2.offset)).min? with
  | none=>.ok (0,db)
  | some minimumOffset=>
   if minimumOffset=0 then .ok (0,db)
   else
    let offsets:=((orderByOffset
     (db.changes.filter (·.offset ≤ minimumOffset))).take limit).map (·.offset)
    match offsets.getLast? with
    | none=>.ok (0,db)
    | some through=>
     let kept:=db.changes.filter (through<·.offset)
     let rowcount:=(db.changes.filter (·.offset≤through)).length
     if rowcount=0 then .ok (0,{ db with changes:=kept })
     else if db.highWatermark<through then .error .integrity
     else .ok (rowcount,{ db with changes:=kept,compactedThrough:=through })

/-! The projection offsets. -/

inductive Registration where
 | ok
 | baselineRequired
 | invalidBaseline
 | sourceConflict
 deriving DecidableEq

def projectionRegister (db:Database R) (id:ProjectionId) (source:ProjectionSource)
  (mode:ProcessingMode) (initialOffset:Option ℕ):(ℕ×Registration)×Database R:=
 let register (offset:ℕ):(ℕ×Registration)×Database R:=
  ((offset,.ok),{ db with projections:=db.projections.insert id ⟨source,mode,offset⟩ })
 match db.projections.lookup id with
 | none=>
  match initialOffset with
  | none=>if 0<db.compactedThrough then ((0,.baselineRequired),db) else register 0
  | some initial=>
   if ¬(db.compactedThrough ≤ initial ∧ initial≤db.highWatermark) then
    ((0,.invalidBaseline),db)
   else register initial
 | some stored=>
  if stored.source=source ∧ stored.mode=mode then ((stored.offset,.ok),db)
  else ((stored.offset,.sourceConflict),db)

/-- `UPDATE … SET projection_offset WHERE projection_offset = expected`, with a
 database exactly when one row was changed. -/
def updateOffset (db:Database R) (id:ProjectionId) (expectedOffset newOffset:ℕ):
  Option (Database R):=
 match db.projections.lookup id with
 | none=>none
 | some row=>
  if row.offset=expectedOffset then
   some { db with projections:=db.projections.insert id { row with offset:=newOffset } }
  else none

/-- The stored offset as the source reports it: `-1` for a projection without a row. -/
def storedOffset (db:Database R) (id:ProjectionId):ℤ:=
 match db.projections.lookup id with
 | none=>-1
 | some row=>row.offset

def projectionSaveOffset (db:Database R) (id:ProjectionId) (expectedOffset newOffset:ℕ):
  (Bool×ℤ)×Database R:=
 match db.updateOffset id expectedOffset newOffset with
 | some db'=>((true,newOffset),db')
 | none=>((false,db.storedOffset id),db)

/-- A mismatch raised inside the transaction rolls it back and is returned. -/
def projectionCommit (db:Database R) (id:ProjectionId) (expectedOffset newOffset:ℕ)
  (apply:R → Except StoreError R):Except StoreError ((Bool×ℤ)×Database R):=
 if db.storedOffset id≠expectedOffset then
  .ok ((false,db.storedOffset id),db)
 else do
  let readModel ← apply db.readModel
  match { db with readModel:=readModel }.updateOffset id expectedOffset newOffset with
  | some db'=>return ((true,newOffset),db')
  | none=>return ((false,expectedOffset),db)

def deleteProjectionOffset (db:Database R) (id:ProjectionId):Bool×Database R:=
 ((db.projections.lookup id).isSome,{ db with projections:=db.projections.erase id })

def validateChangeFeed (db:Database R):Except String Unit:=
 let expected:=if db.compactedThrough=db.highWatermark then none else some db.highWatermark
 if db.sequence≠db.highWatermark ∨ (db.changes.map (·.offset)).max? ≠ expected then
  .error "SQLite persistence Change Feed sequence is incompatible"
 else .ok ()

/-! What a transaction can do, said once for the proofs. -/

variable {db db':Database R} {id:PersistenceId} {content:Content} {committedAtNs:ℤ} {expected:ℕ}
 {operationId:OperationId}

lemma insertOperation_eq_ok {row:OperationRow}
  (h:db.insertOperation id operationId row=.ok db'):(id,operationId)∉db.operations ∧
   db'={ db with operations:=db.operations.insert (id,operationId) row }:=by
 unfold insertOperation at h
 split_ifs at h with hmem
 exact ⟨hmem,(Except.ok.inj h).symm⟩

lemma insertChange_eq_ok {slice revision:ℕ}
  (h:db.insertChange id slice revision operationId content committedAtNs=.ok db'):
  0<committedAtNs ∧
   db'={ db with
    changes:=db.changes ++
     [⟨db.sequence+1,id,revision,operationId,slice,content,committedAtNs⟩]
    sequence:=db.sequence+1 }:=by
 unfold insertChange at h
 split_ifs at h with hbad
 push Not at hbad
 exact ⟨hbad.2.1,(Except.ok.inj h).symm⟩

lemma updateHighWatermark_eq_ok (h:db.updateHighWatermark=.ok db'):
  ∃high,(db.changes.map (·.offset)).max? = some high ∧ db.compactedThrough≤high ∧
   db'={ db with highWatermark:=high }:=by
 unfold updateHighWatermark at h
 split at h
 · cases h
 · rename_i high hmax
   split_ifs at h with hlt
   exact ⟨high,hmax,Nat.not_lt.mp hlt,(Except.ok.inj h).symm⟩

def committed (settings:Settings) (db:Database R) (id:PersistenceId)
  (operationId:OperationId) (content:Content) (committedAtNs:ℤ) (high:ℕ):
  Database R:=
 let revision:=db.storedRevision id+1
 { db with
   states:=db.states.insert id ⟨revision,operationId,content⟩
   operations:=db.operations.insert (id,operationId)
    ⟨fingerprint settings.sha256 content,revision⟩
   changes:=db.changes++[⟨db.sequence+1,id,revision,operationId,
    persistenceSlice settings.sha256 id,content,committedAtNs⟩]
   sequence:=db.sequence+1
   highWatermark:=high }

/-- A mutation that does not raise is a duplicate, which changes nothing, or writes
 the next revision into all four tables. -/
lemma mutate_cases {settings:Settings} {expectedRevision:ℕ}
  {result:WriteResult} (h:db.mutate settings id expectedRevision operationId content committedAtNs =
   .ok (result,db')):(∃row,db.operations.lookup (id,operationId)=some row ∧
   row.fingerprint=fingerprint settings.sha256 content ∧
   result=⟨row.revision,true⟩ ∧ db'=db) ∨
  (db.operations.lookup (id,operationId)=none ∧ db.storedRevision id=expectedRevision ∧
   0<committedAtNs ∧ result=⟨expectedRevision+1,false⟩ ∧
   ∃high,db'=db.committed settings id operationId content committedAtNs high ∧
    (db'.changes.map (·.offset)).max? = some high ∧ db.compactedThrough≤high):=by
 unfold mutate at h
 cases hop:db.operations.lookup (id,operationId) with
 | some row=>
  simp only [hop] at h
  split_ifs at h with hfp
  cases h
  exact .inl ⟨row,rfl,not_not.mp hfp,rfl,rfl⟩
 | none=>
  simp only [hop] at h
  split_ifs at h with hrev
  have hrev:=not_not.mp hrev
  cases hins:(db.upsertState id ⟨db.storedRevision id+1,operationId,content⟩).insertOperation
   id operationId ⟨fingerprint settings.sha256 content,db.storedRevision id+1⟩ with
  | error e=>rw [hins] at h; cases h
  | ok db₁=>
   rw [hins] at h
   cases hchg:db₁.insertChange id (persistenceSlice settings.sha256 id)
    (db.storedRevision id+1) operationId content committedAtNs with
   | error e=>simp only [bind,Except.bind,hchg] at h; cases h
   | ok db₂=>
    cases hhigh:db₂.updateHighWatermark with
    | error e=>simp only [bind,Except.bind,hchg,hhigh] at h; cases h
    | ok db₃=>
     simp only [bind,Except.bind,hchg,hhigh] at h
     cases h
     obtain ⟨_,rfl⟩:=insertOperation_eq_ok hins
     obtain ⟨hnow,rfl⟩:=insertChange_eq_ok hchg
     obtain ⟨high,hmax,hle,rfl⟩:=updateHighWatermark_eq_ok hhigh
     subst hrev
     exact .inr ⟨rfl,rfl,hnow,rfl,high,rfl,hmax,hle⟩

lemma min_projection_offset_le {minimum:ℕ}
  (h:(db.projections.entries.map (·.2.offset)).min? = some minimum) {id:ProjectionId}
  {row:ProjectionRow} (hrow:db.projections.lookup id=some row):minimum ≤ row.offset:=by
 have hmem:(⟨id,row⟩:Sigma fun _:ProjectionId=>ProjectionRow) ∈
  db.projections.entries:=AList.mem_lookup_iff.mp hrow
 exact (List.min?_eq_some_iff.mp h).2 _ (List.mem_map_of_mem hmem)

/-- Compaction deletes nothing, or everything up to the offset of a retained change
 that every projection has reached. -/
lemma compactChanges_cases {limit count:ℕ} (h:db.compactChanges limit=.ok (count,db')):db'=db ∨
  ∃through,(∃change∈db.changes,change.offset=through) ∧
   (∀id row,db.projections.lookup id=some row → through ≤ row.offset) ∧
   through≤db.highWatermark ∧
   db'={ db with
    changes:=db.changes.filter (through<·.offset)
    compactedThrough:=through }:=by
 unfold compactChanges at h
 split_ifs at h with hlimit
 cases hmin:(db.projections.entries.map (·.2.offset)).min? with
 | none=>
  simp only [hmin] at h
  exact .inl (Prod.mk.inj (Except.ok.inj h)).2.symm
 | some minimum=>
  simp only [hmin] at h
  split_ifs at h with hzero
  · exact .inl (Prod.mk.inj (Except.ok.inj h)).2.symm
  · split at h
    · exact .inl (Prod.mk.inj (Except.ok.inj h)).2.symm
    · rename_i through hlast
      obtain ⟨change,hchange,hoffset⟩:=List.mem_map.mp (List.mem_of_getLast? hlast)
      have hsel:=(List.perm_insertionSort _ _).mem_iff.mp (List.mem_of_mem_take hchange)
      obtain ⟨hmem,hle⟩:=List.mem_filter.mp hsel
      have hle:through ≤ minimum:=by simpa [hoffset] using hle
      have hcount:(db.changes.filter (·.offset≤through)).length≠0:=by
       intro hnil
       have hmem':change∈db.changes.filter (·.offset≤through):=
        List.mem_filter.mpr ⟨hmem,by simp [hoffset]⟩
       rw [List.length_eq_zero_iff.mp hnil] at hmem'
       cases hmem'
      rw [if_neg hcount] at h
      split_ifs at h with hhigh
      refine .inr ⟨through,⟨change,hmem,hoffset⟩,?_,Nat.not_lt.mp hhigh,
       (Prod.mk.inj (Except.ok.inj h)).2.symm⟩
      intro id row hrow
      exact hle.trans (min_projection_offset_le hmin hrow)

lemma projectionRegister_cases (db:Database R) (id:ProjectionId) (source:ProjectionSource)
  (mode:ProcessingMode) (initialOffset:Option ℕ):
  let result:=db.projectionRegister id source mode initialOffset
 (∃row,db.projections.lookup id=some row ∧ result.2=db ∧ result.1.1=row.offset) ∨
 (db.projections.lookup id=none ∧ result.2=db ∧ result.1.2≠.ok) ∨
 (db.projections.lookup id=none ∧ result.1.2=.ok ∧ db.compactedThrough ≤ result.1.1 ∧
  result.1.1≤db.highWatermark ∧
  result.2={ db with
   projections:=db.projections.insert id ⟨source,mode,result.1.1⟩ }):=by
 unfold projectionRegister
 cases hrow:db.projections.lookup id with
 | some row=>
  dsimp only
  split_ifs <;> exact .inl ⟨row,rfl,rfl,rfl⟩
 | none=>
  cases initialOffset with
  | none=>
   dsimp only
   split_ifs with hcompacted
   · exact .inr (.inl ⟨rfl,rfl,by simp⟩)
   · exact .inr (.inr ⟨rfl,rfl,Nat.not_lt.mp hcompacted,Nat.zero_le _,rfl⟩)
  | some initial=>
   dsimp only
   split_ifs with hrange
   · exact .inr (.inr ⟨rfl,rfl,hrange.1,hrange.2,rfl⟩)
   · exact .inr (.inl ⟨rfl,rfl,by simp⟩)

lemma updateOffset_eq_some {id:ProjectionId} {new:ℕ} (h:db.updateOffset id expected new=some db'):
  ∃row,db.projections.lookup id=some row ∧ row.offset=expected ∧
   db'={ db with projections:=db.projections.insert id { row with offset:=new } }:=by
 unfold updateOffset at h
 cases hrow:db.projections.lookup id with
 | none=>simp only [hrow] at h; cases h
 | some row=>
  simp only [hrow] at h
  split_ifs at h with hoffset
  exact ⟨row,rfl,hoffset,(Option.some.inj h).symm⟩

lemma projectionSaveOffset_cases (db:Database R) (id:ProjectionId) (expected new:ℕ):
  let result:=db.projectionSaveOffset id expected new
 (result.1.1=false ∧ result.2=db) ∨
 (result.1=(true,(new:ℤ)) ∧ ∃row,db.projections.lookup id=some row ∧
  row.offset=expected ∧
  result.2={ db with
   projections:=db.projections.insert id { row with offset:=new } }):=by
 unfold projectionSaveOffset
 cases hupdate:db.updateOffset id expected new with
 | none=>exact .inl ⟨rfl,rfl⟩
 | some db'=>
  obtain ⟨row,hrow,hoffset,rfl⟩:=updateOffset_eq_some hupdate
  exact .inr ⟨rfl,row,hrow,hoffset,rfl⟩

/-- A projection commit that does not raise wrote nothing, or moved the stored offset
 from the expected one together with what the handler wrote. -/
lemma projectionCommit_cases {id:ProjectionId} {new:ℕ}
  {apply:R → Except StoreError R} {reply:Bool×ℤ}
  (h:db.projectionCommit id expected new apply=.ok (reply,db')):(reply.1=false ∧ db'=db) ∨
  (reply=(true,(new:ℤ)) ∧ ∃row readModel,db.projections.lookup id=some row ∧
   row.offset=expected ∧ apply db.readModel=.ok readModel ∧
   db'={ db with
    readModel:=readModel
    projections:=db.projections.insert id { row with offset:=new } }):=by
 unfold projectionCommit at h
 split_ifs at h with hstored
 · cases h
   exact .inl ⟨rfl,rfl⟩
 · cases happly:apply db.readModel with
   | error e=>simp only [bind,Except.bind,happly] at h; cases h
   | ok readModel=>
    simp only [bind,Except.bind,happly] at h
    split at h
    · rename_i db₁ hupdate
      obtain ⟨row,hrow,hoffset,rfl⟩:=updateOffset_eq_some hupdate
      cases h
      exact .inr ⟨rfl,row,readModel,hrow,hoffset,rfl,rfl⟩
    · cases h
      exact .inl ⟨rfl,rfl⟩

end Database

end Movie.SQLiteStore
