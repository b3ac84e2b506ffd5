import Movie.Checked
import Movie.SQLiteStore
import Movie.DurableHistory
import Movie.Reachability

/-!
# The store represents the history of its commits

`Represents settings db log` says that the four durable tables hold what the log of committed
mutations determines. Every transaction keeps it.
-/
namespace Movie.SQLiteStoreInvariant

open Checked DurableModel SQLiteStore DurableHistory Reachability

universe u

variable {R:Type u}

def stateRow (change:DurableStateChange):StateRow:=
 ⟨change.revision,change.operationId,change.content⟩

def operationEntry (settings:Settings) (change:DurableStateChange):
  Sigma fun _:PersistenceId×OperationId=>OperationRow:=
 ⟨(change.persistenceId,change.operationId),
  ⟨fingerprint settings.sha256 change.content,change.revision⟩⟩

structure Represents (settings:Settings) (db:Database R) (log:List Mutation):Prop where
 states:∀id,db.states.lookup id =
  ((historyOf settings.sha256 log id).getLast?).map stateRow
 operations:db.operations.entries =
  ((journal settings.sha256 log).map (operationEntry settings)).reverse
 changes:db.changes=(journal settings.sha256 log).drop db.compactedThrough
 compacted:db.compactedThrough≤log.length
 sequence:db.sequence=log.length
 highWatermark:db.highWatermark=log.length

structure SameDurable (db db':Database R):Prop where
 states:db'.states=db.states
 operations:db'.operations=db.operations
 changes:db'.changes=db.changes
 compactedThrough:db'.compactedThrough=db.compactedThrough
 sequence:db'.sequence=db.sequence
 highWatermark:db'.highWatermark=db.highWatermark

lemma SameDurable.refl (db:Database R):SameDurable db db:=⟨rfl,rfl,rfl,rfl,rfl,rfl⟩

variable {id:PersistenceId} {operationId:OperationId} {result:WriteResult} {expected:ℕ}

namespace Represents

variable {settings:Settings} {db db':Database R} {log:List Mutation}

lemma create (settings:Settings) (readModel:R):
  Represents settings (Database.create readModel) [] where
 states _:=rfl
 operations:=rfl
 changes:=rfl
 compacted:=Nat.le_refl 0
 sequence:=rfl
 highWatermark:=rfl

section

variable (h:Represents settings db log)
include h

lemma same (hsame:SameDurable db db'):
  Represents settings db' log where
 states id:=by rw [hsame.states,h.states]
 operations:=by rw [hsame.operations,h.operations]
 changes:=by rw [hsame.changes,hsame.compactedThrough,h.changes]
 compacted:=by rw [hsame.compactedThrough]; exact h.compacted
 sequence:=by rw [hsame.sequence,h.sequence]
 highWatermark:=by rw [hsame.highWatermark,h.highWatermark]

lemma storedRevision (id:PersistenceId):
  db.storedRevision id=(mutationsOf log id).length:=by
 rw [Database.storedRevision,h.states,Option.map_map]
 have hlast:=congrArg List.getLast? (historyOf_revisions settings.sha256 log id)
 rw [List.getLast?_map,List.getLast?_range'] at hlast
 change (((historyOf settings.sha256 log id).getLast?).map (·.revision)).getD 0=_
 rw [hlast]
 split_ifs with hzero
 · rw [hzero]
   rfl
 · change 1+(mutationsOf log id).length - 1=_
   omega

lemma offset_le {change:DurableStateChange} (hmem:change∈db.changes):
  db.compactedThrough<change.offset ∧ change.offset≤log.length:=by
 rw [h.changes,←journal_filter_lt,List.mem_filter] at hmem
 exact ⟨by simpa using hmem.2,(mem_journal_offset _ hmem.1).2⟩

lemma inserted_entry (mutation:Mutation):
  (⟨db.sequence+1,mutation.persistenceId,db.storedRevision mutation.persistenceId+1,
   mutation.operationId,persistenceSlice settings.sha256 mutation.persistenceId,
   mutation.content,mutation.committedAtNs⟩:DurableStateChange) =
   entry settings.sha256 log mutation:=by
 rw [h.sequence,h.storedRevision]
 rfl

lemma committed (mutation:Mutation) {high:ℕ}
  (hnew:db.operations.lookup (mutation.persistenceId,mutation.operationId)=none)
  (hdb':db'=db.committed settings mutation.persistenceId mutation.operationId
   mutation.content mutation.committedAtNs high)
  (hmax:(db'.changes.map (·.offset)).max? = some high):
  Represents settings db' (log++[mutation]):=by
 have hentry:=h.inserted_entry mutation
 have hchanges:db'.changes=db.changes++[entry settings.sha256 log mutation]:=by
  rw [hdb',←hentry]
  rfl
 have hhigh:high=log.length+1:=by
  obtain ⟨hmem,hbound⟩:=List.max?_eq_some_iff.mp hmax
  rw [hchanges] at hmem hbound
  have hle:log.length+1≤high:=
   hbound _ (by simp [entry])
  rw [List.mem_map] at hmem
  obtain ⟨change,hchange,hoffset⟩:=hmem
  rcases List.mem_append.mp hchange with hold|hlast
  · have:=(h.offset_le hold).2
    omega
  · rw [List.mem_singleton.mp hlast] at hoffset
    exact hoffset.symm
 constructor
 case states=>
  intro id
  rw [hdb']
  change (db.states.insert _ _).lookup id=_
  by_cases hid:mutation.persistenceId=id
  · subst hid
    rw [AList.lookup_insert,historyOf_snoc_self,List.getLast?_append,←hentry]
    rfl
  · rw [AList.lookup_insert_ne (Ne.symm hid),h.states,historyOf_snoc_ne _ _ hid]
 case operations=>
  rw [hdb']
  change (db.operations.insert _ _).entries=_
  rw [AList.entries_insert_of_notMem (AList.lookup_eq_none.mp hnew),h.operations,journal_snoc,
   List.map_append,List.reverse_append,←hentry]
  rfl
 case changes=>
  rw [hchanges,h.changes,journal_snoc]
  have hc:db'.compactedThrough=db.compactedThrough:=by rw [hdb']; rfl
  rw [hc,List.drop_append_of_le_length]
  simpa using h.compacted
 case compacted=>
  have hc:db'.compactedThrough=db.compactedThrough:=by rw [hdb']; rfl
  rw [hc,List.length_append]
  exact Nat.le_add_right_of_le h.compacted
 case sequence=>
  rw [hdb']
  change db.sequence+1=_
  rw [h.sequence,List.length_append,List.length_singleton]
 case highWatermark=>
  rw [hdb']
  change high=_
  rw [hhigh,List.length_append,List.length_singleton]

lemma mutate {expectedRevision:ℕ} {content:Content} {committedAtNs:ℤ}
  (hrun:db.mutate settings id expectedRevision operationId content committedAtNs =
   .ok (result,db')):(result.duplicate=true ∧ db'=db) ∨
  (result=⟨expectedRevision+1,false⟩ ∧ expectedRevision=(mutationsOf log id).length ∧
   db'.projections=db.projections ∧ db'.readModel=db.readModel ∧
   Represents settings db' (log++[⟨id,operationId,content,committedAtNs⟩])):=by
 rcases Database.mutate_cases hrun with
  ⟨row,_,_,rfl,rfl⟩|⟨hnew,hrev,_,rfl,high,hdb',hmax,_⟩
 · exact .inl ⟨rfl,rfl⟩
 · refine .inr ⟨rfl,by rw [←hrev,h.storedRevision],by rw [hdb']; rfl,by rw [hdb']; rfl,?_⟩
   exact h.committed ⟨id,operationId,content,committedAtNs⟩ hnew hdb' hmax

lemma compactChanges {limit count:ℕ}
  (hrun:db.compactChanges limit=.ok (count,db')):Represents settings db' log:=by
 rcases Database.compactChanges_cases hrun with
  rfl | ⟨through,⟨change,hchange,hoffset⟩,_,hhigh,rfl⟩
 · exact h
 · have hlt:=(h.offset_le hchange).1
   refine ⟨h.states,h.operations,?_,?_,h.sequence,h.highWatermark⟩
   · change db.changes.filter (through<·.offset)=_
     rw [h.changes,←journal_filter_lt,←journal_filter_lt,List.filter_filter]
     refine List.filter_congr fun other _=>?_
     rw [hoffset] at hlt
     simp only [←Bool.decide_and,decide_eq_decide]
     omega
   · change through≤log.length
     rw [←h.highWatermark]
     exact hhigh

end

end Represents

lemma projectionRegister_same (db:Database R) (id:ProjectionId) (source:ProjectionSource)
  (mode:ProcessingMode) (initialOffset:Option ℕ):
  SameDurable db (db.projectionRegister id source mode initialOffset).2:=by
 rcases db.projectionRegister_cases id source mode initialOffset with
  ⟨_,_,hdb,_⟩|⟨_,hdb,_⟩|⟨_,_,_,_,hdb⟩ <;> rw [hdb] <;>
  exact ⟨rfl,rfl,rfl,rfl,rfl,rfl⟩

lemma projectionSaveOffset_same (db:Database R) (id:ProjectionId) (expected new:ℕ):
  SameDurable db (db.projectionSaveOffset id expected new).2:=by
 rcases db.projectionSaveOffset_cases id expected new with ⟨_,hdb⟩|⟨_,row,_,_,hdb⟩ <;>
  rw [hdb] <;> exact ⟨rfl,rfl,rfl,rfl,rfl,rfl⟩

/-! Runs of transactions. -/

def committedBy (result:WriteResult) (mutation:Mutation):List Mutation:=
 if result.duplicate then [] else [mutation]

inductive Transaction (R:Type u) where
 | upsert (id:PersistenceId) (expectedRevision:ℕ) (operationId:OperationId)
  (encoded:EncodedState) (committedAtNs:ℤ)
 | delete (id:PersistenceId) (expectedRevision:ℕ) (operationId:OperationId)
  (committedAtNs:ℤ)
 | compactChanges (limit:ℕ)
 | projectionRegister (id:ProjectionId) (source:ProjectionSource) (mode:ProcessingMode)
  (initialOffset:Option ℕ)
 | projectionSaveOffset (id:ProjectionId) (expectedOffset newOffset:ℕ)
 | projectionCommit (id:ProjectionId) (expectedOffset newOffset:ℕ)
  (apply:R → Except StoreError R)
 | retire (id:ProjectionId)

inductive Reply where
 | wrote (result:WriteResult)
 | compacted (count:ℕ)
 | registered (offset:ℕ) (registration:Database.Registration)
 | offset (saved:Bool) (actualOffset:ℤ)
 | retired (found:Bool)

namespace Transaction

def run (settings:Settings) (db:Database R):
  Transaction R → Except StoreError (Reply×Database R)
 | .upsert id expected operationId encoded now=>do
  let (result,db) ← db.upsert settings id expected operationId encoded now
  return (.wrote result,db)
 | .delete id expected operationId now=>do
  let (result,db) ← db.delete settings id expected operationId now
  return (.wrote result,db)
 | .compactChanges limit=>do
  let (count,db) ← db.compactChanges limit
  return (.compacted count,db)
 | .projectionRegister id source mode initialOffset=>
  let ((offset,registration),db):=db.projectionRegister id source mode initialOffset
  .ok (.registered offset registration,db)
 | .projectionSaveOffset id expected new=>
  let ((saved,actual),db):=db.projectionSaveOffset id expected new
  .ok (.offset saved actual,db)
 | .projectionCommit id expected new apply=>do
  let ((saved,actual),db) ← db.projectionCommit id expected new apply
  return (.offset saved actual,db)
 | .retire id=>
  let (found,db):=db.deleteProjectionOffset id
  .ok (.retired found,db)

def logged : Transaction R → Reply → List Mutation
 | .upsert id _ operationId encoded now,.wrote result=>
  committedBy result ⟨id,operationId,.live encoded,now⟩
 | .delete id _ operationId now,.wrote result=>
  committedBy result ⟨id,operationId,.tombstone,now⟩
 | _,_=>[]

end Transaction

section

variable {settings:Settings} {db:Database R} {encoded:EncodedState} {now:ℤ}
 {reply:WriteResult×Database R}
 (h:db.upsert settings id expected operationId encoded now=.ok reply)
include h

lemma upsert_eq_ok : db.mutate settings id expected operationId (.live encoded) now=.ok reply:=by
 unfold Database.upsert at h
 split_ifs at h
 exact h

def Accepted (settings:Settings) (content:Content):Prop:=
 content.retainedBytes ≤ settings.maxStateBytes ∧ content.Fingerprinted

lemma upsert_accepted : Accepted settings (.live encoded):=by
 unfold Database.upsert at h
 split_ifs at h with hsize hfingerprint
 exact ⟨Nat.not_lt.mp hsize,hfingerprint⟩

end

lemma mem_committedBy {mutation other:Mutation}
  (h:other∈committedBy result mutation):other=mutation:=by
 unfold committedBy at h
 split_ifs at h
 · cases h
 · exact List.mem_singleton.mp h

variable {settings:Settings}

lemma Transaction.logged_accepted {db db':Database R} {transaction:Transaction R} {reply:Reply}
  (hrun:transaction.run settings db=.ok (reply,db')) {mutation:Mutation}
  (hmem:mutation∈transaction.logged reply):Accepted settings mutation.content:=by
 cases transaction with
 | upsert id expected operationId encoded now=>
  obtain ⟨⟨result,db₁⟩,hok,heq⟩:=bind_eq_ok hrun
  cases heq
  rw [mem_committedBy hmem]
  exact upsert_accepted hok
 | delete id expected operationId now=>
  obtain ⟨⟨result,db₁⟩,hok,heq⟩:=bind_eq_ok hrun
  cases heq
  rw [mem_committedBy hmem]
  exact ⟨Nat.zero_le _,trivial⟩
 | compactChanges | projectionRegister | projectionSaveOffset | projectionCommit | retire=>
  cases hmem

lemma Represents.mutate_logged {db db':Database R} {log:List Mutation}
  (h:Represents settings db log) (mutation:Mutation)
  (hrun:db.mutate settings mutation.persistenceId expected mutation.operationId
   mutation.content mutation.committedAtNs=.ok (result,db')):
  Represents settings db' (log++committedBy result mutation):=by
 rcases h.mutate hrun with ⟨hdup,rfl⟩|⟨rfl,_,_,_,hrep⟩
 · simpa [committedBy,hdup] using h
 · exact hrep

lemma Represents.run {db db':Database R} {log:List Mutation}
  (h:Represents settings db log) {transaction:Transaction R} {reply:Reply}
  (hrun:transaction.run settings db=.ok (reply,db')):
  Represents settings db' (log++transaction.logged reply):=by
 have hsame:SameDurable db db' → transaction.logged reply=[] →
  Represents settings db' (log++transaction.logged reply):=by
  intro hdb hlogged
  rw [hlogged,List.append_nil]
  exact h.same hdb
 cases transaction with
 | upsert id expected operationId encoded now=>
  obtain ⟨⟨result,db₁⟩,hok,heq⟩:=bind_eq_ok hrun
  cases heq
  exact h.mutate_logged ⟨id,operationId,.live encoded,now⟩ (upsert_eq_ok hok)
 | delete id expected operationId now=>
  obtain ⟨⟨result,db₁⟩,hok,heq⟩:=bind_eq_ok hrun
  cases heq
  exact h.mutate_logged ⟨id,operationId,.tombstone,now⟩ hok
 | compactChanges limit=>
  obtain ⟨⟨count,db₁⟩,hok,heq⟩:=bind_eq_ok hrun
  cases heq
  change Represents settings db' (log++[])
  rw [List.append_nil]
  exact h.compactChanges hok
 | projectionRegister id source mode initialOffset=>
  cases hrun
  exact hsame (projectionRegister_same ..) rfl
 | projectionSaveOffset id expected new=>
  cases hrun
  exact hsame (projectionSaveOffset_same ..) rfl
 | projectionCommit id expected new apply=>
  obtain ⟨⟨⟨saved,actual⟩,db₁⟩,hok,heq⟩:=bind_eq_ok hrun
  cases heq
  rcases Database.projectionCommit_cases hok with ⟨_,rfl⟩|⟨_,row,readModel,_,_,_,rfl⟩
  · exact hsame (.refl _) rfl
  · exact hsame ⟨rfl,rfl,rfl,rfl,rfl,rfl⟩ rfl
 | retire id=>
  cases hrun
  exact hsame ⟨rfl,rfl,rfl,rfl,rfl,rfl⟩ rfl

structure Run (R:Type u) where
 db:Database R
 log:List Mutation

inductive Outcome where
 | committed
 | rolledBack

/-- Transactions in any order. A transaction may be rolled back at any point, whether
 its body raised or not; one whose body raises is never committed. -/
def storeSystem (settings:Settings):System (Run R) (Transaction R×Outcome) where
 init s:=∃readModel,s=⟨Database.create readModel,[]⟩
 step s a t:=
  match a with
  | (transaction,.committed)=>∃reply,
   transaction.run settings s.db=.ok (reply,t.db) ∧
    t.log=s.log++transaction.logged reply
  | (_,.rolledBack)=>t=s

def replay (settings:Settings):List (Transaction R) → Run R → Option (Run R)
 | [],s=>some s
 | transaction::rest,s=>
  match transaction.run settings s.db with
  | .ok (reply,db)=>replay settings rest ⟨db,s.log++transaction.logged reply⟩
  | .error _=>none

lemma replay_reachable {transactions:List (Transaction R)} {s t:Run R}
  (h:(storeSystem settings).Reachable s) (hreplay:replay settings transactions s=some t):
  (storeSystem settings).Reachable t:=by
 induction transactions generalizing s with
 | nil=>exact Option.some.inj hreplay▸h
 | cons transaction rest ih=>
  cases hrun:transaction.run settings s.db with
  | error e=>simp only [replay,hrun] at hreplay; cases hreplay
  | ok result=>
   simp only [replay,hrun] at hreplay
   exact ih (h.next (transaction,.committed) ⟨result.1,hrun,rfl⟩) hreplay

lemma reachable_represents (settings:Settings) {s:Run R}
  (h:(storeSystem settings).Reachable s):Represents settings s.db s.log:=by
 refine h.invariant (I := fun s=>Represents settings s.db s.log) ?_ ?_
 · rintro _ ⟨readModel,rfl⟩
   exact Represents.create settings readModel
 · rintro s ⟨transaction,_|_⟩ t _ hrep hstep
   · obtain ⟨reply,hrun,hlog⟩:=hstep
     rw [hlog]
     exact hrep.run hrun
   · obtain rfl:t=s:=hstep
     exact hrep

lemma reachable_accepted (settings:Settings) {s:Run R} (h:(storeSystem settings).Reachable s):
  ∀mutation∈s.log,Accepted settings mutation.content:=by
 refine h.invariant (I := fun s=>∀mutation∈s.log,Accepted settings mutation.content) ?_ ?_
 · rintro _ ⟨readModel,rfl⟩ mutation hmem
   cases hmem
 · rintro s ⟨transaction,_|_⟩ t _ hall hstep
   · obtain ⟨reply,hrun,hlog⟩:=hstep
     rw [hlog]
     intro mutation hmem
     rcases List.mem_append.mp hmem with hold|hnew
     · exact hall mutation hold
     · exact Transaction.logged_accepted hrun hnew
   · obtain rfl:t=s:=hstep
     exact hall

namespace Represents

variable {settings:Settings} {db:Database R} {log:List Mutation}

section

variable (h:Represents settings db log)
include h

lemma state_isSome (id:PersistenceId):
  (db.states.lookup id).isSome ↔ 0<(mutationsOf log id).length:=by
 rw [h.states,Option.isSome_map,List.getLast?_isSome,←historyOf_length settings.sha256]
 exact List.length_pos_iff.symm

lemma state_row {row:StateRow}
  (hrow:db.states.lookup id=some row):row.revision=(mutationsOf log id).length ∧
   ∃mutation,(mutationsOf log id).getLast? = some mutation ∧ row.content=mutation.content:=by
 constructor
 · rw [←h.storedRevision,Database.storedRevision,hrow]
   rfl
 · rw [h.states,Option.map_eq_some_iff] at hrow
   obtain ⟨change,hlast,rfl⟩:=hrow
   have hcontent:((mutationsOf log id).map (·.content)).getLast? = some change.content:=by
    rw [←historyOf_contents settings.sha256,List.getLast?_map,hlast]
    rfl
   rw [List.getLast?_map,Option.map_eq_some_iff] at hcontent
   obtain ⟨mutation,hmutation,heq⟩:=hcontent
   exact ⟨mutation,hmutation,heq.symm⟩

lemma operation_revisions (id:PersistenceId):
  ((db.operations.entries.filter (·.1.1=id)).map (·.2.revision)).Perm
   (List.range' 1 (mutationsOf log id).length):=by
 rw [h.operations,List.filter_reverse,List.map_reverse,←historyOf_revisions settings.sha256]
 refine (List.reverse_perm _).trans (List.Perm.of_eq ?_)
 rw [List.filter_map,List.map_map]
 rfl

lemma retained_offsets : db.changes.map (·.offset) =
   List.range' (db.compactedThrough+1) (db.highWatermark - db.compactedThrough):=by
 rw [h.changes,List.map_drop,journal_offsets,List.drop_range',h.highWatermark]
 congr 1
 omega

lemma retained_max : (db.changes.map (·.offset)).max? =
  if db.compactedThrough=db.highWatermark then none else some db.highWatermark:=by
 have hcompacted:db.compactedThrough≤db.highWatermark:=by
  rw [h.highWatermark]
  exact h.compacted
 rw [h.retained_offsets]
 split_ifs with heq
 · simp [heq]
 · rw [List.max?_eq_some_iff]
   simp only [List.mem_range'_1]
   refine ⟨by omega,fun offset hoffset=>?_⟩
   omega

lemma retained_increasing {a b:DurableStateChange}
  (ha:a∈db.changes) (hb:b∈db.changes) (hid:a.persistenceId=b.persistenceId)
  (hlt:a.revision<b.revision):a.offset<b.offset:=by
 have hmem:∀change∈db.changes,change.persistenceId=b.persistenceId →
  change∈historyOf settings.sha256 log b.persistenceId:=by
  intro change hchange heq
  rw [h.changes] at hchange
  exact List.mem_filter.mpr ⟨List.mem_of_mem_drop hchange,decide_eq_true heq⟩
 obtain ⟨i,hi,rfl⟩:=List.mem_iff_getElem.mp (hmem a ha hid)
 obtain ⟨j,hj,hbj⟩:=List.mem_iff_getElem.mp (hmem b hb rfl)
 have hpair:=List.pairwise_iff_getElem.mp (historyOf_pairwise settings.sha256 log b.persistenceId)
 rcases lt_trichotomy i j with hij|rfl|hji
 · have:=hpair i j hi hj hij
   rw [hbj] at this
   exact this.1
 · rw [hbj] at hlt
   exact absurd hlt (Nat.lt_irrefl _)
 · have:=hpair j i hj hi hji
   rw [hbj] at this
   omega

end

end Represents

/-- The invariant of every reachable database, in terms of the mutations committed to
 it: state rows, operation rows, retained changes and feed marks. -/
theorem reachable_store_invariant (settings:Settings) {s:Run R}
  (h:(storeSystem settings).Reachable s):
  (∀id:PersistenceId,
   ((s.db.states.lookup id).isSome ↔ 0<(mutationsOf s.log id).length) ∧
   (∀row,s.db.states.lookup id=some row →
    row.revision=(mutationsOf s.log id).length ∧
    ∃mutation,(mutationsOf s.log id)[row.revision - 1]? = some mutation ∧
     row.content=mutation.content) ∧
   ((s.db.operations.entries.filter (·.1.1=id)).map (·.2.revision)).Perm
    (List.range' 1 (mutationsOf s.log id).length) ∧
   (∀a∈s.db.changes,∀b∈s.db.changes,a.persistenceId=id → b.persistenceId=id →
    a.revision<b.revision → a.offset<b.offset)) ∧
  s.db.changes=(journal settings.sha256 s.log).filter
   (fun change=>s.db.compactedThrough<change.offset ∧ change.offset ≤ s.db.highWatermark) ∧
  s.db.changes.map (·.offset)=List.range' (s.db.compactedThrough+1)
   (s.db.highWatermark - s.db.compactedThrough) ∧
  0 ≤ s.db.compactedThrough ∧ s.db.compactedThrough ≤ s.db.highWatermark ∧
  s.db.highWatermark=s.log.length:=by
 have hrep:=reachable_represents settings h
 refine ⟨fun id=>⟨hrep.state_isSome id,?_,hrep.operation_revisions id,?_⟩,?_,
  hrep.retained_offsets,Nat.zero_le _,?_,hrep.highWatermark⟩
 · intro row hrow
   obtain ⟨hrevision,mutation,hlast,hcontent⟩:=hrep.state_row hrow
   refine ⟨hrevision,mutation,?_,hcontent⟩
   rw [hrevision,←List.getLast?_eq_getElem?,hlast]
 · intro a ha b hb haid hbid hlt
   exact hrep.retained_increasing ha hb (haid.trans hbid.symm) hlt
 · rw [hrep.changes,←journal_filter_lt]
   refine List.filter_congr fun change hchange=>?_
   have hle:=(mem_journal_offset settings.sha256 hchange).2
   rw [hrep.highWatermark]
   simp [hle]
 · rw [hrep.highWatermark]
   exact hrep.compacted

def cartId : PersistenceId:=⟨"cart", "1",by decide,by decide⟩

lemma cartOperation_bounded (n:ℕ):n % 8<2 ^ 128:=
 (Nat.mod_lt n (by decide)).trans (by decide)

def cartOperation (n:ℕ):OperationId:=⟨⟨n % 8,cartOperation_bounded n⟩⟩

def cartState (byte:UInt8):EncodedState:=⟨⟨"v1",by decide,by decide⟩,[byte]⟩

def cartProjection : ProjectionId:=⟨"totals", "all",by decide,by decide⟩

def cartSource : ProjectionSource:=⟨"cart",0,1023,by decide,by decide,by decide⟩

def plainSettings : Settings:=⟨fun bytes=>bytes,1024⟩

def compactedCart : List (Transaction Unit):=
 [.upsert cartId 0 ⟨⟨1,by decide⟩⟩ (cartState 7) 5,
  .delete cartId 1 ⟨⟨2,by decide⟩⟩ 6,
  .projectionRegister cartProjection cartSource .atLeastOnce none,
  .projectionSaveOffset cartProjection 0 1,
  .compactChanges 10]

theorem compactedCart_invariant : ∃s:Run Unit,
  replay plainSettings compactedCart ⟨Database.create (),[]⟩=some s ∧
   (s.db.compactedThrough,s.db.changes.length)=(1,1) ∧
   s.db.highWatermark=s.log.length:=by
 have hrun:(replay plainSettings compactedCart ⟨Database.create (),[]⟩).map
  (fun s=>(s.db.compactedThrough,s.db.changes.length))=some (1,1):=by decide
 obtain ⟨s,hs,hmarks⟩:=Option.map_eq_some_iff.mp hrun
 have hreach:(storeSystem plainSettings).Reachable s:=
  replay_reachable (.start ⟨(),rfl⟩) hs
 exact ⟨s,hs,hmarks,(reachable_store_invariant plainSettings hreach).2.2.2.2.2⟩

/-- A store accepts every database that it wrote: the feed may be empty, compacted in part or
 compacted as a whole. -/
theorem reopening_succeeds (settings:Settings) {s:Run R}
  (h:(storeSystem settings).Reachable s):s.db.validateChangeFeed=.ok ():=by
 have hrep:=reachable_represents settings h
 have hsequence:s.db.sequence=s.db.highWatermark:=hrep.sequence.trans hrep.highWatermark.symm
 simp only [Database.validateChangeFeed,hrep.retained_max,hsequence,ne_eq,not_true_eq_false,
  or_self,if_false]

theorem reopening_succeeds_compactedCart : ∃s:Run Unit,
  replay plainSettings compactedCart ⟨Database.create (),[]⟩=some s ∧
   s.db.validateChangeFeed=.ok ():=by
 have hrun:(replay plainSettings compactedCart ⟨Database.create (),[]⟩).isSome=true:=by decide
 obtain ⟨s,hs⟩:=Option.isSome_iff_exists.mp hrun
 exact ⟨s,hs,reopening_succeeds plainSettings (replay_reachable (.start ⟨(),rfl⟩) hs)⟩

end Movie.SQLiteStoreInvariant
