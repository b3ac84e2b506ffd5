import Movie.ChangeFeed

/-!
# Projection runners

What `_run_at_least_once` and `_run_exactly_once` of `projection/extension.py` share.
-/
namespace Movie.ProjectionRunner

open Checked DurableModel SQLiteStore DurableHistory SQLiteStoreInvariant ChangeFeed

universe u

structure Projection where
 id:ProjectionId
 source:ProjectionSource

inductive RunnerError where
 | baseline
 | sourceConflict
 | fellBehind
 | offsetConflict (expectedOffset:ℕ) (actualOffset:ℤ)
 deriving DecidableEq

def RunnerError.message (id:ProjectionId):RunnerError → String
 | .baseline => "Projection " ++ id.toText ++ " requires a valid initial baseline"
 | .sourceConflict => "Projection " ++ id.toText ++ " has a different stored source"
 | .fellBehind => "Projection " ++ id.toText ++ " fell behind compacted history"
 | .offsetConflict expected actual=>
  "Projection " ++ id.toText ++ " expected offset " ++ toString expected ++ ", found " ++
   toString actual

/-- Where a runner is in its loop. It stops without an error on a stop request or when
 its process dies. -/
inductive Phase where
 | registering
 | polling (offset:ℕ)
 | fetched (offset:ℕ) (batch:DurableStateChangeBatch)
 | handled (offset:ℕ) (batch:DurableStateChangeBatch)
 | stopped (error:Option RunnerError)

structure Limits where
 batchSize:ℕ
 batchBytes:ℕ
 scanLimit:ℕ
 batchSize_range:1≤batchSize ∧ batchSize≤1024

structure Runner where
 initialOffset:Option ℕ
 limits:Limits
 phase:Phase

def afterRegister (reply:ℕ×Database.Registration):Phase:=
 match reply with
 | (offset,.ok)=>.polling offset
 | (_,.baselineRequired) | (_,.invalidBaseline)=>.stopped (some .baseline)
 | (_,.sourceConflict)=>.stopped (some .sourceConflict)

/-- Any error but a compacted feed is retried at the same offset. -/
def afterFetch (offset:ℕ) (result:Except StoreError DurableStateChangeBatch):Phase:=
 match result with
 | .ok batch=>.fetched offset batch
 | .error (.changeFeedCompacted ..)=>.stopped (some .fellBehind)
 | .error _=>.polling offset

def afterCommit (offset:ℕ) (batch:DurableStateChangeBatch) (reply:Bool×ℤ):Phase:=
 if reply.1 then .polling batch.offset
 else .stopped (some (.offsetConflict offset reply.2))

variable {settings:Settings} {log:List Mutation}

section

variable {R:Type u}

/-- Transactions of others: those that do not touch this projection's row or its part
 of the read model. -/
def Foreign (id:ProjectionId):Transaction R → Prop
 | .upsert .. | .delete .. | .compactChanges _=>True
 | .projectionRegister id' .. | .projectionSaveOffset id' .. | .retire id'=>id'≠id
 | .projectionCommit id' _ _ apply=>id'≠id ∧ ∀r r',apply r=.ok r' → r'=r

lemma Foreign.unchanged {id:ProjectionId} {transaction:Transaction R}
  (h:Foreign id transaction) {db db':Database R} {reply:Reply}
  (hrun:transaction.run settings db=.ok (reply,db')):
  db'.projections.lookup id=db.projections.lookup id ∧ db'.readModel=db.readModel:=by
 cases transaction with
 | upsert pid expected operationId encoded now=>
  obtain ⟨⟨result,db₁⟩,hok,heq⟩:=bind_eq_ok hrun
  cases heq
  rcases Database.mutate_cases (upsert_eq_ok hok) with
   ⟨_,_,_,_,rfl⟩|⟨_,_,_,_,high,rfl,_,_⟩ <;> exact ⟨rfl,rfl⟩
 | delete pid expected operationId now=>
  obtain ⟨⟨result,db₁⟩,hok,heq⟩:=bind_eq_ok hrun
  cases heq
  rcases Database.mutate_cases hok with
   ⟨_,_,_,_,rfl⟩|⟨_,_,_,_,high,rfl,_,_⟩ <;> exact ⟨rfl,rfl⟩
 | compactChanges limit=>
  obtain ⟨⟨count,db₁⟩,hok,heq⟩:=bind_eq_ok hrun
  cases heq
  rcases Database.compactChanges_cases hok with rfl|⟨_,_,_,_,rfl⟩ <;> exact ⟨rfl,rfl⟩
 | projectionRegister id' source mode initialOffset=>
  cases hrun
  change (Prod.snd (db.projectionRegister ..)).projections.lookup id=_ ∧
   (Prod.snd (db.projectionRegister ..)).readModel=_
  rcases db.projectionRegister_cases id' source mode initialOffset with
   ⟨_,_,hdb,_⟩|⟨_,hdb,_⟩|⟨_,_,_,_,hdb⟩ <;> rw [hdb]
  · exact ⟨rfl,rfl⟩
  · exact ⟨rfl,rfl⟩
  · exact ⟨AList.lookup_insert_ne (Ne.symm h),rfl⟩
 | projectionSaveOffset id' expected new=>
  cases hrun
  change (Prod.snd (db.projectionSaveOffset ..)).projections.lookup id=_ ∧
   (Prod.snd (db.projectionSaveOffset ..)).readModel=_
  rcases db.projectionSaveOffset_cases id' expected new with
   ⟨_,hdb⟩|⟨_,row,_,_,hdb⟩ <;> rw [hdb]
  · exact ⟨rfl,rfl⟩
  · exact ⟨AList.lookup_insert_ne (Ne.symm h),rfl⟩
 | projectionCommit id' expected new apply=>
  obtain ⟨⟨⟨saved,actual⟩,db₁⟩,hok,heq⟩:=bind_eq_ok hrun
  cases heq
  rcases Database.projectionCommit_cases hok with ⟨_,rfl⟩|⟨_,row,readModel,_,_,happly,rfl⟩
  · exact ⟨rfl,rfl⟩
  · exact ⟨AList.lookup_insert_ne (Ne.symm h.1),h.2 _ _ happly⟩
 | retire id'=>
  cases hrun
  exact ⟨AList.lookup_erase_ne (Ne.symm h),rfl⟩

def PhaseOk (settings:Settings) (source:ProjectionSource) (log:List Mutation):
  Phase → Prop
 | .polling offset=>offset≤log.length
 | .fetched offset batch | .handled offset batch=>
  offset≤batch.offset ∧ batch.offset≤log.length ∧
   batch.changes=sourceWindow settings.sha256 source log offset batch.offset
 | .registering | .stopped _=>True

lemma PhaseOk.grow {source:ProjectionSource}
  {phase:Phase} (h:PhaseOk settings source log phase) (more:List Mutation):
  PhaseOk settings source (log++more) phase:=by
 have hle:log.length≤(log++more).length:=by simp
 cases phase with
 | polling offset=>exact Nat.le_trans h hle
 | fetched offset batch | handled offset batch=>
  exact ⟨h.1,h.2.1.trans hle,by rw [sourceWindow_grow _ _ _ _ h.2.1]; exact h.2.2⟩
 | registering | stopped=>trivial

lemma register_cases {db db':Database R} (h:Represents settings db log) {projection:Projection}
  (hstored:∀row,db.projections.lookup projection.id=some row → row.offset≤log.length)
  {mode:ProcessingMode} {initialOffset:Option ℕ} {reply:ℕ×Database.Registration}
  (hrun:db.projectionRegister projection.id projection.source mode initialOffset =
   (reply,db')):PhaseOk settings projection.source log (afterRegister reply) ∧
  (db'=db ∧ ¬(db.projections.lookup projection.id=none ∧ reply.2=.ok) ∨
   (db.projections.lookup projection.id=none ∧ reply.2=.ok) ∧ reply.1≤log.length ∧
   Represents settings db' log ∧ db'={ db with
    projections:=db.projections.insert projection.id ⟨projection.source,mode,reply.1⟩ }):=by
 have hsame:=projectionRegister_same db projection.id projection.source mode initialOffset
 have hcases:=db.projectionRegister_cases projection.id projection.source mode initialOffset
 rw [hrun] at hsame hcases
 obtain ⟨offset,registration⟩:=reply
 have hphase (hle:registration=.ok → offset≤log.length):
  PhaseOk settings projection.source log (afterRegister (offset,registration)):=by
  cases registration with
  | baselineRequired | invalidBaseline | sourceConflict=>trivial
  | ok=>exact hle rfl
 rcases hcases with ⟨row,hrow,rfl,hoffset⟩|⟨_,rfl,hreply⟩|⟨hnone,hok,_,hhigh,hdb⟩
 · exact ⟨hphase fun _=>hoffset.le.trans (hstored row hrow),
    .inl ⟨rfl,fun hcond=>by rw [hcond.1] at hrow; cases hrow⟩⟩
 · exact ⟨hphase fun hok=>absurd hok hreply,.inl ⟨rfl,fun hcond=>hreply hcond.2⟩⟩
 · have hle:offset≤log.length:=h.highWatermark▸hhigh
   exact ⟨hphase fun _=>hle,.inr ⟨⟨hnone,hok⟩,hle,h.same hsame,hdb⟩⟩

lemma afterFetch_ok {db:Database R}
  (h:Represents settings db log) (source:ProjectionSource) {offset:ℕ}
  (hoffset:offset≤log.length) (limits:Limits) (failure:Option StoreError):
  PhaseOk settings source log (afterFetch offset (failure.elim
   (db.changesAfter settings source offset limits.batchSize limits.batchBytes
    limits.scanLimit) .error)):=by
 generalize hresult:failure.elim (db.changesAfter settings source offset limits.batchSize
  limits.batchBytes limits.scanLimit) .error=result
 cases result with
 | ok batch=>
  cases failure with
  | none=>
   obtain ⟨hle,hlength,hchanges⟩:=changesAfter_page h hresult hoffset
   exact ⟨hle,hlength.trans (Nat.min_le_left _ _),hchanges⟩
  | some error=>cases hresult
 | error error=>
  unfold afterFetch
  split
  · rename_i heq
    cases heq
  · trivial
  · exact hoffset

end

end Movie.ProjectionRunner
