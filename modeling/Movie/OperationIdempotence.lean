import Movie.SQLiteStoreInvariant

/-!
# Repeated operations

What the store answers to an operation identity that it has committed before, and to a new one with
a stale revision.
-/
namespace Movie.OperationIdempotence

open Checked DurableModel SQLiteStore DurableHistory SQLiteStoreInvariant Reachability

universe u

variable {R:Type u}

/-- A mutation as its caller sees it: one that raises is rolled back. -/
def attempt (settings:Settings) (db:Database R) (id:PersistenceId) (expectedRevision:ℕ)
  (operationId:OperationId) (content:Content) (committedAtNs:ℤ):
  Except StoreError WriteResult×Database R:=
 match db.mutate settings id expectedRevision operationId content committedAtNs with
 | .ok (result,db')=>(.ok result,db')
 | .error error=>(.error error,db)

def CommittedAt (log:List Mutation) (mutation:Mutation) (k:ℕ):Prop:=
 1≤k ∧ (mutationsOf log mutation.persistenceId)[k - 1]? = some mutation

variable {log:List Mutation} {mutation:Mutation} {k:ℕ}

lemma CommittedAt.mem (h:CommittedAt log mutation k):mutation∈log:=
 (List.mem_filter.mp (List.mem_of_getElem? h.2)).1

lemma CommittedAt.journal (sha256:List UInt8 → List UInt8) (h:CommittedAt log mutation k):
  ∃change∈journal sha256 log,mutationOf change=mutation ∧ change.revision=k:=by
 obtain ⟨hk,hmutation⟩:=h
 rw [←historyOf_mutations sha256,List.getElem?_map,Option.map_eq_some_iff] at hmutation
 obtain ⟨change,hchange,heq⟩:=hmutation
 refine ⟨change,(List.mem_filter.mp (List.mem_of_getElem? hchange)).1,heq,?_⟩
 have hrevision:((historyOf sha256 log mutation.persistenceId).map (·.revision))[k - 1]? =
  some change.revision:=by
  rw [List.getElem?_map,hchange]
  rfl
 obtain ⟨hlt,hget⟩:=List.getElem?_eq_some_iff.mp hrevision
 simp only [historyOf_revisions,List.getElem_range'] at hget
 omega

lemma operation_row {settings:Settings} {db:Database R} (h:Represents settings db log)
  (hcommitted:CommittedAt log mutation k):
  db.operations.lookup (mutation.persistenceId,mutation.operationId) =
   some ⟨fingerprint settings.sha256 mutation.content,k⟩:=by
 obtain ⟨change,hchange,rfl,rfl⟩:=hcommitted.journal settings.sha256
 refine AList.mem_lookup_iff.mpr ?_
 rw [h.operations,List.mem_reverse]
 exact List.mem_map_of_mem (f := operationEntry settings) hchange

lemma operation_new {settings:Settings} {db:Database R}
  (h:Represents settings db log) {id:PersistenceId} {operationId:OperationId}
  (hnew:∀mutation∈log,mutation.persistenceId=id → mutation.operationId≠operationId):
  db.operations.lookup (id,operationId)=none:=by
 cases hrow:db.operations.lookup (id,operationId) with
 | none=>rfl
 | some row=>
  have hmem:=AList.mem_lookup_iff.mp hrow
  rw [h.operations,List.mem_reverse] at hmem
  obtain ⟨change,hchange,heq⟩:=List.mem_map.mp hmem
  obtain ⟨hid,hoperation⟩:=Prod.mk.inj (Sigma.mk.inj heq).1
  have hlog:mutationOf change∈log:=by
   rw [←journal_mutations settings.sha256 log]
   exact List.mem_map_of_mem hchange
  exact absurd hoperation (hnew _ hlog hid)

section

variable {settings:Settings} {db:Database R} {id:PersistenceId} {operationId:OperationId}
 {row:OperationRow}

lemma attempt_duplicate (hrow:db.operations.lookup (id,operationId)=some row)
  {content:Content} (hsame:row.fingerprint=fingerprint settings.sha256 content)
  (expectedRevision:ℕ) (committedAtNs:ℤ):
  attempt settings db id expectedRevision operationId content committedAtNs =
   (.ok ⟨row.revision,true⟩,db):=by
 simp only [attempt,Database.mutate,hrow,hsame,ne_eq,not_true_eq_false,if_false]

lemma attempt_conflict (hrow:db.operations.lookup (id,operationId)=some row)
  {content:Content} (hother:row.fingerprint≠fingerprint settings.sha256 content)
  (expectedRevision:ℕ) (committedAtNs:ℤ):
  attempt settings db id expectedRevision operationId content committedAtNs =
   (.error .operationConflict,db):=by
 simp only [attempt,Database.mutate,hrow,if_pos hother]

lemma attempt_stale (hnew:db.operations.lookup (id,operationId)=none)
  {expectedRevision:ℕ} (hstale:db.storedRevision id≠expectedRevision) (content:Content)
  (committedAtNs:ℤ):attempt settings db id expectedRevision operationId content committedAtNs =
   (.error (.concurrentWrite expectedRevision (db.storedRevision id)),db):=by
 simp only [attempt,Database.mutate,hnew,if_pos hstale]

end

lemma attempt_repeated {settings:Settings} {s:Run R} (h:(storeSystem settings).Reachable s)
  (hcommitted:CommittedAt s.log mutation k) (expectedRevision:ℕ) (committedAtNs:ℤ):
  attempt settings s.db mutation.persistenceId expectedRevision mutation.operationId
   mutation.content committedAtNs=(.ok ⟨k,true⟩,s.db):=
 attempt_duplicate (operation_row (reachable_represents settings h) hcommitted) rfl
  expectedRevision committedAtNs

/-- An operation that was committed is answered from its row, whatever happened since;
 `fed` are the byte strings on which the hash is assumed to be injective. -/
theorem operation_idempotent (settings:Settings) (fed:Set (List UInt8))
  (hsha:Set.InjOn settings.sha256 fed) {s:Run R} (h:(storeSystem settings).Reachable s)
  (hfed:∀mutation∈s.log,fingerprintInput mutation.content∈fed):
  (∀mutation k,CommittedAt s.log mutation k → ∀expectedRevision committedAtNs,
   attempt settings s.db mutation.persistenceId expectedRevision mutation.operationId
    mutation.content committedAtNs=(.ok ⟨k,true⟩,s.db) ∧
   ∀content,content≠mutation.content → content.Fingerprinted →
    fingerprintInput content∈fed →
    attempt settings s.db mutation.persistenceId expectedRevision mutation.operationId
     content committedAtNs=(.error .operationConflict,s.db)) ∧
  (∀id operationId,
   (∀mutation∈s.log,mutation.persistenceId=id → mutation.operationId≠operationId) →
   ∀expectedRevision,expectedRevision≠(mutationsOf s.log id).length →
   ∀content committedAtNs,
    attempt settings s.db id expectedRevision operationId content committedAtNs =
     (.error (.concurrentWrite expectedRevision (mutationsOf s.log id).length),s.db)):=by
 have hrep:=reachable_represents settings h
 refine ⟨fun mutation k hcommitted expectedRevision committedAtNs=>⟨?_,?_⟩,?_⟩
 · exact attempt_repeated h hcommitted expectedRevision committedAtNs
 · intro content hne hcontent hin
   have hrow:=operation_row hrep hcommitted
   refine attempt_conflict hrow (fun heq=>hne ?_) expectedRevision committedAtNs
   change fingerprint settings.sha256 mutation.content=_ at heq
   rw [fingerprint_eq,fingerprint_eq] at heq
   have hinput:=hsha (hfed mutation hcommitted.mem) hin heq
   have haccepted:=reachable_accepted settings h mutation hcommitted.mem
   exact (fingerprintInput_inj haccepted.2 hcontent hinput).symm
 · intro id operationId hnew expectedRevision hstale content committedAtNs
   rw [←hrep.storedRevision] at hstale ⊢
   exact attempt_stale (operation_new hrep hnew) hstale.symm content committedAtNs

def createCart : Mutation:=⟨cartId,cartOperation 1,.live (cartState 7),5⟩

def deleteCart : Mutation:=⟨cartId,cartOperation 2,.tombstone,6⟩

theorem operation_idempotent_compactedCart : ∃s:Run Unit,
  replay plainSettings compactedCart ⟨Database.create (),[]⟩=some s ∧
  CommittedAt s.log createCart 1 ∧
  attempt plainSettings s.db cartId 40 createCart.operationId (.live (cartState 7)) 9 =
   (.ok ⟨1,true⟩,s.db) ∧
  attempt plainSettings s.db cartId 40 createCart.operationId (.live (cartState 8)) 9 =
   (.error .operationConflict,s.db) ∧
  attempt plainSettings s.db cartId 40 (cartOperation 3) .tombstone 9 =
   (.error (.concurrentWrite 40 2),s.db):=by
 have hrun:(replay plainSettings compactedCart ⟨Database.create (),[]⟩).map (·.log) =
  some [createCart,deleteCart]:=by decide
 obtain ⟨s,hs,hlog⟩:=Option.map_eq_some_iff.mp hrun
 have hreach:(storeSystem plainSettings).Reachable s:=replay_reachable (.start ⟨(),rfl⟩) hs
 have hcommitted:CommittedAt s.log createCart 1:=by
  rw [hlog]
  exact ⟨Nat.le_refl 1,by decide⟩
 obtain ⟨hrepeat,hstale⟩:=operation_idempotent plainSettings Set.univ
  (fun _ _ _ _ heq=>heq) hreach (fun _ _=>trivial)
 obtain ⟨hduplicate,hconflict⟩:=hrepeat createCart 1 hcommitted 40 9
 refine ⟨s,hs,hcommitted,hduplicate,hconflict _ (by decide) (by decide) trivial,?_⟩
 have hanswer:=hstale cartId (cartOperation 3) (by rw [hlog]; decide) 40 (by rw [hlog]; decide)
  .tombstone 9
 rwa [hlog] at hanswer

/-- `upsert` or `delete` as its caller sees it. -/
def submit (settings:Settings) (db:Database R) (id:PersistenceId) (expectedRevision:ℕ)
  (operationId:OperationId) (content:Content) (committedAtNs:ℤ):
  Except StoreError WriteResult×Database R:=
 match match content with
  | .live encoded=>db.upsert settings id expectedRevision operationId encoded committedAtNs
  | .tombstone=>db.delete settings id expectedRevision operationId committedAtNs with
 | .ok (result,db')=>(.ok result,db')
 | .error error=>(.error error,db)

lemma submit_of_accepted {settings:Settings} {content:Content} (h:Accepted settings content)
  (db:Database R) (id:PersistenceId) (expectedRevision:ℕ) (operationId:OperationId)
  (committedAtNs:ℤ):submit settings db id expectedRevision operationId content committedAtNs =
   attempt settings db id expectedRevision operationId content committedAtNs:=by
 cases content with
 | live encoded=>
  simp only [submit,attempt,Database.upsert,if_neg (Nat.not_lt.mpr h.1),if_neg (not_not.mpr h.2)]
 | tombstone=>rfl

/-- A committed operation that is repeated passes the check of `max-state-bytes`; another one is
 refused by it or answered behind it. -/
theorem submit_idempotent (settings:Settings) {s:Run R} (h:(storeSystem settings).Reachable s):
  (∀mutation k,CommittedAt s.log mutation k → ∀expectedRevision committedAtNs,
   submit settings s.db mutation.persistenceId expectedRevision mutation.operationId
    mutation.content committedAtNs=(.ok ⟨k,true⟩,s.db)) ∧
  ∀id expectedRevision operationId content committedAtNs,
   (settings.maxStateBytes<content.retainedBytes →
    submit settings s.db id expectedRevision operationId content committedAtNs =
     (.error (.capacity "State record exceeds max-state-bytes"),s.db)) ∧
   (Accepted settings content →
    submit settings s.db id expectedRevision operationId content committedAtNs =
     attempt settings s.db id expectedRevision operationId content committedAtNs):=by
 refine ⟨fun mutation k hcommitted expectedRevision committedAtNs=>?_,
  fun id expectedRevision operationId content committedAtNs=>⟨fun hlarge=>?_,fun haccepted=>?_⟩⟩
 · rw [submit_of_accepted (reachable_accepted settings h _ hcommitted.mem)]
   exact attempt_repeated h hcommitted expectedRevision committedAtNs
 · cases content with
   | live encoded=>simp only [submit,Database.upsert,if_pos hlarge]
   | tombstone=>cases hlarge
 · exact submit_of_accepted haccepted s.db id expectedRevision operationId committedAtNs

end Movie.OperationIdempotence
