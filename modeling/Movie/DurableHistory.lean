import Movie.DurableModel
import Movie.LogWindow

/-!
# The history of committed mutations

What the store is for: a log of the committed mutations. The position of a mutation is its offset,
its rank among those of the same identity its revision.
-/
namespace Movie.DurableHistory

open DurableModel LogWindow

structure Mutation where
 persistenceId:PersistenceId
 operationId:OperationId
 content:Content
 committedAtNs:ℤ
 deriving DecidableEq

def mutationsOf (log:List Mutation) (id:PersistenceId):List Mutation:=
 log.filter fun mutation=>mutation.persistenceId=id

section

variable (sha256:List UInt8 → List UInt8)

def entry (earlier:List Mutation) (mutation:Mutation):DurableStateChange where
 offset:=earlier.length+1
 persistenceId:=mutation.persistenceId
 revision:=(mutationsOf earlier mutation.persistenceId).length+1
 operationId:=mutation.operationId
 slice:=persistenceSlice sha256 mutation.persistenceId
 content:=mutation.content
 committedAtNs:=mutation.committedAtNs

def journal (log:List Mutation):List DurableStateChange:=annotate (entry sha256) log

def historyOf (log:List Mutation) (id:PersistenceId):List DurableStateChange:=
 (journal sha256 log).filter fun change=>change.persistenceId=id

@[simp] lemma journal_nil : journal sha256 []=[]:=rfl

@[simp] lemma journal_snoc (log:List Mutation) (mutation:Mutation):
  journal sha256 (log++[mutation])=journal sha256 log++[entry sha256 log mutation]:=
 annotate_snoc _ _ _

@[simp] lemma journal_length (log:List Mutation):
  (journal sha256 log).length=log.length:=
 annotate_length _ _

lemma journal_offsets (log:List Mutation):
  (journal sha256 log).map (·.offset)=List.range' 1 log.length:=by
 induction log using List.reverseRecOn with
 | nil=>rfl
 | append_singleton log mutation ih=>
  rw [journal_snoc,List.map_append,ih,List.length_append,List.length_singleton,
   List.range'_1_concat,Nat.add_comm 1]
  rfl

lemma journal_pairwise_offset (log:List Mutation):
  (journal sha256 log).Pairwise fun a b=>a.offset<b.offset:=by
 rw [←List.pairwise_map (f := fun change:DurableStateChange=>change.offset),
  journal_offsets]
 exact List.pairwise_lt_range'

lemma mem_journal_offset {log:List Mutation} {change:DurableStateChange}
  (h:change∈journal sha256 log):1 ≤ change.offset ∧ change.offset≤log.length:=by
 have hmem:=List.mem_map_of_mem (f := fun change:DurableStateChange=>change.offset) h
 rw [journal_offsets,List.mem_range'_1] at hmem
 omega

def mutationOf (change:DurableStateChange):Mutation:=
 ⟨change.persistenceId,change.operationId,change.content,change.committedAtNs⟩

lemma journal_mutations (log:List Mutation):(journal sha256 log).map mutationOf=log:=by
 induction log using List.reverseRecOn with
 | nil=>rfl
 | append_singleton log mutation ih=>
  rw [journal_snoc,List.map_append,ih]
  rfl

lemma journal_filter_lt (log:List Mutation) (c:ℕ):
  ((journal sha256 log).filter fun change=>c<change.offset) =
   (journal sha256 log).drop c:=by
 induction log using List.reverseRecOn with
 | nil=>simp
 | append_singleton log mutation ih=>
  rw [journal_snoc,List.filter_append,ih]
  by_cases hc:c≤log.length
  · rw [List.drop_append_of_le_length (by simpa using hc)]
    simp [entry,Nat.lt_succ_of_le hc]
  · have hlt:log.length<c:=Nat.lt_of_not_le hc
    rw [List.drop_eq_nil_of_le (by simpa using hlt.le),
     List.drop_eq_nil_of_le (by simpa using Nat.succ_le_of_lt hlt)]
    simp [entry,Nat.not_lt.mpr hlt]

lemma journal_filter_le (log:List Mutation) (c:ℕ):
  ((journal sha256 log).filter fun change=>change.offset ≤ c) =
   (journal sha256 log).take c:=by
 induction log using List.reverseRecOn with
 | nil=>simp
 | append_singleton log mutation ih=>
  rw [journal_snoc,List.filter_append,ih,List.take_append,journal_length]
  congr 1
  by_cases hc:log.length<c
  · have hentry:(entry sha256 log mutation).offset ≤ c:=hc
    rw [List.take_of_length_le (by simp; omega)]
    simp [hentry]
  · have hentry:¬(entry sha256 log mutation).offset ≤ c:=hc
    rw [Nat.sub_eq_zero_of_le (Nat.not_lt.mp hc)]
    simp [hentry]

lemma journal_window (log:List Mutation) (i s:ℕ):window (journal sha256 log) i s =
   (journal sha256 log).filter fun change=>i<change.offset ∧ change.offset ≤ s:=by
 have htake:(journal sha256 log).take s=journal sha256 (log.take s):=
  (annotate_take _ _ _).symm
 rw [window,htake,←journal_filter_lt,←htake,←journal_filter_le,List.filter_filter]
 simp only [Bool.decide_and]

lemma journal_append (log more:List Mutation):
  ∃rest,journal sha256 (log++more)=journal sha256 log++rest:=
 ⟨_,annotateAfter_append _ [] log more⟩

lemma journal_window_append (log more:List Mutation) {i s:ℕ} (hs:s≤log.length):
  window (journal sha256 (log++more)) i s=window (journal sha256 log) i s:=by
 obtain ⟨rest,hrest⟩:=journal_append sha256 log more
 rw [hrest,window_of_append _ _ (by rw [journal_length]; exact hs)]

/-! The mutations of one identity. -/

lemma historyOf_snoc_self (log:List Mutation) (mutation:Mutation):
  historyOf sha256 (log++[mutation]) mutation.persistenceId =
   historyOf sha256 log mutation.persistenceId++[entry sha256 log mutation]:=by
 simp [historyOf,entry]

lemma historyOf_snoc_ne (log:List Mutation) {mutation:Mutation} {id:PersistenceId}
  (h:mutation.persistenceId≠id):
  historyOf sha256 (log++[mutation]) id=historyOf sha256 log id:=by
 simp [historyOf,entry,h]

lemma mutationsOf_snoc_self (log:List Mutation) (mutation:Mutation):
  mutationsOf (log++[mutation]) mutation.persistenceId =
   mutationsOf log mutation.persistenceId++[mutation]:=by
 simp [mutationsOf]

lemma mutationsOf_snoc_ne (log:List Mutation) {mutation:Mutation} {id:PersistenceId}
  (h:mutation.persistenceId≠id):mutationsOf (log++[mutation]) id=mutationsOf log id:=by
 simp [mutationsOf,h]

lemma history_induction {P:List Mutation → Prop} (id:PersistenceId) (nil:P [])
  (self:∀log mutation,mutation.persistenceId=id → P log → P (log++[mutation]))
  (other:∀log mutation,mutation.persistenceId≠id → P log → P (log++[mutation]))
  (log:List Mutation):P log:=by
 induction log using List.reverseRecOn with
 | nil=>exact nil
 | append_singleton log mutation ih=>
  by_cases h:mutation.persistenceId=id
  · exact self log mutation h ih
  · exact other log mutation h ih

lemma historyOf_mutations (log:List Mutation) (id:PersistenceId):
  (historyOf sha256 log id).map mutationOf=mutationsOf log id:=by
 conv_rhs=>rw [←journal_mutations sha256 log,mutationsOf,List.filter_map]
 rfl

lemma historyOf_contents (log:List Mutation) (id:PersistenceId):
  (historyOf sha256 log id).map (·.content)=(mutationsOf log id).map (·.content):=by
 rw [←historyOf_mutations sha256,List.map_map]
 rfl

lemma historyOf_length (log:List Mutation) (id:PersistenceId):
  (historyOf sha256 log id).length=(mutationsOf log id).length:=by
 simpa using congrArg List.length (historyOf_contents sha256 log id)

lemma historyOf_revisions (log:List Mutation) (id:PersistenceId):
  (historyOf sha256 log id).map (·.revision)=List.range' 1 (mutationsOf log id).length:=by
 induction log using history_induction id with
 | nil=>rfl
 | self log mutation h ih=>
  subst h
  rw [historyOf_snoc_self,mutationsOf_snoc_self,List.map_append,ih]
  rw [List.length_append,List.length_singleton,List.range'_1_concat,Nat.add_comm 1]
  rfl
 | other log mutation h ih=>rw [historyOf_snoc_ne _ _ h,mutationsOf_snoc_ne _ h,ih]

lemma mem_journal_revision {log:List Mutation} {change:DurableStateChange}
  (h:change∈journal sha256 log):
  1 ≤ change.revision ∧ change.revision≤(mutationsOf log change.persistenceId).length:=by
 have hmem:change∈historyOf sha256 log change.persistenceId:=
  List.mem_filter.mpr ⟨h,decide_eq_true rfl⟩
 have hrevision:=List.mem_map_of_mem (f := fun change:DurableStateChange=>change.revision) hmem
 rw [historyOf_revisions,List.mem_range'_1] at hrevision
 omega

lemma journal_revisions_nodup (log:List Mutation):
  ((journal sha256 log).map fun change=>(change.persistenceId,change.revision)).Nodup:=by
 induction log using List.reverseRecOn with
 | nil=>exact List.nodup_nil
 | append_singleton log mutation ih=>
  rw [journal_snoc,List.map_append,List.nodup_append]
  refine ⟨ih,by simp,?_⟩
  rintro pair hpair last hlast rfl
  obtain ⟨change,hchange,heq⟩:=List.mem_map.mp hpair
  rw [List.mem_singleton.mp hlast] at heq
  obtain ⟨hid,hrevision⟩:=Prod.mk.inj heq
  have hle:=(mem_journal_revision sha256 hchange).2
  rw [hid] at hle
  change change.revision=(mutationsOf log mutation.persistenceId).length+1 at hrevision
  change change.revision≤(mutationsOf log mutation.persistenceId).length at hle
  omega

lemma historyOf_pairwise (log:List Mutation) (id:PersistenceId):
  (historyOf sha256 log id).Pairwise fun a b=>a.offset<b.offset ∧ a.revision<b.revision:=by
 refine List.Pairwise.and ?_ ?_
 · exact (journal_pairwise_offset sha256 log).filter _
 · rw [←List.pairwise_map (f := fun change:DurableStateChange=>change.revision),
    historyOf_revisions]
   exact List.pairwise_lt_range'

end

end Movie.DurableHistory
