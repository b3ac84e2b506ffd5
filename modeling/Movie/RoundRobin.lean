import Mathlib.Data.List.Nodup
import Mathlib.Logic.Function.Basic

/-!
# Queues that take turns

One queue for each key, and a list of the keys whose queue is not empty. The queue at the front
gives one item and goes to the back.
-/
namespace Movie.RoundRobin

structure Queues (κ β:Type) where
 queue:κ → List β
 ready:List κ
 ready_nodup:ready.Nodup
 mem_ready:∀key,key∈ready ↔ queue key≠[]

section

variable {κ β:Type}

lemma empty_mem_ready (key:κ):key∈([]:List κ) ↔ (fun _=>[]:κ → List β) key≠[]:=
 ⟨nofun,fun hne=>absurd rfl hne⟩

def empty (κ β:Type):Queues κ β where
 queue _:=[]
 ready:=[]
 ready_nodup:=List.nodup_nil
 mem_ready:=empty_mem_ready

variable (queues:Queues κ β) (key:κ)

def readyAfterPop (key:κ) (rest:List κ) (items:List β):List κ:=
 if items.isEmpty then rest else rest++[key]

lemma readyAfterPop_nodup {queues:Queues κ β} {key:κ} {rest:List κ}
  (hready:queues.ready=key::rest) (items:List β):
  (readyAfterPop key rest items).Nodup:=by
 have hnodup:=queues.ready_nodup
 rw [hready] at hnodup
 obtain ⟨hnot,hrest⟩:=List.nodup_cons.mp hnodup
 unfold readyAfterPop
 split_ifs
 · exact hrest
 · rw [←List.concat_eq_append]
   exact hrest.concat hnot

def readyAfterPush : List κ:=
 if (queues.queue key).isEmpty then queues.ready++[key] else queues.ready

lemma readyAfterPush_nodup : (readyAfterPush queues key).Nodup:=by
 unfold readyAfterPush
 split_ifs with hempty
 · have hnot:key∉queues.ready:=fun hmem=>
    (queues.mem_ready key).mp hmem (List.isEmpty_iff.mp hempty)
   rw [←List.concat_eq_append]
   exact queues.ready_nodup.concat hnot
 · exact queues.ready_nodup

variable [DecidableEq κ]

lemma mem_readyAfterPush (item:β) (other:κ):other∈readyAfterPush queues key ↔
  Function.update queues.queue key (queues.queue key++[item]) other≠[]:=by
 unfold readyAfterPush
 by_cases heq:other=key
 · subst heq
   rw [Function.update_self]
   have hne:queues.queue other++[item]≠[]:=List.append_ne_nil_of_right_ne_nil _ (by simp)
   refine ⟨fun _=>hne,fun _=>?_⟩
   split_ifs with hempty
   · exact List.mem_append_right _ List.mem_cons_self
   · exact (queues.mem_ready other).mpr fun hnil=>hempty (List.isEmpty_iff.mpr hnil)
 · rw [Function.update_of_ne heq,←queues.mem_ready other]
   split_ifs
   · rw [List.mem_append,List.mem_singleton]
     exact ⟨fun h=>h.resolve_right heq,.inl⟩
   · exact Iff.rfl

def push (item:β):Queues κ β where
 queue:=Function.update queues.queue key (queues.queue key++[item])
 ready:=readyAfterPush queues key
 ready_nodup:=readyAfterPush_nodup queues key
 mem_ready:=mem_readyAfterPush queues key item

variable {queues key} {rest:List κ}

lemma mem_readyAfterPop (hready:queues.ready=key::rest) (items:List β) (other:κ):
  other∈readyAfterPop key rest items ↔
   Function.update queues.queue key items other≠[]:=by
 have hnodup:=queues.ready_nodup
 rw [hready] at hnodup
 obtain ⟨hnot,-⟩:=List.nodup_cons.mp hnodup
 unfold readyAfterPop
 by_cases heq:other=key
 · subst heq
   rw [Function.update_self]
   split_ifs with hempty
   · rw [List.isEmpty_iff.mp hempty]
     exact ⟨fun hmem=>absurd hmem hnot,fun hne=>absurd rfl hne⟩
   · exact ⟨fun _ hnil=>hempty (List.isEmpty_iff.mpr hnil),
      fun _=>List.mem_append_right _ List.mem_cons_self⟩
 · rw [Function.update_of_ne heq,←queues.mem_ready other,hready,List.mem_cons]
   split_ifs
   · exact ⟨.inr,fun h=>h.resolve_left heq⟩
   · rw [List.mem_append,List.mem_singleton]
     exact ⟨fun h=>.inr (h.resolve_right heq),fun h=>.inl (h.resolve_left heq)⟩

def pop (queues:Queues κ β):Option (β×Queues κ β):=
 match hready:queues.ready with
 | []=>none
 | key::rest=>
  match queues.queue key with
  | []=>none
  | item::items=>some (item,
   { queue:=Function.update queues.queue key items
     ready:=readyAfterPop key rest items
     ready_nodup:=readyAfterPop_nodup hready items
     mem_ready:=mem_readyAfterPop hready items })

end

section

variable {κ β:Type} [DecidableEq κ] {queues popped:Queues κ β} {item:β}

lemma push_queue (key other:κ):(push queues key item).queue other =
  if other=key then queues.queue key++[item] else queues.queue other:=
 Function.update_apply _ _ _ _

lemma pop_eq_some (h:pop queues=some (item,popped)):
  ∃key,queues.queue key=item::popped.queue key ∧
   ∀other,other≠key → popped.queue other=queues.queue other:=by
 unfold pop at h
 split at h
 · cases h
 · rename_i key rest hready
   split at h
   · cases h
   · rename_i first items hqueue
     cases h
     refine ⟨key,?_,fun other hne=>Function.update_of_ne hne _ _⟩
     dsimp only
     rw [hqueue,Function.update_self]

omit [DecidableEq κ] in
lemma queue_eq_nil_of_ready (h:queues.ready=[]) (key:κ):queues.queue key=[]:=by
 by_contra hne
 have hmem:=(queues.mem_ready key).mpr hne
 rw [h] at hmem
 cases hmem

end

end Movie.RoundRobin
