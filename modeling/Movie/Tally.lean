import Mathlib.Algebra.BigOperators.Group.Finset.Basic
import Mathlib.Data.Fintype.BigOperators

/-!
# What a family of places holds together

Places are indexed by a finite type, and each contributes to an amount in a commutative monoid. When
one place changes, the whole changes by as much.
-/
namespace Movie.Tally

universe u v w

variable {ι:Type u} {α:Type v} {M:Type w} [Fintype ι] [DecidableEq ι]

section

variable [AddCommMonoid M] (g:α → M) (f:ι → α)

lemma sum_update_add (i:ι) (a:α):
  (∑ x,g (Function.update f i a x))+g (f i)=(∑ x,g (f x))+g a:=by
 have hrest:∑ x∈Finset.univ.erase i,g (Function.update f i a x) =
  ∑ x∈Finset.univ.erase i,g (f x):=by
  refine Finset.sum_congr rfl fun x hx=>?_
  rw [Function.update_of_ne (Finset.ne_of_mem_erase hx)]
 rw [←Finset.add_sum_erase Finset.univ _ (Finset.mem_univ i),hrest,Function.update_self,
  ← Finset.add_sum_erase Finset.univ (fun x=>g (f x)) (Finset.mem_univ i)]
 rw [add_comm (g a),add_right_comm,add_comm _ (g (f i))]

lemma sum_update_same {i:ι} {a:α} (h:g a=g (f i)):
  ∑ x,g (Function.update f i a x)=∑ x,g (f x):=by
 refine Finset.sum_congr rfl fun x _=>?_
 by_cases hx:x=i
 · rw [hx,Function.update_self,h]
 · rw [Function.update_of_ne hx]

end

section

variable [AddCancelCommMonoid M] (g:α → M) (f:ι → α)

lemma sum_update_gain {i:ι} {a:α} {m:M} (h:g a=g (f i)+m):
  ∑ x,g (Function.update f i a x)=(∑ x,g (f x))+m:=by
 refine add_right_cancel (b := g (f i)) ?_
 rw [sum_update_add,h,add_assoc,add_comm m]

lemma sum_update_lose {i:ι} {a:α} {m:M} (h:g (f i)=g a+m):
  (∑ x,g (Function.update f i a x))+m=∑ x,g (f x):=by
 refine add_right_cancel (b := g a) ?_
 rw [←sum_update_add g f i a,h,add_assoc,add_comm m]

end

end Movie.Tally
