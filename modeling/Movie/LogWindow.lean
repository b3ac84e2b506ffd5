import Mathlib.Data.List.Induction

/-!
# Append-only logs

`annotate f log` computes each entry from the entries before it. `window log i s` is the part of a
log after its first `i` entries and up to its `s`-th.
-/
namespace Movie.LogWindow

universe u v

variable {α:Type u} {β:Type v}

/-- Each entry of the log together with the entries before it, through `f`. -/
def annotateAfter (f:List α → α → β):List α → List α → List β
 | _,[]=>[]
 | earlier,a::rest=>f earlier a::annotateAfter f (earlier++[a]) rest

def annotate (f:List α → α → β) (log:List α):List β:=annotateAfter f [] log

lemma annotateAfter_append (f:List α → α → β) (earlier log more:List α):
  annotateAfter f earlier (log++more) =
   annotateAfter f earlier log++annotateAfter f (earlier++log) more:=by
 induction log generalizing earlier with
 | nil=>simp [annotateAfter]
 | cons a rest ih=>simp [annotateAfter,ih]

@[simp] lemma annotate_snoc (f:List α → α → β) (log:List α) (a:α):
  annotate f (log++[a])=annotate f log++[f log a]:=by
 simp [annotate,annotateAfter_append,annotateAfter]

@[simp] lemma annotate_length (f:List α → α → β) (log:List α):
  (annotate f log).length=log.length:=by
 induction log using List.reverseRecOn with
 | nil=>rfl
 | append_singleton log a ih=>simp [ih]

lemma annotate_take (f:List α → α → β) (log:List α) (n:ℕ):
  annotate f (log.take n)=(annotate f log).take n:=by
 by_cases hn:n≤log.length
 · have hsplit:annotate f log =
    annotate f (log.take n)++annotateAfter f (log.take n) (log.drop n):=by
    conv_lhs=>rw [←List.take_append_drop n log]
    exact annotateAfter_append f [] _ _
   have hlength:(annotate f (log.take n)).length=n:=by
    rw [annotate_length,List.length_take,Nat.min_eq_left hn]
   rw [hsplit,List.take_left' hlength]
 · have hle:log.length≤n:=Nat.le_of_not_le hn
   rw [List.take_of_length_le hle,List.take_of_length_le (by rw [annotate_length]; exact hle)]

def window (log:List α) (i s:ℕ):List α:=(log.take s).drop i

lemma window_append (log:List α) {i s t:ℕ} (hi:i ≤ s) (hs:s≤t) (ht:t≤log.length):
  window log i s++window log s t=window log i t:=by
 have hsplit:log.take t=log.take s++window log s t:=by
  have htake:(log.take t).take s=log.take s:=by
   rw [List.take_take,Nat.min_eq_left hs]
  rw [←htake]
  exact (List.take_append_drop s (log.take t)).symm
 have hlen:i≤(log.take s).length:=by
  rw [List.length_take]
  omega
 change (log.take s).drop i++window log s t=(log.take t).drop i
 rw [hsplit,List.drop_append_of_le_length hlen]

lemma window_of_append (log more:List α) {i s:ℕ} (hs:s≤log.length):
  window (log++more) i s=window log i s:=by
 rw [window,window,List.take_append_of_le_length hs]

end Movie.LogWindow
