import Mathlib.Logic.Relation

/-!
# Labelled transition systems and their reachable states

A component is a set of initial states and a labelled step relation; a run is a path of
`Relation.ReflTransGen`.
-/
namespace Movie.Reachability

universe u v w x

structure System (σ:Type u) (α:Type v) where
 init:σ → Prop
 step:σ → α → σ → Prop

namespace System

variable {σ:Type u} {α:Type v} {M:System σ α}

def Next (M:System σ α) (s t:σ):Prop:=∃a,M.step s a t

def Runs (M:System σ α):σ → σ → Prop:=Relation.ReflTransGen M.Next

def Reachable (M:System σ α) (s:σ):Prop:=∃s₀,M.init s₀ ∧ M.Runs s₀ s

/-- The system with only those steps that meet a condition on the state before
 the step and on its label. -/
def restrict (M:System σ α) (ok:σ → α → Prop):System σ α where
 init:=M.init
 step s a t:=ok s a ∧ M.step s a t

/-- The system with only those steps that meet a condition on the label and on both states. -/
def restrictSteps (M:System σ α) (ok:σ → α → σ → Prop):System σ α where
 init:=M.init
 step s a t:=ok s a t ∧ M.step s a t

lemma Reachable.start {s:σ} (h:M.init s):M.Reachable s:=⟨s,h,.refl⟩

lemma Reachable.next {s t:σ} (h:M.Reachable s) (a:α) (hs:M.step s a t):
  M.Reachable t:=by
 obtain ⟨s₀,h₀,hr⟩:=h
 exact ⟨s₀,h₀,hr.tail ⟨a,hs⟩⟩

lemma Runs.play {f:σ → α → Option σ} (hf:∀s a t,f s a=some t → M.step s a t)
  (labels:List α) {s t:σ} (hplay:labels.foldlM f s=some t):M.Runs s t:=by
 induction labels generalizing s with
 | nil=>
  cases hplay
  exact .refl
 | cons label labels ih=>
  rw [List.foldlM_cons] at hplay
  obtain ⟨middle,hfirst,hrest⟩:=Option.bind_eq_some_iff.mp hplay
  exact .head ⟨label,hf _ _ _ hfirst⟩ (ih hrest)

lemma Reachable.runs {s t:σ} (h:M.Reachable s) (hruns:M.Runs s t):M.Reachable t:=by
 obtain ⟨s₀,h₀,hr⟩:=h
 exact ⟨s₀,h₀,hr.trans hruns⟩

lemma Reachable.play {f:σ → α → Option σ} (hf:∀s a t,f s a=some t → M.step s a t)
  (labels:List α) {s t:σ} (h:M.Reachable s) (hplay:labels.foldlM f s=some t):
  M.Reachable t:=h.runs (Runs.play hf labels hplay)

/-- The invariant rule: what holds initially and is kept by every step taken from
 a reachable state holds in every reachable state. -/
lemma Reachable.invariant {I:σ → Prop} {s:σ} (h:M.Reachable s) (start:∀s,M.init s → I s)
  (next:∀s a t,M.Reachable s → I s → M.step s a t → I t):I s:=by
 obtain ⟨s₀,h₀,hr⟩:=h
 induction hr with
 | refl=>exact start s₀ h₀
 | tail hr hs ih=>
  obtain ⟨a,ha⟩:=hs
  exact next _ a _ ⟨s₀,h₀,hr⟩ ih ha

lemma Reachable.of_restrict {ok:σ → α → Prop} {s:σ} (h:(M.restrict ok).Reachable s):
  M.Reachable s:=
 h.invariant (I := M.Reachable) (fun _ hinit=>.start hinit)
  fun _ label _ _ hreachable hstep=>hreachable.next label hstep.2

lemma Reachable.of_restrictSteps {ok:σ → α → σ → Prop} {s:σ}
  (h:(M.restrictSteps ok).Reachable s):M.Reachable s:=
 h.invariant (I := M.Reachable) (fun _ hinit=>.start hinit)
  fun _ label _ _ hreachable hstep=>hreachable.next label hstep.2

lemma Runs.related {R:σ → σ → Prop} (hrefl:∀s,R s s) (htrans:∀s t u,R s t → R t u → R s u)
  (hstep:∀s a t,M.step s a t → R s t) {s t:σ} (h:M.Runs s t):R s t:=by
 induction h with
 | refl=>exact hrefl s
 | tail _ hs ih=>
  obtain ⟨a,ha⟩:=hs
  exact htrans _ _ _ ih (hstep _ a _ ha)

lemma Runs.stable {P:σ → Prop}
  (hstep:∀s a t,M.Reachable s → P s → M.step s a t → P t) {s t:σ} (h:M.Runs s t)
  (hs:M.Reachable s) (hP:P s):P t:=by
 induction h with
 | refl=>exact hP
 | tail hr hnext ih=>
  obtain ⟨a,ha⟩:=hnext
  exact hstep _ a _ (hs.runs hr) ih ha

/-- The rule for logs: when every step appends entries that explain what it does to a value, so
 does every run. -/
lemma Runs.explained {β:Type w} {γ:Type x} {P:σ → Prop} (log:σ → List β)
  (value:σ → γ) (explain:γ → β → γ) (hstep:∀s a t,P s → M.step s a t → P t ∧
   ∃more,log t=log s++more ∧ more.foldl explain (value s)=value t) {s t:σ}
  (h:M.Runs s t) (hP:P s):
  P t ∧ ∃more,log t=log s++more ∧ more.foldl explain (value s)=value t:=by
 induction h with
 | refl=>exact ⟨hP,[],(List.append_nil _).symm,rfl⟩
 | tail _ hnext ih=>
  obtain ⟨a,ha⟩:=hnext
  obtain ⟨hmiddle,more,hlog,hvalue⟩:=ih
  obtain ⟨hlast,more',hlog',hvalue'⟩:=hstep _ a _ hmiddle ha
  refine ⟨hlast,more++more',?_,?_⟩
  · rw [hlog',hlog,List.append_assoc]
  · rw [List.foldl_append,hvalue,hvalue']

/-- The simulation rule: a system whose steps are runs of another one only reaches states that
 the other one reaches. -/
lemma Reachable.simulates {τ:Type w} {β:Type x} {N:System τ β} {f:σ → τ}
  (start:∀s,M.init s → N.init (f s))
  (next:∀s a t,M.Reachable s → N.Reachable (f s) → M.step s a t → N.Runs (f s) (f t)) {s:σ}
  (h:M.Reachable s):N.Reachable (f s):=by
 refine Reachable.invariant (I := fun s=>N.Reachable (f s)) h (fun s hs=>.start (start s hs))
  fun s a t hreachable hs hstep=>?_
 obtain ⟨s₀,h₀,hr⟩:=hs
 exact ⟨s₀,h₀,hr.trans (next s a t hreachable ⟨s₀,h₀,hr⟩ hstep)⟩

end System

end Movie.Reachability
