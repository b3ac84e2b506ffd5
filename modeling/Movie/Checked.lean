import Mathlib.Tactic.SplitIfs

/-! Sequences of checks, each of which may end the computation with an error. -/
namespace Movie.Checked

universe u v

section

variable {ε:Type v} {α β:Type u}

def reject (condition:Prop) [Decidable condition] (error:ε):Except ε Unit:=
 if condition then .error error else .ok ()

variable {x:Except ε α} {f:α → Except ε β} {a:α} {condition:Prop} {γ:Type} {P:ε → Prop} {ε':Type v}

lemma bind_eq_ok {b:β} (h:x >>= f=.ok b):∃a,x=.ok a ∧ f a=.ok b:=by
 cases x with
 | error e=>cases h
 | ok a=>exact ⟨a,rfl,h⟩

lemma bind_eq_error {e:ε} (h:x >>= f=.error e):x=.error e ∨ ∃a,x=.ok a ∧ f a=.error e:=by
 cases x with
 | error e'=>
  cases h
  exact .inl rfl
 | ok a=>exact .inr ⟨a,rfl,h⟩

lemma bind_of_ok (h:x=.ok a):
  x >>= f=f a:=by
 rw [h]
 rfl

lemma bind_reject_eq_ok [Decidable condition] {error:ε} {f:Unit → Except ε γ} {c:γ}:
  (reject condition error >>= f)=.ok c ↔ ¬condition ∧ f ()=.ok c:=by
 unfold reject
 split_ifs with h
 · exact ⟨nofun,fun hn=>absurd h hn.1⟩
 · exact ⟨fun hf=>⟨h,hf⟩,fun hf=>hf.2⟩

lemma bind_reject_error [Decidable condition] {error:ε}
  {f:Unit → Except ε γ} (herror:P error) (hf:∀e,f ()=.error e → P e):
  ∀e,(reject condition error >>= f)=.error e → P e:=by
 intro e h
 unfold reject at h
 split_ifs at h
 · cases h
   exact herror
 · exact hf e h

lemma reject_error [Decidable condition] {error:ε}
  (herror:P error):∀e,reject condition error=.error e → P e:=by
 intro e h
 unfold reject at h
 split_ifs at h
 cases h
 exact herror

lemma toOption_eq_some : x.toOption=some a ↔ x=.ok a:=by
 cases x with
 | error e=>exact ⟨nofun,nofun⟩
 | ok b=>
  change some b=some a ↔ _
  rw [Option.some.injEq,Except.ok.injEq]

lemma toOption_bind (x:Except ε α) (f:α → Except ε β):
  (x >>= f).toOption=x.toOption.bind fun a=>(f a).toOption:=by
 cases x <;> rfl

lemma toOption_mapError (x:Except ε α) (f:ε → ε'):
  (x.mapError f).toOption=x.toOption:=by
 cases x <;> rfl

lemma mapError_eq_ok {f:ε → ε'}:
  x.mapError f=.ok a ↔ x=.ok a:=by
 cases x with
 | error e=>exact ⟨nofun,nofun⟩
 | ok b=>
  change Except.ok b=.ok a ↔ _
  rw [Except.ok.injEq,Except.ok.injEq]

lemma mapError_eq_error {f:ε → ε'} {e:ε'} (h:x.mapError f=.error e):∃e',e=f e':=by
 cases x with
 | error e'=>
  cases h
  exact ⟨e',rfl⟩
 | ok a=>cases h

end

end Movie.Checked
