import Mathlib.Data.List.Basic

/-!
# Self-delimiting frames

A frame says in its first elements how long it is. A stream of whole frames can then be cut
into its frames in one way only.
-/
namespace Movie.Framing

variable {α:Type} {size:List α → ℕ} {header:ℕ}

/-- The size of a frame is read from its first `header` elements. -/
def ReadsHeader (size:List α → ℕ) (header:ℕ):Prop:=
 ∀frame rest,header≤frame.length → size (frame++rest)=size frame

structure Framed (size:List α → ℕ) (header:ℕ) (frame:List α):Prop where
 header_le:header≤frame.length
 size_eq:size frame=frame.length

lemma Framed.append_inj (hsize:ReadsHeader size header) {first second rest rest':List α}
  (hfirst:Framed size header first) (hsecond:Framed size header second)
  (h:first++rest=second++rest'):first=second ∧ rest=rest':=by
 have hlength:first.length=second.length:=by
  rw [←hfirst.size_eq,←hsecond.size_eq,←hsize first rest hfirst.header_le,h,
   hsize second rest' hsecond.header_le]
 exact List.append_inj h hlength

lemma prefix_of_flatten_prefix (hsize:ReadsHeader size header) (hpos:0<header)
  {read sent:List (List α)} (hread:∀frame∈read,Framed size header frame)
  (hsent:∀frame∈sent,Framed size header frame) (h:read.flatten <+:sent.flatten):
  read <+:sent:=by
 induction read generalizing sent with
 | nil=>exact List.nil_prefix
 | cons first read ih=>
  have hfirst:=hread first List.mem_cons_self
  obtain ⟨rest,h⟩:=h
  rw [List.flatten_cons,List.append_assoc] at h
  cases sent with
  | nil=>
   have hnil:first=[]:=(List.append_eq_nil_iff.mp h).1
   have hlength:=hfirst.header_le
   rw [hnil] at hlength
   exact absurd hlength (Nat.not_le.mpr hpos)
  | cons second sent=>
   rw [List.flatten_cons] at h
   obtain ⟨rfl,htail⟩:=Framed.append_inj hsize hfirst (hsent second List.mem_cons_self) h
   have hprefix:=ih (fun frame hmem=>hread frame (List.mem_cons_of_mem _ hmem))
    (fun frame hmem=>hsent frame (List.mem_cons_of_mem _ hmem)) ⟨rest,htail⟩
   exact List.cons_prefix_cons.mpr ⟨rfl, hprefix⟩

end Movie.Framing
