import Mathlib.Data.List.Forall2
import Mathlib.Data.List.Induction
import Mathlib.Data.Nat.Basic
import Mathlib.Tactic.Ring

/-! Fixed-width big-endian integers, and records of them, as lists of bytes. -/
namespace Movie.BigEndian

/-- The low `width` bytes of `n`, most significant first. -/
def toBytes : ℕ → ℕ → List UInt8
 | 0,_=>[]
 | width+1,n=>toBytes width (n / 256)++[UInt8.ofNat (n % 256)]

def ofBytes (bytes:List UInt8):ℕ:=bytes.foldl (fun n byte=>n * 256+byte.toNat) 0

@[simp] lemma toBytes_length (width n:ℕ):(toBytes width n).length=width:=by
 induction width generalizing n with
 | zero=>rfl
 | succ width ih=>simp [toBytes,ih]

lemma ofBytes_snoc (bytes:List UInt8) (byte:UInt8):
  ofBytes (bytes++[byte])=ofBytes bytes * 256+byte.toNat:=by
 simp [ofBytes,List.foldl_append]

lemma ofBytes_toBytes (width n:ℕ) (h:n<256 ^ width):ofBytes (toBytes width n)=n:=by
 induction width generalizing n with
 | zero=>
  have hn:n=0:=by simpa using h
  subst n
  rfl
 | succ width ih=>
  have hdiv:n / 256<256 ^ width:=by
   rw [Nat.div_lt_iff_lt_mul (by decide)]
   rwa [pow_succ] at h
  have hbyte:(UInt8.ofNat (n % 256)).toNat=n % 256:=by
   rw [UInt8.toNat_ofNat']
   exact Nat.mod_eq_of_lt (Nat.mod_lt _ (by decide))
  rw [toBytes,ofBytes_snoc,ih _ hdiv,hbyte]
  exact Nat.div_add_mod' n 256

lemma ofBytes_lt (bytes:List UInt8):ofBytes bytes<256 ^ bytes.length:=by
 induction bytes using List.reverseRecOn with
 | nil=>exact Nat.one_pos
 | append_singleton bytes byte ih=>
  have hbyte:byte.toNat<256:=byte.toNat_lt
  rw [ofBytes_snoc,List.length_append,List.length_singleton,pow_succ]
  omega

lemma toBytes_ofBytes (bytes:List UInt8):toBytes bytes.length (ofBytes bytes)=bytes:=by
 induction bytes using List.reverseRecOn with
 | nil=>rfl
 | append_singleton bytes byte ih=>
  have hbyte:byte.toNat<256:=byte.toNat_lt
  have hdiv:(ofBytes bytes * 256+byte.toNat) / 256=ofBytes bytes:=by omega
  have hmod:(ofBytes bytes * 256+byte.toNat) % 256=byte.toNat:=by omega
  rw [ofBytes_snoc,List.length_append,List.length_singleton,toBytes,hdiv,hmod,ih,
   UInt8.ofNat_toNat]

def pack : List ℕ → List ℕ → List UInt8
 | width::widths,value::values=>toBytes width value++pack widths values
 | _,_=>[]

def unpack : List ℕ → List UInt8 → List ℕ
 | [],_=>[]
 | width::widths,bytes=>ofBytes (bytes.take width)::unpack widths (bytes.drop width)

def Fits (widths values:List ℕ):Prop:=
 List.Forall₂ (fun width value=>value<256 ^ width) widths values

variable {widths values:List ℕ}

lemma pack_length (h:widths.length=values.length):
  (pack widths values).length=widths.sum:=by
 induction widths generalizing values with
 | nil=>cases values <;> rfl
 | cons width widths ih=>
  cases values with
  | nil=>cases h
  | cons value values=>
   rw [pack,List.length_append,toBytes_length,List.sum_cons,ih (Nat.succ.inj h)]

lemma unpack_pack (h:Fits widths values) (rest:List UInt8):
  unpack widths (pack widths values++rest)=values:=by
 induction h with
 | nil=>rfl
 | @cons width value widths values hvalue _ ih=>
  rw [pack,unpack,List.append_assoc,List.take_left' (toBytes_length width value),
   List.drop_left' (toBytes_length width value),ofBytes_toBytes width value hvalue,ih]

lemma pack_unpack {widths:List ℕ} {bytes:List UInt8} (h:widths.sum≤bytes.length):
  pack widths (unpack widths bytes)=bytes.take widths.sum:=by
 induction widths generalizing bytes with
 | nil=>simp [pack]
 | cons width widths ih=>
  rw [List.sum_cons] at h ⊢
  have htake:(bytes.take width).length=width:=by
   rw [List.length_take]
   omega
  have hfirst:=toBytes_ofBytes (bytes.take width)
  rw [htake] at hfirst
  have hrest:widths.sum≤(bytes.drop width).length:=by
   rw [List.length_drop]
   omega
  rw [unpack,pack,hfirst,ih hrest,List.take_add]

lemma unpack_fits (widths:List ℕ) (bytes:List UInt8):Fits widths (unpack widths bytes):=by
 induction widths generalizing bytes with
 | nil=>exact .nil
 | cons width widths ih=>
  have hlength:(bytes.take width).length≤width:=by
   rw [List.length_take]
   exact Nat.min_le_left _ _
  exact .cons ((ofBytes_lt _).trans_le (Nat.pow_le_pow_right (by decide) hlength)) (ih _)

lemma pack_append (h:widths.length=values.length) (widths' values':List ℕ):
  pack (widths++widths') (values++values')=pack widths values++pack widths' values':=by
 induction widths generalizing values with
 | nil=>
  cases values with
  | nil=>rfl
  | cons=>cases h
 | cons width widths ih=>
  cases values with
  | nil=>cases h
  | cons value values=>
   rw [List.cons_append,List.cons_append,pack,pack,ih (Nat.succ.inj h),List.append_assoc]

end Movie.BigEndian
