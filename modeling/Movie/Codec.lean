import Movie.BigEndian
import Movie.Checked

/-!
# Readers and the writers they invert

`Codes p write read` says that `read` accepts exactly what `write` writes for the values with `p`.
The rules follow the structure of a reader.
-/
namespace Movie.Codec

open BigEndian Checked

variable {ε α β:Type}

abbrev Reader (ε α:Type):=StateT (List UInt8) (Except ε) α

def take (length:ℕ) (error:ε):Reader ε (List UInt8):=fun data=>
 if data.length<length then .error error else .ok (data.take length,data.drop length)

def refuse (condition:Prop) [Decidable condition] (error:ε):Reader ε Unit:=fun data=>
 if condition then .error error else .ok ((),data)

def accept (result:Except ε α):Reader ε α:=fun data=>
 match result with
 | .error error=>.error error
 | .ok a=>.ok (a,data)

def readMany (read:Reader ε α):ℕ → Reader ε (List α)
 | 0=>pure []
 | n+1=>do
  let first ← read
  let rest ← readMany read n
  return first::rest

def readCounted (readCount:Reader ε ℕ) (read:Reader ε α):Reader ε (List α):=do
 let count ← readCount
 readMany read count

def readUint (width:ℕ) (error:ε):Reader ε ℕ:=do
 let bytes ← take width error
 return ofBytes bytes

def writeAll : List (Except ε (List UInt8)) → Except ε (List UInt8)
 | []=>.ok []
 | part::parts=>do
  let first ← part
  let rest ← writeAll parts
  return first++rest

def check (condition:Prop) [Decidable condition] (error:ε):Except ε (List UInt8):=
 if condition then .error error else .ok []

def writeCounted (writeCount:ℕ → Except ε (List UInt8)) (write:α → Except ε (List UInt8))
  (values:List α):Except ε (List UInt8):=
 writeAll (writeCount values.length::values.map write)

section

variable {data bytes:List UInt8} {b:β} {a:α} {condition:Prop} {parts:List (Except ε (List UInt8))}
 {rest:List UInt8}

lemma bind_run_eq_ok {read:Reader ε α} {next:α → Reader ε β}
  : (read >>= next) data=.ok (b,rest) ↔
   ∃a middle,read data=.ok (a,middle) ∧ next a middle=.ok (b,rest):=by
 change (read data >>= fun result=>next result.1 result.2)=.ok (b,rest) ↔ _
 cases read data with
 | error error=>exact ⟨nofun,nofun⟩
 | ok result=>
  obtain ⟨a,middle⟩:=result
  constructor
  · intro h
    exact ⟨a,middle,rfl,h⟩
  · rintro ⟨_,_,⟨⟩,h⟩
    exact h

lemma pure_run_eq_ok {b:α}:
  (pure a:Reader ε α) data=.ok (b,rest) ↔ a=b ∧ data=rest:=by
 change Except.ok (a,data)=.ok (b,rest) ↔ _
 rw [Except.ok.injEq,Prod.mk.injEq]

lemma map_run_eq_ok {read:Reader ε α} {f:α → β}:
  (f <$> read) data=.ok (b,rest) ↔ ∃a,read data=.ok (a,rest) ∧ f a=b:=by
 rw [←bind_pure_comp,bind_run_eq_ok]
 simp only [pure_run_eq_ok]
 constructor
 · rintro ⟨a,_,hread,hb,rfl⟩
   exact ⟨a,hread,hb⟩
 · rintro ⟨a,hread,hb⟩
   exact ⟨a,rest,hread,hb,rfl⟩

lemma take_run_eq_ok {length:ℕ} {error:ε}:
  take length error data=.ok (bytes,rest) ↔ bytes.length=length ∧ data=bytes++rest:=by
 unfold take
 split_ifs with hshort
 · refine ⟨nofun,?_⟩
   rintro ⟨rfl,rfl⟩
   rw [List.length_append] at hshort
   omega
 · rw [Except.ok.injEq,Prod.mk.injEq]
   constructor
   · rintro ⟨rfl,rfl⟩
     rw [List.length_take,List.take_append_drop]
     exact ⟨by omega,rfl⟩
   · rintro ⟨rfl,rfl⟩
     exact ⟨List.take_left' rfl,List.drop_left' rfl⟩

lemma refuse_run_eq_ok [Decidable condition] {error:ε} {u:Unit}:
  refuse condition error data=.ok (u,rest) ↔ ¬condition ∧ data=rest:=by
 unfold refuse
 split_ifs with h
 · exact ⟨nofun,fun hn=>absurd h hn.1⟩
 · rw [Except.ok.injEq,Prod.mk.injEq]
   exact ⟨fun heq=>⟨h,heq.2⟩,fun heq=>⟨rfl,heq.2⟩⟩

lemma refuse_bind_run_eq_ok [Decidable condition] {error:ε} {next:Unit → Reader ε β}:
  (refuse condition error >>= next) data=.ok (b,rest) ↔
   ¬condition ∧ next () data=.ok (b,rest):=by
 rw [bind_run_eq_ok]
 simp only [refuse_run_eq_ok]
 constructor
 · rintro ⟨⟨⟩,_,⟨hcondition,rfl⟩,h⟩
   exact ⟨hcondition,h⟩
 · rintro ⟨hcondition,h⟩
   exact ⟨(),data,⟨hcondition,rfl⟩,h⟩

lemma accept_run_eq_ok {result:Except ε α}:
  accept result data=.ok (a,rest) ↔ result=.ok a ∧ data=rest:=by
 unfold accept
 cases result with
 | error error=>exact ⟨nofun,nofun⟩
 | ok b=>rw [Except.ok.injEq,Prod.mk.injEq,Except.ok.injEq]

lemma writeAll_cons_eq_ok {part:Except ε (List UInt8)}
  :
  writeAll (part::parts)=.ok bytes ↔
   ∃first rest,part=.ok first ∧ writeAll parts=.ok rest ∧ bytes=first++rest:=by
 rw [writeAll]
 constructor
 · intro h
   obtain ⟨first,hfirst,h⟩:=bind_eq_ok h
   obtain ⟨rest,hrest,h⟩:=bind_eq_ok h
   exact ⟨first,rest,hfirst,hrest,(Except.ok.inj h).symm⟩
 · rintro ⟨first,rest,hfirst,hrest,rfl⟩
   rw [bind_of_ok hfirst,bind_of_ok hrest]
   rfl

lemma writeAll_check_eq_ok [Decidable condition] {error:ε}
  :
  writeAll (check condition error::parts)=.ok bytes ↔
   ¬condition ∧ writeAll parts=.ok bytes:=by
 rw [writeAll_cons_eq_ok]
 unfold check
 split_ifs with h
 · refine ⟨?_,fun hn=>absurd h hn.1⟩
   rintro ⟨_,_,⟨⟩,_⟩
 · constructor
   · rintro ⟨_,rest,⟨⟩,hrest,rfl⟩
     exact ⟨h,hrest⟩
   · rintro ⟨_,hrest⟩
     exact ⟨[],bytes,rfl,hrest,rfl⟩

lemma written_of_mem (h:writeAll parts=.ok bytes) {part:Except ε (List UInt8)} (hpart:part∈parts):
  ∃written,part=.ok written:=by
 induction parts generalizing bytes with
 | nil=>cases hpart
 | cons first parts ih=>
  obtain ⟨written,rest,hfirst,hrest,-⟩:=writeAll_cons_eq_ok.mp h
  rcases List.mem_cons.mp hpart with rfl|hmem
  · exact ⟨written,hfirst⟩
  · exact ih hrest hmem

lemma check_congr {p q:Prop} [Decidable p] [Decidable q] (error:ε) (h:p ↔ q):
  check p error=check q error:=if_congr h rfl rfl

end

def SameSize (part other:Except ε (List UInt8)):Prop:=
 ∀bytes,part=.ok bytes → ∃others,other=.ok others ∧ others.length=bytes.length

namespace SameSize

variable {parts others:List (Except ε (List UInt8))} {part other:Except ε (List UInt8)}

lemma refl (part:Except ε (List UInt8)):SameSize part part:=fun bytes h=>⟨bytes,h,rfl⟩

lemma trans {last:Except ε (List UInt8)} (h:SameSize part other)
  (h':SameSize other last):SameSize part last:=by
 intro bytes hbytes
 obtain ⟨middle,hmiddle,hlength⟩:=h bytes hbytes
 obtain ⟨final,hfinal,hlength'⟩:=h' middle hmiddle
 exact ⟨final,hfinal,hlength'.trans hlength⟩

lemma cons (hpart:SameSize part other) (hparts:SameSize (writeAll parts) (writeAll others)):
  SameSize (writeAll (part::parts)) (writeAll (other::others)):=by
 intro bytes h
 obtain ⟨first,rest,hfirst,hrest,rfl⟩:=writeAll_cons_eq_ok.mp h
 obtain ⟨first',hfirst',hfirstLength⟩:=hpart first hfirst
 obtain ⟨rest',hrest',hrestLength⟩:=hparts rest hrest
 refine ⟨first'++rest',writeAll_cons_eq_ok.mpr ⟨first',rest',hfirst',hrest',rfl⟩,?_⟩
 rw [List.length_append,List.length_append,hfirstLength,hrestLength]

lemma append (same:List (Except ε (List UInt8))) (h:SameSize (writeAll parts) (writeAll others)):
  SameSize (writeAll (same++parts)) (writeAll (same++others)):=by
 induction same with
 | nil=>exact h
 | cons part same ih=>exact cons (refl part) ih

lemma perm (h:parts.Perm others):SameSize (writeAll parts) (writeAll others):=by
 induction h with
 | nil=>exact refl _
 | cons part _ ih=>exact cons (refl part) ih
 | swap first second rest=>
  intro bytes h
  obtain ⟨b,_,hsecond,hothers,rfl⟩:=writeAll_cons_eq_ok.mp h
  obtain ⟨a,c,hfirst,hrest,rfl⟩:=writeAll_cons_eq_ok.mp hothers
  refine ⟨a++(b++c),writeAll_cons_eq_ok.mpr ⟨a,b++c,hfirst,
   writeAll_cons_eq_ok.mpr ⟨b,c,hsecond,hrest,rfl⟩,rfl⟩,?_⟩
  simp only [List.length_append]
  omega
 | trans _ _ ih ih'=>exact ih.trans ih'

lemma map {write:α → Except ε (List UInt8)} {f:α → α}
  (h:∀a,SameSize (write a) (write (f a))) (values:List α):
  SameSize (writeAll (values.map write)) (writeAll ((values.map f).map write)):=by
 induction values with
 | nil=>exact refl _
 | cons a values ih=>exact cons (h a) ih

end SameSize

variable {read:Reader ε α} {result:α → Except ε β}

lemma readMany_accept_run_eq_ok {n:ℕ} {data rest:List UInt8} {values:List β}:
  readMany (read >>= fun a=>accept (result a)) n data=.ok (values,rest) ↔
   ∃raw,readMany read n data=.ok (raw,rest) ∧
    List.Forall₂ (fun a b=>result a=.ok b) raw values:=by
 induction n generalizing data rest values with
 | zero=>
  simp only [readMany,pure_run_eq_ok]
  constructor
  · rintro ⟨rfl,rfl⟩
    exact ⟨[],⟨rfl,rfl⟩,.nil⟩
  · rintro ⟨_,⟨rfl,rfl⟩,hall⟩
    cases hall
    exact ⟨rfl,rfl⟩
 | succ n ih=>
  simp only [readMany,bind_run_eq_ok,accept_run_eq_ok,pure_run_eq_ok,ih]
  constructor
  · rintro ⟨b,_,⟨a,_,ha,hb,rfl⟩,_,_,⟨raw,hraw,hall⟩,rfl,rfl⟩
    exact ⟨a::raw,⟨a,_,ha,raw,_,hraw,rfl,rfl⟩,.cons hb hall⟩
  · rintro ⟨_,⟨a,_,ha,raw,_,hraw,rfl,rfl⟩,hall⟩
    cases hall with
    | @cons _ b _ values hb hall=>
     exact ⟨b,_,⟨a,_,ha,hb,rfl⟩,values,_,⟨raw,hraw,hall⟩,rfl,rfl⟩

lemma readCounted_accept_run_eq_ok {readCount:Reader ε ℕ} {data rest:List UInt8} {values:List β}:
  readCounted readCount (read >>= fun a=>accept (result a)) data=.ok (values,rest) ↔
   ∃raw,readCounted readCount read data=.ok (raw,rest) ∧
    List.Forall₂ (fun a b=>result a=.ok b) raw values:=by
 simp only [readCounted,bind_run_eq_ok,readMany_accept_run_eq_ok]
 constructor
 · rintro ⟨count,_,hcount,raw,hraw,hall⟩
   exact ⟨raw,⟨count,_,hcount,hraw⟩,hall⟩
 · rintro ⟨raw,⟨count,_,hcount,hraw⟩,hall⟩
   exact ⟨count,_,hcount,raw,hraw,hall⟩

lemma find?_code_eq_some {all:List α} {code:α → ℕ}
  (hself:∀a,all.find? (fun b=>code b=code a)=some a) {value:ℕ} {a:α}:
  all.find? (fun b=>code b=value)=some a ↔ code a=value:=by
 constructor
 · intro h
   have hfound:=List.find?_some h
   exact of_decide_eq_true hfound
 · rintro rfl
   exact hself a

def Codes (p:α → Prop) (write:α → Except ε (List UInt8)) (read:Reader ε α):Prop:=
 ∀data a rest,read data=.ok (a,rest) ↔
  p a ∧ ∃bytes,write a=.ok bytes ∧ data=bytes++rest

abbrev Inverts (read:Reader ε α) (write:α → Except ε (List UInt8)):Prop:=
 Codes (fun _=>True) write read

namespace Codes

variable {p:β → Prop} {parts:β → List (Except ε (List UInt8))}

variable {q:α → Prop} {write':β → Except ε (List UInt8)}

lemma accepted {result:Except ε β} (h:∀b,p b ↔ result=.ok b):
  Codes p (fun _=>writeAll []) (Codec.accept result):=by
 intro data b rest
 rw [accept_run_eq_ok,h]
 constructor
 · rintro ⟨hresult,rfl⟩
   exact ⟨hresult,[],rfl,rfl⟩
 · rintro ⟨hresult,bytes,hbytes,rfl⟩
   cases hbytes
   exact ⟨hresult,rfl⟩

lemma pure {b:β} (h:∀other,p other ↔ b=other):
  Codes p (fun _=>writeAll []) (pure b:Reader ε β):=by
 have haccept:(Pure.pure b:Reader ε β)=Codec.accept (.ok b):=rfl
 rw [haccept]
 exact accepted fun other=>by rw [h,Except.ok.injEq]

variable {write:α → Except ε (List UInt8)} {next:α → Reader ε β}

lemma bind (component:β → α) (hread:Codes q write read)
  (hq:∀b,p b → q (component b)) (hnext:∀a,(∃bytes,write a=.ok bytes) →
   Codes (fun b=>p b ∧ component b=a) (fun b=>writeAll (parts b)) (next a)):
  Codes p (fun b=>writeAll (write (component b)::parts b)) (read >>= next):=by
 intro data b rest
 rw [bind_run_eq_ok]
 constructor
 · rintro ⟨a,middle,hfirst,hrest⟩
   obtain ⟨-,first,hwrite,rfl⟩:=(hread data a middle).mp hfirst
   obtain ⟨⟨hb,rfl⟩,others,hothers,rfl⟩:=(hnext a ⟨first,hwrite⟩ middle b rest).mp hrest
   refine ⟨hb,first++others,writeAll_cons_eq_ok.mpr ⟨first,others,hwrite,hothers,rfl⟩,?_⟩
   rw [List.append_assoc]
 · rintro ⟨hb,bytes,hwrite,rfl⟩
   obtain ⟨first,others,hfirst,hothers,rfl⟩:=writeAll_cons_eq_ok.mp hwrite
   refine ⟨component b,others++rest,?_,?_⟩
   · exact (hread _ _ _).mpr ⟨hq b hb,first,hfirst,by rw [List.append_assoc]⟩
   · exact (hnext _ ⟨first,hfirst⟩ _ _ _).mpr ⟨⟨hb,rfl⟩,others,hothers,rfl⟩

lemma field (component:β → α) (hread:Inverts read write) (hnext:∀a,(∃bytes,write a=.ok bytes) →
   Codes (fun b=>p b ∧ component b=a) (fun b=>writeAll (parts b)) (next a)):
  Codes p (fun b=>writeAll (write (component b)::parts b)) (read >>= next):=
 bind component hread (fun _ _=>trivial) hnext

lemma refuse {write:β → Except ε (List UInt8)} {condition:Prop} [Decidable condition]
  {error:ε} {next:Unit → Reader ε β} (hp:∀b,p b → ¬condition)
  (hnext:¬condition → Codes p write (next ())):
  Codes p write (Codec.refuse condition error >>= next):=by
 intro data b rest
 rw [refuse_bind_run_eq_ok]
 constructor
 · rintro ⟨hcondition,hrest⟩
   exact (hnext hcondition _ _ _).mp hrest
 · rintro ⟨hb,hbytes⟩
   exact ⟨hp b hb,(hnext (hp b hb) _ _ _).mpr ⟨hb,hbytes⟩⟩

lemma check (condition:β → Prop) [DecidablePred condition] {error:β → ε} {read:Reader ε β}
  (h:Codes (fun b=>p b ∧ ¬condition b) (fun b=>writeAll (parts b)) read):
  Codes p (fun b=>writeAll (Codec.check (condition b) (error b)::parts b)) read:=by
 intro data b rest
 rw [h]
 simp only [writeAll_check_eq_ok]
 constructor
 · rintro ⟨⟨hb,hcondition⟩,bytes,hbytes,hdata⟩
   exact ⟨hb,bytes,⟨hcondition,hbytes⟩,hdata⟩
 · rintro ⟨hb,bytes,⟨hcondition,hbytes⟩,hdata⟩
   exact ⟨⟨hb,hcondition⟩,bytes,hbytes,hdata⟩

lemma accept {write:β → Except ε (List UInt8)} {result:Except ε α} (hp:∀b,p b → ∃a,result=.ok a)
  (hnext:∀a,result=.ok a → Codes p write (next a)):
  Codes p write (Codec.accept result >>= next):=by
 intro data b rest
 rw [bind_run_eq_ok]
 constructor
 · rintro ⟨a,middle,haccept,hrest⟩
   obtain ⟨hresult,rfl⟩:=accept_run_eq_ok.mp haccept
   exact (hnext a hresult _ _ _).mp hrest
 · rintro ⟨hb,hbytes⟩
   obtain ⟨a,hresult⟩:=hp b hb
   exact ⟨a,data,accept_run_eq_ok.mpr ⟨hresult,rfl⟩,
    (hnext a hresult _ _ _).mpr ⟨hb,hbytes⟩⟩

lemma congr {q:β → Prop} {write:β → Except ε (List UInt8)} {read:Reader ε β} (h:Codes p write read)
  (hwrite:∀b bytes,p b ∧ write b=.ok bytes ↔ q b ∧ write' b=.ok bytes):
  Codes q write' read:=by
 intro data b rest
 rw [h]
 constructor
 · rintro ⟨hb,bytes,hbytes,hdata⟩
   obtain ⟨hb',hbytes'⟩:=(hwrite b bytes).mp ⟨hb,hbytes⟩
   exact ⟨hb',bytes,hbytes',hdata⟩
 · rintro ⟨hb,bytes,hbytes,hdata⟩
   obtain ⟨hb',hbytes'⟩:=(hwrite b bytes).mpr ⟨hb,hbytes⟩
   exact ⟨hb',bytes,hbytes',hdata⟩

lemma imp {q:β → Prop} {write:β → Except ε (List UInt8)} {read:Reader ε β}
  (h:Codes p write read) (hpq:∀b,p b ↔ q b):Codes q write read:=by
 intro data b rest
 rw [h,hpq]

lemma restrict {q:β → Prop} {write:β → Except ε (List UInt8)} {read:Reader ε β}
  {next:β → Reader ε β} (h:Codes p write read)
  (hnext:∀a data b rest,next a data=.ok (b,rest) ↔ q a ∧ a=b ∧ data=rest):
  Codes (fun b=>p b ∧ q b) write (read >>= next):=by
 intro data b rest
 rw [bind_run_eq_ok]
 simp only [hnext,h data]
 constructor
 · rintro ⟨_,_,⟨hb,hbytes⟩,hq,rfl,rfl⟩
   exact ⟨⟨hb,hq⟩,hbytes⟩
 · rintro ⟨⟨hb,hq⟩,hbytes⟩
   exact ⟨b,rest,⟨hb,hbytes⟩,hq,rfl,rfl⟩

lemma coded (code:β → α) (h:Codes q write read) (hcode:∀a b,result a=.ok b ↔ code b=a):
  Codes (fun b=>q (code b)) (fun b=>write (code b)) (read >>= fun a=>Codec.accept (result a)):=by
 intro data b rest
 rw [bind_run_eq_ok]
 simp only [accept_run_eq_ok,hcode,h data]
 constructor
 · rintro ⟨_,_,hbytes,rfl,rfl⟩
   exact hbytes
 · intro hbytes
   exact ⟨code b,rest,hbytes,rfl,rfl⟩

lemma map {f:α → β} (h:Codes q write read)
  (hp:∀b,p b ↔ ∃a,q a ∧ f a=b) (hwrite:∀a,write' (f a)=write a):
  Codes p write' (f <$> read):=by
 intro data b rest
 rw [map_run_eq_ok]
 simp only [h data,hp]
 constructor
 · rintro ⟨a,⟨ha,bytes,hbytes,rfl⟩,rfl⟩
   exact ⟨⟨a,ha,rfl⟩,bytes,(hwrite a).trans hbytes,rfl⟩
 · rintro ⟨⟨a,ha,rfl⟩,bytes,hbytes,rfl⟩
   exact ⟨a,⟨ha,bytes,(hwrite a).symm.trans hbytes,rfl⟩,rfl⟩

lemma many (h:Codes q write read) (n:ℕ):Codes (fun values=>values.length=n ∧ ∀a∈values,q a)
   (fun values=>writeAll (values.map write)) (readMany read n):=by
 induction n with
 | zero=>
  intro data values rest
  rw [readMany,pure_run_eq_ok]
  constructor
  · rintro ⟨rfl,rfl⟩
    exact ⟨⟨rfl,fun _ hmem=>absurd hmem List.not_mem_nil⟩,[],rfl,rfl⟩
  · rintro ⟨⟨hlength,-⟩,bytes,hbytes,rfl⟩
    obtain rfl:=List.eq_nil_of_length_eq_zero hlength
    cases hbytes
    exact ⟨rfl,rfl⟩
 | succ n ih=>
  intro data values rest
  rw [readMany,bind_run_eq_ok]
  simp only [bind_run_eq_ok,pure_run_eq_ok]
  constructor
  · rintro ⟨a,middle,hfirst,others,last,hothers,rfl,rfl⟩
    obtain ⟨ha,first,hwrite,rfl⟩:=(h _ _ _).mp hfirst
    obtain ⟨⟨rfl,hall⟩,bytes,hbytes,rfl⟩:=(ih _ _ _).mp hothers
    refine ⟨⟨rfl,List.forall_mem_cons.mpr ⟨ha,hall⟩⟩,first++bytes,?_,?_⟩
    · exact writeAll_cons_eq_ok.mpr ⟨first,bytes,hwrite,hbytes,rfl⟩
    · rw [List.append_assoc]
  · rintro ⟨⟨hlength,hall⟩,bytes,hbytes,rfl⟩
    cases values with
    | nil=>cases hlength
    | cons a others=>
     obtain ⟨ha,hothers⟩:=List.forall_mem_cons.mp hall
     obtain ⟨first,bytes',hfirst,hbytes',rfl⟩:=writeAll_cons_eq_ok.mp hbytes
     refine ⟨a,bytes'++rest,(h _ _ _).mpr ⟨ha,first,hfirst,?_⟩,others,rest,
      (ih _ _ _).mpr ⟨⟨Nat.succ.inj hlength,hothers⟩,bytes',hbytes',rfl⟩,rfl,rfl⟩
     rw [List.append_assoc]

lemma counted {writeCount:ℕ → Except ε (List UInt8)} {readCount:Reader ε ℕ}
  (hcount:Inverts readCount writeCount) (h:Codes q write read):
  Codes (fun values=>∀a∈values,q a) (writeCounted writeCount write)
   (readCounted readCount read):=by
 refine bind List.length hcount (fun _ _=>trivial) fun n _=>?_
 exact (h.many n).imp fun values=>and_comm

lemma uint {width:ℕ} {writeError:ℕ → ε} (readError:ε):Codes (fun _=>True)
   (fun value=>if 256 ^ width≤value then .error (writeError value)
    else .ok (toBytes width value))
   (readUint width readError):=by
 intro data value rest
 rw [readUint,bind_run_eq_ok]
 simp only [take_run_eq_ok,pure_run_eq_ok]
 constructor
 · rintro ⟨bytes,middle,⟨rfl,rfl⟩,rfl,rfl⟩
   refine ⟨trivial,bytes,?_,rfl⟩
   rw [if_neg (Nat.not_le.mpr (ofBytes_lt bytes)),toBytes_ofBytes]
 · rintro ⟨-,bytes,hbytes,rfl⟩
   split_ifs at hbytes with hlarge
   cases hbytes
   exact ⟨toBytes width value,rest,⟨toBytes_length width value,rfl⟩,
    ofBytes_toBytes width value (Nat.not_le.mp hlarge),rfl⟩

end Codes

end Movie.Codec
