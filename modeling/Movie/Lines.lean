import Mathlib.Data.List.Basic
import Mathlib.Data.List.Infix

/-!
# Lines that end in CRLF

The first occurrence of a separator in a byte string, and the lines between its CRLFs.
-/
namespace Movie.Lines

def crlf : List UInt8:=[13,10]

def partition (separator:List UInt8):List UInt8 → Option (List UInt8×List UInt8)
 | []=>none
 | byte::rest=>
  if separator <+:byte::rest then some ([],(byte::rest).drop separator.length)
  else (partition separator rest).map fun parts=>(byte::parts.1,parts.2)

def split : List UInt8 → List (List UInt8)
 | []=>[[]]
 | [byte]=>[[byte]]
 | first::second::rest=>
  if first=13 ∧ second=10 then []::split rest
  else (split (second::rest)).modifyHead (first::·)

def Clean (line:List UInt8):Prop:=line≠[] ∧ 13∉line

lemma partition_append (separator front rest:List UInt8) (h:13∉front):
  partition (13::separator) (front++rest) =
   (partition (13::separator) rest).map fun parts=>(front++parts.1,parts.2):=by
 induction front with
 | nil=>simp
 | cons byte front ih=>
  simp only [List.mem_cons,not_or] at h
  simp only [List.cons_append,partition,List.cons_prefix_cons,h.1,false_and,if_false,
   ih h.2,Option.map_map]
  rfl

lemma split_append (front rest:List UInt8) (h:13∉front):
  split (front++(crlf++rest))=front::split rest:=by
 induction front with
 | nil=>simp [split,crlf]
 | cons byte front ih=>
  simp only [List.mem_cons,not_or] at h
  have hbyte:byte≠13:=Ne.symm h.1
  cases front with
  | nil=>simp_all [split,crlf]
  | cons second front=>simp_all [split]

lemma split_line (line:List UInt8) (h:13∉line):split line=[line]:=by
 induction line with
 | nil=>simp [split]
 | cons byte line ih=>
  simp only [List.mem_cons,not_or] at h
  have hbyte:byte≠13:=Ne.symm h.1
  cases line with
  | nil=>simp [split]
  | cons second line=>simp_all [split]

lemma split_intercalate (first:List UInt8) (lines:List (List UInt8)) (hfirst:Clean first)
  (hlines:∀line∈lines,Clean line):
  split (crlf.intercalate (first::lines))=first::lines:=by
 induction lines generalizing first with
 | nil=>simpa using split_line first hfirst.2
 | cons second lines ih=>
  rw [List.intercalate_cons_cons,List.append_assoc,split_append _ _ hfirst.2]
  rw [ih second (hlines second (by simp)) fun line hmem=>hlines line (by simp [hmem])]

lemma partition_lines (first:List UInt8) (lines:List (List UInt8)) (payload:List UInt8)
  (hfirst:Clean first) (hlines:∀line∈lines,Clean line):partition (crlf++crlf)
   (first++(crlf++((lines.map (·++crlf)).flatten++(crlf++payload)))) =
   some (crlf.intercalate (first::lines),payload):=by
 induction lines generalizing first with
 | nil=>
  have hempty:=partition_append [10,13,10] first
   (crlf++(crlf++payload)) hfirst.2
  simp_all [partition,crlf]
 | cons second lines ih=>
  have hsecond:=hlines second (by simp)
  have hrest:=ih second hsecond fun line hmem=>hlines line (by simp [hmem])
  obtain ⟨byte,tail,rfl⟩:=List.exists_cons_of_ne_nil hsecond.1
  have hbyte:13≠byte:=fun heq=>hsecond.2 (by simp [heq])
  have hskip:=partition_append [10,13,10] first
   (crlf++((byte::tail)++(crlf++((lines.map (·++crlf)).flatten ++
    (crlf++payload))))) hfirst.2
  simp_all [partition,crlf,List.intercalate_cons_cons]

end Movie.Lines
