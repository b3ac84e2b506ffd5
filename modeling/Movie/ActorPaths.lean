import Mathlib
import Movie.ActorTree
import Movie.WireCodec

/-!
# Actor paths as texts

`actor/path.py`: the elements of a path, its text and the test for a path that can be resolved from
outside.
-/
namespace Movie.ActorPaths

open DurableModel Wire WireFrames WireCodec

abbrev Text:=List Char

def isRemoteName (name:Text):Bool:=ActorTree.isRemoteName (String.ofList name)

def remotePath (elements:List Text):Text:= '/'::['/'].intercalate elements

def isRemoteActorPath (value:Text):Bool:=
 decide (value.head?=some '/' ∧ value.take 2 ≠ ['/','/']) &&
  ((value.drop 1).splitOn '/').all isRemoteName

abbrev movie : Text:=['m','o','v','i','e']

structure Address where
 protocol:Text
 system:Text
 host:Option Text
 port:Option ℕ
 deriving DecidableEq

/-- A path built by `child()` from a root path: its address and its elements after the root. -/
structure ActorPath where
 address:Address
 elements:List Text
 deriving DecidableEq

def ActorPath.isRemoteResolvable (path:ActorPath):Bool:=
 decide (path.address.protocol=movie) && isRemoteName path.address.system &&
  (!path.elements.isEmpty && path.elements.all isRemoteName)

lemma isRemoteName_eq_segmentOk (name:Text):isRemoteName name=segmentOk name:=by
 rw [isRemoteName,ActorTree.isRemoteName,segmentOk,String.toList_ofList,String.length_ofList]
 congr 2
 funext character
 simp only [unreserved,Char.isAlphanum,Char.isAlpha,Char.isUpper,Char.isLower,Char.isDigit,
  List.contains_cons,List.contains_nil,Bool.or_false,Char.le_def,UInt32.le_iff_toNat_le,ge_iff_le,
  Bool.decide_and,Bool.or_assoc]

def delimiters : Text:=['/','#','?','%','@',':','[',']']

lemma unreserved_ascii {character:Char} (h:unreserved character=true):
  character.toNat<128 ∧ character∉delimiters:=by
 simp only [unreserved,Char.isAlphanum,Char.isAlpha,Char.isUpper,Char.isLower,Char.isDigit,
  ge_iff_le,UInt32.le_iff_toNat_le,Bool.or_eq_true,Bool.and_eq_true,decide_eq_true_eq,
  List.contains_eq_mem,List.mem_cons,List.not_mem_nil,or_false] at h
 constructor
 · rcases h with ((h | h) | h) | rfl|rfl|rfl|rfl
   · exact Nat.lt_of_le_of_lt h.2 (by decide)
   · exact Nat.lt_of_le_of_lt h.2 (by decide)
   · exact Nat.lt_of_le_of_lt h.2 (by decide)
   all_goals decide
 · intro hmem
   simp only [delimiters,List.mem_cons,List.not_mem_nil,or_false] at hmem
   rcases hmem with rfl|rfl|rfl|rfl|rfl|rfl|rfl|rfl
   all_goals
    revert h
    decide

lemma isRemoteName_ascii {name:Text} (h:isRemoteName name=true):
  ∀character∈name,character.toNat<128 ∧ character∉delimiters:=by
 rw [isRemoteName_eq_segmentOk,segmentOk,Bool.and_eq_true,List.all_eq_true] at h
 exact fun character hmem=>unreserved_ascii (h.2 _ hmem)

lemma slash_not_mem {name:Text} (h:isRemoteName name=true): '/'∉name:=
 fun hmem=>(isRemoteName_ascii h _ hmem).2 (by decide)

lemma isRemoteActorPath_iff {value:Text}:isRemoteActorPath value=true ↔
  (value.head?=some '/' ∧ value.take 2 ≠ ['/','/']) ∧
   ∀element∈(value.drop 1).splitOn '/',isRemoteName element=true:=by
 rw [isRemoteActorPath,Bool.and_eq_true,decide_eq_true_eq,List.all_eq_true]

variable {elements:List Text}

lemma splitOn_remotePath (hne:elements≠[]) (h:∀element∈elements,isRemoteName element=true):
  ((remotePath elements).drop 1).splitOn '/'=elements:=
 List.splitOn_intercalate '/' (fun element hmem=>slash_not_mem (h element hmem)) hne

lemma remotePath_splitOn {value:Text} (h:value.head?=some '/'):
  remotePath ((value.drop 1).splitOn '/')=value:=by
 cases value with
 | nil=>simp at h
 | cons first rest=>
  rw [remotePath,List.intercalate_splitOn,Option.some.inj h]
  rfl

/-- A text is read as a path exactly when legal names render to it. -/
lemma isRemoteActorPath_remotePath (hne:elements≠[])
  (h:∀element∈elements,isRemoteName element=true):
  isRemoteActorPath (remotePath elements)=true:=by
 refine isRemoteActorPath_iff.mpr ⟨⟨rfl,?_⟩,(splitOn_remotePath hne h).symm▸h⟩
 obtain ⟨first,rest,rfl⟩:=List.exists_cons_of_ne_nil hne
 have hfirst:=h first (by simp)
 cases first with
 | nil=>exact absurd hfirst (by decide)
 | cons character name=>
  have hslash:=slash_not_mem hfirst
  intro heq
  have hcharacter:character= '/':=by
   cases rest <;> simpa [remotePath,List.intercalate_cons_cons] using heq
  exact hslash (by simp [hcharacter])

lemma remotePath_injective {first second:List Text} (hfirst:first≠[])
  (hsecond:∀element∈first,isRemoteName element=true) (h:∀element∈second,isRemoteName element=true)
  (heq:remotePath first=remotePath second):first=second:=by
 have hne:second≠[]:=by
  rintro rfl
  have hsplit:=splitOn_remotePath hfirst hsecond
  rw [heq] at hsplit
  exact absurd (hsecond [] (hsplit▸by decide)) (by decide)
 rw [←splitOn_remotePath hfirst hsecond,heq,splitOn_remotePath hne h]

lemma forall_mem_remotePath {p:Char → Prop} (hslash:p '/')
  (h:∀element∈elements,∀character∈element,p character):
  ∀character∈remotePath elements,p character:=by
 induction elements with
 | nil=>simpa [remotePath] using hslash
 | cons first rest ih=>
  have hrest:=ih fun element hmem=>h element (by simp [hmem])
  cases rest with
  | nil=>simpa [remotePath,hslash] using h
  | cons second rest=>
   simp only [remotePath,List.intercalate_cons_cons] at hrest ⊢
   simpa [or_imp,forall_and,hslash] using ⟨h first (by simp),fun _ hmem=>hrest _ (.tail _ hmem)⟩

lemma resolvable_iff {path:ActorPath}:path.isRemoteResolvable=true ↔
  (path.address.protocol=movie ∧ isRemoteName path.address.system=true) ∧
   path.elements≠[] ∧ ∀element∈path.elements,isRemoteName element=true:=by
 simp [ActorPath.isRemoteResolvable]

lemma actorPathOk_iff {value:String}:
  ActorPathOk value ↔ isRemoteActorPath value.toList=true:=by
 rw [ActorPathOk,isRemoteActorPath_iff,not_or,not_not,List.all_eq_true]
 simp only [isRemoteName_eq_segmentOk]
 refine and_congr_right fun _=>⟨And.right,fun h=>⟨fun hmem=>?_,h⟩⟩
 exact absurd (h _ hmem) (by decide)

/-- The wire codec, the text of a path and the path object have one grammar; normalisation
 does not change ASCII text. -/
theorem path_grammar (nfc:String → Bool)
  (hnfc:∀value:String,(∀character∈value.toList,character.toNat<128) → nfc value=true):
  (∀(value:String) (error:String → WireError),
   (∃encoded,actorPath nfc value error=.ok encoded) ↔
    isRemoteActorPath value.toList=true ∧ (utf8 value).length ≤ 65535) ∧
  (∀path:ActorPath,path.isRemoteResolvable=true →
   isRemoteActorPath (remotePath path.elements)=true) ∧
  ∀value:Text,isRemoteActorPath value=true →
   ∃!elements:List Text,(∀element∈elements,isRemoteName element=true) ∧
    remotePath elements=value:=by
 refine ⟨fun value error=>?_,fun path h=>?_,fun value h=>?_⟩
 · simp only [actorPath_eq_ok,actorPathOk_iff,exists_and_left,exists_eq',and_true]
   refine ⟨fun h=>⟨h.2,h.1.2.2⟩,fun h=>⟨⟨hnfc value ?_,?_,h.2⟩,h.1⟩⟩
   · have hpath:=isRemoteActorPath_iff.mp h.1
     rw [←remotePath_splitOn hpath.1.1]
     exact forall_mem_remotePath (by decide) fun element hmem character hin=>
      (isRemoteName_ascii (hpath.2 element hmem) character hin).1
   · intro _ hempty
     have hvalue:value="":=utf8_injective hempty
     exact absurd (hvalue▸h.1) (by decide)
 · have hpath:=resolvable_iff.mp h
   exact isRemoteActorPath_remotePath hpath.2.1 hpath.2.2
 · have hpath:=isRemoteActorPath_iff.mp h
   have hrender:=remotePath_splitOn hpath.1.1
   refine ⟨_,⟨hpath.2,hrender⟩,fun elements helements=>?_⟩
   exact (remotePath_injective (List.splitOn_ne_nil _ _) hpath.2 helements.1
    (hrender.trans helements.2.symm)).symm

theorem path_grammar_ascii :
  isRemoteActorPath (remotePath [['u','s','e','r']])=true:=
 (path_grammar (fun value=>value.toList.all (·.toNat<128)) (by simp)).2.1
  ⟨⟨movie,['s'],none,none⟩,[['u','s','e','r']]⟩ (by decide)

end Movie.ActorPaths
