import Movie.ActorPathParser

/-!
# The registry of actors and its path index

`ActorRegistry`: the registered actors by id and the index from remote paths to ids. Each section
under the lock is one step.
-/
namespace Movie.ActorRegistry

open ActorPaths Function Reachability

/-- A reference with the object it is: references of one id can be different objects. -/
structure Ref where
 uid:ℕ
 object:ℕ
 path:List Text
 deriving DecidableEq

structure Registry where
 actors:List Ref:=[]
 paths:Text → Option ℕ:=fun _=>none
 created:ℕ:=0

inductive Refusal
 | capacityExceeded | pathInUse

variable (ip:Canonicaliser) (maxActors:ℕ) (system:Text) (incarnation:ℕ)

def resolvable (path:List Text):Bool:=
 ActorPath.isRemoteResolvable ⟨⟨movie,system,none,none⟩,path⟩

def register (r:Registry) (uid:ℕ) (path:List Text):Registry where
 actors:=r.actors++[⟨uid,r.created,path⟩]
 paths:=if resolvable system path then update r.paths (remotePath path) (some uid) else r.paths
 created:=r.created+1

/-- `spawn`, and `create_root_guardian` with the path of the root, which is never indexed. -/
def spawn (r:Registry) (uid:ℕ) (path:List Text):Except Refusal Registry:=
 if maxActors ≤ r.actors.length then .error .capacityExceeded
 else if resolvable system path ∧ r.paths (remotePath path)≠none then .error .pathInUse
 else .ok (register system r uid path)

def unregister (r:Registry) (ref:Ref):Registry:=
 if ref∈r.actors then
  { r with actors:=r.actors.filter (·.uid≠ref.uid)
           paths:=if r.paths (remotePath ref.path)=some ref.uid then
             update r.paths (remotePath ref.path) none else r.paths }
 else r

def Registry.get (r:Registry) (uid:ℕ):Option Ref:=r.actors.find? (·.uid=uid)

/-- The argument of `get_by_path` and `resolve_actor`. -/
inductive PathArgument
 | object (path:ActorPath)
 | text (value:Text)

def localPath (path:ActorPath):Option Text:=
 if path.isRemoteResolvable ∧ path.address.protocol=movie ∧ path.address.system=system then
  some (remotePath path.elements)
 else none

def canonicalPath : PathArgument → Option Text
 | .object path=>localPath system path
 | .text value=>
  if isRemoteActorPath value then some value
  else (parseActorPath ip value).toOption.bind (localPath system)

def getByPath (r:Registry) (path:PathArgument):Option Ref:=
 (canonicalPath ip system path).bind fun key=>(r.paths key).bind r.get

def resolveIdentity (r:Registry) (identity:ℕ×ℕ):Option Ref:=
 if identity.1=incarnation then r.get identity.2 else none

def resolveActor (r:Registry) (identity:ℕ×ℕ) (path:PathArgument):Option Ref:=
 (resolveIdentity incarnation r identity).filter fun ref=>getByPath ip system r path=some ref

inductive Event
 | spawn (uid:ℕ) (path:List Text)
 | unregister (ref:Ref)
 | clear

/-- `_new_ref` draws ids until one is not registered; a start that fails ends in `unregister`. -/
def registry : System Registry Event where
 init r:=r={}
 step r event t:=match event with
  | .spawn uid path=>r.get uid=none ∧ t=((spawn maxActors system r uid path).toOption.getD r)
  | .unregister ref=>t=unregister r ref
  | .clear=>t={ created:=r.created }

structure Indexed (r:Registry):Prop where
 uids:(r.actors.map (·.uid)).Nodup
 index:∀key uid,r.paths key=some uid ↔
  ∃ref∈r.actors,ref.uid=uid ∧ resolvable system ref.path=true ∧ remotePath ref.path=key
 capacity:r.actors.length ≤ maxActors

variable {maxActors system incarnation} {r t:Registry}

lemma Registry.get_eq_some (h:(r.actors.map (·.uid)).Nodup) {uid:ℕ} {ref:Ref}:
  r.get uid=some ref ↔ ref∈r.actors ∧ ref.uid=uid:=by
 constructor
 · intro hget
   exact ⟨List.mem_of_find?_eq_some hget,by simpa using List.find?_some hget⟩
 · rintro ⟨hmem,rfl⟩
   cases hget:r.get ref.uid with
   | none=>exact absurd (List.find?_eq_none.mp hget ref hmem) (by simp)
   | some found=>
    have huid:found.uid=ref.uid:=by simpa using List.find?_some hget
    rw [List.inj_on_of_nodup_map h (List.mem_of_find?_eq_some hget) hmem huid]

lemma Indexed.register (h:Indexed maxActors system r) {uid:ℕ} {path:List Text}
  (hfresh:r.get uid=none) (hroom:r.actors.length < maxActors)
  (hfree:¬(resolvable system path ∧ r.paths (remotePath path)≠none)):
  Indexed maxActors system (register system r uid path):=by
 have hunused:∀ref∈r.actors,ref.uid≠uid:=by simpa using List.find?_eq_none.mp hfresh
 refine ⟨?_,fun key other=>?_,by simpa [ActorRegistry.register]⟩
 · simpa [ActorRegistry.register,List.nodup_append,h.uids] using hunused
 · simp only [ActorRegistry.register,List.mem_append,List.mem_singleton,or_and_right,exists_or,
    exists_eq_left,←h.index key other]
   by_cases hpath:resolvable system path=true
   · rw [if_pos hpath,update_apply]
     split_ifs with hkey
     · subst hkey
       grind
     · grind
   · rw [if_neg hpath]
     simp [hpath]

lemma Indexed.unregister (h:Indexed maxActors system r) (ref:Ref):
  Indexed maxActors system (unregister r ref):=by
 unfold ActorRegistry.unregister
 by_cases hmem:ref∈r.actors
 · rw [if_pos hmem]
   have hsame:∀other∈r.actors,other.uid=ref.uid → other=ref:=fun other hother=>
    List.inj_on_of_nodup_map h.uids hother hmem
   refine ⟨h.uids.sublist (List.filter_sublist.map _),fun key uid=>?_,
    (List.length_filter_le _ _).trans h.capacity⟩
   have hindex:=h.index key uid
   have hown:=h.index (remotePath ref.path)
   simp only [List.mem_filter,decide_eq_true_eq]
   split_ifs with hpath
   · rw [update_apply]
     split_ifs with hkey
     · grind
     · grind
   · grind
 · rwa [if_neg hmem]

lemma indexed (h:(registry maxActors system).Reachable r):Indexed maxActors system r:=by
 refine h.invariant (I := Indexed maxActors system) ?_ fun r event t _ h ht=>?_
 · rintro r rfl
   exact ⟨.nil,by simp,by simp⟩
 · cases event with
   | spawn uid path=>
    obtain ⟨hfresh,rfl⟩:=ht
    unfold spawn
    split_ifs with hfull hused
    · exact h
    · exact h
    · exact h.register hfresh (Nat.lt_of_not_le hfull) hused
   | unregister ref=>
    subst ht
    exact h.unregister ref
   | clear=>
    subst ht
    exact ⟨.nil,by simp,by simp⟩

/-- The object is a path of this actor system with the elements. -/
def Located (system:Text) (elements:List Text) (path:ActorPath):Prop:=
 path.address.protocol=movie ∧ path.address.system=system ∧ path.elements=elements

/-- The argument is such an object, a locator that is read as one, or the path from the root. -/
def Names (ip:Canonicaliser) (system:Text) (elements:List Text):PathArgument → Prop
 | .object path=>Located system elements path
 | .text value=>value=remotePath elements ∨
  ∃path,parseActorPath ip value=.ok path ∧ Located system elements path

lemma localPath_eq_some {elements:List Text} (h:resolvable system elements=true) {path:ActorPath}:
  localPath system path=some (remotePath elements) ↔ Located system elements path:=by
 have hlegal:=resolvable_iff.mp h
 unfold localPath
 constructor
 · intro hpath
   split_ifs at hpath with hlocal
   have hown:=(resolvable_iff.mp hlocal.1).2
   exact ⟨hlocal.2.1,hlocal.2.2,
    remotePath_injective hown.1 hown.2 hlegal.2.2 (Option.some.inj hpath)⟩
 · rintro ⟨hprotocol,rfl,rfl⟩
   rw [if_pos ⟨resolvable_iff.mpr ⟨⟨hprotocol,hlegal.1.2⟩,hlegal.2⟩,hprotocol,rfl⟩]

lemma not_remoteActorPath {value:Text} {path:ActorPath} (h:parseActorPath ip value=.ok path):
  ¬isRemoteActorPath value=true:=by
 obtain ⟨remainder,-,-,hvalue,-⟩:=parseActorPath_eq_ok ip h
 rw [isRemoteActorPath_iff,partition_eq_some hvalue]
 simp

lemma canonicalPath_eq_some {elements:List Text} (h:resolvable system elements=true)
  {path:PathArgument}:canonicalPath ip system path=some (remotePath elements) ↔
   Names ip system elements path:=by
 cases path with
 | object path=>exact localPath_eq_some h
 | text value=>
  simp only [canonicalPath,Names]
  split_ifs with hbare
  · rw [Option.some.injEq]
    refine (or_iff_left ?_).symm
    rintro ⟨path,hparse,-⟩
    exact not_remoteActorPath ip hparse hbare
  · have hne:value≠remotePath elements:=by
     rintro rfl
     have hlegal:=(resolvable_iff.mp h).2
     exact hbare (isRemoteActorPath_remotePath hlegal.1 hlegal.2)
    rw [or_iff_right hne,Option.bind_eq_some_iff]
    simp only [localPath_eq_some h]
    cases parseActorPath ip value <;> simp [Except.toOption]

lemma Indexed.getByPath_eq_some (h:Indexed maxActors system r) {path:PathArgument} {ref:Ref}:
  getByPath ip system r path=some ref ↔ ref∈r.actors ∧ resolvable system ref.path=true ∧
   Names ip system ref.path path:=by
 simp only [getByPath,Option.bind_eq_some_iff,h.index,Registry.get_eq_some h.uids]
 constructor
 · rintro ⟨key,hkey,uid,⟨other,hother,rfl,hresolvable,rfl⟩,hmem,huid⟩
   obtain rfl:=List.inj_on_of_nodup_map h.uids hmem hother huid
   exact ⟨hmem,hresolvable,(canonicalPath_eq_some ip hresolvable).mp hkey⟩
 · rintro ⟨hmem,hresolvable,hnames⟩
   exact ⟨_,(canonicalPath_eq_some ip hresolvable).mpr hnames,_,⟨ref,hmem,rfl,hresolvable,rfl⟩,
    hmem,rfl⟩

theorem registry_consistent (ip:Canonicaliser) (maxActors:ℕ) (system:Text) (incarnation:ℕ)
  (r:Registry) (h:(registry maxActors system).Reachable r):
  (∀key uid,r.paths key=some uid ↔
   ∃ref∈r.actors,ref.uid=uid ∧ resolvable system ref.path=true ∧ remotePath ref.path=key) ∧
  (∀first∈r.actors,∀second∈r.actors,resolvable system first.path=true →
   first.path=second.path → first=second) ∧
  r.actors.length ≤ maxActors ∧
  ∀identity path ref,resolveActor ip system incarnation r identity path=some ref ↔
   (ref∈r.actors ∧ identity=(incarnation,ref.uid)) ∧
    resolvable system ref.path=true ∧ Names ip system ref.path path:=by
 have hindexed:=indexed h
 refine ⟨hindexed.index,fun first hfirst second hsecond hresolvable hpath=>?_,
  hindexed.capacity,fun identity path ref=>?_⟩
 · have hone:=(hindexed.index _ _).mpr ⟨first,hfirst,rfl,hresolvable,rfl⟩
   have htwo:=(hindexed.index _ _).mpr ⟨second,hsecond,rfl,hpath▸hresolvable,rfl⟩
   rw [hpath,htwo] at hone
   exact List.inj_on_of_nodup_map hindexed.uids hfirst hsecond (Option.some.inj hone).symm
 · unfold resolveActor resolveIdentity
   rw [Option.filter_eq_some_iff,decide_eq_true_eq,hindexed.getByPath_eq_some]
   split_ifs with hincarnation
   · rw [Registry.get_eq_some hindexed.uids]
     grind
   · grind

/-- A spawned actor is found by the path from the root and by its locator. -/
theorem registry_consistent_child : ∃r ref,(registry 2 ['s']).Reachable r ∧ ref∈r.actors ∧
  ref.path=[['a']] ∧ resolveActor noIpv6 ['s'] 5 r (5,8) (.text ['/','a'])=some ref ∧
  resolveActor noIpv6 ['s'] 5 r (5,8) (.text (movie++[':','/','/','s','/','a']))=some ref:=by
 have hroot:(registry 2 ['s']).Reachable _:=
  (System.Reachable.start rfl).next (.spawn 7 []) ⟨rfl,rfl⟩
 have hchild:=hroot.next (.spawn 8 [['a']]) ⟨rfl,rfl⟩
 have hresolve:=(registry_consistent noIpv6 2 ['s'] 5 _ hchild).2.2.2
 have hmem:(⟨8,1,[['a']]⟩:Ref)∈[⟨7,0,[]⟩,⟨8,1,[['a']]⟩]:=by simp
 exact ⟨_,_,hchild,hmem,rfl,(hresolve _ _ _).mpr ⟨⟨hmem,rfl⟩,by decide,.inl rfl⟩,
  (hresolve _ _ _).mpr ⟨⟨hmem,rfl⟩,by decide,.inr ⟨_,rfl,rfl,rfl,rfl⟩⟩⟩

theorem root_unresolved : ∃r ref,(registry 1 ['s']).Reachable r ∧ ref∈r.actors ∧
  resolveActor noIpv6 ['s'] 0 r (0,ref.uid)
   (.object ⟨⟨movie,['s'],none,none⟩,ref.path⟩)=none:=
 ⟨⟨[⟨7,0,[]⟩],fun _=>none,1⟩,⟨7,0,[]⟩,
  (System.Reachable.start rfl).next (.spawn 7 []) ⟨rfl,rfl⟩,by simp,rfl⟩

end Movie.ActorRegistry
