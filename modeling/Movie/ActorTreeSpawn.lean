import Movie.ActorTreeStop

/-!
# Spawning is all or nothing, unless a path is taken

`ActorRegistry.spawn` attaches the new actor before it looks the path up. An actor of the same name
that finishes its stop may still be in the index; the spawn then raises an error and leaves the new
actor in its parent's map.
-/
namespace Movie.ActorTree

open Function
open ActorContext (ActorState)
open Reachability

variable {t t':Tree} {actor parent maxActors:ℕ} {node:Node}

namespace Tree

structure Listed (t:Tree):Prop where
 listed:∀parent,∀child∈(t.nodes parent).children,
  child∈t.actors ∨ t.spawner=.registering child ∨ child∈t.raised
 left:∀child,(t.nodes child).Left → ∀parent,child∉(t.nodes parent).children
 parents:∀parent,∀child∈(t.nodes parent).children,parent∈t.actors
 paths:∀path actor,t.paths path=some actor →
  actor∈t.actors ∧ (t.nodes actor).path=path

lemma Listed.setNode (h:t.Listed) (hchildren:∀child∈node.children,child∈(t.nodes actor).children)
  (hpath:actor∈t.actors → node.path=(t.nodes actor).path)
  (hleft:node.Left → ∀parent,actor∉(t.nodes parent).children):
  (t.setNode actor node).Listed:=by
 have hshrinks:=forall_setNode (t := t) (P := fun other node=>
  ∀child∈node.children,child∈(t.nodes other).children) hchildren fun _ _ _ h=>h
 exact {
  listed:=fun parent child hchild=>h.listed parent child (hshrinks parent child hchild)
  left:=fun child hgone parent hchild=>by
   refine forall_setNode (P := fun other node=>node.Left → other∉(t.nodes parent).children)
    (fun h=>hleft h parent) (fun other _ h'=>h.left other h' parent) child hgone ?_
   exact hshrinks parent child hchild
  parents:=fun parent child hchild=>h.parents parent child (hshrinks parent child hchild)
  paths:=fun path other hother=>by
   obtain ⟨hmem,hsame⟩:=h.paths path other hother
   refine ⟨hmem,(forall_setNode (P := fun other node=>other∈t.actors →
    node.path=(t.nodes other).path) hpath (fun _ _ _=>rfl) other hmem).trans hsame⟩ }

lemma Listed.setSpawner {count:ℕ} {spawner:Spawner} {raised:List ℕ}
  (h:t.Listed) (hraised:∀actor∈t.raised,actor∈raised)
  (hspawner:∀actor,t.spawner=.registering actor → actor∈raised):
  { t with count:=count,spawner:=spawner,raised:=raised }.Listed where
 listed parent child hchild:=(h.listed parent child hchild).imp_right fun h=>
  Or.inr (h.elim (hspawner child) (hraised child))
 left:=h.left
 parents:=h.parents
 paths:=h.paths

lemma Listed.tellSystem {target:ℕ} {message:SystemMessage} (h:t.Listed):
  (t.tellSystem target message).Listed:=
 h.setNode (fun _ h=>h) (fun _=>rfl) (h.left target)

lemma Listed.act {message:Option (ℕ×SystemMessage)}
  (hlisted:t.Listed) (h:(t.nodes actor).Changes actor node message):
  (t.act actor (node,message)).Listed:=by
 have hnode:(t.setNode actor node).Listed:=
  hlisted.setNode (fun child hchild=>((h.children child).mp hchild).1) (fun _=>h.path)
   fun hgone=>hlisted.left actor (h.left hgone)
 cases message with
 | none=>exact hnode
 | some sent=>exact hnode.tellSystem

lemma Listed.miss (hlisted:t.Listed) (hinv:t.Inv)
  (hparent:∀parent,(t.nodes actor).parent=some parent → parent∉t.actors):
  (t.modify actor fun node=>{ node with point:=.notifying }).Listed:=
 hlisted.setNode (fun _ h=>h) (fun _=>rfl) fun _ parent hchild=>
  hparent parent (hinv.link parent actor hchild) (hlisted.parents parent actor hchild)

lemma Listed.find (hlisted:t.Listed) (hinv:t.Inv) (hpoint:(t.nodes actor).point=.locating):
  (t.modify actor fun node=>{ node with point:=.detaching }).Listed:=by
 have hstopped:(t.nodes actor).Stopped 1 false:=(hinv.sound actor).at_point hpoint
 exact hlisted.setNode (fun _ h=>h) (fun _=>rfl) fun h=>by
  simp [Node.Left,hstopped.2.2] at h

lemma Listed.detach (hlisted:t.Listed) (hinv:t.Inv) (hparent:(t.nodes actor).parent=some parent):
  ((t.modify parent fun node=>node.removeChild actor).modify actor fun node=>
   { node with point:=.notifying }).Listed:=by
 have hremoved:(t.modify parent fun node=>node.removeChild actor).Listed:=
  hlisted.setNode (fun _ h=>(List.mem_filter.mp h).1) (fun _=>rfl) (hlisted.left parent)
 refine hremoved.setNode (fun _ h=>h) (fun _=>rfl) fun _=>?_
 refine forall_setNode (P := fun _ node=>actor∉node.children) ?_ fun other hother hchild=>?_
 · simp [Node.removeChild]
 · exact hother (Option.some.inj ((hinv.link other actor hchild).symm.trans hparent))

lemma unregister_paths {actor other:ℕ} {path:List String}
  (h:(t.unregister actor).paths path=some other):t.paths path=some other ∧
   (t.paths (t.nodes actor).path=some actor → path≠(t.nodes actor).path):=by
 simp only [unregister] at h
 split at h
 · rename_i hown
   by_cases hpath:path=(t.nodes actor).path
   · rw [hpath,update_self] at h
     cases h
   · rw [update_of_ne hpath] at h
     exact ⟨h,fun _=>hpath⟩
 · rename_i hown
   exact ⟨h,fun h'=>absurd h' hown⟩

lemma Listed.finish (hlisted:t.Listed) (hinv:t.Inv) (hpoint:(t.nodes actor).point=.unregistering):
  ((t.unregister actor).modify actor fun node=>{ node with point:=.finishing }).Listed:=by
 have hstopped:(t.nodes actor).Stopped 1 false:=(hinv.sound actor).at_point hpoint
 have hleft:(t.nodes actor).Left:=Or.inr (Or.inr (Or.inl hpoint))
 have hunregistered:(t.unregister actor).Listed:={
  listed:=fun parent child hchild=>by
   have hne:child≠actor:=fun h=>hlisted.left actor hleft parent (h▸hchild)
   exact (hlisted.listed parent child hchild).imp_left (Finset.mem_erase_of_ne_of_mem hne)
  left:=hlisted.left
  parents:=fun parent child hchild=>by
   refine Finset.mem_erase_of_ne_of_mem (fun h=>?_) (hlisted.parents parent child hchild)
   have hnone:(t.nodes parent).children=[]:=hinv.empty parent (h▸hstopped.1)
   rw [show ((t.unregister actor).nodes parent).children=[] from hnone] at hchild
   cases hchild
  paths:=fun path other hother=>by
   obtain ⟨hbefore,hkept⟩:=unregister_paths hother
   obtain ⟨hmem,hpath⟩:=hlisted.paths path other hbefore
   refine ⟨Finset.mem_erase_of_ne_of_mem (fun h=>?_) hmem,hpath⟩
   subst h
   exact hkept (hpath▸hbefore) hpath.symm }
 exact hunregistered.setNode (fun _ h=>h) (fun _=>rfl) fun _=>hlisted.left actor hleft

lemma Listed.attachChild (hlisted:t.Listed) (hinv:t.Inv)
  (hspawner:t.spawner=.attaching actor parent)
  (hstate:(t.nodes parent).state≠.stopping ∧ (t.nodes parent).state≠.stopped):
  { t.attachChild actor parent with spawner:=.registering actor }.Listed:=by
 have hspawning:=hinv.spawning
 rw [hspawner] at hspawning
 obtain ⟨-,hknown,-,hactors⟩:=hspawning
 have hmem:parent∈t.actors:=hknown.resolve_right hstate.2
 have hne:parent≠actor:=fun h=>hactors (h▸hmem)
 have hembryo:=hinv.unborn actor (Or.inr (Or.inl (by rw [hspawner]; rfl)))
 have hchildren:=forall_attachChild (t := t) (P := fun other node=>∀child∈node.children,
  child∈(t.nodes other).children ∨ (child=actor ∧ other=parent)) hne
  (fun _ h=>Or.inl h)
  (fun child h=>(List.mem_append.mp h).imp_right fun h=>⟨List.mem_singleton.mp h,rfl⟩)
  fun _ _ _ _ h=>Or.inl h
 have hpaths:=forall_attachChild (t := t) (P := fun other node=>
  node.path=(t.nodes other).path) hne rfl rfl fun _ _ _=>rfl
 have hleft:=forall_attachChild (t := t) (P := fun other node=>
  node.Left → (t.nodes other).Left) hne (fun h=>h) (fun h=>h) fun _ _ _ h=>h
 exact {
  listed:=fun other child hchild=>by
   rcases hchildren other child hchild with hold|⟨rfl,-⟩
   · refine (hlisted.listed other child hold).imp_right (Or.imp_left fun h=>?_)
     rw [hspawner] at h
     cases h
   · exact Or.inr (Or.inl rfl)
  left:=fun child hgone other hchild=>by
   rcases hchildren other child hchild with hold|⟨rfl,-⟩
   · exact hlisted.left child (hleft child hgone) other hold
   · exact hembryo.live.1 ((hinv.sound child).stopped_of_left (hleft child hgone))
  parents:=fun other child hchild=>by
   rcases hchildren other child hchild with hold|⟨-,rfl⟩
   · exact hlisted.parents other child hold
   · exact hmem
  paths:=fun path other h=>
   ⟨(hlisted.paths path other h).1,(hpaths other).trans (hlisted.paths path other h).2⟩ }

lemma Listed.register (hlisted:t.Listed) (hspawner:t.spawner=.registering actor):
  { t.register actor with spawner:=.starting actor }.Listed where
 listed parent child hchild:=by
  rcases hlisted.listed parent child hchild with h|h|h
  · exact Or.inl (Finset.mem_insert_of_mem h)
  · rw [hspawner] at h
    cases h
    exact Or.inl (Finset.mem_insert_self actor t.actors)
  · exact Or.inr (Or.inr h)
 left:=hlisted.left
 parents parent child hchild:=Finset.mem_insert_of_mem (hlisted.parents parent child hchild)
 paths path other hother:=by
  have hold (h:t.paths path=some other):=hlisted.paths path other h
  simp only [Tree.register] at hother
  split at hother
  · by_cases hpath:path=(t.nodes actor).path
    · rw [hpath,update_self] at hother
      cases hother
      exact ⟨Finset.mem_insert_self _ t.actors,hpath.symm⟩
    · rw [update_of_ne hpath] at hother
      exact ⟨Finset.mem_insert_of_mem (hold hother).1,(hold hother).2⟩
  · exact ⟨Finset.mem_insert_of_mem (hold hother).1,(hold hother).2⟩

lemma Listed.prepare {spawner:Spawner}
  (hlisted:t.Listed) (hspawner:∀other,t.spawner≠.registering other)
  (hchildren:node.children=(t.nodes actor).children)
  (hpath:node.path=(t.nodes actor).path) (hleft:node.Left → (t.nodes actor).Left):
  { t.setNode actor node with spawner:=spawner }.Listed:=by
 have hnode:(t.setNode actor node).Listed:=
  hlisted.setNode (fun _ h=>hchildren▸h) (fun _=>hpath) fun h=>
   hlisted.left actor (hleft h)
 exact hnode.setSpawner (fun _ h=>h) fun other h=>absurd h (hspawner other)

lemma Listed.move (hlisted:t.Listed) (hinv:t.Inv) (h:t.Move t'):t'.Listed:=by
 cases h with
 | thread h=>exact hlisted.act h
 | message h=>exact hlisted.tellSystem
 | misses _ _ hparent=>exact hlisted.miss hinv hparent
 | finds hpoint _=>exact hlisted.find hinv hpoint
 | detaches _ hparent=>exact hlisted.detach hinv hparent
 | unregisters hpoint _=>exact hlisted.finish hinv hpoint
 | turns h=>
  refine hlisted.setSpawner (fun _ h=>h) fun actor hactor=>?_
  cases h <;> simp_all
 | @builds parent name hspawner=>
  have hcreate (path:List String):(t.setNode t.count (.create name path)).Listed:=
   hlisted.setNode (fun _ h=>by cases h)
    (fun h=>absurd h (hinv.fresh t.count le_rfl).2)
    fun h=>by simp [Node.Left,Node.create] at h
  exact (hcreate _).setSpawner (fun _ h=>h) fun actor h=>by
   simp [Tree.setNode,hspawner] at h
 | rejects hspawner=>
  exact hlisted.setSpawner (fun _ h=>List.mem_append_left _ h) fun actor h=>by
   simp [hspawner] at h
 | attaches hspawner hstate=>exact hlisted.attachChild hinv hspawner hstate
 | clashes hspawner _=>
  refine hlisted.setSpawner (fun _ h=>List.mem_append_left _ h) fun actor h=>?_
  rw [hspawner] at h
  cases h
  exact List.mem_append_right _ List.mem_cons_self
 | registers hspawner _=>exact hlisted.register hspawner
 | starts hspawner | fails hspawner | opens hspawner | flushes hspawner | prestarts hspawner=>
  exact hlisted.prepare (by simp [hspawner]) rfl rfl fun h=>h
 | aborts hspawner=>
  refine hlisted.prepare (by simp [hspawner]) rfl rfl fun h=>?_
  simp only [Node.Left,reduceCtorEq,false_or] at h
  exact Or.inr (Or.inr (Or.inr (Or.inr h)))

lemma raised_of_move (h:t.Move t'):∀actor∈t.raised,actor∈t'.raised:=by
 cases h with
 | @thread actor node message h=>
  cases message with
  | none | some sent=>exact fun _ h=>h
 | rejects _ | clashes _ _=>exact fun _ h=>List.mem_append_left _ h
 | _=>exact fun _ h=>h

lemma new_raised (h:t.Move t') (hactor:actor∈t'.raised):
  actor∈t.raised ∨ t'.nodes=t.nodes ∧ ((∃parent,t.spawner=.attaching actor parent) ∨
   t.spawner=.registering actor ∧ t.PathTaken actor):=by
 cases h with
 | @thread actor node message h=>
  cases message with
  | none | some sent=>exact Or.inl hactor
 | @rejects spawned parent hspawner=>
  refine (List.mem_append.mp hactor).imp_right fun h=>⟨rfl,Or.inl ⟨parent,?_⟩⟩
  rw [List.mem_singleton.mp h]
  exact hspawner
 | clashes hspawner htaken=>
  refine (List.mem_append.mp hactor).imp_right fun h=>⟨rfl,Or.inr ?_⟩
  rw [List.mem_singleton.mp h]
  exact ⟨hspawner,htaken⟩
 | _=>exact Or.inl hactor

lemma parent_of_raised (hinv:t.Inv) (h:t.Move t'):
  ∀actor,actor∈t.raised → (t'.nodes actor).parent=(t.nodes actor).parent:=by
 have hset {actor:ℕ} {node:Node} (h:node.parent=(t.nodes actor).parent):=
  forall_setNode (t := t) (P := fun other node=>
   other∈t.raised → node.parent=(t.nodes other).parent) (fun _=>h) fun _ _ _=>rfl
 have htwice {t₁:Tree} {actor:ℕ} {node:Node}
  (h₁:∀other,other∈t.raised → (t₁.nodes other).parent=(t.nodes other).parent)
  (h:node.parent=(t₁.nodes actor).parent):=
  forall_setNode (t := t₁) (P := fun other node=>
   other∈t.raised → node.parent=(t.nodes other).parent)
   (fun hraised=>h.trans (h₁ actor hraised)) fun other _=>h₁ other
 cases h with
 | @thread actor node message h=>
  cases message with
  | none=>exact hset h.parent
  | some sent=>exact htwice (hset h.parent) rfl
 | message _ | misses _ _ _ | finds _ _ | unregisters _ _ | starts _ | fails _ | opens _
 | flushes _ | prestarts _ | aborts _=>exact hset rfl
 | detaches _ _=>exact htwice (hset rfl) rfl
 | builds _=>
  exact forall_setNode (P := fun other node=>other∈t.raised →
   node.parent=(t.nodes other).parent)
   (fun h=>absurd (hinv.raised t.count h).1 (Nat.lt_irrefl _)) fun _ _ _=>rfl
 | @attaches actor parent hspawner hstate=>
  have hspawning:=hinv.spawning
  rw [hspawner] at hspawning
  have hne:parent≠actor:=fun h=>
   hspawning.2.2.2 (h▸hspawning.2.1.resolve_right hstate.2)
  refine forall_attachChild (P := fun other node=>other∈t.raised →
   node.parent=(t.nodes other).parent) hne (fun h=>?_) (fun _=>rfl) fun _ _ _ _=>rfl
  exact absurd (by rw [hspawner]; rfl) (hinv.raised actor h).2.2
 | turns _ | rejects _ | clashes _ _ | registers _ _=>exact fun _ _=>rfl

end Tree

lemma reachable_listed (h:(system maxActors).Reachable t):t.Listed:=by
 refine h.invariant (I := Tree.Listed) ?_ fun t event t' hreachable hlisted hstep=>?_
 · rintro t rfl
   have hchildren (parent:ℕ):(Tree.create.nodes parent).children=[]:=by
    by_cases h:parent=0 <;> simp [Tree.create,h,Node.create]
   exact {
    listed:=by simp [hchildren]
    left:=by simp [hchildren]
    parents:=by simp [hchildren]
    paths:=by simp [Tree.create] }
 · have hinv:=reachable_inv hreachable
   exact hlisted.move hinv (Tree.move_of_next hinv.sound hstep)

def Tree.clashes (t:Tree):Bool:=
 match t.spawner with
 | .registering actor=>decide (t.PathTaken actor)
 | _=>false

/-- The steps in which no spawn finds its path in the index. -/
def PathFree (t:Tree):Event → Prop
 | .spawnStep _=>t.clashes=false
 | _=>True

instance (t:Tree) (event:Event):Decidable (PathFree t event):=
 match event with
 | .spawnStep _=>inferInstanceAs (Decidable (t.clashes=false))
 | .spawn _ _ | .send _ _ | .take _ _ | .process _ | .receive _ | .effect _ _ | .work _=>
  isTrue trivial

namespace Tree

def Raised (t:Tree) (actor:ℕ):Prop:=
 actor∈t.raised ∨ (t.nodes actor).aborted=true ∧ (t.nodes actor).stopCompleted=true

def NoTrace (t:Tree) (actor:ℕ):Prop:=
 (∀parent,actor∉(t.nodes parent).children) ∧ actor∉t.actors ∧
  ∀path,t.paths path≠some actor

end Tree

lemma raised_of_work (h:t.work actor=some t'):t'.raised=t.raised:=by
 unfold Tree.work at h
 split at h
 · split at h
   · cases h
   · split at h <;> cases h <;> rfl
 · obtain ⟨parent,-,rfl⟩:=Option.map_eq_some_iff.mp h
   rfl
 · split at h <;> cases h
   rfl
 · obtain ⟨⟨node,message⟩,-,rfl⟩:=Option.map_eq_some_iff.mp h
   cases message <;> rfl

lemma raised_of_next {event:Event}
  (h:next maxActors t event=some t') (hevent:∀fails,event≠.spawnStep fails):
  t'.raised=t.raised:=by
 cases event with
 | spawnStep fails=>exact absurd rfl (hevent fails)
 | work actor=>exact raised_of_work h
 | effect actor effect=>
  simp only [next] at h
  split at h
  · obtain ⟨⟨node,message⟩,-,rfl⟩:=Option.map_eq_some_iff.mp h
    cases message <;> rfl
  · cases h
 | spawn _ _ | send _ _ | take _ _ | process _ | receive _=>
  simp only [next] at h
  split at h <;> cases h
  rfl

lemma orphan_of_raised (h:((system maxActors).restrict PathFree).Reachable t):
  ∀actor∈t.raised,(t.nodes actor).parent=none:=by
 refine h.invariant (I := fun t=>∀actor∈t.raised,(t.nodes actor).parent=none) ?_
  fun t event t' hreachable hraised hstep actor hactor=>?_
 · rintro t rfl actor h
   cases h
 · have hinv:=reachable_inv hreachable.of_restrict
   have hmove:=Tree.move_of_next hinv.sound hstep.2
   have hold (h:actor∈t.raised):(t'.nodes actor).parent=none:=
    (Tree.parent_of_raised hinv hmove actor h).trans (hraised actor h)
   by_cases hevent:∃fails,event=.spawnStep fails
   · obtain ⟨fails,rfl⟩:=hevent
     rcases Tree.new_raised hmove hactor with h|⟨hnodes,⟨parent,hspawner⟩|⟨hspawner,htaken⟩⟩
     · exact hold h
     · have hspawning:=hinv.spawning
       rw [hspawner] at hspawning
       rw [hnodes]
       exact hspawning.2.2.1
     · have hfree:t.clashes=false:=hstep.1
       simp [Tree.clashes,hspawner,htaken] at hfree
   · rw [raised_of_next hstep.2 fun fails h=>hevent ⟨fails,h⟩] at hactor
     exact hold hactor

lemma stuck_of_raised (hinv:t.Inv) (hraised:actor∈t.raised)
  (hparent:(t.nodes actor).parent=some parent):
  actor∈(t.nodes parent).children ∧ actor∉t.actors ∧
   (t.nodes parent).state≠.stopped:=by
 have hembryo:=hinv.unborn actor (Or.inr (Or.inr hraised))
 have hchild:=(hinv.kin actor parent hparent).resolve_right hembryo.live.1
 refine ⟨hchild,(hinv.raised actor hraised).2.1,fun hstopped=>?_⟩
 rw [hinv.empty parent hstopped] at hchild
 cases hchild

lemma stays_raised (t:Tree) (event:Event) (t':Tree) (hreachable:(system maxActors).Reachable t)
  (h:actor∈t.raised ∧ (t.nodes actor).parent=some parent)
  (hstep:(system maxActors).step t event t'):
  actor∈t'.raised ∧ (t'.nodes actor).parent=some parent:=by
 have hinv:=reachable_inv hreachable
 have hmove:=Tree.move_of_next hinv.sound hstep
 exact ⟨Tree.raised_of_move hmove actor h.1,
  (Tree.obeys_of_move hinv hmove actor).parent parent h.2⟩

theorem spawn_all_or_nothing {maxActors:ℕ} {t:Tree}:
  (((system maxActors).restrict PathFree).Reachable t →
   (∀actor,t.Raised actor → t.NoTrace actor) ∧
   ∀parent,∀child∈(t.nodes parent).children,
    child∈t.actors ∨ t.spawner=.registering child) ∧
  ∀fails t',(system maxActors).Reachable t → next maxActors t (.spawnStep fails)=some t' →
   ¬ PathFree t (.spawnStep fails) → ∃actor parent,∀t'',(system maxActors).Runs t' t'' →
    t''.Raised actor ∧ actor∈(t''.nodes parent).children ∧ actor∉t''.actors ∧
     (t''.nodes parent).state≠.stopped:=by
 refine ⟨fun h=>?_,fun fails t' h hnext hclash=>?_⟩
 · have hinv:=reachable_inv h.of_restrict
   have hlisted:=reachable_listed h.of_restrict
   have horphan:=orphan_of_raised h
   have hchild {parent child:ℕ} (hchild:child∈(t.nodes parent).children):
    child∉t.raised:=fun hraised=>by
    have hlink:=hinv.link parent child hchild
    rw [horphan child hraised] at hlink
    cases hlink
   refine ⟨fun actor hraised=>?_,fun parent child hmem=>?_⟩
   · have hgone:(∀parent,actor∉(t.nodes parent).children) ∧ actor∉t.actors:=by
      rcases hraised with hraised|⟨-,hcompleted⟩
      · exact ⟨fun parent hmem=>hchild hmem hraised,(hinv.raised actor hraised).2.1⟩
      · have hgone:(t.nodes actor).Gone:=Or.inr hcompleted
        exact ⟨hlisted.left actor hgone.left,hinv.gone actor hgone⟩
     exact ⟨hgone.1,hgone.2,fun path hpath=>hgone.2 (hlisted.paths path actor hpath).1⟩
   · exact (hlisted.listed parent child hmem).imp_right fun h=>h.resolve_right (hchild hmem)
 · obtain ⟨actor,hspawner,htaken⟩:∃actor,t.spawner=.registering actor ∧
    t.PathTaken actor:=by
    simp only [PathFree,Tree.clashes] at hclash
    split at hclash
    · rename_i actor hspawner
      exact ⟨actor,hspawner,by simpa using hclash⟩
    · exact absurd rfl hclash
   have hspawning:=(reachable_inv h).spawning
   rw [hspawner] at hspawning
   obtain ⟨-,-,parent,hparent⟩:=hspawning
   refine ⟨actor,parent,fun t'' hruns=>?_⟩
   have hreachable:(system maxActors).Reachable t':=h.next _ hnext
   obtain ⟨hraised,hkept⟩:actor∈t''.raised ∧ (t''.nodes actor).parent=some parent:=
    hruns.stable stays_raised hreachable (by
     simp only [next,Tree.spawnStep,hspawner,if_pos htaken,Option.some.injEq] at hnext
     subst hnext
     exact ⟨List.mem_append_right _ List.mem_cons_self,hparent⟩)
   exact ⟨Or.inl hraised,stuck_of_raised (reachable_inv (hreachable.runs hruns)) hraised hkept⟩

def failingSpawn : List Event:=
 .spawn 0 "a" :: List.replicate 4 (.spawnStep false)++[.spawnStep true,.spawnStep false] ++
  List.replicate 9 (.work 1)

theorem spawn_all_or_nothing_failing : ∃t:Tree,
  ((system 10).restrict PathFree).Reachable t ∧ t.Raised 1 ∧ t.NoTrace 1:=by
 have hrun:(failingSpawn.foldlM (fun t event=>if PathFree t event then next 10 t event
  else none) Tree.create).map (fun t=>((t.nodes 1).aborted,(t.nodes 1).stopCompleted)) =
   some (true,true):=by decide +kernel
 obtain ⟨t,hplay,hfacts⟩:=Option.map_eq_some_iff.mp hrun
 have hcreated:((system 10).restrict PathFree).Reachable .create:=.start rfl
 have hreachable:=hcreated.play (fun t event t' h=>by
  split at h
  · rename_i hfree
    exact ⟨hfree,h⟩
  · cases h) failingSpawn hplay
 have hraised:t.Raised 1:=Or.inr (Prod.mk.injEq ..▸hfacts)
 exact ⟨t,hreachable,hraised,(spawn_all_or_nothing.1 hreachable).1 1 hraised⟩

def spawnAgain : List Event:=
 Event.spawn 0 "a" :: List.replicate 7 (Event.spawnStep false) ++
  [Event.send 1 .stop,.take 1 2,.process 1,.effect 1 .returned,.process 1] ++
  List.replicate 9 (Event.work 1) ++ Event.spawn 0 "a" :: List.replicate 3 (Event.spawnStep false)

theorem spawn_leaves_child : ∃t:Tree,(system 10).Reachable t ∧ t.Raised 2 ∧
  2∈(t.nodes 0).children ∧ 2∉t.actors ∧ (t.nodes 2).state=.new:=by
 have hrun:(spawnAgain.foldlM (next 10) Tree.create).map (fun t=>
  (t.raised,(t.nodes 0).children,decide (2∈t.actors),(t.nodes 2).state)) =
   some ([2],[2],false,.new):=by decide +kernel
 obtain ⟨t,hplay,hfacts⟩:=Option.map_eq_some_iff.mp hrun
 simp only [Prod.mk.injEq,decide_eq_false_iff_not] at hfacts
 have hcreated:(system 10).Reachable .create:=.start rfl
 have hreachable:=hcreated.play (f := next 10) (fun _ _ _ h=>h) spawnAgain hplay
 exact ⟨t,hreachable,Or.inl (by simp [hfacts.1]),by simp [hfacts.2.1],hfacts.2.2.1,
  hfacts.2.2.2⟩

end Movie.ActorTree
