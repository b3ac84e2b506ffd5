import Movie.ActorTreeNode

/-!
# The invariant of a tree of actors

A child is in its parent's map or has stopped, and an actor that has stopped has an empty map.
`Edits` is what a change of one actor must meet so that this is kept.
-/
namespace Movie.ActorTree

open ActorContext (ActorState)

def Spawner.unborn : Spawner → Option ℕ
 | .attaching actor _ | .registering actor | .starting actor | .creating actor | .opening actor
 | .aborting actor=>some actor
 | .idle | .entered _ _ | .flushing _ _ | .completing _=>none

variable {t:Tree} {actor parent:ℕ} {node:Node} {message:SystemMessage}

namespace Tree

variable {P:ℕ → Node → Prop} {spawner:Spawner} {child:ℕ}

lemma forall_setNode
  (hnew:P actor node) (hold:∀other,other≠actor → P other (t.nodes other)) (other:ℕ):
  P other ((t.setNode actor node).nodes other):=
 (Function.forall_update_iff t.nodes P).mpr ⟨hnew,hold⟩ other

def Unborn (t:Tree) (actor:ℕ):Prop:=
 t.count≤actor ∨ t.spawner.unborn=some actor ∨ actor∈t.raised

def Known (t:Tree) (actor:ℕ):Prop:=
 actor∈t.actors ∨ (t.nodes actor).state=.stopped

def Spawning (t:Tree):Spawner → Prop
 | .entered parent _=>t.Known parent
 | .attaching actor parent=>
  actor<t.count ∧ t.Known parent ∧ (t.nodes actor).parent=none ∧ actor∉t.actors
 | .registering actor=>
  actor<t.count ∧ actor∉t.actors ∧ ∃parent,(t.nodes actor).parent=some parent
 | .starting actor | .creating actor | .opening actor | .aborting actor=>actor<t.count
 | .flushing _ messages=>
  ∀child,.terminated child∈messages → (t.nodes child).state=.stopped
 | .idle | .completing _=>True

structure Inv (t:Tree):Prop where
 sound:∀actor,(t.nodes actor).Sound
 link:∀parent,∀child∈(t.nodes parent).children,(t.nodes child).parent=some parent
 kin:∀child parent,(t.nodes child).parent=some parent →
  child∈(t.nodes parent).children ∨ (t.nodes child).state=.stopped
 empty:∀actor,(t.nodes actor).state=.stopped → (t.nodes actor).children=[]
 heard:∀actor child,(t.nodes actor).Hears child → (t.nodes child).state=.stopped
 gone:∀actor,(t.nodes actor).Gone → actor∉t.actors
 aborts:∀actor,(t.nodes actor).point=.completing →
  (t.nodes actor).state=.stopping ∨ t.spawner=.completing actor
 unborn:∀actor,t.Unborn actor → (t.nodes actor).Embryo
 fresh:∀actor,t.count≤actor → (t.nodes actor).parent=none ∧ actor∉t.actors
 raised:∀actor∈t.raised,
  actor<t.count ∧ actor∉t.actors ∧ t.spawner.unborn≠some actor
 spawning:t.Spawning t.spawner

lemma Inv.not_unborn_of_known (hinv:t.Inv) (hknown:t.Known actor)
  (hspawner:t.spawner.unborn≠some actor):¬ t.Unborn actor:=fun hunborn=>by
 rcases hknown with hmem|hstopped
 · rcases hunborn with hcount|hspawned|hraised
   · exact (hinv.fresh actor hcount).2 hmem
   · exact hspawner hspawned
   · exact (hinv.raised actor hraised).2.1 hmem
 · exact (hinv.unborn actor hunborn).live.1 hstopped

structure Edits (t:Tree) (actor:ℕ) (node:Node):Prop where
 parent:node.parent=(t.nodes actor).parent
 sound:node.Sound
 shrinks:∀child∈node.children,child∈(t.nodes actor).children
 keeps:∀child∈(t.nodes actor).children,
  child∈node.children ∨ (t.nodes child).state=.stopped
 stays:(t.nodes actor).state=.stopped →
  node.state=.stopped ∧ node.invoked=(t.nodes actor).invoked
 stops:node.state=.stopped → (t.nodes actor).state≠.stopped → node.children=[]
 hears:∀child,node.Hears child → (t.nodes child).state=.stopped
 gone:node.Gone → actor∉t.actors
 completes:node.point=.completing → node.state=.stopping ∨ t.spawner=.completing actor
 embryo:t.Unborn actor → node.Embryo

lemma Edits.parents (h:t.Edits actor node) (other:ℕ):
  ((t.setNode actor node).nodes other).parent=(t.nodes other).parent:=
 forall_setNode (P := fun other node=>node.parent=(t.nodes other).parent) h.parent
  (fun _ _=>rfl) other

lemma Edits.stopped (h:t.Edits actor node):∀other,(t.nodes other).state=.stopped →
   ((t.setNode actor node).nodes other).state=.stopped ∧
    ((t.setNode actor node).nodes other).invoked=(t.nodes other).invoked:=
 forall_setNode (P := fun other node=>(t.nodes other).state=.stopped →
  node.state=.stopped ∧ node.invoked=(t.nodes other).invoked) h.stays
  fun _ _ hother=>⟨hother,rfl⟩

lemma Edits.children (h:t.Edits actor node):
  ∀parent,∀child∈((t.setNode actor node).nodes parent).children,
   child∈(t.nodes parent).children:=
 forall_setNode (P := fun parent node=>∀child∈node.children,
  child∈(t.nodes parent).children) h.shrinks fun _ _ _ hchild=>hchild

lemma Edits.known (h:t.Edits actor node) {other:ℕ}
  (hknown:t.Known other):(t.setNode actor node).Known other:=
 hknown.imp_right fun hstopped=>(h.stopped other hstopped).1

lemma Edits.spawning (h:t.Edits actor node) (hspawning:t.Spawning spawner):
  (t.setNode actor node).Spawning spawner:=by
 cases spawner with
 | idle | completing _=>trivial
 | entered parent name=>exact h.known hspawning
 | attaching spawned parent=>
  obtain ⟨hcount,hknown,hparent,hactors⟩:=hspawning
  exact ⟨hcount,h.known hknown,(h.parents spawned).trans hparent,hactors⟩
 | registering spawned=>
  obtain ⟨hcount,hactors,parent,hparent⟩:=hspawning
  exact ⟨hcount,hactors,parent,(h.parents spawned).trans hparent⟩
 | starting spawned | creating spawned | opening spawned | aborting spawned=>exact hspawning
 | flushing spawned messages=>
  exact fun child hchild=>(h.stopped child (hspawning child hchild)).1

lemma Inv.edit (hinv:t.Inv) (h:t.Edits actor node):(t.setNode actor node).Inv where
 sound:=forall_setNode (P := fun _ node=>node.Sound) h.sound fun other _=>hinv.sound other
 link parent child hchild:=
  (h.parents child).trans (hinv.link parent child (h.children parent child hchild))
 kin child parent hparent:=by
  rw [h.parents child] at hparent
  rcases hinv.kin child parent hparent with hchild|hstopped
  · refine forall_setNode (P := fun parent node=>child∈(t.nodes parent).children →
     child∈node.children ∨ ((t.setNode actor _).nodes child).state=.stopped)
     (fun hchild=>?_) (fun _ _ hchild=>Or.inl hchild) parent hchild
    exact (h.keeps child hchild).imp_right fun hstopped=>(h.stopped child hstopped).1
  · exact Or.inr (h.stopped child hstopped).1
 empty:=by
  refine forall_setNode (P := fun _ node=>node.state=.stopped → node.children=[])
   (fun hafter=>?_) fun other _=>hinv.empty other
  by_cases hbefore:(t.nodes actor).state=.stopped
  · refine List.eq_nil_iff_forall_not_mem.mpr fun child hchild=>?_
    have hnone:=h.shrinks child hchild
    rw [hinv.empty actor hbefore] at hnone
    cases hnone
  · exact h.stops hafter hbefore
 heard other child hhears:=by
  refine (h.stopped child ?_).1
  exact forall_setNode (P := fun _ node=>node.Hears child → (t.nodes child).state=.stopped)
   (h.hears child) (fun other _=>hinv.heard other child) other hhears
 gone:=forall_setNode (P := fun other node=>node.Gone → other∉t.actors) h.gone
  fun other _=>hinv.gone other
 aborts:=forall_setNode (P := fun other node=>node.point=.completing →
  node.state=.stopping ∨ t.spawner=.completing other) h.completes
  fun other _=>hinv.aborts other
 unborn:=forall_setNode (P := fun other node=>t.Unborn other → node.Embryo) h.embryo
  fun other _=>hinv.unborn other
 fresh other hcount:=by
  obtain ⟨hparent,hactors⟩:=hinv.fresh other hcount
  exact ⟨(h.parents other).trans hparent,hactors⟩
 raised:=hinv.raised
 spawning:=h.spawning hinv.spawning

lemma Edits.of_changes {message:Option (ℕ×SystemMessage)} (hinv:t.Inv)
  (h:(t.nodes actor).Changes actor node message):t.Edits actor node where
 parent:=h.parent
 sound:=h.sound
 shrinks child hchild:=((h.children child).mp hchild).1
 keeps child hchild:=by
  by_cases hremoving:(t.nodes actor).point=.removing child
  · exact Or.inr (hinv.heard actor child (Or.inr (Or.inr (Or.inr hremoving))))
  · exact Or.inl ((h.children child).mpr ⟨hchild,hremoving⟩)
 stays:=h.stays
 stops hafter hbefore:=by
  have hcompleting:(t.nodes actor).Live ∧ (t.nodes actor).children=[] ∧ _:=
   (hinv.sound actor).at_point (h.stops hafter hbefore)
  refine List.eq_nil_iff_forall_not_mem.mpr fun child hchild=>?_
  have hnone:=((h.children child).mp hchild).1
  rw [hcompleting.2.1] at hnone
  cases hnone
 hears child hhears:=hinv.heard actor child (h.hears child hhears)
 gone hgone:=hinv.gone actor (h.gone hgone)
 completes hpoint:=Or.inl (h.completes hpoint)
 embryo hunborn:=absurd (hinv.unborn actor hunborn) h.ready

lemma hears_tellSystem (h:{ node with cell:=node.cell.tellSystem message }.Hears child):
  node.Hears child ∨ message=.terminated child:=by
 simp only [Node.Hears,Cell.tellSystem] at h ⊢
 grind

lemma embryo_tellSystem (message:SystemMessage) (h:node.Embryo):
  { node with cell:=node.cell.tellSystem message }.Embryo:=by
 obtain ⟨hpoint,hbatch,hqueue,hclosed,hattached,hchildren,hlive,hstate⟩:=h
 have hcell:node.cell.tellSystem message =
  { node.cell with pending:=node.cell.pending++[message] }:=by
  simp [Cell.tellSystem,hclosed,hattached]
 rw [hcell]
 exact ⟨hpoint,hbatch,hqueue,hclosed,hattached,hchildren,hlive,hstate⟩

lemma Edits.of_tellSystem {target:ℕ} (hinv:t.Inv)
  (h:∀child,message=.terminated child → (t.nodes child).state=.stopped):t.Edits target
   { t.nodes target with cell:=(t.nodes target).cell.tellSystem message } where
 parent:=rfl
 sound:=hinv.sound target
 shrinks _ hchild:=hchild
 keeps _ hchild:=Or.inl hchild
 stays hstopped:=⟨hstopped,rfl⟩
 stops hafter hbefore:=absurd hafter hbefore
 hears child hhears:=(hears_tellSystem hhears).elim (hinv.heard target child) (h child)
 gone:=hinv.gone target
 completes:=hinv.aborts target
 embryo hunborn:=embryo_tellSystem message (hinv.unborn target hunborn)

lemma Edits.of_removeChild {parent:ℕ} (hinv:t.Inv) (hchild:(t.nodes child).state=.stopped):
  t.Edits parent ((t.nodes parent).removeChild child) where
 parent:=rfl
 sound:=(hinv.sound parent).with_children fun hpoint=>by
  have hcompleting:(t.nodes parent).Live ∧ (t.nodes parent).children=[] ∧ _:=
   (hinv.sound parent).at_point hpoint
  simp [hcompleting.2.1]
 shrinks _ hmem:=(List.mem_filter.mp hmem).1
 keeps other hother:=by
  by_cases hsame:other=child
  · exact Or.inr (hsame▸hchild)
  · exact Or.inl (List.mem_filter.mpr ⟨hother,decide_eq_true hsame⟩)
 stays hstopped:=⟨hstopped,rfl⟩
 stops hafter hbefore:=absurd hafter hbefore
 hears:=hinv.heard parent
 gone:=hinv.gone parent
 completes:=hinv.aborts parent
 embryo hunborn:=by
  have h:=hinv.unborn parent hunborn
  exact ⟨h.point,h.batch,h.queue,h.closed,h.attached,by simp [Node.removeChild,h.children],
   h.live,h.state⟩

lemma Edits.of_late {point:Point} (hinv:t.Inv)
  (hstopped:(t.nodes actor).Stopped 1 false) (hidle:(t.nodes actor).point≠.idle)
  (hsound:{ t.nodes actor with point:=point }.Sound) (hremoving:∀child,point≠.removing child)
  (hcompleting:point≠.completing) (hgone:point=.finishing → actor∉t.actors):
  t.Edits actor { t.nodes actor with point:=point } where
 parent:=rfl
 sound:=hsound
 shrinks _ hchild:=hchild
 keeps _ hchild:=Or.inl hchild
 stays h:=⟨h,rfl⟩
 stops _ hbefore:=absurd hstopped.1 hbefore
 hears child h:=hinv.heard actor child (h.of_cell rfl rfl (hremoving child))
 gone h:=h.elim hgone fun hcompleted=>by
  rw [hstopped.2.2] at hcompleted
  cases hcompleted
 completes h:=absurd h hcompleting
 embryo hunborn:=absurd (hinv.unborn actor hunborn).point hidle

lemma Inv.tellSystem {target:ℕ} (hinv:t.Inv)
  (h:∀child,message=.terminated child → (t.nodes child).state=.stopped):
  (t.tellSystem target message).Inv:=hinv.edit (.of_tellSystem hinv h)

lemma Inv.unregister (hinv:t.Inv)
  (hstopped:(t.nodes actor).state=.stopped):(t.unregister actor).Inv:=by
 have hknown {other:ℕ} (h:t.Known other):(t.unregister actor).Known other:=by
  by_cases hactor:other=actor
  · exact Or.inr (hactor▸hstopped)
  · exact h.imp_left (Finset.mem_erase_of_ne_of_mem hactor)
 have hactors {other:ℕ} (h:other∉t.actors):other∉t.actors.erase actor:=
  fun hmem=>h (Finset.mem_of_mem_erase hmem)
 have hspawning {spawner:Spawner} (h:t.Spawning spawner):
  (t.unregister actor).Spawning spawner:=by
  cases spawner with
  | entered parent name=>exact hknown h
  | attaching spawned parent=>exact ⟨h.1,hknown h.2.1,h.2.2.1,hactors h.2.2.2⟩
  | registering spawned=>exact ⟨h.1,hactors h.2.1,h.2.2⟩
  | _=>exact h
 exact {
  hinv with
  gone:=fun other h=>hactors (hinv.gone other h)
  fresh:=fun other h=>⟨(hinv.fresh other h).1,hactors (hinv.fresh other h).2⟩
  raised:=fun other h=>
   ⟨(hinv.raised other h).1,hactors (hinv.raised other h).2.1,(hinv.raised other h).2.2⟩
  spawning:=hspawning hinv.spawning }

lemma Inv.setSpawner {count:ℕ} {raised:List ℕ} (hinv:t.Inv) (hcount:t.count ≤ count)
  (hcompleting:∀actor,t.spawner=.completing actor → (t.nodes actor).state=.stopped)
  (hunborn:∀actor,spawner.unborn=some actor ∨ actor∈raised → (t.nodes actor).Embryo)
  (hraised:∀actor∈raised,actor<count ∧ actor∉t.actors ∧ spawner.unborn≠some actor)
  (hspawning:{ t with count:=count,spawner:=spawner,raised:=raised }.Spawning
   spawner):{ t with count:=count,spawner:=spawner,raised:=raised }.Inv where
 sound:=hinv.sound
 link:=hinv.link
 kin:=hinv.kin
 empty:=hinv.empty
 heard:=hinv.heard
 gone:=hinv.gone
 aborts actor hpoint:=by
  refine Or.inl ((hinv.aborts actor hpoint).resolve_right fun h=>?_)
  have hlive:(t.nodes actor).Live ∧ _:=(hinv.sound actor).at_point hpoint
  exact hlive.1.1 (hcompleting actor h)
 unborn actor h:=h.elim (fun h=>hinv.unborn actor (Or.inl (hcount.trans h))) (hunborn actor)
 fresh actor h:=hinv.fresh actor (hcount.trans h)
 raised:=hraised
 spawning:=hspawning

lemma Edits.of_embryo (hembryo:(t.nodes actor).Embryo)
  (hparent:node.parent=(t.nodes actor).parent) (hsound:node.Sound) (hlive:node.Live)
  (hchildren:node.children=[]) (hhears:∀child,node.Hears child → (t.nodes child).state=.stopped)
  (hcompletes:node.point=.completing → t.spawner=.completing actor)
  (hunborn:t.Unborn actor → node.Embryo):t.Edits actor node where
 parent:=hparent
 sound:=hsound
 shrinks child h:=by
  rw [hchildren] at h
  cases h
 keeps child h:=by
  rw [hembryo.children] at h
  cases h
 stays h:=absurd h hembryo.live.1
 stops h _:=absurd h hlive.1
 hears:=hhears
 gone h:=absurd (hsound.stopped_of_left h.left) hlive.1
 completes h:=Or.inr (hcompletes h)
 embryo:=hunborn

lemma forall_attachChild
  (hne:parent≠actor) (hactor:P actor { t.nodes actor with parent:=some parent })
  (hparent:P parent { t.nodes parent with children:=(t.nodes parent).children++[actor] })
  (hold:∀other,other≠actor → other≠parent → P other (t.nodes other)) (other:ℕ):
  P other ((t.attachChild actor parent).nodes other):=by
 refine forall_setNode (P := P) ?_ (fun other hother=>?_) other
 · simpa [modify,setNode,Function.update_of_ne hne.symm] using hactor
 · exact forall_setNode (P := fun other node=>other≠actor → P other node) (fun _=>hparent)
    (fun other h hother=>hold other hother h) other hother

lemma Inv.attachChild (hinv:t.Inv) (hspawner:t.spawner=.attaching actor parent)
  (hstate:(t.nodes parent).state≠.stopping ∧ (t.nodes parent).state≠.stopped):
  { t.attachChild actor parent with spawner:=.registering actor }.Inv:=by
 have hspawning:=hinv.spawning
 rw [hspawner] at hspawning
 obtain ⟨hcount,hknown,horphan,hactors⟩:=hspawning
 have hmem:parent∈t.actors:=hknown.resolve_right hstate.2
 have hne:parent≠actor:=fun h=>hactors (h▸hmem)
 have hunborn:t.spawner.unborn=some actor:=by rw [hspawner]; rfl
 have hborn:¬ t.Unborn parent:=hinv.not_unborn_of_known hknown fun h=>
  hne (Option.some.inj (h.symm.trans hunborn))
 have hcompleting:(t.nodes parent).point≠.completing:=fun hpoint=>by
  rcases hinv.aborts parent hpoint with h|h
  · exact hstate.1 h
  · rw [hspawner] at h
    cases h
 have hstates:=forall_attachChild (P := fun other node=>
  node.state=(t.nodes other).state) hne rfl rfl fun _ _ _=>rfl
 have hparents:=forall_attachChild (P := fun other node=>
  ∀up,(t.nodes other).parent=some up → node.parent=some up) hne
  (by simp [horphan]) (fun _ h=>h) fun _ _ _ _ h=>h
 have hchildren:=forall_attachChild (P := fun other node=>
  ∀child∈(t.nodes other).children,child∈node.children) hne (fun _ h=>h)
  (fun _ h=>List.mem_append_left _ h) fun _ _ _ _ h=>h
 have hup:((t.attachChild actor parent).nodes actor).parent=some parent:=
  forall_attachChild (P := fun other node=>other=actor → node.parent=some parent) hne
   (fun _=>rfl) (fun h=>absurd h hne) (fun _ h _ h'=>absurd h' h) actor rfl
 have hdown:actor∈((t.attachChild actor parent).nodes parent).children:=
  forall_attachChild (P := fun other node=>other=parent → actor∈node.children) hne
   (fun h=>absurd h.symm hne) (fun _=>List.mem_append_right _ List.mem_cons_self)
   (fun _ _ h h'=>absurd h' h) parent rfl
 exact {
  sound:=forall_attachChild (P := fun _ node=>node.Sound) hne (hinv.sound actor)
   ((hinv.sound parent).with_children fun h=>absurd h hcompleting)
   fun other _ _=>hinv.sound other
  link:=by
   refine forall_attachChild (P := fun other node=>∀child∈node.children,
    ((t.attachChild actor parent).nodes child).parent=some other)
    hne (fun child hchild=>?_) (fun child hchild=>?_) fun other _ _ child hchild=>
     hparents child other (hinv.link other child hchild)
   · exact hparents child actor (hinv.link actor child hchild)
   · rcases List.mem_append.mp hchild with hold|hnew
     · exact hparents child parent (hinv.link parent child hold)
     · rw [List.mem_singleton.mp hnew]
       exact hup
  kin:=by
   intro child up hchild
   by_cases hactor:child=actor
   · subst hactor
     rw [hup] at hchild
     cases hchild
     exact Or.inl hdown
   · have hold:(t.nodes child).parent=some up:=by
      refine forall_attachChild (P := fun other node=>other≠actor → node.parent=some up →
       (t.nodes other).parent=some up) hne (absurd rfl) (fun _ h=>h) (fun _ _ _ _ h=>h)
       child hactor hchild
     exact (hinv.kin child up hold).imp (hchildren up child) ((hstates child).trans ·)
  empty:=by
   refine forall_attachChild (P := fun _ node=>node.state=.stopped → node.children=[])
    hne (hinv.empty actor) (fun h=>absurd h hstate.2) fun other _ _=>hinv.empty other
  heard:=fun other child hhears=>by
   refine (hstates child).trans ?_
   exact forall_attachChild (P := fun _ node=>node.Hears child →
    (t.nodes child).state=.stopped) hne (hinv.heard actor child) (hinv.heard parent child)
    (fun other _ _=>hinv.heard other child) other hhears
  gone:=forall_attachChild (P := fun other node=>node.Gone → other∉t.actors) hne
   (hinv.gone actor) (hinv.gone parent) fun other _ _=>hinv.gone other
  aborts:=by
   have hstopping (other:ℕ) (h:(t.nodes other).point=.completing):
    (t.nodes other).state=.stopping:=(hinv.aborts other h).resolve_right (by simp [hspawner])
   exact forall_attachChild (P := fun other node=>node.point=.completing →
    node.state=.stopping ∨ Spawner.registering actor=.completing other) hne
    (fun h=>Or.inl (hstopping actor h)) (fun h=>Or.inl (hstopping parent h))
    fun other _ _ h=>Or.inl (hstopping other h)
  unborn:=by
   have hsame (other:ℕ) (h:t.count≤other ∨ some actor=some other ∨ other∈t.raised):
    t.Unborn other:=h.imp_right (Or.imp_left hunborn.trans)
   exact forall_attachChild (P := fun other node=>
    t.count≤other ∨ some actor=some other ∨ other∈t.raised → node.Embryo) hne
    (fun h=>{ hinv.unborn actor (hsame actor h) with })
    (fun h=>absurd (hsame parent h) hborn) fun other _ _ h=>hinv.unborn other (hsame other h)
  fresh:=forall_attachChild (P := fun other node=>t.count≤other →
   node.parent=none ∧ other∉t.actors) hne (fun h=>absurd hcount (Nat.not_lt.mpr h))
   (hinv.fresh parent) fun other _ _=>hinv.fresh other
  raised:=fun other h=>⟨(hinv.raised other h).1,(hinv.raised other h).2.1,
   fun h'=>(hinv.raised other h).2.2 (hunborn.trans h')⟩
  spawning:=⟨hcount,hactors,parent,hup⟩ }

lemma Inv.register (hinv:t.Inv) (hspawner:t.spawner=.registering actor):
  { t.register actor with spawner:=.starting actor }.Inv:=by
 have hunborn:t.spawner.unborn=some actor:=by rw [hspawner]; rfl
 have hembryo:=hinv.unborn actor (Or.inr (Or.inl hunborn))
 have hspawning:=hinv.spawning
 rw [hspawner] at hspawning
 have hactors {other:ℕ} (h:other∉t.actors) (hne:other≠actor):
  other∉insert actor t.actors:=by simp [h,hne]
 exact {
  hinv with
  gone:=fun other h=>by
   refine hactors (hinv.gone other h) fun hsame=>hembryo.live.1 ?_
   exact (hinv.sound actor).stopped_of_left (hsame▸h).left
  aborts:=fun other h=>Or.inl ((hinv.aborts other h).resolve_right (by simp [hspawner]))
  unborn:=fun other h=>hinv.unborn other (h.imp_right (Or.imp_left hunborn.trans))
  fresh:=fun other h=>
   ⟨(hinv.fresh other h).1,hactors (hinv.fresh other h).2 (Nat.ne_of_gt (hspawning.1.trans_le h))⟩
  raised:=fun other h=>by
   obtain ⟨hcount,hmem,hother⟩:=hinv.raised other h
   have hne:other≠actor:=fun hsame=>hother (hsame▸hunborn)
   exact ⟨hcount,hactors hmem hne,fun h'=>hother (hunborn.trans h')⟩
  spawning:=hspawning.1 }

end Tree

end Movie.ActorTree
