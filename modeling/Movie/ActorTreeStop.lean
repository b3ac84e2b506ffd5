import Movie.ActorTreeMoves

/-!
# The stop of a tree of actors

An actor stops after its children: `_complete_stop` begins only when the map of children is empty,
and none is attached to an actor that is stopping.
-/
namespace Movie.ActorTree

open ActorContext (ActorState)
open Reachability

variable {t t':Tree} {actor:ℕ} {node:Node}

namespace Tree

structure Obeys (t:Tree) (actor:ℕ) (node:Node):Prop where
 parent:∀parent,(t.nodes actor).parent=some parent → node.parent=some parent
 stays:(t.nodes actor).state=.stopped →
  node.state=.stopped ∧ node.invoked=(t.nodes actor).invoked
 stops:(t.nodes actor).state≠.stopped → node.state=.stopped →
  ∀child,(t.nodes child).parent=some actor → (t.nodes child).state=.stopped
 grows:(t.nodes actor).state=.stopping ∨ (t.nodes actor).state=.stopped →
  ∀child∈node.children,child∈(t.nodes actor).children

lemma obeys_refl (t:Tree) (actor:ℕ):t.Obeys actor (t.nodes actor) where
 parent _ h:=h
 stays h:=⟨h,rfl⟩
 stops h h':=absurd h' h
 grows _ _ h:=h

lemma Edits.obeys (hinv:t.Inv) (h:t.Edits actor node):t.Obeys actor node where
 parent _ hparent:=h.parent.trans hparent
 stays:=h.stays
 stops hbefore hafter child hchild:=by
  rcases hinv.kin child actor hchild with hmem|hstopped
  · refine (h.keeps child hmem).resolve_left fun hleft=>?_
    rw [h.stops hafter hbefore] at hleft
    cases hleft
  · exact hstopped
 grows _:=h.shrinks

lemma obeys_of_live (hbefore:(t.nodes actor).state≠.stopped) (hafter:node.state≠.stopped)
  (hparent:∀parent,(t.nodes actor).parent=some parent → node.parent=some parent)
  (hchildren:node.children=(t.nodes actor).children):t.Obeys actor node where
 parent:=hparent
 stays h:=absurd h hbefore
 stops _ h:=absurd h hafter
 grows _ _ h:=hchildren▸h

lemma obeys_setNode (h:t.Obeys actor node):
  ∀other,t.Obeys other ((t.setNode actor node).nodes other):=
 forall_setNode (P := t.Obeys) h fun other _=>t.obeys_refl other

lemma obeys_modify {change:Node → Node} (h:∀other,t.Obeys other (t'.nodes other))
  (hchange:t.Obeys actor (t'.nodes actor) → t.Obeys actor (change (t'.nodes actor))):
  ∀other,t.Obeys other ((t'.modify actor change).nodes other):=
 forall_setNode (P := t.Obeys) (hchange (h actor)) fun other _=>h other

lemma obeys_tellSystem {target:ℕ} {message:SystemMessage} (h:∀other,t.Obeys other (t'.nodes other)):
  ∀other,t.Obeys other ((t'.tellSystem target message).nodes other):=
 obeys_modify h fun hnode=>{ hnode with }

lemma obeys_of_move (hinv:t.Inv) (h:t.Move t'):∀actor,t.Obeys actor (t'.nodes actor):=by
 have hunborn {actor:ℕ} (hactor:t.spawner.unborn=some actor):
  (t.nodes actor).state≠.stopped:=(hinv.unborn actor (Or.inr (Or.inl hactor))).live.1
 cases h with
 | @thread actor node message h=>
  have hnode:=obeys_setNode ((Edits.of_changes hinv h).obeys hinv)
  cases message with
  | none=>exact hnode
  | some sent=>exact obeys_tellSystem hnode
 | message h | flushes hspawner | prestarts hspawner=>exact obeys_tellSystem t.obeys_refl
 | misses hpoint _ _ | finds hpoint _=>exact obeys_modify t.obeys_refl fun hnode=>{ hnode with }
 | detaches hpoint _=>
  have hstopped:(t.nodes _).Stopped 1 false:=(hinv.sound _).at_point hpoint
  refine obeys_modify ?_ fun hnode=>{ hnode with }
  exact obeys_setNode ((Edits.of_removeChild hinv hstopped.1).obeys hinv)
 | @unregisters actor hpoint _
 | @opens actor hspawner=>exact obeys_setNode { t.obeys_refl actor with }
 | turns h | rejects hspawner | clashes hspawner _ | registers hspawner _=>exact t.obeys_refl
 | builds hspawner=>
  have hembryo:=hinv.unborn t.count (Or.inl le_rfl)
  refine obeys_setNode (obeys_of_live hembryo.live.1 (by simp [Node.create]) (fun parent h=>?_)
   hembryo.children.symm)
  rw [(hinv.fresh t.count le_rfl).1] at h
  cases h
 | @attaches actor parent hspawner hstate=>
  have hspawning:=hinv.spawning
  rw [hspawner] at hspawning
  obtain ⟨-,hknown,horphan,hactors⟩:=hspawning
  have hne:parent≠actor:=fun h=>hactors (h▸hknown.resolve_right hstate.2)
  refine forall_attachChild (P := t.Obeys) hne ?_ ?_ fun other _ _=>t.obeys_refl other
  · refine { t.obeys_refl actor with parent:=fun up h=>?_ }
    rw [horphan] at h
    cases h
  · exact { t.obeys_refl parent with
     grows:=fun h=>absurd h (not_or.mpr hstate) }
 | starts hspawner | fails hspawner | aborts hspawner=>
  exact obeys_setNode (obeys_of_live (hunborn (by rw [hspawner]; rfl)) (by simp)
   (fun _ h=>h) rfl)

end Tree

def Signals (maxActors:ℕ) (t:Tree) (actor:ℕ):Prop:=
 ∃count t',count≤2 ∧
  (List.replicate count (Event.work actor)).foldlM (next maxActors) t=some t' ∧
  (t'.nodes actor).postStops=1

lemma signals_of_signalling (maxActors:ℕ)
  (hpoint:(t.nodes actor).point=.signalling) (hnone:(t.nodes actor).postStops=0):
  ∃t',next maxActors t (.work actor)=some t' ∧ (t'.nodes actor).postStops=1:=by
 have hwork:next maxActors t (.work actor)=some (t.setNode actor { t.nodes actor with
  postStops:=(t.nodes actor).postStops+1,point:=.locating }):=by
  simp only [next,Tree.work,hpoint,Node.work,Option.map_some]
  rfl
 exact ⟨_,hwork,by simp [Tree.setNode,hnone]⟩

lemma signals_of_draining (maxActors:ℕ)
  (hpoint:(t.nodes actor).point=.draining) (hnone:(t.nodes actor).postStops=0):
  Signals maxActors t actor:=by
 let middle:=t.setNode actor { t.nodes actor with point:=.signalling }
 have hmiddle:middle.nodes actor={ t.nodes actor with point:=.signalling }:=by
  simp [middle,Tree.setNode]
 have hfirst:next maxActors t (.work actor)=some middle:=by
  simp only [next,Tree.work,hpoint,Node.work,Option.map_some]
  rfl
 obtain ⟨t',hsecond,hsignalled⟩:=
  signals_of_signalling maxActors (congrArg Node.point hmiddle)
   ((congrArg Node.postStops hmiddle).trans hnone)
 refine ⟨2,t',le_rfl,?_,hsignalled⟩
 simp only [List.replicate,List.foldlM_cons,List.foldlM_nil,hfirst,Option.bind_eq_bind,
  Option.bind_some,hsecond]
 rfl

lemma Node.Sound.postStops (hsound:node.Sound):
  (node.state≠.stopped ∧ node.postStops=0 ∧ node.stopCompleted=false) ∨
  (node.state=.stopped ∧ node.postStops=0 ∧ node.stopCompleted=false ∧
   (node.point=.draining ∨ node.point=.signalling)) ∨
  (node.state=.stopped ∧ node.postStops=1):=by
 unfold Node.Sound at hsound
 split at hsound <;> grind [Node.Live,Node.Stopped]

theorem stop_hierarchical {maxActors:ℕ} {t:Tree} (h:(system maxActors).Reachable t) (actor:ℕ):
  ((t.nodes actor).state=.stopped →
   ∀child,(t.nodes child).parent=some actor → (t.nodes child).state=.stopped) ∧
  ((t.nodes actor).state≠.stopped → (t.nodes actor).postStops=0) ∧
  ((t.nodes actor).state=.stopped → (t.nodes actor).postStops=1 ∨
   (t.nodes actor).postStops=0 ∧ Signals maxActors t actor) ∧
  ((t.nodes actor).stopCompleted=true → (t.nodes actor).state=.stopped ∧
   (t.nodes actor).postStops=1 ∧ actor∉t.actors) ∧
  ∀event t',next maxActors t event=some t' → t.Obeys actor (t'.nodes actor):=by
 have hinv:=reachable_inv h
 have hpost:=(hinv.sound actor).postStops
 refine ⟨fun hstopped child hchild=>?_,fun hstate=>?_,fun hstate=>?_,fun hdone=>?_,
  fun event t' hnext=>?_⟩
 · refine (hinv.kin child actor hchild).resolve_left fun hmem=>?_
   rw [hinv.empty actor hstopped] at hmem
   cases hmem
 · rcases hpost with hlive|hearly|hlate
   · exact hlive.2.1
   · exact absurd hearly.1 hstate
   · exact absurd hlate.1 hstate
 · rcases hpost with hlive|⟨-,hnone,-,hpoint⟩|hlate
   · exact absurd hstate hlive.1
   · refine Or.inr ⟨hnone,?_⟩
     rcases hpoint with hpoint|hpoint
     · exact signals_of_draining maxActors hpoint hnone
     · obtain ⟨t',hwork,hsignalled⟩:=signals_of_signalling maxActors hpoint hnone
       exact ⟨1,t',by decide,by simp [List.replicate,hwork],hsignalled⟩
   · exact Or.inl hlate.2
 · have hgone:=hinv.gone actor (Or.inr hdone)
   rcases hpost with hlive|hearly|hlate
   · rw [hlive.2.2] at hdone
     cases hdone
   · rw [hearly.2.2.1] at hdone
     cases hdone
   · exact ⟨hlate.1,hlate.2,hgone⟩
 · exact Tree.obeys_of_move hinv (Tree.move_of_next hinv.sound hnext) actor

def spawnAndStop : List Event:=
 .spawn 0 "a" :: List.replicate 7 (.spawnStep false) ++
  .spawn 1 "b" :: List.replicate 7 (.spawnStep false) ++
  [.send 1 .stop,.take 1 2,.process 1,.effect 1 .returned,.process 1] ++
  List.replicate 5 (.work 1) ++ [.take 2 2,.process 2,.effect 2 .returned,.process 2] ++
  List.replicate 13 (.work 2) ++ [.take 1 1,.process 1] ++ List.replicate 11 (.work 1)

theorem stop_hierarchical_of_spawned : ∃t:Tree,(system 10).Reachable t ∧
  (t.nodes 1).stopCompleted=true ∧ (t.nodes 2).parent=some 1 ∧ (t.nodes 2).state=.stopped ∧
  ((t.nodes 1).state=.stopped ∧ (t.nodes 1).postStops=1 ∧ 1∉t.actors):=by
 have hrun:(spawnAndStop.foldlM (next 10) Tree.create).map (fun t=>
  ((t.nodes 1).stopCompleted,(t.nodes 2).parent))=some (true,some 1):=by decide +kernel
 obtain ⟨t,hplay,hfacts⟩:=Option.map_eq_some_iff.mp hrun
 obtain ⟨hdone,hparent⟩:=Prod.mk.inj hfacts
 have hcreated:(system 10).Reachable .create:=.start rfl
 have hreachable:=hcreated.play (f := next 10) (fun _ _ _ h=>h) spawnAndStop hplay
 have hstops:=stop_hierarchical hreachable 1
 have hstopped:=hstops.2.2.2.1 hdone
 exact ⟨t,hreachable,hdone,hparent,hstops.1 hstopped.1 2 hparent,hstopped⟩

end Movie.ActorTree
