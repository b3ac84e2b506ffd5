import Movie.ActorTreeInvariant

/-!
# The moves of a tree of actors

`Move` lists what a step can do with everything that its guards say; every tree that a run
reaches meets the invariant.
-/
namespace Movie.ActorTree

open ActorContext (ActorState)
open Reachability

variable {t t':Tree} {actor maxActors:ℕ} {spawner:Spawner}

namespace Tree

inductive Turns (t:Tree):Spawner → Prop where
 | enters {parent:ℕ} {name:String} (hspawner:t.spawner=.idle)
  (hparent:parent∈t.actors):Turns t (.entered parent name)
 | refuses {parent:ℕ} {name:String} (hspawner:t.spawner=.entered parent name):
  Turns t .idle
 | skips {actor:ℕ} (hspawner:t.spawner=.starting actor):Turns t .idle
 | creates {actor:ℕ} (hspawner:t.spawner=.creating actor):Turns t (.opening actor)
 | occupied {actor:ℕ} (hspawner:t.spawner=.opening actor):Turns t (.aborting actor)
 | aborted {actor:ℕ} (hspawner:t.spawner=.completing actor)
  (hstate:(t.nodes actor).state=.stopped):Turns t .idle

inductive Move (t:Tree):Tree → Prop where
 | thread {actor:ℕ} {node:Node} {message:Option (ℕ×SystemMessage)}
  (h:(t.nodes actor).Changes actor node message):Move t (t.act actor (node,message))
 | message {target:ℕ} {message:SystemMessage} (h:message.External):
  Move t (t.tellSystem target message)
 | misses {actor:ℕ} (hpoint:(t.nodes actor).point=.locating)
  (hlocked:t.spawner.locked=false)
  (hparent:∀parent,(t.nodes actor).parent=some parent → parent∉t.actors):
  Move t (t.modify actor fun node=>{ node with point:=.notifying })
 | finds {actor parent:ℕ} (hpoint:(t.nodes actor).point=.locating)
  (hparent:(t.nodes actor).parent=some parent):
  Move t (t.modify actor fun node=>{ node with point:=.detaching })
 | detaches {actor parent:ℕ} (hpoint:(t.nodes actor).point=.detaching)
  (hparent:(t.nodes actor).parent=some parent):
  Move t ((t.modify parent fun node=>node.removeChild actor).modify actor fun node=>
   { node with point:=.notifying })
 | unregisters {actor:ℕ} (hpoint:(t.nodes actor).point=.unregistering)
  (hlocked:t.spawner.locked=false):
  Move t ((t.unregister actor).modify actor fun node=>{ node with point:=.finishing })
 | turns {spawner:Spawner} (h:t.Turns spawner):Move t { t with spawner:=spawner }
 | builds {parent:ℕ} {name:String} (hspawner:t.spawner=.entered parent name):
  Move t { t.setNode t.count (.create name ((t.nodes parent).path++[name])) with
   count:=t.count+1,spawner:=.attaching t.count parent }
 | rejects {actor parent:ℕ} (hspawner:t.spawner=.attaching actor parent):
  Move t { t with spawner:=.idle,raised:=t.raised++[actor] }
 | attaches {actor parent:ℕ} (hspawner:t.spawner=.attaching actor parent)
  (hstate:(t.nodes parent).state≠.stopping ∧ (t.nodes parent).state≠.stopped):
  Move t { t.attachChild actor parent with spawner:=.registering actor }
 | clashes {actor:ℕ} (hspawner:t.spawner=.registering actor) (htaken:t.PathTaken actor):
  Move t { t with spawner:=.idle,raised:=t.raised++[actor] }
 | registers {actor:ℕ} (hspawner:t.spawner=.registering actor)
  (hfree:¬ t.PathTaken actor):
  Move t { t.register actor with spawner:=.starting actor }
 | starts {actor:ℕ} (hspawner:t.spawner=.starting actor):
  Move t { t.modify actor fun node=>{ node with state:=.starting } with
   spawner:=.creating actor }
 | fails {actor:ℕ} (hspawner:t.spawner=.creating actor):
  Move t { t.modify actor fun node=>{ node with state:=.failed } with
   spawner:=.aborting actor }
 | opens {actor:ℕ} (hspawner:t.spawner=.opening actor):
  Move t { t.modify actor fun node=>
   { node with cell:={ (t.nodes actor).cell with attached:=true,pending:=[] } } with
   spawner:=.flushing actor (t.nodes actor).cell.pending }
 | flushes {actor:ℕ} {message:SystemMessage} {rest:List SystemMessage}
  (hspawner:t.spawner=.flushing actor (message::rest)):
  Move t { t.tellSystem actor message with spawner:=.flushing actor rest }
 | prestarts {actor:ℕ} (hspawner:t.spawner=.flushing actor []):
  Move t { t.tellSystem actor .preStart with spawner:=.idle }
 | aborts {actor:ℕ} (hspawner:t.spawner=.aborting actor):
  Move t { t.modify actor fun node=>
   { node with state:=.failed,point:=.completing,aborted:=true } with
   spawner:=.completing actor }

lemma move_of_spawnStep {fails:Bool} (h:t.spawnStep maxActors fails=some t'):t.Move t':=by
 cases hspawner:t.spawner with
 | idle=>
  simp only [spawnStep,hspawner] at h
  cases h
 | entered parent name=>
  simp only [spawnStep,hspawner] at h
  split at h
  · cases h
    exact .turns (.refuses hspawner)
  · cases h
    exact .builds hspawner
 | attaching actor parent=>
  simp only [spawnStep,hspawner] at h
  split at h
  · cases h
    exact .rejects hspawner
  · rename_i hstate
    cases h
    exact .attaches hspawner ⟨fun h=>hstate (Or.inl h),fun h=>hstate (Or.inr (Or.inl h))⟩
 | registering actor=>
  simp only [spawnStep,hspawner] at h
  split at h
  · rename_i htaken
    cases h
    exact .clashes hspawner htaken
  · rename_i hfree
    cases h
    exact .registers hspawner hfree
 | starting actor=>
  simp only [spawnStep,hspawner] at h
  split at h
  · cases h
    exact .starts hspawner
  · cases h
    exact .turns (.skips hspawner)
 | creating actor=>
  simp only [spawnStep,hspawner] at h
  split at h
  · cases h
    exact .fails hspawner
  · cases h
    exact .turns (.creates hspawner)
 | opening actor=>
  simp only [spawnStep,hspawner] at h
  split at h
  · cases h
    exact .turns (.occupied hspawner)
  · cases h
    exact .opens hspawner
 | flushing actor messages=>
  cases messages with
  | nil=>
   simp only [spawnStep,hspawner] at h
   cases h
   exact .prestarts hspawner
  | cons message rest=>
   simp only [spawnStep,hspawner] at h
   cases h
   exact .flushes hspawner
 | aborting actor=>
  simp only [spawnStep,hspawner] at h
  cases h
  exact .aborts hspawner
 | completing actor=>
  simp only [spawnStep,hspawner] at h
  split at h
  · rename_i hstate
    cases h
    exact .turns (.aborted hspawner hstate)
  · cases h

lemma move_of_work (hsound:(t.nodes actor).Sound) (h:t.work actor=some t'):t.Move t':=by
 unfold work at h
 split at h
 · rename_i hpoint
   split at h
   · cases h
   · rename_i hlocked
     split at h
     · rename_i parent hparent
       by_cases hmem:parent∈t.actors
       · rw [if_pos hmem] at h
         cases h
         exact .finds hpoint hparent
       · rw [if_neg hmem] at h
         cases h
         exact .misses hpoint (Bool.eq_false_iff.mpr hlocked) fun other hother=>by
          cases hparent.symm.trans hother
          exact hmem
     · rename_i hparent
       cases h
       exact .misses hpoint (Bool.eq_false_iff.mpr hlocked) fun other hother=>by
        cases hparent.symm.trans hother
 · rename_i hpoint
   obtain ⟨parent,hparent,rfl⟩:=Option.map_eq_some_iff.mp h
   exact .detaches hpoint hparent
 · rename_i hpoint
   split at h
   · cases h
   · rename_i hlocked
     cases h
     exact .unregisters hpoint (Bool.eq_false_iff.mpr hlocked)
 · obtain ⟨result,hresult,rfl⟩:=Option.map_eq_some_iff.mp h
   exact .thread (.of_work hsound hresult)

lemma move_of_next {event:Event}
  (hsound:∀actor,(t.nodes actor).Sound) (h:next maxActors t event=some t'):t.Move t':=by
 cases event with
 | spawn parent name=>
  simp only [next] at h
  split at h
  · rename_i hguard
    cases h
    exact .turns (.enters hguard.1 hguard.2.1)
  · cases h
 | spawnStep fails=>exact move_of_spawnStep h
 | send target message=>
  simp only [next] at h
  split at h
  · rename_i hguard
    cases h
    exact .message hguard.1
  · cases h
 | take actor count=>
  simp only [next] at h
  split at h
  · rename_i hguard
    cases h
    have htake:(t.nodes actor).Changes actor _ none:=
     .of_take (hsound actor) hguard.1 hguard.2.2.1 hguard.2.2.2
    exact .thread htake
  · cases h
 | process actor=>
  simp only [next] at h
  split at h
  · rename_i hpoint hbatch
    cases h
    exact .thread (.of_process (hsound actor) hpoint hbatch)
  · cases h
 | receive actor=>
  simp only [next] at h
  split at h
  · rename_i hguard
    cases h
    exact .thread (.of_receive (hsound actor) hguard.1 hguard.2.2)
  · cases h
 | effect actor effect=>
  simp only [next] at h
  split at h
  · rename_i running hpoint
    obtain ⟨result,hresult,rfl⟩:=Option.map_eq_some_iff.mp h
    exact .thread (.of_endCallback (hsound actor) hpoint hresult)
  · cases h
 | work actor=>exact move_of_work (hsound actor) h

lemma Inv.proceed (hinv:t.Inv)
  (hcompleting:∀actor,t.spawner=.completing actor → (t.nodes actor).state=.stopped)
  (hunborn:∀actor,spawner.unborn=some actor → t.spawner.unborn=some actor)
  (hspawning:{ t with spawner:=spawner }.Spawning spawner):
  { t with spawner:=spawner }.Inv:=by
 refine hinv.setSpawner le_rfl hcompleting (fun actor h=>hinv.unborn actor (Or.inr ?_))
  (fun actor h=>?_) hspawning
 · exact h.imp_left (hunborn actor)
 · obtain ⟨hcount,hmem,hother⟩:=hinv.raised actor h
   exact ⟨hcount,hmem,fun h'=>hother (hunborn actor h')⟩

lemma Inv.turns (hinv:t.Inv) (h:t.Turns spawner):{ t with spawner:=spawner }.Inv:=by
 have hspawning:=hinv.spawning
 cases h with
 | enters hspawner hparent=>
  exact hinv.proceed (by simp [hspawner]) (by simp [Spawner.unborn]) (Or.inl hparent)
 | refuses hspawner | skips hspawner=>
  exact hinv.proceed (by simp [hspawner]) (by simp [Spawner.unborn]) trivial
 | creates hspawner | occupied hspawner=>
  rw [hspawner] at hspawning
  exact hinv.proceed (by simp [hspawner]) (by simp [hspawner,Spawner.unborn]) hspawning
 | aborted hspawner hstate=>
  refine hinv.proceed (fun other hother=>?_) (by simp [Spawner.unborn]) trivial
  rw [hspawner] at hother
  cases hother
  exact hstate

lemma Inv.raise (hinv:t.Inv) (hunborn:t.spawner.unborn=some actor)
  (hactor:actor<t.count ∧ actor∉t.actors):
  { t with spawner:=.idle,raised:=t.raised++[actor] }.Inv:=by
 refine hinv.setSpawner le_rfl (fun other h=>?_) (fun other h=>hinv.unborn other (Or.inr ?_))
  (fun other h=>?_) trivial
 · rw [h] at hunborn
   cases hunborn
 · rcases h with h|h
   · cases h
   · rcases List.mem_append.mp h with h|h
     · exact Or.inr h
     · rw [List.mem_singleton.mp h]
       exact Or.inl hunborn
 · rcases List.mem_append.mp h with h|h
   · exact ⟨(hinv.raised other h).1,(hinv.raised other h).2.1,by simp [Spawner.unborn]⟩
   · rw [List.mem_singleton.mp h]
     exact ⟨hactor.1,hactor.2,by simp [Spawner.unborn]⟩

lemma embryo_create (name:String) (path:List String):(Node.create name path).Embryo:=by
 constructor <;> simp [Node.create,Cell.create,Node.Live]

lemma Inv.build {parent:ℕ} {name:String} (path:List String) (hinv:t.Inv)
  (hspawner:t.spawner=.entered parent name):{ t.setNode t.count (.create name path) with
    count:=t.count+1,spawner:=.attaching t.count parent }.Inv:=by
 have hcreate:=embryo_create name path
 have hfresh:=hinv.fresh t.count le_rfl
 have hedits:t.Edits t.count (.create name path):=
  .of_embryo (hinv.unborn t.count (Or.inl le_rfl)) hfresh.1.symm (Or.inl hcreate.live) hcreate.live
   rfl (fun child h=>by simp [Node.Hears,Node.create,Cell.create] at h)
   (fun h=>by cases h) fun _=>hcreate
 have hspawning:=hinv.spawning
 rw [hspawner] at hspawning
 refine (hinv.edit hedits).setSpawner (Nat.le_succ _) (by simp [setNode,hspawner]) ?_ ?_ ?_
 · rintro actor (h|h)
   · cases h
     exact forall_setNode (P := fun other node=>other=t.count → node.Embryo)
      (fun _=>hcreate) (fun _ h h'=>absurd h' h) t.count rfl
   · exact (hinv.edit hedits).unborn actor (Or.inr (Or.inr h))
 · intro actor h
   obtain ⟨hcount,hmem,-⟩:=hinv.raised actor h
   exact ⟨hcount.trans (Nat.lt_succ_self _),hmem,fun h'=>by
    cases h'
    exact absurd hcount (Nat.lt_irrefl _)⟩
 · exact ⟨Nat.lt_succ_self _,hedits.known hspawning,
    (hedits.parents t.count).trans hfresh.1,hfresh.2⟩

section

variable (hinv:t.Inv)
include hinv

lemma Inv.prepare {state:ActorState}
  (hactor:t.spawner.unborn=some actor) (hstate:state=.starting ∨ state=.failed)
  (hunborn:spawner.unborn=some actor)
  (hspawning:{ t.modify actor fun node=>{ node with state:=state } with
   spawner:=spawner }.Spawning spawner):
  { t.modify actor fun node=>{ node with state:=state } with spawner:=spawner }.Inv:=by
 have hembryo:=hinv.unborn actor (Or.inr (Or.inl hactor))
 have hlive:{ t.nodes actor with state:=state }.Live:=
  ⟨by rcases hstate with rfl|rfl <;> simp,hembryo.live.2⟩
 have hchanged:{ t.nodes actor with state:=state }.Embryo:=
  { hembryo with live:=hlive,state:=by rcases hstate with rfl|rfl <;> simp }
 have hedits:t.Edits actor { t.nodes actor with state:=state }:=
  .of_embryo hembryo rfl (Node.sound_of_idle hembryo.point hlive) hlive hembryo.children
   (hinv.heard actor) (by simp [hembryo.point]) fun _=>hchanged
 refine (hinv.edit hedits).proceed (fun other h=>?_) (fun other h=>?_) hspawning
 · have h':t.spawner=.completing other:=h
   rw [h'] at hactor
   cases hactor
 · exact hactor.trans (hunborn.symm.trans h)

lemma Inv.not_unborn_of_release (hactor:t.spawner.unborn=some actor) (hcount:actor<t.count)
  (hspawner:spawner.unborn=none):¬ { t with spawner:=spawner }.Unborn actor:=by
 rintro (h|h|h)
 · exact absurd hcount (Nat.not_lt.mpr h)
 · rw [hspawner] at h
   cases h
 · exact (hinv.raised actor h).2.2 hactor

lemma Inv.open (hspawner:t.spawner=.opening actor):
  { t.modify actor fun node=>
     { node with cell:={ (t.nodes actor).cell with attached:=true,pending:=[] } } with
    spawner:=.flushing actor (t.nodes actor).cell.pending }.Inv:=by
 have hactor:t.spawner.unborn=some actor:=by rw [hspawner]; rfl
 have hembryo:=hinv.unborn actor (Or.inr (Or.inl hactor))
 have hspawning:=hinv.spawning
 rw [hspawner] at hspawning
 have hflushing:{ t with spawner:=.flushing actor (t.nodes actor).cell.pending }.Inv:=
  hinv.proceed (by simp [hspawner]) (by simp [Spawner.unborn]) fun child h=>
   hinv.heard actor child (Or.inl h)
 refine hflushing.edit (.of_embryo hembryo rfl (Node.sound_of_idle hembryo.point hembryo.live)
  hembryo.live hembryo.children (fun child h=>?_) (by simp [hembryo.point]) fun h=>?_)
 · rcases h with h|h|h|h
   · cases h
   · exact hinv.heard actor child (Or.inr (Or.inl h))
   · exact hinv.heard actor child (Or.inr (Or.inr (Or.inl h)))
   · exact hinv.heard actor child (Or.inr (Or.inr (Or.inr h)))
 · exact absurd h (hinv.not_unborn_of_release hactor hspawning rfl)

lemma Inv.abort (hspawner:t.spawner=.aborting actor):
  { t.modify actor fun node=>
     { node with state:=.failed,point:=.completing,aborted:=true } with
    spawner:=.completing actor }.Inv:=by
 have hactor:t.spawner.unborn=some actor:=by rw [hspawner]; rfl
 have hembryo:=hinv.unborn actor (Or.inr (Or.inl hactor))
 have hspawning:=hinv.spawning
 rw [hspawner] at hspawning
 have hcompleting:{ t with spawner:=.completing actor }.Inv:=
  hinv.proceed (by simp [hspawner]) (by simp [Spawner.unborn]) trivial
 have hlive:{ t.nodes actor with state:=.failed,point:=.completing,aborted:=true }.Live:=
  ⟨by simp,hembryo.live.2⟩
 refine hcompleting.edit (.of_embryo hembryo rfl ⟨hlive,hembryo.children,Or.inr rfl⟩ hlive
  hembryo.children (fun child h=>?_) (fun _=>rfl) fun h=>?_)
 · exact hinv.heard actor child (h.of_cell rfl rfl (by simp))
 · exact absurd h (hinv.not_unborn_of_release hactor hspawning rfl)

lemma Inv.act {node:Node} {message:Option (ℕ×SystemMessage)}
  (h:(t.nodes actor).Changes actor node message):
  (t.act actor (node,message)).Inv:=by
 have hedits:=Edits.of_changes hinv h
 cases message with
 | none=>exact hinv.edit hedits
 | some sent=>
  obtain ⟨target,message⟩:=sent
  refine (hinv.edit hedits).tellSystem fun child hchild=>?_
  have hsends:=h.sends
  rw [hchild] at hsends
  obtain ⟨hself,hstopped⟩:=hsends
  rw [hself]
  exact (hedits.stopped actor hstopped).1

lemma Inv.leave {point:Point}
  (hbefore:(t.nodes actor).point=.locating ∨ (t.nodes actor).point=.detaching)
  (hafter:point=.detaching ∨ point=.notifying):
  (t.modify actor fun node=>{ node with point:=point }).Inv:=by
 have hstopped:(t.nodes actor).Stopped 1 false:=by
  rcases hbefore with h|h <;> exact (hinv.sound actor).at_point h
 refine hinv.edit (.of_late hinv hstopped ?_ ?_ ?_ ?_ ?_)
 · rcases hbefore with h|h <;> simp [h]
 · rcases hafter with rfl|rfl <;> exact hstopped
 · rcases hafter with rfl|rfl <;> simp
 · rcases hafter with rfl|rfl <;> simp
 · rcases hafter with rfl|rfl <;> simp

lemma Inv.detach {actor parent:ℕ} (hpoint:(t.nodes actor).point=.detaching):
  ((t.modify parent fun node=>node.removeChild actor).modify actor fun node=>
   { node with point:=.notifying }).Inv:=by
 have hstopped:(t.nodes actor).Stopped 1 false:=(hinv.sound actor).at_point hpoint
 have hremoved:(t.modify parent fun node=>node.removeChild actor).Inv:=
  hinv.edit (.of_removeChild hinv hstopped.1)
 have hsame:((t.modify parent fun node=>node.removeChild actor).nodes actor).point =
  (t.nodes actor).point:=by
  refine forall_setNode (P := fun other node=>node.point=(t.nodes other).point) ?_
   (fun _ _=>rfl) actor
  rfl
 exact hremoved.leave (Or.inr (hsame.trans hpoint)) (Or.inr rfl)

lemma Inv.finish (hpoint:(t.nodes actor).point=.unregistering):
  ((t.unregister actor).modify actor fun node=>{ node with point:=.finishing }).Inv:=by
 have hstopped:(t.nodes actor).Stopped 1 false:=(hinv.sound actor).at_point hpoint
 have hunregistered:=hinv.unregister hstopped.1
 refine hunregistered.edit (.of_late hunregistered hstopped ?_ hstopped ?_ ?_ fun _=>?_)
 · simp [Tree.unregister,hpoint]
 · simp
 · simp
 · simp [Tree.unregister]

lemma Inv.move (h:t.Move t'):t'.Inv:=by
 have hspawning:=hinv.spawning
 cases h with
 | thread h=>exact hinv.act h
 | message h=>
  refine hinv.tellSystem fun child hchild=>?_
  rw [hchild] at h
  cases h
 | misses hpoint _ _=>exact hinv.leave (Or.inl hpoint) (Or.inr rfl)
 | finds hpoint _=>exact hinv.leave (Or.inl hpoint) (Or.inl rfl)
 | detaches hpoint _=>exact hinv.detach hpoint
 | unregisters hpoint _=>exact hinv.finish hpoint
 | turns h=>exact hinv.turns h
 | builds hspawner=>exact hinv.build _ hspawner
 | rejects hspawner=>
  rw [hspawner] at hspawning
  exact hinv.raise (by rw [hspawner]; rfl) ⟨hspawning.1,hspawning.2.2.2⟩
 | attaches hspawner hstate=>exact hinv.attachChild hspawner hstate
 | clashes hspawner _=>
  rw [hspawner] at hspawning
  exact hinv.raise (by rw [hspawner]; rfl) ⟨hspawning.1,hspawning.2.1⟩
 | registers hspawner _=>exact hinv.register hspawner
 | starts hspawner=>
  rw [hspawner] at hspawning
  exact hinv.prepare (by rw [hspawner]; rfl) (Or.inl rfl) rfl hspawning
 | fails hspawner=>
  rw [hspawner] at hspawning
  exact hinv.prepare (by rw [hspawner]; rfl) (Or.inr rfl) rfl hspawning
 | opens hspawner=>exact hinv.open hspawner
 | flushes hspawner=>
  rw [hspawner] at hspawning
  rename_i actor message rest
  have htold:(t.tellSystem actor message).Inv:=hinv.tellSystem fun child hchild=>
   hspawning child (hchild▸List.mem_cons_self)
  have hlater:=htold.spawning
  rw [show (t.tellSystem actor message).spawner=_ from hspawner] at hlater
  exact htold.proceed (by simp [Tree.tellSystem,modify,setNode,hspawner])
   (by simp [Spawner.unborn]) fun child h=>hlater child (List.mem_cons_of_mem _ h)
 | prestarts hspawner=>
  rename_i actor
  have htold:(t.tellSystem actor .preStart).Inv:=hinv.tellSystem (by simp)
  exact htold.proceed (by simp [Tree.tellSystem,modify,setNode,hspawner])
   (by simp [Spawner.unborn]) trivial
 | aborts hspawner=>exact hinv.abort hspawner

end

lemma inv_create : Tree.create.Inv:=by
 have hroot:Tree.create.nodes 0={ Node.create "/" [] with
  state:=.running,cell:={ Cell.create with attached:=true } }:=rfl
 have hother {actor:ℕ} (h:actor≠0):Tree.create.nodes actor=.create "" []:=if_neg h
 have hlive (actor:ℕ):(Tree.create.nodes actor).Live:=by
  by_cases h:actor=0
  · subst h
    simp [hroot,Node.Live,Node.create]
  · rw [hother h]
    exact (embryo_create "" []).live
 have hnode (actor:ℕ):(Tree.create.nodes actor).point=.idle ∧
  (Tree.create.nodes actor).children=[] ∧ (Tree.create.nodes actor).parent=none ∧
  ∀child,¬ (Tree.create.nodes actor).Hears child:=by
  by_cases h:actor=0
  · subst h
    simp [hroot,Node.create,Cell.create,Node.Hears]
  · simp [hother h,Node.create,Cell.create,Node.Hears]
 exact {
  sound:=fun actor=>Node.sound_of_idle (hnode actor).1 (hlive actor)
  link:=fun parent child h=>by
   rw [(hnode parent).2.1] at h
   cases h
  kin:=fun child parent h=>by
   rw [(hnode child).2.2.1] at h
   cases h
  empty:=fun actor h=>absurd h (hlive actor).1
  heard:=fun actor child h=>absurd h ((hnode actor).2.2.2 child)
  gone:=fun actor h=>absurd
   ((Node.sound_of_idle (hnode actor).1 (hlive actor)).stopped_of_left h.left) (hlive actor).1
  aborts:=fun actor h=>by
   rw [(hnode actor).1] at h
   cases h
  unborn:=fun actor h=>by
   rcases h with h|h|h
   · rw [hother (Nat.ne_of_gt h)]
     exact embryo_create "" []
   · cases h
   · cases h
  fresh:=fun actor h=>⟨(hnode actor).2.2.1,by
   simp [Tree.create,Nat.ne_of_gt (show 0<actor from h)]⟩
  raised:=fun actor h=>by cases h
  spawning:=trivial }

end Tree

lemma reachable_inv (h:(system maxActors).Reachable t):t.Inv:=by
 refine h.invariant (I := Tree.Inv) ?_ fun t event t' _ hinv hstep=>?_
 · rintro t rfl
   exact Tree.inv_create
 · exact hinv.move (Tree.move_of_next hinv.sound hstep)

end Movie.ActorTree
