import Movie.ActorTreeMoves

/-!
# The restarts of an actor

A journal beside the tree counts the calls of `_complete_restart` that follow a `Restart`. After a
failed one a `Terminated` or `Restart` that is read before the `Stop` restarts the actor again.
-/
namespace Movie.ActorRestart

open ActorTree Reachability

/-- `attempts` counts the calls of `_complete_restart` since the actor began the last `Restart`;
 `failed` says that a factory or a `PreStart` has raised an error in one of them. -/
structure Journal where
 attempts:ℕ
 failed:Bool
 deriving DecidableEq

def Journal.read (journal:Journal) (before after:Node):Journal where
 attempts:=
  if before.point=.idle ∧ after.point=.listing true then 0
  else if before.point≠.callback .restart ∧ after.point=.callback .restart then
   journal.attempts+1
  else journal.attempts
 failed:=journal.failed || decide (before.point=.callback .restart ∧
  after.point≠.callback .restart ∧ after.state=.failed)

structure Watched where
 tree:Tree
 journal:ℕ → Journal

def Watched.create : Watched:=⟨.create,fun _=>⟨0,false⟩⟩

def Watched.next (maxActors:ℕ) (w:Watched) (event:Event):Option Watched:=
 (ActorTree.next maxActors w.tree event).map fun tree=>
  ⟨tree,fun actor=>(w.journal actor).read (w.tree.nodes actor) (tree.nodes actor)⟩

def watchedSystem (maxActors:ℕ):System Watched Event where
 init w:=w=.create
 step w event w':=w.next maxActors event=some w'

/-- An actor whose restart has failed reads no `Restart` and no `Terminated` before its `Stop`. -/
def heeds (w:Watched):Event → Bool
 | .process actor=>
  !((w.journal actor).failed && decide ((w.tree.nodes actor).state=.failed)) ||
   (w.tree.nodes actor).batch.head?.all fun
    | .restart | .terminated _=>false
    | _=>true
 | _=>true

def begun : Point → Bool
 | .listing true | .telling true _ | .counting true=>true
 | _=>false

def resting : Point → Bool
 | .idle | .callback .signal | .callback (.supervise _) | .reporting=>true
 | _=>false

def ending : Point → Bool
 | .listing true | .telling true _ | .counting true | .callback .restart
 | .callback .preStart=>false
 | _=>true

def Over (node:Node):Prop:=
 match node.state with
 | .failed=>resting node.point=true
 | .stopping | .stopped=>node.restartPending=false ∧ ending node.point=true
 | _=>False

structure Watch (node:Node) (journal:Journal):Prop where
 once:journal.attempts≤1
 ended:journal.failed=true → Over node
 begun:begun node.point=true → journal.attempts=0
 pending:node.restartPending=true →
  journal.failed=true ∨ node.point=.callback .restart ∨ journal.attempts=0

def Same (node node':Node):Prop:=
 node'.state=node.state ∧ node'.restartPending=node.restartPending ∧ node'.point=node.point

def Follows (journal:Journal) (before after:Node):Prop:=
 Watch after (journal.read before after)

section

variable {node node':Node} {journal:Journal} {self:ℕ} {running:Callback}
  {message:Option (ℕ×SystemMessage)} {rest:List SystemMessage} {before:Point}

lemma watch_initial (node:Node):Watch node ⟨0,false⟩:=
 ⟨Nat.zero_le 1,fun hset=>absurd hset Bool.false_ne_true,fun _=>rfl,fun _=>.inr (.inr rfl)⟩

lemma read_same (hpoint:node'.point=node.point):journal.read node node'=journal:=by
 have hidle:¬(node.point=.idle ∧ node.point=.listing true):=fun h=>
  Point.noConfusion (h.1.symm.trans h.2)
 rw [Journal.read,hpoint,if_neg hidle,if_neg fun h=>h.1 h.2,
  decide_eq_false fun h=>h.2.1 h.1,Bool.or_false]

def leaves (before after:Point):Bool:=
 decide (before≠.callback .restart ∧ after≠.callback .restart ∧ after≠.listing true) &&
  (!begun after || begun before)

lemma read_leaves (hpoint:leaves node.point node'.point=true):
  journal.read node node'=journal:=by
 simp only [leaves,Bool.and_eq_true,decide_eq_true_eq] at hpoint
 obtain ⟨⟨hbefore,hafter,hlisting⟩,-⟩:=hpoint
 simp [Journal.read,hbefore,hafter,hlisting]

section

variable (h:Watch node journal)
include h

lemma Watch.congr (hsame:Same node node'):Watch node' journal:=by
 obtain ⟨hstate,hpending,hpoint⟩:=hsame
 have hover:Over node'=Over node:=by simp only [Over,hstate,hpending,hpoint]
 exact ⟨h.once,hover▸h.ended,hpoint▸h.begun,hpending▸hpoint▸h.pending⟩

lemma Watch.same (hsame:Same node node'):
  Follows journal node node':=by
 rw [Follows,read_same hsame.2.2]
 exact h.congr hsame

lemma Watch.quiet (hbefore:node.point=before) (hpoint:leaves before node'.point=true)
  (hpending:node'.restartPending=true → node.restartPending=true)
  (hover:journal.failed=true → Over node → Over node'):Follows journal node node':=by
 subst hbefore
 rw [Follows,read_leaves hpoint]
 simp only [leaves,Bool.and_eq_true,decide_eq_true_eq,Bool.or_eq_true,Bool.not_eq_true'] at hpoint
 obtain ⟨⟨hbefore,-,-⟩,hbegun⟩:=hpoint
 refine ⟨h.once,fun hfailed=>hover hfailed (h.ended hfailed),fun hnow=>?_,fun hnow=>?_⟩
 · rcases hbegun with hnot|hwas
   · exact absurd hnow (Bool.eq_false_iff.mp hnot)
   · exact h.begun hwas
 · rcases h.pending (hpending hnow) with hfailed|hpoint|hnone
   · exact .inl hfailed
   · exact absurd hpoint hbefore
   · exact .inr (.inr hnone)

lemma Watch.enters (hover:¬Over node)
  (hpoint:node.point≠.callback .restart) (hattempts:journal.attempts=0):
  Follows journal node (node.call .restart):=by
 have hfailed:journal.failed=false:=
  Bool.eq_false_iff.mpr fun hfailed=>hover (h.ended hfailed)
 have hread:journal.read node (node.call .restart)=⟨1,false⟩:=by
  simp [Journal.read,Node.call,hpoint,hfailed,hattempts]
 rw [Follows,hread]
 exact ⟨le_rfl,fun hset=>absurd hset Bool.false_ne_true,
  fun hset=>absurd hset Bool.false_ne_true,fun _=>.inr (.inl rfl)⟩

lemma Watch.move (hbefore:node.point=before)
  (hpoint:(leaves before node'.point && (!resting before || resting node'.point) &&
   (!ending before || ending node'.point))=true) (hstate:node'.state=node.state)
  (hpending:node'.restartPending=node.restartPending):Follows journal node node':=by
 subst hbefore
 simp only [Bool.and_eq_true,Bool.or_eq_true,Bool.not_eq_true'] at hpoint
 obtain ⟨⟨hleaves,hresting⟩,hending⟩:=hpoint
 refine h.quiet rfl hleaves (fun hset=>hpending▸hset) fun _ hover=>?_
 unfold Over at hover ⊢
 rw [hstate,hpending]
 split at hover
 · exact hresting.resolve_left (ne_false_of_eq_true hover)
 · exact ⟨hover.1,hending.resolve_left (ne_false_of_eq_true hover.2)⟩
 · exact ⟨hover.1,hending.resolve_left (ne_false_of_eq_true hover.2)⟩
 · exact hover

lemma Watch.work (hwork:node.work self=some (node',message)):
  Follows journal node node':=by
 unfold Node.work at hwork
 split at hwork
 case h_5 restart hpoint=>
  split at hwork
  · cases restart with
    | false=>
     cases hwork
     exact h.move hpoint rfl rfl rfl
    | true=>
     cases hwork
     have hover:¬Over node:=by
      unfold Over
      rw [hpoint]
      split <;> simp [resting,ending]
     exact h.enters hover (fun heq=>Point.noConfusion (hpoint.symm.trans heq))
      (h.begun (hpoint▸rfl))
  · cases hwork
    exact h.move hpoint (by cases restart <;> rfl) rfl rfl
 case h_7 hpoint=>
  split at hwork
  · cases hwork
    exact h.move hpoint rfl rfl rfl
  · split at hwork
    · rename_i hsettled
      cases hwork
      have hover:¬Over node:=by
       unfold Over
       rw [hpoint]
       split <;> simp [resting,hsettled.1]
      refine h.enters hover (fun heq=>Point.noConfusion (hpoint.symm.trans heq)) ?_
      rcases h.pending hsettled.1 with hfailed|hcalling|hnone
      · exact absurd (h.ended hfailed) hover
      · rw [hpoint] at hcalling
        cases hcalling
      · exact hnone
    · cases hwork
      exact h.move hpoint rfl rfl rfl
 case h_9 hpoint=>
  split at hwork
  · cases hwork
    exact h.move hpoint rfl rfl rfl
  · cases hwork
    refine h.quiet hpoint rfl id fun _ hover=>?_
    unfold Over at hover
    rw [hpoint] at hover
    split at hover
    · cases hover
    · exact ⟨hover.1,rfl⟩
    · exact ⟨hover.1,rfl⟩
    · exact hover.elim
 case h_2 restart hpoint | h_3 restart _ _ hpoint | h_4 restart hpoint=>
  cases hwork
  exact h.move hpoint (by cases restart <;> rfl) rfl rfl
 all_goals
  rename_i hpoint
  cases hwork
  try exact h.move hpoint rfl rfl rfl

lemma Watch.stop {message:SystemMessage}
  (hmessage:message=.stop ∨ message=.terminate) (hpoint:node.point=before)
  (hbefore:before=.idle ∨ before=.callback .receive):
  Follows journal node ({ node with batch:=rest,point:=.idle }.invokeSystem message):=by
 unfold Node.invokeSystem
 split
 · exact h.move hpoint (by rcases hbefore with rfl|rfl <;> rfl) rfl rfl
 · rcases hmessage with rfl|rfl <;> dsimp only
   all_goals
    split
    · rename_i hstate
      refine h.quiet hpoint (by rcases hbefore with rfl|rfl <;> rfl) id fun _ hover=>?_
      simp only [Over,hstate] at hover ⊢
      exact ⟨hover.1,rfl⟩
    · exact h.quiet hpoint (by rcases hbefore with rfl|rfl <;> rfl)
       (fun hset=>absurd hset Bool.false_ne_true) fun _ _=>⟨rfl,rfl⟩

lemma Watch.fail {cell:Cell} (hpoint:node.point=.callback running) (hrunning:running≠.restart):
  Follows journal node { node with cell:=cell,batch:=rest }.fail:=by
 unfold Node.fail
 split
 · refine h.move hpoint ?_ rfl rfl
   cases running <;> first | rfl | exact absurd rfl hrunning
 · refine h.quiet hpoint ?_ id fun _ _=>rfl
   cases running <;> first | rfl | exact absurd rfl hrunning

end

lemma not_over_of_starting (hpoint:node.point=.callback .restart ∨
  node.point=.callback .preStart):¬Over node:=by
 unfold Over
 rcases hpoint with hpoint|hpoint <;> rw [hpoint] <;> split <;> simp [resting,ending]

lemma Watch.finishStart (h:Watch node journal)
  (hpoint:node.point=.callback .restart ∨ node.point=.callback .preStart):
  Follows journal node node.finishStart:=by
 have hfailed:journal.failed=false:=
  Bool.eq_false_iff.mpr fun hfailed=>not_over_of_starting hpoint (h.ended hfailed)
 have hread:journal.read node node.finishStart=journal:=by
  simp [Journal.read,Node.finishStart]
 rw [Follows,hread]
 exact ⟨h.once,fun hnow=>absurd hnow (Bool.eq_false_iff.mp hfailed),
  fun hset=>absurd hset Bool.false_ne_true,fun hset=>absurd hset Bool.false_ne_true⟩

lemma Watch.endCallback {effect:Effect} (h:Watch node journal) (hpoint:node.point=.callback running)
  (hend:node.endCallback self running effect=some (node',message)):
  Follows journal node node':=by
 unfold Node.endCallback at hend
 split at hend
 case h_4=>
  cases hend
  exact h.stop (.inl rfl) hpoint (.inr rfl)
 case h_5=>
  cases hend
  exact h.finishStart (.inr hpoint)
 case h_6=>
  cases hend
  exact h.finishStart (.inl hpoint)
 case h_8 | h_9=>
  cases hend
  have hread:journal.read node { node with state:=.failed,point:=.idle } =
   ⟨journal.attempts,true⟩:=by simp [Journal.read,hpoint]
  rw [Follows,hread]
  exact ⟨h.once,fun _=>rfl,fun hset=>absurd hset Bool.false_ne_true,fun _=>.inl rfl⟩
 case h_10 | h_11=>
  rename_i hrestart
  cases hend
  exact h.fail hpoint hrestart
 case h_12=>cases hend
 all_goals
  cases hend
  exact h.move hpoint rfl rfl rfl

/-- A message that is read: `Restart` and `Terminated` are not read by an actor whose restart
 has failed, unless it stops. -/
lemma Watch.process {message:SystemMessage} (h:Watch node journal)
  (hpoint:node.point=.idle) (hheeds:journal.failed=true → node.state=.failed →
   message≠.restart ∧ ∀child,message≠.terminated child):
  Follows journal node ({ node with batch:=rest }.invokeSystem message):=by
 have hstop (hmessage:message=.stop ∨ message=.terminate):
  Follows journal node ({ node with batch:=rest }.invokeSystem message):=by
  have hidle:{ node with batch:=rest }={ node with batch:=rest,point:=.idle }:=by
   rw [←hpoint]
  rw [hidle]
  exact h.stop hmessage hpoint (.inl rfl)
 by_cases hstopped:node.state=.stopped
 · unfold Node.invokeSystem
   rw [if_pos hstopped]
   exact h.same ⟨rfl,rfl,rfl⟩
 cases message with
 | stop=>exact hstop (.inl rfl)
 | terminate=>exact hstop (.inr rfl)
 | preStart=>
  unfold Node.invokeSystem
  rw [if_neg hstopped]
  dsimp only
  split
  · rename_i hstate
    refine h.quiet hpoint rfl id fun _ hover=>?_
    simp only [Over,hstate] at hover
  · exact h.same ⟨rfl,rfl,rfl⟩
 | terminated child=>
  unfold Node.invokeSystem
  rw [if_neg hstopped]
  refine h.quiet hpoint rfl id fun hfailed hover=>?_
  unfold Over at hover ⊢
  dsimp only
  split at hover
  · rename_i hstate
    exact absurd rfl ((hheeds hfailed hstate).2 child)
  · exact ⟨hover.1,rfl⟩
  · exact ⟨hover.1,rfl⟩
  · exact hover
 | restart=>
  unfold Node.invokeSystem
  rw [if_neg hstopped]
  dsimp only
  split
  · exact h.same ⟨rfl,rfl,rfl⟩
  · rename_i hstopping
    have hfailed:journal.failed=false:=Bool.eq_false_iff.mpr fun hfailed=>by
     have hover:=h.ended hfailed
     unfold Over at hover
     split at hover
     · rename_i hstate
       exact (hheeds hfailed hstate).1 rfl
     · rename_i hstate
       exact hstopping hstate
     · rename_i hstate
       exact hstopped hstate
     · exact hover
    have hread (after:Node) (hafter:after.point=.listing true):
     journal.read node after=⟨0,false⟩:=by
     simp [Journal.read,hpoint,hafter,hfailed]
    rw [Follows,hread _ rfl]
    exact watch_initial _
 | failed child | control=>
  unfold Node.invokeSystem
  rw [if_neg hstopped]
  exact h.move hpoint rfl rfl rfl

end

section

variable {maxActors self:ℕ} {t t':Tree} {w w':Watched} {event:Event}

def Unstarted (t:Tree) (actor:ℕ):Prop:=t.count≤actor ∨ t.spawner.unborn=some actor

lemma Unstarted.of_move {actor:ℕ} (hnow:Unstarted t' actor) (h:t.Move t'):
  Unstarted t actor:=by
 unfold Unstarted at hnow ⊢
 cases h with
 | thread h=>
  rename_i message
  rcases message with _|⟨target,message⟩ <;> exact hnow
 | turns h=>cases h <;> simp_all [Spawner.unborn]
 | builds hspawner=>
  simp only [Spawner.unborn,Option.some.injEq] at hnow
  exact .inl (by omega)
 | _=>
  simp_all [Spawner.unborn,Tree.tellSystem,Tree.modify,Tree.setNode,Tree.unregister,
   Tree.attachChild,Tree.register]

def Spares (t:Tree) (actor:ℕ) (node:Node):Prop:=
 Same (t.nodes actor) node ∨
  Unstarted t actor ∧ (node.point=(t.nodes actor).point ∨ leaves .idle node.point=true)

lemma spares_same (t:Tree) (actor:ℕ):Spares t actor (t.nodes actor):=
 .inl ⟨rfl,rfl,rfl⟩

lemma same_modify (t:Tree) (self:ℕ) (change:Node → Node)
  (hchange:∀node,Same node (change node)) (actor:ℕ):
  Same (t.nodes actor) ((t.modify self change).nodes actor):=
 t.forall_setNode (P := fun actor node=>Same (t.nodes actor) node) (hchange _)
  (fun _ _=>⟨rfl,rfl,rfl⟩) actor

lemma same_tellSystem (target:ℕ) (message:SystemMessage) (actor:ℕ):
  Same (t.nodes actor) ((t.tellSystem target message).nodes actor):=
 same_modify t target (fun node=>{ node with cell:=node.cell.tellSystem message })
  (fun _=>⟨rfl,rfl,rfl⟩) actor

lemma same_attachChild (child parent actor:ℕ):
  Same (t.nodes actor) ((t.attachChild child parent).nodes actor):=by
 unfold Tree.attachChild
 have hparent:=same_modify t parent (fun node=>
  { node with children:=node.children++[child] })
  (fun _=>⟨rfl,rfl,rfl⟩) actor
 generalize t.modify parent _=middle at hparent ⊢
 have hchild:=same_modify middle child (fun node=>{ node with parent:=some parent })
  (fun _=>⟨rfl,rfl,rfl⟩) actor
 exact ⟨hchild.1.trans hparent.1,hchild.2.1.trans hparent.2.1,hchild.2.2.trans hparent.2.2⟩

lemma spares_spawnStep {fails:Bool} (hstep:t.spawnStep maxActors fails=some t')
  (actor:ℕ):Spares t actor (t'.nodes actor):=by
 unfold Tree.spawnStep at hstep
 split at hstep
 case h_1=>cases hstep
 case h_2=>
  split at hstep <;> cases hstep
  · exact spares_same t actor
  · exact t.forall_setNode (P := Spares t) (.inr ⟨.inl le_rfl,.inr rfl⟩)
     (fun _ _=>spares_same t _) actor
 case h_3=>
  split at hstep <;> cases hstep
  · exact spares_same t actor
  · exact .inl (same_attachChild _ _ actor)
 case h_5 self hspawner | h_6 self hspawner=>
  split at hstep <;> cases hstep
  · refine t.forall_setNode (P := Spares t) ?_ (fun _ _=>spares_same t _) actor
    exact .inr ⟨.inr (by rw [hspawner]; rfl),.inl rfl⟩
  · exact spares_same t actor
 case h_7 self hspawner=>
  dsimp only at hstep
  split at hstep <;> cases hstep
  · exact spares_same t actor
  · refine t.forall_setNode (P := Spares t) ?_ (fun _ _=>spares_same t _) actor
    exact .inr ⟨.inr (by rw [hspawner]; rfl),.inl rfl⟩
 case h_8 | h_9=>
  cases hstep
  exact .inl (same_tellSystem _ _ actor)
 case h_10 self hspawner=>
  cases hstep
  exact t.forall_setNode (P := Spares t) (.inr ⟨.inr (by rw [hspawner]; rfl),.inr rfl⟩)
   (fun _ _=>spares_same t _) actor
 case h_4 | h_11=>
  split at hstep <;> cases hstep
  all_goals exact spares_same t actor

structure Kept (maxActors:ℕ) (w:Watched):Prop where
 reachable:(system maxActors).Reachable w.tree
 unstarted:∀actor,Unstarted w.tree actor → w.journal actor=⟨0,false⟩
 watch:∀actor,Watch (w.tree.nodes actor) (w.journal actor)

lemma Kept.act (h:Kept maxActors w) {node:Node} (message:Option (ℕ×SystemMessage))
  (hnode:Follows (w.journal self) (w.tree.nodes self) node) (actor:ℕ):
  Follows (w.journal actor) (w.tree.nodes actor)
   ((w.tree.act self (node,message)).nodes actor):=by
 have hset:Follows (w.journal actor) (w.tree.nodes actor)
  ((w.tree.setNode self node).nodes actor):=
  Tree.forall_setNode (P := fun actor node=>Follows (w.journal actor) (w.tree.nodes actor) node)
   hnode (fun other _=>(h.watch other).same ⟨rfl,rfl,rfl⟩) actor
 rcases message with _|⟨target,message⟩
 · exact hset
 · have hsame:=same_tellSystem (t := w.tree.setNode self node) target message actor
   have hread (before:Node):(w.journal actor).read before
    ((w.tree.act self (node,some (target,message))).nodes actor) =
     (w.journal actor).read before ((w.tree.setNode self node).nodes actor):=by
    simp only [Journal.read,Tree.act,hsame.1,hsame.2.2]
   rw [Follows,hread]
   exact hset.congr hsame

lemma Kept.work (h:Kept maxActors w) (hwork:w.tree.work self=some t') (actor:ℕ):
  Follows (w.journal actor) (w.tree.nodes actor) (t'.nodes actor):=by
 unfold Tree.work at hwork
 split at hwork
 · rename_i hpoint
   split at hwork
   · cases hwork
   · split at hwork
     · cases hwork
       refine h.act none ?_ actor
       exact (h.watch self).move hpoint (by dsimp only; split <;> rfl) rfl rfl
     · cases hwork
       refine h.act none ?_ actor
       exact (h.watch self).move hpoint rfl rfl rfl
 · rename_i hpoint
   obtain ⟨parent,-,rfl⟩:=Option.map_eq_some_iff.mp hwork
   have hsame:=same_modify w.tree parent (fun node=>node.removeChild self)
    fun _=>⟨rfl,rfl,rfl⟩
   refine (w.tree.modify parent _).forall_setNode (P := fun actor node=>
    Follows (w.journal actor) (w.tree.nodes actor) node) ?_ (fun other _=>?_) actor
   · exact (h.watch self).move hpoint rfl (hsame self).1 (hsame self).2.1
   · exact (h.watch other).same (hsame other)
 · rename_i hpoint
   split at hwork
   · cases hwork
   · cases hwork
     refine h.act none ?_ actor
     exact (h.watch self).move hpoint rfl rfl rfl
 · obtain ⟨⟨node,message⟩,hnode,rfl⟩:=Option.map_eq_some_iff.mp hwork
   exact h.act message ((h.watch self).work hnode) actor

lemma Kept.next (h:Kept maxActors w) (hheeds:heeds w event=true)
  (hnext:w.next maxActors event=some w'):Kept maxActors w':=by
 obtain ⟨t',hstep,rfl⟩:=Option.map_eq_some_iff.mp hnext
 have hreachable:=h.reachable.next event hstep
 have hinv:=reachable_inv h.reachable
 refine ⟨hreachable,fun actor hunstarted=>?_,fun actor=>?_⟩
 · have hbefore:=hunstarted.of_move (Tree.move_of_next hinv.sound hstep)
   have hembryo:=hinv.unborn actor (hbefore.imp_right .inl)
   have hembryo':=(reachable_inv hreachable).unborn actor (hunstarted.imp_right .inl)
   exact (read_same (hembryo'.point.trans hembryo.point.symm)).trans (h.unstarted actor hbefore)
 cases event with
 | spawn parent name=>
  simp only [ActorTree.next] at hstep
  split at hstep <;> cases hstep
  exact (h.watch actor).same ⟨rfl,rfl,rfl⟩
 | spawnStep fails=>
  rcases spares_spawnStep hstep actor with hsame|⟨hunstarted,hpoint⟩
  · exact (h.watch actor).same hsame
  · have hidle:=(hinv.unborn actor (hunstarted.imp_right .inl)).point
    dsimp only
    rw [h.unstarted actor hunstarted]
    rcases hpoint with hpoint|hpoint
    · rw [read_same hpoint]
      exact watch_initial _
    · rw [read_leaves (hidle▸hpoint)]
      exact watch_initial _
 | send target message=>
  simp only [ActorTree.next] at hstep
  split at hstep <;> cases hstep
  exact (h.watch actor).same (same_tellSystem target message actor)
 | take self count=>
  simp only [ActorTree.next] at hstep
  split at hstep <;> cases hstep
  refine h.act none ?_ actor
  exact (h.watch self).same ⟨rfl,rfl,rfl⟩
 | process self=>
  simp only [ActorTree.next] at hstep
  split at hstep
  · rename_i message rest hpoint hbatch
    cases hstep
    refine h.act none ((h.watch self).process hpoint fun hfailed hstate=>?_) actor
    simp only [heeds,hfailed,hstate,hbatch] at hheeds
    cases message <;> simp at hheeds ⊢
  · cases hstep
 | receive self=>
  simp only [ActorTree.next] at hstep
  split at hstep
  · rename_i hguard
    cases hstep
    refine h.act none ?_ actor
    refine (h.watch self).quiet hguard.1 rfl id fun _ hover=>?_
    simp only [Over,hguard.2.2] at hover
  · cases hstep
 | effect self effect=>
  simp only [ActorTree.next] at hstep
  split at hstep
  · rename_i running hpoint
    obtain ⟨⟨node,message⟩,hend,rfl⟩:=Option.map_eq_some_iff.mp hstep
    exact h.act message ((h.watch self).endCallback hpoint hend) actor
  · cases hstep
 | work self=>exact h.work hstep actor

/-- Where no actor reads a `Restart` or a `Terminated` between a failed restart and its `Stop`,
 a `Restart` makes at most one attempt, and after one that failed the actor does not run. -/
theorem one_attempt_per_restart (maxActors:ℕ) (w:Watched)
  (h:((watchedSystem maxActors).restrict fun w event=>heeds w event=true).Reachable w)
  (actor:ℕ):(w.journal actor).attempts≤1 ∧ ((w.journal actor).failed=true →
   (w.tree.nodes actor).state≠.running ∧ (w.tree.nodes actor).point≠.callback .restart ∧
   (w.tree.nodes actor).point≠.callback .preStart):=by
 have hkept:Kept maxActors w:=by
  refine h.invariant ?_ fun _ _ _ _ hkept hstep=>hkept.next hstep.1 hstep.2
  rintro _ rfl
  exact ⟨.start rfl,fun _ _=>rfl,fun _=>watch_initial _⟩
 refine ⟨(hkept.watch actor).once,fun hfailed=>?_⟩
 have hover:=(hkept.watch actor).ended hfailed
 refine ⟨fun hstate=>?_,fun hpoint=>?_,fun hpoint=>?_⟩
 · simp only [Over,hstate] at hover
 · exact not_over_of_starting (.inl hpoint) hover
 · exact not_over_of_starting (.inr hpoint) hover

end

def childrenGone : List Event:=
 (Event.spawn 0 "a" :: List.replicate 7 (Event.spawnStep false) ++
  [Event.take 1 1,.process 1,.effect 1 .returned,.spawn 1 "b"] ++
  List.replicate 7 (Event.spawnStep false) ++
  Event.spawn 1 "c" :: List.replicate 7 (Event.spawnStep false) ++
  [Event.send 1 .restart,.take 1 1,.process 1]++List.replicate 5 (Event.work 1)) ++
 [2,3].flatMap fun child=>
  [Event.take child 2,.process child,.effect child .returned,.process child] ++
  List.replicate 10 (Event.work child)

def restartedTwice : List Event:=
 childrenGone++[.take 1 2,.process 1,.work 1,.work 1,.effect 1 .exception,.process 1,.work 1,
  .work 1,.effect 1 .returned]

/-- The factory raises an error, and the second `Terminated` calls it again. -/
theorem restarted_after_failure : ∃w:Watched,(watchedSystem 10).Reachable w ∧
  w.journal 1=⟨2,true⟩ ∧ (w.tree.nodes 1).state=.running:=by
 have hrun:(restartedTwice.foldlM (Watched.next 10) .create).map
  (fun w=>(w.journal 1,(w.tree.nodes 1).state))=some (⟨2,true⟩,.running):=by
  decide +kernel
 obtain ⟨w,hplay,hfacts⟩:=Option.map_eq_some_iff.mp hrun
 have hcreated:(watchedSystem 10).Reachable .create:=.start rfl
 have hreachable:=hcreated.play (f := Watched.next 10) (fun _ _ _ h=>h) _ hplay
 exact ⟨w,hreachable,congrArg Prod.fst hfacts,congrArg Prod.snd hfacts⟩

def failedRestart : List Event:=
 .spawn 0 "a" :: List.replicate 7 (.spawnStep false) ++
  [.take 1 1,.process 1,.effect 1 .returned,.send 1 .restart,.take 1 1,.process 1,.work 1,.work 1,
   .work 1,.effect 1 .exception,.take 1 1,.process 1]

theorem one_attempt_per_restart_stopping : ∃w,
  ((watchedSystem 10).restrict fun w event=>heeds w event=true).Reachable w ∧
  (w.journal 1).failed=true ∧ (w.tree.nodes 1).state=.stopping ∧
   (w.journal 1).attempts≤1:=by
 have hrun:(failedRestart.foldlM (fun w event=>
  if heeds w event then w.next 10 event else none) Watched.create).map
   (fun w=>((w.journal 1).failed,(w.tree.nodes 1).state))=some (true,.stopping):=by
  decide +kernel
 obtain ⟨w,hplay,hfacts⟩:=Option.map_eq_some_iff.mp hrun
 have hcreated:((watchedSystem 10).restrict fun w event=>heeds w event=true).Reachable
  .create:=.start rfl
 have hreachable:=hcreated.play (fun _ _ _ h=>by
  split at h
  · rename_i hheeds
    exact ⟨hheeds,h⟩
  · cases h) _ hplay
 exact ⟨w,hreachable,congrArg Prod.fst hfacts,congrArg Prod.snd hfacts,
  (one_attempt_per_restart 10 w hreachable 1).1⟩

end Movie.ActorRestart
