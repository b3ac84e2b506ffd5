import Movie.ActorTree

/-!
# What the thread of one actor can do

An actor is `Sound` when its state fits the point of its thread. What is known about whole trees is
derived from `Changes`.
-/
namespace Movie.ActorTree

open ActorContext (ActorState)

variable {node node':Node} {actor:ℕ} {message:Option (ℕ×SystemMessage)} {point:Point}

namespace Node

def Live (node:Node):Prop:=
 node.state≠.stopped ∧ node.postStops=0 ∧ node.stopCompleted=false

def Stopped (node:Node) (postStops:ℕ) (completed:Bool):Prop:=
 node.state=.stopped ∧ node.postStops=postStops ∧ node.stopCompleted=completed

def Sound (node:Node):Prop:=
 match node.point with
 | .idle=>node.Live ∨ node.Stopped 1 true
 | .callback _ | .removing _ | .settling | .reporting=>node.Live
 | .stopUserMessages=>node.Live ∧ node.state=.stopping
 | .listing restart | .telling restart _ | .counting restart=>
  node.Live ∧ (restart=false → node.state=.stopping)
 | .completing=>
  node.Live ∧ node.children=[] ∧ (node.state=.stopping ∨ node.state=.failed)
 | .draining | .signalling=>node.Stopped 0 false
 | .locating | .detaching | .notifying | .closing | .unregistering | .finishing=>
  node.Stopped 1 false

structure Embryo (node:Node):Prop where
 point:node.point=.idle
 batch:node.batch=[]
 queue:node.cell.queue=[]
 closed:node.cell.closed=false
 attached:node.cell.attached=false
 children:node.children=[]
 live:node.Live
 state:node.state≠.running ∧ node.state≠.stopping

def Hears (node:Node) (child:ℕ):Prop:=
 .terminated child∈node.cell.pending ∨ .terminated child∈node.cell.queue ∨
  .terminated child∈node.batch ∨ node.point=.removing child

def Left (node:Node):Prop:=
 node.point=.notifying ∨ node.point=.closing ∨ node.point=.unregistering ∨
  node.point=.finishing ∨ node.stopCompleted=true

def Gone (node:Node):Prop:=node.point=.finishing ∨ node.stopCompleted=true

structure Keeps (node node':Node):Prop where
 parent:node'.parent=node.parent
 name:node'.name=node.name
 path:node'.path=node.path
 aborted:node'.aborted=node.aborted
 attached:node'.cell.attached=node.cell.attached

def Sends (actor:ℕ) (node:Node):Option (ℕ×SystemMessage) → Prop
 | some (_,.terminated child)=>child=actor ∧ node.state=.stopped
 | _=>True

structure Changes (actor:ℕ) (node node':Node) (message:Option (ℕ×SystemMessage)):
  Prop extends Keeps node node' where
 ready:¬ node.Embryo
 sound:node'.Sound
 children:∀child,child∈node'.children ↔
  child∈node.children ∧ node.point≠.removing child
 stays:node.state=.stopped → node'.state=.stopped ∧ node'.invoked=node.invoked
 stops:node'.state=.stopped → node.state≠.stopped → node.point=.completing
 completes:node'.point=.completing → node'.state=.stopping
 hears:∀child,node'.Hears child → node.Hears child
 sends:node.Sends actor message
 left:node'.Left → node.Left
 gone:node'.Gone → node.Gone

lemma Sound.at_point (h:node.Sound) (hpoint:node.point=point):{ node with point:=point }.Sound:=by
 rw [←hpoint]
 exact h

lemma Sound.with_children {children:List ℕ} (h:node.Sound)
  (hcompleting:node.point=.completing → children=[]):
  { node with children:=children }.Sound:=by
 unfold Sound at h ⊢
 cases hpoint:node.point with
 | completing=>
  rw [hpoint] at h
  exact ⟨h.1,hcompleting hpoint,h.2.2⟩
 | _=>
  rw [hpoint] at h
  exact h

lemma Gone.left (h:node.Gone):node.Left:=
 Or.inr (Or.inr (Or.inr h))

lemma Sound.stopped_of_left (hsound:node.Sound) (h:node.Left):node.state=.stopped:=by
 rcases h with hpoint|hpoint|hpoint|hpoint|hcompleted
 · exact (hsound.at_point hpoint:node.Stopped 1 false).1
 · exact (hsound.at_point hpoint:node.Stopped 1 false).1
 · exact (hsound.at_point hpoint:node.Stopped 1 false).1
 · exact (hsound.at_point hpoint:node.Stopped 1 false).1
 · by_contra hstate
   have hlive:node.stopCompleted=false:=by
    unfold Sound at hsound
    split at hsound <;> grind [Live,Stopped]
   rw [hcompleted] at hlive
   cases hlive

lemma sound_of_idle (hpoint:node.point=.idle) (hlive:node.Live):node.Sound:=by
 unfold Sound
 rw [hpoint]
 exact Or.inl hlive

lemma Live.of_idle (h:node.Sound) (hpoint:node.point=.idle)
  (hstate:node.state≠.stopped):node.Live:=by
 have hidle:node.Live ∨ node.Stopped 1 true:=h.at_point hpoint
 rcases hidle with hlive|hstopped
 · exact hlive
 · exact absurd hstopped.1 hstate

lemma not_embryo_of_point (hpoint:node.point=point) (h:point≠.idle):¬ node.Embryo:=
 fun hembryo=>h (hpoint.symm.trans hembryo.point)

lemma Hears.of_cell {child:ℕ} (h:node'.Hears child)
  (hcell:node'.cell=node.cell) (hbatch:node'.batch=node.batch)
  (hpoint:node'.point≠.removing child):node.Hears child:=by
 rcases h with h|h|h|h
 · exact Or.inl (hcell▸h)
 · exact Or.inr (Or.inl (hcell▸h))
 · exact Or.inr (Or.inr (Or.inl (hbatch▸h)))
 · exact absurd h hpoint

lemma Changes.live (hready:¬ node.Embryo) (hlive:node.Live) (hsound:node'.Sound) (hlive':node'.Live)
  (hkeeps:Keeps node node') (hchildren:∀child,child∈node'.children ↔
   child∈node.children ∧ node.point≠.removing child)
  (hhears:∀child,node'.Hears child → node.Hears child)
  (hcompletes:node'.point=.completing → node'.state=.stopping)
  (hsends:node.Sends actor message):Changes actor node node' message where
 toKeeps:=hkeeps
 ready:=hready
 sound:=hsound
 children:=hchildren
 stays h:=absurd h hlive.1
 stops h _:=absurd h hlive'.1
 completes:=hcompletes
 hears:=hhears
 sends:=hsends
 left h:=absurd hlive'.1 (not_not.mpr (hsound.stopped_of_left h))
 gone h:=absurd hlive'.1 (not_not.mpr (hsound.stopped_of_left h.left))
lemma Changes.move (hready:¬ node.Embryo) (hlive:node.Live)
  (hremoving:∀child,node.point≠.removing child)
  (hsound:{ node with point:=point }.Sound) (hpoint:∀child,point≠.removing child)
  (hcompletes:point=.completing → node.state=.stopping) (hsends:node.Sends actor message):
  Changes actor node { node with point:=point } message:=by
 exact .live hready hlive hsound hlive ⟨rfl,rfl,rfl,rfl,rfl⟩
  (fun child=>(and_iff_left (hremoving child)).symm)
  (fun child h=>h.of_cell rfl rfl (hpoint child)) hcompletes hsends

lemma Changes.call (running:Callback) (hready:¬ node.Embryo)
  (hlive:node.Live) (hremoving:∀child,node.point≠.removing child):
  Changes actor node (node.call running) none:=by
 have hmove:Changes actor node { node with point:=.callback running } none:=
  .move hready hlive hremoving hlive (by simp) (by simp) trivial
 exact .live hready hlive hlive hlive ⟨rfl,rfl,rfl,rfl,rfl⟩ hmove.children hmove.hears
  (by simp [Node.call]) trivial

lemma Changes.stopped (hready:¬ node.Embryo) (hstopped:node.state=.stopped)
  (hremoving:∀child,node.point≠.removing child) (hsound:node'.Sound)
  (hkeeps:Keeps node node') (hstate:node'.state=.stopped ∧ node'.invoked=node.invoked)
  (hchildren:node'.children=node.children) (hhears:∀child,node'.Hears child → node.Hears child)
  (hcompletes:node'.point≠.completing) (hsends:node.Sends actor message)
  (hleft:node'.Left → node.Left) (hgone:node'.Gone → node.Gone):
  Changes actor node node' message where
 toKeeps:=hkeeps
 ready:=hready
 sound:=hsound
 children child:=by rw [hchildren]; exact (and_iff_left (hremoving child)).symm
 stays _:=hstate
 stops _ h:=absurd hstopped h
 completes h:=absurd h hcompletes
 hears:=hhears
 sends:=hsends
 left:=hleft
 gone:=hgone

lemma Changes.of_work (hsound:node.Sound) (h:node.work actor=some (node',message)):
  Changes actor node node' message:=by
 have hready {point:Point} (hpoint:node.point=point) (hidle:point≠.idle):
  ¬ node.Embryo:=not_embryo_of_point hpoint hidle
 cases hpoint:node.point with
 | idle | callback _ | locating | detaching | unregistering=>
  simp [Node.work,hpoint] at h
 | stopUserMessages=>
  have hlive:node.Live ∧ node.state=.stopping:=hsound.at_point hpoint
  simp only [Node.work,hpoint] at h
  cases h
  exact .move (hready hpoint (by simp)) hlive.1 (by simp [hpoint])
   ⟨hlive.1,fun _=>hlive.2⟩ (by simp) (by simp) trivial
 | listing restart=>
  have hlive:node.Live ∧ (restart=false → node.state=.stopping):=hsound.at_point hpoint
  simp only [Node.work,hpoint] at h
  cases h
  exact .move (hready hpoint (by simp)) hlive.1 (by simp [hpoint]) hlive (by simp) (by simp)
   trivial
 | telling restart rest=>
  have hlive:node.Live ∧ (restart=false → node.state=.stopping):=hsound.at_point hpoint
  cases rest with
  | nil | cons child rest=>
   simp only [Node.work,hpoint] at h
   cases h
   exact .move (hready hpoint (by simp)) hlive.1 (by simp [hpoint]) hlive (by simp) (by simp)
    trivial
 | counting restart=>
  have hlive:node.Live ∧ (restart=false → node.state=.stopping):=hsound.at_point hpoint
  have hready:=hready hpoint (by simp)
  have hremoving:∀child,node.point≠.removing child:=by simp [hpoint]
  simp only [Node.work,hpoint] at h
  split at h
  · rename_i hchildren
    cases h
    cases restart with
    | true=>exact .call .restart hready hlive.1 hremoving
    | false=>
     have hstopping:=hlive.2 rfl
     exact .move hready hlive.1 hremoving ⟨hlive.1,hchildren,Or.inl hstopping⟩ (by simp)
      (fun _=>hstopping) trivial
  · cases h
    exact .move hready hlive.1 hremoving (Or.inl hlive.1) (by simp) (by simp) trivial
 | removing child=>
  have hlive:node.Live:=hsound.at_point hpoint
  simp only [Node.work,hpoint] at h
  cases h
  refine .live (hready hpoint (by simp)) hlive hlive hlive ⟨rfl,rfl,rfl,rfl,rfl⟩
   (fun other=>?_) (fun other h=>h.of_cell rfl rfl (by simp)) (by simp) trivial
  simp only [removeChild,List.mem_filter,hpoint,ne_eq,Point.removing.injEq,
   decide_eq_true_eq,eq_comm (a := other)]
 | settling=>
  have hlive:node.Live:=hsound.at_point hpoint
  have hready:=hready hpoint (by simp)
  have hremoving:∀child,node.point≠.removing child:=by simp [hpoint]
  simp only [Node.work,hpoint] at h
  split at h
  · rename_i hdone
    cases h
    exact .move hready hlive hremoving ⟨hlive,hdone.2,Or.inl hdone.1⟩ (by simp)
     (fun _=>hdone.1) trivial
  · split at h
    · cases h
      exact .call .restart hready hlive hremoving
    · cases h
      exact .move hready hlive hremoving (Or.inl hlive) (by simp) (by simp) trivial
 | reporting=>
  have hlive:node.Live:=hsound.at_point hpoint
  simp only [Node.work,hpoint] at h
  cases h
  refine .move (hready hpoint (by simp)) hlive (by simp [hpoint]) (Or.inl hlive) (by simp)
   (by simp) ?_
  cases node.parent <;> trivial
 | completing=>
  have hlive:node.Live ∧ _:=hsound.at_point hpoint
  simp only [Node.work,hpoint,hlive.1.1,if_false] at h
  cases h
  exact {
   toKeeps:=⟨rfl,rfl,rfl,rfl,rfl⟩
   ready:=hready hpoint (by simp)
   sound:=⟨rfl,hlive.1.2⟩
   children:=by simp [hpoint]
   stays:=fun h=>absurd h hlive.1.1
   stops:=fun _ _=>hpoint
   completes:=by simp
   hears:=fun child h=>h.of_cell rfl rfl (by simp)
   sends:=trivial
   left:=by simp [Left,hlive.1.2.2]
   gone:=by simp [Gone,hlive.1.2.2] }
 | draining=>
  have hstopped:node.Stopped 0 false:=hsound.at_point hpoint
  simp only [Node.work,hpoint] at h
  cases h
  exact .stopped (hready hpoint (by simp)) hstopped.1 (by simp [hpoint]) hstopped
   ⟨rfl,rfl,rfl,rfl,rfl⟩ ⟨hstopped.1,rfl⟩ rfl (fun _ h=>h.of_cell rfl rfl (by simp))
   (by simp) trivial (by simp [Left,hstopped.2.2]) (by simp [Gone,hstopped.2.2])
 | signalling=>
  have hstopped:node.Stopped 0 false:=hsound.at_point hpoint
  simp only [Node.work,hpoint] at h
  cases h
  exact .stopped (hready hpoint (by simp)) hstopped.1 (by simp [hpoint])
   ⟨hstopped.1,congrArg (·+1) hstopped.2.1,hstopped.2.2⟩ ⟨rfl,rfl,rfl,rfl,rfl⟩
   ⟨hstopped.1,rfl⟩ rfl (fun _ h=>h.of_cell rfl rfl (by simp)) (by simp) trivial
   (by simp [Left,hstopped.2.2]) (by simp [Gone,hstopped.2.2])
 | notifying=>
  have hstopped:node.Stopped 1 false:=hsound.at_point hpoint
  simp only [Node.work,hpoint] at h
  cases h
  refine .stopped (hready hpoint (by simp)) hstopped.1 (by simp [hpoint]) hstopped
   ⟨rfl,rfl,rfl,rfl,rfl⟩ ⟨hstopped.1,rfl⟩ rfl (fun _ h=>h.of_cell rfl rfl (by simp))
   (by simp) ?_ (fun _=>Or.inl hpoint) (by simp [Gone,hstopped.2.2])
  cases node.parent with
  | none=>trivial
  | some parent=>exact ⟨rfl,hstopped.1⟩
 | closing=>
  have hstopped:node.Stopped 1 false:=hsound.at_point hpoint
  simp only [Node.work,hpoint] at h
  cases h
  refine .stopped (hready hpoint (by simp)) hstopped.1 (by simp [hpoint]) hstopped
   ⟨rfl,rfl,rfl,rfl,rfl⟩ ⟨hstopped.1,rfl⟩ rfl (fun child h=>?_) (by simp) trivial
   (fun _=>Or.inr (Or.inl hpoint)) (by simp [Gone,hstopped.2.2])
  simp only [Hears,Cell.close,List.not_mem_nil,false_or,reduceCtorEq,or_false] at h
  exact Or.inr (Or.inr (Or.inl h))
 | finishing=>
  have hstopped:node.Stopped 1 false:=hsound.at_point hpoint
  simp only [Node.work,hpoint] at h
  cases h
  exact .stopped (hready hpoint (by simp)) hstopped.1 (by simp [hpoint])
   (Or.inr ⟨hstopped.1,hstopped.2.1,rfl⟩) ⟨rfl,rfl,rfl,rfl,rfl⟩ ⟨hstopped.1,rfl⟩ rfl
   (fun _ h=>h.of_cell rfl rfl (by simp)) (by simp) trivial
   (fun _=>Or.inr (Or.inr (Or.inr (Or.inl hpoint)))) (fun _=>Or.inl hpoint)

structure Invokes (node node':Node) (message:SystemMessage):Prop
  extends Keeps node node' where
 live:node'.Live
 sound:node'.Sound
 children:node'.children=node.children
 cell:node'.cell=node.cell
 batch:node'.batch=node.batch
 completes:node'.point≠.completing
 removes:∀child,node'.point=.removing child → message=.terminated child

lemma Invokes.of_point {message:SystemMessage}
  (hlive:node.Live) (hsound:{ node with point:=point }.Sound) (hcompletes:point≠.completing)
  (hremoves:∀child,point=.removing child → message=.terminated child):
  Invokes node { node with point:=point } message:=
 ⟨⟨rfl,rfl,rfl,rfl,rfl⟩,hlive,hsound,rfl,rfl,rfl,hcompletes,hremoves⟩

lemma Invokes.of_call {message:SystemMessage} (running:Callback)
  (hlive:node.Live):Invokes node (node.call running) message:=
 ⟨⟨rfl,rfl,rfl,rfl,rfl⟩,hlive,hlive,rfl,rfl,rfl,by simp [Node.call],
  by simp [Node.call]⟩

lemma invokes_invokeSystem (node:Node) (message:SystemMessage)
  (hpoint:node.point=.idle) (hlive:node.Live):
  Invokes node (node.invokeSystem message) message:=by
 have hsame:Invokes node node message:=
  ⟨⟨rfl,rfl,rfl,rfl,rfl⟩,hlive,sound_of_idle hpoint hlive,rfl,rfl,rfl,
   by simp [hpoint],by simp [hpoint]⟩
 have hstop:Invokes node (if node.state=.stopping then { node with point:=.counting false }
  else { node with
   state:=.stopping,restartPending:=false,point:=.stopUserMessages }) message:=by
  split
  · rename_i hstopping
    exact .of_point hlive ⟨hlive,fun _=>hstopping⟩ (by simp) (by simp)
  · exact ⟨⟨rfl,rfl,rfl,rfl,rfl⟩,⟨by simp,hlive.2⟩,⟨⟨by simp,hlive.2⟩,rfl⟩,rfl,rfl,
     rfl,by simp,by simp⟩
 simp only [invokeSystem,hlive.1,if_false]
 cases message with
 | preStart=>
  dsimp only
  split
  · exact .of_call .preStart hlive
  · exact hsame
 | stop | terminate=>exact hstop
 | terminated child=>exact .of_point hlive hlive (by simp) (by simp)
 | restart=>
  dsimp only
  split
  · exact hsame
  · exact ⟨⟨rfl,rfl,rfl,rfl,rfl⟩,⟨by simp,hlive.2⟩,⟨⟨by simp,hlive.2⟩,by simp⟩,rfl,rfl,
     rfl,by simp,by simp⟩
 | failed child=>exact .of_call (.supervise child) hlive
 | control=>exact .of_call .signal hlive

lemma Changes.of_process {message:SystemMessage}
  {rest:List SystemMessage} (hsound:node.Sound) (hpoint:node.point=.idle)
  (hbatch:node.batch=message::rest):
  Changes actor node ({ node with batch:=rest }.invokeSystem message) none:=by
 have hready:¬ node.Embryo:=fun hembryo=>by
  rw [hembryo.batch] at hbatch
  cases hbatch
 have hremoving:∀child,node.point≠.removing child:=by simp [hpoint]
 by_cases hstate:node.state=.stopped
 · have hsame:{ node with batch:=rest }.invokeSystem message={ node with batch:=rest }:=
    if_pos hstate
   rw [hsame]
   refine .stopped hready hstate hremoving hsound ⟨rfl,rfl,rfl,rfl,rfl⟩ ⟨hstate,rfl⟩ rfl
    (fun child h=>?_) (by simp [hpoint]) trivial id id
   rcases h with h|h|h|h
   · exact Or.inl h
   · exact Or.inr (Or.inl h)
   · exact Or.inr (Or.inr (Or.inl (hbatch▸List.mem_cons_of_mem message h)))
   · exact absurd h (hremoving child)
 · have hlive:=Live.of_idle hsound hpoint hstate
   have hinvokes:=invokes_invokeSystem { node with batch:=rest } message hpoint hlive
   refine .live hready hlive hinvokes.sound hinvokes.live
    ⟨hinvokes.parent,hinvokes.name,hinvokes.path,hinvokes.aborted,hinvokes.attached⟩
    (fun child=>?_) (fun child h=>?_) (fun h=>absurd h hinvokes.completes) trivial
   · rw [hinvokes.children]
     exact (and_iff_left (hremoving child)).symm
   · rcases h with h|h|h|h
     · exact Or.inl (hinvokes.cell▸h)
     · exact Or.inr (Or.inl (hinvokes.cell▸h))
     · have hrest:.terminated child∈rest:=by rwa [hinvokes.batch] at h
       exact Or.inr (Or.inr (Or.inl (hbatch▸List.mem_cons_of_mem message hrest)))
     · exact Or.inr (Or.inr (Or.inl (hbatch▸hinvokes.removes child h▸List.mem_cons_self)))

lemma Changes.of_fail (hready:¬ node.Embryo) (hlive:node.Live)
  (hremoving:∀child,node.point≠.removing child):Changes actor node node.fail none:=by
 unfold Node.fail
 split
 · exact .move hready hlive hremoving (Or.inl hlive) (by simp) (by simp) trivial
 · exact .live hready hlive ⟨by simp,hlive.2⟩ ⟨by simp,hlive.2⟩ ⟨rfl,rfl,rfl,rfl,rfl⟩
    (fun child=>(and_iff_left (hremoving child)).symm)
    (fun child h=>h.of_cell rfl rfl (by simp)) (by simp) trivial

lemma Changes.of_restoreBatch (hready:¬ node.Embryo)
  (h:Changes actor node.restoreBatch node' message):Changes actor node node' message:=by
 have hattached:node.restoreBatch.cell.attached=node.cell.attached:=by
  simp only [restoreBatch]
  split <;> rfl
 have hhears (child:ℕ) (h:node.restoreBatch.Hears child):node.Hears child:=by
  simp only [Hears,restoreBatch] at h
  split at h
  · rcases h with h|h|h|h
    · exact Or.inl h
    · exact Or.inr (Or.inl h)
    · cases h
    · exact Or.inr (Or.inr (Or.inr h))
  · rcases h with h|h|h|h
    · exact Or.inl h
    · rcases List.mem_append.mp h with h|h
      · exact Or.inr (Or.inr (Or.inl h))
      · exact Or.inr (Or.inl h)
    · cases h
    · exact Or.inr (Or.inr (Or.inr h))
 exact {
  toKeeps:=⟨h.parent,h.name,h.path,h.aborted,h.attached.trans hattached⟩
  ready:=hready
  sound:=h.sound
  children:=h.children
  stays:=h.stays
  stops:=h.stops
  completes:=h.completes
  hears:=fun child hafter=>hhears child (h.hears child hafter)
  sends:=h.sends
  left:=h.left
  gone:=h.gone }

lemma Changes.of_endCallback {running:Callback} {effect:Effect} (hsound:node.Sound)
  (hpoint:node.point=.callback running)
  (h:node.endCallback actor running effect=some (node',message)):
  Changes actor node node' message:=by
 have hlive:node.Live:=hsound.at_point hpoint
 have hready:=not_embryo_of_point hpoint (by simp)
 have hremoving:∀child,node.point≠.removing child:=by simp [hpoint]
 have hidle {message:Option (ℕ×SystemMessage)} (hsends:node.Sends actor message):
  Changes actor node { node with point:=.idle } message:=
  .move hready hlive hremoving (Or.inl hlive) (by simp) (by simp) hsends
 have hfail:Changes actor node node.fail none:=.of_fail hready hlive hremoving
 have hrestore:Changes actor node node.restoreBatch.fail none:=
  .of_restoreBatch hready (.of_fail (not_embryo_of_point hpoint (by simp)) hlive hremoving)
 have hstarted:Changes actor node node.finishStart none:=
  .live hready hlive (Or.inl ⟨by simp [finishStart],hlive.2⟩) ⟨by simp [finishStart],hlive.2⟩
   ⟨rfl,rfl,rfl,rfl,rfl⟩ (fun child=>(and_iff_left (hremoving child)).symm)
   (fun child h=>h.of_cell rfl rfl (by simp [finishStart])) (by simp [finishStart]) trivial
 have hfailed:Changes actor node { node with state:=.failed,point:=.idle }
  (some (actor,.stop)):=
  .live hready hlive (Or.inl ⟨by simp,hlive.2⟩) ⟨by simp,hlive.2⟩ ⟨rfl,rfl,rfl,rfl,rfl⟩
   (fun child=>(and_iff_left (hremoving child)).symm)
   (fun child h=>h.of_cell rfl rfl (by simp)) (by simp) trivial
 have hstop:=invokes_invokeSystem { node with point:=.idle } .stop rfl hlive
 cases effect with
 | returned=>
  cases running with
  | receive | signal | supervise _=>
   cases h
   exact hidle trivial
  | preStart | restart=>
   cases h
   exact hstarted
 | stopped=>
  cases running with
  | receive=>
   cases h
   exact .live hready hlive hstop.sound hstop.live
    ⟨hstop.parent,hstop.name,hstop.path,hstop.aborted,hstop.attached⟩
    (fun child=>by rw [hstop.children]; exact (and_iff_left (hremoving child)).symm)
    (fun child h=>h.of_cell hstop.cell hstop.batch fun hremoves=>by
     cases hstop.removes child hremoves)
    (fun hcompletes=>absurd hcompletes hstop.completes) trivial
  | signal | supervise _ | preStart | restart=>cases h
 | directive directive=>
  cases running with
  | supervise child=>
   cases h
   refine hidle ?_
   cases directive with
   | restart | stop=>trivial
   | escalate=>cases hparent:node.parent <;> simp only [handleSupervision,hparent] <;> trivial
  | receive | signal | preStart | restart=>cases h
 | exception=>
  cases running with
  | restart=>
   cases h
   exact hfailed
  | receive | signal | supervise _ | preStart=>
   cases h
   exact hfail
 | baseException=>
  cases running with
  | restart=>
   cases h
   exact hfailed
  | receive | signal | supervise _ | preStart=>
   cases h
   exact hrestore

lemma Changes.of_take {actor count:ℕ} (hsound:node.Sound)
  (hpoint:node.point=.idle) (hcount:0<count) (hlength:count≤node.cell.queue.length):
  Changes actor node { node with
   batch:=node.cell.queue.take count
   cell:={ node.cell with queue:=node.cell.queue.drop count } } none:=by
 have hready:¬ node.Embryo:=fun hembryo=>by
  rw [hembryo.queue] at hlength
  exact absurd hlength (Nat.not_le.mpr hcount)
 exact {
  toKeeps:=⟨rfl,rfl,rfl,rfl,rfl⟩
  ready:=hready
  sound:=hsound
  children:=by simp [hpoint]
  stays:=fun h=>⟨h,rfl⟩
  stops:=fun h h'=>absurd h h'
  completes:=by simp [hpoint]
  hears:=fun child h=>by
   rcases h with h|h|h|h
   · exact Or.inl h
   · exact Or.inr (Or.inl (List.mem_of_mem_drop h))
   · exact Or.inr (Or.inl (List.mem_of_mem_take h))
   · exact Or.inr (Or.inr (Or.inr h))
  sends:=trivial
  left:=id
  gone:=id }

lemma Changes.of_receive (hsound:node.Sound) (hpoint:node.point=.idle) (hstate:node.state=.running):
  Changes actor node (node.call .receive) none:=
 .call .receive (fun hembryo=>hembryo.state.1 hstate)
  (Live.of_idle hsound hpoint (by simp [hstate])) (by simp [hpoint])

end Node

end Movie.ActorTree
