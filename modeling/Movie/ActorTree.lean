import Movie.ActorContext
import Mathlib.Data.Finset.Card
import Mathlib.Logic.Function.Basic

/-!
# The tree of local actors

`LocalActorContext` with its cell and its system messages, and `ActorRegistry.spawn`, for any number
of actors. A step is one section under a lock, one message sent or one call of the behaviour's code;
`spawn` holds `_lifecycle_lock`, so one actor at a time is being started.
-/
namespace Movie.ActorTree

open Function
open ActorContext (ActorState)
open Reachability

/-- System messages; actors are named by the number of their reference. -/
inductive SystemMessage where
 | preStart
 | stop
 | terminate
 | terminated (child:ℕ)
 | restart
 | failed (child:ℕ)
 | control
 deriving DecidableEq

def SystemMessage.External : SystemMessage → Prop
 | .stop | .terminate | .restart | .failed _ | .control=>True
 | .preStart | .terminated _=>False

instance (message:SystemMessage):Decidable message.External:=
 match message with
 | .stop | .terminate | .restart | .failed _ | .control=>isTrue trivial
 | .preStart | .terminated _=>isFalse id

inductive SupervisorDirective where
 | restart
 | stop
 | escalate
 deriving DecidableEq

inductive Callback where
 | receive
 | preStart
 | restart
 | signal
 | supervise (child:ℕ)
 deriving DecidableEq

inductive Effect where
 | returned
 | stopped
 | directive (directive:SupervisorDirective)
 | exception
 | baseException
 deriving DecidableEq

/-- Where the thread that runs an actor stands: in a callback, in the stop of its children,
 or in `_complete_stop` (from `completing` to `finishing`). -/
inductive Point where
 | idle
 | callback (running:Callback)
 | stopUserMessages
 | listing (restart:Bool)
 | telling (restart:Bool) (children:List ℕ)
 | counting (restart:Bool)
 | removing (child:ℕ)
 | settling
 | reporting
 | completing
 | draining
 | signalling
 | locating
 | detaching
 | notifying
 | closing
 | unregistering
 | finishing
 deriving DecidableEq

/-- `ActorCell` with the system messages of its mailbox. -/
structure Cell where
 attached:Bool
 closed:Bool
 pending:List SystemMessage
 queue:List SystemMessage

namespace Cell

def create : Cell where
 attached:=false
 closed:=false
 pending:=[]
 queue:=[]

def tellSystem (cell:Cell) (message:SystemMessage):Cell:=
 if cell.closed then cell
 else if cell.attached then { cell with queue:=cell.queue++[message] }
 else { cell with pending:=cell.pending++[message] }

def close (cell:Cell):Cell:={ cell with closed:=true,pending:=[],queue:=[] }

end Cell

/-- A context. `aborted` says that its start failed, `postStops` and `invoked` count the
 signals of `PostStop` and the other calls of the behaviour; the code does not read them. -/
structure Node where
 parent:Option ℕ
 name:String
 path:List String
 state:ActorState
 restartPending:Bool
 children:List ℕ
 cell:Cell
 batch:List SystemMessage
 point:Point
 stopCompleted:Bool
 aborted:Bool
 postStops:ℕ
 invoked:ℕ

namespace Node

def create (name:String) (path:List String):Node where
 parent:=none
 name:=name
 path:=path
 state:=.new
 restartPending:=false
 children:=[]
 cell:=.create
 batch:=[]
 point:=.idle
 stopCompleted:=false
 aborted:=false
 postStops:=0
 invoked:=0

def removeChild (node:Node) (child:ℕ):Node:=
 { node with children:=node.children.filter (·≠child) }

def call (node:Node) (running:Callback):Node:=
 { node with point:=.callback running,invoked:=node.invoked+1 }

def invokeSystem (node:Node) (message:SystemMessage):Node:=
 if node.state=.stopped then node
 else match message with
  | .preStart=>if node.state=.starting then node.call .preStart else node
  | .stop | .terminate=>
   if node.state=.stopping then { node with point:=.counting false }
   else { node with state:=.stopping,restartPending:=false,point:=.stopUserMessages }
  | .terminated child=>{ node with point:=.removing child }
  | .restart=>
   if node.state=.stopping then node
   else { node with restartPending:=true,state:=.starting,point:=.listing true }
  | .failed child=>node.call (.supervise child)
  | .control=>node.call .signal

def fail (node:Node):Node:=
 if node.state=.stopping ∨ node.state=.stopped then { node with point:=.idle }
 else { node with state:=.failed,point:=.reporting }

def finishStart (node:Node):Node:=
 { node with state:=.running,restartPending:=false,point:=.idle }

/-- `_restore_batch` after a `BaseException`. -/
def restoreBatch (node:Node):Node:=
 { node with
   cell:=if node.cell.closed then node.cell
    else { node.cell with queue:=node.batch++node.cell.queue }
   batch:=[] }

def handleSupervision (node:Node) (child:ℕ):
  SupervisorDirective → Option (ℕ×SystemMessage)
 | .restart=>some (child,.restart)
 | .stop=>some (child,.stop)
 | .escalate=>node.parent.map fun parent=>(parent,.failed child)

def endCallback (node:Node) (self:ℕ):
  Callback → Effect → Option (Node×Option (ℕ×SystemMessage))
 | .receive,.returned | .signal,.returned | .supervise _,.returned=>
  some ({ node with point:=.idle },none)
 | .receive,.stopped=>some ({ node with point:=.idle }.invokeSystem .stop,none)
 | .preStart,.returned | .restart,.returned=>some (node.finishStart,none)
 | .supervise child,.directive directive=>
  some ({ node with point:=.idle },node.handleSupervision child directive)
 | .restart,.exception | .restart,.baseException=>
  some ({ node with state:=.failed,point:=.idle },some (self,.stop))
 | _,.exception=>some (node.fail,none)
 | _,.baseException=>some (node.restoreBatch.fail,none)
 | _,_=>none

/-- A step of the thread that runs an actor which concerns this actor and the message it
 sends; the steps that concern other tables are in `Tree.work`. -/
def work (node:Node) (self:ℕ):Option (Node×Option (ℕ×SystemMessage)):=
 match node.point with
 | .stopUserMessages=>some ({ node with point:=.listing false },none)
 | .listing restart=>some ({ node with point:=.telling restart node.children },none)
 | .telling restart (child::rest)=>
  some ({ node with point:=.telling restart rest },some (child,.stop))
 | .telling restart []=>some ({ node with point:=.counting restart },none)
 | .counting restart=>
  if node.children=[] then
   some (if restart then node.call .restart else { node with point:=.completing },none)
  else some ({ node with point:=.idle },none)
 | .removing child=>some ({ node.removeChild child with point:=.settling },none)
 | .settling=>
  if node.state=.stopping ∧ node.children=[] then
   some ({ node with point:=.completing },none)
  else if node.restartPending ∧ node.children=[] then some (node.call .restart,none)
  else some ({ node with point:=.idle },none)
 | .reporting=>
  some ({ node with point:=.idle },
   match node.parent with
   | some parent=>some (parent,.failed self)
   | none=>some (self,.stop))
 | .completing=>
  if node.state=.stopped then some ({ node with point:=.idle },none)
  else some ({ node with state:=.stopped,point:=.draining },none)
 | .draining=>some ({ node with point:=.signalling },none)
 | .signalling=>
  some ({ node with postStops:=node.postStops+1,point:=.locating },none)
 | .notifying=>
  some ({ node with point:=.closing },
   node.parent.map fun parent=>(parent,.terminated self))
 | .closing=>some ({ node with cell:=node.cell.close,point:=.unregistering },none)
 | .finishing=>some ({ node with stopCompleted:=true,point:=.idle },none)
 | .idle | .callback _ | .locating | .detaching | .unregistering=>none

end Node

/-- How far `spawn` has come; it holds the registry's lock while `attaching` and `registering`.
 An actor whose start failed is completed by `spawn`, and its `PostStop` may spawn again. -/
inductive Spawner where
 | idle
 | entered (parent:ℕ) (name:String)
 | attaching (actor parent:ℕ)
 | registering (actor:ℕ)
 | starting (actor:ℕ)
 | creating (actor:ℕ)
 | opening (actor:ℕ)
 | flushing (actor:ℕ) (messages:List SystemMessage)
 | aborting (actor:ℕ)
 | completing (actor:ℕ)
 deriving DecidableEq

def Spawner.locked : Spawner → Bool
 | .attaching _ _ | .registering _=>true
 | .idle | .entered _ _ | .starting _ | .creating _ | .opening _ | .flushing _ _ | .aborting _
 | .completing _=>false

def isRemoteName (name:String):Bool:=
 decide (1≤name.length ∧ name.length≤255) && name.toList.all fun char=>
  decide ('A' ≤ char ∧ char ≤ 'Z') || decide ('a' ≤ char ∧ char ≤ 'z') ||
   decide ('0' ≤ char ∧ char ≤ '9') || char == '.' || char == '_' || char == '~' || char == '-'

def isRemoteResolvable (path:List String):Bool:=!path.isEmpty && path.all isRemoteName

/-- The contexts that were built, the tables of the registry and the spawn in progress.
 `raised` lists the actors whose spawn raised an error before they were registered. -/
structure Tree where
 nodes:ℕ → Node
 count:ℕ
 actors:Finset ℕ
 paths:List String → Option ℕ
 spawner:Spawner
 raised:List ℕ

namespace Tree

def create : Tree where
 nodes actor:=
  if actor=0 then
   { Node.create "/" [] with state:=.running,cell:={ Cell.create with attached:=true } }
  else Node.create "" []
 count:=1
 actors:={0}
 paths _:=none
 spawner:=.idle
 raised:=[]

def setNode (t:Tree) (actor:ℕ) (node:Node):Tree:=
 { t with nodes:=update t.nodes actor node }

def modify (t:Tree) (actor:ℕ) (change:Node → Node):Tree:=
 t.setNode actor (change (t.nodes actor))

def tellSystem (t:Tree) (target:ℕ) (message:SystemMessage):Tree:=
 t.modify target fun node=>{ node with cell:=node.cell.tellSystem message }

def act (t:Tree) (actor:ℕ):Node×Option (ℕ×SystemMessage) → Tree
 | (node,none)=>t.setNode actor node
 | (node,some (target,message))=>(t.setNode actor node).tellSystem target message

def unregister (t:Tree) (actor:ℕ):Tree:=
 { t with
   actors:=t.actors.erase actor
   paths:=if t.paths (t.nodes actor).path=some actor then
    update t.paths (t.nodes actor).path none
    else t.paths }

def work (t:Tree) (actor:ℕ):Option Tree:=
 match (t.nodes actor).point with
 | .locating=>
  if t.spawner.locked then none
  else match (t.nodes actor).parent with
   | some parent=>
    some (t.modify actor fun node=>
     { node with point:=if parent∈t.actors then .detaching else .notifying })
   | none=>some (t.modify actor fun node=>{ node with point:=.notifying })
 | .detaching=>
  (t.nodes actor).parent.map fun parent=>
   (t.modify parent fun node=>node.removeChild actor).modify actor fun node=>
    { node with point:=.notifying }
 | .unregistering=>
  if t.spawner.locked then none
  else some ((t.unregister actor).modify actor fun node=>{ node with point:=.finishing })
 | _=>((t.nodes actor).work actor).map (t.act actor)

def PathTaken (t:Tree) (actor:ℕ):Prop:=
 isRemoteResolvable (t.nodes actor).path=true ∧ (t.paths (t.nodes actor).path).isSome=true

instance (t:Tree) (actor:ℕ):Decidable (t.PathTaken actor):=
 inferInstanceAs (Decidable (_ ∧ _))

/-- `self._actors[ref.id] = context` and the entry of the path index. -/
def register (t:Tree) (actor:ℕ):Tree:=
 { t with
   actors:=insert actor t.actors
   paths:=if isRemoteResolvable (t.nodes actor).path then
    update t.paths (t.nodes actor).path (some actor)
    else t.paths }

def attachChild (t:Tree) (actor parent:ℕ):Tree:=
 (t.modify parent fun node=>{ node with children:=node.children++[actor] }).modify actor
  fun node=>{ node with parent:=some parent }

/-- A step of `spawn`. `fails` says that `create_mailbox` raises an error. -/
def spawnStep (maxActors:ℕ) (t:Tree) (fails:Bool):Option Tree:=
 match t.spawner with
 | .idle=>none
 | .entered parent name=>
  if maxActors≤t.actors.card then some { t with spawner:=.idle }
  else some { t.setNode t.count (.create name ((t.nodes parent).path++[name])) with
   count:=t.count+1,spawner:=.attaching t.count parent }
 | .attaching actor parent=>
  if (t.nodes parent).state=.stopping ∨ (t.nodes parent).state=.stopped ∨
   ∃child∈(t.nodes parent).children,(t.nodes child).name=(t.nodes actor).name then
   some { t with spawner:=.idle,raised:=t.raised++[actor] }
  else some { t.attachChild actor parent with spawner:=.registering actor }
 | .registering actor=>
  if t.PathTaken actor then some { t with spawner:=.idle,raised:=t.raised++[actor] }
  else some { t.register actor with spawner:=.starting actor }
 | .starting actor=>
  if (t.nodes actor).state=.new then
   some { t.modify actor fun node=>{ node with state:=.starting } with
    spawner:=.creating actor }
  else some { t with spawner:=.idle }
 | .creating actor=>
  if fails then
   some { t.modify actor fun node=>{ node with state:=.failed } with
    spawner:=.aborting actor }
  else some { t with spawner:=.opening actor }
 | .opening actor=>
  let cell:=(t.nodes actor).cell
  if cell.closed ∨ cell.attached then some { t with spawner:=.aborting actor }
  else some { t.modify actor fun node=>
   { node with cell:={ cell with attached:=true,pending:=[] } } with
   spawner:=.flushing actor cell.pending }
 | .flushing actor (message::rest)=>
  some { t.tellSystem actor message with spawner:=.flushing actor rest }
 | .flushing actor []=>some { t.tellSystem actor .preStart with spawner:=.idle }
 | .aborting actor=>
  some { t.modify actor fun node=>
   { node with state:=.failed,point:=.completing,aborted:=true } with
   spawner:=.completing actor }
 | .completing actor=>
  if (t.nodes actor).state=.stopped then some { t with spawner:=.idle } else none

end Tree

inductive Event where
 | spawn (parent:ℕ) (name:String)
 | spawnStep (fails:Bool)
 | send (target:ℕ) (message:SystemMessage)
 | take (actor count:ℕ)
 | process (actor:ℕ)
 | receive (actor:ℕ)
 | effect (actor:ℕ) (effect:Effect)
 | work (actor:ℕ)

/-- `spawn` starts with a parent that is registered; `take` and `process` are the batches of
 the mailbox and `receive` is a user message. -/
def next (maxActors:ℕ) (t:Tree):Event → Option Tree
 | .spawn parent name=>
  if t.spawner=.idle ∧ parent∈t.actors ∧ '/'∉name.toList ∧ '#'∉name.toList then
   some { t with spawner:=.entered parent name }
  else none
 | .spawnStep fails=>t.spawnStep maxActors fails
 | .send target message=>
  if message.External ∧ target<t.count then some (t.tellSystem target message) else none
 | .take actor count=>
  let node:=t.nodes actor
  if node.point=.idle ∧ node.batch=[] ∧ 0<count ∧ count≤node.cell.queue.length then
   some (t.setNode actor { node with
    batch:=node.cell.queue.take count
    cell:={ node.cell with queue:=node.cell.queue.drop count } })
  else none
 | .process actor=>
  match (t.nodes actor).point,(t.nodes actor).batch with
  | .idle,message::rest=>
   some (t.setNode actor ({ t.nodes actor with batch:=rest }.invokeSystem message))
  | _,_=>none
 | .receive actor=>
  if (t.nodes actor).point=.idle ∧ (t.nodes actor).batch=[] ∧
   (t.nodes actor).state=.running then
   some (t.setNode actor ((t.nodes actor).call .receive))
  else none
 | .effect actor effect=>
  match (t.nodes actor).point with
  | .callback running=>((t.nodes actor).endCallback actor running effect).map (t.act actor)
  | _=>none
 | .work actor=>t.work actor

def system (maxActors:ℕ):System Tree Event where
 init t:=t=.create
 step t event t':=next maxActors t event=some t'

end Movie.ActorTree
