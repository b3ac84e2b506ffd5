import Movie.ClusterModel
import Movie.Reachability
import Mathlib.Data.Finset.Card

/-!
# The membership coordinator

A coordinator's `ClusterRuntime` of `cluster/runtime.py`: one definition for each critical section,
and the interleavings of its threads. The values of `uuid4` and `monotonic` are parameters. Order in
a dictionary is not modelled.
-/
namespace Movie.ClusterCoordinator

open Checked DurableModel Handshake ClusterModel Reachability

inductive RuntimeState where
 | new
 | starting
 | running
 | failed
 | stopping
 | stopped
 deriving DecidableEq

def RuntimeState.Serving (state:RuntimeState):Prop:=state=.starting ∨ state=.running

instance (state:RuntimeState):Decidable state.Serving:=inferInstanceAs (Decidable (_ ∨ _))

/-- A coordinator has the name and the endpoint of the seed contact. -/
structure Coordinator where
 config:ClusterConfig
 incarnationUid:UUID
 peers:String → Option Endpoint

def Coordinator.selfIdentity (node:Coordinator):MemberIdentity:=
 ⟨node.config.seed.systemName,node.incarnationUid⟩

def Coordinator.endpoint (node:Coordinator):Endpoint:=node.config.seed.endpoint

def Coordinator.TargetsSelf (node:Coordinator) (clusterName:String)
  (targetIncarnationUid:UUID):Prop:=
 clusterName=node.config.name ∧ targetIncarnationUid=node.incarnationUid

instance (node:Coordinator) (clusterName:String) (targetIncarnationUid:UUID):
  Decidable (node.TargetsSelf clusterName targetIncarnationUid):=
 inferInstanceAs (Decidable (_ ∧ _))

structure CoordinatorState extends MemberView where
 state:RuntimeState
 startupSettled:Bool
 revision:ℕ
 memberTokens:AList fun _:MemberIdentity=>UUID
 memberRefs:AList fun _:MemberIdentity=>RemoteActorRef
 lastHeartbeatSequence:AList fun _:MemberIdentity=>ℤ
 lastEvidence:AList fun _:MemberIdentity=>ℤ
 pendingJoins:AList fun _:MemberIdentity=>UUID×ℤ
 leftOrder:List MemberIdentity
 retiredIdentities:Finset MemberIdentity

def CoordinatorState.create (node:Coordinator) (now:ℤ):CoordinatorState where
 viewRevision:=0
 members:=AList.singleton node.selfIdentity
  ⟨node.selfIdentity,node.endpoint,.joining,.reachable⟩
 state:=.new
 startupSettled:=false
 revision:=0
 memberTokens:=∅
 memberRefs:=∅
 lastHeartbeatSequence:=∅
 lastEvidence:=AList.singleton node.selfIdentity now
 pendingJoins:=∅
 leftOrder:=[]
 retiredIdentities:=∅

namespace CoordinatorState

/-- The revision is counted up and the member replaced, in one section. -/
def advance (s:CoordinatorState) (member:ClusterMember):CoordinatorState:=
 { s with
   toMemberView:=s.toMemberView.replaceMember member
   revision:=s.revision+1 }

def revokeMember (s:CoordinatorState) (identity:MemberIdentity):CoordinatorState:=
 { s with
   pendingJoins:=s.pendingJoins.erase identity
   memberTokens:=s.memberTokens.erase identity
   memberRefs:=s.memberRefs.erase identity
   lastHeartbeatSequence:=s.lastHeartbeatSequence.erase identity
   lastEvidence:=s.lastEvidence.erase identity
   leftOrder:=
    if (s.members.lookup identity).map ClusterMember.status=some .left then
     s.leftOrder++[identity]
    else s.leftOrder }

def removeMember (s:CoordinatorState) (identity:MemberIdentity):CoordinatorState:=
 { s with
   viewRevision:=s.viewRevision+1
   members:=s.members.erase identity }

end CoordinatorState

section

variable (node:Coordinator)

def notice (s:CoordinatorState) (target:MemberIdentity) (kind:NoticeKind):Notice:=
 ⟨node.config.name,node.config.seed.systemName,node.incarnationUid,target.incarnationUid,
  kind,s.revision,wireMembers s.members⟩

/-- The records of `_broadcast_membership` with their targets. -/
def broadcastMembership (s:CoordinatorState) (exclude:Option MemberIdentity):
  List (MemberIdentity×Notice):=
 (s.memberRefs.keys.filter fun identity=>some identity≠exclude).filterMap fun identity=>
  (s.memberTokens.lookup identity).map fun token=>
   (identity,notice node s identity (.membershipUpdate token))

/-- The section of `_form_cluster`, and each of the two of `_coordinator_leave`. -/
def setSelfStatus (status:MemberStatus) (s:CoordinatorState):CoordinatorState:=
 match s.members.lookup node.selfIdentity with
 | none=>s
 | some member=>s.advance { member with status:=status }

def formCluster (s:CoordinatorState):CoordinatorState:=setSelfStatus node .up s

/-- One tombstone taken from `_left_order`, in the loop of
 `_reserve_member_capacity_locked`. -/
def retireMember (s:CoordinatorState) (identity:MemberIdentity):CoordinatorState:=
 ({ s with
  retiredIdentities:=insert identity s.retiredIdentities }.removeMember
  identity).revokeMember identity

/-- `_reserve_member_capacity_locked` with the tombstones still in `_left_order`. -/
def reserveMemberCapacity (s:CoordinatorState):
  List MemberIdentity → CoordinatorState×Bool
 | []=>({ s with leftOrder:=[] },decide (s.members.keys.length<node.config.memberLimit))
 | identity::rest=>
  if node.config.memberLimit ≤ s.members.keys.length then
   if (s.members.lookup identity).map ClusterMember.status=some .left then
    if identity∉s.retiredIdentities ∧
     node.config.retiredIdentityLimit ≤ s.retiredIdentities.card then
     ({ s with leftOrder:=rest },false)
    else reserveMemberCapacity (retireMember s identity) rest
   else reserveMemberCapacity s rest
  else ({ s with leftOrder:=identity::rest },true)

/-- The test at the start of `_handle_join_request`, outside the lock. -/
def JoinRequestValid (message:JoinRequest) (source:MemberIdentity) (sourceEndpoint:Endpoint):Prop:=
 node.TargetsSelf message.clusterName message.targetIncarnationUid ∧
 message.configFingerprint=node.config.fingerprint ∧
 source=⟨message.sourceSystemName,message.sourceIncarnationUid⟩ ∧
 sourceEndpoint=⟨message.sourceHost,message.sourcePort⟩ ∧
 node.peers message.sourceSystemName=some ⟨message.sourceHost,message.sourcePort⟩

instance (message:JoinRequest) (source:MemberIdentity) (sourceEndpoint:Endpoint):
  Decidable (JoinRequestValid node message source sourceEndpoint):=
 inferInstanceAs (Decidable (_ ∧ _ ∧ _ ∧ _ ∧ _))

/-- The conditions under which `_handle_join_request` ignores a request in its section. -/
def JoinRefused (s:CoordinatorState) (identity:MemberIdentity) (requestId:UUID):Prop:=
 (∃member∈Members.values s.members,member.identity.systemName=identity.systemName ∧
  member.identity≠identity ∧ member.Active) ∨
 identity∈s.retiredIdentities ∨
 (∃existing∈s.members.lookup identity,existing.status≠.joining) ∨
 (∃pending∈s.pendingJoins.lookup identity,pending.1≠requestId)

instance (s:CoordinatorState) (identity:MemberIdentity) (requestId:UUID):
  Decidable (JoinRefused s identity requestId):=
 inferInstanceAs (Decidable (_ ∨ _ ∨ _ ∨ _))

def provision (s:CoordinatorState) (identity:MemberIdentity) (reference:RemoteActorRef)
  (requestId token:UUID) (now:ℤ):CoordinatorState:=
 { s with
   memberTokens:=s.memberTokens.insert identity ((s.memberTokens.lookup identity).getD token)
   memberRefs:=s.memberRefs.insert identity reference
   lastEvidence:=s.lastEvidence.insert identity now
   lastHeartbeatSequence:=s.lastHeartbeatSequence.insert identity
    ((s.lastHeartbeatSequence.lookup identity).getD (-1))
   pendingJoins:=s.pendingJoins.insert identity
    ((s.pendingJoins.lookup identity).getD (requestId,now+node.config.joinTimeout)) }

/-- The section of `_handle_join_request`; `token` is the fresh token. -/
def handleJoinRequest (s:CoordinatorState) (message:JoinRequest) (source:MemberIdentity)
  (sourceEndpoint:Endpoint) (token:UUID) (now:ℤ):CoordinatorState×Option Notice:=
 let reference:RemoteActorRef:=
  ⟨source.systemName,source.incarnationUid,message.sourceControlActorUid,sourceEndpoint⟩
 let accept (s:CoordinatorState):CoordinatorState×Option Notice:=
  let s':=provision node s source reference message.requestId token now
  let held:=(s.memberTokens.lookup source).getD token
  (s',some (notice node s' source (.joinAccepted message.requestId held)))
 if ¬JoinRequestValid node message source sourceEndpoint then (s,none)
 else if ¬s.state.Serving then (s,none)
 else if JoinRefused s source message.requestId then (s,none)
 else if (s.members.lookup source).isSome then accept s
 else
  match reserveMemberCapacity node s s.leftOrder with
  | (s',false)=>(s',none)
  | (s',true)=>accept (s'.advance ⟨source,sourceEndpoint,.joining,.reachable⟩)

def expireProvisionalJoin (s:CoordinatorState) (identity:MemberIdentity)
  (requestId:UUID):CoordinatorState:=
 if (s.pendingJoins.lookup identity).map Prod.fst=some requestId ∧
  (s.members.lookup identity).map ClusterMember.status=some .joining then
  let s':=({ s with pendingJoins:=s.pendingJoins.erase identity }.removeMember
   identity).revokeMember identity
  { s' with revision:=s'.revision+1 }
 else s

/-- What `_expire_provisional_joins` finds expired. -/
def expiredJoins (s:CoordinatorState) (now:ℤ):List (MemberIdentity×UUID):=
 (s.pendingJoins.entries.filter fun entry=>entry.2.2≤now).map
  fun entry=>(entry.1,entry.2.1)

/-- The test that the other three handlers make outside the lock. -/
def FromMember (clusterName sourceSystemName:String)
  (sourceIncarnationUid targetIncarnationUid:UUID) (source:MemberIdentity):Prop:=
 node.TargetsSelf clusterName targetIncarnationUid ∧
 source=⟨sourceSystemName,sourceIncarnationUid⟩

instance (clusterName sourceSystemName:String)
  (sourceIncarnationUid targetIncarnationUid:UUID) (source:MemberIdentity):
  Decidable (FromMember node clusterName sourceSystemName sourceIncarnationUid
   targetIncarnationUid source):=
 inferInstanceAs (Decidable (_ ∧ _))

/-- The section of `_handle_join_confirm`, and whether a broadcast follows. -/
def handleJoinConfirm (s:CoordinatorState) (message:JoinConfirm) (source:MemberIdentity)
  (now:ℤ):CoordinatorState×Bool:=
 if FromMember node message.clusterName message.sourceSystemName message.sourceIncarnationUid
  message.targetIncarnationUid source ∧ s.state.Serving then
  match s.members.lookup source,s.pendingJoins.lookup source with
  | some member,some (requestId,deadline)=>
   if member.status=.joining ∧ requestId=message.requestId ∧ now≤deadline ∧
    s.memberTokens.lookup source=some message.membershipToken then
    ({ s with
     pendingJoins:=s.pendingJoins.erase source
     lastEvidence:=s.lastEvidence.insert source now }.advance
     { member with status:=.up },true)
   else (s,false)
  | _,_=>(s,false)
 else (s,false)

/-- The section of `_handle_heartbeat`: the acknowledgement to send, with whether the member
 became reachable. -/
def handleHeartbeat (s:CoordinatorState) (message:Heartbeat) (source:MemberIdentity)
  (now:ℤ):CoordinatorState×Option (Notice×Bool):=
 if FromMember node message.clusterName message.sourceSystemName message.sourceIncarnationUid
  message.targetIncarnationUid source then
  match s.members.lookup source with
  | some member=>
   if member.status=.up ∧
    s.memberTokens.lookup source=some message.membershipToken ∧
    (s.memberRefs.lookup source).isSome ∧
    (s.lastHeartbeatSequence.lookup source).getD (-1) < message.sequence then
    let seen:={ s with
     lastHeartbeatSequence:=s.lastHeartbeatSequence.insert source (message.sequence:ℤ)
     lastEvidence:=s.lastEvidence.insert source now }
    let s':=if member.reachability=.unreachable then
     seen.advance { member with reachability:=.reachable } else seen
    (s',some (notice node s' source (.heartbeatAck message.membershipToken message.sequence),
     decide (member.reachability=.unreachable)))
   else (s,none)
  | none=>(s,none)
 else (s,none)

/-- The first section of `_handle_leave`: `none` when it returns, else whether the member
 was up. -/
def handleLeave (s:CoordinatorState) (message:Leave) (source:MemberIdentity):
  CoordinatorState×Option Bool:=
 if FromMember node message.clusterName message.sourceSystemName message.sourceIncarnationUid
  message.targetIncarnationUid source then
  match s.members.lookup source with
  | some member=>
   if s.memberTokens.lookup source=some message.membershipToken ∧
    (s.memberRefs.lookup source).isSome then
    if member.status=.up then (s.advance { member with status:=.leaving },some true)
    else (s,some false)
   else (s,none)
  | none=>(s,none)
 else (s,none)

/-- The second section of `_handle_leave`. The record is built before the credentials are
 revoked; `none` stands for the `KeyError` of a missing member. -/
def finishLeave (s:CoordinatorState) (identity:MemberIdentity) (requestId:UUID):
  CoordinatorState×Option Notice:=
 match s.members.lookup identity with
 | none=>(s,none)
 | some member=>
  let s':=if member.status=.left then s else s.advance { member with status:=.left }
  (s'.revokeMember identity,some (notice node s' identity (.leaveAck requestId)))

/-- The loop of `_detect_unreachable_members` over the items read at its start, and whether
 it changed a member. -/
def detectUnreachableMembers (now:ℤ) (s:CoordinatorState):
  List (Σ _:MemberIdentity,ClusterMember) → CoordinatorState×Bool
 | []=>(s,false)
 | ⟨identity,member⟩::rest=>
  if identity=node.selfIdentity ∨ member.status≠.up ∨
   member.reachability=.unreachable ∨
   now - (s.lastEvidence.lookup identity).getD now<node.config.unreachableTimeout then
   detectUnreachableMembers now s rest
  else
   ((detectUnreachableMembers now (s.advance { member with reachability:=.unreachable })
    rest).1,true)

def down (s:CoordinatorState) (identity:MemberIdentity):
  Except String (CoordinatorState×Bool):=do
 reject (identity=node.selfIdentity) "the Membership Coordinator cannot down itself"
 reject (s.state≠.running) "cluster runtime is not running"
 match s.members.lookup identity with
 | none=>return (s,false)
 | some member=>
  if member.status=.left then return (s,false)
  else do
   reject (member.status≠.up) "only an up member can be downed"
   reject (member.reachability≠.unreachable) "only an unreachable member can be downed"
   return ((s.advance { member with status:=.left }).revokeMember identity,true)

def selfStatus (s:CoordinatorState):Option MemberStatus:=
 (s.members.lookup node.selfIdentity).map ClusterMember.status

def finishStop (s:CoordinatorState):CoordinatorState:=
 match s.members.lookup node.selfIdentity with
 | none=>s
 | some member=>
  let s':=if member.status=.left then s else
   { s with toMemberView:=s.toMemberView.replaceMember { member with status:=.left } }
  { s' with state:=.stopped }

end

inductive Starter where
 | idle
 | entered
 | formed
 | launched
 | done
 deriving DecidableEq

inductive Worker where
 | notStarted
 | idle
 | accepting (identity:MemberIdentity) (requestId:UUID)
 | expiring (expired:List (MemberIdentity×UUID))
 | leaving (identity:MemberIdentity) (requestId:UUID)
 | detecting (now:ℤ)
 | ended
 deriving DecidableEq

/-- How far the holder of `_stop_lock` has come in `_stop_before_locked`. -/
inductive Stopper where
 | idle
 | waiting
 | announcing
 | departing
 | ending
 deriving DecidableEq

/-- The coordinator with its threads. `broadcasts` holds the calls of
 `_broadcast_membership` that have not read the snapshot yet; `sent` lists every record
 handed to remoting with its target. -/
structure CoordinatorRun where
 data:CoordinatorState
 starter:Starter
 worker:Worker
 stopper:Stopper
 broadcasts:List (Option MemberIdentity)
 sent:List (MemberIdentity×Notice)

def CoordinatorRun.create (node:Coordinator) (now:ℤ):CoordinatorRun:=
 ⟨.create node now,.idle,.notStarted,.idle,[],[]⟩

inductive CallerEvent where
 | start
 | form
 | launch
 | startReturns
 | startFails
 | down (identity:MemberIdentity)
 | broadcast
 | stop
 | stopFails
 | stopDecides
 | announce
 | depart
 | stopFinishes

inductive WorkerEvent where
 | joinRequest (message:JoinRequest) (source:MemberIdentity) (sourceEndpoint:Endpoint)
  (token:UUID) (now:ℤ)
 | acceptedSent (returned:Bool)
 | joinConfirm (message:JoinConfirm) (source:MemberIdentity) (now:ℤ)
 | heartbeat (message:Heartbeat) (source:MemberIdentity) (now:ℤ) (returned:Bool)
 | leave (message:Leave) (source:MemberIdentity)
 | leaveFinishes
 | expire (now:ℤ)
 | expireNext
 | expireEnds
 | tick (now:ℤ)
 | detect
 | workerEnds
 | workerFails

inductive Event where
 | caller (event:CallerEvent)
 | worker (event:WorkerEvent)

def outgoing (target:MemberIdentity) (record:Option Notice):List (MemberIdentity×Notice):=
 (record.map fun notice=>(target,notice)).toList

def pending (condition:Bool) (exclude:Option MemberIdentity):List (Option MemberIdentity):=
 if condition then [exclude] else []

section

variable (node:Coordinator)

/-- A broadcast may be any thread's; the others are sections of `start`, `down` and
 `_stop_before_locked`. -/
def callerStep (r:CoordinatorRun):CallerEvent → CoordinatorRun → Prop
 | .start,r'=>r.starter=.idle ∧ r.data.state=.new ∧
  r'={ r with data:={ r.data with state:=.starting },starter:=.entered }
 | .form,r'=>r.starter=.entered ∧
  r'={ r with data:=formCluster node r.data,starter:=.formed }
 | .launch,r'=>r.starter=.formed ∧ r.worker=.notStarted ∧
  r'={ r with worker:=.idle,starter:=.launched }
 | .startReturns,r'=>r.starter=.launched ∧
  r'={ r with
   data:={ r.data with
    state:=if r.data.state=.starting then .running else r.data.state
    startupSettled:=true }
   starter:=.done }
 | .startFails,r'=>r.starter≠.idle ∧ r.starter≠.done ∧
  r'={ r with
   data:={ r.data with
    state:=if r.data.state=.starting then .failed else r.data.state
    startupSettled:=true }
   starter:=.done }
 | .down identity,r'=>∃data changed,down node r.data identity=.ok (data,changed) ∧
  r'={ r with data:=data,broadcasts:=r.broadcasts++pending changed (some identity) }
 | .broadcast,r'=>∃before exclude after,r.broadcasts=before++exclude::after ∧
  r'={ r with
   broadcasts:=before++after
   sent:=r.sent++broadcastMembership node r.data exclude }
 | .stop,r'=>r.stopper=.idle ∧ r.data.state≠.stopped ∧
  r'={ r with
   data:={ r.data with
    state:=.stopping
    startupSettled:=r.data.startupSettled || decide (r.data.state=.new) }
   stopper:=.waiting }
 | .stopFails,r'=>(r.stopper=.waiting ∨ r.stopper=.ending) ∧
  r'={ r with stopper:=.idle }
 | .stopDecides,r'=>r.stopper=.waiting ∧ r.data.startupSettled=true ∧
  r'={ r with
   stopper:=if selfStatus node r.data=some .up then .announcing else .ending }
 | .announce,r'=>r.stopper=.announcing ∧
  r'={ r with
   data:=setSelfStatus node .leaving r.data
   broadcasts:=r.broadcasts++[none]
   stopper:=.departing }
 | .depart,r'=>r.stopper=.departing ∧
  r'={ r with
   data:=setSelfStatus node .left r.data
   broadcasts:=r.broadcasts++[none]
   stopper:=.ending }
 | .stopFinishes,r'=>r.stopper=.ending ∧
  (r.worker=.notStarted ∨ r.worker=.ended) ∧
  r'={ r with data:=finishStop node r.data,stopper:=.idle }

/-- The sections of the worker thread. A broadcast it owes does not hold it up. -/
def workerStep (r:CoordinatorRun):WorkerEvent → CoordinatorRun → Prop
 | .joinRequest message source sourceEndpoint token now,r'=>r.worker=.idle ∧
  ∃data record,
   handleJoinRequest node r.data message source sourceEndpoint token now=(data,record) ∧
   r'={ r with
    data:=data
    worker:=if record.isSome then .accepting source message.requestId else .idle
    sent:=r.sent++outgoing source record }
 | .acceptedSent returned,r'=>∃identity requestId,
  r.worker=.accepting identity requestId ∧
  r'={ r with
   data:=if returned then r.data else expireProvisionalJoin r.data identity requestId
   worker:=.idle }
 | .joinConfirm message source now,r'=>r.worker=.idle ∧
  ∃data changed,handleJoinConfirm node r.data message source now=(data,changed) ∧
   r'={ r with data:=data,broadcasts:=r.broadcasts++pending changed none }
 | .heartbeat message source now returned,r'=>r.worker=.idle ∧
  ∃data ack,handleHeartbeat node r.data message source now=(data,ack) ∧
   r'={ r with
    data:=data
    broadcasts:=r.broadcasts ++
     pending (returned && decide (ack.map Prod.snd=some true)) (some source)
    sent:=r.sent++outgoing source (ack.map Prod.fst) }
 | .leave message source,r'=>r.worker=.idle ∧
  ∃data wasUp,handleLeave node r.data message source=(data,wasUp) ∧
   r'={ r with
    data:=data
    worker:=if wasUp.isSome then .leaving source message.requestId else .idle
    broadcasts:=r.broadcasts++pending (decide (wasUp=some true)) none }
 | .leaveFinishes,r'=>∃identity requestId data record,
  r.worker=.leaving identity requestId ∧
  finishLeave node r.data identity requestId=(data,some record) ∧
  r'={ r with
   data:=data
   worker:=.idle
   broadcasts:=r.broadcasts++[some identity]
   sent:=r.sent++[(identity,record)] }
 | .expire now,r'=>r.worker=.idle ∧
  r'={ r with worker:=.expiring (expiredJoins r.data now) }
 | .expireNext,r'=>∃identity requestId rest,
  r.worker=.expiring ((identity,requestId)::rest) ∧
  r'={ r with
   data:=expireProvisionalJoin r.data identity requestId
   worker:=.expiring rest }
 | .expireEnds,r'=>r.worker=.expiring [] ∧ r'={ r with worker:=.idle }
 | .tick now,r'=>r.worker=.idle ∧ r.data.state.Serving ∧
  selfStatus node r.data=some .up ∧ r'={ r with worker:=.detecting now }
 | .detect,r'=>∃now data changed,r.worker=.detecting now ∧
  detectUnreachableMembers node now r.data r.data.members.entries=(data,changed) ∧
  r'={ r with
   data:=data
   worker:=.idle
   broadcasts:=r.broadcasts++pending changed none }
 | .workerEnds,r'=>r.worker=.idle ∧ r'={ r with worker:=.ended }
 | .workerFails,r'=>r.worker≠.notStarted ∧ r.worker≠.ended ∧
  r'={ r with
   data:={ r.data with
    state:=if r.data.state=.stopping ∨ r.data.state=.stopped then r.data.state
     else .failed }
   worker:=.ended }

def step (r:CoordinatorRun):Event → CoordinatorRun → Prop
 | .caller event,r'=>callerStep node r event r'
 | .worker event,r'=>workerStep node r event r'

def system : System CoordinatorRun Event where
 init r:=∃now,r=.create node now
 step:=step node

end

end Movie.ClusterCoordinator
