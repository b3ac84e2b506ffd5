import Movie.WireFrames
import Mathlib.Data.Prod.Lex

/-!
# The association manager

The registry of associations in `remoting/runtime.py`: the active association of a peer, the peer's
incarnations and the decisions about duplicates. Connections that are set up or closed and the
events are left out.
-/
namespace Movie.AssociationManager

open Checked DurableModel WireFrames

inductive RuntimeState where
 | new
 | starting
 | running
 | failed
 | stopping
 | stopped
 deriving DecidableEq

inductive AssociationState where
 | handshaking
 | active
 | closing
 | closed
 deriving DecidableEq

structure Association where
 associationUid:UUID
 initiator:Bool
 expectedSystemName:Option String
 state:AssociationState
 peerSystemName:Option String
 peerIncarnationUid:Option UUID
 closeReason:Option ReasonCode
 closeDetail:Option String
 registrationOrder:ℕ
 reconnectCount:ℕ
 countsAsReconnect:Bool
 deriving DecidableEq

namespace Association

def create (associationUid:UUID) (initiator:Bool) (expectedSystemName:Option String):
  Association where
 associationUid:=associationUid
 initiator:=initiator
 expectedSystemName:=expectedSystemName
 state:=.handshaking
 peerSystemName:=none
 peerIncarnationUid:=none
 closeReason:=none
 closeDetail:=none
 registrationOrder:=0
 reconnectCount:=0
 countsAsReconnect:=false

def targetSystemName (association:Association):Option String:=
 association.peerSystemName.or association.expectedSystemName

def Ending (association:Association):Prop:=
 association.state=.closing ∨ association.state=.closed

instance (association:Association):Decidable association.Ending:=
 inferInstanceAs (Decidable (_ ∨ _))

def greet (association:Association) (peerSystemName:String) (peerIncarnationUid:UUID):
  Association:=
 { association with
   peerSystemName:=some peerSystemName
   peerIncarnationUid:=some peerIncarnationUid }

def requestClose (association:Association) (reason:ReasonCode) (detail:String):
  Association:=
 if association.Ending then association
 else
  { association with
    closeReason:=some reason
    closeDetail:=some detail
    state:=.closing }

def setCloseReason (association:Association) (reason:Option ReasonCode) (detail:String):
  Association:=
 let kept:=if association.closeDetail=none then
  { association with closeReason:=reason,closeDetail:=some detail }
  else association
 if kept.state=.closed then kept else { kept with state:=.closing }

/-- The part of `_run` after the activation: an association that closes meanwhile returns. -/
def becomeActive (association:Association):Association:=
 if association.state=.handshaking then { association with state:=.active } else association

def markClosed (association:Association):Association:={ association with state:=.closed }

/-- `initiator_rank`. Identifiers of one length are ordered by bytes as by value. -/
def initiatorRank (association:Association) (incarnationUid:UUID):Option (ℕ ×ₗ ℕ):=
 (if association.initiator then some incarnationUid else association.peerIncarnationUid).map
  fun uid=>toLex (uid.int,association.associationUid.int)

end Association

structure Manager (K:Type) where
 state:RuntimeState
 listenerFailure:Option String
 incarnationUid:UUID
 associations:List K
 association:K → Association
 active:String → Option K
 knownIncarnations:String → Option UUID
 knownGeneration:String → Option ℕ
 lastActiveCloseReasons:String → Option (Option ReasonCode)
 reconnectCounts:String → Option ℕ
 nextAssociationGeneration:ℕ

def Manager.create {K:Type} (incarnationUid:UUID):Manager K where
 state:=.new
 listenerFailure:=none
 incarnationUid:=incarnationUid
 associations:=[]
 association:=fun _=>.create (Wire.toUUID 0) false none
 active:=fun _=>none
 knownIncarnations:=fun _=>none
 knownGeneration:=fun _=>none
 lastActiveCloseReasons:=fun _=>none
 reconnectCounts:=fun _=>none
 nextAssociationGeneration:=1

structure RemoteActorRef where
 systemName:String
 systemIncarnationUid:UUID
 actorUid:UUID
 deriving DecidableEq

inductive RoutingError where
 | shutdown (detail:String)
 | staleIncarnation (detail:String)
 | noAssociation (detail:String)
 deriving DecidableEq

section

variable {K:Type} [DecidableEq K]

namespace Manager

def rank (manager:Manager K) (key:K):Option (ℕ ×ₗ ℕ):=
 (manager.association key).initiatorRank manager.incarnationUid

def rankLt (manager:Manager K) (first second:K):Bool:=
 (manager.rank first).any fun rank=>(manager.rank second).any fun other=>rank<other

def rankLe (manager:Manager K) (first second:K):Bool:=
 (manager.rank first).any fun rank=>(manager.rank second).any fun other=>rank≤other

def update (manager:Manager K) (key:K) (f:Association → Association):Manager K:=
 { manager with
   association:=Function.update manager.association key (f (manager.association key)) }

/-- `_register_and_start`; whether there is capacity for the association is a parameter. -/
def registerAndStart (manager:Manager K) (key:K) (association:Association)
  (capacity:Bool):Manager K:=
 if manager.state=.running ∧ capacity=true then
  { manager with
    associations:=key::manager.associations
    association:=Function.update manager.association key
     { association with registrationOrder:=manager.nextAssociationGeneration }
    nextAssociationGeneration:=manager.nextAssociationGeneration+1 }
 else manager

def KnownOther (manager:Manager K) (peerName:String) (peerUid:UUID):Prop:=
 manager.knownIncarnations peerName≠none ∧ manager.knownIncarnations peerName≠some peerUid

instance (manager:Manager K) (peerName:String) (peerUid:UUID):
  Decidable (manager.KnownOther peerName peerUid):=inferInstanceAs (Decidable (_ ∧ _))

def Precedes (manager:Manager K) (candidate:K) (peerName:String) (peerUid:UUID) (other:K):Prop:=
 other≠candidate ∧ (manager.association other).state=.handshaking ∧
 (manager.association other).targetSystemName=some peerName ∧
 ((manager.association other).peerIncarnationUid=none ∨
  (manager.association other).peerIncarnationUid=some peerUid) ∧
 manager.rankLt other candidate=true

instance (manager:Manager K) (candidate:K) (peerName:String) (peerUid:UUID) (other:K):
  Decidable (manager.Precedes candidate peerName peerUid other):=
 inferInstanceAs (Decidable (_ ∧ _ ∧ _ ∧ _ ∧ _))

def retainHandshakeCandidate (manager:Manager K) (candidate:K):Option Bool:=do
 let peerName ← (manager.association candidate).peerSystemName
 let peerUid ← (manager.association candidate).peerIncarnationUid
 if manager.state≠.running then return false
 if manager.KnownOther peerName peerUid then return true
 return decide (∀other∈manager.associations,
  ¬manager.Precedes candidate peerName peerUid other)

def openAssociation (manager:Manager K) (peerName:String):Option K:=
 (manager.active peerName).filter fun current=>¬(manager.association current).Ending

def predecessorReason (manager:Manager K) (peerName:String):Option ReasonCode:=
 match manager.active peerName with
 | none=>(manager.lastActiveCloseReasons peerName).join
 | some current=>(manager.association current).closeReason

/-- The predecessor closed, and not as a duplicate, and the peer is the same. -/
def CountsAsReconnect (manager:Manager K) (peerName:String) (peerUid:UUID):Prop:=
 manager.openAssociation peerName=none ∧
 manager.predecessorReason peerName≠some .duplicateAssociation ∧
 manager.knownIncarnations peerName=some peerUid

instance (manager:Manager K) (peerName:String) (peerUid:UUID):
  Decidable (manager.CountsAsReconnect peerName peerUid):=
 inferInstanceAs (Decidable (_ ∧ _ ∧ _))

def reconnectCount (manager:Manager K) (peerName:String) (peerUid:UUID):ℕ:=
 let count:=(manager.reconnectCounts peerName).getD 0
 if manager.CountsAsReconnect peerName peerUid then count+1
 else if manager.knownIncarnations peerName≠some peerUid then 0
 else count

def install (manager:Manager K) (candidate:K) (peerName:String) (peerUid:UUID):
  Manager K:=
 let association:=manager.association candidate
 let knownGeneration:=(manager.knownGeneration peerName).getD 0
 let count:=manager.reconnectCount peerName peerUid
 { manager with
   association:=Function.update manager.association candidate
    { association with
      reconnectCount:=count
      countsAsReconnect:=decide (manager.CountsAsReconnect peerName peerUid) }
   reconnectCounts:=Function.update manager.reconnectCounts peerName (some count)
   active:=Function.update manager.active peerName (some candidate)
   knownIncarnations:=Function.update manager.knownIncarnations peerName (some peerUid)
   knownGeneration:=Function.update manager.knownGeneration peerName
    (some (if manager.knownIncarnations peerName=some peerUid then
     max knownGeneration association.registrationOrder
     else association.registrationOrder)) }

inductive Activation (K:Type) where
 | refused
 | accepted (replaced:Option K)
 deriving DecidableEq

def activation (manager:Manager K) (candidate:K) (peerName:String) (peerUid:UUID):
  Activation K:=
 if manager.state≠.running then .refused
 else if manager.KnownOther peerName peerUid ∧
  (manager.association candidate).registrationOrder <
   (manager.knownGeneration peerName).getD 0 then .refused
 else
  match manager.openAssociation peerName with
  | none=>.accepted none
  | some current=>
   if (manager.association current).peerIncarnationUid=some peerUid then
    if manager.rankLe current candidate then .refused else .accepted (some current)
   else .refused

def activateAssociation (manager:Manager K) (candidate:K):
  Option (Activation K×Manager K):=do
 let peerName ← (manager.association candidate).peerSystemName
 let peerUid ← (manager.association candidate).peerIncarnationUid
 match manager.activation candidate peerName peerUid with
 | .refused=>return (.refused,manager)
 | .accepted replaced=>
  return (.accepted replaced,manager.install candidate peerName peerUid)

def associationClosed (manager:Manager K) (key:K):Manager K:=
 let association:=manager.association key
 let remaining:={ manager with associations:=manager.associations.erase key }
 match association.peerSystemName with
 | none=>remaining
 | some peerName=>
  if manager.active peerName=some key then
   { remaining with
     active:=Function.update manager.active peerName none
     lastActiveCloseReasons:=Function.update manager.lastActiveCloseReasons peerName
      (some association.closeReason) }
  else remaining

def requireRunning (manager:Manager K):Except RoutingError Unit:=do
 match manager.listenerFailure with
 | some failure=>.error (.shutdown ("remoting listener failed: " ++ failure))
 | none=>reject (manager.state≠.running) (.shutdown "remoting runtime is not running")

def staleReference : RoutingError:=
 .staleIncarnation "remote actor reference targets a stale actor-system incarnation"

def activePeer (manager:Manager K) (systemName:String):Option UUID:=
 (manager.active systemName).bind fun key=>(manager.association key).peerIncarnationUid

def associationForReference (manager:Manager K) (reference:RemoteActorRef):
  Except RoutingError K:=do
 manager.requireRunning
 reject (manager.KnownOther reference.systemName reference.systemIncarnationUid ∨
  (manager.activePeer reference.systemName≠none ∧
   manager.activePeer reference.systemName≠some reference.systemIncarnationUid))
  staleReference
 let missing:=RoutingError.noAssociation ("no active association exists for actor system '" ++
  reference.systemName ++ "'")
 match manager.active reference.systemName with
 | none=>.error missing
 | some key=>
  reject ((manager.association key).state≠.active) missing
  return key

def requireActive (manager:Manager K) (key:K) (peerUid:UUID):Except RoutingError Unit:=do
 reject ((manager.association key).state≠.active) (.noAssociation "association is not active")
 reject ((manager.association key).peerIncarnationUid≠some peerUid)
  (.noAssociation "association targets another actor-system incarnation")

def sendIfCurrent (manager:Manager K) (key:K) (peerName:String) (peerUid:UUID):
  Except RoutingError Unit:=do
 manager.requireRunning
 reject (manager.active peerName≠some key) (.noAssociation "association is no longer active")
 reject (manager.knownIncarnations peerName≠some peerUid) staleReference

end Manager

end

section

variable {K:Type} {manager:Manager K} {candidate current:K}
 {peerName:String} {peerUid:UUID}

namespace Manager

lemma openAssociation_eq_some : manager.openAssociation peerName=some current ↔
   manager.active peerName=some current ∧ ¬(manager.association current).Ending:=by
 rw [openAssociation,Option.filter_eq_some_iff,decide_eq_true_iff]

lemma activation_eq_accepted {replaced:Option K}
  (h:manager.activation candidate peerName peerUid=.accepted replaced):
  manager.state=.running ∧ manager.openAssociation peerName=replaced ∧
  (manager.KnownOther peerName peerUid → (manager.knownGeneration peerName).getD 0 ≤
   (manager.association candidate).registrationOrder) ∧
  ∀current∈replaced,(manager.association current).peerIncarnationUid=some peerUid ∧
   manager.rankLe current candidate=false:=by
 unfold activation at h
 split_ifs at h with hstate hknown
 have hrunning:manager.state=.running:=not_not.mp hstate
 have hgeneration:manager.KnownOther peerName peerUid →
  (manager.knownGeneration peerName).getD 0 ≤
   (manager.association candidate).registrationOrder:=
  fun hother=>Nat.not_lt.mp fun hlt=>hknown ⟨hother,hlt⟩
 cases hopen:manager.openAssociation peerName with
 | none=>
  rw [hopen] at h
  cases h
  exact ⟨hrunning,rfl,hgeneration,fun _ hmem=>by cases hmem⟩
 | some current=>
  rw [hopen] at h
  dsimp only at h
  split_ifs at h with hpeer hrank
  cases h
  refine ⟨hrunning,rfl,hgeneration,fun other hmem=>?_⟩
  cases hmem
  exact ⟨hpeer,Bool.not_eq_true _▸hrank⟩

lemma activation_eq_refused (h:manager.activation candidate peerName peerUid=.refused):
  manager.state≠.running ∨ manager.KnownOther peerName peerUid ∨
  ∃current,manager.openAssociation peerName=some current ∧
   ((manager.association current).peerIncarnationUid≠some peerUid ∨
    manager.rankLe current candidate=true):=by
 unfold activation at h
 split_ifs at h with hstate hknown
 · exact .inl hstate
 · exact .inr (.inl hknown.1)
 · cases hopen:manager.openAssociation peerName with
   | none=>
    rw [hopen] at h
    cases h
   | some current=>
    rw [hopen] at h
    dsimp only at h
    split_ifs at h with hpeer hrank
    · exact .inr (.inr ⟨current,rfl,.inr hrank⟩)
    · exact .inr (.inr ⟨current,rfl,.inl hpeer⟩)

lemma activateAssociation_cases [DecidableEq K] {result:Activation K×Manager K}
  (h:manager.activateAssociation candidate=some result):
  ∃peerName peerUid,(manager.association candidate).peerSystemName=some peerName ∧
   (manager.association candidate).peerIncarnationUid=some peerUid ∧
   ((manager.activation candidate peerName peerUid=.refused ∧ result=(.refused,manager)) ∨
    ∃replaced,manager.activation candidate peerName peerUid=.accepted replaced ∧
     result=(.accepted replaced,manager.install candidate peerName peerUid)):=by
 obtain ⟨peerName,hname,h⟩:=Option.bind_eq_some_iff.mp h
 obtain ⟨peerUid,huid,h⟩:=Option.bind_eq_some_iff.mp h
 refine ⟨peerName,peerUid,hname,huid,?_⟩
 cases hactivation:manager.activation candidate peerName peerUid with
 | refused=>
  rw [hactivation] at h
  exact .inl ⟨rfl,(Option.some.inj h).symm⟩
 | accepted replaced=>
  rw [hactivation] at h
  exact .inr ⟨replaced,rfl,(Option.some.inj h).symm⟩

lemma sendIfCurrent_eq_ok [DecidableEq K]
  (h:manager.sendIfCurrent candidate peerName peerUid=.ok ()):
  manager.active peerName=some candidate ∧
   manager.knownIncarnations peerName=some peerUid:=by
 obtain ⟨⟨⟩,-,h⟩:=bind_eq_ok h
 rw [bind_reject_eq_ok,ne_eq,not_not] at h
 refine ⟨h.1,?_⟩
 by_contra hknown
 have hrejected:=h.2
 rw [reject,if_pos hknown] at hrejected
 cases hrejected

lemma requireActive_eq_ok (h:manager.requireActive candidate peerUid=.ok ()):
  (manager.association candidate).peerIncarnationUid=some peerUid:=by
 obtain ⟨-,h⟩:=bind_reject_eq_ok.mp h
 by_contra hpeer
 rw [reject,if_pos hpeer] at h
 cases h

lemma associationForReference_eq_ok {reference:RemoteActorRef}
  (h:manager.associationForReference reference=.ok candidate):
  manager.active reference.systemName=some candidate:=by
 obtain ⟨⟨⟩,-,h⟩:=bind_eq_ok h
 obtain ⟨-,h⟩:=bind_reject_eq_ok.mp h
 cases hactive:manager.active reference.systemName with
 | none=>
  rw [hactive] at h
  cases h
 | some key=>
  rw [hactive] at h
  obtain ⟨-,h⟩:=bind_reject_eq_ok.mp h
  cases h
  rfl

end Manager

end

section

variable {K:Type} [DecidableEq K] (manager:Manager K) (key:K)

namespace Manager

lemma update_association_self (f:Association → Association):
  (manager.update key f).association key=f (manager.association key):=
 Function.update_self _ _ _

lemma update_association_of_ne {other:K} (h:other≠key) (f:Association → Association):
  (manager.update key f).association other=manager.association other:=
 Function.update_of_ne h _ _

lemma registerAndStart_association_self {manager:Manager K} (h:manager.state=.running)
  (association:Association):(manager.registerAndStart key association true).association key =
   { association with registrationOrder:=manager.nextAssociationGeneration }:=by
 rw [registerAndStart,if_pos ⟨h,rfl⟩]
 exact Function.update_self _ _ _

lemma registerAndStart_association_of_ne {other:K} (h:other≠key)
  (association:Association) (capacity:Bool):
  (manager.registerAndStart key association capacity).association other =
   manager.association other:=by
 unfold registerAndStart
 split_ifs
 · exact Function.update_of_ne h _ _
 · rfl

lemma registerAndStart_known (association:Association) (capacity:Bool):
  (manager.registerAndStart key association capacity).state=manager.state ∧
  (manager.registerAndStart key association capacity).incarnationUid=manager.incarnationUid ∧
  (manager.registerAndStart key association capacity).active=manager.active ∧
  (manager.registerAndStart key association capacity).knownIncarnations =
   manager.knownIncarnations ∧
  ∀other∈(manager.registerAndStart key association capacity).associations,
   other∈manager.associations ∨ other=key:=by
 unfold registerAndStart
 split_ifs
 · exact ⟨rfl,rfl,rfl,rfl,fun other hother=>(List.mem_cons.mp hother).symm⟩
 · exact ⟨rfl,rfl,rfl,rfl,fun other hother=>.inl hother⟩

lemma install_association (candidate:K) (peerName:String) (peerUid:UUID):
  ∃count counts,(manager.install candidate peerName peerUid).association key =
   { manager.association key with
     reconnectCount:=count
     countsAsReconnect:=counts }:=by
 by_cases heq:key=candidate
 · subst heq
   exact ⟨_,_,Function.update_self _ _ _⟩
 · exact ⟨_,_,Function.update_of_ne heq _ _⟩

lemma associationClosed_known :
  (manager.associationClosed key).knownIncarnations=manager.knownIncarnations ∧
  (manager.associationClosed key).knownGeneration=manager.knownGeneration ∧
  (manager.associationClosed key).association=manager.association ∧
  (manager.associationClosed key).nextAssociationGeneration =
   manager.nextAssociationGeneration ∧
  (manager.associationClosed key).associations=manager.associations.erase key ∧
  (manager.associationClosed key).state=manager.state ∧
  (manager.associationClosed key).incarnationUid=manager.incarnationUid:=by
 unfold associationClosed
 dsimp only
 split
 · exact ⟨rfl,rfl,rfl,rfl,rfl,rfl,rfl⟩
 · split_ifs <;> exact ⟨rfl,rfl,rfl,rfl,rfl,rfl,rfl⟩

lemma associationClosed_active {manager:Manager K} {key:K} {name:String} {other:K}
  (h:(manager.associationClosed key).active name=some other):
  manager.active name=some other:=by
 unfold associationClosed at h
 dsimp only at h
 split at h
 · exact h
 · split_ifs at h
   · dsimp only at h
     rw [Function.update_apply] at h
     split_ifs at h
     exact h
   · exact h

lemma associationClosed_active_of_ne {manager:Manager K} {key:K} {name:String} {other:K}
  (h:manager.active name=some other) (hne:other≠key):
  (manager.associationClosed key).active name=some other:=by
 unfold associationClosed
 dsimp only
 split
 · exact h
 · rename_i peerName _
   split_ifs with hactive
   · dsimp only
     rw [Function.update_apply,if_neg]
     · exact h
     · rintro rfl
       exact hne (Option.some.inj (h.symm.trans hactive))
   · exact h

end Manager

end

end Movie.AssociationManager
