import Movie.AssociationManager
import Movie.Reachability

/-!
# The known incarnation of a peer is the latest one

One runtime with everything that threads, peers and users can do to its registry. A `tell` looks its
association up, checks it and hands its record over in three steps.
-/
namespace Movie.IncarnationFreshness

open Function AssociationManager DurableModel Reachability WireFrames

structure Call where
 reference:RemoteActorRef
 key:ℕ
 checked:Bool
 deriving DecidableEq

/-- A runtime, the associations that have tried to become active and those that have been
 activated, its calls under way and the records it has admitted. -/
structure Runtime where
 manager:Manager ℕ
 tried:List ℕ
 activated:List ℕ
 calls:List Call
 admitted:List (RemoteActorRef×ℕ)

inductive RuntimeEvent where
 | register (associationUid:UUID) (initiator:Bool) (expectedSystemName:Option String)
  (capacity:Bool)
 | greet (key:ℕ) (peerName:String) (peerUid:UUID)
 | activate (key:ℕ)
 | becomeActive (key:ℕ)
 | requestClose (key:ℕ) (reason:ReasonCode) (detail:String)
 | setCloseReason (key:ℕ) (reason:Option ReasonCode) (detail:String)
 | markClosed (key:ℕ)
 | associationClosed (key:ℕ)
 | transition (state:RuntimeState) (listenerFailure:Option String)
 | lookup (reference:RemoteActorRef)
 | require (call:Call)
 | handOver (call:Call)
 | drop (call:Call)

namespace Runtime

def association (s:Runtime) (key:ℕ):Association:=s.manager.association key

def change (s:Runtime) (key:ℕ) (f:Association → Association):Runtime:=
 { s with manager:=s.manager.update key f }

/-- Calls are told apart by their place in the list of calls under way. -/
def step (s:Runtime):RuntimeEvent → Option Runtime
 | .register associationUid initiator expectedSystemName capacity=>
  some { s with
   manager:=s.manager.registerAndStart s.manager.nextAssociationGeneration
    (.create associationUid initiator expectedSystemName) capacity }
 | .greet key peerName peerUid=>
  if key∈s.manager.associations ∧ (s.association key).peerSystemName=none then
   some (s.change key (·.greet peerName peerUid))
  else none
 | .activate key=>
  if key∈s.manager.associations ∧ key∉s.tried then
   match s.manager.activateAssociation key with
   | none=>none
   | some (.refused,manager)=>some { s with manager:=manager,tried:=key::s.tried }
   | some (.accepted _,manager)=>some { s with
    manager:=manager
    tried:=key::s.tried
    activated:=key::s.activated }
  else none
 | .becomeActive key=>some (s.change key (·.becomeActive))
 | .requestClose key reason detail=>some (s.change key (·.requestClose reason detail))
 | .setCloseReason key reason detail=>some (s.change key (·.setCloseReason reason detail))
 | .markClosed key=>some (s.change key (·.markClosed))
 | .associationClosed key=>some { s with manager:=s.manager.associationClosed key }
 | .transition state listenerFailure=>
  some { s with
   manager:={ s.manager with state:=state,listenerFailure:=listenerFailure } }
 | .lookup reference=>
  match s.manager.associationForReference reference with
  | .error _=>none
  | .ok key=>some { s with calls:=⟨reference,key,false⟩::s.calls }
 | .require call=>
  if call∈s.calls ∧
   s.manager.requireActive call.key call.reference.systemIncarnationUid=.ok () then
   some { s with calls:={ call with checked:=true }::s.calls.erase call }
  else none
 | .handOver call=>
  match (s.association call.key).peerSystemName with
  | none=>none
  | some peerName=>
   if call∈s.calls ∧ call.checked=true ∧
    s.manager.sendIfCurrent call.key peerName call.reference.systemIncarnationUid =
     .ok () then
    some { s with
     calls:=s.calls.erase call
     admitted:=s.admitted++[(call.reference,call.key)] }
   else none
 | .drop call=>some { s with calls:=s.calls.erase call }

end Runtime

def Runtime.create (incarnationUid:UUID):Runtime where
 manager:=.create incarnationUid
 tried:=[]
 activated:=[]
 calls:=[]
 admitted:=[]

def runtimeSystem (incarnationUid:UUID):System Runtime RuntimeEvent where
 init s:=s=Runtime.create incarnationUid
 step s event t:=s.step event=some t

variable {name:String} {key:ℕ}

section

def SameIdentity (before after:Association):Prop:=
 after.peerSystemName=before.peerSystemName ∧
 after.peerIncarnationUid=before.peerIncarnationUid ∧
 after.registrationOrder=before.registrationOrder

lemma requestClose_identity (association:Association) (reason:ReasonCode)
  (detail:String):SameIdentity association (association.requestClose reason detail):=by
 unfold Association.requestClose
 split_ifs <;> exact ⟨rfl,rfl,rfl⟩

lemma setCloseReason_identity (association:Association) (reason:Option ReasonCode)
  (detail:String):SameIdentity association (association.setCloseReason reason detail):=by
 unfold Association.setCloseReason
 dsimp only
 split_ifs <;> exact ⟨rfl,rfl,rfl⟩

lemma becomeActive_identity (association:Association):
  SameIdentity association association.becomeActive:=by
 unfold Association.becomeActive
 split_ifs <;> exact ⟨rfl,rfl,rfl⟩

lemma markClosed_identity (association:Association):
  SameIdentity association association.markClosed:=
 ⟨rfl,rfl,rfl⟩

variable {s t:Runtime} {incarnationUid:UUID}

def Named (s:Runtime) (name:String) (key:ℕ):Prop:=
 (s.association key).peerSystemName=some name

structure Latest (s:Runtime) (name:String) (key:ℕ):Prop where
 mem:key∈s.activated
 named:Named s name key
 incarnation:s.manager.knownIncarnations name=(s.association key).peerIncarnationUid
 generation:s.manager.knownGeneration name=some (s.association key).registrationOrder
 greatest:∀other∈s.activated,Named s name other →
  (s.association other).registrationOrder≤(s.association key).registrationOrder

structure CallOk (s:Runtime) (call:Call):Prop where
 named:Named s call.reference.systemName call.key
 checked:call.checked=true →
  (s.association call.key).peerIncarnationUid=some call.reference.systemIncarnationUid

structure Fresh (s:Runtime):Prop where
 greeted:∀name key,Named s name key → key<s.manager.nextAssociationGeneration ∧
  (s.association key).registrationOrder=key ∧
  ∃peerUid,(s.association key).peerIncarnationUid=some peerUid
 registered:∀key∈s.manager.associations,(s.association key).registrationOrder=key ∧
  key<s.manager.nextAssociationGeneration
 active:∀name key,s.manager.active name=some key → key∈s.activated ∧ Named s name key
 activated:∀key∈s.activated,∃name,Named s name key
 known:∀name,s.manager.knownIncarnations name≠none ∨ s.manager.knownGeneration name≠none →
  ∃key,Latest s name key
 latest:∀name,∀key∈s.activated,Named s name key → ∃latest,Latest s name latest
 calls:∀call∈s.calls,CallOk s call

structure Kept (s t:Runtime):Prop where
 identity:∀name key,Named s name key → SameIdentity (s.association key) (t.association key)
 named:∀name,∀key∈s.activated,Named t name key → Named s name key

variable {f:Association → Association} {event:RuntimeEvent}

lemma Kept.named_iff (h:Kept s t) (hmem:key∈s.activated):Named t name key ↔ Named s name key:=
 ⟨h.named name key hmem,fun hname=>(h.identity name key hname).1.trans hname⟩

lemma Kept.of_identity (h:∀key,SameIdentity (s.association key) (t.association key)):
  Kept s t:=
 ⟨fun _ key _=>h key,fun _ key _ hname=>(h key).1.symm.trans hname⟩

/-- Nothing was activated. -/
structure Undisturbed (s t:Runtime):Prop where
 activated:t.activated=s.activated
 known:t.manager.knownIncarnations=s.manager.knownIncarnations
 generation:t.manager.knownGeneration=s.manager.knownGeneration
 active:∀name key,t.manager.active name=some key → s.manager.active name=some key

lemma Undisturbed.of_manager (hactivated:t.activated=s.activated) (hmanager:t.manager=s.manager):
  Undisturbed s t:=by
 refine ⟨hactivated,?_,?_,fun name key hactive=>?_⟩
 · rw [hmanager]
 · rw [hmanager]
 · rwa [hmanager] at hactive

lemma Latest.congr (h:Latest s name key) (hkept:Kept s t) (hsame:Undisturbed s t):
  Latest t name key:=by
 obtain ⟨hname,hpeer,horder⟩:=hkept.identity name key h.named
 refine ⟨hsame.activated▸h.mem,hname.trans h.named,?_,?_,fun other hmem hother=>?_⟩
 · rw [hsame.known,hpeer]
   exact h.incarnation
 · rw [hsame.generation,horder]
   exact h.generation
 · rw [hsame.activated] at hmem
   have hbefore:=hkept.named name other hmem hother
   rw [horder,(hkept.identity name other hbefore).2.2]
   exact h.greatest other hmem hbefore

lemma CallOk.congr {call:Call} (h:CallOk s call) (hkept:Kept s t):CallOk t call:=by
 obtain ⟨hname,hpeer,-⟩:=hkept.identity _ _ h.named
 exact ⟨hname.trans h.named,fun hchecked=>hpeer.trans (h.checked hchecked)⟩

lemma Fresh.frame (h:Fresh s) (hkept:Kept s t)
  (hgreeted:∀name key,Named t name key → Named s name key ∨
   (key<t.manager.nextAssociationGeneration ∧ (t.association key).registrationOrder=key ∧
    ∃peerUid,(t.association key).peerIncarnationUid=some peerUid))
  (hregistered:∀key∈t.manager.associations,(t.association key).registrationOrder=key ∧
   key<t.manager.nextAssociationGeneration)
  (hnext:s.manager.nextAssociationGeneration≤t.manager.nextAssociationGeneration)
  (hsame:Undisturbed s t) (hcalls:∀call∈t.calls,CallOk t call):Fresh t:=by
 refine ⟨fun name key hname=>?_,hregistered,fun name key hmem=>?_,fun key hmem=>?_,
  fun name hne=>?_,fun name key hmem hname=>?_,hcalls⟩
 · rcases hgreeted name key hname with hbefore|hnew
   · obtain ⟨-,hpeer,horder⟩:=hkept.identity name key hbefore
     obtain ⟨hlt,hkey,hpeerUid⟩:=h.greeted name key hbefore
     rw [hpeer,horder]
     exact ⟨hlt.trans_le hnext,hkey,hpeerUid⟩
   · exact hnew
 · obtain ⟨hmem',hname⟩:=h.active name key (hsame.active name key hmem)
   exact ⟨hsame.activated▸hmem',(hkept.named_iff hmem').mpr hname⟩
 · rw [hsame.activated] at hmem
   obtain ⟨name,hname⟩:=h.activated key hmem
   exact ⟨name,(hkept.named_iff hmem).mpr hname⟩
 · rw [hsame.known,hsame.generation] at hne
   obtain ⟨key,hlatest⟩:=h.known name hne
   exact ⟨key,hlatest.congr hkept hsame⟩
 · rw [hsame.activated] at hmem
   obtain ⟨latest,hlatest⟩:=h.latest name key hmem (hkept.named name key hmem hname)
   exact ⟨latest,hlatest.congr hkept hsame⟩

lemma Fresh.same (h:Fresh s) (hidentity:∀key,SameIdentity (s.association key) (t.association key))
  (hassociations:∀key∈t.manager.associations,key∈s.manager.associations)
  (hnext:t.manager.nextAssociationGeneration=s.manager.nextAssociationGeneration)
  (hsame:Undisturbed s t) (hcalls:∀call∈t.calls,CallOk t call):Fresh t:=by
 refine h.frame (.of_identity hidentity) (fun name key hname=>.inl ?_) (fun key hmem=>?_)
  hnext.ge hsame hcalls
 · exact (hidentity key).1.symm.trans hname
 · rw [hnext,(hidentity key).2.2]
   exact h.registered key (hassociations key hmem)

lemma change_association (s:Runtime) (key other:ℕ) (f:Association → Association):
  (s.change key f).association other =
   if other=key then f (s.association key) else s.association other:=by
 change update s.manager.association key (f (s.manager.association key)) other=_
 rw [update_apply]
 rfl

lemma change_identity (hf:∀a,SameIdentity a (f a)) (s:Runtime) (key other:ℕ):
  SameIdentity (s.association other) ((s.change key f).association other):=by
 rw [change_association]
 split_ifs with heq
 · rw [heq]
   exact hf _
 · exact ⟨rfl,rfl,rfl⟩

lemma Fresh.change (h:Fresh s) (hf:∀a,SameIdentity a (f a)) (key:ℕ):Fresh (s.change key f):=
 h.same (change_identity hf s key) (fun _ hmem=>hmem) rfl ⟨rfl,rfl,rfl,fun _ _=>id⟩
  fun call hcall=>(h.calls call hcall).congr (.of_identity (change_identity hf s key))

lemma Fresh.greet (h:Fresh s) (hregistered:key∈s.manager.associations)
  (hnone:(s.association key).peerSystemName=none) (peerName:String) (peerUid:UUID):
  Fresh (s.change key (·.greet peerName peerUid)):=by
 have hother (name:String) {other:ℕ} (hname:Named s name other):other≠key:=by
  rintro rfl
  rw [Named,hnone] at hname
  cases hname
 have hassociation {other:ℕ} (hne:other≠key):
  (s.change key (·.greet peerName peerUid)).association other=s.association other:=by
  rw [change_association,if_neg hne]
 have hkept:Kept s (s.change key (·.greet peerName peerUid)):=by
  refine ⟨fun name other hname=>?_,fun name other hmem hname=>?_⟩
  · rw [hassociation (hother name hname)]
    exact ⟨rfl,rfl,rfl⟩
  · obtain ⟨name',hname'⟩:=h.activated other hmem
    rw [Named,hassociation (hother name' hname')] at hname
    exact hname
 have horder (other:ℕ):
  ((s.change key (·.greet peerName peerUid)).association other).registrationOrder =
   (s.association other).registrationOrder:=by
  rw [change_association]
  split_ifs with heq
  · rw [heq]
    rfl
  · rfl
 refine h.frame hkept (fun name other hname=>?_) (fun other hmem=>?_) le_rfl
  ⟨rfl,rfl,rfl,fun _ _=>id⟩ fun call hcall=>(h.calls call hcall).congr hkept
 · by_cases heq:other=key
   · right
     subst heq
     rw [horder,change_association,if_pos rfl]
     obtain ⟨hkey,hlt⟩:=h.registered other hregistered
     exact ⟨hlt,hkey,peerUid,rfl⟩
   · left
     rw [Named,hassociation heq] at hname
     exact hname
 · rw [horder]
   exact h.registered other hmem

lemma Fresh.register (h:Fresh s) (association:Association)
  (hnone:association.peerSystemName=none) (capacity:Bool):Fresh { s with
   manager:=s.manager.registerAndStart s.manager.nextAssociationGeneration association
    capacity }:=by
 unfold Manager.registerAndStart
 split_ifs with hcapacity
 swap
 · exact h
 set next:=s.manager.nextAssociationGeneration with hnext
 set t:Runtime:={ s with manager:={ s.manager with
  associations:=next::s.manager.associations
  association:=update s.manager.association next
   { association with registrationOrder:=next }
  nextAssociationGeneration:=next+1 } } with ht
 have hassociation {other:ℕ} (hne:other≠next):t.association other=s.association other:=
  update_of_ne hne _ _
 have hfresh:t.association next={ association with registrationOrder:=next }:=
  update_self _ _ _
 have hold (name:String) {other:ℕ} (hname:Named s name other):other≠next:=
  (h.greeted name other hname).1.ne
 have hback (name:String) {other:ℕ} (hname:Named t name other):Named s name other:=by
  by_cases heq:other=next
  · rw [Named,heq,hfresh,hnone] at hname
    cases hname
  · rw [Named,hassociation heq] at hname
    exact hname
 have hkept:Kept s t:=by
  refine ⟨fun name other hname=>?_,fun name other _ hname=>hback name hname⟩
  rw [hassociation (hold name hname)]
  exact ⟨rfl,rfl,rfl⟩
 refine h.frame hkept (fun name other hname=>.inl (hback name hname)) (fun other hmem=>?_)
  (Nat.le_succ _) ⟨rfl,rfl,rfl,fun _ _=>id⟩ fun call hcall=>(h.calls call hcall).congr hkept
 rcases List.mem_cons.mp hmem with rfl|hmem
 · rw [hfresh]
   exact ⟨rfl,Nat.lt_succ_self _⟩
 · obtain ⟨horder,hlt⟩:=h.registered other hmem
   rw [hassociation hlt.ne]
   exact ⟨horder,hlt.trans (Nat.lt_succ_self _)⟩

def installed (s:Runtime) (key:ℕ) (name:String) (peerUid:UUID):Runtime:=
 { s with
   manager:=s.manager.install key name peerUid
   tried:=key::s.tried
   activated:=key::s.activated }

lemma installed_identity (s:Runtime) (key:ℕ) (name:String) (peerUid:UUID) (other:ℕ):
  SameIdentity (s.association other) ((installed s key name peerUid).association other):=by
 obtain ⟨_,_,heq⟩:=s.manager.install_association other key name peerUid
 rw [Runtime.association,Runtime.association,installed,heq]
 exact ⟨rfl,rfl,rfl⟩

section

variable (h:Fresh s) {peerUid:UUID} {replaced:Option ℕ} (hname:Named s name key)
 (hpeer:(s.association key).peerIncarnationUid=some peerUid)
 (hactivation:s.manager.activation key name peerUid=.accepted replaced)
include h hname hpeer hactivation

lemma Fresh.latest_installed : ∃latest,Latest (installed s key name peerUid) name latest:=by
 obtain ⟨-,-,hgeneration,-⟩:=Manager.activation_eq_accepted hactivation
 have hidentity:=installed_identity s key name peerUid
 set t:=installed s key name peerUid with ht
 have hnamed (other:ℕ):Named t name other ↔ Named s name other:=by
  unfold Named
  rw [(hidentity other).1]
 have hknown:t.manager.knownIncarnations name=some peerUid:=update_self _ _ _
 have hknownGeneration:t.manager.knownGeneration name =
  some (if s.manager.knownIncarnations name=some peerUid then
   max ((s.manager.knownGeneration name).getD 0) (s.association key).registrationOrder
   else (s.association key).registrationOrder):=update_self _ _ _
 by_cases hnew:∀other∈s.activated,Named s name other →
  (s.association other).registrationOrder≤(s.association key).registrationOrder
 · -- the candidate is the latest one
   refine ⟨key,List.mem_cons_self,(hnamed key).mpr hname,?_,?_,fun other hmem hother=>?_⟩
   · rw [hknown,(hidentity key).2.1,hpeer]
   · rw [hknownGeneration,(hidentity key).2.2]
     split_ifs with hsame
     · obtain ⟨latest,hlatest⟩:=h.known name (.inl (by rw [hsame]; exact Option.some_ne_none _))
       rw [hlatest.generation,Option.getD_some,
        max_eq_right (hnew latest hlatest.mem hlatest.named)]
     · rfl
   · rw [(hidentity other).2.2,(hidentity key).2.2]
     rcases List.mem_cons.mp hmem with rfl|hmem
     · exact le_rfl
     · exact hnew other hmem ((hnamed other).mp hother)
 · -- a later one of the same incarnation was activated before
   push Not at hnew
   obtain ⟨other,hmem,hother,hlt⟩:=hnew
   obtain ⟨latest,hlatest⟩:=h.latest name other hmem hother
   have hle:=hlt.le.trans (hlatest.greatest other hmem hother)
   obtain ⟨-,-,latestUid,hlatestUid⟩:=h.greeted name latest hlatest.named
   have hsame:s.manager.knownIncarnations name=some peerUid:=by
    by_contra hne
    have hsome:s.manager.knownIncarnations name≠none:=by
     rw [hlatest.incarnation,hlatestUid]
     exact Option.some_ne_none _
    have hbound:=hgeneration ⟨hsome,hne⟩
    rw [hlatest.generation,Option.getD_some] at hbound
    exact absurd (hlatest.greatest other hmem hother) (Nat.not_le.mpr (hbound.trans_lt hlt))
   refine ⟨latest,List.mem_cons_of_mem _ hlatest.mem,(hnamed latest).mpr hlatest.named,?_,?_,
    fun third hmem hthird=>?_⟩
   · rw [hknown,(hidentity latest).2.1,←hlatest.incarnation,hsame]
   · rw [hknownGeneration,if_pos hsame,hlatest.generation,Option.getD_some,max_eq_left hle,
      (hidentity latest).2.2]
   · rw [(hidentity third).2.2,(hidentity latest).2.2]
     rcases List.mem_cons.mp hmem with rfl|hmem
     · exact hle
     · exact hlatest.greatest third hmem ((hnamed third).mp hthird)

lemma Fresh.install : Fresh (installed s key name peerUid):=by
 have hlatest:=h.latest_installed hname hpeer hactivation
 have hidentity:=installed_identity s key name peerUid
 set t:=installed s key name peerUid with ht
 have hnamed (other:String) (third:ℕ):Named t other third ↔ Named s other third:=by
  unfold Named
  rw [(hidentity third).1]
 have hothers {other:String} (hne:other≠name) {latest:ℕ} (hbefore:Latest s other latest):
  Latest t other latest:=by
  refine ⟨List.mem_cons_of_mem _ hbefore.mem,(hnamed other latest).mpr hbefore.named,?_,?_,
   fun third hmem hthird=>?_⟩
  · rw [(hidentity latest).2.1,←hbefore.incarnation]
    exact update_of_ne hne _ _
  · rw [(hidentity latest).2.2,←hbefore.generation]
    exact update_of_ne hne _ _
  · rw [(hidentity third).2.2,(hidentity latest).2.2]
    have hthird':=(hnamed other third).mp hthird
    rcases List.mem_cons.mp hmem with rfl|hmem
    · exact absurd (Option.some.inj (hthird'.symm.trans hname)) hne
    · exact hbefore.greatest third hmem hthird'
 refine ⟨fun other third hthird=>?_,fun third hmem=>?_,fun other third hactive=>?_,
  fun third hmem=>?_,fun other hne=>?_,fun other third hmem hthird=>?_,
  fun call hcall=>(h.calls call hcall).congr (.of_identity hidentity)⟩
 · rw [(hidentity third).2.2,(hidentity third).2.1]
   exact h.greeted other third ((hnamed other third).mp hthird)
 · rw [(hidentity third).2.2]
   exact h.registered third hmem
 · rw [hnamed]
   by_cases heq:other=name
   · subst heq
     have hcandidate:t.manager.active other=some key:=update_self _ _ _
     cases hcandidate.symm.trans hactive
     exact ⟨List.mem_cons_self,hname⟩
   · have hbefore:s.manager.active other=some third:=
      (update_of_ne heq _ _).symm.trans hactive
     obtain ⟨hmem,hthird⟩:=h.active other third hbefore
     exact ⟨List.mem_cons_of_mem _ hmem,hthird⟩
 · rcases List.mem_cons.mp hmem with rfl|hmem
   · exact ⟨name,(hnamed name third).mpr hname⟩
   · obtain ⟨other,hother⟩:=h.activated third hmem
     exact ⟨other,(hnamed other third).mpr hother⟩
 · by_cases heq:other=name
   · rw [heq]
     exact hlatest
   · have hknown:t.manager.knownIncarnations other=s.manager.knownIncarnations other:=
      update_of_ne heq _ _
     have hgeneration:t.manager.knownGeneration other=s.manager.knownGeneration other:=
      update_of_ne heq _ _
     rw [hknown,hgeneration] at hne
     obtain ⟨latest,hlatest⟩:=h.known other hne
     exact ⟨latest,hothers heq hlatest⟩
 · by_cases heq:other=name
   · rw [heq]
     exact hlatest
   · have hthird':=(hnamed other third).mp hthird
     rcases List.mem_cons.mp hmem with rfl|hmem
     · exact absurd (Option.some.inj (hthird'.symm.trans hname)) heq
     · obtain ⟨latest,hlatest⟩:=h.latest other third hmem hthird'
       exact ⟨latest,hothers heq hlatest⟩

end

lemma Fresh.associationClosed (h:Fresh s) (key:ℕ):
  Fresh { s with manager:=s.manager.associationClosed key }:=by
 obtain ⟨hknown,hgeneration,hassociation,hnext,hassociations,-⟩:=
  s.manager.associationClosed_known key
 have hidentity (other:ℕ):SameIdentity (s.association other)
  ((s.manager.associationClosed key).association other):=by
  rw [hassociation]
  exact ⟨rfl,rfl,rfl⟩
 refine h.same hidentity (fun other hmem=>?_) hnext
  ⟨rfl,hknown,hgeneration,fun _ _=>Manager.associationClosed_active⟩ fun call hcall=>(h.calls call hcall).congr (.of_identity hidentity)
 dsimp only at hmem
 rw [hassociations] at hmem
 exact List.mem_of_mem_erase hmem

lemma Fresh.withCalls (h:Fresh s) {calls:List Call} {admitted:List (RemoteActorRef×ℕ)}
  (hcalls:∀call∈calls,CallOk s call):Fresh { s with calls:=calls,admitted:=admitted }:=
 h.same (fun _=>⟨rfl,rfl,rfl⟩) (fun _ hmem=>hmem) rfl ⟨rfl,rfl,rfl,fun _ _=>id⟩
  fun call hcall=>(hcalls call hcall).congr (.of_identity fun _=>⟨rfl,rfl,rfl⟩)

lemma activate_cases (h:s.step (.activate key)=some t):
  (t.manager=s.manager ∧ t.activated=s.activated ∧ t.calls=s.calls ∧
   t.admitted=s.admitted) ∨ ∃name peerUid replaced,Named s name key ∧
   (s.association key).peerIncarnationUid=some peerUid ∧
   s.manager.activation key name peerUid=.accepted replaced ∧
   t=installed s key name peerUid:=by
 rw [Runtime.step] at h
 split_ifs at h with hcandidate
 cases hactivate:s.manager.activateAssociation key with
 | none=>
  rw [hactivate] at h
  cases h
 | some result=>
  rw [hactivate] at h
  obtain ⟨name,peerUid,hname,hpeer,⟨-,rfl⟩|⟨replaced,haccepted,rfl⟩⟩:=
   Manager.activateAssociation_cases hactivate
  · cases h
    exact .inl ⟨rfl,rfl,rfl,rfl⟩
  · cases h
    exact .inr ⟨name,peerUid,replaced,hname,hpeer,haccepted,rfl⟩

inductive Registry (s t:Runtime):Prop where
 | kept (same:Undisturbed s t)
 | install (key:ℕ) (name:String) (peerUid:UUID) (replaced:Option ℕ)
  (named:Named s name key)
  (peer:(s.association key).peerIncarnationUid=some peerUid)
  (accepted:s.manager.activation key name peerUid=.accepted replaced)
  (eq:t=installed s key name peerUid)

lemma fresh_step (h:Fresh s) (hstep:s.step event=some t):
  Fresh t ∧ Registry s t:=by
 cases event with
 | register associationUid initiator expectedSystemName capacity=>
  cases hstep
  refine ⟨h.register _ rfl capacity,?_⟩
  unfold Manager.registerAndStart
  split_ifs <;> exact .kept ⟨rfl,rfl,rfl,fun _ _=>id⟩
 | greet key peerName peerUid=>
  rw [Runtime.step] at hstep
  split_ifs at hstep with hgreet
  cases hstep
  exact ⟨h.greet hgreet.1 hgreet.2 peerName peerUid,
   .kept ⟨rfl,rfl,rfl,fun _ _=>id⟩⟩
 | activate key=>
  rcases activate_cases hstep with ⟨hmanager,hactivated,hcalls,-⟩ |
   ⟨name,peerUid,replaced,hname,hpeer,haccepted,rfl⟩
  · have hidentity (other:ℕ):SameIdentity (s.association other) (t.association other):=by
     rw [Runtime.association,Runtime.association,hmanager]
     exact ⟨rfl,rfl,rfl⟩
    have hsame:Undisturbed s t:=.of_manager hactivated hmanager
    refine ⟨h.same hidentity ?_ ?_ hsame fun call hcall=>?_,.kept hsame⟩
    · rw [hmanager]
      exact fun _ hmem=>hmem
    · rw [hmanager]
    · rw [hcalls] at hcall
      exact (h.calls call hcall).congr (.of_identity hidentity)
  · exact ⟨h.install hname hpeer haccepted,
     .install key name peerUid replaced hname hpeer haccepted rfl⟩
 | becomeActive key=>
  cases hstep
  exact ⟨h.change becomeActive_identity key,.kept ⟨rfl,rfl,rfl,fun _ _=>id⟩⟩
 | requestClose key reason detail=>
  cases hstep
  exact ⟨h.change (fun a=>requestClose_identity a reason detail) key,
   .kept ⟨rfl,rfl,rfl,fun _ _=>id⟩⟩
 | setCloseReason key reason detail=>
  cases hstep
  exact ⟨h.change (fun a=>setCloseReason_identity a reason detail) key,
   .kept ⟨rfl,rfl,rfl,fun _ _=>id⟩⟩
 | markClosed key=>
  cases hstep
  exact ⟨h.change markClosed_identity key,.kept ⟨rfl,rfl,rfl,fun _ _=>id⟩⟩
 | associationClosed key=>
  cases hstep
  obtain ⟨hknown,hgeneration,-⟩:=s.manager.associationClosed_known key
  exact ⟨h.associationClosed key,
   .kept ⟨rfl,hknown,hgeneration,fun _ _=>Manager.associationClosed_active⟩⟩
 | transition state listenerFailure=>
  cases hstep
  exact ⟨h.same (fun _=>⟨rfl,rfl,rfl⟩) (fun _ hmem=>hmem) rfl ⟨rfl,rfl,rfl,fun _ _=>id⟩
   fun call hcall=>(h.calls call hcall).congr (.of_identity fun _=>⟨rfl,rfl,rfl⟩),
   .kept ⟨rfl,rfl,rfl,fun _ _=>id⟩⟩
 | lookup reference=>
  rw [Runtime.step] at hstep
  cases hfound:s.manager.associationForReference reference with
  | error error=>
   rw [hfound] at hstep
   cases hstep
  | ok key=>
   rw [hfound] at hstep
   cases hstep
   obtain ⟨-,hname⟩:=h.active _ _ (Manager.associationForReference_eq_ok hfound)
   refine ⟨h.withCalls fun call hcall=>?_,.kept (.of_manager rfl rfl)⟩
   rcases List.mem_cons.mp hcall with rfl|hcall
   · exact ⟨hname,nofun⟩
   · exact h.calls call hcall
 | require call=>
  rw [Runtime.step] at hstep
  split_ifs at hstep with hrequire
  cases hstep
  refine ⟨h.withCalls fun other hother=>?_,.kept (.of_manager rfl rfl)⟩
  rcases List.mem_cons.mp hother with rfl|hother
  · exact ⟨(h.calls call hrequire.1).named,
     fun _=>Manager.requireActive_eq_ok hrequire.2⟩
  · exact h.calls other (List.mem_of_mem_erase hother)
 | handOver call=>
  rw [Runtime.step] at hstep
  split at hstep
  · cases hstep
  · split_ifs at hstep
    cases hstep
    exact ⟨h.withCalls fun other hother=>h.calls other (List.mem_of_mem_erase hother),
     .kept (.of_manager rfl rfl)⟩
 | drop call=>
  cases hstep
  exact ⟨h.withCalls fun other hother=>h.calls other (List.mem_of_mem_erase hother),
   .kept (.of_manager rfl rfl)⟩

lemma reachable_fresh (h:(runtimeSystem incarnationUid).Reachable s):Fresh s:=by
 refine h.invariant (I := Fresh) (fun s hinit=>?_) fun s event t _ hs hstep=>
  (fresh_step hs hstep).1
 subst hinit
 refine ⟨fun name key hname=>?_,fun key hmem=>?_,fun name key hactive=>?_,
  fun key hmem=>?_,fun name hne=>?_,fun name key hmem=>?_,fun call hcall=>?_⟩
 · cases hname
 · cases hmem
 · cases hactive
 · cases hmem
 · rcases hne with hne|hne <;> exact absurd rfl hne
 · cases hmem
 · cases hcall

lemma Latest.unique (h:Fresh s) {first second:ℕ}
  (hfirst:Latest s name first) (hsecond:Latest s name second):first=second:=by
 have hle:=hfirst.greatest second hsecond.mem hsecond.named
 have hge:=hsecond.greatest first hfirst.mem hfirst.named
 rw [(h.greeted name first hfirst.named).2.1,(h.greeted name second hsecond.named).2.1] at hle hge
 exact Nat.le_antisymm hge hle

def NotOlder (s t:Runtime):Prop:=
 ∀name generation,s.manager.knownGeneration name=some generation →
  ∃later,t.manager.knownGeneration name=some later ∧ generation≤later

lemma Registry.notOlder (hregistry:Registry s t) (h:Fresh s):NotOlder s t:=by
 intro name generation hbefore
 cases hregistry with
 | kept hsame=>exact ⟨generation,by rw [hsame.generation,hbefore],le_rfl⟩
 | install key peerName peerUid replaced hname hpeer haccepted heq=>
  subst heq
  by_cases hother:name=peerName
  · subst hother
    refine ⟨_,update_self _ _ _,?_⟩
    obtain ⟨latest,hlatest⟩:=h.known name (.inr (by rw [hbefore]; exact Option.some_ne_none _))
    obtain ⟨-,-,latestUid,hlatestUid⟩:=h.greeted name latest hlatest.named
    obtain ⟨-,-,hgeneration,-⟩:=Manager.activation_eq_accepted haccepted
    rw [hbefore,Option.getD_some] at hgeneration ⊢
    split_ifs with hsame
    · exact le_max_left _ _
    · refine hgeneration ⟨?_,hsame⟩
      rw [hlatest.incarnation,hlatestUid]
      exact Option.some_ne_none _
  · exact ⟨generation,(update_of_ne hother _ _).trans hbefore,le_rfl⟩

lemma Registry.replaces (hregistry:Registry s t) {current candidate:ℕ}
  (hbefore:s.manager.active name=some current) (hopen:¬(s.association current).Ending)
  (hafter:t.manager.active name=some candidate) (hne:candidate≠current):
  (t.association candidate).peerIncarnationUid=(s.association current).peerIncarnationUid:=by
 cases hregistry with
 | kept hsame=>
  cases hbefore.symm.trans (hsame.active name candidate hafter)
  exact absurd rfl hne
 | install key peerName peerUid replaced hname hpeer haccepted heq=>
  subst heq
  by_cases hother:name=peerName
  · subst hother
    have hinstalled:(installed s key name peerUid).manager.active name=some key:=
     update_self _ _ _
    cases hinstalled.symm.trans hafter
    obtain ⟨-,hreplaced,-,hcurrent⟩:=Manager.activation_eq_accepted haccepted
    rw [Manager.openAssociation_eq_some.mpr ⟨hbefore,hopen⟩] at hreplaced
    obtain ⟨hsame,-⟩:=hcurrent current hreplaced.symm
    rw [(installed_identity s candidate name peerUid candidate).2.1,hpeer]
    exact hsame.symm
  · have hkept:s.manager.active name=some candidate:=
     (update_of_ne hother _ _).symm.trans hafter
    cases hbefore.symm.trans hkept
    exact absurd rfl hne

structure Current (s:Runtime) (reference:RemoteActorRef) (key:ℕ):Prop where
 active:s.manager.active reference.systemName=some key
 known:s.manager.knownIncarnations reference.systemName=some reference.systemIncarnationUid
 meant:(s.association key).peerIncarnationUid=some reference.systemIncarnationUid

lemma admits_current (h:Fresh s) (hstep:s.step event=some t):
  t.admitted=s.admitted ∨ ∃reference key,
   t.admitted=s.admitted++[(reference,key)] ∧ Current s reference key:=by
 cases event with
 | handOver call=>
  rw [Runtime.step] at hstep
  split at hstep
  · cases hstep
  · rename_i peerName hpeerName
    split_ifs at hstep with hsend
    cases hstep
    obtain ⟨hcall,hchecked,hcurrent⟩:=hsend
    obtain ⟨hactive,hknown⟩:=Manager.sendIfCurrent_eq_ok hcurrent
    obtain ⟨hname,hpeer⟩:=h.calls call hcall
    cases Option.some.inj (hname.symm.trans hpeerName)
    exact .inr ⟨call.reference,call.key,rfl,hactive,hknown,hpeer hchecked⟩
 | activate key=>
  rcases activate_cases hstep with ⟨-,-,-,hsame⟩|⟨_,_,_,_,_,_,rfl⟩
  · exact .inl hsame
  · exact .inl rfl
 | _=>
  rw [Runtime.step] at hstep
  first
   | (cases hstep; exact .inl rfl)
   | (split_ifs at hstep; cases hstep; exact .inl rfl)
   | (split at hstep <;> cases hstep; exact .inl rfl)

lemma NotOlder.trans {u:Runtime} (h:NotOlder s t) (h':NotOlder t u):NotOlder s u:=by
 intro name generation hbefore
 obtain ⟨later,hlater,hle⟩:=h name generation hbefore
 obtain ⟨last,hlast,hle'⟩:=h' name later hlater
 exact ⟨last,hlast,hle.trans hle'⟩

lemma runs_notOlder (h:Fresh s) (hrun:(runtimeSystem incarnationUid).Runs s t):
  Fresh t ∧ NotOlder s t:=by
 induction hrun with
 | refl=>exact ⟨h,fun name generation hbefore=>⟨generation,hbefore,le_rfl⟩⟩
 | tail _ hnext ih=>
  obtain ⟨event,hstep⟩:=hnext
  obtain ⟨hfresh,hregistry⟩:=fresh_step ih.1 hstep
  exact ⟨hfresh,ih.2.trans (hregistry.notOlder ih.1)⟩

/-- The runtime knows each peer by its latest activated association, and goes by that. -/
theorem incarnation_freshness (h:(runtimeSystem incarnationUid).Reachable s):
  (∀name,(∃key∈s.activated,Named s name key) → ∃! latest,Latest s name latest) ∧
  (∀t,(runtimeSystem incarnationUid).Runs s t → NotOlder s t) ∧
  ∀event t,s.step event=some t →
   (∀name current candidate,s.manager.active name=some current →
    ¬(s.association current).Ending → t.manager.active name=some candidate →
    candidate≠current →
    (t.association candidate).peerIncarnationUid =
     (s.association current).peerIncarnationUid) ∧
   (t.admitted=s.admitted ∨ ∃reference key,
    t.admitted=s.admitted++[(reference,key)] ∧ Current s reference key):=by
 have hfresh:=reachable_fresh h
 refine ⟨?_,fun t hrun=>?_,fun event t hstep=>⟨?_,?_⟩⟩
 · rintro name ⟨key,hmem,hname⟩
   obtain ⟨latest,hlatest⟩:=hfresh.latest name key hmem hname
   exact ⟨latest,hlatest,fun other hother=>hother.unique hfresh hlatest⟩
 · exact (runs_notOlder hfresh hrun).2
 · intro name current candidate
   exact (fresh_step hfresh hstep).2.replaces
 · exact admits_current hfresh hstep

end

def returned : List RuntimeEvent:=
 [.transition .running none,
  .register (Wire.toUUID 1) true (some "orders") true,
  .greet 1 "orders" (Wire.toUUID 7),
  .activate 1,
  .becomeActive 1,
  .requestClose 1 .normalShutdown "stopped",
  .register (Wire.toUUID 2) false none true,
  .greet 2 "orders" (Wire.toUUID 9),
  .activate 2,
  .becomeActive 2,
  .lookup ⟨"orders",Wire.toUUID 9,Wire.toUUID 3⟩,
  .require ⟨⟨"orders",Wire.toUUID 9,Wire.toUUID 3⟩,2,false⟩,
  .handOver ⟨⟨"orders",Wire.toUUID 9,Wire.toUUID 3⟩,2,true⟩]

theorem incarnation_freshness_returned :
  ∃s,returned.foldlM Runtime.step (.create (Wire.toUUID 4))=some s ∧ s.activated=[2,1] ∧
   s.admitted=[(⟨"orders",Wire.toUUID 9,Wire.toUUID 3⟩,2)] ∧
   ∃! latest,Latest s "orders" latest:=by
 have hsome:(returned.foldlM Runtime.step (.create (Wire.toUUID 4))).isSome:=by
  decide +kernel
 obtain ⟨s,hs⟩:=Option.isSome_iff_exists.mp hsome
 have hfacts:((returned.foldlM Runtime.step (.create (Wire.toUUID 4))).map fun s=>
  (s.activated,s.admitted,(s.association 1).peerSystemName)) =
  some ([2,1],[(⟨"orders",Wire.toUUID 9,Wire.toUUID 3⟩,2)],some "orders"):=by
  decide +kernel
 rw [hs,Option.map_some,Option.some.injEq,Prod.mk.injEq,Prod.mk.injEq] at hfacts
 obtain ⟨hactivated,hadmitted,hname⟩:=hfacts
 have hreachable:(runtimeSystem (Wire.toUUID 4)).Reachable s:=
  System.Reachable.play (fun _ _ _ hstep=>hstep) returned (.start rfl) hs
 refine ⟨s,hs,hactivated,hadmitted,(incarnation_freshness hreachable).1 "orders" ⟨1,?_,hname⟩⟩
 rw [hactivated]
 exact List.mem_cons_of_mem _ List.mem_cons_self

end Movie.IncarnationFreshness
