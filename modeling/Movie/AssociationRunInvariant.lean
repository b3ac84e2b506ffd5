import Movie.AssociationRun

/-!
# What holds of the attempts between two runtimes

Both sides see the rank of an attempt alike, and an association that is activated and does
not close yet is the active one of its runtime, or is about to be replaced.
-/
namespace Movie.AssociationRunInvariant

open AssociationManager AssociationRun DurableModel Reachability WireFrames

def Early : Phase → Prop
 | .absent | .starting | .awaitingHello | .greeted _ | .answering _ | .negotiating _
 | .awaitingAccept _ | .shaken=>True
 | _=>False

def Activated : Phase → Prop
 | .replacing _ | .notifying _ | .activated | .running=>True
 | _=>False

section

variable {T:Side → Type} (pair:Pair T) (attempts:List Attempt)

def rank (attempt:Attempt):ℕ ×ₗ ℕ:=
 toLex ((pair.runtime attempt.initiator).incarnationUid.int,attempt.associationUid.int)

def Greeted (side:Side) (association:Association):Prop:=
 association.peerSystemName=some (pair.peerName side) ∧
 association.peerIncarnationUid=some (pair.peerUid side)

/-- A phase of a registered thread that is not about to replace another attempt. -/
def Plain : Phase → Prop
 | .absent | .replacing _=>False
 | _=>True

variable {phase:Phase}

lemma Plain.ne_absent (h:Plain phase):phase≠.absent:=by
 rintro rfl
 exact h

structure Known (thread:Thread) (association:Association):Prop where
 uid:association.associationUid=thread.attempt.associationUid
 initiator:association.initiator=thread.initiator
 peer:association.peerIncarnationUid=none ∨
  association.peerIncarnationUid=some (pair.peerUid thread.side)

def PhaseOk (thread:Thread) (association:Association):Phase → Prop
 | .greeted peerHello | .answering peerHello | .negotiating peerHello=>
  peerHello=pair.localHello thread.peer ∧ Greeted pair thread.side association
 | .awaitingAccept _ | .shaken | .replacing _ | .notifying _ | .activated | .running=>
  Greeted pair thread.side association
 | .unregistering | .done=>association.state=.closed
 | _=>True

structure Sound (w:World):Prop where
 running:∀side,(w.manager side).state=.running
 incarnation:∀side,(w.manager side).incarnationUid=(pair.runtime side).incarnationUid
 knownPeer:∀side,¬(w.manager side).KnownOther (pair.peerName side) (pair.peerUid side)
 member:∀thread,w.phase thread≠.absent → thread.attempt∈attempts
 registered:∀side,∀attempt∈(w.manager side).associations,
  w.phase ⟨side,attempt⟩≠.absent
 identity:∀thread,w.phase thread≠.absent → Known pair thread (w.association thread)
 phases:∀thread,PhaseOk pair thread (w.association thread) (w.phase thread)
 hellos:∀thread hello,.hello hello∈(w.outbound thread).frames →
  hello=pair.localHello thread
 active:∀side attempt,(w.manager side).active (pair.peerName side)=some attempt →
  Greeted pair side (w.association ⟨side,attempt⟩) ∧ ¬Early (w.phase ⟨side,attempt⟩)
 held:∀thread,Activated (w.phase thread) → ¬(w.association thread).Ending →
  (w.manager thread.side).active (pair.peerName thread.side)=some thread.attempt ∨
   ∃other,w.phase ⟨thread.side,other⟩=.replacing thread.attempt

variable {pair attempts} {w:World} {thread other:Thread} {turn:Turn}

variable {f:Association → Association} {peerHello:Hello}

lemma apply_manager_self : (w.apply thread turn).manager thread.side=turn.manager:=
 Function.update_self _ _ _

lemma apply_manager_of_ne {side:Side} (h:side≠thread.side):
  (w.apply thread turn).manager side=w.manager side:=
 Function.update_of_ne h _ _

lemma apply_association (attempt:Attempt):
  (w.apply thread turn).association ⟨thread.side,attempt⟩ =
   turn.manager.association attempt:=by
 rw [World.association,apply_manager_self]

lemma apply_association_of_ne (h:other.side≠thread.side):
  (w.apply thread turn).association other=w.association other:=by
 rw [World.association,apply_manager_of_ne h]
 rfl

lemma apply_phase_self : (w.apply thread turn).phase thread=turn.phase:=
 Function.update_self _ _ _

lemma apply_phase_of_ne (h:other≠thread):
  (w.apply thread turn).phase other=w.phase other:=
 Function.update_of_ne h _ _

lemma revise_association_self:
  (w.revise thread f phase).manager.association thread.attempt=f (w.association thread):=
 Manager.update_association_self _ _ _

lemma revise_association_of_ne {attempt:Attempt} (h:attempt≠thread.attempt):
  (w.revise thread f phase).manager.association attempt =
   w.association ⟨thread.side,attempt⟩:=
 Manager.update_association_of_ne _ _ h _

structure Same (before after:Association):Prop where
 uid:after.associationUid=before.associationUid
 initiator:after.initiator=before.initiator
 name:after.peerSystemName=before.peerSystemName
 peer:after.peerIncarnationUid=before.peerIncarnationUid
 ending:before.Ending → after.Ending
 closed:before.state=.closed → after.state=.closed

lemma Same.refl (association:Association):Same association association:=
 ⟨rfl,rfl,rfl,rfl,id,id⟩

variable {before after:Association}

lemma Same.greeted {side:Side} (h:Same before after)
  (hgreeted:Greeted pair side before):Greeted pair side after:=
 ⟨h.name.trans hgreeted.1,h.peer.trans hgreeted.2⟩

lemma Same.known (h:Same before after) (hknown:Known pair thread before):Known pair thread after:=
 ⟨h.uid.trans hknown.uid,h.initiator.trans hknown.initiator,
  hknown.peer.imp h.peer.trans h.peer.trans⟩

lemma Same.phaseOk (h:Same before after)
  (hphase:PhaseOk pair thread before phase):PhaseOk pair thread after phase:=by
 cases phase
 case greeted | answering | negotiating=>exact ⟨hphase.1,h.greeted hphase.2⟩
 case awaitingAccept | shaken | replacing | notifying | activated | running=>
  exact h.greeted hphase
 case unregistering | done=>exact h.closed hphase
 all_goals trivial

def Greets (pair:Pair T) (w:World) (turn:Turn):Prop:=
 ∀other hello,.hello hello∈(turn.outbound other).frames →
  .hello hello∈(w.outbound other).frames ∨ hello=pair.localHello other

variable (h:Sound pair attempts w) (hmem:thread.attempt∈attempts)

section

variable (hregistered:∀attempt∈turn.manager.associations,
  attempt∈(w.manager thread.side).associations ∨ attempt=thread.attempt)
 (habsent:turn.phase≠.absent)
 (hidentity:Known pair thread (turn.manager.association thread.attempt))
 (hphase:PhaseOk pair thread (turn.manager.association thread.attempt) turn.phase)
 (hothers:∀attempt,attempt≠thread.attempt →
  Same (w.association ⟨thread.side,attempt⟩) (turn.manager.association attempt))
 (hhellos:Greets pair w turn)
include h hmem hregistered habsent hidentity hphase hothers hhellos

lemma Sound.apply (hrunning:turn.manager.state=.running)
  (hincarnation:turn.manager.incarnationUid=(pair.runtime thread.side).incarnationUid)
  (hknownPeer:¬turn.manager.KnownOther (pair.peerName thread.side) (pair.peerUid thread.side))
  (hactive:∀attempt,turn.manager.active (pair.peerName thread.side)=some attempt →
   if attempt=thread.attempt then
    Greeted pair thread.side (turn.manager.association attempt) ∧ ¬Early turn.phase
   else (w.manager thread.side).active (pair.peerName thread.side)=some attempt)
  (hheld:∀attempt,Activated ((w.apply thread turn).phase ⟨thread.side,attempt⟩) →
   ¬(turn.manager.association attempt).Ending →
   turn.manager.active (pair.peerName thread.side)=some attempt ∨
    ∃other,(w.apply thread turn).phase ⟨thread.side,other⟩=.replacing attempt):
  Sound pair attempts (w.apply thread turn):=by
 -- every association is that of the thread, another one of its side, or one of the other side
 have hsame (other:Thread) (hne:other≠thread):
  Same (w.association other) ((w.apply thread turn).association other):=by
  by_cases hside:other.side=thread.side
  · obtain ⟨side,attempt⟩:=other
    dsimp only at hside
    subst hside
    rw [apply_association]
    exact hothers attempt fun heq=>hne (congrArg (Thread.mk thread.side) heq)
  · rw [apply_association_of_ne hside]
    exact .refl _
 refine ⟨fun side=>?_,fun side=>?_,fun side=>?_,fun other hphase=>?_,
  fun side attempt hattempt=>?_,fun other hphase=>?_,fun other=>?_,
  fun other hello hhello=>?_,fun side attempt hattempt=>?_,
  fun other hphase hopen=>?_⟩
 · by_cases hside:side=thread.side
   · rw [hside,apply_manager_self]
     exact hrunning
   · rw [apply_manager_of_ne hside]
     exact h.running side
 · by_cases hside:side=thread.side
   · rw [hside,apply_manager_self]
     exact hincarnation
   · rw [apply_manager_of_ne hside]
     exact h.incarnation side
 · by_cases hside:side=thread.side
   · rw [hside,apply_manager_self]
     exact hknownPeer
   · rw [apply_manager_of_ne hside]
     exact h.knownPeer side
 · by_cases heq:other=thread
   · rw [heq]
     exact hmem
   · rw [apply_phase_of_ne heq] at hphase
     exact h.member other hphase
 · by_cases heq:(⟨side,attempt⟩:Thread)=thread
   · rw [heq,apply_phase_self]
     exact habsent
   · rw [apply_phase_of_ne heq]
     by_cases hside:side=thread.side
     · subst hside
       rw [apply_manager_self] at hattempt
       rcases hregistered attempt hattempt with hbefore|rfl
       · exact h.registered _ attempt hbefore
       · exact absurd rfl heq
     · rw [apply_manager_of_ne hside] at hattempt
       exact h.registered side attempt hattempt
 · by_cases heq:other=thread
   · rw [heq,apply_association thread.attempt]
     exact hidentity
   · rw [apply_phase_of_ne heq] at hphase
     exact (hsame other heq).known (h.identity other hphase)
 · by_cases heq:other=thread
   · rw [heq,apply_association thread.attempt,apply_phase_self]
     exact hphase
   · rw [apply_phase_of_ne heq]
     exact (hsame other heq).phaseOk (h.phases other)
 · rcases hhellos other hello hhello with hbefore|hown
   · exact h.hellos other hello hbefore
   · exact hown
 · by_cases hside:side=thread.side
   · subst hside
     rw [apply_manager_self] at hattempt
     have hcase:=hactive attempt hattempt
     split_ifs at hcase with hself
     · have heq:(⟨thread.side,attempt⟩:Thread)=thread:=
        congrArg (Thread.mk thread.side) hself
       rw [apply_association,heq,apply_phase_self]
       exact hcase
     · have hne:(⟨thread.side,attempt⟩:Thread)≠thread:=
        fun heq=>hself (congrArg Thread.attempt heq)
       obtain ⟨hgreeted,hearly⟩:=h.active thread.side attempt hcase
       rw [apply_phase_of_ne hne]
       exact ⟨(hsame _ hne).greeted hgreeted,hearly⟩
   · rw [apply_manager_of_ne hside] at hattempt
     have hne:(⟨side,attempt⟩:Thread)≠thread:=
      fun heq=>hside (congrArg Thread.side heq)
     rw [apply_association_of_ne hside,apply_phase_of_ne hne]
     exact h.active side attempt hattempt
 · obtain ⟨side,attempt⟩:=other
   by_cases hside:side=thread.side
   · subst hside
     rw [apply_association] at hopen
     dsimp only
     rw [apply_manager_self]
     exact hheld attempt hphase hopen
   · have hne (attempt:Attempt):(⟨side,attempt⟩:Thread)≠thread:=
      fun heq=>hside (congrArg Thread.side heq)
     rw [apply_phase_of_ne (hne attempt)] at hphase
     rw [apply_association_of_ne hside] at hopen
     dsimp only
     rw [apply_manager_of_ne hside]
     refine (h.held _ hphase hopen).imp_right fun ⟨replacing,hreplacing⟩=>⟨replacing,?_⟩
     rw [apply_phase_of_ne (hne replacing)]
     exact hreplacing

lemma Sound.frame (hstate:turn.manager.state=(w.manager thread.side).state)
  (hincarnation:turn.manager.incarnationUid=(w.manager thread.side).incarnationUid)
  (hknown:turn.manager.knownIncarnations=(w.manager thread.side).knownIncarnations)
  (hactive:∀attempt,turn.manager.active (pair.peerName thread.side)=some attempt →
   (w.manager thread.side).active (pair.peerName thread.side)=some attempt)
  (hkept:∀attempt,Activated ((w.apply thread turn).phase ⟨thread.side,attempt⟩) →
   (w.manager thread.side).active (pair.peerName thread.side)=some attempt →
   turn.manager.active (pair.peerName thread.side)=some attempt)
  (hgreeted:Greeted pair thread.side (w.association thread) →
   Greeted pair thread.side (turn.manager.association thread.attempt))
  (hearly:Early turn.phase → Early (w.phase thread))
  (hactivated:Activated turn.phase → Activated (w.phase thread))
  (hending:(w.association thread).Ending →
   (turn.manager.association thread.attempt).Ending)
  (hreplacing:∀replaced,w.phase thread=.replacing replaced →
   (turn.manager.association replaced).Ending):Sound pair attempts (w.apply thread turn):=by
 refine h.apply hmem hregistered habsent hidentity hphase hothers hhellos
  (hstate.trans (h.running _)) (hincarnation.trans (h.incarnation _)) ?_
  (fun attempt hattempt=>?_) fun attempt hnow hopen=>?_
 · unfold Manager.KnownOther
   rw [hknown]
   exact h.knownPeer thread.side
 · split_ifs with hself
   · subst hself
     obtain ⟨hbefore,hnot⟩:=h.active thread.side _ (hactive _ hattempt)
     exact ⟨hgreeted hbefore,fun hnow=>hnot (hearly hnow)⟩
   · exact hactive attempt hattempt
 · -- the association was held before, and whoever was to replace it still is
   have hbefore:Activated (w.phase ⟨thread.side,attempt⟩) ∧
    ¬(w.association ⟨thread.side,attempt⟩).Ending:=by
    by_cases hself:attempt=thread.attempt
    · subst hself
      rw [apply_phase_self] at hnow
      exact ⟨hactivated hnow,fun hended=>hopen (hending hended)⟩
    · have hne:(⟨thread.side,attempt⟩:Thread)≠thread:=
       fun heq=>hself (congrArg Thread.attempt heq)
      have hphase:=hnow
      rw [apply_phase_of_ne hne] at hphase
      exact ⟨hphase,fun hended=>hopen ((hothers attempt hself).ending hended)⟩
   rcases h.held _ hbefore.1 hbefore.2 with hheld|⟨replacing,hphase⟩
   · exact .inl (hkept attempt hnow hheld)
   · refine .inr ⟨replacing,?_⟩
     by_cases heq:(⟨thread.side,replacing⟩:Thread)=thread
     · rw [heq] at hphase
       exact absurd (hreplacing attempt hphase) hopen
     · rw [apply_phase_of_ne heq]
       exact hphase

end

lemma update_id (manager:Manager Attempt) (attempt:Attempt):
  manager.update attempt id=manager:=by
 unfold Manager.update
 rw [id_eq,Function.update_eq_self]

lemma greets_same {manager:Manager Attempt}:
  Greets pair w ⟨phase,manager,w.outbound⟩:=fun _ _=>.inl

def Leaving : Phase → Prop
 | .failing _ _ _ | .ending _ _ | .disconnecting | .disconnected=>True
 | _=>False

section

variable {phase:Phase} (hphase:w.phase thread=phase) (hplain:Plain phase)
include h hmem hphase hplain

section

variable (hmanager:turn.manager=(w.manager thread.side).update thread.attempt f)
include hmanager

lemma Sound.revise (habsent:turn.phase≠.absent)
  (hidentity:Known pair thread (f (w.association thread)))
  (hnext:PhaseOk pair thread (f (w.association thread)) turn.phase)
  (hgreeted:Greeted pair thread.side (w.association thread) →
   Greeted pair thread.side (f (w.association thread)))
  (hending:(w.association thread).Ending → (f (w.association thread)).Ending)
  (hearly:Early turn.phase → Early phase) (hactivated:Activated turn.phase → Activated phase)
  (hhellos:Greets pair w turn):Sound pair attempts (w.apply thread turn):=by
 have hown:turn.manager.association thread.attempt=f (w.association thread):=by
  rw [hmanager]
  exact Function.update_self _ _ _
 rw [←hown] at hidentity hnext hgreeted hending
 rw [←hphase] at hplain hearly hactivated
 refine h.frame hmem (fun attempt hattempt=>.inl ?_) habsent hidentity hnext
  (fun attempt hne=>?_) hhellos ?_ ?_ ?_ (fun attempt hattempt=>?_) (fun attempt _ hattempt=>?_)
  hgreeted hearly hactivated hending fun replaced hreplaced=>?_
 · rw [hmanager] at hattempt
   exact hattempt
 · have hsame:turn.manager.association attempt=w.association ⟨thread.side,attempt⟩:=by
    rw [hmanager]
    exact Function.update_of_ne hne _ _
   rw [hsame]
   exact .refl _
 · rw [hmanager]
   rfl
 · rw [hmanager]
   rfl
 · rw [hmanager]
   rfl
 · rw [hmanager] at hattempt
   exact hattempt
 · rw [hmanager]
   exact hattempt
 · rw [hreplaced] at hplain
   exact absurd hplain id

lemma Sound.quiet
  (hsame:Same (w.association thread) (f (w.association thread))) (habsent:turn.phase≠.absent)
  (hnext:PhaseOk pair thread (f (w.association thread)) turn.phase)
  (hearly:Early turn.phase → Early phase) (hactivated:Activated turn.phase → Activated phase)
  (hhellos:Greets pair w turn):Sound pair attempts (w.apply thread turn):=
 h.revise hmem hphase hplain hmanager habsent
  (hsame.known (h.identity thread (hphase▸hplain.ne_absent))) hnext hsame.greeted hsame.ending
  hearly hactivated hhellos

lemma Sound.leave
  (hsame:Same (w.association thread) (f (w.association thread))) (hleaving:Leaving turn.phase)
  (hhellos:Greets pair w turn):Sound pair attempts (w.apply thread turn):=by
 refine h.quiet hmem hphase hplain hmanager hsame ?_ ?_ ?_ ?_ hhellos
 all_goals
  cases hnext:turn.phase
  all_goals rw [hnext] at hleaving
  all_goals first
   | exact absurd hleaving id
   | trivial
   | exact nofun

end

lemma Sound.goTo (hmanager:turn.manager=w.manager thread.side) (habsent:turn.phase≠.absent)
  (hnext:PhaseOk pair thread (w.association thread) turn.phase)
  (hearly:Early turn.phase → Early phase) (hactivated:Activated turn.phase → Activated phase)
  (hhellos:Greets pair w turn):Sound pair attempts (w.apply thread turn):=
 h.quiet hmem hphase hplain (hmanager.trans (update_id _ _).symm) (.refl _) habsent hnext hearly
  hactivated hhellos

lemma Sound.goAway (hmanager:turn.manager=w.manager thread.side) (hleaving:Leaving turn.phase)
  (hhellos:Greets pair w turn):Sound pair attempts (w.apply thread turn):=
 h.leave hmem hphase hplain (hmanager.trans (update_id _ _).symm) (.refl _) hleaving hhellos

end

lemma mem_send {terminal:Bool} {frame added:Frame} (h:frame∈(Function.update w.outbound thread
   ((w.outbound thread).send terminal added) other).frames):
  frame∈(w.outbound other).frames ∨ (other=thread ∧ frame=added):=by
 rw [Function.update_apply] at h
 split_ifs at h with heq
 · subst heq
   unfold Outbound.send at h
   split_ifs at h with hclosed
   · exact .inl h
   · rcases List.mem_append.mp h with hbefore|hadded
     · exact .inl hbefore
     · exact .inr ⟨rfl,List.mem_singleton.mp hadded⟩
 · exact .inl h

lemma mem_receive {frame:Frame} (h:frame∈((w.received thread).outbound other).frames):
  frame∈(w.outbound other).frames:=by
 change frame∈(Function.update w.outbound thread.peer _ other).frames at h
 rw [Function.update_apply] at h
 split_ifs at h with heq
 · rw [heq]
   exact List.mem_of_mem_tail h
 · exact h

lemma mem_close {flushed:ℕ} {frame:Frame} (h:frame∈(Function.update w.outbound thread
   ((w.outbound thread).close flushed) other).frames):frame∈(w.outbound other).frames:=by
 rw [Function.update_apply] at h
 split_ifs at h with heq
 · rw [heq]
   exact List.mem_of_mem_take h
 · exact h

lemma farewell_ne_hello (terminal:Bool) (reason:ReasonCode) (detail:String)
  (hello:Hello):.hello hello≠farewell terminal reason detail:=by
 cases terminal <;> exact nofun

lemma requestClose_same (association:Association) (reason:ReasonCode) (detail:String):
  Same association (association.requestClose reason detail):=by
 unfold Association.requestClose
 split_ifs with hending
 · exact .refl _
 · exact ⟨rfl,rfl,rfl,rfl,fun _=>.inl rfl,fun hclosed=>absurd (.inr hclosed) hending⟩

lemma requestClose_ending (association:Association) (reason:ReasonCode) (detail:String):
  (association.requestClose reason detail).Ending:=by
 unfold Association.requestClose
 split_ifs with hending
 · exact hending
 · exact .inl rfl

lemma becomeActive_same (association:Association):
  Same association association.becomeActive:=by
 unfold Association.becomeActive
 split_ifs with hstate
 · refine ⟨rfl,rfl,rfl,rfl,fun hending=>?_,fun hclosed=>?_⟩
   · rcases hending with hclosing|hclosed
     · cases hstate.symm.trans hclosing
     · cases hstate.symm.trans hclosed
   · cases hstate.symm.trans hclosed
 · exact .refl _

lemma setCloseReason_same (association:Association) (reason:Option ReasonCode)
  (detail:String):Same association (association.setCloseReason reason detail):=by
 unfold Association.setCloseReason
 dsimp only
 split_ifs with hnone hclosed hclosed
 · exact ⟨rfl,rfl,rfl,rfl,id,id⟩
 · exact ⟨rfl,rfl,rfl,rfl,fun _=>.inl rfl,fun h=>absurd h hclosed⟩
 · exact .refl _
 · exact ⟨rfl,rfl,rfl,rfl,fun _=>.inl rfl,fun h=>absurd h hclosed⟩

lemma markClosed_same (association:Association):Same association association.markClosed:=
 ⟨rfl,rfl,rfl,rfl,fun _=>.inr rfl,fun _=>rfl⟩

lemma Sound.rank_eq (h:Sound pair attempts w) (hregistered:w.phase thread≠.absent)
  {found:ℕ ×ₗ ℕ} (hfound:(w.manager thread.side).rank thread.attempt=some found):
  found=rank pair thread.attempt:=by
 obtain ⟨huid,hinitiator,hpeer⟩:=h.identity thread hregistered
 unfold World.association at huid hinitiator hpeer
 unfold Manager.rank Association.initiatorRank at hfound
 rw [huid,hinitiator,h.incarnation] at hfound
 unfold rank
 cases hown:thread.initiator with
 | true=>
  have hside:thread.attempt.initiator=thread.side:=of_decide_eq_true hown
  rw [hown,if_pos rfl,Option.map_some] at hfound
  rw [hside]
  exact (Option.some.inj hfound).symm
 | false=>
  have hne:thread.attempt.initiator≠thread.side:=of_decide_eq_false hown
  have hside:thread.attempt.initiator=thread.side.other:=by
   cases hfirst:thread.attempt.initiator <;> cases hsecond:thread.side
   all_goals first
    | rfl
    | exact absurd (hfirst.trans hsecond.symm) hne
  rw [hown,if_neg Bool.false_ne_true] at hfound
  rcases hpeer with hnone|hsome
  · rw [hnone] at hfound
    cases hfound
  · rw [hsome,Option.map_some] at hfound
    rw [hside]
    exact (Option.some.inj hfound).symm

lemma rank_isSome {manager:Manager Attempt} {attempt:Attempt} {peerUid:UUID}
  (h:(manager.association attempt).peerIncarnationUid=some peerUid):
  ∃found,manager.rank attempt=some found:=by
 unfold Manager.rank Association.initiatorRank
 rw [h]
 split_ifs <;> exact ⟨_,rfl⟩

lemma Sound.rank_lt (h:Sound pair attempts w) {side:Side} {first second:Attempt}
  (hfirst:w.phase ⟨side,first⟩≠.absent) (hsecond:w.phase ⟨side,second⟩≠.absent)
  (hlt:(w.manager side).rankLt first second=true):rank pair first<rank pair second:=by
 unfold Manager.rankLt at hlt
 rw [Option.any_eq_true] at hlt
 obtain ⟨found,hfound,hlt⟩:=hlt
 rw [Option.any_eq_true] at hlt
 obtain ⟨other,hother,hlt⟩:=hlt
 rw [←h.rank_eq hfirst hfound,←h.rank_eq hsecond hother]
 exact of_decide_eq_true hlt

lemma Sound.rankLe_iff (h:Sound pair attempts w) {side:Side} {first second:Attempt}
  {firstUid secondUid:UUID}
  (hfirst:w.phase ⟨side,first⟩≠.absent) (hsecond:w.phase ⟨side,second⟩≠.absent)
  (hfirstUid:(w.association ⟨side,first⟩).peerIncarnationUid=some firstUid)
  (hsecondUid:(w.association ⟨side,second⟩).peerIncarnationUid=some secondUid):
  (w.manager side).rankLe first second=true ↔ rank pair first ≤ rank pair second:=by
 obtain ⟨found,hfound⟩:=rank_isSome hfirstUid
 obtain ⟨other,hother⟩:=rank_isSome hsecondUid
 unfold Manager.rankLe
 rw [hfound,hother,Option.any_some,Option.any_some,decide_eq_true_iff,
  h.rank_eq hfirst hfound,h.rank_eq hsecond hother]

lemma phase_ne_absent_of_not_early (h:¬Early phase):phase≠.absent:=by
 rintro rfl
 exact h trivial

include h hmem in
lemma Sound.install (hphase:w.phase thread=.shaken) {replaced:Option Attempt}
  (hactivation:(w.manager thread.side).activation thread.attempt (pair.peerName thread.side)
   (pair.peerUid thread.side)=.accepted replaced)
  (hturn:turn=⟨(replaced.map Phase.replacing).getD .activated,
   (w.manager thread.side).install thread.attempt (pair.peerName thread.side)
    (pair.peerUid thread.side),w.outbound⟩):Sound pair attempts (w.apply thread turn):=by
 obtain ⟨hrunning,hreplaced,-,-⟩:=Manager.activation_eq_accepted hactivation
 have hgreeted:Greeted pair thread.side (w.association thread):=by
  have hok:=h.phases thread
  rw [hphase] at hok
  exact hok
 have hregistered:w.phase thread≠.absent:=by
  rw [hphase]
  exact nofun
 have hactivated:Activated turn.phase ∧ ¬Early turn.phase:=by
  rw [hturn]
  cases replaced <;> exact ⟨trivial,id⟩
 have hmanager:turn.manager=(w.manager thread.side).install thread.attempt
  (pair.peerName thread.side) (pair.peerUid thread.side):=by
  rw [hturn]
 have hactive:turn.manager.active (pair.peerName thread.side)=some thread.attempt:=by
  rw [hmanager]
  exact Function.update_self _ _ _
 have hsame (attempt:Attempt):Same (w.association ⟨thread.side,attempt⟩)
  (turn.manager.association attempt):=by
  obtain ⟨_,_,heq⟩:=(w.manager thread.side).install_association attempt thread.attempt
   (pair.peerName thread.side) (pair.peerUid thread.side)
  rw [hmanager,heq]
  exact ⟨rfl,rfl,rfl,rfl,id,id⟩
 have hown:Same (w.association thread) (turn.manager.association thread.attempt):=
  hsame thread.attempt
 refine h.apply hmem ?_ ?_ (hown.known (h.identity thread hregistered)) ?_ ?_ ?_ ?_ ?_ ?_ ?_ ?_
 · intro attempt hattempt
   rw [hmanager] at hattempt
   exact .inl hattempt
 · exact phase_ne_absent_of_not_early hactivated.2
 · have hok:=hown.greeted hgreeted
   rw [hturn] at hok ⊢
   cases replaced <;> exact hok
 · exact fun attempt _=>hsame attempt
 · intro other hello hhello
   rw [hturn] at hhello
   exact .inl hhello
 · rw [hmanager]
   exact hrunning
 · rw [hmanager]
   exact h.incarnation _
 · have hknown:turn.manager.knownIncarnations (pair.peerName thread.side) =
    some (pair.peerUid thread.side):=by
    rw [hmanager]
    exact Function.update_self _ _ _
   exact fun hother=>hother.2 hknown
 · intro attempt hattempt
   cases hactive.symm.trans hattempt
   rw [if_pos rfl]
   exact ⟨hown.greeted hgreeted,hactivated.2⟩
 · -- who was held before is the one that is replaced now, or is being replaced already
   intro attempt hnow hopen
   by_cases hself:attempt=thread.attempt
   · rw [hself]
     exact .inl hactive
   · right
     have hne (other:Attempt) (hother:w.phase ⟨thread.side,other⟩≠.shaken):
      (⟨thread.side,other⟩:Thread)≠thread:=by
      intro heq
      rw [heq] at hother
      exact hother hphase
     have hattempt:(⟨thread.side,attempt⟩:Thread)≠thread:=
      fun heq=>hself (congrArg Thread.attempt heq)
     rw [apply_phase_of_ne hattempt] at hnow
     have hbefore:¬(w.association ⟨thread.side,attempt⟩).Ending:=
      fun hended=>hopen ((hsame attempt).ending hended)
     rcases h.held _ hnow hbefore with hheld|⟨replacing,hreplacing⟩
     · have hcurrent:=Manager.openAssociation_eq_some.mpr ⟨hheld,hbefore⟩
       refine ⟨thread.attempt,?_⟩
       rw [apply_phase_self,hturn,←hreplaced]
       dsimp only at hcurrent ⊢
       rw [hcurrent]
       rfl
     · refine ⟨replacing,?_⟩
       rw [apply_phase_of_ne (hne replacing (by rw [hreplacing]; exact nofun))]
       exact hreplacing

include h hmem in
lemma Sound.register
  (hturn:pair.register w thread=some turn):Sound pair attempts (w.apply thread turn):=by
 unfold Pair.register at hturn
 split at hturn
 case h_2=>cases hturn
 case h_1 habsent=>
  cases hturn
  set created:=Association.create thread.attempt.associationUid thread.initiator
   (pair.side thread).expectedSystemName with hcreated
  obtain ⟨hstate,hincarnation,hactive,hknown,hassociations⟩:=
   (w.manager thread.side).registerAndStart_known thread.attempt created true
  have hown:((w.manager thread.side).registerAndStart thread.attempt created
   true).association thread.attempt={ created with
    registrationOrder:=(w.manager thread.side).nextAssociationGeneration }:=
   Manager.registerAndStart_association_self _ (h.running thread.side) created
  have hnot:¬(w.manager thread.side).active (pair.peerName thread.side) =
   some thread.attempt:=by
   intro hactive
   obtain ⟨-,hearly⟩:=h.active _ _ hactive
   exact phase_ne_absent_of_not_early hearly habsent
  have hnext:¬Activated (if thread.initiator=true then .starting else .awaitingHello):=by
   split_ifs <;> exact id
  refine h.apply hmem hassociations ?_ ?_ ?_ (fun attempt hne=>?_) greets_same
   (hstate.trans (h.running _)) (hincarnation.trans (h.incarnation _)) ?_
   (fun attempt hattempt=>?_) fun attempt hnow hopen=>?_
  · dsimp only
    split_ifs <;> exact nofun
  · dsimp only
    rw [hown]
    exact ⟨rfl,rfl,.inl rfl⟩
  · dsimp only
    split_ifs <;> trivial
  · dsimp only
    rw [Manager.registerAndStart_association_of_ne _ _ hne]
    exact .refl _
  · unfold Manager.KnownOther
    rw [hknown]
    exact h.knownPeer thread.side
  · dsimp only at hattempt
    rw [hactive] at hattempt
    have hne:attempt≠thread.attempt:=by
     rintro rfl
     exact hnot hattempt
    rw [if_neg hne]
    exact hattempt
  · have hself:attempt≠thread.attempt:=by
     rintro rfl
     rw [apply_phase_self] at hnow
     exact hnext hnow
    have hne:(⟨thread.side,attempt⟩:Thread)≠thread:=
     fun heq=>hself (congrArg Thread.attempt heq)
    rw [apply_phase_of_ne hne] at hnow
    dsimp only at hopen ⊢
    rw [Manager.registerAndStart_association_of_ne _ _ hself] at hopen
    rw [hactive]
    refine (h.held _ hnow hopen).imp_right fun ⟨replacing,hreplacing⟩=>⟨replacing,?_⟩
    rw [apply_phase_of_ne fun heq=>?_]
    · exact hreplacing
    · rw [heq,habsent] at hreplacing
      cases hreplacing

lemma fails_leaving (failure:Handshake.HandshakeFailure):Leaving (pair.fails failure):=by
 unfold Pair.fails
 split <;> trivial

include h hmem in
lemma Sound.retain (hphase:w.phase thread=.greeted peerHello)
  (hturn:w.retain thread peerHello=some turn):Sound pair attempts (w.apply thread turn):=by
 have hok:=h.phases thread
 rw [hphase] at hok
 obtain ⟨retained,-,rfl⟩:=Option.map_eq_some_iff.mp hturn
 cases retained with
 | false=>exact h.goAway hmem hphase trivial rfl trivial greets_same
 | true=>
  rw [if_pos rfl]
  split_ifs <;>
   exact h.goTo hmem hphase trivial rfl nofun hok (fun _=>trivial) nofun greets_same

lemma Sound.activate_cases (h:Sound pair attempts w) (hphase:w.phase thread=.shaken)
  (hturn:w.activate thread=some turn):
  ((w.manager thread.side).activation thread.attempt (pair.peerName thread.side)
   (pair.peerUid thread.side)=.refused ∧
   turn=w.goTo thread (.failing true .duplicateAssociation refusal)) ∨
  ∃replaced,(w.manager thread.side).activation thread.attempt (pair.peerName thread.side)
   (pair.peerUid thread.side)=.accepted replaced ∧
   turn=⟨(replaced.map Phase.replacing).getD .activated,
    (w.manager thread.side).install thread.attempt (pair.peerName thread.side)
     (pair.peerUid thread.side),w.outbound⟩:=by
 have hgreeted:Greeted pair thread.side (w.association thread):=by
  have hok:=h.phases thread
  rw [hphase] at hok
  exact hok
 obtain ⟨⟨activation,manager⟩,hactivate,rfl⟩:=Option.map_eq_some_iff.mp hturn
 obtain ⟨name,uid,hname,huid,hcases⟩:=Manager.activateAssociation_cases hactivate
 cases Option.some.inj (hname.symm.trans hgreeted.1)
 cases Option.some.inj (huid.symm.trans hgreeted.2)
 rcases hcases with ⟨hrefused,hresult⟩|⟨replaced,haccepted,hresult⟩
 · cases hresult
   exact .inl ⟨hrefused,rfl⟩
 · cases hresult
   refine .inr ⟨replaced,haccepted,?_⟩
   cases replaced <;> rfl

include h hmem in
lemma Sound.activate (hphase:w.phase thread=.shaken) (hturn:w.activate thread=some turn):
  Sound pair attempts (w.apply thread turn):=by
 rcases h.activate_cases hphase hturn with ⟨-,rfl⟩|⟨replaced,haccepted,hturn⟩
 · exact h.goAway hmem hphase trivial rfl trivial greets_same
 · exact h.install hmem hphase haccepted hturn

include h hmem in
lemma Sound.negotiate (hphase:w.phase thread=.negotiating peerHello):
  Sound pair attempts (w.apply thread (pair.negotiate w thread peerHello)):=by
 have hok:=h.phases thread
 rw [hphase] at hok
 unfold Pair.negotiate
 split
 · refine h.goTo hmem hphase trivial rfl nofun hok.2 (fun _=>trivial) nofun
    fun other hello hhello=>?_
   rcases mem_send hhello with hbefore|⟨-,hno⟩
   · exact .inl hbefore
   · cases hno
 · exact h.goAway hmem hphase trivial rfl (fails_leaving _) greets_same

lemma Sound.greetings (hhello:∀other hello,.hello hello∈(turn.outbound other).frames →
  .hello hello∈(w.outbound other).frames ∨
   (other=thread ∧ (.hello hello:Frame)=.hello (pair.localHello thread))):
  ∀other hello,.hello hello∈(turn.outbound other).frames →
   .hello hello∈(w.outbound other).frames ∨ hello=pair.localHello other:=by
 intro other hello hmem
 rcases hhello other hello hmem with hbefore|⟨rfl,heq⟩
 · exact .inl hbefore
 · cases heq
   exact .inr rfl

section

include h

include hmem in
lemma Sound.unregister
  (hphase:w.phase thread=.unregistering) (hclosed:(w.association thread).state=.closed):
  Sound pair attempts (w.apply thread
   ⟨.done,(w.manager thread.side).associationClosed thread.attempt,w.outbound⟩):=by
 obtain ⟨hknown,-,hassociation,-,hassociations,hstate,hincarnation⟩:=
  (w.manager thread.side).associationClosed_known thread.attempt
 have hsame (attempt:Attempt):((w.manager thread.side).associationClosed
  thread.attempt).association attempt=w.association ⟨thread.side,attempt⟩:=by
  rw [hassociation]
  rfl
 refine h.frame hmem (fun attempt hattempt=>.inl ?_)
  nofun ?_ ?_ (fun attempt _=>?_) greets_same hstate hincarnation hknown
  (fun _=>Manager.associationClosed_active) (fun attempt hnow hactive=>?_) ?_
  nofun nofun ?_ fun replaced hreplaced=>?_
 · dsimp only at hattempt
   rw [hassociations] at hattempt
   exact List.mem_of_mem_erase hattempt
 · dsimp only
   rw [hsame]
   exact h.identity thread (by simp [hphase])
 · dsimp only
   rw [hsame]
   exact hclosed
 · dsimp only
   rw [hsame]
   exact .refl _
 · refine Manager.associationClosed_active_of_ne hactive fun heq=>?_
   subst heq
   rw [apply_phase_self] at hnow
   exact hnow
 · dsimp only
   rw [hsame]
   exact id
 · dsimp only
   rw [hsame]
   exact id
 · rw [hphase] at hreplaced
   cases hreplaced

include hmem in
lemma Sound.advance
  (hturn:pair.advance w thread=some turn):Sound pair attempts (w.apply thread turn):=by
 have hok:=h.phases thread
 unfold Pair.advance at hturn
 cases hphase:w.phase thread with
 | absent | awaitingHello | awaitingAccept | disconnecting | done=>
  rw [hphase] at hturn
  cases hturn
 | starting=>
  rw [hphase] at hturn
  cases hturn
  exact h.goTo hmem hphase trivial rfl nofun trivial (fun _=>trivial) nofun
   (Sound.greetings fun _ _=>mem_send)
 | greeted peerHello=>
  rw [hphase] at hturn
  exact h.retain hmem hphase hturn
 | answering peerHello=>
  rw [hphase] at hturn hok
  cases hturn
  exact h.goTo hmem hphase trivial rfl nofun hok (fun _=>trivial) nofun
   (Sound.greetings fun _ _=>mem_send)
 | negotiating peerHello=>
  rw [hphase] at hturn
  cases hturn
  exact h.negotiate hmem hphase
 | shaken=>
  rw [hphase] at hturn
  exact h.activate hmem hphase hturn
 | replacing replaced=>
  rw [hphase] at hturn hok
  cases hturn
  have hsame (attempt:Attempt):Same (w.association ⟨thread.side,attempt⟩)
   (((w.manager thread.side).update replaced
    (·.requestClose .duplicateAssociation replacement)).association attempt):=by
   by_cases heq:attempt=replaced
   · subst heq
     rw [Manager.update_association_self]
     exact requestClose_same _ _ _
   · rw [Manager.update_association_of_ne _ _ heq]
     exact .refl _
  refine h.frame hmem (fun _ hattempt=>.inl hattempt) ?_
   ((hsame thread.attempt).known (h.identity thread (by simp [hphase]))) ?_
   (fun attempt _=>hsame attempt) greets_same rfl rfl rfl (fun _ hactive=>hactive)
   (fun _ _ hactive=>hactive) (hsame thread.attempt).greeted ?_ (fun _=>?_)
   (hsame thread.attempt).ending fun other hother=>?_
  · dsimp only
    split_ifs <;> exact nofun
  · have hgreeted:=(hsame thread.attempt).greeted hok
    dsimp only
    split_ifs <;> exact hgreeted
  · dsimp only
    split_ifs <;> exact nofun
  · rw [hphase]
    trivial
  · rw [hphase] at hother
    cases hother
    dsimp only
    rw [Manager.update_association_self]
    exact requestClose_ending _ _ _
 | notifying replaced=>
  rw [hphase] at hturn hok
  cases hturn
  refine h.goTo hmem hphase trivial rfl nofun hok nofun (fun _=>trivial) fun other hello hhello=>?_
  rcases mem_send hhello with hbefore|⟨-,hno⟩
  · exact .inl hbefore
  · exact absurd hno (farewell_ne_hello _ _ _ _)
 | activated=>
  rw [hphase] at hturn hok
  dsimp only at hturn
  split_ifs at hturn
  · cases hturn
    have hsame:=becomeActive_same (w.association thread)
    exact h.quiet hmem hphase trivial rfl hsame nofun (hsame.greeted hok) nofun
     (fun _=>trivial) greets_same
  · cases hturn
    exact h.goAway hmem hphase trivial rfl trivial greets_same
 | running=>
  rw [hphase] at hturn
  dsimp only at hturn
  split_ifs at hturn
  cases hturn
  exact h.goAway hmem hphase trivial rfl trivial greets_same
 | failing terminal reason detail=>
  rw [hphase] at hturn
  cases hturn
  refine h.goAway hmem hphase trivial rfl trivial fun other hello hhello=>?_
  rcases mem_send hhello with hbefore|⟨-,hno⟩
  · exact .inl hbefore
  · exact absurd hno (farewell_ne_hello _ _ _ _)
 | ending reason detail=>
  rw [hphase] at hturn
  cases hturn
  have hsame:=setCloseReason_same (w.association thread) reason detail
  exact h.leave (f := (·.setCloseReason reason detail)) hmem hphase trivial rfl hsame trivial
   greets_same
 | disconnected=>
  rw [hphase] at hturn
  cases hturn
  exact h.quiet hmem hphase trivial rfl (markClosed_same _) nofun rfl nofun nofun greets_same
 | unregistering=>
  rw [hphase] at hturn hok
  cases hturn
  exact h.unregister hmem hphase hok

lemma Sound.received : Sound pair attempts (w.received thread):=
 ⟨h.running,h.incarnation,h.knownPeer,h.member,h.registered,h.identity,h.phases,
  fun other hello hhello=>h.hellos other hello (mem_receive hhello),h.active,h.held⟩

include hmem in
lemma Sound.greet (hphase:w.phase thread=.awaitingHello) {peerHello:Hello}
  (hpeer:peerHello=pair.localHello thread.peer):
  Sound pair attempts (w.apply thread (w.revise thread
   (·.greet peerHello.systemName peerHello.systemIncarnationUid) (.greeted peerHello))):=by
 obtain ⟨huid,hinitiator,-⟩:=h.identity thread (by simp [hphase])
 have hgreeted:Greeted pair thread.side ((w.association thread).greet peerHello.systemName
  peerHello.systemIncarnationUid):=by
  rw [hpeer]
  exact ⟨rfl,rfl⟩
 exact h.revise (f := (·.greet peerHello.systemName peerHello.systemIncarnationUid)) hmem hphase
  trivial rfl nofun ⟨huid,hinitiator,.inr hgreeted.2⟩ ⟨hpeer,hgreeted⟩ (fun _=>hgreeted) id
  (fun _=>trivial) nofun greets_same

include hmem in
lemma Sound.receiveHello (hphase:w.phase thread=.awaitingHello) {frame:Frame}
  (hframe:∀peerHello,frame=.hello peerHello → peerHello=pair.localHello thread.peer):
  Sound pair attempts (w.apply thread (pair.receiveHello w thread frame)):=by
 unfold Pair.receiveHello
 split
 · split
   · exact h.greet hmem hphase (hframe _ rfl)
   · exact h.goAway hmem hphase trivial rfl (fails_leaving _) greets_same
 · exact h.goAway hmem hphase trivial rfl trivial greets_same
 · exact h.goAway hmem hphase trivial rfl trivial greets_same

include hmem in
lemma Sound.receiveAccept
  {accept:HelloAccept} (hphase:w.phase thread=.awaitingAccept accept) (frame:Frame):
  Sound pair attempts (w.apply thread (w.receiveAccept thread accept frame)):=by
 have hok:=h.phases thread
 rw [hphase] at hok
 unfold World.receiveAccept
 split
 · exact h.goAway hmem hphase trivial rfl trivial greets_same
 · split_ifs
   · exact h.goTo hmem hphase trivial rfl nofun hok (fun _=>trivial) nofun greets_same
   · exact h.goAway hmem hphase trivial rfl trivial greets_same
 · exact h.goAway hmem hphase trivial rfl trivial greets_same

include hmem in
lemma Sound.receive
  (hturn:pair.receive w thread=some turn):Sound pair attempts (w.apply thread turn):=by
 have happly:w.apply thread turn=(w.received thread).apply thread turn:=rfl
 rw [happly]
 have hreceived:Sound pair attempts (w.received thread):=h.received
 unfold Pair.receive at hturn
 cases hframes:(w.outbound thread.peer).frames with
 | nil=>
  rw [hframes] at hturn
  cases hturn
 | cons frame frames=>
  rw [hframes] at hturn
  dsimp only at hturn
  split at hturn
  case h_1 hphase=>
   cases hturn
   refine hreceived.receiveHello hmem hphase fun peerHello heq=>?_
   refine h.hellos thread.peer peerHello ?_
   rw [hframes,heq]
   exact List.mem_cons_self
  case h_2 accept hphase=>
   cases hturn
   exact hreceived.receiveAccept hmem hphase frame
  case h_3 hphase=>
   cases hturn
   unfold World.receiveActive
   split <;> exact hreceived.goAway hmem hphase trivial rfl trivial greets_same
  case h_4=>cases hturn

end

lemma lose_cases {detail:String} (hturn:w.lose thread detail=some turn):
  (w.outbound thread.peer).closed=true ∧ Plain (w.phase thread) ∧
  ∃reason text,turn=w.goTo thread (.ending reason text) ∧
   reason≠some .duplicateAssociation:=by
 unfold World.lose at hturn
 by_cases hclosed:(w.outbound thread.peer).closed=true
 · rw [if_pos hclosed] at hturn
   refine ⟨hclosed,?_⟩
   cases hphase:w.phase thread
   all_goals
    rw [hphase] at hturn
    dsimp only at hturn
    try split_ifs at hturn
    try cases hturn
   all_goals
    exact ⟨trivial,_,_,rfl,nofun⟩
 · rw [if_neg hclosed] at hturn
   cases hturn

include h hmem in
lemma Sound.lose {detail:String} (hturn:w.lose thread detail=some turn):
  Sound pair attempts (w.apply thread turn):=by
 obtain ⟨-,hplain,reason,text,rfl,-⟩:=lose_cases hturn
 exact h.goAway hmem rfl hplain rfl trivial greets_same

include h hmem in
lemma Sound.disconnect {flushed:ℕ} (hturn:w.disconnect thread flushed=some turn):
  Sound pair attempts (w.apply thread turn):=by
 unfold World.disconnect at hturn
 split_ifs at hturn with hphase
 cases hturn
 exact h.goAway hmem hphase trivial rfl trivial fun _ _ hhello=>.inl (mem_close hhello)

lemma Sound.step (h:Sound pair attempts w) {event:RunEvent} {w':World}
  (hstep:pair.step attempts w event=some w'):Sound pair attempts w':=by
 unfold Pair.step at hstep
 split_ifs at hstep with hmem
 obtain ⟨turn,hturn,rfl⟩:=Option.map_eq_some_iff.mp hstep
 cases event with
 | register thread=>exact h.register hmem hturn
 | advance thread=>exact h.advance hmem hturn
 | receive thread=>exact h.receive hmem hturn
 | lose thread detail=>exact h.lose hmem hturn
 | disconnect thread flushed=>exact h.disconnect hmem hturn

lemma Initial.sound (h:Initial pair w):Sound pair attempts w:=by
 refine ⟨h.running,h.incarnation,h.known,fun thread hphase=>absurd (h.absent thread) hphase,
  fun side attempt hattempt=>?_,fun thread hphase=>absurd (h.absent thread) hphase,
  fun thread=>?_,fun thread hello hhello=>?_,fun side attempt hactive=>?_,
  fun thread hphase=>?_⟩
 · rw [h.associations side] at hattempt
   cases hattempt
 · rw [h.absent thread]
   trivial
 · rw [h.outbound thread] at hhello
   cases hhello
 · rw [h.active side] at hactive
   cases hactive
 · rw [h.absent thread] at hphase
   exact absurd hphase id

end

end Movie.AssociationRunInvariant
