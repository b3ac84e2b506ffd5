import Movie.AssociationRunInvariant
import Movie.HandshakeAgreement

/-!
# One of several concurrent attempts is kept, on both sides

The attempt with the least rank is never given up as a duplicate, since both sides see the ranks
alike; at the end both sides hold it.
-/
namespace Movie.DuplicateArbitration

open AssociationManager AssociationRun AssociationRunInvariant Checked DurableModel Reachability
 WireFrames

def reasonOf : Phase → Option ReasonCode
 | .failing _ reason _=>some reason
 | .ending reason _=>reason
 | _=>none

def frameReason : Frame → Option ReasonCode
 | .goAway goAway=>some goAway.reason
 | .helloReject reject=>some reject.reason
 | _=>none

/-- An attempt that no side has refused or replaced as a duplicate, or is about to. -/
structure Unrefused (least:Attempt) (w:World):Prop where
 phase:∀side,reasonOf (w.phase ⟨side,least⟩)≠some .duplicateAssociation
 frames:∀side,∀frame∈(w.outbound ⟨side,least⟩).frames,
  frameReason frame≠some .duplicateAssociation
 closeReason:∀side,w.phase ⟨side,least⟩≠.absent →
  (w.association ⟨side,least⟩).closeReason≠some .duplicateAssociation
 kept:∀thread,w.phase thread≠.replacing least ∧ w.phase thread≠.notifying least

section

variable {T:Side → Type} {pair:Pair T} {attempts:List Attempt} {least:Attempt}
 {w:World} {thread:Thread} {turn:Turn}

lemma registered_of_apply {other:Thread} (hthread:w.phase thread≠.absent)
  (hnow:(w.apply thread turn).phase other≠.absent):w.phase other≠.absent:=by
 by_cases heq:other=thread
 · rw [heq]
   exact hthread
 · rw [apply_phase_of_ne heq] at hnow
   exact hnow

lemma kept_of_leaving {phase:Phase} (h:Leaving phase):
  phase≠.replacing least ∧ phase≠.notifying least:=by
 constructor
 all_goals
  rintro rfl
  exact h

def Unrefusing (least:Attempt) (w:World) (turn:Turn):Prop:=
 ∀side,∀frame∈(turn.outbound ⟨side,least⟩).frames,
  frame∈(w.outbound ⟨side,least⟩).frames ∨ frameReason frame≠some .duplicateAssociation

lemma unrefusing_same {phase:Phase} {manager:Manager Attempt}:
  Unrefusing least w ⟨phase,manager,w.outbound⟩:=fun _ _=>.inl

lemma Unrefused.apply (h:Unrefused least w)
  (hphase:thread.attempt=least → reasonOf turn.phase≠some .duplicateAssociation)
  (hframes:Unrefusing least w turn)
  (hclose:(w.apply thread turn).phase ⟨thread.side,least⟩≠.absent →
   (turn.manager.association least).closeReason≠some .duplicateAssociation)
  (hkept:turn.phase≠.replacing least ∧ turn.phase≠.notifying least):
  Unrefused least (w.apply thread turn):=by
 refine ⟨fun side=>?_,fun side frame hframe=>?_,fun side hregistered=>?_,fun other=>?_⟩
 · by_cases heq:(⟨side,least⟩:Thread)=thread
   · rw [heq,apply_phase_self]
     exact hphase (congrArg Thread.attempt heq).symm
   · rw [apply_phase_of_ne heq]
     exact h.phase side
 · rcases hframes side frame hframe with hbefore|hnew
   · exact h.frames side frame hbefore
   · exact hnew
 · by_cases hside:side=thread.side
   · subst hside
     rw [apply_association]
     exact hclose hregistered
   · rw [apply_association_of_ne hside]
     rw [apply_phase_of_ne fun heq=>hside (congrArg Thread.side heq)] at hregistered
     exact h.closeReason side hregistered
 · by_cases heq:other=thread
   · rw [heq,apply_phase_self]
     exact hkept
   · rw [apply_phase_of_ne heq]
     exact h.kept other

lemma Unrefused.revise (h:Unrefused least w) {f:Association → Association}
  (hmanager:turn.manager=(w.manager thread.side).update thread.attempt f)
  (hregistered:w.phase thread≠.absent)
  (hf:thread.attempt=least → (w.association thread).closeReason≠some .duplicateAssociation →
   (f (w.association thread)).closeReason≠some .duplicateAssociation)
  (hphase:thread.attempt=least → reasonOf turn.phase≠some .duplicateAssociation)
  (hframes:Unrefusing least w turn)
  (hkept:turn.phase≠.replacing least ∧ turn.phase≠.notifying least):
  Unrefused least (w.apply thread turn):=by
 refine h.apply hphase hframes (fun hnow=>?_) hkept
 rw [hmanager]
 by_cases hself:least=thread.attempt
 · subst hself
   rw [Manager.update_association_self]
   exact hf rfl (h.closeReason thread.side hregistered)
 · rw [Manager.update_association_of_ne _ _ hself]
   rw [apply_phase_of_ne fun heq=>hself (congrArg Thread.attempt heq)] at hnow
   exact h.closeReason thread.side hnow

lemma Unrefused.goTo (h:Unrefused least w)
  (hmanager:turn.manager=w.manager thread.side) (hregistered:w.phase thread≠.absent)
  (hphase:thread.attempt=least → reasonOf turn.phase≠some .duplicateAssociation)
  (hframes:Unrefusing least w turn)
  (hkept:turn.phase≠.replacing least ∧ turn.phase≠.notifying least):
  Unrefused least (w.apply thread turn):=
 h.revise (hmanager.trans (update_id _ _).symm) hregistered (fun _=>id) hphase hframes hkept

variable {side:Side}

/-- The attempt that comes first; no two attempts have one UUID. -/
structure Least (pair:Pair T) (attempts:List Attempt) (least:Attempt):Prop where
 distinct:(attempts.map Attempt.associationUid).Nodup
 mem:least∈attempts
 le:∀other∈attempts,rank pair least ≤ rank pair other

lemma retain_least (h:Sound pair attempts w) (hleast:Least pair attempts least)
  {peerHello:Hello} (hphase:w.phase ⟨side,least⟩=.greeted peerHello) {retained:Bool}
  (hretained:(w.manager side).retainHandshakeCandidate least=some retained):
  retained=true:=by
 have hok:=h.phases ⟨side,least⟩
 rw [hphase] at hok
 obtain ⟨-,hname,huid⟩:=hok
 unfold World.association at hname huid
 unfold Manager.retainHandshakeCandidate at hretained
 simp only [hname,huid,Option.bind_eq_bind,Option.bind_some,h.running side,ne_eq,
  not_true_eq_false,if_false,if_neg (h.knownPeer side)] at hretained
 cases hretained
 refine decide_eq_true fun other hother hprecedes=>?_
 have hregistered:=h.registered side other hother
 have hlt:=h.rank_lt hregistered (by simp [hphase]) hprecedes.2.2.2.2
 exact absurd (hleast.le other (h.member _ hregistered)) (not_le.mpr hlt)

lemma accepted_ne_least (h:Sound pair attempts w) (hleast:Least pair attempts least)
  (hphase:w.phase thread=.shaken) {replaced:Attempt}
  (haccepted:(w.manager thread.side).activation thread.attempt (pair.peerName thread.side)
   (pair.peerUid thread.side)=.accepted (some replaced)):replaced≠least:=by
 rintro rfl
 have hok:=h.phases thread
 rw [hphase] at hok
 have hregistered:w.phase thread≠.absent:=by simp [hphase]
 obtain ⟨-,hopen,-,hcurrent⟩:=Manager.activation_eq_accepted haccepted
 obtain ⟨hpeer,hrank⟩:=hcurrent replaced rfl
 obtain ⟨hactive,-⟩:=Manager.openAssociation_eq_some.mp hopen
 obtain ⟨-,hearly⟩:=h.active thread.side replaced hactive
 have hle:=(h.rankLe_iff (phase_ne_absent_of_not_early hearly) hregistered hpeer hok.2).mpr
  (hleast.le _ (h.member thread hregistered))
 rw [hrank] at hle
 cases hle

lemma eq_of_rank_le (hleast:Least pair attempts least)
  {attempt:Attempt} (hattempt:attempt∈attempts)
  (hle:rank pair attempt ≤ rank pair least):attempt=least:=by
 have heq:rank pair attempt=rank pair least:=le_antisymm hle (hleast.le attempt hattempt)
 have hint:attempt.associationUid.int=least.associationUid.int:=
  congrArg (fun found=>(ofLex found).2) heq
 have huid:attempt.associationUid=least.associationUid:=by
  rw [←Wire.toUUID_int attempt.associationUid,hint,Wire.toUUID_int]
 exact List.inj_on_of_nodup_map hleast.distinct hattempt hleast.mem huid

lemma activation_least (h:Sound pair attempts w) (hleast:Least pair attempts least)
  (hphase:w.phase ⟨side,least⟩=.shaken):
  (w.manager side).activation least (pair.peerName side) (pair.peerUid side)≠.refused:=by
 intro hrefused
 have hok:=h.phases ⟨side,least⟩
 rw [hphase] at hok
 rcases Manager.activation_eq_refused hrefused with hstate|hknown|⟨current,hopen,hcurrent⟩
 · exact hstate (h.running side)
 · exact h.knownPeer side hknown
 · obtain ⟨hactive,-⟩:=Manager.openAssociation_eq_some.mp hopen
   obtain ⟨hgreeted,hearly⟩:=h.active side current hactive
   have hregistered:=phase_ne_absent_of_not_early hearly
   rcases hcurrent with hpeer|hrank
   · exact hpeer hgreeted.2
   · have hle:=(h.rankLe_iff hregistered (by simp [hphase]) hgreeted.2 hok.2).mp hrank
     obtain rfl:=eq_of_rank_le hleast (h.member _ hregistered) hle
     rw [hphase] at hearly
     exact hearly trivial

lemma validatePeerHello_failure {association:Handshake.Association (T side)}
  {hello:Hello}:∀failure,association.validatePeerHello hello=.error failure →
   reasonOf (pair.fails failure)≠some .duplicateAssociation:=by
 have hviolation (detail:String):reasonOf (pair.fails (.failure .protocolViolation detail)) ≠
  some .duplicateAssociation:=by simp [Pair.fails,reasonOf]
 have hmismatch (detail:String):reasonOf (pair.fails (.failure .systemNameMismatch detail)) ≠
  some .duplicateAssociation:=by simp [Pair.fails,reasonOf]
 unfold Handshake.Association.validatePeerHello
 refine bind_reject_error (by simp [Pair.fails,reasonOf]) ?_
 refine bind_reject_error (hviolation _) (bind_reject_error (hviolation _) ?_)
 refine bind_reject_error (hviolation _) (bind_reject_error (hviolation _) ?_)
 refine bind_reject_error (hviolation _) (bind_reject_error (hmismatch _) ?_)
 exact reject_error (hmismatch _)

lemma deriveAccept_failure {association:Handshake.Association (T side)}
  {own peer:Hello} {failure:Handshake.HandshakeFailure}
  (h:association.deriveAccept pair.nfc own peer=.error failure):
  reasonOf (pair.fails failure)≠some .duplicateAssociation:=by
 unfold Handshake.Association.deriveAccept at h
 rcases bind_eq_error h with hnegotiation|⟨negotiation,-,h⟩
 · obtain ⟨error,rfl⟩:=mapError_eq_error hnegotiation
   simp [Pair.fails,reasonOf]
 · rcases bind_eq_error h with hcapabilities|⟨capabilities,-,h⟩
   · obtain ⟨error,rfl⟩:=mapError_eq_error hcapabilities
     simp [Pair.fails,reasonOf]
   · cases h

lemma setCloseReason_closeReason (association:Association) (reason:Option ReasonCode)
  (detail:String):(association.setCloseReason reason detail).closeReason =
   if association.closeDetail=none then reason else association.closeReason:=by
 unfold Association.setCloseReason
 dsimp only
 split_ifs <;> rfl

lemma becomeActive_closeReason (association:Association):
  association.becomeActive.closeReason=association.closeReason:=by
 unfold Association.becomeActive
 split_ifs <;> rfl

lemma farewell_reason (terminal:Bool) (reason:ReasonCode) (detail:String):
  frameReason (farewell terminal reason detail)=some reason:=by
 cases terminal <;> rfl

section

variable (hsound:Sound pair attempts w)
 (hleast:Least pair attempts least)

include hsound hleast in
lemma Unrefused.retain (h:Unrefused least w) {peerHello:Hello}
  (hphase:w.phase thread=.greeted peerHello) (hturn:w.retain thread peerHello=some turn):
  Unrefused least (w.apply thread turn):=by
 obtain ⟨retained,hretained,rfl⟩:=Option.map_eq_some_iff.mp hturn
 refine h.goTo rfl (by simp [hphase]) (fun hself=>?_) unrefusing_same ?_
 · subst hself
   obtain rfl:=retain_least hsound hleast hphase hretained
   rw [if_pos rfl]
   split_ifs <;> exact nofun
 · cases retained with
   | false=>exact ⟨nofun,nofun⟩
   | true=>
    rw [if_pos rfl]
    split_ifs <;> exact ⟨nofun,nofun⟩

include hsound hleast in
lemma Unrefused.activate (h:Unrefused least w) (hphase:w.phase thread=.shaken)
  (hturn:w.activate thread=some turn):Unrefused least (w.apply thread turn):=by
 have hregistered:w.phase thread≠.absent:=by simp [hphase]
 rcases hsound.activate_cases hphase hturn with ⟨hrefused,rfl⟩|⟨replaced,haccepted,rfl⟩
 · refine h.goTo rfl hregistered (fun hself=>?_) unrefusing_same
    ⟨nofun,nofun⟩
   subst hself
   exact absurd hrefused (activation_least hsound hleast hphase)
 · refine h.apply (fun _=>?_) unrefusing_same (fun hnow=>?_) ?_
   · cases replaced <;> exact nofun
   · obtain ⟨_,_,heq⟩:=(w.manager thread.side).install_association least thread.attempt
      (pair.peerName thread.side) (pair.peerUid thread.side)
     rw [heq]
     exact h.closeReason thread.side (registered_of_apply hregistered hnow)
   · cases replaced with
     | none=>exact ⟨nofun,nofun⟩
     | some replaced=>
      refine ⟨fun heq=>?_,nofun⟩
      cases heq
      exact accepted_ne_least hsound hleast hphase haccepted rfl

lemma mem_send_least {sender:Thread} {terminal:Bool} {added:Frame}
  {frame:Frame} (hadded:sender.attempt=least → frameReason added≠some .duplicateAssociation)
  (h:frame∈(Function.update w.outbound sender
   ((w.outbound sender).send terminal added) ⟨side,least⟩).frames):
  frame∈(w.outbound ⟨side,least⟩).frames ∨
   frameReason frame≠some .duplicateAssociation:=by
 rcases mem_send h with hbefore|⟨heq,rfl⟩
 · exact .inl hbefore
 · exact .inr (hadded (congrArg Thread.attempt heq).symm)

include hsound hleast in
lemma Unrefused.advance (h:Unrefused least w) (hturn:pair.advance w thread=some turn):
  Unrefused least (w.apply thread turn):=by
 have hsame {phase:Phase} (hphase:w.phase thread=phase) (hself:thread.attempt=least):
  reasonOf phase≠some .duplicateAssociation:=by
  subst hself
  rw [←hphase]
  exact h.phase thread.side
 have hkept:=h.kept thread
 unfold Pair.advance at hturn
 cases hphase:w.phase thread with
 | absent | awaitingHello | awaitingAccept | disconnecting | done=>
  rw [hphase] at hturn
  cases hturn
 | starting | answering=>
  rw [hphase] at hturn
  cases hturn
  exact h.goTo rfl (by simp [hphase]) (fun _=>nofun)
   (fun _ _=>mem_send_least fun _=>nofun)
   ⟨nofun,nofun⟩
 | greeted peerHello=>
  rw [hphase] at hturn
  exact h.retain hsound hleast hphase hturn
 | negotiating peerHello=>
  rw [hphase] at hturn
  cases hturn
  unfold Pair.negotiate
  split
  · exact h.goTo rfl (by simp [hphase]) (fun _=>nofun)
     (fun _ _=>mem_send_least fun _=>nofun)
     ⟨nofun,nofun⟩
  · rename_i failure hfailure
    exact h.goTo rfl (by simp [hphase]) (fun _=>deriveAccept_failure hfailure)
     unrefusing_same (kept_of_leaving (fails_leaving failure))
 | shaken=>
  rw [hphase] at hturn
  exact h.activate hsound hleast hphase hturn
 | replacing replaced=>
  rw [hphase] at hturn hkept
  cases hturn
  have hne:least≠replaced:=fun heq=>hkept.1 (by rw [heq])
  refine h.apply (fun _=>?_) unrefusing_same (fun hnow=>?_) ?_
  · dsimp only
    split_ifs <;> exact nofun
  · dsimp only
    rw [Manager.update_association_of_ne _ _ hne]
    exact h.closeReason thread.side (registered_of_apply (by simp [hphase]) hnow)
  · dsimp only
    split_ifs
    · exact ⟨nofun,nofun⟩
    · refine ⟨nofun,fun heq=>?_⟩
      cases heq
      exact hne rfl
 | notifying replaced=>
  rw [hphase] at hturn hkept
  cases hturn
  have hne:least≠replaced:=fun heq=>hkept.2 (by rw [heq])
  exact h.goTo rfl (by simp [hphase]) (fun _=>nofun)
   (fun _ _=>mem_send_least fun heq=>absurd heq.symm hne)
   ⟨nofun,nofun⟩
 | activated=>
  rw [hphase] at hturn
  dsimp only at hturn
  split_ifs at hturn
  · cases hturn
    refine h.revise rfl (by simp [hphase]) (fun _ hreason=>?_) (fun _=>nofun)
     unrefusing_same ⟨nofun,nofun⟩
    rw [becomeActive_closeReason]
    exact hreason
  · cases hturn
    exact h.goTo rfl (by simp [hphase]) (fun _=>nofun)
     unrefusing_same ⟨nofun,nofun⟩
 | running=>
  rw [hphase] at hturn
  dsimp only at hturn
  split_ifs at hturn
  cases hturn
  exact h.goTo rfl (by simp [hphase]) (fun _=>nofun)
   unrefusing_same ⟨nofun,nofun⟩
 | failing terminal reason detail=>
  rw [hphase] at hturn
  cases hturn
  have hreason (hself:thread.attempt=least):some reason≠some .duplicateAssociation:=
   hsame hphase hself
  refine h.goTo rfl (by simp [hphase]) hreason (fun _ _=>mem_send_least fun hself=>?_)
   ⟨nofun,nofun⟩
  rw [farewell_reason]
  exact hreason hself
 | ending reason detail=>
  rw [hphase] at hturn
  cases hturn
  refine h.revise (f := (·.setCloseReason reason detail)) rfl (by simp [hphase])
   (fun hself hreason=>?_) (fun _=>nofun) unrefusing_same
   ⟨nofun,nofun⟩
  rw [setCloseReason_closeReason]
  split_ifs
  · exact hsame hphase hself
  · exact hreason
 | disconnected=>
  rw [hphase] at hturn
  cases hturn
  exact h.revise (f := (·.markClosed)) rfl (by simp [hphase]) (fun _=>id)
   (fun _=>nofun) unrefusing_same
   ⟨nofun,nofun⟩
 | unregistering=>
  rw [hphase] at hturn
  cases hturn
  refine h.apply (fun _=>nofun) unrefusing_same (fun hnow=>?_)
   ⟨nofun,nofun⟩
  obtain ⟨-,-,hassociation,-⟩:=
   (w.manager thread.side).associationClosed_known thread.attempt
  dsimp only
  rw [hassociation]
  exact h.closeReason thread.side (registered_of_apply (by simp [hphase]) hnow)

end

lemma Unrefused.register (h:Unrefused least w) (hsound:Sound pair attempts w)
  (hturn:pair.register w thread=some turn):Unrefused least (w.apply thread turn):=by
 unfold Pair.register at hturn
 split at hturn
 case h_2=>cases hturn
 case h_1 habsent=>
  cases hturn
  refine h.apply (fun _=>?_) unrefusing_same (fun hnow=>?_) ?_
  · dsimp only
    split_ifs <;> exact nofun
  · dsimp only
    by_cases hself:least=thread.attempt
    · rw [hself,Manager.registerAndStart_association_self _ (hsound.running thread.side)]
      exact nofun
    · rw [Manager.registerAndStart_association_of_ne _ _ hself]
      rw [apply_phase_of_ne fun heq=>hself (congrArg Thread.attempt heq)] at hnow
      exact h.closeReason thread.side hnow
  · dsimp only
    split_ifs <;> exact ⟨nofun,nofun⟩

lemma mem_receive_least {frame:Frame}
  (hframe:frame∈((w.received thread).outbound ⟨side,least⟩).frames):
  frame∈(w.outbound ⟨side,least⟩).frames ∨ frameReason frame≠some .duplicateAssociation:=
 .inl (mem_receive hframe)

lemma Unrefused.receive (h:Unrefused least w) (hturn:pair.receive w thread=some turn):
  Unrefused least (w.apply thread turn):=by
 unfold Pair.receive at hturn
 cases hframes:(w.outbound thread.peer).frames with
 | nil=>
  rw [hframes] at hturn
  cases hturn
 | cons frame frames=>
  rw [hframes] at hturn
  dsimp only at hturn
  -- a reason that the peer sent was not that of a duplicate
  have hreason (hself:thread.attempt=least):
   frameReason frame≠some .duplicateAssociation:=by
   subst hself
   refine h.frames thread.side.other frame ?_
   change frame∈(w.outbound thread.peer).frames
   rw [hframes]
   exact List.mem_cons_self
  split at hturn
  case h_1 hphase=>
   have hregistered:w.phase thread≠.absent:=by simp [hphase]
   cases hturn
   unfold Pair.receiveHello
   split
   · split
     · exact h.revise (f := (·.greet _ _)) rfl hregistered (fun _=>id)
        (fun _=>nofun) (fun _ _=>mem_receive_least)
        ⟨nofun,nofun⟩
     · exact h.goTo rfl hregistered (fun _=>validatePeerHello_failure _ (by assumption))
        (fun _ _=>mem_receive_least) (kept_of_leaving (fails_leaving _))
   · exact h.goTo rfl hregistered hreason (fun _ _=>mem_receive_least)
      (kept_of_leaving trivial)
   · exact h.goTo rfl hregistered (fun _=>nofun) (fun _ _=>mem_receive_least)
      (kept_of_leaving trivial)
  case h_2 accept hphase=>
   have hregistered:w.phase thread≠.absent:=by simp [hphase]
   cases hturn
   unfold World.receiveAccept
   split
   · exact h.goTo rfl hregistered hreason (fun _ _=>mem_receive_least)
      (kept_of_leaving trivial)
   · split_ifs
     all_goals
      exact h.goTo rfl hregistered (fun _=>nofun) (fun _ _=>mem_receive_least)
       ⟨nofun,nofun⟩
   · exact h.goTo rfl hregistered (fun _=>nofun) (fun _ _=>mem_receive_least)
      (kept_of_leaving trivial)
  case h_3 hphase=>
   have hregistered:w.phase thread≠.absent:=by simp [hphase]
   cases hturn
   unfold World.receiveActive
   split
   · exact h.goTo rfl hregistered hreason (fun _ _=>mem_receive_least)
      (kept_of_leaving trivial)
   · exact h.goTo rfl hregistered (fun _=>nofun) (fun _ _=>mem_receive_least)
      (kept_of_leaving trivial)
  case h_4=>cases hturn

lemma Unrefused.step (h:Unrefused least w) (hsound:Sound pair attempts w)
  (hleast:Least pair attempts least) {event:RunEvent}
  {w':World} (hstep:pair.step attempts w event=some w'):Unrefused least w':=by
 unfold Pair.step at hstep
 split_ifs at hstep
 obtain ⟨turn,hturn,rfl⟩:=Option.map_eq_some_iff.mp hstep
 cases event with
 | register thread=>exact h.register hsound hturn
 | advance thread=>exact h.advance hsound hleast hturn
 | receive thread=>exact h.receive hturn
 | lose thread detail=>
  obtain ⟨-,hplain,reason,text,rfl,hreason⟩:=lose_cases hturn
  exact h.goTo rfl hplain.ne_absent (fun _=>hreason) unrefusing_same
   (kept_of_leaving trivial)
 | disconnect thread flushed=>
  change w.disconnect thread flushed=some turn at hturn
  unfold World.disconnect at hturn
  split_ifs at hturn with hphase
  cases hturn
  exact h.goTo rfl (by simp [hphase,RunEvent.thread]) (fun _=>nofun)
   (fun _ _ hframe=>.inl (mem_close hframe)) (kept_of_leaving trivial)

lemma Initial.unrefused (h:Initial pair w):Unrefused least w:=by
 refine ⟨fun side=>?_,fun side frame hframe=>?_,fun side hphase=>?_,fun thread=>?_⟩
 · rw [h.absent]
   exact nofun
 · rw [h.outbound] at hframe
   cases hframe
 · exact absurd (h.absent _) hphase
 · rw [h.absent]
   exact ⟨nofun,nofun⟩

end

section

variable {T:Side → Type} (pair:Pair T) (least:Attempt) (accept:HelloAccept)

def sentBy (initiator:Bool):Phase → ℕ
 | .absent | .starting=>0
 | .awaitingHello | .greeted _ | .answering _=>if initiator then 1 else 0
 | .negotiating _=>1
 | _=>2

def readBy : Phase → ℕ
 | .absent | .starting | .awaitingHello=>0
 | .greeted _ | .answering _ | .negotiating _ | .awaitingAccept _=>1
 | _=>2

def script (sender:Thread):List Frame:=
 [.hello (pair.localHello sender),.helloAccept accept]

structure Link (sender:Thread) (sent read:Phase) (outbound:Outbound):Prop where
 closed:outbound.closed=false
 terminal:outbound.terminal=false
 order:readBy read ≤ sentBy sender.initiator sent
 frames:outbound.frames =
  ((script pair accept sender).take (sentBy sender.initiator sent)).drop (readBy read)

def OnTrack (initiator:Bool) (state:AssociationState):Phase → Prop
 | .absent=>True
 | .starting=>initiator=true ∧ state=.handshaking
 | .answering _=>initiator=false ∧ state=.handshaking
 | .awaitingAccept own=>own=accept ∧ state=.handshaking
 | .awaitingHello | .greeted _ | .negotiating _ | .shaken | .replacing _ | .notifying _
 | .activated=>state=.handshaking
 | .running=>state=.active
 | _=>False

/-- An attempt whose handshake goes well, on both sides, and that stays active after it. -/
structure Session (w:World):Prop where
 phases:∀side,OnTrack accept (Thread.initiator ⟨side,least⟩)
  (w.association ⟨side,least⟩).state (w.phase ⟨side,least⟩)
 links:∀side,Link pair accept ⟨side,least⟩ (w.phase ⟨side,least⟩)
  (w.phase ⟨side.other,least⟩) (w.outbound ⟨side,least⟩)
 active:∀side,Activated (w.phase ⟨side,least⟩) →
  (w.manager side).active (pair.peerName side)=some least

/-- Each side accepts the other's `HELLO`, and their settings can be negotiated. -/
structure Compatible : Prop where
 validated:∀side,(pair.side ⟨side,least⟩).validatePeerHello
  (pair.localHello ⟨side.other,least⟩)=.ok ()
 derived:∃result,(pair.side ⟨least.initiator,least⟩).deriveAccept pair.nfc
  (pair.localHello ⟨least.initiator,least⟩) (pair.localHello ⟨least.initiator.other,least⟩) =
   .ok result

def Derives : Prop:=
 ∀side,∃serializers,(pair.side ⟨side,least⟩).deriveAccept pair.nfc
  (pair.localHello ⟨side,least⟩) (pair.localHello ⟨side.other,least⟩) =
   .ok (accept,serializers)

variable {pair least accept} {w:World} {sender thread:Thread} {sent next read:Phase}
 {outbound:Outbound} {turn:Turn}

lemma OnTrack.not_ending {initiator:Bool} {association:Association} {phase:Phase}
  (h:OnTrack accept initiator association.state phase) (hactivated:Activated phase):
  ¬association.Ending:=by
 have hstate:association.state=.handshaking ∨ association.state=.active:=by
  cases phase
  case replacing | notifying | activated=>exact .inl h
  case running=>exact .inr h
  all_goals exact absurd hactivated id
 rintro (hclosing|hclosed)
 · rw [hclosing] at hstate
   rcases hstate with heq|heq <;> cases heq
 · rw [hclosed] at hstate
   rcases hstate with heq|heq <;> cases heq

lemma becomeActive_state {association:Association} (h:association.state=.handshaking):
  association.becomeActive.state=.active:=by
 unfold Association.becomeActive
 rw [if_pos h]

lemma sentBy_le (initiator:Bool) (phase:Phase):sentBy initiator phase≤2:=by
 cases phase <;> cases initiator <;> exact Nat.le_of_ble_eq_true rfl

section

variable (h:Link pair accept sender sent read outbound)
include h

lemma Link.send {frame:Frame} (hnext:sentBy sender.initiator next=sentBy sender.initiator sent+1)
  (hframe:(script pair accept sender)[sentBy sender.initiator sent]? = some frame):
  Link pair accept sender next read (outbound.send false frame):=by
 have hsend:outbound.send false frame =
  { outbound with frames:=outbound.frames++[frame],terminal:=false }:=by
  unfold Outbound.send
  rw [h.closed,h.terminal]
  rfl
 have hlength:readBy read ≤
  ((script pair accept sender).take (sentBy sender.initiator sent)).length:=by
  rw [List.length_take]
  exact le_min h.order (h.order.trans (sentBy_le _ _))
 rw [hsend]
 refine ⟨h.closed,rfl,?_,?_⟩
 · rw [hnext]
   exact h.order.trans (Nat.le_succ _)
 · rw [hnext,List.take_add_one,hframe,h.frames,Option.toList_some,
    List.drop_append_of_le_length hlength]

lemma Link.front {frame:Frame} {frames:List Frame} (hframes:outbound.frames=frame::frames):
  readBy read<sentBy sender.initiator sent ∧
   (script pair accept sender)[readBy read]? = some frame:=by
 have hhead:outbound.frames[0]? = some frame:=by
  rw [hframes]
  rfl
 rw [h.frames,List.getElem?_drop,Nat.add_zero,List.getElem?_take] at hhead
 split_ifs at hhead with hlt
 exact ⟨hlt,hhead⟩

lemma Link.receive (hlt:readBy read<sentBy sender.initiator sent) (hnext:readBy next=readBy read+1):
  Link pair accept sender sent next outbound.receive:=by
 refine ⟨h.closed,h.terminal,?_,?_⟩
 · rw [hnext]
   exact hlt
 · change outbound.frames.tail=_
   rw [h.frames,hnext,List.tail_drop]

lemma Link.congr {sent' read':Phase}
  (hsent:sentBy sender.initiator sent'=sentBy sender.initiator sent)
  (hread:readBy read'=readBy read):Link pair accept sender sent' read' outbound:=by
 obtain ⟨hclosed,hterminal,horder,hframes⟩:=h
 rw [←hsent,←hread] at horder hframes
 exact ⟨hclosed,hterminal,horder,hframes⟩

end

lemma other_other (side:Side):side.other.other=side:=by
 cases side <;> rfl

lemma eq_or_eq_other (side other:Side):side=other ∨ side=other.other:=by
 cases side <;> cases other
 all_goals first
  | exact .inl rfl
  | exact .inr rfl

lemma Compatible.derives (h:Compatible pair least):∃accept,Derives pair least accept:=by
 obtain ⟨hvalidated,⟨accept,serializers⟩,hderived⟩:=h
 have hne:least.initiator≠least.initiator.other:=by
  cases least.initiator <;> exact nofun
 have hother:=hvalidated least.initiator.other
 rw [other_other] at hother
 have hmeeting:HandshakeAgreement.Meeting (pair.side ⟨least.initiator,least⟩)
  (pair.side ⟨least.initiator.other,least⟩) (pair.localHello ⟨least.initiator,least⟩)
  (pair.localHello ⟨least.initiator.other,least⟩):=
  ⟨decide_eq_true rfl,decide_eq_false hne,rfl,rfl,rfl,hother,hvalidated least.initiator⟩
 have hequal:=@HandshakeAgreement.Meeting.deriveAccept_eq _ _ pair.nfc _ _ _ _ hmeeting
 rw [hderived] at hequal
 refine ⟨accept,fun side=>⟨serializers,?_⟩⟩
 rcases eq_or_eq_other side least.initiator with rfl|rfl
 · exact hderived
 · rw [other_other]
   exact toOption_eq_some.mp hequal.symm

variable (h:Session pair least accept w)

include h in
lemma Session.other (hne:thread.attempt≠least) (hstate:(turn.manager.association least).state =
   (w.association ⟨thread.side,least⟩).state)
  (houtbound:∀side,turn.outbound ⟨side,least⟩=w.outbound ⟨side,least⟩)
  (hactive:Activated (w.phase ⟨thread.side,least⟩) →
   (w.manager thread.side).active (pair.peerName thread.side)=some least →
   turn.manager.active (pair.peerName thread.side)=some least):
  Session pair least accept (w.apply thread turn):=by
 have hphase (side:Side):(w.apply thread turn).phase ⟨side,least⟩=w.phase ⟨side,least⟩:=
  apply_phase_of_ne fun heq=>hne (congrArg Thread.attempt heq).symm
 refine ⟨fun side=>?_,fun side=>?_,fun side hactivated=>?_⟩
 · rw [hphase]
   by_cases hside:side=thread.side
   · subst hside
     rw [apply_association,hstate]
     exact h.phases _
   · rw [apply_association_of_ne hside]
     exact h.phases side
 · rw [hphase,hphase]
   change Link _ _ _ _ _ (turn.outbound _)
   rw [houtbound]
   exact h.links side
 · rw [hphase] at hactivated
   by_cases hside:side=thread.side
   · subst hside
     rw [apply_manager_self]
     exact hactive hactivated (h.active _ hactivated)
   · rw [apply_manager_of_ne hside]
     exact h.active side hactivated

lemma Session.own {side:Side} (h:Session pair least accept w)
  (hphase:OnTrack accept (Thread.initiator ⟨side,least⟩)
   (turn.manager.association least).state turn.phase)
  (hsend:Link pair accept ⟨side,least⟩ turn.phase (w.phase ⟨side.other,least⟩)
   (turn.outbound ⟨side,least⟩))
  (hread:Link pair accept ⟨side.other,least⟩ (w.phase ⟨side.other,least⟩) turn.phase
   (turn.outbound ⟨side.other,least⟩))
  (hactive:Activated turn.phase → turn.manager.active (pair.peerName side)=some least):
  Session pair least accept (w.apply ⟨side,least⟩ turn):=by
 have hne:side.other≠side:=by cases side <;> exact nofun
 have hself:(w.apply ⟨side,least⟩ turn).phase ⟨side,least⟩=turn.phase:=apply_phase_self
 have hpeer:(w.apply ⟨side,least⟩ turn).phase ⟨side.other,least⟩ =
  w.phase ⟨side.other,least⟩:=
  apply_phase_of_ne fun heq=>hne (congrArg Thread.side heq)
 have hassociation:(w.apply ⟨side,least⟩ turn).association ⟨side,least⟩ =
  turn.manager.association least:=apply_association least
 have hmanager:(w.apply ⟨side,least⟩ turn).manager side=turn.manager:=apply_manager_self
 refine ⟨fun other=>?_,fun other=>?_,fun other hactivated=>?_⟩
 · rcases eq_or_eq_other other side with rfl|rfl
   · rw [hself,hassociation]
     exact hphase
   · rw [hpeer,apply_association_of_ne hne]
     exact h.phases _
 · rcases eq_or_eq_other other side with rfl|rfl
   · rw [hself,hpeer]
     exact hsend
   · rw [other_other,hself,hpeer]
     exact hread
 · rcases eq_or_eq_other other side with rfl|rfl
   · rw [hself] at hactivated
     rw [hmanager]
     exact hactive hactivated
   · rw [hpeer] at hactivated
     rw [apply_manager_of_ne hne]
     exact h.active _ hactivated

section

variable {side:Side} {phase:Phase} (hphase:w.phase ⟨side,least⟩=phase)
include h

lemma Session.link_peer (side:Side):
  Link pair accept ⟨side.other,least⟩ (w.phase ⟨side.other,least⟩) (w.phase ⟨side,least⟩)
   (w.outbound ⟨side.other,least⟩):=by
 have hlink:=h.links side.other
 rw [other_other] at hlink
 exact hlink

include hphase

lemma Session.goOn (hnext:OnTrack accept (Thread.initiator ⟨side,least⟩)
   (turn.manager.association least).state turn.phase)
  (houtbound:∀side,turn.outbound ⟨side,least⟩=w.outbound ⟨side,least⟩)
  (hsent:sentBy (Thread.initiator ⟨side,least⟩) turn.phase =
   sentBy (Thread.initiator ⟨side,least⟩) phase) (hread:readBy turn.phase=readBy phase)
  (hactive:Activated turn.phase → turn.manager.active (pair.peerName side)=some least):
  Session pair least accept (w.apply ⟨side,least⟩ turn):=by
 subst hphase
 refine h.own hnext ?_ ?_ hactive
 · rw [houtbound]
   exact (h.links side).congr hsent rfl
 · rw [houtbound]
   exact (h.link_peer side).congr rfl hread

lemma Session.send {frame:Frame} {next:Phase}
  (hnext:OnTrack accept (Thread.initiator ⟨side,least⟩) (w.association ⟨side,least⟩).state next)
  (hframe:(script pair accept ⟨side,least⟩)[sentBy (Thread.initiator ⟨side,least⟩) phase]? =
   some frame) (hsent:sentBy (Thread.initiator ⟨side,least⟩) next =
   sentBy (Thread.initiator ⟨side,least⟩) phase+1)
  (hread:readBy next=readBy phase) (hactivated:¬Activated next):
  Session pair least accept
   (w.apply ⟨side,least⟩ (w.send ⟨side,least⟩ false frame next)):=by
 subst hphase
 have hne:(⟨side.other,least⟩:Thread)≠⟨side,least⟩:=by
  cases side <;> exact nofun
 refine h.own hnext ?_ ?_ fun hno=>absurd hno hactivated
 · change Link _ _ _ _ _ (Function.update w.outbound _ _ _)
   rw [Function.update_self]
   exact (h.links side).send hsent hframe
 · change Link _ _ _ _ _ (Function.update w.outbound _ _ _)
   rw [Function.update_of_ne hne]
   exact (h.link_peer side).congr rfl hread

lemma Session.receives (hnext:OnTrack accept (Thread.initiator ⟨side,least⟩)
   (turn.manager.association least).state turn.phase)
  (houtbound:turn.outbound=(w.received ⟨side,least⟩).outbound)
  (hlt:readBy phase<sentBy (Thread.initiator ⟨side.other,least⟩) (w.phase ⟨side.other,least⟩))
  (hsent:sentBy (Thread.initiator ⟨side,least⟩) turn.phase =
   sentBy (Thread.initiator ⟨side,least⟩) phase) (hread:readBy turn.phase=readBy phase+1)
  (hactivated:¬Activated turn.phase):Session pair least accept (w.apply ⟨side,least⟩ turn):=by
 subst hphase
 have hne:(⟨side,least⟩:Thread)≠(⟨side.other,least⟩:Thread):=by
  cases side <;> exact nofun
 have hown:turn.outbound ⟨side,least⟩=w.outbound ⟨side,least⟩:=by
  rw [houtbound]
  exact Function.update_of_ne hne _ _
 have hpeer:turn.outbound ⟨side.other,least⟩ =
  (w.outbound ⟨side.other,least⟩).receive:=by
  rw [houtbound]
  exact Function.update_self _ _ _
 refine h.own hnext ?_ ?_ fun hno=>absurd hno hactivated
 · rw [hown]
   exact (h.links side).congr hsent rfl
 · rw [hpeer]
   exact (h.link_peer side).receive hlt hread

end

section

variable {attempts:List Attempt} {side:Side} (hsound:Sound pair attempts w)
 (hleast:Least pair attempts least)
 (hunrefused:Unrefused least w) (hderives:Derives pair least accept)

include hsound hleast hunrefused hderives in
include h in
lemma Session.advance_own (hturn:pair.advance w ⟨side,least⟩=some turn):
  Session pair least accept (w.apply ⟨side,least⟩ turn):=by
 have htrack:=h.phases side
 have hok:=hsound.phases ⟨side,least⟩
 have hactive:=h.active side
 have hkept:=hunrefused.kept ⟨side,least⟩
 unfold Pair.advance at hturn
 cases hphase:w.phase ⟨side,least⟩ with
 | absent | awaitingHello | awaitingAccept | disconnecting | done=>
  rw [hphase] at hturn
  cases hturn
 | failing | ending | disconnected | unregistering=>
  rw [hphase] at htrack
  exact absurd htrack id
 | starting=>
  rw [hphase] at hturn htrack
  cases hturn
  refine h.send hphase htrack.2 rfl ?_ rfl id
  rw [htrack.1]
  rfl
 | greeted peerHello=>
  rw [hphase] at hturn htrack
  obtain ⟨retained,hretained,rfl⟩:=Option.map_eq_some_iff.mp hturn
  obtain rfl:=retain_least hsound hleast hphase hretained
  rw [if_pos rfl]
  split_ifs with hinitiator
  · refine h.goOn hphase htrack (fun _=>rfl) ?_ rfl fun hno=>absurd hno id
    rw [hinitiator]
    rfl
  · exact h.goOn hphase ⟨Bool.not_eq_true _▸hinitiator,htrack⟩ (fun _=>rfl) rfl rfl
     fun hno=>absurd hno id
 | answering peerHello=>
  rw [hphase] at hturn htrack
  cases hturn
  refine h.send hphase htrack.2 ?_ ?_ rfl id
  · rw [htrack.1]
    rfl
  · rw [htrack.1]
    rfl
 | negotiating peerHello=>
  rw [hphase] at hturn htrack hok
  cases hturn
  obtain ⟨rfl,-⟩:=hok
  obtain ⟨serializers,hderived⟩:=hderives side
  unfold Pair.negotiate Thread.peer
  rw [hderived]
  exact h.send hphase ⟨rfl,htrack⟩ rfl rfl rfl id
 | shaken=>
  rw [hphase] at hturn htrack
  rcases hsound.activate_cases hphase hturn with ⟨hrefused,-⟩|⟨replaced,-,rfl⟩
  · exact absurd hrefused (activation_least hsound hleast hphase)
  · obtain ⟨_,_,heq⟩:=(w.manager side).install_association least least
     (pair.peerName side) (pair.peerUid side)
    refine h.goOn hphase ?_ (fun _=>rfl) ?_ ?_ fun _=>Function.update_self _ _ _
    · dsimp only
      rw [heq]
      cases replaced <;> exact htrack
    · cases replaced <;> rfl
    · cases replaced <;> rfl
 | replacing replaced=>
  rw [hphase] at hturn htrack hactive hkept
  cases hturn
  have hne:least≠replaced:=fun heq=>hkept.1 (by rw [heq])
  refine h.goOn hphase ?_ (fun _=>rfl) ?_ ?_ fun _=>hactive trivial
  · dsimp only
    rw [Manager.update_association_of_ne _ _ hne]
    split_ifs <;> exact htrack
  · dsimp only
    split_ifs <;> rfl
  · dsimp only
    split_ifs <;> rfl
 | notifying replaced=>
  rw [hphase] at hturn htrack hactive hkept
  cases hturn
  have hne:least≠replaced:=fun heq=>hkept.2 (by rw [heq])
  refine h.goOn hphase htrack (fun other=>?_) rfl rfl fun _=>hactive trivial
  exact Function.update_of_ne (fun heq=>hne (congrArg Thread.attempt heq)) _ _
 | activated=>
  rw [hphase] at hturn htrack hactive
  dsimp only at hturn
  rw [if_pos (show (w.association ⟨side,least⟩).state=.handshaking from htrack)] at hturn
  cases hturn
  refine h.goOn hphase ?_ (fun _=>rfl) rfl rfl fun _=>hactive trivial
  exact (congrArg Association.state revise_association_self).trans (becomeActive_state htrack)
 | running=>
  rw [hphase] at hturn htrack
  dsimp only at hturn
  split_ifs at hturn with hending
  exact absurd hending (htrack.not_ending trivial)

include hsound hleast hunrefused in
include h in
lemma Session.advance_other (hne:thread.attempt≠least) (hturn:pair.advance w thread=some turn):
  Session pair least accept (w.apply thread turn):=by
 have hsend (terminal:Bool) (frame:Frame) (side:Side):
  Function.update w.outbound thread ((w.outbound thread).send terminal frame) ⟨side,least⟩ =
   w.outbound ⟨side,least⟩:=
  Function.update_of_ne (fun heq=>hne (congrArg Thread.attempt heq).symm) _ _
 have hrevise (f:Association → Association):
  (((w.manager thread.side).update thread.attempt f).association least).state =
   (w.association ⟨thread.side,least⟩).state:=by
  rw [Manager.update_association_of_ne _ _ hne.symm]
  rfl
 have hkept:=hunrefused.kept thread
 unfold Pair.advance at hturn
 cases hphase:w.phase thread with
 | absent | awaitingHello | awaitingAccept | disconnecting | done=>
  rw [hphase] at hturn
  cases hturn
 | starting | answering | failing=>
  rw [hphase] at hturn
  cases hturn
  exact h.other hne rfl (hsend _ _) fun _=>id
 | greeted peerHello=>
  rw [hphase] at hturn
  obtain ⟨retained,-,rfl⟩:=Option.map_eq_some_iff.mp hturn
  exact h.other hne rfl (fun _=>rfl) fun _=>id
 | negotiating peerHello=>
  rw [hphase] at hturn
  cases hturn
  unfold Pair.negotiate
  split
  · exact h.other hne rfl (hsend _ _) fun _=>id
  · exact h.other hne rfl (fun _=>rfl) fun _=>id
 | shaken=>
  rw [hphase] at hturn
  rcases hsound.activate_cases hphase hturn with ⟨-,rfl⟩|⟨replaced,haccepted,rfl⟩
  · exact h.other hne rfl (fun _=>rfl) fun _=>id
  · obtain ⟨_,_,heq⟩:=(w.manager thread.side).install_association least thread.attempt
     (pair.peerName thread.side) (pair.peerUid thread.side)
    refine h.other hne ?_ (fun _=>rfl) fun hactivated hactive=>?_
    · dsimp only
      rw [heq]
      rfl
    · -- the least attempt would be the one that is replaced
      obtain ⟨-,hopen,-,-⟩:=Manager.activation_eq_accepted haccepted
      rw [Manager.openAssociation_eq_some.mpr
       ⟨hactive,(h.phases thread.side).not_ending hactivated⟩] at hopen
      subst hopen
      exact absurd rfl (accepted_ne_least hsound hleast hphase haccepted)
 | replacing replaced=>
  rw [hphase] at hturn hkept
  cases hturn
  have hreplaced:least≠replaced:=fun heq=>hkept.1 (by rw [heq])
  refine h.other hne ?_ (fun _=>rfl) fun _=>id
  dsimp only
  rw [Manager.update_association_of_ne _ _ hreplaced]
  rfl
 | notifying replaced=>
  rw [hphase] at hturn hkept
  cases hturn
  have hreplaced:least≠replaced:=fun heq=>hkept.2 (by rw [heq])
  refine h.other hne rfl (fun other=>?_) fun _=>id
  exact Function.update_of_ne (fun heq=>hreplaced (congrArg Thread.attempt heq)) _ _
 | activated=>
  rw [hphase] at hturn
  dsimp only at hturn
  split_ifs at hturn
  · cases hturn
    exact h.other hne (hrevise _) (fun _=>rfl) fun _=>id
  · cases hturn
    exact h.other hne rfl (fun _=>rfl) fun _=>id
 | running=>
  rw [hphase] at hturn
  dsimp only at hturn
  split_ifs at hturn
  cases hturn
  exact h.other hne rfl (fun _=>rfl) fun _=>id
 | ending reason detail=>
  rw [hphase] at hturn
  cases hturn
  exact h.other hne (hrevise (·.setCloseReason reason detail)) (fun _=>rfl) fun _=>id
 | disconnected=>
  rw [hphase] at hturn
  cases hturn
  exact h.other hne (hrevise (·.markClosed)) (fun _=>rfl) fun _=>id
 | unregistering=>
  rw [hphase] at hturn
  cases hturn
  obtain ⟨-,-,hassociation,-⟩:=
   (w.manager thread.side).associationClosed_known thread.attempt
  refine h.other hne ?_ (fun _=>rfl) fun _ hactive=>
   Manager.associationClosed_active_of_ne hactive hne.symm
  dsimp only
  rw [hassociation]
  rfl

include hsound in
include h in
lemma Session.register (hturn:pair.register w thread=some turn):
  Session pair least accept (w.apply thread turn):=by
 unfold Pair.register at hturn
 split at hturn
 case h_2=>cases hturn
 case h_1 habsent=>
  cases hturn
  by_cases hself:thread.attempt=least
  · obtain ⟨side,attempt⟩:=thread
    dsimp only at hself
    subst hself
    refine h.goOn habsent ?_ (fun _=>rfl) ?_ ?_ fun hno=>?_
    · dsimp only
      rw [Manager.registerAndStart_association_self _ (hsound.running side)]
      split_ifs with hinitiator
      · exact ⟨hinitiator,rfl⟩
      · exact rfl
    · dsimp only
      split_ifs with hinitiator
      · rfl
      · simp [sentBy,hinitiator]
    · dsimp only
      split_ifs <;> rfl
    · dsimp only at hno
      split_ifs at hno <;> exact absurd hno id
  · obtain ⟨-,-,hactive,-⟩:=(w.manager thread.side).registerAndStart_known thread.attempt
     (.create thread.attempt.associationUid thread.initiator
      (pair.side thread).expectedSystemName) true
    refine h.other hself ?_ (fun _=>rfl) fun _ hbefore=>?_
    · dsimp only
      rw [Manager.registerAndStart_association_of_ne _ _ fun heq=>hself heq.symm]
      rfl
    · dsimp only
      rw [hactive]
      exact hbefore

lemma Session.receive_own (hcompatible:Compatible pair least)
  (h:Session pair least accept w) (hturn:pair.receive w ⟨side,least⟩=some turn):
  Session pair least accept (w.apply ⟨side,least⟩ turn):=by
 have htrack:=h.phases side
 have hlink:=h.link_peer side
 unfold Pair.receive at hturn
 cases hframes:(w.outbound (Thread.peer ⟨side,least⟩)).frames with
 | nil=>
  rw [hframes] at hturn
  cases hturn
 | cons frame frames=>
  rw [hframes] at hturn
  dsimp only at hturn
  obtain ⟨hlt,hfront⟩:=hlink.front hframes
  split at hturn
  case h_1 hphase=>
   rw [hphase] at hlt hfront htrack
   obtain rfl:ControlFrame.hello (pair.localHello ⟨side.other,least⟩)=frame:=
    Option.some.inj hfront
   cases hturn
   unfold Pair.receiveHello
   dsimp only
   rw [hcompatible.validated side]
   dsimp only
   exact h.receives hphase ((congrArg Association.state revise_association_self).trans htrack)
    rfl hlt rfl rfl id
  case h_2 own hphase=>
   rw [hphase] at hlt hfront htrack
   obtain rfl:ControlFrame.helloAccept accept=frame:=Option.some.inj hfront
   cases hturn
   unfold World.receiveAccept
   dsimp only
   rw [if_pos htrack.1.symm]
   exact h.receives hphase htrack.2 rfl hlt rfl rfl id
  case h_3 hphase=>
   rw [hphase] at hfront
   cases hfront
  case h_4=>cases hturn

include h in
lemma Session.receive_other (hne:thread.attempt≠least) (hturn:pair.receive w thread=some turn):
  Session pair least accept (w.apply thread turn):=by
 have houtbound (side:Side):
  (w.received thread).outbound ⟨side,least⟩=w.outbound ⟨side,least⟩:=
  Function.update_of_ne (fun heq=>hne (congrArg Thread.attempt heq).symm) _ _
 unfold Pair.receive at hturn
 cases hframes:(w.outbound thread.peer).frames with
 | nil=>
  rw [hframes] at hturn
  cases hturn
 | cons frame frames=>
  rw [hframes] at hturn
  dsimp only at hturn
  split at hturn
  case h_1=>
   cases hturn
   unfold Pair.receiveHello
   split
   · split
     · exact h.other hne (congrArg Association.state (revise_association_of_ne hne.symm))
        houtbound fun _=>id
     · exact h.other hne rfl houtbound fun _=>id
   · exact h.other hne rfl houtbound fun _=>id
   · exact h.other hne rfl houtbound fun _=>id
  case h_2=>
   cases hturn
   unfold World.receiveAccept
   split <;> exact h.other hne rfl houtbound fun _=>id
  case h_3=>
   cases hturn
   unfold World.receiveActive
   split <;> exact h.other hne rfl houtbound fun _=>id
  case h_4=>cases hturn

include hsound hleast hunrefused hderives in
lemma Session.step (hcompatible:Compatible pair least) (h:Session pair least accept w)
  {event:RunEvent} {w':World} (hstep:pair.step attempts w event=some w'):
  Session pair least accept w':=by
 unfold Pair.step at hstep
 split_ifs at hstep
 obtain ⟨turn,hturn,rfl⟩:=Option.map_eq_some_iff.mp hstep
 cases event with
 | register thread=>exact h.register hsound hturn
 | advance thread=>
  obtain ⟨side,attempt⟩:=thread
  by_cases hself:attempt=least
  · subst hself
    exact h.advance_own hsound hleast hunrefused hderives hturn
  · exact h.advance_other hsound hleast hunrefused hself hturn
 | receive thread=>
  obtain ⟨side,attempt⟩:=thread
  by_cases hself:attempt=least
  · subst hself
    exact h.receive_own hcompatible hturn
  · exact h.receive_other hself hturn
 | lose thread detail=>
  obtain ⟨hclosed,-,reason,text,rfl,-⟩:=lose_cases hturn
  obtain ⟨side,attempt⟩:=thread
  by_cases hself:attempt=least
  · subst hself
    cases (h.link_peer side).closed.symm.trans hclosed
  · exact h.other hself rfl (fun _=>rfl) fun _=>id
 | disconnect thread flushed=>
  change w.disconnect thread flushed=some turn at hturn
  unfold World.disconnect at hturn
  split_ifs at hturn with hphase
  cases hturn
  obtain ⟨side,attempt⟩:=thread
  by_cases hself:attempt=least
  · subst hself
    have htrack:=h.phases side
    rw [hphase] at htrack
    exact absurd htrack id
  · exact h.other hself rfl (fun _=>Function.update_of_ne
     (fun heq=>hself (congrArg Thread.attempt heq).symm) _ _) fun _=>id

end

lemma Initial.session (h:Initial pair w):Session pair least accept w:=by
 refine ⟨fun side=>?_,fun side=>?_,fun side hactivated=>?_⟩
 · rw [h.absent]
   trivial
 · rw [h.absent,h.absent,h.outbound]
   exact ⟨rfl,rfl,le_rfl,rfl⟩
 · rw [h.absent] at hactivated
   exact absurd hactivated id

end

section

variable {T:Side → Type} {pair:Pair T} {attempts:List Attempt} {least:Attempt} {w:World}

lemma reachable_sound (h:(attemptsSystem pair attempts).Reachable w):Sound pair attempts w:=
 h.invariant (I := Sound pair attempts) (fun _=>Initial.sound)
  fun _ _ _ _ hsound hstep=>hsound.step hstep

lemma reachable_unrefused (hleast:Least pair attempts least)
  (h:(attemptsSystem pair attempts).Reachable w):Unrefused least w:=
 h.invariant (I := Unrefused least) (fun _=>Initial.unrefused)
  fun _ _ _ hreachable hunrefused hstep=>
   hunrefused.step (reachable_sound hreachable) hleast hstep

lemma reachable_session (hleast:Least pair attempts least)
  (hcompatible:Compatible pair least) {accept:HelloAccept} (hderives:Derives pair least accept)
  (h:(attemptsSystem pair attempts).Reachable w):Session pair least accept w:=
 h.invariant (I := Session pair least accept) (fun _=>Initial.session)
  fun _ _ _ hreachable hsession hstep=>
   hsession.step (reachable_sound hreachable) hleast
    (reachable_unrefused hleast hreachable) hderives hcompatible hstep

def Quiescent (attempts:List Attempt) (w:World):Prop:=
 ∀side,∀attempt∈attempts,w.phase ⟨side,attempt⟩=.done ∨
  (w.phase ⟨side,attempt⟩=.running ∧ (w.association ⟨side,attempt⟩).state=.active)

lemma Quiescent.active (h:Quiescent attempts w) (hsound:Sound pair attempts w)
  {side:Side} {attempt:Attempt} (hphase:w.phase ⟨side,attempt⟩=.running)
  (hstate:(w.association ⟨side,attempt⟩).state=.active):
  (w.manager side).active (pair.peerName side)=some attempt:=by
 have hopen:¬(w.association ⟨side,attempt⟩).Ending:=by
  rintro (hclosing|hclosed)
  · cases hstate.symm.trans hclosing
  · cases hstate.symm.trans hclosed
 rcases hsound.held ⟨side,attempt⟩ (by rw [hphase]; trivial) hopen with hactive|⟨other,hother⟩
 · exact hactive
 · have hmem:other∈attempts:=hsound.member ⟨side,other⟩ (by simp [hother])
   rcases h side other hmem with hdone|⟨hrunning,-⟩
   · cases hother.symm.trans hdone
   · cases hother.symm.trans hrunning

/-- No side gives the least attempt up as a duplicate, and in the end both hold it and it only. -/
theorem duplicate_arbitration (hdistinct:(attempts.map Attempt.associationUid).Nodup)
  (hmem:least∈attempts) (hleast:∀other∈attempts,rank pair least ≤ rank pair other)
  (h:(attemptsSystem pair attempts).Reachable w):
  Unrefused least w ∧
  (Compatible pair least → Quiescent attempts w → ∀side,
   (w.manager side).active (pair.peerName side)=some least ∧
   ∀attempt∈attempts,
    (w.association ⟨side,attempt⟩).state=.active ↔ attempt=least):=by
 refine ⟨reachable_unrefused ⟨hdistinct,hmem,hleast⟩ h,fun hcompatible hquiet side=>?_⟩
 have hsound:=reachable_sound h
 obtain ⟨accept,hderives⟩:=hcompatible.derives
 have hsession:=reachable_session ⟨hdistinct,hmem,hleast⟩ hcompatible hderives h
 have hrunning:w.phase ⟨side,least⟩=.running ∧
  (w.association ⟨side,least⟩).state=.active:=by
  rcases hquiet side least hmem with hdone|hrunning
  · have htrack:=hsession.phases side
    rw [hdone] at htrack
    exact absurd htrack id
  · exact hrunning
 have hactive:=hquiet.active hsound hrunning.1 hrunning.2
 refine ⟨hactive,fun attempt hattempt=>⟨fun hstate=>?_,?_⟩⟩
 · rcases hquiet side attempt hattempt with hdone|⟨hphase,-⟩
   · have hclosed:=hsound.phases ⟨side,attempt⟩
     rw [hdone] at hclosed
     cases hstate.symm.trans hclosed
   · have hother:=hquiet.active hsound hphase hstate
     exact Option.some.inj (hother.symm.trans hactive)
 · rintro rfl
   exact hrunning.2

end

def shops : Pair fun _=>Empty where
 runtime
  | .first=>HandshakeAgreement.shop.runtime
  | .second=>HandshakeAgreement.bank.runtime
 nfc:=fun _=>true
 describe:=fun _ => ""

def quiet (side:Side):Manager Attempt:=
 { Manager.create (shops.runtime side).incarnationUid with state:=.running }

def shopCalls : Attempt:=⟨.first,Wire.toUUID 5⟩
def bankCalls : Attempt:=⟨.second,Wire.toUUID 6⟩

def handshakes (attempt:Attempt):List RunEvent:=
 let caller:Thread:=⟨attempt.initiator,attempt⟩
 let called:Thread:=⟨attempt.initiator.other,attempt⟩
 [.register caller,.register called,.advance caller,.receive called,.advance called,
  .advance called,.advance called,.receive caller,.advance caller,.advance caller,
  .receive caller,.receive called]

def threadOf (side:Side) (attempt:Attempt):Thread:=⟨side,attempt⟩

def closes (thread:Thread):List RunEvent:=
 [.advance thread,.disconnect thread 1,.advance thread,.advance thread]

def crossing : List RunEvent:=
 handshakes bankCalls ++
 [RunEvent.advance (threadOf .first bankCalls),.advance (threadOf .first bankCalls),
  .advance (threadOf .second bankCalls),.advance (threadOf .second bankCalls)] ++
 handshakes shopCalls ++
 [RunEvent.advance (threadOf .first shopCalls),.advance (threadOf .first shopCalls),
  .advance (threadOf .first shopCalls),.advance (threadOf .first shopCalls),
  .advance (threadOf .second shopCalls),.advance (threadOf .second shopCalls),
  .advance (threadOf .second shopCalls),.advance (threadOf .second shopCalls),
  .receive (threadOf .second bankCalls)] ++
 closes (threadOf .second bankCalls)++closes (threadOf .first bankCalls)

def calls : List Attempt:=[shopCalls,bankCalls]

def start : World:=⟨quiet,fun _=>.absent,fun _=>.create⟩

lemma initial_start {pair:Pair fun _=>Empty}
  (h:∀side,(quiet side).incarnationUid=(pair.runtime side).incarnationUid):Initial pair start:=
 ⟨fun _=>rfl,h,fun _=>rfl,fun _=>rfl,fun _ hother=>hother.1 rfl,fun _=>rfl,fun _=>rfl⟩

def played : Option World:=crossing.foldlM (shops.step calls) start

theorem duplicate_arbitration_crossing :
  ∃w,played=some w ∧ Unrefused shopCalls w ∧
   (w.manager .first).active "bank" = some shopCalls ∧
   (w.manager .second).active "shop" = some shopCalls ∧
   ∀side,(w.association ⟨side,bankCalls⟩).state≠.active:=by
 have hfacts:(played.map fun w=>((w.phase ⟨.first,shopCalls⟩,w.phase ⟨.second,shopCalls⟩,
  w.phase ⟨.first,bankCalls⟩,w.phase ⟨.second,bankCalls⟩),
  (w.association ⟨.first,shopCalls⟩).state,(w.association ⟨.second,shopCalls⟩).state)) =
  some ((.running,.running,.done,.done),.active,.active):=by
  decide +kernel
 obtain ⟨w,hw,hfacts⟩:=Option.map_eq_some_iff.mp hfacts
 simp only [Prod.mk.injEq] at hfacts
 obtain ⟨⟨hfirst,hsecond,hfirstBank,hsecondBank⟩,hfirstState,hsecondState⟩:=hfacts
 have hreachable:(attemptsSystem shops calls).Reachable w:=
  System.Reachable.play (fun _ _ _ hstep=>hstep) crossing (.start (initial_start fun _=>rfl)) hw
 have hcompatible:Compatible shops shopCalls:=by
  refine ⟨fun side=>?_,_,rfl⟩
  cases side <;> rfl
 have hquiet:Quiescent calls w:=by
  intro side attempt hattempt
  rcases List.mem_cons.mp hattempt with rfl|hattempt
  · cases side
    · exact .inr ⟨hfirst,hfirstState⟩
    · exact .inr ⟨hsecond,hsecondState⟩
  · obtain rfl:=List.mem_singleton.mp hattempt
    cases side
    · exact .inl hfirstBank
    · exact .inl hsecondBank
 obtain ⟨hunrefused,hheld⟩:=@duplicate_arbitration _ shops calls shopCalls w (by decide)
  List.mem_cons_self (by decide) hreachable
 refine ⟨w,hw,hunrefused,(hheld hcompatible hquiet .first).1,
  (hheld hcompatible hquiet .second).1,fun side hstate=>?_⟩
 have heq:=((hheld hcompatible hquiet side).2 bankCalls
  (List.mem_cons_of_mem _ List.mem_cons_self)).mp hstate
 cases heq

/-- The bank of `shops`, with another peer in its configuration. -/
def strangers : Pair fun _=>Empty where
 runtime
  | .first=>HandshakeAgreement.shop.runtime
  | .second=>{ HandshakeAgreement.bank.runtime with peers:=fun _=>none }
 nfc:=fun _=>true
 describe:=fun _ => ""

def refused : Option World:=
 ((handshakes shopCalls).take 4++RunEvent.advance (threadOf .second shopCalls) ::
  closes (threadOf .second shopCalls)++RunEvent.receive (threadOf .first shopCalls) ::
  closes (threadOf .first shopCalls)).foldlM (strangers.step [shopCalls]) start

/-- A peer that is not allowlisted is answered with `HELLO_REJECT`; nobody is active in the end. -/
theorem stranger_refused : ∃w,(attemptsSystem strangers [shopCalls]).Reachable w ∧
  Quiescent [shopCalls] w ∧ ∀side,(w.manager side).active (strangers.peerName side)=none ∧
   (w.association ⟨side,shopCalls⟩).state≠.active:=by
 have hfacts:(refused.map fun w=>((w.phase ⟨.first,shopCalls⟩,w.phase ⟨.second,shopCalls⟩),
  ((w.manager .first).active "bank",(w.association ⟨.first,shopCalls⟩).state),
  (w.manager .second).active "shop",(w.association ⟨.second,shopCalls⟩).state)) =
  some ((.done,.done),(none,.closed),none,.closed):=by
  decide +kernel
 obtain ⟨w,hw,hfacts⟩:=Option.map_eq_some_iff.mp hfacts
 simp only [Prod.mk.injEq] at hfacts
 obtain ⟨⟨hfirst,hsecond⟩,hfirstEnd,hsecondEnd⟩:=hfacts
 refine ⟨w,.play (fun _ _ _ hstep=>hstep) _ (.start (initial_start ?_)) hw,?_,?_⟩
 · rintro (_|_) <;> rfl
 · intro side attempt hattempt
   obtain rfl:=List.mem_singleton.mp hattempt
   cases side
   · exact .inl hfirst
   · exact .inl hsecond
 · rintro (_|_)
   · exact ⟨hfirstEnd.1,by simp [hfirstEnd.2]⟩
   · exact ⟨hsecondEnd.1,by simp [hsecondEnd.2]⟩

end Movie.DuplicateArbitration
