import Movie.ClusterInvariant
import Movie.ClusterParticipant

/-!
# The view revision counts the changes of the members

Every section of a runtime, of a coordinator or of a participant, leaves the members it shows
as they are or counts its view revision up.
-/
namespace Movie.ClusterViewRevision

open Checked DurableModel Handshake Wire ClusterModel ClusterCoordinator ClusterParticipant
 ClusterInvariant Reachability

structure Advances (v w:MemberView):Prop where
 le:v.viewRevision≤w.viewRevision
 same:v.viewRevision=w.viewRevision →
  (Members.values v.members).Perm (Members.values w.members)

lemma Advances.refl (v:MemberView):Advances v v:=⟨Nat.le_refl _,fun _=>.rfl⟩

lemma Advances.trans {u v w:MemberView} (h:Advances u v) (h':Advances v w):
  Advances u w:=by
 refine ⟨h.le.trans h'.le,fun heq=>?_⟩
 have hle:=h.le
 have hle':=h'.le
 exact (h.same (by omega)).trans (h'.same (by omega))

lemma advances_of_lt {v w:MemberView} (h:v.viewRevision<w.viewRevision):Advances v w:=
 ⟨h.le,fun heq=>absurd heq h.ne⟩

lemma advances_replaceMember (v:MemberView) (member:ClusterMember):
  Advances v (v.replaceMember member):=by
 unfold MemberView.replaceMember
 split_ifs
 · exact .refl v
 · exact advances_of_lt (Nat.lt_succ_self _)

section

variable (node:Coordinator) (s:CoordinatorState)

lemma advances_removeMember (identity:MemberIdentity):
  Advances s.toMemberView (s.removeMember identity).toMemberView:=
 advances_of_lt (Nat.lt_succ_self _)

lemma advances_setSelfStatus (status:MemberStatus):
  Advances s.toMemberView (setSelfStatus node status s).toMemberView:=by
 unfold setSelfStatus
 repeat' split
 all_goals first | exact .refl _ | exact advances_replaceMember _ _

lemma advances_reserveMemberCapacity (left:List MemberIdentity):
  Advances s.toMemberView (reserveMemberCapacity node s left).1.toMemberView:=by
 induction left generalizing s with
 | nil=>exact .refl _
 | cons identity rest ih=>
  unfold reserveMemberCapacity
  split_ifs
  · exact .refl _
  · exact (advances_removeMember s identity).trans (ih (retireMember s identity))
  · exact ih s
  · exact .refl _

lemma advances_handleJoinRequest (message:JoinRequest) (source:MemberIdentity)
  (sourceEndpoint:Endpoint) (token:UUID) (now:ℤ):Advances s.toMemberView
   (handleJoinRequest node s message source sourceEndpoint token now).1.toMemberView:=by
 have hreserve:=advances_reserveMemberCapacity node s s.leftOrder
 unfold handleJoinRequest
 dsimp only
 repeat' split
 any_goals exact .refl _
 · rename_i heq
   rwa [heq] at hreserve
 · rename_i heq
   rw [heq] at hreserve
   exact hreserve.trans (advances_replaceMember _ _)

lemma advances_expireProvisionalJoin (identity:MemberIdentity) (requestId:UUID):
  Advances s.toMemberView (expireProvisionalJoin s identity requestId).toMemberView:=by
 unfold expireProvisionalJoin
 split_ifs
 · exact advances_removeMember s identity
 · exact .refl _

lemma advances_handleJoinConfirm (message:JoinConfirm) (source:MemberIdentity) (now:ℤ):
  Advances s.toMemberView (handleJoinConfirm node s message source now).1.toMemberView:=by
 unfold handleJoinConfirm
 repeat' split
 all_goals first | exact .refl _ | exact advances_replaceMember _ _

lemma advances_handleHeartbeat (message:Heartbeat) (source:MemberIdentity) (now:ℤ):
  Advances s.toMemberView (handleHeartbeat node s message source now).1.toMemberView:=by
 unfold handleHeartbeat
 dsimp only
 repeat' split
 all_goals first | exact .refl _ | exact advances_replaceMember _ _

lemma advances_handleLeave (message:Leave) (source:MemberIdentity):
  Advances s.toMemberView (handleLeave node s message source).1.toMemberView:=by
 unfold handleLeave
 repeat' split
 all_goals first | exact .refl _ | exact advances_replaceMember _ _

lemma advances_finishLeave (identity:MemberIdentity) (requestId:UUID):
  Advances s.toMemberView (finishLeave node s identity requestId).1.toMemberView:=by
 unfold finishLeave
 dsimp only
 repeat' split
 all_goals first | exact .refl _ | exact advances_replaceMember _ _

lemma advances_detectUnreachableMembers (now:ℤ) (entries:List (Σ _:MemberIdentity,ClusterMember)):
  Advances s.toMemberView (detectUnreachableMembers node now s entries).1.toMemberView:=by
 induction entries generalizing s with
 | nil=>exact .refl _
 | cons entry rest ih=>
  unfold detectUnreachableMembers
  split_ifs
  · exact ih s
  · exact (advances_replaceMember _ _).trans (ih (s.advance _))

lemma advances_finishStop : Advances s.toMemberView (finishStop node s).toMemberView:=by
 unfold finishStop
 dsimp only
 repeat' split
 all_goals first | exact .refl _ | exact advances_replaceMember _ _

lemma advances_down {identity:MemberIdentity} {data:CoordinatorState} {changed:Bool}
  (h:down node s identity=.ok (data,changed)):Advances s.toMemberView data.toMemberView:=by
 obtain ⟨-,h⟩:=bind_reject_eq_ok.mp h
 obtain ⟨-,h⟩:=bind_reject_eq_ok.mp h
 split at h
 · cases h
   exact .refl _
 · split_ifs at h
   · cases h
     exact .refl _
   · obtain ⟨-,h⟩:=bind_reject_eq_ok.mp h
     obtain ⟨-,h⟩:=bind_reject_eq_ok.mp h
     cases h
     exact advances_replaceMember _ _

end

lemma coordinator_advances {node:Coordinator} {r r':CoordinatorRun} {event:Event}
  (h:step node r event r'):Advances r.data.toMemberView r'.data.toMemberView:=by
 rcases event with event|event
 · cases event with
   | start | launch | startFails | stop | stopDecides=>
    obtain ⟨-,-,rfl⟩:=h
    exact .refl _
   | startReturns | stopFails=>
    obtain ⟨-,rfl⟩:=h
    exact .refl _
   | form | announce | depart=>
    obtain ⟨-,rfl⟩:=h
    exact advances_setSelfStatus node _ _
   | down identity=>
    obtain ⟨data,changed,hdown,rfl⟩:=h
    exact advances_down node _ hdown
   | broadcast=>
    obtain ⟨before,exclude,after,-,rfl⟩:=h
    exact .refl _
   | stopFinishes=>
    obtain ⟨-,-,rfl⟩:=h
    exact advances_finishStop node _
 · cases event with
   | joinRequest message source sourceEndpoint token now=>
    obtain ⟨-,data,record,heq,rfl⟩:=h
    have hadvances:=advances_handleJoinRequest node r.data message source sourceEndpoint token now
    rwa [heq] at hadvances
   | acceptedSent returned=>
    obtain ⟨identity,requestId,-,rfl⟩:=h
    cases returned
    · exact advances_expireProvisionalJoin _ _ _
    · exact .refl _
   | joinConfirm message source now=>
    obtain ⟨-,data,changed,heq,rfl⟩:=h
    have hadvances:=advances_handleJoinConfirm node r.data message source now
    rwa [heq] at hadvances
   | heartbeat message source now returned=>
    obtain ⟨-,data,ack,heq,rfl⟩:=h
    have hadvances:=advances_handleHeartbeat node r.data message source now
    rwa [heq] at hadvances
   | leave message source=>
    obtain ⟨-,data,wasUp,heq,rfl⟩:=h
    have hadvances:=advances_handleLeave node r.data message source
    rwa [heq] at hadvances
   | leaveFinishes=>
    obtain ⟨identity,requestId,data,record,-,heq,rfl⟩:=h
    have hadvances:=advances_finishLeave node r.data identity requestId
    rwa [heq] at hadvances
   | expire | expireEnds | workerEnds=>
    obtain ⟨-,rfl⟩:=h
    exact .refl _
   | expireNext=>
    obtain ⟨identity,requestId,rest,-,rfl⟩:=h
    exact advances_expireProvisionalJoin _ _ _
   | tick now=>
    obtain ⟨-,-,-,rfl⟩:=h
    exact .refl _
   | detect=>
    obtain ⟨now,data,changed,-,heq,rfl⟩:=h
    have hadvances:=advances_detectUnreachableMembers node r.data now r.data.members.entries
    rwa [heq] at hadvances
   | workerFails=>
    obtain ⟨-,-,rfl⟩:=h
    exact .refl _

section

variable {node:Participant} {s:ParticipantState}

lemma advances_applyWireSnapshot (revision:ℕ) (members:List WireMember):
  Advances s.toMemberView (applyWireSnapshot node s revision members).1.toMemberView:=by
 have htaken (current:Members):Advances s.toMemberView
  ⟨if s.members.entries.Perm current.entries then s.viewRevision else s.viewRevision+1,
   current⟩:=by
  by_cases hsame:s.members.entries.Perm current.entries
  · rw [if_pos hsame]
    exact ⟨Nat.le_refl _,fun _=>hsame.map _⟩
  · rw [if_neg hsame]
    exact advances_of_lt (Nat.lt_succ_self _)
 unfold applyWireSnapshot
 repeat' split
 all_goals first | exact .refl _ | exact htaken _

lemma advances_heardFromCoordinator (source:MemberIdentity) (now:ℤ):
  Advances s.toMemberView (heardFromCoordinator node s source now).toMemberView:=by
 have hmarked:Advances s.toMemberView (markCoordinatorReachable
  { s with lastEvidence:=s.lastEvidence.insert source now }).toMemberView:=by
  unfold markCoordinatorReachable
  split
  · split_ifs
    · exact advances_replaceMember _ _
    · exact .refl _
  · exact .refl _
 unfold heardFromCoordinator completeJoinIfUp
 split_ifs <;> exact hmarked

lemma advances_handleControl (record:Notice) (source:MemberIdentity) (now:ℤ):
  Advances s.toMemberView (handleControl node s record source now).toMemberView:=by
 have happly:Advances s.toMemberView
  (applyWireSnapshot node s record.revision record.members).1.toMemberView:=
  advances_applyWireSnapshot _ _
 have hthen {u t:ParticipantState} {applied:Bool}
  (heq:applyWireSnapshot node s record.revision record.members=(u,applied))
  (h:Advances u.toMemberView t.toMemberView):Advances s.toMemberView t.toMemberView:=by
  rw [heq] at happly
  exact happly.trans h
 unfold handleControl
 split
 · unfold handleJoinAccepted
   repeat' split
   · exact hthen ‹_› (.refl _)
   · rename_i u heq
     exact hthen heq (Advances.refl u.toMemberView)
   · exact .refl _
 · unfold handleHeartbeatAck
   repeat' split
   · exact hthen ‹_› (.refl _)
   · rename_i sequence _ _ _ u heq
     exact hthen heq (advances_heardFromCoordinator
      (s := { u with lastHeartbeatAck:=(sequence:ℤ) }) _ _)
   · exact .refl _
 · unfold handleMembershipUpdate
   repeat' split
   · exact hthen ‹_› (.refl _)
   · exact hthen ‹_› (advances_heardFromCoordinator _ _)
   · exact .refl _
 · unfold handleLeaveAck
   split
   · exact happly
   · exact .refl _

lemma advances_setOwnStatus (status:MemberStatus):
  Advances s.toMemberView (setOwnStatus node status s).toMemberView:=by
 unfold setOwnStatus
 repeat' split
 all_goals first | exact .refl _ | exact advances_replaceMember _ _

lemma advances_endLeave : Advances s.toMemberView (endLeave node s).toMemberView:=by
 unfold endLeave
 split_ifs
 · exact .refl _
 · exact advances_setOwnStatus _

lemma participant_advances {event:ParticipantEvent} {s':ParticipantState}
  (h:participantStep node s event s'):Advances s.toMemberView s'.toMemberView:=by
 cases event with
 | start | startReturns | startFails | stop | stopDecides=>
  obtain ⟨-,-,rfl⟩:=h
  exact .refl _
 | join | stopFails=>
  obtain ⟨-,rfl⟩:=h
  exact .refl _
 | submitted | workerFails=>
  cases h
  exact .refl _
 | receive record source now=>
  cases h
  exact advances_handleControl record source now
 | sendHeartbeat=>
  cases h
  unfold sendHeartbeat
  split_ifs <;> exact .refl _
 | detect now=>
  cases h
  unfold detectUnreachableCoordinator
  split
  · exact .refl _
  split
  · exact .refl _
  split_ifs
  · exact .refl _
  · exact advances_replaceMember _ _
 | leave requestId=>
  obtain ⟨-,rfl⟩:=h
  exact advances_setOwnStatus _
 | leaveEnds | stopFinishes=>
  obtain ⟨-,rfl⟩:=h
  exact advances_endLeave

end

lemma advances_runs {σ α:Type} {M:System σ α} {V:σ → MemberView}
  (hstep:∀s a t,M.step s a t → Advances (V s) (V t)) {s t:σ} (h:M.Runs s t):
  Advances (V s) (V t):=by
 induction h with
 | refl=>exact .refl _
 | tail _ hnext ih=>
  obtain ⟨a,ha⟩:=hnext
  exact ih.trans (hstep _ a _ ha)

/-- In what a runtime shows from some moment on, the view revision never falls, two snapshots
 with one revision have the same members, and a section that changes them counts it up. -/
theorem view_revision_counts :
  (∀(node:Coordinator) (r r':CoordinatorRun),(system node).Runs r r' →
   Advances r.data.toMemberView r'.data.toMemberView) ∧
  (∀(node:Coordinator) (r r':CoordinatorRun) (event:Event),(system node).step r event r' →
   ¬(Members.values r.data.members).Perm (Members.values r'.data.members) →
   r.data.viewRevision<r'.data.viewRevision) ∧
  (∀(node:Participant) (s s':ParticipantState),(participantSystem node).Runs s s' →
   Advances s.toMemberView s'.toMemberView) ∧
  ∀(node:Participant) (s s':ParticipantState) (event:ParticipantEvent),
   (participantSystem node).step s event s' →
   ¬(Members.values s.members).Perm (Members.values s'.members) →
   s.viewRevision<s'.viewRevision:=by
 refine ⟨fun node r r' hruns=>?_,fun node r r' event hstep hchanged=>?_,
  fun node s s' hruns=>?_,fun node s s' event hstep hchanged=>?_⟩
 · exact advances_runs (V := fun r=>r.data.toMemberView)
    (fun _ _ _=>coordinator_advances) hruns
 · have hadvances:=coordinator_advances hstep
   exact hadvances.le.lt_of_ne fun heq=>hchanged (hadvances.same heq)
 · exact advances_runs (V := fun s=>s.toMemberView) (fun _ _ _=>participant_advances) hruns
 · have hadvances:=participant_advances hstep
   exact hadvances.le.lt_of_ne fun heq=>hchanged (hadvances.same heq)

theorem view_revision_counts_evicts : ∃r r',(system north).Reachable r ∧
  (system north).step r (.worker (.joinRequest eastJoins east eastEndpoint (toUUID 10) 3)) r' ∧
  south∈r.data.members ∧ south∉r'.data.members ∧ r.data.viewRevision<r'.data.viewRevision:=by
 have hstep:(system north).step southLeft.1
  (.worker (.joinRequest eastJoins east eastEndpoint (toUUID 10) 3)) _:=⟨rfl,_,_,rfl,rfl⟩
 refine ⟨_,_,southLeft.2,hstep,by decide +kernel,by decide +kernel,
  view_revision_counts.2.1 north _ _ _ hstep fun hperm=>?_⟩
 have hidentity:=hperm.map ClusterMember.identity
 revert hidentity
 decide +kernel

end Movie.ClusterViewRevision
