import Movie.ClusterHistory

/-!
# The records a coordinator emits

The records of a section are told after its lock is released, so a record may be told after one with
a newer snapshot. One revision still has one list of members.
-/
namespace Movie.ClusterEmission

open Checked DurableModel Handshake Wire ClusterModel ClusterCoordinator ClusterSections
 ClusterInvariant ClusterHistory Reachability

structure Emission where
 run:CoordinatorRun
 owed:List (List (MemberIdentity×Notice))
 emitted:List (MemberIdentity×Notice)

inductive EmissionEvent where
 | locked (event:Event)
 | tell (returned:Bool)

section

variable (node:Coordinator)

/-- A tell that raises emits nothing; the thread goes on with its next record. -/
def emissionStep (e:Emission):EmissionEvent → Emission → Prop
 | .locked event,e'=>∃run taken,(system node).step e.run event run ∧
  run.sent=e.run.sent++taken ∧
  e'={ e with run:=run,owed:=e.owed++[taken] }
 | .tell returned,e'=>∃before record rest after,
  e.owed=before++(record::rest)::after ∧
  e'={ e with
   owed:=before++rest::after
   emitted:=e.emitted++if returned then [record] else [] }

def emissions : System Emission EmissionEvent where
 init e:=∃now,e=⟨.create node now,[],[]⟩
 step:=emissionStep node

end

section

variable {node:Coordinator} {r r':CoordinatorRun}

lemma step_quiet (h:Sound node r) {event:Event} (hstep:(system node).step r event r')
  (hquiet:r.data.revision=0 → r.broadcasts=[]) (hzero:r'.data.revision=0):
  r'.broadcasts=[] ∧ r'.sent=r.sent:=by
 have hle:=(sound_step h hstep).2.revision
 have hunformed:r.data.revision=0:=Nat.le_zero.1 (hzero▸hle)
 have hnone:=hquiet hunformed
 have hrises:∀ {status:MemberStatus},(setSelfStatus node status r.data).revision≠0:=by
  intro status
  obtain ⟨member,hm⟩:=Option.isSome_iff_exists.1 h.inv.own
  unfold setSelfStatus
  rw [hm]
  exact Nat.succ_ne_zero _
 have hstarted:∀ {worker:Worker},r.worker=worker → worker≠.notStarted → False:=
  fun heq hne=>(h.positive (heq▸hne)).ne' hunformed
 cases event with
 | caller event=>
  cases event with
  | broadcast=>
   obtain ⟨before,exclude,after,heq,-⟩:=hstep
   rw [hnone] at heq
   exact absurd (congrArg List.length heq) (by simp)
  | down identity=>
   obtain ⟨data,changed,hdown,-⟩:=hstep
   exact absurd hunformed (h.phases.running (running_of_down hdown)).ne'
  | announce | depart=>
   obtain ⟨-,rfl⟩:=hstep
   exact absurd hzero hrises
  | start | launch | startFails | stop | stopDecides | stopFinishes=>
   obtain ⟨-,-,rfl⟩:=hstep
   exact ⟨hnone,rfl⟩
  | form | startReturns | stopFails=>
   obtain ⟨-,rfl⟩:=hstep
   exact ⟨hnone,rfl⟩
 | worker event=>
  cases event with
  | joinRequest | joinConfirm | heartbeat | leave | expire | tick | workerEnds=>
   exact (hstarted hstep.1 nofun).elim
  | expireEnds=>exact (hstarted hstep.1 nofun).elim
  | acceptedSent=>
   obtain ⟨_,_,hworker,-⟩:=hstep
   exact (hstarted hworker nofun).elim
  | expireNext | detect=>
   obtain ⟨_,_,_,hworker,-⟩:=hstep
   exact (hstarted hworker nofun).elim
  | leaveFinishes=>
   obtain ⟨_,_,_,_,hworker,-⟩:=hstep
   exact (hstarted hworker nofun).elim
  | workerFails=>exact (hstarted rfl hstep.1).elim

def Before (first second:Notice):Prop:=
 first.revision ≤ second.revision ∧
  (first.revision=second.revision → first.members=second.members)

structure Precedes (record:Notice) (s:CoordinatorState):Prop where
 positive:0<record.revision
 revision:record.revision ≤ s.revision
 members:record.revision=s.revision → record.members=wireMembers s.members

lemma Precedes.later {record:Notice} {s t:CoordinatorState} (h:Precedes record s)
  (hlater:Later s t):Precedes record t:=by
 refine ⟨h.positive,h.revision.trans hlater.revision,fun heq=>?_⟩
 have hsame:record.revision=s.revision:=
  le_antisymm h.revision (heq▸hlater.revision)
 rw [hlater.members (hsame▸heq) (hsame▸h.positive)]
 exact h.members hsame

lemma Precedes.before {record record':Notice} {s:CoordinatorState}
  {target:MemberIdentity} (h:Precedes record s) (hshown:Shown s target record'):
  Before record record':=by
 refine ⟨hshown.revision▸h.revision,fun heq=>?_⟩
 rw [hshown.members]
 exact h.members (heq.trans hshown.revision)

structure Ordered (r:CoordinatorRun):Prop where
 quiet:r.data.revision=0 → r.broadcasts=[]
 precedes:∀entry∈r.sent,Precedes entry.2 r.data
 sorted:r.sent.Pairwise fun first second=>Before first.2 second.2

lemma ordered_step (h:Sound node r) (ho:Ordered r) {event:Event}
  (hstep:(system node).step r event r'):Ordered r':=by
 have hlater:=(sound_step h hstep).2
 obtain ⟨taken,hsent,hshown⟩:=step_sent h hstep
 have hpositive:∀entry∈taken,0<r'.data.revision:=by
  intro entry hmem
  refine Nat.pos_of_ne_zero fun hzero=>?_
  have hnone:=(step_quiet h hstep ho.quiet hzero).2
  rw [hsent] at hnone
  rw [List.append_right_eq_self.1 hnone] at hmem
  cases hmem
 have hold:∀entry∈r.sent,Precedes entry.2 r'.data:=
  fun entry hmem=>(ho.precedes entry hmem).later hlater
 have hnew:∀entry∈taken,Precedes entry.2 r'.data:=fun entry hmem=>
  ⟨(hshown entry hmem).revision▸hpositive entry hmem,(hshown entry hmem).revision.le,
   fun _=>(hshown entry hmem).members⟩
 refine ⟨fun hzero=>(step_quiet h hstep ho.quiet hzero).1,?_,?_⟩
 · intro entry hmem
   rw [hsent] at hmem
   exact (List.mem_append.1 hmem).elim (hold entry) (hnew entry)
 · rw [hsent,List.pairwise_append]
   refine ⟨ho.sorted,?_,?_⟩
   · refine List.pairwise_of_forall_mem_list fun first hfirst second hsecond=>?_
     exact (hnew first hfirst).before (hshown second hsecond)
   · intro first hfirst second hsecond
     exact (hold first hfirst).before (hshown second hsecond)

structure Told (e:Emission):Prop where
 owed:∀records∈e.owed,records ⊆ e.run.sent
 emitted:e.emitted ⊆ e.run.sent

lemma told_step {e e':Emission} (h:Told e) {event:EmissionEvent}
  (hstep:emissionStep node e event e'):Told e':=by
 cases event with
 | locked event=>
  obtain ⟨run,taken,-,hsent,rfl⟩:=hstep
  have hgrows:e.run.sent ⊆ run.sent:=by
   rw [hsent]
   exact List.subset_append_left _ _
  refine ⟨fun records hmem=>?_,List.Subset.trans h.emitted hgrows⟩
  rcases List.mem_append.1 hmem with hmem|hmem
  · exact List.Subset.trans (h.owed records hmem) hgrows
  · rw [List.mem_singleton.1 hmem,hsent]
    exact List.subset_append_right _ _
 | tell returned=>
  obtain ⟨before,record,rest,after,howed,rfl⟩:=hstep
  have hnext:record::rest ⊆ e.run.sent:=by
   refine h.owed _ ?_
   rw [howed]
   exact List.mem_append_right _ List.mem_cons_self
  refine ⟨fun records hmem=>?_,?_⟩
  · rcases List.mem_append.1 hmem with hmem|hmem
    · refine h.owed records ?_
      rw [howed]
      exact List.mem_append_left _ hmem
    · rcases List.mem_cons.1 hmem with rfl|hmem
      · exact List.Subset.trans (List.subset_cons_self _ _) hnext
      · refine h.owed records ?_
        rw [howed]
        exact List.mem_append_right _ (List.mem_cons_of_mem _ hmem)
  · refine List.append_subset.2 ⟨h.emitted,?_⟩
    split
    · exact List.cons_subset.2 ⟨hnext List.mem_cons_self,List.nil_subset _⟩
    · exact List.nil_subset _

lemma reachable_emission {e:Emission} (h:(emissions node).Reachable e):
  Sound node e.run ∧ Ordered e.run ∧ Told e:=by
 refine h.invariant (I := fun e=>Sound node e.run ∧ Ordered e.run ∧ Told e) ?_ ?_
 · rintro e ⟨now,rfl⟩
   exact ⟨sound_create node now,⟨fun _=>rfl,nofun,List.Pairwise.nil⟩,
    ⟨nofun,List.nil_subset _⟩⟩
 · rintro e event e' - ⟨hsound,hordered,htold⟩ hstep
   have htold':=told_step htold hstep
   cases event with
   | locked event=>
    obtain ⟨run,taken,hrun,-,rfl⟩:=hstep
    exact ⟨(sound_step hsound hrun).1,ordered_step hsound hordered hrun,htold'⟩
   | tell returned=>
    obtain ⟨before,record,rest,after,-,rfl⟩:=hstep
    exact ⟨hsound,hordered,htold'⟩

end

/-- One revision has one list of members in everything a coordinator emits. Where two lists
 differ the later snapshot has the greater revision. -/
theorem revision_determines_snapshot (node:Coordinator) (e:Emission)
  (h:(emissions node).Reachable e):
  (∀first∈e.emitted,∀second∈e.emitted,first.2.revision=second.2.revision →
   first.2.members=second.2.members) ∧
  e.emitted ⊆ e.run.sent ∧
  e.run.sent.Pairwise fun first second=>
   first.2.members≠second.2.members → first.2.revision<second.2.revision:=by
 obtain ⟨-,hordered,htold⟩:=reachable_emission h
 refine ⟨?_,htold.emitted,hordered.sorted.imp ?_⟩
 · intro first hfirst second hsecond heq
   exact List.Pairwise.forall_of_forall_of_flip
    (R := fun a b:MemberIdentity×Notice=>
     a.2.revision=b.2.revision → a.2.members=b.2.members)
    (fun _ _ _=>rfl) (hordered.sorted.imp fun hbefore=>hbefore.2)
    (hordered.sorted.imp fun hbefore heq=>(hbefore.2 heq.symm).symm)
    (htold.emitted hfirst) (htold.emitted hsecond) heq
 · intro first second hbefore hne
   exact hbefore.1.lt_of_ne fun heq=>hne (hbefore.2 heq)

/-- The worker has taken the snapshot that shows south as up. -/
def snapshotTaken : { e // (emissions north).Reachable e }:=⟨_,by
 have h₀:(emissions north).Reachable ⟨.create north 0,[],[]⟩:=.start ⟨0,rfl⟩
 have h₁:=(((h₀.next (.locked (.caller .start)) ⟨_,[],⟨rfl,rfl,rfl⟩,rfl,rfl⟩).next
  (.locked (.caller .form)) ⟨_,[],⟨rfl,rfl⟩,rfl,rfl⟩).next
  (.locked (.caller .launch)) ⟨_,[],⟨rfl,rfl,rfl⟩,rfl,rfl⟩).next
  (.locked (.caller .startReturns)) ⟨_,[],⟨rfl,rfl⟩,rfl,rfl⟩
 have h₂:=(h₁.next (.locked (.worker (.joinRequest southJoins south
  southEndpoint (toUUID 5) 1))) ⟨_,_,⟨rfl,_,_,rfl,rfl⟩,rfl,rfl⟩).next
  (.tell true) ⟨[[],[],[],[]],_,[],[],rfl,rfl⟩
 have h₃:=(h₂.next (.locked (.worker (.acceptedSent true))) ⟨_,[],⟨_,_,rfl,rfl⟩,rfl,
  rfl⟩).next (.locked (.worker (.joinConfirm southConfirms south 2)))
  ⟨_,[],⟨rfl,_,_,Prod.mk.eta.symm,rfl⟩,rfl,rfl⟩
 exact h₃.next (.locked (.caller .broadcast)) ⟨_,_,⟨[],_,[],rfl,rfl⟩,rfl,rfl⟩⟩

theorem revision_determines_snapshot_joined : ∃e,(emissions north).Reachable e ∧
  e.emitted.map (fun entry=>entry.2.revision)=[2,3] ∧
  e.run.sent.Pairwise fun first second=>
   first.2.members≠second.2.members → first.2.revision<second.2.revision:=by
 have h:=snapshotTaken.2.next (.tell true) ⟨[[],[],[],[],[],[],[]],_,[],[],rfl,rfl⟩
 exact ⟨_,h,rfl,(revision_determines_snapshot north _ h).2.2⟩

/-- Before the worker tells its snapshot to south, `leave` takes and tells a newer one. -/
theorem stale_snapshot_told_last : ∃e,(emissions north).Reachable e ∧
  ∃accepted first second,e.emitted=[accepted,first,second] ∧
   first.2.members≠second.2.members ∧ second.2.revision<first.2.revision:=by
 have h₁:=((snapshotTaken.2.next (.locked (.caller .stop))
  ⟨_,[],⟨rfl,nofun,rfl⟩,rfl,rfl⟩).next
  (.locked (.caller .stopDecides)) ⟨_,[],⟨rfl,rfl,rfl⟩,rfl,rfl⟩).next
  (.locked (.caller .announce)) ⟨_,[],⟨rfl,rfl⟩,rfl,rfl⟩
 have h₂:=(h₁.next (.locked (.caller .broadcast)) ⟨_,_,⟨[],_,[],rfl,rfl⟩,rfl,
  rfl⟩).next (.tell true)
  ⟨[[],[],[],[],[],[],[],_,[],[],[]],_,[],[],rfl,rfl⟩
 have h₃:=h₂.next (.tell true)
  ⟨[[],[],[],[],[],[],[]],_,[],[[],[],[],[]],rfl,rfl⟩
 exact ⟨_,h₃,_,_,_,rfl,by decide,by decide⟩

end Movie.ClusterEmission
