import Movie.ClusterView
import Mathlib.Logic.Function.Basic

/-!
# Agreement on the membership

One coordinator and any number of participants. A record may reach its target any number of times,
late, out of order or never, and other sources may send anything.
-/
namespace Movie.ClusterAgreement

open Function Checked DurableModel Handshake Wire ClusterModel ClusterCoordinator ClusterSections
 ClusterInvariant ClusterHistory ClusterParticipant ClusterView Reachability

/-- `past` lists the states in which the coordinator's lock was free, the newest first. -/
structure World (ι:Type) where
 coordinator:CoordinatorRun
 past:List CoordinatorState
 participants:ι → ParticipantState

inductive WorldEvent (ι:Type) where
 | coordinator (event:Event)
 | participant (index:ι) (event:ParticipantEvent)

section

variable {ι:Type} [DecidableEq ι] (coordinator:Coordinator) (nodes:ι → Participant)

def worldStep (w:World ι):WorldEvent ι → World ι → Prop
 | .coordinator event,w'=>∃run,(ClusterCoordinator.system coordinator).step w.coordinator
  event run ∧ w'=⟨run,run.data::w.past,w.participants⟩
 | .participant index event,w'=>
  Permitted coordinator (nodes index) w.coordinator.sent event ∧
  ∃s,participantStep (nodes index) (w.participants index) event s ∧
   w'={ w with participants:=update w.participants index s }

def cluster : System (World ι) (WorldEvent ι) where
 init w:=∃now,w.coordinator=.create coordinator now ∧ w.past=[.create coordinator now] ∧
  ∀index,∃now,w.participants index=.create (nodes index) now
 step:=worldStep coordinator nodes

end

section

variable {ι:Type} {coordinator:Coordinator} {nodes:ι → Participant}

structure Agrees (coordinator:Coordinator) (nodes:ι → Participant) (w:World ι):Prop where
 sound:Sound coordinator w.coordinator
 history:History coordinator w.past
 current:∀c∈w.past,Later c w.coordinator.data
 sent:∀entry∈w.coordinator.sent,∃c∈w.past,Shown c entry.1 entry.2
 joined:∀index,Joined coordinator w.past (nodes index) (w.participants index)

lemma joined_create (past:List CoordinatorState) (node:Participant) (now:ℤ):
  Joined coordinator past node (.create node now):=by
 have hm:(ParticipantState.create node now).members.lookup node.identity =
  some ⟨node.identity,node.endpoint,.joining,.reachable⟩:=AList.lookup_insert (s := ∅)
 have hother:∀identity,identity≠node.identity →
  (ParticipantState.create node now).members.lookup identity=none:=
  fun identity hne=>AList.lookup_insert_ne (s := ∅) hne
 refine ⟨nofun,hm▸Option.isSome_some,?_,nofun,fun hne=>absurd rfl hne,?_,nofun⟩
 · intro identity member hfound
   by_cases heq:identity=node.identity
   · subst heq
     cases Option.some.inj (hfound.symm.trans hm)
     rfl
   · exact absurd (hfound.symm.trans (hother identity heq)) nofun
 · refine fun _=>⟨rfl,?_,Or.inr ?_⟩
   · intro identity hsome
     by_contra hne
     rw [hother identity hne] at hsome
     cases hsome
   · intro member hfound
     cases Option.some.inj (hfound.symm.trans hm)
     exact (by decide:¬MemberStatus.joining.Departing)

variable {w:World ι}

lemma Agrees.coordinatorStep (h:Agrees coordinator nodes w) {event:Event} {run:CoordinatorRun}
  (hstep:(ClusterCoordinator.system coordinator).step w.coordinator event run):
  Agrees coordinator nodes ⟨run,run.data::w.past,w.participants⟩:=by
 obtain ⟨hsound,hlater⟩:=sound_step h.sound hstep
 have hcurrent:∀c∈run.data::w.past,Later c run.data:=by
  intro c hc
  rcases List.mem_cons.1 hc with rfl|hc
  · exact .refl _
  · exact (h.current c hc).trans hlater
 refine ⟨hsound,⟨?_,?_⟩,hcurrent,?_,fun index=>
  (h.joined index).of_past (List.subset_cons_self _ _)⟩
 · intro c hc
   rcases List.mem_cons.1 hc with rfl|hc
   · exact hsound.inv
   · exact h.history.inv c hc
 · intro c hc c' hc'
   rcases List.mem_cons.1 hc' with rfl|hc'
   · exact Or.inl (hcurrent c hc)
   · rcases List.mem_cons.1 hc with rfl|hc
     · exact Or.inr (hcurrent c' (List.mem_cons_of_mem _ hc'))
     · exact h.history.linear c hc c' hc'
 · intro entry hentry
   obtain ⟨more,hsent,hshown⟩:=step_sent h.sound hstep
   rw [hsent] at hentry
   rcases List.mem_append.1 hentry with hentry|hentry
   · obtain ⟨c,hc,hshown⟩:=h.sent entry hentry
     exact ⟨c,List.mem_cons_of_mem _ hc,hshown⟩
   · exact ⟨run.data,List.mem_cons_self,hshown entry hentry⟩

variable [DecidableEq ι]

lemma reachable_agrees (h:(cluster coordinator nodes).Reachable w):
  Agrees coordinator nodes w:=by
 refine h.invariant (I := Agrees coordinator nodes) ?_ ?_
 · rintro ⟨run,past,participants⟩ ⟨now,rfl,rfl,hparticipants⟩
   have hsound:=sound_create coordinator now
   refine ⟨hsound,⟨?_,?_⟩,?_,fun _ hentry=>absurd hentry List.not_mem_nil,fun index=>?_⟩
   · intro c hc
     rw [List.mem_singleton.1 hc]
     exact hsound.inv
   · intro c hc c' hc'
     rw [List.mem_singleton.1 hc,List.mem_singleton.1 hc']
     exact Or.inl (.refl _)
   · intro c hc
     rw [List.mem_singleton.1 hc]
     exact .refl _
   · obtain ⟨now',heq⟩:=hparticipants index
     rw [heq]
     exact joined_create _ _ now'
 · intro s event t _ hs hstep
   cases event with
   | coordinator event=>
    obtain ⟨run,hrun,rfl⟩:=hstep
    exact hs.coordinatorStep hrun
   | participant index event=>
    obtain ⟨hpermitted,p,hp,rfl⟩:=hstep
    refine ⟨hs.sound,hs.history,hs.current,hs.sent,fun other=>?_⟩
    by_cases heq:other=index
    · subst heq
      change Joined coordinator s.past (nodes other) (update s.participants other p other)
      rw [update_self]
      exact (hs.joined other).step hs.history hs.sent hpermitted hp
    · change Joined coordinator s.past (nodes other) (update s.participants index p other)
      rw [update_of_ne heq]
      exact hs.joined other

lemma worldStep_revision {w':World ι} {event:WorldEvent ι} (index:ι)
  (hstep:(cluster coordinator nodes).step w event w'):
  (w.participants index).revision≤(w'.participants index).revision:=by
 cases event with
 | coordinator event=>
  obtain ⟨run,-,rfl⟩:=hstep
  exact le_rfl
 | participant moved event=>
  obtain ⟨-,s,hs,rfl⟩:=hstep
  by_cases heq:index=moved
  · subst heq
    change _≤(update w.participants index s index).revision
    rw [update_self]
    exact participantStep_revision hs
  · change _≤(update w.participants moved s index).revision
    rw [update_of_ne heq]

end

structure Agreement {ι:Type} [DecidableEq ι] (coordinator:Coordinator) (nodes:ι → Participant)
  (w:World ι):Prop where
 snapshot:∀index,0<(w.participants index).revision →
  (∃c∈w.past,c.revision=(w.participants index).revision) ∧
  ∀c∈w.past,c.revision=(w.participants index).revision →
   (w.participants index).authoritativeSnapshot=some (wireMembers c.members)
 monotone:∀w' index,(cluster coordinator nodes).Runs w w' →
  (w.participants index).revision≤(w'.participants index).revision
 view:∀index wire,(w.participants index).authoritativeSnapshot=some wire →
  Displays coordinator.selfIdentity (nodes index) (w.participants index)
   (wire.map WireMember.toMember)
 agree:∀first second,(w.participants first).revision=(w.participants second).revision →
  0<(w.participants first).revision →
  ¬(w.participants first).Leaving → ¬(w.participants second).Leaving →
  ∀identity,
   ((w.participants first).members.lookup identity).map
    (fun member=>(member.endpoint,member.status)) =
    ((w.participants second).members.lookup identity).map
     (fun member=>(member.endpoint,member.status))
 readable:∀index,∃shown,membership (nodes index) (w.participants index)=.ok shown

/-- In every reachable state of a cluster, and whatever became of the records on their way, the
 participants of one coordinator agree with it and with each other. -/
theorem membership_agreement {ι:Type} [DecidableEq ι] (coordinator:Coordinator)
  (nodes:ι → Participant) (w:World ι) (h:(cluster coordinator nodes).Reachable w):
  Agreement coordinator nodes w:=by
 have hw:=reachable_agrees h
 constructor
 case snapshot=>
  intro index hpos
  exact (hw.joined index).snapshot_of_pos hw.history hpos
 case monotone=>
  intro w' index hruns
  exact hruns.related (R := fun w w'=>(w.participants index).revision ≤
   (w'.participants index).revision) (fun _=>le_rfl) (fun _ _ _=>le_trans)
   fun _ _ _ hstep=>worldStep_revision index hstep
 case view=>
  intro index wire hwire
  exact (hw.joined index).displays hw.history hwire
 case agree=>
  intro first second heq hpos hfirst hsecond identity
  exact (hw.joined first).agree (hw.joined second) hw.history heq hpos hfirst hsecond identity
 case readable=>
  intro index
  exact (hw.joined index).membership_ok hw.history

lemma team_limits : 0<3 ∧ 3≤256:=by decide

def teamConfig : ClusterConfig:=
 { ordersConfig with
   memberLimit:=3
   memberLimit_pos:=team_limits.1
   memberLimit_le:=team_limits.2 }

def teamNorth : Coordinator:=⟨teamConfig,toUUID 1,ordersPeers⟩

lemma south_ne : "south" ≠ "north" := by decide
lemma east_ne : "east" ≠ "north" := by decide

def team : Bool → Participant
 | false=>⟨teamConfig,south,southEndpoint,south_ne⟩
 | true=>⟨teamConfig,east,eastEndpoint,east_ne⟩

def eastConfirms : JoinConfirm:=
 ⟨"orders", "east",toUUID 7,toUUID 1,toUUID 9,toUUID 10⟩

def wireNorth : WireMember:=⟨"north",toUUID 1, "10.0.0.1",7001,.up,.reachable⟩

def wireSouth (status:MemberStatus):WireMember:=
 ⟨"south",toUUID 2, "10.0.0.2",7002,status,.reachable⟩

def wireEast (status:MemberStatus):WireMember:=
 ⟨"east",toUUID 7, "10.0.0.3",7003,status,.reachable⟩

def teamNotice (target:UUID) (kind:NoticeKind) (revision:ℕ) (members:List WireMember):Notice:=
 ⟨"orders", "north",toUUID 1,target,kind,revision,members⟩

def southConfirmed : { w // (cluster teamNorth team).Reachable w }:=⟨_,by
 have h₀:(cluster teamNorth team).Reachable
  ⟨.create teamNorth 0,[.create teamNorth 0],fun index=>.create (team index) 0⟩:=
  .start ⟨0,rfl,rfl,fun _=>⟨0,rfl⟩⟩
 have h₁:=(((h₀.next (.coordinator (.caller .start)) ⟨_,⟨rfl,rfl,rfl⟩,rfl⟩).next
  (.coordinator (.caller .form)) ⟨_,⟨rfl,rfl⟩,rfl⟩).next
  (.coordinator (.caller .launch)) ⟨_,⟨rfl,rfl,rfl⟩,rfl⟩).next
  (.participant false .start) ⟨trivial,_,⟨rfl,rfl,rfl⟩,rfl⟩
 have h₂:=(h₁.next (.participant false (.join (toUUID 1) (toUUID 4) (toUUID 3)))
  ⟨rfl,_,⟨rfl,rfl⟩,rfl⟩).next (.coordinator (.worker (.joinRequest southJoins south
   southEndpoint (toUUID 5) 1))) ⟨_,⟨rfl,_,_,rfl,rfl⟩,rfl⟩
 have h₃:=h₂.next (.participant false (.receive (teamNotice (toUUID 2)
  (.joinAccepted (toUUID 4) (toUUID 5)) 2 [wireNorth,wireSouth .joining]) ⟨"north",toUUID 1⟩ 1))
  ⟨fun _=>by decide,_,rfl,rfl⟩
 exact (h₃.next (.coordinator (.worker (.acceptedSent true)))
  ⟨_,⟨_,_,rfl,rfl⟩,rfl⟩).next (.coordinator (.worker (.joinConfirm southConfirms south 2)))
  ⟨_,⟨rfl,_,_,Prod.mk.eta.symm,rfl⟩,rfl⟩⟩

theorem membership_agreement_team : ∃w,(cluster teamNorth team).Reachable w ∧
  (w.participants false).revision=5 ∧ (w.participants true).revision=5 ∧
  Agreement teamNorth team w:=by
 have h₁:=(southConfirmed.2.next (.participant true .start)
  ⟨trivial,_,⟨rfl,rfl,rfl⟩,rfl⟩).next
  (.participant true (.join (toUUID 1) (toUUID 9) (toUUID 8))) ⟨rfl,_,⟨rfl,rfl⟩,rfl⟩
 have h₂:=h₁.next (.coordinator (.worker (.joinRequest eastJoins east
  eastEndpoint (toUUID 10) 3))) ⟨_,⟨rfl,_,_,rfl,rfl⟩,rfl⟩
 have h₃:=h₂.next (.participant true (.receive (teamNotice (toUUID 7)
  (.joinAccepted (toUUID 9) (toUUID 10)) 4
  [wireEast .joining,wireNorth,wireSouth .up]) ⟨"north",toUUID 1⟩ 3))
  ⟨fun _=>by decide,_,rfl,rfl⟩
 have h₄:=((h₃.next (.coordinator (.worker (.acceptedSent true)))
  ⟨_,⟨_,_,rfl,rfl⟩,rfl⟩).next (.coordinator (.worker (.joinConfirm eastConfirms
   east 4))) ⟨_,⟨rfl,_,_,rfl,rfl⟩,rfl⟩).next
  (.coordinator (.caller .broadcast)) ⟨_,⟨[],none,[none],rfl,rfl⟩,rfl⟩
 have h₅:=(h₄.next (.participant false (.receive (teamNotice (toUUID 2)
  (.membershipUpdate (toUUID 5)) 5 [wireEast .up,wireNorth,wireSouth .up])
  ⟨"north",toUUID 1⟩ 5)) ⟨fun _=>by decide,_,rfl,rfl⟩).next
  (.participant true (.receive (teamNotice (toUUID 7)
  (.membershipUpdate (toUUID 10)) 5 [wireEast .up,wireNorth,wireSouth .up])
  ⟨"north",toUUID 1⟩ 6)) ⟨fun _=>by decide,_,rfl,rfl⟩
 exact ⟨_,h₅,rfl,rfl,membership_agreement teamNorth team _ h₅⟩

end Movie.ClusterAgreement
