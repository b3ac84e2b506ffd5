import Movie.AssociationReceive
import Mathlib.Data.List.Basic

/-!
# Integrity of the receiving side

The messages received before the first violation of an arbitrary peer are fixed by the records alone
(`conforming`). Whatever the batches, the messages handled are the first ones of them, each once.
-/
namespace Movie.AssociationIntegrity

open Function Wire Serialization AssociationReceive

section

variable {R C:Type} (association:ActiveAssociation) (environment:Environment R C)

def Accepts (sequences:ℕ → ℕ) (pending:Pending R):Prop:=
 Addressed association pending ∧
  pending.message.laneSequence=sequences pending.message.laneId ∧ Routed association pending

instance (sequences:ℕ → ℕ) (pending:Pending R):
  Decidable (Accepts association sequences pending):=
 inferInstanceAs (Decidable (_ ∧ _ ∧ _))

def advance (sequences:ℕ → ℕ) (pending:Pending R):ℕ → ℕ:=
 update sequences pending.message.laneId (sequences pending.message.laneId+1)

def validUsers (sequences:ℕ → ℕ):List (Pending R) → List (Pending R)
 | []=>[]
 | pending::rest=>
  if Accepts association sequences pending then
   pending::validUsers (advance sequences pending) rest
  else []

/-- The user messages up to the first record that is malformed, not allowed on an active
 association, or ends it. -/
def users : List R → List (Pending R)
 | []=>[]
 | record::records=>
  match environment.decode record with
  | .error _=>[]
  | .ok (.userMessage message)=>
   ⟨record,message,environment.channel record⟩::users records
  | .ok (.control frame)=>
   match environment.kind frame with
   | .handled=>if environment.handlerReturns record frame then users records else []
   | .goAway | .invalid _=>[]

/-- The user messages received before the first record that violates the protocol. -/
def conforming (records:List R):List (Pending R):=
 validUsers association (fun _=>0) (users environment records)

def admittedOf (log:List (Handled R)):List (Pending R):=
 log.filterMap fun
  | .admitted pending _=>some pending
  | .rejected ..=>none

def rejectedOf (log:List (Handled R)):List (Pending R):=
 log.filterMap fun
  | .admitted ..=>none
  | .rejected pending _=>some pending

def Justified : Handled R → Prop
 | .admitted pending _=>environment.deserialize pending.record pending.message=.value
 | .rejected pending reason=>
  environment.deserialize pending.record pending.message=.rejected reason

structure Logs (log:List (Handled R)) (taken:List (Pending R)):Prop where
 justified:∀entry∈log,Justified environment entry
 handled:(log.map Handled.pending).Perm taken
 admitted:(admittedOf log).Sublist taken
 rejected:(rejectedOf log).Sublist taken

end

section

variable {R:Type} {association:ActiveAssociation}

variable {sequences:ℕ → ℕ}

lemma le_advance (sequences:ℕ → ℕ) (pending:Pending R) (lane:ℕ):
  sequences lane≤advance sequences pending lane:=by
 unfold advance
 by_cases h:lane=pending.message.laneId
 · subst h
   rw [update_self]
   exact Nat.le_succ _
 · rw [update_of_ne h]

variable {pending:Pending R}

lemma not_accepts_of_advance_le {later:ℕ → ℕ} (haccepts:Accepts association sequences pending)
  (hle:∀lane,advance sequences pending lane≤later lane):
  ¬Accepts association later pending:=by
 intro hagain
 have hlane:=hle pending.message.laneId
 unfold advance at hlane
 rw [update_self,←haccepts.2.1,hagain.2.1] at hlane
 omega

lemma validUsers_cons_of_accepts
  (h:Accepts association sequences pending) (rest:List (Pending R)):
  validUsers association sequences (pending::rest) =
   pending::validUsers association (advance sequences pending) rest:=if_pos h

lemma validUsers_cons_of_not_accepts
  (h:¬Accepts association sequences pending) (rest:List (Pending R)):
  validUsers association sequences (pending::rest)=[]:=if_neg h

lemma validUsers_prefix_self (messages:List (Pending R)) (sequences:ℕ → ℕ):
  validUsers association sequences messages <+:messages:=by
 induction messages generalizing sequences with
 | nil=>exact List.nil_prefix
 | cons pending rest ih=>
  by_cases h:Accepts association sequences pending
  · rw [validUsers_cons_of_accepts h]
    exact (List.prefix_cons_inj pending).mpr (ih _)
  · rw [validUsers_cons_of_not_accepts h]
    exact List.nil_prefix

lemma validUsers_prefix_append (front back:List (Pending R)) (sequences:ℕ → ℕ):
  validUsers association sequences front <+:validUsers association sequences (front++back):=by
 induction front generalizing sequences with
 | nil=>exact List.nil_prefix
 | cons pending rest ih=>
  rw [List.cons_append]
  by_cases h:Accepts association sequences pending
  · rw [validUsers_cons_of_accepts h,validUsers_cons_of_accepts h]
    exact (List.prefix_cons_inj pending).mpr (ih _)
  · rw [validUsers_cons_of_not_accepts h]
    exact List.nil_prefix

lemma validUsers_append_of_eq_self (front back:List (Pending R)) (sequences:ℕ → ℕ)
  (h:validUsers association sequences front=front):
  validUsers association sequences (front++back) =
   front++validUsers association (front.foldl advance sequences) back:=by
 induction front generalizing sequences with
 | nil=>rfl
 | cons pending rest ih=>
  by_cases haccepts:Accepts association sequences pending
  · rw [validUsers_cons_of_accepts haccepts] at h
    rw [List.cons_append,validUsers_cons_of_accepts haccepts,ih _ (List.cons.inj h).2]
    rfl
  · rw [validUsers_cons_of_not_accepts haccepts] at h
    cases h

lemma validUsers_append_eq_self_iff (front back:List (Pending R)) (sequences:ℕ → ℕ):
  validUsers association sequences (front++back)=front++back ↔
   validUsers association sequences front=front ∧
    validUsers association (front.foldl advance sequences) back=back:=by
 induction front generalizing sequences with
 | nil=>exact ⟨fun h=>⟨rfl,h⟩,fun h=>h.2⟩
 | cons pending rest ih=>
  rw [List.cons_append]
  by_cases h:Accepts association sequences pending
  · rw [validUsers_cons_of_accepts h,validUsers_cons_of_accepts h,List.cons_inj_right,
     List.cons_inj_right]
    exact ih _
  · rw [validUsers_cons_of_not_accepts h,validUsers_cons_of_not_accepts h]
    exact ⟨nofun,fun hnil=>absurd hnil.1 nofun⟩

lemma accepts_of_validUsers {rest:List (Pending R)}
  (h:validUsers association sequences (pending::rest)=pending::rest):
  Accepts association sequences pending:=by
 by_contra hnot
 rw [validUsers_cons_of_not_accepts hnot] at h
 cases h

lemma laneSequences_of_prefix_validUsers (lane:ℕ) (messages taken:List (Pending R))
  (sequences:ℕ → ℕ) (h:taken <+:validUsers association sequences messages):
  laneSequences Pending.message lane taken =
   List.range' (sequences lane) (laneSequences Pending.message lane taken).length:=by
 induction messages generalizing sequences taken with
 | nil=>
  rw [List.prefix_nil.mp h]
  rfl
 | cons pending rest ih=>
  cases taken with
  | nil=>rfl
  | cons head taken=>
   by_cases haccepts:Accepts association sequences pending
   · rw [validUsers_cons_of_accepts haccepts,List.cons_prefix_cons] at h
     obtain ⟨rfl,hrest⟩:=h
     have htail:=ih taken (advance sequences head) hrest
     by_cases hlane:head.message.laneId=lane
     · subst hlane
       rw [laneSequences_cons_self,List.length_cons,List.range'_succ,←haccepts.2.1]
       unfold advance at htail
       rw [update_self,←haccepts.2.1] at htail
       exact congrArg _ htail
     · rw [laneSequences_cons_of_ne _ hlane]
       unfold advance at htail
       rw [update_of_ne (Ne.symm hlane)] at htail
       exact htail
   · rw [validUsers_cons_of_not_accepts haccepts] at h
     exact absurd (List.prefix_nil.mp h) (List.cons_ne_nil _ _)

end

variable {failure:Option Failure} {reason:DeserializationReason}

section

variable {R C:Type} {association:ActiveAssociation} {environment:Environment R C}

variable {s s':ReceiveState R} {frames:List (Pending R)} {rejections:List (Handled R)}
 {pending:Pending R}

lemma prepareUserMessage_of_not_accepts (environment:Environment R C)
  (h:¬Accepts association s.inboundSequences pending):
  ∃s' failure,prepareUserMessage association environment s pending=(s',.failed failure) ∧
   s'.inboundSequences=s.inboundSequences ∧ s'.log=s.log:=by
 unfold prepareUserMessage
 by_cases haddressed:Addressed association pending
 · rw [if_neg (not_not.mpr haddressed)]
   by_cases hsequence:
    pending.message.laneSequence=s.inboundSequences pending.message.laneId
   · rw [if_neg (not_not.mpr hsequence),
      if_pos fun hrouted=>h ⟨haddressed,hsequence,hrouted⟩]
     exact ⟨_,_,rfl,rfl,rfl⟩
   · rw [if_pos hsequence]
     exact ⟨_,_,rfl,rfl,rfl⟩
 · rw [if_pos haddressed]
   exact ⟨_,_,rfl,rfl,rfl⟩

lemma prepareUserMessage_of_accepts (h:Accepts association s.inboundSequences pending):
  prepareUserMessage association environment s pending =
   let s':={ s with inboundSequences:=advance s.inboundSequences pending }
  match environment.deserialize pending.record pending.message with
  | .value=>(s',.prepared)
  | .rejected reason=>({ s' with log:=s.log++[.rejected pending reason] },.rejected)
  | .raised=>(s',.failed .raised):=by
 unfold prepareUserMessage
 rw [if_neg (not_not.mpr h.1),if_neg (not_not.mpr h.2.1),if_neg (not_not.mpr h.2.2)]
 rfl

structure Takes (association:ActiveAssociation) (sequences:ℕ → ℕ) (frames:List (Pending R))
  (later:ℕ → ℕ) (failure:Option Failure) (taken:List (Pending R)):Prop where
 front:taken <+:validUsers association sequences frames
 grows:∀lane,sequences lane ≤ later lane
 complete:failure=none → taken=frames ∧ later=frames.foldl advance sequences
 stuck:failure≠none → validUsers association later frames=[]

structure Prepares (association:ActiveAssociation) (environment:Environment R C)
  (s:ReceiveState R) (frames:List (Pending R)) (s':ReceiveState R)
  (prepared:List (Pending R)) (failure:Option Failure) (taken:List (Pending R))
  (rejections:List (Handled R)):Prop extends
  Takes association s.inboundSequences frames s'.inboundSequences failure taken where
 justified:∀entry∈rejections,Justified environment entry
 values:∀pending∈prepared,
  environment.deserialize pending.record pending.message=.value
 log_eq:s'.log=s.log++rejections
 admitted:admittedOf rejections=[]
 handled:(rejections.map Handled.pending++prepared).Perm taken
 rejected:(rejectedOf rejections).Sublist taken
 prepared_sublist:prepared.Sublist taken

lemma Takes.cons {sequences later:ℕ → ℕ} {taken:List (Pending R)}
  (haccepts:Accepts association sequences pending)
  (h:Takes association (advance sequences pending) frames later failure taken):
  Takes association sequences (pending::frames) later failure (pending::taken) where
 front:=by
  rw [validUsers_cons_of_accepts haccepts]
  exact (List.prefix_cons_inj pending).mpr h.front
 grows lane:=(le_advance _ pending lane).trans (h.grows lane)
 complete hnone:=⟨congrArg _ (h.complete hnone).1,(h.complete hnone).2⟩
 stuck _:=validUsers_cons_of_not_accepts (not_accepts_of_advance_le haccepts h.grows) frames

lemma Prepares.cons_prepared {prepared taken:List (Pending R)}
  (haccepts:Accepts association s.inboundSequences pending)
  (hvalue:environment.deserialize pending.record pending.message=.value)
  (h:Prepares association environment
   { s with inboundSequences:=advance s.inboundSequences pending } frames s' prepared failure
   taken rejections):
  Prepares association environment s (pending::frames) s' (pending::prepared) failure
   (pending::taken) rejections where
 justified:=h.justified
 values:=List.forall_mem_cons.mpr ⟨hvalue,h.values⟩
 log_eq:=h.log_eq
 admitted:=h.admitted
 handled:=List.perm_middle.trans (h.handled.cons pending)
 rejected:=h.rejected.cons pending
 prepared_sublist:=h.prepared_sublist.cons_cons pending
 toTakes:=h.toTakes.cons haccepts

lemma Prepares.cons_rejected {prepared taken:List (Pending R)}
  (haccepts:Accepts association s.inboundSequences pending)
  (hrejected:environment.deserialize pending.record pending.message=.rejected reason)
  (h:Prepares association environment
   { s with
     inboundSequences:=advance s.inboundSequences pending
     log:=s.log++[.rejected pending reason] } frames s' prepared failure
   taken rejections):Prepares association environment s (pending::frames) s' prepared failure
   (pending::taken) (.rejected pending reason::rejections) where
 justified:=List.forall_mem_cons.mpr ⟨hrejected,h.justified⟩
 values:=h.values
 log_eq:=by rw [h.log_eq,List.append_assoc,List.singleton_append]
 admitted:=h.admitted
 handled:=h.handled.cons pending
 rejected:=h.rejected.cons_cons pending
 prepared_sublist:=h.prepared_sublist.cons pending
 toTakes:=h.toTakes.cons haccepts

lemma Prepares.fails {failure:Failure} (hlog:s'.log=s.log)
  (hgrows:∀lane,s.inboundSequences lane ≤ s'.inboundSequences lane)
  (hstuck:¬Accepts association s'.inboundSequences pending):
  Prepares association environment s (pending::frames) s' [] (some failure) [] [] where
 justified:=nofun
 values:=nofun
 front:=List.nil_prefix
 log_eq:=hlog.trans (List.append_nil _).symm
 admitted:=rfl
 handled:=.nil
 rejected:=.slnil
 prepared_sublist:=.slnil
 grows:=hgrows
 complete:=nofun
 stuck _:=validUsers_cons_of_not_accepts hstuck frames

lemma prepareAll_prepares (association:ActiveAssociation) (environment:Environment R C)
  (frames:List (Pending R)) (s:ReceiveState R):
  ∃taken rejections,Prepares association environment s frames
   (prepareAll association environment s frames).1
   (prepareAll association environment s frames).2.1
   (prepareAll association environment s frames).2.2 taken rejections:=by
 induction frames generalizing s with
 | nil=>
  exact ⟨[],[],⟨List.nil_prefix,fun _=>Nat.le_refl _,fun _=>⟨rfl,rfl⟩,fun h=>absurd rfl h⟩,
   nofun,nofun,(List.append_nil _).symm,rfl,.nil,.slnil,.slnil⟩
 | cons pending rest ih=>
  unfold prepareAll
  by_cases haccepts:Accepts association s.inboundSequences pending
  · rw [prepareUserMessage_of_accepts haccepts]
    cases hdeserialize:environment.deserialize pending.record pending.message with
    | value=>
     obtain ⟨taken,rejections,h⟩:=
      ih { s with inboundSequences:=advance s.inboundSequences pending }
     exact ⟨pending::taken,rejections,h.cons_prepared haccepts hdeserialize⟩
    | rejected reason=>
     obtain ⟨taken,rejections,h⟩:=ih
      { s with
        inboundSequences:=advance s.inboundSequences pending
        log:=s.log++[.rejected pending reason] }
     exact ⟨pending::taken,.rejected pending reason::rejections,
      h.cons_rejected haccepts hdeserialize⟩
    | raised=>
     -- The number is used up although the message was not handled.
     exact ⟨[],[],Prepares.fails rfl (le_advance _ pending)
      (not_accepts_of_advance_le haccepts fun _=>Nat.le_refl _)⟩
  · obtain ⟨s₁,failure,heq,hsequences,hlog⟩:=
     prepareUserMessage_of_not_accepts environment haccepts
    rw [heq]
    refine ⟨[],[],Prepares.fails hlog (fun lane=>?_) ?_⟩
    · exact Nat.le_of_eq (congrFun hsequences lane).symm
    · change ¬Accepts association s₁.inboundSequences pending
      rw [hsequences]
      exact haccepts

end

section

variable {R C:Type} {association:ActiveAssociation} {environment:Environment R C}

lemma admittedOf_append (front back:List (Handled R)):
  admittedOf (front++back)=admittedOf front++admittedOf back:=List.filterMap_append

lemma rejectedOf_append (front back:List (Handled R)):
  rejectedOf (front++back)=rejectedOf front++rejectedOf back:=List.filterMap_append

lemma admittedOf_of_rejectedOf_eq_nil {log:List (Handled R)} (h:rejectedOf log=[]):
  admittedOf log=log.map Handled.pending:=by
 induction log with
 | nil=>rfl
 | cons entry rest ih=>
  cases entry with
  | admitted pending result=>exact congrArg (pending::·) (ih h)
  | rejected pending reason=>cases h

lemma Logs.map_pending_eq {log:List (Handled R)} {taken:List (Pending R)}
  (h:Logs environment log taken) (hnone:rejectedOf log=[]):
  log.map Handled.pending=taken:=by
 have hadmitted:=h.admitted
 rw [admittedOf_of_rejectedOf_eq_nil hnone] at hadmitted
 exact hadmitted.eq_of_length h.handled.length_eq

lemma Prepares.logs {s s':ReceiveState R} {frames prepared taken done:List (Pending R)}
  {rejections:List (Handled R)}
  (h:Prepares association environment s frames s' prepared failure taken rejections)
  (hdone:Logs environment s.log done):
  Logs environment (admitPreparedUserMessages environment s' prepared).log (done++taken):=by
 let admissions:List (Handled R):=prepared.map fun pending=>
  .admitted pending (environment.admitRemoteMessage pending.record pending.message)
 have hpending:admissions.map Handled.pending=prepared:=
  (List.map_map ..).trans (List.map_id _)
 have hadmitted:admittedOf admissions=prepared:=
  (List.filterMap_map ..).trans List.filterMap_some
 have hrejected:rejectedOf admissions=[]:=
  (List.filterMap_map ..).trans (List.filterMap_none prepared)
 have hlog:(admitPreparedUserMessages environment s' prepared).log =
  s.log++(rejections++admissions):=by
  rw [←List.append_assoc,←h.log_eq]
  rfl
 rw [hlog]
 constructor
 · intro entry hentry
   rcases List.mem_append.mp hentry with hentry|hentry
   · exact hdone.justified entry hentry
   · rcases List.mem_append.mp hentry with hentry|hentry
     · exact h.justified entry hentry
     · obtain ⟨pending,hpending,rfl⟩:=List.mem_map.mp hentry
       exact h.values pending hpending
 · rw [List.map_append,List.map_append,hpending]
   exact hdone.handled.append h.handled
 · rw [admittedOf_append,admittedOf_append,h.admitted,hadmitted]
   exact hdone.admitted.append h.prepared_sublist
 · rw [rejectedOf_append,rejectedOf_append,hrejected,List.append_nil]
   exact hdone.rejected.append h.rejected

structure Flushes (association:ActiveAssociation) (environment:Environment R C)
  (s:ReceiveState R) (pending:List (Pending R)) (s':ReceiveState R)
  (pending':List (Pending R)) (failure:Option Failure) (taken:List (Pending R)):
  Prop where
 front:taken <+:validUsers association s.inboundSequences pending
 logs:∀done,Logs environment s.log done → Logs environment s'.log (done++taken)
 complete:failure=none →
  pending'=[] ∧ taken=pending ∧
   s'.inboundSequences=pending.foldl advance s.inboundSequences
 stuck:failure≠none → validUsers association s'.inboundSequences pending'=[]

lemma Flushes.self {s s':ReceiveState R} {pending pending':List (Pending R)}
  (h:Flushes association environment s pending s' pending' failure pending):
  validUsers association s.inboundSequences pending=pending:=
 (h.front.eq_of_length_le (validUsers_prefix_self pending _).length_le).symm

lemma flushUsers_flushes (association:ActiveAssociation) (environment:Environment R C)
  (s:ReceiveState R) (pending:List (Pending R)):
  ∃taken,Flushes association environment s pending (flushUsers association environment s pending).1
   (flushUsers association environment s pending).2.1
   (flushUsers association environment s pending).2.2 taken:=by
 cases pending with
 | nil=>
  refine ⟨[],List.nil_prefix,fun done hdone=>?_,fun _=>⟨rfl,rfl,rfl⟩,
   fun h=>absurd rfl h⟩
  rw [List.append_nil]
  exact hdone
 | cons head rest=>
  obtain ⟨taken,rejections,h⟩:=
   prepareAll_prepares association environment (head::rest) s
  rcases hprepare:prepareAll association environment s (head::rest) with
   ⟨s₁,prepared,_ | failure⟩
  · rw [hprepare] at h
    have hhandle:handleUserMessages association environment s (head::rest) =
     (admitPreparedUserMessages environment s₁ prepared,none):=by
     rw [handleUserMessages,hprepare]
    rw [flushUsers_of_returns association environment hhandle]
    exact ⟨taken,h.front,fun _ hdone=>h.logs hdone,
     fun _=>⟨rfl,h.complete rfl⟩,fun hsome=>absurd rfl hsome⟩
  · rw [hprepare] at h
    have hhandle:handleUserMessages association environment s (head::rest) =
     (admitPreparedUserMessages environment s₁ prepared,some failure):=by
     rw [handleUserMessages,hprepare]
    rw [flushUsers_of_fails association environment hhandle]
    exact ⟨taken,h.front,fun _ hdone=>h.logs hdone,
     fun hnone=>absurd hnone (Option.some_ne_none failure),
     fun _=>h.stuck (Option.some_ne_none failure)⟩

end

section

variable {R C:Type} {association:ActiveAssociation} {environment:Environment R C}

structure Receives (association:ActiveAssociation) (environment:Environment R C)
  (s:ReceiveState R) (pending:List (Pending R)) (records:List R)
  (s':ReceiveState R) (pending':List (Pending R)) (outcome:Outcome)
  (taken:List (Pending R)):Prop where
 logs:∀done,Logs environment s.log done → Logs environment s'.log (done++taken)
 front:∀later more,more <+:validUsers association s'.inboundSequences pending' →
  taken++more <+:validUsers association s.inboundSequences
   (pending++users environment (records++later))
 complete:outcome=.continues → ∀later,
  validUsers association s.inboundSequences (pending++users environment (records++later)) =
   taken++validUsers association s'.inboundSequences (pending'++users environment later)

lemma Flushes.receives_stop {s s':ReceiveState R} {pending pending' taken:List (Pending R)}
  {outcome:Outcome} {records:List R}
  (h:Flushes association environment s pending s' pending' failure taken)
  (houtcome:outcome≠.continues):
  Receives association environment s pending records s' pending' outcome taken where
 logs:=h.logs
 front later more hmore:=by
  have hnil:more=[]:=by
   by_cases hfailure:failure=none
   · rw [(h.complete hfailure).1] at hmore
     exact List.prefix_nil.mp hmore
   · rw [h.stuck hfailure] at hmore
     exact List.prefix_nil.mp hmore
  rw [hnil,List.append_nil]
  exact h.front.trans (validUsers_prefix_append _ _ _)
 complete hcontinues:=absurd hcontinues houtcome

lemma Flushes.receives_next {s s₁ s':ReceiveState R}
  {pending pending₁ pending' taken rest:List (Pending R)}
  {outcome:Outcome} {record:R} {records:List R}
  (h:Flushes association environment s pending s₁ pending₁ none taken)
  (hskip:∀later,users environment (record::later)=users environment later)
  (hrest:Receives association environment s₁ pending₁ records s' pending' outcome rest):
  Receives association environment s pending (record::records) s' pending' outcome
   (taken++rest):=by
 obtain ⟨rfl,rfl,hsequences⟩:=h.complete rfl
 have hsplit (later:List R):validUsers association s.inboundSequences
  (taken++users environment (record::records++later)) =
   taken++validUsers association s₁.inboundSequences
    (users environment (records++later)):=by
  rw [validUsers_append_of_eq_self _ _ _ h.self,←hsequences,List.cons_append,hskip]
 constructor
 · intro done hdone
   rw [←List.append_assoc]
   exact hrest.logs _ (h.logs _ hdone)
 · intro later more hmore
   rw [hsplit,List.append_assoc]
   exact (List.prefix_append_right_inj taken).mpr (hrest.front later more hmore)
 · intro hcontinues later
   rw [hsplit,List.append_assoc]
   exact congrArg _ (hrest.complete hcontinues later)

lemma receiveRecords_receives (association:ActiveAssociation)
  (environment:Environment R C) (records:List R) (s:ReceiveState R)
  (pending:List (Pending R)):∃taken,Receives association environment s pending records
   (receiveRecords association environment s pending records).1
   (receiveRecords association environment s pending records).2.1
   (receiveRecords association environment s pending records).2.2 taken:=by
 induction records generalizing s pending with
 | nil=>
  refine ⟨[],fun done hdone=>?_,fun later more hmore=>?_,fun _ later=>rfl⟩
  · rw [List.append_nil]
    exact hdone
  · exact hmore.trans (validUsers_prefix_append _ _ _)
 | cons record records ih=>
  unfold receiveRecords
  cases hdecode:environment.decode record with
  | error error=>
   refine ⟨[],fun done hdone=>?_,fun later more hmore=>?_,nofun⟩
   · rw [List.append_nil]
     exact hdone
   · exact hmore.trans (validUsers_prefix_append _ _ _)
  | ok frame=>
   cases frame with
   | userMessage message=>
    obtain ⟨taken,h⟩:=ih s (pending++[⟨record,message,environment.channel record⟩])
    have husers (later:List R):
     pending++users environment (record::records++later) =
      pending++[⟨record,message,environment.channel record⟩] ++
       users environment (records++later):=by
     rw [List.append_assoc,List.cons_append,users,hdecode]
     rfl
    refine ⟨taken,h.logs,fun later more hmore=>?_,fun hcontinues later=>?_⟩
    · rw [husers]
      exact h.front later more hmore
    · rw [husers]
      exact h.complete hcontinues later
   | control frame=>
    obtain ⟨taken,h⟩:=flushUsers_flushes association environment s pending
    rcases hflush:flushUsers association environment s pending with
     ⟨s₁,pending₁,_ | failure⟩
    · rw [hflush] at h
      dsimp only
      cases hkind:environment.kind frame with
      | goAway | invalid typeName=>exact ⟨taken,h.receives_stop nofun⟩
      | handled=>
       by_cases hreturns:environment.handlerReturns record frame
       · obtain ⟨rest,hrest⟩:=ih s₁ pending₁
         rw [if_pos hreturns]
         refine ⟨taken++rest,h.receives_next (fun later=>?_) hrest⟩
         rw [users,hdecode]
         dsimp only
         rw [hkind]
         exact if_pos hreturns
       · rw [if_neg hreturns]
         exact ⟨taken,h.receives_stop nofun⟩
    · rw [hflush] at h
      exact ⟨taken,h.receives_stop nofun⟩

lemma receiveBatch_receives (association:ActiveAssociation) (environment:Environment R C)
  (s:ReceiveState R) (records:List R):∃taken,Receives association environment s [] records
   (receiveBatch association environment s records).1 []
   (receiveBatch association environment s records).2 taken:=by
 obtain ⟨taken,h⟩:=receiveRecords_receives association environment records s []
 unfold receiveBatch
 rcases hreceive:receiveRecords association environment s [] records with
  ⟨s₁,pending,outcome⟩
 rw [hreceive] at h
 obtain ⟨flushed,hflushed⟩:=flushUsers_flushes association environment s₁ pending
 dsimp only
 rcases hflush:flushUsers association environment s₁ pending with ⟨s₂,pending₂,failure⟩
 rw [hflush] at hflushed
 have hlogs (done:List (Pending R)) (hdone:Logs environment s.log done):
  Logs environment s₂.log (done++(taken++flushed)):=by
  rw [←List.append_assoc]
  exact hflushed.logs _ (h.logs _ hdone)
 have hfront (later:List R) (more:List (Pending R)) (hmore:more <+:[]):
  taken++flushed++more <+:validUsers association s.inboundSequences
   ([]++users environment (records++later)):=by
  rw [List.prefix_nil.mp hmore,List.append_nil]
  exact h.front later flushed hflushed.front
 cases failure with
 | some failure=>exact ⟨taken++flushed,hlogs,hfront,nofun⟩
 | none=>
  obtain ⟨-,rfl,hsequences⟩:=hflushed.complete rfl
  refine ⟨taken++flushed,hlogs,hfront,fun hcontinues later=>?_⟩
  have hcomplete:=h.complete hcontinues later
  rw [validUsers_append_of_eq_self _ _ _ hflushed.self,←hsequences,
   ← List.append_assoc] at hcomplete
  exact hcomplete

lemma activeLoop_logs (association:ActiveAssociation) (environment:Environment R C)
  (batches:List (List R)) (s:ReceiveState R):
  ∃taken,taken <+:validUsers association s.inboundSequences
   (users environment batches.flatten) ∧
   (∀done,Logs environment s.log done →
    Logs environment (activeLoop association environment s batches).1.log (done++taken)) ∧
   ((activeLoop association environment s batches).2=.continues →
    validUsers association s.inboundSequences (users environment batches.flatten)=taken):=by
 induction batches generalizing s with
 | nil=>
  refine ⟨[],List.nil_prefix,fun done hdone=>?_,fun _=>rfl⟩
  rw [List.append_nil]
  exact hdone
 | cons records batches ih=>
  obtain ⟨taken,h⟩:=receiveBatch_receives association environment s records
  unfold activeLoop
  rw [List.flatten_cons]
  have hstop:taken <+:validUsers association s.inboundSequences
   (users environment (records++batches.flatten)):=by
   have hfront:=h.front batches.flatten [] List.nil_prefix
   rwa [List.append_nil,List.nil_append] at hfront
  rcases hbatch:receiveBatch association environment s records with ⟨s₁,outcome⟩
  rw [hbatch] at h
  cases outcome with
  | continues=>
   obtain ⟨rest,hrest,hlogs,hall⟩:=ih s₁
   have hcomplete:=h.complete rfl batches.flatten
   rw [List.nil_append,List.nil_append] at hcomplete
   refine ⟨taken++rest,?_,fun done hdone=>?_,fun hcontinues=>?_⟩
   · rw [hcomplete]
     exact (List.prefix_append_right_inj taken).mpr hrest
   · rw [←List.append_assoc]
     exact hlogs _ (h.logs _ hdone)
   · rw [hcomplete,hall hcontinues]
  | returned | raised failure=>exact ⟨taken,hstop,h.logs,nofun⟩

/-- Whatever a peer sends, the messages handled are the first ones before the first violation,
 each once, numbered 0, 1, … on each lane. Admissions keep the order of receipt, and so do
 rejections. -/
theorem receiver_integrity (association:ActiveAssociation) (environment:Environment R C)
  (batches:List (List R)):
  let log:=(activeLoop association environment (.create R) batches).1.log
 (∀entry∈log,Justified environment entry) ∧
 (∃taken,taken <+:conforming association environment batches.flatten ∧
  (log.map Handled.pending).Perm taken ∧ (admittedOf log).Sublist taken ∧
  (rejectedOf log).Sublist taken) ∧
 ∀lane,∃k,
  (laneSequences Pending.message lane (log.map Handled.pending)).Perm (List.range k) ∧
  (laneSequences Pending.message lane (admittedOf log)).Sublist (List.range k) ∧
  (laneSequences Pending.message lane (rejectedOf log)).Sublist (List.range k):=by
 intro log
 obtain ⟨taken,hfront,hlogs,-⟩:=activeLoop_logs association environment batches (.create R)
 obtain ⟨hjustified,hhandled,hadmitted,hrejected⟩:=hlogs [] ⟨nofun,.nil,.slnil,.slnil⟩
 rw [List.nil_append] at hhandled hadmitted hrejected
 refine ⟨hjustified,⟨taken,hfront,hhandled,hadmitted,hrejected⟩,fun lane=>?_⟩
 have hsequences:=laneSequences_of_prefix_validUsers lane _ taken _ hfront
 have hrange:List.range (laneSequences Pending.message lane taken).length =
  laneSequences Pending.message lane taken:=by
  rw [List.range_eq_range']
  exact hsequences.symm
 refine ⟨(laneSequences Pending.message lane taken).length,?_,?_,?_⟩
 all_goals rw [hrange]
 · exact (hhandled.filter _).map _
 · exact (hadmitted.filter _).map _
 · exact (hrejected.filter _).map _

end

section

variable {R C:Type} {association:ActiveAssociation} {environment:Environment R C}

lemma flushUsers_overtakes {s:ReceiveState R} {first second:Pending R}
  (hfirst:Accepts association s.inboundSequences first)
  (hsecond:Accepts association (advance s.inboundSequences first) second)
  (hread:environment.deserialize first.record first.message=.value)
  (hunread:environment.deserialize second.record second.message=.rejected reason):
  ∃s',flushUsers association environment s [first,second]=(s',[],none) ∧
   s'.log=s.log++[.rejected second reason,
    .admitted first (environment.admitRemoteMessage first.record first.message)]:=by
 have hprepare:prepareAll association environment s [first,second] =
  ({ s with
   inboundSequences:=advance (advance s.inboundSequences first) second
   log:=s.log++[.rejected second reason] },[first],none):=by
  unfold prepareAll
  rw [prepareUserMessage_of_accepts hfirst,hread]
  dsimp only
  unfold prepareAll
  rw [prepareUserMessage_of_accepts hsecond,hunread]
  rfl
 have hhandle:handleUserMessages association environment s [first,second] =
  (admitPreparedUserMessages environment
   { s with
     inboundSequences:=advance (advance s.inboundSequences first) second
     log:=s.log++[.rejected second reason] } [first],none):=by
  rw [handleUserMessages,hprepare]
 exact ⟨_,flushUsers_of_returns association environment hhandle,List.append_assoc ..⟩

lemma activeLoop_overtakes {first second:R} {firstMessage secondMessage:UserMessage}
  (hfirst:environment.decode first=.ok (.userMessage firstMessage))
  (hsecond:environment.decode second=.ok (.userMessage secondMessage))
  (hvalid:conforming association environment [first,second] =
   users environment [first,second]) (hread:environment.deserialize first firstMessage=.value)
  (hunread:environment.deserialize second secondMessage=.rejected reason):
  (activeLoop association environment (.create R) [[first,second]]).1.log =
   [.rejected ⟨second,secondMessage,environment.channel second⟩ reason,
    .admitted ⟨first,firstMessage,environment.channel first⟩
     (environment.admitRemoteMessage first firstMessage)]:=by
 have husers:users environment [first,second] =
  [⟨first,firstMessage,environment.channel first⟩,
   ⟨second,secondMessage,environment.channel second⟩]:=by
  rw [users,hfirst,users,hsecond]
  rfl
 have hrecords:receiveRecords association environment (.create R) [] [first,second] =
  (.create R,[⟨first,firstMessage,environment.channel first⟩,
   ⟨second,secondMessage,environment.channel second⟩],.continues):=by
  rw [receiveRecords,hfirst]
  dsimp only
  rw [receiveRecords,hsecond]
  rfl
 unfold conforming at hvalid
 rw [husers] at hvalid
 have hboth:=(validUsers_append_eq_self_iff [_] [_] _).mp hvalid
 have haccepts:Accepts association (ReceiveState.create R).inboundSequences
  ⟨first,firstMessage,environment.channel first⟩:=accepts_of_validUsers hboth.1
 obtain ⟨s',hflush,hlog⟩:=
  flushUsers_overtakes haccepts (accepts_of_validUsers hboth.2) hread hunread
 have hbatch:receiveBatch association environment (.create R) [first,second] =
  (s',.continues):=by
  rw [receiveBatch,hrecords]
  dsimp only
  rw [hflush]
 rw [activeLoop,hbatch]
 exact hlog

end

def pairAssociation : ActiveAssociation where
 associationUid:=toUUID 1
 laneCount:=1
 peerIncarnationUid:=toUUID 2
 incarnationUid:=toUUID 3
 receiveRoutes id:=if id=7 then some ["greeting"] else none

def greeting (sequence:ℕ) (payload:List UInt8):UserMessage where
 associationUid:=toUUID 1
 laneId:=0
 laneSequence:=sequence
 senderIncarnationUid:=toUUID 2
 recipientIncarnationUid:=toUUID 3
 recipientActorUid:=toUUID 4
 serializerId:=7
 manifest:= "greeting"
 payload:=payload
 correlationId:=0

def emptyUnreadable : Environment UserMessage Unit where
 decode message:=.ok (.userMessage message)
 channel message:=⟨.deliveryLane,message.laneId⟩
 deserialize _ message:=
  if message.payload=[] then .rejected .malformedPayload else .value
 admitRemoteMessage _ _:=.accepted
 kind _:=.handled
 handlerReturns _ _:=true

/-- Within one flush a rejection overtakes the admission of an earlier message of its lane:
 message 1 is rejected while message 0 waits to be admitted. -/
theorem rejection_overtakes_admission :
  let log:=(activeLoop pairAssociation emptyUnreadable (.create UserMessage)
  [[greeting 0 [65],greeting 1 []]]).1.log
 log=[.rejected ⟨greeting 1 [],greeting 1 [],⟨.deliveryLane,0⟩⟩ .malformedPayload,
  .admitted ⟨greeting 0 [65],greeting 0 [65],⟨.deliveryLane,0⟩⟩ .accepted] ∧
  ¬∃k,laneSequences Pending.message 0 (log.map Handled.pending)=List.range k:=by
 intro log
 have hlog:log =
  [.rejected ⟨greeting 1 [],greeting 1 [],⟨.deliveryLane,0⟩⟩ .malformedPayload,
   .admitted ⟨greeting 0 [65],greeting 0 [65],⟨.deliveryLane,0⟩⟩ .accepted]:=by
  rfl
 refine ⟨hlog,?_⟩
 rw [hlog]
 rintro ⟨k,hk⟩
 change [1,0]=List.range k at hk
 have hsorted:(List.range k).Pairwise (·<·):=List.pairwise_lt_range
 rw [←hk] at hsorted
 exact absurd hsorted (by decide)

end Movie.AssociationIntegrity
