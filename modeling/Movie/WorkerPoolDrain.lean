import Movie.Tally
import Movie.WorkerPoolControl
import Mathlib.Algebra.Order.BigOperators.Group.Finset
import Mathlib.Tactic.Abel

/-!
# What becomes of the tasks of a worker pool

Every published task is in exactly one place: in a queue, with a worker, finished, or abandoned by
`stop`. Once `STOPPING` is set nothing is published, and a worker that takes a task scans all queues
again, so the pool at that moment decides whether a task is abandoned.
-/
namespace Movie.WorkerPoolDrain

open Function Reachability Tally WorkerPool WorkerPoolControl

variable {config:PoolConfig} {r r':Pool config} {index:Fin config.workers}

lemma exists_slot (start:ℕ) (index:Fin config.workers):
  ∃offset<config.workers,config.slot start offset=index:=by
 have hpos:=config.workers_pos
 have hindex:=index.isLt
 refine ⟨(index+(config.workers - start % config.workers)) % config.workers,
  Nat.mod_lt _ hpos,Fin.ext ?_⟩
 change (start+_ % _) % _=_
 have hstart:start % config.workers<config.workers:=Nat.mod_lt _ hpos
 rw [Nat.add_mod,Nat.mod_mod,←Nat.add_mod,Nat.add_mod]
 have hsum:(start % config.workers+(index+(config.workers - start % config.workers)) %
  config.workers) % config.workers=(index+config.workers) % config.workers:=by
  rw [Nat.add_mod_mod]
  congr 1
  omega
 rw [hsum,Nat.add_mod_right,Nat.mod_eq_of_lt hindex]

variable {worker:Worker} {queue:WorkQueue}

section

def contents (queue:WorkQueue):Multiset Task:=queue.tasks+queue.systemTasks

def held : Worker → Multiset Task
 | .counting task | .running task=>{task}
 | _=>0

def places (r:Pool config):Multiset Task:=
 (∑ index,contents (r.queues index))+(∑ index,held (r.workers index))+r.finished +
  r.abandoned

def uncounted : Worker → ℕ
 | .counting _=>1
 | _=>0

def systemTotal (r:Pool config):ℕ:=
 (∑ index,(r.queues index).systemTasks.length)+∑ index,uncounted (r.workers index)

structure Rests (r r':Pool config):Prop where
 places:places r'=places r
 calls:∀task,r'.calls task=.returned ↔ r.calls task=.returned
 total:systemTotal r'=systemTotal r
 count:r'.systemCount=r.systemCount
 available:r'.systemAvailable=r.systemAvailable

lemma places_setWorker (hheld:held worker=held (r.workers index)):
  places (r.setWorker index worker)=places r:=by
 unfold places Pool.setWorker
 rw [sum_update_same held r.workers hheld]

lemma rests_setWorker (hheld:held worker=held (r.workers index))
  (huncounted:uncounted worker=uncounted (r.workers index)):
  Rests r (r.setWorker index worker):=by
 refine ⟨places_setWorker hheld,fun _=>Iff.rfl,?_,rfl,rfl⟩
 unfold systemTotal Pool.setWorker
 rw [sum_update_same uncounted r.workers huncounted]

lemma rests_setQueue (htasks:queue.tasks=(r.queues index).tasks)
  (hsystem:queue.systemTasks=(r.queues index).systemTasks):
  Rests r (r.setQueue index queue):=by
 have hcontents:contents queue=contents (r.queues index):=by
  unfold contents
  rw [htasks,hsystem]
 refine ⟨?_,fun _=>Iff.rfl,?_,rfl,rfl⟩
 · unfold places Pool.setQueue
   rw [sum_update_same contents r.queues hcontents]
 · unfold systemTotal Pool.setQueue
   rw [sum_update_same (fun queue=>queue.systemTasks.length) r.queues
    (congrArg List.length hsystem)]

lemma Rests.trans {r'':Pool config} (h:Rests r r') (h':Rests r' r''):Rests r r'' where
 places:=h'.places.trans h.places
 calls task:=(h'.calls task).trans (h.calls task)
 total:=h'.total.trans h.total
 count:=h'.count.trans h.count
 available:=h'.available.trans h.available

lemma rests_pass {slot:Fin config.workers} (htasks:queue.tasks=(r.queues slot).tasks)
  (hsystem:queue.systemTasks=(r.queues slot).systemTasks) (hheld:held worker=held (r.workers index))
  (huncounted:uncounted worker=uncounted (r.workers index)):
  Rests r ((r.setQueue slot queue).setWorker index worker):=
 (rests_setQueue htasks hsystem).trans (rests_setWorker hheld huncounted)

lemma rests_take (task:Task) {slot:Fin config.workers}
  (hcontents:contents (r.queues slot)=contents queue+{task})
  (hheld:held worker=held (r.workers index)+{task})
  (htotal:(r.queues slot).systemTasks.length+uncounted (r.workers index) =
   queue.systemTasks.length+uncounted worker):
  Rests r ((r.setQueue slot queue).setWorker index worker):=by
 refine ⟨?_,fun _=>Iff.rfl,?_,rfl,rfl⟩
 · have hqueues:=sum_update_lose contents r.queues hcontents
   have hworkers:=sum_update_gain held r.workers hheld
   change (∑ x,contents (update r.queues slot queue x)) +
    (∑ x,held (update r.workers index worker x))+_+_=_
   unfold places
   rw [hworkers,←hqueues]
   abel
 · have hqueues:=sum_update_add (fun queue=>queue.systemTasks.length) r.queues slot queue
   have hworkers:=sum_update_add uncounted r.workers index worker
   change (∑ x,(update r.queues slot queue x).systemTasks.length) +
    ∑ x,uncounted (update r.workers index worker x)=_
   unfold systemTotal
   omega

lemma rests_finish {task:Task} (hrunning:r.workers index=.running task):
  Rests r ({ r with finished:=r.finished++[task] }.setWorker index .entering):=by
 have hheld:held (r.workers index)=held .entering+{task}:=by
  rw [hrunning]
  exact (zero_add _).symm
 have huncounted:uncounted .entering=uncounted (r.workers index):=by
  rw [hrunning]
  rfl
 refine ⟨?_,fun _=>Iff.rfl,?_,rfl,rfl⟩
 · have hworkers:=sum_update_lose held r.workers hheld
   change (∑ x,contents (r.queues x))+(∑ x,held (update r.workers index .entering x)) +
    ((r.finished++[task]:List Task):Multiset Task)+(r.abandoned:Multiset Task)=_
   unfold places
   rw [←hworkers,←Multiset.coe_add,Multiset.coe_singleton]
   abel
 · unfold systemTotal Pool.setWorker
   rw [sum_update_same uncounted r.workers huncounted]

lemma idles_rests (h:Idles r (r.workers index) worker):
  Rests r (r.setWorker index worker):=by
 generalize hworker:r.workers index=before at h
 cases h <;> exact rests_setWorker (hworker▸rfl) (hworker▸rfl)

lemma turn_rests (h:Turn r index r'):Rests r r' ∨ ∃task,
  r.workers index=.counting task ∧ r'={ r with
   systemCount:=r.systemCount - 1
   systemAvailable:=if r.systemCount - 1=0 then false else r.systemAvailable }.setWorker
    index (.running task):=by
 cases h with
 | idle hidles=>exact Or.inl (idles_rests hidles)
 | look again hworker=>
  refine Or.inl ?_
  split
  · exact rests_setWorker (by rw [hworker]; rfl) (by rw [hworker]; rfl)
  · exact rests_setWorker (by rw [hworker]; rfl) (by rw [hworker]; rfl)
 | missSystem again offset queue hworker htake=>
  obtain ⟨hsystem,hsystem',htasks⟩:=takeSystem_none htake
  refine Or.inl ?_
  split
  · exact rests_pass htasks (hsystem'.trans hsystem.symm) (hworker▸rfl) (hworker▸rfl)
  · exact rests_pass htasks (hsystem'.trans hsystem.symm) (hworker▸rfl) (hworker▸rfl)
 | hitSystem again offset queue task hworker htake=>
  obtain ⟨hsystem,htasks⟩:=takeSystem_some htake
  refine Or.inl (rests_take task ?_ ?_ ?_)
  · unfold contents
    rw [hsystem,htasks,←Multiset.cons_coe,←Multiset.singleton_add]
    abel
  · rw [hworker]
    exact (zero_add _).symm
  · rw [hsystem,hworker]
    rfl
 | count task hworker=>exact Or.inr ⟨task,hworker,rfl⟩
 | missOrdinary again offset queue hworker htake=>
  obtain ⟨htasks,htasks',hsystem⟩:=takeOrdinary_none htake
  refine Or.inl ?_
  split
  · exact rests_pass (htasks'.trans htasks.symm) hsystem (hworker▸rfl) (hworker▸rfl)
  · exact rests_pass (htasks'.trans htasks.symm) hsystem (hworker▸rfl) (hworker▸rfl)
 | hitOrdinary again offset queue task hworker htake=>
  obtain ⟨htasks,hsystem⟩:=takeOrdinary_some htake
  refine Or.inl (rests_take task ?_ ?_ ?_)
  · unfold contents
    rw [hsystem,htasks,←Multiset.cons_coe,←Multiset.singleton_add]
    abel
  · rw [hworker]
    exact (zero_add _).symm
  · rw [hsystem,hworker]
    rfl
 | finish task hworker=>exact Or.inl (rests_finish hworker)

end

section

structure Books (r:Pool config):Prop where
 nodup:(places r).Nodup
 mem:∀task,task∈places r ↔ r.calls task=.returned

structure Counted (r:Pool config):Prop where
 count:r.systemCount=systemTotal r
 available:r.systemAvailable=decide (0<r.systemCount)

structure Ledger (r:Pool config):Prop where
 books:Books r
 counted:(∀next,r.stopper≠.detaching next) → Counted r

lemma Rests.books (h:Rests r r') (hb:Books r):Books r':=by
 refine ⟨h.places▸hb.nodup,fun task=>?_⟩
 rw [h.places,h.calls]
 exact hb.mem task

lemma Rests.counted (h:Rests r r') (hc:Counted r):Counted r':=by
 refine ⟨?_,?_⟩
 · rw [h.count,h.total]
   exact hc.count
 · rw [h.available,h.count]
   exact hc.available

lemma contents_append (queue:WorkQueue) (system:Bool) (task:Task):
  contents (queue.append system task)=contents queue+{task}:=by
 unfold contents WorkQueue.append
 cases system with
 | true=>
  change ((queue.tasks:Multiset Task))+((queue.systemTasks++[task]:List Task))=_
  rw [←Multiset.coe_add,Multiset.coe_singleton,add_assoc]
 | false=>
  change (((queue.tasks++[task]:List Task):Multiset Task))+queue.systemTasks=_
  rw [←Multiset.coe_add,Multiset.coe_singleton]
  abel

lemma length_systemTasks_append (queue:WorkQueue) (system:Bool) (task:Task):
  (queue.append system task).systemTasks.length =
   queue.systemTasks.length+if system then 1 else 0:=by
 cases system with
 | true=>exact List.length_append
 | false=>rfl

section

variable {task:Task} {slot:Fin config.workers} {system:Bool}

section

variable (ha:Accepted r r' task slot system)
include ha

lemma accepted_places : places r'=places r+{task}:=by
 have hqueues:=sum_update_gain contents r.queues
  (contents_append (r.queues slot) system task)
 unfold places
 rw [ha.queues,ha.workers,ha.finished,ha.abandoned,hqueues]
 abel

lemma accepted_total :
  systemTotal r'=systemTotal r+if system then 1 else 0:=by
 have hqueues:=sum_update_gain (fun queue=>queue.systemTasks.length) r.queues
  (length_systemTasks_append (r.queues slot) system task)
 unfold systemTotal
 rw [ha.queues,ha.workers,hqueues]
 exact add_right_comm _ _ _

lemma accepted_books (hb:Books r) (hfresh:r.calls task≠.returned):Books r':=by
 have hplaces:places r'=task ::ₘ places r:=by
  rw [accepted_places ha,add_comm,Multiset.singleton_add]
 refine ⟨?_,fun other=>?_⟩
 · rw [hplaces,Multiset.nodup_cons,hb.mem]
   exact ⟨hfresh,hb.nodup⟩
 · rw [hplaces,Multiset.mem_cons,hb.mem,ha.calls]
   by_cases hother:other=task
   · rw [hother,update_self]
     exact iff_of_true (Or.inl rfl) rfl
   · rw [update_of_ne hother]
     exact or_iff_right hother

lemma accepted_counted (hc:Counted r):Counted r':=by
 have hcount:=hc.count
 refine ⟨?_,?_⟩
 · rw [ha.count,accepted_total ha,hcount]
   cases system <;> simp
 · rw [ha.available,ha.count,hc.available]
   cases system with
   | true=>
    have hpos:0<r.systemCount+1:=by omega
    simp [hpos]
   | false=>simp

end

end

lemma turn_counted (h:Turn r index r') (hc:Counted r):Counted r':=by
 rcases turn_rests h with hrests|⟨task,hworker,rfl⟩
 · exact hrests.counted hc
 -- The worker takes its own task out of the count, so the count was positive.
 have hworkers:(∑ other,uncounted (update r.workers index (.running task) other))+1 =
  ∑ other,uncounted (r.workers other):=
  sum_update_lose uncounted r.workers (hworker▸rfl)
 have htotal:systemTotal r=(∑ other,(r.queues other).systemTasks.length) +
  ∑ other,uncounted (r.workers other):=rfl
 have hcount:=hc.count
 refine ⟨?_,?_⟩
 · change r.systemCount - 1=(((∑ other,(r.queues other).systemTasks.length) +
    ∑ other,uncounted (update r.workers index (.running task) other):ℕ):ℤ)
   omega
 · change (if r.systemCount - 1=0 then false else r.systemAvailable) =
    decide (0<r.systemCount - 1)
   rw [hc.available]
   have hpos:0<r.systemCount:=by omega
   split
   · rename_i hzero
     rw [hzero]
     rfl
   · rename_i hzero
     have hmore:0<r.systemCount - 1:=by omega
     rw [decide_eq_true hpos,decide_eq_true hmore]

lemma turn_books (h:Turn r index r') (hb:Books r):Books r':=by
 rcases turn_rests h with hrests|⟨task,hworker,rfl⟩
 · exact hrests.books hb
 · have hplaces:places (r.setWorker index (.running task))=places r:=
    places_setWorker (hworker▸rfl)
   exact ⟨hplaces▸hb.nodup,fun other=>hplaces▸hb.mem other⟩

lemma rests_setCall {task:Task} {call:Call} (hcall:call≠.returned)
  (hbefore:r.calls task≠.returned):Rests r (r.setCall task call):=by
 refine ⟨rfl,fun other=>?_,rfl,rfl,rfl⟩
 unfold Pool.setCall
 dsimp only
 by_cases hother:other=task
 · rw [hother,update_self]
   exact iff_of_false hcall hbefore
 · rw [update_of_ne hother]

lemma rests_wake (r:Pool config) (index:Fin config.workers):Rests r (r.wake index):=
 rests_setQueue rfl rfl

lemma startStep_rests (h:Control r) (hstep:r.startStep=some r'):Rests r r':=by
 unfold Pool.startStep at hstep
 split at hstep
 · rename_i later hstarter
   split at hstep
   · rename_i hlater
     cases hstep
     have hunstarted:=h.launching later hstarter ⟨later,hlater⟩ le_rfl
     exact (rests_setWorker (hunstarted▸rfl) (hunstarted▸rfl)).trans
      ⟨rfl,fun _=>Iff.rfl,rfl,rfl,rfl⟩
   · cases hstep
     exact ⟨rfl,fun _=>Iff.rfl,rfl,rfl,rfl⟩
 · cases hstep
   exact ⟨rfl,fun _=>Iff.rfl,rfl,rfl,rfl⟩
 · split at hstep
   · cases hstep
     exact (rests_wake r _).trans ⟨rfl,fun _=>Iff.rfl,rfl,rfl,rfl⟩
   · cases hstep
     exact ⟨rfl,fun _=>Iff.rfl,rfl,rfl,rfl⟩
 · cases hstep
   exact ⟨rfl,fun _=>Iff.rfl,rfl,rfl,rfl⟩
 all_goals cases hstep

lemma counted_of_empty (hempty:AllEmpty r) (hquiet:∀other,(r.workers other).Quiet)
  (hcount:r.systemCount=0) (havailable:r.systemAvailable=false):Counted r:=by
 have hqueues:∑ other,(r.queues other).systemTasks.length=0:=by
  refine Finset.sum_eq_zero fun other _=>?_
  rw [(hempty other).2]
  rfl
 have hworkers:∑ other,uncounted (r.workers other)=0:=by
  refine Finset.sum_eq_zero fun other _=>?_
  rcases hquiet other with hworker|hworker <;> rw [hworker] <;> rfl
 refine ⟨?_,?_⟩
 · unfold systemTotal
   rw [hcount,hqueues,hworkers]
   rfl
 · rw [havailable,hcount]
   rfl

lemma places_detach {later:ℕ} (hlater:later<config.workers):
  places { r.setQueue ⟨later,hlater⟩ (r.queues ⟨later,hlater⟩).detach with
   abandoned:=r.abandoned++(r.queues ⟨later,hlater⟩).tasks ++
    (r.queues ⟨later,hlater⟩).systemTasks
   stopper:=.detaching (later+1) }=places r:=by
 have hqueues:(∑ other,contents (update r.queues ⟨later,hlater⟩
  (r.queues ⟨later,hlater⟩).detach other))+contents (r.queues ⟨later,hlater⟩) =
  ∑ other,contents (r.queues other):=
  sum_update_lose contents r.queues (zero_add _).symm
 unfold places
 rw [←hqueues,←Multiset.coe_add,←Multiset.coe_add]
 unfold contents
 dsimp only [Pool.setQueue]
 abel

lemma stopStep_ledger (h:Control r) (hl:Ledger r) (hstep:r.stopStep=some r'):
  Ledger r':=by
 have hsame:∀ {t:Pool config},Rests r t → (∀later,r.stopper≠.detaching later) →
  Ledger t:=
  fun hrests hstopper=>⟨hrests.books hl.books,fun _=>hrests.counted (hl.counted hstopper)⟩
 unfold Pool.stopStep at hstep
 split at hstep
 · rename_i hstopper
   have hearly:∀later,r.stopper≠.detaching later:=by simp [hstopper]
   split at hstep <;> cases hstep <;> exact hsame ⟨rfl,fun _=>Iff.rfl,rfl,rfl,rfl⟩ hearly
 · rename_i hstopper
   have hearly:∀later,r.stopper≠.detaching later:=by simp [hstopper]
   split at hstep
   · cases hstep
     exact hsame ((rests_wake r _).trans ⟨rfl,fun _=>Iff.rfl,rfl,rfl,rfl⟩) hearly
   · cases hstep
     exact hsame ⟨rfl,fun _=>Iff.rfl,rfl,rfl,rfl⟩ hearly
 · rename_i hstopper
   split at hstep
   · cases hstep
     exact hsame ⟨rfl,fun _=>Iff.rfl,rfl,rfl,rfl⟩ (by simp [hstopper])
   · cases hstep
 · rename_i later hstopper
   split at hstep
   · rename_i hlater
     cases hstep
     have hplaces:=places_detach (r := r) hlater
     exact ⟨⟨hplaces▸hl.books.nodup,fun task=>hplaces▸hl.books.mem task⟩,
      fun hnot=>absurd rfl (hnot (later+1))⟩
   · rename_i hlater
     cases hstep
     have hempty:AllEmpty r:=fun other=>
      h.detached later hstopper other (other.isLt.trans_le (Nat.not_lt.1 hlater))
     exact ⟨⟨hl.books.nodup,hl.books.mem⟩,
      fun _=>counted_of_empty hempty (h.joined (Or.inl ⟨later,hstopper⟩)) rfl rfl⟩
 · rename_i hstopper
   cases hstep
   exact hsame ⟨rfl,fun _=>Iff.rfl,rfl,rfl,rfl⟩ (by simp [hstopper])
 all_goals cases hstep

lemma ledger_next {event:Event config} (h:Control r) (hl:Ledger r)
  (hstep:next r event=some r'):Ledger r':=by
 have hsame:∀ {t:Pool config},Rests r t → (t.stopper=r.stopper) → Ledger t:=
  fun hrests hstopper=>⟨hrests.books hl.books,
   fun hnot=>hrests.counted (hl.counted fun later=>hstopper▸hnot later)⟩
 cases event with
 | start | startFails=>
  simp only [next] at hstep
  split at hstep
  · cases hstep
    exact hsame ⟨rfl,fun _=>Iff.rfl,rfl,rfl,rfl⟩ rfl
  · cases hstep
 | starter=>
  refine hsame (startStep_rests h hstep) ?_
  simp only [next,Pool.startStep] at hstep
  split at hstep <;> (try split at hstep) <;> cases hstep <;> rfl
 | call task system start=>
  simp only [next] at hstep
  split at hstep
  · rename_i hunmade
    cases hstep
    exact hsame (rests_setCall (by simp) (by simp [hunmade])) rfl
  · cases hstep
 | publish task=>
  simp only [next] at hstep
  split at hstep
  · rename_i hcall
    cases hstep
    have hfresh:r.calls task≠.returned:=by simp [hcall]
    rcases publish_cases r task _ _ _ with ⟨call,hnot,heq⟩|haccepted
    · rw [heq]
      exact hsame (rests_setCall hnot hfresh) rfl
    · exact ⟨accepted_books haccepted hl.books hfresh,fun hstopper=>
       accepted_counted haccepted (hl.counted fun later=>(phase_eq haccepted.phase).2.2.2▸hstopper later)⟩
  · cases hstep
 | worker index=>
  have hturn:=turn_of_workerStep hstep
  exact ⟨turn_books hturn hl.books,fun hnot=>
   turn_counted hturn (hl.counted fun later=>(phase_eq hturn.worked.phase).2.2.2▸hnot later)⟩
 | stop=>
  simp only [next] at hstep
  split at hstep
  · rename_i hfree
    cases hstep
    have hidle:∀later,r.stopper≠.detaching later:=by simp [hfree.2]
    have hrests:Rests r { r with stopper:=.entered }:=
     ⟨rfl,fun _=>Iff.rfl,rfl,rfl,rfl⟩
    exact ⟨hrests.books hl.books,fun _=>hrests.counted (hl.counted hidle)⟩
  · cases hstep
 | stopper=>exact stopStep_ledger h hl hstep
 | stopTimeout=>
  simp only [next,Pool.stopTimeout] at hstep
  split at hstep
  · rename_i hstopper
    cases hstep
    exact ⟨⟨hl.books.nodup,hl.books.mem⟩,fun _=>⟨(hl.counted (by simp [hstopper])).count,
     (hl.counted (by simp [hstopper])).available⟩⟩
  · rename_i hstopper
    cases hstep
    exact ⟨⟨hl.books.nodup,hl.books.mem⟩,fun _=>⟨(hl.counted (by simp [hstopper])).count,
     (hl.counted (by simp [hstopper])).available⟩⟩
  · rename_i hstopper
    split at hstep
    · cases hstep
    · cases hstep
      exact ⟨⟨hl.books.nodup,hl.books.mem⟩,fun _=>⟨(hl.counted (by simp [hstopper])).count,
       (hl.counted (by simp [hstopper])).available⟩⟩
  all_goals cases hstep

end

section

/-- The rest of the worker's round of `next_task` finds nothing in the queues as they are. -/
def Misses (r:Pool config) (index:Fin config.workers):Worker → Prop
 | .scanningSystem _ offset=>(∀later,offset ≤ later → later<config.workers →
   (r.queues (config.slot index later)).systemTasks=[]) ∧ ∀other,(r.queues other).tasks=[]
 | .scanningOrdinary _ offset=>∀later,offset ≤ later → later<config.workers →
   (r.queues (config.slot index later)).tasks=[]
 | .unstarted | .deciding _ | .ended=>True
 | .entering | .looking _ | .counting _ | .waiting | .running _=>False

/-- Tasks are queued and no worker will come to them before it reads the state. -/
def Missed (r:Pool config):Prop:=¬AllEmpty r ∧ ∀index,Misses r index (r.workers index)

def Kept (r r':Pool config):Prop:=∀index,(r'.queues index).tasks=(r.queues index).tasks ∧
 (r'.queues index).systemTasks=(r.queues index).systemTasks

lemma kept_refl (r:Pool config):Kept r r:=fun _=>⟨rfl,rfl⟩

lemma kept_setQueue (htasks:queue.tasks=(r.queues index).tasks)
  (hsystem:queue.systemTasks=(r.queues index).systemTasks):Kept r (r.setQueue index queue):=by
 intro other
 unfold Pool.setQueue
 dsimp only
 by_cases hother:other=index
 · rw [hother,update_self]
   exact ⟨htasks,hsystem⟩
 · rw [update_of_ne hother]
   exact ⟨rfl,rfl⟩

lemma Kept.allEmpty (h:Kept r r'):AllEmpty r' ↔ AllEmpty r:=by
 simp only [AllEmpty,WorkerPoolControl.Empty,h _]

lemma Kept.misses (h:Kept r r'):Misses r' index worker ↔ Misses r index worker:=by
 cases worker <;> simp only [Misses,h _]

lemma Kept.missed (h:Kept r r') (hothers:∀other,other≠index → r'.workers other=r.workers other)
  (hown:Misses r' index (r'.workers index) ↔ Misses r index (r.workers index)):
  Missed r' ↔ Missed r:=by
 refine and_congr (not_congr h.allEmpty) (forall_congr' fun other=>?_)
 by_cases hother:other=index
 · rw [hother]
   exact hown
 · rw [hothers other hother]
   exact h.misses

lemma systemTasks_of_unavailable (hc:Counted r) (hnone:r.systemAvailable=false)
  (other:Fin config.workers):(r.queues other).systemTasks=[]:=by
 have hcount:=hc.count
 have hzero:¬0<r.systemCount:=by
  rw [hc.available] at hnone
  exact of_decide_eq_false hnone
 have htotal:systemTotal r=0:=by omega
 have hqueues:∑ other,(r.queues other).systemTasks.length=0:=(Nat.add_eq_zero_iff.1 htotal).1
 have hlength:=Finset.sum_eq_zero_iff.1 hqueues other (Finset.mem_univ other)
 exact List.length_eq_zero_iff.1 hlength

lemma forall_later {P:ℕ → Prop} {offset limit:ℕ} (h:P offset):
  (∀later,offset ≤ later → later<limit → P later) ↔
   ∀later,offset+1 ≤ later → later<limit → P later:=by
 refine ⟨fun hall later hle=>hall later (Nat.le_of_succ_le hle),fun hall later hle hlt=>?_⟩
 rcases Nat.eq_or_lt_of_le hle with rfl|hless
 · exact h
 · exact hall later hless hlt

lemma forall_slot {field:WorkQueue → List Task}:
  (∀later,0 ≤ later → later<config.workers → field (r.queues (config.slot index later))=[]) ↔
   ∀other,field (r.queues other)=[]:=by
 refine ⟨fun hall other=>?_,fun hall _ _ _=>hall _⟩
 obtain ⟨later,hlt,rfl⟩:=exists_slot (index:ℕ) other
 exact hall later (Nat.zero_le _) hlt

lemma workers_setWorker (r:Pool config) (index:Fin config.workers) (worker:Worker):
  (r.setWorker index worker).workers index=worker:=update_self _ _ _

def Closed (r:Pool config):Prop:=r.state=.stopping ∨ r.state=.stopped

lemma turn_missed (h:Turn r index r') (hcontrol:Control r) (hc:Counted r) (hclosed:Closed r)
  (habort:r.abort=false):Missed r' ↔ Missed r:=by
 have hothers:=h.worked.workers
 have hbound:=hcontrol.bounds index
 -- A worker that will scan all queues, or has just come to a task, misses none.
 have hfinds:¬Misses r index (r.workers index) →
  (Misses r' index (r'.workers index) → AllEmpty r') → (Missed r' ↔ Missed r):=fun hnot hall=>
  iff_of_false (fun hmissed=>hmissed.1 (hall (hmissed.2 index))) fun hmissed=>hnot (hmissed.2 index)
 cases h with
 | idle hidles=>
  rw [workers_setWorker] at hfinds
  generalize hworker:r.workers index=before at hidles hfinds
  cases hidles with
  | enter | woken=>exact hfinds id nofun
  | abort haborted=>cases habort.symm.trans haborted
  | stop again=>
   refine Kept.missed (kept_refl r) hothers ?_
   rw [workers_setWorker,hworker]
   rfl
  | retry hopen | wait hopen=>exact absurd hclosed hopen
 | look again hworker=>
  rw [workers_setWorker,hworker] at hfinds
  refine hfinds id ?_
  split
  · exact fun hmisses other=>⟨hmisses.2 other,forall_slot.1 hmisses.1 other⟩
  · rename_i hnone
    exact fun hmisses other=>⟨forall_slot.1 hmisses other,
     systemTasks_of_unavailable hc (Bool.eq_false_iff.2 hnone) other⟩
 | missSystem again offset queue hworker htake=>
  obtain ⟨hsystem,hsystem',htasks⟩:=takeSystem_none htake
  have hkept:=kept_setQueue htasks (hsystem'.trans hsystem.symm)
  refine Kept.missed hkept hothers ?_
  rw [workers_setWorker,hworker]
  refine Iff.trans (Kept.misses hkept) ?_
  split
  · exact and_congr_left fun _=>(forall_later hsystem).symm
  · rename_i hend
    refine forall_slot.trans (and_iff_right fun later hle hlt=>?_).symm
    have heq:later=offset:=by omega
    exact heq▸hsystem
 | missOrdinary again offset queue hworker htake=>
  obtain ⟨htasks,htasks',hsystem⟩:=takeOrdinary_none htake
  have hkept:=kept_setQueue (htasks'.trans htasks.symm) hsystem
  refine Kept.missed hkept hothers ?_
  rw [workers_setWorker,hworker]
  refine Iff.trans (Kept.misses hkept) ?_
  split
  · exact (forall_later htasks).symm
  · rename_i hend
    refine iff_of_true trivial fun later hle hlt=>?_
    have heq:later=offset:=by omega
    exact heq▸htasks
 | hitSystem again offset queue task hworker htake=>
  rw [workers_setWorker,hworker] at hfinds
  rw [hworker] at hbound
  refine hfinds (fun hmisses=>?_) nofun
  exact nomatch (takeSystem_some htake).1.symm.trans (hmisses.1 offset le_rfl hbound)
 | hitOrdinary again offset queue task hworker htake=>
  rw [workers_setWorker,hworker] at hfinds
  rw [hworker] at hbound
  refine hfinds (fun hmisses=>?_) nofun
  exact nomatch (takeOrdinary_some htake).1.symm.trans (hmisses offset le_rfl hbound)
 | count task hworker | finish task hworker=>
  rw [workers_setWorker,hworker] at hfinds
  exact hfinds id nofun

/-- A task was abandoned or will be. -/
def Loses (r:Pool config):Prop:=r.abandoned≠[] ∨ Missed r

lemma loses_same (hkept:Kept r r') (hworkers:r'.workers=r.workers)
  (habandoned:r'.abandoned=r.abandoned):Loses r' ↔ Loses r:=by
 unfold Loses Missed
 rw [habandoned,hworkers,hkept.allEmpty]
 simp only [hkept.misses]

lemma loses_detach {later:ℕ} (hlater:later<config.workers)
  (hquiet:∀other,(r.workers other).Quiet):
  Loses { r.setQueue ⟨later,hlater⟩ (r.queues ⟨later,hlater⟩).detach with
   abandoned:=r.abandoned++(r.queues ⟨later,hlater⟩).tasks ++
    (r.queues ⟨later,hlater⟩).systemTasks
   stopper:=.detaching (later+1) } ↔ Loses r:=by
 by_cases hempty:Empty (r.queues ⟨later,hlater⟩)
 · refine loses_same (kept_setQueue hempty.1.symm hempty.2.symm) rfl ?_
   change r.abandoned++_++_=_
   rw [hempty.1,hempty.2,List.append_nil,List.append_nil]
 · refine iff_of_true (Or.inl fun hnone=>hempty ?_) (Or.inr ⟨fun hall=>hempty (hall _),fun other=>?_⟩)
   · obtain ⟨hboth,hsystem⟩:=List.append_eq_nil_iff.1 hnone
     exact ⟨(List.append_eq_nil_iff.1 hboth).2,hsystem⟩
   · rcases hquiet other with hworker|hworker <;> rw [hworker] <;> trivial

lemma startStep_closed (h:Control r) (hclosed:Closed r) (hstep:r.startStep=some r'):
  Closed r' ∧ r'.abort=r.abort ∧ (Loses r' ↔ Loses r):=by
 unfold Pool.startStep at hstep
 split at hstep
 · rename_i later hstarter
   have hstarting:r.state=.starting:=h.phases.launching later hstarter
   rcases hclosed with hstate|hstate <;> cases hstarting.symm.trans hstate
 · cases hstep
   exact ⟨Or.inl rfl,rfl,Iff.rfl⟩
 · split at hstep
   · cases hstep
     exact ⟨hclosed,rfl,loses_same (kept_setQueue rfl rfl) rfl rfl⟩
   · cases hstep
     exact ⟨hclosed,rfl,Iff.rfl⟩
 · cases hstep
   exact ⟨Or.inr rfl,rfl,Iff.rfl⟩
 all_goals cases hstep

lemma stopStep_closed (h:Control r) (hclosed:Closed r) (hstep:r.stopStep=some r'):
  Closed r' ∧ r'.abort=r.abort ∧ (Loses r' ↔ Loses r):=by
 unfold Pool.stopStep at hstep
 split at hstep
 · split at hstep <;> cases hstep
   · exact ⟨hclosed,rfl,Iff.rfl⟩
   · exact ⟨Or.inr rfl,rfl,Iff.rfl⟩
   · exact ⟨Or.inl rfl,rfl,Iff.rfl⟩
   all_goals exact ⟨hclosed,rfl,Iff.rfl⟩
 · split at hstep <;> cases hstep
   · exact ⟨hclosed,rfl,loses_same (kept_setQueue rfl rfl) rfl rfl⟩
   · exact ⟨hclosed,rfl,Iff.rfl⟩
 · split at hstep <;> cases hstep
   exact ⟨hclosed,rfl,Iff.rfl⟩
 · rename_i later hstopper
   split at hstep <;> cases hstep
   · exact ⟨hclosed,rfl,loses_detach _ (h.joined (Or.inl ⟨later,hstopper⟩))⟩
   · exact ⟨hclosed,rfl,Iff.rfl⟩
 · cases hstep
   exact ⟨Or.inr rfl,rfl,Iff.rfl⟩
 all_goals cases hstep

/-- Once `STOPPING` is set, no step changes whether a task is abandoned in the end. -/
lemma closed_next {event:Event config} (h:Control r) (hl:Ledger r) (hclosed:Closed r)
  (hstep:next r event=some r'):
  Closed r' ∧ (r'.abort=false → r.abort=false ∧ (Loses r' ↔ Loses r)):=by
 cases event with
 | start=>
  simp only [next] at hstep
  split at hstep
  · rename_i hfree
    rcases hclosed with hstate|hstate <;> cases hfree.2.symm.trans hstate
  · cases hstep
 | starter=>
  obtain ⟨hclosed',hsame,hloses⟩:=startStep_closed h hclosed hstep
  exact ⟨hclosed',fun habort=>⟨hsame▸habort,hloses⟩⟩
 | startFails=>
  simp only [next] at hstep
  split at hstep <;> cases hstep
  exact ⟨hclosed,fun habort=>by cases habort⟩
 | call task system start | stop=>
  simp only [next] at hstep
  split at hstep <;> cases hstep
  exact ⟨hclosed,fun habort=>⟨habort,Iff.rfl⟩⟩
 | publish task=>
  simp only [next] at hstep
  split at hstep <;> cases hstep
  rcases publish_cases r task _ _ _ with ⟨call,-,heq⟩|haccepted
  · rw [heq]
    exact ⟨hclosed,fun habort=>⟨habort,Iff.rfl⟩⟩
  · rcases hclosed with hstate|hstate <;> cases haccepted.running.symm.trans hstate
 | worker index=>
  have hturn:=turn_of_workerStep hstep
  obtain ⟨hstate,hsame,-⟩:=phase_eq hturn.worked.phase
  have hcounted:Counted r:=by
   refine hl.counted fun later hstopper=>?_
   exact hturn.alive (h.joined (Or.inl ⟨later,hstopper⟩) index)
  refine ⟨?_,fun habort=>⟨hsame▸habort,?_⟩⟩
  · unfold Closed
    rwa [hstate]
  · unfold Loses
    rw [hturn.worked.abandoned,turn_missed hturn h hcounted hclosed (hsame▸habort)]
 | stopper=>
  obtain ⟨hclosed',hsame,hloses⟩:=stopStep_closed h hclosed hstep
  exact ⟨hclosed',fun habort=>⟨hsame▸habort,hloses⟩⟩
 | stopTimeout=>
  simp only [next,Pool.stopTimeout] at hstep
  split at hstep
  · cases hstep
    exact ⟨hclosed,fun habort=>⟨habort,Iff.rfl⟩⟩
  · cases hstep
    exact ⟨hclosed,fun habort=>⟨habort,Iff.rfl⟩⟩
  · split at hstep <;> cases hstep
    exact ⟨hclosed,fun habort=>by cases habort⟩
  all_goals cases hstep

end

structure Sound (r:Pool config):Prop where
 control:Control r
 ledger:Ledger r

lemma reachable_sound (h:(system config).Reachable r):Sound r:=by
 refine h.invariant (I := Sound) ?_ ?_
 · rintro r rfl
   have hcreated:Counted (.create config):=counted_of_empty (fun _=>⟨rfl,rfl⟩)
    (fun _=>Or.inl rfl) rfl rfl
   have hplaces:places (.create config)=0:=by
    unfold places
    simp [Pool.create,contents,held]
   refine ⟨control_create config,⟨⟨?_,fun task=>?_⟩,fun _=>hcreated⟩⟩
   · rw [hplaces]
     exact Multiset.nodup_zero
   · rw [hplaces]
     exact iff_of_false (Multiset.notMem_zero task) (by simp [Pool.create])
 · intro r event r' _ hs hstep
   exact ⟨control_next hs.control hstep,ledger_next hs.control hs.ledger hstep⟩

def executing : Worker → Multiset Task
 | .running task=>{task}
 | _=>0

/-- The executions so far, with those that have not ended. -/
def executions (r:Pool config):Multiset Task:=
 r.finished+∑ index,executing (r.workers index)

lemma executing_le_held (worker:Worker):executing worker≤held worker:=by
 cases worker with
 | counting=>exact Multiset.zero_le _
 | unstarted | entering | looking | scanningSystem | scanningOrdinary | deciding | waiting
 | running | ended=>exact le_rfl

lemma executions_le_places (r:Pool config):executions r≤places r:=by
 have hworkers:∑ index,executing (r.workers index) ≤ ∑ index,held (r.workers index):=
  Finset.sum_le_sum fun index _=>executing_le_held (r.workers index)
 calc executions r ≤ r.finished+∑ index,held (r.workers index):=
    add_le_add_right hworkers _
  _=(∑ index,held (r.workers index))+r.finished:=add_comm _ _
  _≤(∑ index,contents (r.queues index))+(∑ index,held (r.workers index))+r.finished:=by
   rw [add_assoc]
   exact Multiset.le_add_left _ _
  _≤places r:=Multiset.le_add_right _ _

lemma places_of_returned (h:Control r) (hstopper:r.stopper=.returned)
  (habort:r.abort=false):places r=r.finished+r.abandoned:=by
 have hempty:=h.emptied (Or.inr ⟨hstopper,habort⟩)
 have hquiet:=h.joined (Or.inr (Or.inr ⟨hstopper,habort⟩))
 have hqueues:∑ index,contents (r.queues index)=0:=by
  refine Finset.sum_eq_zero fun index _=>?_
  unfold contents
  rw [(hempty index).1,(hempty index).2]
  rfl
 have hworkers:∑ index,held (r.workers index)=0:=by
  refine Finset.sum_eq_zero fun index _=>?_
  rcases hquiet index with hworker|hworker <;> rw [hworker] <;> rfl
 unfold places
 rw [hqueues,hworkers,zero_add,zero_add]

lemma executed_iff (hs:Sound r) (hstopper:r.stopper=.returned) (habort:r.abort=false):
  (∀task,r.calls task=.returned → r.finished.count task=1) ↔ r.abandoned=[]:=by
 have hnodup:=hs.ledger.books.nodup
 have hplaces:=places_of_returned hs.control hstopper habort
 refine ⟨fun hall=>?_,fun hnone task htask=>?_⟩
 · refine List.eq_nil_iff_forall_not_mem.2 fun task hmem=>?_
   have hin:task∈places r:=by
    rw [hplaces]
    exact Multiset.mem_add.2 (Or.inr hmem)
   have hcount:=hall task ((hs.ledger.books.mem task).1 hin)
   have hfinished:task∈r.finished:=List.count_pos_iff.1 (hcount▸Nat.one_pos)
   rw [hplaces,Multiset.coe_add,Multiset.coe_nodup] at hnodup
   exact List.disjoint_of_nodup_append hnodup hfinished hmem
 · rw [hnone] at hplaces
   have hin:task∈places r:=(hs.ledger.books.mem task).2 htask
   rw [hplaces,Multiset.coe_add,List.append_nil] at hin hnodup
   exact List.count_eq_one_of_mem (Multiset.coe_nodup.1 hnodup) hin

lemma stop_sets {p q:Pool config} (h:Control p) (hentered:p.stopper=.entered)
  (hset:next p .stopper=some q):Closed q ∧ (Loses q ↔ Missed p):=by
 have hnone:¬p.abandoned≠[]:=not_not.2 (h.abandoned (Or.inr hentered))
 simp only [next,Pool.stopStep,hentered] at hset
 split at hset <;> cases hset <;> refine ⟨?_,or_iff_right hnone⟩
 · exact Or.inr ‹_›
 · exact Or.inr rfl
 · exact Or.inl rfl
 · rename_i hstate
   rcases h.phases.busy (h.phases.starting hstate) with hidle|hraised
   · cases hentered.symm.trans hidle
   · cases hentered.symm.trans hraised
 · exact Or.inl ‹_›

/-- No task is executed twice. Whether all tasks were executed when `stop` returns is decided by
 the pool in which it set the state. -/
theorem drained_on_stop (config:PoolConfig) (r:Pool config) (hr:(system config).Reachable r):
  (∀task,(executions r).count task≤1) ∧
  ∀p q,(system config).Reachable p → p.stopper=.entered → next p .stopper=some q →
   (system config).Runs q r → r.stopper=.returned → r.abort=false →
   ((∀task,r.calls task=.returned → r.finished.count task=1) ↔ ¬Missed p):=by
 have hs:=reachable_sound hr
 refine ⟨fun task=>?_,fun p q hp hentered hset hruns hstopper habort=>?_⟩
 · exact Multiset.nodup_iff_count_le_one.1
    (Multiset.nodup_of_le (executions_le_places r) hs.ledger.books.nodup) task
 · obtain ⟨hclosed,hloses⟩:=stop_sets (reachable_sound hp).control hentered hset
   have hrun:=hruns.stable (P := fun s=>Closed s ∧ (s.abort=false → (Loses s ↔ Missed p)))
    (fun s event t hreach hs hstep=>by
     have hsound:=reachable_sound hreach
     obtain ⟨hclosed,hsame⟩:=closed_next hsound.control hsound.ledger hs.1 hstep
     exact ⟨hclosed,fun habort=>(hsame habort).2.trans (hs.2 (hsame habort).1)⟩)
    (hp.next .stopper hset) ⟨hclosed,fun _=>hloses⟩
   have hempty:=hs.control.emptied (Or.inr ⟨hstopper,habort⟩)
   rw [executed_iff hs hstopper habort,←hrun.2 habort]
   simp [Loses,Missed,hempty]

def onlyWorker : PoolConfig:=⟨1,1,1,Nat.one_pos,Nat.one_pos,Nat.one_pos⟩

def firstWorker : Event onlyWorker:=.worker ⟨0,Nat.one_pos⟩

/-- The worker executes a task when `stop` sets the state, and then the task that waits. -/
theorem drained_on_stop_busy : ∃p q r:Pool onlyWorker,(system onlyWorker).Reachable p ∧
  p.stopper=.entered ∧ p.workers ⟨0,Nat.one_pos⟩=.running 0 ∧ p.calls 1=.returned ∧
  next p .stopper=some q ∧ (system onlyWorker).Runs q r ∧ r.stopper=.returned ∧
  r.finished.count 1=1:=by
 have hcreated:(system onlyWorker).Reachable (.create onlyWorker):=.start rfl
 have hp:=hcreated.play (f := next) (fun _ _ _ h=>h)
  [.start,.starter,.starter,.call 0 false 0,.publish 0,firstWorker,firstWorker,firstWorker,
   .call 1 false 0,.publish 1,.stop] rfl
 have hruns {q r:Pool onlyWorker} (h:[.stopper,.stopper,firstWorker,firstWorker,firstWorker,
  firstWorker,firstWorker,firstWorker,firstWorker,firstWorker,firstWorker,.stopper,.stopper,
  .stopper,.stopper].foldlM next q=some r):(system onlyWorker).Runs q r:=
  .play (fun _ _ _ h=>h) _ h
 refine ⟨_,_,_,hp,rfl,rfl,rfl,rfl,hruns rfl,rfl,?_⟩
 have hdrained:=(drained_on_stop onlyWorker _ ((hp.next .stopper rfl).runs (hruns rfl))).2 _ _ hp
  rfl rfl (hruns rfl) rfl rfl
 exact hdrained.2 (fun hmissed=>hmissed.2 ⟨0,Nat.one_pos⟩) 1 rfl

/-- The worker has scanned its queue in vain when a task is published and `STOPPING` set. It
 reads the state before it looks at the queue again, and ends; `stop` abandons the task
 and returns. -/
theorem accepted_task_abandoned : ∃r:Pool onlyWorker,(system onlyWorker).Reachable r ∧
  r.stopper=.returned ∧ r.abort=false ∧ r.calls 0=.returned ∧ 0∉r.finished ∧
  r.abandoned=[0]:=by
 have hcreated:(system onlyWorker).Reachable (.create onlyWorker):=.start rfl
 have hplayed:=hcreated.play (f := next) (fun _ _ _ h=>h)
  [.start,.starter,.starter,firstWorker,firstWorker,firstWorker,.call 0 false 0,
   .publish 0,.stop,.stopper,.stopper,.stopper,firstWorker,.stopper,.stopper,.stopper,
   .stopper] rfl
 exact ⟨_,hplayed,rfl,rfl,rfl,List.not_mem_nil,rfl⟩

end Movie.WorkerPoolDrain
