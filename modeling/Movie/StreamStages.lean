import Mathlib.Data.List.Induction
import Mathlib.Data.Int.Notation

/-!
# The signals of a stream stage

`StageBehavior` with the function of a `FlowMap`, and `SourceFromIterable`, of `streams.py`: each as
an actor that is given any messages in any order. The calls of the graph's lifecycle are left out.
-/
namespace Movie.StreamStages

section

variable {α β ε ι:Type}

/-- `wrapped` is a `BaseException` that is not an `Exception`. -/
inductive StreamError (ε:Type) where
 | raised (error:ε)
 | wrapped (message:String) (cause:ε)
 | valueError (message:String)
 | bufferError (message:String)

/-- The messages of a stage, with references as numbers. -/
inductive Command (α ε:Type) where
 | setUpstream (up:ℕ)
 | subscribe (down:ℕ)
 | request (n:ℤ)
 | onNext (element:α)
 | onComplete
 | onError (error:StreamError ε)
 | cancel

inductive Signal (β ε:Type) where
 | onNext (element:β)
 | onComplete
 | onError (error:StreamError ε)

inductive Wish where
 | subscribe
 | request (n:ℕ)
 | cancel

/-- The constructor's check is `0 < prefetch <= maxbuf`. -/
structure Settings where
 prefetch:ℕ
 maxbuf:ℕ
 prefetch_pos:0<prefetch
 prefetch_le:prefetch ≤ maxbuf

/-- The fields of `StageBehavior`, with what has been told so far and every element that has been
 put into `_buf`. -/
structure Stage (β ε:Type) where
 up:Option ℕ
 down:Option ℕ
 buf:List β
 demand:ℕ
 inFlight:ℕ
 upClosed:Bool
 terminated:Bool
 completionSent:Bool
 sent:List (Signal β ε)
 asked:List Wish
 buffered:List β

abbrev Raised (ε:Type):=ε×Bool

def asException (error:Raised ε) (message:String):StreamError ε:=
 if error.2 then .raised error.1 else .wrapped message error.1

namespace Stage

def create : Stage β ε where
 up:=none
 down:=none
 buf:=[]
 demand:=0
 inFlight:=0
 upClosed:=false
 terminated:=false
 completionSent:=false
 sent:=[]
 asked:=[]
 buffered:=[]

def maybePull (settings:Settings) (s:Stage β ε):Stage β ε:=
 if s.up.isNone || s.down.isNone || s.upClosed || s.terminated then s
 else
  let buffered:=s.buf.length+s.inFlight
  let target:=min settings.maxbuf (max settings.prefetch s.demand)
  let request:=min (settings.maxbuf-buffered) (target-buffered)
  if 0<request then
   { s with
    inFlight:=s.inFlight+request
    asked:=s.asked++[.request request] }
  else s

/-- The loop of `_push`: what is told, and the demand and the buffer that are left. -/
def deliver : ℕ → List β → List β×ℕ×List β
 | demand+1,element::buf=>
  let rest:=deliver demand buf
  (element::rest.1,rest.2)
 | demand,buf=>([],demand,buf)

def push (settings:Settings) (s:Stage β ε):Stage β ε×Bool:=
 let told:=if s.down.isSome then deliver s.demand s.buf else ([],s.demand,s.buf)
 let s:={ s with
  demand:=told.2.1
  buf:=told.2.2
  sent:=s.sent++told.1.map Signal.onNext }
 if s.upClosed && s.buf.isEmpty && s.down.isSome && !s.completionSent then
  ({ s with
   completionSent:=true
   terminated:=true
   sent:=s.sent++[Signal.onComplete] },true)
 else (s.maybePull settings,false)

def finish (s:Stage β ε) (wishes:List Wish) (signals:List (Signal β ε)):Stage β ε:=
 { s with
  terminated:=true
  buf:=[]
  asked:=s.asked++if s.up.isSome then wishes else []
  sent:=s.sent++if s.down.isSome then signals else [] }

def failStream (s:Stage β ε) (error:StreamError ε):Stage β ε:=
 if s.terminated then s else s.finish [.cancel] [.onError error]

/-- `receive`; the flag says that it returns `self._stop(context)`. -/
def receive (settings:Settings) (transform:α → Except (Raised ε) (Option β))
  (s:Stage β ε) (command:Command α ε):Stage β ε×Bool:=
 if s.terminated then (s,true)
 else match command with
  | .setUpstream up=>
   ({ s with
    up:=some up
    asked:=s.asked++[Wish.subscribe] }.maybePull settings,false)
  | .subscribe down=>({ s with down:=some down }.maybePull settings,false)
  | .request n=>
   if 0<n then { s with demand:=s.demand+n.toNat }.push settings
   else (s.failStream (.valueError "Stream demand must be positive"),true)
  | .onNext element=>
   let s:={ s with inFlight:=s.inFlight-1 }
   match transform element with
   | .error error=>(s.failStream (asException error "Stream transform raised BaseException"),true)
   | .ok none=>s.push settings
   | .ok (some y)=>
    if settings.maxbuf ≤ s.buf.length then
     (s.failStream (.bufferError "Stream stage buffer capacity exceeded"),true)
    else
     { s with
      buf:=s.buf++[y]
      buffered:=s.buffered++[y] }.push settings
  | .onComplete=>
   { s with
    upClosed:=true
    inFlight:=0 }.push settings
  | .onError error=>(s.finish [] [.onError error],true)
  | .cancel=>(s.finish [.cancel] [],true)

def run (settings:Settings) (transform:α → Except (Raised ε) (Option β)):
  List (Command α ε) → Stage β ε:=
 List.foldl (fun s command=>(s.receive settings transform command).1) create

end Stage

inductive Pull (ι β ε:Type) where
 | element (element:β) (rest:ι)
 | stopIteration
 | raises (error:Raised ε)

structure Source (ι β ε:Type) where
 iter:ι
 down:Option ℕ
 exhausted:Bool
 terminated:Bool
 sent:List (Signal β ε)

namespace Source

def create (iter:ι):Source ι β ε:=⟨iter,none,false,false,[]⟩

/-- The loop of a `Request` that still has `n` elements to send. -/
def supply (pull:ι → Pull ι β ε):ℕ → Source ι β ε → Source ι β ε
 | 0,s=>s
 | n+1,s=>
  if s.exhausted || s.down.isNone then s
  else match pull s.iter with
   | .element element rest=>
    supply pull n { s with
     iter:=rest
     sent:=s.sent++[.onNext element] }
   | .stopIteration=>
    { s with
     exhausted:=true
     terminated:=true
     sent:=s.sent++[.onComplete] }
   | .raises error=>
    { s with
     terminated:=true
     sent:=s.sent++
      [.onError (asException error "Stream source iterator raised BaseException")] }

def receive (pull:ι → Pull ι β ε) (s:Source ι β ε) (command:Command α ε):
  Source ι β ε×Bool:=
 if s.terminated then (s,true)
 else match command with
  | .subscribe down=>({ s with down:=some down },false)
  | .request n=>
   if 0<n then
    let s:=s.supply pull n.toNat
    (s,s.terminated)
   else ({ s with
     terminated:=true
     sent:=s.sent++if s.down.isSome then
      [.onError (.valueError "Stream demand must be positive")] else [] },true)
  | .cancel=>({ s with terminated:=true },true)
  | _=>(s,false)

def run (pull:ι → Pull ι β ε) (iter:ι):List (Command α ε) → Source ι β ε:=
 List.foldl (fun s command=>(s.receive pull command).1) (create iter)

end Source

/-- Elements, then at most one end; `completes` is what has to hold of the elements when the end
 is `OnComplete`. -/
def Obeys (sent:List (Signal β ε)) (limit:ℕ) (completes:List β → Prop):Prop:=
 ∃elements ending,sent=elements.map .onNext++Option.toList ending ∧
  (∀element,ending≠some (.onNext element)) ∧ elements.length≤limit ∧
  (ending=some .onComplete → completes elements)

lemma Obeys.elements {sent:List (Signal β ε)} {limit:ℕ} {completes:List β → Prop}
  {elements:List β} (hsent:sent=elements.map .onNext) (hlimit:elements.length≤limit):
  Obeys sent limit completes:=
 ⟨elements,none,by simp [hsent],by simp,hlimit,by simp⟩

lemma Obeys.error {sent:List (Signal β ε)} {limit:ℕ} {completes:List β → Prop}
  {elements:List β} {error:StreamError ε} (hsent:sent=elements.map .onNext++[.onError error])
  (hlimit:elements.length≤limit):Obeys sent limit completes:=
 ⟨elements,some (.onError error),by simp [hsent],by simp,hlimit,by simp⟩

def Command.demand : Command α ε → ℕ
 | .request n=>n.toNat
 | _=>0

def demands : List (Command α ε) → ℕ
 | []=>0
 | command::commands=>command.demand+demands commands

lemma demands_concat (commands:List (Command α ε)) (command:Command α ε):
  demands (commands++[command])=demands commands+command.demand:=by
 induction commands with
 | nil=>simp [demands]
 | cons first commands ih=>simp [demands,ih,Nat.add_assoc]

namespace Stage

variable {s:Stage β ε} {settings:Settings} {transform:α → Except (Raised ε) (Option β)}
 {commands:List (Command α ε)} {elements:List β}

structure Active (s:Stage β ε) (commands:List (Command α ε)) (elements:List β):Prop where
 sent:s.sent=elements.map .onNext
 demand:elements.length+s.demand≤demands commands
 kept:s.buffered=elements++s.buf
 closed:s.upClosed=true → .onComplete∈commands

def Sound (s:Stage β ε) (commands:List (Command α ε)):Prop:=
 Obeys s.sent (demands commands)
  (fun elements=>.onComplete∈commands ∧ elements=s.buffered) ∧
  (s.terminated=false → ∃elements,Active s commands elements)

lemma Active.sound (h:Active s commands elements):Sound s commands:=
 ⟨.elements h.sent (Nat.le_trans (Nat.le_add_right _ _) h.demand),fun _=>⟨elements,h⟩⟩

lemma deliver_spec (demand:ℕ) (buf:List β):
  (deliver demand buf).1++(deliver demand buf).2.2=buf ∧
   (deliver demand buf).1.length+(deliver demand buf).2.1=demand:=by
 induction buf generalizing demand with
 | nil=>cases demand <;> simp [deliver]
 | cons element buf ih=>
  cases demand with
  | zero=>simp [deliver]
  | succ demand=>
   obtain ⟨hbuf,hdemand⟩:=ih demand
   simp only [deliver,List.cons_append,hbuf,List.length_cons,true_and]
   omega

section

variable (h:Active s commands elements)
include h

lemma Active.maybePull :
  Active (s.maybePull settings) commands elements:=by
 unfold Stage.maybePull
 dsimp only
 split_ifs
 all_goals exact ⟨h.sent,h.demand,h.kept,h.closed⟩

lemma Active.push :
  Sound (s.push settings).1 commands:=by
 unfold Stage.push
 dsimp only
 set told:=if s.down.isSome then deliver s.demand s.buf else ([],s.demand,s.buf)
 have htold:told.1++told.2.2=s.buf ∧ told.1.length+told.2.1=s.demand:=by
  by_cases hdown:s.down.isSome
  · simpa [told,hdown] using deliver_spec s.demand s.buf
  · simp [told,hdown]
 have hdemand:=h.demand
 split_ifs with hends
 · simp only [Bool.and_eq_true,List.isEmpty_iff] at hends
   refine ⟨⟨elements++told.1,some .onComplete,by simp [h.sent],by simp,?_,fun _=>⟨?_,?_⟩⟩,
    fun hactive=>?_⟩
   · simp only [List.length_append]
     omega
   · exact h.closed hends.1.1.1
   · simp only [h.kept,←htold.1,hends.1.1.2,List.append_nil]
   · cases hactive
 · refine Active.sound (Active.maybePull (?_:Active _ _ (elements++told.1)))
   refine ⟨by simp [h.sent],?_,?_,h.closed⟩
   · simp only [List.length_append]
     omega
   · simp only [h.kept,←htold.1,List.append_assoc]

lemma Active.finish {wishes:List Wish}
  {signals:List (Signal β ε)} (hsignals:signals=[] ∨ ∃error,signals=[.onError error]):
  Sound (s.finish wishes signals) commands:=by
 have hlimit:=Nat.le_trans (Nat.le_add_right _ _) h.demand
 refine ⟨?_,fun hactive=>by cases hactive⟩
 rcases hsignals with rfl|⟨error,rfl⟩
 · exact .elements (by simp [Stage.finish,h.sent]) hlimit
 · by_cases hdown:s.down.isSome
   · exact .error (by simp [Stage.finish,h.sent,hdown]; rfl) hlimit
   · exact .elements (by simp [Stage.finish,h.sent,hdown]) hlimit

lemma Active.failStream (error:StreamError ε):
  Sound (s.failStream error) commands:=by
 unfold Stage.failStream
 split_ifs
 · exact h.sound
 · exact h.finish (.inr ⟨error,rfl⟩)

lemma Active.concat (command:Command α ε):
  Active s (commands++[command]) elements:=by
 refine ⟨h.sent,?_,h.kept,fun hclosed=>List.mem_append_left _ (h.closed hclosed)⟩
 have hdemand:=h.demand
 rw [demands_concat]
 omega

end

lemma Sound.receive (h:Sound s commands) (command:Command α ε):
  Sound (s.receive settings transform command).1 (commands++[command]):=by
 unfold Stage.receive
 split_ifs with hterminated
 · obtain ⟨⟨elements,ending,hsent,hending,hlimit,hcomplete⟩,-⟩:=h
   refine ⟨⟨elements,ending,hsent,hending,?_,fun hlast=>?_⟩,fun hactive=>?_⟩
   · rw [demands_concat]
     omega
   · exact (hcomplete hlast).imp_left (List.mem_append_left _)
   · rw [hterminated] at hactive
     cases hactive
 · obtain ⟨elements,hactive⟩:=h.2 (by simpa using hterminated)
   have hnext:=hactive.concat command
   cases command with
   | setUpstream up | subscribe down=>
    refine Active.sound (Active.maybePull (?_:Active _ _ elements))
    exact ⟨hnext.sent,hnext.demand,hnext.kept,hnext.closed⟩
   | request n=>
    dsimp only
    split_ifs
    · refine Active.push (?_:Active _ _ elements)
      refine ⟨hnext.sent,?_,hnext.kept,hnext.closed⟩
      have hdemand:=hactive.demand
      rw [demands_concat]
      simp only [Command.demand]
      omega
    · exact hnext.failStream _
   | onNext element=>
    have hreceived:Active { s with inFlight:=s.inFlight-1 } (commands++[.onNext element])
     elements:=⟨hnext.sent,hnext.demand,hnext.kept,hnext.closed⟩
    dsimp only
    split
    · exact hreceived.failStream _
    · exact hreceived.push
    · split_ifs
      · exact hreceived.failStream _
      · refine Active.push (?_:Active _ _ elements)
        refine ⟨hnext.sent,hnext.demand,?_,hnext.closed⟩
        simp only [hactive.kept,List.append_assoc]
   | onComplete=>
    refine Active.push (?_:Active _ _ elements)
    refine ⟨hnext.sent,hnext.demand,hnext.kept,fun _=>?_⟩
    simp
   | onError error=>exact hnext.finish (.inr ⟨error,rfl⟩)
   | cancel=>exact hnext.finish (.inl rfl)

lemma sound_run (commands:List (Command α ε)):
  Sound (run settings transform commands) commands:=by
 induction commands using List.reverseRecOn with
 | nil=>
  have hactive:Active (run settings transform []) ([]:List (Command α ε)) []:=
   ⟨rfl,Nat.le_refl 0,rfl,by simp [run,create]⟩
  exact hactive.sound
 | append_singleton commands command ih=>
  rw [run,List.foldl_append]
  exact ih.receive command

end Stage

namespace Source

variable {s:Source ι β ε} {pull:ι → Pull ι β ε} {commands:List (Command α ε)}

def Active (s:Source ι β ε) (limit:ℕ):Prop:=
 ∃elements:List β,s.sent=elements.map .onNext ∧ elements.length≤limit

def Sound (pull:ι → Pull ι β ε) (s:Source ι β ε) (limit:ℕ):Prop:=
 Obeys s.sent limit (fun _=>s.exhausted=true ∧ pull s.iter=.stopIteration) ∧
  (s.terminated=false → Active s limit)

lemma Active.supply {limit:ℕ} (h:Active s limit) (n:ℕ):
  Sound pull (s.supply pull n) (limit+n):=by
 induction n generalizing s limit with
 | zero=>
  obtain ⟨elements,hsent,hlimit⟩:=h
  exact ⟨.elements hsent hlimit,fun _=>⟨elements,hsent,hlimit⟩⟩
 | succ n ih=>
  obtain ⟨elements,hsent,hlimit⟩:=h
  rw [Source.supply]
  split_ifs
  · exact ⟨.elements hsent (by omega),fun _=>⟨elements,hsent,by omega⟩⟩
  · split
    · rename_i element rest hpull
      rw [Nat.add_comm n,←Nat.add_assoc]
      exact ih ⟨elements++[element],by simp [hsent],by simpa using hlimit⟩
    · rename_i hpull
      exact ⟨⟨elements,some .onComplete,by simp [hsent],by simp,by omega,fun _=>⟨rfl,hpull⟩⟩,
       fun hactive=>by cases hactive⟩
    · exact ⟨.error (by rw [hsent]) (by omega),fun hactive=>by cases hactive⟩

lemma Sound.receive {limit:ℕ} (h:Sound pull s limit) (command:Command α ε):
  Sound pull (s.receive pull command).1 (limit+command.demand):=by
 obtain ⟨⟨elements,ending,hsent,hending,hlimit,hcomplete⟩,hactive⟩:=h
 have hkept:Sound pull s (limit+command.demand):=by
  refine ⟨⟨elements,ending,hsent,hending,by omega,hcomplete⟩,fun hgoes=>?_⟩
  obtain ⟨others,hothers,hlength⟩:=hactive hgoes
  exact ⟨others,hothers,by omega⟩
 unfold Source.receive
 by_cases hterminated:s.terminated=true
 · rw [if_pos hterminated]
   exact hkept
 · rw [if_neg hterminated]
   obtain ⟨others,hothers,hlength⟩:=hactive (by simpa using hterminated)
   cases command with
   | request n=>
    by_cases hpositive:0<n
    · simp only [hpositive,if_true]
      exact Active.supply ⟨others,hothers,hlength⟩ n.toNat
    · simp only [hpositive,if_false]
      refine ⟨?_,fun hgoes=>by cases hgoes⟩
      by_cases hdown:s.down.isSome
      · exact .error (by rw [if_pos hdown,hothers]) (by omega)
      · exact .elements (by rw [if_neg hdown,hothers,List.append_nil]) (by omega)
   | cancel=>
    exact ⟨.elements hothers (by omega),fun hgoes=>by cases hgoes⟩
   | _=>exact hkept

lemma sound_run (iter:ι) (commands:List (Command α ε)):
  Sound pull (run pull iter commands) (demands commands):=by
 induction commands using List.reverseRecOn with
 | nil=>
  have hsent:(run pull iter ([]:List (Command α ε))).sent=([]:List β).map .onNext:=rfl
  exact ⟨.elements hsent (Nat.le_refl 0),fun _=>⟨[],hsent,Nat.le_refl 0⟩⟩
 | append_singleton commands command ih=>
  rw [run,List.foldl_append,demands_concat]
  exact ih.receive command

end Source

/-- A map stage and a source send no more elements than were asked for, then at most one end,
 and `OnComplete` only when the upstream has completed and the buffer has been sent. -/
theorem stage_signal_grammar :
  (∀(settings:Settings) (transform:α → Except (Raised ε) (Option β))
   (commands:List (Command α ε)),
   Obeys (Stage.run settings transform commands).sent (demands commands) fun elements=>
    .onComplete∈commands ∧ elements=(Stage.run settings transform commands).buffered) ∧
  ∀(pull:ι → Pull ι β ε) (iter:ι) (commands:List (Command α ε)),
   Obeys (Source.run pull iter commands).sent (demands commands) fun _=>
    (Source.run pull iter commands).exhausted=true ∧
     pull (Source.run pull iter commands).iter=.stopIteration:=
 ⟨fun _ _ commands=>(Stage.sound_run commands).1,
  fun _ iter commands=>(Source.sound_run iter commands).1⟩

end

end Movie.StreamStages
