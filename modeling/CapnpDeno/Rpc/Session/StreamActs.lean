import CapnpDeno.Lib.Heap
import CapnpDeno.Rpc.Session.Streaming

/-!
# Acts of StreamSender

A step of the sender is a sequence of acts.  Between them one operation can be at hand: it is in no
queue, and the step says how it goes on.  What every act keeps holds of every run.
-/

namespace CapnpDeno

/-- Where an operation stands: in a queue, on the stack, in the drain, or in none of these. -/
inductive StagePlace
  | running
  | calling
  | locked
  | draining
  | drained
  | loose
  | settled
deriving DecidableEq

def StreamStage.place : StreamStage → StagePlace
  | .running => .running
  | .calling _ => .calling
  | .locked => .locked
  | .draining _ _ => .draining
  | .drained _ => .drained
  | .ticket | .encoding | .delivering _ | .delivered _ | .returned | .admission _ => .loose
  | .settled _ => .settled

/-- The operation can come to the stage. -/
def StreamOpKind.allows : StreamOpKind → StreamStage → Bool
  | .send _, .ticket | .send _, .encoding => false
  | .send _, _ => true
  | .waitForCapacity _, stage | .flush, stage | .cancel, stage =>
    match stage with
    | .ticket | .encoding | .calling _ | .admission _ => false
    | _ => true
  | .prepare _, stage =>
    match stage with
    | .running | .ticket | .settled _ => true
    | _ => false
  | .reserveBytes _ byteLength, stage =>
    match stage with
    | .running | .settled _ => true
    | .ticket | .encoding | .locked | .draining _ _ | .drained _ => 0 ≤ byteLength
    | _ => false

/-- The delivery of the outcome. -/
def StreamCallSettled.Delivers {ρ : Type} (call : CallIndex) :
    StreamCallSettled ρ → StreamEffect ρ → Prop
  | .ok value, effect => effect = .onResponse call value ∨ effect = .discarded call
  | .error cause, effect => effect = .onError call cause ∨ effect = .thrown call cause

/-- The sender in the middle of a step. -/
structure StreamMidway (ρ : Type) where
  sender : StreamSender ρ
  hand : Option StreamOpId

namespace StreamSender

variable {ρ : Type} {s s' : StreamSender ρ} {op : StreamOpId} {o : StreamOp}
  {call oldest : CallIndex} {byteLength : ℤ} {lax : Prop}

/-- What the drain removes from the window. -/
def takeOldest (s : StreamSender ρ) (oldest : CallIndex) : StreamSender ρ :=
  { s with
    totalReceived := s.totalReceived + 1
    inFlightBytes := s.inFlightBytes - s.callByteLength oldest
    inFlightCalls := s.inFlightCalls.erase oldest }

/-- A reservation that is granted puts the bytes out of balance. -/
def misfit (s : StreamSender ρ) (call : CallIndex) (byteLength : ℤ) : Bool :=
  if call ∈ s.inFlightCalls then s.callByteLength call ≠ 0 else byteLength ≠ 0

/-- The operation gets the drain lock. -/
def hold (s : StreamSender ρ) (op : StreamOpId) (rest : List StreamOpId) : StreamSender ρ :=
  { s with drainHolder := some op, drainQueue := rest }

/-- The operation gets the drain lock, or is in the drain already. -/
inductive HoldsDrain (s : StreamSender ρ) (op : StreamOpId) : StreamSender ρ → Prop
  | starts (rest : List StreamOpId) (free : s.drainHolder = none)
    (first : s.drainQueue = op :: rest) :
      HoldsDrain s op (s.hold op rest)
  | goesOn (o : StreamOp) (oldest : CallIndex) (wait : StateWait) (found : s.ops[op]? = some o)
      (stands : o.stage = .draining oldest wait) : HoldsDrain s op s

/-- The operation drains the call. -/
inductive Drains (s : StreamSender ρ) (op : StreamOpId) (oldest : CallIndex) : StreamSender ρ → Prop
  | starts (rest : List StreamOpId) (free : s.drainHolder = none)
    (first : s.drainQueue = op :: rest)
      (head : s.inFlightCalls.head? = some oldest) : Drains s op oldest (s.hold op rest)
  | goesOn (o : StreamOp) (wait : StateWait) (found : s.ops[op]? = some o)
      (stands : o.stage = .draining oldest wait) : Drains s op oldest s

theorem Drains.holds {t : StreamSender ρ} (drains : s.Drains op oldest t) : s.HoldsDrain op t := by
  cases drains with
  | starts rest free first _ => exact .starts rest free first
  | goesOn o wait found stands => exact .goesOn o oldest wait found stands

/-- The promise of a call has settled: the call keeps its bytes, and leaves the window if it was not
admitted. -/
def settleCall (s : StreamSender ρ) (call : CallIndex) (outcome : StreamCallSettled ρ)
    (decision : Admission → Admission) (window : List CallIndex) : StreamSender ρ :=
  notifyStateChange { s.setCall call fun c => { c with
    settled := some outcome, admission := decision c.admission } with inFlightCalls := window }

/-- The `callFn` has thrown. -/
def dropCall (s : StreamSender ρ) (call : CallIndex) (rest : List StreamOpId) : StreamSender ρ :=
  { s with
    inFlightCalls := s.inFlightCalls.erase call
    inFlightBytes := s.inFlightBytes - s.callByteLength call
    callStack := rest }

/-- `lax` says that a reservation may be granted which puts the bytes out of balance. -/
inductive Act (lax : Prop) : StreamMidway ρ → StreamMidway ρ → List (StreamEffect ρ) → Prop
  | begin (s : StreamSender ρ) (kind : StreamOpKind) (aborted : Option Thrown) :
      Act lax ⟨s, none⟩ ⟨{ s with ops := s.ops ++ [⟨kind, aborted, none, false, .running⟩] },
        some s.ops.length⟩ []
  | pick (s : StreamSender ρ) (op : StreamOpId) (o : StreamOp) (found : s.ops[op]? = some o)
      (loose : o.stage.place = .loose) : Act lax ⟨s, none⟩ ⟨s, some op⟩ []
  | pass (s : StreamSender ρ) (op : StreamOpId) (rest : List StreamOpId) (o : StreamOp)
      (result : Except Thrown (Option CallIndex)) (first : s.handing = op :: rest)
      (found : s.ops[op]? = some o) (stands : o.stage = .drained result) :
      Act lax ⟨s, none⟩
        ⟨{ s with
          handing := rest
          readyResponses := s.readyResponses ++ (result.toOption.bind id).toList }, some op⟩ []
  | take (s t : StreamSender ρ) (op : StreamOpId) (o : StreamOp) (oldest : CallIndex)
    (idle : s.callStack = [])
      (found : s.ops[op]? = some o) (drains : s.Drains op oldest t)
      (settled : (s.outcome oldest).isSome = true) :
      Act lax ⟨s, none⟩ ⟨(t.takeOldest oldest).finishDrain op (.ok (some oldest)), none⟩
        [.drained oldest]
  | wait (s t : StreamSender ρ) (op : StreamOpId) (o : StreamOp) (oldest : CallIndex)
    (idle : s.callStack = [])
      (found : s.ops[op]? = some o) (drains : s.Drains op oldest t)
      (unsettled : s.outcome oldest = none) :
      Act lax ⟨s, none⟩ ⟨t.goTo op (.draining oldest .pending), none⟩ []
  | finish (s t : StreamSender ρ) (op : StreamOpId) (o : StreamOp)
    (result : Except Thrown (Option CallIndex))
      (found : s.ops[op]? = some o) (holds : s.HoldsDrain op t)
      (empty : result.toOption.bind id = none) :
      Act lax ⟨s, none⟩ ⟨t.finishDrain op result, none⟩ []
  | lock (s : StreamSender ρ) (op : StreamOpId) (o : StreamOp) (found : s.ops[op]? = some o)
      (allowed : o.kind.allows o.stage = true → o.kind.allows .locked = true) :
      Act lax ⟨s, some op⟩ ⟨s.withDrainLock op, none⟩ []
  | put (s : StreamSender ρ) (op : StreamOpId) (o : StreamOp) (stage : StreamStage)
    (found : s.ops[op]? = some o)
      (allowed : o.kind.allows o.stage = true → o.kind.allows stage = true)
      (stands : stage.place = .loose ∨ stage.place = .settled)
      (awaits : ∀ call, stage = .admission call →
        o.stage = .calling call ∧ ∀ c, s.calls[call]? = some c → c.attached = true) :
      Act lax ⟨s, some op⟩ ⟨s.goTo op stage, none⟩ []
  | flushed (s : StreamSender ρ) (op : StreamOpId) (o : StreamOp) (failure : Option Thrown)
      (found : s.ops[op]? = some o) (window : s.inFlightCalls = [])
      (ready : s.readyResponses = []) :
      Act lax ⟨s, some op⟩ ⟨s.goTo op (.settled failure), none⟩ [.flushed op]
  | push (s : StreamSender ρ) (op : StreamOpId) (o : StreamOp) (params : StreamParams)
    (found : s.ops[op]? = some o)
      (sends : o.kind = .send params) (room : s.isFull params.initialBytes = false) :
      Act lax ⟨s, some op⟩ ⟨(s.push op params).1, none⟩ [.callFn s.calls.length]
  | deliver (s : StreamSender ρ) (hand : Option StreamOpId) (call : CallIndex)
    (rest : List CallIndex)
      (outcome : StreamCallSettled ρ) (effect : StreamEffect ρ)
      (first : s.readyResponses = call :: rest) (settled : s.outcome call = some outcome)
      (delivers : outcome.Delivers call effect)
      (kept : ∀ other error, effect ≠ .thrown other error) :
      Act lax ⟨s, hand⟩ ⟨{ s with readyResponses := rest }, hand⟩ [effect]
  | throw (s : StreamSender ρ) (hand : Option StreamOpId) (call : CallIndex) (rest : List CallIndex)
    (error : Thrown)
      (first : s.readyResponses = call :: rest) (settled : s.outcome call = some (.error error)) :
      Act lax ⟨s, hand⟩ ⟨rememberError { s with readyResponses := rest } error, hand⟩
        [.thrown call error]
  | skip (s : StreamSender ρ) (hand : Option StreamOpId) (call : CallIndex) (rest : List CallIndex)
      (first : s.readyResponses = call :: rest) (unsettled : s.outcome call = none) :
      Act lax ⟨s, hand⟩ ⟨{ s with readyResponses := rest }, hand⟩ []
  | remember (s : StreamSender ρ) (hand : Option StreamOpId) (error : Thrown) :
      Act lax ⟨s, hand⟩ ⟨s.rememberError error, hand⟩ []
  | note (s : StreamSender ρ) (hand : Option StreamOpId) (op : StreamOpId) (o : StreamOp)
    (failure : Option Thrown)
      (found : s.ops[op]? = some o) :
      Act lax ⟨s, hand⟩ ⟨s.setOp op fun _ => { o with failure := failure }, hand⟩ []
  | grant (s : StreamSender ρ) (op : StreamOpId) (o : StreamOp) (call : CallIndex) (byteLength : ℤ)
      (found : s.ops[op]? = some o) (reserves : o.kind = .reserveBytes call byteLength)
      (stands : o.stage = .encoding ∨ ∃ result, o.stage = .drained result)
      (room : s.hasByteCapacity byteLength = true) (fits : s.misfit call byteLength = false ∨ lax) :
      Act lax ⟨s, some op⟩ ⟨(s.grant call byteLength).releaseEncoding call, some op⟩ []
  | release (s : StreamSender ρ) (hand : Option StreamOpId) (call : CallIndex) :
      Act lax ⟨s, hand⟩ ⟨s.releaseEncoding call, hand⟩ []
  | own (s : StreamSender ρ) (hand : Option StreamOpId) (call : CallIndex) :
      Act lax ⟨s, hand⟩ ⟨s.setCall call fun c => { c with ownsEncoding := true }, hand⟩ []
  | settle (s : StreamSender ρ) (hand : Option StreamOpId) (call : CallIndex) (c : InFlightCall ρ)
      (outcome : StreamCallSettled ρ) (decision : Admission → Admission)
      (found : s.calls[call]? = some c) (attached : c.attached = true)
      (unsettled : c.settled = none) (released : c.ticket = false)
      (decides : ∀ admission, decision admission ≠ .pending)
      (admits : decision = .resolve ∧ (c.bytesReserved = true ∨ s.options.maxInFlightBytes = none) ∨
        ∃ error, decision = .reject error) :
      Act lax ⟨s, hand⟩ ⟨s.settleCall call outcome decision s.inFlightCalls, hand⟩ []
  | abandon (s : StreamSender ρ) (hand : Option StreamOpId) (call : CallIndex) (c : InFlightCall ρ)
      (outcome : StreamCallSettled ρ) (error : Thrown) (found : s.calls[call]? = some c)
      (attached : c.attached = true) (unsettled : c.settled = none) (released : c.ticket = false)
      (unreserved : c.bytesReserved = false) (bounded : s.options.maxInFlightBytes ≠ none) :
      Act lax ⟨s, hand⟩ ⟨s.settleCall call outcome (.reject error)
        (s.inFlightCalls.erase call), hand⟩ (if call ∈ s.inFlightCalls then [.removed call] else [])
  | attach (s : StreamSender ρ) (op : StreamOpId) (rest : List StreamOpId) (o : StreamOp)
    (call : CallIndex)
      (first : s.callStack = op :: rest) (found : s.ops[op]? = some o)
      (stands : o.stage = .calling call) :
      Act lax ⟨s, none⟩
        ⟨notifyStateChange { s.setCall call fun c => { c with attached := true } with
          callStack := rest }, some op⟩ []
  | drop (s : StreamSender ρ) (op : StreamOpId) (rest : List StreamOpId) (o : StreamOp)
    (call : CallIndex)
      (first : s.callStack = op :: rest) (found : s.ops[op]? = some o)
      (stands : o.stage = .calling call)
      (released : ∀ c, s.calls[call]? = some c → c.ticket = false) :
      Act lax ⟨s, none⟩ ⟨s.dropCall call rest, some op⟩
        (if call ∈ s.inFlightCalls then [.removed call] else [])
  | reject (s : StreamSender ρ) (hand : Option StreamOpId) (call : CallIndex) (error : Thrown) :
      Act lax ⟨s, hand⟩
        ⟨notifyStateChange (s.setCall call fun c =>
          { c with admission := c.admission.reject error }), hand⟩ []
  | cancel (s : StreamSender ρ) (hand : Option StreamOpId) (reason : Option Thrown) :
      Act lax ⟨s, hand⟩ ⟨s.cancelStream reason, hand⟩ []
  | signalAborts (s : StreamSender ρ) (hand : Option StreamOpId) :
      Act lax ⟨s, hand⟩ ⟨notifyStateChange { s with signalAborted := true }, hand⟩ []
  | waitAborts (s : StreamSender ρ) (hand : Option StreamOpId) (op : StreamOpId) (reason : Thrown) :
      Act lax ⟨s, hand⟩ ⟨s.waitAborts op reason, hand⟩ []

inductive Acts (lax : Prop) : StreamMidway ρ → StreamMidway ρ → List (StreamEffect ρ) → Prop
  | nil (m : StreamMidway ρ) : Acts lax m m []
  | cons {m m' m'' : StreamMidway ρ} {effects more : List (StreamEffect ρ)}
    (act : Act lax m m' effects)
      (acts : Acts lax m' m'' more) : Acts lax m m'' (effects ++ more)

namespace Acts

variable {m m' m'' : StreamMidway ρ} {effects more : List (StreamEffect ρ)}

theorem one (act : Act lax m m' effects) : Acts lax m m' effects := by
  have acts := cons act (.nil m')
  rwa [List.append_nil] at acts

/-- An act without effects comes first. -/
theorem silent (act : Act lax m m' []) (acts : Acts lax m' m'' effects) : Acts lax m m'' effects :=
  .cons act acts

/-- The acts after an act with effects have none. -/
theorem then_silent (act : Act lax m m' effects) (acts : Acts lax m' m'' []) :
    Acts lax m m'' effects := by
  have both := cons act acts
  rwa [List.append_nil] at both

/-- What every act keeps of the sender and of the effects so far. -/
theorem history {P : List (StreamEffect ρ) → StreamMidway ρ → Prop}
    (kept : ∀ past m m' effects, Act lax m m' effects → P past m → P (past ++ effects) m')
    (acts : Acts lax m m' effects) {past : List (StreamEffect ρ)} (holds : P past m) :
    P (past ++ effects) m' := by
  induction acts generalizing past with
  | nil =>
    rw [List.append_nil]
    exact holds
  | cons act _ ih =>
    rw [← List.append_assoc]
    exact ih (kept _ _ _ _ act holds)

/-- What every act keeps of the sender. -/
theorem invariant {P : StreamMidway ρ → Prop}
    (kept : ∀ m m' effects, Act lax m m' effects → P m → P m') (acts : Acts lax m m' effects)
    (holds : P m) : P m' := by
  induction acts with
  | nil => exact holds
  | cons act _ ih => exact ih (kept _ _ _ act holds)

end Acts

/-! ## What the small changes leave -/

theorem allows_settled (kind : StreamOpKind) (failure : Option Thrown) :
    kind.allows (.settled failure) = true := by
  cases kind <;> rfl

/-- An operation that delivers comes to every stage of a delivery. -/
theorem allows_delivery {kind : StreamOpKind} (delivers : kind.allows .returned = true) :
    kind.allows .locked = true ∧ (∀ call, kind.allows (.delivering call) = true) ∧
      ∀ failure, kind.allows (.delivered failure) = true := by
  cases kind with
  | send | waitForCapacity | flush | cancel => exact ⟨rfl, fun _ => rfl, fun _ => rfl⟩
  | prepare | reserveBytes => cases delivers

/-- The operation is as it was, or its wait for a change of the state is over. -/
def Stirred (o o' : StreamOp) : Prop :=
  o' = o ∨ ∃ oldest, o.stage = .draining oldest .pending ∧
    o' = { o with stage := .draining oldest .resolved }

theorem Stirred.kind {o o' : StreamOp} (stirred : Stirred o o') : o'.kind = o.kind := by
  obtain rfl | ⟨oldest, -, rfl⟩ := stirred <;> rfl

theorem Stirred.allows {o o' : StreamOp} (stirred : Stirred o o') :
    o.kind.allows o'.stage = o.kind.allows o.stage := by
  obtain rfl | ⟨oldest, stands, rfl⟩ := stirred
  · rfl
  · rw [stands]
    cases o.kind <;> rfl

theorem Stirred.stays {o o' : StreamOp} (stirred : Stirred o o')
    (stands : ∀ oldest, o.stage ≠ .draining oldest .pending) : o' = o := by
  obtain same | ⟨oldest, drains, -⟩ := stirred
  · exact same
  · exact absurd drains (stands oldest)

/-- Only the stage of the holder of the drain lock changes. -/
theorem notify_op (found : s.ops[op]? = some o) : ∃ o', s.notifyStateChange.ops[op]? = some o' ∧
    Stirred o o' := by
  unfold notifyStateChange
  cases s.drainHolder with
  | none => exact ⟨o, found, .inl rfl⟩
  | some holder =>
    by_cases same : op = holder
    · subst same
      refine ⟨_, Heap.modify_self found, ?_⟩
      split
      · next oldest stands => exact .inr ⟨oldest, stands, rfl⟩
      · exact .inl rfl
    · exact ⟨o, (Heap.modify_other same).trans found, .inl rfl⟩

theorem notify_only (s : StreamSender ρ) :
    s.notifyStateChange = { s with ops := s.notifyStateChange.ops } := by
  unfold notifyStateChange
  split <;> rfl

theorem rememberError_op (error : Thrown) (found : s.ops[op]? = some o) :
    ∃ o', (s.rememberError error).ops[op]? = some o' ∧ Stirred o o' := by
  unfold rememberError
  split
  · exact ⟨o, found, .inl rfl⟩
  · have same : ({ s with firstError := some error } : StreamSender ρ).ops[op]? = some o := found
    exact notify_op same

theorem releaseEncoding_op (call : CallIndex) (found : s.ops[op]? = some o) :
    ∃ o', (s.releaseEncoding call).ops[op]? = some o' ∧ Stirred o o' := by
  have same : (s.setCall call fun c => { c with ownsEncoding := false, ticket := false }).ops[op]? =
      some o := found
  exact notify_op same

/-! ## The acts of the operations -/

theorem acts_settleOp (failure : Option Thrown) (found : s.ops[op]? = some o) :
    Acts lax ⟨s, some op⟩ ⟨(s.settleOp op failure).1, none⟩ (s.settleOp op failure).2 :=
  .one (.put s op o _ found (fun _ => allows_settled o.kind failure) (.inr rfl) nofun)

theorem acts_deliverReady (found : s.ops[op]? = some o)
    (delivers : o.kind.allows o.stage = true → o.kind.allows .returned = true) :
    Acts lax ⟨s, some op⟩ ⟨(s.deliverReadyResponses op).1, none⟩
      (s.deliverReadyResponses op).2 := by
  have delivering call (allowed : o.kind.allows o.stage = true) :
      o.kind.allows (.delivering call) = true :=
    (allows_delivery (delivers allowed)).2.1 call
  have delivered failure (allowed : o.kind.allows o.stage = true) :
      o.kind.allows (.delivered failure) = true :=
    (allows_delivery (delivers allowed)).2.2 failure
  unfold deliverReadyResponses
  cases first : s.readyResponses with
  | nil => exact .one (.put s op o .returned found delivers (.inl rfl) nofun)
  | cons call rest =>
    have found' : ({ s with readyResponses := rest } : StreamSender ρ).ops[op]? = some o := found
    have same : ({ s with readyResponses := rest } : StreamSender ρ).outcome call =
        s.outcome call := rfl
    dsimp only
    unfold deliverSettled
    rw [same]
    cases settled : s.outcome call with
    | none =>
      exact .silent (.skip s (some op) call rest first settled)
        (.one (.put _ op o (.delivered none) found' (delivered none) (.inl rfl) nofun))
    | some outcome =>
      cases outcome with
      | ok value =>
        dsimp only
        split_ifs
        · exact .then_silent (.deliver s (some op) call rest _ _ first settled (.inl rfl) nofun)
            (.one (.put _ op o (.delivering call) found' (delivering call) (.inl rfl) nofun))
        · exact .then_silent (.deliver s (some op) call rest _ _ first settled (.inr rfl) nofun)
            (.one (.put _ op o (.delivered none) found' (delivered none) (.inl rfl) nofun))
      | error error =>
        dsimp only
        split_ifs
        · exact .then_silent (.deliver s (some op) call rest _ _ first settled (.inl rfl) nofun)
            (.one (.put _ op o (.delivering call) found' (delivering call) (.inl rfl) nofun))
        · obtain ⟨o', there, stirred⟩ := rememberError_op error found'
          refine .then_silent (.throw s (some op) call rest error first settled)
            (.one (.put _ op o' (.delivered (some error)) there ?_ (.inl rfl) nofun))
          intro allowed
          rw [stirred.kind, stirred.allows] at allowed
          rw [stirred.kind]
          exact delivered _ allowed

theorem acts_flushLoop (found : s.ops[op]? = some o)
    (flushes : o.kind.allows o.stage = true → o.kind.allows .returned = true) (other : StreamOp) :
    Acts lax ⟨s, some op⟩ ⟨(s.flushLoop op other).1, none⟩ (s.flushLoop op other).2 := by
  unfold flushLoop
  by_cases ready : s.readyResponses = []
  · rw [if_neg (not_not_intro ready)]
    by_cases window : s.inFlightCalls = []
    · rw [if_neg (not_not_intro window)]
      exact .one (.flushed s op o _ found window ready)
    · rw [if_pos window]
      exact .one (.lock s op o found fun allowed => (allows_delivery (flushes allowed)).1)
  · rw [if_pos ready]
    exact acts_deliverReady found flushes

theorem acts_sendLoop (found : s.ops[op]? = some o) {params : StreamParams}
    (sends : o.kind = .send params) :
    Acts lax ⟨s, some op⟩ ⟨(s.sendLoop op params).1, none⟩ (s.sendLoop op params).2 := by
  unfold sendLoop
  split_ifs with full
  · exact .one (.lock s op o found fun _ => by rw [sends]; rfl)
  · exact .one (.push s op o params found sends (Bool.eq_false_iff.2 full))

theorem acts_waitLoop (found : s.ops[op]? = some o) (waits : o.kind = .waitForCapacity byteLength) :
    Acts lax ⟨s, some op⟩ ⟨(s.waitLoop op byteLength).1, none⟩ (s.waitLoop op byteLength).2 := by
  unfold waitLoop
  split_ifs
  · exact .one (.lock s op o found fun _ => by rw [waits]; rfl)
  · exact acts_settleOp none found

theorem acts_goOn (found : s.ops[op]? = some o) (stands : o.stage = .returned) :
    Acts lax ⟨s, none⟩ ⟨(s.goOn op o).1, none⟩ (s.goOn op o).2 := by
  have picked : Act lax ⟨s, none⟩ ⟨s, some op⟩ [] := .pick s op o found (by rw [stands]; rfl)
  unfold goOn
  cases kind : o.kind with
  | send params =>
    refine .silent picked ?_
    dsimp only
    split_ifs
    · exact acts_settleOp none found
    · cases s.checks with
      | some error => exact acts_settleOp (some error) found
      | none => exact acts_sendLoop found kind
  | waitForCapacity byteLength =>
    refine .silent picked ?_
    dsimp only
    cases s.checks with
    | some error => exact acts_settleOp (some error) found
    | none => exact acts_waitLoop found kind
  | flush => exact .silent picked (acts_flushLoop found (fun _ => by rw [kind]; rfl) o)
  | cancel => exact .silent picked (acts_flushLoop found (fun _ => by rw [kind]; rfl) o)
  | prepare | reserveBytes => exact .nil _

theorem acts_fails (found : s.ops[op]? = some o) (error : Thrown) :
    Acts lax ⟨s, some op⟩ ⟨(s.fails op o error).1, none⟩ (s.fails op o error).2 := by
  have flushes (delivers : o.kind.allows .returned = true) (failed : StreamOp)
      (noting : failed = { o with failure := o.failure.or (some error) }) :
      Acts lax ⟨s, some op⟩ ⟨((s.setOp op fun _ => failed).flushLoop op failed).1, none⟩
        ((s.setOp op fun _ => failed).flushLoop op failed).2 := by
    have noted : (s.setOp op fun _ => failed).ops[op]? = some failed := Heap.modify_self found
    have same : failed.kind = o.kind := by rw [noting]
    refine .silent ?_ (acts_flushLoop noted (fun _ => by rw [same]; exact delivers) failed)
    rw [noting]
    exact .note s (some op) op o (o.failure.or (some error)) found
  unfold fails
  split
  · next kind => exact flushes (by rw [kind]; rfl) _ rfl
  · next kind => exact flushes (by rw [kind]; rfl) _ rfl
  all_goals exact acts_settleOp (some error) found

/-! ### Bytes -/

theorem acts_endReservation (found : s.ops[op]? = some o) (call : CallIndex)
    (failure : Option Thrown) :
    Acts lax ⟨s, some op⟩ ⟨(s.endReservation op call failure).1, none⟩
      (s.endReservation op call failure).2 := by
  obtain ⟨o', there, -⟩ := releaseEncoding_op call found
  exact .silent (.release s (some op) call) (acts_settleOp failure there)

theorem acts_reserveLoop (found : s.ops[op]? = some o)
    (reserves : o.kind = .reserveBytes call byteLength)
    (stands : o.stage = .encoding ∨ ∃ result, o.stage = .drained result)
    (fits : s.hasByteCapacity byteLength = true → s.checks = none → s.misfit call byteLength =
      false ∨ lax) :
    Acts lax ⟨s, some op⟩ ⟨(s.reserveLoop op call byteLength).1, none⟩
      (s.reserveLoop op call byteLength).2 := by
  unfold reserveLoop
  by_cases room : s.hasByteCapacity byteLength = true
  · rw [if_neg (by rw [room]; exact Bool.false_ne_true)]
    cases checks : s.checks with
    | some error => exact acts_endReservation found call (some error)
    | none =>
      have same : (s.grant call byteLength).ops[op]? = some o := found
      obtain ⟨o', there, -⟩ := releaseEncoding_op call same
      exact .silent (.grant s op o call byteLength found reserves stands room (fits room checks))
        (acts_settleOp none there)
  · rw [if_pos (by rw [Bool.eq_false_iff.2 room]; rfl)]
    refine .one (.lock s op o found fun allowed => ?_)
    rw [reserves] at allowed ⊢
    rcases stands with stands | ⟨result, stands⟩ <;> (rw [stands] at allowed; exact allowed)

theorem acts_prepared (found : s.ops[op]? = some o) (stands : o.stage = .ticket) :
    Acts lax ⟨s, none⟩ ⟨(s.prepared op o).1, none⟩ (s.prepared op o).2 := by
  have picked : Act lax ⟨s, none⟩ ⟨s, some op⟩ [] := .pick s op o found (by rw [stands]; rfl)
  unfold prepared
  cases kind : o.kind with
  | prepare call =>
    dsimp only
    split_ifs
    · exact .nil _
    · refine .silent picked ?_
      cases s.checks with
      | some error => exact acts_settleOp (some error) found
      | none =>
        have owned : (s.setCall call fun c => { c with ownsEncoding := true }).ops[op]? = some o :=
          found
        exact .silent (.own s (some op) call) (acts_settleOp none owned)
  | reserveBytes call byteLength =>
    dsimp only
    split_ifs
    · exact .nil _
    · refine .silent picked ?_
      cases s.checks with
      | some error => exact acts_endReservation found call (some error)
      | none =>
        have owned : (s.setCall call fun c => { c with ownsEncoding := true }).ops[op]? = some o :=
          found
        refine .silent (.own s (some op) call)
          (.one (.put _ op o .encoding owned (fun allowed => ?_) (.inl rfl) nofun))
        rw [kind, stands] at allowed
        rw [kind]
        exact allowed
  | send | waitForCapacity | flush | cancel => exact .nil _

/-! ### The drain -/

theorem acts_takeSettledHead {t : StreamSender ρ} (idle : s.callStack = [])
    (found : s.ops[op]? = some o) (drains : s.Drains op oldest t) :
    Acts lax ⟨s, none⟩ ⟨(t.takeSettledHead op o oldest).1, none⟩
      (t.takeSettledHead op o oldest).2 := by
  have same : t.outcome oldest = s.outcome oldest := by cases drains <;> rfl
  unfold takeSettledHead
  rw [same]
  cases settled : s.outcome oldest with
  | some outcome => exact .one (.take s t op o oldest idle found drains (by rw [settled]; rfl))
  | none =>
    dsimp only
    split
    · next error _ => exact .one (.finish s t op o (.error error) found drains.holds rfl)
    · cases o.aborted with
      | some reason => exact .one (.finish s t op o (.error reason) found drains.holds rfl)
      | none => exact .one (.wait s t op o oldest idle found drains settled)

theorem acts_lockStarts (idle : s.callStack = []) :
    Acts lax ⟨s, none⟩ ⟨s.lockStarts.1, none⟩ s.lockStarts.2 := by
  unfold lockStarts
  split
  · next op rest free first =>
    cases found : s.ops[op]? with
    | none => exact .nil _
    | some o =>
      dsimp only
      cases window : s.inFlightCalls with
      | nil =>
        have held : s.hold op rest =
            { s with drainHolder := some op, drainQueue := rest, inFlightCalls := [] } := by
          rw [← window]
          rfl
        rw [← held]
        exact .one (.finish s _ op o (.ok none) found (.starts rest free first) rfl)
      | cons oldest others =>
        have held : s.hold op rest =
            { s with drainHolder := some op, drainQueue := rest, inFlightCalls :=
              oldest :: others } := by
          rw [← window]
          rfl
        have head : s.inFlightCalls.head? = some oldest := by rw [window]; rfl
        rw [← held]
        exact acts_takeSettledHead idle found (.starts rest free first head)
  · exact .nil _

theorem acts_goPastLock (found : s.ops[op]? = some o) {taken : Option CallIndex}
    (stands : o.stage = .drained (.ok taken))
    (fits : ∀ call byteLength, o.kind = .reserveBytes call byteLength →
      s.hasByteCapacity byteLength = true →
      s.checks = none → s.misfit call byteLength = false ∨ lax) :
    Acts lax ⟨{ s with readyResponses := s.readyResponses ++ taken.toList }, some op⟩
      ⟨(s.goPastLock op o taken).1, none⟩ (s.goPastLock op o taken).2 := by
  have found' : ({ s with readyResponses := s.readyResponses ++ taken.toList } : StreamSender
      ρ).ops[op]? = some o :=
    found
  unfold goPastLock
  dsimp only
  split
  · next call byteLength kind =>
    split
    · next error _ => exact acts_endReservation found' call (some error)
    · next checks =>
      exact acts_reserveLoop found' kind (.inr ⟨_, stands⟩) fun room _ =>
        fits call byteLength kind room checks
  all_goals
    refine acts_deliverReady found' fun allowed => ?_
    rw [stands] at allowed
    next kind =>
      rw [kind] at allowed ⊢
      exact allowed

theorem acts_failPastLock (found : s.ops[op]? = some o) (error : Thrown) :
    Acts lax ⟨s, some op⟩ ⟨(s.failPastLock op o error).1, none⟩ (s.failPastLock op o error).2 := by
  unfold failPastLock
  split
  · next call _ _ => exact acts_endReservation found call (some error)
  all_goals exact acts_fails found error

/-! ### The outcome of a call -/

theorem resolve_ne_pending (admission : Admission) : admission.resolve ≠ .pending := by
  cases admission <;> nofun

theorem reject_ne_pending (error : Thrown) (admission : Admission) :
    admission.reject error ≠ .pending := by
  cases admission <;> nofun

theorem releaseEncoding_call {c : InFlightCall ρ} (found : s.calls[call]? = some c) :
    (s.releaseEncoding call).calls[call]? =
      some { c with ownsEncoding := false, ticket := false } := by
  unfold releaseEncoding
  rw [notify_only]
  exact Heap.modify_self found

theorem acts_callSettles {c : InFlightCall ρ} (found : s.calls[call]? = some c)
    (outcome : StreamCallSettled ρ) :
    Acts lax ⟨s, none⟩ ⟨(s.callSettles call c outcome).1, none⟩
      (s.callSettles call c outcome).2 := by
  have found' := releaseEncoding_call found
  have abandons (attached : c.attached = true) (unsettled : c.settled = none)
      (cause error : Thrown) :
      Acts lax ⟨s.releaseEncoding call, none⟩
        ⟨(((s.releaseEncoding call).setCall call fun c => { c with
          settled := some (.error cause), admission := c.admission.reject error }).abandonUnadmitted
            call c.bytesReserved).1.notifyStateChange, none⟩
        (((s.releaseEncoding call).setCall call fun c => { c with
          settled := some (.error cause), admission := c.admission.reject error }).abandonUnadmitted
            call c.bytesReserved).2 := by
    unfold abandonUnadmitted
    split
    · exact .one (.settle _ none call _ (.error cause) (.reject error) found' attached unsettled rfl
        (reject_ne_pending error) (.inr ⟨error, rfl⟩))
    · next leaves =>
      rw [Bool.or_eq_true, not_or] at leaves
      refine .one (.abandon _ none call _ (.error cause) error found' attached unsettled rfl
        (Bool.eq_false_iff.2 leaves.1) fun unbounded => leaves.2 ?_)
      exact Option.isNone_iff_eq_none.2 unbounded
  unfold callSettles
  split_ifs with pending
  · rw [Bool.and_eq_true, Option.isNone_iff_eq_none] at pending
    obtain ⟨attached, unsettled⟩ := pending
    refine .silent (.release s none call) ?_
    cases outcome with
    | ok value =>
      dsimp only
      split
      · exact abandons attached unsettled _ _
      · next admits =>
        refine .one (.settle _ none call _ (.ok value) .resolve found' attached unsettled rfl
          resolve_ne_pending ?_)
        rw [Bool.and_eq_true, not_and_or, Bool.not_eq_true', Bool.not_eq_false,
          Option.not_isSome_iff_eq_none] at admits
        exact .inl ⟨rfl, admits⟩
    | error cause => exact abandons attached unsettled cause cause
  · exact .nil _

theorem acts_callFnReturns {rest : List StreamOpId} (first : s.callStack = op :: rest)
    (found : s.ops[op]? = some o) (stands : o.stage = .calling call) :
    Acts lax ⟨s, none⟩ ⟨(s.callFnReturns op rest call).1, none⟩
      (s.callFnReturns op rest call).2 := by
  have found' : ({ s.setCall call fun c => { c with attached := true } with callStack := rest } :
      StreamSender ρ).ops[op]? = some o := found
  obtain ⟨o', there, stirred⟩ := notify_op found'
  obtain rfl : o' = o := stirred.stays (by rw [stands]; nofun)
  refine .silent (.attach s op rest o' call first found stands) ?_
  unfold callFnReturns
  dsimp only
  split_ifs
  · refine .one (.put _ op o' (.admission call) there (fun allowed => ?_) (.inl rfl) ?_)
    · rw [stands] at allowed
      cases kind : o'.kind with
      | send => rfl
      | waitForCapacity | flush | cancel | prepare | reserveBytes =>
        rw [kind] at allowed
        cases allowed
    · rintro _ ⟨⟩
      refine ⟨stands, fun c attached => ?_⟩
      rw [notify_only] at attached
      obtain ⟨-, c', -, rfl⟩ | ⟨other, -⟩ := Heap.of_modify attached
      · rfl
      · exact absurd rfl other
  · exact acts_settleOp none there

theorem acts_callFnThrows (error : Thrown) {rest : List StreamOpId}
    (first : s.callStack = op :: rest) (found : s.ops[op]? = some o)
    (stands : o.stage = .calling call) :
    Acts lax ⟨s, none⟩ ⟨(s.callFnThrows error op rest call).1, none⟩
      (s.callFnThrows error op rest call).2 := by
  obtain ⟨o₁, there₁, stirred₁⟩ := releaseEncoding_op call found
  obtain rfl : o₁ = o := stirred₁.stays (by rw [stands]; nofun)
  have first' : (s.releaseEncoding call).callStack = op :: rest := by
    unfold releaseEncoding
    rw [notify_only]
    exact first
  have there₂ : ((s.releaseEncoding call).dropCall call rest).ops[op]? = some o₁ := there₁
  obtain ⟨o₃, there₃, -⟩ := rememberError_op error there₂
  have there₄ :
      ((((s.releaseEncoding call).dropCall call rest).rememberError error).setCall call fun c =>
      { c with admission := c.admission.reject error }).ops[op]? = some o₃ := there₃
  obtain ⟨o₅, there₅, -⟩ := notify_op there₄
  have released c (there : (s.releaseEncoding call).calls[call]? = some c) : c.ticket = false := by
    unfold releaseEncoding at there
    rw [notify_only] at there
    obtain ⟨-, c', -, rfl⟩ | ⟨other, -⟩ := Heap.of_modify there
    · rfl
    · exact absurd rfl other
  refine .silent (.release s none call)
    (.then_silent (.drop _ op rest o₁ call first' there₁ stands released) ?_)
  exact .silent (.remember _ (some op) error)
    (.silent (.reject _ (some op) call error) (acts_settleOp (some error) there₅))

theorem acts_callbackSettles (found : s.ops[op]? = some o) (thrown : Option Thrown) :
    Acts lax ⟨s, none⟩ ⟨(s.callbackSettles op o thrown).1, none⟩
      (s.callbackSettles op o thrown).2 := by
  unfold callbackSettles
  split
  · next call stands =>
    have allowed failure (allowed : o.kind.allows o.stage = true) :
        o.kind.allows (.delivered failure) = true := by
      rw [stands] at allowed
      cases kind : o.kind with
      | send | waitForCapacity | flush | cancel => rfl
      | prepare | reserveBytes =>
        rw [kind] at allowed
        cases allowed
    refine .silent (.pick s op o found (by rw [stands]; rfl)) ?_
    cases thrown with
    | none => exact .one (.put s op o (.delivered none) found (allowed none) (.inl rfl) nofun)
    | some error =>
      obtain ⟨o', there, stirred⟩ := rememberError_op error found
      obtain rfl : o' = o := stirred.stays (by rw [stands]; nofun)
      exact .silent (.remember s (some op) error)
        (.one (.put _ op o' (.delivered (some error)) there (allowed _) (.inl rfl) nofun))
  · exact .nil _

/-- The reservation that the step is to grant, if it does. -/
def reserving (s : StreamSender ρ) : StreamEvent ρ → Option (CallIndex × ℤ)
  | .resume op =>
    match s.ops[op]? with
    | some ⟨.reserveBytes call byteLength, _, _, _, .encoding⟩ => some (call, byteLength)
    | _ => none
  | .handOver =>
    match s.handing with
    | op :: _ =>
      match s.ops[op]? with
      | some ⟨.reserveBytes call byteLength, _, _, _, .drained (.ok _)⟩ => some (call, byteLength)
      | _ => none
    | [] => none
  | _ => none

/-- The step grants a reservation for a call that has its bytes already, or has left the window. -/
def misreserves (s : StreamSender ρ) (event : StreamEvent ρ) : Bool :=
  match s.reserving event with
  | some (call, byteLength) =>
    s.callStack.isEmpty && s.hasByteCapacity byteLength && s.checks.isNone &&
      s.misfit call byteLength
  | none => false

theorem reservation_fits {event : StreamEvent ρ} {byteLength : ℤ} (idle : s.callStack = [])
    (reserves : s.reserving event = some (call, byteLength))
    (room : s.hasByteCapacity byteLength = true) (checks : s.checks = none) :
    s.misfit call byteLength = false ∨ s.misreserves event = true := by
  unfold misreserves
  rw [reserves]
  dsimp only
  rw [idle, room, checks]
  cases s.misfit call byteLength with
  | false => exact .inl rfl
  | true => exact .inr rfl

theorem acts_handOver (idle : s.callStack = []) :
    Acts (s.misreserves .handOver = true) ⟨s, none⟩ ⟨s.handOver.1, none⟩ s.handOver.2 := by
  unfold handOver
  cases first : s.handing with
  | nil => exact .nil _
  | cons op rest =>
    dsimp only
    cases found : s.ops[op]? with
    | none => exact .nil _
    | some o =>
      have found' : ({ s with handing := rest } : StreamSender ρ).ops[op]? = some o := found
      dsimp only
      split
      · next taken stands =>
        refine .silent (.pass s op rest o _ first found stands) (acts_goPastLock found' stands ?_)
        intro call byteLength reserves room checks
        refine reservation_fits idle ?_ room checks
        obtain ⟨kind, aborted, failure, accepted, stage⟩ := o
        obtain rfl : kind = _ := reserves
        obtain rfl : stage = _ := stands
        simp only [reserving, first, found]
      · next error stands =>
        have passed : Act (s.misreserves .handOver = true) ⟨s, none⟩ _ _ :=
          .pass s op rest o _ first found stands
        have same : s.readyResponses ++
            (((.error error : Except Thrown (Option CallIndex)).toOption.bind id).toList) =
            s.readyResponses := List.append_nil _
        rw [same] at passed
        exact .silent passed (acts_failPastLock found' error)
      · exact .nil _

/-! ### Steps -/

theorem acts_resume (idle : s.callStack = []) (found : s.ops[op]? = some o) :
    Acts (s.misreserves (.resume op) = true) ⟨s, none⟩ ⟨(s.resume op o).1, none⟩
      (s.resume op o).2 := by
  have deliver (stands : o.stage = .delivered none ∨ ∃ call, o.stage = .admission call) :
      Acts (s.misreserves (.resume op) = true) ⟨s, none⟩ ⟨(s.deliverReadyResponses op).1, none⟩
        (s.deliverReadyResponses op).2 := by
    have loose : o.stage.place = .loose := by
      rcases stands with stands | ⟨call, stands⟩ <;> (rw [stands]; rfl)
    refine .silent (.pick s op o found loose) (acts_deliverReady found fun allowed => ?_)
    rcases stands with stands | ⟨call, stands⟩ <;> rw [stands] at allowed
    · cases kind : o.kind with
      | send | waitForCapacity | flush | cancel => rfl
      | prepare | reserveBytes =>
        rw [kind] at allowed
        cases allowed
    · cases kind : o.kind with
      | send => rfl
      | waitForCapacity | flush | cancel | prepare | reserveBytes =>
        rw [kind] at allowed
        cases allowed
  unfold resume
  cases stands : o.stage with
  | ticket => exact acts_prepared found stands
  | encoding =>
    dsimp only
    split
    · next call byteLength reserves =>
      refine .silent (.pick s op o found (by rw [stands]; rfl))
        (acts_reserveLoop found reserves (.inl stands) ?_)
      intro room checks
      refine reservation_fits idle ?_ room checks
      obtain ⟨kind, aborted, failure, accepted, stage⟩ := o
      obtain rfl : kind = _ := reserves
      obtain rfl : stage = _ := stands
      simp only [reserving, found]
    · exact .nil _
  | draining oldest wait =>
    cases wait with
    | pending => exact .nil _
    | resolved => exact acts_takeSettledHead idle found (.goesOn o _ found stands)
    | rejected error =>
      exact .one (.finish s s op o (.error error) found (.goesOn o oldest _ found stands) rfl)
  | delivered failure =>
    cases failure with
    | none => exact deliver (.inl stands)
    | some error =>
      exact .silent (.pick s op o found (by rw [stands]; rfl)) (acts_fails found error)
  | returned => exact acts_goOn found stands
  | admission call =>
    dsimp only
    cases s.calls[call]? with
    | none => exact .nil _
    | some c =>
      dsimp only
      cases c.admission with
      | pending => exact .nil _
      | resolved => exact deliver (.inr ⟨call, stands⟩)
      | rejected error =>
        exact .silent (.pick s op o found (by rw [stands]; rfl)) (acts_settleOp (some error) found)
  | running | calling | locked | drained | delivering | settled => exact .nil _

/-- An operation that begins. -/
theorem acts_begin (kind : StreamOpKind) (aborted : Option Thrown)
    (act : StreamSender ρ → StreamOpId → StreamOp → StreamSender ρ × List (StreamEffect ρ))
    (acts : ∀ (t : StreamSender ρ) (op : StreamOpId) (o : StreamOp), t.ops[op]? = some o →
      o.kind = kind →
      o.stage = .running → Acts lax ⟨t, some op⟩ ⟨(act t op o).1, none⟩ (act t op o).2) :
    Acts lax ⟨s, none⟩ ⟨(s.begin kind aborted act).1, none⟩ (s.begin kind aborted act).2 :=
  .silent (.begin s kind aborted) (acts _ _ _ (by exact List.getElem?_concat_length) rfl rfl)

theorem acts_startSend {params : StreamParams} (found : s.ops[op]? = some o)
    (sends : o.kind = .send params) :
    Acts lax ⟨s, some op⟩ ⟨(startSend params s op o).1, none⟩ (startSend params s op o).2 := by
  unfold startSend
  split
  · next error _ => exact acts_settleOp (some error) found
  · exact acts_sendLoop found sends

theorem acts_startWait (found : s.ops[op]? = some o)
    (waits : o.kind = .waitForCapacity byteLength) :
    Acts lax ⟨s, some op⟩ ⟨(startWait byteLength s op o).1, none⟩
      (startWait byteLength s op o).2 := by
  unfold startWait
  split
  · next error _ => exact acts_settleOp (some error) found
  · exact acts_waitLoop found waits

theorem acts_startPrepare (found : s.ops[op]? = some o) (prepares : o.kind = .prepare call) :
    Acts lax ⟨s, some op⟩ ⟨(startPrepare call s op o).1, none⟩ (startPrepare call s op o).2 := by
  unfold startPrepare
  split_ifs
  · exact acts_settleOp none found
  · exact .one (.put s op o .ticket found (fun _ => by rw [prepares]; rfl) (.inl rfl) nofun)

theorem validateByteLength_nonneg (valid : s.validateByteLength byteLength = none) :
    0 ≤ byteLength := by
  unfold validateByteLength at valid
  split at valid
  · cases valid
  · next within => omega

theorem acts_startReservation (found : s.ops[op]? = some o)
    (reserves : o.kind = .reserveBytes call byteLength) (c : InFlightCall ρ) :
    Acts lax ⟨s, some op⟩ ⟨(startReservation call byteLength c s op o).1, none⟩
      (startReservation call byteLength c s op o).2 := by
  unfold startReservation
  split
  · next error _ => exact acts_endReservation found call (some error)
  · next valid =>
    have nonneg := validateByteLength_nonneg valid
    split_ifs
    · exact acts_endReservation found call none
    · exact acts_endReservation found call _
    · exact .one (.put s op o .encoding found
        (fun _ => by rw [reserves]; exact decide_eq_true nonneg) (.inl rfl) nofun)
    · exact .one (.put s op o .ticket found (fun _ => by rw [reserves]; exact decide_eq_true nonneg)
        (.inl rfl) nofun)

theorem acts_atCallFn (act : StreamOpId → List StreamOpId → CallIndex →
      StreamSender ρ × List (StreamEffect ρ))
    (acts : ∀ op rest o call, s.callStack = op :: rest → s.ops[op]? = some o →
      o.stage = .calling call →
      Acts lax ⟨s, none⟩ ⟨(act op rest call).1, none⟩ (act op rest call).2) :
    Acts lax ⟨s, none⟩ ⟨(s.atCallFn act).1, none⟩ (s.atCallFn act).2 := by
  unfold atCallFn
  cases first : s.callStack with
  | nil => exact .nil _
  | cons op rest =>
    dsimp only
    cases found : s.ops[op]? with
    | none => exact .nil _
    | some o =>
      dsimp only
      split
      · next call stands => exact acts op rest o call first found stands
      · exact .nil _

theorem acts_idly {result : StreamSender ρ × List (StreamEffect ρ)}
    (acts : s.callStack = [] → Acts lax ⟨s, none⟩ ⟨result.1, none⟩ result.2) :
    Acts lax ⟨s, none⟩ ⟨(s.idly result).1, none⟩ (s.idly result).2 := by
  unfold idly
  split_ifs with idle
  · exact acts idle
  · exact .nil _

theorem acts_atCall (act : InFlightCall ρ → StreamSender ρ × List (StreamEffect ρ))
    (acts : ∀ c, s.calls[call]? = some c → Acts lax ⟨s, none⟩ ⟨(act c).1, none⟩ (act c).2) :
    Acts lax ⟨s, none⟩ ⟨(s.atCall call act).1, none⟩ (s.atCall call act).2 := by
  unfold atCall
  cases found : s.calls[call]? with
  | none => exact .nil _
  | some c => exact acts c found

theorem acts_atOp (act : StreamOp → StreamSender ρ × List (StreamEffect ρ))
    (acts : ∀ o, s.ops[op]? = some o → Acts lax ⟨s, none⟩ ⟨(act o).1, none⟩ (act o).2) :
    Acts lax ⟨s, none⟩ ⟨(s.atOp op act).1, none⟩ (s.atOp op act).2 := by
  unfold atOp
  cases found : s.ops[op]? with
  | none => exact .nil _
  | some o => exact acts o found

/-- A step is a sequence of acts. -/
theorem acts_step (s : StreamSender ρ) (event : StreamEvent ρ) :
    Acts (s.misreserves event = true) ⟨s, none⟩ ⟨(s.step event).1, none⟩ (s.step event).2 := by
  cases event with
  | send params => exact acts_begin _ _ _ fun t op o found kind _ => acts_startSend found kind
  | waitForCapacity byteLength aborted =>
    exact acts_begin _ _ _ fun t op o found kind _ => acts_startWait found kind
  | flush => exact acts_begin _ _ _ fun t op o found kind _ =>
      acts_flushLoop found (fun _ => by rw [kind]; rfl) o
  | cancel reason => exact .one (.cancel s none reason)
  | cancelFlush =>
    exact acts_begin _ _ _ fun t op o found kind _ =>
      acts_flushLoop found (fun _ => by rw [kind]; rfl) o
  | prepare call =>
    exact acts_atCall _ fun _ _ => acts_begin _ _ _ fun t op o found kind _ =>
      acts_startPrepare found kind
  | reserveBytes call byteLength =>
    exact acts_atCall _ fun c _ => acts_begin _ _ _ fun t op o found kind _ =>
      acts_startReservation found kind c
  | callFnReturns => exact acts_atCallFn _ fun op rest o call => acts_callFnReturns
  | callFnThrows error => exact acts_atCallFn _ fun op rest o call => acts_callFnThrows error
  | callSettles call outcome =>
    exact acts_idly fun _ => acts_atCall _ fun c found => acts_callSettles found outcome
  | callbackSettles op thrown =>
    exact acts_idly fun _ => acts_atOp _ fun o found => acts_callbackSettles found thrown
  | signalAborts =>
    by_cases signal : s.options.signal = true
    · simpa only [step, if_pos signal] using Acts.one (.signalAborts s none)
    · simpa only [step, if_neg signal] using Acts.nil _
  | waitAborts op reason => exact .one (.waitAborts s none op reason)
  | lockStarts => exact acts_idly acts_lockStarts
  | handOver => exact acts_idly acts_handOver
  | resume op => exact acts_idly fun idle => acts_atOp _ fun o found => acts_resume idle found

end StreamSender

end CapnpDeno
