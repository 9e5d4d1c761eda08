import CapnpDeno.Lib.Fallible
import CapnpDeno.Lib.Heap
import CapnpDeno.Rpc.Client.WireClient

/-!
# Moves of RpcWireClient

What a step of the wire client can do, what allows it, and its effects.
-/

namespace CapnpDeno

namespace RpcWireClient

variable {s s' : RpcWireClient} {event : WireEvent} {effects : List WireEffect} {i : OperationId}
  {call : WireCall}

/-- The client with the question id given out. -/
def allocate (s : RpcWireClient) (i : OperationId) (questionId : ℕ) : RpcWireClient :=
  { s.updateCall i fun call => { call with questionId := some questionId } with
    nextQuestionId := questionId + 1 }

/-- The client with the grants of the question recorded, if the operation records any. -/
def recordGrants (s : RpcWireClient) (call : WireCall) (questionId : ℕ) : RpcWireClient :=
  if recordsGrants call then
    { s with
      questionParamCapGrants :=
        s.questionParamCapGrants.insert questionId
          (paramCapGrants (call.options.paramsCapTable.getD [])) }
  else s

def grantEffects (call : WireCall) (questionId : ℕ) : List WireEffect :=
  if recordsGrants call then [.recorded questionId
    (paramCapGrants (call.options.paramsCapTable.getD []))] else []

theorem requestReturn_eq (questionId : ℕ) (frame : ClientFrame) :
    s.requestReturn i call questionId frame =
      (((s.recordGrants call questionId).waitForReturn questionId i call).goTo i (.handing frame),
        grantEffects call questionId) := by
  unfold requestReturn recordGrants grantEffects
  split_ifs <;> rfl

theorem lostRace_settled {e : WireEffect} (mem : e ∈ lostRace i call) :
    ∃ result, e = .settled i result := by
  unfold lostRace at mem
  split at mem
  · exact ⟨_, List.mem_singleton.1 mem⟩
  · exact ⟨_, List.mem_singleton.1 mem⟩
  · cases mem

theorem lostRaces_settled {e : WireEffect} (mem : e ∈ (s.calls.mapIdx lostRace).flatten) :
    ∃ i result, e = .settled i result := by
  obtain ⟨race, inside, within⟩ := List.mem_flatten.1 mem
  obtain ⟨i, lt, rfl⟩ := List.mem_mapIdx.1 inside
  exact ⟨i, lostRace_settled within⟩

theorem allocQuestionId_ok {questionId : ℕ} (allocated : s.allocQuestionId = .ok questionId) :
    questionId = s.nextQuestionId := by
  unfold allocQuestionId at allocated
  dsimp only at allocated
  split_ifs at allocated
  exact (Except.ok.inj allocated).symm

theorem prepare_ok {questionId : ℕ} {frame : ClientFrame}
    (prepared : s.prepare call = .ok (questionId, frame)) :
    questionId = s.nextQuestionId := by
  have numbered {make : ℕ → ClientFrame}
      (prepared : (do let questionId ← s.allocQuestionId; return (questionId, make questionId)) =
        Except.ok (questionId, frame)) : questionId = s.nextQuestionId := by
    obtain ⟨allocated, given, same⟩ := Fallible.bind_eq_ok.1 prepared
    cases same
    exact allocQuestionId_ok given
  unfold prepare at prepared
  cases operation : call.operation with
  | callRaw capabilityIndex | method capabilityIndex =>
    rw [operation] at prepared
    obtain ⟨interfaceId, -, prepared⟩ := Fallible.bind_eq_ok.1 prepared
    obtain ⟨-, -, prepared⟩ := Fallible.bind_eq_ok.1 prepared
    exact numbered prepared
  | bootstrap | finish =>
    rw [operation] at prepared
    exact numbered prepared

inductive Moves (s : RpcWireClient) : WireEvent → RpcWireClient → List WireEffect → Prop
  | nothing (event : WireEvent) : Moves s event s []
  | begun (operation : WireOperation) (options : RpcClientCallOptions) :
      Moves s (.start operation options) (s.start operation options).1 (s.start operation options).2
  | opened (pending : s.started = none) (free : s.closed = false) :
      Moves s (.startSettles none) { s with started := some none } []
  | startFailed (error : Thrown) (pending : s.started = none) (free : s.closed = false) :
      Moves s (.startSettles (some error))
        (rejectAllPending { s with started := some (some error) }
          (sessionError "rpc wire client failed to start")) []
  /-- The operation ends before its question has an id. -/
  | refused (i : OperationId) (frameError : Option Thrown) (call : WireCall) (error : Thrown)
      (found : s.calls[i]? = some call) (stands : call.stage = .ready) :
      Moves s (.resume i frameError) (s.settle i (.error error)).1 [.settled i (.error error)]
  | unencoded (i : OperationId) (call : WireCall) (questionId : ℕ) (frame : ClientFrame)
    (error : Thrown)
      (found : s.calls[i]? = some call) (stands : call.stage = .ready) (free : s.unready = none)
      (prepared : s.prepare call = .ok (questionId, frame)) (started : s.started.isSome = true) :
      Moves s (.resume i (some error)) ((s.allocate i questionId).settle i (.error error)).1
        [.allocated i questionId, .settled i (.error error)]
  | asked (i : OperationId) (call : WireCall) (questionId : ℕ) (frame : ClientFrame)
      (found : s.calls[i]? = some call) (stands : call.stage = .ready) (free : s.unready = none)
      (prepared : s.prepare call = .ok (questionId, frame)) (started : s.started.isSome = true) :
      Moves s (.resume i none)
        (((((s.allocate i questionId).recordGrants call questionId).waitForReturn questionId i
          call)).goTo i (.handing frame))
        (.allocated i questionId :: grantEffects call questionId)
  | handedOff (i : OperationId) (call : WireCall) (frame : ClientFrame)
    (found : s.calls[i]? = some call)
      (stands : call.stage = .handing frame) :
      Moves s (.handOff i) (s.goTo i .sending) [.sent i frame]
  | handedOver (i : OperationId) (call : WireCall) (found : s.calls[i]? = some call)
      (stands : call.stage = .sending) : Moves s (.sendSettles i none) (s.goTo i .waiting)
      [.handedOver i]
  | sendFailed (i : OperationId) (call : WireCall) (error error' : Thrown)
    (found : s.calls[i]? = some call)
      (stands : call.stage = .sending) :
      Moves s (.sendSettles i (some error)) ((s.reject i call error).settle i (.error error')).1
        [.settled i (.error error')]
  | answered (i : OperationId) (frameError : Option Thrown) (call : WireCall) (questionId : ℕ)
      (outcome : Except Thrown RpcReturnMessage) (found : s.calls[i]? = some call)
      (stands : call.stage = .waiting) (asked : call.questionId = some questionId)
      (promise : call.promise = some outcome) :
      Moves s (.resume i frameError) (s.enter i (afterWait call questionId outcome)).1
        (s.enter i (afterWait call questionId outcome)).2
  | finishFailed (i : OperationId) (frameError : Option Thrown) (call : WireCall)
    (finish : PendingFinish)
      (error : Thrown) (found : s.calls[i]? = some call) (stands : call.stage = .finishReady finish)
      (unready : s.unready = some error) :
      Moves s (.resume i frameError) (s.settle i (finish.failed error)).1
        [.settled i (finish.failed error)]
  | finishSent (i : OperationId) (frameError : Option Thrown) (call : WireCall)
    (finish : PendingFinish)
      (found : s.calls[i]? = some call) (stands : call.stage = .finishReady finish)
      (free : s.unready = none) :
      Moves s (.resume i frameError) (s.sendFinish i finish).1 (s.sendFinish i finish).2
  | finished (i : OperationId) (failure : Option Thrown) (call : WireCall) (finish : PendingFinish)
      (result : Except Thrown ClientAnswer) (found : s.calls[i]? = some call)
      (stands : call.stage = .finishSending finish) :
      Moves s (.sendSettles i failure) (s.settle i result).1 [.settled i result]
  | timedOut (i : OperationId) (call : WireCall) (error : Thrown) (found : s.calls[i]? = some call)
      (running : call.timer = true) : Moves s (.timeout i) (s.reject i call error) []
  | flagged (i : OperationId) (call : WireCall) (found : s.calls[i]? = some call) :
      Moves s (.abort i) (s.updateCall i fun call => { call with aborted := call.options.signal })
      []
  | aborted (i : OperationId) (call : WireCall) (error : Thrown) (found : s.calls[i]? = some call)
      (listening : call.listening = true) :
      Moves s (.abort i)
        ((s.updateCall i fun call => { call with aborted := call.options.signal }).reject i call
          error) []
  | returned (message : RpcReturnMessage) :
      Moves s (.inbound (.ret message)) (s.onFrame (.ret message)).1 (s.onFrame (.ret message)).2
  | broken (event : WireEvent) (error : Thrown) : Moves s event (s.rejectAllPending error) []
  | threw (event : WireEvent) (error : Thrown) : Moves s event s [.threw error]
  | exported : Moves s .exportCapability { s with localBridge := true } []
  | closed (free : s.closed = false) : Moves s .close s.close.1 s.close.2

theorem moves_atCall {act : WireCall → RpcWireClient × List WireEffect}
    (moves : ∀ call, s.calls[i]? = some call → Moves s event (act call).1 (act call).2) :
    Moves s event (s.atCall i act).1 (s.atCall i act).2 := by
  unfold atCall
  cases found : s.calls[i]? with
  | none => exact .nothing event
  | some call => exact moves call found

theorem moves_ask (frameError : Option Thrown) (found : s.calls[i]? = some call)
    (stands : call.stage = .ready) (free : s.unready = none) (started : s.started.isSome = true) :
    Moves s (.resume i frameError) (s.ask i call frameError).1 (s.ask i call frameError).2 := by
  unfold ask
  cases prepared : s.prepare call with
  | error error => exact .refused i frameError call error found stands
  | ok asked =>
    obtain ⟨questionId, frame⟩ := asked
    cases frameError with
    | some error =>
      exact .unencoded i call questionId frame error found stands free prepared started
    | none =>
      have moves := Moves.asked i call questionId frame found stands free prepared started
      dsimp only
      rw [requestReturn_eq]
      exact moves

theorem unready_open (free : s.unready = none) : s.closed = false := by
  unfold unready at free
  cases closed : s.closed with
  | false => rfl
  | true =>
    rw [closed] at free
    cases free

theorem moves_resume (frameError : Option Thrown) (found : s.calls[i]? = some call) :
    Moves s (.resume i frameError) (s.resume i frameError call).1
      (s.resume i frameError call).2 := by
  unfold resume
  cases stands : call.stage with
  | ready =>
    dsimp only
    split_ifs with waits
    · exact .nothing _
    · cases unready : s.unready with
      | some error => exact .refused i frameError call error found stands
      | none =>
        refine moves_ask frameError found stands unready ?_
        rw [unready_open unready] at waits
        simpa [Option.isSome_iff_ne_none] using waits
  | waiting =>
    dsimp only
    cases asked : call.questionId with
    | none => exact .nothing _
    | some questionId =>
      cases promise : call.promise with
      | none => exact .nothing _
      | some outcome =>
        exact .answered i frameError call questionId outcome found stands asked promise
  | finishReady finish =>
    dsimp only
    split_ifs with waits
    · exact .nothing _
    · cases unready : s.unready with
      | some error =>
        have moves := Moves.finishFailed i frameError call finish error found stands unready
        unfold sendFinish
        rw [unready]
        exact moves
      | none => exact .finishSent i frameError call finish found stands unready
  | handing | sending | finishSending | settled => exact .nothing _

theorem moves_sendSettles (failure : Option Thrown) (found : s.calls[i]? = some call) :
    Moves s (.sendSettles i failure) (s.sendSettles i failure call).1
      (s.sendSettles i failure call).2 := by
  unfold sendSettles
  cases stands : call.stage with
  | sending =>
    cases failure with
    | none => exact .handedOver i call found stands
    | some error => exact .sendFailed i call error _ found stands
  | finishSending finish =>
    cases failure with
    | none => exact .finished i none call finish finish.result found stands
    | some error => exact .finished i (some error) call finish (finish.failed error) found stands
  | ready | handing | waiting | finishReady | settled => exact .nothing _

theorem moves_step (s : RpcWireClient) (event : WireEvent) :
    Moves s event (s.step event).1 (s.step event).2 := by
  cases event with
  | start operation options => exact .begun operation options
  | startSettles failure =>
    unfold step
    dsimp only
    split_ifs with settled
    · exact .nothing _
    · rw [Bool.or_eq_true, not_or, Bool.not_eq_true, Bool.not_eq_true, Option.isSome_eq_false_iff,
        Option.isNone_iff_eq_none] at settled
      cases failure with
      | none => exact .opened settled.1 settled.2
      | some error => exact .startFailed error settled.1 settled.2
  | resume i frameError => exact moves_atCall fun call found => moves_resume frameError found
  | handOff i =>
    refine moves_atCall fun call found => ?_
    cases stands : call.stage with
    | handing frame => exact .handedOff i call frame found stands
    | ready | sending | waiting | finishReady | finishSending | settled => exact .nothing _
  | sendSettles i failure => exact moves_atCall fun call found => moves_sendSettles failure found
  | timeout i =>
    refine moves_atCall fun call found => ?_
    split_ifs with running
    · exact .timedOut i call _ found running
    · exact .nothing _
  | abort i =>
    refine moves_atCall fun call found => ?_
    dsimp only
    split_ifs with listening
    · exact .aborted i call _ found listening
    · exact .flagged i call found
  | inbound message =>
    cases message with
    | ret message => exact .returned message
    | undecodable => exact .broken _ _
    | foreign => exact .nothing _
  | callbackFails => exact .broken _ _
  | exportCapability =>
    unfold step
    dsimp only
    split_ifs
    · exact .threw _ _
    · cases s.checkParamCapAdmission with
      | error error => exact .threw _ error
      | ok => exact .exported
  | close =>
    unfold step
    dsimp only
    split_ifs with closed
    · exact .nothing _
    · exact .closed (Bool.eq_false_iff.2 closed)

end RpcWireClient

end CapnpDeno
