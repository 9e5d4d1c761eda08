import CapnpDeno.Rpc.Client.CallHistory
import CapnpDeno.Rpc.Session.Waiters

/-!
# Histories of the session client's calls

What an operation has done about its question, as far as it has come: the Finish frames it has sent
are those it owes, its own and after them the one of its emitted method.
-/

namespace CapnpDeno

/-- The operation that the effect is about. -/
def SessionEffect.about : SessionEffect → Option OperationId
  | .allocated i _ | .emitted i _ | .emittedFinish i _ _ | .handedOver i | .registered i
  | .delivered i _
  | .settled i _ => some i
  | .recorded _ _ | .unsent _ | .arrived _ _ _ | .released _ _ | .threw _ | .closed => none

def SessionEffect.history : SessionEffect → CallHistory
  | .allocated _ questionId => ⟨[questionId], false, [], []⟩
  | .emittedFinish _ _ frame => ⟨[], false, [], [frame]⟩
  | .handedOver _ => ⟨[], true, [], []⟩
  | .delivered _ message => ⟨[], false, [message], []⟩
  | _ => 0

/-- The session has started, so its start does not fail. -/
def SessionEvent.starts : SessionEvent → Bool
  | .startSettles _ (some _) => false
  | _ => true

/-- Nothing fails, and the client is not closed. -/
def SessionEvent.smooth : SessionEvent → Bool
  | .middlewareSettles _ (some _) _ | .startSettles _ (some _) | .emitSettles _ (some _)
  | .flushSettles _ (some _)
  | .close => false
  | _ => true

theorem starts_of_smooth {event : SessionEvent} (smooth : event.smooth = true) :
    event.starts = true := by
  unfold SessionEvent.starts
  split
  · cases smooth
  · rfl

namespace SessionCall

/-- A method of an emitted client. -/
def isMethod (call : SessionCall) : Bool :=
  match call.operation with
  | .method _ _ => true
  | _ => false

/-- An explicit `finish`. -/
def isFinish (call : SessionCall) : Bool :=
  match call.operation with
  | .finish _ _ => true
  | _ => false

/-- The question that the operation is to finish. -/
def question (call : SessionCall) : Option ℕ :=
  match call.operation with
  | .finish questionId _ => some questionId
  | _ => call.questionId

/-- The Return that the operation got. -/
def answers (call : SessionCall) : List RpcReturnMessage :=
  match call.promise with
  | some (.ok message) => [message]
  | _ => []

/-- The operation got results. -/
def succeeds (call : SessionCall) : Bool := call.answers.any (·.isResults)

/-- Once its frame is handed over, the operation is to send a Finish by itself. -/
def owes (call : SessionCall) : Bool :=
  match call.operation with
  | .callRawPipelined _ => false
  | _ =>
    match call.promise with
    | some (.ok message) => call.options.finishes && message.isResults && !message.noFinishNeeded
    | _ => call.options.finishes

def autoFinish (call : SessionCall) : List ClientFrame :=
  match call.questionId with
  | some questionId =>
    if call.owes then
      [finishFrame questionId (autoFinishOptions (call.options.finish.getD .default) call.promise)]
    else []
  | none => []

/-- The Finish of an emitted method. -/
def methodFinish (call : SessionCall) : List ClientFrame :=
  call.questionId.toList.map fun questionId =>
    finishFrame questionId (call.options.finish.getD .default)

variable (starts smooth : Prop)

/-- A Finish is on its way, after those sent before it. -/
def Sends (call : SessionCall) (finish : PendingFinish) (before : List ClientFrame) : Prop :=
  match call.operation with
  | .finish questionId options =>
    before = [] ∧ finish.questionId = questionId ∧ finish.options = options
  | _ =>
    if call.returned then
      call.methodFinish = [finishFrame finish.questionId finish.options] ∧
        before <+: call.autoFinish ∧
        (starts → before = call.autoFinish)
    else
      call.autoFinish = [finishFrame finish.questionId finish.options] ∧ before = [] ∧
        (call.isMethod = true → finish.result.isOk = call.succeeds)

/-- The operation has come to its result. -/
def Ended (call : SessionCall) (history : CallHistory) (result : Except Thrown ClientAnswer) :
    Prop :=
  match call.operation with
  | .finish questionId options => history.finishes <+: [finishFrame questionId options]
  | _ =>
    history.handedOver = false ∧ history.finishes = [] ∧ call.promise = none ∧ result.isOk = false ∨
      history.handedOver = true ∧ history.finishes <+: call.autoFinish ∧
      (starts → history.finishes = call.autoFinish)

/-- An emitted method gets what its Return holds. -/
def Tells (call : SessionCall) (result : Except Thrown ClientAnswer) : Prop :=
  smooth → call.isMethod = true → result.isOk = call.succeeds

/-- The emitted method has come to its result after `callRaw` has come back. -/
def Returned (call : SessionCall) (history : CallHistory) : Prop :=
  history.handedOver = true ∧ ∃ before, before <+: call.autoFinish ∧
    (starts → before = call.autoFinish) ∧
    history.finishes <+: before ++ call.methodFinish ∧
    (smooth → history.finishes = before ++ call.methodFinish)

/-- The operation is about to send a Finish, and has handed over its own frame if it has any. -/
def Owing (call : SessionCall) (history : CallHistory) (finish : PendingFinish)
    (before : List ClientFrame) : Prop :=
  call.Sends starts finish before ∧
    match call.operation with
    | .finish _ _ => call.returned = false
    | _ => history.handedOver = true

/-- The operation has not come past its wait; `handedOver` says that its frame is handed over. -/
structure Asking (call : SessionCall) (history : CallHistory) (handedOver : Bool) : Prop where
  handedOver : history.handedOver = handedOver
  finishes : history.finishes = []
  returned : call.returned = false
  isFinish : call.isFinish = false

/-- What the history of an operation is at a stage. -/
def Stands (call : SessionCall) (history : CallHistory) : SessionStage → Prop
  | .queued | .onCall | .starting _ | .emitting => call.Asking history false
  | .flushing | .waiting => call.Asking history true
  | .finishQueued finish =>
    call.Owing starts history finish history.finishes ∧
      (call.returned = false → call.isFinish = true)
  | .finishStarting finish => call.Owing starts history finish history.finishes
  | .finishEmitting finish | .finishFlushing finish =>
    ∃ before, call.Owing starts history finish before ∧
      history.finishes = before ++ [finishFrame finish.questionId finish.options]
  | .hooks result => call.returned = false ∧ call.Ended starts history result ∧
      call.Tells smooth result
  | .called result =>
    call.returned = false ∧ call.isMethod = true ∧ call.Ended starts history result ∧
      call.Tells smooth result
  | .settled result =>
    if call.returned then call.Returned starts smooth history
    else call.Ended starts history result ∧
      (smooth → call.isMethod = true → call.options.finishes = true → call.succeeds = false)

/-- The history of an operation. -/
structure Told (history : CallHistory) (call : SessionCall) : Prop where
  asked : history.asked = call.questionId.toList
  delivered : history.delivered = call.answers
  returns : call.returned = true → call.isMethod = true ∧ (smooth → call.succeeds = true)
  stands : call.Stands starts smooth history call.stage

/-! ## Coming to a stage -/

variable {starts smooth : Prop} {call : SessionCall} {history : CallHistory}
  {result : Except Thrown ClientAnswer} {questionId : ℕ} {s : SessionRpcClientTransport}

theorem stands_concluded (returned : call.returned = false)
    (ended : call.Ended starts history result) (tells : call.Tells smooth result) :
    call.Stands starts smooth history (SessionRpcClientTransport.concluded call result) := by
  unfold SessionRpcClientTransport.concluded
  have settles (other : call.isMethod = false) :
      call.Stands starts smooth history (.settled result) := by
    change if call.returned then _ else _
    rw [returned]
    refine ⟨ended, fun _ method => ?_⟩
    rw [other] at method
    cases method
  cases operation : call.operation with
  | method =>
    dsimp only
    rw [returned]
    have method : call.isMethod = true := by
      unfold isMethod
      rw [operation]
    exact ⟨returned, method, ended, tells⟩
  | bootstrap | callRaw | callRawPipelined | finish =>
    refine settles ?_
    unfold isMethod
    rw [operation]

theorem stands_conclude (returned : call.returned = false)
    (ended : call.Ended starts history result) (tells : call.Tells smooth result) :
    call.Stands starts smooth history (s.conclude call result) := by
  unfold SessionRpcClientTransport.conclude
  split_ifs
  · exact ⟨returned, ended, tells⟩
  · exact stands_concluded returned ended tells

theorem stands_returned (returned : call.returned = true) (method : call.isMethod = true)
    (told : call.Returned starts smooth history) :
    call.Stands starts smooth history (SessionRpcClientTransport.concluded call result) := by
  unfold SessionRpcClientTransport.concluded
  unfold isMethod at method
  cases operation : call.operation with
  | method =>
    dsimp only
    rw [if_pos returned]
    change if call.returned then _ else _
    rw [if_pos returned]
    exact told
  | bootstrap | callRaw | callRawPipelined | finish =>
    rw [operation] at method
    cases method

theorem conclude_returned (returned : call.returned = true) :
    s.conclude call result = SessionRpcClientTransport.concluded call result := by
  unfold SessionRpcClientTransport.conclude
  rw [returned, Bool.not_true, Bool.and_false]
  rfl

/-- An operation that fails before its frame is handed over. -/
theorem ended_unsent (asking : call.Asking history false) (unsettled : call.promise = none)
    (error : Thrown) :
    call.Ended starts history (.error error) := by
  unfold Ended
  split
  · rw [asking.finishes]
    exact List.nil_prefix
  · exact .inl ⟨asking.handedOver, asking.finishes, unsettled, rfl⟩

theorem tells_failure (unsuccessful : call.succeeds = false) (error : Thrown) :
    call.Tells smooth (.error error) := fun _ _ => unsuccessful.symm

theorem tells_other (other : call.isMethod = false) : call.Tells smooth result := by
  intro _ method
  rw [other] at method
  cases method

theorem succeeds_unsettled (unsettled : call.promise = none) : call.succeeds = false := by
  unfold succeeds answers
  rw [unsettled]
  rfl

/-- An operation that ends before its frame is handed over. -/
theorem stands_refused (asking : call.Asking history false) (unsettled : call.promise = none)
    (error : Thrown) :
    call.Stands starts smooth history (SessionRpcClientTransport.concluded call (.error error)) :=
  stands_concluded asking.returned (ended_unsent asking unsettled error)
    (tells_failure (succeeds_unsettled unsettled) error)

/-- An operation that owes no Finish. -/
theorem ended_sent (asking : call.Asking history true) (owes : call.owes = false) :
    call.Ended starts history result := by
  have none : call.autoFinish = [] := by
    unfold autoFinish
    rw [owes]
    split <;> rfl
  unfold Ended
  split
  · rw [asking.finishes]
    exact List.nil_prefix
  · rw [none, asking.finishes]
    exact .inr ⟨asking.handedOver, List.nil_prefix, fun _ => rfl⟩

/-- An operation that owes a Finish. -/
theorem owing_auto (asking : call.Asking history true)
    (identified : call.questionId = some questionId) (owes : call.owes = true) {swallows : Bool}
    (same : call.isMethod = true → result.isOk = call.succeeds) :
    call.Owing starts history
      ⟨questionId, autoFinishOptions (call.options.finish.getD .default) call.promise, result,
        swallows⟩
      history.finishes := by
  have frame : call.autoFinish =
      [finishFrame questionId (autoFinishOptions (call.options.finish.getD .default)
        call.promise)] := by
    unfold autoFinish
    rw [identified]
    exact if_pos owes
  have asks := asking.isFinish
  unfold isFinish at asks
  unfold Owing Sends
  cases operation : call.operation with
  | finish =>
    rw [operation] at asks
    cases asks
  | bootstrap | callRaw | callRawPipelined | method =>
    dsimp only
    rw [asking.returned]
    exact ⟨⟨frame, asking.finishes, same⟩, asking.handedOver⟩

/-- An operation that fails before its frame is handed over goes to its result. -/
theorem stands_unsent (asking : call.Asking history false) (unsettled : call.promise = none)
    (error : Thrown) :
    call.Stands starts smooth history (s.afterFailure call questionId false error) := by
  have ended : call.Ended starts history (.error error) := ended_unsent asking unsettled error
  unfold SessionRpcClientTransport.afterFailure
  split
  · next operation =>
    change if call.returned then _ else _
    rw [asking.returned]
    refine ⟨ended, fun _ method => ?_⟩
    unfold isMethod at method
    rw [operation] at method
    cases method
  · exact stands_conclude asking.returned ended (tells_failure (succeeds_unsettled unsettled) error)

/-- An operation whose wait has failed sends a Finish, unless it is to send none. -/
theorem stands_failed (asking : call.Asking history true)
    (identified : call.questionId = some questionId)
    (failed : ∀ message, call.promise ≠ some (.ok message)) (error : Thrown) :
    call.Stands starts smooth history (s.afterFailure call questionId true error) := by
  have unsuccessful : call.succeeds = false := by
    unfold succeeds answers
    split
    · next message promise => exact absurd promise (failed message)
    · rfl
  have options : autoFinishOptions (call.options.finish.getD .default) call.promise =
      finishOptionsAfterFailure (call.options.finish.getD .default) := by
    unfold autoFinishOptions
    split
    · next message promise => exact absurd promise (failed message)
    · rfl
  unfold SessionRpcClientTransport.afterFailure
  split
  · next operation =>
    have owes : call.owes = false := by
      unfold owes
      rw [operation]
    have other : call.isMethod = false := by
      unfold isMethod
      rw [operation]
    change if call.returned then _ else _
    rw [asking.returned]
    exact ⟨ended_sent asking owes, fun _ method => by cases other.symm.trans method⟩
  · next unpipelined =>
    have owes : call.owes = call.options.finishes := by
      unfold owes
      split
      · next capabilityIndex operation => exact absurd operation (unpipelined capabilityIndex)
      · split
        · next message promise => exact absurd promise (failed message)
        · rfl
    rw [Bool.true_and]
    split_ifs with finishes
    · rw [← options]
      exact owing_auto asking identified (owes.trans finishes) fun _ => unsuccessful.symm
    · exact stands_conclude asking.returned
        (ended_sent asking (owes.trans (Bool.eq_false_iff.2 finishes)))
        (tells_failure unsuccessful error)

/-- An operation that has got its Return sends a Finish, unless it owes none. -/
theorem stands_answered {message : RpcReturnMessage} (asking : call.Asking history true)
    (identified : call.questionId = some questionId) (promise : call.promise = some (.ok message)) :
    call.Stands starts smooth history (s.afterReturn call questionId message) := by
  have options : autoFinishOptions (call.options.finish.getD .default) call.promise =
      finishOptionsForReturn message (call.options.finish.getD .default) := by
    rw [promise]
    rfl
  have succeeds : call.succeeds = message.isResults := by
    unfold succeeds answers
    rw [promise]
    exact Bool.or_false _
  have owes (unpipelined : ∀ capabilityIndex, call.operation ≠ .callRawPipelined capabilityIndex) :
      call.owes = (call.options.finishes && message.isResults && !message.noFinishNeeded) := by
    unfold owes
    split
    · next capabilityIndex operation => exact absurd operation (unpipelined capabilityIndex)
    · rw [promise]
  have settles {result : Except Thrown ClientAnswer} (other : call.isMethod = false)
      (ended : call.Ended starts history result) :
      call.Stands starts smooth history (.settled result) := by
    change if call.returned then _ else _
    rw [asking.returned]
    exact ⟨ended, fun _ method => nomatch other.symm.trans method⟩
  unfold SessionRpcClientTransport.afterReturn
  dsimp only
  split
  · next operation =>
    have other : call.isMethod = false := by
      unfold isMethod
      rw [operation]
    have owes := owes (by rw [operation]; exact nofun)
    split
    · next content capTable kind =>
      have results : message.isResults = true := by
        unfold RpcReturnMessage.isResults
        rw [kind]
      rw [results, Bool.and_true] at owes
      split_ifs with finishes
      · rw [← options]
        exact owing_auto asking identified (owes.trans finishes) fun method =>
          nomatch other.symm.trans method
      · exact settles other (ended_sent asking (owes.trans (Bool.eq_false_iff.2 finishes)))
    · next kind unresulting =>
      have failure : message.isResults = false := by
        unfold RpcReturnMessage.isResults
        split
        · next content capTable same => exact absurd same (unresulting content capTable)
        · rfl
      rw [failure, Bool.and_false, Bool.false_and] at owes
      exact settles other (ended_sent asking owes)
  · next operation =>
    have owes : call.owes = false := by
      unfold SessionCall.owes
      rw [operation]
    have other : call.isMethod = false := by
      unfold isMethod
      rw [operation]
    exact stands_conclude asking.returned (ended_sent asking owes) (tells_other other)
  · next unpipelined =>
    have owes := owes unpipelined
    cases results : message.isResults with
    | false =>
      rw [results, Bool.and_false, Bool.false_and] at owes
      obtain ⟨error, failed⟩ := requireRpcReturnResults_failure results
      rw [failed]
      exact stands_conclude asking.returned (ended_sent asking owes) fun _ _ =>
        (succeeds.trans results).symm
    | true =>
      rw [results, Bool.and_true] at owes
      rw [requireRpcReturnResults_results results]
      dsimp only
      split_ifs with finishes
      · rw [← options]
        exact owing_auto asking identified (owes.trans finishes) fun _ =>
          (succeeds.trans results).symm
      · exact stands_conclude asking.returned
          (ended_sent asking (owes.trans (Bool.eq_false_iff.2 finishes))) fun _ _ =>
          (succeeds.trans results).symm

theorem stands_afterWait {outcome : Except Thrown RpcReturnMessage}
    (asking : call.Asking history true) (identified : call.questionId = some questionId)
    (promise : call.promise = some outcome) :
    call.Stands starts smooth history (s.afterWait call questionId outcome) := by
  unfold SessionRpcClientTransport.afterWait
  cases outcome with
  | ok message => exact stands_answered asking identified promise
  | error error =>
    have failed (message : RpcReturnMessage) : call.promise ≠ some (.ok message) := by
      rw [promise]
      exact nofun
    dsimp only
    split
    · next operation =>
      have owes : call.owes = false := by
        unfold owes
        rw [operation]
      have other : call.isMethod = false := by
        unfold isMethod
        rw [operation]
      exact stands_conclude asking.returned (ended_sent asking owes) (tells_other other)
    · exact stands_failed asking identified failed error

theorem Ended.fails (ended : call.Ended starts history result) (error : Thrown) :
    call.Ended starts history (.error error) := by
  unfold Ended at ended ⊢
  split at ended
  · exact ended
  · exact ended.imp_left fun ⟨unsent, silent, unsettled, _⟩ => ⟨unsent, silent, unsettled, rfl⟩

/-- The Finish is on its way whatever has been sent in between. -/
theorem Owing.more {finish : PendingFinish} {before : List ClientFrame} {added : CallHistory}
    (owing : call.Owing starts history finish before) :
    call.Owing starts (history + added) finish before := by
  obtain ⟨sends, owner⟩ := owing
  refine ⟨sends, ?_⟩
  split at owner
  · exact owner
  · change (history.handedOver || added.handedOver) = true
    rw [owner]
    rfl

/-- An explicit `finish` that sends none. -/
theorem Owing.unsent {finish : PendingFinish}
    (owing : call.Owing starts history finish history.finishes) (explicit : call.isFinish = true) :
    call.Ended starts history result := by
  obtain ⟨sends, -⟩ := owing
  unfold isFinish at explicit
  cases operation : call.operation with
  | finish =>
    unfold Sends at sends
    unfold Ended
    rw [operation] at sends ⊢
    rw [sends.1]
    exact List.nil_prefix
  | bootstrap | callRaw | callRawPipelined | method =>
    rw [operation] at explicit
    cases explicit

/-- A Finish that has been sent, or could not be. -/
theorem ended_finish {finish : PendingFinish} {before : List ClientFrame}
    (owing : call.Owing starts history finish before) (returned : call.returned = false)
    (sent : history.finishes = before ++ [finishFrame finish.questionId finish.options] ∨
      ¬starts ∧ history.finishes = before) :
    call.Ended starts history result := by
  obtain ⟨sends, owner⟩ := owing
  unfold Sends at sends
  unfold Ended
  split at sends
  · obtain ⟨rfl, rfl, rfl⟩ := sends
    rcases sent with sent | ⟨-, sent⟩ <;> rw [sent]
    · exact List.prefix_refl _
    · exact List.nil_prefix
  · next asks =>
    rw [returned] at sends
    obtain ⟨frame, rfl, -⟩ := sends
    split at owner
    · next operation => exact absurd operation (asks _ _)
    · rcases sent with sent | ⟨never, sent⟩ <;> rw [sent]
      · exact .inr ⟨owner, frame ▸ List.prefix_refl _, fun _ => frame.symm⟩
      · exact .inr ⟨owner, List.nil_prefix, fun starts => absurd starts never⟩

/-- The Finish of an emitted method has been sent, or could not be. -/
theorem returned_finish {finish : PendingFinish} {before : List ClientFrame}
    (owing : call.Owing starts history finish before) (returned : call.returned = true)
    (sent : history.finishes = before ++ [finishFrame finish.questionId finish.options] ∨
      ¬smooth ∧ history.finishes = before) : call.Returned starts smooth history := by
  obtain ⟨sends, owner⟩ := owing
  unfold Sends at sends
  split at sends
  · next operation =>
    rw [operation] at owner
    cases returned.symm.trans owner
  · next asks =>
    rw [returned] at sends
    obtain ⟨frame, within, exact⟩ := sends
    split at owner
    · next operation => exact absurd operation (asks _ _)
    · refine ⟨owner, before, within, exact, ?_⟩
      rw [frame]
      rcases sent with sent | ⟨rough, sent⟩ <;> rw [sent]
      · exact ⟨List.prefix_refl _, fun _ => rfl⟩
      · exact ⟨List.prefix_append _ _, fun smooth => absurd smooth rough⟩

/-- What the Finish of an operation that has not returned tells. -/
theorem tells_finish {finish : PendingFinish} {before : List ClientFrame}
    (owing : call.Owing starts history finish before) (returned : call.returned = false) :
    call.Tells smooth finish.result := by
  have sends := owing.1
  unfold Sends at sends
  intro _ method
  split at sends
  · next operation =>
    unfold isMethod at method
    rw [operation] at method
    cases method
  · rw [returned] at sends
    exact sends.2.2 method

/-- The operation goes on after its Finish. -/
theorem stands_finished {finish : PendingFinish} {before : List ClientFrame}
    (told : call.returned = true → call.isMethod = true)
    (owing : call.Owing starts history finish before)
    (sent : history.finishes = before ++ [finishFrame finish.questionId finish.options]) :
    call.Stands starts smooth history (s.conclude call finish.result) := by
  cases returned : call.returned with
  | false =>
    exact stands_conclude returned (ended_finish owing returned (.inl sent))
      (tells_finish owing returned)
  | true =>
    rw [conclude_returned returned]
    exact stands_returned returned (told returned) (returned_finish owing returned (.inl sent))

/-- The operation goes on after a Finish that has failed. -/
theorem stands_failFinish {finish : PendingFinish} {before : List ClientFrame} {error : Thrown}
    (told : call.returned = true → call.isMethod = true)
    (owing : call.Owing starts history finish before) (rough : ¬smooth)
    (sent : history.finishes = before ++ [finishFrame finish.questionId finish.options] ∨
      ¬starts ∧ history.finishes = before) :
    call.Stands starts smooth history
      (if finish.swallows then s.conclude call finish.result
        else SessionRpcClientTransport.concluded call (.error error)) := by
  have silent {result : Except Thrown ClientAnswer} : call.Tells smooth result :=
    fun smooth => absurd smooth rough
  cases returned : call.returned with
  | false =>
    split_ifs
    · exact stands_conclude returned (ended_finish owing returned sent) silent
    · exact stands_concluded returned (ended_finish owing returned sent) silent
  | true =>
    have finished : call.Returned starts smooth history :=
      returned_finish owing returned (sent.imp_right fun sent => ⟨rough, sent.2⟩)
    rw [conclude_returned returned]
    split_ifs <;> exact stands_returned returned (told returned) finished

/-- The history of an operation tells of what it is about, what it has got and where it stands. -/
theorem stands_congr {call' : SessionCall} {stage : SessionStage}
    (stands : call.Stands starts smooth history stage)
    (operation : call'.operation = call.operation) (options : call'.options = call.options)
    (questionId : call'.questionId = call.questionId) (promise : call'.promise = call.promise)
    (returned : call'.returned = call.returned) : call'.Stands starts smooth history stage := by
  obtain ⟨_, _, _, _, _, _, _, _, _⟩ := call
  obtain ⟨_, _, _, _, _, _, _, _, _⟩ := call'
  dsimp only at operation options questionId promise returned
  subst operation options questionId promise returned
  cases stage with
  | queued | onCall | starting | emitting | flushing | waiting =>
    exact ⟨stands.handedOver, stands.finishes, stands.returned, stands.isFinish⟩
  | finishQueued | finishStarting | finishEmitting | finishFlushing | hooks | called
  | settled => exact stands

theorem Told.goTo (told : call.Told starts smooth history) {stage : SessionStage}
    (stands : call.Stands starts smooth history stage) :
    ({ call with stage := stage } : SessionCall).Told starts smooth history :=
  ⟨told.asked, told.delivered, told.returns, stands_congr stands rfl rfl rfl rfl rfl⟩

theorem Told.method (told : call.Told starts smooth history) (returned : call.returned = true) :
    call.isMethod = true := (told.returns returned).1

/-- The operation has not handed over its frame. -/
theorem Told.unsent (told : call.Told starts smooth history)
    (stands : call.stage = .queued ∨ call.stage = .onCall ∨
      (∃ frame, call.stage = .starting frame) ∨
      call.stage = .emitting) : call.Asking history false := by
  have standing := told.stands
  rcases stands with stands | stands | ⟨frame, stands⟩ | stands <;> rw [stands] at standing <;>
    exact standing

/-- The operation has handed over its frame, and not come past its wait. -/
theorem Told.sent (told : call.Told starts smooth history)
    (stands : call.stage = .flushing ∨ call.stage = .waiting) :
    call.Asking history true := by
  have standing := told.stands
  rcases stands with stands | stands <;> rw [stands] at standing <;> exact standing

/-- The promise of an operation that waits is settled. -/
theorem Told.settle (told : call.Told starts smooth history) (awaits : call.awaits = true)
    (outcome : Except Thrown RpcReturnMessage) :
    ({ call with timer := false, listening := false, promise := some outcome } : SessionCall).Told
      starts smooth
      (history + match outcome with
        | .ok message => ⟨[], false, [message], []⟩
        | .error _ => 0) := by
  have stage := stage_of_awaits awaits
  have none : call.answers = [] := by
    unfold answers
    rw [promise_of_awaits awaits]
  have asking : call.Asking history true := by
    exact told.sent (.inr stage)
  have kept {added : CallHistory} (asked : added.asked = []) (silent : added.finishes = [])
      (quiet : added.handedOver = false) {outcome : Except Thrown RpcReturnMessage}
      (delivered : added.delivered =
        ({ call with timer := false, listening := false, promise := some outcome } :
          SessionCall).answers) :
      ({ call with timer := false, listening := false, promise := some outcome } : SessionCall).Told
      starts smooth
        (history + added) := by
    refine ⟨?_, ?_, fun returned => ?_, ?_⟩
    · change history.asked ++ added.asked = _
      rw [asked, List.append_nil]
      exact told.asked
    · change history.delivered ++ added.delivered = _
      rw [told.delivered, none]
      exact delivered
    · cases asking.returned.symm.trans returned
    · change Stands starts smooth _ _ call.stage
      rw [stage]
      refine ⟨?_, ?_, asking.returned, asking.isFinish⟩
      · change (history.handedOver || added.handedOver) = true
        rw [asking.handedOver]
        rfl
      · change history.finishes ++ added.finishes = []
        rw [asking.finishes, silent]
        rfl
  cases outcome with
  | ok message => exact kept rfl rfl rfl rfl
  | error error => exact kept rfl rfl rfl rfl

theorem operation_of_isMethod (method : call.isMethod = true) :
    ∃ capabilityIndex decodeError, call.operation = .method capabilityIndex decodeError := by
  unfold isMethod at method
  split at method
  · exact ⟨_, _, ‹_›⟩
  · cases method

theorem ended_method (method : call.isMethod = true) :
    call.Ended starts history result ↔
      history.handedOver = false ∧ history.finishes = [] ∧ call.promise = none ∧
        result.isOk = false ∨
        history.handedOver = true ∧ history.finishes <+: call.autoFinish ∧
          (starts → history.finishes = call.autoFinish) := by
  obtain ⟨capabilityIndex, decodeError, operation⟩ := operation_of_isMethod method
  unfold Ended
  rw [operation]

theorem owing_method {finish : PendingFinish} {before : List ClientFrame}
    (method : call.isMethod = true) :
    call.Owing starts history finish before ↔
      (if call.returned then
        call.methodFinish = [finishFrame finish.questionId finish.options] ∧
          before <+: call.autoFinish ∧
          (starts → before = call.autoFinish)
      else
        call.autoFinish = [finishFrame finish.questionId finish.options] ∧ before = [] ∧
          (call.isMethod = true → finish.result.isOk = call.succeeds)) ∧
        history.handedOver = true := by
  obtain ⟨capabilityIndex, decodeError, operation⟩ := operation_of_isMethod method
  unfold Owing Sends
  rw [operation]

/-- An emitted method sends its Finish once `callRaw` has come back with an answer. -/
theorem Told.finishes {answer : ClientAnswer} (told : call.Told starts smooth history)
    (stands : call.stage = .called (.ok answer)) (identified : call.questionId = some questionId) :
    ({ call with
        returned := true
        stage := .finishQueued ⟨questionId, call.options.finish.getD .default, result, false⟩ } :
      SessionCall).Told starts smooth history := by
  obtain ⟨asked, delivered, -, standing⟩ := told
  rw [stands] at standing
  obtain ⟨-, method, ended, tells⟩ := standing
  refine ⟨asked, delivered, fun _ => ⟨method, fun on => (tells on method).symm⟩, ?_⟩
  have frame : call.methodFinish =
      [finishFrame questionId (call.options.finish.getD .default)] := by
    unfold methodFinish
    rw [identified]
    rfl
  obtain ⟨-, -, -, failed⟩ | ⟨handed, within, exact⟩ := (ended_method method).1 ended
  · cases failed
  · refine ⟨(owing_method ?_).2 ⟨⟨frame, within, exact⟩, handed⟩, nofun⟩
    exact method

/-- An emitted method settles without a Finish of its own. -/
theorem Told.settles {answer : Except Thrown ClientAnswer} (told : call.Told starts smooth history)
    (stands : call.stage = .called answer)
    (fails : smooth → call.options.finishes = true → answer.isOk = false)
    (follows : answer.isOk = false → result.isOk = false) :
    ({ call with stage := .settled result } : SessionCall).Told starts smooth history := by
  have standing := told.stands
  rw [stands] at standing
  obtain ⟨returned, method, ended, tells⟩ := standing
  refine told.goTo ?_
  change if call.returned then _ else _
  rw [returned]
  refine ⟨?_, fun smooth method finishes =>
    (tells smooth method).symm.trans (fails smooth finishes)⟩
  refine (ended_method method).2 ?_
  obtain ⟨unsent, silent, unsettled, failed⟩ | sent := (ended_method method).1 ended
  · exact .inl ⟨unsent, silent, unsettled, follows failed⟩
  · exact .inr sent

theorem promise_of_answers {message : RpcReturnMessage} (got : call.answers = [message]) :
    call.promise = some (.ok message) := by
  unfold answers at got
  split at got
  · next answer promise =>
    cases got
    exact promise
  · cases got

/-! ## The question of a Finish -/

theorem question_of_asking (asks : call.isFinish = false) : call.question = call.questionId := by
  unfold isFinish at asks
  unfold question
  split at asks
  · cases asks
  · rfl

theorem own_finishFrame (questionId : ℕ) (options : RpcFinishOptions) {frame : ClientFrame}
    (asked : call.question = some questionId) (sent : frame ∈ [finishFrame questionId options]) :
    ∃ id, call.question = some id ∧ frame.isFinishOf id = true := by
  refine ⟨questionId, asked, ?_⟩
  rw [List.mem_singleton.1 sent, isFinishOf_finishFrame]
  exact decide_eq_true rfl

/-- A Finish that an operation owes is for its own question. -/
theorem own_due (asks : call.isFinish = false) {frame : ClientFrame}
    (sent : frame ∈ call.autoFinish ++ call.methodFinish) :
    ∃ id, call.question = some id ∧ frame.isFinishOf id = true := by
  have question := question_of_asking asks
  rcases List.mem_append.1 sent with auto | method
  · unfold autoFinish at auto
    cases identified : call.questionId with
    | none =>
      rw [identified] at auto
      cases auto
    | some questionId =>
      rw [identified] at auto
      dsimp only at auto
      split_ifs at auto
      · exact own_finishFrame _ _ (question.trans identified) auto
      · cases auto
  · unfold methodFinish at method
    obtain ⟨questionId, identified, rfl⟩ := List.mem_map.1 method
    exact own_finishFrame _ _ (question.trans (Option.mem_toList.1 identified)) List.mem_cons_self

theorem not_isFinish (unlike : ∀ questionId options, call.operation ≠ .finish questionId options) :
    call.isFinish = false := by
  unfold isFinish
  split
  · next operation => exact absurd operation (unlike _ _)
  · rfl

theorem Owing.own {finish : PendingFinish} {before : List ClientFrame}
    (owing : call.Owing starts history finish before) {frame : ClientFrame}
    (sent : frame ∈ before ++ [finishFrame finish.questionId finish.options]) :
    ∃ id, call.question = some id ∧ frame.isFinishOf id = true := by
  have sends := owing.1
  unfold Sends at sends
  split at sends
  · next operation =>
    obtain ⟨rfl, rfl, rfl⟩ := sends
    refine own_finishFrame _ _ ?_ sent
    unfold question
    rw [operation]
  · next unlike =>
    refine own_due (not_isFinish unlike) ?_
    split_ifs at sends
    · obtain ⟨method, within, -⟩ := sends
      rw [← method] at sent
      exact List.mem_append.2 ((List.mem_append.1 sent).imp_left fun mem => within.subset mem)
    · obtain ⟨auto, rfl, -⟩ := sends
      rw [← auto] at sent
      exact List.mem_append_left _ sent

theorem Ended.own (ended : call.Ended starts history result) {frame : ClientFrame}
    (sent : frame ∈ history.finishes) :
    ∃ id, call.question = some id ∧ frame.isFinishOf id = true := by
  unfold Ended at ended
  split at ended
  · next operation =>
    refine own_finishFrame _ _ ?_ (ended.subset sent)
    unfold question
    rw [operation]
  · next unlike =>
    obtain ⟨-, silent, -⟩ | ⟨-, within, -⟩ := ended
    · rw [silent] at sent
      cases sent
    · exact own_due (not_isFinish unlike) (List.mem_append_left _ (within.subset sent))

/-- Every Finish of an operation is for its own question. -/
theorem Told.own (told : call.Told starts smooth history) {frame : ClientFrame}
    (sent : frame ∈ history.finishes) :
    ∃ id, call.question = some id ∧ frame.isFinishOf id = true := by
  have silent {handedOver : Bool} (asking : call.Asking history handedOver) :
      ∃ id, call.question = some id ∧ frame.isFinishOf id = true := by
    rw [asking.finishes] at sent
    cases sent
  have stands := told.stands
  cases stage : call.stage <;> rw [stage] at stands
  case queued | onCall | starting | emitting | flushing | waiting => exact silent stands
  case finishQueued => exact stands.1.own (List.mem_append_left _ sent)
  case finishStarting => exact stands.own (List.mem_append_left _ sent)
  case finishEmitting | finishFlushing =>
    obtain ⟨before, owing, same⟩ := stands
    rw [same] at sent
    exact owing.own sent
  case hooks => exact stands.2.1.own sent
  case called => exact stands.2.2.1.own sent
  case settled =>
    change if call.returned then _ else _ at stands
    split_ifs at stands with returned
    · obtain ⟨-, before, within, -, all, -⟩ := stands
      have asks : call.isFinish = false := by
        obtain ⟨capabilityIndex, decodeError, operation⟩ :=
          operation_of_isMethod (told.method returned)
        unfold isFinish
        rw [operation]
      refine own_due asks ?_
      exact List.mem_append.2 ((List.mem_append.1 (all.subset sent)).imp_left fun mem =>
        within.subset mem)
    · exact stands.1.own sent

end SessionCall

/-! ## Steps -/

namespace SessionRpcClientTransport

variable {starts smooth : Prop} {s s' : SessionRpcClientTransport} {event : SessionEvent}
  {calls : List SessionCall} {past effects : List SessionEffect} {i : OperationId}
  {call : SessionCall} {questionId : ℕ}

variable (starts smooth) in
/-- The history of every operation. -/
abbrev Told (past : List SessionEffect) (calls : List SessionCall) : Prop :=
  CallHistory.Logged SessionEffect.about SessionEffect.history (fun history call =>
    call.Told starts smooth history) past calls

/-- The history of an operation in the effects. -/
abbrev historyOf (i : OperationId) (effects : List SessionEffect) : CallHistory :=
  CallHistory.of SessionEffect.about SessionEffect.history i effects

/-- An operation comes to a stage, and nothing is shown of it. -/
theorem Told.goTo (told : Told starts smooth past calls) (found : calls[i]? = some call)
    {stage : SessionStage} (silent : ∀ e ∈ effects, e.about = none ∧ e.history = 0)
    (stands : ∀ history, call.Told starts smooth history →
      call.Stands starts smooth history stage) :
    Told starts smooth (past ++ effects)
    (calls.modify i fun call => { call with stage := stage }) :=
  told.quiet found (fun e mem _ own => nomatch (silent e mem).1.symm.trans own)
    (fun e mem => (silent e mem).2) fun history own => own.goTo (stands history own)

/-- Coming to a stage shows at most that the operation has settled. -/
theorem enter_shows {stage : SessionStage} {e : SessionEffect} (mem : e ∈ (s.enter i stage).2) :
    e.about = some i ∧ e.history = 0 := by
  unfold enter at mem
  split at mem
  · rw [List.mem_singleton.1 mem]
    exact ⟨rfl, rfl⟩
  · cases mem
  · cases mem

theorem Told.enter (told : Told starts smooth past s.calls) (found : s.calls[i]? = some call)
    {stage : SessionStage} (stands : ∀ history, call.Told starts smooth history →
      call.Stands starts smooth history stage) :
    Told starts smooth (past ++ (s.enter i stage).2) (s.enter i stage).1.calls := by
  obtain ⟨opChain, same⟩ := enter_only s i stage
  rw [same]
  refine told.quiet found (fun e mem j own => ?_)
    (fun e mem => (enter_shows mem).2) fun history own =>
    own.goTo (stands history own)
  exact (Option.some.inj ((enter_shows mem).1.symm.trans own)).symm

/-- The question of an operation gets an id. -/
theorem Told.allocate (told : Told starts smooth past calls) (found : calls[i]? = some call)
    (unnumbered : call.questionId = none) (stands : call.stage = .queued) (questionId : ℕ) :
    Told starts smooth (past ++ [.allocated i questionId])
      (calls.modify i fun call => { call with questionId := some questionId }) := by
  refine told.one found rfl fun history own => ⟨?_, ?_, own.returns, ?_⟩
  · change history.asked ++ [questionId] = _
    rw [own.asked, unnumbered]
    rfl
  · change history.delivered ++ [] = _
    rw [List.append_nil]
    exact own.delivered
  · have standing := own.stands
    rw [stands] at standing
    change SessionCall.Stands starts smooth _ _ call.stage
    rw [stands]
    refine ⟨?_, ?_, standing.returned, standing.isFinish⟩
    · change (history.handedOver || false) = false
      rw [Bool.or_false]
      exact standing.handedOver
    · change history.finishes ++ [] = []
      rw [List.append_nil]
      exact standing.finishes

theorem grantEffects_silent {e : SessionEffect} (mem : e ∈ grantEffects call questionId) :
    e.about = none ∧ e.history = 0 := by
  unfold grantEffects at mem
  split_ifs at mem
  · rw [List.mem_singleton.1 mem]
    exact ⟨rfl, rfl⟩
  · cases mem

theorem Told.begun (told : Told starts smooth past s.calls) (operation : SessionOperation)
    (options : RpcClientCallOptions) :
    Told starts smooth (past ++ (s.start operation options).2)
    (s.start operation options).1.calls := by
  have fresh (stage : SessionStage) (history : CallHistory) (empty : history = 0)
      (stands : SessionCall.Stands starts smooth ⟨operation, options, none, false, false, false,
        none, false, stage⟩ history stage) :
      SessionCall.Told starts smooth history ⟨operation, options, none, false, false, false, none,
        false, stage⟩ := by
    rw [empty] at stands ⊢
    exact ⟨rfl, rfl, nofun, stands⟩
  unfold start
  dsimp only
  split_ifs
  · refine Heap.Logged.append told (by simp [SessionEffect.about]) (fresh _ _ ?_ ?_)
    · rw [Heap.log_eq_self (by simp [SessionEffect.about])]
      rfl
    · rw [Heap.log_eq_self (by simp [SessionEffect.about])]
      refine ⟨?_, fun _ _ _ => rfl⟩
      cases operation with
      | finish => exact List.nil_prefix
      | bootstrap | callRaw | callRawPipelined | method => exact .inl ⟨rfl, rfl, rfl, rfl⟩
  · refine Heap.Logged.append told nofun (fresh _ _ rfl ?_)
    cases operation with
    | finish => exact ⟨⟨⟨rfl, rfl, rfl⟩, rfl⟩, fun _ => rfl⟩
    | bootstrap | callRaw | callRawPipelined | method => exact ⟨rfl, rfl, rfl, rfl⟩

/-- A waiter is rejected. -/
theorem Told.reject (told : Told starts smooth past calls) (found : calls[i]? = some call)
    (awaits : call.awaits = true) (error : Thrown) :
    Told starts smooth (past ++ []) (calls.modify i fun call =>
      { call with timer := false, listening := false, promise := some (.error error) }) := by
  refine told.quiet found nofun nofun fun history own => ?_
  have settled := own.settle awaits (.error error)
  dsimp only at settled
  rw [add_zero] at settled
  exact settled

/-- A waiter gets its Return. -/
theorem Told.deliver (told : Told starts smooth past calls) (found : calls[i]? = some call)
    (awaits : call.awaits = true) (message : RpcReturnMessage) :
    Told starts smooth (past ++ [.delivered i message]) (calls.modify i fun call =>
      { call with timer := false, listening := false, promise := some (.ok message) }) :=
  told.one found rfl fun _ own => own.settle awaits (.ok message)

/-- All waiters are rejected. -/
theorem Told.rejectAll (told : Told starts smooth past s.calls) (waiting : Waiting s)
    (error : Thrown) (silent : ∀ e ∈ effects, e.about = none) :
    Told starts smooth (past ++ effects) (s.calls.mapIdx (rejectCall s.pendingReturns error)) := by
  refine Heap.Logged.mapIdx told (fun e mem j own => nomatch (silent e mem).symm.trans own)
    fun i call found own => ?_
  have quiet : Heap.log SessionEffect.about i effects = [] :=
    Heap.log_eq_nil fun e mem own => nomatch (silent e mem).symm.trans own
  rw [quiet, List.append_nil]
  unfold rejectCall
  split_ifs with rejected
  · have settled := own.settle (waiting.awaits_of_mem found rejected.2) (.error error)
    dsimp only at settled
    rw [add_zero] at settled
    exact settled
  · exact own

/-- The operation begins its wait. -/
theorem Told.flushed (told : Told starts smooth past s.calls) (waiting : Waiting s)
    (found : s.calls[i]? = some call) (stands : call.stage = .flushing)
    (awaited : Awaited (s.toWaiting i call) i call questionId s' effects) :
    Told starts smooth (past ++ effects) s'.calls := by
  have unsettled : call.promise = none := (waiting.fit i call found).early (by rw [stands]; rfl)
  have calls : (s.toWaiting i call).calls = s.calls.modify i fun call =>
      { call with stage := .waiting } := by
    unfold toWaiting
    split <;> rfl
  have waits : Told starts smooth (past ++ []) (s.toWaiting i call).calls := by
    rw [calls]
    exact told.goTo found nofun fun history own => own.sent (.inl stands)
  have found : (s.toWaiting i call).calls[i]? = some { call with stage := .waiting } := by
    rw [calls]
    exact Heap.modify_self found
  have awaits : ({ call with stage := .waiting } : SessionCall).awaits = true := by
    rw [SessionCall.awaits_waiting rfl]
    change call.promise.isNone = true
    rw [unsettled]
    rfl
  rw [List.append_nil] at waits
  cases awaited with
  | rejected error => exact waits.reject found awaits error
  | queued message => exact waits.deliver found awaits message
  | registered timer =>
    obtain ⟨frames, pump, same⟩ := ensureResponsePump_only
      { (s.toWaiting i call).updateCall i fun call =>
          { call with timer := timer, listening := call.options.signal } with
        pendingReturns := (s.toWaiting i call).pendingReturns.insert questionId
          (((s.toWaiting i call).pendingReturns.lookup questionId).getD [] ++ [i]) }
    rw [same]
    have silent : (SessionEffect.registered i).history = 0 := rfl
    refine waits.one found rfl fun history own => ?_
    rw [silent, add_zero]
    exact ⟨own.asked, own.delivered, own.returns,
      SessionCall.stands_congr own.stands rfl rfl rfl rfl rfl⟩

theorem Told.flag (told : Told starts smooth past calls) (found : calls[i]? = some call) :
    Told starts smooth (past ++ [])
    (calls.modify i fun call => { call with aborted := call.options.signal }) := by
  refine told.quiet found nofun nofun fun history own => ?_
  exact ⟨own.asked, own.delivered, own.returns,
    SessionCall.stands_congr own.stands rfl rfl rfl rfl rfl⟩

/-- An emitted method goes on with what `callRaw` has come back with. -/
theorem Told.afterCallRaw {result : Except Thrown ClientAnswer}
    (told : Told starts smooth past s.calls) (free : smooth → s.closed = false)
    (found : s.calls[i]? = some call) (stands : call.stage = .called result) :
    Told starts smooth (past ++ (s.afterCallRaw i call result).2)
    (s.afterCallRaw i call result).1.calls := by
  have settles {outcome : Except Thrown ClientAnswer}
      (fails : smooth → call.options.finishes = true → result.isOk = false)
      (follows : result.isOk = false → outcome.isOk = false) :
      Told starts smooth (past ++ (s.enter i (.settled outcome)).2)
      (s.enter i (.settled outcome)).1.calls := by
    obtain ⟨opChain, same⟩ := enter_only s i (.settled outcome)
    rw [same]
    refine told.quiet found (fun e mem j own => ?_)
      (fun e mem => (enter_shows mem).2) fun history own =>
      own.settles stands fails follows
    exact (Option.some.inj ((enter_shows mem).1.symm.trans own)).symm
  unfold SessionRpcClientTransport.afterCallRaw
  cases result with
  | error error => exact settles (fun _ _ => rfl) fun _ => rfl
  | ok answer =>
    dsimp only
    cases identified : call.questionId with
    | none => exact Heap.Logged.silent told nofun
    | some questionId =>
      dsimp only
      split_ifs with finishes closed
      · exact settles (fun smooth => nomatch closed.symm.trans (free smooth)) nofun
      · exact told.quiet found nofun nofun fun history own => own.finishes stands identified
      · exact settles (fun _ finishing => absurd finishing finishes) nofun

theorem calls_retireParamCapGrants (s : SessionRpcClientTransport) (message : RpcReturnMessage) :
    (s.retireParamCapGrants message).1.calls = s.calls ∧
      ∀ e ∈ (s.retireParamCapGrants message).2, e.about = none := by
  unfold retireParamCapGrants
  split
  · exact ⟨rfl, nofun⟩
  · refine ⟨rfl, fun e mem => ?_⟩
    split_ifs at mem
    · rw [List.mem_singleton.1 mem]
      rfl
    · cases mem

/-- The pump takes a Return. -/
theorem Told.handleReturn (told : Told starts smooth past s.calls) (waiting : Waiting s)
    (message : RpcReturnMessage) :
    Told starts smooth (past ++ (s.handleReturn message).2) (s.handleReturn message).1.calls := by
  obtain ⟨same, silent⟩ := calls_retireParamCapGrants s message
  have retired : Waiting (s.retireParamCapGrants message).1 := by
    unfold retireParamCapGrants
    split <;> exact waiting
  have arrived : Told starts smooth
      (past ++ SessionEffect.arrived message s.localBridge
        (s.expectedReturns.lookup message.answerId).isSome ::
        (s.retireParamCapGrants message).2) (s.retireParamCapGrants message).1.calls := by
    rw [same]
    refine Heap.Logged.silent told (List.forall_mem_cons.2 ⟨rfl, silent⟩)
  unfold SessionRpcClientTransport.handleReturn
  dsimp only
  split_ifs with expected
  · cases pending : (s.retireParamCapGrants message).1.pendingReturns.lookup message.answerId with
    | none =>
      rw [resolvePendingReturn_none pending]
      dsimp only
      unfold queueReturn
      split_ifs <;> exact arrived
    | some waiters =>
      obtain ⟨i, call, -, found, identified, awaits⟩ := retired.of_pending pending
      rw [resolvePendingReturn_some retired found identified awaits]
      dsimp only
      rw [← List.append_assoc]
      exact arrived.deliver found awaits message
  · exact arrived

/-- What a step adds to the histories. -/
theorem Told.moves (told : Told starts smooth past s.calls) (waiting : Waiting s)
    (free : smooth → s.closed = false) (startsNow : starts → event.starts = true)
    (smoothNow : smooth → event.smooth = true) (moves : Moves s event s' effects) :
    Told starts smooth (past ++ effects) s'.calls := by
  cases moves with
  | nothing | harness | serves | idles | serveFails => exact Heap.Logged.silent told nofun
  | threw => exact Heap.Logged.silent told (by simp [SessionEffect.about])
  | exits exiting =>
    split_ifs
    · obtain ⟨frames, pump, same⟩ := ensureResponsePump_only { s with responsePump := .off }
      rw [same]
      exact Heap.Logged.silent told nofun
    · exact Heap.Logged.silent told nofun
  | pumpsOn failure serving =>
    obtain ⟨frames, pump, same⟩ := pumpResponses_only s
    rw [same]
    exact Heap.Logged.silent told nofun
  | exported hasHostCallBridge =>
    obtain ⟨frames, pump, same⟩ := ensureResponsePump_only { s with localBridge := true }
    rw [same]
    exact Heap.Logged.silent told nofun
  | begun operation options => exact told.begun operation options
  | refused i frameError call error found stands
  | unasked i failure frameError call error found stands =>
    have unsettled : call.promise = none := (waiting.fit i call found).early (by rw [stands]; rfl)
    refine told.enter found fun history own => ?_
    exact SessionCall.stands_refused (own.unsent (by simp [stands])) unsettled error
  | hooked i frameError call found stands =>
    have allocated :=
      told.allocate found ((waiting.fit i call found).unnumbered stands) stands s.nextQuestionId
    have hooked : Told starts smooth (past ++ [.allocated i s.nextQuestionId] ++ [])
        ((s.allocate i).goTo i .onCall).calls := by
      exact allocated.goTo (Heap.modify_self found) nofun fun history own =>
        own.unsent (.inl stands)
    rw [List.append_nil] at hooked
    exact hooked
  | unencoded i call error found stands =>
    have unsettled : call.promise = none := (waiting.fit i call found).early (by rw [stands]; rfl)
    have allocated :=
      told.allocate found ((waiting.fit i call found).unnumbered stands) stands s.nextQuestionId
    rw [List.append_cons]
    refine Told.enter (s := s.allocate i) allocated (Heap.modify_self found) fun history own => ?_
    exact SessionCall.stands_refused (own.unsent (.inl stands)) unsettled error
  | asked i call found stands =>
    have allocated :=
      told.allocate found ((waiting.fit i call found).unnumbered stands) stands s.nextQuestionId
    rw [List.append_cons]
    change Told _ _ _ (((s.allocate i).recordGrants call s.nextQuestionId).calls.modify i _)
    rw [calls_recordGrants]
    exact allocated.goTo (Heap.modify_self found)
      (fun e mem => grantEffects_silent mem) fun history own =>
      own.unsent (.inl stands)
  | askedAfterHook i call questionId found stands =>
    change Told _ _ _ ((s.recordGrants call questionId).calls.modify i _)
    rw [calls_recordGrants]
    exact told.goTo found (fun e mem => grantEffects_silent mem) fun history own =>
      own.unsent (.inr (.inl stands))
  | emitted i call frame found stands =>
    have silent : (SessionEffect.emitted i frame).history = 0 := rfl
    refine told.one found rfl fun history own => ?_
    rw [silent, add_zero]
    exact own.goTo (own.unsent (.inr (.inr (.inl ⟨frame, stands⟩))))
  | unsent i call frame questionId error found stands identified =>
    have unsettled : call.promise = none := (waiting.fit i call found).early (by rw [stands]; rfl)
    have dropped : Told starts smooth (past ++ [.unsent questionId]) (markReturnObserved
        { s with questionParamCapGrants := s.questionParamCapGrants.erase questionId }
          questionId).calls :=
      Heap.Logged.silent told (by simp [SessionEffect.about])
    rw [List.append_cons]
    refine dropped.enter found fun history own => ?_
    exact SessionCall.stands_unsent (own.unsent (.inr (.inr (.inl ⟨frame, stands⟩))))
      unsettled error
  | handedOver i call found stands =>
    have unsettled : call.promise = none := (waiting.fit i call found).early (by rw [stands]; rfl)
    refine told.one found rfl fun history own => ?_
    have asking := own.unsent (.inr (.inr (.inr stands)))
    refine ⟨?_, ?_, own.returns, ?_, ?_, asking.returned, asking.isFinish⟩
    · change history.asked ++ [] = _
      rw [List.append_nil]
      exact own.asked
    · change history.delivered ++ [] = _
      rw [List.append_nil]
      exact own.delivered
    · exact Bool.or_true _
    · change history.finishes ++ [] = []
      rw [List.append_nil]
      exact asking.finishes
  | emitFailed i call questionId error found stands identified =>
    have unsettled : call.promise = none := (waiting.fit i call found).early (by rw [stands]; rfl)
    refine Told.enter (s := s.markReturnObserved questionId) told found fun history own => ?_
    exact SessionCall.stands_unsent (own.unsent (.inr (.inr (.inr stands)))) unsettled error
  | flushFailed i call questionId error found stands identified =>
    have unsettled : call.promise = none := (waiting.fit i call found).early (by rw [stands]; rfl)
    refine Told.enter (s := s.markReturnObserved questionId) told found fun history own => ?_
    refine SessionCall.stands_failed (own.sent (.inl stands)) identified (fun message => ?_) error
    rw [unsettled]
    exact nofun
  | flushed i call questionId found stands identified =>
    exact told.flushed waiting found stands (awaitReturn_cases _ i call questionId)
  | answered i frameError call questionId outcome found stands identified promise =>
    have calls : (s.observe call questionId outcome).calls = s.calls := by
      unfold observe
      split
      · rfl
      · split <;> rfl
    have observed : Told starts smooth past (s.observe call questionId outcome).calls := by
      rw [calls]
      exact told
    refine observed.enter (calls ▸ found) fun history own => ?_
    exact SessionCall.stands_afterWait (own.sent (.inr stands)) identified promise
  | concludes i failure frameError call result found stands =>
    refine told.enter found fun history own => ?_
    have standing := own.stands
    rw [stands] at standing
    obtain ⟨returned, ended, tells⟩ := standing
    cases failure with
    | none => exact SessionCall.stands_concluded returned ended tells
    | some error =>
      exact SessionCall.stands_concluded returned (ended.fails error) fun smooth =>
        nomatch smoothNow smooth
  | returned i frameError call result found stands => exact told.afterCallRaw free found stands
  | finishClosed i frameError call finish found stands closed =>
    refine told.enter found fun history own => ?_
    have standing := own.stands
    rw [stands] at standing
    have rough : ¬smooth := fun smooth => nomatch closed.symm.trans (free smooth)
    change if call.returned then _ else _
    split_ifs with returned
    · exact SessionCall.returned_finish standing.1 returned (.inr ⟨rough, rfl⟩)
    · refine ⟨?_, fun smooth => absurd smooth rough⟩
      exact standing.1.unsent (standing.2 (Bool.eq_false_iff.2 returned))
  | finishTurn i frameError call finish found stands =>
    have turned : Told starts smooth (past ++ []) (s.goTo i (.finishStarting finish)).calls := by
      refine told.goTo found nofun fun history own => ?_
      have standing := own.stands
      rw [stands] at standing
      exact standing.1
    exact turned
  | finishEmitted i call finish found stands =>
    refine told.one found rfl fun history own => ?_
    have standing := own.stands
    rw [stands] at standing
    refine ⟨?_, ?_, own.returns, history.finishes, ?_, rfl⟩
    · change history.asked ++ [] = _
      rw [List.append_nil]
      exact own.asked
    · change history.delivered ++ [] = _
      rw [List.append_nil]
      exact own.delivered
    · exact standing.more
  | finishHandedOver i call finish found stands =>
    refine told.goTo found nofun fun history own => ?_
    have standing := own.stands
    rw [stands] at standing
    exact standing
  | finished i call finish found stands =>
    refine told.enter found fun history own => ?_
    have standing := own.stands
    rw [stands] at standing
    obtain ⟨before, owing, sent⟩ := standing
    exact SessionCall.stands_finished own.method owing sent
  | finishUnstarted i call finish error found stands =>
    refine told.enter found fun history own => ?_
    have standing := own.stands
    rw [stands] at standing
    have never : ¬starts := fun starts => nomatch startsNow starts
    exact SessionCall.stands_failFinish own.method standing (fun smooth => nomatch smoothNow smooth)
      (.inr ⟨never, rfl⟩)
  | finishUnemitted i call finish error found stands
  | finishUnflushed i call finish error found stands =>
    refine told.enter found fun history own => ?_
    have standing := own.stands
    rw [stands] at standing
    obtain ⟨before, owing, sent⟩ := standing
    exact SessionCall.stands_failFinish own.method owing (fun smooth => nomatch smoothNow smooth)
      (.inl sent)
  | timedOut i call error found running =>
    have awaits := (waiting.fit i call found).watched (.inl running)
    obtain ⟨questionId, identified⟩ := (waiting.fit i call found).identified_of_awaits awaits
    obtain ⟨pump, same⟩ := rejectAndRemove_eq waiting found identified awaits error
    rw [same]
    exact told.reject found awaits error
  | flagged i call found =>
    exact told.flag found
  | aborted i call error found listening =>
    have awaits : ({ call with aborted := call.options.signal } : SessionCall).awaits = true :=
      (waiting.fit i call found).watched (.inr listening)
    obtain ⟨questionId, identified⟩ := (waiting.fit i call found).identified_of_awaits awaits
    have flagged := waiting.flag found
    have found' :=
      Heap.modify_self (f := fun call : SessionCall => { call with aborted := call.options.signal })
      found
    obtain ⟨pump, same⟩ := rejectAndRemove_eq flagged found' identified awaits error
    have told' : Told starts smooth (past ++ []) (s.updateCall i fun call =>
        { call with aborted := call.options.signal }).calls := told.flag found
    change Told _ _ _
      ((s.updateCall i fun call => { call with aborted := call.options.signal }).rejectAndRemove i
      { call with aborted := call.options.signal } error).calls
    rw [same]
    rw [List.append_nil] at told'
    exact told'.reject found' awaits error
  | received message aborted read =>
    obtain ⟨frames, pump, same⟩ := pumpResponses_only 
      (SessionRpcClientTransport.handleReturn { s with responsePump := .serving } message).1
    rw [same]
    exact Told.handleReturn (s := { s with responsePump := .serving }) told waiting message
  | stops error aborted read =>
    obtain ⟨pump, same⟩ := rejectAllPendingReturns_only
      { s with responsePump := .exiting, responsePumpStopped := true } error
    rw [same]
    exact told.rejectAll waiting error nofun
  | closed =>
    obtain ⟨pump, rejected⟩ := rejectAllPendingReturns_only
      { s with closed := true, responsePumpStopped := true, localBridge := false } clientClosed
    unfold close
    rw [rejected]
    dsimp only
    obtain ⟨pump, same⟩ := abortResponsePumpRead_only _
    rw [same]
    exact told.rejectAll waiting clientClosed (by simp [SessionEffect.about])

/-! ## Runs -/

theorem closed_moves (moves : Moves s event s' effects) (smooth : event.smooth = true) :
    s'.closed = s.closed := by
  have recorded (s : SessionRpcClientTransport) (call : SessionCall) (questionId : ℕ) :
      (s.recordGrants call questionId).closed = s.closed := by
    unfold recordGrants
    split_ifs <;> rfl
  cases moves with
  | nothing | harness | serves | idles | serveFails | threw | emitted | handedOver | finishTurn
  | finishEmitted
    | finishHandedOver | flagged | hooked => rfl
  | refused | unasked | unencoded | unsent | emitFailed | flushFailed | concludes | finishClosed
  | finished
    | finishUnstarted | finishUnemitted | finishUnflushed => exact (Keeps.enter _ _ _).closed
  | asked => exact recorded _ _ _
  | askedAfterHook => exact recorded _ _ _
  | begun => exact (Keeps.start _ _ _).closed
  | answered => exact ((Keeps.observe _ _ _ _).trans (Keeps.enter _ _ _)).closed
  | returned => exact (Keeps.afterCallRaw _ _ _ _).closed
  | flushed => exact ((Keeps.toWaiting _ _ _).trans (Keeps.awaitReturn _ _ _ _)).closed
  | timedOut => exact (Keeps.rejectAndRemove _ _ _ _).closed
  | aborted => exact (Keeps.rejectAndRemove _ _ _ _).closed
  | received message aborted read =>
    have retired : ((retireParamCapGrants { s with responsePump := .serving } message).1).closed =
        s.closed := by
      unfold retireParamCapGrants
      split <;> rfl
    exact ((keeps_handleReturn _ _).trans (Keeps.pumpResponses _)).closed.trans retired
  | stops => exact (Keeps.rejectAllPendingReturns _ _).closed
  | exits =>
    split_ifs
    · exact (Keeps.ensureResponsePump _).closed
    · rfl
  | pumpsOn => exact (Keeps.pumpResponses _).closed
  | exported => exact (Keeps.ensureResponsePump _).closed
  | closed => cases smooth

/-- What holds of every run: its waiters, and the history of its operations. -/
theorem run_told (starts smooth : Prop) (options : SessionRpcClientTransportOptions)
    (events : List SessionEvent) (starting : starts → ∀ event ∈ events, event.starts = true)
    (smoothly : smooth → ∀ event ∈ events, event.smooth = true) :
    Waiting (Machine.final step (initial options) events) ∧
      Told starts smooth (Machine.shown step (initial options) events)
        (Machine.final step (initial options) events).calls := by
  have always : Machine.Always step
      (fun _ event => (starts → event.starts = true) ∧ (smooth → event.smooth = true))
      (initial options) events :=
    Machine.always_of_mem fun event mem _ =>
      ⟨fun on => starting on event mem, fun on => smoothly on event mem⟩
  suffices run : Waiting (Machine.final step (initial options) events) ∧
      (smooth → (Machine.final step (initial options) events).closed = false) ∧
        Told starts smooth (Machine.shown step (initial options) events)
          (Machine.final step (initial options) events).calls from ⟨run.1, run.2.2⟩
  refine always.history (P := fun past s => Waiting s ∧ (smooth → s.closed = false) ∧
    Told starts smooth past s.calls)
    (fun past s event ⟨startsNow, smoothNow⟩ ⟨waiting, free, told⟩ => ?_)
    ⟨Numbered.nil _, fun _ => rfl, Heap.logged_nil⟩
  have moves : Moves s event _ _ := moves_step s event
  exact ⟨waiting.moves moves, fun on => (closed_moves moves (smoothNow on)).trans (free on),
    told.moves waiting free startsNow smoothNow moves⟩

end SessionRpcClientTransport

end CapnpDeno
