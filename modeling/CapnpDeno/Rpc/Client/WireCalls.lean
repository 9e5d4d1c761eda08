import CapnpDeno.Rpc.Client.CallHistory
import CapnpDeno.Rpc.Client.WireWaiters

/-!
# Histories of the wire client's calls

An operation has sent the Finish that it owes once it is over: one after a wait that has failed, one
after the results of a bootstrap that need it, and one after any results of an emitted method.
-/

namespace CapnpDeno

/-- The operation that the effect is about. -/
def WireEffect.about : WireEffect → Option OperationId
  | .allocated i _ | .sent i _ | .sentFinish i _ _ | .handedOver i | .delivered i _
  | .settled i _ => some i
  | .recorded _ _ | .arrived _ _ | .released _ _ | .threw _ | .closed => none

def WireEffect.history : WireEffect → CallHistory
  | .allocated _ questionId => ⟨[questionId], false, [], []⟩
  | .sentFinish _ _ frame => ⟨[], false, [], [frame]⟩
  | .handedOver _ => ⟨[], true, [], []⟩
  | .delivered _ message => ⟨[], false, [message], []⟩
  | _ => 0

/-- No send fails, and the client is not closed. -/
def WireEvent.smooth : WireEvent → Bool
  | .sendSettles _ (some _) | .close => false
  | _ => true

namespace WireCall

/-- A method of an emitted client. -/
def isMethod (call : WireCall) : Bool :=
  match call.operation with
  | .method _ _ => true
  | _ => false

/-- An explicit `finish`. -/
def isFinish (call : WireCall) : Bool :=
  match call.operation with
  | .finish _ _ => true
  | _ => false

/-- The question that the operation is to finish. -/
def question (call : WireCall) : Option ℕ :=
  match call.operation with
  | .finish questionId _ => some questionId
  | _ => call.questionId

/-- The Return that the operation got. -/
def answers (call : WireCall) : List RpcReturnMessage :=
  match call.promise with
  | some (.ok message) => [message]
  | _ => []

/-- Once its frame is handed over, the operation is to send a Finish. -/
def owes (call : WireCall) : Bool :=
  match call.promise with
  | some (.ok message) =>
    match call.operation with
    | .bootstrap => call.options.finishes && message.isResults && !message.noFinishNeeded
    | .method _ _ => call.options.finishes && message.isResults
    | _ => false
  | _ => call.options.finishes

variable (opened smooth : Prop)

/-- An operation that has come past its wait owes a Finish. -/
def Owing (call : WireCall) (history : CallHistory) (finish : PendingFinish) : Prop :=
  call.question = some finish.questionId ∧
    (call.isFinish = false → opened ∧ history.handedOver = true ∧ call.owes = true)

/-- The operation has not come past its wait; `handedOver` says that its frame is handed over. -/
structure Asking (call : WireCall) (history : CallHistory) (handedOver : Bool) : Prop where
  handedOver : history.handedOver = handedOver
  finishes : history.finishes = []
  isFinish : call.isFinish = false

/-- What the history of an operation is at a stage. -/
def Stands (call : WireCall) (history : CallHistory) : WireStage → Prop
  | .ready | .handing _ | .sending => call.Asking history false
  | .waiting => call.Asking history true
  | .finishReady finish => call.Owing opened history finish ∧ history.finishes = []
  | .finishSending finish => call.Owing opened history finish ∧ history.finishes.length = 1
  | .settled _ =>
    smooth → call.isFinish = false →
      history.handedOver = false ∧ history.finishes = [] ∧ call.promise = none ∨
        history.handedOver = true ∧ history.finishes.length = if call.owes then 1 else 0

/-- The history of an operation; `opened` says that the transport has started. -/
structure Told (history : CallHistory) (call : WireCall) : Prop where
  asked : history.asked = call.questionId.toList
  started : call.questionId.isSome = true → opened
  delivered : history.delivered = call.answers
  own : ∀ frame ∈ history.finishes, ∃ questionId, call.question = some questionId ∧
    frame.isFinishOf questionId = true
  stands : call.Stands opened smooth history call.stage

/-! ## Coming to a stage -/

variable {opened smooth : Prop} {call : WireCall} {history : CallHistory} {questionId : ℕ}
  {result : Except Thrown ClientAnswer}

theorem stands_congr {call' : WireCall} {stage : WireStage}
    (stands : call.Stands opened smooth history stage)
    (operation : call'.operation = call.operation) (options : call'.options = call.options)
    (questionId : call'.questionId = call.questionId) (promise : call'.promise = call.promise) :
    call'.Stands opened smooth history stage := by
  obtain ⟨_, _, _, _, _, _, _, _⟩ := call
  obtain ⟨_, _, _, _, _, _, _, _⟩ := call'
  dsimp only at operation options questionId promise
  subst operation options questionId promise
  cases stage with
  | ready | handing | sending
  | waiting => exact ⟨stands.handedOver, stands.finishes, stands.isFinish⟩
  | finishReady | finishSending | settled => exact stands

theorem Told.goTo (told : call.Told opened smooth history) {stage : WireStage}
    (stands : call.Stands opened smooth history stage) :
    ({ call with stage := stage } : WireCall).Told opened smooth history :=
  ⟨told.asked, told.started, told.delivered, told.own, stands_congr stands rfl rfl rfl rfl⟩

/-- The operation has not handed over its frame. -/
theorem Told.unsent (told : call.Told opened smooth history)
    (stands : call.stage = .ready ∨ (∃ frame, call.stage = .handing frame) ∨
      call.stage = .sending) :
    call.Asking history false := by
  have standing := told.stands
  rcases stands with stands | ⟨frame, stands⟩ | stands <;> rw [stands] at standing <;>
    exact standing

/-- The operation has handed over its frame, and not come past its wait. -/
theorem Told.sent (told : call.Told opened smooth history) (stands : call.stage = .waiting) :
    call.Asking history true := by
  have standing := told.stands
  rw [stands] at standing
  exact standing

theorem question_of_asking (asks : call.isFinish = false) : call.question = call.questionId := by
  unfold isFinish at asks
  unfold question
  split at asks
  · cases asks
  · rfl

/-- An operation that ends before its frame is handed over, and before anything has come to its
waiter. -/
theorem stands_refused (asking : call.Asking history false) (unsettled : call.promise = none) :
    call.Stands opened smooth history (.settled result) := fun _ _ =>
  .inl ⟨asking.handedOver, asking.finishes, unsettled⟩

/-- An operation that owes a Finish. -/
theorem stands_owing (asking : call.Asking history true)
    (identified : call.questionId = some questionId) (started : opened) (owes : call.owes = true)
    {options : RpcFinishOptions} {swallows : Bool} :
    call.Stands opened smooth history (.finishReady ⟨questionId, options, result, swallows⟩) := by
  refine ⟨⟨?_, fun _ => ⟨started, asking.handedOver, owes⟩⟩, asking.finishes⟩
  rw [question_of_asking asking.isFinish, identified]

/-- An operation that owes none. -/
theorem stands_over (asking : call.Asking history true) (owes : call.owes = false) :
    call.Stands opened smooth history (.settled result) := by
  refine fun _ _ => .inr ⟨asking.handedOver, ?_⟩
  rw [asking.finishes, owes]
  rfl

theorem owes_failed {error : Thrown} (promise : call.promise = some (.error error)) :
    call.owes = call.options.finishes := by
  unfold owes
  rw [promise]

theorem owes_bootstrap {message : RpcReturnMessage} (promise : call.promise = some (.ok message))
    (operation : call.operation = .bootstrap) :
    call.owes = (call.options.finishes && message.isResults && !message.noFinishNeeded) := by
  unfold owes
  rw [promise]
  dsimp only
  rw [operation]

theorem owes_method {message : RpcReturnMessage} (promise : call.promise = some (.ok message))
    (method : call.isMethod = true) : call.owes = (call.options.finishes && message.isResults) := by
  unfold isMethod at method
  unfold owes
  rw [promise]
  dsimp only
  split at method
  · next operation => rw [operation]
  · cases method

theorem owes_callRaw {message : RpcReturnMessage} (promise : call.promise = some (.ok message))
    (unlike : call.operation ≠ .bootstrap) (method : call.isMethod = false) :
    call.owes = false := by
  unfold isMethod at method
  unfold owes
  rw [promise]
  dsimp only
  split
  · next operation => exact absurd operation unlike
  · next operation =>
    rw [operation] at method
    cases method
  · rfl

theorem stands_answer {message : RpcReturnMessage} (asking : call.Asking history true)
    (identified : call.questionId = some questionId) (started : opened)
    (promise : call.promise = some (.ok message)) :
    call.Stands opened smooth history (RpcWireClient.answer call questionId message) := by
  have results {content : Option Bytes} {capTable : List RpcCapDescriptor}
      (kind : message.kind = .results content capTable) : message.isResults = true := by
    unfold RpcReturnMessage.isResults
    rw [kind]
  unfold RpcWireClient.answer
  dsimp only
  split
  · next operation =>
    have owes := owes_bootstrap promise operation
    split
    · next kind =>
      rw [results kind, Bool.and_true] at owes
      split_ifs with finishes
      · exact stands_owing asking identified started (owes.trans finishes)
      · exact stands_over asking (owes.trans (Bool.eq_false_iff.2 finishes))
    · next unresulting =>
      have failure : message.isResults = false := by
        unfold RpcReturnMessage.isResults
        split
        · next same => exact absurd same (unresulting _ _)
        · rfl
      rw [failure, Bool.and_false, Bool.false_and] at owes
      exact stands_over asking owes
  · next operation =>
    have owes := owes_method promise (by unfold isMethod; rw [operation])
    cases result : message.isResults with
    | false =>
      rw [result, Bool.and_false] at owes
      obtain ⟨error, failed⟩ := requireRpcReturnResults_failure result
      rw [failed]
      exact stands_over asking owes
    | true =>
      rw [result, Bool.and_true] at owes
      rw [requireRpcReturnResults_results result]
      dsimp only
      split_ifs with finishes
      · exact stands_owing asking identified started (owes.trans finishes)
      · exact stands_over asking (owes.trans (Bool.eq_false_iff.2 finishes))
  · next unlike method =>
    refine stands_over asking (owes_callRaw promise unlike ?_)
    unfold isMethod
    split
    · next operation => exact absurd operation (method _ _)
    · rfl

theorem stands_afterWait {outcome : Except Thrown RpcReturnMessage}
    (asking : call.Asking history true) (identified : call.questionId = some questionId)
    (started : opened) (promise : call.promise = some outcome) :
    call.Stands opened smooth history (RpcWireClient.afterWait call questionId outcome) := by
  cases outcome with
  | ok message => exact stands_answer asking identified started promise
  | error error =>
    have owes := owes_failed promise
    unfold RpcWireClient.afterWait
    dsimp only
    split_ifs with finishes
    · exact stands_owing asking identified started (owes.trans finishes)
    · exact stands_over asking (owes.trans (Bool.eq_false_iff.2 finishes))

/-- The promise of an operation that waits is settled. -/
theorem Told.settle (told : call.Told opened smooth history) (awaits : call.awaits = true)
    (outcome : Except Thrown RpcReturnMessage) :
    ({ call with timer := false, listening := false, promise := some outcome } : WireCall).Told
      opened smooth
      (history + match outcome with
        | .ok message => ⟨[], false, [message], []⟩
        | .error _ => 0) := by
  obtain ⟨asking, unsettled⟩ := awaits_iff.1 awaits
  have none : call.answers = [] := by
    unfold answers
    rw [unsettled]
  have kept {added : CallHistory} (asked : added.asked = []) (silent : added.finishes = [])
      (quiet : added.handedOver = false) {outcome : Except Thrown RpcReturnMessage}
      (delivered : added.delivered =
        ({ call with timer := false, listening := false, promise := some outcome } :
          WireCall).answers) :
      ({ call with timer := false, listening := false, promise := some outcome } : WireCall).Told
      opened smooth
        (history + added) := by
    have same : (history + added).finishes = history.finishes := by
      change history.finishes ++ added.finishes = _
      rw [silent, List.append_nil]
    have handed : (history + added).handedOver = history.handedOver := by
      change (history.handedOver || added.handedOver) = _
      rw [quiet, Bool.or_false]
    have stands := told.stands
    refine ⟨?_, told.started, ?_, ?_, ?_⟩
    · change history.asked ++ added.asked = _
      rw [asked, List.append_nil]
      exact told.asked
    · change history.delivered ++ added.delivered = _
      rw [told.delivered, none]
      exact delivered
    · rw [same]
      exact told.own
    · change Stands opened smooth _ _ call.stage
      cases stage : call.stage with
      | handing | sending | waiting =>
        rw [stage] at stands
        exact ⟨handed.trans stands.handedOver, same.trans stands.finishes, stands.isFinish⟩
      | ready | finishReady | finishSending | settled =>
        rw [stage] at asking
        cases asking
  cases outcome with
  | ok message => exact kept rfl rfl rfl rfl
  | error error => exact kept rfl rfl rfl rfl

/-- Once the transport has started, it stays so. -/
theorem Told.mono {opened' : Prop} (weaker : opened → opened')
    (told : call.Told opened smooth history) :
    call.Told opened' smooth history := by
  have stands := told.stands
  refine ⟨told.asked, fun identified => weaker (told.started identified), told.delivered,
    told.own, ?_⟩
  have owing {finish : PendingFinish} (owing : call.Owing opened history finish) :
      call.Owing opened' history finish :=
    owing.imp_right fun owes asks => (owes asks).imp_left weaker
  cases stage : call.stage with
  | ready | handing | sending | waiting =>
    rw [stage] at stands
    exact ⟨stands.handedOver, stands.finishes, stands.isFinish⟩
  | finishReady | finishSending =>
    rw [stage] at stands
    exact ⟨owing stands.1, stands.2⟩
  | settled =>
    rw [stage] at stands
    exact stands

end WireCall

/-! ## Steps -/

namespace RpcWireClient

variable {opened smooth : Prop} {s s' : RpcWireClient} {event : WireEvent} {calls : List WireCall}
  {past effects : List WireEffect} {i : OperationId} {call : WireCall} {questionId : ℕ}

variable (opened smooth) in
/-- The history of every operation. -/
abbrev Told (past : List WireEffect) (calls : List WireCall) : Prop :=
  CallHistory.Logged WireEffect.about WireEffect.history (fun history call =>
    call.Told opened smooth history) past calls

/-- The history of an operation in the effects. -/
abbrev historyOf (i : OperationId) (effects : List WireEffect) : CallHistory :=
  CallHistory.of WireEffect.about WireEffect.history i effects

/-- An operation comes to a stage, and nothing is shown of it but that it has settled. -/
theorem Told.goTo (told : Told opened smooth past calls) (found : calls[i]? = some call)
    {stage : WireStage} (silent : ∀ e ∈ effects, (∀ j, e.about = some j → j = i) ∧ e.history = 0)
    (stands : ∀ history, call.Told opened smooth history →
      call.Stands opened smooth history stage) :
    Told opened smooth (past ++ effects)
    (calls.modify i fun call => { call with stage := stage }) :=
  told.quiet found (fun e mem => (silent e mem).1) (fun e mem => (silent e mem).2)
    fun history own => own.goTo (stands history own)

/-- An operation comes to a stage, and nothing is shown. -/
theorem Told.move (told : Told opened smooth past calls) (found : calls[i]? = some call)
    {stage : WireStage} (stands : ∀ history, call.Told opened smooth history →
      call.Stands opened smooth history stage) :
    Told opened smooth past (calls.modify i fun call => { call with stage := stage }) := by
  have moved : Told opened smooth (past ++ [])
      (calls.modify i fun call => { call with stage := stage }) :=
    told.goTo found nofun stands
  rw [List.append_nil] at moved
  exact moved

theorem Told.settle (told : Told opened smooth past calls) (found : calls[i]? = some call)
    (result : Except Thrown ClientAnswer)
    (stands : ∀ history, call.Told opened smooth history →
      call.Stands opened smooth history (.settled result)) :
    Told opened smooth (past ++ [.settled i result])
    (calls.modify i fun call => { call with stage := .settled result }) := by
  refine told.goTo found (fun e mem => ?_) stands
  rw [List.mem_singleton.1 mem]
  exact ⟨fun j own => (Option.some.inj own).symm, rfl⟩

theorem Told.begun (told : Told opened smooth past s.calls) (operation : WireOperation)
    (options : RpcClientCallOptions) :
    Told opened smooth (past ++ (s.start operation options).2)
    (s.start operation options).1.calls := by
  have fresh (stage : WireStage) (history : CallHistory) (empty : history = 0)
      (stands : WireCall.Stands opened smooth ⟨operation, options, none, false, false, false, none,
        stage⟩ history stage) :
      WireCall.Told opened smooth history ⟨operation, options, none, false, false, false, none,
        stage⟩ := by
    rw [empty] at stands ⊢
    exact ⟨rfl, nofun, rfl, nofun, stands⟩
  unfold start
  dsimp only
  split_ifs
  · refine Heap.Logged.append told (by simp [WireEffect.about]) (fresh _ _ ?_ ?_)
    · rw [Heap.log_eq_self (by simp [WireEffect.about])]
      rfl
    · rw [Heap.log_eq_self (by simp [WireEffect.about])]
      exact fun _ _ => .inl ⟨rfl, rfl, rfl⟩
  · refine Heap.Logged.append told nofun (fresh _ _ rfl ?_)
    cases operation with
    | finish => exact ⟨⟨rfl, nofun⟩, rfl⟩
    | bootstrap | callRaw | method => exact ⟨rfl, rfl, rfl⟩

/-- The question of an operation gets an id. -/
theorem Told.allocate (told : Told opened smooth past calls) (started : opened)
    (found : calls[i]? = some call) (unnumbered : call.questionId = none)
    (stands : call.stage = .ready) (questionId : ℕ) :
    Told opened smooth (past ++ [.allocated i questionId])
      (calls.modify i fun call => { call with questionId := some questionId }) := by
  refine told.one found rfl fun history own => ?_
  have asking := own.unsent (.inl stands)
  have silent : (history + (WireEffect.allocated i questionId).history).finishes = [] := by
    change history.finishes ++ [] = []
    rw [asking.finishes]
    rfl
  refine ⟨?_, fun _ => started, ?_, ?_, ?_⟩
  · change history.asked ++ [questionId] = _
    rw [own.asked, unnumbered]
    rfl
  · change history.delivered ++ [] = _
    rw [List.append_nil]
    exact own.delivered
  · rw [silent]
    exact nofun
  · change WireCall.Stands opened smooth _ _ call.stage
    rw [stands]
    refine ⟨?_, silent, asking.isFinish⟩
    change (history.handedOver || false) = false
    rw [Bool.or_false]
    exact asking.handedOver

theorem grantEffects_silent {e : WireEffect} (mem : e ∈ grantEffects call questionId) :
    e.about = none ∧ e.history = 0 := by
  unfold grantEffects at mem
  split_ifs at mem
  · rw [List.mem_singleton.1 mem]
    exact ⟨rfl, rfl⟩
  · cases mem

theorem Told.mono {opened' : Prop} (weaker : opened → opened')
    (told : Told opened smooth past calls) :
    Told opened' smooth past calls :=
  ⟨fun i call found => (told.1 i call found).mono weaker, told.2⟩

/-- A waiter gets what its promise is settled with. -/
theorem Told.outcome (told : Told opened smooth past calls) (found : calls[i]? = some call)
    (awaits : call.awaits = true) (error : Thrown) :
    Told opened smooth past (calls.modify i fun call =>
      { call with timer := false, listening := false, promise := some (.error error) }) := by
  have quiet : Told opened smooth (past ++ []) (calls.modify i fun call =>
      { call with timer := false, listening := false, promise := some (.error error) }) := by
    refine told.quiet found nofun nofun fun history own => ?_
    have settled := own.settle awaits (.error error)
    rw [add_zero] at settled
    exact settled
  rw [List.append_nil] at quiet
  exact quiet

theorem Told.reject (told : Told opened smooth past s.calls) (waits : Waiting s)
    (found : s.calls[i]? = some call) (asking : call.stage.asking = true) (error : Thrown) :
    Told opened smooth past (s.reject i call error).calls := by
  obtain ⟨-, same⟩ | ⟨questionId, -, awaits, same⟩ := reject_cases waits found asking error
  · rw [same]
    exact told
  · rw [same]
    exact told.outcome found awaits error

theorem Told.rejectCall {history : CallHistory} (told : call.Told opened smooth history)
    (waits : Waiting s) (found : s.calls[i]? = some call) (error : Thrown) :
    (rejectCall s.pendingReturns error i call).Told opened smooth history := by
  unfold RpcWireClient.rejectCall
  split_ifs with pending
  · obtain ⟨questionId, identified, pending⟩ := Option.bind_eq_some_iff.1 pending
    rw [Waits.lookup waits found identified] at pending
    split_ifs at pending with awaits
    have settled := told.settle awaits (.error error)
    rw [add_zero] at settled
    exact settled
  · exact told

theorem Told.rejectAll (told : Told opened smooth past s.calls) (waits : Waiting s)
    (error : Thrown) :
    Told opened smooth (past ++ []) (s.rejectAllPending error).calls := by
  refine Heap.Logged.mapIdx told nofun fun i call found own => ?_
  have quiet : Heap.log WireEffect.about i [] = [] := rfl
  rw [quiet, List.append_nil]
  exact Told.rejectCall own waits found error

/-- The operation is asked, up to its race. -/
theorem Told.asked (told : Told opened smooth past s.calls) (waits : Waiting s) (started : opened)
    (found : s.calls[i]? = some call) (stands : call.stage = .ready) (frame : ClientFrame)
    (questionId : ℕ) :
    Told opened smooth (past ++ .allocated i questionId :: grantEffects call questionId)
      (((((s.allocate i questionId).recordGrants call questionId).waitForReturn questionId i
        call)).goTo i (.handing frame)).calls := by
  have found' := found
  have allocated :
      Told opened smooth (past ++ [.allocated i questionId] ++ grantEffects call questionId)
      (s.allocate i questionId).calls :=
    Heap.Logged.silent (told.allocate started found ((waits.fit i call found).ready stands).1 stands
      questionId) fun e mem => (grantEffects_silent mem).1
  have found :=
    Heap.modify_self (f := fun call : WireCall => { call with questionId := some questionId }) found
  obtain ⟨grants, same⟩ := recordGrants_only (s.allocate i questionId) call questionId
  rw [same, List.append_cons]
  have race {f : WireCall → WireCall} (kept : ∀ history,
      ({ call with questionId := some questionId } : WireCall).Told opened smooth history →
        (f { call with questionId := some questionId }).Told opened smooth history)
      (still : (f { call with questionId := some questionId }).stage = .ready) :
      Told opened smooth (past ++ [.allocated i questionId] ++ grantEffects call questionId)
        (((s.allocate i questionId).calls.modify i f).modify i fun call =>
          { call with stage := .handing frame }) := by
    have waiting :
        Told opened smooth (past ++ [.allocated i questionId] ++ grantEffects call questionId ++ [])
        ((s.allocate i questionId).calls.modify i f) := allocated.quiet found nofun nofun kept
    rw [List.append_nil] at waiting
    refine waiting.move (Heap.modify_self found) fun history own => ?_
    exact own.unsent (.inl still)
  unfold waitForReturn
  split_ifs
  · refine race (fun history own => ?_) stands
    have asking := own.unsent (.inl stands)
    refine ⟨own.asked, own.started, own.delivered.trans ?_, own.own, ?_⟩
    · unfold WireCall.answers
      rw [((waits.fit i call found').ready stands).2]
    · change WireCall.Stands opened smooth _ _ call.stage
      rw [stands]
      exact ⟨asking.handedOver, asking.finishes, asking.isFinish⟩
  · refine race (fun history own => ?_) stands
    exact ⟨own.asked, own.started, own.delivered, own.own,
      WireCall.stands_congr own.stands rfl rfl rfl rfl⟩

/-- The client is open, so a Finish is sent. -/
theorem Told.finishSent (told : Told opened smooth past s.calls) (found : s.calls[i]? = some call)
    {finish : PendingFinish} (stands : call.stage = .finishReady finish) (free : s.unready = none) :
    Told opened smooth (past ++ (s.sendFinish i finish).2) (s.sendFinish i finish).1.calls := by
  unfold sendFinish
  rw [free]
  refine told.one found rfl fun history own => ?_
  have standing := own.stands
  rw [stands] at standing
  obtain ⟨⟨question, owes⟩, silent⟩ := standing
  refine ⟨?_, own.started, ?_, ?_, ⟨question, fun asks => ?_⟩, ?_⟩
  · change history.asked ++ [] = _
    rw [List.append_nil]
    exact own.asked
  · change history.delivered ++ [] = _
    rw [List.append_nil]
    exact own.delivered
  · change ∀ frame ∈ history.finishes ++ [_], _
    rw [silent]
    intro frame sent
    refine ⟨finish.questionId, question, ?_⟩
    rw [List.mem_singleton.1 sent, isFinishOf_finishFrame]
    exact decide_eq_true rfl
  · refine (owes asks).imp_right fun ⟨handedOver, owes⟩ => ⟨?_, owes⟩
    change (history.handedOver || false) = true
    rw [Bool.or_false]
    exact handedOver
  · change (history.finishes ++ [_]).length = 1
    rw [silent]
    rfl

theorem Told.returned (told : Told opened smooth past s.calls) (waits : Waiting s)
    (message : RpcReturnMessage) :
    Told opened smooth (past ++ (s.onFrame (.ret message)).2)
    (s.onFrame (.ret message)).1.calls := by
  obtain ⟨grants, same⟩ := settleParamCapGrants_only s message.answerId message.releaseParamCaps
  have arrived : Told opened smooth
      (past ++ .arrived message s.localBridge ::
        (s.settleParamCapGrants message.answerId message.releaseParamCaps).2)
      s.calls := by
    refine Heap.Logged.silent told (List.forall_mem_cons.2 ⟨rfl, fun e mem => ?_⟩)
    unfold settleParamCapGrants at mem
    split at mem
    · cases mem
    · dsimp only at mem
      split_ifs at mem
      · rw [List.mem_singleton.1 mem]
        rfl
      · cases mem
  change Told _ _ (past ++ (.arrived message s.localBridge ::
    (s.settleParamCapGrants message.answerId message.releaseParamCaps).2 ++
      ((s.settleParamCapGrants message.answerId message.releaseParamCaps).1.deliver message).2))
    ((s.settleParamCapGrants message.answerId message.releaseParamCaps).1.deliver message).1.calls
  rw [← List.append_assoc, same]
  unfold deliver
  cases pending : s.pendingReturns.lookup message.answerId with
  | none =>
    rw [List.append_nil]
    exact arrived
  | some i =>
    obtain ⟨call, found, identified, awaits⟩ := Waits.of_pending waits pending
    have delivered : Told opened smooth (past ++ .arrived message s.localBridge ::
        (s.settleParamCapGrants message.answerId message.releaseParamCaps).2 ++
          [.delivered i message])
        (s.calls.modify i fun call =>
          { call with timer := false, listening := false, promise := some (.ok message) }) :=
      arrived.one found rfl fun history own => own.settle awaits (.ok message)
    dsimp only
    split_ifs <;> exact delivered

theorem Told.closed (told : Told opened smooth past s.calls) (waits : Waiting s) (rough : ¬smooth) :
    Told opened smooth (past ++ s.close.2) s.close.1.calls := by
  have own (i : ℕ) (call : WireCall) (e : WireEffect) (mem : e ∈ lostRace i call) :
      e.about = some i := by
    obtain ⟨result, rfl⟩ := lostRace_settled mem
    rfl
  rw [calls_close]
  refine Heap.Logged.mapIdx told (fun e mem j same => ?_) fun i call found told => ?_
  · rcases List.mem_cons.1 mem with rfl | lost
    · cases same
    · exact Heap.about_flatten_mapIdx own lost same
  · have quiet : ((Heap.log WireEffect.about i s.close.2).map WireEffect.history).sum = 0 := by
      have logged : Heap.log WireEffect.about i s.close.2 = lostRace i call :=
        Heap.log_flatten_mapIdx own found
      rw [logged]
      unfold lostRace
      split <;> rfl
    rw [List.map_append, List.sum_append, quiet, add_zero]
    have rejected := Told.rejectCall told waits found clientClosed
    unfold loseRace
    split
    · exact rejected.goTo fun smooth => absurd smooth rough
    · exact rejected.goTo fun smooth => absurd smooth rough
    · exact rejected

theorem Told.flag (told : Told opened smooth past calls) (found : calls[i]? = some call) :
    Told opened smooth past (calls.modify i fun call =>
      { call with aborted := call.options.signal }) := by
  have quiet : Told opened smooth (past ++ [])
      (calls.modify i fun call => { call with aborted := call.options.signal }) :=
    told.quiet found nofun nofun fun history own =>
      ⟨own.asked, own.started, own.delivered, own.own,
        WireCall.stands_congr own.stands rfl rfl rfl rfl⟩
  rw [List.append_nil] at quiet
  exact quiet

/-! What the steps leave as it is of the readiness of the client. -/

theorem begun_ready (operation : WireOperation) (options : RpcClientCallOptions) :
    (s.start operation options).1.started = s.started ∧ (s.start operation options).1.closed =
      s.closed := by
  unfold start
  dsimp only
  split_ifs <;> exact ⟨rfl, rfl⟩

theorem asked_ready (i : OperationId) (call : WireCall) (questionId : ℕ) (frame : ClientFrame) :
    (((((s.allocate i questionId).recordGrants call questionId).waitForReturn questionId i
      call)).goTo i
        (.handing frame)).started = s.started ∧
      (((((s.allocate i questionId).recordGrants call questionId).waitForReturn questionId i
        call)).goTo i (.handing frame)).closed = s.closed := by
  obtain ⟨grants, recorded⟩ := recordGrants_only (s.allocate i questionId) call questionId
  rw [recorded]
  unfold waitForReturn
  split_ifs <;> exact ⟨rfl, rfl⟩

theorem sendFinish_ready (i : OperationId) (finish : PendingFinish) (free : s.unready = none) :
    (s.sendFinish i finish).1.started = s.started ∧ (s.sendFinish i finish).1.closed =
      s.closed := by
  unfold sendFinish
  rw [free]
  exact ⟨rfl, rfl⟩

theorem reject_ready (i : OperationId) (call : WireCall) (error : Thrown) :
    (s.reject i call error).started = s.started ∧ (s.reject i call error).closed = s.closed := by
  unfold reject
  split <;> exact ⟨rfl, rfl⟩

theorem returned_ready (message : RpcReturnMessage) :
    (s.onFrame (.ret message)).1.started = s.started ∧ (s.onFrame (.ret message)).1.closed =
      s.closed := by
  obtain ⟨grants, retired⟩ := settleParamCapGrants_only s message.answerId message.releaseParamCaps
  change ((s.settleParamCapGrants message.answerId message.releaseParamCaps).1.deliver
    message).1.started = _ ∧
    ((s.settleParamCapGrants message.answerId message.releaseParamCaps).1.deliver
      message).1.closed = _
  rw [retired]
  unfold deliver
  split
  · exact ⟨rfl, rfl⟩
  · dsimp only
    split_ifs <;> exact ⟨rfl, rfl⟩

/-- What a step adds to the histories. -/
theorem Told.moves (told : Told (s.started = some none) smooth past s.calls) (waits : Waiting s)
    (free : smooth → s.closed = false) (smoothNow : smooth → event.smooth = true)
    (moves : Moves s event s' effects) :
    Told (s'.started = some none) smooth (past ++ effects) s'.calls := by
  have unready_none (open' : s.closed = false) (started : s.started = some none) :
      s.unready = none := by
    unfold unready
    rw [open', started]
    rfl
  have opens (free : s.unready = none) (started : s.started.isSome = true) :
      s.started = some none := by
    unfold unready at free
    obtain ⟨outcome, settled⟩ := Option.isSome_iff_exists.1 started
    rw [settled] at free ⊢
    split_ifs at free
    cases outcome with
    | none => rfl
    | some error => cases free
  cases moves with
  | nothing | exported => exact Heap.Logged.silent told nofun
  | threw => exact Heap.Logged.silent told (by simp [WireEffect.about])
  | opened pending =>
    refine Heap.Logged.silent (told.mono fun started => ?_) nofun
    cases pending.symm.trans started
  | startFailed error pending =>
    have begun : Told (some (some error) = some none) smooth past s.calls :=
      told.mono fun started => by
      cases pending.symm.trans started
    exact Told.rejectAll (s := { s with started := some (some error) }) begun waits _
  | begun operation options =>
    rw [(begun_ready operation options).1]
    exact told.begun operation options
  | refused i frameError call error found stands =>
    have unsettled := ((waits.fit i call found).ready stands).2
    refine told.settle found _ fun history own => ?_
    exact WireCall.stands_refused (own.unsent (.inl stands)) unsettled
  | unencoded i call questionId frame error found stands free prepared started =>
    have ready := (waits.fit i call found).ready stands
    have allocated := told.allocate (opens free started) found ready.1 stands questionId
    rw [List.append_cons]
    refine allocated.settle (Heap.modify_self found) _ fun history own => ?_
    exact WireCall.stands_refused (own.unsent (.inl stands)) ready.2
  | asked i call questionId frame found stands free prepared started =>
    rw [(asked_ready i call questionId frame).1]
    exact told.asked waits (opens free started) found stands frame questionId
  | handedOff i call frame found stands =>
    have silent : (WireEffect.sent i frame).history = 0 := rfl
    refine told.one found rfl fun history own => ?_
    rw [silent, add_zero]
    exact own.goTo (own.unsent (.inr (.inl ⟨frame, stands⟩)))
  | handedOver i call found stands =>
    refine told.one found rfl fun history own => ?_
    have asking := own.unsent (.inr (.inr stands))
    have silent : (history + (WireEffect.handedOver i).history).finishes = [] := by
      change history.finishes ++ [] = []
      rw [List.append_nil]
      exact asking.finishes
    refine ⟨?_, own.started, ?_, ?_, Bool.or_true _, silent, asking.isFinish⟩
    · change history.asked ++ [] = _
      rw [List.append_nil]
      exact own.asked
    · change history.delivered ++ [] = _
      rw [List.append_nil]
      exact own.delivered
    · rw [silent]
      exact nofun
  | sendFailed i call error error' found stands =>
    have rejected := told.reject waits found (by rw [stands]; rfl) error
    have rough : ¬smooth := fun smooth => nomatch smoothNow smooth
    obtain ⟨-, same⟩ | ⟨questionId, -, -, same⟩ :=
      reject_cases waits found (by rw [stands]; rfl) error <;>
      rw [same] at rejected ⊢
    · exact rejected.settle found _ fun _ _ smooth => absurd smooth rough
    · exact rejected.settle (Heap.modify_self found) _ fun _ _ smooth => absurd smooth rough
  | answered i frameError call questionId outcome found stands asked promise =>
    refine told.goTo found (fun e mem => ?_) fun history own => ?_
    · unfold enter at mem
      dsimp only at mem
      split at mem
      · rw [List.mem_singleton.1 mem]
        exact ⟨fun j own => (Option.some.inj own).symm, rfl⟩
      · cases mem
    · exact WireCall.stands_afterWait (own.sent stands) asked (own.started (asked ▸ rfl)) promise
  | finishFailed i frameError call finish error found stands unready =>
    refine told.settle found _ fun history own on asks => ?_
    have standing := own.stands
    rw [stands] at standing
    have free := unready_none (free on) (standing.1.2 asks).1
    cases unready.symm.trans free
  | finishSent i frameError call finish found stands free =>
    rw [(sendFinish_ready i finish free).1]
    exact told.finishSent found stands free
  | finished i failure call finish result found stands =>
    refine told.settle found _ fun history own _ asks => ?_
    have standing := own.stands
    rw [stands] at standing
    obtain ⟨⟨-, owes⟩, once⟩ := standing
    obtain ⟨-, handedOver, owes⟩ := owes asks
    refine .inr ⟨handedOver, ?_⟩
    rw [once, if_pos owes]
  | timedOut i call error found running =>
    have asking := (WireCall.awaits_iff.1 ((waits.fit i call found).watched (.inl running))).1
    rw [(reject_ready i call error).1, List.append_nil]
    exact told.reject waits found asking error
  | flagged i call found =>
    rw [List.append_nil]
    exact told.flag found
  | aborted i call error found listening =>
    have fit := waits.fit i call found
    have flagged :
        Waiting (s.updateCall i fun call => { call with aborted := call.options.signal }) :=
      waits.keep found rfl ⟨fit.watched, fit.ready, fit.identified⟩ rfl
    have asking := (WireCall.awaits_iff.1 (fit.watched (.inr listening))).1
    rw [(reject_ready i call error).1, List.append_nil]
    exact Told.reject (s := s.updateCall i fun call => { call with aborted := call.options.signal })
      (told.flag found) flagged (Heap.modify_self found) asking error
  | returned message =>
    rw [(returned_ready message).1]
    exact told.returned waits message
  | broken event error => exact told.rejectAll waits error
  | closed => exact told.closed waits fun smooth => nomatch smoothNow smooth

/-! ## Runs -/

theorem closed_moves (moves : Moves s event s' effects) (smooth : event.smooth = true) :
    s'.closed = s.closed := by
  cases moves with
  | closed => cases smooth
  | sendFailed => cases smooth
  | nothing | opened | startFailed | refused | unencoded | handedOff | handedOver | answered
  | finishFailed | finished
    | flagged | broken | threw | exported => rfl
  | begun operation options => exact (begun_ready operation options).2
  | asked i call questionId frame => exact (asked_ready i call questionId frame).2
  | finishSent i frameError call finish found stands free =>
    exact (sendFinish_ready i finish free).2
  | timedOut i call error | aborted i call error => exact (reject_ready i call error).2
  | returned message => exact (returned_ready message).2

/-- What holds of every run: its waiters, and the history of its operations. -/
theorem run_told (smooth : Prop) (options : RpcWireClientOptions) (events : List WireEvent)
    (smoothly : smooth → ∀ event ∈ events, event.smooth = true) :
    Waiting (Machine.final step (initial options) events) ∧
      Told ((Machine.final step (initial options) events).started = some none) smooth
        (Machine.shown step (initial options) events)
        (Machine.final step (initial options) events).calls := by
  have always : Machine.Always step (fun _ event => smooth → event.smooth = true)
      (initial options) events :=
    Machine.always_of_mem fun event mem _ on => smoothly on event mem
  suffices run : Waiting (Machine.final step (initial options) events) ∧
      (smooth → (Machine.final step (initial options) events).closed = false) ∧
        Told ((Machine.final step (initial options) events).started = some none) smooth
          (Machine.shown step (initial options) events)
          (Machine.final step (initial options) events).calls from
    ⟨run.1, run.2.2⟩
  refine always.history (P := fun past s =>
      Waiting s ∧ (smooth → s.closed = false) ∧ Told (s.started = some none) smooth past s.calls)
    (fun past s event smoothNow ⟨waits, free, told⟩ => ?_) ⟨Numbered.nil _, fun _ =>
      rfl, Heap.logged_nil⟩
  have moves : Moves s event _ _ := moves_step s event
  exact ⟨Waits.moves waits moves, fun on => (closed_moves moves (smoothNow on)).trans (free on),
    told.moves waits free smoothNow moves⟩

end RpcWireClient

end CapnpDeno
