import CapnpDeno.Lib.Numbered
import CapnpDeno.Rpc.Session.ClientMoves

/-!
# Waiters of SessionRpcClientTransport

The pending Returns of a transport are those of the operations that wait, one waiter for each
question; every question id belongs to one operation.
-/

namespace CapnpDeno

/-- The operation waits, and nothing has come to it. -/
def SessionCall.awaits (call : SessionCall) : Bool :=
  match call.stage with
  | .waiting => call.promise.isNone
  | _ => false

/-- The operation has not come to its wait. -/
def SessionStage.early : SessionStage → Bool
  | .queued | .onCall | .starting _ | .emitting | .flushing => true
  | _ => false

/-- The operation has come past its wait. -/
def SessionStage.past : SessionStage → Bool
  | .queued | .onCall | .starting _ | .emitting | .flushing | .waiting => false
  | _ => true

theorem SessionStage.early_of_past {stage : SessionStage} (past : stage.past = true) :
    stage.early = false := by
  cases stage <;> first | rfl | cases past

/-- The question has an id, and its frame is not handed to the harness yet. -/
def SessionStage.unsent : SessionStage → Bool
  | .onCall | .starting _ => true
  | _ => false

theorem SessionStage.unsent_of_past {stage : SessionStage} (past : stage.past = true) :
    stage.unsent = false := by
  cases stage <;> first | rfl | cases past

/-- The question of the operation has got its id, and is not answered. -/
def SessionStage.asking : SessionStage → Bool
  | .onCall | .starting _ | .emitting | .flushing | .waiting => true
  | _ => false

theorem SessionStage.asking_of_past {stage : SessionStage} (past : stage.past = true) :
    stage.asking = false := by
  cases stage <;> first | rfl | cases past

/-- A promise is settled in the wait, and a timer runs and a signal is heard only there; a question
gets its id when the operation has its turn. -/
structure SessionCall.Fit (call : SessionCall) : Prop where
  early : call.stage.early = true → call.promise = none
  watched : call.timer = true ∨ call.listening = true → call.awaits = true
  unnumbered : call.stage = .queued → call.questionId = none
  identified : call.stage.asking = true → call.questionId.isSome = true

namespace SessionCall

variable {call : SessionCall}

theorem promise_of_awaits (awaits : call.awaits = true) : call.promise = none := by
  unfold SessionCall.awaits at awaits
  split at awaits
  · exact Option.isNone_iff_eq_none.1 awaits
  · cases awaits

theorem stage_of_awaits (awaits : call.awaits = true) : call.stage = .waiting := by
  unfold SessionCall.awaits at awaits
  split at awaits
  · assumption
  · cases awaits

theorem awaits_of_early (early : call.stage.early = true) : call.awaits = false := by
  unfold awaits
  split
  · next stands =>
    rw [stands] at early
    cases early
  · rfl

theorem awaits_of_promise (settled : call.promise.isSome = true) : call.awaits = false := by
  unfold awaits
  split
  · simpa using settled
  · rfl

theorem awaits_of_past (past : call.stage.past = true) : call.awaits = false := by
  unfold awaits
  split
  · next stands =>
    rw [stands] at past
    cases past
  · rfl

theorem Fit.identified_of_awaits (fit : call.Fit) (awaits : call.awaits = true) :
    ∃ questionId, call.questionId = some questionId := by
  refine Option.isSome_iff_exists.1 (fit.identified ?_)
  rw [stage_of_awaits awaits]
  rfl

theorem awaits_waiting (stands : call.stage = .waiting) : call.awaits = call.promise.isNone := by
  unfold awaits
  rw [stands]

end SessionCall

namespace SessionRpcClientTransport

/-- The waiters of the operations, and the ids of their questions. -/
abbrev Waits (calls : List SessionCall) (pendingReturns : Table ℕ (List OperationId)) (next : ℕ) :
    Prop :=
  Numbered SessionCall.Fit SessionCall.questionId SessionCall.awaits (fun i => [i]) calls
    pendingReturns next

variable {calls : List SessionCall} {pendingReturns : Table ℕ (List OperationId)}
  {next questionId : ℕ} {i : OperationId} {call : SessionCall} {f : SessionCall → SessionCall}

namespace Waits

/-- The one waiter of a question. -/
theorem of_pending (waits : Waits calls pendingReturns next) {waiters : List OperationId}
    (pending : pendingReturns.lookup questionId = some waiters) :
    ∃ i call, waiters = [i] ∧ calls[i]? = some call ∧ call.questionId = some questionId ∧
    call.awaits = true :=
  (waits.pending questionId waiters).1 pending

theorem lookup (waits : Waits calls pendingReturns next) (found : calls[i]? = some call)
    (identified : call.questionId = some questionId) :
    pendingReturns.lookup questionId = if call.awaits then some [i] else none :=
  Numbered.lookup waits found identified

theorem awaits_of_mem (waits : Waits calls pendingReturns next) (found : calls[i]? = some call)
    (mem : i ∈ (call.questionId.bind pendingReturns.lookup).getD []) : call.awaits = true := by
  cases identified : call.questionId with
  | none =>
    rw [identified] at mem
    cases mem
  | some questionId =>
    rw [identified, Option.bind_some, waits.lookup found identified] at mem
    split_ifs at mem with awaits
    · exact awaits
    · cases mem

theorem fit_rejectCall (waits : Waits calls pendingReturns next) (found : calls[i]? = some call)
    (error : Thrown) :
    (rejectCall pendingReturns error i call).Fit ∧
      (rejectCall pendingReturns error i call).awaits = false ∧
      (rejectCall pendingReturns error i call).questionId = call.questionId := by
  have fit := waits.fit i call found
  unfold rejectCall
  split_ifs with rejected
  · have stands : call.stage = .waiting :=
      SessionCall.stage_of_awaits (waits.awaits_of_mem found rejected.2)
    refine ⟨⟨fun early => ?_, nofun, fit.unnumbered, fit.identified⟩,
      SessionCall.awaits_of_promise rfl, rfl⟩
    have early : call.stage.early = true := early
    rw [stands] at early
    cases early
  · have quiet : call.awaits = false := Bool.eq_false_iff.2 fun awaits => by
      obtain ⟨questionId, identified⟩ := fit.identified_of_awaits awaits
      refine rejected ⟨by rw [SessionCall.promise_of_awaits awaits]; rfl, ?_⟩
      rw [identified, Option.bind_some, waits.lookup found identified, if_pos awaits]
      exact List.mem_singleton_self i
    exact ⟨fit, quiet, rfl⟩

/-- All waiters are rejected. -/
theorem rejectAll (waits : Waits calls pendingReturns next) (error : Thrown) :
    Waits (calls.mapIdx (rejectCall pendingReturns error)) ∅ next :=
  waits.forgetAll fun _ _ found => waits.fit_rejectCall found error

/-- An operation that has not come to its wait comes nearer to it. -/
theorem goEarly (waits : Waits calls pendingReturns next) (found : calls[i]? = some call)
    {stage : SessionStage} (before : call.stage.early = true) (early : stage.early = true)
    (asking : stage.asking = true) (identified : call.questionId.isSome = true) :
    Waits (calls.modify i fun call => { call with stage := stage }) pendingReturns next := by
  have fit := waits.fit i call found
  have idle := SessionCall.awaits_of_early before
  have quiet : ({ call with stage := stage } : SessionCall).awaits = false :=
    SessionCall.awaits_of_early early
  refine waits.keep found rfl ⟨fun _ => fit.early before, fun watched => ?_, fun stands =>
    ?_, fun _ => identified⟩ (quiet.trans idle.symm)
  · cases idle.symm.trans (fit.watched watched)
  · have stands : stage = .queued := stands
    rw [stands] at asking
    cases asking

/-- An operation that waits no more, or not yet, comes past its wait. -/
theorem goPast (waits : Waits calls pendingReturns next) (found : calls[i]? = some call)
    {stage : SessionStage} (idle : call.awaits = false) (past : stage.past = true) :
    Waits (calls.modify i fun call => { call with stage := stage }) pendingReturns next := by
  have fit := waits.fit i call found
  have quiet : ({ call with stage := stage } : SessionCall).awaits = false :=
    SessionCall.awaits_of_past past
  refine waits.keep found rfl ⟨fun early => ?_, fun watched => ?_, fun stands =>
    ?_, fun asking => ?_⟩ (quiet.trans idle.symm)
  · cases (SessionStage.early_of_past past).symm.trans early
  · cases idle.symm.trans (fit.watched watched)
  · have stands : stage = .queued := stands
    rw [stands] at past
    cases past
  · cases (SessionStage.asking_of_past past).symm.trans asking

/-- The promise of an operation that waits is settled. -/
theorem settle (waits : Waits calls pendingReturns next) (found : calls[i]? = some call)
    (identified : call.questionId = some questionId) (awaits : call.awaits = true)
    (outcome : Except Thrown RpcReturnMessage) :
    Waits (calls.modify i fun call =>
      { call with timer := false, listening := false, promise := some outcome })
      (pendingReturns.erase questionId) next := by
  have fit := waits.fit i call found
  have stands := SessionCall.stage_of_awaits awaits
  refine waits.forget found identified rfl ⟨fun early => ?_, nofun, fit.unnumbered, fit.identified⟩
    (SessionCall.awaits_of_promise rfl)
  have early : call.stage.early = true := early
  rw [stands] at early
  cases early

end Waits

/-! ## The steps of a waiter -/

theorem concluded_past (call : SessionCall) (result : Except Thrown ClientAnswer) :
    (concluded call result).past = true := by
  unfold concluded
  split
  · split_ifs <;> rfl
  · rfl

variable {s s' : SessionRpcClientTransport} {event : SessionEvent} {effects : List SessionEffect}
  {error : Thrown}

/-- The waiters of the transport. -/
abbrev Waiting (s : SessionRpcClientTransport) : Prop :=
  Waits s.calls s.pendingReturns s.nextQuestionId

theorem conclude_past (s : SessionRpcClientTransport) (call : SessionCall)
    (result : Except Thrown ClientAnswer) :
    (s.conclude call result).past = true := by
  unfold conclude
  split_ifs
  · rfl
  · exact concluded_past call result

theorem afterFailure_past (s : SessionRpcClientTransport) (call : SessionCall) (questionId : ℕ)
    (frameSent : Bool) (error : Thrown) : (s.afterFailure call questionId frameSent error).past =
      true := by
  unfold afterFailure
  split
  · rfl
  · split_ifs
    · rfl
    · exact conclude_past s call _

theorem afterReturn_past (s : SessionRpcClientTransport) (call : SessionCall) (questionId : ℕ)
    (message : RpcReturnMessage) : (s.afterReturn call questionId message).past = true := by
  unfold afterReturn
  dsimp only
  split
  · split
    · split_ifs <;> rfl
    · rfl
  · exact conclude_past s call _
  · split
    · exact conclude_past s call _
    · split_ifs
      · rfl
      · exact conclude_past s call _

theorem afterWait_past (s : SessionRpcClientTransport) (call : SessionCall) (questionId : ℕ)
    (outcome : Except Thrown RpcReturnMessage) :
    (s.afterWait call questionId outcome).past = true := by
  unfold afterWait
  split
  · exact afterReturn_past s call questionId _
  · split
    · exact conclude_past s call _
    · exact afterFailure_past s call questionId true _

/-- Coming to a stage changes only the stage and the turns. -/
theorem enter_only (s : SessionRpcClientTransport) (i : OperationId) (stage : SessionStage) :
    ∃ opChain, (s.enter i stage).1 = { s.goTo i stage with opChain := opChain } := by
  unfold enter
  split
  · exact ⟨_, rfl⟩
  · exact ⟨_, rfl⟩
  · exact ⟨s.opChain, rfl⟩

theorem Waits.enter (waiting : Waiting s) (found : s.calls[i]? = some call) {stage : SessionStage}
    (idle : call.awaits = false) (past : stage.past = true) : Waiting (s.enter i stage).1 := by
  obtain ⟨opChain, same⟩ := enter_only s i stage
  unfold Waiting
  rw [same]
  exact waiting.goPast found idle past

/-- A waiter that is rejected is removed, and its Return is expected no more. -/
theorem rejectAndRemove_eq (waiting : Waiting s) (found : s.calls[i]? = some call)
    (identified : call.questionId = some questionId) (awaits : call.awaits = true)
    (error : Thrown) :
    ∃ pump, s.rejectAndRemove i call error =
      markReturnObserved { s.settlePromise i (.error error) with
        pendingReturns := s.pendingReturns.erase questionId, responsePump := pump } questionId := by
  have pending : s.pendingReturns.lookup questionId = some [i] := by
    rw [waiting.lookup found identified, if_pos awaits]
  obtain ⟨pump, removed⟩ :=
    removePendingReturnWaiter_only (s.settlePromise i (.error error)) questionId i
  have dropped : (s.settlePromise i (.error error)).dropWaiter questionId i =
      s.pendingReturns.erase questionId := by
    unfold dropWaiter
    rw [show (s.settlePromise i (.error error)).pendingReturns = s.pendingReturns from rfl, pending]
    simp
  refine ⟨pump, ?_⟩
  unfold rejectAndRemove
  rw [identified, SessionCall.promise_of_awaits awaits]
  dsimp only
  rw [removed, dropped]
  dsimp only
  rw [Table.lookup_erase, if_pos rfl]

/-- A Return is resolved by the one waiter of its question, if there is one. -/
theorem resolvePendingReturn_none {message : RpcReturnMessage}
    (absent : s.pendingReturns.lookup message.answerId = none) :
    s.resolvePendingReturn message = (s, none) := by
  unfold resolvePendingReturn
  rw [absent]

theorem resolvePendingReturn_some (waiting : Waiting s) {message : RpcReturnMessage}
    (found : s.calls[i]? = some call) (identified : call.questionId = some message.answerId)
    (awaits : call.awaits = true) :
    s.resolvePendingReturn message =
      ((markReturnObserved { s with pendingReturns := s.pendingReturns.erase message.answerId }
        message.answerId).settlePromise i (.ok message), some i) := by
  have unsettled : s.hasSettled i = false := by
    unfold hasSettled
    rw [found, Option.any_some, SessionCall.promise_of_awaits awaits]
    rfl
  unfold resolvePendingReturn
  rw [waiting.lookup found identified, if_pos awaits]
  dsimp only
  rw [List.dropWhile_cons_of_neg (by rw [unsettled]; exact Bool.false_ne_true)]
  rfl

/-- The question of an operation gets an id, and the operation goes on to a stage that is no
wait. -/
theorem Waits.allocated (waiting : Waiting s) (found : s.calls[i]? = some call)
    (stands : call.stage = .queued) {stage : SessionStage}
    (goes : stage.past = true ∨ stage.early = true ∧ stage.asking = true) :
    Waiting ((s.allocate i).goTo i stage) := by
  have fit := waiting.fit i call found
  have unsettled : call.promise = none := fit.early (by rw [stands]; rfl)
  have idle : call.awaits = false := SessionCall.awaits_of_early (by rw [stands]; rfl)
  have quiet {call : SessionCall} (moved : call.stage = stage) : call.awaits = false := by
    rcases goes with past | ⟨early, -⟩
    · exact SessionCall.awaits_of_past (by rw [moved]; exact past)
    · exact SessionCall.awaits_of_early (by rw [moved]; exact early)
  change Waits ((s.calls.modify i _).modify i _) s.pendingReturns (s.nextQuestionId + 1)
  rw [List.modify_modify_eq]
  refine Numbered.allocate waiting found rfl ⟨fun _ => unsettled, fun watched => ?_, fun moved =>
    ?_, fun _ => rfl⟩ (quiet rfl) (fit.unnumbered stands)
  · cases idle.symm.trans (fit.watched watched)
  · have moved : stage = .queued := moved
    rw [moved] at goes
    rcases goes with past | ⟨-, asking⟩
    · cases past
    · cases asking

/-- What comes of the wait of an operation that is about to begin it. -/
inductive Awaited (s : SessionRpcClientTransport) (i : OperationId) (call : SessionCall)
    (questionId : ℕ) :
    SessionRpcClientTransport → List SessionEffect → Prop
  /-- The Return is not expected, or the signal is aborted already. -/
  | rejected (error : Thrown) (expectedReturns : Table ℕ Unit)
    (queuedReturns : Table ℕ (List RpcReturnMessage))
      (kept : (s.expectedReturns.lookup questionId).isNone = true ∧
        expectedReturns = s.expectedReturns ∧
          queuedReturns = s.queuedReturns ∨
        expectedReturns = s.expectedReturns.erase questionId ∧
          queuedReturns = s.queuedReturns.erase questionId) :
      Awaited s i call questionId
        { s.settlePromise i (.error error) with expectedReturns := expectedReturns, queuedReturns :=
          queuedReturns } []
  | queued (message : RpcReturnMessage) (rest : List RpcReturnMessage)
      (expected : (s.expectedReturns.lookup questionId).isSome = true)
      (there : s.queuedReturns.lookup questionId = some (message :: rest)) :
      Awaited s i call questionId ((s.markReturnObserved questionId).settlePromise i (.ok message))
        [.delivered i message]
  | registered (timer : Bool) (expected : (s.expectedReturns.lookup questionId).isSome = true)
      (absent : ∀ message rest, s.queuedReturns.lookup questionId ≠ some (message :: rest)) :
      Awaited s i call questionId
        (ensureResponsePump
          { s.updateCall i fun call => { call with timer := timer, listening :=
            call.options.signal } with
            pendingReturns := s.pendingReturns.insert questionId
              ((s.pendingReturns.lookup questionId).getD [] ++ [i]) })
        [.registered i]

theorem awaitReturn_cases (s : SessionRpcClientTransport) (i : OperationId) (call : SessionCall)
    (questionId : ℕ) :
    Awaited s i call questionId (s.awaitReturn i call questionId).1
      (s.awaitReturn i call questionId).2 := by
  unfold awaitReturn
  split_ifs with unexpected aborted
  · exact .rejected _ _ _ (.inl ⟨unexpected, rfl, rfl⟩)
  all_goals
    have expected : (s.expectedReturns.lookup questionId).isSome = true := by
      simpa [Option.isSome_iff_ne_none] using unexpected
    split
    · next message rest there => exact .queued message rest expected there
    · next absent =>
      first
        | exact .rejected _ _ _ (.inr ⟨rfl, rfl⟩)
        | exact .registered _ expected fun message rest there => absent message rest there

theorem Waits.pumpResponses (waiting : Waiting s) : Waiting s.pumpResponses := by
  obtain ⟨frames, pump, same⟩ := pumpResponses_only s
  rw [same]
  exact waiting

theorem Waits.ensureResponsePump (waiting : Waiting s) : Waiting s.ensureResponsePump := by
  obtain ⟨frames, pump, same⟩ := ensureResponsePump_only s
  rw [same]
  exact waiting

/-- The frame of the question is with the harness, and the operation begins to wait. -/
theorem Waits.flushed (waiting : Waiting s) (found : s.calls[i]? = some call)
    (stands : call.stage = .flushing) (identified : call.questionId = some questionId)
    (awaited : Awaited (s.toWaiting i call) i call questionId s' effects) : Waiting s' := by
  have fit := waiting.fit i call found
  have unsettled : call.promise = none := fit.early (by rw [stands]; rfl)
  have idle : call.awaits = false := SessionCall.awaits_of_early (by rw [stands]; rfl)
  have absent : s.pendingReturns.lookup questionId = none := by
    rw [waiting.lookup found identified, idle]
    rfl
  have asked : call.questionId.isSome = true := by
    rw [identified]
    rfl
  obtain ⟨opChain, same⟩ : ∃ opChain, s.toWaiting i call =
      { s.goTo i .waiting with opChain := opChain } := by
    unfold toWaiting
    split
    · exact ⟨_, rfl⟩
    · exact ⟨s.opChain, rfl⟩
  rw [same] at awaited
  -- the operation comes to its wait and out of it in one step
  have settled (outcome : Except Thrown RpcReturnMessage) :
      Waits ((s.calls.modify i fun call => { call with stage := .waiting }).modify i fun call =>
        { call with timer := false, listening := false, promise := some outcome }) s.pendingReturns
          s.nextQuestionId := by
    rw [List.modify_modify_eq]
    refine waiting.keep found rfl ⟨nofun, nofun, nofun, fun _ => asked⟩ ?_
    rw [idle]
    exact SessionCall.awaits_of_promise rfl
  cases awaited with
  | rejected error => exact settled (.error error)
  | queued message => exact settled (.ok message)
  | registered timer =>
    apply Waits.ensureResponsePump
    change Waits ((s.calls.modify i _).modify i _) (s.pendingReturns.insert questionId
      ((s.pendingReturns.lookup questionId).getD [] ++ [i])) s.nextQuestionId
    rw [List.modify_modify_eq, absent]
    have awaits :
        (({ call with stage := .waiting, timer := timer, listening := call.options.signal } :
        SessionCall)).awaits = true := by
      rw [SessionCall.awaits_waiting rfl]
      change call.promise.isNone = true
      rw [unsettled]
      rfl
    exact waiting.register found identified rfl ⟨nofun, fun _ => awaits, nofun, fun _ =>
      asked⟩ awaits

theorem Waits.flag (waiting : Waiting s) (found : s.calls[i]? = some call) :
    Waiting (s.updateCall i fun call => { call with aborted := call.options.signal }) := by
  have fit := waiting.fit i call found
  exact waiting.keep found rfl ⟨fit.early, fit.watched, fit.unnumbered, fit.identified⟩ rfl

theorem Waits.rejectAndRemove (waiting : Waiting s) (found : s.calls[i]? = some call)
    (awaits : call.awaits = true) (error : Thrown) : Waiting (s.rejectAndRemove i call error) := by
  obtain ⟨questionId, identified⟩ := (waiting.fit i call found).identified_of_awaits awaits
  obtain ⟨pump, same⟩ := rejectAndRemove_eq waiting found identified awaits error
  rw [same]
  exact waiting.settle found identified awaits (.error error)

theorem Waits.handleReturn (waiting : Waiting s) (message : RpcReturnMessage) :
    Waiting (s.handleReturn message).1 := by
  have retired : Waiting (s.retireParamCapGrants message).1 := by
    unfold retireParamCapGrants
    split <;> exact waiting
  unfold SessionRpcClientTransport.handleReturn
  dsimp only
  split_ifs
  · cases pending : (s.retireParamCapGrants message).1.pendingReturns.lookup message.answerId with
    | none =>
      rw [resolvePendingReturn_none pending]
      dsimp only
      unfold queueReturn
      split_ifs <;> exact retired
    | some waiters =>
      obtain ⟨i, call, -, found, identified, awaits⟩ := retired.of_pending pending
      rw [resolvePendingReturn_some retired found identified awaits]
      exact retired.settle found identified awaits (.ok message)
  · exact retired

theorem Waits.afterCallRaw (waiting : Waiting s) (found : s.calls[i]? = some call)
    (past : call.stage.past = true) (result : Except Thrown ClientAnswer) :
    Waiting (s.afterCallRaw i call result).1 := by
  have idle := SessionCall.awaits_of_past past
  have fit := waiting.fit i call found
  have finishes (finish : PendingFinish) : Waits (s.calls.modify i fun call =>
      { call with returned := true, stage := .finishQueued finish }) s.pendingReturns
        s.nextQuestionId := by
    refine waiting.keep found rfl ⟨nofun, fun watched => ?_, nofun, nofun⟩ (Eq.trans ?_ idle.symm)
    · cases idle.symm.trans (fit.watched watched)
    · exact SessionCall.awaits_of_past rfl
  unfold SessionRpcClientTransport.afterCallRaw
  split
  · exact waiting.enter found idle rfl
  · dsimp only
    split
    · split_ifs
      · exact waiting.enter found idle rfl
      · exact finishes _
      · exact waiting.enter found idle rfl
    · exact waiting

/-- What a step keeps. -/
theorem Waits.moves (waiting : Waiting s) (moves : Moves s event s' effects) : Waiting s' := by
  cases moves with
  | nothing | threw | serves | idles | serveFails | harness => exact waiting
  | begun operation options =>
    unfold start
    split_ifs
    · exact waiting.append rfl ⟨fun _ => rfl, nofun, fun _ => rfl, nofun⟩
    · refine waiting.append rfl ⟨fun _ => rfl, nofun, fun _ => rfl, fun asking => ?_⟩
      cases operation <;> cases asking
  | refused i frameError call error found stands
  | unasked i failure frameError call error found stands =>
    exact waiting.enter found (SessionCall.awaits_of_early (by rw [stands]; rfl))
      (concluded_past call _)
  | hooked i frameError call found stands =>
    exact waiting.allocated found stands (.inr ⟨rfl, rfl⟩)
  | unencoded i call error found stands =>
    obtain ⟨opChain, same⟩ := enter_only (s.allocate i) i (concluded call (.error error))
    rw [same]
    exact waiting.allocated found stands (.inl (concluded_past call _))
  | asked i call found stands =>
    have asked :
        Waiting ((s.allocate i).goTo i (.starting (s.askingFrame call s.nextQuestionId))) :=
      waiting.allocated found stands (.inr ⟨rfl, rfl⟩)
    unfold recordGrants
    split_ifs <;> exact asked
  | askedAfterHook i call questionId found stands identified =>
    have asked : Waiting (s.goTo i (.starting (s.askingFrame call questionId))) :=
      waiting.goEarly found (by rw [stands]; rfl) rfl rfl (by rw [identified]; rfl)
    unfold recordGrants
    split_ifs <;> exact asked
  | emitted i call frame found stands | handedOver i call found stands =>
    exact waiting.goEarly found (by rw [stands]; rfl) rfl rfl
      ((waiting.fit i call found).identified (by rw [stands]; rfl))
  | unsent i call frame questionId error found stands =>
    have dropped : Waiting
        (markReturnObserved { s with questionParamCapGrants :=
          s.questionParamCapGrants.erase questionId } questionId) :=
      waiting
    exact dropped.enter found (SessionCall.awaits_of_early (by rw [stands]; rfl))
      (afterFailure_past s call questionId false error)
  | emitFailed i call questionId error found stands
  | flushFailed i call questionId error found stands =>
    exact Waits.enter (s := markReturnObserved _ questionId) waiting found
      (SessionCall.awaits_of_early (by rw [stands]; rfl))
      (afterFailure_past s call questionId _ error)
  | flushed i call questionId found stands identified =>
    exact waiting.flushed found stands identified (awaitReturn_cases _ i call questionId)
  | answered i frameError call questionId outcome found stands identified promise =>
    have idle : call.awaits = false := SessionCall.awaits_of_promise (by rw [promise]; rfl)
    have past := afterWait_past s call questionId outcome
    unfold observe
    split
    · exact waiting.enter found idle past
    · split
      · exact waiting.enter found idle past
      · exact Waits.enter (s := s.markReturnObserved questionId) waiting found idle past
  | concludes i failure frameError call result found stands =>
    exact waiting.enter found (SessionCall.awaits_of_past (by rw [stands]; rfl))
      (concluded_past call _)
  | returned i frameError call result found stands =>
    have past : call.stage.past = true := by
      rw [stands]
      rfl
    exact waiting.afterCallRaw found past result
  | finishClosed i frameError call finish found stands =>
    exact waiting.enter found (SessionCall.awaits_of_past (by rw [stands]; rfl)) rfl
  | finishTurn i frameError call finish found stands | finishEmitted i call finish found stands
    | finishHandedOver i call finish found stands =>
    exact waiting.goPast found (SessionCall.awaits_of_past (by rw [stands]; rfl)) rfl
  | finished i call finish found stands =>
    exact waiting.enter found (SessionCall.awaits_of_past (by rw [stands]; rfl))
      (conclude_past s call _)
  | finishUnstarted i call finish error found stands
  | finishUnemitted i call finish error found stands
    | finishUnflushed i call finish error found stands =>
    refine waiting.enter found (SessionCall.awaits_of_past (by rw [stands]; rfl)) ?_
    split_ifs
    · exact conclude_past s call _
    · exact concluded_past call _
  | timedOut i call error found running =>
    exact waiting.rejectAndRemove found ((waiting.fit i call found).watched (.inl running)) error
  | flagged i call found => exact waiting.flag found
  | aborted i call error found listening =>
    have flagged : Waiting (s.updateCall i fun call =>
        { call with aborted := call.options.signal }) := waiting.flag found
    have awaits : call.awaits = true := (waiting.fit i call found).watched (.inr listening)
    have same : (s.updateCall i fun call =>
        { call with aborted := call.options.signal }).rejectAndRemove i call error =
        (s.updateCall i fun call => { call with aborted := call.options.signal }).rejectAndRemove i
          { call with aborted := call.options.signal } error := rfl
    rw [same]
    exact flagged.rejectAndRemove (Heap.modify_self found) awaits error
  | received message aborted read =>
    have handled := Waits.handleReturn (s := { s with responsePump := .serving }) waiting message
    exact handled.pumpResponses
  | stops error aborted read =>
    obtain ⟨pump, same⟩ := rejectAllPendingReturns_only
      { s with responsePump := .exiting, responsePumpStopped := true } error
    rw [same]
    exact waiting.rejectAll error
  | exits exiting =>
    split_ifs
    · exact Waits.ensureResponsePump (s := { s with responsePump := .off }) waiting
    · exact waiting
  | pumpsOn failure serving =>
    exact waiting.pumpResponses
  | exported hasHostCallBridge =>
    exact Waits.ensureResponsePump (s := { s with localBridge := true }) waiting
  | closed free =>
    obtain ⟨pump, rejected⟩ := rejectAllPendingReturns_only
      { s with closed := true, responsePumpStopped := true, localBridge := false } clientClosed
    unfold close
    rw [rejected]
    dsimp only
    obtain ⟨pump, same⟩ := abortResponsePumpRead_only _
    rw [same]
    exact waiting.rejectAll clientClosed

/-! ## Operations whose frame is not handed over yet -/

/-- The operation stands at the stage, and its question has the id. -/
def Standing (calls : List SessionCall) (i : OperationId) (stage : SessionStage) (questionId : ℕ) :
    Prop :=
  ∃ call, calls[i]? = some call ∧ call.stage = stage ∧ call.questionId = some questionId

/-- The operation is at `onCall` of the middleware. -/
abbrev Hooked (calls : List SessionCall) (i : OperationId) (questionId : ℕ) : Prop :=
  Standing calls i .onCall questionId

/-- No operation comes to a stage before that. -/
def Unhooks (s s' : SessionRpcClientTransport) : Prop :=
  ∀ i stage questionId, stage.unsent = true → Standing s'.calls i stage questionId →
    Standing s.calls i stage questionId

namespace Unhooks

theorem trans {s'' : SessionRpcClientTransport} (first : Unhooks s s') (second : Unhooks s' s'') :
    Unhooks s s'' :=
  fun i stage questionId unsent standing =>
    first i stage questionId unsent (second i stage questionId unsent standing)

theorem same (calls : s'.calls = s.calls) : Unhooks s s' := by
  intro i stage questionId _ standing
  rw [calls] at standing
  exact standing

/-- One operation is changed, and does not come to a stage before that. -/
theorem modify (calls : s'.calls = s.calls.modify i f)
    (kept : ∀ call, (f call).stage.unsent = true →
      call.stage = (f call).stage ∧ (f call).questionId = call.questionId) :
    Unhooks s s' := by
  rintro j stage questionId unsent ⟨call, found, stands, identified⟩
  rw [calls] at found
  obtain ⟨rfl, before, old, rfl⟩ | ⟨-, old⟩ := Heap.of_modify found
  · obtain ⟨stood, named⟩ := kept before (stands ▸ unsent)
    exact ⟨before, old, stood.trans stands, named.symm.trans identified⟩
  · exact ⟨call, old, stands, identified⟩

/-- One operation comes to another stage. -/
theorem goTo (s : SessionRpcClientTransport) (i : OperationId) {stage : SessionStage}
    (later : stage.unsent = false) :
    Unhooks s (s.goTo i stage) := by
  apply modify (i := i) (f := fun call => { call with stage := stage })
  · rfl
  · exact fun _ unsent => absurd (later.symm.trans unsent) Bool.false_ne_true

theorem enter (s : SessionRpcClientTransport) (i : OperationId) {stage : SessionStage}
    (past : stage.past = true) :
    Unhooks s (s.enter i stage).1 := by
  obtain ⟨opChain, same⟩ := enter_only s i stage
  rw [same]
  exact goTo s i (SessionStage.unsent_of_past past)

theorem settlePromise (s : SessionRpcClientTransport) (i : OperationId)
    (outcome : Except Thrown RpcReturnMessage) :
    Unhooks s (s.settlePromise i outcome) := by
  apply modify (i := i)
    (f := fun call => { call with timer := false, listening := false, promise := some outcome })
  · rfl
  · exact fun _ _ => ⟨rfl, rfl⟩

theorem pumpResponses (s : SessionRpcClientTransport) : Unhooks s s.pumpResponses := by
  obtain ⟨frames, pump, same⟩ := pumpResponses_only s
  exact .same (by rw [same])

theorem ensureResponsePump (s : SessionRpcClientTransport) : Unhooks s s.ensureResponsePump := by
  obtain ⟨frames, pump, same⟩ := ensureResponsePump_only s
  exact .same (by rw [same])

theorem toWaiting (s : SessionRpcClientTransport) (i : OperationId) (call : SessionCall) :
    Unhooks s (s.toWaiting i call) := by
  unfold SessionRpcClientTransport.toWaiting
  split <;> exact goTo s i rfl

theorem awaited (awaited : Awaited s i call questionId s' effects) : Unhooks s s' := by
  cases awaited with
  | rejected error => exact settlePromise s i (.error error)
  | queued message => exact settlePromise s i (.ok message)
  | registered timer =>
    refine trans (modify (i := i)
      (f := fun call => { call with timer := timer, listening := call.options.signal })
      ?_ fun _ _ => ⟨rfl, rfl⟩) (ensureResponsePump _)
    rfl

theorem rejectAndRemove (s : SessionRpcClientTransport) (i : OperationId) (call : SessionCall)
    (error : Thrown) :
    Unhooks s (s.rejectAndRemove i call error) := by
  unfold SessionRpcClientTransport.rejectAndRemove
  cases call.questionId with
  | none => exact .same rfl
  | some questionId =>
    cases call.promise with
    | some => exact .same rfl
    | none =>
      obtain ⟨pump, same⟩ :=
        removePendingReturnWaiter_only (s.settlePromise i (.error error)) questionId i
      dsimp only
      rw [same]
      split <;> exact settlePromise s i (.error error)

theorem rejectAllPendingReturns (s : SessionRpcClientTransport) (error : Thrown) :
    Unhooks s (s.rejectAllPendingReturns error) := by
  obtain ⟨pump, same⟩ := rejectAllPendingReturns_only s error
  rw [same]
  rintro i stage questionId - ⟨call, found, stands, identified⟩
  rw [List.getElem?_mapIdx] at found
  obtain ⟨before, old, rfl⟩ := Option.map_eq_some_iff.1 found
  unfold rejectCall at stands identified
  split_ifs at stands identified <;> exact ⟨before, old, stands, identified⟩

theorem resolvePendingReturn (s : SessionRpcClientTransport) (message : RpcReturnMessage) :
    Unhooks s (s.resolvePendingReturn message).1 := by
  unfold SessionRpcClientTransport.resolvePendingReturn
  split
  · exact .same rfl
  · exact .same rfl
  · split
    · obtain ⟨pump, same⟩ := abortResponsePumpReadIfIdle_only
        { s with pendingReturns := s.pendingReturns.erase message.answerId }
      dsimp only
      rw [same]
      exact .same rfl
    · exact settlePromise s _ (.ok message)

theorem handleReturn (s : SessionRpcClientTransport) (message : RpcReturnMessage) :
    Unhooks s (s.handleReturn message).1 := by
  have retired : Unhooks s (s.retireParamCapGrants message).1 := by
    unfold retireParamCapGrants
    split <;> exact .same rfl
  unfold SessionRpcClientTransport.handleReturn
  dsimp only
  split_ifs
  · have resolved := retired.trans (resolvePendingReturn _ message)
    cases same : (s.retireParamCapGrants message).1.resolvePendingReturn message with
    | mk next waiter =>
      rw [same] at resolved
      cases waiter with
      | some => exact resolved
      | none =>
        refine resolved.trans (.same ?_)
        change (next.queueReturn message).calls = next.calls
        unfold queueReturn
        split_ifs <;> rfl
  · exact retired

theorem afterCallRaw (s : SessionRpcClientTransport) (i : OperationId) (call : SessionCall)
    (result : Except Thrown ClientAnswer) : Unhooks s (s.afterCallRaw i call result).1 := by
  have finishes (finish : PendingFinish) (opChain : List OperationId) : Unhooks s
      { s.updateCall i fun call =>
        { call with returned := true, stage := .finishQueued finish } with
        opChain := opChain } := by
    refine modify (i := i)
      (f := fun call => { call with returned := true, stage := .finishQueued finish }) ?_ ?_
    · rfl
    · exact fun _ unsent => absurd unsent Bool.false_ne_true
  unfold SessionRpcClientTransport.afterCallRaw
  split
  · exact enter s i rfl
  · dsimp only
    split
    · split_ifs
      · exact enter s i rfl
      · exact finishes _ _
      · exact enter s i rfl
    · exact .same rfl

theorem start (s : SessionRpcClientTransport) (operation : SessionOperation)
    (options : RpcClientCallOptions) :
    Unhooks s (s.start operation options).1 := by
  have added (call : SessionCall) (unnumbered : call.questionId = none)
      (next : SessionRpcClientTransport) (calls : next.calls = s.calls ++ [call]) :
      Unhooks s next := by
    rintro i stage questionId - ⟨other, found, stands, identified⟩
    rw [calls] at found
    obtain old | ⟨-, rfl⟩ := Heap.of_append found
    · exact ⟨other, old, stands, identified⟩
    · cases unnumbered.symm.trans identified
  unfold SessionRpcClientTransport.start
  dsimp only
  split_ifs
  · exact added _ rfl _ rfl
  · exact added _ rfl _ rfl

end Unhooks

theorem calls_recordGrants (s : SessionRpcClientTransport) (call : SessionCall) (questionId : ℕ) :
    (s.recordGrants call questionId).calls = s.calls := by
  unfold recordGrants
  split_ifs <;> rfl

/-- How an operation comes to a stage before its frame is handed over: it gets its id and goes to
the middleware, or it records what it grants. -/
inductive Readies (s : SessionRpcClientTransport) (effects : List SessionEffect) (i : OperationId)
    (questionId : ℕ) :
    SessionStage → Prop
  | hooked (fresh : questionId = s.nextQuestionId) (shown : effects = [.allocated i questionId]) :
      Readies s effects i questionId .onCall
  | starting (call : SessionCall) (recorded : ∀ e ∈ grantEffects call questionId, e ∈ effects) :
      Readies s effects i questionId (.starting (s.askingFrame call questionId))

/-- An operation whose frame is not handed over stood so before, or has just come there. -/
theorem standing_moves {stage : SessionStage} (moves : Moves s event s' effects)
    (unsent : stage.unsent = true) (standing : Standing s'.calls i stage questionId) :
    Standing s.calls i stage questionId ∨ Readies s effects i questionId stage := by
  have old (unhooks : Unhooks s s') : Standing s.calls i stage questionId ∨
      Readies s effects i questionId stage :=
    .inl (unhooks i stage questionId unsent standing)
  have gone {j : OperationId} {reached : SessionStage}
      (calls : s'.calls = (s.allocate j).calls.modify j
        fun call => { call with stage := reached })
      (comes : j = i → stage = reached → questionId = s.nextQuestionId →
        Readies s effects i questionId stage) :
      Standing s.calls i stage questionId ∨ Readies s effects i questionId stage := by
    obtain ⟨call, found, stands, identified⟩ := standing
    rw [calls] at found
    change ((s.calls.modify j _).modify j _)[i]? = some call at found
    rw [List.modify_modify_eq] at found
    obtain ⟨rfl, before, -, rfl⟩ | ⟨-, before⟩ := Heap.of_modify found
    · exact .inr (comes rfl stands.symm (Option.some.inj identified).symm)
    · exact .inl ⟨call, before, stands, identified⟩
  have failed (call : SessionCall) (finish : PendingFinish) (error : Thrown) (j : OperationId) :
      Unhooks s (s.failFinish j call finish error).1 := by
    refine Unhooks.enter s j ?_
    split_ifs
    · exact conclude_past s call _
    · exact concluded_past call _
  cases moves with
  | hooked j =>
    refine gone (j := j) rfl fun same stands fresh => ?_
    rw [stands]
    exact .hooked fresh (by rw [same, fresh])
  | nothing | threw | serves | idles | serveFails | harness => exact old (.same rfl)
  | begun operation options => exact old (.start s operation options)
  | refused i frameError call error | unasked i failure frameError call error =>
    exact old (.enter s i (concluded_past call _))
  | unencoded j call error =>
    obtain ⟨opChain, same⟩ := enter_only (s.allocate j) j (concluded call (.error error))
    refine gone (j := j) (by rw [same]; rfl) fun _ stands => ?_
    have past := SessionStage.unsent_of_past (concluded_past call (.error error))
    rw [← stands, unsent] at past
    cases past
  | asked j call =>
    refine gone (j := j) (by rw [← calls_recordGrants (s.allocate j) call s.nextQuestionId]; rfl) ?_
    rintro - stands fresh
    rw [stands, ← fresh]
    exact .starting call fun e mem => List.mem_cons_of_mem _ mem
  | askedAfterHook j call id found stands identified =>
    obtain ⟨changed, there, reached, same⟩ := standing
    change (List.modify (s.recordGrants call id).calls j _)[i]? = some changed at there
    rw [calls_recordGrants] at there
    obtain ⟨rfl, before, found', rfl⟩ | ⟨-, before⟩ := Heap.of_modify there
    · cases found.symm.trans found'
      obtain rfl := Option.some.inj (identified.symm.trans same)
      rw [← reached]
      exact .inr (.starting call fun e mem => mem)
    · exact .inl ⟨changed, before, reached, same⟩
  | emitted i | handedOver i | finishTurn i | finishEmitted i
  | finishHandedOver i => exact old (.goTo s i rfl)
  | unsent i call frame questionId error | emitFailed i call questionId error
  | flushFailed i call questionId error =>
    exact old (.trans (.same rfl) (.enter _ i (afterFailure_past s call questionId _ error)))
  | flushed i call questionId =>
    exact old ((Unhooks.toWaiting s i call).trans
      (.awaited (awaitReturn_cases _ i call questionId)))
  | answered i frameError call questionId outcome =>
    refine old (.trans ?_ (.enter _ i (afterWait_past s call questionId outcome)))
    unfold observe
    split
    · exact .same rfl
    · split <;> exact .same rfl
  | concludes i failure frameError call => exact old (.enter s i (concluded_past call _))
  | returned i frameError call result => exact old (.afterCallRaw s i call result)
  | finishClosed i => exact old (.enter s i rfl)
  | finished i call finish => exact old (.enter s i (conclude_past s call _))
  | finishUnstarted i call finish error | finishUnemitted i call finish error
  | finishUnflushed i call finish error =>
    exact old (failed call finish error i)
  | timedOut i call error => exact old (.rejectAndRemove s i call error)
  | flagged i call => exact old (.modify (i := i) rfl fun _ _ => ⟨rfl, rfl⟩)
  | aborted i call error =>
    have flagged : Unhooks s (s.updateCall i fun call =>
        { call with aborted := call.options.signal }) :=
      .modify (i := i) rfl fun _ _ => ⟨rfl, rfl⟩
    exact old (flagged.trans (.rejectAndRemove _ i call error))
  | received message =>
    have serving : Unhooks s { s with responsePump := .serving } := .same rfl
    exact old ((serving.trans (.handleReturn _ message)).trans (.pumpResponses _))
  | stops error =>
    have stopped : Unhooks s { s with responsePump := .exiting, responsePumpStopped := true } :=
      .same rfl
    exact old (stopped.trans (.rejectAllPendingReturns _ error))
  | exits =>
    refine old ?_
    split_ifs
    · have off : Unhooks s { s with responsePump := .off } := .same rfl
      exact off.trans (.ensureResponsePump _)
    · exact .same rfl
  | pumpsOn => exact old (.pumpResponses s)
  | exported =>
    have exported : Unhooks s { s with localBridge := true } := .same rfl
    exact old (exported.trans (.ensureResponsePump _))
  | closed =>
    have rejected : Unhooks s (rejectAllPendingReturns
        { s with closed := true, responsePumpStopped := true, localBridge := false }
          clientClosed) :=
      .trans (.same rfl) (.rejectAllPendingReturns _ clientClosed)
    refine old ?_
    unfold close
    obtain ⟨pump, same⟩ := abortResponsePumpRead_only _
    dsimp only
    rw [same]
    exact rejected

/-- An operation at the middleware was there before, or has just got its id. -/
theorem hooked_moves (moves : Moves s event s' effects) (hooked : Hooked s'.calls i questionId) :
    Hooked s.calls i questionId ∨ questionId = s.nextQuestionId ∧
    effects = [.allocated i questionId] := by
  obtain before | readies := standing_moves moves rfl hooked
  · exact .inl before
  · cases readies with
    | hooked fresh shown => exact .inr ⟨fresh, shown⟩

end SessionRpcClientTransport

end CapnpDeno
