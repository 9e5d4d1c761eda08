import CapnpDeno.Rpc.Server.BridgeStep

/-!
# RpcServerBridge: what an operation changes

Each operation as an update of one entry, of the registry or of the table, so that what it leaves
alone can be read off; and the rules that carry a property of every question through such an update.
-/

namespace CapnpDeno

namespace RpcServerBridge

variable (b : RpcServerBridge) (i j : EntryId)

/-! ## Updates of a question -/

section

variable (f : Question → Question) (g : AnswerTableEntry → AnswerTableEntry) (stage : Stage)

@[simp] theorem updateQuestion_options : (b.updateQuestion i f).options = b.options := rfl
@[simp] theorem updateQuestion_closed : (b.updateQuestion i f).closed = b.closed := rfl
@[simp] theorem updateQuestion_retained :
    (b.updateQuestion i f).retainedInputFrameBytes = b.retainedInputFrameBytes := rfl
@[simp] theorem updateQuestion_registry :
    (b.updateQuestion i f).dispatchByCapability = b.dispatchByCapability := rfl
@[simp] theorem updateQuestion_table : (b.updateQuestion i f).answerTable = b.answerTable := rfl

@[simp] theorem updateEntry_options : (b.updateEntry i g).options = b.options := rfl
@[simp] theorem updateEntry_closed : (b.updateEntry i g).closed = b.closed := rfl
@[simp] theorem updateEntry_retained :
    (b.updateEntry i g).retainedInputFrameBytes = b.retainedInputFrameBytes := rfl
@[simp] theorem updateEntry_registry : (b.updateEntry i g).dispatchByCapability =
    b.dispatchByCapability := rfl
@[simp] theorem updateEntry_table : (b.updateEntry i g).answerTable = b.answerTable := rfl

@[simp] theorem setStage_options : (b.setStage i stage).options = b.options := rfl
@[simp] theorem setStage_closed : (b.setStage i stage).closed = b.closed := rfl
@[simp] theorem setStage_retained :
    (b.setStage i stage).retainedInputFrameBytes = b.retainedInputFrameBytes := rfl
@[simp] theorem setStage_registry : (b.setStage i stage).dispatchByCapability =
    b.dispatchByCapability := rfl
@[simp] theorem setStage_table : (b.setStage i stage).answerTable = b.answerTable := rfl

theorem question_updateQuestion :
    (b.updateQuestion i f).questions[j]? = if i = j then b.questions[j]?.map f
      else b.questions[j]? := by
  change (b.questions.modify i f)[j]? = _
  rw [List.getElem?_modify]
  split_ifs <;> simp

theorem question_updateEntry :
    (b.updateEntry i g).questions[j]? =
      if i = j then b.questions[j]?.map fun q => { q with entry := g q.entry }
        else b.questions[j]? :=
  b.question_updateQuestion i j _

theorem question_setStage :
    (b.setStage i stage).questions[j]? =
      if i = j then b.questions[j]?.map fun q => { q with stage := stage } else b.questions[j]? :=
  b.question_updateQuestion i j _

@[simp] theorem length_updateQuestion : (b.updateQuestion i f).questions.length =
    b.questions.length :=
  List.length_modify f b.questions i

@[simp] theorem length_updateEntry : (b.updateEntry i g).questions.length = b.questions.length :=
  b.length_updateQuestion i _

@[simp] theorem length_setStage : (b.setStage i stage).questions.length = b.questions.length :=
  b.length_updateQuestion i _

end

/-! ## A property of every question -/

/-- The property holds of every question at its place. -/
def All (P : EntryId → Question → Prop) (b : RpcServerBridge) : Prop :=
  ∀ i q, b.questions[i]? = some q → P i q

variable {b i j} {P : EntryId → Question → Prop} {f : Question → Question}
  {g : AnswerTableEntry → AnswerTableEntry} {stage : Stage} {q : Question}

theorem All.congr {b' : RpcServerBridge} (all : b.All P) (same : b'.questions = b.questions) :
    b'.All P := by
  intro i q found
  exact all i q (same ▸ found)

theorem all_initial (options : RpcServerBridgeOptions) : (initial options).All P := by
  intro i q found
  exact nomatch (List.getElem?_nil (i := i)).symm.trans found

theorem All.updateQuestion (all : b.All P)
    (kept : ∀ q, b.questions[i]? = some q → P i q → P i (f q)) :
    (b.updateQuestion i f).All P := by
  intro j q found
  rw [question_updateQuestion] at found
  by_cases same : i = j
  · rw [if_pos same] at found
    obtain ⟨old, there, rfl⟩ := Option.map_eq_some_iff.1 found
    subst same
    exact kept old there (all i old there)
  · rw [if_neg same] at found
    exact all j q found

theorem All.updateEntry (all : b.All P)
    (kept : ∀ q, b.questions[i]? = some q → P i q → P i { q with entry := g q.entry }) :
    (b.updateEntry i g).All P := all.updateQuestion kept

theorem All.setStage (all : b.All P)
    (kept : ∀ q, b.questions[i]? = some q → P i q → P i { q with stage := stage }) :
    (b.setStage i stage).All P := all.updateQuestion kept

theorem All.push {b' : RpcServerBridge} (all : b.All P) (grown : b'.questions = b.questions ++ [q])
    (new : P b.questions.length q) : b'.All P := by
  intro i q' found
  rw [grown] at found
  by_cases old : i < b.questions.length
  · rw [List.getElem?_append_left old] at found
    exact all i q' found
  · rw [List.getElem?_append_right (Nat.le_of_not_lt old)] at found
    have inRange := (List.getElem?_eq_some_iff.1 found).1
    have place : i = b.questions.length :=
      Nat.le_antisymm (Nat.le_of_sub_eq_zero (Nat.lt_one_iff.1 inRange)) (Nat.le_of_not_lt old)
    subst place
    rw [Nat.sub_self] at found
    cases found
    exact new

/-! ## Tasks -/

end RpcServerBridge

/-- `#completeCall` has started and has not ended. -/
def Stage.unsettled : Stage → Bool
  | .waiting _ _ => true
  | .dispatching _ _ => true
  | .dispatched _ => true
  | _ => false

/-- A stage that a computation goes on to: neither a wait for an answer nor the responder's. -/
def Stage.entered : Stage → Bool
  | .waiting _ _ => false
  | .responding _ => false
  | _ => true

namespace RpcServerBridge

/-- What a question is for, where its computation stands, and the bytes it is charged for. -/
structure Task where
  questionId : ℕ
  owner : Owner
  stage : Stage
  inputFrameBytes : ℕ

def taskOf (q : Question) : Task := ⟨q.questionId, q.owner, q.stage, q.entry.inputFrameBytes⟩

/-- At most the registry and the entries have changed, and of an entry not the bytes. -/
structure Quiet (b b' : RpcServerBridge) : Prop where
  options : b'.options = b.options
  closed : b'.closed = b.closed
  retained : b'.retainedInputFrameBytes = b.retainedInputFrameBytes
  table : b'.answerTable = b.answerTable
  tasks : b'.questions.map taskOf = b.questions.map taskOf

section

variable {b b' b'' : RpcServerBridge} {i : EntryId} {q : Question}

theorem Quiet.refl (b : RpcServerBridge) : Quiet b b := ⟨rfl, rfl, rfl, rfl, rfl⟩

theorem Quiet.trans (first : Quiet b b') (second : Quiet b' b'') : Quiet b b'' :=
  ⟨second.options.trans first.options, second.closed.trans first.closed,
    second.retained.trans first.retained, second.table.trans first.table,
      second.tasks.trans first.tasks⟩

/-- The registry is no part of it. -/
theorem Quiet.registry (quiet : Quiet b b') (registry : Registry) :
    Quiet b { b' with dispatchByCapability := registry } :=
  quiet.trans ⟨rfl, rfl, rfl, rfl, rfl⟩

theorem Quiet.length (quiet : Quiet b b') : b'.questions.length = b.questions.length := by
  have same := congrArg List.length quiet.tasks
  rwa [List.length_map, List.length_map] at same

/-- A question is found at its place, with its task. -/
theorem Quiet.question (quiet : Quiet b b') (found : b.questions[i]? = some q) :
    ∃ q', b'.questions[i]? = some q' ∧ taskOf q' = taskOf q := by
  have same := congrArg (·[i]?) quiet.tasks
  simp only [List.getElem?_map, found, Option.map_some] at same
  exact Option.map_eq_some_iff.1 same

theorem quiet_updateEntry {f : AnswerTableEntry → AnswerTableEntry} (b : RpcServerBridge)
    (i : EntryId) (keeps : ∀ entry, (f entry).inputFrameBytes = entry.inputFrameBytes) :
    Quiet b (b.updateEntry i f) := by
  refine ⟨rfl, rfl, rfl, rfl, Heap.map_modify _ i fun q => ?_⟩
  simp only [taskOf, keeps]

end

theorem quiet_trackReturnedCapabilities (b : RpcServerBridge) (i : EntryId)
    (capTable : List RpcCapDescriptor) (bootstrap : Bool) :
    Quiet b (b.trackReturnedCapabilities i capTable bootstrap) := by
  have held :
      Quiet b (b.updateEntry i (hold (tracked b.dispatchByCapability capTable bootstrap).2)) := by
    refine quiet_updateEntry b i fun entry => ?_
    unfold hold
    split_ifs <;> rfl
  exact held.registry _

theorem quiet_releaseAnswerHeldCapabilities (b : RpcServerBridge) (i : EntryId)
    (releaseWireRefs : Bool) :
    Quiet b (b.releaseAnswerHeldCapabilities i releaseWireRefs) := by
  have ended : Quiet b (b.updateEntry i unhold) := quiet_updateEntry b i fun _ => rfl
  exact ended.registry _

theorem quiet_scheduleEviction (b : RpcServerBridge) (i : EntryId) :
    Quiet b (b.scheduleEviction i) := by
  refine quiet_updateEntry b i fun entry => ?_
  unfold armTimer
  split
  · split_ifs <;> rfl
  · rfl

theorem quiet_disarmTimer (b : RpcServerBridge) (i : EntryId) :
    Quiet b (b.updateEntry i disarmTimer) :=
  quiet_updateEntry b i fun _ => rfl

/-- The timer fires in vain. -/
theorem quiet_countAttempt (b : RpcServerBridge) (i : EntryId) :
    Quiet b ((b.updateEntry i disarmTimer).updateEntry i countAttempt) :=
  (quiet_disarmTimer b i).trans (quiet_updateEntry _ i fun _ => rfl)

theorem quiet_completeBootstrapAnswer (b : RpcServerBridge) (i : EntryId)
    (response : RpcReturnMessage) :
    Quiet b (b.completeBootstrapAnswer i response) := by
  have resolved : Quiet b (b.updateEntry i (settleEntry (outcomeOf response))) :=
    quiet_updateEntry b i fun _ => rfl
  unfold completeBootstrapAnswer
  dsimp only
  split
  · exact resolved
  · split_ifs
    · exact resolved
    · exact resolved.trans ((quiet_trackReturnedCapabilities _ i _ true).trans
        (quiet_scheduleEviction _ i))

theorem quiet_releasePipelineRef (b : RpcServerBridge) (parent : EntryId) :
    Quiet b (b.releasePipelineRef parent) := quiet_updateEntry b parent fun _ => rfl

theorem quiet_closeEntries (b : RpcServerBridge) (places : List EntryId) :
    Quiet b (b.closeEntries places) := by
  induction places generalizing b with
  | nil => exact Quiet.refl b
  | cons i places ih =>
    have first : Quiet b (b.updateEntry i closeEntry) := quiet_updateEntry b i fun _ => rfl
    exact first.trans (ih _)

/-! ## What a step can do -/

end RpcServerBridge

/-- The frame that `handleFrame` processes, at once or after the middleware. -/
def Event.frame : Event → Option InboundFrame
  | .handleFrame frame => some frame
  | .resumeFrame frame => some frame
  | _ => none

/-- The event releases references of the capability. -/
def Event.releases (event : Event) (capabilityIndex : ℕ) (referenceCount : ℤ) : Prop :=
  event = .releaseCapability capabilityIndex referenceCount ∨
    ∃ release : RpcReleaseRequest, event.frame = some (.release release) ∧
      release.id = capabilityIndex ∧ (release.referenceCount : ℤ) = referenceCount

/-- The event is the arrival of the call on the path, with a frame of so many bytes. -/
def Event.calls (event : Event) (call : RpcCallRequest) (path : CallPath) (byteLength : ℕ) : Prop :=
  (event.frame = some (.call call byteLength) ∧ path = .frame) ∨
    ∃ abi record failure, event = .hostCall abi record failure ∧ path = .host abi ∧
      record.call = .ok call ∧ record.byteLength = byteLength

/-- The effect is about no accepted question and no registered capability. -/
def Effect.idle : Effect → Prop
  | .threw _ => True
  | .refused _ => True
  | .hostRefused _ _ _ => True
  | _ => False

namespace RpcServerBridge

/-- The question is accepted. -/
def Accepts (b : RpcServerBridge) (questionId inputFrameBytes : ℕ) : Prop :=
  b.refusal questionId inputFrameBytes = none

/-- A step of the bridge: what allows it, the state after it and its effects. -/
inductive Steps (frameError : RpcReturnMessage → Option Thrown) (b : RpcServerBridge) :
    Event → RpcServerBridge → List Effect → Prop
  | unchanged (event : Event) (next rejected : ℕ) (effects : List Effect)
      (idle : ∀ effect ∈ effects, effect.idle) :
      Steps frameError b event { b with nextCapabilityIndex := next, rejectedInputFrames :=
        rejected } effects
  | exported (dispatch : RpcServerDispatch) (capabilityIndex : Option ℕ) (referenceCount : ℤ)
      (index next : ℕ) (isOpen : b.closed = false)
      (fresh : b.dispatchByCapability.lookup index = none) (counted : 0 ≤ referenceCount) :
      Steps frameError b (.exportCapability dispatch capabilityIndex referenceCount)
        { b with
          nextCapabilityIndex := next
          dispatchByCapability := b.dispatchByCapability.insert index ⟨dispatch, referenceCount,
    false, 0⟩ }
        [.exported index referenceCount]
  | retained (index : ℕ) (referenceCount : ℤ) (registered : RegisteredDispatch)
      (found : b.dispatchByCapability.lookup index = some registered)
      (counted : 0 < referenceCount) :
      Steps frameError b (.retainCapability index referenceCount)
        { b with
          dispatchByCapability := b.dispatchByCapability.insert index
            { registered with refCount := registered.refCount + referenceCount } }
        [.retained index referenceCount]
  | releasedUnknown (event : Event) (index : ℕ) (referenceCount : ℤ)
      (releases : event.releases index referenceCount)
      (absent : b.dispatchByCapability.lookup index = none) :
      Steps frameError b event b [.released index referenceCount]
  | released (event : Event) (index : ℕ) (referenceCount : ℤ) (registered : RegisteredDispatch)
      (releases : event.releases index referenceCount)
      (found : b.dispatchByCapability.lookup index = some registered) (counted : 0 < referenceCount)
      (enough : referenceCount ≤ registered.refCount) :
      Steps frameError b event
        { b with
          dispatchByCapability := settleRegistration b.dispatchByCapability index
            { registered with refCount := registered.refCount - referenceCount } }
        [.released index referenceCount]
  | finishedUnknown (event : Event) (finish : RpcFinishRequest)
      (arrives : event.frame = some (.finish finish))
      (absent : b.answerTable.lookup finish.questionId = none) :
      Steps frameError b event b [.callerFinished finish.questionId (some finish.releaseResultCaps)]
  | finished (event : Event) (finish : RpcFinishRequest) (i : EntryId)
      (arrives : event.frame = some (.finish finish))
      (found : b.answerTable.lookup finish.questionId = some i) :
      Steps frameError b event
        (((b.updateEntry i finishEntry).releaseAnswerHeldCapabilities i
          finish.releaseResultCaps).deleteAnswer finish.questionId)
        [.callerFinished finish.questionId (some finish.releaseResultCaps)]
  | called (event : Event) (call : RpcCallRequest) (path : CallPath) (byteLength : ℕ)
      (arrives : event.calls call path byteLength)
      (accepts : b.Accepts call.questionId byteLength) :
      Steps frameError b event
        (((b.acceptQuestion call.questionId byteLength (.call call path)).dispatchCall
          call).1.setStage
          b.questions.length
            ((b.acceptQuestion call.questionId byteLength (.call call path)).dispatchCall call).2)
        (.accepted b.questions.length call.questionId ::
          invocation b.questions.length
            ((b.acceptQuestion call.questionId byteLength (.call call path)).dispatchCall call).2)
  | bootstrapped (event : Event) (questionId : ℕ)
    (arrives : event.frame = some (.bootstrap questionId))
      (accepts : b.Accepts questionId 0) :
      Steps frameError b event
        ((b.acceptQuestion questionId 0 .bootstrap).setStage b.questions.length .bootstrapping)
        [.accepted b.questions.length questionId]
  | observed (response : RpcReturnMessage) (accepts : b.Accepts response.answerId 0) :
      Steps frameError b (.observeBootstrapResponse response)
        ((b.acceptQuestion response.answerId 0 .observed).completeBootstrapAnswer b.questions.length
          response)
        [.accepted b.questions.length response.answerId,
          .bootstrapObserved b.questions.length response]
  | bootstrapReturned (i : EntryId) (result : Except Thrown ℕ) (question : Question)
      (response : RpcReturnMessage) (found : b.questions[i]? = some question)
      (stands : question.stage = .bootstrapping)
      (encoded : result >>= encodeBootstrapResponseFrame question.questionId = .ok response) :
      Steps frameError b (.bootstrapSettles i result)
        ((b.completeBootstrapAnswer i response).setStage i .idle) [.bootstrapReturned i response]
  | bootstrapFailed (i : EntryId) (result : Except Thrown ℕ) (question : Question) (error : Thrown)
      (found : b.questions[i]? = some question) (stands : question.stage = .bootstrapping)
      (failed : result >>= encodeBootstrapResponseFrame question.questionId = .error error) :
      Steps frameError b (.bootstrapSettles i result)
        (((b.deleteAnswer question.questionId).updateEntry i (failEntry error)).setStage i .idle)
        [.bootstrapFailed i error]
  | handlerSettled (i : EntryId) (outcome : RpcDispatchOutcome) (question : Question)
    (capabilityIndex : ℕ)
      (parent : Option EntryId) (found : b.questions[i]? = some question)
      (stands : question.stage = .dispatching capabilityIndex parent) :
      Steps frameError b (.handlerSettles i outcome)
        ((parent.elim b b.releasePipelineRef).setStage i (.dispatched outcome)) []
  | canceled (i : EntryId) (question : Question) (call : RpcCallRequest) (path : CallPath)
      (parent : EntryId) (transform : Option (List RpcPromisedAnswerOp))
      (found : b.questions[i]? = some question) (owned : question.owner = .call call path)
      (stands : question.stage = .waiting parent transform)
      (aborted : question.entry.aborted = true) :
      Steps frameError b (.resumePipelined i)
        ((b.releasePipelineRef parent).setStage i
          (.dispatched (.exception "pipelined call canceled" none))) []
  | resumed (i : EntryId) (question : Question) (call : RpcCallRequest) (path : CallPath)
      (parent : EntryId) (transform : Option (List RpcPromisedAnswerOp)) (target : Question)
      (outcome : RpcDispatchOutcome) (found : b.questions[i]? = some question)
      (owned : question.owner = .call call path)
      (stands : question.stage = .waiting parent transform) (live : question.entry.aborted = false)
      (targetFound : b.questions[parent]? = some target)
      (resolved : target.entry.promise = some outcome) :
      Steps frameError b (.resumePipelined i)
        ((b.dispatchToAnswer call parent outcome transform).1.setStage i
          (b.dispatchToAnswer call parent outcome transform).2)
        (invocation i (b.dispatchToAnswer call parent outcome transform).2)
  | completed (i : EntryId) (question : Question) (call : RpcCallRequest) (path : CallPath)
      (outcome : RpcDispatchOutcome) (found : b.questions[i]? = some question)
      (owned : question.owner = .call call path) (stands : question.stage = .dispatched outcome) :
      Steps frameError b (.completeCall i)
        (completeStage i path (completeCall frameError b i question outcome)).1
        (completeStage i path (completeCall frameError b i question outcome)).2
  | responded (i : EntryId) (failure : HostFailure) (question : Question) (call : RpcCallRequest)
      (abi : RpcServerWasmHostAbi) (result : Except Thrown (Option RpcReturnMessage))
      (found : b.questions[i]? = some question) (owned : question.owner = .call call (.host abi))
      (stands : question.stage = .responding result) :
      Steps frameError b (.respond i failure) (b.setStage i .idle)
      (b.respond abi failure i question result)
  | timerStale (i : EntryId) (question : Question) (found : b.questions[i]? = some question)
      (armed : question.entry.evictionTimer = true) (drained : b.questions.any b.ready = false)
      (stale : ¬ b.retains question.questionId i) :
      Steps frameError b (.evictionTimer i) (b.updateEntry i disarmTimer) []
  | timerDeferred (i : EntryId) (question : Question) (found : b.questions[i]? = some question)
      (armed : question.entry.evictionTimer = true) (drained : b.questions.any b.ready = false)
      (held : b.retains question.questionId i) (pipelined : 0 < question.entry.pipelineRefCount) :
      Steps frameError b (.evictionTimer i)
        (((b.updateEntry i disarmTimer).updateEntry i countAttempt).scheduleEviction i) []
  | timerForced (i : EntryId) (question : Question) (found : b.questions[i]? = some question)
      (armed : question.entry.evictionTimer = true) (drained : b.questions.any b.ready = false)
      (held : b.retains question.questionId i) (pipelined : 0 < question.entry.pipelineRefCount) :
      Steps frameError b (.evictionTimer i)
        ((((b.updateEntry i disarmTimer).updateEntry i countAttempt).releaseAnswerHeldCapabilities i
          false).deleteAnswer question.questionId) [.evicted i]
  | timerEvicted (i : EntryId) (question : Question) (found : b.questions[i]? = some question)
      (armed : question.entry.evictionTimer = true) (drained : b.questions.any b.ready = false)
      (held : b.retains question.questionId i) (unpipelined : question.entry.pipelineRefCount ≤ 0) :
      Steps frameError b (.evictionTimer i)
        (((b.updateEntry i disarmTimer).releaseAnswerHeldCapabilities i false).deleteAnswer
          question.questionId)
        [.evicted i]
  | answerFinished (answerId : ℕ) (failure : HostFailure) (i : EntryId) (question : Question)
      (found : b.answerTable.lookup answerId = some i) (there : b.questions[i]? = some question)
      (unfinished : question.entry.finished = false) :
      Steps frameError b (.answerFinished answerId failure) (b.updateEntry i cancelEntry)
        [.callerFinished answerId none, .hostReturned i .canceled (failure .canceled)]
  | closed (isOpen : b.closed = false) : Steps frameError b .close b.close [.closed]

variable {frameError : RpcReturnMessage → Option Thrown} (b : RpcServerBridge)

/-- A step without a change. -/
theorem Steps.none (event : Event) {effects : List Effect}
    (idle : ∀ effect ∈ effects, effect.idle) :
    Steps frameError b event b effects :=
  .unchanged event b.nextCapabilityIndex b.rejectedInputFrames effects idle

theorem Steps.nothing (event : Event) : Steps frameError b event b [] :=
  Steps.none b event fun _ mem => nomatch mem

theorem countRefusal_eq (questionId : ℕ) :
    ∃ rejected, b.countRefusal questionId = { b with rejectedInputFrames := rejected } := by
  unfold countRefusal
  split_ifs
  · exact ⟨b.rejectedInputFrames, rfl⟩
  · exact ⟨_, rfl⟩

/-- A question is refused without a change but the count of the refused, or it is accepted. -/
theorem registerAnswerEntry_cases (questionId inputFrameBytes : ℕ) (owner : Owner) :
    (∃ rejected frame, b.registerAnswerEntry questionId inputFrameBytes owner =
        ({ b with rejectedInputFrames := rejected }, .error frame)) ∨
      b.Accepts questionId inputFrameBytes ∧
        b.registerAnswerEntry questionId inputFrameBytes owner =
        (b.acceptQuestion questionId inputFrameBytes owner, .ok b.questions.length) := by
  unfold registerAnswerEntry Accepts
  cases b.refusal questionId inputFrameBytes with
  | some reason =>
    obtain ⟨rejected, same⟩ := b.countRefusal_eq questionId
    exact .inl ⟨rejected, _, by rw [same]⟩
  | none => exact .inr ⟨rfl, rfl⟩

theorem steps_release {event : Event} {index : ℕ} {referenceCount : ℤ}
    (releases : event.releases index referenceCount) :
    Steps frameError b event (b.release index referenceCount).1
      (b.release index referenceCount).2 := by
  unfold release releaseCapability
  by_cases counted : referenceCount ≤ 0
  · simp only [if_pos counted]
    exact Steps.none b event (by simp [Effect.idle])
  · simp only [if_neg counted]
    cases found : b.dispatchByCapability.lookup index with
    | none => exact .releasedUnknown event index referenceCount releases found
    | some registered =>
      by_cases enough : registered.refCount < referenceCount
      · simp only [if_pos enough]
        exact Steps.none b event (by simp [Effect.idle])
      · simp only [if_neg enough]
        exact .released event index referenceCount registered releases found (by omega) (by omega)

theorem steps_exportCapability (dispatch : RpcServerDispatch) (capabilityIndex : Option ℕ)
    (referenceCount : ℤ) :
    Steps frameError b (.exportCapability dispatch capabilityIndex referenceCount)
      (b.step frameError (.exportCapability dispatch capabilityIndex referenceCount)).1
      (b.step frameError (.exportCapability dispatch capabilityIndex referenceCount)).2 := by
  simp only [step, exportCapability]
  by_cases closed : b.closed = true
  · simp only [if_pos closed]
    exact Steps.none b _ (by simp [Effect.idle])
  · simp only [if_neg closed]
    by_cases taken :
      (b.dispatchByCapability.lookup (capabilityIndex.getD b.nextCapabilityIndex)).isSome = true
    · simp only [if_pos taken]
      exact .unchanged _ _ b.rejectedInputFrames _ (by simp [Effect.idle])
    · simp only [if_neg taken]
      by_cases negative : referenceCount < 0
      · simp only [if_pos negative]
        exact .unchanged _ _ b.rejectedInputFrames _ (by simp [Effect.idle])
      · simp only [if_neg negative]
        exact .exported dispatch capabilityIndex referenceCount _ _ (by simpa using closed)
          (by simpa using taken) (by omega)

theorem steps_retainCapability (index : ℕ) (referenceCount : ℤ) :
    Steps frameError b (.retainCapability index referenceCount)
      (b.step frameError (.retainCapability index referenceCount)).1
      (b.step frameError (.retainCapability index referenceCount)).2 := by
  simp only [step, retainCapability]
  by_cases counted : referenceCount ≤ 0
  · simp only [if_pos counted]
    exact Steps.none b _ (by simp [Effect.idle])
  · simp only [if_neg counted]
    cases found : b.dispatchByCapability.lookup index with
    | none => exact Steps.none b _ (by simp [Effect.idle])
    | some registered => exact .retained index referenceCount registered found (by omega)

theorem steps_called {event : Event} {call : RpcCallRequest} {path : CallPath} {byteLength : ℕ}
    (arrives : event.calls call path byteLength) (accepts : b.Accepts call.questionId byteLength) :
    Steps frameError b event
      ((b.acceptQuestion call.questionId byteLength (.call call path)).startCall
        b.questions.length call).1
      ((b.acceptQuestion call.questionId byteLength (.call call path)).startCall b.questions.length
        call).2 :=
  .called event call path byteLength arrives accepts

theorem steps_processFrame {event : Event} {frame : InboundFrame}
    (arrives : event.frame = some frame) :
    Steps frameError b event (b.processFrame frame).1 (b.processFrame frame).2 := by
  cases frame with
  | release release => exact b.steps_release (.inr ⟨release, arrives, rfl, rfl⟩)
  | finish finish =>
    simp only [processFrame, finishQuestion]
    cases found : b.answerTable.lookup finish.questionId with
    | none => exact .finishedUnknown event finish arrives found
    | some i => exact .finished event finish i arrives found
  | passThrough => exact Steps.nothing b event
  | bootstrap questionId =>
    simp only [processFrame]
    by_cases configured : b.options.onBootstrap = true
    · simp only [if_pos configured]
      rcases b.registerAnswerEntry_cases questionId 0 .bootstrap with ⟨rejected, frame, same⟩ |
        ⟨accepts, same⟩
      · rw [same]
        exact .unchanged event b.nextCapabilityIndex rejected _ (by simp [Effect.idle])
      · rw [same]
        exact .bootstrapped event questionId arrives accepts
    · simp only [if_neg configured]
      exact Steps.none b event (by simp [Effect.idle])
  | call call byteLength =>
    simp only [processFrame, handleCall]
    rcases b.registerAnswerEntry_cases call.questionId byteLength (.call call .frame) with
      ⟨rejected, frame, same⟩ | ⟨accepts, same⟩
    · rw [same]
      exact .unchanged event b.nextCapabilityIndex rejected _ (by simp [Effect.idle])
    · rw [same]
      exact b.steps_called (.inl ⟨arrives, rfl⟩) accepts
  | refused error => exact Steps.none b event (by simp [processFrame, Effect.idle])

theorem idle_refuseHostCall (questionId : ℕ) (failure : HostFailure) (attempts : List HostReturn) :
    ∀ effect ∈ refuseHostCall questionId failure attempts, effect.idle := by
  intro effect mem
  obtain ⟨attempt, -, rfl⟩ := List.mem_map.1 mem
  trivial

theorem steps_hostCall (abi : RpcServerWasmHostAbi) (record : WasmHostCallRecord)
    (failure : HostFailure) :
    Steps frameError b (.hostCall abi record failure) (b.handleWasmHostCall abi record failure).1
      (b.handleWasmHostCall abi record failure).2 := by
  unfold handleWasmHostCall
  cases decoded : record.call with
  | error message => exact Steps.none b _ (idle_refuseHostCall _ _ _)
  | ok call =>
    by_cases mismatch : call.questionId ≠ record.questionId
    · simp only [if_pos mismatch]
      exact Steps.none b _ (idle_refuseHostCall _ _ _)
    · simp only [if_neg mismatch]
      rcases b.registerAnswerEntry_cases call.questionId record.byteLength
        (.call call (.host abi)) with
        ⟨rejected, frame, same⟩ | ⟨accepts, same⟩
      · rw [same]
        exact .unchanged _ b.nextCapabilityIndex rejected _ (idle_refuseHostCall _ _ _)
      · rw [same]
        exact b.steps_called (.inr ⟨abi, record, failure, rfl, rfl, decoded, rfl⟩) accepts

theorem steps_observe (response : RpcReturnMessage) :
    Steps frameError b (.observeBootstrapResponse response) (b.observeBootstrapResponse response).1
      (b.observeBootstrapResponse response).2 := by
  unfold observeBootstrapResponse
  rcases b.registerAnswerEntry_cases response.answerId 0 .observed with ⟨rejected, frame, same⟩ |
    ⟨accepts, same⟩
  · rw [same]
    exact .unchanged _ b.nextCapabilityIndex rejected _ (by simp [Effect.idle])
  · rw [same]
    exact .observed response accepts

/-! ### Steps of a question -/

variable {i : EntryId} {q : Question}

theorem steps_bootstrapSettles (result : Except Thrown ℕ) (found : b.questions[i]? = some q) :
    Steps frameError b (.bootstrapSettles i result)
    (b.step frameError (.bootstrapSettles i result)).1
      (b.step frameError (.bootstrapSettles i result)).2 := by
  simp only [step, atStage, found]
  split
  · rename_i stands
    unfold finishBootstrap
    split
    · rename_i response encoded
      exact .bootstrapReturned i result q response found stands encoded
    · rename_i error failed
      exact .bootstrapFailed i result q error found stands failed
  · exact Steps.nothing b _

theorem steps_handlerSettles (outcome : RpcDispatchOutcome) (found : b.questions[i]? = some q) :
    Steps frameError b (.handlerSettles i outcome) (b.step frameError (.handlerSettles i outcome)).1
      (b.step frameError (.handlerSettles i outcome)).2 := by
  simp only [step, atStage, found]
  split
  · rename_i capabilityIndex stands
    exact .handlerSettled i outcome q capabilityIndex none found stands
  · rename_i capabilityIndex parent stands
    exact .handlerSettled i outcome q capabilityIndex (some parent) found stands
  · exact Steps.nothing b _

theorem steps_resumePipelined (found : b.questions[i]? = some q) :
    Steps frameError b (.resumePipelined i) (b.step frameError (.resumePipelined i)).1
      (b.step frameError (.resumePipelined i)).2 := by
  simp only [step, atStage, found]
  split
  · rename_i parent transform call path stands owned
    by_cases aborted : q.entry.aborted = true
    · simp only [if_pos aborted]
      exact .canceled i q call path parent transform found owned stands aborted
    · simp only [if_neg aborted]
      cases there : b.questions[parent]? with
      | none => exact Steps.nothing b _
      | some target =>
        cases resolved : target.entry.promise with
        | none =>
          simp only [Option.bind_some, resolved]
          exact Steps.nothing b _
        | some outcome =>
          simp only [Option.bind_some, resolved]
          exact .resumed i q call path parent transform target outcome found owned stands
            (Bool.eq_false_iff.2 aborted) there resolved
  · exact Steps.nothing b _

theorem steps_completeCall (found : b.questions[i]? = some q) :
    Steps frameError b (.completeCall i) (b.step frameError (.completeCall i)).1
      (b.step frameError (.completeCall i)).2 := by
  simp only [step, atStage, found]
  split
  · rename_i outcome call path stands owned
    exact .completed i q call path outcome found owned stands
  · exact Steps.nothing b _

theorem steps_respond (failure : HostFailure) (found : b.questions[i]? = some q) :
    Steps frameError b (.respond i failure) (b.step frameError (.respond i failure)).1
      (b.step frameError (.respond i failure)).2 := by
  simp only [step, atStage, found]
  split
  · rename_i result call abi stands owned
    exact .responded i failure q call abi result found owned stands
  · exact Steps.nothing b _

theorem steps_evictionTimer (found : b.questions[i]? = some q) :
    Steps frameError b (.evictionTimer i) (b.step frameError (.evictionTimer i)).1
      (b.step frameError (.evictionTimer i)).2 := by
  simp only [step, atStage, found]
  by_cases busy : b.questions.any b.ready = true
  · simp only [if_pos busy]
    exact Steps.nothing b _
  · have drained : b.questions.any b.ready = false := Bool.eq_false_iff.2 busy
    simp only [if_neg busy]
    by_cases armed : q.entry.evictionTimer = true
    · simp only [if_pos armed, fireEvictionTimer]
      by_cases held : b.retains q.questionId i
      · have held' : (b.updateEntry i disarmTimer).retains q.questionId i := held
        simp only [if_neg (not_not_intro held')]
        by_cases pipelined : 0 < q.entry.pipelineRefCount
        · simp only [if_pos pipelined]
          split_ifs
          · exact .timerForced i q found armed drained held pipelined
          · exact .timerDeferred i q found armed drained held pipelined
        · simp only [if_neg pipelined]
          exact .timerEvicted i q found armed drained held (by omega)
      · have held' : ¬ (b.updateEntry i disarmTimer).retains q.questionId i := held
        simp only [if_pos held']
        exact .timerStale i q found armed drained held
    · simp only [if_neg armed]
      exact Steps.nothing b _

theorem steps_answerFinished (answerId : ℕ) (failure : HostFailure) :
    Steps frameError b (.answerFinished answerId failure) (b.answerFinished answerId failure).1
      (b.answerFinished answerId failure).2 := by
  unfold answerFinished
  cases found : b.answerTable.lookup answerId with
  | none => exact Steps.nothing b _
  | some i =>
    cases there : b.questions[i]? with
    | none =>
      simp only [there]
      exact Steps.nothing b _
    | some question =>
      simp only [there]
      by_cases finished : question.entry.finished = true
      · simp only [if_pos finished]
        exact Steps.nothing b _
      · simp only [if_neg finished]
        exact .answerFinished answerId failure i question found there (Bool.eq_false_iff.2 finished)

/-- Every step is one of the steps listed. -/
theorem steps_of_step (event : Event) :
    Steps frameError b event (b.step frameError event).1 (b.step frameError event).2 := by
  have absent {i : EntryId} {event : Event}
      {act : Question → Stage → RpcServerBridge × List Effect} (gone : b.questions[i]? = none) :
      Steps frameError b event (b.atStage i act).1 (b.atStage i act).2 := by
    unfold atStage
    rw [gone]
    exact Steps.nothing b event
  cases event with
  | exportCapability dispatch capabilityIndex referenceCount =>
    exact b.steps_exportCapability dispatch capabilityIndex referenceCount
  | retainCapability index referenceCount => exact b.steps_retainCapability index referenceCount
  | releaseCapability index referenceCount => exact b.steps_release (.inl rfl)
  | handleFrame frame =>
    by_cases closed : b.closed = true
    · simp only [step, if_pos closed]
      exact Steps.none b _ (by simp [Effect.idle])
    · simp only [step, if_neg closed]
      exact b.steps_processFrame rfl
  | resumeFrame frame => exact b.steps_processFrame rfl
  | hostCall abi record failure => exact b.steps_hostCall abi record failure
  | observeBootstrapResponse response => exact b.steps_observe response
  | bootstrapSettles i result =>
    cases found : b.questions[i]? with
    | none => exact absent found
    | some q => exact b.steps_bootstrapSettles result found
  | handlerSettles i outcome =>
    cases found : b.questions[i]? with
    | none => exact absent found
    | some q => exact b.steps_handlerSettles outcome found
  | resumePipelined i =>
    cases found : b.questions[i]? with
    | none => exact absent found
    | some q => exact b.steps_resumePipelined found
  | completeCall i =>
    cases found : b.questions[i]? with
    | none => exact absent found
    | some q => exact b.steps_completeCall found
  | respond i failure =>
    cases found : b.questions[i]? with
    | none => exact absent found
    | some q => exact b.steps_respond failure found
  | evictionTimer i =>
    cases found : b.questions[i]? with
    | none =>
      simp only [step]
      split_ifs
      · exact Steps.nothing b _
      · exact absent found
    | some q => exact b.steps_evictionTimer found
  | answerFinished answerId failure => exact b.steps_answerFinished answerId failure
  | close =>
    by_cases closed : b.closed = true
    · simp only [step, if_pos closed]
      exact Steps.nothing b _
    · simp only [step, if_neg closed]
      exact .closed (Bool.eq_false_iff.2 closed)

/-! ## The shape of a step -/

/-- What `refusal` has looked at when it refuses nothing. -/
theorem accepts_iff {b : RpcServerBridge} {questionId inputFrameBytes : ℕ} :
    b.Accepts questionId inputFrameBytes ↔
    b.closed = false ∧ b.answerTable.lookup questionId = none ∧ b.tableFull = false ∧
      b.overBudget inputFrameBytes = false := by
  unfold Accepts refusal
  cases b.closed <;> cases b.answerTable.lookup questionId <;> cases b.tableFull <;>
    cases b.overBudget inputFrameBytes <;> simp

theorem question_acceptQuestion (b : RpcServerBridge) (questionId inputFrameBytes : ℕ)
    (owner : Owner) :
    (b.acceptQuestion questionId inputFrameBytes owner).questions[b.questions.length]? =
      some ⟨questionId, owner, .idle, AnswerTableEntry.new inputFrameBytes⟩ := by
  unfold acceptQuestion
  rw [List.getElem?_append_right le_rfl, Nat.sub_self]
  rfl

theorem unsettled_dispatchToCapability (b : RpcServerBridge) (capabilityIndex : ℕ)
    (call : RpcCallRequest) (parent : Option EntryId) :
    (b.dispatchToCapability capabilityIndex call parent).unsettled = true := by
  unfold dispatchToCapability
  split
  · rfl
  · split_ifs <;> rfl

/-- From the outcome of its target on, a call goes to an unsettled stage. -/
theorem quiet_dispatchToAnswer (b : RpcServerBridge) (call : RpcCallRequest) (parent : EntryId)
    (outcome : RpcDispatchOutcome) (transform : Option (List RpcPromisedAnswerOp)) :
    Quiet b (b.dispatchToAnswer call parent outcome transform).1 ∧
      (b.dispatchToAnswer call parent outcome transform).2.unsettled = true := by
  unfold dispatchToAnswer
  split
  · exact ⟨quiet_releasePipelineRef b parent, rfl⟩
  · split
    · exact ⟨Quiet.refl b, rfl⟩
    · exact ⟨quiet_releasePipelineRef b parent, unsettled_dispatchToCapability _ _ _ _⟩

theorem quiet_dispatchCall (b : RpcServerBridge) (call : RpcCallRequest) :
    Quiet b (b.dispatchCall call).1 ∧ (b.dispatchCall call).2.unsettled = true := by
  unfold dispatchCall
  split
  · exact ⟨Quiet.refl b, unsettled_dispatchToCapability _ _ _ _⟩
  · unfold dispatchPipelinedCall
    split
    · exact ⟨Quiet.refl b, rfl⟩
    · rename_i parent there
      have taken : Quiet b (b.takePipelineRef parent) := quiet_updateEntry b parent fun _ => rfl
      dsimp only
      split
      · exact ⟨taken, rfl⟩
      · have dispatched := quiet_dispatchToAnswer (b.takePipelineRef parent) call parent
        exact ⟨taken.trans (dispatched _ _).1, (dispatched _ _).2⟩

theorem quiet_completeCall (frameError : RpcReturnMessage → Option Thrown) (b : RpcServerBridge)
    (i : EntryId) (q : Question) (outcome : RpcDispatchOutcome) :
    ∃ c, Quiet b c ∧ (completeCall frameError b i q outcome).1 =
      c.refund q.entry.inputFrameBytes := by
  have settled : Quiet b (b.updateEntry i (settleEntry outcome)) :=
    quiet_updateEntry b i fun _ => rfl
  unfold completeCall
  dsimp only
  split_ifs
  · exact ⟨_, settled, rfl⟩
  · have armed := settled.trans (quiet_scheduleEviction _ i)
    cases outcome with
    | exception reason releaseParamCaps => exact ⟨_, armed, rfl⟩
    | results response => exact ⟨_, armed.trans (quiet_trackReturnedCapabilities _ i _ false), rfl⟩

/-- How a step changes the tasks, the table and the counter, whatever it does to entries and
registry. -/
inductive Shape (b : RpcServerBridge) (event : Event) : RpcServerBridge → Prop
  | quiet {b' : RpcServerBridge} (quiet : Quiet b b') : Shape b event b'
  | counted (next rejected : ℕ) :
      Shape b event { b with nextCapabilityIndex := next, rejectedInputFrames := rejected }
  | removed {c : RpcServerBridge} (quiet : Quiet b c) (questionId : ℕ) :
      Shape b event (c.deleteAnswer questionId)
  | moved {c : RpcServerBridge} (i : EntryId) (q : Question) (stage : Stage) (quiet : Quiet b c)
      (found : b.questions[i]? = some q) (same : stage.unsettled = q.stage.unsettled)
      (entered : stage.entered = true) : Shape b event (c.setStage i stage)
  | settled {c : RpcServerBridge} (i : EntryId) (q : Question) (stage : Stage) (quiet : Quiet b c)
      (found : b.questions[i]? = some q) (before : q.stage.unsettled = true)
      (after : stage = .idle ∨
        ∃ result call abi, stage = .responding result ∧ q.owner = .call call (.host abi)) :
      Shape b event ((c.refund q.entry.inputFrameBytes).setStage i stage)
  | failed {c : RpcServerBridge} (i : EntryId) (q : Question)
    (quiet : Quiet (b.deleteAnswer q.questionId) c)
      (found : b.questions[i]? = some q) (same : Stage.idle.unsettled = q.stage.unsettled) :
      Shape b event (c.setStage i .idle)
  | accepted {c : RpcServerBridge} (questionId byteLength : ℕ) (owner : Owner) (stage : Stage)
      (accepts : b.Accepts questionId byteLength)
      (quiet : Quiet (b.acceptQuestion questionId byteLength owner) c)
      (owned : (stage.unsettled = true ∧ ∃ call path, owner = .call call path) ∨
        stage = .bootstrapping ∧ byteLength = 0)
      (waits : ∀ parent transform, stage = .waiting parent transform →
        ∃ call path target, event.calls call path byteLength ∧ call.questionId = questionId ∧
          call.target = .promisedAnswer target transform ∧
          (b.acceptQuestion questionId byteLength owner).answerTable.lookup target = some parent ∧
          (b.acceptQuestion questionId byteLength owner).questions[parent]?.bind (·.entry.outcome) =
            none) :
      Shape b event (c.setStage b.questions.length stage)
  | observed {c : RpcServerBridge} (questionId : ℕ) (accepts : b.Accepts questionId 0)
      (quiet : Quiet (b.acceptQuestion questionId 0 .observed) c) : Shape b event c
  | closed (closes : event = .close) : Shape b event b.close

theorem dispatchToCapability_entered (b : RpcServerBridge) (capabilityIndex : ℕ)
    (call : RpcCallRequest) (parent : Option EntryId) :
    (b.dispatchToCapability capabilityIndex call parent).entered = true := by
  unfold dispatchToCapability
  split
  · rfl
  · split_ifs <;> rfl

theorem dispatchToAnswer_entered (b : RpcServerBridge) (call : RpcCallRequest) (parent : EntryId)
    (outcome : RpcDispatchOutcome) (transform : Option (List RpcPromisedAnswerOp)) :
    (b.dispatchToAnswer call parent outcome transform).2.entered = true := by
  unfold dispatchToAnswer
  split
  · rfl
  · split
    · rfl
    · exact dispatchToCapability_entered _ _ _ _

/-- A call that waits has found the entry of its target in the table, without an outcome. -/
theorem dispatchCall_waits {b : RpcServerBridge} {call : RpcCallRequest} {parent : EntryId}
    {transform : Option (List RpcPromisedAnswerOp)}
    (waits : (b.dispatchCall call).2 = .waiting parent transform) :
    ∃ target, call.target = .promisedAnswer target transform ∧ b.answerTable.lookup target =
      some parent ∧
      b.questions[parent]?.bind (·.entry.outcome) = none := by
  have notEntered {stage : Stage} (entered : stage.entered = true) :
      stage ≠ .waiting parent transform := by
    rintro rfl
    cases entered
  unfold dispatchCall at waits
  split at waits
  · exact absurd waits (notEntered (dispatchToCapability_entered _ _ _ _))
  · rename_i target transform' aims
    unfold dispatchPipelinedCall at waits
    split at waits
    · cases waits
    · rename_i found there
      dsimp only at waits
      split at waits
      · rename_i pending
        cases waits
        refine ⟨target, aims, there, ?_⟩
        unfold takePipelineRef at pending
        rw [question_updateEntry, if_pos rfl] at pending
        cases old : b.questions[parent]? with
        | none => rfl
        | some q =>
          rw [old] at pending
          exact pending
      · exact absurd waits (notEntered (dispatchToAnswer_entered _ _ _ _ _))

variable {b' : RpcServerBridge} {event : Event} {effects : List Effect}

theorem Steps.shape (steps : Steps frameError b event b' effects) : Shape b event b' := by
  cases steps with
  | unchanged event next rejected => exact .counted next rejected
  | exported dispatch capabilityIndex referenceCount index next =>
    exact .quiet ⟨rfl, rfl, rfl, rfl, rfl⟩
  | retained => exact .quiet ((Quiet.refl b).registry _)
  | releasedUnknown => exact .quiet (Quiet.refl b)
  | released => exact .quiet ((Quiet.refl b).registry _)
  | finishedUnknown => exact .quiet (Quiet.refl b)
  | finished event finish i =>
    have finished : Quiet b (b.updateEntry i finishEntry) := quiet_updateEntry b i fun _ => rfl
    exact .removed (finished.trans (quiet_releaseAnswerHeldCapabilities _ i _)) _
  | called event call path byteLength arrives accepts =>
    have dispatched :=
      quiet_dispatchCall (b.acceptQuestion call.questionId byteLength (.call call path)) call
    refine .accepted call.questionId byteLength _ _ accepts dispatched.1
      (.inl ⟨dispatched.2, call, path, rfl⟩) ?_
    intro parent transform waits
    obtain ⟨target, aims, there, pending⟩ := dispatchCall_waits waits
    exact ⟨call, path, target, arrives, rfl, aims, there, pending⟩
  | bootstrapped event questionId arrives accepts =>
    exact .accepted questionId 0 _ _ accepts (Quiet.refl _) (.inr ⟨rfl, rfl⟩) nofun
  | observed response accepts =>
    exact .observed response.answerId accepts (quiet_completeBootstrapAnswer _ _ response)
  | bootstrapReturned i result q response found stands =>
    exact .moved i q .idle (quiet_completeBootstrapAnswer b i response) found
      (by rw [stands]; rfl) rfl
  | bootstrapFailed i result q error found stands =>
    exact .failed i q (quiet_updateEntry _ i fun _ => rfl) found (by rw [stands]; rfl)
  | handlerSettled i outcome q capabilityIndex parent found stands =>
    have released : Quiet b (parent.elim b b.releasePipelineRef) := by
      cases parent with
      | none => exact Quiet.refl b
      | some parent => exact quiet_releasePipelineRef b parent
    exact .moved i q _ released found (by rw [stands]; rfl) rfl
  | canceled i q call path parent transform found owned stands =>
    exact .moved i q _ (quiet_releasePipelineRef b parent) found (by rw [stands]; rfl) rfl
  | resumed i q call path parent transform target outcome found owned stands =>
    have dispatched := quiet_dispatchToAnswer b call parent outcome transform
    exact .moved i q _ dispatched.1 found (by rw [stands, dispatched.2]; rfl)
      (dispatchToAnswer_entered _ _ _ _ _)
  | completed i q call path outcome found owned stands =>
    obtain ⟨c, settled, same⟩ := quiet_completeCall frameError b i q outcome
    have before : q.stage.unsettled = true := by rw [stands]; rfl
    cases path with
    | frame =>
      simp only [completeStage, same]
      exact .settled i q _ settled found before (.inl rfl)
    | host abi =>
      simp only [completeStage, same]
      exact .settled i q _ settled found before (.inr ⟨_, call, abi, rfl, owned⟩)
  | responded i failure q call abi result found owned stands =>
    exact .moved i q _ (Quiet.refl b) found (by rw [stands]; rfl) rfl
  | timerStale i => exact .quiet (quiet_disarmTimer b i)
  | timerDeferred i => exact .quiet ((quiet_countAttempt b i).trans (quiet_scheduleEviction _ i))
  | timerForced i =>
    exact .removed ((quiet_countAttempt b i).trans (quiet_releaseAnswerHeldCapabilities _ i _)) _
  | timerEvicted i =>
    exact .removed ((quiet_disarmTimer b i).trans (quiet_releaseAnswerHeldCapabilities _ i _)) _
  | answerFinished answerId failure i =>
    have canceled : Quiet b (b.updateEntry i cancelEntry) := quiet_updateEntry b i fun _ => rfl
    exact .quiet canceled
  | closed => exact .closed rfl

section Shapes

variable {b}

/-- No entry goes away. -/
theorem Shape.length_le (shape : Shape b event b') : b.questions.length ≤ b'.questions.length := by
  cases shape with
  | quiet quiet => exact quiet.length.ge
  | counted => exact le_rfl
  | removed quiet => exact quiet.length.ge
  | moved i q stage quiet =>
    rw [length_setStage]
    exact quiet.length.ge
  | settled i q stage quiet =>
    rw [length_setStage]
    exact quiet.length.ge
  | failed i q quiet =>
    rw [length_setStage]
    exact quiet.length.ge
  | accepted questionId byteLength owner stage accepts quiet =>
    rw [length_setStage, quiet.length]
    exact List.sublist_append_left _ _ |>.length_le
  | observed questionId accepts quiet =>
    rw [quiet.length]
    exact List.sublist_append_left _ _ |>.length_le
  | closed => exact (quiet_closeEntries b _).length.ge

/-- Only `close` closes a bridge. -/
theorem Shape.staysOpen (shape : Shape b event b') (other : event ≠ .close)
    (isOpen : b.closed = false) :
    b'.closed = false := by
  cases shape with
  | quiet quiet => exact quiet.closed.trans isOpen
  | counted => exact isOpen
  | removed quiet => exact quiet.closed.trans isOpen
  | moved i q stage quiet => exact quiet.closed.trans isOpen
  | settled i q stage quiet => exact quiet.closed.trans isOpen
  | failed i q quiet => exact quiet.closed.trans isOpen
  | accepted questionId byteLength owner stage accepts quiet => exact quiet.closed.trans isOpen
  | observed questionId accepts quiet => exact quiet.closed.trans isOpen
  | closed closes => exact absurd closes other

/-- Nothing opens a bridge again. -/
theorem Shape.stillOpen (shape : Shape b event b') (isOpen : b'.closed = false) :
    b.closed = false := by
  cases shape with
  | quiet quiet => exact quiet.closed.symm.trans isOpen
  | counted => exact isOpen
  | removed quiet => exact quiet.closed.symm.trans isOpen
  | moved i q stage quiet => exact quiet.closed.symm.trans isOpen
  | settled i q stage quiet => exact quiet.closed.symm.trans isOpen
  | failed i q quiet => exact quiet.closed.symm.trans isOpen
  | accepted questionId byteLength owner stage accepts quiet => exact quiet.closed.symm.trans isOpen
  | observed questionId accepts quiet => exact quiet.closed.symm.trans isOpen
  | closed => cases isOpen

end Shapes

end RpcServerBridge

end CapnpDeno
