import CapnpDeno.Rpc.Server.BridgeInvariant

/-!
# The books of a bridge

Capabilities are accounted for in three places: the registry, the answer table, and the indexes each
entry holds.  The books are these three without the rest of the state, a posting is an operation on
them, and every step of a bridge makes one of the postings listed, or none.
-/

namespace CapnpDeno

structure Books where
  registry : Registry
  answers : Table ℕ EntryId
  held : List (List ℕ)

namespace Books

/-- What the entry holds, nothing for no entry. -/
def heldAt (k : Books) (i : EntryId) : List ℕ := k.held[i]?.getD []

/-- A new entry, which holds nothing yet. -/
def accept (k : Books) (questionId : ℕ) : Books :=
  { k with
    answers := k.answers.insert questionId k.held.length
    held := k.held ++ [[]] }

def track (k : Books) (i : EntryId) (capTable : List RpcCapDescriptor) (bootstrap : Bool) : Books :=
  let tracked := RpcServerBridge.tracked k.registry capTable bootstrap
  { k with
    registry := tracked.1
    held := k.held.modify i fun held => if tracked.2 = [] then held else tracked.2 }

def endHolds (k : Books) (i : EntryId) (releaseWireRefs : Bool) : Books :=
  { k with
    registry := (k.heldAt i).foldl (RpcServerBridge.releaseHeld releaseWireRefs) k.registry
    held := k.held.modify i fun _ => [] }

/-- The entry of the question leaves the table. -/
def forget (k : Books) (questionId : ℕ) : Books := { k with answers := k.answers.erase questionId }

def close (k : Books) : Books := { k with registry := ∅, answers := ∅ }

end Books

namespace RpcServerBridge

def books (b : RpcServerBridge) : Books :=
  ⟨b.dispatchByCapability, b.answerTable, b.questions.map (·.entry.held)⟩

variable (b : RpcServerBridge) (i : EntryId)

@[simp] theorem books_registry : b.books.registry = b.dispatchByCapability := rfl
@[simp] theorem books_answers : b.books.answers = b.answerTable := rfl

@[simp] theorem books_heldAt : b.books.heldAt i = b.heldAt i := by
  unfold Books.heldAt heldAt books
  rw [List.getElem?_map]

@[simp] theorem books_length : b.books.held.length = b.questions.length := List.length_map _

/-! ## Operations that post nothing -/

/-- The update leaves what the entry holds. -/
def KeepsHeld (f : AnswerTableEntry → AnswerTableEntry) : Prop :=
  ∀ entry, (f entry).held = entry.held

variable {b i}

theorem books_updateEntry {f : AnswerTableEntry → AnswerTableEntry} (keeps : KeepsHeld f) :
    (b.updateEntry i f).books = b.books := by
  have held : (b.updateEntry i f).questions.map (·.entry.held) = b.questions.map (·.entry.held) :=
    Heap.map_modify _ i fun q => keeps q.entry
  unfold books
  rw [held]
  rfl

@[simp] theorem books_setStage {stage : Stage} : (b.setStage i stage).books = b.books := by
  have held : (b.setStage i stage).questions.map (·.entry.held) = b.questions.map (·.entry.held) :=
    Heap.map_modify _ i fun _ => rfl
  unfold books
  rw [held]
  rfl

@[simp] theorem books_refund (inputFrameBytes : ℕ) : (b.refund inputFrameBytes).books = b.books :=
  rfl

@[simp] theorem books_releasePipelineRef : (b.releasePipelineRef i).books = b.books :=
  books_updateEntry fun _ => rfl

@[simp] theorem books_takePipelineRef : (b.takePipelineRef i).books = b.books :=
  books_updateEntry fun _ => rfl

@[simp] theorem books_disarmTimer : (b.updateEntry i disarmTimer).books = b.books :=
  books_updateEntry fun _ => rfl

@[simp] theorem books_countAttempt : (b.updateEntry i countAttempt).books = b.books :=
  books_updateEntry fun _ => rfl

@[simp] theorem books_settleEntry {outcome : RpcDispatchOutcome} :
    (b.updateEntry i (settleEntry outcome)).books = b.books :=
  books_updateEntry fun _ => rfl

@[simp] theorem books_finishEntry : (b.updateEntry i finishEntry).books = b.books :=
  books_updateEntry fun _ => rfl

@[simp] theorem books_failEntry (error : Thrown) :
    (b.updateEntry i (failEntry error)).books = b.books :=
  books_updateEntry fun _ => rfl

@[simp] theorem books_cancelEntry : (b.updateEntry i cancelEntry).books = b.books :=
  books_updateEntry fun _ => rfl

@[simp] theorem books_scheduleEviction : (b.scheduleEviction i).books = b.books := by
  apply books_updateEntry
  intro entry
  unfold armTimer
  split
  · split_ifs <;> rfl
  · rfl

@[simp] theorem books_dispatchToAnswer (call : RpcCallRequest) (parent : EntryId)
    (outcome : RpcDispatchOutcome) (transform : Option (List RpcPromisedAnswerOp)) :
    (b.dispatchToAnswer call parent outcome transform).1.books = b.books := by
  unfold dispatchToAnswer
  split
  · exact books_releasePipelineRef
  · split
    · rfl
    · exact books_releasePipelineRef

@[simp] theorem books_dispatchCall (call : RpcCallRequest) :
    (b.dispatchCall call).1.books = b.books := by
  unfold dispatchCall
  split
  · rfl
  · unfold dispatchPipelinedCall
    split
    · rfl
    · dsimp only
      split
      · exact books_takePipelineRef
      · rw [books_dispatchToAnswer, books_takePipelineRef]

/-! ## Operations that post -/

@[simp] theorem books_acceptQuestion (questionId inputFrameBytes : ℕ) (owner : Owner) :
    (b.acceptQuestion questionId inputFrameBytes owner).books = b.books.accept questionId := by
  unfold books acceptQuestion Books.accept
  simp only [List.map_append, List.length_map]
  rfl

@[simp] theorem books_deleteAnswer (questionId : ℕ) :
    (b.deleteAnswer questionId).books = b.books.forget questionId := rfl

@[simp] theorem books_trackReturnedCapabilities (capTable : List RpcCapDescriptor)
    (bootstrap : Bool) :
    (b.trackReturnedCapabilities i capTable bootstrap).books =
      b.books.track i capTable bootstrap := by
  have held :
      (b.updateEntry i (hold (tracked b.dispatchByCapability capTable bootstrap).2)).questions.map
        (·.entry.held) =
      (b.questions.map (·.entry.held)).modify i fun held =>
        if (tracked b.dispatchByCapability capTable bootstrap).2 = [] then held
        else (tracked b.dispatchByCapability capTable bootstrap).2 := by
    apply Heap.modify_map
    intro q
    unfold hold AnswerTableEntry.held
    split_ifs <;> rfl
  unfold books trackReturnedCapabilities Books.track
  dsimp only
  rw [held]
  rfl

/-- A bootstrap answer is tracked where its entry is still there. -/
theorem books_completeBootstrapAnswer {q : Question} (found : b.questions[i]? = some q)
    (response : RpcReturnMessage) :
    (b.completeBootstrapAnswer i response).books =
      if ¬ b.retains response.answerId i ∨ q.entry.finished = true then b.books
      else b.books.track i response.capTable true := by
  have there := b.question_updateEntry i i (settleEntry (outcomeOf response))
  rw [if_pos rfl, found, Option.map_some] at there
  unfold completeBootstrapAnswer
  dsimp only
  rw [there]
  dsimp only
  change (if ¬ b.retains response.answerId i ∨ q.entry.finished = true then _
    else _ : RpcServerBridge).books = _
  split_ifs
  · exact books_settleEntry
  · rw [books_scheduleEviction, books_trackReturnedCapabilities, books_settleEntry]

@[simp] theorem books_releaseAnswerHeldCapabilities (releaseWireRefs : Bool) :
    (b.releaseAnswerHeldCapabilities i releaseWireRefs).books =
      b.books.endHolds i releaseWireRefs := by
  have held : (b.updateEntry i unhold).questions.map (·.entry.held) =
      (b.questions.map (·.entry.held)).modify i fun _ => [] := Heap.modify_map fun _ => rfl
  unfold Books.endHolds
  rw [books_heldAt]
  unfold books releaseAnswerHeldCapabilities
  dsimp only
  rw [held]
  rfl

@[simp] theorem books_close : b.close.books = b.books.close := by
  have held (c : RpcServerBridge) (places : List EntryId) : (c.closeEntries places).books =
      c.books := by
    induction places generalizing c with
    | nil => rfl
    | cons i places ih => exact (ih _).trans (books_updateEntry fun _ => rfl)
  have same := congrArg Books.held (held b (b.answerTable.entries.map Sigma.snd))
  unfold Books.close
  rw [← same]
  rfl

/-! ## What a step posts -/

end RpcServerBridge

/-- The effect concerns no reference and no entry of the table. -/
def Effect.neutral : Effect → Bool
  | .threw _ | .refused _ | .hostRefused _ _ _ | .invoked _ _ | .returnedNothing _
  | .rejected _ _ => true
  | .returned _ frame | .built _ frame => frame.capTable.isEmpty && !frame.noFinishNeeded
  | _ => false

theorem Effect.idle.neutral {effect : Effect} (idle : effect.idle) : effect.neutral = true := by
  cases effect <;> first | rfl | exact absurd idle id

/-- What the world sees of a call with results: the Return, or that it could not be encoded. -/
def shownReturn (i : EntryId) (frame : RpcReturnMessage) (failed : Option Thrown)
    (path : CallPath) : List Effect :=
  match failed, path with
  | some error, .frame => [.rejected i error]
  | some _, .host _ => []
  | none, .frame => [.returned i frame]
  | none, .host _ => [.built i frame]

namespace RpcServerBridge

/-- What a step does to the books, what allows it, and its effects. -/
inductive Posts (frameError : RpcReturnMessage → Option Thrown) (b : RpcServerBridge) :
    Event → Books → List Effect → Prop
  | none (event : Event) (effects : List Effect)
    (neutral : ∀ effect ∈ effects, effect.neutral = true) :
      Posts frameError b event b.books effects
  | exported (dispatch : RpcServerDispatch) (capabilityIndex : Option ℕ) (referenceCount : ℤ)
    (index : ℕ)
      (fresh : b.dispatchByCapability.lookup index = none) (counted : 0 ≤ referenceCount) :
      Posts frameError b (.exportCapability dispatch capabilityIndex referenceCount)
        { b.books with
          registry := b.dispatchByCapability.insert index ⟨dispatch, referenceCount, false, 0⟩ }
        [.exported index referenceCount]
  | retained (index : ℕ) (referenceCount : ℤ) (registered : RegisteredDispatch)
      (found : b.dispatchByCapability.lookup index = some registered)
      (counted : 0 < referenceCount) :
      Posts frameError b (.retainCapability index referenceCount)
        { b.books with
          registry := b.dispatchByCapability.insert index
            { registered with refCount := registered.refCount + referenceCount } }
        [.retained index referenceCount]
  | releasedUnknown (event : Event) (index : ℕ) (referenceCount : ℤ)
      (absent : b.dispatchByCapability.lookup index = none) :
      Posts frameError b event b.books [.released index referenceCount]
  | released (event : Event) (index : ℕ) (referenceCount : ℤ) (registered : RegisteredDispatch)
      (releases : event.releases index referenceCount)
      (found : b.dispatchByCapability.lookup index = some registered) (counted : 0 < referenceCount)
      (enough : referenceCount ≤ registered.refCount) :
      Posts frameError b event
        { b.books with
          registry := settleRegistration b.dispatchByCapability index
            { registered with refCount := registered.refCount - referenceCount } }
        [.released index referenceCount]
  | finishedUnknown (event : Event) (finish : RpcFinishRequest)
      (arrives : event.frame = some (.finish finish))
      (absent : b.answerTable.lookup finish.questionId = none) :
      Posts frameError b event b.books
        [.callerFinished finish.questionId (some finish.releaseResultCaps)]
  | finished (event : Event) (finish : RpcFinishRequest) (i : EntryId)
      (arrives : event.frame = some (.finish finish))
      (found : b.answerTable.lookup finish.questionId = some i) :
      Posts frameError b event ((b.books.endHolds i finish.releaseResultCaps).forget
        finish.questionId) [.callerFinished finish.questionId (some finish.releaseResultCaps)]
  | accepted (event : Event) (questionId inputFrameBytes : ℕ) (effects : List Effect)
      (accepts : b.Accepts questionId inputFrameBytes)
      (neutral : ∀ effect ∈ effects, effect.neutral = true) :
      Posts frameError b event (b.books.accept questionId)
        (.accepted b.questions.length questionId :: effects)
  | observed (response : RpcReturnMessage) (accepts : b.Accepts response.answerId 0) :
      Posts frameError b (.observeBootstrapResponse response)
        ((b.books.accept response.answerId).track b.questions.length response.capTable true)
        [.accepted b.questions.length response.answerId,
          .bootstrapObserved b.questions.length response]
  | bootstrapReturned (i : EntryId) (result : Except Thrown ℕ) (question : Question)
      (response : RpcReturnMessage) (found : b.questions[i]? = some question)
      (stands : question.stage = .bootstrapping)
      (encoded : result >>= encodeBootstrapResponseFrame question.questionId = .ok response)
      (retained : b.retains question.questionId i) (unfinished : question.entry.finished = false) :
      Posts frameError b (.bootstrapSettles i result) (b.books.track i response.capTable true)
        [.bootstrapReturned i response]
  | bootstrapLate (i : EntryId) (result : Except Thrown ℕ) (question : Question)
      (response : RpcReturnMessage) (found : b.questions[i]? = some question)
      (stands : question.stage = .bootstrapping)
      (encoded : result >>= encodeBootstrapResponseFrame question.questionId = .ok response)
      (late : ¬ b.retains question.questionId i ∨ question.entry.finished = true) :
      Posts frameError b (.bootstrapSettles i result) b.books [.bootstrapReturned i response]
  | bootstrapFailed (i : EntryId) (result : Except Thrown ℕ) (question : Question) (error : Thrown)
      (found : b.questions[i]? = some question) (stands : question.stage = .bootstrapping)
      (failed : result >>= encodeBootstrapResponseFrame question.questionId = .error error) :
      Posts frameError b (.bootstrapSettles i result) (b.books.forget question.questionId)
        [.bootstrapFailed i error]
  | completed (i : EntryId) (question : Question) (call : RpcCallRequest) (path : CallPath)
      (response : RpcCallResponse) (frame : RpcReturnMessage)
      (found : b.questions[i]? = some question) (owned : question.owner = .call call path)
      (stands : question.stage = .dispatched (.results response))
      (retained : b.retains question.questionId i) (unfinished : question.entry.finished = false)
      (encoded : frame = encodeReturnResultsFrame question.questionId response) :
      Posts frameError b (.completeCall i) (b.books.track i frame.capTable false)
        (shownReturn i frame (frameError frame) path)
  | responded (i : EntryId) (failure : HostFailure) (question : Question) (call : RpcCallRequest)
      (abi : RpcServerWasmHostAbi) (result : Except Thrown (Option RpcReturnMessage))
      (found : b.questions[i]? = some question) (owned : question.owner = .call call (.host abi))
      (stands : question.stage = .responding result) :
      Posts frameError b (.respond i failure) b.books (b.respond abi failure i question result)
  | evicted (i : EntryId) (question : Question) (found : b.questions[i]? = some question)
      (retained : b.retains question.questionId i) (drained : b.questions.any b.ready = false) :
      Posts frameError b (.evictionTimer i) ((b.books.endHolds i false).forget question.questionId)
        [.evicted i]
  | answerFinished (answerId : ℕ) (failure : HostFailure) (i : EntryId) (question : Question)
      (found : b.answerTable.lookup answerId = some i) (there : b.questions[i]? = some question)
      (unfinished : question.entry.finished = false) :
      Posts frameError b (.answerFinished answerId failure) b.books
        [.callerFinished answerId none, .hostReturned i .canceled (failure .canceled)]
  | closed : Posts frameError b .close b.books.close [.closed]

variable {frameError : RpcReturnMessage → Option Thrown} {b' : RpcServerBridge} {event : Event}
  {effects : List Effect} {q : Question}

theorem Posts.nothing (event : Event) : Posts frameError b event b.books [] :=
  .none event [] nofun

theorem neutral_invocation (i : EntryId) (stage : Stage) :
    ∀ effect ∈ invocation i stage, effect.neutral = true := by
  intro effect mem
  unfold invocation at mem
  split at mem
  · rw [List.mem_singleton.1 mem]
    rfl
  · cases mem

/-- The results of a call are tracked where its question is still there and unfinished. -/
theorem books_completeCall (i : EntryId) (q : Question) (response : RpcCallResponse) :
    (completeCall frameError b i q (.results response)).1.books =
      if ¬ b.retains q.questionId i ∨ q.entry.finished = true then b.books
      else b.books.track i (response.capTable.getD []) false := by
  have same : (b.updateEntry i (settleEntry (.results response))).retains q.questionId i ↔
      b.retains q.questionId i :=
    Iff.rfl
  unfold completeCall
  dsimp only
  simp only [same]
  split_ifs
  · rw [books_refund, books_settleEntry]
  · simp only [buildReturn, books_refund, books_trackReturnedCapabilities, books_scheduleEviction,
      books_settleEntry]
    rfl

@[simp] theorem books_completeStage {path : CallPath}
    (completed : RpcServerBridge × Except Thrown (Option RpcReturnMessage)) :
    (completeStage i path completed).1.books = completed.1.books := by
  cases path <;> exact books_setStage

/-- Answers without results, and answers to finished questions, post nothing. -/
theorem posts_completed {call : RpcCallRequest} {path : CallPath} {outcome : RpcDispatchOutcome}
    (found : b.questions[i]? = some q) (owned : q.owner = .call call path)
    (stands : q.stage = .dispatched outcome) :
    Posts frameError b (.completeCall i)
      (completeStage i path (completeCall frameError b i q outcome)).1.books
      (completeStage i path (completeCall frameError b i q outcome)).2 := by
  rw [books_completeStage]
  by_cases late : ¬ (b.updateEntry i (settleEntry outcome)).retains q.questionId i ∨
    q.entry.finished = true
  · unfold completeCall
    dsimp only
    simp only [if_pos late, books_refund, books_settleEntry]
    refine .none _ _ ?_
    cases path <;> simp [completeStage, frameReturn, builtReturn, pure, Except.pure, Effect.neutral]
  · have retained : b.retains q.questionId i := not_not.1 (not_or.1 late).1
    have unfinished : q.entry.finished = false := Bool.eq_false_iff.2 (not_or.1 late).2
    cases outcome with
    | exception reason releaseParamCaps =>
      unfold completeCall
      dsimp only
      simp only [if_neg late, buildReturn, books_refund, books_scheduleEviction, books_settleEntry]
      refine .none _ _ ?_
      cases path <;> simp [completeStage, frameReturn, builtReturn, pure, Except.pure, Functor.map,
        Except.map, Effect.neutral, encodeReturnExceptionFrame, RpcReturnMessage.capTable]
    | results response =>
      rw [books_completeCall, if_neg (by simp [retained, unfinished])]
      have posts : Posts frameError b (.completeCall i) _ _ :=
        .completed i q call path response _ found owned stands retained unfinished rfl
      unfold completeCall
      dsimp only
      simp only [if_neg late, buildReturn]
      cases failed : frameError (encodeReturnResultsFrame q.questionId response) with
      | none =>
        rw [failed] at posts
        cases path <;> exact posts
      | some error =>
        rw [failed] at posts
        cases path <;> exact posts

theorem encodeBootstrap_eq {result : Except Thrown ℕ} {questionId : ℕ} {response : RpcReturnMessage}
    (encoded : result >>= encodeBootstrapResponseFrame questionId = .ok response) :
    ∃ capabilityIndex, result = .ok capabilityIndex ∧ response =
      ⟨questionId, .results none [⟨CAP_DESCRIPTOR_TAG_SENDER_HOSTED, capabilityIndex⟩], true,
        false⟩ := by
  cases result with
  | error error => cases encoded
  | ok capabilityIndex =>
    change encodeBootstrapResponseFrame questionId capabilityIndex = .ok response at encoded
    unfold encodeBootstrapResponseFrame at encoded
    split_ifs at encoded
    cases encoded
    exact ⟨capabilityIndex, rfl, rfl⟩

theorem answerId_encodeBootstrap {result : Except Thrown ℕ} {questionId : ℕ}
    {response : RpcReturnMessage} (encoded : result >>= encodeBootstrapResponseFrame questionId =
      .ok response) :
    response.answerId = questionId := by
  obtain ⟨capabilityIndex, -, rfl⟩ := encodeBootstrap_eq encoded
  rfl

theorem posts_bootstrapReturned {result : Except Thrown ℕ} {response : RpcReturnMessage}
    (found : b.questions[i]? = some q) (stands : q.stage = .bootstrapping)
    (encoded : result >>= encodeBootstrapResponseFrame q.questionId = .ok response) :
    Posts frameError b (.bootstrapSettles i result) (b.completeBootstrapAnswer i response).books
      [.bootstrapReturned i response] := by
  rw [books_completeBootstrapAnswer found, answerId_encodeBootstrap encoded]
  split_ifs with late
  · exact .bootstrapLate i result q response found stands encoded late
  · exact .bootstrapReturned i result q response found stands encoded (not_not.1 (not_or.1 late).1)
      (Bool.eq_false_iff.2 (not_or.1 late).2)

theorem Steps.posts (steps : Steps frameError b event b' effects) :
    Posts frameError b event b'.books effects := by
  cases steps with
  | unchanged event next rejected effects idle =>
    exact .none event effects fun effect mem => (idle effect mem).neutral
  | exported dispatch capabilityIndex referenceCount index next isOpen fresh counted =>
    exact .exported dispatch capabilityIndex referenceCount index fresh counted
  | retained index referenceCount registered found counted =>
    exact .retained index referenceCount registered found counted
  | releasedUnknown event index referenceCount releases absent =>
    exact .releasedUnknown event index referenceCount absent
  | released event index referenceCount registered releases found counted enough =>
    exact .released event index referenceCount registered releases found counted enough
  | finishedUnknown event finish arrives absent =>
    exact .finishedUnknown event finish arrives absent
  | finished event finish i arrives found =>
    rw [books_deleteAnswer, books_releaseAnswerHeldCapabilities, books_finishEntry]
    exact .finished event finish i arrives found
  | called event call path byteLength arrives accepts =>
    rw [books_setStage, books_dispatchCall, books_acceptQuestion]
    exact .accepted event call.questionId byteLength _ accepts (neutral_invocation _ _)
  | bootstrapped event questionId arrives accepts =>
    rw [books_setStage, books_acceptQuestion]
    exact .accepted event questionId 0 [] accepts nofun
  | observed response accepts =>
    have there := b.question_acceptQuestion response.answerId 0 .observed
    have retained : (b.acceptQuestion response.answerId 0 .observed).retains response.answerId
        b.questions.length := AList.lookup_insert b.answerTable
    rw [books_completeBootstrapAnswer there, if_neg, books_acceptQuestion]
    · exact .observed response accepts
    · exact not_or.2 ⟨not_not_intro retained, nofun⟩
  | bootstrapReturned i result q response found stands encoded =>
    rw [books_setStage]
    exact posts_bootstrapReturned found stands encoded
  | bootstrapFailed i result q error found stands failed =>
    rw [books_setStage, books_failEntry, books_deleteAnswer]
    exact .bootstrapFailed i result q error found stands failed
  | handlerSettled i outcome q capabilityIndex parent =>
    rw [books_setStage]
    cases parent with
    | none => exact .nothing _
    | some parent =>
      rw [Option.elim_some, books_releasePipelineRef]
      exact .nothing _
  | canceled i q call path parent =>
    rw [books_setStage, books_releasePipelineRef]
    exact .nothing _
  | resumed i q call path parent transform target outcome =>
    rw [books_setStage, books_dispatchToAnswer]
    exact .none _ _ (neutral_invocation i _)
  | completed i q call path outcome found owned stands => exact posts_completed found owned stands
  | responded i failure q call abi result found owned stands =>
    rw [books_setStage]
    exact .responded i failure q call abi result found owned stands
  | timerStale =>
    rw [books_disarmTimer]
    exact .nothing _
  | timerDeferred =>
    rw [books_scheduleEviction, books_countAttempt, books_disarmTimer]
    exact .nothing _
  | timerForced i q found armed drained held =>
    rw [books_deleteAnswer, books_releaseAnswerHeldCapabilities, books_countAttempt,
      books_disarmTimer]
    exact .evicted i q found held drained
  | timerEvicted i q found armed drained held =>
    rw [books_deleteAnswer, books_releaseAnswerHeldCapabilities, books_disarmTimer]
    exact .evicted i q found held drained
  | answerFinished answerId failure i q found there unfinished =>
    rw [books_cancelEntry]
    exact .answerFinished answerId failure i q found there unfinished
  | closed =>
    rw [books_close]
    exact .closed

end RpcServerBridge

end CapnpDeno
