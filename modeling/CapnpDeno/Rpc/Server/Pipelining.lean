import CapnpDeno.Rpc.Server.AnswerHolds

/-!
# Promise pipelining

A pipelined call is dispatched to the capability that the answer of its target names.  An answer in
the table holds its capabilities, so a call that comes after it finds them registered; a call that
came before still waits when the answer settles, and nothing holds the capability for it until it
resumes.
-/

namespace CapnpDeno

/-- The capability and the references that the event releases. -/
def Event.release : Event → Option (ℕ × ℤ)
  | .releaseCapability capabilityIndex referenceCount => some (capabilityIndex, referenceCount)
  | .handleFrame (.release release)
  | .resumeFrame (.release release) => some (release.id, release.referenceCount)
  | _ => none

def Event.finish : Event → Option RpcFinishRequest
  | .handleFrame (.finish finish) | .resumeFrame (.finish finish) => some finish
  | _ => none

theorem Event.release_eq {event : Event} {c : ℕ} {n : ℤ} (releases : event.releases c n) :
    event.release = some (c, n) := by
  rcases releases with rfl | ⟨release, arrives, rfl, rfl⟩
  · rfl
  · cases event with
    | handleFrame | resumeFrame =>
      cases arrives
      rfl
    | _ => cases arrives

theorem Event.finish_eq {event : Event} {finish : RpcFinishRequest}
    (arrives : event.frame = some (.finish finish)) :
    event.finish = some finish := by
  cases event with
  | handleFrame | resumeFrame =>
    cases arrives
    rfl
  | _ => cases arrives

/-- Where a pipelined call stands once it has been dispatched to a capability of this server. -/
def RpcServerDispatch.dispatched (dispatch : RpcServerDispatch) (capabilityIndex : ℕ)
    (call : RpcCallRequest) (parent : EntryId) : Stage :=
  if dispatch.accepts call.interfaceId then .dispatching capabilityIndex (some parent)
  else
    .dispatched (.exception
      s!"interface mismatch for capability {capabilityIndex}: expected {dispatch.expected} got {call.interfaceId}"
      none)

namespace RpcServerBridge

/-- The release is of all references of the capability, and no answer holds it. -/
def releasesLast (registered : RegisteredDispatch) (c : ℕ) (release : ℕ × ℤ) : Bool :=
  release.1 = c ∧ 0 < release.2 ∧ registered.refCount = release.2 ∧ registered.answerHoldCount ≤ 0

/-- The answer of the question holds the capability, which does not outlast these holds. -/
def finishesLast (b : RpcServerBridge) (registered : RegisteredDispatch) (c : ℕ)
    (finish : RpcFinishRequest) : Bool :=
  (b.answerTable.lookup finish.questionId).any fun i =>
    0 < (b.heldAt i).count c ∧ ¬ registered.Outlasts finish.releaseResultCaps ((b.heldAt i).count c)

/-- The event is a release or a Finish that leaves the capability without reference and hold. -/
def takesLast (b : RpcServerBridge) (c : ℕ) (event : Event) : Bool :=
  (b.dispatchByCapability.lookup c).any fun registered =>
    event.release.any (releasesLast registered c) || event.finish.any (b.finishesLast registered c)

/-- The capability that a waiting call is about to be dispatched to. -/
def awaited (b : RpcServerBridge) (question : Question) : Option ℕ :=
  match question.stage with
  | .waiting parent transform =>
    if question.entry.aborted then none
    else
      (b.questions[parent]?.bind (·.entry.promise)).bind fun outcome =>
        (resolvePromisedAnswerCapability outcome transform).toOption
  | _ => none

/-- No capability that a waiting call is about to be dispatched to is left without reference and
hold. -/
def sparesPipelined (b : RpcServerBridge) (event : Event) : Bool :=
  b.questions.all fun question => (b.awaited question).all fun c => !b.takesLast c event

/-- The event settles the entry with results. -/
inductive Completes (b : RpcServerBridge) : Event → EntryId → RpcCallResponse → Prop
  | call (i : EntryId) (question : Question) (call : RpcCallRequest) (path : CallPath)
    (response : RpcCallResponse)
      (found : b.questions[i]? = some question) (owned : question.owner = .call call path)
      (stands : question.stage = .dispatched (.results response)) :
      Completes b (.completeCall i) i response
  | bootstrap (i : EntryId) (result : Except Thrown ℕ) (question : Question)
    (frame : RpcReturnMessage)
      (response : RpcCallResponse) (found : b.questions[i]? = some question)
      (stands : question.stage = .bootstrapping)
      (encoded : result >>= encodeBootstrapResponseFrame question.questionId = .ok frame)
      (results : outcomeOf frame = .results response) :
      Completes b (.bootstrapSettles i result) i response
  | observed (frame : RpcReturnMessage) (response : RpcCallResponse)
    (accepts : b.Accepts frame.answerId 0)
      (results : outcomeOf frame = .results response) :
      Completes b (.observeBootstrapResponse frame) b.questions.length response

/-- The event brings the call of the entry to the capability: its handler is called, unless it is of
another interface. -/
def Dispatches (frameError : RpcReturnMessage → Option Thrown) (b : RpcServerBridge) (event : Event)
    (i : EntryId) (dispatch : RpcServerDispatch) (c : ℕ) (call : RpcCallRequest)
    (parent : EntryId) : Prop :=
  (b.step frameError event).1.questions[i]?.map (·.stage) =
    some (dispatch.dispatched c call parent) ∧
    (dispatch.accepts call.interfaceId = true → .invoked i c ∈ (b.step frameError event).2)

/-- The capability is registered for the server. -/
def Serves (registry : Registry) (c : ℕ) (dispatch : RpcServerDispatch) : Prop :=
  ∃ registered, registry.lookup c = some registered ∧ registered.dispatch = dispatch

variable {frameError : RpcReturnMessage → Option Thrown} {b b' : RpcServerBridge} {event : Event}
  {effects : List Effect} {k : Books} {c : ℕ} {dispatch : RpcServerDispatch}

/-! ## What stays registered -/

/-- A step registers a capability for another server only where it was not registered. -/
theorem Posts.serves (posts : Posts frameError b event k effects)
    (serves : Serves b.dispatchByCapability c dispatch)
    (registered : (k.registry.lookup c).isSome = true) : Serves k.registry c dispatch := by
  obtain ⟨before, found, rfl⟩ := serves
  obtain ⟨after, there⟩ := Option.isSome_iff_exists.1 registered
  have inherited (inherits : Inherits b.dispatchByCapability k.registry) :
      Serves k.registry c before.dispatch := by
    obtain ⟨other, found', same⟩ := inherits c after there
    cases found.symm.trans found'
    exact ⟨after, there, same⟩
  cases posts with
  | none | releasedUnknown | finishedUnknown | accepted | bootstrapLate | bootstrapFailed
  | responded
  | answerFinished => exact ⟨before, found, rfl⟩
  | exported dispatch capabilityIndex referenceCount index fresh =>
    have other : c ≠ index := by
      rintro rfl
      rw [found] at fresh
      cases fresh
    refine ⟨before, ?_, rfl⟩
    rw [Table.lookup_insert, if_neg other, found]
  | retained index referenceCount registered found' => exact inherited (inherits_insert found' rfl)
  | released event index referenceCount registered releases found' =>
    exact inherited (inherits_settle found' rfl)
  | finished | evicted => exact inherited (inherits_releaseHolds _)
  | observed | bootstrapReturned | completed => exact inherited (inherits_tracked _)
  | closed => cases there

/-- A registered capability stays registered, but for the steps that take its last reference and
hold, the timers and `close`. -/
theorem Posts.stays (posts : Posts frameError b event k effects) (isOpen : event ≠ .close)
    (busy : b.questions.any b.ready = true) (spared : b.takesLast c event = false)
    (registered : (b.dispatchByCapability.lookup c).isSome = true) :
    (k.registry.lookup c).isSome = true := by
  obtain ⟨before, found⟩ := Option.isSome_iff_exists.1 registered
  cases posts with
  | none | releasedUnknown | finishedUnknown | accepted | bootstrapLate | bootstrapFailed
  | responded
  | answerFinished => exact registered
  | exported | retained =>
    rw [Table.lookup_insert]
    split_ifs
    · rfl
    · exact registered
  | released event index referenceCount other releases there counted enough =>
    by_cases here : c = index
    · subst here
      cases found.symm.trans there
      refine registered_settle.2 ?_
      have more : ¬ (before.refCount = referenceCount ∧ before.answerHoldCount ≤ 0) := by
        intro last
        simp [takesLast, found, Event.release_eq releases, releasesLast, counted, last] at spared
      unfold RegisteredDispatch.Kept
      dsimp only
      omega
    · rw [lookup_settle_other here]
      exact registered
  | finished event finish i arrives there =>
    refine (registered_releaseHolds _ found).2 ?_
    rw [books_heldAt]
    by_contra last
    have holds : c ∈ b.heldAt i := List.count_pos_iff.1 (Nat.pos_of_ne_zero (not_or.1 last).1)
    simp [takesLast, found, Event.finish_eq arrives, finishesLast, there, holds, (not_or.1 last).2]
      at spared
  | observed | bootstrapReturned | completed => exact (tracked_registers _).trans registered
  | evicted i q found' retained drained =>
    rw [busy] at drained
    cases drained
  | closed => exact absurd rfl isOpen

/-! ## Answers and those who wait for them -/

variable {i p : EntryId} {q : Question} {outcome : RpcDispatchOutcome}
  {transform : Option (List RpcPromisedAnswerOp)}

/-- The entry is over, with this outcome. -/
def HasOutcome (p : EntryId) (outcome : RpcDispatchOutcome) (i : EntryId) (q : Question) : Prop :=
  i = p → q.stage.ended = true ∧ q.entry.promise = some outcome ∧ q.entry.outcome = some outcome

theorem lasting_hasOutcome : Lasting (HasOutcome p outcome) where
  mild i q f mild holds here := by
    obtain ⟨ended, promise, stored⟩ := holds here
    exact ⟨ended, (mild q.entry).1.trans promise, (mild q.entry).2.1.trans stored⟩
  armed i q options holds here := by
    obtain ⟨ended, promise, stored⟩ := holds here
    unfold armTimer
    split
    · split_ifs <;> exact ⟨ended, promise, stored⟩
    · exact ⟨ended, promise, stored⟩
  pending i q stage before after holds here := by
    rw [(holds here).1] at before
    cases before
  settles i q f other stage settles before after holds here := by
    rw [(holds here).1] at before
    cases before
  fails i q error before holds here := by
    rw [(holds here).1] at before
    cases before
  responds i q ended holds here := ⟨rfl, (holds here).2⟩

/-- An aborted entry stays aborted. -/
theorem lasting_aborted : Lasting fun j q => j = i → q.entry.aborted = true where
  mild j q f mild holds here := (mild q.entry).2.2.2.2.2 (holds here)
  armed j q options holds here := by
    unfold armTimer
    split
    · split_ifs <;> exact holds here
    · exact holds here
  pending j q stage before after holds := holds
  settles j q f other stage settles before after holds here :=
    (settles q.entry).2.2.2.trans (holds here)
  fails j q error before holds := holds
  responds j q ended holds := holds

/-- The call waits for the answer of the entry, and has not been canceled. -/
def Awaits (b : RpcServerBridge) (i p : EntryId) (transform : Option (List RpcPromisedAnswerOp)) :
    Prop :=
  ∃ q, b.questions[i]? = some q ∧ q.stage = .waiting p transform ∧ q.entry.aborted = false

/-- Nobody starts to wait for an entry that has its outcome. -/
theorem waiting_before (has : b.All (HasOutcome p outcome)) (within : p < b.questions.length)
    (shape : Shape b event b') :
    b'.AllTasks fun i task => task.stage = .waiting p transform →
      ∃ q, b.questions[i]? = some q ∧ q.stage = .waiting p transform := by
  have start : b.AllTasks fun i task => task.stage = .waiting p transform →
      ∃ q, b.questions[i]? = some q ∧ q.stage = .waiting p transform :=
    fun i q found stands => ⟨q, found, stands⟩
  cases shape with
  | quiet quiet => exact start.quiet quiet
  | counted => exact start
  | removed quiet => exact All.congr (start.quiet quiet) rfl
  | moved i q stage quiet there same entered =>
    refine start.moved quiet there fun _ => ?_
    rintro rfl
    cases entered
  | settled i q stage quiet found before after =>
    refine All.congr (start.moved quiet found fun _ => ?_) rfl
    rcases after with rfl | ⟨result, call, abi, rfl, host⟩ <;> exact nofun
  | failed i q quiet found =>
    exact AllTasks.moved (b := b.deleteAnswer q.questionId) start quiet found fun _ => nofun
  | accepted questionId byteLength owner stage accepts quiet owned waits =>
    refine start.accepted quiet fun stands => ?_
    obtain ⟨call, path, target, calls, rfl, aimed, found, pending⟩ := waits p transform stands
    have there : (b.acceptQuestion call.questionId byteLength owner).questions[p]? =
        some b.questions[p] :=
      (List.getElem?_append_left within).trans (List.getElem?_eq_getElem within)
    rw [there, Option.bind_some, (has p _ (List.getElem?_eq_getElem within) rfl).2.2] at pending
    cases pending
  | observed questionId accepts quiet => exact start.observed quiet nofun
  | closed => exact All.congr (start.quiet (quiet_closeEntries b _)) rfl

theorem awaits_before (has : b.All (HasOutcome p outcome)) (within : p < b.questions.length)
    (steps : Steps frameError b event b' effects) (awaits : b'.Awaits i p transform) :
    b.Awaits i p transform := by
  obtain ⟨q', found', stands', live⟩ := awaits
  obtain ⟨q, found, stands⟩ := waiting_before has within steps.shape i q' found' stands'
  refine ⟨q, found, stands, ?_⟩
  by_contra aborted
  have canceled : b.All fun j q => j = i → q.entry.aborted = true := by
    rintro j other there rfl
    cases found.symm.trans there
    simpa using aborted
  have old : i < b.questions.length := (List.getElem?_eq_some_iff.1 found).1
  have still :=
    canceled.lasting lasting_aborted (fun _ last => absurd last old.ne') steps i q' found' rfl
  rw [live] at still
  cases still

/-- A call that waits for a settled answer is about to resume. -/
theorem awaited_eq (has : b.All (HasOutcome p outcome)) (within : p < b.questions.length)
    (stands : q.stage = .waiting p transform) (live : q.entry.aborted = false) :
    b.awaited q = (resolvePromisedAnswerCapability outcome transform).toOption ∧
    b.ready q = true := by
  have there := List.getElem?_eq_getElem within
  have promise := (has p _ there rfl).2.1
  refine ⟨?_, ?_⟩
  · simp [awaited, stands, live, there, promise]
  · simp [ready, stands, there, promise]

/-- What an entry in the table holds after its end, it held before the step. -/
theorem Posts.held (posts : Posts frameError b event k effects) (placed : b.Placed)
    (has : b.All (HasOutcome p outcome)) (within : p < b.questions.length) {questionId : ℕ}
    (found : k.answers.lookup questionId = some p) :
    b.answerTable.lookup questionId = some p ∧ k.heldAt p = b.heldAt p := by
  have unended {i : EntryId} {q : Question} (there : b.questions[i]? = some q)
      (before : q.stage.ended = false) :
      p ≠ i := by
    rintro rfl
    rw [(has p q there rfl).1] at before
    cases before
  have left {i : EntryId} {other : ℕ} (there : b.answerTable.lookup other = some i)
      (found : (b.answerTable.erase other).lookup questionId = some p) (releaseWireRefs : Bool) :
      b.answerTable.lookup questionId = some p ∧ (b.books.endHolds i releaseWireRefs).heldAt p =
      b.heldAt p := by
    rw [Table.lookup_erase] at found
    split_ifs at found with gone
    have apart : p ≠ i := by
      rintro rfl
      exact gone (placed.apart questionId other p found there)
    exact ⟨found, (Books.heldAt_endHolds apart).trans (b.books_heldAt p)⟩
  have old {questionId' : ℕ}
      (found : (b.answerTable.insert questionId' b.questions.length).lookup questionId = some p) :
      b.answerTable.lookup questionId = some p := by
    rw [Table.lookup_insert] at found
    split_ifs at found
    · cases found
      exact absurd within (lt_irrefl _)
    · exact found
  have same := b.books_heldAt p
  cases posts with
  | none | exported | retained | releasedUnknown | released | finishedUnknown | bootstrapLate
  | responded
  | answerFinished => exact ⟨found, same⟩
  | finished event finish i arrives there => exact left there found finish.releaseResultCaps
  | accepted event other =>
    unfold Books.accept at found
    rw [books_length] at found
    exact ⟨old found, Books.heldAt_accept.trans same⟩
  | observed response =>
    unfold Books.track Books.accept at found
    rw [books_length] at found
    exact ⟨old found, (Books.heldAt_track within.ne).trans (Books.heldAt_accept.trans same)⟩
  | bootstrapReturned i result q response there stands =>
    exact ⟨found, (Books.heldAt_track (unended there (by rw [stands]; rfl))).trans same⟩
  | bootstrapFailed i result q error there =>
    unfold Books.forget at found
    rw [Table.lookup_erase] at found
    split_ifs at found
    exact ⟨found, same⟩
  | completed i q call path response frame there owned stands =>
    exact ⟨found, (Books.heldAt_track (unended there (by rw [stands]; rfl))).trans same⟩
  | evicted i q there retained => exact left retained found false
  | closed => cases found

/-! ## The capability of a settled answer -/

/-- The entry has its outcome.  Where the waiting calls are spared and while the bridge is open, the
capability is registered for every call that waits for it; and where the answer was granted, it
holds the capability while it is in the table. -/
structure Pledged (p : EntryId) (outcome : RpcDispatchOutcome) (c : ℕ)
    (dispatch : RpcServerDispatch) (spared granted : Prop) (b : RpcServerBridge) : Prop where
  covered : b.Covered
  within : p < b.questions.length
  settled : b.All (HasOutcome p outcome)
  awaited : spared → b.closed = false → ∀ i transform, b.Awaits i p transform →
    resolvePromisedAnswerCapability outcome transform = .ok c →
    Serves b.dispatchByCapability c dispatch
  held : granted → ∀ questionId, b.answerTable.lookup questionId = some p →
    c ∈ b.heldAt p ∧ Serves b.dispatchByCapability c dispatch

theorem Pledged.step {spared granted : Prop}
    (pledged : b.Pledged p outcome c dispatch spared granted)
    (spares : spared → b.sparesPipelined event = true) :
    (b.step frameError event).1.Pledged p outcome c dispatch spared granted := by
  have steps : Steps frameError b event _ _ := b.steps_of_step event
  have posts := steps.posts
  have covered := pledged.covered.steps steps
  refine ⟨covered, pledged.within.trans_le steps.shape.length_le, ?_, ?_, ?_⟩
  · exact pledged.settled.lasting lasting_hasOutcome (fun _ last => absurd last pledged.within.ne')
      steps
  · intro spared isOpen i transform awaits selects
    have before := awaits_before pledged.settled pledged.within steps awaits
    have serves := pledged.awaited spared (steps.shape.stillOpen isOpen) i transform before selects
    obtain ⟨q, found, stands, live⟩ := before
    obtain ⟨awaited, ready⟩ := awaited_eq pledged.settled pledged.within stands live
    have left := List.all_eq_true.1 (spares spared) q (List.mem_of_getElem? found)
    rw [awaited, selects] at left
    have busy : b.questions.any b.ready = true :=
      List.any_eq_true.2 ⟨q, List.mem_of_getElem? found, ready⟩
    refine posts.serves serves (posts.stays ?_ busy (by simpa using left) ?_)
    · rintro rfl
      have open' : b.closed = false := steps.shape.stillOpen isOpen
      simp [RpcServerBridge.step, open', close] at isOpen
    · obtain ⟨registered, there, -⟩ := serves
      rw [there]
      rfl
  · intro grants questionId found
    obtain ⟨found', same⟩ := posts.held pledged.covered.placed pledged.settled pledged.within found
    obtain ⟨mem, serves⟩ := pledged.held grants questionId found'
    rw [books_heldAt] at same
    rw [same]
    refine ⟨mem, posts.serves serves (covered.registered found ?_)⟩
    rw [same]
    exact mem

/-! ### The step that settles it -/

variable {response : RpcCallResponse}

theorem step_observed {frame : RpcReturnMessage} (accepts : b.Accepts frame.answerId 0) :
    (b.step frameError (.observeBootstrapResponse frame)).1 =
      (b.acceptQuestion frame.answerId 0 .observed).completeBootstrapAnswer b.questions.length
        frame := by
  have accepted : b.refusal frame.answerId 0 = none := accepts
  simp only [step, observeBootstrapResponse, registerAnswerEntry, accepted]

theorem Completes.settled (completes : b.Completes event p response) :
    p < (b.step frameError event).1.questions.length ∧
      (b.step frameError event).1.All (HasOutcome p (.results response)) := by
  have all (c : RpcServerBridge) : c.All fun _ _ => True := fun _ _ _ => trivial
  have steps : Steps frameError b event _ _ := b.steps_of_step event
  have shape := steps.shape
  cases completes with
  | call _ q call path _ found owned stands =>
    refine ⟨(List.getElem?_eq_some_iff.1 found).1.trans_le shape.length_le, ?_⟩
    obtain ⟨f, settles, same⟩ := completeCall_entries frameError b p q (.results response)
    simp only [step, atStage, found, stands, owned]
    cases path <;>
      exact All.goesOn (all b) same (fun j q other _ here => absurd here other) fun q _ _ _ =>
        ⟨rfl, (settles q.entry).1, (settles q.entry).2.1⟩
  | bootstrap _ result q frame _ found stands encoded results =>
    refine ⟨(List.getElem?_eq_some_iff.1 found).1.trans_le shape.length_le, ?_⟩
    obtain ⟨f, settles, same⟩ := completeBootstrapAnswer_entries b p frame
    rw [results] at settles
    simp only [step, atStage, found, stands, finishBootstrap, encoded]
    exact All.goesOn (all b) same (fun j q other _ here => absurd here other) fun q _ _ _ =>
      ⟨rfl, (settles q.entry).1, (settles q.entry).2.1⟩
  | observed frame _ accepts results =>
    obtain ⟨f, settles, same⟩ := completeBootstrapAnswer_entries
      (b.acceptQuestion frame.answerId 0 .observed) b.questions.length frame
    rw [results] at settles
    rw [step_observed accepts]
    refine ⟨?_, (all _).changed same (fun j q other _ here => absurd here other) fun q found _ _ =>
      ?_⟩
    · rw [same, length_updateEntry]
      exact (List.getElem?_eq_some_iff.1 (b.question_acceptQuestion frame.answerId 0 .observed)).1
    · rw [b.question_acceptQuestion frame.answerId 0 .observed] at found
      cases found
      exact ⟨rfl, (settles _).1, (settles _).2.1⟩

/-- The results are tracked where the question has not been finished and its entry is in the
table. -/
theorem Completes.tracks (completes : b.Completes event p response) (covered : b.Covered)
    (unfinished : ∀ q, b.questions[p]? = some q → q.entry.finished = false) {questionId : ℕ}
    (found : (b.step frameError event).1.answerTable.lookup questionId = some p) :
    ∃ k bootstrap, (b.step frameError event).1.books =
      Books.track k p (response.capTable.getD []) bootstrap ∧
      p < k.held.length ∧ k.heldAt p = [] := by
  have bare {q : Question} (there : b.questions[p]? = some q) (before : q.stage.ended = false) :
      p < b.books.held.length ∧ b.books.heldAt p = [] := by
    rw [books_length, books_heldAt]
    exact ⟨(List.getElem?_eq_some_iff.1 there).1, heldAt_pending covered.sound there before⟩
  have current {q : Question} (there : b.questions[p]? = some q) {bootstrap : Bool}
      (same : (b.step frameError event).1.books =
        if ¬ b.retains q.questionId p ∨ q.entry.finished = true then b.books
        else b.books.track p (response.capTable.getD []) bootstrap) :
      (b.step frameError event).1.books =
      b.books.track p (response.capTable.getD []) bootstrap := by
    have answers : (b.step frameError event).1.books.answers = b.answerTable := by
      rw [same]
      split_ifs <;> rfl
    rw [← books_answers, answers] at found
    rw [same, if_neg]
    rw [unfinished q there]
    exact not_or.2 ⟨fun gone => covered.placed.absent there gone questionId found,
      Bool.false_ne_true⟩
  cases completes with
  | call _ q call path _ there owned stands =>
    refine ⟨b.books, false, current there ?_, bare there (by rw [stands]; rfl)⟩
    simp only [step, atStage, there, stands, owned]
    rw [books_completeStage, books_completeCall]
  | bootstrap _ result q frame _ there stands encoded results =>
    obtain ⟨capabilityIndex, -, rfl⟩ := encodeBootstrap_eq encoded
    cases results
    refine ⟨b.books, true, current there ?_, bare there (by rw [stands]; rfl)⟩
    simp only [step, atStage, there, stands, finishBootstrap, encoded]
    rw [books_setStage, books_completeBootstrapAnswer there]
    rfl
  | observed frame _ accepts results =>
    have there := b.question_acceptQuestion frame.answerId 0 .observed
    have retained : (b.acceptQuestion frame.answerId 0 .observed).retains frame.answerId
        b.questions.length :=
      AList.lookup_insert b.answerTable
    have capTable : frame.capTable = response.capTable.getD [] := by
      unfold outcomeOf at results
      unfold RpcReturnMessage.capTable
      cases kind : frame.kind with
      | results content capTable =>
        rw [kind] at results
        cases results
        rfl
      | exception | canceled =>
        rw [kind] at results
        cases results
    refine ⟨b.books.accept frame.answerId, true, ?_, ?_, ?_⟩
    · rw [step_observed accepts, books_completeBootstrapAnswer there, if_neg, books_acceptQuestion,
        capTable]
      exact not_or.2 ⟨not_not_intro retained, Bool.false_ne_true⟩
    · unfold Books.accept
      rw [List.length_append, books_length]
      exact Nat.lt_succ_self _
    · rw [Books.heldAt_accept, books_heldAt]
      unfold heldAt
      rw [List.getElem?_eq_none le_rfl]
      rfl

/-- And then the registered capabilities that they name as hosted here are held. -/
theorem Completes.held (completes : b.Completes event p response) (covered : b.Covered)
    (unfinished : ∀ q, b.questions[p]? = some q → q.entry.finished = false)
    {descriptor : RpcCapDescriptor} (mem : descriptor ∈ response.capTable.getD [])
    (hosted : descriptor.tag = CAP_DESCRIPTOR_TAG_SENDER_HOSTED)
    (registered : ((b.step frameError event).1.dispatchByCapability.lookup descriptor.id).isSome =
      true)
    {questionId : ℕ} (found : (b.step frameError event).1.answerTable.lookup questionId = some p) :
    descriptor.id ∈ (b.step frameError event).1.heldAt p := by
  obtain ⟨k, bootstrap, same, within, fresh⟩ := completes.tracks covered unfinished found
  rw [← books_registry, same] at registered
  rw [← books_heldAt, same, Books.heldAt_track_self within fresh]
  exact mem_tracked mem hosted ((tracked_registers _).symm.trans registered)

/-! ## Dispatch -/

theorem dispatchToCapability_serves (serves : Serves b.dispatchByCapability c dispatch)
    (call : RpcCallRequest) :
    b.dispatchToCapability c call (some p) = dispatch.dispatched c call p := by
  obtain ⟨registered, found, rfl⟩ := serves
  unfold dispatchToCapability
  rw [found]
  rfl

theorem dispatchToAnswer_serves (serves : Serves b.dispatchByCapability c dispatch)
    (call : RpcCallRequest) (selects : resolvePromisedAnswerCapability outcome transform = .ok c) :
    (b.dispatchToAnswer call p outcome transform).2 = dispatch.dispatched c call p := by
  unfold dispatchToAnswer
  rw [selects]
  dsimp only
  rw [dispatchToCapability_serves serves]
  unfold RpcServerDispatch.dispatched
  split_ifs <;> rfl

/-- The handler is called when the capability accepts the interface. -/
theorem invocation_dispatched {call : RpcCallRequest}
    (accepts : dispatch.accepts call.interfaceId = true) :
    .invoked i c ∈ invocation i (dispatch.dispatched c call p) := by
  unfold RpcServerDispatch.dispatched
  rw [if_pos accepts]
  exact List.mem_singleton_self _

theorem stage_setStage {stage : Stage} (within : i < b.questions.length) :
    (b.setStage i stage).questions[i]?.map (·.stage) = some stage := by
  rw [question_setStage, if_pos rfl, List.getElem?_eq_getElem within]
  rfl

theorem Pledged.resumes {granted : Prop} {call : RpcCallRequest} {path : CallPath}
    (pledged : b.Pledged p outcome c dispatch True granted)
    (selects : resolvePromisedAnswerCapability outcome transform = .ok c)
    (isOpen : b.closed = false) (found : b.questions[i]? = some q)
    (owned : q.owner = .call call path) (stands : q.stage = .waiting p transform)
    (live : q.entry.aborted = false) :
    b.Dispatches frameError (.resumePipelined i) i dispatch c call p := by
  have there := List.getElem?_eq_getElem pledged.within
  have promise := (pledged.settled p _ there rfl).2.1
  have serves := pledged.awaited trivial isOpen i transform ⟨q, found, stands, live⟩ selects
  have entered : (b.dispatchToAnswer call p outcome transform).2 = dispatch.dispatched c call p :=
    dispatchToAnswer_serves serves call selects
  have quiet := (quiet_dispatchToAnswer b call p outcome transform).1
  have resumed : b.step frameError (.resumePipelined i) =
      enter i (b.dispatchToAnswer call p outcome transform) := by
    simp [RpcServerBridge.step, atStage, found, stands, owned, live, there, promise]
  unfold Dispatches
  rw [resumed]
  unfold enter
  dsimp only
  rw [entered]
  refine ⟨stage_setStage ?_, invocation_dispatched⟩
  rw [quiet.length]
  exact (List.getElem?_eq_some_iff.1 found).1

/-- An event brings one call. -/
theorem calls_unique {call call' : RpcCallRequest} {path path' : CallPath}
    {byteLength byteLength' : ℕ} (calls : event.calls call path byteLength)
    (calls' : event.calls call' path' byteLength') : call = call' := by
  rcases calls with ⟨arrives, -⟩ | ⟨abi, record, failure, rfl, -, decoded, -⟩
  · rcases calls' with ⟨arrives', -⟩ | ⟨abi, record, failure, rfl, -⟩
    · cases arrives.symm.trans arrives'
      rfl
    · cases arrives
  · rcases calls' with ⟨arrives', -⟩ | ⟨_, _, _, same, -, decoded', -⟩
    · cases arrives'
    · cases same
      cases decoded.symm.trans decoded'
      rfl

/-- An accepted call that aims at a settled answer goes on with its outcome. -/
theorem dispatchCall_settled {call : RpcCallRequest} {byteLength target : ℕ} {owner : Owner}
    (settled : b.All (HasOutcome p outcome)) (within : p < b.questions.length)
    (accepts : b.Accepts call.questionId byteLength)
    (aims : call.target = .promisedAnswer target transform)
    (found : b.answerTable.lookup target = some p) :
    (b.acceptQuestion call.questionId byteLength owner).dispatchCall call =
      ((b.acceptQuestion call.questionId byteLength owner).takePipelineRef p).dispatchToAnswer call
        p outcome transform := by
  have other : target ≠ call.questionId := by
    rintro rfl
    rw [(accepts_iff.1 accepts).2.1] at found
    cases found
  have kept : (b.acceptQuestion call.questionId byteLength owner).answerTable.lookup target =
      some p := by
    change (b.answerTable.insert call.questionId b.questions.length).lookup target = some p
    rw [Table.lookup_insert, if_neg other, found]
  have there : (b.acceptQuestion call.questionId byteLength owner).questions[p]? =
      some b.questions[p] :=
    (List.getElem?_append_left within).trans (List.getElem?_eq_getElem within)
  have stored := (settled p _ (List.getElem?_eq_getElem within) rfl).2.2
  have taken :
      ((b.acceptQuestion call.questionId byteLength owner).takePipelineRef p).questions[p]?.bind
      (·.entry.outcome) = some outcome := by
    unfold takePipelineRef
    rw [question_updateEntry, if_pos rfl, there]
    exact stored
  unfold dispatchCall
  rw [aims]
  dsimp only
  unfold dispatchPipelinedCall
  rw [kept]
  dsimp only
  rw [taken]

theorem Pledged.arrives {spared : Prop} {call : RpcCallRequest} {path : CallPath}
    {byteLength target : ℕ} (pledged : b.Pledged p outcome c dispatch spared True)
    (selects : resolvePromisedAnswerCapability outcome transform = .ok c)
    (calls : event.calls call path byteLength)
    (aims : call.target = .promisedAnswer target transform)
    (found : b.answerTable.lookup target = some p)
    (accepted : .accepted b.questions.length call.questionId ∈ (b.step frameError event).2) :
    b.Dispatches frameError event b.questions.length dispatch c call p := by
  have serves := (pledged.held trivial target found).2
  have steps : Steps frameError b event _ _ := b.steps_of_step event
  unfold Dispatches
  generalize (b.step frameError event).1 = b' at steps ⊢
  generalize (b.step frameError event).2 = effects at steps accepted ⊢
  cases steps with
  | called event call' path' byteLength' arrives accepts =>
    cases calls_unique calls arrives
    have goesOn : (b.acceptQuestion call.questionId byteLength' (.call call path')).dispatchCall
        call = _ :=
      dispatchCall_settled pledged.settled pledged.within accepts aims found
    have serves' :
        Serves ((b.acceptQuestion call.questionId byteLength' (.call call path')).takePipelineRef
        p).dispatchByCapability c dispatch := serves
    have entered : (_ : RpcServerBridge × Stage).2 = dispatch.dispatched c call p :=
      dispatchToAnswer_serves serves' call selects
    have quiet :=
      (quiet_dispatchCall (b.acceptQuestion call.questionId byteLength' (.call call path')) call).1
    refine ⟨?_, fun invokes => ?_⟩
    · rw [stage_setStage, goesOn, entered]
      rw [quiet.length]
      exact (List.getElem?_eq_some_iff.1
        (b.question_acceptQuestion call.questionId byteLength' _)).1
    · rw [goesOn, entered]
      exact List.mem_cons_of_mem _ (invocation_dispatched invokes)
  | bootstrapped event questionId arrives =>
    rcases calls with ⟨arrives', -⟩ | ⟨_, _, _, rfl, -⟩
    · cases arrives.symm.trans arrives'
    · cases arrives
  | unchanged event next rejected effects idle => exact absurd (idle _ accepted) id
  | observed | resumed | completed
  | responded => rcases calls with ⟨arrives, -⟩ | ⟨_, _, _, same, -⟩ <;> contradiction
  | _ => simp at accepted

theorem run_covered (frameError : RpcReturnMessage → Option Thrown)
    (options : RpcServerBridgeOptions) (events : List Event) :
    (Machine.final (step frameError) (initial options) events).Covered :=
  Machine.invariant (fun b event covered => covered.steps (b.steps_of_step event)) events
    (covered_initial options)

/-- Once an answer has settled with results that name a registered capability, a call that waits for
it is dispatched to that capability when it resumes, where no release and no Finish has since left a
capability that a waiting call was about to be dispatched to without reference and hold.  A call
that comes while the answer is in the table is dispatched to it at once, whatever was released and
finished, where the question had not been finished before the answer settled and the capability is
hosted here. -/
theorem pipelined_calls_dispatched (frameError : RpcReturnMessage → Option Thrown)
    (options : RpcServerBridgeOptions) (before after : List Event) (completion : Event)
    (p : EntryId) (response : RpcCallResponse)
    (completes : (Machine.final (step frameError) (initial options) before).Completes completion p
      response) :
    let b₀ := Machine.final (step frameError) (initial options) before
    let b₁ := Machine.final (step frameError) (initial options) (before ++ [completion])
    let b := Machine.final (step frameError) b₁ after
    ∀ transform c registered, resolvePromisedAnswerCapability (.results response) transform =
      .ok c →
      b₁.dispatchByCapability.lookup c = some registered → b.closed = false →
      (Machine.Always (step frameError) (fun b event => b.sparesPipelined event = true) b₁ after →
        ∀ i q call path, b.questions[i]? = some q → q.owner = .call call path →
          q.stage = .waiting p transform → q.entry.aborted = false →
          b.Dispatches frameError (.resumePipelined i) i registered.dispatch c call p) ∧
      ((∃ descriptor ∈ response.capTable.getD [],
          descriptor.tag = CAP_DESCRIPTOR_TAG_SENDER_HOSTED ∧ descriptor.id = c) →
        (∀ q, b₀.questions[p]? = some q → q.entry.finished = false) →
        ∀ (event : Event) call path byteLength target, event.calls call path byteLength →
          call.target = .promisedAnswer target transform → b.answerTable.lookup target = some p →
          .accepted b.questions.length call.questionId ∈ (b.step frameError event).2 →
          b.Dispatches frameError event b.questions.length registered.dispatch c call p) := by
  intro b₀ b₁ b transform c registered selects found isOpen
  have next : b₁ = (b₀.step frameError completion).1 := Machine.final_append _ _ _
  have start (spared granted : Prop) (held : granted → ∀ questionId,
      b₁.answerTable.lookup questionId = some p → c ∈ b₁.heldAt p) :
      b₁.Pledged p (.results response) c registered.dispatch spared granted := by
    have settled : p < b₁.questions.length ∧ b₁.All (HasOutcome p (.results response)) := by
      rw [next]
      exact completes.settled
    have serves : Serves b₁.dispatchByCapability c registered.dispatch := ⟨registered, found, rfl⟩
    exact ⟨run_covered frameError options _, settled.1, settled.2, fun _ _ _ _ _ _ => serves,
      fun grants questionId there => ⟨held grants questionId there, serves⟩⟩
  constructor
  · intro spares i q call path there owned stands live
    have pledged : b.Pledged p (.results response) c registered.dispatch True False :=
      spares.invariant (fun b event spares pledged => pledged.step fun _ => spares)
        (start True False False.elim)
    exact pledged.resumes selects isOpen there owned stands live
  · rintro ⟨descriptor, mem, hosted, rfl⟩ unfinished event call path byteLength target calls aims
      there accepted
    have held (questionId : ℕ) (retained : b₁.answerTable.lookup questionId = some p) :
        descriptor.id ∈ b₁.heldAt p := by
      rw [next] at found retained ⊢
      exact completes.held (run_covered frameError options before) unfinished mem hosted
        (by rw [found]; rfl) retained
    have pledged : b.Pledged p (.results response) descriptor.id registered.dispatch False True :=
      Machine.invariant (fun b event pledged => pledged.step False.elim) after
        (start False True fun _ => held)
    exact pledged.arrives selects calls aims there accepted

/-! ## Finish before the waiting call resumes -/

/-- The answer names capability 1. -/
def namingOne : RpcCallResponse := ⟨none, some [⟨CAP_DESCRIPTOR_TAG_SENDER_HOSTED, 1⟩], none, none⟩

/-- A call and a call pipelined on it; the handler of the first exports capability 1 and answers
with it. -/
def pipelinedCall : List Event :=
  [.exportCapability ⟨7, none⟩ none 1, .handleFrame (.call ⟨1, 7, .importedCap 0⟩ 8),
    .handleFrame (.call ⟨2, 9, .promisedAnswer 1 none⟩ 8), .exportCapability ⟨9, none⟩ none 0,
    .handlerSettles 0 (.results namingOne)]

/-- The caller finishes the first call and keeps its result, and the second is dispatched to it. -/
theorem pipelined_calls_dispatched_kept :
    (Machine.final (step fun _ => none) (initial .default)
      (pipelinedCall ++ [.completeCall 0] ++ [.handleFrame (.finish ⟨1, false⟩)])).Dispatches
        (fun _ => none)
      (.resumePipelined 1) 1 ⟨9, none⟩ 1 ⟨2, 9, .promisedAnswer 1 none⟩ 0 := by
  rw [Machine.final_append]
  have completes : (Machine.final (step fun _ => none) (initial .default) pipelinedCall).Completes
      (.completeCall 0) 0 namingOne := .call 0 _ _ .frame _ rfl rfl rfl
  have spares : Machine.Always (step fun _ => none) (fun b event => b.sparesPipelined event = true)
      (Machine.final (step fun _ => none) (initial .default) (pipelinedCall ++ [.completeCall 0]))
      [.handleFrame (.finish ⟨1, false⟩)] := by decide
  have dispatched :=
    (pipelined_calls_dispatched (fun _ => none) .default pipelinedCall _ (.completeCall 0) 0
    namingOne completes none 1 ⟨⟨9, none⟩, 1, false, 1⟩ rfl rfl rfl).1 spares
  exact dispatched 1 _ _ .frame rfl rfl rfl rfl

/-- Or the caller releases the result with its Finish, as the last reference: the second call, which
is neither finished nor canceled, fails. -/
theorem finish_takes_pipelined_capability :
    let b₀ := Machine.final (step fun _ => none) (initial .default) pipelinedCall
    let b₁ := Machine.final (step fun _ => none) (initial .default)
      (pipelinedCall ++ [.completeCall 0])
    let b := Machine.final (step fun _ => none) b₁ [.handleFrame (.finish ⟨1, true⟩)]
    b₀.retains 1 0 ∧ b₀.Completes (.completeCall 0) 0 namingOne ∧
      resolvePromisedAnswerCapability (.results namingOne) none = .ok 1 ∧
      (b₁.dispatchByCapability.lookup 1).isSome = true ∧ b.closed = false ∧
      (∃ q, b.questions[1]? = some q ∧ q.stage = .waiting 0 none ∧ q.entry.finished = false ∧
        q.entry.aborted = false) ∧
      (b.step (fun _ => none) (.resumePipelined 1)).1.questions[1]?.map (·.stage) =
        some (.dispatched (.exception "unknown capability index: 1" none)) := by
  refine ⟨rfl, .call 0 _ _ .frame _ rfl rfl rfl, rfl, rfl, rfl, ⟨_, rfl, rfl, rfl, rfl⟩, ?_⟩
  rfl

end RpcServerBridge

end CapnpDeno
