import CapnpDeno.Rpc.Server.WaitGraph
import CapnpDeno.Rpc.Server.WireReferences

/-!
# One terminal Return for each call

How often each call has been answered, told from the effects of a run.  A call is answered when its
computation ends, once, unless it was canceled: on the frame path a canceled call gets no Return,
and on the host-call path the listener that cancels it and the responder both answer.  Every
computation ends, but for a call that waits on its own answer.
-/

namespace CapnpDeno

/-- The answers given so far, and which call somebody tried to answer once more. -/
structure Answers where
  given : EntryId → ℕ
  again : EntryId → Bool

namespace Answers

def empty : Answers := ⟨fun _ => 0, fun _ => false⟩

def attempt (answers : Answers) (i : EntryId) (taken : Bool) : Answers :=
  ⟨Function.update answers.given i (answers.given i + if taken then 1 else 0),
    Function.update answers.again i (answers.again i || 0 < answers.given i)⟩

def note (answers : Answers) : Effect → Answers
  | .returned i _ => answers.attempt i true
  | .hostReturned i _ error => answers.attempt i error.isNone
  | _ => answers

end Answers

/-- The effect is no answer to a call. -/
def Effect.silent : Effect → Bool
  | .returned _ _ | .hostReturned _ _ _ => false
  | _ => true

/-- The last of the calls of the WASM peer's interface does not throw. -/
def lastTaken (failure : HostFailure) (attempts : List HostReturn) : Bool :=
  attempts.getLast?.all fun attempt => (failure attempt).isNone

namespace RpcServerBridge

/-- The Return that the responder of a host call hands over. -/
def finalFrame (question : Question) (result : Option RpcReturnMessage) : RpcReturnMessage :=
  result.getD (canceledReturn question.questionId question.entry.outcome)

/-- The outcome has a Return that can be encoded. -/
def encodes (frameError : RpcReturnMessage → Option Thrown) (questionId : ℕ) :
    RpcDispatchOutcome → Bool
  | .exception _ _ => true
  | .results response => (frameError (encodeReturnResultsFrame questionId response)).isNone

/-- A call that comes to its end is in the table, unfinished and can be answered, or it is a host
call that was finished, or one of the frame path that the listener has answered; the WASM peer takes
the last answer of the responder; and the listener cancels no call but a pending one of the frame
path, or in vain. -/
def answersOnce (frameError : RpcReturnMessage → Option Thrown) (s : RpcServerBridge × Answers) :
    Event → Bool
  | .completeCall i =>
    match s.1.questions[i]? with
    | some question =>
      match question.stage, question.owner with
      | .dispatched outcome, .call _ path =>
        (decide (s.1.retains question.questionId i) && !question.entry.finished &&
            encodes frameError question.questionId outcome) ||
          match path with
          | .frame => s.2.given i = 1
          | .host _ => question.entry.finished
      | _, _ => true
    | none => true
  | .respond i failure =>
    match s.1.questions[i]? with
    | some question =>
      match question.stage, question.owner with
      | .responding (.ok result), .call _ (.host abi) =>
        lastTaken failure (respondWasmHostCallFrame abi failure (finalFrame question result))
      | _, _ => true
    | none => true
  | .answerFinished answerId failure =>
    match (s.1.answerTable.lookup answerId).bind fun i => s.1.questions[i]? with
    | some question =>
      question.entry.finished ||
        match question.owner, question.stage with
        | .call _ _, .idle => false
        | .call _ .frame, _ => (failure .canceled).isNone
        | .call _ (.host _), _ => (failure .canceled).isSome
        | _, _ => true
    | none => true
  | _ => true

/-- And no call is accepted that targets its own question. -/
def AnswersCalls (frameError : RpcReturnMessage → Option Thrown) (s : RpcServerBridge × Answers)
    (event : Event) : Prop :=
  answersOnce frameError s event = true ∧ s.1.AimsElsewhere event

end RpcServerBridge

/-! ## What a call has coming -/

/-- How often a call has been answered, where it stands. -/
def Question.Awaits (q : Question) (path : CallPath) (given : ℕ) : Prop :=
  match q.stage with
  | .idle => given = 1
  | .responding (.ok none) => given = 0 ∧ q.entry.finished = true
  | .responding (.ok (some _)) => given = 0 ∧ path ≠ .frame
  | .responding (.error _) => False
  | .bootstrapping => False
  -- the listener answers a call of the frame path before its end
  | _ => given = 0 ∨ path = .frame ∧ given = 1 ∧ q.entry.finished = true

/-- The answers are those the question has had coming. -/
def Answers.Fits (answers : Answers) (i : EntryId) (q : Question) : Prop :=
  ∀ call path, q.owner = .call call path → answers.again i = false ∧ q.Awaits path (answers.given i)

namespace Answers

variable {answers answers' : Answers} {i j : EntryId} {q : Question}

/-- Once finished, an entry stays finished. -/
theorem Fits.entry {f : AnswerTableEntry → AnswerTableEntry} (fits : answers.Fits i q)
    (rises : q.entry.finished = true → (f q.entry).finished = true) :
    answers.Fits i { q with entry := f q.entry } := by
  intro call path owned
  obtain ⟨once, awaits⟩ := fits call path owned
  refine ⟨once, ?_⟩
  unfold Question.Awaits at awaits ⊢
  dsimp only
  split at awaits
  · exact awaits
  · exact ⟨awaits.1, rises awaits.2⟩
  · exact awaits
  · exact awaits
  · exact awaits
  · exact awaits.imp id fun ⟨frame, one, finished⟩ => ⟨frame, one, rises finished⟩

theorem awaits_unsettled {q : Question} {path : CallPath} {given : ℕ}
    (unsettled : q.stage.unsettled = true) :
    q.Awaits path given ↔ given = 0 ∨ path = .frame ∧ given = 1 ∧ q.entry.finished = true := by
  unfold Question.Awaits
  cases stands : q.stage <;> first | rfl | (rw [stands] at unsettled; cases unsettled)

/-- An unfinished call has not been answered before its end. -/
theorem awaits_unfinished {q : Question} {path : CallPath} {given : ℕ}
    (awaits : q.Awaits path given) (unfinished : q.entry.finished = false) :
    q.stage = .idle ∨ given = 0 ∧ (q.stage.unsettled = true ∨ path ≠ .frame) := by
  by_cases unsettled : q.stage.unsettled = true
  · rw [awaits_unsettled unsettled] at awaits
    refine .inr ⟨awaits.resolve_right fun listened => ?_, .inl unsettled⟩
    rw [unfinished] at listened
    exact nomatch listened.2.2
  · unfold Question.Awaits at awaits
    cases stands : q.stage with
    | idle => exact .inl rfl
    | responding result =>
      rw [stands] at awaits
      rcases result with error | (_ | frame)
      · exact absurd awaits id
      · rw [unfinished] at awaits
        exact nomatch awaits.2
      · exact .inr ⟨awaits.1, .inr awaits.2⟩
    | bootstrapping =>
      rw [stands] at awaits
      exact absurd awaits id
    | waiting | dispatching | dispatched =>
      rw [stands] at unsettled
      exact absurd rfl unsettled

/-- No call is answered twice. -/
theorem awaits_le {q : Question} {path : CallPath} {given : ℕ} (awaits : q.Awaits path given) :
    given ≤ 1 := by
  unfold Question.Awaits at awaits
  split at awaits
  · exact awaits.le
  · exact awaits.1.le.trans zero_le_one
  · exact awaits.1.le.trans zero_le_one
  · exact absurd awaits id
  · exact absurd awaits id
  · rcases awaits with none | ⟨-, one, -⟩
    · exact none.le.trans zero_le_one
    · exact one.le

theorem Fits.unsettled {stage : Stage} (fits : answers.Fits i q) (before : q.stage.unsettled = true)
    (after : stage.unsettled = true) : answers.Fits i { q with stage := stage } := by
  intro call path owned
  obtain ⟨once, awaits⟩ := fits call path owned
  rw [awaits_unsettled before] at awaits
  exact ⟨once, (awaits_unsettled after).2 awaits⟩

theorem Fits.congr (fits : answers.Fits i q) (given : answers'.given i = answers.given i)
    (again : answers'.again i = answers.again i) : answers'.Fits i q := by
  intro call path owned
  rw [given, again]
  exact fits call path owned

theorem attempt_other {taken : Bool} (other : j ≠ i) :
    (answers.attempt i taken).given j = answers.given j ∧ (answers.attempt i taken).again j =
      answers.again j :=
  ⟨Function.update_of_ne other _ _, Function.update_of_ne other _ _⟩

theorem notes_silent {effects : List Effect} (silent : ∀ effect ∈ effects, effect.silent = true) :
    effects.foldl note answers = answers := by
  induction effects with
  | nil => rfl
  | cons effect effects ih =>
    rw [List.forall_mem_cons] at silent
    have same : answers.note effect = answers := by
      cases effect <;> first | rfl | exact nomatch silent.1
    rw [List.foldl_cons, same, ih silent.2]

end Answers

namespace RpcServerBridge

open Answers (Fits)

variable {frameError : RpcReturnMessage → Option Thrown} {b b' c : RpcServerBridge}
  {answers : Answers} {event : Event} {effects : List Effect} {i j : EntryId} {q : Question}

/-- Every call has had the answers it has coming, and no answer is for a call to come. -/
structure Answered (b : RpcServerBridge) (answers : Answers) : Prop where
  calls : b.All answers.Fits
  blank : ∀ i, b.questions.length ≤ i → answers.given i = 0 ∧ answers.again i = false

theorem mildClosed_fits : MildClosed answers.Fits :=
  fun _ _ _ mild fits => fits.entry (mild _).2.2.2.2.1

/-- An answer is for an entry there is. -/
theorem Answered.attempt (answered : b.Answered answers) (found : b.questions[i]? = some q)
    (taken : Bool) :
    ∀ j, b.questions.length ≤ j →
      (answers.attempt i taken).given j = 0 ∧ (answers.attempt i taken).again j = false := by
  intro j late
  have within := (List.getElem?_eq_some_iff.1 found).1
  have other : j ≠ i := Nat.ne_of_gt (Nat.lt_of_lt_of_le within late)
  have same : (answers.attempt i taken).given j = _ ∧ (answers.attempt i taken).again j = _ :=
    Answers.attempt_other other
  rw [same.1, same.2]
  exact answered.blank j late

theorem fits_attempt_other {taken : Bool} (other : j ≠ i) (fits : answers.Fits j q) :
    (answers.attempt i taken).Fits j q :=
  fits.congr (Answers.attempt_other other).1 (Answers.attempt_other other).2

/-- The first answer, given when the computation ends. -/
theorem fits_first {entry : AnswerTableEntry} (fits : answers.Fits i q)
    (none : answers.given i = 0) :
    (answers.attempt i true).Fits i { q with entry := entry, stage := .idle } := by
  intro call path owned
  have once := (fits call path owned).1
  refine ⟨?_, ?_⟩
  · simp [Answers.attempt, once, none]
  · simp [Question.Awaits, Answers.attempt, none]

/-! ## Completing a call -/

theorem completeCall_late {outcome : RpcDispatchOutcome}
    (late : ¬ b.retains q.questionId i ∨ q.entry.finished = true) :
    (completeCall frameError b i q outcome).2 = .ok none := by
  have late' : ¬ (b.updateEntry i (settleEntry outcome)).retains q.questionId i ∨ q.entry.finished =
      true := late
  unfold completeCall
  dsimp only
  rw [if_pos late']
  rfl

theorem completeCall_current {outcome : RpcDispatchOutcome} (retained : b.retains q.questionId i)
    (unfinished : q.entry.finished = false)
    (encoded : encodes frameError q.questionId outcome = true) :
    ∃ frame, (completeCall frameError b i q outcome).2 = .ok (some frame) := by
  have current : ¬ (¬ (b.updateEntry i (settleEntry outcome)).retains q.questionId i ∨
      q.entry.finished = true) := by
    rw [unfinished]
    exact not_or.2 ⟨not_not_intro retained, nofun⟩
  unfold completeCall
  dsimp only
  rw [if_neg current]
  cases outcome with
  | exception reason releaseParamCaps => exact ⟨_, rfl⟩
  | results response =>
    have sent : frameError (encodeReturnResultsFrame q.questionId response) = none :=
      Option.isNone_iff_eq_none.1 encoded
    refine ⟨encodeReturnResultsFrame q.questionId response, ?_⟩
    simp only [buildReturn, sent]
    rfl

theorem Answered.completed {call : RpcCallRequest} {path : CallPath} {outcome : RpcDispatchOutcome}
    (answered : b.Answered answers) (found : b.questions[i]? = some q)
    (owned : q.owner = .call call path) (stands : q.stage = .dispatched outcome)
    (once : answersOnce frameError (b, answers) (.completeCall i) = true) :
    (completeStage i path (completeCall frameError b i q outcome)).1.Answered
      ((completeStage i path (completeCall frameError b i q outcome)).2.foldl Answers.note
        answers) := by
  have grown (stage : Stage) : b.questions.length ≤
      ((completeCall frameError b i q outcome).1.setStage i stage).questions.length := by
    obtain ⟨c, quiet, same⟩ := quiet_completeCall frameError b i q outcome
    rw [length_setStage, same]
    exact quiet.length.ge
  obtain ⟨f, settles, same⟩ := completeCall_entries frameError b i q outcome
  have fits := answered.calls i q found
  obtain ⟨fresh, awaits⟩ := fits call path owned
  rw [Answers.awaits_unsettled (by rw [stands]; rfl)] at awaits
  have kept (j : EntryId) (q : Question) (_ : j ≠ i) (fits : answers.Fits j q) : answers.Fits j q :=
    fits
  simp only [answersOnce, found, stands, owned, Bool.or_eq_true, Bool.and_eq_true,
    decide_eq_true_iff, Bool.not_eq_true'] at once
  rcases once with ⟨⟨retained, unfinished⟩, encoded⟩ | once
  · have none : answers.given i = 0 := by
      rcases awaits with none | ⟨-, -, finished⟩
      · exact none
      · rw [unfinished] at finished
        cases finished
    obtain ⟨frame, built⟩ : ∃ frame, (completeCall frameError b i q outcome).2 = .ok (some frame) :=
      completeCall_current retained unfinished encoded
    cases path with
    | frame =>
      simp only [completeStage, built, frameReturn, List.foldl_cons, List.foldl_nil, Answers.note]
      refine ⟨?_, fun j late => answered.attempt found true j ((grown .idle).trans late)⟩
      refine All.goesOn answered.calls same (fun j q other fits => fits_attempt_other other fits) ?_
      intro q' there fits'
      exact fits_first fits' none
    | host abi =>
      simp only [completeStage, built, builtReturn, List.foldl_cons, List.foldl_nil, Answers.note]
      refine ⟨?_, fun j late => answered.blank j ((grown _).trans late)⟩
      refine All.goesOn answered.calls same kept ?_
      intro q' there fits'
      cases found.symm.trans there
      intro call' path' owned'
      cases owned.symm.trans owned'
      exact ⟨fresh, none, by simp⟩
  · cases path with
    | frame =>
      have one : answers.given i = 1 := by simpa using once
      have finished : q.entry.finished = true := by
        rcases awaits with none | ⟨-, -, finished⟩
        · rw [one] at none
          cases none
        · exact finished
      have ended : (completeCall frameError b i q outcome).2 = .ok none :=
        completeCall_late (.inr finished)
      simp only [completeStage, ended, frameReturn, List.foldl_cons, List.foldl_nil, Answers.note]
      refine ⟨?_, fun j late => answered.blank j ((grown .idle).trans late)⟩
      refine All.goesOn answered.calls same kept ?_
      intro q' there fits' call' path' owned'
      exact ⟨fresh, one⟩
    | host abi =>
      have finished : q.entry.finished = true := once
      have ended : (completeCall frameError b i q outcome).2 = .ok none :=
        completeCall_late (.inr finished)
      simp only [completeStage, ended, builtReturn, List.foldl_nil]
      refine ⟨?_, fun j late => answered.blank j ((grown _).trans late)⟩
      refine All.goesOn answered.calls same kept ?_
      intro q' there fits' call' path' owned'
      cases found.symm.trans there
      have none : answers.given i = 0 := awaits.resolve_right fun listened => by cases listened.1
      exact ⟨fresh, none, (settles q.entry).2.2.1.trans finished⟩

/-! ## Answering a host call -/

/-- The responder makes one call, or a second one where the first throws. -/
theorem respond_attempts (abi : RpcServerWasmHostAbi) (failure : HostFailure)
    (frame : RpcReturnMessage) :
    ∃ attempt, respondWasmHostCallFrame abi failure frame = [attempt] ∨
      ∃ first, (failure first).isNone = false ∧ respondWasmHostCallFrame abi failure frame =
        [first, attempt] := by
  unfold respondWasmHostCallFrame
  by_cases supported :
    (abi.respondHostCallReturnFrame && abi.supportsHostCallReturnFrame.getD true) = true
  · rw [if_pos supported]
    split_ifs
    · exact ⟨_, .inl rfl⟩
    · cases failed : failure (.returnFrame frame) with
      | none => exact ⟨_, .inl rfl⟩
      | some message => exact ⟨_, .inr ⟨_, by rw [failed]; rfl, rfl⟩⟩
  · rw [if_neg supported]
    split
    · exact ⟨_, .inl rfl⟩
    · exact ⟨_, .inl rfl⟩
    · split_ifs <;> exact ⟨_, .inl rfl⟩

/-- An attempt in vain leaves a call unanswered. -/
theorem attempt_vain (none : answers.given i = 0) :
    answers.attempt i false = answers := by
  unfold Answers.attempt
  have given : Function.update answers.given i (answers.given i + if false = true then 1 else 0) =
      answers.given :=
    Function.update_eq_self i answers.given
  have again : Function.update answers.again i (answers.again i || decide (0 < answers.given i)) =
      answers.again := by
    rw [none]
    exact (congrArg _ (Bool.or_false _)).trans (Function.update_eq_self i answers.again)
  rw [given, again]

/-- The responder answers once, if its last call is taken. -/
theorem notes_hostEffects {abi : RpcServerWasmHostAbi} {failure : HostFailure}
    {frame : RpcReturnMessage} (none : answers.given i = 0)
    (taken : lastTaken failure (respondWasmHostCallFrame abi failure frame) = true) :
    (hostEffects i failure (respondWasmHostCallFrame abi failure frame)).foldl Answers.note
      answers = answers.attempt i true := by
  obtain ⟨attempt, same | ⟨first, failed, same⟩⟩ := respond_attempts abi failure frame
  · rw [same] at taken ⊢
    have last : (failure attempt).isNone = true := taken
    simp only [hostEffects, List.map_cons, List.map_nil, List.foldl_cons, List.foldl_nil,
      Answers.note, last]
  · rw [same] at taken ⊢
    have last : (failure attempt).isNone = true := taken
    simp only [hostEffects, List.map_cons, List.map_nil, List.foldl_cons, List.foldl_nil,
      Answers.note, failed, attempt_vain none, last]

theorem Answered.responded {failure : HostFailure} {call : RpcCallRequest}
    {abi : RpcServerWasmHostAbi} {result : Except Thrown (Option RpcReturnMessage)}
    (answered : b.Answered answers) (isOpen : b.closed = false) (found : b.questions[i]? = some q)
    (owned : q.owner = .call call (.host abi)) (stands : q.stage = .responding result)
    (once : answersOnce frameError (b, answers) (.respond i failure) = true) :
    (b.setStage i .idle).Answered ((b.respond abi failure i q result).foldl Answers.note
      answers) := by
  obtain ⟨fresh, awaits⟩ := answered.calls i q found call (.host abi) owned
  unfold Question.Awaits at awaits
  rw [stands] at awaits
  have none : answers.given i = 0 := by
    rcases result with error | (_ | frame)
    · exact absurd awaits id
    · exact awaits.1
    · exact awaits.1
  have frames : ∃ frame, b.respond abi failure i q result =
      hostEffects i failure (respondWasmHostCallFrame abi failure frame) ∧
      lastTaken failure (respondWasmHostCallFrame abi failure frame) = true := by
    simp only [answersOnce, found, stands, owned] at once
    unfold respond
    rcases result with error | (_ | frame)
    · exact absurd awaits id
    · have finished : q.entry.finished = true := awaits.2
      refine ⟨canceledReturn q.questionId q.entry.outcome, ?_, once⟩
      simp only [isOpen, finished, if_true, Bool.false_eq_true, if_false]
    · refine ⟨frame, ?_, once⟩
      simp only [isOpen, Bool.false_eq_true, if_false]
  obtain ⟨frame, same, taken⟩ := frames
  rw [same, notes_hostEffects none taken]
  refine ⟨?_, fun j late => answered.attempt found true j ?_⟩
  · exact All.changed answered.calls rfl (fun j q other fits => fits_attempt_other other fits)
      fun q' there fits' => fits_first fits' none
  · rwa [length_setStage] at late

/-! ## The listener -/

/-- The answer of the listener is the first of a pending call of the frame path, or it is in
vain. -/
theorem fits_canceled {failure : HostFailure} {answerId : ℕ} (fits : answers.Fits i q)
    (found : b.answerTable.lookup answerId = some i) (there : b.questions[i]? = some q)
    (unfinished : q.entry.finished = false)
    (once : answersOnce frameError (b, answers) (.answerFinished answerId failure) = true) :
    (answers.attempt i (failure .canceled).isNone).Fits i
      { q with entry := cancelEntry q.entry } := by
  intro call path owned
  have owned' : q.owner = .call call path := owned
  obtain ⟨fresh, awaits⟩ := fits call path owned
  simp only [answersOnce, found, Option.bind_some, there, unfinished, Bool.false_or, owned'] at once
  have pending : q.stage ≠ .idle := by
    intro stands
    rw [stands] at once
    cases once
  obtain ⟨none, before⟩ := (Answers.awaits_unfinished awaits unfinished).resolve_left pending
  cases path with
  | frame =>
    have taken : (failure .canceled).isNone = true := by
      cases stands : q.stage <;> first | exact absurd stands pending | simpa [stands] using once
    have unsettled : q.stage.unsettled = true := before.resolve_right fun other => other rfl
    refine ⟨by simp [Answers.attempt, fresh, none], ?_⟩
    refine (Answers.awaits_unsettled (q := { q with entry := cancelEntry q.entry }) unsettled).2 ?_
    exact .inr ⟨rfl, by simp [Answers.attempt, none, taken], rfl⟩
  | host abi =>
    have vain : (failure .canceled).isNone = false := by
      have failed : (failure .canceled).isSome = true := by
        cases stands : q.stage <;> first | exact absurd stands pending | simpa [stands] using once
      simpa using failed
    rw [vain, attempt_vain none]
    exact (fits.entry fun _ => rfl) call (.host abi) owned

/-! ## Steps -/

theorem silent_idle {effects : List Effect} (idle : ∀ effect ∈ effects, effect.idle) :
    ∀ effect ∈ effects, effect.silent = true := by
  intro effect mem
  have still := idle effect mem
  cases effect <;> first | rfl | exact absurd still id

theorem silent_invocation (i : EntryId) (stage : Stage) :
    ∀ effect ∈ invocation i stage, effect.silent = true := by
  intro effect mem
  unfold invocation at mem
  split at mem
  · rw [List.mem_singleton.1 mem]
    rfl
  · cases mem

/-- A step that answers nobody. -/
theorem Answered.silent (answered : b.Answered answers) (calls : b'.All answers.Fits)
    (grown : b.questions.length ≤ b'.questions.length)
    (silent : ∀ effect ∈ effects, effect.silent = true) :
    b'.Answered (effects.foldl Answers.note answers) := by
  rw [Answers.notes_silent silent]
  exact ⟨calls, fun j late => answered.blank j (grown.trans late)⟩

/-- A computation goes on from one unsettled stage to another. -/
theorem fits_goesOn {stage : Stage} (calls : b.All answers.Fits)
    (before : ∀ q, b.questions[i]? = some q → q.stage.unsettled = true)
    (after : stage.unsettled = true) :
    (b.setStage i stage).All answers.Fits :=
  All.setStage calls fun q there fits => fits.unsettled (before q there) after

/-- No call stands where a bootstrap does. -/
theorem fits_bootstrap {stage : Stage} {entry : AnswerTableEntry} (fits : answers.Fits i q)
    (stands : q.stage = .bootstrapping) :
    answers.Fits i { q with entry := entry, stage := stage } := by
  intro call path owned
  have awaits := (fits call path owned).2
  unfold Question.Awaits at awaits
  rw [stands] at awaits
  exact absurd awaits id

theorem fits_new {n : EntryId} {stage : Stage}
    (blank : answers.given n = 0 ∧ answers.again n = false) (unsettled : stage.unsettled = true) :
    answers.Fits n { q with stage := stage } :=
  fun _ _ _ => ⟨blank.2, (Answers.awaits_unsettled unsettled).2 (.inl blank.1)⟩

theorem Answered.steps (answered : b.Answered answers) (isOpen : b.closed = false)
    (steps : Steps frameError b event b' effects)
    (once : answersOnce frameError (b, answers) event = true) (stillOpen : b'.closed = false) :
    b'.Answered (effects.foldl Answers.note answers) := by
  have grown := steps.shape.length_le
  have calls := answered.calls
  have mild : MildClosed answers.Fits := mildClosed_fits
  have left {c : RpcServerBridge} (calls : c.All answers.Fits) (i : EntryId)
      (releaseWireRefs : Bool) (questionId : ℕ) :
      ((c.releaseAnswerHeldCapabilities i releaseWireRefs).deleteAnswer questionId).All
      answers.Fits :=
    (calls.releaseAnswerHeldCapabilities mild i releaseWireRefs).congr rfl
  cases steps with
  | unchanged event next rejected effects idle =>
    exact answered.silent (calls.congr rfl) grown (silent_idle idle)
  | exported | retained | releasedUnknown | released | finishedUnknown =>
    exact answered.silent (calls.congr rfl) grown (by simp [Effect.silent])
  | finished event finish i =>
    have finished := calls.mild (i := i) mild mild_finishEntry
    exact answered.silent (left finished i _ _) grown (by simp [Effect.silent])
  | called event call path byteLength =>
    have accepted := All.acceptQuestion calls call.questionId byteLength (.call call path)
    have dispatched := accepted.dispatchCall (mild.exempt _) call
    refine answered.silent (All.enter dispatched fun q there => ?_) grown ?_
    · exact fits_new (answered.blank _ le_rfl) (quiet_dispatchCall _ call).2
    · rw [List.forall_mem_cons]
      exact ⟨rfl, silent_invocation _ _⟩
  | bootstrapped event questionId =>
    have accepted := All.acceptQuestion calls questionId 0 .bootstrap
    refine answered.silent (All.enter accepted fun q there => ?_) grown (by simp [Effect.silent])
    cases (b.question_acceptQuestion questionId 0 .bootstrap).symm.trans there
    exact fun _ _ => nofun
  | observed response accepts =>
    obtain ⟨f, settles, same⟩ := completeBootstrapAnswer_entries
      (b.acceptQuestion response.answerId 0 .observed) b.questions.length response
    have accepted : (b.acceptQuestion response.answerId 0 .observed).All answers.Fits :=
      calls.push rfl fun _ _ => nofun
    refine answered.silent (accepted.changed same (fun _ _ _ fits => fits) fun q there _ =>
      ?_) grown (by simp [Effect.silent])
    cases (b.question_acceptQuestion response.answerId 0 .observed).symm.trans there
    exact fun _ _ => nofun
  | bootstrapReturned i result q response found stands =>
    obtain ⟨f, settles, same⟩ := completeBootstrapAnswer_entries b i response
    refine answered.silent (All.goesOn calls same (fun _ _ _ fits => fits) ?_) grown
      (by simp [Effect.silent])
    intro q' there fits
    cases found.symm.trans there
    exact fits_bootstrap fits stands
  | bootstrapFailed i result q error found stands =>
    refine answered.silent (All.goesOn (b := b.deleteAnswer q.questionId) calls rfl
      (fun _ _ _ fits => fits) ?_) grown (by simp [Effect.silent])
    intro q' there fits
    cases found.symm.trans there
    exact fits_bootstrap fits stands
  | handlerSettled i outcome q capabilityIndex parent found stands =>
    have released : (parent.elim b b.releasePipelineRef).All answers.Fits := by
      cases parent with
      | none => exact calls
      | some parent => exact calls.mild mild mild_releasePipelineRef
    have quiet : Quiet b (parent.elim b b.releasePipelineRef) := by
      cases parent with
      | none => exact Quiet.refl b
      | some parent => exact quiet_releasePipelineRef b parent
    refine answered.silent (fits_goesOn released (fun q' there => ?_) rfl) grown nofun
    rw [quiet.stage found there, stands]
    rfl
  | canceled i q call path parent transform found owned stands =>
    have quiet := quiet_releasePipelineRef b parent
    have released : (b.releasePipelineRef parent).All answers.Fits :=
      calls.mild mild mild_releasePipelineRef
    refine answered.silent (fits_goesOn released (fun q' there => ?_) rfl) grown nofun
    rw [quiet.stage found there, stands]
    rfl
  | resumed i q call path parent transform target outcome found owned stands =>
    have quiet := quiet_dispatchToAnswer b call parent outcome transform
    have dispatched := calls.dispatchToAnswer mild call parent outcome transform
    refine answered.silent (fits_goesOn dispatched (fun q' there => ?_) quiet.2) grown
      (silent_invocation i _)
    rw [quiet.1.stage found there, stands]
    rfl
  | completed i q call path outcome found owned stands =>
    exact answered.completed found owned stands once
  | responded i failure q call abi result found owned stands =>
    exact answered.responded isOpen found owned stands once
  | timerStale => exact answered.silent (calls.mild mild mild_disarmTimer) grown nofun
  | timerDeferred i =>
    have counted := (calls.mild (i := i) mild mild_disarmTimer).mild (i := i) mild mild_countAttempt
    refine answered.silent (counted.updateEntry fun q _ fits => fits.entry fun finished => ?_)
      grown nofun
    unfold armTimer
    split
    · split_ifs <;> exact finished
    · exact finished
  | timerForced i =>
    have counted := (calls.mild (i := i) mild mild_disarmTimer).mild (i := i) mild mild_countAttempt
    exact answered.silent (left counted i _ _) grown (by simp [Effect.silent])
  | timerEvicted i =>
    exact answered.silent (left (calls.mild mild mild_disarmTimer) i _ _) grown
      (by simp [Effect.silent])
  | answerFinished answerId failure i q found there unfinished =>
    refine ⟨?_, fun j late => ?_⟩
    · refine calls.changed rfl (fun j q other fits => fits_attempt_other other fits) fun q' there'
        fits => ?_
      cases there.symm.trans there'
      exact fits_canceled fits found there unfinished once
    · exact answered.attempt there _ j (grown.trans late)
  | closed => cases stillOpen

/-! ## Runs -/

/-- The answers of a run that starts with the bridge. -/
def answersOf (frameError : RpcReturnMessage → Option Thrown) (options : RpcServerBridgeOptions)
    (events : List Event) : Answers :=
  (Machine.shown (step frameError) (initial options) events).foldl Answers.note Answers.empty

/-- What a run keeps: the answers are those the calls have had coming, and no call waits on a
younger one. -/
theorem run_answered {frameError : RpcReturnMessage → Option Thrown}
    {options : RpcServerBridgeOptions} {events : List Event}
    (once : Machine.Always (Machine.watched Answers.note (step frameError))
      (AnswersCalls frameError) (initial options, Answers.empty) events) :
    let b := Machine.final (step frameError) (initial options) events
    (b.closed = false → b.Answered (answersOf frameError options events)) ∧ b.WellFounded := by
  intro b
  have kept := once.invariant
    (P := fun s : RpcServerBridge × Answers => (s.1.closed = false → s.1.Answered s.2) ∧
      s.1.WellFounded)
    (fun s event once kept => ?_) ⟨fun _ => ⟨all_initial options, fun _ _ => ⟨rfl, rfl⟩⟩,
      wellFounded_initial options⟩
  · rw [Machine.final_watched] at kept
    exact kept
  · have steps : Steps frameError s.1 event _ _ := s.1.steps_of_step event
    refine ⟨fun stillOpen => ?_, kept.2.step once.2⟩
    have isOpen := steps.shape.stillOpen stillOpen
    exact (kept.1 isOpen).steps isOpen steps once.1 stillOpen

/-- Where no handler is outstanding and no continuation is due, every call has been answered. -/
theorem answered_settled {frameError : RpcReturnMessage → Option Thrown}
    {options : RpcServerBridgeOptions} {events : List Event}
    (once : Machine.Always (Machine.watched Answers.note (step frameError))
      (AnswersCalls frameError) (initial options, Answers.empty) events) :
    let b := Machine.final (step frameError) (initial options) events
    b.closed = false → b.HandlersSettled → b.questions.any b.ready = false →
      ∀ i q call path, b.questions[i]? = some q → q.owner = .call call path →
        (answersOf frameError options events).given i = 1 := by
  intro b isOpen handlers drained i q call path found owned
  obtain ⟨answered, wellFounded⟩ := run_answered once
  have stands : q.stage = .idle := wellFounded.idle handlers drained i q found
  have awaits := ((answered isOpen).calls i q found call path owned).2
  unfold Question.Awaits at awaits
  rwa [stands] at awaits

theorem continues_staysOpen {frameError : RpcReturnMessage → Option Thrown} {b : RpcServerBridge}
    {more : List Event} (kinds : ∀ event ∈ more, event.continues = true)
    (isOpen : b.closed = false) :
    (Machine.final (step frameError) b more).closed = false := by
  have always : Machine.Always (step frameError) (fun _ event => event ≠ .close) b more := by
    refine Machine.always_of_mem fun event mem _ => ?_
    rintro rfl
    cases kinds _ mem
  refine always.invariant (P := fun b : RpcServerBridge => b.closed = false)
    (fun b event other isOpen => ?_) isOpen
  have steps : Steps frameError b event _ _ := b.steps_of_step event
  exact steps.shape.staysOpen other isOpen

/-- In a run of steps that answer once and accept no call on its own answer, while the bridge is
open: no call is answered twice, nobody tries to answer a call a second time, and a call whose
computation is over has its answer; once the handlers have settled and no continuation is due every
call has exactly one; and continuations alone get there. -/
theorem calls_answered_once (frameError : RpcReturnMessage → Option Thrown)
    (options : RpcServerBridgeOptions) (events : List Event)
    (once : Machine.Always (Machine.watched Answers.note (step frameError))
      (AnswersCalls frameError) (initial options, Answers.empty) events) :
    let b := Machine.final (step frameError) (initial options) events
    let answers := answersOf frameError options events
    b.closed = false →
      (∀ i q call path, b.questions[i]? = some q → q.owner = .call call path →
        answers.given i ≤ 1 ∧ answers.again i = false ∧ (q.stage = .idle → answers.given i = 1)) ∧
      (b.HandlersSettled → b.questions.any b.ready = false →
        ∀ i q call path, b.questions[i]? = some q → q.owner = .call call path →
          answers.given i = 1) ∧
      ∃ more, (∀ event ∈ more, event.continues = true) ∧
        let b' := Machine.final (step frameError) b more
        b'.questions.any b'.ready = false ∧
        (Machine.Always (Machine.watched Answers.note (step frameError)) (AnswersCalls frameError)
            (b, answers) more → b'.HandlersSettled →
          ∀ i q call path, b'.questions[i]? = some q → q.owner = .call call path →
            (answersOf frameError options (events ++ more)).given i = 1) := by
  intro b answers isOpen
  obtain ⟨answered, wellFounded⟩ := run_answered once
  refine ⟨fun i q call path found owned => ?_, answered_settled once isOpen, ?_⟩
  · obtain ⟨fresh, awaits⟩ := (answered isOpen).calls i q found call path owned
    refine ⟨Answers.awaits_le awaits, fresh, fun stands => ?_⟩
    unfold Question.Awaits at awaits
    rwa [stands] at awaits
  · obtain ⟨more, kinds, drained⟩ := drains frameError wellFounded.owned
    refine ⟨more, kinds, drained, fun always handlers => ?_⟩
    have whole : Machine.Always (Machine.watched Answers.note (step frameError))
        (AnswersCalls frameError) (initial options, Answers.empty) (events ++ more) := by
      rw [Machine.always_append, Machine.final_watched]
      exact ⟨once, always⟩
    have settled := answered_settled whole
    rw [Machine.final_append] at settled
    exact settled (continues_staysOpen kinds isOpen) handlers drained

/-- A call of the frame path that ends after what comes in meanwhile. -/
def framePathCall (meanwhile : List Event) : List Event :=
  [.exportCapability ⟨7, none⟩ none 1, .handleFrame (.call ⟨3, 7, .importedCap 0⟩ 8)] ++
    meanwhile ++ [.handlerSettles 0 (.results ⟨none, none, none, none⟩), .completeCall 0]

/-- A host call that is canceled by the listener while its handler runs. -/
def canceledHostCall : List Event :=
  [.exportCapability ⟨7, none⟩ none 1,
    .hostCall ⟨true, none, none⟩ ⟨3, 8, .ok ⟨3, 7, .importedCap 0⟩⟩ fun _ => none,
    .answerFinished 3 fun _ => none, .handlerSettles 0 (.results ⟨none, none, none, none⟩),
    .completeCall 0, .respond 0 fun _ => none]

/-- A call, and one that is pipelined on its answer; both handlers settle. -/
def pipelinedCalls : List Event :=
  [.exportCapability ⟨7, none⟩ none 1, .handleFrame (.call ⟨3, 7, .importedCap 0⟩ 8),
    .handleFrame (.call ⟨4, 7, .promisedAnswer 3 none⟩ 8),
    .handlerSettles 0 (.results ⟨none, some [⟨CAP_DESCRIPTOR_TAG_SENDER_HOSTED, 0⟩], none, none⟩),
    .completeCall 0, .resumePipelined 1, .handlerSettles 1 (.results ⟨none, none, none, none⟩),
    .completeCall 1]

/-- Undisturbed both are answered once. -/
theorem calls_answered_once_undisturbed :
    let answers := answersOf (fun _ => none) .default pipelinedCalls
    answers.given 0 = 1 ∧ answers.given 1 = 1 := by
  intro answers
  have once : Machine.Always (Machine.watched Answers.note (step fun _ => none))
      (fun s event => answersOnce (fun _ => none) s event = true) (initial .default, Answers.empty)
      pipelinedCalls := by decide
  have aims : Machine.Always (Machine.watched Answers.note (step fun _ => none))
      (fun _ event => event.aimsAtSelf = false)
      (initial .default, Answers.empty) pipelinedCalls := by
    decide
  have both : Machine.Always (Machine.watched Answers.note (step fun _ => none))
      (AnswersCalls fun _ => none) (initial .default, Answers.empty) pipelinedCalls :=
    once.and (aims.mono fun _ _ other => aimsElsewhere_of_not_aimsAtSelf other)
  have settled := (calls_answered_once (fun _ => none) .default pipelinedCalls both rfl).1
  exact ⟨(settled 0 _ _ _ rfl rfl).2.2 rfl, (settled 1 _ _ _ rfl rfl).2.2 rfl⟩

/-- A call that the peer finishes is never answered on the frame path, and a host call that the WASM
peer reports as finished is answered twice. -/
theorem canceled_calls_missed_and_doubled :
    (∃ q, (Machine.final (step fun _ => none) (initial .default)
        (framePathCall [.handleFrame (.finish ⟨3, false⟩)])).questions[0]? = some q ∧
        q.stage = .idle ∧
      (answersOf (fun _ => none) .default (framePathCall [.handleFrame (.finish ⟨3, false⟩)])).given
        0 = 0) ∧
    (answersOf (fun _ => none) .default canceledHostCall).given 0 = 2 := by
  refine ⟨⟨_, rfl, rfl, ?_⟩, ?_⟩
  · decide
  · decide

end RpcServerBridge

end CapnpDeno
