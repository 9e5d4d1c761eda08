import CapnpDeno.Lib.Runs
import CapnpDeno.Lib.TextDecoder
import CapnpDeno.Rpc.Client.ClientCall

/-!
# Waiting for Level-3 events

`acceptProvision` and `registerThirdPartyAwait` leave a question with the module and wait for its
Return, which the peer drains as an event and shows to every wait in turn.  A wait for an Accept
looks for its question id, a third-party await takes whatever is of its kind, and exceptions are of
one kind for both.
-/

namespace CapnpDeno

namespace L3

open TextDecoder (textDecode)

/-! ## Events and waits -/

def L3_EVENT_ACCEPT_RETURN : ℕ := 1
def L3_EVENT_AWAIT_RETURN : ℕ := 2
def L3_EVENT_RETURN_EXCEPTION : ℕ := 3

structure WasmL3Event where
  kind : ℕ
  questionId : ℕ
  payload : Bytes

/-- What the promise of a wait is settled with: the capability index, or an error. -/
abbrev Outcome := Except Thrown ℕ

/-- The listener that `waitForL3Return` adds for a call. -/
structure L3Wait where
  call : ℕ
  kind : ℕ
  questionId : Option ℕ
deriving DecidableEq

/-- `l3 handoff wait aborted`. -/
def waitAborted : Outcome := .error (protocolError "l3 handoff wait aborted")

section

variable (decodeReturnFrame : Bytes → Except Thrown RpcReturnMessage)

/-- What an event of the wait's kind settles it with. -/
def returned (event : WasmL3Event) : Outcome := do
  let message ← decodeReturnFrame event.payload
  extractBootstrapCapabilityIndex message

/-- `onEvent`: the outcome if the wait takes the event for its own. -/
def L3Wait.onEvent (wait : L3Wait) (event : WasmL3Event) : Option Outcome :=
  if wait.questionId ≠ none ∧ some event.questionId ≠ wait.questionId then none
  else if event.kind = L3_EVENT_RETURN_EXCEPTION then
    some (.error (protocolError s!"l3 handoff failed: {textDecode event.payload}"))
  else if event.kind ≠ wait.kind then none
  else some (returned decodeReturnFrame event)

/-! ## The peer -/

/-- What a call has left with the module. -/
inductive Question
  | accept (questionId : ℕ)
  | await
deriving DecidableEq

/-- The wait for a question. -/
def Question.wait (call : ℕ) : Question → L3Wait
  | accept questionId => ⟨call, L3_EVENT_ACCEPT_RETURN, some questionId⟩
  | await => ⟨call, L3_EVENT_AWAIT_RETURN, none⟩

structure State where
  /-- The questions of all calls so far, a call being its position. -/
  calls : List Question
  /-- The calls whose event the module has not emitted. -/
  parked : List ℕ
  /-- The Accepts that have been sent and not waited for yet. -/
  sent : List ℕ
  /-- `#l3Listeners`, oldest first. -/
  listeners : List L3Wait
  /-- The peer's entry in `pendingAwaits`, with the call that made it. -/
  pendingAwait : Option ℕ
deriving DecidableEq

def State.initial : State := ⟨[], [], [], [], none⟩

/-- The wait of the call has begun and is not settled. -/
def State.Listening (s : State) (call : ℕ) : Prop := ∃ wait ∈ s.listeners, wait.call = call

instance (s : State) (call : ℕ) : Decidable (s.Listening call) :=
  inferInstanceAs (Decidable (∃ wait ∈ s.listeners, wait.call = call))

/-- `unsubscribe`. -/
def State.unsubscribe (s : State) (call : ℕ) : State :=
  { s with listeners := s.listeners.filter (·.call ≠ call) }

/-- A wait ends: the listener is gone and the promise settled. -/
abbrev Settlement := ℕ × Outcome

/-- `waitForL3Return`, its signal aborted before or not. -/
def State.waitForL3Return (s : State) (wait : L3Wait) (aborted : Bool) : State × List Settlement :=
  if aborted then (s, [(wait.call, waitAborted)])
  else ({ s with listeners := s.listeners ++ [wait] }, [])

/-- The loop of `drainL3Events` over the listeners, for one event. -/
def State.dispatch (s : State) (event : WasmL3Event) : State × List Settlement :=
  s.listeners.foldl (fun (s, settled) wait =>
    match wait.onEvent decodeReturnFrame event with
    | none => (s, settled)
    | some outcome => (s.unsubscribe wait.call, settled ++ [(wait.call, outcome)])) (s, [])

inductive Action
  /-- `acceptProvision` has sent an Accept, up to `onQuestionId`. -/
  | sendAccept (questionId : ℕ)
  /-- The rest of that `acceptProvision`. -/
  | beginAccept (call : ℕ) (aborted : Bool)
  | registerThirdPartyAwait (aborted : Bool)
  /-- The signal of a wait. -/
  | abort (call : ℕ)
  /-- `wait.finally(() => pendingAwaits.delete(peer))` after the wait is settled. -/
  | awaitSettled
  /-- The module's event for a call, popped and shown to the listeners. -/
  | drained (call : ℕ) (event : WasmL3Event)

/-- What the actions do, with the promises they settle. -/
def step (s : State) : Action → State × List Settlement
  | .sendAccept questionId =>
    ({ s with
      calls := s.calls ++ [.accept questionId]
      parked := s.parked ++ [s.calls.length]
      sent := s.sent ++ [s.calls.length] }, [])
  | .beginAccept call aborted =>
    match s.calls[call]? with
    | some question =>
      if call ∈ s.sent then
        { s with sent := s.sent.filter (· ≠ call) }.waitForL3Return (question.wait call) aborted
      else (s, [])
    | none => (s, [])
  | .registerThirdPartyAwait aborted =>
    -- "a pending third-party await is already outstanding on this peer"
    if s.pendingAwait ≠ none then (s, [])
    else
      { s with
        calls := s.calls ++ [Question.await]
        parked := s.parked ++ [s.calls.length]
        pendingAwait := some s.calls.length : State }.waitForL3Return
          (Question.await.wait s.calls.length) aborted
  | .abort call => if s.Listening call then (s.unsubscribe call, [(call, waitAborted)]) else (s, [])
  | .awaitSettled =>
    match s.pendingAwait with
    | some call => if s.Listening call then (s, []) else ({ s with pendingAwait := none }, [])
    | none => (s, [])
  | .drained call event =>
    { s with parked := s.parked.filter (· ≠ call) }.dispatch decodeReturnFrame event

/-- The event of a question: of its kind or an exception; that of an Accept carries the question id,
that of an await any number. -/
def Question.Emits : Question → WasmL3Event → Prop
  | accept questionId, event => event.questionId = questionId ∧
    (event.kind = L3_EVENT_ACCEPT_RETURN ∨ event.kind = L3_EVENT_RETURN_EXCEPTION)
  | await, event => event.kind = L3_EVENT_AWAIT_RETURN ∨ event.kind = L3_EVENT_RETURN_EXCEPTION

instance (question : Question) (event : WasmL3Event) : Decidable (question.Emits event) :=
  match question with
  | .accept _ => inferInstanceAs (Decidable (_ ∧ _))
  | .await => inferInstanceAs (Decidable (_ ∨ _))

/-- The module emits one event for each question it holds, in any order. -/
def FromModule (s : State) : Action → Prop
  | .drained call event => call ∈ s.parked ∧ ∃ question ∈ s.calls[call]?, question.Emits event
  | _ => True

instance (s : State) (action : Action) : Decidable (FromModule s action) :=
  match action with
  | .drained call event =>
    inferInstanceAs (Decidable (call ∈ s.parked ∧ ∃ question ∈ s.calls[call]?,
      question.Emits event))
  | .sendAccept _ | .beginAccept _ _ | .registerThirdPartyAwait _ | .abort _
  | .awaitSettled => isTrue trivial

/-! ## What an event settles -/

variable {decodeReturnFrame : Bytes → Except Thrown RpcReturnMessage} {s : State} {call : ℕ}
  {event : WasmL3Event}

variable (decodeReturnFrame) in
/-- What the event of a wait settles it with. -/
def arrived (event : WasmL3Event) : Outcome :=
  if event.kind = L3_EVENT_RETURN_EXCEPTION then
    .error (protocolError s!"l3 handoff failed: {textDecode event.payload}")
  else returned decodeReturnFrame event

/-- The wait takes the event for its own. -/
def L3Wait.Hears (wait : L3Wait) (event : WasmL3Event) : Prop :=
  (wait.questionId = none ∨ wait.questionId = some event.questionId) ∧
    (event.kind = L3_EVENT_RETURN_EXCEPTION ∨ event.kind = wait.kind)

instance (wait : L3Wait) (event : WasmL3Event) : Decidable (wait.Hears event) :=
  inferInstanceAs (Decidable (_ ∧ _))

theorem onEvent_eq (wait : L3Wait) (event : WasmL3Event) : wait.onEvent decodeReturnFrame event =
    if wait.Hears event then some (arrived decodeReturnFrame event) else none := by
  unfold L3Wait.onEvent
  have other : (wait.questionId ≠ none ∧ some event.questionId ≠ wait.questionId) ↔
      ¬ (wait.questionId = none ∨ wait.questionId = some event.questionId) := by
    rw [not_or, ne_comm (a := some event.questionId)]
  by_cases own : wait.questionId = none ∨ wait.questionId = some event.questionId
  · rw [if_neg (fun differs => other.1 differs own)]
    by_cases exception : event.kind = L3_EVENT_RETURN_EXCEPTION
    · have hears : wait.Hears event := ⟨own, .inl exception⟩
      rw [if_pos exception, if_pos hears, arrived, if_pos exception]
    · rw [if_neg exception]
      by_cases kind : event.kind = wait.kind
      · have hears : wait.Hears event := ⟨own, .inr kind⟩
        rw [if_neg (not_not.2 kind), if_pos hears, arrived, if_neg exception]
      · have deaf : ¬ wait.Hears event := fun hears => hears.2.elim exception kind
        rw [if_pos kind, if_neg deaf]
  · have deaf : ¬ wait.Hears event := fun hears => own hears.1
    rw [if_pos (other.2 own), if_neg deaf]

/-- The loop settles every wait that takes the event, in order, and removes their listeners only. -/
theorem dispatch_loop (waits : List L3Wait) (settled : List Settlement) :
    let loop := waits.foldl (fun (state : State × List Settlement) wait =>
      match wait.onEvent decodeReturnFrame event with
      | none => state
      | some outcome => (state.1.unsubscribe wait.call, state.2 ++ [(wait.call, outcome)]))
          (s, settled)
    loop.2 = settled ++ (waits.filter (·.Hears event)).map
      (fun wait => (wait.call, arrived decodeReturnFrame event)) ∧
      loop.1 = { s with listeners := s.listeners.filter (fun wait =>
        waits.all fun wait' => decide (wait'.Hears event → wait.call ≠ wait'.call)) } := by
  induction waits generalizing s settled with
  | nil =>
    simp
  | cons wait waits ih =>
    rw [List.foldl_cons, onEvent_eq]
    by_cases hears : wait.Hears event
    · rw [if_pos hears]
      obtain ⟨shown, left⟩ := ih (s := s.unsubscribe wait.call)
        (settled ++ [(wait.call, arrived decodeReturnFrame event)])
      refine ⟨by rw [shown, List.filter_cons, if_pos (by simpa using hears)]; simp, ?_⟩
      rw [left]
      simp only [State.unsubscribe, List.filter_filter, List.all_cons, hears, true_implies]
      congr 1
      exact List.filter_congr fun other _ => Bool.and_comm _ _
    · rw [if_neg hears]
      obtain ⟨shown, left⟩ := ih (s := s) settled
      refine ⟨by rw [shown, List.filter_cons, if_neg (by simpa using hears)], ?_⟩
      rw [left]
      simp [hears]

/-- An event settles the waits that take it, in the order in which they began. -/
theorem dispatch_settles : (s.dispatch decodeReturnFrame event).2 =
    (s.listeners.filter (·.Hears event)).map fun wait =>
      (wait.call, arrived decodeReturnFrame event) :=
  (dispatch_loop s.listeners []).1

theorem dispatch_state : (s.dispatch decodeReturnFrame event).1 =
    { s with listeners := s.listeners.filter (fun wait =>
    s.listeners.all fun wait' => decide (wait'.Hears event → wait.call ≠ wait'.call)) } :=
  (dispatch_loop s.listeners []).2

/-! ## The waits of a run -/

/-- What holds along every run: a listener is the wait of its call, calls listen once and not before
their wait begins, and at most one third-party await is pending. -/
structure Inv (s : State) : Prop where
  accepts : ∀ call ∈ s.sent, ∃ questionId, s.calls[call]? = some (.accept questionId)
  waiting : ∀ call ∈ s.sent, ¬ s.Listening call
  own : ∀ wait ∈ s.listeners, ∃ question, s.calls[wait.call]? = some question ∧
    wait = question.wait wait.call
  unique : (s.listeners.map L3Wait.call).Nodup
  single : ∀ wait ∈ s.listeners, wait.questionId = none → s.pendingAwait = some wait.call

theorem Inv.initial : Inv .initial := ⟨nofun, nofun, nofun, List.nodup_nil, nofun⟩

/-- Fewer listeners. -/
theorem Inv.filter (inv : Inv s) (keep : L3Wait → Bool) :
    Inv { s with listeners := s.listeners.filter keep } where
  accepts := inv.accepts
  waiting call mem listening := by
    obtain ⟨wait, kept, same⟩ := listening
    exact inv.waiting call mem ⟨wait, (List.mem_filter.1 kept).1, same⟩
  own wait kept := inv.own wait (List.mem_filter.1 kept).1
  unique := inv.unique.sublist (List.Sublist.map _ List.filter_sublist)
  single wait kept := inv.single wait (List.mem_filter.1 kept).1

/-- A listener's call is one of the calls so far. -/
theorem Inv.listening_lt (inv : Inv s) (listening : s.Listening call) : call < s.calls.length := by
  obtain ⟨wait, mem, rfl⟩ := listening
  obtain ⟨question, known, -⟩ := inv.own wait mem
  exact (List.getElem?_eq_some_iff.1 known).1

/-- The wait of a call that is not listening begins. -/
theorem Inv.begin (inv : Inv s) {question : Question} {aborted : Bool}
    (known : s.calls[call]? = some question) (sent : call ∉ s.sent) (quiet : ¬ s.Listening call)
    (single : question = .await → s.pendingAwait = some call) :
    Inv (s.waitForL3Return (question.wait call) aborted).1 := by
  cases aborted with
  | true => exact inv
  | false =>
    have place : (question.wait call).call = call := by cases question <;> rfl
    refine ⟨inv.accepts, ?_, ?_, ?_, ?_⟩
    · rintro call' mem ⟨wait, listens, same⟩
      obtain listens | listens := List.mem_append.1 listens
      · exact inv.waiting call' mem ⟨wait, listens, same⟩
      · obtain rfl := List.mem_singleton.1 listens
        exact sent (place.symm.trans same ▸ mem)
    · intro wait listens
      obtain listens | listens := List.mem_append.1 listens
      · exact inv.own wait listens
      · obtain rfl := List.mem_singleton.1 listens
        exact ⟨question, by rw [place]; exact known, by rw [place]⟩
    · show ((s.listeners ++ [question.wait call]).map L3Wait.call).Nodup
      rw [List.map_append, List.nodup_append]
      refine ⟨inv.unique, List.nodup_singleton _, ?_⟩
      intro a memA b memB same
      obtain ⟨wait, listens, rfl⟩ := List.mem_map.1 memA
      rw [List.map_singleton, List.mem_singleton, place] at memB
      exact quiet ⟨wait, listens, same.trans memB⟩
    · intro wait listens third
      obtain listens | listens := List.mem_append.1 listens
      · exact inv.single wait listens third
      · obtain rfl := List.mem_singleton.1 listens
        rw [place]
        cases question with
        | accept questionId => cases third
        | await => exact single rfl

/-- A further question among the calls. -/
theorem Inv.ask (inv : Inv s) (question : Question) (parked : List ℕ) (pendingAwait : Option ℕ)
    (single : ∀ wait ∈ s.listeners, wait.questionId = none → pendingAwait = some wait.call) :
    Inv { s with calls := s.calls ++ [question], parked, pendingAwait } := by
  have kept : ∀ {call : ℕ} {question' : Question}, s.calls[call]? = some question' →
      (s.calls ++ [question])[call]? = some question' := fun known =>
    (List.getElem?_append_left (List.getElem?_eq_some_iff.1 known).1).trans known
  refine ⟨?_, inv.waiting, ?_, inv.unique, single⟩
  · intro call mem
    obtain ⟨questionId, known⟩ := inv.accepts call mem
    exact ⟨questionId, kept known⟩
  · intro wait mem
    obtain ⟨question', known, same⟩ := inv.own wait mem
    exact ⟨question', kept known, same⟩

theorem Inv.step (inv : Inv s) (action : Action) : Inv (step decodeReturnFrame s action).1 := by
  cases action with
  | sendAccept questionId =>
    have asked := inv.ask (.accept questionId)
      (s.parked ++ [s.calls.length]) s.pendingAwait inv.single
    refine ⟨?_, ?_, asked.own, asked.unique, asked.single⟩
    · intro call mem
      obtain mem | mem := List.mem_append.1 mem
      · exact asked.accepts call mem
      · rw [List.mem_singleton.1 mem]
        exact ⟨questionId, List.getElem?_concat_length⟩
    · intro call mem listening
      obtain mem | mem := List.mem_append.1 mem
      · exact inv.waiting call mem listening
      · have early := inv.listening_lt (show s.Listening call from listening)
        rw [List.mem_singleton.1 mem] at early
        exact lt_irrefl _ early
  | beginAccept call aborted =>
    simp only [L3.step]
    cases known : s.calls[call]? with
    | none => exact inv
    | some question =>
      by_cases sent : call ∈ s.sent
      · simp only [sent, if_true]
        obtain ⟨questionId, accept⟩ := inv.accepts call sent
        obtain rfl : question = .accept questionId := Option.some.inj (known.symm.trans accept)
        have fewer : Inv { s with sent := s.sent.filter (· ≠ call) } :=
          ⟨fun call' mem => inv.accepts call' (List.mem_filter.1 mem).1,
            fun call' mem => inv.waiting call' (List.mem_filter.1 mem).1, inv.own, inv.unique,
              inv.single⟩
        refine fewer.begin known ?_ (inv.waiting call sent) nofun
        simp
      · simp only [sent, if_false]
        exact inv
  | registerThirdPartyAwait aborted =>
    simp only [L3.step]
    by_cases pending : s.pendingAwait = none
    · simp only [pending, ne_eq, not_true_eq_false, if_false]
      -- no other third-party await is listening
      have alone : ∀ wait ∈ s.listeners, wait.questionId ≠ none := fun wait mem third => by
        rw [inv.single wait mem third] at pending
        cases pending
      have asked := inv.ask .await (s.parked ++ [s.calls.length]) (some s.calls.length)
        fun wait mem third => absurd third (alone wait mem)
      refine asked.begin List.getElem?_concat_length ?_ ?_ fun _ => rfl
      · intro sent
        obtain ⟨questionId, accept⟩ := inv.accepts _ sent
        exact lt_irrefl _ (List.getElem?_eq_some_iff.1 accept).1
      · intro listening
        exact lt_irrefl _ (inv.listening_lt (show s.Listening s.calls.length from listening))
    · simp only [pending, ne_eq, not_false_eq_true, if_true]
      exact inv
  | abort call =>
    simp only [L3.step]
    split_ifs
    · exact inv.filter _
    · exact inv
  | awaitSettled =>
    simp only [L3.step]
    cases pending : s.pendingAwait with
    | none => exact inv
    | some call =>
      by_cases listening : s.Listening call
      · simp only [listening, if_true]
        exact inv
      · simp only [listening, if_false]
        refine ⟨inv.accepts, inv.waiting, inv.own, inv.unique, fun wait mem third => ?_⟩
        have same := inv.single wait mem third
        rw [pending, Option.some.injEq] at same
        exact absurd ⟨wait, mem, same.symm⟩ listening
  | drained call event =>
    simp only [L3.step]
    rw [dispatch_state]
    exact Inv.filter (s := { s with parked := s.parked.filter (· ≠ call) })
      ⟨inv.accepts, inv.waiting, inv.own, inv.unique, inv.single⟩ _

/-! ## Attribution -/

/-- Another wait takes the event of the call: a third-party await, an exception of whatever question
or the event of an earlier await; or an Accept whose question id the event carries, an exception of
an await or the event of a later Accept with the same id. -/
def Misdirected (s : State) (call : ℕ) (event : WasmL3Event) : Prop :=
  ∃ wait ∈ s.listeners, wait.call ≠ call ∧
    (wait.questionId = none ∧ (event.kind = L3_EVENT_RETURN_EXCEPTION ∨
      s.calls[call]? = some .await) ∨
      wait.questionId = some event.questionId ∧
        (event.kind = L3_EVENT_RETURN_EXCEPTION ∨ ∃ questionId, s.calls[call]? =
          some (.accept questionId)))

instance (s : State) (call : ℕ) :
    Decidable (∃ questionId, s.calls[call]? = some (.accept questionId)) :=
  match s.calls[call]? with
  | some (.accept questionId) => isTrue ⟨questionId, rfl⟩
  | some .await => isFalse nofun
  | none => isFalse nofun

instance (s : State) (call : ℕ) (event : WasmL3Event) : Decidable (Misdirected s call event) :=
  inferInstanceAs (Decidable (∃ wait ∈ s.listeners, _))

/-- A drained event is not for another wait than its own. -/
def Directed (s : State) : Action → Prop
  | .drained call event => ¬ Misdirected s call event
  | _ => True

instance (s : State) (action : Action) : Decidable (Directed s action) :=
  match action with
  | .drained call event => inferInstanceAs (Decidable (¬ Misdirected s call event))
  | .sendAccept _ | .beginAccept _ _ | .registerThirdPartyAwait _ | .abort _
  | .awaitSettled => isTrue trivial

variable (decodeReturnFrame) in
/-- A drained event settles the wait of its call, if that has begun and not ended, and no other; an
abort settles its own wait as aborted, and so does every call whose signal was aborted before. -/
def SettlesOwn (s : State) : Action → Prop
  | .drained call event => (step decodeReturnFrame s (.drained call event)).2 =
      if s.Listening call then [(call, arrived decodeReturnFrame event)] else []
  | .abort call =>
    (step decodeReturnFrame s (.abort call)).2 = if s.Listening call then [(call, waitAborted)]
      else []
  | action => ∀ settlement ∈ (step decodeReturnFrame s action).2,
      settlement.2 = waitAborted ∧ ¬ s.Listening settlement.1

theorem FromModule.kinds (sent : FromModule s (.drained call event)) :
    ∃ question, s.calls[call]? = some question ∧
    (question.wait call).Hears event := by
  obtain ⟨-, question, known, emits⟩ := sent
  refine ⟨question, known, ?_⟩
  cases question with
  | accept questionId =>
    obtain ⟨rfl, kind⟩ := emits
    exact ⟨.inr rfl, kind.symm⟩
  | await => exact ⟨.inl rfl, Or.symm emits⟩

/-- Which waits of other calls take the event. -/
theorem hears_iff (inv : Inv s) (sent : FromModule s (.drained call event)) {wait : L3Wait}
    (listens : wait ∈ s.listeners) : wait.Hears event ↔
      wait.questionId = none ∧ (event.kind = L3_EVENT_RETURN_EXCEPTION ∨
        s.calls[call]? = some .await) ∨
        wait.questionId = some event.questionId ∧
          (event.kind = L3_EVENT_RETURN_EXCEPTION ∨ ∃ questionId, s.calls[call]? =
            some (.accept questionId)) := by
  obtain ⟨asked, -, same⟩ := inv.own wait listens
  obtain ⟨question, known, -, kinds⟩ := sent.kinds
  rw [known]
  unfold L3Wait.Hears
  -- the kind of an event other than an exception is that of its question
  have kind_iff : (event.kind = L3_EVENT_RETURN_EXCEPTION ∨ event.kind = wait.kind) ↔
      (event.kind = L3_EVENT_RETURN_EXCEPTION ∨ wait.kind = (question.wait call).kind) := by
    by_cases exception : event.kind = L3_EVENT_RETURN_EXCEPTION
    · simp [exception]
    · rw [or_iff_right exception, or_iff_right exception, kinds.resolve_left exception, eq_comm]
  rw [kind_iff, same]
  cases asked with
  | accept questionId =>
    cases question <;> simp [Question.wait, L3_EVENT_ACCEPT_RETURN, L3_EVENT_AWAIT_RETURN]
  | await =>
    cases question <;> simp [Question.wait, L3_EVENT_ACCEPT_RETURN, L3_EVENT_AWAIT_RETURN]

/-- The waits that take an event, if it is for no other than its own. -/
theorem filter_hears {waits : List L3Wait} (unique : (waits.map L3Wait.call).Nodup)
    (own : ∀ wait ∈ waits, wait.call = call → wait.Hears event)
    (other : ∀ wait ∈ waits, wait.call ≠ call → ¬ wait.Hears event) (outcome : Outcome) :
    (waits.filter (·.Hears event)).map (fun wait => (wait.call, outcome)) =
      if ∃ wait ∈ waits, wait.call = call then [(call, outcome)] else [] := by
  induction waits with
  | nil => rfl
  | cons wait waits ih =>
    rw [List.map_cons, List.nodup_cons] at unique
    have rest := ih unique.2 (fun wait mem => own wait (List.mem_cons_of_mem _ mem))
      fun wait mem => other wait (List.mem_cons_of_mem _ mem)
    by_cases here : wait.call = call
    · have absent : ¬ ∃ wait' ∈ waits, wait'.call = call := by
        rintro ⟨wait', mem, same⟩
        exact unique.1 (List.mem_map.2 ⟨wait', mem, same.trans here.symm⟩)
      rw [if_neg absent] at rest
      rw [List.filter_cons, if_pos (by simpa using own wait List.mem_cons_self here), List.map_cons,
        rest, here, if_pos ⟨wait, List.mem_cons_self, here⟩]
    · rw [List.filter_cons, if_neg (by simpa using other wait List.mem_cons_self here), rest]
      simp [here]

/-- An event settles exactly its own wait if and only if no other takes it. -/
theorem drained_iff (inv : Inv s) (sent : FromModule s (.drained call event)) :
    SettlesOwn decodeReturnFrame s (.drained call event) ↔ Directed s (.drained call event) := by
  unfold SettlesOwn Directed
  simp only [L3.step]
  rw [dispatch_settles]
  show (s.listeners.filter (·.Hears event)).map _ = _ ↔ _
  obtain ⟨question, known, hears⟩ := sent.kinds
  constructor
  · rintro settled ⟨wait, listens, apart, takes⟩
    have other : (wait.call, arrived decodeReturnFrame event) ∈
        (s.listeners.filter (·.Hears event)).map fun wait =>
        (wait.call, arrived decodeReturnFrame event) :=
      List.mem_map.2 ⟨wait, List.mem_filter.2
        ⟨listens, by simpa using (hears_iff inv sent listens).2 takes⟩, rfl⟩
    rw [settled] at other
    split_ifs at other
    · exact apart (congrArg Prod.fst (List.mem_singleton.1 other))
    · cases other
  · intro directed
    refine filter_hears inv.unique ?_ ?_ _
    · intro wait listens same
      obtain ⟨question', known', shape⟩ := inv.own wait listens
      rw [same, known] at known'
      cases known'
      rw [shape, same]
      exact hears
    · intro wait listens apart takes
      exact directed ⟨wait, listens, apart, (hears_iff inv sent listens).1 takes⟩

/-- Actions other than events settle aborted waits only. -/
theorem others_settle_own (inv : Inv s) {action : Action}
    (other : ∀ call event, action ≠ .drained call event) :
    SettlesOwn decodeReturnFrame s action := by
  cases action with
  | sendAccept questionId => exact nofun
  | beginAccept call aborted =>
    intro settlement mem
    simp only [L3.step] at mem
    cases known : s.calls[call]? with
    | none => simp [known] at mem
    | some question =>
      rw [known] at mem
      by_cases sent : call ∈ s.sent
      · simp only [sent, if_true, State.waitForL3Return] at mem
        split_ifs at mem
        · obtain rfl := List.mem_singleton.1 mem
          have place : (question.wait call).call = call := by cases question <;> rfl
          exact ⟨rfl, by rw [place]; exact inv.waiting call sent⟩
        · cases mem
      · simp [sent] at mem
  | registerThirdPartyAwait aborted =>
    intro settlement mem
    simp only [L3.step, State.waitForL3Return] at mem
    split_ifs at mem
    · cases mem
    · obtain rfl := List.mem_singleton.1 mem
      exact ⟨rfl, fun listening => lt_irrefl _ (inv.listening_lt listening)⟩
    · cases mem
  | abort call =>
    unfold SettlesOwn
    simp only [L3.step]
    split_ifs <;> rfl
  | awaitSettled =>
    intro settlement mem
    simp only [L3.step] at mem
    cases pending : s.pendingAwait with
    | none => simp [pending] at mem
    | some call =>
      rw [pending] at mem
      by_cases listening : s.Listening call
      · simp [listening] at mem
      · simp [listening] at mem
  | drained call event => exact absurd rfl (other call event)

theorem waitForL3Return_listens {wait wait' : L3Wait} {aborted : Bool}
    (listens : wait ∈ s.listeners) :
    wait ∈ (s.waitForL3Return wait' aborted).1.listeners := by
  cases aborted with
  | true => exact listens
  | false => exact List.mem_append_left _ listens

/-- A wait listens until it is settled. -/
theorem listens_until_settled (action : Action) {wait : L3Wait} (listens : wait ∈ s.listeners) :
    wait ∈ (step decodeReturnFrame s action).1.listeners ∨
      wait.call ∈ (step decodeReturnFrame s action).2.map Prod.fst := by
  cases action with
  | sendAccept questionId => exact .inl listens
  | beginAccept call aborted =>
    simp only [L3.step]
    cases known : s.calls[call]? with
    | none => exact .inl listens
    | some question =>
      by_cases sent : call ∈ s.sent
      · simp only [sent, if_true]
        exact .inl (waitForL3Return_listens listens)
      · simp only [sent, if_false]
        exact .inl listens
  | registerThirdPartyAwait aborted =>
    simp only [L3.step]
    split_ifs
    · exact .inl listens
    · exact .inl (waitForL3Return_listens listens)
  | abort call =>
    simp only [L3.step]
    split_ifs
    · by_cases same : wait.call = call
      · exact .inr (by simp [same])
      · exact .inl (List.mem_filter.2 ⟨listens, by simpa using same⟩)
    · exact .inl listens
  | awaitSettled =>
    simp only [L3.step]
    cases pending : s.pendingAwait with
    | none => exact .inl listens
    | some call =>
      by_cases listening : s.Listening call
      · simp only [listening, if_true]
        exact .inl listens
      · simp only [listening, if_false]
        exact .inl listens
  | drained call event =>
    simp only [L3.step]
    rw [dispatch_state, dispatch_settles]
    by_cases taken : ∃ wait' ∈ s.listeners, wait'.Hears event ∧ wait.call = wait'.call
    · obtain ⟨wait', listens', takes, same⟩ := taken
      refine .inr (List.mem_map.2 ⟨(wait'.call, arrived decodeReturnFrame event), ?_, same.symm⟩)
      exact List.mem_map.2 ⟨wait', List.mem_filter.2 ⟨listens', by simpa using takes⟩, rfl⟩
    · refine .inl (List.mem_filter.2 ⟨listens, List.all_eq_true.2 fun wait' listens' => ?_⟩)
      exact decide_eq_true fun takes same => taken ⟨wait', listens', takes, same⟩

/-! ## Runs -/

theorem run_iff (inv : Inv s) {run : List Action}
    (sent : Machine.Always (step decodeReturnFrame) FromModule s run) :
    Machine.Always (step decodeReturnFrame) (SettlesOwn decodeReturnFrame) s run ↔
      Machine.Always (step decodeReturnFrame) Directed s run := by
  induction run generalizing s with
  | nil => exact Iff.rfl
  | cons action run ih =>
    obtain ⟨first, rest⟩ := sent
    refine and_congr ?_ (ih (inv.step action) rest)
    cases action with
    | drained call event => exact drained_iff inv first
    | sendAccept | beginAccept | registerThirdPartyAwait | abort | awaitSettled =>
      exact iff_of_true (others_settle_own inv nofun) trivial

end

/-- An Accept with question 7 and its Return, and an await that is aborted before its Return
comes. -/
def directedRun : List Action :=
  [.sendAccept 7, .beginAccept 0 false, .registerThirdPartyAwait false,
    .drained 0 ⟨L3_EVENT_ACCEPT_RETURN, 7, []⟩,
    .abort 1, .awaitSettled, .drained 1 ⟨L3_EVENT_AWAIT_RETURN, 0, []⟩]

/-- A codec that rejects every frame. -/
def rejectFrame (_ : Bytes) : Except Thrown RpcReturnMessage :=
  .error (protocolError "unexpected message")

/-- An Accept with question 7 and an await, and an exception for the Accept. -/
def exceptionRun : List Action :=
  [.sendAccept 7, .beginAccept 0 false, .registerThirdPartyAwait false,
    .drained 0 ⟨L3_EVENT_RETURN_EXCEPTION, 7, []⟩]

/-- An await that is aborted, another one, and the Return of the first. -/
def abortedRun : List Action :=
  [.registerThirdPartyAwait false, .abort 0, .awaitSettled, .registerThirdPartyAwait false,
    .drained 0 ⟨L3_EVENT_AWAIT_RETURN, 0, []⟩]

end L3

end CapnpDeno
