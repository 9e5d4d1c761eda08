import CapnpDeno.Errors
import CapnpDeno.Lib.Heap
import CapnpDeno.Lib.Runs

/-!
# CircuitBreaker

The breaker before a connection factory.  A call whose factory was started is known by its place.  A
step is a stretch of the source between two awaits; the observer of the state changes calls nothing
of the breaker.
-/

namespace CapnpDeno

inductive CircuitBreakerState
  | closed
  | opened
  | halfOpen
deriving DecidableEq

/-- The constructor throws unless the bounds hold. -/
structure CircuitBreakerOptions where
  maxConsecutiveFailures : ℕ
  cooldownMs : ℚ
  positive : 0 < maxConsecutiveFailures
  cooldownPositive : 0 < cooldownMs

/-- A call whose factory was started; `forgotten` says that there was a reset since then. -/
structure BreakerCall where
  halfOpenProbe : Bool
  forgotten : Bool
  settled : Bool
deriving DecidableEq

structure CircuitBreaker where
  options : CircuitBreakerOptions
  state : CircuitBreakerState
  consecutiveFailures : ℕ
  openedAtMs : Option ℚ
  halfOpenProbeInFlight : Bool
  now : ℚ
  calls : List BreakerCall

inductive BreakerEvent (τ : Type)
  /-- Time passes; the clock never goes back. -/
  | clock (now : ℚ)
  | call
  /-- The promise of a factory settles. -/
  | settles (call : ℕ) (outcome : Except Thrown τ)
  | reset

inductive BreakerEffect (τ : Type)
  | factory (call : ℕ) (halfOpenProbe : Bool) (now : ℚ)
  | rejected (error : Thrown)
  | settled (call : ℕ) (outcome : Except Thrown τ)
  | stateChange (before after : CircuitBreakerState) (now : ℚ)

/-- It was started in `HALF_OPEN`, and its factory has not settled. -/
def BreakerCall.probes (c : BreakerCall) : Bool := c.halfOpenProbe && !c.settled

namespace CircuitBreaker

variable {τ : Type}

def transitionTo (s : CircuitBreaker) (newState : CircuitBreakerState) :
    CircuitBreaker × List (BreakerEffect τ) :=
  if s.state = newState then (s, [])
  else ({ s with state := newState }, [.stateChange s.state newState s.now])

/-- `call`, from the check of the state `HALF_OPEN` up to the call of the factory. -/
def startFactory (s : CircuitBreaker) : CircuitBreaker × List (BreakerEffect τ) :=
  if s.state = .halfOpen then
    if s.halfOpenProbeInFlight then
      (s, [.rejected (transportError "circuit breaker half-open probe already in progress")])
    else
      ({ s with halfOpenProbeInFlight := true, calls := s.calls ++ [⟨true, false, false⟩] },
        [.factory s.calls.length true s.now])
  else ({ s with calls := s.calls ++ [⟨false, false, false⟩] },
    [.factory s.calls.length false s.now])

def call (s : CircuitBreaker) : CircuitBreaker × List (BreakerEffect τ) :=
  if s.state = .opened then
    let elapsed := s.now - s.openedAtMs.getD s.now
    if elapsed < s.options.cooldownMs then
      (s, [.rejected (transportError
        s!"circuit breaker is open; {s.options.cooldownMs - elapsed}ms remaining in cooldown")])
    else
      let (s, changes) := s.transitionTo .halfOpen
      let (s, effects) := s.startFactory
      (s, changes ++ effects)
  else s.startFactory

def onSuccess (s : CircuitBreaker) : CircuitBreaker × List (BreakerEffect τ) :=
  transitionTo { s with consecutiveFailures := 0, openedAtMs := none } .closed

def onFailure (s : CircuitBreaker) : CircuitBreaker × List (BreakerEffect τ) :=
  let s := { s with consecutiveFailures := s.consecutiveFailures + 1 }
  if s.state = .halfOpen ∨ s.state = .closed ∧ s.options.maxConsecutiveFailures ≤
    s.consecutiveFailures then
    transitionTo { s with openedAtMs := some s.now } .opened
  else (s, [])

/-- The `finally` of `call`. -/
def finish (s : CircuitBreaker) (call : ℕ) (c : BreakerCall) : CircuitBreaker :=
  { s with
    calls := s.calls.set call { c with settled := true }
    halfOpenProbeInFlight := if c.halfOpenProbe then false else s.halfOpenProbeInFlight }

def settles (s : CircuitBreaker) (call : ℕ) (c : BreakerCall) (outcome : Except Thrown τ) :
    CircuitBreaker × List (BreakerEffect τ) :=
  let (s, effects) :=
    match outcome with
    | .ok _ => s.onSuccess
    | .error _ => s.onFailure
  (s.finish call c, effects ++ [.settled call outcome])

def reset (s : CircuitBreaker) : CircuitBreaker × List (BreakerEffect τ) :=
  transitionTo { s with
    halfOpenProbeInFlight := false
    consecutiveFailures := 0
    openedAtMs := none
    calls := s.calls.map fun c => { c with forgotten := true } } .closed

def step (s : CircuitBreaker) : BreakerEvent τ → CircuitBreaker × List (BreakerEffect τ)
  | .clock now => ({ s with now := max s.now now }, [])
  | .call => s.call
  | .settles call outcome =>
    match s.calls[call]? with
    | some c => if c.settled then (s, []) else s.settles call c outcome
    | none => (s, [])
  | .reset => s.reset

def initial (options : CircuitBreakerOptions) (now : ℚ) : CircuitBreaker :=
  ⟨options, .closed, 0, none, false, now, []⟩

/-! ## One step -/

variable {s : CircuitBreaker} {past : List (BreakerEffect τ)}

/-- The time of the last opening, if the circuit was not closed since. -/
def noteOpening (opening : Option ℚ) : BreakerEffect τ → Option ℚ
  | .stateChange _ .opened now => some now
  | .stateChange _ .closed _ => none
  | .stateChange _ .halfOpen _ | .factory _ _ _ | .rejected _ | .settled _ _ => opening

def lastOpening (past : List (BreakerEffect τ)) : Option ℚ := past.foldl noteOpening none

/-- A factory is started only if the cooldown of the last opening is over. -/
def Cooled (cooldownMs : ℚ) (before : List (BreakerEffect τ)) (effect : BreakerEffect τ) : Prop :=
  ∀ call probe now, effect = .factory call probe now → ∀ openedAt, lastOpening before =
    some openedAt →
    cooldownMs ≤ now - openedAt

/-- What holds between two steps, beside the effects so far. -/
structure Dated (past : List (BreakerEffect τ)) (s : CircuitBreaker) : Prop where
  closed : s.state = .closed → lastOpening past = none ∧ s.consecutiveFailures <
    s.options.maxConsecutiveFailures
  opened : s.state ≠ .closed → ∃ openedAt, s.openedAtMs = some openedAt ∧ lastOpening past =
    some openedAt ∧
    (s.state = .halfOpen → s.options.cooldownMs ≤ s.now - openedAt)
  cooled : Machine.Follows (Cooled s.options.cooldownMs) past

theorem lastOpening_append (past effects : List (BreakerEffect τ)) :
    lastOpening (past ++ effects) = effects.foldl noteOpening (lastOpening past) :=
  List.foldl_append

/-- Effects that start no factory. -/
theorem cooled_silent {cooldownMs : ℚ} {effects : List (BreakerEffect τ)}
    (cooled : Machine.Follows (Cooled cooldownMs) past)
    (silent : ∀ effect ∈ effects, ∀ call probe now, effect ≠ .factory call probe now) :
    Machine.Follows (Cooled cooldownMs) (past ++ effects) := by
  refine cooled.append fun before effect after same call probe now starts => ?_
  exact absurd starts (silent effect (by simp [same]) call probe now)

theorem dated_initial (options : CircuitBreakerOptions) (now : ℚ) :
    Dated ([] : List (BreakerEffect τ)) (initial options now) := by
  refine ⟨fun _ => ⟨rfl, options.positive⟩, fun other => absurd rfl other, Machine.follows_nil⟩

theorem dated_clock (dated : Dated past s) (now : ℚ) :
    Dated past { s with now := max s.now now } := by
  refine ⟨dated.closed, fun other => ?_, dated.cooled⟩
  obtain ⟨openedAt, at', last, half⟩ := dated.opened other
  refine ⟨openedAt, at', last, fun state => ?_⟩
  have later : s.now ≤ max s.now now := le_max_left _ _
  have elapsed := half state
  dsimp only
  linarith

/-- A factory is started outside the state `OPEN`. -/
theorem dated_startFactory (dated : Dated past s) (state : s.state ≠ .opened) :
    Dated (past ++ (startFactory (τ := τ) s).2) (startFactory (τ := τ) s).1 := by
  have starts (probe : Bool) : Machine.Follows (Cooled s.options.cooldownMs)
      (past ++ [.factory s.calls.length probe s.now]) := by
    refine dated.cooled.append fun before effect after same call probe now started openedAt last =>
      ?_
    obtain ⟨rfl, rfl, -⟩ : before = [] ∧ _ = effect ∧ after = [] := by
      cases before with
      | nil => exact ⟨rfl, by simpa using same⟩
      | cons => simp at same
    obtain ⟨-, -, rfl⟩ : _ ∧ _ ∧ s.now = now := by simpa using started
    rw [List.append_nil] at last
    cases here : s.state with
    | opened => exact absurd here state
    | closed => simp [(dated.closed here).1] at last
    | halfOpen =>
      obtain ⟨at', -, there, half⟩ := dated.opened (by simp [here])
      obtain rfl : at' = openedAt := by simpa [there] using last
      exact half here
  unfold startFactory
  split_ifs with half probe
  · exact ⟨by simpa [lastOpening_append, noteOpening] using dated.closed,
      by simpa [lastOpening_append, noteOpening] using dated.opened,
        cooled_silent dated.cooled (by simp)⟩
  · exact ⟨by simpa [lastOpening_append, noteOpening] using dated.closed,
      by simpa [lastOpening_append, noteOpening] using dated.opened, starts true⟩
  · exact ⟨by simpa [lastOpening_append, noteOpening] using dated.closed,
      by simpa [lastOpening_append, noteOpening] using dated.opened, starts false⟩

theorem dated_call (dated : Dated past s) :
    Dated (past ++ (call (τ := τ) s).2) (call (τ := τ) s).1 := by
  unfold call
  by_cases here : s.state = .opened
  · obtain ⟨openedAt, at', last, -⟩ := dated.opened (by simp [here])
    rw [if_pos here, at']
    dsimp only [Option.getD_some]
    split_ifs with early
    · exact ⟨by simp [here], fun _ => ⟨openedAt, at', by
        simp [lastOpening_append, noteOpening, last], by simp [here]⟩,
        cooled_silent dated.cooled (by simp)⟩
    · have changed : Dated (past ++ [.stateChange .opened .halfOpen s.now])
          { s with state := .halfOpen } := by
        refine ⟨by simp, fun _ => ⟨openedAt, at', ?_, fun _ => not_lt.1 early⟩,
          cooled_silent dated.cooled (by simp)⟩
        simpa [lastOpening_append, noteOpening] using last
      have started := dated_startFactory changed (by simp)
      simpa [transitionTo, here] using started
  · rw [if_neg here]
    exact dated_startFactory dated here

/-- What `Dated` says of the state is about five fields. -/
theorem Dated.same {t : CircuitBreaker} (dated : Dated past s) (options : t.options = s.options)
    (state : t.state = s.state) (failures : t.consecutiveFailures = s.consecutiveFailures)
    (openedAt : t.openedAtMs = s.openedAtMs) (now : t.now = s.now) : Dated past t := by
  obtain ⟨closed, opened, cooled⟩ := dated
  constructor
  · rwa [state, options, failures]
  · rwa [state, options, openedAt, now]
  · rwa [options]

/-- The circuit closes, and the failures are forgotten. -/
theorem dated_close (cooled : Machine.Follows (Cooled s.options.cooldownMs) past)
    (closed : s.state = .closed → lastOpening past = none) (failures : s.consecutiveFailures = 0) :
    Dated (past ++ (transitionTo (τ := τ) s .closed).2) (transitionTo (τ := τ) s .closed).1 := by
  unfold transitionTo
  split_ifs with here
  · refine ⟨fun _ => ⟨by simpa using closed here, ?_⟩, fun other =>
      absurd here other, by simpa using cooled⟩
    rw [failures]
    exact s.options.positive
  · refine ⟨fun _ => ⟨by simp [lastOpening_append, noteOpening], ?_⟩, fun other => absurd rfl other,
      cooled_silent cooled (by simp)⟩
    dsimp only
    rw [failures]
    exact s.options.positive

theorem dated_onSuccess (dated : Dated past s) :
    Dated (past ++ (onSuccess (τ := τ) s).2) (onSuccess (τ := τ) s).1 := by
  unfold onSuccess
  apply dated_close
  · exact dated.cooled
  · exact fun here => (dated.closed here).1
  · rfl

theorem dated_reset (dated : Dated past s) :
    Dated (past ++ (reset (τ := τ) s).2) (reset (τ := τ) s).1 := by
  unfold reset
  apply dated_close
  · exact dated.cooled
  · exact fun here => (dated.closed here).1
  · rfl

theorem dated_onFailure (dated : Dated past s) :
    Dated (past ++ (onFailure (τ := τ) s).2) (onFailure (τ := τ) s).1 := by
  unfold onFailure
  dsimp only
  split_ifs with opens
  · have away : s.state ≠ .opened := by
      rintro here
      simp [here] at opens
    unfold transitionTo
    rw [if_neg away]
    refine ⟨by simp, fun _ => ⟨s.now, rfl, by simp [lastOpening_append, noteOpening], by simp⟩,
      cooled_silent dated.cooled (by simp)⟩
  · rw [List.append_nil]
    refine ⟨fun here => ?_, dated.opened, dated.cooled⟩
    have few : ¬ s.options.maxConsecutiveFailures ≤ s.consecutiveFailures + 1 :=
      fun many => opens (.inr ⟨here, many⟩)
    exact ⟨(dated.closed here).1, not_le.1 few⟩

theorem dated_settles (dated : Dated past s) (call : ℕ) (c : BreakerCall)
    (outcome : Except Thrown τ) :
    Dated (past ++ (s.settles call c outcome).2) (s.settles call c outcome).1 := by
  have finished {t : CircuitBreaker} {effects : List (BreakerEffect τ)}
      (dated : Dated (past ++ effects) t) :
      Dated (past ++ (effects ++ [.settled call outcome])) (t.finish call c) := by
    rw [← List.append_assoc]
    have kept : Dated (past ++ effects) (t.finish call c) := dated.same rfl rfl rfl rfl rfl
    refine ⟨?_, ?_, cooled_silent kept.cooled (by simp)⟩
    · simpa [lastOpening_append, noteOpening] using kept.closed
    · simpa [lastOpening_append, noteOpening] using kept.opened
  unfold settles
  cases outcome with
  | ok value => exact finished (dated_onSuccess dated)
  | error error => exact finished (dated_onFailure dated)

theorem dated_step (dated : Dated past s) (event : BreakerEvent τ) :
    Dated (past ++ (s.step event).2) (s.step event).1 := by
  have still : Dated (past ++ []) s := by rwa [List.append_nil]
  cases event with
  | clock now =>
    have later := dated_clock dated now
    rwa [← List.append_nil past] at later
  | call => exact dated_call dated
  | settles call outcome =>
    unfold step
    dsimp only
    split
    · split_ifs
      · exact still
      · exact dated_settles dated call _ outcome
    · exact still
  | reset => exact dated_reset dated

/-! ## Probes -/

/-- The factories that were started in `HALF_OPEN` since the last reset and have not settled. -/
def freshProbes (s : CircuitBreaker) : ℕ := s.calls.countP fun c => c.probes && !c.forgotten

/-- A probe from before a reset settles while a later one is outstanding. -/
def settlesForgotten (s : CircuitBreaker) : BreakerEvent τ → Bool
  | .settles call _ => (s.calls[call]?.any fun c => c.probes && c.forgotten) && 0 < s.freshProbes
  | .clock _ | .call | .reset => false

/-- As long as a probe is outstanding, its flag is set. -/
def Flagged (s : CircuitBreaker) : Prop := s.freshProbes ≤ if s.halfOpenProbeInFlight then 1 else 0

theorem flagged_transition {t : CircuitBreaker} (flagged : Flagged s) (calls : t.calls = s.calls)
    (flag : t.halfOpenProbeInFlight = s.halfOpenProbeInFlight) : Flagged t := by
  unfold Flagged freshProbes at flagged ⊢
  rwa [calls, flag]

theorem transitionTo_calls (s : CircuitBreaker) (newState : CircuitBreakerState) :
    (transitionTo (τ := τ) s newState).1.calls = s.calls ∧
      (transitionTo (τ := τ) s newState).1.halfOpenProbeInFlight = s.halfOpenProbeInFlight := by
  unfold transitionTo
  split_ifs <;> exact ⟨rfl, rfl⟩

theorem flagged_startFactory (flagged : Flagged s) : Flagged (startFactory (τ := τ) s).1 := by
  unfold startFactory
  split_ifs with half probe
  · exact flagged
  · simp_all [Flagged, freshProbes, BreakerCall.probes]
  · simpa [Flagged, freshProbes, BreakerCall.probes] using flagged

theorem flagged_call (flagged : Flagged s) : Flagged (call (τ := τ) s).1 := by
  unfold call
  dsimp only
  split_ifs with here early
  · exact flagged
  · have same := transitionTo_calls (τ := τ) s .halfOpen
    exact flagged_startFactory (flagged_transition flagged same.1 same.2)
  · exact flagged_startFactory flagged

theorem flagged_reset : Flagged (reset (τ := τ) s).1 := by
  unfold reset
  obtain ⟨calls, -⟩ := transitionTo_calls (τ := τ) { s with
    halfOpenProbeInFlight := false
    consecutiveFailures := 0
    openedAtMs := none
    calls := s.calls.map fun c => { c with forgotten := true } } .closed
  have none' : freshProbes (transitionTo (τ := τ) { s with
      halfOpenProbeInFlight := false
      consecutiveFailures := 0
      openedAtMs := none
      calls := s.calls.map fun c => { c with forgotten := true } } .closed).1 = 0 := by
    unfold freshProbes
    rw [calls]
    simp [List.countP_eq_zero]
  unfold Flagged
  rw [none']
  exact Nat.zero_le _

theorem flagged_finish {call : ℕ} {c : BreakerCall} (flagged : Flagged s)
    (found : s.calls[call]? = some c) (unsettled : c.settled = false)
    (kept : c.probes = true → c.forgotten = true → s.freshProbes = 0) :
    Flagged (s.finish call c) := by
  obtain ⟨inside, here⟩ := List.getElem?_eq_some_iff.1 found
  have counted := List.countP_set (p := fun c => c.probes && !c.forgotten)
    (a := { c with settled := true }) inside
  unfold Flagged freshProbes finish at *
  dsimp only
  rw [counted, here]
  have one : (if s.halfOpenProbeInFlight = true then 1 else 0) ≤ 1 := by split_ifs <;> omega
  cases probe : c.halfOpenProbe <;> cases gone : c.forgotten <;> simp_all [BreakerCall.probes]
  omega

theorem flagged_settles {call : ℕ} {c : BreakerCall} {outcome : Except Thrown τ}
    (flagged : Flagged s) (found : s.calls[call]? = some c) (unsettled : c.settled = false)
    (allowed : s.settlesForgotten (.settles call outcome) = false) :
    Flagged (s.settles call c outcome).1 := by
  have kept : c.probes = true → c.forgotten = true → s.freshProbes = 0 := by
    intro probes gone
    by_contra some'
    have positive := Nat.pos_of_ne_zero some'
    simp [settlesForgotten, found, probes, gone, positive] at allowed
  have finished {t : CircuitBreaker} (calls : t.calls = s.calls)
      (flag : t.halfOpenProbeInFlight = s.halfOpenProbeInFlight) : Flagged (t.finish call c) := by
    apply flagged_finish (flagged_transition flagged calls flag)
    · rwa [calls]
    · exact unsettled
    · unfold freshProbes at kept ⊢
      rwa [calls]
  unfold settles
  cases outcome with
  | ok value =>
    obtain ⟨calls, flag⟩ := transitionTo_calls (τ := τ)
      { s with consecutiveFailures := 0, openedAtMs := none } .closed
    exact finished calls flag
  | error error =>
    have same : (onFailure (τ := τ) s).1.calls = s.calls ∧
        (onFailure (τ := τ) s).1.halfOpenProbeInFlight = s.halfOpenProbeInFlight := by
      unfold onFailure
      dsimp only
      split_ifs
      · apply transitionTo_calls
      · exact ⟨rfl, rfl⟩
    exact finished same.1 same.2

theorem flagged_step {event : BreakerEvent τ} (allowed : s.settlesForgotten event = false)
    (flagged : Flagged s) :
    Flagged (s.step event).1 := by
  cases event with
  | clock now => exact flagged
  | call => exact flagged_call flagged
  | settles call outcome =>
    unfold step
    dsimp only
    split
    · next c found =>
      split_ifs with settled
      · exact flagged
      · exact flagged_settles flagged found (by simpa using settled) allowed
    · exact flagged
  | reset => exact flagged_reset

/-! ## Runs -/

theorem dated_run (options : CircuitBreakerOptions) (now : ℚ) (events : List (BreakerEvent τ)) :
    Dated (Machine.shown step (initial options now) events)
    (Machine.final step (initial options now) events) := by
  have always : Machine.Always step (fun _ _ => True) (initial options now) events :=
    Machine.always_of_forall (fun _ _ => trivial) events
  exact always.history (P := fun past s => Dated past s)
    (fun past s event _ dated => dated_step dated event)
    (dated_initial options now)

theorem step_options (s : CircuitBreaker) (event : BreakerEvent τ) :
    (s.step event).1.options = s.options := by
  have changes (s : CircuitBreaker) (newState : CircuitBreakerState) :
      (transitionTo (τ := τ) s newState).1.options = s.options := by
    unfold transitionTo
    split_ifs <;> rfl
  have starts (s : CircuitBreaker) : (startFactory (τ := τ) s).1.options = s.options := by
    unfold startFactory
    split_ifs <;> rfl
  cases event with
  | clock => rfl
  | call =>
    unfold step call
    dsimp only
    split_ifs
    · rfl
    · exact (starts _).trans (changes s .halfOpen)
    · exact starts s
  | settles call outcome =>
    unfold step
    dsimp only
    split
    · split_ifs
      · rfl
      · unfold settles
        cases outcome with
        | ok => exact changes _ .closed
        | error =>
          simp only [onFailure, finish]
          split_ifs
          · exact changes _ .opened
          · rfl
    · rfl
  | reset => exact changes _ .closed

theorem final_options (options : CircuitBreakerOptions) (now : ℚ) (events : List (BreakerEvent τ)) :
    (Machine.final step (initial options now) events).options = options := by
  apply Machine.invariant (P := fun s : CircuitBreaker => s.options = options)
  · exact fun s event same => (step_options s event).trans same
  · rfl

theorem startFactory_closed (state : (startFactory (τ := τ) s).1.state = .closed) :
    s.state = .closed := by
  unfold startFactory at state
  split_ifs at state <;> exact state

/-- Only a reset and a success close the circuit. -/
theorem closes_step {event : BreakerEvent τ} (before : s.state ≠ .closed)
    (after : (s.step event).1.state = .closed) :
    event = .reset ∨ ∃ call value c, event = .settles call (.ok value) ∧ s.calls[call]? = some c ∧
      c.settled = false := by
  cases event with
  | clock now => exact absurd after before
  | call =>
    simp only [step, call, transitionTo] at after
    split_ifs at after with opened early same
    · exact absurd after before
    · exact absurd (startFactory_closed after) before
    · have half := startFactory_closed after
      cases half
    · exact absurd (startFactory_closed after) before
  | settles call outcome =>
    unfold step at after
    dsimp only at after
    split at after
    · next c found =>
      split_ifs at after with settled
      · exact absurd after before
      · cases outcome with
        | ok value => exact .inr ⟨call, value, c, rfl, found, by simpa using settled⟩
        | error error =>
          simp only [settles, onFailure, finish, transitionTo] at after
          split_ifs at after <;> simp_all
    · exact absurd after before
  | reset => exact .inl rfl

/-- No factory is started in the cooldown, a success or a reset closes the circuit and nothing else,
and a closed circuit has had fewer failures than it may.  Of the probes since the last reset one is
outstanding at most, unless an older one settles meanwhile. -/
theorem circuit_safe (options : CircuitBreakerOptions) (now : ℚ) (events : List (BreakerEvent τ)) :
    Machine.Follows (Cooled options.cooldownMs) (Machine.shown step (initial options now) events) ∧
      (Machine.Always step (fun s event => s.settlesForgotten event = false)
        (initial options now) events →
        (Machine.final step (initial options now) events).freshProbes ≤ 1) ∧
      (∀ event : BreakerEvent τ, (Machine.final step (initial options now) events).state ≠ .closed →
        ((Machine.final step (initial options now) events).step event).1.state = .closed →
        event = .reset ∨ ∃ call value c, event = .settles call (.ok value) ∧
          (Machine.final step (initial options now) events).calls[call]? = some c ∧
            c.settled = false) ∧
      ((Machine.final step (initial options now) events).state = .closed →
        (Machine.final step (initial options now) events).consecutiveFailures <
          options.maxConsecutiveFailures) := by
  have dated := dated_run options now events
  have same := final_options options now events
  have cooled := dated.cooled
  have closed := dated.closed
  rw [same] at cooled closed
  refine ⟨cooled, fun allowed => ?_, fun event => closes_step, fun state => (closed state).2⟩
  have flagged := allowed.invariant (P := Flagged)
    (fun s event ok flagged => flagged_step ok flagged)
    (Nat.zero_le _)
  apply flagged.trans
  split_ifs <;> decide

/-- One failure is too many, and the cooldown is ten milliseconds. -/
def oneFailure : CircuitBreakerOptions := ⟨1, 10, by decide, by norm_num⟩

/-- Two calls of which the first one fails. -/
def overlappingCalls : List (BreakerEvent Unit) :=
  [.call, .call, .settles 0 (.error (transportError "refused"))]

/-- One failure opens the circuit, and the success of a factory that was started before closes
it. -/
theorem circuit_closed_by_stale_success :
    (Machine.final step (initial oneFailure 0) overlappingCalls).state = .opened ∧
      (Machine.final step (initial oneFailure 0) overlappingCalls).calls =
        [⟨false, false, true⟩, ⟨false, false, false⟩] ∧
      (Machine.final step (initial oneFailure 0)
        (overlappingCalls ++ [.settles 1 (.ok ())])).state = .closed := by
  refine ⟨rfl, rfl, rfl⟩

end CircuitBreaker

end CapnpDeno
