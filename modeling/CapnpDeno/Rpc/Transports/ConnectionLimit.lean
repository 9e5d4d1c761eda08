import CapnpDeno.Rpc.Transports.PendingAcquires

/-!
# The connection limit

The pool looks for room by a count of its own, which leaves out the connections under a health
check, and those that are established and not taken over.  The limit is kept as long as no attempt
begins for which these leave no room; a wakeup of a pending acquire is not lost in any case.
-/

namespace CapnpDeno

namespace RpcConnectionPool

variable {s taken : RpcConnectionPool} {i : AcquireId} {conn : ConnId} {call : PoolAcquire}
  {past : List PoolEffect}

/-! ## The steps that begin an attempt -/

/-- The acquires that wait. -/
def waiting (s : RpcConnectionPool) : ℕ := s.acquires.countP (·.stage = .queued)

/-- The drain finds an acquire that waits, and room by the count of the pool, once `settled` of
those that wait have been settled, `served` of them with a connection. -/
def drains (s : RpcConnectionPool) (settled served : ℕ) : Bool :=
  !s.closed && settled < s.waiting &&
    s.idle.length + s.active.length + served + s.connecting < s.options.maxConnections

/-- No drain is under way, and one that is scheduled finds the same. -/
def schedules (s : RpcConnectionPool) (settled served : ℕ) : Bool :=
  s.drain = .off && s.drains settled served

/-- The acquire finds no idle connection, and room. -/
def finds (s : RpcConnectionPool) (aborted : Bool) : Bool :=
  !aborted && s.idle.isEmpty && s.canCreateConnection

/-- The outcome of the attempt makes the pool begin another. -/
def outcomeConnects (s : RpcConnectionPool) (conn : ConnId) (attempt : ConnectAttempt) : Bool :=
  match attempt.stage, attempt.owner with
  | .settled (some _), .acquire i =>
    s.acquires[i]?.any (·.stage = .connecting conn) && s.schedules 0 0
  | .settled none, .drain => s.drains 1 1
  | .settled (some _), .drain => s.drains 1 0
  | .settled none, .late => s.schedules 1 1
  | .settled (some _), .late => s.schedules 0 0
  | _, _ => false

/-- The event makes the pool begin an attempt. -/
def connects (s : RpcConnectionPool) : PoolEvent → Bool
  | .acquire aborted _ => !s.closed && s.finds (aborted.getD false)
  | .healthCheckSettles i false =>
    s.acquires[i]?.any fun call => call.stage.checks && s.finds call.aborted
  | .connectContinues conn => s.attempts[conn]?.any (s.outcomeConnects conn)
  | .abandonedContinues i => s.acquires[i]?.any (·.stage matches .abandoned _) && s.schedules 0 0
  | .closeSettles i => s.acquires[i]?.any (·.stage = .closing) && s.schedules 0 0
  | .drainEnds => s.drain = .ending && s.drains 0 0
  | .warmUpEnds conn => s.attempts[conn]?.any (·.stage = .warmedUp) && s.schedules 0 0
  | _ => false

/-- The pending list of a pool that is open. -/
def Listed (s : RpcConnectionPool) : Prop :=
  s.closed = false → PendingOk s.pending s.pendingSettled s.acquires

theorem rejectPendingAcquire_attempts (i : AcquireId) (error : Thrown) :
    (s.rejectPendingAcquire i error).1.attempts = s.attempts := by
  unfold rejectPendingAcquire compactPending
  split_ifs
  · rfl
  · dsimp only
    split_ifs <;> rfl

theorem handOver_attempts (call : PoolAcquire) (conn : ConnId) :
    (s.handOver i call conn).1.attempts = s.attempts := by
  unfold handOver
  split_ifs
  · rfl
  · exact handoffOrPark_attempts conn
  · rfl

theorem setAttempt_length (conn : ConnId) (f : ConnectAttempt → ConnectAttempt) :
    (s.setAttempt conn f).attempts.length = s.attempts.length := List.length_modify _ _ _

theorem waiting_goTo (found : s.acquires[i]? = some call) (queued : call.stage = .queued)
    {stage : AcquireStage} (gone : stage ≠ .queued) : (s.goTo i stage).waiting + 1 = s.waiting := by
  have counted :=
    Heap.sum_modify (fun call : PoolAcquire => if call.stage = .queued then 1 else 0) found
    (f := fun call => { call with stage := stage })
  rw [if_neg gone, if_pos queued] at counted
  have before := Heap.sum_countP (fun call : PoolAcquire => call.stage = .queued) s.acquires
  have after := Heap.sum_countP (fun call : PoolAcquire => call.stage = .queued)
    (s.goTo i stage).acquires
  simp only [decide_eq_true_eq] at before after
  unfold goTo at after ⊢
  unfold waiting
  dsimp only at after ⊢
  omega

theorem waiting_pos : 0 < s.waiting ↔ ∃ i, waits s.acquires i = true := by
  unfold waiting
  rw [List.countP_pos_iff]
  constructor
  · rintro ⟨call, mem, queued⟩
    obtain ⟨i, found⟩ := List.mem_iff_getElem?.1 mem
    exact ⟨i, waits_iff.2 ⟨call, found, of_decide_eq_true queued⟩⟩
  · rintro ⟨i, waiting⟩
    obtain ⟨call, found, queued⟩ := waits_iff.1 waiting
    exact ⟨call, List.mem_of_getElem? found, decide_eq_true queued⟩

/-- The count of the settled entries tells whether an acquire waits. -/
theorem hasPendingAcquires_iff (pending : PendingOk s.pending s.pendingSettled s.acquires) :
    s.hasPendingAcquires = decide (0 < s.waiting) := by
  unfold hasPendingAcquires
  have settled := pending.settled
  rw [decide_eq_decide, waiting_pos]
  constructor
  · intro fewer
    by_contra none
    have all : s.pending.countP (fun i => !waits s.acquires i) = s.pending.length := by
      rw [List.countP_eq_length]
      intro i _
      rw [Bool.not_eq_true', Bool.eq_false_iff]
      exact fun waiting => none ⟨i, waiting⟩
    omega
  · rintro ⟨i, waiting⟩
    have fewer : s.pending.countP (fun i => !waits s.acquires i) < s.pending.length := by
      refine lt_of_le_of_ne List.countP_le_length fun all => ?_
      have dead := List.countP_eq_length.1 all i (pending.queued i waiting)
      rw [waiting] at dead
      cases dead
    omega

theorem drains_now (s : RpcConnectionPool) :
    s.drains 0 0 = (!s.closed && decide (0 < s.waiting) && s.canCreateConnection) := rfl

theorem drainPendingAcquires_length (listed : s.Listed) :
    s.drainPendingAcquires.attempts.length = s.attempts.length + (s.drains 0 0).toNat := by
  rw [drains_now]
  unfold drainPendingAcquires
  cases free : s.closed with
  | true => rfl
  | false =>
    rw [hasPendingAcquires_iff (listed free)]
    unfold beginConnectAttempt
    split_ifs with begins room
    · rw [begins]
      exact List.length_append
    · exact absurd (Bool.and_eq_true_iff.1 begins).2 room
    · rw [Bool.eq_false_of_not_eq_true begins]
      rfl

theorem schedulePendingCreateDrain_length (listed : s.Listed) :
    s.schedulePendingCreateDrain.attempts.length = s.attempts.length + (s.schedules 0 0).toNat := by
  unfold schedulePendingCreateDrain schedules
  by_cases off : s.drain = .off
  · rw [decide_eq_true off, Bool.true_and, ← drainPendingAcquires_length listed]
    split_ifs with due
    · rfl
    · unfold drainPendingAcquires
      have rests : (!s.closed && s.hasPendingAcquires && s.canCreateConnection) ≠ true := by
        intro holds
        simp only [Bool.and_eq_true, Bool.not_eq_true'] at holds
        exact due ⟨off, holds.1.1, holds.1.2, holds.2⟩
      rw [if_neg rests]
  · rw [decide_eq_false off, if_neg fun due => off due.1]
    rfl

/-! ### The drain goes on -/

theorem drains_of_waiting {settled : ℕ} (few : s.waiting ≤ settled) (served : ℕ) :
    s.drains settled served = false := by
  unfold drains
  rw [decide_eq_false (Nat.not_lt.2 few), Bool.and_false, Bool.false_and]

theorem schedules_of_waiting {settled : ℕ} (few : s.waiting ≤ settled) (served : ℕ) :
    s.schedules settled served = false := by
  unfold schedules
  rw [drains_of_waiting few, Bool.and_false]

theorem take_exhausted (listed : s.Listed) (free : s.closed = false)
    (took : s.takeNextPendingAcquire = (taken, none)) : s.waiting = 0 := by
  have none := (takeNext_exhausted (listed free) took).2
  rw [(takeNext_lists took).2] at none
  refine Nat.eq_zero_of_not_pos fun some => ?_
  obtain ⟨i, waiting⟩ := waiting_pos.1 some
  rw [none i] at waiting
  cases waiting

/-- The next acquire that waits is settled. -/
theorem take_next (listed : s.Listed) (took : s.takeNextPendingAcquire = (taken, some i))
    {stage : AcquireStage} (gone : stage ≠ .queued) :
    (taken.goTo i stage).Listed ∧ (taken.goTo i stage).waiting + 1 = s.waiting := by
  obtain ⟨call, found, queued⟩ := takeNext_queued took
  have lists := (takeNext_lists took).2
  have relist := takeNext_relist took
  constructor
  · intro free
    rw [relist] at free
    exact takeNext_pending (listed free) took gone
  · have fewer := waiting_goTo found queued gone
    unfold waiting goTo at fewer ⊢
    dsimp only at fewer ⊢
    rwa [lists]

/-- The connection goes to an acquire that waits. -/
theorem handoff_next {given : List PoolEffect} (listed : s.Listed)
    (done : s.handoffPendingAcquire conn = (taken, given, true)) :
    taken.Listed ∧ taken.drain = s.drain ∧ taken.drains 0 0 = s.drains 1 1 := by
  unfold handoffPendingAcquire at done
  split at done
  · cases done
  · next next i took =>
    have relist := takeNext_relist took
    obtain ⟨after, fewer⟩ : (next.goTo i (.fulfilled conn)).Listed ∧ _ :=
      take_next listed took nofun
    cases done
    refine ⟨after, ?_, ?_⟩
    · change next.drain = s.drain
      rw [relist]
    · have more : decide (0 < (next.goTo i (.fulfilled conn)).waiting) =
          decide (1 < s.waiting) := by
        rw [decide_eq_decide]
        omega
      have length : (next.active ++ [conn]).length = next.active.length + 1 := List.length_append
      change (!next.closed && decide (0 < (next.goTo i (.fulfilled conn)).waiting) &&
        decide (next.idle.length + (next.active ++ [conn]).length + 0 + next.connecting <
          next.options.maxConnections)) = _
      rw [more, length, relist]
      rfl

/-- No acquire waits for the connection. -/
theorem handoff_exhausted {given : List PoolEffect} (listed : s.Listed) (free : s.closed = false)
    (done : s.handoffPendingAcquire conn = (taken, given, false)) :
    s.waiting = 0 ∧ taken.Listed ∧ taken.waiting = 0 := by
  unfold handoffPendingAcquire at done
  split at done
  · next next took =>
    have none := take_exhausted listed free took
    obtain ⟨after, -⟩ := takeNext_exhausted (listed free) took
    have lists := (takeNext_lists took).2
    cases done
    refine ⟨none, fun _ => after, ?_⟩
    unfold waiting at none ⊢
    rwa [lists]
  · cases done

/-! ### What a step begins -/

theorem takeIdle_length (s : RpcConnectionPool) (i : AcquireId) (call : PoolAcquire) :
    (s.takeIdle i call).1.attempts.length = s.attempts.length + (s.finds call.aborted).toNat := by
  unfold takeIdle finds
  split
  · next idle =>
    rw [idle, List.isEmpty_cons, Bool.and_false, Bool.false_and]
    dsimp only
    split_ifs
    · rfl
    · exact congrArg List.length (handOver_attempts call _)
  · next idle =>
    rw [idle, List.isEmpty_nil, Bool.and_true]
    unfold createConnection beginConnectAttempt
    split_ifs with room aborted aborted
    · rw [aborted]
      rfl
    · rw [Bool.eq_false_of_not_eq_true aborted, room]
      exact List.length_append
    · rw [aborted]
      rfl
    · rw [Bool.eq_false_of_not_eq_true aborted, Bool.eq_false_of_not_eq_true room]
      rfl

theorem failCreate_length (listed : s.Listed) (i : AcquireId) (error : Thrown) :
    (s.failCreate i error).1.attempts.length = s.attempts.length + (s.schedules 0 0).toNat :=
  schedulePendingCreateDrain_length listed

theorem continueDrain_connected (listed : s.Listed) (conn : ConnId) :
    (s.continueDrain conn none).1.attempts.length = s.attempts.length + (s.drains 1 1).toNat := by
  have given := handoffPendingAcquire_attempts (s := s) conn
  unfold continueDrain
  dsimp only
  split_ifs with closed
  · unfold drains
    rw [closed]
    rfl
  · have free := Bool.eq_false_of_not_eq_true closed
    split
    · next done =>
      obtain ⟨after, -, same⟩ := handoff_next listed done
      rw [done] at given
      rw [drainPendingAcquires_length after, same, given]
    · next done =>
      rw [done] at given
      rw [drains_of_waiting ((handoff_exhausted listed free done).1.trans_le (Nat.zero_le 1))]
      exact congrArg List.length given

theorem continueDrain_failed (listed : s.Listed) (conn : ConnId) (error : Thrown) :
    (s.continueDrain conn (some error)).1.attempts.length = s.attempts.length +
      (s.drains 1 0).toNat := by
  have lists := takeNext_attempts s
  unfold continueDrain
  dsimp only
  split
  · next next took =>
    rw [took] at lists
    have relist := takeNext_relist took
    by_cases free : s.closed = false
    · have none := take_exhausted listed free took
      have after : next.Listed := fun _ => (takeNext_exhausted (listed free) took).1
      have still : next.waiting = 0 := by
        unfold waiting at none ⊢
        rwa [(takeNext_lists took).2]
      rw [drainPendingAcquires_length after, drains_of_waiting still.le,
        drains_of_waiting (none.trans_le (Nat.zero_le 1))]
      exact congrArg List.length lists
    · have closed := Bool.eq_true_of_not_eq_false free
      have still : next.closed = true := by
        rw [relist]
        exact closed
      unfold drainPendingAcquires drains
      rw [still, closed]
      exact congrArg List.length lists
  · next next i took =>
    rw [took] at lists
    have relist := takeNext_relist took
    have gone : AcquireStage.rejected (normalizeConnectionCreateError error) ≠ .queued := nofun
    obtain ⟨after, fewer⟩ := take_next listed took gone
    have more :
        decide (0 < (next.goTo i (.rejected (normalizeConnectionCreateError error))).waiting) =
        decide (1 < s.waiting) := by
      rw [decide_eq_decide]
      omega
    have same : (next.goTo i (.rejected (normalizeConnectionCreateError error))).drains 0 0 =
        s.drains 1 0 := by
      unfold drains
      rw [more, relist]
      rfl
    dsimp only
    change (next.goTo i _).drainPendingAcquires.attempts.length = _
    rw [drainPendingAcquires_length after, same]
    exact congrArg (· + _) (congrArg List.length lists)

theorem continueLate_connected (listed : s.Listed) (conn : ConnId) :
    (s.continueLate conn none).1.attempts.length = s.attempts.length + (s.schedules 1 1).toNat := by
  have given := handoffPendingAcquire_attempts (s := s) conn
  unfold continueLate
  dsimp only
  split_ifs with closed
  · have none (settled served : ℕ) : s.schedules settled served = false := by
      unfold schedules drains
      rw [closed]
      exact Bool.and_false _
    rw [schedulePendingCreateDrain_length listed, none, none]
  · have free := Bool.eq_false_of_not_eq_true closed
    split
    · next done =>
      obtain ⟨after, drain, same⟩ := handoff_next listed done
      rw [done] at given
      unfold schedules
      rw [← drain, ← same]
      exact (schedulePendingCreateDrain_length after).trans (congrArg (· + _)
        (congrArg List.length given))
    · next done =>
      obtain ⟨none, after, still⟩ := handoff_exhausted listed free done
      rw [done] at given
      rw [schedulePendingCreateDrain_length after, schedules_of_waiting still.le,
        schedules_of_waiting (none.trans_le (Nat.zero_le 1))]
      exact congrArg List.length given

theorem continueAcquire_length (listed : s.Listed) (i : AcquireId) (call : PoolAcquire)
    (conn : ConnId) (failure : Option Thrown) :
    (s.continueAcquire i call conn failure).1.attempts.length =
      s.attempts.length + (failure.isSome && s.schedules 0 0).toNat := by
  unfold continueAcquire
  cases failure with
  | none =>
    dsimp only
    split_ifs <;> exact setAttempt_length conn _
  | some error =>
    have fails (f : ConnectAttempt → ConnectAttempt) :
        ((s.setAttempt conn f).failCreate i error).1.attempts.length =
        s.attempts.length + (s.schedules 0 0).toNat := by
      have after : (s.setAttempt conn f).Listed := listed
      rw [failCreate_length after, setAttempt_length]
      rfl
    dsimp only
    split_ifs <;> exact fails _

theorem connectContinues_length (listed : s.Listed) (conn : ConnId) (attempt : ConnectAttempt) :
    (s.connectContinues conn attempt).1.attempts.length =
      s.attempts.length + (s.outcomeConnects conn attempt).toNat := by
  obtain ⟨owner, stage⟩ := attempt
  unfold connectContinues outcomeConnects
  cases stage with
  | connecting | warmedUp | taken => rfl
  | settled failure =>
    have taken (f : ConnectAttempt → ConnectAttempt) : (s.setAttempt conn f).Listed := listed
    cases owner with
    | acquire i =>
      cases failure with
      | none =>
        dsimp only
        split
        · split_ifs
          · exact continueAcquire_length listed i _ conn none
          · rfl
        · rfl
      | some error =>
        dsimp only
        cases s.acquires[i]? with
        | none => rfl
        | some call =>
          dsimp only
          rw [Option.any_some]
          split_ifs with stands
          · rw [decide_eq_true stands]
            exact continueAcquire_length listed i call conn (some error)
          · rw [decide_eq_false stands]
            rfl
    | drain =>
      cases failure with
      | none =>
        exact (continueDrain_connected (taken _) conn).trans (congrArg (· + _)
          (setAttempt_length conn _))
      | some error =>
        exact (continueDrain_failed (taken _) conn error).trans (congrArg (· + _)
          (setAttempt_length conn _))
    | warmUp =>
      unfold continueWarmUp
      cases failure with
      | none =>
        dsimp only
        split_ifs
        · exact setAttempt_length conn _
        · exact (congrArg List.length (handoffOrPark_attempts conn)).trans
            (setAttempt_length conn _)
      | some error => exact setAttempt_length conn _
    | late =>
      cases failure with
      | none =>
        exact (continueLate_connected (taken _) conn).trans (congrArg (· + _)
          (setAttempt_length conn _))
      | some error =>
        exact (schedulePendingCreateDrain_length (taken _)).trans (congrArg (· + _)
          (setAttempt_length conn _))
    | closing => cases failure <;> exact setAttempt_length conn _

/-- The attempts that a step begins: one at most, and that is told by the state before it. -/
theorem attempts_step (listed : s.Listed) (event : PoolEvent) :
    (s.step event).1.attempts.length = s.attempts.length + (s.connects event).toNat := by
  cases event with
  | acquire aborted timeoutMs =>
    unfold step acquire connects
    dsimp only
    split_ifs with gone closed
    · unfold finds
      rw [gone, Bool.not_true, Bool.false_and, Bool.false_and, Bool.and_false]
      rfl
    · rw [closed]
      rfl
    · rw [takeIdle_length, Bool.eq_false_of_not_eq_true closed]
      rfl
  | healthCheckSettles i healthy =>
    unfold step atAcquire
    cases healthy with
    | true =>
      dsimp only
      unfold healthCheckSettles
      split
      · split
        · exact congrArg List.length (handOver_attempts _ _)
        · rfl
      · rfl
    | false =>
      unfold connects
      dsimp only
      cases s.acquires[i]? with
      | none => rfl
      | some call =>
        dsimp only
        rw [Option.any_some]
        unfold healthCheckSettles
        cases call.stage with
        | checking conn => exact takeIdle_length _ i call
        | _ => rfl
  | connectSettles conn failure =>
    unfold step atAttempt connectSettles
    dsimp only
    split
    · split
      · exact setAttempt_length conn _
      · rfl
    · rfl
  | connectContinues conn =>
    unfold step atAttempt connects
    dsimp only
    cases s.attempts[conn]? with
    | none => rfl
    | some attempt => exact connectContinues_length listed conn attempt
  | abandonedContinues i =>
    unfold step atAcquire connects
    dsimp only
    cases found : s.acquires[i]? with
    | none => rfl
    | some call =>
      dsimp only
      rw [Option.any_some]
      unfold abandonedContinues
      cases call.stage with
      | abandoned conn =>
        have after : (s.setAttempt conn fun attempt => { attempt with owner := .late }).Listed :=
          listed
        exact (failCreate_length after i _).trans (congrArg (· + _) (setAttempt_length conn _))
      | _ => rfl
  | closeSettles i =>
    unfold step atAcquire connects
    dsimp only
    cases found : s.acquires[i]? with
    | none => rfl
    | some call =>
      dsimp only
      rw [Option.any_some]
      unfold closeSettles
      cases call.stage with
      | closing => exact failCreate_length listed i _
      | _ => rfl
  | abort i =>
    unfold step atAcquire abort
    dsimp only
    split
    · split_ifs
      · split
        · exact congrArg List.length (rejectPendingAcquire_attempts _ _)
        · dsimp only
          split_ifs <;> rfl
        · rfl
      · rfl
    · rfl
  | timeout i =>
    unfold step atAcquire timeout
    dsimp only
    split
    · split
      · exact congrArg List.length (rejectPendingAcquire_attempts _ _)
      · rfl
    · rfl
  | release i =>
    unfold step atAcquire release
    dsimp only
    split
    · split
      · split_ifs
        · rfl
        · exact congrArg List.length (handoffOrPark_attempts _)
        · rfl
      · rfl
    · rfl
  | idleTimeout conn =>
    unfold step evictIdle
    dsimp only
    split
    · split_ifs <;> rfl
    · rfl
  | drainEnds =>
    unfold step connects
    dsimp only
    split_ifs with due
    · have after : Listed { s with drain := .off } := listed
      rw [due, schedulePendingCreateDrain_length after]
      rfl
    · rw [decide_eq_false due]
      rfl
  | warmUpEnds conn =>
    unfold step atAttempt connects
    dsimp only
    cases s.attempts[conn]? with
    | none => rfl
    | some attempt =>
      dsimp only
      rw [Option.any_some]
      unfold warmUpEnds
      cases stands : attempt.stage with
      | warmedUp =>
        have after : (s.setAttempt conn fun attempt => { attempt with stage := .taken }).Listed :=
          listed
        exact (schedulePendingCreateDrain_length after).trans (congrArg (· + _)
          (setAttempt_length conn _))
      | _ => rfl
  | advance ms => rfl
  | close =>
    unfold step close
    dsimp only
    split_ifs
    · rfl
    · exact List.length_map _
  | sweep =>
    unfold step sweep
    dsimp only
    split_ifs <;> rfl

/-! ## The limit -/

/-- An attempt that begins after a failed health check does so when that connection is closed. -/
def makesRoom : PoolEvent → ℕ
  | .healthCheckSettles _ false => 1
  | _ => 0

/-- The connections that the pool does not count: those under a health check, and those that are
established and not taken over. -/
def uncounted (s : RpcConnectionPool) : ℕ :=
  s.acquires.countP (·.stage.checks) + s.attempts.countP (·.stage = .settled none)

/-- The event makes the pool begin an attempt, and with the connections that it does not count there
is no room for it. -/
def overbooks (s : RpcConnectionPool) (event : PoolEvent) : Bool :=
  s.connects event &&
    s.options.maxConnections + makesRoom event ≤
      s.idle.length + s.active.length + s.connecting + s.uncounted

theorem Counts.connections_eq (counts : s.Counts) :
    s.connections = s.idle.length + s.active.length + s.connecting + s.uncounted := by
  have split : s.attempts.countP (·.holds) =
      s.attempts.countP (·.stage = .connecting) + s.attempts.countP (·.stage = .settled none) := by
    induction s.attempts with
    | nil => rfl
    | cons attempt attempts ih =>
      simp only [List.countP_cons, ih]
      unfold ConnectAttempt.holds
      cases attempt.stage with
      | settled failure =>
        cases failure with
        | none => simp; omega
        | some error => simp
      | connecting => simp; omega
      | warmedUp | taken => simp
  unfold connections uncounted
  rw [split, ← counts]
  omega

theorem counts_act {late stray : Prop} {m m' : Midway} {effects : List PoolEffect}
    (act : Act late stray m m' effects) (counts : m.pool.Counts) : m'.pool.Counts := by
  have took {s taken : RpcConnectionPool} {next : Option AcquireId}
      (took : s.takeNextPendingAcquire = (taken, next)) (counts : s.Counts) : taken.Counts := by
    obtain ⟨pending, count, same⟩ := takeNext_only s
    rw [took] at same
    dsimp only at same
    rw [same]
    exact counts
  have passed {stage : AttemptStage} (taken : stage = .taken ∨ stage = .warmedUp) :
      stage ≠ .connecting := by
    rcases taken with rfl | rfl <;> simp
  cases act with
  | handoff s taken owed i conn done =>
    have same : taken.Counts := took done counts
    exact same
  | exhaust s taken hand owed done => exact took done counts
  | dismiss s taken hand owed i error done =>
    have same : taken.Counts := took done counts
    exact same
  | rejectPending s hand owed i call error =>
    unfold rejectPendingAcquire compactPending
    dsimp only
    split_ifs <;> exact counts
  | begin s begun hand owed i call free begins =>
    have same : begun.Counts := Counts.begin counts begins
    exact same
  | drains s begun hand owed begins =>
    have same : begun.Counts := Counts.begin counts begins
    exact same
  | connects s hand owed conn attempt failure found stands =>
    exact Counts.connects counts found stands
  | connected s owed conn attempt stage found stands taken =>
    exact counts.setAttempt found (by rw [stands]; simp) (passed taken)
  | disposed s hand owed conn attempt stage found stands taken =>
    refine counts.setAttempt found ?_ (passed taken)
    obtain ⟨error, stands⟩ | stands := stands <;> rw [stands] <;> simp
  | closing s hand owed conn attempt failure found stands =>
    exact counts.setAttempt found (by rw [stands]; simp) (by simp)
  | leftToPool s hand owed conn => exact Counts.leftToPool counts conn
  | close s hand owed free =>
    unfold close
    rw [if_neg (by rw [free]; simp)]
    unfold Counts at counts ⊢
    dsimp only
    rw [List.countP_map, counts]
    refine List.countP_congr fun attempt _ => ?_
    simp only [Function.comp_apply]
    split_ifs <;> rfl
  | sweep s hand owed due =>
    unfold sweep
    rw [if_pos due]
    exact counts
  | _ => exact counts

theorem counts_step (event : PoolEvent) (counts : s.Counts) : (s.step event).1.Counts :=
  (acts_step s event).invariant (P := fun m => m.pool.Counts) (fun _ _ _ act => counts_act act)
    counts

theorem spent_makesRoom {event : PoolEvent} (begins : s.connects event = true) :
    (makesRoom event : ℤ) ≤ spent (fun _ => 1) (s.step event).2 := by
  unfold makesRoom
  split
  · next i =>
    unfold connects at begins
    unfold step atAcquire
    dsimp only at begins ⊢
    cases found : s.acquires[i]? with
    | none =>
      rw [found] at begins
      cases begins
    | some call =>
      rw [found, Option.any_some] at begins
      dsimp only
      unfold healthCheckSettles
      split
      · next conn _ =>
        have rest := spent_nonneg ((s.goTo i .looking).takeIdle i call).2
        have first : spent (fun _ => 1)
            (.connectionClosed conn :: ((s.goTo i .looking).takeIdle i call).2) =
            1 + spent (fun _ => 1) ((s.goTo i .looking).takeIdle i call).2 := List.sum_cons
        change 1 ≤ spent (fun _ => 1)
          (.connectionClosed conn :: ((s.goTo i .looking).takeIdle i call).2)
        rw [first]
        omega
      · next other =>
        have unchecked : call.stage.checks = false := by
          unfold AcquireStage.checks
          split
          · next stands => exact absurd stands (other _)
          · rfl
        rw [unchecked] at begins
        cases begins
  · exact spent_nonneg _

theorem step_connections (listed : s.Listed) (counts : s.Counts) {event : PoolEvent}
    (leaves : s.overbooks event = false) (limit : s.connections ≤ s.options.maxConnections) :
    (s.step event).1.connections ≤ (s.step event).1.options.maxConnections := by
  have balance := connections_acts (acts_step s event) rfl rfl
  have places := counts.connections_eq
  have begun := attempts_step listed event
  dsimp only at balance
  rw [step_options]
  cases begins : s.connects event with
  | false =>
    have closed := spent_nonneg (s.step event).2
    rw [begins] at begun
    change _ = _ + 0 at begun
    omega
  | true =>
    have closed := spent_makesRoom begins
    unfold overbooks at leaves
    rw [begins, Bool.true_and, decide_eq_false_iff_not] at leaves
    rw [begins] at begun
    change _ = _ + 1 at begun
    omega

theorem connections_run (options : RpcConnectionPoolOptions) (events : List PoolEvent)
    (leaves : Machine.Always step (fun s event => s.overbooks event = false)
      (initial options) events) :
    (Machine.final step (initial options) events).connections ≤ options.maxConnections := by
  have limit := leaves.history (P := fun past s =>
    (s.closed = false → Serving past s) ∧ s.Counts ∧ s.connections ≤ s.options.maxConnections)
      (fun past s event leaves holds => ?_) ?_
  · rw [final_options] at limit
    exact limit.2.2
  · obtain ⟨serving, counts, limit⟩ := holds
    have listed : s.Listed := fun free => (serving free).waiting.pending
    exact ⟨serving_step event serving, counts_step event counts,
      step_connections listed counts leaves limit⟩
  · have few : (initial options).connections ≤ 0 + options.minConnections :=
      (warmUp_connections _ options.minConnections).1
    have same : (initial options).options = options :=
      (warmUp_connections _ options.minConnections).2
    have within := options.within
    refine ⟨fun _ => serving_initial options, (serving_initial options).waiting.connecting, ?_⟩
    rw [same]
    omega

/-- As long as no attempt begins that the connections leave no room for, there are at most
`maxConnections`. -/
theorem connections_le_maxConnections (options : RpcConnectionPoolOptions) (events : List PoolEvent)
    (leaves : Machine.Always step (fun s event => s.overbooks event = false)
      (initial options) events) :
    (Machine.final step (initial options) events).connections ≤ options.maxConnections :=
  connections_run options events leaves

/-- A second acquire while the only connection is under a health check. -/
def overbookedRun : List PoolEvent :=
  [.acquire none none, .connectSettles 0 none, .connectContinues 0, .release 0, .acquire none none,
    .acquire none none]

theorem connections_le_maxConnections_released :
    (Machine.final step (initial checkedPool) (overbookedRun.take 5)).connections ≤ 1 := by
  refine connections_le_maxConnections checkedPool (overbookedRun.take 5) ?_
  decide

/-- The pool of at most one connection has two. -/
theorem connections_overbooked :
    ¬(Machine.final step (initial checkedPool) overbookedRun).connections ≤
      checkedPool.maxConnections := by
  decide

/-! ## No lost wakeup -/

/-- As long as no attempt begins that the connections leave no room for, no wakeup is lost on an
open pool. -/
theorem acquires_woken (options : RpcConnectionPoolOptions) (events : List PoolEvent)
    (leaves : Machine.Always step (fun s event => s.overbooks event = false)
      (initial options) events)
    (serving : (Machine.final step (initial options) events).closed = false) :
    Woken (Machine.shown step (initial options) events)
    (Machine.final step (initial options) events) := by
  have holds := run_serving options events serving
  refine ⟨once_log holds.once, holds.waiting.pending.settled, fun calm i waiting => ?_⟩
  have least := holds.full calm waiting
  have most := connections_run options events leaves
  have active : (Machine.final step (initial options) events).active.length ≤
      (Machine.final step (initial options) events).connections := by
    unfold connections
    omega
  rw [final_options] at least ⊢
  omega

/-- A second acquire waits for the only connection. -/
def waitingRun : List PoolEvent :=
  [.acquire none none, .connectSettles 0 none, .connectContinues 0, .acquire none none]

theorem acquires_woken_released :
    Woken (Machine.shown step (initial checkedPool) waitingRun)
    (Machine.final step (initial checkedPool) waitingRun) := by
  refine acquires_woken checkedPool waitingRun ?_ ?_ <;> decide

/-- The acquires of the run that overbooks get their connections, and another one comes. -/
def crowdedRun : List PoolEvent :=
  overbookedRun ++ [.connectSettles 1 none, .connectContinues 1, .healthCheckSettles 1 true,
    .acquire none none]

/-- Both connections of the pool of at most one are active while a third acquire waits. -/
theorem acquires_not_woken :
    ¬Woken (Machine.shown step (initial checkedPool) crowdedRun)
      (Machine.final step (initial checkedPool) crowdedRun) := by
  intro woken
  have calm : (Machine.final step (initial checkedPool) crowdedRun).Calm := by
    refine ⟨?_, ?_, ?_⟩ <;> decide
  have waiting : (Machine.final step (initial checkedPool) crowdedRun).hasSettled 3 = false := by
    decide
  have active : (Machine.final step (initial checkedPool) crowdedRun).active.length ≠ 1 := by
    decide
  exact active (woken.active calm 3 waiting)

end RpcConnectionPool

end CapnpDeno
