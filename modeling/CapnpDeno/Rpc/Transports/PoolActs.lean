import CapnpDeno.Lib.Heap
import CapnpDeno.Rpc.Transports.ConnectionPool

/-!
# Acts of RpcConnectionPool

A step of the pool is a sequence of acts.  Between them a connection can be in no set (`hand`), and
the drain of the pending acquires can be due (`owed`).  What every act keeps holds of every run.
-/

namespace CapnpDeno

/-- The acquire is under way, and waits neither for a health check nor among the pending ones. -/
def AcquireStage.running : AcquireStage → Bool
  | .looking | .connecting _ | .abandoned _ | .closing => true
  | .checking _ | .queued | .fulfilled _ | .rejected _ => false

def AcquireStage.checks : AcquireStage → Bool
  | .checking _ => true
  | _ => false

/-- The outcome of the attempt has not been taken. -/
def AttemptStage.pending : AttemptStage → Bool
  | .connecting | .settled _ => true
  | .warmedUp | .taken => false

/-- The acquire is under way, and the attempt it awaits, if any, is not its own any more. -/
structure Free (attempts : List ConnectAttempt) (acquires : List PoolAcquire) (i : AcquireId)
    (call : PoolAcquire) :
    Prop where
  found : acquires[i]? = some call
  running : call.stage.running = true
  loose : ∀ conn attempt, call.stage = .connecting conn ∨ call.stage = .abandoned conn →
    attempts[conn]? = some attempt → attempt.owner = .acquire i → attempt.stage.pending = false

/-- The pool in the middle of a step. -/
structure Midway where
  pool : RpcConnectionPool
  hand : Option ConnId
  owed : Bool

namespace RpcConnectionPool

variable {s s' : RpcConnectionPool} {i : AcquireId} {conn : ConnId} {call : PoolAcquire}
  {hand : Option ConnId} {owed : Bool} {late stray : Prop}

/-- `late` says that an acquire may be fulfilled though the pool is closed, `stray` that one may
release what it has released. -/
inductive Act (late stray : Prop) : Midway → Midway → List PoolEffect → Prop
  | arrive (s : RpcConnectionPool) (hand : Option ConnId) (owed : Bool) (call : PoolAcquire)
      (stands : call.stage = .looking) :
      Act late stray ⟨s, hand, owed⟩ ⟨{ s with acquires := s.acquires ++ [call] }, hand, owed⟩ []
  | abandon (s : RpcConnectionPool) (hand : Option ConnId) (owed : Bool) (i : AcquireId)
    (call : PoolAcquire)
      (conn : ConnId) (found : s.acquires[i]? = some call)
      (stands : call.stage = .connecting conn) :
      Act late stray ⟨s, hand, owed⟩ ⟨s.goTo i (.abandoned conn), hand, owed⟩ []
  | awaitClose (s : RpcConnectionPool) (hand : Option ConnId) (owed : Bool) (i : AcquireId)
    (call : PoolAcquire)
      (free : Free s.attempts s.acquires i call) :
      Act late stray ⟨s, hand, owed⟩ ⟨s.goTo i .closing, hand, owed⟩ []
  | takeIdle (s : RpcConnectionPool) (owed : Bool) (conn : ConnId) (lastUsedAt : ℕ)
    (rest : List (ConnId × ℕ))
      (first : s.idle = (conn, lastUsedAt) :: rest) :
      Act late stray ⟨s, none, owed⟩ ⟨{ s with idle := rest }, some conn, owed⟩ []
  | checkIdle (s : RpcConnectionPool) (owed : Bool) (i : AcquireId) (call : PoolAcquire)
    (conn : ConnId)
      (lastUsedAt : ℕ) (rest : List (ConnId × ℕ)) (first : s.idle = (conn, lastUsedAt) :: rest)
      (free : Free s.attempts s.acquires i call) :
      Act late stray ⟨s, none, owed⟩ ⟨goTo { s with idle := rest } i (.checking conn),
        none, owed⟩ []
  | healthy (s : RpcConnectionPool) (owed : Bool) (i : AcquireId) (call : PoolAcquire)
    (conn : ConnId)
      (found : s.acquires[i]? = some call) (stands : call.stage = .checking conn) :
      Act late stray ⟨s, none, owed⟩ ⟨s.goTo i .looking, some conn, owed⟩ []
  | unhealthy (s : RpcConnectionPool) (owed : Bool) (i : AcquireId) (call : PoolAcquire)
    (conn : ConnId)
      (found : s.acquires[i]? = some call) (stands : call.stage = .checking conn) :
      Act late stray ⟨s, none, owed⟩ ⟨s.goTo i .looking, none, owed⟩ [.connectionClosed conn]
  | fulfil (s : RpcConnectionPool) (owed : Bool) (i : AcquireId) (call : PoolAcquire)
    (conn : ConnId)
      (free : Free s.attempts s.acquires i call) (allowed : s.closed = false ∨ late) :
      Act late stray ⟨s, some conn, owed⟩ ⟨(s.fulfil i conn).1, none, owed⟩ [.fulfilled i conn]
  | handoff (s taken : RpcConnectionPool) (owed : Bool) (i : AcquireId) (conn : ConnId)
      (took : s.takeNextPendingAcquire = (taken, some i)) (free : s.closed = false) :
      Act late stray ⟨s, some conn, owed⟩ ⟨(taken.fulfil i conn).1, none, owed⟩ [.fulfilled i conn]
  | exhaust (s taken : RpcConnectionPool) (hand : Option ConnId) (owed : Bool)
      (took : s.takeNextPendingAcquire = (taken, none)) :
      Act late stray ⟨s, hand, owed⟩ ⟨taken, hand, owed⟩ []
  | park (s : RpcConnectionPool) (owed : Bool) (conn : ConnId) (lastUsedAt : ℕ)
    (exhausted : s.pending = [])
      (free : s.closed = false) :
      Act late stray ⟨s, some conn, owed⟩ ⟨s.parkIdleConnection conn lastUsedAt, none, owed⟩ []
  | closeHand (s : RpcConnectionPool) (owed : Bool) (conn : ConnId)
    (idle : s.closed = true ∨ s.pending = []) :
      Act late stray ⟨s, some conn, owed⟩ ⟨s, none, owed⟩ [.connectionClosed conn]
  | evict (s : RpcConnectionPool) (hand : Option ConnId) (owed : Bool) (conn : ConnId)
    (lastUsedAt : ℕ)
      (parked : (conn, lastUsedAt) ∈ s.idle) :
      Act late stray ⟨s, hand, owed⟩ ⟨{ s with idle := s.idle.eraseP (·.1 = conn) }, hand, owed⟩
        [.connectionClosed conn]
  | parkAgain (s : RpcConnectionPool) (hand : Option ConnId) (owed : Bool) (conn : ConnId)
    (lastUsedAt : ℕ)
      (parked : (conn, lastUsedAt) ∈ s.idle) :
      Act late stray ⟨s, hand, owed⟩
        ⟨{ s with idle := s.idle.eraseP (·.1 = conn) ++ [(conn, lastUsedAt)] }, hand, owed⟩ []
  | reject (s : RpcConnectionPool) (hand : Option ConnId) (owed : Bool) (i : AcquireId)
    (call : PoolAcquire)
      (error : Thrown) (free : Free s.attempts s.acquires i call) :
      Act late stray ⟨s, hand, owed⟩ ⟨(s.reject i error).1, hand, owed⟩ [.rejected i error]
  | rejectPending (s : RpcConnectionPool) (hand : Option ConnId) (owed : Bool) (i : AcquireId)
    (call : PoolAcquire)
      (error : Thrown) (found : s.acquires[i]? = some call) (stands : call.stage = .queued) :
      Act late stray ⟨s, hand, owed⟩ ⟨(s.rejectPendingAcquire i error).1, hand, owed⟩
        [.rejected i error]
  | dismiss (s taken : RpcConnectionPool) (hand : Option ConnId) (owed : Bool) (i : AcquireId)
    (error : Thrown)
      (took : s.takeNextPendingAcquire = (taken, some i)) :
      Act late stray ⟨s, hand, owed⟩ ⟨(taken.reject i error).1, hand, owed⟩ [.rejected i error]
  | enqueue (s : RpcConnectionPool) (hand : Option ConnId) (owed : Bool) (i : AcquireId)
    (call : PoolAcquire)
      (free : Free s.attempts s.acquires i call) (none : s.idle = [])
      (full : s.canCreateConnection = false) :
      Act late stray ⟨s, hand, owed⟩ ⟨{ s.goTo i .queued with pending := s.pending ++ [i] },
        hand, owed⟩ []
  | begin (s begun : RpcConnectionPool) (hand : Option ConnId) (owed : Bool) (i : AcquireId)
    (call : PoolAcquire)
      (free : Free s.attempts s.acquires i call)
      (begins : s.beginConnectAttempt (.acquire i) = some begun) :
      Act late stray ⟨s, hand, owed⟩ ⟨begun.goTo i (.connecting s.attempts.length), hand, owed⟩ []
  | connects (s : RpcConnectionPool) (hand : Option ConnId) (owed : Bool) (conn : ConnId)
    (attempt : ConnectAttempt)
      (failure : Option Thrown) (found : s.attempts[conn]? = some attempt)
      (stands : attempt.stage = .connecting) :
      Act late stray ⟨s, hand, owed⟩
        ⟨{ s.setAttempt conn fun attempt => { attempt with stage := .settled failure } with
          connecting := s.connecting - 1 }, hand, owed⟩
        (if failure.isSome then [.failed conn] else [])
  /-- The connection of an attempt is taken over. -/
  | connected (s : RpcConnectionPool) (owed : Bool) (conn : ConnId) (attempt : ConnectAttempt)
    (stage : AttemptStage)
      (found : s.attempts[conn]? = some attempt) (stands : attempt.stage = .settled none)
      (taken : stage = .taken ∨ stage = .warmedUp) :
      Act late stray ⟨s, none, owed⟩
        ⟨s.setAttempt conn fun attempt => { attempt with stage := stage }, some conn, owed⟩ []
  /-- The failure of an attempt is taken over, or the warm-up ends. -/
  | disposed (s : RpcConnectionPool) (hand : Option ConnId) (owed : Bool) (conn : ConnId)
    (attempt : ConnectAttempt)
      (stage : AttemptStage) (found : s.attempts[conn]? = some attempt)
      (stands : (∃ error, attempt.stage = .settled (some error)) ∨ attempt.stage = .warmedUp)
      (taken : stage = .taken ∨ stage = .warmedUp) :
      Act late stray ⟨s, hand, owed⟩
        ⟨s.setAttempt conn fun attempt => { attempt with stage := stage }, hand, owed || stage =
          .taken⟩ []
  | leftToPool (s : RpcConnectionPool) (hand : Option ConnId) (owed : Bool) (conn : ConnId) :
      Act late stray ⟨s, hand, owed⟩ ⟨s.setAttempt conn fun attempt =>
        { attempt with owner := .late }, hand, owed⟩ []
  /-- The pool has closed during the warm-up, and the outcome comes. -/
  | closing (s : RpcConnectionPool) (hand : Option ConnId) (owed : Bool) (conn : ConnId)
    (attempt : ConnectAttempt)
      (failure : Option Thrown) (found : s.attempts[conn]? = some attempt)
      (stands : attempt.stage = .settled failure) (owner : attempt.owner = .closing) :
      Act late stray ⟨s, hand, owed⟩ ⟨s.setAttempt conn fun attempt =>
        { attempt with stage := .taken }, hand, owed⟩
        (if failure.isSome then [] else [.connectionClosed conn])
  | drains (s begun : RpcConnectionPool) (hand : Option ConnId) (owed : Bool)
      (begins : s.beginConnectAttempt .drain = some begun) :
      Act late stray ⟨s, hand, owed⟩ ⟨{ begun with drain := .connecting }, hand, false⟩ []
  | drained (s : RpcConnectionPool) (hand : Option ConnId) (owed : Bool) :
      Act late stray ⟨s, hand, owed⟩ ⟨{ s with drain := .ending }, hand, false⟩ []
  | undrained (s : RpcConnectionPool) (hand : Option ConnId) (owed : Bool) :
      Act late stray ⟨s, hand, owed⟩ ⟨{ s with drain := .off }, hand, true⟩ []
  | scheduled (s : RpcConnectionPool) (hand : Option ConnId) (owed : Bool)
      (idle : ¬(s.drain = .off ∧ s.closed = false ∧ s.hasPendingAcquires = true ∧
        s.canCreateConnection = true)) :
      Act late stray ⟨s, hand, owed⟩ ⟨s, hand, false⟩ []
  | release (s : RpcConnectionPool) (owed : Bool) (i : AcquireId) (call : PoolAcquire)
    (conn : ConnId)
      (found : s.acquires[i]? = some call) (stands : call.stage = .fulfilled conn)
      (used : conn ∈ s.active) (allowed : call.released = false ∨ stray) :
      Act late stray ⟨s, none, owed⟩
        ⟨{ s with
          acquires := s.acquires.modify i fun call => { call with released := true }
          active := s.active.erase conn }, some conn, owed⟩ []
  /-- The connection that is released is not active. -/
  | giveBack (s : RpcConnectionPool) (hand : Option ConnId) (owed : Bool) (i : AcquireId)
    (call : PoolAcquire)
      (conn : ConnId) (found : s.acquires[i]? = some call) (stands : call.stage = .fulfilled conn)
      (unused : conn ∉ s.active) :
      Act late stray ⟨s, hand, owed⟩
        ⟨{ s with acquires := s.acquires.modify i fun call => { call with released := true } },
          hand, owed⟩ []
  | flag (s : RpcConnectionPool) (hand : Option ConnId) (owed : Bool) (i : AcquireId) :
      Act late stray ⟨s, hand, owed⟩
        ⟨{ s with acquires := s.acquires.modify i fun call => { call with aborted := true } },
          hand, owed⟩ []
  | advance (s : RpcConnectionPool) (hand : Option ConnId) (owed : Bool) (now : ℕ) :
      Act late stray ⟨s, hand, owed⟩ ⟨{ s with now := now }, hand, owed⟩ []
  | close (s : RpcConnectionPool) (hand : Option ConnId) (owed : Bool) (free : s.closed = false) :
      Act late stray ⟨s, hand, owed⟩ ⟨s.close.1, hand, owed⟩ [.closed]
  | sweep (s : RpcConnectionPool) (hand : Option ConnId) (owed : Bool)
      (due : (s.closed && !s.swept && s.warmupComplete) = true) :
      Act late stray ⟨s, hand, owed⟩ ⟨s.sweep.1, hand, owed⟩ s.sweep.2

inductive Acts (late stray : Prop) : Midway → Midway → List PoolEffect → Prop
  | nil (m : Midway) : Acts late stray m m []
  | cons {m m' m'' : Midway} {effects more : List PoolEffect} (act : Act late stray m m' effects)
      (acts : Acts late stray m' m'' more) : Acts late stray m m'' (effects ++ more)

namespace Acts

variable {m m' m'' : Midway} {effects more : List PoolEffect}

theorem one (act : Act late stray m m' effects) : Acts late stray m m' effects := by
  have acts := cons act (.nil m')
  rwa [List.append_nil] at acts

theorem trans (first : Acts late stray m m' effects) (second : Acts late stray m' m'' more) :
    Acts late stray m m'' (effects ++ more) := by
  induction first with
  | nil => exact second
  | cons act _ ih =>
    rw [List.append_assoc]
    exact .cons act (ih second)

/-- An act without effects comes first. -/
theorem silent (act : Act late stray m m' []) (acts : Acts late stray m' m'' effects) :
    Acts late stray m m'' effects := .cons act acts

/-- An act without effects comes last. -/
theorem snoc (acts : Acts late stray m m' effects) (act : Act late stray m' m'' []) :
    Acts late stray m m'' effects := by
  have both := acts.trans (one act)
  rwa [List.append_nil] at both

/-- What every act keeps of the pool and of the effects so far. -/
theorem history {P : List PoolEffect → Midway → Prop}
    (kept : ∀ past m m' effects, Act late stray m m' effects → P past m → P (past ++ effects) m')
    (acts : Acts late stray m m' effects) {past : List PoolEffect} (holds : P past m) :
    P (past ++ effects) m' := by
  induction acts generalizing past with
  | nil =>
    rw [List.append_nil]
    exact holds
  | cons act _ ih =>
    rw [← List.append_assoc]
    exact ih (kept _ _ _ _ act holds)

/-- What every act keeps of the pool. -/
theorem invariant {P : Midway → Prop} (kept : ∀ m m' effects, Act late stray m m' effects →
      P m → P m')
    (acts : Acts late stray m m' effects) (holds : P m) : P m' := by
  induction acts with
  | nil => exact holds
  | cons act _ ih => exact ih (kept _ _ _ act holds)

end Acts

/-! ## The acts of a step -/

theorem takeNext_some {taken : RpcConnectionPool}
    (took : s.takeNextPendingAcquire = (taken, some i)) :
    taken.acquires = s.acquires ∧ taken.closed = s.closed := by
  unfold takeNextPendingAcquire compactPending at took
  split at took
  · cases took
  · cases took
    split_ifs <;> exact ⟨rfl, rfl⟩

theorem dropSettled_head {settled : AcquireId → Bool} {pending rest : List AcquireId}
    {count left : ℤ} (dropped : dropSettled settled pending count = (i :: rest, left)) :
    settled i = false := by
  induction pending generalizing count with
  | nil => cases dropped
  | cons first pending ih =>
    unfold dropSettled at dropped
    split_ifs at dropped with done
    · exact ih dropped
    · cases dropped
      exact Bool.eq_false_iff.2 done

/-- An acquire that has not settled is among the pending ones. -/
theorem hasSettled_eq_false : s.hasSettled i = false ↔ ∃ call, s.acquires[i]? = some call ∧
    call.stage = .queued := by
  unfold hasSettled
  cases s.acquires[i]? <;> simp

theorem takeNext_queued {taken : RpcConnectionPool}
    (took : s.takeNextPendingAcquire = (taken, some i)) :
    ∃ call, s.acquires[i]? = some call ∧ call.stage = .queued := by
  unfold takeNextPendingAcquire at took
  split at took
  · cases took
  · next dropped =>
    cases took
    exact hasSettled_eq_false.1 (dropSettled_head dropped)

theorem takeNext_none {taken : RpcConnectionPool}
    (took : s.takeNextPendingAcquire = (taken, none)) :
    taken.pending = [] ∧ taken.closed = s.closed := by
  unfold takeNextPendingAcquire at took
  split at took
  · cases took
    exact ⟨rfl, rfl⟩
  · cases took

theorem acts_drain (s : RpcConnectionPool) (hand : Option ConnId) (owed : Bool) :
    Acts late stray ⟨s, hand, owed⟩ ⟨s.drainPendingAcquires, hand, false⟩ [] := by
  unfold drainPendingAcquires
  split_ifs
  · cases begins : s.beginConnectAttempt .drain with
    | some begun => exact .one (.drains s begun hand owed begins)
    | none => exact .one (.drained s hand owed)
  · exact .one (.drained s hand owed)

theorem acts_schedule (s : RpcConnectionPool) (hand : Option ConnId) (owed : Bool) :
    Acts late stray ⟨s, hand, owed⟩ ⟨s.schedulePendingCreateDrain, hand, false⟩ [] := by
  unfold schedulePendingCreateDrain
  split_ifs with due
  · exact acts_drain s hand owed
  · exact .one (.scheduled s hand owed due)

theorem drainPendingAcquires_acquires (s : RpcConnectionPool) :
    s.drainPendingAcquires.acquires = s.acquires := by
  unfold drainPendingAcquires beginConnectAttempt
  split_ifs <;> rfl

theorem schedulePendingCreateDrain_acquires (s : RpcConnectionPool) :
    s.schedulePendingCreateDrain.acquires = s.acquires := by
  unfold schedulePendingCreateDrain
  split_ifs
  · exact drainPendingAcquires_acquires s
  · rfl

/-- The drain begins no attempt but its own. -/
theorem drainPendingAcquires_attempts (s : RpcConnectionPool) :
    s.drainPendingAcquires.attempts = s.attempts ∨
      s.drainPendingAcquires.attempts = s.attempts ++ [⟨.drain, .connecting⟩] := by
  unfold drainPendingAcquires beginConnectAttempt
  split_ifs
  · exact .inr rfl
  · exact .inl rfl
  · exact .inl rfl

theorem schedulePendingCreateDrain_attempts (s : RpcConnectionPool) :
    s.schedulePendingCreateDrain.attempts = s.attempts ∨
      s.schedulePendingCreateDrain.attempts = s.attempts ++ [⟨.drain, .connecting⟩] := by
  unfold schedulePendingCreateDrain
  split_ifs
  · exact drainPendingAcquires_attempts s
  · exact .inl rfl

theorem free_schedule (free : Free s.attempts s.acquires i call) :
    Free s.schedulePendingCreateDrain.attempts s.schedulePendingCreateDrain.acquires i call := by
  rw [schedulePendingCreateDrain_acquires]
  rcases schedulePendingCreateDrain_attempts s with same | added
  · rwa [same]
  · rw [added]
    refine ⟨free.found, free.running, fun conn attempt stands there owner => ?_⟩
    obtain old | ⟨-, rfl⟩ := Heap.of_append there
    · exact free.loose conn attempt stands old owner
    · cases owner

theorem acts_failCreate (hand : Option ConnId) (owed : Bool) (error : Thrown)
    (free : Free s.attempts s.acquires i call) :
    Acts late stray ⟨s, hand, owed⟩ ⟨(s.failCreate i error).1, hand, false⟩
      (s.failCreate i error).2 :=
  (acts_schedule s hand owed).trans (.one (.reject _ hand false i call _ (free_schedule free)))

/-- A connection at hand is handed off, or the pending acquires are exhausted. -/
theorem acts_handoff (late stray : Prop) (owed : Bool) (conn : ConnId) (free : s.closed = false)
    {given : List PoolEffect} {handed : Bool}
    (done : s.handoffPendingAcquire conn = (s', given, handed)) :
    Acts late stray ⟨s, some conn, owed⟩ ⟨s', if handed then none else some conn, owed⟩ given ∧
      s'.closed = false ∧ (handed = false → s'.pending = [] ∧ given = []) := by
  unfold handoffPendingAcquire at done
  cases took : s.takeNextPendingAcquire with
  | mk taken next =>
    rw [took] at done
    cases next with
    | none =>
      cases done
      obtain ⟨exhausted, same⟩ := takeNext_none took
      exact ⟨.one (.exhaust s _ _ owed took), same.trans free, fun _ => ⟨exhausted, rfl⟩⟩
    | some j =>
      cases done
      exact ⟨.one (.handoff s _ owed j conn took free), (takeNext_some took).2.trans free, nofun⟩

theorem acts_handoffOrPark (conn : ConnId) (free : s.closed = false) :
    Acts late stray ⟨s, some conn, owed⟩ ⟨(s.handoffOrPark conn).1, none, owed⟩
      (s.handoffOrPark conn).2 := by
  unfold handoffOrPark
  cases done : s.handoffPendingAcquire conn with
  | mk next rest =>
    obtain ⟨given, handed⟩ := rest
    obtain ⟨acts, still, exhausted⟩ := acts_handoff late stray owed conn free done
    cases handed with
    | true => exact acts
    | false =>
      obtain ⟨none, rfl⟩ := exhausted rfl
      exact acts.snoc (.park next owed conn _ none still)

theorem compactPending_only (s : RpcConnectionPool) :
    ∃ pending count, s.compactPending = { s with pending := pending, pendingSettled := count } := by
  unfold compactPending
  split_ifs
  · exact ⟨s.pending, s.pendingSettled, rfl⟩
  · exact ⟨_, _, rfl⟩

/-- Taking from the pending acquires changes nothing else. -/
theorem takeNext_only (s : RpcConnectionPool) :
    ∃ pending count, s.takeNextPendingAcquire.1 =
      { s with pending := pending, pendingSettled := count } := by
  unfold takeNextPendingAcquire
  split
  · exact ⟨[], _, rfl⟩
  · obtain ⟨pending, count, same⟩ :=
      compactPending_only { s with pending := _, pendingSettled := _ }
    exact ⟨pending, count, same⟩

theorem takeNext_lists {taken : RpcConnectionPool} {next : Option AcquireId}
    (took : s.takeNextPendingAcquire = (taken, next)) :
    taken.attempts = s.attempts ∧ taken.acquires = s.acquires := by
  obtain ⟨pending, count, same⟩ := takeNext_only s
  rw [took] at same
  dsimp only at same
  rw [same]
  exact ⟨rfl, rfl⟩

theorem takeNext_attempts (s : RpcConnectionPool) :
    s.takeNextPendingAcquire.1.attempts = s.attempts := by
  obtain ⟨pending, count, same⟩ := takeNext_only s
  rw [same]

theorem handoffPendingAcquire_attempts (conn : ConnId) :
    (s.handoffPendingAcquire conn).1.attempts = s.attempts := by
  have taken := takeNext_attempts s
  unfold handoffPendingAcquire
  split
  · next took =>
    rw [took] at taken
    exact taken
  · next took =>
    rw [took] at taken
    exact taken

theorem handoffOrPark_attempts (conn : ConnId) :
    (s.handoffOrPark conn).1.attempts = s.attempts := by
  have given := handoffPendingAcquire_attempts (s := s) conn
  unfold handoffOrPark
  split
  · next done =>
    rw [done] at given
    exact given
  · next done =>
    rw [done] at given
    exact given

/-- An acquire that is under way is not the one that gets the connection. -/
theorem handoffOrPark_free (conn : ConnId) (free : Free s.attempts s.acquires i call) :
    Free (s.handoffOrPark conn).1.attempts (s.handoffOrPark conn).1.acquires i call := by
  rw [handoffOrPark_attempts]
  refine ⟨?_, free.running, free.loose⟩
  obtain ⟨found, running, -⟩ := free
  unfold handoffOrPark handoffPendingAcquire
  cases took : s.takeNextPendingAcquire with
  | mk taken next =>
    cases next with
    | none =>
      have same : taken.acquires = s.acquires := by
        unfold takeNextPendingAcquire at took
        split at took <;> cases took
        rfl
      change taken.acquires[i]? = _
      rw [same]
      exact found
    | some j =>
      obtain ⟨other, there, queued⟩ := takeNext_queued took
      have apart : i ≠ j := by
        rintro rfl
        cases found.symm.trans there
        rw [queued] at running
        cases running
      change (taken.acquires.modify j _)[i]? = _
      rw [Heap.modify_other apart, (takeNext_some took).1]
      exact found

theorem acts_handOver (conn : ConnId) {other : PoolAcquire}
    (free : Free s.attempts s.acquires i other)
    (allowed : call.aborted = false → s.closed = false ∨ late) :
    Acts late stray ⟨s, some conn, owed⟩ ⟨(s.handOver i call conn).1, none, owed⟩
      (s.handOver i call conn).2 := by
  unfold handOver
  split_ifs with aborted closed
  · exact .cons (.closeHand s owed conn (.inl closed)) (.one (.reject s none owed i other _ free))
  · have given : Acts late stray ⟨s, some conn, owed⟩ _ _ :=
      acts_handoffOrPark conn (Bool.eq_false_iff.2 closed)
    exact given.trans (.one (.reject _ none owed i other _ (handoffOrPark_free conn free)))
  · exact .one (.fulfil s owed i other conn free (allowed (Bool.eq_false_iff.2 aborted)))

theorem acts_createConnection (hand : Option ConnId) (owed : Bool) {other : PoolAcquire}
    (free : Free s.attempts s.acquires i other) :
    Acts late stray ⟨s, hand, owed⟩ ⟨(s.createConnection i call).1, hand, owed⟩
      (s.createConnection i call).2 := by
  unfold createConnection
  split_ifs
  · exact .one (.reject s hand owed i other _ free)
  · cases begins : s.beginConnectAttempt (.acquire i) with
    | none => exact .one (.reject s hand owed i other _ free)
    | some begun => exact .one (.begin s begun hand owed i other free begins)

/-- The first idle connection is due for a health check. -/
def dueForCheck (s : RpcConnectionPool) : Bool :=
  match s.idle with
  | (_, lastUsedAt) :: _ =>
    s.options.healthCheck && s.options.healthCheckIdleMs ≤ s.now - lastUsedAt
  | [] => false

theorem acts_takeIdle (owed : Bool) {other : PoolAcquire}
    (free : Free s.attempts s.acquires i other) (allowed : call.aborted = false → s.idle ≠ [] →
      s.dueForCheck = false → s.closed = false ∨ late) :
    Acts late stray ⟨s, none, owed⟩ ⟨(s.takeIdle i call).1, none, owed⟩ (s.takeIdle i call).2 := by
  unfold takeIdle
  cases idle : s.idle with
  | nil =>
    dsimp only
    split_ifs with room
    · exact acts_createConnection none owed free
    · exact .one (.reject s none owed i other _ free)
    · exact .one (.enqueue s none owed i other free idle (Bool.eq_false_iff.2 room))
  | cons entry rest =>
    obtain ⟨conn, lastUsedAt⟩ := entry
    dsimp only
    split_ifs with due
    · exact .one (.checkIdle s owed i other conn lastUsedAt rest idle free)
    · refine .silent (.takeIdle s owed conn lastUsedAt rest idle)
        (acts_handOver conn free fun aborted => ?_)
      refine allowed aborted (by rw [idle]; exact List.cons_ne_nil _ _) ?_
      unfold dueForCheck
      rw [idle]
      exact Bool.eq_false_iff.2 due

theorem free_of_looking (found : s.acquires[i]? = some call) (stands : call.stage = .looking) :
    Free s.attempts s.acquires i call := by
  refine ⟨found, by rw [stands]; rfl, fun conn attempt other => ?_⟩
  rw [stands] at other
  simp at other

theorem acts_acquire (aborted : Option Bool) (timeoutMs : Option ℕ) :
    Acts late stray ⟨s, none, false⟩ ⟨(s.acquire aborted timeoutMs).1, none, false⟩
      (s.acquire aborted timeoutMs).2 := by
  unfold acquire
  refine .silent (.arrive s none false
    ⟨aborted.isSome, aborted.getD false, timeoutMs.getD s.options.acquireTimeoutMs, false,
      .looking⟩ rfl) ?_
  have free := free_of_looking
    (s := { s with acquires := s.acquires ++ [⟨aborted.isSome, aborted.getD false,
      timeoutMs.getD s.options.acquireTimeoutMs, false, .looking⟩] }) Heap.append_self rfl
  dsimp only
  split_ifs with out closed
  · exact .one (.reject _ none false _ _ _ free)
  · exact .one (.reject _ none false _ _ _ free)
  · exact acts_takeIdle false free fun _ _ _ => .inl (Bool.eq_false_iff.2 closed)

/-- A health check settles after the close, and its acquire, which is not aborted, takes a
connection all the same. -/
def takesLate (s : RpcConnectionPool) : PoolEvent → Bool
  | .healthCheckSettles i healthy =>
    s.closed && s.acquires[i]?.any (fun call => call.stage.checks && !call.aborted) &&
      (healthy || !s.idle.isEmpty && !s.dueForCheck)
  | _ => false

/-- An acquirer releases an active connection that it has released already. -/
def releasesAgain (s : RpcConnectionPool) : PoolEvent → Bool
  | .release i => s.acquires[i]?.any fun call =>
    call.released && s.active.any fun conn => call.stage = .fulfilled conn
  | _ => false

theorem acts_healthCheckSettles (healthy : Bool) (found : s.acquires[i]? = some call)
    (allowed : call.stage.checks = true → call.aborted = false →
      (healthy || !s.idle.isEmpty && !s.dueForCheck) = true → s.closed = false ∨ late) :
    Acts late stray ⟨s, none, false⟩ ⟨(s.healthCheckSettles i healthy call).1, none, false⟩
      (s.healthCheckSettles i healthy call).2 := by
  unfold healthCheckSettles
  cases stands : call.stage with
  | checking conn =>
    rw [stands] at allowed
    have looking : Free (s.goTo i .looking).attempts (s.goTo i .looking).acquires i { call with
        stage := .looking } :=
      free_of_looking (Heap.modify_self found) rfl
    cases healthy with
    | true =>
      refine .silent (.healthy s false i call conn found stands)
        (acts_handOver conn looking fun aborted => ?_)
      exact allowed rfl aborted rfl
    | false =>
      refine .cons (.unhealthy s false i call conn found stands) (acts_takeIdle false looking ?_)
      intro aborted some due
      refine allowed rfl aborted ?_
      have due : s.dueForCheck = false := due
      have some : s.idle ≠ [] := some
      simp [due, some]
  | looking | connecting | abandoned | closing | queued | fulfilled | rejected => exact .nil _

/-- The attempt an acquire awaits is left, or taken. -/
theorem free_setAttempt {f : ConnectAttempt → ConnectAttempt} (found : s.acquires[i]? = some call)
    (running : call.stage.running = true)
    (stands : call.stage = .connecting conn ∨ call.stage = .abandoned conn)
    (left : (∀ attempt, (f attempt).owner ≠ .acquire i) ∨
      ∀ attempt, (f attempt).stage.pending = false) :
    Free (s.setAttempt conn f).attempts s.acquires i call := by
  refine ⟨found, running, fun conn' attempt stands' there owner => ?_⟩
  have same : conn' = conn := by
    rcases stands with stands | stands <;> rw [stands] at stands' <;> simpa [eq_comm] using stands'
  subst same
  obtain ⟨-, before, -, rfl⟩ | ⟨other, -⟩ := Heap.of_modify there
  · rcases left with left | left
    · exact absurd owner (left before)
    · exact left before
  · exact absurd rfl other

theorem acts_abandonedContinues (found : s.acquires[i]? = some call) :
    Acts late stray ⟨s, none, false⟩ ⟨(s.abandonedContinues i call).1, none, false⟩
      (s.abandonedContinues i call).2 := by
  unfold abandonedContinues
  cases stands : call.stage with
  | abandoned conn =>
    have running : call.stage.running = true := by
      rw [stands]
      rfl
    exact .silent (.leftToPool s none false conn)
      (acts_failCreate none false _ (free_setAttempt found running (.inr stands) (.inl nofun)))
  | looking | connecting | checking | closing | queued | fulfilled | rejected => exact .nil _

theorem acts_closeSettles (found : s.acquires[i]? = some call) :
    Acts late stray ⟨s, none, false⟩ ⟨(s.closeSettles i call).1, none, false⟩
      (s.closeSettles i call).2 := by
  unfold closeSettles
  cases stands : call.stage with
  | closing =>
    refine acts_failCreate none false _ ⟨found, by rw [stands]; rfl, fun conn attempt other => ?_⟩
    rw [stands] at other
    simp at other
  | looking | connecting | checking | abandoned | queued | fulfilled | rejected => exact .nil _

/-! ### The outcome of a connect attempt -/

variable {attempt : ConnectAttempt}

theorem acts_continueAcquire (found : s.acquires[i]? = some call)
    (stands : call.stage = .connecting conn) (there : s.attempts[conn]? = some attempt)
    {failure : Option Thrown} (settled : attempt.stage = .settled failure) :
    Acts late stray ⟨s, none, false⟩ ⟨(s.continueAcquire i call conn failure).1, none, false⟩
      (s.continueAcquire i call conn failure).2 := by
  have running : call.stage.running = true := by
    rw [stands]
    rfl
  have taken : Free (s.setAttempt conn fun attempt => { attempt with stage := .taken }).attempts
      s.acquires i call :=
    free_setAttempt found running (.inl stands) (.inr fun _ => rfl)
  unfold continueAcquire
  cases failure with
  | none =>
    refine .silent (.connected s false conn attempt .taken there settled (.inl rfl)) ?_
    dsimp only
    split_ifs with closed
    · exact .silent (.awaitClose _ _ false i call taken)
        (.one (.closeHand _ false conn (.inl closed)))
    · exact .one (.fulfil _ false i call conn taken (.inl (Bool.eq_false_iff.2 closed)))
  | some error =>
    dsimp only
    split_ifs
    · exact .silent (.leftToPool s none false conn)
        (acts_failCreate none false _ (free_setAttempt found running (.inl stands) (.inl nofun)))
    · exact .silent (.disposed s none false conn attempt .taken there (.inl ⟨error, settled⟩)
        (.inl rfl)) (acts_failCreate none _ _ taken)

theorem acts_continueDrain (there : s.attempts[conn]? = some attempt) {failure : Option Thrown}
    (settled : attempt.stage = .settled failure) :
    let taken := s.setAttempt conn fun attempt => { attempt with stage := .taken }
    Acts late stray ⟨s, none, false⟩ ⟨(taken.continueDrain conn failure).1, none, false⟩
      (taken.continueDrain conn failure).2 := by
  intro taken
  unfold continueDrain
  cases failure with
  | none =>
    refine .silent (.connected s false conn attempt .taken there settled (.inl rfl)) ?_
    dsimp only
    split_ifs with closed
    · exact (Acts.one (.closeHand _ false conn (.inl closed))).snoc (.drained _ none false)
    · cases done : taken.handoffPendingAcquire conn with
      | mk next rest =>
        obtain ⟨given, handed⟩ := rest
        obtain ⟨acts, still, exhausted⟩ :=
          acts_handoff late stray false conn (Bool.eq_false_iff.2 closed) done
        cases handed with
        | true =>
          have both := acts.trans (acts_drain next none false)
          rw [List.append_nil] at both
          exact both
        | false =>
          obtain ⟨none, rfl⟩ := exhausted rfl
          exact (acts.snoc (.park next false conn _ none still)).snoc (.drained _ _ false)
  | some error =>
    refine .silent (.disposed s none false conn attempt .taken there (.inl ⟨error, settled⟩)
      (.inl rfl)) ?_
    dsimp only
    cases took : taken.takeNextPendingAcquire with
    | mk next waiter =>
      cases waiter with
      | none => exact .silent (.exhaust taken next none _ took) (acts_drain next none _)
      | some j =>
        exact (Acts.one (.dismiss taken next none _ j (normalizeConnectionCreateError error)
          took)).trans (acts_drain _ none _)

theorem acts_continueWarmUp (there : s.attempts[conn]? = some attempt) {failure : Option Thrown}
    (settled : attempt.stage = .settled failure) :
    let warmed := s.setAttempt conn fun attempt => { attempt with stage := .warmedUp }
    Acts late stray ⟨s, none, false⟩ ⟨(warmed.continueWarmUp conn failure).1, none, false⟩
      (warmed.continueWarmUp conn failure).2 := by
  intro warmed
  unfold continueWarmUp
  cases failure with
  | none =>
    refine .silent (.connected s false conn attempt .warmedUp there settled (.inr rfl)) ?_
    dsimp only
    split_ifs with closed
    · exact .one (.closeHand _ false conn (.inl closed))
    · exact acts_handoffOrPark conn (Bool.eq_false_iff.2 closed)
  | some error =>
    exact .one (.disposed s none false conn attempt .warmedUp there (.inl ⟨error, settled⟩)
      (.inr rfl))

theorem acts_continueLate (there : s.attempts[conn]? = some attempt) {failure : Option Thrown}
    (settled : attempt.stage = .settled failure) :
    let taken := s.setAttempt conn fun attempt => { attempt with stage := .taken }
    Acts late stray ⟨s, none, false⟩ ⟨(taken.continueLate conn failure).1, none, false⟩
      (taken.continueLate conn failure).2 := by
  intro taken
  unfold continueLate
  cases failure with
  | none =>
    refine .silent (.connected s false conn attempt .taken there settled (.inl rfl)) ?_
    dsimp only
    split_ifs with closed
    · exact .cons (.closeHand _ false conn (.inl closed)) (acts_schedule _ none false)
    · cases done : taken.handoffPendingAcquire conn with
      | mk next rest =>
        obtain ⟨given, handed⟩ := rest
        obtain ⟨acts, still, exhausted⟩ :=
          acts_handoff late stray false conn (Bool.eq_false_iff.2 closed) done
        cases handed with
        | true =>
          have both := acts.trans (acts_schedule next none false)
          rw [List.append_nil] at both
          exact both
        | false =>
          obtain ⟨none, rfl⟩ := exhausted rfl
          exact acts.trans (.cons (.closeHand next false conn (.inr none))
            (acts_schedule next _ false))
  | some error =>
    exact .silent (.disposed s none false conn attempt .taken there (.inl ⟨error, settled⟩)
      (.inl rfl)) (acts_schedule _ none _)

theorem acts_connectContinues (there : s.attempts[conn]? = some attempt) :
    Acts late stray ⟨s, none, false⟩ ⟨(s.connectContinues conn attempt).1, none, false⟩
      (s.connectContinues conn attempt).2 := by
  unfold connectContinues
  cases settled : attempt.stage with
  | settled failure =>
    dsimp only
    cases owner : attempt.owner with
    | acquire i =>
      dsimp only
      cases found : s.acquires[i]? with
      | none => exact .nil _
      | some call =>
        dsimp only
        split_ifs with stands
        · exact acts_continueAcquire found stands there settled
        · exact .nil _
    | drain => exact acts_continueDrain there settled
    | warmUp => exact acts_continueWarmUp there settled
    | late => exact acts_continueLate there settled
    | closing => exact .one (.closing s none false conn attempt failure there settled owner)
  | connecting | warmedUp | taken => exact .nil _

/-! ### The other operations -/

theorem rejectPendingAcquire_effects (error : Thrown) (found : s.acquires[i]? = some call)
    (stands : call.stage = .queued) : (s.rejectPendingAcquire i error).2 = [.rejected i error] := by
  unfold rejectPendingAcquire
  rw [if_neg (by rw [hasSettled_eq_false.2 ⟨call, found, stands⟩]; exact Bool.false_ne_true)]
  rfl

theorem acts_abort (found : s.acquires[i]? = some call) :
    Acts late stray ⟨s, none, false⟩ ⟨(s.abort i call).1, none, false⟩ (s.abort i call).2 := by
  have flagged : (s.acquires.modify i fun call => { call with aborted := true })[i]? =
      some { call with aborted := true } := Heap.modify_self found
  unfold abort
  split_ifs
  · refine .silent (.flag s none false i) ?_
    cases stands : call.stage with
    | queued =>
      have queued : ({ call with aborted := true } : PoolAcquire).stage = .queued := stands
      have shown := rejectPendingAcquire_effects
        (s := { s with acquires := s.acquires.modify i fun call => { call with aborted := true } })
        acquireAborted flagged queued
      dsimp only
      rw [shown]
      exact .one (.rejectPending _ none false i _ acquireAborted flagged queued)
    | connecting conn =>
      dsimp only
      split_ifs
      · exact .one (.abandon _ none false i _ conn flagged stands)
      · exact .nil _
    | looking | abandoned | checking | closing | fulfilled | rejected => exact .nil _
  · exact .nil _

theorem acts_release (found : s.acquires[i]? = some call)
    (allowed : ∀ conn, call.stage = .fulfilled conn → conn ∈ s.active →
      call.released = false ∨ stray) :
    Acts late stray ⟨s, none, false⟩ ⟨(s.release i call).1, none, false⟩ (s.release i call).2 := by
  unfold release
  cases stands : call.stage with
  | fulfilled conn =>
    dsimp only
    split_ifs with used closed
    · exact .silent (.release s false i call conn found stands used (allowed conn stands used))
        (.one (.closeHand _ false conn (.inl closed)))
    · exact .silent (.release s false i call conn found stands used (allowed conn stands used))
        (acts_handoffOrPark conn (Bool.eq_false_iff.2 closed))
    · exact .one (.giveBack s none false i call conn found stands used)
  | looking | connecting | checking | abandoned | closing | queued | rejected => exact .nil _

theorem acts_evictIdle (conn : ConnId) :
    Acts late stray ⟨s, none, false⟩ ⟨(s.evictIdle conn).1, none, false⟩ (s.evictIdle conn).2 := by
  unfold evictIdle
  cases entry : s.idle.find? (·.1 = conn) with
  | none => exact .nil _
  | some entry' =>
    obtain ⟨same, lastUsedAt⟩ := entry'
    have place : same = conn := by simpa using List.find?_some entry
    subst place
    have parked := List.mem_of_find?_eq_some entry
    dsimp only
    split_ifs
    · exact .one (.evict s none false same lastUsedAt parked)
    · exact .one (.parkAgain s none false same lastUsedAt parked)

/-- The acts of a step. -/
theorem acts_step (s : RpcConnectionPool) (event : PoolEvent) :
    Acts (s.takesLate event = true) (s.releasesAgain event = true) ⟨s, none, false⟩
      ⟨(s.step event).1, none, false⟩ (s.step event).2 := by
  have atAcquire {late stray : Prop} (i : AcquireId)
      {act : PoolAcquire → RpcConnectionPool × List PoolEffect}
      (acts : ∀ call, s.acquires[i]? = some call →
        Acts late stray ⟨s, none, false⟩ ⟨(act call).1, none, false⟩ (act call).2) :
      Acts late stray ⟨s, none, false⟩ ⟨(s.atAcquire i act).1, none, false⟩
      (s.atAcquire i act).2 := by
    unfold RpcConnectionPool.atAcquire
    cases found : s.acquires[i]? with
    | none => exact .nil _
    | some call => exact acts call found
  have atAttempt {late stray : Prop} (conn : ConnId)
      {act : ConnectAttempt → RpcConnectionPool × List PoolEffect}
      (acts : ∀ attempt, s.attempts[conn]? = some attempt →
        Acts late stray ⟨s, none, false⟩ ⟨(act attempt).1, none, false⟩ (act attempt).2) :
      Acts late stray ⟨s, none, false⟩ ⟨(s.atAttempt conn act).1, none, false⟩
      (s.atAttempt conn act).2 := by
    unfold RpcConnectionPool.atAttempt
    cases found : s.attempts[conn]? with
    | none => exact .nil _
    | some attempt => exact acts attempt found
  cases event with
  | acquire aborted timeoutMs => exact acts_acquire aborted timeoutMs
  | healthCheckSettles i healthy =>
    refine atAcquire i fun call found =>
      acts_healthCheckSettles healthy found fun checks aborted takes => ?_
    have late : s.takesLate (.healthCheckSettles i healthy) = s.closed := by
      change (s.closed && s.acquires[i]?.any (fun call => call.stage.checks && !call.aborted) &&
        (healthy || !s.idle.isEmpty && !s.dueForCheck)) = s.closed
      rw [found, Option.any_some, checks, aborted, takes]
      simp
    rw [late]
    cases s.closed
    · exact .inl rfl
    · exact .inr rfl
  | connectSettles conn failure =>
    refine atAttempt conn fun attempt found => ?_
    unfold connectSettles
    cases stands : attempt.stage with
    | connecting => exact .one (.connects s none false conn attempt failure found stands)
    | settled | warmedUp | taken => exact .nil _
  | connectContinues conn => exact atAttempt conn fun attempt found => acts_connectContinues found
  | abandonedContinues i => exact atAcquire i fun call found => acts_abandonedContinues found
  | closeSettles i => exact atAcquire i fun call found => acts_closeSettles found
  | abort i => exact atAcquire i fun call found => acts_abort found
  | timeout i =>
    refine atAcquire i fun call found => ?_
    unfold timeout
    cases stands : call.stage with
    | queued =>
      dsimp only
      rw [rejectPendingAcquire_effects _ found stands]
      exact .one (.rejectPending s none false i call _ found stands)
    | looking | connecting | checking | abandoned | closing | fulfilled | rejected => exact .nil _
  | release i =>
    refine atAcquire i fun call found => acts_release found fun conn stands used => ?_
    have again : s.releasesAgain (.release i) = call.released := by
      have active : (s.active.any fun conn => call.stage = .fulfilled conn) = true := by
        rw [List.any_eq_true]
        exact ⟨conn, used, decide_eq_true stands⟩
      unfold releasesAgain
      dsimp only
      rw [found, Option.any_some, active, Bool.and_true]
    rw [again]
    cases call.released
    · exact .inl rfl
    · exact .inr rfl
  | idleTimeout conn => exact acts_evictIdle conn
  | drainEnds =>
    unfold step
    dsimp only
    split_ifs
    · exact .silent (.undrained s none false) (acts_schedule _ none true)
    · exact .nil _
  | warmUpEnds conn =>
    refine atAttempt conn fun attempt found => ?_
    unfold warmUpEnds
    cases stands : attempt.stage with
    | warmedUp =>
      exact .silent (.disposed s none false conn attempt .taken found (.inr stands) (.inl rfl))
        (acts_schedule _ none _)
    | connecting | settled | taken => exact .nil _
  | advance ms => exact .one (.advance s none false _)
  | close =>
    unfold step close
    dsimp only
    split_ifs with closed
    · exact .nil _
    · have act : Act (s.takesLate .close = true)
          (s.releasesAgain .close = true) ⟨s, none, false⟩ _ _ :=
        .close s none false (Bool.eq_false_iff.2 closed)
      unfold close at act
      rw [if_neg closed] at act
      exact .one act
  | sweep =>
    by_cases due : (s.closed && !s.swept && s.warmupComplete) = true
    · exact .one (.sweep s none false due)
    · unfold step sweep
      rw [if_neg due]
      exact .nil _

end RpcConnectionPool

end CapnpDeno
