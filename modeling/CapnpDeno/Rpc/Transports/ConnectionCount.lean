import CapnpDeno.Lib.Table
import CapnpDeno.Rpc.Transports.PoolActs

/-!
# The number of connections

Every connection is in one place from the begin of its attempt on, until it fails or is closed:
being connected, idle, active, under a health check, or with the step that takes it over.
-/

namespace CapnpDeno

/-- The acquire has the connection checked. -/
def PoolAcquire.weight (w : ConnId → ℤ) (call : PoolAcquire) : ℤ :=
  match call.stage with
  | .checking conn => w conn
  | _ => 0

/-- The attempt has the connection: it is under way, or has succeeded and nobody has taken it
over. -/
def ConnectAttempt.holds (attempt : ConnectAttempt) : Bool :=
  match attempt.stage with
  | .connecting | .settled none => true
  | .settled (some _) | .warmedUp | .taken => false

/-- What the effect takes from the connections. -/
def PoolEffect.weight (w : ConnId → ℤ) : PoolEffect → ℤ
  | .failed conn | .connectionClosed conn => w conn
  | .fulfilled _ _ | .rejected _ _ | .closed => 0

namespace RpcConnectionPool

variable {s s' : RpcConnectionPool} {i : AcquireId} {conn : ConnId} {call : PoolAcquire}
  {hand : Option ConnId} {owed : Bool} {late stray : Prop} {w : ConnId → ℤ} {m m' : Midway}
  {effects : List PoolEffect}

/-- The weight of the connections that have left their attempts, less that of the attempts they have
left. -/
def weight (w : ConnId → ℤ) (s : RpcConnectionPool) : ℤ :=
  (s.idle.map fun entry => w entry.1).sum + (s.active.map w).sum +
    (s.acquires.map (·.weight w)).sum +
    Heap.weigh (fun conn attempt => if attempt.holds then 0 else -w conn) s.attempts

def spent (w : ConnId → ℤ) (effects : List PoolEffect) : ℤ := (effects.map (·.weight w)).sum

theorem spent_append (effects more : List PoolEffect) :
    spent w (effects ++ more) = spent w effects + spent w more := by
  unfold spent
  rw [List.map_append, List.sum_append]

/-- The weight of a connection that is in no place between two acts. -/
def atHand (w : ConnId → ℤ) (hand : Option ConnId) : ℤ := (hand.map w).getD 0

/-! ## What the changes weigh -/

theorem weight_running (running : call.stage.running = true) : call.weight w = 0 := by
  unfold PoolAcquire.weight
  split
  · next stands =>
    rw [stands] at running
    cases running
  · rfl

theorem weight_queued (queued : call.stage = .queued) : call.weight w = 0 := by
  unfold PoolAcquire.weight
  rw [queued]

theorem weight_modify (found : s.acquires[i]? = some call) (f : PoolAcquire → PoolAcquire) :
    weight w { s with acquires := s.acquires.modify i f } =
      weight w s + ((f call).weight w - call.weight w) := by
  unfold weight
  dsimp only
  rw [Heap.sum_modify _ found]
  omega

/-- A change of an acquire that concerns no check. -/
theorem weight_modify_same (f : PoolAcquire → PoolAcquire)
    (same : ∀ call, (f call).weight w = call.weight w) :
    weight w { s with acquires := s.acquires.modify i f } = weight w s := by
  unfold weight
  dsimp only
  rw [Heap.map_modify _ _ same]

theorem weight_goTo (found : s.acquires[i]? = some call) (stage : AcquireStage) :
    weight w (s.goTo i stage) = weight w s +
      (({ call with stage := stage } : PoolAcquire).weight w - call.weight w) :=
  weight_modify found fun call => { call with stage := stage }

theorem weight_fulfil (found : s.acquires[i]? = some call) (unchecked : call.weight w = 0) :
    weight w (s.fulfil i conn).1 = weight w s + w conn := by
  have gone := weight_goTo (s := { s with active := s.active ++ [conn] })
    (w := w) found (.fulfilled conn)
  have added : weight w { s with active := s.active ++ [conn] } = weight w s + w conn := by
    unfold weight
    dsimp only
    rw [List.map_append, List.sum_append]
    simp only [List.map_cons, List.map_nil, List.sum_cons, List.sum_nil]
    omega
  rw [unchecked] at gone
  change weight w (goTo _ i _) = _
  rw [gone, added]
  change _ + (0 - 0) = _
  omega

theorem weight_reject (found : s.acquires[i]? = some call) (unchecked : call.weight w = 0)
    (error : Thrown) :
    weight w (s.reject i error).1 = weight w s := by
  have gone := weight_goTo (w := w) found (.rejected error)
  rw [unchecked] at gone
  change weight w (s.goTo i _) = _
  rw [gone]
  change _ + (0 - 0) = _
  omega

theorem weight_take {taken : RpcConnectionPool} {next : Option AcquireId}
    (took : s.takeNextPendingAcquire = (taken, next)) : weight w taken = weight w s := by
  obtain ⟨pending, count, same⟩ := takeNext_only s
  rw [took] at same
  dsimp only at same
  rw [same]
  rfl

theorem weight_setAttempt {attempt : ConnectAttempt} (found : s.attempts[conn]? = some attempt)
    (f : ConnectAttempt → ConnectAttempt) :
    weight w (s.setAttempt conn f) =
      weight w s +
        ((if (f attempt).holds then 0 else -w conn) - (if attempt.holds then 0 else -w conn)) := by
  unfold weight setAttempt
  dsimp only
  rw [Heap.weigh_modify _ found]
  omega

theorem weight_begin {begun : RpcConnectionPool} {owner : AttemptOwner}
    (begins : s.beginConnectAttempt owner = some begun) : weight w begun = weight w s := by
  unfold beginConnectAttempt at begins
  split_ifs at begins
  cases begins
  unfold weight
  change _ + Heap.weigh _ (s.attempts ++ [_]) = _
  rw [Heap.weigh_append]
  exact congrArg _ (Int.add_zero _)

theorem weight_eraseP {l : List (ConnId × ℕ)} {entry : ConnId × ℕ} (mem : entry ∈ l) :
    ((l.eraseP (·.1 = entry.1)).map fun entry => w entry.1).sum =
      (l.map fun entry => w entry.1).sum - w entry.1 := by
  induction l with
  | nil => cases mem
  | cons first l ih =>
    by_cases here : first.1 = entry.1
    · rw [List.eraseP_cons_of_pos (by simpa using here), List.map_cons, List.sum_cons, here]
      omega
    · have later : entry ∈ l := by
        rcases List.mem_cons.1 mem with rfl | later
        · exact absurd rfl here
        · exact later
      rw [List.eraseP_cons_of_neg (by simpa using here), List.map_cons, List.map_cons,
        List.sum_cons, List.sum_cons, ih later]
      omega

/-- The acquires that the close of the pool rejects count for nothing, before and after. -/
theorem sum_rejects (g : PoolAcquire → ℤ) (waiting : List AcquireId) (error : Thrown)
    (rejected : ∀ call : PoolAcquire, g { call with stage := .rejected error } = 0)
    {acquires : List PoolAcquire} (queued : ∀ i ∈ waiting, ∀ call, acquires[i]? = some call →
      g call = 0) :
    ((waiting.foldl (fun acquires i => acquires.modify i fun call =>
      { call with stage := .rejected error }) acquires).map g).sum = (acquires.map g).sum := by
  induction waiting generalizing acquires with
  | nil => rfl
  | cons i waiting ih =>
    rw [List.forall_mem_cons] at queued
    rw [List.foldl_cons, ih]
    · cases found : acquires[i]? with
      | none => rw [List.modify_eq_self (List.getElem?_eq_none_iff.1 found)]
      | some call =>
        rw [Heap.sum_modify _ found, queued.1 call found, rejected]
        exact Int.add_zero _
    · intro j mem call found
      obtain ⟨rfl, before, -, rfl⟩ | ⟨-, old⟩ := Heap.of_modify found
      · exact rejected before
      · exact queued.2 j mem call old

/-- The acquires that wait are queued. -/
theorem waiting_queued (mem : i ∈ s.pending.filter fun i => !s.hasSettled i)
    (found : s.acquires[i]? = some call) :
    call.stage = .queued := by
  obtain ⟨-, waits⟩ := List.mem_filter.1 mem
  obtain ⟨other, same, queued⟩ := hasSettled_eq_false.1 (by simpa using waits)
  cases found.symm.trans same
  exact queued

theorem weight_erase {l : List ConnId} (mem : conn ∈ l) :
    ((l.erase conn).map w).sum = (l.map w).sum - w conn := by
  have sum := (List.perm_cons_erase mem).map w |>.sum_eq
  rw [List.map_cons, List.sum_cons] at sum
  omega

theorem weight_takeFirst {lastUsedAt : ℕ} {rest : List (ConnId × ℕ)}
    (first : s.idle = (conn, lastUsedAt) :: rest) :
    weight w { s with idle := rest } + w conn = weight w s := by
  unfold weight
  dsimp only
  rw [first, List.map_cons, List.sum_cons]
  dsimp only
  omega

theorem weight_checking (stands : call.stage = .checking conn) : call.weight w = w conn := by
  unfold PoolAcquire.weight
  rw [stands]

/-! ## The balance -/

/-- What an act takes from the connections, and what is at hand after it, the connections had
before. -/
theorem weight_act (act : Act late stray m m' effects) :
    weight w m'.pool + atHand w m'.hand + spent w effects = weight w m.pool + atHand w m.hand := by
  have none : spent w [] = 0 := rfl
  have one (effect : PoolEffect) : spent w [effect] = effect.weight w := Int.add_zero _
  cases act with
  | arrive s hand owed call stands =>
    have added : weight w { s with acquires := s.acquires ++ [call] } = weight w s := by
      unfold weight
      change _ + _ + ((s.acquires ++ [call]).map _).sum + _ = _
      rw [List.map_append, List.sum_append]
      have new : call.weight w = 0 := weight_running (by rw [stands]; rfl)
      simp only [List.map_cons, List.map_nil, List.sum_cons, List.sum_nil, new]
      omega
    dsimp only
    rw [added, none, Int.add_zero]
  | abandon s hand owed i call conn found stands =>
    have gone := weight_goTo (w := w) found (.abandoned conn)
    have before : call.stage.running = true := by
      rw [stands]
      rfl
    rw [weight_running before] at gone
    dsimp only
    rw [gone, none]
    change _ + (0 - 0) + _ + 0 = _
    omega
  | awaitClose s hand owed i call free =>
    have gone := weight_goTo (w := w) free.found .closing
    rw [weight_running free.running] at gone
    dsimp only
    rw [gone, none]
    change _ + (0 - 0) + _ + 0 = _
    omega
  | takeIdle s owed conn lastUsedAt rest first =>
    have taken : weight w { s with idle := rest } + w conn = weight w s := weight_takeFirst first
    dsimp only
    rw [none]
    change _ + w conn + 0 = _ + 0
    omega
  | checkIdle s owed i call conn lastUsedAt rest first free =>
    have checks := weight_goTo (s := { s with idle := rest }) (w := w) free.found (.checking conn)
    rw [weight_running free.running] at checks
    have taken : weight w { s with idle := rest } + w conn = weight w s := weight_takeFirst first
    dsimp only
    rw [checks, none]
    change _ + (w conn - 0) + 0 + 0 = _ + 0
    omega
  | healthy s owed i call conn found stands =>
    have looks := weight_goTo (w := w) found .looking
    rw [weight_checking stands] at looks
    dsimp only
    rw [looks, none]
    change _ + (0 - w conn) + w conn + 0 = _ + 0
    omega
  | unhealthy s owed i call conn found stands =>
    have looks := weight_goTo (w := w) found .looking
    rw [weight_checking stands] at looks
    dsimp only
    rw [looks, one]
    change _ + (0 - w conn) + 0 + w conn = _ + 0
    omega
  | fulfil s owed i call conn free =>
    dsimp only
    rw [weight_fulfil free.found (weight_running free.running), one]
    change _ + w conn + 0 + 0 = _ + w conn
    omega
  | handoff s taken owed i conn took =>
    obtain ⟨call, found, queued⟩ := takeNext_queued took
    rw [← (takeNext_some took).1] at found
    dsimp only
    rw [weight_fulfil found (weight_queued queued), weight_take took, one]
    change _ + w conn + 0 + 0 = _ + w conn
    omega
  | exhaust s taken hand owed took =>
    dsimp only
    rw [weight_take took, none]
    omega
  | park s owed conn lastUsedAt =>
    rw [none]
    unfold weight parkIdleConnection
    dsimp only
    rw [List.map_append, List.sum_append]
    change _ + (w conn + 0) + _ + _ + _ + 0 + 0 = _ + w conn
    omega
  | closeHand s owed conn =>
    dsimp only
    rw [one]
    change _ + 0 + w conn = _ + w conn
    omega
  | evict s hand owed conn lastUsedAt parked =>
    rw [one]
    unfold weight
    dsimp only
    rw [weight_eraseP parked]
    dsimp only
    change _ + w conn = _
    omega
  | parkAgain s hand owed conn lastUsedAt parked =>
    rw [none]
    unfold weight
    dsimp only
    rw [List.map_append, List.sum_append, weight_eraseP parked]
    change _ - w conn + (w conn + 0) + _ + _ + _ + _ + 0 = _
    omega
  | reject s hand owed i call error free =>
    dsimp only
    rw [weight_reject free.found (weight_running free.running), one]
    change _ + _ + 0 = _
    omega
  | rejectPending s hand owed i call error found stands =>
    have rejected := weight_reject (w := w) found (weight_queued stands) error
    have counted : weight w (s.rejectPendingAcquire i error).1 = weight w (s.reject i error).1 := by
      unfold rejectPendingAcquire
      rw [if_neg (by rw [hasSettled_eq_false.2 ⟨call, found, stands⟩]; exact Bool.false_ne_true)]
      dsimp only
      split_ifs
      · obtain ⟨pending, count, same⟩ := compactPending_only
          { (s.reject i error).1 with pendingSettled := (s.reject i error).1.pendingSettled + 1 }
        rw [same]
        rfl
      · rfl
    dsimp only
    rw [counted, rejected, one]
    change _ + _ + 0 = _
    omega
  | dismiss s taken hand owed i error took =>
    obtain ⟨call, found, queued⟩ := takeNext_queued took
    rw [← (takeNext_some took).1] at found
    dsimp only
    rw [weight_reject found (weight_queued queued), weight_take took, one]
    change _ + _ + 0 = _
    omega
  | enqueue s hand owed i call free =>
    have gone := weight_goTo (w := w) free.found .queued
    rw [weight_running free.running] at gone
    have same : weight w { s.goTo i .queued with pending := s.pending ++ [i] } =
        weight w (s.goTo i .queued) := rfl
    dsimp only
    rw [same, gone, none]
    change _ + (0 - 0) + _ + 0 = _
    omega
  | begin s begun hand owed i call free begins =>
    have found : begun.acquires[i]? = some call := by
      unfold beginConnectAttempt at begins
      split_ifs at begins
      cases begins
      exact free.found
    have gone := weight_goTo (w := w) found (.connecting s.attempts.length)
    rw [weight_running free.running, weight_begin begins] at gone
    dsimp only
    rw [gone, none]
    change _ + (0 - 0) + _ + 0 = _
    omega
  | connects s hand owed conn attempt failure found stands =>
    have settles := weight_setAttempt (w := w) found fun attempt =>
      { attempt with stage := .settled failure }
    have held : attempt.holds = true := by
      unfold ConnectAttempt.holds
      rw [stands]
    rw [if_pos held] at settles
    have same (connecting : ℕ) : weight w
        { s.setAttempt conn fun attempt => { attempt with stage := .settled failure } with
          connecting := connecting } =
        weight w (s.setAttempt conn fun attempt => { attempt with stage := .settled failure }) :=
      rfl
    dsimp only
    rw [same, settles]
    cases failure with
    | none =>
      change _ + (0 - 0) + _ + 0 = _
      omega
    | some error =>
      change _ + (-w conn - 0) + _ + spent w [.failed conn] = _
      rw [one]
      change _ + (-w conn - 0) + _ + w conn = _
      omega
  | connected s owed conn attempt stage found stands taken =>
    have settles := weight_setAttempt (w := w) found fun attempt => { attempt with stage := stage }
    have held : attempt.holds = true := by
      unfold ConnectAttempt.holds
      rw [stands]
    have left : ({ attempt with stage := stage } : ConnectAttempt).holds = false := by
      rcases taken with rfl | rfl <;> rfl
    rw [held, left] at settles
    dsimp only
    rw [settles, none]
    change _ + (-w conn - 0) + w conn + 0 = _ + 0
    omega
  | disposed s hand owed conn attempt stage found stands taken =>
    have settles := weight_setAttempt (w := w) found fun attempt => { attempt with stage := stage }
    have free : attempt.holds = false := by
      unfold ConnectAttempt.holds
      rcases stands with ⟨error, stands⟩ | stands <;> rw [stands]
    have left : ({ attempt with stage := stage } : ConnectAttempt).holds = false := by
      rcases taken with rfl | rfl <;> rfl
    rw [free, left] at settles
    dsimp only
    rw [settles, none]
    omega
  | leftToPool s hand owed conn =>
    have same : weight w (s.setAttempt conn fun attempt => { attempt with owner := .late }) =
        weight w s := by
      unfold weight setAttempt
      exact congrArg _ (Heap.weigh_modify_same _ _ fun attempt => rfl)
    dsimp only
    rw [same, none]
    omega
  | closing s hand owed conn attempt failure found stands =>
    have settles := weight_setAttempt (w := w) found fun attempt => { attempt with stage := .taken }
    have left : ({ attempt with stage := .taken } : ConnectAttempt).holds = false := rfl
    have held : attempt.holds = failure.isNone := by
      unfold ConnectAttempt.holds
      rw [stands]
      cases failure <;> rfl
    rw [left, held] at settles
    dsimp only
    rw [settles]
    cases failure with
    | none =>
      change _ + (-w conn - 0) + _ + spent w [.connectionClosed conn] = _
      rw [one]
      change _ + (-w conn - 0) + _ + w conn = _
      omega
    | some error =>
      change _ + (-w conn - -w conn) + _ + 0 = _
      omega
  | drains s begun hand owed begins =>
    have same : weight w { begun with drain := .connecting } = weight w begun := rfl
    dsimp only
    rw [same, weight_begin begins, none]
    omega
  | release s owed i call conn found stands used =>
    have same : weight w { s with acquires := s.acquires.modify i fun call =>
        { call with released := true } } = weight w s := weight_modify_same _ fun _ => rfl
    rw [none]
    unfold weight at same ⊢
    dsimp only at same ⊢
    rw [weight_erase used]
    change _ + w conn + 0 = _ + 0
    omega
  | giveBack s hand owed i =>
    have same : weight w { s with acquires := s.acquires.modify i fun call =>
        { call with released := true } } = weight w s := weight_modify_same _ fun _ => rfl
    dsimp only
    rw [same, none]
    omega
  | flag s hand owed i =>
    have same : weight w { s with acquires := s.acquires.modify i fun call =>
        { call with aborted := true } } = weight w s := weight_modify_same _ fun _ => rfl
    dsimp only
    rw [same, none]
    omega
  | drained s hand owed | undrained s hand owed | scheduled s hand owed | advance s hand owed =>
    rw [none]
    exact Int.add_zero _
  | close s hand owed free =>
    have same : weight w s.close.1 = weight w s := by
      unfold close
      rw [if_neg (by rw [free]; exact Bool.false_ne_true)]
      unfold weight
      refine congrArg _ (Heap.weigh_map s.attempts fun conn attempt => ?_)
      by_cases warming : attempt.owner = .warmUp ∧ attempt.stage = .connecting
      · rw [if_pos warming]
        rfl
      · rw [if_neg warming]
    dsimp only
    rw [same, one]
    exact Int.add_zero _
  | sweep s hand owed due =>
    have rejected := sum_rejects (·.weight w)
      (s.pending.filter fun i => !s.hasSettled i) poolClosed (fun _ => rfl)
      fun i mem call found => weight_queued (waiting_queued mem found)
    unfold sweep
    rw [if_pos due, spent_append, spent_append]
    unfold weight spent
    dsimp only
    rw [rejected, List.map_map, List.map_map, List.map_map]
    have silent : (PoolEffect.weight w ∘ fun i : AcquireId => .rejected i poolClosed) =
        fun _ => 0 := rfl
    have idle : (PoolEffect.weight w ∘ fun entry : ConnId × ℕ => .connectionClosed entry.1) =
        fun entry => w entry.1 := rfl
    have active : (PoolEffect.weight w ∘ PoolEffect.connectionClosed) = w := rfl
    rw [silent, idle, active]
    simp only [List.map_const', List.sum_replicate, smul_zero, List.map_nil, List.sum_nil]
    omega

/-! ## The number of connections -/

/-- The connections that are started or established, and not yet closed. -/
def connections (s : RpcConnectionPool) : ℕ :=
  s.idle.length + s.active.length + s.acquires.countP (·.stage.checks) + s.attempts.countP (·.holds)

theorem weight_one (s : RpcConnectionPool) :
    weight (fun _ => 1) s + s.attempts.length = s.connections := by
  have one (call : PoolAcquire) : call.weight (fun _ => 1) = if call.stage.checks then 1
      else 0 := by
    unfold PoolAcquire.weight AcquireStage.checks
    cases call.stage <;> rfl
  have checked : (s.acquires.map (·.weight fun _ => 1)).sum =
      s.acquires.countP (·.stage.checks) := by
    simp only [one]
    exact Heap.sum_countP (fun call => call.stage.checks) s.acquires
  have held := Heap.weigh_countP (·.holds) s.attempts
  unfold weight connections
  simp only [List.map_const', List.sum_replicate, checked, nsmul_eq_mul, mul_one]
  push_cast
  omega

/-- The acts of a step add the attempts they begin to the connections, and take what they close. -/
theorem connections_acts (acts : Acts late stray m m' effects) (before : m.hand = none)
    (after : m'.hand = none) :
    (m'.pool.connections : ℤ) + spent (fun _ => 1) effects + m.pool.attempts.length =
      m.pool.connections + m'.pool.attempts.length := by
  have start := weight_one m.pool
  have finish := weight_one m'.pool
  have balance : weight (fun _ => 1) m'.pool + atHand (fun _ => 1) m'.hand + spent (fun _ => 1)
      ([] ++ effects) = weight (fun _ => 1) m.pool := by
    apply acts.history (P := fun past m' =>
      weight (fun _ => 1) m'.pool + atHand (fun _ => 1) m'.hand + spent (fun _ => 1) past =
        weight (fun _ => 1) m.pool)
    · rw [before]
      exact (Int.add_zero _).trans (Int.add_zero _)
    · intro past m m' effects act balance
      have kept := weight_act (w := fun _ => 1) act
      rw [spent_append]
      omega
  rw [after, List.nil_append] at balance
  change _ + 0 + _ = _ at balance
  omega

theorem spent_nonneg (effects : List PoolEffect) : 0 ≤ spent (fun _ => 1) effects := by
  unfold spent
  refine List.sum_nonneg fun weight mem => ?_
  obtain ⟨effect, -, rfl⟩ := List.mem_map.1 mem
  cases effect <;> simp [PoolEffect.weight]

/-! ## What no step changes -/

theorem options_act (act : Act late stray m m' effects) : m'.pool.options = m.pool.options := by
  have took {s taken : RpcConnectionPool} {next : Option AcquireId}
      (took : s.takeNextPendingAcquire = (taken, next)) :
      taken.options = s.options := by
    obtain ⟨pending, count, same⟩ := takeNext_only s
    rw [took] at same
    dsimp only at same
    rw [same]
  have began {s begun : RpcConnectionPool} {owner : AttemptOwner}
      (begins : s.beginConnectAttempt owner = some begun) :
      begun.options = s.options := by
    unfold beginConnectAttempt at begins
    split_ifs at begins
    cases begins
    rfl
  cases act with
  | handoff s taken owed i conn done =>
    have same : taken.options = s.options := took done
    exact same
  | exhaust s taken hand owed done => exact took done
  | dismiss s taken hand owed i error done =>
    have same : taken.options = s.options := took done
    exact same
  | rejectPending s hand owed i call error =>
    unfold rejectPendingAcquire compactPending
    dsimp only
    split_ifs <;> rfl
  | begin s begun hand owed i call free begins =>
    have same : begun.options = s.options := began begins
    exact same
  | drains s begun hand owed begins =>
    have same : begun.options = s.options := began begins
    exact same
  | close =>
    unfold close
    dsimp only
    split_ifs <;> rfl
  | sweep =>
    unfold sweep
    split_ifs
    rfl
  | _ => rfl

theorem step_options (s : RpcConnectionPool) (event : PoolEvent) :
    (s.step event).1.options = s.options :=
  (acts_step s event).invariant (P := fun m => m.pool.options = s.options)
    (fun _ _ _ act same => (options_act act).trans same) rfl

/-! ## The begin -/

/-- What the warm-up keeps. -/
theorem warmUp_invariant {P : RpcConnectionPool → Prop}
    (kept : ∀ s : RpcConnectionPool, P s →
      P { s with connecting := s.connecting + 1, attempts :=
        s.attempts ++ [⟨.warmUp, .connecting⟩] })
    (count : ℕ) (holds : P s) : P (s.warmUp count) := by
  induction count generalizing s with
  | zero => exact holds
  | succ count ih =>
    unfold warmUp beginConnectAttempt
    split_ifs
    · exact ih (kept s holds)
    · exact ih holds

theorem warmUp_connections (s : RpcConnectionPool) (count : ℕ) :
    (s.warmUp count).connections ≤ s.connections + count ∧ (s.warmUp count).options =
      s.options := by
  induction count generalizing s with
  | zero => exact ⟨Nat.le_refl _, rfl⟩
  | succ count ih =>
    unfold warmUp beginConnectAttempt
    split_ifs
    · obtain ⟨rest, same⟩ := ih { s with
        connecting := s.connecting + 1, attempts := s.attempts ++ [⟨.warmUp, .connecting⟩] }
      refine ⟨?_, same⟩
      unfold connections at rest ⊢
      dsimp only at rest ⊢
      rw [List.countP_append] at rest
      change _ ≤ _ + (_ + 1) + _ at rest
      omega
    · obtain ⟨rest, same⟩ := ih s
      exact ⟨rest.trans (by omega), same⟩

theorem final_options (options : RpcConnectionPoolOptions) (events : List PoolEvent) :
    (Machine.final step (initial options) events).options = options := by
  refine Machine.invariant (P := fun s : RpcConnectionPool => s.options = options)
    (fun s event same => ?_) events ?_
  · exact (step_options s event).trans same
  · exact (warmUp_connections _ options.minConnections).2

def checkedPool : RpcConnectionPoolOptions := ⟨0, 1, 5000, true, 0, Nat.one_pos, Nat.zero_le 1⟩

end RpcConnectionPool

end CapnpDeno
