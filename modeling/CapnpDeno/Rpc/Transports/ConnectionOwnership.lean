import CapnpDeno.Rpc.Transports.ConnectionCount

/-!
# Who has a connection

A connection is held by one acquirer at most, and after the close of the pool every connection is
passed to its `close` once, however late it comes.  That needs two things of the run: no acquire
goes on with a connection after the close, and no acquirer releases a connection again that another
one holds.
-/

namespace CapnpDeno

/-- What the acquirer holds. -/
def PoolAcquire.keeps (w : ConnId → ℤ) (call : PoolAcquire) : ℤ :=
  match call.stage with
  | .fulfilled conn => if call.released then 0 else w conn
  | _ => 0

/-- The acquire awaits the outcome of the attempt, or has been aborted while it did. -/
def PoolAcquire.Awaits (call : PoolAcquire) (conn : ConnId) : Prop :=
  call.stage = .connecting conn ∨ call.stage = .abandoned conn

def PoolEffect.disposes (w : ConnId → ℤ) : PoolEffect → ℤ
  | .connectionClosed conn => w conn
  | .failed _ | .fulfilled _ _ | .rejected _ _ | .closed => 0

/-- The event is brought about by the pool itself. -/
def PoolEvent.continues : PoolEvent → Bool
  | .connectContinues _ | .abandonedContinues _ | .drainEnds | .warmUpEnds _ | .sweep => true
  | _ => false

namespace RpcConnectionPool

variable {s s' : RpcConnectionPool} {i : AcquireId} {conn : ConnId} {call : PoolAcquire}
  {hand : Option ConnId} {owed : Bool} {late stray : Prop} {w : ConnId → ℤ} {m m' : Midway}
  {effects past : List PoolEffect}

/-! ## The connections that are held -/

def disposed (w : ConnId → ℤ) (effects : List PoolEffect) : ℤ := (effects.map (·.disposes w)).sum

theorem disposed_append (effects more : List PoolEffect) :
    disposed w (effects ++ more) = disposed w effects + disposed w more := by
  unfold disposed
  rw [List.map_append, List.sum_append]

theorem disposed_nonneg (nonneg : ∀ conn, 0 ≤ w conn) (effects : List PoolEffect) :
    0 ≤ disposed w effects := by
  unfold disposed
  refine List.sum_nonneg fun weight mem => ?_
  obtain ⟨effect, -, rfl⟩ := List.mem_map.1 mem
  cases effect <;> simp [PoolEffect.disposes, nonneg]

/-- The weight of the active connections, less that of those that are held. -/
def surplus (w : ConnId → ℤ) (s : RpcConnectionPool) : ℤ :=
  (s.active.map w).sum - (s.acquires.map (·.keeps w)).sum

theorem keeps_nonneg (nonneg : ∀ conn, 0 ≤ w conn) (call : PoolAcquire) : 0 ≤ call.keeps w := by
  unfold PoolAcquire.keeps
  split
  · split_ifs
    · exact Int.le_refl _
    · exact nonneg _
  · exact Int.le_refl _

theorem keeps_running (running : call.stage.running = true) : call.keeps w = 0 := by
  unfold PoolAcquire.keeps
  split
  · next stands =>
    rw [stands] at running
    cases running
  · rfl

theorem keeps_queued (queued : call.stage = .queued) : call.keeps w = 0 := by
  unfold PoolAcquire.keeps
  rw [queued]

theorem keeps_checking (stands : call.stage = .checking conn) : call.keeps w = 0 := by
  unfold PoolAcquire.keeps
  rw [stands]

theorem surplus_modify (found : s.acquires[i]? = some call) (f : PoolAcquire → PoolAcquire) :
    surplus w { s with acquires := s.acquires.modify i f } =
      surplus w s - ((f call).keeps w - call.keeps w) := by
  unfold surplus
  dsimp only
  rw [Heap.sum_modify _ found]
  omega

/-- An acquire that holds nothing goes on, and holds nothing. -/
theorem surplus_goTo (found : s.acquires[i]? = some call) (none : call.keeps w = 0)
    {stage : AcquireStage} (none' : ({ call with stage := stage } : PoolAcquire).keeps w = 0) :
    surplus w (s.goTo i stage) = surplus w s := by
  have gone : surplus w (s.goTo i stage) = _ :=
    surplus_modify found fun call => { call with stage := stage }
  rw [gone, none, none']
  omega

theorem surplus_fulfil (conn : ConnId) (nonneg : ∀ conn, 0 ≤ w conn)
    (found : s.acquires[i]? = some call) (none : call.keeps w = 0) :
    surplus w s ≤ surplus w (s.fulfil i conn).1 := by
  have gone : surplus w (s.fulfil i conn).1 = _ :=
    surplus_modify (s := { s with active := s.active ++ [conn] }) found
    fun call => { call with stage := .fulfilled conn }
  have added : surplus w { s with active := s.active ++ [conn] } = surplus w s + w conn := by
    unfold surplus
    dsimp only
    rw [List.map_append, List.sum_append]
    simp only [List.map_cons, List.map_nil, List.sum_cons, List.sum_nil]
    omega
  have least : ({ call with stage := .fulfilled conn } : PoolAcquire).keeps w ≤ w conn := by
    unfold PoolAcquire.keeps
    dsimp only
    split_ifs
    · exact nonneg conn
    · exact Int.le_refl _
  rw [gone, added, none]
  omega

theorem surplus_take {taken : RpcConnectionPool} {next : Option AcquireId}
    (took : s.takeNextPendingAcquire = (taken, next)) : surplus w taken = surplus w s := by
  obtain ⟨pending, count, same⟩ := takeNext_only s
  rw [took] at same
  dsimp only at same
  rw [same]
  rfl

/-- What an act takes from the surplus, it closes. -/
theorem surplus_act (act : Act late stray m m' effects) (nonneg : ∀ conn, 0 ≤ w conn)
    (once : ¬stray) :
    surplus w m.pool ≤ surplus w m'.pool + disposed w effects := by
  have none : disposed w [] = 0 := rfl
  have more := disposed_nonneg nonneg effects
  -- most acts change no active connection, and no acquire that holds one
  have plain (same : surplus w m'.pool = surplus w m.pool) :
      surplus w m.pool ≤ surplus w m'.pool + disposed w effects := by omega
  cases act with
  | arrive s hand owed call stands =>
    refine plain ?_
    have new : call.keeps w = 0 := keeps_running (by rw [stands]; rfl)
    unfold surplus
    dsimp only
    rw [List.map_append, List.sum_append]
    simp only [List.map_cons, List.map_nil, List.sum_cons, List.sum_nil, new]
    omega
  | abandon s hand owed i call conn found stands =>
    exact plain (surplus_goTo found (keeps_running (by rw [stands]; rfl)) rfl)
  | awaitClose s hand owed i call free =>
    exact plain (surplus_goTo free.found (keeps_running free.running) rfl)
  | checkIdle s owed i call conn lastUsedAt rest first free =>
    exact plain (surplus_goTo (s := { s with idle := rest }) free.found
      (keeps_running free.running) rfl)
  | healthy s owed i call conn found stands =>
    exact plain (surplus_goTo found (keeps_checking stands) rfl)
  | unhealthy s owed i call conn found stands =>
    exact plain (surplus_goTo found (keeps_checking stands) rfl)
  | fulfil s owed i call conn free =>
    have gained := surplus_fulfil conn nonneg free.found (keeps_running free.running)
    dsimp only
    omega
  | handoff s taken owed i conn took =>
    obtain ⟨call, found, queued⟩ := takeNext_queued took
    have same := surplus_take (w := w) took
    rw [← (takeNext_some took).1] at found
    have gained := surplus_fulfil conn nonneg found (keeps_queued queued)
    dsimp only
    omega
  | exhaust s taken hand owed took => exact plain (surplus_take took)
  | reject s hand owed i call error free =>
    exact plain (surplus_goTo free.found (keeps_running free.running) rfl)
  | rejectPending s hand owed i call error found stands =>
    refine plain ?_
    have gone : surplus w (s.reject i error).1 = surplus w s :=
      surplus_goTo found (keeps_queued stands) rfl
    unfold rejectPendingAcquire
    dsimp only
    split_ifs
    · rfl
    · obtain ⟨pending, count, same⟩ :=
        compactPending_only { (s.reject i error).1 with
          pendingSettled := (s.reject i error).1.pendingSettled + 1 }
      rw [same]
      exact gone
    · exact gone
  | dismiss s taken hand owed i error took =>
    obtain ⟨call, found, queued⟩ := takeNext_queued took
    have same := surplus_take (w := w) took
    rw [← (takeNext_some took).1] at found
    exact plain ((surplus_goTo found (keeps_queued queued) rfl).trans same)
  | enqueue s hand owed i call free =>
    exact plain (surplus_goTo free.found (keeps_running free.running) rfl)
  | begin s begun hand owed i call free begins =>
    unfold beginConnectAttempt at begins
    split_ifs at begins
    cases begins
    exact plain (surplus_goTo (s := { s with connecting := _, attempts := _ }) free.found
      (keeps_running free.running) rfl)
  | drains s begun hand owed begins =>
    unfold beginConnectAttempt at begins
    split_ifs at begins
    cases begins
    exact plain rfl
  | release s owed i call conn found stands used allowed =>
    have fresh : call.released = false := allowed.resolve_right once
    have held : call.keeps w = w conn := by
      unfold PoolAcquire.keeps
      rw [stands, fresh]
      rfl
    have gone : surplus w { s with acquires := s.acquires.modify i fun call =>
        { call with released := true } } = _ :=
      surplus_modify found fun call => { call with released := true }
    have free : ({ call with released := true } : PoolAcquire).keeps w = 0 := by
      unfold PoolAcquire.keeps
      rw [stands]
      rfl
    rw [held, free] at gone
    unfold surplus at gone ⊢
    dsimp only at gone ⊢
    rw [weight_erase used]
    omega
  | giveBack s hand owed i call conn found stands unused =>
    have gone : surplus w { s with acquires := s.acquires.modify i fun call =>
        { call with released := true } } = _ :=
      surplus_modify found fun call => { call with released := true }
    have held := keeps_nonneg nonneg call
    have free : ({ call with released := true } : PoolAcquire).keeps w = 0 := by
      unfold PoolAcquire.keeps
      rw [stands]
      rfl
    dsimp only
    omega
  | flag s hand owed i =>
    have same : (s.acquires.modify i fun call => { call with aborted := true }).map (·.keeps w) =
        s.acquires.map (·.keeps w) := Heap.map_modify _ _ fun _ => rfl
    refine plain ?_
    unfold surplus
    dsimp only
    rw [same]
  | close s =>
    refine plain ?_
    unfold close
    split_ifs <;> rfl
  | sweep s hand owed due =>
    have rejected := sum_rejects (·.keeps w)
      (s.pending.filter fun i => !s.hasSettled i) poolClosed (fun _ => rfl)
      fun i mem call found => keeps_queued (waiting_queued mem found)
    unfold sweep
    rw [if_pos due, disposed_append, disposed_append]
    unfold surplus disposed
    dsimp only
    rw [rejected, List.map_map, List.map_map, List.map_map]
    have silent : (PoolEffect.disposes w ∘ fun i : AcquireId => .rejected i poolClosed) =
        fun _ => 0 := rfl
    have idle : (PoolEffect.disposes w ∘ fun entry : ConnId × ℕ => .connectionClosed entry.1) =
        fun entry => w entry.1 := rfl
    have active : (PoolEffect.disposes w ∘ PoolEffect.connectionClosed) = w := rfl
    have parked : 0 ≤ (s.idle.map fun entry => w entry.1).sum := by
      refine List.sum_nonneg fun weight mem => ?_
      obtain ⟨entry, -, rfl⟩ := List.mem_map.1 mem
      exact nonneg entry.1
    rw [silent, idle, active]
    simp only [List.map_const', List.sum_replicate, smul_zero, List.map_nil, List.sum_nil]
    omega
  | _ => exact plain rfl

/-! ## The close of the pool -/

/-- What the effects so far and the state say about the close. -/
structure AroundClose (past : List PoolEffect) (s : RpcConnectionPool) : Prop where
  closes : .closed ∈ past → s.closed = true
  fulfils : Machine.Follows (fun before effect => ∀ i conn, effect = .fulfilled i conn →
    .closed ∉ before) past
  swept : s.swept = true → s.closed = true ∧ s.idle = [] ∧ s.active = []

/-- An act that fulfils no acquire and does not close the pool. -/
theorem AroundClose.plain (holds : AroundClose past s) (closed : s'.closed = s.closed)
    (none : ∀ i conn, .fulfilled i conn ∉ effects) (open' : .closed ∉ effects)
    (swept : s'.swept = true → s.swept = true ∧ (s.idle = [] → s'.idle = []) ∧
      (s.active = [] → s'.active = [])) :
    AroundClose (past ++ effects) s' := by
  refine ⟨fun mem => ?_, holds.fulfils.append fun before effect after split i conn same =>
    ?_, fun done => ?_⟩
  · rw [closed]
    rcases List.mem_append.1 mem with old | new
    · exact holds.closes old
    · exact absurd new open'
  · refine absurd ?_ (none i conn)
    rw [split, same]
    exact List.mem_append_right _ List.mem_cons_self
  · obtain ⟨before, idle, active⟩ := swept done
    obtain ⟨shut, parked, used⟩ := holds.swept before
    exact ⟨closed.trans shut, idle parked, active used⟩

/-- An act that keeps the sets and shows nothing. -/
theorem AroundClose.same (holds : AroundClose past s) (closed : s'.closed = s.closed)
    (swept : s'.swept = s.swept) (idle : s'.idle = s.idle) (active : s'.active = s.active) :
    AroundClose (past ++ []) s' := by
  refine holds.plain closed nofun nofun fun done =>
    ⟨swept.symm.trans done, fun none => ?_, fun none => ?_⟩
  · exact idle.trans none
  · exact active.trans none

/-- An acquire is fulfilled while the pool is open. -/
theorem AroundClose.fulfil (holds : AroundClose past s) (free : s.closed = false)
    (swept : s'.swept = s.swept) (i : AcquireId) (conn : ConnId) :
    AroundClose (past ++ [.fulfilled i conn]) s' := by
  have shut : .closed ∉ past := fun mem => by
    have closed := holds.closes mem
    rw [free] at closed
    cases closed
  refine ⟨fun mem => ?_, holds.fulfils.append fun before effect after split i' conn' same =>
    ?_, fun done => ?_⟩
  · simp [shut] at mem
  · cases before with
    | nil =>
      rw [List.append_nil]
      exact shut
    | cons first before => simp at split
  · have closed := (holds.swept (swept.symm.trans done)).1
    rw [free] at closed
    cases closed

theorem takeNext_sets {taken : RpcConnectionPool} {next : Option AcquireId}
    (took : s.takeNextPendingAcquire = (taken, next)) :
    taken.closed = s.closed ∧ taken.swept = s.swept ∧ taken.idle = s.idle ∧
    taken.active = s.active := by
  obtain ⟨pending, count, same⟩ := takeNext_only s
  rw [took] at same
  dsimp only at same
  rw [same]
  exact ⟨rfl, rfl, rfl, rfl⟩

theorem aroundClose_act (act : Act late stray m m' effects) (timely : ¬late)
    (holds : AroundClose past m.pool) :
    AroundClose (past ++ effects) m'.pool := by
  cases act with
  | takeIdle s owed conn lastUsedAt rest first =>
    refine holds.plain rfl nofun nofun fun done => ⟨done, fun none => ?_, id⟩
    rw [first] at none
    cases none
  | checkIdle s owed i call conn lastUsedAt rest first free =>
    refine holds.plain rfl nofun nofun fun done => ⟨done, fun none => ?_, id⟩
    rw [first] at none
    cases none
  | unhealthy s owed i call conn found stands =>
    exact holds.plain rfl (by simp) (by simp) fun done => ⟨done, id, id⟩
  | fulfil s owed i call conn free allowed =>
    have swept : (s.fulfil i conn).1.swept = s.swept := rfl
    exact holds.fulfil (allowed.resolve_right timely) swept i conn
  | handoff s taken owed i conn took free =>
    obtain ⟨same, still, -, -⟩ := takeNext_sets took
    have swept : (taken.fulfil i conn).1.swept = s.swept := still
    exact holds.fulfil free swept i conn
  | exhaust s taken hand owed took =>
    obtain ⟨closed, swept, idle, active⟩ := takeNext_sets took
    exact holds.same closed swept idle active
  | park s owed conn lastUsedAt exhausted free =>
    refine holds.plain rfl nofun nofun fun done => ?_
    have closed := (holds.swept done).1
    rw [free] at closed
    cases closed
  | closeHand s owed conn idle =>
    exact holds.plain rfl (by simp) (by simp) fun done => ⟨done, id, id⟩
  | evict s hand owed conn lastUsedAt parked =>
    refine holds.plain rfl (by simp) (by simp) fun done => ⟨done, fun none => ?_, id⟩
    rw [none] at parked
    cases parked
  | parkAgain s hand owed conn lastUsedAt parked =>
    refine holds.plain rfl nofun nofun fun done => ⟨done, fun none => ?_, id⟩
    rw [none] at parked
    cases parked
  | reject s hand owed i call error free =>
    exact holds.plain rfl (by simp) (by simp) fun done => ⟨done, id, id⟩
  | rejectPending s hand owed i call error found stands =>
    obtain ⟨closed, swept, idle, active⟩ : (s.rejectPendingAcquire i error).1.closed = s.closed ∧
        (s.rejectPendingAcquire i error).1.swept = s.swept ∧
        (s.rejectPendingAcquire i error).1.idle = s.idle ∧
        (s.rejectPendingAcquire i error).1.active = s.active := by
      unfold rejectPendingAcquire compactPending
      dsimp only
      split_ifs <;> exact ⟨rfl, rfl, rfl, rfl⟩
    exact holds.plain closed (by simp) (by simp) fun done =>
      ⟨swept.symm.trans done, fun none => idle.trans none, fun none => active.trans none⟩
  | dismiss s taken hand owed i error took =>
    obtain ⟨closed, swept, idle, active⟩ := takeNext_sets took
    exact holds.plain closed (by simp) (by simp) fun done =>
      ⟨swept.symm.trans done, fun none => idle.trans none, fun none => active.trans none⟩
  | begin s begun hand owed i call free begins =>
    unfold beginConnectAttempt at begins
    split_ifs at begins
    cases begins
    exact holds.same rfl rfl rfl rfl
  | drains s begun hand owed begins =>
    unfold beginConnectAttempt at begins
    split_ifs at begins
    cases begins
    exact holds.same rfl rfl rfl rfl
  | connects s hand owed conn attempt failure =>
    refine holds.plain rfl ?_ ?_ fun done => ⟨done, id, id⟩ <;> cases failure <;> simp
  | closing s hand owed conn attempt failure =>
    refine holds.plain rfl ?_ ?_ fun done => ⟨done, id, id⟩ <;> cases failure <;> simp
  | release s owed i call conn found stands used =>
    refine holds.plain rfl nofun nofun fun done => ⟨done, id, fun none => ?_⟩
    rw [none] at used
    cases used
  | close s hand owed free =>
    refine ⟨fun _ => ?_, holds.fulfils.append fun before effect after split i conn same =>
      ?_, fun done => ?_⟩
    · unfold close
      rw [free]
      rfl
    · cases before with
      | nil =>
        cases split
        cases same
      | cons first before => simp at split
    · have swept : s.swept = true := by
        unfold close at done
        rw [free] at done
        exact done
      have closed := (holds.swept swept).1
      rw [free] at closed
      cases closed
  | sweep s hand owed due =>
    have closed : s.closed = true := by
      simp only [Bool.and_eq_true] at due
      exact due.1.1
    have same : s.sweep.1.closed = s.closed := by
      unfold sweep
      rw [if_pos due]
    refine ⟨fun _ => same.trans closed,
      holds.fulfils.append fun before effect after split i conn fulfils => ?_, fun _ => ?_⟩
    · unfold sweep at split
      rw [if_pos due] at split
      have mem : effect ∈ before ++ effect :: after := List.mem_append_right _ List.mem_cons_self
      rw [← split, fulfils] at mem
      simp at mem
    · refine ⟨same.trans closed, ?_, ?_⟩ <;> unfold sweep <;> rw [if_pos due]
  | _ => exact holds.same rfl rfl rfl rfl

/-! ## The attempts of the acquires -/

/-- An attempt that an acquire has begun, and whose outcome is not taken, is awaited. -/
def Bound (attempts : List ConnectAttempt) (acquires : List PoolAcquire) : Prop :=
  ∀ (conn : ConnId) (attempt : ConnectAttempt) (i : AcquireId), attempts[conn]? = some attempt →
    attempt.owner = .acquire i → attempt.stage.pending = true → ∃ call, acquires[i]? = some call ∧
    call.Awaits conn

section Bound

variable {attempts : List ConnectAttempt} {acquires : List PoolAcquire} {attempt : ConnectAttempt}

theorem Bound.modify (bound : Bound attempts acquires) (found : acquires[i]? = some call)
    (f : PoolAcquire → PoolAcquire)
    (kept : ∀ conn attempt, attempts[conn]? = some attempt → attempt.owner = .acquire i →
      attempt.stage.pending = true → call.Awaits conn → (f call).Awaits conn) :
    Bound attempts (acquires.modify i f) := by
  intro conn attempt j there owner pending
  obtain ⟨other, found', awaits⟩ := bound conn attempt j there owner pending
  by_cases same : j = i
  · subst same
    cases found.symm.trans found'
    exact ⟨f call, Heap.modify_self found, kept conn attempt there owner pending awaits⟩
  · exact ⟨other, by rw [Heap.modify_other same]; exact found', awaits⟩

/-- The acquire goes on without an attempt of its own. -/
theorem Bound.free (bound : Bound attempts acquires) (free : Free attempts acquires i call)
    (f : PoolAcquire → PoolAcquire) : Bound attempts (acquires.modify i f) := by
  refine bound.modify free.found f fun conn attempt there owner pending awaits => ?_
  rw [free.loose conn attempt awaits there owner] at pending
  cases pending

/-- An acquire goes on that awaits no attempt. -/
theorem Bound.idle (bound : Bound attempts acquires) (found : acquires[i]? = some call)
    (none : ∀ conn, ¬call.Awaits conn) (f : PoolAcquire → PoolAcquire) :
    Bound attempts (acquires.modify i f) :=
  bound.modify found f fun conn _ _ _ _ awaits => absurd awaits (none conn)

theorem Bound.mark (bound : Bound attempts acquires) (i : AcquireId) (f : PoolAcquire → PoolAcquire)
    (same : ∀ call, (f call).stage = call.stage) : Bound attempts (acquires.modify i f) := by
  cases found : acquires[i]? with
  | none =>
    rw [List.modify_eq_self (List.getElem?_eq_none_iff.1 found)]
    exact bound
  | some call =>
    refine bound.modify found f fun conn _ _ _ _ awaits => ?_
    unfold PoolAcquire.Awaits
    rw [same]
    exact awaits

theorem Bound.arrive (bound : Bound attempts acquires) (call : PoolAcquire) :
    Bound attempts (acquires ++ [call]) := by
  intro conn attempt i there owner pending
  obtain ⟨other, found, awaits⟩ := bound conn attempt i there owner pending
  exact ⟨other, Heap.append_old found, awaits⟩

theorem Bound.setAttempt (bound : Bound attempts acquires) (conn : ConnId)
    (f : ConnectAttempt → ConnectAttempt)
    (kept : ∀ attempt i, attempts[conn]? = some attempt → (f attempt).owner = .acquire i →
      (f attempt).stage.pending = true → attempt.owner = .acquire i ∧
        attempt.stage.pending = true) :
    Bound (attempts.modify conn f) acquires := by
  intro conn' attempt i there owner pending
  obtain ⟨rfl, before, found, rfl⟩ | ⟨-, found⟩ := Heap.of_modify there
  · obtain ⟨owned, open'⟩ := kept before i found owner pending
    exact bound conn' before i found owned open'
  · exact bound conn' attempt i found owner pending

/-- An attempt is begun that no acquire owns. -/
theorem Bound.append (bound : Bound attempts acquires) (none : ∀ i, attempt.owner ≠ .acquire i) :
    Bound (attempts ++ [attempt]) acquires := by
  intro conn other i there owner pending
  obtain old | ⟨-, rfl⟩ := Heap.of_append there
  · exact bound conn other i old owner pending
  · exact absurd owner (none i)

theorem Bound.begin (bound : Bound attempts acquires) (free : Free attempts acquires i call) :
    Bound (attempts ++ [⟨.acquire i, .connecting⟩])
      (acquires.modify i fun call => { call with stage := .connecting attempts.length }) := by
  intro conn other j there owner pending
  obtain old | ⟨rfl, rfl⟩ := Heap.of_append there
  · exact bound.free free _ conn other j old owner pending
  · cases owner
    exact ⟨_, Heap.modify_self free.found, .inl rfl⟩

theorem Bound.rejects (bound : Bound attempts acquires) (waiting : List AcquireId) (error : Thrown)
    (queued : ∀ i ∈ waiting, ∀ call, acquires[i]? = some call → ∀ conn, ¬call.Awaits conn) :
    Bound attempts (waiting.foldl (fun acquires i =>
      acquires.modify i fun call => { call with stage := .rejected error }) acquires) := by
  induction waiting generalizing acquires with
  | nil => exact bound
  | cons i waiting ih =>
    rw [List.forall_mem_cons] at queued
    rw [List.foldl_cons]
    apply ih
    · cases found : acquires[i]? with
      | none =>
        rw [List.modify_eq_self (List.getElem?_eq_none_iff.1 found)]
        exact bound
      | some call => exact bound.idle found (queued.1 call found) _
    · intro j mem call found conn
      obtain ⟨-, before, -, rfl⟩ | ⟨-, old⟩ := Heap.of_modify found
      · unfold PoolAcquire.Awaits
        simp
      · exact queued.2 j mem call old conn

end Bound

theorem awaits_queued (queued : call.stage = .queued) (conn : ConnId) : ¬call.Awaits conn := by
  unfold PoolAcquire.Awaits
  rw [queued]
  simp

theorem awaits_checking {checked : ConnId} (stands : call.stage = .checking checked)
    (conn : ConnId) :
    ¬call.Awaits conn := by
  unfold PoolAcquire.Awaits
  rw [stands]
  simp

theorem bound_act (act : Act late stray m m' effects)
    (bound : Bound m.pool.attempts m.pool.acquires) :
    Bound m'.pool.attempts m'.pool.acquires := by
  cases act with
  | arrive s hand owed call stands => exact bound.arrive call
  | abandon s hand owed i call conn found stands =>
    refine bound.modify found _ fun conn' attempt there owner pending awaits => ?_
    unfold PoolAcquire.Awaits at awaits ⊢
    rw [stands] at awaits
    simpa using awaits
  | awaitClose s hand owed i call free => exact bound.free free _
  | checkIdle s owed i call conn lastUsedAt rest first free => exact bound.free free _
  | healthy s owed i call conn found stands => exact bound.idle found (awaits_checking stands) _
  | unhealthy s owed i call conn found stands => exact bound.idle found (awaits_checking stands) _
  | fulfil s owed i call conn free allowed => exact bound.free free _
  | handoff s taken owed i conn took free =>
    obtain ⟨call, found, queued⟩ := takeNext_queued took
    obtain ⟨attempts, acquires⟩ := takeNext_lists took
    dsimp only at bound ⊢
    rw [← attempts, ← acquires] at bound
    rw [← acquires] at found
    exact bound.idle found (awaits_queued queued) _
  | exhaust s taken hand owed took =>
    obtain ⟨attempts, acquires⟩ := takeNext_lists took
    dsimp only at bound ⊢
    rwa [attempts, acquires]
  | reject s hand owed i call error free => exact bound.free free _
  | rejectPending s hand owed i call error found stands =>
    have rejected := bound.idle found (awaits_queued stands) fun call =>
      { call with stage := .rejected error }
    unfold rejectPendingAcquire compactPending
    dsimp only
    split_ifs
    · exact bound
    · exact rejected
    · exact rejected
    · exact rejected
  | dismiss s taken hand owed i error took =>
    obtain ⟨call, found, queued⟩ := takeNext_queued took
    obtain ⟨attempts, acquires⟩ := takeNext_lists took
    dsimp only at bound ⊢
    rw [← attempts, ← acquires] at bound
    rw [← acquires] at found
    exact bound.idle found (awaits_queued queued) _
  | enqueue s hand owed i call free => exact bound.free free _
  | begin s begun hand owed i call free begins =>
    unfold beginConnectAttempt at begins
    split_ifs at begins
    cases begins
    exact bound.begin free
  | connects s hand owed conn attempt failure found stands =>
    refine bound.setAttempt conn _ fun before i there owner _ => ⟨owner, ?_⟩
    cases found.symm.trans there
    rw [stands]
    rfl
  | connected s owed conn attempt stage found stands taken =>
    refine bound.setAttempt conn _ fun before i there owner pending => ?_
    rcases taken with rfl | rfl <;> cases pending
  | disposed s hand owed conn attempt stage found stands taken =>
    refine bound.setAttempt conn _ fun before i there owner pending => ?_
    rcases taken with rfl | rfl <;> cases pending
  | leftToPool s hand owed conn =>
    exact bound.setAttempt conn _ fun before i there owner => nomatch owner
  | closing s hand owed conn attempt failure found stands owner =>
    exact bound.setAttempt conn _ fun before i there owner pending => nomatch pending
  | drains s begun hand owed begins =>
    unfold beginConnectAttempt at begins
    split_ifs at begins
    cases begins
    exact bound.append nofun
  | release s owed i call conn found stands used => exact bound.mark i _ fun _ => rfl
  | giveBack s hand owed i call conn found stands unused => exact bound.mark i _ fun _ => rfl
  | flag s hand owed i => exact bound.mark i _ fun _ => rfl
  | close s hand owed free =>
    intro conn attempt i there owner pending
    unfold close at there ⊢
    rw [free] at there ⊢
    change (s.attempts.map _)[conn]? = _ at there
    rw [List.getElem?_map] at there
    obtain ⟨before, found, rfl⟩ := Option.map_eq_some_iff.1 there
    by_cases warming : before.owner = .warmUp ∧ before.stage = .connecting
    · rw [if_pos warming] at owner
      cases owner
    · rw [if_neg warming] at owner pending
      exact bound conn before i found owner pending
  | sweep s hand owed due =>
    unfold sweep
    rw [if_pos due]
    exact bound.rejects _ _ fun i mem call found => awaits_queued (waiting_queued mem found)
  | _ => exact bound

/-! ## What is outstanding -/

/-- No attempt to connect and no health check is under way, and there is nothing left for the pool
to do. -/
structure Quiescent (s : RpcConnectionPool) : Prop where
  connects : ∀ attempt ∈ s.attempts, attempt.stage ≠ .connecting
  checks : ∀ call ∈ s.acquires, call.stage.checks = false
  rests : ∀ event : PoolEvent, event.continues = true → s.step event = (s, [])

section Quiescent

variable {attempt : ConnectAttempt}

theorem step_connectContinues (found : s.attempts[conn]? = some attempt) :
    s.step (.connectContinues conn) = s.connectContinues conn attempt := by
  unfold step atAttempt
  dsimp only
  rw [found]

/-- No established connection is left with its attempt. -/
theorem Quiescent.established (rest : s.Quiescent) (bound : Bound s.attempts s.acquires)
    (closed : s.closed = true) (found : s.attempts[conn]? = some attempt) :
    attempt.stage ≠ .settled none := by
  intro settled
  have shown := congrArg Prod.snd (rest.rests (.connectContinues conn) rfl)
  rw [step_connectContinues found] at shown
  unfold connectContinues at shown
  rw [settled] at shown
  dsimp only at shown
  cases owner : attempt.owner with
  | acquire i =>
    obtain ⟨call, there, stands | stands⟩ := bound conn attempt i found owner (by rw [settled]; rfl)
    · rw [owner] at shown
      dsimp only at shown
      rw [there] at shown
      dsimp only at shown
      rw [if_pos stands] at shown
      unfold continueAcquire at shown
      dsimp only at shown
      rw [if_pos (show (s.setAttempt conn _).closed = true from closed)] at shown
      cases shown
    · have shown := congrArg Prod.snd (rest.rests (.abandonedContinues i) rfl)
      unfold step atAcquire at shown
      dsimp only at shown
      rw [there] at shown
      dsimp only at shown
      unfold abandonedContinues at shown
      rw [stands] at shown
      cases shown
  | drain =>
    rw [owner] at shown
    unfold continueDrain at shown
    dsimp only at shown
    rw [if_pos (show (s.setAttempt conn _).closed = true from closed)] at shown
    cases shown
  | warmUp =>
    rw [owner] at shown
    unfold continueWarmUp at shown
    dsimp only at shown
    rw [if_pos (show (s.setAttempt conn _).closed = true from closed)] at shown
    cases shown
  | late =>
    rw [owner] at shown
    unfold continueLate at shown
    dsimp only at shown
    rw [if_pos (show (s.setAttempt conn _).closed = true from closed)] at shown
    cases shown
  | closing =>
    rw [owner] at shown
    cases shown

/-- An attempt that is changed is not as it was. -/
theorem setAttempt_ne (found : s.attempts[conn]? = some attempt)
    (f : ConnectAttempt → ConnectAttempt) (changed : (f attempt).stage ≠ attempt.stage) :
    s.setAttempt conn f ≠ s := by
  intro same
  have after : (s.setAttempt conn f).attempts[conn]? = some (f attempt) := Heap.modify_self found
  rw [same, found] at after
  exact changed (congrArg ConnectAttempt.stage (Option.some.inj after.symm))

theorem Quiescent.warmupComplete (rest : s.Quiescent) (bound : Bound s.attempts s.acquires)
    (closed : s.closed = true) :
    s.warmupComplete = true := by
  unfold RpcConnectionPool.warmupComplete
  rw [List.all_eq_true]
  intro attempt mem
  obtain ⟨conn, found⟩ := List.mem_iff_getElem?.1 mem
  rw [Bool.or_eq_true, decide_eq_true_iff, decide_eq_true_iff]
  by_cases owner : attempt.owner = .warmUp
  · refine .inr ?_
    cases stands : attempt.stage with
    | connecting => exact absurd stands (rest.connects attempt mem)
    | settled failure =>
      cases failure with
      | none => exact absurd stands (rest.established bound closed found)
      | some error =>
        have same := congrArg Prod.fst (rest.rests (.connectContinues conn) rfl)
        rw [step_connectContinues found] at same
        unfold connectContinues at same
        rw [stands] at same
        dsimp only at same
        rw [owner] at same
        exact absurd same (setAttempt_ne found _ (by rw [stands]; simp))
    | warmedUp =>
      have same := congrArg Prod.fst (rest.rests (.warmUpEnds conn) rfl)
      unfold step atAttempt at same
      dsimp only at same
      rw [found] at same
      dsimp only at same
      unfold warmUpEnds at same
      rw [stands] at same
      unfold schedulePendingCreateDrain at same
      dsimp only at same
      rw [if_neg (fun due => absurd (closed.symm.trans due.2.1) Bool.noConfusion)] at same
      exact absurd same (setAttempt_ne found _ (by rw [stands]; simp))
    | taken => rfl
  · exact .inl owner

theorem Quiescent.swept (rest : s.Quiescent) (bound : Bound s.attempts s.acquires)
    (closed : s.closed = true) :
    s.swept = true := by
  by_contra unswept
  have due : (s.closed && !s.swept && s.warmupComplete) = true := by
    rw [closed, Bool.eq_false_iff.2 unswept, rest.warmupComplete bound closed]
    rfl
  have same : s.sweep = (s, []) := rest.rests .sweep rfl
  have done := congrArg (fun result => result.1.swept) same
  unfold sweep at done
  rw [if_pos due] at done
  exact unswept done.symm

end Quiescent

/-! ## Counting one connection -/

/-- The weight that counts one connection. -/
def only (counted conn : ConnId) : ℤ := if conn = counted then 1 else 0

theorem only_nonneg (counted conn : ConnId) : 0 ≤ only counted conn := by
  unfold only
  split_ifs <;> decide

theorem disposed_only (conn : ConnId) (past : List PoolEffect) :
    disposed (only conn) past = past.count (.connectionClosed conn) := by
  have each (effect : PoolEffect) :
      effect.disposes (only conn) = if (effect == .connectionClosed conn) = true then 1 else 0 := by
    cases effect <;> simp [PoolEffect.disposes, only]
  unfold disposed
  rw [funext each]
  exact Heap.sum_countP _ past

theorem spent_only (conn : ConnId) (past : List PoolEffect) :
    spent (only conn) past = past.count (.connectionClosed conn) + past.count (.failed conn) := by
  induction past with
  | nil => rfl
  | cons effect past ih =>
    have first : spent (only conn) (effect :: past) = effect.weight (only conn) +
        spent (only conn) past :=
      List.sum_cons
    rw [first, ih, List.count_cons, List.count_cons]
    cases effect <;> simp [PoolEffect.weight, only] <;> split_ifs <;> omega

/-- The acquirer holds the connection. -/
def Holds (s : RpcConnectionPool) (i : AcquireId) (conn : ConnId) : Prop :=
  ∃ call, s.acquires[i]? = some call ∧ call.stage = .fulfilled conn ∧ call.released = false

theorem keeps_only (conn : ConnId) (acquires : List PoolAcquire) :
    (acquires.map (·.keeps (only conn))).sum =
      acquires.countP fun call => call.stage = .fulfilled conn && !call.released := by
  have each (call : PoolAcquire) : call.keeps (only conn) =
      if (decide (call.stage = .fulfilled conn) && !call.released) = true then 1 else 0 := by
    unfold PoolAcquire.keeps only
    cases call.stage <;> cases call.released <;> simp
  rw [funext each]
  exact Heap.sum_countP _ acquires

theorem attempts_only (conn : ConnId) (attempts : List ConnectAttempt) :
    Heap.weigh (fun conn' attempt => if attempt.holds then 0 else -only conn conn') attempts =
      (attempts[conn]?.map fun attempt => if attempt.holds then 0 else -1).getD 0 := by
  rw [Heap.weigh_single (i := conn)]
  · simp [only]
  · intro other attempt apart
    simp [only, apart]

/-! ## Runs -/

/-- The effects so far, and a state at the end of a step. -/
structure Accounted (past : List PoolEffect) (s : RpcConnectionPool) : Prop where
  close : AroundClose past s
  bound : Bound s.attempts s.acquires
  balance : ∀ conn, weight (only conn) s + spent (only conn) past = 0
  held : ∀ conn, 0 ≤ surplus (only conn) s + disposed (only conn) past

/-- The step neither goes on with a connection after the close, nor releases one that another
acquirer holds. -/
def keepsOwners (s : RpcConnectionPool) (event : PoolEvent) : Bool :=
  !s.takesLate event && !s.releasesAgain event

theorem accounted_step {event : PoolEvent} (keeps : s.keepsOwners event = true)
    (holds : Accounted past s) :
    Accounted (past ++ (s.step event).2) (s.step event).1 := by
  have acts := acts_step s event
  obtain ⟨timely, once⟩ : s.takesLate event = false ∧ s.releasesAgain event = false := by
    unfold keepsOwners at keeps
    simpa using keeps
  rw [timely, once] at acts
  refine ⟨?_, ?_, fun conn => ?_, fun conn => ?_⟩
  · apply acts.history (P := fun past m => AroundClose past m.pool)
    · exact holds.close
    · exact fun past m m' effects act => aroundClose_act act Bool.false_ne_true
  · exact acts.invariant (P := fun m => Bound m.pool.attempts m.pool.acquires)
      (fun _ _ _ => bound_act) holds.bound
  · have kept : weight (only conn) (s.step event).1 + atHand (only conn) none +
        spent (only conn) (past ++ (s.step event).2) = 0 := by
      apply acts.history (P := fun past m =>
        weight (only conn) m.pool + atHand (only conn) m.hand + spent (only conn) past = 0)
      · have start := holds.balance conn
        change weight (only conn) s + 0 + _ = _
        omega
      · intro past m m' effects act balance
        have kept := weight_act (w := only conn) act
        rw [spent_append]
        omega
    change _ + 0 + _ = _ at kept
    omega
  · apply acts.history (P := fun past m =>
      0 ≤ surplus (only conn) m.pool + disposed (only conn) past)
    · exact holds.held conn
    · intro past m m' effects act balance
      have kept := surplus_act act (only_nonneg conn) Bool.false_ne_true
      rw [disposed_append]
      omega

theorem accounted_initial (options : RpcConnectionPoolOptions) :
    Accounted [] (initial options) := by
  unfold initial
  apply warmUp_invariant
  · intro s holds
    refine ⟨⟨holds.close.closes, holds.close.fulfils, holds.close.swept⟩, holds.bound.append nofun,
      fun conn => ?_, holds.held⟩
    have added : Heap.weigh (fun other attempt => if attempt.holds then 0 else -only conn other)
        (s.attempts ++ [⟨.warmUp, .connecting⟩]) =
        Heap.weigh (fun other attempt => if attempt.holds then 0 else -only conn other)
        s.attempts := by
      rw [Heap.weigh_append]
      exact Int.add_zero _
    have balance := holds.balance conn
    unfold weight at balance ⊢
    dsimp only
    rw [added]
    exact balance
  · refine ⟨⟨nofun, Machine.follows_nil, nofun⟩, ?_, fun conn => rfl, fun conn => Int.le_refl _⟩
    intro conn attempt i found
    cases (List.getElem?_nil (i := conn)).symm.trans found

/-- Who has the connections of the pool, and what becomes of them. -/
structure Owned (past : List PoolEffect) (s : RpcConnectionPool) : Prop where
  holder : ∀ conn i j, s.Holds i conn → s.Holds j conn → i = j
  parked : ∀ conn i, s.Holds i conn → ∀ entry ∈ s.idle, entry.1 ≠ conn
  late : ∀ before after, past = before ++ .closed :: after → ∀ i conn, .fulfilled i conn ∉ after
  once : ∀ conn, past.count (.connectionClosed conn) ≤ 1
  gone : s.closed = true → s.Quiescent → ∀ conn < s.attempts.length, .failed conn ∉ past →
    past.count (.connectionClosed conn) = 1

/-- The places of one connection. -/
theorem Accounted.places (holds : Accounted past s) (conn : ConnId) :
    (s.idle.map fun entry => only conn entry.1).sum + (s.active.map (only conn)).sum +
      (s.acquires.map (·.weight (only conn))).sum + past.count (.connectionClosed conn) +
        past.count (.failed conn) =
      -(s.attempts[conn]?.map fun attempt => if attempt.holds then (0 : ℤ) else -1).getD 0 := by
  have balance := holds.balance conn
  rw [spent_only] at balance
  unfold weight at balance
  rw [attempts_only] at balance
  omega

theorem sum_only_nonneg (conn : ConnId) (l : List ℤ)
    (each : ∀ weight ∈ l, ∃ other, weight = only conn other) :
    0 ≤ l.sum := by
  refine List.sum_nonneg fun weight mem => ?_
  obtain ⟨other, rfl⟩ := each weight mem
  exact only_nonneg conn other

theorem idle_nonneg (conn : ConnId) (idle : List (ConnId × ℕ)) :
    0 ≤ (idle.map fun entry => only conn entry.1).sum := by
  refine sum_only_nonneg conn _ fun weight mem => ?_
  obtain ⟨entry, -, rfl⟩ := List.mem_map.1 mem
  exact ⟨entry.1, rfl⟩

theorem active_nonneg (conn : ConnId) (active : List ConnId) :
    0 ≤ (active.map (only conn)).sum := by
  refine sum_only_nonneg conn _ fun weight mem => ?_
  obtain ⟨other, -, rfl⟩ := List.mem_map.1 mem
  exact ⟨other, rfl⟩

theorem checks_nonneg (conn : ConnId) (acquires : List PoolAcquire) :
    0 ≤ (acquires.map (·.weight (only conn))).sum := by
  refine List.sum_nonneg fun weight mem => ?_
  obtain ⟨call, -, rfl⟩ := List.mem_map.1 mem
  unfold PoolAcquire.weight
  split
  · exact only_nonneg conn _
  · exact Int.le_refl _

theorem attempt_le_one (conn : ConnId) (attempts : List ConnectAttempt) :
    -(attempts[conn]?.map fun attempt => if attempt.holds then (0 : ℤ) else -1).getD 0 ≤ 1 := by
  cases attempts[conn]? with
  | none => decide
  | some attempt =>
    rw [Option.map_some, Option.getD_some]
    split_ifs <;> decide

/-- The acquirers of a connection are at most as many as the places it can be given from. -/
theorem Accounted.holders (holds : Accounted past s) (conn : ConnId) :
    ((s.acquires.countP fun call => call.stage = .fulfilled conn && !call.released : ℕ) : ℤ) ≤
      (s.active.map (only conn)).sum + past.count (.connectionClosed conn) := by
  have held := holds.held conn
  rw [disposed_only] at held
  unfold surplus at held
  rw [keeps_only] at held
  omega

theorem holds_counted (conn : ConnId) (holder : s.Holds i conn) :
    0 < s.acquires.countP fun call => call.stage = .fulfilled conn && !call.released := by
  obtain ⟨call, found, stands, kept⟩ := holder
  exact List.countP_pos_iff.2 ⟨call, List.mem_of_getElem? found, by simp [stands, kept]⟩

theorem owned_of_accounted (holds : Accounted past s) : Owned past s := by
  refine ⟨fun conn i j first second => ?_, fun conn i holder entry mem same => ?_,
    fun before after split i conn mem => ?_, fun conn =>
      ?_, fun closed rest conn there failed => ?_⟩
  · have places := holds.places conn
    have few := holds.holders conn
    have idle := idle_nonneg conn s.idle
    have checks := checks_nonneg conn s.acquires
    have most := attempt_le_one conn s.attempts
    obtain ⟨call, found, stands, kept⟩ := first
    obtain ⟨other, found', stands', kept'⟩ := second
    refine Heap.place_unique (p := fun call => call.stage = .fulfilled conn && !call.released) ?_
      found found' ?_ ?_
    · omega
    · simp [stands, kept]
    · simp [stands', kept']
  · have places := holds.places conn
    have few := holds.holders conn
    have held := holds_counted conn holder
    have checks := checks_nonneg conn s.acquires
    have most := attempt_le_one conn s.attempts
    have rest := idle_nonneg conn (s.idle.erase entry)
    have idle : (s.idle.map fun entry => only conn entry.1).sum =
        only conn entry.1 + ((s.idle.erase entry).map fun entry => only conn entry.1).sum :=
      ((List.perm_cons_erase mem).map fun entry => only conn entry.1).sum_eq
    have one : only conn entry.1 = 1 := by
      unfold only
      rw [if_pos same]
    omega
  · obtain ⟨first, last, rfl⟩ := List.append_of_mem mem
    have open' := holds.close.fulfils (before ++ .closed :: first)
      (.fulfilled i conn) last (by simp [split]) i conn rfl
    exact open' (by simp)
  · have places := holds.places conn
    have idle := idle_nonneg conn s.idle
    have active := active_nonneg conn s.active
    have checks := checks_nonneg conn s.acquires
    have most := attempt_le_one conn s.attempts
    omega
  · have places := holds.places conn
    obtain ⟨-, idle, active⟩ := holds.close.swept (rest.swept holds.bound closed)
    have unchecked : (s.acquires.map (·.weight (only conn))).sum = 0 := by
      refine List.sum_eq_zero fun weight mem => ?_
      obtain ⟨call, inside, rfl⟩ := List.mem_map.1 mem
      have none := rest.checks call inside
      unfold PoolAcquire.weight
      split
      · next stands =>
        rw [stands] at none
        cases none
      · rfl
    have found := List.getElem?_eq_getElem there
    have left : s.attempts[conn].holds = false := by
      have connects := rest.connects _ (List.getElem_mem there)
      have taken := rest.established holds.bound closed found
      unfold ConnectAttempt.holds
      split
      · next stands => exact absurd stands connects
      · next stands => exact absurd stands taken
      · rfl
      · rfl
      · rfl
    have never : past.count (.failed conn) = 0 := List.count_eq_zero.2 failed
    rw [found, Option.map_some, Option.getD_some, left, idle, active, unchecked, never] at places
    simp only [List.map_nil, List.sum_nil] at places
    change _ = -(-1 : ℤ) at places
    omega

/-- A connection has at most one owner and is closed once, as long as no acquire goes on with one
after the close and no acquirer releases one that another holds. -/
theorem connections_owned (options : RpcConnectionPoolOptions) (events : List PoolEvent)
    (keeps : Machine.Always step (fun s event => s.keepsOwners event = true)
      (initial options) events) :
    Owned (Machine.shown step (initial options) events)
    (Machine.final step (initial options) events) := by
  apply owned_of_accounted
  apply keeps.history (P := fun past s => Accounted past s)
  · exact fun past s event keeps holds => accounted_step keeps holds
  · exact accounted_initial options

/-- The pool closes while it connects. -/
def closedConnectRun : List PoolEvent :=
  [.acquire none none, .close, .sweep, .connectSettles 0 none, .connectContinues 0, .closeSettles 0]

theorem connections_owned_closed :
    Owned (Machine.shown step (initial checkedPool) closedConnectRun)
      (Machine.final step (initial checkedPool) closedConnectRun) := by
  refine connections_owned checkedPool closedConnectRun ?_
  decide

/-- The pool closes while its idle connection is under a health check, which succeeds. -/
def closedCheckRun : List PoolEvent :=
  [.acquire none none, .connectSettles 0 none, .connectContinues 0, .release 0, .acquire none none,
    .close, .sweep, .healthCheckSettles 1 true]

theorem connections_not_owned :
    ¬Owned (Machine.shown step (initial checkedPool) closedCheckRun)
      (Machine.final step (initial checkedPool) closedCheckRun) := by
  intro owned
  have shown : Machine.shown step (initial checkedPool) closedCheckRun =
      [.fulfilled 0 0] ++ .closed :: [.fulfilled 1 0] := by
    decide
  exact owned.late _ _ shown 1 0 List.mem_cons_self

end RpcConnectionPool

end CapnpDeno
