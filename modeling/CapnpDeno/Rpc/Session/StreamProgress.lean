import CapnpDeno.Rpc.Session.StreamWindow

/-!
# Waiting for capacity

When the sender stands still although the calls that have their bytes are over, the oldest call of
the window waits for its bytes: its reservation is in the drain, or before it, and the drain waits
for that very call.
-/

namespace CapnpDeno

/-- The operation waits, and is no flush, cancel or `prepare`. -/
def StreamOp.awaits (o : StreamOp) : Bool :=
  match o.kind with
  | .send _ | .waitForCapacity _ | .reserveBytes _ _ => o.stage.place != .settled
  | .flush | .cancel | .prepare _ => false

/-- The operation reserves the bytes of the call. -/
def StreamOp.reserves (o : StreamOp) (call : CallIndex) : Bool :=
  match o.kind with
  | .reserveBytes reserved _ => reserved = call && o.stage.place != .settled
  | .send _ | .waitForCapacity _ | .flush | .cancel | .prepare _ => false

/-- The operation waits to encode the call. -/
def StreamOp.prepares (o : StreamOp) (call : CallIndex) : Bool :=
  match o.kind with
  | .prepare prepared => prepared = call && o.stage.place != .settled
  | .send _ | .waitForCapacity _ | .flush | .cancel | .reserveBytes _ _ => false

namespace StreamSender

variable {ρ : Type} {s s' t : StreamSender ρ} {op other : StreamOpId} {o : StreamOp}
  {call oldest : CallIndex} {c : InFlightCall ρ} {stage : StreamStage}

/-- A reservation waits in the drain, or for the drain lock, and its call is the oldest of the
window. -/
def waitsForItself (s : StreamSender ρ) : Bool :=
  s.ops.any fun o => s.inFlightCalls.head?.any fun oldest =>
    o.reserves oldest && (o.stage.place = .locked || o.stage.place = .draining)

/-- No step is left but those of the owner of the sender, and a call that has its bytes is over: no
`callFn` and no callback is under way, and every call without its bytes waits for them, or for its
turn to encode. -/
structure Still (s : StreamSender ρ) : Prop where
  stack : s.callStack = []
  callbacks : ∀ o ∈ s.ops, ∀ call, o.stage ≠ .delivering call
  lockStarts : s.step .lockStarts = (s, [])
  handOver : s.step .handOver = (s, [])
  resume : ∀ op, s.step (.resume op) = (s, [])
  reserved : ∀ c ∈ s.calls, c.bytesReserved = true → c.settled ≠ none
  reserves : ∀ call ∈ s.inFlightCalls, s.outcome call = none →
    ∃ o ∈ s.ops, o.reserves call = true ∨ o.prepares call = true

/-! ## What a step changes -/

theorem comes_goTo (found : s.ops[op]? = some o) (stage : StreamStage) :
    (s.goTo op stage).placeAt op = some stage.place := by
  rw [placeAt_goTo found, if_pos rfl]

theorem comes_endReservation (found : s.ops[op]? = some o) (call : CallIndex)
    (failure : Option Thrown) :
    (s.endReservation op call failure).1.placeAt op = some .settled := by
  obtain ⟨o', there, -⟩ := releaseEncoding_op call found
  exact comes_goTo there (.settled failure)

theorem comes_reserveLoop (found : s.ops[op]? = some o) (call : CallIndex) (byteLength : ℤ) :
    (s.reserveLoop op call byteLength).1.placeAt op = some .locked ∨
      (s.reserveLoop op call byteLength).1.placeAt op = some .settled := by
  unfold reserveLoop
  split_ifs
  · exact .inl (comes_goTo found .locked)
  · split
    · exact .inr (comes_endReservation found call _)
    · have granted : (s.grant call byteLength).ops[op]? = some o := found
      exact .inr (comes_endReservation granted call none)

theorem rememberError_ready (s : StreamSender ρ) (error : Thrown) :
    (s.rememberError error).readyResponses = s.readyResponses := by
  unfold rememberError
  split
  · rfl
  · rw [notify_only]

/-- A delivery takes one outcome, or ends. -/
theorem comes_deliverReady (found : s.ops[op]? = some o) :
    (s.deliverReadyResponses op).1.placeAt op = some .loose ∧
      (s.deliverReadyResponses op).1.readyResponses = s.readyResponses.tail ∧
        (s.readyResponses = [] → (s.deliverReadyResponses op).1.stageAt op = some .returned) := by
  unfold deliverReadyResponses
  cases ready : s.readyResponses with
  | nil =>
    refine ⟨comes_goTo found .returned, ready, fun _ => ?_⟩
    rw [stageAt_goTo found, if_pos rfl]
  | cons call rest =>
    have found' : ({ s with readyResponses := rest } : StreamSender ρ).ops[op]? = some o := found
    dsimp only [List.tail]
    unfold deliverSettled
    refine ⟨?_, ?_, nofun⟩
    · split
      · exact comes_goTo found' (.delivered none)
      · split_ifs
        · exact comes_goTo found' (.delivering call)
        · exact comes_goTo found' (.delivered none)
      · next error _ =>
        split_ifs
        · exact comes_goTo found' (.delivering call)
        · obtain ⟨o', there, -⟩ := rememberError_op error found'
          exact comes_goTo there (.delivered (some error))
    · split
      · rfl
      · split_ifs <;> rfl
      · split_ifs
        · rfl
        · exact rememberError_ready _ _

theorem comes_sendLoop (found : s.ops[op]? = some o) (params : StreamParams) :
    (s.sendLoop op params).1.placeAt op = some .locked ∨ (s.sendLoop op params).1.placeAt op =
      some .calling := by
  unfold sendLoop
  split_ifs
  · exact .inl (comes_goTo found .locked)
  · right
    unfold placeAt
    rw [stageAt_push found, if_pos rfl]
    rfl

theorem comes_waitLoop (found : s.ops[op]? = some o) (byteLength : ℤ) :
    (s.waitLoop op byteLength).1.placeAt op = some .locked ∨
      (s.waitLoop op byteLength).1.placeAt op = some .settled := by
  unfold waitLoop
  split_ifs
  · exact .inl (comes_goTo found .locked)
  · exact .inr (comes_goTo found _)

/-- It goes to the drain, or ends, or delivers what is ready. -/
theorem comes_flushLoop (found : s.ops[op]? = some o) (other : StreamOp) :
    (s.flushLoop op other).1.placeAt op = some .locked ∨ (s.flushLoop op other).1.placeAt op =
      some .settled ∨
      (s.flushLoop op other).1.placeAt op = some .loose ∧ s.readyResponses ≠ [] ∧
        (s.flushLoop op other).1.readyResponses = s.readyResponses.tail := by
  unfold flushLoop
  split_ifs with ready window
  · obtain ⟨place, rest, -⟩ := comes_deliverReady found
    exact .inr (.inr ⟨place, ready, rest⟩)
  · exact .inl (comes_goTo found .locked)
  all_goals exact .inr (.inl (comes_goTo found _))

theorem comes_fails (found : s.ops[op]? = some o) (error : Thrown) :
    (s.fails op o error).1.placeAt op = some .locked ∨ (s.fails op o error).1.placeAt op =
      some .settled ∨
      (s.fails op o error).1.placeAt op = some .loose ∧ s.readyResponses ≠ [] ∧
        (s.fails op o error).1.readyResponses = s.readyResponses.tail := by
  have noted (failed : StreamOp) : (s.setOp op fun _ => failed).ops[op]? = some failed :=
    Heap.modify_self found
  unfold fails
  split
  · exact comes_flushLoop (noted _) _
  · exact comes_flushLoop (noted _) _
  all_goals exact .inr (.inl (comes_goTo found _))

theorem tail_ne {ready : List CallIndex} (some' : ready ≠ []) : ready.tail ≠ ready := by
  intro same
  have shorter := congrArg List.length same
  rw [List.length_tail] at shorter
  have more := List.length_pos_of_ne_nil some'
  omega

/-! ## What is left to do -/

/-- An operation that delivers is not left where it is. -/
theorem deliverReady_changes (found : s.ops[op]? = some o) (stands : o.stage ≠ .returned) :
    s.deliverReadyResponses op ≠ (s, []) := by
  intro still
  obtain ⟨-, rest, ends⟩ := comes_deliverReady found
  rw [still] at rest ends
  by_cases ready : s.readyResponses = []
  · have returned := ends ready
    dsimp only at returned
    rw [stageAt_of found] at returned
    exact stands (Option.some.inj returned)
  · exact tail_ne ready rest.symm

theorem flush_changes {result : StreamSender ρ × List (StreamEffect ρ)}
    (place : s.placeAt op = some .loose)
    (comes : result.1.placeAt op = some .locked ∨ result.1.placeAt op = some .settled ∨
      result.1.placeAt op = some .loose ∧ s.readyResponses ≠ [] ∧
        result.1.readyResponses = s.readyResponses.tail) : result ≠ (s, []) := by
  rintro rfl
  obtain locked | settled | ⟨-, ready, rest⟩ := comes
  · cases place.symm.trans locked
  · cases place.symm.trans settled
  · exact tail_ne ready rest.symm

theorem place_changes {result : StreamSender ρ × List (StreamEffect ρ)} {place : StagePlace}
    (before : s.placeAt op = some place) {after : StagePlace}
    (comes : result.1.placeAt op = some after) (different : place ≠ after) : result ≠ (s, []) := by
  rintro rfl
  exact different (Option.some.inj (before.symm.trans comes))

theorem goOn_changes (allowed : o.kind.allows .returned = true) (found : s.ops[op]? = some o)
    (stands : o.stage = .returned) : s.goOn op o ≠ (s, []) := by
  have place : s.placeAt op = some .loose := by rw [placeAt_of found, stands]; rfl
  have settles failure : s.settleOp op failure ≠ (s, []) :=
    place_changes place (comes_goTo found (.settled failure)) nofun
  unfold goOn
  cases kind : o.kind with
  | send params =>
    dsimp only
    split_ifs
    · exact settles none
    · split
      · exact settles _
      · obtain comes | comes := comes_sendLoop found params
        · exact place_changes place comes nofun
        · exact place_changes place comes nofun
  | waitForCapacity byteLength =>
    dsimp only
    split
    · exact settles _
    · obtain comes | comes := comes_waitLoop found byteLength
      · exact place_changes place comes nofun
      · exact place_changes place comes nofun
  | flush => exact flush_changes place (comes_flushLoop found o)
  | cancel => exact flush_changes place (comes_flushLoop found o)
  | prepare | reserveBytes =>
    rw [kind] at allowed
    cases allowed

/-- A call that an operation waits for has not released its ticket. -/
theorem prepared_changes (allowed : o.kind.allows .ticket = true) (found : s.ops[op]? = some o)
    (stands : o.stage = .ticket) (still : s.prepared op o = (s, [])) :
    ∃ call, (o.kind = .prepare call ∨ ∃ byteLength, o.kind = .reserveBytes call byteLength) ∧
      s.previousEncoding call = false := by
  have place : s.placeAt op = some .loose := by rw [placeAt_of found, stands]; rfl
  unfold prepared at still
  split at still
  · next call kind =>
    split_ifs at still with waits
    · exact ⟨call, .inl kind, by simpa using waits⟩
    · split at still
      · exact absurd still (place_changes place (comes_goTo found (.settled _)) nofun)
      · have owned : (s.setCall call fun c => { c with ownsEncoding := true }).ops[op]? = some o :=
          found
        exact absurd still (place_changes place (comes_goTo owned (.settled none)) nofun)
  · next call byteLength kind =>
    split_ifs at still with waits
    · exact ⟨call, .inr ⟨byteLength, kind⟩, by simpa using waits⟩
    · split at still
      · exact absurd still (place_changes place (comes_endReservation found call _) nofun)
      · have owned : (s.setCall call fun c => { c with ownsEncoding := true }).ops[op]? = some o :=
          found
        have stage := stageAt_goTo owned .encoding op
        rw [if_pos rfl, (Prod.mk.inj still).1, stageAt_of found, stands] at stage
        cases stage
  all_goals
    next kind =>
      rw [kind] at allowed
      cases allowed

/-- The operation goes on, unless it waits for its callback, for its admission or for a ticket. -/
theorem resume_changes (allowed : Allowed s) (found : s.ops[op]? = some o)
    (still : s.resume op o = (s, [])) :
    o.stage.place ≠ .loose ∨ (∃ call, o.stage = .delivering call) ∨
      (∃ call, o.stage = .admission call ∧ ∀ c, s.calls[call]? = some c → c.admission = .pending) ∨
        ∃ call, (o.kind = .prepare call ∨ ∃ byteLength, o.kind = .reserveBytes call byteLength) ∧
          s.previousEncoding call = false := by
  have comes := allowed op o found
  unfold resume at still
  cases stands : o.stage with
  | ticket =>
    rw [stands] at still comes
    exact .inr (.inr (.inr (prepared_changes comes found stands still)))
  | encoding =>
    have place : s.placeAt op = some .loose := by rw [placeAt_of found, stands]; rfl
    rw [stands] at still comes
    dsimp only at still
    split at still
    · next call byteLength _ =>
      obtain comes | comes := comes_reserveLoop found call byteLength
      · exact absurd still (place_changes place comes nofun)
      · exact absurd still (place_changes place comes nofun)
    · next other =>
      cases kind : o.kind with
      | reserveBytes call byteLength => exact absurd kind (other call byteLength)
      | send | waitForCapacity | flush | cancel | prepare =>
        rw [kind] at comes
        cases comes
  | delivering call => exact .inr (.inl ⟨call, rfl⟩)
  | delivered failure =>
    have place : s.placeAt op = some .loose := by rw [placeAt_of found, stands]; rfl
    rw [stands] at still
    cases failure with
    | none => exact absurd still (deliverReady_changes found (by rw [stands]; nofun))
    | some error => exact absurd still (flush_changes place (comes_fails found error))
  | returned =>
    rw [stands] at still comes
    exact absurd still (goOn_changes comes found stands)
  | admission call =>
    have place : s.placeAt op = some .loose := by rw [placeAt_of found, stands]; rfl
    rw [stands] at still
    refine .inr (.inr (.inl ⟨call, rfl, fun c there => ?_⟩))
    dsimp only at still
    rw [there] at still
    dsimp only at still
    split at still
    · exact absurd still (deliverReady_changes found (by rw [stands]; nofun))
    · exact absurd still (place_changes place (comes_goTo found (.settled _)) nofun)
    · assumption
  | running | calling | locked | draining | drained | settled => exact .inl nofun

theorem takeSettledHead_changes (found : s.ops[op]? = some o) (oldest : CallIndex) :
    (s.takeSettledHead op o oldest).1.placeAt op = some .drained ∨
      (s.takeSettledHead op o oldest).1.stageAt op = some (.draining oldest .pending) := by
  unfold takeSettledHead
  split
  · exact .inl (comes_goTo (s := s.takeOldest oldest) found _)
  · split
    · exact .inl (comes_goTo found _)
    · split
      · exact .inl (comes_goTo found _)
      · right
        rw [stageAt_goTo found, if_pos rfl]

theorem draining_changes {wait : StateWait} (found : s.ops[op]? = some o)
    (stands : o.stage = .draining oldest wait) (still : s.resume op o = (s, [])) :
    wait = .pending := by
  have place : s.placeAt op = some .draining := by rw [placeAt_of found, stands]; rfl
  unfold resume at still
  rw [stands] at still
  cases wait with
  | pending => rfl
  | resolved =>
    obtain comes | comes := takeSettledHead_changes found oldest
    · exact absurd still (place_changes place comes nofun)
    · dsimp only at still
      rw [still, stageAt_of found, stands] at comes
      cases comes
  | rejected error =>
    exact absurd still (place_changes place (comes_goTo found (.drained (.error error))) nofun)

/-- The next operation gets the drain lock. -/
theorem lockStarts_changes (placed : Placed ⟨s, none⟩) (free : s.drainHolder = none)
    (still : s.lockStarts = (s, [])) :
    s.drainQueue = [] := by
  unfold lockStarts at still
  cases queue : s.drainQueue with
  | nil => rfl
  | cons op rest =>
    have place := (placed.locked op).1 (by dsimp only; rw [queue]; exact List.mem_cons_self)
    dsimp only at place
    obtain ⟨stage, stands, -⟩ := Option.map_eq_some_iff.1 place
    obtain ⟨o, found, -⟩ := op_of_stageAt stands
    rw [free, queue] at still
    dsimp only at still
    rw [found] at still
    dsimp only at still
    split at still
    · next oldest _ _ =>
      obtain comes | comes := takeSettledHead_changes (s := s.hold op rest) found oldest
      · exact absurd still (place_changes place comes nofun)
      · have drains : (takeSettledHead (s.hold op rest) op o oldest).1.placeAt op =
            some .draining := by
          unfold placeAt
          rw [comes]
          rfl
        exact absurd still (place_changes place drains nofun)
    · have comes : ((s.hold op rest).finishDrain op (.ok none)).placeAt op = some .drained :=
        comes_goTo (s := s.hold op rest) found (.drained (.ok none))
      have same : (s.hold op rest).finishDrain op (.ok none) = s := (Prod.mk.inj still).1
      rw [same] at comes
      cases place.symm.trans comes

theorem comes_goPastLock (found : s.ops[op]? = some o) (taken : Option CallIndex) :
    (s.goPastLock op o taken).1.placeAt op ≠ some .drained := by
  have found' : ({ s with readyResponses := s.readyResponses ++ taken.toList } : StreamSender
      ρ).ops[op]? = some o :=
    found
  unfold goPastLock
  dsimp only
  split
  · next call byteLength _ =>
    split
    · rw [comes_endReservation found' call]
      nofun
    · obtain comes | comes := comes_reserveLoop found' call byteLength <;> (rw [comes]; nofun)
  all_goals
    rw [(comes_deliverReady found').1]
    nofun

theorem comes_failPastLock (found : s.ops[op]? = some o) (error : Thrown) :
    (s.failPastLock op o error).1.placeAt op ≠ some .drained := by
  unfold failPastLock
  split
  · next call _ _ =>
    rw [comes_endReservation found call]
    nofun
  all_goals obtain comes | comes | ⟨comes, -⟩ := comes_fails found error <;> (rw [comes]; nofun)

/-- The first operation past the drain lock goes on. -/
theorem handOver_changes (placed : Placed ⟨s, none⟩) (still : s.handOver = (s, [])) :
    s.handing = [] := by
  unfold handOver at still
  cases handing : s.handing with
  | nil => rfl
  | cons op rest =>
    have place := ((placed.drained op).1 (by dsimp only; rw [handing]; exact List.mem_cons_self)).1
    dsimp only at place
    obtain ⟨stage, stands, drained⟩ := Option.map_eq_some_iff.1 place
    obtain ⟨o, found, rfl⟩ := op_of_stageAt stands
    rw [handing] at still
    dsimp only at still
    rw [found] at still
    dsimp only at still
    split at still
    · next taken _ =>
      have comes := comes_goPastLock (s := { s with handing := rest }) found taken
      rw [still] at comes
      exact absurd place comes
    · next error _ =>
      have comes := comes_failPastLock (s := { s with handing := rest }) found error
      rw [still] at comes
      exact absurd place comes
    · next taken error =>
      cases stage : o.stage with
      | drained result =>
        cases result with
        | ok value => exact absurd stage (taken value)
        | error cause => exact absurd stage (error cause)
      | running | calling | locked | draining | ticket | encoding | delivering | delivered
      | returned | admission
        | settled =>
        rw [stage] at drained
        cases drained

/-! ## Standing still -/

/-- A call whose ticket is not released waits for its bytes, in the window. -/
theorem previousEncoding_false (windowed : Windowed ⟨s, none⟩)
    (waits : s.previousEncoding call = false) :
    ∃ earlier < call, earlier ∈ s.inFlightCalls ∧ s.outcome earlier = none := by
  unfold previousEncoding at waits
  obtain ⟨c, member, ticket⟩ := List.all_eq_false.1 waits
  obtain ⟨earlier, inside, found⟩ := List.mem_iff_getElem.1 member
  have bounds : earlier < call ∧ earlier < s.calls.length := by
    rw [List.length_take] at inside
    omega
  have there : s.calls[earlier]? = some c := by
    rw [List.getElem_take] at found
    exact List.getElem?_eq_some_iff.2 ⟨bounds.2, found⟩
  have held : c.ticket = true := by simpa using ticket
  obtain ⟨window, unsettled, -⟩ := (windowed.call earlier c there).ticket held
  refine ⟨earlier, bounds.1, window, ?_⟩
  unfold outcome
  rw [there]
  exact unsettled

theorem Still.resume_eq (still : Still s) (found : s.ops[op]? = some o) :
    s.resume op o = (s, []) := by
  have resume := still.resume op
  rw [step, idly, if_pos still.stack, atOp, found] at resume
  exact resume

section Standing

variable (sound : Sound ⟨s, none⟩) (still : Still s)

include sound still

/-- The drain waits for the oldest call of the window. -/
theorem Still.draining {wait : StateWait} (found : s.ops[op]? = some o)
    (stands : o.stage = .draining oldest wait) :
    s.inFlightCalls.head? = some oldest ∧ s.outcome oldest = none := by
  have pending := draining_changes found stands (still.resume_eq found)
  obtain ⟨c, there, -, unsettled, head⟩ :=
    sound.waiting.draining op oldest wait (by rw [stageAt_of found, stands])
  refine ⟨head (unsettled pending), ?_⟩
  unfold outcome
  rw [there]
  exact unsettled pending

theorem Still.locked (found : s.ops[op]? = some o)
    (stands : o.stage.place = .locked ∨ o.stage.place = .draining) :
    ∃ oldest, s.inFlightCalls.head? = some oldest ∧ s.outcome oldest = none := by
  have place := placeAt_of found
  have holder : ∃ holder, s.drainHolder = some holder := by
    obtain stands | stands := stands <;> rw [stands] at place
    · cases free : s.drainHolder with
      | some holder => exact ⟨holder, rfl⟩
      | none =>
        have queued := (sound.placed.locked op).2 place
        have starts := still.lockStarts
        rw [step, idly, if_pos still.stack] at starts
        dsimp only at queued
        rw [lockStarts_changes sound.placed free starts] at queued
        cases queued
    · exact ⟨op, (sound.placed.draining op).2 place⟩
  obtain ⟨holder, holds⟩ := holder
  have drains := (sound.placed.draining holder).1 holds
  obtain ⟨stage, there, draining⟩ := Option.map_eq_some_iff.1 drains
  obtain ⟨o', found', rfl⟩ := op_of_stageAt there
  cases stage : o'.stage with
  | draining oldest wait => exact ⟨oldest, still.draining sound found' stage⟩
  | running | calling | locked | drained | ticket | encoding | delivering | delivered | returned
  | admission | settled =>
    rw [stage] at draining
    cases draining

/-- As long as an operation waits, a call of the window waits for its bytes. -/
theorem Still.waiting (found : s.ops[op]? = some o) (waits : o.stage.place ≠ .settled) :
    ∃ call ∈ s.inFlightCalls, s.outcome call = none := by
  have place := placeAt_of found
  have drain (stands : o.stage.place = .locked ∨ o.stage.place = .draining) :
      ∃ call ∈ s.inFlightCalls, s.outcome call = none := by
    obtain ⟨oldest, head, unsettled⟩ := still.locked sound found stands
    exact ⟨oldest, List.mem_of_mem_head? head, unsettled⟩
  cases stands : o.stage.place with
  | running =>
    rw [stands] at place
    cases sound.placed.running op place
  | calling =>
    rw [stands] at place
    have stacked := (sound.placed.calling op).2 ⟨place, nofun⟩
    dsimp only at stacked
    rw [still.stack] at stacked
    cases stacked
  | locked => exact drain (.inl stands)
  | draining => exact drain (.inr stands)
  | drained =>
    rw [stands] at place
    have handed := (sound.placed.drained op).2 ⟨place, nofun⟩
    have over' := still.handOver
    rw [step, idly, if_pos still.stack] at over'
    dsimp only at handed
    rw [handOver_changes sound.placed over'] at handed
    cases handed
  | settled => exact absurd stands waits
  | loose =>
    obtain other | ⟨call, delivers⟩ | ⟨call, admits, pending⟩ | ⟨call, -, encodes⟩ :=
      resume_changes sound.allowed found (still.resume_eq found)
    · exact absurd stands other
    · exact absurd delivers (still.callbacks o (List.mem_of_getElem? found) call)
    · obtain ⟨c, there, attached⟩ :=
        sound.waiting.admission op call (by rw [stageAt_of found, admits])
      have call' := sound.windowed.call call c there
      obtain ⟨unsettled, -⟩ := call'.admission (pending c there)
      refine ⟨call, call'.pending attached unsettled, ?_⟩
      unfold outcome
      rw [there]
      exact unsettled
    · obtain ⟨earlier, -, window, unsettled⟩ := previousEncoding_false sound.windowed encodes
      exact ⟨earlier, window, unsettled⟩

/-- The first call that waits for its bytes has its turn to encode. -/
theorem Still.encodes (found : s.ops[op]? = some o)
    (stands : o.stage = .ticket ∨ o.stage = .encoding)
    (kind : o.kind = .prepare call ∨ ∃ byteLength, o.kind = .reserveBytes call byteLength)
    (first : ∀ other ∈ s.inFlightCalls, s.outcome other = none → call ≤ other) : False := by
  obtain other | ⟨_, delivers⟩ | ⟨_, admits, -⟩ | ⟨call', waits, encodes⟩ :=
    resume_changes sound.allowed found (still.resume_eq found)
  · obtain stands | stands := stands <;> rw [stands] at other <;> exact other rfl
  · obtain stands | stands := stands <;> cases stands.symm.trans delivers
  · obtain stands | stands := stands <;> cases stands.symm.trans admits
  · have same : call' = call := by
      obtain kind | ⟨byteLength, kind⟩ := kind <;> rw [kind] at waits <;>
        obtain waits | ⟨byteLength', waits⟩ := waits <;> cases waits <;> rfl
    obtain ⟨earlier, before, window, unsettled⟩ := previousEncoding_false sound.windowed encodes
    rw [same] at before
    exact Nat.not_le.2 before (first earlier window unsettled)

/-- The reservation of the first call that waits for its bytes is in the drain, and the call is the
oldest one. -/
theorem Still.first (there : call ∈ s.inFlightCalls) (unsettled : s.outcome call = none)
    (first : ∀ other ∈ s.inFlightCalls, s.outcome other = none → call ≤ other) :
    s.waitsForItself = true := by
  obtain ⟨o, member, waits⟩ := still.reserves call there unsettled
  obtain ⟨op, inside, rfl⟩ := List.mem_iff_getElem.1 member
  have found : s.ops[op]? = some s.ops[op] := List.getElem?_eq_getElem inside
  have allowed := sound.allowed op _ found
  have running (stands : (s.ops[op]).stage = .running) : False := by
    cases sound.placed.running op (by rw [placeAt_of found, stands]; rfl)
  obtain reserves | prepares := waits
  · obtain ⟨byteLength, kind, pending⟩ : ∃ byteLength, (s.ops[op]).kind =
        .reserveBytes call byteLength ∧
        (s.ops[op]).stage.place ≠ .settled := by
      unfold StreamOp.reserves at reserves
      split at reserves
      · next reserved byteLength kind =>
        rw [Bool.and_eq_true, decide_eq_true_eq, bne_iff_ne] at reserves
        exact ⟨byteLength, reserves.1 ▸ kind, reserves.2⟩
      all_goals cases reserves
    have drains (stands : (s.ops[op]).stage.place = .locked ∨ (s.ops[op]).stage.place = .draining) :
        s.waitsForItself = true := by
      obtain ⟨oldest, head, unsettled'⟩ := still.locked sound found stands
      have earlier := first oldest (List.mem_of_mem_head? head) unsettled'
      have later : oldest ≤ call := by
        obtain ⟨rest, window⟩ := List.head?_eq_some_iff.1 head
        rw [window] at there
        obtain rfl | behind := List.mem_cons.1 there
        · exact le_refl _
        · have sorted := sound.windowed.sorted
          dsimp only at sorted
          rw [window] at sorted
          exact (List.rel_of_pairwise_cons sorted behind).le
      obtain rfl : oldest = call := le_antisymm later earlier
      unfold waitsForItself
      refine List.any_eq_true.2 ⟨s.ops[op], member, ?_⟩
      rw [head, Option.any_some, reserves, Bool.true_and, Bool.or_eq_true, decide_eq_true_eq,
        decide_eq_true_eq]
      exact stands
    cases stands : (s.ops[op]).stage with
    | locked => exact drains (.inl (by rw [stands]; rfl))
    | draining oldest wait => exact drains (.inr (by rw [stands]; rfl))
    | settled failure =>
      rw [stands] at pending
      exact absurd rfl pending
    | running => exact (running stands).elim
    | drained result =>
      have handed := (sound.placed.drained op).2 ⟨by rw [placeAt_of found, stands]; rfl, nofun⟩
      have over' := still.handOver
      rw [step, idly, if_pos still.stack] at over'
      dsimp only at handed
      rw [handOver_changes sound.placed over'] at handed
      cases handed
    | ticket => exact (still.encodes sound found (.inl stands) (.inr ⟨byteLength, kind⟩) first).elim
    | encoding =>
      exact (still.encodes sound found (.inr stands) (.inr ⟨byteLength, kind⟩) first).elim
    | calling | delivering | delivered | returned | admission =>
      rw [kind, stands] at allowed
      cases allowed
  · obtain ⟨kind, pending⟩ : (s.ops[op]).kind = .prepare call ∧ (s.ops[op]).stage.place ≠
        .settled := by
      unfold StreamOp.prepares at prepares
      split at prepares
      · next prepared kind =>
        rw [Bool.and_eq_true, decide_eq_true_eq, bne_iff_ne] at prepares
        exact ⟨prepares.1 ▸ kind, prepares.2⟩
      all_goals cases prepares
    cases stands : (s.ops[op]).stage with
    | ticket => exact (still.encodes sound found (.inl stands) (.inl kind) first).elim
    | running => exact (running stands).elim
    | settled failure =>
      rw [stands] at pending
      exact absurd rfl pending
    | locked | draining | drained | encoding | calling | delivering | delivered | returned
    | admission =>
      rw [kind, stands] at allowed
      cases allowed

end Standing

theorem awaits_pending (waits : o.awaits = true) : o.stage.place ≠ .settled := by
  unfold StreamOp.awaits at waits
  split at waits
  all_goals first | exact bne_iff_ne.1 waits | cases waits

theorem awaits_of_reserves (reserves : o.reserves call = true) : o.awaits = true := by
  unfold StreamOp.reserves at reserves
  unfold StreamOp.awaits
  split at reserves
  · next kind =>
    rw [kind]
    exact (Bool.and_eq_true_iff.1 reserves).2
  all_goals cases reserves

/-- A sender that stands still has an operation that waits just when the oldest call of its window
waits for itself. -/
theorem still_waits_iff (options : StreamSenderOptions) (events : List (StreamEvent ρ))
    (still : Still (Machine.final step (initial options) events)) :
    (∃ o ∈ (Machine.final step (initial options) events).ops, o.awaits = true) ↔
      (Machine.final step (initial options) events).waitsForItself = true := by
  have sound := sound_run options events
  constructor
  · rintro ⟨o, member, waits⟩
    obtain ⟨op, inside, found⟩ := List.mem_iff_getElem.1 member
    obtain ⟨call, there, unsettled⟩ :=
      still.waiting sound (List.getElem?_eq_some_iff.2 ⟨inside, found⟩) (awaits_pending waits)
    obtain ⟨first, ⟨there, unsettled⟩, least⟩ := wellFounded_lt.has_min
      {call | call ∈ (Machine.final step (initial options) events).inFlightCalls ∧
        (Machine.final step (initial options) events).outcome call = none} ⟨call, there, unsettled⟩
    exact still.first sound there unsettled fun other there unsettled =>
      Nat.le_of_not_lt (least other ⟨there, unsettled⟩)
  · intro waits
    unfold waitsForItself at waits
    obtain ⟨o, member, reserves⟩ := List.any_eq_true.1 waits
    obtain ⟨oldest, -, reserves⟩ := (Option.any_eq_true _ _).1 reserves
    exact ⟨o, member, awaits_of_reserves (Bool.and_eq_true_iff.1 reserves).1⟩

/-- An object is sent, then eight bytes, whose call settles; the object needs five of the ten
bytes. -/
def deadlockRun : List (StreamEvent ℕ) :=
  [.send .object, .callFnReturns, .send (.bytes 8), .callFnReturns, .resume 1, .resume 1,
    .callSettles 1 (.ok 5), .reserveBytes 0 5, .resume 2, .resume 2, .lockStarts]

theorem still_deadlock : Still (Machine.final step (initial boundedOptions) deadlockRun) where
  stack := rfl
  callbacks o member call := by
    have stages : ∀ o ∈ (Machine.final step (initial boundedOptions) deadlockRun).ops,
        o.stage ∈ [.admission 0, .settled none, .draining 0 .pending] := by decide
    have stage := stages o member
    rintro delivers
    rw [delivers] at stage
    simp at stage
  lockStarts := rfl
  handOver := rfl
  resume op := by
    match op with
    | 0 | 1 | 2 | _ + 3 => rfl
  reserved := by decide
  reserves := by decide

/-- The same, and another object is sent before the bytes, which waits for its turn to encode. -/
def encodingRun : List (StreamEvent ℕ) :=
  [.send .object, .callFnReturns, .send .object, .callFnReturns, .send (.bytes 8), .callFnReturns,
    .resume 2, .resume 2,
    .callSettles 2 (.ok 5), .prepare 1, .reserveBytes 0 5, .resume 4, .resume 4, .lockStarts]

theorem still_encoding : Still (Machine.final step (initial boundedOptions) encodingRun) where
  stack := rfl
  callbacks o member call := by
    have stages : ∀ o ∈ (Machine.final step (initial boundedOptions) encodingRun).ops,
        o.stage ∈ [.admission 0, .admission 1, .settled none, .ticket, .draining 0 .pending] := by
      decide
    have stage := stages o member
    rintro delivers
    rw [delivers] at stage
    simp at stage
  lockStarts := rfl
  handOver := rfl
  resume op := by
    match op with
    | 0 | 1 | 2 | 3 | 4 | _ + 5 => rfl
  reserved := by decide
  reserves := by decide

theorem still_waits_iff_deadlock :
    ((∃ o ∈ (Machine.final step (initial boundedOptions) deadlockRun).ops, o.awaits = true) ↔
      (Machine.final step (initial boundedOptions) deadlockRun).waitsForItself = true) ∧
    ((∃ o ∈ (Machine.final step (initial boundedOptions) encodingRun).ops, o.awaits = true) ↔
      (Machine.final step (initial boundedOptions) encodingRun).waitsForItself = true) :=
  ⟨still_waits_iff boundedOptions deadlockRun still_deadlock,
    still_waits_iff boundedOptions encodingRun still_encoding⟩

/-- The reservation of the object drains the oldest call, which is the object itself. -/
theorem stream_waits_for_itself :
    Still (Machine.final step (initial boundedOptions) deadlockRun) ∧
      (Machine.final step (initial boundedOptions) deadlockRun).checks = none ∧
      ∃ o ∈ (Machine.final step (initial boundedOptions) deadlockRun).ops, o.awaits = true :=
  ⟨still_deadlock, by decide, by decide⟩

end StreamSender

end CapnpDeno
