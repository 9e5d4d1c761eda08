import CapnpDeno.Rpc.Session.StreamWindow

/-!
# The bytes of a stream

The bytes in flight are those of the calls in the window.  Only a reservation can put them out of
balance, one that is granted to a call which has its bytes already or has left the window: after its
wait it does not look at the call again.
-/

namespace CapnpDeno

namespace StreamSender

variable {ρ : Type} {s s' t : StreamSender ρ} {op other : StreamOpId} {o : StreamOp}
  {call oldest : CallIndex} {c : InFlightCall ρ} {m m' : StreamMidway ρ}
  {effects : List (StreamEffect ρ)}

/-- The bytes of the calls in the window. -/
def windowBytes (s : StreamSender ρ) : ℤ := (s.inFlightCalls.map s.callByteLength).sum

structure Balanced (s : StreamSender ρ) : Prop where
  sum : s.inFlightBytes = s.windowBytes
  bytes : ∀ (call : CallIndex) (c : InFlightCall ρ), s.calls[call]? = some c → 0 ≤ c.byteLength ∧
    (c.bytesReserved = false → c.byteLength = 0)
  capacity : ∀ max, s.options.maxInFlightBytes = some max → s.inFlightBytes ≤ max
  draining : ∀ op oldest wait, s.stageAt op = some (.draining oldest wait) →
    oldest ∈ s.inFlightCalls ∨ s.callByteLength oldest = 0

theorem callByteLength_of (found : s.calls[call]? = some c) :
    s.callByteLength call = c.byteLength := by
  unfold callByteLength
  rw [found]
  rfl

theorem Balanced.nonneg_call (balanced : Balanced s) (call : CallIndex) :
    0 ≤ s.callByteLength call := by
  cases found : s.calls[call]? with
  | some c =>
    rw [callByteLength_of found]
    exact (balanced.bytes call c found).1
  | none =>
    unfold callByteLength
    rw [found]
    exact le_refl _

theorem Balanced.nonneg (balanced : Balanced s) : 0 ≤ s.inFlightBytes := by
  rw [balanced.sum]
  refine List.sum_nonneg fun bytes member => ?_
  obtain ⟨call, -, rfl⟩ := List.mem_map.1 member
  exact balanced.nonneg_call call

/-- A change that leaves the window and the bytes as they are. -/
theorem Balanced.same (balanced : Balanced s)
    (lengths : ∀ call, s'.callByteLength call = s.callByteLength call)
    (bytes : ∀ (call : CallIndex) (c : InFlightCall ρ), s'.calls[call]? = some c →
      0 ≤ c.byteLength ∧ (c.bytesReserved = false → c.byteLength = 0))
    (window : s'.inFlightCalls = s.inFlightCalls) (inFlight : s'.inFlightBytes = s.inFlightBytes)
    (options : s'.options = s.options)
    (kept : ∀ op oldest wait, s'.stageAt op = some (.draining oldest wait) →
      ∃ wait', s.stageAt op = some (.draining oldest wait')) : Balanced s' where
  sum := by
    rw [inFlight, balanced.sum]
    unfold windowBytes
    rw [window, funext lengths]
  bytes := bytes
  capacity := by
    rw [options, inFlight]
    exact balanced.capacity
  draining op oldest wait stands := by
    obtain ⟨wait', before⟩ := kept op oldest wait stands
    rw [window, lengths]
    exact balanced.draining op oldest wait' before

theorem Balanced.ops (balanced : Balanced s) (calls : s'.calls = s.calls)
    (window : s'.inFlightCalls = s.inFlightCalls) (inFlight : s'.inFlightBytes = s.inFlightBytes)
    (options : s'.options = s.options)
    (kept : ∀ op oldest wait, s'.stageAt op = some (.draining oldest wait) →
      ∃ wait', s.stageAt op = some (.draining oldest wait')) : Balanced s' := by
  refine balanced.same (fun call => ?_) ?_ window inFlight options kept
  · unfold callByteLength
    rw [calls]
  · rw [calls]
    exact balanced.bytes

theorem StageKept.drains {before after : Option StreamStage} (kept : StageKept before after)
    {wait : StateWait} (stands : after = some (.draining oldest wait)) :
    ∃ wait', before = some (.draining oldest wait') := by
  obtain rfl | ⟨oldest', wait', found, -, rfl⟩ := kept
  · exact ⟨wait, stands⟩
  · cases stands
    exact ⟨.pending, found⟩

theorem Balanced.notify (balanced : Balanced s) : Balanced s.notifyStateChange := by
  refine balanced.ops ?_ ?_ ?_ ?_ fun op oldest wait stands =>
    StageKept.drains (stageKept_notify s op) stands
  all_goals rw [notify_only]

theorem Balanced.remember (balanced : Balanced s) (error : Thrown) :
    Balanced (s.rememberError error) := by
  unfold rememberError
  split
  · exact balanced
  · exact Balanced.notify (balanced.ops rfl rfl rfl rfl fun _ _ wait stands => ⟨wait, stands⟩)

theorem Balanced.goTo (balanced : Balanced s) (found : s.ops[op]? = some o) (stage : StreamStage)
    (stands : stage.place ≠ .draining) : Balanced (s.goTo op stage) := by
  refine balanced.ops rfl rfl rfl rfl fun other oldest wait there => ?_
  rw [stageAt_goTo found] at there
  split_ifs at there
  · cases there
    exact absurd rfl stands
  · exact ⟨wait, there⟩

theorem callByteLength_setCall {f : InFlightCall ρ → InFlightCall ρ}
    (same : ∀ c, (f c).byteLength = c.byteLength) (other : CallIndex) :
    (s.setCall call f).callByteLength other = s.callByteLength other := by
  unfold callByteLength StreamSender.setCall
  by_cases here : other = call
  · subst here
    dsimp only
    cases found : s.calls[other]? with
    | none => rw [List.getElem?_modify_eq, found]; rfl
    | some c =>
      rw [Heap.modify_self found]
      exact same c
  · dsimp only
    rw [Heap.modify_other here]

/-- A change of a call that leaves its bytes as they are. -/
theorem Balanced.setCall (balanced : Balanced s) (f : InFlightCall ρ → InFlightCall ρ)
    (same : ∀ c, (f c).byteLength = c.byteLength)
    (reserved : ∀ c, (f c).bytesReserved = c.bytesReserved) :
    Balanced (s.setCall call f) := by
  refine balanced.same (callByteLength_setCall same) (fun other c found => ?_) rfl rfl rfl
    fun op oldest wait stands => ⟨wait, stands⟩
  obtain ⟨rfl, c', found', rfl⟩ | ⟨-, there⟩ := Heap.of_modify found
  · rw [same, reserved]
    exact balanced.bytes other c' found'
  · exact balanced.bytes other c there

theorem windowBytes_erase {window : List CallIndex} (f : CallIndex → ℤ) (there : call ∈ window) :
    ((window.erase call).map f).sum = (window.map f).sum - f call := by
  rw [← List.sum_map_erase f there]
  omega

/-- A call leaves the window, and takes its bytes with it. -/
theorem Balanced.leave (balanced : Balanced s)
    (lengths : ∀ other, s'.callByteLength other = s.callByteLength other)
    (bytes : ∀ (call : CallIndex) (c : InFlightCall ρ), s'.calls[call]? = some c →
      0 ≤ c.byteLength ∧ (c.bytesReserved = false → c.byteLength = 0))
    (window : s'.inFlightCalls = s.inFlightCalls.erase call)
    (inFlight : s'.inFlightBytes = s.inFlightBytes - s.callByteLength call)
    (options : s'.options = s.options) (weighs : call ∈ s.inFlightCalls ∨ s.callByteLength call = 0)
    (kept : ∀ op oldest wait, s'.stageAt op = some (.draining oldest wait) →
      ∃ wait', s.stageAt op = some (.draining oldest wait'))
    (draining : ∀ op wait, s'.stageAt op = some (.draining call wait) → s.callByteLength call = 0) :
    Balanced s' where
  sum := by
    rw [inFlight, balanced.sum]
    unfold windowBytes
    rw [window, funext lengths]
    by_cases there : call ∈ s.inFlightCalls
    · exact (windowBytes_erase s.callByteLength there).symm
    · have nothing := weighs.resolve_left there
      rw [List.erase_of_not_mem there, nothing, Int.sub_zero]
  bytes := bytes
  capacity max bounded := by
    have before := balanced.capacity max (options ▸ bounded)
    have nonneg := balanced.nonneg_call call
    omega
  draining op oldest wait stands := by
    obtain ⟨wait', before⟩ := kept op oldest wait stands
    rw [window, lengths]
    by_cases same : oldest = call
    · subst same
      exact .inr (draining op wait stands)
    · refine (balanced.draining op oldest wait' before).imp_left fun there => ?_
      exact (List.mem_erase_of_ne same).2 there

/-- A reservation is granted that fits. -/
theorem Balanced.grant (balanced : Balanced s) (windowed : Windowed m) (of : m.sender = s)
    {byteLength : ℤ} (nonneg : 0 ≤ byteLength) (room : s.hasByteCapacity byteLength = true)
    (fits : s.misfit call byteLength = false) : Balanced (s.grant call byteLength) := by
  subst of
  have distinct := windowed.nodup
  have other' {other : CallIndex} (different : other ≠ call) :
      (m.sender.grant call byteLength).callByteLength other = m.sender.callByteLength other := by
    unfold callByteLength StreamSender.grant StreamSender.setCall
    dsimp only
    rw [Heap.modify_other different]
  have here (inside : call < m.sender.calls.length) :
      (m.sender.grant call byteLength).callByteLength call = byteLength := by
    unfold callByteLength StreamSender.grant StreamSender.setCall
    dsimp only
    rw [Heap.modify_self (List.getElem?_eq_getElem inside)]
    rfl
  have sums : (m.sender.grant call byteLength).windowBytes = m.sender.windowBytes + byteLength := by
    unfold windowBytes
    have window : (m.sender.grant call byteLength).inFlightCalls = m.sender.inFlightCalls := rfl
    rw [window]
    unfold misfit at fits
    split_ifs at fits with there
    · have zero : m.sender.callByteLength call = 0 := by simpa using fits
      have inside := windowed.inside call there
      rw [← List.sum_map_erase (m.sender.grant call byteLength).callByteLength there,
        ← List.sum_map_erase m.sender.callByteLength there, here inside, zero]
      have rest : (m.sender.inFlightCalls.erase call).map
          (m.sender.grant call byteLength).callByteLength =
          (m.sender.inFlightCalls.erase call).map m.sender.callByteLength :=
        List.map_congr_left fun other member => other' ((distinct.mem_erase_iff).1 member).1
      rw [rest]
      omega
    · have zero : byteLength = 0 := by simpa using fits
      have same : m.sender.inFlightCalls.map (m.sender.grant call byteLength).callByteLength =
          m.sender.inFlightCalls.map m.sender.callByteLength :=
        List.map_congr_left fun other member => other' fun same => there (same ▸ member)
      rw [same, zero]
      omega
  constructor
  · rw [sums]
    exact congrArg (· + byteLength) balanced.sum
  · intro other c found
    obtain ⟨rfl, c', found', rfl⟩ | ⟨-, there⟩ := Heap.of_modify found
    · exact ⟨nonneg, nofun⟩
    · exact balanced.bytes other c there
  · intro max bounded
    have bounded' : m.sender.options.maxInFlightBytes = some max := bounded
    unfold hasByteCapacity at room
    rw [bounded'] at room
    have fits := of_decide_eq_true room
    have total : (m.sender.grant call byteLength).inFlightBytes = m.sender.inFlightBytes +
        byteLength := rfl
    omega
  · intro op oldest wait stands
    obtain there | zero := balanced.draining op oldest wait stands
    · exact .inl there
    · by_cases same : oldest = call
      · subst same
        by_cases there : oldest ∈ m.sender.inFlightCalls
        · exact .inl there
        · right
          unfold misfit at fits
          rw [if_neg there] at fits
          have nothing : byteLength = 0 := by simpa using fits
          by_cases inside : oldest < m.sender.calls.length
          · rw [here inside, nothing]
          · unfold callByteLength StreamSender.grant StreamSender.setCall
            dsimp only
            rw [List.getElem?_modify_eq, List.getElem?_eq_none (Nat.le_of_not_lt inside)]
            rfl
      · rw [other' same]
        exact .inr zero

theorem initialBytes_nonneg (params : StreamParams) : 0 ≤ params.initialBytes := by
  cases params with
  | bytes byteLength => exact Int.natCast_nonneg byteLength
  | object => exact le_refl _

/-- A call enters the window with the bytes that it has from the start. -/
theorem Balanced.push (balanced : Balanced s) (windowed : Windowed ⟨s, some op⟩)
    (found : s.ops[op]? = some o) (params : StreamParams)
    (room : s.hasByteCapacity params.initialBytes = true) :
    Balanced (s.push op params).1 := by
  have old other (inside : other < s.calls.length) :
      (s.push op params).1.callByteLength other = s.callByteLength other := by
    unfold callByteLength StreamSender.push
    dsimp only
    rw [List.getElem?_append_left inside]
  have new : (s.push op params).1.callByteLength s.calls.length = params.initialBytes := by
    unfold callByteLength StreamSender.push
    dsimp only
    rw [Heap.append_self]
    rfl
  constructor
  · have sums : (s.push op params).1.windowBytes = s.windowBytes + params.initialBytes := by
      unfold windowBytes
      have window : (s.push op params).1.inFlightCalls = s.inFlightCalls ++ [s.calls.length] := rfl
      have before : s.inFlightCalls.map (s.push op params).1.callByteLength =
          s.inFlightCalls.map s.callByteLength :=
        List.map_congr_left fun other member => old other (windowed.inside other member)
      rw [window, List.map_append, List.sum_append, before, List.map_singleton,
        List.sum_singleton, new]
    rw [sums]
    exact congrArg (· + params.initialBytes) balanced.sum
  · intro other c there
    obtain before | ⟨-, rfl⟩ := Heap.of_append there
    · exact balanced.bytes other c before
    · refine ⟨initialBytes_nonneg params, fun unreserved => ?_⟩
      cases params with
      | bytes byteLength => cases unreserved
      | object => rfl
  · intro max bounded
    have bounded' : s.options.maxInFlightBytes = some max := bounded
    unfold hasByteCapacity at room
    rw [bounded'] at room
    have fits := of_decide_eq_true room
    have total : (s.push op params).1.inFlightBytes = s.inFlightBytes + params.initialBytes := rfl
    omega
  · intro other oldest wait stands
    rw [stageAt_push found] at stands
    split_ifs at stands
    · cases stands
    · obtain there | zero := balanced.draining other oldest wait stands
      · exact .inl (List.mem_append_left _ there)
      · by_cases inside : oldest < s.calls.length
        · rw [old oldest inside]
          exact .inr zero
        · by_cases same : oldest = s.calls.length
          · exact .inl (List.mem_append_right _ (List.mem_singleton.2 same))
          · right
            unfold callByteLength
            rw [List.getElem?_eq_none]
            · rfl
            · have more : (s.push op params).1.calls.length = s.calls.length + 1 :=
                List.length_append
              rw [more]
              exact Nat.lt_of_le_of_ne (Nat.le_of_not_lt inside) (Ne.symm same)

theorem Balanced.hold (balanced : Balanced s) (holds : s.HoldsDrain op t) : Balanced t := by
  obtain ⟨ops, calls, window, inFlight, options⟩ := HoldsDrain.same holds
  refine balanced.ops calls window inFlight options fun other oldest wait stands => ⟨wait, ?_⟩
  unfold stageAt at stands ⊢
  rwa [ops] at stands

/-- The acts keep the bytes in balance, unless a reservation is granted that does not fit. -/
theorem Balanced.act (act : Act False m m' effects) (placed : Placed m) (allowed : Allowed m.sender)
    (windowed : Windowed m) (waiting : Waiting m.sender) (balanced : Balanced m.sender) :
    Balanced m'.sender := by
  cases act with
  | begin s kind aborted =>
    refine balanced.ops rfl rfl rfl rfl fun op oldest wait stands => ?_
    dsimp only at stands
    rw [stageAt_begin] at stands
    split_ifs at stands
    · cases stands
    · exact ⟨wait, stands⟩
  | pick | pass | deliver
  | skip => exact balanced.ops rfl rfl rfl rfl fun _ _ wait stands => ⟨wait, stands⟩
  | take s t op o oldest idle found drains settled =>
    have held := balanced.hold drains.holds
    have there : oldest ∈ t.inFlightCalls ∨ t.callByteLength oldest = 0 := by
      cases drains with
      | starts rest free first head => exact .inl (List.mem_of_mem_head? head)
      | goesOn o' wait found' stands =>
        exact balanced.draining op oldest wait (by rw [stageAt_of found', stands])
    exact held.leave (fun _ => rfl) held.bytes rfl rfl rfl there
      (fun _ _ _ stands => absurd stands (HoldsDrain.ended placed found drains.holds rfl))
      fun _ _ stands => absurd stands (HoldsDrain.ended placed found drains.holds rfl)
  | wait s t op o oldest idle found drains unsettled =>
    obtain ⟨ops, calls, window, inFlight, options⟩ := HoldsDrain.same drains.holds
    have held := balanced.hold drains.holds
    have stages := stageAt_goTo (s := t) (by rw [ops]; exact found) (.draining oldest .pending)
    refine ⟨held.sum, held.bytes, held.capacity, fun other oldest' wait stands => ?_⟩
    dsimp only at stands
    rw [stages] at stands
    split_ifs at stands
    · cases stands
      cases drains with
      | starts rest free first head => exact .inl (List.mem_of_mem_head? head)
      | goesOn o' wait found' stands =>
        exact balanced.draining op oldest wait (by rw [stageAt_of found', stands])
    · exact held.draining other oldest' wait stands
  | finish s t op o result found holds empty =>
    obtain ⟨ops, calls, window, inFlight, options⟩ := HoldsDrain.same holds
    exact (balanced.hold holds).ops rfl rfl rfl rfl
      fun _ _ _ stands => absurd stands (HoldsDrain.ended placed found holds rfl)
  | lock s op o found comes =>
    have gone := balanced.goTo found .locked nofun
    exact gone.ops rfl rfl rfl rfl fun _ _ wait stands => ⟨wait, stands⟩
  | put s op o stage found comes stands awaits =>
    refine balanced.goTo found stage ?_
    obtain stands | stands := stands <;> (rw [stands]; nofun)
  | flushed s op o failure found window ready => exact balanced.goTo found _ nofun
  | push s op o params found sends room =>
    exact balanced.push windowed found params (isFull_false room).2
  | remember s hand error => exact balanced.remember error
  | throw s hand call rest error first settled =>
    have ready : Balanced { s with readyResponses := rest } :=
      balanced.ops rfl rfl rfl rfl fun _ _ wait stands => ⟨wait, stands⟩
    exact ready.remember error
  | note s hand op o failure found =>
    refine balanced.ops rfl rfl rfl rfl fun other oldest wait stands => ⟨wait, ?_⟩
    rw [← stands]
    refine (stageAt_setOp _ (fun o' found' => ?_) other).symm
    obtain rfl : o = o' := Option.some.inj (found.symm.trans found')
    rfl
  | grant s op o call byteLength found reserves stands room fits =>
    have nonneg : 0 ≤ byteLength := by
      have comes := allowed op o found
      rw [reserves] at comes
      obtain stands | ⟨result, stands⟩ :=
        stands <;> (rw [stands] at comes; exact of_decide_eq_true comes)
    have granted := balanced.grant windowed rfl nonneg room (fits.resolve_right id)
    exact Balanced.notify (granted.setCall _ (fun _ => rfl) fun _ => rfl)
  | release s hand call => exact Balanced.notify (balanced.setCall _ (fun _ => rfl) fun _ => rfl)
  | own s hand call => exact balanced.setCall _ (fun _ => rfl) fun _ => rfl
  | reject s hand call error =>
    exact Balanced.notify (balanced.setCall _ (fun _ => rfl) fun _ => rfl)
  | settle s hand call c outcome decision found attached unsettled released decides admits =>
    exact Balanced.notify (balanced.setCall _ (fun _ => rfl) fun _ => rfl)
  | abandon s hand call c outcome error found attached unsettled released unreserved bounded =>
    have zero : s.callByteLength call = 0 := by
      rw [callByteLength_of found]
      exact (balanced.bytes call c found).2 unreserved
    have settled : Balanced (s.setCall call fun c => { c with
        settled := some outcome, admission := c.admission.reject error }) :=
      balanced.setCall _ (fun _ => rfl) fun _ => rfl
    have lengths other : (s.setCall call fun c => { c with
        settled := some outcome, admission := c.admission.reject error }).callByteLength other =
          s.callByteLength other := by
      apply callByteLength_setCall
      exact fun _ => rfl
    refine Balanced.notify (settled.leave (fun _ => rfl) settled.bytes rfl ?_ rfl (.inr ?_)
      (fun _ _ wait stands => ⟨wait, stands⟩) fun _ _ _ => ?_)
    · rw [lengths, zero]
      exact (Int.sub_zero _).symm
    · rw [lengths, zero]
    · rw [lengths, zero]
  | attach s op rest o call first found stands =>
    have attached : Balanced (s.setCall call fun c => { c with attached := true }) :=
      balanced.setCall _ (fun _ => rfl) fun _ => rfl
    exact Balanced.notify (attached.ops rfl rfl rfl rfl fun _ _ wait stands => ⟨wait, stands⟩)
  | drop s op rest o call first found stands released =>
    obtain ⟨there, c, found', open'⟩ :=
      windowed.calling op call (by rw [stageAt_of found, stands]) nofun
    refine balanced.leave (fun _ => rfl) balanced.bytes rfl rfl rfl (.inl there)
      (fun _ _ wait stands => ⟨wait, stands⟩) fun other wait stands => ?_
    obtain ⟨c', there', attached, -⟩ := waiting.draining other call wait stands
    obtain rfl : c = c' := Option.some.inj (found'.symm.trans there')
    cases open'.symm.trans attached
  | cancel s hand reason =>
    unfold cancelStream
    split_ifs
    · exact balanced
    · exact Balanced.notify (balanced.ops rfl rfl rfl rfl fun _ _ wait stands => ⟨wait, stands⟩)
  | signalAborts s hand =>
    exact Balanced.notify (balanced.ops rfl rfl rfl rfl fun _ _ wait stands => ⟨wait, stands⟩)
  | waitAborts s hand op reason =>
    refine balanced.ops rfl rfl rfl rfl fun other oldest wait stands => ?_
    obtain same | ⟨oldest', before, after⟩ := stageAt_waitAborts s op reason other
    · exact ⟨wait, same.symm.trans stands⟩
    · have stages := after.symm.trans stands
      cases stages
      exact ⟨.pending, before⟩

theorem balanced_initial (options : StreamSenderOptions) :
    Balanced (initial options : StreamSender ρ) where
  sum := rfl
  bytes _ _ found := by cases found
  capacity _ _ := Int.natCast_nonneg _
  draining _ _ _ stands := by cases stands

theorem balanced_step {event : StreamEvent ρ} (fits : s.misreserves event = false)
    (holds : Sound ⟨s, none⟩ ∧ Balanced s) :
    Sound ⟨(s.step event).1, none⟩ ∧ Balanced (s.step event).1 := by
  have never : (s.misreserves event = true) = False := by
    rw [fits]; exact eq_false Bool.false_ne_true
  have acts := acts_step s event
  rw [never] at acts
  refine acts.invariant (P := fun m => Sound m ∧ Balanced m.sender)
    (fun m m' _ act holds => ?_) holds
  exact ⟨holds.1.act act, Balanced.act act holds.1.placed holds.1.allowed holds.1.windowed
    holds.1.waiting holds.2⟩

/-- The window keeps to its limits, and the bytes in flight are those of its calls, unless a
reservation is granted that does not fit. -/
theorem inFlight_accounted (options : StreamSenderOptions) (events : List (StreamEvent ρ))
    (fits : Machine.Always step (fun s event => s.misreserves event = false)
      (initial options) events) :
    (Machine.final step (initial options) events).inFlightCalls.length ≤ options.maxInFlight ∧
      (Machine.final step (initial options) events).inFlightBytes =
        (Machine.final step (initial options) events).windowBytes ∧
      0 ≤ (Machine.final step (initial options) events).inFlightBytes ∧
      ∀ max, options.maxInFlightBytes = some max →
        (Machine.final step (initial options) events).inFlightBytes ≤ max := by
  obtain ⟨sound, balanced⟩ := fits.invariant (P := fun s => Sound ⟨s, none⟩ ∧ Balanced s)
    (fun _ _ fits holds => balanced_step fits holds) ⟨sound_initial options,
      balanced_initial options⟩
  have same := final_options (initial options : StreamSender ρ) events
  have short := sound.windowed.short
  have capacity := balanced.capacity
  rw [same] at capacity
  dsimp only at short
  rw [same] at short
  exact ⟨short, balanced.sum, balanced.nonneg, capacity⟩

theorem inFlight_accounted_reserved :
    let s := Machine.final step (initial boundedOptions : StreamSender ℕ)
      [.send .object, .reserveBytes 0 3, .callFnReturns, .resume 1, .resume 1]
    s.inFlightBytes = 3 ∧ s.inFlightCalls.length ≤ boundedOptions.maxInFlight ∧
      s.inFlightBytes = s.windowBytes ∧
      0 ≤ s.inFlightBytes ∧ ∀ max, boundedOptions.maxInFlightBytes = some max →
      s.inFlightBytes ≤ max :=
  ⟨by decide, inFlight_accounted boundedOptions _ (by decide)⟩

/-- The `callFn` reserves three bytes and four bytes at once: both are in flight, and the call has
four. -/
theorem inFlight_not_accounted :
    (Machine.final step (initial boundedOptions : StreamSender ℕ)
      [.send .object, .reserveBytes 0 3, .reserveBytes 0 4, .callFnReturns, .resume 1, .resume 2,
        .resume 1, .resume 2]).inFlightBytes ≠
    (Machine.final step (initial boundedOptions : StreamSender ℕ)
      [.send .object, .reserveBytes 0 3, .reserveBytes 0 4, .callFnReturns, .resume 1, .resume 2,
        .resume 1, .resume 2]).windowBytes := by
  decide

end StreamSender

end CapnpDeno
