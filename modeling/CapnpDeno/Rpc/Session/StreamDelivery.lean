import CapnpDeno.Rpc.Session.StreamWindow

/-!
# The outcomes of a stream

The drain takes the calls in the order of their indices.  Their outcomes are handed over, made ready
and delivered in this order, each at most once; so what has been delivered, is ready and is handed
over is what the drain has taken.
-/

namespace CapnpDeno

namespace StreamEffect

variable {ρ : Type}

def sentCall : StreamEffect ρ → Option CallIndex
  | .callFn call => some call
  | _ => none

def drainedCall : StreamEffect ρ → Option CallIndex
  | .drained call => some call
  | _ => none

def removedCall : StreamEffect ρ → Option CallIndex
  | .removed call => some call
  | _ => none

/-- The delivery of the outcome of a call starts. -/
def startedCall : StreamEffect ρ → Option CallIndex
  | .onResponse call _ | .onError call _ | .discarded call | .thrown call _ => some call
  | _ => none

end StreamEffect

namespace StreamSender

variable {ρ : Type} {s s' t : StreamSender ρ} {op other : StreamOpId} {o : StreamOp}
  {call oldest : CallIndex} {c : InFlightCall ρ} {hand : Option StreamOpId} {lax : Prop}
  {m m' : StreamMidway ρ} {past effects : List (StreamEffect ρ)} {effect : StreamEffect ρ}

def drainedCalls (past : List (StreamEffect ρ)) : List CallIndex :=
  past.filterMap StreamEffect.drainedCall

def startedCalls (past : List (StreamEffect ρ)) : List CallIndex :=
  past.filterMap StreamEffect.startedCall

/-- What the operation has taken from the drain. -/
def takenBy (s : StreamSender ρ) (op : StreamOpId) : List CallIndex :=
  match s.stageAt op with
  | some (.drained (.ok taken)) => taken.toList
  | _ => []

/-- The calls that are handed over by the drain. -/
def handed (s : StreamSender ρ) : List CallIndex := s.handing.flatMap s.takenBy

structure Delivered (past : List (StreamEffect ρ)) (s : StreamSender ρ) : Prop where
  increasing : (drainedCalls past).Pairwise (· < ·)
  before : ∀ call ∈ drainedCalls past, s.outcome call ≠ none ∧
    (∀ later ∈ s.inFlightCalls, call < later) ∧
    ∀ op oldest wait, s.stageAt op = some (.draining oldest wait) → call < oldest
  oldest : ∀ op oldest wait, s.stageAt op = some (.draining oldest wait) →
    ∀ later ∈ s.inFlightCalls, oldest ≤ later
  received : s.totalReceived = (drainedCalls past).length
  delivery : startedCalls past ++ s.readyResponses ++ s.handed = drainedCalls past
  outcomes : ∀ effect ∈ past, ∀ call, effect.startedCall = some call →
    ∃ outcome, s.outcome call = some outcome ∧ outcome.Delivers call effect
  remembered : ∀ call error, .thrown call error ∈ past → s.firstError ≠ none

theorem drainedCalls_append (past effects : List (StreamEffect ρ)) :
    drainedCalls (past ++ effects) = drainedCalls past ++ drainedCalls effects :=
  List.filterMap_append

theorem startedCalls_append (past effects : List (StreamEffect ρ)) :
    startedCalls (past ++ effects) = startedCalls past ++ startedCalls effects :=
  List.filterMap_append

theorem handed_congr (handing : s'.handing = s.handing)
    (stages : ∀ op ∈ s.handing, s'.stageAt op = s.stageAt op) :
    s'.handed = s.handed := by
  unfold handed
  rw [handing]
  refine List.flatMap_congr fun op member => ?_
  unfold takenBy
  rw [stages op member]

/-- The operations that are handed over stay where they are. -/
theorem handed_kept (placed : Placed ⟨s, hand⟩) (handing : s'.handing = s.handing)
    (kept : ∀ op, StageKept (s.stageAt op) (s'.stageAt op)) : s'.handed = s.handed := by
  refine handed_congr handing fun op member => ?_
  obtain same | ⟨oldest, wait, before, -, -⟩ := kept op
  · exact same
  · have place := ((placed.drained op).1 member).1
    dsimp only [placeAt] at place
    rw [before] at place
    cases place

/-- A change that concerns no outcome. -/
theorem Delivered.same (delivered : Delivered past s) (outcomes : ∀ call, s.outcome call ≠ none →
      s'.outcome call = s.outcome call)
    (window : ∀ call ∈ s'.inFlightCalls, call ∈ s.inFlightCalls)
    (draining : ∀ op oldest wait, s'.stageAt op = some (.draining oldest wait) →
      ∃ wait', s.stageAt op = some (.draining oldest wait'))
    (received : s'.totalReceived = s.totalReceived) (ready : s'.readyResponses = s.readyResponses)
    (handed : s'.handed = s.handed) (remembered : s.firstError ≠ none → s'.firstError ≠ none) :
    Delivered past s' where
  increasing := delivered.increasing
  before call member := by
    obtain ⟨settled, later, drains⟩ := delivered.before call member
    refine ⟨?_, fun other there => later other (window other there),
      fun op oldest wait stands => ?_⟩
    · rw [outcomes call settled]
      exact settled
    · obtain ⟨wait', before⟩ := draining op oldest wait stands
      exact drains op oldest wait' before
  oldest op oldest wait stands later there := by
    obtain ⟨wait', before⟩ := draining op oldest wait stands
    exact delivered.oldest op oldest wait' before later (window later there)
  received := received.trans delivered.received
  delivery := by
    rw [ready, handed]
    exact delivered.delivery
  outcomes effect member call starts := by
    obtain ⟨outcome, settled, delivers⟩ := delivered.outcomes effect member call starts
    exact ⟨outcome, (outcomes call (by rw [settled]; nofun)).trans settled, delivers⟩
  remembered call error member := remembered (delivered.remembered call error member)

/-- Effects that are about no outcome. -/
theorem Delivered.silent (delivered : Delivered past s)
    (silent : ∀ effect ∈ effects, effect.drainedCall = none ∧ effect.startedCall = none) :
    Delivered (past ++ effects) s := by
  have drained : drainedCalls (past ++ effects) = drainedCalls past := by
    have none' : drainedCalls effects = [] :=
      List.filterMap_eq_nil_iff.2 fun effect member => (silent effect member).1
    rw [drainedCalls_append, none', List.append_nil]
  have started : startedCalls (past ++ effects) = startedCalls past := by
    have none' : startedCalls effects = [] :=
      List.filterMap_eq_nil_iff.2 fun effect member => (silent effect member).2
    rw [startedCalls_append, none', List.append_nil]
  refine ⟨?_, ?_, delivered.oldest, ?_, ?_, fun effect member call starts =>
    ?_, fun call error member => ?_⟩
  · rw [drained]
    exact delivered.increasing
  · rw [drained]
    exact delivered.before
  · rw [drained]
    exact delivered.received
  · rw [drained, started]
    exact delivered.delivery
  · obtain member | last := List.mem_append.1 member
    · exact delivered.outcomes effect member call starts
    · rw [(silent effect last).2] at starts
      cases starts
  · obtain member | last := List.mem_append.1 member
    · exact delivered.remembered call error member
    · have starts := (silent _ last).2
      cases starts

/-- The next outcome that is ready is delivered. -/
theorem Delivered.deliver (delivered : Delivered past s) {rest : List CallIndex}
    {outcome : StreamCallSettled ρ} (first : s.readyResponses = call :: rest)
    (settled : s.outcome call = some outcome) (delivers : outcome.Delivers call effect)
    (remembered : ∀ call error, effect = .thrown call error → s.firstError ≠ none) :
    Delivered (past ++ [effect]) { s with readyResponses := rest } := by
  have starts : effect.startedCall = some call := by
    cases outcome <;> obtain rfl | rfl := delivers <;> rfl
  have silent : effect.drainedCall = none := by
    cases outcome <;> obtain rfl | rfl := delivers <;> rfl
  have drained : drainedCalls (past ++ [effect]) = drainedCalls past := by
    have none' : drainedCalls [effect] = [] := by
      rw [drainedCalls, List.filterMap_cons_none silent, List.filterMap_nil]
    rw [drainedCalls_append, none', List.append_nil]
  have started : startedCalls (past ++ [effect]) = startedCalls past ++ [call] := by
    have one : startedCalls [effect] = [call] := by
      rw [startedCalls, List.filterMap_cons_some starts, List.filterMap_nil]
    rw [startedCalls_append, one]
  refine ⟨?_, ?_, delivered.oldest, ?_, ?_, fun other member call' starts' =>
    ?_, fun call' error member => ?_⟩
  · rw [drained]
    exact delivered.increasing
  · rw [drained]
    exact delivered.before
  · rw [drained]
    exact delivered.received
  · have before := delivered.delivery
    rw [drained, started, ← before, first]
    simp only [List.append_assoc, List.cons_append, List.nil_append]
    rfl
  · obtain member | last := List.mem_append.1 member
    · exact delivered.outcomes other member call' starts'
    · rw [List.mem_singleton.1 last] at starts' ⊢
      obtain rfl : call = call' := Option.some.inj (starts.symm.trans starts')
      exact ⟨outcome, settled, delivers⟩
  · obtain member | last := List.mem_append.1 member
    · exact delivered.remembered call' error member
    · exact remembered call' error (List.mem_singleton.1 last).symm

theorem rememberError_comm (s : StreamSender ρ) (rest : List CallIndex) (error : Thrown) :
    rememberError { s with readyResponses := rest } error =
      { s.rememberError error with readyResponses := rest } := by
  obtain ⟨_, _, _, _, _, _, firstError, _, _, _, drainHolder, _, _, _, _⟩ := s
  cases firstError <;> cases drainHolder <;> rfl

theorem rememberError_remembers (s : StreamSender ρ) (error : Thrown) :
    (s.rememberError error).firstError ≠ none := by
  unfold rememberError
  split
  · next first =>
    rw [first]
    nofun
  · rw [notify_only]
    nofun

theorem outcome_congr (calls : s'.calls = s.calls) (call : CallIndex) :
    s'.outcome call = s.outcome call := by
  unfold outcome
  rw [calls]

/-- Only the stages change, and those of the drain only so that a wait is over. -/
theorem Delivered.kept (delivered : Delivered past s) (placed : Placed ⟨s, hand⟩)
    (calls : s'.calls = s.calls) (window : s'.inFlightCalls = s.inFlightCalls)
    (received : s'.totalReceived = s.totalReceived) (ready : s'.readyResponses = s.readyResponses)
    (handing : s'.handing = s.handing) (kept : ∀ op, StageKept (s.stageAt op) (s'.stageAt op))
    (remembered : s.firstError ≠ none → s'.firstError ≠ none) :
    Delivered past s' := by
  refine delivered.same (fun call _ => outcome_congr calls call)
    (by rw [window]; exact fun _ => id) ?_ received ready
    (handed_kept placed handing kept) remembered
  intro op oldest wait stands
  obtain same | ⟨oldest', wait', before, -, after⟩ := kept op
  · exact ⟨wait, same.symm.trans stands⟩
  · cases after.symm.trans stands
    exact ⟨.pending, before⟩

theorem Delivered.notify (delivered : Delivered past s) (placed : Placed ⟨s, hand⟩) :
    Delivered past s.notifyStateChange := by
  refine delivered.kept placed ?_ ?_ ?_ ?_ ?_ (stageKept_notify s) ?_
  all_goals rw [notify_only]
  exact id

theorem Delivered.remember (delivered : Delivered past s) (placed : Placed ⟨s, hand⟩)
    (error : Thrown) :
    Delivered past (s.rememberError error) := by
  unfold rememberError
  split
  · exact delivered
  · have placed' : Placed ⟨{ s with firstError := some error }, hand⟩ :=
      placed.same (fun _ => rfl) rfl rfl rfl rfl
    exact Delivered.notify (delivered.same (fun _ _ => rfl) (fun _ => id)
      (fun _ _ wait stands => ⟨wait, stands⟩) rfl rfl rfl fun _ => nofun) placed'

/-- The operation at hand goes to a stage outside the drain. -/
theorem Delivered.goTo (delivered : Delivered past s) (found : s.ops[op]? = some o)
    (off : op ∉ s.handing) (stage : StreamStage) (stands : stage.place ≠ .draining) :
    Delivered past (s.goTo op stage) := by
  have stages := stageAt_goTo found stage
  refine delivered.same (fun _ _ => rfl) (fun _ => id)
    (fun other oldest wait there => ?_) rfl rfl ?_ id
  · rw [stages] at there
    split_ifs at there
    · cases there
      exact absurd rfl stands
    · exact ⟨wait, there⟩
  · refine handed_congr rfl fun other member => ?_
    rw [stages, if_neg (by rintro rfl; exact off member)]

/-! ## The acts keep the order -/

theorem outcome_setCall {f : InFlightCall ρ → InFlightCall ρ}
    (same : ∀ c, (f c).settled = c.settled) (other : CallIndex) :
    (s.setCall call f).outcome other = s.outcome other := by
  unfold outcome StreamSender.setCall
  by_cases here : other = call
  · subst here
    dsimp only
    cases found : s.calls[other]? with
    | none => rw [List.getElem?_modify_eq, found]; rfl
    | some c =>
      rw [Heap.modify_self found]
      exact same c
  · dsimp only
    rw [Heap.modify_other here]

/-- A change of a call that does not settle. -/
theorem Delivered.setCall (delivered : Delivered past s) (f : InFlightCall ρ → InFlightCall ρ)
    (same : ∀ c, (f c).settled = c.settled) : Delivered past (s.setCall call f) :=
  delivered.same (fun other _ => outcome_setCall same other) (fun _ => id)
    (fun _ _ wait stands => ⟨wait, stands⟩) rfl rfl
    rfl id

theorem outcome_other {f : InFlightCall ρ → InFlightCall ρ} (different : other ≠ call) :
    (s.setCall call f).outcome other = s.outcome other := by
  unfold outcome StreamSender.setCall
  dsimp only
  rw [Heap.modify_other different]

/-- A call settles, and leaves the window perhaps. -/
theorem Delivered.settle (delivered : Delivered past s) (placed : Placed ⟨s, hand⟩)
    (unsettled : s.outcome call = none) {outcome : StreamCallSettled ρ}
    {decision : Admission → Admission} {window : List CallIndex}
    (left : ∀ call ∈ window, call ∈ s.inFlightCalls) :
    Delivered past (s.settleCall call outcome decision window) := by
  have placed' : Placed ⟨{ s.setCall call fun c => { c with
      settled := some outcome, admission := decision c.admission } with inFlightCalls := window },
        hand⟩ :=
    placed.same (fun _ => rfl) rfl rfl rfl rfl
  refine Delivered.notify (delivered.same (fun other settled => outcome_other ?_) left
    (fun _ _ wait stands => ⟨wait, stands⟩) rfl rfl rfl id) placed'
  rintro rfl
  exact settled unsettled

/-- A call enters the window. -/
theorem Delivered.push (delivered : Delivered past s) (placed : Placed ⟨s, some op⟩)
    (waiting : Waiting s) (found : s.ops[op]? = some o) (params : StreamParams) :
    Delivered past (s.push op params).1 := by
  have stages := stageAt_push found params
  have inside other (settled : s.outcome other ≠ none) : other < s.calls.length := by
    by_contra outside
    refine settled ?_
    unfold outcome
    rw [List.getElem?_eq_none (Nat.le_of_not_lt outside)]
    rfl
  have outcomes other (settled : s.outcome other ≠ none) :
      (s.push op params).1.outcome other = s.outcome other := by
    unfold outcome StreamSender.push
    dsimp only
    rw [List.getElem?_append_left (inside other settled)]
  have off : op ∉ s.handing := fun there => ((placed.drained op).1 there).2 rfl
  have draining {other : StreamOpId} {oldest : CallIndex} {wait : StateWait}
      (stands : (s.push op params).1.stageAt other = some (.draining oldest wait)) :
      s.stageAt other = some (.draining oldest wait) := by
    rw [stages] at stands
    split_ifs at stands
    · cases stands
    · exact stands
  constructor
  · exact delivered.increasing
  · intro other member
    obtain ⟨settled, later, drains⟩ := delivered.before other member
    refine ⟨by rw [outcomes other settled]; exact settled, fun next there =>
      ?_, fun op' oldest wait stands => ?_⟩
    · obtain there | last := List.mem_append.1 there
      · exact later next there
      · rw [List.mem_singleton.1 last]
        exact inside other settled
    · exact drains op' oldest wait (draining stands)
  · intro op' oldest wait stands later there
    have before := draining stands
    obtain there | last := List.mem_append.1 there
    · exact delivered.oldest op' oldest wait before later there
    · obtain ⟨c, there, -⟩ := waiting.draining op' oldest wait before
      rw [List.mem_singleton.1 last]
      exact (Heap.lt_length there).le
  · exact delivered.received
  · have handed : (s.push op params).1.handed = s.handed :=
      handed_congr rfl fun other member => by rw [stages, if_neg (by rintro rfl; exact off member)]
    rw [handed]
    exact delivered.delivery
  · intro effect member other starts
    obtain ⟨outcome, settled, delivers⟩ := delivered.outcomes effect member other starts
    exact ⟨outcome, (outcomes other (by rw [settled]; nofun)).trans settled, delivers⟩
  · exact delivered.remembered

theorem HoldsDrain.handing (placed : Placed ⟨s, none⟩) (holds : s.HoldsDrain op t) :
    op ∉ s.handing ∧ t.handing = s.handing ∧ t.readyResponses = s.readyResponses ∧
      t.totalReceived = s.totalReceived ∧ t.firstError = s.firstError := by
  have off : op ∉ s.handing := by
    intro there
    have drained := ((placed.drained op).1 there).1
    cases holds with
    | starts rest free first =>
      have locked := (placed.locked op).1 (by dsimp only; rw [first]; exact List.mem_cons_self)
      cases drained.symm.trans locked
    | goesOn o oldest wait found stands =>
      dsimp only at drained
      rw [placeAt_of found, stands] at drained
      cases drained
  cases holds <;> exact ⟨off, rfl, rfl, rfl, rfl⟩

/-- What the operation has taken comes last. -/
theorem HoldsDrain.handed (placed : Placed ⟨s, none⟩) (found : s.ops[op]? = some o)
    (holds : s.HoldsDrain op t) (ops : s'.ops = t.ops) (handing : s'.handing = t.handing)
    (taken : Option CallIndex) :
    (s'.finishDrain op (.ok taken)).handed = s.handed ++ taken.toList := by
  obtain ⟨off, same, -⟩ := HoldsDrain.handing placed holds
  have stages := HoldsDrain.stages found holds ops (.ok taken)
  have queue : (s'.finishDrain op (.ok taken)).handing = s.handing ++ [op] := by
    rw [← same, ← handing]
    rfl
  unfold StreamSender.handed
  rw [queue, List.flatMap_append, List.flatMap_singleton]
  congr 1
  · refine List.flatMap_congr fun other member => ?_
    unfold takenBy
    rw [stages, if_neg (by rintro rfl; exact off member)]
  · unfold takenBy
    rw [stages, if_pos rfl]

theorem HoldsDrain.handed_error (placed : Placed ⟨s, none⟩) (found : s.ops[op]? = some o)
    (holds : s.HoldsDrain op t) (error : Thrown) :
    (t.finishDrain op (.error error)).handed = s.handed := by
  obtain ⟨off, same, -⟩ := HoldsDrain.handing placed holds
  have stages := HoldsDrain.stages found holds rfl (.error error)
  have queue : (t.finishDrain op (.error error)).handing = s.handing ++ [op] := by
    rw [← same]
    rfl
  unfold StreamSender.handed
  rw [queue, List.flatMap_append, List.flatMap_singleton]
  have nothing : (t.finishDrain op (.error error)).takenBy op = [] := by
    unfold takenBy
    rw [stages, if_pos rfl]
  rw [nothing, List.append_nil]
  refine List.flatMap_congr fun other member => ?_
  unfold takenBy
  rw [stages, if_neg (by rintro rfl; exact off member)]

/-- The drained calls come before the one in the drain, and that comes before the rest of the
window. -/
theorem Delivered.drains (delivered : Delivered past s) (windowed : Windowed ⟨s, none⟩)
    (drains : s.Drains op oldest t) :
    (∀ call ∈ drainedCalls past, call < oldest) ∧ ∀ later ∈ s.inFlightCalls, oldest ≤ later := by
  cases drains with
  | starts rest free first head =>
    refine ⟨fun call member => (delivered.before call member).2.1 oldest
      (List.mem_of_mem_head? head), ?_⟩
    intro later there
    obtain ⟨others, window⟩ := List.head?_eq_some_iff.1 head
    have sorted := windowed.sorted
    dsimp only at sorted
    rw [window] at sorted there
    obtain rfl | behind := List.mem_cons.1 there
    · exact le_refl _
    · exact (List.rel_of_pairwise_cons sorted behind).le
  | goesOn o wait found stands =>
    have stage : s.stageAt op = some (.draining oldest wait) := by rw [stageAt_of found, stands]
    exact ⟨fun call member => (delivered.before call member).2.2 op oldest wait stage,
      delivered.oldest op oldest wait stage⟩

/-- The drain takes a call. -/
theorem Delivered.take (delivered : Delivered past s) (placed : Placed ⟨s, none⟩)
    (windowed : Windowed ⟨s, none⟩) (found : s.ops[op]? = some o) (drains : s.Drains op oldest t)
    (settled : (s.outcome oldest).isSome = true) :
    Delivered (past ++ [.drained oldest])
    ((t.takeOldest oldest).finishDrain op (.ok (some oldest))) := by
  obtain ⟨earlier, later⟩ := delivered.drains windowed drains
  obtain ⟨-, calls, window, -, -⟩ := HoldsDrain.same drains.holds
  obtain ⟨-, -, ready, received, first⟩ := HoldsDrain.handing placed drains.holds
  have drained : drainedCalls (past ++ [.drained oldest]) = drainedCalls past ++ [oldest] :=
    drainedCalls_append _ _
  have started : startedCalls (past ++ [.drained oldest]) = startedCalls past := by
    rw [startedCalls_append]
    exact List.append_nil _
  have outcomes call : ((t.takeOldest oldest).finishDrain op (.ok (some oldest))).outcome call =
      s.outcome call :=
    outcome_congr calls call
  have left : ((t.takeOldest oldest).finishDrain op (.ok (some oldest))).inFlightCalls =
      s.inFlightCalls.erase oldest := by
    rw [← window]
    rfl
  constructor
  · rw [drained]
    exact List.pairwise_append.2 ⟨delivered.increasing, List.pairwise_singleton _ _,
      fun call member last there => by
      rw [List.mem_singleton.1 there]
      exact earlier call member⟩
  · intro call member
    rw [drained] at member
    refine ⟨?_, fun next there => ?_, fun other oldest' wait stands => ?_⟩
    · rw [outcomes]
      obtain member | last := List.mem_append.1 member
      · exact (delivered.before call member).1
      · rw [List.mem_singleton.1 last]
        exact Option.isSome_iff_ne_none.1 settled
    · rw [left] at there
      obtain member | last := List.mem_append.1 member
      · exact (delivered.before call member).2.1 next (List.mem_of_mem_erase there)
      · rw [List.mem_singleton.1 last]
        obtain ⟨different, there⟩ := (windowed.nodup.mem_erase_iff).1 there
        exact Nat.lt_of_le_of_ne (later next there) (Ne.symm different)
    · exact absurd stands (HoldsDrain.ended placed found drains.holds rfl)
  · intro other oldest' wait stands
    exact absurd stands (HoldsDrain.ended placed found drains.holds rfl)
  · rw [drained, List.length_append, ← delivered.received, ← received]
    rfl
  · have handed : ((t.takeOldest oldest).finishDrain op (.ok (some oldest))).handed =
        s.handed ++ [oldest] :=
      HoldsDrain.handed placed found drains.holds rfl rfl (some oldest)
    have same : ((t.takeOldest oldest).finishDrain op (.ok (some oldest))).readyResponses =
        s.readyResponses := ready
    rw [drained, started, handed, same, ← delivered.delivery]
    simp only [List.append_assoc]
  · intro effect member call starts
    rw [outcomes]
    obtain member | last := List.mem_append.1 member
    · exact delivered.outcomes effect member call starts
    · rw [List.mem_singleton.1 last] at starts
      cases starts
  · intro call error member
    obtain member | last := List.mem_append.1 member
    · have remembered := delivered.remembered call error member
      rw [← first] at remembered
      exact remembered
    · cases List.mem_singleton.1 last

theorem Delivered.finish (delivered : Delivered past s) (placed : Placed ⟨s, none⟩)
    (found : s.ops[op]? = some o) (holds : s.HoldsDrain op t)
    {result : Except Thrown (Option CallIndex)} (empty : result.toOption.bind id = none) :
    Delivered past (t.finishDrain op result) := by
  obtain ⟨-, calls, window, -, -⟩ := HoldsDrain.same holds
  obtain ⟨-, -, ready, received, first⟩ := HoldsDrain.handing placed holds
  refine delivered.same (fun call _ => outcome_congr calls call) (fun call there => window ▸ there)
    (fun _ _ _ stands => absurd stands (HoldsDrain.ended placed found holds rfl)) received ready ?_
    fun remembered => first ▸ remembered
  cases result with
  | error error => exact HoldsDrain.handed_error placed found holds error
  | ok taken =>
    obtain rfl : taken = none := empty
    have handed := HoldsDrain.handed placed found holds rfl rfl none
    rwa [Option.toList_none, List.append_nil] at handed

/-- The drain waits for a call. -/
theorem Delivered.wait (delivered : Delivered past s) (placed : Placed ⟨s, none⟩)
    (windowed : Windowed ⟨s, none⟩) (found : s.ops[op]? = some o) (drains : s.Drains op oldest t) :
    Delivered past (t.goTo op (.draining oldest .pending)) := by
  obtain ⟨earlier, later⟩ := delivered.drains windowed drains
  obtain ⟨ops, calls, window, -, -⟩ := HoldsDrain.same drains.holds
  obtain ⟨off, handing, ready, received, first⟩ := HoldsDrain.handing placed drains.holds
  have stages other : (t.goTo op (.draining oldest .pending)).stageAt other =
      if other = op then some (.draining oldest .pending) else s.stageAt other := by
    have before : t.stageAt other = s.stageAt other := by unfold stageAt; rw [ops]
    rw [← before]
    exact stageAt_goTo (by rw [ops]; exact found) _ other
  have outcomes call : (t.goTo op (.draining oldest .pending)).outcome call = s.outcome call :=
    outcome_congr calls call
  have same : (t.goTo op (.draining oldest .pending)).inFlightCalls = s.inFlightCalls := window
  constructor
  · exact delivered.increasing
  · intro call member
    rw [outcomes, same]
    refine ⟨(delivered.before call member).1, (delivered.before call member).2.1,
      fun other oldest' wait stands => ?_⟩
    rw [stages] at stands
    split_ifs at stands
    · cases stands
      exact earlier call member
    · exact (delivered.before call member).2.2 other oldest' wait stands
  · intro other oldest' wait stands
    rw [stages] at stands
    rw [same]
    split_ifs at stands
    · cases stands
      exact later
    · exact delivered.oldest other oldest' wait stands
  · exact received.trans delivered.received
  · have handed : (t.goTo op (.draining oldest .pending)).handed = s.handed := by
      refine handed_congr handing fun other member => ?_
      rw [stages, if_neg (by rintro rfl; exact off member)]
    have ready' : (t.goTo op (.draining oldest .pending)).readyResponses = s.readyResponses := ready
    rw [handed, ready']
    exact delivered.delivery
  · intro effect member call starts
    rw [outcomes]
    exact delivered.outcomes effect member call starts
  · intro call error member
    have remembered := delivered.remembered call error member
    rw [← first] at remembered
    exact remembered

/-- What was handed over is ready. -/
theorem Delivered.pass (delivered : Delivered past s) {rest : List StreamOpId}
    {result : Except Thrown (Option CallIndex)} (first : s.handing = op :: rest)
    (found : s.ops[op]? = some o) (stands : o.stage = .drained result) :
    Delivered past { s with
      handing := rest, readyResponses :=
    s.readyResponses ++ (result.toOption.bind id).toList } := by
  have taken : s.takenBy op = (result.toOption.bind id).toList := by
    unfold takenBy
    rw [stageAt_of found, stands]
    cases result <;> rfl
  have handed : s.handed = (result.toOption.bind id).toList ++ rest.flatMap s.takenBy := by
    unfold StreamSender.handed
    rw [first, List.flatMap_cons, taken]
  refine ⟨delivered.increasing, delivered.before, delivered.oldest, delivered.received, ?_,
    delivered.outcomes, delivered.remembered⟩
  have before := delivered.delivery
  rw [handed] at before
  rw [← before]
  simp only [List.append_assoc]
  rfl

theorem Delivered.act (act : Act lax m m' effects) (placed : Placed m) (windowed : Windowed m)
    (waiting : Waiting m.sender) (delivered : Delivered past m.sender) :
    Delivered (past ++ effects) m'.sender := by
  have still {t : StreamSender ρ} (delivered : Delivered past t) : Delivered (past ++ []) t := by
    rwa [List.append_nil]
  have off {s : StreamSender ρ} {op : StreamOpId} (placed : Placed ⟨s, some op⟩) : op ∉ s.handing :=
    fun there => ((placed.drained op).1 there).2 rfl
  have removed {t : StreamSender ρ} {gone : Prop} [Decidable gone] (call : CallIndex)
      (delivered : Delivered past t) :
      Delivered (past ++ if gone then [.removed call] else []) t := by
    refine delivered.silent fun effect member => ?_
    split_ifs at member
    · rw [List.mem_singleton.1 member]
      exact ⟨rfl, rfl⟩
    · cases member
  cases act with
  | begin s kind aborted =>
    have stages := stageAt_begin s kind aborted
    refine still (delivered.same (fun _ _ => rfl) (fun _ => id)
      (fun op oldest wait stands => ?_) rfl rfl ?_ id)
    · rw [stages] at stands
      split_ifs at stands
      · cases stands
      · exact ⟨wait, stands⟩
    · refine handed_congr rfl fun op member => ?_
      rw [stages, if_neg]
      rintro rfl
      have drained := ((placed.drained _).1 member).1
      dsimp only at drained
      rw [placeAt_outside] at drained
      cases drained
  | pick s op o found loose => exact still delivered
  | pass s op rest o result first found stands => exact still (delivered.pass first found stands)
  | take s t op o oldest idle found drains settled =>
    exact delivered.take placed windowed found drains settled
  | wait s t op o oldest idle found drains unsettled =>
    exact still (delivered.wait placed windowed found drains)
  | finish s t op o result found holds empty =>
    exact still (delivered.finish placed found holds empty)
  | lock s op o found allowed =>
    have gone := delivered.goTo found (off placed) .locked nofun
    exact still (gone.same (fun _ _ => rfl) (fun _ => id)
      (fun _ _ wait stands => ⟨wait, stands⟩) rfl rfl rfl id)
  | put s op o stage found allowed stands awaits =>
    refine still (delivered.goTo found (off placed) stage ?_)
    obtain stands | stands := stands <;> (rw [stands]; nofun)
  | flushed s op o failure found window ready =>
    refine (delivered.goTo found (off placed) (.settled failure) nofun).silent fun effect member =>
      ?_
    rw [List.mem_singleton.1 member]
    exact ⟨rfl, rfl⟩
  | push s op o params found sends room =>
    refine (delivered.push placed waiting found params).silent fun effect member => ?_
    rw [List.mem_singleton.1 member]
    exact ⟨rfl, rfl⟩
  | deliver s hand call rest outcome effect first settled delivers kept =>
    exact delivered.deliver first settled delivers fun other error thrown =>
      absurd thrown (kept other error)
  | throw s hand call rest error first settled =>
    have before := delivered.remember placed error
    have calls : (s.rememberError error).calls = s.calls := by
      unfold rememberError
      split
      · rfl
      · rw [notify_only]
    have ready : (s.rememberError error).readyResponses = call :: rest := by
      unfold rememberError
      split
      · exact first
      · rw [notify_only]
        exact first
    rw [rememberError_comm]
    exact before.deliver ready ((outcome_congr calls call).trans settled) (.inr rfl)
      fun _ _ _ => rememberError_remembers s error
  | skip s hand call rest first unsettled =>
    have ready : call ∈ drainedCalls past := by
      rw [← delivered.delivery]
      dsimp only
      rw [first]
      simp
    exact absurd unsettled (delivered.before call ready).1
  | remember s hand error => exact still (delivered.remember placed error)
  | note s hand op o failure found =>
    refine still (delivered.kept placed rfl rfl rfl rfl rfl (fun other => .inl ?_) id)
    refine stageAt_setOp _ (fun o' found' => ?_) other
    obtain rfl : o = o' := Option.some.inj (found.symm.trans found')
    rfl
  | grant s op o call byteLength found reserves stands room fits =>
    rw [grant_released]
    have granted : Delivered past (s.setCall call fun c => { c with
        byteLength := byteLength, bytesReserved := true, ownsEncoding := false, ticket := false
        admission := c.admission.resolve }) := delivered.setCall _ fun _ => rfl
    exact still (Delivered.notify (granted.same (fun _ _ => rfl) (fun _ => id)
      (fun _ _ wait stands => ⟨wait, stands⟩) rfl rfl rfl id)
        (placed.same (fun _ => rfl) rfl rfl rfl rfl))
  | release s hand call =>
    exact still (Delivered.notify (delivered.setCall _ fun _ => rfl)
      (placed.same (fun _ => rfl) rfl rfl rfl rfl))
  | own s hand call => exact still (delivered.setCall _ fun _ => rfl)
  | reject s hand call error =>
    exact still (Delivered.notify (delivered.setCall _ fun _ => rfl)
      (placed.same (fun _ => rfl) rfl rfl rfl rfl))
  | settle s hand call c outcome decision found attached unsettled released decides admits =>
    refine still (delivered.settle placed ?_ fun _ => id)
    unfold StreamSender.outcome
    rw [found]
    exact unsettled
  | abandon s hand call c outcome error found attached unsettled released unreserved bounded =>
    refine removed call (delivered.settle placed ?_ fun _ => List.mem_of_mem_erase)
    unfold StreamSender.outcome
    rw [found]
    exact unsettled
  | attach s op rest o call first found stands =>
    have attached : Delivered past (s.setCall call fun c => { c with attached := true }) :=
      delivered.setCall _ fun _ => rfl
    exact still (Delivered.notify (attached.same (fun _ _ => rfl) (fun _ => id)
      (fun _ _ wait stands => ⟨wait, stands⟩) rfl rfl rfl id)
      (placed.unstack found first (by rw [stands]; rfl) (fun _ => rfl) rfl rfl rfl rfl))
  | drop s op rest o call first found stands released =>
    exact removed call (delivered.same (fun _ _ => rfl) (fun _ => List.mem_of_mem_erase)
      (fun _ _ wait stands => ⟨wait, stands⟩) rfl rfl rfl id)
  | cancel s hand reason =>
    unfold cancelStream
    split_ifs
    · exact still delivered
    · exact still (Delivered.notify (delivered.same (fun _ _ => rfl) (fun _ => id)
        (fun _ _ wait stands => ⟨wait, stands⟩) rfl rfl rfl id)
          (placed.same (fun _ => rfl) rfl rfl rfl rfl))
  | signalAborts s hand =>
    exact still (Delivered.notify (delivered.same (fun _ _ => rfl) (fun _ => id)
      (fun _ _ wait stands => ⟨wait, stands⟩) rfl rfl rfl id)
        (placed.same (fun _ => rfl) rfl rfl rfl rfl))
  | waitAborts s hand op reason =>
    refine still (delivered.kept placed rfl rfl rfl rfl rfl (fun other => ?_) id)
    obtain same | ⟨oldest, before, after⟩ := stageAt_waitAborts s op reason other
    · exact .inl same
    · exact .inr ⟨oldest, .rejected reason, before, nofun, after⟩

/-! ## How a call leaves the window -/

/-- Every call is in the window, or has left it once; one that was admitted left it through the
drain. -/
structure Left (past : List (StreamEffect ρ)) (s : StreamSender ρ) : Prop where
  sent : ∀ call, .callFn call ∈ past → call < s.calls.length
  left : ∀ call < s.calls.length, call ∈ s.inFlightCalls ∨ .removed call ∈ past ∨
    .drained call ∈ past
  removed : ∀ call, .removed call ∈ past → call < s.calls.length ∧ call ∉ s.inFlightCalls ∧
    ∀ c, s.calls[call]? = some c → c.attached = false ∨ ∃ error, c.admission = .rejected error
  once : (past.filterMap StreamEffect.removedCall).Nodup
  admitted : ∀ (call : CallIndex) (c : InFlightCall ρ), s.calls[call]? = some c →
    c.admission = .resolved →
    c.bytesReserved = true ∨ s.options.maxInFlightBytes = none

theorem Left.same (left : Left past s) (calls : s'.calls = s.calls)
    (window : s'.inFlightCalls = s.inFlightCalls) (options : s'.options = s.options) :
    Left past s' := by
  obtain ⟨sent, out, removed, once, admitted⟩ := left
  constructor
  · rwa [calls]
  · rwa [calls, window]
  · rwa [calls, window]
  · exact once
  · rwa [calls, options]

theorem Left.notify (left : Left past s) : Left past s.notifyStateChange := by
  refine left.same ?_ ?_ ?_
  all_goals rw [notify_only]

theorem Left.remember (left : Left past s) (error : Thrown) :
    Left past (s.rememberError error) := by
  unfold rememberError
  split
  · exact left
  · exact Left.notify (left.same rfl rfl rfl)

/-- Effects that move no call. -/
theorem Left.silent (left : Left past s)
    (silent : ∀ effect ∈ effects, effect.sentCall = none ∧ effect.removedCall = none) :
    Left (past ++ effects) s where
  sent call member := by
    obtain member | last := List.mem_append.1 member
    · exact left.sent call member
    · cases (silent _ last).1
  left call inside := by
    obtain there | gone | gone := left.left call inside
    · exact .inl there
    · exact .inr (.inl (List.mem_append_left _ gone))
    · exact .inr (.inr (List.mem_append_left _ gone))
  removed call member := by
    obtain member | last := List.mem_append.1 member
    · exact left.removed call member
    · cases (silent _ last).2
  once := by
    have none' : effects.filterMap StreamEffect.removedCall = [] :=
      List.filterMap_eq_nil_iff.2 fun effect member => (silent effect member).2
    rw [List.filterMap_append, none', List.append_nil]
    exact left.once
  admitted := left.admitted

/-- A change of a call that stays where it is. -/
theorem Left.setCall (left : Left past s) (f : InFlightCall ρ → InFlightCall ρ)
    (attached : ∀ c, (f c).attached = c.attached)
    (rejected : ∀ c error, c.admission = .rejected error → (f c).admission = .rejected error)
    (admitted : ∀ c, s.calls[call]? = some c → (f c).admission = .resolved →
      (f c).bytesReserved = true ∨ s.options.maxInFlightBytes = none) :
      Left past (s.setCall call f) where
  sent other member := by
    have inside := left.sent other member
    rwa [StreamSender.setCall, List.length_modify]
  left other inside := by
    rw [StreamSender.setCall, List.length_modify] at inside
    exact left.left other inside
  removed other member := by
    obtain ⟨inside, out, kept⟩ := left.removed other member
    refine ⟨by rwa [StreamSender.setCall, List.length_modify], out, fun c found => ?_⟩
    obtain ⟨rfl, c', found', rfl⟩ | ⟨-, there⟩ := Heap.of_modify found
    · obtain open' | ⟨error, refused⟩ := kept c' found'
      · exact .inl ((attached c').trans open')
      · exact .inr ⟨error, rejected c' error refused⟩
    · exact kept c there
  once := left.once
  admitted other c found resolved := by
    obtain ⟨rfl, c', found', rfl⟩ | ⟨-, there⟩ := Heap.of_modify found
    · exact admitted c' found' resolved
    · exact left.admitted other c there resolved

theorem resolved_of_reject {error : Thrown} {admission : Admission}
    (resolved : admission.reject error = .resolved) :
    admission = .resolved := by
  cases admission with
  | pending | rejected => cases resolved
  | resolved => rfl

theorem mem_removed (member : call ∈ past.filterMap StreamEffect.removedCall) :
    .removed call ∈ past := by
  obtain ⟨effect, there, removes⟩ := List.mem_filterMap.1 member
  cases effect with
  | removed other =>
    cases removes
    exact there
  | callFn | drained | onResponse | onError | discarded | thrown | flushed => cases removes

/-- A call is removed from the window. -/
theorem Left.remove (left : Left past s) (distinct : s.inFlightCalls.Nodup)
    (there : call ∈ s.inFlightCalls) (inside : call < s.calls.length)
    (gone : ∀ c, s.calls[call]? = some c → c.attached = false ∨ ∃ error, c.admission =
      .rejected error) {b : ℤ}
    {rest : List StreamOpId} :
    Left (past ++ [.removed call])
      { s with inFlightBytes := b, callStack := rest, inFlightCalls := s.inFlightCalls.erase call }
        where
  sent other member := by
    obtain member | last := List.mem_append.1 member
    · exact left.sent other member
    · cases List.mem_singleton.1 last
  left other inside := by
    obtain there' | out | out := left.left other inside
    · by_cases same : other = call
      · subst same
        exact .inr (.inl (List.mem_append_right _ (List.mem_singleton.2 rfl)))
      · exact .inl ((List.mem_erase_of_ne same).2 there')
    · exact .inr (.inl (List.mem_append_left _ out))
    · exact .inr (.inr (List.mem_append_left _ out))
  removed other member := by
    obtain member | last := List.mem_append.1 member
    · obtain ⟨inside, out, kept⟩ := left.removed other member
      exact ⟨inside, fun back => out (List.mem_of_mem_erase back), kept⟩
    · cases List.mem_singleton.1 last
      exact ⟨inside, fun back => ((distinct.mem_erase_iff).1 back).1 rfl, gone⟩
  once := by
    have last : [StreamEffect.removed (ρ := ρ) call].filterMap StreamEffect.removedCall = [call] :=
      rfl
    rw [List.filterMap_append, last]
    refine List.Nodup.append left.once (List.nodup_singleton call) fun other earlier same => ?_
    obtain rfl : other = call := List.mem_singleton.1 same
    exact (left.removed other (mem_removed earlier)).2.1 there
  admitted := left.admitted

theorem Left.take (left : Left past s) (calls : s'.calls = s.calls)
    (window : s'.inFlightCalls = s.inFlightCalls.erase oldest) (options : s'.options = s.options) :
    Left (past ++ [.drained oldest]) s' where
  sent other member := by
    rw [calls]
    obtain member | last := List.mem_append.1 member
    · exact left.sent other member
    · cases List.mem_singleton.1 last
  left other inside := by
    rw [calls] at inside
    rw [window]
    obtain there | out | out := left.left other inside
    · by_cases same : other = oldest
      · subst same
        exact .inr (.inr (List.mem_append_right _ (List.mem_singleton.2 rfl)))
      · exact .inl ((List.mem_erase_of_ne same).2 there)
    · exact .inr (.inl (List.mem_append_left _ out))
    · exact .inr (.inr (List.mem_append_left _ out))
  removed other member := by
    rw [calls, window]
    obtain member | last := List.mem_append.1 member
    · obtain ⟨inside, out, kept⟩ := left.removed other member
      exact ⟨inside, fun back => out (List.mem_of_mem_erase back), kept⟩
    · cases List.mem_singleton.1 last
  once := by
    have nothing : [StreamEffect.drained (ρ := ρ) oldest].filterMap StreamEffect.removedCall = [] :=
      rfl
    rw [List.filterMap_append, nothing, List.append_nil]
    exact left.once
  admitted := by
    rw [calls, options]
    exact left.admitted

theorem Left.push (left : Left past s) (params : StreamParams) :
    Left (past ++ [.callFn s.calls.length]) (s.push op params).1 where
  sent other member := by
    have more : (s.push op params).1.calls.length = s.calls.length + 1 := List.length_append
    rw [more]
    obtain member | last := List.mem_append.1 member
    · exact (left.sent other member).trans (Nat.lt_succ_self _)
    · cases List.mem_singleton.1 last
      exact Nat.lt_succ_self _
  left other inside := by
    have more : (s.push op params).1.calls.length = s.calls.length + 1 := List.length_append
    rw [more] at inside
    obtain before | last := Nat.lt_succ_iff_lt_or_eq.1 inside
    · obtain there | out | out := left.left other before
      · exact .inl (List.mem_append_left _ there)
      · exact .inr (.inl (List.mem_append_left _ out))
      · exact .inr (.inr (List.mem_append_left _ out))
    · exact .inl (List.mem_append_right _ (List.mem_singleton.2 last))
  removed other member := by
    obtain member | last := List.mem_append.1 member
    · obtain ⟨inside, out, kept⟩ := left.removed other member
      have more : (s.push op params).1.calls.length = s.calls.length + 1 := List.length_append
      refine ⟨more ▸ inside.trans (Nat.lt_succ_self _), fun back => ?_, fun c found => ?_⟩
      · obtain back | last := List.mem_append.1 back
        · exact out back
        · exact absurd (List.mem_singleton.1 last) (Nat.ne_of_lt inside)
      · obtain there | ⟨last, -⟩ := Heap.of_append found
        · exact kept c there
        · exact absurd last (Nat.ne_of_lt inside)
    · cases List.mem_singleton.1 last
  once := by
    have nothing : [StreamEffect.callFn (ρ := ρ) s.calls.length].filterMap
        StreamEffect.removedCall = [] := rfl
    rw [List.filterMap_append, nothing, List.append_nil]
    exact left.once
  admitted other c found resolved := by
    obtain there | ⟨-, rfl⟩ := Heap.of_append found
    · exact left.admitted other c there resolved
    · dsimp only at resolved ⊢
      split_ifs at resolved with reserved
      rw [Bool.or_eq_true, Bool.not_eq_true', Option.isSome_eq_false_iff, Option.isNone_iff_eq_none]
        at reserved
      exact reserved

/-- The `callFn` of a call in the window returns. -/
theorem Left.attached (left : Left past s) (there : call ∈ s.inFlightCalls)
    {rest : List StreamOpId} :
    Left past { s.setCall call fun c => { c with attached := true } with callStack := rest } where
  sent other member := by
    have inside := left.sent other member
    rwa [StreamSender.setCall, List.length_modify]
  left other inside := by
    rw [StreamSender.setCall, List.length_modify] at inside
    exact left.left other inside
  removed other member := by
    obtain ⟨inside, out, kept⟩ := left.removed other member
    refine ⟨by rwa [StreamSender.setCall, List.length_modify], out, fun c found => ?_⟩
    obtain ⟨rfl, -⟩ | ⟨-, before⟩ := Heap.of_modify found
    · exact absurd there out
    · exact kept c before
  once := left.once
  admitted other c found resolved := by
    obtain ⟨rfl, c', found', rfl⟩ | ⟨-, before⟩ := Heap.of_modify found
    · exact left.admitted other c' found' resolved
    · exact left.admitted other c before resolved

theorem Left.act (act : Act lax m m' effects) (windowed : Windowed m) (left : Left past m.sender) :
    Left (past ++ effects) m'.sender := by
  have still {t : StreamSender ρ} (left : Left past t) : Left (past ++ []) t := by
    rwa [List.append_nil]
  have quiet {t : StreamSender ρ} {effect : StreamEffect ρ} (left : Left past t)
      (sent : effect.sentCall = none)
      (removed : effect.removedCall = none) : Left (past ++ [effect]) t :=
    left.silent fun other member => by
      rw [List.mem_singleton.1 member]
      exact ⟨sent, removed⟩
  cases act with
  | begin | pick | pass | lock | put | skip | note
  | waitAborts => exact still (left.same rfl rfl rfl)
  | take s t op o oldest idle found drains settled =>
    obtain ⟨-, calls, window, -, options⟩ := HoldsDrain.same drains.holds
    refine left.take calls ?_ options
    rw [← window]
    rfl
  | wait s t op o oldest idle found drains unsettled =>
    obtain ⟨-, calls, window, -, options⟩ := HoldsDrain.same drains.holds
    exact still (left.same calls window options)
  | finish s t op o result found holds empty =>
    obtain ⟨-, calls, window, -, options⟩ := HoldsDrain.same holds
    exact still (left.same calls window options)
  | flushed s op o failure found window ready => exact quiet (left.same rfl rfl rfl) rfl rfl
  | push s op o params found sends room => exact left.push params
  | deliver s hand call rest outcome effect first settled delivers kept =>
    refine quiet (left.same rfl rfl rfl) ?_ ?_ <;> cases outcome <;> obtain rfl | rfl :=
      delivers <;> rfl
  | throw s hand call rest error first settled =>
    have ready : Left past { s with readyResponses := rest } := left.same rfl rfl rfl
    exact quiet (ready.remember error) rfl rfl
  | remember s hand error => exact still (left.remember error)
  | grant s op o call byteLength found reserves stands room fits =>
    rw [grant_released]
    have granted : Left past (s.setCall call fun c => { c with
        byteLength := byteLength, bytesReserved := true, ownsEncoding := false, ticket := false
        admission := c.admission.resolve }) :=
      left.setCall _ (fun _ => rfl) (fun _ _ rejected => by rw [rejected]; rfl) fun _ _ _ =>
        .inl rfl
    exact still (Left.notify (granted.same rfl rfl rfl))
  | release s hand call =>
    exact still (Left.notify (left.setCall _ (fun _ => rfl) (fun _ _ => id) fun c found =>
      left.admitted call c found))
  | own s hand call =>
    exact still (left.setCall _ (fun _ => rfl) (fun _ _ => id) fun c found =>
      left.admitted call c found)
  | reject s hand call error =>
    refine still (Left.notify (left.setCall _ (fun _ => rfl)
      (fun _ _ rejected => by rw [rejected]; rfl) ?_))
    exact fun c found resolved => left.admitted call c found (resolved_of_reject resolved)
  | settle s hand call c outcome decision found attached unsettled released decides admits =>
    refine still (Left.notify (left.setCall _ (fun _ => rfl)
      (fun _ _ rejected => ?_) fun c' found' resolved => ?_))
    · obtain ⟨rfl, -⟩ | ⟨error, rfl⟩ := admits <;> (rw [rejected]; rfl)
    · obtain rfl : c = c' := Option.some.inj (found.symm.trans found')
      obtain ⟨rfl, admits⟩ | ⟨error, rfl⟩ := admits
      · exact admits
      · exact left.admitted call c found (resolved_of_reject resolved)
  | abandon s hand call c outcome error found attached unsettled released unreserved bounded =>
    have settled : Left past (s.setCall call fun c => { c with
        settled := some outcome, admission := c.admission.reject error }) :=
      left.setCall _ (fun _ => rfl) (fun _ _ rejected => by rw [rejected]; rfl)
        fun c found resolved => left.admitted call c found (resolved_of_reject resolved)
    by_cases there : call ∈ s.inFlightCalls
    · rw [if_pos there]
      have inside : call < (s.setCall call fun c => { c with
          settled := some outcome, admission := c.admission.reject error }).calls.length := by
        rw [StreamSender.setCall, List.length_modify]
        exact windowed.inside call there
      refine Left.notify (settled.remove windowed.nodup there inside fun c' found' => .inr ?_)
      obtain ⟨-, c'', found'', rfl⟩ | ⟨other, -⟩ := Heap.of_modify found'
      · obtain rfl : c = c'' := Option.some.inj (found.symm.trans found'')
        cases decided : c.admission with
        | pending => exact ⟨error, rfl⟩
        | rejected before => exact ⟨before, rfl⟩
        | resolved =>
          obtain reserved | unbounded := left.admitted call c found decided
          · cases unreserved.symm.trans reserved
          · exact absurd unbounded bounded
      · exact absurd rfl other
    · rw [if_neg there]
      have window : s.inFlightCalls.erase call = s.inFlightCalls := List.erase_of_not_mem there
      rw [window]
      exact still (Left.notify (settled.same rfl rfl rfl))
  | attach s op rest o call first found stands =>
    obtain ⟨there, -⟩ := windowed.calling op call (by rw [stageAt_of found, stands]) (by simp)
    refine still (Left.notify (Left.attached left there))
  | drop s op rest o call first found stands released =>
    obtain ⟨there, c, found', open'⟩ :=
      windowed.calling op call (by rw [stageAt_of found, stands]) (by simp)
    rw [if_pos there]
    refine left.remove windowed.nodup there (windowed.inside call there) fun c' found'' => .inl ?_
    obtain rfl : c = c' := Option.some.inj (found'.symm.trans found'')
    exact open'
  | cancel s hand reason =>
    unfold cancelStream
    split_ifs
    · exact still left
    · exact still (Left.notify (left.same rfl rfl rfl))
  | signalAborts s hand => exact still (Left.notify (left.same rfl rfl rfl))

/-! ## What a flush waits for -/

/-- When a flush is over, every call that was sent before has left the window. -/
def FlushesAll (before : List (StreamEffect ρ)) (effect : StreamEffect ρ) : Prop :=
  ∀ op, effect = .flushed op → ∀ call, .callFn call ∈ before → .drained call ∈ before ∨
    .removed call ∈ before

theorem flushesAll_act (act : Act lax m m' effects) (left : Left past m.sender)
    (follows : Machine.Follows FlushesAll past) : Machine.Follows FlushesAll (past ++ effects) := by
  refine follows.append fun before effect after same op flushed call sent => ?_
  subst flushed
  have member : .flushed op ∈ effects := same ▸ List.mem_append_right _ List.mem_cons_self
  cases act with
  | flushed s op' o failure found window ready =>
    have first : before = [] := by
      cases before with
      | nil => rfl
      | cons _ rest =>
        have short := congrArg List.length same
        simp at short
    subst first
    rw [List.append_nil] at sent ⊢
    obtain there | gone | gone := left.left call (left.sent call sent)
    · dsimp only at there
      rw [window] at there
      cases there
    · exact .inr gone
    · exact .inl gone
  | deliver s hand call' rest outcome effect' first settled delivers kept =>
    cases outcome <;> obtain rfl | rfl := delivers <;> simp at member
  | abandon | drop =>
    split_ifs at member <;> simp at member
  | begin | pick | pass | wait | finish | lock | put | skip | remember | note | grant | release
  | own | settle | attach
  | reject | cancel | signalAborts | waitAborts => cases member
  | take | push | throw => simp at member

/-! ## What is left when a flush is over -/

/-- If a flush is over, the window is empty and nothing is ready. -/
def Emptied (result : StreamSender ρ × List (StreamEffect ρ)) : Prop :=
  ∀ op, .flushed op ∈ result.2 → result.1.inFlightCalls = [] ∧ result.1.readyResponses = []

theorem emptied_deliver (s : StreamSender ρ) (op : StreamOpId) :
    Emptied (s.deliverReadyResponses op) := by
  intro other flushed
  unfold deliverReadyResponses deliverSettled at flushed
  split at flushed
  · split at flushed
    · cases flushed
    all_goals split_ifs at flushed <;> simp at flushed
  · cases flushed

theorem emptied_flushLoop (s : StreamSender ρ) (op : StreamOpId) (o : StreamOp) :
    Emptied (s.flushLoop op o) := by
  unfold flushLoop
  split_ifs with ready window
  · exact emptied_deliver s op
  · simp [Emptied]
  · intro _ _
    exact ⟨not_not.mp window, not_not.mp ready⟩
  · intro _ _
    exact ⟨not_not.mp window, not_not.mp ready⟩

theorem emptied_fails (s : StreamSender ρ) (op : StreamOpId) (o : StreamOp) (error : Thrown) :
    Emptied (s.fails op o error) := by
  unfold fails
  split
  · exact emptied_flushLoop _ op _
  · exact emptied_flushLoop _ op _
  all_goals simp [Emptied, settleOp]

theorem emptied_goOn (s : StreamSender ρ) (op : StreamOpId) (o : StreamOp) :
    Emptied (s.goOn op o) := by
  unfold goOn
  split
  · split_ifs
    · simp [Emptied, settleOp]
    · unfold sendLoop
      split
      · simp [Emptied, settleOp]
      · split_ifs <;> simp [Emptied, push]
  · unfold waitLoop
    split
    · simp [Emptied, settleOp]
    · split_ifs <;> simp [Emptied, settleOp]
  · exact emptied_flushLoop s op o
  · exact emptied_flushLoop s op o
  all_goals simp [Emptied]

theorem emptied_reserveLoop (s : StreamSender ρ) (op : StreamOpId) (call : CallIndex)
    (byteLength : ℤ) :
    Emptied (s.reserveLoop op call byteLength) := by
  unfold reserveLoop
  split_ifs
  · simp [Emptied]
  · split <;> simp [Emptied, endReservation, settleOp]

theorem emptied_takeSettledHead (s : StreamSender ρ) (op : StreamOpId) (o : StreamOp)
    (oldest : CallIndex) :
    Emptied (s.takeSettledHead op o oldest) := by
  unfold takeSettledHead
  split
  · simp [Emptied]
  · split
    · simp [Emptied]
    · split <;> simp [Emptied]

theorem emptied_resume (s : StreamSender ρ) (op : StreamOpId) (o : StreamOp) :
    Emptied (s.resume op o) := by
  have quiet : Emptied (s, ([] : List (StreamEffect ρ))) := by simp [Emptied]
  unfold resume
  split
  · unfold prepared
    split
    · split_ifs
      · exact quiet
      · split <;> simp [Emptied, settleOp]
    · split_ifs
      · exact quiet
      · split <;> simp [Emptied, endReservation, settleOp]
    all_goals exact quiet
  · split
    · exact emptied_reserveLoop s op _ _
    · exact quiet
  · exact emptied_takeSettledHead s op o _
  · simp [Emptied]
  · exact emptied_deliver s op
  · exact emptied_fails s op o _
  · exact emptied_goOn s op o
  · split
    · split
      · exact emptied_deliver s op
      · simp [Emptied, settleOp]
      · exact quiet
    · exact quiet
  all_goals exact quiet

theorem emptied_handOver (s : StreamSender ρ) : Emptied s.handOver := by
  have quiet : Emptied (s, ([] : List (StreamEffect ρ))) := by simp [Emptied]
  unfold handOver
  split
  · split
    · split
      · unfold goPastLock
        dsimp only
        split
        · split
          · simp [Emptied, endReservation, settleOp]
          · exact emptied_reserveLoop _ _ _ _
        all_goals exact emptied_deliver _ _
      · unfold failPastLock
        split
        · simp [Emptied, endReservation, settleOp]
        all_goals exact emptied_fails _ _ _ _
      · exact quiet
    · exact quiet
  · exact quiet

theorem emptied_callSettles (s : StreamSender ρ) (call : CallIndex) (c : InFlightCall ρ)
    (outcome : StreamCallSettled ρ) : Emptied (s.callSettles call c outcome) := by
  have removes (s : StreamSender ρ) (reserved : Bool) (op : StreamOpId) :
      .flushed op ∉ (s.abandonUnadmitted call reserved).2 := by
    unfold abandonUnadmitted
    split_ifs <;> simp
  intro op flushed
  unfold callSettles at flushed
  split_ifs at flushed
  · cases outcome with
    | ok value =>
      dsimp only at flushed
      split_ifs at flushed
      · exact absurd flushed (removes _ _ op)
      · cases flushed
    | error error => exact absurd flushed (removes _ _ op)
  · cases flushed

theorem emptied_step (s : StreamSender ρ) (event : StreamEvent ρ) : Emptied (s.step event) := by
  have quiet : Emptied (s, ([] : List (StreamEffect ρ))) := by simp [Emptied]
  have idly {result : StreamSender ρ × List (StreamEffect ρ)} (emptied : Emptied result) :
      Emptied (s.idly result) := by
    unfold StreamSender.idly
    split_ifs
    · exact emptied
    · exact quiet
  have atOp {op : StreamOpId} {act : StreamOp → StreamSender ρ × List (StreamEffect ρ)}
      (emptied : ∀ o, Emptied (act o)) : Emptied (s.atOp op act) := by
    unfold StreamSender.atOp
    split
    · exact emptied _
    · exact quiet
  have atCall {call : CallIndex} {act : InFlightCall ρ → StreamSender ρ × List (StreamEffect ρ)}
      (emptied : ∀ c, Emptied (act c)) : Emptied (s.atCall call act) := by
    unfold StreamSender.atCall
    split
    · exact emptied _
    · exact quiet
  have atCallFn {act : StreamOpId → List StreamOpId → CallIndex →
      StreamSender ρ × List (StreamEffect ρ)}
      (emptied : ∀ op rest call, Emptied (act op rest call)) : Emptied (s.atCallFn act) := by
    unfold StreamSender.atCallFn
    split
    · split
      · split
        · exact emptied _ _ _
        · exact quiet
      · exact quiet
    · exact quiet
  cases event with
  | send params =>
    unfold step begin startSend sendLoop
    dsimp only
    split
    · simp [Emptied, settleOp]
    · split_ifs <;> simp [Emptied, push]
  | waitForCapacity byteLength aborted =>
    unfold step begin startWait waitLoop
    dsimp only
    split
    · simp [Emptied, settleOp]
    · split_ifs <;> simp [Emptied, settleOp]
  | flush => exact emptied_flushLoop _ _ _
  | cancel reason => simp [step, Emptied]
  | cancelFlush => exact emptied_flushLoop _ _ _
  | prepare call =>
    apply atCall
    intro c
    unfold begin startPrepare
    dsimp only
    split_ifs <;> simp [Emptied, settleOp]
  | reserveBytes call byteLength =>
    apply atCall
    intro c
    unfold begin startReservation
    dsimp only
    split
    · simp [Emptied, endReservation, settleOp]
    · split_ifs <;> simp [Emptied, endReservation, settleOp]
  | callFnReturns =>
    apply atCallFn
    intro op rest call
    unfold callFnReturns
    dsimp only
    split_ifs <;> simp [Emptied, settleOp]
  | callFnThrows error =>
    apply atCallFn
    intro op rest call
    unfold callFnThrows
    dsimp only
    split_ifs <;> simp [Emptied]
  | callSettles call outcome => exact idly (atCall fun c => emptied_callSettles s call c outcome)
  | callbackSettles op thrown =>
    refine idly (atOp fun o => ?_)
    unfold callbackSettles
    split
    · split <;> simp [Emptied]
    · exact quiet
  | signalAborts | waitAborts op reason => simp [step, Emptied]
  | lockStarts =>
    apply idly
    unfold lockStarts
    split
    · split
      · dsimp only
        split
        · exact emptied_takeSettledHead _ _ _ _
        · simp [Emptied]
      · exact quiet
    · exact quiet
  | handOver => exact idly (emptied_handOver s)
  | resume op => exact idly (atOp fun o => emptied_resume s op o)
/-! ## Runs -/

structure Outcomes (past : List (StreamEffect ρ)) (m : StreamMidway ρ) : Prop where
  sound : Sound m
  delivered : Delivered past m.sender
  left : Left past m.sender
  flushes : Machine.Follows FlushesAll past

theorem outcomes_initial (options : StreamSenderOptions) :
    Outcomes [] ⟨(initial options : StreamSender ρ), none⟩ where
  sound := sound_initial options
  delivered := by constructor <;> simp [initial, drainedCalls, startedCalls, handed, stageAt]
  left := by constructor <;> simp [initial]
  flushes := Machine.follows_nil

theorem outcomes_run (options : StreamSenderOptions) (events : List (StreamEvent ρ)) :
    Outcomes (Machine.shown step (initial options) events)
      ⟨Machine.final step (initial options) events, none⟩ := by
  have always : Machine.Always step (fun _ _ => True) (initial options : StreamSender ρ) events :=
    Machine.always_of_forall (fun _ _ => trivial) events
  refine always.history (P := fun past s => Outcomes past ⟨s, none⟩)
    (fun past s event _ holds => ?_) (outcomes_initial options)
  refine (acts_step s event).history (fun past m m' effects act holds => ?_) holds
  exact ⟨holds.sound.act act, Delivered.act act holds.sound.placed holds.sound.windowed
    holds.sound.waiting holds.delivered,
    Left.act act holds.sound.windowed holds.left, flushesAll_act act holds.left holds.flushes⟩

/-- The drain takes the calls in order, each at most once, and so their outcomes are delivered; what
is thrown fails the stream.  A call that was admitted and has settled is in the window, or the drain
has taken it.  When a flush is over, the window is empty and nothing is ready. -/
theorem outcomes_delivered (options : StreamSenderOptions) (events : List (StreamEvent ρ)) :
    (drainedCalls (Machine.shown step (initial options) events)).Pairwise (· < ·) ∧
      (Machine.final step (initial options) events).totalReceived =
        (drainedCalls (Machine.shown step (initial options) events)).length ∧
      startedCalls (Machine.shown step (initial options) events) ++
          (Machine.final step (initial options) events).readyResponses ++
          (Machine.final step (initial options) events).handed =
        drainedCalls (Machine.shown step (initial options) events) ∧
      (∀ effect ∈ Machine.shown step (initial options) events, ∀ call, effect.startedCall =
        some call →
        ∃ outcome, (Machine.final step (initial options) events).outcome call = some outcome ∧
          outcome.Delivers call effect) ∧
      (∀ call error, .thrown call error ∈ Machine.shown step (initial options) events →
        (Machine.final step (initial options) events).firstError ≠ none) ∧
      (∀ (call : CallIndex) (c : InFlightCall ρ),
        (Machine.final step (initial options) events).calls[call]? = some c → c.settled ≠ none →
        c.admission = .resolved →
        .removed call ∉ Machine.shown step (initial options) events ∧
          (call ∈ (Machine.final step (initial options) events).inFlightCalls ↔
            .drained call ∉ Machine.shown step (initial options) events)) ∧
      Machine.Follows FlushesAll (Machine.shown step (initial options) events) ∧
      ∀ event, Emptied ((Machine.final step (initial options) events).step event) := by
  have holds := outcomes_run options events
  refine ⟨holds.delivered.increasing, holds.delivered.received, holds.delivered.delivery,
    holds.delivered.outcomes,
    holds.delivered.remembered, fun call c found settled resolved => ?_, holds.flushes,
      emptied_step _⟩
  have attached := (holds.sound.windowed.call call c found).attached settled
  have kept : .removed call ∉ Machine.shown step (initial options) events := by
    intro gone
    obtain ⟨-, -, why⟩ := holds.left.removed call gone
    obtain open' | ⟨error, rejected⟩ := why c found
    · cases open'.symm.trans attached
    · cases resolved.symm.trans rejected
  refine ⟨kept, fun there drained => ?_, fun out => ?_⟩
  · have taken : call ∈ drainedCalls (Machine.shown step (initial options) events) :=
      List.mem_filterMap.2 ⟨_, drained, rfl⟩
    exact absurd ((holds.delivered.before call taken).2.1 call there) (Nat.lt_irrefl call)
  · have inside : call < (Machine.final step (initial options) events).calls.length :=
      (List.getElem?_eq_some_iff.1 found).1
    obtain there | gone | gone := holds.left.left call inside
    · exact there
    · exact absurd gone kept
    · exact absurd gone out

/-- Two calls fail, and there is no `onError`: the second error is thrown to the flush, and the
stream remembers the first one only. -/
theorem outcome_not_remembered :
    Machine.shown step (initial boundedOptions : StreamSender ℕ)
        [.send (.bytes 1), .callFnReturns, .send (.bytes 1), .callFnReturns,
          .callSettles 0 (.error (sessionError "one")),
          .callSettles 1 (.error (sessionError "two")), .flush, .lockStarts, .handOver, .resume 2,
            .lockStarts,
          .handOver, .resume 2] =
      [.callFn 0, .callFn 1, .drained 0, .thrown 0 (sessionError "one"), .drained 1,
        .thrown 1 (sessionError "two"), .flushed 2] ∧
    (Machine.final step (initial boundedOptions : StreamSender ℕ)
        [.send (.bytes 1), .callFnReturns, .send (.bytes 1), .callFnReturns,
          .callSettles 0 (.error (sessionError "one")),
          .callSettles 1 (.error (sessionError "two")), .flush, .lockStarts, .handOver, .resume 2,
            .lockStarts,
          .handOver, .resume 2]).firstError = some (sessionError "one") := by
  decide

end StreamSender

end CapnpDeno
