import CapnpDeno.Rpc.Transports.Middleware

/-!
# The order of the frames behind MiddlewareTransport

A frame goes through the hooks of the stack one after the other, up to the first that drops or
rejects it.  The chains of different frames are not tied together: the frames come out in the order
in which their chains finish.
-/

namespace CapnpDeno

/-! ## The way of one frame -/

/-- Where a frame stands: hooks come after the one that has it, or its chain is over. -/
inductive Passage
  | awaits (rest : List ℕ)
  | over (result : HookResult)

/-- The frame that comes out. -/
def HookResult.survivor : HookResult → List Bytes
  | .ok (some frame) => [frame]
  | .ok none | .error _ => []

def Passage.survivor : Passage → List Bytes
  | .over result => HookResult.survivor result
  | .awaits _ => []

/-- The calls of the hooks at the positions, and where they lead, if these are the results so
far. -/
def passage : List ℕ → Bytes → List HookResult → List (ℕ × Bytes) × Passage
  | [], frame, _ => ([], .over (.ok (some frame)))
  | position :: rest, frame, [] => ([(position, frame)], .awaits rest)
  | position :: rest, frame, .ok (some frame') :: results =>
    ((position, frame) :: (passage rest frame' results).1, (passage rest frame' results).2)
  | position :: _, frame, result :: _ => ([(position, frame)], .over result)

/-- The frame goes on with the result of the hook that had it. -/
def passOn (rest : List ℕ) : HookResult → List (ℕ × Bytes) × Passage
  | .ok (some frame) => passage rest frame []
  | result => ([], .over result)

theorem passage_concat {positions rest : List ℕ} {frame : Bytes} {results : List HookResult}
    (awaits : (passage positions frame results).2 = .awaits rest) (result : HookResult) :
    passage positions frame (results ++ [result]) =
      ((passage positions frame results).1 ++ (passOn rest result).1, (passOn rest result).2) := by
  induction positions generalizing frame results with
  | nil => simp [passage] at awaits
  | cons position positions ih =>
    match results with
    | [] =>
      obtain rfl : positions = rest := by simpa [passage] using awaits
      match result with
      | .ok (some frame') => simp [passage, passOn]
      | .ok none => simp [passage, passOn]
      | .error error => simp [passage, passOn]
    | .ok (some frame') :: results =>
      have goesOn : (passage positions frame' results).2 = .awaits rest := by
        simpa [passage] using awaits
      simp [passage, ih goesOn]
    | .ok none :: results => simp [passage] at awaits
    | .error error :: results => simp [passage] at awaits

/-! ## What the effects tell -/

namespace MiddlewareEffect

def chain : MiddlewareEffect → ChainId
  | hook chain _ _ | hooked chain _ | finished chain _ _ | hand chain _ _ | settled chain _ => chain

def calls : List MiddlewareEffect → List (ℕ × Bytes) :=
  List.filterMap fun
    | hook _ position frame => some (position, frame)
    | _ => none

def results : List MiddlewareEffect → List HookResult :=
  List.filterMap fun
    | hooked _ result => some result
    | _ => none

def ends : List MiddlewareEffect → List HookResult :=
  List.filterMap fun
    | finished _ _ result => some result
    | _ => none

def handed : List MiddlewareEffect → List Bytes :=
  List.filterMap fun
    | hand _ _ frame => some frame
    | _ => none

/-- The frames that come out of the chains, in the order in which these finish. -/
def survivors : List MiddlewareEffect → List (ChainId × Direction × Bytes) :=
  List.filterMap fun
    | finished chain direction (.ok (some frame)) => some (chain, direction, frame)
    | _ => none

/-- The frames that the transport below and the callback get, in order. -/
def deliveries : List MiddlewareEffect → List (ChainId × Direction × Bytes) :=
  List.filterMap fun
    | hand chain direction frame => some (chain, direction, frame)
    | _ => none

/-- The chain that the effect is about. -/
def about (effect : MiddlewareEffect) : Option ChainId := some effect.chain

variable {past effects : List MiddlewareEffect}

@[simp] theorem calls_append : calls (past ++ effects) = calls past ++ calls effects :=
  List.filterMap_append

@[simp] theorem results_append : results (past ++ effects) = results past ++ results effects :=
  List.filterMap_append

@[simp] theorem ends_append : ends (past ++ effects) = ends past ++ ends effects :=
  List.filterMap_append

@[simp] theorem handed_append : handed (past ++ effects) = handed past ++ handed effects :=
  List.filterMap_append

@[simp] theorem survivors_append : survivors (past ++ effects) =
    survivors past ++ survivors effects :=
  List.filterMap_append

@[simp] theorem deliveries_append : deliveries (past ++ effects) = deliveries past ++
    deliveries effects :=
  List.filterMap_append

theorem mem_deliveries {chain : ChainId} {direction : Direction} {frame : Bytes} :
    (chain, direction, frame) ∈ deliveries past ↔ .hand chain direction frame ∈ past := by
  simp only [deliveries, List.mem_filterMap]
  constructor
  · rintro ⟨effect, mem, same⟩
    cases effect <;> simp_all
  · exact fun mem => ⟨_, mem, rfl⟩

end MiddlewareEffect

open MiddlewareEffect

namespace MiddlewareTransport

variable {s : MiddlewareTransport} {past effects log : List MiddlewareEffect} {chain : ChainId}
  {x : Chain} {direction : Direction} {rest : List (Middleware × ℕ)} {frame : Bytes}

/-- The positions of the hooks. -/
def hooks (direction : Direction) (stack : List (Middleware × ℕ)) : List ℕ :=
  (stack.filter fun mw => mw.1.hooked direction).map Prod.snd

/-- The stage of a chain, by where its frame stands and by what was shown of it. -/
def Stands (direction : Direction) (passage : Passage) (log : List MiddlewareEffect) :
    ChainStage → Prop
  | .awaits rest => passage = .awaits (hooks direction rest) ∧ ends log = [] ∧ handed log = []
  | .finished result => passage = .over result ∧ ends log = [result] ∧ handed log = []
  | .handed => ∃ frame, passage = .over (.ok (some frame)) ∧ ends log = [.ok (some frame)] ∧
      handed log = [frame]
  | .settled => ∃ result, passage = .over result ∧ ends log = [result] ∧
      handed log = HookResult.survivor result

/-- What was shown of a chain. -/
structure Told (middleware : List Middleware) (log : List MiddlewareEffect) (x : Chain) : Prop where
  called : calls log = (passage (hooks x.direction middleware.zipIdx) x.frame (results log)).1
  stands :
    Stands x.direction (passage (hooks x.direction middleware.zipIdx) x.frame (results log)).2
    log x.stage
  aimed : ∀ chain direction frame, .hand chain direction frame ∈ log → direction = x.direction

/-- The chain runs up to the next hook. -/
theorem applyChain_shows (direction : Direction) (chain : ChainId) (stack : List (Middleware × ℕ))
    (frame : Bytes) :
    calls (applyChain direction chain stack frame).2 =
      (passage (hooks direction stack) frame []).1 ∧
      results (applyChain direction chain stack frame).2 = [] ∧
      Stands direction (passage (hooks direction stack) frame []).2
        (applyChain direction chain stack frame).2
        (applyChain direction chain stack frame).1 := by
  induction stack with
  | nil => simp [applyChain, hooks, passage, calls, results, Stands, ends, handed]
  | cons mw stack ih =>
    by_cases hooked : mw.1.hooked direction
    · simp [applyChain, hooked, hooks, passage, calls, results, Stands, ends, handed]
    · simpa [applyChain, hooked, hooks] using ih

theorem passOn_shows (direction : Direction) (chain : ChainId) (rest : List (Middleware × ℕ))
    (result : HookResult) :
    calls (applyResult direction chain rest result).2 = (passOn (hooks direction rest) result).1 ∧
      results (applyResult direction chain rest result).2 = [] ∧
      Stands direction (passOn (hooks direction rest) result).2
        (applyResult direction chain rest result).2
        (applyResult direction chain rest result).1 := by
  match result with
  | .ok (some frame) => exact applyChain_shows direction chain rest frame
  | .ok none => simp [applyResult, passOn, calls, results, Stands, ends, handed]
  | .error error => simp [applyResult, passOn, calls, results, Stands, ends, handed]

/-- The frame that waits for its caller. -/
def waiting (chain : ChainId) (direction : Direction) :
    ChainStage → List (ChainId × Direction × Bytes)
  | .finished result => (HookResult.survivor result).map fun frame => (chain, direction, frame)
  | .awaits _ | .handed | .settled => []

theorem applyChain_survivors (direction : Direction) (chain : ChainId)
    (stack : List (Middleware × ℕ)) (frame : Bytes) :
    survivors (applyChain direction chain stack frame).2 =
        waiting chain direction (applyChain direction chain stack frame).1 ∧
      deliveries (applyChain direction chain stack frame).2 = [] ∧
      ∀ effect ∈ (applyChain direction chain stack frame).2, effect.chain = chain := by
  induction stack with
  | nil =>
    simp [applyChain, survivors, waiting, HookResult.survivor, deliveries, MiddlewareEffect.chain]
  | cons mw stack ih =>
    by_cases hooked : mw.1.hooked direction
    · simp [applyChain, hooked, survivors, waiting, deliveries, MiddlewareEffect.chain]
    · simpa [applyChain, hooked] using ih

theorem applyResult_survivors (direction : Direction) (chain : ChainId)
    (rest : List (Middleware × ℕ)) (result : HookResult) :
    survivors (applyResult direction chain rest result).2 =
        waiting chain direction (applyResult direction chain rest result).1 ∧
      deliveries (applyResult direction chain rest result).2 = [] ∧
      ∀ effect ∈ (applyResult direction chain rest result).2, effect.chain = chain := by
  match result with
  | .ok (some frame) => exact applyChain_survivors direction chain rest frame
  | .ok none =>
    simp [applyResult, survivors, waiting, HookResult.survivor, deliveries, MiddlewareEffect.chain]
  | .error error =>
    simp [applyResult, survivors, waiting, HookResult.survivor, deliveries, MiddlewareEffect.chain]

/-! ## Chains that enter a stage -/

/-- The caller that goes on after the stage. -/
def callers (chain : ChainId) : ChainStage → List ChainId
  | .finished _ => [chain]
  | .awaits _ | .handed | .settled => []

theorem enter_eq (s : MiddlewareTransport) (chain : ChainId) (stage : ChainStage) :
    s.enter chain stage = { s with
      chains := s.chains.modify chain fun x => { x with stage := stage }
      resumes := s.resumes ++ callers chain stage } := by
  cases stage <;> simp [enter, callers]

theorem of_callers {other : ChainId} {stage : ChainStage} (mem : other ∈ callers chain stage) :
    other = chain ∧ ∃ result, stage = .finished result := by
  cases stage <;> simp_all [callers]

/-- The frames that wait for the callers, in their order. -/
def queued (chains : List Chain) (resumes : List ChainId) : List (ChainId × Direction × Bytes) :=
  resumes.flatMap fun chain =>
    match chains[chain]? with
    | some x => waiting chain x.direction x.stage
    | none => []

theorem queued_append (chains : List Chain) (first second : List ChainId) :
    queued chains (first ++ second) = queued chains first ++ queued chains second :=
  List.flatMap_append

theorem queued_congr {chains chains' : List Chain} {resumes : List ChainId}
    (same : ∀ chain ∈ resumes, chains[chain]? = chains'[chain]?) :
    queued chains resumes = queued chains' resumes := by
  apply List.flatMap_congr
  intro chain waits
  rw [same chain waits]

/-- `owed` is the frame whose caller has gone on. -/
structure Ordered (owed : List (ChainId × Direction × Bytes)) (past : List MiddlewareEffect)
    (s : MiddlewareTransport) :
    Prop where
  told : Heap.Logged MiddlewareEffect.about (fun _ log x => Told s.middleware log x) past s.chains
  waits : ∀ chain ∈ s.resumes, ∃ x result, s.chains[chain]? = some x ∧ x.stage = .finished result
  once : s.resumes.Nodup
  order : survivors past = deliveries past ++ owed ++ queued s.chains s.resumes

/-- A chain that is not finished enters another stage. -/
theorem Ordered.enter {owed : List (ChainId × Direction × Bytes)} (ordered : Ordered owed past s)
    (found : s.chains[chain]? = some x) (free : chain ∉ s.resumes) (stage : ChainStage)
    (only : ∀ effect ∈ effects, effect.chain = chain)
    (told : ∀ log, Told s.middleware log x → Told s.middleware (log ++ effects)
      { x with stage := stage })
    (delivered : deliveries effects = owed)
    (survived : survivors effects = waiting chain x.direction stage) :
    Ordered [] (past ++ effects) (s.enter chain stage) := by
  have own : Heap.log MiddlewareEffect.about chain effects = effects := by
    apply Heap.log_eq_self
    intro effect mem
    rw [MiddlewareEffect.about, only effect mem]
  have there := Heap.modify_self (f := fun x => { x with stage := stage }) found
  have others : ∀ other ∈ s.resumes,
      s.chains[other]? = (s.chains.modify chain fun x => { x with stage := stage })[other]? := by
    intro other waits
    rw [Heap.modify_other]
    rintro rfl
    exact free waits
  rw [enter_eq]
  constructor
  · apply ordered.told.modify found
    · intro effect mem other same
      rw [← only effect mem]
      exact (Option.some.inj same).symm
    · rw [own]
      exact told _
  · intro other waits
    rcases List.mem_append.mp waits with old | new
    · rw [← others other old]
      exact ordered.waits other old
    · obtain ⟨rfl, result, rfl⟩ := of_callers new
      exact ⟨_, result, there, rfl⟩
  · apply List.nodup_append.mpr
    refine ⟨ordered.once, ?_, ?_⟩
    · cases stage <;> simp [callers]
    · rintro other waits _ new rfl
      exact free ((of_callers new).1 ▸ waits)
  · have last : queued (s.chains.modify chain fun x => { x with stage := stage })
        (callers chain stage) = waiting chain x.direction stage := by
      cases stage <;> simp [callers, queued, waiting, there]
    rw [survivors_append, deliveries_append, ordered.order, delivered, survived,
      queued_append, last, queued_congr others]
    simp

/-- A chain that is not finished does not wait for its caller. -/
theorem Ordered.not_waiting {owed : List (ChainId × Direction × Bytes)}
    (ordered : Ordered owed past s) (found : s.chains[chain]? = some x)
    (other : ∀ result, x.stage ≠ .finished result) : chain ∉ s.resumes := by
  intro waits
  obtain ⟨x', result, found', finished⟩ := ordered.waits chain waits
  cases found.symm.trans found'
  exact other result finished

/-! ## The steps -/

theorem Stands.after {passage : Passage} {stage : ChainStage} (unended : ends log = [])
    (unhanded : handed log = []) (stands : Stands direction passage effects stage) :
    Stands direction passage (log ++ effects) stage := by
  cases stage <;> simpa [Stands, unended, unhanded] using stands

theorem told_hooked {middleware : List Middleware}
    (told : Told middleware log ⟨direction, frame, .awaits rest⟩) (chain : ChainId)
    (result : HookResult) :
    Told middleware (log ++ .hooked chain result :: (applyResult direction chain rest result).2)
      ⟨direction, frame, (applyResult direction chain rest result).1⟩ := by
  obtain ⟨awaits, unended, unhanded⟩ := told.stands
  obtain ⟨called, silent, stands⟩ := passOn_shows direction chain rest result
  obtain ⟨-, undelivered, -⟩ := applyResult_survivors direction chain rest result
  have split : .hooked chain result :: (applyResult direction chain rest result).2 =
      [.hooked chain result] ++ (applyResult direction chain rest result).2 := rfl
  have hookedOnly : results [.hooked chain result] = [result] := rfl
  have goesOn := passage_concat awaits result
  rw [split]
  constructor
  · rw [calls_append, calls_append, results_append, results_append, hookedOnly, silent,
      List.append_nil, goesOn, told.called, called]
    rfl
  · rw [results_append, results_append, hookedOnly, silent, List.append_nil, goesOn]
    apply Stands.after unended unhanded
    exact Stands.after rfl rfl stands
  · intro chain' direction' frame' mem
    rcases List.mem_append.mp mem with old | new
    · exact told.aimed chain' direction' frame' old
    · rw [← mem_deliveries, deliveries_append, undelivered] at new
      simp [deliveries] at new

theorem ordered_hooked (ordered : Ordered [] past s) (chain : ChainId) (result : HookResult) :
    Ordered [] (past ++ (s.hooked chain result).2) (s.hooked chain result).1 := by
  unfold hooked
  split
  next direction frame rest found =>
    obtain ⟨survived, delivered, only⟩ := applyResult_survivors direction chain rest result
    have free := ordered.not_waiting found (by simp)
    apply ordered.enter found free
    · simpa [MiddlewareEffect.chain] using only
    · exact fun log told => told_hooked told chain result
    · exact delivered
    · exact survived
  next => simpa using ordered

theorem told_begin (middleware : List Middleware) (direction : Direction) (chain : ChainId)
    (frame : Bytes) :
    Told middleware (applyChain direction chain middleware.zipIdx frame).2
      ⟨direction, frame, (applyChain direction chain middleware.zipIdx frame).1⟩ := by
  obtain ⟨called, silent, stands⟩ := applyChain_shows direction chain middleware.zipIdx frame
  obtain ⟨-, undelivered, -⟩ := applyChain_survivors direction chain middleware.zipIdx frame
  constructor
  · rw [silent]
    exact called
  · rw [silent]
    exact stands
  · intro chain' direction' frame' mem
    rw [← mem_deliveries, undelivered] at mem
    simp at mem

theorem modify_last (l : List Chain) (a : Chain) (f : Chain → Chain) :
    (l ++ [a]).modify l.length f = l ++ [f a] := by
  induction l with
  | nil => rfl
  | cons first l ih => simpa using ih

/-- A chain is added, and has run up to its first hook. -/
theorem Ordered.add (ordered : Ordered [] past s) {stage : ChainStage}
    (told : Told s.middleware effects ⟨direction, frame, stage⟩)
    (only : ∀ effect ∈ effects, effect.chain = s.chains.length)
    (delivered : deliveries effects = [])
    (survived : survivors effects = waiting s.chains.length direction stage) :
    Ordered [] (past ++ effects)
      ({ s with chains := s.chains ++ [Chain.mk direction frame stage] }.enter s.chains.length
        stage) := by
  rw [enter_eq, modify_last]
  have own : Heap.log MiddlewareEffect.about s.chains.length effects = effects := by
    apply Heap.log_eq_self
    intro effect mem
    rw [MiddlewareEffect.about, only effect mem]
  have older : ∀ chain ∈ s.resumes, s.chains[chain]? =
      (s.chains ++ [Chain.mk direction frame stage])[chain]? := by
    intro chain waits
    obtain ⟨x, result, found, -⟩ := ordered.waits chain waits
    rw [found, Heap.append_old found]
  constructor
  · apply ordered.told.append
    · intro effect mem other same
      rw [← only effect mem]
      exact (Option.some.inj same).symm
    · rwa [own]
  · intro other waits
    rcases List.mem_append.mp waits with old | new
    · rw [← older other old]
      exact ordered.waits other old
    · obtain ⟨rfl, result, rfl⟩ := of_callers new
      exact ⟨_, result, Heap.append_self, rfl⟩
  · apply List.nodup_append.mpr
    refine ⟨ordered.once, ?_, ?_⟩
    · cases stage <;> simp [callers]
    · rintro other waits _ new rfl
      obtain ⟨x, result, found, -⟩ := ordered.waits other waits
      exact (Heap.lt_length found).ne (of_callers new).1
  · have last : queued (s.chains ++ [Chain.mk direction frame stage])
        (callers s.chains.length stage) = waiting s.chains.length direction stage := by
      cases stage <;> simp [callers, queued, waiting]
    rw [survivors_append, deliveries_append, ordered.order, delivered, survived,
      queued_append, last, queued_congr older]
    simp

theorem ordered_begin (ordered : Ordered [] past s) (direction : Direction) (frame : Bytes) :
    Ordered [] (past ++ (s.begin direction frame).2) (s.begin direction frame).1 := by
  obtain ⟨survived, delivered, only⟩ :=
    applyChain_survivors direction s.chains.length s.middleware.zipIdx frame
  exact ordered.add (told_begin s.middleware direction s.chains.length frame)
    only delivered survived

/-- The effects have nothing to do with hooks. -/
theorem Told.goesOn {middleware : List Middleware} (told : Told middleware log x)
    (stage : ChainStage) (uncalled : calls effects = []) (silent : results effects = [])
    (stands : ∀ passage, Stands x.direction passage log x.stage →
      Stands x.direction passage (log ++ effects) stage)
    (aimed : ∀ chain direction frame, .hand chain direction frame ∈ effects →
      direction = x.direction) :
    Told middleware (log ++ effects) { x with stage := stage } := by
  constructor
  · rw [calls_append, results_append, uncalled, silent, List.append_nil, List.append_nil]
    exact told.called
  · rw [results_append, silent, List.append_nil]
    exact stands _ told.stands
  · intro chain direction frame mem
    rcases List.mem_append.mp mem with old | new
    · exact told.aimed chain direction frame old
    · exact aimed chain direction frame new

theorem told_resume {middleware : List Middleware} {result : HookResult}
    (told : Told middleware log ⟨direction, frame, .finished result⟩) (chain : ChainId) :
    Told middleware (log ++ (goOn direction chain result).2)
      ⟨direction, frame, (goOn direction chain result).1⟩ := by
  match result with
  | .ok (some frame') =>
    apply told.goesOn .handed rfl rfl
    · rintro passage ⟨rfl, ended, unhanded⟩
      exact ⟨frame', rfl, by rw [ends_append, ended]; rfl, by rw [handed_append, unhanded]; rfl⟩
    · rintro _ _ _ sent
      simp_all [goOn]
  | .ok none =>
    apply told.goesOn .settled rfl rfl
    · rintro passage ⟨rfl, ended, unhanded⟩
      exact ⟨_, rfl, by rw [ends_append, ended]; rfl, by rw [handed_append, unhanded]; rfl⟩
    · simp [goOn]
  | .error error =>
    apply told.goesOn .settled rfl rfl
    · rintro passage ⟨rfl, ended, unhanded⟩
      exact ⟨_, rfl, by rw [ends_append, ended]; rfl, by rw [handed_append, unhanded]; rfl⟩
    · simp [goOn]

theorem goOn_delivers (direction : Direction) (chain : ChainId) (result : HookResult) :
    deliveries (goOn direction chain result).2 = waiting chain direction (.finished result) ∧
      survivors (goOn direction chain result).2 =
        waiting chain direction (goOn direction chain result).1 ∧
      ∀ effect ∈ (goOn direction chain result).2, effect.chain = chain := by
  match result with
  | .ok (some frame) =>
    simp [goOn, deliveries, survivors, waiting, HookResult.survivor, MiddlewareEffect.chain]
  | .ok none =>
    simp [goOn, deliveries, survivors, waiting, HookResult.survivor, MiddlewareEffect.chain]
  | .error error =>
    simp [goOn, deliveries, survivors, waiting, HookResult.survivor, MiddlewareEffect.chain]

/-- The caller of the oldest finished chain is about to go on. -/
theorem Ordered.pop {resumes : List ChainId} (ordered : Ordered [] past s)
    (first : s.resumes = chain :: resumes) :
    ∃ direction frame result, s.chains[chain]? = some ⟨direction, frame, .finished result⟩ ∧
      chain ∉ resumes ∧
      Ordered (waiting chain direction (.finished result)) past { s with resumes := resumes } := by
  obtain ⟨⟨direction, frame, stage⟩, result, found, rfl⟩ := ordered.waits chain (by simp [first])
  have once := ordered.once
  have order := ordered.order
  rw [first] at once order
  obtain ⟨free, once⟩ := List.nodup_cons.mp once
  refine ⟨direction, frame, result, found, free, ordered.told, ?_, once, ?_⟩
  · intro other waits
    exact ordered.waits other (by simp [first, waits])
  · rw [order]
    simp [queued, found]

theorem ordered_resume (ordered : Ordered [] past s) :
    Ordered [] (past ++ s.resume.2) s.resume.1 := by
  unfold resume
  split
  next chain resumes first =>
    obtain ⟨direction, frame, result, found, free, popped⟩ := ordered.pop first
    obtain ⟨delivered, survived, only⟩ := goOn_delivers direction chain result
    simp only [found]
    exact popped.enter found free _ only (fun log told => told_resume told chain) delivered survived
  next => simpa using ordered

theorem told_handled {middleware : List Middleware}
    (told : Told middleware log ⟨direction, frame, .handed⟩) (chain : ChainId)
    (failure : Option Thrown) :
    Told middleware (log ++ [.settled chain failure]) ⟨direction, frame, .settled⟩ := by
  apply told.goesOn .settled rfl rfl
  · rintro passage ⟨frame', rfl, ended, unhanded⟩
    exact ⟨_, rfl, by rw [ends_append, ended]; rfl, by rw [handed_append, unhanded]; rfl⟩
  · simp

theorem ordered_handled (ordered : Ordered [] past s) (chain : ChainId) (failure : Option Thrown) :
    Ordered [] (past ++ (s.handled chain failure).2) (s.handled chain failure).1 := by
  unfold handled
  split
  next direction frame found =>
    have free := ordered.not_waiting found (by simp)
    exact ordered.enter found free .settled (by simp [MiddlewareEffect.chain])
      (fun log told => told_handled told chain failure) rfl rfl
  next => simpa using ordered

theorem ordered_step (ordered : Ordered [] past s) (event : MiddlewareEvent) :
    Ordered [] (past ++ (s.step event).2) (s.step event).1 := by
  cases event with
  | send frame => exact ordered_begin ordered .send frame
  | receive frame => exact ordered_begin ordered .receive frame
  | hooked chain result => exact ordered_hooked ordered chain result
  | resume => exact ordered_resume ordered
  | handled chain failure => exact ordered_handled ordered chain failure

theorem ordered_initial (middleware : List Middleware) : Ordered [] [] (initial middleware) := by
  constructor
  · exact Heap.logged_nil
  · simp [initial]
  · simp [initial]
  · rfl

theorem middleware_step (s : MiddlewareTransport) (event : MiddlewareEvent) :
    (s.step event).1.middleware = s.middleware := by
  cases event with
  | send frame | receive frame => simp [step, begin, enter_eq]
  | hooked chain result =>
    simp only [step, hooked]
    split <;> simp [enter_eq]
  | resume =>
    simp only [step, resume]
    split
    · split <;> simp [enter_eq]
    · rfl
  | handled chain failure =>
    simp only [step, handled]
    split <;> simp [enter_eq]

/-! ## Going on -/

/-- The frames that begin chains. -/
def begun : List MiddlewareEvent → List (Direction × Bytes) :=
  List.filterMap fun
    | .send frame => some (.send, frame)
    | .receive frame => some (.receive, frame)
    | .hooked _ _ | .resume | .handled _ _ => none

/-- The frame that the chain began with. -/
def given (x : Chain) : Direction × Bytes := (x.direction, x.frame)

theorem given_enter (s : MiddlewareTransport) (chain : ChainId) (stage : ChainStage) :
    (s.enter chain stage).chains.map given = s.chains.map given := by
  rw [enter_eq]
  apply List.ext_getElem?
  intro other
  rw [List.getElem?_map, List.getElem?_map]
  by_cases same : other = chain
  · subst same
    rw [List.getElem?_modify_eq]
    cases s.chains[other]? <;> rfl
  · rw [Heap.modify_other same]

theorem given_step (s : MiddlewareTransport) (event : MiddlewareEvent) :
    (s.step event).1.chains.map given = s.chains.map given ++ begun [event] := by
  cases event with
  | send frame | receive frame =>
    simp only [step, begin]
    rw [given_enter, List.map_append]
    rfl
  | hooked chain result =>
    simp only [step, hooked]
    split <;> simp [given_enter, begun]
  | resume =>
    simp only [step, resume]
    split
    · split <;> simp [given_enter, begun]
    · simp [begun]
  | handled chain failure =>
    simp only [step, handled]
    split <;> simp [given_enter, begun]

/-- Every frame begins a chain, and nothing else does. -/
theorem given_final (s : MiddlewareTransport) (events : List MiddlewareEvent) :
    (Machine.final step s events).chains.map given = s.chains.map given ++ begun events := by
  induction events generalizing s with
  | nil => simp [Machine.final, begun]
  | cons event events ih =>
    have split : begun (event :: events) = begun [event] ++ begun events :=
      List.filterMap_append (l := [event])
    rw [Machine.final, ih, given_step, split, List.append_assoc]

/-- The caller of every finished chain is in the queue. -/
def Queued (s : MiddlewareTransport) : Prop :=
  ∀ (chain : ChainId) (x : Chain) (result : HookResult), s.chains[chain]? = some x →
    x.stage = .finished result →
    chain ∈ s.resumes

/-- The chain enters a stage; the others that are finished are in the queue. -/
theorem queued_enter (others : ∀ (other : ChainId) (x : Chain) (result : HookResult),
      other ≠ chain →
      s.chains[other]? = some x → x.stage = .finished result → other ∈ s.resumes)
      (stage : ChainStage) :
    Queued (s.enter chain stage) := by
  rw [enter_eq]
  intro other x result found finished
  apply List.mem_append.mpr
  obtain ⟨rfl, x', old, rfl⟩ | ⟨different, old⟩ := Heap.of_modify found
  · obtain rfl : stage = .finished result := finished
    exact .inr (by simp [callers])
  · exact .inl (others other x result different old finished)

theorem Queued.begin (queued : Queued s) (direction : Direction) (frame : Bytes) :
    Queued (s.begin direction frame).1 := by
  apply queued_enter
  intro other x result different found finished
  obtain old | ⟨same, -⟩ := Heap.of_append found
  · exact queued other x result old finished
  · exact absurd same different

theorem Queued.resume (queued : Queued s) : Queued s.resume.1 := by
  -- a chain that is finished is the head, which goes on, or is behind it
  have behind {head : ChainId} {resumes : List ChainId} (first : s.resumes = head :: resumes)
      {other : ChainId}
      {x : Chain} {result : HookResult} (different : other ≠ head)
      (found : s.chains[other]? = some x)
      (finished : x.stage = .finished result) : other ∈ resumes := by
    have waits := queued other x result found finished
    rw [first] at waits
    exact (List.mem_cons.mp waits).resolve_left different
  unfold MiddlewareTransport.resume
  split
  next head resumes first =>
    split
    next direction frame result found =>
      exact queued_enter (s := { s with resumes := resumes })
        (fun other x result different found finished => behind first different found finished) _
    next stuck =>
      intro other x result found finished
      apply behind first _ found finished
      rintro rfl
      obtain ⟨direction, frame, stage⟩ := x
      obtain rfl : stage = .finished result := finished
      exact stuck direction frame result found
  next => exact queued

theorem queued_step (queued : Queued s) (event : MiddlewareEvent) : Queued (s.step event).1 := by
  have entered (chain : ChainId) (stage : ChainStage) : Queued (s.enter chain stage) :=
    queued_enter (fun other x result _ => queued other x result) stage
  cases event with
  | send frame => exact queued.begin .send frame
  | receive frame => exact queued.begin .receive frame
  | hooked chain result =>
    simp only [step, hooked]
    split
    · exact entered chain _
    · exact queued
  | resume => exact queued.resume
  | handled chain failure =>
    simp only [step, handled]
    split
    · exact entered chain _
    · exact queued

/-- What brings a chain on: its hook is done, its caller goes on, or its frame is handled. -/
structure GoesOn (s : MiddlewareTransport) : Prop where
  hooked : ∀ (chain : ChainId) (x : Chain) (rest : List (Middleware × ℕ)),
    s.chains[chain]? = some x →
    x.stage = .awaits rest → ∀ result, .hooked chain result ∈ (s.step (.hooked chain result)).2
  queued : Queued s
  resumed : ∀ (chain : ChainId) (resumes : List ChainId), s.resumes = chain :: resumes →
    (s.step .resume).1.resumes = resumes ∧ ∃ x result, s.chains[chain]? = some x ∧
    x.stage = .finished result ∧
      deliveries (s.step .resume).2 =
        (HookResult.survivor result).map fun frame => (chain, x.direction, frame)
  handled : ∀ (chain : ChainId) (x : Chain), s.chains[chain]? = some x → x.stage = .handed →
    ∀ failure,
    (s.step (.handled chain failure)).1.chains[chain]? = some { x with stage := .settled }

/-- The head of the queue goes on. -/
theorem Ordered.resumed {resumes : List ChainId} (ordered : Ordered [] past s)
    (first : s.resumes = chain :: resumes) :
    ∃ direction frame result, s.chains[chain]? = some ⟨direction, frame, .finished result⟩ ∧
      (s.step .resume).1.resumes = resumes ∧ survivors (s.step .resume).2 = [] ∧
      deliveries (s.step .resume).2 = waiting chain direction (.finished result) := by
  obtain ⟨direction, frame, result, found, -, -⟩ := ordered.pop first
  obtain ⟨delivered, survived, -⟩ := goOn_delivers direction chain result
  have left : callers chain (goOn direction chain result).1 = [] ∧
      waiting chain direction (goOn direction chain result).1 = [] := by
    match result with
    | .ok (some frame) | .ok none | .error error => exact ⟨rfl, rfl⟩
  refine ⟨direction, frame, result, found, ?_, ?_, ?_⟩
  · simp [step, resume, first, found, enter_eq, left.1]
  · simp only [step, resume, first, found]
    rw [survived, left.2]
  · simp only [step, resume, first, found]
    exact delivered

theorem Ordered.goesOn (ordered : Ordered [] past s) (queued : Queued s) : GoesOn s where
  hooked := by
    rintro chain ⟨direction, frame, stage⟩ rest found rfl result
    simp [step, hooked, found]
  queued := queued
  resumed := by
    intro chain resumes first
    obtain ⟨direction, frame, result, found, rest, -, delivered⟩ := ordered.resumed first
    exact ⟨rest, _, result, found, rfl, delivered⟩
  handled := by
    rintro chain ⟨direction, frame, stage⟩ found rfl failure
    simp only [step, handled, found, enter_eq]
    exact Heap.modify_self found

/-- When the callers of all finished chains have gone on, every frame that survived is handed on. -/
theorem Ordered.drained (ordered : Ordered [] past s) {n : ℕ} (enough : s.resumes.length ≤ n) :
    deliveries (past ++ Machine.shown step s (List.replicate n .resume)) = survivors past := by
  induction n generalizing past s with
  | zero =>
    have empty : s.resumes = [] := List.length_eq_zero_iff.mp (Nat.le_zero.mp enough)
    simp [Machine.shown, ordered.order, empty, queued]
  | succ n ih =>
    have next : Ordered [] (past ++ (s.step .resume).2) (s.step .resume).1 :=
      ordered_step ordered .resume
    have shorter : (s.step .resume).1.resumes.length ≤ n ∧ survivors (s.step .resume).2 = [] := by
      cases first : s.resumes with
      | nil => simp [step, resume, first, survivors]
      | cons chain resumes =>
        obtain ⟨-, -, -, -, rest, silent, -⟩ := ordered.resumed first
        rw [first, List.length_cons] at enough
        exact ⟨by rw [rest]; omega, silent⟩
    have all := ih next shorter.1
    rwa [survivors_append, shorter.2, List.append_nil, List.append_assoc] at all

/-! ## Frames from below -/

/-- The frames that go one way. -/
def toward (direction : Direction) : List (ChainId × Direction × Bytes) → List (ChainId × Bytes) :=
  List.filterMap fun delivery => if delivery.2.1 = direction then some (delivery.1, delivery.2.2)
    else none

/-- Only the last frame from below is on its way. -/
def Alone (chains : List Chain) : Prop :=
  ∀ (chain : ChainId) (x : Chain), chains[chain]? = some x → x.direction = .receive →
    x.stage ≠ .settled →
    ∀ (other : ChainId) (y : Chain), chains[other]? = some y → y.direction = .receive →
    other ≤ chain

theorem Alone.enter (alone : Alone s.chains) (found : s.chains[chain]? = some x)
    (unsettled : x.stage ≠ .settled) (stage : ChainStage) : Alone (s.enter chain stage).chains := by
  rw [enter_eq]
  intro latest y there receives waits other z there' receives'
  obtain ⟨z', old', same'⟩ : ∃ z', s.chains[other]? = some z' ∧ z'.direction = .receive := by
    obtain ⟨rfl, z', old, rfl⟩ | ⟨-, old⟩ := Heap.of_modify there'
    · exact ⟨z', old, receives'⟩
    · exact ⟨z, old, receives'⟩
  obtain ⟨rfl, y', old, rfl⟩ | ⟨-, old⟩ := Heap.of_modify there
  · cases found.symm.trans old
    exact alone latest x found receives unsettled other z' old' same'
  · exact alone latest y old receives waits other z' old' same'

theorem Alone.begin (alone : Alone s.chains) (direction : Direction) (frame : Bytes)
    (turn : direction = .receive → ∀ x ∈ s.chains, x.direction = .receive → x.stage = .settled) :
    Alone (s.begin direction frame).1.chains := by
  simp only [MiddlewareTransport.begin, enter_eq, modify_last]
  intro latest y there receives waits other z there' receives'
  obtain old | ⟨rfl, rfl⟩ := Heap.of_append there
  · obtain old' | ⟨rfl, rfl⟩ := Heap.of_append there'
    · exact alone latest y old receives waits other z old' receives'
    · exact absurd (turn receives' y (List.mem_of_getElem? old) receives) waits
  · obtain old' | ⟨rfl, rfl⟩ := Heap.of_append there'
    · exact (Heap.lt_length old').le
    · exact le_rfl

theorem alone_step (alone : Alone s.chains) {event : MiddlewareEvent} (turn : s.inTurn event) :
    Alone (s.step event).1.chains := by
  cases event with
  | send frame => exact alone.begin .send frame (by simp)
  | receive frame => exact alone.begin .receive frame fun _ => turn
  | hooked chain result =>
    simp only [step, hooked]
    split
    next found => exact alone.enter found (by simp) _
    next => exact alone
  | resume =>
    simp only [step, resume]
    split
    next chain resumes _ =>
      split
      next found => exact Alone.enter (s := { s with resumes := resumes }) alone found (by simp) _
      next => exact alone
    next => exact alone
  | handled chain failure =>
    simp only [step, handled]
    split
    next found => exact alone.enter found (by simp) _
    next => exact alone

/-- The callback gets the frames in the order of their delivery. -/
def Rising (past : List MiddlewareEffect) : Prop :=
  ((toward .receive (deliveries past)).map Prod.fst).Pairwise (· < ·)

theorem toward_append (direction : Direction) (first second : List (ChainId × Direction × Bytes)) :
    toward direction (first ++ second) = toward direction first ++ toward direction second :=
  List.filterMap_append

theorem mem_toward {deliveries : List (ChainId × Direction × Bytes)} :
    (chain, frame) ∈ toward direction deliveries ↔ (chain, direction, frame) ∈ deliveries := by
  simp only [toward, List.mem_filterMap]
  constructor
  · rintro ⟨⟨chain', direction', frame'⟩, mem, same⟩
    split_ifs at same with aimed
    obtain ⟨rfl, rfl⟩ : chain' = chain ∧ frame' = frame := by simpa using same
    obtain rfl : direction' = direction := aimed
    exact mem
  · intro mem
    exact ⟨_, mem, by simp⟩

/-- The chain of a frame that was handed on. -/
theorem Ordered.delivered {owed : List (ChainId × Direction × Bytes)}
    (ordered : Ordered owed past s) (mem : (chain, direction, frame) ∈ deliveries past) :
    ∃ x, s.chains[chain]? = some x ∧ x.direction = direction ∧ ∀ result, x.stage ≠
      .finished result := by
  have shown := mem_deliveries.mp mem
  have inside : chain < s.chains.length := ordered.told.2 _ shown chain rfl
  have found := List.getElem?_eq_getElem inside
  have told := ordered.told.1 chain _ found
  have logged : .hand chain direction frame ∈ Heap.log MiddlewareEffect.about chain past :=
    List.mem_filter.mpr ⟨shown, by simp [MiddlewareEffect.about, MiddlewareEffect.chain]⟩
  refine ⟨_, found, (told.aimed chain direction frame logged).symm, fun result finished => ?_⟩
  have stands := told.stands
  rw [finished] at stands
  obtain ⟨-, -, unhanded⟩ := stands
  have given : frame ∈ handed (Heap.log MiddlewareEffect.about chain past) :=
    List.mem_filterMap.mpr ⟨_, logged, rfl⟩
  rw [unhanded] at given
  simp at given

theorem rising_append (rising : Rising past) (undelivered : deliveries effects = []) :
    Rising (past ++ effects) := by
  rwa [Rising, deliveries_append, undelivered, List.append_nil]

theorem rising_resume (ordered : Ordered [] past s) (alone : Alone s.chains)
    (rising : Rising past) :
    Rising (past ++ s.resume.2) := by
  unfold resume
  split
  next chain resumes first =>
    obtain ⟨direction, frame, result, found, -, popped⟩ := ordered.pop first
    obtain ⟨delivered, -, -⟩ := goOn_delivers direction chain result
    simp only [found]
    rw [Rising, deliveries_append, delivered, toward_append, List.map_append, List.pairwise_append]
    refine ⟨rising, ?_, ?_⟩
    · match result with
      | .ok (some frame) => cases direction <;> simp [waiting, HookResult.survivor, toward]
      | .ok none => simp [waiting, HookResult.survivor, toward]
      | .error error => simp [waiting, HookResult.survivor, toward]
    · intro other before this now
      obtain ⟨⟨other, frame'⟩, mem, rfl⟩ := List.mem_map.mp before
      obtain ⟨⟨this, frame''⟩, mem', rfl⟩ := List.mem_map.mp now
      obtain ⟨_, -, same⟩ := List.mem_map.mp (mem_toward.mp mem')
      cases same
      obtain ⟨y, found', receives, unfinished⟩ := ordered.delivered (mem_toward.mp mem)
      apply lt_of_le_of_ne (alone chain _ found rfl (by simp) other y found' receives)
      rintro rfl
      cases found.symm.trans found'
      exact unfinished result rfl
  next => simpa using rising

theorem rising_step (ordered : Ordered [] past s) (alone : Alone s.chains) (rising : Rising past)
    (event : MiddlewareEvent) : Rising (past ++ (s.step event).2) := by
  cases event with
  | send frame | receive frame =>
    apply rising_append rising
    exact (applyChain_survivors _ s.chains.length s.middleware.zipIdx frame).2.1
  | hooked chain result =>
    apply rising_append rising
    simp only [step, hooked]
    split
    next direction _ rest _ => exact (applyResult_survivors direction chain rest result).2.1
    next => rfl
  | resume => exact rising_resume ordered alone rising
  | handled chain failure =>
    apply rising_append rising
    simp only [step, handled]
    split <;> rfl

/-! ## Runs -/

theorem passage_positions (positions : List ℕ) (frame : Bytes) (results : List HookResult) :
    (passage positions frame results).1.map Prod.fst <+: positions := by
  induction positions generalizing frame results with
  | nil => simp [passage]
  | cons position positions ih =>
    match results with
    | [] => simp [passage]
    | .ok (some frame') :: results => simpa [passage] using ih frame' results
    | .ok none :: results => simp [passage]
    | .error error :: results => simp [passage]

/-- A frame meets the hooks in the order of the stack, each with what the one before made of it, up
to the first that drops or rejects it.  If it comes out it is handed on, once. -/
def Filtered (middleware : List Middleware) (log : List MiddlewareEffect) (x : Chain) : Prop :=
  let way := passage (hooks x.direction middleware.zipIdx) x.frame (results log)
  calls log = way.1 ∧ (calls log).map Prod.fst <+: hooks x.direction middleware.zipIdx ∧
    handed log <+: way.2.survivor ∧ (∀ result, x.stage = .finished result → way.2 = .over result) ∧
    (x.stage = .handed ∨ x.stage = .settled → handed log = way.2.survivor)

theorem Told.filtered {middleware : List Middleware} (told : Told middleware log x) :
    Filtered middleware log x := by
  have stands := told.stands
  refine ⟨told.called, told.called ▸ passage_positions _ _ _, ?_, fun result finished =>
    ?_, fun over' => ?_⟩
  · cases stage : x.stage with
    | awaits rest | finished result =>
      rw [stage] at stands
      obtain ⟨-, -, unhanded⟩ := stands
      simp [unhanded]
    | handed | settled =>
      rw [stage] at stands
      obtain ⟨_, over', -, handed⟩ := stands
      rw [handed, over']
      exact List.prefix_rfl
  · rw [finished] at stands
    exact stands.1
  · rcases over' with stage | stage
    all_goals
      rw [stage] at stands
      obtain ⟨_, over', -, handed⟩ := stands
      rw [handed, over']
      rfl

end MiddlewareTransport

end CapnpDeno
