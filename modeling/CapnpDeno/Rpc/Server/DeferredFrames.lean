import CapnpDeno.Rpc.Server.PostInboundHook

/-!
# Deferred frames

What a run of the hook transport looks like from outside, and in what order it writes the frames
passed to `send` when inbound frames come one after another.
-/

namespace CapnpDeno

/-! ## What is seen of a run -/

/-- What is seen of a run: the inbound frame whose `onFrame` promise has not settled, the one whose
hook runs and those whose hook has completed; the frames passed and written, those passed while an
inbound frame was processed, and those of them written since; whether the last of these is with the
inner transport; and what has failed, of `onFrame` promises and of the hooks and sends of the
chain. -/
structure HookWatch where
  arrived : ℕ
  processed : Option ℕ
  hook : Option ℕ
  hooked : List ℕ
  passed : List Bytes
  written : List Bytes
  deferred : List (ℕ × Bytes)
  replayed : List Bytes
  sending : Bool
  rejected : List Thrown
  failed : Option Thrown

namespace HookWatch

def initial : HookWatch := ⟨0, none, none, [], [], [], [], [], false, [], none⟩

/-- What comes in. -/
def hear (w : HookWatch) : HookEvent → HookWatch
  | .inbound => { w with arrived := w.arrived + 1, processed := some w.arrived }
  | .onFrameSettles _ (.ok ()) => { w with processed := none }
  | .onFrameSettles _ (.error error) =>
    { w with processed := none, rejected := w.rejected ++ [error] }
  | .send frame =>
    { w with passed := w.passed ++ [frame], deferred :=
      w.deferred ++ (w.processed.map (·, frame)).toList }
  | .proceed => w
  | .hookSettles none => { w with hook := none, hooked := w.hooked ++ w.hook.toList }
  | .hookSettles (some error) =>
    { w with hook := none, failed := w.failed <|> if w.hook.isSome then some error else none }
  | .innerSendSettles failure =>
    { w with sending := false, failed := w.failed <|> if w.sending then failure else none }

/-- What the transport does on the event: what it writes but for a frame that is passed is a
deferred one. -/
def see (event : HookEvent) (w : HookWatch) : HookEffect → HookWatch
  | .afterInbound inbound _ => { w with hook := some inbound }
  | .written frame =>
    match event with
    | .send _ => { w with written := w.written ++ [frame] }
    | _ =>
      { w with written := w.written ++ [frame], replayed := w.replayed ++ [frame], sending := true }

def note (w : HookWatch) (event : HookEvent) (effects : List HookEffect) : HookWatch :=
  effects.foldl (see event) (w.hear event)

/-- Inbound frames come one after another, each once the `onFrame` promise of the one before has
settled. -/
def serial (w : HookWatch) : HookEvent → Bool
  | .inbound => w.processed.isNone
  | .onFrameSettles inbound _ => w.processed == some inbound
  | _ => true

/-- The frames that are deferred and not written. -/
def waiting (w : HookWatch) : List (ℕ × Bytes) := w.deferred.drop w.replayed.length

/-- What the transport is to do: a frame that is passed while no inbound frame is processed is
written at once, one that is passed while one is processed is not; and else the next of the deferred
frames may be written, when the hook for its inbound frame has completed. -/
def Accepts (w : HookWatch) (event : HookEvent) (effects : List HookEffect) : Prop :=
  match event with
  | .send frame => effects = if w.processed.isNone then [.written frame] else []
  | event => ∀ frame, .written frame ∈ effects → effects = [.written frame] ∧
      ∃ inbound, w.waiting.head? = some (inbound, frame) ∧ inbound ∈ (w.hear event).hooked

/-- No frame is passed straight on while deferred ones wait. -/
def inOrder (w : HookWatch) : HookEvent → Bool
  | .send _ => w.processed.isSome || w.waiting.isEmpty
  | _ => true

end HookWatch

/-! ## What a step can do -/

namespace AfterInboundStage

/-- The index of the first deferred frame that is not written. -/
def next : AfterInboundStage → ℕ
  | .queued | .hooking => 0
  | .sending index => index + 1

/-- The event with which the link goes on. -/
def awaited : AfterInboundStage → HookEvent
  | .queued => .proceed
  | .hooking => .hookSettles none
  | .sending _ => .innerSendSettles none

/-- The event with which the link fails. -/
def failing (error : Thrown) : AfterInboundStage → HookEvent
  | .queued => .proceed
  | .hooking => .hookSettles (some error)
  | .sending _ => .innerSendSettles (some error)

end AfterInboundStage

/-- The deferred frames of the link that are not written, in order. -/
def AfterInbound.unwritten (link : AfterInbound) : List (ℕ × Bytes) :=
  (link.deferred.drop link.stage.next).map (link.inbound, ·)

namespace PostInboundHookTransport

variable {s s' : PostInboundHookTransport} {event : HookEvent} {effects : List HookEffect}

/-- What a step does, what allows it, and its effects. -/
inductive Moves (s : PostInboundHookTransport) : HookEvent → PostInboundHookTransport →
    List HookEffect → Prop
  /-- Nothing that the transport awaits. -/
  | idle (event : HookEvent) (quiet : event = .proceed ∨
        (∃ failure, event = .hookSettles failure ∧ ∀ link ∈ s.afterInboundChain.head?, link.stage ≠
          .hooking) ∨
        ∃ failure, event = .innerSendSettles failure ∧
          ∀ link ∈ s.afterInboundChain.head?, ∀ index, link.stage ≠ .sending index) :
      Moves s event s []
  | arrived : Moves s .inbound s.onInbound []
  | processed (inbound : ℕ) (outcome : Except Thrown Unit) :
      Moves s (.onFrameSettles inbound outcome)
        { s.updateLink inbound fun link => { link with onFrame := some outcome } with
          deferredOutboundFrames := none } []
  | deferred (inbound : ℕ) (frame : Bytes) (processing : s.deferredOutboundFrames = some inbound) :
      Moves s (.send frame) (s.updateLink inbound fun link =>
        { link with deferred := link.deferred ++ [frame] }) []
  | direct (frame : Bytes) (idle : s.deferredOutboundFrames = none) :
    Moves s (.send frame) s [.written frame]
  | skipped (link : AfterInbound) (rest : List AfterInbound)
    (chain : s.afterInboundChain = link :: rest)
      (stands : link.stage = .queued) (halted : s.afterInboundError.isSome = true) :
      Moves s .proceed (s.goOn rest) []
  | hooking (link : AfterInbound) (rest : List AfterInbound)
    (chain : s.afterInboundChain = link :: rest)
      (stands : link.stage = .queued) (processed : link.onFrame = some (.ok ()))
      (free : s.afterInboundError = none) :
      Moves s .proceed (s.goOn (link.goTo .hooking :: rest))
      [.afterInbound link.inbound link.deferred]
  | wrote (link : AfterInbound) (rest : List AfterInbound) (frame : Bytes)
    (chain : s.afterInboundChain = link :: rest)
      (stands : link.stage ≠ .queued) (found : link.deferred[link.stage.next]? = some frame) :
      Moves s link.stage.awaited (s.goOn (link.goTo (.sending link.stage.next) :: rest))
      [.written frame]
  | ended (link : AfterInbound) (rest : List AfterInbound)
    (chain : s.afterInboundChain = link :: rest)
      (stands : link.stage ≠ .queued) (done : link.deferred[link.stage.next]? = none) :
      Moves s link.stage.awaited (s.goOn rest) []
  | failed (link : AfterInbound) (rest : List AfterInbound) (error : Thrown)
    (chain : s.afterInboundChain = link :: rest)
      (rejected : link.stage = .queued → link.onFrame = some (.error error) ∧
        s.afterInboundError = none) :
      Moves s (link.stage.failing error) (s.fail rest error) []

theorem moves_sendDeferred {link : AfterInbound} {rest : List AfterInbound}
    (chain : s.afterInboundChain = link :: rest) (stands : link.stage ≠ .queued) :
    Moves s link.stage.awaited (s.sendDeferred link rest link.stage.next).1
      (s.sendDeferred link rest link.stage.next).2 := by
  unfold sendDeferred
  cases found : link.deferred[link.stage.next]? with
  | some frame => exact .wrote link rest frame chain stands found
  | none => exact .ended link rest chain stands found

theorem moves_proceed {link : AfterInbound} {rest : List AfterInbound}
    (chain : s.afterInboundChain = link :: rest) (stands : link.stage = .queued) :
    Moves s .proceed (s.proceed link rest).1 (s.proceed link rest).2 := by
  unfold proceed
  split_ifs with halted
  · exact .skipped link rest chain stands halted
  · have free : s.afterInboundError = none := by simpa using halted
    cases processed : link.onFrame with
    | none => exact .idle _ (.inl rfl)
    | some outcome =>
      cases outcome with
      | error error =>
        have moves := Moves.failed link rest error chain fun _ => ⟨processed, free⟩
        rw [stands] at moves
        exact moves
      | ok => exact .hooking link rest chain stands processed free

theorem moves_step (s : PostInboundHookTransport) (event : HookEvent) :
    Moves s event (s.step event).1 (s.step event).2 := by
  have first {link : AfterInbound} {rest : List AfterInbound}
      (chain : s.afterInboundChain = link :: rest)
      {P : AfterInbound → Prop} (holds : P link) : ∀ link ∈ s.afterInboundChain.head?, P link := by
    rw [chain]
    rintro _ ⟨⟩
    exact holds
  cases event with
  | inbound => exact .arrived
  | onFrameSettles inbound outcome => exact .processed inbound outcome
  | send frame =>
    change Moves s _ (s.send frame).1 (s.send frame).2
    unfold send
    cases processing : s.deferredOutboundFrames with
    | some inbound => exact .deferred inbound frame processing
    | none => exact .direct frame processing
  | proceed =>
    change Moves s _ (s.atLink _).1 (s.atLink _).2
    unfold atLink
    cases chain : s.afterInboundChain with
    | nil => exact .idle _ (.inl rfl)
    | cons link rest =>
      dsimp only
      cases stands : link.stage with
      | queued => exact moves_proceed chain stands
      | hooking | sending index => exact .idle _ (.inl rfl)
  | hookSettles failure =>
    change Moves s _ (s.atLink _).1 (s.atLink _).2
    unfold atLink
    cases chain : s.afterInboundChain with
    | nil =>
      refine .idle _ (.inr (.inl ⟨failure, rfl, ?_⟩))
      rw [chain]
      rintro _ ⟨⟩
    | cons link rest =>
      dsimp only
      cases stands : link.stage with
      | hooking =>
        cases failure with
        | none =>
          have moves := moves_sendDeferred chain (by rw [stands]; simp)
          rw [stands] at moves
          exact moves
        | some error =>
          have moves := Moves.failed link rest error chain fun queued =>
            nomatch queued.symm.trans stands
          rw [stands] at moves
          exact moves
      | queued
      | sending index =>
      exact .idle _ (.inr (.inl ⟨failure, rfl, first chain (by rw [stands]; simp)⟩))
  | innerSendSettles failure =>
    change Moves s _ (s.atLink _).1 (s.atLink _).2
    unfold atLink
    cases chain : s.afterInboundChain with
    | nil =>
      refine .idle _ (.inr (.inr ⟨failure, rfl, ?_⟩))
      rw [chain]
      rintro _ ⟨⟩
    | cons link rest =>
      dsimp only
      cases stands : link.stage with
      | sending index =>
        cases failure with
        | none =>
          have moves := moves_sendDeferred chain (by rw [stands]; simp)
          rw [stands] at moves
          exact moves
        | some error =>
          have moves := Moves.failed link rest error chain fun queued =>
            nomatch queued.symm.trans stands
          rw [stands] at moves
          exact moves
      | queued
      | hooking => exact .idle _ (.inr (.inr ⟨failure, rfl, first chain (by rw [stands]; simp)⟩))

/-! ## The chain -/

/-- The link of the inbound frame that is processed: the last of the chain, and no other has its
number. -/
def Last (chain : List AfterInbound) (inbound : ℕ) : Prop :=
  ∃ front link, chain = front ++ [link] ∧ link.inbound = inbound ∧ link.stage = .queued ∧
    link.onFrame = none ∧
    ∀ other ∈ front, other.inbound ≠ inbound

structure Chained (s : PostInboundHookTransport) : Prop where
  fresh : ∀ link ∈ s.afterInboundChain, link.inbound < s.inboundFrames
  waiting : ∀ link ∈ s.afterInboundChain.tail, link.stage = .queued
  halted : s.afterInboundError.isSome = true → ∀ link ∈ s.afterInboundChain, link.stage = .queued
  last : s.afterInboundError = none → ∀ inbound, s.deferredOutboundFrames = some inbound →
    Last s.afterInboundChain inbound

theorem chained_initial : Chained initial := ⟨nofun, nofun, nofun, nofun⟩

theorem Last.split {chain : List AfterInbound} {inbound : ℕ} (last : Last chain inbound)
    (f : AfterInbound → AfterInbound) :
    ∃ front link, chain = front ++ [link] ∧ link.inbound = inbound ∧ link.stage = .queued ∧
      link.onFrame = none ∧
      chain.map (fun link => if link.inbound = inbound then f link else link) = front ++ [f link] ∧
      ∀ other ∈ front, other.inbound ≠ inbound := by
  obtain ⟨front, link, rfl, here, stands, unprocessed, apart⟩ := last
  refine ⟨front, link, rfl, here, stands, unprocessed, ?_, apart⟩
  have same : front.map (fun link => if link.inbound = inbound then f link else link) = front :=
    (List.map_congr_left fun other mem => if_neg (apart other mem)).trans (List.map_id' front)
  rw [List.map_append, same, List.map_singleton, if_pos here]

/-- The first link has come further than the last may have. -/
theorem Last.rest {link : AfterInbound} {rest : List AfterInbound} {inbound : ℕ}
    (last : Last (link :: rest) inbound) (further : link.stage = .queued → link.onFrame ≠ none) :
    link.inbound ≠ inbound ∧ Last rest inbound := by
  obtain ⟨front, final, same, here, stands, unprocessed, apart⟩ := last
  cases front with
  | nil =>
    cases same
    exact absurd unprocessed (further stands)
  | cons first front =>
    cases same
    refine ⟨apart _ (List.mem_cons_self ..), front, final, rfl, here, stands, unprocessed,
      fun other mem => ?_⟩
    exact apart other (List.mem_cons_of_mem _ mem)

theorem Last.cons {link : AfterInbound} {rest : List AfterInbound} {inbound : ℕ}
    (last : Last rest inbound) (apart : link.inbound ≠ inbound) : Last (link :: rest) inbound := by
  obtain ⟨front, final, rfl, here, stands, unprocessed, others⟩ := last
  exact ⟨link :: front, final, rfl, here, stands, unprocessed,
    List.forall_mem_cons.2 ⟨apart, others⟩⟩

/-- What a change of one link keeps, if it keeps the number and the stage. -/
theorem forall_updateLink {P : ℕ → AfterInboundStage → Prop} {chain : List AfterInbound}
    {inbound : ℕ} {f : AfterInbound → AfterInbound}
    (number : ∀ link, (f link).inbound = link.inbound) (stage : ∀ link, (f link).stage = link.stage)
    (all : ∀ link ∈ chain, P link.inbound link.stage) :
    ∀ link ∈ chain.map (fun link => if link.inbound = inbound then f link else link),
      P link.inbound link.stage := by
  intro link mem
  obtain ⟨old, there, rfl⟩ := List.mem_map.1 mem
  split_ifs
  · rw [number, stage]
    exact all old there
  · exact all old there

theorem Chained.update (chained : Chained s) {inbound : ℕ} {f : AfterInbound → AfterInbound}
    {deferring : Option ℕ} (number : ∀ link, (f link).inbound = link.inbound)
    (stage : ∀ link, (f link).stage = link.stage)
    (last : s.afterInboundError = none → ∀ inbound', deferring = some inbound' →
      Last (s.updateLink inbound f).afterInboundChain inbound') :
    Chained { s.updateLink inbound f with deferredOutboundFrames := deferring } where
  fresh :=
    forall_updateLink (P := fun inbound _ => inbound < s.inboundFrames) number stage chained.fresh
  waiting := by
    change ∀ link ∈ (s.afterInboundChain.map _).tail, _
    rw [← List.map_tail]
    exact forall_updateLink (P := fun _ stage => stage = .queued) number stage chained.waiting
  halted halted :=
    forall_updateLink (P := fun _ stage => stage = .queued) number stage (chained.halted halted)
  last := last

/-- The first link goes on. -/
theorem Chained.onward (chained : Chained s) {link link' : AfterInbound} {rest : List AfterInbound}
    (chain : s.afterInboundChain = link :: rest) (number : link'.inbound = link.inbound)
    (further : link.stage = .queued → link.onFrame ≠ none) (free : s.afterInboundError = none) :
    Chained (s.goOn (link' :: rest)) where
  fresh := by
    have fresh := chained.fresh
    rw [chain, List.forall_mem_cons] at fresh
    refine List.forall_mem_cons.2 ⟨?_, fresh.2⟩
    rw [number]
    exact fresh.1
  waiting := by
    have waiting := chained.waiting
    rw [chain] at waiting
    exact waiting
  halted halted := by
    rw [goOn, free] at halted
    cases halted
  last free inbound processing := by
    have last := chained.last free inbound processing
    rw [chain] at last
    obtain ⟨apart, rest⟩ := last.rest further
    exact rest.cons (number ▸ apart)

/-- The first link is over. -/
theorem Chained.pop (chained : Chained s) {link : AfterInbound} {rest : List AfterInbound}
    {error : Option Thrown} (chain : s.afterInboundChain = link :: rest)
    (worse : error = none → s.afterInboundError = none)
    (further : error = none → link.stage = .queued → link.onFrame ≠ none) :
    Chained { s.goOn rest with afterInboundError := error } where
  fresh := by
    have fresh := chained.fresh
    rw [chain, List.forall_mem_cons] at fresh
    exact fresh.2
  waiting := by
    have waiting := chained.waiting
    rw [chain] at waiting
    exact fun link mem => waiting link (List.mem_of_mem_tail mem)
  halted _ := by
    have waiting := chained.waiting
    rw [chain] at waiting
    exact waiting
  last free inbound processing := by
    have last := chained.last (worse free) inbound processing
    rw [chain] at last
    exact (last.rest (further free)).2

theorem not_halted (chained : Chained s) {link : AfterInbound} {rest : List AfterInbound}
    (chain : s.afterInboundChain = link :: rest) (stands : link.stage ≠ .queued) :
    s.afterInboundError = none := by
  refine Option.not_isSome_iff_eq_none.1 fun halted => stands (chained.halted halted link ?_)
  rw [chain]
  exact List.mem_cons_self ..

theorem Chained.moves (chained : Chained s) (moves : Moves s event s' effects) : Chained s' := by
  cases moves with
  | idle | direct => exact chained
  | arrived =>
    refine ⟨?_, ?_, ?_, ?_⟩
    · refine List.forall_mem_append.2 ⟨fun link mem =>
        Nat.lt_succ_of_lt (chained.fresh link mem), ?_⟩
      exact List.forall_mem_singleton.2 (Nat.lt_succ_self _)
    · unfold onInbound
      dsimp only
      cases chain : s.afterInboundChain with
      | nil => exact nofun
      | cons first rest =>
        have waiting := chained.waiting
        rw [chain] at waiting
        exact List.forall_mem_append.2 ⟨waiting, by simp⟩
    · exact fun halted => List.forall_mem_append.2 ⟨chained.halted halted, by simp⟩
    · rintro - inbound ⟨⟩
      exact ⟨s.afterInboundChain, _, rfl, rfl, rfl, rfl, fun link mem =>
        (chained.fresh link mem).ne⟩
  | processed inbound outcome => exact chained.update (fun _ => rfl) (fun _ => rfl) nofun
  | deferred inbound frame processing =>
    refine chained.update (fun _ => rfl) (fun _ => rfl) fun free inbound' same => ?_
    cases processing.symm.trans same
    obtain ⟨front, link, -, here, stands, unprocessed, changed, apart⟩ :=
      (chained.last free inbound processing).split fun link =>
        { link with deferred := link.deferred ++ [frame] }
    exact ⟨front, _, changed, here, stands, unprocessed, apart⟩
  | skipped link rest chain stands halted =>
    have not : s.afterInboundError ≠ none := Option.isSome_iff_ne_none.1 halted
    exact chained.pop chain id fun free => absurd free not
  | hooking link rest chain stands processed free =>
    exact chained.onward chain rfl (fun _ absent => nomatch processed.symm.trans absent) free
  | wrote link rest frame chain stands found =>
    exact chained.onward chain rfl (fun queued => absurd queued stands)
      (not_halted chained chain stands)
  | ended link rest chain stands done =>
    exact chained.pop chain id fun _ queued => absurd queued stands
  | failed link rest error chain =>
    have halted : (s.afterInboundError <|> some error) ≠ none := by
      cases s.afterInboundError <;> exact nofun
    exact chained.pop chain (fun free => absurd free halted) fun free => absurd free halted

/-! ## The frames of the chain -/

/-- The frames deferred and not written, in order. -/
def outstanding (s : PostInboundHookTransport) : List (ℕ × Bytes) :=
  s.afterInboundChain.flatMap AfterInbound.unwritten

theorem outstanding_cons {link : AfterInbound} {rest : List AfterInbound}
    (chain : s.afterInboundChain = link :: rest) :
    s.outstanding = link.unwritten ++ rest.flatMap AfterInbound.unwritten := by
  unfold outstanding
  rw [chain, List.flatMap_cons]

theorem outstanding_processed (inbound : ℕ) (outcome : Except Thrown Unit) :
    (s.updateLink inbound fun link => { link with onFrame := some outcome }).outstanding =
      s.outstanding := by
  unfold outstanding updateLink
  rw [List.flatMap_map]
  refine congrArg (s.afterInboundChain.flatMap ·) (funext fun link => ?_)
  split_ifs <;> rfl

theorem outstanding_deferred {inbound : ℕ} (last : Last s.afterInboundChain inbound)
    (frame : Bytes) :
    (s.updateLink inbound fun link =>
      { link with deferred := link.deferred ++ [frame] }).outstanding =
      s.outstanding ++ [(inbound, frame)] := by
  obtain ⟨front, link, chain, here, stands, -, changed, -⟩ :=
    last.split fun link => { link with deferred := link.deferred ++ [frame] }
  unfold outstanding updateLink
  dsimp only
  rw [changed, chain, List.flatMap_append, List.flatMap_append, List.append_assoc]
  congr 1
  unfold AfterInbound.unwritten
  simp [stands, AfterInboundStage.next, here]

theorem unwritten_wrote {link : AfterInbound} {frame : Bytes}
    (found : link.deferred[link.stage.next]? = some frame) :
    link.unwritten = (link.inbound, frame) :: (link.goTo (.sending link.stage.next)).unwritten := by
  obtain ⟨lt, same⟩ := List.getElem?_eq_some_iff.1 found
  unfold AfterInbound.unwritten
  rw [List.drop_eq_getElem_cons lt, same]
  rfl

theorem unwritten_ended {link : AfterInbound} (done : link.deferred[link.stage.next]? = none) :
    link.unwritten = [] := by
  unfold AfterInbound.unwritten
  rw [List.drop_eq_nil_of_le (List.getElem?_eq_none_iff.1 done), List.map_nil]

/-! ## The transport beside what is seen of it -/

/-- The inbound frame whose hook runs. -/
def hookRunning (s : PostInboundHookTransport) : Option ℕ :=
  match s.afterInboundChain with
  | ⟨inbound, _, _, .hooking⟩ :: _ => some inbound
  | _ => none

/-- A deferred frame is with the inner transport. -/
def sendRunning (s : PostInboundHookTransport) : Bool :=
  match s.afterInboundChain with
  | ⟨_, _, _, .sending _⟩ :: _ => true
  | _ => false

/-- The transport is as it is seen to be, as long as inbound frames come one after another. -/
structure Watched (s : PostInboundHookTransport) (w : HookWatch) : Prop where
  chained : Chained s
  arrived : w.arrived = s.inboundFrames
  processed : w.processed = s.deferredOutboundFrames
  hook : w.hook = s.hookRunning
  sending : w.sending = s.sendRunning
  hooked : ∀ link ∈ s.afterInboundChain, ∀ index, link.stage = .sending index →
    link.inbound ∈ w.hooked
  begins : w.replayed <+: w.deferred.map Prod.snd
  balance : s.afterInboundError = none → w.waiting = s.outstanding
  unsettled : ∀ link ∈ s.afterInboundChain, link.onFrame = none → w.processed = some link.inbound
  refused : ∀ link ∈ s.afterInboundChain, ∀ error, link.onFrame = some (.error error) →
    error ∈ w.rejected
  rejected : s.afterInboundError = none → ∀ error ∈ w.rejected, ∃ link ∈ s.afterInboundChain,
    link.stage = .queued ∧ link.onFrame = some (.error error)
  free : s.afterInboundError = none → w.failed = none
  error : ∀ error, s.afterInboundError = some error → w.failed = some error ∨ error ∈ w.rejected

theorem watched_initial : Watched initial .initial :=
  ⟨chained_initial, rfl, rfl, rfl, rfl, by simp [initial], List.prefix_rfl, fun _ => rfl, by
    simp [initial], by simp [initial], by simp [HookWatch.initial], fun _ => rfl, by simp [initial]⟩

variable {w : HookWatch}

theorem hookRunning_of_head {link : AfterInbound} {rest : List AfterInbound}
    (chain : s.afterInboundChain = link :: rest) :
    s.hookRunning = if link.stage = .hooking then some link.inbound else none := by
  obtain ⟨inbound, deferred, onFrame, stage⟩ := link
  unfold hookRunning
  rw [chain]
  cases stage <;> rfl

theorem sendRunning_of_head {link : AfterInbound} {rest : List AfterInbound}
    (chain : s.afterInboundChain = link :: rest) :
    s.sendRunning = (link.stage matches .sending _) := by
  obtain ⟨inbound, deferred, onFrame, stage⟩ := link
  unfold sendRunning
  rw [chain]
  cases stage <;> rfl

/-- Neither a hook nor a send runs while all links are queued. -/
theorem running_of_queued (queued : ∀ link ∈ s.afterInboundChain, link.stage = .queued) :
    s.hookRunning = none ∧ s.sendRunning = false := by
  cases chain : s.afterInboundChain with
  | nil =>
    unfold hookRunning sendRunning
    rw [chain]
    exact ⟨rfl, rfl⟩
  | cons link rest =>
    have stands := queued link (by rw [chain]; exact List.mem_cons_self)
    rw [hookRunning_of_head chain, sendRunning_of_head chain, stands]
    exact ⟨rfl, rfl⟩

theorem running_updateLink {inbound : ℕ} {f : AfterInbound → AfterInbound}
    (number : ∀ link, (f link).inbound = link.inbound)
    (stage : ∀ link, (f link).stage = link.stage) :
    (s.updateLink inbound f).hookRunning = s.hookRunning ∧ (s.updateLink inbound f).sendRunning =
      s.sendRunning := by
  cases chain : s.afterInboundChain with
  | nil =>
    unfold hookRunning sendRunning updateLink
    rw [chain]
    exact ⟨rfl, rfl⟩
  | cons link rest =>
    have changed : (s.updateLink inbound f).afterInboundChain =
        (if link.inbound = inbound then f link else link) ::
          rest.map fun link => if link.inbound = inbound then f link else link := by
      unfold updateLink
      rw [chain, List.map_cons]
    rw [hookRunning_of_head changed, sendRunning_of_head changed, hookRunning_of_head chain,
      sendRunning_of_head chain]
    split_ifs <;> simp_all

/-- The event with which a link goes on that is not queued. -/
theorem Watched.hear_awaited (watched : Watched s w) {link : AfterInbound}
    {rest : List AfterInbound} (chain : s.afterInboundChain = link :: rest)
    (stands : link.stage ≠ .queued) :
    ∃ hooked, w.hear link.stage.awaited =
      { w with hook := none, sending := false, hooked := hooked } ∧
      link.inbound ∈ hooked := by
  have hook := watched.hook.trans (hookRunning_of_head chain)
  have sending := watched.sending.trans (sendRunning_of_head chain)
  cases stage : link.stage with
  | queued => exact absurd stage stands
  | hooking =>
    rw [stage] at hook sending
    refine ⟨w.hooked ++ [link.inbound], ?_, List.mem_append_right _ (List.mem_singleton_self _)⟩
    have idle : w.sending = false := sending
    simp [AfterInboundStage.awaited, HookWatch.hear, hook, idle]
  | sending index =>
    rw [stage] at hook
    refine ⟨w.hooked, ?_, watched.hooked link (by rw [chain]; exact List.mem_cons_self) index stage⟩
    have none : w.hook = none := hook
    unfold AfterInboundStage.awaited HookWatch.hear
    rw [← none]
    cases w.failed <;> cases w.sending <;> rfl

/-- The event with which a link fails. -/
theorem Watched.hear_failing (watched : Watched s w) {link : AfterInbound}
    {rest : List AfterInbound} {error : Thrown} (chain : s.afterInboundChain = link :: rest)
    (rejected : link.stage = .queued → link.onFrame = some (.error error) ∧
      s.afterInboundError = none) :
    ∃ failed, w.hear (link.stage.failing error) =
      { w with hook := none, sending := false, failed := failed } ∧
      (failed = some error ∨ error ∈ w.rejected) := by
  have hook := watched.hook.trans (hookRunning_of_head chain)
  have sending := watched.sending.trans (sendRunning_of_head chain)
  have here : link ∈ s.afterInboundChain := by
    rw [chain]
    exact List.mem_cons_self
  have unfailed (stands : link.stage ≠ .queued) : w.failed = none :=
    watched.free (not_halted watched.chained chain stands)
  cases stage : link.stage with
  | queued =>
    rw [stage] at hook sending
    refine ⟨w.failed, ?_, .inr (watched.refused link here error (rejected stage).1)⟩
    have none : w.hook = none := hook
    have idle : w.sending = false := sending
    unfold AfterInboundStage.failing HookWatch.hear
    rw [← none, ← idle]
  | hooking =>
    rw [stage] at hook sending
    refine ⟨some error, ?_, .inl rfl⟩
    have idle : w.sending = false := sending
    unfold AfterInboundStage.failing HookWatch.hear
    rw [unfailed (by rw [stage]; simp), hook, ← idle]
    rfl
  | sending index =>
    rw [stage] at hook sending
    refine ⟨some error, ?_, .inl rfl⟩
    have none : w.hook = none := hook
    unfold AfterInboundStage.failing HookWatch.hear
    rw [unfailed (by rw [stage]; simp), sending, ← none]
    rfl

/-- The first link is over. -/
theorem Watched.pop (watched : Watched s w) {link : AfterInbound} {rest : List AfterInbound}
    {error failed : Option Thrown} (hooked : List ℕ) (chain : s.afterInboundChain = link :: rest)
    (chained : Chained { s.goOn rest with afterInboundError := error })
    (fine : error = none → s.afterInboundError = none ∧ link.unwritten = [] ∧
      (link.stage = .queued → ∀ error, link.onFrame ≠ some (.error error)) ∧ failed = none)
    (wrong : ∀ e, error = some e → failed = some e ∨ e ∈ w.rejected) :
    Watched { s.goOn rest with afterInboundError := error }
      { w with hook := none, sending := false, hooked := hooked, failed := failed } := by
  have queued : ∀ link ∈ rest, link.stage = .queued := by
    have waiting := watched.chained.waiting
    rw [chain] at waiting
    exact waiting
  have running := running_of_queued (s := { s.goOn rest with afterInboundError := error }) queued
  have later {link' : AfterInbound} (mem : link' ∈ rest) : link' ∈ s.afterInboundChain := by
    rw [chain]
    exact List.mem_cons_of_mem _ mem
  refine ⟨chained, watched.arrived, watched.processed, running.1.symm, running.2.symm,
    fun link mem index stands => ?_,
    watched.begins, fun free => ?_, fun link mem => watched.unsettled link (later mem),
    fun link mem => watched.refused link (later mem), fun free e mem => ?_, fun free =>
      (fine free).2.2.2, wrong⟩
  · cases (queued link mem).symm.trans stands
  · obtain ⟨before, done, -⟩ := fine free
    have balance := watched.balance before
    rw [outstanding_cons chain, done] at balance
    exact balance
  · obtain ⟨before, -, sound, -⟩ := fine free
    obtain ⟨other, there, stands, refused⟩ := watched.rejected before e mem
    rw [chain] at there
    rcases List.mem_cons.1 there with rfl | mem
    · exact absurd refused (sound stands e)
    · exact ⟨other, mem, stands, refused⟩

/-- The first link goes on. -/
theorem Watched.onward (watched : Watched s w) {link link' : AfterInbound}
    {rest : List AfterInbound} {w' : HookWatch} (chain : s.afterInboundChain = link :: rest)
    (chained : Chained (s.goOn (link' :: rest)))
    (sound : link.stage = .queued → ∀ error, link.onFrame ≠ some (.error error))
    (same : link'.inbound = link.inbound ∧ link'.onFrame = link.onFrame)
    (free : s.afterInboundError = none)
    (hook : w'.hook = if link'.stage = .hooking then some link.inbound else none)
    (sending : w'.sending = (link'.stage matches .sending _))
    (hooked : ∀ index, link'.stage = .sending index → link.inbound ∈ w'.hooked)
    (kept : w'.arrived = w.arrived ∧ w'.processed = w.processed ∧ w'.rejected = w.rejected ∧
      w'.failed = w.failed)
    (begins : w'.replayed <+: w'.deferred.map Prod.snd)
    (balance : w'.waiting = (s.goOn (link' :: rest)).outstanding) :
    Watched (s.goOn (link' :: rest)) w' := by
  have later {other : AfterInbound} (mem : other ∈ rest) : other ∈ s.afterInboundChain := by
    rw [chain]
    exact List.mem_cons_of_mem _ mem
  have here : link ∈ s.afterInboundChain := by
    rw [chain]
    exact List.mem_cons_self
  have queued : ∀ link ∈ rest, link.stage = .queued := by
    have waiting := watched.chained.waiting
    rw [chain] at waiting
    exact waiting
  obtain ⟨arrived, processed, rejected, failed⟩ := kept
  obtain ⟨number, settled⟩ := same
  refine ⟨chained, arrived.trans watched.arrived, processed.trans watched.processed, ?_, ?_,
    ?_, begins,
    fun _ => balance, ?_, ?_, fun _ e mem => ?_, fun _ => failed.trans (watched.free free),
      fun e bad => ?_⟩
  · rw [hookRunning_of_head rfl, hook, number]
  · rw [sendRunning_of_head rfl, sending]
  · refine List.forall_mem_cons.2 ⟨fun index stands => ?_, fun link mem index stands => ?_⟩
    · rw [number]
      exact hooked index stands
    · cases (queued link mem).symm.trans stands
  · refine List.forall_mem_cons.2 ⟨fun absent => ?_, fun link mem absent => ?_⟩
    · rw [processed, number]
      exact watched.unsettled link here (settled.symm.trans absent)
    · rw [processed]
      exact watched.unsettled link (later mem) absent
  · refine List.forall_mem_cons.2 ⟨fun e bad => ?_, fun link mem e bad => ?_⟩
    · rw [rejected]
      exact watched.refused link here e (settled.symm.trans bad)
    · rw [rejected]
      exact watched.refused link (later mem) e bad
  · rw [rejected] at mem
    obtain ⟨other, there, stands, refused⟩ := watched.rejected free e mem
    rw [chain] at there
    rcases List.mem_cons.1 there with rfl | mem
    · exact absurd refused (sound stands e)
    · exact ⟨other, List.mem_cons_of_mem _ mem, stands, refused⟩
  · cases free.symm.trans bad

/-- The next deferred frame is written. -/
theorem HookWatch.replay {inbound : ℕ} {frame : Bytes} {rest : List (ℕ × Bytes)}
    (begins : w.replayed <+: w.deferred.map Prod.snd)
    (next : w.waiting = (inbound, frame) :: rest) :
    w.deferred.drop (w.replayed ++ [frame]).length = rest ∧ w.replayed ++ [frame] <+:
      w.deferred.map Prod.snd := by
  unfold HookWatch.waiting at next
  constructor
  · rw [List.length_append, List.length_singleton, ← List.tail_drop, next]
    rfl
  · obtain ⟨tail, same⟩ := begins
    have goes : tail = frame :: rest.map Prod.snd := by
      have dropped := congrArg (List.drop w.replayed.length) same
      rw [List.drop_left, ← List.map_drop, next] at dropped
      exact dropped
    refine ⟨rest.map Prod.snd, ?_⟩
    rw [← same, goes]
    exact (List.append_cons _ _ _).symm

theorem Watched.hear_idle (watched : Watched s w)
    (quiet : event = .proceed ∨
      (∃ failure, event = .hookSettles failure ∧ ∀ link ∈ s.afterInboundChain.head?, link.stage ≠
        .hooking) ∨
      ∃ failure, event = .innerSendSettles failure ∧
        ∀ link ∈ s.afterInboundChain.head?, ∀ index, link.stage ≠ .sending index) :
        w.hear event = w := by
  have unfailed : (w.failed <|> none) = w.failed := by cases w.failed <;> rfl
  rcases quiet with rfl | ⟨failure, rfl, apart⟩ | ⟨failure, rfl, apart⟩
  · rfl
  · have none : w.hook = none := by
      rw [watched.hook]
      cases chain : s.afterInboundChain with
      | nil =>
        unfold hookRunning
        rw [chain]
      | cons link rest =>
        rw [hookRunning_of_head chain, if_neg (apart link (by rw [chain]; rfl))]
    cases failure with
    | none =>
      simp only [HookWatch.hear, none, Option.toList_none, List.append_nil]
      rw [← none]
    | some error =>
      simp only [HookWatch.hear, none, Option.isSome_none, Bool.false_eq_true, if_false, unfailed]
      rw [← none]
  · have idle : w.sending = false := by
      rw [watched.sending]
      cases chain : s.afterInboundChain with
      | nil =>
        unfold sendRunning
        rw [chain]
      | cons link rest =>
        rw [sendRunning_of_head chain]
        have apart := apart link (by rw [chain]; rfl)
        cases stage : link.stage with
        | queued | hooking => rfl
        | sending index => exact absurd stage (apart index)
    simp only [HookWatch.hear, idle, Bool.false_eq_true, if_false, unfailed]
    rw [← idle]

/-- A new link does not run. -/
theorem running_onInbound (s : PostInboundHookTransport) :
    s.onInbound.hookRunning = s.hookRunning ∧ s.onInbound.sendRunning = s.sendRunning := by
  cases chain : s.afterInboundChain with
  | nil =>
    unfold hookRunning sendRunning onInbound
    rw [chain]
    exact ⟨rfl, rfl⟩
  | cons link rest =>
    have grown : s.onInbound.afterInboundChain =
        link :: (rest ++ [⟨s.inboundFrames, [], none, .queued⟩]) := by
      unfold onInbound
      rw [chain]
      rfl
    rw [hookRunning_of_head chain, hookRunning_of_head grown, sendRunning_of_head chain,
      sendRunning_of_head grown]
    exact ⟨rfl, rfl⟩

/-- An inbound frame comes in. -/
theorem Watched.arrive (watched : Watched s w) (idle : w.processed = none)
    (chained : Chained s.onInbound) :
    Watched s.onInbound (w.note .inbound []) := by
  have settled : ∀ link ∈ s.afterInboundChain, link.onFrame ≠ none := fun link mem absent => by
    cases idle.symm.trans (watched.unsettled link mem absent)
  obtain ⟨hook, sending⟩ := running_onInbound s
  refine ⟨chained, congrArg (· + 1) watched.arrived, congrArg some watched.arrived,
    watched.hook.trans hook.symm, watched.sending.trans sending.symm, ?_,
    watched.begins, ?_, ?_, ?_, fun free e mem => ?_, watched.free, watched.error⟩
  · exact List.forall_mem_append.2 ⟨watched.hooked, by simp⟩
  · intro free
    refine (watched.balance free).trans ?_
    unfold outstanding onInbound
    simp [AfterInbound.unwritten]
  · refine List.forall_mem_append.2 ⟨fun link mem absent => absurd absent (settled link mem), ?_⟩
    exact List.forall_mem_singleton.2 fun _ => congrArg some watched.arrived
  · exact List.forall_mem_append.2 ⟨watched.refused, by simp⟩
  · obtain ⟨link, there, refused⟩ := watched.rejected free e mem
    exact ⟨link, List.mem_append_left _ there, refused⟩

/-- The `onFrame` promise of the inbound frame is settled. -/
theorem Watched.settle (watched : Watched s w) {inbound : ℕ} (here : w.processed = some inbound)
    (outcome : Except Thrown Unit)
    (chained : Chained { s.updateLink inbound fun link => { link with onFrame := some outcome } with
      deferredOutboundFrames := none }) :
    Watched { s.updateLink inbound fun link => { link with onFrame := some outcome } with
      deferredOutboundFrames := none } (w.note (.onFrameSettles inbound outcome) []) := by
  obtain ⟨new, same, only⟩ : ∃ new, w.note (.onFrameSettles inbound outcome) [] =
      { w with processed := none, rejected := w.rejected ++ new } ∧ ∀ e, e ∈ new ↔
      outcome = .error e := by
    cases outcome with
    | ok =>
      refine ⟨[], ?_, by simp⟩
      rw [List.append_nil]
      rfl
    | error error => exact ⟨[error], rfl, by simp [eq_comm]⟩
  obtain ⟨hook, sending⟩ := @running_updateLink s inbound
    (fun link => { link with onFrame := some outcome }) (fun _ => rfl) fun _ => rfl
  rw [same]
  refine ⟨chained, watched.arrived, rfl, watched.hook.trans hook.symm,
    watched.sending.trans sending.symm,
    forall_updateLink (P := fun inbound stage => ∀ index, stage = .sending index →
      inbound ∈ w.hooked) (fun _ => rfl) (fun _ => rfl) watched.hooked, watched.begins,
    fun free => (watched.balance free).trans (outstanding_processed inbound outcome).symm, ?_, ?_,
    ?_, watched.free, fun e bad => (watched.error e bad).imp_right (List.mem_append_left _)⟩
  · intro link mem absent
    obtain ⟨old, there, rfl⟩ := List.mem_map.1 mem
    split_ifs at absent with number
    exact absurd (Option.some.inj (here.symm.trans (watched.unsettled old there absent))).symm
      number
  · intro link mem e bad
    obtain ⟨old, there, rfl⟩ := List.mem_map.1 mem
    split_ifs at bad
    · exact List.mem_append_right _ ((only e).2 (Option.some.inj bad))
    · exact List.mem_append_left _ (watched.refused old there e bad)
  · intro free e mem
    obtain ⟨front, last, chain, number, stands, unprocessed, changed, apart⟩ :=
      (watched.chained.last free inbound (watched.processed.symm.trans here)).split
        fun link => { link with onFrame := some outcome }
    change ∃ link ∈ s.afterInboundChain.map _, _
    rw [changed]
    rcases List.mem_append.1 mem with old | fresh
    · obtain ⟨link, there, queued, refused⟩ := watched.rejected free e old
      rw [chain] at there
      rcases List.mem_append.1 there with inside | final
      · exact ⟨link, List.mem_append_left _ inside, queued, refused⟩
      · rw [List.mem_singleton.1 final, unprocessed] at refused
        cases refused
    · refine ⟨_, List.mem_append_right _ (List.mem_singleton_self _), stands, ?_⟩
      rw [(only e).1 fresh]

/-- A frame is deferred. -/
theorem Watched.defer (watched : Watched s w) {inbound : ℕ}
    (processing : s.deferredOutboundFrames = some inbound) (frame : Bytes)
    (chained : Chained (s.updateLink inbound fun link =>
      { link with deferred := link.deferred ++ [frame] })) :
    Watched (s.updateLink inbound fun link => { link with deferred := link.deferred ++ [frame] })
      (w.note (.send frame) []) := by
  have here : w.processed = some inbound := watched.processed.trans processing
  have same : w.note (.send frame) [] =
      { w with passed := w.passed ++ [frame], deferred := w.deferred ++ [(inbound, frame)] } := by
    unfold HookWatch.note HookWatch.hear
    rw [here]
    rfl
  obtain ⟨hook, sending⟩ := @running_updateLink s inbound
    (fun link => { link with deferred := link.deferred ++ [frame] }) (fun _ => rfl) fun _ => rfl
  have settled {link : AfterInbound} (mem : link ∈ (s.updateLink inbound
      fun link => { link with deferred := link.deferred ++ [frame] }).afterInboundChain) :
      ∃ old ∈ s.afterInboundChain, link.inbound = old.inbound ∧ link.onFrame = old.onFrame := by
    obtain ⟨old, there, rfl⟩ := List.mem_map.1 mem
    refine ⟨old, there, ?_⟩
    split_ifs <;> exact ⟨rfl, rfl⟩
  rw [same]
  refine ⟨chained, watched.arrived, watched.processed, watched.hook.trans hook.symm,
    watched.sending.trans sending.symm,
    forall_updateLink (P := fun inbound stage => ∀ index, stage = .sending index →
      inbound ∈ w.hooked)
      (fun _ => rfl) (fun _ => rfl) watched.hooked, ?_, fun free => ?_, fun link mem absent => ?_,
    fun link mem e bad => ?_, fun free e mem => ?_, watched.free, watched.error⟩
  · rw [List.map_append]
    exact watched.begins.trans (List.prefix_append _ _)
  · rw [outstanding_deferred (watched.chained.last free inbound processing),
      ← watched.balance free]
    refine List.drop_append_of_le_length ?_
    simpa using watched.begins.length_le
  · obtain ⟨old, there, number, settled⟩ := settled mem
    rw [number]
    exact watched.unsettled old there (settled.symm.trans absent)
  · obtain ⟨old, there, -, settled⟩ := settled mem
    exact watched.refused old there e (settled.symm.trans bad)
  · obtain ⟨old, there, queued, refused⟩ := watched.rejected free e mem
    refine ⟨_, List.mem_map_of_mem there, ?_⟩
    split_ifs <;> exact ⟨queued, refused⟩

theorem Watched.moves (watched : Watched s w) (serial : w.serial event = true)
    (moves : Moves s event s' effects) :
    Watched s' (w.note event effects) := by
  have chained := watched.chained.moves moves
  cases moves with
  | idle event quiet =>
    have same : w.note event [] = w := watched.hear_idle quiet
    rw [same]
    exact watched
  | skipped link rest chain stands halted =>
    have queued := watched.chained.halted halted
    have running := running_of_queued queued
    have same : w.note .proceed [] =
        { w with hook := none, sending := false, hooked := w.hooked, failed := w.failed } := by
      have none := watched.hook.trans running.1
      have idle := watched.sending.trans running.2
      unfold HookWatch.note HookWatch.hear
      rw [List.foldl_nil, ← none, ← idle]
    rw [same]
    refine watched.pop w.hooked chain chained (fun free => ?_) fun e bad => watched.error e bad
    cases (Option.isSome_iff_ne_none.1 halted) free
  | ended link rest chain stands done =>
    obtain ⟨hooked, same, -⟩ := watched.hear_awaited chain stands
    have free := not_halted watched.chained chain stands
    have heard : w.note link.stage.awaited [] =
        { w with hook := none, sending := false, hooked := hooked } := same
    rw [heard]
    refine watched.pop hooked chain chained (fun _ => ?_) fun e bad => ?_
    · exact ⟨free, unwritten_ended done, fun queued => absurd queued stands, watched.free free⟩
    · cases free.symm.trans bad
  | failed link rest error chain rejected =>
    obtain ⟨failed, same, wrong⟩ := watched.hear_failing chain rejected
    have heard : w.note (link.stage.failing error)
        [] = { w with hook := none, sending := false, failed := failed } := same
    rw [heard]
    have free : s.afterInboundError = none := by
      by_cases stands : link.stage = .queued
      · exact (rejected stands).2
      · exact not_halted watched.chained chain stands
    unfold fail at chained ⊢
    rw [free] at chained ⊢
    refine watched.pop w.hooked chain chained (fun absent => ?_) fun e bad => ?_
    · cases absent
    · cases bad
      exact wrong
  | hooking link rest chain stands processed free =>
    have hook := watched.hook.trans (hookRunning_of_head chain)
    have sending := watched.sending.trans (sendRunning_of_head chain)
    rw [stands] at hook sending
    change Watched _ { w with hook := some link.inbound }
    refine watched.onward chain chained (fun _ e bad => ?_) ⟨rfl, rfl⟩ free rfl
      sending (fun index bad => ?_) ⟨rfl, rfl, rfl, rfl⟩ watched.begins ?_
    · cases processed.symm.trans bad
    · cases bad
    · have balance := watched.balance free
      rw [outstanding_cons chain] at balance
      rw [outstanding_cons rfl]
      unfold AfterInbound.unwritten at balance ⊢
      rw [stands] at balance
      exact balance
  | wrote link rest frame chain stands found =>
    obtain ⟨hooked, same, mem⟩ := watched.hear_awaited chain stands
    have free := not_halted watched.chained chain stands
    have heard : w.note link.stage.awaited [.written frame] =
        { w with hook := none, sending := true, hooked := hooked, written := w.written ++ [frame],
                 replayed := w.replayed ++ [frame] } := by
      unfold HookWatch.note
      rw [same]
      cases stage : link.stage with
      | queued => exact absurd stage stands
      | hooking | sending => rfl
    rw [heard]
    have next := watched.balance free
    rw [outstanding_cons chain, unwritten_wrote found, List.cons_append] at next
    obtain ⟨rests, begins⟩ := HookWatch.replay watched.begins next
    refine watched.onward chain chained (fun queued => absurd queued stands) ⟨rfl, rfl⟩ free rfl rfl
      (fun index _ => mem) ⟨rfl, rfl, rfl, rfl⟩ begins ?_
    rw [outstanding_cons rfl]
    exact rests
  | arrived => exact watched.arrive (Option.isNone_iff_eq_none.1 serial) chained
  | processed inbound outcome => exact watched.settle (eq_of_beq serial) outcome chained
  | deferred inbound frame processing => exact watched.defer processing frame chained
  | direct frame idle =>
    have none : w.processed = none := watched.processed.trans idle
    have same : w.note (.send frame) [.written frame] =
        { w with passed := w.passed ++ [frame], written := w.written ++ [frame] } := by
      unfold HookWatch.note HookWatch.hear
      rw [none]
      simp [HookWatch.see]
    rw [same]
    exact ⟨chained, watched.arrived, watched.processed, watched.hook, watched.sending,
      watched.hooked, watched.begins,
      watched.balance, watched.unsettled, watched.refused, watched.rejected, watched.free,
        watched.error⟩

/-! ## What a step shows -/

theorem accepts_of_quiet (other : ∀ frame, event ≠ .send frame)
    (quiet : ∀ frame, .written frame ∉ effects) :
    w.Accepts event effects := by
  unfold HookWatch.Accepts
  split
  · exact absurd rfl (other _)
  · exact fun frame mem => absurd mem (quiet frame)

theorem awaited_ne_send (stage : AfterInboundStage) (frame : Bytes) :
    stage.awaited ≠ .send frame := by
  cases stage <;> simp [AfterInboundStage.awaited]

theorem failing_ne_send (stage : AfterInboundStage) (error : Thrown) (frame : Bytes) :
    stage.failing error ≠ .send frame := by
  cases stage <;> simp [AfterInboundStage.failing]

/-- A step does what the transport is to do. -/
theorem Watched.accepts (watched : Watched s w) (moves : Moves s event s' effects) :
    w.Accepts event effects := by
  cases moves with
  | idle event quiet =>
    refine accepts_of_quiet (fun frame same => ?_) (by simp)
    rcases quiet with rfl | ⟨failure, rfl, -⟩ | ⟨failure, rfl, -⟩ <;> cases same
  | arrived | processed | skipped => exact accepts_of_quiet (by simp) (by simp)
  | hooking => exact accepts_of_quiet (by simp) (by simp)
  | ended link => exact accepts_of_quiet (awaited_ne_send link.stage) (by simp)
  | failed link rest error => exact accepts_of_quiet (failing_ne_send link.stage error) (by simp)
  | deferred inbound frame processing =>
    change _ = if w.processed.isNone then _ else _
    rw [watched.processed, processing]
    rfl
  | direct frame idle =>
    change _ = if w.processed.isNone then _ else _
    rw [watched.processed, idle]
    rfl
  | wrote link rest frame chain stands found =>
    have next := watched.balance (not_halted watched.chained chain stands)
    rw [outstanding_cons chain, unwritten_wrote found, List.cons_append] at next
    obtain ⟨hooked, heard, mem⟩ := watched.hear_awaited chain stands
    unfold HookWatch.Accepts
    split
    · exact absurd ‹_› (awaited_ne_send link.stage _)
    · intro frame' written
      cases List.mem_singleton.1 written
      refine ⟨rfl, link.inbound, by rw [next]; rfl, ?_⟩
      rw [heard]
      exact mem

/-- What the transport does changes nothing of what has come in. -/
theorem note_kept (w : HookWatch) (event : HookEvent) (effects : List HookEffect) :
    (w.note event effects).processed = (w.hear event).processed ∧
      (w.note event effects).deferred = (w.hear event).deferred ∧
      (w.note event effects).rejected = (w.hear event).rejected ∧
      (w.note event effects).failed = (w.hear event).failed := by
  have see (v : HookWatch) (effect : HookEffect) : (HookWatch.see event v effect).processed =
      v.processed ∧
      (HookWatch.see event v effect).deferred = v.deferred ∧
      (HookWatch.see event v effect).rejected = v.rejected ∧
      (HookWatch.see event v effect).failed = v.failed := by
    cases effect with
    | afterInbound => exact ⟨rfl, rfl, rfl, rfl⟩
    | written => cases event <;> exact ⟨rfl, rfl, rfl, rfl⟩
  unfold HookWatch.note
  generalize w.hear event = v
  induction effects generalizing v with
  | nil => exact ⟨rfl, rfl, rfl, rfl⟩
  | cons effect effects ih =>
    obtain ⟨processed, deferred, rejected, failed⟩ := ih (HookWatch.see event v effect)
    obtain ⟨processed', deferred', rejected', failed'⟩ := see v effect
    exact ⟨processed.trans processed', deferred.trans deferred', rejected.trans rejected',
      failed.trans failed'⟩

/-- A step that writes nothing. -/
theorem note_quiet (w : HookWatch) (event : HookEvent) {effects : List HookEffect}
    (quiet : ∀ frame, .written frame ∉ effects) :
    (w.note event effects).passed = (w.hear event).passed ∧ (w.note event effects).written =
      (w.hear event).written ∧
      (w.note event effects).waiting = (w.hear event).waiting := by
  unfold HookWatch.note
  generalize w.hear event = v
  induction effects generalizing v with
  | nil => exact ⟨rfl, rfl, rfl⟩
  | cons effect effects ih =>
    cases effect with
    | afterInbound inbound outbound =>
      exact ih (fun frame mem => quiet frame (List.mem_cons_of_mem _ mem)) (HookWatch.see event v _)
    | written frame => exact absurd List.mem_cons_self (quiet frame)

/-- Frames that are written in order stay in order. -/
theorem HookWatch.note_inOrder (accepts : w.Accepts event effects) (keeps : w.inOrder event = true)
    (begins : w.replayed <+: w.deferred.map Prod.snd)
    (order : w.passed = w.written ++ w.waiting.map Prod.snd) :
    (w.note event effects).passed = (w.note event effects).written ++
      (w.note event effects).waiting.map Prod.snd := by
  have replay (heard : (w.hear event).passed = w.passed ∧ (w.hear event).written = w.written ∧
        (w.hear event).deferred = w.deferred ∧ (w.hear event).replayed = w.replayed)
      (replays : ∀ v frame, HookWatch.see event v (.written frame) =
        { v with written := v.written ++ [frame], replayed :=
          v.replayed ++ [frame], sending := true })
      (accepts : ∀ frame, .written frame ∈ effects → effects = [.written frame] ∧
        ∃ inbound, w.waiting.head? = some (inbound, frame) ∧ inbound ∈ (w.hear event).hooked) :
      (w.note event effects).passed =
        (w.note event effects).written ++ (w.note event effects).waiting.map Prod.snd := by
    obtain ⟨passed, written, deferred, replayed⟩ := heard
    by_cases writes : ∃ frame, .written frame ∈ effects
    · obtain ⟨frame, mem⟩ := writes
      obtain ⟨rfl, inbound, next, -⟩ := accepts frame mem
      obtain ⟨rest, next⟩ := List.head?_eq_some_iff.1 next
      have rests := (HookWatch.replay begins next).1
      rw [next] at order
      unfold HookWatch.note HookWatch.waiting
      rw [List.foldl_cons, List.foldl_nil, replays]
      dsimp only
      rw [passed, written, deferred, replayed, rests, order, List.map_cons, List.append_cons]
    · obtain ⟨passed', written', waiting'⟩ := note_quiet w event (not_exists.1 writes)
      have waits : (w.hear event).waiting = w.waiting := by
        unfold HookWatch.waiting
        rw [deferred, replayed]
      rw [passed', written', waiting', passed, written, waits]
      exact order
  cases event with
  | send frame =>
    have shows : effects = if w.processed.isNone then [.written frame] else [] := accepts
    cases processed : w.processed with
    | none =>
      have empty : w.waiting = [] := by
        have keeps : (w.processed.isSome || w.waiting.isEmpty) = true := keeps
        rw [processed] at keeps
        exact List.isEmpty_iff.1 keeps
      rw [processed] at shows
      obtain rfl : effects = [.written frame] := shows
      have waits : (w.note (.send frame) [.written frame]).waiting = w.waiting := by
        unfold HookWatch.note HookWatch.hear HookWatch.waiting
        rw [processed]
        exact congrArg _ (List.append_nil _)
      rw [waits, empty]
      change w.passed ++ [frame] = (w.written ++ [frame]) ++ []
      rw [order, empty, List.map_nil, List.append_nil, List.append_nil]
    | some inbound =>
      rw [processed] at shows
      obtain rfl : effects = [] := shows
      have waits : (w.note (.send frame) []).waiting = w.waiting ++ [(inbound, frame)] := by
        unfold HookWatch.note HookWatch.hear HookWatch.waiting
        rw [processed]
        refine List.drop_append_of_le_length ?_
        simpa using begins.length_le
      rw [waits, List.map_append]
      change w.passed ++ [frame] = w.written ++ _
      rw [order, List.append_assoc]
      rfl
  | inbound | proceed => exact replay ⟨rfl, rfl, rfl, rfl⟩ (fun _ _ => rfl) accepts
  | onFrameSettles inbound outcome =>
    refine replay ?_ (fun _ _ => rfl) accepts
    cases outcome <;> exact ⟨rfl, rfl, rfl, rfl⟩
  | hookSettles failure =>
    refine replay ?_ (fun _ _ => rfl) accepts
    cases failure <;> exact ⟨rfl, rfl, rfl, rfl⟩
  | innerSendSettles failure => exact replay ⟨rfl, rfl, rfl, rfl⟩ (fun _ _ => rfl) accepts

/-! ## Whole runs -/

/-- The transport beside what is seen of it. -/
def watching (t : PostInboundHookTransport × HookWatch) (event : HookEvent) :
    (PostInboundHookTransport × HookWatch) × List HookEffect :=
  (((t.1.step event).1, t.2.note event (t.1.step event).2), (t.1.step event).2)

theorem watched_step (t : PostInboundHookTransport × HookWatch) (event : HookEvent)
    (serial : t.2.serial event = true) (watched : Watched t.1 t.2) :
    Watched (watching t event).1.1 (watching t event).1.2 :=
  watched.moves serial (moves_step t.1 event)

/-! ## The end of the chain -/

/-- The steps that the link takes yet. -/
def linkCost (link : AfterInbound) : ℕ :=
  link.unwritten.length +
    match link.stage with
    | .queued => 3
    | .hooking => 2
    | .sending _ => 1

def cost (s : PostInboundHookTransport) : ℕ := (s.afterInboundChain.map linkCost).sum

theorem cost_cons {link : AfterInbound} {rest : List AfterInbound}
    (chain : s.afterInboundChain = link :: rest) :
    s.cost = linkCost link + (rest.map linkCost).sum := by
  unfold cost
  rw [chain, List.map_cons, List.sum_cons]

theorem linkCost_pos (link : AfterInbound) : 0 < linkCost link := by
  unfold linkCost
  split <;> omega

theorem cost_sendDeferred {link : AfterInbound} {rest : List AfterInbound}
    (chain : s.afterInboundChain = link :: rest) (stands : link.stage ≠ .queued) :
    (s.sendDeferred link rest link.stage.next).1.cost < s.cost := by
  unfold sendDeferred
  rw [cost_cons chain]
  cases found : link.deferred[link.stage.next]? with
  | some frame =>
    have shorter := congrArg List.length (unwritten_wrote found)
    rw [List.length_cons] at shorter
    have cheaper : linkCost (link.goTo (.sending link.stage.next)) < linkCost link := by
      unfold linkCost
      rw [shorter]
      cases stage : link.stage with
      | queued => exact absurd stage stands
      | hooking | sending index => simp [AfterInbound.goTo]
    exact Nat.add_lt_add_right cheaper _
  | none => exact Nat.lt_add_of_pos_left (linkCost_pos link)

theorem Watched.unhalted (watched : Watched s w) (failed : w.failed = none)
    (rejected : w.rejected = []) :
    s.afterInboundError = none := by
  cases error : s.afterInboundError with
  | none => rfl
  | some e =>
    obtain bad | mem := watched.error e error
    · cases failed.symm.trans bad
    · rw [rejected] at mem
      cases mem

/-- Where nothing has failed and no inbound frame is processed, the chain goes on. -/
theorem Watched.goes_on (watched : Watched s w) (settled : w.processed = none)
    (failed : w.failed = none) (rejected : w.rejected = []) {link : AfterInbound}
    {rest : List AfterInbound} (chain : s.afterInboundChain = link :: rest) :
    (s.step link.stage.awaited).1.cost < s.cost := by
  have here : link ∈ s.afterInboundChain := by
    rw [chain]
    exact List.mem_cons_self
  have free := watched.unhalted failed rejected
  have acts (act : AfterInbound → List AfterInbound → PostInboundHookTransport × List HookEffect) :
      s.atLink act = act link rest := by
    unfold atLink
    rw [chain]
  have sends (stands : link.stage ≠ .queued) := cost_sendDeferred chain stands
  cases stage : link.stage with
  | queued =>
    have processed : link.onFrame = some (.ok ()) := by
      cases outcome : link.onFrame with
      | none => cases settled.symm.trans (watched.unsettled link here outcome)
      | some outcome' =>
        cases outcome' with
        | ok => rfl
        | error e =>
          have mem := watched.refused link here e outcome
          rw [rejected] at mem
          cases mem
    have goes : (s.step .proceed).1 = s.goOn (link.goTo .hooking :: rest) := by
      unfold step
      dsimp only
      rw [acts, stage]
      unfold proceed
      rw [free, processed]
      rfl
    change (s.step .proceed).1.cost < _
    rw [goes, cost_cons chain, cost_cons rfl]
    have cheaper : linkCost (link.goTo .hooking) < linkCost link := by
      unfold linkCost AfterInbound.unwritten
      rw [stage]
      exact Nat.lt_succ_self _
    exact Nat.add_lt_add_right cheaper _
  | hooking =>
    have goes : s.step (.hookSettles none) = s.sendDeferred link rest link.stage.next := by
      unfold step
      dsimp only
      rw [acts, stage]
      rfl
    change (s.step (.hookSettles none)).1.cost < _
    rw [goes]
    exact sends (by simp [stage])
  | sending index =>
    have goes : s.step (.innerSendSettles none) = s.sendDeferred link rest link.stage.next := by
      unfold step
      dsimp only
      rw [acts, stage]
      rfl
    change (s.step (.innerSendSettles none)).1.cost < _
    rw [goes]
    exact sends (by simp [stage])

theorem note_awaited (w : HookWatch) (stage : AfterInboundStage) (effects : List HookEffect) :
    (w.note stage.awaited effects).processed = w.processed ∧
      (w.note stage.awaited effects).deferred = w.deferred ∧
      (w.note stage.awaited effects).rejected = w.rejected ∧ (w.note stage.awaited effects).failed =
        w.failed := by
  obtain ⟨processed, deferred, rejected, failed⟩ := note_kept w stage.awaited effects
  rw [processed, deferred, rejected, failed]
  cases stage with
  | queued | hooking => exact ⟨rfl, rfl, rfl, rfl⟩
  | sending index =>
    refine ⟨rfl, rfl, rfl, ?_⟩
    change (w.failed <|> if w.sending then none else none) = w.failed
    cases w.failed <;> simp

theorem serial_awaited (w : HookWatch) (stage : AfterInboundStage) :
    w.serial stage.awaited = true := by
  cases stage <;> rfl

/-- The hooks and the sends that the chain awaits bring it to its end. -/
theorem Watched.drains {t : PostInboundHookTransport × HookWatch} (watched : Watched t.1 t.2)
    (settled : t.2.processed = none) (failed : t.2.failed = none) (rejected : t.2.rejected = []) :
    ∃ more : List AfterInboundStage,
      (Machine.final watching t (more.map AfterInboundStage.awaited)).1.afterInboundChain = [] ∧
        (Machine.final watching t (more.map AfterInboundStage.awaited)).2.deferred = t.2.deferred ∧
        (Machine.final watching t (more.map AfterInboundStage.awaited)).2.waiting = [] := by
  induction cost : t.1.cost using Nat.strong_induction_on generalizing t with
  | _ n ih =>
    cases chain : t.1.afterInboundChain with
    | nil =>
      refine ⟨[], chain, rfl, ?_⟩
      refine (watched.balance (watched.unhalted failed rejected)).trans ?_
      unfold outstanding
      rw [chain]
      rfl
    | cons link rest =>
      have goes := watched.goes_on settled failed rejected chain
      obtain ⟨processed', deferred', rejected', failed'⟩ :=
        note_awaited t.2 link.stage (t.1.step link.stage.awaited).2
      obtain ⟨more, ends, deferred, written⟩ :=
        ih _ (cost ▸ goes) (t := (watching t link.stage.awaited).1)
        (watched_step t _ (serial_awaited t.2 link.stage) watched) (processed'.trans settled)
        (failed'.trans failed) (rejected'.trans rejected) rfl
      exact ⟨link.stage :: more, ends, deferred.trans deferred', written⟩

/-- What becomes of the frames passed to `send`, when inbound frames come one after another.  Every
step does what the transport is to do, so the deferred frames are written in the order they are
passed, each once and after the hook for its inbound frame; if no frame is passed straight on while
deferred ones wait, all frames are.  If nothing fails, all are written once the chain is over, and
hooks and sends that complete bring it there. -/
theorem frames_written (events : List HookEvent)
    (serial : Machine.Always watching (fun t event => t.2.serial event = true)
      (initial, .initial) events) :
    let t := Machine.final watching (initial, .initial) events
    Machine.Always watching (fun t event => t.2.Accepts event (t.1.step event).2)
      (initial, .initial) events ∧
      t.2.replayed <+: t.2.deferred.map Prod.snd ∧
      (Machine.Always watching (fun t event => t.2.inOrder event = true)
        (initial, .initial) events →
        t.2.passed = t.2.written ++ t.2.waiting.map Prod.snd) ∧
      (t.2.failed = none ∧ t.2.rejected = [] →
        (t.1.afterInboundChain = [] → t.2.waiting = []) ∧
        (t.2.processed = none → ∃ more : List AfterInboundStage,
          let t' := Machine.final watching t (more.map AfterInboundStage.awaited)
          t'.1.afterInboundChain = [] ∧ t'.2.deferred = t.2.deferred ∧ t'.2.waiting = [])) ∧
      (t.1.flushAfterInbound = .ok () → t.2.failed = none ∧
        (t.1.afterInboundChain = [] → t.2.rejected = [])) ∧
      ∀ error, t.1.flushAfterInbound = .error error → t.2.failed = some error ∨
      error ∈ t.2.rejected := by
  have along := serial.along (P := fun t => Watched t.1 t.2) watched_step watched_initial
  have watched : Watched _ _ :=
    serial.invariant (P := fun t => Watched t.1 t.2) watched_step watched_initial
  refine ⟨along.mono fun t event holds => holds.1.accepts (moves_step t.1 event), watched.begins,
    fun ordered => ?_,
    fun fine => ⟨fun ended => ?_, fun settled => watched.drains settled fine.1 fine.2⟩,
    fun flushed => ?_, fun error flushed => ?_⟩
  · refine ((along.and ordered).invariant (P := fun t => t.2.passed =
      t.2.written ++ t.2.waiting.map Prod.snd) ?_ rfl)
    rintro t event ⟨⟨watched, -⟩, keeps⟩ order
    exact HookWatch.note_inOrder (watched.accepts (moves_step t.1 event)) keeps watched.begins order
  · refine (watched.balance (watched.unhalted fine.1 fine.2)).trans ?_
    unfold outstanding
    rw [ended]
    rfl
  · have free : (Machine.final watching (initial, .initial) events).1.afterInboundError = none := by
      unfold flushAfterInbound at flushed
      split at flushed
      · cases flushed
      · assumption
    refine ⟨watched.free free, fun ended => List.eq_nil_iff_forall_not_mem.2 fun error mem => ?_⟩
    obtain ⟨link, there, -⟩ := watched.rejected free error mem
    rw [ended] at there
    cases there
  · refine watched.error error ?_
    unfold flushAfterInbound at flushed
    split at flushed
    · cases flushed
      assumption
    · cases flushed

/-- Two inbound frames, the second when the first is over. -/
theorem frames_written_serial :
    let events : List HookEvent :=
      [.inbound, .send [1], .onFrameSettles 0 (.ok ()), .proceed, .hookSettles none,
        .innerSendSettles none, .send [2],
        .inbound, .send [3], .send [4], .onFrameSettles 1 (.ok ()), .proceed, .hookSettles none]
    let t := Machine.final watching (initial, .initial) events
    t.2.passed = t.2.written ++ t.2.waiting.map Prod.snd ∧ t.2.written = [[1], [2], [3]] := by
  have written := frames_written
    [.inbound, .send [1], .onFrameSettles 0 (.ok ()), .proceed, .hookSettles none,
      .innerSendSettles none, .send [2],
      .inbound, .send [3], .send [4], .onFrameSettles 1 (.ok ()), .proceed, .hookSettles none]
      (by decide)
  exact ⟨written.2.2.1 (by decide), by decide⟩

/-- A frame that the hook sends passes the one deferred before it, and after a hook that fails no
deferred frame is written. -/
theorem frames_pass_and_drop :
    let passing := Machine.final watching (initial, .initial)
      [.inbound, .send [1], .onFrameSettles 0 (.ok ()), .proceed, .send [2], .hookSettles none,
        .innerSendSettles none]
    let dropping := Machine.final watching (initial, .initial)
      [.inbound, .send [1], .onFrameSettles 0 (.ok ()), .proceed,
        .hookSettles (some (sessionError "limit")),
        .inbound, .send [2], .onFrameSettles 1 (.ok ()), .proceed]
    (passing.2.passed = [[1], [2]] ∧ passing.2.written = [[2], [1]]) ∧
      dropping.1.afterInboundChain.length = 0 ∧ dropping.2.passed = [[1], [2]] ∧
      dropping.2.written = [] := by
  decide

end PostInboundHookTransport

end CapnpDeno
