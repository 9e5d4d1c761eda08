import CapnpDeno.Rpc.Transports.ReconnectingClient

/-!
# The origin of the capabilities that ReconnectingRpcClientTransport sends

A capability belongs to the connection that it was obtained on.  A call or a release goes out on the
connection of the moment, with the indices that its caller gives; the transport itself maps one, the
pointer of a call that it tries again. So what must be excluded is known before each step.
-/

namespace CapnpDeno

/-- The capabilities of the peer that the options of a call name: its target, and those among the
parameters. -/
def RpcClientCallOptions.capabilities (options : RpcClientCallOptions) : List ℤ :=
  (match options.target with
    | some (.importedCap importedCap) => [(importedCap : ℤ)]
    | _ => []) ++
  (options.paramsCapTable.getD []).filterMap fun descriptor =>
    if descriptor.tag = CAP_DESCRIPTOR_TAG_RECEIVER_HOSTED then some (descriptor.id : ℤ) else none

/-- The capabilities that the client is given. -/
def LaneOp.addressed (features : RpcClientFeatures) : LaneOp → List ℤ
  | .call capability options => capability :: options.capabilities
  | .release capability => if features.release then [capability] else []
  | .bootstrap | .finish _ | .close => []

/-- The operation's own capability is a valid index. -/
def LaneOp.valid : LaneOp → Bool
  | .call capability _ | .release capability => (normalizeCapability capability).isOk
  | .bootstrap | .finish _ | .close => true

/-- The capabilities that go out, and the connection that they go out on. -/
def LaneEffect.addressed : LaneEffect → List (ClientId × ℤ)
  | .call client capability options =>
    (capability :: options.capabilities).map fun capability => (client, capability)
  | .release client capability => [(client, capability)]
  | _ => []

namespace ReconnectingRpcClientTransport

variable {s : ReconnectingRpcClientTransport} {past : List LaneEffect} {client : ClientId}
  {features : RpcClientFeatures} {capability : ℤ} {options : RpcClientCallOptions}

/-- A capability goes out only on the connection that it was obtained on. -/
def Obtained (before : List LaneEffect) (effect : LaneEffect) : Prop :=
  ∀ client capability, (client, capability) ∈ effect.addressed → .issued client capability ∈ before

/-- One of the capabilities has not been obtained on the connection. -/
def foreign (s : ReconnectingRpcClientTransport) (client : ClientId) (capabilities : List ℤ) :
    Bool :=
  capabilities.any fun capability => !s.issued.contains (client, capability)

/-- An operation begins with a capability that the connection has not issued. -/
def straysOn (s : ReconnectingRpcClientTransport) (op : LaneOp) : Bool :=
  match s.client with
  | some (client, features) => !s.closed && op.valid && s.foreign client (op.addressed features)
  | none => false

/-- The call is tried again with the capability that the connection has just issued, and with its
options as they were. -/
def retryStrays (s : ReconnectingRpcClientTransport) (options : RpcClientCallOptions)
    (outcome : ℤ) : Bool :=
  match s.client, normalizeCapability outcome with
  | some (client, _), .ok capability =>
    foreign (s.issue client [capability]) client options.capabilities
  | _, _ => false

/-- The step sends a capability that the connection has not issued: the caller's index is not of
this connection, or the connection is new. -/
def strays (s : ReconnectingRpcClientTransport) : LaneEvent → Bool
  | .next =>
    match s.stage, s.queue with
    | .idle, op :: _ => s.straysOn op
    | _, _ => false
  | .connects (.ok features) =>
    match s.stage with
    | .connecting op => !(op.addressed features).isEmpty
    | .reconnecting (.call _ _ none) => true
    | _ => false
  | .bootstraps (.ok capability) =>
    match s.stage with
    | .refreshing options => s.retryStrays options capability
    | _ => false
  | .remaps (.ok (some remapped)) =>
    match s.stage with
    | .remapping _ options => s.retryStrays options remapped
    | _ => false
  | _ => false

/-! ## What is known of the connections -/

/-- `issued` is what was obtained so far, on the connections there have been. -/
structure Tracked (past : List LaneEffect) (s : ReconnectingRpcClientTransport) : Prop where
  known : ∀ client capability, (client, capability) ∈ s.issued ↔ .issued client capability ∈ past
  older : ∀ client capability, (client, capability) ∈ s.issued → client < s.connections
  current : ∀ client features, s.client = some (client, features) → client < s.connections

/-- What a step makes of the state and shows, and whether a capability strays in it. -/
structure Traces (past : List LaneEffect) (r : ReconnectingRpcClientTransport × List LaneEffect)
    (stray : Prop) :
    Prop where
  tracked : Tracked (past ++ r.2) r.1
  obtained : Machine.Follows Obtained (past ++ r.2) ↔ Machine.Follows Obtained past ∧ ¬ stray

theorem Tracked.free (tracked : Tracked past s) {effect : LaneEffect}
    (free : ∀ client capability, effect ≠ .issued client capability) :
    Tracked (past ++ [effect]) s := by
  refine ⟨fun client capability => ?_, tracked.older, tracked.current⟩
  have other := free client capability
  simp [tracked.known, other.symm]

theorem Traces.of_iff {r : ReconnectingRpcClientTransport × List LaneEffect} {stray stray' : Prop}
    (traces : Traces past r stray) (same : stray ↔ stray') : Traces past r stray' := by
  rwa [← propext same]

/-- The step shows nothing that a capability goes out with. -/
theorem Traces.quiet (tracked : Tracked past s) {effect : LaneEffect}
    (free : ∀ client capability, effect ≠ .issued client capability)
    (quiet : ∀ past, Obtained past effect) : Traces past (s, [effect]) False :=
  ⟨tracked.free free, by simp [Machine.follows_free quiet]⟩

theorem Traces.nothing (tracked : Tracked past s) : Traces past (s, []) False := by
  constructor
  · simpa using tracked
  · simp

theorem Tracked.setStage (tracked : Tracked past s) (stage : LaneStage) :
    Tracked past { s with stage := stage } :=
  ⟨tracked.known, tracked.older, tracked.current⟩

theorem Traces.respond (tracked : Tracked past s) (outcome : Except Thrown (Option ℤ)) :
    Traces past (s.respond outcome) False :=
  .quiet (tracked.setStage .idle) (by simp) (by simp [Obtained, LaneEffect.addressed])

theorem Traces.fails (tracked : Tracked past s) (message : String) :
    Traces past (s.fails message) False :=
  .respond tracked _

/-- Capabilities go out with the step. -/
theorem Traces.sends (tracked : Tracked past s) {effect : LaneEffect} {capabilities : List ℤ}
    (addressed : effect.addressed = capabilities.map fun capability => (client, capability))
    (free : ∀ client capability, effect ≠ .issued client capability) :
    Traces past (s, [effect]) (s.foreign client capabilities = true) := by
  have obtained : Obtained past effect ↔ s.foreign client capabilities = false := by
    unfold Obtained foreign
    rw [addressed, List.any_eq_false]
    constructor
    · intro obtained capability mem
      have known := obtained client capability (List.mem_map.2 ⟨capability, mem, rfl⟩)
      simpa [tracked.known] using known
    · intro held other capability mem
      obtain ⟨_, inside, same⟩ := List.mem_map.1 mem
      cases same
      simpa [tracked.known] using held capability inside
  constructor
  · exact tracked.free free
  · rw [Machine.follows_concat, obtained, Bool.not_eq_true]

/-- Capabilities are obtained one after the other. -/
theorem Tracked.issues (tracked : Tracked past s) (older : client < s.connections)
    (capabilities : List ℤ) :
    Tracked (past ++ issues client capabilities) (s.issue client capabilities) where
  known := by
    intro other capability
    simp [issue, ReconnectingRpcClientTransport.issues, tracked.known]
  older := by
    intro other capability issued
    rcases List.mem_append.mp issued with old | new
    · exact tracked.older other capability old
    · obtain ⟨_, -, same⟩ := List.mem_map.mp new
      obtain ⟨rfl, -⟩ := Prod.mk.inj same
      exact older
  current := tracked.current

theorem follows_issues (capabilities : List ℤ) :
    Machine.Follows Obtained (past ++ issues client capabilities) ↔
    Machine.Follows Obtained past := by
  induction capabilities generalizing past with
  | nil => simp [issues]
  | cons capability capabilities ih =>
    have first : Machine.Follows Obtained (past ++ [.issued client capability]) ↔
        Machine.Follows Obtained past :=
      Machine.follows_free (by simp [Obtained, LaneEffect.addressed])
    rw [← first, ← @ih (past ++ [_]), List.append_assoc]
    rfl

theorem Traces.after_issues {capabilities : List ℤ}
    {r : ReconnectingRpcClientTransport × List LaneEffect} {stray : Prop}
    (traces : Traces (past ++ issues client capabilities) r stray) :
    Traces past (r.1, issues client capabilities ++ r.2) stray := by
  constructor
  · simpa using traces.tracked
  · simpa [follows_issues] using traces.obtained

theorem Traces.after_issued {r : ReconnectingRpcClientTransport × List LaneEffect} {stray : Prop}
    (traces : Traces (past ++ [.issued client capability]) r stray) :
    Traces past (r.1, .issued client capability :: r.2) stray :=
  @Traces.after_issues past client [capability] r stray traces

/-! ## What a step sends -/

/-- An operation on a connection that there is. -/
theorem traces_runOn (tracked : Tracked past s) (op : LaneOp) :
    Traces past (s.runOn client features op) (s.foreign client (op.addressed features) = true) := by
  have nothing : (s.foreign client [] = true) = False := by simp [foreign]
  cases op with
  | bootstrap =>
    simp only [runOn, LaneOp.addressed, nothing]
    split_ifs
    · exact .quiet (tracked.setStage _) (by simp) (by simp [Obtained, LaneEffect.addressed])
    · exact .fails tracked _
  | call capability options => exact .sends (tracked.setStage _) rfl (by simp)
  | finish questionId =>
    simp only [runOn, LaneOp.addressed, nothing]
    split_ifs
    · exact .quiet (tracked.setStage _) (by simp) (by simp [Obtained, LaneEffect.addressed])
    · exact .fails tracked _
  | release capability =>
    simp only [runOn, LaneOp.addressed]
    split_ifs
    · exact .sends (tracked.setStage _) rfl (by simp)
    · rw [nothing]
      exact .fails tracked _
  | close =>
    simp only [runOn, LaneOp.addressed, nothing]
    exact .nothing tracked

theorem traces_ensureConnected (tracked : Tracked past s) (op : LaneOp) :
    Traces past (s.ensureConnected op)
      (∃ client features, s.client = some (client, features) ∧
        s.foreign client (op.addressed features) = true) := by
  unfold ensureConnected
  split
  next client features here => simpa [here] using traces_runOn tracked op
  next absent =>
    have connects : Traces past ({ s with stage := .connecting op }, [.connect]) False :=
      .quiet (tracked.setStage _) (by simp) (by simp [Obtained, LaneEffect.addressed])
    simpa [absent] using connects

theorem traces_reconnect (tracked : Tracked past s) (reason : Reconnect) :
    Traces past (s.reconnect reason) False := by
  have dropped (stage : LaneStage) :
      Tracked past { s with client := none, bootstrapCapability := none, stage := stage } :=
    ⟨tracked.known, tracked.older, by simp⟩
  unfold reconnect
  split
  · split_ifs
    · exact .quiet (dropped _) (by simp) (by simp [Obtained, LaneEffect.addressed])
    · exact .quiet (dropped _) (by simp) (by simp [Obtained, LaneEffect.addressed])
  · exact .quiet (dropped _) (by simp) (by simp [Obtained, LaneEffect.addressed])

theorem traces_close (tracked : Tracked past s) : Traces past s.close False := by
  have closed (stage : LaneStage) :
      Tracked past { s with closed := true, client := none, bootstrapCapability := none, stage :=
        stage } :=
    ⟨tracked.known, tracked.older, by simp⟩
  unfold close
  split_ifs
  · exact .respond tracked _
  · split
    · split_ifs
      · exact .quiet (closed _) (by simp) (by simp [Obtained, LaneEffect.addressed])
      · exact .respond (closed s.stage) _
    · exact .respond (closed s.stage) _

theorem traces_askRemap (tracked : Tracked past s) (capability : ℤ) (options : RpcClientCallOptions)
    (bootstrap : Option ℤ) : Traces past (s.askRemap capability options bootstrap) False := by
  unfold askRemap
  split_ifs
  · exact .quiet (tracked.setStage _) (by simp) (by simp [Obtained, LaneEffect.addressed])
  · exact .fails tracked _

theorem traces_retry (tracked : Tracked past s) : Traces past (s.retry client capability options)
    (s.foreign client (capability :: options.capabilities) = true) :=
  .sends (tracked.setStage _) rfl (by simp)

/-- The call goes out again with the capability that has just been obtained. -/
theorem traces_retry_issued (tracked : Tracked past (s.issue client [capability])) :
    Traces past ((s.issue client [capability]).retry client capability options)
      ((s.issue client [capability]).foreign client options.capabilities = true) := by
  apply (traces_retry tracked).of_iff
  simp [foreign, issue]

/-- Without a bootstrap capability to compare with, a call goes out again as it was. -/
theorem traces_mapCapability (tracked : Tracked past s) (previousBootstrap : Option ℤ) :
    Traces past (s.mapCapabilityAfterReconnect client features capability options previousBootstrap)
      (previousBootstrap = none ∧ s.foreign client (capability :: options.capabilities) =
        true) := by
  cases previousBootstrap with
  | none => simpa [mapCapabilityAfterReconnect] using traces_retry tracked
  | some previous =>
    have asks (stage : LaneStage) :
        Traces past ({ s with stage := stage }, [.bootstrap client]) False :=
      .quiet (tracked.setStage stage) (by simp) (by simp [Obtained, LaneEffect.addressed])
    simp only [mapCapabilityAfterReconnect, reduceCtorEq, false_and]
    split_ifs
    · exact asks _
    · exact .fails tracked _
    · exact .fails tracked _
    · exact asks _
    · exact traces_askRemap tracked _ _ _

/-! ## The steps -/

/-- There is nothing that could have been obtained on a new connection. -/
theorem Tracked.not_issued (tracked : Tracked past s) (capability : ℤ) :
    (s.connections, capability) ∉ s.issued := fun issued => lt_irrefl _ (tracked.older _ _ issued)

theorem Tracked.connected (tracked : Tracked past s) (features : RpcClientFeatures) :
    Tracked past (s.connected features) := by
  refine ⟨tracked.known, fun client capability issued => ?_, fun client features' here => ?_⟩
  · exact Nat.lt_succ_of_lt (tracked.older client capability issued)
  · obtain ⟨rfl, -⟩ : s.connections = client ∧ features = features' := by
      simpa [ReconnectingRpcClientTransport.connected] using here
    exact Nat.lt_succ_self _

theorem straysOn_eq_true {op : LaneOp} :
    s.straysOn op = true ↔ s.closed = false ∧ op.valid = true ∧
      ∃ client features, s.client = some (client, features) ∧
      s.foreign client (op.addressed features) = true := by
  unfold straysOn
  split
  next client features here => simp [here, and_assoc]
  next absent => simp [absent]

theorem traces_begin (tracked : Tracked past s) (op : LaneOp) :
    Traces past (s.begin op) (s.straysOn op = true) := by
  rw [straysOn_eq_true]
  have runs := traces_ensureConnected tracked op
  cases op with
  | close => simpa [begin, LaneOp.addressed, foreign] using traces_close tracked
  | bootstrap | finish _ =>
    simp only [begin]
    split_ifs
    · simpa [LaneOp.addressed, foreign] using Traces.fails tracked _
    · simpa [LaneOp.addressed, foreign] using runs
  | call capability options | release capability =>
    simp only [begin]
    split_ifs with closed
    · simpa [closed] using Traces.fails tracked _
    · cases valid : normalizeCapability capability with
      | ok _ => simpa [closed, LaneOp.valid, valid, Except.isOk, Except.toBool] using runs
      | error error =>
        apply (Traces.respond tracked _).of_iff
        simp [LaneOp.valid, valid, Except.isOk, Except.toBool]

theorem traces_next (tracked : Tracked past s) : Traces past s.next (s.strays .next = true) := by
  unfold next
  split
  next op queue idle queued =>
    have waits : Tracked past { s with queue := queue } :=
      ⟨tracked.known, tracked.older, tracked.current⟩
    apply (traces_begin waits op).of_iff
    simp [strays, idle, queued, straysOn, foreign]
  next busy =>
    apply (Traces.nothing tracked).of_iff
    unfold strays
    split <;> simp_all

theorem Tracked.foreign_connected (tracked : Tracked past s) (features : RpcClientFeatures)
    (capabilities : List ℤ) :
    (s.connected features).foreign s.connections capabilities = !capabilities.isEmpty := by
  have new (capability : ℤ) : (s.connections, capability) ∉ s.issued :=
    tracked.not_issued capability
  cases capabilities <;> simp [foreign, ReconnectingRpcClientTransport.connected, new]

/-- What a connection is for, once it is there. -/
theorem traces_connects (tracked : Tracked past s) (outcome : Except Thrown RpcClientFeatures) :
    Traces past (s.connects outcome) (s.strays (.connects outcome) = true) := by
  cases outcome with
  | error error =>
    have silent : s.strays (.connects (.error error)) = false := rfl
    rw [silent]
    cases stands : s.stage with
    | connecting | reconnecting => simpa [connects, stands] using Traces.respond tracked _
    | _ => simpa [connects, stands] using Traces.nothing tracked
  | ok features =>
    cases stands : s.stage with
    | connecting op =>
      simp only [connects, strays, stands]
      rw [← tracked.foreign_connected]
      exact traces_runOn (tracked.connected features) op
    | reconnecting reason =>
      simp only [connects, strays, stands]
      cases reason with
      | call capability options previousBootstrap =>
        apply (traces_mapCapability (tracked.connected features) previousBootstrap).of_iff
        rw [tracked.foreign_connected]
        cases previousBootstrap <;> simp
      | finish questionId | release capability =>
        simpa [afterReconnect] using Traces.fails (tracked.connected features) _
    | _ => simpa [connects, strays, stands] using Traces.nothing tracked

theorem traces_bootstraps (tracked : Tracked past s) (here : s.client = some (client, features))
    (outcome : Except Thrown ℤ) :
    Traces past (s.bootstraps client outcome) (s.strays (.bootstraps outcome) = true) := by
  have older := tracked.current client features here
  unfold bootstraps
  split_ifs with awaits
  · split
    next given =>
      split
      next capability valid =>
        have known : Tracked past { s with bootstrapCapability := some capability } :=
          ⟨tracked.known, tracked.older, tracked.current⟩
        have issued := known.issues older [capability]
        unfold bootstrapped
        split
        next options stands =>
          apply (Traces.after_issued (traces_retry_issued issued)).of_iff
          simp [strays, stands, retryStrays, here, valid, foreign, issue]
        next stands =>
          apply (Traces.after_issued (traces_askRemap issued _ _ _)).of_iff
          simp [strays, stands]
        next other _ =>
          apply (Traces.after_issued (.respond issued _)).of_iff
          cases stands : s.stage with
          | refreshing options => exact absurd stands (other options)
          | _ => simp [strays, stands]
      next error invalid =>
        apply (Traces.respond tracked _).of_iff
        cases stands : s.stage <;> simp [strays, stands, retryStrays, here, invalid]
    next => exact (Traces.respond tracked _).of_iff (by simp [strays])
  · apply (Traces.nothing tracked).of_iff
    cases outcome with
    | error error => simp [strays]
    | ok capability =>
      cases stands : s.stage with
      | refreshing options => simp [awaitsBootstrap, stands] at awaits
      | _ => simp [strays, stands]

theorem traces_returns (tracked : Tracked past s) (older : client < s.connections)
    (outcome : Except Thrown (List ℤ)) : Traces past (s.returns client outcome) False := by
  unfold returns
  split
  · exact .after_issues (.respond (tracked.issues older _) _)
  · exact .after_issues (.respond (tracked.issues older _) _)
  · dsimp only
    split_ifs
    · exact traces_reconnect tracked _
    · exact .respond tracked _
  · exact .respond tracked _
  · exact .nothing tracked

theorem traces_settles (tracked : Tracked past s) (failure : Option Thrown) :
    Traces past (s.settles failure) False := by
  unfold settles
  split
  · exact .respond tracked _
  · exact .respond tracked _
  · dsimp only
    split_ifs
    · exact traces_reconnect tracked _
    · exact .respond tracked _
  · dsimp only
    split_ifs
    · exact traces_reconnect tracked _
    · exact .respond tracked _
  · exact .nothing tracked

theorem traces_closes (tracked : Tracked past s) (failure : Option Thrown) :
    Traces past (s.closes failure) False := by
  unfold closes
  split
  · exact .respond tracked _
  · exact .quiet (tracked.setStage _) (by simp) (by simp [Obtained, LaneEffect.addressed])
  · exact .respond tracked _
  · exact .respond tracked _
  · exact .nothing tracked

theorem traces_remaps (tracked : Tracked past s) (here : s.client = some (client, features))
    (outcome : Except Thrown (Option ℤ)) :
    Traces past (s.remaps client outcome) (s.strays (.remaps outcome) = true) := by
  cases stands : s.stage with
  | remapping capability options =>
    cases outcome with
    | error error => simpa [remaps, strays, stands] using Traces.respond tracked _
    | ok given =>
      cases given with
      | none => simpa [remaps, strays, stands] using Traces.fails tracked _
      | some remapped =>
        simp only [remaps, strays, stands]
        split
        next remapped valid =>
          have issued := tracked.issues (tracked.current client features here) [remapped]
          apply (Traces.after_issued (traces_retry_issued issued)).of_iff
          simp [retryStrays, here, valid]
        next error invalid => simpa [retryStrays, here, invalid] using Traces.respond tracked _
  | _ =>
    have silent : s.strays (.remaps outcome) = false := by
      unfold strays
      split <;> simp_all
    rw [silent]
    simpa [remaps, stands] using Traces.nothing tracked

/-- What the client of the connection does. -/
theorem traces_atClient (tracked : Tracked past s)
    {act : ClientId → ReconnectingRpcClientTransport × List LaneEffect} {stray : Prop}
    (absent : s.client = none → ¬ stray)
    (traces : ∀ client features, s.client = some (client, features) →
      Traces past (act client) stray) :
    Traces past (s.atClient act) stray := by
  unfold atClient
  split
  next client features here => exact traces client features here
  next none => exact (Traces.nothing tracked).of_iff (by simp [absent none])

theorem traces_step (tracked : Tracked past s) (event : LaneEvent) :
    Traces past (s.step event) (s.strays event = true) := by
  cases event with
  | next => exact traces_next tracked
  | connects outcome => exact traces_connects tracked outcome
  | enqueue op =>
    have queued : Tracked past { s with queue := s.queue ++ [op] } :=
      ⟨tracked.known, tracked.older, tracked.current⟩
    exact (Traces.nothing queued).of_iff (by simp [strays])
  | bootstraps outcome =>
    apply traces_atClient tracked _ fun client features here =>
      traces_bootstraps tracked here outcome
    intro none
    cases outcome <;> cases stands : s.stage <;> simp [strays, stands, retryStrays, none]
  | returns outcome =>
    have silent : s.strays (.returns outcome) = false := rfl
    rw [silent]
    apply traces_atClient tracked (fun _ => Bool.false_ne_true) fun client features here => ?_
    simpa using traces_returns tracked (tracked.current client features here) outcome
  | settles failure => exact (traces_settles tracked failure).of_iff (by simp [strays])
  | closes failure => exact (traces_closes tracked failure).of_iff (by simp [strays])
  | remaps outcome =>
    apply traces_atClient tracked _ fun client features here => traces_remaps tracked here outcome
    intro none
    cases outcome with
    | error error => simp [strays]
    | ok given =>
      cases given <;> cases stands : s.stage <;> simp [strays, stands, retryStrays, none]

theorem tracked_initial (options : ReconnectingRpcClientTransportOptions) :
    Tracked [] (initial options) := by
  constructor <;> simp [initial]

/-- Every capability goes out on the connection that it was obtained on, exactly in the runs in
which no operation begins with the index of another connection, or brings a connection about that
its own index cannot be of, and no call is tried again with such an index among its options, or
without a bootstrap capability to compare its pointer with. -/
theorem capabilities_obtained (options : ReconnectingRpcClientTransportOptions)
    (events : List LaneEvent) :
    Machine.Follows Obtained (Machine.shown step (initial options) events) ↔
      Machine.Always step (fun s event => s.strays event = false) (initial options) events := by
  refine Machine.follows_iff_always (P := Tracked) ?_ ?_ (tracked_initial options) events
  · exact fun past s event tracked => (traces_step tracked event).tracked
  · intro past s event tracked
    rw [(traces_step tracked event).obtained, Bool.not_eq_true]

/-- After a call that was tried again on a new connection, the next one goes out with the index of
the old one. -/
theorem stale_capability_called :
    ¬ Machine.Follows Obtained (Machine.shown step (initial ⟨true, true, false, none⟩)
      [.enqueue .bootstrap, .next, .connects (.ok ⟨true, true, true, true⟩), .bootstraps (.ok 10),
        .enqueue (.call 10 .default), .next, .returns (.error (transportError "connection lost")),
          .closes none,
        .connects (.ok ⟨true, true, true, true⟩), .bootstraps (.ok 20), .returns (.ok []),
        .enqueue (.call 10 .default), .next]) := by
  intro follows
  have sent :=
    follows [.connect, .bootstrap 0, .issued 0 10, .settled (.ok (some 10)), .call 0 10 .default,
      .close 0,
    .connect, .bootstrap 1, .issued 1 20, .call 1 20 .default, .settled (.ok none)]
    (.call 1 10 .default) [] rfl 1 10 (by decide)
  simp at sent

end ReconnectingRpcClientTransport

end CapnpDeno
