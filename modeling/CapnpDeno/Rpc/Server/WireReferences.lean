import CapnpDeno.Rpc.Server.HandedReturns

/-!
# The references of the peer

A ledger follows, from the effects of a run alone, how many references to each exported capability
the peer has: what was granted with the registration, retained, carried by the Returns that were
handed over, and given back, by a Release or with the Finish of the question that a Return answered.
`refCount` is the balance of the ledger, except where references are granted for a Return that the
peer never gets, a Return names a capability that was not tracked, or a Finish comes for an answer
that was evicted.
-/

namespace CapnpDeno

/-- The references to one capability since it was exported. -/
structure Account where
  balance : ℤ
  /-- The registration came with a reference, which the first bootstrap answer hands over. -/
  preGranted : Bool
  /-- A bootstrap answer has named the capability. -/
  claimed : Bool

namespace Account

def add (referenceCount : ℤ) (account : Account) : Account :=
  { account with balance := account.balance + referenceCount }

/-- A Return names the capability; the first bootstrap answer counts against the pre-granted
reference, if that is still there. -/
def grant (bootstrap : Bool) (account : Account) : Account :=
  { account with
    balance :=
      if bootstrap && !account.claimed && account.preGranted && account.balance ≠
        0 then account.balance
      else account.balance + 1
    claimed := account.claimed || bootstrap }

/-- A Finish gives a reference back, if one is left. -/
def drain (account : Account) : Account :=
  { account with balance := if 0 < account.balance then account.balance - 1 else account.balance }

end Account

abbrev Accounts := ℕ → Account

namespace Accounts

def update (accounts : Accounts) (c : ℕ) (f : Account → Account) : Accounts :=
  Function.update accounts c (f (accounts c))

/-- One descriptor of a Return. -/
def grant (bootstrap : Bool) (accounts : Accounts) (descriptor : RpcCapDescriptor) : Accounts :=
  if descriptor.tag ≠ CAP_DESCRIPTOR_TAG_SENDER_HOSTED then accounts
  else accounts.update descriptor.id (Account.grant bootstrap)

def drain (accounts : Accounts) (c : ℕ) : Accounts := accounts.update c Account.drain

def takeBack (accounts : Accounts) (c : ℕ) : Accounts := accounts.update c (Account.add (-1))

end Accounts

structure Ledger where
  accounts : Accounts
  /-- What the Return that was built for a host call names, of the capabilities registered since. -/
  built : EntryId → List ℕ
  /-- What the Returns for the unfinished questions name, of the capabilities registered since. -/
  answers : HandedReturns

namespace Ledger

def empty : Ledger := ⟨fun _ => ⟨0, false, false⟩, fun _ => [], fun _ => []⟩

def handOver (ledger : Ledger) (bootstrap : Bool) (i : EntryId) (frame : RpcReturnMessage) :
    Ledger :=
  { ledger with
    accounts := frame.capTable.foldl (Accounts.grant bootstrap) ledger.accounts
    answers := ledger.answers.handOver i frame }

/-- With the flag the peer gives back what the Returns for the question carried. -/
def finish (ledger : Ledger) (questionId : ℕ) (releaseResultCaps : Bool) : Ledger :=
  { ledger with
    accounts :=
      if releaseResultCaps then (ledger.answers.named questionId).foldl Accounts.drain
        ledger.accounts
      else ledger.accounts
    answers := ledger.answers.finish questionId }

def note (ledger : Ledger) : Effect → Ledger
  | .exported c referenceCount =>
    { accounts := ledger.accounts.update c fun _ => ⟨referenceCount, 0 < referenceCount, false⟩
      built := fun i => (ledger.built i).filter (· ≠ c)
      answers := ledger.answers.exported c }
  | .retained c referenceCount =>
    { ledger with accounts := ledger.accounts.update c (Account.add referenceCount) }
  | .released c referenceCount =>
    { ledger with accounts := ledger.accounts.update c (Account.add (-referenceCount)) }
  | .returned i frame => ledger.handOver false i frame
  | .built i frame =>
    { ledger.handOver false i frame with
      built := Function.update ledger.built i (senderHosted frame.capTable) }
  | .bootstrapReturned i frame | .bootstrapObserved i frame => ledger.handOver true i frame
  | .callerFinished questionId (some releaseResultCaps) =>
    ledger.finish questionId releaseResultCaps
  -- the peer is answered without the capabilities that the built Return names
  | .hostReturned i (.exception _) _ | .hostReturned i (.results _) _ =>
    { accounts := (ledger.built i).foldl Accounts.takeBack ledger.accounts
      built := Function.update ledger.built i []
      answers := ledger.answers.withdraw i (ledger.built i) }
  | _ => ledger

end Ledger

/-- `#respondWasmHostCallFrame` hands the Return itself over, and the peer takes it. -/
def handsOver (abi : RpcServerWasmHostAbi) (failure : HostFailure) (frame : RpcReturnMessage) :
    Bool :=
  abi.respondHostCallReturnFrame && abi.supportsHostCallReturnFrame.getD true &&
    !(abi.supportsParamCapRetention = some false && frame.releaseParamCaps = false) &&
    (failure (.returnFrame frame)).isNone

namespace RpcServerBridge

/-- None of the capabilities is registered. -/
def unregistered (b : RpcServerBridge) (capabilities : List ℕ) : Bool :=
  capabilities.all fun c => (b.dispatchByCapability.lookup c).isNone

/-- A bootstrap answer names no registered capability for the first time that was exported without a
reference and has references since. -/
def firstGrants (s : RpcServerBridge × Ledger) (capTable : List RpcCapDescriptor) : Bool :=
  (senderHosted capTable).all fun c =>
    (s.1.dispatchByCapability.lookup c).isNone || (s.2.accounts c).preGranted ||
      (s.2.accounts c).claimed || (s.2.accounts c).balance = 0

/-- A Finish that gives references back finds the answers to its question in the table, but for
those that named nothing registered. -/
def findsAnswers (s : RpcServerBridge × Ledger) : InboundFrame → Bool
  | .finish finish =>
    !finish.releaseResultCaps || (s.2.answers finish.questionId).all fun answer =>
      s.1.retains finish.questionId answer.1 || (s.1.dispatchByCapability.lookup answer.2).isNone
  | _ => true

/-- A Return that names registered capabilities can be encoded; a host call's is handed over; a
bootstrap's comes while its entry is there, and grants for the first time what the registration
granted for it; and no answer is evicted whose Finish then gives references back. -/
def accountsFor (frameError : RpcReturnMessage → Option Thrown) (s : RpcServerBridge × Ledger) :
    Event → Bool
  | .completeCall i =>
    match s.1.questions[i]? with
    | some question =>
      match question.stage with
      | .dispatched (.results response) =>
        let frame := encodeReturnResultsFrame question.questionId response
        (frameError frame).isNone || ¬ s.1.retains question.questionId i ||
          question.entry.finished || s.1.unregistered (senderHosted frame.capTable)
      | _ => true
    | none => true
  | .respond i failure =>
    match s.1.questions[i]? with
    | some question =>
      match question.stage, question.owner with
      | .responding (.ok (some frame)), .call _ (.host abi) =>
        handsOver abi failure frame || s.1.unregistered (s.2.built i)
      | _, _ => s.1.unregistered (s.2.built i)
    | none => true
  | .bootstrapSettles i result =>
    match s.1.questions[i]? with
    | some question =>
      match question.stage, result >>= encodeBootstrapResponseFrame question.questionId with
      | .bootstrapping, .ok response =>
        if ¬ s.1.retains question.questionId i ∨ question.entry.finished then
          s.1.unregistered (senderHosted response.capTable)
        else firstGrants s response.capTable
      | _, _ => true
    | none => true
  | .observeBootstrapResponse response =>
    (s.1.refusal response.answerId 0).isSome || firstGrants s response.capTable
  | .handleFrame frame | .resumeFrame frame => findsAnswers s frame
  | _ => true

/-! ## The ledger and the registry -/

/-- The account of every registered capability is that of its registration. -/
def Tallied (registry : Registry) (accounts : Accounts) : Prop :=
  ∀ c registered, registry.lookup c = some registered →
    registered.refCount = (accounts c).balance ∧ registered.bootstrapGrantClaimed =
    (accounts c).claimed

end RpcServerBridge

@[simp] theorem Accounts.update_self (accounts : Accounts) (c : ℕ) (f : Account → Account) :
    accounts.update c f c = f (accounts c) := Function.update_self _ _ _

theorem Accounts.update_other {accounts : Accounts} {c other : ℕ} {f : Account → Account}
    (ne : other ≠ c) :
    accounts.update c f other = accounts other := Function.update_of_ne ne _ _

namespace RpcServerBridge

variable {registry registry' : Registry} {accounts : Accounts} {index c : ℕ} {f : Account → Account}

/-- An update of a capability that is not registered tells nothing. -/
theorem Tallied.absent (tallied : Tallied registry accounts)
    (absent : registry.lookup index = none) :
    Tallied registry (accounts.update index f) := by
  intro c registered found
  rw [Accounts.update_other]
  · exact tallied c registered found
  · rintro rfl
    rw [absent] at found
    cases found

/-- One registration and its account change together. -/
theorem Tallied.moved (tallied : Tallied registry accounts)
    (others : ∀ c registered, c ≠ index → registry'.lookup c = some registered →
      registry.lookup c = some registered)
    (here : ∀ registered, registry'.lookup index = some registered →
      registered.refCount = (f (accounts index)).balance ∧
        registered.bootstrapGrantClaimed = (f (accounts index)).claimed) :
    Tallied registry' (accounts.update index f) := by
  intro c registered found
  by_cases same : c = index
  · subst same
    rw [Accounts.update_self]
    exact here registered found
  · rw [Accounts.update_other same]
    exact tallied c registered (others c registered same found)

theorem Tallied.insert {registered : RegisteredDispatch} (tallied : Tallied registry accounts)
    (balance : registered.refCount = (f (accounts index)).balance)
    (claimed : registered.bootstrapGrantClaimed = (f (accounts index)).claimed) :
    Tallied (registry.insert index registered) (accounts.update index f) := by
  refine tallied.moved (fun c other ne found => ?_) fun other found => ?_
  · rwa [Table.lookup_insert, if_neg ne] at found
  · rw [Table.lookup_insert, if_pos rfl] at found
    cases found
    exact ⟨balance, claimed⟩

theorem Tallied.settle {registered : RegisteredDispatch} (tallied : Tallied registry accounts)
    (balance : registered.refCount = (f (accounts index)).balance)
    (claimed : registered.bootstrapGrantClaimed = (f (accounts index)).claimed) :
    Tallied (settleRegistration registry index registered) (accounts.update index f) := by
  refine tallied.moved (fun c other ne found => ?_) fun other found => ?_
  · exact (lookup_settle found).elim And.right fun same => absurd same.1 ne
  · rcases lookup_settle found with ⟨ne, -⟩ | ⟨-, rfl, -⟩
    · exact absurd rfl ne
    · exact ⟨balance, claimed⟩

/-! ### The end of holds -/

theorem Tallied.drain (tallied : Tallied registry accounts) (index : ℕ) :
    Tallied (releaseHeld true registry index) (accounts.drain index) := by
  unfold releaseHeld
  cases found : registry.lookup index with
  | none => exact tallied.absent found
  | some registered =>
    obtain ⟨balance, claimed⟩ := tallied index registered found
    refine tallied.settle ?_ claimed
    simp only [dropHold, Account.drain, balance, true_and, gt_iff_lt]

theorem Tallied.unheld (tallied : Tallied registry accounts) (index : ℕ) :
    Tallied (releaseHeld false registry index) accounts := by
  unfold releaseHeld
  cases found : registry.lookup index with
  | none => exact tallied
  | some registered =>
    have kept : accounts = accounts.update index id := (Function.update_eq_self _ _).symm
    obtain ⟨balance, claimed⟩ := tallied index registered found
    rw [kept]
    exact tallied.settle (by simpa [dropHold] using balance) claimed

theorem drainAll_eq (indexes : List ℕ) (accounts : Accounts) (c : ℕ) :
    indexes.foldl Accounts.drain accounts c = Account.drain^[indexes.count c] (accounts c) := by
  induction indexes generalizing accounts with
  | nil => rfl
  | cons index indexes ih =>
    rw [List.foldl_cons, ih, List.count_cons]
    unfold Accounts.drain
    by_cases here : index = c
    · rw [here, Accounts.update_self, beq_self_eq_true, if_pos rfl, Function.iterate_succ_apply]
    · rw [Accounts.update_other (Ne.symm here), if_neg (by simpa using here), add_zero]

/-- What the Finish gives back is what the answer held, of what is registered. -/
theorem Tallied.drainAll (tallied : Tallied registry accounts) {held named : List ℕ}
    (same : ∀ c, (registry.lookup c).isSome = true → named.count c = held.count c) :
    Tallied (held.foldl (releaseHeld true) registry) (named.foldl Accounts.drain accounts) := by
  have along (held : List ℕ) {registry : Registry} {accounts : Accounts}
      (tallied : Tallied registry accounts) :
      Tallied (held.foldl (releaseHeld true) registry) (held.foldl Accounts.drain accounts) := by
    induction held generalizing registry accounts with
    | nil => exact tallied
    | cons index held ih => exact ih (tallied.drain index)
  intro c registered found
  have known : (registry.lookup c).isSome = true := by
    cases absent : registry.lookup c with
    | none =>
      rw [unregistered_releaseHolds held absent] at found
      cases found
    | some => rfl
  have drained := along held tallied c registered found
  rw [drainAll_eq] at drained ⊢
  rwa [same c known]

theorem Tallied.unheldAll (tallied : Tallied registry accounts) (held : List ℕ) :
    Tallied (held.foldl (releaseHeld false) registry) accounts := by
  induction held generalizing registry with
  | nil => exact tallied
  | cons index held ih => exact ih (tallied.unheld index)

/-! ### Returns -/

/-- The account is one that the code grants for as the ledger does. -/
def Account.Agrees (bootstrap : Bool) (account : Account) : Prop :=
  bootstrap = true → account.preGranted = true ∨ account.claimed = true ∨ account.balance = 0

theorem grant_agrees {registered : RegisteredDispatch} {account : Account} {bootstrap : Bool}
    (agrees : Account.Agrees bootstrap account) (balance : registered.refCount = account.balance)
    (claimed : registered.bootstrapGrantClaimed = account.claimed) :
    (RpcServerBridge.grant bootstrap registered).refCount = (account.grant bootstrap).balance := by
  unfold RpcServerBridge.grant Account.grant
  dsimp only
  rw [balance, claimed]
  cases bootstrap with
  | false => simp
  | true =>
    rcases agrees rfl with granted | claims | none
    · by_cases none : account.balance = 0 <;> by_cases claims : account.claimed = true <;> simp [*]
    · simp [claims]
    · simp [none]

theorem Tallied.grant {bootstrap : Bool} {held : List ℕ} {descriptor : RpcCapDescriptor}
    (tallied : Tallied registry accounts)
    (agrees : ∀ registered, descriptor.tag = CAP_DESCRIPTOR_TAG_SENDER_HOSTED →
      registry.lookup descriptor.id = some registered →
        Account.Agrees bootstrap (accounts descriptor.id)) :
    Tallied (trackDescriptor bootstrap (registry, held) descriptor).1
      (accounts.grant bootstrap descriptor) := by
  unfold Accounts.grant
  rcases trackDescriptor_cases bootstrap (registry, held) descriptor with ⟨same, unknown⟩ |
    ⟨registered, hosted, found, same⟩
  · rw [same]
    rcases unknown with foreign | absent
    · rw [if_pos foreign]
      exact tallied
    · split_ifs
      · exact tallied
      · exact tallied.absent absent
  · obtain ⟨balance, claimed⟩ := tallied descriptor.id registered found
    rw [same, if_neg (not_not_intro hosted)]
    refine tallied.insert (grant_agrees (agrees registered hosted found) balance claimed) ?_
    change (registered.bootstrapGrantClaimed || bootstrap) = _
    rw [claimed]
    rfl

theorem Account.Agrees.grant {bootstrap : Bool} {descriptor : RpcCapDescriptor}
    (agrees : Account.Agrees bootstrap (accounts c)) :
    Account.Agrees bootstrap (accounts.grant bootstrap descriptor c) := by
  unfold Accounts.grant
  split_ifs
  · exact agrees
  · by_cases here : c = descriptor.id
    · rw [here, Accounts.update_self]
      rintro rfl
      exact .inr (.inl (Bool.or_true _))
    · rwa [Accounts.update_other here]

/-- The loop over a capTable, beside the ledger's. -/
theorem Tallied.track {bootstrap : Bool} {held : List ℕ} {capTable : List RpcCapDescriptor}
    (tallied : Tallied registry accounts)
    (agrees : ∀ c ∈ senderHosted capTable, (registry.lookup c).isSome = true →
      Account.Agrees bootstrap (accounts c)) :
    Tallied (capTable.foldl (trackDescriptor bootstrap) (registry, held)).1
      (capTable.foldl (Accounts.grant bootstrap) accounts) := by
  induction capTable generalizing registry accounts held with
  | nil => exact tallied
  | cons descriptor capTable ih =>
    have first : Tallied (trackDescriptor bootstrap (registry, held) descriptor).1
        (accounts.grant bootstrap descriptor) := by
      refine tallied.grant fun registered hosted found => ?_
      refine agrees descriptor.id ?_ (found ▸ rfl)
      simp [senderHosted, hosted]
    have same (c : ℕ) :
        ((trackDescriptor bootstrap (registry, held) descriptor).1.lookup c).isSome =
        (registry.lookup c).isSome := trackDescriptor_registers
    rw [List.foldl_cons, List.foldl_cons]
    generalize trackDescriptor bootstrap (registry, held) descriptor = after at first same
    refine ih first fun c mem known => ?_
    rw [same] at known
    refine (agrees c ?_ known).grant
    unfold senderHosted at mem ⊢
    rw [List.filter_cons]
    split_ifs
    · exact List.mem_cons_of_mem _ mem
    · exact mem

theorem Tallied.unknown {bootstrap : Bool} {capTable : List RpcCapDescriptor}
    (tallied : Tallied registry accounts)
    (unknown : ∀ c ∈ senderHosted capTable, registry.lookup c = none) :
    Tallied registry (capTable.foldl (Accounts.grant bootstrap) accounts) := by
  have tracked : Tallied (capTable.foldl (trackDescriptor bootstrap) (registry, [])).1 _ :=
    tallied.track fun c mem known => by
      rw [unknown c mem] at known
      cases known
  rwa [trackDescriptor_unregistered unknown] at tracked

theorem Tallied.takeBack {capabilities : List ℕ} (tallied : Tallied registry accounts)
    (unknown : ∀ c ∈ capabilities, registry.lookup c = none) :
    Tallied registry (capabilities.foldl Accounts.takeBack accounts) := by
  induction capabilities generalizing accounts with
  | nil => exact tallied
  | cons c capabilities ih =>
    rw [List.forall_mem_cons] at unknown
    exact ih (tallied.absent unknown.1) unknown.2

/-! ## Steps -/

theorem Ledger.note_neutral {ledger : Ledger} {effect : Effect} (neutral : effect.neutral = true) :
    (ledger.note effect).accounts = ledger.accounts ∧ (ledger.note effect).answers =
      ledger.answers := by
  cases effect with
  | returned i frame | built i frame =>
    unfold Effect.neutral at neutral
    have nothing : frame.capTable = [] := List.isEmpty_iff.1 (Bool.and_eq_true_iff.1 neutral).1
    simp [Ledger.note, Ledger.handOver, nothing]
  | threw | refused | hostRefused | invoked | returnedNothing | rejected => exact ⟨rfl, rfl⟩
  | _ => cases neutral

theorem Ledger.notes_neutral {effects : List Effect}
    (neutral : ∀ effect ∈ effects, effect.neutral = true) (ledger : Ledger) :
    (effects.foldl Ledger.note ledger).accounts = ledger.accounts ∧
      (effects.foldl Ledger.note ledger).answers = ledger.answers := by
  induction effects generalizing ledger with
  | nil => exact ⟨rfl, rfl⟩
  | cons effect effects ih =>
    rw [List.forall_mem_cons] at neutral
    obtain ⟨accounts, answers⟩ : (ledger.note effect).accounts = ledger.accounts ∧
        (ledger.note effect).answers = ledger.answers := Ledger.note_neutral neutral.1
    rw [List.foldl_cons, (ih neutral.2 _).1, (ih neutral.2 _).2]
    exact ⟨accounts, answers⟩

theorem unregistered_iff {b : RpcServerBridge} {capabilities : List ℕ} :
    b.unregistered capabilities = true ↔ ∀ c ∈ capabilities, b.dispatchByCapability.lookup c =
      none := by
  unfold unregistered
  simp only [List.all_eq_true, Option.isNone_iff_eq_none]

theorem agrees_firstGrants {s : RpcServerBridge × Ledger} {capTable : List RpcCapDescriptor}
    (first : firstGrants s capTable = true) :
    ∀ c ∈ senderHosted capTable, (s.1.dispatchByCapability.lookup c).isSome = true →
      Account.Agrees true (s.2.accounts c) := by
  intro c mem known _
  have granted := List.all_eq_true.1 first c mem
  have registered : (s.1.dispatchByCapability.lookup c).isNone = false := by simpa using known
  rw [registered, Bool.false_or, Bool.or_eq_true_iff, Bool.or_eq_true_iff, decide_eq_true_iff]
    at granted
  exact or_assoc.1 granted

theorem respond_handsOver {abi : RpcServerWasmHostAbi} {failure : HostFailure}
    {frame : RpcReturnMessage} (hands : handsOver abi failure frame = true) :
    respondWasmHostCallFrame abi failure frame = [.returnFrame frame] := by
  unfold handsOver at hands
  rw [Bool.and_eq_true_iff, Bool.and_eq_true_iff] at hands
  obtain ⟨⟨supported, retention⟩, taken⟩ := hands
  unfold respondWasmHostCallFrame
  rw [if_pos supported, if_neg, Option.isNone_iff_eq_none.1 taken]
  simpa [imp_iff_not_or] using retention

/-- The ledger is right about the books. -/
structure Follows (ledger : Ledger) (k : Books) : Prop where
  tallied : Tallied k.registry ledger.accounts
  handed : k.Handed ledger.answers

/-- Answers that name nothing registered are taken back without a trace. -/
theorem Follows.hostEffects {i : EntryId} {failure : HostFailure} {ledger : Ledger} {k : Books}
    (follows : Follows ledger k) (unknown : ∀ c ∈ ledger.built i, k.registry.lookup c = none)
    (attempts : List HostReturn) :
    Follows ((RpcServerBridge.hostEffects i failure attempts).foldl Ledger.note ledger) k := by
  induction attempts generalizing ledger with
  | nil => exact follows
  | cons attempt attempts ih =>
    cases attempt with
    | returnFrame frame => exact ih follows unknown
    | canceled => exact ih follows unknown
    | results | exception =>
      refine ih ⟨follows.tallied.takeBack unknown, follows.handed.withdraw unknown⟩ ?_
      simp [Ledger.note]

variable {frameError : RpcReturnMessage → Option Thrown} {b : RpcServerBridge} {ledger : Ledger}
  {event : Event} {effects : List Effect} {i : EntryId} {q : Question}

theorem follows_respond {failure : HostFailure} {call : RpcCallRequest} {abi : RpcServerWasmHostAbi}
    {result : Except Thrown (Option RpcReturnMessage)} (follows : Follows ledger b.books)
    (found : b.questions[i]? = some q) (owned : q.owner = .call call (.host abi))
    (stands : q.stage = .responding result)
    (accounted : accountsFor frameError (b, ledger) (.respond i failure) = true) :
    Follows ((b.respond abi failure i q result).foldl Ledger.note ledger) b.books := by
  simp only [accountsFor, found, stands, owned] at accounted
  unfold respond
  cases result with
  | error error => exact follows
  | ok result =>
    dsimp only
    by_cases closed : b.closed = true
    · rw [if_pos closed]
      exact follows
    · rw [if_neg closed]
      cases result with
      | none =>
        dsimp only
        split_ifs
        · exact follows.hostEffects (unregistered_iff.1 accounted) _
        · exact follows
      | some frame =>
        dsimp only
        rcases Bool.or_eq_true_iff.1 accounted with hands | unknown
        · rw [respond_handsOver hands]
          exact follows
        · exact follows.hostEffects (unregistered_iff.1 unknown) _

/-- A Return that names nothing registered is tracked without a trace. -/
theorem track_unregistered {capTable : List RpcCapDescriptor} {bootstrap : Bool}
    (unknown : b.unregistered (senderHosted capTable) = true) :
    b.books.track i capTable bootstrap = b.books := by
  have nothing : tracked b.dispatchByCapability capTable bootstrap = (b.dispatchByCapability, []) :=
    trackDescriptor_unregistered (unregistered_iff.1 unknown)
  unfold Books.track
  dsimp only [books_registry]
  rw [nothing]
  exact congrArg (Books.mk _ _) (List.modify_id _ _)

/-- A pending answer in the table gets its Return. -/
theorem Follows.handOver {frame : RpcReturnMessage} {bootstrap : Bool}
    (follows : Follows ledger b.books) (covered : b.Covered) (found : b.questions[i]? = some q)
    (answers : frame.answerId = q.questionId) (retained : b.retains q.questionId i)
    (pending : q.stage.ended = false) (agrees : ∀ c ∈ senderHosted frame.capTable,
      (b.dispatchByCapability.lookup c).isSome = true →
      Account.Agrees bootstrap (ledger.accounts c)) :
    Follows (ledger.handOver bootstrap i frame) (b.books.track i frame.capTable bootstrap) := by
  refine ⟨follows.tallied.track agrees, follows.handed.handOver covered.placed.apart ?_ ?_ ?_⟩
  · rw [answers]
    exact retained
  · rw [books_length]
    exact (List.getElem?_eq_some_iff.1 found).1
  · rw [books_heldAt]
    exact heldAt_pending covered.sound found pending

/-- The entry just accepted gets its Return at once. -/
theorem Follows.observed {frame : RpcReturnMessage} (follows : Follows ledger b.books)
    (covered : b.Covered)
    (agrees : ∀ c ∈ senderHosted frame.capTable, (b.dispatchByCapability.lookup c).isSome = true →
      Account.Agrees true (ledger.accounts c)) :
    Follows (ledger.handOver true b.questions.length frame)
      ((b.books.accept frame.answerId).track b.questions.length frame.capTable true) := by
  have apart := (covered.placed.acceptQuestion frame.answerId 0 .observed).apart
  rw [books_acceptQuestion] at apart
  refine ⟨follows.tallied.track agrees, (follows.handed.accept frame.answerId).handOver apart
    ?_ ?_ ?_⟩
  · unfold Books.accept
    rw [books_length]
    exact AList.lookup_insert _
  · unfold Books.accept
    rw [List.length_append, books_length]
    exact Nat.lt_succ_self _
  · rw [Books.heldAt_accept, books_heldAt]
    unfold heldAt
    rw [List.getElem?_eq_none le_rfl]
    rfl

theorem follows_completed {response : RpcCallResponse} {path : CallPath} {frame : RpcReturnMessage}
    (follows : Follows ledger b.books) (covered : b.Covered) (found : b.questions[i]? = some q)
    (stands : q.stage = .dispatched (.results response)) (retained : b.retains q.questionId i)
    (unfinished : q.entry.finished = false)
    (encoded : frame = encodeReturnResultsFrame q.questionId response)
    (accounted : accountsFor frameError (b, ledger) (.completeCall i) = true) :
    Follows ((shownReturn i frame (frameError frame) path).foldl Ledger.note ledger)
      (b.books.track i frame.capTable false) := by
  cases failed : frameError frame with
  | none =>
    have answers : frame.answerId = q.questionId := by
      rw [encoded]
      rfl
    have pending : q.stage.ended = false := by
      rw [stands]
      rfl
    have granted : Follows (ledger.handOver false i frame) _ :=
      follows.handOver covered found answers retained pending fun _ _ _ => nofun
    cases path <;> exact ⟨granted.tallied, granted.handed⟩
  | some error =>
    have unknown : b.unregistered (senderHosted frame.capTable) = true := by
      simpa [accountsFor, found, stands, ← encoded, failed, retained, unfinished] using accounted
    rw [track_unregistered unknown]
    cases path <;> exact follows

/-- A Finish takes back what the Returns for its question named. -/
theorem Follows.finish {finish : RpcFinishRequest} (follows : Follows ledger b.books)
    (covered : b.Covered) (found : b.answerTable.lookup finish.questionId = some i)
    (finds : findsAnswers (b, ledger) (.finish finish) = true) :
    Follows (ledger.finish finish.questionId finish.releaseResultCaps)
      ((b.books.endHolds i finish.releaseResultCaps).forget finish.questionId) := by
  refine ⟨?_, ?_⟩
  · unfold Ledger.finish
    cases released : finish.releaseResultCaps with
    | false => exact follows.tallied.unheldAll _
    | true =>
      have finds' := finds
      simp only [findsAnswers, released, Bool.not_true, Bool.false_or] at finds'
      refine follows.tallied.drainAll fun c known =>
        follows.handed.count_named found known fun answer mem => ?_
      have there := List.all_eq_true.1 finds' answer mem
      rw [Bool.or_eq_true_iff, decide_eq_true_iff, Option.isNone_iff_eq_none] at there
      exact there.imp_left fun retained => Option.some.inj (retained.symm.trans found)
  · exact (follows.handed.leave covered.placed.apart found _).finish (AList.lookup_erase _ _)

/-- A Finish for a question without an answer in the table takes nothing back. -/
theorem Follows.finishUnknown {finish : RpcFinishRequest} (follows : Follows ledger b.books)
    (absent : b.answerTable.lookup finish.questionId = none)
    (finds : findsAnswers (b, ledger) (.finish finish) = true) :
    Follows (ledger.finish finish.questionId finish.releaseResultCaps) b.books := by
  refine ⟨?_, follows.handed.finish absent⟩
  unfold Ledger.finish
  cases released : finish.releaseResultCaps with
  | false => exact follows.tallied
  | true =>
    simp only [findsAnswers, released, Bool.not_true, Bool.false_or] at finds
    refine @Tallied.drainAll _ _ follows.tallied [] _ fun c known =>
      List.count_eq_zero.2 fun named => ?_
    obtain ⟨answer, mem, rfl⟩ := List.mem_map.1 named
    have there := List.all_eq_true.1 finds answer mem
    rcases Bool.or_eq_true_iff.1 there with retained | gone
    · cases absent.symm.trans (decide_eq_true_iff.1 retained)
    · rw [books_registry, Option.isNone_iff_eq_none.1 gone] at known
      cases known

theorem finds_of_accounted {finish : RpcFinishRequest}
    (arrives : event.frame = some (.finish finish))
    (accounted : accountsFor frameError (b, ledger) event = true) :
    findsAnswers (b, ledger) (.finish finish) = true := by
  unfold Event.frame at arrives
  split at arrives
  · cases arrives
    exact accounted
  · cases arrives
    exact accounted
  · cases arrives

/-- A step posts to the books what the ledger notes of its effects. -/
theorem Follows.posts {k : Books} (follows : Follows ledger b.books) (covered : b.Covered)
    (posts : Posts frameError b event k effects)
    (accounted : accountsFor frameError (b, ledger) event = true) :
    Follows (effects.foldl Ledger.note ledger) k := by
  obtain ⟨tallied, handed⟩ := follows
  cases posts with
  | none event effects neutral =>
    obtain ⟨accounts, answers⟩ := Ledger.notes_neutral neutral ledger
    refine ⟨?_, ?_⟩
    · rw [accounts]
      exact tallied
    · rw [answers]
      exact handed
  | exported dispatch capabilityIndex referenceCount index fresh =>
    refine ⟨tallied.insert rfl rfl, handed.exported fun questionId i found held => ?_⟩
    rw [books_heldAt] at held
    have known := covered.registered found held
    rw [fresh] at known
    cases known
  | retained index referenceCount registered found =>
    obtain ⟨balance, claimed⟩ := tallied index registered found
    refine ⟨tallied.insert ?_ claimed, ?_⟩
    · change registered.refCount + referenceCount = _
      rw [balance]
      rfl
    · exact handed.fewer (inherits_insert found rfl) (fun _ _ there => ⟨there, rfl⟩) rfl
  | releasedUnknown event index referenceCount absent => exact ⟨tallied.absent absent, handed⟩
  | released event index referenceCount registered releases found =>
    obtain ⟨balance, claimed⟩ := tallied index registered found
    refine ⟨tallied.settle ?_ claimed, ?_⟩
    · change registered.refCount - referenceCount = _
      rw [balance]
      rfl
    · exact handed.fewer (inherits_settle found rfl) (fun _ _ there => ⟨there, rfl⟩) rfl
  | finishedUnknown event finish arrives absent =>
    exact Follows.finishUnknown ⟨tallied, handed⟩ absent (finds_of_accounted arrives accounted)
  | finished event finish i arrives found =>
    exact Follows.finish ⟨tallied, handed⟩ covered found (finds_of_accounted arrives accounted)
  | accepted event questionId inputFrameBytes effects accepts neutral =>
    obtain ⟨accounts, answers⟩ := Ledger.notes_neutral neutral
      (ledger.note (.accepted b.questions.length questionId))
    refine ⟨?_, ?_⟩
    · rw [List.foldl_cons, accounts]
      exact tallied
    · rw [List.foldl_cons, answers]
      exact handed.accept questionId
  | observed response accepts =>
    unfold Accepts at accepts
    simp only [accountsFor, accepts, Option.isSome_none, Bool.false_or] at accounted
    exact Follows.observed ⟨tallied, handed⟩ covered (agrees_firstGrants accounted)
  | bootstrapReturned i result q response found stands encoded retained unfinished =>
    simp only [accountsFor, found, stands, encoded, retained, unfinished, not_true_eq_false,
      false_or, Bool.false_eq_true, if_false] at accounted
    exact Follows.handOver ⟨tallied, handed⟩ covered found
      (answerId_encodeBootstrap encoded) retained
      (by rw [stands]; rfl) (agrees_firstGrants accounted)
  | bootstrapLate i result q response found stands encoded late =>
    simp only [accountsFor, found, stands, encoded, if_pos late] at accounted
    have unknown := unregistered_iff.1 accounted
    refine ⟨tallied.unknown unknown, handed.unknown ?_ unknown⟩
    rw [books_length]
    exact (List.getElem?_eq_some_iff.1 found).1
  | bootstrapFailed i result q =>
    refine ⟨tallied, handed.fewer (Inherits.refl _) (fun questionId j there => ?_) rfl⟩
    change (b.answerTable.erase q.questionId).lookup questionId = some j at there
    rw [Table.lookup_erase] at there
    split_ifs at there
    exact ⟨there, rfl⟩
  | completed i q call path response frame found owned stands retained unfinished encoded =>
    exact follows_completed ⟨tallied, handed⟩ covered found stands retained unfinished encoded
      accounted
  | responded i failure q call abi result found owned stands =>
    exact follows_respond ⟨tallied, handed⟩ found owned stands accounted
  | evicted i q found retained =>
    exact ⟨tallied.unheldAll _, handed.leave covered.placed.apart retained false⟩
  | answerFinished => exact ⟨tallied, handed⟩
  | closed => exact ⟨nofun, nofun, handed.made⟩

/-! ## Runs -/

/-- No reference count is ever negative. -/
theorem run_counted (frameError : RpcReturnMessage → Option Thrown)
    (options : RpcServerBridgeOptions) (events : List Event) :
    Counted (Machine.final (step frameError) (initial options) events).dispatchByCapability := by
  refine Machine.invariant (P := fun b : RpcServerBridge => Counted b.dispatchByCapability)
    (fun b event counted => ?_) events ?_
  · have steps : Steps frameError b event _ _ := b.steps_of_step event
    exact steps.posts.counted counted
  · intro c registered found
    cases found

/-- A call whose question is gone or finished, or whose Return cannot be encoded, leaves the
registry. -/
theorem registry_unreturned {response : RpcCallResponse} (found : b.questions[i]? = some q)
    (stands : q.stage = .dispatched (.results response))
    (unreturned : ¬ b.retains q.questionId i ∨ q.entry.finished = true ∨
      (frameError (encodeReturnResultsFrame q.questionId response)).isSome = true)
    (accounted : accountsFor frameError (b, ledger) (.completeCall i) = true) :
    (b.step frameError (.completeCall i)).1.dispatchByCapability = b.dispatchByCapability := by
  have steps : Steps frameError b (.completeCall i) _ _ := b.steps_of_step (.completeCall i)
  have posts := steps.posts
  change (b.step frameError (.completeCall i)).1.books.registry = b.books.registry
  generalize (b.step frameError (.completeCall i)).1.books = k at posts
  generalize (b.step frameError (.completeCall i)).2 = effects at posts
  cases posts with
  | completed i q' call path response' frame found' owned stands' retained unfinished encoded =>
    cases found.symm.trans found'
    cases stands.symm.trans stands'
    have failed : (frameError frame).isSome = true := by
      rcases unreturned with gone | finished | failed
      · exact absurd retained gone
      · rw [unfinished] at finished
        cases finished
      · rwa [encoded]
    have sent : (frameError frame).isNone = false := by simpa using failed
    have unknown : b.unregistered (senderHosted frame.capTable) = true := by
      simpa [accountsFor, found, stands, ← encoded, sent, retained, unfinished] using accounted
    change (tracked b.dispatchByCapability frame.capTable false).1 = b.dispatchByCapability
    unfold tracked
    rw [trackDescriptor_unregistered (unregistered_iff.1 unknown)]
  | released event index referenceCount registered releases =>
    rcases releases with same | ⟨_, arrives, -⟩
    · cases same
    · cases arrives
  | finished event finish i arrives => cases arrives
  | _ => rfl

theorem follows_initial (options : RpcServerBridgeOptions) :
    Follows Ledger.empty (initial options).books :=
  ⟨nofun, nofun, nofun⟩

/-- The ledger of a run that starts with the bridge. -/
def ledgerOf (frameError : RpcReturnMessage → Option Thrown) (options : RpcServerBridgeOptions)
    (events : List Event) : Ledger :=
  (Machine.shown (step frameError) (initial options) events).foldl Ledger.note Ledger.empty

/-- In a run that `accountsFor` every step, the reference count of a registered capability is never
negative and is the balance of its account, and a call that gets no Return with results leaves the
registry. -/
theorem wire_references_exact (frameError : RpcReturnMessage → Option Thrown)
    (options : RpcServerBridgeOptions) (events : List Event)
    (accounted : Machine.Always (Machine.watched Ledger.note (step frameError))
      (fun s event => accountsFor frameError s event = true)
        (initial options, Ledger.empty) events) :
    let b := Machine.final (step frameError) (initial options) events
    let ledger := ledgerOf frameError options events
    (∀ c registered, b.dispatchByCapability.lookup c = some registered →
      0 ≤ registered.refCount ∧ registered.refCount = (ledger.accounts c).balance) ∧
    ∀ i q response, b.questions[i]? = some q → q.stage = .dispatched (.results response) →
      (¬ b.retains q.questionId i ∨ q.entry.finished = true ∨
        (frameError (encodeReturnResultsFrame q.questionId response)).isSome = true) →
      accountsFor frameError (b, ledger) (.completeCall i) = true →
      (b.step frameError (.completeCall i)).1.dispatchByCapability = b.dispatchByCapability := by
  intro b ledger
  have follows := accounted.invariant
    (P := fun s : RpcServerBridge × Ledger => s.1.Covered ∧ Follows s.2 s.1.books)
    (fun s event accounted before => ?_) ?_
  · rw [Machine.final_watched] at follows
    refine ⟨fun c registered found => ⟨?_, (follows.2.tallied c registered found).1⟩, ?_⟩
    · exact run_counted frameError options events c registered found
    · intro i q response found stands unreturned accounted
      exact registry_unreturned found stands unreturned accounted
  · have steps : Steps frameError s.1 event _ _ := s.1.steps_of_step event
    exact ⟨before.1.steps steps, before.2.posts before.1 steps.posts accounted⟩
  · exact ⟨covered_initial options, follows_initial options⟩

/-! ## A Return that cannot be encoded -/

/-- The frame encoder wants framed contents, or none. -/
def emptyContentError (frame : RpcReturnMessage) : Option Thrown :=
  match frame.kind with
  | .results (some []) _ => some (protocolError "content must be a framed Cap'n Proto message")
  | _ => none

/-- A capability without references is called, and answers with itself. -/
def selfReturning (content : Option Bytes) : List Event :=
  [.exportCapability ⟨7, none⟩ none 0, .handleFrame (.call ⟨3, 7, .importedCap 0⟩ 8),
    .handlerSettles 0 (.results ⟨content, some [⟨CAP_DESCRIPTOR_TAG_SENDER_HOSTED, 0⟩],
      none, none⟩),
    .completeCall 0]

/-- With an empty struct for its content the Return is sent, and grants the reference it carries. -/
theorem wire_references_exact_returned :
    let b := Machine.final (step emptyContentError) (initial .default) (selfReturning none)
    ∃ registered, b.dispatchByCapability.lookup 0 = some registered ∧
      registered.refCount =
      ((ledgerOf emptyContentError .default (selfReturning none)).accounts 0).balance := by
  intro b
  have accounted : Machine.Always (Machine.watched Ledger.note (step emptyContentError))
      (fun s event => accountsFor emptyContentError s event = true) (initial .default, Ledger.empty)
      (selfReturning none) := by decide
  have found : ∃ registered, b.dispatchByCapability.lookup 0 = some registered := ⟨_, rfl⟩
  obtain ⟨registered, there⟩ := found
  have exact := (wire_references_exact emptyContentError .default (selfReturning none) accounted).1
  exact ⟨registered, there, (exact 0 registered there).2⟩

/-- A bridge that evicts its answers. -/
def evictingOptions : RpcServerBridgeOptions :=
  { RpcServerBridgeOptions.default with answerEvictionTimeoutMs := some 5 }

/-- The answer is evicted before its caller finishes the question and gives its references back. -/
def evictedAnswer : List Event :=
  selfReturning none ++ [.evictionTimer 0, .handleFrame (.finish ⟨3, true⟩)]

/-- With contents that are no framed message `handleFrame` rejects, but the reference stays granted;
and a Finish after the eviction gives nothing back. -/
theorem references_missed :
    (let b := Machine.final (step emptyContentError) (initial .default) (selfReturning (some []))
     (∃ registered, b.dispatchByCapability.lookup 0 = some registered ∧ registered.refCount = 1) ∧
      ((ledgerOf emptyContentError .default (selfReturning (some []))).accounts 0).balance = 0) ∧
    let b := Machine.final (step emptyContentError) (initial evictingOptions) evictedAnswer
    (∃ registered, b.dispatchByCapability.lookup 0 = some registered ∧ registered.refCount = 1) ∧
      ((ledgerOf emptyContentError evictingOptions evictedAnswer).accounts 0).balance = 0 := by
  refine ⟨⟨⟨_, rfl, ?_⟩, ?_⟩, ⟨_, rfl, ?_⟩, ?_⟩
  · decide
  · decide
  · decide
  · decide

end RpcServerBridge

end CapnpDeno
