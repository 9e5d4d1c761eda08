import CapnpDeno.Rpc.Wire.FrameLayout

/-!
# The parts of a frame, read back

Each part of a frame is read back by its own decoder, in every later segment: the capability table,
the content of a payload and the target of a call.
-/

namespace CapnpDeno

open ByteList

namespace Wire

variable {b b' : RpcWireMessageBuilder} {pointerWord : ℕ}

theorem ensureUint_eq_ok {bits value checked : ℕ} {name : String} :
    ensureUint bits value name = .ok checked ↔ value < 2 ^ bits ∧ value = checked := by
  unfold ensureUint
  split_ifs with fits
  · simp [fits]
  · exact ⟨nofun, fun h => absurd h.1 fits⟩

/-- A checked number is passed on as it is. -/
theorem ensureUint_bind {α : Type} {bits value : ℕ} {name : String} {f : ℕ → Except Thrown α}
    {a : α} :
    ensureUint bits value name >>= f = .ok a ↔ value < 2 ^ bits ∧ f value = .ok a := by
  simp only [Fallible.bind_eq_ok, ensureUint_eq_ok]
  constructor
  · rintro ⟨_, ⟨fits, rfl⟩, done⟩
    exact ⟨fits, done⟩
  · rintro ⟨fits, done⟩
    exact ⟨_, ⟨fits, rfl⟩, done⟩

/-! ## Capability tables -/

/-- What a frame carries of a descriptor. -/
def RpcCapDescriptor.onWire (entry : RpcCapDescriptor) : RpcCapDescriptor :=
  if entry.tag = CAP_DESCRIPTOR_TAG_THIRD_PARTY_HOSTED then
    ⟨entry.tag, entry.id, some (entry.vineId.getD 0), entry.contact⟩
  else ⟨entry.tag, entry.id, none, none⟩

/-- The pointer to the contact has room for its length. -/
def RpcCapDescriptor.ContactFits (entry : RpcCapDescriptor) : Prop :=
  ∀ contact, entry.contact = some contact → contact.length < 2 ^ 29

/-- The part of a descriptor that names a third party. -/
theorem writes_thirdParty {elemWord vineId nested : ℕ} {contact : Bytes}
    {b₁ b₂ b₃ : RpcWireMessageBuilder} (small : vineId < 2 ^ 32) (short : contact.length < 2 ^ 29)
    (below : elemWord + 2 ≤ b.words) (alloc : allocStruct b (elemWord + 1) 1 1 = .ok (nested, b₁))
    (vine : writeU32 b₁ nested 0 vineId = .ok b₂)
    (bytes : writeBytes (b₂.allocWords ((contact.length + 7) % 2 ^ 32 / 8)).2 b₂.words 0 contact =
      .ok b₃)
    (pointed : setListPointer b₃ (nested + 1) b₂.words 2 contact.length = .ok b') :
    Writes b b' (fun i => i / 8 = elemWord + 1) (Behind b b' (elemWord + 1)) fun m =>
      decodeThirdPartyHostedDescriptor ⟨[m]⟩ ⟨0, elemWord, 1, 1⟩ = .ok (vineId, contact) := by
  obtain ⟨rfl, words₁, -, writes₁⟩ := writes_allocStruct (by decide) (by decide) (by decide) alloc
  obtain ⟨words₂, -, -, writes₂⟩ := writes_number small vine
  obtain ⟨words₃, -, writes₃⟩ := writes_writeBytes bytes
  obtain ⟨words₄, -, fits, writes₄⟩ := writes_setListPointer (by decide) pointed
  have words₃ : b₃.words = b₂.words + (contact.length + 7) % 2 ^ 32 / 8 := words₃
  rw [Nat.mod_eq_of_lt (show contact.length + 7 < 2 ^ 32 by omega)] at words₃
  have all := ((writes₁.andThen writes₂ (by simp only [At]; omega)).andThen writes₃.of_alloc
    (by simp only [At]; omega)).andThen writes₄ (by simp only [At]; omega)
  apply all.weaken
  · simp only [At]
    omega
  · simp only [Behind]
    omega
  · simp only [At, Behind]
    omega
  · rintro m long ⟨⟨⟨struct, vine⟩, content⟩, word⟩
    have room : 8 * (b₂.words + bytesToWords contact.length) ≤ m.length := by
      rw [bytesToWords]
      omega
    rw [Nat.mod_eq_of_lt short] at word
    have list := decodeByteListPointer_near (by omega) word fits short (by push_cast; ring) room
    unfold decodeThirdPartyHostedDescriptor readU32InStruct
    rw [(pointerWordIndex_ok Nat.one_pos).2, struct, Fallible.ok_bind, orThrow_some,
      Fallible.ok_bind,
      readUintInStruct_ok (by decide) (by omega), Fallible.ok_bind,
      (@pointerWordIndex_ok _ ⟨[m]⟩ _ _ _ _ Nat.one_pos).1,
      Fallible.ok_bind, list, Fallible.ok_bind, orThrow_some, Fallible.ok_bind, vine]
    simp [content, Nat.mul_comm b₂.words]

theorem writes_encodeCapDescriptor {base i : ℕ} {entry : RpcCapDescriptor}
    (short : entry.ContactFits) (room : base + (i + 1) * 2 ≤ b.words)
    (done : encodeCapDescriptor b (base + i * 2) i entry = .ok b') :
    Writes b b' (Elements base 2 i 1) (fun k => Elements base 2 i 1 k ∨ 8 * b.words ≤ k ∧
      k < 8 * b'.words) fun m =>
      decodeCapDescriptor ⟨[m]⟩ ⟨0, base + i * 2, 1, 1⟩ = .ok entry.onWire := by
  set elemWord := base + i * 2 with place
  obtain ⟨small, done⟩ := ensureUint_bind.1 done
  obtain ⟨b₁, tagged, done⟩ := Fallible.bind_eq_ok.1 done
  obtain ⟨small', done⟩ := ensureUint_bind.1 done
  obtain ⟨b₂, known, done⟩ := Fallible.bind_eq_ok.1 done
  obtain ⟨words₁, -, -, writes₁⟩ := writes_number small tagged
  obtain ⟨words₂, -, -, writes₂⟩ := writes_number small' known
  have head := writes₁.andThen writes₂ (by simp only [At]; omega)
  have fields : ∀ m : Bytes, 8 * b.words ≤ m.length → readLE m (8 * elemWord + 0) 2 = entry.tag ∧
      readLE m (8 * elemWord + 4) 4 = entry.id → decodeCapDescriptor ⟨[m]⟩ ⟨0, elemWord, 1, 1⟩ =
        if entry.tag = CAP_DESCRIPTOR_TAG_THIRD_PARTY_HOSTED then
          (decodeThirdPartyHostedDescriptor ⟨[m]⟩ ⟨0, elemWord, 1, 1⟩).bind fun hosted =>
            .ok ⟨entry.tag, entry.id, some hosted.1, some hosted.2⟩
        else .ok ⟨entry.tag, entry.id, none, none⟩ := by
    rintro m long ⟨tag, id⟩
    unfold decodeCapDescriptor readU16InStruct readU32InStruct
    rw [readUintInStruct_ok (by decide) (by omega), Fallible.ok_bind,
      readUintInStruct_ok (by decide) (by omega),
      Fallible.ok_bind, tag, id]
    rfl
  unfold RpcCapDescriptor.onWire
  split_ifs at done ⊢ with third
  · obtain ⟨small'', done⟩ := ensureUint_bind.1 done
    cases contact : entry.contact with
    | none =>
      rw [contact] at done
      cases done
    | some bytes =>
      rw [contact] at done
      obtain ⟨⟨nested, b₃⟩, alloc, done⟩ := Fallible.bind_eq_ok.1 done
      obtain ⟨b₄, vine, done⟩ := Fallible.bind_eq_ok.1 done
      obtain ⟨b₅, written, pointed⟩ := Fallible.bind_eq_ok.1 done
      have tail := writes_thirdParty small'' (short bytes contact)
        (by omega) alloc vine written pointed
      apply (head.andThen tail (by simp only [At]; omega)).weaken
      · simp only [At, Elements]
        omega
      · have := tail.grown.words
        simp only [Elements]
        omega
      · simp only [At, Behind, Elements]
        omega
      · rintro m long ⟨plain, third'⟩
        have := tail.grown.words
        rw [fields m (by omega) plain, if_pos third, third']
        rfl
  · cases done
    apply head.weaken
    · simp only [At, Elements]
      omega
    · simp only [Elements]
      omega
    · simp only [At, Elements]
      omega
    · intro m long plain
      rw [fields m (by omega) plain, if_neg third]

theorem inlineCompositeTag_eq_ok {count dataWordCount pointerCount tag : ℕ} (short : count < 2 ^ 30)
    (done : inlineCompositeTag count dataWordCount pointerCount = .ok tag) :
    dataWordCount < 2 ^ 16 ∧ pointerCount < 2 ^ 16 ∧
    tag = tagWord count dataWordCount pointerCount := by
  obtain ⟨-, done⟩ := ensureUint_bind.1 done
  obtain ⟨small, done⟩ := ensureUint_bind.1 done
  obtain ⟨few, done⟩ := ensureUint_bind.1 done
  refine ⟨small, few, ?_⟩
  rw [← tagWord_eq_or pointerCount short small, ← Except.ok.inj done, show 0x3fff_ffff =
    2 ^ 30 - 1 from rfl, BitField.and_low_mask, Nat.mod_eq_of_lt short]

/-- The capability table of a payload is read back. -/
theorem points_encodeCapTable {capTable : Option (List RpcCapDescriptor)}
    (few : (capTable.getD []).length < 2 ^ 30)
    (short : ∀ entry ∈ capTable.getD [], entry.ContactFits) (inside : pointerWord < b.words)
    (done : encodeCapTable b pointerWord capTable = .ok b') : Points b b' pointerWord fun m =>
      decodeCapTableFromPayload ⟨[m]⟩ ⟨0, pointerWord⟩ =
        .ok ((capTable.getD []).map RpcCapDescriptor.onWire) := by
  obtain ⟨b₁, pointed, done⟩ := Fallible.bind_eq_ok.1 done
  obtain ⟨tag, counted, done⟩ := Fallible.bind_eq_ok.1 done
  obtain ⟨b₂, tagged, run⟩ := Fallible.bind_eq_ok.1 done
  generalize capTable.getD [] = entries at few short pointed counted run ⊢
  obtain ⟨small, -, rfl⟩ := inlineCompositeTag_eq_ok few counted
  obtain ⟨words₁, -, fits, writes₁⟩ := writes_setListPointer (by decide) pointed
  obtain ⟨words₂, -, writes₂⟩ := writes_writeWord tagged
  have words₁ : b₁.words = b.words + (1 + entries.length * 2) := words₁
  have elements := writes_elements
    (fun m i entry => decodeCapDescriptor ⟨[m]⟩ ⟨0, b.words + 1 + i * 2, 1, 1⟩ = .ok entry.onWire) _
    (fun b entry i b' short room done => writes_encodeCapDescriptor short room done) short
    (by omega) run
  have more := elements.grown.words
  have all :=
    (writes₁.of_alloc.andThen writes₂ (by intro i; show _ → ¬ i / 8 = b.words; omega)).andThen
    elements (by simp only [Elements]; omega)
  apply all.weaken
  · simp only [Elements]
    omega
  · simp only [Behind]
    omega
  · simp only [Elements, Behind]
    omega
  · rintro m long ⟨⟨word, tag⟩, reads⟩
    have word : readLE m (8 * pointerWord) 8 =
        listWord ((b.words : ℤ) - (pointerWord + 1)) 7 (entries.length * 2 % 2 ^ 29) := word
    have tag : readLE m (8 * b.words) 8 = tagWord entries.length 1 1 % 2 ^ 64 := tag
    rw [Nat.mod_eq_of_lt (tagWord_lt few small small)] at tag
    unfold decodeCapTableFromPayload
    rw [decodeStructListPointer_near (by omega) word fits (Nat.mod_lt _ (by decide)) (by ring) tag
      few small small (by omega), Fallible.ok_bind]
    apply decodeElements_ok rfl
    intro j entry known
    have read := reads j entry known
    rwa [Nat.zero_add] at read

/-! ## Contents -/

/-- A pointer that is copied becomes null only in the last word of the segment. -/
theorem rebased_ne_zero {m : Bytes} {hi words word : ℕ} {t : ObjectTree} (laid : Laid m 1 hi 0 t)
    (present : readLE m 0 8 ≠ 0) (inside : pointerWord + 1 < words)
    (rebased : rebaseCopiedAnyPointerRootPointer (readLE m 0 8) words pointerWord = .ok word) :
    word ≠ 0 := by
  cases laid with
  | null null => exact absurd null present
  | @capability _ w source kind =>
    have kind : readLE m 0 8 % 4 = 3 := source ▸ kind
    rw [rebase_capability kind rebased]
    exact present
  | @object _ start shape children valid offset fits source target present' =>
    have source : readLE m 0 8 = shape.pointerWord offset := source
    rw [source] at rebased
    obtain ⟨near, rfl⟩ := rebase_pointerWord valid fits present' rebased
    rw [Ne, pointerWord_eq_zero near]
    omega

/-- What comes back of a message: its copy, which shows the same tree. -/
def ComesBack (message copy : Bytes) : Prop :=
  copyFromMessage message 0 0 .default = .ok copy ∧ ∃ t, MessageTree message t ∧ MessageTree copy t

/-- A message that is copied behind a pointer can be copied from there, unless the pointer is the
last word. -/
theorem points_message {message : Bytes} (inside : pointerWord + 1 < b.words)
    (done : encodeAnyPointerMessageIntoBuilder b pointerWord message .default = .ok b') :
    ∃ copy, ComesBack message copy ∧ Points b b' pointerWord fun m =>
      decodeAnyPointerMessageFromReader (flatReader m) 0 pointerWord .default = .ok copy := by
  obtain ⟨drawn, drawing, encoded⟩ := encoded_message (by omega) done
  have grown := grows_encodeAnyPointerMessageIntoBuilder done
  obtain ⟨r, opened, drawing⟩ := Fallible.bind_eq_ok.1 drawing
  obtain ⟨copy, copied, drawing⟩ := Fallible.bind_eq_ok.1 drawing
  obtain ⟨t, c, reads, some, laid, small, rfl⟩ := decodeAnyPointerMessageFromReader_eq_ok copied
  have sound : t.Sound :=
    (Placed.of_laid laid).sound_of_reads (by omega) c.size.ge (laid.reads (by omega) c.size.ge)
  have root : drawn.1 = t := by
    have segment : (toLE 4 0 ++ toLE 4 c.words ++ c.bytes).drop 8 = c.bytes := by
      rw [List.drop_append_of_le_length (by simp [length_toLE])]
      simp [length_toLE]
    have count : c.bytes.length / WORD_BYTES = c.words := by
      rw [c.size, WORD_BYTES]
      omega
    simp only [segment, count] at drawing
    rw [if_neg (by omega)] at drawing
    split_ifs at drawing with null
    · cases drawing
      have empty : Laid c.bytes 1 c.words 0 .null := .null null
      exact (empty.reads (by omega) c.size.ge).unique (laid.reads (by omega) c.size.ge)
    · obtain ⟨word, rebased, same⟩ := Fallible.bind_eq_ok.1 drawing
      cases same
      dsimp only
      rw [if_neg (rebased_ne_zero laid null inside rebased)]
      exact messageRoot_eq ⟨r, opened, reads⟩
  have more := grown.words
  have back : ComesBack message (toLE 4 0 ++ toLE 4 c.words ++ c.bytes) :=
    ⟨by rw [copyFromMessage, opened, Fallible.ok_bind, copied], t, ⟨r, opened, reads⟩, _,
      ofBytes_single c.size small, laid.reads (by omega) c.size.ge⟩
  refine ⟨_, back, grown, ?_, fun m long same => ?_⟩
  · simp only [Behind]
    omega
  · have behind : ByteList.Agree b'.bytes m (8 * b.words) (8 * b'.words) :=
      fun i low high => (same i (.inr ⟨low, high⟩)).symm
    have word : readLE m (8 * pointerWord) 8 = readLE b'.bytes (8 * pointerWord) 8 :=
      readLE_congr fun i low high => same i (.inl (by omega))
    have placed := (encoded.placed.frame behind word).laid (root ▸ sound)
    rw [root] at placed
    have default : AnyPointerCopyOptions.default.limits =
        .ok ⟨8 * 1024 * 1024, 8 * 1024 * 1024, 64⟩ := by decide
    exact copy_same reads (placed.reads (by omega) long) default default (.refl _) copied

/-! ## Payloads -/

/-- A payload with this content and this table is found behind the pointer. -/
def HoldsPayload (pointerWord : ℕ) (content : Bytes) (capTable : List RpcCapDescriptor)
    (m : Bytes) : Prop :=
  ∃ payload, decodeStructPointer ⟨[m]⟩ ⟨0, pointerWord⟩ = .ok (some payload) ∧
    ∀ context, decodePayload ⟨[m]⟩ (flatReader m) context (some payload) = .ok (content, capTable)

theorem writePayloadContentPointer_eq_ok {content : Option Bytes} {fieldName : String}
    (done : writePayloadContentPointer b pointerWord content fieldName = .ok b') :
    encodeAnyPointerMessageIntoBuilder b pointerWord (content.getD EMPTY_STRUCT_MESSAGE) .default =
      .ok b' := by
  obtain ⟨payload, normal, done⟩ := Fallible.bind_eq_ok.1 done
  have same : payload = content.getD EMPTY_STRUCT_MESSAGE := by
    rcases content with _ | _ | _
    · cases normal
      rfl
    · cases normal
    · cases normal
      rfl
  subst same
  cases encoded : encodeAnyPointerMessageIntoBuilder b pointerWord
    (content.getD EMPTY_STRUCT_MESSAGE) .default with
  | ok copied =>
    simp only [encoded] at done
    exact done
  | error error =>
    simp only [encoded] at done
    cases done

/-- The content of a payload is read back as its bounded copy. -/
theorem points_encodePayload {content : Option Bytes} {capTable : Option (List RpcCapDescriptor)}
    {fieldName : String} (few : (capTable.getD []).length < 2 ^ 30)
    (short : ∀ entry ∈ capTable.getD [], entry.ContactFits) (inside : pointerWord < b.words)
    (done : encodePayload b pointerWord content capTable fieldName = .ok b') :
    ∃ copy, ComesBack (content.getD EMPTY_STRUCT_MESSAGE) copy ∧
      Points b b' pointerWord (HoldsPayload pointerWord copy
        ((capTable.getD []).map RpcCapDescriptor.onWire)) := by
  obtain ⟨⟨payloadWord, b₁⟩, alloc, done⟩ := Fallible.bind_eq_ok.1 done
  obtain ⟨b₂, written, tabled⟩ := Fallible.bind_eq_ok.1 done
  obtain ⟨rfl, words₁, -, writes₁⟩ := writes_allocStruct (by decide) (by decide) (by decide) alloc
  obtain ⟨copy, copied, writes₂⟩ :=
    points_message (by omega) (writePayloadContentPointer_eq_ok written)
  have more := writes₂.grown.words
  have writes₃ := points_encodeCapTable few short (by omega) tabled
  have more' := writes₃.grown.words
  refine ⟨copy, copied, ((writes₁.andThen writes₂ (by omega)).andThen writes₃ ?_).weaken ?_
    ?_ ?_ ?_⟩
  · simp only [Behind]
    omega
  · omega
  · simp only [Behind]
    omega
  · simp only [Behind]
    omega
  · rintro m long ⟨⟨struct, content⟩, table⟩
    refine ⟨_, struct, fun context => ?_⟩
    simp only [decodePayload, (@pointerWordIndex_ok _ ⟨[m]⟩ _ _ _ _ Nat.zero_lt_two).1,
      (@pointerWordIndex_ok _ ⟨[m]⟩ _ _ _ _ Nat.one_lt_two).1, Fallible.ok_bind, Nat.add_zero,
      content, table, Fallible.pure_eq_ok]

/-! ## Call targets -/

/-- What a frame carries of an operation. -/
def onWireOp (op : RpcPromisedAnswerOp) : RpcPromisedAnswerOp :=
  if op.tag = RPC_PROMISED_ANSWER_OP_TAG_NOOP then ⟨RPC_PROMISED_ANSWER_OP_TAG_NOOP, none⟩ else op

/-- What a frame carries of a target: a missing transform is an empty one. -/
def onWireTarget : RpcCallTarget → RpcCallTarget
  | .importedCap importedCap => .importedCap importedCap
  | .promisedAnswer questionId transform =>
    .promisedAnswer questionId (some ((transform.getD []).map onWireOp))

theorem normalizePromisedAnswerOp_eq_ok {op normalized : RpcPromisedAnswerOp} {name : String}
    (done : normalizePromisedAnswerOp op name = .ok normalized) :
    normalized = onWireOp op ∧ (normalized.tag = RPC_PROMISED_ANSWER_OP_TAG_NOOP ∧
      normalized.pointerIndex = none ∨
      ∃ pointerIndex < 2 ^ 16, normalized =
        ⟨RPC_PROMISED_ANSWER_OP_TAG_GET_POINTER_FIELD, some pointerIndex⟩) := by
  unfold normalizePromisedAnswerOp at done
  unfold onWireOp
  split_ifs at done ⊢ with noop field
  · cases done
    exact ⟨rfl, .inl ⟨rfl, rfl⟩⟩
  · obtain ⟨tag, pointerIndex⟩ := op
    cases pointerIndex with
    | none => cases done
    | some pointerIndex =>
      obtain ⟨small, same⟩ := ensureUint_bind.1 done
      have tagged : tag = RPC_PROMISED_ANSWER_OP_TAG_GET_POINTER_FIELD := field
      subst tagged
      cases same
      exact ⟨rfl, .inr ⟨_, small, rfl⟩⟩

theorem writes_encodePromisedAnswerOp {base i : ℕ} {op : RpcPromisedAnswerOp}
    (room : base + (i + 1) * 1 ≤ b.words)
    (done : encodePromisedAnswerOp b (base + i) i op = .ok b') :
    Writes b b' (Elements base 1 i 1) (fun k => Elements base 1 i 1 k ∨ 8 * b.words ≤ k ∧
      k < 8 * b'.words) fun m =>
      decodePromisedAnswerOp ⟨[m]⟩ ⟨0, base + i * 1, 1, 0⟩ = .ok (onWireOp op) := by
  obtain ⟨normalized, normal, done⟩ := Fallible.bind_eq_ok.1 done
  obtain ⟨same, shape⟩ := normalizePromisedAnswerOp_eq_ok normal
  rw [← same]
  obtain ⟨small, done⟩ := ensureUint_bind.1 done
  obtain ⟨b₁, tagged, done⟩ := Fallible.bind_eq_ok.1 done
  obtain ⟨words₁, -, -, writes₁⟩ := writes_number small tagged
  obtain ⟨tag, pointerIndex⟩ := normalized
  rcases shape with ⟨noop, none⟩ | ⟨index, small', field⟩
  · have noop : tag = RPC_PROMISED_ANSWER_OP_TAG_NOOP := noop
    have none : pointerIndex = .none := none
    subst noop none
    rw [if_neg (by decide)] at done
    cases done
    apply writes₁.weaken
    · simp only [At, Elements]
      omega
    · simp only [Elements]
      omega
    · simp only [At, Elements]
      omega
    · intro m long tag
      unfold decodePromisedAnswerOp readU16InStruct
      rw [Nat.mul_one, readUintInStruct_ok (by decide) (by omega), tag, Fallible.ok_bind,
        if_pos rfl]
      rfl
  · cases field
    rw [if_pos rfl] at done
    obtain ⟨-, done⟩ := ensureUint_bind.1 done
    obtain ⟨words₂, -, -, writes₂⟩ := writes_number small' done
    apply (writes₁.andThen writes₂ (by simp only [At]; omega)).weaken
    · simp only [At, Elements]
      omega
    · simp only [Elements]
      omega
    · simp only [At, Elements]
      omega
    · rintro m long ⟨tag, index⟩
      have tag : readLE m (8 * (base + i) + 0) 2 = RPC_PROMISED_ANSWER_OP_TAG_GET_POINTER_FIELD :=
        tag
      unfold decodePromisedAnswerOp readU16InStruct
      rw [Nat.mul_one, readUintInStruct_ok (by decide) (by omega), tag, Fallible.ok_bind,
        if_neg (by decide), if_pos rfl, readUintInStruct_ok (by decide) (by omega)]
      exact congrArg (fun index => (Except.ok ⟨1, some index⟩ : Except Thrown RpcPromisedAnswerOp))
        index

/-- The transform of a promised answer is read back. -/
theorem points_encodePromisedAnswerTransform {transform : Option (List RpcPromisedAnswerOp)}
    (few : (transform.getD []).length < 2 ^ 30) (inside : pointerWord < b.words)
    (done : encodePromisedAnswerTransform b pointerWord transform = .ok b') :
    Points b b' pointerWord fun m =>
      decodePromisedAnswerTransform ⟨[m]⟩ ⟨0, pointerWord⟩ =
        .ok ((transform.getD []).map onWireOp) := by
  unfold encodePromisedAnswerTransform at done
  generalize transform.getD [] = ops at few done ⊢
  simp only at done
  split_ifs at done with empty
  · rw [List.length_eq_zero_iff] at empty
    subst empty
    obtain ⟨words, -, writes⟩ := writes_writeWord done
    apply writes.weaken (fun _ _ => id)
    · simp only [Behind]
      omega
    · exact fun i => .inl
    · intro m long word
      unfold decodePromisedAnswerTransform
      rw [decodeStructListPointer_null (by omega) word]
      rfl
  · obtain ⟨b₁, pointed, done⟩ := Fallible.bind_eq_ok.1 done
    obtain ⟨tag, counted, done⟩ := Fallible.bind_eq_ok.1 done
    obtain ⟨b₂, tagged, run⟩ := Fallible.bind_eq_ok.1 done
    obtain ⟨small, few', rfl⟩ := inlineCompositeTag_eq_ok (by omega) counted
    obtain ⟨words₁, -, fits, writes₁⟩ := writes_setListPointer (by decide) pointed
    obtain ⟨words₂, -, writes₂⟩ := writes_writeWord tagged
    have words₁ : b₁.words = b.words + (1 + ops.length) := words₁
    have elements := writes_elements
      (fun m i op => decodePromisedAnswerOp ⟨[m]⟩ ⟨0, b.words + 1 + i * 1, 1, 0⟩ =
        .ok (onWireOp op)) (fun _ => True)
      (fun b op i b' _ room done => writes_encodePromisedAnswerOp room done) (fun _ _ => trivial)
      (by omega) run
    have more := elements.grown.words
    have all :=
      (writes₁.of_alloc.andThen writes₂ (by intro i; show _ → ¬ i / 8 = b.words; omega)).andThen
      elements (by simp only [MessageBuilder.allocWords_fst, Elements]; omega)
    apply all.weaken
    · simp only [MessageBuilder.allocWords_fst, Elements]
      omega
    · simp only [Behind]
      omega
    · simp only [MessageBuilder.allocWords_fst, Elements, Behind]
      omega
    · rintro m long ⟨⟨word, tag⟩, reads⟩
      have word : readLE m (8 * pointerWord) 8 =
          listWord ((b.words : ℤ) - (pointerWord + 1)) 7 (ops.length % 2 ^ 29) := word
      have tag : readLE m (8 * b.words) 8 = tagWord ops.length 1 0 % 2 ^ 64 := tag
      rw [Nat.mod_eq_of_lt (tagWord_lt (by omega) small few')] at tag
      unfold decodePromisedAnswerTransform
      rw [decodeStructListPointer_near (by omega) word fits (Nat.mod_lt _ (by decide)) (by ring) tag
        (by omega) small few' (by omega), Fallible.ok_bind]
      apply decodeElements_ok rfl
      intro j op known
      have read := reads j op known
      rwa [Nat.zero_add] at read

/-- The numbers of a target and the transform have room. -/
def TargetFits : RpcCallTarget → Prop
  | .importedCap importedCap => importedCap < 2 ^ 32
  | .promisedAnswer questionId transform =>
    questionId < 2 ^ 32 ∧ (transform.getD []).length < 2 ^ 30

/-- A target is found behind the pointer. -/
def HoldsTarget (pointerWord : ℕ) (callTarget : RpcCallTarget) (m : Bytes) : Prop :=
  ∃ target, decodeStructPointer ⟨[m]⟩ ⟨0, pointerWord⟩ = .ok (some target) ∧
    decodeCallTarget ⟨[m]⟩ target = .ok callTarget

theorem points_importedCap {targetWord importedCap : ℕ} {b₁ b₂ : RpcWireMessageBuilder}
    (small : importedCap < 2 ^ 32) (inside : pointerWord < b.words)
    (alloc : allocStruct b pointerWord 1 1 = .ok (targetWord, b₁))
    (cap : writeU32 b₁ targetWord 0 importedCap = .ok b₂)
    (tagged : writeU16 b₂ targetWord 4 RPC_CALL_TARGET_TAG_IMPORTED_CAP = .ok b') :
    Points b b' pointerWord (HoldsTarget pointerWord (.importedCap importedCap)) := by
  obtain ⟨rfl, words₁, -, writes₁⟩ := writes_allocStruct (by decide) (by decide) (by decide) alloc
  obtain ⟨words₂, -, -, writes₂⟩ := writes_number small cap
  obtain ⟨words₃, -, -, writes₃⟩ := writes_number (by decide) tagged
  have all :=
    (writes₁.andThen writes₂ (by simp only [At]; omega)).andThen writes₃ (by simp only [At]; omega)
  apply all.weaken
  · simp only [At]
    omega
  · simp only [Behind]
    omega
  · simp only [At, Behind]
    omega
  · rintro m long ⟨⟨struct, cap⟩, tag⟩
    refine ⟨_, struct, ?_⟩
    unfold decodeCallTarget readU16InStruct readU32InStruct
    rw [readUintInStruct_ok (by decide) (by omega), tag, Fallible.ok_bind, if_pos rfl,
      readUintInStruct_ok (by decide) (by omega), cap]
    rfl

theorem points_promisedAnswer {targetWord promisedWord questionId : ℕ}
    {transform : Option (List RpcPromisedAnswerOp)} {b₁ b₂ b₃ b₄ : RpcWireMessageBuilder}
    (small : questionId < 2 ^ 32) (few : (transform.getD []).length < 2 ^ 30)
    (inside : pointerWord < b.words) (alloc : allocStruct b pointerWord 1 1 = .ok (targetWord, b₁))
    (tagged : writeU16 b₁ targetWord 4 RPC_CALL_TARGET_TAG_PROMISED_ANSWER = .ok b₂)
    (alloc' : allocStruct b₂ (targetWord + 1) 1 1 = .ok (promisedWord, b₃))
    (question : writeU32 b₃ promisedWord 0 questionId = .ok b₄)
    (transformed : encodePromisedAnswerTransform b₄ (promisedWord + 1) transform = .ok b') :
    Points b b' pointerWord
      (HoldsTarget pointerWord (onWireTarget (.promisedAnswer questionId transform))) := by
  obtain ⟨rfl, words₁, -, writes₁⟩ := writes_allocStruct (by decide) (by decide) (by decide) alloc
  obtain ⟨words₂, -, -, writes₂⟩ := writes_number (by decide) tagged
  obtain ⟨rfl, words₃, -, writes₃⟩ := writes_allocStruct (by decide) (by decide) (by decide) alloc'
  obtain ⟨words₄, -, -, writes₄⟩ := writes_number small question
  have writes₅ := points_encodePromisedAnswerTransform few (by omega) transformed
  have more := writes₅.grown.words
  have all := (((writes₁.andThen writes₂ (by simp only [At]; omega)).andThen writes₃
    (by simp only [At]; omega)).andThen writes₄ (by simp only [At]; omega)).andThen writes₅
    (by simp only [At]; omega)
  apply all.weaken
  · simp only [At]
    omega
  · simp only [Behind]
    omega
  · simp only [At, Behind]
    omega
  · rintro m long ⟨⟨⟨⟨struct, tag⟩, struct'⟩, question⟩, ops⟩
    refine ⟨_, struct, ?_⟩
    unfold decodeCallTarget readU16InStruct readU32InStruct
    rw [readUintInStruct_ok (by decide) (by omega), tag, Fallible.ok_bind,
      if_neg (by decide), if_pos rfl,
      (pointerWordIndex_ok Nat.one_pos).2, Nat.add_zero, struct', Fallible.ok_bind, orThrow_some,
      Fallible.ok_bind, readUintInStruct_ok (by decide) (by omega), question, Fallible.ok_bind,
      (@pointerWordIndex_ok _ ⟨[m]⟩ _ _ _ _ Nat.one_pos).1, Fallible.ok_bind, Nat.add_zero, ops]
    rfl

theorem points_encodeCallTarget {target : RpcCallTarget} (fits : TargetFits target)
    (inside : pointerWord < b.words) (done : encodeCallTarget b pointerWord target = .ok b') :
    Points b b' pointerWord (HoldsTarget pointerWord (onWireTarget target)) := by
  obtain ⟨⟨targetWord, b₁⟩, alloc, done⟩ := Fallible.bind_eq_ok.1 done
  cases target with
  | importedCap importedCap =>
    obtain ⟨b₂, cap, tagged⟩ := Fallible.bind_eq_ok.1 done
    exact points_importedCap fits inside alloc cap tagged
  | promisedAnswer questionId transform =>
    obtain ⟨b₂, tagged, done⟩ := Fallible.bind_eq_ok.1 done
    obtain ⟨⟨promisedWord, b₃⟩, alloc', done⟩ := Fallible.bind_eq_ok.1 done
    obtain ⟨b₄, question, transformed⟩ := Fallible.bind_eq_ok.1 done
    exact points_promisedAnswer fits.1 fits.2 inside alloc tagged alloc' question transformed

end Wire

end CapnpDeno
