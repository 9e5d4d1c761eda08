import CapnpDeno.Encoding.CapabilityFields
import CapnpDeno.Encoding.PlacedTrees

/-!
# Drawing object trees

What a value means, without a segment: the encoder's walk, with a tree in place of every pointer.
An object is drawn block by block (`Sketch`): its bytes are written with the builder's own
operations, and what its pointers lead to is kept beside them.  Of the segment only the number of
its words is kept: the copy of an empty struct becomes a null pointer where it comes to lie right
behind its slot.
-/

namespace CapnpDeno

open ByteList

variable {ι : Type}

/-! ## Sketches -/

/-- The block of an object that starts at a word of the segment, the trees at those of its words
that are pointers, and the words of the segment so far. -/
structure Sketch where
  start : ℕ
  words : ℕ
  block : MessageBuilder
  slots : ℕ → ObjectTree

namespace Sketch

/-- A fresh block at the end of the segment, with null pointers. -/
def fresh (words size : ℕ) : Sketch :=
  ⟨words, words + size, ⟨List.replicate (8 * size) 0, size, List.length_replicate⟩, fun _ => .null⟩

/-- The sketch with a pointer set to a tree, which makes the segment longer. -/
def put (s : Sketch) (word : ℕ) (drawn : ObjectTree × ℕ) : Sketch :=
  ⟨s.start, drawn.2, s.block, Function.update s.slots word drawn.1⟩

/-- The sketch with other bytes. -/
def write (s : Sketch) (block : MessageBuilder) : Sketch := ⟨s.start, s.words, block, s.slots⟩

/-- The finished object; of a list that cannot be read, only the shape is kept. -/
def tree (s : Sketch) (shape : Shape) : ObjectTree :=
  if shape.Valid then
    .object shape (blank shape.slots (slice s.block.bytes 0 (8 * shape.words)))
      (shape.slots.map s.slots)
  else .object shape [] []

@[simp] theorem put_slots_self (s : Sketch) (word : ℕ) (drawn : ObjectTree × ℕ) :
    (s.put word drawn).slots word = drawn.1 := Function.update_self _ _ _

theorem put_slots_of_ne (s : Sketch) {word w : ℕ} (drawn : ObjectTree × ℕ) (other : w ≠ word) :
    (s.put word drawn).slots w = s.slots w := Function.update_of_ne other _ _

end Sketch

/-! ## Shapes -/

/-- The shape of a flat list: its pointer has room for 29 bits of the count. -/
def flatShape (elementSize count : ℕ) : Shape := .flat elementSize (count % 2 ^ 29)

/-- The word that `encodeListField` writes as a tag. -/
def listTag (dataWordCount pointerCount count : ℕ) : ℕ :=
  (count <<< 2 ||| dataWordCount <<< 32 ||| pointerCount <<< 48) % 2 ^ 64

/-- The shape of a list of structs, from its pointer and its tag. -/
def structListShape (dataWordCount pointerCount count : ℕ) : Shape :=
  let tag := listTag dataWordCount pointerCount count
  .inlineComposite ((dataWordCount + pointerCount) * count % 2 ^ 29) (tag / 4 % 2 ^ 30)
    (tag / 2 ^ 32 % 2 ^ 16) (tag / 2 ^ 48 % 2 ^ 16)

/-! ## Pointers -/

/-- The tree behind the root pointer of a message. -/
noncomputable def messageRoot (message : Bytes) : ObjectTree :=
  open Classical in if h : ∃ t, MessageTree message t then h.choose else .null

theorem messageRoot_eq {message : Bytes} {t : ObjectTree} (h : MessageTree message t) :
    messageRoot message = t := by
  have some : ∃ t, MessageTree message t := ⟨t, h⟩
  rw [messageRoot, dif_pos some]
  exact some.choose_spec.unique h

/-- `writeTextPointer` and `writeDataPointer`. -/
def drawBytes (words : ℕ) (value : Bytes) (context : String) : Except Thrown (ObjectTree × ℕ) := do
  let s := Sketch.fresh words (bytesToWords value.length)
  let block ← s.block.setBytes 0 value context
  return ((s.write block).tree (flatShape 2 value.length), s.words)

/-- `encodeAnyPointerMessageIntoBuilder`, for the pointer at a word of the segment. -/
noncomputable def drawMessage (pointerWord words : ℕ) (message : Bytes) :
    Except Thrown (ObjectTree × ℕ) := do
  let r ← MessageReader.ofBytes message
  let flatMessage ← decodeAnyPointerMessageFromReader r 0 0 .default
  let flatSegment := flatMessage.drop 8
  let segmentWordCount := flatSegment.length / WORD_BYTES
  if segmentWordCount = 0 then
    return (.null, words)
  let sourceRootPointer := readLE flatSegment 0 8
  if sourceRootPointer = 0 then
    return (.null, words)
  let rebased ← rebaseCopiedAnyPointerRootPointer sourceRootPointer words pointerWord
  return (if rebased = 0 then .null else messageRoot message, words + segmentWordCount)

section Drawing

variable (schema : Schema ι) (drawStruct : Sketch → ι → ℕ → Value → Except Thrown Sketch)

/-- `encodeListField`. -/
def drawListField (drawElement : ℕ → ℕ → Value → Except Thrown (ObjectTree × ℕ)) (words : ℕ)
    (elementType : TypeDescriptor ι) (values : List Value) : Except Thrown (ObjectTree × ℕ) :=
  match elementType with
  | .primitive .void => pure ((Sketch.fresh words 0).tree (flatShape 0 values.length), words)
  | .struct get => do
    let descriptor := schema get
    let stride := descriptor.dataWordCount + descriptor.pointerCount
    let s := Sketch.fresh words (1 + stride * values.length)
    let block ← s.block.writeWord 0 (listTag descriptor.dataWordCount descriptor.pointerCount
        values.length)
    let s ← values.zipIdx.foldlM (fun s item => drawStruct s get (1 + item.2 * stride) item.1)
        (s.write block)
    return (s.tree (structListShape descriptor.dataWordCount descriptor.pointerCount values.length),
      s.words)
  | _ =>
    if isPointerType elementType then do
      let s ← values.zipIdx.foldlM (fun s item =>
          s.put item.2 <$> drawElement (s.start + item.2) s.words item.1)
        (Sketch.fresh words values.length)
      return (s.tree (flatShape 6 values.length), s.words)
    else do
      let size ← dataListWords (listElementSize elementType) values.length
      let s := Sketch.fresh words size
      let block ← values.zipIdx.foldlM (fun block item =>
          encodeDataElement block 0 elementType item.2 item.1) s.block
      return ((s.write block).tree (flatShape (listElementSize elementType) values.length), s.words)

/-- A capability pointer. -/
def drawCapability (words capabilityIndex : ℕ) : Except Thrown (ObjectTree × ℕ) :=
  (fun word => (.capability word, words)) <$> encodeCapabilityPointerWord capabilityIndex

/-- `encodePointerField`: the tree, and the words of the segment after it. -/
noncomputable def drawPointerField (pointerWord words : ℕ) (type : TypeDescriptor ι)
    (value : Value) :
    Except Thrown (ObjectTree × ℕ) :=
  if isNullish value then pure (.null, words)
  else
    match type with
    | .text =>
      drawBytes words (MessageBuilder.utf8Encode (asString value) ++ [0]) "writeTextPointer"
    | .data => drawBytes words (asUint8Array value) "writeDataPointer"
    | .struct get => do
      let descriptor := schema get
      let s ← drawStruct (Sketch.fresh words (descriptor.dataWordCount + descriptor.pointerCount))
          get 0 value
      return (s.tree (.struct descriptor.dataWordCount descriptor.pointerCount), s.words)
    | .list element =>
      drawListField schema drawStruct (fun pointerWord words value =>
        drawPointerField pointerWord words element value)
        words element (asArray value)
    | .interface => do
      match ← capabilityIndexFrom value with
      | none => return (.null, words)
      | some capabilityIndex => drawCapability words capabilityIndex
    | .anyPointer => do
      match ← asAnyPointerValue value with
      | .null => return (.null, words)
      | .interface capabilityIndex => drawCapability words capabilityIndex
      | .message message => drawMessage pointerWord words message
    | type => throw (plainError ("unexpected data type in pointer field: " ++ type.kind))

/-- The branches of the loop for an active field. -/
noncomputable def drawField (descriptor : StructDescriptor ι) (structWord : ℕ) (s : Sketch)
    (field : FieldDescriptor ι) (fieldValue : Value) : Except Thrown Sketch :=
  match fieldValue with
  | .undefined => pure s
  | _ =>
    match field with
    | .group _ get _ => drawStruct s get structWord (.object (asRecord fieldValue))
    | .slot _ offset type defaultMask _ =>
      if isDataType type then s.write <$> encodeDataField s.block structWord offset type fieldValue
        defaultMask
      else
        let word := MessageBuilder.pointerWordIndex structWord descriptor.dataWordCount offset
        s.put word <$> drawPointerField schema drawStruct (s.start + word) s.words type fieldValue

end Drawing

/-- `encodeStructAt`. -/
noncomputable def drawStruct (schema : Schema ι) : ℕ → Sketch → ι → ℕ → Value → Except Thrown Sketch
  | 0, _, _, _, _ => throw stackOverflow
  | stack + 1, s, get, structWord, value => do
    let descriptor := schema get
    let record := asRecord value
    let activeDiscriminant := resolveActiveDiscriminant descriptor record
    let block ← encodeDiscriminant s.block descriptor structWord activeDiscriminant
    descriptor.fields.foldlM (fun s field =>
      if isInactive field activeDiscriminant then pure s
      else drawField schema (drawStruct schema stack) descriptor structWord s field
        (getProp record field.name))
      (s.write block)

/-- `encodeStructMessage`: the tree behind the root pointer. -/
noncomputable def drawStructMessage (schema : Schema ι) (stack : ℕ) (get : ι) (value : Value) :
    Except Thrown ObjectTree := do
  let descriptor := schema get
  let s ← drawStruct schema stack
      (Sketch.fresh 1 (descriptor.dataWordCount + descriptor.pointerCount)) get 0 value
  return s.tree (.struct descriptor.dataWordCount descriptor.pointerCount)

/-! ## Scalars -/

/-- How a step of the encoder treats a scalar: it leaves it, it fails, or it sets some bytes, which
depend on nothing but the byte that was there. -/
inductive ScalarWrite (step : MessageBuilder → ℕ → Except Thrown MessageBuilder) (bits : Set ℕ) :
    Prop
  | idle (same : ∀ b structWord, step b structWord = .ok b)
  | fails (e : Thrown) (same : ∀ b structWord, step b structWord = .error e)
  | sets (place width : ℕ) (xs : ℕ → Bytes) (context : String)
    (size : ∀ byte, (xs byte).length = width)
      (some : 0 < width) (covers : ∀ i, place ≤ i → i < place + width → ∃ k ∈ bits, k / 8 = i)
      (same : ∀ b structWord, step b structWord = b.setBytes (structWord * WORD_BYTES + place)
        (xs (readLE b.bytes (structWord * WORD_BYTES + place) 1)) context)

namespace ScalarWrite

variable {step : MessageBuilder → ℕ → Except Thrown MessageBuilder} {bits : Set ℕ}
  {b b' : MessageBuilder} {structWord : ℕ}

/-- Whole bytes are set. -/
theorem of_bytes (place : ℕ) {xs : Bytes} {context : String} (some : 0 < xs.length)
    (covers : Set.Ico (8 * place) (8 * place + 8 * xs.length) ⊆ bits)
    (same : ∀ b structWord, step b structWord =
      b.setBytes (structWord * WORD_BYTES + place) xs context) :
    ScalarWrite step bits := by
  apply ScalarWrite.sets place xs.length (fun _ => xs) context (fun _ => rfl) some ?_ same
  intro i low high
  exact ⟨8 * i, covers ⟨by omega, by omega⟩, by omega⟩

/-- A bit is set. -/
theorem of_bit {offset : ℕ} {value : Bool} (covers : offset ∈ bits)
    (same : ∀ b structWord, step b structWord =
      b.setBool (structWord * WORD_BYTES + offset / 8) (offset % 8) value) :
      ScalarWrite step bits := by
  apply ScalarWrite.sets (offset / 8) 1 (fun byte =>
    toLE 1 (MessageBuilder.withBit byte (offset % 8) value)) "setBool"
    (fun _ => length_toLE 1 _) Nat.one_pos ?_ same
  intro i low high
  exact ⟨offset, covers, by omega⟩

theorem words (h : ScalarWrite step bits) (done : step b structWord = .ok b') :
    b'.words = b.words := by
  cases h with
  | idle same => cases (same b structWord).symm.trans done; rfl
  | fails e same => cases (same b structWord).symm.trans done
  | sets place width xs context size some covers same =>
    rw [same] at done
    unfold MessageBuilder.setBytes at done
    split_ifs at done
    cases done
    rfl

theorem grows (h : ScalarWrite step bits) (done : step b structWord = .ok b') :
    Grows b b' (BytesOf structWord bits) := by
  cases h with
  | idle same => cases (same b structWord).symm.trans done; exact .refl b _
  | fails e same => cases (same b structWord).symm.trans done
  | sets place width xs context size some covers same =>
    rw [same] at done
    apply grows_setBytes done
    intro i low high
    rw [size] at high
    rw [WORD_BYTES] at low high
    obtain ⟨k, mem, at_byte⟩ := covers (i - 8 * structWord) (by omega) (by omega)
    exact ⟨k, mem, by omega⟩

end ScalarWrite

theorem scalarWrite_encodeDataWithDefault {type : TypeDescriptor ι}
    (scalar : isDataType type = true) (dataWordCount offset : ℕ) (value : Value) {mask : ℕ}
    (masked : mask ≠ 0) :
    ScalarWrite (fun b structWord => encodeDataWithDefault b structWord offset type value mask)
      (slotBits dataWordCount type offset mask) := by
  have after {x : Except Thrown ℤ} {f : ℤ → MessageBuilder → ℕ → Except Thrown MessageBuilder}
      {bits : Set ℕ}
      (all : ∀ n, ScalarWrite (f n) bits) :
      ScalarWrite (fun b structWord => x >>= fun n => f n b structWord) bits := by
    cases x with
    | error e => exact .fails e fun _ _ => rfl
    | ok n => exact all n
  cases type with
  | enum byOrdinal toOrdinal =>
    apply after
    exact fun n => .of_bytes _ (by simp [MessageBuilder.lowBytes]) subset_rfl fun _ _ => rfl
  | primitive kind =>
    cases kind with
    | bool => exact .of_bit (Set.mem_singleton offset) fun _ _ => rfl
    | void =>
      rw [slotBits, if_neg masked]
      apply after
      exact fun n => .of_bytes _ (by simp [MessageBuilder.lowBytes]) subset_rfl fun _ _ => rfl
    | _ =>
      apply after
      exact fun n => .of_bytes _ (by simp [MessageBuilder.lowBytes]) subset_rfl fun _ _ => rfl
  | _ => cases scalar

theorem scalarWrite_encodeDataField {type : TypeDescriptor ι} (scalar : isDataType type = true)
    (dataWordCount offset : ℕ) (value : Value) (mask : ℕ) :
    ScalarWrite (fun b structWord => encodeDataField b structWord offset type value mask)
      (slotBits dataWordCount type offset mask) := by
  by_cases masked : mask ≠ 0
  · simp only [encodeDataField, if_pos masked]
    exact scalarWrite_encodeDataWithDefault scalar dataWordCount offset value masked
  · simp only [encodeDataField, if_neg masked]
    cases type with
    | enum byOrdinal toOrdinal =>
      exact .of_bytes _ (by simp [MessageBuilder.lowBytes]) subset_rfl fun _ _ => rfl
    | primitive kind =>
      cases kind with
      | void => exact .idle fun _ _ => rfl
      | bool => exact .of_bit (Set.mem_singleton offset) fun _ _ => rfl
      | _ => exact .of_bytes _ (by simp [MessageBuilder.lowBytes]) subset_rfl fun _ _ => rfl
    | _ => cases scalar

theorem scalarWrite_encodeDiscriminant (descriptor : StructDescriptor ι) (active : Option ℕ) :
    ScalarWrite (fun b structWord => encodeDiscriminant b descriptor structWord active)
      (discriminantBits descriptor) := by
  unfold encodeDiscriminant discriminantBits
  cases descriptor.union with
  | none => exact .idle fun _ _ => rfl
  | some union =>
    cases active with
    | none => exact .idle fun _ _ => rfl
    | some active =>
      apply ScalarWrite.of_bytes _ (by simp [MessageBuilder.lowBytes]) _ fun _ _ => rfl
      intro k inside
      rw [MessageBuilder.lowBytes, length_toLE] at inside
      exact ⟨by have := inside.1; omega, by have := inside.2; omega⟩

/-! ## What a struct changes -/

/-- A sketch was changed in some bits of a struct of it. -/
structure Redraws (s s' : Sketch) (structWord : ℕ) (bits : Set ℕ) : Prop where
  start : s'.start = s.start
  words : s.words ≤ s'.words
  size : s'.block.words = s.block.words
  block : Grows s.block s'.block (BytesOf structWord bits)
  slots : ∀ w, (∀ k ∈ bits, structWord + k / 64 ≠ w) → s'.slots w = s.slots w

namespace Redraws

variable {s s' s'' : Sketch} {structWord : ℕ} {bits bits' : Set ℕ}

theorem refl (s : Sketch) (structWord : ℕ) (bits : Set ℕ) : Redraws s s structWord bits :=
  ⟨rfl, le_rfl, rfl, .refl s.block _, fun _ _ => rfl⟩

theorem mono (h : Redraws s s' structWord bits') (sub : bits' ⊆ bits) :
    Redraws s s' structWord bits :=
  ⟨h.start, h.words, h.size, h.block.mono fun _ _ => BytesOf.mono sub, fun w free =>
    h.slots w fun k mem => free k (sub mem)⟩

theorem trans (h : Redraws s s' structWord bits) (h' : Redraws s' s'' structWord bits) :
    Redraws s s'' structWord bits :=
  ⟨h'.start.trans h.start, h.words.trans h'.words, h'.size.trans h.size, h.block.trans h'.block,
    fun w free => (h'.slots w free).trans (h.slots w free)⟩

theorem write {block : MessageBuilder} (size : block.words = s.block.words)
    (grows : Grows s.block block (BytesOf structWord bits)) :
    Redraws s (s.write block) structWord bits :=
  ⟨rfl, le_rfl, size, grows, fun _ _ => rfl⟩

theorem put (s : Sketch) {w : ℕ} {t : ObjectTree × ℕ} (more : s.words ≤ t.2) {k : ℕ}
    (mem : k ∈ bits) (place : structWord + k / 64 = w) : Redraws s (s.put w t) structWord bits := by
  refine ⟨rfl, more, rfl, .refl s.block _, fun w' free => ?_⟩
  apply s.put_slots_of_ne t
  rintro rfl
  exact free k mem place

/-- The same bits, counted from the start of the object. -/
theorem shift (h : Redraws s s' structWord bits) (sub : ∀ k ∈ bits, 64 * structWord + k ∈ bits') :
    Redraws s s' 0 bits' := by
  refine ⟨h.start, h.words, h.size, h.block.mono fun i _ touched => ?_, fun w free =>
    h.slots w fun k mem => ?_⟩
  · obtain ⟨k, mem, rfl⟩ := touched
    exact ⟨_, sub k mem, by omega⟩
  · have := free _ (sub k mem)
    omega

theorem getElem? (h : Redraws s s' structWord bits) {i : ℕ} (free : ¬ BytesOf structWord bits i) :
    s'.block.bytes[i]? = s.block.bytes[i]? := by
  by_cases inside : i < 8 * s.block.words
  · exact h.block.same i inside free
  · have size := s.block.size
    have size' := s'.block.size
    rw [h.size] at size'
    rw [List.getElem?_eq_none (by omega), List.getElem?_eq_none (by omega)]

end Redraws

section Frame

variable {schema : Schema ι}

theorem words_le_drawBytes {words : ℕ} {value : Bytes} {context : String} {drawn : ObjectTree × ℕ}
    (done : drawBytes words value context = .ok drawn) : words ≤ drawn.2 := by
  obtain ⟨block, -, same⟩ := Fallible.bind_eq_ok.1 done
  cases same
  exact Nat.le_add_right _ _

theorem words_le_drawMessage {pointerWord words : ℕ} {message : Bytes} {drawn : ObjectTree × ℕ}
    (done : drawMessage pointerWord words message = .ok drawn) : words ≤ drawn.2 := by
  obtain ⟨r, -, done⟩ := Fallible.bind_eq_ok.1 done
  obtain ⟨flatMessage, -, done⟩ := Fallible.bind_eq_ok.1 done
  dsimp only at done
  split_ifs at done
  · cases done
    exact le_rfl
  · cases done
    exact le_rfl
  · obtain ⟨rebased, -, same⟩ := Fallible.bind_eq_ok.1 done
    cases same
    exact Nat.le_add_right _ _

theorem words_le_drawCapability {words index : ℕ} {drawn : ObjectTree × ℕ}
    (done : drawCapability words index = .ok drawn) : words ≤ drawn.2 := by
  obtain ⟨word, -, rfl⟩ := Fallible.map_eq_ok.1 done
  exact le_rfl

theorem words_le_unless_nullish {words : ℕ} {value : Value} {rest : Except Thrown (ObjectTree × ℕ)}
    {drawn : ObjectTree × ℕ} (done : (if isNullish value then pure (.null, words) else rest) =
      .ok drawn)
    (otherwise : rest = .ok drawn → words ≤ drawn.2) : words ≤ drawn.2 := by
  split_ifs at done
  · cases done
    exact le_rfl
  · exact otherwise done

section Words

variable {draw : Sketch → ι → ℕ → Value → Except Thrown Sketch}
  (structs : ∀ s get structWord value s', draw s get structWord value = .ok s' → s.words ≤ s'.words)
include structs

theorem words_le_drawListField {drawElement : ℕ → ℕ → Value → Except Thrown (ObjectTree × ℕ)}
    (elements : ∀ pointerWord words value drawn, drawElement pointerWord words value = .ok drawn →
      words ≤ drawn.2)
    {words : ℕ} {elementType : TypeDescriptor ι} {values : List Value} {drawn : ObjectTree × ℕ}
    (done : drawListField schema draw drawElement words elementType values = .ok drawn) :
    words ≤ drawn.2 := by
  unfold drawListField at done
  split at done
  · cases done
    exact le_rfl
  · obtain ⟨block, -, done⟩ := Fallible.bind_eq_ok.1 done
    obtain ⟨s, run, same⟩ := Fallible.bind_eq_ok.1 done
    cases same
    apply Fallible.foldlM_keeps (fun t => words ≤ t.words) (Nat.le_add_right _ _) run
    exact fun t item _ t' more next => more.trans (structs _ _ _ _ _ next)
  · split_ifs at done
    · obtain ⟨s, run, same⟩ := Fallible.bind_eq_ok.1 done
      cases same
      apply Fallible.foldlM_keeps (fun t => words ≤ t.words) (Nat.le_add_right _ _) run
      intro t item _ t' more next
      obtain ⟨drawn, step, rfl⟩ := Fallible.map_eq_ok.1 next
      exact more.trans (elements _ _ _ _ step)
    · obtain ⟨size, -, done⟩ := Fallible.bind_eq_ok.1 done
      obtain ⟨block, -, same⟩ := Fallible.bind_eq_ok.1 done
      cases same
      exact Nat.le_add_right _ _

theorem words_le_drawPointerField {pointerWord words : ℕ} {type : TypeDescriptor ι} {value : Value}
    {drawn : ObjectTree × ℕ} (done : drawPointerField schema draw pointerWord words type value =
      .ok drawn) :
    words ≤ drawn.2 := by
  induction type generalizing pointerWord words value drawn with
  | text => exact words_le_unless_nullish done words_le_drawBytes
  | data => exact words_le_unless_nullish done words_le_drawBytes
  | list element ih =>
    exact words_le_unless_nullish done (words_le_drawListField structs fun _ _ _ _ => ih)
  | struct get =>
    apply words_le_unless_nullish done
    intro done
    obtain ⟨s, run, same⟩ := Fallible.bind_eq_ok.1 done
    cases same
    exact (Nat.le_add_right _ _).trans (structs _ _ _ _ _ run)
  | interface =>
    apply words_le_unless_nullish done
    intro done
    obtain ⟨index, -, done⟩ := Fallible.bind_eq_ok.1 done
    cases index with
    | none =>
      cases done
      exact le_rfl
    | some index => exact words_le_drawCapability done
  | anyPointer =>
    apply words_le_unless_nullish done
    intro done
    obtain ⟨pointer, -, done⟩ := Fallible.bind_eq_ok.1 done
    cases pointer with
    | null =>
      cases done
      exact le_rfl
    | interface index => exact words_le_drawCapability done
    | message message => exact words_le_drawMessage done
  | primitive kind => exact words_le_unless_nullish done nofun
  | enum byOrdinal toOrdinal => exact words_le_unless_nullish done nofun

end Words

/-- A field that is drawn changes its own bits. -/
theorem redraws_drawField {draw : Sketch → ι → ℕ → Value → Except Thrown Sketch}
    (structs : ∀ s get structWord value s', draw s get structWord value = .ok s' →
      Redraws s s' structWord (structBits schema get))
    {get : ι} {structWord : ℕ} {s s' : Sketch} {field : FieldDescriptor ι} {fieldValue : Value}
    (done : drawField schema draw (schema get) structWord s field fieldValue = .ok s') :
    Redraws s s' structWord {k | Occupies schema get field k} := by
  unfold drawField at done
  split at done
  · cases done
    exact .refl s _ _
  cases field with
  | group name get' d =>
    apply (structs _ _ _ _ _ done).mono
    rintro k (bit | ⟨field, mem, bit⟩)
    · exact .discriminant bit
    · exact .member mem bit
  | slot name offset type mask d =>
    dsimp only at done
    split_ifs at done with scalar
    · obtain ⟨block, written, rfl⟩ := Fallible.map_eq_ok.1 done
      have write :=
        scalarWrite_encodeDataField scalar (schema get).dataWordCount offset fieldValue mask
      apply (Redraws.write (write.words written) (write.grows written)).mono
      exact fun k bit => .slot bit
    · obtain ⟨t, drawn, rfl⟩ := Fallible.map_eq_ok.1 done
      apply Redraws.put s (words_le_drawPointerField (fun _ _ _ _ _ done =>
        (structs _ _ _ _ _ done).words) drawn) (k := 64 * ((schema get).dataWordCount + offset))
      · exact .slot (by rw [slotBits_pointer scalar]; exact ⟨le_rfl, by omega⟩)
      · rw [MessageBuilder.pointerWordIndex]
        omega

theorem redraws_drawStruct {stack : ℕ} {get : ι} {structWord : ℕ} {value : Value} {s s' : Sketch}
    (done : drawStruct schema stack s get structWord value = .ok s') :
    Redraws s s' structWord (structBits schema get) := by
  induction stack generalizing s get structWord value s' with
  | zero => cases done
  | succ stack ih =>
    obtain ⟨block, tagged, done⟩ := Fallible.bind_eq_ok.1 done
    have tag := scalarWrite_encodeDiscriminant (schema get)
      (resolveActiveDiscriminant (schema get) (asRecord value))
    have first : Redraws s (s.write block) structWord (structBits schema get) :=
      (Redraws.write (tag.words tagged) (tag.grows tagged)).mono fun k => Or.inl
    apply first.trans
    apply Fallible.foldlM_keeps (fun t =>
      Redraws (s.write block) t structWord (structBits schema get))
      (.refl _ _ _) done
    intro t field mem t' sofar next
    apply sofar.trans
    split_ifs at next
    · cases next
      exact .refl t _ _
    · apply (redraws_drawField (fun _ _ _ _ _ => ih) next).mono
      exact fun k bit => .inr ⟨field, mem, bit⟩

end Frame

end CapnpDeno
