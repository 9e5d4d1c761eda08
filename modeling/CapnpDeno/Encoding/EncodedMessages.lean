import CapnpDeno.Encoding.EncodedTrees

/-!
# Messages are drawn

The encoder's walk followed by the one that draws: what it makes of lists, pointer fields, structs
and messages (`messageTree_encodeStructMessage`).
-/

namespace CapnpDeno

open ByteList

variable {ι : Type} {schema : Schema ι} {b b' : MessageBuilder} {pointerWord : ℕ}

/-! ## Lists -/

theorem encoded_dataList {elementType : TypeDescriptor ι} {values : List Value} {size : ℕ}
    {b₁ : MessageBuilder} (scalar : isDataType elementType = true)
    (some : elementType ≠ .primitive .void) (below : pointerWord < b.words)
    (room : dataListWords (listElementSize elementType) values.length = .ok size)
    (filled : values.zipIdx.foldlM (fun t item =>
      encodeDataElement t (b.words * WORD_BYTES) elementType item.2 item.1)
        (b.allocWords size).2 = .ok b₁)
    (pointed : b₁.setListPointer pointerWord b.words (listElementSize elementType) values.length =
      .ok b') :
    ∃ block, values.zipIdx.foldlM (fun block item =>
      encodeDataElement block 0 elementType item.2 item.1)
        (Sketch.fresh b.words size).block = .ok block ∧
      Encoded b b' pointerWord
        (((Sketch.fresh b.words size).write block).tree
          (flatShape (listElementSize elementType) values.length),
          b.words + size) := by
  obtain ⟨few, bits, short⟩ := dataListWords_eq_ok room
  obtain ⟨block, drawn, realized, words⟩ := Fallible.foldlM_follows
    (fun t block => Realizes t (b.words + size) ((Sketch.fresh b.words size).write block)
      (fun _ => False) ∧
      block.words = size)
    ⟨Realizes.fresh b size _, rfl⟩ filled fun t block item mem t' related done => by
      obtain ⟨realized, words⟩ := related
      have low : item.2 < values.length := List.snd_lt_of_mem_zipIdx mem
      have write := scalarWrite_encodeDataElement scalar some item.2 item.1
      have here : encodeDataElement t ((b.words + 0) * WORD_BYTES) elementType item.2 item.1 =
          .ok t' := done
      obtain ⟨block', step, realized'⟩ := realized.scalar write here fun k inside => by
        have inside : k < (item.2 + 1) * elementBits (listElementSize elementType) := inside
        have fits : (item.2 + 1) * elementBits (listElementSize elementType) ≤
            values.length * elementBits (listElementSize elementType) := Nat.mul_le_mul_right _ low
        refine ⟨?_, id⟩
        show 0 + k / 64 < block.words
        omega
      exact ⟨block', step, realized', (write.words step).trans words⟩
  have rewrites := (setListPointer_eq_ok (by omega) pointed).2
  refine ⟨block, drawn, ?_, rewrites.words.trans realized.words⟩
  apply realized.placed_flat below (by omega) (words ▸ short) _ pointed
  exact fun _ => ⟨False.elim, fun pointers => absurd pointers (by omega)⟩

theorem encoded_pointerList {encodeElement : MessageBuilder → ℕ → Value →
      Except Thrown MessageBuilder}
    {drawElement : ℕ → ℕ → Value → Except Thrown (ObjectTree × ℕ)}
    (grows : ∀ b pointerWord value b', encodeElement b pointerWord value = .ok b' →
      Grows b b' fun i => i / 8 = pointerWord)
    (elements : ∀ b pointerWord value b', pointerWord < b.words →
      encodeElement b pointerWord value = .ok b' →
      ∃ drawn, drawElement pointerWord b.words value = .ok drawn ∧ Encoded b b' pointerWord drawn)
    {values : List Value} {b₁ : MessageBuilder} (below : pointerWord < b.words)
    (filled : values.zipIdx.foldlM (fun t item => encodeElement t (b.words + item.2) item.1)
      (b.allocWords values.length).2 = .ok b₁)
    (pointed : b₁.setListPointer pointerWord b.words 6 values.length = .ok b') :
    ∃ s, values.zipIdx.foldlM (fun s item =>
      s.put item.2 <$> drawElement (s.start + item.2) s.words item.1)
        (Sketch.fresh b.words values.length) = .ok s ∧
      Encoded b b' pointerWord (s.tree (flatShape 6 values.length), s.words) := by
  obtain ⟨s, drawn, realized, start, words⟩ := Fallible.foldlM_follows
    (g := fun s item => s.put item.2 <$> drawElement (s.start + item.2) s.words item.1)
    (fun t s => Realizes t (b.words + values.length) s (fun _ => True) ∧ s.start = b.words ∧
      s.block.words = values.length)
    ⟨Realizes.fresh b values.length _, rfl, rfl⟩ filled fun t s item mem t' related done => by
      obtain ⟨realized, start, words⟩ := related
      have low : item.2 < s.block.words := words ▸ List.snd_lt_of_mem_zipIdx mem
      have inside := realized.inside
      have room := realized.room
      rw [← start] at done
      obtain ⟨drawn, step, encoded⟩ := elements t (s.start + item.2) item.1 t' (by omega) done
      rw [realized.words] at step
      refine ⟨s.put item.2 drawn, by rw [step]; rfl, ?_, start, words⟩
      exact realized.point (grows _ _ _ _ done) low trivial encoded.placed encoded.words
  have rewrites := (setListPointer_eq_ok (by decide) pointed).2
  refine ⟨s, drawn, ?_, rewrites.words.trans realized.words⟩
  rw [← start] at pointed below
  have few : flatWords 6 (values.length % 2 ^ 29) ≤ s.block.words := words.symm ▸ Nat.mod_le _ _
  exact start ▸ realized.placed_flat below (by decide) few (fun _ => by simp) pointed

/-! ## Structs in objects -/

/-- A struct lies in an object: its data among the plain words, its pointers among the others. -/
structure StructRoom (isSlot : ℕ → Prop) (size : ℕ) (descriptor : StructDescriptor ι)
    (structWord : ℕ) : Prop where
  fits : structWord + descriptor.dataWordCount + descriptor.pointerCount ≤ size
  data : ∀ w < descriptor.dataWordCount, ¬ isSlot (structWord + w)
  pointers : ∀ w < descriptor.pointerCount, isSlot (structWord + descriptor.dataWordCount + w)

/-- The structs that are encoded are those that are drawn. -/
structure Followed (schema : Schema ι) (encode : MessageBuilder → ι → ℕ → Value →
      Except Thrown MessageBuilder)
    (draw : Sketch → ι → ℕ → Value → Except Thrown Sketch) : Prop where
  grows : ∀ b get structWord value b', encode b get structWord value = .ok b' →
    Grows b b' (BytesOf structWord (structBits schema get))
  redraws : ∀ s get structWord value s', draw s get structWord value = .ok s' →
    Redraws s s' structWord (structBits schema get)
  follows : ∀ b lo s isSlot get structWord value b', Realizes b lo s isSlot →
    StructRoom isSlot s.block.words (schema get) structWord →
    encode b get (s.start + structWord) value = .ok b' →
      ∃ s', draw s get structWord value = .ok s' ∧ Realizes b' lo s' isSlot

section Objects

variable {encode : MessageBuilder → ι → ℕ → Value → Except Thrown MessageBuilder}
  {draw : Sketch → ι → ℕ → Value → Except Thrown Sketch} (followed : Followed schema encode draw)
include followed

/-- A struct in words of its own. -/
theorem encoded_struct (sizes : ∀ get, (schema get).dataWordCount < 2 ^ 16 ∧
      (schema get).pointerCount < 2 ^ 16)
    {get : ι} {value : Value} {b₁ : MessageBuilder} (below : pointerWord < b.words)
    (pointed : (b.allocWords ((schema get).dataWordCount +
      (schema get).pointerCount)).2.setStructPointer pointerWord
      b.words (schema get).dataWordCount (schema get).pointerCount = .ok b₁)
    (done : encode b₁ get b.words value = .ok b') :
    ∃ s, draw (Sketch.fresh b.words ((schema get).dataWordCount + (schema get).pointerCount)) get 0
      value = .ok s ∧
      Encoded b b' pointerWord
        (s.tree (.struct (schema get).dataWordCount (schema get).pointerCount), s.words) := by
  set dw := (schema get).dataWordCount
  set pc := (schema get).pointerCount
  have valid : (Shape.struct dw pc).Valid := sizes get
  obtain ⟨fits, rewrites⟩ := (MessageBuilder.setPointer_eq_ok valid).1 pointed
  have realized :=
    (Realizes.fresh b (dw + pc) (dw ≤ ·)).elsewhere rewrites.grows rewrites.words fun i place => by
    show i < 8 * b.words
    omega
  have room : StructRoom (dw ≤ ·) (dw + pc) (schema get) 0 := by
    refine ⟨by omega, fun w low => ?_, fun w low => ?_⟩
    · show ¬ dw ≤ 0 + w
      omega
    · show dw ≤ 0 + dw + w
      omega
  obtain ⟨s, drawn, realized'⟩ := followed.follows _ _ _ _ get 0 value b' realized room done
  have redraws := followed.redraws _ _ _ _ _ drawn
  have start : s.start = b.words := redraws.start
  have size : s.block.words = dw + pc := redraws.size
  refine ⟨s, drawn, ?_, realized'.words⟩
  have word : readLE b'.bytes (8 * pointerWord) 8 =
      (Shape.struct dw pc).pointerWord ((Shape.struct dw pc).offset pointerWord s.start) := by
    have inside := rewrites.inside
    have words := rewrites.words
    rw [(followed.grows _ _ _ _ _ done).readLE_eq (by omega), rewrites.read, start]
    · exact Nat.mod_eq_of_lt (pointerWord_lt valid _)
    · intro i _ high touches
      have := touches.low
      omega
  have short : (Shape.struct dw pc).words ≤ s.block.words := size.ge
  rw [← start] at below ⊢
  apply realized'.placed below valid short _ trivial (start.symm ▸ fits) word
  intro w low
  rw [Shape.slots, List.mem_map]
  constructor
  · intro high
    have low : w < dw + pc := low
    exact ⟨w - dw, List.mem_range.2 (by omega), by omega⟩
  · rintro ⟨j, -, rfl⟩
    exact Nat.le_add_right dw j

omit followed in
/-- A word of an object that is no pointer is set; words are cut to their size. -/
theorem Realizes.setWord {lo w word : ℕ} {s : Sketch} {isSlot : ℕ → Prop}
    (h : Realizes b lo s isSlot) (done : b.writeWord (s.start + w) word = .ok b')
    (low : w < s.block.words) (plain : ¬ isSlot w) :
    ∃ block, s.block.writeWord w (word % 2 ^ 64) = .ok block ∧
      Realizes b' lo (s.write block) isSlot ∧
      Rewrites s.block block w (word % 2 ^ 64) := by
  have bytes : ∀ {b b' : MessageBuilder} {w : ℕ}, b.writeWord w word = .ok b' ↔
      b.setBytes (8 * w) (toLE 8 word) "writeWord" = .ok b' := by
    intro b b' w
    unfold MessageBuilder.writeWord MessageBuilder.setBytes
    simp only [length_toLE, WORD_BYTES, Nat.mul_comm w 8]
    by_cases fits : w + 1 ≤ b.words
    · rw [dif_pos fits, dif_pos (by omega)]
    · rw [dif_neg fits, dif_neg (by omega)]
      simp
  rw [bytes, Nat.mul_add] at done
  obtain ⟨block, written, realized⟩ := h.set done (by rw [length_toLE]; omega) fun i low' high => by
    rw [length_toLE] at high
    rwa [show i / 8 = w by omega]
  obtain ⟨block', written', rewrites⟩ := s.block.writeWord_ok low (word % 2 ^ 64)
  have same : block' = block := by
    have rewrites' := MessageBuilder.writeWord_eq_ok.1 (bytes.2 written)
    apply MessageBuilder.ext_bytes
    rw [rewrites.bytes, rewrites'.bytes, writeLE, writeLE]
    exact congrArg _ (toLE_mod 8 word)
  exact ⟨block, same ▸ written', realized, same ▸ rewrites⟩

omit followed in
/-- The elements of a list of structs lie behind its tag, one after the other. -/
theorem elementRoom (get : ι) {n i : ℕ} (low : i + 1 ≤ n) :
    StructRoom (elementSlot (schema get).dataWordCount (schema get).pointerCount)
      (1 + ((schema get).dataWordCount + (schema get).pointerCount) * n) (schema get)
      (1 + i * ((schema get).dataWordCount + (schema get).pointerCount)) := by
  generalize pointers : (schema get).pointerCount = pc
  generalize data : (schema get).dataWordCount = dw
  have last : (i + 1) * (dw + pc) ≤ n * (dw + pc) := Nat.mul_le_mul_right _ low
  have place : ∀ w < dw + pc, (1 + i * (dw + pc) + w - 1) % (dw + pc) = w := by
    intro w inside
    rw [show 1 + i * (dw + pc) + w - 1 =
      w + i * (dw + pc) by omega, Nat.add_mul_mod_self_right, Nat.mod_eq_of_lt inside]
  rw [Nat.add_mul, Nat.one_mul, Nat.mul_comm n] at last
  constructor
  · omega
  · intro w inside slotted
    have := slotted.2
    rw [data] at inside
    rw [place w (by omega)] at this
    omega
  · intro w inside
    rw [pointers] at inside
    rw [data]
    refine ⟨by omega, ?_⟩
    rw [Nat.add_assoc, place (dw + w) (by omega)]
    exact Nat.le_add_right dw w

theorem encoded_structList {drawElement : ℕ → ℕ → Value → Except Thrown (ObjectTree × ℕ)}
    (sizes : ∀ get, (schema get).dataWordCount < 2 ^ 16 ∧ (schema get).pointerCount < 2 ^ 16)
    {get : ι} {values : List Value} {b₁ b₂ : MessageBuilder} (below : pointerWord < b.words)
    (tagged : (b.allocWords (1 + ((schema get).dataWordCount + (schema get).pointerCount) *
      values.length)).2.writeWord
      b.words (values.length <<< 2 ||| (schema get).dataWordCount <<< 32 |||
        (schema get).pointerCount <<< 48) = .ok b₁)
    (filled : values.zipIdx.foldlM (fun t item => encode t get (b.words + 1 + item.2 *
      ((schema get).dataWordCount + (schema get).pointerCount)) item.1) b₁ = .ok b₂)
    (pointed : b₂.setListPointer pointerWord b.words 7
      (((schema get).dataWordCount + (schema get).pointerCount) * values.length) = .ok b') :
    ∃ drawn, drawListField schema draw drawElement b.words (.struct get) values = .ok drawn ∧
      Encoded b b' pointerWord drawn := by
  set dw := (schema get).dataWordCount with data
  set pc := (schema get).pointerCount with pointers
  obtain ⟨small, few⟩ := sizes get
  obtain ⟨block, tag, realized, rewrites⟩ := (Realizes.fresh b (1 + (dw + pc) * values.length)
    (elementSlot dw pc)).setWord (w := 0) tagged (by show 0 < 1 + _; omega) fun slotted =>
  absurd slotted.1 (by decide)
  have first : readLE block.bytes 0 8 = listTag dw pc values.length :=
    rewrites.read.trans (Nat.mod_mod _ _)
  obtain ⟨s, drawn, realized, start, size, tag'⟩ := Fallible.foldlM_follows
    (g := fun s item => draw s get (1 + item.2 * (dw + pc)) item.1)
    (fun t s => Realizes t (b.words + (1 + (dw + pc) * values.length)) s (elementSlot dw pc) ∧
      s.start = b.words ∧
      s.block.words = 1 + (dw + pc) * values.length ∧ readLE s.block.bytes 0 8 =
        listTag dw pc values.length)
    ⟨realized, rfl, rewrites.words, first⟩ filled fun t s item mem t' related done => by
      obtain ⟨realized, start, size, tag'⟩ := related
      have low : item.2 + 1 ≤ values.length := List.snd_lt_of_mem_zipIdx mem
      have last := Nat.mul_le_mul_left (dw + pc) low
      have room : StructRoom (elementSlot dw pc) s.block.words (schema get)
          (1 + item.2 * (dw + pc)) := by
        rw [size]
        exact elementRoom get low
      rw [← start, Nat.add_assoc] at done
      obtain ⟨s', step, realized'⟩ := followed.follows _ _ _ _ _ _ _ _ realized room done
      have redraws := followed.redraws _ _ _ _ _ step
      refine ⟨s', step, realized', redraws.start.trans start, redraws.size.trans size, ?_⟩
      rw [redraws.block.readLE_eq (by omega), tag']
      intro i _ high touches
      have := touches.low
      omega
  have rewrites' := (setListPointer_eq_ok (by decide) pointed).2
  refine ⟨(s.tree (structListShape dw pc values.length), s.words), ?_, ?_,
    rewrites'.words.trans realized.words⟩
  · exact Fallible.bind_eq_ok.2 ⟨block, tag, Fallible.bind_eq_ok.2 ⟨s, drawn, rfl⟩⟩
  · rw [← start] at pointed below
    exact start ▸ realized.placed_structList below small few size tag' pointed

/-! ## Pointer fields -/

theorem encoded_encodeListField
    (sizes : ∀ get, (schema get).dataWordCount < 2 ^ 16 ∧ (schema get).pointerCount < 2 ^ 16)
    {encodeElement : MessageBuilder → ℕ → Value → Except Thrown MessageBuilder}
    {drawElement : ℕ → ℕ → Value → Except Thrown (ObjectTree × ℕ)}
    (grows : ∀ b pointerWord value b', encodeElement b pointerWord value = .ok b' →
      Grows b b' fun i => i / 8 = pointerWord)
    (elements : ∀ b pointerWord value b', pointerWord < b.words →
      encodeElement b pointerWord value = .ok b' →
      ∃ drawn, drawElement pointerWord b.words value = .ok drawn ∧ Encoded b b' pointerWord drawn)
    {elementType : TypeDescriptor ι} {values : List Value} (below : pointerWord < b.words)
    (done : encodeListField schema encode encodeElement b pointerWord elementType values = .ok b') :
    ∃ drawn, drawListField schema draw drawElement b.words elementType values = .ok drawn ∧
      Encoded b b' pointerWord drawn := by
  unfold encodeListField at done
  split at done
  · exact ⟨_, rfl, encoded_void below done⟩
  · obtain ⟨b₁, tagged, done⟩ := Fallible.bind_eq_ok.1 done
    obtain ⟨b₂, filled, pointed⟩ := Fallible.bind_eq_ok.1 done
    exact encoded_structList followed sizes below tagged filled pointed
  · rename_i notVoid notStruct
    unfold drawListField
    split
    · exact absurd rfl notVoid
    · exact absurd rfl (notStruct _)
    split_ifs at done with pointers
    · obtain ⟨b₁, filled, pointed⟩ := Fallible.bind_eq_ok.1 done
      obtain ⟨s, drawn, encoded⟩ := encoded_pointerList grows elements below filled pointed
      rw [if_pos pointers]
      exact ⟨_, Fallible.bind_eq_ok.2 ⟨s, drawn, rfl⟩, encoded⟩
    · obtain ⟨size, room, done⟩ := Fallible.bind_eq_ok.1 done
      obtain ⟨b₁, filled, pointed⟩ := Fallible.bind_eq_ok.1 done
      have scalar : isDataType elementType = true := by simpa [isPointerType] using pointers
      obtain ⟨block, drawn, encoded⟩ := encoded_dataList scalar notVoid below room filled pointed
      rw [if_neg pointers, room, Fallible.ok_bind]
      exact ⟨_, Fallible.bind_eq_ok.2 ⟨block, drawn, rfl⟩, encoded⟩

omit followed in
/-- An absent value is a null pointer, drawn and encoded. -/
theorem encoded_unless_nullish {value : Value} {rest : Except Thrown MessageBuilder}
    {drawing : Except Thrown (ObjectTree × ℕ)}
    (done : (if isNullish value then b.writeWord pointerWord 0 else rest) = .ok b')
    (otherwise : rest = .ok b' → ∃ drawn, drawing = .ok drawn ∧ Encoded b b' pointerWord drawn) :
    ∃ drawn, (if isNullish value then pure (.null, b.words) else drawing) = .ok drawn ∧
      Encoded b b' pointerWord drawn := by
  split_ifs at done ⊢ with absent
  · exact ⟨_, rfl, encoded_null done⟩
  · exact otherwise done

theorem encoded_encodePointerField
    (sizes : ∀ get, (schema get).dataWordCount < 2 ^ 16 ∧ (schema get).pointerCount < 2 ^ 16)
    {type : TypeDescriptor ι} {value : Value} (below : pointerWord < b.words)
    (done : encodePointerField schema encode b pointerWord type value = .ok b') :
    ∃ drawn, drawPointerField schema draw pointerWord b.words type value = .ok drawn ∧
      Encoded b b' pointerWord drawn := by
  have weak : ∀ b get structWord value b', encode b get structWord value = .ok b' →
      Grows b b' fun i => 8 * structWord ≤ i := fun b get structWord value b' done =>
    (followed.grows b get structWord value b' done).mono fun i _ => BytesOf.low
  induction type generalizing b pointerWord value b' with
  | text =>
    refine encoded_unless_nullish done fun done => ?_
    have size : (MessageBuilder.utf8Encode (asString value)).length + 1 =
        (MessageBuilder.utf8Encode (asString value) ++ [0]).length := by simp
    unfold MessageBuilder.writeTextPointer at done
    simp only [size] at done
    obtain ⟨b₁, written, pointed⟩ := Fallible.bind_eq_ok.1 done
    exact encoded_bytes below written pointed
  | data =>
    refine encoded_unless_nullish done fun done => ?_
    obtain ⟨b₁, written, pointed⟩ := Fallible.bind_eq_ok.1 done
    exact encoded_bytes below written pointed
  | list element ih =>
    refine encoded_unless_nullish done fun done => ?_
    exact encoded_encodeListField followed sizes (fun _ _ _ _ => grows_encodePointerField weak)
      (fun _ _ _ _ => ih) below done
  | struct get =>
    refine encoded_unless_nullish done fun done => ?_
    obtain ⟨b₁, pointed, done⟩ := Fallible.bind_eq_ok.1 done
    obtain ⟨s, drawn, encoded⟩ := encoded_struct followed sizes below pointed done
    exact ⟨_, Fallible.bind_eq_ok.2 ⟨s, drawn, rfl⟩, encoded⟩
  | interface =>
    refine encoded_unless_nullish done fun done => ?_
    obtain ⟨index, denotes, done⟩ := Fallible.bind_eq_ok.1 done
    rw [denotes, Fallible.ok_bind]
    cases index with
    | none => exact ⟨_, rfl, encoded_null done⟩
    | some capabilityIndex =>
      obtain ⟨word, found, done⟩ := Fallible.bind_eq_ok.1 done
      exact encoded_capability found done
  | anyPointer =>
    refine encoded_unless_nullish done fun done => ?_
    obtain ⟨pointer, denotes, done⟩ := Fallible.bind_eq_ok.1 done
    rw [denotes, Fallible.ok_bind]
    cases pointer with
    | null => exact ⟨_, rfl, encoded_null done⟩
    | interface capabilityIndex =>
      obtain ⟨word, found, done⟩ := Fallible.bind_eq_ok.1 done
      exact encoded_capability found done
    | message message => exact encoded_message below done
  | primitive kind => exact encoded_unless_nullish done nofun
  | enum byOrdinal toOrdinal => exact encoded_unless_nullish done nofun

end Objects

/-! ## Structs -/

/-- Scalars lie inside the data section. -/
def Schema.DataInside (schema : Schema ι) : Prop :=
  ∀ get name offset type mask d, .slot name offset type mask d ∈ (schema get).fields →
    isDataType type = true →
    ∀ k ∈ slotBits (schema get).dataWordCount type offset mask, k < 64 * (schema get).dataWordCount

theorem StructRoom.bit {isSlot : ℕ → Prop} {size structWord k : ℕ} {descriptor : StructDescriptor ι}
    (room : StructRoom isSlot size descriptor structWord)
    (low : k < 64 * descriptor.dataWordCount) :
    structWord + k / 64 < size ∧ ¬ isSlot (structWord + k / 64) := by
  have fits := room.fits
  exact ⟨by omega, room.data (k / 64) (by omega)⟩

/-! ## Fields -/

/-- A field that is given a value is written. -/
theorem encodeField_present {encode : MessageBuilder → ι → ℕ → Value → Except Thrown MessageBuilder}
    {descriptor : StructDescriptor ι} {structWord : ℕ} {field : FieldDescriptor ι} {value : Value}
    (present : value ≠ .undefined) (b : MessageBuilder) :
    encodeField schema encode descriptor structWord b field value =
      match field with
      | .group _ get _ => encode b get structWord (.object (asRecord value))
      | .slot _ offset type defaultMask _ =>
        if isDataType type then encodeDataField b structWord offset type value defaultMask
        else encodePointerField schema encode b
          (MessageBuilder.pointerWordIndex structWord descriptor.dataWordCount offset) type
          value := by
  cases value with
  | undefined => exact absurd rfl present
  | _ => rfl

theorem drawField_slot {draw : Sketch → ι → ℕ → Value → Except Thrown Sketch}
    {descriptor : StructDescriptor ι} {structWord offset mask : ℕ} {name : String}
    {type : TypeDescriptor ι} {d : Option ℕ} {value : Value} (pointer : ¬ isDataType type = true)
    (present : value ≠ .undefined) (s : Sketch) :
    drawField schema draw descriptor structWord s (.slot name offset type mask d) value =
      (s.put (MessageBuilder.pointerWordIndex structWord descriptor.dataWordCount offset) <$>
        drawPointerField schema draw
          (s.start + MessageBuilder.pointerWordIndex structWord descriptor.dataWordCount offset)
            s.words type value) := by
  cases value with
  | undefined => exact absurd rfl present
  | _ => exact if_neg pointer

theorem drawField_data {draw : Sketch → ι → ℕ → Value → Except Thrown Sketch}
    {descriptor : StructDescriptor ι} {structWord offset mask : ℕ} {name : String}
    {type : TypeDescriptor ι} {d : Option ℕ} {value : Value} (scalar : isDataType type = true)
    (present : value ≠ .undefined) (s : Sketch) :
    drawField schema draw descriptor structWord s (.slot name offset type mask d) value =
      (s.write <$> encodeDataField s.block structWord offset type value mask) := by
  cases value with
  | undefined => exact absurd rfl present
  | _ => exact if_pos scalar

theorem drawField_group {draw : Sketch → ι → ℕ → Value → Except Thrown Sketch}
    {descriptor : StructDescriptor ι} {structWord : ℕ} {name : String} {get : ι} {d : Option ℕ}
    {value : Value} (present : value ≠ .undefined) (s : Sketch) :
    drawField schema draw descriptor structWord s (.group name get d) value =
      draw s get structWord (.object (asRecord value)) := by
  cases value with
  | undefined => exact absurd rfl present
  | _ => rfl

section Structs

variable (wf : schema.WellFormed) (inside : schema.DataInside) {lo : ℕ} {s : Sketch}
  {isSlot : ℕ → Prop} {get : ι} {structWord : ℕ}
include wf inside

theorem follows_encodeField {encode : MessageBuilder → ι → ℕ → Value → Except Thrown MessageBuilder}
    {draw : Sketch → ι → ℕ → Value → Except Thrown Sketch} (followed : Followed schema encode draw)
    {field : FieldDescriptor ι} {fieldValue : Value} (mem : field ∈ (schema get).fields)
    (h : Realizes b lo s isSlot) (room : StructRoom isSlot s.block.words (schema get) structWord)
    (done : encodeField schema encode (schema get) (s.start + structWord) b field fieldValue =
      .ok b') :
    ∃ s', drawField schema draw (schema get) structWord s field fieldValue = .ok s' ∧
    Realizes b' lo s' isSlot := by
  by_cases absent : fieldValue = .undefined
  · subst absent
    cases done
    exact ⟨s, rfl, h⟩
  rw [encodeField_present absent] at done
  cases field with
  | group name get' d =>
    obtain ⟨data, pointers⟩ := wf.groups get name get' d mem
    have room' : StructRoom isSlot s.block.words (schema get') structWord := by
      constructor
      · rw [data, pointers]
        exact room.fits
      · rw [data]
        exact room.data
      · rw [data, pointers]
        exact room.pointers
    rw [drawField_group absent]
    exact followed.follows _ _ _ _ _ _ _ _ h room' done
  | slot name offset type mask d =>
    dsimp only at done
    split_ifs at done with scalar
    · rw [drawField_data scalar absent]
      obtain ⟨block, written, realized⟩ := h.scalar
        (scalarWrite_encodeDataField scalar (schema get).dataWordCount offset fieldValue mask) done
        fun k bit =>
          room.bit (inside get name offset type mask d mem scalar k bit)
      exact ⟨s.write block, Fallible.map_eq_ok.2 ⟨block, written, rfl⟩, realized⟩
    · rw [drawField_slot scalar absent]
      have few :=
        wf.pointers get name offset type mask d mem (by simpa [isPointerType] using scalar)
      have fits := room.fits
      have inside' := h.inside
      have room' := h.room
      rw [MessageBuilder.pointerWordIndex, Nat.add_assoc, Nat.add_assoc] at done
      obtain ⟨drawn, found, encoded⟩ := encoded_encodePointerField followed wf.sizes (by omega) done
      rw [h.words] at found
      refine ⟨_, Fallible.map_eq_ok.2 ⟨drawn, ?_, rfl⟩, ?_⟩
      · rw [MessageBuilder.pointerWordIndex, Nat.add_assoc]
        exact found
      · rw [MessageBuilder.pointerWordIndex, Nat.add_assoc]
        have weak : ∀ b get structWord value b', encode b get structWord value = .ok b' →
            Grows b b' fun i => 8 * structWord ≤ i := fun b get structWord value b' done =>
          (followed.grows b get structWord value b' done).mono fun i _ => BytesOf.low
        apply h.point (grows_encodePointerField weak done) (by omega) _ encoded.placed encoded.words
        rw [← Nat.add_assoc]
        exact room.pointers offset few

theorem follows_encodeStructAt {stack : ℕ} {value : Value} (h : Realizes b lo s isSlot)
    (room : StructRoom isSlot s.block.words (schema get) structWord)
    (done : encodeStructAt schema stack b get (s.start + structWord) value = .ok b') :
    ∃ s', drawStruct schema stack s get structWord value = .ok s' ∧ Realizes b' lo s' isSlot := by
  induction stack generalizing b lo s isSlot get structWord value b' with
  | zero => cases done
  | succ stack ih =>
    have followed : Followed schema (encodeStructAt schema stack) (drawStruct schema stack) :=
      ⟨fun _ _ _ _ _ => grows_encodeStructAt, fun _ _ _ _ _ => redraws_drawStruct,
        fun _ _ _ _ _ _ _ _ h room done => ih h room done⟩
    obtain ⟨b₁, tagged, done⟩ := Fallible.bind_eq_ok.1 done
    have tag := scalarWrite_encodeDiscriminant (schema get)
      (resolveActiveDiscriminant (schema get) (asRecord value))
    obtain ⟨block, drawn, realized⟩ := h.scalar tag tagged fun k bit => by
      apply room.bit
      unfold discriminantBits at bit
      split at bit
      · rename_i union present
        have := (wf.unions get union present).1
        have := bit.2
        omega
      · cases bit
    obtain ⟨s', run, realized, -⟩ := Fallible.foldlM_follows
      (g := fun s field => if isInactive field (resolveActiveDiscriminant (schema get)
        (asRecord value)) then pure s
        else drawField schema (drawStruct schema stack) (schema get) structWord s field
          (getProp (asRecord value) field.name))
      (fun b t => Realizes b lo t isSlot ∧
        Redraws (s.write block) t structWord (structBits schema get))
      ⟨realized, .refl _ _ _⟩ done fun b₂ t field mem b₃ related next => by
        obtain ⟨realized, redraws⟩ := related
        split_ifs at next ⊢ with inactive
        · cases next
          exact ⟨t, rfl, realized, redraws⟩
        have start : t.start = s.start := redraws.start
        have room' : StructRoom isSlot t.block.words (schema get) structWord := by
          rw [redraws.size]
          show StructRoom isSlot block.words _ _
          rw [tag.words drawn]
          exact room
        rw [← start] at next
        obtain ⟨t', step, realized'⟩ :=
          follows_encodeField wf inside followed mem realized room' next
        have fresh := redraws_drawField (fun _ _ _ _ _ => redraws_drawStruct) step
        exact ⟨t', step, realized', redraws.trans (fresh.mono fun k bit => .inr ⟨field, mem, bit⟩)⟩
    exact ⟨s', Fallible.bind_eq_ok.2 ⟨block, drawn, run⟩, realized⟩

/-- **Messages are drawn.**  What a reader finds behind the root pointer of an encoded message is
the tree that is drawn of its value, and it finds it if all lists of that tree can be read. -/
theorem messageTree_encodeStructMessage {stack : ℕ} {value : Value} {bytes : Bytes}
    (done : encodeStructMessage schema stack get value = .ok bytes) :
    ∃ t, drawStructMessage schema stack get value = .ok t ∧ ∀ t', MessageTree bytes t' ↔ t' = t ∧
    t.Sound := by
  obtain ⟨b₁, pointed, done⟩ := Fallible.bind_eq_ok.1 done
  obtain ⟨b₂, encoded, done⟩ := Fallible.bind_eq_ok.1 done
  have followed : Followed schema (encodeStructAt schema stack) (drawStruct schema stack) :=
    ⟨fun _ _ _ _ _ => grows_encodeStructAt, fun _ _ _ _ _ => redraws_drawStruct,
      fun _ _ _ _ _ _ _ _ h room done => follows_encodeStructAt wf inside h room done⟩
  obtain ⟨s, drawn, root⟩ :=
    encoded_struct followed wf.sizes (show 0 < MessageBuilder.new.words by decide) pointed encoded
  obtain ⟨short, rfl⟩ := MessageBuilder.toMessageBytes_eq_ok.1 done
  have some : 1 ≤ b₂.words := by
    have pointed' := (grows_setStructPointer pointed).words
    have encoded' := (grows_encodeStructAt encoded).words
    exact ((Nat.le_add_right 1 _).trans pointed').trans encoded'
  refine ⟨_, Fallible.bind_eq_ok.2 ⟨s, drawn, rfl⟩, fun t' => ?_⟩
  rw [← root.placed.reads_iff some b₂.size.ge]
  have opened := ofBytes_single b₂.size (MessageBuilder.words_lt_of_fits short)
  constructor
  · rintro ⟨r, opened', reads⟩
    cases opened.symm.trans opened'
    exact reads
  · exact fun reads => ⟨_, opened, reads⟩

end Structs

end CapnpDeno
