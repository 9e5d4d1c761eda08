import CapnpDeno.Encoding.ReadBack
import CapnpDeno.Encoding.TextPointer

/-!
# The round trip of the codec

What `decodeStructMessage` returns for the message that `encodeStructMessage` makes of a value: the
value, with its absent fields filled in.  The encoder draws a tree (`drawStructMessage`), and the
decoder reads that tree (`treeMessage`), so the two meet at sketches.
-/

namespace CapnpDeno

open ByteList MessageReader

variable {ι : Type} {schema : Schema ι}

/-! ## Pointers -/

section Pointers

theorem DrawnNull.of_present {type : TypeDescriptor ι} {value : Value}
    (present : isNullish value = false) (other : type ≠ .anyPointer) : ¬ DrawnNull type value := by
  rintro (nullish | ⟨any, -⟩)
  · rw [present] at nullish
    cases nullish
  · exact other any

/-- A list of bytes is drawn with its bytes. -/
theorem drawBytes_spec {words : ℕ} {value : Bytes} {context : String} {drawn : ObjectTree × ℕ}
    (short : value.length < 2 ^ 29) (done : drawBytes words value context = .ok drawn) :
    ∃ content, drawn.1 = .object (.flat 2 value.length) content [] ∧ slice content 0 value.length =
      value := by
  obtain ⟨block, written, same⟩ := Fallible.bind_eq_ok.1 done
  cases same
  have valid : (Shape.flat 2 value.length).Valid := ⟨by decide, short⟩
  have shape : flatShape 2 value.length = .flat 2 value.length := by
    rw [flatShape, Nat.mod_eq_of_lt short]
  refine ⟨_, by rw [shape, Sketch.tree, if_pos valid]; rfl, ?_⟩
  have content := @MessageReader.slice_blank_block (flatReader block.bytes)
    (.flat 2 value.length) 0 0 0 value.length
    (by show 0 + value.length ≤ 8 * bytesToWords value.length; unfold bytesToWords; omega)
    (fun i _ _ slot => by cases slot)
  refine content.trans ?_
  unfold MessageBuilder.setBytes at written
  split_ifs at written with fits
  cases written
  exact slice_splice_self
    (by rw [(Sketch.fresh words (bytesToWords value.length)).block.size]; exact fits)

theorem pointerBack_text {s : String} (short : (MessageBuilder.utf8Encode s).length + 1 < 2 ^ 29) :
    PointerBack schema .text (.string s) (.string s) := by
  intro stack pointerWord words drawn done
  have length : (MessageBuilder.utf8Encode s ++ [0]).length = (MessageBuilder.utf8Encode s).length +
      1 := by simp
  have done : drawBytes words (MessageBuilder.utf8Encode s ++ [0]) "writeTextPointer" = .ok drawn :=
    done
  obtain ⟨content, tree, bytes⟩ := drawBytes_spec (by rw [length]; exact short) done
  rw [tree]
  refine ⟨.object ⟨by decide, by rw [length]; exact short⟩ (by simp), iff_of_false (by simp)
    (DrawnNull.of_present rfl (by simp)), 0, fun m _ => ?_⟩
  show Value.string <$> (if (slice content 0 _).getLast? ≠ some 0 then none
    else (MessageReader.strictDecode (slice content 0 _).dropLast).toOption) = _
  rw [bytes, List.getLast?_concat, if_neg (not_not.2 rfl), List.dropLast_concat,
    strictDecode_utf8Encode]
  rfl

theorem pointerBack_data {bs : Bytes} (short : bs.length < 2 ^ 29) :
    PointerBack schema .data (.bytes bs) (.bytes bs) := by
  intro stack pointerWord words drawn done
  obtain ⟨content, tree, bytes⟩ := drawBytes_spec short done
  rw [tree]
  refine ⟨.object ⟨by decide, short⟩ (by simp), iff_of_false
    (by simp) (DrawnNull.of_present rfl (by simp)), 0,
    fun m _ => ?_⟩
  exact congrArg (Value.bytes <$> ·) (congrArg some bytes)

/-- A capability pointer, drawn and read. -/
theorem drawCapability_spec {words index : ℕ} (small : index < 2 ^ 32) {drawn : ObjectTree × ℕ}
    (done : drawCapability words index = .ok drawn) :
    ∃ word, drawn.1 = .capability word ∧ decodeCapabilityPointerWord word = .ok index := by
  obtain ⟨word, encoded, rfl⟩ := Fallible.map_eq_ok.1 done
  refine ⟨word, rfl, ?_⟩
  unfold encodeCapabilityPointerWord at encoded
  rw [if_neg (by omega), BitField.or_shiftLeft (show 3 < 2 ^ 32 by decide)] at encoded
  cases encoded
  rw [decodeCapabilityPointerWord, and_kind, if_neg (by omega), and_segment]
  refine congrArg Except.ok ?_
  omega

theorem pointerBack_interface {index : ℕ} (small : index < 2 ^ 32) :
    PointerBack schema .interface (capabilityPointer index) (capabilityPointer index) := by
  intro stack pointerWord words drawn done
  obtain ⟨found, known, done⟩ := Fallible.bind_eq_ok.1 done
  rw [capabilityIndexFrom_capabilityPointer (by omega)] at known
  cases known
  obtain ⟨word, tree, decoded⟩ := drawCapability_spec small done
  rw [tree]
  refine ⟨.capability word, iff_of_false (by simp) (DrawnNull.of_present rfl (by simp)), 0,
    fun m _ => ?_⟩
  unfold treePointer
  rw [decoded]
  rfl

theorem pointerBack_anyInterface {index : ℕ} (small : index < 2 ^ 32) :
    PointerBack schema .anyPointer
    (AnyPointerValue.interface index).toValue (AnyPointerValue.interface index).toValue := by
  intro stack pointerWord words drawn done
  obtain ⟨integer, number⟩ := JsNumber.ofNat_value (show index < 2 ^ 53 by omega)
  have known : asAnyPointerValue (AnyPointerValue.interface index).toValue =
      .ok (.interface index) := by
    show AnyPointerValue.ofIndex <$> indexOfNumber (.ofNat index) = _
    rw [indexOfNumber, if_pos ⟨integer, by rw [number]; exact Int.natCast_nonneg index⟩, number]
    rfl
  obtain ⟨found, known', done⟩ := Fallible.bind_eq_ok.1 done
  rw [known] at known'
  cases known'
  obtain ⟨word, tree, decoded⟩ := drawCapability_spec small done
  rw [tree]
  refine ⟨.capability word, iff_of_false (by simp) ?_, 0, fun m _ => ?_⟩
  · rintro (nullish | ⟨-, null⟩)
    · cases nullish
    · rw [known] at null
      cases null
  · unfold treePointer
    rw [decoded]
    rfl

theorem pointerBack_null : PointerBack schema .interface .null .null := by
  intro stack pointerWord words drawn done
  cases done
  exact ⟨.null, iff_of_true rfl (.inl rfl), 0, fun m _ => rfl⟩

theorem pointerBack_anyNull :
    PointerBack schema .anyPointer AnyPointerValue.null.toValue AnyPointerValue.null.toValue := by
  intro stack pointerWord words drawn done
  have null : DrawnNull (.anyPointer : TypeDescriptor ι) AnyPointerValue.null.toValue :=
    .inr ⟨rfl, rfl⟩
  rw [null.drawn done]
  exact ⟨.null, iff_of_true rfl null, 0, fun m _ => rfl⟩

/-- The trees of a layout are sound. -/
theorem Laid.sound {m : Bytes} {lo hi pointerWord : ℕ} {t : ObjectTree}
    (h : Laid m lo hi pointerWord t) : t.Sound := by
  induction h with
  | null => exact .null
  | capability => exact .capability _
  | object valid offset fits word target present low high tagged arity child ih =>
    apply ObjectTree.Sound.object valid
    intro t mem
    obtain ⟨i, low, rfl⟩ := List.mem_iff_getElem.1 mem
    exact ih i _ _ (List.getElem?_eq_getElem (arity ▸ low)) (List.getElem?_eq_getElem low)

/-- The root of a message is copied as a whole, unless it is an empty struct. -/
theorem drawMessage_spec {pointerWord words : ℕ} {message : Bytes} {drawn : ObjectTree × ℕ}
    {shape : Shape} {content : Bytes} {children : List ObjectTree}
    (root : MessageTree message (.object shape content children)) (filled : shape ≠ .struct 0 0)
    (done : drawMessage pointerWord words message = .ok drawn) :
    drawn.1 = .object shape content children ∧ drawn.1.Sound := by
  obtain ⟨r, opened, done⟩ := Fallible.bind_eq_ok.1 done
  obtain ⟨flatMessage, copied, done⟩ := Fallible.bind_eq_ok.1 done
  obtain ⟨t, copy, reads, some, laid, -, rfl⟩ := decodeAnyPointerMessageFromReader_eq_ok copied
  obtain rfl : t = .object shape content children := MessageTree.unique ⟨r, opened, reads⟩ root
  have sound := laid.sound
  have segment : (toLE 4 0 ++ toLE 4 copy.words ++ copy.bytes).drop 8 = copy.bytes := by
    rw [List.drop_append_of_le_length (by simp [length_toLE])]
    simp [length_toLE]
  cases laid with
  | @object _ start _ _ valid offset fits source target present =>
    have source : readLE copy.bytes 0 8 = shape.pointerWord offset := source
    simp only [segment, source] at done
    rw [if_neg (by rw [copy.size, WORD_BYTES]; omega), if_neg present] at done
    obtain ⟨word, rebased, same⟩ := Fallible.bind_eq_ok.1 done
    obtain ⟨near, rfl⟩ := rebase_pointerWord valid fits present rebased
    cases same
    have kept : (if shape.pointerWord ((words : ℤ) + (1 + offset) - (pointerWord + 1)) =
        0 then .null
        else messageRoot message) = .object shape
        (blank shape.slots (blockAt copy.bytes shape start)) children := by
      rw [if_neg (fun null => filled ((pointerWord_eq_zero near).1 null).1), messageRoot_eq root]
    exact ⟨kept, by rw [kept]; exact sound⟩

theorem pointerBack_anyMessage {message copy : Bytes} {shape : Shape} {content : Bytes}
    {children : List ObjectTree} (root : MessageTree message (.object shape content children))
    (filled : shape ≠ .struct 0 0) (copied : copyFromMessage message 0 0 .default = .ok copy) :
    PointerBack schema .anyPointer
      (AnyPointerValue.message message).toValue (AnyPointerValue.message copy).toValue := by
  intro stack pointerWord words drawn done
  obtain ⟨found, known, done⟩ := Fallible.bind_eq_ok.1 done
  cases known
  obtain ⟨tree, sound⟩ := drawMessage_spec root filled done
  refine ⟨sound, iff_of_false (by rw [tree]; simp) ?_, 0, fun m _ => ?_⟩
  · rintro (nullish | ⟨-, null⟩)
    · cases nullish
    · cases null
  · obtain ⟨r, opened, copied⟩ := Fallible.bind_eq_ok.1 copied
    obtain ⟨r', opened', reads⟩ := root
    cases opened.symm.trans opened'
    have known := treeCopy_eq reads
    rw [copied] at known
    rw [tree]
    unfold treePointer
    rw [← known]
    rfl

theorem clear_fresh (words size structWord dataWordCount : ℕ) (bits : Set ℕ) :
    Clear (Sketch.fresh words size) structWord dataWordCount bits := by
  refine ⟨fun k _ => ?_, fun _ _ _ => rfl⟩
  show bitAt (List.replicate (8 * size) 0) _ = false
  unfold bitAt
  rw [List.getElem?_replicate]
  split_ifs <;> simp

theorem sound_tree {s : Sketch} {shape : Shape} (valid : shape.Valid)
    (sound : ∀ w, (s.slots w).Sound) :
    (s.tree shape).Sound := by
  rw [Sketch.tree, if_pos valid]
  apply ObjectTree.Sound.object valid
  intro t mem
  obtain ⟨w, -, rfl⟩ := List.mem_map.1 mem
  exact sound w

theorem pointerBack_struct (proper : schema.Proper) {get : ι} {record record' : Record}
    (back : StructBack schema get record record') :
    PointerBack schema (.struct get) (.object record) (.object record') := by
  intro stack pointerWord words drawn done
  obtain ⟨s, run, same⟩ := Fallible.bind_eq_ok.1 done
  cases same
  obtain ⟨sound, n, read⟩ := back stack 0 _ s (clear_fresh _ _ _ _ _)
    (Nat.zero_add _).le (fun _ => .null) run
  have valid : (Shape.struct (schema get).dataWordCount (schema get).pointerCount).Valid :=
    proper.wellFormed.sizes get
  have tree : s.tree (.struct (schema get).dataWordCount (schema get).pointerCount) =
      .object _ _ _ := if_pos valid
  refine ⟨sound_tree valid sound, ?_, n, fun m more => ?_⟩
  · rw [tree]
    exact iff_of_false (by simp) (DrawnNull.of_present rfl (by simp))
  · rw [tree]
    show Value.object <$> treeStruct schema m get (.whole _ _ _) = _
    rw [show (Shape.struct (schema get).dataWordCount (schema get).pointerCount).words =
      (schema get).dataWordCount + (schema get).pointerCount from rfl, Sketch.whole_eq_view,
      read m more s (redraws_drawStruct run).size (.refl _ _ _ _)]
    rfl

end Pointers

/-! ## Lists -/

section Lists

variable {element : TypeDescriptor ι} {values values' : List Value}

theorem mapM_eq_some {α β : Type} {f : α → Option β} {l : List α} {l' : List β}
    (same : l.length = l'.length) (each : ∀ (i : ℕ) a b, l[i]? = some a → l'[i]? = some b →
      f a = some b) : l.mapM f = some l' := by
  induction l generalizing l' with
  | nil =>
    cases l' with
    | nil => rfl
    | cons => cases same
  | cons a l ih =>
    cases l' with
    | nil => cases same
    | cons b l' =>
      rw [List.mapM_cons, each 0 a b rfl rfl, ih (Nat.succ.inj same) fun i => each (i + 1)]
      rfl

/-- An element of a list of scalars is written like a field. -/
theorem encodeDataElement_eq (scalar : isScalar element = true) (b : MessageBuilder) (i : ℕ)
    (value : Value) :
    encodeDataElement b 0 element i value = encodeDataField b 0 i element value 0 := by
  cases element with
  | enum => simp [encodeDataElement, encodeDataField, dataByteOffset]
  | primitive kind =>
    cases kind with
    | void => cases scalar
    | _ => simp [encodeDataElement, encodeDataField, dataByteOffset]
  | struct | list | text | data | interface | anyPointer => cases scalar

/-- Each scalar of a list keeps its bits. -/
theorem stored_elements (scalar : isScalar element = true)
    (exact : ∀ value ∈ values, Exact element value) {k : ℕ} {b b' : MessageBuilder}
    (done : (values.zipIdx k).foldlM (fun b item =>
      encodeDataElement b 0 element item.2 item.1) b = .ok b') :
    (∀ j < k * scalarBits element, bitAt b'.bytes j = bitAt b.bytes j) ∧
      ∀ (i : ℕ) value, values[i]? = some value → ∃ n < 2 ^ scalarBits element,
        valueOfBits element 0 n = value ∧
        ∀ j < scalarBits element, bitAt b'.bytes ((k + i) * scalarBits element + j) =
          n.testBit j := by
  induction values generalizing k b with
  | nil =>
    cases done
    exact ⟨fun _ _ => rfl, by simp⟩
  | cons value values ih =>
    rw [List.zipIdx_cons, List.foldlM_cons] at done
    obtain ⟨t, first, rest⟩ := Fallible.bind_eq_ok.1 done
    have first := (encodeDataElement_eq scalar b k value).symm.trans first
    obtain ⟨n, small, stored, same⟩ := stores_exact scalar (exact value List.mem_cons_self)
      (Nat.two_pow_pos _) first
    obtain ⟨below, later⟩ := ih (fun other mem => exact other (List.mem_cons_of_mem value mem)) rest
    have start : scalarStart 0 element k = k * scalarBits element := by rw [scalarStart]; omega
    have next : (k + 1) * scalarBits element = k * scalarBits element + scalarBits element := by
      ring
    refine ⟨fun j low => ?_, fun i value' known => ?_⟩
    · rw [below j (by omega), stored.outside j (by omega)]
    · cases i with
      | zero =>
        cases known
        refine ⟨n, small, same, fun j low => ?_⟩
        rw [Nat.add_zero, below _ (by omega), ← start, stored.inside j low]
      | succ i =>
        rw [show k + (i + 1) = k + 1 + i by ring]
        exact later i value' known

theorem treeListField_scalars {decodeStruct : ι → StructView → Option Record}
    {decodeElement : ObjectTree → Option Value} (scalar : isScalar element = true) {n : ℕ}
    (content : Bytes) (children : List ObjectTree) :
    treeListField decodeStruct decodeElement element
      (.object (.flat (listElementSize element) n) content children) =
      some ((List.range n).map fun i => scalarAt content i element 0) := by
  cases element with
  | enum => rfl
  | primitive kind =>
    cases kind with
    | void => cases scalar
    | _ => rfl
  | struct | list | text | data | interface | anyPointer => cases scalar

theorem elementBits_inside (scalar : isScalar element = true) {i n : ℕ} (low : i < n) :
    i * scalarBits element + scalarBits element ≤ 64 * flatWords (listElementSize element) n := by
  by_cases boolean : element = .primitive .bool
  · subst boolean
    show i * 1 + 1 ≤ 64 * ((n + 63) / 64)
    omega
  · obtain ⟨width, -, place⟩ := scalarBits_eq scalar boolean
    have inside := element_inside scalar boolean low
    rw [place i] at inside
    rw [width, show i * (8 * dataByteOffset element 1) = 8 * (i * dataByteOffset element 1) by ring]
    omega

theorem not_drawnNull_list : ¬ DrawnNull (.list element) (.array values) :=
  DrawnNull.of_present rfl (by simp)

theorem blank_nil (block : Bytes) : blank [] block = block := by
  apply List.ext_getElem?
  intro i
  simp [blank]

theorem tree_flat (s : Sketch) {elementSize count : ℕ} (size : elementSize < 7)
    (short : count < 2 ^ 29) :
    s.tree (flatShape elementSize count) =
      .object (.flat elementSize count)
        (blank (Shape.flat elementSize count).slots
          (slice s.block.bytes 0 (8 * flatWords elementSize count)))
        ((Shape.flat elementSize count).slots.map s.slots) := by
  rw [flatShape, Nat.mod_eq_of_lt short, Sketch.tree, if_pos ⟨size, short⟩]
  rfl

theorem drawPointerField_list (draw : Sketch → ι → ℕ → Value → Except Thrown Sketch)
    (pointerWord words : ℕ) :
    drawPointerField schema draw pointerWord words (.list element) (.array values) =
      drawListField schema draw (fun pointerWord words value =>
        drawPointerField schema draw pointerWord words element value)
        words element values := rfl

theorem pointerBack_scalars (data : isDataType element = true)
    (exact : ∀ value ∈ values, Exact element value) (short : values.length < 2 ^ 29) :
    PointerBack schema (.list element) (.array values) (.array values) := by
  intro stack pointerWord words drawn done
  by_cases void : element = .primitive .void
  · subst void
    cases done
    rw [show asArray (.array values) = values from rfl, tree_flat _ (by decide) short]
    refine ⟨.object ⟨by decide, short⟩ (by simp [Shape.slots]), iff_of_false
      (by simp) not_drawnNull_list, 0, fun m _ => ?_⟩
    show some (Value.array (List.replicate values.length .undefined)) = _
    rw [List.eq_replicate_of_mem exact, List.length_replicate]
  have scalar := isScalar_of_isDataType data void
  rw [drawPointerField_list] at done
  unfold drawListField at done
  split at done
  · exact absurd rfl void
  · cases data
  rw [if_neg (by rw [isPointerType, data]; decide)] at done
  obtain ⟨size, room, done⟩ := Fallible.bind_eq_ok.1 done
  obtain ⟨block, filled, same⟩ := Fallible.bind_eq_ok.1 done
  cases same
  have width := listElementSize_lt data
  have plain : (Shape.flat (listElementSize element) values.length).slots = [] := if_neg (by omega)
  rw [tree_flat _ (by omega) short]
  refine ⟨.object ⟨by omega, short⟩ (by rw [plain]; simp), iff_of_false
    (by simp) not_drawnNull_list, 0, fun m _ => ?_⟩
  show Value.array <$> treeListField _ _ _ _ = _
  rw [treeListField_scalars scalar]
  refine congrArg (fun l => some (Value.array l)) (List.ext_getElem? fun i => ?_)
  by_cases low : i < values.length
  · have known := List.getElem?_eq_getElem low
    obtain ⟨n, small, value, bits⟩ := (stored_elements scalar exact filled).2 i _ known
    rw [List.getElem?_map, List.getElem?_range low, known, Option.map_some, ← value]
    refine congrArg some (scalarAt_eq scalar 0 small fun j narrow => ?_)
    have inside := elementBits_inside scalar low
    rw [plain, blank_nil, bitAt_slice, decide_eq_true (by omega), Bool.true_and, ← bits j narrow,
      Nat.mul_zero, Nat.zero_add, Nat.zero_add]
    rfl
  · rw [List.getElem?_eq_none (by simpa using low), List.getElem?_eq_none (by omega)]

/-- The trees of a list of pointers are the ones drawn for its elements. -/
theorem slots_drawElements {drawElement : ℕ → ℕ → Value → Except Thrown (ObjectTree × ℕ)} {k : ℕ}
    {s s' : Sketch}
    (done : (values.zipIdx k).foldlM (fun s item =>
      s.put item.2 <$> drawElement (s.start + item.2) s.words item.1) s =
      .ok s') :
    (∀ w < k, s'.slots w = s.slots w) ∧ ∀ (i : ℕ) value, values[i]? = some value →
      ∃ pointerWord words drawn, drawElement pointerWord words value = .ok drawn ∧
      s'.slots (k + i) = drawn.1 := by
  induction values generalizing k s with
  | nil =>
    cases done
    exact ⟨fun _ _ => rfl, by simp⟩
  | cons value values ih =>
    rw [List.zipIdx_cons, List.foldlM_cons] at done
    obtain ⟨t, first, rest⟩ := Fallible.bind_eq_ok.1 done
    obtain ⟨drawn, drawing, rfl⟩ := Fallible.map_eq_ok.1 first
    obtain ⟨below, later⟩ := ih rest
    refine ⟨fun w low => ?_, fun i value' known => ?_⟩
    · rw [below w (by omega)]
      exact Sketch.put_slots_of_ne _ _ (by show w ≠ k; omega)
    · cases i with
      | zero =>
        cases known
        refine ⟨_, _, drawn, drawing, ?_⟩
        rw [Nat.add_zero, below k (by omega)]
        exact Sketch.put_slots_self _ _ _
      | succ i =>
        rw [show k + (i + 1) = k + 1 + i by ring]
        exact later i value' known

theorem drawListField_pointers (pointer : isPointerType element = true)
    (notStruct : ∀ get, element ≠ .struct get)
    (drawStruct : Sketch → ι → ℕ → Value → Except Thrown Sketch)
    (drawElement : ℕ → ℕ → Value → Except Thrown (ObjectTree × ℕ)) (words : ℕ) :
    drawListField schema drawStruct drawElement words element values = do
      let s ← values.zipIdx.foldlM (fun s item =>
          s.put item.2 <$> drawElement (s.start + item.2) s.words item.1)
        (Sketch.fresh words values.length)
      return (s.tree (flatShape 6 values.length), s.words) := by
  cases element with
  | struct get => exact absurd rfl (notStruct get)
  | primitive | enum => cases pointer
  | text | data | list | interface | anyPointer => rfl

theorem treeListField_pointers {decodeStruct : ι → StructView → Option Record}
    {decodeElement : ObjectTree → Option Value} (pointer : isPointerType element = true)
    (notStruct : ∀ get, element ≠ .struct get) (n : ℕ) (content : Bytes)
    (children : List ObjectTree) :
    treeListField decodeStruct decodeElement element (.object (.flat 6 n) content children) =
      children.mapM decodeElement := by
  cases element with
  | struct get => exact absurd rfl (notStruct get)
  | primitive | enum => cases pointer
  | text | data | list | interface | anyPointer => rfl

theorem pointerBack_pointers (pointer : isPointerType element = true)
    (notStruct : ∀ get, element ≠ .struct get) (short : values.length < 2 ^ 29)
    (same : values.length = values'.length)
    (each : ∀ (i : ℕ) value value', values[i]? = some value → values'[i]? = some value' →
      PointerBack schema element value value') :
    PointerBack schema (.list element) (.array values) (.array values') := by
  intro stack pointerWord words drawn done
  rw [drawPointerField_list, drawListField_pointers pointer notStruct] at done
  obtain ⟨s, run, found⟩ := Fallible.bind_eq_ok.1 done
  cases found
  have slots := (@slots_drawElements values
    (fun pointerWord words => drawPointerField schema (drawStruct schema stack) pointerWord words
      element) 0 _ _ run).2
  simp only [Nat.zero_add] at slots
  have back (i : ℕ) (value value' : Value) (known : values[i]? = some value)
      (known' : values'[i]? = some value') :
      (s.slots i).Sound ∧ ∃ n, ∀ m ≥ n, treePointer (treeDefault schema m)
      (treeStruct schema m) element (s.slots i) = some value' := by
    obtain ⟨pointerWord, words, drawn, drawing, slot⟩ := slots i value known
    rw [slot]
    obtain ⟨sound, -, read⟩ :=
      each i value value' known known' stack pointerWord words drawn drawing
    exact ⟨sound, read⟩
  rw [tree_flat _ (by decide) short]
  have children : (Shape.flat 6 values.length).slots = List.range values.length := rfl
  rw [children]
  refine ⟨.object ⟨by decide, short⟩ fun t mem => ?_, iff_of_false (by simp) not_drawnNull_list, ?_⟩
  · obtain ⟨i, low, rfl⟩ := List.mem_map.1 mem
    rw [List.mem_range] at low
    exact (back i _ _ (List.getElem?_eq_getElem low) (List.getElem?_eq_getElem (same ▸ low))).1
  · obtain ⟨n, read⟩ : ∃ n, ∀ m ≥ n, ∀ i ∈ List.range values.length, ∀ value', values'[i]? =
        some value' →
        treePointer (treeDefault schema m) (treeStruct schema m) element (s.slots i) =
        some value' := by
      apply exists_bound
      intro i mem
      rw [List.mem_range] at mem
      have known' := List.getElem?_eq_getElem (same ▸ mem)
      obtain ⟨-, n, read⟩ := back i _ _ (List.getElem?_eq_getElem mem) known'
      refine ⟨n, fun m more value' known => ?_⟩
      cases known'.symm.trans known
      exact read m more
    refine ⟨n, fun m more => ?_⟩
    show Value.array <$> treeListField _ _ _ _ = _
    rw [treeListField_pointers pointer notStruct,
      mapM_eq_some (by simpa using same) fun i t value' known known' => ?_]
    · rfl
    · rw [List.getElem?_map, Option.map_eq_some_iff] at known
      obtain ⟨j, place, rfl⟩ := known
      obtain ⟨low, rfl⟩ := List.getElem?_eq_some_iff.1 place
      rw [List.length_range] at low
      rw [List.getElem_range]
      exact read m more i (List.mem_range.2 low) value' known'

section StructLists

variable (proper : schema.Proper) {get : ι} {stack : ℕ}
include proper

/-- A struct drawn at one element of a list leaves the other elements as they are. -/
theorem agrees_element {i j : ℕ} (other : i ≠ j) {value : Value} {s s' : Sketch}
    (done : drawStruct schema stack s get
      (1 + j * ((schema get).dataWordCount + (schema get).pointerCount)) value =
      .ok s') :
    Agrees s s' (1 + i * ((schema get).dataWordCount + (schema get).pointerCount))
    (schema get).dataWordCount
      (structBits schema get) := by
  have inside := inside_of_wellFormed proper.wellFormed proper.inside get
  have apart : ∀ k ∈ structBits schema get, ∀ k' ∈ structBits schema get,
      1 + j * ((schema get).dataWordCount + (schema get).pointerCount) + k' / 64 ≠
        1 + i * ((schema get).dataWordCount + (schema get).pointerCount) + k / 64 := by
    intro k mem k' mem'
    have near := inside k mem
    have near' := inside k' mem'
    obtain before | after := lt_or_gt_of_ne other
    · have step := Nat.mul_le_mul_right ((schema get).dataWordCount + (schema get).pointerCount)
        (Nat.succ_le_of_lt before)
      rw [Nat.succ_mul] at step
      omega
    · have step := Nat.mul_le_mul_right ((schema get).dataWordCount + (schema get).pointerCount)
        (Nat.succ_le_of_lt after)
      rw [Nat.succ_mul] at step
      omega
  constructor
  · intro k mem
    apply outsideKept_drawStruct proper.voidsPlain done
    intro k' mem' place
    have := apart k mem k' mem'
    omega
  · intro k mem _
    exact (redraws_drawStruct done).slots _ fun k' mem' => apart k mem k' mem'

/-- The structs of a list are read back one by one. -/
theorem elements_back {records : List Record}
    (each : ∀ (i : ℕ) value record', values[i]? = some value → records[i]? = some record' →
      ∃ record, value = .object record ∧ StructBack schema get record record')
    (same : values.length = records.length) {k : ℕ} {s s' : Sketch}
    (clear : ∀ i, k ≤ i → i < k + values.length → Clear s
      (1 + i * ((schema get).dataWordCount + (schema get).pointerCount)) (schema get).dataWordCount
      (structBits schema get))
    (room : 1 + (k + values.length) * ((schema get).dataWordCount + (schema get).pointerCount) ≤
      s.block.words)
    (sound : ∀ w, (s.slots w).Sound)
    (done : (values.zipIdx k).foldlM (fun s item => drawStruct schema stack s get
      (1 + item.2 * ((schema get).dataWordCount + (schema get).pointerCount)) item.1) s = .ok s') :
    (∀ w, (s'.slots w).Sound) ∧ ∀ (i : ℕ) record', records[i]? = some record' →
      ∃ n, ∀ m ≥ n, ∀ s'' : Sketch, s''.block.words = s.block.words → Agrees s' s''
        (1 + (k + i) * ((schema get).dataWordCount + (schema get).pointerCount))
        (schema get).dataWordCount (structBits schema get) →
          treeStruct schema m get
            (s''.view (1 + (k + i) * ((schema get).dataWordCount + (schema get).pointerCount))
              (schema get)) = some record' := by
  induction values generalizing records k s with
  | nil =>
    cases done
    obtain rfl := List.length_eq_zero_iff.1 same.symm
    exact ⟨sound, by simp⟩
  | cons value values ih =>
    cases records with
    | nil => cases same
    | cons record' records =>
      rw [List.zipIdx_cons, List.foldlM_cons] at done
      obtain ⟨t, first, rest⟩ := Fallible.bind_eq_ok.1 done
      obtain ⟨record, rfl, back⟩ := each 0 value record' rfl rfl
      rw [List.length_cons] at room clear
      have here : 1 + k * ((schema get).dataWordCount + (schema get).pointerCount) +
          ((schema get).dataWordCount + (schema get).pointerCount) ≤ s.block.words := by
        have step := Nat.mul_le_mul_right ((schema get).dataWordCount + (schema get).pointerCount)
          (show k + 1 ≤ k + (values.length + 1) by omega)
        rw [Nat.succ_mul] at step
        omega
      obtain ⟨below, n, read⟩ := back stack _ s t (clear k le_rfl (by omega)) here sound first
      have size : t.block.words = s.block.words := (redraws_drawStruct first).size
      obtain ⟨sound', reads⟩ :=
        ih (fun i value record' known known' => each (i + 1) value record' known known')
        (Nat.succ.inj same)
        (fun i later high =>
          (clear i (by omega) (by omega)).kept (agrees_element proper (by omega) first))
        (by rw [size, show k + 1 + values.length = k + (values.length + 1) by ring]; exact room)
        below rest
      refine ⟨sound', fun i record'' known => ?_⟩
      cases i with
      | zero =>
        cases known
        -- the elements behind it leave its words alone
        have kept : Agrees t s' (1 + k * ((schema get).dataWordCount + (schema get).pointerCount))
            (schema get).dataWordCount (structBits schema get) := by
          apply Fallible.foldlM_keeps (fun u => Agrees t u
            (1 + k * ((schema get).dataWordCount + (schema get).pointerCount))
            (schema get).dataWordCount (structBits schema get)) (.refl _ _ _ _) rest
          intro u item mem u' sofar step
          have later := List.le_snd_of_mem_zipIdx mem
          exact sofar.trans (agrees_element proper (by omega) step)
        exact ⟨n, fun m more s'' same agrees => read m more s'' same (kept.trans agrees)⟩
      | succ i =>
        rw [show k + (i + 1) = k + 1 + i by ring]
        obtain ⟨n', read'⟩ := reads i record'' known
        exact ⟨n', fun m more s'' same => read' m more s'' (same.trans size.symm)⟩

omit proper in
theorem structListShape_eq {dw pc n : ℕ} (small : dw < 2 ^ 16) (few : pc < 2 ^ 16)
    (short : n < 2 ^ 29) (room : (dw + pc) * n < 2 ^ 29) :
    structListShape dw pc n = .inlineComposite ((dw + pc) * n) n dw pc := by
  have tag : listTag dw pc n = n * 4 + dw * 2 ^ 32 + pc * 2 ^ 48 := by
    rw [listTag, Nat.shiftLeft_eq n, BitField.or_shiftLeft
      (show n * 2 ^ 2 < 2 ^ 32 by omega), BitField.or_shiftLeft (by omega)]
    omega
  unfold structListShape
  dsimp only
  rw [tag, Nat.mod_eq_of_lt room, show (n * 4 + dw * 2 ^ 32 + pc * 2 ^ 48) / 4 % 2 ^ 30 =
    n by omega, show (n * 4 + dw * 2 ^ 32 + pc * 2 ^ 48) / 2 ^ 32 % 2 ^ 16 = dw by omega,
    show (n * 4 + dw * 2 ^ 32 + pc * 2 ^ 48) / 2 ^ 48 % 2 ^ 16 = pc by omega]

theorem clear_of_blank {s : Sketch} {structWord : ℕ}
    (blank : s.Blank structWord ((schema get).dataWordCount + (schema get).pointerCount)) :
    Clear s structWord (schema get).dataWordCount (structBits schema get) := by
  have inside := inside_of_wellFormed proper.wellFormed proper.inside get
  constructor
  · intro k mem
    have low := inside k mem
    unfold bitAt
    rw [blank.bytes _ (by omega) (by omega)]
    simp
  · intro k mem _
    have low := inside k mem
    exact blank.slots _ (by omega) (by omega)

theorem pointerBack_structs {records : List Record}
    (each : ∀ (i : ℕ) value record', values[i]? = some value → records[i]? = some record' →
      ∃ record, value = .object record ∧ StructBack schema get record record')
    (same : values.length = records.length) (short : values.length < 2 ^ 29)
    (room : ((schema get).dataWordCount + (schema get).pointerCount) * values.length < 2 ^ 29) :
    PointerBack schema (.list (.struct get)) (.array values) (.array (records.map .object)) := by
  intro stack pointerWord words drawn done
  obtain ⟨block, tag, done⟩ := Fallible.bind_eq_ok.1 done
  obtain ⟨s, run, found⟩ := Fallible.bind_eq_ok.1 done
  cases found
  have tag : (Sketch.fresh words (1 + ((schema get).dataWordCount + (schema get).pointerCount) *
    values.length)).block.writeWord 0 _ = .ok block := tag
  obtain ⟨sound, reads⟩ := elements_back proper each same
    (fun i _ low => clear_of_blank proper (blank_elements tag (by omega)))
    (by
      rw [Nat.zero_add, Nat.mul_comm]
      exact (MessageBuilder.writeWord_eq_ok.1 tag).words.ge)
    (fun _ => .null) run
  simp only [Nat.zero_add] at reads
  have size : s.block.words = 1 + ((schema get).dataWordCount + (schema get).pointerCount) *
      values.length := by
    have redraws := @redraws_elements ι schema (drawStruct schema stack) values
      (fun _ _ _ _ _ => redraws_drawStruct) get 0 _ s run
    exact redraws.size.trans (MessageBuilder.writeWord_eq_ok.1 tag).words
  obtain ⟨small, few⟩ := proper.wellFormed.sizes get
  have count : (asArray (.array values)).length = values.length := rfl
  have valid :
      (Shape.inlineComposite (((schema get).dataWordCount + (schema get).pointerCount) *
        values.length)
      values.length (schema get).dataWordCount (schema get).pointerCount).Valid :=
    ⟨room, by omega, small, few, le_rfl⟩
  rw [count, structListShape_eq small few short room]
  refine ⟨sound_tree valid sound, ?_, ?_⟩
  · rw [Sketch.tree, if_pos valid]
    exact iff_of_false (by simp) not_drawnNull_list
  obtain ⟨n, read⟩ : ∃ n, ∀ m ≥ n, ∀ i ∈ List.range values.length, ∀ record', records[i]? =
      some record' →
      treeStruct schema m get
        (s.view (1 + i * ((schema get).dataWordCount + (schema get).pointerCount)) (schema get)) =
        some record' := by
    apply exists_bound
    intro i mem
    rw [List.mem_range] at mem
    have known' := List.getElem?_eq_getElem (same ▸ mem)
    obtain ⟨n, read⟩ := reads i _ known'
    refine ⟨n, fun m more record' known => ?_⟩
    cases known'.symm.trans known
    exact read m more s (size.trans (MessageBuilder.writeWord_eq_ok.1 tag).words.symm)
      (.refl _ _ _ _)
  refine ⟨n, fun m more => ?_⟩
  rw [Sketch.tree, if_pos valid]
  show Value.array <$> (List.range values.length).mapM (fun i =>
    Value.object <$> treeStruct schema m get (.element _ _ _ _ i)) = _
  rw [@mapM_eq_some _ _ _ _ (records.map .object)
    (by simpa using same) fun i j value known known' => ?_]
  · rfl
  · obtain ⟨low, rfl⟩ := List.getElem?_eq_some_iff.1 known
    rw [List.length_range] at low
    rw [List.getElem?_map, Option.map_eq_some_iff] at known'
    obtain ⟨record', known', rfl⟩ := known'
    rw [List.getElem_range]
    refine (congrArg (fun view => Value.object <$> treeStruct schema m get view)
      (Sketch.element_eq_view s low)).trans ?_
    rw [read m more i (List.mem_range.2 low) record' known']
    rfl

end StructLists

end Lists

/-! ## Values -/

theorem Returns.struct_forms {get : ι} {value value' : Value}
    (h : Returns schema (.struct get) value value') :
    ∃ record record', value = .object record ∧ value' = .object record' := by
  cases h with
  | struct => exact ⟨_, _, rfl, rfl⟩

/-- What a value is drawn as is read as what it comes back as. -/
theorem Returns.back (proper : schema.Proper) {type : TypeDescriptor ι} {value value' : Value}
    (h : Returns schema type value value') :
    (∀ get record record', type = .struct get → value = .object record → value' = .object record' →
      StructBack schema get record record') ∧ PointerBack schema type value value' := by
  induction h with
  | text s short => exact ⟨by simp, pointerBack_text short⟩
  | data bs short => exact ⟨by simp, pointerBack_data short⟩
  | null => exact ⟨by simp, pointerBack_null⟩
  | interface index small => exact ⟨by simp, pointerBack_interface small⟩
  | anyNull => exact ⟨by simp, pointerBack_anyNull⟩
  | anyInterface index small => exact ⟨by simp, pointerBack_anyInterface small⟩
  | anyMessage root filled copied =>
    exact ⟨by simp, pointerBack_anyMessage root filled copied⟩
  | scalars data exact short => exact ⟨by simp, pointerBack_scalars data exact short⟩
  | @list element values values' pointer short room same each ih =>
    refine ⟨by simp, ?_⟩
    by_cases structs : ∃ get, element = .struct get
    · obtain ⟨get, rfl⟩ := structs
      have forms : values' = (values'.map asRecord).map Value.object := by
        apply List.ext_getElem (by simp)
        intro i low low'
        have low'' : i < values.length := same ▸ low
        obtain ⟨-, record', -, form⟩ :=
          (each i _ _ (List.getElem?_eq_getElem low'') (List.getElem?_eq_getElem low)).struct_forms
        simp [form, asRecord]
      rw [forms]
      apply pointerBack_structs proper _ (by simpa using same) short (room get rfl)
      intro i value record' known known'
      rw [List.getElem?_map, Option.map_eq_some_iff] at known'
      obtain ⟨value', known', rfl⟩ := known'
      obtain ⟨record, record', rfl, rfl⟩ := (each i value value' known known').struct_forms
      exact ⟨record, rfl, (ih i _ _ known known').1 get record record' rfl rfl rfl⟩
    · exact pointerBack_pointers pointer (fun get same => structs ⟨get, same⟩) short same fun i
        value value' known known' =>
        (ih i value value' known known').2
  | @struct get record out results made tag scalar null pointer grouped group ihPointer ihGroup =>
    have back : StructBack schema get record
        (filledRecord (schema get) out (resolveActiveDiscriminant (schema get) record)
          results) := by
      apply structBack proper made tag
      intro structWord stack field mem active
      cases field with
      | group name get' d =>
        cases known : results (.group name get' d) with
        | none => exact absurd known (grouped name get' d mem)
        | some value' =>
          obtain ⟨-, record', -, rfl⟩ := (group name get' d value' mem active known).struct_forms
          exact fieldBack_group proper mem
            ((ihGroup name get' d _ mem active known).1 get' _ record' rfl rfl rfl)
      | slot name offset type mask d =>
        by_cases data : isDataType type = true
        · exact fieldBack_scalar proper mem data (scalar name offset type mask d mem active data)
        · have notData : isDataType type = false := Bool.eq_false_iff.2 data
          apply fieldBack_pointer proper mem notData
            (null name offset type mask d mem active notData)
          exact fun value' known =>
            (ihPointer name offset type mask d value' mem active notData known).2
    refine ⟨fun _ _ _ same same' same'' => ?_, pointerBack_struct proper back⟩
    cases same
    cases same'
    cases same''
    exact back

/-! ## Messages -/

/-- The message of a drawn tree shows it. -/
theorem messageShows_encodeStructMessage (wf : schema.WellFormed) (inside : schema.DataInside)
    {stack : ℕ} {get : ι} {value : Value} {bytes : Bytes}
    (done : encodeStructMessage schema stack get value = .ok bytes) :
    ∃ t, drawStructMessage schema stack get value = .ok t ∧ (t.Sound → MessageShows bytes t) := by
  obtain ⟨b₁, pointed, done⟩ := Fallible.bind_eq_ok.1 done
  obtain ⟨b₂, encoded, done⟩ := Fallible.bind_eq_ok.1 done
  have followed : Followed schema (encodeStructAt schema stack) (drawStruct schema stack) :=
    ⟨fun _ _ _ _ _ => grows_encodeStructAt, fun _ _ _ _ _ => redraws_drawStruct,
      fun _ _ _ _ _ _ _ _ h room done => follows_encodeStructAt wf inside h room done⟩
  obtain ⟨s, drawn, root⟩ :=
    encoded_struct followed wf.sizes (show 0 < MessageBuilder.new.words by decide) pointed encoded
  obtain ⟨short, rfl⟩ := MessageBuilder.toMessageBytes_eq_ok.1 done
  have some : 1 ≤ b₂.words := by
    have pointed' := (grows_setStructPointer pointed).words
    have encoded' := (grows_encodeStructAt encoded).words
    exact ((Nat.le_add_right 1 _).trans pointed').trans encoded'
  refine ⟨_, Fallible.bind_eq_ok.2 ⟨s, drawn, rfl⟩, fun sound => ?_⟩
  exact ⟨_, ofBytes_single b₂.size (MessageBuilder.words_lt_of_fits short),
    (root.placed.laid sound).shows some b₂.size.ge⟩

/-- **What is encoded is decoded.**  A record of which a message can be made comes back from that
message with its absent fields filled in, provided that the decoder is given the stack that it
needs. -/
theorem decode_encode (proper : schema.Proper) {stack : ℕ} {get : ι} {record record' : Record}
    {bytes : Bytes} (returns : Returns schema (.struct get) (.object record) (.object record'))
    (done : encodeStructMessage schema stack get (.object record) = .ok bytes) :
    ∃ n, ∀ stack' ≥ n, decodeStructMessage schema stack' get bytes = .ok record' := by
  obtain ⟨t, drawing, shows⟩ :=
    messageShows_encodeStructMessage proper.wellFormed proper.inside done
  obtain ⟨s, run, found⟩ := Fallible.bind_eq_ok.1 drawing
  cases found
  obtain ⟨sound, n, read⟩ := (returns.back proper).1 get record record' rfl rfl rfl stack 0 _ s
    (clear_fresh _ _ _ _ _) (Nat.zero_add _).le (fun _ => .null) run
  have valid : (Shape.struct (schema get).dataWordCount (schema get).pointerCount).Valid :=
    proper.wellFormed.sizes get
  refine ⟨n, fun m more => ?_⟩
  rw [← Fallible.toOption_eq_some, decodeStructMessage_toOption proper.voidsPlain
    (shows (sound_tree valid sound)), Sketch.tree, if_pos valid]
  show treeStruct schema m get (.whole _ _ _) = _
  rw [show (Shape.struct (schema get).dataWordCount (schema get).pointerCount).words =
    (schema get).dataWordCount + (schema get).pointerCount from rfl, Sketch.whole_eq_view]
  exact read m more s (redraws_drawStruct run).size (.refl _ _ _ _)

/-! ## Items -/

def itemDefault : Record := [("size", .bigint 10), ("digest", .bytes []), ("parts", .array [])]

/-- An item has a size, which is ten by default, a digest and parts. -/
def itemSchema : Schema Unit := fun _ =>
  ⟨1, 2, [.slot "size" 0 (.primitive .uint64) 10 none, .slot "digest" 0 .data 0 none,
      .slot "parts" 1 (.list (.struct ())) 0 none], .const itemDefault, none⟩

theorem itemSchema_mem {get : Unit} {field : FieldDescriptor Unit}
    (mem : field ∈ (itemSchema get).fields) :
    field = .slot "size" 0 (.primitive .uint64) 10 none ∨ field = .slot "digest" 0 .data 0 none ∨
      field = .slot "parts" 1 (.list (.struct ())) 0 none := by
  simpa [itemSchema] using mem

theorem itemSchema_bits {get : Unit} {field : FieldDescriptor Unit} {k : ℕ}
    (mem : field ∈ (itemSchema get).fields) (bit : Occupies itemSchema get field k) :
    field = .slot "size" 0 (.primitive .uint64) 10 none ∧ k < 64 ∨
      field = .slot "digest" 0 .data 0 none ∧ 64 ≤ k ∧ k < 128 ∨
        field = .slot "parts" 1 (.list (.struct ())) 0 none ∧ 128 ≤ k ∧ k < 192 := by
  obtain rfl | rfl | rfl := itemSchema_mem mem
  · cases bit with
    | slot bit => exact .inl ⟨rfl, bit.2⟩
  · cases bit with
    | slot bit => exact .inr (.inl ⟨rfl, bit.1, bit.2⟩)
  · cases bit with
    | slot bit => exact .inr (.inr ⟨rfl, bit.1, bit.2⟩)

theorem itemSchema_proper : itemSchema.Proper where
  wellFormed := {
    names := fun get => by cases get; decide
    sizes := fun get => by cases get; decide
    pointers := fun get name offset type mask d mem pointer => by
      obtain same | same | same := itemSchema_mem mem <;> cases same
      · cases pointer
      · exact Nat.zero_lt_two
      · exact Nat.one_lt_two
    groups := fun get name get' d mem => by
      obtain same | same | same := itemSchema_mem mem <;> cases same
    apart := fun get field mem other mem' different _ k bit bit' => by
      obtain ⟨rfl, here⟩ | ⟨rfl, here⟩ | ⟨rfl, here⟩ := itemSchema_bits mem bit <;>
        obtain ⟨rfl, there⟩ | ⟨rfl, there⟩ | ⟨rfl, there⟩ := itemSchema_bits mem' bit' <;>
        first | exact different rfl | omega
    tagged := fun get field mem k bit => bit.elim
    unions := fun get union present => by cases present
    members := fun get field mem d value => by
      obtain rfl | rfl | rfl := itemSchema_mem mem <;> cases value }
  inside get name offset type mask d mem scalar k bit := by
    obtain same | same | same := itemSchema_mem mem <;> cases same
    · exact bit.2
    · cases scalar
    · cases scalar
  voids get name offset mask d mem := by
    obtain same | same | same := itemSchema_mem mem <;> cases same
  masks get name offset type mask d mem scalar := by
    obtain same | same | same := itemSchema_mem mem <;> cases same
    · decide
    · cases scalar
    · cases scalar
  first get union present := by cases present

/-- What an item comes back as. -/
theorem item_returns {record : Record} {size digest parts : Option Value}
    (number : ScalarReturns (.primitive .uint64 : TypeDescriptor Unit) 10
      (getProp record "size") size)
    (unsigned : digest = none ↔ DrawnNull (.data : TypeDescriptor Unit) (getProp record "digest"))
    (signed : ∀ value, digest = some value →
      Returns itemSchema .data (getProp record "digest") value)
    (whole : parts = none ↔ DrawnNull (.list (.struct ())) (getProp record "parts"))
    (parted : ∀ value, parts = some value → Returns itemSchema (.list (.struct ()))
      (getProp record "parts") value) :
    Returns itemSchema (.struct ()) (.object record) (.object
      (assign (assign (assign itemDefault "size" size) "digest" digest) "parts" parts)) := by
  have returns := @Returns.struct _ itemSchema () record itemDefault
    (fun field => if field.name = "size" then size else if field.name = "digest" then digest
      else parts)
  refine returns ⟨1, rfl⟩ (fun d active => by cases active) ?_ ?_ ?_ ?_ ?_
  · intro name offset type mask d mem _ data
    obtain same | same | same := itemSchema_mem mem <;> cases same
    · exact number
    · cases data
    · cases data
  · intro name offset type mask d mem _ pointer
    obtain same | same | same := itemSchema_mem mem <;> cases same
    · cases pointer
    · exact unsigned
    · exact whole
  · intro name offset type mask d value mem _ pointer known
    obtain same | same | same := itemSchema_mem mem <;> cases same
    · cases pointer
    · exact signed value known
    · exact parted value known
  · intro name get' d mem
    obtain same | same | same := itemSchema_mem mem <;> cases same
  · intro name get' d value mem
    obtain same | same | same := itemSchema_mem mem <;> cases same

/-- An item with a part of which nothing is known. -/
theorem decode_encode_item : ∃ bytes,
    encodeStructMessage itemSchema 3 ()
    (.object [("parts", .array [.object []]), ("digest", .bytes [1, 2, 3]),
      ("size", .bigint 7)]) = .ok bytes ∧
    ∃ n, ∀ stack ≥ n, decodeStructMessage itemSchema stack () bytes =
      .ok [("size", .bigint 7), ("digest", .bytes [1, 2, 3]),
      ("parts",
        .array [.object [("size", .bigint 10), ("digest", .bytes []), ("parts", .array [])]])] := by
  have encoded : (encodeStructMessage itemSchema 3 ()
      (.object [("parts", .array [.object []]), ("digest", .bytes [1, 2, 3]),
    ("size", .bigint 7)])).toOption.isSome = true := by decide
  obtain ⟨bytes, done⟩ := Option.isSome_iff_exists.1 encoded
  rw [Fallible.toOption_eq_some] at done
  have part : Returns itemSchema (.struct ()) (.object [])
      (.object [("size", .bigint 10), ("digest", .bytes []), ("parts", .array [])]) :=
    @item_returns [] (some (.bigint 10)) none none (.inl ⟨rfl, rfl⟩) (iff_of_true rfl (.inl rfl))
    (by simp)
      (iff_of_true rfl (.inl rfl)) (by simp)
  have parts : Returns itemSchema (.list (.struct ())) (.array [.object []])
      (.array [.object [("size", .bigint 10), ("digest", .bytes []), ("parts", .array [])]]) := by
    refine @Returns.list _ itemSchema (.struct ()) _ [.object _] rfl
      (by decide) (fun get _ => by cases get; decide) rfl ?_
    intro i value value' known known'
    cases i with
    | zero =>
      cases known
      cases known'
      exact part
    | succ i => cases known
  refine ⟨bytes, done, decode_encode itemSchema_proper ?_ done⟩
  refine @item_returns _ (some (.bigint 7)) (some (.bytes [1, 2, 3])) (some _)
    (.inr ⟨show Value.bigint 7 ≠ .undefined by simp, ⟨trivial, rfl⟩, rfl⟩)
    (iff_of_false (by simp) (DrawnNull.of_present rfl (by simp))) ?_
    (iff_of_false (by simp) (DrawnNull.of_present rfl (by simp))) ?_
  · intro value known
    cases known
    exact .data [1, 2, 3] (by decide)
  · intro value known
    cases known
    exact parts

end CapnpDeno
