import CapnpDeno.Encoding.EncodedTrees

/-!
# Drawings side by side

Two walks that draw the same but for the indices of capabilities.  The objects may lie at other
places of the segment; what has to agree is whether an object is the last one so far (`Twin`), on
which the copy of an empty struct depends.
-/

namespace CapnpDeno

open ByteList

variable {ι : Type} {schema : Schema ι}

/-! ## Similar trees -/

namespace ObjectTree

/-- The same tree, but for the indices in capability pointers. -/
inductive Similar : ObjectTree → ObjectTree → Prop
  | null : Similar .null .null
  | capability {word word' : ℕ} (low : word % 2 ^ 32 = word' % 2 ^ 32) :
      Similar (.capability word) (.capability word')
  | object (shape : Shape) (content : Bytes) {children children' : List ObjectTree}
      (arity : children.length = children'.length)
      (child : ∀ (i : ℕ) (t t' : ObjectTree), children[i]? = some t → children'[i]? = some t' →
        Similar t t') :
      Similar (.object shape content children) (.object shape content children')

theorem Similar.refl : (t : ObjectTree) → t.Similar t
  | .null => .null
  | .capability _ => .capability rfl
  | .object shape content children => by
    apply Similar.object shape content rfl
    intro i t t' known known'
    obtain rfl : t = t' := Option.some.inj (known.symm.trans known')
    have smaller := List.sizeOf_lt_of_mem (List.mem_of_getElem? known)
    exact Similar.refl t
termination_by t => sizeOf t
decreasing_by
  simp only [ObjectTree.object.sizeOf_spec]
  omega

theorem Similar.sound {t t' : ObjectTree} (h : t.Similar t') (sound : t.Sound) : t'.Sound := by
  induction h with
  | null => exact .null
  | capability low => exact .capability _
  | object shape content arity child ih =>
    cases sound with
    | object valid below =>
      apply Sound.object valid
      intro t' mem
      obtain ⟨i, low, rfl⟩ := List.mem_iff_getElem.1 mem
      have known := List.getElem?_eq_getElem (arity ▸ low)
      exact ih i _ _ known (List.getElem?_eq_getElem low) (below _ (List.mem_of_getElem? known))

end ObjectTree

/-- Objects of one shape are similar when their bytes outside the pointers are the same and their
pointers' trees similar. -/
theorem Sketch.tree_similar {s s' : Sketch} {shape : Shape} (size : s'.block.words = s.block.words)
    (plain : shape.Valid → ∀ i < 8 * shape.words, i / 8 ∉ shape.slots → s'.block.bytes[i]? =
      s.block.bytes[i]?)
    (slots : shape.Valid → ∀ w ∈ shape.slots, (s.slots w).Similar (s'.slots w)) :
    (s.tree shape).Similar (s'.tree shape) := by
  unfold Sketch.tree
  split_ifs with valid
  · have same : blank shape.slots (slice s.block.bytes 0 (8 * shape.words)) =
        blank shape.slots (slice s'.block.bytes 0 (8 * shape.words)) := by
      apply blank_congr
      · simp only [slice, List.drop_zero, List.length_take, s.block.size, s'.block.size, size]
      intro i outside
      rw [getElem?_slice, getElem?_slice]
      split_ifs with low
      · rw [Nat.zero_add]
        exact (plain valid i low outside).symm
      · rfl
    rw [same]
    apply ObjectTree.Similar.object
    · simp only [List.length_map]
    intro i t t' known known'
    rw [List.getElem?_map, Option.map_eq_some_iff] at known known'
    obtain ⟨w, slot, rfl⟩ := known
    obtain ⟨w', slot', rfl⟩ := known'
    cases slot.symm.trans slot'
    exact slots valid w (List.mem_of_getElem? slot)
  · exact .refl _

/-! ## Sketches side by side -/

/-- Two pointers that are both, or neither, in the last word of their segment. -/
structure Level (pointerWord words pointerWord' words' : ℕ) : Prop where
  below : pointerWord < words
  below' : pointerWord' < words'
  last : pointerWord + 1 = words ↔ pointerWord' + 1 = words'

/-- Two pointers were drawn alike: similar trees, and both segments grew or neither did. -/
structure Alike (words words' : ℕ) (drawn drawn' : ObjectTree × ℕ) : Prop where
  similar : drawn.1.Similar drawn'.1
  more : words ≤ drawn.2
  more' : words' ≤ drawn'.2
  idle : drawn.2 = words ↔ drawn'.2 = words'

/-- Two drawings of one object: the same bytes, similar trees, and both are the last object so far
or neither is. -/
structure Twin (s s' : Sketch) : Prop where
  block : s'.block = s.block
  slots : ∀ w, (s.slots w).Similar (s'.slots w)
  room : s.start + s.block.words ≤ s.words
  room' : s'.start + s.block.words ≤ s'.words
  last : s.start + s.block.words = s.words ↔ s'.start + s.block.words = s'.words

namespace Twin

variable {s s' : Sketch}

theorem fresh (words words' size : ℕ) : Twin (Sketch.fresh words size) (Sketch.fresh words' size) :=
  ⟨rfl, fun _ => .null, le_rfl, le_rfl, fun _ => rfl, fun _ => rfl⟩

theorem level (h : Twin s s') {w : ℕ} (low : w < s.block.words) :
    Level (s.start + w) s.words (s'.start + w) s'.words := by
  have room := h.room
  have room' := h.room'
  have last := h.last
  constructor <;> omega

theorem put (h : Twin s s') {w : ℕ} {drawn drawn' : ObjectTree × ℕ}
    (alike : Alike s.words s'.words drawn drawn') :
    Twin (s.put w drawn) (s'.put w drawn') := by
  have room := h.room
  have room' := h.room'
  have last := h.last
  have more := alike.more
  have more' := alike.more'
  have idle := alike.idle
  refine ⟨h.block, fun w' => ?_, room.trans more, room'.trans more', ?_⟩
  · by_cases same : w' = w
    · subst same
      rw [Sketch.put_slots_self, Sketch.put_slots_self]
      exact alike.similar
    · rw [s.put_slots_of_ne drawn same, s'.put_slots_of_ne drawn' same]
      exact h.slots w'
  · show s.start + s.block.words = drawn.2 ↔ s'.start + s.block.words = drawn'.2
    omega

theorem write (h : Twin s s') {block : MessageBuilder} (size : block.words = s.block.words) :
    Twin (s.write block) (s'.write block) := by
  refine ⟨rfl, h.slots, ?_, ?_, ?_⟩
  · exact size.symm ▸ h.room
  · exact size.symm ▸ h.room'
  · show s.start + block.words = s.words ↔ s'.start + block.words = s'.words
    rw [size]
    exact h.last

theorem tree (h : Twin s s') (shape : Shape) : (s.tree shape).Similar (s'.tree shape) := by
  apply Sketch.tree_similar
  · rw [h.block]
  · intro _ i _ _
    rw [h.block]
  · exact fun _ w _ => h.slots w

/-- An object that was drawn side by side. -/
theorem alike (h : Twin s s') (shape : Shape) :
    Alike s.start s'.start (s.tree shape, s.words) (s'.tree shape, s'.words) := by
  have room := h.room
  have room' := h.room'
  have last := h.last
  refine ⟨h.tree shape, ?_, ?_, ?_⟩
  · exact (Nat.le_add_right _ _).trans room
  · exact (Nat.le_add_right _ _).trans room'
  · show s.words = s.start ↔ s'.words = s'.start
    omega

end Twin

/-! ## Blank words -/

namespace Sketch

/-- Words of an object in which nothing was drawn yet. -/
structure Blank (s : Sketch) (first count : ℕ) : Prop where
  bytes : ∀ i, 8 * first ≤ i → i < 8 * (first + count) → s.block.bytes[i]? = some 0
  slots : ∀ w, first ≤ w → w < first + count → s.slots w = .null

theorem blank_fresh (words : ℕ) {size first count : ℕ} (inside : first + count ≤ size) :
    (fresh words size).Blank first count := by
  refine ⟨fun i _ high => ?_, fun _ _ _ => rfl⟩
  show (List.replicate (8 * size) 0)[i]? = some 0
  rw [List.getElem?_replicate, if_pos (by omega)]

theorem Blank.kept {s s' : Sketch} {first count structWord : ℕ} {bits : Set ℕ}
    (h : s.Blank first count) (redraws : Redraws s s' structWord bits)
    (apart : ∀ k ∈ bits, structWord + k / 64 < first ∨ first + count ≤ structWord + k / 64) :
    s'.Blank first count := by
  refine ⟨fun i low high => ?_, fun w low high => ?_⟩
  · rw [redraws.getElem? fun touched => ?_, h.bytes i low high]
    obtain ⟨k, mem, place⟩ := touched
    have := apart k mem
    omega
  · rw [redraws.slots w fun k mem place => ?_, h.slots w low high]
    have := apart k mem
    omega

end Sketch

/-! ## Pointers side by side -/

/-- A walk over pairs of structs that draws them side by side. -/
structure DrawsTwins (schema : Schema ι) (draw : Sketch → ι → ℕ → Value → Except Thrown Sketch)
    (Pair : ι → Value → Value → Prop) : Prop where
  redraws : ∀ s get structWord value s', draw s get structWord value = .ok s' →
    Redraws s s' structWord (structBits schema get)
  twins : ∀ get value value' structWord s s' s₁ s₁', Pair get value value' → Twin s s' →
    s.Blank structWord ((schema get).dataWordCount + (schema get).pointerCount) →
      draw s get structWord value = .ok s₁ → draw s' get structWord value' = .ok s₁' → Twin s₁ s₁'
  same : ∀ get value, Pair get value value

/-- A type at which two values are drawn alike. -/
def DrawnAlike (schema : Schema ι) (draw : Sketch → ι → ℕ → Value → Except Thrown Sketch)
    (type : TypeDescriptor ι) (value value' : Value) : Prop :=
  ∀ pointerWord words pointerWord' words' drawn drawn',
    Level pointerWord words pointerWord' words' →
    drawPointerField schema draw pointerWord words type value = .ok drawn →
      drawPointerField schema draw pointerWord' words' type value' = .ok drawn' →
      Alike words words' drawn drawn'

theorem alike_of_same_words (t : ObjectTree) (words words' more : ℕ) :
    Alike words words' (t, words + more) (t, words' + more) :=
  ⟨.refl t, Nat.le_add_right _ _, Nat.le_add_right _ _, by
    show words + more = words ↔ words' + more = words'; omega⟩

theorem alike_bytes {words words' : ℕ} {value : Bytes} {context : String}
    {drawn drawn' : ObjectTree × ℕ} (done : drawBytes words value context = .ok drawn)
    (done' : drawBytes words' value context = .ok drawn') :
    Alike words words' drawn drawn' := by
  obtain ⟨block, written, same⟩ := Fallible.bind_eq_ok.1 done
  obtain ⟨block', written', same'⟩ := Fallible.bind_eq_ok.1 done'
  cases written.symm.trans written'
  cases same
  cases same'
  exact alike_of_same_words _ words words' _

theorem alike_capability {words words' index index' : ℕ} {drawn drawn' : ObjectTree × ℕ}
    (done : drawCapability words index = .ok drawn)
    (done' : drawCapability words' index' = .ok drawn') :
    Alike words words' drawn drawn' := by
  have low {index word : ℕ} (encoded : encodeCapabilityPointerWord index = .ok word) :
      word % 2 ^ 32 = 3 := by
    unfold encodeCapabilityPointerWord at encoded
    split_ifs at encoded
    cases encoded
    rw [BitField.or_shiftLeft (show 0x3 < 2 ^ 32 by decide)]
    omega
  obtain ⟨word, encoded, rfl⟩ := Fallible.map_eq_ok.1 done
  obtain ⟨word', encoded', rfl⟩ := Fallible.map_eq_ok.1 done'
  exact ⟨.capability ((low encoded).trans (low encoded').symm), le_rfl, le_rfl, fun _ =>
    rfl, fun _ => rfl⟩

/-- Of the pointers to objects, only one to an empty struct behind it is null. -/
theorem pointerWord_eq_zero {shape : Shape} {offset : ℤ} (fits : OffsetFits offset) :
    shape.pointerWord offset = 0 ↔ shape = .struct 0 0 ∧ offset = 0 := by
  obtain ⟨low, high⟩ := fits
  cases shape with
  | struct dw pc =>
    show structWord offset dw pc = 0 ↔ _
    rw [Shape.struct.injEq, structWord, offsetField]
    omega
  | flat es n =>
    show listWord offset es n = 0 ↔ _
    rw [listWord]
    constructor
    · omega
    · rintro ⟨impossible, -⟩
      cases impossible
  | inlineComposite w n dw pc =>
    show listWord offset 7 w = 0 ↔ _
    rw [listWord]
    constructor
    · omega
    · rintro ⟨impossible, -⟩
      cases impossible

/-- Where a copied pointer becomes null, it does so in the last word of the segment. -/
theorem rebased_level {m : Bytes} {hi pointerWord words pointerWord' words' word word' : ℕ}
    {t : ObjectTree} (laid : Laid m 1 hi 0 t) (present : readLE m 0 8 ≠ 0)
    (level : Level pointerWord words pointerWord' words')
    (rebased : rebaseCopiedAnyPointerRootPointer (readLE m 0 8) words pointerWord = .ok word)
    (rebased' : rebaseCopiedAnyPointerRootPointer (readLE m 0 8) words' pointerWord' = .ok word') :
    word = 0 ↔ word' = 0 := by
  have below := level.below
  have below' := level.below'
  have last := level.last
  cases laid with
  | null null => exact absurd null present
  | @capability _ w source kind =>
    have kind : readLE m 0 8 % 4 = 3 := source ▸ kind
    rw [rebase_capability kind rebased, rebase_capability kind rebased']
  | @object _ start shape children valid offset fits source target present' =>
    have source : readLE m 0 8 = shape.pointerWord offset := source
    rw [source] at rebased rebased'
    obtain ⟨near, rfl⟩ := rebase_pointerWord valid fits present' rebased
    obtain ⟨near', rfl⟩ := rebase_pointerWord valid fits present' rebased'
    rw [pointerWord_eq_zero near, pointerWord_eq_zero near']
    apply and_congr_right
    intro _
    omega

theorem alike_message {pointerWord words pointerWord' words' : ℕ} {message : Bytes}
    {drawn drawn' : ObjectTree × ℕ} (level : Level pointerWord words pointerWord' words')
    (done : drawMessage pointerWord words message = .ok drawn)
    (done' : drawMessage pointerWord' words' message = .ok drawn') :
    Alike words words' drawn drawn' := by
  obtain ⟨r, opened, done⟩ := Fallible.bind_eq_ok.1 done
  obtain ⟨flatMessage, copied, done⟩ := Fallible.bind_eq_ok.1 done
  obtain ⟨r', opened', done'⟩ := Fallible.bind_eq_ok.1 done'
  cases opened.symm.trans opened'
  obtain ⟨flatMessage', copied', done'⟩ := Fallible.bind_eq_ok.1 done'
  cases copied.symm.trans copied'
  obtain ⟨t, copy, -, some, laid, -, rfl⟩ := decodeAnyPointerMessageFromReader_eq_ok copied
  have segment : (toLE 4 0 ++ toLE 4 copy.words ++ copy.bytes).drop 8 = copy.bytes := by
    rw [List.drop_append_of_le_length (by simp [length_toLE])]
    simp [length_toLE]
  simp only [segment] at done done'
  split_ifs at done done' with empty null
  · cases done
    cases done'
    exact alike_of_same_words .null words words' 0
  · cases done
    cases done'
    exact alike_of_same_words .null words words' 0
  · obtain ⟨word, rebased, same⟩ := Fallible.bind_eq_ok.1 done
    obtain ⟨word', rebased', same'⟩ := Fallible.bind_eq_ok.1 done'
    cases same
    cases same'
    simp only [rebased_level laid null level rebased rebased']
    exact alike_of_same_words _ words words' _

/-! ## Lists side by side -/

section Lists

variable {draw : Sketch → ι → ℕ → Value → Except Thrown Sketch} {Pair : ι → Value → Value → Prop}
  {drawElement : ℕ → ℕ → Value → Except Thrown (ObjectTree × ℕ)} {values values' : List Value}
  {words words' : ℕ}

theorem alike_pointerList
    (alike : List.Forall₂ (fun value value' => ∀ pointerWord words pointerWord' words' drawn drawn',
      Level pointerWord words pointerWord' words' → drawElement pointerWord words value =
        .ok drawn →
        drawElement pointerWord' words' value' = .ok drawn' → Alike words words' drawn drawn')
          values values')
    {s s' : Sketch}
    (done : values.zipIdx.foldlM (fun s item =>
      s.put item.2 <$> drawElement (s.start + item.2) s.words item.1)
        (Sketch.fresh words values.length) = .ok s)
    (done' : values'.zipIdx.foldlM (fun s item =>
      s.put item.2 <$> drawElement (s.start + item.2) s.words item.1)
        (Sketch.fresh words' values'.length) = .ok s') :
    Alike words words' (s.tree (flatShape 6 values.length), s.words)
      (s'.tree (flatShape 6 values'.length), s'.words) := by
  rw [← alike.length_eq] at done' ⊢
  obtain ⟨twin, -, start, start'⟩ := Fallible.foldlM_zipIdx_follows
    (fun _ s s' => Twin s s' ∧ s.block.words = values.length ∧ s.start = words ∧
      s'.start = words') alike
    ⟨Twin.fresh words words' values.length, rfl, rfl, rfl⟩ done done'
    fun i value value' s s' s₁ s₁' _ low pair related step step' => by
      obtain ⟨twin, size, start, start'⟩ := related
      obtain ⟨drawn, found, rfl⟩ := Fallible.map_eq_ok.1 step
      obtain ⟨drawn', found', rfl⟩ := Fallible.map_eq_ok.1 step'
      have level := twin.level (show i < s.block.words by omega)
      exact ⟨twin.put (pair _ _ _ _ _ _ level found found'), size, start, start'⟩
  rw [← start, ← start']
  exact twin.alike _

/-- The words of a struct. -/
def Schema.Inside (schema : Schema ι) : Prop :=
  ∀ get, ∀ k ∈ structBits schema get, k <
    64 * ((schema get).dataWordCount + (schema get).pointerCount)

/-- Elements of a list of structs are drawn into their own words. -/
theorem redraws_elements (redraws : ∀ s get structWord value s',
      draw s get structWord value = .ok s' →
      Redraws s s' structWord (structBits schema get)) {get : ι} {n : ℕ} {s s' : Sketch}
    (done : (values.zipIdx n).foldlM (fun s item =>
      draw s get (1 + item.2 * ((schema get).dataWordCount + (schema get).pointerCount)) item.1) s =
        .ok s') :
    Redraws s s' 0 {k | 64 * (1 + n * ((schema get).dataWordCount + (schema get).pointerCount)) ≤
      k} := by
  apply Fallible.foldlM_keeps (fun t => Redraws s t 0 _) (.refl s 0 _) done
  intro t item mem t' sofar next
  apply sofar.trans
  apply (redraws _ _ _ _ _ next).shift
  intro k _
  have later := Nat.mul_le_mul_right ((schema get).dataWordCount + (schema get).pointerCount)
    (List.le_snd_of_mem_zipIdx mem)
  show 64 * (1 + n * _) ≤ 64 * (1 + item.2 * _) + k
  omega

theorem zipIdx_split {α : Type} {l : List α} {k : ℕ} (few : k ≤ l.length) :
    l.zipIdx = (l.take k).zipIdx ++ (l.drop k).zipIdx k := by
  conv_lhs => rw [← List.take_append_drop k l, List.zipIdx_append, List.length_take,
    min_eq_left few, Nat.zero_add]

/-- The elements of a list of structs, side by side. -/
theorem twin_elements (paired : DrawsTwins schema draw Pair) (inside : schema.Inside) {get : ι}
    (pairs : List.Forall₂ (Pair get) values values') {s s' s₁ s₁' : Sketch} (twin : Twin s s')
    (blank : ∀ j < values.length, s.Blank
      (1 + j * ((schema get).dataWordCount + (schema get).pointerCount))
        ((schema get).dataWordCount + (schema get).pointerCount))
    (done : values.zipIdx.foldlM (fun s item =>
      draw s get (1 + item.2 * ((schema get).dataWordCount + (schema get).pointerCount)) item.1) s =
        .ok s₁)
    (done' : values'.zipIdx.foldlM (fun s item =>
      draw s get (1 + item.2 * ((schema get).dataWordCount + (schema get).pointerCount)) item.1)
        s' = .ok s₁') :
    Twin s₁ s₁' := by
  refine (Fallible.foldlM_zipIdx_follows (fun i s s' => Twin s s' ∧ ∀ j, i ≤ j → j < values.length →
    s.Blank (1 + j * ((schema get).dataWordCount + (schema get).pointerCount))
      ((schema get).dataWordCount + (schema get).pointerCount)) pairs ⟨twin, fun j _ => blank j⟩
        done done' ?_).1
  intro i value value' u u' v v' _ low pair related step step'
  obtain ⟨twin, blank⟩ := related
  refine ⟨paired.twins _ _ _ _ _ _ _ _ pair twin (blank i le_rfl (by omega)) step step',
    fun j later high => ?_⟩
  -- a later element lies behind this one
  apply (blank j (by omega) high).kept (paired.redraws u get (1 + i * _) value v step)
  intro k mem
  have near := inside get k mem
  have next := Nat.mul_le_mul_right ((schema get).dataWordCount + (schema get).pointerCount) later
  rw [Nat.add_mul, Nat.one_mul] at next
  omega

theorem blank_elements {words n stride j : ℕ} {block : MessageBuilder} {word : ℕ}
    (tag : (Sketch.fresh words (1 + stride * n)).block.writeWord 0 word = .ok block) (low : j < n) :
    ((Sketch.fresh words (1 + stride * n)).write block).Blank (1 + j * stride) stride := by
  have later : (j + 1) * stride ≤ n * stride := Nat.mul_le_mul_right stride low
  rw [Nat.add_mul, Nat.one_mul, Nat.mul_comm n] at later
  have blank : (Sketch.fresh words (1 + stride * n)).Blank (1 + j * stride) stride :=
    Sketch.blank_fresh words (by omega)
  refine ⟨fun i near far => ?_, blank.slots⟩
  exact ((MessageBuilder.writeWord_eq_ok.1 tag).getElem? (by omega)).trans (blank.bytes i near far)

/-- What lies in front of a word of an object stays the same when words behind it are drawn. -/
theorem Redraws.front {s s' : Sketch} {lo : ℕ} (h : Redraws s s' 0 {k | 64 * lo ≤ k}) :
    (∀ i < 8 * lo, s'.block.bytes[i]? = s.block.bytes[i]?) ∧ ∀ w < lo, s'.slots w = s.slots w := by
  have far : ∀ k ∈ {k | 64 * lo ≤ k}, lo ≤ k / 64 := fun k mem => by
    have mem : 64 * lo ≤ k := mem
    omega
  constructor
  · intro i low
    apply h.getElem?
    rintro ⟨k, mem, rfl⟩
    have := far k mem
    omega
  · intro w low
    apply h.slots
    intro k mem
    have := far k mem
    omega

theorem alike_structList (paired : DrawsTwins schema draw Pair) (inside : schema.Inside)
    (sizes : ∀ get, (schema get).dataWordCount < 2 ^ 16 ∧ (schema get).pointerCount < 2 ^ 16)
    {get : ι} (size : values.length = values'.length)
    (pairs : List.Forall₂ (Pair get) (values.take (values.length % 2 ^ 30))
      (values'.take (values.length % 2 ^ 30)))
    {drawn drawn' : ObjectTree × ℕ}
    (done : drawListField schema draw drawElement words (.struct get) values = .ok drawn)
    (done' : drawListField schema draw drawElement words' (.struct get) values' = .ok drawn') :
    Alike words words' drawn drawn' := by
  obtain ⟨block, tag, done⟩ := Fallible.bind_eq_ok.1 done
  obtain ⟨s, run, same⟩ := Fallible.bind_eq_ok.1 done
  obtain ⟨block', tag', done'⟩ := Fallible.bind_eq_ok.1 done'
  obtain ⟨s', run', same'⟩ := Fallible.bind_eq_ok.1 done'
  cases same
  cases same'
  rw [← size] at run' tag' ⊢
  cases tag.symm.trans tag'
  have more : words + (1 + _) ≤ s.words := (redraws_elements paired.redraws run).words
  have more' : words' + (1 + _) ≤ s'.words := (redraws_elements paired.redraws run').words
  -- of an overlong list only the first elements can be seen
  have few : values.length % 2 ^ 30 ≤ values.length := Nat.mod_le _ _
  rw [zipIdx_split few, List.foldlM_append] at run
  rw [zipIdx_split (few.trans size.le), List.foldlM_append] at run'
  obtain ⟨s₁, seen, hidden⟩ := Fallible.bind_eq_ok.1 run
  obtain ⟨s₁', seen', hidden'⟩ := Fallible.bind_eq_ok.1 run'
  have behind := redraws_elements paired.redraws hidden
  have behind' := redraws_elements paired.redraws hidden'
  have start := (Twin.fresh words words' (1 + _)).write (MessageBuilder.writeWord_eq_ok.1 tag).words
  have twin := twin_elements paired inside pairs start
    (fun j low => blank_elements tag (low.trans_le (List.length_take_le' _ _))) seen seen'
  have below :
      (structListShape (schema get).dataWordCount (schema get).pointerCount values.length).Valid →
      (structListShape (schema get).dataWordCount (schema get).pointerCount values.length).words =
        1 + values.length % 2 ^ 30 * ((schema get).dataWordCount + (schema get).pointerCount) := by
    intro valid
    obtain ⟨dw, pc, shape, -⟩ := structListShape_valid (sizes get).1 (sizes get).2 valid
    rw [shape, Nat.mul_comm]
    rfl
  refine ⟨Sketch.tree_similar ?_ ?_ ?_, ?_, ?_, ?_⟩
  · rw [behind.size, behind'.size, twin.block]
  · intro valid i low _
    rw [below valid] at low
    rw [behind.front.1 i low, behind'.front.1 i low, twin.block]
  · intro valid w mem
    have low := Shape.slot_lt valid mem
    rw [below valid] at low
    rw [behind.front.2 w low, behind'.front.2 w low]
    exact twin.slots w
  · exact (Nat.le_add_right _ _).trans more
  · exact (Nat.le_add_right _ _).trans more'
  · show s.words = words ↔ s'.words = words'
    omega

theorem forall₂_same {α : Type} {Q : α → α → Prop} (refl : ∀ a, Q a a) (l : List α) :
    List.Forall₂ Q l l := by
  induction l with
  | nil => exact .nil
  | cons a l ih => exact .cons (refl a) ih

theorem alike_sameList (paired : DrawsTwins schema draw Pair) (inside : schema.Inside)
    (sizes : ∀ get, (schema get).dataWordCount < 2 ^ 16 ∧ (schema get).pointerCount < 2 ^ 16)
    {elementType : TypeDescriptor ι}
    (elements : ∀ value pointerWord words pointerWord' words' drawn drawn',
      Level pointerWord words pointerWord' words' → drawElement pointerWord words value =
        .ok drawn →
        drawElement pointerWord' words' value = .ok drawn' → Alike words words' drawn drawn')
    {drawn drawn' : ObjectTree × ℕ}
    (done : drawListField schema draw drawElement words elementType values = .ok drawn)
    (done' : drawListField schema draw drawElement words' elementType values = .ok drawn') :
    Alike words words' drawn drawn' := by
  by_cases structs : ∃ get, elementType = .struct get
  · obtain ⟨get, rfl⟩ := structs
    exact alike_structList paired inside sizes rfl (forall₂_same (paired.same get) _) done done'
  unfold drawListField at done done'
  split at done
  · cases done
    cases done'
    exact alike_of_same_words _ words words' 0
  · exact absurd ⟨_, rfl⟩ structs
  rename_i notVoid notStruct
  split at done'
  · exact absurd rfl notVoid
  · exact absurd rfl (notStruct _)
  split_ifs at done done'
  · obtain ⟨s, run, same⟩ := Fallible.bind_eq_ok.1 done
    obtain ⟨s', run', same'⟩ := Fallible.bind_eq_ok.1 done'
    cases same
    cases same'
    exact alike_pointerList (forall₂_same elements values) run run'
  · obtain ⟨size, room, done⟩ := Fallible.bind_eq_ok.1 done
    obtain ⟨size', room', done'⟩ := Fallible.bind_eq_ok.1 done'
    cases room.symm.trans room'
    obtain ⟨block, filled, same⟩ := Fallible.bind_eq_ok.1 done
    obtain ⟨block', filled', same'⟩ := Fallible.bind_eq_ok.1 done'
    cases filled.symm.trans filled'
    cases same
    cases same'
    exact alike_of_same_words _ words words' size

theorem alike_unless_nullish {value value' : Value} (same : isNullish value' = isNullish value)
    {rest rest' : Except Thrown (ObjectTree × ℕ)} {drawn drawn' : ObjectTree × ℕ}
    (done : (if isNullish value then pure (.null, words) else rest) = .ok drawn)
    (done' : (if isNullish value' then pure (.null, words') else rest') = .ok drawn')
    (otherwise : rest = .ok drawn → rest' = .ok drawn' → Alike words words' drawn drawn') :
    Alike words words' drawn drawn' := by
  rw [same] at done'
  split_ifs at done done'
  · cases done
    cases done'
    exact alike_of_same_words _ words words' 0
  · exact otherwise done done'

/-- Pairs of structs are drawn alike as the targets of pointers. -/
theorem drawnAlike_struct (paired : DrawsTwins schema draw Pair) {get : ι} {value value' : Value}
    (same : isNullish value' = isNullish value) (pair : Pair get value value') :
    DrawnAlike schema draw (.struct get) value value' := by
  intro pointerWord words pointerWord' words' drawn drawn' _ done done'
  apply alike_unless_nullish same done done'
  intro done done'
  obtain ⟨s, run, found⟩ := Fallible.bind_eq_ok.1 done
  obtain ⟨s', run', found'⟩ := Fallible.bind_eq_ok.1 done'
  cases found
  cases found'
  have twin := paired.twins _ _ _ _ _ _ _ _ pair (Twin.fresh words words' _)
    (Sketch.blank_fresh words (Nat.zero_add _).le) run run'
  have start : s.start = words := (paired.redraws _ _ _ _ _ run).start
  have start' : s'.start = words' := (paired.redraws _ _ _ _ _ run').start
  rw [← start, ← start']
  exact twin.alike _

/-- One value is drawn alike at two places. -/
theorem drawnAlike_same (paired : DrawsTwins schema draw Pair) (inside : schema.Inside)
    (sizes : ∀ get, (schema get).dataWordCount < 2 ^ 16 ∧ (schema get).pointerCount < 2 ^ 16)
    (type : TypeDescriptor ι) (value : Value) : DrawnAlike schema draw type value value := by
  induction type generalizing value with
  | struct get => exact drawnAlike_struct paired rfl (paired.same get value)
  | text =>
    intro pointerWord words pointerWord' words' drawn drawn' _ done done'
    exact alike_unless_nullish rfl done done' alike_bytes
  | data =>
    intro pointerWord words pointerWord' words' drawn drawn' _ done done'
    exact alike_unless_nullish rfl done done' alike_bytes
  | list element ih =>
    intro pointerWord words pointerWord' words' drawn drawn' _ done done'
    exact alike_unless_nullish rfl done done' (alike_sameList paired inside sizes ih)
  | interface =>
    intro pointerWord words pointerWord' words' drawn drawn' _ done done'
    apply alike_unless_nullish rfl done done'
    intro done done'
    obtain ⟨index, denotes, done⟩ := Fallible.bind_eq_ok.1 done
    obtain ⟨index', denotes', done'⟩ := Fallible.bind_eq_ok.1 done'
    cases denotes.symm.trans denotes'
    cases index with
    | none =>
      cases done
      cases done'
      exact alike_of_same_words .null words words' 0
    | some index => exact alike_capability done done'
  | anyPointer =>
    intro pointerWord words pointerWord' words' drawn drawn' level done done'
    apply alike_unless_nullish rfl done done'
    intro done done'
    obtain ⟨pointer, denotes, done⟩ := Fallible.bind_eq_ok.1 done
    obtain ⟨pointer', denotes', done'⟩ := Fallible.bind_eq_ok.1 done'
    cases denotes.symm.trans denotes'
    cases pointer with
    | null =>
      cases done
      cases done'
      exact alike_of_same_words .null words words' 0
    | interface index => exact alike_capability done done'
    | message message => exact alike_message level done done'
  | primitive kind =>
    intro pointerWord words pointerWord' words' drawn drawn' _ done done'
    exact alike_unless_nullish rfl done done' nofun
  | enum byOrdinal toOrdinal =>
    intro pointerWord words pointerWord' words' drawn drawn' _ done done'
    exact alike_unless_nullish rfl done done' nofun

end Lists

end CapnpDeno
