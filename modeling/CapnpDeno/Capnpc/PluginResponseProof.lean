import CapnpDeno.Capnpc.PluginResponse
import CapnpDeno.Encoding.DataSection

/-!
# The response is read back

The loop over the files fills one element after the other and puts the texts behind everything that
is there.  So what it has placed stays placed: later files write to their own elements and to new
words only.  What the loop needs of the files is known before it runs, and the files come back
unless a count was too long for its 29 bits.
-/

namespace CapnpDeno.PluginResponse

open ByteList

/-! ## What the builder writes -/

/-- `b'` is `b` with some words more; of the words that were there, only `touched` ones differ. -/
structure Keeps (b b' : MessageBuilder) (touched : ℕ → Prop) : Prop where
  words : b.words ≤ b'.words
  same : ∀ i < 8 * b.words, ¬ touched (i / 8) → b'.buffer.bytes[i]? = b.buffer.bytes[i]?

namespace Keeps

variable {b b' b'' : MessageBuilder} {touched touched' : ℕ → Prop}

theorem refl (b : MessageBuilder) (touched : ℕ → Prop) : Keeps b b touched :=
  ⟨le_rfl, fun _ _ _ => rfl⟩

theorem mono (h : Keeps b b' touched') (sub : ∀ w < b.words, touched' w → touched w) :
    Keeps b b' touched :=
  ⟨h.words, fun i low free => h.same i low fun touches => free (sub _ (by omega) touches)⟩

theorem trans (h : Keeps b b' touched) (h' : Keeps b' b'' touched) : Keeps b b'' touched := by
  refine ⟨h.words.trans h'.words, fun i low free => ?_⟩
  have before := h.words
  rw [h'.same i (by omega) free, h.same i low free]

theorem agree (h : Keeps b b' touched) (lo hi : ℕ) (inside : hi ≤ b.words)
    (free : ∀ w, lo ≤ w → w < hi → ¬ touched w) : Agree b.buffer.bytes b'.buffer.bytes (8 * lo)
    (8 * hi) :=
  fun i low high => (h.same i (by omega) (free _ (by omega) (by omega))).symm

end Keeps

variable {b b' : MessageBuilder}

theorem allocWords_ok (count : ℕ) (fits : 8 * (b.words + count) ≤ 2 ^ 34) :
    ∃ b', b.allocWords count = .ok (b.words, b') ∧ b'.words = b.words + count ∧ Keeps b b' fun _ =>
      False := by
  have spec := b.buffer.ensureCapacity_spec ((b.words + count) * 8)
  rw [if_pos (by omega)] at spec
  obtain ⟨buffer, done, same⟩ := spec
  have room : b.words * 8 ≤ b.buffer.bytes.length := b.room
  refine ⟨⟨buffer.1, b.words + count, buffer.2⟩, ?_, rfl, Nat.le_add_right _ _, fun i low _ =>
    same i (by omega)⟩
  exact congrArg (· >>= _) done

theorem allocWords_error (count : ℕ) (large : ¬ 8 * (b.words + count) ≤ 2 ^ 34) :
    ∃ e, b.allocWords count = .error e := by
  have spec := b.buffer.ensureCapacity_spec ((b.words + count) * 8)
  rw [if_neg (by omega)] at spec
  obtain ⟨e, failed⟩ := spec
  exact ⟨e, congrArg (· >>= _) failed⟩

theorem set_keeps {byteOffset : ℕ} {xs : Bytes} (fits : byteOffset + xs.length ≤ b.words * 8) :
    slice (b.set byteOffset xs fits).buffer.bytes byteOffset xs.length = xs ∧
      ∀ i, ¬ (byteOffset ≤ i ∧ i < byteOffset + xs.length) →
        (b.set byteOffset xs fits).buffer.bytes[i]? = b.buffer.bytes[i]? := by
  have inside := fits.trans b.room
  exact ⟨slice_splice_self inside, fun i apart => (getElem?_splice inside i).trans (if_neg apart)⟩

theorem setWord_ok (wordIndex : ℕ) (inside : wordIndex < b.words) (value : ℕ) (context : String) :
    ∃ b', b.setWord wordIndex value context = .ok b' ∧ b'.words = b.words ∧
      readLE b'.buffer.bytes (8 * wordIndex) 8 = value % 2 ^ 64 ∧ Keeps b b' (· = wordIndex) := by
  have fits : wordIndex * 8 + (toLE 8 value).length ≤ b.words * 8 := by
    rw [length_toLE]
    omega
  obtain ⟨written, same⟩ := set_keeps fits
  rw [length_toLE] at written same
  refine ⟨b.set (wordIndex * 8) (toLE 8 value) fits, dif_pos inside, rfl, ?_, le_rfl,
    fun i low apart => same i ?_⟩
  · rw [readLE, Nat.mul_comm 8 wordIndex, written, ofLE_toLE]
    rfl
  · omega

theorem setListPointer_ok (pointerWord targetWord elementSize count : ℕ)
    (inside : pointerWord < b.words) (size : elementSize < 8)
    (fits : OffsetFits ((targetWord : ℤ) - (pointerWord + 1))) :
    ∃ b', b.setListPointer pointerWord targetWord elementSize count = .ok b' ∧ b'.words = b.words ∧
      readLE b'.buffer.bytes (8 * pointerWord) 8 =
        listWord ((targetWord : ℤ) - (pointerWord + 1)) elementSize (count % 2 ^ 29) ∧
      Keeps b b' (· = pointerWord) := by
  have short : count % 2 ^ 29 < 2 ^ 29 := Nat.mod_lt _ (by decide)
  have masked : count &&& 0x1fff_ffff = (count % 2 ^ 29) &&& 0x1fff_ffff := by
    rw [show 0x1fff_ffff = 2 ^ 29 - 1 from rfl, BitField.and_low_mask, BitField.and_low_mask,
      Nat.mod_mod]
  unfold MessageBuilder.setListPointer
  simp only [encodeSigned30_ok fits, Fallible.ok_bind]
  rw [masked, listWord_eq_or _ size short]
  obtain ⟨b', done, words, word, keeps⟩ := setWord_ok _ inside
    (listWord ((targetWord : ℤ) - (pointerWord + 1)) elementSize (count % 2 ^ 29)) "writeWord"
  rw [Nat.mod_eq_of_lt (listWord_lt size short)] at word
  exact ⟨b', done, words, word, keeps⟩

theorem setListPointer_error {pointerWord targetWord elementSize count : ℕ}
    (outside : ¬ OffsetFits ((targetWord : ℤ) - (pointerWord + 1))) :
    ∃ e, b.setListPointer pointerWord targetWord elementSize count = .error e := by
  unfold MessageBuilder.setListPointer
  simp only [encodeSigned30_error outside]
  exact ⟨_, rfl⟩

/-! ## Texts -/

/-- The words of a text. -/
def textWords (value : String) : ℕ := bytesToWords (textBytes value)

/-- There is room for a text behind `words` words, and the pointer at `pointerWord` can hold its
distance. -/
def TextFits (words pointerWord : ℕ) (value : String) : Prop :=
  8 * (words + textWords value) ≤ 2 ^ 34 ∧ OffsetFits ((words : ℤ) - (pointerWord + 1))

theorem textBytes_le (value : String) : textBytes value ≤ 8 * textWords value := by
  unfold textWords bytesToWords
  omega

theorem writeTextPointer_ok {pointerWord : ℕ} {value : String} (inside : pointerWord < b.words)
    (fits : TextFits b.words pointerWord value) :
    ∃ b', b.writeTextPointer pointerWord value = .ok b' ∧ b'.words = b.words + textWords value ∧
      TextAt b'.buffer.bytes pointerWord value b.words ∧ Keeps b b' (· = pointerWord) := by
  obtain ⟨b₁, allocated, words, kept⟩ := allocWords_ok _ fits.1
  have bytes : (CapnpDeno.MessageBuilder.utf8Encode value ++ [0]).length = textBytes value := by
    rw [List.length_append, textBytes]
    rfl
  have small := textBytes_le value
  have room : b.words * 8 + (CapnpDeno.MessageBuilder.utf8Encode value ++ [0]).length ≤
      b₁.words * 8 := by
    rw [bytes, words]
    omega
  obtain ⟨written, apart⟩ := set_keeps room
  rw [bytes] at written apart
  obtain ⟨b', pointed, words', word, kept'⟩ :=
    setListPointer_ok (b := b₁.set _ _ room) pointerWord b.words 2
    (textBytes value) (show pointerWord < b₁.words by omega) (by decide) fits.2
  have below := kept'.agree b.words b₁.words le_rfl (by omega)
  refine ⟨b', ?_, words'.trans words, ⟨fits.2, word, ?_⟩, ?_⟩
  · unfold MessageBuilder.writeTextPointer
    unfold textWords textBytes at allocated
    simp only [allocated, Fallible.ok_bind]
    exact (dif_pos room).trans pointed
  · rw [← (below.slice_eq le_rfl (by rw [words]; omega)), Nat.mul_comm 8 b.words]
    exact written
  · refine ⟨(Nat.le_add_right _ _).trans (words'.trans words).ge, fun i low free => ?_⟩
    have old : i < 8 * b₁.words := by omega
    rw [kept'.same i old free, apart i (by omega)]
    exact kept.same i low id

theorem writeTextPointer_error {pointerWord : ℕ} {value : String}
    (misfit : ¬ TextFits b.words pointerWord value) :
    ∃ e, b.writeTextPointer pointerWord value = .error e := by
  unfold MessageBuilder.writeTextPointer
  by_cases room : 8 * (b.words + textWords value) ≤ 2 ^ 34
  · obtain ⟨b₁, allocated, words, -⟩ := allocWords_ok _ room
    have outside : ¬ OffsetFits ((b.words : ℤ) - (pointerWord + 1)) :=
      fun fits => misfit ⟨room, fits⟩
    unfold textWords textBytes at allocated
    simp only [allocated, Fallible.ok_bind]
    split_ifs
    · exact setListPointer_error outside
    · exact ⟨_, rfl⟩
  · obtain ⟨e, failed⟩ := allocWords_error _ room
    unfold textWords textBytes at failed
    simp only [failed]
    exact ⟨e, rfl⟩

/-! ## Files -/

/-- The ids that the encoder accepts. -/
def ResponseId.Valid : ResponseId → Prop
  | absent => True
  | bigint id => 0 ≤ id ∧ id < 2 ^ 64
  | number id => id.isInteger = true ∧ 0 ≤ id.trunc ∧ id.trunc < 2 ^ 53

/-- The id in the message, zero for an absent one. -/
def ResponseId.value : ResponseId → ℕ
  | absent => 0
  | bigint id => id.toNat
  | number id => id.trunc.toNat

theorem normalizeId_ok {id : ResponseId} (valid : id.Valid) : normalizeId id = .ok id.value := by
  cases id with
  | absent => rfl
  | bigint id =>
    obtain ⟨low, high⟩ := valid
    exact if_neg (by omega)
  | number id =>
    obtain ⟨whole, low, high⟩ := valid
    refine if_neg ?_
    rw [MessageReader.MAX_SAFE_INTEGER]
    rintro (part | negative | large)
    · exact part whole
    · omega
    · omega

theorem normalizeId_error {id : ResponseId} (invalid : ¬ id.Valid) :
    ∃ e, normalizeId id = .error e := by
  cases id with
  | absent => exact absurd trivial invalid
  | bigint id =>
    have range : ¬ (0 ≤ id ∧ id < 2 ^ 64) := invalid
    exact ⟨_, if_pos (by omega)⟩
  | number id =>
    have range : ¬ (id.isInteger = true ∧ 0 ≤ id.trunc ∧ id.trunc < 2 ^ 53) := invalid
    refine ⟨_, if_pos ?_⟩
    rw [MessageReader.MAX_SAFE_INTEGER]
    by_contra accepted
    push Not at accepted
    exact range ⟨accepted.1, accepted.2.1, by omega⟩

theorem ResponseId.value_lt {id : ResponseId} (valid : id.Valid) : id.value < 2 ^ 64 := by
  cases id with
  | absent => decide
  | bigint id =>
    obtain ⟨low, high⟩ := valid
    show id.toNat < 2 ^ 64
    omega
  | number id =>
    obtain ⟨-, low, high⟩ := valid
    show id.trunc.toNat < 2 ^ 64
    omega

/-- What placing a file needs when there are `words` words in front of its texts. -/
def FileFits (elementWord words : ℕ) (file : PluginResponseFile) : Prop :=
  file.id.Valid ∧ TextFits words (elementWord + 1) file.filename ∧
    TextFits (words + textWords file.filename) (elementWord + 2) file.content

/-- The words of both texts. -/
def fileWords (file : PluginResponseFile) : ℕ := textWords file.filename + textWords file.content

/-- An element of the list with its texts, which lie between the words `lo` and `hi`. -/
structure FileAt (m : Bytes) (lo hi elementWord : ℕ) (file : PluginResponseFile) : Prop where
  id : readLE m (8 * elementWord) 8 = file.id.value
  filename : ∃ t, lo ≤ t ∧ t + textWords file.filename ≤ hi ∧
    TextAt m (elementWord + 1) file.filename t
  content : ∃ t, lo ≤ t ∧ t + textWords file.content ≤ hi ∧
    TextAt m (elementWord + 2) file.content t

theorem FileAt.frame {m m' : Bytes} {lo hi lo' hi' elementWord : ℕ} {file : PluginResponseFile}
    (h : FileAt m lo hi elementWord file)
    (element : Agree m m' (8 * elementWord) (8 * (elementWord + 3)))
    (texts : Agree m m' (8 * lo) (8 * hi)) (low : lo' ≤ lo) (high : hi ≤ hi') :
    FileAt m' lo' hi' elementWord file := by
  have moved {pointerWord t : ℕ} {value : String} (text : TextAt m pointerWord value t)
      (slot : elementWord ≤ pointerWord ∧ pointerWord < elementWord + 3) (from_ : lo ≤ t)
      (to_ : t + textWords value ≤ hi) : TextAt m' pointerWord value t := by
    have small := textBytes_le value
    exact text.frame (element.mono (by omega) (by omega)) (texts.mono (by omega) (by omega))
  obtain ⟨t, from_, to_, filename⟩ := h.filename
  obtain ⟨t', from', to', content⟩ := h.content
  exact ⟨(element.readLE_eq le_rfl (by omega)).symm.trans h.id,
    ⟨t, low.trans from_, to_.trans high, moved filename ⟨by omega, by omega⟩ from_ to_⟩,
    ⟨t', low.trans from', to'.trans high, moved content ⟨by omega, by omega⟩ from' to'⟩⟩

theorem encodeFile_ok {elementWord : ℕ} {file : PluginResponseFile}
    (inside : elementWord + 3 ≤ b.words) (fits : FileFits elementWord b.words file) :
    ∃ b', encodeFile b elementWord file = .ok b' ∧ b'.words = b.words + fileWords file ∧
      FileAt b'.buffer.bytes b.words b'.words elementWord file ∧
      Keeps b b' fun w => elementWord ≤ w ∧ w < elementWord + 3 := by
  obtain ⟨valid, named, filled⟩ := fits
  obtain ⟨b₁, wrote, words₁, id, keeps₁⟩ :=
    setWord_ok _ (show elementWord < b.words by omega) file.id.value "writeBigUint64"
  rw [← words₁] at named
  obtain ⟨b₂, wrote₂, words₂, filename, keeps₂⟩ :=
    writeTextPointer_ok (show elementWord + 1 < b₁.words by omega) named
  rw [← words₁, ← words₂] at filled
  obtain ⟨b₃, wrote₃, words₃, content, keeps₃⟩ :=
    writeTextPointer_ok (show elementWord + 2 < b₂.words by omega) filled
  have small := textBytes_le file.filename
  refine ⟨b₃, ?_, by rw [words₃, words₂, words₁, fileWords, Nat.add_assoc],
    ⟨?_, ⟨b₁.words, ?_, ?_, ?_⟩, ?_⟩, ?_⟩
  · unfold encodeFile
    rw [normalizeId_ok valid, Fallible.ok_bind, MessageBuilder.writeBigUint64, wrote,
      Fallible.ok_bind, wrote₂, Fallible.ok_bind, wrote₃]
  · have kept := (keeps₂.agree elementWord (elementWord + 1) (by omega) (by omega)).trans
      (keeps₃.agree elementWord (elementWord + 1) (by omega) (by omega))
    rw [← kept.readLE_eq le_rfl (by omega), id, Nat.mod_eq_of_lt (ResponseId.value_lt valid)]
  · exact words₁.ge
  · omega
  · exact filename.frame ((keeps₃.agree (elementWord + 1) (elementWord + 2)
      (by omega) (by omega)).mono
      (by omega) (by omega)) ((keeps₃.agree b₁.words b₂.words le_rfl (by omega)).mono
      (by omega) (by omega))
  · exact ⟨b₂.words, by omega, by omega, content⟩
  · exact (keeps₁.mono fun w _ here => by omega).trans
      ((keeps₂.mono fun w _ here => by omega).trans (keeps₃.mono fun w _ here => by omega))

theorem encodeFile_error {elementWord : ℕ} {file : PluginResponseFile}
    (inside : elementWord + 3 ≤ b.words) (misfit : ¬ FileFits elementWord b.words file) :
    ∃ e, encodeFile b elementWord file = .error e := by
  unfold encodeFile
  by_cases valid : file.id.Valid
  · obtain ⟨b₁, wrote, words₁, -, -⟩ :=
      setWord_ok _ (show elementWord < b.words by omega) file.id.value "writeBigUint64"
    rw [normalizeId_ok valid, Fallible.ok_bind, MessageBuilder.writeBigUint64, wrote,
      Fallible.ok_bind]
    by_cases named : TextFits b.words (elementWord + 1) file.filename
    · rw [← words₁] at named
      obtain ⟨b₂, wrote₂, words₂, -, -⟩ :=
        writeTextPointer_ok (show elementWord + 1 < b₁.words by omega) named
      rw [wrote₂, Fallible.ok_bind]
      refine writeTextPointer_error fun filled => misfit ⟨valid, ?_, ?_⟩
      · rwa [← words₁]
      · rwa [← words₁, ← words₂]
    · obtain ⟨e, failed⟩ := @writeTextPointer_error b₁ (elementWord + 1) file.filename
        (by rwa [words₁])
      rw [failed]
      exact ⟨e, rfl⟩
  · obtain ⟨e, failed⟩ := normalizeId_error valid
    rw [failed]
    exact ⟨e, rfl⟩

/-! ## The loop -/

/-- What placing the files needs, from the first element on. -/
def FilesFit : ℕ → ℕ → List PluginResponseFile → Prop
  | _, _, [] => True
  | elementWord, words, file :: files =>
    FileFits elementWord words file ∧ FilesFit (elementWord + 3) (words + fileWords file) files

/-- The body of the loop, at the file with its index. -/
abbrev loopBody (first : ℕ) (builder : MessageBuilder) (item : PluginResponseFile × ℕ) :
    Except Thrown MessageBuilder :=
  encodeFile builder (first + item.2 * 3) item.1

/-- Every file that was placed stays where it is until the end of the loop. -/
theorem loop_ok (first n : ℕ) (files : List PluginResponseFile)
    (inside : first + (n + files.length) * 3 ≤ b.words)
    (fits : FilesFit (first + n * 3) b.words files) :
    ∃ b', (files.zipIdx n).foldlM (loopBody first) b = .ok b' ∧
      (∀ i file, files[i]? = some file →
        FileAt b'.buffer.bytes b.words b'.words (first + (n + i) * 3) file) ∧
      Keeps b b' fun w => first + n * 3 ≤ w ∧ w < first + (n + files.length) * 3 := by
  induction files generalizing n b with
  | nil => exact ⟨b, rfl, nofun, Keeps.refl b _⟩
  | cons file files ih =>
    rw [List.length_cons] at inside ⊢
    obtain ⟨here, rest⟩ := fits
    obtain ⟨b₁, placed, words₁, at_, keeps₁⟩ := encodeFile_ok (by omega) here
    obtain ⟨b₂, looped, others, keeps₂⟩ := ih (b := b₁) (n := n + 1) (by omega)
      (by rwa [words₁, Nat.add_mul, Nat.one_mul, ← Nat.add_assoc])
    refine ⟨b₂, ?_, ?_, ?_⟩
    · rw [List.zipIdx_cons, List.foldlM_cons, loopBody, placed]
      exact looped
    · rintro (_ | i) file' found
      · obtain rfl : file = file' := Option.some.inj found
        exact at_.frame (keeps₂.agree _ _ (by omega) (by omega))
          (keeps₂.agree _ _ le_rfl (by omega)) le_rfl keeps₂.words
      · rw [show n + (i + 1) = n + 1 + i by omega]
        exact (others i file' found).frame (Agree.refl _ _ _) (Agree.refl _ _ _) keeps₁.words le_rfl
    · exact (keeps₁.mono fun w _ touched => by omega).trans (keeps₂.mono fun w _
        touched => by omega)

theorem loop_error (first n : ℕ) {files : List PluginResponseFile}
    (inside : first + (n + files.length) * 3 ≤ b.words)
    (misfit : ¬ FilesFit (first + n * 3) b.words files) :
    ∃ e, (files.zipIdx n).foldlM (loopBody first) b = .error e := by
  induction files generalizing n b with
  | nil => exact absurd trivial misfit
  | cons file files ih =>
    rw [List.length_cons] at inside
    rw [List.zipIdx_cons, List.foldlM_cons, loopBody]
    by_cases here : FileFits (first + n * 3) b.words file
    · obtain ⟨b₁, placed, words₁, -, -⟩ := encodeFile_ok (by omega) here
      rw [placed]
      refine ih _ (by omega) fun rest => misfit ⟨here, ?_⟩
      rwa [words₁, Nat.add_mul, Nat.one_mul, ← Nat.add_assoc] at rest
    · obtain ⟨e, failed⟩ := encodeFile_error (by omega) here
      rw [failed]
      exact ⟨e, rfl⟩

/-! ## The frame -/

/-- The files that the encoder accepts: their ids are in range, and every text lies near enough to
its pointer and within the longest buffer. -/
def Accepted (files : List PluginResponseFile) : Prop :=
  files = [] ∨ 8 * (3 + 3 * files.length) ≤ 2 ^ 34 ∧ FilesFit 3 (3 + 3 * files.length) files

/-- The segment of a response: the root struct, the list and its elements. -/
structure ResponseAt (m : Bytes) (files : List PluginResponseFile) : Prop where
  words : m.length % 8 = 0
  room : 3 + 3 * files.length ≤ m.length / 8
  few : files.length < 2 ^ 30
  root : readLE m 0 8 = structWord 0 0 1
  list : readLE m 8 8 = listWord 0 7 (3 * files.length % 2 ^ 29)
  tag : readLE m 16 8 = tagWord files.length 1 2
  files : ∀ i file, files[i]? = some file → FileAt m 0 (m.length / 8) (3 + i * 3) file

theorem agree_take (m : Bytes) (n lo : ℕ) : Agree m (m.take n) lo n :=
  fun _ _ high => ((List.getElem?_take ..).trans (if_pos high)).symm

theorem encodeFiles_ok {files : List PluginResponseFile} (two : b.words = 2)
    (root : readLE b.buffer.bytes 0 8 = structWord 0 0 1)
    (large : 8 * (3 + 3 * files.length) ≤ 2 ^ 34) (fits : FilesFit 3 (3 + 3 * files.length) files) :
    ∃ b', encodeFiles b 1 files = .ok b' ∧ 8 * b'.words ≤ 2 ^ 34 ∧
      ResponseAt (b'.buffer.bytes.take (8 * b'.words)) files := by
  obtain ⟨b₁, allocated, words₁, keeps₁⟩ := allocWords_ok (b := b) (1 + files.length * 3) (by omega)
  obtain ⟨b₂, pointed, words₂, list, keeps₂⟩ := setListPointer_ok (b := b₁) 1 2 7 (files.length * 3)
    (by omega) (by decide) (by decide)
  have tagged : files.length <<< 2 ||| elementDataWords <<< 32 ||| elementPointerCount <<< 48 =
      tagWord files.length 1 2 := tagWord_eq_or 2 (by omega) (by decide)
  obtain ⟨b₃, tagging, words₃, tag, keeps₃⟩ := setWord_ok (b := b₂) 2 (by omega)
    (tagWord files.length 1 2) "writeWord"
  rw [Nat.mod_eq_of_lt (tagWord_lt (by omega) (by decide) (by decide))] at tag
  have words : b₃.words = 3 + 3 * files.length := by omega
  obtain ⟨b₄, looped, placed, keeps₄⟩ := loop_ok (b := b₃) 3 0 files (by omega)
    (by rwa [words])
  have room : b₄.words * 8 ≤ b₄.buffer.bytes.length := b₄.room
  have most := b₄.buffer.length_le
  have length : (b₄.buffer.bytes.take (8 * b₄.words)).length = 8 * b₄.words := by
    rw [List.length_take]
    omega
  have kept := agree_take b₄.buffer.bytes (8 * b₄.words) 0
  have grown := keeps₄.words
  refine ⟨b₄, ?_, by omega, by omega, by omega, by omega, ?_, ?_, ?_, fun i file found => ?_⟩
  · unfold encodeFiles
    simp only [show files.length * elementStrideWords = files.length * 3 from rfl, allocated,
      Fallible.ok_bind, two, pointed, tagged]
    rw [MessageBuilder.writeWord, tagging, Fallible.ok_bind]
    exact looped
  · rw [← kept.readLE_eq le_rfl (by omega),
      ← (keeps₄.agree 0 1 (by omega) (by omega)).readLE_eq le_rfl
      le_rfl, ← (keeps₃.agree 0 1 (by omega) (by omega)).readLE_eq le_rfl le_rfl,
      ← (keeps₂.agree 0 1 (by omega) (by omega)).readLE_eq le_rfl le_rfl,
      ← (keeps₁.agree 0 1 (by omega) fun _ _ _ => id).readLE_eq le_rfl le_rfl, root]
  · rw [← kept.readLE_eq (by omega) (by omega), ← (keeps₄.agree 1 2 (by omega) (by omega)).readLE_eq
      le_rfl le_rfl, ← (keeps₃.agree 1 2 (by omega) (by omega)).readLE_eq le_rfl le_rfl,
        Nat.mul_comm 3]
    exact list
  · rw [← kept.readLE_eq (by omega) (by omega), ← (keeps₄.agree 2 3 (by omega) (by omega)).readLE_eq
      le_rfl le_rfl]
    exact tag
  · have there := placed i file found
    rw [Nat.zero_add] at there
    have index : i < files.length := (List.getElem?_eq_some_iff.1 found).1
    exact there.frame (kept.mono (by omega) (by omega)) (kept.mono (by omega) le_rfl)
      (Nat.zero_le _) (by omega)

theorem encodeFiles_error {files : List PluginResponseFile} (two : b.words = 2)
    (misfit : ¬ (8 * (3 + 3 * files.length) ≤ 2 ^ 34 ∧ FilesFit 3 (3 + 3 * files.length) files)) :
    ∃ e, encodeFiles b 1 files = .error e := by
  unfold encodeFiles
  simp only [show files.length * elementStrideWords = files.length * 3 from rfl]
  by_cases large : 8 * (3 + 3 * files.length) ≤ 2 ^ 34
  · obtain ⟨b₁, allocated, words₁, -⟩ := allocWords_ok (b := b) (1 + files.length * 3) (by omega)
    obtain ⟨b₂, pointed, words₂, -, -⟩ := setListPointer_ok (b := b₁) 1 2 7 (files.length * 3)
      (by omega) (by decide) (by decide)
    obtain ⟨b₃, tagging, words₃, -, -⟩ := setWord_ok (b := b₂) 2 (by omega)
      (files.length <<< 2 ||| elementDataWords <<< 32 ||| elementPointerCount <<< 48) "writeWord"
    have words : b₃.words = 3 + 3 * files.length := by omega
    simp only [allocated, Fallible.ok_bind, two, pointed]
    rw [MessageBuilder.writeWord, tagging, Fallible.ok_bind]
    exact loop_error 3 0 (by omega) fun fits => misfit ⟨large, by rwa [words] at fits⟩
  · obtain ⟨e, failed⟩ := allocWords_error (b := b) (1 + files.length * 3) (by omega)
    rw [failed]
    exact ⟨e, rfl⟩

/-- The builder with its root struct. -/
theorem root_ok : ∃ b₁ b₂, MessageBuilder.new.allocWords 1 = .ok (1, b₁) ∧
    b₁.setStructPointer 0 1 0 1 = .ok b₂ ∧
    b₂.words = 2 ∧ readLE b₂.buffer.bytes 0 8 = structWord 0 0 1 := by
  obtain ⟨b₁, allocated, words₁, -⟩ := allocWords_ok (b := MessageBuilder.new) 1 (by decide)
  have two : b₁.words = 2 := words₁
  obtain ⟨b₂, wrote, words₂, root, -⟩ :=
    setWord_ok (b := b₁) 0 (by omega) (structWord 0 0 1) "writeWord"
  exact ⟨b₁, b₂, allocated, wrote, words₂.trans two, root⟩

/-! ## Reading -/

/-- A file of a response, as the reader finds it. -/
structure FoundFile where
  id : ℕ
  filename : Option String
  content : Option String
deriving DecidableEq

def readFile (r : MessageReader) (element : StructRef) : Except Thrown FoundFile := do
  let id ← r.readBigUint64InStruct element 0
  let filename ← r.readTextPointer element.segmentId (← MessageReader.pointerWordIndex element 0)
  let content ← r.readTextPointer element.segmentId (← MessageReader.pointerWordIndex element 1)
  return ⟨id, filename, content⟩

/-- The files of a response, read with the runtime's reader. -/
def readResponse (r : MessageReader) : Except Thrown (List FoundFile) := do
  match ← r.readStructPointer 0 0 with
  | none => throw (plainError "root pointer is null")
  | some root =>
    match ← r.readListPointer root.segmentId (← MessageReader.pointerWordIndex root 0) with
    | none => return []
    | some (.flat _ _ _ _) => throw (plainError "expected an inline composite list")
    | some (.inlineComposite segmentId tagWord elementCount dataWordCount pointerCount _) =>
      (List.range elementCount).mapM fun i =>
        readFile r ⟨segmentId, tagWord + 1 + i * (dataWordCount + pointerCount), dataWordCount,
          pointerCount⟩

/-- The file that should be found. -/
def PluginResponseFile.found (file : PluginResponseFile) : FoundFile :=
  ⟨file.id.value, some file.filename, some file.content⟩

/-- The counts of the texts of a file fit their 29 bits. -/
def PluginResponseFile.Counted (file : PluginResponseFile) : Prop :=
  textBytes file.filename < 2 ^ 29 ∧ textBytes file.content < 2 ^ 29

/-- All counts of the message fit their 29 bits: the words of the list and the bytes of each
text. -/
def Counted (files : List PluginResponseFile) : Prop :=
  3 * files.length < 2 ^ 29 ∧ ∀ file ∈ files, file.Counted

/-- The message is one segment, and the files are read back from it. -/
def RoundTrips (files : List PluginResponseFile) (message : Bytes) : Prop :=
  ∃ segment, MessageReader.ofBytes message = .ok ⟨[segment]⟩ ∧
    readResponse ⟨[segment]⟩ = .ok (files.map PluginResponseFile.found)

theorem readFile_iff {m : Bytes} {element : ℕ} {file : PluginResponseFile}
    (inside : element + 3 ≤ m.length / 8) (h : FileAt m 0 (m.length / 8) element file) :
    readFile (flatReader m) ⟨0, element, 1, 2⟩ = .ok file.found ↔ file.Counted := by
  have range : inRange (flatReader m).segments 0 (element : ℤ) 3 = true :=
    inRange_iff.2 ⟨m, rfl, by omega, by omega⟩
  have bytes : segmentBytes (flatReader m) 0 = m := rfl
  have id : (flatReader m).readBigUint64InStruct ⟨0, element, 1, 2⟩ 0 = .ok file.id.value := by
    refine (@inStruct_readUintAt_eq_ok (flatReader m) ⟨0, element, 1, 2⟩ range 8 0 _ _).2
      ⟨?_, show 0 % 8 + 8 ≤ 8 * 1 by decide, ?_⟩
    · rw [bytes]
      simp only
      omega
    · exact h.id.symm
  obtain ⟨t, -, short, filename⟩ := h.filename
  obtain ⟨t', -, short', content⟩ := h.content
  unfold textWords at short short'
  have slot (i : ℕ) (low : i < 2) : MessageReader.pointerWordIndex ⟨0, element, 1, 2⟩ i =
      .ok (element + 1 + i) :=
    if_neg (not_le.2 low)
  unfold readFile
  rw [id, Fallible.ok_bind, slot 0 (by decide), slot 1 (by decide)]
  simp only [Fallible.ok_bind, Nat.add_zero, Nat.add_assoc, Nat.reduceAdd]
  constructor
  · intro read
    obtain ⟨name, first, read⟩ := Fallible.bind_eq_ok.1 read
    obtain ⟨text, second, read⟩ := Fallible.bind_eq_ok.1 read
    cases read
    constructor
    · by_contra long
      exact filename.read_long (by omega) (by omega) (not_lt.1 long) first
    · by_contra long
      exact content.read_long (by omega) (by omega) (not_lt.1 long) second
  · rintro ⟨named, filled⟩
    rw [filename.read_ok (by omega) (by omega) named, Fallible.ok_bind,
      content.read_ok (by omega) (by omega) filled]
    rfl

theorem ResponseAt.read_root {m : Bytes} {files : List PluginResponseFile}
    (h : ResponseAt m files) :
    (flatReader m).readStructPointer 0 0 = .ok (some ⟨0, 1, 0, 1⟩) := by
  have room := h.room
  have resolve := @resolvePointer_near m 0 (by omega) (by rw [h.root]; decide)
  rw [Nat.mul_zero, h.root, Nat.cast_zero] at resolve
  have target : (1 : ℤ) + signed30 (structWord 0 0 1 / 4 % 2 ^ 30) = 1 := by decide
  have range : inRange (flatReader m).segments 0 1 1 = true :=
    inRange_iff.2 ⟨m, rfl, by omega, by omega⟩
  rw [← Fallible.toOption_eq_some, MessageReader.readStructPointer_toOption resolve
    (fun null => absurd null.1 (by decide)) (by decide)]
  refine if_pos ⟨fun bad => bad.1 rfl, ?_⟩
  exact range

/-- What is read from the list, once the reader has found it. -/
theorem ResponseAt.read_elements {m : Bytes} {files : List PluginResponseFile}
    (h : ResponseAt m files) :
    ((List.range files.length).mapM fun i => readFile (flatReader m) ⟨0, 3 + i * 3, 1, 2⟩) =
      .ok (files.map PluginResponseFile.found) ↔ ∀ file ∈ files, file.Counted := by
  have room := h.room
  have each : ∀ i (low : i < files.length),
      readFile (flatReader m) ⟨0, 3 + i * 3, 1, 2⟩ = .ok (files[i]).found ↔ (files[i]).Counted :=
    fun i low => readFile_iff (by omega) (h.files i _ (List.getElem?_eq_getElem low))
  simp only [Fallible.mapM_eq_ok, List.forall₂_iff_get, List.length_range, List.length_map,
    List.get_eq_getElem, List.getElem_range, List.getElem_map, true_and]
  constructor
  · intro all file mem
    obtain ⟨i, low, rfl⟩ := List.getElem_of_mem mem
    exact (each i low).1 (all i low low)
  · intro all i low _
    exact (each i low).2 (all _ (List.getElem_mem low))

theorem ResponseAt.read_list {m : Bytes} {files : List PluginResponseFile} (h : ResponseAt m files)
    (short : 3 * files.length < 2 ^ 29) : (flatReader m).readListPointer 0 1 =
      .ok (some (.inlineComposite 0 2 files.length 1 2 (3 * files.length))) := by
  have room := h.room
  have valid : (Shape.inlineComposite (3 * files.length) files.length 1 2).Valid :=
    ⟨short, by omega, by decide, by decide, le_rfl⟩
  have tagged : (Shape.inlineComposite (3 * files.length) files.length 1 2).Tagged
      (blockAt m (.inlineComposite (3 * files.length) files.length 1 2) 2) := by
    show readLE (slice m (8 * 2) (8 * (1 + 3 * files.length))) 0 8 = _
    rw [readLE_slice (by omega)]
    exact h.tag
  have word := h.list
  rw [Nat.mod_eq_of_lt short] at word
  obtain ⟨ref, read, target⟩ := @readListPointer_near m _ 0 1 2 valid
    (listWord_fields 0 (by decide) short).1 (by decide) word (by decide) (by omega)
    (show 8 * (2 + (1 + 3 * files.length)) ≤ m.length by omega) tagged
  rw [Nat.cast_one] at read
  rw [read]
  cases ref with
  | flat _ _ _ _ => cases target
  | inlineComposite _ _ _ _ _ _ =>
    cases target
    rfl

/-- A list whose words do not fit their 29 bits declares fewer words than its elements take. -/
theorem ResponseAt.read_list_long {m : Bytes} {files : List PluginResponseFile}
    (h : ResponseAt m files) (long : 2 ^ 29 ≤ 3 * files.length) {list : Option ListRef} :
    (flatReader m).readListPointer 0 1 ≠ .ok list := by
  intro found
  have room := h.room
  obtain ⟨kind, field, element, count⟩ :=
    listWord_fields 0 (show 7 < 8 by decide) (Nat.mod_lt (3 * files.length)
      (show 0 < 2 ^ 29 by decide))
  have resolve := @resolvePointer_near m 1 (by omega) (by rw [h.list, kind]; decide)
  rw [Nat.mul_one, h.list, Nat.cast_one] at resolve
  obtain ⟨ref, -, target⟩ := MessageReader.readListPointer_target resolve kind found
  obtain ⟨tagKind, elements, data, pointers⟩ := tagWord_fields h.few (show 1 < 2 ^ 16 by decide)
    (show 2 < 2 ^ 16 by decide)
  have tag : wordAt (flatReader m).segments 0 2 = tagWord files.length 1 2 := h.tag
  have start : (ResolvedPointer.base ⟨0, 1, listWord 0 7 (3 * files.length % 2 ^ 29), none⟩ +
      signed30 (offsetField 0)).toNat = 2 := by
    rw [signed30_offsetField (by decide)]
    rfl
  unfold targetOf at target
  simp only [kind, field, element, count, start, tag, elements, data, pointers, if_true] at target
  split_ifs at target with inside
  obtain ⟨-, -, holds⟩ := inside
  have cut : 3 * files.length % 2 ^ 29 < 2 ^ 29 := Nat.mod_lt _ (by decide)
  omega

theorem ResponseAt.read_iff {m : Bytes} {files : List PluginResponseFile} (h : ResponseAt m files) :
    readResponse (flatReader m) = .ok (files.map PluginResponseFile.found) ↔ Counted files := by
  have slot : MessageReader.pointerWordIndex ⟨0, 1, 0, 1⟩ 0 = .ok 1 := rfl
  unfold readResponse
  rw [h.read_root, Fallible.ok_bind]
  simp only [slot, Fallible.ok_bind]
  by_cases short : 3 * files.length < 2 ^ 29
  · rw [Nat.cast_one, h.read_list short, Fallible.ok_bind, Counted, and_iff_right short]
    exact h.read_elements
  · refine iff_of_false (fun read => ?_) fun counted => short counted.1
    obtain ⟨list, found, -⟩ := Fallible.bind_eq_ok.1 read
    exact h.read_list_long (not_lt.1 short) found

/-! ## The whole message -/

theorem toMessageBytes_ok (small : 8 * b.words ≤ 2 ^ 34) :
    b.toMessageBytes = .ok (toLE 4 0 ++ toLE 4 b.words ++ b.buffer.bytes.take (8 * b.words)) := by
  unfold MessageBuilder.toMessageBytes
  simp only [Nat.mul_comm b.words, WORD_BYTES]
  rw [if_neg (by rw [CapnpDeno.MessageBuilder.MAX_BYTE_LENGTH]; omega)]
  rfl

/-- The frame around a segment is taken off again. -/
theorem ofBytes_take (small : 8 * b.words ≤ 2 ^ 34) :
    MessageReader.ofBytes (toLE 4 0 ++ toLE 4 b.words ++ b.buffer.bytes.take (8 * b.words)) =
      .ok (flatReader (b.buffer.bytes.take (8 * b.words))) := by
  have room : b.words * 8 ≤ b.buffer.bytes.length := b.room
  refine ofBytes_single ?_ (by omega)
  rw [List.length_take]
  omega

theorem encode_empty : encodeCodeGeneratorResponse [] =
    .ok (toLE 4 0 ++ toLE 4 2 ++ toLE 8 (structWord 0 0 1) ++
    toLE 8 0) := by
  decide +kernel

theorem empty_round_trips {message : Bytes} (done : encodeCodeGeneratorResponse [] = .ok message) :
    RoundTrips [] message := by
  cases encode_empty.symm.trans done
  exact ⟨toLE 8 (structWord 0 0 1) ++ toLE 8 0, by decide, by decide⟩

/-- With some files, the message is the segment that the loop fills, or there is none. -/
theorem encode_some {files : List PluginResponseFile} (some_ : files ≠ []) :
    (Accepted files ∧ ∃ b : MessageBuilder, 8 * b.words ≤ 2 ^ 34 ∧
      ResponseAt (b.buffer.bytes.take (8 * b.words)) files ∧
        encodeCodeGeneratorResponse files =
          .ok (toLE 4 0 ++ toLE 4 b.words ++ b.buffer.bytes.take (8 * b.words))) ∨
    (¬ Accepted files ∧ ∃ e, encodeCodeGeneratorResponse files = .error e) := by
  obtain ⟨b₁, b₂, allocated, pointed, two, root⟩ := root_ok
  have run : encodeCodeGeneratorResponse files = encodeFiles b₂ 1 files >>=
      MessageBuilder.toMessageBytes := by
    unfold encodeCodeGeneratorResponse
    rw [allocated, Fallible.ok_bind]
    simp only [pointed, Fallible.ok_bind]
    rw [if_pos (List.length_pos_of_ne_nil some_)]
  rw [run, Accepted, or_iff_right some_]
  by_cases accepted : 8 * (3 + 3 * files.length) ≤ 2 ^ 34 ∧ FilesFit 3 (3 + 3 * files.length) files
  · obtain ⟨b, done, small, placed⟩ := encodeFiles_ok two root accepted.1 accepted.2
    exact .inl ⟨accepted, b, small, placed, by rw [done, Fallible.ok_bind, toMessageBytes_ok small]⟩
  · obtain ⟨e, failed⟩ := encodeFiles_error two accepted
    exact .inr ⟨accepted, e, by rw [failed]; rfl⟩

/-- A message that the loop filled gives the files back if all counts fit. -/
theorem roundTrips_iff {files : List PluginResponseFile} (small : 8 * b.words ≤ 2 ^ 34)
    (placed : ResponseAt (b.buffer.bytes.take (8 * b.words)) files) :
    RoundTrips files (toLE 4 0 ++ toLE 4 b.words ++ b.buffer.bytes.take (8 * b.words)) ↔
    Counted files := by
  rw [← placed.read_iff]
  constructor
  · rintro ⟨segment, framed, read⟩
    cases (ofBytes_take small).symm.trans framed
    exact read
  · exact fun read => ⟨_, ofBytes_take small, read⟩

/-- **The response of the plugin.**  The files come back from every message that is encoded exactly
when the counts of the list and of its texts fit their 29 bits, or the encoder accepts no such
files. -/
theorem plugin_response (files : List PluginResponseFile) :
    (∀ message, encodeCodeGeneratorResponse files = .ok message → RoundTrips files message) ↔
      Counted files ∨ ¬ Accepted files := by
  by_cases some_ : files = []
  · subst some_
    exact iff_of_true (fun message => empty_round_trips) (.inl ⟨by decide, nofun⟩)
  obtain ⟨accepted, b, small, placed, done⟩ | ⟨refused, e, failed⟩ := encode_some some_
  · rw [or_iff_left (not_not_intro accepted), ← roundTrips_iff small placed, done]
    exact ⟨fun all => all _ rfl, fun back message same => Except.ok.inj same ▸ back⟩
  · refine iff_of_true (fun message done => ?_) (.inr refused)
    cases failed.symm.trans done

/-! ## A text that is too long -/

theorem length_utf8Encode_replicate (c : Char) (n : ℕ) :
    (CapnpDeno.MessageBuilder.utf8Encode (String.ofList (List.replicate n c))).length =
      n * c.utf8Size := by
  rw [utf8Encode_eq, String.toByteArray_ofList]
  induction n with
  | zero => simp
  | succ n ih =>
    rw [List.replicate_succ, List.utf8Encode_cons, ByteArray.toList_data_append,
      List.length_append, ih,
      List.utf8Encode_singleton, List.toList_data_toByteArray, String.length_utf8EncodeChar]
    ring

/-- One file, whose content is a letter of two bytes `n` times. -/
def repeated (n : ℕ) : List PluginResponseFile :=
  [⟨.absent, "a.ts", String.ofList (List.replicate n 'é')⟩]

theorem textBytes_repeated (n : ℕ) : textBytes (String.ofList (List.replicate n 'é')) =
    n * 2 + 1 := by
  rw [textBytes, length_utf8Encode_replicate]
  rfl

theorem accepted_repeated {n : ℕ} (small : n ≤ 2 ^ 32) : Accepted (repeated n) := by
  have name : textWords "a.ts" = 1 := by decide +kernel
  have content : textWords (String.ofList (List.replicate n 'é')) ≤ 2 ^ 30 + 1 := by
    rw [textWords, textBytes_repeated, bytesToWords]
    omega
  have near : OffsetFits (((6 + textWords "a.ts" : ℕ) : ℤ) - (5 + 1)) := by
    rw [name]
    decide
  refine .inr ⟨show 8 * (3 + 3) ≤ 2 ^ 34 by
    decide, ⟨trivial, ⟨?_, show OffsetFits (6 - (4 + 1)) by decide⟩, ?_, near⟩,
    trivial⟩
  · show 8 * (6 + textWords "a.ts") ≤ 2 ^ 34
    omega
  · show 8 * (6 + textWords "a.ts" + textWords (String.ofList (List.replicate n 'é'))) ≤ 2 ^ 34
    omega

/-- A content of `2 ^ 29` bytes is encoded, but its count is cut to one byte. -/
theorem plugin_response_truncated : ∃ message, encodeCodeGeneratorResponse (repeated (2 ^ 28)) =
    .ok message ∧
    ¬ RoundTrips (repeated (2 ^ 28)) message := by
  have accepted : Accepted (repeated (2 ^ 28)) := accepted_repeated (by decide)
  obtain ⟨-, b, small, placed, done⟩ | ⟨refused, -⟩ :=
    encode_some (List.cons_ne_nil _ _ : repeated (2 ^ 28) ≠ [])
  · refine ⟨_, done, fun back => ?_⟩
    have counted := ((roundTrips_iff small placed).1 back).2 _ (List.mem_singleton_self _)
    have short := counted.2
    rw [textBytes_repeated] at short
    exact absurd short (by decide)
  · exact absurd accepted refused

end CapnpDeno.PluginResponse
