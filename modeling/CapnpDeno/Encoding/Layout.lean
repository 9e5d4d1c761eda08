import CapnpDeno.Encoding.BuilderProof
import CapnpDeno.Encoding.Locate

/-!
# Trees in one segment

`Laid m lo hi pointerWord t`: in the segment `m`, the word at `pointerWord` points to the tree `t`,
whose blocks lie between the words `lo` and `hi`.  Nothing else of the segment matters, so a layout
survives every write elsewhere, and it moves with its bytes because offsets are relative.
-/

namespace CapnpDeno

open ByteList

/-- The block of a shape in a segment. -/
def blockAt (m : Bytes) (shape : Shape) (start : ℕ) : Bytes := slice m (8 * start) (8 * shape.words)

inductive Laid (m : Bytes) (lo hi : ℕ) : ℕ → ObjectTree → Prop
  | null {pointerWord : ℕ} (word : readLE m (8 * pointerWord) 8 = 0) :
      Laid m lo hi pointerWord .null
  | capability {pointerWord word : ℕ} (read : readLE m (8 * pointerWord) 8 = word)
      (kind : word % 4 = 3) : Laid m lo hi pointerWord (.capability word)
  | object {pointerWord start : ℕ} {shape : Shape} {children : List ObjectTree}
      (valid : shape.Valid) (offset : ℤ) (fits : OffsetFits offset)
      (word : readLE m (8 * pointerWord) 8 = shape.pointerWord offset)
      (target : (pointerWord : ℤ) + 1 + offset = start) (present : shape.pointerWord offset ≠ 0)
      (low : lo ≤ start ∨ shape.words = 0) (high : start + shape.words ≤ hi)
      (tagged : shape.Tagged (blockAt m shape start))
      (arity : shape.slots.length = children.length)
      (child : ∀ (i slot : ℕ) (t : ObjectTree), shape.slots[i]? = some slot →
        children[i]? = some t → Laid m lo hi (start + slot) t) :
      Laid m lo hi pointerWord (.object shape (blank shape.slots (blockAt m shape start)) children)

namespace Laid

variable {m m' : Bytes} {lo hi pointerWord : ℕ} {t : ObjectTree}

theorem mono (h : Laid m lo hi pointerWord t) {lo' hi' : ℕ} (low : lo' ≤ lo) (high : hi ≤ hi') :
    Laid m lo' hi' pointerWord t := by
  induction h with
  | null word => exact .null word
  | capability read kind => exact .capability read kind
  | object valid offset fits word target present low₁ high₁ tagged arity child ih =>
    exact .object valid offset fits word target present (low₁.imp_left low.trans)
      (high₁.trans high) tagged arity ih

/-- A layout depends on the pointer word and on the words of its blocks only. -/
theorem frame (h : Laid m lo hi pointerWord t) (agree : Agree m m' (8 * lo) (8 * hi))
    (same : readLE m' (8 * pointerWord) 8 = readLE m (8 * pointerWord) 8) :
    Laid m' lo hi pointerWord t := by
  induction h with
  | null word => exact .null (same.trans word)
  | capability read kind => exact .capability (same.trans read) kind
  | @object pointerWord start shape children valid offset fits word target present low high tagged
      arity child ih =>
    have block : blockAt m shape start = blockAt m' shape start := by
      unfold blockAt
      rcases low with low | empty
      · exact agree.slice_eq (by omega) (by omega)
      · rw [empty, Nat.mul_zero, slice_zero_right, slice_zero_right]
    rw [block]
    refine .object valid offset fits (same.trans word) target present low high (block ▸ tagged)
      arity ?_
    intro i slot t known known'
    have inside := Shape.slot_lt valid (List.mem_of_getElem? known)
    refine ih i slot t known known' (agree.readLE_eq ?_ ?_).symm <;> omega

/-- A layout moves with its bytes. -/
theorem shift (h : Laid m lo hi pointerWord t) {base : ℕ}
    (moved : slice m' (8 * (base + lo)) (8 * (hi - lo)) = slice m (8 * lo) (8 * (hi - lo)))
    (same : readLE m' (8 * (base + pointerWord)) 8 = readLE m (8 * pointerWord) 8) :
    Laid m' (base + lo) (base + hi) (base + pointerWord) t := by
  -- a piece of the moved bytes is the same piece at its new place
  have piece : ∀ start n, lo ≤ start → start + n ≤ hi →
      slice m' (8 * (base + start)) (8 * n) = slice m (8 * start) (8 * n) := by
    intro start n low high
    have inner := congrArg (slice · (8 * (start - lo)) (8 * n)) moved
    simp only [slice_slice (show 8 * (start - lo) + 8 * n ≤ 8 * (hi - lo) by omega)] at inner
    convert inner using 2 <;> omega
  induction h with
  | null word => exact .null (same.trans word)
  | capability read kind => exact .capability (same.trans read) kind
  | @object pointerWord start shape children valid offset fits word target present low high tagged
      arity child ih =>
    have block : blockAt m shape start = blockAt m' shape (base + start) := by
      unfold blockAt
      rcases low with low | empty
      · exact (piece start _ low high).symm
      · rw [empty, Nat.mul_zero, slice_zero_right, slice_zero_right]
    rw [block]
    refine .object valid offset fits (same.trans word) (by push_cast; omega) present
      (low.imp_left fun h => by omega) (by omega) (block ▸ tagged) arity ?_
    intro i slot t known known'
    have inside := Shape.slot_lt valid (List.mem_of_getElem? known)
    have := piece (start + slot) 1 (by omega) (by omega)
    rw [Nat.add_assoc]
    exact ih i slot t known known' (congrArg ofLE this)

end Laid

/-! ## Reading a layout -/

theorem targetOf_pointerWord {m : Bytes} {shape : Shape} {offset base : ℤ} {start : ℕ}
    (valid : shape.Valid) (fits : OffsetFits offset) (target : base + offset = start)
    (inside : 8 * (start + shape.words) ≤ m.length)
    (tagged : shape.Tagged (blockAt m shape start)) :
    targetOf [m] 0 base (shape.pointerWord offset) = some (.object shape 0 start) := by
  have sign := signed30_offsetField fits
  have range : inRange [m] 0 (start : ℤ) shape.words = true := by
    rw [inRange_iff]
    exact ⟨m, rfl, by omega, by omega⟩
  unfold targetOf
  cases shape with
  | struct dw pc =>
    obtain ⟨small, few⟩ := valid
    obtain ⟨kind, field, data, pointers⟩ := structWord_fields offset small few
    simp only [Shape.pointerWord, kind, field, data, pointers, sign, target, Int.toNat_natCast]
    exact if_pos range
  | flat es n =>
    obtain ⟨size, short⟩ := valid
    obtain ⟨kind, field, element, count⟩ :=
      listWord_fields offset (show es < 8 by omega) short
    simp only [Shape.pointerWord, kind, field, element, count, sign, target, Int.toNat_natCast]
    rw [if_neg (by omega)]
    exact if_pos range
  | inlineComposite w n dw pc =>
    obtain ⟨long, short, small, few, room⟩ := valid
    obtain ⟨kind, field, element, count⟩ :=
      listWord_fields offset (show 7 < 8 by decide) long
    obtain ⟨tagKind, elements, data, pointers⟩ := tagWord_fields short small few
    have tag : wordAt [m] 0 start = tagWord n dw pc := by
      have read : readLE (blockAt m (.inlineComposite w n dw pc) start) 0 8 = _ := tagged
      rwa [blockAt, readLE_slice (by show 0 + 8 ≤ 8 * (1 + w); omega)] at read
    simp only [Shape.pointerWord, kind, field, element, count, sign, target, Int.toNat_natCast, tag,
      tagKind, elements, data, pointers]
    rw [if_pos trivial]
    exact if_pos ⟨range, trivial, room⟩

/-- A reader of one segment. -/
def flatReader (m : Bytes) : MessageReader := ⟨[m]⟩

theorem resolvePointer_near {m : Bytes} {pointerWord : ℕ}
    (inside : 8 * (pointerWord + 1) ≤ m.length) (near : readLE m (8 * pointerWord) 8 % 4 ≠ 2) :
    (flatReader m).resolvePointer 0 pointerWord =
      .ok ⟨0, pointerWord, readLE m (8 * pointerWord) 8, none⟩ := by
  have range : inRange (flatReader m).segments 0 (pointerWord : ℤ) 1 = true := by
    rw [inRange_iff]
    exact ⟨m, rfl, by omega, by omega⟩
  unfold MessageReader.resolvePointer
  rw [MessageReader.readWord_ok range, Fallible.ok_bind]
  unfold MessageReader.resolveHops
  rw [and_kind]
  exact if_pos near

theorem pointerWord_near (shape : Shape) {offset : ℤ} (valid : shape.Valid) :
    shape.pointerWord offset % 4 ≠ 2 := by
  cases shape with
  | struct dw pc =>
    have := (structWord_fields offset valid.1 valid.2).1
    show structWord offset dw pc % 4 ≠ 2
    omega
  | flat es n =>
    have := (listWord_fields offset (show es < 8 from valid.1.trans (by decide)) valid.2).1
    show listWord offset es n % 4 ≠ 2
    omega
  | inlineComposite w n dw pc =>
    have := (listWord_fields offset (show 7 < 8 by decide) valid.1).1
    show listWord offset 7 w % 4 ≠ 2
    omega

/-- The reader sees the tree that is laid out. -/
theorem Laid.reads {m : Bytes} {lo hi pointerWord : ℕ} {t : ObjectTree}
    (h : Laid m lo hi pointerWord t) (below : pointerWord < hi) (inside : 8 * hi ≤ m.length) :
    (flatReader m).Reads 0 pointerWord t := by
  induction h with
  | @null pointerWord word =>
    have resolve := resolvePointer_near (show 8 * (pointerWord + 1) ≤ m.length by omega)
      (by rw [word]; decide)
    refine .null (Fallible.toOption_eq_some.1 ?_)
    rw [MessageReader.locate_toOption resolve, if_pos ⟨word, rfl⟩]
  | @capability pointerWord w read kind =>
    have resolve := resolvePointer_near (show 8 * (pointerWord + 1) ≤ m.length by omega)
      (by rw [read, kind]; decide)
    refine .capability (Fallible.toOption_eq_some.1 ?_)
    rw [read] at resolve
    rw [MessageReader.locate_toOption resolve, if_neg (fun null => ?_),
      if_neg (fun bad => bad.1.1 rfl), targetOf]
    · simp only [kind]
    · rw [show w = 0 from null.1] at kind
      cases kind
  | @object pointerWord start shape children valid offset fits word target present low high tagged
      arity child ih =>
    have resolve := resolvePointer_near (show 8 * (pointerWord + 1) ≤ m.length by omega)
      (by rw [word]; exact pointerWord_near shape valid)
    rw [word] at resolve
    have located : (flatReader m).locate 0 pointerWord = .ok (.object shape 0 start) := by
      rw [← Fallible.toOption_eq_some, MessageReader.locate_toOption resolve,
        if_neg (fun null => present null.1), if_neg (fun bad => bad.1.1 rfl)]
      exact targetOf_pointerWord valid fits target (by omega) tagged
    refine .object located arity ?_
    intro i slot t known known'
    have := Shape.slot_lt valid (List.mem_of_getElem? known)
    exact ih i slot t known known' (by omega)

end CapnpDeno
