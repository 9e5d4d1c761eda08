import CapnpDeno.Encoding.Layout

/-!
# Trees that may not be readable

A list whose tag counts more words than its pointer does is rejected by the reader.  `Placed` is
`Laid` for trees with such lists: every tree that the encoder writes is placed, and the reader sees
it if all its shapes are valid.
-/

namespace CapnpDeno

open ByteList

instance (shape : Shape) : Decidable shape.Valid :=
  match shape with
  | .struct _ _ => inferInstanceAs (Decidable (_ ∧ _))
  | .flat _ _ => inferInstanceAs (Decidable (_ ∧ _))
  | .inlineComposite _ _ _ _ => inferInstanceAs (Decidable (_ ∧ _))

namespace ObjectTree

/-- All shapes of a tree are valid. -/
inductive Sound : ObjectTree → Prop
  | null : Sound .null
  | capability (word : ℕ) : Sound (.capability word)
  | object {shape : Shape} {content : Bytes} {children : List ObjectTree} (valid : shape.Valid)
      (child : ∀ t ∈ children, Sound t) : Sound (.object shape content children)

end ObjectTree

/-- `Laid`, with lists among the blocks that the reader rejects. -/
inductive Placed (m : Bytes) (lo hi : ℕ) : ℕ → ObjectTree → Prop
  | null {pointerWord : ℕ} (word : readLE m (8 * pointerWord) 8 = 0) :
    Placed m lo hi pointerWord .null
  | capability {pointerWord word : ℕ} (read : readLE m (8 * pointerWord) 8 = word)
    (kind : word % 4 = 3) :
      Placed m lo hi pointerWord (.capability word)
  | object {pointerWord start : ℕ} {shape : Shape} {children : List ObjectTree}
    (valid : shape.Valid) (offset : ℤ)
      (fits : OffsetFits offset) (word : readLE m (8 * pointerWord) 8 = shape.pointerWord offset)
      (target : (pointerWord : ℤ) + 1 + offset = start) (present : shape.pointerWord offset ≠ 0)
      (low : lo ≤ start ∨ shape.words = 0) (high : start + shape.words ≤ hi)
      (tagged : shape.Tagged (blockAt m shape start)) (arity : shape.slots.length = children.length)
      (child : ∀ (i slot : ℕ) (t : ObjectTree), shape.slots[i]? = some slot →
        children[i]? = some t →
        Placed m lo hi (start + slot) t) :
      Placed m lo hi pointerWord (.object shape (blank shape.slots (blockAt m shape start))
        children)
  | broken {pointerWord start w n dw pc : ℕ} (offset : ℤ) (fits : OffsetFits offset)
      (word : readLE m (8 * pointerWord) 8 = listWord offset 7 w) (long : w < 2 ^ 29)
      (target : (pointerWord : ℤ) + 1 + offset = start) (low : lo ≤ start) (high : start < hi)
      (tag : readLE m (8 * start) 8 = tagWord n dw pc)
      (counts : n < 2 ^ 30 ∧ dw < 2 ^ 16 ∧ pc < 2 ^ 16) (more : w < (dw + pc) * n) :
      Placed m lo hi pointerWord (.object (.inlineComposite w n dw pc) [] [])

namespace Placed

variable {m m' : Bytes} {lo hi pointerWord : ℕ} {t : ObjectTree}

theorem of_laid (h : Laid m lo hi pointerWord t) : Placed m lo hi pointerWord t := by
  induction h with
  | null word => exact .null word
  | capability read kind => exact .capability read kind
  | object valid offset fits word target present low high tagged arity child ih =>
    exact .object valid offset fits word target present low high tagged arity ih

theorem mono (h : Placed m lo hi pointerWord t) {lo' hi' : ℕ} (low : lo' ≤ lo) (high : hi ≤ hi') :
    Placed m lo' hi' pointerWord t := by
  induction h with
  | null word => exact .null word
  | capability read kind => exact .capability read kind
  | object valid offset fits word target present low₁ high₁ tagged arity child ih =>
    exact .object valid offset fits word target present (low₁.imp_left low.trans)
      (high₁.trans high) tagged arity ih
  | broken offset fits word long target low₁ high₁ tag counts more =>
    exact .broken offset fits word long target (low.trans low₁)
      (high₁.trans_le high) tag counts more

/-- A tree stays where it is placed under every write elsewhere. -/
theorem frame (h : Placed m lo hi pointerWord t) (agree : Agree m m' (8 * lo) (8 * hi))
    (same : readLE m' (8 * pointerWord) 8 = readLE m (8 * pointerWord) 8) :
    Placed m' lo hi pointerWord t := by
  induction h with
  | null word => exact .null (same.trans word)
  | capability read kind => exact .capability (same.trans read) kind
  | @object pointerWord start shape children valid offset fits word target present low high tagged
      arity child ih =>
    have block : blockAt m shape start = blockAt m' shape start := by
      unfold blockAt
      rcases low with low | empty
      · exact agree.slice_eq (by omega) (by omega)
      · rw [empty, Nat.mul_zero, slice_zero_right, slice_zero_right]
    rw [block]
    apply Placed.object valid offset fits (same.trans word) target present low high
      (block ▸ tagged) arity
    intro i slot t known known'
    have inside := Shape.slot_lt valid (List.mem_of_getElem? known)
    apply ih i slot t known known'
    exact (agree.readLE_eq (by omega) (by omega)).symm
  | broken offset fits word long target low high tag counts more =>
    have kept := agree.readLE_eq (Nat.mul_le_mul_left 8 low) (show 8 * _ + 8 ≤ 8 * hi by omega)
    exact .broken offset fits (same.trans word) long target low high (kept.symm.trans tag)
      counts more

theorem laid (h : Placed m lo hi pointerWord t) (sound : t.Sound) : Laid m lo hi pointerWord t := by
  induction h with
  | null word => exact .null word
  | capability read kind => exact .capability read kind
  | object valid offset fits word target present low high tagged arity child ih =>
    cases sound with
    | object _ below =>
      apply Laid.object valid offset fits word target present low high tagged arity
      exact fun i slot t known known' =>
        ih i slot t known known' (below t (List.mem_of_getElem? known'))
  | broken offset fits word long target low high tag counts more =>
    cases sound with
    | object valid below => exact absurd valid.2.2.2.2 (Nat.not_le.2 more)

/-- The pointer to a list that its tag overruns cannot be followed. -/
theorem broken_rejected {start w n dw pc : ℕ} {offset : ℤ} (fits : OffsetFits offset)
    (inside : 8 * (pointerWord + 1) ≤ m.length)
    (word : readLE m (8 * pointerWord) 8 = listWord offset 7 w) (long : w < 2 ^ 29)
    (target : (pointerWord : ℤ) + 1 + offset = start)
    (tag : readLE m (8 * start) 8 = tagWord n dw pc)
    (counts : n < 2 ^ 30 ∧ dw < 2 ^ 16 ∧ pc < 2 ^ 16) (more : w < (dw + pc) * n) :
    ((flatReader m).locate 0 pointerWord).toOption = none := by
  obtain ⟨kind, field, element, count⟩ := listWord_fields offset (show 7 < 8 by decide) long
  obtain ⟨-, elements, data, pointers⟩ := tagWord_fields counts.1 counts.2.1 counts.2.2
  have resolve := resolvePointer_near inside (by rw [word]; omega)
  have sign := signed30_offsetField fits
  have read : wordAt (flatReader m).segments 0 start = tagWord n dw pc := tag
  rw [word] at resolve
  have present : ¬ listWord offset 7 w = 0 := fun null => by
    rw [null] at kind
    cases kind
  rw [MessageReader.locate_toOption resolve, if_neg (fun null => present null.1),
    if_neg (fun bad => bad.1.1 rfl), targetOf]
  simp only [kind, field, element, count, sign, ResolvedPointer.base, target, Int.toNat_natCast,
    read, elements, data, pointers]
  rw [if_pos trivial]
  exact if_neg fun fine => Nat.not_le.2 more fine.2.2

/-- What is read has valid shapes only. -/
theorem sound_of_reads (h : Placed m lo hi pointerWord t) (below : pointerWord < hi)
    (inside : 8 * hi ≤ m.length) {t' : ObjectTree} (reads : (flatReader m).Reads 0 pointerWord t') :
    t.Sound := by
  induction h generalizing t' with
  | null => exact .null
  | capability => exact .capability _
  | @object pointerWord start shape children valid offset fits word target present low high tagged
      arity child ih =>
    have resolve := resolvePointer_near (show 8 * (pointerWord + 1) ≤ m.length by omega)
      (by rw [word]; exact pointerWord_near shape valid)
    rw [word] at resolve
    have located : (flatReader m).locate 0 pointerWord = .ok (.object shape 0 start) := by
      rw [← Fallible.toOption_eq_some, MessageReader.locate_toOption resolve,
        if_neg (fun null => present null.1), if_neg (fun bad => bad.1.1 rfl)]
      exact targetOf_pointerWord valid fits target (by omega) tagged
    cases reads with
    | null target' => cases target'.symm.trans located
    | capability target' => cases target'.symm.trans located
    | object target' arity' child' =>
      cases target'.symm.trans located
      apply ObjectTree.Sound.object valid
      intro t mem
      obtain ⟨i, low', rfl⟩ := List.mem_iff_getElem.1 mem
      have slot := List.getElem?_eq_getElem (arity ▸ low')
      have seen := List.getElem?_eq_getElem (arity' ▸ arity ▸ low')
      have short := Shape.slot_lt valid (List.mem_of_getElem? slot)
      exact ih i _ _ slot (List.getElem?_eq_getElem low') (by omega) (child' i _ _ slot seen)
  | @broken pointerWord start w n dw pc offset fits word long target low high tag counts more =>
    have rejected := broken_rejected fits (by omega) word long target tag counts more
    cases reads with
    | null found => rw [found] at rejected; cases rejected
    | capability found => rw [found] at rejected; cases rejected
    | object found => rw [found] at rejected; cases rejected

/-- The reader sees the tree that is placed, if it is one that can be read. -/
theorem reads_iff (h : Placed m lo hi pointerWord t) (below : pointerWord < hi)
    (inside : 8 * hi ≤ m.length) {t' : ObjectTree} : (flatReader m).Reads 0 pointerWord t' ↔
    t' = t ∧ t.Sound := by
  constructor
  · intro reads
    have sound := h.sound_of_reads below inside reads
    exact ⟨reads.unique ((h.laid sound).reads below inside), sound⟩
  · rintro ⟨rfl, sound⟩
    exact (h.laid sound).reads below inside

end Placed

end CapnpDeno
