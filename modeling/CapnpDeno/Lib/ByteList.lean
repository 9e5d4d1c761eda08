import Mathlib.Tactic

/-!
# Byte lists with little-endian fields

A memory image is a list of bytes.  `slice` cuts a field out, `splice` overwrites one in place, and
`readLE` / `writeLE` move naturals through little-endian fields of a given width.  Every update is
described twice: by what a later access to the same field sees, and by the part of the image on
which the old and the new list still agree (`Agree`).
-/

/-- A memory image. -/
abbrev Bytes := List UInt8

namespace ByteList

/-! ## Little-endian numerals -/

/-- The `w` low bytes of `n`, least significant first. -/
def toLE : ℕ → ℕ → Bytes
  | 0, _ => []
  | w + 1, n => UInt8.ofNat (n % 256) :: toLE w (n / 256)

/-- The natural written by a list of bytes, least significant first. -/
def ofLE : Bytes → ℕ
  | [] => 0
  | b :: bs => b.toNat + 256 * ofLE bs

@[simp] theorem length_toLE (w n : ℕ) : (toLE w n).length = w := by
  induction w generalizing n with
  | zero => rfl
  | succ w ih => simp only [toLE, List.length_cons, ih]

theorem ofLE_toLE (w n : ℕ) : ofLE (toLE w n) = n % 256 ^ w := by
  induction w generalizing n with
  | zero => simp only [toLE, ofLE, pow_zero, Nat.mod_one]
  | succ w ih =>
    have low : (UInt8.ofNat (n % 256)).toNat = n % 256 := by
      rw [UInt8.toNat_ofNat']
      omega
    rw [toLE, ofLE, ih, low, pow_succ', Nat.mod_mul]

theorem ofLE_lt (bs : Bytes) : ofLE bs < 256 ^ bs.length := by
  induction bs with
  | nil => exact Nat.one_pos
  | cons b bs ih =>
    have hb : b.toNat < 256 := b.toNat_lt
    rw [ofLE, List.length_cons, pow_succ]
    omega

theorem toLE_ofLE (bs : Bytes) : toLE bs.length (ofLE bs) = bs := by
  induction bs with
  | nil => rfl
  | cons b bs ih =>
    have hb : b.toNat < 256 := b.toNat_lt
    rw [List.length_cons, ofLE, toLE]
    have head : (b.toNat + 256 * ofLE bs) % 256 = b.toNat := by omega
    have tail : (b.toNat + 256 * ofLE bs) / 256 = ofLE bs := by omega
    rw [head, tail, ih, UInt8.ofNat_toNat]

theorem toLE_mod (w n : ℕ) : toLE w (n % 256 ^ w) = toLE w n := by
  have h := toLE_ofLE (toLE w n)
  rwa [length_toLE, ofLE_toLE] at h

@[simp] theorem ofLE_replicate_zero (n : ℕ) : ofLE (List.replicate n 0) = 0 := by
  induction n with
  | zero => rfl
  | succ n ih => simp only [List.replicate_succ, ofLE, ih]; rfl

@[simp] theorem toLE_zero_right (w : ℕ) : toLE w 0 = List.replicate w 0 := by
  induction w with
  | zero => rfl
  | succ w ih => simp only [toLE, List.replicate_succ, Nat.zero_mod, Nat.zero_div, ih]; rfl

/-! ## Slices -/

/-- The `n` bytes of `m` from `off` on. -/
def slice (m : Bytes) (off n : ℕ) : Bytes := (m.drop off).take n

theorem getElem?_slice (m : Bytes) (off n i : ℕ) :
    (slice m off n)[i]? = if i < n then m[off + i]? else none := by
  simp only [slice, List.getElem?_take, List.getElem?_drop]

theorem length_slice {m : Bytes} {off n : ℕ} (fits : off + n ≤ m.length) :
    (slice m off n).length = n := by
  simp only [slice, List.length_take, List.length_drop]
  omega

@[simp] theorem slice_zero_right (m : Bytes) (off : ℕ) : slice m off 0 = [] := by
  simp [slice]

@[simp] theorem slice_self (m : Bytes) : slice m 0 m.length = m := by
  simp [slice]

theorem slice_slice {m : Bytes} {off n off' n' : ℕ} (fits : off' + n' ≤ n) :
    slice (slice m off n) off' n' = slice m (off + off') n' := by
  apply List.ext_getElem?
  intro i
  simp only [getElem?_slice]
  split_ifs with h₁ h₂
  · rw [Nat.add_assoc]
  · omega
  · rfl

theorem slice_append_slice (m : Bytes) (off n k : ℕ) :
    slice m off (n + k) = slice m off n ++ slice m (off + n) k := by
  simp only [slice, List.take_add, List.drop_drop]

theorem slice_append_left {m x : Bytes} {off n : ℕ} (fits : off + n ≤ m.length) :
    slice (m ++ x) off n = slice m off n := by
  apply List.ext_getElem?
  intro i
  simp only [getElem?_slice]
  split_ifs with h
  · rw [List.getElem?_append_left (by omega)]
  · rfl

theorem slice_append_right {m x : Bytes} {off n : ℕ} (after : m.length ≤ off) :
    slice (m ++ x) off n = slice x (off - m.length) n := by
  apply List.ext_getElem?
  intro i
  simp only [getElem?_slice]
  split_ifs with h
  · rw [List.getElem?_append_right (by omega)]
    congr 1
    omega
  · rfl

theorem slice_middle (p x q : Bytes) : slice (p ++ x ++ q) p.length x.length = x := by
  simp [slice]

/-! ## Splices -/

/-- `m` with the bytes from `off` on overwritten by `xs`. -/
def splice (m : Bytes) (off : ℕ) (xs : Bytes) : Bytes :=
  m.take off ++ xs ++ m.drop (off + xs.length)

@[simp] theorem length_splice {m xs : Bytes} {off : ℕ} (fits : off + xs.length ≤ m.length) :
    (splice m off xs).length = m.length := by
  simp only [splice, List.length_append, List.length_take, List.length_drop]
  omega

theorem getElem?_splice {m xs : Bytes} {off : ℕ} (fits : off + xs.length ≤ m.length) (i : ℕ) :
    (splice m off xs)[i]? = if off ≤ i ∧ i < off + xs.length then xs[i - off]? else m[i]? := by
  have taken : (m.take off).length = off := by
    rw [List.length_take]
    omega
  unfold splice
  rw [List.append_assoc]
  by_cases before : i < off
  · rw [List.getElem?_append_left (by omega), List.getElem?_take, if_pos before, if_neg (by omega)]
  · rw [List.getElem?_append_right (by omega), taken]
    by_cases inside : i < off + xs.length
    · rw [List.getElem?_append_left (by omega), if_pos (by omega)]
    · rw [List.getElem?_append_right (by omega), List.getElem?_drop, if_neg (by omega)]
      congr 1
      omega

@[simp] theorem splice_nil (m : Bytes) (off : ℕ) : splice m off [] = m := by
  simp [splice]

/-- Two adjacent splices are one. -/
theorem splice_splice_next {m xs ys : Bytes} {off : ℕ}
    (fits : off + xs.length + ys.length ≤ m.length) :
    splice (splice m off xs) (off + xs.length) ys = splice m off (xs ++ ys) := by
  apply List.ext_getElem?
  intro i
  have inner : off + xs.length ≤ m.length := by omega
  rw [getElem?_splice (by rwa [length_splice inner]), getElem?_splice inner,
    getElem?_splice (by rw [List.length_append]; omega), List.length_append]
  by_cases before : i < off + xs.length
  · rw [if_neg (by omega)]
    by_cases inside : off ≤ i
    · rw [if_pos ⟨inside, before⟩, if_pos ⟨inside, by omega⟩,
        List.getElem?_append_left (by omega)]
    · rw [if_neg (by omega), if_neg (by omega)]
  · by_cases inside : i < off + xs.length + ys.length
    · rw [if_pos ⟨by omega, inside⟩, if_pos ⟨by omega, by omega⟩,
        List.getElem?_append_right (by omega)]
      congr 1
      omega
    · rw [if_neg (by omega), if_neg (by omega), if_neg (by omega)]

/-! ## Agreement -/

/-- The two images hold the same bytes at the addresses from `lo` up to `hi`. -/
def Agree (m m' : Bytes) (lo hi : ℕ) : Prop := ∀ i, lo ≤ i → i < hi → m[i]? = m'[i]?

theorem Agree.refl (m : Bytes) (lo hi : ℕ) : Agree m m lo hi := fun _ _ _ => rfl

theorem Agree.trans {m m' m'' : Bytes} {lo hi : ℕ} (h : Agree m m' lo hi)
    (h' : Agree m' m'' lo hi) : Agree m m'' lo hi :=
  fun i low high => (h i low high).trans (h' i low high)

theorem Agree.mono {m m' : Bytes} {lo hi lo' hi' : ℕ} (h : Agree m m' lo hi) (low : lo ≤ lo')
    (high : hi' ≤ hi) : Agree m m' lo' hi' :=
  fun i hl hh => h i (low.trans hl) (hh.trans_le high)

theorem agree_append (m x : Bytes) (lo : ℕ) : Agree m (m ++ x) lo m.length :=
  fun _ _ high => (List.getElem?_append_left high).symm

theorem agree_splice {m xs : Bytes} {off lo hi : ℕ} (fits : off + xs.length ≤ m.length)
    (apart : hi ≤ off ∨ off + xs.length ≤ lo) : Agree m (splice m off xs) lo hi := by
  intro i low high
  rw [getElem?_splice fits, if_neg (by omega)]

theorem Agree.slice_eq {m m' : Bytes} {lo hi off n : ℕ} (h : Agree m m' lo hi) (low : lo ≤ off)
    (high : off + n ≤ hi) : slice m off n = slice m' off n := by
  apply List.ext_getElem?
  intro i
  simp only [getElem?_slice]
  split_ifs with hi'
  · exact h _ (by omega) (by omega)
  · rfl

theorem agree_of_slice_eq {m m' : Bytes} {off n : ℕ} (h : slice m off n = slice m' off n) :
    Agree m m' off (off + n) := by
  intro i low high
  have hi := congrArg (·[i - off]?) h
  simp only [getElem?_slice, if_pos (show i - off < n by omega),
    Nat.add_sub_cancel' low] at hi
  exact hi

theorem slice_splice_self {m xs : Bytes} {off : ℕ} (fits : off + xs.length ≤ m.length) :
    slice (splice m off xs) off xs.length = xs := by
  apply List.ext_getElem?
  intro i
  rw [getElem?_slice, getElem?_splice fits]
  split_ifs with h₁ h₂
  · rw [Nat.add_sub_cancel_left]
  · omega
  · exact (List.getElem?_eq_none (by omega)).symm

theorem slice_splice_of_apart {m xs : Bytes} {off off' n : ℕ} (fits : off + xs.length ≤ m.length)
    (apart : off' + n ≤ off ∨ off + xs.length ≤ off') :
    slice (splice m off xs) off' n = slice m off' n :=
  ((agree_splice fits apart).slice_eq le_rfl le_rfl).symm

/-! ## Little-endian fields -/

/-- The natural in the `w` bytes at `off`. -/
def readLE (m : Bytes) (off w : ℕ) : ℕ := ofLE (slice m off w)

/-- `m` with the low `w` bytes of `v` written at `off`. -/
def writeLE (m : Bytes) (off w v : ℕ) : Bytes := splice m off (toLE w v)

@[simp] theorem length_writeLE {m : Bytes} {off w v : ℕ} (fits : off + w ≤ m.length) :
    (writeLE m off w v).length = m.length := by
  apply length_splice
  rwa [length_toLE]

theorem readLE_lt (m : Bytes) (off w : ℕ) : readLE m off w < 256 ^ w := by
  refine (ofLE_lt _).trans_le (Nat.pow_le_pow_right (by decide) ?_)
  simp only [slice, List.length_take]
  omega

theorem readLE_writeLE_self {m : Bytes} {off w v : ℕ} (fits : off + w ≤ m.length) :
    readLE (writeLE m off w v) off w = v % 256 ^ w := by
  have written : slice (splice m off (toLE w v)) off (toLE w v).length = toLE w v :=
    slice_splice_self (by rwa [length_toLE])
  rw [length_toLE] at written
  rw [readLE, writeLE, written, ofLE_toLE]

theorem agree_writeLE {m : Bytes} {off w v lo hi : ℕ} (fits : off + w ≤ m.length)
    (apart : hi ≤ off ∨ off + w ≤ lo) : Agree m (writeLE m off w v) lo hi := by
  apply agree_splice <;> rw [length_toLE] <;> assumption

theorem Agree.readLE_eq {m m' : Bytes} {lo hi off w : ℕ} (h : Agree m m' lo hi) (low : lo ≤ off)
    (high : off + w ≤ hi) : readLE m off w = readLE m' off w := by
  rw [readLE, readLE, h.slice_eq low high]

theorem readLE_middle (p q : Bytes) (w v : ℕ) :
    readLE (p ++ toLE w v ++ q) p.length w = v % 256 ^ w := by
  have window := slice_middle p (toLE w v) q
  rw [length_toLE] at window
  rw [readLE, window, ofLE_toLE]

theorem readLE_append_left {m x : Bytes} {off w : ℕ} (fits : off + w ≤ m.length) :
    readLE (m ++ x) off w = readLE m off w := by
  rw [readLE, slice_append_left fits, readLE]

theorem readLE_slice {m : Bytes} {off n off' w : ℕ} (fits : off' + w ≤ n) :
    readLE (slice m off n) off' w = readLE m (off + off') w := by
  rw [readLE, slice_slice fits, readLE]

/-- Writing back the natural that a field holds changes nothing. -/
theorem toLE_readLE {m : Bytes} {off w : ℕ} (fits : off + w ≤ m.length) :
    toLE w (readLE m off w) = slice m off w := by
  have h := toLE_ofLE (slice m off w)
  rwa [length_slice fits] at h

theorem slice_replicate_zero {n off w : ℕ} (fits : off + w ≤ n) :
    slice (List.replicate n 0) off w = List.replicate w 0 := by
  simp only [slice, List.drop_replicate, List.take_replicate]
  congr 1
  omega

theorem readLE_replicate_zero {n off w : ℕ} (fits : off + w ≤ n) :
    readLE (List.replicate n 0) off w = 0 := by
  rw [readLE, slice_replicate_zero fits, ofLE_replicate_zero]

end ByteList
