import CapnpDeno.Encoding.FieldPlaces
import CapnpDeno.Encoding.TreeDecoding

/-!
# Fields of a sketch

What the decoder reads from the struct that the encoder draws in a sketch: the bits of a scalar
stand for its value, and no step of the encoder touches a bit outside of what it draws.
-/

namespace CapnpDeno

open ByteList

variable {ι : Type} {schema : Schema ι}

/-! ## Values of scalars -/

/-- The bits of a value of the type stand for it. -/
def Exact (type : TypeDescriptor ι) (value : Value) : Prop :=
  match type with
  | .primitive .void => value = .undefined
  | .primitive .bool => ∃ b, value = .bool b
  | _ => KeepsBits type value ∧ scalarOfBits type (dataByteOffset type 1)
      (plainBits type value) = value

/-- The value that the bits of a scalar with a default stand for. -/
def valueOfBits (type : TypeDescriptor ι) (mask n : ℕ) : Value :=
  match type with
  | .primitive .void => .undefined
  | .primitive .bool => .bool (n.testBit 0 != (mask != 0))
  | _ => scalarOfBits type (dataByteOffset type 1) (n ^^^ mask)

theorem asUintN_lt (w : ℕ) (n : ℤ) : asUintN w n < 256 ^ w := by
  have positive : (0 : ℤ) < (256 ^ w : ℕ) := by exact_mod_cast Nat.pos_of_ne_zero (by positivity)
  have low := Int.emod_nonneg n positive.ne'
  have high := Int.emod_lt_of_pos n positive
  unfold asUintN
  omega

theorem JsNumber.toFloat32_lt (x : JsNumber) : x.toFloat32 < 2 ^ 32 := by
  unfold toFloat32
  dsimp only
  split_ifs <;> omega

theorem plainBits_lt {type : TypeDescriptor ι} (scalar : isScalar type = true)
    (boolean : type ≠ .primitive .bool) (value : Value) :
    plainBits type value < 256 ^ dataByteOffset type 1 := by
  cases type with
  | enum => exact asUintN_lt 2 _
  | primitive kind =>
    cases kind with
    | void => cases scalar
    | bool => exact absurd rfl boolean
    | float32 => exact JsNumber.toFloat32_lt _
    | float64 => exact UInt64.toNat_lt _
    | _ => exact asUintN_lt _ _
  | struct | list | text | data | interface | anyPointer => cases scalar

theorem two_pow_scalarBits {type : TypeDescriptor ι} (scalar : isScalar type = true)
    (boolean : type ≠ .primitive .bool) : 2 ^ scalarBits type = 256 ^ dataByteOffset type 1 := by
  rw [(scalarBits_eq scalar boolean).1, Nat.pow_mul]

theorem isScalar_of_isDataType {type : TypeDescriptor ι} (data : isDataType type = true)
    (void : type ≠ .primitive .void) : isScalar type = true := by
  unfold isScalar
  split
  · exact absurd rfl void
  · exact data

theorem valueOfBits_eq {type : TypeDescriptor ι} (scalar : isScalar type = true)
    (boolean : type ≠ .primitive .bool) (mask n : ℕ) :
    valueOfBits type mask n = scalarOfBits type (dataByteOffset type 1) (n ^^^ mask) := by
  unfold valueOfBits
  split
  · cases scalar
  · exact absurd rfl boolean
  · rfl

/-- A scalar whose bits are known. -/
theorem scalarAt_eq {type : TypeDescriptor ι} (scalar : isScalar type = true) {data : Bytes}
    {offset n : ℕ} (mask : ℕ) (small : n < 2 ^ scalarBits type)
    (bits : ∀ i < scalarBits type, bitAt data (offset * scalarBits type + i) = n.testBit i) :
    scalarAt data offset type mask = valueOfBits type mask n := by
  by_cases boolean : type = .primitive .bool
  · subst boolean
    have bit := bits 0 Nat.one_pos
    rw [scalarBits, Nat.mul_one, Nat.add_zero] at bit
    show Value.bool (bitAt data offset != (mask != 0)) = _
    rw [bit]
    rfl
  · obtain ⟨width, -, place⟩ := scalarBits_eq scalar boolean
    have number : readLE data (dataByteOffset type offset) (dataByteOffset type 1) = n := by
      apply Nat.eq_of_testBit_eq
      intro i
      rw [testBit_readLE]
      by_cases low : i < 8 * dataByteOffset type 1
      · rw [decide_eq_true low, Bool.true_and, ← bits i (by rwa [width]), place, width]
        congr 1
        ring
      · rw [decide_eq_false low, Bool.false_and]
        refine (Nat.testBit_lt_two_pow (small.trans_le (Nat.pow_le_pow_right (by decide) ?_))).symm
        rw [width]
        exact not_lt.1 low
    rw [valueOfBits_eq scalar boolean]
    unfold scalarAt
    split
    · cases scalar
    · exact absurd rfl boolean
    · rw [number]

/-- Whatever a scalar is given, it is stored in its own bits. -/
theorem stores_encodeDataField {type : TypeDescriptor ι} (scalar : isScalar type = true)
    {b b' : MessageBuilder} {structWord offset mask : ℕ} {value : Value}
    (done : encodeDataField b structWord offset type value mask = .ok b') :
    ∃ bits, Stores b b' structWord offset type bits := by
  by_cases boolean : type = .primitive .bool
  · subst boolean
    by_cases masked : mask ≠ 0
    · rw [encodeDataField, if_pos masked] at done
      exact ⟨_, stores_setBool done⟩
    · rw [not_not.1 masked] at done
      exact ⟨_, stores_setBool done⟩
  · by_cases masked : mask ≠ 0
    · obtain ⟨context, masking⟩ :=
        encodeDataField_masked scalar boolean masked b structWord offset value
      rw [masking] at done
      obtain ⟨bits, -, written⟩ := Fallible.bind_eq_ok.1 done
      exact ⟨_, stores_setBytes scalar boolean written⟩
    · rw [not_not.1 masked] at done
      obtain ⟨context, plainly⟩ := encodeDataField_plain scalar boolean b structWord offset value
      rw [plainly] at done
      exact ⟨_, stores_setBytes scalar boolean done⟩

/-- The bits that are stored for an exact value stand for it. -/
theorem stores_exact {type : TypeDescriptor ι} (scalar : isScalar type = true)
    {b b' : MessageBuilder} {structWord offset mask : ℕ} {value : Value} (exact : Exact type value)
    (small : mask < 2 ^ scalarBits type)
    (done : encodeDataField b structWord offset type value mask = .ok b') :
    ∃ n < 2 ^ scalarBits type, Stores b b' structWord offset type n.testBit ∧
    valueOfBits type mask n = value := by
  by_cases boolean : type = .primitive .bool
  · subst boolean
    obtain ⟨bit, rfl⟩ := exact
    have stored : Stores b b' structWord offset (.primitive .bool : TypeDescriptor ι) fun _ =>
        bit != (mask != 0) := by
      by_cases masked : mask ≠ 0
      · rw [encodeDataField, if_pos masked] at done
        exact stores_setBool done
      · rw [not_not.1 masked] at done ⊢
        refine (stores_setBool done).congr fun _ _ => ?_
        rw [show ((0 : ℕ) != 0) = false from rfl, Bool.bne_false]
        rfl
    refine ⟨(bit != (mask != 0)).toNat, ?_, stored.congr fun i low => ?_, ?_⟩
    · exact Bool.toNat_lt _
    · obtain rfl : i = 0 := Nat.lt_one_iff.1 low
      cases bit != (mask != 0) <;> rfl
    · show Value.bool ((bit != (mask != 0)).toNat.testBit 0 != (mask != 0)) = _
      cases bit <;> cases mask != 0 <;> rfl
  · have known : KeepsBits type value ∧ scalarOfBits type (dataByteOffset type 1)
        (plainBits type value) = value := by
      unfold Exact at exact
      split at exact
      · cases scalar
      · exact absurd rfl boolean
      · exact exact
    obtain ⟨keeps, same⟩ := known
    have bound := plainBits_lt scalar boolean value
    rw [← two_pow_scalarBits scalar boolean] at bound
    refine ⟨plainBits type value ^^^ mask, Nat.xor_lt_two_pow bound small, ?_, ?_⟩
    · by_cases masked : mask ≠ 0
      · obtain ⟨context, masking⟩ :=
          encodeDataField_masked scalar boolean masked b structWord offset value
        rw [masking] at done
        obtain ⟨bits, found, written⟩ := Fallible.bind_eq_ok.1 done
        obtain ⟨bits', found', agree⟩ := dataBits_eq_ok scalar boolean keeps
        cases found.symm.trans found'
        refine (stores_setBytes scalar boolean written).congr fun i low => ?_
        rw [Nat.testBit_xor, Nat.testBit_xor, agree i low]
      · rw [not_not.1 masked] at done ⊢
        obtain ⟨context, plainly⟩ := encodeDataField_plain scalar boolean b structWord offset value
        rw [plainly] at done
        rw [Nat.xor_zero]
        exact stores_setBytes scalar boolean done
    · rw [valueOfBits_eq scalar boolean, Nat.xor_assoc, Nat.xor_self, Nat.xor_zero, same]

/-! ## Bits outside -/

/-- No bit was changed but for some bits of a struct. -/
def OutsideKept (b b' : MessageBuilder) (structWord : ℕ) (bits : Set ℕ) : Prop :=
  ∀ k, (∀ j ∈ bits, 64 * structWord + j ≠ k) → bitAt b'.bytes k = bitAt b.bytes k

namespace OutsideKept

variable {b b' b'' : MessageBuilder} {structWord : ℕ} {bits bits' : Set ℕ}

theorem refl (b : MessageBuilder) (structWord : ℕ) (bits : Set ℕ) :
    OutsideKept b b structWord bits := fun _ _ => rfl

theorem trans (h : OutsideKept b b' structWord bits) (h' : OutsideKept b' b'' structWord bits) :
    OutsideKept b b'' structWord bits := fun k free => (h' k free).trans (h k free)

theorem mono (h : OutsideKept b b' structWord bits) (sub : bits ⊆ bits') :
    OutsideKept b b' structWord bits' :=
  fun k free => h k fun j mem => free j (sub mem)

end OutsideKept

theorem slotBits_scalar {type : TypeDescriptor ι} (scalar : isScalar type = true)
    (boolean : type ≠ .primitive .bool) (dataWordCount offset mask : ℕ) :
    slotBits dataWordCount type offset mask =
      Set.Ico (8 * dataByteOffset type offset)
      (8 * dataByteOffset type offset + 8 * dataByteOffset type 1) := by
  cases type with
  | enum => rfl
  | primitive kind =>
    cases kind with
    | void => cases scalar
    | bool => exact absurd rfl boolean
    | _ => rfl
  | struct | list | text | data | interface | anyPointer => cases scalar

/-- The bits of a scalar, wherever it lies. -/
theorem mem_slotBits {type : TypeDescriptor ι} (scalar : isScalar type = true)
    {dataWordCount offset mask k : ℕ} :
    k ∈ slotBits dataWordCount type offset mask ↔
      offset * scalarBits type ≤ k ∧ k < offset * scalarBits type + scalarBits type := by
  by_cases boolean : type = .primitive .bool
  · subst boolean
    show k = offset ↔ offset * 1 ≤ k ∧ k < offset * 1 + 1
    omega
  · obtain ⟨width, -, place⟩ := scalarBits_eq scalar boolean
    rw [slotBits_scalar scalar boolean, place, width, Set.mem_Ico,
      show 8 * (offset * dataByteOffset type 1) = offset * (8 * dataByteOffset type 1) by ring]

theorem Stores.outsideKept {type : TypeDescriptor ι} (scalar : isScalar type = true)
    {b b' : MessageBuilder} {structWord offset : ℕ} {bits : ℕ → Bool}
    (h : Stores b b' structWord offset type bits) (dataWordCount mask : ℕ) :
    OutsideKept b b' structWord (slotBits dataWordCount type offset mask) := by
  intro k free
  apply h.outside
  rintro ⟨low, high⟩
  rw [scalarStart] at low high
  exact free (k - 64 * structWord) ((mem_slotBits scalar).2 (by omega)) (by omega)

/-- The discriminant is written, and nothing else. -/
theorem encodeDiscriminant_spec {b b' : MessageBuilder} {descriptor : StructDescriptor ι}
    {structWord : ℕ} {active : Option ℕ}
    (done : encodeDiscriminant b descriptor structWord active = .ok b') :
    OutsideKept b b' structWord (discriminantBits descriptor) ∧
      ∀ union d, descriptor.union = some union → active = some d → ∀ i < 16,
        bitAt b'.bytes (64 * structWord + 16 * union.discriminantOffset + i) = d.testBit i := by
  unfold encodeDiscriminant at done
  unfold discriminantBits
  cases known : descriptor.union with
  | none =>
    rw [known] at done
    cases done
    exact ⟨.refl _ _ _, by simp⟩
  | some union =>
    rw [known] at done
    cases active with
    | none =>
      cases done
      exact ⟨.refl _ _ _, by simp⟩
    | some d =>
      simp only [MessageBuilder.writeUint16, MessageBuilder.setBytes] at done
      split_ifs at done with fits
      cases done
      rw [lowBytes_natCast, length_toLE, ← b.size, WORD_BYTES] at fits
      have bits := fun k => bitAt_splice_toLE fits d k
      have place : 8 * (structWord * 8 + union.discriminantOffset * 2) =
          64 * structWord + 16 * union.discriminantOffset := by ring
      simp only [place] at bits
      have written (k : ℕ) :
          bitAt (splice b.bytes (structWord * WORD_BYTES + union.discriminantOffset * 2)
          (MessageBuilder.lowBytes 2 d)) k =
          if 64 * structWord + 16 * union.discriminantOffset ≤ k ∧
              k < 64 * structWord + 16 * union.discriminantOffset + 8 * 2 then
            d.testBit (k - (64 * structWord + 16 * union.discriminantOffset))
          else bitAt b.bytes k := by
        rw [lowBytes_natCast]
        exact bits k
      refine ⟨fun k free => (written k).trans (if_neg ?_), fun union' d' same same' i low => ?_⟩
      · rintro ⟨low, high⟩
        exact free (k - 64 * structWord) ⟨by omega, by omega⟩ (by omega)
      · cases same
        cases same'
        refine (written _).trans ?_
        rw [if_pos ⟨by omega, by omega⟩, Nat.add_sub_cancel_left]

section Frame

variable (voids : schema.VoidsPlain)
include voids

theorem outsideKept_encodeDataField {get : ι} {name : String} {offset mask structWord : ℕ}
    {type : TypeDescriptor ι} {d : Option ℕ} {value : Value} {b b' : MessageBuilder}
    (mem : .slot name offset type mask d ∈ (schema get).fields) (data : isDataType type = true)
    (done : encodeDataField b structWord offset type value mask = .ok b') :
    OutsideKept b b' structWord (slotBits (schema get).dataWordCount type offset mask) := by
  by_cases void : type = .primitive .void
  · have plain := voids get _ mem _ _ _ _ _ rfl void
    subst void
    subst plain
    cases done
    exact .refl _ _ _
  · have scalar := isScalar_of_isDataType data void
    obtain ⟨bits, stored⟩ := stores_encodeDataField scalar done
    exact stored.outsideKept scalar _ _

theorem outsideKept_drawField {draw : Sketch → ι → ℕ → Value → Except Thrown Sketch}
    (structs : ∀ s get structWord value s', draw s get structWord value = .ok s' →
      OutsideKept s.block s'.block structWord (structBits schema get))
    {get : ι} {structWord : ℕ} {s s' : Sketch} {field : FieldDescriptor ι} {fieldValue : Value}
    (mem : field ∈ (schema get).fields)
    (done : drawField schema draw (schema get) structWord s field fieldValue = .ok s') :
    OutsideKept s.block s'.block structWord {k | Occupies schema get field k} := by
  unfold drawField at done
  split at done
  · cases done
    exact .refl _ _ _
  cases field with
  | group name get' d =>
    apply (structs _ _ _ _ _ done).mono
    rintro k (bit | ⟨field, mem, bit⟩)
    · exact .discriminant bit
    · exact .member mem bit
  | slot name offset type mask d =>
    dsimp only at done
    split_ifs at done with data
    · obtain ⟨block, written, rfl⟩ := Fallible.map_eq_ok.1 done
      exact (outsideKept_encodeDataField voids mem data written).mono fun k bit => .slot bit
    · obtain ⟨t, -, rfl⟩ := Fallible.map_eq_ok.1 done
      exact .refl _ _ _

theorem outsideKept_drawStruct {stack : ℕ} {get : ι} {structWord : ℕ} {value : Value}
    {s s' : Sketch} (done : drawStruct schema stack s get structWord value = .ok s') :
    OutsideKept s.block s'.block structWord (structBits schema get) := by
  induction stack generalizing s get structWord value s' with
  | zero => cases done
  | succ stack ih =>
    obtain ⟨block, tagged, done⟩ := Fallible.bind_eq_ok.1 done
    have first : OutsideKept s.block block structWord (structBits schema get) :=
      (encodeDiscriminant_spec tagged).1.mono fun k => Or.inl
    apply first.trans
    apply Fallible.foldlM_keeps (fun t =>
      OutsideKept block t.block structWord (structBits schema get))
      (.refl _ _ _) done
    intro t field mem t' sofar next
    apply sofar.trans
    split_ifs at next
    · cases next
      exact .refl _ _ _
    · apply (outsideKept_drawField voids (fun _ _ _ _ _ => ih) mem next).mono
      exact fun k bit => .inr ⟨field, mem, bit⟩

end Frame

/-! ## Views of a sketch -/

namespace Sketch

/-- The struct at a word of an object, as the decoder sees it. -/
def view (s : Sketch) (structWord : ℕ) (descriptor : StructDescriptor ι) : StructView :=
  ⟨slice s.block.bytes (8 * structWord) (8 * descriptor.dataWordCount),
    (List.range descriptor.pointerCount).map fun i =>
      s.slots (structWord + descriptor.dataWordCount + i)⟩

variable {s : Sketch} {descriptor : StructDescriptor ι}

theorem whole_eq_view (s : Sketch) (descriptor : StructDescriptor ι) :
    StructView.whole descriptor.dataWordCount
      (blank (Shape.struct descriptor.dataWordCount descriptor.pointerCount).slots
        (slice s.block.bytes 0 (8 * (descriptor.dataWordCount + descriptor.pointerCount))))
      ((Shape.struct descriptor.dataWordCount descriptor.pointerCount).slots.map s.slots) =
        s.view 0 descriptor := by
  unfold StructView.whole view
  congr 1
  · refine @MessageReader.slice_blank_block (flatReader s.block.bytes)
      (.struct descriptor.dataWordCount descriptor.pointerCount) 0 0 0
      (8 * descriptor.dataWordCount) ?_ fun i _ low slot => ?_
    · show 0 + 8 * _ ≤ 8 * (_ + _)
      omega
    · obtain ⟨j, -, place⟩ := List.mem_map.1 slot
      omega
  · simp [Shape.slots, Function.comp_def]

theorem element_eq_view (s : Sketch) {n i : ℕ} (low : i < n) :
    StructView.element descriptor.dataWordCount descriptor.pointerCount
      (blank (Shape.inlineComposite ((descriptor.dataWordCount + descriptor.pointerCount) * n) n
        descriptor.dataWordCount descriptor.pointerCount).slots
        (slice s.block.bytes 0
          (8 * (1 + (descriptor.dataWordCount + descriptor.pointerCount) * n))))
      ((Shape.inlineComposite ((descriptor.dataWordCount + descriptor.pointerCount) * n) n
        descriptor.dataWordCount descriptor.pointerCount).slots.map s.slots) i =
      s.view (1 + i * (descriptor.dataWordCount + descriptor.pointerCount)) descriptor := by
  have step : (i + 1) * (descriptor.dataWordCount + descriptor.pointerCount) ≤
      n * (descriptor.dataWordCount + descriptor.pointerCount) := Nat.mul_le_mul_right _ low
  rw [Nat.add_mul, Nat.one_mul, Nat.mul_comm n] at step
  have count :=
    MessageReader.length_composite_slots ((descriptor.dataWordCount + descriptor.pointerCount) * n)
    n descriptor.dataWordCount descriptor.pointerCount
  have few : (i + 1) * descriptor.pointerCount ≤ n * descriptor.pointerCount :=
    Nat.mul_le_mul_right _ low
  rw [Nat.add_mul, Nat.one_mul] at few
  unfold StructView.element view
  congr 1
  · have content := @MessageReader.slice_blank_block (flatReader s.block.bytes)
      (.inlineComposite ((descriptor.dataWordCount + descriptor.pointerCount) * n) n
        descriptor.dataWordCount
        descriptor.pointerCount) 0 0
        (8 * (1 + i * (descriptor.dataWordCount + descriptor.pointerCount)))
      (8 * descriptor.dataWordCount) ?_ fun k above below slot => ?_
    · rwa [Nat.mul_zero, Nat.zero_add] at content
    · show _ ≤ 8 * (1 + (descriptor.dataWordCount + descriptor.pointerCount) * n)
      omega
    · have place : k / 8 = 1 + i * (descriptor.dataWordCount + descriptor.pointerCount) +
          (k / 8 - (1 + i * (descriptor.dataWordCount + descriptor.pointerCount))) := by omega
      rw [place] at slot
      exact MessageReader.composite_data (by omega) slot
  · apply List.ext_getElem?
    intro j
    rw [List.getElem?_take]
    split_ifs with here
    · rw [List.getElem?_drop, List.getElem?_map, MessageReader.composite_slot low here]
      simp [here]
    · simp [here]

end Sketch

end CapnpDeno
