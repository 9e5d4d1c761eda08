import CapnpDeno.Encoding.DataSection
import CapnpDeno.Encoding.EncodeFrame
import CapnpDeno.Lib.ByteBits

/-!
# Scalars with a default

A scalar is stored XORed with its schema default.  `encodeDataField` and `decodeDataField` do so in
a switch of their own, which converts the value in its own way: here the bits of both paths are
compared, for every scalar type.
-/

namespace CapnpDeno

open ByteList MessageReader

variable {ι : Type}

/-! ## The field of a scalar -/

/-- A scalar has bits in the data section. -/
def isScalar : TypeDescriptor ι → Bool
  | .primitive .void => false
  | type => isDataType type

/-- The width of a scalar in bits. -/
def scalarBits : TypeDescriptor ι → ℕ
  | .primitive .bool => 1
  | type => 8 * dataByteOffset type 1

/-- The first bit of a scalar whose struct is at `structWord` of a segment. -/
def scalarStart (structWord : ℕ) (type : TypeDescriptor ι) (offset : ℕ) : ℕ :=
  64 * structWord + offset * scalarBits type

/-- The byte behind a scalar. -/
def scalarEnd (type : TypeDescriptor ι) (offset : ℕ) : ℕ :=
  match type with
  | .primitive .void => offset
  | .primitive .bool => offset / 8 + 1
  | _ => dataByteOffset type offset + dataByteOffset type 1

/-- A scalar behind the data section keeps its default. -/
theorem decodeField_scalar {createDefault : ι → Except Thrown Record}
    {decodeStruct : ι → StructRef → Except Thrown Record} {r : MessageReader}
    {structRef : StructRef} (name : String) {offset : ℕ} {type : TypeDescriptor ι}
    (scalar : isDataType type = true) (defaultMask : ℕ) (discriminantValue : Option ℕ) :
    decodeField createDefault decodeStruct r structRef
      (.slot name offset type defaultMask discriminantValue) =
      if scalarEnd type offset > structRef.dataWordCount * WORD_BYTES then pure none
      else some <$> decodeDataField r structRef offset type defaultMask := by
  cases type with
  | primitive kind => cases kind <;> rfl
  | enum => rfl
  | struct | list | text | data | interface | anyPointer => cases scalar

/-- A segment was left as it was but for the bits of a scalar, and these are `bits`. -/
structure Stores (b b' : MessageBuilder) (structWord offset : ℕ) (type : TypeDescriptor ι)
    (bits : ℕ → Bool) :
    Prop where
  words : b'.words = b.words
  inside : ∀ i < scalarBits type, bitAt b'.bytes (scalarStart structWord type offset + i) = bits i
  outside : ∀ k, ¬ (scalarStart structWord type offset ≤ k ∧
    k < scalarStart structWord type offset + scalarBits type) →
    bitAt b'.bytes k = bitAt b.bytes k

/-! ## The bits of a value -/

/-- The bits that a scalar other than a boolean leaves in its field. -/
def plainBits (type : TypeDescriptor ι) (value : Value) : ℕ :=
  match type with
  | .primitive .float32 => (asNumber value).toFloat32
  | .primitive .float64 => (asNumber value).bits.toNat
  | .enum _ toOrdinal => asUintN 2 (enumOrdinal toOrdinal value)
  | .primitive .int64 | .primitive .uint64 => asUintN 8 (asBigInt value)
  | type => asUintN (dataByteOffset type 1) (asNumber value).trunc

/-- The conversions of both paths agree: an integer of at most 32 bits is no fraction, a float is
finite. -/
def KeepsBits (type : TypeDescriptor ι) (value : Value) : Prop :=
  match type, value with
  | .primitive .float32, .number x | .primitive .float64, .number x => x.isFinite = true
  | .primitive .int8, .number x | .primitive .int16, .number x | .primitive .int32, .number x
  | .primitive .uint8, .number x | .primitive .uint16, .number x | .primitive .uint32, .number x =>
    x.isFinite = true → x.isInteger = true
  | _, _ => True

theorem bigIntOfNumber_asNumber {value : Value}
    (whole : ∀ x, value = .number x → x.isFinite = true → x.isInteger = true) :
    bigIntOfNumber (asNumber value) = .ok (asNumber value).trunc := by
  have zero : bigIntOfNumber .zero = .ok JsNumber.zero.trunc := by decide +kernel
  cases value with
  | number x =>
    by_cases finite : x.isFinite = true
    · rw [asNumber, if_pos finite, bigIntOfNumber, if_pos (whole x rfl finite)]
      rfl
    · rw [asNumber, if_neg finite, zero]
  | _ => exact zero

theorem bigIntOfNumber_fraction {x : JsNumber}
    (fraction : ¬ (x.isFinite = true → x.isInteger = true)) :
    ∃ e, bigIntOfNumber (asNumber (.number x)) = .error e := by
  obtain ⟨finite, part⟩ := Classical.not_imp.1 fraction
  rw [asNumber, if_pos finite, bigIntOfNumber, if_neg part]
  exact ⟨_, rfl⟩

/-- The high bit of the exponent is set in the single-precision pattern of a number that is not
finite. -/
theorem testBit_toFloat32 {x : JsNumber} (special : ¬ x.isFinite = true) :
    x.toFloat32.testBit 30 = true := by
  rw [JsNumber.toFloat32, if_neg special]
  split_ifs <;> decide

theorem testBit_bits {x : JsNumber} (special : ¬ x.isFinite = true) :
    x.bits.toNat.testBit 62 = true := by
  have exponent : x.bits.toNat / 2 ^ 52 % 2048 = 2047 := by
    rw [JsNumber.isFinite, decide_eq_true_iff, not_not] at special
    exact special
  have bit := congrArg (Nat.testBit · 10) exponent
  rw [show 2048 = 2 ^ 11 from rfl] at bit
  rw [Nat.testBit_mod_two_pow, Nat.testBit_div_two_pow] at bit
  exact bit

theorem testBit_asUintN {w n i : ℕ} (low : i < 8 * w) : (asUintN w n).testBit i = n.testBit i := by
  have bits : asUintN w n = n % 2 ^ (8 * w) := by
    rw [asUintN, ← Int.natCast_emod, Int.toNat_natCast, Nat.pow_mul]
  rw [bits, Nat.testBit_mod_two_pow, decide_eq_true low, Bool.true_and]

/-- The conversion for the mask finds the bits that the plain path writes. -/
theorem dataBits_eq_ok {type : TypeDescriptor ι} (scalar : isScalar type = true)
    (boolean : type ≠ .primitive .bool) {value : Value} (keeps : KeepsBits type value) :
    ∃ bits, dataBits type value = .ok bits ∧
      ∀ i < scalarBits type, (asUintN (dataByteOffset type 1) bits).testBit i =
        (plainBits type value).testBit i := by
  have finite {value : Value} (all : ∀ x, value = .number x → x.isFinite = true) :
      numericValue value = asNumber value := by
    cases value with
    | number x => exact (if_pos (all x rfl)).symm
    | _ => rfl
  cases type with
  | enum byOrdinal toOrdinal => exact ⟨_, rfl, fun _ _ => rfl⟩
  | primitive kind =>
    cases kind with
    | void => cases scalar
    | bool => exact absurd rfl boolean
    | int64 => exact ⟨_, rfl, fun _ _ => rfl⟩
    | uint64 => exact ⟨_, rfl, fun _ _ => rfl⟩
    | float32 =>
      refine ⟨_, rfl, fun i low => (testBit_asUintN low).trans ?_⟩
      rw [plainBits, finite fun x number => by subst number; exact keeps]
    | float64 =>
      refine ⟨_, rfl, fun i low => (testBit_asUintN low).trans ?_⟩
      rw [plainBits, finite fun x number => by subst number; exact keeps]
    | _ =>
      exact ⟨_, bigIntOfNumber_asNumber fun x number => by
        subst number; exact keeps, fun _ _ => rfl⟩
  | _ => cases scalar

/-- Where the conversions differ, the one for the mask fails or finds a bit that the plain path does
not write. -/
theorem dataBits_differ {type : TypeDescriptor ι} {value : Value} (differ : ¬ KeepsBits type value)
    {bits : ℤ} (found : dataBits type value = .ok bits) : ∃ i < scalarBits type,
      (asUintN (dataByteOffset type 1) bits).testBit i ≠ (plainBits type value).testBit i := by
  cases value with
  | number x =>
    cases type with
    | primitive kind =>
      cases kind with
      | float32 =>
        cases found
        have special : ¬ x.isFinite = true := differ
        have place : 30 < 8 * 4 := by decide
        refine ⟨30, place, ?_⟩
        rw [plainBits, asNumber, if_neg special]
        exact ((testBit_asUintN place).trans (testBit_toFloat32 special)).trans_ne
          (by decide +kernel)
      | float64 =>
        cases found
        have special : ¬ x.isFinite = true := differ
        have place : 62 < 8 * 8 := by decide
        refine ⟨62, place, ?_⟩
        rw [plainBits, asNumber, if_neg special]
        exact ((testBit_asUintN place).trans (testBit_bits special)).trans_ne (by decide)
      | void => exact absurd trivial differ
      | bool => exact absurd trivial differ
      | int64 => exact absurd trivial differ
      | uint64 => exact absurd trivial differ
      | _ =>
        obtain ⟨e, failed⟩ := bigIntOfNumber_fraction differ
        cases failed.symm.trans found
    | _ => exact absurd trivial differ
  | _ =>
    refine absurd ?_ differ
    unfold KeepsBits
    split <;> trivial

/-! ## Encoding -/

/-- Every scalar but a boolean takes whole bytes. -/
theorem scalarBits_eq {type : TypeDescriptor ι} (scalar : isScalar type = true)
    (boolean : type ≠ .primitive .bool) :
    scalarBits type = 8 * dataByteOffset type 1 ∧
      dataByteOffset type 1 ∈ [1, 2, 4, 8] ∧ ∀ offset, dataByteOffset type offset =
        offset * dataByteOffset type 1 := by
  cases type with
  | enum byOrdinal toOrdinal => exact ⟨rfl, by simp [dataByteOffset], fun _ => rfl⟩
  | primitive kind =>
    cases kind with
    | void => cases scalar
    | bool => exact absurd rfl boolean
    | int8 => exact ⟨rfl, by simp [dataByteOffset], fun offset => offset.mul_one.symm⟩
    | uint8 => exact ⟨rfl, by simp [dataByteOffset], fun offset => offset.mul_one.symm⟩
    | _ => exact ⟨rfl, by simp [dataByteOffset], fun _ => rfl⟩
  | _ => cases scalar

theorem scalarStart_eq {type : TypeDescriptor ι} (scalar : isScalar type = true)
    (boolean : type ≠ .primitive .bool) (structWord offset : ℕ) :
    8 * (structWord * WORD_BYTES + dataByteOffset type offset) =
      scalarStart structWord type offset := by
  obtain ⟨width, -, place⟩ := scalarBits_eq scalar boolean
  rw [scalarStart, width, place, WORD_BYTES]
  ring

theorem stores_setBytes {type : TypeDescriptor ι} (scalar : isScalar type = true)
    (boolean : type ≠ .primitive .bool) {b b' : MessageBuilder} {structWord offset n : ℕ}
    {context : String} (done : b.setBytes (structWord * WORD_BYTES + dataByteOffset type offset)
      (toLE (dataByteOffset type 1) n) context =
      .ok b') : Stores b b' structWord offset type n.testBit := by
  unfold MessageBuilder.setBytes at done
  split_ifs at done with fits
  cases done
  rw [length_toLE, ← b.size] at fits
  have bits := bitAt_splice_toLE fits n
  rw [scalarStart_eq scalar boolean, ← (scalarBits_eq scalar boolean).1] at bits
  refine ⟨rfl, fun i low => ?_, fun k apart => ?_⟩
  · refine (bits _).trans ?_
    rw [if_pos ⟨Nat.le_add_right _ _, by omega⟩, Nat.add_sub_cancel_left]
  · exact (bits k).trans (if_neg apart)

theorem testBit_withBit (current bitOffset i : ℕ) (value : Bool) (low : i < 8) :
    (MessageBuilder.withBit current bitOffset value).testBit i =
      if i = bitOffset then value else current.testBit i := by
  have full : (0xff : ℕ).testBit i = true := by
    rw [show (0xff : ℕ) = 2 ^ 8 - 1 from rfl, Nat.testBit_two_pow_sub_one, decide_eq_true low]
  unfold MessageBuilder.withBit
  cases value with
  | true =>
    rw [if_pos rfl, BitField.testBit_or_bit]
    by_cases here : i = bitOffset
    · rw [if_pos here, decide_eq_true here.symm, Bool.true_or]
    · rw [if_neg here, decide_eq_false (Ne.symm here), Bool.false_or]
  | false =>
    rw [if_neg (by decide), Nat.testBit_and, Nat.testBit_xor, full, Nat.one_shiftLeft,
      Nat.testBit_two_pow]
    by_cases here : i = bitOffset
    · rw [if_pos here, decide_eq_true here.symm, Bool.xor_self, Bool.and_false]
    · rw [if_neg here, decide_eq_false (Ne.symm here), Bool.xor_false, Bool.and_true]

/-- The byte of a bit is written back with its other bits as they were. -/
theorem bitAt_withBit {m : Bytes} {place : ℕ} (fits : place + 1 ≤ m.length) {bitOffset : ℕ}
    (low : bitOffset < 8) (value : Bool) (k : ℕ) :
    bitAt (splice m place (toLE 1 (MessageBuilder.withBit (readLE m place 1) bitOffset value))) k =
      if k = 8 * place + bitOffset then value else bitAt m k := by
  rw [bitAt_splice_toLE fits]
  by_cases inside : 8 * place ≤ k ∧ k < 8 * place + 8 * 1
  · rw [if_pos inside, testBit_withBit _ _ _ _ (by omega), testBit_readLE,
      decide_eq_true (by omega), Bool.true_and,
      Nat.add_sub_cancel' inside.1]
    exact if_congr (by omega) rfl rfl
  · rw [if_neg inside, if_neg (by omega)]

theorem stores_setBool {b b' : MessageBuilder} {structWord offset : ℕ} {value : Bool}
    (done : b.setBool (structWord * WORD_BYTES + offset / 8) (offset % 8) value = .ok b') :
    Stores b b' structWord offset (.primitive .bool : TypeDescriptor ι) fun _ => value := by
  unfold MessageBuilder.setBool MessageBuilder.setBytes at done
  split_ifs at done with fits
  cases done
  rw [length_toLE, ← b.size] at fits
  have bits := bitAt_withBit fits (Nat.mod_lt offset (by decide)) value
  have start : scalarStart structWord (.primitive .bool : TypeDescriptor ι) offset =
      8 * (structWord * WORD_BYTES + offset / 8) + offset % 8 := by
    rw [scalarStart, scalarBits, WORD_BYTES]
    omega
  refine ⟨rfl, fun i low => ?_, fun k apart => ?_⟩
  · obtain rfl : i = 0 := Nat.lt_one_iff.1 low
    exact (bits _).trans (if_pos start)
  · refine (bits k).trans (if_neg fun here => apart ?_)
    rw [start, scalarBits]
    omega

theorem lowBytes_natCast (w n : ℕ) : MessageBuilder.lowBytes w n = toLE w n := by
  rw [MessageBuilder.lowBytes, ← Int.natCast_emod, Int.toNat_natCast, toLE_mod]

/-- The path without a mask writes the plain bits. -/
theorem encodeDataField_plain {type : TypeDescriptor ι} (scalar : isScalar type = true)
    (boolean : type ≠ .primitive .bool) (b : MessageBuilder) (structWord offset : ℕ)
    (value : Value) :
    ∃ context, encodeDataField b structWord offset type value 0 =
      b.setBytes (structWord * WORD_BYTES + dataByteOffset type offset)
        (toLE (dataByteOffset type 1) (plainBits type value)) context := by
  cases type with
  | enum byOrdinal toOrdinal => exact ⟨_, rfl⟩
  | primitive kind =>
    cases kind with
    | void => cases scalar
    | bool => exact absurd rfl boolean
    | _ => exact ⟨_, rfl⟩
  | _ => cases scalar

/-- The path with a mask writes the bits that it finds in the value, with the mask XORed into
them. -/
theorem encodeDataField_masked {type : TypeDescriptor ι} (scalar : isScalar type = true)
    (boolean : type ≠ .primitive .bool) {m : ℕ} (nonzero : m ≠ 0) (b : MessageBuilder)
    (structWord offset : ℕ) (value : Value) :
    ∃ context, encodeDataField b structWord offset type value m = dataBits type value >>=
      fun bits =>
      b.setBytes (structWord * WORD_BYTES + dataByteOffset type offset)
        (toLE (dataByteOffset type 1) (asUintN (dataByteOffset type 1) bits ^^^ m)) context := by
  simp only [encodeDataField, if_pos nonzero, encodeDataWithDefault]
  cases type with
  | enum byOrdinal toOrdinal =>
    exact ⟨_, bind_congr fun bits => congrArg (b.setBytes _ · _) (lowBytes_natCast _ _)⟩
  | primitive kind =>
    cases kind with
    | void => cases scalar
    | bool => exact absurd rfl boolean
    | _ => exact ⟨_, bind_congr fun bits => congrArg (b.setBytes _ · _) (lowBytes_natCast _ _)⟩
  | _ => cases scalar

/-! ## Decoding -/

theorem decide_and_bit (n i : ℕ) : decide (n &&& 1 <<< i ≠ 0) = n.testBit i := by
  rw [Nat.one_shiftLeft, Nat.and_two_pow]
  cases n.testBit i <;> simp

/-- What a boolean field reads, whether it has a mask or not. -/
theorem decodeDataField_bool {r : MessageReader} {ref : StructRef}
    (known : inRange r.segments ref.segmentId ref.startWord (ref.dataWordCount + ref.pointerCount) =
      true) {offset : ℕ}
    (fits : offset < 64 * ref.dataWordCount) (m : ℕ) :
    decodeDataField r ref offset (.primitive .bool : TypeDescriptor ι) m =
      .ok (.bool (bitAt (segmentBytes r ref.segmentId)
        (64 * ref.startWord + offset) != (m != 0))) := by
  obtain ⟨bytes, found, -, high⟩ := inRange_iff.1 known
  have long : 8 * (ref.startWord + ref.dataWordCount) ≤ (segmentBytes r ref.segmentId).length := by
    rw [segmentBytes, found, Option.getD_some]
    omega
  have read : r.readUint8InStruct ref (offset / 8) =
      .ok (readLE (segmentBytes r ref.segmentId) (8 * ref.startWord + offset / 8) 1) :=
    (inStruct_readUintAt_eq_ok known).2 ⟨by omega, by omega, rfl⟩
  have place : 8 * (8 * ref.startWord + offset / 8) + offset % 8 = 64 * ref.startWord + offset := by
    omega
  have bit : r.readBool ref offset = .ok (bitAt (segmentBytes r ref.segmentId)
      (64 * ref.startWord + offset)) := by
    rw [readBool, read, Fallible.ok_bind, ← place, Fallible.pure_eq_ok, decide_and_bit,
      testBit_readLE, decide_eq_true (show offset % 8 < 8 * 1 by omega), Bool.true_and]
  by_cases masked : m ≠ 0
  · rw [decodeDataField, if_pos masked, decodeDataWithDefault, bit, (bne_iff_ne ..).2 masked]
    rfl
  · rw [not_not.1 masked]
    refine (congrArg (_ <$> ·) bit).trans ?_
    rw [show ((0 : ℕ) != 0) = false from rfl, Bool.bne_false]
    rfl

theorem toSigned_eq_asIntN {w n : ℕ} (small : n < 256 ^ w) : toSigned w n = asIntN w n := by
  rw [asIntN, Nat.mod_eq_of_lt small]

theorem ofNat_eq_ofInt (n : ℕ) : JsNumber.ofNat n = .ofInt n := by
  rw [JsNumber.ofInt, if_neg (by omega), Int.natAbs_natCast]

/-- What any other scalar reads: its bits, with the mask XORed into them. -/
theorem decodeDataField_eq {type : TypeDescriptor ι} (scalar : isScalar type = true)
    (boolean : type ≠ .primitive .bool) {r : MessageReader} {ref : StructRef}
    (known : inRange r.segments ref.segmentId ref.startWord (ref.dataWordCount + ref.pointerCount) =
      true) {offset : ℕ}
    (fits : dataByteOffset type offset + dataByteOffset type 1 ≤ 8 * ref.dataWordCount) (m : ℕ) :
    decodeDataField r ref offset type m = .ok (scalarOfBits type (dataByteOffset type 1)
      (readLE (segmentBytes r ref.segmentId) (8 * ref.startWord + dataByteOffset type offset)
        (dataByteOffset type 1) ^^^ m)) := by
  obtain ⟨bytes, found, -, high⟩ := inRange_iff.1 known
  obtain ⟨-, width, place⟩ := scalarBits_eq scalar boolean
  have long : 8 * (ref.startWord + ref.dataWordCount) ≤ (segmentBytes r ref.segmentId).length := by
    rw [segmentBytes, found, Option.getD_some]
    omega
  have aligned : dataByteOffset type offset % 8 + dataByteOffset type 1 ≤ 8 := by
    rw [place]
    simp only [List.mem_cons, List.not_mem_nil, or_false] at width
    obtain one | two | four | eight := width
    · rw [one]
      omega
    · rw [two]
      omega
    · rw [four]
      omega
    · rw [eight]
      omega
  have read (context : String) := (@inStruct_readUintAt_eq_ok r ref known (dataByteOffset type 1)
    (dataByteOffset type offset) _ context).2 ⟨by omega, by omega, rfl⟩
  have small := readLE_lt (segmentBytes r ref.segmentId)
    (8 * ref.startWord + dataByteOffset type offset)
    (dataByteOffset type 1)
  generalize readLE (segmentBytes r ref.segmentId) (8 * ref.startWord + dataByteOffset type offset)
    (dataByteOffset type 1) = n at read small ⊢
  by_cases masked : m ≠ 0
  · simp only [decodeDataField, if_pos masked, decodeDataWithDefault]
    cases type with
    | enum byOrdinal toOrdinal => exact congrArg (· >>= _) (read _)
    | primitive kind =>
      cases kind with
      | void => cases scalar
      | bool => exact absurd rfl boolean
      | _ => exact congrArg (· >>= _) (read _)
    | _ => cases scalar
  · rw [not_not.1 masked, Nat.xor_zero]
    cases type with
    | enum byOrdinal toOrdinal => exact congrArg (_ <$> ·) (read _)
    | primitive kind =>
      cases kind with
      | void => cases scalar
      | bool => exact absurd rfl boolean
      | uint64 =>
        exact congrArg (fun bits => Value.bigint <$> (bits >>= fun n : ℕ => pure (n : ℤ))) (read _)
      | float64 => exact congrArg (_ <$> _ <$> ·) (read _)
      | float32 =>
        refine (congrArg (_ <$> _ <$> ·) (read _)).trans ?_
        exact congrArg (fun bits => Except.ok (Value.number (.ofFloat32 bits)))
          (Nat.mod_eq_of_lt small).symm
      | int64 =>
        refine (congrArg (_ <$> _ <$> ·) (read _)).trans ?_
        exact congrArg (fun i => Except.ok (Value.bigint i)) (toSigned_eq_asIntN small)
      | int8 | int16 | int32 =>
        refine (congrArg (_ <$> _ <$> ·) (read _)).trans ?_
        exact congrArg (fun i => Except.ok (Value.number (.ofInt i))) (toSigned_eq_asIntN small)
      | uint8 | uint16 | uint32 =>
        refine (congrArg (_ <$> ·) (read _)).trans ?_
        exact congrArg (fun x => Except.ok (Value.number x)) (ofNat_eq_ofInt n)
    | _ => cases scalar

/-! ## Both paths -/

/-- The path with the mask succeeds; it leaves the bits of the plain path XORed with the mask and no
other trace. -/
def XorsPlain (b plain : MessageBuilder) (structWord offset : ℕ) (type : TypeDescriptor ι)
    (value : Value) (m : ℕ) :
    Prop :=
  ∃ masked, encodeDataField b structWord offset type value m = .ok masked ∧
    Stores b masked structWord offset type fun i =>
      bitAt plain.bytes (scalarStart structWord type offset + i) ^^ m.testBit i

/-- Reading with the mask is reading without it where the bits are XORed back. -/
def XorsBack (type : TypeDescriptor ι) (m : ℕ) : Prop :=
  ∀ (r r' : MessageReader) (ref : StructRef) (offset : ℕ),
    inRange r.segments ref.segmentId ref.startWord (ref.dataWordCount + ref.pointerCount) = true →
    inRange r'.segments ref.segmentId ref.startWord (ref.dataWordCount + ref.pointerCount) = true →
    (offset + 1) * scalarBits type ≤ 64 * ref.dataWordCount →
    (∀ i < scalarBits type, bitAt (segmentBytes r' ref.segmentId)
      (scalarStart ref.startWord type offset + i) =
      (bitAt (segmentBytes r ref.segmentId)
        (scalarStart ref.startWord type offset + i) ^^ m.testBit i)) →
    ∃ v, decodeDataField r ref offset type m = .ok v ∧ decodeDataField r' ref offset type 0 = .ok v

theorem setBytes_of_length {b b' : MessageBuilder} {byteOffset : ℕ} {xs : Bytes} {context : String}
    (accepted : b.setBytes byteOffset xs context = .ok b') (ys : Bytes)
    (same : ys.length = xs.length) (context' : String) :
    ∃ b'', b.setBytes byteOffset ys context' = .ok b'' := by
  unfold MessageBuilder.setBytes at accepted ⊢
  split_ifs at accepted with fits
  rw [dif_pos (by rwa [same])]
  exact ⟨_, rfl⟩

theorem Stores.congr {b b' : MessageBuilder} {structWord offset : ℕ} {type : TypeDescriptor ι}
    {bits bits' : ℕ → Bool} (h : Stores b b' structWord offset type bits)
    (same : ∀ i < scalarBits type, bits i = bits' i) :
    Stores b b' structWord offset type bits' :=
  ⟨h.words, fun i low => (h.inside i low).trans (same i low), h.outside⟩

theorem xorsBack {type : TypeDescriptor ι} (scalar : isScalar type = true) {m : ℕ} (nonzero : m ≠ 0)
    (small : m < 2 ^ scalarBits type) : XorsBack type m := by
  intro r r' ref offset known known' section_ same
  by_cases boolean : type = .primitive .bool
  · subst boolean
    have one : m = 1 := by
      have : m < 2 := small
      omega
    have here : offset < 64 * ref.dataWordCount := by
      rw [scalarBits] at section_
      omega
    have bit := same 0 Nat.one_pos
    rw [scalarStart, scalarBits, Nat.mul_one, Nat.add_zero, one] at bit
    refine ⟨_, decodeDataField_bool known here m, ?_⟩
    rw [decodeDataField_bool known' here 0, bit, one]
    exact congrArg (fun bit => Except.ok (Value.bool bit)) (Bool.bne_false _)
  · obtain ⟨width, -, place⟩ := scalarBits_eq scalar boolean
    have fits : dataByteOffset type offset + dataByteOffset type 1 ≤ 8 * ref.dataWordCount := by
      rw [width] at section_
      rw [place]
      linarith
    refine ⟨_, decodeDataField_eq scalar boolean known fits m, ?_⟩
    rw [decodeDataField_eq scalar boolean known' fits 0, Nat.xor_zero]
    congr 2
    refine readLE_eq_of_bitAt ?_ fun i low => ?_
    · rwa [show (256 : ℕ) = 2 ^ 8 from rfl, ← Nat.pow_mul, ← width]
    · have start := scalarStart_eq scalar boolean ref.startWord offset
      rw [WORD_BYTES, Nat.mul_comm _ 8] at start
      rw [start]
      exact same i (by rwa [width])

/-- **Scalars with a default.**  The path with a default agrees with the plain one, but for a
fraction in an integer of at most 32 bits, which it rejects, and for a float that is not finite,
whose bits only it writes. -/
theorem scalars_with_default {type : TypeDescriptor ι} (scalar : isScalar type = true) {m : ℕ}
    (nonzero : m ≠ 0) (small : m < 2 ^ scalarBits type) {b plain : MessageBuilder}
    {structWord offset : ℕ} {value : Value}
    (accepted : encodeDataField b structWord offset type value 0 = .ok plain) :
    XorsPlain b plain structWord offset type value m ∧ XorsBack type m ↔ KeepsBits type value := by
  rw [and_iff_left (xorsBack scalar nonzero small)]
  by_cases boolean : type = .primitive .bool
  · subst boolean
    have one : m = 1 := by
      have : m < 2 := small
      omega
    have stored := @stores_setBool ι _ _ _ _ _ accepted
    obtain ⟨masked, written⟩ := setBytes_of_length accepted (toLE 1
      (MessageBuilder.withBit (readLE b.bytes (structWord * WORD_BYTES + offset / 8) 1) (offset % 8)
        (asBoolean value != (m != 0)))) (by rw [length_toLE, length_toLE]) "setBool"
    refine iff_of_true ⟨masked, ?_, (stores_setBool written).congr fun i low => ?_⟩ trivial
    · rw [encodeDataField, if_pos nonzero]
      exact written
    · obtain rfl : i = 0 := Nat.lt_one_iff.1 low
      rw [stored.inside 0 low, one]
      rfl
  · obtain ⟨context, plainly⟩ := encodeDataField_plain scalar boolean b structWord offset value
    obtain ⟨context', masking⟩ :=
      encodeDataField_masked scalar boolean nonzero b structWord offset value
    have width := (scalarBits_eq scalar boolean).1
    rw [plainly] at accepted
    have stored := stores_setBytes scalar boolean accepted
    constructor
    · rintro ⟨masked, done, xored⟩
      by_contra differ
      rw [masking] at done
      obtain ⟨bits, found, written⟩ := Fallible.bind_eq_ok.1 done
      obtain ⟨i, low, apart⟩ := dataBits_differ differ found
      apply apart
      have bit := (stores_setBytes scalar boolean written).inside i low
      rw [xored.inside i low, stored.inside i low, Nat.testBit_xor] at bit
      exact (Bool.xor_left_inj.1 bit).symm
    · intro keeps
      obtain ⟨bits, found, same⟩ := dataBits_eq_ok scalar boolean keeps
      obtain ⟨masked, written⟩ := setBytes_of_length accepted
        (toLE (dataByteOffset type 1) (asUintN (dataByteOffset type 1) bits ^^^ m))
        (by rw [length_toLE, length_toLE]) context'
      refine ⟨masked, ?_, (stores_setBytes scalar boolean written).congr fun i low => ?_⟩
      · rw [masking, found]
        exact written
      · rw [Nat.testBit_xor, same i low, stored.inside i low]

/-- A message with one word behind its root pointer. -/
def oneWord : MessageBuilder := (MessageBuilder.new.allocWords 1).2

/-- That message with a byte written into the word. -/
def oneByte (byte : UInt8) : MessageBuilder := oneWord.set 8 [byte] (show 8 + 1 ≤ 8 * 2 by decide)

theorem ok_of_bytes {x : Except Thrown MessageBuilder} {b : MessageBuilder}
    (same : x.toOption.map (·.bytes) = some b.bytes) : x = .ok b := by
  cases x with
  | error e => cases same
  | ok b' => exact congrArg Except.ok (MessageBuilder.ext_bytes (Option.some.inj same))

theorem scalars_with_default_byte :
    XorsPlain oneWord (oneByte 3) 1 0 (.primitive .int8 : TypeDescriptor Unit)
    (.number (.ofNat 3)) 5 ∧
      XorsBack (.primitive .int8 : TypeDescriptor Unit) 5 :=
  (scalars_with_default rfl (by decide) (by decide) (ok_of_bytes (by decide +kernel))).2
    fun _ => by decide +kernel

/-- The number 1.5. -/
def oneAndAHalf : JsNumber := ⟨0x3ff8000000000000⟩

/-- The number Infinity. -/
def infinity : JsNumber := ⟨0x7ff0000000000000⟩

/-- A fraction is truncated without a default and rejected with one; Infinity is written as zero
without a default and as it stands with one. -/
theorem scalars_with_default_special :
    (encodeDataField oneWord 1 0 (.primitive .uint8 : TypeDescriptor Unit) (.number oneAndAHalf) 0 =
      .ok (oneByte 1) ∧
      ¬ XorsPlain oneWord (oneByte 1) 1 0 (.primitive .uint8 : TypeDescriptor Unit)
        (.number oneAndAHalf) 1) ∧
    (encodeDataField oneWord 1 0 (.primitive .float32 : TypeDescriptor Unit) (.number infinity) 0 =
      .ok oneWord ∧
      ¬ XorsPlain oneWord oneWord 1 0 (.primitive .float32 : TypeDescriptor Unit)
        (.number infinity) 1) := by
  refine ⟨⟨ok_of_bytes (by decide +kernel), ?_⟩, ok_of_bytes (by decide +kernel), ?_⟩
  · have rejected : (encodeDataField oneWord 1 0 (.primitive .uint8 : TypeDescriptor Unit)
        (.number oneAndAHalf) 1).toOption.map (·.bytes) = none := by decide +kernel
    rintro ⟨masked, done, -⟩
    rw [done] at rejected
    cases rejected
  · have written : encodeDataField oneWord 1 0 (.primitive .float32 : TypeDescriptor Unit)
        (.number infinity) 1 =
        .ok (oneWord.set 8 [1, 0, 0x80, 0x7f] (show 8 + 4 ≤ 8 * 2 by decide)) :=
      ok_of_bytes (by decide)
    rintro ⟨masked, done, stored⟩
    cases written.symm.trans done
    exact absurd (stored.inside 30 (by decide)) (by decide)

end CapnpDeno
