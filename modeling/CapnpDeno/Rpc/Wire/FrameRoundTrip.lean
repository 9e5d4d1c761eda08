import CapnpDeno.Encoding.TextPointer
import CapnpDeno.Rpc.Wire.FrameParts

/-!
# Round trips of RPC frames

A frame that an encoder of `encode.ts` writes is read back by the decoder of `decode.ts`: the same
numbers, the same flags, target and capability table, and a content with the same tree.
-/

namespace CapnpDeno

open ByteList MessageReader TextDecoder

theorem textDecode_utf8Encode (text : String) :
    textDecode (MessageBuilder.utf8Encode text) = withoutMark text := by
  have decoded := strictDecode_utf8Encode text
  apply textDecode_valid
  unfold strictDecode at decoded
  cases valid : String.fromUTF8? ⟨(MessageBuilder.utf8Encode text).toArray⟩ with
  | none =>
    rw [valid] at decoded
    cases decoded
  | some found =>
    rw [valid] at decoded
    rw [Except.ok.inj decoded]

namespace Wire

variable {b b' : RpcWireMessageBuilder} {frame : Bytes}

/-! ## The message struct -/

/-- Behind the head of a frame lies the struct of its variant. -/
def Headed (tag dataWordCount pointerCount : ℕ) (m : Bytes) : Prop :=
  (∀ name, decodeVariant ⟨[m]⟩ tag name = .ok ⟨0, 3, dataWordCount, pointerCount⟩) ∧
    (do
      let root ← decodeRoot ⟨[m]⟩
      readU16InStruct ⟨[m]⟩ root 0) = .ok tag

theorem writes_newFrame {tag dataWordCount pointerCount variantWord : ℕ} (tagFits : tag < 2 ^ 16)
    (small : dataWordCount < 2 ^ 16) (few : pointerCount < 2 ^ 16)
    (present : 0 < dataWordCount + pointerCount)
    (done : newFrame tag dataWordCount pointerCount = .ok (variantWord, b')) :
    variantWord = 3 ∧ b'.words = 3 + dataWordCount + pointerCount ∧
      Writes .new b' (fun _ => True) (fun i => i < 24) (Headed tag dataWordCount pointerCount) := by
  obtain ⟨⟨messageWord, b₁⟩, alloc, done⟩ := Fallible.bind_eq_ok.1 done
  obtain ⟨b₂, tagged, alloc'⟩ := Fallible.bind_eq_ok.1 done
  obtain ⟨rfl, words₁, -, writes₁⟩ := writes_allocStruct (by decide) (by decide) (by decide) alloc
  obtain ⟨words₂, -, -, writes₂⟩ := writes_number tagFits tagged
  obtain ⟨rfl, words₃, -, writes₃⟩ := writes_allocStruct small few present alloc'
  have first : MessageBuilder.new.words = 1 := rfl
  refine ⟨by omega, by omega, ?_⟩
  rw [first] at writes₁ writes₂ writes₃ words₁
  have all :=
    (writes₁.andThen writes₂ (by simp only [At]; omega)).andThen writes₃ (by simp only [At]; omega)
  apply all.weaken (fun _ _ _ => trivial)
  · omega
  · simp only [At]
    omega
  · rintro m long ⟨⟨root, tag'⟩, variant⟩
    rw [show b₂.words = 3 by omega] at variant
    have found : decodeRoot ⟨[m]⟩ = .ok ⟨0, 1, 1, 1⟩ := by
      unfold decodeRoot
      rw [root, Fallible.ok_bind, orThrow_some]
    have read : readU16InStruct ⟨[m]⟩ ⟨0, 1, 1, 1⟩ 0 = .ok tag := by
      unfold readU16InStruct
      rw [readUintInStruct_ok (by decide) (by omega), tag']
    refine ⟨fun name => ?_, by rw [found, Fallible.ok_bind, read]⟩
    unfold decodeVariant
    rw [found, Fallible.ok_bind, read, Fallible.ok_bind, if_neg (not_not.2 rfl),
      (pointerWordIndex_ok Nat.one_pos).2]
    show decodeStructPointer ⟨[m]⟩ ⟨0, 2⟩ >>= _ = _
    rw [variant, Fallible.ok_bind, orThrow_some]

/-- A frame that is finished holds the one segment of its builder. -/
theorem frame_reads (done : b.toMessageBytes = .ok frame) :
    segmentsFromFrame frame = .ok ⟨[b.bytes]⟩ ∧ MessageReader.ofBytes frame =
      .ok (flatReader b.bytes) := by
  obtain ⟨fits, rfl⟩ := MessageBuilder.toMessageBytes_eq_ok.1 done
  have opened := ofBytes_single b.size (MessageBuilder.words_lt_of_fits fits)
  obtain ⟨room, same⟩ := ofBytes_eq_ok.1 opened
  exact ⟨segmentsFromFrame_eq_ok.2 ⟨room,
    congrArg (fun r : MessageReader => SegmentTable.mk r.segments) same⟩, opened⟩

theorem decodeRpcMessageTag_of_headed {tag dataWordCount pointerCount : ℕ}
    (headed : Headed tag dataWordCount pointerCount b.bytes) (done : b.toMessageBytes = .ok frame) :
    decodeRpcMessageTag frame = .ok tag := by
  unfold decodeRpcMessageTag
  rw [(frame_reads done).1, Fallible.ok_bind]
  exact headed.2

/-! ## Frames of numbers -/

/-- A bootstrap request is read back. -/
theorem bootstrap_comes_back {questionId : ℕ}
    (done : encodeBootstrapRequestFrame questionId = .ok frame) :
    decodeRpcMessageTag frame = .ok RPC_MESSAGE_TAG_BOOTSTRAP ∧ decodeBootstrapRequestFrame frame =
      .ok questionId := by
  obtain ⟨small, done⟩ := ensureUint_bind.1 done
  obtain ⟨⟨variantWord, b₁⟩, new, done⟩ := Fallible.bind_eq_ok.1 done
  obtain ⟨b₂, question, framed⟩ := Fallible.bind_eq_ok.1 done
  obtain ⟨rfl, words₁, writes₁⟩ :=
    writes_newFrame (by decide) (by decide) (by decide) (by decide) new
  obtain ⟨words₂, -, -, writes₂⟩ := writes_number small question
  obtain ⟨headed, read⟩ := (writes₁.andThen writes₂ (by simp only [At]; omega)).self
  refine ⟨decodeRpcMessageTag_of_headed headed framed, ?_⟩
  have room := b₂.size
  unfold decodeBootstrapRequestFrame readU32InStruct
  rw [(frame_reads framed).1, Fallible.ok_bind, headed.1, Fallible.ok_bind,
    readUintInStruct_ok (by decide) (by omega), read]

/-- A Release is read back. -/
theorem release_comes_back {request : RpcReleaseRequest}
    (done : encodeReleaseFrame request = .ok frame) :
    decodeRpcMessageTag frame = .ok RPC_MESSAGE_TAG_RELEASE ∧ decodeReleaseFrame frame =
      .ok request := by
  obtain ⟨small, done⟩ := ensureUint_bind.1 done
  obtain ⟨small', done⟩ := ensureUint_bind.1 done
  obtain ⟨⟨variantWord, b₁⟩, new, done⟩ := Fallible.bind_eq_ok.1 done
  obtain ⟨b₂, id, done⟩ := Fallible.bind_eq_ok.1 done
  obtain ⟨b₃, count, framed⟩ := Fallible.bind_eq_ok.1 done
  obtain ⟨rfl, words₁, writes₁⟩ :=
    writes_newFrame (by decide) (by decide) (by decide) (by decide) new
  obtain ⟨words₂, -, -, writes₂⟩ := writes_number small id
  obtain ⟨words₃, -, -, writes₃⟩ := writes_number small' count
  obtain ⟨⟨headed, read⟩, read'⟩ :=
    ((writes₁.andThen writes₂ (by simp only [At]; omega)).andThen writes₃
      (by simp only [At]; omega)).self
  refine ⟨decodeRpcMessageTag_of_headed headed framed, ?_⟩
  have room := b₃.size
  unfold decodeReleaseFrame readU32InStruct
  rw [(frame_reads framed).1, Fallible.ok_bind, headed.1, Fallible.ok_bind,
    readUintInStruct_ok (by decide) (by omega), read, Fallible.ok_bind,
      readUintInStruct_ok (by decide) (by omega), read']
  rfl

/-- A Finish is read back, with its defaults: result capabilities are released, no early
cancellation. -/
theorem finish_comes_back {questionId : ℕ}
    {releaseResultCaps requireEarlyCancellation : Option Bool}
    (done : encodeFinishFrame questionId releaseResultCaps requireEarlyCancellation = .ok frame) :
    decodeRpcMessageTag frame = .ok RPC_MESSAGE_TAG_FINISH ∧
      decodeFinishFrame frame =
        .ok ⟨questionId, releaseResultCaps.getD true, requireEarlyCancellation.getD false⟩ := by
  obtain ⟨small, done⟩ := ensureUint_bind.1 done
  obtain ⟨⟨variantWord, b₁⟩, new, done⟩ := Fallible.bind_eq_ok.1 done
  obtain ⟨b₂, question, done⟩ := Fallible.bind_eq_ok.1 done
  obtain ⟨b₃, flagged, framed⟩ := Fallible.bind_eq_ok.1 done
  obtain ⟨rfl, words₁, writes₁⟩ :=
    writes_newFrame (by decide) (by decide) (by decide) (by decide) new
  obtain ⟨words₂, -, -, writes₂⟩ := writes_number small question
  generalize releaseResultCaps.getD true = release, requireEarlyCancellation.getD false =
    early at flagged ⊢
  obtain ⟨words₃, -, -, writes₃⟩ :=
    writes_number (by cases release <;> cases early <;> decide) flagged
  obtain ⟨⟨headed, read⟩, read'⟩ :=
    ((writes₁.andThen writes₂ (by simp only [At]; omega)).andThen writes₃
      (by simp only [At]; omega)).self
  refine ⟨decodeRpcMessageTag_of_headed headed framed, ?_⟩
  have room := b₃.size
  unfold decodeFinishFrame readU32InStruct
  rw [(frame_reads framed).1, Fallible.ok_bind, headed.1, Fallible.ok_bind,
    readUintInStruct_ok (by decide) (by omega), read', Fallible.ok_bind,
      readUintInStruct_ok (by decide) (by omega), read]
  cases release <;> cases early <;> rfl

/-! ## Calls -/

/-- The fields of a call that its encoder does not check have room. -/
structure RpcCallFrameRequest.Fits (request : RpcCallFrameRequest) : Prop where
  few : (request.paramsCapTable.getD []).length < 2 ^ 30
  short : ∀ entry ∈ request.paramsCapTable.getD [], entry.ContactFits
  transform : ∀ questionId ops, request.target = some (.promisedAnswer questionId (some ops)) →
    ops.length < 2 ^ 30

/-- The target that a request names. -/
def RpcCallFrameRequest.callTarget (request : RpcCallFrameRequest) : RpcCallTarget :=
  request.target.getD (.importedCap (request.targetImportedCap.getD 0))

theorem onWireOp_onWireOp (op : RpcPromisedAnswerOp) : onWireOp (onWireOp op) = onWireOp op := by
  by_cases noop : op.tag = RPC_PROMISED_ANSWER_OP_TAG_NOOP
  · simp [onWireOp, noop]
  · simp [onWireOp, noop]

/-- The capability that a decoded target names. -/
def targetImportedCap : RpcCallTarget → Option ℕ
  | .importedCap importedCap => some importedCap
  | .promisedAnswer _ _ => none

/-- A target that passes the checks means what the request names. -/
theorem normalizeCallTarget_eq_ok {request : RpcCallFrameRequest} {target : RpcCallTarget}
    (fits : request.Fits) (done : normalizeCallTarget request = .ok target) :
    TargetFits target ∧ onWireTarget target = onWireTarget request.callTarget := by
  have short := fits.transform
  unfold normalizeCallTarget at done
  unfold RpcCallFrameRequest.callTarget
  cases named : request.target with
  | none =>
    rw [named] at done
    cases cap : request.targetImportedCap with
    | none =>
      simp only [cap] at done
      cases done
    | some importedCap =>
      simp only [cap] at done
      obtain ⟨_, checked, rfl⟩ := Fallible.map_eq_ok.1 done
      obtain ⟨small, rfl⟩ := ensureUint_eq_ok.1 checked
      exact ⟨small, rfl⟩
  | some target' =>
    rw [named] at done
    cases target' with
    | importedCap importedCap =>
      obtain ⟨_, checked, rfl⟩ := Fallible.map_eq_ok.1 done
      obtain ⟨small, rfl⟩ := ensureUint_eq_ok.1 checked
      exact ⟨small, rfl⟩
    | promisedAnswer questionId transform =>
      obtain ⟨small, done⟩ := ensureUint_bind.1 done
      cases transform with
      | none =>
        cases done
        exact ⟨⟨small, by decide⟩, rfl⟩
      | some ops =>
        obtain ⟨normalized, normal, same⟩ := Fallible.bind_eq_ok.1 done
        cases same
        have each := Fallible.mapM_eq_ok.1 normal
        have long := each.length_eq
        rw [List.length_zipIdx] at long
        have same : normalized = ops.map onWireOp := by
          apply List.ext_getElem (by rw [List.length_map, long])
          intro i low low'
          rw [List.length_map] at low'
          have one := (List.forall₂_iff_get.1 each).2 i (by rwa [List.length_zipIdx]) low
          simp only [List.get_eq_getElem, List.getElem_zipIdx] at one
          rw [List.getElem_map]
          exact (normalizePromisedAnswerOp_eq_ok one).1
        refine ⟨⟨small, ?_⟩, ?_⟩
        · have := short questionId ops named
          show normalized.length < 2 ^ 30
          omega
        · subst same
          simp [onWireTarget, Function.comp_def, onWireOp_onWireOp]

/-- A call is read back.  The ids are the same, the target is the one that the request names, the
capability table has the same descriptors in the same order, and the parameters have the same
tree. -/
theorem call_comes_back {request : RpcCallFrameRequest} (fits : request.Fits)
    (done : encodeCallRequestFrame request = .ok frame) :
    ∃ paramsContent, ComesBack (request.paramsContent.getD EMPTY_STRUCT_MESSAGE) paramsContent ∧
      decodeRpcMessageTag frame = .ok RPC_MESSAGE_TAG_CALL ∧
      decodeCallRequestFrame frame = .ok ⟨request.questionId, request.interfaceId, request.methodId,
        onWireTarget request.callTarget, targetImportedCap (onWireTarget request.callTarget),
          paramsContent,
        (request.paramsCapTable.getD []).map RpcCapDescriptor.onWire⟩ := by
  obtain ⟨small, done⟩ := ensureUint_bind.1 done
  obtain ⟨small', done⟩ := ensureUint_bind.1 done
  obtain ⟨small'', done⟩ := ensureUint_bind.1 done
  obtain ⟨target, normal, done⟩ := Fallible.bind_eq_ok.1 done
  obtain ⟨targetFits, same⟩ := normalizeCallTarget_eq_ok fits normal
  rw [← same]
  obtain ⟨⟨callWord, b₁⟩, new, done⟩ := Fallible.bind_eq_ok.1 done
  obtain ⟨b₂, question, done⟩ := Fallible.bind_eq_ok.1 done
  obtain ⟨b₃, method, done⟩ := Fallible.bind_eq_ok.1 done
  obtain ⟨b₄, sendTo, done⟩ := Fallible.bind_eq_ok.1 done
  obtain ⟨b₅, interface, done⟩ := Fallible.bind_eq_ok.1 done
  obtain ⟨b₆, targeted, done⟩ := Fallible.bind_eq_ok.1 done
  obtain ⟨b₇, payload, framed⟩ := Fallible.bind_eq_ok.1 done
  obtain ⟨rfl, words₁, writes₁⟩ :=
    writes_newFrame (by decide) (by decide) (by decide) (by decide) new
  obtain ⟨words₂, -, -, writes₂⟩ := writes_number small question
  obtain ⟨words₃, -, -, writes₃⟩ := writes_number small'' method
  obtain ⟨words₄, -, -, writes₄⟩ := writes_number (by decide) sendTo
  obtain ⟨words₅, -, -, writes₅⟩ := writes_number small' interface
  have writes₆ := points_encodeCallTarget targetFits (by omega) targeted
  have more := writes₆.grown.words
  obtain ⟨copy, back, writes₇⟩ := points_encodePayload fits.few fits.short (by omega) payload
  have more' := writes₇.grown.words
  have numbers :=
    (((writes₁.andThen writes₂ (by simp only [At]; omega)).andThen writes₃
      (by simp only [At]; omega)).andThen
    writes₄ (by simp only [At]; omega)).andThen writes₅ (by simp only [At]; omega)
  obtain ⟨⟨⟨⟨⟨⟨headed, question'⟩, method'⟩, -⟩, interface'⟩, target', place, decoded⟩, payload',
      place', decoded'⟩ :=
    ((numbers.andThen writes₆ (by simp only [At]; omega)).andThen writes₇
      (by simp only [At, Behind]; omega)).self
  have room := b₇.size
  refine ⟨copy, back, decodeRpcMessageTag_of_headed headed framed, ?_⟩
  unfold decodeCallRequestFrame readU16InStruct readU32InStruct readU64InStruct
  rw [(frame_reads framed).1, Fallible.ok_bind, (frame_reads framed).2, Fallible.ok_bind, headed.1,
    Fallible.ok_bind,
    (pointerWordIndex_ok (by decide)).2, place, Fallible.ok_bind, orThrow_some,
    Fallible.ok_bind, decoded,
    Fallible.ok_bind, (pointerWordIndex_ok (by decide)).2, place', Fallible.ok_bind, decoded',
      Fallible.ok_bind]
  dsimp only
  rw [readUintInStruct_ok (by decide) (by omega), question', Fallible.ok_bind,
    readUintInStruct_ok (by decide) (by omega), interface', Fallible.ok_bind,
    readUintInStruct_ok (by decide) (by omega), method', Fallible.ok_bind]
  cases target <;> rfl

/-! ## Returns -/

/-- The head of a Return: the tag of the variant overwrites the upper half of the flags. -/
def ReturnHeaded (answerId : ℕ) (releaseParamCaps noFinishNeeded : Bool) (tag : ℕ) (m : Bytes) :
    Prop :=
  Headed RPC_MESSAGE_TAG_RETURN 2 1 m ∧ readLE m 24 4 = answerId ∧ readLE m 30 2 = tag ∧
    decodeReturnFlags ⟨[m]⟩ ⟨0, 3, 2, 1⟩ = .ok (releaseParamCaps, noFinishNeeded)

theorem writes_newReturn {answerId returnWord tag : ℕ} {releaseParamCaps noFinishNeeded : Bool}
    (small : answerId < 2 ^ 32) (known : tag < 2)
    (done : newReturn answerId releaseParamCaps noFinishNeeded tag = .ok (returnWord, b')) :
    returnWord = 3 ∧ b'.words = 6 ∧ Writes .new b' (fun _ => True) (fun i => i < 32)
      (ReturnHeaded answerId releaseParamCaps noFinishNeeded tag) := by
  obtain ⟨⟨variantWord, b₁⟩, new, done⟩ := Fallible.bind_eq_ok.1 done
  obtain ⟨b₂, answer, done⟩ := Fallible.bind_eq_ok.1 done
  obtain ⟨b₃, flagged, done⟩ := Fallible.bind_eq_ok.1 done
  obtain ⟨b₄, tagged, same⟩ := Fallible.bind_eq_ok.1 done
  cases same
  obtain ⟨rfl, words₁, writes₁⟩ :=
    writes_newFrame (by decide) (by decide) (by decide) (by decide) new
  obtain ⟨words₂, -, -, writes₂⟩ := writes_number small answer
  obtain ⟨words₃, -, -, writes₃⟩ := writes_writeUint flagged (show 2 ≤ 4 by decide)
  obtain ⟨words₄, -, -, writes₄⟩ := writes_number (show tag < 256 ^ 2 by omega) tagged
  refine ⟨rfl, by omega, ?_⟩
  apply (((writes₁.andThen writes₂ (by simp only [At]; omega)).andThen writes₃
    (by simp only [At]; omega)).andThen writes₄
    (by simp only [At]; omega)).weaken (fun _ _ _ => trivial)
  · omega
  · simp only [At]
    omega
  · rintro m long ⟨⟨⟨headed, answer'⟩, flags⟩, tag'⟩
    refine ⟨headed, answer', tag', ?_⟩
    unfold decodeReturnFlags readU32InStruct
    have both : readLE m (8 * 3 + 4) 4 = readLE m (8 * 3 + 4) 2 + 256 ^ 2 *
        readLE m (8 * 3 + 6) 2 :=
      readLE_add 2 2 (by omega)
    rw [readUintInStruct_ok (by decide) (by omega), Fallible.ok_bind, both, flags, tag']
    interval_cases tag <;> cases releaseParamCaps <;> cases noFinishNeeded <;> rfl

/-- The capability table of results has room. -/
structure RpcReturnResultsFrameRequest.Fits (request : RpcReturnResultsFrameRequest) : Prop where
  few : (request.capTable.getD []).length < 2 ^ 30
  short : ∀ entry ∈ request.capTable.getD [], entry.ContactFits

/-- Results are read back.  The flags have their defaults, the content has the same tree, and the
capability table the same descriptors. -/
theorem results_come_back {request : RpcReturnResultsFrameRequest} (fits : request.Fits)
    (done : encodeReturnResultsFrame request = .ok frame) :
    ∃ content, ComesBack (request.content.getD EMPTY_STRUCT_MESSAGE) content ∧
      decodeRpcMessageTag frame = .ok RPC_MESSAGE_TAG_RETURN ∧
      decodeReturnFrame frame = .ok ⟨request.answerId,
        .results content ((request.capTable.getD []).map RpcCapDescriptor.onWire),
        request.releaseParamCaps.getD true, request.noFinishNeeded.getD false⟩ := by
  obtain ⟨small, done⟩ := ensureUint_bind.1 done
  obtain ⟨⟨returnWord, b₁⟩, new, done⟩ := Fallible.bind_eq_ok.1 done
  obtain ⟨b₂, payload, framed⟩ := Fallible.bind_eq_ok.1 done
  obtain ⟨rfl, words₁, writes₁⟩ := writes_newReturn small (by decide) new
  obtain ⟨copy, back, writes₂⟩ := points_encodePayload fits.few fits.short (by omega) payload
  have more := writes₂.grown.words
  obtain ⟨⟨headed, answer, tag, flags⟩, payload', place, decoded⟩ :=
    (writes₁.andThen writes₂ (by omega)).self
  have room := b₂.size
  refine ⟨copy, back, decodeRpcMessageTag_of_headed headed framed, ?_⟩
  unfold decodeReturnFrame
  rw [(frame_reads framed).1, Fallible.ok_bind, (frame_reads framed).2, Fallible.ok_bind, headed.1,
    Fallible.ok_bind]
  unfold readU16InStruct readU32InStruct
  rw [readUintInStruct_ok (by decide) (by omega), answer, Fallible.ok_bind,
    readUintInStruct_ok (by decide) (by omega),
    tag, Fallible.ok_bind, flags, Fallible.ok_bind]
  dsimp only
  rw [if_neg (by decide), if_neg (by decide), if_pos rfl,
    (pointerWordIndex_ok (by decide)).2, place, Fallible.ok_bind,
    decoded]
  rfl

/-- The bytes of a text, with the zero that ends it. -/
theorem writes_text {b₁ b₂ : RpcWireMessageBuilder} {pointerWord : ℕ} {text : Bytes}
    (short : text.length + 1 < 2 ^ 29) (inside : pointerWord < b.words)
    (pointed : setListPointer (b.allocWords (bytesToWords (text.length + 1))).2 pointerWord b.words
      2 (text.length + 1) = .ok b₁) (written : writeBytes b₁ b.words 0 text = .ok b₂) :
    Points b b₂ pointerWord fun m => readTextFromPointer ⟨[m]⟩ ⟨0, pointerWord⟩ =
      .ok (some (textDecode text)) := by
  obtain ⟨words₁, -, fits, writes₁⟩ := writes_setListPointer (by decide) pointed
  obtain ⟨words₂, -, writes₂⟩ := writes_writeBytes written
  have words₁ : b₁.words = b.words + bytesToWords (text.length + 1) := words₁
  have whole : text.length + 1 ≤ 8 * bytesToWords (text.length + 1) := by
    rw [bytesToWords]
    omega
  have all := writes₁.of_alloc.andThen writes₂ (by simp only [At]; omega)
  have terminator : b₂.bytes[8 * b.words + text.length]? = some 0 := by
    rw [writes₂.grown.same _ (by omega) (by simp only [At]; omega), writes₁.grown.same _ _
      (by omega)]
    · show (b.bytes ++ List.replicate _ 0)[_]? = _
      have size := b.size
      rw [List.getElem?_append_right (by omega), List.getElem?_replicate, if_pos (by omega)]
    · show _ < 8 * (b.words + _)
      omega
  refine ⟨all.grown.mono ?_, ?_, fun m long same => ?_⟩
  · simp only [At]
    omega
  · simp only [Behind]
    omega
  · obtain ⟨word, bytes⟩ := all.shows m long (by
      intro i mine
      apply same
      simp only [At, Behind] at mine ⊢
      omega)
    have last : m[8 * b.words + text.length]? = some 0 := by
      rw [same _ (by simp only [Behind]; omega), terminator]
    rw [Nat.mod_eq_of_lt short] at word
    have list : decodeByteListPointer ⟨[m]⟩ ⟨0, pointerWord⟩ =
        .ok (some ⟨0, b.words, text.length + 1⟩) :=
      decodeByteListPointer_near (by omega) word fits short (by ring) (by omega)
    have whole : slice m (b.words * WORD_BYTES) (text.length + 1) = text ++ [0] := by
      rw [WORD_BYTES, Nat.mul_comm, slice_append_slice, bytes, slice_one last]
    unfold readTextFromPointer
    rw [list, Fallible.ok_bind]
    simp only [List.getElem?_cons_zero, Option.getD_some, whole, List.getLast?_append_of_ne_nil,
      ne_eq, List.cons_ne_nil,
      not_false_eq_true, List.getLast?_singleton, if_true, List.dropLast_concat]
    rw [if_neg (by rw [WORD_BYTES]; omega)]
    rfl

/-- An exception is read back, with its reason; of a reason that starts with a byte order mark, the
mark is lost. -/
theorem exception_comes_back {request : RpcReturnExceptionFrameRequest}
    (short : (MessageBuilder.utf8Encode request.reason).length + 1 < 2 ^ 29)
    (done : encodeReturnExceptionFrame request = .ok frame) :
    decodeRpcMessageTag frame = .ok RPC_MESSAGE_TAG_RETURN ∧
      decodeReturnFrame frame = .ok ⟨request.answerId, .exception (withoutMark request.reason),
        request.releaseParamCaps.getD true, request.noFinishNeeded.getD false⟩ := by
  obtain ⟨small, done⟩ := ensureUint_bind.1 done
  obtain ⟨⟨returnWord, b₁⟩, new, done⟩ := Fallible.bind_eq_ok.1 done
  obtain ⟨⟨exWord, b₂⟩, alloc, done⟩ := Fallible.bind_eq_ok.1 done
  obtain ⟨b₃, pointed, done⟩ := Fallible.bind_eq_ok.1 done
  obtain ⟨b₄, written, framed⟩ := Fallible.bind_eq_ok.1 done
  obtain ⟨rfl, words₁, writes₁⟩ := writes_newReturn small (by decide) new
  obtain ⟨rfl, words₂, -, writes₂⟩ := writes_allocStruct (by decide) (by decide) (by decide) alloc
  have writes₃ := writes_text short (by omega) pointed written
  have more := writes₃.grown.words
  obtain ⟨⟨⟨headed, answer, tag, flags⟩, ex⟩, reason⟩ :=
    ((writes₁.andThen writes₂ (by omega)).andThen writes₃ (by omega)).self
  have room := b₄.size
  refine ⟨decodeRpcMessageTag_of_headed headed framed, ?_⟩
  unfold decodeReturnFrame
  rw [(frame_reads framed).1, Fallible.ok_bind, (frame_reads framed).2, Fallible.ok_bind, headed.1,
    Fallible.ok_bind]
  unfold readU16InStruct readU32InStruct
  rw [readUintInStruct_ok (by decide) (by omega), answer, Fallible.ok_bind,
    readUintInStruct_ok (by decide) (by omega),
    tag, Fallible.ok_bind, flags, Fallible.ok_bind]
  dsimp only
  rw [if_neg (by decide), if_pos rfl, (pointerWordIndex_ok (by decide)).2, ex, Fallible.ok_bind,
    orThrow_some,
    Fallible.ok_bind, (@pointerWordIndex_ok _ ⟨[b₄.bytes]⟩ _ _ _ _ (show 0 < 3 by decide)).1,
    Fallible.ok_bind, reason, Fallible.ok_bind, textDecode_utf8Encode]
  rfl

end Wire

end CapnpDeno
