import CapnpDeno.Rpc.Wire.FrameRoundTrip
import CapnpDeno.Rpc.Wire.FramerProof

/-!
# Messages

`decodeRpcMessage` tells the messages apart by the tag of their frame.  What the encoder of a frame
was given arrives with the other side, also through a stream of bytes that frames share.
-/

namespace CapnpDeno

open ByteList FrameLimits TextDecoder

namespace Wire

variable {frame : Bytes}

abbrev RPC_MESSAGE_TAG_RESOLVE : ℕ := 5
abbrev RPC_MESSAGE_TAG_DISEMBARGO : ℕ := 13

abbrev CAP_DESCRIPTOR_TAG_RECEIVER_HOSTED : ℕ := 3

/-- Resolve and Disembargo are forwarded as frames. -/
inductive RpcMessage
  | bootstrap (questionId : ℕ)
  | call (data : RpcCallRequest)
  | ret (data : RpcReturnMessage)
  | finish (data : RpcFinishRequest)
  | release (data : RpcReleaseRequest)
  | resolve (data : Bytes)
  | disembargo (data : Bytes)

def decodeRpcMessage (frame : Bytes) : Except Thrown RpcMessage := do
  let numericTag ← decodeRpcMessageTag frame
  if numericTag = RPC_MESSAGE_TAG_BOOTSTRAP then
    return .bootstrap (← decodeBootstrapRequestFrame frame)
  if numericTag = RPC_MESSAGE_TAG_CALL then
    return .call (← decodeCallRequestFrame frame)
  if numericTag = RPC_MESSAGE_TAG_RETURN then
    return .ret (← decodeReturnFrame frame)
  if numericTag = RPC_MESSAGE_TAG_FINISH then
    return .finish (← decodeFinishFrame frame)
  if numericTag = RPC_MESSAGE_TAG_RELEASE then
    return .release (← decodeReleaseFrame frame)
  if numericTag = RPC_MESSAGE_TAG_RESOLVE then
    return .resolve frame
  if numericTag = RPC_MESSAGE_TAG_DISEMBARGO then
    return .disembargo frame
  throw (protocolError s!"unknown rpc message tag: {numericTag}")

def RpcReturnVariant.reason : RpcReturnVariant → String
  | .results _ _ => ""
  | .exception reason | .canceled reason => reason

def extractBootstrapCapabilityIndex (message : RpcReturnMessage) : Except Thrown ℕ :=
  match message.kind with
  | .results _ capTable =>
    match capTable.find? fun item =>
      item.tag = CAP_DESCRIPTOR_TAG_SENDER_HOSTED || item.tag =
        CAP_DESCRIPTOR_TAG_RECEIVER_HOSTED with
    | some cap => return cap.id
    | none => throw (protocolError "bootstrap result did not include a hosted capability")
  | kind => throw (protocolError s!"bootstrap failed: {kind.reason}")

/-! ## What arrives -/

/-- A message as the encoder of its frame takes it. -/
inductive Outgoing
  | bootstrap (questionId : ℕ)
  | call (request : RpcCallFrameRequest)
  | results (request : RpcReturnResultsFrameRequest)
  | exception (request : RpcReturnExceptionFrameRequest)
  | finish (questionId : ℕ) (releaseResultCaps requireEarlyCancellation : Option Bool)
  | release (request : RpcReleaseRequest)

namespace Outgoing

def encodeFrame : Outgoing → Except Thrown Bytes
  | bootstrap questionId => encodeBootstrapRequestFrame questionId
  | call request => encodeCallRequestFrame request
  | results request => encodeReturnResultsFrame request
  | exception request => encodeReturnExceptionFrame request
  | finish questionId releaseResultCaps requireEarlyCancellation =>
    encodeFinishFrame questionId releaseResultCaps requireEarlyCancellation
  | release request => encodeReleaseFrame request

/-- What the encoders do not check has room in the frame. -/
def Fits : Outgoing → Prop
  | call request => request.Fits
  | results request => request.Fits
  | exception request => (MessageBuilder.utf8Encode request.reason).length + 1 < 2 ^ 29
  | bootstrap _ | finish _ _ _ | release _ => True

/-- What the other side gets to see of a message. -/
inductive Arrives : Outgoing → RpcMessage → Prop
  | bootstrap (questionId : ℕ) : Arrives (bootstrap questionId) (.bootstrap questionId)
  | call (request : RpcCallFrameRequest) (paramsContent : Bytes)
    (back : ComesBack (request.paramsContent.getD EMPTY_STRUCT_MESSAGE) paramsContent) :
    Arrives (call request) (.call ⟨request.questionId, request.interfaceId, request.methodId,
      onWireTarget request.callTarget, targetImportedCap (onWireTarget request.callTarget),
        paramsContent,
      (request.paramsCapTable.getD []).map RpcCapDescriptor.onWire⟩)
  | results (request : RpcReturnResultsFrameRequest) (content : Bytes)
    (back : ComesBack (request.content.getD EMPTY_STRUCT_MESSAGE) content) :
    Arrives (results request) (.ret ⟨request.answerId,
      .results content ((request.capTable.getD []).map RpcCapDescriptor.onWire),
      request.releaseParamCaps.getD true, request.noFinishNeeded.getD false⟩)
  | exception (request : RpcReturnExceptionFrameRequest) :
    Arrives (exception request) (.ret ⟨request.answerId, .exception (withoutMark request.reason),
      request.releaseParamCaps.getD true, request.noFinishNeeded.getD false⟩)
  | finish (questionId : ℕ) (releaseResultCaps requireEarlyCancellation : Option Bool) :
    Arrives (finish questionId releaseResultCaps requireEarlyCancellation)
      (.finish ⟨questionId, releaseResultCaps.getD true, requireEarlyCancellation.getD false⟩)
  | release (request : RpcReleaseRequest) : Arrives (release request) (.release request)

end Outgoing

/-- **What is encoded arrives.** -/
theorem decodeRpcMessage_encodeFrame {message : Outgoing} (fits : message.Fits)
    (done : message.encodeFrame = .ok frame) :
    ∃ received, decodeRpcMessage frame = .ok received ∧ message.Arrives received := by
  unfold decodeRpcMessage
  cases message with
  | bootstrap questionId =>
    obtain ⟨tag, read⟩ := bootstrap_comes_back done
    exact ⟨_, by rw [tag, Fallible.ok_bind, if_pos rfl, read]; rfl, .bootstrap questionId⟩
  | call request =>
    obtain ⟨content, back, tag, read⟩ := call_comes_back fits done
    exact ⟨_, by rw [tag, Fallible.ok_bind, if_neg (by decide), if_pos rfl, read]; rfl,
      .call request content back⟩
  | results request =>
    obtain ⟨content, back, tag, read⟩ := results_come_back fits done
    refine ⟨_, ?_, .results request content back⟩
    rw [tag, Fallible.ok_bind, if_neg (by decide), if_neg (by decide), if_pos rfl, read]
    rfl
  | exception request =>
    obtain ⟨tag, read⟩ := exception_comes_back fits done
    refine ⟨_, ?_, .exception request⟩
    rw [tag, Fallible.ok_bind, if_neg (by decide), if_neg (by decide), if_pos rfl, read]
    rfl
  | finish questionId releaseResultCaps requireEarlyCancellation =>
    obtain ⟨tag, read⟩ := finish_comes_back done
    refine ⟨_, ?_, .finish questionId releaseResultCaps requireEarlyCancellation⟩
    rw [tag, Fallible.ok_bind, if_neg (by decide), if_neg (by decide), if_neg (by decide), if_pos
      rfl, read]
    rfl
  | release request =>
    obtain ⟨tag, read⟩ := release_comes_back done
    refine ⟨_, ?_, .release request⟩
    rw [tag, Fallible.ok_bind, if_neg (by decide), if_neg (by decide), if_neg (by decide), if_neg
      (by decide), if_pos rfl, read]
    rfl

/-- **A call arrives.**  The ids are the same, the target is the one that the request names, the
capability table has the same descriptors in the same order, and the parameters have the same
tree. -/
theorem call_round_trip {request : RpcCallFrameRequest} (fits : request.Fits)
    (done : encodeCallRequestFrame request = .ok frame) :
    ∃ paramsContent, ComesBack (request.paramsContent.getD EMPTY_STRUCT_MESSAGE) paramsContent ∧
      decodeRpcMessage frame =
        .ok (.call ⟨request.questionId, request.interfaceId, request.methodId,
        onWireTarget request.callTarget, targetImportedCap (onWireTarget request.callTarget),
          paramsContent,
        (request.paramsCapTable.getD []).map RpcCapDescriptor.onWire⟩) := by
  obtain ⟨received, decoded, arrives⟩ := @decodeRpcMessage_encodeFrame _ (.call request) fits done
  cases arrives with
  | call _ paramsContent back => exact ⟨paramsContent, back, decoded⟩

/-- A call on a promised answer, with a capability of a third party. -/
def pipelinedCall : RpcCallFrameRequest :=
  ⟨7, 0xabcd, 3, none, some (.promisedAnswer 5 (some [⟨0, some 4⟩, ⟨1, some 2⟩])),
    some [0, 0, 0, 0, 2, 0, 0, 0, 0, 0, 0, 0, 1, 0, 0, 0, 42, 0, 0, 0, 0, 0, 0, 0],
    some [⟨1, 4, none, none⟩, ⟨5, 6, some 9, some [1, 2, 3]⟩]⟩

theorem pipelinedCall_round_trip : ∃ frame paramsContent, encodeCallRequestFrame pipelinedCall =
    .ok frame ∧
    ComesBack (pipelinedCall.paramsContent.getD EMPTY_STRUCT_MESSAGE) paramsContent ∧
      decodeRpcMessage frame =
        .ok (.call ⟨7, 0xabcd, 3, .promisedAnswer 5 (some [⟨0, none⟩, ⟨1, some 2⟩]), none,
        paramsContent, [⟨1, 4, none, none⟩, ⟨5, 6, some 9, some [1, 2, 3]⟩]⟩) := by
  obtain ⟨frame, done⟩ := Option.isSome_iff_exists.1
    (show (encodeCallRequestFrame pipelinedCall).toOption.isSome = true by decide)
  have done := Fallible.toOption_eq_some.1 done
  have fits : pipelinedCall.Fits := by
    refine ⟨by decide, ?_, ?_⟩
    · simp [pipelinedCall, RpcCapDescriptor.ContactFits]
    · intro questionId ops named
      cases named
      decide
  obtain ⟨paramsContent, back, decoded⟩ := call_round_trip fits done
  exact ⟨frame, paramsContent, done, back, decoded⟩

/-- **Results arrive.**  The flags have their defaults, the content has the same tree, and the
capability table the same descriptors. -/
theorem return_results_round_trip {request : RpcReturnResultsFrameRequest} (fits : request.Fits)
    (done : encodeReturnResultsFrame request = .ok frame) :
    ∃ content, ComesBack (request.content.getD EMPTY_STRUCT_MESSAGE) content ∧
      decodeRpcMessage frame = .ok (.ret ⟨request.answerId,
        .results content ((request.capTable.getD []).map RpcCapDescriptor.onWire),
        request.releaseParamCaps.getD true, request.noFinishNeeded.getD false⟩) := by
  obtain ⟨received, decoded, arrives⟩ :=
    @decodeRpcMessage_encodeFrame _ (.results request) fits done
  cases arrives with
  | results _ content back => exact ⟨content, back, decoded⟩

theorem return_hosted_round_trip : ∃ frame content,
    encodeReturnResultsFrame ⟨1, none, some [⟨1, 4, none, none⟩], none, some true⟩ = .ok frame ∧
      ComesBack EMPTY_STRUCT_MESSAGE content ∧
      decodeRpcMessage frame =
        .ok (.ret ⟨1, .results content [⟨1, 4, none, none⟩], true, true⟩) := by
  obtain ⟨frame, done⟩ := Option.isSome_iff_exists.1 (show (encodeReturnResultsFrame
    ⟨1, none, some [⟨1, 4, none, none⟩], none, some true⟩).toOption.isSome = true by decide)
  have done := Fallible.toOption_eq_some.1 done
  obtain ⟨content, back, decoded⟩ :=
    return_results_round_trip ⟨by decide, by simp [RpcCapDescriptor.ContactFits]⟩ done
  exact ⟨frame, content, done, back, decoded⟩

/-- **An exception arrives**, with its reason; of a reason that starts with a byte order mark, the
mark is lost. -/
theorem return_exception_round_trip {request : RpcReturnExceptionFrameRequest}
    (short : (MessageBuilder.utf8Encode request.reason).length + 1 < 2 ^ 29)
    (done : encodeReturnExceptionFrame request = .ok frame) :
    decodeRpcMessage frame = .ok (.ret ⟨request.answerId, .exception (withoutMark request.reason),
      request.releaseParamCaps.getD true, request.noFinishNeeded.getD false⟩) := by
  obtain ⟨received, decoded, arrives⟩ :=
    @decodeRpcMessage_encodeFrame _ (.exception request) short done
  cases arrives with
  | exception => exact decoded

theorem utf8Encode_gone : MessageBuilder.utf8Encode "gone" = [103, 111, 110, 101] := by
  rw [utf8Encode_eq]
  rfl

theorem return_gone_round_trip : ∃ frame, encodeReturnExceptionFrame ⟨1, "gone", some false, none⟩ =
    .ok frame ∧
    decodeRpcMessage frame = .ok (.ret ⟨1, .exception "gone", false, false⟩) := by
  have encodes : (encodeReturnExceptionFrame ⟨1, "gone", some false, none⟩).toOption.isSome =
      true := by
    unfold encodeReturnExceptionFrame
    simp only [utf8Encode_gone]
    decide
  obtain ⟨frame, done⟩ := Option.isSome_iff_exists.1 encodes
  have done := Fallible.toOption_eq_some.1 done
  exact ⟨frame, done, return_exception_round_trip (by rw [utf8Encode_gone]; decide) done⟩

/-- **A Finish arrives**, with its defaults: result capabilities are released, no early
cancellation. -/
theorem finish_round_trip {questionId : ℕ}
    {releaseResultCaps requireEarlyCancellation : Option Bool}
    (done : encodeFinishFrame questionId releaseResultCaps requireEarlyCancellation = .ok frame) :
    decodeRpcMessage frame =
      .ok (.finish ⟨questionId, releaseResultCaps.getD true,
        requireEarlyCancellation.getD false⟩) := by
  obtain ⟨received, decoded, arrives⟩ := @decodeRpcMessage_encodeFrame _
    (.finish questionId releaseResultCaps requireEarlyCancellation) trivial done
  cases arrives with
  | finish => exact decoded

theorem finish_keeping_round_trip : ∃ frame, encodeFinishFrame 4 (some false) none = .ok frame ∧
    decodeRpcMessage frame = .ok (.finish ⟨4, false, false⟩) := by
  obtain ⟨frame, done⟩ := Option.isSome_iff_exists.1
    (show (encodeFinishFrame 4 (some false) none).toOption.isSome = true by decide)
  exact ⟨frame, Fallible.toOption_eq_some.1 done,
    finish_round_trip (Fallible.toOption_eq_some.1 done)⟩

/-- **A bootstrap capability arrives.**  The client finds in the response the capability that the
host put there. -/
theorem bootstrap_response_round_trip {answerId capabilityIndex : ℕ}
    (done : encodeBootstrapResponseFrame answerId capabilityIndex = .ok frame) :
    ∃ message, decodeRpcMessage frame = .ok (.ret message) ∧ message.answerId = answerId ∧
      extractBootstrapCapabilityIndex message = .ok capabilityIndex := by
  obtain ⟨-, done⟩ := ensureUint_bind.1 done
  have fits :
      (⟨answerId, none, some [⟨CAP_DESCRIPTOR_TAG_SENDER_HOSTED, capabilityIndex, none, none⟩],
        none, none⟩ :
      RpcReturnResultsFrameRequest).Fits := ⟨by simp, by simp [RpcCapDescriptor.ContactFits]⟩
  obtain ⟨received, decoded, arrives⟩ := @decodeRpcMessage_encodeFrame _ (.results _) fits done
  cases arrives with
  | results _ content back => exact ⟨_, decoded, rfl, rfl⟩

theorem bootstrap_response_four : ∃ frame message, encodeBootstrapResponseFrame 9 4 = .ok frame ∧
    decodeRpcMessage frame = .ok (.ret message) ∧ message.answerId = 9 ∧
      extractBootstrapCapabilityIndex message = .ok 4 := by
  obtain ⟨frame, done⟩ := Option.isSome_iff_exists.1
    (show (encodeBootstrapResponseFrame 9 4).toOption.isSome = true by decide)
  have done := Fallible.toOption_eq_some.1 done
  obtain ⟨message, decoded, answer, capability⟩ := bootstrap_response_round_trip done
  exact ⟨frame, message, done, decoded, answer, capability⟩

/-! ## Streams of frames -/

/-- Every encoder finishes a builder. -/
theorem Outgoing.finished {message : Outgoing} (done : message.encodeFrame = .ok frame) :
    ∃ b : RpcWireMessageBuilder, b.toMessageBytes = .ok frame := by
  cases message with
  | bootstrap questionId =>
    obtain ⟨-, done⟩ := ensureUint_bind.1 done
    obtain ⟨new, -, done⟩ := Fallible.bind_eq_ok.1 done
    obtain ⟨b, -, framed⟩ := Fallible.bind_eq_ok.1 done
    exact ⟨b, framed⟩
  | call request =>
    obtain ⟨-, done⟩ := ensureUint_bind.1 done
    obtain ⟨-, done⟩ := ensureUint_bind.1 done
    obtain ⟨-, done⟩ := ensureUint_bind.1 done
    obtain ⟨target, -, done⟩ := Fallible.bind_eq_ok.1 done
    obtain ⟨new, -, done⟩ := Fallible.bind_eq_ok.1 done
    obtain ⟨b₁, -, done⟩ := Fallible.bind_eq_ok.1 done
    obtain ⟨b₂, -, done⟩ := Fallible.bind_eq_ok.1 done
    obtain ⟨b₃, -, done⟩ := Fallible.bind_eq_ok.1 done
    obtain ⟨b₄, -, done⟩ := Fallible.bind_eq_ok.1 done
    obtain ⟨b₅, -, done⟩ := Fallible.bind_eq_ok.1 done
    obtain ⟨b₆, -, framed⟩ := Fallible.bind_eq_ok.1 done
    exact ⟨b₆, framed⟩
  | results request =>
    obtain ⟨-, done⟩ := ensureUint_bind.1 done
    obtain ⟨new, -, done⟩ := Fallible.bind_eq_ok.1 done
    obtain ⟨b, -, framed⟩ := Fallible.bind_eq_ok.1 done
    exact ⟨b, framed⟩
  | exception request =>
    obtain ⟨-, done⟩ := ensureUint_bind.1 done
    obtain ⟨new, -, done⟩ := Fallible.bind_eq_ok.1 done
    obtain ⟨ex, -, done⟩ := Fallible.bind_eq_ok.1 done
    obtain ⟨b₁, -, done⟩ := Fallible.bind_eq_ok.1 done
    obtain ⟨b₂, -, framed⟩ := Fallible.bind_eq_ok.1 done
    exact ⟨b₂, framed⟩
  | finish questionId releaseResultCaps requireEarlyCancellation =>
    obtain ⟨-, done⟩ := ensureUint_bind.1 done
    obtain ⟨new, -, done⟩ := Fallible.bind_eq_ok.1 done
    obtain ⟨b₁, -, done⟩ := Fallible.bind_eq_ok.1 done
    obtain ⟨b₂, -, framed⟩ := Fallible.bind_eq_ok.1 done
    exact ⟨b₂, framed⟩
  | release request =>
    obtain ⟨-, done⟩ := ensureUint_bind.1 done
    obtain ⟨-, done⟩ := ensureUint_bind.1 done
    obtain ⟨new, -, done⟩ := Fallible.bind_eq_ok.1 done
    obtain ⟨b₁, -, done⟩ := Fallible.bind_eq_ok.1 done
    obtain ⟨b₂, -, framed⟩ := Fallible.bind_eq_ok.1 done
    exact ⟨b₂, framed⟩

/-- The limits of a framer admit a frame of one segment. -/
structure Admits (framer : CapnpFrameFramer) (frame : Bytes) : Prop where
  segmentCount : exceeds 1 framer.options.maxSegmentCount DEFAULT_MAX_SEGMENT_COUNT = false
  words : exceeds (frame.length / 8 - 1) framer.options.maxTraversalWords
    DEFAULT_MAX_TRAVERSAL_WORDS = false
  size : exceeds frame.length framer.options.maxFrameBytes DEFAULT_MAX_FRAME_BYTES = false
  buffer : framer.maxBufferedBytes.natGt frame.length = false
  nesting : framer.options.maxNestingDepth ≠ none → validateCapnpFrame frame framer.options = .ok ()

/-- The segment table of a frame that an encoder writes is right. -/
theorem Admits.acceptable {framer : CapnpFrameFramer} {b : RpcWireMessageBuilder}
    (admits : Admits framer frame) (framed : b.toMessageBytes = .ok frame) :
    framer.Acceptable frame := by
  obtain ⟨fits, rfl⟩ := MessageBuilder.toMessageBytes_eq_ok.1 framed
  have small := MessageBuilder.words_lt_of_fits fits
  have size := b.size
  set frame := toLE 4 0 ++ toLE 4 b.words ++ b.bytes with shape
  have length : frame.length = 8 + 8 * b.words := by
    simp only [shape, List.length_append, length_toLE]
    omega
  have count : segmentCountOf frame = 1 := by
    unfold segmentCountOf
    rw [shape, List.append_assoc]
    exact congrArg (· + 1) (readLE_middle [] (toLE 4 b.words ++ b.bytes) 4 0)
  have declared : readLE frame 4 4 = b.words := by
    have field := readLE_middle (toLE 4 0) b.bytes 4 b.words
    rwa [length_toLE, Nat.mod_eq_of_lt (by omega)] at field
  have words : totalWordsOf frame = b.words := by
    unfold totalWordsOf segmentWordsOf
    rw [count]
    exact declared
  refine ⟨by omega, by rw [count]; exact admits.segmentCount, ?_, ?_, admits.size, admits.buffer,
    admits.nesting⟩
  · rw [count, words, length, show headerBytesOf 1 = 8 from rfl]
    omega
  · have admitted := admits.words
    rwa [length, show (8 + 8 * b.words) / 8 - 1 = b.words by omega, ← words] at admitted

/-- What a view shows decodes to the message. -/
def Delivers (arrays : List Bytes) (message : Outgoing) (view : View) : Prop :=
  ∃ received, decodeRpcMessage (view.contents arrays) = .ok received ∧ message.Arrives received

theorem delivers_of_contents {arrays : List Bytes} : ∀ {sent : List Outgoing} {frames : List Bytes}
    {popped : List View},
    (∀ message ∈ sent, message.Fits) → List.Forall₂ (fun message frame => message.encodeFrame =
      .ok frame) sent frames →
    popped.map (·.contents arrays) = frames → List.Forall₂ (Delivers arrays) sent popped := by
  intro sent frames popped fits encoded contents
  induction encoded generalizing popped with
  | nil =>
    rw [List.map_eq_nil_iff.1 contents]
    exact .nil
  | @cons message frame sent frames done _ ih =>
    obtain ⟨view, popped, rfl, rfl, rest⟩ := List.map_eq_cons_iff.1 contents
    exact .cons (decodeRpcMessage_encodeFrame (fits message List.mem_cons_self) done)
      (ih (fun other mem => fits other (List.mem_cons_of_mem message mem)) rest)

/-- With everything buffered, a pop that finds no frame finds the stream drained. -/
theorem drained_of_popFrame {s : CapnpFrameFramer} {coming : List Bytes}
    (follows : s.Follows coming) (whole : s.buffered = coming.flatten)
    (none : s.popFrame.1 = .ok none) : coming = [] := by
  cases coming with
  | nil => rfl
  | cons frame rest =>
    obtain ⟨_, _, v, s', -, pop, -⟩ | ⟨s', -, -, -, -, short⟩ := follows.popFrame
    · rw [pop] at none
      cases none
    · have size := s.length_buffered
      have := short frame rest rfl
      rw [whole, List.flatten_cons, List.length_append] at size
      omega

/-- **Messages are delivered.**  However the stream of the frames is cut into chunks, and however
pushes and pops are interleaved, what is popped decodes to the messages sent, in their order and
without a gap; with all frames pushed, a pop finds no more frame only after the last message. -/
theorem messages_delivered {options : CapnpFrameFramerOptions} {framer : CapnpFrameFramer}
    (created : CapnpFrameFramer.new options = .ok framer) {sent : List Outgoing}
    {frames : List Bytes} (fits : ∀ message ∈ sent, message.Fits)
    (encoded : sent.mapM Outgoing.encodeFrame = .ok frames)
    (admitted : ∀ frame ∈ frames, Admits framer frame) {calls : List CapnpFrameFramer.Call}
    (stream : CapnpFrameFramer.pushed calls <+: frames.flatten) (room : framer.PushesFit calls) :
    ∃ popped s, framer.run calls = .ok (popped, s) ∧
      List.Forall₂ (Delivers s.arrays) (sent.take popped.length) popped ∧
      (CapnpFrameFramer.pushed calls = frames.flatten → s.popFrame.1 = .ok none →
        popped.length = sent.length) := by
  have encoded := Fallible.mapM_eq_ok.1 encoded
  have acceptable : ∀ frame ∈ frames, framer.Acceptable frame := by
    intro frame mem
    obtain ⟨i, low, rfl⟩ := List.getElem_of_mem mem
    obtain ⟨b, framed⟩ :=
      Outgoing.finished ((List.forall₂_iff_get.1 encoded).2 i (encoded.length_eq ▸ low) low)
    exact (admitted _ mem).acceptable framed
  obtain ⟨empty, start⟩ := CapnpFrameFramer.new_follows created acceptable
  obtain ⟨popped, s, k, result, contents, bytes, follows, -⟩ :=
    CapnpFrameFramer.run_spec start (by rwa [empty]) room
  rw [empty, List.nil_append] at bytes
  have count : popped.length = min k frames.length := by
    rw [← List.length_map, contents, List.length_take]
  have taken : frames.take popped.length = frames.take k := by
    rw [count, List.take_eq_take_iff]
    omega
  refine ⟨popped, s, result, ?_, fun all none => ?_⟩
  · refine delivers_of_contents (fun message mem => fits message (List.mem_of_mem_take mem))
      ?_ contents
    rw [← taken]
    exact List.forall₂_take popped.length encoded
  · have whole : s.buffered = (frames.drop k).flatten := by
      have joined := bytes.symm.trans all
      rw [← List.take_append_drop k frames, List.flatten_append, List.take_append_drop] at joined
      exact List.append_cancel_left joined
    have rest := List.drop_eq_nil_iff.1 (drained_of_popFrame follows whole none)
    rw [count, encoded.length_eq]
    omega

/-- A bootstrap request and a Finish, cut inside the second frame. -/
theorem two_messages_delivered : ∃ framer frames popped s, CapnpFrameFramer.new ⟨noLimits, none⟩ =
    .ok framer ∧
    [Outgoing.bootstrap 7, .finish 7 (some false) none].mapM Outgoing.encodeFrame = .ok frames ∧
    framer.run [.push (frames.flatten.take 50), .push (frames.flatten.drop 50), .popFrame,
      .popFrame] = .ok (popped, s) ∧
      List.Forall₂ (Delivers s.arrays)
      ([Outgoing.bootstrap 7, .finish 7 (some false) none].take popped.length) popped := by
  let framer : CapnpFrameFramer :=
    ⟨noLimits, .ofNat DEFAULT_MAX_FRAME_BYTES, [[]], 0, 0, none, Nat.one_pos, Nat.zero_le _⟩
  have created : CapnpFrameFramer.new ⟨noLimits, none⟩ = .ok framer := by
    unfold CapnpFrameFramer.new
    rw [if_neg (by decide +kernel)]
    rfl
  let frames : List Bytes :=
    [[0, 0, 0, 0, 5, 0, 0, 0, 0, 0, 0, 0, 1, 0, 1, 0, 8, 0, 0, 0, 0, 0, 0, 0, 0, 0, 0, 0, 1, 0, 1,
      0, 7, 0, 0, 0, 0, 0, 0, 0, 0, 0, 0, 0, 0, 0, 0, 0],
    [0, 0, 0, 0, 4, 0, 0, 0, 0, 0, 0, 0, 1, 0, 1, 0, 4, 0, 0, 0, 0, 0, 0, 0, 0, 0, 0, 0, 1, 0, 0, 0,
      7, 0, 0, 0, 3, 0, 0, 0]]
  have encoded : [Outgoing.bootstrap 7, .finish 7 (some false) none].mapM Outgoing.encodeFrame =
      .ok frames :=
    Fallible.mapM_eq_ok.2 (.cons (Fallible.toOption_eq_some.1 (by decide))
      (.cons (Fallible.toOption_eq_some.1 (by decide)) .nil))
  have admitted : ∀ frame ∈ frames, Admits framer frame := by
    intro frame mem
    have size : frame.length = 48 ∨ frame.length = 40 := by
      simp only [frames, List.mem_cons, List.not_mem_nil, or_false] at mem
      rcases mem with rfl | rfl
      · exact .inl rfl
      · exact .inr rfl
    rcases size with size | size
    · exact ⟨by decide, by rw [size]; decide, by rw [size]; decide, by rw [size]; decide +kernel,
        fun limited => absurd rfl limited⟩
    · exact ⟨by decide, by rw [size]; decide, by rw [size]; decide, by rw [size]; decide +kernel,
        fun limited => absurd rfl limited⟩
  have room : framer.PushesFit
      [.push (frames.flatten.take 50), .push (frames.flatten.drop 50), .popFrame, .popFrame] := by
    have first : framer.maxBufferedBytes.natGt (framer.length + (frames.flatten.take 50).length) =
        false := by
      decide +kernel
    refine ⟨first, fun s₁ pushed => ?_⟩
    obtain ⟨s', result, content, -, kept⟩ := CapnpFrameFramer.push_spec first
    obtain rfl := Except.ok.inj (pushed.symm.trans result)
    refine ⟨?_, fun s₂ _ => trivial⟩
    rw [kept.maxBufferedBytes, CapnpFrameFramer.bufferedBytes,
      ← CapnpFrameFramer.length_buffered, content]
    decide +kernel
  obtain ⟨popped, s, result, delivered, -⟩ :=
    messages_delivered created (by simp [Outgoing.Fits]) encoded admitted (by decide) room
  exact ⟨framer, frames, popped, s, created, encoded, result, delivered⟩

end Wire

end CapnpDeno
