import Cmpp.Proofs.Frames
import Cmpp.Proofs.Sizes

/-!
# Frames one after another

Frames that stand one after another are decoded one after another, whatever follows the last of
them (`frames_decode_in_turn`): each frame announces its own length, so decoding one stands exactly
at the next. Whether a frame may be sent and whether its announced length is accepted on arrival
are the same question.
-/

namespace Cmpp

/-- A packet encoded under a sequence number. -/
structure Encoding where
  /-- The packet. -/
  packet : Packet
  /-- The sequence number. -/
  sequenceId : UInt32
  /-- The frame. -/
  frame : Bytes
  /-- The frame is that of the packet. -/
  encoded : packet.encode sequenceId = .ok frame

/-- Whether a version has the fields of a packet for its command. -/
def Packet.KnownTo (packet : Packet) (version : Version) : Prop :=
  Kind.resolve? version packet.command.id = some packet.kind

/-- Frames are decoded off the front of bytes, each with its packet and its length, and leave the
rest. -/
inductive DecodesInTurn (version : Version) : Bytes → List (Packet × Nat) → Bytes → Prop
  /-- No more frames are decoded. -/
  | done (rest : Bytes) : DecodesInTurn version rest [] rest
  /-- The next frame is decoded, and others after it. -/
  | next {bytes rest : Bytes} {packet : Packet} {length : Nat} {others : List (Packet × Nat)}
    (decoded : decodeFrame version bytes = .ok (packet, length))
    (more : DecodesInTurn version (bytes.drop length) others rest) :
    DecodesInTurn version bytes ((packet, length) :: others) rest

variable {version : Version}

/-- When frames have been decoded in turn, decoding goes on with the rest. -/
theorem DecodesInTurn.decodeFrames_eq {bytes rest : Bytes} {packets : List (Packet × Nat)}
    (decodes : DecodesInTurn version bytes packets rest) :
    decodeFrames version bytes =
      (packets ++ (decodeFrames version rest).1, (decodeFrames version rest).2) := by
  induction decodes with
  | done rest => rfl
  | @next bytes rest packet length others decoded more ih =>
    rw [decodeFrames]
    split
    · rename_i error refused
      rw [decoded] at refused
      cases refused
    · rename_i other otherLength again
      rw [decoded] at again
      cases again
      simp only [ih, List.cons_append]

/-- A frame may be sent when it is not longer than the version allows. -/
theorem checkFrameLength_eq_ok {length : Nat} :
    checkFrameLength version length = .ok () ↔ length ≤ version.maxLength := by
  simp [checkFrameLength]

namespace Encoding

/-- The packet that arrives. -/
def arrival (encoding : Encoding) : Packet :=
  { encoding.packet.trimmed with sequenceId := encoding.sequenceId }

/-- A frame is its length, its command number and its body. -/
theorem frame_eq (encoding : Encoding) :
    encoding.frame = word (announcedLength encoding.frame) ++
      (word encoding.packet.command.id ++ bodyOf encoding.frame) := by
  obtain ⟨packet, sequenceId, bytes, encoded⟩ := encoding
  obtain ⟨fields, -, rfl⟩ := Packet.encode_eq_ok.mp encoded
  simp only [announcedLength_frame, bodyOf_frame]
  simp only [Cmpp.frame, List.append_assoc]

/-- The same holds with bytes behind the frame. -/
theorem frame_append (encoding : Encoding) (rest : Bytes) :
    encoding.frame ++ rest = word (announcedLength encoding.frame) ++
      (word encoding.packet.command.id ++ (bodyOf encoding.frame ++ rest)) := by
  have parts := congrArg (· ++ rest) encoding.frame_eq
  simpa only [List.append_assoc] using parts

/-- The length of a frame is allowed exactly when it is accepted. -/
theorem allowed_iff_accepted (encoding : Encoding) :
    checkFrameLength version encoding.frame.length = .ok () ↔
      checkTotalLength version (announcedLength encoding.frame) = .ok () := by
  obtain ⟨least, -, announced⟩ := Packet.announces_length encoding.encoded
  rw [checkFrameLength_eq_ok, checkTotalLength_eq_ok, announced]
  simp only [headerLength] at least
  simp [Version.accepts, Version.minLength, least]

/-- A frame whose length is accepted is decoded as its packet, whatever follows. -/
theorem decodeFrame_append (encoding : Encoding) (known : encoding.packet.KnownTo version)
    (accepted : checkTotalLength version (announcedLength encoding.frame) = .ok ())
    (rest : Bytes) :
    decodeFrame version (encoding.frame ++ rest) =
      .ok (encoding.arrival, encoding.frame.length) := by
  obtain ⟨-, -, announced⟩ := Packet.announces_length encoding.encoded
  have length := congrArg List.length encoding.frame_eq
  simp only [List.length_append, length_word] at length
  let preamble : Preamble := ⟨announcedLength encoding.frame, encoding.packet.command.id⟩
  have read : decodeBody version preamble (bodyOf encoding.frame) = .ok encoding.arrival :=
    decodeBody_eq_ok.mpr ⟨_, known, Packet.decode_encode encoding.encoded⟩
  refine decodeFrame_eq_ok.mpr ⟨preamble, bodyOf encoding.frame, rest,
    encoding.frame_append rest, checkTotalLength_eq_ok.mp accepted, Command.isValidId_id _, ?_,
    read, announced.symm⟩
  simp only [Preamble.bodyLength, preambleLength, preamble, announced]
  omega

/-- A frame whose length is not accepted is refused for it, whatever follows. -/
theorem decodeFrame_refused (encoding : Encoding)
    (refused : checkTotalLength version (announcedLength encoding.frame) ≠ .ok ())
    (rest : Bytes) :
    decodeFrame version (encoding.frame ++ rest) =
      .error (.invalidTotalLength (announcedLength encoding.frame) version) := by
  have outside : ¬version.accepts (announcedLength encoding.frame).toNat := fun accepted =>
    refused (checkTotalLength_eq_ok.mpr accepted)
  rw [frame_append]
  exact (FrameReading.badLength outside).decodeFrame_eq

end Encoding

/-- Frames whose lengths are accepted are decoded in turn, and leave what follows them. -/
theorem decodesInTurn_frames {encodings : List Encoding}
    (known : ∀ encoding ∈ encodings, encoding.packet.KnownTo version)
    (accepted : ∀ encoding ∈ encodings,
      checkTotalLength version (announcedLength encoding.frame) = .ok ()) (rest : Bytes) :
    DecodesInTurn version (encodings.flatMap (·.frame) ++ rest)
      (encodings.map fun encoding => (encoding.arrival, encoding.frame.length)) rest := by
  induction encodings with
  | nil => exact .done rest
  | cons encoding encodings ih =>
    rw [List.flatMap_cons, List.append_assoc]
    refine .next (encoding.decodeFrame_append (known _ List.mem_cons_self)
      (accepted _ List.mem_cons_self) _) ?_
    rw [List.drop_left]
    exact ih (fun other inside => known other (List.mem_cons_of_mem _ inside))
      fun other inside => accepted other (List.mem_cons_of_mem _ inside)

/-- Of every encoded frame, the length may be sent exactly when it is accepted on arrival. If the
frames may all be sent, they are decoded in turn as their packets, trimmed, each with the length of
its frame, and leave exactly what follows them. A frame that may not be sent is refused for its
length. -/
theorem frames_decode_in_turn (version : Version) (encodings : List Encoding) (rest : Bytes)
    (known : ∀ encoding ∈ encodings, encoding.packet.KnownTo version) :
    (∀ encoding ∈ encodings,
      (checkFrameLength version encoding.frame.length = .ok () ↔
        checkTotalLength version (announcedLength encoding.frame) = .ok ())) ∧
    ((∀ encoding ∈ encodings, checkFrameLength version encoding.frame.length = .ok ()) →
      let packets := encodings.map fun encoding =>
        ({ encoding.packet.trimmed with sequenceId := encoding.sequenceId },
          encoding.frame.length)
      DecodesInTurn version (encodings.flatMap (·.frame) ++ rest) packets rest ∧
        decodeFrames version (encodings.flatMap (·.frame) ++ rest) =
          (packets ++ (decodeFrames version rest).1, (decodeFrames version rest).2)) ∧
    ∀ encoding ∈ encodings, checkFrameLength version encoding.frame.length ≠ .ok () →
      ∃ length : UInt32, length.toNat = encoding.frame.length ∧
        decodeFrame version (encoding.frame ++ rest) =
          .error (.invalidTotalLength length version) := by
  refine ⟨fun encoding _ => encoding.allowed_iff_accepted, ?_, ?_⟩
  · intro allowed packets
    have decodes := decodesInTurn_frames known
      (fun encoding inside => encoding.allowed_iff_accepted.mp (allowed encoding inside)) rest
    exact ⟨decodes, decodes.decodeFrames_eq⟩
  · intro encoding _ long
    obtain ⟨-, -, announced⟩ := Packet.announces_length encoding.encoded
    exact ⟨_, announced, encoding.decodeFrame_refused
      (fun accepted => long (encoding.allowed_iff_accepted.mpr accepted)) rest⟩

/-- When no frame can be decoded, that is all there is to it. -/
theorem decodeFrames_of_error {bytes : Bytes} {error : Error}
    (refused : decodeFrame version bytes = .error error) :
    decodeFrames version bytes = ([], error) := by
  rw [decodeFrames]
  split
  · rename_i other again
    rw [refused] at again
    cases again
    rfl
  · rename_i packet length decoded
    rw [refused] at decoded
    cases decoded

namespace Encoding

set_option maxRecDepth 4000 in
/-- A short message for two terminals. -/
def note : Encoding := ⟨.sample, 7, _, rfl⟩

/-- A test of the link. -/
def heartbeat : Encoding := ⟨⟨.activeTest, 0, ()⟩, 8, _, rfl⟩

set_option maxRecDepth 20000 in
/-- A short message for so many terminals that its frame is longer than any version allows. -/
def crowd : Encoding :=
  ⟨⟨.submit .third, 0, { destTerminalIds := List.replicate 100 "" }⟩, 9, _, rfl⟩

end Encoding

set_option maxRecDepth 20000 in
/-- Two frames are decoded, and the third, which is too long, is refused. -/
theorem frames_decode_in_turn_crowd :
    let frames := Encoding.note.frame ++ (Encoding.heartbeat.frame ++ Encoding.crowd.frame)
    decodeFrames .v30 frames =
      ([({ Packet.sample.trimmed with sequenceId := 7 }, Encoding.note.frame.length),
          (⟨.activeTest, 8, ()⟩, 12)],
        .invalidTotalLength 3363 .v30) := by
  intro frames
  have known : ∀ encoding ∈ [Encoding.note, .heartbeat], encoding.packet.KnownTo .v30 := by
    simp only [List.mem_cons, List.not_mem_nil, or_false, forall_eq_or_imp, forall_eq]
    exact ⟨rfl, rfl⟩
  have allowed : ∀ encoding ∈ [Encoding.note, .heartbeat],
      checkFrameLength .v30 encoding.frame.length = .ok () := by
    simp only [List.mem_cons, List.not_mem_nil, or_false, forall_eq_or_imp, forall_eq,
      checkFrameLength_eq_ok]
    exact ⟨by decide, by decide⟩
  have long : checkFrameLength .v30 Encoding.crowd.frame.length ≠ .ok () := by
    rw [Ne, checkFrameLength_eq_ok]
    decide
  have knownLast : ∀ encoding ∈ [Encoding.crowd], encoding.packet.KnownTo .v30 := by
    simp only [List.mem_singleton, forall_eq]
    rfl
  obtain ⟨-, inTurn, -⟩ := frames_decode_in_turn .v30 [.note, .heartbeat] Encoding.crowd.frame known
  obtain ⟨-, -, refused⟩ := frames_decode_in_turn .v30 [.crowd] [] knownLast
  obtain ⟨length, announced, error⟩ := refused _ List.mem_cons_self long
  have same : length = 3363 := UInt32.toNat_inj.mp (announced.trans (by decide))
  rw [List.append_nil, same] at error
  have decoded := (inTurn allowed).2
  rw [decodeFrames_of_error error] at decoded
  rw [List.append_nil, List.flatMap_cons, List.flatMap_cons, List.flatMap_nil, List.append_nil,
    List.append_assoc] at decoded
  exact decoded

end Cmpp
