import Cmpp.Proofs.Streams

/-!
# Frames that are too long

The fields of a packet take up a number of bytes that depends on its kind, on how many destinations
it names and on how long its content is, and on nothing else (`Packet.fieldsLength`). A version
does not allow every length that comes about so: a short message for many terminals can be longer,
submitted in any version or forwarded in 2.x. Packets of all other kinds stay below the greatest
length even when they are full (`Packet.oversized_iff`).
-/

namespace Cmpp

namespace Packet

variable {version : Version} {packet : Packet} {sequenceId : UInt32} {bytes : Bytes}

/-- How many bytes the fields of a packet take up. -/
def fieldsLength : Packet → Nat
  | ⟨.connect, _, _⟩ => 27
  | ⟨.connectResponse .second, _, _⟩ => 18
  | ⟨.connectResponse .third, _, _⟩ => 21
  | ⟨.terminate, _, _⟩ | ⟨.terminateResponse, _, _⟩ | ⟨.activeTest, _, _⟩ => 0
  | ⟨.activeTestResponse, _, _⟩ => 1
  | ⟨.submit .second, _, message⟩ =>
    126 + 21 * message.destTerminalIds.length + message.msgContent.length
  | ⟨.submit .third, _, message⟩ =>
    151 + 32 * message.destTerminalIds.length + message.msgContent.length
  | ⟨.submitResponse .second, _, _⟩ | ⟨.deliverResponse .second, _, _⟩ => 9
  | ⟨.submitResponse .third, _, _⟩ | ⟨.deliverResponse .third, _, _⟩ => 12
  | ⟨.deliver .second, _, message⟩ => 73 + message.msgContent.length
  | ⟨.deliver .third, _, message⟩ => 97 + message.msgContent.length
  | ⟨.forward .second, _, message⟩ =>
    140 + 21 * message.destIds.length + message.msgContent.length
  | ⟨.forward .third, _, message⟩ =>
    252 + 21 * message.destIds.length + message.msgContent.length
  | ⟨.forwardResponse .second, _, _⟩ => 11
  | ⟨.forwardResponse .third, _, _⟩ => 14

/-- Whether a packet names so many destinations and has so long a content that its frame is longer
than is allowed. -/
def Oversized : Packet → Prop
  | ⟨.submit .second, _, message⟩ =>
    2339 < 21 * message.destTerminalIds.length + message.msgContent.length
  | ⟨.submit .third, _, message⟩ =>
    3172 < 32 * message.destTerminalIds.length + message.msgContent.length
  | ⟨.forward .second, _, message⟩ =>
    2325 < 21 * message.destIds.length + message.msgContent.length
  | _ => False

/-- The fields take up as many bytes as the values of their slots. -/
theorem size_eq_fieldsLength (packet : Packet) :
    Record.size packet.kind.shape.layout (packet.kind.shape.toRecord packet.fields) =
      packet.fieldsLength := by
  rw [Record.size_eq_minSize_add_extra]
  obtain ⟨kind, sequenceId, fields⟩ := packet
  cases kind with
  | connectResponse generation | submitResponse generation | deliver generation
  | deliverResponse generation | forwardResponse generation => cases generation <;> rfl
  | submit generation | forward generation =>
    cases generation <;> exact (Nat.add_assoc ..).symm
  | _ => rfl

/-- An encoded frame is a header and the fields, which are no longer than their layout allows. -/
theorem length_encode (encoded : packet.encode sequenceId = .ok bytes) :
    bytes.length = headerLength + packet.fieldsLength ∧
      packet.fieldsLength ≤ packet.kind.shape.layout.maxSize := by
  obtain ⟨fields, written, rfl⟩ := encode_eq_ok.mp encoded
  obtain ⟨length, bound⟩ := Record.length_encode written
  rw [size_eq_fieldsLength] at length bound
  refine ⟨?_, bound⟩
  simp only [frame, List.length_append, length_word, length, headerLength]

/-- The four words and the fields of an encoded frame. -/
theorem words_encode (encoded : packet.encode sequenceId = .ok bytes) :
    bytes.take 4 = bigEndian 4 bytes.length ∧ (bytes.drop 4).take 4 = word packet.command.id ∧
      (bytes.drop 8).take 4 = word sequenceId := by
  obtain ⟨-, -, announced⟩ := announces_length encoded
  obtain ⟨fields, -, rfl⟩ := encode_eq_ok.mp encoded
  refine ⟨?_, ?_, carries_sequenceId encoded⟩
  · rw [← announced, announcedLength_frame, frame, List.append_assoc, List.append_assoc]
    exact List.take_left' (length_word _)
  · rw [frame, List.append_assoc, List.append_assoc, List.drop_left' (length_word _)]
    exact List.take_left' (length_word _)

/-- A version has the fields of a packet for its command when the generation of the version has
them. -/
theorem knownTo_iff :
    packet.KnownTo version ↔
      Kind.ofCommand? version.generation packet.kind.command = some packet.kind := by
  rw [KnownTo, Kind.resolve?, command, Command.ofId?_id, Option.bind_some]

end Packet

/-- The greatest length that a generation of versions allows. -/
def Generation.maxLength : Generation → Nat
  | .second => 2477
  | .third => 3335

/-- A version allows the lengths that its generation allows. -/
theorem Version.maxLength_eq (version : Version) :
    version.maxLength = version.generation.maxLength := by
  cases version <;> rfl

namespace Packet

variable {version : Version} {packet : Packet} {sequenceId : UInt32} {bytes : Bytes}

/-- The packets that are oversized are those whose frames are longer than a version that knows their
kind allows. -/
theorem oversized_iff (known : packet.KnownTo version)
    (encoded : packet.encode sequenceId = .ok bytes) :
    packet.Oversized ↔ version.maxLength < bytes.length := by
  obtain ⟨length, bound⟩ := length_encode encoded
  rw [knownTo_iff] at known
  rw [length, version.maxLength_eq]
  generalize version.generation = spoken at known
  obtain ⟨kind, number, fields⟩ := packet
  -- Messages of most kinds are short enough even when they are full.
  have roomy (full : headerLength + kind.shape.layout.maxSize ≤ spoken.maxLength) :
      ¬spoken.maxLength < headerLength + fieldsLength ⟨kind, number, fields⟩ :=
    Nat.not_lt.mpr (Nat.le_trans (Nat.add_le_add_left bound _) full)
  cases kind with
  | submit generation =>
    cases known
    cases spoken <;>
      simp only [Oversized, fieldsLength, Generation.maxLength, headerLength] <;> omega
  | forward generation =>
    cases known
    cases spoken with
    | second =>
      simp only [Oversized, fieldsLength, Generation.maxLength, headerLength]
      omega
    | third => exact iff_of_false id (roomy (by decide))
  | connectResponse generation | submitResponse generation | deliver generation
  | deliverResponse generation | forwardResponse generation =>
    cases known
    cases spoken <;> exact iff_of_false id (roomy (by decide))
  | _ => cases spoken <;> exact iff_of_false id (roomy (by decide))

/-- The words of an encoded frame are its length, which is never cut off by the width of a word, the
number of the command and the sequence number, and its length is settled by the packet. A version
that knows the kind of the packet refuses the length of the frame just if the packet is oversized,
as only short messages that are submitted, or forwarded in 2.x, can be. -/
theorem frame_length_exact (encoded : packet.encode sequenceId = .ok bytes) :
    bytes.take 4 = bigEndian 4 bytes.length ∧ bytes.length ≤ maxFrameLength ∧
      (bytes.drop 4).take 4 = word packet.command.id ∧ (bytes.drop 8).take 4 = word sequenceId ∧
      bytes.length = headerLength + packet.fieldsLength ∧
      ∀ version, packet.KnownTo version →
        (packet.Oversized →
          checkFrameLength version bytes.length = .error (.frameTooLong bytes.length version)) ∧
        (¬packet.Oversized → checkFrameLength version bytes.length = .ok ()) := by
  obtain ⟨first, second, third⟩ := words_encode encoded
  obtain ⟨-, longest, -⟩ := announces_length encoded
  refine ⟨first, longest, second, third, (length_encode encoded).1, fun version known => ?_⟩
  have long := oversized_iff known encoded
  constructor
  · intro oversized
    rw [checkFrameLength, if_neg (Nat.not_le.mpr (long.mp oversized))]
  · intro fits
    exact checkFrameLength_eq_ok.mpr (Nat.not_lt.mp (mt long.mpr fits))

set_option maxRecDepth 20000 in
/-- The frame of a message for a hundred terminals is refused in 3.0, that of one for two is not. -/
theorem frame_length_exact_crowd :
    Encoding.crowd.frame.length = 3363 ∧
      checkFrameLength .v30 Encoding.crowd.frame.length = .error (.frameTooLong 3363 .v30) ∧
      Encoding.note.frame.length = 230 ∧
      checkFrameLength .v30 Encoding.note.frame.length = .ok () := by
  obtain ⟨-, -, -, -, crowded, refused⟩ := frame_length_exact Encoding.crowd.encoded
  obtain ⟨-, -, -, -, short, allowed⟩ := frame_length_exact Encoding.note.encoded
  have long : Encoding.crowd.packet.Oversized := by
    change 3172 < 32 * (List.replicate 100 "").length + 0
    decide
  have fits : ¬Encoding.note.packet.Oversized := by
    change ¬3172 < 32 * 2 + 3
    decide
  have length : Encoding.crowd.frame.length = 3363 := crowded.trans rfl
  refine ⟨length, ?_, short.trans rfl, (allowed .v30 rfl).2 fits⟩
  have error := (refused .v30 rfl).1 long
  rwa [length] at error ⊢

end Packet

end Cmpp
