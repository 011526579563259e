import Cmpp.Packet
import Cmpp.Proofs.Records

/-!
# Packets and their bodies

A frame's body starts at the sequence number. Encoding a packet and decoding the body gives the
packet back with its texts trimmed, under the sequence number that was written; decoding a body and
encoding the packet gives the same body. So the bodies that are accepted as packets of a kind are
exactly those that packets of this kind are encoded with.
-/

namespace Cmpp

/-- The body of a frame: what follows its preamble. -/
def bodyOf (frame : Bytes) : Bytes := frame.drop preambleLength

/-- The body of an encoded frame is its sequence number and its fields. -/
@[simp] theorem bodyOf_frame (command : Command) (sequenceId : UInt32) (fields : Bytes) :
    bodyOf (frame command sequenceId fields) = word sequenceId ++ fields := by
  have length : (word (UInt32.ofNat (headerLength + fields.length)) ++ word command.id).length =
      preambleLength := by simp [preambleLength]
  rw [bodyOf, frame, List.append_assoc, ← length, List.drop_left]

namespace Packet

variable {packet : Packet} {kind : Kind} {sequenceId : UInt32} {bytes body : Bytes}

/-- A packet whose texts are trimmed. -/
def trimmed (packet : Packet) : Packet :=
  { packet with fields := packet.kind.shape.trimmed packet.fields }

/-- No text of the packet ends in NUL. -/
def Clean (packet : Packet) : Prop := packet.kind.shape.Clean packet.fields

/-- A packet without NUL at the end of its texts has nothing to be trimmed. -/
theorem trimmed_of_clean (clean : packet.Clean) : packet.trimmed = packet := by
  rw [trimmed, Shape.trimmed_of_clean clean]

/-- A packet is encoded when its fields are, and then as the frame around them. -/
theorem encode_eq_ok :
    packet.encode sequenceId = .ok bytes ↔
      ∃ fields, packet.kind.shape.encode packet.fields = .ok fields ∧
        frame packet.command sequenceId fields = bytes :=
  map_eq_ok

/-- A packet is decoded from a sequence number and its fields, and from nothing else. -/
theorem decode_eq_ok :
    Packet.decode kind body = .ok packet ↔
      ∃ sequenceId fields value, body = word sequenceId ++ fields ∧
        kind.shape.decode fields = .ok value ∧ packet = ⟨kind, sequenceId, value⟩ := by
  constructor
  · intro decoded
    obtain ⟨⟨sequenceId, fields⟩, first, others⟩ := bind_eq_ok.mp decoded
    obtain ⟨value, read, made⟩ := bind_eq_ok.mp others
    cases made
    exact ⟨sequenceId, fields, value, decodeWord_eq_ok first, read, rfl⟩
  · rintro ⟨sequenceId, fields, value, rfl, read, rfl⟩
    rw [Packet.decode, decodeWord_word]
    simp [bind, Except.bind, read]

/-- The body of an encoded packet is decoded as the trimmed packet under the number written. -/
theorem decode_encode (encoded : packet.encode sequenceId = .ok bytes) :
    Packet.decode packet.kind (bodyOf bytes) = .ok { packet.trimmed with sequenceId } := by
  obtain ⟨fields, written, rfl⟩ := encode_eq_ok.mp encoded
  rw [bodyOf_frame]
  exact decode_eq_ok.mpr ⟨_, _, _, rfl, Shape.decode_encode written, rfl⟩

/-- A decoded packet is of the kind asked for and is encoded with the body it was decoded from. -/
theorem encode_decode (decoded : Packet.decode kind body = .ok packet) :
    packet.kind = kind ∧
      ∃ fields, body = word packet.sequenceId ++ fields ∧
        packet.encode packet.sequenceId =
          .ok (frame packet.command packet.sequenceId fields) := by
  obtain ⟨sequenceId, fields, value, rfl, read, rfl⟩ := decode_eq_ok.mp decoded
  exact ⟨rfl, fields, rfl, encode_eq_ok.mpr ⟨fields, Shape.encode_decode read, rfl⟩⟩

/-- What is decoded from the body of an encoded packet is that packet, trimmed, under the sequence
number written; if no text of the packet ends in NUL, it is the packet itself. -/
theorem encoded_reads_trimmed (encoded : packet.encode sequenceId = .ok bytes) :
    Packet.decode packet.kind (bodyOf bytes) = .ok { packet.trimmed with sequenceId } ∧
      (packet.Clean →
        Packet.decode packet.kind (bodyOf bytes) = .ok { packet with sequenceId }) := by
  have decoded := decode_encode encoded
  refine ⟨decoded, fun clean => ?_⟩
  rw [decoded, trimmed_of_clean clean]

/-- A message for two terminals, with NULs inside and at the end of its texts. -/
def sample : Packet :=
  ⟨.submit .third, 1,
    { feeTerminalId := "\u5317\x00\u4eac\x00\x00", destTerminalIds := ["139\x00", "\u00e9"],
      msgContent := [0, 1, 0] }⟩

set_option maxRecDepth 2000 in
/-- NULs inside a text and characters of several bytes are kept, NULs at the end of a text and of
an entry of a list are not. -/
theorem encoded_reads_trimmed_sample :
    ∃ bytes, sample.encode 7 = .ok bytes ∧
      Packet.decode (.submit .third) (bodyOf bytes) =
        .ok ⟨.submit .third, 7,
          { feeTerminalId := "\u5317\x00\u4eac", destTerminalIds := ["139", "\u00e9"],
            msgContent := [0, 1, 0] }⟩ := by
  have encoded : ∃ bytes, sample.encode 7 = .ok bytes := ⟨_, rfl⟩
  obtain ⟨bytes, encoded⟩ := encoded
  exact ⟨bytes, encoded, (encoded_reads_trimmed encoded).1⟩

end Packet

end Cmpp
