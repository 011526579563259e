import Cmpp.Proofs.Packets

/-!
# The sizes of packets

How many bytes a value takes up is settled by its slot, but for the number of texts in a list and
the number of bytes of content (`Record.size_eq_minSize_add_extra`); both have bounds. So every
packet that is encoded has a frame whose length its first word can hold, and announces
(`Packet.announces_length`). That is not yet a length that a version allows: the longest frame of
all (`maxFrameLength`) is longer than any version does.
-/

namespace Cmpp

/-! ## Values -/

/-- How many bytes the value of a slot takes up. -/
def Slot.size : (slot : Slot) → slot.Value → Nat
  | .byte, _ => 1
  | .word, _ => 4
  | .long, _ => 8
  | .octets width, _ => width
  | .text width, _ => width
  | .texts width, values => 1 + width * values.length
  | .content _, bytes => 1 + bytes.length

/-- The most bytes that a value of a slot takes up. -/
def Slot.maxSize : Slot → Nat
  | .byte => 1
  | .word => 4
  | .long => 8
  | .octets width => width
  | .text width => width
  | .texts width => 1 + width * maxDestinations
  | .content _ => 1 + maxContent

/-- How many bytes a record takes up. -/
def Record.size : (layout : Layout) → Record layout → Nat
  | [], () => 0
  | field :: layout, (value, record) => field.slot.size value + Record.size layout record

/-- The most bytes that a record of a layout takes up. -/
def Layout.maxSize : Layout → Nat
  | [] => 0
  | field :: layout => field.slot.maxSize + maxSize layout

/-- Texts take up their width each. -/
theorem length_encodeTexts {name : String} {width : Nat} {texts : List String} {bytes : Bytes}
    (encoded : encodeTexts name width texts = .ok bytes) :
    bytes.length = width * texts.length := by
  induction texts generalizing bytes with
  | nil =>
    cases encoded
    rfl
  | cons text texts ih =>
    obtain ⟨first, firstEncoded, others⟩ := bind_eq_ok.mp encoded
    obtain ⟨back, backEncoded, joined⟩ := bind_eq_ok.mp others
    cases joined
    obtain ⟨fits, rfl⟩ := encodeText_eq_ok.mp firstEncoded
    rw [List.length_append, length_pad fits, ih backEncoded, List.length_cons, Nat.mul_succ,
      Nat.add_comm]

/-- A value that is written takes up as many bytes as its size says, and no more than its slot
allows. -/
theorem Slot.length_encode {name : String} {slot : Slot} {value : slot.Value} {bytes : Bytes}
    (encoded : slot.encode name value = .ok bytes) :
    bytes.length = slot.size value ∧ slot.size value ≤ slot.maxSize := by
  cases slot with
  | byte =>
    cases encoded
    exact ⟨rfl, Nat.le_refl _⟩
  | word =>
    cases encoded
    exact ⟨length_word value, Nat.le_refl _⟩
  | long =>
    cases encoded
    exact ⟨length_long value, Nat.le_refl _⟩
  | octets width =>
    cases encoded
    exact ⟨value.property, Nat.le_refl _⟩
  | text width =>
    obtain ⟨fits, rfl⟩ := encodeText_eq_ok.mp encoded
    exact ⟨length_pad fits, Nat.le_refl _⟩
  | texts width =>
    simp only [encode] at encoded
    split at encoded
    · rename_i few
      obtain ⟨entries, written, joined⟩ := bind_eq_ok.mp encoded
      cases joined
      refine ⟨?_, Nat.add_le_add_left (Nat.mul_le_mul_left width few) 1⟩
      rw [List.length_cons, length_encodeTexts written, size, Nat.add_comm]
    · contradiction
  | content lengthName =>
    simp only [encode] at encoded
    split at encoded
    · rename_i short
      cases encoded
      exact ⟨Nat.add_comm .., Nat.add_le_add_left short 1⟩
    · contradiction

/-- A record that is written takes up as many bytes as its size says, and no more than its layout
allows. -/
theorem Record.length_encode {layout : Layout} {record : Record layout} {bytes : Bytes}
    (encoded : Record.encode layout record = .ok bytes) :
    bytes.length = Record.size layout record ∧ Record.size layout record ≤ layout.maxSize := by
  induction layout generalizing bytes with
  | nil =>
    cases encoded
    exact ⟨rfl, Nat.le_refl _⟩
  | cons field layout ih =>
    obtain ⟨value, record⟩ := record
    obtain ⟨first, firstEncoded, others⟩ := bind_eq_ok.mp encoded
    obtain ⟨back, backEncoded, joined⟩ := bind_eq_ok.mp others
    cases joined
    obtain ⟨firstLength, firstBound⟩ := Slot.length_encode firstEncoded
    obtain ⟨backLength, backBound⟩ := ih backEncoded
    refine ⟨by rw [List.length_append, firstLength, backLength, size], ?_⟩
    rw [size, Layout.maxSize]
    exact Nat.add_le_add firstBound backBound

/-! ## Fixed and variable parts -/

/-- How many bytes a slot takes up whatever its value. -/
def Slot.minSize : Slot → Nat
  | .byte => 1
  | .word => 4
  | .long => 8
  | .octets width => width
  | .text width => width
  | .texts _ => 1
  | .content _ => 1

/-- How many bytes a layout takes up whatever the values of its fields. -/
def Layout.minSize : Layout → Nat
  | [] => 0
  | field :: layout => field.slot.minSize + minSize layout

/-- How many bytes more the lists of texts and the contents of a record take up. -/
def Record.extra : (layout : Layout) → Record layout → Nat
  | [], () => 0
  | ⟨_, .texts width⟩ :: layout, (values, record) => width * values.length + extra layout record
  | ⟨_, .content _⟩ :: layout, (bytes, record) => bytes.length + extra layout record
  | ⟨_, .byte⟩ :: layout, (_, record) | ⟨_, .word⟩ :: layout, (_, record)
  | ⟨_, .long⟩ :: layout, (_, record) | ⟨_, .octets _⟩ :: layout, (_, record)
  | ⟨_, .text _⟩ :: layout, (_, record) => extra layout record

/-- The bytes of a record are those that its layout takes up anyway and those of its lists and
contents. -/
theorem Record.size_eq_minSize_add_extra {layout : Layout} (record : Record layout) :
    Record.size layout record = layout.minSize + Record.extra layout record := by
  induction layout with
  | nil => rfl
  | cons field layout ih =>
    obtain ⟨name, slot⟩ := field
    obtain ⟨value, record⟩ := record
    rw [Record.size, ih record, Layout.minSize]
    cases slot <;> simp only [Slot.size, Slot.minSize, Record.extra] <;> omega

/-! ## Frames -/

/-- The length of the longest frame. -/
def maxFrameLength : Nat := 3618

/-- The fields of every kind of message fit the longest frame. -/
theorem Kind.maxSize_shape (kind : Kind) :
    headerLength + kind.shape.layout.maxSize ≤ maxFrameLength := by
  cases kind with
  | connectResponse generation | submit generation | submitResponse generation
  | deliver generation | deliverResponse generation | forward generation
  | forwardResponse generation => cases generation <;> decide
  | _ => decide

/-- The first word of a frame. -/
def announcedLength (frame : Bytes) : UInt32 := ofWord (frame.take 4)

/-- The first word is the one at the front, whatever follows. -/
theorem announcedLength_word (value : UInt32) (rest : Bytes) :
    announcedLength (word value ++ rest) = value := by
  rw [announcedLength, ← length_word value, List.take_left, ofWord_word]

/-- The first word of the frame around some fields. -/
theorem announcedLength_frame (command : Command) (sequenceId : UInt32) (fields : Bytes) :
    announcedLength (frame command sequenceId fields) =
      UInt32.ofNat (headerLength + fields.length) := by
  rw [frame, List.append_assoc, List.append_assoc, announcedLength_word]

/-- An encoded frame has a header and no more bytes than the longest frame, and its first word is
its length. -/
theorem Packet.announces_length {packet : Packet} {sequenceId : UInt32} {bytes : Bytes}
    (encoded : packet.encode sequenceId = .ok bytes) :
    headerLength ≤ bytes.length ∧ bytes.length ≤ maxFrameLength ∧
      (announcedLength bytes).toNat = bytes.length := by
  obtain ⟨fields, written, rfl⟩ := encode_eq_ok.mp encoded
  have length : (frame packet.command sequenceId fields).length = headerLength + fields.length := by
    simp only [frame, List.length_append, length_word, headerLength]
  obtain ⟨size, bound⟩ := Record.length_encode written
  have longest := packet.kind.maxSize_shape
  rw [length, announcedLength_frame, UInt32.toNat_ofNat']
  simp only [maxFrameLength] at *
  omega

/-- The longest frame is that of a message for a hundred terminals that is full. -/
example : headerLength + Layout.maxSize SubmitV3.shape.layout = maxFrameLength := by decide

end Cmpp
