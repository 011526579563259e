import Cmpp.Proofs.Ceilings
import Cmpp.Proofs.TextFields

/-!
# Status reports

A status report is a record of its own inside the content of a delivered message. All its fields
take up a fixed number of bytes, so the content is read just if it has exactly as many bytes as they
take up together and the bytes of its texts are UTF-8 (`Layout.Readable`). Reading it loses only the
zero bytes that its texts are padded with, which are put back when it is written; so a report stands
for one content only (`report_exact`). What a frame does to the message that it carries leaves its
content alone.
-/

namespace Cmpp

/-! ## Fields of fixed size -/

/-- All values of the slot take up the same number of bytes. -/
def Slot.Fixed : Slot → Prop
  | .byte | .word | .long | .octets _ | .text _ => True
  | .texts _ | .content _ => False

/-- The bytes that fill a slot can be read. -/
def Slot.Readable : Slot → Bytes → Prop
  | .text _, raw => IsUtf8 raw
  | _, _ => True

/-- The bytes can be read as fields of fixed size, with none of them left. -/
def Layout.Readable : Layout → Bytes → Prop
  | [], bytes => bytes = []
  | field :: layout, bytes =>
    field.slot.minSize ≤ bytes.length ∧ field.slot.Readable (bytes.take field.slot.minSize) ∧
      Readable layout (bytes.drop field.slot.minSize)

/-- A value is read from bytes that fill its slot and can be read, whatever follows them. -/
theorem Slot.decode_fixed (name : String) {slot : Slot} (fixed : slot.Fixed) {raw : Bytes}
    (fills : raw.length = slot.minSize) (readable : slot.Readable raw) (rest : Bytes) :
    ∃ value, slot.decode name (raw ++ rest) = .ok (value, rest) := by
  cases slot with
  | byte =>
    obtain ⟨value, rfl⟩ := List.length_eq_one_iff.mp fills
    exact ⟨value, rfl⟩
  | word =>
    rw [← word_ofWord fills]
    exact ⟨_, decodeWord_word name _ rest⟩
  | long =>
    rw [← long_ofLong fills]
    exact ⟨_, decodeLong_long name _ rest⟩
  | octets width => exact ⟨_, takeOctets_append name ⟨raw, fills⟩ rest⟩
  | text width =>
    obtain ⟨whole, stored⟩ := readable
    exact ⟨_, (decodeText_append_eq_ok name fills).mpr ⟨rfl, whole, stored, rfl⟩⟩
  | texts width | content lengthName => exact fixed.elim

/-- A value that was read comes from bytes that fill its slot and can be read. -/
theorem Slot.readable_of_decode {name : String} {slot : Slot} (fixed : slot.Fixed)
    {bytes rest : Bytes} {value : slot.Value}
    (decoded : slot.decode name bytes = .ok (value, rest)) :
    ∃ raw, bytes = raw ++ rest ∧ raw.length = slot.minSize ∧ slot.Readable raw := by
  obtain ⟨raw, written, rfl⟩ := Slot.encode_decode decoded
  have length := (Slot.length_encode written).1
  cases slot with
  | text width =>
    obtain ⟨-, whole, stored, -⟩ := (decodeText_append_eq_ok name length).mp decoded
    exact ⟨raw, rfl, length, whole, stored⟩
  | texts width | content lengthName => exact fixed.elim
  | _ => exact ⟨raw, rfl, length, trivial⟩

/-- Bytes are read as a record of fields of fixed size just if they can be read as its fields. -/
theorem Record.decode_iff_readable {layout : Layout} (fixed : ∀ field ∈ layout, field.slot.Fixed)
    (bytes : Bytes) :
    (∃ record, Record.decode layout bytes = .ok (record, [])) ↔ layout.Readable bytes := by
  induction layout generalizing bytes with
  | nil =>
    constructor
    · rintro ⟨_, ⟨⟩⟩
      rfl
    · rintro rfl
      exact ⟨(), rfl⟩
  | cons field layout ih =>
    have first := fixed field List.mem_cons_self
    have others := ih fun other inside => fixed other (List.mem_cons_of_mem _ inside)
    constructor
    · rintro ⟨record, decoded⟩
      obtain ⟨⟨value, rest⟩, taken, more⟩ := bind_eq_ok.mp decoded
      obtain ⟨⟨later, back⟩, laterDecoded, joined⟩ := bind_eq_ok.mp more
      cases joined
      obtain ⟨raw, rfl, length, readable⟩ := Slot.readable_of_decode first taken
      rw [Layout.Readable, List.take_left' length, List.drop_left' length]
      exact ⟨by simp [length], readable, (others rest).mp ⟨later, laterDecoded⟩⟩
    · rintro ⟨enough, readable, more⟩
      obtain ⟨later, laterDecoded⟩ := (others _).mpr more
      obtain ⟨value, taken⟩ := Slot.decode_fixed field.name first
        (List.length_take_of_le enough) readable (bytes.drop field.slot.minSize)
      rw [List.take_append_drop] at taken
      refine ⟨(value, later), bind_eq_ok.mpr ⟨_, taken, bind_eq_ok.mpr ⟨_, laterDecoded, rfl⟩⟩⟩

/-- Bytes are read as a message of fields of fixed size just if they can be read as its fields. -/
theorem Shape.decode_iff_readable {α : Type} {shape : Shape α}
    (fixed : ∀ field ∈ shape.layout, field.slot.Fixed) (bytes : Bytes) :
    (∃ value, shape.decode bytes = .ok value) ↔ shape.layout.Readable bytes := by
  rw [← Record.decode_iff_readable fixed]
  constructor
  · rintro ⟨value, decoded⟩
    obtain ⟨record, read, -⟩ := map_eq_ok.mp decoded
    exact ⟨record, Record.decodeAll_eq_ok.mp read⟩
  · rintro ⟨record, read⟩
    exact ⟨_, map_eq_ok.mpr ⟨record, Record.decodeAll_eq_ok.mpr read, rfl⟩⟩

/-! ## Reports -/

namespace DeliveryReport

variable {terminal : Nat} {content : Bytes} {report : DeliveryReport}

/-- The content that stands for a report: its fields in turn, each text filled up with zero bytes
to its width. -/
def stored (terminal : Nat) (report : DeliveryReport) : Bytes :=
  long report.msgId ++ (pad 7 (utf8 report.stat) ++ (pad 10 (utf8 report.submitTime) ++
    (pad 10 (utf8 report.doneTime) ++ (pad terminal (utf8 report.destTerminalId) ++
      word report.smscSequence))))

/-- A report is read from a content of exactly the length of its fields in which the bytes of each
text are UTF-8, and from no other. -/
theorem decode_iff (terminal : Nat) (content : Bytes) :
    (∃ report, (shape terminal).decode content = .ok report) ↔
      content.length = 39 + terminal ∧ IsUtf8 ((content.drop 8).take 7) ∧
        IsUtf8 ((content.drop 15).take 10) ∧ IsUtf8 ((content.drop 25).take 10) ∧
        IsUtf8 ((content.drop 35).take terminal) := by
  have fixed : ∀ field ∈ (shape terminal).layout, field.slot.Fixed := by
    simp [shape, Slot.Fixed]
  rw [Shape.decode_iff_readable fixed]
  simp only [shape, Layout.Readable, Slot.minSize, Slot.Readable, Width.status, Width.reportTime,
    List.drop_drop, List.length_drop, List.drop_eq_nil_iff, true_and]
  constructor
  · rintro ⟨_, _, stat, _, submitted, _, done, _, destination, _, _⟩
    exact ⟨by omega, stat, submitted, done, destination⟩
  · rintro ⟨length, stat, submitted, done, destination⟩
    refine ⟨?_, ?_, stat, ?_, submitted, ?_, done, ?_, destination, ?_, ?_⟩ <;> omega

/-- A report was read from the content that stands for it. -/
theorem eq_stored (decoded : (shape terminal).decode content = .ok report) :
    content = report.stored terminal := by
  have written := Shape.encode_decode decoded
  simp only [Shape.encode, shape, Record.encode, Slot.encode, bind_eq_ok, encodeText_eq_ok,
    Except.ok.injEq] at written
  obtain ⟨_, rfl, _, ⟨_, ⟨-, rfl⟩, _, ⟨_, ⟨-, rfl⟩, _, ⟨_, ⟨-, rfl⟩, _, ⟨_, ⟨-, rfl⟩, _,
    ⟨_, rfl, _, rfl, rfl⟩, rfl⟩, rfl⟩, rfl⟩, rfl⟩, rfl⟩ := written
  simp only [stored, List.append_nil, Width.status, Width.reportTime]

/-- No content is read as a report under two widths of terminal numbers. -/
theorem terminal_unique {other : Nat} {second : DeliveryReport}
    (first : (shape terminal).decode content = .ok report)
    (again : (shape other).decode content = .ok second) : terminal = other := by
  have length := ((decode_iff terminal content).mp ⟨_, first⟩).1
  have otherLength := ((decode_iff other content).mp ⟨_, again⟩).1
  omega

/-- The report of a message that was delivered. -/
def sample : DeliveryReport := ⟨1, "DELIVRD", "2401011200", "2401011201", "139", 5⟩

end DeliveryReport

/-! ## Delivered messages -/

/-- The width of the terminal number in a status report. -/
def Generation.reportWidth : Generation → Nat
  | .second => 21
  | .third => 32

/-- What the delivery of a message says of a status report: one if the content is one. -/
def Kind.registered : (generation : Generation) → (Kind.deliver generation).Fields → UInt8
  | .second, message => message.registeredDelivery
  | .third, message => message.registeredDelivery

/-- The content of a delivered message. -/
def Kind.delivered : (generation : Generation) → (Kind.deliver generation).Fields → Bytes
  | .second, message => message.msgContent
  | .third, message => message.msgContent

namespace Packet

variable {generation : Generation} {message : (Kind.deliver generation).Fields}

/-- The report in a delivered message is what its content is read as, when it is said to be one. -/
theorem report?_deliver (number : UInt32) :
    report? ⟨.deliver generation, number, message⟩ =
      if Kind.registered generation message = 1 then
        some ((DeliveryReport.shape generation.reportWidth).decode
          (Kind.delivered generation message))
      else none := by
  cases generation <;> rfl

/-- There is a report that can be read in a delivered message just if it is said to be there and the
content is read as one. -/
theorem report?_eq_ok {number : UInt32} {report : DeliveryReport} :
    report? ⟨.deliver generation, number, message⟩ = some (.ok report) ↔
      Kind.registered generation message = 1 ∧
        (DeliveryReport.shape generation.reportWidth).decode
          (Kind.delivered generation message) = .ok report := by
  rw [report?_deliver]
  split <;> simp_all

/-- Trimming the texts of a delivered message leaves the report in it as it is. -/
theorem report?_trimmed (number sequenceId : UInt32) :
    report? { trimmed ⟨.deliver generation, number, message⟩ with sequenceId } =
      report? ⟨.deliver generation, number, message⟩ := by
  cases generation <;> rfl

/-- The status report in a delivered message is absent unless the message says that there is one.
It can be read just if the content has exactly the length of a report and the bytes of its four
texts are UTF-8. Then the content is the fields of the report, its texts filled up with zero bytes;
so messages of one kind with the same report have the same content, and no content is a report in
messages of both kinds. The message that is decoded from its frame has the same report, or the same
error. -/
theorem report_exact (generation : Generation) (message : (Kind.deliver generation).Fields)
    (number : UInt32) :
    let packet : Packet := ⟨.deliver generation, number, message⟩
    let content := Kind.delivered generation message
    let width := generation.reportWidth
    (packet.report? = none ↔ Kind.registered generation message ≠ 1) ∧
    ((∃ report, packet.report? = some (.ok report)) ↔
      Kind.registered generation message = 1 ∧ content.length = 39 + width ∧
        IsUtf8 ((content.drop 8).take 7) ∧ IsUtf8 ((content.drop 15).take 10) ∧
        IsUtf8 ((content.drop 25).take 10) ∧ IsUtf8 ((content.drop 35).take width)) ∧
    (∀ report, packet.report? = some (.ok report) →
      content = report.stored width ∧
      ∀ (other : (Kind.deliver generation).Fields) (otherNumber : UInt32),
        report? ⟨.deliver generation, otherNumber, other⟩ = some (.ok report) →
        Kind.delivered generation other = content) ∧
    (∀ report (unlike : Generation) (other : (Kind.deliver unlike).Fields) (otherNumber : UInt32)
        (otherReport : DeliveryReport), unlike ≠ generation →
      packet.report? = some (.ok report) →
      report? ⟨.deliver unlike, otherNumber, other⟩ = some (.ok otherReport) →
      Kind.delivered unlike other ≠ content) ∧
    ∀ sequenceId bytes, packet.encode sequenceId = .ok bytes →
      ∃ arrived, Packet.decode (.deliver generation) (bodyOf bytes) = .ok arrived ∧
        arrived.report? = packet.report? ∧
        ∀ version rest, packet.KnownTo version →
          decodeFrame version (bytes ++ rest) = .ok (arrived, bytes.length) := by
  intro packet content width
  refine ⟨?_, ?_, fun report read => ⟨?_, fun other otherNumber again => ?_⟩, ?_, ?_⟩
  · rw [report?_deliver]
    split <;> simp_all
  · simp only [packet, report?_eq_ok, ← DeliveryReport.decode_iff, exists_and_left]
    rfl
  · exact DeliveryReport.eq_stored (report?_eq_ok.mp read).2
  · have first : content = report.stored width := DeliveryReport.eq_stored (report?_eq_ok.mp read).2
    exact (DeliveryReport.eq_stored (report?_eq_ok.mp again).2).trans first.symm
  · intro report unlike other otherNumber otherReport different read again same
    have first := (report?_eq_ok.mp read).2
    have second := (report?_eq_ok.mp again).2
    rw [same] at second
    have widths := DeliveryReport.terminal_unique first second
    cases generation <;> cases unlike <;> first | exact different rfl | cases widths
  · intro sequenceId bytes encoded
    refine ⟨_, decode_encode encoded, report?_trimmed number sequenceId, ?_⟩
    intro version rest known
    have small : ¬packet.Oversized := by cases generation <;> exact id
    have allowed : checkFrameLength version bytes.length = .ok () :=
      checkFrameLength_eq_ok.mpr (Nat.not_lt.mp (mt (oversized_iff known encoded).mpr small))
    let encoding : Encoding := ⟨packet, sequenceId, bytes, encoded⟩
    exact encoding.decodeFrame_append known (encoding.allowed_iff_accepted.mp allowed) rest

set_option maxRecDepth 4000 in
/-- A report of 71 bytes is read in 3.0, and arrives so. The same content is no report in 2.x, and
nothing is one if the message does not say so. -/
theorem report_exact_sample :
    let content := DeliveryReport.sample.stored 32
    report? ⟨.deliver .third, 0, { registeredDelivery := 1, msgContent := content }⟩ =
        some (.ok .sample) ∧
      (¬∃ report,
        report? ⟨.deliver .second, 0, { registeredDelivery := 1, msgContent := content }⟩ =
          some (.ok report)) ∧
      report? ⟨.deliver .third, 0, { msgContent := content }⟩ = none ∧
      ∃ bytes arrived, encode
          ⟨.deliver .third, 0, { registeredDelivery := 1, msgContent := content }⟩ 7 = .ok bytes ∧
        Packet.decode (.deliver .third) (bodyOf bytes) = .ok arrived ∧
        arrived.report? = some (.ok .sample) := by
  intro content
  have decoded : (DeliveryReport.shape 32).decode (DeliveryReport.sample.stored 32) =
      .ok .sample := rfl
  have read : report? ⟨.deliver .third, 0, { registeredDelivery := 1, msgContent := content }⟩ =
      some (.ok .sample) := report?_eq_ok.mpr ⟨rfl, decoded⟩
  obtain ⟨-, wide, -, -, kept⟩ :=
    report_exact .third { registeredDelivery := 1, msgContent := content } 0
  obtain ⟨absent, -⟩ := report_exact .third { msgContent := content } 0
  obtain ⟨-, narrow, -⟩ := report_exact .second { registeredDelivery := 1, msgContent := content } 0
  have length : content.length = 39 + 32 := (wide.mp ⟨_, read⟩).2.1
  obtain ⟨bytes, encoded⟩ : ∃ bytes, encode
      ⟨.deliver .third, 0, { registeredDelivery := 1, msgContent := content }⟩ 7 = .ok bytes :=
    ⟨_, rfl⟩
  obtain ⟨arrived, arrives, same, -⟩ := kept 7 bytes encoded
  refine ⟨read, fun found => ?_, absent.mpr (by decide), bytes, arrived, encoded, arrives,
    same.trans read⟩
  have short : content.length = 39 + 21 := (narrow.mp found).2.1
  omega

end Packet

end Cmpp
