import Cmpp.Proofs.Packets

/-!
# Limits

Texts, lists of texts and content have limits, the lengths of texts counted in bytes and not in
characters. What a value breaks of them is listed in wire order, the number of texts ahead of the
texts (`Slot.violations`), and writing stops at the first of the list (`Reports`). One writing after
another reports from the one list and then the other (`Reports.bind`), so what holds of a slot holds
of every layout, by induction on the layout.
-/

namespace Cmpp

/-! ## What fits and what does not -/

/-- The value keeps to the limits of the slot. -/
def Slot.Fits : (slot : Slot) → slot.Value → Prop
  | .text width, value => (utf8 value).length ≤ width
  | .texts width, values =>
    values.length ≤ maxDestinations ∧ ∀ value ∈ values, (utf8 value).length ≤ width
  | .content _, bytes => bytes.length ≤ maxContent
  | .byte, _ | .word, _ | .long, _ | .octets _, _ => True

/-- Every value of the record keeps to the limits of its field. -/
def Record.Fits : (layout : Layout) → Record layout → Prop
  | [], () => True
  | field :: layout, (value, record) => field.slot.Fits value ∧ Record.Fits layout record

/-- The report of a field that has too many bytes, if it has. -/
def excess (name : String) (max actual : Nat) : List FormatError :=
  if actual ≤ max then [] else [.fieldTooLong name max actual]

/-- The report of too many texts, if there are. -/
def crowd (count : Nat) : List FormatError :=
  if count ≤ maxDestinations then [] else [.tooManyDestinations count maxDestinations]

/-- What the value breaks of the limits of the slot. -/
def Slot.violations (name : String) : (slot : Slot) → slot.Value → List FormatError
  | .text width, value => excess name width (utf8 value).length
  | .texts width, values =>
    crowd values.length ++ values.flatMap fun value => excess name width (utf8 value).length
  | .content _, bytes => excess name maxContent bytes.length
  | .byte, _ | .word, _ | .long, _ | .octets _, _ => []

/-- What the record breaks of the limits of its fields, in wire order. -/
def Record.violations : (layout : Layout) → Record layout → List FormatError
  | [], () => []
  | field :: layout, (value, record) =>
    field.slot.violations field.name value ++ Record.violations layout record

/-- Nothing is reported of a field that has few enough bytes. -/
@[simp] theorem excess_eq_nil {name : String} {max actual : Nat} :
    excess name max actual = [] ↔ actual ≤ max := by
  simp [excess]

/-- Nothing is reported of few enough texts. -/
@[simp] theorem crowd_eq_nil {count : Nat} : crowd count = [] ↔ count ≤ maxDestinations := by
  simp [crowd]

/-- A value that breaks no limit keeps to them. -/
theorem Slot.violations_eq_nil {name : String} {slot : Slot} {value : slot.Value} :
    slot.violations name value = [] ↔ slot.Fits value := by
  cases slot <;> simp [violations, Fits]

/-- A record that breaks no limit keeps to them. -/
theorem Record.violations_eq_nil {layout : Layout} {record : Record layout} :
    Record.violations layout record = [] ↔ Record.Fits layout record := by
  induction layout with
  | nil => simp [violations, Fits]
  | cons field layout ih =>
    obtain ⟨value, record⟩ := record
    rw [violations, Fits, List.append_eq_nil_iff, Slot.violations_eq_nil, ih]

/-! ## Writing -/

/-- An outcome is the first of the violations, or a success if there are none. -/
def Reports {α : Type} (violations : List FormatError) : Except FormatError α → Prop
  | .ok _ => violations = []
  | .error error => violations.head? = some error

namespace Reports

variable {α β : Type} {violations early late : List FormatError} {outcome : Except FormatError α}

/-- There is a success exactly if there are no violations. -/
theorem succeeds_iff (reports : Reports violations outcome) :
    (∃ value, outcome = .ok value) ↔ violations = [] := by
  cases outcome with
  | ok value =>
    have none : violations = [] := reports
    exact ⟨fun _ => none, fun _ => ⟨value, rfl⟩⟩
  | error error =>
    have first : violations.head? = some error := reports
    constructor
    · rintro ⟨_, ⟨⟩⟩
    · rintro rfl
      cases first

/-- An error is the first violation. -/
theorem fails_iff (reports : Reports violations outcome) (error : FormatError) :
    outcome = .error error ↔ violations.head? = some error := by
  cases outcome with
  | ok value =>
    have none : violations = [] := reports
    simp [none]
  | error cause =>
    have first : violations.head? = some cause := reports
    simp [first]

/-- A result that is looked at in another way is still a result. -/
theorem map (f : α → β) (reports : Reports violations outcome) :
    Reports violations (outcome.map f) := by
  cases outcome <;> exact reports

/-- One writing after another stops at the violations of the first, and without any at those of the
second. -/
theorem bind {next : α → Except FormatError β} (first : Reports early outcome)
    (second : ∀ value, Reports late (next value)) : Reports (early ++ late) (outcome >>= next) := by
  cases outcome with
  | ok value =>
    have none : early = [] := first
    rw [none, List.nil_append]
    exact second value
  | error error =>
    have head : early.head? = some error := first
    exact (List.head?_append ..).trans (by rw [head]; rfl)

/-- What is written unless it has too many bytes is reported if it has. -/
theorem of_limit (name : String) (max actual : Nat) (value : α) :
    Reports (excess name max actual)
      (if actual ≤ max then .ok value else .error (.fieldTooLong name max actual)) := by
  unfold excess
  by_cases fits : actual ≤ max
  · simp only [if_pos fits]
    rfl
  · simp only [if_neg fits]
    rfl

end Reports

/-- Writing a text reports it if it has too many bytes. -/
theorem encodeText_reports (name : String) (width : Nat) (text : String) :
    Reports (excess name width (utf8 text).length) (encodeText name width text) :=
  .of_limit name width _ _

/-- Writing texts reports the first of them that has too many bytes. -/
theorem encodeTexts_reports (name : String) (width : Nat) (texts : List String) :
    Reports (texts.flatMap fun text => excess name width (utf8 text).length)
      (encodeTexts name width texts) := by
  induction texts with
  | nil => rfl
  | cons text texts ih =>
    rw [List.flatMap_cons]
    exact (encodeText_reports name width text).bind fun front => ih.map (front ++ ·)

/-- Writing a value reports the first limit of its slot that it breaks. -/
theorem Slot.encode_reports (name : String) (slot : Slot) (value : slot.Value) :
    Reports (slot.violations name value) (slot.encode name value) := by
  cases slot with
  | byte | word | long | octets => rfl
  | text width => exact encodeText_reports name width value
  | texts width =>
    simp only [encode, violations, crowd]
    by_cases few : value.length ≤ maxDestinations
    · simp only [if_pos few]
      exact (encodeTexts_reports name width value).map (UInt8.ofNat value.length :: ·)
    · simp only [if_neg few]
      rfl
  | content lengthName => exact .of_limit name maxContent _ _

/-- Writing a record reports the first limit in wire order that it breaks. -/
theorem Record.encode_reports (layout : Layout) (record : Record layout) :
    Reports (Record.violations layout record) (Record.encode layout record) := by
  induction layout with
  | nil => rfl
  | cons field layout ih =>
    obtain ⟨value, record⟩ := record
    exact (Slot.encode_reports field.name field.slot value).bind fun front =>
      (ih record).map (front ++ ·)

/-! ## Packets -/

namespace Packet

/-- Every value in the packet keeps to the limits of its field. -/
def WithinLimits (packet : Packet) : Prop :=
  Record.Fits packet.kind.shape.layout (packet.kind.shape.toRecord packet.fields)

/-- What the packet breaks of the limits of its fields, in wire order. -/
def violations (packet : Packet) : List FormatError :=
  Record.violations packet.kind.shape.layout (packet.kind.shape.toRecord packet.fields)

/-- Encoding a packet reports the first limit in wire order that it breaks. -/
theorem encode_reports (packet : Packet) (sequenceId : UInt32) :
    Reports packet.violations (packet.encode sequenceId) :=
  (Record.encode_reports _ _).map (frame packet.command sequenceId)

/-- A packet of any kind is encoded exactly if its texts, its destinations and its content keep to
the limits of their fields. Otherwise the error is that of the first limit in wire order that it
breaks. Neither the sequence number that is written nor the packet's own makes a difference to
whether it is encoded, or to the error. -/
theorem encode_fails_at_first_violation (packet : Packet) (sequenceId : UInt32) :
    ((∃ bytes, packet.encode sequenceId = .ok bytes) ↔ packet.WithinLimits) ∧
    (∀ error, packet.encode sequenceId = .error error ↔
      packet.violations.head? = some error) ∧
    ∀ own written, ({ packet with sequenceId := own }.encode written).map (fun _ => ()) =
      (packet.encode sequenceId).map fun _ => () := by
  have reports := packet.encode_reports sequenceId
  refine ⟨reports.succeeds_iff.trans Record.violations_eq_nil, reports.fails_iff,
    fun own written => ?_⟩
  unfold encode
  cases packet.kind.shape.encode packet.fields <;> rfl

/-- The kind of service is too long by a byte, though it has only ten characters; the second of the
destinations and the reserved text are too long as well. The first is what is reported. -/
example :
    let packet : Packet := ⟨.submit .second, 1,
      { serviceId := "caf\u00e9direct"
        destTerminalIds := ["139", "1390000000000000000000"]
        reserve := "reserved." }⟩
    packet.violations = [.fieldTooLong "service_id" 10 11, .fieldTooLong "dest_terminal_id" 21 22,
      .fieldTooLong "reserve" 8 9] := by
  decide

end Packet

end Cmpp
