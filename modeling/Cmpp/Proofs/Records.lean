import Cmpp.Layout.Decode
import Cmpp.Layout.Encode
import Cmpp.Proofs.Text

/-!
# Reading back what was written

Writing and reading a record are inverse up to the NUL characters at the end of its texts, which
cannot be told from padding. Both directions are laws of a single slot first: a written value is
read as its trimmed form, whatever follows it (`Slot.decode_encode`), and bytes that were read are
those that the value read is written as (`Slot.encode_decode`). Records inherit the two laws by
induction on their layout, and messages from the records of their shape.
-/

namespace Cmpp

section Except

variable {ε ε' α β : Type}

/-- A sequence of two readings succeeds when both do. -/
theorem bind_eq_ok {first : Except ε α} {second : α → Except ε β} {result : β} :
    (first >>= second) = .ok result ↔ ∃ value, first = .ok value ∧ second value = .ok result := by
  cases first <;> simp [bind, Except.bind]

/-- A mapped result comes from a result. -/
theorem map_eq_ok {f : α → β} {outcome : Except ε α} {result : β} :
    outcome.map f = .ok result ↔ ∃ value, outcome = .ok value ∧ f value = result := by
  cases outcome <;> simp [Except.map]

/-- A mapped outcome fails as the outcome does. -/
theorem map_eq_error {f : α → β} {outcome : Except ε α} {error : ε} :
    outcome.map f = .error error ↔ outcome = .error error := by
  cases outcome <;> simp [Except.map]

/-- Errors under another name leave the results alone. -/
theorem mapError_eq_ok {f : ε → ε'} {outcome : Except ε α} {result : α} :
    outcome.mapError f = .ok result ↔ outcome = .ok result := by
  cases outcome with
  | ok value => constructor <;> rintro ⟨⟩ <;> rfl
  | error error => constructor <;> rintro ⟨⟩

/-- An error under another name comes from an error. -/
theorem mapError_eq_error {f : ε → ε'} {outcome : Except ε α} {error : ε'} :
    outcome.mapError f = .error error ↔ ∃ cause, outcome = .error cause ∧ f cause = error := by
  cases outcome with
  | ok value =>
    constructor
    · rintro ⟨⟩
    · rintro ⟨_, ⟨⟩, _⟩
  | error cause =>
    constructor
    · rintro ⟨⟩
      exact ⟨cause, rfl, rfl⟩
    · rintro ⟨_, ⟨⟩, rfl⟩
      rfl

end Except

/-! ## What is lost -/

/-- A value whose texts are trimmed. -/
def Slot.trimmed : (slot : Slot) → slot.Value → slot.Value
  | .text _, value => Cmpp.trimmed value
  | .texts _, values => values.map Cmpp.trimmed
  | .byte, value => value
  | .word, value => value
  | .long, value => value
  | .octets _, value => value
  | .content _, value => value

/-- A record whose texts are trimmed. -/
def Record.trimmed : (layout : Layout) → Record layout → Record layout
  | [], () => ()
  | field :: layout, (value, record) => (field.slot.trimmed value, Record.trimmed layout record)

/-- A value whose texts are trimmed. -/
def Shape.trimmed {α : Type} (shape : Shape α) (value : α) : α :=
  shape.ofRecord (Record.trimmed shape.layout (shape.toRecord value))

/-- No text of the value ends in NUL. -/
def Slot.Clean : (slot : Slot) → slot.Value → Prop
  | .text _, value => ¬EndsInNul value
  | .texts _, values => ∀ value ∈ values, ¬EndsInNul value
  | .byte, _ | .word, _ | .long, _ | .octets _, _ | .content _, _ => True

/-- No text of the record ends in NUL. -/
def Record.Clean : (layout : Layout) → Record layout → Prop
  | [], () => True
  | field :: layout, (value, record) => field.slot.Clean value ∧ Record.Clean layout record

/-- No text of the value ends in NUL. -/
def Shape.Clean {α : Type} (shape : Shape α) (value : α) : Prop :=
  Record.Clean shape.layout (shape.toRecord value)

/-- A value without NUL at the end of its texts has nothing to be trimmed. -/
theorem Slot.trimmed_of_clean {slot : Slot} {value : slot.Value} (clean : slot.Clean value) :
    slot.trimmed value = value := by
  cases slot with
  | text width => exact trimmed_eq_self clean
  | texts width =>
    have same : ∀ text ∈ value, Cmpp.trimmed text = id text :=
      fun text inside => trimmed_eq_self (clean text inside)
    rw [Slot.trimmed, List.map_congr_left same, List.map_id]
  | _ => rfl

/-- A record without NUL at the end of its texts has nothing to be trimmed. -/
theorem Record.trimmed_of_clean {layout : Layout} {record : Record layout}
    (clean : Record.Clean layout record) : Record.trimmed layout record = record := by
  induction layout with
  | nil => rfl
  | cons field layout ih =>
    obtain ⟨value, record⟩ := record
    rw [Record.trimmed, Slot.trimmed_of_clean clean.1, ih clean.2]

/-- A value without NUL at the end of its texts has nothing to be trimmed. -/
theorem Shape.trimmed_of_clean {α : Type} {shape : Shape α} {value : α}
    (clean : shape.Clean value) : shape.trimmed value = value := by
  rw [Shape.trimmed, Record.trimmed_of_clean clean, shape.ofRecord_toRecord]

/-! ## Single fields -/

/-- Bytes that fill the width are taken off the front, whatever follows. -/
theorem takeOctets_append (name : String) {width : Nat} (octets : Octets width) (rest : Bytes) :
    takeOctets name width (octets.val ++ rest) = .ok (octets, rest) := by
  obtain ⟨front, rfl⟩ := octets
  simp [takeOctets]

/-- Bytes taken off the front fill the width and are the front. -/
theorem takeOctets_eq_ok {name : String} {width : Nat} {bytes rest : Bytes}
    {octets : Octets width} (taken : takeOctets name width bytes = .ok (octets, rest)) :
    bytes = octets.val ++ rest := by
  unfold takeOctets at taken
  split at taken
  · cases taken
    exact (List.take_append_drop ..).symm
  · contradiction

/-- A byte is taken off the front. -/
theorem decodeByte_eq_ok {name : String} {bytes rest : Bytes} {byte : UInt8}
    (taken : decodeByte name bytes = .ok (byte, rest)) : bytes = byte :: rest := by
  cases bytes <;> cases taken
  rfl

/-- A written word is read back, whatever follows. -/
theorem decodeWord_word (name : String) (value : UInt32) (rest : Bytes) :
    decodeWord name (word value ++ rest) = .ok (value, rest) := by
  have taken := takeOctets_append name ⟨word value, length_word value⟩ rest
  rw [decodeWord, taken]
  simp [bind, Except.bind]

/-- A word that was read is the front. -/
theorem decodeWord_eq_ok {name : String} {bytes rest : Bytes} {value : UInt32}
    (taken : decodeWord name bytes = .ok (value, rest)) : bytes = word value ++ rest := by
  obtain ⟨⟨octets, back⟩, front, read⟩ := bind_eq_ok.mp taken
  cases read
  rw [word_ofWord octets.property]
  exact takeOctets_eq_ok front

/-- A written long word is read back, whatever follows. -/
theorem decodeLong_long (name : String) (value : UInt64) (rest : Bytes) :
    decodeLong name (long value ++ rest) = .ok (value, rest) := by
  have taken := takeOctets_append name ⟨long value, length_long value⟩ rest
  rw [decodeLong, taken]
  simp [bind, Except.bind]

/-- A long word that was read is the front. -/
theorem decodeLong_eq_ok {name : String} {bytes rest : Bytes} {value : UInt64}
    (taken : decodeLong name bytes = .ok (value, rest)) : bytes = long value ++ rest := by
  obtain ⟨⟨octets, back⟩, front, read⟩ := bind_eq_ok.mp taken
  cases read
  rw [long_ofLong octets.property]
  exact takeOctets_eq_ok front

/-- A text is written when its bytes fit the width, and then as its padded bytes. -/
theorem encodeText_eq_ok {name : String} {width : Nat} {text : String} {bytes : Bytes} :
    encodeText name width text = .ok bytes ↔
      (utf8 text).length ≤ width ∧ pad width (utf8 text) = bytes := by
  simp only [encodeText]
  split
  · rename_i fits
    simp [fits]
  · rename_i wide
    simp [wide]

/-- A written text is read back trimmed, whatever follows. -/
theorem decodeText_encodeText {name : String} {width : Nat} {text : String} {bytes : Bytes}
    (encoded : encodeText name width text = .ok bytes) (rest : Bytes) :
    decodeText name width (bytes ++ rest) = .ok (trimmed text, rest) := by
  obtain ⟨fits, rfl⟩ := encodeText_eq_ok.mp encoded
  have taken := takeOctets_append name ⟨pad width (utf8 text), length_pad fits⟩ rest
  rw [decodeText, taken]
  simp [bind, Except.bind, unpad_utf8, ofUtf8?_utf8]

/-- A text that was read is written as the front. -/
theorem encodeText_decodeText {name : String} {width : Nat} {bytes rest : Bytes} {text : String}
    (decoded : decodeText name width bytes = .ok (text, rest)) :
    ∃ front, encodeText name width text = .ok front ∧ bytes = front ++ rest := by
  obtain ⟨⟨octets, back⟩, taken, read⟩ := bind_eq_ok.mp decoded
  simp only at read
  split at read
  · rename_i found
    cases read
    have stored := ofUtf8?_eq_some_iff.mp found
    have fits := length_unpad_le octets.val
    rw [octets.property] at fits
    refine ⟨octets.val, encodeText_eq_ok.mpr ⟨by rwa [stored], ?_⟩, takeOctets_eq_ok taken⟩
    rw [stored, pad_unpad octets.property]
  · contradiction

/-- Written texts are read back trimmed, whatever follows. -/
theorem decodeTexts_encodeTexts {name : String} {width : Nat} {texts : List String}
    {bytes : Bytes} (encoded : encodeTexts name width texts = .ok bytes) (rest : Bytes) :
    decodeTexts name width texts.length (bytes ++ rest) = .ok (texts.map trimmed, rest) := by
  induction texts generalizing bytes with
  | nil =>
    cases encoded
    rfl
  | cons text texts ih =>
    obtain ⟨first, firstEncoded, others⟩ := bind_eq_ok.mp encoded
    obtain ⟨back, backEncoded, joined⟩ := bind_eq_ok.mp others
    cases joined
    rw [List.length_cons, decodeTexts, List.append_assoc, decodeText_encodeText firstEncoded]
    simp [bind, Except.bind, ih backEncoded]

/-- Texts that were read are as many as were asked for and are written as the front. -/
theorem encodeTexts_decodeTexts {name : String} {width count : Nat} {bytes rest : Bytes}
    {texts : List String} (decoded : decodeTexts name width count bytes = .ok (texts, rest)) :
    texts.length = count ∧
      ∃ front, encodeTexts name width texts = .ok front ∧ bytes = front ++ rest := by
  induction count generalizing bytes texts with
  | zero =>
    cases decoded
    exact ⟨rfl, [], rfl, rfl⟩
  | succ count ih =>
    obtain ⟨⟨text, middle⟩, first, others⟩ := bind_eq_ok.mp decoded
    obtain ⟨⟨later, back⟩, second, joined⟩ := bind_eq_ok.mp others
    cases joined
    obtain ⟨front, frontEncoded, rfl⟩ := encodeText_decodeText first
    obtain ⟨counted, middleFront, middleEncoded, rfl⟩ := ih second
    refine ⟨congrArg Nat.succ counted, front ++ middleFront, ?_, (List.append_assoc ..).symm⟩
    simp [encodeTexts, frontEncoded, middleEncoded, bind, Except.bind]

/-! ## Whole records -/

namespace Slot

variable {name : String} {slot : Slot} {value : slot.Value}

/-- A written value is read back trimmed, whatever follows. -/
theorem decode_encode {bytes : Bytes} (encoded : slot.encode name value = .ok bytes)
    (rest : Bytes) : slot.decode name (bytes ++ rest) = .ok (slot.trimmed value, rest) := by
  cases slot with
  | byte =>
    cases encoded
    rfl
  | word =>
    cases encoded
    exact decodeWord_word name value rest
  | long =>
    cases encoded
    exact decodeLong_long name value rest
  | octets width =>
    cases encoded
    exact takeOctets_append _ value rest
  | text width => exact decodeText_encodeText encoded rest
  | texts width =>
    simp only [encode] at encoded
    split at encoded
    · rename_i few
      obtain ⟨entries, written, joined⟩ := bind_eq_ok.mp encoded
      cases joined
      have counted : (UInt8.ofNat value.length).toNat = value.length := by
        rw [UInt8.toNat_ofNat']
        simp only [maxDestinations] at few
        omega
      rw [decode, List.cons_append]
      simp [decodeByte, bind, Except.bind, counted, few, decodeTexts_encodeTexts written, trimmed]
    · contradiction
  | content lengthName =>
    simp only [encode] at encoded
    split at encoded
    · rename_i short
      cases encoded
      have counted : (UInt8.ofNat value.length).toNat = value.length := by
        rw [UInt8.toNat_ofNat']
        simp only [maxContent] at short
        omega
      have taken := takeOctets_append name ⟨value, counted.symm⟩ rest
      rw [decode, List.cons_append]
      simp [decodeByte, bind, Except.bind, taken, trimmed]
    · contradiction

/-- A value that was read is written as the front. -/
theorem encode_decode {bytes rest : Bytes} (decoded : slot.decode name bytes = .ok (value, rest)) :
    ∃ front, slot.encode name value = .ok front ∧ bytes = front ++ rest := by
  cases slot with
  | byte => exact ⟨[value], rfl, decodeByte_eq_ok decoded⟩
  | word => exact ⟨Cmpp.word value, rfl, decodeWord_eq_ok decoded⟩
  | long => exact ⟨Cmpp.long value, rfl, decodeLong_eq_ok decoded⟩
  | octets width => exact ⟨value.val, rfl, takeOctets_eq_ok decoded⟩
  | text width => exact encodeText_decodeText decoded
  | texts width =>
    obtain ⟨⟨count, middle⟩, first, checked⟩ := bind_eq_ok.mp decoded
    simp only at checked
    split at checked
    · rename_i few
      obtain ⟨counted, front, written, rfl⟩ := encodeTexts_decodeTexts checked
      refine ⟨count :: front, ?_, decodeByte_eq_ok first⟩
      have stored : UInt8.ofNat value.length = count := by rw [counted, UInt8.ofNat_toNat]
      rw [← counted] at few
      simp [encode, few, written, stored, bind, Except.bind]
    · contradiction
  | content lengthName =>
    obtain ⟨⟨count, middle⟩, first, others⟩ := bind_eq_ok.mp decoded
    obtain ⟨⟨⟨octets, counted⟩, back⟩, taken, read⟩ := bind_eq_ok.mp others
    cases read
    have front := takeOctets_eq_ok taken
    subst front
    refine ⟨count :: octets, ?_, decodeByte_eq_ok first⟩
    have short : octets.length ≤ maxContent := by
      have small := count.toNat_lt
      rw [counted, maxContent]
      omega
    have stored : UInt8.ofNat octets.length = count := by rw [counted, UInt8.ofNat_toNat]
    simp [encode, short, stored]

end Slot

namespace Record

variable {layout : Layout} {record : Record layout}

/-- A written record is read back trimmed, whatever follows. -/
theorem decode_encode {bytes : Bytes} (encoded : Record.encode layout record = .ok bytes)
    (rest : Bytes) :
    Record.decode layout (bytes ++ rest) = .ok (Record.trimmed layout record, rest) := by
  induction layout generalizing bytes with
  | nil =>
    cases encoded
    rfl
  | cons field layout ih =>
    obtain ⟨value, record⟩ := record
    obtain ⟨first, firstEncoded, others⟩ := bind_eq_ok.mp encoded
    obtain ⟨back, backEncoded, joined⟩ := bind_eq_ok.mp others
    cases joined
    rw [Record.decode, List.append_assoc, Slot.decode_encode firstEncoded]
    simp [bind, Except.bind, ih backEncoded, Record.trimmed]

/-- A record that was read is written as the front. -/
theorem encode_decode {bytes rest : Bytes}
    (decoded : Record.decode layout bytes = .ok (record, rest)) :
    ∃ front, Record.encode layout record = .ok front ∧ bytes = front ++ rest := by
  induction layout generalizing bytes with
  | nil =>
    cases decoded
    exact ⟨[], rfl, rfl⟩
  | cons field layout ih =>
    obtain ⟨value, record⟩ := record
    obtain ⟨⟨first, middle⟩, firstDecoded, others⟩ := bind_eq_ok.mp decoded
    obtain ⟨⟨later, back⟩, laterDecoded, joined⟩ := bind_eq_ok.mp others
    cases joined
    obtain ⟨front, frontEncoded, rfl⟩ := Slot.encode_decode firstDecoded
    obtain ⟨middleFront, middleEncoded, rfl⟩ := ih laterDecoded
    refine ⟨front ++ middleFront, ?_, (List.append_assoc ..).symm⟩
    simp [Record.encode, frontEncoded, middleEncoded, bind, Except.bind]

/-- A record takes up all the bytes when nothing is left after its last field. -/
theorem decodeAll_eq_ok {bytes : Bytes} :
    Record.decodeAll layout bytes = .ok record ↔ Record.decode layout bytes = .ok (record, []) := by
  unfold Record.decodeAll
  split
  · rename_i failed
    simp [failed]
  · rename_i read
    simp [read]
  · rename_i nonempty read
    simp only [read, reduceCtorEq, Except.ok.injEq, Prod.mk.injEq, false_iff, not_and]
    exact fun _ => nonempty

end Record

namespace Shape

variable {α : Type} {shape : Shape α} {value : α} {bytes : Bytes}

/-- What a value was written as is read back as the trimmed value. -/
theorem decode_encode (encoded : shape.encode value = .ok bytes) :
    shape.decode bytes = .ok (shape.trimmed value) := by
  have whole := Record.decode_encode encoded []
  rw [List.append_nil] at whole
  rw [Shape.decode, Record.decodeAll_eq_ok.mpr whole]
  rfl

/-- A value that was read is written as the bytes it was read from. -/
theorem encode_decode (decoded : shape.decode bytes = .ok value) :
    shape.encode value = .ok bytes := by
  obtain ⟨record, read, rfl⟩ := map_eq_ok.mp decoded
  obtain ⟨front, written, rfl⟩ := Record.encode_decode (Record.decodeAll_eq_ok.mp read)
  rw [Shape.encode, shape.toRecord_ofRecord, List.append_nil, written]

end Shape

end Cmpp
