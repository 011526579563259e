import Cmpp.Layout.Basic
import Cmpp.Layout.Error
import Cmpp.Text

/-!
# Writing records

A record is written field by field in wire order, and the first field whose value does not fit
stops the writing with its error. Only texts, lists of texts and content can fail to fit: the
other slots hold exactly the values of their types.
-/

namespace Cmpp

/-- Write a text and fill it up to the width. -/
def encodeText (name : String) (width : Nat) (text : String) : Except FormatError Bytes :=
  let bytes := utf8 text
  if bytes.length ≤ width then .ok (pad width bytes)
  else .error (.fieldTooLong name width bytes.length)

/-- Write texts of one width, one after another. -/
def encodeTexts (name : String) (width : Nat) : List String → Except FormatError Bytes
  | [] => .ok []
  | text :: rest => do
    let first ← encodeText name width text
    let others ← encodeTexts name width rest
    .ok (first ++ others)

/-- Write the value of a slot. The number of texts is checked before any of them. -/
def Slot.encode (name : String) : (slot : Slot) → slot.Value → Except FormatError Bytes
  | .byte, value => .ok [value]
  | .word, value => .ok (Cmpp.word value)
  | .long, value => .ok (Cmpp.long value)
  | .octets _, value => .ok value.val
  | .text width, value => encodeText name width value
  | .texts width, values =>
    if values.length ≤ maxDestinations then do
      let entries ← encodeTexts name width values
      .ok (UInt8.ofNat values.length :: entries)
    else .error (.tooManyDestinations values.length maxDestinations)
  | .content _, bytes =>
    if bytes.length ≤ maxContent then .ok (UInt8.ofNat bytes.length :: bytes)
    else .error (.fieldTooLong name maxContent bytes.length)

/-- Write the fields of a record in wire order. -/
def Record.encode : (layout : Layout) → Record layout → Except FormatError Bytes
  | [], () => .ok []
  | field :: layout, (value, record) => do
    let first ← field.slot.encode field.name value
    let others ← Record.encode layout record
    .ok (first ++ others)

/-- Write the fields of a value. -/
def Shape.encode {α : Type} (shape : Shape α) (value : α) : Except FormatError Bytes :=
  Record.encode shape.layout (shape.toRecord value)

end Cmpp
