import Cmpp.Layout.Basic
import Cmpp.Layout.Error
import Cmpp.Text

/-!
# Reading records

A record is read field by field in wire order, each from the front of the bytes that the fields
before it left over. The first field that cannot be read stops the reading with its error; bytes
left after the last field are an error too.
-/

namespace Cmpp

/-- Take bytes off the front. -/
def takeOctets (name : String) (width : Nat) (bytes : Bytes) :
    Except FormatError (Octets width × Bytes) :=
  if enough : width ≤ bytes.length then
    .ok (⟨bytes.take width, by simp [enough]⟩, bytes.drop width)
  else .error (.unexpectedEnd name width bytes.length)

/-- Read one byte. -/
def decodeByte (name : String) : Bytes → Except FormatError (UInt8 × Bytes)
  | [] => .error (.unexpectedEnd name 1 0)
  | byte :: rest => .ok (byte, rest)

/-- Read a 32-bit word. -/
def decodeWord (name : String) (bytes : Bytes) : Except FormatError (UInt32 × Bytes) := do
  let (octets, rest) ← takeOctets name 4 bytes
  .ok (ofWord octets.val, rest)

/-- Read a 64-bit word. -/
def decodeLong (name : String) (bytes : Bytes) : Except FormatError (UInt64 × Bytes) := do
  let (octets, rest) ← takeOctets name 8 bytes
  .ok (ofLong octets.val, rest)

/-- Read a text that was filled up to the width. -/
def decodeText (name : String) (width : Nat) (bytes : Bytes) :
    Except FormatError (String × Bytes) := do
  let (octets, rest) ← takeOctets name width bytes
  match ofUtf8? (unpad octets.val) with
  | some text => .ok (text, rest)
  | none => .error (.invalidText name)

/-- Read a number of texts of one width. -/
def decodeTexts (name : String) (width : Nat) :
    (count : Nat) → Bytes → Except FormatError (List String × Bytes)
  | 0, bytes => .ok ([], bytes)
  | count + 1, bytes => do
    let (text, bytes) ← decodeText name width bytes
    let (texts, bytes) ← decodeTexts name width count bytes
    .ok (text :: texts, bytes)

/-- Read the value of a slot. The number of texts is checked before any of them is read. -/
def Slot.decode (name : String) :
    (slot : Slot) → Bytes → Except FormatError (slot.Value × Bytes)
  | .byte, bytes => decodeByte name bytes
  | .word, bytes => decodeWord name bytes
  | .long, bytes => decodeLong name bytes
  | .octets width, bytes => takeOctets name width bytes
  | .text width, bytes => decodeText name width bytes
  | .texts width, bytes => do
    let (count, bytes) ← decodeByte name bytes
    if count.toNat ≤ maxDestinations then decodeTexts name width count.toNat bytes
    else .error (.tooManyDestinations count.toNat maxDestinations)
  | .content lengthName, bytes => do
    let (length, bytes) ← decodeByte lengthName bytes
    let (taken, bytes) ← takeOctets name length.toNat bytes
    .ok (taken.val, bytes)

/-- Read the fields of a record in wire order, returning the bytes after the last. -/
def Record.decode : (layout : Layout) → Bytes → Except FormatError (Record layout × Bytes)
  | [], bytes => .ok ((), bytes)
  | field :: layout, bytes => do
    let (value, bytes) ← field.slot.decode field.name bytes
    let (record, bytes) ← Record.decode layout bytes
    .ok ((value, record), bytes)

/-- Read a record that takes up all the bytes. -/
def Record.decodeAll (layout : Layout) (bytes : Bytes) : Except FormatError (Record layout) :=
  match Record.decode layout bytes with
  | .error error => .error error
  | .ok (record, []) => .ok record
  | .ok (_, rest) => .error (.trailingBytes rest.length)

/-- Read a value whose fields take up all the bytes. -/
def Shape.decode {α : Type} (shape : Shape α) (bytes : Bytes) : Except FormatError α :=
  (Record.decodeAll shape.layout bytes).map shape.ofRecord

end Cmpp
