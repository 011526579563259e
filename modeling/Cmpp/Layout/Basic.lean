import Cmpp.Bytes

/-!
# Layouts

A message stands on the wire as its fields, one after another. A `Layout` lists them in wire order:
each `Field` has the name by which errors speak of it and a `Slot`, the way its value is stored.
A `Record` of a layout holds one value for each of its fields. A `Shape` is a type of messages that
has the same values as the records of its layout, so that one encoder and one decoder of records
serve every message.
-/

namespace Cmpp

/-- The most destinations that one message may name. -/
def maxDestinations : Nat := 100

/-- The most bytes of content that one message may carry. -/
def maxContent : Nat := 255

/-- Raw bytes of a fixed number. -/
abbrev Octets (width : Nat) := { bytes : Bytes // bytes.length = width }

/-- Nothing but zero bytes. -/
def Octets.zero (width : Nat) : Octets width := ⟨List.replicate width 0, List.length_replicate⟩

/-- The way one field is stored. -/
inductive Slot
  /-- One byte. -/
  | byte
  /-- A 32-bit word. -/
  | word
  /-- A 64-bit word. -/
  | long
  /-- Raw bytes that fill a width. -/
  | octets (width : Nat)
  /-- A text, filled up with zero bytes to a width. -/
  | text (width : Nat)
  /-- A count byte, then that many texts of one width. -/
  | texts (width : Nat)
  /-- A length byte, which errors call by the given name, then that many raw bytes. -/
  | content (lengthName : String)

/-- The values that a slot stores. -/
@[reducible] def Slot.Value : Slot → Type
  | .byte => UInt8
  | .word => UInt32
  | .long => UInt64
  | .octets width => Octets width
  | .text _ => String
  | .texts _ => List String
  | .content _ => Bytes

/-- The values of a slot can be compared. -/
instance : (slot : Slot) → DecidableEq slot.Value
  | .byte => inferInstanceAs (DecidableEq UInt8)
  | .word => inferInstanceAs (DecidableEq UInt32)
  | .long => inferInstanceAs (DecidableEq UInt64)
  | .octets width => inferInstanceAs (DecidableEq (Octets width))
  | .text _ => inferInstanceAs (DecidableEq String)
  | .texts _ => inferInstanceAs (DecidableEq (List String))
  | .content _ => inferInstanceAs (DecidableEq Bytes)

/-- A field of a message. -/
structure Field where
  /-- What errors call the field. -/
  name : String
  /-- How its value is stored. -/
  slot : Slot

/-- The fields of a message in wire order. -/
abbrev Layout := List Field

/-- One value for each field of a layout. -/
@[reducible] def Record : Layout → Type
  | [] => Unit
  | field :: rest => field.slot.Value × Record rest

/-- A type whose values are the records of a layout under other names. -/
structure Shape (α : Type) where
  /-- The fields in wire order. -/
  layout : Layout
  /-- The fields of a value. -/
  toRecord : α → Record layout
  /-- The value with the given fields. -/
  ofRecord : Record layout → α
  /-- A value is made of its fields. -/
  ofRecord_toRecord : ∀ value, ofRecord (toRecord value) = value := by intro; rfl
  /-- Fields make up a value with these fields. -/
  toRecord_ofRecord : ∀ record, toRecord (ofRecord record) = record := by intro; rfl

/-- A value without fields. -/
def Shape.unit : Shape Unit where
  layout := []
  toRecord := id
  ofRecord := id

end Cmpp
