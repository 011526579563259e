/-!
# Format errors

What can be wrong with a message that is to be encoded, or with bytes that are to be decoded as
one. Each error names the field it arose at, where there is one.
-/

namespace Cmpp

/-- A fault in the fields of a message or in its bytes. -/
inductive FormatError
  /-- Fewer bytes are left than the field needs. -/
  | unexpectedEnd (field : String) (needed remaining : Nat)
  /-- The value has more bytes than the field can hold. -/
  | fieldTooLong (field : String) (max actual : Nat)
  /-- The bytes of a text are not UTF-8. -/
  | invalidText (field : String)
  /-- More destinations are named than one message may name. -/
  | tooManyDestinations (count max : Nat)
  /-- Bytes are left after the last field. -/
  | trailingBytes (count : Nat)
  deriving DecidableEq

/-- The report of a format error. -/
def FormatError.message : FormatError → String
  | unexpectedEnd field needed remaining =>
    s!"unexpected end of packet reading {field}: need {needed} bytes, {remaining} left"
  | fieldTooLong field max actual => s!"{field} is {actual} bytes, field holds at most {max}"
  | invalidText field => s!"{field} is not a valid string"
  | tooManyDestinations count max => s!"too many destinations: {count} (max {max})"
  | trailingBytes count => s!"{count} trailing bytes after packet body"

end Cmpp
