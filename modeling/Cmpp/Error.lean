import Cmpp.Layout.Error
import Cmpp.Transport.Failure
import Cmpp.Version

/-!
# Errors of a connection

What can go wrong with sending or receiving a packet. An error is *fatal* when the connection
cannot go on after it, because its stream or its sequence is spent or because the place of the next
frame is lost. It is a *violation* when the other end broke the rules of framing.
-/

namespace Cmpp

/-- The reason why a packet was not sent or received. -/
inductive Error
  /-- The transport failed. -/
  | transport (failure : Failure)
  /-- The stream ended inside the two words before a frame's body. -/
  | truncatedHeader
  /-- The stream ended inside a frame's body. -/
  | truncatedBody (expected actual : Nat)
  /-- The announced total length is outside the bounds of the version. -/
  | invalidTotalLength (length : UInt32) (version : Version)
  /-- An encoded frame is longer than the version allows. -/
  | frameTooLong (length : Nat) (version : Version)
  /-- The command number is outside both ranges of commands. -/
  | invalidCommand (id : UInt32)
  /-- The command number stands for no kind of message with known fields. -/
  | unsupportedCommand (id : UInt32)
  /-- The message itself is at fault. -/
  | format (error : FormatError)
  /-- No more sequence numbers are given out. -/
  | sequenceStopped
  /-- The connection is closed. -/
  | connectionClosed
  deriving DecidableEq

/-- The lowest hexadecimal digits of a number, in lower case. -/
def hexDigits : (count : Nat) → (value : Nat) → List Char
  | 0, _ => []
  | count + 1, value => hexDigits count (value / 16) ++ [Nat.digitChar (value % 16)]

/-- A 32-bit number in eight hexadecimal digits. -/
def hexWord (value : UInt32) : String := String.ofList (hexDigits 8 value.toNat)

namespace Error

/-- The report of an error. -/
def message : Error → String
  | transport failure => "i/o error: " ++ failure.message
  | truncatedHeader => "stream ended inside frame header"
  | truncatedBody expected actual =>
    s!"stream ended inside frame body: expected {expected} bytes, got {actual}"
  | invalidTotalLength length version =>
    s!"total length {length} out of bounds for " ++ version.name
  | frameTooLong length version =>
    s!"encoded frame of {length} bytes exceeds the " ++
      toString version.maxLength ++ "-byte limit of " ++ version.name
  | invalidCommand id => "invalid command id: 0x" ++ hexWord id
  | unsupportedCommand id => "unsupported command id: 0x" ++ hexWord id
  | format error => error.message
  | sequenceStopped => "sequence generator stopped"
  | connectionClosed => "connection closed"

/-- Whether the other end broke the rules of framing. -/
def isViolation : Error → Bool
  | invalidTotalLength .. | invalidCommand _ | unsupportedCommand _ => true
  | _ => false

/-- Whether the connection cannot go on. -/
def isFatal : Error → Bool
  | frameTooLong .. | format _ => false
  | _ => true

end Error

end Cmpp
