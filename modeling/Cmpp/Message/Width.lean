import Cmpp.Layout.Basic

/-!
# Field widths

The widths, in bytes, of the fixed-width fields of messages.
-/

namespace Cmpp.Width

/-- The login name of a service. -/
def sourceAddress : Nat := 6

/-- The digest that proves knowledge of the shared secret. -/
def authenticator : Nat := 16

/-- A kind of service. -/
def service : Nat := 10

/-- A terminal number, 2.x. -/
def terminalV2 : Nat := 21

/-- A terminal number, 3.0. -/
def terminalV3 : Nat := 32

/-- A gateway or a source of content. -/
def node : Nat := 6

/-- A kind of fee. -/
def feeType : Nat := 2

/-- An amount of a fee. -/
def feeCode : Nat := 6

/-- A point of time. -/
def time : Nat := 17

/-- The number of a service. -/
def source : Nat := 21

/-- A reserved text. -/
def reserve : Nat := 8

/-- An identifier of an on-demand service. -/
def link : Nat := 20

/-- A user's pseudonym. -/
def pseudonym : Nat := 32

/-- The state of a message in a status report. -/
def status : Nat := 7

/-- A point of time in a status report. -/
def reportTime : Nat := 10

end Cmpp.Width
