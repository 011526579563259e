/-!
# Protocol versions

Three versions of the protocol are spoken. Each is announced in a connect request by one byte,
bounds the length of a frame, and belongs to one of two generations of message layouts.
-/

namespace Cmpp

/-- The two generations of message layouts: 2.x and 3.0. -/
inductive Generation
  /-- The layouts of versions 2.0 and 2.1. -/
  | second
  /-- The layouts of version 3.0. -/
  | third
  deriving DecidableEq

/-- A version of the protocol. -/
inductive Version
  /-- CMPP 2.0. -/
  | v20
  /-- CMPP 2.1. -/
  | v21
  /-- CMPP 3.0. -/
  | v30
  deriving DecidableEq

namespace Version

/-- Every version, oldest first. -/
def all : List Version := [.v20, .v21, .v30]

/-- The byte that announces a version: its two digits in two half-bytes. -/
def code : Version → UInt8
  | .v20 => 0x20
  | .v21 => 0x21
  | .v30 => 0x30

/-- The version announced by a byte. -/
def ofCode? (code : UInt8) : Option Version := all.find? (·.code == code)

/-- The name of a version. -/
def name : Version → String
  | .v20 => "cmpp20"
  | .v21 => "cmpp21"
  | .v30 => "cmpp30"

/-- The digits of a version, as in "version 2.1". -/
def number : Version → String
  | .v20 => "2.0"
  | .v21 => "2.1"
  | .v30 => "3.0"

/-- The generation of layouts that a version uses. -/
def generation : Version → Generation
  | .v20 | .v21 => .second
  | .v30 => .third

/-- The least total length of a frame: a header and nothing else. -/
def minLength (_ : Version) : Nat := 12

/-- The greatest total length of a frame. -/
def maxLength (version : Version) : Nat :=
  match version.generation with
  | .second => 2477
  | .third => 3335

/-- Whether a frame may have this total length; both bounds may. -/
def accepts (version : Version) (length : Nat) : Bool :=
  version.minLength ≤ length && length ≤ version.maxLength

/-- A text that names no version. -/
structure Unknown where
  /-- The text as it was given. -/
  given : String
  deriving DecidableEq

/-- The report of a text that names no version. -/
def Unknown.message (unknown : Unknown) : String :=
  "unknown protocol version: " ++ unknown.given

/-- Read a version from its name or its digits, in upper or lower case. -/
def parse (text : String) : Except Unknown Version :=
  let lower := text.toLower
  match all.find? fun version => version.name == lower || version.number == lower with
  | some version => .ok version
  | none => .error ⟨text⟩

/-- A version is read back from its byte. -/
theorem ofCode?_code (version : Version) : ofCode? version.code = some version := by
  cases version <;> rfl

end Version

end Cmpp
