import Cmpp.Message.Response

/-!
# Keeping up a link

A service logs in to open a link, either end tests from time to time whether the link is alive, and
either end asks to close it. Closing requests, their responses and the tests themselves have no
fields.
-/

namespace Cmpp

/-- A login. -/
structure Connect where
  /-- The login name of the service. -/
  sourceAddr : String := ""
  /-- Digest of the name, the shared secret and the timestamp. -/
  authenticatorSource : Octets Width.authenticator := .zero _
  /-- The version that the service proposes to speak. -/
  version : UInt8 := 0
  /-- Month, day and time of the login, as a decimal number. -/
  timestamp : UInt32 := 0
  deriving DecidableEq

/-- The fields of a login. -/
def Connect.shape : Shape Connect where
  layout :=
    [⟨"source_addr", .text Width.sourceAddress⟩,
     ⟨"authenticator_source", .octets Width.authenticator⟩, ⟨"version", .byte⟩,
     ⟨"timestamp", .word⟩]
  toRecord message :=
    (message.sourceAddr, message.authenticatorSource, message.version, message.timestamp, ())
  ofRecord := fun (sourceAddr, authenticatorSource, version, timestamp, ()) =>
    { sourceAddr, authenticatorSource, version, timestamp }

/-- The response to a login. -/
structure ConnectResponse (generation : Generation) where
  /-- Zero when the login was accepted. -/
  status : generation.resultSlot.Value
  /-- The digest by which the gateway proves itself. -/
  authenticatorIsmg : Octets Width.authenticator := .zero _
  /-- The highest version that the gateway speaks. -/
  version : UInt8 := 0
  deriving DecidableEq

/-- The fields of the response to a login. -/
def ConnectResponse.shape (generation : Generation) : Shape (ConnectResponse generation) where
  layout :=
    [⟨"status", generation.resultSlot⟩, ⟨"authenticator_ismg", .octets Width.authenticator⟩,
     ⟨"version", .byte⟩]
  toRecord message := (message.status, message.authenticatorIsmg, message.version, ())
  ofRecord := fun (status, authenticatorIsmg, version, ()) =>
    { status, authenticatorIsmg, version }

/-- The response to a test of the link. -/
structure ActiveTestResponse where
  /-- Reserved. -/
  reserved : UInt8 := 0
  deriving DecidableEq

/-- The one field of the response to a test of the link. -/
def ActiveTestResponse.shape : Shape ActiveTestResponse where
  layout := [⟨"reserved", .byte⟩]
  toRecord message := (message.reserved, ())
  ofRecord := fun (reserved, ()) => { reserved }

end Cmpp
