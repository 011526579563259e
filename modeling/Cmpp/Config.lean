import Cmpp.Version

/-!
# Connection settings

What is settled about a connection when it is opened: the version it speaks, the capacities of its
two buffers, and whether the transport is asked to probe an idle link. Everything but the version
has a default.
-/

namespace Cmpp

/-- The capacity of a connection's buffers, unless another is chosen. -/
def defaultCapacity : Nat := 4096

/-- What is settled when a connection is opened. -/
structure Config where
  /-- The version spoken. -/
  version : Version
  /-- The capacity of the read buffer in bytes. -/
  readCapacity : Nat := defaultCapacity
  /-- The capacity of the write buffer in bytes. -/
  writeCapacity : Nat := defaultCapacity
  /-- Whether the transport is asked to probe an idle link. -/
  keepalive : Bool := true
  deriving DecidableEq

end Cmpp
