import Cmpp.Command
import Cmpp.Transport.Address
import Cmpp.Transport.Failure
import Cmpp.Version

/-!
# Notes

A connection notes what happens to it for whoever looks after it. A note has a level, a message
and named values, all of them texts.
-/

namespace Cmpp

/-- How much a note matters. -/
inductive Level
  /-- The life of the connection. -/
  | debug
  /-- Every single frame. -/
  | trace
  deriving DecidableEq

/-- The name of a level. -/
def Level.name : Level → String
  | debug => "DEBUG"
  | trace => "TRACE"

/-- What a connection notes. -/
inductive Note
  /-- The transport would not probe an idle link. -/
  | keepaliveFailed (failure : Failure)
  /-- The connection was opened. -/
  | opened (version : Version) (peer : Option Address)
  /-- A whole frame was written and flushed. -/
  | frameSent (sequenceId : UInt32) (length : Nat)
  /-- A whole frame was read and understood. -/
  | frameReceived (command : Command) (sequenceId : UInt32) (totalLength : UInt32)
  /-- Closing found bytes in the write buffer, which are given up. -/
  | frameDropped (pending : Nat)
  /-- The flush on closing failed. -/
  | flushFailed (failure : Failure)
  /-- The transport would not shut down. -/
  | shutdownFailed (failure : Failure)
  /-- The connection was closed. -/
  | closed (peer : Option Address)
  deriving DecidableEq

/-- An address that may be missing. -/
def describePeer : Option Address → String
  | none => "None"
  | some address => "Some(" ++ address.render ++ ")"

namespace Note

/-- How much a note matters. -/
def level : Note → Level
  | frameSent .. | frameReceived .. => .trace
  | _ => .debug

/-- What a note says. -/
def message : Note → String
  | keepaliveFailed _ => "keep-alive not enabled"
  | opened .. => "connection opened"
  | frameSent .. => "frame sent"
  | frameReceived .. => "frame received"
  | frameDropped _ => "dropping partially written frame"
  | flushFailed _ => "flush on close failed"
  | shutdownFailed _ => "transport shutdown failed"
  | closed _ => "connection closed"

/-- The named values of a note. -/
def values : Note → List (String × String)
  | keepaliveFailed failure | flushFailed failure | shutdownFailed failure =>
    [("error", failure.message)]
  | opened version peer => [("version", version.name), ("peer", describePeer peer)]
  | frameSent sequenceId length =>
    [("seq_id", toString sequenceId), ("len", toString length)]
  | frameReceived command sequenceId totalLength =>
    [("command", command.name), ("seq_id", toString sequenceId), ("len", toString totalLength)]
  | frameDropped pending => [("pending", toString pending)]
  | closed peer => [("peer", describePeer peer)]

end Note

end Cmpp
