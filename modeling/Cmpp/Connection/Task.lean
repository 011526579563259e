import Cmpp.Connection.Transmission
import Cmpp.Frame.Assembly

/-!
# Calls and tasks

A call on a connection is to send a packet, to receive one, or to close the connection. A call that
has to wait is kept as a task, which is what is left of it to do. A task is in the queue for a lock
or, once it holds the lock, at the place inside its work where it has to go on.
-/

namespace Cmpp

/-- What can be asked of a connection. -/
inductive Call
  /-- Send a packet under the next sequence number. -/
  | send (packet : Packet)
  /-- Send a packet under a given sequence number, as a response is sent. -/
  | sendAs (packet : Packet) (sequenceId : UInt32)
  /-- Receive the next packet. -/
  | receive
  /-- Close the connection. -/
  | close

/-- What a call comes to. -/
inductive Outcome
  /-- The packet was sent under the sequence number that was its turn. -/
  | numbered (sequenceId : UInt32)
  /-- The packet was sent under the given sequence number. -/
  | sent
  /-- A packet was received. -/
  | received (packet : Packet)
  /-- The connection is closed. -/
  | closed
  /-- The call failed. -/
  | failed (error : Error)
  deriving DecidableEq

/-- Where the closing of a connection has to go on. -/
inductive Closing
  /-- In the queue for the write lock. -/
  | waiting
  /-- At the flush of the transport. -/
  | flushing
  /-- At the shutdown of the transport. -/
  | shuttingDown
  deriving DecidableEq

/-- What is left of a call that has to wait. -/
inductive Task
  /-- A frame is to be sent; the outcome is what its sender is told once it has been. -/
  | sending (outcome : Outcome) (sequenceId : UInt32) (frame : Bytes) (rest : Transmission)
  /-- A frame is to be received. -/
  | receiving (assembly : Assembly)
  /-- The transport is to be shut down. -/
  | closing (stage : Closing)
  deriving DecidableEq

/-- What going on with a task comes to. -/
inductive Progress
  /-- The call is over. -/
  | finished (outcome : Outcome)
  /-- The call has to wait. -/
  | suspended (woken : Bool) (task : Task)
  deriving DecidableEq

end Cmpp
