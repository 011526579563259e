import Cmpp.Config
import Cmpp.Connection.Lock
import Cmpp.Connection.ReadBuffer
import Cmpp.Connection.Task
import Cmpp.Sequence
import Cmpp.Transport.Address

/-!
# Connections

A connection holds two buffers, each behind a lock of its own, so that one task may wait for a frame
to arrive while others send. Senders queue up for the write lock, receivers for the read lock, and
frames never mix. The lifecycle is a label that the connection's owner sets; only the closed state
is the connection's own and never left.
-/

namespace Cmpp

/-- How far the life of a connection has come. -/
inductive Lifecycle
  /-- The stream is there, but nobody has logged in. -/
  | connected
  /-- The login was accepted. -/
  | authenticated
  /-- It is over. -/
  | closed
  deriving DecidableEq

/-- The name of a point in the life of a connection. -/
def Lifecycle.name : Lifecycle → String
  | connected => "connected"
  | authenticated => "auth_ok"
  | closed => "closed"

/-- One end of a conversation. -/
structure Connection where
  /-- The version spoken. -/
  version : Version
  /-- The address of the other end, where there is one. -/
  peer : Option Address := none
  /-- The lifecycle label. -/
  lifecycle : Lifecycle := .connected
  /-- Whether closing has begun. -/
  closed : Bool := false
  /-- The source of sequence numbers. -/
  sequence : Sequence := {}
  /-- The queue of receivers. -/
  readLock : Lock := {}
  /-- Bytes delivered and not yet wanted. -/
  readBuffer : ReadBuffer
  /-- The queue of senders and of the task that closes the connection. -/
  writeLock : Lock := {}
  /-- Bytes on their way out. -/
  writeBuffer : WriteBuffer
  /-- The calls that have to wait, by the task they are known as. -/
  tasks : List (TaskId × Task) := []

namespace Connection

/-- A connection that nothing has happened on. -/
def ofConfig (config : Config) (peer : Option Address) : Connection where
  version := config.version
  peer := peer
  readBuffer := { capacity := config.readCapacity }
  writeBuffer := { capacity := config.writeCapacity }

/-- What is left of a call. -/
def task? (connection : Connection) (id : TaskId) : Option Task := connection.tasks.lookup id

/-- Set the lifecycle label, unless it says closed. -/
def setLifecycle (connection : Connection) (lifecycle : Lifecycle) : Connection :=
  if connection.lifecycle = .closed then connection else { connection with lifecycle }

/-- Forget a task: it leaves the queues that it is in. -/
def forget (connection : Connection) (id : TaskId) : Connection :=
  { connection with
    readLock := connection.readLock.leave id
    writeLock := connection.writeLock.leave id
    tasks := connection.tasks.filter (·.1 ≠ id) }

/-- Keep what is left of a call. -/
def keep (connection : Connection) (id : TaskId) (task : Task) : Connection :=
  { connection with tasks := (id, task) :: connection.tasks.filter (·.1 ≠ id) }

/-- Begin to close: from now on nothing is sent or received, and no sequence number given out. -/
def beginClosing (connection : Connection) : Connection :=
  { connection with
    lifecycle := .closed
    closed := true
    sequence := connection.sequence.stop }

/-- How a connection is shown to its owner. -/
def describe (connection : Connection) : String :=
  let version := match connection.version with
    | .v20 => "V20"
    | .v21 => "V21"
    | .v30 => "V30"
  let state := match connection.lifecycle with
    | .connected => "Connected"
    | .authenticated => "AuthOk"
    | .closed => "Closed"
  "Connection \x7b version: " ++ version ++ ", state: " ++ state ++ ", peer_addr: " ++
    describePeer connection.peer ++ ", next_seq_id: " ++ toString connection.sequence.next ++
    " \x7d"

end Connection

end Cmpp
