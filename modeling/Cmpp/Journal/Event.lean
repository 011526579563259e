import Cmpp.Journal.Note
import Cmpp.Transport.Basic

/-!
# Events

Everything that a connection does to its transport is an event, with what came of it, and so is
every note it makes. What went over the stream is read off the events.
-/

namespace Cmpp

/-- One call on a transport, or one note. -/
inductive Event
  /-- The transport was asked to probe an idle link, or not to. -/
  | keepalive (enabled : Bool)
  /-- Bytes were asked for. -/
  | read (outcome : Poll (Except Failure Bytes))
  /-- Bytes were offered. -/
  | write (offered : Bytes) (outcome : Poll (Except Failure Nat))
  /-- Accepted bytes were to be pushed on. -/
  | flush (outcome : Poll (Except Failure Unit))
  /-- The outgoing direction was to be ended. -/
  | shutdown (outcome : Poll (Except Failure Unit))
  /-- Something was noted. -/
  | note (note : Note)

namespace Event

/-- The bytes that the transport accepted in an event. -/
def accepted : Event → Bytes
  | write offered (.ready (.ok count)) => offered.take count
  | _ => []

/-- The bytes that the transport delivered in an event. -/
def delivered : Event → Bytes
  | read (.ready (.ok bytes)) => bytes
  | _ => []

/-- Whether an event is a flush, with whatever outcome. -/
def isFlush : Event → Bool
  | flush _ => true
  | _ => false

/-- Whether an event is a shutdown, with whatever outcome. -/
def isShutdown : Event → Bool
  | shutdown _ => true
  | _ => false

/-- What was noted in an event. -/
def note? : Event → Option Note
  | note said => some said
  | _ => none

/-- What was asked of the transport about probing. -/
def keepalive? : Event → Option Bool
  | keepalive enabled => some enabled
  | _ => none

end Event

end Cmpp
