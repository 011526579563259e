import Cmpp.Journal.Event

/-!
# Lines

A line is the state of a transport together with the journal of what was done on it. Every call on
the transport goes through its line, so the journal leaves nothing out.
-/

namespace Cmpp

variable {σ : Type}

/-- A transport and the journal of the calls on it. -/
structure Line (σ : Type) where
  /-- The state of the transport. -/
  state : σ
  /-- What happened, the latest event first. -/
  journal : List Event := []

namespace Line

/-- What happened, in order. -/
def history (line : Line σ) : List Event := line.journal.reverse

/-- Enter an event that left the transport in a state. -/
def enter (line : Line σ) (event : Event) (state : σ) : Line σ :=
  { state, journal := event :: line.journal }

/-- Enter a note. -/
def note (line : Line σ) (note : Note) : Line σ := line.enter (.note note) line.state

/-- Read from the transport. -/
def read (line : Line σ) (io : Transport σ) (limit : Nat) :
    Poll (Except Failure Bytes) × Line σ :=
  let (outcome, state) := io.read line.state limit
  (outcome, line.enter (.read outcome) state)

/-- Write to the transport. -/
def write (line : Line σ) (io : Transport σ) (data : Bytes) :
    Poll (Except Failure Nat) × Line σ :=
  let (outcome, state) := io.write line.state data
  (outcome, line.enter (.write data outcome) state)

/-- Flush the transport. -/
def flush (line : Line σ) (io : Transport σ) : Poll (Except Failure Unit) × Line σ :=
  let (outcome, state) := io.flush line.state
  (outcome, line.enter (.flush outcome) state)

/-- Shut the transport down. -/
def shutdown (line : Line σ) (io : Transport σ) : Poll (Except Failure Unit) × Line σ :=
  let (outcome, state) := io.shutdown line.state
  (outcome, line.enter (.shutdown outcome) state)

/-- How often the transport can still ask for immediate repetition. -/
def patience (line : Line σ) (io : Transport σ) : Nat := io.patience line.state

/-- A write that asks for repetition uses up patience. -/
theorem write_patience {line after : Line σ} {io : Transport σ} {data : Bytes}
    {outcome : Poll (Except Failure Nat)} (written : line.write io data = (outcome, after)) :
    after.patience io + outcome.urgency ≤ line.patience io := by
  have law := io.write_patience line.state data
  cases written
  exact law

end Line

end Cmpp
