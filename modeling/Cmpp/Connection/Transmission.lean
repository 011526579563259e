import Cmpp.Connection.WriteBuffer

/-!
# Transmissions

Data is sent by turns of a write, which may take only part of it, and a flush, until all of it has
been taken. A turn whose write takes nothing is the last: its flush is still made, and then the
transmission fails. A `Transmission` is the place in these turns where it has to go on.
-/

namespace Cmpp

variable {σ : Type}

/-- Where a transmission has to go on. -/
inductive Transmission
  /-- The next write, of the data not taken so far. -/
  | writing (tail : Bytes)
  /-- The flush after a write that took bytes, and the data still to be written after it. -/
  | flushing (tail : Bytes)
  /-- The flush after a write that took nothing. -/
  | stalled
  deriving DecidableEq

namespace Transmission

/-- The failure of a transport that takes nothing of what is to be sent. -/
def refused : Failure := ⟨.writeZero, some "transport accepted no bytes"⟩

/-- How many writes and flushes a transmission can still come to. -/
def turnsAhead : Transmission → Nat
  | writing tail => 2 * tail.length
  | flushing tail => 2 * tail.length + 1
  | stalled => 0

/-- The flush that follows a write. -/
def afterWrite (data : Bytes) (taken : Nat) : Transmission :=
  if taken = 0 then .stalled else .flushing (data.drop taken)

/-- A write brings a transmission nearer to its end. -/
theorem turnsAhead_afterWrite {data : Bytes} (nonempty : data ≠ []) (taken : Nat) :
    (afterWrite data taken).turnsAhead < (writing data).turnsAhead := by
  have positive := List.length_pos_iff.mpr nonempty
  unfold afterWrite
  split <;> simp only [turnsAhead, List.length_drop] <;> omega

/-- Go on until the transmission ends or has to wait, returning where it has to go on. -/
def poll (transmission : Transmission) (io : Transport σ) (buffer : WriteBuffer) (line : Line σ) :
    Poll (Except Failure Unit) × Transmission × WriteBuffer × Line σ :=
  match transmission with
  | .writing data =>
    if _ : data = [] then (.ready (.ok ()), .writing [], buffer, line)
    else match buffer.write io line data with
      | (.ready (.ok taken), buffer, line) => (afterWrite data taken).poll io buffer line
      | (.ready (.error failure), buffer, line) =>
        (.ready (.error failure), .writing data, buffer, line)
      | (.pending woken, buffer, line) => (.pending woken, .writing data, buffer, line)
  | .flushing data =>
    match buffer.flush io line with
    | (.ready (.ok ()), buffer, line) => (writing data).poll io buffer line
    | (outcome, buffer, line) => (outcome, .flushing data, buffer, line)
  | .stalled =>
    match buffer.flush io line with
    | (.ready (.ok ()), buffer, line) => (.ready (.error refused), .stalled, buffer, line)
    | (outcome, buffer, line) => (outcome, .stalled, buffer, line)
termination_by transmission.turnsAhead
decreasing_by
  · exact turnsAhead_afterWrite ‹_› taken
  · exact Nat.lt_succ_self _

end Transmission

end Cmpp
