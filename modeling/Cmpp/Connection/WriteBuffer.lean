import Cmpp.Journal.Line

/-!
# Write buffers

A write buffer collects bytes and hands them to its transport when room is needed or when it is
flushed. The transport may accept them in parts; accepted bytes still take up room until the buffer
has been drained, or draining has failed. Data as long as the whole buffer passes it by, once it is
empty.
-/

namespace Cmpp

variable {σ : Type}

/-- Bytes on their way to a transport. -/
structure WriteBuffer where
  /-- How many bytes it is meant to hold. -/
  capacity : Nat
  /-- How many accepted bytes still take up room. -/
  spent : Nat := 0
  /-- The bytes that the transport has not accepted, the next one first. -/
  unsent : Bytes := []
  deriving DecidableEq

namespace WriteBuffer

/-- How many bytes take up room. -/
def length (buffer : WriteBuffer) : Nat := buffer.spent + buffer.unsent.length

/-- Make room where accepted bytes were. -/
def reclaim (buffer : WriteBuffer) : WriteBuffer := { buffer with spent := 0 }

/-- The transport has accepted so many of the unsent bytes. -/
def advance (buffer : WriteBuffer) (count : Nat) : WriteBuffer :=
  { buffer with spent := buffer.spent + count, unsent := buffer.unsent.drop count }

/-- The failure of a transport that accepts nothing of what is buffered. -/
def stuck : Failure := ⟨.writeZero, some "failed to write the buffered data"⟩

/-- Hand everything to the transport. An interrupted write is repeated at once; room is made once
draining ends, well or not, but not while it waits. -/
def drain (buffer : WriteBuffer) (io : Transport σ) (line : Line σ) :
    Poll (Except Failure Unit) × WriteBuffer × Line σ :=
  if buffer.unsent = [] then (.ready (.ok ()), buffer.reclaim, line)
  else match _ : line.write io buffer.unsent with
    | (.pending woken, line) => (.pending woken, buffer, line)
    | (.ready (.error failure), line) =>
      if failure.kind = .interrupted then buffer.drain io line
      else (.ready (.error failure), buffer.reclaim, line)
    | (.ready (.ok count), line) =>
      if count = 0 then (.ready (.error stuck), buffer.reclaim, line)
      else (buffer.advance count).drain io line
termination_by line.patience io + buffer.unsent.length
decreasing_by
  · rename_i written interrupted
    have used := Line.write_patience written
    simp only [Poll.urgency, interrupted, if_true] at used
    omega
  · rename_i nonempty written _
    have used := Line.write_patience written
    have positive := List.length_pos_iff.mpr nonempty
    simp only [advance, List.length_drop]
    omega

/-- Take bytes in, or pass them by the buffer when they would fill it. -/
def put (buffer : WriteBuffer) (io : Transport σ) (line : Line σ) (data : Bytes) :
    Poll (Except Failure Nat) × WriteBuffer × Line σ :=
  if buffer.capacity ≤ data.length then
    let (outcome, line) := line.write io data
    (outcome, buffer, line)
  else (.ready (.ok data.length), { buffer with unsent := buffer.unsent ++ data }, line)

/-- Write bytes off the front of the data through the buffer, draining it first when they would not
fit, and return how many were taken. -/
def write (buffer : WriteBuffer) (io : Transport σ) (line : Line σ) (data : Bytes) :
    Poll (Except Failure Nat) × WriteBuffer × Line σ :=
  if buffer.length + data.length ≤ buffer.capacity then buffer.put io line data
  else match buffer.drain io line with
    | (.ready (.ok ()), buffer, line) => buffer.put io line data
    | (.ready (.error failure), buffer, line) => (.ready (.error failure), buffer, line)
    | (.pending woken, buffer, line) => (.pending woken, buffer, line)

/-- Drain the buffer and flush the transport. -/
def flush (buffer : WriteBuffer) (io : Transport σ) (line : Line σ) :
    Poll (Except Failure Unit) × WriteBuffer × Line σ :=
  match buffer.drain io line with
  | (.ready (.ok ()), buffer, line) =>
    let (outcome, line) := line.flush io
    (outcome, buffer, line)
  | (outcome, buffer, line) => (outcome, buffer, line)

end WriteBuffer

end Cmpp
