import Cmpp.Journal.Line

/-!
# Read buffers

A read buffer asks its transport for as many bytes as it can hold and hands them out as they are
wanted. What is not wanted yet is held for the next read; a read of at least the buffer's capacity
passes an empty buffer by.
-/

namespace Cmpp

variable {σ : Type}

/-- Bytes that the transport has delivered and that nobody has wanted yet. -/
structure ReadBuffer where
  /-- The most bytes held. -/
  capacity : Nat
  /-- The bytes held, the next one first. -/
  held : Bytes := []
  deriving DecidableEq

/-- Read at most so many bytes through the buffer. -/
def ReadBuffer.read (buffer : ReadBuffer) (io : Transport σ) (line : Line σ) (limit : Nat) :
    Poll (Except Failure Bytes) × ReadBuffer × Line σ :=
  if buffer.held = [] then
    if buffer.capacity ≤ limit then
      let (outcome, line) := line.read io limit
      (outcome, buffer, line)
    else match line.read io buffer.capacity with
      | (.ready (.ok bytes), line) =>
        (.ready (.ok (bytes.take limit)), { buffer with held := bytes.drop limit }, line)
      | (outcome, line) => (outcome, buffer, line)
  else
    (.ready (.ok (buffer.held.take limit)), { buffer with held := buffer.held.drop limit }, line)

end Cmpp
