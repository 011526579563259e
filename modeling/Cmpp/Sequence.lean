import Cmpp.Error

/-!
# Sequence numbers

A connection numbers its requests 0, 1, 2 and so on, starting again after the greatest 32-bit
number. Once stopped, no more numbers are given out.
-/

namespace Cmpp

/-- A source of sequence numbers. -/
structure Sequence where
  /-- The number given out next. -/
  next : UInt32 := 0
  /-- Whether no more numbers are given out. -/
  stopped : Bool := false
  deriving DecidableEq

namespace Sequence

/-- Take the next number. -/
def take (sequence : Sequence) : Except Error UInt32 × Sequence :=
  if sequence.stopped then (.error .sequenceStopped, sequence)
  else (.ok sequence.next, { sequence with next := sequence.next + 1 })

/-- Give out no more numbers. -/
def stop (sequence : Sequence) : Sequence := { sequence with stopped := true }

end Sequence

end Cmpp
