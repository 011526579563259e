import Cmpp.Transport.Basic

/-!
# Pipes

A pipe joins two ends by two channels, one for each direction. A channel keeps the bytes written
and not yet read, in order and up to its capacity; it neither loses nor alters any. Nothing that
happens at one end wakes the other.
-/

namespace Cmpp

/-- One direction of a pipe. -/
structure Channel where
  /-- The most bytes it holds. -/
  capacity : Nat
  /-- The bytes written and not yet read. -/
  queue : Bytes := []
  /-- Whether nothing more can be written. -/
  closed : Bool := false
  deriving DecidableEq

namespace Channel

/-- Write as many bytes as there is room for. -/
def write (channel : Channel) (data : Bytes) : Poll (Except Failure Nat) × Channel :=
  if channel.closed then (.ready (.error ⟨.brokenPipe, none⟩), channel)
  else
    let room := channel.capacity - channel.queue.length
    if room = 0 then (.pending false, channel)
    else
      (.ready (.ok (min room data.length)),
        { channel with queue := channel.queue ++ data.take room })

/-- Read what is there. A closed channel is read to its end. -/
def read (channel : Channel) (limit : Nat) : Poll (Except Failure Bytes) × Channel :=
  if channel.queue = [] then
    (if channel.closed then .ready (.ok []) else .pending false, channel)
  else
    (.ready (.ok (channel.queue.take limit)),
      { channel with queue := channel.queue.drop limit })

/-- A write accepts no more than was offered. -/
theorem write_length {channel : Channel} {data : Bytes} {count : Nat}
    (accepted : (channel.write data).1 = .ready (.ok count)) : count ≤ data.length := by
  simp only [write] at accepted
  repeat' split at accepted
  all_goals cases accepted
  exact Nat.min_le_right ..

/-- A read delivers no more than was asked for. -/
theorem read_length {channel : Channel} {limit : Nat} {bytes : Bytes}
    (delivered : (channel.read limit).1 = .ready (.ok bytes)) : bytes.length ≤ limit := by
  simp only [read] at delivered
  repeat' split at delivered
  all_goals cases delivered
  · exact Nat.zero_le _
  · exact List.length_take_le ..

/-- A write never asks for repetition. -/
theorem urgency_write (channel : Channel) (data : Bytes) : (channel.write data).1.urgency = 0 := by
  simp only [write]
  repeat' split
  all_goals rfl

/-- A read never asks for repetition. -/
theorem urgency_read (channel : Channel) (limit : Nat) : (channel.read limit).1.urgency = 0 := by
  simp only [read]
  repeat' split
  all_goals rfl

/-- Let nothing more be written. -/
def close (channel : Channel) : Channel := { channel with closed := true }

end Channel

/-- The two ends of a pipe. -/
inductive End
  /-- The end at which the pipe was opened first. -/
  | left
  /-- The other end. -/
  | right
  deriving DecidableEq

/-- Two channels between two ends. -/
structure Pipe where
  /-- What the left end writes and the right end reads. -/
  fromLeft : Channel
  /-- What the right end writes and the left end reads. -/
  fromRight : Channel
  deriving DecidableEq

namespace Pipe

/-- An empty pipe. -/
def ofCapacity (capacity : Nat) : Pipe := ⟨{ capacity }, { capacity }⟩

/-- The channel that an end writes to. -/
def outgoing (pipe : Pipe) : End → Channel
  | .left => pipe.fromLeft
  | .right => pipe.fromRight

/-- The channel that an end reads from. -/
def incoming (pipe : Pipe) : End → Channel
  | .left => pipe.fromRight
  | .right => pipe.fromLeft

/-- Put a channel in the place of the one that an end writes to. -/
def setOutgoing (pipe : Pipe) (channel : Channel) : End → Pipe
  | .left => { pipe with fromLeft := channel }
  | .right => { pipe with fromRight := channel }

/-- Put a channel in the place of the one that an end reads from. -/
def setIncoming (pipe : Pipe) (channel : Channel) : End → Pipe
  | .left => { pipe with fromRight := channel }
  | .right => { pipe with fromLeft := channel }

/-- The stream seen from one end of a pipe. Letting go of an end closes both channels. -/
def transport (side : End) : Transport Pipe where
  read pipe limit :=
    let (outcome, channel) := (pipe.incoming side).read limit
    (outcome, pipe.setIncoming channel side)
  write pipe data :=
    let (outcome, channel) := (pipe.outgoing side).write data
    (outcome, pipe.setOutgoing channel side)
  flush pipe := (.ready (.ok ()), pipe)
  shutdown pipe := (.ready (.ok ()), pipe.setOutgoing (pipe.outgoing side).close side)
  release pipe := ⟨pipe.fromLeft.close, pipe.fromRight.close⟩
  patience _ := 0
  read_length := Channel.read_length
  write_length := Channel.write_length
  read_patience pipe limit :=
    Nat.le_of_eq ((Nat.zero_add _).trans ((pipe.incoming side).urgency_read limit))
  write_patience pipe data :=
    Nat.le_of_eq ((Nat.zero_add _).trans ((pipe.outgoing side).urgency_write data))
  flush_patience _ := Nat.le_refl _
  shutdown_patience _ := Nat.le_refl _

end Pipe

end Cmpp
