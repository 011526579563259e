import Cmpp.Proofs.Calls

/-!
# What it takes to send

A transmission goes on in turns of a write and a flush, and either of them may drain the write
buffer first, where interrupted writes are repeated at once. So two loops run on the same transport,
and neither knows of the steps of the other. What they share are the bytes that the buffer holds and
that are still to be written: a call takes one of them off, or completes a turn that has, or is
interrupted, or is the last one for now.

A `Line.Meter` is moved by calls in this way, and how far a poll moves it is bounded once for all
meters (`Transmission.poll_metered`). One meter counts the writes that need not be repeated
(`Line.Meter.settled`); where the interruptions are bounded, another one counts all calls.

Nothing bounds the interruptions but the law of a `Transport` on its patience. A stream as such may
interrupt every write, and then a draining goes on for ever. What becomes of senders on streams
without this law is the subject of `Cmpp.Proofs.Watching` and `Cmpp.Proofs.Habits`.
-/

namespace Cmpp

variable {σ : Type} {io : Transport σ}

/-! ## Kinds of calls -/

/-- Whether an attempt was interrupted. -/
def Poll.isInterrupted {α : Type} : Poll (Except Failure α) → Bool
  | .ready (.error failure) => failure.kind = .interrupted
  | _ => false

namespace Event

/-- Whether an event is a write, with whatever outcome. -/
def isWrite : Event → Bool
  | write .. => true
  | _ => false

/-- Whether an event is a write that has to wait. -/
def isHeldUp : Event → Bool
  | write _ (.pending _) => true
  | _ => false

/-- Whether an event is a write that was interrupted. -/
def isInterrupted : Event → Bool
  | write _ outcome => outcome.isInterrupted
  | _ => false

/-- Whether an event is a write that need not be repeated: bytes were accepted, or none were, or it
failed. -/
def isSettled : Event → Bool
  | write _ (.ready (.ok _)) => true
  | write _ (.ready (.error failure)) => failure.kind ≠ .interrupted
  | _ => false

/-- Whether an event is a flush that succeeded. -/
def isFlushed : Event → Bool
  | flush (.ready (.ok _)) => true
  | _ => false

/-- What has to wait is a write. -/
theorem isWrite_of_isHeldUp {event : Event} (heldUp : event.isHeldUp) : event.isWrite := by
  cases event with
  | write => rfl
  | keepalive | read | flush | shutdown | note => cases heldUp

/-- What was interrupted is a write. -/
theorem isWrite_of_isInterrupted {event : Event} (interrupted : event.isInterrupted) :
    event.isWrite := by
  cases event with
  | write => rfl
  | keepalive | read | flush | shutdown | note => cases interrupted

/-- Writes of some kind are counted among the writes as among all events. -/
theorem countP_writes {kind : Event → Bool} (writes : ∀ {event : Event}, kind event → event.isWrite)
    (events : List Event) : (events.filter isWrite).countP kind = events.countP kind := by
  rw [List.countP_filter]
  congr 1
  funext event
  cases found : kind event with
  | false => rfl
  | true => exact writes found

/-- A write is settled, has to wait or was interrupted. -/
theorem countP_isWrite (events : List Event) :
    events.countP isWrite =
      events.countP isSettled + events.countP isHeldUp + events.countP isInterrupted := by
  induction events with
  | nil => rfl
  | cons event events ih =>
    simp only [List.countP_cons, ih]
    cases event with
    | write offered outcome =>
      rcases outcome with (failure | count) | woken
      · by_cases same : failure.kind = .interrupted
        · simp [isWrite, isSettled, isHeldUp, isInterrupted, Poll.isInterrupted, same]
          omega
        · simp [isWrite, isSettled, isHeldUp, isInterrupted, Poll.isInterrupted, same]
          omega
      · simp [isWrite, isSettled, isHeldUp, isInterrupted, Poll.isInterrupted]
        omega
      · simp [isWrite, isSettled, isHeldUp, isInterrupted, Poll.isInterrupted]
        omega
    | keepalive | read | flush | shutdown | note =>
      simp [isWrite, isSettled, isHeldUp, isInterrupted]

end Event

/-! ## Meters -/

namespace Poll

/-- By how much a write moves a meter at most: not at all when it was interrupted, and by what the
meter sees in a call that has to wait. -/
def price (extra : Nat) : Poll (Except Failure Nat) → Nat
  | .ready (.ok _) => 1
  | .ready (.error failure) => if failure.kind = .interrupted then 0 else 1
  | .pending _ => extra

/-- By how much an attempt that does not succeed moves a meter at most, besides what it has done. -/
def overrun {α : Type} (extra : Nat) : Poll (Except Failure α) → Nat
  | .ready (.ok _) => 0
  | .ready (.error _) => 1
  | .pending _ => extra

/-- A write that fails is no more than its end. -/
theorem price_error_le (extra : Nat) (failure : Failure) :
    price extra (.ready (.error failure)) ≤ 1 := by
  simp only [price]
  split <;> omega

/-- An attempt that does not succeed ends with one call. -/
theorem overrun_le {α : Type} {extra : Nat} (small : extra ≤ 1)
    (outcome : Poll (Except Failure α)) : outcome.overrun extra ≤ 1 := by
  unfold overrun
  split <;> omega

end Poll

namespace Line

/-- A meter on a line. Every call moves it by one at most, and interrupted writes do not. -/
structure Meter (io : Transport σ) where
  /-- What it shows. -/
  reading : Line σ → Nat
  /-- By how much flushes, and calls that have to wait, move it at most. -/
  extra : Nat
  /-- These move it no more than others do. -/
  extra_le : extra ≤ 1
  /-- By how much writes move it at most. -/
  write_le : ∀ {line after : Line σ} {data : Bytes} {outcome : Poll (Except Failure Nat)},
    data ≠ [] → line.write io data = (outcome, after) →
      reading after ≤ reading line + outcome.price extra
  /-- By how much flushes move it at most. -/
  flush_le : ∀ {line after : Line σ} {outcome : Poll (Except Failure Unit)},
    line.flush io = (outcome, after) → reading after ≤ reading line + extra

namespace Meter

/-- The meter that counts the writes that need not be repeated. -/
def settled : Meter io where
  reading line := line.history.countP Event.isSettled
  extra := 0
  extra_le := Nat.zero_le 1
  write_le := by
    intro line after data outcome _ written
    cases written
    rw [history_enter, List.countP_append, List.countP_singleton]
    cases (io.write line.state data).1 with
    | pending woken => simp [Event.isSettled, Poll.price]
    | ready result =>
      cases result with
      | ok count => simp [Event.isSettled, Poll.price]
      | error failure => simp [Event.isSettled, Poll.price]
  flush_le := by
    intro line after outcome flushed
    cases flushed
    rw [history_enter, List.countP_append, List.countP_singleton]
    simp [Event.isSettled]

end Meter

end Line

/-! ## One poll -/

namespace Transmission

/-- How far what a transmission has ahead can move a meter, apart from what the write buffer
holds: by one for each byte, and for each flush as far as flushes move the meter. -/
def work (extra : Nat) : Transmission → Nat
  | .writing tail => tail.length + extra * tail.length
  | .flushing tail => tail.length + extra * (tail.length + 1)
  | .stalled => extra

/-- There is at most one flush to a byte, and one besides. -/
theorem work_one_le (rest : Transmission) : rest.work 1 ≤ 2 * rest.work 0 + 1 := by
  cases rest <;> simp only [work] <;> omega

/-- Where a transmission has to go on after an attempt to write its data. -/
def afterAttempt (data : Bytes) : Poll (Except Failure Nat) → Transmission
  | .ready (.ok taken) => afterWrite data taken
  | _ => .writing data

/-- A write takes its bytes, and at least one unit of work, off a transmission. -/
theorem work_afterWrite {data : Bytes} {taken : Nat} (extra : Nat) (nonempty : data ≠ [])
    (within : taken ≤ data.length) :
    (afterWrite data taken).work extra + max 1 taken ≤ (writing data).work extra := by
  have positive := List.length_pos_iff.mpr nonempty
  unfold afterWrite
  split
  · -- The turn of a single byte would pay for this write and for the flush that is still made.
    rename_i none
    have flushes : extra ≤ extra * data.length := Nat.le_mul_of_pos_right extra positive
    simp only [work, none]
    omega
  · rename_i some
    have flushes : extra * (data.length - taken + 1) ≤ extra * data.length :=
      Nat.mul_le_mul_left extra (by omega)
    simp only [work, List.length_drop]
    omega

end Transmission

namespace WriteBuffer

variable {buffer after : WriteBuffer} {line lineAfter : Line σ} {data : Bytes}
  (meter : Line.Meter io)

/-- Draining moves a meter by one for each byte that the transport accepts, and for its end if it
does not succeed. -/
theorem drain_metered {polled : Poll (Except Failure Unit)}
    (drained : buffer.drain io line = (polled, after, lineAfter)) :
    meter.reading lineAfter + after.unsent.length ≤
      meter.reading line + buffer.unsent.length + polled.overrun meter.extra := by
  -- Only an interrupted write leaves the bytes as they are and is not the last, and it does not
  -- move the meter.
  fun_induction drain buffer io line with
  | case1 buffer line empty =>
    cases drained
    exact Nat.le_refl _
  | case2 buffer line nonempty woken _ written =>
    have moved := meter.write_le nonempty written
    cases drained
    simp only [Poll.price, Poll.overrun] at moved ⊢
    omega
  | case3 buffer line nonempty failure _ written interrupted ih =>
    have moved := meter.write_le nonempty written
    have further := ih drained
    simp only [Poll.price, if_pos interrupted] at moved
    omega
  | case4 buffer line nonempty failure _ written final =>
    have moved := meter.write_le nonempty written
    cases drained
    simp only [Poll.price, if_neg final, Poll.overrun, reclaim] at moved ⊢
    omega
  | case5 buffer line nonempty _ written =>
    have moved := meter.write_le nonempty written
    cases drained
    simp only [Poll.price, Poll.overrun, reclaim] at moved ⊢
    omega
  | case6 buffer line nonempty count _ written some ih =>
    have moved := meter.write_le nonempty written
    have further := ih drained
    have positive := List.length_pos_iff.mpr nonempty
    simp only [Poll.price, advance, List.length_drop] at moved further
    omega

/-- Putting data into a buffer, or past it, does a part of the work on this data. -/
theorem put_metered {outcome : Poll (Except Failure Nat)} (nonempty : data ≠ [])
    (put : buffer.put io line data = (outcome, after, lineAfter)) :
    meter.reading lineAfter + after.unsent.length +
        (Transmission.afterAttempt data outcome).work meter.extra ≤
      meter.reading line + buffer.unsent.length + (Transmission.writing data).work meter.extra +
        outcome.overrun meter.extra := by
  unfold WriteBuffer.put at put
  split at put
  · cases written : line.write io data with
    | mk result middle =>
      rw [written] at put
      obtain ⟨rfl, rfl, rfl⟩ : result = outcome ∧ buffer = after ∧ middle = lineAfter := by
        simpa using put
      have moved := meter.write_le nonempty written
      rcases result with (failure | taken) | woken
      · have once := Poll.price_error_le meter.extra failure
        simp only [Transmission.afterAttempt, Poll.overrun]
        omega
      · have less := Transmission.work_afterWrite meter.extra nonempty (Line.write_length written)
        simp only [Poll.price, Transmission.afterAttempt, Poll.overrun] at moved ⊢
        omega
      · simp only [Poll.price, Transmission.afterAttempt, Poll.overrun] at moved ⊢
        omega
  · cases put
    have less := Transmission.work_afterWrite meter.extra nonempty (Nat.le_refl data.length)
    simp only [Transmission.afterAttempt, Poll.overrun, List.length_append]
    omega

/-- A write through a buffer does a part of the work on its data, and on what the buffer holds. -/
theorem write_metered {outcome : Poll (Except Failure Nat)} (nonempty : data ≠ [])
    (written : buffer.write io line data = (outcome, after, lineAfter)) :
    meter.reading lineAfter + after.unsent.length +
        (Transmission.afterAttempt data outcome).work meter.extra ≤
      meter.reading line + buffer.unsent.length + (Transmission.writing data).work meter.extra +
        outcome.overrun meter.extra := by
  unfold WriteBuffer.write at written
  split at written
  · exact put_metered meter nonempty written
  · split at written
    · rename_i drained
      have first := drain_metered meter drained
      have second := put_metered meter nonempty written
      simp only [Poll.overrun] at first
      omega
    · rename_i drained
      have first := drain_metered meter drained
      cases written
      simp only [Transmission.afterAttempt, Poll.overrun] at first ⊢
      omega
    · rename_i drained
      have first := drain_metered meter drained
      cases written
      simp only [Transmission.afterAttempt, Poll.overrun] at first ⊢
      omega

/-- A flush that succeeds moves a meter by the flush of the transport, and one that does not by its
end, besides what the buffer holds. -/
theorem flush_metered {polled : Poll (Except Failure Unit)}
    (flushed : buffer.flush io line = (polled, after, lineAfter)) :
    (polled = .ready (.ok ()) →
      meter.reading lineAfter + after.unsent.length ≤
        meter.reading line + buffer.unsent.length + meter.extra) ∧
    (polled ≠ .ready (.ok ()) →
      meter.reading lineAfter + after.unsent.length ≤
        meter.reading line + buffer.unsent.length + polled.overrun meter.extra) := by
  have small := meter.extra_le
  unfold flush at flushed
  split at flushed
  · rename_i middle drained
    have first := drain_metered meter drained
    cases last : middle.flush io with
    | mk result final =>
      have moved := meter.flush_le last
      rw [last] at flushed
      cases flushed
      simp only [Poll.overrun] at first
      refine ⟨fun _ => by omega, fun failed => ?_⟩
      rcases polled with (failure | _) | woken
      · simp only [Poll.overrun]
        omega
      · exact (failed rfl).elim
      · simp only [Poll.overrun]
        omega
  · rename_i notDone drained
    have first := drain_metered meter drained
    cases flushed
    exact ⟨fun done => (notDone done).elim, fun _ => first⟩

end WriteBuffer

namespace Transmission

/-- A poll does a part of the work that a transmission and the write buffer have ahead. -/
theorem poll_metered {rest after : Transmission} {buffer bufferAfter : WriteBuffer}
    {line lineAfter : Line σ} {polled : Poll (Except Failure Unit)} (meter : Line.Meter io)
    (poll : rest.poll io buffer line = (polled, after, bufferAfter, lineAfter)) :
    meter.reading lineAfter + bufferAfter.unsent.length + after.work meter.extra ≤
      meter.reading line + buffer.unsent.length + rest.work meter.extra +
        polled.overrun meter.extra := by
  fun_induction Transmission.poll rest io buffer line with
  | case1 buffer line =>
    cases poll
    exact Nat.le_refl _
  | case2 buffer line data nonempty taken _ _ written ih =>
    have first := WriteBuffer.write_metered meter nonempty written
    have further := ih poll
    simp only [afterAttempt, Poll.overrun] at first
    omega
  | case3 buffer line data nonempty failure _ _ written
  | case4 buffer line data nonempty woken _ _ written =>
    have only := WriteBuffer.write_metered meter nonempty written
    cases poll
    exact only
  | case5 buffer line data _ _ flushed ih =>
    -- The flush is paid for by what its work has over that of the next write.
    have first := (WriteBuffer.flush_metered meter flushed).1 rfl
    have further := ih poll
    simp only [work, Nat.mul_succ] at further ⊢
    omega
  | case6 buffer line data outcome _ _ notDone flushed
  | case8 buffer line outcome _ _ notDone flushed =>
    have only := (WriteBuffer.flush_metered meter flushed).2 notDone
    cases poll
    omega
  | case7 buffer line _ _ flushed =>
    have only := (WriteBuffer.flush_metered meter flushed).1 rfl
    have small := meter.extra_le
    cases poll
    simp only [Poll.overrun]
    omega

end Transmission

end Cmpp
