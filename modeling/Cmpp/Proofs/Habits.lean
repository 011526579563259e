import Cmpp.Proofs.Watching

/-!
# Scripts that go on for ever

A script says what some calls on a stream come to, and a `Habit` what all further calls come to. A
sender on such a stream begins no more turns than its data has bytes, and makes no more writes than
there are bytes to be accepted, not counting those that have to be repeated. This holds whatever the
habit is. But each of its polls ends only if the habit interrupts no write
(`Habit.polls_end_iff`): interrupted writes are repeated as long as a buffer is drained, within one
and the same poll (`Habit.drain_endless`).
-/

namespace Cmpp

/-- What every call on a stream comes to from some time on. -/
structure Habit where
  /-- What writes come to. -/
  write : (data : Bytes) → Poll (Except Failure Nat)
  /-- What flushes come to. -/
  flush : Poll (Except Failure Unit)
  /-- No more is accepted than was offered. -/
  write_length : ∀ {data count}, write data = .ready (.ok count) → count ≤ data.length

namespace Habit

variable {habit : Habit}

/-- To accept one byte at a time. -/
def byByte : Habit where
  write data := .ready (.ok (min 1 data.length))
  flush := .ready (.ok ())
  write_length {data count} accepted := by
    cases accepted
    exact Nat.min_le_right ..

/-- To interrupt every write. -/
def interrupting : Habit where
  write _ := .ready (.error ⟨.interrupted, none⟩)
  flush := .ready (.ok ())
  write_length accepted := by cases accepted

/-- The stream that follows a script, and then its habit. -/
def outlet (habit : Habit) : Outlet Script where
  write script data :=
    if script.writes = [] then (habit.write data, script) else script.write data
  flush script := if script.flushes = [] then (habit.flush, script) else script.flush
  write_length {script data count} accepted := by
    split at accepted
    · exact habit.write_length accepted
    · exact Script.write_length accepted

/-- Whether a habit is to interrupt some writes. -/
def Interrupts (habit : Habit) : Prop := ∃ data, data ≠ [] ∧ (habit.write data).isInterrupted

/-- A write by a cue uses this cue up, and a flush leaves it as it is. -/
theorem writes_write {script : Script} (cues : script.writes ≠ []) (data : Bytes) :
    (script.write data).2.writes.length + 1 = script.writes.length := by
  unfold Script.write
  split <;> simp_all

/-- A flush leaves the cues of writes as they are. -/
theorem writes_flush (script : Script) : script.flush.2.writes = script.writes := by
  unfold Script.flush
  split <;> rfl

/-- A habit that interrupts no write leaves it to the cues to do so. -/
def stock (steady : ¬habit.Interrupts) : habit.outlet.Stock where
  left script := script.writes.length
  write_le script data nonempty := by
    simp only [outlet]
    split <;> rename_i cues
    · have lasts : (habit.write data).isInterrupted = false :=
        Bool.eq_false_iff.mpr fun interrupted => steady ⟨data, nonempty, interrupted⟩
      rw [lasts]
      exact Nat.le_refl _
    · have used := writes_write cues data
      have once := Bool.toNat_le (script.write data).1.isInterrupted
      omega
  flush_le script := by
    simp only [outlet]
    split
    · exact Nat.le_refl _
    · rw [writes_flush]

end Habit

/-- How a script goes on. -/
def Script.habit (script : Script) : Habit where
  write data := if script.writesWait then .pending false else .ready (.ok data.length)
  flush := .ready (.ok ())
  write_length {data count} accepted := by
    split at accepted <;> cases accepted
    exact Nat.le_refl _

/-- A script interrupts no write unless by a cue. -/
theorem Script.habit_steady (script : Script) : ¬script.habit.Interrupts := by
  rintro ⟨data, -, interrupted⟩
  unfold Script.habit at interrupted
  split at interrupted <;> cases interrupted

namespace Script

/-- A script is followed by writes that follow it and then its habit. -/
theorem write_habit (script : Script) (data : Bytes) :
    script.write data = script.habit.outlet.write script data := by
  simp only [Habit.outlet]
  split <;> rename_i cues
  · simp only [write, cues, habit]
  · rfl

/-- A script is followed by flushes that follow it and then its habit. -/
theorem flush_habit (script : Script) : script.flush = script.habit.outlet.flush script := by
  simp only [Habit.outlet]
  split <;> rename_i cues
  · simp only [flush, cues, habit]
  · rfl

/-- Writes leave the habit of a script as it is. -/
theorem habit_write (script : Script) (data : Bytes) :
    (script.write data).2.habit = script.habit := by
  unfold write
  split <;> rfl

/-- Flushes leave the habit of a script as it is. -/
theorem habit_flush (script : Script) : script.flush.2.habit = script.habit := by
  unfold flush
  split <;> rfl

end Script

namespace Dispatch

variable {dispatch : Dispatch} {line : Line Script} {most : Nat}

/-- The poll of a sender on a script is the one on the stream that follows the script and then its
habit. -/
theorem EndsWithin.poll_script (ends : dispatch.EndsWithin line.state.habit.outlet line most) :
    dispatch.poll Script.transport line =
      dispatch.poll line.state.habit.outlet.watched (line.watch most) := by
  let shows (watched : Watched Script) (script : Script) : Prop :=
    watched.state = script ∧ script.habit = line.state.habit
  refine ends.poll_mirrored (Outlet.mirrors shows ?_ ?_) (fun alike => alike.2) ⟨⟨rfl, rfl⟩, rfl⟩
  · rintro script left other data ⟨rfl, same⟩
    have follows : Script.transport.write script data = line.state.habit.outlet.write script data :=
      same ▸ script.write_habit data
    rw [follows]
    exact ⟨rfl, rfl, follows ▸ (script.habit_write data).trans same⟩
  · rintro script left other ⟨rfl, same⟩
    have follows : Script.transport.flush script = line.state.habit.outlet.flush script :=
      same ▸ script.flush_habit
    rw [follows]
    exact ⟨rfl, rfl, follows ▸ script.habit_flush.trans same⟩

end Dispatch

/-! ## Polls without end -/

namespace Habit

variable {habit : Habit} {buffer : WriteBuffer} {line : Line Script} {data : Bytes}

/-- When the cues have run out, a write that is watched comes to what the habit says. -/
theorem write_watch (used : line.state.writes = []) (data : Bytes) (most : Nat) :
    (line.watch (most + 1)).write habit.outlet.watched data =
      (habit.write data,
        (line.enter (.write data (habit.write data)) line.state).watch most) := by
  simp [Line.write, Line.watch, Line.enter, Outlet.watched, Watched.call, outlet, used]

/-- A buffer whose bytes are interrupted at every write is drained for as long as this is watched,
and for one more call. -/
theorem drain_endless (nonempty : buffer.unsent ≠ [])
    (interrupted : (habit.write buffer.unsent).isInterrupted) (used : line.state.writes = [])
    (most : Nat) :
    (buffer.drain habit.outlet.watched (line.watch most)).1 = .ready (.error Watched.unseen) ∧
      (buffer.drain habit.outlet.watched (line.watch most)).2.2.history.length =
        line.history.length + most + 1 := by
  induction most generalizing line with
  | zero =>
    rw [WriteBuffer.drain_eq, if_neg nonempty]
    refine ⟨rfl, ?_⟩
    show (List.reverse (_ :: line.journal)).length = line.journal.reverse.length + 0 + 1
    rw [List.length_reverse, List.length_reverse, List.length_cons]
  | succ most ih =>
    rcases outcome : habit.write buffer.unsent with (failure | count) | woken
    · have same : failure.kind = .interrupted := by
        simpa [outcome, Poll.isInterrupted] using interrupted
      rw [WriteBuffer.drain_eq, if_neg nonempty, write_watch used, outcome]
      simp only [if_pos same]
      obtain ⟨failed, counted⟩ :=
        @ih (line.enter (.write buffer.unsent (.ready (.error failure))) line.state) used
      refine ⟨failed, ?_⟩
      rw [counted, Line.history_enter, List.length_append, List.length_singleton]
      omega
    · rw [outcome] at interrupted
      cases interrupted
    · rw [outcome] at interrupted
      cases interrupted

end Habit

namespace Dispatch

variable {habit : Habit} {buffer : WriteBuffer} {line : Line Script} {data : Bytes}

/-- The first poll of a sender goes on for ever if the buffer has to be drained to make room and
what it holds is interrupted at every write. -/
theorem endless_of_full (nonempty : data ≠ []) (holds : buffer.unsent ≠ [])
    (full : buffer.capacity < buffer.length + data.length)
    (interrupted : (habit.write buffer.unsent).isInterrupted) (used : line.state.writes = [])
    (most : Nat) : ¬(ofData data buffer).EndsWithin habit.outlet line most := by
  have waiting : (ofData data buffer).outcome = .pending true := rfl
  refine not_endsWithin waiting ?_
  obtain ⟨failed, counted⟩ := Habit.drain_endless holds interrupted used most
  rcases drained : buffer.drain habit.outlet.watched (line.watch most) with ⟨outcome, left, after⟩
  rw [drained] at failed counted
  cases failed
  rw [← counted]
  simp only [ofData, Transmission.poll, dif_neg nonempty, WriteBuffer.write,
    if_neg (Nat.not_le_of_lt full), drained]

/-- The first poll of a sender goes on for ever if the buffer takes all data in and what it holds
then is interrupted at every write. -/
theorem endless_of_room (nonempty : data ≠ []) (short : data.length < buffer.capacity)
    (room : buffer.length + data.length ≤ buffer.capacity)
    (interrupted : (habit.write (buffer.unsent ++ data)).isInterrupted)
    (used : line.state.writes = []) (most : Nat) :
    ¬(ofData data buffer).EndsWithin habit.outlet line most := by
  have waiting : (ofData data buffer).outcome = .pending true := rfl
  refine not_endsWithin waiting ?_
  let filled : WriteBuffer := { buffer with unsent := buffer.unsent ++ data }
  have holds : filled.unsent ≠ [] := List.append_ne_nil_of_right_ne_nil _ nonempty
  have some : data.length ≠ 0 := fun none => nonempty (List.length_eq_zero_iff.mp none)
  obtain ⟨failed, counted⟩ := @Habit.drain_endless habit filled line holds interrupted used most
  rcases drained : filled.drain habit.outlet.watched (line.watch most) with ⟨outcome, left, after⟩
  rw [drained] at failed counted
  cases failed
  have written : buffer.write habit.outlet.watched (line.watch most) data =
      (.ready (.ok data.length), filled, line.watch most) := by
    rw [WriteBuffer.write, if_pos room, WriteBuffer.put, if_neg (Nat.not_le_of_lt short)]
  have flushed : filled.flush habit.outlet.watched (line.watch most) =
      (.ready (.error Watched.unseen), left, after) := by
    simp only [WriteBuffer.flush, drained]
  rw [← counted, ofData, Transmission.poll, dif_neg nonempty]
  simp only [written, Transmission.afterWrite, if_neg some, Transmission.poll, flushed]

end Dispatch

/-- A sender comes to the end of its first poll, whatever it is to send through whatever buffer,
exactly when the habit interrupts no write. -/
theorem Habit.polls_end_iff (habit : Habit) :
    (∀ data buffer (line : Line Script), ∃ most,
      (Dispatch.ofData data buffer).EndsWithin habit.outlet line most) ↔ ¬habit.Interrupts := by
  constructor
  · rintro ends ⟨bytes, nonempty, interrupted⟩
    let buffer : WriteBuffer := { capacity := bytes.length, unsent := bytes }
    obtain ⟨most, ends⟩ := ends [0] buffer ⟨{}, []⟩
    have full : buffer.capacity < buffer.length + [0].length := by
      simp [buffer, WriteBuffer.length]
    exact Dispatch.endless_of_full (List.cons_ne_nil _ _) nonempty full interrupted rfl most ends
  · intro steady data buffer line
    exact ⟨_, Dispatch.endsWithin (stock steady) _ line (Nat.le_refl _)⟩

/-! ## Senders that wait for ever -/

/-- Whether all writes by a script have to wait. -/
def Script.Blocked (script : Script) : Prop := script.writes = [] ∧ script.writesWait

section

variable {line : Line Script} (blocked : line.state.Blocked)

include blocked

/-- A write that has to wait leaves everything as it is. -/
theorem Line.write_blocked (data : Bytes) :
    line.write Script.transport data =
      (.pending false, line.enter (.write data (.pending false)) line.state) := by
  simp [Line.write, Script.transport, Script.write, blocked.1, blocked.2]

/-- Draining has to wait if there is anything to be written. -/
theorem WriteBuffer.drain_blocked {buffer : WriteBuffer} (holds : buffer.unsent ≠ []) :
    ∃ after, buffer.drain Script.transport line = (.pending false, buffer, after) := by
  rw [drain_eq, if_neg holds, Line.write_blocked blocked]
  exact ⟨_, rfl⟩

/-- A flush through a buffer has to wait if there is anything to be written. -/
theorem WriteBuffer.flush_blocked {buffer : WriteBuffer} (holds : buffer.unsent ≠ []) :
    ∃ after, buffer.flush Script.transport line = (.pending false, buffer, after) := by
  obtain ⟨after, drained⟩ := drain_blocked blocked holds
  exact ⟨after, by rw [flush, drained]⟩

/-- Putting data into a buffer leaves it there, and putting it past the buffer has to wait. -/
theorem WriteBuffer.put_blocked {buffer : WriteBuffer} {data : Bytes} (nonempty : data ≠ []) :
    ∃ after : Line Script, buffer.put Script.transport line data = (.pending false, buffer, after) ∨
      ∃ filled : WriteBuffer, filled.unsent ≠ [] ∧
        buffer.put Script.transport line data = (.ready (.ok data.length), filled, line) := by
  unfold put
  split
  · rw [Line.write_blocked blocked]
    exact ⟨_, .inl rfl⟩
  · exact ⟨line, .inr ⟨_, List.append_ne_nil_of_right_ne_nil _ nonempty, rfl⟩⟩

/-- Writing through a buffer leaves data there, or has to wait. -/
theorem WriteBuffer.writes_blocked {buffer : WriteBuffer} {data : Bytes} (nonempty : data ≠ []) :
    ∃ (left : WriteBuffer) (after : Line Script),
      buffer.write Script.transport line data = (.pending false, left, after) ∨
        left.unsent ≠ [] ∧
          buffer.write Script.transport line data = (.ready (.ok data.length), left, line) := by
  unfold WriteBuffer.write
  split
  · obtain ⟨after, waits | ⟨filled, holds, taken⟩⟩ := put_blocked blocked nonempty
    · exact ⟨_, after, .inl waits⟩
    · exact ⟨filled, after, .inr ⟨holds, taken⟩⟩
  · by_cases empty : buffer.unsent = []
    · rw [drain_eq, if_pos empty]
      obtain ⟨after, waits | ⟨filled, holds, taken⟩⟩ := put_blocked blocked nonempty
      · exact ⟨_, after, .inl waits⟩
      · exact ⟨filled, after, .inr ⟨holds, taken⟩⟩
    · obtain ⟨after, drained⟩ := drain_blocked blocked empty
      rw [drained]
      exact ⟨_, after, .inl rfl⟩

/-- Whether a transmission has bytes for the transport next. -/
def Transmission.Presses (rest : Transmission) (buffer : WriteBuffer) : Prop :=
  match rest with
  | .writing tail => tail ≠ []
  | .flushing _ => buffer.unsent ≠ []
  | .stalled => False

/-- A transmission that has bytes for the transport has to wait with them. -/
theorem Transmission.poll_blocked {rest : Transmission} {buffer : WriteBuffer}
    (presses : rest.Presses buffer) :
    ∃ left bufferAfter after,
      rest.poll Script.transport buffer line = (.pending false, left, bufferAfter, after) ∧
        left.Presses bufferAfter := by
  cases rest with
  | stalled => exact presses.elim
  | flushing tail =>
    obtain ⟨after, waits⟩ := WriteBuffer.flush_blocked blocked presses
    exact ⟨.flushing tail, buffer, after, by rw [poll, waits], presses⟩
  | writing data =>
    obtain ⟨left, after, waits | ⟨holds, taken⟩⟩ := WriteBuffer.writes_blocked blocked presses
    · exact ⟨.writing data, left, after, by rw [poll, dif_neg presses, waits], presses⟩
    · have some : data.length ≠ 0 := fun none => presses (List.length_eq_zero_iff.mp none)
      obtain ⟨final, waits⟩ := WriteBuffer.flush_blocked blocked holds
      refine ⟨.flushing (data.drop data.length), left, final, ?_, holds⟩
      rw [poll, dif_neg presses]
      simp only [taken, afterWrite, if_neg some, poll, waits]

end

namespace Dispatch

/-- A sender that has bytes for the transport waits with them, where all writes have to wait. -/
theorem polls_pressing {dispatch : Dispatch} {found : List (Line Script)} {woken : Bool}
    (waiting : dispatch.outcome = .pending woken)
    (presses : dispatch.rest.Presses dispatch.buffer)
    (blocked : ∀ line ∈ found, line.state.Blocked) :
    ∃ woken, (dispatch.polls Script.transport found).outcome = .pending woken := by
  induction found generalizing dispatch woken with
  | nil => exact ⟨woken, waiting⟩
  | cons line found ih =>
    obtain ⟨left, bufferAfter, after, polled, still⟩ :=
      Transmission.poll_blocked (blocked line List.mem_cons_self) presses
    obtain ⟨made, -, same⟩ := poll_waiting waiting polled
    rw [polls, List.foldl_cons, same]
    exact ih rfl still fun other inside => blocked other (List.mem_cons_of_mem _ inside)

/-- Where all writes have to wait, every poll of a sender ends and none is the last. -/
theorem polls_blocked {data : Bytes} (nonempty : data ≠ []) (buffer : WriteBuffer)
    {found : List (Line Script)} (blocked : ∀ line ∈ found, line.state.Blocked) :
    ∃ woken, ((ofData data buffer).polls Script.transport found).outcome = .pending woken :=
  polls_pressing (rfl : (ofData data buffer).outcome = .pending true) nonempty blocked

/-! ## What sending takes -/

/-- On a stream that follows a script and then a habit, a sender begins no more turns than there are
bytes of data, and each that is completed leaves less to be written, unless it ends the dispatch; no
more flushes succeed than turns were begun. All in all there are no more writes than one for each
byte that was in the buffer or is in the data, one at the end, and one wherever a write had to wait
or was interrupted. So it is after whatever polls, and for how long ever each of them is watched.

If the habit interrupts no write, each poll ends, after a number of calls that the cues that are
left for writes and the bytes to be accepted bound. -/
theorem turns_and_writes_bounded (habit : Habit) (data : Bytes) (buffer : WriteBuffer)
    (found : List (Line (Watched Script))) :
    let sent := (ofData data buffer).polls habit.outlet.watched found
    (¬habit.Interrupts → ∀ line : Line Script, sent.EndsWithin habit.outlet line
        (line.state.writes.length + 2 * (buffer.unsent.length + data.length) + 2)) ∧
      sent.turns ≤ data.length ∧
      sent.calls.countP Event.isFlushed ≤ sent.turns ∧
      sent.tails.IsChain Bytes.ShrinksTo ∧
      sent.calls.countP Event.isWrite ≤ buffer.unsent.length + data.length +
        sent.calls.countP Event.isHeldUp + sent.calls.countP Event.isInterrupted + 1 := by
  intro sent
  have sound : sent.Sound data buffer.unsent.length :=
    (sound_ofData data buffer).polls habit.outlet.watched found
  refine ⟨fun steady line => ?_, sound.turns_le, sound.flushed_le, sound.shrinks, sound.writes_le⟩
  exact sound.endsWithin (Habit.stock steady) line (Nat.le_refl _)

/-- A stream that accepts one byte at a time, after one interruption and one wait. -/
theorem turns_and_writes_bounded_byByte :
    let patchy : Script := { writes := [.fail ⟨.interrupted, none⟩, .pending false] }
    let found : List (Line (Watched Script)) := [(⟨patchy, []⟩ : Line Script).watch 9]
    let sent := (ofData [2, 3, 4] { capacity := 2, unsent := [1] }).polls
      Habit.byByte.outlet.watched found
    let done := sent.poll Habit.byByte.outlet.watched ((⟨{}, []⟩ : Line Script).watch 10)
    ¬Habit.byByte.Interrupts ∧ sent.outcome = .pending false ∧
      sent.EndsWithin Habit.byByte.outlet ⟨{}, []⟩ 10 ∧ sent.turns ≤ 3 ∧
      sent.calls.countP Event.isWrite ≤ 1 + 3 + 1 + 1 + 1 ∧
      done.outcome = .ready (.ok ()) ∧ done.turns = 3 ∧ done.calls.countP Event.isWrite = 6 := by
  intro patchy found sent done
  have steady : ¬Habit.byByte.Interrupts := by
    rintro ⟨data, -, interrupted⟩
    cases interrupted
  obtain ⟨ends, turns, -, -, writes⟩ := turns_and_writes_bounded Habit.byByte [2, 3, 4]
    { capacity := 2, unsent := [1] } found
  have evaluated : sent.outcome = .pending false ∧ done.outcome = .ready (.ok ()) ∧
      done.turns = 3 ∧ done.calls.countP Event.isWrite = 6 := by decide +kernel
  have counted : sent.calls.countP Event.isHeldUp = 1 ∧
      sent.calls.countP Event.isInterrupted = 1 := by decide +kernel
  rw [counted.1, counted.2] at writes
  exact ⟨steady, evaluated.1, ends steady ⟨{}, []⟩, turns, writes, evaluated.2⟩

/-- A frame without a body, to be sent on a new connection: where every write is interrupted, the
first poll makes more calls than any number; where every write has to wait, the sender waits after
any number of polls. -/
theorem endless_or_waiting :
    let frame : Bytes := [0, 0, 0, 12, 0, 0, 0, 8, 0, 0, 0, 0]
    let fresh := ofData frame { capacity := 4096 }
    (∀ most, ¬fresh.EndsWithin Habit.interrupting.outlet ⟨{}, []⟩ most) ∧
      ∀ found : List (Line Script), (∀ line ∈ found, line.state = { writesWait := true }) →
        ∃ woken, (fresh.polls Script.transport found).outcome = .pending woken := by
  intro frame fresh
  have nonempty : frame ≠ [] := List.cons_ne_nil _ _
  refine ⟨endless_of_room nonempty (by decide) (by decide) rfl rfl, fun found waits => ?_⟩
  refine polls_blocked nonempty _ fun line inside => ?_
  rw [waits line inside]
  exact ⟨rfl, rfl⟩

end Dispatch

end Cmpp
