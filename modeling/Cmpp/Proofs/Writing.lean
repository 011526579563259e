import Cmpp.Connection.Transmission

/-!
# The bytes on their way out

What a connection has handed over to be sent is what its transport has accepted, followed by what
its write buffer still holds. Draining and flushing move bytes from the buffer to the transport and
leave this stream as it is; a write appends to it the bytes it takes, and takes them all when they
are fewer than the buffer is meant to hold. So a transmission appends its data from the front, in
order and without gaps (`Transmission.poll_keeps`).
-/

namespace Cmpp

variable {σ : Type} {io : Transport σ}

namespace Line

/-- The bytes that the transport has accepted, in order. -/
def accepted (line : Line σ) : Bytes := line.history.flatMap Event.accepted

/-- An event adds to the bytes accepted what was accepted in it. -/
@[simp] theorem accepted_enter (line : Line σ) (event : Event) (state : σ) :
    (line.enter event state).accepted = line.accepted ++ event.accepted := by
  simp [accepted, history, enter]

/-- A note adds nothing to the bytes accepted. -/
@[simp] theorem accepted_note (line : Line σ) (note : Note) :
    (line.note note).accepted = line.accepted := by
  simp [Line.note, Event.accepted]

/-- A flush adds nothing to the bytes accepted. -/
theorem accepted_flush {line after : Line σ} {outcome : Poll (Except Failure Unit)}
    (flushed : line.flush io = (outcome, after)) : after.accepted = line.accepted := by
  cases flushed
  simp [Event.accepted]

/-- A shutdown adds nothing to the bytes accepted. -/
theorem accepted_shutdown {line after : Line σ} {outcome : Poll (Except Failure Unit)}
    (done : line.shutdown io = (outcome, after)) : after.accepted = line.accepted := by
  cases done
  simp [Event.accepted]

/-- A read adds nothing to the bytes accepted. -/
theorem accepted_read {line after : Line σ} {limit : Nat} {outcome : Poll (Except Failure Bytes)}
    (read : line.read io limit = (outcome, after)) : after.accepted = line.accepted := by
  cases read
  simp [Event.accepted]

/-- What a write adds to the bytes accepted. -/
theorem accepted_write {line after : Line σ} {data : Bytes} {outcome : Poll (Except Failure Nat)}
    (written : line.write io data = (outcome, after)) :
    after.accepted = line.accepted ++ (Event.write data outcome).accepted := by
  cases written
  exact accepted_enter ..

/-- A write accepts no more than was offered. -/
theorem write_length {line after : Line σ} {data : Bytes} {count : Nat}
    (written : line.write io data = (.ready (.ok count), after)) : count ≤ data.length :=
  io.write_length (congrArg Prod.fst written)

end Line

namespace WriteBuffer

/-- All the bytes that were handed over: those accepted, and those that still wait. -/
def stream (buffer : WriteBuffer) (line : Line σ) : Bytes := line.accepted ++ buffer.unsent

/-- Draining moves bytes to the transport; when it succeeds, none are left. -/
theorem drain_keeps {buffer after : WriteBuffer} {line lineAfter : Line σ}
    {polled : Poll (Except Failure Unit)}
    (drained : buffer.drain io line = (polled, after, lineAfter)) :
    after.stream lineAfter = buffer.stream line ∧ after.capacity = buffer.capacity ∧
      (polled = .ready (.ok ()) → after.unsent = [] ∧ after.spent = 0) := by
  fun_induction drain buffer io line with
  | case1 buffer line empty =>
    cases drained
    exact ⟨rfl, rfl, fun _ => ⟨empty, rfl⟩⟩
  | case2 buffer line _ woken _ written =>
    cases drained
    simp [stream, Line.accepted_write written, Event.accepted]
  | case3 buffer line _ failure _ written _ ih =>
    obtain ⟨same, capacity, rest⟩ := ih drained
    refine ⟨same.trans ?_, capacity, rest⟩
    simp [stream, Line.accepted_write written, Event.accepted]
  | case4 buffer line _ failure _ written _ =>
    cases drained
    simp [stream, Line.accepted_write written, Event.accepted, reclaim]
  | case5 buffer line _ _ written =>
    cases drained
    simp [stream, Line.accepted_write written, Event.accepted, reclaim]
  | case6 buffer line _ count _ written _ ih =>
    obtain ⟨same, capacity, rest⟩ := ih drained
    refine ⟨same.trans ?_, capacity, rest⟩
    simp [stream, Line.accepted_write written, Event.accepted, advance]

/-- Flushing leaves the stream as it is. -/
theorem flush_keeps {buffer after : WriteBuffer} {line lineAfter : Line σ}
    {polled : Poll (Except Failure Unit)}
    (flushed : buffer.flush io line = (polled, after, lineAfter)) :
    after.stream lineAfter = buffer.stream line ∧ after.capacity = buffer.capacity := by
  unfold flush at flushed
  split at flushed
  · rename_i drained
    obtain ⟨same, capacity, -⟩ := drain_keeps drained
    cases flushed
    refine ⟨?_, capacity⟩
    simpa only [stream, Line.accepted_enter, Event.accepted, List.append_nil] using same
  · rename_i drained
    obtain ⟨same, capacity, -⟩ := drain_keeps drained
    cases flushed
    exact ⟨same, capacity⟩

/-- What a write has appended to the stream when it comes to an outcome: the bytes it took. Data
shorter than the capacity is taken whole. -/
def Appended (data : Bytes) (capacity : Nat) (before after : Bytes) :
    Poll (Except Failure Nat) → Prop
  | .ready (.ok taken) =>
    after = before ++ data.take taken ∧ taken ≤ data.length ∧
      (data.length < capacity → taken = data.length)
  | _ => after = before

/-- Bytes put into a buffer that has room for them, or past one that is empty, are appended to the
stream. -/
theorem put_appends {buffer after : WriteBuffer} {line lineAfter : Line σ} {data : Bytes}
    {outcome : Poll (Except Failure Nat)}
    (passable : buffer.capacity ≤ data.length → buffer.unsent = [])
    (put : buffer.put io line data = (outcome, after, lineAfter)) :
    Appended data buffer.capacity (buffer.stream line) (after.stream lineAfter) outcome ∧
      after.capacity = buffer.capacity := by
  unfold WriteBuffer.put at put
  split at put
  · rename_i long
    cases written : line.write io data with
    | mk result middle =>
      rw [written] at put
      obtain ⟨rfl, rfl, rfl⟩ : result = outcome ∧ buffer = after ∧ middle = lineAfter := by
        simpa using put
      refine ⟨?_, rfl⟩
      rcases result with (failure | taken) | woken
      · simp [Appended, stream, Line.accepted_write written, Event.accepted]
      · refine ⟨?_, Line.write_length written, fun short => absurd short (Nat.not_lt.mpr long)⟩
        simp [stream, passable long, Line.accepted_write written, Event.accepted]
      · simp [Appended, stream, Line.accepted_write written, Event.accepted]
  · cases put
    simp [Appended, stream]

/-- A write appends to the stream the bytes that it takes. -/
theorem write_appends {buffer after : WriteBuffer} {line lineAfter : Line σ} {data : Bytes}
    {outcome : Poll (Except Failure Nat)}
    (written : buffer.write io line data = (outcome, after, lineAfter)) :
    Appended data buffer.capacity (buffer.stream line) (after.stream lineAfter) outcome ∧
      after.capacity = buffer.capacity := by
  unfold WriteBuffer.write at written
  split at written
  · rename_i room
    refine put_appends (fun long => ?_) written
    rw [length] at room
    exact List.length_eq_zero_iff.mp (by omega)
  · split at written
    · rename_i drained
      obtain ⟨same, capacity, empty⟩ := drain_keeps drained
      have appended := put_appends (fun _ => (empty rfl).1) written
      rwa [same, capacity] at appended
    · rename_i drained
      obtain ⟨same, capacity, -⟩ := drain_keeps drained
      cases written
      exact ⟨same, capacity⟩
    · rename_i drained
      obtain ⟨same, capacity, -⟩ := drain_keeps drained
      cases written
      exact ⟨same, capacity⟩

end WriteBuffer

namespace Transmission

/-- What holds between the frame that is sent, the part of it that has been appended to the stream
and the place where sending has to go on: the rest is the data still to be written. A frame shorter
than the capacity is appended whole or not at all; a transport that takes nothing is met only by
data that passes the buffer by. -/
def Fits (capacity : Nat) (frame segment : Bytes) : Transmission → Prop
  | .writing tail | .flushing tail =>
    segment ++ tail = frame ∧ (frame.length < capacity → segment = [] ∨ tail = [])
  | .stalled => segment <+: frame ∧ capacity ≤ frame.length

/-- The segment appended is a prefix of the frame. -/
theorem Fits.isPrefix {capacity : Nat} {frame segment : Bytes} {rest : Transmission}
    (fits : rest.Fits capacity frame segment) : segment <+: frame := by
  cases rest with
  | writing tail | flushing tail => exact ⟨tail, fits.1⟩
  | stalled => exact fits.1

/-- The segment appended is nothing or the whole, unless the frame is as long as the capacity. -/
theorem Fits.whole {capacity : Nat} {frame segment : Bytes} {rest : Transmission}
    (fits : rest.Fits capacity frame segment) (short : frame.length < capacity) :
    segment = [] ∨ segment = frame := by
  cases rest with
  | writing tail | flushing tail =>
    refine (fits.2 short).imp_right fun done => ?_
    rw [← fits.1, done, List.append_nil]
  | stalled => exact absurd short (Nat.not_lt.mpr fits.2)

/-- After a write, the part taken has been appended and the rest is still to be written. -/
theorem fits_afterWrite {capacity taken : Nat} {frame segment tail : Bytes}
    (nonempty : tail ≠ []) (fits : (writing tail).Fits capacity frame segment)
    (whole : tail.length < capacity → taken = tail.length) :
    (afterWrite tail taken).Fits capacity frame (segment ++ tail.take taken) := by
  obtain ⟨joined, short⟩ := fits
  have length := congrArg List.length joined
  rw [List.length_append] at length
  unfold afterWrite
  split
  · rename_i none
    have positive := List.length_pos_iff.mpr nonempty
    refine ⟨⟨tail, by simp [none, joined]⟩, Nat.le_of_not_lt fun small => ?_⟩
    have everything := whole (by omega)
    omega
  · refine ⟨by rw [List.append_assoc, List.take_append_drop, joined], fun small => .inr ?_⟩
    rw [whole (by omega), List.drop_length]

/-- Going on with a transmission appends to the stream a further part of the frame, the next one in
order, and all the rest of it when the transmission succeeds. -/
theorem poll_keeps {rest after : Transmission} {buffer bufferAfter : WriteBuffer}
    {line lineAfter : Line σ} {polled : Poll (Except Failure Unit)} {frame segment : Bytes}
    (fits : rest.Fits buffer.capacity frame segment)
    (poll : rest.poll io buffer line = (polled, after, bufferAfter, lineAfter)) :
    ∃ gained, bufferAfter.stream lineAfter = buffer.stream line ++ gained ∧
      after.Fits buffer.capacity frame (segment ++ gained) ∧
      bufferAfter.capacity = buffer.capacity ∧
      (polled = .ready (.ok ()) → segment ++ gained = frame) := by
  fun_induction Transmission.poll rest io buffer line generalizing segment with
  | case1 buffer line =>
    cases poll
    exact ⟨[], by simp, by simpa using fits, rfl, fun _ => fits.1⟩
  | case2 buffer line tail nonempty taken _ _ written ih =>
    obtain ⟨⟨appended, _, whole⟩, capacity⟩ := WriteBuffer.write_appends written
    have next := fits_afterWrite nonempty fits whole
    rw [← capacity] at next
    obtain ⟨gained, stream, fits, capacityAfter, done⟩ := ih next poll
    refine ⟨tail.take taken ++ gained, ?_, ?_, capacityAfter.trans capacity, ?_⟩
    · rw [stream, appended, List.append_assoc]
    · rwa [capacity, List.append_assoc] at fits
    · rwa [List.append_assoc] at done
  | case3 _ _ _ _ _ _ _ written | case4 _ _ _ _ _ _ _ written =>
    cases poll
    obtain ⟨appended, capacity⟩ := WriteBuffer.write_appends written
    exact ⟨[], by rw [appended, List.append_nil], by simpa using fits, capacity, by simp⟩
  | case5 buffer line tail _ _ flushed ih =>
    obtain ⟨same, capacity⟩ := WriteBuffer.flush_keeps flushed
    have next : (writing tail).Fits buffer.capacity frame segment := fits
    rw [← capacity] at next
    obtain ⟨gained, stream, fits, capacityAfter, done⟩ := ih next poll
    exact ⟨gained, by rw [stream, same], capacity ▸ fits, capacityAfter.trans capacity, done⟩
  | case6 _ _ _ _ _ _ waiting flushed | case8 _ _ _ _ _ waiting flushed =>
    cases poll
    obtain ⟨same, capacity⟩ := WriteBuffer.flush_keeps flushed
    exact ⟨[], by rw [same, List.append_nil], by simpa using fits, capacity,
      fun done => (waiting done).elim⟩
  | case7 _ _ _ _ flushed =>
    cases poll
    obtain ⟨same, capacity⟩ := WriteBuffer.flush_keeps flushed
    exact ⟨[], by rw [same, List.append_nil], by simpa using fits, capacity, by simp⟩

end Transmission

end Cmpp
