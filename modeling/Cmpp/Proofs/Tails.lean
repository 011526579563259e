import Cmpp.Proofs.Effort
import Mathlib.Data.List.Chain

/-!
# What turns leave to be written

Each turn of a transmission that is completed leaves less of the data to be written than it began
with, so that the turns of a poll make up a chain of ever shorter tails
(`Transmission.tails_shorten`). And each has had a flush that succeeded
(`Transmission.tails_flushed`).
-/

namespace Cmpp

variable {σ : Type} {io : Transport σ}

/-! ## Turns -/

/-- Data that is the end of other data, but not all of it. -/
def Bytes.ShrinksTo (before after : Bytes) : Prop := after <:+ before ∧ after.length < before.length

namespace Transmission

/-- What each turn that is completed in a poll leaves to be written. A turn whose write takes
nothing is the last, and leaves nothing. -/
def tails (transmission : Transmission) (io : Transport σ) (buffer : WriteBuffer)
    (line : Line σ) : List Bytes :=
  match transmission with
  | .writing data =>
    if _ : data = [] then []
    else match buffer.write io line data with
      | (.ready (.ok taken), buffer, line) => (afterWrite data taken).tails io buffer line
      | _ => []
  | .flushing data =>
    match buffer.flush io line with
    | (.ready (.ok ()), buffer, line) => data :: (writing data).tails io buffer line
    | _ => []
  | .stalled => []
termination_by transmission.turnsAhead
decreasing_by
  · exact turnsAhead_afterWrite ‹_› taken
  · exact Nat.lt_succ_self _

section

variable {buffer after : WriteBuffer} {line lineAfter : Line σ} {data : Bytes}

/-- A write leads to the flush of the same turn. -/
theorem tails_of_write {taken : Nat} (nonempty : data ≠ [])
    (written : buffer.write io line data = (.ready (.ok taken), after, lineAfter)) :
    (writing data).tails io buffer line = (afterWrite data taken).tails io after lineAfter := by
  rw [tails, dif_neg nonempty, written]

/-- A flush that succeeds completes a turn. -/
theorem tails_of_flush (flushed : buffer.flush io line = (.ready (.ok ()), after, lineAfter)) :
    (flushing data).tails io buffer line = data :: (writing data).tails io after lineAfter := by
  rw [tails.eq_def (.flushing data)]
  simp only [flushed]

/-- A flush that does not succeed completes no turn. -/
theorem tails_of_unflushed {polled : Poll (Except Failure Unit)}
    (notDone : polled ≠ .ready (.ok ()))
    (flushed : buffer.flush io line = (polled, after, lineAfter)) :
    (flushing data).tails io buffer line = [] := by
  rw [tails, flushed]
  split
  · rename_i done
    cases done
    exact (notDone rfl).elim
  · rfl

end

/-- The place of a transmission in the turn that began with some data to be written: its write is
still to be made, or has taken bytes off the front, or has taken nothing. -/
def Within (start : Bytes) : Transmission → Prop
  | .writing tail => tail = start
  | .flushing tail => start.ShrinksTo tail
  | .stalled => start ≠ []

/-- A turn that is not over began with something to be written. -/
theorem Within.nonempty {start : Bytes} {rest : Transmission} (within : rest.Within start)
    (more : rest ≠ .writing []) : start ≠ [] := by
  rintro rfl
  cases rest with
  | writing tail =>
    cases within
    exact more rfl
  | flushing tail => exact Nat.not_lt_zero _ within.2
  | stalled => exact within rfl

/-- After a write there is a flush to be made in the same turn. -/
theorem within_afterWrite {data : Bytes} {taken : Nat} (nonempty : data ≠ []) :
    (afterWrite data taken).Within data := by
  have positive := List.length_pos_iff.mpr nonempty
  unfold afterWrite
  split
  · exact nonempty
  · refine ⟨List.drop_suffix taken data, ?_⟩
    rw [List.length_drop]
    omega

/-- Each turn that is completed in a poll leaves less data to be written than it began with, and the
poll ends in the turn after the last of them. -/
theorem tails_shorten {rest after : Transmission} {buffer bufferAfter : WriteBuffer}
    {line lineAfter : Line σ} {polled : Poll (Except Failure Unit)} {start : Bytes}
    (within : rest.Within start)
    (poll : rest.poll io buffer line = (polled, after, bufferAfter, lineAfter)) :
    (start :: rest.tails io buffer line).IsChain Bytes.ShrinksTo ∧
      after.Within ((start :: rest.tails io buffer line).getLast (List.cons_ne_nil _ _)) := by
  fun_induction Transmission.poll rest io buffer line generalizing start with
  | case1 buffer line =>
    cases poll
    simpa [tails] using within
  | case2 buffer line data nonempty taken _ _ written ih =>
    cases within
    simpa only [tails_of_write nonempty written] using ih (within_afterWrite nonempty) poll
  | case3 buffer line data nonempty failure _ _ written
  | case4 buffer line data nonempty woken _ _ written =>
    cases poll
    simpa [tails, nonempty, written] using within
  | case5 buffer line data _ _ flushed ih =>
    have further := ih rfl poll
    rw [tails_of_flush flushed, List.isChain_cons_cons, List.getLast_cons (List.cons_ne_nil _ _)]
    exact ⟨⟨within, further.1⟩, further.2⟩
  | case6 buffer line data outcome _ _ notDone flushed =>
    cases poll
    simpa [tails_of_unflushed notDone flushed] using within
  | case7 | case8 =>
    cases poll
    simpa [tails] using within

end Transmission

/-! ## Turns and flushes -/

/-- How many flushes of the transport have succeeded. -/
def Line.flushed (line : Line σ) : Nat := line.history.countP Event.isFlushed

/-- A write is no flush. -/
theorem Line.flushed_write {line after : Line σ} {data : Bytes}
    {outcome : Poll (Except Failure Nat)} (written : line.write io data = (outcome, after)) :
    after.flushed = line.flushed := by
  cases written
  simp [flushed, Event.isFlushed]

/-- A flush counts if it succeeds, and not else. -/
theorem Line.flushed_flush {line after : Line σ} {outcome : Poll (Except Failure Unit)}
    (made : line.flush io = (outcome, after)) :
    (outcome = .ready (.ok ()) → after.flushed = line.flushed + 1) ∧
      (outcome ≠ .ready (.ok ()) → after.flushed = line.flushed) := by
  obtain ⟨told, rfl⟩ := Prod.mk.inj made
  rw [told, flushed, history_enter, List.countP_append, List.countP_singleton]
  rcases outcome with (failure | _) | woken
  · simp [Event.isFlushed, flushed]
  · simp [Event.isFlushed, flushed]
  · simp [Event.isFlushed, flushed]

namespace WriteBuffer

variable {buffer after : WriteBuffer} {line lineAfter : Line σ} {data : Bytes}

/-- Draining flushes nothing. -/
theorem flushed_drain {polled : Poll (Except Failure Unit)}
    (drained : buffer.drain io line = (polled, after, lineAfter)) :
    lineAfter.flushed = line.flushed := by
  fun_induction drain buffer io line with
  | case1 =>
    cases drained
    rfl
  | case2 _ _ _ _ _ written | case4 _ _ _ _ _ written | case5 _ _ _ _ written =>
    cases drained
    exact Line.flushed_write written
  | case3 _ _ _ _ _ written _ ih | case6 _ _ _ _ _ written _ ih =>
    exact (ih drained).trans (Line.flushed_write written)

/-- Putting data into a buffer, or past it, flushes nothing. -/
theorem flushed_put {outcome : Poll (Except Failure Nat)}
    (put : buffer.put io line data = (outcome, after, lineAfter)) :
    lineAfter.flushed = line.flushed := by
  unfold WriteBuffer.put at put
  split at put
  · obtain ⟨-, -, rfl⟩ : _ ∧ buffer = after ∧ (line.write io data).2 = lineAfter := by
      simpa using put
    exact Line.flushed_write rfl
  · cases put
    rfl

/-- A write through a buffer flushes nothing. -/
theorem flushed_write {outcome : Poll (Except Failure Nat)}
    (written : buffer.write io line data = (outcome, after, lineAfter)) :
    lineAfter.flushed = line.flushed := by
  unfold WriteBuffer.write at written
  split at written
  · exact flushed_put written
  · split at written
    · rename_i drained
      exact (flushed_put written).trans (flushed_drain drained)
    · rename_i drained
      cases written
      exact flushed_drain drained
    · rename_i drained
      cases written
      exact flushed_drain drained

/-- A flush through a buffer flushes the transport once if it succeeds, and not at all else. -/
theorem flushed_flush {polled : Poll (Except Failure Unit)}
    (flushed : buffer.flush io line = (polled, after, lineAfter)) :
    (polled = .ready (.ok ()) → lineAfter.flushed = line.flushed + 1) ∧
      (polled ≠ .ready (.ok ()) → lineAfter.flushed = line.flushed) := by
  unfold flush at flushed
  split at flushed
  · rename_i middle drained
    have same := flushed_drain drained
    cases last : middle.flush io with
    | mk result final =>
      rw [last] at flushed
      cases flushed
      have counted := Line.flushed_flush last
      rw [same] at counted
      exact counted
  · rename_i notDone drained
    cases flushed
    exact ⟨fun done => (notDone done).elim, fun _ => flushed_drain drained⟩

end WriteBuffer

namespace Transmission

/-- Each turn that is completed in a poll has had a flush that succeeded, and besides such turns
only one in which the poll fails. -/
theorem tails_flushed {rest after : Transmission} {buffer bufferAfter : WriteBuffer}
    {line lineAfter : Line σ} {polled : Poll (Except Failure Unit)}
    (poll : rest.poll io buffer line = (polled, after, bufferAfter, lineAfter)) :
    lineAfter.flushed ≤ line.flushed + (rest.tails io buffer line).length + polled.overrun 0 := by
  fun_induction Transmission.poll rest io buffer line with
  | case1 buffer line =>
    cases poll
    exact Nat.le_add_right _ _
  | case2 buffer line data nonempty taken _ _ written ih =>
    have first := WriteBuffer.flushed_write written
    have further := ih poll
    rw [tails_of_write nonempty written]
    omega
  | case3 buffer line data nonempty failure _ _ written
  | case4 buffer line data nonempty woken _ _ written =>
    have only := WriteBuffer.flushed_write written
    cases poll
    omega
  | case5 buffer line data _ _ flushed ih =>
    have first := (WriteBuffer.flushed_flush flushed).1 rfl
    have further := ih poll
    rw [tails_of_flush flushed, List.length_cons]
    omega
  | case6 buffer line data outcome _ _ notDone flushed
  | case8 buffer line outcome _ _ notDone flushed =>
    have only := (WriteBuffer.flushed_flush flushed).2 notDone
    cases poll
    omega
  | case7 buffer line _ _ flushed =>
    have only := (WriteBuffer.flushed_flush flushed).1 rfl
    cases poll
    simp only [Poll.overrun]
    omega

/-- A transmission that fails has something left to do. -/
theorem poll_failed {rest after : Transmission} {buffer bufferAfter : WriteBuffer}
    {line lineAfter : Line σ} {failure : Failure}
    (poll : rest.poll io buffer line = (.ready (.error failure), after, bufferAfter, lineAfter)) :
    after ≠ .writing [] := by
  fun_induction Transmission.poll rest io buffer line with
  | case2 _ _ _ _ _ _ _ _ ih | case5 _ _ _ _ _ _ ih => exact ih poll
  | case3 _ _ data nonempty =>
    cases poll
    simpa using nonempty
  | case6 | case7 | case8 =>
    cases poll
    simp
  | case1 | case4 => cases poll

end Transmission

end Cmpp
