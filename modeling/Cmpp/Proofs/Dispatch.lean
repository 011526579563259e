import Cmpp.Proofs.Completion
import Cmpp.Proofs.Tails

/-!
# Senders from their first poll to their last

A `Dispatch` is all that a sender does once it is its turn: one poll after another until the
transmission is over, whatever others do to the transport in between. Its turns are no more than its
data has bytes (`Dispatch.Sound.turns_le`), and its writes no more than there are bytes to be
accepted, not counting those that had to wait or were interrupted (`Dispatch.Sound.writes_le`). Both
follow from what one poll keeps (`Dispatch.Sound.poll`).

A sender that holds the write lock of a connection is in a dispatch, since nobody else writes
meanwhile or uses the write buffer (`Endpoint.Engages.run`). So the bound holds of the writes in the
journal as well (`Endpoint.writes_while_held`).
-/

namespace Cmpp

variable {σ : Type} {io : Transport σ}

/-! ## All polls of a sender -/

/-- The sending of some data by one sender, as far as it has come. -/
structure Dispatch where
  /-- What it came to at the last poll. A sender that has not been polled yet has to be. -/
  outcome : Poll (Except Failure Unit) := .pending true
  /-- Where it has to go on. -/
  rest : Transmission
  /-- The write buffer, which nobody else uses meanwhile. -/
  buffer : WriteBuffer
  /-- The calls that it has made on the transport, in order. -/
  calls : List Event := []
  /-- The data to be written, and what each turn that was completed has left of it. -/
  tails : List Bytes

namespace Dispatch

/-- Begin to send data through a buffer, whatever this one holds. -/
def ofData (data : Bytes) (buffer : WriteBuffer) : Dispatch where
  rest := .writing data
  buffer := buffer
  tails := [data]

/-- Poll a sender that has to wait, on the line as the sender finds it. -/
def poll (io : Transport σ) (dispatch : Dispatch) (line : Line σ) : Dispatch :=
  match dispatch.outcome with
  | .ready _ => dispatch
  | .pending _ =>
    let (outcome, rest, buffer, after) := dispatch.rest.poll io dispatch.buffer line
    { outcome, rest, buffer
      calls := dispatch.calls ++ after.history.drop line.history.length
      tails := dispatch.tails ++ dispatch.rest.tails io dispatch.buffer line }

/-- Poll a sender again and again, each time on the line as the sender finds it, whatever others
have done to the transport since the last poll. -/
def polls (io : Transport σ) (dispatch : Dispatch) (found : List (Line σ)) : Dispatch :=
  found.foldl (poll io) dispatch

/-- How many turns were begun: one wherever there was something to be written. -/
def turns (dispatch : Dispatch) : Nat := dispatch.tails.countP (· ≠ [])

/-- What holds of a dispatch all the time. -/
structure Sound (dispatch : Dispatch) (data : Bytes) (residue : Nat) : Prop where
  /-- The first turn began with all the data. -/
  first : dispatch.tails.head? = some data
  /-- Each turn that was completed has left less data than it began with. -/
  shrinks : dispatch.tails.IsChain Bytes.ShrinksTo
  /-- The dispatch is in the turn after the last one completed. -/
  within : ∃ start, dispatch.tails.getLast? = some start ∧ dispatch.rest.Within start
  /-- Each write that need not be repeated took a byte off those to be accepted, or was the last
  call of all. -/
  settled : dispatch.calls.countP Event.isSettled + dispatch.buffer.unsent.length +
      dispatch.rest.work 0 ≤ residue + data.length + dispatch.outcome.overrun 0
  /-- Each flush that succeeded has completed a turn, apart from the one in which the dispatch may
  have failed. -/
  flushed : dispatch.calls.countP Event.isFlushed + 1 ≤
    dispatch.tails.length + dispatch.outcome.overrun 0
  /-- A dispatch that has failed has something left to do. -/
  failed : dispatch.outcome.overrun 0 ≠ 0 → dispatch.rest ≠ .writing []

variable {dispatch : Dispatch} {data : Bytes} {residue : Nat}

/-- At first there is all the data to be written, and all that the buffer holds to be accepted. -/
theorem sound_ofData (data : Bytes) (buffer : WriteBuffer) :
    (ofData data buffer).Sound data buffer.unsent.length where
  first := rfl
  shrinks := .singleton data
  within := ⟨data, rfl, rfl⟩
  settled := by
    simp [ofData, Transmission.work, Poll.overrun]
  flushed := Nat.le_refl 1
  failed := fun none => (none rfl).elim

/-- What a poll of a sender that has to wait comes to. -/
theorem poll_waiting {woken : Bool} {line after : Line σ} {outcome : Poll (Except Failure Unit)}
    {rest : Transmission} {buffer : WriteBuffer} (waiting : dispatch.outcome = .pending woken)
    (polled : dispatch.rest.poll io dispatch.buffer line = (outcome, rest, buffer, after)) :
    ∃ made, after.history = line.history ++ made ∧
      dispatch.poll io line =
        { outcome, rest, buffer
          calls := dispatch.calls ++ made
          tails := dispatch.tails ++ dispatch.rest.tails io dispatch.buffer line } := by
  have calls := dispatch.rest.poll_calls io dispatch.buffer line
  rw [polled] at calls
  obtain ⟨made, entered⟩ := calls.history_prefix
  refine ⟨made, entered.symm, ?_⟩
  simp only [poll, waiting, polled, ← entered, List.drop_left]

/-- A poll keeps this. -/
theorem Sound.poll (sound : dispatch.Sound data residue) (io : Transport σ) (line : Line σ) :
    (dispatch.poll io line).Sound data residue := by
  cases waiting : dispatch.outcome with
  | ready result => simpa only [Dispatch.poll, waiting] using sound
  | pending woken =>
    obtain ⟨first, shrinks, ⟨start, last, within⟩, settled, flushed, -⟩ := sound
    rw [waiting, Poll.overrun] at settled flushed
    cases polled : dispatch.rest.poll io dispatch.buffer line with
    | mk outcome others =>
      obtain ⟨rest, buffer, after⟩ := others
      obtain ⟨made, entered, same⟩ := poll_waiting waiting polled
      obtain ⟨fewer, place⟩ := Transmission.tails_shorten within polled
      obtain ⟨front, tails⟩ : ∃ front, dispatch.tails = front ++ [start] :=
        List.getLast?_eq_some_iff.mp last
      rw [same]
      refine ⟨?_, ?_, ⟨_, ?_, place⟩, ?_, ?_, fun overrun => ?_⟩
      · rw [List.head?_append, first, Option.some_or]
      · -- The turns of this poll go on from the last tail, which belongs to both chains.
        rw [tails] at shrinks ⊢
        exact shrinks.append_overlap fewer (List.cons_ne_nil _ _)
      · rw [tails, List.append_assoc, List.singleton_append,
          List.getLast?_append_of_ne_nil _ (List.cons_ne_nil _ _),
          List.getLast?_eq_some_getLast]
      · have moved := Transmission.poll_metered Line.Meter.settled polled
        simp only [Line.Meter.settled, entered, List.countP_append] at moved
        simp only [List.countP_append]
        omega
      · have counted := Transmission.tails_flushed polled
        simp only [Line.flushed, entered, List.countP_append] at counted
        simp only [List.countP_append, List.length_append]
        omega
      · rcases outcome with (failure | _) | woken
        · exact Transmission.poll_failed polled
        · exact (overrun rfl).elim
        · exact (overrun rfl).elim

/-- All polls keep this, whatever is done to the transport in between. -/
theorem Sound.polls (sound : dispatch.Sound data residue) (io : Transport σ)
    (found : List (Line σ)) : (dispatch.polls io found).Sound data residue := by
  induction found generalizing dispatch with
  | nil => exact sound
  | cons line found ih => exact ih (sound.poll io line)

/-- Turns that each leave less than they began with are no more than there are bytes, and all of
them have something to be written, but for the last one where there is nothing left. -/
theorem countP_nonempty {start : Bytes} {tails : List Bytes}
    (shrinks : (start :: tails).IsChain Bytes.ShrinksTo) :
    (start :: tails).countP (· ≠ []) ≤ start.length ∧
      (start :: tails).length ≤ (start :: tails).countP (· ≠ []) + 1 ∧
      ((start :: tails).getLast (List.cons_ne_nil _ _) ≠ [] →
        (start :: tails).length ≤ (start :: tails).countP (· ≠ [])) := by
  induction tails generalizing start with
  | nil => cases start <;> simp
  | cons tail tails ih =>
    obtain ⟨⟨-, less⟩, others⟩ := List.isChain_cons_cons.mp shrinks
    obtain ⟨bytes, most, all⟩ := ih others
    have some : start ≠ [] := List.ne_nil_of_length_pos (by omega)
    rw [List.countP_cons_of_pos (by simpa using some), List.getLast_cons (List.cons_ne_nil _ _),
      List.length_cons]
    exact ⟨by omega, by omega, fun last => Nat.succ_le_succ (all last)⟩

/-- There are no more turns than bytes of data. -/
theorem Sound.turns_le (sound : dispatch.Sound data residue) : dispatch.turns ≤ data.length := by
  obtain ⟨tails, same⟩ := List.head?_eq_some_iff.mp sound.first
  have shrinks := sound.shrinks
  rw [same] at shrinks
  rw [turns, same]
  exact (countP_nonempty shrinks).1

/-- There are no more flushes that succeed than turns. -/
theorem Sound.flushed_le (sound : dispatch.Sound data residue) :
    dispatch.calls.countP Event.isFlushed ≤ dispatch.turns := by
  obtain ⟨first, shrinks, ⟨start, last, within⟩, -, flushed, failed⟩ := sound
  obtain ⟨tails, same⟩ := List.head?_eq_some_iff.mp first
  rw [same] at shrinks last flushed
  obtain ⟨-, most, all⟩ := countP_nonempty shrinks
  rw [turns, same]
  by_cases overrun : dispatch.outcome.overrun 0 = 0
  · omega
  · -- The dispatch has failed, so that even the last tail is one with which a turn began.
    have nonempty := within.nonempty (failed overrun)
    rw [List.getLast?_eq_some_getLast (List.cons_ne_nil _ _), Option.some_inj] at last
    have every := all (last ▸ nonempty)
    have once := dispatch.outcome.overrun_le (Nat.zero_le 1)
    omega

/-- There are no more writes than bytes to be accepted, and one, and those that are repeated. -/
theorem Sound.writes_le (sound : dispatch.Sound data residue) :
    dispatch.calls.countP Event.isWrite ≤ residue + data.length +
      dispatch.calls.countP Event.isHeldUp + dispatch.calls.countP Event.isInterrupted + 1 := by
  have settled := sound.settled
  have once := dispatch.outcome.overrun_le (Nat.zero_le 1)
  rw [Event.countP_isWrite]
  omega

end Dispatch

/-! ## Senders of a connection -/

namespace Line

/-- The writes that were made on a line, in order. -/
def writes (line : Line σ) : List Event := line.history.filter Event.isWrite

variable {errand : Errand} {line before after : Line σ}

/-- Only who sends writes. -/
theorem Call.writes_eq (call : before.Call io errand after) (other : errand ≠ .sending) :
    after.writes = before.writes := by
  cases call with
  | write => exact (other rfl).elim
  | read _ made | shutdown made | flush _ made =>
    cases made
    simp [writes, Event.isWrite]
  | note => simp [writes, Line.note, Event.isWrite]

/-- Calls of others leave the writes as they are. -/
theorem Calls.writes_eq (calls : before.Calls io errand after) (other : errand ≠ .sending) :
    after.writes = before.writes := by
  induction calls with
  | refl => rfl
  | tail _ call ih => exact (call.writes_eq other).trans ih

/-- Further calls bring further writes. -/
theorem writes_append {base calls made : List Event}
    (writes : line.writes = base ++ calls.filter Event.isWrite)
    (entered : after.history = line.history ++ made) :
    after.writes = base ++ (calls ++ made).filter Event.isWrite := by
  rw [Line.writes] at writes ⊢
  rw [entered, List.filter_append, writes, List.filter_append, List.append_assoc]

end Line

namespace Endpoint

variable {endpoint before after : Endpoint σ} {actor : Actor} {id : TaskId} {frame : Bytes}
  {base : List Event} {sent : Dispatch}

/-- While a task holds the write lock, the turns of others write nothing. -/
theorem Turn.writes_eq (turn : Turn io actor before after) (other : actor ≠ .task id)
    (held : before.connection.writeLock.isHeldBy id) (unfinished : before.Unfinished) :
    after.line.writes = before.line.writes := by
  cases turn with
  | @poll _ actor task found =>
    have unheld : ¬before.connection.writeLock.isHeldBy actor := fun alsoHeld =>
      other (congrArg Actor.task (Lock.holder_unique held alsoHeld))
    have calls := advance_calls before io actor (unfinished actor task found)
    rw [settle_snd]
    cases task with
    | sending outcome sequenceId frame rest =>
      simp only [advance, advanceSending, if_neg unheld]
      split <;> rfl
    | receiving | closing => exact calls.writes_eq (by simp [Task.errand])
  | enter | forget | label | outside => rfl

/-- A task that holds the write lock and sends a frame is in a dispatch, which has made all the
writes behind certain others. -/
structure Engages (endpoint : Endpoint σ) (id : TaskId) (frame : Bytes) (base : List Event)
    (sent : Dispatch) : Prop where
  /-- It holds the lock. -/
  held : endpoint.connection.writeLock.isHeldBy id
  /-- It has to be polled again. -/
  waiting : ∃ woken, sent.outcome = .pending woken
  /-- It goes on where the dispatch does. -/
  task : ∃ outcome sequenceId,
    endpoint.connection.task? id = some (.sending outcome sequenceId frame sent.rest)
  /-- It goes on with the write buffer of the dispatch. -/
  buffer : endpoint.connection.writeBuffer = sent.buffer
  /-- It alone has written. -/
  writes : endpoint.line.writes = base ++ sent.calls.filter Event.isWrite

namespace Engages

/-- A task that obtains the lock with its whole frame to send begins a dispatch. -/
theorem obtain {outcome : Outcome} {sequenceId : UInt32}
    (held : endpoint.connection.writeLock.isHeldBy id)
    (task : endpoint.connection.task? id =
      some (.sending outcome sequenceId frame (.writing frame))) :
    endpoint.Engages id frame endpoint.line.writes
      (.ofData frame endpoint.connection.writeBuffer) :=
  ⟨held, ⟨true, rfl⟩, ⟨outcome, sequenceId, task⟩, rfl, (List.append_nil _).symm⟩

/-- Turns of other tasks leave a sender in its dispatch. -/
theorem turn (engages : before.Engages id frame base sent) (turn : Turn io actor before after)
    (other : actor ≠ .task id) (unfinished : before.Unfinished) :
    after.Engages id frame base sent := by
  obtain ⟨held, waiting, ⟨outcome, sequenceId, task⟩, buffer, writes⟩ := engages
  exact ⟨(turn.holds other).1 held, waiting,
    ⟨outcome, sequenceId, (turn.task_other other).trans task⟩,
    (turn.silent other held).2.trans buffer,
    (turn.writes_eq other held unfinished).trans writes⟩

/-- A sender that has to wait again has been polled once more. -/
theorem suspend (engages : endpoint.Engages id frame base sent) {task left : Task} {woken : Bool}
    (found : endpoint.connection.task? id = some task)
    (advanced : endpoint.advance io id task = (.suspended woken left, after)) :
    Engages { after with connection := after.connection.keep id left } id frame base
      (sent.poll io endpoint.line) := by
  obtain ⟨held, ⟨_, waiting⟩, ⟨outcome, sequenceId, sending⟩, buffer, writes⟩ := engages
  obtain rfl := Option.some.inj (sending.symm.trans found)
  simp only [advance, advanceSending, if_pos held, buffer] at advanced
  split at advanced
  · cases advanced
  · cases polled : sent.rest.poll io sent.buffer endpoint.line with
    | mk told others =>
      obtain ⟨rest, bufferAfter, line⟩ := others
      obtain ⟨made, entered, same⟩ := Dispatch.poll_waiting waiting polled
      rw [polled] at advanced
      rcases told with (failure | _) | woken
      · cases advanced
      · cases advanced
      · cases advanced
        rw [same]
        exact ⟨held, ⟨woken, rfl⟩, ⟨outcome, sequenceId, Connection.task?_keep_self⟩, rfl,
          Line.writes_append writes entered⟩

/-- The writes at a poll, whatever it comes to, are those of the dispatch. -/
theorem advance (engages : endpoint.Engages id frame base sent) (io : Transport σ) {task : Task}
    (found : endpoint.connection.task? id = some task) :
    ∃ more, (endpoint.advance io id task).2.line.writes =
      base ++ (sent.polls io more).calls.filter Event.isWrite := by
  obtain ⟨held, ⟨_, waiting⟩, ⟨outcome, sequenceId, sending⟩, buffer, writes⟩ := engages
  obtain rfl := Option.some.inj (sending.symm.trans found)
  simp only [Endpoint.advance, advanceSending, if_pos held, buffer]
  split
  · exact ⟨[], writes⟩
  · refine ⟨[endpoint.line], ?_⟩
    cases polled : sent.rest.poll io sent.buffer endpoint.line with
    | mk told others =>
      obtain ⟨rest, bufferAfter, line⟩ := others
      obtain ⟨made, entered, same⟩ := Dispatch.poll_waiting waiting polled
      have more := Line.writes_append writes entered
      simp only [Dispatch.polls, List.foldl_cons, List.foldl_nil, same]
      rcases told with (failure | _) | woken
      · exact more
      · simpa [note, Line.note, Line.writes, Event.isWrite] using more
      · exact more

/-- A sender that is left in place by a move stays in its dispatch, or has been polled once more. -/
theorem move {move : Move σ} (engages : endpoint.Engages id frame base sent)
    (unfinished : endpoint.Unfinished)
    (kept : (endpoint.move io move).connection.task? id ≠ none) :
    ∃ more, (endpoint.move io move).Engages id frame base (sent.polls io more) := by
  obtain ⟨outcome, sequenceId, found⟩ := engages.task
  rcases move_kept found kept with other | same | ⟨woken, left, after, advanced, moved⟩
  · have kept : (endpoint.move io move).Unfinished ∧
        (endpoint.move io move).Engages id frame base sent :=
      move_keeps (fun state => state.Unfinished ∧ state.Engages id frame base sent)
        (fun turn holds => ⟨turn.unfinished holds.1, holds.2.turn turn other holds.1⟩)
        ⟨unfinished, engages⟩
    exact ⟨[], kept.2⟩
  · rw [same]
    exact ⟨[], engages⟩
  · rw [moved]
    exact ⟨[endpoint.line], engages.suspend found advanced⟩

/-- A sender that is left in place by a run is in its dispatch all the time. -/
theorem run {moves : List (Move σ)} (engages : endpoint.Engages id frame base sent)
    (unfinished : endpoint.Unfinished) (keeps : endpoint.Keeps io id moves) :
    ∃ more, (endpoint.run io moves).Engages id frame base (sent.polls io more) := by
  induction moves generalizing endpoint sent with
  | nil => exact ⟨[], engages⟩
  | cons move moves ih =>
    have first : [move] <+: move :: moves := ⟨moves, rfl⟩
    obtain ⟨some, moved⟩ := engages.move unfinished (keeps [move] first)
    have still : (endpoint.move io move).Unfinished :=
      run_keeps Unfinished (fun turn => turn.unfinished) unfinished [move]
    obtain ⟨more, reached⟩ := ih moved still keeps.tail
    refine ⟨some ++ more, ?_⟩
    rwa [Dispatch.polls, List.foldl_append]

end Engages

/-- As long as a sender holds the write lock, whatever else happens, and up to its next poll, no
more writes are made than there were bytes in the buffer and are in its frame, and one, and those
that are repeated because they had to wait or were interrupted. -/
theorem writes_while_held {outcome : Outcome} {sequenceId : UInt32} {moves : List (Move σ)}
    (unfinished : endpoint.Unfinished) (held : endpoint.connection.writeLock.isHeldBy id)
    (task : endpoint.connection.task? id =
      some (.sending outcome sequenceId frame (.writing frame)))
    (keeps : endpoint.Keeps io id moves) :
    ∃ made, ((endpoint.run io moves).step io (.poll id)).2.line.writes =
        endpoint.line.writes ++ made ∧
      made.length ≤ endpoint.connection.writeBuffer.unsent.length + frame.length +
        made.countP Event.isHeldUp + made.countP Event.isInterrupted + 1 := by
  obtain ⟨found, engages⟩ := (Engages.obtain held task).run unfinished keeps
  obtain ⟨outcome, sequenceId, there⟩ := engages.task
  obtain ⟨more, writes⟩ := engages.advance io there
  have sound := ((Dispatch.sound_ofData frame endpoint.connection.writeBuffer).polls io found).polls
    io more
  rw [step_poll there, settle_snd]
  refine ⟨_, writes, ?_⟩
  rw [← List.countP_eq_length_filter, Event.countP_writes Event.isWrite_of_isHeldUp,
    Event.countP_writes Event.isWrite_of_isInterrupted]
  exact sound.writes_le

end Endpoint

end Cmpp
