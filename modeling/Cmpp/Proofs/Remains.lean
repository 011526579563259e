import Cmpp.Proofs.Closing
import Cmpp.Proofs.Numbering

/-!
# What closing gives up

Whoever closes a connection reports, once the write lock has been obtained, how many bytes take up
room in the write buffer. Those are the bytes that will never be sent, and also the bytes that the
transport has accepted in a draining that was cut off (`WriteBuffer.Counts`): room is made for them
only once draining ends. So the report is made just if something is given up, but it counts bytes
that were sent when a sender was given up or interrupted in the middle of a draining
(`Endpoint.report_counts_sent`); what exactly it counts can be read off the journal
(`Endpoint.closing_reports_room`).
-/

namespace Cmpp

variable {σ : Type} {io : Transport σ}

/-! ## Drainings that were cut off -/

/-- How many bytes the transport has accepted in a draining that is under way, given how many it had
before an event. A draining ends when everything that was offered is accepted, or nothing is, or
when a write fails that is not repeated. -/
def Event.partway (count : Nat) : Event → Nat
  | write offered (.ready (.ok taken)) =>
    if taken = 0 ∨ taken = offered.length then 0 else count + taken
  | write _ (.ready (.error failure)) => if failure.kind = .interrupted then count else 0
  | _ => count

namespace Line

variable {errand : Errand} {line before after : Line σ}

/-- How many bytes the transport has accepted in a draining that is under way or was cut off. -/
def partway (line : Line σ) : Nat := line.history.foldl Event.partway 0

/-- An event counts behind those before it. -/
@[simp] theorem partway_enter (line : Line σ) (event : Event) (state : σ) :
    (line.enter event state).partway = event.partway line.partway := by
  rw [partway, history_enter, List.foldl_append]
  rfl

/-- A note is no part of a draining. -/
@[simp] theorem partway_note (line : Line σ) (note : Note) :
    (line.note note).partway = line.partway :=
  partway_enter ..

/-- A write counts behind what was done before it. -/
theorem partway_write {data : Bytes} {outcome : Poll (Except Failure Nat)}
    (written : line.write io data = (outcome, after)) :
    after.partway = (Event.write data outcome).partway line.partway := by
  cases written
  exact partway_enter ..

/-- A flush is no part of a draining. -/
theorem partway_flush {outcome : Poll (Except Failure Unit)}
    (flushed : line.flush io = (outcome, after)) : after.partway = line.partway := by
  cases flushed
  exact partway_enter ..

/-- Only writes are part of a draining. -/
theorem Call.partway_eq (call : before.Call io errand after) (other : errand ≠ .sending) :
    after.partway = before.partway := by
  cases call with
  | write => exact (other rfl).elim
  | flush _ flushed => exact partway_flush flushed
  | read _ made | shutdown made =>
    cases made
    exact partway_enter ..
  | note => exact partway_note ..

/-- Only who sends takes part in a draining. -/
theorem Calls.partway_eq (calls : before.Calls io errand after) (other : errand ≠ .sending) :
    after.partway = before.partway := by
  induction calls with
  | refl => rfl
  | tail _ call ih => exact (call.partway_eq other).trans ih

end Line

namespace WriteBuffer

variable {buffer after : WriteBuffer} {line lineAfter : Line σ} {data : Bytes}

/-- The bytes that take up room without having to be sent were accepted in a draining that was cut
off, which has left others to be sent. -/
structure Counts (buffer : WriteBuffer) (line : Line σ) : Prop where
  /-- Accepted bytes take up room as long as the draining has not ended. -/
  spent : buffer.spent = line.partway
  /-- A draining is not cut off when it has nothing left to do. -/
  waits : buffer.unsent = [] → buffer.spent = 0

/-- What holds in the middle of a draining: all that was accepted takes up room, unless there is
nothing left to do. -/
def Amid (buffer : WriteBuffer) (line : Line σ) : Prop :=
  line.partway = if buffer.unsent = [] then 0 else buffer.spent

/-- A draining may begin when nothing but what was accepted takes up room. -/
theorem Counts.amid (counts : buffer.Counts line) : buffer.Amid line := by
  rw [Amid, ← counts.spent]
  split
  · rename_i empty
    exact counts.waits empty
  · rfl

/-- Accepting bytes leads from one place in the middle of a draining to another. -/
theorem Amid.advance {count : Nat} (amid : buffer.Amid line) (nonempty : buffer.unsent ≠ [])
    (some : count ≠ 0)
    (written : line.write io buffer.unsent = (.ready (.ok count), lineAfter)) :
    (buffer.advance count).Amid lineAfter := by
  have within := Line.write_length written
  rw [Amid, if_neg nonempty] at amid
  rw [Amid, Line.partway_write written, Event.partway, amid]
  simp only [WriteBuffer.advance, some, false_or, List.drop_eq_nil_iff]
  by_cases whole : count = buffer.unsent.length
  · simp [whole]
  · rw [if_neg whole, if_neg (by omega)]

/-- However draining comes out, the bytes that take up room were accepted in it. -/
theorem drain_counts {polled : Poll (Except Failure Unit)} (amid : buffer.Amid line)
    (drained : buffer.drain io line = (polled, after, lineAfter)) : after.Counts lineAfter := by
  fun_induction drain buffer io line with
  | case1 buffer line empty =>
    cases drained
    rw [Amid, if_pos empty] at amid
    exact ⟨amid.symm, fun _ => rfl⟩
  | case2 buffer line nonempty woken _ written =>
    cases drained
    rw [Amid, if_neg nonempty] at amid
    exact ⟨amid.symm.trans (Line.partway_write written).symm, fun empty => (nonempty empty).elim⟩
  | case3 buffer line nonempty failure _ written interrupted ih =>
    refine ih ?_ drained
    rw [Amid, Line.partway_write written, Event.partway, if_pos interrupted]
    exact amid
  | case4 buffer line _ failure _ written final =>
    cases drained
    exact ⟨by rw [Line.partway_write written, Event.partway, if_neg final, reclaim], fun _ => rfl⟩
  | case5 buffer line _ _ written =>
    cases drained
    exact ⟨by simp [Line.partway_write written, Event.partway, reclaim], fun _ => rfl⟩
  | case6 buffer line nonempty count _ written some ih =>
    exact ih (amid.advance nonempty some written) drained

/-- Data shorter than the buffer is put into it and leaves the count right. -/
theorem put_counts {outcome : Poll (Except Failure Nat)} (nonempty : data ≠ [])
    (short : data.length < buffer.capacity) (counts : buffer.Counts line)
    (put : buffer.put io line data = (outcome, after, lineAfter)) : after.Counts lineAfter := by
  rw [WriteBuffer.put, if_neg (Nat.not_le.mpr short)] at put
  cases put
  exact ⟨counts.spent, fun empty => (nonempty (List.append_eq_nil_iff.mp empty).2).elim⟩

/-- A write of data shorter than the buffer leaves the count right. -/
theorem write_counts {outcome : Poll (Except Failure Nat)} (nonempty : data ≠ [])
    (short : data.length < buffer.capacity) (counts : buffer.Counts line)
    (written : buffer.write io line data = (outcome, after, lineAfter)) :
    after.Counts lineAfter := by
  unfold WriteBuffer.write at written
  split at written
  · exact put_counts nonempty short counts written
  · split at written
    · rename_i drained
      rw [← (drain_keeps drained).2.1] at short
      exact put_counts nonempty short (drain_counts counts.amid drained) written
    · rename_i drained
      cases written
      exact drain_counts counts.amid drained
    · rename_i drained
      cases written
      exact drain_counts counts.amid drained

/-- A flush leaves the count right. -/
theorem flush_counts {polled : Poll (Except Failure Unit)} (counts : buffer.Counts line)
    (flushed : buffer.flush io line = (polled, after, lineAfter)) : after.Counts lineAfter := by
  unfold flush at flushed
  split at flushed
  · rename_i drained
    have drainedCounts := drain_counts counts.amid drained
    cases flushed
    exact ⟨drainedCounts.spent.trans (Line.partway_flush rfl).symm, drainedCounts.waits⟩
  · rename_i drained
    cases flushed
    exact drain_counts counts.amid drained

end WriteBuffer

namespace Transmission

/-- What is still to be written is shorter than the buffer. -/
def Brief (capacity : Nat) : Transmission → Prop
  | .writing tail | .flushing tail => tail.length < capacity
  | .stalled => True

/-- What is still to be written of a frame shorter than the buffer is shorter too. -/
theorem Fits.brief {capacity : Nat} {frame segment : Bytes} {rest : Transmission}
    (fits : rest.Fits capacity frame segment) (short : frame.length < capacity) :
    rest.Brief capacity := by
  cases rest with
  | writing tail | flushing tail =>
    have length := congrArg List.length fits.1
    rw [List.length_append] at length
    simp only [Brief]
    omega
  | stalled => trivial

/-- Going on with a transmission of data shorter than the buffer leaves the count right. -/
theorem poll_counts {rest after : Transmission} {buffer bufferAfter : WriteBuffer}
    {line lineAfter : Line σ} {polled : Poll (Except Failure Unit)}
    (brief : rest.Brief buffer.capacity) (counts : buffer.Counts line)
    (poll : rest.poll io buffer line = (polled, after, bufferAfter, lineAfter)) :
    bufferAfter.Counts lineAfter := by
  fun_induction Transmission.poll rest io buffer line with
  | case1 buffer line =>
    cases poll
    exact counts
  | case2 buffer line tail nonempty taken _ _ written ih =>
    refine ih ?_ (WriteBuffer.write_counts nonempty brief counts written) poll
    rw [(WriteBuffer.write_appends written).2]
    unfold afterWrite
    split
    · trivial
    · exact Nat.lt_of_le_of_lt (by simp) brief
  | case3 _ _ _ nonempty _ _ _ written | case4 _ _ _ nonempty _ _ _ written =>
    cases poll
    exact WriteBuffer.write_counts nonempty brief counts written
  | case5 buffer line tail _ _ flushed ih =>
    refine ih ?_ (WriteBuffer.flush_counts counts flushed) poll
    rw [(WriteBuffer.flush_keeps flushed).2]
    exact brief
  | case6 _ _ _ _ _ _ _ flushed | case7 _ _ _ _ flushed | case8 _ _ _ _ _ _ flushed =>
    cases poll
    exact WriteBuffer.flush_counts counts flushed

end Transmission

/-! ## Runs -/

namespace Endpoint

variable {endpoint before after : Endpoint σ} {actor : Actor} {id : TaskId} {task : Task}

/-- The bytes that take up room without having to be sent were accepted in a draining that was cut
off. -/
def Counts (endpoint : Endpoint σ) : Prop :=
  endpoint.connection.writeBuffer.Counts endpoint.line

/-- What is still to be written of every frame is shorter than the write buffer. -/
def Brief (endpoint : Endpoint σ) : Prop :=
  ∀ id outcome sequenceId frame rest,
    endpoint.connection.task? id = some (.sending outcome sequenceId frame rest) →
      rest.Brief endpoint.connection.writeBuffer.capacity

/-- The count stays right while the journal and the write buffer stay as they are. -/
theorem Counts.congr (counts : before.Counts) (history : after.line.history = before.line.history)
    (buffer : after.connection.writeBuffer = before.connection.writeBuffer) : after.Counts := by
  have partway : after.line.partway = before.line.partway := by
    rw [Line.partway, history, Line.partway]
  exact ⟨by rw [buffer, partway]; exact counts.spent, by rw [buffer]; exact counts.waits⟩

/-- Going on with a task leaves the count right. -/
theorem advance_counts (io : Transport σ) (id : TaskId) (counts : endpoint.Counts)
    (brief : endpoint.Brief) (unfinished : endpoint.Unfinished)
    (found : endpoint.connection.task? id = some task) :
    (endpoint.advance io id task).2.Counts := by
  by_cases sends : ∃ outcome sequenceId frame rest, task = .sending outcome sequenceId frame rest
  · obtain ⟨outcome, sequenceId, frame, rest, rfl⟩ := sends
    simp only [advance, advanceSending]
    split
    · exact counts
    · split
      · cases polled : rest.poll io endpoint.connection.writeBuffer endpoint.line with
        | mk result others =>
          have kept := Transmission.poll_counts (brief id outcome sequenceId frame rest found)
            counts polled
          split
          · exact kept
          · exact kept
          · exact ⟨kept.spent.trans (Line.partway_note ..).symm, kept.waits⟩
      · exact counts
  · have other : ∀ outcome sequenceId frame rest, task ≠ .sending outcome sequenceId frame rest :=
      fun outcome sequenceId frame rest same => sends ⟨outcome, sequenceId, frame, rest, same⟩
    have errand : task.errand ≠ .sending := by
      cases task with
      | sending => exact (other _ _ _ _ rfl).elim
      | receiving | closing => simp [Task.errand]
    have partway := (advance_calls endpoint io id (unfinished id task found)).partway_eq errand
    have buffer := (advance_idle endpoint io id other).2
    refine ⟨?_, ?_⟩
    · rw [buffer, partway]
      exact counts.spent
    · rw [buffer]
      exact counts.waits

/-- A turn leaves the count right. -/
theorem Turn.counts (turn : Turn io actor before after) (counts : before.Counts)
    (brief : before.Brief) (unfinished : before.Unfinished) : after.Counts := by
  cases turn with
  | enter free registered => exact counts.congr rfl (Connection.register_frame registered).2
  | poll found =>
    have kept := advance_counts io _ counts brief unfinished found
    rw [settle_snd]
    split <;> exact kept
  | forget | label | outside => exact counts.congr rfl rfl

end Endpoint

/-- Every frame of a ledger is shorter than the write buffer. -/
def Ledger.Short (ledger : Ledger) (config : Config) : Prop :=
  ∀ sender ∈ ledger.senders, sender.frame.length < config.writeCapacity

/-- Whether all frames are short can be read off the ledger. -/
instance (ledger : Ledger) (config : Config) : Decidable (ledger.Short config) :=
  inferInstanceAs
    (Decidable (∀ sender ∈ ledger.senders, sender.frame.length < config.writeCapacity))

namespace Ledger

variable {ledger : Ledger} {config : Config} {endpoint : Endpoint σ} {move : Move σ}

/-- Whether frames are short depends on the frames only. -/
theorem short_iff : ledger.Short config ↔
    ∀ posting ∈ ledger.postings, posting.frame.length < config.writeCapacity := by
  simp [Short, postings]

/-- If all frames are short when more have been entered, they were before. -/
theorem Short.of_prefix {later : Ledger} (short : later.Short config)
    (grows : ledger.postings <+: later.postings) : ledger.Short config :=
  short_iff.mpr fun posting inside => short_iff.mp short posting (grows.subset inside)

/-- What is still to be written of frames that are short is shorter than the write buffer. -/
theorem Agrees.brief (agrees : ledger.Agrees config endpoint) (short : ledger.Short config) :
    endpoint.Brief := by
  intro id outcome sequenceId frame rest found
  obtain ⟨sender, member, -, -, -, -, fits⟩ := agrees.tracks.sender_of_sending agrees.sound found
  rw [agrees.capacity]
  exact fits.brief (short sender member)

/-- Starting a call leaves the count right when all frames are short, that of the call included. -/
theorem Agrees.counts_start {id : TaskId} {call : Call} (agrees : ledger.Agrees config endpoint)
    (free : endpoint.connection.task? id = none) (short : ledger.Short config)
    (fresh : (ledger.register endpoint.connection id call).Short config)
    (unfinished : endpoint.Unfinished) (counts : endpoint.Counts) :
    (endpoint.step io (.start id call)).2.Counts := by
  rw [Endpoint.step_start free]
  cases registered : endpoint.connection.register id call with
  | mk result next =>
    cases result with
    | error outcome =>
      obtain ⟨sequence, rfl⟩ := Connection.register_refused registered
      exact counts.congr rfl rfl
    | ok task =>
      -- The frame that is entered is in the ledger before its first byte is written.
      obtain ⟨entered, -⟩ := agrees.register free registered
      have entering : Endpoint.Turn io (.task id) endpoint _ := .enter free registered
      have kept : (next.keep id task).task? id = some task := Connection.task?_keep_self
      have polled : Endpoint.Turn io (.task id)
        { endpoint with connection := next.keep id task } _ := .poll kept
      have stepped : Endpoint.step { endpoint with connection := next.keep id task } io
          (.poll id) = _ := Endpoint.step_poll kept io
      simp only [stepped]
      exact polled.counts (entering.counts counts (agrees.brief short) unfinished)
        (entered.brief fresh) (entering.unfinished unfinished)

/-- A move leaves the count right when all frames are short. -/
theorem Agrees.counts_move (agrees : ledger.Agrees config endpoint)
    (short : (ledger.observe io endpoint move).Short config) (unfinished : endpoint.Unfinished)
    (counts : endpoint.Counts) : (endpoint.move io move).Counts := by
  have before : ledger.Short config := short.of_prefix (postings_kept io endpoint [move] ledger)
  cases move with
  | change => exact counts.congr rfl rfl
  | act action =>
    cases action with
    | start id call =>
      cases free : endpoint.connection.task? id with
      | some task =>
        rw [Endpoint.move, Endpoint.step_start_taken free]
        exact counts
      | none =>
        have fresh : (ledger.register endpoint.connection id call).Short config := by
          rw [short_iff, ← (ledger.observe_start io call free).2]
          exact short_iff.mp short
        exact agrees.counts_start free before fresh unfinished counts
    | poll id =>
      cases found : endpoint.connection.task? id with
      | none =>
        rw [Endpoint.move, Endpoint.step_poll_free found]
        exact counts
      | some task =>
        have polled : Endpoint.Turn io (.task id) endpoint _ := .poll found
        rw [Endpoint.move, Endpoint.step_poll found]
        exact polled.counts counts (agrees.brief before) unfinished
    | cancel id =>
      cases found : endpoint.connection.task? id with
      | none =>
        rw [Endpoint.move, Endpoint.step_cancel_free found]
        exact counts
      | some task =>
        rw [Endpoint.move, Endpoint.step_cancel found]
        exact counts.congr rfl rfl
    | setLifecycle lifecycle =>
      simp only [Endpoint.move, Endpoint.step, Connection.setLifecycle]
      split <;> exact counts.congr rfl rfl
    | takeSequence | stopSequence => exact counts.congr rfl rfl

/-- A run in which all frames are short leaves the count right. -/
theorem counts_run (io : Transport σ) (config : Config) (state : σ) (moves : List (Move σ))
    (short : (ofRun io (.establish io config state) moves {}).Short config) :
    ((Endpoint.establish io config state).run io moves).Counts := by
  induction moves using List.reverseRecOn with
  | nil =>
    have fresh : (Endpoint.establish io config state).line.partway = 0 := by
      simp only [Endpoint.establish]
      repeat' split
      all_goals simp [Line.partway, Line.history, Line.note, Line.enter, Event.partway]
    exact ⟨fresh.symm, fun _ => rfl⟩
  | append_singleton moves move ih =>
    rw [ofRun_append] at short
    rw [Endpoint.run_append]
    have reachable : ((Endpoint.establish io config state).run io moves).Reachable io config :=
      ⟨state, moves, rfl⟩
    have agrees : (ofRun io (.establish io config state) moves {}).Agrees config
        ((Endpoint.establish io config state).run io moves) :=
      (Agrees.establish io config state).run moves
    exact agrees.counts_move short reachable.unfinished
      (ih (short.of_prefix (postings_kept io _ [move] _)))

end Ledger

/-! ## The report -/

/-- How many bytes are reported as dropped in an event. -/
def Event.dropped? : Event → Option Nat
  | note (.frameDropped pending) => some pending
  | _ => none

namespace Line

/-- The numbers of bytes that have been reported as dropped. -/
def reports (line : Line σ) : List Nat := line.history.filterMap Event.dropped?

/-- What is reported in an event is reported behind what was before. -/
@[simp] theorem reports_enter (line : Line σ) (event : Event) (state : σ) :
    (line.enter event state).reports = line.reports ++ event.dropped?.toList := by
  rw [reports, history_enter, List.filterMap_append, reports]
  cases reported : event.dropped? <;> simp [reported]

/-- A flush reports nothing. -/
theorem reports_flush {line after : Line σ} {outcome : Poll (Except Failure Unit)}
    (flushed : line.flush io = (outcome, after)) : after.reports = line.reports := by
  cases flushed
  exact (reports_enter ..).trans (List.append_nil _)

/-- A shutdown reports nothing. -/
theorem reports_shutdown {line after : Line σ} {outcome : Poll (Except Failure Unit)}
    (done : line.shutdown io = (outcome, after)) : after.reports = line.reports := by
  cases done
  exact (reports_enter ..).trans (List.append_nil _)

end Line

namespace Endpoint

variable {endpoint : Endpoint σ} {id : TaskId} {move : Move σ}

/-- Shutting the transport down reports nothing as dropped. -/
theorem reports_advanceShutdown (endpoint : Endpoint σ) (io : Transport σ) :
    (endpoint.advanceShutdown io).2.line.reports = endpoint.line.reports := by
  cases done : endpoint.line.shutdown io with
  | mk result line =>
    have same := Line.reports_shutdown done
    rcases result with (failure | _) | woken <;>
      simp [advanceShutdown, done, Line.note, Event.dropped?, same]

/-- Flushing on closing reports nothing as dropped. -/
theorem reports_advanceFlush (endpoint : Endpoint σ) (io : Transport σ) :
    (endpoint.advanceFlush io).2.line.reports = endpoint.line.reports := by
  cases flushed : endpoint.line.flush io with
  | mk result line =>
    have same := Line.reports_flush flushed
    rcases result with (failure | _) | woken <;>
      simp [advanceFlush, flushed, reports_advanceShutdown, Line.note, Event.dropped?, same]

/-- What whoever closes a connection reports once the write lock is obtained: how many bytes take up
room, if there are any. -/
def roomReport (endpoint : Endpoint σ) : List Nat :=
  if endpoint.connection.writeBuffer.length = 0 then []
  else [endpoint.connection.writeBuffer.length]

/-- Whoever closes a connection reports how many bytes take up room when it goes on and holds the
lock. -/
theorem reports_advance_waiting (io : Transport σ)
    (held : endpoint.connection.writeLock.isHeldBy id) :
    (endpoint.advance io id (.closing .waiting)).2.line.reports =
      endpoint.line.reports ++ endpoint.roomReport := by
  simp only [advance, advanceClosing, if_pos held, reports_advanceFlush, roomReport]
  split
  · rw [List.append_nil]
  · exact Line.reports_enter ..

/-- A move by which whoever closes a connection obtains the write lock: at the first poll if nobody
is in the queue, and otherwise at a later one. -/
inductive ObtainsLock (endpoint : Endpoint σ) : Move σ → Prop
  /-- Nobody is in the queue. -/
  | atOnce {id : TaskId} (free : endpoint.connection.task? id = none)
    (opened : ¬endpoint.connection.closed) (empty : endpoint.connection.writeLock.queue = []) :
    ObtainsLock endpoint (.act (.start id .close))
  /-- Whoever closes the connection has come to the front of the queue. -/
  | later {id : TaskId} (found : endpoint.connection.task? id = some (.closing .waiting))
    (held : endpoint.connection.writeLock.isHeldBy id) : ObtainsLock endpoint (.act (.poll id))

/-- Whoever closes a connection reports how many bytes take up room when it obtains the lock, and
from then on it is quiet. -/
theorem ObtainsLock.reports {config : Config} (obtains : endpoint.ObtainsLock move)
    (reachable : endpoint.Reachable io config) :
    (endpoint.move io move).line.reports = endpoint.line.reports ++ endpoint.roomReport ∧
      ∀ later, endpoint.Quiet ((endpoint.move io move).run io later) := by
  cases obtains with
  | @atOnce id free opened empty =>
    obtain ⟨first, closed⟩ := move_start_close io reachable.unfinished free
    refine ⟨?_, fun later =>
      first.trans (run_quiet io closed (reachable.move _).unfinished later).1⟩
    rw [Endpoint.move, step_start free]
    cases registered : endpoint.connection.register id .close with
    | mk result next =>
      cases Connection.registers registered with
      | closedAgain closed => exact (opened closed).elim
      | closed _ other => exact (other rfl).elim
      | closing =>
        -- Whoever joins a queue that is empty is at its front.
        let begun : Connection :=
          { endpoint.connection.beginClosing with
            writeLock := endpoint.connection.writeLock.join id }
        let entered : Endpoint σ :=
          { endpoint with connection := begun.keep id (.closing .waiting) }
        have held : entered.connection.writeLock.isHeldBy id :=
          (Lock.isHeldBy_join_self (by simp [empty])).mpr empty
        have kept : entered.connection.task? id = some (.closing .waiting) :=
          Connection.task?_keep_self
        change (entered.step io (.poll id)).2.line.reports = _
        rw [step_poll kept, settle_snd]
        exact reports_advance_waiting io held
  | @later id found held =>
    have closed := reachable.sound.closing id .waiting found
    refine ⟨?_, fun later =>
      (run_quiet io closed reachable.unfinished (.act (.poll id) :: later)).1⟩
    rw [Endpoint.move, step_poll found, settle_snd]
    exact reports_advance_waiting io held

/-- What takes up room in the write buffer when the count is right. -/
theorem Counts.roomReport_eq (counts : endpoint.Counts) :
    endpoint.roomReport =
      if endpoint.connection.writeBuffer.unsent = [] then []
      else [endpoint.connection.writeBuffer.unsent.length + endpoint.line.partway] := by
  obtain ⟨spent, waits⟩ := counts
  rw [roomReport, WriteBuffer.length, ← spent, Nat.add_comm]
  by_cases empty : endpoint.connection.writeBuffer.unsent = []
  · simp [empty, waits empty]
  · have positive := List.length_pos_iff.mpr empty
    rw [if_neg (by omega), if_neg empty]

/-- In a run in which every frame is shorter than the write buffer, each frame has been taken into
the buffer whole or not at all. When whoever closes the connection obtains the write lock, the bytes
that were taken and not accepted by the transport are never accepted, and there is a report just if
there are any. It gives their number, and with it the number of bytes that the transport had
accepted in a draining that was cut off. -/
theorem closing_reports_room (io : Transport σ) (config : Config) (state : σ)
    (earlier : List (Move σ)) (move : Move σ) :
    let opened := establish io config state
    let before := opened.run io earlier
    let after := before.move io move
    let ledger := Ledger.ofRun io opened earlier {}
    ledger.Short config → before.ObtainsLock move →
      (∀ sender ∈ ledger.senders, sender.segment = [] ∨ sender.segment = sender.frame) ∧
      ∃ dropped, ledger.senders.flatMap (·.segment) = before.line.accepted ++ dropped ∧
        (∀ later, (after.run io later).line.accepted = before.line.accepted) ∧
        after.line.reports = before.line.reports ++
          if dropped = [] then [] else [dropped.length + before.line.partway] := by
  intro opened before after ledger short obtains
  have reachable : before.Reachable io config := ⟨state, earlier, rfl⟩
  have agrees : ledger.Agrees config before := (Ledger.Agrees.establish io config state).run earlier
  have counts : before.Counts := Ledger.counts_run io config state earlier short
  obtain ⟨report, quiet⟩ := obtains.reports reachable
  refine ⟨fun sender inside => (agrees.faithful inside).whole (short sender inside),
    before.connection.writeBuffer.unsent, agrees.tracks.output_eq.symm,
    fun later => (quiet later).idle.silent.1, ?_⟩
  rw [report, counts.roomReport_eq]

/-- A stream that stops twice while the write buffer is drained. -/
def stopping : Script where
  writes := [.answer 5, .pending false, .answer 3, .pending false]

/-- One sender is given up and the next is interrupted by the closing of the connection, each in the
middle of a draining. -/
def stoppedTwice : List (Move Script) :=
  [.act (.start 1 (.send .probe)), .act (.cancel 1), .act (.start 2 (.sendAs .probe 7)),
    .act (.start 3 .close), .act (.poll 2)]

/-- Of two frames sixteen bytes are never sent, and the report also counts the eight that were. -/
theorem closing_reports_room_stopping :
    let opened := establish Script.transport { version := .v30 } stopping
    let before := opened.run Script.transport stoppedTwice
    let after := before.move Script.transport (.act (.poll 3))
    ∃ dropped, dropped.length = 16 ∧
      (Ledger.ofRun Script.transport opened stoppedTwice {}).senders.flatMap (·.segment) =
        before.line.accepted ++ dropped ∧
      after.line.reports = [24] := by
  intro opened before after
  have short : (Ledger.ofRun Script.transport opened stoppedTwice {}).Short
      { version := .v30 } := by decide +kernel
  have obtains : before.ObtainsLock (.act (.poll 3)) :=
    .later (by decide +kernel) (by decide +kernel)
  obtain ⟨-, dropped, taken, -, reports⟩ :=
    closing_reports_room Script.transport { version := .v30 } stopping stoppedTwice _ short obtains
  have sent : before.line.accepted.length = 8 := by decide +kernel
  have whole : ((Ledger.ofRun Script.transport opened stoppedTwice {}).senders.flatMap
      (·.segment)).length = 24 := by decide +kernel
  have partway : before.line.partway = 8 := by decide +kernel
  have none : before.line.reports = [] := by decide +kernel
  have count : dropped.length = 16 := by
    have length : 24 = 8 + dropped.length := by
      rw [← whole, ← sent, ← List.length_append]
      exact congrArg List.length taken
    omega
  refine ⟨dropped, count, taken, ?_⟩
  rw [reports, none, partway, count, if_neg (List.ne_nil_of_length_pos (by omega)), List.nil_append]

/-- When a sender is given up in the middle of a draining, whoever closes the connection reports
more bytes as dropped than were not sent. -/
theorem report_counts_sent :
    let opened := establish Script.transport { version := .v30 } stopping
    let moves := [.act (.start 1 (.send .probe)), .act (.cancel 1)]
    let before := opened.run Script.transport moves
    let after := before.move Script.transport (.act (.start 2 .close))
    let ledger := Ledger.ofRun Script.transport opened moves {}
    ledger.Short { version := .v30 } ∧ before.ObtainsLock (.act (.start 2 .close)) ∧
      (ledger.senders.flatMap (·.segment)).length = 12 ∧ before.line.accepted.length = 5 ∧
      after.line.accepted.length = 5 ∧ after.line.reports = [12] := by
  intro opened moves before after ledger
  exact ⟨by decide +kernel, .atOnce (by decide +kernel) (by decide +kernel) (by decide +kernel),
    by decide +kernel, by decide +kernel, by decide +kernel, by decide +kernel⟩

end Endpoint

end Cmpp
