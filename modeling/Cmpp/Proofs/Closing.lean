import Cmpp.Proofs.Outcomes
import Cmpp.Proofs.Receivers
import Mathlib

/-!
# Closing cuts everything off

From the first poll of the call that closes a connection on, nothing is written any more and nothing
is read, and both buffers stay as they are (`Endpoint.Quiet`), whatever moves follow: whoever closes
the connection only flushes and shuts down, and every other task looks whether the connection has
been closed before it does anything else. So each of them is over at its next poll, wherever it had
to wait (`Endpoint.step_poll_closed`), and leaves the queue that it is in; and every call made from
now on is refused and leaves no trace (`Endpoint.step_start_closed`).
-/

namespace Cmpp

variable {σ : Type} {io : Transport σ}

/-- A call on the transport that may move bytes, whatever came of it. -/
def Event.Transfers : Event → Prop
  | .read _ | .write .. => True
  | _ => False

/-- A call that moves no bytes has none accepted and none delivered. -/
theorem Event.silent {event : Event} (idle : ¬event.Transfers) :
    event.accepted = [] ∧ event.delivered = [] := by
  cases event <;> first | exact ⟨rfl, rfl⟩ | exact (idle trivial).elim

namespace Line

variable {before middle after : Line σ}

/-- From one state of a line to another no call was made that moves bytes. -/
def Idle (before after : Line σ) : Prop :=
  ∃ events, after.history = before.history ++ events ∧ ∀ event ∈ events, ¬event.Transfers

/-- A line is idle when nothing happens. -/
theorem Idle.of_eq (same : after.history = before.history) : before.Idle after :=
  ⟨[], by simp [same]⟩

/-- A line is idle for as long as it is idle again and again. -/
theorem Idle.trans (first : before.Idle middle) (second : middle.Idle after) :
    before.Idle after := by
  obtain ⟨events, history, idle⟩ := first
  obtain ⟨more, longer, idleMore⟩ := second
  refine ⟨events ++ more, by rw [longer, history, List.append_assoc], fun event inside => ?_⟩
  exact (List.mem_append.mp inside).elim (idle event) (idleMore event)

/-- A line is idle when an event is entered that moves no bytes. -/
theorem idle_enter (line : Line σ) {event : Event} (silent : ¬event.Transfers) (state : σ) :
    line.Idle (line.enter event state) := by
  refine ⟨[event], history_enter .., fun other inside => ?_⟩
  rwa [List.mem_singleton.mp inside]

/-- Whoever closes the connection leaves its line idle. -/
theorem Calls.idle (calls : before.Calls io .closing after) : before.Idle after := by
  induction calls with
  | refl => exact .of_eq rfl
  | tail _ call ih =>
    refine ih.trans ?_
    cases call with
    | flush _ flushed =>
      cases flushed
      exact idle_enter _ id _
    | shutdown done =>
      cases done
      exact idle_enter _ id _
    | note => exact idle_enter _ id _

/-- While a line is idle, no byte is accepted and none delivered. -/
theorem Idle.silent (idle : before.Idle after) :
    after.accepted = before.accepted ∧ after.delivered = before.delivered := by
  obtain ⟨events, history, none⟩ := idle
  have accepted : events.flatMap Event.accepted = [] :=
    List.flatMap_eq_nil_iff.mpr fun event inside => (Event.silent (none event inside)).1
  have delivered : events.flatMap Event.delivered = [] :=
    List.flatMap_eq_nil_iff.mpr fun event inside => (Event.silent (none event inside)).2
  constructor
  · rw [Line.accepted, history, List.flatMap_append, accepted, List.append_nil, Line.accepted]
  · rw [Line.delivered, history, List.flatMap_append, delivered, List.append_nil, Line.delivered]

end Line

namespace Endpoint

/-- Between two states no byte has gone over the stream, and the buffers hold what they held. -/
structure Quiet (before after : Endpoint σ) : Prop where
  /-- No call was made that moves bytes. -/
  idle : before.line.Idle after.line
  /-- Nobody has taken bytes off the read buffer. -/
  readBuffer : after.connection.readBuffer = before.connection.readBuffer
  /-- Nobody has handed bytes over to be sent. -/
  writeBuffer : after.connection.writeBuffer = before.connection.writeBuffer

namespace Quiet

variable {before middle after : Endpoint σ}

/-- It is quiet when nothing happens. -/
theorem of_eq (line : after.line.history = before.line.history)
    (readBuffer : after.connection.readBuffer = before.connection.readBuffer)
    (writeBuffer : after.connection.writeBuffer = before.connection.writeBuffer) :
    before.Quiet after :=
  ⟨.of_eq line, readBuffer, writeBuffer⟩

/-- It stays quiet for as long as it is quiet again and again. -/
theorem trans (first : before.Quiet middle) (second : middle.Quiet after) :
    before.Quiet after :=
  ⟨first.idle.trans second.idle, second.readBuffer.trans first.readBuffer,
    second.writeBuffer.trans first.writeBuffer⟩

/-- While it is quiet, no receiver takes a byte. -/
theorem intake_eq (quiet : before.Quiet after) : after.intake = before.intake := by
  rw [intake, intake, quiet.idle.silent.2, quiet.readBuffer]

end Quiet

variable {endpoint before after : Endpoint σ} {actor : Actor} {id : TaskId} {task : Task}

/-- On a closed connection a task is over at its next poll, unless it is the one that closes. -/
theorem step_poll_closed (io : Transport σ) (closed : endpoint.connection.closed)
    (found : endpoint.connection.task? id = some task) (other : task.errand ≠ .closing) :
    endpoint.step io (.poll id) = (.polled (.ready (.failed .connectionClosed)),
      { endpoint with connection := endpoint.connection.forget id }) := by
  rw [step_poll found, advance_closed closed other]
  rfl

/-- A closed connection refuses every call but the one to close it again, and stays as it is. -/
theorem step_start_closed (io : Transport σ) (sound : endpoint.connection.Sound)
    (closed : endpoint.connection.closed) (free : endpoint.connection.task? id = none)
    {call : Call} (other : call ≠ .close) :
    endpoint.step io (.start id call) =
      (.polled (.ready (.failed .connectionClosed)), endpoint) := by
  rw [step_start free]
  cases registered : endpoint.connection.register id call with
  | mk result next =>
    cases Connection.registers registered with
    | closed => simp only [sound.forget_free free]
    | closedAgain => exact (other rfl).elim
    | closing opened | receiving opened | sendingAs opened | sending opened | unsentAs opened
    | unsent opened | stopped opened => exact (opened closed).elim

/-- On a closed connection every turn is quiet. -/
theorem Turn.quiet (turn : Turn io actor before after) (closed : before.connection.closed)
    (unfinished : before.Unfinished) : before.Quiet after := by
  cases turn with
  | enter free registered =>
    cases Connection.registers registered with
    | closing opened | receiving opened | sendingAs opened | sending opened =>
      exact (opened closed).elim
  | @poll _ id task found =>
    by_cases closes : task.errand = .closing
    · have calls := advance_calls before io id (unfinished id task found)
      have reads : ∀ assembly, task ≠ .receiving assembly := by
        rintro assembly rfl
        cases closes
      have sends : ∀ outcome sequenceId frame rest,
          task ≠ .sending outcome sequenceId frame rest := by
        rintro outcome sequenceId frame rest rfl
        cases closes
      rw [closes] at calls
      have readBuffer : (before.advance io id task).2.connection.readBuffer =
          before.connection.readBuffer := advance_readBuffer io id reads
      have writeBuffer := (advance_idle before io id sends).2
      rw [settle_snd]
      split <;> exact ⟨calls.idle, readBuffer, writeBuffer⟩
    · rw [advance_closed closed closes]
      exact .of_eq rfl rfl rfl
  | forget | label | outside => exact .of_eq rfl rfl rfl

/-- On a closed connection every run is quiet, and the connection stays closed. -/
theorem run_quiet (io : Transport σ) (closed : endpoint.connection.closed)
    (unfinished : endpoint.Unfinished) (moves : List (Move σ)) :
    endpoint.Quiet (endpoint.run io moves) ∧ (endpoint.run io moves).connection.closed := by
  have kept : (endpoint.run io moves).Unfinished ∧ (endpoint.run io moves).connection.closed ∧
      endpoint.Quiet (endpoint.run io moves) :=
    run_keeps (fun state => state.Unfinished ∧ state.connection.closed ∧ endpoint.Quiet state)
      (fun turn holds => ⟨turn.unfinished holds.1, turn.closed holds.2.1,
        holds.2.2.trans (turn.quiet holds.2.1 holds.1)⟩)
      ⟨unfinished, closed, .of_eq rfl rfl rfl⟩ moves
  exact ⟨kept.2.2, kept.2.1⟩

/-- A call to close a connection is quiet from its first poll on, and closes it. -/
theorem move_start_close (io : Transport σ) (unfinished : endpoint.Unfinished)
    (free : endpoint.connection.task? id = none) :
    endpoint.Quiet (endpoint.move io (.act (.start id .close))) ∧
      (endpoint.move io (.act (.start id .close))).connection.closed := by
  rw [move, step_start free]
  cases registered : endpoint.connection.register id .close with
  | mk result next =>
    cases Connection.registers registered with
    | closedAgain closed => exact ⟨.of_eq rfl rfl rfl, closed⟩
    | closed _ other => exact (other rfl).elim
    | closing opened =>
      have entering : Turn io (.task id) endpoint _ := .enter free registered
      have unfinishedNext := entering.unfinished unfinished
      simp only
      generalize entered : ({ connection := _, line := _ } : Endpoint σ) = middle at *
      have quiet : endpoint.Quiet middle ∧ middle.connection.closed :=
        entered ▸ ⟨.of_eq rfl rfl rfl, rfl⟩
      obtain ⟨polled, closed⟩ := run_quiet io quiet.2 unfinishedNext [.act (.poll id)]
      exact ⟨quiet.1.trans polled, closed⟩

/-- Closing cuts everything off at once. Whatever has happened on a connection before a call to
close it, and whatever happens after the first poll of this call, the transport has accepted and
delivered no byte since and no receiver has taken one. Every sender and receiver that is there,
wherever it had to wait, is told at its next poll that the connection is closed, and is then in
neither queue. Every call to send or receive is told so at its first poll, and leaves everything as
it was, the sequence numbers among it. -/
theorem closing_cuts_off (io : Transport σ) (config : Config) (state : σ)
    (earlier later : List (Move σ)) (id : TaskId) :
    let before := (establish io config state).run io earlier
    let after := (before.move io (.act (.start id .close))).run io later
    before.connection.task? id = none →
      (before.Quiet after ∧ after.line.accepted = before.line.accepted ∧
        after.line.delivered = before.line.delivered ∧ after.intake = before.intake) ∧
      (∀ other task, after.connection.task? other = some task → task.errand ≠ .closing →
        ∃ last, after.step io (.poll other) =
            (.polled (.ready (.failed .connectionClosed)), last) ∧
          last.connection.task? other = none ∧
          last.connection.writeLock = after.connection.writeLock.leave other ∧
          last.connection.readLock = after.connection.readLock.leave other ∧
          other ∉ last.connection.writeLock.queue ∧ other ∉ last.connection.readLock.queue) ∧
      ∀ other call, after.connection.task? other = none → call ≠ .close →
        after.step io (.start other call) =
          (.polled (.ready (.failed .connectionClosed)), after) := by
  intro before after free
  have reachable : before.Reachable io config := ⟨state, earlier, rfl⟩
  have reached : after.Reachable io config := (reachable.move _).run later
  obtain ⟨first, shut⟩ := move_start_close io reachable.unfinished free
  obtain ⟨rest, closed⟩ :=
    run_quiet io shut (reachable.move (.act (.start id .close))).unfinished later
  have quiet : before.Quiet after := first.trans rest
  refine ⟨⟨quiet, quiet.idle.silent.1, quiet.idle.silent.2, quiet.intake_eq⟩,
    fun other task found waits => ?_, fun other call unused sends => ?_⟩
  · have gone : (after.connection.forget other).task? other = none := Connection.task?_forget_self
    exact ⟨_, step_poll_closed io closed found waits, gone, rfl, rfl,
      (reached.sound.forget other).not_queued gone⟩
  · exact step_start_closed io reached.sound closed unused sends

/-- A stream that stops in the middle of a frame, both ways. -/
def halfway : Script where
  reads := [.answer [0, 0, 0, 12, 0]]
  writes := [.answer 5, .pending false]
  readsWait := true

/-- A sender is stuck inside its frame and another waits behind it; one receiver is stuck inside a
header and another waits behind it. -/
def crowded : Endpoint Script :=
  (establish Script.transport { version := .v30 } halfway).run Script.transport
    [.act (.start 1 (.send .probe)), .act (.start 2 (.sendAs .probe 7)),
      .act (.start 3 .receive), .act (.start 4 .receive)]

/-- The four of them are told that the connection is closed, and so is another sender, who takes no
number; the transport keeps the five bytes that it has accepted. -/
theorem closing_cuts_off_crowded :
    let after := crowded.move Script.transport (.act (.start 5 .close))
    (∀ id ∈ [1, 2, 3, 4], (after.step Script.transport (.poll id)).1 =
        .polled (.ready (.failed .connectionClosed))) ∧
      after.step Script.transport (.start 6 (.send .probe)) =
        (.polled (.ready (.failed .connectionClosed)), after) ∧
      after.line.accepted = [0, 0, 0, 12, 0] := by
  obtain ⟨⟨-, accepted, -⟩, pending, refused⟩ :=
    closing_cuts_off Script.transport { version := .v30 } halfway _ [] 5
      (show crowded.connection.task? 5 = none by cbv)
  have begun : crowded.line.accepted = [0, 0, 0, 12, 0] := by cbv
  have waiting : [1, 2, 3, 4].all (fun id =>
      ((crowded.move Script.transport (.act (.start 5 .close))).connection.task? id).any
        fun task => decide (task.errand ≠ .closing)) := by cbv
  refine ⟨fun id inside => ?_, refused 6 (.send .probe) (by cbv) (by simp), accepted.trans begun⟩
  obtain ⟨task, found, other⟩ := (Option.any_eq_true ..).mp (List.all_eq_true.mp waiting id inside)
  obtain ⟨last, stepped, -⟩ := pending id task found (of_decide_eq_true other)
  exact congrArg Prod.fst stepped

end Endpoint

end Cmpp
