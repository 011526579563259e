import Cmpp.Proofs.Completion

/-!
# What calls come to

A call is over at once, at its first poll or at a later one (`Endpoint.finishes`), and what it comes
to depends on what it was made for. A sender is told of its frame, or that the connection was closed
or the transport failed (`Endpoint.advance_sending_finished`); whoever closes the connection is told
that it is closed, and has then shut the transport down (`Endpoint.advance_closing_progress`). What
a sender is promised is never a failure (`Endpoint.Reachable.promises`).
-/

namespace Cmpp

variable {σ : Type} {io : Transport σ}

/-- A task that is in neither queue, and is not kept, is forgotten without a trace. -/
theorem Connection.Sound.forget_free {connection : Connection} {id : TaskId}
    (sound : connection.Sound) (free : connection.task? id = none) :
    connection.forget id = connection := by
  obtain ⟨noWriter, noReader⟩ := sound.not_queued free
  have others : connection.tasks.filter (·.1 ≠ id) = connection.tasks := by
    rw [List.filter_eq_self]
    rintro ⟨key, task⟩ inside
    have different : key ≠ id := by
      rintro rfl
      have bare := List.lookup_eq_none_iff.mp free (key, task) inside
      simp at bare
    simpa using different
  simp only [Connection.forget, Lock.leave, List.erase_of_not_mem noWriter,
    List.erase_of_not_mem noReader, others]

/-! ## Promises -/

/-- What a sender is told once its frame has been sent is that it has been sent. -/
def Task.Promises : Task → Prop
  | .sending outcome sequenceId .. => outcome = .numbered sequenceId ∨ outcome = .sent
  | .receiving _ | .closing _ => True

/-- Who registers a call to send is promised that the frame has been sent. -/
theorem Connection.promises_register {connection next : Connection} {id : TaskId} {call : Call}
    {task : Task} (registered : connection.register id call = (.ok task, next)) :
    task.Promises := by
  cases Connection.registers registered with
  | sendingAs => exact .inr rfl
  | sending => exact .inl rfl
  | closing | receiving => trivial

namespace Endpoint

variable {endpoint before after : Endpoint σ} {actor : Actor} {id : TaskId} {result : Outcome}

/-- Going on with a task neither closes a connection nor opens it again. -/
theorem closed_advance (endpoint : Endpoint σ) (io : Transport σ) (id : TaskId) (task : Task) :
    (endpoint.advance io id task).2.connection.closed = endpoint.connection.closed := by
  obtain ⟨readBuffer, writeBuffer, line, changed⟩ := advance_frame endpoint io id task
  rw [changed]

/-- What is left of a task after a poll is a task of the same sort. -/
theorem settle_continues {task left : Task}
    (there : (settle id (endpoint.advance io id task)).2.connection.task? id = some left) :
    task.Continues left := by
  rw [settle_snd] at there
  split at there
  · simp at there
  · rename_i suspended
    rw [Connection.task?_keep_self] at there
    cases there
    exact advance_continues suspended

/-- What is said of tasks of one sort, and holds of those that are registered, holds of all tasks
after a turn if it did before. -/
theorem Turn.tasks (turn : Turn io actor before after) (holds : Task → Prop)
    (registered : ∀ {connection next : Connection} {id call task},
      connection.register id call = (.ok task, next) → holds task)
    (continues : ∀ {task left : Task}, task.Continues left → holds task → holds left)
    (all : ∀ id task, before.connection.task? id = some task → holds task) :
    ∀ id task, after.connection.task? id = some task → holds task := by
  intro id task found
  by_cases own : actor = .task id
  · cases turn with
    | enter free register =>
      cases own
      rw [Connection.task?_keep_self] at found
      exact Option.some.inj found ▸ registered register
    | @poll _ _ polled there =>
      cases own
      exact continues (settle_continues found) (all id polled there)
    | forget =>
      cases own
      simp at found
    | label => exact all id task found
    | outside => cases own
  · exact all id task (turn.task_other own ▸ found)

/-- In every state that a run reaches, senders are promised that their frames have been sent. -/
theorem Reachable.promises {config : Config} (reachable : endpoint.Reachable io config) :
    ∀ id task, endpoint.connection.task? id = some task → task.Promises := by
  refine reachable.keeps
    (fun state => ∀ id task, state.connection.task? id = some task → task.Promises)
    (fun turn => turn.tasks Task.Promises Connection.promises_register ?_)
    fun state id task found => ?_
  · intro task left continues promises
    cases task <;> cases left <;> first | trivial | contradiction | skip
    obtain ⟨rfl, rfl, -⟩ := continues
    exact promises
  · simp [establish, Connection.ofConfig, Connection.task?] at found

/-! ## Endings -/

/-- The ways in which an action ends a call: the call is over at once, or its task at a poll. -/
inductive Finishes (io : Transport σ) (endpoint : Endpoint σ) : Action → Outcome → Endpoint σ → Prop
  /-- The call is not registered. -/
  | atOnce {id : TaskId} {call : Call} {outcome : Outcome} {next : Connection}
    (free : endpoint.connection.task? id = none)
    (refused : endpoint.connection.register id call = (.error outcome, next)) :
    Finishes io endpoint (.start id call) outcome
      { endpoint with connection := next.forget id }
  /-- The task is over at its first poll. -/
  | first {id : TaskId} {call : Call} {task : Task} {outcome : Outcome} {next : Connection}
    {after : Endpoint σ} (free : endpoint.connection.task? id = none)
    (registered : endpoint.connection.register id call = (.ok task, next))
    (advanced : ({ endpoint with connection := next.keep id task } : Endpoint σ).advance io id
      task = (.finished outcome, after)) :
    Finishes io endpoint (.start id call) outcome
      { after with connection := after.connection.forget id }
  /-- The task is over at a later poll. -/
  | later {id : TaskId} {task : Task} {outcome : Outcome} {after : Endpoint σ}
    (found : endpoint.connection.task? id = some task)
    (advanced : endpoint.advance io id task = (.finished outcome, after)) :
    Finishes io endpoint (.poll id) outcome
      { after with connection := after.connection.forget id }

/-- A poll that ends a task has the task finish. -/
theorem finishes_poll {task : Task} (found : endpoint.connection.task? id = some task)
    (replied : (endpoint.step io (.poll id)).1.outcome? = some result) :
    ∃ after, endpoint.advance io id task = (.finished result, after) ∧
      (endpoint.step io (.poll id)).2 =
        { after with connection := after.connection.forget id } := by
  rw [step_poll found] at replied ⊢
  cases advanced : endpoint.advance io id task with
  | mk progress after =>
    rw [advanced] at replied
    cases progress with
    | suspended woken left => cases replied
    | finished outcome =>
      cases replied
      exact ⟨after, rfl, rfl⟩

/-- An action that tells the outcome of a call ends it in one of these ways. -/
theorem finishes {action : Action}
    (replied : (endpoint.step io action).1.outcome? = some result) :
    endpoint.Finishes io action result (endpoint.step io action).2 := by
  cases action with
  | start id call =>
    cases free : endpoint.connection.task? id with
    | some task =>
      simp only [step, free] at replied
      cases replied
    | none =>
      rw [step_start free] at replied ⊢
      cases registered : endpoint.connection.register id call with
      | mk started next =>
        rw [registered] at replied
        cases started with
        | error outcome =>
          cases replied
          exact .atOnce free registered
        | ok task =>
          obtain ⟨after, advanced, settled⟩ := finishes_poll Connection.task?_keep_self replied
          simp only [settled]
          exact .first free registered advanced
  | poll id =>
    cases found : endpoint.connection.task? id with
    | none =>
      simp only [step, found] at replied
      cases replied
    | some task =>
      obtain ⟨after, advanced, settled⟩ := finishes_poll found replied
      rw [settled]
      exact .later found advanced
  | cancel id =>
    cases found : endpoint.connection.task? id <;> simp only [step, found] at replied <;>
      cases replied
  | setLifecycle | takeSequence | stopSequence => cases replied

/-- On a closed connection a task is told so as soon as it goes on, and does nothing else, unless it
is the one that closes. -/
theorem advance_closed (closed : endpoint.connection.closed) (other : task.errand ≠ .closing) :
    endpoint.advance io id task = (.finished (.failed .connectionClosed), endpoint) := by
  cases task with
  | sending outcome sequenceId frame rest => simp only [advance, advanceSending, closed, if_true]
  | receiving assembly => simp only [advance, advanceReceiving, closed, if_true]
  | closing stage => exact (other rfl).elim

/-- A sender that is over is told of its frame, or that the connection was closed, or that the
transport failed. -/
theorem advance_sending_finished {promised : Outcome} {sequenceId : UInt32} {frame : Bytes}
    {rest : Transmission}
    (advanced : endpoint.advance io id (.sending promised sequenceId frame rest) =
      (.finished result, after)) :
    result = promised ∨ result = .failed .connectionClosed ∨
      ∃ failure, result = .failed (.transport failure) := by
  simp only [advance, advanceSending] at advanced
  repeat' split at advanced
  all_goals cases advanced
  · exact .inr (.inl rfl)
  · exact .inr (.inr ⟨_, rfl⟩)
  · exact .inl rfl

/-- Only whoever closes the connection is told that it is closed. -/
theorem advance_told_closed {task : Task} (promises : task.Promises)
    (advanced : endpoint.advance io id task = (.finished .closed, after)) :
    task.errand = .closing := by
  cases task with
  | closing => rfl
  | sending promised sequenceId frame rest =>
    rcases advance_sending_finished advanced with rfl | failed | ⟨_, failed⟩
    · rcases promises with numbered | sent
      · cases numbered
      · cases sent
    · cases failed
    · cases failed
  | receiving assembly =>
    simp only [advance, advanceReceiving] at advanced
    repeat' split at advanced
    all_goals cases advanced

end Endpoint

/-! ## Shutting down -/

/-- The transport's shutdown has been called, whatever came of it. -/
def Line.ShutDown (line : Line σ) : Prop := ∃ event ∈ line.history, event.isShutdown

namespace Line

variable {line after : Line σ} {errand : Errand}

/-- A shutdown is entered as one. -/
theorem shutDown_enter (line : Line σ) (event : Event) (state : σ) :
    (line.enter event state).ShutDown ↔ line.ShutDown ∨ event.isShutdown := by
  simp [ShutDown, or_and_right, exists_or]

/-- A call that is not made to close the connection shuts nothing down. -/
theorem Call.shutDown_iff (call : line.Call io errand after) (other : errand ≠ .closing) :
    after.ShutDown ↔ line.ShutDown := by
  cases call with
  | read _ read =>
    cases read
    simp [shutDown_enter, Event.isShutdown]
  | write _ written =>
    cases written
    simp [shutDown_enter, Event.isShutdown]
  | flush _ flushed =>
    cases flushed
    simp [shutDown_enter, Event.isShutdown]
  | shutdown => contradiction
  | note => simp [Line.note, shutDown_enter, Event.isShutdown]

/-- Only whoever closes the connection shuts the transport down. -/
theorem Calls.shutDown_iff (calls : line.Calls io errand after) (other : errand ≠ .closing) :
    after.ShutDown ↔ line.ShutDown := by
  induction calls with
  | refl => exact Iff.rfl
  | tail _ call ih => exact (call.shutDown_iff other).trans ih

end Line

namespace Endpoint

/-- What going on with the closing of a connection comes to: it is over once the transport has been
shut down, or it has to wait for the shutdown, or for what comes before the shutdown. -/
inductive Closes (endpoint : Endpoint σ) (stage : Closing) : Progress × Endpoint σ → Prop
  /-- The transport has been shut down, well or not. -/
  | done {after : Endpoint σ} (down : after.line.ShutDown) :
    Closes endpoint stage (.finished .closed, after)
  /-- The shutdown has to wait. -/
  | late {after : Endpoint σ} {woken : Bool} (down : after.line.ShutDown) :
    Closes endpoint stage (.suspended woken (.closing .shuttingDown), after)
  /-- The lock or the flush has to wait. -/
  | early {after : Endpoint σ} {woken : Bool} {left : Closing} (ahead : left ≠ .shuttingDown)
    (before : stage ≠ .shuttingDown) (same : after.line.ShutDown ↔ endpoint.line.ShutDown) :
    Closes endpoint stage (.suspended woken (.closing left), after)

variable {endpoint : Endpoint σ} {stage : Closing}

/-- Shutting the transport down enters a shutdown. -/
theorem advanceShutdown_closes (endpoint : Endpoint σ) (io : Transport σ) (earlier : Endpoint σ)
    (stage : Closing) : earlier.Closes stage (endpoint.advanceShutdown io) := by
  unfold advanceShutdown
  split
  · rename_i done
    obtain ⟨-, rfl⟩ := Prod.mk.inj done
    exact .late ((Line.shutDown_enter ..).mpr (.inr rfl))
  · rename_i result _ done
    obtain ⟨-, rfl⟩ := Prod.mk.inj done
    refine .done ?_
    cases result <;> simp [Line.note, Line.shutDown_enter, Event.isShutdown]

/-- Flushing on closing comes to a shutdown or has to wait. -/
theorem advanceFlush_closes (endpoint : Endpoint σ) (io : Transport σ) {earlier : Endpoint σ}
    (before : stage ≠ .shuttingDown)
    (same : endpoint.line.ShutDown ↔ earlier.line.ShutDown) :
    earlier.Closes stage (endpoint.advanceFlush io) := by
  unfold advanceFlush
  split
  · rename_i flushed
    obtain ⟨-, rfl⟩ := Prod.mk.inj flushed
    refine .early (by simp) before ?_
    simpa [Line.shutDown_enter, Event.isShutdown] using same
  · exact advanceShutdown_closes ..
  · exact advanceShutdown_closes ..

/-- Whoever goes on with closing the connection ends by shutting the transport down, or has to
wait. -/
theorem advance_closing_progress (endpoint : Endpoint σ) (io : Transport σ) (id : TaskId)
    (stage : Closing) : endpoint.Closes stage (endpoint.advance io id (.closing stage)) := by
  cases stage with
  | waiting =>
    simp only [advance, advanceClosing]
    split
    · split
      · exact advanceFlush_closes endpoint io (by simp) Iff.rfl
      · refine advanceFlush_closes _ io (by simp) ?_
        simp [note, Line.note, Line.shutDown_enter, Event.isShutdown]
    · exact .early (by simp) (by simp) Iff.rfl
  | flushing => exact advanceFlush_closes endpoint io (by simp) Iff.rfl
  | shuttingDown => exact advanceShutdown_closes ..

/-- Whoever is told that the connection is closed has asked for it, and has not ended before the
transport was shut down. -/
theorem advance_closing_finished {after : Endpoint σ} {id : TaskId} {result : Outcome}
    (advanced : endpoint.advance io id (.closing stage) = (.finished result, after)) :
    result = .closed ∧ after.line.ShutDown := by
  have closes := advance_closing_progress endpoint io id stage
  rw [advanced] at closes
  cases closes with
  | done down => exact ⟨rfl, down⟩

end Endpoint

end Cmpp
