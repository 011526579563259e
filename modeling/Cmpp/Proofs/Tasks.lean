import Cmpp.Connection.Endpoint

/-!
# Tasks and queues

The first poll of a call does two things: it registers the call, which takes a sequence number,
encodes the frame and queues up for a lock, and then it goes on with the task so registered.
`Connection.register` is the first of them, and `Endpoint.step_start` says that the second is a poll
like any other. Whatever is shown of polls thus covers first polls too.

Going on with a task changes nothing of a connection but its buffers (`Endpoint.advance_frame`), and
what is left of a task is a task of the same sort (`Endpoint.advance_continues`).
-/

namespace Cmpp

variable {σ : Type} {io : Transport σ}

/-! ## The tasks of a connection -/

/-- What is looked up among the entries without a key. -/
theorem lookup_filter_ne {α : Type} (entries : List (TaskId × α)) (key id : TaskId) :
    (entries.filter (·.1 ≠ id)).lookup key = if key = id then none else entries.lookup key := by
  induction entries with
  | nil => simp
  | cons entry entries ih =>
    obtain ⟨first, value⟩ := entry
    by_cases same : first = id
    · subst same
      rw [List.filter_cons_of_neg (by simp), ih]
      by_cases found : key = first
      · simp [found]
      · simp [found, List.lookup_cons, beq_eq_false_iff_ne.mpr found]
    · rw [List.filter_cons_of_pos (by simpa using same), List.lookup_cons, List.lookup_cons, ih]
      by_cases found : key = first
      · simp [found, same]
      · simp [beq_eq_false_iff_ne.mpr found]

namespace Connection

variable {connection : Connection} {id other : TaskId} {task : Task}

/-- A task that is kept is found. -/
@[simp] theorem task?_keep_self : (connection.keep id task).task? id = some task := by
  simp [task?, keep]

/-- Keeping a task leaves the others alone. -/
theorem task?_keep_other (different : other ≠ id) :
    (connection.keep id task).task? other = connection.task? other := by
  simp only [task?, keep, List.lookup_cons, beq_eq_false_iff_ne.mpr different]
  rw [lookup_filter_ne, if_neg different]

/-- A task that is forgotten is not found. -/
@[simp] theorem task?_forget_self : (connection.forget id).task? id = none := by
  rw [task?, forget, lookup_filter_ne, if_pos rfl]

/-- Forgetting a task leaves the others alone. -/
theorem task?_forget_other (different : other ≠ id) :
    (connection.forget id).task? other = connection.task? other := by
  simp only [task?, forget]
  rw [lookup_filter_ne, if_neg different]

/-- A task that is there once another one has been forgotten was there before. -/
theorem task?_of_forget {found : Task}
    (there : (connection.forget id).task? other = some found) :
    other ≠ id ∧ connection.task? other = some found := by
  have different : other ≠ id := by
    rintro rfl
    simp at there
  rw [task?_forget_other different] at there
  exact ⟨different, there⟩

/-- A task that is there once one has been kept is that one, or was there before. -/
theorem task?_of_keep {found : Task}
    (there : (connection.keep id task).task? other = some found) :
    (other = id ∧ found = task) ∨ (other ≠ id ∧ connection.task? other = some found) := by
  by_cases same : other = id
  · subst same
    rw [task?_keep_self] at there
    exact .inl ⟨rfl, (Option.some.inj there).symm⟩
  · rw [task?_keep_other same] at there
    exact .inr ⟨same, there⟩

/-- A task that is forgotten leaves the queue of senders. -/
theorem queue_forget :
    (connection.forget id).writeLock.queue = connection.writeLock.queue.erase id :=
  rfl

/-- A task takes the place of the one kept before under its name. -/
@[simp] theorem keep_keep (first second : Task) :
    (connection.keep id first).keep id second = connection.keep id second := by
  simp [keep, List.filter_filter]

/-- A task is forgotten whether or not it was kept. -/
@[simp] theorem forget_keep : (connection.keep id task).forget id = connection.forget id := by
  simp [keep, forget, List.filter_filter]

/-! ## Registering a call -/

/-- Register the sending of a packet under a sequence number, unless there is no frame for it that
the version allows. -/
def registerFrame (connection : Connection) (id : TaskId) (outcome : Outcome) (packet : Packet)
    (sequenceId : UInt32) : Except Outcome Task × Connection :=
  match encodeFrame connection.version packet sequenceId with
  | .error error => (.error (.failed error), connection)
  | .ok frame =>
    (.ok (.sending outcome sequenceId frame (.writing frame)),
      { connection with writeLock := connection.writeLock.join id })

/-- Register a call: the task that it goes on as, or what it comes to at once. -/
def register (connection : Connection) (id : TaskId) : Call → Except Outcome Task × Connection
  | .close =>
    if connection.closed then (.error .closed, connection)
    else
      (.ok (.closing .waiting),
        { connection.beginClosing with writeLock := connection.writeLock.join id })
  | .receive =>
    if connection.closed then (.error (.failed .connectionClosed), connection)
    else (.ok (.receiving .empty), { connection with readLock := connection.readLock.join id })
  | .sendAs packet sequenceId =>
    if connection.closed then (.error (.failed .connectionClosed), connection)
    else connection.registerFrame id .sent packet sequenceId
  | .send packet =>
    if connection.closed then (.error (.failed .connectionClosed), connection)
    else match connection.sequence.take with
      | (.error error, _) => (.error (.failed error), connection)
      | (.ok sequenceId, sequence) =>
        { connection with sequence }.registerFrame id (.numbered sequenceId) packet sequenceId

/-- The ways in which a call is registered: what it goes on as, or what it comes to at once, and the
connection after it. -/
inductive Registers (connection : Connection) (id : TaskId) :
    Call → Except Outcome Task → Connection → Prop
  /-- The first to close the connection queues up behind all senders. -/
  | closing (opened : ¬connection.closed) :
    Registers connection id .close (.ok (.closing .waiting))
      { connection.beginClosing with writeLock := connection.writeLock.join id }
  /-- A receiver queues up for the read lock. -/
  | receiving (opened : ¬connection.closed) :
    Registers connection id .receive (.ok (.receiving .empty))
      { connection with readLock := connection.readLock.join id }
  /-- A frame under a given number queues up for the write lock. -/
  | sendingAs {packet : Packet} {sequenceId : UInt32} {frame : Bytes}
    (opened : ¬connection.closed)
    (encoded : encodeFrame connection.version packet sequenceId = .ok frame) :
    Registers connection id (.sendAs packet sequenceId)
      (.ok (.sending .sent sequenceId frame (.writing frame)))
      { connection with writeLock := connection.writeLock.join id }
  /-- A frame under the number whose turn it is queues up for the write lock. -/
  | sending {packet : Packet} {frame : Bytes} (opened : ¬connection.closed)
    (running : ¬connection.sequence.stopped)
    (encoded : encodeFrame connection.version packet connection.sequence.next = .ok frame) :
    Registers connection id (.send packet)
      (.ok (.sending (.numbered connection.sequence.next) connection.sequence.next frame
        (.writing frame)))
      { connection with
        sequence := { connection.sequence with next := connection.sequence.next + 1 }
        writeLock := connection.writeLock.join id }
  /-- There is no frame for a packet under a given number. -/
  | unsentAs {packet : Packet} {sequenceId : UInt32} {error : Error}
    (opened : ¬connection.closed)
    (refused : encodeFrame connection.version packet sequenceId = .error error) :
    Registers connection id (.sendAs packet sequenceId) (.error (.failed error)) connection
  /-- There is no frame for a packet under the number whose turn it is, which is used up. -/
  | unsent {packet : Packet} {error : Error} (opened : ¬connection.closed)
    (running : ¬connection.sequence.stopped)
    (refused : encodeFrame connection.version packet connection.sequence.next = .error error) :
    Registers connection id (.send packet) (.error (.failed error))
      { connection with
        sequence := { connection.sequence with next := connection.sequence.next + 1 } }
  /-- There are no more numbers. -/
  | stopped {packet : Packet} (opened : ¬connection.closed)
    (stopped : connection.sequence.stopped) :
    Registers connection id (.send packet) (.error (.failed .sequenceStopped)) connection
  /-- Closing again is in vain. -/
  | closedAgain (closed : connection.closed) :
    Registers connection id .close (.error .closed) connection
  /-- A closed connection refuses every other call. -/
  | closed {call : Call} (closed : connection.closed) (other : call ≠ .close) :
    Registers connection id call (.error (.failed .connectionClosed)) connection

/-- A call is registered in one of these ways. -/
theorem registers {call : Call} {registered : Except Outcome Task} {next : Connection}
    (register : connection.register id call = (registered, next)) :
    connection.Registers id call registered next := by
  cases call with
  | close =>
    simp only [Connection.register] at register
    split at register <;> cases register
    · exact .closedAgain ‹_›
    · exact .closing ‹_›
  | receive =>
    simp only [Connection.register] at register
    split at register <;> cases register
    · exact .closed ‹_› (by simp)
    · exact .receiving ‹_›
  | sendAs packet sequenceId =>
    simp only [Connection.register, registerFrame] at register
    split at register
    · cases register
      exact .closed ‹_› (by simp)
    · cases encoded : encodeFrame connection.version packet sequenceId with
      | error error =>
        rw [encoded] at register
        cases register
        exact .unsentAs ‹_› encoded
      | ok frame =>
        rw [encoded] at register
        cases register
        exact .sendingAs ‹_› encoded
  | send packet =>
    simp only [Connection.register, registerFrame] at register
    split at register
    · cases register
      exact .closed ‹_› (by simp)
    · by_cases stopped : connection.sequence.stopped
      · simp only [Sequence.take, stopped, if_true] at register
        cases register
        exact .stopped ‹_› stopped
      · simp only [Sequence.take, if_neg stopped] at register
        cases encoded : encodeFrame connection.version packet connection.sequence.next with
        | error error =>
          rw [encoded] at register
          cases register
          exact .unsent ‹_› stopped encoded
        | ok frame =>
          rw [encoded] at register
          cases register
          exact .sending ‹_› stopped encoded

end Connection

/-- Whether a task needs the write lock: a receiver needs the read lock, every other task this
one. -/
def Task.writes : Task → Bool
  | .sending .. | .closing _ => true
  | .receiving _ => false

/-- What is left of a sender is a sender of the same frame, what is left of a receiver is a
receiver, and so on. -/
def Task.Continues : Task → Task → Prop
  | .sending outcome sequenceId frame _, .sending outcome' sequenceId' frame' _ =>
    outcome' = outcome ∧ sequenceId' = sequenceId ∧ frame' = frame
  | .receiving _, .receiving _ => True
  | .closing _, .closing _ => True
  | _, _ => False

/-- What is left of a task needs the same lock. -/
theorem Task.Continues.writes_eq {task next : Task} (continues : task.Continues next) :
    next.writes = task.writes := by
  cases task <;> cases next <;> first | rfl | contradiction

namespace Endpoint

variable {endpoint : Endpoint σ} {id : TaskId} {task : Task}

/-- Beginning to send is registering the frame and going on. -/
theorem beginSending_eq (endpoint : Endpoint σ) (id : TaskId) (outcome : Outcome) (packet : Packet)
    (sequenceId : UInt32) :
    endpoint.beginSending io id outcome packet sequenceId =
      match endpoint.connection.registerFrame id outcome packet sequenceId with
      | (.error outcome, connection) => (.finished outcome, { endpoint with connection })
      | (.ok task, connection) => { endpoint with connection }.advance io id task := by
  simp only [beginSending, Connection.registerFrame]
  cases encodeFrame endpoint.connection.version packet sequenceId with
  | error error => rfl
  | ok frame => rfl

/-- Beginning a call is registering it and going on. -/
theorem begin_eq (endpoint : Endpoint σ) (id : TaskId) (call : Call) :
    endpoint.begin io id call =
      match endpoint.connection.register id call with
      | (.error outcome, connection) => (.finished outcome, { endpoint with connection })
      | (.ok task, connection) => { endpoint with connection }.advance io id task := by
  cases call with
  | close =>
    simp only [begin, Connection.register]
    split <;> rfl
  | receive =>
    simp only [begin, Connection.register]
    split <;> rfl
  | sendAs packet sequenceId =>
    simp only [begin, Connection.register]
    split
    · rfl
    · exact beginSending_eq ..
  | send packet =>
    simp only [begin, Connection.register]
    split
    · rfl
    · rcases endpoint.connection.sequence.take with ⟨error | sequenceId, sequence⟩
      · rfl
      · exact beginSending_eq ..

/-! ## Going on -/

/-- Keep a task. -/
def keeping (endpoint : Endpoint σ) (id : TaskId) (task : Task) : Endpoint σ :=
  { endpoint with connection := endpoint.connection.keep id task }

/-- Forget a task. -/
def forgetting (endpoint : Endpoint σ) (id : TaskId) : Endpoint σ :=
  { endpoint with connection := endpoint.connection.forget id }

/-- Going on with a task changes nothing of a connection but its buffers. -/
theorem advance_frame (endpoint : Endpoint σ) (io : Transport σ) (id : TaskId) (task : Task) :
    ∃ readBuffer writeBuffer line, (endpoint.advance io id task).2 =
      { connection := { endpoint.connection with readBuffer, writeBuffer }, line } := by
  cases task with
  | sending outcome sequenceId frame rest =>
    simp only [advance, advanceSending]
    repeat' split
    all_goals exact ⟨_, _, _, rfl⟩
  | receiving assembly =>
    simp only [advance, advanceReceiving]
    repeat' split
    all_goals exact ⟨_, _, _, rfl⟩
  | closing stage =>
    cases stage <;> simp only [advance, advanceClosing, advanceFlush, advanceShutdown] <;>
      repeat' split
    all_goals exact ⟨_, _, _, rfl⟩

/-- Going on with a task leaves a task of the same sort. -/
theorem advance_continues {woken : Bool} {next : Task}
    (suspended : (endpoint.advance io id task).1 = .suspended woken next) :
    task.Continues next := by
  cases task with
  | sending outcome sequenceId frame rest =>
    simp only [advance, advanceSending] at suspended
    repeat' split at suspended
    all_goals cases suspended
    all_goals exact ⟨rfl, rfl, rfl⟩
  | receiving assembly =>
    simp only [advance, advanceReceiving] at suspended
    repeat' split at suspended
    all_goals cases suspended
    all_goals trivial
  | closing stage =>
    cases stage <;>
      simp only [advance, advanceClosing, advanceFlush, advanceShutdown] at suspended <;>
      repeat' split at suspended
    all_goals cases suspended
    all_goals trivial

/-- Put on another lifecycle label and other tasks. -/
def dressed (endpoint : Endpoint σ) (lifecycle : Lifecycle) (tasks : List (TaskId × Task)) :
    Endpoint σ :=
  { endpoint with connection := { endpoint.connection with lifecycle, tasks } }

/-- Shutting down depends neither on the lifecycle label nor on the tasks. -/
theorem advanceShutdown_dressed (endpoint : Endpoint σ) (io : Transport σ) (lifecycle : Lifecycle)
    (tasks : List (TaskId × Task)) :
    (endpoint.dressed lifecycle tasks).advanceShutdown io =
      ((endpoint.advanceShutdown io).1,
        (endpoint.advanceShutdown io).2.dressed lifecycle tasks) := by
  cases polled : endpoint.line.shutdown io with
  | mk result line =>
    rcases result with (failure | _) | woken <;>
      simp [advanceShutdown, dressed, polled]

/-- Flushing on closing depends neither on the lifecycle label nor on the tasks. -/
theorem advanceFlush_dressed (endpoint : Endpoint σ) (io : Transport σ) (lifecycle : Lifecycle)
    (tasks : List (TaskId × Task)) :
    (endpoint.dressed lifecycle tasks).advanceFlush io =
      ((endpoint.advanceFlush io).1, (endpoint.advanceFlush io).2.dressed lifecycle tasks) := by
  cases polled : endpoint.line.flush io with
  | mk result line =>
    rcases result with (failure | _) | woken
    · simpa [advanceFlush, dressed, polled] using
        advanceShutdown_dressed { endpoint with line := line.note (.flushFailed failure) } io
          lifecycle tasks
    · simpa [advanceFlush, dressed, polled] using
        advanceShutdown_dressed { endpoint with line } io lifecycle tasks
    · simp [advanceFlush, dressed, polled]

/-- Going on with a task depends neither on the lifecycle label nor on the tasks that are kept. -/
theorem advance_dressed (endpoint : Endpoint σ) (io : Transport σ) (id : TaskId) (task : Task)
    (lifecycle : Lifecycle) (tasks : List (TaskId × Task)) :
    (endpoint.dressed lifecycle tasks).advance io id task =
      ((endpoint.advance io id task).1,
        (endpoint.advance io id task).2.dressed lifecycle tasks) := by
  cases task with
  | sending outcome sequenceId frame rest =>
    by_cases closed : endpoint.connection.closed
    · simp [advance, advanceSending, dressed, closed]
    · by_cases held : endpoint.connection.writeLock.isHeldBy id
      · cases polled : rest.poll io endpoint.connection.writeBuffer endpoint.line with
        | mk result others =>
          rcases result with (failure | _) | woken <;>
            simp [advance, advanceSending, dressed, closed, held, polled, note]
      · simp [advance, advanceSending, dressed, closed, held]
  | receiving assembly =>
    by_cases closed : endpoint.connection.closed
    · simp [advance, advanceReceiving, dressed, closed]
    · by_cases held : endpoint.connection.readLock.isHeldBy id
      · cases polled : assembly.poll endpoint.connection.version io endpoint.connection.readBuffer
          endpoint.line with
        | mk result others =>
          rcases result with (failure | ⟨preamble, body⟩) | woken
          · simp [advance, advanceReceiving, dressed, closed, held, polled]
          · cases decoded : decodeBody endpoint.connection.version preamble body <;>
              simp [advance, advanceReceiving, dressed, closed, held, polled, decoded, note]
          · simp [advance, advanceReceiving, dressed, closed, held, polled]
      · simp [advance, advanceReceiving, dressed, closed, held]
  | closing stage =>
    cases stage with
    | waiting =>
      by_cases held : endpoint.connection.writeLock.isHeldBy id
      · by_cases empty : endpoint.connection.writeBuffer.length = 0
        · simpa [advance, advanceClosing, dressed, held, empty] using
            advanceFlush_dressed endpoint io lifecycle tasks
        · simpa [advance, advanceClosing, dressed, held, empty, note] using
            advanceFlush_dressed
              (endpoint.note (.frameDropped endpoint.connection.writeBuffer.length)) io lifecycle
              tasks
      · simp [advance, advanceClosing, dressed, held]
    | flushing => exact advanceFlush_dressed ..
    | shuttingDown => exact advanceShutdown_dressed ..

/-- Going on with a task does not depend on the tasks that are kept. -/
theorem advance_keeping (endpoint : Endpoint σ) (io : Transport σ) (id other : TaskId)
    (task kept : Task) :
    (endpoint.keeping other kept).advance io id task =
      ((endpoint.advance io id task).1, (endpoint.advance io id task).2.keeping other kept) := by
  have advanced := advance_dressed endpoint io id task endpoint.connection.lifecycle
    (endpoint.connection.keep other kept).tasks
  obtain ⟨readBuffer, writeBuffer, line, changed⟩ := advance_frame endpoint io id task
  rw [changed] at advanced ⊢
  exact advanced

/-- Whether a task was kept before does not matter once it has been kept or forgotten. -/
theorem settle_keeping (progress : Progress) (endpoint : Endpoint σ) (id : TaskId) (kept : Task) :
    settle id (progress, endpoint.keeping id kept) = settle id (progress, endpoint) := by
  cases progress <;> simp [settle, keeping]

/-- A poll of a task goes on with it. -/
theorem step_poll (found : endpoint.connection.task? id = some task) (io : Transport σ) :
    endpoint.step io (.poll id) =
      (.polled (settle id (endpoint.advance io id task)).1,
        (settle id (endpoint.advance io id task)).2) := by
  simp only [step, found]

/-- There is nothing to poll under a name that is free. -/
theorem step_poll_free (free : endpoint.connection.task? id = none) :
    endpoint.step io (.poll id) = (.misnamed, endpoint) := by
  simp only [step, free]

/-- A task that is given up is forgotten. -/
theorem step_cancel (found : endpoint.connection.task? id = some task) :
    endpoint.step io (.cancel id) = (.done, endpoint.forgetting id) := by
  simp only [step, found, forgetting]

/-- There is nothing to give up under a name that is free. -/
theorem step_cancel_free (free : endpoint.connection.task? id = none) :
    endpoint.step io (.cancel id) = (.misnamed, endpoint) := by
  simp only [step, free]

/-- No call is made under a name that is in use. -/
theorem step_start_taken (found : endpoint.connection.task? id = some task) (call : Call) :
    endpoint.step io (.start id call) = (.misnamed, endpoint) := by
  simp only [step, found]

/-- A call is registered; then, unless it is over at once, its task is polled. -/
theorem step_start (free : endpoint.connection.task? id = none) (call : Call) :
    endpoint.step io (.start id call) =
      match endpoint.connection.register id call with
      | (.error outcome, connection) =>
        (.polled (.ready outcome), { endpoint with connection := connection.forget id })
      | (.ok task, connection) =>
        ({ endpoint with connection := connection.keep id task } : Endpoint σ).step io
          (.poll id) := by
  simp only [step, free]
  rw [begin_eq]
  split
  · rfl
  · rename_i task connection registered
    have polled := advance_keeping { endpoint with connection } io id id task task
    simp only [keeping] at polled
    simp only [Connection.task?_keep_self, polled]
    rw [← settle_keeping _ _ id task]
    rfl

end Endpoint

end Cmpp
