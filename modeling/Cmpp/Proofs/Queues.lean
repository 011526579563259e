import Cmpp.Proofs.Tasks

/-!
# Runs and queues

A run is a list of moves: something happens to the endpoint, or its stream changes from outside, as
a pipe does when the other end acts. In every state of a run the queues for the locks and the tasks
agree: each queue holds the tasks that need its lock, each of them once, and nothing else
(`Connection.Sound`).
-/

namespace Cmpp

variable {σ : Type} {io : Transport σ}

/-- What a run consists of. -/
inductive Move (σ : Type)
  /-- Something happens to the endpoint. -/
  | act (action : Action)
  /-- The stream changes from outside. -/
  | change (change : σ → σ)

namespace Endpoint

/-- Make a move. -/
def move (io : Transport σ) (endpoint : Endpoint σ) : Move σ → Endpoint σ
  | .act action => (endpoint.step io action).2
  | .change change =>
    { endpoint with line := { endpoint.line with state := change endpoint.line.state } }

/-- Make one move after another. -/
def run (io : Transport σ) (endpoint : Endpoint σ) (moves : List (Move σ)) : Endpoint σ :=
  moves.foldl (move io) endpoint

/-- Whether something happens in a run: whether it is brought about by one of the moves, in the
state in which this move is made. -/
def Happens (io : Transport σ) (event : Endpoint σ → Move σ → Prop) (endpoint : Endpoint σ)
    (moves : List (Move σ)) : Prop :=
  ∃ front move, front ++ [move] <+: moves ∧ event (endpoint.run io front) move

variable {event : Endpoint σ → Move σ → Prop} {endpoint : Endpoint σ}

/-- One run after another is one run. -/
theorem run_append (io : Transport σ) (endpoint : Endpoint σ) (front back : List (Move σ)) :
    endpoint.run io (front ++ back) = (endpoint.run io front).run io back :=
  List.foldl_append ..

/-- Nothing happens without a move. -/
theorem not_happens_nil : ¬endpoint.Happens io event [] := by
  rintro ⟨front, move, inside, -⟩
  simp at inside

/-- Whether something has happened in a run, or is brought about by the move that follows it. -/
theorem happens_concat (moves : List (Move σ)) (move : Move σ) :
    endpoint.Happens io event (moves ++ [move]) ↔
      endpoint.Happens io event moves ∨ event (endpoint.run io moves) move := by
  constructor
  · rintro ⟨front, last, inside, given⟩
    rcases List.prefix_concat_iff.mp inside with same | earlier
    · obtain ⟨rfl, equal⟩ := List.append_inj' same rfl
      obtain rfl := List.singleton_inj.mp equal
      exact .inr given
    · exact .inl ⟨front, last, earlier, given⟩
  · rintro (⟨front, last, inside, given⟩ | given)
    · exact ⟨front, last, inside.trans (List.prefix_append _ _), given⟩
    · exact ⟨moves, move, List.prefix_rfl, given⟩

end Endpoint

namespace Lock

variable {lock : Lock} {id other : TaskId}

/-- A task holds a lock just if it is the first in the queue. -/
theorem isHeldBy_iff : lock.isHeldBy id ↔ lock.queue.head? = some id := by
  simp [isHeldBy, holder?]

/-- A task that holds a lock is the first in the queue for it. -/
theorem queue_of_held (held : lock.isHeldBy id) : lock.queue = id :: lock.queue.erase id := by
  obtain ⟨others, queue⟩ := List.head?_eq_some_iff.mp (isHeldBy_iff.mp held)
  rw [queue, List.erase_cons_head]

/-- Two tasks do not hold a lock at once. -/
theorem holder_unique (held : lock.isHeldBy id) (alsoHeld : lock.isHeldBy other) : other = id :=
  Option.some.inj ((isHeldBy_iff.mp alsoHeld).symm.trans (isHeldBy_iff.mp held))

/-- Whoever holds a lock holds it still when others have left the queue. -/
theorem isHeldBy_leave (different : other ≠ id) (held : lock.isHeldBy id) :
    (lock.leave other).isHeldBy id := by
  rw [isHeldBy_iff, leave, queue_of_held held, List.erase_cons_tail (by simpa using different.symm)]
  rfl

/-- Whoever holds a lock holds it still when others have joined the queue. -/
theorem isHeldBy_join (other : TaskId) (held : lock.isHeldBy id) :
    (lock.join other).isHeldBy id := by
  rw [isHeldBy_iff, join, queue_of_held held]
  rfl

/-- When a task joins a queue that is not empty, the lock is held as before. -/
theorem isHeldBy_join_eq (nonempty : lock.queue ≠ []) (id other : TaskId) :
    (lock.join id).isHeldBy other = lock.isHeldBy other := by
  obtain ⟨holder, others, queue⟩ := List.exists_cons_of_ne_nil nonempty
  rw [isHeldBy, isHeldBy, holder?, holder?, join, queue]
  rfl

/-- A task that joins the queue for a lock holds the lock at once just if the queue was empty. -/
theorem isHeldBy_join_self (absent : id ∉ lock.queue) :
    (lock.join id).isHeldBy id ↔ lock.queue = [] := by
  constructor
  · intro held
    by_cases empty : lock.queue = []
    · exact empty
    · rw [isHeldBy_join_eq empty] at held
      rw [queue_of_held held] at absent
      exact (absent List.mem_cons_self).elim
  · intro empty
    rw [isHeldBy_iff, join, empty]
    rfl

/-- A task that is in the queue for a lock without holding it leaves somebody behind. -/
theorem queue_of_unheld (inside : id ∈ lock.queue) (unheld : ¬lock.isHeldBy id) :
    lock.queue.erase id ≠ [] := by
  intro alone
  rcases List.erase_eq_nil_iff.mp alone with empty | only
  · rw [empty] at inside
    cases inside
  · exact unheld (isHeldBy_iff.mpr (by rw [only]; rfl))

/-- When a task leaves the queue for a lock that it does not hold, the lock is held as before. -/
theorem isHeldBy_leave_iff (inside : id ∈ lock.queue) (unheld : ¬lock.isHeldBy id)
    (different : id ≠ other) : (lock.leave id).isHeldBy other ↔ lock.isHeldBy other := by
  refine ⟨fun held => ?_, isHeldBy_leave different⟩
  obtain ⟨holder, others, queue⟩ := List.exists_cons_of_ne_nil (List.ne_nil_of_mem inside)
  have still : lock.isHeldBy holder := isHeldBy_iff.mpr (by rw [queue]; rfl)
  have away : id ≠ holder := fun same => unheld (same ▸ still)
  rwa [holder_unique (isHeldBy_leave away still) held]

end Lock

/-- A queue lists some tasks when it holds each of them once, and no other. -/
structure Lock.Lists (lock : Lock) (listed : TaskId → Prop) : Prop where
  /-- No task is in the queue twice. -/
  distinct : lock.queue.Nodup
  /-- The tasks in the queue are those listed. -/
  mem_iff : ∀ id, id ∈ lock.queue ↔ listed id

namespace Lock.Lists

variable {lock : Lock} {listed : TaskId → Prop} {id : TaskId}

/-- A task that leaves is no longer listed. -/
theorem leave (lists : lock.Lists listed) (id : TaskId) :
    (lock.leave id).Lists fun other => other ≠ id ∧ listed other :=
  ⟨lists.distinct.erase id, fun other => by
    rw [Lock.leave, lists.distinct.mem_erase_iff, lists.mem_iff]⟩

/-- A task that joins is listed from now on. -/
theorem join (lists : lock.Lists listed) (absent : ¬listed id) :
    (lock.join id).Lists fun other => other = id ∨ listed other := by
  have missing : id ∉ lock.queue := fun inside => absent ((lists.mem_iff id).mp inside)
  constructor
  · rw [Lock.join, List.nodup_append]
    refine ⟨lists.distinct, List.pairwise_singleton _ id, ?_⟩
    intro other inside last same
    rintro rfl
    exact missing (List.mem_singleton.mp same ▸ inside)
  · intro other
    rw [Lock.join, List.mem_append, lists.mem_iff, List.mem_singleton, or_comm]

/-- What is listed may be said in other words. -/
theorem congr {other : TaskId → Prop} (lists : lock.Lists listed)
    (same : ∀ id, listed id ↔ other id) : lock.Lists other :=
  ⟨lists.distinct, fun id => (lists.mem_iff id).trans (same id)⟩

end Lock.Lists

namespace Connection

variable {connection next : Connection} {id : TaskId} {task : Task}

/-- Whether a task is there that needs the write lock. -/
def Writer (connection : Connection) (id : TaskId) : Prop :=
  ∃ task, connection.task? id = some task ∧ task.writes

/-- Whether a task is there that needs the read lock. -/
def Reader (connection : Connection) (id : TaskId) : Prop :=
  ∃ task, connection.task? id = some task ∧ ¬task.writes

/-- The queues and the tasks agree. -/
structure Sound (connection : Connection) : Prop where
  /-- The queue for the write lock holds the tasks that need it. -/
  writers : connection.writeLock.Lists connection.Writer
  /-- The queue for the read lock holds the tasks that need it. -/
  readers : connection.readLock.Lists connection.Reader
  /-- A connection that is being closed counts as closed. -/
  closing : ∀ id stage, connection.task? id = some (.closing stage) → connection.closed

/-- A task that is not there is in neither queue. -/
theorem Sound.not_queued (sound : connection.Sound) (free : connection.task? id = none) :
    id ∉ connection.writeLock.queue ∧ id ∉ connection.readLock.queue := by
  rw [sound.writers.mem_iff, sound.readers.mem_iff]
  simp [Writer, Reader, free]

/-- A task that is not in the queue for the read lock does not leave it. -/
theorem readLock_forget (absent : id ∉ connection.readLock.queue) :
    (connection.forget id).readLock = connection.readLock := by
  show connection.readLock.leave id = connection.readLock
  rw [Lock.leave, List.erase_of_not_mem absent]

/-- A task that is not in the queue for the write lock does not leave it. -/
theorem writeLock_forget (absent : id ∉ connection.writeLock.queue) :
    (connection.forget id).writeLock = connection.writeLock := by
  show connection.writeLock.leave id = connection.writeLock
  rw [Lock.leave, List.erase_of_not_mem absent]

/-- Nobody is in the queues of a new connection. -/
theorem sound_ofConfig (config : Config) (peer : Option Address) :
    (ofConfig config peer).Sound where
  writers := ⟨List.nodup_nil, fun id => by simp [ofConfig, Writer, task?]⟩
  readers := ⟨List.nodup_nil, fun id => by simp [ofConfig, Reader, task?]⟩
  closing id stage found := by simp [ofConfig, task?] at found

/-- A forgotten task leaves both queues. -/
theorem Sound.forget (sound : connection.Sound) (id : TaskId) : (connection.forget id).Sound where
  writers := (sound.writers.leave id).congr fun other => by
    by_cases same : other = id
    · simp [same, Writer]
    · simp [same, Writer, task?_forget_other same]
  readers := (sound.readers.leave id).congr fun other => by
    by_cases same : other = id
    · simp [same, Reader]
    · simp [same, Reader, task?_forget_other same]
  closing other stage found := by
    obtain ⟨-, there⟩ := task?_of_forget found
    exact sound.closing other stage there

/-- What is left of a task stays where the task was. -/
theorem Sound.keep (sound : connection.Sound) {left : Task}
    (found : connection.task? id = some task) (continues : task.Continues left) :
    (connection.keep id left).Sound where
  writers := sound.writers.congr fun other => by
    by_cases same : other = id
    · simp [same, Writer, found, continues.writes_eq]
    · simp [Writer, task?_keep_other same]
  readers := sound.readers.congr fun other => by
    by_cases same : other = id
    · simp [same, Reader, found, continues.writes_eq]
    · simp [Reader, task?_keep_other same]
  closing other stage kept := by
    rcases task?_of_keep kept with ⟨rfl, rfl⟩ | ⟨-, there⟩
    · cases task with
      | closing earlier => exact sound.closing other earlier found
      | _ => contradiction
    · exact sound.closing other stage there

/-- A task that has joined the queue it needs may be kept, if there is none yet under its name. -/
theorem Sound.enter (sound : connection.Sound) (free : connection.task? id = none)
    (tasks : next.tasks = connection.tasks)
    (writeLock : next.writeLock =
      if task.writes then connection.writeLock.join id else connection.writeLock)
    (readLock : next.readLock =
      if task.writes then connection.readLock else connection.readLock.join id)
    (closed : connection.closed → next.closed)
    (closing : ∀ stage, task = .closing stage → next.closed) : (next.keep id task).Sound := by
  have same : ∀ other, next.task? other = connection.task? other := by
    intro other
    rw [task?, task?, tasks]
  have others : ∀ {other}, other ≠ id →
      (next.keep id task).task? other = connection.task? other := by
    intro other different
    rw [task?_keep_other different, same]
  have lockKept : (next.keep id task).writeLock = next.writeLock ∧
      (next.keep id task).readLock = next.readLock := ⟨rfl, rfl⟩
  have absent : ¬connection.Writer id ∧ ¬connection.Reader id := by
    simp [Writer, Reader, free]
  refine ⟨?_, ?_, ?_⟩
  · rw [lockKept.1, writeLock]
    split
    · rename_i writes
      refine (sound.writers.join absent.1).congr fun other => ?_
      by_cases new : other = id
      · simp [new, Writer, writes]
      · simp [new, Writer, others new]
    · rename_i reads
      refine sound.writers.congr fun other => ?_
      by_cases new : other = id
      · subst new
        simp [Writer, free, reads]
      · simp [Writer, others new]
  · rw [lockKept.2, readLock]
    split
    · rename_i writes
      refine sound.readers.congr fun other => ?_
      by_cases new : other = id
      · subst new
        simp [Reader, free, writes]
      · simp [Reader, others new]
    · rename_i reads
      refine (sound.readers.join absent.2).congr fun other => ?_
      by_cases new : other = id
      · simp [new, Reader, reads]
      · simp [new, Reader, others new]
  · intro other stage found
    by_cases new : other = id
    · subst new
      rw [task?_keep_self] at found
      exact closing stage (Option.some.inj found)
    · rw [others new] at found
      exact closed (sound.closing other stage found)

/-- A connection with the same tasks and queues, and closed if the other is, is sound too. -/
theorem Sound.congr (sound : connection.Sound) (tasks : next.tasks = connection.tasks)
    (writeLock : next.writeLock = connection.writeLock)
    (readLock : next.readLock = connection.readLock)
    (closed : next.closed = connection.closed) : next.Sound := by
  have same : next.task? = connection.task? := by
    funext id
    rw [task?, task?, tasks]
  refine ⟨?_, ?_, ?_⟩
  · rw [writeLock]
    exact sound.writers.congr fun id => by rw [Writer, Writer, same]
  · rw [readLock]
    exact sound.readers.congr fun id => by rw [Reader, Reader, same]
  · intro id stage found
    rw [same] at found
    rw [closed]
    exact sound.closing id stage found

/-- A registered call is in the queue that its task needs. -/
theorem Sound.register (sound : connection.Sound) (free : connection.task? id = none) {call : Call}
    (register : connection.register id call = (.ok task, next)) : (next.keep id task).Sound := by
  cases registers register with
  | closing opened => exact sound.enter free rfl rfl rfl (fun _ => rfl) fun _ _ => rfl
  | receiving | sendingAs | sending =>
    exact sound.enter free rfl rfl rfl (fun closed => closed) (by simp)

/-- Registering a call leaves the version and the bytes on their way out alone. -/
theorem register_frame {call : Call} {registered : Except Outcome Task}
    (register : connection.register id call = (registered, next)) :
    next.version = connection.version ∧ next.writeBuffer = connection.writeBuffer := by
  cases registers register <;> exact ⟨rfl, rfl⟩

/-- A call that is over at once changes nothing of a connection but the sequence numbers. -/
theorem register_refused {call : Call} {outcome : Outcome}
    (register : connection.register id call = (.error outcome, next)) :
    ∃ sequence, next = { connection with sequence } := by
  cases registers register <;> exact ⟨_, rfl⟩

end Connection

namespace Endpoint

variable {endpoint : Endpoint σ} {id : TaskId} {task : Task}

/-- Going on with a task leaves the queues and the tasks in agreement. -/
theorem advance_sound (sound : endpoint.connection.Sound) (io : Transport σ) (id : TaskId)
    (task : Task) :
    (endpoint.advance io id task).2.connection.Sound := by
  obtain ⟨readBuffer, writeBuffer, line, changed⟩ := advance_frame endpoint io id task
  rw [changed]
  exact sound.congr rfl rfl rfl rfl

/-- Going on with a task keeps no task and forgets none. -/
theorem task?_advance (endpoint : Endpoint σ) (io : Transport σ) (id other : TaskId) (task : Task) :
    (endpoint.advance io id task).2.connection.task? other = endpoint.connection.task? other := by
  obtain ⟨readBuffer, writeBuffer, line, changed⟩ := advance_frame endpoint io id task
  rw [changed]
  rfl

/-- A poll leaves the version alone. -/
theorem version_settle (endpoint : Endpoint σ) (io : Transport σ) (id : TaskId) (task : Task) :
    (settle id (endpoint.advance io id task)).2.connection.version =
      endpoint.connection.version := by
  obtain ⟨readBuffer, writeBuffer, line, changed⟩ := advance_frame endpoint io id task
  cases advanced : endpoint.advance io id task with
  | mk progress after =>
    rw [advanced] at changed
    subst changed
    cases progress <;> rfl

/-- A poll leaves the queues and the tasks in agreement. -/
theorem settle_sound (io : Transport σ) (sound : endpoint.connection.Sound)
    (found : endpoint.connection.task? id = some task) :
    (settle id (endpoint.advance io id task)).2.connection.Sound := by
  have still := advance_sound sound io id task
  rw [← task?_advance endpoint io id id task] at found
  cases advanced : endpoint.advance io id task with
  | mk progress after =>
    rw [advanced] at still found
    cases progress with
    | finished outcome => exact still.forget id
    | suspended woken left =>
      exact still.keep found (advance_continues (congrArg Prod.fst advanced))

/-- The queues and the tasks agree after every action if they did before. -/
theorem step_sound (sound : endpoint.connection.Sound) (action : Action) :
    (endpoint.step io action).2.connection.Sound := by
  cases action with
  | start id call =>
    cases free : endpoint.connection.task? id with
    | some task => simpa only [step, free] using sound
    | none =>
      rw [step_start free]
      split
      · rename_i registered
        obtain ⟨sequence, rfl⟩ := Connection.register_refused registered
        have still : Connection.Sound { endpoint.connection with sequence } :=
          sound.congr rfl rfl rfl rfl
        exact still.forget id
      · rename_i registered
        rw [step_poll Connection.task?_keep_self]
        exact settle_sound io (sound.register free registered) Connection.task?_keep_self
  | poll id =>
    cases found : endpoint.connection.task? id with
    | none => simpa only [step, found] using sound
    | some task =>
      rw [step_poll found]
      exact settle_sound io sound found
  | cancel id =>
    cases found : endpoint.connection.task? id with
    | none => simpa only [step, found] using sound
    | some task => simpa only [step, found] using sound.forget id
  | setLifecycle lifecycle =>
    simp only [step, Connection.setLifecycle]
    split
    · exact sound
    · exact sound.congr rfl rfl rfl rfl
  | takeSequence => exact sound.congr rfl rfl rfl rfl
  | stopSequence => exact sound.congr rfl rfl rfl rfl

/-- The queues and the tasks agree in every state of a run if they did before. -/
theorem run_sound (sound : endpoint.connection.Sound) (moves : List (Move σ)) :
    (endpoint.run io moves).connection.Sound := by
  induction moves generalizing endpoint with
  | nil => exact sound
  | cons move moves ih =>
    have moved : (endpoint.move io move).connection.Sound := by
      cases move with
      | act action => exact step_sound sound action
      | change change => exact sound
    exact ih moved

end Endpoint

end Cmpp
