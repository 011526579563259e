import Cmpp.Proofs.Calls
import Cmpp.Proofs.Output
import Cmpp.Proofs.Queues

/-!
# Turns

A move is made of turns: the call of a task is registered, or the task is polled or forgotten, or
the owner of the connection or the other end of the stream does something (`Endpoint.move_turns`).
What every turn keeps, every run keeps (`Endpoint.run_keeps`): so the journal only grows, and no
frame that is being received is ever complete.

The turns of one task leave another alone: they neither change what is left of it nor take a lock
from it (`Endpoint.Turn.task_other`, `Endpoint.Turn.holds`), and while it holds the write lock they
hand nothing over (`Endpoint.Turn.silent`).
-/

namespace Cmpp

variable {σ : Type} {io : Transport σ}

/-- Who makes a move. -/
inductive Actor
  /-- A task. -/
  | task (id : TaskId)
  /-- The owner of the connection. -/
  | owner
  /-- The other end of the stream. -/
  | world
  deriving DecidableEq

/-- Who makes a move. -/
def Move.actor : Move σ → Actor
  | .act (.start id _) | .act (.poll id) | .act (.cancel id) => .task id
  | .act (.setLifecycle _) | .act .takeSequence | .act .stopSequence => .owner
  | .change _ => .world

namespace Endpoint

/-- One of the things that a move consists of, with who makes it. -/
inductive Turn (io : Transport σ) : Actor → Endpoint σ → Endpoint σ → Prop
  /-- A call is registered. -/
  | enter {endpoint : Endpoint σ} {id : TaskId} {call : Call} {task : Task} {next : Connection}
    (free : endpoint.connection.task? id = none)
    (registered : endpoint.connection.register id call = (.ok task, next)) :
    Turn io (.task id) endpoint { endpoint with connection := next.keep id task }
  /-- A task is polled. -/
  | poll {endpoint : Endpoint σ} {id : TaskId} {task : Task}
    (found : endpoint.connection.task? id = some task) :
    Turn io (.task id) endpoint (settle id (endpoint.advance io id task)).2
  /-- A task is forgotten. -/
  | forget (endpoint : Endpoint σ) (id : TaskId) :
    Turn io (.task id) endpoint { endpoint with connection := endpoint.connection.forget id }
  /-- The lifecycle label is set, or a sequence number taken, or their source stopped. -/
  | label (actor : Actor) (endpoint : Endpoint σ) (lifecycle : Lifecycle)
    (sequence : Sequence) :
    Turn io actor endpoint
      { endpoint with connection := { endpoint.connection with lifecycle, sequence } }
  /-- The stream changes from outside. -/
  | outside (endpoint : Endpoint σ) (state : σ) :
    Turn io .world endpoint { endpoint with line := { endpoint.line with state } }

variable {endpoint before after : Endpoint σ} {actor : Actor} {id : TaskId}

/-- A move consists of turns of whoever makes it. -/
theorem move_turns (io : Transport σ) (endpoint : Endpoint σ) (move : Move σ) :
    Relation.ReflTransGen (Turn io move.actor) endpoint (endpoint.move io move) := by
  cases move with
  | change change => exact .single (.outside endpoint _)
  | act action =>
    cases action with
    | start id call =>
      cases free : endpoint.connection.task? id with
      | some task => simp only [move, step, free, Relation.ReflTransGen.refl]
      | none =>
        simp only [move, step_start free]
        split
        · rename_i registered
          obtain ⟨sequence, rfl⟩ := Connection.register_refused registered
          have labelled : Turn io (.task id) endpoint _ :=
            .label (.task id) endpoint endpoint.connection.lifecycle sequence
          exact (Relation.ReflTransGen.single labelled).tail (.forget _ id)
        · rename_i registered
          rw [step_poll Connection.task?_keep_self]
          have entered : Turn io (.task id) endpoint _ := .enter free registered
          exact (Relation.ReflTransGen.single entered).tail (.poll Connection.task?_keep_self)
    | poll id =>
      cases found : endpoint.connection.task? id with
      | none => simp only [move, step, found, Relation.ReflTransGen.refl]
      | some task =>
        simp only [move, step_poll found]
        exact .single (.poll found)
    | cancel id =>
      cases found : endpoint.connection.task? id with
      | none => simp only [move, step, found, Relation.ReflTransGen.refl]
      | some task =>
        simp only [move, step, found]
        exact .single (.forget endpoint id)
    | setLifecycle lifecycle =>
      simp only [move, step, Connection.setLifecycle]
      split
      · exact .refl
      · exact .single (.label _ endpoint lifecycle endpoint.connection.sequence)
    | takeSequence => exact .single (.label _ endpoint endpoint.connection.lifecycle _)
    | stopSequence => exact .single (.label _ endpoint endpoint.connection.lifecycle _)

/-- What the turns of a move keep, the move keeps. -/
theorem move_keeps (invariant : Endpoint σ → Prop) {move : Move σ}
    (keeps : ∀ {before after}, Turn io move.actor before after → invariant before →
      invariant after)
    (holds : invariant endpoint) : invariant (endpoint.move io move) := by
  have turns := move_turns io endpoint move
  generalize endpoint.move io move = after at turns ⊢
  induction turns with
  | refl => exact holds
  | tail _ turn ih => exact keeps turn ih

/-- What every turn keeps, every run keeps. -/
theorem run_keeps (invariant : Endpoint σ → Prop)
    (keeps : ∀ {actor before after}, Turn io actor before after → invariant before →
      invariant after)
    (holds : invariant endpoint) (moves : List (Move σ)) : invariant (endpoint.run io moves) := by
  induction moves generalizing endpoint with
  | nil => exact holds
  | cons move moves ih => exact ih (move_keeps invariant keeps holds)

/-! ## Every turn -/

/-- What becomes of an endpoint once it is settled what is left of a task. -/
theorem settle_snd (id : TaskId) (progress : Progress) (endpoint : Endpoint σ) :
    (settle id (progress, endpoint)).2 =
      { endpoint with
        connection := match progress with
          | .finished _ => endpoint.connection.forget id
          | .suspended _ left => endpoint.connection.keep id left } := by
  cases progress <;> rfl

/-- The frames that are being received are not complete. -/
def Unfinished (endpoint : Endpoint σ) : Prop :=
  ∀ id task, endpoint.connection.task? id = some task →
    task.Unfinished endpoint.connection.version

/-- A turn leaves the version as it is. -/
theorem Turn.version (turn : Turn io actor before after) :
    after.connection.version = before.connection.version := by
  cases turn with
  | enter free registered => exact (Connection.register_frame registered).1
  | poll found => exact version_settle ..
  | forget | label | outside => rfl

/-- A turn does not open a connection again that has been closed. -/
theorem Turn.closed (turn : Turn io actor before after) (closed : before.connection.closed) :
    after.connection.closed := by
  cases turn with
  | enter free registered =>
    cases Connection.registers registered with
    | closing => rfl
    | receiving | sendingAs | sending => exact closed
  | @poll _ id task found =>
    obtain ⟨readBuffer, writeBuffer, line, changed⟩ := advance_frame before io id task
    rw [settle_snd, changed]
    split <;> exact closed
  | forget | label | outside => exact closed

/-- Only a receiver changes the read buffer. -/
theorem advance_readBuffer {task : Task} (io : Transport σ) (id : TaskId)
    (other : ∀ assembly, task ≠ .receiving assembly) :
    (endpoint.advance io id task).2.connection.readBuffer = endpoint.connection.readBuffer := by
  cases task with
  | sending outcome sequenceId frame rest =>
    simp only [advance, advanceSending]
    repeat' split
    all_goals rfl
  | receiving assembly => exact (other assembly rfl).elim
  | closing stage =>
    cases stage with
    | waiting =>
      simp only [advance, advanceClosing]
      split
      · split
        · exact congrArg Connection.readBuffer (advanceFlush_idle endpoint io).2
        · exact congrArg Connection.readBuffer (advanceFlush_idle _ io).2
      · rfl
    | flushing => exact congrArg Connection.readBuffer (advanceFlush_idle endpoint io).2
    | shuttingDown => exact congrArg Connection.readBuffer (advanceShutdown_idle endpoint io).2

/-- A turn leaves alone what is left of another task. -/
theorem Turn.task_other (turn : Turn io actor before after) (other : actor ≠ .task id) :
    after.connection.task? id = before.connection.task? id := by
  cases turn with
  | @enter _ actor call task next free registered =>
    have same : next.task? id = before.connection.task? id := by
      cases Connection.registers registered <;> rfl
    have different : id ≠ actor := fun equal => other (congrArg Actor.task equal.symm)
    exact (Connection.task?_keep_other different).trans same
  | @poll _ actor task found =>
    have different : id ≠ actor := fun equal => other (congrArg Actor.task equal.symm)
    rw [← task?_advance before io actor id task, settle_snd]
    split
    · exact Connection.task?_forget_other different
    · exact Connection.task?_keep_other different
  | forget _ actor =>
    exact Connection.task?_forget_other fun equal => other (congrArg Actor.task equal.symm)
  | label | outside => rfl

/-- A turn leaves the frames that are being received incomplete. -/
theorem Turn.unfinished (turn : Turn io actor before after) (unfinished : before.Unfinished) :
    after.Unfinished := by
  intro id left found
  rw [turn.version]
  by_cases own : actor = .task id
  · cases turn with
    | enter free registered =>
      cases own
      rw [Connection.task?_keep_self] at found
      cases found
      cases Connection.registers registered with
      | receiving => exact Nat.zero_lt_succ 3
      | closing | sendingAs | sending => trivial
    | @poll _ _ task polled =>
      cases own
      rw [settle_snd] at found
      split at found
      · simp at found
      · rename_i suspended
        rw [Connection.task?_keep_self] at found
        cases found
        exact advance_unfinished (unfinished id task polled) suspended
    | forget =>
      cases own
      simp at found
    | label => exact unfinished id left found
    | outside => cases own
  · exact unfinished id left (turn.task_other own ▸ found)

/-- A turn makes calls on the line for the errand of a task, or leaves the line alone; only the
other end of the stream changes its state otherwise. -/
theorem Turn.calls (turn : Turn io actor before after) (unfinished : before.Unfinished) :
    (∃ id task, actor = .task id ∧ before.connection.task? id = some task ∧
        before.line.Calls io task.errand after.line) ∨
      after.line = before.line ∨
        actor = .world ∧ after.line.history = before.line.history := by
  cases turn with
  | @poll _ id task found =>
    refine .inl ⟨id, task, rfl, found, ?_⟩
    rw [settle_snd]
    exact advance_calls before io id (unfinished id task found)
  | enter | forget | label => exact .inr (.inl rfl)
  | outside => exact .inr (.inr ⟨rfl, rfl⟩)

/-- A turn takes nothing back that was entered in the journal. -/
theorem Turn.history_prefix (turn : Turn io actor before after) (unfinished : before.Unfinished) :
    before.line.history <+: after.line.history := by
  rcases turn.calls unfinished with ⟨_, _, _, _, calls⟩ | same | ⟨_, same⟩
  · exact calls.history_prefix
  · exact same ▸ List.prefix_rfl
  · exact same ▸ List.prefix_rfl

/-- No frame is being received when a connection is opened. -/
theorem unfinished_establish (io : Transport σ) (config : Config) (state : σ) :
    (establish io config state).Unfinished := by
  intro id task found
  simp [establish, Connection.ofConfig, Connection.task?] at found

/-- A run takes nothing back that was entered in the journal. -/
theorem run_history_prefix (unfinished : endpoint.Unfinished) (io : Transport σ)
    (moves : List (Move σ)) : endpoint.line.history <+: (endpoint.run io moves).line.history := by
  have kept : (endpoint.run io moves).Unfinished ∧
      endpoint.line.history <+: (endpoint.run io moves).line.history :=
    run_keeps (fun state => state.Unfinished ∧ endpoint.line.history <+: state.line.history)
      (fun turn holds => ⟨turn.unfinished holds.1, holds.2.trans (turn.history_prefix holds.1)⟩)
      ⟨unfinished, List.prefix_rfl⟩ moves
  exact kept.2

/-- An endpoint in a state of some run of a connection that was opened with some settings. -/
def Reachable (io : Transport σ) (config : Config) (endpoint : Endpoint σ) : Prop :=
  ∃ state moves, endpoint = (establish io config state).run io moves

namespace Reachable

variable {config : Config}

/-- What every turn keeps holds in every state that a run reaches if it does at the start. -/
theorem keeps (reachable : endpoint.Reachable io config) (invariant : Endpoint σ → Prop)
    (turns : ∀ {actor before after}, Turn io actor before after → invariant before →
      invariant after)
    (opened : ∀ state, invariant (establish io config state)) : invariant endpoint := by
  obtain ⟨state, moves, rfl⟩ := reachable
  exact run_keeps invariant turns (opened state) moves

/-- A run leads from states that runs reach to such states. -/
theorem run (reachable : endpoint.Reachable io config) (moves : List (Move σ)) :
    (endpoint.run io moves).Reachable io config := by
  obtain ⟨state, earlier, rfl⟩ := reachable
  exact ⟨state, earlier ++ moves, (List.foldl_append ..).symm⟩

/-- A move leads from states that runs reach to such states. -/
theorem move (reachable : endpoint.Reachable io config) (move : Move σ) :
    (endpoint.move io move).Reachable io config :=
  reachable.run [move]

/-- The queues and the tasks agree in every state that a run reaches. -/
theorem sound (reachable : endpoint.Reachable io config) : endpoint.connection.Sound := by
  obtain ⟨state, moves, rfl⟩ := reachable
  have opened : (establish io config state).connection.Sound := Connection.sound_ofConfig ..
  exact run_sound opened moves

/-- The frames that are being received are incomplete in every state that a run reaches. -/
theorem unfinished (reachable : endpoint.Reachable io config) : endpoint.Unfinished :=
  reachable.keeps Unfinished (fun turn => turn.unfinished) (unfinished_establish io config)

/-- The version is the one that was settled in every state that a run reaches. -/
theorem version (reachable : endpoint.Reachable io config) :
    endpoint.connection.version = config.version :=
  reachable.keeps (fun state => state.connection.version = config.version)
    (fun turn same => turn.version.trans same) fun _ => rfl

end Reachable

/-! ## Turns of other tasks -/

/-- A turn takes no lock from another task. -/
theorem Turn.holds (turn : Turn io actor before after) (other : actor ≠ .task id) :
    (before.connection.writeLock.isHeldBy id → after.connection.writeLock.isHeldBy id) ∧
      (before.connection.readLock.isHeldBy id → after.connection.readLock.isHeldBy id) := by
  cases turn with
  | enter free registered =>
    cases Connection.registers registered with
    | receiving => exact ⟨fun held => held, Lock.isHeldBy_join _⟩
    | closing | sendingAs | sending => exact ⟨Lock.isHeldBy_join _, fun held => held⟩
  | @poll _ actor task found =>
    have different : actor ≠ id := fun equal => other (congrArg Actor.task equal)
    obtain ⟨readBuffer, writeBuffer, line, changed⟩ := advance_frame before io actor task
    rw [settle_snd, changed]
    split
    · exact ⟨Lock.isHeldBy_leave different, Lock.isHeldBy_leave different⟩
    · exact ⟨fun held => held, fun held => held⟩
  | forget _ actor =>
    have different : actor ≠ id := fun equal => other (congrArg Actor.task equal)
    exact ⟨Lock.isHeldBy_leave different, Lock.isHeldBy_leave different⟩
  | label | outside => exact ⟨fun held => held, fun held => held⟩

/-- Going on with a task hands nothing over unless it holds the write lock. -/
theorem advance_unheld (task : Task) (io : Transport σ)
    (unheld : ¬endpoint.connection.writeLock.isHeldBy id) :
    (endpoint.advance io id task).2.output = endpoint.output ∧
      (endpoint.advance io id task).2.connection.writeBuffer =
        endpoint.connection.writeBuffer := by
  cases task with
  | sending outcome sequenceId frame rest =>
    simp only [advance, advanceSending, if_neg unheld]
    split <;> exact ⟨rfl, rfl⟩
  | receiving | closing => exact advance_idle endpoint io id (by simp)

/-- While a task holds the write lock, the turns of others hand nothing over. -/
theorem Turn.silent (turn : Turn io actor before after) (other : actor ≠ .task id)
    (held : before.connection.writeLock.isHeldBy id) :
    after.output = before.output ∧
      after.connection.writeBuffer = before.connection.writeBuffer := by
  cases turn with
  | @enter _ actor call task next free registered =>
    have buffer := (Connection.register_frame registered).2
    exact ⟨congrArg (WriteBuffer.stream · before.line) buffer, buffer⟩
  | @poll _ actor task found =>
    have unheld : ¬before.connection.writeLock.isHeldBy actor := fun alsoHeld =>
      other (congrArg Actor.task (Lock.holder_unique held alsoHeld))
    obtain ⟨output, buffer⟩ := advance_unheld task io unheld
    rw [settle_snd]
    split <;> exact ⟨output, buffer⟩
  | forget | label | outside => exact ⟨rfl, rfl⟩

end Endpoint

end Cmpp
