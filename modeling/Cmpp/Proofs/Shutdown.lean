import Cmpp.Proofs.Outcomes
import Mathlib.Data.List.Induction

/-!
# When the transport is shut down

Whoever closes a connection first is the only one to shut its transport down: everyone who closes it
later is told at once that it is closed, even if the first one was given up in between
(`Endpoint.closed_without_shutdown`). So once nobody is closing a closed connection any more, its
transport has been shut down just if the first one was not given up before that
(`Endpoint.shut_down_unless_given_up`). What carries this through a run is how far the closing has
come (`Endpoint.Teardown`): at most one task closes the connection, and the transport has been shut
down just if that task is at the shutdown.
-/

namespace Cmpp

variable {σ : Type} {io : Transport σ}

/-- Whether the transport has been shut down can be read off the journal. -/
instance (line : Line σ) : Decidable line.ShutDown :=
  inferInstanceAs (Decidable (∃ event ∈ line.history, event.isShutdown))

namespace Endpoint

variable {endpoint before after : Endpoint σ} {actor : Actor} {id : TaskId} {givenUp : Prop}

/-- Whether a move gives up the closing of a connection before the transport is shut down. -/
def GivesUp (endpoint : Endpoint σ) : Move σ → Prop
  | .act (.cancel id) =>
    ∃ stage, endpoint.connection.task? id = some (.closing stage) ∧ stage ≠ .shuttingDown
  | _ => False

/-- Whether the closing of a connection was given up in a run before the transport was shut down. -/
def ClosingGivenUp (io : Transport σ) (endpoint : Endpoint σ) (moves : List (Move σ)) : Prop :=
  ∃ front move, front ++ [move] <+: moves ∧ (endpoint.run io front).GivesUp move

/-- Nobody is closing the connection. -/
def Unattended (endpoint : Endpoint σ) : Prop :=
  ∀ id stage, endpoint.connection.task? id ≠ some (.closing stage)

/-- How far the closing of a connection has come, given whether it was given up before the transport
was shut down. -/
structure Teardown (endpoint : Endpoint σ) (givenUp : Prop) : Prop where
  /-- Nothing has begun on an open connection. -/
  opened : ¬endpoint.connection.closed → ¬endpoint.line.ShutDown ∧ ¬givenUp
  /-- At most one task closes the connection. -/
  alone : ∀ {id other stage later}, endpoint.connection.task? id = some (.closing stage) →
    endpoint.connection.task? other = some (.closing later) → other = id
  /-- The transport has been shut down just if this task is at the shutdown. -/
  underWay : ∀ {id stage}, endpoint.connection.task? id = some (.closing stage) →
    ¬givenUp ∧ (endpoint.line.ShutDown ↔ stage = .shuttingDown)
  /-- Once it is not there any more, the transport has been shut down unless it was given up. -/
  done : endpoint.connection.closed → endpoint.Unattended →
    (endpoint.line.ShutDown ↔ ¬givenUp)

/-- A task that does not close the connection may be forgotten without changing who does. -/
theorem closings_forget {connection : Connection} {task : Task}
    (found : connection.task? id = some task) (other : task.errand ≠ .closing) (key : TaskId)
    (stage : Closing) :
    (connection.forget id).task? key = some (.closing stage) ↔
      connection.task? key = some (.closing stage) := by
  by_cases own : key = id
  · subst own
    refine iff_of_false (by simp) fun closes => ?_
    rw [found] at closes
    cases closes
    exact other rfl
  · rw [Connection.task?_forget_other own]

namespace Teardown

/-- The closing does not get on while the tasks that close and the shutdowns stay as they are. -/
theorem congr (teardown : before.Teardown givenUp)
    (closed : after.connection.closed = before.connection.closed)
    (closings : ∀ id stage, after.connection.task? id = some (.closing stage) ↔
      before.connection.task? id = some (.closing stage))
    (down : after.line.ShutDown ↔ before.line.ShutDown) : after.Teardown givenUp where
  opened isOpen := by
    rw [down]
    exact teardown.opened (closed ▸ isOpen)
  alone found also := teardown.alone ((closings ..).mp found) ((closings ..).mp also)
  underWay found := by
    rw [down]
    exact teardown.underWay ((closings ..).mp found)
  done isClosed unattended := by
    rw [down]
    exact teardown.done (closed ▸ isClosed) fun id stage found =>
      unattended id stage ((closings ..).mpr found)

/-- The closing is under way when one task is kept to go on with it. -/
theorem kept {stage : Closing} (closed : endpoint.connection.closed) (stays : ¬givenUp)
    (others : ∀ other later, other ≠ id →
      endpoint.connection.task? other ≠ some (.closing later))
    (down : endpoint.line.ShutDown ↔ stage = .shuttingDown) :
    Teardown { endpoint with connection := endpoint.connection.keep id (.closing stage) }
      givenUp := by
  have only : ∀ {other later},
      (endpoint.connection.keep id (.closing stage)).task? other = some (.closing later) →
        other = id ∧ later = stage := by
    intro other later found
    rcases Connection.task?_of_keep found with ⟨rfl, same⟩ | ⟨different, there⟩
    · cases same
      exact ⟨rfl, rfl⟩
    · exact (others other later different there).elim
  refine ⟨fun opened => (opened closed).elim,
    fun found also => (only also).1.trans (only found).1.symm, fun found => ⟨stays, ?_⟩,
    fun _ unattended => (unattended id stage Connection.task?_keep_self).elim⟩
  rw [(only found).2]
  exact down

/-- The closing is over, or was given up, when the task that closes is forgotten. -/
theorem forgotten (closed : endpoint.connection.closed)
    (others : ∀ other later, other ≠ id →
      endpoint.connection.task? other ≠ some (.closing later))
    (down : endpoint.line.ShutDown ↔ ¬givenUp) :
    Teardown { endpoint with connection := endpoint.connection.forget id } givenUp := by
  have nobody : ∀ {other later},
      (endpoint.connection.forget id).task? other ≠ some (.closing later) := by
    intro other later found
    obtain ⟨different, there⟩ := Connection.task?_of_forget found
    exact others other later different there
  exact ⟨fun opened => (opened closed).elim, fun found => (nobody found).elim,
    fun found => (nobody found).elim, fun _ _ => down⟩

/-- A registered call to close the connection is where the closing begins; other calls have nothing
to do with it. -/
theorem enter {call : Call} {task : Task} {next : Connection}
    (teardown : endpoint.Teardown givenUp) (sound : endpoint.connection.Sound)
    (free : endpoint.connection.task? id = none)
    (registered : endpoint.connection.register id call = (.ok task, next)) :
    Teardown { endpoint with connection := next.keep id task } givenUp := by
  cases Connection.registers registered with
  | closing opened =>
    obtain ⟨fresh, stays⟩ := teardown.opened opened
    let begun : Endpoint σ :=
      { endpoint with
        connection :=
          { endpoint.connection.beginClosing with
            writeLock := endpoint.connection.writeLock.join id } }
    have others : ∀ other later, other ≠ id →
        begun.connection.task? other ≠ some (.closing later) :=
      fun other later _ found => opened (sound.closing other later found)
    exact kept rfl stays others (iff_of_false fresh (by simp))
  | receiving | sendingAs | sending =>
    refine teardown.congr rfl (fun other stage => ?_) Iff.rfl
    by_cases own : other = id
    · subst own
      simp [free]
    · exact iff_of_eq (congrArg (· = _) (Connection.task?_keep_other own))

/-- The closing gets on, or is over, when the task that closes is polled. -/
theorem advance {stage : Closing} (teardown : endpoint.Teardown givenUp)
    (sound : endpoint.connection.Sound) (io : Transport σ)
    (found : endpoint.connection.task? id = some (.closing stage)) :
    (settle id (endpoint.advance io id (.closing stage))).2.Teardown givenUp := by
  obtain ⟨stays, down⟩ := teardown.underWay found
  have closes := advance_closing_progress endpoint io id stage
  have others : ∀ other later, other ≠ id →
      (endpoint.advance io id (.closing stage)).2.connection.task? other ≠
        some (.closing later) := by
    intro other later different there
    rw [task?_advance] at there
    exact different (teardown.alone found there)
  have closed : (endpoint.advance io id (.closing stage)).2.connection.closed :=
    (closed_advance ..).trans (sound.closing id stage found)
  generalize endpoint.advance io id (.closing stage) = result at closes others closed ⊢
  cases closes with
  | done shut => exact forgotten closed others (iff_of_true shut stays)
  | late shut => exact kept closed stays others (iff_of_true shut rfl)
  | early ahead behind same =>
    refine kept closed stays others ?_
    rw [same, down]
    exact iff_of_false behind ahead

/-- The closing stays where it is when a task is polled that does not close. -/
theorem advance_other {task : Task} (teardown : endpoint.Teardown givenUp)
    (unfinished : endpoint.Unfinished) (io : Transport σ)
    (found : endpoint.connection.task? id = some task) (other : task.errand ≠ .closing) :
    (settle id (endpoint.advance io id task)).2.Teardown givenUp := by
  have calls := advance_calls endpoint io id (unfinished id task found)
  have polled : Turn io (.task id) endpoint (settle id (endpoint.advance io id task)).2 :=
    .poll found
  refine teardown.congr ?_ (fun key stage => ?_) ?_
  · rw [settle_snd]
    split <;> exact closed_advance ..
  · by_cases own : key = id
    · subst own
      have before : endpoint.connection.task? key ≠ some (.closing stage) := by
        rw [found]
        rintro same
        cases same
        exact other rfl
      have after : (settle key (endpoint.advance io key task)).2.connection.task? key ≠
          some (.closing stage) := fun left => other (settle_continues left).errand_eq.symm
      exact iff_of_false after before
    · rw [polled.task_other fun same => own (Actor.task.inj same).symm]
  · rw [settle_snd]
    exact calls.shutDown_iff other

/-- The closing gets on, or stays where it is, when a task is polled. -/
theorem poll {task : Task} (teardown : endpoint.Teardown givenUp)
    (sound : endpoint.connection.Sound) (unfinished : endpoint.Unfinished) (io : Transport σ)
    (found : endpoint.connection.task? id = some task) :
    (endpoint.step io (.poll id)).2.Teardown givenUp := by
  rw [step_poll found]
  cases task with
  | closing stage => exact teardown.advance sound io found
  | sending | receiving => exact teardown.advance_other unfinished io found (by simp [Task.errand])

/-- The closing is given up when the task that closes is cancelled before the shutdown. -/
theorem cancel {task : Task} (teardown : endpoint.Teardown givenUp)
    (sound : endpoint.connection.Sound) (found : endpoint.connection.task? id = some task) :
    Teardown { endpoint with connection := endpoint.connection.forget id }
      (givenUp ∨ endpoint.GivesUp (.act (.cancel id))) := by
  cases task with
  | closing stage =>
    obtain ⟨stays, down⟩ := teardown.underWay found
    refine forgotten (sound.closing id stage found)
      (fun other later different there => different (teardown.alone found there)) ?_
    have given : endpoint.GivesUp (.act (.cancel id)) ↔ stage ≠ .shuttingDown := by
      simp [GivesUp, found]
    rw [given, down]
    simp [stays]
  | sending | receiving =>
    have nothing : ¬endpoint.GivesUp (.act (.cancel id)) := by simp [GivesUp, found]
    rw [or_iff_left nothing]
    exact teardown.congr rfl (closings_forget found (by simp [Task.errand])) Iff.rfl

/-- A move takes the closing on, or gives it up, or has nothing to do with it. -/
theorem move (teardown : endpoint.Teardown givenUp) (sound : endpoint.connection.Sound)
    (unfinished : endpoint.Unfinished) (io : Transport σ) (move : Move σ) :
    (endpoint.move io move).Teardown (givenUp ∨ endpoint.GivesUp move) := by
  by_cases cancels : ∃ id, move = .act (.cancel id)
  · obtain ⟨id, rfl⟩ := cancels
    cases found : endpoint.connection.task? id with
    | none =>
      have nothing : ¬endpoint.GivesUp (.act (.cancel id)) := by simp [GivesUp, found]
      rw [or_iff_left nothing]
      simpa only [Endpoint.move, step, found] using teardown
    | some task =>
      simp only [Endpoint.move, step, found]
      exact teardown.cancel sound found
  · have nothing : ¬endpoint.GivesUp move := by
      cases move with
      | change => exact id
      | act action => cases action <;> first | exact id | exact (cancels ⟨_, rfl⟩).elim
    rw [or_iff_left nothing]
    cases move with
    | change => exact teardown.congr rfl (fun _ _ => Iff.rfl) Iff.rfl
    | act action =>
      cases action with
      | start id call =>
        cases free : endpoint.connection.task? id with
        | some task => simpa only [Endpoint.move, step, free] using teardown
        | none =>
          have started : endpoint.step io (.start id call) = _ := step_start free call
          rw [Endpoint.move, started]
          split
          · rename_i registered
            obtain ⟨sequence, rfl⟩ := Connection.register_refused registered
            have still : Connection.Sound { endpoint.connection with sequence } :=
              sound.congr rfl rfl rfl rfl
            rw [still.forget_free free]
            exact teardown.congr rfl (fun _ _ => Iff.rfl) Iff.rfl
          · rename_i registered
            have entering : Turn io (.task id) endpoint _ := .enter free registered
            exact (teardown.enter sound free registered).poll (sound.register free registered)
              (entering.unfinished unfinished) io Connection.task?_keep_self
      | poll id =>
        cases found : endpoint.connection.task? id with
        | none => simpa only [Endpoint.move, step, found] using teardown
        | some task => exact teardown.poll sound unfinished io found
      | cancel id => exact (cancels ⟨id, rfl⟩).elim
      | setLifecycle lifecycle =>
        simp only [Endpoint.move, step, Connection.setLifecycle]
        split
        · exact teardown
        · exact teardown.congr rfl (fun _ _ => Iff.rfl) Iff.rfl
      | takeSequence | stopSequence => exact teardown.congr rfl (fun _ _ => Iff.rfl) Iff.rfl

/-- Nobody closes a connection that has just been opened. -/
theorem establish (io : Transport σ) (config : Config) (state : σ) :
    (Endpoint.establish io config state).Teardown False := by
  have fresh : ¬(Endpoint.establish io config state).line.ShutDown := by
    simp only [Endpoint.establish]
    repeat' split
    all_goals simp [Line.ShutDown, Line.history, Line.note, Line.enter, Event.isShutdown]
  refine ⟨fun _ => ⟨fresh, id⟩, fun found => ?_, fun found => ?_, fun closed => ?_⟩
  · simp [Endpoint.establish, Connection.ofConfig, Connection.task?] at found
  · simp [Endpoint.establish, Connection.ofConfig, Connection.task?] at found
  · simp [Endpoint.establish, Connection.ofConfig] at closed

end Teardown

/-- Whether the closing was given up in a run, or by the move that follows it. -/
theorem closingGivenUp_concat (io : Transport σ) (endpoint : Endpoint σ) (moves : List (Move σ))
    (move : Move σ) :
    endpoint.ClosingGivenUp io (moves ++ [move]) ↔
      endpoint.ClosingGivenUp io moves ∨ (endpoint.run io moves).GivesUp move :=
  happens_concat moves move

/-- The closing is given up only by being cancelled. -/
theorem not_closingGivenUp {moves : List (Move σ)}
    (uncancelled : ∀ id, .act (.cancel id) ∉ moves) : ¬endpoint.ClosingGivenUp io moves := by
  rintro ⟨front, move, inside, given⟩
  have made : move ∈ moves := inside.subset (List.mem_append_right _ List.mem_cons_self)
  unfold GivesUp at given
  split at given
  · exact uncancelled _ made
  · exact given

/-- In every state of a run the closing has come as far as it was not given up. -/
theorem teardown_run (io : Transport σ) (config : Config) (state : σ) (moves : List (Move σ)) :
    ((establish io config state).run io moves).Teardown
      ((establish io config state).ClosingGivenUp io moves) := by
  induction moves using List.reverseRecOn with
  | nil =>
    have nothing : ¬(establish io config state).ClosingGivenUp io [] := not_happens_nil
    rw [eq_false nothing]
    exact .establish io config state
  | append_singleton moves move ih =>
    have reachable : ((establish io config state).run io moves).Reachable io config :=
      ⟨state, moves, rfl⟩
    rw [closingGivenUp_concat, run_append]
    exact ih.move reachable.sound reachable.unfinished io move

/-- Two tasks do not close a connection at once. -/
theorem Reachable.closing_unique {config : Config} (reachable : endpoint.Reachable io config)
    {other : TaskId} {stage later : Closing}
    (found : endpoint.connection.task? id = some (.closing stage))
    (also : endpoint.connection.task? other = some (.closing later)) : other = id := by
  obtain ⟨state, moves, rfl⟩ := reachable
  exact (teardown_run io config state moves).alone found also

/-- Whoever is told that a connection is closed finds it closed. -/
theorem closed_of_told {config : Config} (reachable : endpoint.Reachable io config)
    {action : Action} (told : (endpoint.step io action).1.outcome? = some .closed) :
    (endpoint.step io action).2.connection.closed := by
  have finishes := endpoint.finishes told
  generalize (endpoint.step io action).2 = after at finishes ⊢
  cases finishes with
  | atOnce free refused =>
    cases Connection.registers refused with
    | closedAgain closed => exact closed
  | @first id call task _ next after free registered advanced =>
    have closes := advance_told_closed (Connection.promises_register registered) advanced
    have closed : next.closed := by
      cases Connection.registers registered with
      | closing => rfl
      | receiving | sendingAs | sending => cases closes
    have same := closed_advance { endpoint with connection := next.keep id task } io id task
    rw [advanced] at same
    exact same.trans closed
  | @later id task _ after found advanced =>
    have closes := advance_told_closed (reachable.promises id task found) advanced
    have same := closed_advance endpoint io id task
    rw [advanced] at same
    cases task with
    | closing stage => exact same.trans (reachable.sound.closing id stage found)
    | sending | receiving => cases closes

/-- Once nobody is closing a closed connection any more, its transport has been shut down just if
the closing was not given up before that, whatever has happened on the connection. It is closed
once anybody has been told so. -/
theorem shut_down_unless_given_up (io : Transport σ) (config : Config) (state : σ)
    (moves : List (Move σ)) :
    let opened := establish io config state
    let endpoint := opened.run io moves
    (∀ front action, front ++ [.act action] <+: moves →
        ((opened.run io front).step io action).1.outcome? = some .closed →
          endpoint.connection.closed) ∧
      (endpoint.connection.closed → endpoint.Unattended →
        (endpoint.line.ShutDown ↔ ¬opened.ClosingGivenUp io moves)) := by
  intro opened endpoint
  refine ⟨fun front action inside told => ?_, (teardown_run io config state moves).done⟩
  obtain ⟨later, rfl⟩ := inside
  have reachable : (opened.run io front).Reachable io config := ⟨state, front, rfl⟩
  have closed : (opened.run io (front ++ [.act action])).connection.closed := by
    rw [run, List.foldl_append]
    exact closed_of_told reachable told
  have kept : ((opened.run io (front ++ [.act action])).run io later).connection.closed :=
    run_keeps (fun state => state.connection.closed) (fun turn => turn.closed) closed later
  rw [run, run, ← List.foldl_append] at kept
  exact kept

/-- A stream that has its first flush wait. -/
def reluctant : Script where
  flushes := [.pending false]

/-- The connection is closed while a sender waits for its flush, and then once more. -/
def closedTwice : List (Move Script) :=
  [.act (.start 1 (.send .probe)), .act (.start 2 .close), .act (.start 3 .close),
    .act (.poll 1), .act (.poll 2)]

/-- Whoever closes the connection again is told that it is closed before the transport has been shut
down, which is done once the sender has left. -/
theorem shut_down_unless_given_up_twice :
    let opened := establish Script.transport { version := .v30 } reluctant
    let early := opened.run Script.transport (closedTwice.take 2)
    (early.step Script.transport (.start 3 .close)).1.outcome? = some .closed ∧
      ¬early.line.ShutDown ∧ (opened.run Script.transport closedTwice).line.ShutDown := by
  intro opened early
  obtain ⟨told, down⟩ :=
    shut_down_unless_given_up Script.transport { version := .v30 } reluctant closedTwice
  have replied : (early.step Script.transport (.start 3 .close)).1.outcome? = some .closed := by
    decide +kernel
  have closed := told (closedTwice.take 2) (.start 3 .close) ⟨closedTwice.drop 3, rfl⟩ replied
  have unattended : (opened.run Script.transport closedTwice).Unattended := by
    have nobody : (opened.run Script.transport closedTwice).connection.tasks = [] := by
      decide +kernel
    simp [Unattended, Connection.task?, nobody]
  have kept : ¬opened.ClosingGivenUp Script.transport closedTwice :=
    not_closingGivenUp (by simp [closedTwice])
  exact ⟨replied, by decide +kernel, (down closed unattended).mpr kept⟩

/-- When whoever closes a connection first is given up during the flush, the next one is told that
it is closed, and nobody is left to do anything, but the transport has not been shut down. -/
theorem closed_without_shutdown :
    let opened := establish Script.transport { version := .v30 } reluctant
    let givenUp := opened.run Script.transport [.act (.start 1 .close), .act (.cancel 1)]
    let endpoint := givenUp.move Script.transport (.act (.start 2 .close))
    (givenUp.step Script.transport (.start 2 .close)).1.outcome? = some .closed ∧
      endpoint.connection.tasks = [] ∧ ¬endpoint.line.ShutDown := by
  decide +kernel

end Endpoint

end Cmpp
