import Cmpp.Proofs.Directions
import Cmpp.Proofs.Lifecycle
import Cmpp.Proofs.Link
import Cmpp.Proofs.Outcomes
import Mathlib

/-!
# Full duplex

Senders and receivers do not get in each other's way. Leave all receivers out of a run, and all
other tasks come to what they came to before; leave all senders out, and all receivers do
(`Endpoint.directions_apart`). Only the closing of the connection matters to both.

What one direction has to do with is a relation between endpoints (`Endpoint.AlikeOutward`,
`Endpoint.AlikeInward`). The tasks of its own errands do the same at endpoints that it relates
(`Endpoint.Regards`), and the tasks of other errands do not leave what it relates an endpoint to
(`Endpoint.Overlooks`).

Names only tell tasks apart. Which of them are for receivers is chosen beforehand, so that leaving
out a task leaves out its start, its polls and its cancellation; a run that gives every call a name
of its own fits such a choice.
-/

namespace Cmpp

variable {σ ρ ω : Type} {io : Transport σ} {inward : σ → ρ} {outward : σ → ω}

/-! ## Names -/

/-- Whether a move is one of the tasks that have an errand, given what the names stand for. -/
def Move.isFor (names : TaskId → Errand) (errand : Errand) (move : Move σ) : Bool :=
  match move.actor with
  | .task id => names id = errand
  | .owner | .world => false

/-- Whether a change from outside changes a part of the state according to this part only. -/
def Respects (view : σ → ω) (change : σ → σ) : Prop :=
  ∀ first second, view first = view second → view (change first) = view (change second)

/-- Whether a move keeps to the names and to the directions: every call has a name for calls like
it, and what changes from outside changes in each direction by itself. -/
def Move.Orderly (names : TaskId → Errand) (inward : σ → ρ) (outward : σ → ω) : Move σ → Prop
  | .act (.start id call) => call.errand = names id
  | .act _ => True
  | .change outside => Respects inward outside ∧ Respects outward outside

namespace Endpoint

variable {names : TaskId → Errand} {endpoint first second : Endpoint σ} {id other : TaskId}
  {task : Task} {move : Move σ}

/-- Every task has a name for tasks like it. -/
def Named (names : TaskId → Errand) (endpoint : Endpoint σ) : Prop :=
  ∀ id task, endpoint.connection.task? id = some task → task.errand = names id

/-- An endpoint in a state that orderly runs reach. -/
structure Orderly (names : TaskId → Errand) (endpoint : Endpoint σ) : Prop where
  /-- The queues and the tasks agree. -/
  sound : endpoint.connection.Sound
  /-- The frames that are being received are incomplete. -/
  unfinished : endpoint.Unfinished
  /-- Every task has a name for tasks like it. -/
  named : endpoint.Named names

/-- Whoever is forgotten needs no name. -/
theorem Named.forgetting (named : endpoint.Named names) (id : TaskId) :
    (endpoint.forgetting id).Named names := by
  intro other task found
  obtain ⟨-, there⟩ := Connection.task?_of_forget found
  exact named other task there

/-- Whoever is kept needs a name for tasks like it. -/
theorem Named.keeping (named : endpoint.Named names) (same : task.errand = names id) :
    (endpoint.keeping id task).Named names := by
  intro other left found
  rcases Connection.task?_of_keep found with ⟨rfl, rfl⟩ | ⟨-, there⟩
  · exact same
  · exact named other left there

/-- Whoever is polled goes on under its name. -/
theorem Named.poll (named : endpoint.Named names) (io : Transport σ)
    (found : endpoint.connection.task? id = some task) :
    (endpoint.step io (.poll id)).2.Named names := by
  rw [step_poll found]
  intro other left there
  by_cases own : other = id
  · subst own
    exact (settle_continues there).errand_eq.trans (named other task found)
  · have turn : Turn io (.task id) endpoint (settle id (endpoint.advance io id task)).2 :=
      .poll found
    have still := turn.task_other fun same => own (Actor.task.inj same).symm
    exact named other left (still ▸ there)

/-- Whoever calls under a name for calls like it goes on under this name. -/
theorem Named.start {call : Call} (named : endpoint.Named names) (io : Transport σ)
    (free : endpoint.connection.task? id = none) (same : call.errand = names id) :
    (endpoint.step io (.start id call)).2.Named names := by
  rw [step_start free]
  split
  · rename_i registered
    obtain ⟨sequence, rfl⟩ := Connection.register_refused registered
    have numbered : Named names { endpoint with
        connection := { endpoint.connection with sequence } } := named
    exact numbered.forgetting id
  · rename_i task next registered
    have registers := Connection.registers registered
    have entered : Named names { endpoint with connection := next } := by
      cases registers <;> exact named
    have kept := entered.keeping (registers.errand_eq.trans same)
    exact kept.poll io Connection.task?_keep_self

/-- An orderly move leads from orderly states to such states. -/
theorem Orderly.after (orderly : endpoint.Orderly names) (io : Transport σ)
    (fits : move.Orderly names inward outward) : (endpoint.move io move).Orderly names where
  sound := run_sound orderly.sound [move]
  unfinished := move_keeps Unfinished (fun turn => turn.unfinished) orderly.unfinished
  named := by
    have named := orderly.named
    cases move with
    | change outside => exact named
    | act action =>
      cases action with
      | start id call =>
        cases free : endpoint.connection.task? id with
        | none => exact named.start io free fits
        | some task => rwa [Endpoint.move, step_start_taken free]
      | poll id =>
        cases found : endpoint.connection.task? id with
        | none => rwa [Endpoint.move, step_poll_free found]
        | some task => exact named.poll io found
      | cancel id =>
        cases found : endpoint.connection.task? id with
        | none => rwa [Endpoint.move, step_cancel_free found]
        | some task =>
          rw [Endpoint.move, step_cancel found]
          exact named.forgetting id
      | setLifecycle lifecycle =>
        simp only [Endpoint.move, step, Connection.setLifecycle]
        split <;> exact named
      | takeSequence | stopSequence => exact named

/-- A connection is orderly when it is opened. -/
theorem orderly_establish (io : Transport σ) (config : Config) (state : σ)
    (names : TaskId → Errand) : (establish io config state).Orderly names where
  sound := Connection.sound_ofConfig ..
  unfinished := unfinished_establish io config state
  named id task found := by simp [establish, Connection.ofConfig, Connection.task?] at found

/-- An orderly move closes the connection just if it is a call to close it. -/
theorem Orderly.closed_move (orderly : endpoint.Orderly names)
    (fits : move.Orderly names inward outward) :
    (endpoint.move io move).connection.closed ↔
      endpoint.connection.closed ∨ ∃ id, move = .act (.start id .close) := by
  refine Endpoint.closed_move.trans (or_congr_right' fun opened => ?_)
  constructor
  · rintro ⟨id, rfl, -⟩
    exact ⟨id, rfl⟩
  · rintro ⟨id, rfl⟩
    refine ⟨id, rfl, ?_⟩
    -- Under the name of a call to close there is only such a call, and it would have closed it.
    cases found : endpoint.connection.task? id with
    | none => simp [free, found]
    | some task =>
      have closes : task.errand = .closing := (orderly.named id task found).trans fits.symm
      cases task with
      | sending | receiving => cases closes
      | closing stage => exact (opened (orderly.sound.closing id stage found)).elim

/-! ## What a direction has to do with -/

/-- A relation between endpoints that is all that the tasks with some errands have to do with. -/
structure Regards (io : Transport σ) (own : Errand → Prop)
    (alike : Endpoint σ → Endpoint σ → Prop) : Prop where
  /-- Endpoints stay alike when the same task is kept. -/
  keep : ∀ {first second id task}, alike first second →
    alike (first.keeping id task) (second.keeping id task)
  /-- Endpoints stay alike when the same task is forgotten. -/
  forget : ∀ {first second id}, alike first second →
    alike (first.forgetting id) (second.forgetting id)
  /-- A call is registered at both alike. -/
  register : ∀ {first second id call result next}, alike first second → own call.errand →
    first.connection.register id call = (result, next) →
    ∃ other, second.connection.register id call = (result, other) ∧
      alike { first with connection := next } { second with connection := other }
  /-- A task goes on at both alike. -/
  advance : ∀ {first second id task progress one}, alike first second → own task.errand →
    first.advance io id task = (progress, one) →
    ∃ other, second.advance io id task = (progress, other) ∧ alike one other

/-- A relation between endpoints that the tasks with some errands have nothing to do with. -/
structure Overlooks (io : Transport σ) (others : Errand → Prop)
    (alike : Endpoint σ → Endpoint σ → Prop) : Prop where
  /-- It is an equivalence. -/
  equivalence : Equivalence alike
  /-- Keeping a task makes no difference. -/
  keep : ∀ endpoint id task, alike endpoint (endpoint.keeping id task)
  /-- Forgetting a task makes none. -/
  forget : ∀ {endpoint id}, endpoint.connection.Sound →
    (∀ task, endpoint.connection.task? id = some task → others task.errand) →
    alike endpoint (endpoint.forgetting id)
  /-- Registering a call makes none. -/
  register : ∀ {endpoint id call result next}, others call.errand →
    endpoint.connection.register id call = (result, next) →
    alike endpoint { endpoint with connection := next }
  /-- Going on with a task makes none. -/
  advance : ∀ {endpoint id task}, others task.errand →
    task.Unfinished endpoint.connection.version → alike endpoint (endpoint.advance io id task).2

namespace Regards

variable {own : Errand → Prop} {alike : Endpoint σ → Endpoint σ → Prop}

/-- A poll comes to the same at endpoints that are alike, and leaves them alike. -/
theorem poll (regards : Regards io own alike) (same : alike first second) (errand : own task.errand)
    (found : first.connection.task? id = some task)
    (also : second.connection.task? id = some task) :
    (first.step io (.poll id)).1 = (second.step io (.poll id)).1 ∧
      alike (first.step io (.poll id)).2 (second.step io (.poll id)).2 ∧
      (first.step io (.poll id)).2.connection.task? id =
        (second.step io (.poll id)).2.connection.task? id := by
  rw [step_poll found, step_poll also]
  cases advanced : first.advance io id task with
  | mk progress one =>
    obtain ⟨other, lastly, after⟩ := regards.advance same errand advanced
    rw [lastly]
    cases progress with
    | finished outcome =>
      refine ⟨rfl, regards.forget after, ?_⟩
      simp only [settle, Connection.task?_forget_self]
    | suspended woken left =>
      refine ⟨rfl, regards.keep after, ?_⟩
      simp only [settle, Connection.task?_keep_self]

/-- A call comes to the same at endpoints that are alike, and leaves them alike. -/
theorem start {call : Call} (regards : Regards io own alike) (same : alike first second)
    (errand : own call.errand) (free : first.connection.task? id = none)
    (also : second.connection.task? id = none) :
    (first.step io (.start id call)).1 = (second.step io (.start id call)).1 ∧
      alike (first.step io (.start id call)).2 (second.step io (.start id call)).2 ∧
      (first.step io (.start id call)).2.connection.task? id =
        (second.step io (.start id call)).2.connection.task? id := by
  rw [step_start free, step_start also]
  cases registered : first.connection.register id call with
  | mk result next =>
    obtain ⟨other, alsoRegistered, after⟩ := regards.register same errand registered
    rw [alsoRegistered]
    cases result with
    | error outcome =>
      refine ⟨rfl, regards.forget after, ?_⟩
      simp only [Connection.task?_forget_self]
    | ok task =>
      have kept : own task.errand := (Connection.registers registered).errand_eq ▸ errand
      exact regards.poll (regards.keep after) kept Connection.task?_keep_self
        Connection.task?_keep_self

/-- What a task does comes to the same at endpoints that are alike, and leaves them alike. -/
theorem act (regards : Regards io own alike) (same : alike first second) {action : Action}
    (actor : (Move.act action : Move σ).actor = .task id)
    (calls : ∀ call, action = .start id call → own call.errand)
    (errand : ∀ task, first.connection.task? id = some task → own task.errand)
    (tasks : first.connection.task? id = second.connection.task? id) :
    (first.step io action).1 = (second.step io action).1 ∧
      alike (first.step io action).2 (second.step io action).2 ∧
      (first.step io action).2.connection.task? id =
        (second.step io action).2.connection.task? id := by
  cases action with
  | start name call =>
    cases actor
    cases found : first.connection.task? id with
    | none => exact regards.start same (calls call rfl) found (tasks ▸ found)
    | some task =>
      rw [step_start_taken found, step_start_taken (tasks ▸ found)]
      exact ⟨rfl, same, tasks⟩
  | poll name =>
    cases actor
    cases found : first.connection.task? id with
    | none =>
      rw [step_poll_free found, step_poll_free (tasks ▸ found)]
      exact ⟨rfl, same, tasks⟩
    | some task => exact regards.poll same (errand task found) found (tasks ▸ found)
  | cancel name =>
    cases actor
    cases found : first.connection.task? id with
    | none =>
      rw [step_cancel_free found, step_cancel_free (tasks ▸ found)]
      exact ⟨rfl, same, tasks⟩
    | some task =>
      rw [step_cancel found, step_cancel (tasks ▸ found)]
      refine ⟨rfl, regards.forget same, ?_⟩
      simp only [forgetting, Connection.task?_forget_self]
  | setLifecycle | takeSequence | stopSequence => cases actor

end Regards

namespace Overlooks

variable {others : Errand → Prop} {alike : Endpoint σ → Endpoint σ → Prop}

/-- A poll makes no difference. -/
theorem poll (overlooks : Overlooks io others alike) (sound : endpoint.connection.Sound)
    (errand : others task.errand) (unfinished : task.Unfinished endpoint.connection.version)
    (found : endpoint.connection.task? id = some task) :
    alike endpoint (endpoint.step io (.poll id)).2 := by
  have advanced : alike endpoint (endpoint.advance io id task).2 :=
    overlooks.advance errand unfinished
  have still := advance_sound sound io id task
  have there := task?_advance endpoint io id id task
  rw [step_poll found]
  cases goes : endpoint.advance io id task with
  | mk progress after =>
    rw [goes] at advanced still there
    refine overlooks.equivalence.trans advanced ?_
    cases progress with
    | finished outcome =>
      refine overlooks.forget still fun other kept => ?_
      rw [there, found] at kept
      exact Option.some.inj kept ▸ errand
    | suspended woken left => exact overlooks.keep after id left

/-- A call makes no difference. -/
theorem start {call : Call} (overlooks : Overlooks io others alike)
    (sound : endpoint.connection.Sound) (unfinished : endpoint.Unfinished)
    (errand : others call.errand) (free : endpoint.connection.task? id = none) :
    alike endpoint (endpoint.step io (.start id call)).2 := by
  rw [step_start free]
  cases registered : endpoint.connection.register id call with
  | mk result next =>
    have entered : alike endpoint { endpoint with connection := next } :=
      overlooks.register errand registered
    refine overlooks.equivalence.trans entered ?_
    cases result with
    | error outcome =>
      obtain ⟨sequence, rfl⟩ := Connection.register_refused registered
      have still : Connection.Sound { endpoint.connection with sequence } :=
        sound.congr rfl rfl rfl rfl
      refine overlooks.forget still fun task kept => ?_
      exact ((Option.some_ne_none task).symm.elim (free.symm.trans kept))
    | ok task =>
      have turn : Turn io (.task id) endpoint
          { endpoint with connection := next.keep id task } := .enter free registered
      have kept : (next.keep id task).task? id = some task := Connection.task?_keep_self
      have same := (Connection.registers registered).errand_eq
      refine overlooks.equivalence.trans (overlooks.keep _ id task) ?_
      exact overlooks.poll (sound.register free registered) (same ▸ errand)
        (turn.unfinished unfinished id task kept) kept

/-- What a task does makes no difference. -/
theorem act (overlooks : Overlooks io others alike) (sound : endpoint.connection.Sound)
    (unfinished : endpoint.Unfinished) {action : Action}
    (actor : (Move.act action : Move σ).actor = .task id)
    (calls : ∀ call, action = .start id call → others call.errand)
    (errand : ∀ task, endpoint.connection.task? id = some task → others task.errand) :
    alike endpoint (endpoint.step io action).2 := by
  cases action with
  | start name call =>
    cases actor
    cases found : endpoint.connection.task? id with
    | none => exact overlooks.start sound unfinished (calls call rfl) found
    | some task =>
      rw [step_start_taken found]
      exact overlooks.equivalence.refl endpoint
  | poll name =>
    cases actor
    cases found : endpoint.connection.task? id with
    | none =>
      rw [step_poll_free found]
      exact overlooks.equivalence.refl endpoint
    | some task =>
      exact overlooks.poll sound (errand task found) (unfinished id task found) found
  | cancel name =>
    cases actor
    cases found : endpoint.connection.task? id with
    | none =>
      rw [step_cancel_free found]
      exact overlooks.equivalence.refl endpoint
    | some task =>
      rw [step_cancel found]
      exact overlooks.forget sound errand
  | setLifecycle | takeSequence | stopSequence => cases actor

end Overlooks

/-! ## The two directions -/

/-- A call that is not to receive is registered whatever receivers have to do with. -/
theorem register_outward (connection : Connection) (id : TaskId) {call : Call}
    (other : call.errand ≠ .receiving) (readLock : Lock) (readBuffer : ReadBuffer)
    (tasks : List (TaskId × Task)) :
    { connection with readLock, readBuffer, tasks }.register id call =
      ((connection.register id call).1,
        { (connection.register id call).2 with readLock, readBuffer, tasks }) := by
  cases call with
  | receive => exact (other rfl).elim
  | close | sendAs | send =>
    simp only [Connection.register, Connection.registerFrame]
    repeat' split
    all_goals rfl

/-- What goes out is all that senders and whoever closes the connection have to do with. -/
theorem outward_regards (splits : io.Splits inward outward) :
    Regards io (· ≠ .receiving) (AlikeOutward outward) where
  keep := by
    rintro first second id task ⟨⟨readLock, readBuffer, tasks, same⟩, line⟩
    refine ⟨⟨readLock, readBuffer, (second.connection.keep id task).tasks, ?_⟩, line⟩
    rw [keeping, same]
    rfl
  forget := by
    rintro first second id ⟨⟨readLock, readBuffer, tasks, same⟩, line⟩
    refine ⟨⟨readLock.leave id, readBuffer, (second.connection.forget id).tasks, ?_⟩, line⟩
    rw [forgetting, same]
    rfl
  register := by
    rintro first second id call result next ⟨⟨readLock, readBuffer, tasks, same⟩, line⟩ errand
      registered
    have also := register_outward first.connection id errand readLock readBuffer tasks
    rw [← same, registered] at also
    exact ⟨_, also, ⟨readLock, readBuffer, tasks, rfl⟩, line⟩
  advance alike errand advanced := advance_outward splits alike errand advanced

/-- Receivers have nothing to do with what goes out. -/
theorem outward_overlooks (splits : io.Splits inward outward) :
    Overlooks io (· = .receiving) (AlikeOutward outward) where
  equivalence := alikeOutward_equivalence outward
  keep endpoint id task := ⟨⟨_, _, _, rfl⟩, .refl endpoint.line⟩
  forget := by
    intro endpoint id sound receives
    have absent : id ∉ endpoint.connection.writeLock.queue := by
      intro inside
      obtain ⟨task, found, writes⟩ := (sound.writers.mem_iff id).mp inside
      have errand := receives task found
      cases task with
      | receiving => exact Bool.false_ne_true writes
      | sending | closing => cases errand
    have kept := Connection.writeLock_forget absent
    refine ⟨⟨(endpoint.connection.forget id).readLock, endpoint.connection.readBuffer,
      (endpoint.connection.forget id).tasks, ?_⟩, .refl endpoint.line⟩
    rw [← kept]
    rfl
  register := by
    intro endpoint id call result next errand registered
    cases Connection.registers registered with
    | receiving | closed => exact ⟨⟨_, _, _, rfl⟩, .refl endpoint.line⟩
    | _ => cases errand
  advance := by
    intro endpoint id task errand unfinished
    have calls := advance_calls endpoint io id unfinished
    rw [errand] at calls
    have buffer : (endpoint.advance io id task).2.connection.writeBuffer =
        endpoint.connection.writeBuffer := by
      refine (advance_idle endpoint io id ?_).2
      rintro outcome sequenceId frame rest rfl
      cases errand
    have same : endpoint.connection.SameOutward (endpoint.advance io id task).2.connection := by
      obtain ⟨readBuffer, writeBuffer, line, changed⟩ := advance_frame endpoint io id task
      rw [changed] at buffer ⊢
      exact ⟨_, readBuffer, _, by rw [← buffer]⟩
    exact ⟨same, calls.alike_outward splits⟩

/-- Two endpoints are alike for their receivers: in what comes in, and in whether they are
closed. -/
def AlikeForReceivers (inward : σ → ρ) (first second : Endpoint σ) : Prop :=
  first.AlikeInward inward second ∧ first.connection.closed = second.connection.closed

/-- What comes in, and whether the connection is closed, is all that receivers have to do with. -/
theorem inward_regards (splits : io.Splits inward outward) :
    Regards io (· = .receiving) (AlikeForReceivers inward) where
  keep := by
    rintro first second id task ⟨⟨same, line⟩, closes⟩
    exact ⟨⟨⟨same.version, same.readLock, same.readBuffer⟩, line⟩, closes⟩
  forget := by
    rintro first second id ⟨⟨same, line⟩, closes⟩
    have left := congrArg (·.leave id) same.readLock
    exact ⟨⟨⟨same.version, left, same.readBuffer⟩, line⟩, closes⟩
  register := by
    rintro first second id call result next ⟨⟨same, line⟩, closes⟩ errand registered
    cases call with
    | close | sendAs | send => cases errand
    | receive =>
      simp only [Connection.register, ← closes] at registered ⊢
      split at registered <;> rename_i closed <;> cases registered
      · rw [if_pos closed]
        exact ⟨_, rfl, ⟨same, line⟩, closes⟩
      · rw [if_neg closed]
        have joined := congrArg (·.join id) same.readLock
        exact ⟨_, rfl, ⟨⟨same.version, joined, same.readBuffer⟩, line⟩, rfl⟩
  advance := by
    rintro first second id task progress one ⟨alike, closes⟩ errand advanced
    obtain ⟨other, also, after⟩ := advance_inward splits alike closes errand advanced
    refine ⟨other, also, after, ?_⟩
    have before := closed_advance first io id task
    have behind := closed_advance second io id task
    rw [advanced] at before
    rw [also] at behind
    exact before.trans (closes.trans behind.symm)

/-- Senders and whoever closes the connection have nothing to do with what comes in. -/
theorem inward_overlooks (splits : io.Splits inward outward) :
    Overlooks io (· ≠ .receiving) (AlikeInward inward) where
  equivalence := alikeInward_equivalence inward
  keep endpoint id task := ⟨⟨rfl, rfl, rfl⟩, .refl endpoint.line⟩
  forget := by
    intro endpoint id sound others
    have absent : id ∉ endpoint.connection.readLock.queue := by
      intro inside
      obtain ⟨task, found, reads⟩ := (sound.readers.mem_iff id).mp inside
      have errand := others task found
      cases task with
      | receiving => exact errand rfl
      | sending | closing => exact reads rfl
    exact ⟨⟨rfl, (Connection.readLock_forget absent).symm, rfl⟩, .refl endpoint.line⟩
  register := by
    intro endpoint id call result next errand registered
    cases Connection.registers registered with
    | receiving => exact (errand rfl).elim
    | _ => exact ⟨⟨rfl, rfl, rfl⟩, .refl endpoint.line⟩
  advance := by
    intro endpoint id task errand unfinished
    have calls := advance_calls endpoint io id unfinished
    have buffer : (endpoint.advance io id task).2.connection.readBuffer =
        endpoint.connection.readBuffer := by
      refine advance_readBuffer io id ?_
      rintro assembly rfl
      exact errand rfl
    have same : endpoint.connection.SameInward (endpoint.advance io id task).2.connection := by
      obtain ⟨readBuffer, writeBuffer, line, changed⟩ := advance_frame endpoint io id task
      rw [changed] at buffer ⊢
      exact ⟨rfl, rfl, buffer.symm⟩
    exact ⟨same, calls.alike_inward splits errand⟩

/-! ## Runs -/

/-- A move leaves alone what is left of a task that does not make it. -/
theorem move_task_other (io : Transport σ) (other : move.actor ≠ .task id) :
    (endpoint.move io move).connection.task? id = endpoint.connection.task? id :=
  move_keeps (fun state => state.connection.task? id = endpoint.connection.task? id)
    (fun turn same => (turn.task_other other).trans same) rfl

/-- Two endpoints in orderly states that are alike, and in which the same is left of the tasks with
some errands. -/
structure Parallel (names : TaskId → Errand) (own : Errand → Prop)
    (alike : Endpoint σ → Endpoint σ → Prop) (first second : Endpoint σ) : Prop where
  /-- They are alike. -/
  alike : alike first second
  /-- The same is left of the tasks. -/
  tasks : ∀ id, own (names id) → first.connection.task? id = second.connection.task? id
  /-- The first one is in an orderly state. -/
  first : first.Orderly names
  /-- The second one is too. -/
  second : second.Orderly names

/-- A move is one of a task with some errand when it is made under a name for it. -/
theorem isFor_iff {errand : Errand} :
    move.isFor names errand ↔ ∃ id, move.actor = .task id ∧ names id = errand := by
  unfold Move.isFor
  cases move.actor <;> simp

/-- A call that a task makes in an orderly run has the errand that its name stands for. -/
theorem errand_of_orderly {action : Action} {call : Call}
    (fits : (Move.act action).Orderly names inward outward)
    (actor : (Move.act action : Move σ).actor = .task id) (calls : action = .start id call) :
    call.errand = names id := by
  subst calls
  exact fits

namespace Parallel

variable {own : Errand → Prop} {alike : Endpoint σ → Endpoint σ → Prop}

/-- What a task does that both have to do with comes to the same at both. -/
theorem act (parallel : Parallel names own alike first second) (regards : Regards io own alike)
    (fits : move.Orderly names inward outward) (actor : move.actor = .task id)
    (owns : own (names id)) :
    first.reply? io move = second.reply? io move ∧
      Parallel names own alike (first.move io move) (second.move io move) := by
  cases move with
  | change outside => cases actor
  | act action =>
    obtain ⟨same, after, tasks⟩ := regards.act parallel.alike actor
      (fun call calls => errand_of_orderly fits actor calls ▸ owns)
      (fun task found => parallel.first.named id task found ▸ owns) (parallel.tasks id owns)
    refine ⟨congrArg some same, after, fun other owned => ?_, parallel.first.after io fits,
      parallel.second.after io fits⟩
    by_cases self : other = id
    · exact self ▸ tasks
    · have different : (Move.act action : Move σ).actor ≠ .task other := by
        rw [actor]
        exact fun equal => self (Actor.task.inj equal).symm
      rw [move_task_other io different, move_task_other io different]
      exact parallel.tasks other owned

/-- What somebody else does at both leaves the tasks the same. -/
theorem both (parallel : Parallel names own alike first second)
    (fits : move.Orderly names inward outward)
    (others : ∀ id, move.actor = .task id → ¬own (names id))
    (after : alike (first.move io move) (second.move io move)) :
    Parallel names own alike (first.move io move) (second.move io move) := by
  refine ⟨after, fun id owned => ?_, parallel.first.after io fits, parallel.second.after io fits⟩
  have different : move.actor ≠ .task id := fun actor => others id actor owned
  rw [move_task_other io different, move_task_other io different]
  exact parallel.tasks id owned

/-- What somebody else does at the first one only leaves the tasks the same. -/
theorem alone (parallel : Parallel names own alike first second)
    (fits : move.Orderly names inward outward)
    (others : ∀ id, move.actor = .task id → ¬own (names id))
    (after : alike (first.move io move) second) :
    Parallel names own alike (first.move io move) second := by
  refine ⟨after, fun id owned => ?_, parallel.first.after io fits, parallel.second⟩
  have different : move.actor ≠ .task id := fun actor => others id actor owned
  rw [move_task_other io different]
  exact parallel.tasks id owned

end Parallel

/-- What a task does that others have nothing to do with leaves an endpoint as it is for them. -/
theorem Overlooks.unmoved {others : Errand → Prop} {alike : Endpoint σ → Endpoint σ → Prop}
    (overlooks : Overlooks io others alike) (orderly : endpoint.Orderly names)
    (fits : move.Orderly names inward outward) (actor : move.actor = .task id)
    (errand : others (names id)) : alike endpoint (endpoint.move io move) := by
  cases move with
  | change outside => cases actor
  | act action =>
    exact overlooks.act orderly.sound orderly.unfinished actor
      (fun call calls => errand_of_orderly fits actor calls ▸ errand)
      fun task found => orderly.named id task found ▸ errand

/-- What the owner of the connection does comes to the same at endpoints that are alike in what goes
out, and leaves them alike. -/
theorem owner_outward (io : Transport σ) (alike : first.AlikeOutward outward second)
    {action : Action}
    (actor : (Move.act action : Move σ).actor = .owner) :
    (first.step io action).1 = (second.step io action).1 ∧
      (first.step io action).2.AlikeOutward outward (second.step io action).2 := by
  obtain ⟨⟨readLock, readBuffer, tasks, same⟩, line⟩ := alike
  cases action with
  | setLifecycle lifecycle =>
    simp only [step, Connection.setLifecycle, same]
    split <;> exact ⟨trivial, ⟨readLock, readBuffer, tasks, rfl⟩, line⟩
  | takeSequence | stopSequence =>
    simp only [step, same]
    exact ⟨trivial, ⟨readLock, readBuffer, tasks, rfl⟩, line⟩
  | start | poll | cancel => cases actor

/-- What the owner of the connection does leaves what comes in as it is. -/
theorem owner_inward (endpoint : Endpoint σ) (io : Transport σ) {action : Action}
    (actor : (Move.act action : Move σ).actor = .owner) :
    endpoint.AlikeInward inward (endpoint.step io action).2 := by
  have line : Line.Alike inward Event.isInward endpoint.line endpoint.line := .refl endpoint.line
  cases action with
  | setLifecycle lifecycle =>
    simp only [step, Connection.setLifecycle]
    split <;> exact ⟨⟨rfl, rfl, rfl⟩, line⟩
  | takeSequence | stopSequence => exact ⟨⟨rfl, rfl, rfl⟩, line⟩
  | start | poll | cancel => cases actor

/-- Who is told what goes out, and what goes out, is the same after a move that is not one of a
receiver. -/
theorem outward_made (splits : io.Splits inward outward)
    (parallel : Parallel names (· ≠ .receiving) (AlikeOutward outward) first second)
    (fits : move.Orderly names inward outward) (other : ¬move.isFor names .receiving) :
    first.reply? io move = second.reply? io move ∧
      Parallel names (· ≠ .receiving) (AlikeOutward outward) (first.move io move)
        (second.move io move) := by
  cases move with
  | change outside =>
    have line := parallel.alike.line
    have after : AlikeOutward outward (first.move io (.change outside))
        (second.move io (.change outside)) :=
      ⟨parallel.alike.connection, fits.2 _ _ line.state, line.events⟩
    exact ⟨rfl, parallel.both fits (fun id actor => by cases actor) after⟩
  | act action =>
    cases actor : (Move.act action : Move σ).actor with
    | task id =>
      refine parallel.act (outward_regards splits) fits actor fun same => other ?_
      exact isFor_iff.mpr ⟨id, actor, same⟩
    | owner =>
      obtain ⟨same, after⟩ := owner_outward io parallel.alike actor
      refine ⟨congrArg some same, parallel.both fits (fun id also => ?_) after⟩
      rw [actor] at also
      cases also
    | world => cases action <;> cases actor

/-- Leaving the receivers out of a run leaves everything alike in what goes out. -/
theorem outward_shadows (splits : io.Splits inward outward) (names : TaskId → Errand) :
    Shadows io (·.Orderly names inward outward) (!·.isFor names .receiving)
      (!·.isFor names .receiving)
      (Parallel names (· ≠ .receiving) (AlikeOutward outward)) where
  omitted := by
    intro first second move parallel fits dropped
    obtain ⟨id, actor, receives⟩ : ∃ id, move.actor = .task id ∧ names id = .receiving :=
      isFor_iff.mp (by simpa using dropped)
    have equivalence := alikeOutward_equivalence outward
    have still := (outward_overlooks splits).unmoved parallel.first fits actor receives
    refine parallel.alone fits (fun other also => ?_)
      (equivalence.trans (equivalence.symm still) parallel.alike)
    cases actor.symm.trans also
    exact fun sends => sends receives
  made parallel fits kept := (outward_made splits parallel fits (by simpa using kept)).2
  told parallel fits kept _ := (outward_made splits parallel fits (by simpa using kept)).1
  present kept := kept

/-- An action that is not one of a receiver leaves what comes in as it is. -/
theorem inward_unmoved (splits : io.Splits inward outward) (orderly : endpoint.Orderly names)
    {action : Action} (fits : (Move.act action).Orderly names inward outward)
    (other : ¬(Move.act action : Move σ).isFor names .receiving) :
    endpoint.AlikeInward inward (endpoint.move io (.act action)) := by
  cases actor : (Move.act action : Move σ).actor with
  | task id =>
    refine (inward_overlooks splits).unmoved orderly fits actor fun receives => other ?_
    exact isFor_iff.mpr ⟨id, actor, receives⟩
  | owner => exact owner_inward endpoint io actor
  | world => cases action <;> cases actor

/-- Endpoints are alike for their receivers after the same move, and it comes to the same if a
receiver makes it. -/
theorem inward_made (splits : io.Splits inward outward)
    (parallel : Parallel names (· = .receiving) (AlikeForReceivers inward) first second)
    (fits : move.Orderly names inward outward) :
    (move.isFor names .receiving → first.reply? io move = second.reply? io move) ∧
      Parallel names (· = .receiving) (AlikeForReceivers inward) (first.move io move)
        (second.move io move) := by
  by_cases receives : move.isFor names .receiving
  · obtain ⟨id, actor, errand⟩ := isFor_iff.mp receives
    obtain ⟨same, after⟩ := parallel.act (inward_regards splits) fits actor errand
    exact ⟨fun _ => same, after⟩
  · obtain ⟨alike, closed⟩ := parallel.alike
    have closes : (first.move io move).connection.closed =
        (second.move io move).connection.closed := by
      have one : (first.move io move).connection.closed ↔ _ := parallel.first.closed_move fits
      have two : (second.move io move).connection.closed ↔ _ := parallel.second.closed_move fits
      rw [Bool.eq_iff_iff, one, two, closed]
    have after : (first.move io move).AlikeInward inward (second.move io move) := by
      cases move with
      | change outside =>
        exact ⟨alike.connection, fits.1 _ _ alike.line.state, alike.line.events⟩
      | act action =>
        have equivalence := alikeInward_equivalence inward
        have one := inward_unmoved splits parallel.first fits receives
        have two := inward_unmoved splits parallel.second fits receives
        exact equivalence.trans (equivalence.symm one) (equivalence.trans alike two)
    refine ⟨fun also => (receives also).elim, parallel.both fits (fun id actor errand => ?_)
      ⟨after, closes⟩⟩
    exact receives (isFor_iff.mpr ⟨id, actor, errand⟩)

/-- Leaving the senders out of a run leaves everything alike for the receivers. -/
theorem inward_shadows (splits : io.Splits inward outward) (names : TaskId → Errand) :
    Shadows io (·.Orderly names inward outward) (!·.isFor names .sending)
      (·.isFor names .receiving)
      (Parallel names (· = .receiving) (AlikeForReceivers inward)) where
  omitted := by
    intro first second move parallel fits dropped
    obtain ⟨id, actor, sends⟩ : ∃ id, move.actor = .task id ∧ names id = .sending :=
      isFor_iff.mp (by simpa using dropped)
    have equivalence := alikeInward_equivalence inward
    have still := (inward_overlooks splits).unmoved parallel.first fits actor (sends ▸ by decide)
    obtain ⟨alike, closed⟩ := parallel.alike
    have closes : (first.move io move).connection.closed = first.connection.closed := by
      rw [Bool.eq_iff_iff, parallel.first.closed_move fits]
      refine or_iff_left ?_
      rintro ⟨name, rfl⟩
      cases actor
      have closing : Errand.closing = names id := fits
      rw [sends] at closing
      cases closing
    refine parallel.alone fits (fun other also receives => ?_)
      ⟨equivalence.trans (equivalence.symm still) alike, closes.trans closed⟩
    cases actor.symm.trans also
    rw [sends] at receives
    cases receives
  made parallel fits _ := (inward_made splits parallel fits).2
  told parallel fits _ watched := (inward_made splits parallel fits).1 watched
  present := by
    intro move watched
    obtain ⟨id, actor, receives⟩ := isFor_iff.mp watched
    rw [Bool.not_eq_true', Bool.eq_false_iff]
    intro sending
    obtain ⟨other, also, sends⟩ := isFor_iff.mp sending
    cases actor.symm.trans also
    rw [receives] at sends
    cases sends

/-- On a transport whose two directions have nothing to do with each other, leaving out of a run all
that receivers do changes nothing of what all others are told, nor the bytes that the transport has
accepted, the lifecycle label, whether the connection is closed, or the sequence numbers; and
leaving out all that senders do changes nothing of what receivers are told, nor the bytes that the
transport has delivered, or whether the connection is closed. -/
theorem directions_apart (splits : io.Splits inward outward) (config : Config) (state : σ)
    {moves : List (Move σ)} (orderly : ∀ move ∈ moves, move.Orderly names inward outward) :
    let opened := establish io config state
    let full := opened.run io moves
    let unreceived := moves.filter (!·.isFor names .receiving)
    let unsent := moves.filter (!·.isFor names .sending)
    (opened.replies io (!·.isFor names .receiving) moves =
        opened.replies io (!·.isFor names .receiving) unreceived ∧
      full.line.accepted = (opened.run io unreceived).line.accepted ∧
      full.status = (opened.run io unreceived).status) ∧
    opened.replies io (·.isFor names .receiving) moves =
        opened.replies io (·.isFor names .receiving) unsent ∧
      full.line.delivered = (opened.run io unsent).line.delivered ∧
      full.connection.closed = (opened.run io unsent).connection.closed := by
  intro opened full unreceived unsent
  have begun : opened.Orderly names := orderly_establish io config state names
  have sending : Parallel names (· ≠ .receiving) (AlikeOutward outward) opened opened :=
    ⟨(alikeOutward_equivalence outward).refl opened, fun _ _ => rfl, begun, begun⟩
  have receiving : Parallel names (· = .receiving) (AlikeForReceivers inward) opened opened :=
    ⟨⟨(alikeInward_equivalence inward).refl opened, rfl⟩, fun _ _ => rfl, begun, begun⟩
  obtain ⟨out, told⟩ := (outward_shadows splits names).run sending orderly
  obtain ⟨into, received⟩ := (inward_shadows splits names).run receiving orderly
  have status : full.status = (opened.run io unreceived).status := by
    obtain ⟨readLock, readBuffer, tasks, same⟩ := out.alike.connection
    rw [Endpoint.status, Endpoint.status, same]
    rfl
  exact ⟨⟨told, out.alike.line.accepted, status⟩, received, into.alike.1.line.delivered,
    into.alike.2⟩

end Endpoint

namespace Script

/-- What reads follow. -/
def incoming (script : Script) : List (Cue Bytes) × Bool := (script.reads, script.readsWait)

/-- What writes, flushes and shutdowns follow. -/
def outgoing (script : Script) : (List (Cue Nat) × Bool) × List (Cue Unit) × List (Cue Unit) :=
  ((script.writes, script.writesWait), script.flushes, script.shutdowns)

/-- The directions of a scripted stream have nothing to do with each other. -/
theorem splits : transport.Splits incoming outgoing where
  read limit := by
    constructor
    · rintro ⟨⟩ ⟨⟩ same
      cases same
      simp only [transport, read]
      repeat' split
      all_goals exact ⟨rfl, rfl⟩
    · intro script
      simp only [transport, read]
      repeat' split
      all_goals rfl
  write data := by
    constructor
    · rintro ⟨⟩ ⟨⟩ same
      cases same
      simp only [transport, write]
      repeat' split
      all_goals exact ⟨rfl, rfl⟩
    · intro script
      simp only [transport, write]
      repeat' split
      all_goals rfl
  flush := by
    constructor
    · rintro ⟨⟩ ⟨⟩ same
      cases same
      simp only [transport, flush]
      repeat' split
      all_goals exact ⟨rfl, rfl⟩
    · intro script
      simp only [transport, flush]
      repeat' split
      all_goals rfl
  shutdown := by
    constructor
    · rintro ⟨⟩ ⟨⟩ same
      cases same
      simp only [transport, shutdown]
      repeat' split
      all_goals exact ⟨rfl, rfl⟩
    · intro script
      simp only [transport, shutdown]
      repeat' split
      all_goals rfl

end Script

namespace Endpoint

/-- The first task sends, the next two receive, and all others close the connection. -/
def roles : TaskId → Errand
  | 1 => .sending
  | 2 | 3 => .receiving
  | _ => .closing

/-- A stream that delivers a probe in two pieces and takes one in two. -/
def talkative : Script where
  reads := [.answer [0, 0, 0, 12, 0], .pending false, .answer [0, 0, 8, 0, 0, 0, 7]]
  writes := [.answer 5, .pending false]
  flushes := [.pending false]
  readsWait := true

/-- A sender and a receiver are polled in turn; then the connection is closed while another receiver
waits. -/
def conversation : List (Move Script) :=
  [.act (.start 1 (.send .probe)), .act (.start 2 .receive), .act (.poll 1), .act (.poll 2),
    .act (.poll 1), .act (.start 3 .receive), .act (.start 4 .close), .act (.poll 3)]

/-- Both are told the same without the other. -/
theorem directions_apart_conversation :
    let opened := establish Script.transport { version := .v30 } talkative
    (opened.replies Script.transport (!·.isFor roles .receiving)
        (conversation.filter (!·.isFor roles .receiving))).map (·.bind Reply.outcome?) =
      [none, none, some (.numbered 0), some .closed] ∧
    (opened.replies Script.transport (·.isFor roles .receiving)
        (conversation.filter (!·.isFor roles .sending))).map (·.bind Reply.outcome?) =
      [none, some (.received ⟨.activeTest, 7, ()⟩), none,
        some (.failed .connectionClosed)] := by
  intro opened
  have orderly : ∀ move ∈ conversation, move.Orderly roles Script.incoming Script.outgoing := by
    simp only [conversation, List.mem_cons, List.not_mem_nil, or_false, forall_eq_or_imp, forall_eq]
    exact ⟨rfl, rfl, trivial, trivial, trivial, rfl, rfl, trivial⟩
  obtain ⟨⟨told, -⟩, received, -⟩ :=
    directions_apart Script.splits { version := .v30 } talkative orderly
  rw [← told, ← received]
  exact ⟨by cbv, by cbv⟩

end Endpoint

end Cmpp
