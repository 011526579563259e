import Cmpp.Proofs.Comparison
import Mathlib.Data.List.Induction

/-!
# The life of a connection

The owner of a connection sees of its life a label, whether it has been closed, and the sequence
numbers. These are its status, and what an action makes of it depends on nothing else but the names
in use (`Endpoint.status_step`). So what holds of a run's states is shown on the status alone: a
closed connection is labelled so and gives out no numbers (`Status.Coherent`), and none of this is
ever undone (`Status.Precedes`).

Nothing else looks at the label: but for the label, an action that does not set it does the same
whatever the label is (`Endpoint.step_relabelled`).
-/

namespace Cmpp

variable {σ : Type} {io : Transport σ}

/-! ## Status -/

/-- What the owner of a connection sees of its life. -/
structure Status where
  /-- The lifecycle label. -/
  lifecycle : Lifecycle
  /-- Whether closing has begun. -/
  closed : Bool
  /-- The source of sequence numbers. -/
  sequence : Sequence

/-- What the owner of a connection sees of its life. -/
def Connection.status (connection : Connection) : Status :=
  ⟨connection.lifecycle, connection.closed, connection.sequence⟩

/-- The label that an action sets, if it sets one. -/
def Action.label? : Action → Option Lifecycle
  | .setLifecycle lifecycle => some lifecycle
  | .start .. | .poll _ | .cancel _ | .takeSequence | .stopSequence => none

namespace Status

/-- A call is made. -/
def call (status : Status) : Call → Status
  | .close => if status.closed then status else ⟨.closed, true, status.sequence.stop⟩
  | .send _ =>
    if status.closed then status else { status with sequence := status.sequence.take.2 }
  | .sendAs .. | .receive => status

/-- An action is done, given which names are free. -/
def act (status : Status) (free : TaskId → Bool) : Action → Status
  | .start id call => if free id then status.call call else status
  | .setLifecycle lifecycle =>
    if status.lifecycle = .closed then status else { status with lifecycle }
  | .takeSequence => { status with sequence := status.sequence.take.2 }
  | .stopSequence => { status with sequence := status.sequence.stop }
  | .poll _ | .cancel _ => status

/-- A closed connection is labelled so and gives out no more numbers. -/
structure Coherent (status : Status) : Prop where
  /-- The label says that the connection is closed. -/
  label : status.closed → status.lifecycle = .closed
  /-- No more numbers are given out. -/
  stopped : status.closed → status.sequence.stopped

/-- What is not undone from one status to a later one. -/
structure Precedes (before after : Status) : Prop where
  /-- The connection stays closed. -/
  closed : before.closed → after.closed
  /-- The source of numbers stays stopped. -/
  stopped : before.sequence.stopped → after.sequence.stopped
  /-- The label goes on saying that the connection is closed. -/
  label : before.lifecycle = .closed → after.lifecycle = .closed

variable {status : Status} {free : TaskId → Bool} {action : Action}

/-- Taking a number stops no source and starts none again. -/
theorem stopped_take (sequence : Sequence) : sequence.take.2.stopped = sequence.stopped := by
  unfold Sequence.take
  split <;> rfl

/-- An action undoes nothing. -/
theorem precedes_act (status : Status) (free : TaskId → Bool) (action : Action) :
    status.Precedes (status.act free action) := by
  cases action with
  | start name call =>
    cases call with
    | close | send =>
      simp only [act, Status.call]
      repeat' split
      all_goals exact ⟨by simp_all, by simp_all [stopped_take, Sequence.stop], by simp_all⟩
    | sendAs | receive =>
      simp only [act, Status.call, ite_self]
      exact ⟨id, id, id⟩
  | setLifecycle lifecycle =>
    simp only [act]
    split
    · exact ⟨id, id, id⟩
    · rename_i other
      exact ⟨id, id, fun label => (other label).elim⟩
  | takeSequence => exact ⟨id, (stopped_take status.sequence).trans, id⟩
  | stopSequence => exact ⟨id, fun _ => rfl, id⟩
  | poll | cancel => exact ⟨id, id, id⟩

/-- An action closes a connection if it is the call to close it, and not else. -/
theorem closed_act : (status.act free action).closed ↔
    status.closed ∨ ∃ id, action = .start id .close ∧ free id := by
  cases action with
  | start id call =>
    cases call <;> simp only [act, Status.call] <;> repeat' split
    all_goals simp_all
  | setLifecycle lifecycle =>
    simp only [act]
    split <;> simp
  | takeSequence | stopSequence | poll | cancel => simp [act]

/-- An action leaves the status of a closed connection coherent. -/
theorem Coherent.act (coherent : status.Coherent) : (status.act free action).Coherent := by
  have kept := precedes_act status free action
  by_cases closed : status.closed
  · exact ⟨fun _ => kept.label (coherent.label closed),
      fun _ => kept.stopped (coherent.stopped closed)⟩
  · -- Only a call to close it can have closed the connection, and it sets the other marks too.
    constructor <;> intro closes
    all_goals
      obtain ⟨id, rfl, unused⟩ := (closed_act.mp closes).resolve_left closed
      simp [Status.act, Status.call, closed, unused, Sequence.stop]

/-- A connection that an action leaves open has the label that the action sets, or the one that it
had before if the action sets none or the label says that the connection is closed. -/
theorem lifecycle_act (still : ¬(status.act free action).closed) :
    (status.act free action).lifecycle =
      if status.lifecycle = .closed then .closed
      else action.label?.getD status.lifecycle := by
  cases action with
  | start id call =>
    cases call <;> simp only [act, Status.call, Action.label?] at still ⊢ <;> repeat' split
    all_goals simp_all
  | setLifecycle lifecycle =>
    simp only [act]
    split <;> simp_all [Action.label?]
  | takeSequence | stopSequence | poll | cancel => simp [act, Action.label?, eq_comm]

/-- Nothing is undone when nothing happens. -/
theorem Precedes.refl (status : Status) : status.Precedes status := ⟨id, id, id⟩

/-- What is not undone at first and not undone later is not undone. -/
theorem Precedes.trans {before middle after : Status} (first : before.Precedes middle)
    (second : middle.Precedes after) : before.Precedes after :=
  ⟨second.closed ∘ first.closed, second.stopped ∘ first.stopped, second.label ∘ first.label⟩

end Status

namespace Endpoint

variable {endpoint : Endpoint σ} {id : TaskId}

/-- What the owner of the connection sees of its life. -/
def status (endpoint : Endpoint σ) : Status := endpoint.connection.status

/-- Whether no task is known by a name. -/
def free (endpoint : Endpoint σ) (id : TaskId) : Bool := (endpoint.connection.task? id).isNone

/-- A poll does not change the status. -/
theorem status_settle (endpoint : Endpoint σ) (io : Transport σ) (id : TaskId) (task : Task) :
    (settle id (endpoint.advance io id task)).2.status = endpoint.status := by
  obtain ⟨readBuffer, writeBuffer, line, changed⟩ := advance_frame endpoint io id task
  rw [settle_snd, changed]
  split <;> rfl

/-- What a call makes of the status does not depend on whether it is over at once. -/
theorem status_register {connection next : Connection} {call : Call}
    {registered : Except Outcome Task}
    (register : connection.register id call = (registered, next)) :
    next.status = connection.status.call call := by
  cases Connection.registers register with
  | closing opened | receiving opened | sendingAs opened | unsentAs opened =>
    simp [Status.call, Connection.status, Connection.beginClosing, opened]
  | sending opened running | unsent opened running =>
    simp [Status.call, Connection.status, Sequence.take, opened, running]
  | stopped opened stopped =>
    simp [Status.call, Connection.status, Sequence.take, stopped]
  | closedAgain closed => simp [Status.call, Connection.status, closed]
  | @closed call closed => cases call <;> simp [Status.call, Connection.status, closed]

/-- What an action makes of the status depends on the status and on the names in use. -/
theorem status_step (endpoint : Endpoint σ) (io : Transport σ) (action : Action) :
    (endpoint.step io action).2.status = endpoint.status.act endpoint.free action := by
  cases action with
  | start id call =>
    cases free : endpoint.connection.task? id with
    | some task => simp [step, free, Status.act, Endpoint.free]
    | none =>
      have unused : endpoint.free id := by simp [Endpoint.free, free]
      rw [step_start free, Status.act, if_pos unused]
      split
      · rename_i next registered
        show next.status = _
        exact status_register registered
      · rename_i task next registered
        rw [step_poll Connection.task?_keep_self]
        refine (status_settle ..).trans ?_
        show next.status = _
        exact status_register registered
  | poll id =>
    cases found : endpoint.connection.task? id with
    | none => simp [step, found, Status.act]
    | some task =>
      rw [step_poll found]
      exact status_settle ..
  | cancel id =>
    cases found : endpoint.connection.task? id <;> simp only [step, found] <;> rfl
  | setLifecycle lifecycle =>
    simp only [step, Connection.setLifecycle, Status.act]
    split
    · rw [if_pos (by assumption)]
    · rw [if_neg (by assumption)]
      rfl
  | takeSequence | stopSequence => rfl

/-! ## Actions that do not look at the label -/

/-- Put on another lifecycle label. -/
def relabelled (endpoint : Endpoint σ) (lifecycle : Lifecycle) : Endpoint σ :=
  endpoint.dressed lifecycle endpoint.connection.tasks

/-- Registering a call does not depend on the label. -/
theorem register_relabelled (connection : Connection) (id : TaskId) (call : Call)
    (lifecycle : Lifecycle) : ∃ other,
      { connection with lifecycle }.register id call =
        ((connection.register id call).1,
          { (connection.register id call).2 with lifecycle := other }) := by
  cases call with
  | close =>
    simp only [Connection.register]
    split
    · exact ⟨lifecycle, rfl⟩
    · exact ⟨.closed, rfl⟩
  | receive =>
    simp only [Connection.register]
    split <;> exact ⟨lifecycle, rfl⟩
  | sendAs packet sequenceId =>
    simp only [Connection.register, Connection.registerFrame]
    repeat' split
    all_goals exact ⟨lifecycle, rfl⟩
  | send packet =>
    simp only [Connection.register, Connection.registerFrame]
    repeat' split
    all_goals exact ⟨lifecycle, rfl⟩

/-- A poll does not depend on the label. -/
theorem poll_relabelled (endpoint : Endpoint σ) (io : Transport σ) (id : TaskId)
    (lifecycle : Lifecycle) :
    (endpoint.relabelled lifecycle).step io (.poll id) =
      ((endpoint.step io (.poll id)).1, (endpoint.step io (.poll id)).2.relabelled lifecycle) := by
  cases found : endpoint.connection.task? id with
  | none =>
    have missing : (endpoint.relabelled lifecycle).connection.task? id = none := found
    simp only [step, found, missing]
  | some task =>
    have there : (endpoint.relabelled lifecycle).connection.task? id = some task := found
    have advanced := advance_dressed endpoint io id task lifecycle endpoint.connection.tasks
    obtain ⟨readBuffer, writeBuffer, line, changed⟩ := advance_frame endpoint io id task
    rw [step_poll there, step_poll found, relabelled, advanced]
    cases advanced : endpoint.advance io id task with
    | mk progress after =>
      rw [advanced] at changed
      subst changed
      cases progress <;> rfl

/-- An action that does not set the label comes to the same, and does the same but for the label,
whatever the label is. -/
theorem step_relabelled (endpoint : Endpoint σ) (io : Transport σ) (lifecycle : Lifecycle)
    {action : Action} (other : ∀ label, action ≠ .setLifecycle label) : ∃ label,
      (endpoint.relabelled lifecycle).step io action =
        ((endpoint.step io action).1, (endpoint.step io action).2.relabelled label) := by
  cases action with
  | start id call =>
    cases free : endpoint.connection.task? id with
    | some task =>
      have taken : (endpoint.relabelled lifecycle).connection.task? id = some task := free
      exact ⟨lifecycle, by simp only [step, free, taken]⟩
    | none =>
      have unused : (endpoint.relabelled lifecycle).connection.task? id = none := free
      obtain ⟨label, registered⟩ := register_relabelled endpoint.connection id call lifecycle
      have same : (endpoint.relabelled lifecycle).connection.register id call = _ := registered
      refine ⟨label, ?_⟩
      rw [step_start unused, step_start free, same]
      cases endpoint.connection.register id call with
      | mk registered next =>
        cases registered with
        | error outcome => rfl
        | ok task =>
          exact poll_relabelled { endpoint with connection := next.keep id task } io id label
  | poll id => exact ⟨lifecycle, poll_relabelled endpoint io id lifecycle⟩
  | cancel id =>
    cases found : endpoint.connection.task? id with
    | none =>
      have missing : (endpoint.relabelled lifecycle).connection.task? id = none := found
      exact ⟨lifecycle, by simp only [step, found, missing]⟩
    | some task =>
      have there : (endpoint.relabelled lifecycle).connection.task? id = some task := found
      refine ⟨lifecycle, ?_⟩
      simp only [step, found, there]
      rfl
  | setLifecycle label => exact (other label rfl).elim
  | takeSequence | stopSequence => exact ⟨lifecycle, rfl⟩

end Endpoint

/-! ## Runs -/

/-- The label that a move sets, if it sets one. -/
def Move.label? : Move σ → Option Lifecycle
  | .act action => action.label?
  | .change _ => none

/-- Whether a move does something else than to set the label. -/
def Move.unlabelled (move : Move σ) : Bool := move.label?.isNone

namespace Endpoint

variable {endpoint : Endpoint σ} {move : Move σ}

/-- Whether a move is a call to close the connection. -/
def ClosedBy (endpoint : Endpoint σ) (move : Move σ) : Prop :=
  ∃ id, move = .act (.start id .close) ∧ endpoint.free id

/-- A move undoes nothing. -/
theorem precedes_move (endpoint : Endpoint σ) (io : Transport σ) (move : Move σ) :
    endpoint.status.Precedes (endpoint.move io move).status := by
  cases move with
  | act action =>
    rw [Endpoint.move, status_step]
    exact Status.precedes_act ..
  | change change => exact .refl _

/-- A run undoes nothing. -/
theorem precedes_run (endpoint : Endpoint σ) (io : Transport σ) (moves : List (Move σ)) :
    endpoint.status.Precedes (endpoint.run io moves).status := by
  induction moves generalizing endpoint with
  | nil => exact .refl _
  | cons move moves ih => exact (precedes_move endpoint io move).trans (ih _)

/-- A run leaves the status coherent. -/
theorem coherent_run (coherent : endpoint.status.Coherent) (moves : List (Move σ)) :
    (endpoint.run io moves).status.Coherent := by
  induction moves generalizing endpoint with
  | nil => exact coherent
  | cons move moves ih =>
    refine ih ?_
    cases move with
    | act action =>
      rw [Endpoint.move, status_step]
      exact coherent.act
    | change change => exact coherent

/-- The status is coherent when a connection is opened: it is not closed. -/
theorem coherent_establish (io : Transport σ) (config : Config) (state : σ) :
    (establish io config state).status.Coherent :=
  ⟨fun closed => (Bool.false_ne_true closed).elim, fun closed => (Bool.false_ne_true closed).elim⟩

/-- A connection is closed after a move when it was closed before or the move is a call to close
it. -/
theorem closed_move :
    (endpoint.move io move).status.closed ↔ endpoint.status.closed ∨ endpoint.ClosedBy move := by
  cases move with
  | act action =>
    rw [Endpoint.move, status_step, Status.closed_act]
    simp [ClosedBy]
  | change change =>
    have same : (endpoint.move io (.change change)).status = endpoint.status := rfl
    simp [ClosedBy, same]

/-- A connection is closed after a run when it was closed before or was called to close. -/
theorem closed_run (endpoint : Endpoint σ) (io : Transport σ) (moves : List (Move σ)) :
    (endpoint.run io moves).status.closed ↔
      endpoint.status.closed ∨ endpoint.Happens io ClosedBy moves := by
  induction moves using List.reverseRecOn with
  | nil => simp [run, not_happens_nil]
  | append_singleton moves move ih =>
    rw [run_append, happens_concat, ← or_assoc, ← ih]
    exact closed_move

/-- A connection that a move leaves open has the label that the move sets, or the one that it had
before. -/
theorem lifecycle_move (still : ¬(endpoint.move io move).status.closed) :
    (endpoint.move io move).status.lifecycle =
      if endpoint.status.lifecycle = .closed then .closed
      else move.label?.getD endpoint.status.lifecycle := by
  cases move with
  | act action =>
    rw [Endpoint.move, status_step] at still ⊢
    exact Status.lifecycle_act still
  | change change =>
    have same : (endpoint.move io (.change change)).status = endpoint.status := rfl
    simp [same, Move.label?, eq_comm]

/-- The last label that is set in a run of a connection, or the one that it is opened with. -/
def lastLabel (moves : List (Move σ)) : Lifecycle :=
  (moves.filterMap Move.label?).getLast?.getD .connected

/-- A last label that says closed was set. -/
theorem closed_mem_of_lastLabel {moves : List (Move σ)} (last : lastLabel moves = .closed) :
    .closed ∈ moves.filterMap Move.label? := by
  cases label : (moves.filterMap Move.label?).getLast? with
  | none =>
    rw [lastLabel, label] at last
    cases last
  | some lifecycle =>
    rw [lastLabel, label, Option.getD_some] at last
    exact last ▸ List.mem_of_getLast? label

/-- While a connection is open, it has the label that was set last, unless it has been labelled
closed. -/
theorem lifecycle_run (opened : endpoint.status.lifecycle = .connected) (moves : List (Move σ))
    (still : ¬(endpoint.run io moves).status.closed) :
    (endpoint.run io moves).status.lifecycle =
      if .closed ∈ moves.filterMap Move.label? then .closed else lastLabel moves := by
  induction moves using List.reverseRecOn with
  | nil => simpa [run, lastLabel] using opened
  | append_singleton moves move ih =>
    have before := ih fun closed => still <| by
      rw [run_append]
      exact (precedes_run _ io [move]).closed closed
    rw [run_append] at still ⊢
    refine (lifecycle_move still).trans ?_
    rw [before]
    by_cases said : .closed ∈ moves.filterMap Move.label?
    · simp [said]
    · have other : lastLabel moves ≠ .closed := fun last => said (closed_mem_of_lastLabel last)
      rw [if_neg said, if_neg other]
      cases label : move.label? with
      | none => simp [lastLabel, label, said]
      | some lifecycle =>
        simp only [lastLabel, List.filterMap_append, List.filterMap_cons, label, List.filterMap_nil,
          List.getLast?_concat, Option.getD_some, List.mem_append, List.mem_singleton, said,
          false_or]
        split <;> rename_i same
        · exact same.symm
        · rfl

/-- What endpoints have in common that are alike but for the label. -/
theorem shadows_label (io : Transport σ) :
    Shadows io (fun _ => True) Move.unlabelled Move.unlabelled fun first second =>
      ∃ lifecycle, second = first.relabelled lifecycle where
  omitted := by
    rintro first _ (action | change) ⟨lifecycle, rfl⟩ - dropped
    · cases action with
      | setLifecycle label =>
        refine ⟨lifecycle, ?_⟩
        simp only [move, step, Connection.setLifecycle]
        split <;> rfl
      | start | poll | cancel | takeSequence | stopSequence => exact (dropped rfl).elim
    · exact (dropped rfl).elim
  made := by
    rintro first _ (action | change) ⟨lifecycle, rfl⟩ - kept
    · have other : ∀ label, action ≠ .setLifecycle label := by
        rintro label rfl
        cases kept
      obtain ⟨label, same⟩ := step_relabelled first io lifecycle other
      exact ⟨label, congrArg Prod.snd same⟩
    · exact ⟨lifecycle, rfl⟩
  told := by
    rintro first _ (action | change) ⟨lifecycle, rfl⟩ - kept -
    · have other : ∀ label, action ≠ .setLifecycle label := by
        rintro label rfl
        cases kept
      obtain ⟨label, same⟩ := step_relabelled first io lifecycle other
      exact congrArg (some ·.1) same.symm
    · rfl
  present := fun watched => watched

/-- What a run comes to, but for the label, is what it comes to without the moves that set the
label. -/
theorem run_unlabelled (endpoint : Endpoint σ) (io : Transport σ) (moves : List (Move σ)) :
    (∃ lifecycle, endpoint.run io (moves.filter Move.unlabelled) =
        (endpoint.run io moves).relabelled lifecycle) ∧
      endpoint.replies io Move.unlabelled moves =
        endpoint.replies io Move.unlabelled (moves.filter Move.unlabelled) :=
  (shadows_label io).run ⟨endpoint.connection.lifecycle, rfl⟩ fun _ _ => trivial

/-- In every state of every run, a connection that is closed is labelled so and gives out no more
numbers, and it is closed just if it has been called to close. None of the three is undone later.
An open connection has the label that was set last, or the first one; so a connection is labelled
closed just if it is closed or has been labelled so. And a run comes to the same in everything else,
call for call, whatever labels are set in it. -/
theorem lifecycle_and_label (io : Transport σ) (config : Config) (state : σ)
    (moves : List (Move σ)) :
    let opened := establish io config state
    let now := (opened.run io moves).connection
    (now.closed → now.lifecycle = .closed ∧ now.sequence.stopped) ∧
    (now.closed ↔ opened.Happens io ClosedBy moves) ∧
    (∀ more, let later := (opened.run io (moves ++ more)).connection
      (now.closed → later.closed) ∧ (now.sequence.stopped → later.sequence.stopped) ∧
        (now.lifecycle = .closed → later.lifecycle = .closed)) ∧
    (¬opened.Happens io ClosedBy moves → .closed ∉ moves.filterMap Move.label? →
      now.lifecycle = (moves.filterMap Move.label?).getLast?.getD .connected) ∧
    (now.lifecycle = .closed ↔ now.closed ∨ .closed ∈ moves.filterMap Move.label?) ∧
    ∀ others, others.filter Move.unlabelled = moves.filter Move.unlabelled →
      opened.replies io Move.unlabelled others = opened.replies io Move.unlabelled moves ∧
        (opened.run io others).line = (opened.run io moves).line ∧
        (opened.run io others).connection.sequence = now.sequence ∧
        (opened.run io others).connection.closed = now.closed := by
  intro opened now
  have untouched : ¬opened.status.closed := Bool.false_ne_true
  have coherent : (opened.run io moves).status.Coherent :=
    coherent_run (coherent_establish io config state) moves
  have closes : now.closed ↔ opened.Happens io ClosedBy moves :=
    (closed_run opened io moves).trans (or_iff_right untouched)
  have label : ¬now.closed → now.lifecycle = _ := lifecycle_run rfl moves
  refine ⟨fun closed => ⟨coherent.label closed, coherent.stopped closed⟩, closes, ?_, ?_, ?_, ?_⟩
  · intro more later
    have kept := precedes_run (opened.run io moves) io more
    rw [← run_append] at kept
    exact ⟨kept.closed, kept.stopped, kept.label⟩
  · intro uncalled unsaid
    rw [label (mt closes.mp uncalled), if_neg unsaid, lastLabel]
  · by_cases closed : now.closed
    · exact iff_of_true (coherent.label closed) (.inl closed)
    · rw [label closed, or_iff_right closed]
      split <;> rename_i said
      · exact iff_of_true rfl said
      · exact iff_of_false (mt closed_mem_of_lastLabel said) said
  · intro others same
    obtain ⟨⟨first, ours⟩, replies⟩ := run_unlabelled opened io moves
    obtain ⟨⟨second, theirs⟩, answers⟩ := run_unlabelled opened io others
    rw [same] at theirs answers
    have both := theirs.symm.trans ours
    refine ⟨answers.trans replies.symm, ?_, ?_, ?_⟩
    · exact congrArg (·.line) both
    · exact congrArg (·.connection.sequence) both
    · exact congrArg (·.connection.closed) both

end Endpoint

end Cmpp
