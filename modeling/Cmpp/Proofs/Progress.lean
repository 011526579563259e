import Cmpp.Proofs.Obliging
import Cmpp.Proofs.Shutdown

/-!
# Nobody is stuck behind a lock

The write lock is held by a task that is there to send or to close the connection, and is free when
there is none. So it is enough to poll those tasks (`Endpoint.nobody_stuck`). While the connection
is open and the transport obliging, every sender that is polled with the lock is done, and so leaves
the lock to the next one in the queue (`Endpoint.Smooth.poll`); those that were waiting for the lock
have their whole frames to send (`Endpoint.Patient`), and succeed. Once the connection has been
closed, every sender is done at its next poll, and leaves the lock to the task that closes.
-/

namespace Cmpp

variable {σ : Type} {io : Transport σ}

/-- Polls of tasks, one after another. -/
def Move.polls (ids : List TaskId) : List (Move σ) := ids.map fun id => .act (.poll id)

namespace Endpoint

variable {endpoint before after : Endpoint σ} {actor : Actor} {id : TaskId}
  {front back others : List TaskId}

/-- Whether a task is there for an errand. -/
def Pending (endpoint : Endpoint σ) (errand : Errand) (id : TaskId) : Prop :=
  ∃ task, endpoint.connection.task? id = some task ∧ task.errand = errand

/-- Whether a task is there for an errand can be looked up. -/
instance (endpoint : Endpoint σ) (errand : Errand) (id : TaskId) :
    Decidable (endpoint.Pending errand id) :=
  decidable_of_iff ((endpoint.connection.task? id).map Task.errand = some errand)
    Option.map_eq_some_iff

/-- Whether the last poll of a sender has left it waiting for the write lock, whatever has been done
since by anybody else. -/
def LeftWaiting (io : Transport σ) (endpoint : Endpoint σ) (moves : List (Move σ)) (id : TaskId) :
    Prop :=
  ∃ earlier recent, moves = earlier ++ recent ∧ (∀ move ∈ recent, move.actor ≠ .task id) ∧
    (endpoint.run io earlier).Pending .sending id ∧
    ¬(endpoint.run io earlier).connection.writeLock.isHeldBy id

/-- Who is there to send has a frame to send. -/
theorem Pending.sending (pending : endpoint.Pending .sending id) :
    ∃ promised sequenceId frame rest,
      endpoint.connection.task? id = some (.sending promised sequenceId frame rest) := by
  obtain ⟨task, found, errand⟩ := pending
  cases task with
  | sending promised sequenceId frame rest => exact ⟨promised, sequenceId, frame, rest, found⟩
  | receiving | closing => cases errand

/-- Who is there to close the connection is at some stage of it. -/
theorem Pending.closing (pending : endpoint.Pending .closing id) :
    ∃ stage, endpoint.connection.task? id = some (.closing stage) := by
  obtain ⟨task, found, errand⟩ := pending
  cases task with
  | closing stage => exact ⟨stage, found⟩
  | sending | receiving => cases errand

/-! ## The queue of senders -/

/-- A task is in the queue for the write lock just if it is there to send or to close the
connection. -/
theorem mem_queue_iff (sound : endpoint.connection.Sound) :
    id ∈ endpoint.connection.writeLock.queue ↔
      endpoint.Pending .sending id ∨ endpoint.Pending .closing id := by
  rw [sound.writers.mem_iff]
  constructor
  · rintro ⟨task, found, writes⟩
    cases task with
    | sending => exact .inl ⟨_, found, rfl⟩
    | closing => exact .inr ⟨_, found, rfl⟩
    | receiving => cases writes
  · rintro (sends | closes)
    · obtain ⟨_, _, _, _, found⟩ := sends.sending
      exact ⟨_, found, rfl⟩
    · obtain ⟨_, found⟩ := closes.closing
      exact ⟨_, found, rfl⟩

/-- On an open connection the tasks in the queue for the write lock are the senders. -/
theorem mem_queue_iff_sending (sound : endpoint.connection.Sound)
    (opened : ¬endpoint.connection.closed) :
    id ∈ endpoint.connection.writeLock.queue ↔ endpoint.Pending .sending id := by
  rw [mem_queue_iff sound, or_iff_left_iff_imp]
  intro closes
  obtain ⟨stage, found⟩ := closes.closing
  exact (opened (sound.closing id stage found)).elim

/-- The write lock is free when nobody is there to send or to close the connection. -/
theorem unheld_of_idle (sound : endpoint.connection.Sound)
    (idle : ∀ id, ¬endpoint.Pending .sending id ∧ ¬endpoint.Pending .closing id) :
    endpoint.connection.writeLock.holder? = none := by
  rw [Lock.holder?, List.head?_eq_none_iff, List.eq_nil_iff_forall_not_mem]
  intro id inside
  exact ((mem_queue_iff sound).mp inside).elim (idle id).1 (idle id).2

/-! ## Waiting for the lock -/

/-- Whoever is to send a frame and does not hold the write lock has the whole frame to send. -/
def Patient (endpoint : Endpoint σ) : Prop :=
  ∀ id promised sequenceId frame rest,
    endpoint.connection.task? id = some (.sending promised sequenceId frame rest) →
      ¬endpoint.connection.writeLock.isHeldBy id → rest = .writing frame

/-- A turn lets nobody send without the write lock. -/
theorem Turn.patient (turn : Turn io actor before after) (patient : before.Patient) :
    after.Patient := by
  intro id promised sequenceId frame rest found unheld
  by_cases own : actor = .task id
  · cases turn with
    | enter free registered =>
      cases own
      rw [Connection.task?_keep_self] at found
      cases found
      cases Connection.registers registered <;> rfl
    | @poll _ _ task there =>
      cases own
      have lock : (before.advance io id task).2.connection.writeLock =
          before.connection.writeLock := by
        obtain ⟨readBuffer, writeBuffer, line, changed⟩ := advance_frame before io id task
        rw [changed]
      rw [settle_snd] at found unheld
      split at found
      · simp at found
      · rename_i suspended
        simp only [suspended] at unheld
        rw [Connection.task?_keep_self] at found
        cases found
        have unheldBefore : ¬before.connection.writeLock.isHeldBy id := lock ▸ unheld
        have continues := advance_continues suspended
        cases task with
        | receiving | closing => exact continues.elim
        | sending outcome number bytes left =>
          obtain rfl := patient id outcome number bytes left there unheldBefore
          simp only [advance, advanceSending, if_neg unheldBefore] at suspended
          split at suspended
          · cases suspended
          · cases suspended
            rfl
    | forget =>
      cases own
      simp at found
    | label => exact patient id promised sequenceId frame rest found unheld
    | outside => cases own
  · rw [turn.task_other own] at found
    exact patient id promised sequenceId frame rest found fun held =>
      unheld ((turn.holds own).1 held)

/-- In every state that a run reaches, nobody sends without the write lock. -/
theorem Reachable.patient {config : Config} (reachable : endpoint.Reachable io config) :
    endpoint.Patient :=
  reachable.keeps Patient (fun turn => turn.patient) fun state id _ _ _ _ found => by
    simp [establish, Connection.ofConfig, Connection.task?] at found

/-- The moves of others leave a task as it is. -/
theorem run_task_other {moves : List (Move σ)}
    (others : ∀ move ∈ moves, move.actor ≠ .task id) :
    (endpoint.run io moves).connection.task? id = endpoint.connection.task? id := by
  induction moves generalizing endpoint with
  | nil => rfl
  | cons move moves ih =>
    have moved : (endpoint.move io move).connection.task? id = endpoint.connection.task? id :=
      move_keeps (fun state => state.connection.task? id = endpoint.connection.task? id)
        (fun turn same => (turn.task_other (others move List.mem_cons_self)).trans same) rfl
    exact (ih fun other inside => others other (List.mem_cons_of_mem _ inside)).trans moved

/-- A sender whose last poll has left it waiting for the write lock has its whole frame to send,
whoever holds the lock by now. -/
theorem LeftWaiting.whole {config : Config} {moves : List (Move σ)}
    (waiting : endpoint.LeftWaiting io moves id) (reachable : endpoint.Reachable io config)
    {promised : Outcome} {sequenceId : UInt32} {frame : Bytes} {rest : Transmission}
    (found : (endpoint.run io moves).connection.task? id =
      some (.sending promised sequenceId frame rest)) : rest = .writing frame := by
  obtain ⟨earlier, recent, rfl, others, -, unheld⟩ := waiting
  rw [run, List.foldl_append] at found
  have same : ((endpoint.run io earlier).run io recent).connection.task? id =
      (endpoint.run io earlier).connection.task? id := run_task_other others
  exact (reachable.run earlier).patient id promised sequenceId frame rest
    (same.symm.trans found) unheld

/-! ## Sending one after another -/

/-- Everything is set for sending: the connection is open and the transport obliging. -/
structure Smooth (io : Transport σ) (endpoint : Endpoint σ) : Prop where
  /-- The queues and the tasks agree. -/
  sound : endpoint.connection.Sound
  /-- The connection is open. -/
  opened : ¬endpoint.connection.closed
  /-- The transport is obliging. -/
  obliging : endpoint.line.Obliging io

/-- The first in the queue for the write lock is a sender that is done when it is polled, and leaves
the rest of the queue to be served. -/
theorem Smooth.poll (smooth : endpoint.Smooth io)
    (queue : endpoint.connection.writeLock.queue = id :: others) :
    (∃ promised sequenceId frame rest,
        endpoint.connection.task? id = some (.sending promised sequenceId frame rest) ∧
          (endpoint.step io (.poll id)).1 = .polled (.ready (rest.outcome promised))) ∧
      (endpoint.step io (.poll id)).2.Smooth io ∧
      (endpoint.step io (.poll id)).2.connection.writeLock.queue = others ∧
      ∀ other, other ≠ id → (endpoint.step io (.poll id)).2.connection.task? other =
        endpoint.connection.task? other := by
  have held : endpoint.connection.writeLock.isHeldBy id :=
    Lock.isHeldBy_iff.mpr (by rw [queue, List.head?_cons])
  have sound : (endpoint.step io (.poll id)).2.connection.Sound := step_sound smooth.sound _
  have sends : endpoint.Pending .sending id :=
    (mem_queue_iff_sending smooth.sound smooth.opened).mp (queue ▸ List.mem_cons_self)
  obtain ⟨promised, sequenceId, frame, rest, found⟩ := sends.sending
  have polled : (endpoint.advance io id (.sending promised sequenceId frame rest)).1 =
      .finished (rest.outcome promised) := advance_obliged smooth.opened held smooth.obliging
  have unfinished : (Task.sending promised sequenceId frame rest).Unfinished
      endpoint.connection.version := trivial
  have calls := advance_calls endpoint io id unfinished
  have tasks := fun other =>
    task?_advance endpoint io id other (.sending promised sequenceId frame rest)
  obtain ⟨readBuffer, writeBuffer, line, changed⟩ :=
    advance_frame endpoint io id (.sending promised sequenceId frame rest)
  rw [step_poll found] at sound ⊢
  cases advanced : endpoint.advance io id (.sending promised sequenceId frame rest) with
  | mk progress after =>
    rw [advanced] at polled calls tasks changed sound
    simp only at polled changed
    subst polled changed
    refine ⟨⟨promised, sequenceId, frame, rest, found, rfl⟩,
      ⟨sound, smooth.opened, smooth.obliging.later calls⟩, ?_, fun other different => ?_⟩
    · simp [settle, Connection.forget, Lock.leave, queue]
    · exact (Connection.task?_forget_other different).trans (tasks other)

/-- The senders that come first in the queue for the write lock are done when they are polled in
turn, and leave the rest of the queue to be served. -/
theorem Smooth.polls (smooth : endpoint.Smooth io)
    (queue : endpoint.connection.writeLock.queue = front ++ back) :
    (endpoint.run io (Move.polls front)).Smooth io ∧
      (endpoint.run io (Move.polls front)).connection.writeLock.queue = back ∧
      ∀ other, other ∉ front → (endpoint.run io (Move.polls front)).connection.task? other =
        endpoint.connection.task? other := by
  induction front generalizing endpoint with
  | nil => exact ⟨smooth, queue, fun _ _ => rfl⟩
  | cons id front ih =>
    obtain ⟨-, smoothNext, queueNext, same⟩ := smooth.poll queue
    obtain ⟨smoothLast, queueLast, sameLast⟩ := ih smoothNext queueNext
    refine ⟨smoothLast, queueLast, fun other absent => ?_⟩
    rw [List.mem_cons, not_or] at absent
    exact (sameLast other absent.2).trans (same other absent.1)

/-- Every sender in the queue for the write lock is done when it is polled after those before it. -/
theorem Smooth.finishes (smooth : endpoint.Smooth io)
    (queue : endpoint.connection.writeLock.queue = front ++ id :: back) :
    ∃ promised sequenceId frame rest,
      endpoint.connection.task? id = some (.sending promised sequenceId frame rest) ∧
        ((endpoint.run io (Move.polls front)).step io (.poll id)).1 =
          .polled (.ready (rest.outcome promised)) := by
  obtain ⟨smoothNext, queueNext, same⟩ := smooth.polls queue
  obtain ⟨⟨promised, sequenceId, frame, rest, found, replied⟩, -⟩ := smoothNext.poll queueNext
  have distinct := smooth.sound.writers.distinct
  rw [queue, List.nodup_append] at distinct
  have absent : id ∉ front := fun inside => distinct.2.2 id inside id List.mem_cons_self rfl
  exact ⟨promised, sequenceId, frame, rest, (same id absent).symm.trans found, replied⟩

/-- When all in the queue for the write lock have been polled in turn, nobody sends any more, and
the lock is free. -/
theorem Smooth.served (smooth : endpoint.Smooth io) :
    let served := endpoint.run io (Move.polls endpoint.connection.writeLock.queue)
    (∀ id, ¬served.Pending .sending id) ∧ served.connection.writeLock.holder? = none := by
  obtain ⟨smoothLast, queue, -⟩ := smooth.polls (List.append_nil _).symm
  refine ⟨fun id pending => ?_, by rw [Lock.holder?, queue, List.head?_nil]⟩
  have inside := (mem_queue_iff_sending smoothLast.sound smoothLast.opened).mpr pending
  rw [queue] at inside
  cases inside

/-! ## Leaving a closed connection -/

/-- On a closed connection senders are done when they are polled, in whatever order, and nothing
else happens. -/
theorem polls_closed {ids : List TaskId} (io : Transport σ) (closed : endpoint.connection.closed)
    (distinct : ids.Nodup) (senders : ∀ id ∈ ids, endpoint.Pending .sending id) :
    let after := endpoint.run io (Move.polls ids)
    after.connection.closed ∧ after.line = endpoint.line ∧
      ∀ other, after.connection.task? other =
        if other ∈ ids then none else endpoint.connection.task? other := by
  induction ids generalizing endpoint with
  | nil => exact ⟨closed, rfl, fun other => by simp [Move.polls, run]⟩
  | cons id ids ih =>
    obtain ⟨task, found, errand⟩ := senders id List.mem_cons_self
    have polled := step_poll_closed io closed found (by simp [errand])
    have moved : endpoint.move io (.act (.poll id)) =
        { endpoint with connection := endpoint.connection.forget id } :=
      congrArg Prod.snd polled
    rw [List.nodup_cons] at distinct
    let next : Endpoint σ := { endpoint with connection := endpoint.connection.forget id }
    have closedNext : next.connection.closed := closed
    have still : ∀ other ∈ ids, next.Pending .sending other := by
      intro other inside
      have different : other ≠ id := by
        rintro rfl
        exact distinct.1 inside
      obtain ⟨sender, there, sends⟩ := senders other (List.mem_cons_of_mem _ inside)
      exact ⟨sender, (Connection.task?_forget_other different).trans there, sends⟩
    have reached : endpoint.run io (Move.polls (id :: ids)) = next.run io (Move.polls ids) :=
      congrArg (fun state => Endpoint.run io state (Move.polls ids)) moved
    obtain ⟨stays, line, tasks⟩ := ih closedNext distinct.2 still
    rw [reached]
    refine ⟨stays, line, fun other => ?_⟩
    rw [tasks]
    by_cases own : other = id
    · simp [own, next]
    · simp [own, next, Connection.task?_forget_other own]

/-- Every sender of a closed connection is told so when it is polled after others. -/
theorem finishes_closed (io : Transport σ) (closed : endpoint.connection.closed)
    (distinct : (front ++ id :: back).Nodup)
    (senders : ∀ other ∈ front ++ id :: back, endpoint.Pending .sending other) :
    ((endpoint.run io (Move.polls front)).step io (.poll id)).1 =
      .polled (.ready (.failed .connectionClosed)) := by
  rw [List.nodup_append] at distinct
  have absent : id ∉ front := fun inside => distinct.2.2 id inside id List.mem_cons_self rfl
  obtain ⟨stays, -, tasks⟩ := polls_closed io closed distinct.1 fun other inside =>
    senders other (List.mem_append_left _ inside)
  obtain ⟨task, found, errand⟩ := senders id (List.mem_append_right _ List.mem_cons_self)
  have still := (tasks id).trans ((if_neg absent).trans found)
  rw [step_poll_closed io stays still (by simp [errand])]

/-- When all senders of a closed connection have been polled, in whatever order, nobody sends any
more; whoever closes the connection is still there, and the line is as it was. -/
theorem left_closed {ids : List TaskId} (io : Transport σ) (closed : endpoint.connection.closed)
    (distinct : ids.Nodup) (senders : ∀ id, id ∈ ids ↔ endpoint.Pending .sending id) :
    let left := endpoint.run io (Move.polls ids)
    left.line = endpoint.line ∧ (∀ id, ¬left.Pending .sending id) ∧
      ∀ id, endpoint.Pending .closing id → left.Pending .closing id := by
  obtain ⟨-, line, tasks⟩ := polls_closed io closed distinct fun id inside =>
    (senders id).mp inside
  refine ⟨line, ?_, ?_⟩
  · rintro id ⟨task, found, errand⟩
    rw [tasks] at found
    split at found
    · cases found
    · rename_i absent
      exact absent ((senders id).mpr ⟨task, found, errand⟩)
  · rintro id ⟨task, found, errand⟩
    have absent : id ∉ ids := by
      intro inside
      obtain ⟨sender, there, sends⟩ := (senders id).mp inside
      rw [found] at there
      cases there
      rw [errand] at sends
      cases sends
    exact ⟨task, (tasks id).trans ((if_neg absent).trans found), errand⟩

/-- When all senders of a closed connection have left, the one that closes it is done at its next
poll, if the transport is prompt. -/
theorem poll_closing {config : Config} (reachable : endpoint.Reachable io config)
    (prompt : endpoint.line.Prompt io) (alone : ∀ other, ¬endpoint.Pending .sending other)
    (closes : endpoint.Pending .closing id) :
    (endpoint.step io (.poll id)).1 = .polled (.ready .closed) ∧
      (endpoint.step io (.poll id)).2.connection.writeLock.queue = [] := by
  have sound := reachable.sound
  have inside := (mem_queue_iff sound).mpr (.inr closes)
  obtain ⟨stage, found⟩ := closes.closing
  have only : ∀ other ∈ endpoint.connection.writeLock.queue, other = id := by
    intro other queued
    rcases (mem_queue_iff sound).mp queued with sends | closesToo
    · exact (alone other sends).elim
    · obtain ⟨later, there⟩ := closesToo.closing
      exact reachable.closing_unique found there
  have queue : endpoint.connection.writeLock.queue = [id] := by
    refine List.perm_singleton.mp ((List.perm_ext_iff_of_nodup sound.writers.distinct
      (List.pairwise_singleton _ id)).mpr fun other => ?_)
    rw [List.mem_singleton]
    exact ⟨only other, fun same => same ▸ inside⟩
  have held : endpoint.connection.writeLock.isHeldBy id :=
    Lock.isHeldBy_iff.mpr (by rw [queue, List.head?_cons])
  have polled := advanceClosing_prompt stage held prompt
  obtain ⟨readBuffer, writeBuffer, line, changed⟩ := advance_frame endpoint io id (.closing stage)
  rw [step_poll found]
  cases advanced : endpoint.advance io id (.closing stage) with
  | mk progress after =>
    rw [advanced] at polled changed
    simp only at polled changed
    subst polled changed
    refine ⟨rfl, ?_⟩
    simp [settle, Connection.forget, Lock.leave, queue]

/-- Nobody is stuck behind a lock, whatever has happened on a connection. The write lock is held
only by a task that is there to send or to close the connection, and is free when there is none.

If the connection is open and the transport obliging from now on, the queue for the lock lists the
senders, its holder first. When they are polled in this order, each of them is done, and those that
their last poll left waiting for the lock succeed; then nobody sends and the lock is free.

If the connection has been closed and flushes and shutdowns do not have to wait from now on, then
all senders are done when they are polled, in whatever order, and after them the task that closes
the connection; then the lock is free. -/
theorem nobody_stuck (io : Transport σ) (config : Config) (state : σ) (moves : List (Move σ)) :
    let opened := establish io config state
    let endpoint := opened.run io moves
    (∀ id, endpoint.connection.writeLock.isHeldBy id →
        endpoint.Pending .sending id ∨ endpoint.Pending .closing id) ∧
      ((∀ id, ¬endpoint.Pending .sending id ∧ ¬endpoint.Pending .closing id) →
        endpoint.connection.writeLock.holder? = none) ∧
      (¬endpoint.connection.closed → endpoint.line.Obliging io →
        endpoint.connection.writeLock.Lists (endpoint.Pending .sending) ∧
          (∀ front id back, endpoint.connection.writeLock.queue = front ++ id :: back →
            ∃ outcome,
              ((endpoint.run io (Move.polls front)).step io (.poll id)).1 =
                  .polled (.ready outcome) ∧
                (opened.LeftWaiting io moves id →
                  outcome = .sent ∨ ∃ sequenceId, outcome = .numbered sequenceId)) ∧
          let done := endpoint.run io (Move.polls endpoint.connection.writeLock.queue)
          (∀ id, ¬done.Pending .sending id) ∧ done.connection.writeLock.holder? = none) ∧
      (endpoint.connection.closed → endpoint.line.Prompt io →
        ∀ senders : List TaskId, senders.Nodup →
          (∀ id, id ∈ senders ↔ endpoint.Pending .sending id) →
            (∀ front id back, senders = front ++ id :: back →
              ((endpoint.run io (Move.polls front)).step io (.poll id)).1 =
                .polled (.ready (.failed .connectionClosed))) ∧
            ∀ id, endpoint.Pending .closing id →
              let left := endpoint.run io (Move.polls senders)
              let done := (left.step io (.poll id)).2
              (left.step io (.poll id)).1 = .polled (.ready .closed) ∧
                (∀ other, ¬done.Pending .sending other ∧ ¬done.Pending .closing other) ∧
                done.connection.writeLock.holder? = none) := by
  intro opened endpoint
  have reachable : endpoint.Reachable io config := ⟨state, moves, rfl⟩
  have sound := reachable.sound
  refine ⟨fun id held => ?_, unheld_of_idle sound, fun isOpen obliging => ?_,
    fun closed prompt senders distinct listed => ⟨fun front id back split => ?_,
      fun id closes => ?_⟩⟩
  · refine (mem_queue_iff sound).mp ?_
    rw [Lock.queue_of_held held]
    exact List.mem_cons_self
  · have smooth : endpoint.Smooth io := ⟨sound, isOpen, obliging⟩
    refine ⟨⟨sound.writers.distinct, fun id => mem_queue_iff_sending sound isOpen⟩,
      fun front id back queue => ?_, smooth.served⟩
    obtain ⟨promised, sequenceId, frame, rest, found, replied⟩ := smooth.finishes queue
    refine ⟨_, replied, fun waiting => ?_⟩
    obtain rfl := waiting.whole ⟨state, [], rfl⟩ found
    rcases reachable.promises id _ found with numbered | sent
    · exact .inr ⟨sequenceId, by simp [Transmission.outcome, numbered]⟩
    · exact .inl (by simp [Transmission.outcome, sent])
  · subst split
    exact finishes_closed io closed distinct fun other inside => (listed other).mp inside
  · obtain ⟨line, alone, still⟩ := left_closed io closed distinct listed
    have left := reachable.run (Move.polls senders)
    rw [← line] at prompt
    obtain ⟨replied, queue⟩ := poll_closing left prompt alone (still id closes)
    have last := (left.move (.act (.poll id))).sound
    refine ⟨replied, fun other => not_or.mp (mt (mem_queue_iff last).mpr ?_),
      by rw [Lock.holder?, queue, List.head?_nil]⟩
    rw [move, queue]
    exact List.not_mem_nil

/-- A sender is stuck inside its frame, and another waits behind it. -/
def inLine : Endpoint Script :=
  (establish Script.transport { version := .v30 } halfway).run Script.transport
    [.act (.start 1 (.send .probe)), .act (.start 2 (.sendAs .probe 7))]

/-- When the stream goes on, the sender that waits succeeds as soon as the other one is done. When
the connection is closed instead, whoever closes it is done as soon as both have left. -/
theorem nobody_stuck_inLine :
    let closing := inLine.move Script.transport (.act (.start 3 .close))
    (∃ outcome,
        ((inLine.run Script.transport (Move.polls [1])).step Script.transport (.poll 2)).1 =
          .polled (.ready outcome) ∧
        (outcome = .sent ∨ ∃ sequenceId, outcome = .numbered sequenceId)) ∧
      ((closing.run Script.transport (Move.polls [2, 1])).step Script.transport (.poll 3)).1 =
        .polled (.ready .closed) := by
  have easy : inLine.line.state.Exhausted :=
    ⟨by decide +kernel, by decide +kernel, by decide +kernel, by decide +kernel⟩
  constructor
  · have waiting : (establish Script.transport { version := .v30 } halfway).LeftWaiting
        Script.transport [.act (.start 1 (.send .probe)), .act (.start 2 (.sendAs .probe 7))] 2 :=
      ⟨_, [], (List.append_nil _).symm, by simp, by decide +kernel, by decide +kernel⟩
    obtain ⟨-, -, sends, -⟩ := nobody_stuck Script.transport { version := .v30 } halfway
      [.act (.start 1 (.send .probe)), .act (.start 2 (.sendAs .probe 7))]
    obtain ⟨-, each, -⟩ := sends (by decide +kernel) easy.easy.1
    obtain ⟨outcome, replied, succeeds⟩ := each [1] 2 [] (by decide +kernel)
    exact ⟨outcome, replied, succeeds waiting⟩
  · have reachable : (inLine.move Script.transport (.act (.start 3 .close))).Reachable
        Script.transport { version := .v30 } := Reachable.move ⟨_, _, rfl⟩ _
    have listed : ∀ id, id ∈ [2, 1] ↔
        (inLine.move Script.transport (.act (.start 3 .close))).Pending .sending id := by
      intro id
      have queue : (inLine.move Script.transport
          (.act (.start 3 .close))).connection.writeLock.queue = [1, 2, 3] := by decide +kernel
      constructor
      · intro inside
        simp only [List.mem_cons, List.not_mem_nil, or_false] at inside
        rcases inside with rfl | rfl <;> decide +kernel
      · intro sends
        have inside := (mem_queue_iff reachable.sound).mpr (.inl sends)
        simp only [queue, List.mem_cons, List.not_mem_nil, or_false] at inside
        rcases inside with rfl | rfl | rfl
        · decide
        · decide
        · exact absurd sends (by decide +kernel)
    have easyThen : (inLine.move Script.transport
        (.act (.start 3 .close))).line.state.Exhausted :=
      ⟨by decide +kernel, by decide +kernel, by decide +kernel, by decide +kernel⟩
    obtain ⟨-, -, -, closes⟩ := nobody_stuck Script.transport { version := .v30 } halfway
      [.act (.start 1 (.send .probe)), .act (.start 2 (.sendAs .probe 7)), .act (.start 3 .close)]
    obtain ⟨-, last⟩ := closes (by decide +kernel) easyThen.easy.2 [2, 1] (by decide) listed
    exact (last 3 (by decide +kernel)).1

end Endpoint

end Cmpp
