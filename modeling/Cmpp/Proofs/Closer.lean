import Cmpp.Proofs.Closing
import Cmpp.Proofs.Lifecycle
import Cmpp.Proofs.Shutdown

/-!
# The one who closes

Whoever closes a connection first is the only one to tear its transport down. On a closed connection
a move takes the closing on, or gives it up, or has nothing to do with it and leaves the journal as
it is (`Endpoint.sequel`); so nobody else comes to close the connection (`Endpoint.SoleCloser`), and
what is asked of the transport fits how far the closing has come (`Endpoint.Underway`): nothing
before the write lock is obtained, then flushes until one has a result, and then shutdowns until one
has a result, whatever the results are.
-/

namespace Cmpp

variable {σ : Type} {io : Transport σ}

/-! ## What is asked of the transport -/

namespace Line

/-- What was asked of the transport, in order: the journal without the notes. -/
def requests (line : Line σ) : List Event := line.history.filter (·.note?.isNone)

/-- What is entered and is not a note was asked of the transport. -/
theorem requests_enter (line : Line σ) {event : Event} (asks : event.note? = none) (state : σ) :
    (line.enter event state).requests = line.requests ++ [event] := by
  simp [requests, asks]

/-- A note asks nothing of the transport. -/
@[simp] theorem requests_note (line : Line σ) (note : Note) :
    (line.note note).requests = line.requests := by
  simp [requests, Line.note, Event.note?]

variable {line after : Line σ} {outcome : Poll (Except Failure Unit)}

/-- A flush is asked of the transport. -/
theorem requests_flush (flushed : line.flush io = (outcome, after)) :
    after.requests = line.requests ++ [.flush outcome] := by
  cases flushed
  exact requests_enter line rfl _

/-- A shutdown is asked of the transport. -/
theorem requests_shutdown (done : line.shutdown io = (outcome, after)) :
    after.requests = line.requests ++ [.shutdown outcome] := by
  cases done
  exact requests_enter line rfl _

end Line

/-- Attempts that all have to wait. -/
def attempts (request : Poll (Except Failure Unit) → Event) (woken : List Bool) : List Event :=
  woken.map fun woken => request (.pending woken)

/-- One more attempt has to wait. -/
theorem attempts_concat (request : Poll (Except Failure Unit) → Event) (earlier : List Bool)
    (woken : Bool) :
    attempts request (earlier ++ [woken]) =
      attempts request earlier ++ [request (.pending woken)] :=
  List.map_append

/-- What has been asked of the transport when a closing is at some stage. -/
def Closing.Asked : Closing → List Event → Prop
  | .waiting, events => events = []
  | .flushing, events => ∃ flushes, events = attempts .flush flushes
  | .shuttingDown, events => ∃ flushes flushed shutdowns,
    events = attempts .flush flushes ++ [.flush (.ready flushed)] ++ attempts .shutdown shutdowns

/-- A transport has been torn down: flushed until the flush had a result, then shut down until the
shutdown had one. -/
def TornDown (events : List Event) : Prop :=
  ∃ flushes flushed shutdowns down, events =
    attempts .flush flushes ++ [.flush (.ready flushed)] ++ attempts .shutdown shutdowns ++
      [.shutdown (.ready down)]

/-- What has been asked of the transport fits what a closing has come to. -/
def Progress.Accounts (events : List Event) : Progress → Prop
  | .finished _ => TornDown events
  | .suspended _ (.closing stage) => stage.Asked events
  | .suspended _ (.sending ..) | .suspended _ (.receiving _) => False

namespace Endpoint

/-- Going on with the shutdown asks for a shutdown. -/
theorem advanceShutdown_asks (endpoint : Endpoint σ) (io : Transport σ) :
    ∃ more, (endpoint.advanceShutdown io).2.line.requests = endpoint.line.requests ++ more ∧
      ∀ events, Closing.shuttingDown.Asked events →
        (endpoint.advanceShutdown io).1.Accounts (events ++ more) := by
  unfold advanceShutdown
  split
  · rename_i woken line done
    refine ⟨_, Line.requests_shutdown done, ?_⟩
    rintro events ⟨flushes, flushed, shutdowns, rfl⟩
    refine ⟨flushes, flushed, shutdowns ++ [woken], ?_⟩
    rw [attempts_concat, List.append_assoc]
  · rename_i down line done
    refine ⟨[.shutdown (.ready down)], ?_, ?_⟩
    · cases down <;> simp only [Line.requests_note, Line.requests_shutdown done]
    · rintro events ⟨flushes, flushed, shutdowns, rfl⟩
      exact ⟨flushes, flushed, shutdowns, down, rfl⟩

/-- Going on with the flush asks for a flush, and then, once it has a result, for a shutdown. -/
theorem advanceFlush_asks (endpoint : Endpoint σ) (io : Transport σ) :
    ∃ more, (endpoint.advanceFlush io).2.line.requests = endpoint.line.requests ++ more ∧
      ∀ events, Closing.flushing.Asked events →
        (endpoint.advanceFlush io).1.Accounts (events ++ more) := by
  -- A flush with a result leads on to the shutdown, where nothing has been asked for yet.
  have leads : ∀ flushed line (next : Endpoint σ),
      endpoint.line.flush io = (.ready flushed, line) → next.line.requests = line.requests →
        ∃ more, (next.advanceShutdown io).2.line.requests = endpoint.line.requests ++ more ∧
          ∀ events, Closing.flushing.Asked events →
            (next.advanceShutdown io).1.Accounts (events ++ more) := by
    intro flushed line next done same
    obtain ⟨more, asked, accounts⟩ := advanceShutdown_asks next io
    refine ⟨[.flush (.ready flushed)] ++ more, ?_, ?_⟩
    · rw [asked, same, Line.requests_flush done, List.append_assoc]
    · rintro events ⟨flushes, rfl⟩
      rw [← List.append_assoc]
      exact accounts _ ⟨flushes, flushed, [], (List.append_nil _).symm⟩
  unfold advanceFlush
  split
  · rename_i woken line done
    refine ⟨_, Line.requests_flush done, ?_⟩
    rintro events ⟨flushes, rfl⟩
    exact ⟨flushes ++ [woken], (attempts_concat ..).symm⟩
  · rename_i line done
    exact leads _ line _ done rfl
  · rename_i failure line done
    exact leads _ line _ done (Line.requests_note ..)

/-- Going on with the closing of a connection asks for what fits the stage it has come to. -/
theorem advance_closing_asks (endpoint : Endpoint σ) (io : Transport σ) (id : TaskId)
    (stage : Closing) :
    ∃ more, (endpoint.advance io id (.closing stage)).2.line.requests =
        endpoint.line.requests ++ more ∧
      ∀ events, stage.Asked events →
        (endpoint.advance io id (.closing stage)).1.Accounts (events ++ more) := by
  cases stage with
  | waiting =>
    -- The first flush is asked for once the lock has been obtained, perhaps after a note.
    have leads : ∀ next : Endpoint σ, next.line.requests = endpoint.line.requests →
        ∃ more, (next.advanceFlush io).2.line.requests = endpoint.line.requests ++ more ∧
          ∀ events, Closing.waiting.Asked events →
            (next.advanceFlush io).1.Accounts (events ++ more) := by
      intro next same
      obtain ⟨more, asked, accounts⟩ := advanceFlush_asks next io
      refine ⟨more, by rw [asked, same], ?_⟩
      rintro events rfl
      exact accounts [] ⟨[], rfl⟩
    simp only [advance, advanceClosing]
    split
    · split
      · exact leads endpoint rfl
      · exact leads _ (Line.requests_note ..)
    · refine ⟨[], (List.append_nil _).symm, ?_⟩
      rintro events rfl
      rfl
  | flushing => exact advanceFlush_asks endpoint io
  | shuttingDown => exact advanceShutdown_asks endpoint io

variable {endpoint before after : Endpoint σ} {actor : Actor} {id : TaskId} {move : Move σ}
  {base : List Event}

/-! ## The lock -/

/-- Whoever closes the connection does nothing, and stays in the queue for the write lock, until it
holds the lock. -/
theorem advance_closing_unheld (io : Transport σ)
    (unheld : ¬endpoint.connection.writeLock.isHeldBy id) :
    endpoint.advance io id (.closing .waiting) = (.suspended false (.closing .waiting), endpoint) :=
  if_neg unheld

/-- A turn leaves whoever has got beyond the queue for the write lock the lock. -/
theorem Turn.closing_holds (turn : Turn io actor before after)
    (holds : ∀ id stage, before.connection.task? id = some (.closing stage) → stage ≠ .waiting →
      before.connection.writeLock.isHeldBy id) :
    ∀ id stage, after.connection.task? id = some (.closing stage) → stage ≠ .waiting →
      after.connection.writeLock.isHeldBy id := by
  intro id stage found beyond
  by_cases own : actor = .task id
  · cases turn with
    | enter free registered =>
      cases own
      rw [Connection.task?_keep_self] at found
      cases found
      cases Connection.registers registered
      exact (beyond rfl).elim
    | @poll _ _ task there =>
      cases own
      obtain ⟨readBuffer, writeBuffer, line, changed⟩ := advance_frame before io id task
      have continues := settle_continues found
      cases task with
      | sending | receiving => exact continues.elim
      | closing earlier =>
        have held : before.connection.writeLock.isHeldBy id := by
          by_cases waits : earlier = .waiting
          · subst waits
            by_contra unheld
            rw [advance_closing_unheld io unheld, settle_snd, Connection.task?_keep_self] at found
            cases found
            exact beyond rfl
          · exact holds id earlier there waits
        rw [settle_snd] at found ⊢
        split at found
        · simp at found
        · rename_i suspended
          simp only [changed]
          exact held
    | forget =>
      cases own
      simp at found
    | label => exact holds id stage found beyond
    | outside => cases own
  · rw [turn.task_other own] at found
    exact (turn.holds own).1 (holds id stage found beyond)

/-- In every state that a run reaches, whoever has got beyond the queue for the write lock to close
the connection holds the lock. -/
theorem Reachable.closing_holds {config : Config} (reachable : endpoint.Reachable io config) :
    ∀ id stage, endpoint.connection.task? id = some (.closing stage) → stage ≠ .waiting →
      endpoint.connection.writeLock.isHeldBy id :=
  reachable.keeps _ (fun turn => turn.closing_holds) fun state id stage found => by
    simp [establish, Connection.ofConfig, Connection.task?] at found

/-! ## Moves on a closed connection -/

/-- To close a connection again is in vain. -/
theorem step_close_again (io : Transport σ) (sound : endpoint.connection.Sound)
    (closed : endpoint.connection.closed) (free : endpoint.connection.task? id = none) :
    endpoint.step io (.start id .close) = (.polled (.ready .closed), endpoint) := by
  rw [step_start free]
  cases registered : endpoint.connection.register id .close with
  | mk result next =>
    cases Connection.registers registered with
    | closedAgain => simp only [sound.forget_free free]
    | closed _ other => exact (other rfl).elim
    | closing opened => exact (opened closed).elim

/-- What becomes of a closed connection in a move, as far as the closing goes. -/
inductive Sequel (io : Transport σ) (endpoint : Endpoint σ) : Move σ → Endpoint σ → Prop
  /-- The move has nothing to do with the closing. -/
  | apart {move : Move σ} {after : Endpoint σ}
    (history : after.line.history = endpoint.line.history)
    (closings : ∀ id stage, after.connection.task? id = some (.closing stage) ↔
      endpoint.connection.task? id = some (.closing stage)) :
    Sequel io endpoint move after
  /-- The closing is gone on with. -/
  | goesOn {id : TaskId} {stage : Closing}
    (found : endpoint.connection.task? id = some (.closing stage)) :
    Sequel io endpoint (.act (.poll id)) (settle id (endpoint.advance io id (.closing stage))).2
  /-- The closing is given up. -/
  | givenUp {id : TaskId} {stage : Closing}
    (found : endpoint.connection.task? id = some (.closing stage)) :
    Sequel io endpoint (.act (.cancel id)) (endpoint.forgetting id)

/-- A move on a closed connection goes on with the closing, or gives it up, or has nothing to do
with it. -/
theorem sequel (io : Transport σ) (sound : endpoint.connection.Sound)
    (closed : endpoint.connection.closed) (move : Move σ) :
    endpoint.Sequel io move (endpoint.move io move) := by
  have still : ∀ {move after}, after = endpoint → endpoint.Sequel io move after := by
    rintro move _ rfl
    exact .apart rfl fun _ _ => Iff.rfl
  cases move with
  | change => exact .apart rfl fun _ _ => Iff.rfl
  | act action =>
    cases action with
    | start id call =>
      cases free : endpoint.connection.task? id with
      | some task => exact still (congrArg Prod.snd (step_start_taken free call))
      | none =>
        by_cases again : call = .close
        · subst again
          exact still (congrArg Prod.snd (step_close_again io sound closed free))
        · exact still (congrArg Prod.snd (step_start_closed io sound closed free again))
    | poll id =>
      cases found : endpoint.connection.task? id with
      | none => exact still (congrArg Prod.snd (step_poll_free found))
      | some task =>
        by_cases other : task.errand = .closing
        · cases task with
          | closing stage =>
            rw [Endpoint.move, step_poll found]
            exact .goesOn found
          | sending | receiving => cases other
        · rw [Endpoint.move, step_poll_closed io closed found other]
          exact .apart rfl (closings_forget found other)
    | cancel id =>
      cases found : endpoint.connection.task? id with
      | none => exact still (congrArg Prod.snd (step_cancel_free found))
      | some task =>
        rw [Endpoint.move, step_cancel found]
        by_cases other : task.errand = .closing
        · cases task with
          | closing stage => exact .givenUp found
          | sending | receiving => cases other
        · exact .apart rfl (closings_forget found other)
    | setLifecycle lifecycle =>
      simp only [Endpoint.move, step, Connection.setLifecycle]
      split
      · exact still rfl
      · exact .apart rfl fun _ _ => Iff.rfl
    | takeSequence | stopSequence => exact .apart rfl fun _ _ => Iff.rfl

/-! ## Who closes and how far the closing has come -/

/-- Nobody but one closes the connection. -/
def SoleCloser (endpoint : Endpoint σ) (id : TaskId) : Prop :=
  ∀ other stage, endpoint.connection.task? other = some (.closing stage) → other = id

/-- A move by which the closing of a connection is given up. -/
def Abandons (endpoint : Endpoint σ) (move : Move σ) : Prop :=
  ∃ id stage, move = .act (.cancel id) ∧ endpoint.connection.task? id = some (.closing stage)

/-- A move by which a task goes on with the closing of a connection while it holds the write
lock. -/
def GoesOnClosing (id : TaskId) (endpoint : Endpoint σ) (move : Move σ) : Prop :=
  move = .act (.poll id) ∧ (∃ stage, endpoint.connection.task? id = some (.closing stage)) ∧
    endpoint.connection.writeLock.isHeldBy id

/-- What has been asked of the transport, behind what was asked of it before, fits how far the
closing has come that a task is there for, or that is over. -/
def Underway (base : List Event) (id : TaskId) (endpoint : Endpoint σ) : Prop :=
  ∃ events, endpoint.line.requests = base ++ events ∧
    ((∃ stage, endpoint.connection.task? id = some (.closing stage) ∧ stage.Asked events) ∨
      endpoint.Unattended ∧ TornDown events)

/-- Nobody else comes to close a closed connection. -/
theorem Sequel.soleCloser (sequel : Sequel io endpoint move after) (sole : endpoint.SoleCloser id) :
    after.SoleCloser id := by
  intro other stage found
  cases sequel with
  | apart _ closings => exact sole other stage ((closings other stage).mp found)
  | @goesOn closer earlier there =>
    by_cases own : other = closer
    · exact own ▸ sole closer earlier there
    · have polled : Turn io (.task closer) endpoint _ := .poll there
      rw [polled.task_other fun same => own (Actor.task.inj same).symm] at found
      exact sole other stage found
  | @givenUp closer earlier there =>
    obtain ⟨-, before⟩ := Connection.task?_of_forget found
    exact sole other stage before

/-- Unless it is given up, the closing of a connection goes on as it should. -/
theorem Sequel.underway (sequel : Sequel io endpoint move after) (sole : endpoint.SoleCloser id)
    (underway : endpoint.Underway base id) (kept : ¬endpoint.Abandons move) :
    after.Underway base id := by
  obtain ⟨events, asked, reached⟩ := underway
  have others := sequel.soleCloser sole
  cases sequel with
  | apart history closings =>
    have same : after.line.requests = endpoint.line.requests := by
      rw [Line.requests, Line.requests, history]
    refine ⟨events, same.trans asked, reached.imp ?_ fun ⟨idle, done⟩ => ⟨?_, done⟩⟩
    · rintro ⟨stage, found, fits⟩
      exact ⟨stage, (closings id stage).mpr found, fits⟩
    · exact fun other stage found => idle other stage ((closings other stage).mp found)
  | @goesOn closer earlier found =>
    obtain rfl := sole closer earlier found
    obtain ⟨stage, there, fits⟩ := reached.resolve_right fun ended => ended.1 closer earlier found
    obtain rfl : stage = earlier := by
      rw [found] at there
      cases there
      rfl
    obtain ⟨more, grown, accounts⟩ := advance_closing_asks endpoint io closer stage
    have accounts := accounts events fits
    have requests : (endpoint.advance io closer (.closing stage)).2.line.requests =
        base ++ (events ++ more) := by
      rw [grown, asked, List.append_assoc]
    generalize endpoint.advance io closer (.closing stage) = result at *
    obtain ⟨progress, after⟩ := result
    cases progress with
    | finished outcome =>
      refine ⟨_, requests, .inr ⟨fun other left still => ?_, accounts⟩⟩
      have different := (Connection.task?_of_forget still).1
      exact different (others other left still)
    | suspended woken task =>
      cases task with
      | closing left => exact ⟨_, requests, .inl ⟨left, Connection.task?_keep_self, accounts⟩⟩
      | sending | receiving => exact accounts.elim
  | givenUp found => exact (kept ⟨_, _, rfl, found⟩).elim

/-- On a closed connection nothing is entered in the journal, unless the one who closes goes on with
it while it holds the write lock. -/
theorem Sequel.history_eq (sequel : Sequel io endpoint move after) (sole : endpoint.SoleCloser id)
    (holds : ∀ id stage, endpoint.connection.task? id = some (.closing stage) → stage ≠ .waiting →
      endpoint.connection.writeLock.isHeldBy id)
    (apart : ¬GoesOnClosing id endpoint move) : after.line.history = endpoint.line.history := by
  cases sequel with
  | apart history => exact history
  | givenUp => rfl
  | @goesOn closer stage found =>
    obtain rfl := sole closer stage found
    have unheld : ¬endpoint.connection.writeLock.isHeldBy closer := fun held =>
      apart ⟨rfl, ⟨stage, found⟩, held⟩
    obtain rfl : stage = .waiting := by
      by_contra beyond
      exact unheld (holds closer stage found beyond)
    rw [advance_closing_unheld io unheld]
    rfl

/-- Once nobody is closing a closed connection any more, nobody comes to, and nothing is entered in
the journal. -/
theorem Sequel.unattended (sequel : Sequel io endpoint move after)
    (unattended : endpoint.Unattended) :
    after.Unattended ∧ after.line.history = endpoint.line.history := by
  cases sequel with
  | apart history closings =>
    exact ⟨fun other stage found => unattended other stage ((closings other stage).mp found),
      history⟩
  | goesOn found | givenUp found => exact (unattended _ _ found).elim

/-! ## Runs -/

section Runs

variable {config : Config} (reachable : endpoint.Reachable io config)
include reachable

/-- A move after a run of a closed connection goes on with the closing, or gives it up, or has
nothing to do with it. -/
theorem Reachable.sequel_run (closed : endpoint.connection.closed) (moves : List (Move σ))
    (move : Move σ) :
    Sequel io (endpoint.run io moves) move (endpoint.run io (moves ++ [move])) := by
  rw [run_append]
  exact sequel io (reachable.run moves).sound ((precedes_run endpoint io moves).closed closed) move

/-- In no run of a closed connection somebody else comes to close it. -/
theorem Reachable.soleCloser_run (closed : endpoint.connection.closed)
    (sole : endpoint.SoleCloser id) (moves : List (Move σ)) :
    (endpoint.run io moves).SoleCloser id := by
  induction moves using List.reverseRecOn with
  | nil => exact sole
  | append_singleton moves move ih => exact (reachable.sequel_run closed moves move).soleCloser ih

/-- Unless it is given up, the closing of a connection goes on as it should in every run. -/
theorem Reachable.underway_run (closed : endpoint.connection.closed)
    (sole : endpoint.SoleCloser id) (underway : endpoint.Underway base id) (moves : List (Move σ))
    (kept : ¬endpoint.Happens io Abandons moves) : (endpoint.run io moves).Underway base id := by
  induction moves using List.reverseRecOn with
  | nil => exact underway
  | append_singleton moves move ih =>
    rw [happens_concat, not_or] at kept
    exact (reachable.sequel_run closed moves move).underway
      (reachable.soleCloser_run closed sole moves) (ih kept.1) kept.2

/-- Once nobody is closing a closed connection any more, nothing is entered in the journal in any
run. -/
theorem Reachable.unattended_run (closed : endpoint.connection.closed)
    (unattended : endpoint.Unattended) (moves : List (Move σ)) :
    (endpoint.run io moves).Unattended ∧
      (endpoint.run io moves).line.history = endpoint.line.history := by
  induction moves using List.reverseRecOn with
  | nil => exact ⟨unattended, rfl⟩
  | append_singleton moves move ih =>
    obtain ⟨still, same⟩ := (reachable.sequel_run closed moves move).unattended ih.1
    exact ⟨still, same.trans ih.2⟩

end Runs

/-- The first call to close a connection closes it, and its task is the one that closes it, which
has asked for nothing yet if the write lock is not to be had. -/
theorem start_closing (io : Transport σ) (sound : endpoint.connection.Sound)
    (opened : ¬endpoint.connection.closed) (free : endpoint.connection.task? id = none) :
    let started := endpoint.move io (.act (.start id .close))
    started.SoleCloser id ∧ started.Underway endpoint.line.requests id ∧
      (endpoint.connection.writeLock.queue ≠ [] →
        started.line.history = endpoint.line.history) := by
  intro started
  let middle : Endpoint σ :=
    { endpoint with
      connection :=
        Connection.keep
          { endpoint.connection.beginClosing with
            writeLock := endpoint.connection.writeLock.join id }
          id (.closing .waiting) }
  have found : middle.connection.task? id = some (.closing .waiting) := Connection.task?_keep_self
  have polled : started = middle.move io (.act (.poll id)) := by
    have registered : endpoint.connection.register id .close =
        (.ok (.closing .waiting), { endpoint.connection.beginClosing with
          writeLock := endpoint.connection.writeLock.join id }) := if_neg opened
    show (endpoint.step io (.start id .close)).2 = _
    rw [step_start free, registered]
    rfl
  have goesOn : Sequel io middle (.act (.poll id)) started := by
    rw [polled, move, step_poll found]
    exact .goesOn found
  have sole : middle.SoleCloser id := by
    intro other stage there
    rcases Connection.task?_of_keep there with ⟨same, -⟩ | ⟨-, before⟩
    · exact same
    · exact (opened (sound.closing other stage before)).elim
  have begun : middle.Underway endpoint.line.requests id :=
    ⟨[], (List.append_nil _).symm, .inl ⟨.waiting, found, rfl⟩⟩
  have kept : ¬middle.Abandons (.act (.poll id)) := by
    rintro ⟨_, _, ⟨⟩, _⟩
  refine ⟨goesOn.soleCloser sole, goesOn.underway sole begun kept, fun busy => ?_⟩
  have unheld : ¬middle.connection.writeLock.isHeldBy id :=
    mt (Lock.isHeldBy_join_self (sound.not_queued free).1).mp busy
  rw [polled, move, step_poll found, advance_closing_unheld io unheld]
  rfl

/-- A transport is torn down once, by whoever closes its connection first, and whatever fails. Until
a connection is called to close, nobody is closing it and its transport has not been shut down.
Every call to close it after the first one is over at once and leaves everything as it is. The first
one asks for nothing at once if others are in the queue for the write lock; and from then on nothing
is entered in the journal, and so nothing asked of the transport, unless its task goes on while it
holds the lock. If this task is not given up and is over, the transport has been flushed until the
flush had a result, and then shut down until the shutdown had one, whatever the results were, and
nothing else has been asked of it. Nothing more is entered once the task is over. -/
theorem torn_down_once (io : Transport σ) (config : Config) (state : σ)
    (earlier later : List (Move σ)) (id : TaskId) :
    let opened := establish io config state
    let before := opened.run io earlier
    let started := before.move io (.act (.start id .close))
    ¬opened.Happens io ClosedBy earlier →
      (∀ front, front <+: earlier →
        (opened.run io front).Unattended ∧ ¬(opened.run io front).line.ShutDown) ∧
      (before.free id →
        (∀ front other, front <+: later → (started.run io front).free other →
          (started.run io front).step io (.start other .close) =
            (.polled (.ready .closed), started.run io front)) ∧
        (before.connection.writeLock.queue ≠ [] → started.line.history = before.line.history) ∧
        (∀ front move, front ++ [move] <+: later →
          ¬GoesOnClosing id (started.run io front) move →
            (started.run io (front ++ [move])).line.history =
              (started.run io front).line.history) ∧
        (¬started.Happens io Abandons later → (started.run io later).Unattended →
          ∃ flushes flushed shutdowns down, (started.run io later).line.requests =
            before.line.requests ++ attempts .flush flushes ++ [.flush (.ready flushed)] ++
              attempts .shutdown shutdowns ++ [.shutdown (.ready down)]) ∧
        ∀ front, front <+: later → (started.run io front).Unattended →
          (started.run io later).line.history = (started.run io front).line.history) := by
  intro opened before started uncalled
  have untouched : ¬opened.status.closed := Bool.false_ne_true
  have isOpen : ∀ front, front <+: earlier → ¬(opened.run io front).connection.closed := by
    intro front inside closed
    rcases (closed_run opened io front).mp closed with already | ⟨calls, move, within, closes⟩
    · exact untouched already
    · exact uncalled ⟨calls, move, within.trans inside, closes⟩
  refine ⟨fun front inside => ⟨fun other stage found => ?_, ?_⟩, fun unused => ?_⟩
  · have reachable : (opened.run io front).Reachable io config := ⟨state, front, rfl⟩
    exact isOpen front inside (reachable.sound.closing other stage found)
  · exact ((teardown_run io config state front).opened (isOpen front inside)).1
  · have reachable : before.Reachable io config := ⟨state, earlier, rfl⟩
    have reached : started.Reachable io config := reachable.move _
    have free : before.connection.task? id = none := Option.isNone_iff_eq_none.mp unused
    have closed : started.connection.closed :=
      closed_move.mpr (.inr ⟨id, rfl, unused⟩)
    obtain ⟨sole, underway, waits⟩ :=
      start_closing io reachable.sound (isOpen earlier List.prefix_rfl) free
    refine ⟨fun front other _ vacant => ?_, waits, fun front move _ apart => ?_,
      fun kept ended => ?_, ?_⟩
    · exact step_close_again io (reached.run front).sound
        ((precedes_run started io front).closed closed) (Option.isNone_iff_eq_none.mp vacant)
    · exact (reached.sequel_run closed front move).history_eq
        (reached.soleCloser_run closed sole front) (reached.run front).closing_holds apart
    · obtain ⟨events, asked, reached⟩ := reached.underway_run closed sole underway later kept
      rcases reached with ⟨stage, found, -⟩ | ⟨-, flushes, flushed, shutdowns, down, rfl⟩
      · exact (ended id stage found).elim
      · refine ⟨flushes, flushed, shutdowns, down, ?_⟩
        rw [asked]
        simp only [List.append_assoc]
    · rintro front ⟨rest, rfl⟩ unattended
      rw [run_append]
      exact ((reached.run front).unattended_run ((precedes_run started io front).closed closed)
        unattended rest).2

/-- A stream whose first two flushes have to wait, whose third fails, and whose first shutdown has
to wait. -/
def troubled : Script where
  flushes := [.pending false, .pending false, .fail ⟨.brokenPipe, none⟩]
  shutdowns := [.pending false]

/-- A sender leaves, the first closer waits for its flush and then for its shutdown, and two others
close the connection too. -/
def insistent : List (Move Script) :=
  [.act (.start 3 .close), .act (.poll 1), .act (.poll 2), .act (.start 4 .close), .act (.poll 2),
    .act (.poll 2)]

/-- A connection on this stream is closed while a sender waits for its flush. The closer asks for
nothing until the sender has left, which enters nothing; those who close the connection again change
nothing; and once the closer is over, the stream has been flushed and shut down. -/
theorem torn_down_once_troubled :
    let opened := establish Script.transport { version := .v30 } troubled
    let before := opened.run Script.transport [.act (.start 1 (.send .probe))]
    let started := before.move Script.transport (.act (.start 2 .close))
    let after := started.run Script.transport insistent
    ¬before.line.ShutDown ∧ started.line.history = before.line.history ∧
      started.step Script.transport (.start 3 .close) = (.polled (.ready .closed), started) ∧
      (started.run Script.transport (insistent.take 2)).line.history =
        (started.run Script.transport (insistent.take 1)).line.history ∧
      ∃ flushes flushed shutdowns down, after.line.requests =
        before.line.requests ++ attempts .flush flushes ++ [.flush (.ready flushed)] ++
          attempts .shutdown shutdowns ++ [.shutdown (.ready down)] := by
  intro opened before started after
  have uncalled : ¬opened.Happens Script.transport ClosedBy [.act (.start 1 (.send .probe))] := by
    have isOpen : ¬before.status.closed := by decide +kernel
    exact fun happens => isOpen ((closed_run ..).mpr (.inr happens))
  have kept : ¬started.Happens Script.transport Abandons insistent := by
    rintro ⟨front, move, inside, id, stage, rfl, -⟩
    have made : .act (.cancel id) ∈ insistent :=
      inside.subset (List.mem_append_right _ List.mem_cons_self)
    simp [insistent] at made
  have ended : after.Unattended := by
    have nobody : after.connection.tasks = [] := by decide +kernel
    simp [Unattended, Connection.task?, nobody]
  obtain ⟨untouched, once⟩ := torn_down_once Script.transport { version := .v30 } troubled
    [.act (.start 1 (.send .probe))] insistent 2 uncalled
  obtain ⟨vain, waits, idle, done, -⟩ := once (by decide +kernel)
  refine ⟨(untouched _ List.prefix_rfl).2, waits (by decide +kernel),
    vain [] 3 List.nil_prefix (by decide +kernel), ?_, done kept ended⟩
  refine idle (insistent.take 1) (.act (.poll 1)) ⟨insistent.drop 2, rfl⟩ ?_
  rintro ⟨⟨⟩, -⟩

end Endpoint

end Cmpp
