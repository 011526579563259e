import Cmpp.Proofs.Intake
import Cmpp.Proofs.Ledger
import Cmpp.Proofs.Turns

/-!
# The receivers of a run

A roll is kept of the receivers of a run: in which order they made their calls, and of those that
have ended, in the order in which they did, the bytes that each has taken and how it ended. The roll
is read off the actions of the run, what they came to, and the bytes that had been taken before and
after each.

The bytes that the transport has delivered are those that the receivers have taken, one receiver
after another, and those that the read buffer holds; and every receiver has come to what the bytes
that it has taken come to (`Roll.Accounts`). As long as no receiver is given up and the connection
is not closed, the receivers end in the order of their calls.
-/

namespace Cmpp

variable {σ : Type} {io : Transport σ}

/-- A receiver that has ended. -/
structure Departure where
  /-- The task that received. -/
  id : TaskId
  /-- The bytes that it has taken. -/
  taken : Bytes
  /-- How it ended. -/
  ending : Ending
  deriving DecidableEq

/-- The receivers of a run. -/
structure Roll where
  /-- The tasks that have made a call to receive, in the order of their first polls. -/
  callers : List TaskId := []
  /-- The receivers that have ended, in the order in which they did. -/
  departures : List Departure := []
  /-- The bytes that the receiver has taken which holds the read lock. -/
  current : Bytes := []

/-- The bytes that receivers have taken off the read buffer. -/
def Endpoint.intake (endpoint : Endpoint σ) : Bytes :=
  endpoint.line.delivered.take
    (endpoint.line.delivered.length - endpoint.connection.readBuffer.held.length)

namespace Roll

/-- All the bytes that the receivers have taken that have ended. -/
def taken (roll : Roll) : Bytes := roll.departures.flatMap (·.taken)

/-- Enter a call to receive. -/
def call (roll : Roll) (id : TaskId) : Roll := { roll with callers := roll.callers ++ [id] }

/-- The bytes that a receiver has taken, given whether it holds the read lock. -/
def share (roll : Roll) (held : Bool) : Bytes := if held then roll.current else []

/-- Enter that a receiver has ended, given whether it held the read lock and the bytes that it took
last. -/
def depart (roll : Roll) (id : TaskId) (held : Bool) (gained : Bytes) (ending : Ending) : Roll :=
  { roll with
    departures := roll.departures ++ [⟨id, roll.share held ++ gained, ending⟩]
    current := if held then [] else roll.current }

/-- A receiver that has ended adds to the bytes taken those that it has taken. -/
@[simp] theorem taken_depart (roll : Roll) (id : TaskId) (held : Bool) (gained : Bytes)
    (ending : Ending) :
    (roll.depart id held gained ending).taken = roll.taken ++ (roll.share held ++ gained) := by
  simp [taken, depart]

/-- Enter what came of a poll and the bytes that were taken meanwhile. -/
def follow (roll : Roll) (id : TaskId) (held : Bool) (gained : Bytes) : Poll Outcome → Roll
  | .pending _ => { roll with current := roll.current ++ gained }
  | .ready outcome => roll.depart id held gained (.returned outcome)

/-- Enter an action, given what it came to and the endpoint before and after it. -/
def record (roll : Roll) (before after : Endpoint σ) : Action → Reply → Roll
  | _, .misnamed => roll
  | .start id .receive, .polled polled =>
    (roll.call id).follow id before.connection.readLock.queue.isEmpty
      (after.intake.drop before.intake.length) polled
  | .poll id, .polled polled =>
    match before.connection.task? id with
    | some (.receiving _) =>
      roll.follow id (before.connection.readLock.isHeldBy id)
        (after.intake.drop before.intake.length) polled
    | _ => roll
  | .cancel id, .done =>
    match before.connection.task? id with
    | some (.receiving _) =>
      roll.depart id (before.connection.readLock.isHeldBy id) [] .cancelled
    | _ => roll
  | _, _ => roll

/-- Enter a move. -/
def observe (io : Transport σ) (roll : Roll) (endpoint : Endpoint σ) : Move σ → Roll
  | .act action =>
    let (reply, after) := endpoint.step io action
    roll.record endpoint after action reply
  | .change _ => roll

/-- The roll of a run. -/
def ofRun (io : Transport σ) : Endpoint σ → List (Move σ) → Roll → Roll
  | _, [], roll => roll
  | endpoint, move :: moves, roll =>
    ofRun io (endpoint.move io move) moves (roll.observe io endpoint move)

end Roll

namespace Roll

variable {roll : Roll}

/-- No receiver has been given up. -/
def Kept (roll : Roll) : Prop := ∀ departure ∈ roll.departures, departure.ending ≠ .cancelled

/-- Whoever comes to an outcome has not been given up. -/
theorem Kept.follow (kept : roll.Kept) (id : TaskId) (held : Bool) (gained : Bytes)
    (polled : Poll Outcome) : (roll.follow id held gained polled).Kept := by
  cases polled with
  | pending woken => exact kept
  | ready outcome =>
    intro departure inside
    rcases List.mem_append.mp inside with earlier | last
    · exact kept departure earlier
    · rw [List.mem_singleton.mp last]
      simp

/-- Receivers are given up only by being cancelled. -/
theorem Kept.ofRun {endpoint : Endpoint σ} {moves : List (Move σ)} (kept : roll.Kept)
    (uncancelled : ∀ id, .act (.cancel id) ∉ moves) : (ofRun io endpoint moves roll).Kept := by
  induction moves generalizing endpoint roll with
  | nil => exact kept
  | cons move moves ih =>
    refine ih ?_ fun id inside => uncancelled id (List.mem_cons_of_mem _ inside)
    cases move with
    | change change => exact kept
    | act action =>
      simp only [observe, record]
      split
      · exact kept
      · exact Kept.follow (show (roll.call _).Kept from kept) _ _ _ _
      · split
        · exact kept.follow _ _ _ _
        · exact kept
      · exact (uncancelled _ List.mem_cons_self).elim
      · exact kept

end Roll

/-! ## What receivers come to -/

/-- What a receiver is told of the decoding of a body. -/
def told : Except Error Packet → Outcome
  | .ok packet => .received packet
  | .error error => .failed error

/-- What a receiver ends with that has taken certain bytes, after others had taken bytes before. -/
inductive Receipt (endpoint : Endpoint σ) (earlier : Bytes) : Bytes → Ending → Prop
  /-- It is told what its bytes come to. -/
  | returned {taken : Bytes} {result : Except Error (Preamble × Bytes)}
    (comes : Comes endpoint.connection.version endpoint.line.history earlier taken result) :
    Receipt endpoint earlier taken (.returned (told (result.bind fun (preamble, body) =>
      decodeBody endpoint.connection.version preamble body)))
  /-- The connection was closed inside its frame. -/
  | closed {assembly : Assembly} (checked : assembly.Checked endpoint.connection.version)
    (closed : endpoint.connection.closed) :
    Receipt endpoint earlier assembly.bytes (.returned (.failed .connectionClosed))
  /-- It was given up inside its frame. -/
  | cancelled {assembly : Assembly} (checked : assembly.Checked endpoint.connection.version) :
    Receipt endpoint earlier assembly.bytes .cancelled

/-- What receivers end with, one after another. -/
def Receipts (endpoint : Endpoint σ) : Bytes → List Departure → Prop
  | _, [] => True
  | earlier, departure :: later =>
    Receipt endpoint earlier departure.taken departure.ending ∧
      Receipts endpoint (earlier ++ departure.taken) later

variable {endpoint before after : Endpoint σ} {earlier : Bytes}

/-- What bytes come to is settled for good. -/
theorem Comes.later {version : Version} {history longer : List Event} {taken : Bytes}
    {result : Except Error (Preamble × Bytes)} (comes : Comes version history earlier taken result)
    (grown : history <+: longer) : Comes version longer earlier taken result := by
  cases comes with
  | whole accepted valid length => exact .whole accepted valid length
  | invalidTotalLength refused => exact .invalidTotalLength refused
  | invalidCommand accepted refused => exact .invalidCommand accepted refused
  | truncated checked broken => exact .truncated checked (broken.later grown)
  | failed failure checked broken => exact .failed failure checked (broken.later grown)

/-- A receiver ends with what its bytes come to. -/
theorem Receipt.of_comes {version : Version} {taken : Bytes} {outcome : Outcome}
    {result : Except Error (Preamble × Bytes)} (same : endpoint.connection.version = version)
    (comes : Comes version endpoint.line.history earlier taken result)
    (tells : outcome = told (result.bind fun (preamble, body) =>
      decodeBody version preamble body)) :
    Receipt endpoint earlier taken (.returned outcome) := by
  subst same
  rw [tells]
  exact .returned comes

/-- What a receiver has ended with does not change. -/
theorem Receipt.later {taken : Bytes} {ending : Ending}
    (receipt : Receipt before earlier taken ending)
    (version : after.connection.version = before.connection.version)
    (grown : before.line.history <+: after.line.history)
    (closed : before.connection.closed → after.connection.closed) :
    Receipt after earlier taken ending := by
  cases receipt with
  | returned comes =>
    rw [← version] at comes ⊢
    exact .returned (comes.later grown)
  | closed checked isClosed =>
    rw [← version] at checked
    exact .closed checked (closed isClosed)
  | cancelled checked =>
    rw [← version] at checked
    exact .cancelled checked

/-- What receivers have ended with does not change. -/
theorem Receipts.later {departures : List Departure}
    (receipts : Receipts before earlier departures)
    (version : after.connection.version = before.connection.version)
    (grown : before.line.history <+: after.line.history)
    (closed : before.connection.closed → after.connection.closed) :
    Receipts after earlier departures := by
  induction departures generalizing earlier with
  | nil => trivial
  | cons departure departures ih =>
    exact ⟨receipts.1.later version grown closed, ih receipts.2⟩

/-- One more receiver has ended. -/
theorem Receipts.concat {departures : List Departure} {departure : Departure}
    (receipts : Receipts endpoint earlier departures)
    (receipt : Receipt endpoint (earlier ++ departures.flatMap (·.taken)) departure.taken
      departure.ending) :
    Receipts endpoint earlier (departures ++ [departure]) := by
  induction departures generalizing earlier with
  | nil => exact ⟨by simpa using receipt, trivial⟩
  | cons first departures ih =>
    refine ⟨receipts.1, ih receipts.2 ?_⟩
    rwa [List.flatMap_cons, ← List.append_assoc] at receipt

/-- What holds of a roll and of an endpoint in every state of a run. -/
structure Roll.Accounts (roll : Roll) (endpoint : Endpoint σ) : Prop where
  /-- Every byte that was delivered has been taken or is held. -/
  delivered : endpoint.line.delivered =
    roll.taken ++ roll.current ++ endpoint.connection.readBuffer.held
  /-- The receivers have ended with what their bytes come to. -/
  receipts : Receipts endpoint [] roll.departures
  /-- Every receiver that has not ended has the bytes that it has taken. -/
  receivers : ∀ id assembly, endpoint.connection.task? id = some (.receiving assembly) →
    assembly.Checked endpoint.connection.version ∧
      assembly.bytes = roll.share (endpoint.connection.readLock.isHeldBy id)
  /-- Nobody has taken anything when there is nobody to take it. -/
  idle : endpoint.connection.readLock.queue = [] → roll.current = []
  /-- Unless the connection was closed or a receiver given up, the receivers end in the order of
  their calls. -/
  order : ¬endpoint.connection.closed →
    roll.Kept → roll.callers = roll.departures.map (·.id) ++ endpoint.connection.readLock.queue

namespace Roll.Accounts

variable {roll : Roll} {id : TaskId} {assembly : Assembly}

/-- The bytes that have been taken are those of the receivers that have ended and those of the one
that holds the lock. -/
theorem intake_eq {bytes : Bytes}
    (delivered : endpoint.line.delivered = bytes ++ endpoint.connection.readBuffer.held) :
    endpoint.intake = bytes := by
  rw [Endpoint.intake, delivered, List.length_append, Nat.add_sub_cancel, List.take_left]

/-- Nobody has received anything when a connection is opened. -/
theorem establish (io : Transport σ) (config : Config) (state : σ) :
    Accounts {} (.establish io config state) where
  delivered := by
    simp only [Endpoint.establish]
    repeat' split
    all_goals simp [Line.delivered, Line.history, Line.note, Line.enter, Event.delivered, taken,
      Connection.ofConfig]
  receipts := trivial
  receivers id assembly found := by
    simp [Endpoint.establish, Connection.ofConfig, Connection.task?] at found
  idle _ := rfl
  order _ _ := rfl

/-- The roll stays right when nothing happens that has to do with receivers. -/
theorem transfer (accounts : roll.Accounts before)
    (version : after.connection.version = before.connection.version)
    (delivered : after.line.delivered = before.line.delivered)
    (grown : before.line.history <+: after.line.history)
    (buffer : after.connection.readBuffer = before.connection.readBuffer)
    (lock : after.connection.readLock = before.connection.readLock)
    (receivers : ∀ id assembly, after.connection.task? id = some (.receiving assembly) →
      before.connection.task? id = some (.receiving assembly))
    (closed : before.connection.closed → after.connection.closed) : roll.Accounts after where
  delivered := by rw [delivered, buffer, accounts.delivered]
  receipts := accounts.receipts.later version grown closed
  receivers id assembly found := by
    rw [version, lock]
    exact accounts.receivers id assembly (receivers id assembly found)
  idle := by
    rw [lock]
    exact accounts.idle
  order opened kept := by
    rw [lock]
    exact accounts.order (fun isClosed => opened (closed isClosed)) kept

/-- A receiver is in the queue for the read lock. -/
theorem queued (sound : endpoint.connection.Sound)
    (found : endpoint.connection.task? id = some (.receiving assembly)) :
    id ∈ endpoint.connection.readLock.queue :=
  (sound.readers.mem_iff id).mpr ⟨_, found, by simp [Task.writes]⟩

/-- What a poll of a receiver changes, given whether it holds the read lock and the bytes that it
takes. -/
structure Takes (roll : Roll) (endpoint middle : Endpoint σ) (held : Bool) (gained : Bytes) :
    Prop where
  /-- Nothing is changed of the connection but the read buffer. -/
  frame : ∃ readBuffer, middle.connection = { endpoint.connection with readBuffer }
  /-- The journal only grows. -/
  grown : endpoint.line.history <+: middle.line.history
  /-- The bytes are taken off the front of those that nobody has taken. -/
  delivered : middle.line.delivered =
    roll.taken ++ (roll.current ++ gained) ++ middle.connection.readBuffer.held
  /-- Nothing is taken without the lock. -/
  silent : ¬held → gained = []

/-- A poll of a receiver leaves the version, the queue for the read lock, all tasks and whether the
connection is closed as they are. -/
theorem Takes.unchanged {middle : Endpoint σ} {held : Bool} {gained : Bytes}
    (takes : Takes roll endpoint middle held gained) :
    middle.connection.version = endpoint.connection.version ∧
      middle.connection.readLock = endpoint.connection.readLock ∧
      middle.connection.closed = endpoint.connection.closed ∧
      ∀ other, middle.connection.task? other = endpoint.connection.task? other := by
  obtain ⟨readBuffer, changed⟩ := takes.frame
  rw [changed]
  exact ⟨rfl, rfl, rfl, fun _ => rfl⟩

/-- The roll stays right when a receiver ends. Unless the connection was closed or the receiver
given up, it held the lock. -/
theorem depart {middle : Endpoint σ} {held : Bool} {gained : Bytes} {ending : Ending}
    (accounts : roll.Accounts endpoint) (sound : endpoint.connection.Sound)
    (found : endpoint.connection.task? id = some (.receiving assembly))
    (holds : held = endpoint.connection.readLock.isHeldBy id)
    (takes : Takes roll endpoint middle held gained)
    (receipt : Receipt middle roll.taken (roll.share held ++ gained) ending)
    (fair : ¬endpoint.connection.closed → ending ≠ .cancelled → held) :
    (roll.depart id held gained ending).Accounts
      { middle with connection := middle.connection.forget id } := by
  obtain ⟨version, lock, closed, tasks⟩ := takes.unchanged
  obtain ⟨-, grown, delivered, silent⟩ := takes
  have inside := queued sound found
  have receipts : Receipts middle [] (roll.depart id held gained ending).departures :=
    (accounts.receipts.later version grown fun isClosed => closed.trans isClosed).concat receipt
  refine ⟨?_, receipts.later rfl List.prefix_rfl fun isClosed => isClosed,
    fun other assembly kept => ?_, fun empty => ?_, fun opened given => ?_⟩
  · rw [delivered, taken_depart]
    cases held with
    | true => simp [Roll.depart, share, Connection.forget]
    | false => simp [Roll.depart, share, Connection.forget, silent]
  · obtain ⟨different, there⟩ := Connection.task?_of_forget kept
    obtain ⟨checked, bytes⟩ := accounts.receivers other assembly ((tasks other).symm.trans there)
    refine ⟨version ▸ checked, bytes.trans ?_⟩
    simp only [Connection.forget, lock]
    cases held with
    | true =>
      have unheld : ¬endpoint.connection.readLock.isHeldBy other := fun alsoHeld =>
        different (Lock.holder_unique holds.symm alsoHeld)
      simp [share, Roll.depart, unheld]
    | false =>
      have same := Lock.isHeldBy_leave_iff inside (by simp [← holds]) different.symm
      simp [share, Roll.depart, same]
  · cases held with
    | true => rfl
    | false =>
      rw [Connection.forget, lock] at empty
      exact (Lock.queue_of_unheld inside (by simp [← holds]) empty).elim
  · have isHeld := fair (fun isClosed => opened (closed.trans isClosed))
      (given _ (List.mem_append_right _ List.mem_cons_self))
    have order := accounts.order (fun isClosed => opened (closed.trans isClosed))
      fun departure earlier => given departure (List.mem_append_left _ earlier)
    rw [Lock.queue_of_held (holds.symm.trans isHeld)] at order
    simpa [Roll.depart, Connection.forget, Lock.leave, lock] using order

/-- The roll stays right when a receiver has to wait. -/
theorem suspend {middle : Endpoint σ} {held : Bool} {gained : Bytes} {left : Assembly}
    (accounts : roll.Accounts endpoint) (sound : endpoint.connection.Sound)
    (found : endpoint.connection.task? id = some (.receiving assembly))
    (holds : held = endpoint.connection.readLock.isHeldBy id)
    (takes : Takes roll endpoint middle held gained)
    (checked : left.Checked endpoint.connection.version)
    (bytes : left.bytes = roll.share held ++ gained) :
    Roll.Accounts { roll with current := roll.current ++ gained }
      { middle with connection := middle.connection.keep id (.receiving left) } := by
  obtain ⟨version, lock, closed, tasks⟩ := takes.unchanged
  obtain ⟨-, grown, delivered, silent⟩ := takes
  refine ⟨delivered,
    (accounts.receipts.later version grown fun isClosed => closed.trans isClosed).later rfl
      List.prefix_rfl fun isClosed => isClosed,
    fun other assembly kept => ?_, fun empty => ?_, fun opened given => ?_⟩
  · simp only [Connection.keep, version, lock]
    rcases Connection.task?_of_keep kept with ⟨rfl, same⟩ | ⟨different, there⟩
    · cases same
      refine ⟨checked, bytes.trans ?_⟩
      rw [← holds]
      cases held with
      | true => rfl
      | false => simp [share, silent]
    · obtain ⟨otherChecked, otherBytes⟩ :=
        accounts.receivers other assembly ((tasks other).symm.trans there)
      refine ⟨otherChecked, otherBytes.trans ?_⟩
      cases held with
      | true =>
        have unheld : ¬endpoint.connection.readLock.isHeldBy other := fun alsoHeld =>
          different (Lock.holder_unique holds.symm alsoHeld)
        simp [share, unheld]
      | false => simp [share, silent]
  · rw [Connection.keep, lock] at empty
    have inside := queued sound found
    rw [empty] at inside
    cases inside
  · rw [Connection.keep, lock]
    exact accounts.order (fun isClosed => opened (closed.trans isClosed)) given

/-- Going on with a receiver takes bytes, and leaves it inside its frame or ends it with what its
bytes come to; it ends only with the lock, unless the connection has been closed. -/
theorem advance {middle : Endpoint σ} {progress : Progress}
    (accounts : roll.Accounts endpoint)
    (found : endpoint.connection.task? id = some (.receiving assembly))
    (advanced : endpoint.advance io id (.receiving assembly) = (progress, middle)) :
    ∃ gained, Takes roll endpoint middle (endpoint.connection.readLock.isHeldBy id) gained ∧
      match progress with
      | .suspended _ left => ∃ rest, left = .receiving rest ∧
          rest.Checked endpoint.connection.version ∧
          rest.bytes = roll.share (endpoint.connection.readLock.isHeldBy id) ++ gained
      | .finished outcome =>
        Receipt middle roll.taken
            (roll.share (endpoint.connection.readLock.isHeldBy id) ++ gained)
            (.returned outcome) ∧
          (¬endpoint.connection.closed → endpoint.connection.readLock.isHeldBy id) := by
  obtain ⟨checked, bytes⟩ := accounts.receivers id assembly found
  have unchanged : Takes roll endpoint endpoint (endpoint.connection.readLock.isHeldBy id) [] :=
    ⟨⟨_, rfl⟩, List.prefix_rfl, by simpa using accounts.delivered, fun _ => rfl⟩
  simp only [Endpoint.advance, Endpoint.advanceReceiving] at advanced
  split at advanced
  · rename_i closed
    cases advanced
    refine ⟨[], unchanged, ?_, fun opened => (opened closed).elim⟩
    rw [List.append_nil, ← bytes]
    exact .closed checked closed
  · split at advanced
    · rename_i held
      have before := accounts.delivered
      rw [held] at bytes ⊢
      rw [← show assembly.bytes = roll.current from bytes] at before
      have calls := Assembly.poll_calls checked.unfinished io endpoint.connection.readBuffer
        endpoint.line
      cases polled : assembly.poll endpoint.connection.version io endpoint.connection.readBuffer
        endpoint.line with
      | mk result others =>
        obtain ⟨left, buffer, line⟩ := others
        obtain ⟨gained, delivered, polls⟩ := Assembly.poll_takes checked before polled
        rw [polled] at calls advanced
        rw [bytes] at delivered polls
        have grown := calls.history_prefix
        refine ⟨gained, ?_⟩
        rcases result with (error | ⟨preamble, body⟩) | woken
        · cases advanced
          exact ⟨⟨⟨_, rfl⟩, grown, delivered, by simp⟩, .of_comes rfl polls rfl, fun _ => rfl⟩
        · cases decoded : decodeBody endpoint.connection.version preamble body with
          | error error =>
            simp only [decoded] at advanced
            cases advanced
            have tells : told (.error error) = told (decodeBody endpoint.connection.version
                preamble body) := by rw [decoded]
            exact ⟨⟨⟨_, rfl⟩, grown, delivered, by simp⟩, .of_comes rfl polls tells, fun _ => rfl⟩
          | ok packet =>
            simp only [decoded] at advanced
            cases advanced
            have tells : told (.ok packet) = told (decodeBody endpoint.connection.version
                preamble body) := by rw [decoded]
            let noted : Note :=
              .frameReceived packet.command packet.sequenceId preamble.totalLength
            have history : (line.note noted).history = line.history ++ [.note noted] :=
              Line.history_enter ..
            have further : line.history <+: (line.note noted).history :=
              history ▸ List.prefix_append _ _
            refine ⟨⟨⟨_, rfl⟩, grown.trans further, ?_, by simp⟩,
              .of_comes rfl (Comes.later polls further) tells, fun _ => rfl⟩
            exact (Line.delivered_note line noted).trans delivered
        · cases advanced
          exact ⟨⟨⟨_, rfl⟩, grown, delivered, by simp⟩, left, rfl, polls⟩
    · cases advanced
      exact ⟨[], unchanged, assembly, rfl, checked, by simpa using bytes⟩

/-- The frames that are being received are not complete. -/
theorem unfinished (accounts : roll.Accounts endpoint) : endpoint.Unfinished := by
  intro id task found
  cases task with
  | receiving assembly => exact (accounts.receivers id assembly found).1.unfinished
  | sending | closing => trivial

/-- A task that is not a receiver is not in the queue for the read lock. -/
theorem not_queued (sound : endpoint.connection.Sound)
    (other : ∀ assembly, endpoint.connection.task? id ≠ some (.receiving assembly)) :
    id ∉ endpoint.connection.readLock.queue := by
  intro inside
  obtain ⟨task, found, reads⟩ := (sound.readers.mem_iff id).mp inside
  cases task with
  | receiving assembly => exact other assembly found
  | sending | closing => exact reads rfl

/-- The roll stays right in a turn of a task that is no receiver. -/
theorem turn {actor : Actor} (accounts : roll.Accounts before) (sound : before.connection.Sound)
    (turn : Endpoint.Turn io actor before after)
    (idleBefore : ∀ id assembly, actor = .task id →
      before.connection.task? id ≠ some (.receiving assembly))
    (idleAfter : ∀ id assembly, actor = .task id →
      after.connection.task? id ≠ some (.receiving assembly)) : roll.Accounts after := by
  refine accounts.transfer turn.version ?_ (turn.history_prefix accounts.unfinished) ?_ ?_ ?_
    turn.closed
  · rcases turn.calls accounts.unfinished with ⟨id, task, rfl, found, calls⟩ | same | ⟨-, same⟩
    · refine calls.delivered_eq ?_
      cases task with
      | receiving assembly => exact (idleBefore id assembly rfl found).elim
      | sending | closing => simp [Task.errand]
    · rw [same]
    · rw [Line.delivered, Line.delivered, same]
  · cases turn with
    | enter free registered => cases Connection.registers registered <;> rfl
    | @poll _ id task found =>
      have other : ∀ assembly, task ≠ .receiving assembly := fun assembly same =>
        idleBefore id assembly rfl (same ▸ found)
      rw [Endpoint.settle_snd]
      split <;> exact Endpoint.advance_readBuffer io id other
    | forget | label | outside => rfl
  · cases turn with
    | enter free registered =>
      cases Connection.registers registered with
      | receiving => exact (idleAfter _ _ rfl Connection.task?_keep_self).elim
      | closing | sendingAs | sending => rfl
    | @poll _ id task found =>
      have absent := not_queued sound fun assembly => idleBefore id assembly rfl
      obtain ⟨readBuffer, writeBuffer, line, changed⟩ := Endpoint.advance_frame before io id task
      rw [Endpoint.settle_snd, changed]
      split
      · simp [Connection.forget, Lock.leave, List.erase_of_not_mem absent]
      · rfl
    | forget _ id =>
      have absent := not_queued sound fun assembly => idleBefore id assembly rfl
      simp [Connection.forget, Lock.leave, List.erase_of_not_mem absent]
    | label | outside => rfl
  · intro id assembly found
    by_cases own : actor = .task id
    · exact (idleAfter id assembly own found).elim
    · rwa [turn.task_other own] at found

/-- The roll stays right when a receiver is polled. -/
theorem poll {polled : Poll Outcome} (accounts : roll.Accounts endpoint)
    (sound : endpoint.connection.Sound)
    (found : endpoint.connection.task? id = some (.receiving assembly))
    (settled : Endpoint.settle id (endpoint.advance io id (.receiving assembly)) =
      (polled, after)) :
    (roll.follow id (endpoint.connection.readLock.isHeldBy id)
      (after.intake.drop endpoint.intake.length) polled).Accounts after := by
  cases advanced : endpoint.advance io id (.receiving assembly) with
  | mk progress middle =>
    obtain ⟨gained, takes, tells⟩ := accounts.advance found advanced
    have taken : middle.intake = endpoint.intake ++ gained := by
      rw [intake_eq takes.delivered, intake_eq accounts.delivered, List.append_assoc]
    rw [advanced] at settled
    cases progress with
    | finished outcome =>
      cases settled
      have same : middle.intake.drop endpoint.intake.length = gained := by
        rw [taken, List.drop_left]
      obtain ⟨receipt, fair⟩ := tells
      have departed := accounts.depart sound found rfl takes receipt fun opened _ => fair opened
      rw [← same] at departed
      exact departed
    | suspended woken left =>
      cases settled
      have same : middle.intake.drop endpoint.intake.length = gained := by
        rw [taken, List.drop_left]
      obtain ⟨rest, rfl, checked, bytes⟩ := tells
      have suspended := accounts.suspend sound found rfl takes checked bytes
      rw [← same] at suspended
      exact suspended

/-- The roll stays right when a receiver joins the queue. -/
theorem enter {next : Connection} (accounts : roll.Accounts endpoint)
    (sound : endpoint.connection.Sound)
    (free : endpoint.connection.task? id = none)
    (joined : next =
      { endpoint.connection with readLock := endpoint.connection.readLock.join id }) :
    (roll.call id).Accounts
      { endpoint with connection := next.keep id (.receiving .empty) } := by
  have absent := (sound.not_queued free).2
  subst joined
  refine ⟨accounts.delivered, accounts.receipts.later rfl List.prefix_rfl fun closed => closed,
    fun other assembly found => ?_, fun empty => ?_, fun opened given => ?_⟩
  · simp only [Connection.keep]
    rcases Connection.task?_of_keep found with ⟨rfl, same⟩ | ⟨-, there⟩
    · cases same
      refine ⟨Nat.zero_lt_succ 3, ?_⟩
      by_cases alone : endpoint.connection.readLock.queue = []
      · simp [Roll.call, share, accounts.idle alone, Assembly.empty, Assembly.bytes]
      · have unheld := mt (Lock.isHeldBy_join_self absent).mp alone
        simp [share, unheld, Assembly.empty, Assembly.bytes]
    · obtain ⟨checked, bytes⟩ := accounts.receivers other assembly there
      have still := Lock.isHeldBy_join_eq (List.ne_nil_of_mem (queued sound there)) id other
      exact ⟨checked, by rw [bytes, still]; rfl⟩
  · simp [Connection.keep, Lock.join] at empty
  · have order := accounts.order opened given
    simp [Roll.call, Connection.keep, Lock.join, order]

/-- The roll stays right when a call to receive is refused because the connection has been
closed. -/
theorem refuse (accounts : roll.Accounts endpoint) (closed : endpoint.connection.closed)
    (absent : id ∉ endpoint.connection.readLock.queue) :
    ((roll.call id).depart id endpoint.connection.readLock.queue.isEmpty []
      (.returned (.failed .connectionClosed))).Accounts
        { endpoint with connection := endpoint.connection.forget id } := by
  have nothing : roll.share endpoint.connection.readLock.queue.isEmpty = [] := by
    by_cases alone : endpoint.connection.readLock.queue = []
    · simp [share, accounts.idle alone]
    · simp [share, alone]
  have current : ((roll.call id).depart id endpoint.connection.readLock.queue.isEmpty []
      (.returned (.failed .connectionClosed))).current = roll.current := by
    by_cases alone : endpoint.connection.readLock.queue = []
    · simp [Roll.depart, alone, accounts.idle alone]
    · simp [Roll.depart, Roll.call, alone]
  have lock : endpoint.connection.readLock.leave id = endpoint.connection.readLock := by
    rw [Lock.leave, List.erase_of_not_mem absent]
  have receipt : Receipt endpoint roll.taken
      (roll.share endpoint.connection.readLock.queue.isEmpty ++ [])
      (.returned (.failed .connectionClosed)) := by
    rw [nothing]
    have empty : Assembly.Checked endpoint.connection.version .empty := Nat.zero_lt_succ 3
    exact .closed empty closed
  have receipts : Receipts endpoint [] ((roll.call id).depart id
      endpoint.connection.readLock.queue.isEmpty []
        (.returned (.failed .connectionClosed))).departures := accounts.receipts.concat receipt
  refine ⟨?_, receipts.later rfl List.prefix_rfl fun isClosed => isClosed,
    fun other assembly found => ?_, fun empty => ?_, fun opened => (opened closed).elim⟩
  · have taken : (roll.call id).share endpoint.connection.readLock.queue.isEmpty = [] := nothing
    rw [current, taken_depart, taken, List.append_nil, List.append_nil]
    exact accounts.delivered
  · simp only [Connection.forget, lock, share, current]
    obtain ⟨-, there⟩ := Connection.task?_of_forget found
    exact accounts.receivers other assembly there
  · rw [current]
    rw [Connection.forget, lock] at empty
    exact accounts.idle empty

/-- A call to receive keeps the roll right: it joins the queue and is polled, or it is refused
because the connection has been closed. -/
theorem start (accounts : roll.Accounts endpoint) (sound : endpoint.connection.Sound)
    (free : endpoint.connection.task? id = none) :
    (roll.record endpoint (endpoint.step io (.start id .receive)).2 (.start id .receive)
      (endpoint.step io (.start id .receive)).1).Accounts
        (endpoint.step io (.start id .receive)).2 := by
  have absent := (sound.not_queued free).2
  have started : endpoint.step io (.start id .receive) = _ := Endpoint.step_start free .receive
  rw [started]
  cases registered : endpoint.connection.register id .receive with
  | mk result next =>
    cases Connection.registers registered with
    | receiving opened =>
      let entered : Endpoint σ :=
        { endpoint with
          connection :=
            { endpoint.connection with
              readLock := endpoint.connection.readLock.join id }.keep id (.receiving .empty) }
      have accountsNext : (roll.call id).Accounts entered := accounts.enter sound free rfl
      have soundNext : entered.connection.Sound := sound.register free registered
      have found : entered.connection.task? id = some (.receiving .empty) :=
        Connection.task?_keep_self
      have held : endpoint.connection.readLock.queue.isEmpty =
          entered.connection.readLock.isHeldBy id := by
        rw [Bool.eq_iff_iff, List.isEmpty_iff]
        exact (Lock.isHeldBy_join_self absent).symm
      have stepped : entered.step io (.poll id) = _ := Endpoint.step_poll found io
      cases settled : Endpoint.settle id (entered.advance io id (.receiving .empty)) with
      | mk polled after =>
        have followed := accountsNext.poll soundNext found settled
        rw [← held] at followed
        simp only [entered] at stepped settled
        simp only [stepped, settled, record]
        exact followed
    | closed isClosed other =>
      have same : Endpoint.intake { endpoint with connection := endpoint.connection.forget id } =
          endpoint.intake := rfl
      simp only [record, Roll.follow, same, List.drop_length]
      exact accounts.refuse isClosed absent

/-- The roll stays right when a task is polled that is no receiver. -/
theorem poll_other {task : Task} (accounts : roll.Accounts endpoint) (io : Transport σ)
    (sound : endpoint.connection.Sound) (found : endpoint.connection.task? id = some task)
    (other : ∀ assembly, task ≠ .receiving assembly) :
    roll.Accounts (Endpoint.settle id (endpoint.advance io id task)).2 := by
  refine accounts.turn sound (.poll found) (fun polled assembly own => ?_)
    fun polled assembly own => ?_
  · cases own
    rw [found]
    exact fun same => other assembly (Option.some.inj same)
  · cases own
    rw [Endpoint.settle_snd]
    split
    · simp
    · rename_i left suspended
      rw [Connection.task?_keep_self]
      intro same
      obtain rfl := Option.some.inj same
      have continues := Endpoint.advance_continues suspended
      cases task with
      | receiving assembly => exact other assembly rfl
      | sending | closing => exact continues

/-- The roll stays right when a task is forgotten that is not in the queue for the read lock. -/
theorem forget_other (accounts : roll.Accounts endpoint)
    (absent : id ∉ endpoint.connection.readLock.queue) :
    roll.Accounts { endpoint with connection := endpoint.connection.forget id } := by
  refine accounts.transfer rfl rfl List.prefix_rfl rfl ?_
    (fun _ _ found => (Connection.task?_of_forget found).2) fun closed => closed
  simp [Connection.forget, Lock.leave, List.erase_of_not_mem absent]

/-- The roll stays right when the owner of the connection does something. -/
theorem label (accounts : roll.Accounts endpoint) (lifecycle : Lifecycle) (sequence : Sequence) :
    roll.Accounts
      { endpoint with connection := { endpoint.connection with lifecycle, sequence } } :=
  accounts.transfer rfl rfl List.prefix_rfl rfl rfl (fun _ _ found => found) fun closed => closed

/-- Any other call keeps the roll right. -/
theorem start_other {call : Call} (accounts : roll.Accounts endpoint)
    (sound : endpoint.connection.Sound) (free : endpoint.connection.task? id = none)
    (other : call ≠ .receive) : roll.Accounts (endpoint.step io (.start id call)).2 := by
  have started : endpoint.step io (.start id call) = _ := Endpoint.step_start free call
  rw [started]
  cases registered : endpoint.connection.register id call with
  | mk result next =>
    cases result with
    | error outcome =>
      obtain ⟨sequence, rfl⟩ := Connection.register_refused registered
      have absent := (sound.not_queued free).2
      exact (accounts.label endpoint.connection.lifecycle sequence).forget_other absent
    | ok task =>
      let entered : Endpoint σ := { endpoint with connection := next.keep id task }
      have found : entered.connection.task? id = some task := Connection.task?_keep_self
      have writes : ∀ assembly, task ≠ .receiving assembly := by
        cases Connection.registers registered <;> simp_all
      have entering : Endpoint.Turn io (.task id) endpoint entered := .enter free registered
      have accountsNext : roll.Accounts entered := by
        refine accounts.turn sound entering (fun _ _ own => ?_) fun _ assembly own => ?_
        · cases own
          simp [free]
        · cases own
          rw [found]
          exact fun same => writes assembly (Option.some.inj same)
      have polled := accountsNext.poll_other io (sound.register free registered) found writes
      simp only
      rw [Endpoint.step_poll found]
      exact polled

/-- Giving up a task keeps the roll right. -/
theorem cancel {task : Task} (accounts : roll.Accounts endpoint)
    (sound : endpoint.connection.Sound) (found : endpoint.connection.task? id = some task)
    (after : Endpoint σ) :
    (roll.record endpoint after (.cancel id) .done).Accounts
      { endpoint with connection := endpoint.connection.forget id } := by
  cases task with
  | receiving assembly =>
    obtain ⟨checked, bytes⟩ := accounts.receivers id assembly found
    have takes : Takes roll endpoint endpoint (endpoint.connection.readLock.isHeldBy id) [] :=
      ⟨⟨_, rfl⟩, List.prefix_rfl, by simpa using accounts.delivered, fun _ => rfl⟩
    simp only [record, found]
    refine accounts.depart sound found rfl takes ?_ fun _ kept => (kept rfl).elim
    rw [List.append_nil, ← bytes]
    exact .cancelled checked
  | sending | closing =>
    simp only [record, found]
    exact accounts.forget_other (not_queued sound (by simp [found]))

/-- A call that is not to receive is not entered. -/
theorem record_start_other {call : Call} (other : call ≠ .receive) (reply : Reply) :
    roll.record before after (.start id call) reply = roll := by
  cases call <;> cases reply <;> first | rfl | contradiction

/-- A move keeps the roll right. -/
theorem observe (accounts : roll.Accounts endpoint) (sound : endpoint.connection.Sound)
    (move : Move σ) : (roll.observe io endpoint move).Accounts (endpoint.move io move) := by
  cases move with
  | change change =>
    exact accounts.transfer rfl rfl List.prefix_rfl rfl rfl (fun _ _ found => found)
      fun closed => closed
  | act action =>
    cases action with
    | start id call =>
      cases free : endpoint.connection.task? id with
      | some task =>
        simpa only [Roll.observe, Endpoint.move, Endpoint.step, free, record] using accounts
      | none =>
        by_cases receives : call = .receive
        · subst receives
          exact accounts.start sound free
        · simp only [Roll.observe, Endpoint.move, record_start_other receives]
          exact accounts.start_other sound free receives
    | poll id =>
      cases found : endpoint.connection.task? id with
      | none =>
        simpa only [Roll.observe, Endpoint.move, Endpoint.step, found, record] using accounts
      | some task =>
        simp only [Roll.observe, Endpoint.move, Endpoint.step_poll found, record, found]
        cases task with
        | receiving assembly => exact accounts.poll sound found rfl
        | sending | closing => exact accounts.poll_other io sound found (by simp)
    | cancel id =>
      cases found : endpoint.connection.task? id with
      | none =>
        simpa only [Roll.observe, Endpoint.move, Endpoint.step, found, record] using accounts
      | some task =>
        simp only [Roll.observe, Endpoint.move, Endpoint.step, found]
        exact accounts.cancel sound found _
    | setLifecycle lifecycle =>
      simp only [Roll.observe, Endpoint.move, Endpoint.step, Connection.setLifecycle, record]
      split
      · exact accounts
      · exact accounts.label lifecycle endpoint.connection.sequence
    | takeSequence => exact accounts.label endpoint.connection.lifecycle _
    | stopSequence => exact accounts.label endpoint.connection.lifecycle _

/-- A run keeps the roll right. -/
theorem run (accounts : roll.Accounts endpoint) (sound : endpoint.connection.Sound)
    (moves : List (Move σ)) : (ofRun io endpoint moves roll).Accounts (endpoint.run io moves) := by
  induction moves generalizing roll endpoint with
  | nil => exact accounts
  | cons move moves ih =>
    exact ih (accounts.observe sound move) (Endpoint.run_sound sound [move])

end Roll.Accounts

end Cmpp
