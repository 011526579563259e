import Cmpp.Proofs.Isolation
import Cmpp.Proofs.Outcomes

/-!
# After errors that are not fatal

An error that is not fatal is one of a packet, not of the stream: the packet cannot be encoded, its
frame is too long, or the body of a frame that has arrived whole cannot be decoded. So a call to
send that fails with such an error has failed before it was registered and leaves at most a number
used up; and a receiver that is told of one has taken one whole frame, and nobody has taken a byte
behind it (`Endpoint.recoverable_in_sync`). Every other error is fatal: what breaks off a frame
while it is received (`Comes.fatal`) or sent (`Endpoint.advance_recoverable`), and being closed.
-/

namespace Cmpp

variable {σ : Type} {io : Transport σ}

/-! ## What has arrived -/

/-- What keeps a frame from arriving whole is fatal. -/
theorem Comes.fatal {version : Version} {history : List Event} {earlier taken : Bytes}
    {error : Error} (comes : Comes version history earlier taken (.error error)) :
    error.isFatal := by
  cases comes with
  | invalidTotalLength | invalidCommand | failed => rfl
  | @truncated assembly => cases assembly <;> rfl

/-- A frame is read as its preamble and its body. -/
theorem preambleOf_append (preamble : Preamble) (body : Bytes) :
    preambleOf (word preamble.totalLength ++ (word preamble.commandId ++ body)) = preamble ∧
      bodyOf (word preamble.totalLength ++ (word preamble.commandId ++ body)) = body := by
  have first : (word preamble.totalLength ++ (word preamble.commandId ++ body)).take 4 =
      word preamble.totalLength := by
    rw [← length_word preamble.totalLength, List.take_left]
  have rest : (word preamble.totalLength ++ (word preamble.commandId ++ body)).drop 4 =
      word preamble.commandId ++ body := by
    rw [← length_word preamble.totalLength, List.drop_left]
  have second : (word preamble.commandId ++ body).take 4 = word preamble.commandId := by
    rw [← length_word preamble.commandId, List.take_left]
  have behind : (word preamble.commandId ++ body).drop 4 = body := by
    rw [← length_word preamble.commandId, List.drop_left]
  refine ⟨?_, ?_⟩
  · rw [preambleOf, first, rest, second, ofWord_word, ofWord_word]
  · rw [bodyOf, show preambleLength = 4 + 4 from rfl, ← List.drop_drop, rest, behind]

/-- What arrives whole is a frame whose preamble is in order. -/
theorem Comes.wellFramed {version : Version} {history : List Event} {earlier taken body : Bytes}
    {preamble : Preamble} (comes : Comes version history earlier taken (.ok (preamble, body))) :
    WellFramed version taken ∧ preambleOf taken = preamble ∧ bodyOf taken = body := by
  cases comes with
  | whole accepted valid length =>
    obtain ⟨read, rest⟩ := preambleOf_append preamble body
    have least := headerLength_le_of_accepts accepted
    have announced : preamble.totalLength.toNat =
        (word preamble.totalLength ++ (word preamble.commandId ++ body)).length := by
      simp only [headerLength, Preamble.bodyLength, preambleLength, List.length_append,
        length_word] at *
      omega
    refine ⟨⟨?_, ?_, ?_⟩, read, rest⟩
    · rw [read, announced]
    · rwa [← announced]
    · rwa [read]

/-- A receiver that is told of an error that is not fatal has taken one whole frame, whose body is
at fault. -/
theorem Receipt.of_recoverable {endpoint : Endpoint σ} {earlier taken : Bytes} {error : Error}
    (receipt : Receipt endpoint earlier taken (.returned (.failed error)))
    (recoverable : ¬error.isFatal) :
    WellFramed endpoint.connection.version taken ∧
      decodeBody endpoint.connection.version (preambleOf taken) (bodyOf taken) = .error error := by
  generalize ended : Ending.returned (.failed error) = ending at receipt
  cases receipt with
  | cancelled => cases ended
  | closed =>
    cases ended
    exact (recoverable rfl).elim
  | @returned _ result comes =>
    cases result with
    | error cause =>
      cases ended
      exact (recoverable comes.fatal).elim
    | ok arrived =>
      obtain ⟨preamble, body⟩ := arrived
      obtain ⟨framed, rfl, rfl⟩ := comes.wellFramed
      refine ⟨framed, ?_⟩
      cases decoded : decodeBody endpoint.connection.version (preambleOf taken) (bodyOf taken) with
      | error cause =>
        simp only [Except.bind, decoded] at ended
        cases ended
        rfl
      | ok packet =>
        simp only [Except.bind, decoded] at ended
        cases ended

/-- A receiver that has taken nothing has the whole frame ahead. -/
theorem Assembly.Checked.eq_empty {version : Version} {assembly : Assembly}
    (checked : assembly.Checked version) (nothing : assembly.bytes = []) : assembly = .empty := by
  cases assembly with
  | length got => exact congrArg Assembly.length nothing
  | command totalLength got =>
    have long := congrArg List.length nothing
    simp [Assembly.bytes] at long
  | body preamble got =>
    have long := congrArg List.length nothing
    simp [Assembly.bytes] at long

namespace Endpoint

variable {endpoint middle : Endpoint σ} {id : TaskId} {roll : Roll} {error : Error}

/-- Only a receiver is told of an error that is not fatal once its call has been registered. -/
theorem advance_recoverable {task : Task} (promises : task.Promises)
    (advanced : endpoint.advance io id task = (.finished (.failed error), middle))
    (recoverable : ¬error.isFatal) : ∃ assembly, task = .receiving assembly := by
  cases task with
  | receiving assembly => exact ⟨assembly, rfl⟩
  | closing stage => cases (advance_closing_finished advanced).1
  | sending promised sequenceId frame rest =>
    rcases advance_sending_finished advanced with rfl | closed | ⟨failure, failed⟩
    · rcases promises with numbered | sent
      · cases numbered
      · cases sent
    · cases closed
      exact (recoverable rfl).elim
    · cases failed
      exact (recoverable rfl).elim

/-- A receiver has left with one whole frame, and nobody has taken a byte behind it: what a roll and
an endpoint say when the frame was taken by a task that was told of an error. -/
structure Spared (version : Version) (before after : Roll) (endpoint : Endpoint σ) (id : TaskId)
    (error : Error) (frame : Bytes) : Prop where
  /-- The frame announces its own length. -/
  framed : WellFramed version frame
  /-- Its body is at fault. -/
  decoded : decodeBody version (preambleOf frame) (bodyOf frame) = .error error
  /-- It is what the receiver has taken. -/
  departed : after.departures =
    before.departures ++ [⟨id, frame, .returned (.failed error)⟩]
  /-- The bytes delivered are those of the receivers that have ended and those that nobody has
  taken. -/
  behind : endpoint.line.delivered = after.taken ++ endpoint.connection.readBuffer.held
  /-- Every other receiver has its whole frame ahead. -/
  ahead : ∀ other assembly, endpoint.connection.task? other = some (.receiving assembly) →
    assembly = .empty

/-- A receiver that is told of an error that is not fatal leaves with one whole frame. -/
theorem advance_spared {assembly : Assembly} (accounts : roll.Accounts endpoint)
    (found : endpoint.connection.task? id = some (.receiving assembly))
    (advanced : endpoint.advance io id (.receiving assembly) =
      (.finished (.failed error), middle))
    (recoverable : ¬error.isFatal) :
    ∃ frame,
      Spared endpoint.connection.version roll
        (roll.follow id (endpoint.connection.readLock.isHeldBy id)
          (middle.intake.drop endpoint.intake.length) (.ready (.failed error)))
        { middle with connection := middle.connection.forget id } id error frame := by
  obtain ⟨gained, takes, receipt, fair⟩ := accounts.advance found advanced
  obtain ⟨version, lock, closed, tasks⟩ := takes.unchanged
  have held : endpoint.connection.readLock.isHeldBy id := by
    refine fair fun isClosed => ?_
    rw [advance_closed isClosed (by simp [Task.errand])] at advanced
    cases advanced
    exact recoverable rfl
  have intake : middle.intake.drop endpoint.intake.length = gained := by
    have taken : middle.intake = endpoint.intake ++ gained := by
      rw [Roll.Accounts.intake_eq takes.delivered, Roll.Accounts.intake_eq accounts.delivered,
        List.append_assoc]
    rw [taken, List.drop_left]
  obtain ⟨framed, decoded⟩ := receipt.of_recoverable recoverable
  rw [version] at framed decoded
  rw [held] at framed decoded ⊢
  rw [intake]
  refine ⟨roll.share true ++ gained, framed, decoded, rfl, ?_, fun other rest there => ?_⟩
  · rw [Roll.follow, Roll.taken_depart]
    exact takes.delivered
  · obtain ⟨different, there⟩ := Connection.task?_of_forget there
    rw [tasks] at there
    obtain ⟨checked, bytes⟩ := accounts.receivers other rest there
    have unheld : ¬endpoint.connection.readLock.isHeldBy other := fun alsoHeld =>
      different (Lock.holder_unique held alsoHeld)
    refine checked.eq_empty ?_
    rw [bytes, Bool.eq_false_iff.mpr unheld]
    rfl

/-- The ways in which an action may end a call with an error and leave the connection in sync: what
it leaves of an endpoint, given the rolls before and after it. -/
inductive Recovers (version : Version) (endpoint : Endpoint σ) (before after : Roll)
    (error : Error) : Action → Endpoint σ → Prop
  /-- A packet is not sent, and nothing has happened but that its number is used up. -/
  | unsent {id : TaskId} {packet : Packet} :
    Recovers version endpoint before after error (.start id (.send packet))
      { endpoint with
        connection := { endpoint.connection with
          sequence := { endpoint.connection.sequence with
            next := endpoint.connection.sequence.next + 1 } } }
  /-- A packet is not sent under a given number, and nothing has happened. -/
  | unsentAs {id : TaskId} {packet : Packet} {sequenceId : UInt32} :
    Recovers version endpoint before after error (.start id (.sendAs packet sequenceId)) endpoint
  /-- A receiver leaves at its first poll with one whole frame. -/
  | first {id : TaskId} {frame : Bytes} {last : Endpoint σ}
    (spared : Spared version before after last id error frame) :
    Recovers version endpoint before after error (.start id .receive) last
  /-- A receiver leaves at a later poll with one whole frame. -/
  | later {id : TaskId} {assembly : Assembly} {frame : Bytes} {last : Endpoint σ}
    (found : endpoint.connection.task? id = some (.receiving assembly))
    (spared : Spared version before after last id error frame) :
    Recovers version endpoint before after error (.poll id) last

/-- A call that ends with an error that is not fatal leaves the connection in sync. -/
theorem Finishes.recovers {config : Config} {last : Action} {after : Endpoint σ}
    (finishes : endpoint.Finishes io last (.failed error) after)
    (reachable : endpoint.Reachable io config) (accounts : roll.Accounts endpoint)
    (recoverable : ¬error.isFatal) :
    Recovers config.version endpoint roll
      (roll.record endpoint after last (.polled (.ready (.failed error)))) error last after := by
  have sound := reachable.sound
  rw [← reachable.version]
  cases finishes with
  | @atOnce id call _ next free refused =>
    cases Connection.registers refused with
    | unsentAs =>
      rw [sound.forget_free free]
      exact .unsentAs
    | unsent =>
      have still : Connection.Sound { endpoint.connection with
          sequence := { endpoint.connection.sequence with
            next := endpoint.connection.sequence.next + 1 } } := sound.congr rfl rfl rfl rfl
      rw [still.forget_free free]
      exact .unsent
    | stopped | closed => exact (recoverable rfl).elim
  | @first id call task _ next middle free registered advanced =>
    obtain ⟨assembly, rfl⟩ :=
      advance_recoverable (Connection.promises_register registered) advanced recoverable
    cases Connection.registers registered with
    | receiving opened =>
      have entered := accounts.enter sound free rfl
      have found : (Connection.keep { endpoint.connection with
          readLock := endpoint.connection.readLock.join id } id (.receiving .empty)).task? id =
            some (.receiving .empty) := Connection.task?_keep_self
      obtain ⟨frame, spared⟩ := advance_spared entered found advanced recoverable
      have held : (endpoint.connection.readLock.join id).isHeldBy id =
          endpoint.connection.readLock.queue.isEmpty := by
        rw [Bool.eq_iff_iff, List.isEmpty_iff]
        exact Lock.isHeldBy_join_self (sound.not_queued free).2
      simp only [Connection.keep, held] at spared
      exact .first ⟨spared.framed, spared.decoded, spared.departed, spared.behind, spared.ahead⟩
  | @later id task _ middle found advanced =>
    obtain ⟨assembly, rfl⟩ :=
      advance_recoverable (reachable.promises id task found) advanced recoverable
    obtain ⟨frame, spared⟩ := advance_spared accounts found advanced recoverable
    have recorded : roll.record endpoint
        { middle with connection := middle.connection.forget id } (.poll id)
          (.polled (.ready (.failed error))) =
        roll.follow id (endpoint.connection.readLock.isHeldBy id)
          (middle.intake.drop endpoint.intake.length) (.ready (.failed error)) := by
      simp only [Roll.record, found]
      rfl
    rw [recorded]
    exact .later found spared

/-- After an error that is not fatal the connection is in sync. Whatever has happened on it before,
when a call ends with such an error, either it was to send, has ended at its first poll and has
changed nothing but, unless its number was given, the next number by one; or it was to receive and
has taken one whole frame, as long as the frame announces, and whoever is to receive next starts
behind it. -/
theorem recoverable_in_sync (io : Transport σ) (config : Config) (state : σ)
    (moves : List (Move σ)) (last : Action) (error : Error) :
    let opened := establish io config state
    let endpoint := opened.run io moves
    let roll := Roll.ofRun io opened moves {}
    (endpoint.step io last).1.outcome? = some (.failed error) → ¬error.isFatal →
      Recovers config.version endpoint roll (roll.observe io endpoint (.act last)) error last
        (endpoint.step io last).2 := by
  intro opened endpoint roll told recoverable
  have reachable : endpoint.Reachable io config := ⟨state, moves, rfl⟩
  have accounts : roll.Accounts endpoint :=
    (Roll.Accounts.establish io config state).run (Connection.sound_ofConfig ..) moves
  have observed : roll.observe io endpoint (.act last) =
      roll.record endpoint (endpoint.step io last).2 last
        (.polled (.ready (.failed error))) := by
    rw [← Reply.outcome?_eq_some.mp told]
    rfl
  rw [observed]
  exact (endpoint.finishes told).recovers reachable accounts recoverable

/-- A probe of the link with a byte too many, and a proper one behind it, in pieces cut inside
both. -/
def overlong : Script where
  reads := [.answer [0, 0, 0, 13, 0, 0], .pending false,
    .answer [0, 8, 0, 0, 0, 7, 9, 0, 0, 0, 12, 0, 0, 0, 8], .answer [0, 0, 0, 8]]

/-- Two receivers, the first one inside the frame that is at fault. -/
def beginning : List (Move Script) := [.act (.start 1 .receive), .act (.start 2 .receive)]

/-- The first receiver is told of the byte too many and leaves with the thirteen bytes of its frame;
the other one has the whole of the next frame ahead, of which eight bytes are there. -/
theorem recoverable_in_sync_overlong :
    let endpoint := (establish Script.transport { version := .v30 } overlong).run Script.transport
      beginning
    let after := (endpoint.step Script.transport (.poll 1)).2
    (endpoint.step Script.transport (.poll 1)).1.outcome? =
        some (.failed (.format (.trailingBytes 1))) ∧
      ∃ frame, WellFramed .v30 frame ∧
        after.line.delivered = frame ++ [0, 0, 0, 12, 0, 0, 0, 8] := by
  have told : (((establish Script.transport { version := .v30 } overlong).run Script.transport
      beginning).step Script.transport (.poll 1)).1.outcome? =
        some (.failed (.format (.trailingBytes 1))) := by cbv
  have first : (Roll.ofRun Script.transport
      (establish Script.transport { version := .v30 } overlong) beginning {}).departures = [] := by
    cbv
  have held : (((establish Script.transport { version := .v30 } overlong).run Script.transport
      beginning).step Script.transport (.poll 1)).2.connection.readBuffer.held =
        [0, 0, 0, 12, 0, 0, 0, 8] := by cbv
  have recovers := recoverable_in_sync Script.transport { version := .v30 } overlong beginning
    (.poll 1) _ told (by decide)
  cases recovers with
  | @later _ assembly frame _ found spared =>
    have behind := spared.behind
    rw [Roll.taken, spared.departed, first, held] at behind
    exact ⟨told, frame, spared.framed, by simpa using behind⟩

end Endpoint

end Cmpp
