import Cmpp.Proofs.Intake
import Cmpp.Proofs.Receiving
import Cmpp.Proofs.Turns
import Cmpp.Transport.Pipe

/-!
# Links

A link is two connections at the ends of a pipe. Every step is taken at one end, and the other end
sees of it what has become of the pipe. While one end only sends and the other only receives, the
pipe loses nothing: the bytes that the left end has had accepted are those that the right end has
been delivered and those that the pipe holds, no write is refused and no read comes to an end
(`Link.Joined`).
-/

namespace Cmpp

variable {σ : Type} {io : Transport σ}

/-! ## Ends with one errand -/

/-- What a call is made for. -/
def Call.errand : Call → Errand
  | .send _ | .sendAs .. => .sending
  | .receive => .receiving
  | .close => .closing

/-- Whether an action makes no call but for a certain errand. -/
def Action.Serves (errand : Errand) : Action → Prop
  | .start _ call => call.errand = errand
  | _ => True

/-- A call that is registered goes on as a task with the errand of the call. -/
theorem Connection.Registers.errand_eq {connection next : Connection} {id : TaskId} {call : Call}
    {task : Task} (registers : connection.Registers id call (.ok task) next) :
    task.errand = call.errand := by
  cases registers <;> rfl

/-- A connection is open, and all its tasks have the same errand. -/
structure Endpoint.Serves (endpoint : Endpoint σ) (errand : Errand) : Prop where
  /-- The connection is not closed. -/
  opened : ¬endpoint.connection.closed
  /-- The tasks have the errand. -/
  tasks : ∀ id task, endpoint.connection.task? id = some task → task.errand = errand

namespace Endpoint.Serves

variable {endpoint : Endpoint σ} {errand : Errand} {id : TaskId} {task : Task}

/-- Nobody has made a call when a connection is opened. -/
theorem establish (io : Transport σ) (config : Config) (state : σ) (errand : Errand) :
    (Endpoint.establish io config state).Serves errand where
  opened := Bool.false_ne_true
  tasks id task found := by
    simp [Endpoint.establish, Connection.ofConfig, Connection.task?] at found

/-- A task may be forgotten. -/
theorem forget (serves : endpoint.Serves errand) (id : TaskId) :
    Serves { endpoint with connection := endpoint.connection.forget id } errand where
  opened := serves.opened
  tasks other task found := by
    obtain ⟨-, there⟩ := Connection.task?_of_forget found
    exact serves.tasks other task there

/-- A task with the errand may be kept. -/
theorem keep (serves : endpoint.Serves errand) (same : task.errand = errand) :
    Serves { endpoint with connection := endpoint.connection.keep id task } errand where
  opened := serves.opened
  tasks other left found := by
    rcases Connection.task?_of_keep found with ⟨-, rfl⟩ | ⟨-, there⟩
    · exact same
    · exact serves.tasks other left there

/-- Frames are being received only by those whose errand it is. -/
theorem unfinished_of_ne (serves : endpoint.Serves errand) (other : errand ≠ .receiving) :
    endpoint.Unfinished := by
  intro id task found
  have same := serves.tasks id task found
  cases task with
  | receiving => exact (other same.symm).elim
  | sending | closing => trivial

/-- A poll makes calls on the line for the errand of all tasks. -/
theorem poll (serves : endpoint.Serves errand) (unfinished : endpoint.Unfinished)
    (found : endpoint.connection.task? id = some task) :
    (settle id (endpoint.advance io id task)).2.Serves errand ∧
      endpoint.line.Calls io errand (settle id (endpoint.advance io id task)).2.line := by
  have same := serves.tasks id task found
  have calls := advance_calls endpoint io id (unfinished id task found)
  have tasks := fun other => task?_advance endpoint io id other task
  obtain ⟨readBuffer, writeBuffer, line, changed⟩ := advance_frame endpoint io id task
  have opened : ¬(endpoint.advance io id task).2.connection.closed := by
    rw [changed]
    exact serves.opened
  have advanced : (endpoint.advance io id task).2.Serves errand :=
    ⟨opened, fun other left kept => serves.tasks other left (tasks other ▸ kept)⟩
  rw [settle_snd]
  refine ⟨?_, same ▸ calls⟩
  cases progress : (endpoint.advance io id task).1 with
  | finished outcome => exact advanced.forget id
  | suspended woken left =>
    have continues := advance_continues progress
    exact advanced.keep (continues.errand_eq.trans same)

/-- An action that makes no call but for the errand makes calls on the line for it, and leaves all
tasks with it. -/
theorem step {action : Action} (serves : endpoint.Serves errand) (io : Transport σ)
    (unfinished : endpoint.Unfinished) (duty : action.Serves errand) (goes : errand ≠ .closing) :
    (endpoint.step io action).2.Serves errand ∧
      endpoint.line.Calls io errand (endpoint.step io action).2.line := by
  cases action with
  | start id call =>
    cases free : endpoint.connection.task? id with
    | some task =>
      simp only [Endpoint.step, free]
      exact ⟨serves, .refl⟩
    | none =>
      rw [step_start free]
      cases registered : endpoint.connection.register id call with
      | mk result next =>
        cases result with
        | error outcome =>
          obtain ⟨sequence, rfl⟩ := Connection.register_refused registered
          have labelled : Serves { endpoint with
              connection := { endpoint.connection with sequence } } errand :=
            ⟨serves.opened, serves.tasks⟩
          exact ⟨labelled.forget id, .refl⟩
        | ok task =>
          have registers := Connection.registers registered
          have same : task.errand = errand := registers.errand_eq.trans duty
          have entering : Turn io (.task id) endpoint
              { endpoint with connection := next.keep id task } := .enter free registered
          have entered : Serves { endpoint with connection := next.keep id task } errand := by
            have nextServes : Serves { endpoint with connection := next } errand := by
              cases registers with
              | closing => exact (goes same.symm).elim
              | receiving | sendingAs | sending => exact ⟨serves.opened, serves.tasks⟩
            exact nextServes.keep same
          have kept : (next.keep id task).task? id = some task := Connection.task?_keep_self
          simp only
          rw [step_poll kept]
          exact entered.poll (entering.unfinished unfinished) kept
  | poll id =>
    cases found : endpoint.connection.task? id with
    | none =>
      simp only [Endpoint.step, found]
      exact ⟨serves, .refl⟩
    | some task =>
      rw [step_poll found]
      exact serves.poll unfinished found
  | cancel id =>
    cases found : endpoint.connection.task? id with
    | none =>
      simp only [Endpoint.step, found]
      exact ⟨serves, .refl⟩
    | some task =>
      simp only [Endpoint.step, found]
      exact ⟨serves.forget id, .refl⟩
  | setLifecycle lifecycle =>
    simp only [Endpoint.step, Connection.setLifecycle]
    split
    · exact ⟨serves, .refl⟩
    · exact ⟨⟨serves.opened, serves.tasks⟩, .refl⟩
  | takeSequence | stopSequence => exact ⟨⟨serves.opened, serves.tasks⟩, .refl⟩

end Endpoint.Serves

/-! ## Pipes -/

namespace Channel

variable {channel after : Channel}

/-- A write to an open channel has to wait, or bytes off the front are added to the queue. -/
theorem write_opened {data : Bytes} {outcome : Poll (Except Failure Nat)}
    (opened : ¬channel.closed) (nonempty : data ≠ [])
    (written : channel.write data = (outcome, after)) :
    ¬after.closed ∧ ¬(Event.write data outcome).Refuses ∧
      after.queue = channel.queue ++ (Event.write data outcome).accepted := by
  have positive : 0 < data.length := List.length_pos_iff.mpr nonempty
  simp only [Channel.write, if_neg opened] at written
  split at written
  · cases written
    exact ⟨opened, id, (List.append_nil _).symm⟩
  · rename_i room
    have some : min (channel.capacity - channel.queue.length) data.length ≠ 0 := by omega
    cases written
    refine ⟨opened, ?_, ?_⟩
    · cases count : min (channel.capacity - channel.queue.length) data.length with
      | zero => contradiction
      | succ count => exact id
    · rw [Event.accepted, ← List.take_eq_take_min]

/-- A read from an open channel has to wait, or takes bytes off the front of the queue. -/
theorem read_opened {limit : Nat} {outcome : Poll (Except Failure Bytes)}
    (opened : ¬channel.closed) (positive : 0 < limit)
    (read : channel.read limit = (outcome, after)) :
    ¬after.closed ∧ ¬(Event.read outcome).BreaksOff ∧
      channel.queue = (Event.read outcome).delivered ++ after.queue := by
  simp only [Channel.read, if_neg opened] at read
  split at read
  · cases read
    exact ⟨opened, id, rfl⟩
  · rename_i nonempty
    cases read
    refine ⟨opened, ?_, (List.take_append_drop limit channel.queue).symm⟩
    cases queue : channel.queue with
    | nil => contradiction
    | cons byte bytes =>
      cases limit with
      | zero => contradiction
      | succ limit => exact id

end Channel

namespace Pipe

variable (pipe : Pipe) (channel : Channel) (side : End)

/-- An end writes to the channel that was put in place for it. -/
@[simp] theorem outgoing_setOutgoing : (pipe.setOutgoing channel side).outgoing side = channel := by
  cases side <;> rfl

/-- An end reads from the channel that was put in place for it. -/
@[simp] theorem incoming_setIncoming : (pipe.setIncoming channel side).incoming side = channel := by
  cases side <;> rfl

end Pipe

namespace Line

variable {line after : Line Pipe} {side : End}

/-- What an end that only sends has on its line: the channel is open, and no write was refused. -/
structure Sends (line : Line Pipe) (side : End) : Prop where
  /-- The channel is open. -/
  opened : ¬(line.state.outgoing side).closed
  /-- No write was refused. -/
  unrefused : ¬line.Refused

/-- What an end that only receives has on its line: the channel is open, and no read has come to
an end. -/
structure Receives (line : Line Pipe) (side : End) : Prop where
  /-- The channel is open. -/
  opened : ¬(line.state.incoming side).closed
  /-- No read has failed or come to the end. -/
  unbroken : ∀ event ∈ line.history, ¬event.BreaksOff

/-- An event in which nothing was refused is entered. -/
theorem unrefused_enter {event : Event} (unrefused : ¬line.Refused) (taken : ¬event.Refuses)
    (state : Pipe) : ¬(line.enter event state).Refused := by
  rintro ⟨other, inside, refuses⟩
  rw [history_enter, List.mem_append, List.mem_singleton] at inside
  rcases inside with earlier | rfl
  · exact unrefused ⟨other, earlier, refuses⟩
  · exact taken refuses

/-- An event in which nothing came to an end is entered. -/
theorem unbroken_enter {event : Event} (unbroken : ∀ other ∈ line.history, ¬other.BreaksOff)
    (goes : ¬event.BreaksOff) (state : Pipe) :
    ∀ other ∈ (line.enter event state).history, ¬other.BreaksOff := by
  intro other inside
  rw [history_enter, List.mem_append, List.mem_singleton] at inside
  rcases inside with earlier | rfl
  · exact unbroken other earlier
  · exact goes

/-- Calls to send add to the queue of the channel what they have had accepted. -/
theorem Calls.sends (calls : line.Calls (Pipe.transport side) .sending after)
    (sends : line.Sends side) :
    after.Sends side ∧ ∃ sent, after.accepted = line.accepted ++ sent ∧
      (after.state.outgoing side).queue = (line.state.outgoing side).queue ++ sent := by
  let invariant : Line Pipe → Prop := fun now =>
    now.Sends side ∧ ∃ sent, now.accepted = line.accepted ++ sent ∧
      (now.state.outgoing side).queue = (line.state.outgoing side).queue ++ sent
  have keeps : ∀ {before next : Line Pipe}, Call (Pipe.transport side) .sending before next →
      invariant before → invariant next := by
    rintro before next call ⟨⟨opened, unrefused⟩, sent, accepted, queue⟩
    cases call with
    | @write _ _ data outcome nonempty written =>
      cases result : (before.state.outgoing side).write data with
      | mk told channel =>
        obtain ⟨still, taken, added⟩ := Channel.write_opened opened nonempty result
        simp only [Line.write, Pipe.transport, result] at written
        cases written
        refine ⟨⟨?_, unrefused_enter unrefused taken _⟩,
          sent ++ (Event.write data outcome).accepted, ?_, ?_⟩
        · simpa [Line.enter] using still
        · rw [accepted_enter, accepted, List.append_assoc]
        · simp [Line.enter, added, queue]
    | flush _ flushed =>
      cases flushed
      exact ⟨⟨opened, unrefused_enter unrefused id _⟩, sent,
        by simpa [Event.accepted] using accepted, queue⟩
    | note line note =>
      exact ⟨⟨opened, unrefused_enter unrefused id _⟩, sent, by simpa using accepted, queue⟩
  exact calls.keep keeps ⟨sends, [], by simp, by simp⟩

/-- Calls to receive take off the queue of the channel what they are delivered. -/
theorem Calls.receives (calls : line.Calls (Pipe.transport side) .receiving after)
    (receives : line.Receives side) :
    after.Receives side ∧ ∃ got, after.delivered = line.delivered ++ got ∧
      (line.state.incoming side).queue = got ++ (after.state.incoming side).queue := by
  let invariant : Line Pipe → Prop := fun now =>
    now.Receives side ∧ ∃ got, now.delivered = line.delivered ++ got ∧
      (line.state.incoming side).queue = got ++ (now.state.incoming side).queue
  have keeps : ∀ {before next : Line Pipe}, Call (Pipe.transport side) .receiving before next →
      invariant before → invariant next := by
    rintro before next call ⟨⟨opened, unbroken⟩, got, delivered, queue⟩
    cases call with
    | @read _ _ limit outcome positive read =>
      cases result : (before.state.incoming side).read limit with
      | mk told channel =>
        obtain ⟨still, goes, taken⟩ := Channel.read_opened opened positive result
        simp only [Line.read, Pipe.transport, result] at read
        cases read
        refine ⟨⟨?_, unbroken_enter unbroken goes _⟩,
          got ++ (Event.read outcome).delivered, ?_, ?_⟩
        · simpa [Line.enter] using still
        · rw [delivered_enter, delivered, List.append_assoc]
        · simp [Line.enter, queue, taken]
    | flush writes => contradiction
    | note line note =>
      exact ⟨⟨opened, unbroken_enter unbroken id _⟩, got, by simpa using delivered, queue⟩
  exact calls.keep keeps ⟨receives, [], by simp, by simp⟩

end Line

/-! ## Both ends -/

/-- Two connections at the ends of a pipe, each with the pipe as it finds it. -/
structure Link where
  /-- The connection at the left end. -/
  left : Endpoint Pipe
  /-- The connection at the right end. -/
  right : Endpoint Pipe

/-- Something that was done at one end of a link, with what it came to. -/
structure Link.Entry where
  /-- The end at which it was done. -/
  side : End
  /-- What was done. -/
  action : Action
  /-- What it came to. -/
  reply : Reply

/-- What an end of a link is there for when packets go from left to right. -/
def End.errand : End → Errand
  | .left => .sending
  | .right => .receiving

namespace Link

/-- Open a connection at either end of a pipe. -/
def establish (left right : Config) (capacity : Nat) : Link where
  left := .establish (Pipe.transport .left) left (.ofCapacity capacity)
  right := .establish (Pipe.transport .right) right (.ofCapacity capacity)

/-- Do something at one end. The other end finds the pipe as this one has left it. -/
def step (link : Link) (action : Action) : End → Reply × Link
  | .left =>
    let (reply, left) := link.left.step (Pipe.transport .left) action
    (reply, ⟨left, link.right.move (Pipe.transport .right) (.change fun _ => left.line.state)⟩)
  | .right =>
    let (reply, right) := link.right.step (Pipe.transport .right) action
    (reply, ⟨link.left.move (Pipe.transport .left) (.change fun _ => right.line.state), right⟩)

/-- What is done at the ends of a link, one after another, with what it comes to. -/
def trace : Link → List (End × Action) → List Entry
  | _, [] => []
  | link, (side, action) :: steps =>
    let (reply, after) := link.step action side
    ⟨side, action, reply⟩ :: trace after steps

/-- The packet that an entry of a trace begins to send. -/
def sent? : Entry → Option Packet
  | ⟨.left, .start _ (.send packet), .polled _⟩ => some packet
  | _ => none

/-- The task that an entry of a trace begins to receive with. -/
def receiver? : Entry → Option TaskId
  | ⟨.right, .start id .receive, .polled _⟩ => some id
  | _ => none

/-- The receiver that ends in an entry of a trace, with its outcome. -/
def received? : Entry → Option (TaskId × Outcome)
  | ⟨.right, .start id _, .polled (.ready outcome)⟩ => some (id, outcome)
  | ⟨.right, .poll id, .polled (.ready outcome)⟩ => some (id, outcome)
  | _ => none

/-- What holds of a link whose left end only sends and whose right end only receives. -/
structure Joined (link : Link) : Prop where
  /-- Both ends see the same pipe. -/
  shared : link.left.line.state = link.right.line.state
  /-- The left end only sends. -/
  sender : link.left.Serves .sending
  /-- The right end only receives. -/
  receiver : link.right.Serves .receiving
  /-- No frame that is being received is complete. -/
  unfinished : link.right.Unfinished
  /-- The pipe takes what the left end sends. -/
  sends : link.left.line.Sends .left
  /-- The pipe does not end at the right end. -/
  receives : link.right.line.Receives .right
  /-- What went in has come out or is inside, in order. -/
  conserved : link.left.line.accepted =
    link.right.line.delivered ++ (link.left.line.state.outgoing .left).queue

namespace Joined

variable {link : Link} {action : Action}

/-- Nothing has gone in when a link is opened. -/
theorem establish (left right : Config) (capacity : Nat) :
    (Link.establish left right capacity).Joined where
  shared := by
    have leftState := Endpoint.state_establish (Pipe.transport .left) left (.ofCapacity capacity)
    have rightState := Endpoint.state_establish (Pipe.transport .right) right (.ofCapacity capacity)
    exact leftState.trans rightState.symm
  sender := .establish ..
  receiver := .establish ..
  unfinished := Endpoint.unfinished_establish (Pipe.transport .right) right (.ofCapacity capacity)
  sends := by
    have state := Endpoint.state_establish (Pipe.transport .left) left (.ofCapacity capacity)
    refine ⟨?_, ?_⟩
    · simp only [Link.establish, state]
      exact Bool.false_ne_true
    · rintro ⟨event, inside, refuses⟩
      exact (Endpoint.establish_silent inside).2.2.1 refuses
  receives := by
    have state := Endpoint.state_establish (Pipe.transport .right) right (.ofCapacity capacity)
    refine ⟨?_, fun event inside => (Endpoint.establish_silent inside).2.2.2⟩
    simp only [Link.establish, state]
    exact Bool.false_ne_true
  conserved := by
    have state := Endpoint.state_establish (Pipe.transport .left) left (.ofCapacity capacity)
    have accepted : (Link.establish left right capacity).left.line.accepted = [] :=
      List.flatMap_eq_nil_iff.mpr fun event inside => (Endpoint.establish_silent inside).1
    have delivered : (Link.establish left right capacity).right.line.delivered = [] :=
      List.flatMap_eq_nil_iff.mpr fun event inside => (Endpoint.establish_silent inside).2.1
    have empty :
        ((Link.establish left right capacity).left.line.state.outgoing .left).queue = [] := by
      simp only [Link.establish, state]
      rfl
    rw [accepted, delivered, empty, List.append_nil]

/-- What the left end sends goes into the pipe. -/
theorem step_left (joined : link.Joined) (duty : action.Serves .sending) :
    (link.step action .left).2.Joined := by
  have unfinished := joined.sender.unfinished_of_ne (by decide)
  obtain ⟨sender, calls⟩ := joined.sender.step (Pipe.transport .left) unfinished duty (by decide)
  obtain ⟨sends, sent, accepted, queue⟩ := calls.sends joined.sends
  have conserved : (link.left.step (Pipe.transport .left) action).2.line.accepted =
      link.right.line.delivered ++
        ((link.left.step (Pipe.transport .left) action).2.line.state.outgoing .left).queue := by
    rw [accepted, joined.conserved, queue, List.append_assoc]
  exact {
    shared := rfl
    sender := sender
    receiver := ⟨joined.receiver.opened, joined.receiver.tasks⟩
    unfinished := joined.unfinished
    sends := sends
    receives := ⟨sends.opened, joined.receives.unbroken⟩
    conserved := conserved }

/-- What the right end receives comes out of the pipe. -/
theorem step_right (joined : link.Joined) (duty : action.Serves .receiving) :
    (link.step action .right).2.Joined := by
  obtain ⟨receiver, calls⟩ :=
    joined.receiver.step (Pipe.transport .right) joined.unfinished duty (by decide)
  obtain ⟨receives, got, delivered, queue⟩ := calls.receives joined.receives
  have unfinished : (link.right.move (Pipe.transport .right) (.act action)).Unfinished :=
    Endpoint.move_keeps Endpoint.Unfinished (fun turn => turn.unfinished) joined.unfinished
  have conserved : link.left.line.accepted =
      (link.right.step (Pipe.transport .right) action).2.line.delivered ++
        ((link.right.step (Pipe.transport .right) action).2.line.state.incoming .right).queue := by
    have inside : (link.left.line.state.outgoing .left).queue =
        (link.right.line.state.incoming .right).queue := by rw [joined.shared]; rfl
    rw [delivered, joined.conserved, inside, queue, List.append_assoc]
  exact {
    shared := rfl
    sender := ⟨joined.sender.opened, joined.sender.tasks⟩
    receiver := receiver
    unfinished := unfinished
    sends := ⟨receives.opened, joined.sends.unrefused⟩
    receives := receives
    conserved := conserved }

end Joined

end Link

end Cmpp
