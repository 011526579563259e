import Cmpp.Proofs.Intake
import Cmpp.Proofs.Mirrors

/-!
# The two directions of a stream

On a transport whose reads keep to one part of its state, and whose writes, flushes and shutdowns
keep to another (`Transport.Splits`), neither direction of the stream is disturbed by the other. Two
lines are alike in one direction when they agree in its part of the state and in what has happened
in it (`Line.Alike`). Going on with a task in the same direction comes to the same on such lines and
leaves them alike (`Endpoint.advance_outward`, `Endpoint.advance_inward`), and going on with one in
the other direction is not noticed (`Line.Calls.alike_outward`, `Line.Calls.alike_inward`).
-/

namespace Cmpp

variable {σ ρ ω : Type} {io : Transport σ} {inward : σ → ρ} {outward : σ → ω}

/-! ## Transports and lines -/

/-- A call on a state keeps to one part of it, and leaves another alone. -/
structure KeepsTo {α ω ρ : Type} (call : σ → α × σ) (own : σ → ω) (other : σ → ρ) : Prop where
  /-- What the call comes to, and what becomes of its own part, depends on this part. -/
  depends : ∀ first second, own first = own second →
    (call first).1 = (call second).1 ∧ own (call first).2 = own (call second).2
  /-- The other part stays as it is. -/
  spares : ∀ state, other (call state).2 = other state

/-- A transport whose two directions have nothing to do with each other. -/
structure Transport.Splits (io : Transport σ) (inward : σ → ρ) (outward : σ → ω) : Prop where
  /-- Reads keep to the one direction. -/
  read : ∀ limit, KeepsTo (io.read · limit) inward outward
  /-- Writes keep to the other. -/
  write : ∀ data, KeepsTo (io.write · data) outward inward
  /-- So do flushes. -/
  flush : KeepsTo io.flush outward inward
  /-- So do shutdowns. -/
  shutdown : KeepsTo io.shutdown outward inward

/-- Whether bytes were asked for in an event. -/
def Event.isInward : Event → Bool
  | .read _ => true
  | _ => false

/-- Whether bytes were offered in an event, or were to be pushed on, or their direction ended. -/
def Event.isOutward : Event → Bool
  | .write .. | .flush _ | .shutdown _ => true
  | _ => false

namespace Line

variable {line first second third before after : Line σ} {view : σ → ω} {counts : Event → Bool}

/-- Two lines agree in a part of the state, and in the events that count. -/
structure Alike (view : σ → ω) (counts : Event → Bool) (first second : Line σ) : Prop where
  /-- The part of the state is the same. -/
  state : view first.state = view second.state
  /-- The events that count are the same. -/
  events : first.history.filter counts = second.history.filter counts

/-- A line is like itself. -/
theorem Alike.refl (line : Line σ) : Alike view counts line line := ⟨rfl, rfl⟩

/-- Two lines are like each other. -/
theorem Alike.symm (alike : Alike view counts first second) : Alike view counts second first :=
  ⟨alike.state.symm, alike.events.symm⟩

/-- Lines that are like the same line are alike. -/
theorem Alike.trans (alike : Alike view counts first second)
    (also : Alike view counts second third) : Alike view counts first third :=
  ⟨alike.state.trans also.state, alike.events.trans also.events⟩

/-- The same event leaves lines alike. -/
theorem Alike.enter {one other : σ} (alike : Alike view counts first second) (event : Event)
    (same : view one = view other) :
    Alike view counts (first.enter event one) (second.enter event other) :=
  ⟨same, by simp only [history_enter, List.filter_append, alike.events]⟩

/-- The same note leaves lines alike. -/
theorem Alike.note (alike : Alike view counts first second) (note : Note) :
    Alike view counts (first.note note) (second.note note) :=
  alike.enter _ alike.state

/-- An event that does not count leaves a line as it is if it does so with the part of the state. -/
theorem alike_enter {event : Event} {state : σ} (idle : ¬counts event)
    (same : view state = view line.state) : Alike view counts line (line.enter event state) := by
  refine ⟨same.symm, ?_⟩
  rw [history_enter, List.filter_append, List.filter_cons_of_neg idle, List.filter_nil,
    List.append_nil]

/-- A call that keeps to the part of the state leaves lines alike. -/
theorem Alike.call {α ρ : Type} {call : σ → α × σ} {other : σ → ρ}
    (alike : Alike view counts first second) (keeps : KeepsTo call view other)
    (event : α → Event) :
    (call first.state).1 = (call second.state).1 ∧
      Alike view counts (first.enter (event (call first.state).1) (call first.state).2)
        (second.enter (event (call second.state).1) (call second.state).2) := by
  obtain ⟨same, after⟩ := keeps.depends _ _ alike.state
  refine ⟨same, ?_⟩
  rw [same]
  exact alike.enter _ after

/-- What comes of events that do not count does not matter. -/
theorem flatMap_filter {β : Type} {part : Event → List β}
    (idle : ∀ event, ¬counts event → part event = []) (events : List Event) :
    (events.filter counts).flatMap part = events.flatMap part := by
  induction events with
  | nil => rfl
  | cons event events ih =>
    by_cases count : counts event
    · rw [List.filter_cons_of_pos count, List.flatMap_cons, List.flatMap_cons, ih]
    · rw [List.filter_cons_of_neg count, List.flatMap_cons, idle event count, ih, List.nil_append]

/-- The same bytes have been accepted on lines that are alike in their direction. -/
theorem Alike.accepted (alike : Alike view Event.isOutward first second) :
    first.accepted = second.accepted := by
  have idle : ∀ event, ¬Event.isOutward event → event.accepted = [] := by
    intro event other
    cases event with
    | write => exact (other rfl).elim
    | _ => rfl
  rw [Line.accepted, Line.accepted, ← flatMap_filter idle, alike.events, flatMap_filter idle]

/-- The same bytes have been delivered on lines that are alike in their direction. -/
theorem Alike.delivered (alike : Alike view Event.isInward first second) :
    first.delivered = second.delivered := by
  have idle : ∀ event, ¬Event.isInward event → event.delivered = [] := by
    intro event other
    cases event with
    | read => exact (other rfl).elim
    | _ => rfl
  rw [Line.delivered, Line.delivered, ← flatMap_filter idle, alike.events, flatMap_filter idle]

/-- Whoever receives is not noticed in the direction of the senders. -/
theorem Calls.alike_outward (calls : before.Calls io .receiving after)
    (splits : io.Splits inward outward) :
    Alike outward Event.isOutward before after := by
  refine calls.keep (fun call alike => alike.trans ?_) (.refl before)
  cases call with
  | read positive read =>
    cases read
    exact alike_enter Bool.false_ne_true ((splits.read _).spares _)
  | flush writes => exact (writes rfl).elim
  | note => exact alike_enter Bool.false_ne_true rfl

/-- Whoever sends, or closes the connection, is not noticed in the direction of the receivers. -/
theorem Calls.alike_inward {errand : Errand} (calls : before.Calls io errand after)
    (splits : io.Splits inward outward) (other : errand ≠ .receiving) :
    Alike inward Event.isInward before after := by
  refine calls.keep (fun call alike => alike.trans ?_) (.refl before)
  cases call with
  | read => exact (other rfl).elim
  | write nonempty written =>
    cases written
    exact alike_enter Bool.false_ne_true ((splits.write _).spares _)
  | flush writes flushed =>
    cases flushed
    exact alike_enter Bool.false_ne_true (splits.flush.spares _)
  | shutdown done =>
    cases done
    exact alike_enter Bool.false_ne_true (splits.shutdown.spares _)
  | note => exact alike_enter Bool.false_ne_true rfl

end Line

/-! ## Sending -/

section Sending

variable {first second one : Line σ} {outcome : Poll (Except Failure Unit)}
  {counted : Poll (Except Failure Nat)} {data : Bytes}
  (splits : io.Splits inward outward)
  (alike : Line.Alike outward Event.isOutward first second)

include splits alike

/-- A write comes to the same on lines that are alike. -/
theorem Line.write_alike (written : first.write io data = (counted, one)) :
    ∃ other, second.write io data = (counted, other) ∧
      Alike outward Event.isOutward one other := by
  obtain ⟨same, after⟩ := alike.call (splits.write data) (Event.write data)
  cases written
  exact ⟨_, Prod.ext same.symm rfl, after⟩

/-- A flush comes to the same on lines that are alike. -/
theorem Line.flush_alike (flushed : first.flush io = (outcome, one)) :
    ∃ other, second.flush io = (outcome, other) ∧ Alike outward Event.isOutward one other := by
  obtain ⟨same, after⟩ := alike.call splits.flush Event.flush
  cases flushed
  exact ⟨_, Prod.ext same.symm rfl, after⟩

/-- A shutdown comes to the same on lines that are alike. -/
theorem Line.shutdown_alike (done : first.shutdown io = (outcome, one)) :
    ∃ other, second.shutdown io = (outcome, other) ∧ Alike outward Event.isOutward one other := by
  obtain ⟨same, after⟩ := alike.call splits.shutdown Event.shutdown
  cases done
  exact ⟨_, Prod.ext same.symm rfl, after⟩

end Sending

/-- What goes out comes to the same on lines that are alike in it. -/
theorem Transport.Splits.mirrors (splits : io.Splits inward outward) :
    Mirrors io io (fun _ => True) (Line.Alike outward Event.isOutward) where
  lived _ _ := trivial
  write alike written _ := Line.write_alike splits alike written
  flush alike flushed _ := Line.flush_alike splits alike flushed

/-! ## Receiving -/

/-- An assembly goes by reads, one after another. -/
theorem Assembly.poll_eq (assembly : Assembly) (version : Version) (io : Transport σ)
    (buffer : ReadBuffer) (line : Line σ) :
    assembly.poll version io buffer line =
      match buffer.read io line assembly.wanted with
      | (.pending woken, buffer, line) => (.pending woken, assembly, buffer, line)
      | (.ready (.error failure), buffer, line) =>
        (.ready (.error (.transport failure)), assembly, buffer, line)
      | (.ready (.ok piece), buffer, line) =>
        if piece = [] then (.ready (.error assembly.truncation), assembly, buffer, line)
        else match assembly.take version piece with
          | .more next => next.poll version io buffer line
          | .complete preamble bytes => (.ready (.ok (preamble, bytes)), assembly, buffer, line)
          | .refused error => (.ready (.error error), assembly, buffer, line) := by
  rw [poll]
  rcases buffer.read io line assembly.wanted with ⟨(failure | piece) | woken, after, next⟩
  · rfl
  · by_cases empty : piece = []
    · simp only [dif_pos empty, if_pos empty]
    · simp only [dif_neg empty, if_neg empty]
      split <;> simp only [*]
  · rfl

section Receiving

variable {first second one : Line σ} {outcome : Poll (Except Failure Bytes)}
  {buffer after : ReadBuffer} {limit : Nat} (splits : io.Splits inward outward)
  (alike : Line.Alike inward Event.isInward first second)

include splits alike

/-- A read comes to the same on lines that are alike. -/
theorem Line.read_alike (read : first.read io limit = (outcome, one)) :
    ∃ other, second.read io limit = (outcome, other) ∧ Alike inward Event.isInward one other := by
  obtain ⟨same, after⟩ := alike.call (splits.read limit) Event.read
  cases read
  exact ⟨_, Prod.ext same.symm rfl, after⟩

/-- A read through a buffer comes to the same on lines that are alike. -/
theorem ReadBuffer.read_alike (read : buffer.read io first limit = (outcome, after, one)) :
    ∃ other, buffer.read io second limit = (outcome, after, other) ∧
      Line.Alike inward Event.isInward one other := by
  unfold ReadBuffer.read at read ⊢
  split at read <;> rename_i empty
  · rw [if_pos empty]
    split at read <;> rename_i large
    · obtain ⟨other, also, alike⟩ := Line.read_alike splits alike (Prod.eta (first.read io limit))
      cases read
      rw [if_pos large, also]
      exact ⟨other, rfl, alike⟩
    · rw [if_neg large]
      cases asked : first.read io buffer.capacity with
      | mk result next =>
        obtain ⟨other, also, alike⟩ := Line.read_alike splits alike asked
        rw [asked] at read
        rw [also]
        rcases result with (failure | bytes) | woken <;> cases read <;>
          exact ⟨other, rfl, alike⟩
  · cases read
    exact ⟨second, if_neg empty, alike⟩

/-- An assembly comes to the same on lines that are alike. -/
theorem Assembly.poll_alike {assembly left : Assembly} {version : Version}
    {result : Poll (Except Error (Preamble × Bytes))}
    (polled : assembly.poll version io buffer first = (result, left, after, one)) :
    ∃ other, assembly.poll version io buffer second = (result, left, after, other) ∧
      Line.Alike inward Event.isInward one other := by
  fun_induction poll assembly version io buffer first generalizing second with
  | case1 assembly buffer line woken next middle read
  | case2 assembly buffer line failure next middle read =>
    obtain ⟨other, also, alike⟩ := ReadBuffer.read_alike splits alike read
    cases polled
    exact ⟨other, by rw [poll_eq, also], alike⟩
  | case3 assembly buffer line next middle read =>
    obtain ⟨other, also, alike⟩ := ReadBuffer.read_alike splits alike read
    cases polled
    exact ⟨other, by rw [poll_eq, also]; rfl, alike⟩
  | case4 assembly buffer line piece next middle read nonempty more taken ih =>
    obtain ⟨other, also, alike⟩ := ReadBuffer.read_alike splits alike read
    rw [poll_eq, also]
    simpa only [if_neg nonempty, taken] using ih alike polled
  | case5 assembly buffer line piece next middle read nonempty preamble bytes taken
  | case6 assembly buffer line piece next middle read nonempty error taken =>
    obtain ⟨other, also, alike⟩ := ReadBuffer.read_alike splits alike read
    cases polled
    refine ⟨other, ?_, alike⟩
    rw [poll_eq, also]
    simp only [if_neg nonempty, taken]

end Receiving

/-! ## Going on with a task -/

/-- Two connections are the same but for what receivers have to do with. -/
def Connection.SameOutward (first second : Connection) : Prop :=
  ∃ readLock readBuffer tasks, second = { first with readLock, readBuffer, tasks }

/-- Two connections are the same as each other. -/
theorem Connection.SameOutward.symm {first second : Connection}
    (same : first.SameOutward second) : second.SameOutward first := by
  obtain ⟨_, _, _, rfl⟩ := same
  exact ⟨first.readLock, first.readBuffer, first.tasks, rfl⟩

/-- Connections that are the same as a third one are the same. -/
theorem Connection.SameOutward.trans {first second third : Connection}
    (same : first.SameOutward second) (also : second.SameOutward third) :
    first.SameOutward third := by
  obtain ⟨_, _, _, rfl⟩ := same
  obtain ⟨readLock, readBuffer, tasks, rfl⟩ := also
  exact ⟨readLock, readBuffer, tasks, rfl⟩

/-- Two connections are the same in what receivers have to do with, but for being closed. -/
structure Connection.SameInward (first second : Connection) : Prop where
  /-- The version is the same. -/
  version : first.version = second.version
  /-- The queues of receivers are the same. -/
  readLock : first.readLock = second.readLock
  /-- The same bytes are held. -/
  readBuffer : first.readBuffer = second.readBuffer

namespace Endpoint

variable {first second one : Endpoint σ} {id : TaskId} {progress : Progress}

/-- Two endpoints are alike in what goes out. -/
structure AlikeOutward (outward : σ → ω) (first second : Endpoint σ) : Prop where
  /-- The connections are the same but for what receivers have to do with. -/
  connection : first.connection.SameOutward second.connection
  /-- The lines are alike. -/
  line : Line.Alike outward Event.isOutward first.line second.line

/-- Two endpoints are alike in what comes in. -/
structure AlikeInward (inward : σ → ρ) (first second : Endpoint σ) : Prop where
  /-- The connections are the same in what receivers have to do with. -/
  connection : first.connection.SameInward second.connection
  /-- The lines are alike. -/
  line : Line.Alike inward Event.isInward first.line second.line

/-- Being alike in what goes out is an equivalence. -/
theorem alikeOutward_equivalence (outward : σ → ω) : Equivalence (AlikeOutward outward) where
  refl endpoint := ⟨⟨_, _, _, rfl⟩, .refl endpoint.line⟩
  symm alike := ⟨alike.connection.symm, alike.line.symm⟩
  trans alike also := ⟨alike.connection.trans also.connection, alike.line.trans also.line⟩

/-- Being alike in what comes in is an equivalence. -/
theorem alikeInward_equivalence (inward : σ → ρ) : Equivalence (AlikeInward inward) where
  refl endpoint := ⟨⟨rfl, rfl, rfl⟩, .refl endpoint.line⟩
  symm alike := ⟨⟨alike.connection.version.symm, alike.connection.readLock.symm,
    alike.connection.readBuffer.symm⟩, alike.line.symm⟩
  trans alike also := ⟨⟨alike.connection.version.trans also.connection.version,
    alike.connection.readLock.trans also.connection.readLock,
    alike.connection.readBuffer.trans also.connection.readBuffer⟩, alike.line.trans also.line⟩

/-- Endpoints that are alike in what goes out go on so on lines that are alike. -/
theorem AlikeOutward.onto {next last : Line σ} (alike : first.AlikeOutward outward second)
    (lines : Line.Alike outward Event.isOutward next last) :
    AlikeOutward outward { first with line := next } { second with line := last } :=
  ⟨alike.connection, lines⟩

section Outward

variable (splits : io.Splits inward outward) (alike : first.AlikeOutward outward second)

include splits alike

/-- Shutting the transport down comes to the same at endpoints that are alike in what goes out. -/
theorem advanceShutdown_outward (advanced : first.advanceShutdown io = (progress, one)) :
    ∃ other, second.advanceShutdown io = (progress, other) ∧ one.AlikeOutward outward other := by
  have peer : second.connection.peer = first.connection.peer := by
    obtain ⟨readLock, readBuffer, tasks, same⟩ := alike.connection
    rw [same]
  rcases done : first.line.shutdown io with ⟨(failure | _) | woken, next⟩
  all_goals
    obtain ⟨last, also, after⟩ := Line.shutdown_alike splits alike.line done
    simp only [advanceShutdown, done, also, peer] at advanced ⊢
    cases advanced
  · exact ⟨_, rfl, alike.onto ((after.note _).note _)⟩
  · exact ⟨_, rfl, alike.onto (after.note _)⟩
  · exact ⟨_, rfl, alike.onto after⟩

/-- Flushing on closing comes to the same at endpoints that are alike in what goes out. -/
theorem advanceFlush_outward (advanced : first.advanceFlush io = (progress, one)) :
    ∃ other, second.advanceFlush io = (progress, other) ∧ one.AlikeOutward outward other := by
  rcases flushed : first.line.flush io with ⟨(failure | _) | woken, next⟩
  all_goals
    obtain ⟨last, also, after⟩ := Line.flush_alike splits alike.line flushed
    simp only [advanceFlush, flushed, also] at advanced ⊢
  · exact advanceShutdown_outward splits (alike.onto (after.note _)) advanced
  · exact advanceShutdown_outward splits (alike.onto after) advanced
  · cases advanced
    exact ⟨_, rfl, alike.onto after⟩

/-- Going on with closing comes to the same at endpoints that are alike in what goes out. -/
theorem advanceClosing_outward {stage : Closing}
    (advanced : first.advanceClosing io id stage = (progress, one)) :
    ∃ other, second.advanceClosing io id stage = (progress, other) ∧
      one.AlikeOutward outward other := by
  cases stage with
  | waiting =>
    obtain ⟨readLock, readBuffer, tasks, same⟩ := alike.connection
    simp only [advanceClosing, same] at advanced ⊢
    split at advanced <;> rename_i held
    · rw [if_pos held]
      split at advanced <;> rename_i empty
      · rw [if_pos empty]
        exact advanceFlush_outward splits alike advanced
      · rw [if_neg empty]
        exact advanceFlush_outward splits (alike.onto (alike.line.note _)) advanced
    · rw [if_neg held]
      cases advanced
      exact ⟨second, rfl, alike⟩
  | flushing => exact advanceFlush_outward splits alike advanced
  | shuttingDown => exact advanceShutdown_outward splits alike advanced

/-- Going on with sending comes to the same at endpoints that are alike in what goes out. -/
theorem advanceSending_outward {outcome : Outcome} {sequenceId : UInt32} {frame : Bytes}
    {rest : Transmission}
    (advanced : first.advanceSending io id outcome sequenceId frame rest = (progress, one)) :
    ∃ other, second.advanceSending io id outcome sequenceId frame rest = (progress, other) ∧
      one.AlikeOutward outward other := by
  obtain ⟨connection, line⟩ := second
  obtain ⟨⟨readLock, readBuffer, tasks, rfl⟩, lines⟩ := alike
  simp only [advanceSending] at advanced ⊢
  split at advanced <;> rename_i closed
  · rw [if_pos closed]
    cases advanced
    exact ⟨_, rfl, ⟨_, _, _, rfl⟩, lines⟩
  · rw [if_neg closed]
    split at advanced <;> rename_i held
    · rw [if_pos held]
      rcases polled : rest.poll io first.connection.writeBuffer first.line with
        ⟨(failure | _) | woken, left, writeBuffer, next⟩
      all_goals
        obtain ⟨last, also, after⟩ := Transmission.poll_mirrored splits.mirrors lines trivial polled
        rw [polled] at advanced
        simp only [also]
        cases advanced
      · exact ⟨_, rfl, ⟨_, _, _, rfl⟩, after⟩
      · exact ⟨_, rfl, ⟨_, _, _, rfl⟩, after.note _⟩
      · exact ⟨_, rfl, ⟨_, _, _, rfl⟩, after⟩
    · rw [if_neg held]
      cases advanced
      exact ⟨_, rfl, ⟨_, _, _, rfl⟩, lines⟩

/-- Going on with a task that does not receive comes to the same at endpoints that are alike in what
goes out, and leaves them alike. -/
theorem advance_outward {task : Task} (other : task.errand ≠ .receiving)
    (advanced : first.advance io id task = (progress, one)) :
    ∃ other, second.advance io id task = (progress, other) ∧ one.AlikeOutward outward other := by
  cases task with
  | sending outcome sequenceId frame rest => exact advanceSending_outward splits alike advanced
  | receiving => exact (other rfl).elim
  | closing stage => exact advanceClosing_outward splits alike advanced

end Outward

/-- Going on with a receiver comes to the same at endpoints that are alike in what comes in, and
leaves them alike, if both are closed or both are open. -/
theorem advance_inward (splits : io.Splits inward outward) (alike : first.AlikeInward inward second)
    (closes : first.connection.closed = second.connection.closed) {task : Task}
    (receives : task.errand = .receiving)
    (advanced : first.advance io id task = (progress, one)) :
    ∃ other, second.advance io id task = (progress, other) ∧ one.AlikeInward inward other := by
  obtain ⟨⟨version, readLock, readBuffer⟩, lines⟩ := alike
  cases task with
  | sending | closing => cases receives
  | receiving assembly =>
    simp only [advance, advanceReceiving, ← closes, ← version, ← readLock, ← readBuffer]
      at advanced ⊢
    split at advanced <;> rename_i closed
    · rw [if_pos closed]
      cases advanced
      exact ⟨second, rfl, ⟨version, readLock, readBuffer⟩, lines⟩
    · rw [if_neg closed]
      split at advanced <;> rename_i held
      · rw [if_pos held]
        rcases polled : assembly.poll first.connection.version io first.connection.readBuffer
          first.line with ⟨(failure | ⟨preamble, body⟩) | woken, left, buffer, next⟩
        all_goals
          obtain ⟨last, also, after⟩ := Assembly.poll_alike splits lines polled
          rw [polled] at advanced
          simp only [also]
        · cases advanced
          exact ⟨_, rfl, ⟨rfl, rfl, rfl⟩, after⟩
        · simp only at advanced
          split at advanced <;> cases advanced
          · exact ⟨_, rfl, ⟨rfl, rfl, rfl⟩, after⟩
          · exact ⟨_, rfl, ⟨rfl, rfl, rfl⟩, after.note _⟩
        · cases advanced
          exact ⟨_, rfl, ⟨rfl, rfl, rfl⟩, after⟩
      · rw [if_neg held]
        cases advanced
        exact ⟨second, rfl, ⟨version, readLock, readBuffer⟩, lines⟩

end Endpoint

end Cmpp
