import Cmpp.Proofs.Arrivals
import Cmpp.Proofs.Writing
import Cmpp.Proofs.Tasks
import Mathlib.Logic.Relation

/-!
# What a task does on its line

A task goes on by calls on its line, and its errand says by which: a sender writes and flushes, a
receiver reads, whoever closes the connection flushes and shuts the transport down
(`Endpoint.advance_calls`). So whatever single calls leave as it is, polls and runs leave as it is.
The journal only grows; and when a transmission fails, the journal says that the transport refused
(`Transmission.poll_refused`).
-/

namespace Cmpp

variable {σ : Type} {io : Transport σ}

/-- What a task is there for. -/
inductive Errand
  /-- To send a frame. -/
  | sending
  /-- To receive a frame. -/
  | receiving
  /-- To shut the transport down. -/
  | closing
  deriving DecidableEq

/-- What a task is there for. -/
def Task.errand : Task → Errand
  | .sending .. => .sending
  | .receiving _ => .receiving
  | .closing _ => .closing

/-- What is left of a task has the same errand. -/
theorem Task.Continues.errand_eq {task next : Task} (continues : task.Continues next) :
    next.errand = task.errand := by
  cases task <;> cases next <;> first | rfl | contradiction

namespace Line

variable {errand : Errand} {line before after : Line σ}

/-- One call on a line that an errand brings with it, or a note. No call offers or asks for
nothing. -/
inductive Call (io : Transport σ) : Errand → Line σ → Line σ → Prop
  /-- A receiver reads. -/
  | read {before after : Line σ} {limit : Nat} {outcome : Poll (Except Failure Bytes)}
    (positive : 0 < limit) (read : before.read io limit = (outcome, after)) :
    Call io .receiving before after
  /-- A sender writes. -/
  | write {before after : Line σ} {data : Bytes} {outcome : Poll (Except Failure Nat)}
    (nonempty : data ≠ []) (written : before.write io data = (outcome, after)) :
    Call io .sending before after
  /-- Everyone but a receiver flushes. -/
  | flush {errand : Errand} {before after : Line σ} {outcome : Poll (Except Failure Unit)}
    (writes : errand ≠ .receiving) (flushed : before.flush io = (outcome, after)) :
    Call io errand before after
  /-- Whoever closes the connection shuts the transport down. -/
  | shutdown {before after : Line σ} {outcome : Poll (Except Failure Unit)}
    (done : before.shutdown io = (outcome, after)) : Call io .closing before after
  /-- Everyone makes notes. -/
  | note {errand : Errand} (line : Line σ) (note : Note) : Call io errand line (line.note note)

/-- Calls on a line, one after another, that an errand brings with it. -/
abbrev Calls (io : Transport σ) (errand : Errand) : Line σ → Line σ → Prop :=
  Relation.ReflTransGen (Call io errand)

/-- An event is entered behind all others. -/
@[simp] theorem history_enter (line : Line σ) (event : Event) (state : σ) :
    (line.enter event state).history = line.history ++ [event] := by
  simp [history, enter]

/-- A call is one event. -/
theorem Call.history (call : Call io errand before after) :
    ∃ event, after.history = before.history ++ [event] := by
  cases call with
  | read positive read =>
    cases read
    exact ⟨_, history_enter ..⟩
  | write nonempty written =>
    cases written
    exact ⟨_, history_enter ..⟩
  | flush writes flushed =>
    cases flushed
    exact ⟨_, history_enter ..⟩
  | shutdown done =>
    cases done
    exact ⟨_, history_enter ..⟩
  | note line note => exact ⟨_, history_enter ..⟩

/-- Nothing is taken back that was entered in the journal. -/
theorem Calls.history_prefix (calls : Calls io errand before after) :
    before.history <+: after.history := by
  induction calls with
  | refl => exact List.prefix_rfl
  | tail _ call ih =>
    obtain ⟨event, entered⟩ := call.history
    rw [entered]
    exact ih.trans (List.prefix_append _ _)

/-- What single calls keep, several keep. -/
theorem Calls.keep {invariant : Line σ → Prop} (calls : Calls io errand before after)
    (keeps : ∀ {before after}, Call io errand before after → invariant before → invariant after)
    (holds : invariant before) : invariant after := by
  induction calls with
  | refl => exact holds
  | tail _ call ih => exact keeps call ih

end Line

/-! ## Writing -/

/-- A call in which the transport refused what was to be written: it failed, or it accepted
nothing. -/
def Event.Refuses : Event → Prop
  | .write _ (.ready (.error _)) | .write _ (.ready (.ok 0)) | .flush (.ready (.error _)) => True
  | _ => False

/-- The transport has refused what was to be written. -/
def Line.Refused (line : Line σ) : Prop := ∃ event ∈ line.history, event.Refuses

namespace Line

variable {line after : Line σ}

/-- The last event of a journal is in it. -/
theorem refused_enter {event : Event} (refuses : event.Refuses) (state : σ) :
    (line.enter event state).Refused :=
  ⟨event, by simp, refuses⟩

/-- What was refused stays refused. -/
theorem Refused.later {errand : Errand} (refused : line.Refused)
    (calls : line.Calls io errand after) : after.Refused := by
  obtain ⟨event, inside, refuses⟩ := refused
  exact ⟨event, calls.history_prefix.subset inside, refuses⟩

/-- A write that failed was refused. -/
theorem refused_of_write_error {data : Bytes} {failure : Failure}
    (written : line.write io data = (.ready (.error failure), after)) : after.Refused := by
  obtain ⟨told, rfl⟩ := Prod.mk.inj written
  exact refused_enter (by rw [told]; trivial) _

/-- A write that was accepted nothing of was refused. -/
theorem refused_of_write_zero {data : Bytes}
    (written : line.write io data = (.ready (.ok 0), after)) : after.Refused := by
  obtain ⟨told, rfl⟩ := Prod.mk.inj written
  exact refused_enter (by rw [told]; trivial) _

/-- A flush that failed was refused. -/
theorem refused_of_flush_error {failure : Failure}
    (flushed : line.flush io = (.ready (.error failure), after)) : after.Refused := by
  obtain ⟨told, rfl⟩ := Prod.mk.inj flushed
  exact refused_enter (by rw [told]; trivial) _

end Line

namespace WriteBuffer

variable {buffer after : WriteBuffer} {line lineAfter : Line σ} {data : Bytes}

/-- Draining writes. -/
theorem drain_calls (buffer : WriteBuffer) (io : Transport σ) (line : Line σ) :
    line.Calls io .sending (buffer.drain io line).2.2 := by
  fun_induction drain buffer io line with
  | case1 => exact .refl
  | case2 buffer line nonempty _ _ written | case4 buffer line nonempty _ _ written
  | case5 buffer line nonempty _ written => exact .single (.write nonempty written)
  | case3 buffer line nonempty _ _ written _ ih | case6 buffer line nonempty _ _ written _ ih =>
    exact .head (.write nonempty written) ih

/-- Putting data into a buffer, or past it, writes at most once. -/
theorem put_calls (nonempty : data ≠ []) (buffer : WriteBuffer) (io : Transport σ)
    (line : Line σ) : line.Calls io .sending (buffer.put io line data).2.2 := by
  unfold put
  split
  · exact .single (.write nonempty rfl)
  · exact .refl

/-- A write drains the buffer and puts data into it. -/
theorem write_calls (nonempty : data ≠ []) (buffer : WriteBuffer) (io : Transport σ)
    (line : Line σ) : line.Calls io .sending (buffer.write io line data).2.2 := by
  have drained := buffer.drain_calls io line
  unfold WriteBuffer.write
  split
  · exact put_calls nonempty buffer io line
  · split
    · rename_i result
      rw [result] at drained
      exact drained.trans (put_calls nonempty _ io _)
    · rename_i result
      rwa [result] at drained
    · rename_i result
      rwa [result] at drained

/-- A flush drains the buffer and flushes the transport. -/
theorem flush_calls (buffer : WriteBuffer) (io : Transport σ) (line : Line σ) :
    line.Calls io .sending (buffer.flush io line).2.2 := by
  have drained := buffer.drain_calls io line
  unfold flush
  split
  · rename_i result
    rw [result] at drained
    exact drained.tail (.flush (by decide) rfl)
  · rename_i result
    rwa [result] at drained

/-- When draining fails, the transport has refused. -/
theorem drain_refused {failure : Failure}
    (drained : buffer.drain io line = (.ready (.error failure), after, lineAfter)) :
    lineAfter.Refused := by
  fun_induction drain buffer io line with
  | case1 | case2 => cases drained
  | case3 _ _ _ _ _ _ _ ih | case6 _ _ _ _ _ _ _ ih => exact ih drained
  | case4 _ _ _ _ _ written =>
    cases drained
    exact Line.refused_of_write_error written
  | case5 _ _ _ _ written =>
    cases drained
    exact Line.refused_of_write_zero written

/-- Whether an attempt to write has failed or taken nothing. -/
def Declined : Poll (Except Failure Nat) → Prop
  | .ready (.error _) | .ready (.ok 0) => True
  | _ => False

/-- When putting data into a buffer, or past it, fails or takes nothing, the transport has
refused. -/
theorem put_refused {outcome : Poll (Except Failure Nat)} (nonempty : data ≠ [])
    (put : buffer.put io line data = (outcome, after, lineAfter)) (declined : Declined outcome) :
    lineAfter.Refused := by
  unfold WriteBuffer.put at put
  split at put
  · cases written : line.write io data with
    | mk result middle =>
      rw [written] at put
      obtain ⟨rfl, rfl, rfl⟩ : result = outcome ∧ buffer = after ∧ middle = lineAfter := by
        simpa using put
      rcases result with (failure | _ | count) | woken
      · exact Line.refused_of_write_error written
      · exact Line.refused_of_write_zero written
      · exact declined.elim
      · exact declined.elim
  · cases put
    have positive := List.length_pos_iff.mpr nonempty
    cases length : data.length with
    | zero => omega
    | succ count =>
      rw [length] at declined
      exact declined.elim

/-- When a write fails or takes nothing, the transport has refused. -/
theorem write_refused {outcome : Poll (Except Failure Nat)} (nonempty : data ≠ [])
    (written : buffer.write io line data = (outcome, after, lineAfter))
    (declined : Declined outcome) : lineAfter.Refused := by
  unfold WriteBuffer.write at written
  split at written
  · exact put_refused nonempty written declined
  · split at written
    · exact put_refused nonempty written declined
    · rename_i drained
      cases written
      exact drain_refused drained
    · cases written
      exact declined.elim

/-- When a flush fails, the transport has refused. -/
theorem flush_refused {failure : Failure}
    (flushed : buffer.flush io line = (.ready (.error failure), after, lineAfter)) :
    lineAfter.Refused := by
  unfold flush at flushed
  split at flushed
  · obtain ⟨told, rest⟩ := Prod.mk.inj flushed
    obtain ⟨-, rfl⟩ := Prod.mk.inj rest
    exact Line.refused_of_flush_error (Prod.ext told rfl)
  · rename_i drained
    cases flushed
    exact drain_refused drained

end WriteBuffer

namespace Transmission

/-- A transmission writes and flushes. -/
theorem poll_calls (rest : Transmission) (io : Transport σ) (buffer : WriteBuffer)
    (line : Line σ) : line.Calls io .sending (rest.poll io buffer line).2.2.2 := by
  fun_induction Transmission.poll rest io buffer line with
  | case1 => exact .refl
  | case2 buffer line data nonempty _ _ _ written ih =>
    have first := WriteBuffer.write_calls nonempty buffer io line
    rw [written] at first
    exact first.trans ih
  | case3 buffer line data nonempty _ _ _ written | case4 buffer line data nonempty _ _ _ written =>
    have only := WriteBuffer.write_calls nonempty buffer io line
    rwa [written] at only
  | case5 buffer line _ _ _ flushed ih =>
    have first := buffer.flush_calls io line
    rw [flushed] at first
    exact first.trans ih
  | case6 buffer line _ _ _ _ _ flushed | case7 buffer line _ _ flushed
  | case8 buffer line _ _ _ _ flushed =>
    have only := buffer.flush_calls io line
    rwa [flushed] at only

/-- When a transmission fails or is left stalled, the transport has refused, provided that it had
when the transmission was stalled before. -/
theorem poll_refused {rest after : Transmission} {buffer bufferAfter : WriteBuffer}
    {line lineAfter : Line σ} {polled : Poll (Except Failure Unit)}
    (before : rest = .stalled → line.Refused)
    (poll : rest.poll io buffer line = (polled, after, bufferAfter, lineAfter))
    (bad : (∃ failure, polled = .ready (.error failure)) ∨ after = .stalled) :
    lineAfter.Refused := by
  fun_induction Transmission.poll rest io buffer line with
  | case1 => cases poll; simp at bad
  | case2 buffer line data nonempty taken _ _ written ih =>
    refine ih (fun stalled => ?_) poll
    refine WriteBuffer.write_refused nonempty written ?_
    unfold afterWrite at stalled
    split at stalled
    · rename_i none
      rw [none]
      trivial
    · cases stalled
  | case3 buffer line data nonempty failure _ _ written =>
    cases poll
    exact WriteBuffer.write_refused nonempty written trivial
  | case4 => cases poll; simp at bad
  | case5 _ _ _ _ _ _ ih => exact ih (by simp) poll
  | case6 buffer line data _ _ _ _ flushed =>
    cases poll
    obtain ⟨failure, rfl⟩ : ∃ failure, polled = .ready (.error failure) := by simpa using bad
    exact WriteBuffer.flush_refused flushed
  | case7 buffer line _ _ flushed | case8 buffer line _ _ _ _ flushed =>
    have later := buffer.flush_calls io line
    rw [flushed] at later
    cases poll
    exact (before rfl).later later

end Transmission

/-! ## Reading -/

namespace ReadBuffer

variable {buffer after : ReadBuffer} {line lineAfter : Line σ} {limit : Nat}

/-- Reading through a buffer reads at most once. -/
theorem read_calls (positive : 0 < limit) (buffer : ReadBuffer) (io : Transport σ)
    (line : Line σ) : line.Calls io .receiving (buffer.read io line limit).2.2 := by
  unfold ReadBuffer.read
  split
  · split
    · exact .single (.read positive rfl)
    · rename_i small
      have filled : 0 < buffer.capacity := by omega
      split
      · rename_i read
        exact .single (.read filled read)
      · rename_i read
        exact .single (.read filled read)
  · exact .refl

/-- No more is read through a buffer than was asked for. -/
theorem read_length {piece : Bytes}
    (read : buffer.read io line limit = (.ready (.ok piece), after, lineAfter)) :
    piece.length ≤ limit := by
  unfold ReadBuffer.read at read
  split at read
  · split at read
    · exact io.read_length (congrArg Prod.fst read)
    · split at read <;> cases read
      · exact List.length_take_le ..
      · rename_i notBytes _
        exact (notBytes _ rfl).elim
  · cases read
    exact List.length_take_le ..

end ReadBuffer

/-- Receiving reads. -/
theorem Assembly.poll_calls {version : Version} {assembly : Assembly}
    (unfinished : assembly.Unfinished version) (io : Transport σ) (buffer : ReadBuffer)
    (line : Line σ) : line.Calls io .receiving (assembly.poll version io buffer line).2.2.2 := by
  have first := buffer.read_calls unfinished.wanted_pos io line
  fun_induction Assembly.poll assembly version io buffer line with
  | case1 _ _ _ _ _ _ read | case2 _ _ _ _ _ _ read | case3 _ _ _ _ _ read
  | case5 _ _ _ _ _ _ read | case6 _ _ _ _ _ _ read => rwa [read] at first
  | case4 assembly buffer line piece _ _ read some next taken ih =>
    rw [read] at first
    have agrees := conclude_take [] unfinished (ReadBuffer.read_length read)
    rw [taken] at agrees
    exact first.trans (ih agrees.1 (ReadBuffer.read_calls agrees.1.wanted_pos ..))

/-- An assembly that has to wait is still unfinished. -/
theorem Assembly.poll_unfinished {version : Version} {assembly after : Assembly}
    {buffer bufferAfter : ReadBuffer} {line lineAfter : Line σ} {woken : Bool}
    (unfinished : assembly.Unfinished version)
    (poll : assembly.poll version io buffer line =
      (.pending woken, after, bufferAfter, lineAfter)) :
    after.Unfinished version := by
  fun_induction Assembly.poll assembly version io buffer line with
  | case1 =>
    cases poll
    exact unfinished
  | case2 | case3 | case5 | case6 => cases poll
  | case4 assembly buffer line piece _ _ read some next taken ih =>
    have agrees := conclude_take [] unfinished (ReadBuffer.read_length read)
    rw [taken] at agrees
    exact ih agrees.1 poll

/-! ## Going on -/

/-- A frame that is being received is not complete. -/
def Task.Unfinished (version : Version) : Task → Prop
  | .receiving assembly => assembly.Unfinished version
  | .sending .. | .closing _ => True

namespace Endpoint

/-- Shutting the transport down is a shutdown, and notes. -/
theorem advanceShutdown_calls (endpoint : Endpoint σ) (io : Transport σ) :
    endpoint.line.Calls io .closing (endpoint.advanceShutdown io).2.line := by
  unfold advanceShutdown
  split
  · rename_i done
    exact .single (.shutdown done)
  · rename_i result _ done
    have first : endpoint.line.Calls io .closing _ := .single (.shutdown done)
    cases result with
    | ok _ => exact first.tail (.note ..)
    | error failure => exact (first.tail (.note ..)).tail (.note ..)

/-- Flushing on closing is a flush, and what shutting the transport down is. -/
theorem advanceFlush_calls (endpoint : Endpoint σ) (io : Transport σ) :
    endpoint.line.Calls io .closing (endpoint.advanceFlush io).2.line := by
  unfold advanceFlush
  split
  · rename_i flushed
    exact .single (.flush (by decide) flushed)
  · rename_i line flushed
    have others := advanceShutdown_calls { endpoint with line } io
    exact others.head (.flush (by decide) flushed)
  · rename_i failure line flushed
    have others := advanceShutdown_calls
      { endpoint with line := line.note (.flushFailed failure) } io
    exact (others.head (.note ..)).head (.flush (by decide) flushed)

/-- Going on with a task makes calls for its errand. -/
theorem advance_calls (endpoint : Endpoint σ) (io : Transport σ) (id : TaskId) {task : Task}
    (unfinished : task.Unfinished endpoint.connection.version) :
    endpoint.line.Calls io task.errand (endpoint.advance io id task).2.line := by
  cases task with
  | sending outcome sequenceId frame rest =>
    have calls := rest.poll_calls io endpoint.connection.writeBuffer endpoint.line
    simp only [advance, advanceSending, Task.errand]
    repeat' split
    · exact .refl
    · exact calls
    · exact calls
    · exact calls.tail (.note ..)
    · exact .refl
  | receiving assembly =>
    have calls := Assembly.poll_calls unfinished io endpoint.connection.readBuffer endpoint.line
    simp only [advance, advanceReceiving, Task.errand]
    repeat' split
    · exact .refl
    · exact calls
    · exact calls
    · exact calls
    · exact calls.tail (.note ..)
    · exact .refl
  | closing stage =>
    cases stage with
    | waiting =>
      simp only [advance, advanceClosing, Task.errand]
      split
      · split
        · exact advanceFlush_calls endpoint io
        · have others := advanceFlush_calls
            (endpoint.note (.frameDropped endpoint.connection.writeBuffer.length)) io
          exact others.head (.note ..)
      · exact .refl
    | flushing => exact advanceFlush_calls endpoint io
    | shuttingDown => exact advanceShutdown_calls endpoint io

/-- What is left of a task that has to wait is unfinished too. -/
theorem advance_unfinished {endpoint : Endpoint σ} {id : TaskId} {task left : Task} {woken : Bool}
    (unfinished : task.Unfinished endpoint.connection.version)
    (suspended : (endpoint.advance io id task).1 = .suspended woken left) :
    left.Unfinished endpoint.connection.version := by
  have continues := advance_continues suspended
  cases task with
  | sending | closing =>
    cases left with
    | receiving => exact continues.elim
    | sending | closing => trivial
  | receiving assembly =>
    simp only [advance, advanceReceiving] at suspended
    repeat' split at suspended
    all_goals cases suspended
    · rename_i polled
      exact Assembly.poll_unfinished unfinished (Prod.ext polled rfl)
    · exact unfinished

end Endpoint

end Cmpp
