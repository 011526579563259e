import Cmpp.Proofs.Calls

/-!
# The bytes on their way in

Every byte that a transport has delivered has been taken by a receiver or is held by the read
buffer, in order and without gaps: reading takes bytes off the front of those that nobody has taken
(`ReadBuffer.read_takes`). A receiver takes the bytes of one frame and none of the next, and what it
comes to depends on the bytes that it has taken and on nothing else, unless the stream breaks off
under it (`Assembly.poll_takes`).
-/

namespace Cmpp

variable {σ : Type} {io : Transport σ}

/-! ## Delivered bytes -/

namespace Line

variable {line after : Line σ}

/-- The bytes that the transport has delivered, in order. -/
def delivered (line : Line σ) : Bytes := line.history.flatMap Event.delivered

/-- An event adds to the bytes delivered what was delivered in it. -/
@[simp] theorem delivered_enter (line : Line σ) (event : Event) (state : σ) :
    (line.enter event state).delivered = line.delivered ++ event.delivered := by
  simp [delivered, history, enter]

/-- A note adds nothing to the bytes delivered. -/
@[simp] theorem delivered_note (line : Line σ) (note : Note) :
    (line.note note).delivered = line.delivered := by
  simp [Line.note, Event.delivered]

/-- A read adds to the journal what it came to. -/
theorem history_read {limit : Nat} {outcome : Poll (Except Failure Bytes)}
    (read : line.read io limit = (outcome, after)) :
    after.history = line.history ++ [.read outcome] := by
  cases read
  exact history_enter ..

/-- What a read adds to the bytes delivered. -/
theorem delivered_read {limit : Nat} {outcome : Poll (Except Failure Bytes)}
    (read : line.read io limit = (outcome, after)) :
    after.delivered = line.delivered ++ (Event.read outcome).delivered := by
  cases read
  exact delivered_enter ..

/-- Only a receiver has bytes delivered. -/
theorem Calls.delivered_eq {errand : Errand} (calls : line.Calls io errand after)
    (other : errand ≠ .receiving) : after.delivered = line.delivered := by
  refine calls.keep (fun call same => Eq.trans ?_ same) rfl
  cases call with
  | read => contradiction
  | write _ written =>
    cases written
    simp [Event.delivered]
  | flush _ flushed =>
    cases flushed
    simp [Event.delivered]
  | shutdown done =>
    cases done
    simp [Event.delivered]
  | note => exact delivered_note ..

end Line

/-- A read that the stream ended at, or that failed. -/
def Event.BreaksOff : Event → Prop
  | .read (.ready (.error _)) | .read (.ready (.ok [])) => True
  | _ => False

/-- Opening a connection writes and reads nothing. -/
theorem Endpoint.establish_silent {config : Config} {state : σ} {event : Event}
    (inside : event ∈ (establish io config state).line.history) :
    event.accepted = [] ∧ event.delivered = [] ∧ ¬event.Refuses ∧ ¬event.BreaksOff := by
  have first : event = .keepalive true ∨ ∃ note, event = .note note := by
    simp only [establish] at inside
    repeat' split at inside
    all_goals simp only [Line.note, Line.enter, Line.history, List.mem_reverse, List.mem_cons,
      List.not_mem_nil, or_false] at inside
    all_goals grind
  rcases first with rfl | ⟨note, rfl⟩
  · exact ⟨rfl, rfl, id, id⟩
  · exact ⟨rfl, rfl, id, id⟩

/-- The stream has broken off after certain bytes. -/
def BrokenOff (history : List Event) (bytes : Bytes) : Prop :=
  ∃ front event, front ++ [event] <+: history ∧ event.BreaksOff ∧
    front.flatMap Event.delivered = bytes

/-- A stream that has broken off has done so for good, as far as the journal goes. -/
theorem BrokenOff.later {history longer : List Event} {bytes : Bytes}
    (broken : BrokenOff history bytes) (grown : history <+: longer) : BrokenOff longer bytes := by
  obtain ⟨front, event, inside, breaks, before⟩ := broken
  exact ⟨front, event, inside.trans grown, breaks, before⟩

namespace ReadBuffer

variable {buffer after : ReadBuffer} {line lineAfter : Line σ} {limit : Nat}

/-- Reading takes bytes off the front of those that nobody has taken. -/
theorem read_takes {outcome : Poll (Except Failure Bytes)} {taken : Bytes}
    (before : line.delivered = taken ++ buffer.held)
    (read : buffer.read io line limit = (outcome, after, lineAfter)) :
    lineAfter.delivered = taken ++ (Event.read outcome).delivered ++ after.held := by
  unfold ReadBuffer.read at read
  split at read
  · rename_i empty
    rw [empty, List.append_nil] at before
    split at read
    · cases direct : line.read io limit with
      | mk result middle =>
        rw [direct] at read
        cases read
        rw [Line.delivered_read direct, before, empty, List.append_nil]
    · cases filled : line.read io buffer.capacity with
      | mk result middle =>
        rw [filled] at read
        have delivered := Line.delivered_read filled
        rcases result with (failure | bytes) | woken <;> cases read
        · rw [delivered, before, empty, List.append_nil]
        · rw [delivered, before, List.append_assoc]
          exact congrArg (taken ++ ·) (List.take_append_drop limit bytes).symm
        · rw [delivered, before, empty, List.append_nil]
  · cases read
    rw [before, List.append_assoc]
    exact congrArg (taken ++ ·) (List.take_append_drop limit buffer.held).symm

/-- When there is nothing to be read any more, the buffer is empty and the stream has just broken
off. -/
theorem read_breaksOff {result : Except Failure Bytes} (positive : 0 < limit)
    (nothing : ∀ piece, result = .ok piece → piece = [])
    (read : buffer.read io line limit = (.ready result, after, lineAfter)) :
    buffer.held = [] ∧ after.held = [] ∧
      ∃ event, lineAfter.history = line.history ++ [event] ∧ event.BreaksOff := by
  unfold ReadBuffer.read at read
  split at read
  · rename_i empty
    split at read
    · cases direct : line.read io limit with
      | mk outcome middle =>
        rw [direct] at read
        cases read
        refine ⟨empty, empty, _, Line.history_read direct, ?_⟩
        rcases result with failure | piece
        · trivial
        · rw [nothing piece rfl]
          trivial
    · cases filled : line.read io buffer.capacity with
      | mk outcome middle =>
        rw [filled] at read
        rcases outcome with (failure | bytes) | woken <;> cases read
        · exact ⟨empty, empty, _, Line.history_read filled, trivial⟩
        · have none : bytes = [] :=
            (List.take_eq_nil_iff.mp (nothing _ rfl)).resolve_left (Nat.ne_of_gt positive)
          subst none
          exact ⟨empty, List.drop_nil, _, Line.history_read filled, trivial⟩
  · rename_i some
    cases read
    rcases List.take_eq_nil_iff.mp (nothing _ rfl) with zero | none
    · omega
    · exact (some none).elim

end ReadBuffer

/-! ## Frames -/

namespace Assembly

/-- The bytes that have arrived. -/
def bytes : Assembly → Bytes
  | length got => got
  | command totalLength got => word totalLength ++ got
  | body preamble got => word preamble.totalLength ++ (word preamble.commandId ++ got)

/-- The part that is arriving is not complete, and what came before it was accepted. -/
def Checked (version : Version) : Assembly → Prop
  | length got => got.length < 4
  | command totalLength got => version.accepts totalLength.toNat ∧ got.length < 4
  | body preamble got =>
    (version.accepts preamble.totalLength.toNat ∧ Command.isValidId preamble.commandId) ∧
      got.length < preamble.bodyLength

/-- An assembly that was checked is unfinished. -/
theorem Checked.unfinished {version : Version} {assembly : Assembly}
    (checked : assembly.Checked version) : assembly.Unfinished version := by
  cases assembly with
  | length got => exact checked
  | command totalLength got => exact checked
  | body preamble got => exact checked.2

end Assembly

/-- What the bytes that a receiver has taken come to, on a stream of which the journal tells and on
which others had taken bytes before: a whole frame, or a preamble that is refused, or nothing
because the stream has broken off after them. -/
inductive Comes (version : Version) (history : List Event) (earlier : Bytes) :
    Bytes → Except Error (Preamble × Bytes) → Prop
  /-- They are a frame. -/
  | whole {preamble : Preamble} {body : Bytes}
    (accepted : version.accepts preamble.totalLength.toNat)
    (valid : Command.isValidId preamble.commandId) (length : body.length = preamble.bodyLength) :
    Comes version history earlier
      (word preamble.totalLength ++ (word preamble.commandId ++ body)) (.ok (preamble, body))
  /-- They are a total length that is refused. -/
  | invalidTotalLength {totalLength : UInt32} (refused : ¬version.accepts totalLength.toNat) :
    Comes version history earlier (word totalLength)
      (.error (.invalidTotalLength totalLength version))
  /-- They end in a command number that is refused. -/
  | invalidCommand {totalLength commandId : UInt32}
    (accepted : version.accepts totalLength.toNat) (refused : ¬Command.isValidId commandId) :
    Comes version history earlier (word totalLength ++ word commandId)
      (.error (.invalidCommand commandId))
  /-- The stream has ended after them. -/
  | truncated {assembly : Assembly} (checked : assembly.Checked version)
    (broken : BrokenOff history (earlier ++ assembly.bytes)) :
    Comes version history earlier assembly.bytes (.error assembly.truncation)
  /-- The stream has failed after them. -/
  | failed {assembly : Assembly} (failure : Failure) (checked : assembly.Checked version)
    (broken : BrokenOff history (earlier ++ assembly.bytes)) :
    Comes version history earlier assembly.bytes (.error (.transport failure))

namespace Assembly

variable {version : Version} {history : List Event} {earlier : Bytes}

/-- What taking a piece says of the bytes that have arrived with it. -/
def Step.Holds (version : Version) (history : List Event) (earlier bytes : Bytes) : Step → Prop
  | more next => next.Checked version ∧ next.bytes = bytes
  | complete preamble got => Comes version history earlier bytes (.ok (preamble, got))
  | refused error => Comes version history earlier bytes (.error error)

/-- Taking a piece that was wanted adds it to the bytes that have arrived. -/
theorem take_holds {assembly : Assembly} {piece : Bytes} (history : List Event) (earlier : Bytes)
    (checked : assembly.Checked version) (bounded : piece.length ≤ assembly.wanted) :
    (assembly.take version piece).Holds version history earlier (assembly.bytes ++ piece) := by
  cases assembly with
  | length got =>
    simp only [take, bytes]
    split
    · rename_i short
      exact ⟨short, rfl⟩
    · have whole : (got ++ piece).length = 4 := by
        simp only [Checked, wanted, List.length_append] at *
        omega
      have written := word_ofWord whole
      cases accepted : checkTotalLength version (ofWord (got ++ piece)) with
      | ok _ =>
        refine ⟨⟨checkTotalLength_eq_ok.mp accepted, Nat.zero_lt_succ _⟩, ?_⟩
        rw [bytes, List.append_nil, written]
      | error error =>
        have refused : ¬version.accepts (ofWord (got ++ piece)).toNat := fun accepts => by
          rw [checkTotalLength_eq_ok.mpr accepts] at accepted
          cases accepted
        rw [checkTotalLength, if_neg refused] at accepted
        cases accepted
        have comes : Comes version history earlier _ _ := .invalidTotalLength refused
        rwa [written] at comes
  | command totalLength got =>
    obtain ⟨accepted, short⟩ := checked
    simp only [take, bytes, List.append_assoc]
    split
    · rename_i still
      exact ⟨⟨accepted, still⟩, rfl⟩
    · have whole : (got ++ piece).length = 4 := by
        simp only [wanted, List.length_append] at *
        omega
      have written := word_ofWord whole
      cases valid : checkCommand (ofWord (got ++ piece)) with
      | ok _ =>
        have least := headerLength_le_of_accepts accepted
        refine ⟨⟨⟨accepted, checkCommand_eq_ok.mp valid⟩, ?_⟩, ?_⟩
        · simp only [Preamble.bodyLength, headerLength, preambleLength, List.length_nil] at *
          omega
        · rw [bytes, List.append_nil, written]
      | error error =>
        have refused : ¬Command.isValidId (ofWord (got ++ piece)) := fun accepts => by
          rw [checkCommand_eq_ok.mpr accepts] at valid
          cases valid
        rw [checkCommand, if_neg refused] at valid
        cases valid
        have comes : Comes version history earlier _ _ := .invalidCommand accepted refused
        rwa [written] at comes
  | body preamble got =>
    obtain ⟨⟨accepted, valid⟩, short⟩ := checked
    simp only [take, bytes, List.append_assoc]
    split
    · rename_i still
      exact ⟨⟨⟨accepted, valid⟩, still⟩, rfl⟩
    · refine .whole accepted valid ?_
      simp only [wanted, List.length_append] at *
      omega

/-- What a poll of an assembly says of the bytes that have arrived with it. -/
def Polls (version : Version) (history : List Event) (earlier bytes : Bytes) (after : Assembly) :
    Poll (Except Error (Preamble × Bytes)) → Prop
  | .pending _ => after.Checked version ∧ after.bytes = bytes
  | .ready result => Comes version history earlier bytes result

/-- When there is nothing to be read any more, the stream has broken off after the bytes that have
arrived. -/
theorem read_broken {assembly : Assembly} {buffer bufferAfter : ReadBuffer}
    {line lineAfter : Line σ} {result : Except Failure Bytes} (checked : assembly.Checked version)
    (before : line.delivered = earlier ++ assembly.bytes ++ buffer.held)
    (nothing : ∀ piece, result = .ok piece → piece = [])
    (read : buffer.read io line assembly.wanted = (.ready result, bufferAfter, lineAfter)) :
    BrokenOff lineAfter.history (earlier ++ assembly.bytes) := by
  obtain ⟨empty, -, event, history, breaks⟩ :=
    ReadBuffer.read_breaksOff checked.unfinished.wanted_pos nothing read
  rw [empty, List.append_nil] at before
  exact ⟨line.history, event, history ▸ List.prefix_rfl, breaks, before⟩

/-- Polling an assembly takes bytes off the front of those that nobody has taken, and what it comes
to is what these bytes come to. -/
theorem poll_takes {assembly after : Assembly} {buffer bufferAfter : ReadBuffer}
    {line lineAfter : Line σ} {polled : Poll (Except Error (Preamble × Bytes))}
    (checked : assembly.Checked version)
    (before : line.delivered = earlier ++ assembly.bytes ++ buffer.held)
    (poll : assembly.poll version io buffer line = (polled, after, bufferAfter, lineAfter)) :
    ∃ gained, lineAfter.delivered = earlier ++ (assembly.bytes ++ gained) ++ bufferAfter.held ∧
      Polls version lineAfter.history earlier (assembly.bytes ++ gained) after polled := by
  fun_induction Assembly.poll assembly version io buffer line with
  | case1 assembly buffer line woken _ _ read =>
    have delivered := ReadBuffer.read_takes before read
    cases poll
    exact ⟨[], by simpa [Event.delivered] using delivered, checked, by simp⟩
  | case2 assembly buffer line failure _ _ read =>
    have delivered := ReadBuffer.read_takes before read
    have broken := read_broken checked before (by simp) read
    cases poll
    refine ⟨[], by simpa [Event.delivered] using delivered, ?_⟩
    rw [List.append_nil]
    exact .failed failure checked broken
  | case3 assembly buffer line _ _ read =>
    have delivered := ReadBuffer.read_takes before read
    have broken := read_broken checked before (by simp) read
    cases poll
    refine ⟨[], by simpa [Event.delivered] using delivered, ?_⟩
    rw [List.append_nil]
    exact .truncated checked broken
  | case4 assembly buffer line piece _ lineNext read some next taken ih =>
    have delivered := ReadBuffer.read_takes before read
    have holds := take_holds lineNext.history earlier checked (ReadBuffer.read_length read)
    rw [taken] at holds
    obtain ⟨nextChecked, arrived⟩ := holds
    rw [List.append_assoc earlier, Event.delivered, ← arrived] at delivered
    obtain ⟨gained, deliveredAfter, polls⟩ := ih nextChecked delivered poll
    rw [arrived, List.append_assoc assembly.bytes] at deliveredAfter polls
    exact ⟨piece ++ gained, deliveredAfter, polls⟩
  | case5 assembly buffer line piece _ lineNext read some preamble got taken
  | case6 assembly buffer line piece _ lineNext read some error taken =>
    have delivered := ReadBuffer.read_takes before read
    have holds := take_holds lineNext.history earlier checked (ReadBuffer.read_length read)
    rw [taken] at holds
    rw [List.append_assoc earlier, Event.delivered] at delivered
    cases poll
    exact ⟨piece, delivered, holds⟩

end Assembly

end Cmpp
