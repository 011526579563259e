import Cmpp.Proofs.Arrivals
import Cmpp.Proofs.Tasks
import Cmpp.Transport.Script

/-!
# Receiving a frame

A stream that delivers bytes in pieces, with pauses in between, and then ends, is received from as
if it were decoded at once: whatever the pieces, the pauses and the capacity of the read buffer, the
call comes to the packet or to the error that `decodeFrame` comes to, and leaves unread exactly the
bytes after those that it needed (`Endpoint.receives_decodeFrame`).
-/

namespace Cmpp

/-! ## Streams that are delivered in pieces -/

/-- The bytes that a cue delivers. -/
def Cue.bytes : Cue Bytes → Bytes
  | .answer bytes => bytes
  | .pending _ | .fail _ => []

/-- A cue delivers a piece that is not empty, or has its reader wait. -/
def Cue.Delivers : Cue Bytes → Prop
  | .answer bytes => bytes ≠ []
  | .pending _ => True
  | .fail _ => False

namespace Script

/-- The bytes that reads have still to deliver. -/
def undelivered (script : Script) : Bytes := script.reads.flatMap (·.bytes)

/-- Reads deliver pieces, with pauses in between, and then the stream ends. -/
structure Delivers (script : Script) : Prop where
  /-- Every cue delivers a piece or has its reader wait. -/
  cues : ∀ cue ∈ script.reads, cue.Delivers
  /-- The stream ends after them. -/
  ends : script.readsWait = false

end Script

/-- What reading comes to that takes a piece off the front of what lies ahead, or has to wait. Only
at the end is the piece empty; whoever has to wait has a cue less ahead. -/
def Took (limit : Nat) (ahead aheadAfter : Bytes) (cues cuesAfter : Nat) :
    Poll (Except Failure Bytes) → Prop
  | .pending _ => aheadAfter = ahead ∧ cuesAfter < cues
  | .ready (.ok piece) =>
    ahead = piece ++ aheadAfter ∧ piece.length ≤ limit ∧ (piece = [] → ahead = []) ∧
      cuesAfter ≤ cues
  | .ready (.error _) => False

/-- A stream that is delivered in pieces is read piece by piece. -/
theorem Script.read_took {script after : Script} {limit : Nat}
    {outcome : Poll (Except Failure Bytes)} (delivers : script.Delivers) (positive : 0 < limit)
    (read : script.read limit = (outcome, after)) :
    Took limit script.undelivered after.undelivered script.reads.length after.reads.length
        outcome ∧
      after.Delivers := by
  obtain ⟨cues, ends⟩ := delivers
  unfold Script.read at read
  split at read
  · rename_i none
    rw [ends] at read
    cases read
    exact ⟨by simp [Took, undelivered, none], cues, ends⟩
  · rename_i bytes rest queued
    rw [queued] at cues
    have nonempty : bytes ≠ [] := cues (.answer bytes) List.mem_cons_self
    have others : ∀ cue ∈ rest, cue.Delivers := fun cue inside =>
      cues cue (List.mem_cons_of_mem _ inside)
    have some : bytes.take limit ≠ [] := fun none =>
      (List.take_eq_nil_iff.mp none).elim (Nat.ne_of_gt positive) nonempty
    cases read
    refine ⟨⟨?_, List.length_take_le .., fun none => absurd none some, ?_⟩, ?_, ends⟩
    · have parts := List.take_append_drop limit bytes
      simp only [undelivered, queued, List.flatMap_cons, Cue.bytes]
      split
      · rename_i last
        rw [last, List.append_nil] at parts
        rw [parts]
      · rw [List.flatMap_cons, ← List.append_assoc]
        exact congrArg (· ++ _) parts.symm
    · simp only [queued]
      split <;> simp
    · simp only
      split
      · exact others
      · rename_i more
        intro cue inside
        rcases List.mem_cons.mp inside with rfl | inside
        · exact more
        · exact others cue inside
  · rename_i cue rest notAnswer queued
    rw [queued] at cues
    have delivers := cues cue List.mem_cons_self
    have others : ∀ cue ∈ rest, cue.Delivers := fun cue inside =>
      cues cue (List.mem_cons_of_mem _ inside)
    cases read
    cases cue with
    | answer bytes => exact (notAnswer bytes rfl).elim
    | fail failure => contradiction
    | pending woken =>
      exact ⟨by simp [Took, undelivered, queued, Cue.bytes, Cue.outcome], others, ends⟩

/-- The bytes that lie ahead of a reader: those held, and those still to be delivered. -/
def ReadBuffer.ahead (buffer : ReadBuffer) (line : Line Script) : Bytes :=
  buffer.held ++ line.state.undelivered

/-- Reading through a buffer takes a piece off the front of what lies ahead, whatever the buffer's
capacity. -/
theorem ReadBuffer.read_took {buffer after : ReadBuffer} {line lineAfter : Line Script}
    {limit : Nat} {outcome : Poll (Except Failure Bytes)} (delivers : line.state.Delivers)
    (positive : 0 < limit)
    (read : buffer.read Script.transport line limit = (outcome, after, lineAfter)) :
    Took limit (buffer.ahead line) (after.ahead lineAfter) line.state.reads.length
        lineAfter.state.reads.length outcome ∧
      lineAfter.state.Delivers := by
  unfold ReadBuffer.read at read
  split at read
  · rename_i empty
    split at read
    · cases direct : line.state.read limit with
      | mk result script =>
        obtain ⟨took, delivers⟩ := Script.read_took delivers positive direct
        simp only [Line.read, Script.transport, direct] at read
        cases read
        refine ⟨?_, delivers⟩
        rw [ahead, ahead, empty]
        exact took
    · rename_i small
      cases filled : line.state.read buffer.capacity with
      | mk result script =>
        obtain ⟨took, delivers⟩ := Script.read_took delivers (by omega) filled
        simp only [Line.read, Script.transport, filled] at read
        rcases result with (failure | bytes) | woken
        · exact took.elim
        · obtain ⟨split, -, ended, fewer⟩ := took
          cases read
          refine ⟨⟨?_, List.length_take_le .., fun none => ?_, fewer⟩, delivers⟩
          · rw [ahead, ahead, empty, List.nil_append, split, ← List.append_assoc,
              List.take_append_drop]
            rfl
          · have nothing := (List.take_eq_nil_iff.mp none).resolve_left (Nat.ne_of_gt positive)
            rw [ahead, empty, List.nil_append, ended nothing]
        · cases read
          refine ⟨?_, delivers⟩
          rw [ahead, ahead, empty]
          exact took
  · rename_i some
    cases read
    refine ⟨⟨?_, List.length_take_le .., ?_, Nat.le_refl _⟩, delivers⟩
    · rw [ahead, ahead, ← List.append_assoc, List.take_append_drop]
    · intro none
      exact ((List.take_eq_nil_iff.mp none).elim (Nat.ne_of_gt positive) some).elim

/-! ## Polls -/

/-- What a poll of an assembly comes to on a stream with a conclusion: the conclusion, or the
assembly has to wait with the same conclusion and a cue less ahead. -/
def Concludes (version : Version) (conclusion : Conclusion) (after : Assembly) (ahead : Bytes)
    (cues cuesAfter : Nat) : Poll (Except Error (Preamble × Bytes)) → Prop
  | .ready result => conclusion = (result, ahead)
  | .pending _ =>
    after.Unfinished version ∧ after.conclude version ahead = conclusion ∧ cuesAfter < cues

/-- A piece that was read leaves the conclusion as it is. -/
theorem Assembly.take_agrees {version : Version} {assembly : Assembly}
    {buffer after : ReadBuffer} {line lineAfter : Line Script} {piece : Bytes}
    (delivers : line.state.Delivers) (unfinished : assembly.Unfinished version)
    (read : buffer.read Script.transport line assembly.wanted =
      (.ready (.ok piece), after, lineAfter)) :
    (assembly.take version piece).Agrees version (after.ahead lineAfter)
      (assembly.conclude version (buffer.ahead line)) := by
  obtain ⟨⟨split, bounded, -, -⟩, -⟩ := ReadBuffer.read_took delivers unfinished.wanted_pos read
  rw [split]
  exact conclude_take _ unfinished bounded

/-- Polling an assembly leaves its conclusion as it is. -/
theorem Assembly.poll_concludes {version : Version} {assembly after : Assembly}
    {buffer bufferAfter : ReadBuffer} {line lineAfter : Line Script}
    {polled : Poll (Except Error (Preamble × Bytes))} (delivers : line.state.Delivers)
    (unfinished : assembly.Unfinished version)
    (poll : assembly.poll version Script.transport buffer line =
      (polled, after, bufferAfter, lineAfter)) :
    Concludes version (assembly.conclude version (buffer.ahead line)) after
        (bufferAfter.ahead lineAfter) line.state.reads.length lineAfter.state.reads.length polled ∧
      lineAfter.state.Delivers := by
  fun_induction Assembly.poll assembly version Script.transport buffer line with
  | case1 assembly buffer line woken _ _ read =>
    obtain ⟨⟨same, fewer⟩, delivers⟩ := ReadBuffer.read_took delivers unfinished.wanted_pos read
    cases poll
    exact ⟨⟨unfinished, by rw [same], fewer⟩, delivers⟩
  | case2 assembly buffer line failure _ _ read =>
    exact (ReadBuffer.read_took delivers unfinished.wanted_pos read).1.elim
  | case3 assembly buffer line _ _ read =>
    obtain ⟨⟨split, -, ended, -⟩, delivers⟩ :=
      ReadBuffer.read_took delivers unfinished.wanted_pos read
    cases poll
    refine ⟨?_, delivers⟩
    rw [List.nil_append, ended rfl] at split
    rw [Concludes, ended rfl, ← split]
    exact unfinished.conclude_nil
  | case4 assembly buffer line piece _ _ read some next taken ih =>
    -- The piece may have used up a cue, which only leaves fewer for the polls to come.
    obtain ⟨⟨-, -, -, fewer⟩, delivers⟩ :=
      ReadBuffer.read_took ‹line.state.Delivers› unfinished.wanted_pos read
    have agrees := take_agrees ‹line.state.Delivers› unfinished read
    rw [taken] at agrees
    obtain ⟨concludes, delivers⟩ := ih delivers agrees.1 poll
    rw [agrees.2] at concludes
    refine ⟨?_, delivers⟩
    cases polled with
    | ready result => exact concludes
    | pending woken =>
      exact ⟨concludes.1, concludes.2.1, Nat.lt_of_lt_of_le concludes.2.2 fewer⟩
  | case5 assembly buffer line piece _ _ read some preamble bytes taken =>
    have agrees := take_agrees delivers unfinished read
    rw [taken] at agrees
    cases poll
    exact ⟨agrees, (ReadBuffer.read_took delivers unfinished.wanted_pos read).2⟩
  | case6 assembly buffer line piece _ _ read some error taken =>
    have agrees := take_agrees delivers unfinished read
    rw [taken] at agrees
    cases poll
    exact ⟨agrees, (ReadBuffer.read_took delivers unfinished.wanted_pos read).2⟩

/-! ## Calls -/

/-- What a call to receive is told, given what the frame is decoded as. -/
def receipt : Except Error (Packet × Nat) → Outcome
  | .ok (packet, _) => .received packet
  | .error error => .failed error

/-- What a call to receive is told, given the conclusion. -/
def Conclusion.outcome (version : Version) : Conclusion → Outcome
  | (.ok (preamble, body), _) =>
    match decodeBody version preamble body with
    | .ok packet => .received packet
    | .error error => .failed error
  | (.error error, _) => .failed error

/-- A call is told the same whether the frame arrives in pieces or is decoded at once. -/
theorem outcome_concludeLength (version : Version) (bytes : Bytes) :
    (concludeLength version bytes).outcome version = receipt (decodeFrame version bytes) := by
  have verdict := verdict version bytes
  generalize concludeLength version bytes = conclusion, decodeFrame version bytes = decoded
    at verdict ⊢
  cases verdict with
  | whole preamble body rest =>
    cases read : decodeBody version preamble body <;>
      simp [Conclusion.outcome, receipt, read, Except.map]
  | _ => rfl

namespace Endpoint

/-- The bytes that lie ahead of the next receiver. -/
def ahead (endpoint : Endpoint Script) : Bytes :=
  endpoint.connection.readBuffer.ahead endpoint.line

/-- A task receives a frame from a stream that is delivered in pieces, with a conclusion. It holds
the read lock, and the connection has not been closed. -/
structure Receives (endpoint : Endpoint Script) (id : TaskId) (version : Version)
    (conclusion : Conclusion) : Prop where
  /-- Its assembly has this conclusion. -/
  task : ∃ assembly, endpoint.connection.task? id = some (.receiving assembly) ∧
    assembly.Unfinished version ∧ assembly.conclude version endpoint.ahead = conclusion
  /-- The connection has not been closed. -/
  opened : ¬endpoint.connection.closed
  /-- The task holds the lock. -/
  holds : endpoint.connection.readLock.isHeldBy id
  /-- The version of the connection. -/
  version : endpoint.connection.version = version
  /-- The stream is delivered in pieces. -/
  delivers : endpoint.line.state.Delivers

variable {endpoint : Endpoint Script} {id : TaskId} {version : Version} {conclusion : Conclusion}

/-- A poll of a task that receives comes to the conclusion, or the task has to wait and a cue has
been used up. -/
theorem Receives.poll (receives : endpoint.Receives id version conclusion) :
    (∃ woken after, endpoint.step Script.transport (.poll id) = (.polled (.pending woken), after) ∧
      after.Receives id version conclusion ∧
      after.line.state.reads.length < endpoint.line.state.reads.length) ∨
    ∃ after, endpoint.step Script.transport (.poll id) =
        (.polled (.ready (conclusion.outcome version)), after) ∧
      after.ahead = conclusion.2 := by
  obtain ⟨⟨assembly, found, unfinished, concluded⟩, opened, holds, rfl, delivers⟩ := receives
  cases polled : assembly.poll endpoint.connection.version Script.transport
      endpoint.connection.readBuffer endpoint.line with
  | mk result others =>
    obtain ⟨left, buffer, line⟩ := others
    obtain ⟨concludes, delivers⟩ := Assembly.poll_concludes delivers unfinished polled
    rw [← ahead, concluded] at concludes
    rw [step_poll found]
    simp only [advance, advanceReceiving, if_neg opened, if_pos holds, polled]
    cases result with
    | pending woken =>
      obtain ⟨unfinished, concluded, fewer⟩ := concludes
      refine .inl ⟨woken, _, rfl, ⟨⟨left, Connection.task?_keep_self, unfinished, concluded⟩,
        opened, holds, rfl, delivers⟩, fewer⟩
    | ready result =>
      obtain rfl : conclusion = (result, buffer.ahead line) := concludes
      rcases result with error | ⟨preamble, body⟩
      · exact .inr ⟨_, rfl, rfl⟩
      · cases read : decodeBody endpoint.connection.version preamble body with
        | error error =>
          simp only [read, Conclusion.outcome]
          exact .inr ⟨_, rfl, rfl⟩
        | ok packet =>
          simp only [read, Conclusion.outcome]
          exact .inr ⟨_, rfl, rfl⟩

/-- Poll a task again as long as it has to wait, at most so many times. -/
def await {σ : Type} (io : Transport σ) (id : TaskId) :
    Nat → Reply × Endpoint σ → Reply × Endpoint σ
  | polls + 1, (.polled (.pending _), endpoint) =>
    await io id polls (endpoint.step io (.poll id))
  | _, result => result

/-- A task that receives comes to the conclusion after at most as many further polls as there are
cues ahead. -/
theorem Receives.await (receives : endpoint.Receives id version conclusion) {polls : Nat}
    (enough : endpoint.line.state.reads.length ≤ polls) :
    ∃ after, Endpoint.await Script.transport id polls
        (endpoint.step Script.transport (.poll id)) =
          (.polled (.ready (conclusion.outcome version)), after) ∧
      after.ahead = conclusion.2 := by
  induction polls generalizing endpoint with
  | zero =>
    obtain ⟨_, _, _, _, fewer⟩ | ⟨after, done, left⟩ := receives.poll
    · omega
    · exact ⟨after, done, left⟩
  | succ polls ih =>
    obtain ⟨woken, next, waits, receives, fewer⟩ | ⟨after, done, left⟩ := receives.poll
    · rw [waits, Endpoint.await]
      exact ih receives (by omega)
    · rw [done]
      exact ⟨after, rfl, left⟩

/-- Opening a connection leaves the stream as it is. -/
theorem state_establish {σ : Type} (io : Transport σ) (config : Config) (state : σ) :
    (establish io config state).line.state = state := by
  simp only [establish]
  repeat' split
  all_goals rfl

/-- The first call to receive on a connection just opened is registered as a task that receives the
first frame of the stream. -/
theorem receives_registered (config : Config) {script : Script} (id : TaskId)
    (delivers : script.Delivers) :
    ∃ next, (establish Script.transport config script).connection.register id .receive =
        (.ok (.receiving .empty), next) ∧
      Receives { establish Script.transport config script with
          connection := next.keep id (.receiving .empty) } id config.version
        (concludeLength config.version script.undelivered) := by
  have state := state_establish Script.transport config script
  refine ⟨_, rfl, ⟨.empty, Connection.task?_keep_self, Nat.zero_lt_succ _, ?_⟩, ?_, ?_, rfl, ?_⟩
  · simp only [Assembly.conclude, ahead, ReadBuffer.ahead, state]
    rfl
  · exact Bool.false_ne_true
  · exact beq_self_eq_true (some id)
  · rw [state]
    exact delivers

/-- A call to receive on a connection just opened, polled until it is over, is told what
`decodeFrame` makes of the whole stream, and leaves unread all but the bytes that it needed. -/
theorem receives_decodeFrame (config : Config) (script : Script) (id : TaskId) (polls : Nat)
    (delivers : script.Delivers) (enough : script.reads.length ≤ polls) :
    ∃ after taken,
      await Script.transport id polls
          ((establish Script.transport config script).step Script.transport
            (.start id .receive)) =
        (.polled (.ready (receipt (decodeFrame config.version script.undelivered))), after) ∧
      script.undelivered = taken ++ after.ahead ∧
      taken.length = consumed config.version script.undelivered := by
  obtain ⟨next, registered, receives⟩ := receives_registered config id delivers
  have free : (establish Script.transport config script).connection.task? id = none := rfl
  rw [← state_establish Script.transport config script] at enough
  obtain ⟨after, done, left⟩ := receives.await enough
  obtain ⟨taken, split, length⟩ := conclude_leaves config.version script.undelivered
  refine ⟨after, taken, ?_, ?_, length⟩
  · rw [step_start free, registered, ← outcome_concludeLength]
    exact done
  · rw [left]
    exact split

/-- A test of the link that arrives in pieces cut inside its words, with the first bytes of
another frame in the last piece. -/
def pieces : Script where
  reads :=
    [.answer [0, 0], .pending true, .answer [0, 12, 0], .pending false, .pending false,
      .answer [0, 0, 8, 0, 0], .answer [0, 7, 0, 0]]

/-- A test of the link is received from its pieces, and the bytes after it are left unread. -/
theorem receives_decodeFrame_pieces :
    ∃ after, await Script.transport 1 7
        ((establish Script.transport { version := .v30, readCapacity := 3 } pieces).step
          Script.transport (.start 1 .receive)) =
      (.polled (.ready (.received ⟨.activeTest, 7, ()⟩)), after) ∧ after.ahead = [0, 0] := by
  have decoded : decodeFrame .v30 pieces.undelivered = .ok (⟨.activeTest, 7, ()⟩, 12) := by
    rfl
  have length : consumed .v30 pieces.undelivered = 12 := by decide
  have delivers : pieces.Delivers := ⟨by simp [pieces, Cue.Delivers], rfl⟩
  obtain ⟨after, taken, told, split, counted⟩ :=
    receives_decodeFrame { version := .v30, readCapacity := 3 } pieces 1 7 delivers
      (Nat.le_refl _)
  rw [decoded] at told
  refine ⟨after, told, ?_⟩
  have left := congrArg (List.drop 12) split
  rw [← length, ← counted, List.drop_left, counted, length] at left
  exact left.symm

end Endpoint

end Cmpp
