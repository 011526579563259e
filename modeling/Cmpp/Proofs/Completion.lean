import Cmpp.Proofs.Frames
import Cmpp.Proofs.Turns
import Cmpp.Transport.Script

/-!
# What a sender that succeeds has done

A sender that succeeds has had its frame accepted whole by the transport, behind everything that was
handed over before it obtained the write lock, and has then flushed the transport
(`Endpoint.sent_is_accepted`). A task in the queue for the lock waits with its whole frame
(`Endpoint.Waits`); once it holds the lock, what is handed over is what was handed over before and
the part of its frame that it has sent (`Endpoint.Sends`), whatever other tasks do meanwhile. The
last thing that a transmission does is a flush that leaves the write buffer empty
(`Transmission.poll_flushed`).
-/

namespace Cmpp

variable {σ : Type} {io : Transport σ}

/-- A write buffer that has just been flushed: it is empty, and the last thing that happened was a
flush of the transport that succeeded. -/
structure WriteBuffer.Flushed (buffer : WriteBuffer) (line : Line σ) : Prop where
  /-- Every byte has been accepted. -/
  unsent : buffer.unsent = []
  /-- No accepted byte takes up room. -/
  spent : buffer.spent = 0
  /-- The transport has been flushed. -/
  last : ∃ history, line.history = history ++ [.flush (.ready (.ok ()))]

/-- A flush that succeeds leaves the buffer flushed. -/
theorem WriteBuffer.flush_flushed {buffer after : WriteBuffer} {line lineAfter : Line σ}
    (flushed : buffer.flush io line = (.ready (.ok ()), after, lineAfter)) :
    after.Flushed lineAfter := by
  unfold flush at flushed
  split at flushed
  · rename_i middle drained
    obtain ⟨-, -, empty⟩ := drain_keeps drained
    obtain ⟨unsent, spent⟩ := empty rfl
    obtain ⟨told, rest⟩ := Prod.mk.inj flushed
    obtain ⟨rfl, rfl⟩ := Prod.mk.inj rest
    refine ⟨unsent, spent, middle.history, ?_⟩
    rw [← told]
    exact Line.history_enter ..
  · rename_i notDone _
    cases flushed
    exact (notDone rfl).elim

namespace Transmission

/-- A transmission that succeeds leaves the buffer flushed, unless it had nothing to do. -/
theorem poll_flushed {rest after : Transmission} {buffer bufferAfter : WriteBuffer}
    {line lineAfter : Line σ} (before : rest = .writing [] → buffer.Flushed line)
    (poll : rest.poll io buffer line = (.ready (.ok ()), after, bufferAfter, lineAfter)) :
    bufferAfter.Flushed lineAfter := by
  fun_induction Transmission.poll rest io buffer line with
  | case1 =>
    cases poll
    exact before rfl
  | case2 buffer line data nonempty taken _ _ written ih =>
    refine ih (fun done => ?_) poll
    unfold afterWrite at done
    split at done <;> cases done
  | case5 buffer line _ _ _ flushed ih =>
    exact ih (fun _ => WriteBuffer.flush_flushed flushed) poll
  | case6 | case8 =>
    rename_i notDone _
    cases poll
    exact (notDone rfl).elim
  | case3 | case4 | case7 => cases poll

/-- A transmission that has to wait has something left to do. -/
theorem poll_pending {rest after : Transmission} {buffer bufferAfter : WriteBuffer}
    {line lineAfter : Line σ} {woken : Bool}
    (poll : rest.poll io buffer line = (.pending woken, after, bufferAfter, lineAfter)) :
    after ≠ .writing [] := by
  fun_induction Transmission.poll rest io buffer line with
  | case2 _ _ _ _ _ _ _ _ ih | case5 _ _ _ _ _ _ ih => exact ih poll
  | case4 _ _ data nonempty =>
    cases poll
    simpa using nonempty
  | case6 | case8 =>
    cases poll
    simp
  | case1 | case3 | case7 => cases poll

end Transmission

/-- What an action has a call come to, if it is over. -/
def Reply.outcome? : Reply → Option Outcome
  | .polled (.ready outcome) => some outcome
  | _ => none

/-- An action has a call come to an outcome if it is polled to the outcome, and not else. -/
theorem Reply.outcome?_eq_some {reply : Reply} {outcome : Outcome} :
    reply.outcome? = some outcome ↔ reply = .polled (.ready outcome) := by
  constructor
  · intro reached
    unfold outcome? at reached
    split at reached
    · rw [Option.some.inj reached]
    · cases reached
  · rintro rfl
    rfl

namespace Endpoint

variable {endpoint before after : Endpoint σ} {actor : Actor} {id : TaskId}
  {outcome : Outcome} {sequenceId : UInt32} {frame base : Bytes}

/-- A task that is to send a frame is in the queue for the write lock. -/
structure Waits (endpoint : Endpoint σ) (id : TaskId) (outcome : Outcome) (sequenceId : UInt32)
    (frame : Bytes) : Prop where
  /-- It does not hold the lock. -/
  unheld : ¬endpoint.connection.writeLock.isHeldBy id
  /-- It has the whole frame to send. -/
  task : endpoint.connection.task? id =
    some (.sending outcome sequenceId frame (.writing frame))

/-- A task sends a frame and holds the write lock, which it obtained when certain bytes had been
handed over. -/
structure Sends (endpoint : Endpoint σ) (id : TaskId) (outcome : Outcome) (sequenceId : UInt32)
    (frame base : Bytes) : Prop where
  /-- It holds the lock. -/
  held : endpoint.connection.writeLock.isHeldBy id
  /-- It has something left to do, and what has been handed over since are the bytes of the frame
  that it does not have to send any more. -/
  task : ∃ rest segment,
    endpoint.connection.task? id = some (.sending outcome sequenceId frame rest) ∧
      rest ≠ .writing [] ∧ rest.Fits endpoint.connection.writeBuffer.capacity frame segment ∧
      endpoint.output = base ++ segment

/-- A frame has just been sent, behind the bytes that had been handed over before. -/
structure HasSent (endpoint : Endpoint σ) (sequenceId : UInt32) (frame base : Bytes) : Prop where
  /-- The transport has accepted the frame whole. -/
  accepted : endpoint.line.accepted = base ++ frame
  /-- Nothing is left in the write buffer. -/
  unsent : endpoint.connection.writeBuffer.unsent = []
  /-- The last thing that the transport did was to flush. -/
  flushed : ∃ history, endpoint.line.history =
    history ++ [.flush (.ready (.ok ())), .note (.frameSent sequenceId frame.length)]

/-- A task that obtains the write lock with its whole frame to send sends it from now on. -/
theorem Sends.obtain (nonempty : frame ≠ [])
    (held : endpoint.connection.writeLock.isHeldBy id)
    (task : endpoint.connection.task? id =
      some (.sending outcome sequenceId frame (.writing frame))) :
    endpoint.Sends id outcome sequenceId frame endpoint.output :=
  ⟨held, .writing frame, [], task, by simpa using nonempty, ⟨rfl, fun _ => .inl rfl⟩, by simp⟩

/-- Turns of other tasks leave a sender in the queue, or give it the lock. -/
theorem Waits.turn (waits : before.Waits id outcome sequenceId frame) (nonempty : frame ≠ [])
    (turn : Turn io actor before after) (other : actor ≠ .task id) :
    after.Waits id outcome sequenceId frame ∨
      after.Sends id outcome sequenceId frame after.output := by
  have task := (turn.task_other other).trans waits.task
  by_cases held : after.connection.writeLock.isHeldBy id
  · exact .inr (.obtain nonempty held task)
  · exact .inl ⟨held, task⟩

/-- Turns of other tasks leave a sender that holds the lock alone. -/
theorem Sends.turn (sends : before.Sends id outcome sequenceId frame base)
    (turn : Turn io actor before after) (other : actor ≠ .task id) :
    after.Sends id outcome sequenceId frame base := by
  obtain ⟨held, rest, segment, task, more, fits, output⟩ := sends
  obtain ⟨sameOutput, sameBuffer⟩ := turn.silent other held
  refine ⟨(turn.holds other).1 held, rest, segment, (turn.task_other other).trans task, more, ?_,
    sameOutput.trans output⟩
  rwa [sameBuffer]

/-- A sender that has to wait has something left to do. -/
theorem advance_more {rest left : Transmission} {woken : Bool} (more : rest ≠ .writing [])
    (suspended : (endpoint.advance io id (.sending outcome sequenceId frame rest)).1 =
      .suspended woken (.sending outcome sequenceId frame left)) : left ≠ .writing [] := by
  simp only [advance, advanceSending] at suspended
  repeat' split at suspended
  all_goals cases suspended
  · rename_i polled
    exact Transmission.poll_pending (Prod.ext polled rfl)
  · exact more

/-- A sender that has to wait again holds the lock still. -/
theorem Sends.suspend (sends : endpoint.Sends id outcome sequenceId frame base) {task left : Task}
    {woken : Bool} (found : endpoint.connection.task? id = some task)
    (advanced : endpoint.advance io id task = (.suspended woken left, after)) :
    Sends { after with connection := after.connection.keep id left } id outcome sequenceId frame
      base := by
  obtain ⟨held, rest, segment, sending, more, fits, output⟩ := sends
  obtain rfl := Option.some.inj (sending.symm.trans found)
  obtain ⟨readBuffer, writeBuffer, line, changed⟩ := advance_frame endpoint io id
    (.sending outcome sequenceId frame rest)
  obtain ⟨gained, gainedOutput, capacity, -, next, nextFits, suspended | finished⟩ :=
    advance_sending fits advanced
  · obtain ⟨_, same⟩ := suspended
    cases same
    rw [← capacity] at nextFits
    refine ⟨?_, next, segment ++ gained, Connection.task?_keep_self,
      advance_more more (congrArg Prod.fst advanced), nextFits, ?_⟩
    · rw [advanced] at changed
      subst changed
      exact held
    · rw [← List.append_assoc, ← output]
      exact gainedOutput
  · obtain ⟨_, impossible, -⟩ := finished
    cases impossible

/-- A sender that succeeds has had its frame accepted and has flushed the transport. -/
theorem Sends.finish (sends : endpoint.Sends id outcome sequenceId frame base) {task : Task}
    {result : Outcome} (found : endpoint.connection.task? id = some task)
    (advanced : endpoint.advance io id task = (.finished result, after))
    (success : ∀ error, result ≠ .failed error) :
    result = outcome ∧ after.HasSent sequenceId frame base := by
  obtain ⟨held, rest, segment, sending, more, fits, output⟩ := sends
  obtain rfl := Option.some.inj (sending.symm.trans found)
  simp only [advance, advanceSending, if_pos held] at advanced
  split at advanced
  · cases advanced
    exact (success _ rfl).elim
  · cases polled : rest.poll io endpoint.connection.writeBuffer endpoint.line with
    | mk told others =>
      obtain ⟨left, buffer, line⟩ := others
      rw [polled] at advanced
      rcases told with (failure | _) | woken
      · cases advanced
        exact (success _ rfl).elim
      · cases advanced
        obtain ⟨gained, stream, -, -, done⟩ := Transmission.poll_keeps fits polled
        obtain ⟨unsent, -, history, last⟩ :=
          Transmission.poll_flushed (fun nothing => (more nothing).elim) polled
        refine ⟨rfl, ?_, unsent, history, ?_⟩
        · rw [WriteBuffer.stream, unsent, List.append_nil] at stream
          calc (line.note (.frameSent sequenceId frame.length)).accepted
            _ = line.accepted := Line.accepted_note ..
            _ = endpoint.output ++ gained := stream
            _ = base ++ (segment ++ gained) := by rw [output, List.append_assoc]
            _ = base ++ frame := by rw [done rfl]
        · rw [note, Line.note, Line.history_enter, last, List.append_assoc]
          rfl
      · cases advanced

/-- A sender in the queue does not get on by being polled. -/
theorem Waits.suspend (waits : endpoint.Waits id outcome sequenceId frame) {task left : Task}
    {woken : Bool} (found : endpoint.connection.task? id = some task)
    (advanced : endpoint.advance io id task = (.suspended woken left, after)) :
    Waits { after with connection := after.connection.keep id left } id outcome sequenceId
      frame := by
  obtain ⟨unheld, waiting⟩ := waits
  obtain rfl := Option.some.inj (waiting.symm.trans found)
  simp only [advance, advanceSending, if_neg unheld] at advanced
  split at advanced <;> cases advanced
  exact ⟨unheld, Connection.task?_keep_self⟩

/-- A sender that comes to an outcome while it is in the queue has failed. -/
theorem Waits.finish (waits : endpoint.Waits id outcome sequenceId frame) {task : Task}
    {result : Outcome} (found : endpoint.connection.task? id = some task)
    (advanced : endpoint.advance io id task = (.finished result, after)) :
    ∃ error, result = .failed error := by
  obtain ⟨unheld, waiting⟩ := waits
  obtain rfl := Option.some.inj (waiting.symm.trans found)
  simp only [advance, advanceSending, if_neg unheld] at advanced
  split at advanced <;> cases advanced
  exact ⟨_, rfl⟩

/-! ## Runs -/

/-- A move that leaves a task in place is about another one, changes nothing or is a poll after
which the task has to wait. -/
theorem move_kept {move : Move σ} {task : Task}
    (found : endpoint.connection.task? id = some task)
    (kept : (endpoint.move io move).connection.task? id ≠ none) :
    move.actor ≠ .task id ∨ endpoint.move io move = endpoint ∨
      ∃ woken left after, endpoint.advance io id task = (.suspended woken left, after) ∧
        endpoint.move io move = { after with connection := after.connection.keep id left } := by
  by_cases own : move.actor = .task id
  · right
    cases move with
    | change change => cases own
    | act action =>
      cases action with
      | start other call =>
        cases own
        exact .inl (by simp only [Endpoint.move, step, found])
      | poll other =>
        cases own
        cases advanced : endpoint.advance io id task with
        | mk progress after =>
          have moved : endpoint.move io (.act (.poll id)) = (settle id (progress, after)).2 := by
            rw [Endpoint.move, step_poll found, advanced]
          rw [moved] at kept ⊢
          cases progress with
          | finished result => exact (kept Connection.task?_forget_self).elim
          | suspended woken left => exact .inr ⟨woken, left, after, rfl, rfl⟩
      | cancel other =>
        cases own
        simp [Endpoint.move, step, found] at kept
      | setLifecycle | takeSequence | stopSequence => cases own
  · exact .inl own

/-- A sender that holds the lock holds it after every move that leaves it in place. -/
theorem Sends.move {move : Move σ} (sends : endpoint.Sends id outcome sequenceId frame base)
    (kept : (endpoint.move io move).connection.task? id ≠ none) :
    (endpoint.move io move).Sends id outcome sequenceId frame base := by
  obtain ⟨rest, segment, found, -⟩ := sends.task
  rcases move_kept found kept with other | same | ⟨woken, left, after, advanced, moved⟩
  · exact move_keeps (·.Sends id outcome sequenceId frame base)
      (fun turn sends => sends.turn turn other) sends
  · rwa [same]
  · rw [moved]
    exact sends.suspend found advanced

/-- A sender in the queue is in it still after a move that leaves it in place, or has obtained the
lock. -/
theorem Waits.move {move : Move σ} (waits : endpoint.Waits id outcome sequenceId frame)
    (nonempty : frame ≠ []) (kept : (endpoint.move io move).connection.task? id ≠ none) :
    (endpoint.move io move).Waits id outcome sequenceId frame ∨
      (endpoint.move io move).Sends id outcome sequenceId frame (endpoint.move io move).output := by
  rcases move_kept waits.task kept with other | same | ⟨woken, left, after, advanced, moved⟩
  · refine move_keeps (fun state => state.Waits id outcome sequenceId frame ∨
      state.Sends id outcome sequenceId frame state.output) ?_ (.inl waits)
    rintro before after turn (waits | sends)
    · exact waits.turn nonempty turn other
    · rw [(turn.silent other sends.held).1]
      exact .inr (sends.turn turn other)
  · rw [same]
    exact .inl waits
  · rw [moved]
    exact .inl (waits.suspend waits.task advanced)

/-- A run of moves none of which takes a task away. -/
def Keeps (io : Transport σ) (endpoint : Endpoint σ) (id : TaskId) (moves : List (Move σ)) : Prop :=
  ∀ front, front <+: moves → (endpoint.run io front).connection.task? id ≠ none

/-- Nothing is taken away as long as nothing happens. -/
theorem Keeps.nil (there : endpoint.connection.task? id ≠ none) : endpoint.Keeps io id [] := by
  intro front inside
  rw [List.prefix_nil.mp inside]
  exact there

/-- Nothing is taken away by a run if it is there at first and none of the moves after the first
takes it away. -/
theorem Keeps.cons {move : Move σ} {moves : List (Move σ)}
    (there : endpoint.connection.task? id ≠ none)
    (keeps : (endpoint.move io move).Keeps io id moves) : endpoint.Keeps io id (move :: moves) := by
  intro front inside
  rcases List.prefix_cons_iff.mp inside with rfl | ⟨others, rfl, further⟩
  · exact there
  · exact keeps others further

/-- Nothing is taken away by the moves after the first. -/
theorem Keeps.tail {move : Move σ} {moves : List (Move σ)}
    (keeps : endpoint.Keeps io id (move :: moves)) :
    (endpoint.move io move).Keeps io id moves :=
  fun front inside => keeps (move :: front) (List.cons_prefix_cons.mpr ⟨rfl, inside⟩)

/-- A sender that holds the lock holds it in every state of a run that does not take it away. -/
theorem Sends.run {moves : List (Move σ)}
    (sends : endpoint.Sends id outcome sequenceId frame base)
    (keeps : endpoint.Keeps io id moves) :
    (endpoint.run io moves).Sends id outcome sequenceId frame base := by
  induction moves generalizing endpoint with
  | nil => exact sends
  | cons move moves ih =>
    have first : [move] <+: move :: moves := ⟨moves, rfl⟩
    exact ih (sends.move (keeps [move] first)) keeps.tail

/-- Nothing is taken away by the first of some moves. -/
theorem Keeps.front {moves front : List (Move σ)} (keeps : endpoint.Keeps io id moves)
    (inside : front <+: moves) : endpoint.Keeps io id front :=
  fun _ further => keeps _ (further.trans inside)

/-- A task holds the write lock from a point of a run on: in the states from there to the end, and
in no earlier one. -/
def HeldFrom (io : Transport σ) (endpoint : Endpoint σ) (id : TaskId)
    (moves waiting : List (Move σ)) : Prop :=
  waiting <+: moves ∧ ∀ front, front <+: moves →
    ((endpoint.run io front).connection.writeLock.isHeldBy id ↔ waiting <+: front)

/-- A task that does not hold the lock at first holds it from a point of the run on if it does so
after the first move. -/
theorem HeldFrom.cons {move : Move σ} {moves waiting : List (Move σ)}
    (unheld : ¬endpoint.connection.writeLock.isHeldBy id)
    (held : (endpoint.move io move).HeldFrom io id moves waiting) :
    endpoint.HeldFrom io id (move :: moves) (move :: waiting) := by
  refine ⟨List.cons_prefix_cons.mpr ⟨rfl, held.1⟩, fun front inside => ?_⟩
  rcases List.prefix_cons_iff.mp inside with rfl | ⟨others, rfl, further⟩
  · simpa [Endpoint.run] using unheld
  · rw [List.cons_prefix_cons, and_iff_right rfl]
    exact held.2 others further

/-- A sender that holds the lock holds it from the start. -/
theorem Sends.heldFrom {moves : List (Move σ)}
    (sends : endpoint.Sends id outcome sequenceId frame base)
    (keeps : endpoint.Keeps io id moves) : endpoint.HeldFrom io id moves [] :=
  ⟨List.nil_prefix, fun _ inside =>
    iff_of_true (sends.run (keeps.front inside)).held List.nil_prefix⟩

/-- A sender in the queue is in it still after a run that does not take it away, or has obtained the
lock at a point of the run and sends its frame behind what had been handed over by then. -/
theorem Waits.run {moves : List (Move σ)} (waits : endpoint.Waits id outcome sequenceId frame)
    (nonempty : frame ≠ []) (keeps : endpoint.Keeps io id moves) :
    (endpoint.run io moves).Waits id outcome sequenceId frame ∨
      ∃ waiting, endpoint.HeldFrom io id moves waiting ∧
        (endpoint.run io moves).Sends id outcome sequenceId frame
          (endpoint.run io waiting).output := by
  induction moves generalizing endpoint with
  | nil => exact .inl waits
  | cons move moves ih =>
    have first : [move] <+: move :: moves := ⟨moves, rfl⟩
    rcases waits.move nonempty (keeps [move] first) with still | sends
    · refine (ih still keeps.tail).imp_right ?_
      rintro ⟨waiting, held, sends⟩
      exact ⟨move :: waiting, held.cons waits.unheld, sends⟩
    · refine .inr ⟨[move], .cons waits.unheld (sends.heldFrom keeps.tail), ?_⟩
      exact sends.run keeps.tail

/-- A sender whose call is over after a run, and has not failed, has sent its frame behind what had
been handed over when it obtained the lock. -/
theorem finish_run {moves : List (Move σ)} {result : Outcome} (nonempty : frame ≠ [])
    (stands : endpoint.Waits id outcome sequenceId frame ∨
      endpoint.Sends id outcome sequenceId frame endpoint.output)
    (keeps : endpoint.Keeps io id moves)
    (replied : ((endpoint.run io moves).step io (.poll id)).1.outcome? = some result)
    (success : ∀ error, result ≠ .failed error) :
    result = outcome ∧ ∃ waiting, endpoint.HeldFrom io id moves waiting ∧
      ((endpoint.run io moves).step io (.poll id)).2.HasSent sequenceId frame
        (endpoint.run io waiting).output := by
  have now : (endpoint.run io moves).Waits id outcome sequenceId frame ∨
      ∃ waiting, endpoint.HeldFrom io id moves waiting ∧
        (endpoint.run io moves).Sends id outcome sequenceId frame
          (endpoint.run io waiting).output := by
    rcases stands with waits | sends
    · exact waits.run nonempty keeps
    · exact .inr ⟨[], sends.heldFrom keeps, sends.run keeps⟩
  obtain ⟨task, found⟩ := Option.ne_none_iff_exists'.mp (keeps moves List.prefix_rfl)
  rw [step_poll found] at replied ⊢
  cases advanced : (endpoint.run io moves).advance io id task with
  | mk progress after =>
    rw [advanced] at replied
    cases progress with
    | suspended woken left => cases replied
    | finished reached =>
      cases replied
      rcases now with waits | ⟨waiting, held, sends⟩
      · obtain ⟨error, failed⟩ := waits.finish found advanced
        exact (success error failed).elim
      · obtain ⟨same, accepted, unsent, flushed⟩ := sends.finish found advanced success
        exact ⟨same, waiting, held, accepted, unsent, flushed⟩

/-! ## Calls -/

end Endpoint

/-- Whether an outcome tells the caller that a packet was sent under a sequence number. -/
inductive Call.Sent : Call → Outcome → Packet → UInt32 → Prop
  /-- The number was taken, and the caller is told which. -/
  | numbered (packet : Packet) (sequenceId : UInt32) :
    Sent (.send packet) (.numbered sequenceId) packet sequenceId
  /-- The number was given. -/
  | sent (packet : Packet) (sequenceId : UInt32) :
    Sent (.sendAs packet sequenceId) .sent packet sequenceId

namespace Endpoint

variable {endpoint : Endpoint σ} {id : TaskId} {outcome : Outcome} {packet : Packet}
  {sequenceId : UInt32} {frame : Bytes}

/-- A call that is made under a free name comes to an outcome: either at once, or at a later poll
before which its task was always there. Given are the moves before that, and the action that told
the outcome. -/
inductive Returns (io : Transport σ) (endpoint : Endpoint σ) (id : TaskId) (call : Call)
    (outcome : Outcome) : List (Move σ) → Action → Prop
  /-- The call is over at once. -/
  | atOnce (free : endpoint.connection.task? id = none)
    (replied : (endpoint.step io (.start id call)).1.outcome? = some outcome) :
    Returns io endpoint id call outcome [] (.start id call)
  /-- The call is over at a later poll. -/
  | later {moves : List (Move σ)} (free : endpoint.connection.task? id = none)
    (kept : (endpoint.move io (.act (.start id call))).Keeps io id moves)
    (replied : ((endpoint.run io (.act (.start id call) :: moves)).step io
      (.poll id)).1.outcome? = some outcome) :
    Returns io endpoint id call outcome (.act (.start id call) :: moves) (.poll id)

/-- Whether a task that makes its call as the first of some moves holds the write lock after them.
Before the call is made it does so if the lock is free: then the call obtains it at once. -/
def HoldsAfter (io : Transport σ) (endpoint : Endpoint σ) (id : TaskId) : List (Move σ) → Prop
  | [] => endpoint.connection.writeLock.queue = []
  | move :: moves => (endpoint.run io (move :: moves)).connection.writeLock.isHeldBy id

/-- A call that is over at once has not sent anything. -/
theorem not_sent_of_refused {connection next : Connection} {call : Call}
    (registered : connection.register id call = (.error outcome, next)) :
    ¬call.Sent outcome packet sequenceId := by
  intro sent
  cases Connection.registers registered <;> cases sent

/-- A call to send is registered with the frame that is to be sent, and the outcome that says so. -/
theorem sending_of_registered {connection next : Connection} {call : Call} {task : Task}
    (registered : connection.register id call = (.ok task, next))
    (sent : call.Sent outcome packet sequenceId) :
    ∃ promised number frame, task = .sending promised number frame (.writing frame) ∧
      encodeFrame connection.version packet number = .ok frame ∧
      (outcome = promised → sequenceId = number) ∧
      next.writeLock = connection.writeLock.join id := by
  cases Connection.registers registered with
  | closing | receiving => cases sent
  | sendingAs opened encoded =>
    cases sent
    exact ⟨_, _, _, rfl, encoded, fun _ => rfl, rfl⟩
  | sending opened running encoded =>
    cases sent
    refine ⟨_, _, _, rfl, encoded, fun same => ?_, rfl⟩
    cases same
    rfl

/-- A frame has bytes. -/
theorem encodeFrame_ne_nil {version : Version} {frame : Bytes}
    (encoded : encodeFrame version packet sequenceId = .ok frame) : frame ≠ [] := by
  obtain ⟨written, -⟩ := encodeFrame_eq_ok.mp encoded
  obtain ⟨fields, -, rfl⟩ := Packet.encode_eq_ok.mp written
  refine List.ne_nil_of_length_pos ?_
  simp only [frame, List.length_append, length_word]
  omega

/-- Once its call has been registered, a sender is in the queue for the lock, or holds the lock
because nobody was in the queue. -/
theorem stands_registered {call : Call} {next : Connection} (io : Transport σ)
    (sound : endpoint.connection.Sound)
    (free : endpoint.connection.task? id = none) (nonempty : frame ≠ [])
    (registered : endpoint.connection.register id call =
      (.ok (.sending outcome sequenceId frame (.writing frame)), next))
    (joined : next.writeLock = endpoint.connection.writeLock.join id) :
    ∃ entered : Endpoint σ,
      endpoint.step io (.start id call) = entered.step io (.poll id) ∧
      (entered.Waits id outcome sequenceId frame ∨
        entered.Sends id outcome sequenceId frame entered.output) ∧
      entered.connection.task? id ≠ none ∧ entered.output = endpoint.output ∧
      (entered.connection.writeLock.isHeldBy id ↔ endpoint.HoldsAfter io id []) := by
  let task : Task := .sending outcome sequenceId frame (.writing frame)
  let entered : Endpoint σ := { endpoint with connection := next.keep id task }
  have found : entered.connection.task? id = some task := Connection.task?_keep_self
  refine ⟨entered, by rw [step_start free, registered], ?_, by simp [found], ?_, ?_⟩
  · by_cases held : entered.connection.writeLock.isHeldBy id
    · exact .inr (.obtain nonempty held found)
    · exact .inl ⟨held, found⟩
  · exact congrArg (WriteBuffer.stream · endpoint.line) (Connection.register_frame registered).2
  · have alone := Lock.isHeldBy_join_self (sound.not_queued free).1
    rwa [← joined] at alone

/-- The point of a run from which on a sender holds the lock is the same whether the run starts with
its call or, once the call has been registered, with its first poll. -/
theorem HeldFrom.replace {entered : Endpoint σ} {first second : Move σ}
    {moves waiting : List (Move σ)}
    (held : entered.HeldFrom io id (first :: moves) waiting)
    (moved : entered.move io first = endpoint.move io second)
    (output : entered.output = endpoint.output)
    (atFirst : entered.connection.writeLock.isHeldBy id ↔ endpoint.HoldsAfter io id []) :
    ∃ waiting', waiting' <+: second :: moves ∧
      (∀ front, front <+: second :: moves →
        (endpoint.HoldsAfter io id front ↔ waiting' <+: front)) ∧
      (endpoint.run io waiting').output = (entered.run io waiting).output := by
  have run : ∀ others, endpoint.run io (second :: others) = entered.run io (first :: others) :=
    fun others => congrArg (fun state => Endpoint.run io state others) moved.symm
  have others : ∀ front, second :: front <+: second :: moves →
      (endpoint.HoldsAfter io id (second :: front) ↔ waiting <+: first :: front) := by
    intro front inside
    rw [List.cons_prefix_cons, and_iff_right rfl] at inside
    rw [← held.2 _ (List.cons_prefix_cons.mpr ⟨rfl, inside⟩), ← run]
    rfl
  rcases List.prefix_cons_iff.mp held.1 with rfl | ⟨rest, rfl, inside⟩
  · refine ⟨[], List.nil_prefix, fun front further => ?_, output.symm⟩
    rcases List.prefix_cons_iff.mp further with rfl | ⟨front, rfl, _⟩
    · rw [← atFirst]
      exact held.2 [] List.nil_prefix
    · simpa using others front further
  · refine ⟨second :: rest, List.cons_prefix_cons.mpr ⟨rfl, inside⟩, fun front further => ?_,
      congrArg Endpoint.output (run rest)⟩
    rcases List.prefix_cons_iff.mp further with rfl | ⟨front, rfl, _⟩
    · rw [← atFirst]
      exact (held.2 [] List.nil_prefix).trans (by simp)
    · rw [others front further, List.cons_prefix_cons, List.cons_prefix_cons]
      simp

/-- A call that tells its caller that a packet was sent has been registered. -/
theorem Returns.registered {moves : List (Move σ)} {last : Action} {call : Call}
    (returns : endpoint.Returns io id call outcome moves last)
    (sent : call.Sent outcome packet sequenceId) :
    ∃ task next, endpoint.connection.register id call = (.ok task, next) := by
  cases registered : endpoint.connection.register id call with
  | mk result next =>
    cases result with
    | ok task => exact ⟨task, next, rfl⟩
    | error refused =>
      cases returns with
      | atOnce free replied =>
        rw [step_start free, registered] at replied
        cases replied
        exact (not_sent_of_refused registered sent).elim
      | later free kept _ =>
        have gone : (endpoint.move io (.act (.start id call))).connection.task? id ≠ none :=
          kept [] List.nil_prefix
        rw [Endpoint.move, step_start free, registered] at gone
        exact (gone Connection.task?_forget_self).elim

/-- A sender that has succeeded has sent its frame, behind what had been handed over when it
obtained the lock. -/
theorem Returns.hasSent {moves : List (Move σ)} {last : Action} {call : Call}
    (sound : endpoint.connection.Sound)
    (returns : endpoint.Returns io id call outcome moves last)
    (sent : call.Sent outcome packet sequenceId) :
    ∃ frame waiting, encodeFrame endpoint.connection.version packet sequenceId = .ok frame ∧
      waiting <+: moves ∧
      (∀ front, front <+: moves → (endpoint.HoldsAfter io id front ↔ waiting <+: front)) ∧
      ((endpoint.run io moves).step io last).2.HasSent sequenceId frame
        (endpoint.run io waiting).output := by
  have success : ∀ error, outcome ≠ .failed error := by
    cases sent <;> simp
  have free : endpoint.connection.task? id = none := by cases returns <;> assumption
  obtain ⟨task, next, registered⟩ := returns.registered sent
  obtain ⟨promised, number, frame, rfl, encoded, agree, joined⟩ :=
    sending_of_registered registered sent
  have nonempty := encodeFrame_ne_nil encoded
  obtain ⟨entered, first, stands, there, output, atFirst⟩ :=
    stands_registered io sound free nonempty registered joined
  cases returns with
  | atOnce _ replied =>
    rw [first] at replied
    obtain ⟨same, waiting, held, hasSent⟩ :=
      finish_run nonempty stands (.nil there) replied success
    obtain rfl := agree same
    obtain rfl := List.prefix_nil.mp held.1
    refine ⟨frame, [], encoded, List.nil_prefix, fun front inside => ?_, ?_⟩
    · rw [List.prefix_nil.mp inside, ← atFirst]
      exact held.2 [] List.nil_prefix
    · rw [Endpoint.run, List.foldl_nil, first, ← output]
      exact hasSent
  | @later moves _ kept replied =>
    -- The call and its first poll are one move, so the run is one of the registered sender's.
    have moved : entered.move io (.act (.poll id)) = endpoint.move io (.act (.start id call)) :=
      congrArg Prod.snd first.symm
    have run : endpoint.run io (.act (.start id call) :: moves) =
        entered.run io (.act (.poll id) :: moves) :=
      congrArg (fun state => Endpoint.run io state moves) moved.symm
    rw [← moved] at kept
    rw [run] at replied ⊢
    obtain ⟨same, waiting, held, hasSent⟩ :=
      finish_run nonempty stands (kept.cons there) replied success
    obtain rfl := agree same
    obtain ⟨waiting', inside, holds, reached⟩ := held.replace moved output atFirst
    rw [← reached] at hasSent
    exact ⟨frame, waiting', encoded, inside, holds, hasSent⟩

/-- When a call to send a packet has succeeded, in whatever state of a connection it was made and
whatever else happened meanwhile, then the last bytes that the transport has accepted are the frame
of the packet. What it accepted since the sender obtained the write lock is what the write buffer
held then and the frame. The write buffer is empty, and the transport has been flushed since. So
whatever the write buffer holds later, and may give up on closing, was handed over later. -/
theorem sent_is_accepted {config : Config} (reachable : endpoint.Reachable io config)
    {moves : List (Move σ)} {last : Action} {call : Call}
    (returns : endpoint.Returns io id call outcome moves last)
    (sent : call.Sent outcome packet sequenceId) :
    let after := ((endpoint.run io moves).step io last).2
    ∃ frame, encodeFrame config.version packet sequenceId = .ok frame ∧
      frame <:+ after.line.accepted ∧
      (∃ waiting, waiting <+: moves ∧
        (∀ front, front <+: moves → (endpoint.HoldsAfter io id front ↔ waiting <+: front)) ∧
        after.line.accepted = (endpoint.run io waiting).line.accepted ++
          (endpoint.run io waiting).connection.writeBuffer.unsent ++ frame) ∧
      after.connection.writeBuffer.unsent = [] ∧
      (∃ history, after.line.history =
        history ++ [.flush (.ready (.ok ())), .note (.frameSent sequenceId frame.length)]) ∧
      ∀ later, ∃ more,
        (after.run io later).line.accepted ++ (after.run io later).connection.writeBuffer.unsent =
          after.line.accepted ++ more ∧
        (after.run io later).connection.writeBuffer.unsent <:+ more := by
  intro after
  have reached : after.Reachable io config := (reachable.run moves).move (.act last)
  obtain ⟨frame, waiting, encoded, inside, holds, hasSent⟩ := returns.hasSent reachable.sound sent
  rw [reachable.version] at encoded
  refine ⟨frame, encoded, ⟨_, hasSent.accepted.symm⟩, ⟨waiting, inside, holds, hasSent.accepted⟩,
    hasSent.unsent, hasSent.flushed, fun later => ?_⟩
  obtain ⟨events, history⟩ := run_history_prefix reached.unfinished io later
  have grown : (after.run io later).line.accepted =
      after.line.accepted ++ events.flatMap Event.accepted := by
    rw [Line.accepted, ← history, List.flatMap_append, Line.accepted]
  rw [grown, List.append_assoc]
  exact ⟨_, rfl, List.suffix_append _ _⟩

end Endpoint

/-- A probe of an idle link. -/
def Packet.probe : Packet := ⟨.activeTest, 0, ()⟩

/-- A stream that accepts a few bytes at a time and has its writer wait in between. -/
def Script.halting : Script where
  writes := [.answer 5, .pending false, .answer 3, .pending false]
  flushes := [.pending false]

namespace Endpoint

/-- A connection on which a sender was given up after five of its twelve bytes. -/
def interrupted : Endpoint Script :=
  (establish Script.transport { version := .v30 } .halting).run Script.transport
    [.act (.start 1 (.send .probe)), .act (.cancel 1)]

/-- A sender that comes after one that was given up, and has to wait for the transport twice, has
its own frame accepted behind the bytes that were left of the other one. -/
theorem sent_is_accepted_interrupted :
    let moves : List (Move Script) := [.act (.start 2 (.sendAs .probe 7)), .act (.poll 2)]
    let after := ((interrupted.run Script.transport moves).step Script.transport (.poll 2)).2
    interrupted.Returns Script.transport 2 (.sendAs .probe 7) .sent moves (.poll 2) ∧
      interrupted.connection.writeBuffer.unsent = [0, 0, 8, 0, 0, 0, 0] ∧
      after.connection.writeBuffer.unsent = [] ∧
      ∃ frame, encodeFrame .v30 .probe 7 = .ok frame ∧ frame <:+ after.line.accepted := by
  intro moves after
  have kept : (interrupted.move Script.transport (.act (.start 2 (.sendAs .probe 7)))).Keeps
      Script.transport 2 [.act (.poll 2)] := by
    intro front inside
    rcases List.prefix_cons_iff.mp inside with rfl | ⟨rest, rfl, last⟩
    · decide +kernel
    · rw [List.prefix_nil.mp last]
      decide +kernel
  have returns : interrupted.Returns Script.transport 2 (.sendAs .probe 7) .sent moves (.poll 2) :=
    .later (by decide +kernel) kept (by decide +kernel)
  have reachable : interrupted.Reachable Script.transport { version := .v30 } := ⟨_, _, rfl⟩
  obtain ⟨frame, encoded, accepted, -, unsent, -⟩ :=
    sent_is_accepted reachable returns (.sent .probe 7)
  exact ⟨returns, by decide +kernel, unsent, frame, encoded, accepted⟩

end Endpoint

end Cmpp
