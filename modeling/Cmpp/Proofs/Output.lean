import Cmpp.Connection.Endpoint
import Cmpp.Proofs.Writing

/-!
# What going on with a task hands over

Everything handed over to be sent is an endpoint's output. Only senders add to it: receiving,
flushing and shutting down leave it as it is, and a sender that goes on adds the next part of its
frame (`Endpoint.advance_sending`).
-/

namespace Cmpp

variable {σ : Type} {io : Transport σ}

/-- Reading through a buffer hands nothing over. -/
theorem ReadBuffer.accepted_read {buffer after : ReadBuffer} {line lineAfter : Line σ}
    {limit : Nat} {outcome : Poll (Except Failure Bytes)}
    (read : buffer.read io line limit = (outcome, after, lineAfter)) :
    lineAfter.accepted = line.accepted := by
  unfold ReadBuffer.read at read
  split at read
  · split at read
    · cases read
      exact Line.accepted_read rfl
    · split at read <;> cases read <;> exact Line.accepted_read ‹_›
  · cases read
    rfl

/-- Receiving hands nothing over. -/
theorem Assembly.accepted_poll (assembly : Assembly) (version : Version) (io : Transport σ)
    (buffer : ReadBuffer) (line : Line σ) :
    (assembly.poll version io buffer line).2.2.2.accepted = line.accepted := by
  fun_induction Assembly.poll assembly version io buffer line with
  | case1 _ _ _ _ _ _ read | case2 _ _ _ _ _ _ read | case3 _ _ _ _ _ read
  | case5 _ _ _ _ _ _ read | case6 _ _ _ _ _ _ read => exact ReadBuffer.accepted_read read
  | case4 _ _ _ _ _ _ read _ _ _ ih => exact ih.trans (ReadBuffer.accepted_read read)

namespace Endpoint

variable {endpoint : Endpoint σ} {id : TaskId}

/-- All the bytes that were handed over to be sent: those that the transport has accepted, and
those that wait in the write buffer. -/
def output (endpoint : Endpoint σ) : Bytes :=
  endpoint.connection.writeBuffer.stream endpoint.line

/-- Shutting down hands nothing over. -/
theorem advanceShutdown_idle (endpoint : Endpoint σ) (io : Transport σ) :
    (endpoint.advanceShutdown io).2.output = endpoint.output ∧
      (endpoint.advanceShutdown io).2.connection = endpoint.connection := by
  cases done : endpoint.line.shutdown io with
  | mk result line =>
    have accepted := Line.accepted_shutdown done
    rcases result with (failure | _) | woken <;>
      simp [advanceShutdown, done, output, WriteBuffer.stream, accepted]

/-- Flushing on closing hands nothing over. -/
theorem advanceFlush_idle (endpoint : Endpoint σ) (io : Transport σ) :
    (endpoint.advanceFlush io).2.output = endpoint.output ∧
      (endpoint.advanceFlush io).2.connection = endpoint.connection := by
  cases flushed : endpoint.line.flush io with
  | mk result line =>
    have accepted := Line.accepted_flush flushed
    rcases result with (failure | _) | woken
    · have shutdown := advanceShutdown_idle
        { endpoint with line := line.note (.flushFailed failure) } io
      simpa [advanceFlush, flushed, output, WriteBuffer.stream, accepted] using shutdown
    · have shutdown := advanceShutdown_idle { endpoint with line } io
      simpa [advanceFlush, flushed, output, WriteBuffer.stream, accepted] using shutdown
    · simp [advanceFlush, flushed, output, WriteBuffer.stream, accepted]

/-- Going on with anything but sending hands nothing over. -/
theorem advance_idle (endpoint : Endpoint σ) (io : Transport σ) (id : TaskId) {task : Task}
    (idle : ∀ outcome sequenceId frame rest,
      task ≠ .sending outcome sequenceId frame rest) :
    (endpoint.advance io id task).2.output = endpoint.output ∧
      (endpoint.advance io id task).2.connection.writeBuffer =
        endpoint.connection.writeBuffer := by
  cases task with
  | sending outcome sequenceId frame rest => exact (idle outcome sequenceId frame rest rfl).elim
  | receiving assembly =>
    have accepted := Assembly.accepted_poll assembly endpoint.connection.version io
      endpoint.connection.readBuffer endpoint.line
    simp only [advance, advanceReceiving]
    repeat' split
    all_goals simp [output, WriteBuffer.stream, note, accepted]
  | closing stage =>
    cases stage with
    | waiting =>
      simp only [advance, advanceClosing]
      split
      · split
        · exact (advanceFlush_idle endpoint io).imp_right (congrArg Connection.writeBuffer)
        · have flush := advanceFlush_idle
            (endpoint.note (.frameDropped endpoint.connection.writeBuffer.length)) io
          refine ⟨flush.1.trans ?_, congrArg Connection.writeBuffer flush.2⟩
          simp [output, WriteBuffer.stream, note]
      · exact ⟨rfl, rfl⟩
    | flushing => exact (advanceFlush_idle endpoint io).imp_right (congrArg Connection.writeBuffer)
    | shuttingDown =>
      exact (advanceShutdown_idle endpoint io).imp_right (congrArg Connection.writeBuffer)

/-- Going on with sending a frame hands over a further part of the frame, and only while the lock is
held. It leaves the rest to be handed over later, or the frame has been handed over whole, or the
sender was interrupted or the transport failed. -/
theorem advance_sending {outcome : Outcome} {sequenceId : UInt32} {frame segment : Bytes}
    {rest : Transmission} {progress : Progress} {after : Endpoint σ}
    (fits : rest.Fits endpoint.connection.writeBuffer.capacity frame segment)
    (advanced : endpoint.advance io id (.sending outcome sequenceId frame rest) =
      (progress, after)) :
    ∃ gained, after.output = endpoint.output ++ gained ∧
      after.connection.writeBuffer.capacity = endpoint.connection.writeBuffer.capacity ∧
      (endpoint.connection.writeLock.isHeldBy id ∨ gained = []) ∧
      ∃ left : Transmission,
        left.Fits endpoint.connection.writeBuffer.capacity frame (segment ++ gained) ∧
        ((∃ woken, progress = .suspended woken (.sending outcome sequenceId frame left)) ∨
          (∃ ending, progress = .finished ending ∧
            (segment ++ gained = frame ∨ ending = .failed .connectionClosed ∨
              ∃ failure, ending = .failed (.transport failure)))) := by
  simp only [advance, advanceSending] at advanced
  split at advanced
  · cases advanced
    exact ⟨[], by simp, rfl, .inr rfl, rest, by simpa using fits,
      .inr ⟨_, rfl, .inr (.inl rfl)⟩⟩
  · split at advanced
    · rename_i held
      cases polled : rest.poll io endpoint.connection.writeBuffer endpoint.line with
      | mk result others =>
        obtain ⟨left, buffer, line⟩ := others
        obtain ⟨gained, stream, fits, capacity, done⟩ := Transmission.poll_keeps fits polled
        simp only [polled] at advanced
        refine ⟨gained, ?_⟩
        split at advanced
        · cases advanced
          exact ⟨stream, capacity, .inl held, left, fits, .inl ⟨_, rfl⟩⟩
        · cases advanced
          exact ⟨stream, capacity, .inl held, left, fits,
            .inr ⟨_, rfl, .inr (.inr ⟨_, rfl⟩)⟩⟩
        · cases advanced
          refine ⟨?_, capacity, .inl held, left, fits, .inr ⟨_, rfl, .inl (done rfl)⟩⟩
          simpa [output, WriteBuffer.stream, note] using stream
    · cases advanced
      exact ⟨[], by simp, rfl, .inr rfl, rest, by simpa using fits, .inl ⟨_, rfl⟩⟩

end Endpoint

end Cmpp
