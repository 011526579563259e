import Cmpp.Proofs.Closing

/-!
# Transports that make nobody wait

A transport is obliging when it accepts every write whole and every flush succeeds from now on, as
long as only senders call it (`Line.Obliging`). Then a transmission is over at one poll, and
succeeds unless the last write before took nothing (`Transmission.poll_obliged`). A transport is
prompt when no flush and no shutdown has to wait from now on (`Line.Prompt`). Then whoever closes
the connection is done at the first poll with the lock (`Endpoint.advanceClosing_prompt`).
-/

namespace Cmpp

variable {σ : Type} {io : Transport σ}

/-- From now on, whatever senders do, every write is accepted whole and every flush succeeds. -/
def Line.Obliging (io : Transport σ) (line : Line σ) : Prop :=
  ∀ later, line.Calls io .sending later →
    (∀ data, data ≠ [] → (later.write io data).1 = .ready (.ok data.length)) ∧
      (later.flush io).1 = .ready (.ok ())

/-- From now on, whatever is done to close the connection, no flush and no shutdown has to wait. -/
def Line.Prompt (io : Transport σ) (line : Line σ) : Prop :=
  ∀ later, line.Calls io .closing later →
    (∀ woken, (later.flush io).1 ≠ .pending woken) ∧
      ∀ woken, (later.shutdown io).1 ≠ .pending woken

namespace Line

variable {line after : Line σ} {data : Bytes}

/-- A transport that is obliging stays so. -/
theorem Obliging.later (obliging : line.Obliging io) (calls : line.Calls io .sending after) :
    after.Obliging io :=
  fun later further => obliging later (calls.trans further)

/-- An obliging transport accepts every write whole. -/
theorem Obliging.write {outcome : Poll (Except Failure Nat)} (obliging : line.Obliging io)
    (nonempty : data ≠ []) (written : line.write io data = (outcome, after)) :
    outcome = .ready (.ok data.length) ∧ after.Obliging io := by
  refine ⟨?_, obliging.later (.single (.write nonempty written))⟩
  rw [← (obliging line .refl).1 data nonempty, written]

end Line

/-! ## Sending -/

namespace WriteBuffer

variable {line : Line σ} {data : Bytes}

/-- Draining into an obliging transport succeeds. -/
theorem drain_obliged (buffer : WriteBuffer) (obliging : line.Obliging io) :
    (buffer.drain io line).1 = .ready (.ok ()) := by
  fun_induction drain buffer io line with
  | case1 => rfl
  | case2 buffer line nonempty _ _ written | case3 buffer line nonempty _ _ written
  | case4 buffer line nonempty _ _ written => cases (obliging.write nonempty written).1
  | case5 buffer line nonempty _ written =>
    obtain ⟨whole, -⟩ := obliging.write nonempty written
    have none : buffer.unsent.length = 0 := by
      cases length : buffer.unsent.length with
      | zero => rfl
      | succ => rw [length] at whole; cases whole
    exact (nonempty (List.length_eq_zero_iff.mp none)).elim
  | case6 buffer line nonempty _ _ written _ ih => exact ih (obliging.write nonempty written).2

/-- An obliging transport lets data be put into a buffer, or past it, whole. -/
theorem put_obliged (buffer : WriteBuffer) (obliging : line.Obliging io) (nonempty : data ≠ []) :
    (buffer.put io line data).1 = .ready (.ok data.length) := by
  unfold put
  split
  · exact (obliging line .refl).1 data nonempty
  · rfl

/-- A write through a buffer to an obliging transport takes everything. -/
theorem write_obliged (buffer : WriteBuffer) (obliging : line.Obliging io) (nonempty : data ≠ []) :
    (buffer.write io line data).1 = .ready (.ok data.length) := by
  have drained := buffer.drain_obliged obliging
  have calls := buffer.drain_calls io line
  unfold write
  split
  · exact put_obliged buffer obliging nonempty
  · split
    · rename_i result
      rw [result] at calls
      exact put_obliged _ (obliging.later calls) nonempty
    · rename_i result
      rw [result] at drained
      cases drained
    · rename_i result
      rw [result] at drained
      cases drained

/-- A flush through a buffer to an obliging transport succeeds. -/
theorem flush_obliged (buffer : WriteBuffer) (obliging : line.Obliging io) :
    (buffer.flush io line).1 = .ready (.ok ()) := by
  have drained := buffer.drain_obliged obliging
  have calls := buffer.drain_calls io line
  unfold flush
  split
  · rename_i result
    rw [result] at calls
    exact (obliging.later calls _ .refl).2
  · rename_i notDone result
    rw [result] at drained
    exact (notDone drained).elim

end WriteBuffer

/-- A transmission to an obliging transport is over at one poll. It fails if the last write took
nothing, and succeeds else. -/
theorem Transmission.poll_obliged {line : Line σ} (rest : Transmission) (buffer : WriteBuffer)
    (obliging : line.Obliging io) :
    (rest.poll io buffer line).1 =
      .ready (if rest = .stalled then .error refused else .ok ()) := by
  fun_induction Transmission.poll rest io buffer line with
  | case1 => simp
  | case2 buffer line data nonempty taken _ _ written ih =>
    have whole := buffer.write_obliged obliging nonempty
    have calls := WriteBuffer.write_calls nonempty buffer io line
    rw [written] at whole calls
    cases whole
    have some : data.length ≠ 0 := mt List.length_eq_zero_iff.mp nonempty
    rw [ih (obliging.later calls), afterWrite, if_neg some]
    simp
  | case3 buffer line data nonempty _ _ _ written | case4 buffer line data nonempty _ _ _ written =>
    have whole := buffer.write_obliged obliging nonempty
    rw [written] at whole
    cases whole
  | case5 buffer line data _ _ flushed ih =>
    have calls := buffer.flush_calls io line
    rw [flushed] at calls
    rw [ih (obliging.later calls)]
    simp
  | case6 buffer line data outcome _ _ notDone flushed =>
    have done := buffer.flush_obliged obliging
    rw [flushed] at done
    exact (notDone done).elim
  | case7 => simp
  | case8 buffer line outcome _ _ notDone flushed =>
    have done := buffer.flush_obliged obliging
    rw [flushed] at done
    exact (notDone done).elim

/-- What a sender comes to whose transmission goes on to an obliging transport. -/
def Transmission.outcome (rest : Transmission) (promised : Outcome) : Outcome :=
  if rest = .stalled then .failed (.transport refused) else promised

namespace Endpoint

variable {endpoint : Endpoint σ} {id : TaskId}

/-- A sender that holds the lock of an open connection is done at its next poll if the transport is
obliging. -/
theorem advance_obliged {promised : Outcome} {sequenceId : UInt32} {frame : Bytes}
    {rest : Transmission} (opened : ¬endpoint.connection.closed)
    (held : endpoint.connection.writeLock.isHeldBy id) (obliging : endpoint.line.Obliging io) :
    (endpoint.advance io id (.sending promised sequenceId frame rest)).1 =
      .finished (rest.outcome promised) := by
  have polled := rest.poll_obliged endpoint.connection.writeBuffer obliging
  simp only [advance, advanceSending, if_neg opened, if_pos held, Transmission.outcome]
  generalize rest.poll io endpoint.connection.writeBuffer endpoint.line = result at polled ⊢
  obtain ⟨outcome, left, buffer, line⟩ := result
  cases polled
  by_cases stalled : rest = .stalled
  · simp [stalled]
  · simp [stalled]

/-! ## Closing -/

/-- A shutdown of a prompt transport is the end of closing. -/
theorem advanceShutdown_prompt (prompt : endpoint.line.Prompt io) :
    (endpoint.advanceShutdown io).1 = .finished .closed := by
  unfold advanceShutdown
  split
  · rename_i woken _ done
    exact ((prompt _ .refl).2 woken (congrArg Prod.fst done)).elim
  · rfl

/-- A flush of a prompt transport leads to the shutdown. -/
theorem advanceFlush_prompt (prompt : endpoint.line.Prompt io) :
    (endpoint.advanceFlush io).1 = .finished .closed := by
  unfold advanceFlush
  split
  · rename_i woken _ flushed
    exact ((prompt _ .refl).1 woken (congrArg Prod.fst flushed)).elim
  · rename_i flushed
    exact advanceShutdown_prompt fun later calls =>
      prompt later (calls.head (.flush (by decide) flushed))
  · rename_i flushed
    exact advanceShutdown_prompt fun later calls =>
      prompt later ((calls.head (.note ..)).head (.flush (by decide) flushed))

/-- Whoever closes the connection is done at the next poll with the lock if the transport is
prompt. -/
theorem advanceClosing_prompt (stage : Closing)
    (held : endpoint.connection.writeLock.isHeldBy id) (prompt : endpoint.line.Prompt io) :
    (endpoint.advance io id (.closing stage)).1 = .finished .closed := by
  cases stage with
  | waiting =>
    simp only [advance, advanceClosing, if_pos held]
    split
    · exact advanceFlush_prompt prompt
    · exact advanceFlush_prompt fun later calls => prompt later (calls.head (.note ..))
  | flushing => exact advanceFlush_prompt prompt
  | shuttingDown => exact advanceShutdown_prompt prompt

end Endpoint

/-! ## Scripts that have run out -/

/-- A script without cues for what senders and whoever closes the connection do, under which writes
accept everything. -/
structure Script.Exhausted (script : Script) : Prop where
  /-- There are no cues for writes. -/
  writes : script.writes = []
  /-- Writes do not wait. -/
  accepts : script.writesWait = false
  /-- There are no cues for flushes. -/
  flushes : script.flushes = []
  /-- There are no cues for shutdowns. -/
  shutdowns : script.shutdowns = []

namespace Script.Exhausted

variable {line after : Line Script} {errand : Errand}

/-- A script that has run out stays so. -/
theorem call (exhausted : line.state.Exhausted)
    (call : Line.Call Script.transport errand line after) : after.state.Exhausted := by
  obtain ⟨writes, accepts, flushes, shutdowns⟩ := exhausted
  cases call with
  | @read _ _ limit _ positive read =>
    cases read
    simp only [Line.enter]
    split <;> exact ⟨writes, accepts, flushes, shutdowns⟩
  | @write _ _ data _ nonempty written =>
    cases written
    simp only [Line.enter, writes]
    exact ⟨writes, accepts, flushes, shutdowns⟩
  | flush _ flushed =>
    cases flushed
    simp only [Line.enter, flushes]
    exact ⟨writes, accepts, flushes, shutdowns⟩
  | shutdown done =>
    cases done
    simp only [Line.enter, shutdowns]
    exact ⟨writes, accepts, flushes, shutdowns⟩
  | note => exact ⟨writes, accepts, flushes, shutdowns⟩

/-- A script that has run out is obliging and prompt. -/
theorem easy (exhausted : line.state.Exhausted) :
    line.Obliging Script.transport ∧ line.Prompt Script.transport := by
  have later : ∀ {errand after}, line.Calls Script.transport errand after →
      after.state.Exhausted := by
    intro errand after calls
    induction calls with
    | refl => exact exhausted
    | tail _ call ih => exact ih.call call
  refine ⟨fun after calls => ?_, fun after calls => ?_⟩
  · obtain ⟨writes, accepts, flushes, -⟩ := later calls
    constructor
    · intro data _
      simp [Line.write, Script.transport, Script.write, writes, accepts]
    · simp [Line.flush, Script.transport, Script.flush, flushes]
  · obtain ⟨-, -, flushes, shutdowns⟩ := later calls
    constructor
    · simp [Line.flush, Script.transport, Script.flush, flushes]
    · simp [Line.shutdown, Script.transport, Script.shutdown, shutdowns]

end Script.Exhausted

end Cmpp
