import Cmpp.Proofs.Frames
import Cmpp.Proofs.Tracking

/-!
# Senders and the bytes they send

In every state of a run, what the connection has handed over to be sent is one segment after
another, each the front of the frame of one sender, in the order in which the senders made their
first polls (`Endpoint.output_is_segments`).
-/

namespace Cmpp

variable {σ : Type} {io : Transport σ}

/-! ## Polls and cancellations -/

namespace Endpoint

variable {endpoint : Endpoint σ} {ledger : Ledger} {capacity : Nat} {id : TaskId} {task : Task}

/-- Keeping or forgetting a task hands nothing over. -/
theorem output_settle (id : TaskId) (progress : Progress) (endpoint : Endpoint σ) :
    (settle id (progress, endpoint)).2.output = endpoint.output := by
  cases progress <;> rfl

/-- Going on with a task changes nothing that the ledger speaks of but the bytes handed over. -/
theorem advance_tracks {output : Bytes} (tracks : ledger.Tracks capacity endpoint.connection output)
    (io : Transport σ) (id : TaskId) (task : Task) :
    ledger.Tracks capacity (endpoint.advance io id task).2.connection output := by
  obtain ⟨readBuffer, writeBuffer, line, changed⟩ := advance_frame endpoint io id task
  rw [changed]
  exact tracks.congr rfl rfl rfl rfl

/-- A poll of a sender adds to its segment and leaves the ledger right. -/
theorem poll_sender {outcome : Outcome} {sequenceId : UInt32} {frame : Bytes} {rest : Transmission}
    {polled : Poll Outcome} {after : Endpoint σ}
    (tracks : ledger.Tracks endpoint.connection.writeBuffer.capacity endpoint.connection
      endpoint.output)
    (sound : endpoint.connection.Sound)
    (holder : ledger.KnowsHolder endpoint.connection.writeLock)
    (found : endpoint.connection.task? id = some (.sending outcome sequenceId frame rest))
    (settled : settle id (endpoint.advance io id (.sending outcome sequenceId frame rest)) =
      (polled, after)) :
    (ledger.follow id (after.output.drop endpoint.output.length) polled).Tracks
        endpoint.connection.writeBuffer.capacity after.connection after.output ∧
      after.connection.writeBuffer.capacity = endpoint.connection.writeBuffer.capacity := by
  obtain ⟨sender, member, live, rfl, rfl, rfl, fits⟩ := tracks.sender_of_sending sound found
  have known := holder sender member live
  obtain ⟨senders, taken⟩ := ledger
  obtain ⟨front, back, rfl⟩ := List.append_of_mem member
  -- The buffers have changed by now, but nothing that the ledger speaks of has.
  have tracksStill := advance_tracks tracks io sender.id
    (.sending outcome sender.sequenceId sender.frame rest)
  have soundStill := advance_sound sound io sender.id
    (.sending outcome sender.sequenceId sender.frame rest)
  cases advanced : endpoint.advance io sender.id
      (.sending outcome sender.sequenceId sender.frame rest) with
  | mk progress middle =>
    obtain ⟨gained, output, room, lock, left, fitsAfter, progressed⟩ :=
      advance_sending fits advanced
    rw [advanced] at tracksStill soundStill settled
    have added : after.output = endpoint.output ++ gained := by
      rw [← output, ← congrArg (fun result => result.2.output) settled, output_settle]
    rw [added, List.drop_left, Ledger.follow,
      Ledger.amend_present live (tracks.waiting_distinct sound)]
    obtain ⟨woken, rfl⟩ | ⟨ending, rfl, finished⟩ := progressed
    · cases settled
      refine ⟨?_, room⟩
      exact tracksStill.replace soundStill live rfl rfl rfl (lock.imp_left known)
        (fun other different => Connection.task?_keep_other different) rfl rfl
        (.inl ⟨rfl, rfl, outcome, left, Connection.task?_keep_self, fitsAfter⟩)
    · cases settled
      refine ⟨?_, room⟩
      refine tracksStill.replace soundStill live rfl rfl rfl (lock.imp_left known)
        (fun other different => Connection.task?_forget_other different) rfl rfl
        (.inr ⟨Bool.false_ne_true, rfl, fitsAfter.isPrefix, fitsAfter.whole, ?_⟩)
      rintro _ ⟨⟩ unfinished
      obtain rfl | ⟨failure, rfl⟩ := finished.resolve_left unfinished
      · trivial
      · trivial

/-- A poll of a task that does not wait in the ledger leaves the ledger right as it is. -/
theorem poll_idle (tracks : ledger.Tracks capacity endpoint.connection endpoint.output)
    (sound : endpoint.connection.Sound) (found : endpoint.connection.task? id = some task)
    (other : ∀ outcome sequenceId frame rest, task ≠ .sending outcome sequenceId frame rest)
    {polled : Poll Outcome} {after : Endpoint σ}
    (settled : settle id (endpoint.advance io id task) = (polled, after)) :
    (ledger.follow id (after.output.drop endpoint.output.length) polled).Tracks capacity
        after.connection after.output ∧
      after.connection.writeBuffer.capacity = endpoint.connection.writeBuffer.capacity := by
  have idle : id ∉ Roster.waiting ledger.senders := by
    intro waiting
    obtain ⟨outcome, sequenceId, frame, rest, known⟩ := tracks.sending_of_waiting waiting
    rw [found] at known
    exact other outcome sequenceId frame rest (Option.some.inj known)
  rw [Ledger.follow, Ledger.amend_absent _ idle]
  have tracksStill := advance_tracks tracks io id task
  have soundStill := advance_sound sound io id task
  have foundStill := (task?_advance endpoint io id id task).trans found
  cases advanced : endpoint.advance io id task with
  | mk progress middle =>
    obtain ⟨same, buffer⟩ := advance_idle endpoint io id other
    rw [advanced] at same buffer tracksStill soundStill foundStill settled
    have output : after.output = endpoint.output := by
      rw [← same, ← congrArg (fun result => result.2.output) settled, output_settle]
    rw [output]
    cases progress with
    | finished outcome =>
      cases settled
      exact ⟨tracksStill.forget_idle soundStill idle, congrArg WriteBuffer.capacity buffer⟩
    | suspended woken left =>
      cases settled
      have continues := advance_continues (congrArg Prod.fst advanced)
      exact ⟨tracksStill.keep_idle foundStill continues idle, congrArg WriteBuffer.capacity buffer⟩

/-- A poll leaves the ledger right. -/
theorem poll_tracks
    (tracks : ledger.Tracks endpoint.connection.writeBuffer.capacity endpoint.connection
      endpoint.output)
    (sound : endpoint.connection.Sound)
    (holder : ledger.KnowsHolder endpoint.connection.writeLock)
    (found : endpoint.connection.task? id = some task) {polled : Poll Outcome} {after : Endpoint σ}
    (settled : settle id (endpoint.advance io id task) = (polled, after)) :
    (ledger.follow id (after.output.drop endpoint.output.length) polled).Tracks
        endpoint.connection.writeBuffer.capacity after.connection after.output ∧
      after.connection.writeBuffer.capacity = endpoint.connection.writeBuffer.capacity := by
  cases task with
  | sending outcome sequenceId frame rest =>
    exact poll_sender tracks sound holder found settled
  | receiving assembly => exact poll_idle tracks sound found (by simp) settled
  | closing stage => exact poll_idle tracks sound found (by simp) settled

/-- Giving up a task leaves the ledger right. -/
theorem cancel_tracks {connection : Connection} {output : Bytes}
    (tracks : ledger.Tracks capacity connection output) (sound : connection.Sound)
    (found : connection.task? id = some task) :
    (ledger.amend id Entry.giveUp).Tracks capacity (connection.forget id) output := by
  by_cases waits : id ∈ Roster.waiting ledger.senders
  · obtain ⟨sender, member, live, own⟩ := Roster.mem_waiting.mp waits
    obtain rfl : sender.id = id := own
    obtain ⟨outcome, rest, known, fits⟩ := tracks.tasks sender member live
    obtain ⟨senders, taken⟩ := ledger
    obtain ⟨front, back, rfl⟩ := List.append_of_mem member
    rw [Ledger.amend_present live (tracks.waiting_distinct sound), ← List.append_nil output]
    refine tracks.replace sound live rfl rfl (List.append_nil _).symm (.inr rfl)
      (fun other different => Connection.task?_forget_other different) rfl rfl
      (.inr ⟨Bool.false_ne_true, rfl, fits.isPrefix, fits.whole, ?_⟩)
    rintro _ ⟨⟩ _
    trivial
  · rw [Ledger.amend_absent _ waits]
    exact tracks.forget_idle sound waits

end Endpoint

/-! ## Runs -/

/-- What holds of a ledger and of an endpoint, opened with some settings, in every state of a run:
the queues and the tasks agree, the ledger is right and knows who holds the lock, and the settings
are kept. -/
structure Ledger.Agrees (ledger : Ledger) (config : Config) (endpoint : Endpoint σ) : Prop where
  /-- The queues and the tasks agree. -/
  sound : endpoint.connection.Sound
  /-- The ledger is right. -/
  tracks : ledger.Tracks config.writeCapacity endpoint.connection endpoint.output
  /-- The ledger knows who holds the write lock. -/
  holder : ledger.KnowsHolder endpoint.connection.writeLock
  /-- The version is the one that was settled. -/
  version : endpoint.connection.version = config.version
  /-- The capacity of the write buffer is the one that was settled. -/
  capacity : endpoint.connection.writeBuffer.capacity = config.writeCapacity

namespace Ledger.Agrees

variable {ledger : Ledger} {config : Config} {endpoint : Endpoint σ} {id : TaskId}

/-- Nothing has been entered when a connection is opened. -/
theorem establish (io : Transport σ) (config : Config) (state : σ) :
    Agrees {} config (.establish io config state) where
  sound := Connection.sound_ofConfig ..
  tracks := by
    have output : (Endpoint.establish io config state).output = [] := by
      simp only [Endpoint.output, Endpoint.establish, WriteBuffer.stream]
      repeat' split
      all_goals simp [Line.accepted, Line.history, Line.note, Line.enter, Event.accepted,
        Connection.ofConfig]
    rw [output]
    exact Tracks.empty config _
  holder := by simp [KnowsHolder]
  version := rfl
  capacity := rfl

/-- A poll of a task keeps the ledger in agreement. -/
theorem poll {task : Task} (agrees : ledger.Agrees config endpoint)
    (found : endpoint.connection.task? id = some task) {polled : Poll Outcome}
    {after : Endpoint σ}
    (settled : Endpoint.settle id (endpoint.advance io id task) = (polled, after)) :
    ((ledger.follow id (after.output.drop endpoint.output.length) polled).handOver
      after.connection.writeLock).Agrees config after := by
  have sound := Endpoint.settle_sound io agrees.sound found
  have version := Endpoint.version_settle endpoint io id task
  obtain ⟨tracks, capacity⟩ := Endpoint.poll_tracks (agrees.capacity ▸ agrees.tracks) agrees.sound
    agrees.holder found settled
  rw [settled] at sound version
  rw [agrees.capacity] at tracks capacity
  exact ⟨sound, tracks.handOver sound, knowsHolder_handOver _ _, version.trans agrees.version,
    capacity⟩

/-- A call that is over at once keeps the ledger in agreement. -/
theorem refuse (agrees : ledger.Agrees config endpoint) {next : Connection}
    (free : endpoint.connection.task? id = none) {call : Call} {outcome : Outcome}
    (registered : endpoint.connection.register id call = (.error outcome, next)) (gained : Bytes)
    (polled : Poll Outcome) :
    (((ledger.register endpoint.connection id call).follow id gained polled).handOver
      (next.forget id).writeLock).Agrees config
        { endpoint with connection := next.forget id } := by
  have tracks := agrees.tracks.refuse registered
  obtain ⟨sequence, rfl⟩ := Connection.register_refused registered
  have sound : Connection.Sound { endpoint.connection with sequence } :=
    agrees.sound.congr rfl rfl rfl rfl
  have idle : id ∉ Roster.waiting (ledger.register endpoint.connection id call).senders := by
    intro waiting
    obtain ⟨_, _, _, _, found⟩ := tracks.sending_of_waiting waiting
    cases free.symm.trans found
  have forgotten := tracks.forget_idle sound idle
  rw [Ledger.follow, Ledger.amend_absent _ idle]
  exact ⟨sound.forget id, forgotten.handOver (sound.forget id), knowsHolder_handOver _ _,
    agrees.version, agrees.capacity⟩

/-- A call that is registered keeps the ledger in agreement, and hands nothing over yet. -/
theorem register (agrees : ledger.Agrees config endpoint) {next : Connection}
    (free : endpoint.connection.task? id = none) {call : Call} {task : Task}
    (registered : endpoint.connection.register id call = (.ok task, next)) :
    (ledger.register endpoint.connection id call).Agrees config
        { endpoint with connection := next.keep id task } ∧
      Endpoint.output { endpoint with connection := next.keep id task } = endpoint.output := by
  obtain ⟨version, buffer⟩ := Connection.register_frame registered
  obtain ⟨tracks, holder⟩ := agrees.tracks.register agrees.sound agrees.holder free registered
  have output : Endpoint.output { endpoint with connection := next.keep id task } =
      endpoint.output := by
    rw [Endpoint.output, Endpoint.output, ← buffer]
    rfl
  refine ⟨⟨agrees.sound.register free registered, output.symm ▸ tracks, holder,
    version.trans agrees.version, ?_⟩, output⟩
  exact (congrArg WriteBuffer.capacity buffer).trans agrees.capacity

/-- A call keeps the ledger in agreement: it is registered, and then its task is polled. -/
theorem start (agrees : ledger.Agrees config endpoint)
    (free : endpoint.connection.task? id = none) (call : Call) :
    (ledger.record endpoint (endpoint.step io (.start id call)).2 (.start id call)
      (endpoint.step io (.start id call)).1).Agrees config
        (endpoint.step io (.start id call)).2 := by
  rw [Endpoint.step_start free]
  cases registered : endpoint.connection.register id call with
  | mk result next =>
    cases result with
    | error outcome => exact agrees.refuse free registered _ _
    | ok task =>
      obtain ⟨entered, output⟩ := agrees.register free registered
      have kept : (next.keep id task).task? id = some task := Connection.task?_keep_self
      have stepped : Endpoint.step { endpoint with connection := next.keep id task } io
          (.poll id) = _ := Endpoint.step_poll kept io
      cases settled : Endpoint.settle id
          (Endpoint.advance { endpoint with connection := next.keep id task } io id task) with
      | mk polled after =>
        have followed := entered.poll kept settled
        rw [output] at followed
        simp only [stepped, settled, record]
        exact followed

/-- Giving up a task keeps the ledger in agreement. -/
theorem cancel (agrees : ledger.Agrees config endpoint) {task : Task}
    (found : endpoint.connection.task? id = some task) :
    ((ledger.amend id Entry.giveUp).handOver (endpoint.connection.forget id).writeLock).Agrees
      config { endpoint with connection := endpoint.connection.forget id } := by
  have sound := agrees.sound.forget id
  have tracks := Endpoint.cancel_tracks agrees.tracks agrees.sound found
  exact ⟨sound, tracks.handOver sound, knowsHolder_handOver _ _, agrees.version, agrees.capacity⟩

/-- Taking a number keeps the ledger in agreement. -/
theorem count (agrees : ledger.Agrees config endpoint) {sequence : Sequence}
    (counted : sequence.next = endpoint.connection.sequence.next + 1) :
    Agrees ⟨ledger.senders, ledger.taken + 1⟩ config
      { endpoint with connection := { endpoint.connection with sequence } } :=
  ⟨agrees.sound.congr rfl rfl rfl rfl, agrees.tracks.skip counted, agrees.holder, agrees.version,
    agrees.capacity⟩

/-- A move keeps the ledger in agreement. -/
theorem observe (agrees : ledger.Agrees config endpoint) (move : Move σ) :
    (ledger.observe io endpoint move).Agrees config (endpoint.move io move) := by
  cases move with
  | change change =>
    exact ⟨agrees.sound, agrees.tracks, agrees.holder, agrees.version, agrees.capacity⟩
  | act action =>
    cases action with
    | start id call =>
      cases free : endpoint.connection.task? id with
      | some task =>
        simpa only [Ledger.observe, Endpoint.move, Endpoint.step, free, record] using agrees
      | none => exact agrees.start free call
    | poll id =>
      cases found : endpoint.connection.task? id with
      | none =>
        simpa only [Ledger.observe, Endpoint.move, Endpoint.step, found, record] using agrees
      | some task =>
        simp only [Ledger.observe, Endpoint.move, Endpoint.step_poll found]
        exact agrees.poll found rfl
    | cancel id =>
      cases found : endpoint.connection.task? id with
      | none =>
        simpa only [Ledger.observe, Endpoint.move, Endpoint.step, found, record] using agrees
      | some task =>
        simp only [Ledger.observe, Endpoint.move, Endpoint.step, found]
        exact agrees.cancel found
    | setLifecycle lifecycle =>
      simp only [Ledger.observe, Endpoint.move, Endpoint.step, Connection.setLifecycle, record]
      split
      · exact agrees
      · exact ⟨agrees.sound.congr rfl rfl rfl rfl, agrees.tracks.congr rfl rfl rfl rfl,
          agrees.holder, agrees.version, agrees.capacity⟩
    | takeSequence =>
      by_cases stopped : endpoint.connection.sequence.stopped
      · simpa [Ledger.observe, Endpoint.move, Endpoint.step, Sequence.take, stopped, record] using
          agrees
      · simp only [Ledger.observe, Endpoint.move, Endpoint.step, Sequence.take, if_neg stopped,
          record]
        exact agrees.count rfl
    | stopSequence =>
      exact ⟨agrees.sound.congr rfl rfl rfl rfl, agrees.tracks.congr rfl rfl rfl rfl,
        agrees.holder, agrees.version, agrees.capacity⟩

/-- A run keeps the ledger in agreement. -/
theorem run (agrees : ledger.Agrees config endpoint) (moves : List (Move σ)) :
    (ofRun io endpoint moves ledger).Agrees config (endpoint.run io moves) := by
  induction moves generalizing ledger endpoint with
  | nil => exact agrees
  | cons move moves ih => exact ih (agrees.observe move)

end Ledger.Agrees

/-! ## What is sent -/

/-- What is sent of one frame. -/
structure Sender.Faithful (sender : Sender) (config : Config) : Prop where
  /-- The frame is the encoding of the packet under the sequence number. -/
  encoded : encodeFrame config.version sender.packet sender.sequenceId = .ok sender.frame
  /-- The frame carries the sequence number after its preamble. -/
  carried : (bodyOf sender.frame).take 4 = word sender.sequenceId
  /-- A sequence number that was taken is the count of those taken before, as far as 32 bits go. -/
  numbered : ∀ turn, sender.turn = some turn → sender.sequenceId = UInt32.ofNat turn
  /-- What is sent is the front of the frame. -/
  front : sender.segment <+: sender.frame
  /-- A sender that has never held the write lock has sent nothing. -/
  silent : ¬sender.held → sender.segment = []
  /-- A frame shorter than the write buffer is sent whole or not at all. -/
  whole : sender.frame.length < config.writeCapacity →
    sender.segment = [] ∨ sender.segment = sender.frame
  /-- Every frame is shorter than a write buffer of the default capacity. -/
  short : config.writeCapacity = defaultCapacity → sender.frame.length < config.writeCapacity
  /-- A frame is sent whole unless its sender was given up, interrupted by the closing of the
  connection or failed by the transport. -/
  complete : ∀ ending, sender.ending = some ending → ¬ending.Interrupts →
    sender.segment = sender.frame
  /-- A frame is left unfinished only if it is as long as the write buffer, and only by a sender
  that was given up, interrupted by the closing of the connection or failed by the transport. -/
  unfinished : ∀ ending, sender.ending = some ending → sender.segment ≠ [] →
    sender.segment ≠ sender.frame → config.writeCapacity ≤ sender.frame.length ∧ ending.Interrupts

/-- Every frame that a version allows is shorter than a buffer of the default capacity. -/
theorem maxLength_lt_defaultCapacity (version : Version) : version.maxLength < defaultCapacity := by
  cases version <;> decide

/-- The senders in a ledger that is right are faithful. -/
theorem Ledger.Agrees.faithful {ledger : Ledger} {config : Config} {endpoint : Endpoint σ}
    (agrees : ledger.Agrees config endpoint) {sender : Sender} (member : sender ∈ ledger.senders) :
    sender.Faithful config := by
  have posting : sender.toPosting ∈ ledger.postings := List.mem_map_of_mem member
  have encoded := agrees.tracks.posted.encoded _ posting
  rw [agrees.version] at encoded
  obtain ⟨written, allowed⟩ := encodeFrame_eq_ok.mp encoded
  have sent : sender.segment <+: sender.frame ∧ (sender.frame.length < config.writeCapacity →
      sender.segment = [] ∨ sender.segment = sender.frame) := by
    by_cases live : Entry.live sender
    · obtain ⟨_, _, _, fits⟩ := agrees.tracks.tasks sender member live
      exact ⟨fits.isPrefix, fits.whole⟩
    · have settled := agrees.tracks.settled sender member live
      exact ⟨settled.front, settled.whole⟩
  have interrupted : ∀ ending, sender.ending = some ending → sender.segment ≠ sender.frame →
      ending.Interrupts := by
    intro ending ended proper
    have ended' : ¬Entry.live sender := by simp [Entry.live, Entry.ending, ended]
    exact (agrees.tracks.settled sender member ended').interrupted ending ended proper
  exact {
    encoded := encoded
    carried := carries_sequenceId written
    numbered := fun turn taken => (agrees.tracks.posted.numbered _ posting turn taken).2
    front := sent.1
    silent := agrees.tracks.silent sender member
    whole := sent.2
    short := fun default => by
      rw [default]
      exact Nat.lt_of_le_of_lt allowed (maxLength_lt_defaultCapacity config.version)
    complete := fun ending ended undisturbed =>
      Decidable.of_not_not fun proper => undisturbed (interrupted ending ended proper)
    unfinished := fun ending ended some proper =>
      ⟨Nat.le_of_not_lt fun small => (sent.2 small).elim some proper,
        interrupted ending ended proper⟩ }

/-- In every state of every run, the bytes that the transport has accepted and those that wait in
the write buffer are together the segments of the senders: at most one for each call to send, in the
order in which the calls were made, each the front of the frame of its packet. No sender has sent
anything while an earlier one had not ended, and the numbers that the frames carry were taken in
the order in which the frames are sent. -/
theorem Endpoint.output_is_segments (io : Transport σ) (config : Config) (state : σ)
    (moves : List (Move σ)) :
    let opened := Endpoint.establish io config state
    let endpoint := opened.run io moves
    let ledger := Ledger.ofRun io opened moves {}
    endpoint.line.history.flatMap Event.accepted ++ endpoint.connection.writeBuffer.unsent =
        ledger.senders.flatMap (·.segment) ∧
      (ledger.postings.map (·.request)).Sublist (moves.filterMap (·.request?)) ∧
      (∀ sender ∈ ledger.senders, sender.Faithful config) ∧
      (ledger.senders.Pairwise fun earlier later => later.segment ≠ [] → ¬Entry.live earlier) ∧
      (ledger.postings.filterMap (·.turn)).Pairwise (· < ·) := by
  intro opened endpoint ledger
  have agrees : ledger.Agrees config endpoint :=
    (Ledger.Agrees.establish io config state).run moves
  refine ⟨agrees.tracks.output_eq, ?_, fun sender => agrees.faithful, ?_,
    agrees.tracks.posted.sorted⟩
  · exact Ledger.requests_ofRun io opened moves {}
  · refine agrees.tracks.order.imp_of_mem fun _ inside order sent => order ?_
    exact Decidable.of_not_not fun never => sent (agrees.tracks.silent _ inside never)

end Cmpp
