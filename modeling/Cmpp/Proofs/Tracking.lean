import Cmpp.Proofs.Ledger

/-!
# What the ledger of a run says

What a connection has handed over to be sent are the segments in the order of the ledger
(`Ledger.Tracks`). This rests on the queue for the write lock, which holds the senders that have not
ended in the order of the ledger: a sender that holds the lock is followed in the ledger only by
senders that have never held it and whose segments are therefore empty. Here it is shown of every
change to a connection by itself; that runs are made of such changes comes later.
-/

namespace Cmpp

/-- What holds of the frames in a ledger: they are the encodings of their packets, and the sequence
numbers taken for them were taken in the order of the ledger. -/
structure Posted (version : Version) (taken : Nat) (postings : List Posting) : Prop where
  /-- Every frame is the encoding of its packet. -/
  encoded : ∀ posting ∈ postings,
    encodeFrame version posting.packet posting.sequenceId = .ok posting.frame
  /-- A number that was taken is the count of those taken before, as far as 32 bits go. -/
  numbered : ∀ posting ∈ postings, ∀ turn, posting.turn = some turn →
    turn < taken ∧ posting.sequenceId = UInt32.ofNat turn
  /-- The turns come in order. -/
  sorted : (postings.filterMap (·.turn)).Pairwise (· < ·)

/-- What holds of a sender that has ended: it has handed over its frame from the front, all of it or
nothing if the frame is shorter than the buffer, and all of it if nothing has interrupted it. -/
structure Sender.Settled (capacity : Nat) (sender : Sender) : Prop where
  /-- What was handed over is the front of the frame. -/
  front : sender.segment <+: sender.frame
  /-- A short frame is handed over whole or not at all. -/
  whole : sender.frame.length < capacity → sender.segment = [] ∨ sender.segment = sender.frame
  /-- Only an interrupted sender leaves its frame unfinished. -/
  interrupted : ∀ ending, sender.ending = some ending → sender.segment ≠ sender.frame →
    ending.Interrupts

/-- How the ledger of a run, the connection and the bytes handed over belong together. -/
structure Ledger.Tracks (ledger : Ledger) (capacity : Nat) (connection : Connection)
    (output : Bytes) : Prop where
  /-- What was handed over are the segments of the senders, in order. -/
  output_eq : output = ledger.senders.flatMap (·.segment)
  /-- The senders that have not ended queue up for the write lock in order, before whoever closes
  the connection. -/
  queue : ∃ closers, connection.writeLock.queue = Roster.waiting ledger.senders ++ closers ∧
    ∀ id ∈ closers, ∃ stage, connection.task? id = some (.closing stage)
  /-- What is left of the task of a sender is to hand over the rest of the frame. -/
  tasks : ∀ sender ∈ ledger.senders, Entry.live sender → ∃ outcome rest,
    connection.task? sender.id =
        some (.sending outcome sender.sequenceId sender.frame rest) ∧
      rest.Fits capacity sender.frame sender.segment
  /-- A sender has held the lock only after all earlier ones have ended. -/
  order : ledger.senders.Pairwise fun earlier later => later.held → ¬Entry.live earlier
  /-- A sender that has never held the lock has handed over nothing. -/
  silent : ∀ sender ∈ ledger.senders, ¬sender.held → sender.segment = []
  /-- The senders that have ended are settled. -/
  settled : ∀ sender ∈ ledger.senders, ¬Entry.live sender → sender.Settled capacity
  /-- The frames are those of their packets, and in order. -/
  posted : Posted connection.version ledger.taken ledger.postings
  /-- The next sequence number is the count of those taken. -/
  next : connection.sequence.next = UInt32.ofNat ledger.taken

/-- Whether the ledger says that the sender that holds the write lock has held it. -/
def Ledger.KnowsHolder (ledger : Ledger) (lock : Lock) : Prop :=
  ∀ sender ∈ ledger.senders, Entry.live sender → lock.isHeldBy sender.id → sender.held

namespace Ledger.Tracks

variable {ledger : Ledger} {capacity : Nat} {connection next : Connection} {output : Bytes}
  {id : TaskId}

/-- Nothing is known of a new connection, and nothing has been handed over. -/
theorem empty (config : Config) (peer : Option Address) :
    Tracks {} capacity (.ofConfig config peer) [] where
  output_eq := rfl
  queue := ⟨[], rfl, by simp⟩
  tasks := by simp
  order := .nil
  silent := by simp
  settled := by simp
  posted := ⟨by simp [postings], by simp [postings], by simp [postings]⟩
  next := rfl

/-- The tasks that wait in the ledger are in the queue. -/
theorem waiting_subset (tracks : ledger.Tracks capacity connection output)
    (inside : id ∈ Roster.waiting ledger.senders) : id ∈ connection.writeLock.queue := by
  obtain ⟨closers, queue, -⟩ := tracks.queue
  rw [queue]
  exact List.mem_append_left _ inside

/-- The tasks that wait in the ledger are different from each other. -/
theorem waiting_distinct (tracks : ledger.Tracks capacity connection output)
    (sound : connection.Sound) : (Roster.waiting ledger.senders).Nodup := by
  obtain ⟨closers, queue, -⟩ := tracks.queue
  have distinct := sound.writers.distinct
  rw [queue, List.nodup_append] at distinct
  exact distinct.1

/-- A task that waits in the ledger is sending. -/
theorem sending_of_waiting (tracks : ledger.Tracks capacity connection output)
    (inside : id ∈ Roster.waiting ledger.senders) : ∃ outcome sequenceId frame rest,
      connection.task? id = some (.sending outcome sequenceId frame rest) := by
  obtain ⟨sender, member, live, own⟩ := Roster.mem_waiting.mp inside
  obtain rfl : sender.id = id := own
  obtain ⟨outcome, rest, found, -⟩ := tracks.tasks sender member live
  exact ⟨outcome, _, _, rest, found⟩

/-- A task that is sending is that of a sender in the ledger, which says what is sent. -/
theorem sender_of_sending (tracks : ledger.Tracks capacity connection output)
    (sound : connection.Sound) {outcome : Outcome} {sequenceId : UInt32} {frame : Bytes}
    {rest : Transmission}
    (found : connection.task? id = some (.sending outcome sequenceId frame rest)) :
    ∃ sender ∈ ledger.senders, Entry.live sender ∧ sender.id = id ∧ sender.sequenceId = sequenceId ∧
      sender.frame = frame ∧ rest.Fits capacity sender.frame sender.segment := by
  obtain ⟨closers, queue, closing⟩ := tracks.queue
  have queued := (sound.writers.mem_iff id).mpr ⟨_, found, rfl⟩
  rw [queue, List.mem_append] at queued
  rcases queued with waiting | closer
  · obtain ⟨sender, member, live, own⟩ := Roster.mem_waiting.mp waiting
    obtain rfl : sender.id = id := own
    obtain ⟨outcome', rest', known, fits⟩ := tracks.tasks sender member live
    rw [known] at found
    cases found
    exact ⟨sender, member, live, rfl, rfl, rfl, fits⟩
  · obtain ⟨stage, known⟩ := closing id closer
    rw [known] at found
    cases found

/-- While a sender that has held the lock has not ended, nobody after it has handed over
anything. -/
theorem silent_after {front back : List Sender} {sender : Sender} {taken : Nat}
    (tracks : Tracks ⟨front ++ sender :: back, taken⟩ capacity connection output)
    (live : Entry.live sender) : back.flatMap (·.segment) = [] := by
  rw [List.flatMap_eq_nil_iff]
  intro later inside
  apply tracks.silent later (by simp [inside])
  intro held
  obtain ⟨-, tail, -⟩ := List.pairwise_append.mp tracks.order
  exact (List.pairwise_cons.mp tail).1 later inside held live

/-- What the ledger says goes on to hold as long as the tasks of its senders and the order of the
queue stay as they are. -/
theorem transfer (tracks : ledger.Tracks capacity connection output)
    (same : ∀ other ∈ Roster.waiting ledger.senders, next.task? other = connection.task? other)
    (queue : ∃ closers, next.writeLock.queue = Roster.waiting ledger.senders ++ closers ∧
      ∀ closer ∈ closers, ∃ stage, next.task? closer = some (.closing stage))
    (version : next.version = connection.version)
    (sequence : next.sequence.next = connection.sequence.next) :
    ledger.Tracks capacity next output where
  output_eq := tracks.output_eq
  queue := queue
  tasks sender member live := by
    rw [same sender.id (Roster.mem_waiting.mpr ⟨sender, member, live, rfl⟩)]
    exact tracks.tasks sender member live
  order := tracks.order
  silent := tracks.silent
  settled := tracks.settled
  posted := by
    rw [version]
    exact tracks.posted
  next := sequence.trans tracks.next

/-- A connection with the same tasks, senders' queue and next sequence number is as the ledger says
too. -/
theorem congr (tracks : ledger.Tracks capacity connection output)
    (tasks : next.tasks = connection.tasks) (writeLock : next.writeLock = connection.writeLock)
    (version : next.version = connection.version)
    (sequence : next.sequence.next = connection.sequence.next) :
    ledger.Tracks capacity next output := by
  have same : next.task? = connection.task? := by
    funext id
    rw [Connection.task?, Connection.task?, tasks]
  refine tracks.transfer (fun other _ => congrFun same other) ?_ version sequence
  rw [writeLock, same]
  exact tracks.queue

/-- A task that does not wait in the ledger may go on as a task of the same sort. -/
theorem keep_idle (tracks : ledger.Tracks capacity connection output) {task left : Task}
    (found : connection.task? id = some task) (continues : task.Continues left)
    (idle : id ∉ Roster.waiting ledger.senders) :
    ledger.Tracks capacity (connection.keep id left) output := by
  obtain ⟨closers, queue, closing⟩ := tracks.queue
  refine tracks.transfer ?_ ⟨closers, queue, ?_⟩ rfl rfl
  · intro other waiting
    exact Connection.task?_keep_other fun same => idle (same ▸ waiting)
  · intro closer inside
    obtain ⟨stage, known⟩ := closing closer inside
    by_cases same : closer = id
    · subst same
      rw [found] at known
      cases known
      cases left with
      | closing stage => exact ⟨stage, Connection.task?_keep_self⟩
      | _ => contradiction
    · exact ⟨stage, (Connection.task?_keep_other same).trans known⟩

/-- A task that does not wait in the ledger may be forgotten. -/
theorem forget_idle (tracks : ledger.Tracks capacity connection output) (sound : connection.Sound)
    (idle : id ∉ Roster.waiting ledger.senders) :
    ledger.Tracks capacity (connection.forget id) output := by
  obtain ⟨closers, queue, closing⟩ := tracks.queue
  have distinct := sound.writers.distinct
  rw [queue, List.nodup_append] at distinct
  refine tracks.transfer ?_ ⟨closers.erase id, ?_, ?_⟩ rfl rfl
  · intro other waiting
    exact Connection.task?_forget_other fun same => idle (same ▸ waiting)
  · rw [Connection.queue_forget, queue, List.erase_append_right _ idle]
  · intro closer inside
    obtain ⟨different, inside⟩ := distinct.2.1.mem_erase_iff.mp inside
    rw [Connection.task?_forget_other different]
    exact closing closer inside

/-- Whoever has not ended and is changed keeps its place in the order of holding the lock. -/
theorem order_replace {front back : List Sender} {sender changed : Sender}
    (order : (front ++ sender :: back).Pairwise fun earlier later =>
      later.held → ¬Entry.live earlier)
    (live : Entry.live sender) (held : changed.held = sender.held) :
    (front ++ changed :: back).Pairwise fun earlier later => later.held → ¬Entry.live earlier := by
  obtain ⟨frontOrder, tailOrder, between⟩ := List.pairwise_append.mp order
  obtain ⟨after, backOrder⟩ := List.pairwise_cons.mp tailOrder
  refine List.pairwise_append.mpr ⟨frontOrder, List.pairwise_cons.mpr ⟨?_, backOrder⟩, ?_⟩
  · intro later inside laterHeld
    exact absurd live (after later inside laterHeld)
  · intro earlier inside later member laterHeld
    rcases List.mem_cons.mp member with rfl | member
    · exact between earlier inside sender List.mem_cons_self (held ▸ laterHeld)
    · exact between earlier inside later (List.mem_cons_of_mem _ member) laterHeld

/-- The entry of the sender that was polled or cancelled is changed: the sender has handed over a
further part of its frame, and it has either ended or goes on. -/
theorem replace {front back : List Sender} {sender changed : Sender} {taken : Nat} {gained : Bytes}
    (tracks : Tracks ⟨front ++ sender :: back, taken⟩ capacity connection output)
    (sound : connection.Sound) (live : Entry.live sender)
    (posting : changed.toPosting = sender.toPosting) (held : changed.held = sender.held)
    (segment : changed.segment = sender.segment ++ gained) (silent : sender.held ∨ gained = [])
    (others : ∀ other, other ≠ sender.id → next.task? other = connection.task? other)
    (version : next.version = connection.version)
    (sequence : next.sequence = connection.sequence)
    (left : (Entry.live changed ∧ next.writeLock = connection.writeLock ∧ ∃ outcome rest,
        next.task? sender.id = some (.sending outcome sender.sequenceId sender.frame rest) ∧
          rest.Fits capacity sender.frame changed.segment) ∨
      (¬Entry.live changed ∧ next.writeLock = connection.writeLock.leave sender.id ∧
        changed.Settled capacity)) :
    Tracks ⟨front ++ changed :: back, taken⟩ capacity next (output ++ gained) := by
  have distinct := tracks.waiting_distinct sound
  have id_eq : changed.id = sender.id := congrArg Posting.id posting
  obtain ⟨closers, queue, closing⟩ := tracks.queue
  obtain ⟨outcome, rest, found, -⟩ := tracks.tasks sender (by simp) live
  refine {
    output_eq := ?output
    queue := ⟨closers, ?queue, ?closing⟩
    tasks := ?tasks
    order := order_replace tracks.order live held
    silent := ?silent
    settled := ?settled
    posted := ?posted
    next := by rw [sequence, tracks.next] }
  case output =>
    -- Nobody behind the sender has handed over anything, so what it has gained comes last.
    have quiet := tracks.silent_after live
    rw [tracks.output_eq]
    simp [quiet, segment]
  case queue =>
    rw [Roster.waiting_replace live distinct id_eq]
    rcases left with ⟨stays, lock, -⟩ | ⟨ended, lock, -⟩
    · rw [lock, queue, if_pos stays]
    · have inside : sender.id ∈ Roster.waiting (front ++ sender :: back) :=
        Roster.mem_waiting.mpr ⟨sender, by simp, live, rfl⟩
      rw [lock, Lock.leave, queue, if_neg ended, List.erase_append_left _ inside]
      rfl
  case closing =>
    intro closer inside
    obtain ⟨stage, known⟩ := closing closer inside
    have different : closer ≠ sender.id := by
      rintro rfl
      rw [found] at known
      cases known
    exact ⟨stage, (others closer different).trans known⟩
  case tasks =>
    intro other member stays
    rcases Roster.mem_replaced live distinct member with rfl | ⟨member, different⟩
    · obtain ⟨-, -, outcome, rest, found, fits⟩ | ⟨ended, -⟩ := left
      · exact ⟨outcome, rest, by rw [id_eq, posting, found], by rw [posting]; exact fits⟩
      · exact absurd stays ended
    · rw [others other.id (different stays)]
      exact tracks.tasks other member stays
  case silent =>
    intro other member never
    rcases Roster.mem_replaced live distinct member with rfl | ⟨member, -⟩
    · rw [held] at never
      rw [segment, tracks.silent sender (by simp) never, silent.resolve_left never,
        List.append_nil]
    · exact tracks.silent other member never
  case settled =>
    intro other member ended
    rcases Roster.mem_replaced live distinct member with rfl | ⟨member, -⟩
    · obtain ⟨stays, -⟩ | ⟨-, -, settled⟩ := left
      · exact absurd stays ended
      · exact settled
    · exact tracks.settled other member ended
  case posted =>
    have same : postings ⟨front ++ changed :: back, taken⟩ =
        postings ⟨front ++ sender :: back, taken⟩ := by
      simp [postings, posting]
    rw [version, same]
    exact tracks.posted

end Ledger.Tracks

/-! ## Calls and the write lock -/

namespace Posted

variable {version : Version} {taken later : Nat} {postings : List Posting} {posting : Posting}

/-- A number may be taken that no frame carries. -/
theorem skip (posted : Posted version taken postings) : Posted version (taken + 1) postings :=
  ⟨posted.encoded, fun posting member turn numbered =>
    (posted.numbered posting member turn numbered).imp_left Nat.lt_succ_of_lt, posted.sorted⟩

/-- A frame may be added, with a number taken after all others or one that was not taken. -/
theorem append (posted : Posted version taken postings) (posting : Posting)
    (grows : taken ≤ later)
    (encoded : encodeFrame version posting.packet posting.sequenceId = .ok posting.frame)
    (numbered : ∀ turn, posting.turn = some turn →
      taken ≤ turn ∧ turn < later ∧ posting.sequenceId = UInt32.ofNat turn) :
    Posted version later (postings ++ [posting]) where
  encoded other member := by
    rcases List.mem_append.mp member with old | new
    · exact posted.encoded other old
    · exact List.mem_singleton.mp new ▸ encoded
  numbered other member turn found := by
    rcases List.mem_append.mp member with old | new
    · exact (posted.numbered other old turn found).imp_left (Nat.lt_of_lt_of_le · grows)
    · cases List.mem_singleton.mp new
      exact (numbered turn found).2
  sorted := by
    rw [List.filterMap_append, List.pairwise_append]
    refine ⟨posted.sorted, ?_, ?_⟩
    · cases turn : posting.turn <;> simp [turn]
    · intro earlier before turn last
      obtain ⟨other, member, found⟩ := List.mem_filterMap.mp before
      obtain ⟨_, new, foundLast⟩ := List.mem_filterMap.mp last
      cases List.mem_singleton.mp new
      exact Nat.lt_of_lt_of_le (posted.numbered other member earlier found).1
        (numbered turn foundLast).1

end Posted

namespace Ledger

variable {ledger : Ledger} {capacity : Nat} {connection next : Connection} {output : Bytes}
  {id : TaskId}

/-- A frame that is queued up behind all others is entered at the end. -/
theorem Tracks.enlist {outcome : Outcome} {packet : Packet} {sequenceId : UInt32}
    {turn : Option Nat} {frame : Bytes} {taken : Nat} {sequence : Sequence}
    (tracks : ledger.Tracks capacity connection output) (sound : connection.Sound)
    (free : connection.task? id = none) (opened : ¬connection.closed)
    (encoded : encodeFrame connection.version packet sequenceId = .ok frame)
    (grows : ledger.taken ≤ taken)
    (numbered : ∀ number, turn = some number →
      ledger.taken ≤ number ∧ number < taken ∧ sequenceId = UInt32.ofNat number)
    (counted : sequence.next = UInt32.ofNat taken) :
    Tracks ⟨ledger.senders ++ [entry connection id packet sequenceId turn frame], taken⟩ capacity
      ({ connection with
        sequence, writeLock := connection.writeLock.join id }.keep id
          (.sending outcome sequenceId frame (.writing frame))) output := by
  obtain ⟨closers, queue, closing⟩ := tracks.queue
  -- Nobody is closing an open connection, so the new sender comes right behind the others.
  have nobody : closers = [] := by
    apply List.eq_nil_iff_forall_not_mem.mpr
    intro closer inside
    obtain ⟨stage, found⟩ := closing closer inside
    exact opened (sound.closing closer stage found)
  rw [nobody, List.append_nil] at queue
  refine ⟨?_, ⟨[], ?_, by simp⟩, ?_, ?_, ?_, ?_, ?_, counted⟩
  · simp [tracks.output_eq, entry]
  · have fresh : Entry.live (entry connection id packet sequenceId turn frame) := rfl
    rw [Roster.waiting_append, Roster.waiting_cons, if_pos fresh, List.append_nil]
    exact congrArg (· ++ [id]) queue
  · intro sender member live
    rcases List.mem_append.mp member with old | new
    · obtain ⟨told, rest, found, fits⟩ := tracks.tasks sender old live
      have different : sender.id ≠ id := by
        rintro rfl
        rw [free] at found
        cases found
      exact ⟨told, rest, (Connection.task?_keep_other different).trans found, fits⟩
    · cases List.mem_singleton.mp new
      exact ⟨outcome, .writing frame, Connection.task?_keep_self, rfl, fun _ => .inl rfl⟩
  · refine List.pairwise_append.mpr ⟨tracks.order, List.pairwise_singleton .., ?_⟩
    intro earlier before later last held live
    cases List.mem_singleton.mp last
    have inside := Roster.mem_waiting.mpr ⟨earlier, before, live, rfl⟩
    rw [← queue, List.isEmpty_iff.mp held] at inside
    contradiction
  · intro sender member never
    rcases List.mem_append.mp member with old | new
    · exact tracks.silent sender old never
    · cases List.mem_singleton.mp new
      rfl
  · intro sender member ended
    rcases List.mem_append.mp member with old | new
    · exact tracks.settled sender old ended
    · cases List.mem_singleton.mp new
      exact absurd rfl ended
  · have posted := tracks.posted.append
      (entry connection id packet sequenceId turn frame).toPosting grows encoded numbered
    rw [postings, List.map_append]
    exact posted

/-- Whoever joins a queue does not hold the lock unless nobody was in the queue. -/
theorem KnowsHolder.join (holder : ledger.KnowsHolder connection.writeLock)
    (tracks : ledger.Tracks capacity connection output) :
    ledger.KnowsHolder (connection.writeLock.join id) := by
  intro sender member live held
  apply holder sender member live
  have inside := tracks.waiting_subset (Roster.mem_waiting.mpr ⟨sender, member, live, rfl⟩)
  rwa [Lock.isHeldBy_join_eq (List.ne_nil_of_mem inside)] at held

/-- A sender that queues up holds the lock if nobody was in the queue. -/
theorem KnowsHolder.enlist {packet : Packet} {sequenceId : UInt32} {turn : Option Nat}
    {frame : Bytes} {taken : Nat} (holder : ledger.KnowsHolder connection.writeLock)
    (tracks : ledger.Tracks capacity connection output) (sound : connection.Sound)
    (free : connection.task? id = none) :
    KnowsHolder ⟨ledger.senders ++ [entry connection id packet sequenceId turn frame], taken⟩
      (connection.writeLock.join id) := by
  intro sender member live held
  rcases List.mem_append.mp member with old | new
  · exact holder.join tracks sender old live held
  · cases List.mem_singleton.mp new
    have alone := (Lock.isHeldBy_join_self (sound.not_queued free).1).mp held
    simp [entry, alone]

/-- The count of the numbers taken goes with the next number. -/
theorem ofNat_succ (taken : Nat) : UInt32.ofNat (taken + 1) = UInt32.ofNat taken + 1 := by
  rw [UInt32.ofNat_add]
  rfl

/-- Taking a number leaves the ledger right. -/
theorem Tracks.skip {sequence : Sequence} (tracks : ledger.Tracks capacity connection output)
    (counted : sequence.next = connection.sequence.next + 1) :
    Tracks ⟨ledger.senders, ledger.taken + 1⟩ capacity { connection with sequence } output where
  output_eq := tracks.output_eq
  queue := tracks.queue
  tasks := tracks.tasks
  order := tracks.order
  silent := tracks.silent
  settled := tracks.settled
  posted := tracks.posted.skip
  next := by rw [ofNat_succ, ← tracks.next, ← counted]

/-- A call to receive or to close is entered nowhere; one to close queues up behind all senders. -/
theorem Tracks.enter (tracks : ledger.Tracks capacity connection output)
    (free : connection.task? id = none) {task : Task} (tasks : next.tasks = connection.tasks)
    (writeLock : next.writeLock = connection.writeLock ∨
      next.writeLock = connection.writeLock.join id ∧ ∃ stage, task = .closing stage)
    (version : next.version = connection.version)
    (sequence : next.sequence.next = connection.sequence.next) :
    ledger.Tracks capacity (next.keep id task) output := by
  have same : ∀ {other}, other ≠ id → (next.keep id task).task? other = connection.task? other := by
    intro other different
    rw [Connection.task?_keep_other different, Connection.task?, Connection.task?, tasks]
  obtain ⟨closers, queue, closing⟩ := tracks.queue
  have stillClosing : ∀ closer ∈ closers, ∃ stage,
      (next.keep id task).task? closer = some (.closing stage) := by
    intro closer inside
    obtain ⟨stage, found⟩ := closing closer inside
    refine ⟨stage, (same ?_).trans found⟩
    rintro rfl
    rw [free] at found
    cases found
  refine tracks.transfer ?_ ?_ version sequence
  · intro other waiting
    apply same
    rintro rfl
    obtain ⟨_, _, _, _, found⟩ := tracks.sending_of_waiting waiting
    rw [free] at found
    cases found
  · rcases writeLock with lock | ⟨lock, stage, rfl⟩
    · exact ⟨closers, (congrArg Lock.queue lock).trans queue, stillClosing⟩
    · refine ⟨closers ++ [id], ?_, ?_⟩
      · rw [← List.append_assoc, ← queue]
        exact congrArg Lock.queue lock
      · intro closer inside
        rcases List.mem_append.mp inside with old | new
        · exact stillClosing closer old
        · rw [List.mem_singleton.mp new]
          exact ⟨stage, Connection.task?_keep_self⟩

/-- A call that is over at once leaves the ledger right. -/
theorem Tracks.refuse (tracks : ledger.Tracks capacity connection output) {call : Call}
    {outcome : Outcome} (register : connection.register id call = (.error outcome, next)) :
    (ledger.register connection id call).Tracks capacity next output := by
  cases Connection.registers register with
  | unsentAs opened refused =>
    simpa [Ledger.register, Ledger.enlist, opened, refused] using tracks
  | @unsent packet _ opened running refused =>
    have entered : ledger.register connection id (.send packet) =
        ⟨ledger.senders, ledger.taken + 1⟩ := by
      simp [Ledger.register, Ledger.enlist, opened, running, refused]
    rw [entered]
    exact tracks.skip rfl
  | stopped opened stopped => simpa [Ledger.register, stopped] using tracks
  | closedAgain closed => exact tracks
  | closed closed other => cases call <;> simpa [Ledger.register, closed] using tracks

/-- A call that is registered leaves the ledger right. -/
theorem Tracks.register (tracks : ledger.Tracks capacity connection output)
    (sound : connection.Sound) (holder : ledger.KnowsHolder connection.writeLock)
    (free : connection.task? id = none) {call : Call} {task : Task}
    (register : connection.register id call = (.ok task, next)) :
    (ledger.register connection id call).Tracks capacity (next.keep id task) output ∧
      (ledger.register connection id call).KnowsHolder next.writeLock := by
  cases Connection.registers register with
  | closing opened => exact ⟨tracks.enter free rfl (.inr ⟨rfl, _, rfl⟩) rfl rfl, holder.join tracks⟩
  | receiving opened => exact ⟨tracks.enter free rfl (.inl rfl) rfl rfl, holder⟩
  | @sendingAs packet sequenceId frame opened encoded =>
    have entered : ledger.register connection id (.sendAs packet sequenceId) =
        ⟨ledger.senders ++ [entry connection id packet sequenceId none frame], ledger.taken⟩ := by
      simp [Ledger.register, Ledger.enlist, opened, encoded]
    rw [entered]
    exact ⟨tracks.enlist sound free opened encoded (Nat.le_refl _) (by simp) tracks.next,
      holder.enlist tracks sound free⟩
  | @sending packet frame opened running encoded =>
    have entered : ledger.register connection id (.send packet) =
        ⟨ledger.senders ++ [entry connection id packet connection.sequence.next
          (some ledger.taken) frame], ledger.taken + 1⟩ := by
      simp [Ledger.register, Ledger.enlist, opened, running, encoded]
    rw [entered]
    refine ⟨tracks.enlist sound free opened encoded (Nat.le_succ _) ?_ ?_,
      holder.enlist tracks sound free⟩
    · rintro _ ⟨⟩
      exact ⟨Nat.le_refl _, Nat.lt_succ_self _, tracks.next⟩
    · rw [ofNat_succ, tracks.next]

/-- Of the senders that have not ended, only the first can hold the lock. -/
theorem holder_first {senders : List Sender} {holder : Option TaskId}
    {closers : List TaskId} (distinct : (Roster.waiting senders).Nodup)
    (first : (Roster.waiting senders ++ closers).head? = holder) :
    senders.Pairwise fun earlier later =>
      Entry.live later → holder = some later.id → ¬Entry.live earlier := by
  induction senders with
  | nil => exact .nil
  | cons sender others ih =>
    rw [Roster.waiting_cons] at distinct first
    by_cases live : Entry.live sender
    · rw [if_pos live] at distinct first
      subst first
      -- The first sender waiting is at the head of the queue, and no other has its task.
      have nobody : ∀ later ∈ others, Entry.live later → some sender.id ≠ some later.id := by
        intro later inside stays same
        refine (List.nodup_cons.mp distinct).1 (Roster.mem_waiting.mpr ⟨later, inside, stays, ?_⟩)
        exact (Option.some.inj same).symm
      refine .cons (fun later inside stays same => absurd same (nobody later inside stays)) ?_
      refine List.pairwise_iff_forall_sublist.mpr fun pair stays same => ?_
      exact absurd same (nobody _ (pair.subset (by simp)) stays)
    · rw [if_neg live] at distinct first
      exact .cons (fun _ _ _ _ => live) (ih distinct first)

/-- Entering who holds the lock ends no sender. -/
theorem waiting_handOver (ledger : Ledger) (lock : Lock) :
    Roster.waiting (ledger.handOver lock).senders = Roster.waiting ledger.senders := by
  rw [Roster.waiting, Roster.waiting, handOver, List.filter_map, List.map_map]
  rfl

/-- Entering who holds the lock leaves the ledger right. -/
theorem Tracks.handOver (tracks : ledger.Tracks capacity connection output)
    (sound : connection.Sound) :
    (ledger.handOver connection.writeLock).Tracks capacity connection output where
  output_eq := by
    rw [tracks.output_eq, Ledger.handOver, List.flatMap_map]
  queue := by
    rw [waiting_handOver]
    exact tracks.queue
  tasks sender member live := by
    obtain ⟨before, inside, rfl⟩ := List.mem_map.mp member
    exact tracks.tasks before inside live
  order := by
    obtain ⟨closers, queue, -⟩ := tracks.queue
    have first := holder_first (tracks.waiting_distinct sound) (congrArg List.head? queue.symm)
    refine List.pairwise_map.mpr ((tracks.order.and first).imp ?_)
    rintro earlier later ⟨known, new⟩ held
    rw [Bool.or_eq_true, Bool.and_eq_true] at held
    rcases held with held | ⟨live, holds⟩
    · exact known held
    · exact new live (beq_iff_eq.mp holds)
  silent sender member never := by
    obtain ⟨before, inside, rfl⟩ := List.mem_map.mp member
    refine tracks.silent before inside fun held => never ?_
    rw [held, Bool.true_or]
  settled sender member ended := by
    obtain ⟨before, inside, rfl⟩ := List.mem_map.mp member
    obtain ⟨front, whole, interrupted⟩ := tracks.settled before inside ended
    exact ⟨front, whole, interrupted⟩
  posted := by
    rw [postings_handOver]
    exact tracks.posted
  next := tracks.next

/-- Entering who holds the lock makes it known. -/
theorem knowsHolder_handOver (ledger : Ledger) (lock : Lock) :
    (ledger.handOver lock).KnowsHolder lock := by
  intro sender member live held
  obtain ⟨before, inside, rfl⟩ := List.mem_map.mp member
  have stays : Entry.live before := live
  simp only [Bool.or_eq_true, Bool.and_eq_true]
  exact .inr ⟨stays, held⟩

end Ledger

end Cmpp
