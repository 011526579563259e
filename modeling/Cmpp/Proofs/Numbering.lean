import Cmpp.Proofs.Lifecycle
import Cmpp.Proofs.Outcomes
import Cmpp.Proofs.Senders

/-!
# The numbering of a run

A sequence number is used up when the owner of the connection takes one and when a packet is to be
sent under the next one, at the first poll of its sender and whatever becomes of it afterwards.
Nothing else touches the source of numbers (`Endpoint.next_move`). So the next number is the count
of those used up, and whoever uses one up gets the count of those used up before: the owner is given
that number, and a sender's frame carries it, or there is no such frame
(`Endpoint.numbers_in_turn`).

What a sender is told in the end is followed through the ledger (`Ledger.Informs`): its own number,
or that the connection was closed or the transport failed.
-/

namespace Cmpp

variable {σ : Type} {io : Transport σ}

namespace Endpoint

variable {endpoint before : Endpoint σ} {move : Move σ}

/-! ## Using up numbers -/

/-- Whether a move uses up a sequence number. -/
def Consumes (endpoint : Endpoint σ) : Move σ → Bool
  | .act .takeSequence => !endpoint.connection.sequence.stopped
  | .act (.start id (.send _)) =>
    endpoint.free id && !endpoint.connection.closed && !endpoint.connection.sequence.stopped
  | _ => false

/-- The moves of a run that use up a sequence number, each with the endpoint at which it is made. -/
def consumers (io : Transport σ) : Endpoint σ → List (Move σ) → List (Endpoint σ × Move σ)
  | _, [] => []
  | endpoint, move :: moves =>
    let later := consumers io (endpoint.move io move) moves
    if endpoint.Consumes move then (endpoint, move) :: later else later

/-- Numbers used up in one run and in the next. -/
theorem consumers_append (io : Transport σ) (endpoint : Endpoint σ) (front back : List (Move σ)) :
    endpoint.consumers io (front ++ back) =
      endpoint.consumers io front ++ (endpoint.run io front).consumers io back := by
  induction front generalizing endpoint with
  | nil => rfl
  | cons move front ih =>
    simp only [List.cons_append, consumers, ih]
    split <;> rfl

/-- At most one number is used up by each move. -/
theorem length_consumers_le (io : Transport σ) (endpoint : Endpoint σ) (moves : List (Move σ)) :
    (endpoint.consumers io moves).length ≤ moves.length := by
  induction moves generalizing endpoint with
  | nil => exact Nat.le_refl 0
  | cons move moves ih =>
    have rest := ih (endpoint.move io move)
    simp only [consumers]
    split
    · exact Nat.succ_le_succ rest
    · exact Nat.le_succ_of_le rest

/-- A move that uses up a number comes right behind those that have used up the numbers before. -/
theorem consumers_at {front : List (Move σ)} (back : List (Move σ))
    (consumes : (endpoint.run io front).Consumes move) :
    (endpoint.consumers io (front ++ move :: back))[(endpoint.consumers io front).length]? =
      some (endpoint.run io front, move) := by
  rw [consumers_append, List.getElem?_append_right (Nat.le_refl _), Nat.sub_self, consumers,
    if_pos consumes, List.getElem?_cons_zero]

/-- A move that uses up a number stands at some place of the run, behind those that use up the
numbers before it. -/
theorem consumers_split {turn : Nat} {moves : List (Move σ)}
    (there : (endpoint.consumers io moves)[turn]? = some (before, move)) :
    ∃ front back, moves = front ++ move :: back ∧ before = endpoint.run io front ∧
      before.Consumes move ∧ (endpoint.consumers io front).length = turn := by
  induction moves generalizing endpoint turn with
  | nil => cases there
  | cons first moves ih =>
    simp only [consumers] at there
    by_cases consumes : endpoint.Consumes first
    · rw [if_pos consumes] at there
      cases turn with
      | zero =>
        cases there
        exact ⟨[], moves, rfl, rfl, consumes, rfl⟩
      | succ turn =>
        obtain ⟨front, back, rfl, rfl, own, count⟩ := ih there
        exact ⟨first :: front, back, rfl, rfl, own, by simp [consumers, consumes, count]⟩
    · rw [if_neg consumes] at there
      obtain ⟨front, back, rfl, rfl, own, count⟩ := ih there
      exact ⟨first :: front, back, rfl, rfl, own, by simp [consumers, consumes, count]⟩

/-- The next number is one more after a move that uses up a number, and else the same. -/
theorem next_move (endpoint : Endpoint σ) (io : Transport σ) (move : Move σ) :
    (endpoint.move io move).connection.sequence.next =
      if endpoint.Consumes move then endpoint.connection.sequence.next + 1
      else endpoint.connection.sequence.next := by
  cases move with
  | change change => rfl
  | act action =>
    have status := congrArg (·.sequence.next) (status_step endpoint io action)
    refine status.trans ?_
    have own : endpoint.status.sequence = endpoint.connection.sequence ∧
        endpoint.status.closed = endpoint.connection.closed := ⟨rfl, rfl⟩
    cases action with
    | start id call =>
      cases call <;> simp only [Status.act, Status.call, Consumes, Sequence.take, own] <;>
        repeat' split
      all_goals simp_all [Sequence.stop]
    | setLifecycle lifecycle =>
      simp only [Status.act]
      split <;> rfl
    | takeSequence =>
      simp only [Status.act, Consumes, Sequence.take, own]
      split <;> simp_all
    | poll | cancel | stopSequence => rfl

/-- The next number is the first one and the count of those used up. -/
theorem next_run (endpoint : Endpoint σ) (io : Transport σ) (moves : List (Move σ)) :
    (endpoint.run io moves).connection.sequence.next =
      endpoint.connection.sequence.next +
        UInt32.ofNat (endpoint.consumers io moves).length := by
  induction moves using List.reverseRecOn with
  | nil => simp [run, consumers]
  | append_singleton moves move ih =>
    rw [run_append, consumers_append, List.length_append]
    refine (next_move _ io move).trans ?_
    simp only [consumers]
    split
    · rw [ih, List.length_singleton, Ledger.ofNat_succ, UInt32.add_assoc]
    · rw [ih, List.length_nil, Nat.add_zero]

end Endpoint

/-! ## What senders are told -/

/-- What a sender is told once its frame has been sent. -/
def Posting.promise (posting : Posting) : Outcome :=
  if posting.turn.isSome then .numbered posting.sequenceId else .sent

/-- What a sender may be told in the end. -/
def Posting.MayHear (posting : Posting) (outcome : Outcome) : Prop :=
  outcome = posting.promise ∨ outcome = .failed .connectionClosed ∨
    ∃ failure, outcome = .failed (.transport failure)

/-- What holds of a sender in a state of the connection: its task promises what it has asked for,
and it was told nothing else in the end unless its sending failed. -/
structure Sender.Informed (sender : Sender) (connection : Connection) : Prop where
  /-- What its task promises. -/
  promised : Entry.live sender → ∀ outcome sequenceId frame rest,
    connection.task? sender.id = some (.sending outcome sequenceId frame rest) →
      outcome = sender.promise
  /-- What it was told. -/
  told : ∀ outcome, sender.ending = some (.returned outcome) → sender.MayHear outcome

/-- A sender is informed as before as long as what is left of its task does not change. -/
theorem Sender.Informed.congr {sender : Sender} {connection next : Connection}
    (informed : sender.Informed connection)
    (same : Entry.live sender → next.task? sender.id = connection.task? sender.id) :
    sender.Informed next where
  promised live outcome sequenceId frame rest found :=
    informed.promised live outcome sequenceId frame rest (same live ▸ found)
  told := informed.told

namespace Ledger

variable {ledger : Ledger} {connection next : Connection} {endpoint : Endpoint σ} {id : TaskId}

/-- A call that is over at once enters nobody. -/
theorem senders_register (ledger : Ledger) {call : Call} {outcome : Outcome}
    (registered : connection.register id call = (.error outcome, next)) :
    (ledger.register connection id call).senders = ledger.senders := by
  cases Connection.registers registered with
  | unsentAs opened refused => simp [register, enlist, opened, refused]
  | unsent opened running refused => simp [register, enlist, opened, running, refused]
  | stopped opened stopped => simp [register, stopped]
  | closedAgain => rfl
  | @closed call closed => cases call <;> simp [register, closed]

/-- All senders of a ledger are informed. -/
def Informs (ledger : Ledger) (connection : Connection) : Prop :=
  ∀ sender ∈ ledger.senders, sender.Informed connection

/-- The senders of a ledger that have not ended are there. -/
def Present (ledger : Ledger) (connection : Connection) : Prop :=
  ∀ sender ∈ ledger.senders, Entry.live sender → ∃ outcome rest,
    connection.task? sender.id = some (.sending outcome sender.sequenceId sender.frame rest)

/-- The senders of a ledger that have not ended are there if the ledger keeps track of them. -/
theorem Tracks.present {capacity : Nat} {output : Bytes}
    (tracks : ledger.Tracks capacity connection output) : ledger.Present connection := by
  intro sender member live
  obtain ⟨outcome, rest, found, -⟩ := tracks.tasks sender member live
  exact ⟨outcome, rest, found⟩

namespace Informs

/-- It does not matter who holds the lock. -/
theorem handOver (informs : ledger.Informs connection) (lock : Lock) :
    (ledger.handOver lock).Informs connection := by
  intro sender member
  obtain ⟨earlier, inside, rfl⟩ := List.mem_map.mp member
  exact ⟨(informs earlier inside).promised, (informs earlier inside).told⟩

/-- What becomes of one task matters to its sender only. -/
theorem amend {change : Sender → Sender} (informs : ledger.Informs connection)
    (others : ∀ other, other ≠ id → next.task? other = connection.task? other)
    (changed : ∀ sender ∈ ledger.senders, Entry.live sender → sender.id = id →
      sender.Informed connection → (change sender).Informed next) :
    (ledger.amend id change).Informs next := by
  intro sender member
  obtain ⟨earlier, inside, rfl⟩ := List.mem_map.mp member
  have before := informs earlier inside
  split <;> rename_i own
  · rw [Bool.and_eq_true, beq_iff_eq] at own
    exact changed earlier inside own.1 own.2 before
  · refine before.congr fun live => others _ fun same => own ?_
    exact Bool.and_eq_true_iff.mpr ⟨live, beq_iff_eq.mpr same⟩

/-- A call is entered with what its task promises. -/
theorem register (informs : ledger.Informs connection) (present : ledger.Present connection)
    (free : connection.task? id = none) {call : Call} {task : Task}
    (registered : connection.register id call = (.ok task, next)) :
    (ledger.register connection id call).Informs (next.keep id task) := by
  have tasks : ∀ other, next.task? other = connection.task? other := by
    cases Connection.registers registered <;> exact fun _ => rfl
  have before : ∀ sender ∈ ledger.senders, sender.Informed (next.keep id task) := by
    intro sender member
    refine (informs sender member).congr fun live => ?_
    obtain ⟨outcome, rest, found⟩ := present sender member live
    have different : sender.id ≠ id := by
      rintro same
      rw [same, free] at found
      cases found
    exact (Connection.task?_keep_other different).trans (tasks _)
  intro sender member
  cases Connection.registers registered with
  | closing | receiving => exact before sender member
  | sendingAs opened encoded =>
    simp only [Ledger.register, Ledger.enlist, if_neg opened, encoded] at member
    rcases List.mem_append.mp member with old | new
    · exact before sender old
    · cases List.mem_singleton.mp new
      refine ⟨fun _ outcome sequenceId frame rest found => ?_, fun _ ended => by cases ended⟩
      rw [entry, Connection.task?_keep_self] at found
      cases found
      rfl
  | sending opened running encoded =>
    have refused : ¬(connection.closed || connection.sequence.stopped) := by simp [opened, running]
    simp only [Ledger.register, Ledger.enlist, if_neg refused, encoded] at member
    rcases List.mem_append.mp member with old | new
    · exact before sender old
    · cases List.mem_singleton.mp new
      refine ⟨fun _ outcome sequenceId frame rest found => ?_, fun _ ended => by cases ended⟩
      rw [entry, Connection.task?_keep_self] at found
      cases found
      rfl

/-- A poll informs the sender that it polls. -/
theorem poll {task : Task} (informs : ledger.Informs endpoint.connection)
    (present : ledger.Present endpoint.connection)
    (found : endpoint.connection.task? id = some task) (gained : Bytes) :
    (ledger.follow id gained (Endpoint.settle id (endpoint.advance io id task)).1).Informs
      (Endpoint.settle id (endpoint.advance io id task)).2.connection := by
  have turn : Endpoint.Turn io (.task id) endpoint
      (Endpoint.settle id (endpoint.advance io id task)).2 := .poll found
  refine informs.amend (fun other different => turn.task_other (by simpa using different.symm))
    fun sender member live own informed => ?_
  subst own
  obtain ⟨outcome, rest, sending⟩ := present sender member live
  have promise := informed.promised live _ _ _ _ sending
  cases found.symm.trans sending
  cases advanced : endpoint.advance io sender.id
      (.sending outcome sender.sequenceId sender.frame rest) with
  | mk progress after =>
    cases progress with
    | finished result =>
      refine ⟨fun still => (by cases still), fun told ended => ?_⟩
      cases ended
      have told := Endpoint.advance_sending_finished advanced
      rwa [promise] at told
    | suspended woken left =>
      have continues := Endpoint.advance_continues (congrArg Prod.fst advanced)
      refine ⟨fun _ told sequenceId frame others there => ?_, fun told ended => by cases ended⟩
      cases Connection.task?_keep_self.symm.trans there
      exact continues.1.trans promise

/-- A call informs the sender that makes it. -/
theorem start {config : Config} (informs : ledger.Informs endpoint.connection)
    (agrees : ledger.Agrees config endpoint) (free : endpoint.connection.task? id = none)
    (call : Call) :
    (ledger.observe io endpoint (.act (.start id call))).Informs
      (endpoint.move io (.act (.start id call))).connection := by
  have present := agrees.tracks.present
  simp only [Ledger.observe, Endpoint.move, Endpoint.step_start free]
  cases registered : endpoint.connection.register id call with
  | mk result next =>
    cases result with
    | error outcome =>
      have senders := ledger.senders_register registered
      obtain ⟨sequence, rfl⟩ := Connection.register_refused registered
      have still : (ledger.register endpoint.connection id call).Informs
          { endpoint.connection with sequence } :=
        fun sender member => (informs sender (senders ▸ member)).congr fun _ => rfl
      refine handOver (still.amend ?_ fun sender member live own _ => ?_) _
      · exact fun other different => Connection.task?_forget_other different
      · obtain ⟨_, _, found⟩ := present sender (senders ▸ member) live
        cases free.symm.trans (own ▸ found)
    | ok task =>
      let started : Endpoint σ := { endpoint with connection := next.keep id task }
      have entered : (ledger.register endpoint.connection id call).Informs started.connection :=
        informs.register present free registered
      have there : (ledger.register endpoint.connection id call).Present started.connection :=
        (agrees.register free registered).1.tracks.present
      have polled : started.connection.task? id = some task := Connection.task?_keep_self
      have stepped : Endpoint.step { endpoint with connection := next.keep id task } io
          (.poll id) = _ := Endpoint.step_poll polled io
      simp only [stepped, record]
      exact (entered.poll there polled _).handOver _

/-- An action under a wrong name informs nobody. -/
theorem misnamed (informs : ledger.Informs endpoint.connection) {action : Action}
    (same : endpoint.step io action = (.misnamed, endpoint)) :
    (ledger.observe io endpoint (.act action)).Informs
      (endpoint.move io (.act action)).connection := by
  simpa only [Ledger.observe, Endpoint.move, same, record] using informs

/-- A move informs the senders that it concerns. -/
theorem observe {config : Config} (informs : ledger.Informs endpoint.connection)
    (agrees : ledger.Agrees config endpoint) (move : Move σ) :
    (ledger.observe io endpoint move).Informs (endpoint.move io move).connection := by
  cases move with
  | change change => exact informs
  | act action =>
    cases action with
    | start id call =>
      cases free : endpoint.connection.task? id with
      | some task => exact informs.misnamed (Endpoint.step_start_taken free call)
      | none => exact informs.start agrees free call
    | poll id =>
      cases found : endpoint.connection.task? id with
      | none => exact informs.misnamed (Endpoint.step_poll_free found)
      | some task =>
        simp only [Ledger.observe, Endpoint.move, Endpoint.step_poll found]
        exact (informs.poll agrees.tracks.present found _).handOver _
    | cancel id =>
      cases found : endpoint.connection.task? id with
      | none => exact informs.misnamed (Endpoint.step_cancel_free found)
      | some task =>
        simp only [Ledger.observe, Endpoint.move, Endpoint.step_cancel found]
        refine handOver (informs.amend ?_ ?_) _
        · exact fun other different => Connection.task?_forget_other different
        · exact fun sender _ _ _ _ => ⟨fun still => (by cases still), fun _ ended => by cases ended⟩
    | setLifecycle lifecycle =>
      simp only [Ledger.observe, Endpoint.move, Endpoint.step, Connection.setLifecycle, record]
      split
      · exact informs
      · exact fun sender member => (informs sender member).congr fun _ => rfl
    | takeSequence =>
      have same : (ledger.observe io endpoint (.act .takeSequence)).senders = ledger.senders := by
        cases taken : endpoint.connection.sequence.take.1 <;>
          simp [Ledger.observe, Endpoint.step, record, taken]
      intro sender member
      exact (informs sender (same ▸ member)).congr fun _ => rfl
    | stopSequence => exact fun sender member => (informs sender member).congr fun _ => rfl

end Informs

/-! ## Numbers in the ledger -/

/-- What a call to send under the next number enters. -/
def numberedPosting (ledger : Ledger) (connection : Connection) (id : TaskId) (packet : Packet)
    (frame : Bytes) : Posting :=
  { id, packet, sequenceId := connection.sequence.next, turn := some ledger.taken, frame }

/-- A call that may use up a number is entered if there is a frame for it. -/
theorem register_numbered (ledger : Ledger) (id : TaskId) (packet : Packet)
    (opened : ¬connection.closed) (running : ¬connection.sequence.stopped) :
    (ledger.register connection id (.send packet)).taken = ledger.taken + 1 ∧
      (ledger.register connection id (.send packet)).postings =
        match encodeFrame connection.version packet connection.sequence.next with
        | .ok frame => ledger.postings ++ [ledger.numberedPosting connection id packet frame]
        | .error _ => ledger.postings := by
  have may : ¬(connection.closed || connection.sequence.stopped) := by simp [opened, running]
  simp only [register, enlist, if_neg may]
  refine ⟨trivial, ?_⟩
  cases encodeFrame connection.version packet connection.sequence.next with
  | error error => rfl
  | ok frame => simp [postings, entry, numberedPosting]

/-- Any other call uses up no number, and what it enters has none. -/
theorem register_unnumbered (ledger : Ledger) (id : TaskId) {call : Call}
    (other : ∀ packet, call = .send packet → connection.closed ∨ connection.sequence.stopped) :
    (ledger.register connection id call).taken = ledger.taken ∧
      ∀ posting ∈ (ledger.register connection id call).postings,
        posting ∈ ledger.postings ∨ posting.turn = none := by
  cases call with
  | receive | close => exact ⟨rfl, fun posting inside => .inl inside⟩
  | send packet =>
    have refused : (connection.closed || connection.sequence.stopped) = true := by
      simpa using other packet rfl
    simp only [register, if_pos refused]
    exact ⟨trivial, fun posting inside => .inl inside⟩
  | sendAs packet sequenceId =>
    simp only [register, enlist]
    split
    · exact ⟨rfl, fun posting inside => .inl inside⟩
    · split
      · exact ⟨rfl, fun posting inside => .inl inside⟩
      · refine ⟨rfl, fun posting inside => ?_⟩
        rw [postings, List.map_append] at inside
        rcases List.mem_append.mp inside with old | new
        · exact .inl old
        · obtain rfl := List.mem_singleton.mp new
          exact .inr rfl

/-- A move that starts a call is entered as the call is. -/
theorem observe_start (ledger : Ledger) (io : Transport σ) (call : Call)
    (free : endpoint.connection.task? id = none) :
    (ledger.observe io endpoint (.act (.start id call))).taken =
        (ledger.register endpoint.connection id call).taken ∧
      (ledger.observe io endpoint (.act (.start id call))).postings =
        (ledger.register endpoint.connection id call).postings := by
  have polled : ∃ poll, (endpoint.step io (.start id call)).1 = .polled poll := by
    simp only [Endpoint.step, free]
    exact ⟨_, rfl⟩
  obtain ⟨poll, replied⟩ := polled
  simp only [observe, replied, record]
  refine ⟨rfl, ?_⟩
  rw [postings_handOver, postings_follow]

/-- A move that starts no call enters no posting. -/
theorem postings_observe_other (ledger : Ledger) (io : Transport σ) {move : Move σ}
    (other : ∀ id call, move ≠ .act (.start id call)) :
    (ledger.observe io endpoint move).postings = ledger.postings := by
  rcases ledger.postings_observe io endpoint move with same | ⟨posting, -, asked⟩
  · exact same
  · unfold Move.request? at asked
    split at asked
    · exact (other _ _ rfl).elim
    · exact (other _ _ rfl).elim
    · cases asked

/-- A move that starts no call uses up a number if it takes one. -/
theorem taken_observe_other (ledger : Ledger) (io : Transport σ) (endpoint : Endpoint σ)
    {move : Move σ} (other : ∀ id call, move ≠ .act (.start id call)) :
    (ledger.observe io endpoint move).taken =
      if endpoint.Consumes move then ledger.taken + 1 else ledger.taken := by
  cases move with
  | change change => rfl
  | act action =>
    cases action with
    | start id call => exact (other id call rfl).elim
    | poll id | cancel id =>
      cases found : endpoint.connection.task? id <;>
        simp only [observe, Endpoint.step, found, record] <;> rfl
    | setLifecycle | stopSequence => rfl
    | takeSequence =>
      by_cases stopped : endpoint.connection.sequence.stopped <;>
        simp [observe, Endpoint.step, Sequence.take, record, Endpoint.Consumes, stopped]

/-- The ledger counts the numbers that are used up, and the numbers it speaks of are those that the
moves of senders use up. -/
theorem observe_counts (ledger : Ledger) (io : Transport σ) (endpoint : Endpoint σ)
    (move : Move σ) :
    (ledger.observe io endpoint move).taken =
        (if endpoint.Consumes move then ledger.taken + 1 else ledger.taken) ∧
      ∀ posting ∈ (ledger.observe io endpoint move).postings, posting ∈ ledger.postings ∨
        ∀ turn, posting.turn = some turn → turn = ledger.taken ∧ endpoint.Consumes move ∧
          move = .act (.start posting.id (.send posting.packet)) := by
  by_cases starts : ∃ id call, move = .act (.start id call)
  swap
  · have other : ∀ id call, move ≠ .act (.start id call) := by simpa using starts
    rw [ledger.postings_observe_other io other]
    exact ⟨ledger.taken_observe_other io endpoint other, fun posting inside => .inl inside⟩
  obtain ⟨id, call, rfl⟩ := starts
  cases free : endpoint.connection.task? id with
  | some task =>
    have same : ledger.observe io endpoint (.act (.start id call)) = ledger := by
      simp only [observe, Endpoint.step, free, record]
    have spares : ¬endpoint.Consumes (.act (.start id call)) := by
      cases call <;> simp [Endpoint.Consumes, Endpoint.free, free]
    rw [same, if_neg spares]
    exact ⟨rfl, fun posting inside => .inl inside⟩
  | none =>
    obtain ⟨taken, postings⟩ := ledger.observe_start io call free
    rw [taken, postings]
    by_cases consumes : endpoint.Consumes (.act (.start id call))
    · cases call with
      | sendAs | receive | close => cases consumes
      | send packet =>
        have may : ¬endpoint.connection.closed ∧ ¬endpoint.connection.sequence.stopped := by
          simp only [Endpoint.Consumes, Bool.and_eq_true, Bool.not_eq_true'] at consumes
          simp [consumes]
        obtain ⟨counted, entered⟩ := ledger.register_numbered id packet may.1 may.2
        rw [counted, entered, if_pos consumes]
        refine ⟨rfl, fun posting inside => ?_⟩
        split at inside
        · rcases List.mem_append.mp inside with old | new
          · exact .inl old
          · obtain rfl := List.mem_singleton.mp new
            exact .inr fun turn given => ⟨(Option.some.inj given).symm, consumes, rfl⟩
        · exact .inl inside
    · have other : ∀ packet, call = .send packet →
          endpoint.connection.closed ∨ endpoint.connection.sequence.stopped := by
        rintro packet rfl
        simpa [Endpoint.Consumes, Endpoint.free, free, or_iff_not_imp_left] using consumes
      obtain ⟨counted, entered⟩ := ledger.register_unnumbered id other
      rw [counted, if_neg consumes]
      refine ⟨rfl, fun posting inside => (entered posting inside).imp_right ?_⟩
      intro none turn given
      rw [none] at given
      cases given

/-- The ledger of one run and of the next is one ledger. -/
theorem ofRun_append (io : Transport σ) (endpoint : Endpoint σ) (front back : List (Move σ))
    (ledger : Ledger) :
    ofRun io endpoint (front ++ back) ledger =
      ofRun io (endpoint.run io front) back (ofRun io endpoint front ledger) := by
  induction front generalizing endpoint ledger with
  | nil => rfl
  | cons move front ih => exact ih ..

/-- What was entered stays. -/
theorem postings_kept (io : Transport σ) (endpoint : Endpoint σ) (moves : List (Move σ))
    (ledger : Ledger) : ledger.postings <+: (ofRun io endpoint moves ledger).postings := by
  induction moves generalizing endpoint ledger with
  | nil => exact List.prefix_rfl
  | cons move moves ih =>
    refine List.IsPrefix.trans ?_ (ih (endpoint.move io move) (ledger.observe io endpoint move))
    rcases ledger.postings_observe io endpoint move with same | ⟨posting, added, -⟩
    · exact same ▸ List.prefix_rfl
    · rw [added]
      exact List.prefix_append ..

/-- The ledger of a run counts the numbers that were used up in it. -/
theorem taken_ofRun (io : Transport σ) (endpoint : Endpoint σ) (moves : List (Move σ)) :
    (ofRun io endpoint moves {}).taken = (endpoint.consumers io moves).length := by
  induction moves using List.reverseRecOn with
  | nil => rfl
  | append_singleton moves move ih =>
    rw [ofRun_append, Endpoint.consumers_append, List.length_append, ← ih]
    refine (observe_counts _ io _ move).1.trans ?_
    simp only [Endpoint.consumers]
    split <;> rfl

/-- A sender that was given a number used it up when it was its turn. -/
theorem turn_ofRun (io : Transport σ) (endpoint : Endpoint σ) (moves : List (Move σ)) :
    ∀ posting ∈ (ofRun io endpoint moves {}).postings, ∀ turn, posting.turn = some turn →
      ∃ before, (endpoint.consumers io moves)[turn]? =
        some (before, .act (.start posting.id (.send posting.packet))) := by
  induction moves using List.reverseRecOn with
  | nil => intro posting inside; cases inside
  | append_singleton moves move ih =>
    intro posting inside turn given
    rw [ofRun_append] at inside
    rcases (observe_counts _ io _ move).2 posting inside with old | new
    · obtain ⟨before, there⟩ := ih posting old turn given
      have early := (List.getElem?_eq_some_iff.mp there).1
      refine ⟨before, ?_⟩
      rw [Endpoint.consumers_append, List.getElem?_append_left early, there]
    · obtain ⟨rfl, consumes, rfl⟩ := new turn given
      exact ⟨_, taken_ofRun io endpoint moves ▸ Endpoint.consumers_at [] consumes⟩

/-- All senders of a run are informed. -/
theorem informs_ofRun (io : Transport σ) (config : Config) (state : σ) (moves : List (Move σ)) :
    (ofRun io (.establish io config state) moves {}).Informs
      ((Endpoint.establish io config state).run io moves).connection := by
  induction moves using List.reverseRecOn with
  | nil => intro sender inside; cases inside
  | append_singleton moves move ih =>
    rw [ofRun_append, Endpoint.run_append]
    exact ih.observe ((Agrees.establish io config state).run moves) move

end Ledger

/-! ## Runs -/

namespace Endpoint

variable {endpoint : Endpoint σ} {move : Move σ}

/-- Whether a move stops the source of numbers: the owner of the connection stops it, or the
connection is called to close. -/
def StoppedBy (endpoint : Endpoint σ) (move : Move σ) : Prop :=
  move = .act .stopSequence ∨ endpoint.ClosedBy move

/-- The source of numbers is stopped after a move when it was before or the move stops it. -/
theorem stopped_move (coherent : endpoint.status.Coherent) :
    (endpoint.move io move).status.sequence.stopped ↔
      endpoint.status.sequence.stopped ∨ endpoint.StoppedBy move := by
  cases move with
  | change change =>
    have same : (endpoint.move io (.change change)).status = endpoint.status := rfl
    simp [StoppedBy, ClosedBy, same]
  | act action =>
    rw [Endpoint.move, status_step]
    cases action with
    | start id call =>
      have closed := coherent.stopped
      cases call <;> simp only [Status.act, Status.call, StoppedBy, ClosedBy] <;> repeat' split
      all_goals simp_all [Status.stopped_take, Sequence.stop]
    | setLifecycle lifecycle =>
      simp only [Status.act]
      split <;> simp [StoppedBy, ClosedBy]
    | takeSequence => simp [Status.act, Status.stopped_take, StoppedBy, ClosedBy]
    | stopSequence => simp [Status.act, Sequence.stop, StoppedBy]
    | poll | cancel => simp [Status.act, StoppedBy, ClosedBy]

/-- The source of numbers is stopped after a run when it was before or something in the run has
stopped it. -/
theorem stopped_run (coherent : endpoint.status.Coherent) (moves : List (Move σ)) :
    (endpoint.run io moves).status.sequence.stopped ↔
      endpoint.status.sequence.stopped ∨ endpoint.Happens io StoppedBy moves := by
  induction moves using List.reverseRecOn with
  | nil => simp [run, not_happens_nil]
  | append_singleton moves move ih =>
    rw [run_append, happens_concat, ← or_assoc, ← ih]
    exact stopped_move (coherent_run coherent moves)

/-- Once the source of numbers is stopped, no more numbers are used up. -/
theorem consumers_stopped (stopped : endpoint.status.sequence.stopped) (moves : List (Move σ)) :
    endpoint.consumers io moves = [] := by
  induction moves generalizing endpoint with
  | nil => rfl
  | cons move moves ih =>
    have spares : ¬endpoint.Consumes move := by
      have source : endpoint.connection.sequence.stopped = true := stopped
      unfold Consumes
      split <;> simp [source]
    rw [consumers, if_neg spares]
    exact ih ((precedes_move endpoint io move).stopped stopped)

/-- What a move gets that uses up a number: the owner of the connection is given it; or there is no
frame for the packet under it, of which the sender is told; or the frame is entered in the ledger
under this number, and its sender is told the number in the end unless the sending fails. -/
inductive Gets (io : Transport σ) (config : Config) (ledger : Ledger) (before : Endpoint σ)
    (number : UInt32) : Move σ → Prop
  /-- The owner takes the number. -/
  | owner (replied : before.reply? io (.act .takeSequence) = some (.sequence (.ok number))) :
    Gets io config ledger before number (.act .takeSequence)
  /-- There is no frame under the number. -/
  | unsent {id : TaskId} {packet : Packet} {error : Error}
    (refused : encodeFrame config.version packet number = .error error)
    (replied : before.reply? io (.act (.start id (.send packet))) =
      some (.polled (.ready (.failed error)))) :
    Gets io config ledger before number (.act (.start id (.send packet)))
  /-- There is a frame under the number. -/
  | sender {sender : Sender} (entered : sender ∈ ledger.senders)
    (turn : sender.turn = some number.toNat) (numbered : sender.sequenceId = number)
    (faithful : sender.Faithful config)
    (told : ∀ outcome, sender.ending = some (.returned outcome) →
      outcome = .numbered number ∨ outcome = .failed .connectionClosed ∨
        ∃ failure, outcome = .failed (.transport failure)) :
    Gets io config ledger before number (.act (.start sender.id (.send sender.packet)))

/-- A sender that uses up a number, for which there is a frame, is entered in the ledger. -/
theorem entered_of_consumes (io : Transport σ) (config : Config) (state : σ) {id : TaskId}
    {packet : Packet} {frame : Bytes} (front back : List (Move σ)) :
    let opened := establish io config state
    let before := opened.run io front
    before.Consumes (.act (.start id (.send packet))) →
      encodeFrame config.version packet before.connection.sequence.next = .ok frame →
        ∃ sender ∈ (Ledger.ofRun io opened (front ++ .act (.start id (.send packet)) :: back)
            {}).senders,
          sender.id = id ∧ sender.packet = packet ∧
            sender.sequenceId = before.connection.sequence.next ∧
              sender.turn = some (opened.consumers io front).length := by
  intro opened before consumes encoded
  have version : before.connection.version = config.version :=
    Reachable.version ⟨state, front, rfl⟩
  simp only [Consumes, free, Bool.and_eq_true, Option.isNone_iff_eq_none, Bool.not_eq_true']
    at consumes
  obtain ⟨⟨unused, unclosed⟩, running⟩ := consumes
  let ledger := Ledger.ofRun io opened front {}
  have counted : ledger.taken = (opened.consumers io front).length :=
    Ledger.taken_ofRun io opened front
  have entered := (ledger.register_numbered id packet (Bool.eq_false_iff.mp unclosed)
    (Bool.eq_false_iff.mp running)).2
  simp only [version, encoded] at entered
  have observed := (ledger.observe_start io _ unused).2.trans entered
  have there : ledger.numberedPosting before.connection id packet frame ∈
      (ledger.observe io before (.act (.start id (.send packet)))).postings := by
    rw [observed]
    exact List.mem_append_right _ List.mem_cons_self
  have kept := Ledger.postings_kept io (before.move io (.act (.start id (.send packet)))) back
    (ledger.observe io before (.act (.start id (.send packet))))
  rw [Ledger.ofRun_append]
  obtain ⟨sender, member, same⟩ := List.mem_map.mp (kept.subset there)
  have fields := Posting.mk.inj same
  exact ⟨sender, member, fields.1, fields.2.1, fields.2.2.1, counted ▸ fields.2.2.2.1⟩

/-- Whoever uses up a number in a run gets the next one. -/
theorem gets_of_consumes (io : Transport σ) (config : Config) (state : σ) {move : Move σ}
    (front back : List (Move σ)) :
    let opened := establish io config state
    let before := opened.run io front
    before.connection.sequence.next.toNat = (opened.consumers io front).length →
      before.Consumes move →
        Gets io config (Ledger.ofRun io opened (front ++ move :: back) {}) before
          before.connection.sequence.next move := by
  intro opened before fits consumes
  have version : before.connection.version = config.version :=
    Reachable.version ⟨state, front, rfl⟩
  cases move with
  | change change => cases consumes
  | act action =>
    cases action with
    | poll | cancel | setLifecycle | stopSequence => cases consumes
    | takeSequence =>
      have running : before.connection.sequence.stopped = false := by
        simpa [Consumes] using consumes
      exact .owner (by simp [reply?, step, Sequence.take, running])
    | start id call =>
      cases call with
      | sendAs | receive | close => cases consumes
      | send packet =>
        cases encoded : encodeFrame config.version packet before.connection.sequence.next with
        | error error =>
          refine .unsent encoded ?_
          simp only [Consumes, free, Bool.and_eq_true, Option.isNone_iff_eq_none,
            Bool.not_eq_true'] at consumes
          obtain ⟨⟨unused, unclosed⟩, running⟩ := consumes
          simp [reply?, step_start unused, Connection.register, unclosed, Sequence.take, running,
            Connection.registerFrame, version, encoded]
        | ok frame =>
          obtain ⟨sender, member, rfl, rfl, numbered, turn⟩ :=
            entered_of_consumes io config state front back consumes encoded
          have faithful : sender.Faithful config :=
            ((Ledger.Agrees.establish io config state).run _).faithful member
          have informed := Ledger.informs_ofRun io config state _ sender member
          refine .sender member (turn.trans (congrArg some fits.symm)) numbered
            faithful fun outcome ended => ?_
          have told := informed.told outcome ended
          rwa [Posting.MayHear, Posting.promise, turn, numbered] at told

/-- In every run that uses up fewer numbers than there are, the next number is at every time the
count of those used up before; and whoever is to use up a number, whenever and whatever becomes of
it afterwards, gets the count of those used up before it, so that nobody else gets the same. The
numbers that senders were given are these. No other move changes the next number. Once the source of
numbers was stopped, or the connection closed, no number is used up any more, and whoever asks for
one is refused. -/
theorem numbers_in_turn (io : Transport σ) (config : Config) (state : σ) (moves : List (Move σ))
    (few : ((establish io config state).consumers io moves).length < UInt32.size) :
    let opened := establish io config state
    let consumers := opened.consumers io moves
    let ledger := Ledger.ofRun io opened moves {}
    (∀ front, front <+: moves → (opened.run io front).connection.sequence.next.toNat =
        (opened.consumers io front).length) ∧
      (∀ turn before move, consumers[turn]? = some (before, move) → ∃ number : UInt32,
        number.toNat = turn ∧ before.Gets io config ledger number move) ∧
      (∀ sender ∈ ledger.senders, ∀ turn, sender.turn = some turn →
        sender.sequenceId.toNat = turn ∧ ∃ before,
          consumers[turn]? = some (before, .act (.start sender.id (.send sender.packet)))) ∧
      (∀ front move, front ++ [move] <+: moves → ¬(opened.run io front).Consumes move →
        (opened.run io (front ++ [move])).connection.sequence.next =
          (opened.run io front).connection.sequence.next) ∧
      ∀ front back, moves = front ++ back → opened.Happens io StoppedBy front →
        (opened.run io moves).connection.sequence.next =
            (opened.run io front).connection.sequence.next ∧
          ((opened.run io moves).step io .takeSequence).1 =
            .sequence (.error .sequenceStopped) := by
  intro opened consumers ledger
  have counted : ∀ front, front <+: moves →
      (opened.run io front).connection.sequence.next.toNat =
        (opened.consumers io front).length := by
    rintro front ⟨back, rfl⟩
    have total : (opened.consumers io (front ++ back)).length < UInt32.size := few
    have fits : (opened.consumers io front).length < UInt32.size := by
      rw [consumers_append, List.length_append] at total
      omega
    have first : opened.connection.sequence.next = 0 := rfl
    rw [next_run, first, UInt32.zero_add, UInt32.toNat_ofNat', Nat.mod_eq_of_lt fits]
  refine ⟨counted, fun turn before move there => ?_, fun sender member turn given => ?_,
    fun front move inside spares => ?_, fun front back split stopped => ?_⟩
  · obtain ⟨front, back, rfl, rfl, consumes, count⟩ := consumers_split there
    have fits := counted front (List.prefix_append ..)
    exact ⟨_, fits.trans count, gets_of_consumes io config state front back fits consumes⟩
  · have posting : sender.toPosting ∈ ledger.postings := List.mem_map_of_mem member
    obtain ⟨before, there⟩ := Ledger.turn_ofRun io opened moves _ posting turn given
    have early : turn < consumers.length := (List.getElem?_eq_some_iff.mp there).1
    have agrees : ledger.Agrees config (opened.run io moves) :=
      (Ledger.Agrees.establish io config state).run moves
    have numbered := (agrees.faithful member).numbered turn given
    refine ⟨?_, before, there⟩
    rw [numbered, UInt32.toNat_ofNat', Nat.mod_eq_of_lt (Nat.lt_trans early few)]
  · rw [run_append]
    exact (next_move _ io move).trans (if_neg spares)
  · have source := (stopped_run (coherent_establish io config state) front).mpr (.inr stopped)
    have later : (opened.run io moves).connection.sequence.stopped := by
      rw [split, run_append]
      exact (precedes_run _ io back).stopped source
    constructor
    · rw [split, run_append, next_run, consumers_stopped source, List.length_nil]
      exact UInt32.add_zero _
    · simp [step, Sequence.take, later]

/-- A message whose content does not fit into a frame. -/
def swollen : Packet := ⟨.deliver .third, 0, { msgContent := List.replicate 256 0 }⟩

/-- The owner takes a number, one sender has no frame, another is given up inside its frame, and a
response is sent under a number of its own. -/
def wasted : List (Move Script) :=
  [.act .takeSequence, .act (.start 1 (.send swollen)), .act (.start 2 (.send .probe)),
    .act (.cancel 2), .act (.start 3 (.sendAs .probe 9))]

/-- Then another request is sent, the connection is closed, and its owner asks for a number. -/
def wasteful : List (Move Script) :=
  wasted ++ [.act (.start 4 (.send .probe)), .act (.start 5 .close), .act .takeSequence]

/-- An endpoint on a stream that takes only five bytes. -/
def stinted : Endpoint Script :=
  establish Script.transport { version := .v30 } { writes := [.answer 5], writesWait := true }

/-- The last request gets the number three, and four numbers have been used up when the owner of the
closed connection asks for another one in vain. -/
theorem numbers_in_turn_wasteful :
    (∃ number : UInt32, number.toNat = 3 ∧
        (stinted.run Script.transport wasted).Gets Script.transport { version := .v30 }
          (.ofRun Script.transport stinted wasteful {}) number (.act (.start 4 (.send .probe)))) ∧
      (stinted.run Script.transport wasteful).connection.sequence.next.toNat = 4 ∧
      ((stinted.run Script.transport wasteful).step Script.transport .takeSequence).1 =
        .sequence (.error .sequenceStopped) := by
  have few : (stinted.consumers Script.transport wasteful).length < UInt32.size :=
    Nat.lt_of_le_of_lt (length_consumers_le ..) (by decide)
  have turns := numbers_in_turn Script.transport { version := .v30 } _ wasteful few
  rw [← stinted] at turns
  obtain ⟨counted, each, -, -, stops⟩ := turns
  have before : (stinted.consumers Script.transport wasted).length = 3 := by decide +kernel
  have total : (stinted.consumers Script.transport wasteful).length = 4 := by decide +kernel
  have consumes : (stinted.run Script.transport wasted).Consumes
      (.act (.start 4 (.send .probe))) := by decide +kernel
  have there : (stinted.consumers Script.transport wasteful)[
      (stinted.consumers Script.transport wasted).length]? =
        some (stinted.run Script.transport wasted, .act (.start 4 (.send .probe))) :=
    consumers_at _ consumes
  rw [before] at there
  refine ⟨each 3 _ _ there, (counted wasteful List.prefix_rfl).trans total, ?_⟩
  have closes : (stinted.run Script.transport (wasteful.take 6)).ClosedBy
      (.act (.start 5 .close)) := ⟨5, rfl, by decide +kernel⟩
  exact (stops (wasteful.take 7) (wasteful.drop 7) rfl
    ⟨wasteful.take 6, _, List.prefix_rfl, .inr closes⟩).2

end Endpoint

end Cmpp
