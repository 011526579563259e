import Cmpp.Proofs.Tenancy

/-!
# The tenants of a run

Each move is entered alike in the tenancy and on the roll of the receivers
(`Tenancy.Tallies.observe`), so they belong together in every state of a run. Hence the bytes that
the transport has delivered are those that the tenants have taken, one tenant after another in the
order in which they obtained the read lock, and those that the read buffer still holds
(`Tenancy.Tallies.delivered`).
-/

namespace Cmpp

variable {σ : Type} {io : Transport σ}

/-! ## One move -/

namespace Endpoint

variable {endpoint : Endpoint σ} {id : TaskId}

/-- A poll of a task that is not in the queue for the read lock leaves this queue as it is. -/
theorem readLock_settle (absent : id ∉ endpoint.connection.readLock.queue) (io : Transport σ)
    (task : Task) : (settle id (endpoint.advance io id task)).2.connection.readLock =
      endpoint.connection.readLock := by
  obtain ⟨readBuffer, writeBuffer, line, changed⟩ := advance_frame endpoint io id task
  rw [settle_snd, changed]
  split
  · exact Connection.readLock_forget absent
  · rfl

/-- A call that is not to receive leaves the queue for the read lock as it is. -/
theorem readLock_start {call : Call} (sound : endpoint.connection.Sound) (io : Transport σ)
    (free : endpoint.connection.task? id = none) (other : call ≠ .receive) :
    (endpoint.step io (.start id call)).2.connection.readLock = endpoint.connection.readLock := by
  have absent := (sound.not_queued free).2
  rw [step_start free]
  cases registered : endpoint.connection.register id call with
  | mk result next =>
    have same : next.readLock = endpoint.connection.readLock := by
      cases Connection.registers registered with
      | receiving => exact (other rfl).elim
      | _ => rfl
    rw [← same] at absent
    cases result with
    | error outcome => exact (Connection.readLock_forget absent).trans same
    | ok task =>
      let entered : Endpoint σ := { endpoint with connection := next.keep id task }
      have found : entered.connection.task? id = some task := Connection.task?_keep_self
      have still : (settle id (entered.advance io id task)).2.connection.readLock =
          entered.connection.readLock := readLock_settle absent io task
      show (entered.step io (.poll id)).2.connection.readLock = _
      rw [step_poll found]
      exact still.trans same

end Endpoint

namespace Tenancy.Tallies

variable {tenancy : Tenancy} {roll : Roll} {endpoint after : Endpoint σ} {id : TaskId}

/-- A poll of a receiver is entered alike in the tenancy and on the roll. -/
theorem poll {assembly : Assembly} {polled : Poll Outcome}
    (tallies : tenancy.Tallies roll endpoint.connection.readLock)
    (accounts : roll.Accounts endpoint) (sound : endpoint.connection.Sound)
    (found : endpoint.connection.task? id = some (.receiving assembly))
    (settled : Endpoint.settle id (endpoint.advance io id (.receiving assembly)) =
      (polled, after)) :
    ((tenancy.amend id (Entry.follow · (after.intake.drop endpoint.intake.length) polled)).handOver
        after.connection.readLock).Tallies
      (roll.follow id (endpoint.connection.readLock.isHeldBy id)
        (after.intake.drop endpoint.intake.length) polled) after.connection.readLock := by
  have inside := Roll.Accounts.queued sound found
  have distinct := sound.readers.distinct
  cases advanced : endpoint.advance io id (.receiving assembly) with
  | mk progress middle =>
    obtain ⟨gained, takes, -⟩ := accounts.advance found advanced
    have lock := takes.unchanged.2.1
    have taken : middle.intake.drop endpoint.intake.length = gained := by
      have grown : middle.intake = endpoint.intake ++ gained := by
        rw [Roll.Accounts.intake_eq takes.delivered, Roll.Accounts.intake_eq accounts.delivered,
          List.append_assoc]
      rw [grown, List.drop_left]
    rw [advanced] at settled
    cases progress with
    | finished outcome =>
      cases settled
      have same : Endpoint.intake { middle with connection := middle.connection.forget id } =
          middle.intake := rfl
      rw [same, taken, Connection.forget, lock]
      exact tallies.depart distinct inside takes.silent fun tenant => rfl
    | suspended woken left =>
      cases settled
      have same : Endpoint.intake { middle with connection := middle.connection.keep id left } =
          middle.intake := rfl
      have suspended := tallies.suspend distinct takes.silent woken
      rw [same, taken, Connection.keep, lock, suspended.handOver_eq distinct]
      exact suspended

/-- A call to receive is entered alike in the tenancy and on the roll. -/
theorem start (tallies : tenancy.Tallies roll endpoint.connection.readLock)
    (accounts : roll.Accounts endpoint) (sound : endpoint.connection.Sound)
    (free : endpoint.connection.task? id = none) :
    (tenancy.record endpoint (endpoint.step io (.start id .receive)).2 (.start id .receive)
        (endpoint.step io (.start id .receive)).1).Tallies
      (roll.record endpoint (endpoint.step io (.start id .receive)).2 (.start id .receive)
        (endpoint.step io (.start id .receive)).1)
      (endpoint.step io (.start id .receive)).2.connection.readLock := by
  have absent := (sound.not_queued free).2
  have started : endpoint.step io (.start id .receive) = _ := Endpoint.step_start free .receive
  rw [started]
  cases registered : endpoint.connection.register id .receive with
  | mk result next =>
    cases Connection.registers registered with
    | receiving opened =>
      let entered : Endpoint σ :=
        { endpoint with
          connection :=
            { endpoint.connection with
              readLock := endpoint.connection.readLock.join id }.keep id (.receiving .empty) }
      have accountsNext : (roll.call id).Accounts entered := accounts.enter sound free rfl
      have soundNext : entered.connection.Sound := sound.register free registered
      have talliesNext : (tenancy.enter endpoint.connection id).Tallies (roll.call id)
          entered.connection.readLock := by
        rw [enter, if_neg opened]
        exact tallies.join soundNext.readers.distinct accounts.idle
      have found : entered.connection.task? id = some (.receiving .empty) :=
        Connection.task?_keep_self
      have held : endpoint.connection.readLock.queue.isEmpty =
          entered.connection.readLock.isHeldBy id := by
        rw [Bool.eq_iff_iff, List.isEmpty_iff]
        exact (Lock.isHeldBy_join_self absent).symm
      have stepped : entered.step io (.poll id) = _ := Endpoint.step_poll found io
      cases settled : Endpoint.settle id (entered.advance io id (.receiving .empty)) with
      | mk polled after =>
        have followed := talliesNext.poll accountsNext soundNext found settled
        rw [← held] at followed
        simp only [entered] at stepped settled
        simp only [stepped, settled, record, Roll.record]
        exact followed
    | closed isClosed other =>
      have refused := tallies.refuse (.failed .connectionClosed) absent accounts.idle
      have same : Endpoint.intake { endpoint with connection := endpoint.connection.forget id } =
          endpoint.intake := rfl
      have lock := Connection.readLock_forget absent
      simp only [record, Roll.record, Roll.follow, same, List.drop_length, lock, enter,
        if_pos isClosed]
      rwa [refused.handOver_eq sound.readers.distinct]

/-- A call that is not to receive is not entered. -/
theorem record_start_other {call : Call} {before : Endpoint σ} (other : call ≠ .receive)
    (reply : Reply) : tenancy.record before after (.start id call) reply = tenancy := by
  cases call <;> cases reply <;> first | rfl | contradiction

/-- An action under a wrong name is entered nowhere. -/
theorem misnamed (tallies : tenancy.Tallies roll endpoint.connection.readLock) {action : Action}
    (same : endpoint.step io action = (.misnamed, endpoint)) :
    (tenancy.observe io endpoint (.act action)).Tallies (roll.observe io endpoint (.act action))
      (endpoint.move io (.act action)).connection.readLock := by
  simpa only [Tenancy.observe, Roll.observe, Endpoint.move, same, record, Roll.record] using tallies

/-- A move is entered alike in the tenancy and on the roll. -/
theorem observe (tallies : tenancy.Tallies roll endpoint.connection.readLock)
    (accounts : roll.Accounts endpoint) (sound : endpoint.connection.Sound) (move : Move σ) :
    (tenancy.observe io endpoint move).Tallies (roll.observe io endpoint move)
      (endpoint.move io move).connection.readLock := by
  have distinct := sound.readers.distinct
  cases move with
  | change change => exact tallies
  | act action =>
    cases action with
    | start id call =>
      cases free : endpoint.connection.task? id with
      | some task => exact tallies.misnamed (Endpoint.step_start_taken free call)
      | none =>
        by_cases receives : call = .receive
        · subst receives
          exact tallies.start accounts sound free
        · have same := Endpoint.readLock_start sound io free receives
          simp only [Tenancy.observe, Roll.observe, Endpoint.move, record_start_other receives,
            Roll.Accounts.record_start_other receives, same]
          exact tallies
    | poll id =>
      cases found : endpoint.connection.task? id with
      | none => exact tallies.misnamed (Endpoint.step_poll_free found)
      | some task =>
        simp only [Tenancy.observe, Roll.observe, Endpoint.move, Endpoint.step_poll found, record,
          Roll.record, found]
        cases task with
        | receiving assembly => exact tallies.poll accounts sound found rfl
        | sending | closing =>
          have absent : id ∉ endpoint.connection.readLock.queue :=
            Roll.Accounts.not_queued sound (by simp [found])
          rw [Endpoint.readLock_settle absent, tallies.amend_absent absent,
            tallies.handOver_eq distinct]
          exact tallies
    | cancel id =>
      cases found : endpoint.connection.task? id with
      | none => exact tallies.misnamed (Endpoint.step_cancel_free found)
      | some task =>
        simp only [Tenancy.observe, Roll.observe, Endpoint.move, Endpoint.step_cancel found, record,
          Roll.record, found]
        cases task with
        | receiving assembly =>
          have inside := Roll.Accounts.queued sound found
          exact tallies.depart distinct inside (fun _ => rfl) fun tenant => by
            rw [List.append_nil]
            rfl
        | sending | closing =>
          have absent : id ∉ endpoint.connection.readLock.queue :=
            Roll.Accounts.not_queued sound (by simp [found])
          rw [Endpoint.forgetting, Connection.readLock_forget absent, tallies.amend_absent absent,
            tallies.handOver_eq distinct]
          exact tallies
    | setLifecycle lifecycle =>
      simp only [Tenancy.observe, Roll.observe, Endpoint.move, Endpoint.step,
        Connection.setLifecycle, record, Roll.record]
      split <;> exact tallies
    | takeSequence | stopSequence => exact tallies

end Tenancy.Tallies

/-! ## Runs -/

namespace Tenancy

variable {tenancy : Tenancy} {roll : Roll} {endpoint : Endpoint σ}

/-- The tenants of one run and of the next are those of one run. -/
theorem ofRun_append (io : Transport σ) (endpoint : Endpoint σ) (front back : List (Move σ))
    (tenancy : Tenancy) :
    ofRun io endpoint (front ++ back) tenancy =
      ofRun io (endpoint.run io front) back (ofRun io endpoint front tenancy) := by
  induction front generalizing endpoint tenancy with
  | nil => rfl
  | cons move front ih => exact ih ..

/-- A run is entered alike in the tenancy and on the roll. -/
theorem Tallies.run (tallies : tenancy.Tallies roll endpoint.connection.readLock)
    (accounts : roll.Accounts endpoint) (sound : endpoint.connection.Sound)
    (moves : List (Move σ)) :
    (ofRun io endpoint moves tenancy).Tallies (Roll.ofRun io endpoint moves roll)
      (endpoint.run io moves).connection.readLock := by
  induction moves generalizing tenancy roll endpoint with
  | nil => exact tallies
  | cons move moves ih =>
    exact ih (tallies.observe accounts sound move) (accounts.observe sound move)
      (Endpoint.run_sound sound [move])

/-- The bytes that have been delivered are those that the tenants have taken which have obtained the
lock, and those that the read buffer holds. -/
theorem Tallies.delivered (tallies : tenancy.Tallies roll endpoint.connection.readLock)
    (accounts : roll.Accounts endpoint) :
    endpoint.line.delivered =
      tenancy.holders.flatMap (·.taken) ++ endpoint.connection.readBuffer.held := by
  obtain ⟨past, holders, -, taken⟩ := tallies.holders
  have last : (endpoint.connection.readLock.tenant roll.current).flatMap (·.taken) =
      roll.current := by
    unfold Lock.tenant
    split
    · rename_i empty
      rw [accounts.idle empty, List.flatMap_nil]
    · simp
  rw [accounts.delivered, holders, List.flatMap_append, taken, last]

/-- Every receiver that waits is a tenant, with the bytes that it has taken. -/
theorem Tallies.receiver (tallies : tenancy.Tallies roll endpoint.connection.readLock)
    (accounts : roll.Accounts endpoint) (sound : endpoint.connection.Sound) {id : TaskId}
    {assembly : Assembly} (found : endpoint.connection.task? id = some (.receiving assembly)) :
    ⟨id, assembly.bytes, none⟩ ∈ tenancy.holders ++ tenancy.others := by
  obtain ⟨-, bytes⟩ := accounts.receivers id assembly found
  have inside := Roll.Accounts.queued sound found
  by_cases held : endpoint.connection.readLock.isHeldBy id
  · obtain ⟨past, holders, -⟩ := tallies.holders
    have own : ⟨id, assembly.bytes, none⟩ ∈
        endpoint.connection.readLock.tenant roll.current := by
      rw [bytes, held, Lock.tenant_of_held held]
      exact List.mem_singleton.mpr rfl
    rw [holders]
    exact List.mem_append_left _ (List.mem_append_right _ own)
  · have behind : id ∈ endpoint.connection.readLock.queue.tail := by
      obtain ⟨holder, rest, split⟩ := List.exists_cons_of_ne_nil (List.ne_nil_of_mem inside)
      rw [split, List.tail_cons]
      rw [split] at inside
      refine (List.mem_cons.mp inside).resolve_left ?_
      rintro rfl
      exact held (Lock.isHeldBy_iff.mpr (by rw [split, List.head?_cons]))
    rw [← tallies.waiting] at behind
    obtain ⟨⟨name, taken, ending⟩, member, live, own⟩ := Roster.mem_waiting.mp behind
    obtain rfl : name = id := own
    obtain rfl : taken = [] := tallies.silent _ member
    obtain rfl : ending = none := Option.isNone_iff_eq_none.mp live
    rw [bytes, Bool.eq_false_iff.mpr held]
    exact List.mem_append_right _ member

end Tenancy

end Cmpp
