import Cmpp.Proofs.Receivers

/-!
# Who obtains the read lock

Every receiver is a tenant: it may come to hold the read lock, and then it takes bytes until it
ends. The tenants of a run are kept in the order in which they obtained the lock, apart from those
that have not obtained it (`Tenancy`). Nobody but the holder takes bytes, and the lock is handed on
only when its holder has ended (`Tenancy.Tallies`). So the tenants that have obtained the lock are
those of which the roll of the receivers tells, and the holder behind them.
-/

namespace Cmpp

variable {σ : Type}

/-- A call to receive, with the bytes that it has taken. -/
structure Tenant where
  /-- The task that receives. -/
  id : TaskId
  /-- The bytes that it has taken. -/
  taken : Bytes := []
  /-- How it ended, once it has. -/
  ending : Option Ending := none

instance : Entry Tenant where
  task tenant := tenant.id
  ending := Tenant.ending
  gain tenant gained := { tenant with taken := tenant.taken ++ gained }
  finish tenant ending := { tenant with ending }

/-- The calls to receive of a run. -/
structure Tenancy where
  /-- Those that have obtained the read lock, in the order in which they did. -/
  holders : List Tenant := []
  /-- Those that have not, in the order of their first polls. -/
  others : List Tenant := []

namespace Tenancy

/-- Change the tenant that a task is. -/
def amend (tenancy : Tenancy) (id : TaskId) (change : Tenant → Tenant) : Tenancy :=
  ⟨Roster.amend id change tenancy.holders, Roster.amend id change tenancy.others⟩

/-- Enter who has obtained the read lock. -/
def handOver (tenancy : Tenancy) (lock : Lock) : Tenancy :=
  let obtains (tenant : Tenant) : Bool := Entry.live tenant && lock.isHeldBy tenant.id
  ⟨tenancy.holders ++ tenancy.others.filter (obtains ·), tenancy.others.filter (!obtains ·)⟩

/-- Enter a call to receive. -/
def call (tenancy : Tenancy) (id : TaskId) : Tenancy :=
  ⟨tenancy.holders, tenancy.others ++ [⟨id, [], none⟩]⟩

/-- Enter a call to receive, which joins the queue for the lock unless the connection is closed. -/
def enter (tenancy : Tenancy) (connection : Connection) (id : TaskId) : Tenancy :=
  if connection.closed then tenancy.call id
  else (tenancy.call id).handOver (connection.readLock.join id)

/-- Enter an action, given what it came to and the endpoint before and after it. -/
def record (tenancy : Tenancy) (before after : Endpoint σ) : Action → Reply → Tenancy
  | _, .misnamed => tenancy
  | .start id .receive, .polled polled =>
    ((tenancy.enter before.connection id).amend id
      (Entry.follow · (after.intake.drop before.intake.length) polled)).handOver
        after.connection.readLock
  | .poll id, .polled polled =>
    (tenancy.amend id (Entry.follow · (after.intake.drop before.intake.length) polled)).handOver
      after.connection.readLock
  | .cancel id, .done => (tenancy.amend id Entry.giveUp).handOver after.connection.readLock
  | _, _ => tenancy

/-- Enter a move. -/
def observe (io : Transport σ) (tenancy : Tenancy) (endpoint : Endpoint σ) : Move σ → Tenancy
  | .act action =>
    let (reply, after) := endpoint.step io action
    tenancy.record endpoint after action reply
  | .change _ => tenancy

/-- The calls to receive of a run. -/
def ofRun (io : Transport σ) : Endpoint σ → List (Move σ) → Tenancy → Tenancy
  | _, [], tenancy => tenancy
  | endpoint, move :: moves, tenancy =>
    ofRun io (endpoint.move io move) moves (tenancy.observe io endpoint move)

end Tenancy

/-! ## What the tenancy says -/

namespace Lock

/-- The tenant that holds a lock, if there is one, given the bytes that it has taken. -/
def tenant (lock : Lock) (taken : Bytes) : List Tenant :=
  match lock.queue with
  | [] => []
  | holder :: _ => [⟨holder, taken, none⟩]

variable {lock : Lock} {taken : Bytes} {id : TaskId}

/-- There is one if the lock is held. -/
theorem tenant_of_held (held : lock.isHeldBy id) (taken : Bytes) :
    lock.tenant taken = [⟨id, taken, none⟩] := by
  rw [tenant, queue_of_held held]

/-- There is none but the holder. -/
theorem mem_tenant {tenant : Tenant} (inside : tenant ∈ lock.tenant taken) :
    lock.isHeldBy tenant.id ∧ tenant = ⟨tenant.id, taken, none⟩ := by
  unfold Lock.tenant at inside
  split at inside
  · cases inside
  · rename_i holder others queue
    cases List.mem_singleton.mp inside
    exact ⟨isHeldBy_iff.mpr (by rw [queue, List.head?_cons]), rfl⟩

/-- It is the first in the queue. -/
theorem waiting_tenant : Roster.waiting (lock.tenant taken) = lock.queue.take 1 := by
  unfold tenant
  split <;> rename_i queue <;> rw [queue] <;> rfl

end Lock

/-- How the tenancy, the roll of the receivers and the queue for the read lock belong together. -/
structure Tenancy.Tallies (tenancy : Tenancy) (roll : Roll) (lock : Lock) : Prop where
  /-- Those that have obtained the lock before its holder have ended, with the bytes that the roll
  tells of. -/
  holders : ∃ past, tenancy.holders = past ++ lock.tenant roll.current ∧
    (∀ tenant ∈ past, ¬Entry.live tenant) ∧ past.flatMap (·.taken) = roll.taken
  /-- The others that have not ended are in the queue behind the holder. -/
  waiting : Roster.waiting tenancy.others = lock.queue.tail
  /-- The others have taken nothing. -/
  silent : ∀ tenant ∈ tenancy.others, tenant.taken = []
  /-- Who has ended is on the roll. -/
  ended : ∀ tenant ∈ tenancy.holders ++ tenancy.others, ∀ ending, tenant.ending = some ending →
    ⟨tenant.id, tenant.taken, ending⟩ ∈ roll.departures

namespace Tenancy.Tallies

variable {tenancy : Tenancy} {roll : Roll} {lock : Lock} {id : TaskId} {gained : Bytes}

/-- Nobody has received anything on a new connection. -/
theorem empty : Tallies {} {} {} where
  holders := ⟨[], rfl, by simp, rfl⟩
  waiting := rfl
  silent := by simp
  ended := by simp

/-- Of those that have obtained the lock, its holder alone has not ended. -/
theorem waiting_holders (tallies : tenancy.Tallies roll lock) :
    Roster.waiting tenancy.holders = lock.queue.take 1 := by
  obtain ⟨past, holders, dead, -⟩ := tallies.holders
  rw [holders, Roster.waiting_append, Roster.waiting_eq_nil dead, List.nil_append,
    Lock.waiting_tenant]

/-- Who has obtained the lock and has not ended is its holder. -/
theorem holder_of_live (tallies : tenancy.Tallies roll lock) {tenant : Tenant}
    (obtained : tenant ∈ tenancy.holders) (live : Entry.live tenant) :
    lock.isHeldBy tenant.id ∧ tenant = ⟨tenant.id, roll.current, none⟩ := by
  obtain ⟨past, holders, dead, -⟩ := tallies.holders
  rw [holders] at obtained
  rcases List.mem_append.mp obtained with old | last
  · exact (dead tenant old live).elim
  · exact Lock.mem_tenant last

/-- Nobody obtains the lock when its holder is entered already. -/
theorem handOver_eq (tallies : tenancy.Tallies roll lock) (distinct : lock.queue.Nodup) :
    tenancy.handOver lock = tenancy := by
  have none : ∀ tenant ∈ tenancy.others, ¬(Entry.live tenant && lock.isHeldBy tenant.id) := by
    intro tenant inside holds
    rw [Bool.and_eq_true] at holds
    have waits := Roster.mem_waiting.mpr ⟨tenant, inside, holds.1, rfl⟩
    rw [tallies.waiting] at waits
    rw [Lock.queue_of_held holds.2] at distinct waits
    exact (List.nodup_cons.mp distinct).1 waits
  obtain ⟨nobody, everybody⟩ := Roster.filter_none none
  rw [handOver, nobody, everybody, List.append_nil]

/-- A task that is not in the queue is that of no tenant that has not ended. -/
theorem amend_absent (tallies : tenancy.Tallies roll lock) (absent : id ∉ lock.queue)
    (change : Tenant → Tenant) : tenancy.amend id change = tenancy := by
  have behind : id ∉ Roster.waiting tenancy.others := by
    rw [tallies.waiting]
    exact fun inside => absent (List.mem_of_mem_tail inside)
  have before : id ∉ Roster.waiting tenancy.holders := by
    rw [tallies.waiting_holders]
    exact fun inside => absent (List.mem_of_mem_take inside)
  rw [amend, Roster.amend_absent _ before, Roster.amend_absent _ behind]

/-- When its holder has ended, the first in the queue obtains the lock. -/
theorem pass {past others : List Tenant} (dead : ∀ tenant ∈ past, ¬Entry.live tenant)
    (taken : past.flatMap (·.taken) = roll.taken) (current : roll.current = [])
    (waits : Roster.waiting others = lock.queue) (distinct : lock.queue.Nodup)
    (silent : ∀ tenant ∈ others, tenant.taken = [])
    (ended : ∀ tenant ∈ past ++ others, ∀ ending, tenant.ending = some ending →
      ⟨tenant.id, tenant.taken, ending⟩ ∈ roll.departures) :
    (handOver ⟨past, others⟩ lock).Tallies roll lock := by
  cases queue : lock.queue with
  | nil =>
    have none : ∀ tenant ∈ others, ¬(Entry.live tenant && lock.isHeldBy tenant.id) := by
      intro tenant inside holds
      rw [Bool.and_eq_true, Lock.isHeldBy_iff, queue] at holds
      cases holds.2
    obtain ⟨nobody, everybody⟩ := Roster.filter_none none
    rw [handOver, nobody, everybody, List.append_nil]
    refine ⟨⟨past, ?_, dead, taken⟩, ?_, silent, ended⟩
    · rw [Lock.tenant, queue, List.append_nil]
    · rw [waits, queue, List.tail_nil]
  | cons first rest =>
    rw [queue] at waits distinct
    have holds : ∀ tenant : Tenant, lock.isHeldBy tenant.id = (Entry.task tenant == first) := by
      intro tenant
      rw [Bool.eq_iff_iff, Lock.isHeldBy_iff, queue, List.head?_cons, Option.some_inj, beq_iff_eq]
      exact eq_comm
    obtain ⟨⟨tenant, inside, live, own, only⟩, behind⟩ :=
      Roster.waiting_first waits (List.nodup_cons.mp distinct).1
    have fresh : tenant = ⟨first, [], none⟩ := by
      obtain ⟨name, bytes, ending⟩ := tenant
      cases own
      cases silent _ inside
      cases ending with
      | none => rfl
      | some ending => cases live
    simp only [handOver, holds, only, fresh]
    refine ⟨⟨past, ?_, dead, taken⟩, ?_, fun other there => ?_, fun other there ending given => ?_⟩
    · rw [Lock.tenant, queue, current]
    · rw [behind, queue, List.tail_cons]
    · exact silent other (List.mem_filter.mp there).1
    · rcases List.mem_append.mp there with front | back
      · rcases List.mem_append.mp front with old | new
        · exact ended other (List.mem_append_left _ old) ending given
        · rw [List.mem_singleton.mp new] at given
          cases given
      · exact ended other (List.mem_append_right _ (List.mem_filter.mp back).1) ending given

/-- A receiver that joins the queue is entered behind all others, and has obtained the lock if
nobody was in the queue. -/
theorem join (tallies : tenancy.Tallies roll lock) (joined : (lock.join id).queue.Nodup)
    (idle : lock.queue = [] → roll.current = []) :
    ((tenancy.call id).handOver (lock.join id)).Tallies (roll.call id) (lock.join id) := by
  obtain ⟨past, holders, dead, taken⟩ := tallies.holders
  have silent : ∀ tenant ∈ (tenancy.call id).others, tenant.taken = [] := by
    intro tenant inside
    rcases List.mem_append.mp inside with old | new
    · exact tallies.silent tenant old
    · rw [List.mem_singleton.mp new]
  have ended : ∀ tenant ∈ tenancy.holders ++ (tenancy.call id).others, ∀ ending,
      tenant.ending = some ending → ⟨tenant.id, tenant.taken, ending⟩ ∈ roll.departures := by
    intro tenant inside ending given
    rw [call, ← List.append_assoc] at inside
    rcases List.mem_append.mp inside with old | new
    · exact tallies.ended tenant old ending given
    · rw [List.mem_singleton.mp new] at given
      cases given
  have waits : Roster.waiting (tenancy.call id).others = lock.queue.tail ++ [id] := by
    rw [call, Roster.waiting_append, tallies.waiting]
    rfl
  cases queue : lock.queue with
  | nil =>
    have nobody : tenancy.holders = past := by simpa [Lock.tenant, queue] using holders
    refine pass (nobody ▸ dead) ((congrArg (·.flatMap (·.taken)) nobody).trans taken) (idle queue)
      ?_ joined silent ended
    refine waits.trans ?_
    rw [Lock.join, queue, List.tail_nil]
  | cons holder behind =>
    have entered : (tenancy.call id).Tallies (roll.call id) (lock.join id) := by
      refine ⟨⟨past, ?_, dead, taken⟩, ?_, silent, ended⟩
      · simpa [Lock.tenant, Lock.join, queue, Roll.call, call] using holders
      · simpa [Lock.join, queue] using waits
    rwa [entered.handOver_eq joined]

/-- The tenant that holds the lock is the last of those that have obtained it. -/
theorem amend_holder (tallies : tenancy.Tallies roll lock) (distinct : lock.queue.Nodup)
    (held : lock.isHeldBy id) (change : Tenant → Tenant) :
    ∃ past, tenancy.holders = past ++ [⟨id, roll.current, none⟩] ∧
      tenancy.amend id change = ⟨past ++ [change ⟨id, roll.current, none⟩], tenancy.others⟩ ∧
      (∀ tenant ∈ past, ¬Entry.live tenant) ∧ past.flatMap (·.taken) = roll.taken := by
  obtain ⟨past, holders, dead, taken⟩ := tallies.holders
  rw [Lock.tenant_of_held held] at holders
  have before : id ∉ Roster.waiting past := by
    rw [Roster.waiting_eq_nil dead]
    exact List.not_mem_nil
  have behind : id ∉ Roster.waiting tenancy.others := by
    rw [tallies.waiting]
    rw [Lock.queue_of_held held] at distinct ⊢
    exact (List.nodup_cons.mp distinct).1
  have own : Roster.amend id change [⟨id, roll.current, none⟩] =
      [change ⟨id, roll.current, none⟩] := Roster.amend_singleton rfl change
  refine ⟨past, holders, ?_, dead, taken⟩
  rw [amend, holders, Roster.amend_append, Roster.amend_absent _ before, own,
    Roster.amend_absent _ behind]

/-- A receiver that has to wait takes bytes if it holds the lock. -/
theorem suspend (tallies : tenancy.Tallies roll lock) (distinct : lock.queue.Nodup)
    (unheld : ¬lock.isHeldBy id → gained = []) (woken : Bool) :
    (tenancy.amend id (Entry.follow · gained (.pending woken))).Tallies
      { roll with current := roll.current ++ gained } lock := by
  by_cases held : lock.isHeldBy id
  · obtain ⟨past, holders, amended, dead, taken⟩ :=
      tallies.amend_holder distinct held (Entry.follow · gained (.pending woken))
    rw [amended]
    refine ⟨⟨past, ?_, dead, taken⟩, tallies.waiting, tallies.silent,
      fun tenant inside ending given => ?_⟩
    · rw [Lock.tenant_of_held held]
      rfl
    · have old : tenant ∈ tenancy.holders ++ tenancy.others := by
        rw [holders]
        simp only [List.mem_append, List.mem_singleton] at inside ⊢
        refine inside.imp_left (Or.imp_right ?_)
        rintro rfl
        cases given
      exact tallies.ended tenant old ending given
  · rw [unheld held, List.append_nil]
    have same : ∀ tenant : Tenant, Entry.live tenant →
        Entry.follow tenant [] (.pending woken) = tenant := by
      rintro ⟨name, bytes, ending⟩ live
      cases ending with
      | none => exact congrArg (Tenant.mk name · none) (List.append_nil bytes)
      | some ending => cases live
    rwa [amend, Roster.amend_same fun tenant _ live _ => same tenant live,
      Roster.amend_same fun tenant _ live _ => same tenant live]

/-- When a tenant ends that holds the lock, the next one obtains it. -/
theorem depart_held {ending : Ending} {change : Tenant → Tenant}
    (tallies : tenancy.Tallies roll lock) (distinct : lock.queue.Nodup) (held : lock.isHeldBy id)
    (ends : ∀ tenant, change tenant = ⟨tenant.id, tenant.taken ++ gained, some ending⟩) :
    ((tenancy.amend id change).handOver (lock.leave id)).Tallies
      (roll.depart id true gained ending) (lock.leave id) := by
  obtain ⟨past, holders, amended, dead, taken⟩ := tallies.amend_holder distinct held change
  rw [amended, ends]
  refine pass ?_ ?_ rfl ?_ (distinct.erase id) tallies.silent fun tenant there result given => ?_
  · intro tenant there
    rcases List.mem_append.mp there with old | new
    · exact dead tenant old
    · rw [List.mem_singleton.mp new]
      exact Bool.false_ne_true
  · rw [Roll.taken_depart, List.flatMap_append, taken]
    simp [Roll.share]
  · rw [tallies.waiting, Lock.queue_of_held held, Lock.leave, Lock.queue_of_held held,
      List.erase_cons_head]
    rfl
  · rcases List.mem_append.mp there with front | back
    · rcases List.mem_append.mp front with old | new
      · have before : tenant ∈ tenancy.holders ++ tenancy.others := by simp [holders, old]
        exact List.mem_append_left _ (tallies.ended tenant before result given)
      · obtain rfl := List.mem_singleton.mp new
        cases given
        exact List.mem_append_right _ List.mem_cons_self
    · have before := List.mem_append_right tenancy.holders back
      exact List.mem_append_left _ (tallies.ended tenant before result given)

/-- When a tenant ends that has not obtained the lock, it has taken nothing, and its holder stays
what it is. -/
theorem depart_waiting {ending : Ending} {change : Tenant → Tenant}
    (tallies : tenancy.Tallies roll lock) (distinct : lock.queue.Nodup) (inside : id ∈ lock.queue)
    (unheld : ¬lock.isHeldBy id)
    (ends : ∀ tenant, change tenant = ⟨tenant.id, tenant.taken, some ending⟩) :
    ((tenancy.amend id change).handOver (lock.leave id)).Tallies
      (roll.depart id false [] ending) (lock.leave id) := by
  obtain ⟨past, holders, dead, taken⟩ := tallies.holders
  obtain ⟨holder, behind, queue⟩ := List.exists_cons_of_ne_nil (List.ne_nil_of_mem inside)
  have other : holder ≠ id := by
    rintro rfl
    exact unheld (Lock.isHeldBy_iff.mpr (by rw [queue, List.head?_cons]))
  have shorter : (lock.leave id).queue = holder :: behind.erase id := by
    rw [Lock.leave, queue, List.erase_cons_tail (by simpa using other)]
  have absent : id ∉ Roster.waiting tenancy.holders := by
    rw [tallies.waiting_holders, queue]
    exact fun first => other (List.mem_singleton.mp first).symm
  have amended : tenancy.amend id change =
      ⟨tenancy.holders, Roster.amend id change tenancy.others⟩ := by
    rw [amend, Roster.amend_absent _ absent]
  have changed : ∀ tenant ∈ Roster.amend id change tenancy.others,
      tenant ∈ tenancy.others ∨ tenant = ⟨id, [], some ending⟩ := by
    intro tenant there
    obtain ⟨earlier, member, rfl⟩ := List.mem_map.mp there
    split <;> rename_i own
    · rw [Bool.and_eq_true, beq_iff_eq] at own
      obtain rfl : earlier.id = id := own.2
      exact .inr (by rw [ends, tallies.silent earlier member])
    · exact .inl member
  have left : (tenancy.amend id change).Tallies (roll.depart id false [] ending)
      (lock.leave id) := by
    rw [amended]
    refine ⟨⟨past, ?_, dead, ?_⟩, ?_, fun tenant there => ?_, fun tenant there result given => ?_⟩
    · rw [Lock.tenant, shorter]
      rw [Lock.tenant, queue] at holders
      exact holders
    · simp [taken, Roll.share]
    · have distinctBehind : behind.Nodup := (List.nodup_cons.mp (queue ▸ distinct)).2
      rw [Roster.waiting_amend_ended (by simp [ends, Entry.live]), tallies.waiting, shorter, queue,
        List.tail_cons, List.tail_cons, distinctBehind.erase_eq_filter]
      exact List.filter_congr fun other _ => Bool.eq_iff_iff.mpr (by simp)
    · rcases changed tenant there with old | rfl
      · exact tallies.silent tenant old
      · rfl
    · rcases List.mem_append.mp there with old | there
      · have before := List.mem_append_left tenancy.others old
        exact List.mem_append_left _ (tallies.ended tenant before result given)
      · rcases changed tenant there with old | rfl
        · have before := List.mem_append_right tenancy.holders old
          exact List.mem_append_left _ (tallies.ended tenant before result given)
        · cases given
          simp [Roll.depart, Roll.share]
  rwa [left.handOver_eq (distinct.erase id)]

/-- When a tenant ends, it is on the roll, and the next one obtains the lock if it held it. -/
theorem depart {ending : Ending} {change : Tenant → Tenant}
    (tallies : tenancy.Tallies roll lock) (distinct : lock.queue.Nodup) (inside : id ∈ lock.queue)
    (unheld : ¬lock.isHeldBy id → gained = [])
    (ends : ∀ tenant, change tenant = ⟨tenant.id, tenant.taken ++ gained, some ending⟩) :
    ((tenancy.amend id change).handOver (lock.leave id)).Tallies
      (roll.depart id (lock.isHeldBy id) gained ending) (lock.leave id) := by
  by_cases held : lock.isHeldBy id
  · rw [held]
    exact tallies.depart_held distinct held ends
  · simp only [unheld held, List.append_nil] at ends
    rw [Bool.eq_false_iff.mpr held, unheld held]
    exact tallies.depart_waiting distinct inside held ends

/-- A call on a closed connection ends at once, without having obtained the lock. -/
theorem refuse (tallies : tenancy.Tallies roll lock) (outcome : Outcome) (absent : id ∉ lock.queue)
    (idle : lock.queue = [] → roll.current = []) :
    ((tenancy.call id).amend id (Entry.follow · [] (.ready outcome))).Tallies
      ((roll.call id).depart id lock.queue.isEmpty [] (.returned outcome)) lock := by
  have share : (roll.call id).share lock.queue.isEmpty = [] := by
    cases queue : lock.queue with
    | nil => exact idle queue
    | cons => rfl
  have current : ((roll.call id).depart id lock.queue.isEmpty [] (.returned outcome)).current =
      roll.current := by
    cases queue : lock.queue with
    | nil => exact (idle queue).symm
    | cons => rfl
  have same := tallies.amend_absent absent (Entry.follow · [] (.ready outcome))
  have own : Roster.amend id (Entry.follow · [] (.ready outcome)) [(⟨id, [], none⟩ : Tenant)] =
      [⟨id, [], some (.returned outcome)⟩] :=
    Roster.amend_singleton rfl (Entry.follow · [] (.ready outcome))
  have added : (tenancy.call id).amend id (Entry.follow · [] (.ready outcome)) =
      ⟨tenancy.holders, tenancy.others ++ [⟨id, [], some (.returned outcome)⟩]⟩ := by
    rw [amend, Tenancy.mk.injEq] at same
    rw [amend, call, Roster.amend_append, same.1, same.2, own]
  obtain ⟨past, holders, dead, taken⟩ := tallies.holders
  rw [added]
  refine ⟨⟨past, ?_, dead, ?_⟩, ?_, fun tenant there => ?_, fun tenant there ending given => ?_⟩
  · rw [current]
    exact holders
  · rw [Roll.taken_depart, share, List.append_nil, List.append_nil]
    exact taken
  · rw [Roster.waiting_append, tallies.waiting]
    exact List.append_nil _
  · rcases List.mem_append.mp there with old | new
    · exact tallies.silent tenant old
    · rw [List.mem_singleton.mp new]
  · rw [← List.append_assoc] at there
    rcases List.mem_append.mp there with old | new
    · exact List.mem_append_left _ (tallies.ended tenant old ending given)
    · obtain rfl := List.mem_singleton.mp new
      cases given
      rw [Roll.depart, share]
      exact List.mem_append_right _ List.mem_cons_self

end Tenancy.Tallies

end Cmpp
