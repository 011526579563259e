import Cmpp.Proofs.Portions

/-!
# Who has the bytes that were delivered

A tenancy grows in the course of a run: whoever has obtained the read lock keeps its place, whoever
has ended keeps its bytes, and others obtain the lock only behind (`Tenancy.Grows`). So what the
tenants have taken is the front of what they have taken later, and the bytes that the transport
delivers in between go to those that had not ended (`Endpoint.delivered_to_tenants`).
-/

namespace Cmpp

variable {σ : Type} {io : Transport σ}

/-- What may become of a tenant: it takes further bytes, unless it has ended. -/
structure Tenant.Becomes (tenant later : Tenant) : Prop where
  /-- It is the same task. -/
  same : later.id = tenant.id
  /-- It gives nothing back. -/
  keeps : tenant.taken <+: later.taken
  /-- Once it has ended it stays as it is. -/
  ended : ¬Entry.live tenant → later = tenant

/-- What may become of several tenants: others come behind them. -/
def Tenant.Become (tenants later : List Tenant) : Prop :=
  ∀ (turn : Nat) (tenant : Tenant), tenants[turn]? = some tenant →
    ∃ after, later[turn]? = some after ∧ tenant.Becomes after

namespace Tenant

variable {tenants later : List Tenant} {id : TaskId} {change : Tenant → Tenant}

/-- A tenant may stay as it is. -/
theorem Becomes.refl (tenant : Tenant) : tenant.Becomes tenant :=
  ⟨rfl, List.prefix_rfl, fun _ => rfl⟩

/-- What may become of what may become of a tenant. -/
theorem Becomes.trans {first second third : Tenant} (before : first.Becomes second)
    (after : second.Becomes third) : first.Becomes third where
  same := after.same.trans before.same
  keeps := before.keeps.trans after.keeps
  ended dead := by
    have unmoved := before.ended dead
    exact (after.ended (unmoved ▸ dead)).trans unmoved

/-- A tenant is changed only as long as it has not ended. -/
theorem becomes_amended
    (grows : ∀ tenant : Tenant, Entry.live tenant → tenant.Becomes (change tenant)) (id : TaskId)
    (tenant : Tenant) : tenant.Becomes
      (if Entry.live tenant && Entry.task tenant == id then change tenant else tenant) := by
  split <;> rename_i own
  · exact grows tenant (Bool.and_eq_true_iff.mp own).1
  · exact .refl tenant

/-- A tenant that is polled may take bytes. -/
theorem becomes_follow (gained : Bytes) (polled : Poll Outcome) (tenant : Tenant)
    (live : Entry.live tenant) : tenant.Becomes (Entry.follow tenant gained polled) :=
  ⟨rfl, List.prefix_append .., fun dead => (dead live).elim⟩

/-- Tenants of which only the last has not ended take further bytes behind those that they have
taken. -/
theorem taken_prefix {past last : List Tenant} (dead : ∀ tenant ∈ past, ¬Entry.live tenant)
    (alone : last.length ≤ 1) (become : Become (past ++ last) later) :
    (past ++ last).flatMap (·.taken) <+: later.flatMap (·.taken) := by
  induction past generalizing later with
  | nil =>
    match last with
    | [] => exact List.nil_prefix
    | [tenant] =>
      obtain ⟨after, there, becomes⟩ := become 0 tenant rfl
      cases later with
      | nil => cases there
      | cons first behind =>
        cases there
        simpa using becomes.keeps.trans (List.prefix_append ..)
    | _ :: _ :: _ => simp at alone
  | cons tenant past ih =>
    obtain ⟨after, there, becomes⟩ := become 0 tenant rfl
    cases later with
    | nil => cases there
    | cons first behind =>
      cases there
      have unmoved := becomes.ended (dead tenant List.mem_cons_self)
      rw [List.cons_append, List.flatMap_cons, List.flatMap_cons, unmoved]
      exact (List.prefix_append_right_inj _).mpr
        (ih (fun inner inside => dead inner (List.mem_cons_of_mem _ inside))
          fun turn => become (turn + 1))

end Tenant

/-- What a tenancy may grow into. -/
structure Tenancy.Grows (tenancy later : Tenancy) : Prop where
  /-- Others obtain the lock only behind those that have obtained it. -/
  holders : Tenant.Become tenancy.holders later.holders
  /-- No tenant is lost. -/
  tenants : ∀ tenant ∈ tenancy.holders ++ tenancy.others,
    ∃ after ∈ later.holders ++ later.others, tenant.Becomes after

namespace Tenancy.Grows

variable {tenancy middle later : Tenancy} {id : TaskId}

/-- A tenancy may stay as it is. -/
theorem refl (tenancy : Tenancy) : tenancy.Grows tenancy where
  holders _ tenant there := ⟨tenant, there, .refl tenant⟩
  tenants tenant inside := ⟨tenant, inside, .refl tenant⟩

/-- What may grow out of what may grow out of a tenancy. -/
theorem trans (first : tenancy.Grows middle) (second : middle.Grows later) :
    tenancy.Grows later where
  holders turn tenant there := by
    obtain ⟨between, found, becomes⟩ := first.holders turn tenant there
    obtain ⟨after, last, further⟩ := second.holders turn between found
    exact ⟨after, last, becomes.trans further⟩
  tenants tenant inside := by
    obtain ⟨between, found, becomes⟩ := first.tenants tenant inside
    obtain ⟨after, last, further⟩ := second.tenants between found
    exact ⟨after, last, becomes.trans further⟩

/-- A tenancy grows when a tenant is changed that has not ended. -/
theorem amend {change : Tenant → Tenant}
    (grows : ∀ tenant : Tenant, Entry.live tenant → tenant.Becomes (change tenant)) :
    tenancy.Grows (tenancy.amend id change) where
  holders turn tenant there := by
    refine ⟨_, ?_, Tenant.becomes_amended grows id tenant⟩
    rw [Tenancy.amend, Roster.amend, List.getElem?_map, there, Option.map_some]
  tenants tenant inside := by
    refine ⟨_, ?_, Tenant.becomes_amended grows id tenant⟩
    rw [Tenancy.amend, ← Roster.amend_append]
    exact List.mem_map_of_mem inside

/-- A tenancy grows when the lock is obtained. -/
theorem handOver (lock : Lock) : tenancy.Grows (tenancy.handOver lock) where
  holders turn tenant there := by
    refine ⟨tenant, ?_, .refl tenant⟩
    rw [Tenancy.handOver, List.getElem?_append_left (List.getElem?_eq_some_iff.mp there).1, there]
  tenants tenant inside := by
    refine ⟨tenant, ?_, .refl tenant⟩
    rcases List.mem_append.mp inside with old | waits
    · exact List.mem_append_left _ (List.mem_append_left _ old)
    · by_cases obtains : Entry.live tenant && lock.isHeldBy tenant.id
      · refine List.mem_append_left _ (List.mem_append_right _ (List.mem_filter.mpr ⟨waits, ?_⟩))
        exact obtains
      · refine List.mem_append_right _ (List.mem_filter.mpr ⟨waits, ?_⟩)
        show (!(Entry.live tenant && lock.isHeldBy tenant.id)) = true
        rw [Bool.eq_false_iff.mpr obtains]
        rfl

/-- A tenancy grows when a call is entered. -/
theorem call (id : TaskId) : tenancy.Grows (tenancy.call id) where
  holders _ tenant there := ⟨tenant, there, .refl tenant⟩
  tenants tenant inside := by
    refine ⟨tenant, ?_, .refl tenant⟩
    rw [Tenancy.call, ← List.append_assoc]
    exact List.mem_append_left _ inside

/-- A tenancy grows with every action. -/
theorem record (before after : Endpoint σ) (action : Action) (reply : Reply) :
    tenancy.Grows (tenancy.record before after action reply) := by
  unfold Tenancy.record
  split
  · exact .refl _
  · refine trans ?_ ((amend (Tenant.becomes_follow _ _)).trans (handOver _))
    unfold Tenancy.enter
    split
    · exact call _
    · exact (call _).trans (handOver _)
  · exact (amend (Tenant.becomes_follow _ _)).trans (handOver _)
  · refine trans (amend fun tenant live => ?_) (handOver _)
    exact ⟨rfl, List.prefix_rfl, fun dead => (dead live).elim⟩
  · exact .refl _

/-- A tenancy grows with every move of a run. -/
theorem ofRun (io : Transport σ) (endpoint : Endpoint σ) (moves : List (Move σ))
    (tenancy : Tenancy) : tenancy.Grows (Tenancy.ofRun io endpoint moves tenancy) := by
  induction moves generalizing endpoint tenancy with
  | nil => exact .refl tenancy
  | cons move moves ih =>
    refine trans ?_ (ih (endpoint.move io move) (tenancy.observe io endpoint move))
    cases move with
    | act action => exact record ..
    | change change => exact .refl tenancy

end Tenancy.Grows

namespace Tenancy

variable {tenancy : Tenancy} {roll : Roll} {endpoint : Endpoint σ}

/-- What the tenants have taken that have obtained the lock is the front of what such tenants have
taken later. -/
theorem Tallies.taken_prefix {later : Tenancy}
    (tallies : tenancy.Tallies roll endpoint.connection.readLock) (grows : tenancy.Grows later) :
    tenancy.holders.flatMap (·.taken) <+: later.holders.flatMap (·.taken) := by
  obtain ⟨past, holders, dead, -⟩ := tallies.holders
  have alone : (endpoint.connection.readLock.tenant roll.current).length ≤ 1 := by
    unfold Lock.tenant
    split <;> simp
  have become := grows.holders
  rw [holders] at become ⊢
  exact Tenant.taken_prefix dead alone become

end Tenancy

/-- In every state of every run, the bytes that the transport has delivered are, in order, those
that the receivers have taken, one after another in the order in which they obtained the read lock,
and those that the read buffer holds. A receiver that has not obtained the lock has taken nothing,
one that is told of a frame has taken this frame, and none has taken more than what it has accepted
of its frame allows for. Later, whoever has ended has the same bytes as before, and all others go on
with the bytes that were held and with those that have been delivered since. -/
theorem Endpoint.delivered_to_tenants (io : Transport σ) (config : Config) (state : σ)
    (moves : List (Move σ)) :
    let opened := Endpoint.establish io config state
    let endpoint := opened.run io moves
    let tenancy := Tenancy.ofRun io opened moves {}
    endpoint.line.delivered =
        tenancy.holders.flatMap (·.taken) ++ endpoint.connection.readBuffer.held ∧
      (∀ tenant ∈ tenancy.others, tenant.taken = []) ∧
      (∀ tenant ∈ tenancy.holders ++ tenancy.others, tenant.Measured config.version) ∧
      (∀ id assembly, endpoint.connection.task? id = some (.receiving assembly) →
        ⟨id, assembly.bytes, none⟩ ∈ tenancy.holders ++ tenancy.others) ∧
      ∀ more,
        let after := opened.run io (moves ++ more)
        let later := Tenancy.ofRun io opened (moves ++ more) {}
        tenancy.Grows later ∧ ∃ delivered taken,
          after.line.delivered = endpoint.line.delivered ++ delivered ∧
            later.holders.flatMap (·.taken) = tenancy.holders.flatMap (·.taken) ++ taken ∧
            endpoint.connection.readBuffer.held ++ delivered =
              taken ++ after.connection.readBuffer.held := by
  intro opened endpoint tenancy
  have always : ∀ moves : List (Move σ),
      (Roll.ofRun io opened moves {}).Accounts (opened.run io moves) ∧
      (Tenancy.ofRun io opened moves {}).Tallies (Roll.ofRun io opened moves {})
        (opened.run io moves).connection.readLock := by
    intro moves
    have begun := Roll.Accounts.establish io config state
    have sound : opened.connection.Sound := Connection.sound_ofConfig ..
    exact ⟨begun.run sound moves, Tenancy.Tallies.empty.run begun sound moves⟩
  obtain ⟨accounts, tallies⟩ := always moves
  have reachable : endpoint.Reachable io config := ⟨state, moves, rfl⟩
  have delivered := tallies.delivered accounts
  refine ⟨delivered, tallies.silent, fun tenant inside => ?_,
    fun id assembly found => tallies.receiver accounts reachable.sound found, fun more => ?_⟩
  · exact reachable.version ▸ tallies.measured accounts reachable.sound inside
  · intro after later
    obtain ⟨accountsAfter, talliesAfter⟩ := always (moves ++ more)
    have deliveredAfter : after.line.delivered = later.holders.flatMap (·.taken) ++
        after.connection.readBuffer.held := talliesAfter.delivered accountsAfter
    have grows : tenancy.Grows later := by
      have grown := Tenancy.Grows.ofRun io endpoint more tenancy
      rwa [← Tenancy.ofRun_append] at grown
    have history : endpoint.line.history <+: after.line.history := by
      have grown := Endpoint.run_history_prefix reachable.unfinished io more
      rwa [← Endpoint.run_append] at grown
    obtain ⟨events, joined⟩ := history
    obtain ⟨taken, further⟩ := tallies.taken_prefix grows
    have since : after.line.delivered =
        endpoint.line.delivered ++ events.flatMap Event.delivered := by
      rw [Line.delivered, Line.delivered, ← joined, List.flatMap_append]
    have held : endpoint.connection.readBuffer.held ++ events.flatMap Event.delivered =
        taken ++ after.connection.readBuffer.held := by
      apply List.append_cancel_left
      calc tenancy.holders.flatMap (·.taken) ++
            (endpoint.connection.readBuffer.held ++ events.flatMap Event.delivered)
          = after.line.delivered := by rw [since, delivered, List.append_assoc]
        _ = tenancy.holders.flatMap (·.taken) ++ (taken ++ after.connection.readBuffer.held) := by
          rw [deliveredAfter, ← further, List.append_assoc]
    exact ⟨grows, events.flatMap Event.delivered, taken, since, further.symm, held⟩

end Cmpp
