import Cmpp.Proofs.Recovery
import Cmpp.Proofs.Tenants

/-!
# How much a receiver takes

A receiver takes the total length of its frame first, then the command number, then the body, and
each only if what came before it was accepted. So how many bytes it has taken at most follows from
what has been accepted of them (`Bounded`), whether it still receives, was told of a frame or of an
error, or was given up (`Tenancy.Tallies.measured`).
-/

namespace Cmpp

variable {σ : Type}

/-! ## What has been accepted -/

/-- The total length at the front of some bytes is there and accepted. -/
def LengthAccepted (version : Version) (taken : Bytes) : Prop :=
  4 ≤ taken.length ∧ version.accepts (preambleOf taken).totalLength.toNat

/-- The command number behind an accepted total length is there and accepted too. -/
def CommandAccepted (version : Version) (taken : Bytes) : Prop :=
  LengthAccepted version taken ∧ 8 ≤ taken.length ∧
    Command.isValidId (preambleOf taken).commandId

/-- How many bytes have been taken of a frame at most, by what has been accepted of it. -/
structure Bounded (version : Version) (taken : Bytes) : Prop where
  /-- Nothing behind a total length that was not accepted. -/
  length : ¬LengthAccepted version taken → taken.length ≤ 4
  /-- Nothing behind a command number that was not accepted. -/
  command : ¬CommandAccepted version taken → taken.length ≤ 8
  /-- Never more than the accepted total length. -/
  frame : LengthAccepted version taken → taken.length ≤ (preambleOf taken).totalLength.toNat

/-- The word that a frame begins with is its total length. -/
theorem totalLength_preambleOf (totalLength : UInt32) (rest : Bytes) :
    (preambleOf (word totalLength ++ rest)).totalLength = totalLength := by
  have first : (word totalLength ++ rest).take 4 = word totalLength := by
    rw [← length_word totalLength, List.take_left]
  rw [preambleOf, first, ofWord_word]

namespace Bounded

variable {version : Version}

/-- Less than a word is within every bound. -/
theorem of_short {taken : Bytes} (short : taken.length < 4) : Bounded version taken where
  length _ := by omega
  command _ := by omega
  frame accepted := by
    have long := accepted.1
    omega

/-- A word is within the bounds, and so is what follows an accepted one up to the next. -/
theorem of_word {totalLength : UInt32} {rest : Bytes}
    (accepted : version.accepts totalLength.toNat ∨ rest = []) (short : rest.length ≤ 4) :
    Bounded version (word totalLength ++ rest) := by
  have read := totalLength_preambleOf totalLength rest
  have length : (word totalLength ++ rest).length = 4 + rest.length := by simp
  refine ⟨fun refused => ?_, fun _ => by omega, fun kept => ?_⟩
  · rcases accepted with accepts | none
    · exact (refused ⟨by omega, by rwa [read]⟩).elim
    · rw [length, none, List.length_nil]
  · have least := headerLength_le_of_accepts kept.2
    simp only [headerLength] at least
    omega

/-- An accepted preamble is within the bounds, and so is what follows it up to the end of the
frame. -/
theorem of_preamble {preamble : Preamble} {rest : Bytes}
    (accepted : version.accepts preamble.totalLength.toNat)
    (valid : Command.isValidId preamble.commandId) (short : rest.length ≤ preamble.bodyLength) :
    Bounded version (word preamble.totalLength ++ (word preamble.commandId ++ rest)) := by
  have read := (preambleOf_append preamble rest).1
  have length : (word preamble.totalLength ++ (word preamble.commandId ++ rest)).length =
      8 + rest.length := by simp; omega
  have least := headerLength_le_of_accepts accepted
  simp only [Preamble.bodyLength, preambleLength, headerLength] at short least
  have first : LengthAccepted version
      (word preamble.totalLength ++ (word preamble.commandId ++ rest)) :=
    ⟨by omega, by rwa [read]⟩
  refine ⟨fun refused => (refused first).elim, fun refused => ?_, fun _ => ?_⟩
  · exact (refused ⟨first, by omega, by rwa [read]⟩).elim
  · rw [read]
    omega

/-- A receiver inside its frame is within the bounds. -/
theorem of_checked {assembly : Assembly} (checked : assembly.Checked version) :
    Bounded version assembly.bytes := by
  cases assembly with
  | length got => exact of_short checked
  | command totalLength got => exact of_word (.inl checked.1) (Nat.le_of_lt checked.2)
  | body preamble got => exact of_preamble checked.1.1 checked.1.2 (Nat.le_of_lt checked.2)

/-- What bytes come to, they are within the bounds. -/
theorem of_comes {history : List Event} {earlier taken : Bytes}
    {result : Except Error (Preamble × Bytes)}
    (comes : Comes version history earlier taken result) : Bounded version taken := by
  cases comes with
  | whole accepted valid length => exact of_preamble accepted valid (Nat.le_of_eq length)
  | @invalidTotalLength totalLength refused =>
    rw [← List.append_nil (word totalLength)]
    exact of_word (.inr rfl) (Nat.zero_le 4)
  | @invalidCommand totalLength commandId accepted refused =>
    exact of_word (.inl accepted) (Nat.le_of_eq (length_word commandId))
  | truncated checked broken => exact of_checked checked
  | failed failure checked broken => exact of_checked checked

end Bounded

/-! ## Tenants -/

/-- Whether a receiver is told of a frame that has arrived whole: of its packet, or that there is no
packet in it. -/
def Outcome.TellsOfFrame : Outcome → Prop
  | .received _ | .failed (.format _) | .failed (.unsupportedCommand _) => True
  | _ => False

/-- A tenant has taken one whole frame if it is told of one, and is within the bounds anyhow. -/
structure Tenant.Measured (tenant : Tenant) (version : Version) : Prop where
  /-- Whoever is told of a frame has taken it, from its first byte to its last. -/
  whole : ∀ outcome, tenant.ending = some (.returned outcome) → outcome.TellsOfFrame →
    WellFramed version tenant.taken
  /-- Nobody has taken more than what it has accepted allows for. -/
  bounded : Bounded version tenant.taken

/-- What a receiver ends with is measured. -/
theorem Receipt.measured {endpoint : Endpoint σ} {earlier taken : Bytes} {id : TaskId}
    {ending : Ending} (receipt : Receipt endpoint earlier taken ending) :
    Tenant.Measured ⟨id, taken, some ending⟩ endpoint.connection.version := by
  cases receipt with
  | @returned _ result comes =>
    refine ⟨fun outcome ended tells => ?_, .of_comes comes⟩
    cases result with
    | ok arrived => exact comes.wellFramed.1
    | error error =>
      cases ended
      cases comes with
      | @truncated assembly => cases assembly <;> exact tells.elim
      | invalidTotalLength | invalidCommand | failed => exact tells.elim
  | closed checked isClosed =>
    refine ⟨fun outcome ended tells => ?_, .of_checked checked⟩
    cases ended
    exact tells.elim
  | cancelled checked => exact ⟨fun outcome ended => (by cases ended), .of_checked checked⟩

/-- Every receiver on the roll has a receipt. -/
theorem Receipts.mem {endpoint : Endpoint σ} {earlier : Bytes} {departures : List Departure}
    {departure : Departure} (receipts : Receipts endpoint earlier departures)
    (inside : departure ∈ departures) :
    ∃ before, Receipt endpoint before departure.taken departure.ending := by
  induction departures generalizing earlier with
  | nil => cases inside
  | cons first departures ih =>
    rcases List.mem_cons.mp inside with rfl | later
    · exact ⟨earlier, receipts.1⟩
    · exact ih receipts.2 later

/-- Every tenant is measured. -/
theorem Tenancy.Tallies.measured {tenancy : Tenancy} {roll : Roll} {endpoint : Endpoint σ}
    (tallies : tenancy.Tallies roll endpoint.connection.readLock)
    (accounts : roll.Accounts endpoint) (sound : endpoint.connection.Sound) {tenant : Tenant}
    (inside : tenant ∈ tenancy.holders ++ tenancy.others) :
    tenant.Measured endpoint.connection.version := by
  obtain ⟨id, taken, ending⟩ := tenant
  cases ending with
  | some ending =>
    obtain ⟨before, receipt⟩ := accounts.receipts.mem (tallies.ended _ inside ending rfl)
    exact receipt.measured
  | none =>
    refine ⟨fun outcome ended => (by cases ended), ?_⟩
    rcases List.mem_append.mp inside with obtained | waits
    · obtain ⟨held, own⟩ := tallies.holder_of_live obtained rfl
      obtain rfl : taken = roll.current := congrArg Tenant.taken own
      have first : id ∈ endpoint.connection.readLock.queue :=
        List.mem_of_mem_head? (Lock.isHeldBy_iff.mp held)
      obtain ⟨task, found, reads⟩ := (sound.readers.mem_iff id).mp first
      cases task with
      | sending | closing => exact (reads rfl).elim
      | receiving assembly =>
        obtain ⟨checked, bytes⟩ := accounts.receivers id assembly found
        have current : assembly.bytes = roll.current := bytes.trans (if_pos held)
        exact current ▸ .of_checked checked
    · obtain rfl : taken = [] := tallies.silent _ waits
      exact .of_short (Nat.zero_lt_succ 3)

end Cmpp
