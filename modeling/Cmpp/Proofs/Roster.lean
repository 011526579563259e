import Cmpp.Connection.Lock
import Cmpp.Connection.Task

/-!
# Rosters

A roster lists tasks in an order that means something, and each of its entries tells how the task
has ended, once it has. What the entries hold besides differs from roster to roster, so all that is
asked of them is an `Entry`. A task may come up several times on a roster, since its name is free
for others after its end, but only once without an ending. So what is changed at a poll or when a
task is given up is the entry of its name that has no ending (`Roster.amend_present`).
-/

namespace Cmpp

/-- How a task ended. -/
inductive Ending
  /-- It came to an outcome. -/
  | returned (outcome : Outcome)
  /-- It was given up. -/
  | cancelled
  deriving DecidableEq

/-- Entries of a roster, which are about one task each. -/
class Entry (α : Type) where
  /-- The task. -/
  task : α → TaskId
  /-- How the task ended, once it has. -/
  ending : α → Option Ending
  /-- The entry of a task that has come by bytes. -/
  gain : α → Bytes → α
  /-- The entry of a task that has ended in some way, or not at all. -/
  finish : α → Option Ending → α

variable {α : Type} [Entry α]

namespace Entry

/-- Whether a task has not ended. -/
def live (entry : α) : Bool := (ending entry).isNone

/-- The entry of a task after a poll, with what came of it and the bytes that the task has come by
meanwhile. -/
def follow (entry : α) (gained : Bytes) (polled : Poll Outcome) : α :=
  finish (gain entry gained) <| match polled with
    | .ready outcome => some (.returned outcome)
    | .pending _ => none

/-- The entry of a task that was given up. -/
def giveUp (entry : α) : α := finish entry (some .cancelled)

end Entry

namespace Roster

/-- Change the entry of a task that has not ended, if there is one. -/
def amend (id : TaskId) (change : α → α) (entries : List α) : List α :=
  entries.map fun entry =>
    if Entry.live entry && Entry.task entry == id then change entry else entry

/-- The tasks that have not ended, in order. -/
def waiting (entries : List α) : List TaskId := (entries.filter (Entry.live ·)).map Entry.task

variable {entries front back : List α} {entry changed other : α} {id : TaskId} {change : α → α}

/-- A task is among those waiting when there is an entry of it without an ending. -/
theorem mem_waiting :
    id ∈ waiting entries ↔ ∃ entry ∈ entries, Entry.live entry ∧ Entry.task entry = id := by
  simp [waiting, and_assoc]

/-- The tasks waiting on two rosters, one after the other. -/
theorem waiting_append (front back : List α) :
    waiting (front ++ back) = waiting front ++ waiting back := by
  simp [waiting]

/-- A task waits as long as it has not ended. -/
theorem waiting_cons (entry : α) (back : List α) :
    waiting (entry :: back) =
      if Entry.live entry then Entry.task entry :: waiting back else waiting back := by
  unfold waiting
  split
  · rename_i live
    rw [List.filter_cons_of_pos live, List.map_cons]
  · rename_i ended
    rw [List.filter_cons_of_neg ended]

/-- Nobody waits on a roster where all have ended. -/
theorem waiting_eq_nil (dead : ∀ entry ∈ entries, ¬Entry.live entry) : waiting entries = [] := by
  rw [waiting, List.filter_eq_nil_iff.mpr dead, List.map_nil]

/-- The entry of a task that has not ended is changed. -/
theorem amend_singleton (live : Entry.live entry) (change : α → α) :
    amend (Entry.task entry) change [entry] = [change entry] := by
  simp [amend, live]

/-- Entries in two rosters are changed one by one. -/
theorem amend_append (front back : List α) :
    amend id change (front ++ back) = amend id change front ++ amend id change back :=
  List.map_append

/-- Nothing is changed where every entry that might be would stay the same. -/
theorem amend_same
    (same : ∀ entry ∈ entries, Entry.live entry → Entry.task entry = id → change entry = entry) :
    amend id change entries = entries := by
  refine (List.map_congr_left fun entry inside => ?_).trans (List.map_id' entries)
  split <;> rename_i own
  · rw [Bool.and_eq_true, beq_iff_eq] at own
    exact same entry inside own.1 own.2
  · rfl

/-- Nothing is changed for a task that is not among those waiting. -/
theorem amend_absent (change : α → α) (absent : id ∉ waiting entries) :
    amend id change entries = entries :=
  amend_same fun entry inside live own => (absent (mem_waiting.mpr ⟨entry, inside, live, own⟩)).elim

/-- A task that has ended waits no more. -/
theorem waiting_amend_ended (ended : ∀ entry, ¬Entry.live (change entry)) :
    waiting (amend id change entries) = (waiting entries).filter (· ≠ id) := by
  induction entries with
  | nil => rfl
  | cons entry entries ih =>
    rw [amend, List.map_cons, ← amend, waiting_cons, waiting_cons, ih]
    by_cases live : Entry.live entry
    · by_cases own : Entry.task entry = id
      · simp [live, own, ended]
      · simp [live, own]
    · simp [live]

omit [Entry α] in
/-- Nobody is told apart from the others by what is true of nobody. -/
theorem filter_none {some : α → Bool} (none : ∀ entry ∈ entries, ¬some entry) :
    entries.filter (some ·) = [] ∧ entries.filter (!some ·) = entries := by
  refine ⟨List.filter_eq_nil_iff.mpr none, List.filter_eq_self.mpr fun entry inside => ?_⟩
  rw [Bool.eq_false_iff.mpr (none entry inside)]
  rfl

/-- The first of those waiting told apart from the others. -/
theorem waiting_first {first : TaskId} {rest : List TaskId}
    (waits : waiting entries = first :: rest) (distinct : first ∉ rest) :
    (∃ entry ∈ entries, Entry.live entry ∧ Entry.task entry = first ∧
        entries.filter (fun other => Entry.live other && Entry.task other == first) = [entry]) ∧
      waiting (entries.filter fun other => !(Entry.live other && Entry.task other == first)) =
        rest := by
  induction entries with
  | nil => cases waits
  | cons entry entries ih =>
    rw [waiting_cons] at waits
    by_cases live : Entry.live entry
    · rw [if_pos live] at waits
      obtain ⟨rfl, rfl⟩ := List.cons.inj waits
      have none : ∀ other ∈ entries,
          ¬(Entry.live other && Entry.task other == Entry.task entry) := by
        intro other inside own
        rw [Bool.and_eq_true, beq_iff_eq] at own
        exact distinct (mem_waiting.mpr ⟨other, inside, own⟩)
      obtain ⟨nobody, everybody⟩ := filter_none none
      refine ⟨⟨entry, List.mem_cons_self, live, rfl, ?_⟩, ?_⟩
      · rw [List.filter_cons_of_pos (by simp [live]), nobody]
      · rw [List.filter_cons_of_neg (by simp [live]), everybody]
    · rw [if_neg live] at waits
      obtain ⟨⟨found, inside, foundLive, own, only⟩, others⟩ := ih waits
      refine ⟨⟨found, List.mem_cons_of_mem _ inside, foundLive, own, ?_⟩, ?_⟩
      · rw [List.filter_cons_of_neg (by simp [live]), only]
      · rw [List.filter_cons_of_pos (by simp [live]), waiting_cons, if_neg live, others]

/-! ## The entry of a task that has not ended -/

variable (live : Entry.live entry) (distinct : (waiting (front ++ entry :: back)).Nodup)

include live distinct

/-- There is no other of the same task that has not ended. -/
theorem absent_around : Entry.task entry ∉ waiting front ∧ Entry.task entry ∉ waiting back := by
  rw [waiting_append, waiting_cons, if_pos live] at distinct
  obtain ⟨-, tailDistinct, apart⟩ := List.nodup_append.mp distinct
  obtain ⟨missing, -⟩ := List.nodup_cons.mp tailDistinct
  exact ⟨fun inside => apart _ inside _ List.mem_cons_self rfl, missing⟩

/-- When it has been replaced, all others that have not ended are those of other tasks. -/
theorem mem_replaced (member : other ∈ front ++ changed :: back) :
    other = changed ∨ other ∈ front ++ entry :: back ∧
      (Entry.live other → Entry.task other ≠ Entry.task entry) := by
  obtain ⟨absent, missing⟩ := absent_around live distinct
  rcases List.mem_append.mp member with before | member
  · refine .inr ⟨List.mem_append_left _ before, fun stays same => absent ?_⟩
    exact mem_waiting.mpr ⟨other, before, stays, same⟩
  · rcases List.mem_cons.mp member with rfl | behind
    · exact .inl rfl
    · refine .inr ⟨by simp [behind], fun stays same => missing ?_⟩
      exact mem_waiting.mpr ⟨other, behind, stays, same⟩

/-- When it has been replaced, the task goes on waiting unless it has ended. -/
theorem waiting_replace (same : Entry.task changed = Entry.task entry) :
    waiting (front ++ changed :: back) =
      if Entry.live changed then waiting (front ++ entry :: back)
      else (waiting (front ++ entry :: back)).erase (Entry.task entry) := by
  obtain ⟨absent, -⟩ := absent_around live distinct
  simp only [waiting_append, waiting_cons, if_pos live, same]
  split
  · rfl
  · rw [List.erase_append_right _ absent, List.erase_cons_head]

/-- It is the only one that is changed. -/
theorem amend_present (change : α → α) :
    amend (Entry.task entry) change (front ++ entry :: back) = front ++ change entry :: back := by
  obtain ⟨absent, missing⟩ := absent_around live distinct
  rw [amend_append, amend_absent change absent, ← List.singleton_append, amend_append,
    amend_singleton live, amend_absent change missing, List.singleton_append]

end Roster

end Cmpp
