import Cmpp.Proofs.Turns

/-!
# Two runs compared

Some moves of a run are left out, and some of those that are kept are watched. When two endpoints
are alike in what matters, when a move that is left out changes nothing of that, and when a move
that is kept leaves them alike and comes to the same at both as far as it is watched, then the run
and what is left of it come to the same (`Endpoint.Shadows.run`). So whoever compares two runs looks
at single moves only.
-/

namespace Cmpp

variable {σ : Type} {io : Transport σ}

namespace Endpoint

/-- What a move comes to, if it is an action. -/
def reply? (io : Transport σ) (endpoint : Endpoint σ) : Move σ → Option Reply
  | .act action => some (endpoint.step io action).1
  | .change _ => none

/-- What the moves of a run come to that are watched, one after another. -/
def replies (io : Transport σ) (watched : Move σ → Bool) :
    Endpoint σ → List (Move σ) → List (Option Reply)
  | _, [] => []
  | endpoint, move :: moves =>
    let later := replies io watched (endpoint.move io move) moves
    if watched move then endpoint.reply? io move :: later else later

/-- What is left of a run goes on like the run itself: two endpoints that are alike stay so, and
come to the same as far as they are watched, when both make the allowed moves that are kept and only
the first one makes those that are left out. -/
structure Shadows (io : Transport σ) (allowed : Move σ → Prop) (kept watched : Move σ → Bool)
    (alike : Endpoint σ → Endpoint σ → Prop) : Prop where
  /-- A move that is left out does not matter. -/
  omitted : ∀ {first second move}, alike first second → allowed move → ¬kept move →
    alike (first.move io move) second
  /-- A move that is kept leaves both endpoints alike. -/
  made : ∀ {first second move}, alike first second → allowed move → kept move →
    alike (first.move io move) (second.move io move)
  /-- A move that is kept and watched comes to the same at both. -/
  told : ∀ {first second move}, alike first second → allowed move → kept move → watched move →
    first.reply? io move = second.reply? io move
  /-- Nothing is watched that is left out. -/
  present : ∀ {move}, watched move → kept move

/-- A run and what is left of it leave endpoints that are alike, and come to the same as far as they
are watched. -/
theorem Shadows.run {allowed : Move σ → Prop} {kept watched : Move σ → Bool}
    {alike : Endpoint σ → Endpoint σ → Prop} {first second : Endpoint σ} {moves : List (Move σ)}
    (shadows : Shadows io allowed kept watched alike) (begun : alike first second)
    (all : ∀ move ∈ moves, allowed move) :
    alike (first.run io moves) (second.run io (moves.filter kept)) ∧
      first.replies io watched moves = second.replies io watched (moves.filter kept) := by
  induction moves generalizing first second with
  | nil => exact ⟨begun, rfl⟩
  | cons move moves ih =>
    have fine := all move List.mem_cons_self
    have later : ∀ other ∈ moves, allowed other := fun other inside =>
      all other (List.mem_cons_of_mem _ inside)
    by_cases keep : kept move
    · obtain ⟨alike, same⟩ := ih (shadows.made begun fine keep) later
      rw [List.filter_cons_of_pos keep]
      refine ⟨alike, ?_⟩
      simp only [replies, same]
      split
      · rw [shadows.told begun fine keep ‹_›]
      · rfl
    · obtain ⟨alike, same⟩ := ih (shadows.omitted begun fine keep) later
      rw [List.filter_cons_of_neg keep]
      refine ⟨alike, ?_⟩
      rw [← same, replies, if_neg fun watch => keep (shadows.present watch)]

end Endpoint

end Cmpp
