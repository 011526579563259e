import Cmpp.Proofs.Calls

/-!
# Streams that mirror each other

A sender learns nothing of a stream but what its writes and flushes come to. So where these come to
the same on two streams, draining a buffer, writing through it and flushing it do, and in the end
transmitting does (`Transmission.poll_mirrored`). The streams may be of different kinds, and what
makes their lines alike is up to whoever compares them (`Mirrors`). Nor do they have to agree for
ever: only what leaves the first one live counts, and what was live at the end was live all along.
-/

namespace Cmpp

variable {σ τ : Type}

/-- Writes and flushes come to the same on two streams, and leave lines alike that were alike, as
long as the first stream is live after them. -/
structure Mirrors (io : Transport σ) (jo : Transport τ) (live : Line σ → Prop)
    (alike : Line σ → Line τ → Prop) : Prop where
  /-- What is live was live before. -/
  lived : ∀ {before after : Line σ}, before.Call io .sending after → live after → live before
  /-- Writes come to the same. -/
  write : ∀ {first one : Line σ} {second : Line τ} {data : Bytes}
    {told : Poll (Except Failure Nat)}, alike first second → first.write io data = (told, one) →
      live one → ∃ two, second.write jo data = (told, two) ∧ alike one two
  /-- Flushes come to the same. -/
  flush : ∀ {first one : Line σ} {second : Line τ} {told : Poll (Except Failure Unit)},
    alike first second → first.flush io = (told, one) → live one →
      ∃ two, second.flush jo = (told, two) ∧ alike one two

variable {io : Transport σ} {jo : Transport τ} {live : Line σ → Prop}
  {alike : Line σ → Line τ → Prop} {first one : Line σ} {second : Line τ}
  {outcome : Poll (Except Failure Unit)} {counted : Poll (Except Failure Nat)} {data : Bytes}
  {buffer after : WriteBuffer}

namespace Mirrors

/-- What is live after several calls was live before them. -/
theorem lived_calls (mirrors : Mirrors io jo live alike) (calls : first.Calls io .sending one)
    (lives : live one) : live first := by
  induction calls with
  | refl => exact lives
  | tail _ call ih => exact ih (mirrors.lived call lives)

/-- What is live after draining was live before. -/
theorem lived_drain (mirrors : Mirrors io jo live alike) (lives : live one)
    (drained : buffer.drain io first = (outcome, after, one)) : live first := by
  have calls := buffer.drain_calls io first
  rw [drained] at calls
  exact mirrors.lived_calls calls lives

/-- What is live after a poll was live before. -/
theorem lived_poll {rest left : Transmission} (mirrors : Mirrors io jo live alike)
    (lives : live one) (polled : rest.poll io buffer first = (outcome, left, after, one)) :
    live first := by
  have calls := rest.poll_calls io buffer first
  rw [polled] at calls
  exact mirrors.lived_calls calls lives

end Mirrors

namespace WriteBuffer

/-- Draining goes by writes, one after another. -/
theorem drain_eq (buffer : WriteBuffer) (io : Transport σ) (line : Line σ) :
    buffer.drain io line =
      if buffer.unsent = [] then (.ready (.ok ()), buffer.reclaim, line)
      else match line.write io buffer.unsent with
        | (.pending woken, line) => (.pending woken, buffer, line)
        | (.ready (.error failure), line) =>
          if failure.kind = .interrupted then buffer.drain io line
          else (.ready (.error failure), buffer.reclaim, line)
        | (.ready (.ok count), line) =>
          if count = 0 then (.ready (.error stuck), buffer.reclaim, line)
          else (buffer.advance count).drain io line := by
  rw [drain]
  split
  · rfl
  · split <;> simp only [*]

variable (mirrors : Mirrors io jo live alike) (same : alike first second) (lives : live one)

include mirrors same lives

/-- Draining comes to the same. -/
theorem drain_mirrored (drained : buffer.drain io first = (outcome, after, one)) :
    ∃ two, buffer.drain jo second = (outcome, after, two) ∧ alike one two := by
  fun_induction drain buffer io first generalizing second with
  | case1 buffer line empty =>
    cases drained
    exact ⟨second, by rw [drain_eq, if_pos empty], same⟩
  | case2 buffer line nonempty woken next written =>
    cases drained
    obtain ⟨two, also, same⟩ := mirrors.write same written lives
    exact ⟨two, by rw [drain_eq, if_neg nonempty, also], same⟩
  | case3 buffer line nonempty failure next written interrupted ih =>
    obtain ⟨two, also, same⟩ := mirrors.write same written (mirrors.lived_drain lives drained)
    rw [drain_eq _ jo second, if_neg nonempty, also]
    simpa only [if_pos interrupted] using ih same drained
  | case4 buffer line nonempty failure next written lasting =>
    cases drained
    obtain ⟨two, also, same⟩ := mirrors.write same written lives
    exact ⟨two, by rw [drain_eq, if_neg nonempty, also]; exact if_neg lasting, same⟩
  | case5 buffer line nonempty next written =>
    cases drained
    obtain ⟨two, also, same⟩ := mirrors.write same written lives
    exact ⟨two, by rw [drain_eq, if_neg nonempty, also]; rfl, same⟩
  | case6 buffer line nonempty next count written some ih =>
    obtain ⟨two, also, same⟩ := mirrors.write same written (mirrors.lived_drain lives drained)
    rw [drain_eq _ jo second, if_neg nonempty, also]
    simpa only [if_neg some] using ih same drained

/-- Putting data into a buffer, or past it, comes to the same. -/
theorem put_mirrored (put : buffer.put io first data = (counted, after, one)) :
    ∃ two, buffer.put jo second data = (counted, after, two) ∧ alike one two := by
  unfold WriteBuffer.put at put ⊢
  split at put <;> rename_i fits
  · cases written : first.write io data with
    | mk result next =>
      rw [written] at put
      cases put
      obtain ⟨two, also, same⟩ := mirrors.write same written lives
      exact ⟨two, by rw [if_pos fits, also], same⟩
  · cases put
    exact ⟨second, if_neg fits, same⟩

/-- A write through a buffer comes to the same. -/
theorem write_mirrored (nonempty : data ≠ [])
    (written : buffer.write io first data = (counted, after, one)) :
    ∃ two, buffer.write jo second data = (counted, after, two) ∧ alike one two := by
  unfold WriteBuffer.write at written ⊢
  split at written <;> rename_i fits
  · rw [if_pos fits]
    exact put_mirrored mirrors same lives written
  · rw [if_neg fits]
    rcases drained : buffer.drain io first with ⟨(failure | _) | woken, middle, next⟩
    · rw [drained] at written
      cases written
      obtain ⟨two, also, same⟩ := drain_mirrored mirrors same lives drained
      exact ⟨two, by rw [also], same⟩
    · rw [drained] at written
      have put : middle.put io next data = (counted, after, one) := written
      have calls := middle.put_calls nonempty io next
      rw [put] at calls
      obtain ⟨two, also, same⟩ :=
        drain_mirrored mirrors same (mirrors.lived_calls calls lives) drained
      rw [also]
      exact put_mirrored mirrors same lives put
    · rw [drained] at written
      cases written
      obtain ⟨two, also, same⟩ := drain_mirrored mirrors same lives drained
      exact ⟨two, by rw [also], same⟩

/-- A flush through a buffer comes to the same. -/
theorem flush_mirrored (flushed : buffer.flush io first = (outcome, after, one)) :
    ∃ two, buffer.flush jo second = (outcome, after, two) ∧ alike one two := by
  unfold WriteBuffer.flush at flushed ⊢
  rcases drained : buffer.drain io first with ⟨(failure | _) | woken, middle, next⟩
  · rw [drained] at flushed
    cases flushed
    obtain ⟨two, also, same⟩ := drain_mirrored mirrors same lives drained
    exact ⟨two, by rw [also], same⟩
  · rw [drained] at flushed
    obtain ⟨last, rfl⟩ : next.flush io = (outcome, one) ∧ middle = after := by
      cases flushed
      exact ⟨rfl, rfl⟩
    have before := mirrors.lived (.flush (by decide) last) lives
    obtain ⟨two, also, same⟩ := drain_mirrored mirrors same before drained
    obtain ⟨final, lastly, same⟩ := mirrors.flush same last lives
    refine ⟨final, ?_, same⟩
    rw [also]
    show ((two.flush jo).1, middle, (two.flush jo).2) = _
    rw [lastly]
  · rw [drained] at flushed
    cases flushed
    obtain ⟨two, also, same⟩ := drain_mirrored mirrors same lives drained
    exact ⟨two, by rw [also], same⟩

end WriteBuffer

namespace Transmission

/-- A transmission comes to the same. -/
theorem poll_mirrored {rest left : Transmission} (mirrors : Mirrors io jo live alike)
    (same : alike first second) (lives : live one)
    (polled : rest.poll io buffer first = (outcome, left, after, one)) :
    ∃ two, rest.poll jo buffer second = (outcome, left, after, two) ∧ alike one two := by
  fun_induction poll rest io buffer first generalizing second with
  | case1 buffer line =>
    cases polled
    exact ⟨second, by rw [poll, dif_pos rfl], same⟩
  | case2 buffer line data nonempty taken next middle written ih =>
    have lived := mirrors.lived_poll lives polled
    obtain ⟨two, also, same⟩ := WriteBuffer.write_mirrored mirrors same lived nonempty written
    rw [poll, dif_neg nonempty, also]
    exact ih same polled
  | case3 buffer line data nonempty failure next middle written
  | case4 buffer line data nonempty woken next middle written =>
    cases polled
    obtain ⟨two, also, same⟩ := WriteBuffer.write_mirrored mirrors same lives nonempty written
    exact ⟨two, by rw [poll, dif_neg nonempty, also], same⟩
  | case5 buffer line data next middle flushed ih =>
    have lived := mirrors.lived_poll lives polled
    obtain ⟨two, also, same⟩ := WriteBuffer.flush_mirrored mirrors same lived flushed
    rw [poll, also]
    exact ih same polled
  | case7 buffer line next middle flushed =>
    cases polled
    obtain ⟨two, also, same⟩ := WriteBuffer.flush_mirrored mirrors same lives flushed
    exact ⟨two, by rw [poll, also], same⟩
  | case6 buffer line data result next middle unfinished flushed
  | case8 buffer line result next middle unfinished flushed =>
    cases polled
    obtain ⟨two, also, same⟩ := WriteBuffer.flush_mirrored mirrors same lives flushed
    rcases outcome with (failure | _) | woken
    · exact ⟨two, by rw [poll, also], same⟩
    · exact (unfinished rfl).elim
    · exact ⟨two, by rw [poll, also], same⟩

end Transmission

end Cmpp
