import Cmpp.Proofs.Dispatch
import Cmpp.Proofs.Mirrors

/-!
# Streams that are watched

The outgoing direction of a stream, an `Outlet`, keeps no law on patience. It may interrupt every
write, and then a sender that drains its buffer never comes to the end of a poll. But what a sender
does on it can be watched for any number of calls: an outlet that fails from then on is a transport
(`Outlet.watched`). A poll ends within so many calls if it makes no more of them while it is watched
for so many (`Dispatch.EndsWithin`). What it comes to then does not depend on for how much longer it
is watched (`Dispatch.EndsWithin.poll_longer`), and on a transport it is the poll of the sender
itself (`Dispatch.EndsWithin.poll_outlet`).

Every poll ends if there is a bound on the interruptions still to come (`Dispatch.endsWithin`). A
transport has one, its patience (`Transport.stock`).
-/

namespace Cmpp

variable {σ τ : Type}

/-! ## Outlets -/

/-- The outgoing direction of a stream. -/
structure Outlet (σ : Type) where
  /-- Write bytes off the front, returning how many were accepted. -/
  write : σ → (data : Bytes) → Poll (Except Failure Nat) × σ
  /-- Push accepted bytes on to the other end. -/
  flush : σ → Poll (Except Failure Unit) × σ
  /-- No more is accepted than was offered. -/
  write_length : ∀ {state data count},
    (write state data).1 = .ready (.ok count) → count ≤ data.length

/-- The outgoing direction of a transport. -/
def Transport.outlet (io : Transport σ) : Outlet σ where
  write := io.write
  flush := io.flush
  write_length := io.write_length

/-- A bound on how many writes can still be interrupted. -/
structure Outlet.Stock (outlet : Outlet σ) where
  /-- The bound. -/
  left : σ → Nat
  /-- A write that is interrupted is one of them. -/
  write_le : ∀ (state : σ) {data : Bytes}, data ≠ [] →
    left (outlet.write state data).2 + (outlet.write state data).1.isInterrupted.toNat ≤ left state
  /-- A flush adds none. -/
  flush_le : ∀ state, left (outlet.flush state).2 ≤ left state

/-- An attempt that was interrupted asks for being repeated at once. -/
theorem Poll.isInterrupted_le_urgency {α : Type} (outcome : Poll (Except Failure α)) :
    outcome.isInterrupted.toNat ≤ outcome.urgency := by
  rcases outcome with (failure | result) | woken
  · by_cases same : failure.kind = .interrupted <;> simp [isInterrupted, urgency, same]
  · exact Nat.zero_le _
  · exact Nat.zero_le _

/-- A transport interrupts no more writes than it has patience. -/
def Transport.stock (io : Transport σ) : io.outlet.Stock where
  left := io.patience
  write_le state data _ :=
    (Nat.add_le_add_left (Poll.isInterrupted_le_urgency _) _).trans (io.write_patience state data)
  flush_le state := (Nat.le_add_right _ _).trans (io.flush_patience state)

/-! ## Watching for some calls -/

variable {outlet : Outlet σ}

/-- A stream that is watched for some calls. -/
structure Watched (σ : Type) where
  /-- The state of the stream. -/
  state : σ
  /-- For how many more calls it is watched, unless there have been more already. -/
  left : Option Nat

namespace Watched

/-- The failure of all calls after those that are watched. -/
def unseen : Failure := ⟨.timedOut, none⟩

/-- Make a call on a stream if it is watched. -/
def call {α : Type} (attempt : σ → Poll (Except Failure α) × σ) (watched : Watched σ) :
    Poll (Except Failure α) × Watched σ :=
  match watched.left with
  | some (left + 1) => ((attempt watched.state).1, ⟨(attempt watched.state).2, some left⟩)
  | _ => (.ready (.error unseen), ⟨watched.state, none⟩)

variable {α : Type} {attempt : σ → Poll (Except Failure α) × σ}

/-- A call that is not watched fails, and nothing has become of the stream. -/
theorem call_cases (attempt : σ → Poll (Except Failure α) × σ) (watched : Watched σ) :
    (∃ left, watched.left = some (left + 1) ∧
      watched.call attempt =
        ((attempt watched.state).1, ⟨(attempt watched.state).2, some left⟩)) ∨
    (watched.left.getD 0 = 0 ∧
      watched.call attempt = (.ready (.error unseen), ⟨watched.state, none⟩)) := by
  obtain ⟨state, _ | _ | left⟩ := watched
  · exact .inr ⟨rfl, rfl⟩
  · exact .inr ⟨rfl, rfl⟩
  · exact .inl ⟨left, rfl, rfl⟩

/-- If no call has been made that was not watched, this one was watched. -/
theorem call_seen (attempt : σ → Poll (Except Failure α) × σ) {watched : Watched σ}
    (seen : (watched.call attempt).2.left ≠ none) :
    ∃ left, watched.left = some (left + 1) ∧
      watched.call attempt =
        ((attempt watched.state).1, ⟨(attempt watched.state).2, some left⟩) := by
  refine (call_cases attempt watched).resolve_right ?_
  rintro ⟨-, called⟩
  rw [called] at seen
  exact seen rfl

/-- A call that asks for repetition is one that is watched. -/
theorem call_patience (attempt : σ → Poll (Except Failure α) × σ) (watched : Watched σ) :
    (watched.call attempt).2.left.getD 0 + (watched.call attempt).1.urgency ≤
      watched.left.getD 0 := by
  rcases call_cases attempt watched with ⟨left, seen, called⟩ | ⟨-, called⟩
  · rw [called, seen]
    exact Nat.add_le_add_left (Poll.urgency_le _) left
  · rw [called]
    exact Nat.zero_le _

end Watched

/-- The transport that an outlet is while it is watched. Nothing is to be read from it. -/
def Outlet.watched (outlet : Outlet σ) : Transport (Watched σ) where
  read watched _ := (.ready (.ok []), watched)
  write watched data := watched.call (outlet.write · data)
  flush watched := watched.call outlet.flush
  shutdown watched := (.ready (.ok ()), watched)
  patience watched := watched.left.getD 0
  read_length delivered := by
    cases delivered
    exact Nat.zero_le _
  write_length := by
    intro watched data count accepted
    rcases watched.call_cases (outlet.write · data) with ⟨left, -, called⟩ | ⟨-, called⟩
    · rw [called] at accepted
      exact outlet.write_length accepted
    · rw [called] at accepted
      cases accepted
  read_patience _ _ := Nat.le_refl _
  write_patience watched data := watched.call_patience (outlet.write · data)
  flush_patience watched := watched.call_patience outlet.flush
  shutdown_patience _ := Nat.le_refl _

namespace Line

/-- Watch a line for some calls. -/
def watch (line : Line σ) (most : Nat) : Line (Watched σ) := ⟨⟨line.state, some most⟩, line.journal⟩

/-- No call has been made that was not watched. -/
def Seen (line : Line (Watched σ)) : Prop := line.state.left ≠ none

/-- So many calls are entered and still to be watched, or more have been made. -/
def Counts (total : Nat) (line : Line (Watched σ)) : Prop :=
  match line.state.left with
  | some left => total ≤ line.history.length + left
  | none => total < line.history.length

/-- A call that is entered is no longer to be watched. -/
theorem Counts.call {total : Nat} {line : Line (Watched σ)} (counts : line.Counts total) {α : Type}
    (attempt : σ → Poll (Except Failure α) × σ) (event : Event) :
    (line.enter event (line.state.call attempt).2).Counts total := by
  unfold Counts at counts ⊢
  rcases line.state.call_cases attempt with ⟨left, seen, called⟩ | ⟨used, called⟩
  · rw [seen] at counts
    simp only [enter, called, history, List.length_reverse, List.length_cons] at counts ⊢
    omega
  · simp only [enter, called, history, List.length_reverse, List.length_cons] at counts ⊢
    cases left : line.state.left with
    | none =>
      rw [left] at counts
      exact Nat.lt_succ_of_lt counts
    | some left' =>
      rw [left] at counts used
      obtain rfl : left' = 0 := used
      exact Nat.lt_succ_of_le counts

/-- Whoever makes no more calls than are watched makes none that is not. -/
theorem seen_of_length {line : Line σ} {most : Nat} {after : Line (Watched σ)}
    (calls : (line.watch most).Calls outlet.watched .sending after)
    (few : after.history.length ≤ line.history.length + most) : after.Seen := by
  have counts : after.Counts (line.history.length + most) := by
    refine calls.keep (fun call counts => ?_) (Nat.le_refl _)
    cases call with
    | @write _ _ data _ nonempty written =>
      obtain ⟨-, rfl⟩ := Prod.mk.inj written
      exact counts.call (outlet.write · data) _
    | flush writes flushed =>
      obtain ⟨-, rfl⟩ := Prod.mk.inj flushed
      exact counts.call outlet.flush _
    | note line note =>
      unfold Counts at counts ⊢
      simp only [Line.note, enter, history, List.length_reverse, List.length_cons] at counts ⊢
      split at counts <;> omega
  intro unseen
  rw [Counts, unseen] at counts
  exact Nat.not_lt_of_le few counts

end Line

/-- A transport mirrors what is watched of an outlet if each call that is watched comes to the same
on it. -/
theorem Outlet.mirrors {jo : Transport τ} (same : Watched σ → τ → Prop)
    (write : ∀ {state : σ} {left : Nat} {other : τ} (data : Bytes),
      same ⟨state, some (left + 1)⟩ other →
        (jo.write other data).1 = (outlet.write state data).1 ∧
          same ⟨(outlet.write state data).2, some left⟩ (jo.write other data).2)
    (flush : ∀ {state : σ} {left : Nat} {other : τ}, same ⟨state, some (left + 1)⟩ other →
      (jo.flush other).1 = (outlet.flush state).1 ∧
        same ⟨(outlet.flush state).2, some left⟩ (jo.flush other).2) :
    Mirrors outlet.watched jo Line.Seen
      fun one two => same one.state two.state ∧ one.journal = two.journal where
  lived call seen := by
    cases call with
    | @write before _ data _ nonempty written =>
      obtain ⟨-, rfl⟩ := Prod.mk.inj written
      obtain ⟨left, watched, -⟩ := Watched.call_seen (outlet.write · data) seen
      exact Option.ne_none_iff_exists'.mpr ⟨_, watched⟩
    | flush writes flushed =>
      obtain ⟨-, rfl⟩ := Prod.mk.inj flushed
      obtain ⟨left, watched, -⟩ := Watched.call_seen outlet.flush seen
      exact Option.ne_none_iff_exists'.mpr ⟨_, watched⟩
    | note => exact seen
  write {first one second data told} alike written seen := by
    obtain ⟨⟨state, remaining⟩, journal⟩ := first
    obtain ⟨rfl, rfl⟩ := Prod.mk.inj written
    obtain ⟨left, rfl, -⟩ := Watched.call_seen (outlet.write · data) seen
    obtain ⟨also, after⟩ := write data alike.1
    refine ⟨_, Prod.ext also rfl, after, ?_⟩
    show Event.write data _ :: journal = Event.write data _ :: second.journal
    rw [← alike.2, also]
    rfl
  flush {first one second told} alike flushed seen := by
    obtain ⟨⟨state, remaining⟩, journal⟩ := first
    obtain ⟨rfl, rfl⟩ := Prod.mk.inj flushed
    obtain ⟨left, rfl, -⟩ := Watched.call_seen outlet.flush seen
    obtain ⟨also, after⟩ := flush alike.1
    refine ⟨_, Prod.ext also rfl, after, ?_⟩
    show Event.flush _ :: journal = Event.flush _ :: second.journal
    rw [← alike.2, also]
    rfl

/-! ## Polls that end -/

/-- What turns leave to be written is the same on streams that mirror each other. -/
theorem Transmission.tails_mirrored {io : Transport σ} {jo : Transport τ} {live : Line σ → Prop}
    {alike : Line σ → Line τ → Prop} {first one : Line σ} {second : Line τ}
    {rest left : Transmission} {buffer after : WriteBuffer} {outcome : Poll (Except Failure Unit)}
    (mirrors : Mirrors io jo live alike) (same : alike first second) (lives : live one)
    (polled : rest.poll io buffer first = (outcome, left, after, one)) :
    rest.tails jo buffer second = rest.tails io buffer first := by
  fun_induction Transmission.poll rest io buffer first generalizing second with
  | case1 buffer line => rw [tails, dif_pos rfl, tails, dif_pos rfl]
  | case2 buffer line data nonempty taken next middle written ih =>
    have lived := mirrors.lived_poll lives polled
    obtain ⟨two, also, same⟩ := WriteBuffer.write_mirrored mirrors same lived nonempty written
    rw [tails_of_write nonempty written, tails_of_write nonempty also]
    exact ih same polled
  | case3 buffer line data nonempty failure next middle written
  | case4 buffer line data nonempty woken next middle written =>
    cases polled
    obtain ⟨two, also, -⟩ := WriteBuffer.write_mirrored mirrors same lives nonempty written
    simp only [tails, nonempty, written, also]
  | case5 buffer line data next middle flushed ih =>
    have lived := mirrors.lived_poll lives polled
    obtain ⟨two, also, same⟩ := WriteBuffer.flush_mirrored mirrors same lived flushed
    rw [tails_of_flush flushed, tails_of_flush also, ih same polled]
  | case6 buffer line data result next middle unfinished flushed =>
    cases polled
    obtain ⟨two, also, -⟩ := WriteBuffer.flush_mirrored mirrors same lives flushed
    rw [tails_of_unflushed unfinished flushed, tails_of_unflushed unfinished also]
  | case7 | case8 => simp only [tails]

namespace Dispatch

variable {dispatch : Dispatch} {line : Line σ} {most : Nat}

/-- The next poll of a sender makes no more than so many calls on an outlet. -/
def EndsWithin (dispatch : Dispatch) (outlet : Outlet σ) (line : Line σ) (most : Nat) : Prop :=
  (dispatch.poll outlet.watched (line.watch most)).calls.length ≤ dispatch.calls.length + most

/-- A sender that is done makes no calls. -/
theorem endsWithin_ready {result : Except Failure Unit} (done : dispatch.outcome = .ready result) :
    dispatch.EndsWithin outlet line most := by
  simp only [EndsWithin, poll, done]
  exact Nat.le_add_right _ _

/-- A poll that ends in time has made no call that was not watched. -/
theorem EndsWithin.seen {woken : Bool} (ends : dispatch.EndsWithin outlet line most)
    (waiting : dispatch.outcome = .pending woken) :
    (dispatch.rest.poll outlet.watched dispatch.buffer (line.watch most)).2.2.2.Seen := by
  obtain ⟨made, entered, same⟩ := poll_waiting waiting
    (Prod.eta (dispatch.rest.poll outlet.watched dispatch.buffer (line.watch most)))
  refine Line.seen_of_length (dispatch.rest.poll_calls _ _ _) ?_
  rw [EndsWithin, same, List.length_append] at ends
  rw [entered, List.length_append]
  exact Nat.add_le_add_left (Nat.le_of_add_le_add_left ends) _

/-- A poll that makes one more call than are watched does not end within them. -/
theorem not_endsWithin {woken : Bool} (waiting : dispatch.outcome = .pending woken)
    (counted : (dispatch.rest.poll outlet.watched dispatch.buffer
      (line.watch most)).2.2.2.history.length = line.history.length + most + 1) :
    ¬dispatch.EndsWithin outlet line most := by
  intro ends
  obtain ⟨made, entered, same⟩ := poll_waiting waiting
    (Prod.eta (dispatch.rest.poll outlet.watched dispatch.buffer (line.watch most)))
  have more : made.length = most + 1 := by
    rw [entered, List.length_append] at counted
    exact Nat.add_left_cancel counted
  rw [EndsWithin, same, List.length_append, more] at ends
  omega

/-- On a transport that mirrors what is watched of an outlet, a poll comes to the same if it ends in
time. -/
theorem EndsWithin.poll_mirrored {jo : Transport τ} {alike : Line (Watched σ) → Line τ → Prop}
    {second : Line τ} (ends : dispatch.EndsWithin outlet line most)
    (mirrors : Mirrors outlet.watched jo Line.Seen alike)
    (journals : ∀ {one two}, alike one two → one.journal = two.journal)
    (same : alike (line.watch most) second) :
    dispatch.poll jo second = dispatch.poll outlet.watched (line.watch most) := by
  cases waiting : dispatch.outcome with
  | ready result => simp only [poll, waiting]
  | pending woken =>
    have seen := ends.seen waiting
    rcases polled : dispatch.rest.poll outlet.watched dispatch.buffer (line.watch most) with
      ⟨outcome, rest, buffer, one⟩
    rw [polled] at seen
    obtain ⟨two, also, after⟩ := Transmission.poll_mirrored mirrors same seen polled
    have tails := Transmission.tails_mirrored mirrors same seen polled
    have entered : one.journal = two.journal := journals after
    simp only [poll, waiting, polled, also, tails, Line.history, journals same, entered]

/-- It does not matter for how much longer a poll is watched if it ends in time. -/
theorem EndsWithin.poll_longer (ends : dispatch.EndsWithin outlet line most) (more : Nat) :
    dispatch.poll outlet.watched (line.watch (most + more)) =
      dispatch.poll outlet.watched (line.watch most) := by
  let longer (watched other : Watched σ) : Prop :=
    other = ⟨watched.state, watched.left.map (· + more)⟩
  refine ends.poll_mirrored (Outlet.mirrors longer ?_ ?_) (fun alike => alike.2) ⟨rfl, rfl⟩
  · rintro state left other data rfl
    rw [Option.map_some, Nat.add_right_comm]
    exact ⟨rfl, rfl⟩
  · rintro state left other rfl
    rw [Option.map_some, Nat.add_right_comm]
    exact ⟨rfl, rfl⟩

/-- On a transport, a poll that ends in time on its outlet is that of the sender itself. -/
theorem EndsWithin.poll_outlet {io : Transport σ}
    (ends : dispatch.EndsWithin io.outlet line most) :
    dispatch.poll io line = dispatch.poll io.outlet.watched (line.watch most) := by
  let shows (watched : Watched σ) (state : σ) : Prop := watched.state = state
  refine ends.poll_mirrored (Outlet.mirrors shows ?_ ?_) (fun alike => alike.2) ⟨rfl, rfl⟩
  · rintro state left other data rfl
    exact ⟨rfl, rfl⟩
  · rintro state left other rfl
    exact ⟨rfl, rfl⟩

end Dispatch

/-! ## Bounds on a poll -/

/-- A write is at its price, or it was interrupted. -/
theorem Poll.price_one (outcome : Poll (Except Failure Nat)) :
    outcome.price 1 + outcome.isInterrupted.toNat = 1 := by
  rcases outcome with (failure | count) | woken
  · by_cases same : failure.kind = .interrupted <;> simp [price, isInterrupted, same]
  · rfl
  · rfl

namespace Outlet.Stock

variable (stock : outlet.Stock) {line after : Line (Watched σ)}

/-- A write adds one call at its price. One that is interrupted costs nothing, but there is one
interruption less to come. -/
theorem write_paid {data : Bytes} {outcome : Poll (Except Failure Nat)} (nonempty : data ≠ [])
    (written : line.write outlet.watched data = (outcome, after)) :
    after.history.length + stock.left after.state.state ≤
      line.history.length + stock.left line.state.state + outcome.price 1 := by
  obtain ⟨rfl, rfl⟩ := Prod.mk.inj written
  rw [Line.history_enter, List.length_append, List.length_singleton]
  rcases line.state.call_cases (outlet.write · data) with ⟨left, -, called⟩ | ⟨-, called⟩
  · have used := stock.write_le line.state.state nonempty
    have counts := (outlet.write line.state.state data).1.price_one
    simp only [Line.enter, Outlet.watched, called]
    omega
  · simp only [Line.enter, Outlet.watched, called]
    exact Nat.le_of_eq (Nat.add_right_comm ..)

/-- A flush adds one call, and no interruption. -/
theorem flush_paid {outcome : Poll (Except Failure Unit)}
    (flushed : line.flush outlet.watched = (outcome, after)) :
    after.history.length + stock.left after.state.state ≤
      line.history.length + stock.left line.state.state + 1 := by
  obtain ⟨rfl, rfl⟩ := Prod.mk.inj flushed
  rw [Line.history_enter, List.length_append, List.length_singleton]
  rcases line.state.call_cases outlet.flush with ⟨left, -, called⟩ | ⟨-, called⟩
  · have used := stock.flush_le line.state.state
    simp only [Line.enter, Outlet.watched, called]
    omega
  · simp only [Line.enter, Outlet.watched, called]
    omega

end Outlet.Stock

/-- The meter that counts the calls, with the interruptions that there can still be. -/
def Line.Meter.calls (stock : outlet.Stock) : Line.Meter outlet.watched where
  reading line := line.history.length + stock.left line.state.state
  extra := 1
  extra_le := Nat.le_refl 1
  write_le := stock.write_paid
  flush_le := stock.flush_paid

namespace Dispatch

variable {dispatch : Dispatch} {data : Bytes} {residue : Nat}

/-- A poll makes no more calls than the interruptions still to come, the bytes that are still to be
accepted and the flushes between them allow. -/
theorem endsWithin (stock : outlet.Stock) (dispatch : Dispatch) (line : Line σ) {most : Nat}
    (enough : stock.left line.state + dispatch.buffer.unsent.length + dispatch.rest.work 1 + 1 ≤
      most) : dispatch.EndsWithin outlet line most := by
  cases waiting : dispatch.outcome with
  | ready result => exact endsWithin_ready waiting
  | pending woken =>
    rcases polled : dispatch.rest.poll outlet.watched dispatch.buffer (line.watch most) with
      ⟨outcome, rest, buffer, after⟩
    obtain ⟨made, entered, same⟩ := poll_waiting waiting polled
    have moved := Transmission.poll_metered (Line.Meter.calls stock) polled
    have once := outcome.overrun_le (Nat.le_refl 1)
    simp only [Line.Meter.calls, entered, List.length_append, Line.watch] at moved
    rw [EndsWithin, same, List.length_append]
    omega

/-- While a sender sends, this is bounded by the bytes that there were to be accepted at first. -/
theorem Sound.endsWithin (sound : dispatch.Sound data residue) (stock : outlet.Stock)
    (line : Line σ) {most : Nat}
    (enough : stock.left line.state + 2 * (residue + data.length) + 2 ≤ most) :
    dispatch.EndsWithin outlet line most := by
  cases waiting : dispatch.outcome with
  | ready result => exact endsWithin_ready waiting
  | pending woken =>
    have settled := sound.settled
    have doubled := dispatch.rest.work_one_le
    rw [waiting, Poll.overrun] at settled
    exact Dispatch.endsWithin stock dispatch line (by omega)

/-- On a transport, a poll makes no more calls than its patience and these bytes allow. -/
theorem Sound.calls_le (sound : dispatch.Sound data residue) (io : Transport σ) (line : Line σ) :
    (dispatch.poll io line).calls.length ≤
      dispatch.calls.length + (line.patience io + 2 * (residue + data.length) + 2) := by
  have ends := sound.endsWithin io.stock line (Nat.le_refl _)
  rw [ends.poll_outlet]
  exact ends

end Dispatch

end Cmpp
