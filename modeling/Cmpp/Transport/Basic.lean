import Cmpp.Bytes
import Cmpp.Transport.Address
import Cmpp.Transport.Failure

/-!
# Transports

A connection runs on a byte stream whose calls may have to wait. A call is an attempt: either its
result is ready, or it is pending and is to be made again later. A pending call may at the same time
wake its caller, which then tries again at once.

A `Transport` gives the calls as functions on the state of the stream, so that one connection runs
on every stream that keeps the laws stated here: no call reads or writes more than it was asked to,
and a stream cannot ask for immediate repetition for ever.
-/

namespace Cmpp

/-- What an attempt comes to. -/
inductive Poll (α : Type)
  /-- The result is there. -/
  | ready (result : α)
  /-- The call has to be made again, at once if the caller was woken. -/
  | pending (woken : Bool)
  deriving DecidableEq

/-- One when an attempt asks for being repeated at once, because it was interrupted or because it
woke its caller; zero otherwise. -/
def Poll.urgency {α : Type} : Poll (Except Failure α) → Nat
  | .pending true => 1
  | .ready (.error failure) => if failure.kind = .interrupted then 1 else 0
  | _ => 0

/-- No attempt asks for being repeated more than once. -/
theorem Poll.urgency_le {α : Type} (poll : Poll (Except Failure α)) : poll.urgency ≤ 1 := by
  unfold Poll.urgency
  repeat' split
  all_goals omega

/-- A byte stream that runs both ways, seen from one of its ends. -/
structure Transport (σ : Type) where
  /-- Read at most so many bytes; no bytes at all mean that the stream has ended. -/
  read : σ → (limit : Nat) → Poll (Except Failure Bytes) × σ
  /-- Write bytes off the front, returning how many were accepted. -/
  write : σ → (data : Bytes) → Poll (Except Failure Nat) × σ
  /-- Push accepted bytes on to the other end. -/
  flush : σ → Poll (Except Failure Unit) × σ
  /-- End the outgoing direction. -/
  shutdown : σ → Poll (Except Failure Unit) × σ
  /-- Ask for an idle link to be probed, or not to be. -/
  setKeepalive : σ → (enabled : Bool) → Except Failure Unit := fun _ _ => .ok ()
  /-- The address of the other end, where there is one. -/
  peer : σ → Option Address := fun _ => none
  /-- What becomes of the stream when this end lets go of it. -/
  release : σ → σ := id
  /-- A bound on how often calls can still ask for being repeated at once. -/
  patience : σ → Nat
  /-- No more is read than was asked for. -/
  read_length : ∀ {state limit bytes},
    (read state limit).1 = .ready (.ok bytes) → bytes.length ≤ limit
  /-- No more is accepted than was offered. -/
  write_length : ∀ {state data count},
    (write state data).1 = .ready (.ok count) → count ≤ data.length
  /-- A read that asks for repetition uses up patience. -/
  read_patience : ∀ state limit,
    patience (read state limit).2 + (read state limit).1.urgency ≤ patience state
  /-- A write that asks for repetition uses up patience. -/
  write_patience : ∀ state data,
    patience (write state data).2 + (write state data).1.urgency ≤ patience state
  /-- A flush that asks for repetition uses up patience. -/
  flush_patience : ∀ state, patience (flush state).2 + (flush state).1.urgency ≤ patience state
  /-- A shutdown that asks for repetition uses up patience. -/
  shutdown_patience : ∀ state,
    patience (shutdown state).2 + (shutdown state).1.urgency ≤ patience state

end Cmpp
