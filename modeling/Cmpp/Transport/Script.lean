import Cmpp.Transport.Basic

/-!
# Scripted transports

A script decides beforehand what each call on a stream comes to. Reads, writes, flushes and
shutdowns each follow a queue of cues of their own, and a queue that has run out goes on in a fixed
way: reads end or wait, writes take everything or wait, flushes and shutdowns succeed.
-/

namespace Cmpp

/-- What one call comes to. -/
inductive Cue (α : Type)
  /-- The call has to be made again. -/
  | pending (woken : Bool)
  /-- The call fails. -/
  | fail (failure : Failure)
  /-- The call succeeds. -/
  | answer (value : α)
  deriving DecidableEq

/-- The outcome of a call that follows a cue. -/
def Cue.outcome {α : Type} : Cue α → Poll (Except Failure α)
  | .pending woken => .pending woken
  | .fail failure => .ready (.error failure)
  | .answer value => .ready (.ok value)

/-- What the calls on a stream come to. -/
structure Script where
  /-- What reads deliver: a cue holds bytes until all of them are read, and a cue without bytes is
  a read at the end of the stream. -/
  reads : List (Cue Bytes) := []
  /-- How many bytes writes accept at most. -/
  writes : List (Cue Nat) := []
  /-- What flushes come to. -/
  flushes : List (Cue Unit) := []
  /-- What shutdowns come to. -/
  shutdowns : List (Cue Unit) := []
  /-- Whether reads wait once their cues have run out, where otherwise the stream ends. -/
  readsWait : Bool := false
  /-- Whether writes wait once their cues have run out, where otherwise they accept everything. -/
  writesWait : Bool := false
  /-- The address of the other end. -/
  peer : Option Address := none
  /-- The failure of a request to probe an idle link. -/
  keepaliveFailure : Option Failure := none

namespace Script

/-- Read by the next cue. -/
def read (script : Script) (limit : Nat) : Poll (Except Failure Bytes) × Script :=
  match script.reads with
  | [] => (if script.readsWait then .pending false else .ready (.ok []), script)
  | .answer bytes :: rest =>
    (.ready (.ok (bytes.take limit)),
      { script with
        reads := if bytes.drop limit = [] then rest else .answer (bytes.drop limit) :: rest })
  | cue :: rest => (cue.outcome, { script with reads := rest })

/-- Write by the next cue. -/
def write (script : Script) (data : Bytes) : Poll (Except Failure Nat) × Script :=
  match script.writes with
  | [] => (if script.writesWait then .pending false else .ready (.ok data.length), script)
  | .answer limit :: rest =>
    (.ready (.ok (min limit data.length)), { script with writes := rest })
  | cue :: rest => (cue.outcome, { script with writes := rest })

/-- Flush by the next cue. -/
def flush (script : Script) : Poll (Except Failure Unit) × Script :=
  match script.flushes with
  | [] => (.ready (.ok ()), script)
  | cue :: rest => (cue.outcome, { script with flushes := rest })

/-- Shut down by the next cue. -/
def shutdown (script : Script) : Poll (Except Failure Unit) × Script :=
  match script.shutdowns with
  | [] => (.ready (.ok ()), script)
  | cue :: rest => (cue.outcome, { script with shutdowns := rest })

/-- The number of cues left. -/
def length (script : Script) : Nat :=
  script.reads.length + script.writes.length + script.flushes.length + script.shutdowns.length

/-- A read delivers no more than was asked for. -/
theorem read_length {script : Script} {limit : Nat} {bytes : Bytes}
    (delivered : (script.read limit).1 = .ready (.ok bytes)) : bytes.length ≤ limit := by
  unfold read at delivered
  split at delivered
  · split at delivered <;> cases delivered
    exact Nat.zero_le _
  · cases delivered
    exact List.length_take_le ..
  · rename_i cue _ other _
    cases cue <;> cases delivered
    exact absurd rfl (other _)

/-- A write accepts no more than was offered. -/
theorem write_length {script : Script} {data : Bytes} {count : Nat}
    (accepted : (script.write data).1 = .ready (.ok count)) : count ≤ data.length := by
  unfold write at accepted
  split at accepted
  · split at accepted <;> cases accepted
    exact Nat.le_refl _
  · cases accepted
    exact Nat.min_le_right ..
  · rename_i cue _ other _
    cases cue <;> cases accepted
    exact absurd rfl (other _)

/-- A read that asks for repetition uses up a cue. -/
theorem read_patience (script : Script) (limit : Nat) :
    (script.read limit).2.length + (script.read limit).1.urgency ≤ script.length := by
  unfold read
  split
  · split <;> exact Nat.le_refl _
  · rename_i queued
    simp only [length, queued, List.length_cons, Poll.urgency]
    split
    · omega
    · rw [List.length_cons]
      omega
  · rename_i cue _ _ queued
    have once := cue.outcome.urgency_le
    simp only [length, queued, List.length_cons]
    omega

/-- A write that asks for repetition uses up a cue. -/
theorem write_patience (script : Script) (data : Bytes) :
    (script.write data).2.length + (script.write data).1.urgency ≤ script.length := by
  unfold write
  split
  · split <;> exact Nat.le_refl _
  · rename_i queued
    simp only [length, queued, List.length_cons, Poll.urgency]
    omega
  · rename_i cue _ _ queued
    have once := cue.outcome.urgency_le
    simp only [length, queued, List.length_cons]
    omega

/-- A flush that asks for repetition uses up a cue. -/
theorem flush_patience (script : Script) :
    script.flush.2.length + script.flush.1.urgency ≤ script.length := by
  unfold flush
  split
  · exact Nat.le_refl _
  · rename_i cue _ queued
    have once := cue.outcome.urgency_le
    simp only [length, queued, List.length_cons]
    omega

/-- A shutdown that asks for repetition uses up a cue. -/
theorem shutdown_patience (script : Script) :
    script.shutdown.2.length + script.shutdown.1.urgency ≤ script.length := by
  unfold shutdown
  split
  · exact Nat.le_refl _
  · rename_i cue _ queued
    have once := cue.outcome.urgency_le
    simp only [length, queued, List.length_cons]
    omega

/-- The stream that follows a script. Every request to be repeated at once uses up a cue. -/
def transport : Transport Script where
  read := read
  write := write
  flush := flush
  shutdown := shutdown
  setKeepalive script _ :=
    match script.keepaliveFailure with
    | some failure => .error failure
    | none => .ok ()
  peer := peer
  patience := length
  read_length := read_length
  write_length := write_length
  read_patience := read_patience
  write_patience := write_patience
  flush_patience := flush_patience
  shutdown_patience := shutdown_patience

/-- A script that goes on with the cues of another after its own, and then in the other's way where
one is given. -/
def extend (script more : Script) (readsWait writesWait : Option Bool) : Script :=
  { script with
    reads := script.reads ++ more.reads
    writes := script.writes ++ more.writes
    flushes := script.flushes ++ more.flushes
    shutdowns := script.shutdowns ++ more.shutdowns
    readsWait := readsWait.getD script.readsWait
    writesWait := writesWait.getD script.writesWait }

end Script

end Cmpp
