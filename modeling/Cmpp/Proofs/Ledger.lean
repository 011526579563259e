import Cmpp.Proofs.Output
import Cmpp.Proofs.Queues
import Cmpp.Proofs.Roster

/-!
# The ledger of a run

A ledger is kept of a run: who sends which frame, in the order in which the senders made their first
polls, whether each has ever held the write lock, how it ended, and which bytes were handed over to
be sent while it was polled, its segment. The ledger is read off the actions of the run, what they
came to, and what was handed over before and after each.
-/

namespace Cmpp

variable {σ : Type}

/-- A frame that was queued up to be sent. -/
structure Posting where
  /-- The task that sends it. -/
  id : TaskId
  /-- The packet that it carries. -/
  packet : Packet
  /-- The sequence number that it carries. -/
  sequenceId : UInt32
  /-- If the number was taken for it: how many numbers had been taken before. -/
  turn : Option Nat
  /-- The frame. -/
  frame : Bytes

/-- What a sender was asked to send, with the sequence number if one was given. -/
def Posting.request (posting : Posting) : TaskId × Packet × Option UInt32 :=
  (posting.id, posting.packet, if posting.turn.isSome then none else some posting.sequenceId)

/-- What a move asks to be sent, if it is the first poll of a sender. -/
def Move.request? : Move σ → Option (TaskId × Packet × Option UInt32)
  | .act (.start id (.send packet)) => some (id, packet, none)
  | .act (.start id (.sendAs packet sequenceId)) => some (id, packet, some sequenceId)
  | _ => none

/-- Whether an ending may leave a frame unfinished: the sender was given up or interrupted by the
closing of the connection, or the transport failed. -/
def Ending.Interrupts : Ending → Prop
  | .cancelled | .returned (.failed .connectionClosed) | .returned (.failed (.transport _)) => True
  | .returned _ => False

/-- A sender, with what has become of it. -/
structure Sender extends Posting where
  /-- Whether it has ever held the write lock. -/
  held : Bool
  /-- How it ended, once it has. -/
  ending : Option Ending := none
  /-- The bytes that were handed over while it was polled. -/
  segment : Bytes := []

instance : Entry Sender where
  task sender := sender.id
  ending := Sender.ending
  gain sender gained := { sender with segment := sender.segment ++ gained }
  finish sender ending := { sender with ending }

/-- The senders of a run, in the order of their first polls. -/
structure Ledger where
  /-- The senders. -/
  senders : List Sender := []
  /-- How many sequence numbers have been taken. -/
  taken : Nat := 0

namespace Ledger

/-- The frames of a ledger, in order. -/
def postings (ledger : Ledger) : List Posting := ledger.senders.map (·.toPosting)

/-- The entry of a sender that queues up for the write lock. It holds the lock at once if nobody is
in the queue. -/
def entry (connection : Connection) (id : TaskId) (packet : Packet) (sequenceId : UInt32)
    (turn : Option Nat) (frame : Bytes) : Sender :=
  { id, packet, sequenceId, turn, frame, held := connection.writeLock.queue.isEmpty }

/-- Enter a packet that is to be sent under a sequence number, if there is a frame for it. -/
def enlist (ledger : Ledger) (connection : Connection) (id : TaskId) (packet : Packet)
    (sequenceId : UInt32) (turn : Option Nat) : Ledger :=
  match encodeFrame connection.version packet sequenceId with
  | .error _ => ledger
  | .ok frame =>
    { ledger with
      senders := ledger.senders ++ [entry connection id packet sequenceId turn frame] }

/-- Enter a call that is made on a connection. -/
def register (ledger : Ledger) (connection : Connection) (id : TaskId) : Call → Ledger
  | .send packet =>
    if connection.closed || connection.sequence.stopped then ledger
    else
      { ledger.enlist connection id packet connection.sequence.next (some ledger.taken) with
        taken := ledger.taken + 1 }
  | .sendAs packet sequenceId =>
    if connection.closed then ledger else ledger.enlist connection id packet sequenceId none
  | .receive | .close => ledger

/-- Change the entry of the sender that a task is, if it is one and has not ended. -/
def amend (ledger : Ledger) (id : TaskId) (change : Sender → Sender) : Ledger :=
  { ledger with senders := Roster.amend id change ledger.senders }

/-- Enter what came of a poll and the bytes that were handed over meanwhile. -/
def follow (ledger : Ledger) (id : TaskId) (gained : Bytes) (polled : Poll Outcome) : Ledger :=
  ledger.amend id (Entry.follow · gained polled)

/-- Enter who holds the write lock. -/
def handOver (ledger : Ledger) (lock : Lock) : Ledger :=
  { ledger with
    senders := ledger.senders.map fun sender =>
      { sender with held := sender.held || (Entry.live sender && lock.isHeldBy sender.id) } }

/-- Enter an action, given what it came to and the endpoint before and after it. -/
def record (ledger : Ledger) (before after : Endpoint σ) : Action → Reply → Ledger
  | _, .misnamed => ledger
  | .start id call, .polled polled =>
    ((ledger.register before.connection id call).follow id
      (after.output.drop before.output.length) polled).handOver after.connection.writeLock
  | .poll id, .polled polled =>
    (ledger.follow id (after.output.drop before.output.length) polled).handOver
      after.connection.writeLock
  | .cancel id, _ =>
    (ledger.amend id Entry.giveUp).handOver after.connection.writeLock
  | .takeSequence, .sequence (.ok _) => { ledger with taken := ledger.taken + 1 }
  | _, _ => ledger

/-- Enter a move. -/
def observe (io : Transport σ) (ledger : Ledger) (endpoint : Endpoint σ) : Move σ → Ledger
  | .act action =>
    let (reply, after) := endpoint.step io action
    ledger.record endpoint after action reply
  | .change _ => ledger

/-- The ledger of a run. -/
def ofRun (io : Transport σ) : Endpoint σ → List (Move σ) → Ledger → Ledger
  | _, [], ledger => ledger
  | endpoint, move :: moves, ledger =>
    ofRun io (endpoint.move io move) moves (ledger.observe io endpoint move)

end Ledger

/-! ## Changing one entry -/

namespace Ledger

variable {ledger : Ledger} {id : TaskId}

/-- Only the entry of a sender that has not ended is changed. -/
theorem amend_present {front back : List Sender} {sender : Sender} {taken : Nat}
    (live : Entry.live sender) (distinct : (Roster.waiting (front ++ sender :: back)).Nodup)
    (change : Sender → Sender) :
    amend ⟨front ++ sender :: back, taken⟩ sender.id change =
      ⟨front ++ change sender :: back, taken⟩ :=
  congrArg (Ledger.mk · taken) (Roster.amend_present live distinct change)

/-- Nothing is changed for a task that is not that of a sender that has not ended. -/
theorem amend_absent (change : Sender → Sender) (absent : id ∉ Roster.waiting ledger.senders) :
    ledger.amend id change = ledger :=
  congrArg (Ledger.mk · ledger.taken) (Roster.amend_absent change absent)

/-- The frames of the senders stay what they are. -/
theorem postings_amend {change : Sender → Sender}
    (same : ∀ sender, (change sender).toPosting = sender.toPosting) :
    (ledger.amend id change).postings = ledger.postings := by
  simp only [postings, amend, Roster.amend, List.map_map]
  apply List.map_congr_left
  intro sender _
  simp only [Function.comp]
  split
  · exact same sender
  · rfl

/-- The frames of the senders stay what they are when it is entered who holds the lock. -/
theorem postings_handOver (ledger : Ledger) (lock : Lock) :
    (ledger.handOver lock).postings = ledger.postings := by
  rw [postings, postings, handOver, List.map_map]
  rfl

/-- The frames of the senders stay what they are when it is entered what came of a poll. -/
theorem postings_follow (ledger : Ledger) (id : TaskId) (gained : Bytes) (polled : Poll Outcome) :
    (ledger.follow id gained polled).postings = ledger.postings :=
  postings_amend fun _ => rfl

/-- A call adds at most the frame that it asks for. -/
theorem postings_register (ledger : Ledger) (connection : Connection) (id : TaskId) (call : Call) :
    (ledger.register connection id call).postings = ledger.postings ∨
      ∃ posting, (ledger.register connection id call).postings = ledger.postings ++ [posting] ∧
        (Move.act (.start id call) : Move σ).request? = some posting.request := by
  cases call with
  | receive | close => exact .inl rfl
  | sendAs packet sequenceId =>
    simp only [register, enlist]
    repeat' split
    · exact .inl rfl
    · exact .inl rfl
    · rename_i frame _
      refine .inr ⟨(entry connection id packet sequenceId none frame).toPosting, ?_, rfl⟩
      simp [postings]
  | send packet =>
    simp only [register, enlist]
    repeat' split
    · exact .inl rfl
    · exact .inl rfl
    · rename_i frame _
      refine .inr ⟨(entry connection id packet connection.sequence.next (some ledger.taken)
        frame).toPosting, ?_, rfl⟩
      simp [postings]

/-- A move adds at most the frame that it asks for. -/
theorem postings_observe (io : Transport σ) (ledger : Ledger) (endpoint : Endpoint σ)
    (move : Move σ) :
    (ledger.observe io endpoint move).postings = ledger.postings ∨
      ∃ posting, (ledger.observe io endpoint move).postings = ledger.postings ++ [posting] ∧
        move.request? = some posting.request := by
  cases move with
  | change change => exact .inl rfl
  | act action =>
    simp only [observe, record]
    split
    · exact .inl rfl
    · rename_i id call polled _
      rw [postings_handOver, postings_follow]
      exact postings_register ledger endpoint.connection id call
    · rw [postings_handOver, postings_follow]
      exact .inl rfl
    · rw [postings_handOver]
      exact .inl (postings_amend fun _ => rfl)
    · exact .inl rfl
    · exact .inl rfl

/-- What has been asked of the senders of a run was asked by its moves, each of which has brought
about at most one sender, in the order of the moves. -/
theorem requests_ofRun (io : Transport σ) (endpoint : Endpoint σ) (moves : List (Move σ))
    (ledger : Ledger) :
    ((ofRun io endpoint moves ledger).postings.map (·.request)).Sublist
      (ledger.postings.map (·.request) ++ moves.filterMap (·.request?)) := by
  induction moves generalizing ledger endpoint with
  | nil => simp [ofRun]
  | cons move moves ih =>
    refine (ih (endpoint.move io move) (ledger.observe io endpoint move)).trans ?_
    rcases postings_observe io ledger endpoint move with same | ⟨posting, added, asked⟩
    · rw [same]
      refine List.Sublist.append (List.Sublist.refl _) ?_
      exact (List.sublist_cons_self move moves).filterMap _
    · rw [added, List.filterMap_cons_some asked, List.map_append, List.append_assoc]
      exact List.Sublist.refl _

end Ledger

end Cmpp
