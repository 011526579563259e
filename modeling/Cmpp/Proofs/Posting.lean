import Cmpp.Proofs.Completion
import Cmpp.Proofs.Link
import Cmpp.Proofs.Senders
import Cmpp.Proofs.Streams

/-!
# Posting

What is done at the ends of a link over which packets are delivered from left to right (`Duty`), and
what comes of it at the left end. Nothing goes wrong there while the transport refuses nothing: no
sender fails or is stalled (`Endpoint.Posts`). So the ledger tells that the packets were queued up
one after another, each under the number that was its turn (`Ledger.Carries`), and what has been
handed over is the front of their frames (`Ledger.Carries.output_prefix`).
-/

namespace Cmpp

variable {σ : Type} {io : Transport σ}

/-- A version can carry a packet: it has the fields of the packet for its command, and there is a
frame for the packet that it allows. -/
structure Packet.FitFor (packet : Packet) (version : Version) : Prop where
  /-- The version has the fields for the command. -/
  known : packet.KnownTo version
  /-- The packet is encoded, and its frame is allowed. -/
  encoded : ∃ sequenceId frame, encodeFrame version packet sequenceId = .ok frame

/-- A packet that a version can carry has a frame under every sequence number. -/
theorem Packet.FitFor.encode {packet : Packet} {version : Version} (fit : packet.FitFor version)
    (sequenceId : UInt32) : ∃ frame, encodeFrame version packet sequenceId = .ok frame := by
  obtain ⟨other, bytes, encoded⟩ := fit.encoded
  obtain ⟨written, allowed⟩ := encodeFrame_eq_ok.mp encoded
  obtain ⟨fields, shaped, rfl⟩ := Packet.encode_eq_ok.mp written
  have rewritten : packet.encode sequenceId = .ok (frame packet.command sequenceId fields) :=
    Packet.encode_eq_ok.mpr ⟨fields, shaped, rfl⟩
  have same : (frame packet.command sequenceId fields).length =
      (frame packet.command other fields).length := by
    simp only [frame, List.length_append, length_word]
  exact ⟨_, encodeFrame_eq_ok.mpr ⟨rewritten, same ▸ allowed⟩⟩

/-- What is done at the ends of a link over which a version's packets are delivered from left to
right: the left end makes calls to send, the right end makes calls to receive, and both poll their
tasks and set their lifecycle labels as they like. -/
inductive Duty (version : Version) : End → Action → Prop
  /-- A packet is sent. -/
  | send (id : TaskId) {packet : Packet} (fit : packet.FitFor version) :
    Duty version .left (.start id (.send packet))
  /-- A packet is to be received. -/
  | receive (id : TaskId) : Duty version .right (.start id .receive)
  /-- A task is polled. -/
  | poll (side : End) (id : TaskId) : Duty version side (.poll id)
  /-- The lifecycle label is set. -/
  | label (side : End) (lifecycle : Lifecycle) : Duty version side (.setLifecycle lifecycle)

/-- Either end keeps to its errand. -/
theorem Duty.serves {version : Version} {side : End} {action : Action}
    (duty : Duty version side action) : action.Serves side.errand := by
  cases duty with
  | send | receive => rfl
  | poll | label => trivial

/-- What is sent is known to the version. -/
theorem Duty.known {version : Version} {side : End} {action : Action} {reply : Reply}
    {packet : Packet} (duty : Duty version side action)
    (sent : Link.sent? ⟨side, action, reply⟩ = some packet) : packet.KnownTo version := by
  cases duty with
  | send id fit =>
    cases reply with
    | polled => exact Option.some.inj sent ▸ fit.known
    | sequence | done | misnamed => cases sent
  | receive => cases sent
  | poll side | label side => cases side <;> cases sent

/-- Nobody is given up. -/
theorem Duty.ne_cancel {version : Version} {side : End} {action : Action}
    (duty : Duty version side action) (id : TaskId) : action ≠ .cancel id := by
  rintro rfl
  cases duty

/-! ## The end that sends -/

/-- The call to send a packet for which there is a frame is registered. -/
theorem Connection.register_send {connection : Connection} {id : TaskId} {packet : Packet}
    {frame : Bytes} (opened : ¬connection.closed) (running : ¬connection.sequence.stopped)
    (encoded : encodeFrame connection.version packet connection.sequence.next = .ok frame) :
    connection.register id (.send packet) =
      (.ok (.sending (.numbered connection.sequence.next) connection.sequence.next frame
          (.writing frame)),
        { connection with
          sequence := { connection.sequence with next := connection.sequence.next + 1 }
          writeLock := connection.writeLock.join id }) := by
  simp [Connection.register, registerFrame, Sequence.take, opened, running, encoded]

namespace Endpoint

variable {endpoint : Endpoint σ} {id : TaskId}

/-- An end that has sent packets under numbers of its own, and nothing has gone wrong. -/
structure Posts (endpoint : Endpoint σ) : Prop where
  /-- There are more numbers. -/
  running : ¬endpoint.connection.sequence.stopped
  /-- A sender is to be told the number that it sends under, and none is stalled. -/
  tasks : ∀ id outcome sequenceId frame rest,
    endpoint.connection.task? id = some (.sending outcome sequenceId frame rest) →
      outcome = .numbered sequenceId ∧ rest ≠ .stalled

/-- A sender on an open connection goes on or succeeds as long as the transport refuses nothing. -/
theorem advance_posts {outcome : Outcome} {sequenceId : UInt32} {frame : Bytes}
    {rest : Transmission} {progress : Progress} {after : Endpoint σ}
    (opened : ¬endpoint.connection.closed) (going : rest ≠ .stalled)
    (advanced : endpoint.advance io id (.sending outcome sequenceId frame rest) =
      (progress, after))
    (unrefused : ¬after.line.Refused) :
    progress = .finished outcome ∨
      ∃ woken left, progress = .suspended woken (.sending outcome sequenceId frame left) ∧
        left ≠ .stalled := by
  simp only [advance, advanceSending, if_neg opened] at advanced
  split at advanced
  · cases polled : rest.poll io endpoint.connection.writeBuffer endpoint.line with
    | mk result others =>
      obtain ⟨left, buffer, line⟩ := others
      have refused := Transmission.poll_refused (fun stalled => (going stalled).elim) polled
      rw [polled] at advanced
      rcases result with (failure | _) | woken
      · cases advanced
        exact (unrefused (refused (.inl ⟨failure, rfl⟩))).elim
      · cases advanced
        exact .inl rfl
      · cases advanced
        exact .inr ⟨woken, left, rfl, fun stalled => unrefused (refused (.inr stalled))⟩
  · cases advanced
    exact .inr ⟨false, rest, rfl, going⟩

namespace Posts

/-- A task may be forgotten. -/
theorem forget (posts : endpoint.Posts) (id : TaskId) :
    Posts { endpoint with connection := endpoint.connection.forget id } where
  running := posts.running
  tasks other outcome sequenceId frame rest found := by
    obtain ⟨-, there⟩ := Connection.task?_of_forget found
    exact posts.tasks other outcome sequenceId frame rest there

/-- A sender that is to be told the number that it sends under, and is not stalled, may be kept. -/
theorem keep {sequenceId : UInt32} {frame : Bytes} {rest : Transmission} (posts : endpoint.Posts)
    (going : rest ≠ .stalled) :
    Posts { endpoint with
      connection := endpoint.connection.keep id
        (.sending (.numbered sequenceId) sequenceId frame rest) } where
  running := posts.running
  tasks other outcome sequenceId frame rest found := by
    rcases Connection.task?_of_keep found with ⟨-, same⟩ | ⟨-, there⟩
    · cases same
      exact ⟨rfl, going⟩
    · exact posts.tasks other outcome sequenceId frame rest there

/-- A poll fails no sender as long as the transport refuses nothing. -/
theorem poll {task : Task} (posts : endpoint.Posts) (serves : endpoint.Serves .sending)
    (found : endpoint.connection.task? id = some task)
    (unrefused : ¬(settle id (endpoint.advance io id task)).2.line.Refused) :
    (settle id (endpoint.advance io id task)).2.Posts ∧
      ∀ error, (settle id (endpoint.advance io id task)).1 ≠ .ready (.failed error) := by
  have errand := serves.tasks id task found
  cases task with
  | receiving | closing => cases errand
  | sending outcome sequenceId frame rest =>
    obtain ⟨rfl, going⟩ := posts.tasks id outcome sequenceId frame rest found
    obtain ⟨readBuffer, writeBuffer, line, changed⟩ := advance_frame endpoint io id
      (.sending (.numbered sequenceId) sequenceId frame rest)
    cases advanced : endpoint.advance io id
        (.sending (.numbered sequenceId) sequenceId frame rest) with
    | mk progress after =>
      rw [advanced] at changed unrefused
      have line : (settle id (progress, after)).2.line = after.line := by rw [settle_snd]
      rw [line] at unrefused
      have postsAfter : after.Posts := by
        subst changed
        exact ⟨posts.running, posts.tasks⟩
      rcases advance_posts serves.opened going advanced unrefused with
        rfl | ⟨woken, left, rfl, still⟩
      · exact ⟨postsAfter.forget id, fun error failed => by cases failed⟩
      · exact ⟨postsAfter.keep still, fun error failed => by cases failed⟩

/-- Nobody has sent anything when a connection is opened. -/
theorem establish (io : Transport σ) (config : Config) (state : σ) :
    (Endpoint.establish io config state).Posts where
  running := Bool.false_ne_true
  tasks id outcome sequenceId frame rest found := by
    simp [Endpoint.establish, Connection.ofConfig, Connection.task?] at found

/-- The call to send a packet for which there is a frame is registered, and its task is as it should
be. -/
theorem enter {packet : Packet} {frame : Bytes} (posts : endpoint.Posts) (id : TaskId)
    (serves : endpoint.Serves .sending)
    (encoded : encodeFrame endpoint.connection.version packet endpoint.connection.sequence.next =
      .ok frame) :
    ∃ next task, endpoint.connection.register id (.send packet) = (.ok task, next) ∧
      Posts { endpoint with connection := next.keep id task } ∧
      Serves { endpoint with connection := next.keep id task } .sending := by
  let next : Connection := { endpoint.connection with
    sequence := { endpoint.connection.sequence with next := endpoint.connection.sequence.next + 1 }
    writeLock := endpoint.connection.writeLock.join id }
  have posted : Posts { endpoint with connection := next } := ⟨posts.running, posts.tasks⟩
  have served : Serves { endpoint with connection := next } .sending :=
    ⟨serves.opened, serves.tasks⟩
  exact ⟨_, _, Connection.register_send serves.opened posts.running encoded, posted.keep (by simp),
    served.keep rfl⟩

end Posts

end Endpoint

/-- A version's packets are sent at the left end without failing, as long as the transport refuses
nothing. -/
theorem Endpoint.Posts.step {endpoint : Endpoint σ} {version : Version} {action : Action}
    (posts : endpoint.Posts) (serves : endpoint.Serves .sending)
    (same : endpoint.connection.version = version) (duty : Duty version .left action)
    (unrefused : ¬(endpoint.step io action).2.line.Refused) :
    (endpoint.step io action).2.Posts ∧
      ∀ error, (endpoint.step io action).1.outcome? ≠ some (.failed error) := by
  have fine : ∀ {polled : Poll Outcome}, (∀ error, polled ≠ .ready (.failed error)) →
      ∀ error, (Reply.polled polled).outcome? ≠ some (.failed error) := by
    intro polled fine error failed
    exact fine error (Reply.polled.inj (Reply.outcome?_eq_some.mp failed))
  cases duty with
  | @send id packet fit =>
    cases free : endpoint.connection.task? id with
    | some task =>
      simp only [Endpoint.step, free]
      exact ⟨posts, by simp [Reply.outcome?]⟩
    | none =>
      obtain ⟨frame, encoded⟩ := fit.encode endpoint.connection.sequence.next
      rw [← same] at encoded
      obtain ⟨next, task, registered, entered, entering⟩ := posts.enter id serves encoded
      have kept : (next.keep id task).task? id = some task := Connection.task?_keep_self
      have stepped : endpoint.step io (.start id (.send packet)) = _ := Endpoint.step_start free _
      simp only [registered] at stepped
      rw [Endpoint.step_poll kept] at stepped
      rw [stepped] at unrefused ⊢
      have polled := entered.poll entering kept unrefused
      exact ⟨polled.1, fine polled.2⟩
  | poll _ id =>
    cases found : endpoint.connection.task? id with
    | none =>
      simp only [Endpoint.step, found]
      exact ⟨posts, by simp [Reply.outcome?]⟩
    | some task =>
      rw [Endpoint.step_poll found] at unrefused ⊢
      have polled := posts.poll serves found unrefused
      exact ⟨polled.1, fine polled.2⟩
  | label _ lifecycle =>
    simp only [Endpoint.step, Connection.setLifecycle]
    refine ⟨?_, by simp [Reply.outcome?]⟩
    split
    · exact posts
    · exact ⟨posts.running, posts.tasks⟩

/-! ## The ledger of the end that sends -/

/-- A ledger that tells that packets were queued up to be sent, each under the number that was its
turn, and that none was left unfinished for good. -/
structure Ledger.Carries (ledger : Ledger) (packets : List Packet) : Prop where
  /-- A number was taken for every packet. -/
  taken : ledger.taken = packets.length
  /-- The packets were queued up in order. -/
  queued : ledger.postings.map (·.packet) = packets
  /-- Each took the number that was its turn. -/
  turns : ledger.postings.map (·.turn) = (List.range packets.length).map some
  /-- Nobody was interrupted. -/
  undisturbed : ∀ sender ∈ ledger.senders, ∀ ending, sender.ending = some ending →
    ¬ending.Interrupts

namespace Ledger

variable {ledger : Ledger} {packets : List Packet} {id : TaskId}

/-- Senders that have sent the whole of their frames, or wait for those before them, have sent the
front of all frames. -/
theorem segments_prefix {senders : List Sender}
    (front : ∀ sender ∈ senders, sender.segment <+: sender.frame)
    (whole : ∀ sender ∈ senders, ¬Entry.live sender → sender.segment = sender.frame)
    (order : senders.Pairwise fun earlier later => later.segment ≠ [] → ¬Entry.live earlier) :
    senders.flatMap (·.segment) <+: senders.flatMap (·.frame) := by
  induction senders with
  | nil => exact List.prefix_rfl
  | cons sender senders ih =>
    obtain ⟨waiting, order⟩ := List.pairwise_cons.mp order
    rw [List.flatMap_cons, List.flatMap_cons]
    by_cases live : Entry.live sender
    · have silent : senders.flatMap (·.segment) = [] :=
        List.flatMap_eq_nil_iff.mpr fun later inside =>
          Decidable.of_not_not fun sent => waiting later inside sent live
      rw [silent, List.append_nil]
      exact (front sender List.mem_cons_self).trans (List.prefix_append _ _)
    · rw [whole sender List.mem_cons_self live, List.prefix_append_right_inj]
      exact ih (fun other inside => front other (List.mem_cons_of_mem _ inside))
        (fun other inside => whole other (List.mem_cons_of_mem _ inside)) order

namespace Carries

/-- Nothing is entered when a connection is opened. -/
theorem empty : Carries {} [] :=
  ⟨rfl, rfl, rfl, by simp⟩

/-- Entering who holds the lock changes none of this. -/
theorem handOver (carries : ledger.Carries packets) (lock : Lock) :
    (ledger.handOver lock).Carries packets where
  taken := carries.taken
  queued := by rw [postings_handOver, carries.queued]
  turns := by rw [postings_handOver, carries.turns]
  undisturbed sender member := by
    obtain ⟨before, inside, rfl⟩ := List.mem_map.mp member
    exact carries.undisturbed before inside

/-- Entering a poll in which nobody failed changes none of this. -/
theorem follow {polled : Poll Outcome} (carries : ledger.Carries packets) (gained : Bytes)
    (fine : ∀ error, polled ≠ .ready (.failed error)) :
    (ledger.follow id gained polled).Carries packets where
  taken := carries.taken
  queued := by rw [postings_follow, carries.queued]
  turns := by rw [postings_follow, carries.turns]
  undisturbed sender member ending ended := by
    obtain ⟨before, inside, rfl⟩ := List.mem_map.mp member
    split at ended
    · cases polled with
      | pending => cases ended
      | ready outcome =>
        cases ended
        cases outcome with
        | failed error => exact (fine error rfl).elim
        | numbered | sent | received | closed => exact fun interrupts => interrupts
    · exact carries.undisturbed before inside ending ended

/-- A packet that is queued up to be sent comes after all others. -/
theorem register {connection : Connection} {packet : Packet} {frame : Bytes}
    (carries : ledger.Carries packets) (id : TaskId) (opened : ¬connection.closed)
    (running : ¬connection.sequence.stopped)
    (encoded : encodeFrame connection.version packet connection.sequence.next = .ok frame) :
    (ledger.register connection id (.send packet)).Carries (packets ++ [packet]) := by
  have entered : ledger.register connection id (.send packet) =
      ⟨ledger.senders ++ [entry connection id packet connection.sequence.next
        (some ledger.taken) frame], ledger.taken + 1⟩ := by
    simp [Ledger.register, Ledger.enlist, opened, running, encoded]
  have postings : (ledger.register connection id (.send packet)).postings =
      ledger.postings ++ [(entry connection id packet connection.sequence.next
        (some ledger.taken) frame).toPosting] := by
    rw [entered, Ledger.postings, List.map_append]
    rfl
  refine ⟨?_, ?_, ?_, ?_⟩
  · rw [entered, carries.taken, List.length_append, List.length_singleton]
  · rw [postings, List.map_append, carries.queued]
    rfl
  · rw [postings, List.map_append, carries.turns, List.length_append, List.length_singleton,
      List.range_succ, List.map_append, ← carries.taken]
    rfl
  · rw [entered]
    intro sender member ending ended
    rcases List.mem_append.mp member with old | new
    · exact carries.undisturbed sender old ending ended
    · cases List.mem_singleton.mp new
      cases ended

/-- The packet that was queued up in a certain turn carries the number of this turn. -/
theorem posting {version : Version} {turn : Nat} {posting : Posting}
    (carries : ledger.Carries packets) (posted : Posted version ledger.taken ledger.postings)
    (found : ledger.postings[turn]? = some posting) :
    packets[turn]? = some posting.packet ∧ posting.sequenceId = UInt32.ofNat turn := by
  have packet : packets[turn]? = some posting.packet := by
    rw [← carries.queued, List.getElem?_map, found]
    rfl
  have number : posting.turn = some turn := by
    have turns := congrArg (·[turn]?) carries.turns
    obtain ⟨inside, -⟩ := List.getElem?_eq_some_iff.mp packet
    simpa [found, inside] using turns
  exact ⟨packet, (posted.numbered posting (List.mem_of_getElem? found) turn number).2⟩

/-- What the end has handed over is the front of the frames of the packets. -/
theorem output_prefix {config : Config} {endpoint : Endpoint σ} (carries : ledger.Carries packets)
    (agrees : ledger.Agrees config endpoint) :
    endpoint.output <+: (ledger.postings.map (·.frame)).flatten := by
  have frames : (ledger.postings.map (·.frame)).flatten =
      ledger.senders.flatMap (·.frame) := by
    rw [Ledger.postings, List.map_map]
    rfl
  rw [agrees.tracks.output_eq, frames]
  apply segments_prefix
  · intro sender member
    exact (agrees.faithful member).front
  · intro sender member ended
    cases ending : sender.ending with
    | none => exact (ended (by simp [Entry.live, Entry.ending, ending])).elim
    | some ending' =>
      exact (agrees.faithful member).complete ending' ending
        (carries.undisturbed sender member ending' ending)
  · refine agrees.tracks.order.imp_of_mem fun _ inside order sent => order ?_
    exact Decidable.of_not_not fun never => sent (agrees.tracks.silent _ inside never)

/-- What is done at the end that sends is entered. -/
theorem observe {endpoint : Endpoint σ} {version : Version} {action : Action}
    (carries : ledger.Carries packets) (serves : endpoint.Serves .sending) (posts : endpoint.Posts)
    (same : endpoint.connection.version = version) (duty : Duty version .left action)
    (fine : ∀ error, (endpoint.step io action).1.outcome? ≠ some (.failed error)) :
    (ledger.observe io endpoint (.act action)).Carries
      (packets ++ (Link.sent? ⟨.left, action, (endpoint.step io action).1⟩).toList) := by
  have polled : ∀ {polled : Poll Outcome}, (endpoint.step io action).1 = .polled polled →
      ∀ error, polled ≠ .ready (.failed error) := by
    rintro polled replied error rfl
    exact fine error (by rw [replied]; rfl)
  cases duty with
  | @send id packet fit =>
    simp only [Ledger.observe]
    cases replied : (endpoint.step io (.start id (.send packet))).1 with
    | misnamed => simpa [record, Link.sent?] using carries
    | sequence | done =>
      simp only [Endpoint.step] at replied
      split at replied <;> cases replied
    | polled result =>
      obtain ⟨frame, encoded⟩ := fit.encode endpoint.connection.sequence.next
      rw [← same] at encoded
      have registered := carries.register id serves.opened posts.running encoded
      exact (registered.follow _ (polled replied)).handOver _
  | poll _ id =>
    simp only [Ledger.observe, Link.sent?, Option.toList_none, List.append_nil]
    cases replied : (endpoint.step io (.poll id)).1 with
    | misnamed | sequence | done => exact carries
    | polled result => exact (carries.follow _ (polled replied)).handOver _
  | label _ lifecycle =>
    simpa only [Ledger.observe, Link.sent?, Option.toList_none, List.append_nil, Endpoint.step,
      record] using carries

end Carries

end Ledger

end Cmpp
