import Cmpp.Proofs.Isolation
import Cmpp.Proofs.Posting
import Cmpp.Proofs.Streams
import Mathlib

/-!
# Delivery

Packets that are sent at one end of a link are received at the other, in the order in which they
were sent, each under the number that was its turn (`Link.delivers_in_turn`). What the left end has
handed over is the front of the frames of the packets (`Ledger.Carries.output_prefix`). The pipe
loses nothing, so what has come out at the right end is a front of them too, and the receivers take
one frame each (`Receipts.endings_prefix`).
-/

namespace Cmpp

variable {σ : Type} {io : Transport σ}

/-- What is found in the front of a list is found there in the whole list. -/
theorem getElem?_of_prefix {α : Type} {front whole : List α} {index : Nat} {element : α}
    (inside : front <+: whole) (found : front[index]? = some element) :
    whole[index]? = some element := by
  obtain ⟨short, rfl⟩ := List.getElem?_eq_some_iff.mp found
  exact List.prefix_iff_getElem?.mp inside index short

/-! ## Frames that arrive -/

namespace Encoding

variable {version : Version}

/-- The preamble of an encoded frame announces its length and names its command. -/
theorem preambleOf_frame (encoding : Encoding) :
    preambleOf encoding.frame =
      ⟨announcedLength encoding.frame, encoding.packet.command.id⟩ := by
  have split := encoding.frame_eq
  have rest : encoding.frame.drop 4 =
      word encoding.packet.command.id ++ bodyOf encoding.frame := by
    conv_lhs => rw [split, ← length_word (announcedLength encoding.frame), List.drop_left]
  have second : (encoding.frame.drop 4).take 4 = word encoding.packet.command.id := by
    rw [rest, ← length_word encoding.packet.command.id, List.take_left]
  rw [preambleOf, second, ofWord_word]
  rfl

/-- The preamble of an encoded frame that may be sent is in order. -/
theorem wellFramed (encoding : Encoding) (allowed : encoding.frame.length ≤ version.maxLength) :
    WellFramed version encoding.frame := by
  obtain ⟨least, -, announced⟩ := Packet.announces_length encoding.encoded
  have checked := encoding.allowed_iff_accepted.mp (checkFrameLength_eq_ok.mpr allowed)
  have accepted := checkTotalLength_eq_ok.mp checked
  rw [announced] at accepted
  constructor
  · rw [encoding.preambleOf_frame]
    exact announced
  · exact accepted
  · rw [encoding.preambleOf_frame]
    exact Command.isValidId_id _

/-- The body of an encoded frame is decoded as the packet that arrives. -/
theorem decodeBody_frame (encoding : Encoding) (known : encoding.packet.KnownTo version) :
    decodeBody version (preambleOf encoding.frame) (bodyOf encoding.frame) =
      .ok encoding.arrival := by
  rw [encoding.preambleOf_frame]
  exact decodeBody_eq_ok.mpr ⟨_, known, Packet.decode_encode encoding.encoded⟩

end Encoding

/-- A receiver has taken something, unless it was given up, the connection was closed or the stream
has broken off. -/
theorem Receipt.taken_ne_nil {endpoint : Endpoint σ} {earlier taken : Bytes} {ending : Ending}
    (receipt : Receipt endpoint earlier taken ending) (opened : ¬endpoint.connection.closed)
    (kept : ending ≠ .cancelled) (unbroken : ∀ event ∈ endpoint.line.history, ¬event.BreaksOff) :
    taken ≠ [] := by
  have stands : ∀ bytes, ¬BrokenOff endpoint.line.history bytes := by
    rintro bytes ⟨front, event, inside, breaks, -⟩
    exact unbroken event (inside.subset (by simp)) breaks
  cases receipt with
  | returned comes =>
    cases comes with
    | whole | invalidCommand | invalidTotalLength => simp [word, bigEndian]
    | truncated checked broken => exact (stands _ broken).elim
    | failed failure checked broken => exact (stands _ broken).elim
  | closed checked closed => exact (opened closed).elim
  | cancelled => contradiction

/-- When no more has been delivered than frames whose preambles are in order, the receivers that
have ended were told in turn what the bodies are decoded as. -/
theorem Receipts.endings_prefix {endpoint : Endpoint σ} {earlier : Bytes} {frames : List Bytes}
    {departures : List Departure} (receipts : Receipts endpoint earlier departures)
    (framed : ∀ frame ∈ frames, WellFramed endpoint.connection.version frame)
    (inside : earlier ++ departures.flatMap (·.taken) <+: endpoint.line.delivered)
    (bounded : endpoint.line.delivered <+: earlier ++ frames.flatten)
    (unbroken : ∀ event ∈ endpoint.line.history, ¬event.BreaksOff)
    (opened : ¬endpoint.connection.closed)
    (kept : ∀ departure ∈ departures, departure.ending ≠ .cancelled) :
    departures.map (·.ending) <+: frames.map fun frame => .returned
      (told (decodeBody endpoint.connection.version (preambleOf frame) (bodyOf frame))) := by
  induction frames generalizing earlier departures with
  | nil =>
    cases departures with
    | nil => exact List.prefix_rfl
    | cons next departures =>
      have some := receipts.1.taken_ne_nil opened (kept next List.mem_cons_self) unbroken
      have nothing := (inside.trans bounded).length_le
      have positive := List.length_pos_iff.mpr some
      simp only [List.flatMap_cons, List.flatten_nil, List.length_append, List.length_nil]
        at nothing
      omega
  | cons first frames ih =>
    cases departures with
    | nil => exact List.nil_prefix
    | cons next departures =>
      rw [List.flatMap_cons, ← List.append_assoc] at inside
      rw [List.flatten_cons] at bounded
      have supplied : Supplies (earlier ++ (first ++ frames.flatten)) endpoint.line.history :=
        ⟨.inl bounded, fun front breaks => (unbroken _ (front.subset (by simp)) breaks).elim⟩
      obtain ⟨taken, ending⟩ := receipts.1.of_frame (framed first List.mem_cons_self) supplied
        ((List.prefix_append _ _).trans inside) opened (kept next List.mem_cons_self)
      rw [← taken, ← List.append_assoc] at bounded
      have others := ih receipts.2 (fun frame later => framed frame (List.mem_cons_of_mem _ later))
        inside bounded fun departure later => kept departure (List.mem_cons_of_mem _ later)
      rw [List.map_cons, List.map_cons, ending]
      exact List.cons_prefix_cons.mpr ⟨rfl, others⟩

/-! ## The roll of the end that receives -/

/-- A receiver as its caller sees it. -/
def Departure.seen (departure : Departure) : TaskId × Ending := (departure.id, departure.ending)

/-- When a step at the right end comes to an outcome, it ends in receiving. -/
theorem Link.received_of_outcome {version : Version} {action : Action} {outcome : Outcome}
    (endpoint : Endpoint σ) (io : Transport σ) (duty : Duty version .right action)
    (replied : (endpoint.step io action).1.outcome? = some outcome) :
    ∃ id, received? ⟨.right, action, (endpoint.step io action).1⟩ = some (id, outcome) := by
  have ready : (endpoint.step io action).1 = .polled (.ready outcome) :=
    Reply.outcome?_eq_some.mp replied
  rw [ready]
  cases duty with
  | receive id | poll _ id => exact ⟨id, rfl⟩
  | label _ lifecycle => cases ready

namespace Roll

variable {roll : Roll} {id : TaskId}

/-- A poll is entered with the receiver that ends in it. -/
theorem departures_follow (roll : Roll) (id : TaskId) (held : Bool) (gained : Bytes)
    (polled : Poll Outcome) :
    (roll.follow id held gained polled).callers = roll.callers ∧
      (roll.follow id held gained polled).departures.map (·.seen) =
        roll.departures.map (·.seen) ++
          match polled with
          | .ready outcome => [(id, .returned outcome)]
          | .pending _ => [] := by
  cases polled with
  | pending woken => exact ⟨rfl, (List.append_nil _).symm⟩
  | ready outcome => simp [follow, depart, Departure.seen]

/-- What is done at the end that receives is entered. -/
theorem observe_receives {endpoint : Endpoint σ} {version : Version} {action : Action}
    (roll : Roll) (io : Transport σ) (serves : endpoint.Serves .receiving)
    (duty : Duty version .right action) :
    (roll.observe io endpoint (.act action)).callers = roll.callers ++
        (Link.receiver? ⟨.right, action, (endpoint.step io action).1⟩).toList ∧
      (roll.observe io endpoint (.act action)).departures.map (·.seen) =
        roll.departures.map (·.seen) ++
          (Link.received? ⟨.right, action, (endpoint.step io action).1⟩).toList.map
            fun (id, outcome) => (id, .returned outcome) := by
  cases duty with
  | receive id =>
    simp only [Roll.observe]
    cases replied : (endpoint.step io (.start id .receive)).1 with
    | misnamed | sequence | done => simp [record, Link.receiver?, Link.received?]
    | polled result =>
      have followed := (roll.call id).departures_follow id
        endpoint.connection.readLock.queue.isEmpty
        ((endpoint.step io (.start id .receive)).2.intake.drop endpoint.intake.length) result
      cases result <;> exact followed
  | poll _ id =>
    simp only [Roll.observe, Link.receiver?, Option.toList_none, List.append_nil]
    cases found : endpoint.connection.task? id with
    | none => simp [Endpoint.step, found, record, Link.received?]
    | some task =>
      have errand := serves.tasks id task found
      cases task with
      | sending | closing => cases errand
      | receiving assembly =>
        rw [Endpoint.step_poll found]
        simp only [record, found]
        generalize (Endpoint.settle id (endpoint.advance io id (.receiving assembly))).1 = result
        cases result <;> exact departures_follow ..
  | label _ lifecycle => simp [Roll.observe, record, Endpoint.step, Link.receiver?, Link.received?]

end Roll

/-! ## Both ends -/

/-- What holds of a link over which packets are delivered from left to right, with the ledger of the
left end and the roll of the right end. -/
structure Link.Conveys (link : Link) (config : Config) (ledger : Ledger) (roll : Roll)
    (packets : List Packet) : Prop where
  /-- The pipe loses nothing. -/
  joined : link.Joined
  /-- Nothing has gone wrong at the left end. -/
  posts : link.left.Posts
  /-- The ledger is right. -/
  agrees : ledger.Agrees config link.left
  /-- The ledger tells that the packets were queued up. -/
  carries : ledger.Carries packets
  /-- The version has the fields of the packets for their commands. -/
  known : ∀ packet ∈ packets, packet.KnownTo config.version
  /-- The queues and the tasks of the right end agree. -/
  sound : link.right.connection.Sound
  /-- The roll is right. -/
  accounts : roll.Accounts link.right
  /-- Nobody at the right end was given up. -/
  kept : roll.Kept
  /-- Both ends speak the same version. -/
  version : link.right.connection.version = config.version

namespace Link.Conveys

variable {link : Link} {config : Config} {ledger : Ledger} {roll : Roll} {packets : List Packet}
  {action : Action} {side : End}

/-- Nothing has been sent when a link is opened. -/
theorem establish {left right : Config} (capacity : Nat) (version : right.version = left.version) :
    (Link.establish left right capacity).Conveys left {} {} [] where
  joined := .establish ..
  posts := .establish ..
  agrees := .establish ..
  carries := .empty
  known := by simp
  sound := Connection.sound_ofConfig ..
  accounts := .establish ..
  kept := by simp [Roll.Kept]
  version := version

/-- The receivers that have ended were told of the packets that were queued up, in turn. -/
theorem endings (conveys : link.Conveys config ledger roll packets) :
    roll.departures.map (·.ending) <+: ledger.postings.map fun posting =>
      .returned (.received { posting.packet.trimmed with sequenceId := posting.sequenceId }) := by
  have encodings : ∀ posting ∈ ledger.postings, ∃ encoding : Encoding,
      encoding.packet = posting.packet ∧ encoding.sequenceId = posting.sequenceId ∧
        encoding.frame = posting.frame ∧ encoding.packet.KnownTo config.version ∧
          encoding.frame.length ≤ config.version.maxLength := by
    intro posting member
    have encoded := conveys.agrees.tracks.posted.encoded posting member
    rw [conveys.agrees.version] at encoded
    obtain ⟨written, allowed⟩ := encodeFrame_eq_ok.mp encoded
    have queued : posting.packet ∈ packets := by
      rw [← conveys.carries.queued]
      exact List.mem_map_of_mem member
    exact ⟨⟨_, _, _, written⟩, rfl, rfl, rfl, conveys.known _ queued, allowed⟩
  have framed : ∀ frame ∈ ledger.postings.map (·.frame),
      WellFramed link.right.connection.version frame := by
    intro frame inside
    obtain ⟨posting, member, rfl⟩ := List.mem_map.mp inside
    obtain ⟨encoding, -, -, same, -, allowed⟩ := encodings posting member
    rw [← same, conveys.version]
    exact encoding.wellFramed allowed
  have delivered : link.right.line.delivered <+:
      [] ++ (ledger.postings.map (·.frame)).flatten := by
    have accepted : link.right.line.delivered <+: link.left.line.accepted := by
      rw [conveys.joined.conserved]
      exact List.prefix_append _ _
    have handedOver : link.left.line.accepted <+: link.left.output := List.prefix_append _ _
    exact (accepted.trans handedOver).trans (conveys.carries.output_prefix conveys.agrees)
  have taken : [] ++ roll.departures.flatMap (·.taken) <+: link.right.line.delivered := by
    rw [conveys.accounts.delivered, List.append_assoc]
    exact List.prefix_append _ _
  have told := conveys.accounts.receipts.endings_prefix framed taken delivered
    conveys.joined.receives.unbroken conveys.joined.receiver.opened conveys.kept
  rw [List.map_map] at told
  have same : ledger.postings.map (fun posting => Ending.returned
        (.received { posting.packet.trimmed with sequenceId := posting.sequenceId })) =
      ledger.postings.map ((fun frame => Ending.returned (Cmpp.told
        (decodeBody link.right.connection.version (preambleOf frame) (bodyOf frame)))) ∘
          (·.frame)) := by
    apply List.map_congr_left
    intro posting member
    obtain ⟨encoding, packet, sequenceId, frame, known, -⟩ := encodings posting member
    rw [Function.comp, ← frame, conveys.version, encoding.decodeBody_frame known, ← packet,
      ← sequenceId]
    rfl
  rwa [same]

/-- A step at the left end sends what it begins to send and does not fail. -/
theorem step_left (conveys : link.Conveys config ledger roll packets)
    (duty : Duty config.version .left action) :
    (∀ error, (link.step action .left).1.outcome? ≠ some (.failed error)) ∧
      ∃ next, (link.step action .left).2.Conveys config next roll
        (packets ++ (sent? ⟨.left, action, (link.step action .left).1⟩).toList) := by
  have joined := conveys.joined.step_left duty.serves
  have version := conveys.agrees.version
  obtain ⟨posts, fine⟩ :=
    conveys.posts.step conveys.joined.sender version duty joined.sends.unrefused
  have known : ∀ packet ∈ packets ++ (sent? ⟨.left, action, (link.step action .left).1⟩).toList,
      packet.KnownTo config.version := by
    intro packet member
    rcases List.mem_append.mp member with old | new
    · exact conveys.known packet old
    · exact duty.known (Option.mem_toList.mp new)
  let outside : Move Pipe :=
    .change fun _ => (link.left.step (Pipe.transport .left) action).2.line.state
  have accounts : (roll.observe (Pipe.transport .right) link.right outside).Accounts
      (link.right.move (Pipe.transport .right) outside) :=
    conveys.accounts.observe conveys.sound outside
  refine ⟨fine, ledger.observe (Pipe.transport .left) link.left (.act action), ?_⟩
  exact {
    joined := joined
    posts := posts
    agrees := conveys.agrees.observe (.act action)
    carries := conveys.carries.observe conveys.joined.sender conveys.posts version duty fine
    known := known
    sound := conveys.sound
    accounts := accounts
    kept := conveys.kept
    version := conveys.version }

/-- When a receiver ends, its outcome is that it has received a packet. -/
theorem not_failed (conveys : link.Conveys config ledger roll packets) {departure : Departure}
    (member : departure ∈ roll.departures) (error : Error) :
    departure.ending ≠ .returned (.failed error) := by
  intro failed
  have told := conveys.endings.subset (List.mem_map_of_mem member)
  obtain ⟨posting, -, received⟩ := List.mem_map.mp told
  rw [failed] at received
  cases received

/-- A step at the right end receives what it ends in receiving and does not fail. -/
theorem step_right (conveys : link.Conveys config ledger roll packets)
    (duty : Duty config.version .right action) :
    (∀ error, (link.step action .right).1.outcome? ≠ some (.failed error)) ∧
      ∃ next, (link.step action .right).2.Conveys config ledger next packets ∧
        next.callers = roll.callers ++
          (receiver? ⟨.right, action, (link.step action .right).1⟩).toList ∧
        next.departures.map (·.seen) = roll.departures.map (·.seen) ++
          (received? ⟨.right, action, (link.step action .right).1⟩).toList.map
            fun (id, outcome) => (id, .returned outcome) := by
  have joined := conveys.joined.step_right duty.serves
  obtain ⟨callers, departures⟩ :=
    roll.observe_receives (Pipe.transport .right) conveys.joined.receiver duty
  have uncancelled : ∀ id, (Move.act (.cancel id) : Move Pipe) ∉ [.act action] := by
    intro id inside
    exact duty.ne_cancel id (Move.act.inj (List.mem_singleton.mp inside)).symm
  have version : (link.right.move (Pipe.transport .right) (.act action)).connection.version =
      config.version :=
    Endpoint.move_keeps (·.connection.version = config.version)
      (fun turn same => turn.version.trans same) conveys.version
  let outside : Move Pipe :=
    .change fun _ => (link.right.step (Pipe.transport .right) action).2.line.state
  have agrees : (ledger.observe (Pipe.transport .left) link.left outside).Agrees config
      (link.left.move (Pipe.transport .left) outside) := conveys.agrees.observe outside
  have after : (link.step action .right).2.Conveys config ledger
      (roll.observe (Pipe.transport .right) link.right (.act action)) packets := {
    joined := joined
    posts := ⟨conveys.posts.running, conveys.posts.tasks⟩
    agrees := agrees
    carries := conveys.carries
    known := conveys.known
    sound := Endpoint.run_sound conveys.sound [.act action]
    accounts := conveys.accounts.observe conveys.sound (.act action)
    kept := conveys.kept.ofRun uncancelled
    version := version }
  refine ⟨fun error failed => ?_, _, after, callers, departures⟩
  obtain ⟨id, received⟩ := received_of_outcome link.right (Pipe.transport .right) duty failed
  rw [received] at departures
  have last : (id, Ending.returned (.failed error)) ∈
      (roll.observe (Pipe.transport .right) link.right (.act action)).departures.map (·.seen) := by
    rw [departures]
    simp
  obtain ⟨departure, member, seen⟩ := List.mem_map.mp last
  exact after.not_failed member error (congrArg Prod.snd seen)

/-- Whatever is done at the ends of a link, nobody fails, and what has been sent and received is
entered. -/
theorem trace {steps : List (End × Action)} (conveys : link.Conveys config ledger roll packets)
    (duties : ∀ step ∈ steps, Duty config.version step.1 step.2) :
    (∀ entry ∈ link.trace steps, ∀ error, entry.reply.outcome? ≠ some (.failed error)) ∧
      ∃ after posted seen, Conveys after config posted seen
          (packets ++ (link.trace steps).filterMap sent?) ∧
        seen.callers = roll.callers ++ (link.trace steps).filterMap receiver? ∧
        seen.departures.map (·.seen) = roll.departures.map (·.seen) ++
          ((link.trace steps).filterMap received?).map
            fun (id, outcome) => (id, .returned outcome) := by
  induction steps generalizing link ledger roll packets with
  | nil => exact ⟨by simp [Link.trace], link, ledger, roll, by simpa [Link.trace] using conveys,
      by simp [Link.trace], by simp [Link.trace]⟩
  | cons step steps ih =>
    obtain ⟨side, action⟩ := step
    have duty := duties _ List.mem_cons_self
    have others : ∀ step ∈ steps, Duty config.version step.1 step.2 :=
      fun step later => duties step (List.mem_cons_of_mem _ later)
    have stepped : (∀ error, (link.step action side).1.outcome? ≠ some (.failed error)) ∧
        ∃ posted seen, (link.step action side).2.Conveys config posted seen
            (packets ++ (sent? ⟨side, action, (link.step action side).1⟩).toList) ∧
          seen.callers = roll.callers ++
            (receiver? ⟨side, action, (link.step action side).1⟩).toList ∧
          seen.departures.map (·.seen) = roll.departures.map (·.seen) ++
            (received? ⟨side, action, (link.step action side).1⟩).toList.map
              fun (id, outcome) => (id, .returned outcome) := by
      cases side with
      | left =>
        obtain ⟨fine, posted, after⟩ := conveys.step_left duty
        exact ⟨fine, posted, roll, after, by simp [receiver?], by simp [received?]⟩
      | right =>
        obtain ⟨fine, seen, after, callers, departures⟩ := conveys.step_right duty
        exact ⟨fine, ledger, seen, by simpa [sent?] using after, callers, departures⟩
    obtain ⟨fine, posted, seen, after, callers, departures⟩ := stepped
    obtain ⟨fineLater, last, postedLast, seenLast, afterLast, callersLast, departuresLast⟩ :=
      ih after others
    simp only [List.filterMap_eq_flatMap_toList] at afterLast callersLast departuresLast
    simp only [Link.trace, List.filterMap_eq_flatMap_toList, List.flatMap_cons]
    refine ⟨?_, last, postedLast, seenLast, ?_, ?_, ?_⟩
    · intro entry member
      rcases List.mem_cons.mp member with rfl | later
      · exact fine
      · exact fineLater entry later
    · rwa [List.append_assoc] at afterLast
    · rw [callersLast, callers, List.append_assoc]
    · rw [departuresLast, departures, List.append_assoc, List.map_append]

end Link.Conveys

/-- When packets that a version can carry are sent at the left end of a link, as fast as they like
and over however narrow a pipe, and received at the right end, nobody fails, in whatever order the
tasks are polled. The receivers end in the order of their calls. Each receives the packet whose turn
it is, trimmed, under the number that is its turn, as far as 32 bits go. -/
theorem Link.delivers_in_turn (left right : Config) (capacity : Nat)
    (same : right.version = left.version) (steps : List (End × Action))
    (duties : ∀ step ∈ steps, Duty left.version step.1 step.2) :
    let trace := (establish left right capacity).trace steps
    (∀ entry ∈ trace, ∀ error, entry.reply.outcome? ≠ some (.failed error)) ∧
      ∀ (turn : Nat) (id : TaskId) (outcome : Outcome),
        (trace.filterMap received?)[turn]? = some (id, outcome) →
          (trace.filterMap receiver?)[turn]? = some id ∧
            ∃ packet, (trace.filterMap sent?)[turn]? = some packet ∧
              outcome = .received { packet.trimmed with sequenceId := UInt32.ofNat turn } := by
  intro trace
  obtain ⟨fine, after, ledger, roll, conveys, callers, departures⟩ :=
    (Conveys.establish capacity same).trace duties
  refine ⟨fine, fun turn id outcome received => ?_⟩
  have entered : (roll.departures.map (·.seen))[turn]? = some (id, .returned outcome) := by
    rw [departures, List.map_nil, List.nil_append, List.getElem?_map, received]
    rfl
  rw [List.getElem?_map] at entered
  obtain ⟨departure, found, seen⟩ := Option.map_eq_some_iff.mp entered
  obtain ⟨rfl, ended⟩ := Prod.mk.inj seen
  refine ⟨?_, ?_⟩
  · have order := conveys.accounts.order conveys.joined.receiver.opened conveys.kept
    rw [callers, List.nil_append] at order
    have inTurn : roll.departures.map (·.id) <+: trace.filterMap receiver? :=
      ⟨_, order.symm⟩
    exact getElem?_of_prefix inTurn (by rw [List.getElem?_map, found]; rfl)
  · have told : (ledger.postings.map fun posting => Ending.returned (.received
        { posting.packet.trimmed with sequenceId := posting.sequenceId }))[turn]? =
          some (.returned outcome) :=
      getElem?_of_prefix conveys.endings (by rw [List.getElem?_map, found, ← ended]; rfl)
    rw [List.getElem?_map] at told
    obtain ⟨posting, queued, same⟩ := Option.map_eq_some_iff.mp told
    obtain ⟨sent, number⟩ := conveys.carries.posting conveys.agrees.tracks.posted queued
    rw [number] at same
    exact ⟨posting.packet, sent, (Ending.returned.inj same).symm⟩

namespace Link

/-- A login under a name that ends in NUL. -/
def login : Packet := ⟨.connect, 0, { sourceAddr := "17\x00" }⟩

/-- A link with small buffers, over a pipe that does not hold the frame of the login. -/
def narrow : Link :=
  establish { version := .v30, writeCapacity := 8 } { version := .v30, readCapacity := 5 } 20

/-- A login and a test of the link are sent and received, all at a time. -/
def overlapping : List (End × Action) :=
  [(.right, .start 7 .receive), (.left, .start 1 (.send login)), (.left, .start 2 (.send .probe)),
    (.right, .start 8 .receive), (.right, .poll 8), (.right, .poll 7), (.left, .poll 2),
    (.left, .poll 1), (.right, .poll 7), (.left, .poll 2), (.right, .poll 8)]

/-- Both arrive, each with the receiver whose turn it is, and the NUL is gone. -/
theorem delivers_in_turn_narrow :
    (narrow.trace overlapping).filterMap received? =
      [(7, .received ⟨.connect, 0, { sourceAddr := "17" }⟩),
        (8, .received ⟨.activeTest, 1, ()⟩)] := by
  have fitLogin : login.FitFor .v30 := ⟨rfl, 0, _, rfl⟩
  have fitProbe : Packet.probe.FitFor .v30 := ⟨rfl, 0, _, rfl⟩
  have duties : ∀ step ∈ overlapping, Duty .v30 step.1 step.2 := by
    simp only [overlapping, List.forall_mem_cons]
    exact ⟨.receive 7, .send 1 fitLogin, .send 2 fitProbe, .receive 8, .poll .right 8,
      .poll .right 7, .poll .left 2, .poll .left 1, .poll .right 7, .poll .left 2, .poll .right 8,
      by simp⟩
  obtain ⟨-, inTurn⟩ := delivers_in_turn { version := .v30, writeCapacity := 8 }
    { version := .v30, readCapacity := 5 } 20 rfl overlapping duties
  have sent : (narrow.trace overlapping).filterMap sent? = [login, .probe] := by cbv
  have receivers : (narrow.trace overlapping).filterMap receiver? = [7, 8] := by cbv
  have both : ((narrow.trace overlapping).filterMap received?).length = 2 := by cbv
  obtain ⟨⟨first, told⟩, ⟨second, toldSecond⟩, received⟩ := List.length_eq_two.mp both
  obtain ⟨isFirst, packet, found, rfl⟩ := inTurn 0 first told (congrArg (·[0]?) received)
  obtain ⟨isSecond, other, foundSecond, rfl⟩ :=
    inTurn 1 second toldSecond (congrArg (·[1]?) received)
  obtain rfl := Option.some.inj (isFirst.symm.trans (congrArg (·[0]?) receivers))
  obtain rfl := Option.some.inj (isSecond.symm.trans (congrArg (·[1]?) receivers))
  obtain rfl := Option.some.inj (found.symm.trans (congrArg (·[0]?) sent))
  obtain rfl := Option.some.inj (foundSecond.symm.trans (congrArg (·[1]?) sent))
  rw [received]
  rfl

end Link

end Cmpp
