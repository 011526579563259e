import Cmpp.Proofs.Receivers
import Cmpp.Proofs.Receiving
import Mathlib

/-!
# Frames are received in turn

On a stream of frames whose preambles are in order, the receivers get one frame each, in the order
of their calls, whatever the bodies are, however the stream is cut into pieces and in whatever order
the tasks are polled (`Endpoint.receives_in_turn`). A frame announces its own length, so a receiver
takes exactly its bytes (`Receipt.of_frame`), and the next receiver starts with the next frame.
-/

namespace Cmpp

variable {σ : Type} {io : Transport σ}

/-- The two words that a frame begins with. -/
def preambleOf (frame : Bytes) : Preamble :=
  ⟨ofWord (frame.take 4), ofWord ((frame.drop 4).take 4)⟩

/-- A frame whose preamble is in order: it announces the frame's own length, which the version
accepts, and names a command in one of the valid ranges. The body may be anything. -/
structure WellFramed (version : Version) (frame : Bytes) : Prop where
  /-- The length announced is that of the frame. -/
  announced : (preambleOf frame).totalLength.toNat = frame.length
  /-- The version accepts it. -/
  accepted : version.accepts frame.length
  /-- The command number is valid. -/
  valid : Command.isValidId (preambleOf frame).commandId

/-- The reads of which a journal tells deliver a stream: in order, as far as it goes, and without
failing or ending before all of it has been delivered. What comes after it may be anything. -/
structure Supplies (stream : Bytes) (history : List Event) : Prop where
  /-- What has been delivered is the front of the stream, or the stream is the front of it. -/
  agrees : history.flatMap Event.delivered <+: stream ∨ stream <+: history.flatMap Event.delivered
  /-- Reads fail, or come to the end, only after the whole stream. -/
  unbroken : ∀ {front event}, front ++ [event] <+: history → event.BreaksOff →
    stream <+: front.flatMap Event.delivered

namespace WellFramed

variable {version : Version} {frame : Bytes}

/-- A frame is at least as long as a header. -/
theorem length_ge (framed : WellFramed version frame) : headerLength ≤ frame.length :=
  headerLength_le_of_accepts framed.accepted

/-- A frame is its preamble and its body. -/
theorem eq_append (framed : WellFramed version frame) :
    frame = word (preambleOf frame).totalLength ++
      (word (preambleOf frame).commandId ++ bodyOf frame) := by
  have long := framed.length_ge
  simp only [headerLength] at long
  have first : word (preambleOf frame).totalLength = frame.take 4 :=
    word_ofWord (List.length_take_of_le (by omega))
  have second : word (preambleOf frame).commandId = (frame.drop 4).take 4 :=
    word_ofWord (List.length_take_of_le (by rw [List.length_drop]; omega))
  have rest : bodyOf frame = (frame.drop 4).drop 4 := by rw [List.drop_drop]; rfl
  rw [first, second, rest, List.take_append_drop, List.take_append_drop]

end WellFramed

/-! ## One frame -/

/-- Whether one of two lists is the front of the other. -/
def Meets {α : Type} (first second : List α) : Prop := first <+: second ∨ second <+: first

/-- Two lists of which one is the front of the other begin alike. -/
theorem Meets.append {α : Type} {head other first second : List α}
    (meets : Meets (head ++ first) (other ++ second)) (same : head.length = other.length) :
    head = other ∧ Meets first second := by
  rcases meets with ⟨rest, joined⟩ | ⟨rest, joined⟩
  · rw [List.append_assoc] at joined
    obtain ⟨heads, tails⟩ := List.append_inj joined same
    exact ⟨heads, .inl ⟨rest, tails⟩⟩
  · rw [List.append_assoc] at joined
    obtain ⟨heads, tails⟩ := List.append_inj joined same.symm
    exact ⟨heads.symm, .inr ⟨rest, tails⟩⟩

/-- Two fronts of a list meet. -/
theorem meets_of_prefix {α : Type} {first second whole : List α} (inFirst : first <+: whole)
    (inSecond : second <+: whole) : Meets first second :=
  List.prefix_or_prefix_of_prefix inFirst inSecond

/-- Streams that begin with words begin with the same word. -/
theorem Meets.word {value other : UInt32} {first second : Bytes}
    (meets : Meets (word value ++ first) (word other ++ second)) :
    value = other ∧ Meets first second := by
  obtain ⟨same, rest⟩ := meets.append (by simp)
  have equal := congrArg ofWord same
  rw [ofWord_word, ofWord_word] at equal
  exact ⟨equal, rest⟩

variable {endpoint : Endpoint σ} {version : Version} {frame more earlier taken : Bytes}
  {ending : Ending}

/-- The body of a frame has the length that its preamble announces. -/
theorem WellFramed.length_bodyOf (framed : WellFramed version frame) :
    (bodyOf frame).length = (preambleOf frame).bodyLength := by
  rw [Preamble.bodyLength, framed.announced, bodyOf, List.length_drop]

/-- An assembly whose bytes begin like a frame has fewer bytes than the frame. -/
theorem WellFramed.exceeds {assembly : Assembly} (framed : WellFramed version frame)
    (checked : assembly.Checked version) (inside : frame ++ more <+: assembly.bytes) : False := by
  have long := framed.length_ge
  have fits := inside.length_le
  rw [List.length_append] at fits
  simp only [headerLength] at long
  cases assembly with
  | length got =>
    simp only [Assembly.Checked, Assembly.bytes] at checked fits
    omega
  | command totalLength got =>
    simp only [Assembly.Checked, Assembly.bytes, List.length_append, length_word] at checked fits
    omega
  | body preamble got =>
    have meets : Meets (word preamble.totalLength ++ (word preamble.commandId ++ got))
        (frame ++ more) := .inr inside
    rw [framed.eq_append, List.append_assoc] at meets
    have announced := framed.announced
    rw [← meets.word.1] at announced
    simp only [Assembly.Checked, Assembly.bytes, List.length_append, length_word,
      Preamble.bodyLength, preambleLength] at checked fits
    omega

/-- What bytes come to that were taken off the front of a frame whose preamble is in order, and of
what lies behind it: they are the frame. -/
theorem Comes.of_frame {history : List Event} {result : Except Error (Preamble × Bytes)}
    (comes : Comes version history earlier taken result) (framed : WellFramed version frame)
    (supplied : Supplies (earlier ++ (frame ++ more)) history)
    (meets : Meets taken (frame ++ more)) :
    taken = frame ∧ result = .ok (preambleOf frame, bodyOf frame) := by
  have unbroken : ∀ {assembly : Assembly}, assembly.Checked version →
      ¬BrokenOff history (earlier ++ assembly.bytes) := by
    rintro assembly checked ⟨front, event, inside, breaks, delivered⟩
    have whole := supplied.unbroken inside breaks
    rw [delivered, List.prefix_append_right_inj] at whole
    exact framed.exceeds checked whole
  have split := framed.eq_append
  cases comes with
  | @whole preamble body accepted valid length =>
    rw [split, List.append_assoc] at meets
    obtain ⟨total, meets⟩ := meets.word
    rw [List.append_assoc] at meets
    obtain ⟨command, meets⟩ := meets.word
    have same : body.length = (bodyOf frame).length := by
      rw [length, framed.length_bodyOf, Preamble.bodyLength, total, Preamble.bodyLength]
    rw [← List.append_nil body] at meets
    obtain ⟨rfl, -⟩ := meets.append same
    have preambles : preamble = preambleOf frame := congrArg₂ Preamble.mk total command
    rw [preambles]
    exact ⟨split.symm, rfl⟩
  | invalidTotalLength refused =>
    rw [split, List.append_assoc, ← List.append_nil (word _)] at meets
    rw [meets.word.1, framed.announced] at refused
    exact (refused framed.accepted).elim
  | invalidCommand accepted refused =>
    rw [split, List.append_assoc] at meets
    obtain ⟨-, meets⟩ := meets.word
    rw [List.append_assoc, ← List.append_nil (word _)] at meets
    rw [meets.word.1] at refused
    exact (refused framed.valid).elim
  | truncated checked broken => exact (unbroken checked broken).elim
  | failed failure checked broken => exact (unbroken checked broken).elim

/-- A receiver that starts at a frame whose preamble is in order takes this frame, and is told what
its body is decoded as, unless it was given up or the connection closed. -/
theorem Receipt.of_frame (receipt : Receipt endpoint earlier taken ending)
    (framed : WellFramed endpoint.connection.version frame)
    (supplied : Supplies (earlier ++ (frame ++ more)) endpoint.line.history)
    (inside : earlier ++ taken <+: endpoint.line.delivered)
    (opened : ¬endpoint.connection.closed) (kept : ending ≠ .cancelled) :
    taken = frame ∧
      ending = .returned (told (decodeBody endpoint.connection.version (preambleOf frame)
        (bodyOf frame))) := by
  have meets : Meets taken (frame ++ more) := by
    have both : Meets (earlier ++ taken) (earlier ++ (frame ++ more)) := by
      rcases supplied.agrees with short | long
      · exact .inl (inside.trans short)
      · exact meets_of_prefix inside long
    exact (both.append rfl).2
  cases receipt with
  | returned comes =>
    obtain ⟨same, rfl⟩ := comes.of_frame framed supplied meets
    exact ⟨same, rfl⟩
  | closed checked closed => exact (opened closed).elim
  | cancelled => contradiction

/-! ## One frame after another -/

/-- Receivers that start at frames whose preambles are in order take one frame each, in turn. -/
theorem Receipts.of_frames {frames : List Bytes} {departures : List Departure}
    (receipts : Receipts endpoint earlier departures)
    (framed : ∀ frame ∈ frames, WellFramed endpoint.connection.version frame)
    (supplied : Supplies (earlier ++ frames.flatten) endpoint.line.history)
    (inside : earlier ++ departures.flatMap (·.taken) <+: endpoint.line.delivered)
    (opened : ¬endpoint.connection.closed)
    (kept : ∀ departure ∈ departures, departure.ending ≠ .cancelled) (turn : Nat) {frame : Bytes}
    {departure : Departure} (isFrame : frames[turn]? = some frame)
    (ended : departures[turn]? = some departure) :
    departure.taken = frame ∧
      departure.ending = .returned (told (decodeBody endpoint.connection.version
        (preambleOf frame) (bodyOf frame))) := by
  induction frames generalizing earlier departures turn with
  | nil => simp at isFrame
  | cons first frames ih =>
    cases departures with
    | nil => simp at ended
    | cons next departures =>
      rw [List.flatten_cons] at supplied
      rw [List.flatMap_cons, ← List.append_assoc] at inside
      have head := receipts.1.of_frame (framed first List.mem_cons_self) supplied
        ((List.prefix_append _ _).trans inside) opened (kept next List.mem_cons_self)
      cases turn with
      | zero =>
        cases isFrame
        cases ended
        exact head
      | succ turn =>
        rw [← List.append_assoc, ← head.1] at supplied
        exact ih receipts.2 (fun frame later => framed frame (List.mem_cons_of_mem _ later))
          supplied inside (fun departure later => kept departure (List.mem_cons_of_mem _ later))
          turn isFrame ended

/-! ## Streams that are delivered in pieces -/

/-- A line over which a stream is delivered in pieces: it has delivered the front of the stream, the
rest lies ahead, and it has not broken off before the end. -/
structure Line.Delivers (line : Line Script) (stream : Bytes) : Prop where
  /-- The pieces still to come are not empty, and no read fails. -/
  pieces : line.state.Delivers
  /-- What has been delivered and what lies ahead are the stream. -/
  whole : line.delivered ++ line.state.undelivered = stream
  /-- Reads come to the end only after the whole stream. -/
  unbroken : ∀ {front event}, front ++ [event] <+: line.history → event.BreaksOff →
    front.flatMap Event.delivered = stream

namespace Script

/-- A write leaves the reads to come alone. -/
theorem write_reads (script : Script) (data : Bytes) :
    (script.write data).2.reads = script.reads ∧
      (script.write data).2.readsWait = script.readsWait := by
  unfold write
  split <;> exact ⟨rfl, rfl⟩

/-- A flush leaves the reads to come alone. -/
theorem flush_reads (script : Script) :
    script.flush.2.reads = script.reads ∧ script.flush.2.readsWait = script.readsWait := by
  unfold flush
  split <;> exact ⟨rfl, rfl⟩

/-- A shutdown leaves the reads to come alone. -/
theorem shutdown_reads (script : Script) :
    script.shutdown.2.reads = script.reads ∧
      script.shutdown.2.readsWait = script.readsWait := by
  unfold shutdown
  split <;> exact ⟨rfl, rfl⟩

end Script

namespace Line.Delivers

variable {line after : Line Script} {stream : Bytes} {errand : Errand}

/-- One more event leaves a line unbroken if it has not broken off before the end. -/
theorem enter {event : Event} (delivers : line.Delivers stream)
    (history : after.history = line.history ++ [event]) (pieces : after.state.Delivers)
    (ahead : line.state.undelivered = event.delivered ++ after.state.undelivered)
    (ends : event.BreaksOff → line.state.undelivered = []) : after.Delivers stream := by
  have delivered : after.delivered = line.delivered ++ event.delivered := by
    simp [Line.delivered, history]
  refine ⟨pieces, ?_, fun {front last} inside breaks => ?_⟩
  · rw [delivered, List.append_assoc, ← ahead, delivers.whole]
  · rw [history, List.prefix_concat_iff] at inside
    rcases inside with same | before
    · obtain ⟨rfl, equal⟩ := List.append_inj' same rfl
      obtain rfl := List.singleton_inj.mp equal
      have whole := delivers.whole
      rwa [ends breaks, List.append_nil] at whole
    · exact delivers.unbroken before breaks

/-- What leaves the reads to come alone leaves the stream alone. -/
theorem idle {event : Event} {state : Script} (delivers : line.Delivers stream)
    (same : state.reads = line.state.reads ∧ state.readsWait = line.state.readsWait)
    (silent : event.delivered = []) (unbroken : ¬event.BreaksOff) :
    (line.enter event state).Delivers stream := by
  obtain ⟨cues, ends⟩ := delivers.pieces
  have pieces : state.Delivers := ⟨same.1 ▸ cues, same.2.trans ends⟩
  refine delivers.enter (Line.history_enter ..) pieces ?_ fun breaks => (unbroken breaks).elim
  rw [silent, List.nil_append, Line.enter, Script.undelivered, Script.undelivered, same.1]

/-- Calls on a line deliver the stream further. -/
theorem call (delivers : line.Delivers stream)
    (call : Line.Call Script.transport errand line after) : after.Delivers stream := by
  cases call with
  | @read _ _ limit outcome positive read =>
    have history := Line.history_read read
    cases direct : line.state.read limit with
    | mk result script =>
      obtain ⟨took, pieces⟩ := Script.read_took delivers.pieces positive direct
      simp only [Line.read, Script.transport, direct] at read
      cases read
      rcases outcome with (failure | piece) | woken
      · exact took.elim
      · obtain ⟨split, -, ended, -⟩ := took
        refine delivers.enter history pieces split fun breaks => ?_
        cases piece with
        | nil => exact ended rfl
        | cons => exact breaks.elim
      · exact delivers.enter history pieces took.1.symm fun breaks => breaks.elim
  | @write _ _ data outcome nonempty written =>
    cases written
    refine delivers.idle ?_ ?_ fun breaks => breaks
    · exact Script.write_reads ..
    · rfl
  | flush _ flushed =>
    cases flushed
    refine delivers.idle ?_ ?_ fun breaks => breaks
    · exact Script.flush_reads _
    · rfl
  | shutdown done =>
    cases done
    refine delivers.idle ?_ ?_ fun breaks => breaks
    · exact Script.shutdown_reads _
    · rfl
  | note line note => exact delivers.idle ⟨rfl, rfl⟩ rfl fun breaks => breaks

end Line.Delivers

/-- A turn delivers the stream further, unless the other end of the stream interferes. -/
theorem Endpoint.Turn.delivers {before after : Endpoint Script} {actor : Actor} {stream : Bytes}
    (turn : Turn Script.transport actor before after) (unfinished : before.Unfinished)
    (undisturbed : actor ≠ .world) (delivers : before.line.Delivers stream) :
    after.line.Delivers stream := by
  rcases turn.calls unfinished with ⟨_, task, _, _, calls⟩ | same | ⟨disturbed, -⟩
  · have keeps : ∀ {line next : Line Script},
        Line.Call Script.transport task.errand line next → line.Delivers stream →
          next.Delivers stream := fun call holds => holds.call call
    exact calls.keep keeps delivers
  · rwa [same]
  · exact (undisturbed disturbed).elim

/-- Whatever is done with a connection, its stream is delivered further. -/
theorem Endpoint.run_delivers {endpoint : Endpoint Script} {stream : Bytes}
    (unfinished : endpoint.Unfinished) (delivers : endpoint.line.Delivers stream)
    (actions : List Action) :
    (endpoint.run Script.transport (actions.map .act)).line.Delivers stream := by
  induction actions generalizing endpoint with
  | nil => exact delivers
  | cons action actions ih =>
    have undisturbed : (Move.act action : Move Script).actor ≠ .world := by
      cases action <;> simp [Move.actor]
    have moved : (endpoint.move Script.transport (.act action)).Unfinished ∧
        (endpoint.move Script.transport (.act action)).line.Delivers stream :=
      move_keeps (fun state => state.Unfinished ∧ state.line.Delivers stream)
        (fun turn holds =>
          ⟨turn.unfinished holds.1, turn.delivers holds.1 undisturbed holds.2⟩)
        ⟨unfinished, delivers⟩
    exact ih moved.1 moved.2

/-- Whatever is done with a connection, a script that delivers pieces supplies their stream. -/
theorem Script.supplies {script : Script} (delivers : script.Delivers) (config : Config)
    (actions : List Action) :
    Supplies script.undelivered
      ((Endpoint.establish transport config script).run transport
        (actions.map .act)).line.history := by
  have state := Endpoint.state_establish transport config script
  have opened : (Endpoint.establish transport config script).line.Delivers
      script.undelivered := by
    refine ⟨by rwa [state], ?_, fun inside breaks => ?_⟩
    · have nothing : (Endpoint.establish transport config script).line.delivered = [] :=
        List.flatMap_eq_nil_iff.mpr fun event inside => (Endpoint.establish_silent inside).2.1
      rw [nothing, state, List.nil_append]
    · obtain ⟨-, -, -, unbroken⟩ := Endpoint.establish_silent
        (inside.subset (List.mem_append_right _ List.mem_cons_self))
      exact (unbroken breaks).elim
  have unfinished := Endpoint.unfinished_establish transport config script
  have delivered := Endpoint.run_delivers unfinished opened actions
  exact ⟨.inl ⟨_, delivered.whole⟩,
    fun inside breaks => (delivered.unbroken inside breaks) ▸ List.prefix_rfl⟩

/-- On a stream of frames whose preambles are in order, however it is delivered, the receivers end
in the order of their calls. Each takes the frame whose turn it is, no byte less and none of the
next, and is told what the body of this frame is decoded as, whatever the other frames are; those
that have not ended are in the queue. -/
theorem Endpoint.receives_in_turn (io : Transport σ) (config : Config) (state : σ)
    (moves : List (Move σ)) (frames : List Bytes)
    (framed : ∀ frame ∈ frames, WellFramed config.version frame) :
    let opened := Endpoint.establish io config state
    let endpoint := opened.run io moves
    let roll := Roll.ofRun io opened moves {}
    Supplies frames.flatten endpoint.line.history → ¬endpoint.connection.closed → roll.Kept →
      roll.callers = roll.departures.map (·.id) ++ endpoint.connection.readLock.queue ∧
        ∀ (turn : Nat) (frame : Bytes) (departure : Departure), frames[turn]? = some frame →
          roll.departures[turn]? = some departure →
            departure.taken = frame ∧
              departure.ending = .returned (told (decodeBody config.version (preambleOf frame)
                (bodyOf frame))) := by
  intro opened endpoint roll supplied notClosed kept
  have reachable : endpoint.Reachable io config := ⟨state, moves, rfl⟩
  have accounts : roll.Accounts endpoint :=
    (Roll.Accounts.establish io config state).run (Connection.sound_ofConfig ..) moves
  rw [← reachable.version] at framed ⊢
  refine ⟨accounts.order notClosed kept, fun turn frame departure isFrame ended => ?_⟩
  refine accounts.receipts.of_frames framed supplied ?_ notClosed kept turn isFrame ended
  rw [accounts.delivered, List.append_assoc]
  exact List.prefix_append _ _

namespace Endpoint

/-- A frame whose command nobody knows. -/
def strangeFrame : Bytes := [0, 0, 0, 13, 0, 0, 0, 15, 1, 2, 3, 4, 5]

/-- A probe of the link. -/
def probeFrame : Bytes := [0, 0, 0, 12, 0, 0, 0, 8, 0, 0, 0, 7]

/-- Both frames, in pieces cut inside their words. -/
def mixed : Script where
  reads :=
    [.answer [0, 0, 0, 13, 0], .pending false, .answer [0, 0, 15, 1, 2, 3, 4, 5, 0, 0],
      .pending true, .answer [0, 12, 0, 0, 0, 8, 0, 0, 0], .pending false, .answer [7]]

/-- Settings under which no read brings a whole word. -/
def narrow : Config := { version := .v30, readCapacity := 3 }

/-- Two receivers are polled in turn, the second one before the first has got on. -/
def byTurns : List Action :=
  [.start 1 .receive, .start 2 .receive, .poll 2, .poll 1, .poll 2, .poll 1, .poll 2, .poll 2]

/-- The second receiver is told of the probe, although the frame before it was refused. -/
theorem receives_in_turn_mixed :
    let opened := establish Script.transport narrow mixed
    let roll := Roll.ofRun Script.transport opened (byTurns.map .act) {}
    ∃ first second, roll.departures = [first, second] ∧
      first.ending = .returned (.failed (.unsupportedCommand 15)) ∧
      second.ending = .returned (.received ⟨.activeTest, 7, ()⟩) := by
  have framed : ∀ frame ∈ [strangeFrame, probeFrame], WellFramed narrow.version frame := by
    simp only [List.mem_cons, List.not_mem_nil, or_false, forall_eq_or_imp, forall_eq]
    exact ⟨⟨by decide, by decide, by decide⟩, ⟨by decide, by decide, by decide⟩⟩
  have delivers : mixed.Delivers := ⟨by simp [mixed, Cue.Delivers], rfl⟩
  have supplied := Script.supplies delivers narrow byTurns
  have opened : ((establish Script.transport narrow mixed).run Script.transport
      (byTurns.map .act)).connection.closed = false := by cbv
  have kept : (Roll.ofRun Script.transport (establish Script.transport narrow mixed)
      (byTurns.map .act) {}).Kept := Roll.Kept.ofRun (by simp [Roll.Kept]) (by simp [byTurns])
  have both : (Roll.ofRun Script.transport (establish Script.transport narrow mixed)
      (byTurns.map .act) {}).departures.length = 2 := by cbv
  obtain ⟨first, second, departures⟩ := List.length_eq_two.mp both
  obtain ⟨-, inTurn⟩ := receives_in_turn Script.transport narrow mixed (byTurns.map .act)
    [strangeFrame, probeFrame] framed supplied (by rw [opened]; exact Bool.false_ne_true) kept
  obtain ⟨-, refused⟩ := inTurn 0 strangeFrame first rfl (congrArg (·[0]?) departures)
  obtain ⟨-, received⟩ := inTurn 1 probeFrame second rfl (congrArg (·[1]?) departures)
  exact ⟨first, second, departures, refused, received⟩

end Endpoint

end Cmpp
