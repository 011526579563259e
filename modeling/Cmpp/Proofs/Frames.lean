import Cmpp.Frame.Basic
import Cmpp.Proofs.Packets

/-!
# Frames and their bytes

What decoding a frame comes to is settled by the first check that fails, and by the body if none
does (`frameReading`). A frame that is decoded is two words, a body of the length that the first
word announces, and whatever follows (`decodeFrame_eq_ok`). The kind of its message is sent with the
command that the second word numbers (`id_of_resolve?`), so the packet decoded is encoded with the
very bytes that it was decoded from, header included.
-/

namespace Cmpp

/-- A word is taken off the front, whatever follows. -/
@[simp] theorem takeWord_word (value : UInt32) (rest : Bytes) :
    takeWord (word value ++ rest) = .ok (value, rest) := by
  have split : (word value ++ rest).take 4 = word value ∧ (word value ++ rest).drop 4 = rest := by
    rw [← length_word value]
    exact ⟨List.take_left, List.drop_left⟩
  have enough : 4 ≤ (word value ++ rest).length := by simp
  rw [takeWord, if_pos enough, split.1, split.2, ofWord_word]

/-- An announced length is accepted when the version accepts it. -/
theorem checkTotalLength_eq_ok {version : Version} {length : UInt32} :
    checkTotalLength version length = .ok () ↔ version.accepts length.toNat := by
  simp [checkTotalLength]

/-- A command number is accepted when it lies in one of the ranges. -/
theorem checkCommand_eq_ok {id : UInt32} :
    checkCommand id = .ok () ↔ Command.isValidId id := by
  simp [checkCommand]

/-- A command number stands for a kind when it is resolved to it. -/
theorem resolveKind_eq_ok {version : Version} {id : UInt32} {kind : Kind} :
    resolveKind version id = .ok kind ↔ Kind.resolve? version id = some kind := by
  unfold resolveKind
  split <;> simp_all

/-- A resolved kind is sent with the command number that it was resolved from. -/
theorem id_of_resolve? {version : Version} {id : UInt32} {kind : Kind}
    (resolved : Kind.resolve? version id = some kind) : kind.command.id = id := by
  obtain ⟨command, found, selected⟩ := Option.bind_eq_some_iff.mp resolved
  rw [Kind.command_of_ofCommand? selected]
  rw [Command.ofId?] at found
  simpa using List.find?_some found

/-- A body is decoded as a packet of the kind that its preamble names. -/
theorem decodeBody_eq_ok {version : Version} {preamble : Preamble} {body : Bytes}
    {packet : Packet} :
    decodeBody version preamble body = .ok packet ↔
      ∃ kind, Kind.resolve? version preamble.commandId = some kind ∧
        Packet.decode kind body = .ok packet := by
  simp only [decodeBody, bind_eq_ok, resolveKind_eq_ok, mapError_eq_ok]

/-- A body is refused for its kind or for its fields. -/
theorem decodeBody_error {version : Version} {preamble : Preamble} {body : Bytes} {error : Error}
    (refused : decodeBody version preamble body = .error error) :
    error = .unsupportedCommand preamble.commandId ∨ ∃ format, error = .format format := by
  unfold decodeBody resolveKind at refused
  cases resolved : Kind.resolve? version preamble.commandId with
  | none =>
    rw [resolved] at refused
    cases refused
    exact .inl rfl
  | some kind =>
    rw [resolved] at refused
    obtain ⟨format, -, renamed⟩ := mapError_eq_error.mp refused
    exact .inr ⟨format, renamed.symm⟩

/-- A frame is encoded for a packet when its fields are and the version allows the length. -/
theorem encodeFrame_eq_ok {version : Version} {packet : Packet} {sequenceId : UInt32}
    {bytes : Bytes} :
    encodeFrame version packet sequenceId = .ok bytes ↔
      packet.encode sequenceId = .ok bytes ∧ bytes.length ≤ version.maxLength := by
  constructor
  · intro encoded
    obtain ⟨frame, written, checked⟩ := bind_eq_ok.mp encoded
    obtain ⟨_, short, made⟩ := bind_eq_ok.mp checked
    cases made
    refine ⟨mapError_eq_ok.mp written, ?_⟩
    simpa [checkFrameLength] using short
  · rintro ⟨written, short⟩
    have renamed := (mapError_eq_ok (f := Error.format)).mpr written
    simp [encodeFrame, renamed, checkFrameLength, short, bind, Except.bind]

/-- The frame of a packet carries the sequence number after its preamble. -/
theorem carries_sequenceId {packet : Packet} {sequenceId : UInt32} {bytes : Bytes}
    (encoded : packet.encode sequenceId = .ok bytes) :
    (bodyOf bytes).take 4 = word sequenceId := by
  obtain ⟨fields, -, rfl⟩ := Packet.encode_eq_ok.mp encoded
  rw [bodyOf_frame, ← length_word sequenceId, List.take_left]

/-- An accepted length is at least that of a header. -/
theorem headerLength_le_of_accepts {version : Version} {length : Nat}
    (accepted : version.accepts length) : headerLength ≤ length := by
  rw [Version.accepts, Bool.and_eq_true] at accepted
  exact of_decide_eq_true accepted.1

/-- An accepted length is at most the greatest that the version allows. -/
theorem le_maxLength_of_accepts {version : Version} {length : Nat}
    (accepted : version.accepts length) : length ≤ version.maxLength := by
  rw [Version.accepts, Bool.and_eq_true] at accepted
  exact of_decide_eq_true accepted.2

/-- Bytes begin with a word unless there are fewer than four of them. -/
theorem short_or_word (bytes : Bytes) :
    bytes.length < 4 ∨ ∃ value rest, bytes = word value ++ rest := by
  by_cases short : bytes.length < 4
  · exact .inl short
  · refine .inr ⟨ofWord (bytes.take 4), bytes.drop 4, ?_⟩
    rw [word_ofWord (by simp; omega), List.take_append_drop]

/-- There is no word to be taken off the front of fewer than four bytes. -/
theorem takeWord_short {bytes : Bytes} (short : bytes.length < 4) :
    takeWord bytes = .error .truncatedHeader := by
  rw [takeWord, if_neg (Nat.not_le.mpr short)]

/-- What decoding a frame off the front of bytes comes to, by the first check that fails, and by the
body if none does. -/
inductive FrameReading (version : Version) : Bytes → Except Error (Packet × Nat) → Prop
  /-- There is no total length. -/
  | noLength {bytes : Bytes} (short : bytes.length < 4) :
    FrameReading version bytes (.error .truncatedHeader)
  /-- The total length is refused. -/
  | badLength {totalLength : UInt32} {rest : Bytes}
    (refused : ¬version.accepts totalLength.toNat) :
    FrameReading version (word totalLength ++ rest)
      (.error (.invalidTotalLength totalLength version))
  /-- There is no command number. -/
  | noCommand {totalLength : UInt32} {rest : Bytes} (accepted : version.accepts totalLength.toNat)
    (short : rest.length < 4) :
    FrameReading version (word totalLength ++ rest) (.error .truncatedHeader)
  /-- The command number is refused. -/
  | badCommand {totalLength commandId : UInt32} {rest : Bytes}
    (accepted : version.accepts totalLength.toNat) (refused : ¬Command.isValidId commandId) :
    FrameReading version (word totalLength ++ (word commandId ++ rest))
      (.error (.invalidCommand commandId))
  /-- There is no whole body. -/
  | noBody (preamble : Preamble) {rest : Bytes}
    (accepted : version.accepts preamble.totalLength.toNat)
    (valid : Command.isValidId preamble.commandId) (short : rest.length < preamble.bodyLength) :
    FrameReading version (word preamble.totalLength ++ (word preamble.commandId ++ rest))
      (.error (.truncatedBody preamble.bodyLength rest.length))
  /-- The body is there. -/
  | whole (preamble : Preamble) {body rest : Bytes}
    (accepted : version.accepts preamble.totalLength.toNat)
    (valid : Command.isValidId preamble.commandId) (length : body.length = preamble.bodyLength) :
    FrameReading version (word preamble.totalLength ++ (word preamble.commandId ++ (body ++ rest)))
      ((decodeBody version preamble body).map fun packet => (packet, preamble.totalLength.toNat))

/-- Decoding a frame comes to what is said of its bytes. -/
theorem FrameReading.decodeFrame_eq {version : Version} {bytes : Bytes}
    {result : Except Error (Packet × Nat)} (reading : FrameReading version bytes result) :
    decodeFrame version bytes = result := by
  cases reading with
  | noLength short =>
    rw [decodeFrame, takeWord_short short]
    rfl
  | badLength refused => simp [decodeFrame, bind, Except.bind, checkTotalLength, refused]
  | noCommand accepted short =>
    simp [decodeFrame, bind, Except.bind, checkTotalLength, accepted, takeWord_short short]
  | badCommand accepted refused =>
    simp [decodeFrame, bind, Except.bind, checkTotalLength, accepted, checkCommand, refused]
  | noBody preamble accepted valid short =>
    simp [decodeFrame, bind, Except.bind, checkTotalLength, accepted, checkCommand, valid,
      Nat.not_le.mpr short]
  | @whole preamble body rest accepted valid length =>
    have enough : preamble.bodyLength ≤ body.length + rest.length := by omega
    have front : (body ++ rest).take preamble.bodyLength = body := by rw [← length, List.take_left]
    cases read : decodeBody version preamble body <;>
      simp [decodeFrame, bind, Except.bind, checkTotalLength, accepted, checkCommand, valid, enough,
        front, read, Except.map]

/-- Of all bytes it is said what decoding a frame comes to. -/
theorem frameReading (version : Version) (bytes : Bytes) :
    FrameReading version bytes (decodeFrame version bytes) := by
  suffices said : ∃ result, FrameReading version bytes result by
    obtain ⟨result, reading⟩ := said
    exact reading.decodeFrame_eq.symm ▸ reading
  obtain short | ⟨totalLength, middle, rfl⟩ := short_or_word bytes
  · exact ⟨_, .noLength short⟩
  by_cases accepted : version.accepts totalLength.toNat
  case neg => exact ⟨_, .badLength accepted⟩
  obtain short | ⟨commandId, back, rfl⟩ := short_or_word middle
  · exact ⟨_, .noCommand accepted short⟩
  by_cases valid : Command.isValidId commandId
  case neg => exact ⟨_, .badCommand accepted valid⟩
  let preamble : Preamble := ⟨totalLength, commandId⟩
  by_cases enough : preamble.bodyLength ≤ back.length
  · have whole : (back.take preamble.bodyLength).length = preamble.bodyLength :=
      List.length_take_of_le enough
    rw [← List.take_append_drop preamble.bodyLength back]
    exact ⟨_, .whole preamble accepted valid whole⟩
  · exact ⟨_, .noBody preamble accepted valid (Nat.lt_of_not_le enough)⟩

/-- A decoded frame is an accepted preamble, a body of the announced length that is decoded as the
packet, and anything after it; its length is the one announced. -/
theorem decodeFrame_eq_ok {version : Version} {bytes : Bytes} {packet : Packet} {length : Nat} :
    decodeFrame version bytes = .ok (packet, length) ↔
      ∃ preamble body rest,
        bytes = word preamble.totalLength ++ (word preamble.commandId ++ (body ++ rest)) ∧
          version.accepts preamble.totalLength.toNat ∧ Command.isValidId preamble.commandId ∧
          body.length = preamble.bodyLength ∧ decodeBody version preamble body = .ok packet ∧
          length = preamble.totalLength.toNat := by
  constructor
  · intro decoded
    have reading := frameReading version bytes
    rw [decoded] at reading
    generalize result : Except.ok (packet, length) = outcome at reading
    cases reading with
    | @whole preamble body rest accepted valid whole =>
      obtain ⟨read, same, made⟩ := map_eq_ok.mp result.symm
      cases made
      exact ⟨preamble, body, rest, rfl, accepted, valid, whole, same, rfl⟩
    | noLength | badLength | noCommand | badCommand | noBody => cases result
  · rintro ⟨preamble, body, rest, rfl, accepted, valid, whole, read, rfl⟩
    have reading : FrameReading version
        (word preamble.totalLength ++ (word preamble.commandId ++ (body ++ rest))) _ :=
      .whole preamble accepted valid whole
    rw [reading.decodeFrame_eq, read]
    rfl

/-- A decoded packet is encoded with the bytes that it was decoded from. -/
theorem encode_decodeFrame {version : Version} {bytes : Bytes} {packet : Packet} {length : Nat}
    (decoded : decodeFrame version bytes = .ok (packet, length)) :
    packet.encode packet.sequenceId = .ok (bytes.take length) := by
  obtain ⟨preamble, body, rest, rfl, accepted, -, whole, read, rfl⟩ :=
    decodeFrame_eq_ok.mp decoded
  obtain ⟨kind, resolved, bodyRead⟩ := decodeBody_eq_ok.mp read
  obtain ⟨rfl, fields, rfl, encoded⟩ := Packet.encode_decode bodyRead
  have least := headerLength_le_of_accepts accepted
  simp only [List.length_append, length_word, Preamble.bodyLength, preambleLength] at whole
  simp only [headerLength] at least
  have total : UInt32.ofNat (headerLength + fields.length) = preamble.totalLength := by
    apply UInt32.toNat_inj.mp
    have small := preamble.totalLength.toNat_lt
    rw [UInt32.toNat_ofNat', headerLength]
    omega
  have same : frame packet.command packet.sequenceId fields =
      word preamble.totalLength ++
        (word preamble.commandId ++ (word packet.sequenceId ++ fields)) := by
    rw [frame, total, Packet.command, id_of_resolve? resolved]
    simp only [List.append_assoc]
  have length : preamble.totalLength.toNat =
      (frame packet.command packet.sequenceId fields).length := by
    simp only [same, List.length_append, length_word]
    omega
  rw [encoded, length, same]
  simp only [← List.append_assoc, List.take_left]

/-- The bodies accepted as packets of a kind are exactly those that packets of this kind are
encoded with. Such a body is given back by encoding the packet decoded from it, no two bodies are
decoded alike, and a packet decoded from a frame is encoded with the bytes of that frame. -/
theorem decoded_is_canonical (kind : Kind) (body : Bytes) :
    ((∃ packet, Packet.decode kind body = .ok packet) ↔
      ∃ (packet : Packet) (sequenceId : UInt32) (bytes : Bytes), packet.kind = kind ∧
        packet.encode sequenceId = .ok bytes ∧ bodyOf bytes = body) ∧
    (∀ packet, Packet.decode kind body = .ok packet →
      packet.kind = kind ∧
        ∃ bytes, packet.encode packet.sequenceId = .ok bytes ∧ bodyOf bytes = body) ∧
    (∀ other packet, Packet.decode kind body = .ok packet →
      Packet.decode kind other = .ok packet → body = other) ∧
    ∀ version bytes packet length, decodeFrame version bytes = .ok (packet, length) →
      packet.encode packet.sequenceId = .ok (bytes.take length) := by
  have given : ∀ {body : Bytes} {packet : Packet}, Packet.decode kind body = .ok packet →
      packet.kind = kind ∧
        ∃ bytes, packet.encode packet.sequenceId = .ok bytes ∧ bodyOf bytes = body := by
    intro body packet decoded
    obtain ⟨same, fields, rfl, encoded⟩ := Packet.encode_decode decoded
    exact ⟨same, _, encoded, bodyOf_frame ..⟩
  refine ⟨⟨?_, ?_⟩, fun _ => given, ?_, fun _ _ _ _ => encode_decodeFrame⟩
  · rintro ⟨packet, decoded⟩
    obtain ⟨same, bytes, encoded, rest⟩ := given decoded
    exact ⟨packet, packet.sequenceId, bytes, same, encoded, rest⟩
  · rintro ⟨packet, sequenceId, bytes, rfl, encoded, rfl⟩
    exact ⟨_, Packet.decode_encode encoded⟩
  · intro other packet first second
    obtain ⟨-, firstBytes, firstEncoded, rfl⟩ := given first
    obtain ⟨-, secondBytes, secondEncoded, rfl⟩ := given second
    rw [firstEncoded] at secondEncoded
    rw [Except.ok.inj secondEncoded]

end Cmpp
