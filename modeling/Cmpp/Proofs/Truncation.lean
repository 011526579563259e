import Cmpp.Proofs.Frames
import Cmpp.Proofs.Sizes

/-!
# Frames cut short

Whoever collects a frame piece by piece decodes what has come so far, and waits for more as long as
the frame is truncated. Two facts make that sound. What is decoded or refused stays so whatever
follows (`FrameReading.append`), and every part of a frame that is decoded is truncated, with the
numbers of bytes that were to come and that have come (`decodeFrame_take`). The lengths involved are
differences, but they never come out below zero: an accepted total length is at least that of a
header, and a body is looked for only behind a whole preamble.
-/

namespace Cmpp

/-- What decoding a frame has come to is not for want of bytes. -/
def Conclusive (result : Except Error (Packet × Nat)) : Prop :=
  result ≠ .error .truncatedHeader ∧
    ∀ expected actual, result ≠ .error (.truncatedBody expected actual)

/-- Decoding a frame has come as far as its body: the preamble was there and was not refused. -/
def ReachesBody : Except Error (Packet × Nat) → Prop
  | .error .truncatedHeader | .error (.invalidTotalLength ..) | .error (.invalidCommand _) => False
  | _ => True

variable {version : Version}

/-- An accepted total length is that of the preamble and the body. -/
theorem Preamble.totalLength_eq {preamble : Preamble}
    (accepted : version.accepts preamble.totalLength.toNat) :
    preamble.totalLength.toNat = preambleLength + preamble.bodyLength := by
  have least := headerLength_le_of_accepts accepted
  simp only [headerLength] at least
  simp only [bodyLength, preambleLength]
  omega

/-- What is said of bytes, if it is not for want of bytes, is said of them whatever follows. -/
theorem FrameReading.append {bytes : Bytes} {result : Except Error (Packet × Nat)}
    (reading : FrameReading version bytes result) (conclusive : Conclusive result) (more : Bytes) :
    FrameReading version (bytes ++ more) result := by
  cases reading with
  | noLength | noCommand => exact (conclusive.1 rfl).elim
  | noBody => exact (conclusive.2 _ _ rfl).elim
  | badLength refused =>
    rw [List.append_assoc]
    exact .badLength refused
  | badCommand accepted refused =>
    rw [List.append_assoc, List.append_assoc]
    exact .badCommand accepted refused
  | whole preamble accepted valid length =>
    rw [List.append_assoc, List.append_assoc, List.append_assoc]
    exact .whole preamble accepted valid length

/-- The first bytes of a word and what follows are part of the word, or all of it and part of what
follows. -/
theorem take_word_append (count : Nat) (value : UInt32) (rest : Bytes) :
    (count < 4 ∧ ((word value ++ rest).take count).length < 4) ∨
      4 ≤ count ∧ (word value ++ rest).take count = word value ++ rest.take (count - 4) := by
  by_cases short : count < 4
  · have fewer := List.length_take_le count (word value ++ rest)
    exact .inl ⟨short, Nat.lt_of_le_of_lt fewer short⟩
  · have enough : 4 ≤ count := Nat.le_of_not_lt short
    have whole : (word value).take count = word value :=
      List.take_of_length_le (Nat.le_trans (Nat.le_of_eq (length_word value)) enough)
    rw [List.take_append, whole, length_word]
    exact .inr ⟨enough, rfl⟩

/-- Every part of a frame with a good preamble is truncated, in the preamble or in the body. -/
theorem decodeFrame_take {preamble : Preamble} {back : Bytes} {count : Nat}
    (accepted : version.accepts preamble.totalLength.toNat)
    (valid : Command.isValidId preamble.commandId) (enough : preamble.bodyLength ≤ back.length)
    (part : count < preambleLength + preamble.bodyLength) :
    decodeFrame version
        ((word preamble.totalLength ++ (word preamble.commandId ++ back)).take count) =
      .error (if count < preambleLength then .truncatedHeader
        else .truncatedBody preamble.bodyLength (count - preambleLength)) := by
  have eight : preambleLength = 8 := rfl
  rcases take_word_append count preamble.totalLength (word preamble.commandId ++ back) with
    ⟨few, short⟩ | ⟨past, cut⟩
  · rw [if_pos (by omega)]
    exact (FrameReading.noLength short).decodeFrame_eq
  rw [cut]
  rcases take_word_append (count - 4) preamble.commandId back with ⟨few, short⟩ | ⟨pastBoth, cut⟩
  · rw [if_pos (by omega)]
    exact (FrameReading.noCommand accepted short).decodeFrame_eq
  · have kept : (back.take (count - 4 - 4)).length = count - preambleLength := by
      rw [List.length_take]
      omega
    have missing : (back.take (count - 4 - 4)).length < preamble.bodyLength := by omega
    rw [cut, if_neg (by omega), ← kept]
    exact (FrameReading.noBody preamble accepted valid missing).decodeFrame_eq

/-- A body that is there is not truncated, whatever else is wrong with it. -/
theorem conclusive_body (preamble : Preamble) (body : Bytes) (f : Packet → Packet × Nat) :
    Conclusive ((decodeBody version preamble body).map f) := by
  refine ⟨fun truncated => ?_, fun expected actual truncated => ?_⟩ <;>
    rcases decodeBody_error (map_eq_error.mp truncated) with other | ⟨_, other⟩ <;> cases other

/-- The two words of a preamble come before the rest. -/
theorem length_preamble_append (totalLength commandId : UInt32) (rest : Bytes) :
    (word totalLength ++ (word commandId ++ rest)).length = preambleLength + rest.length := by
  simp only [List.length_append, length_word, preambleLength]
  omega

namespace FrameReading

variable {bytes : Bytes} {result : Except Error (Packet × Nat)}

/-- A truncated header has fewer bytes than a preamble. -/
theorem of_truncatedHeader (reading : FrameReading version bytes result)
    (truncated : result = .error .truncatedHeader) : bytes.length < preambleLength := by
  cases reading with
  | noLength short => exact Nat.lt_trans short (by decide)
  | noCommand accepted short =>
    simp only [List.length_append, length_word, preambleLength]
    omega
  | badLength | badCommand | noBody => cases truncated
  | whole preamble => exact ((conclusive_body preamble _ _).1 truncated).elim

/-- What is missing of a truncated body is counted behind the preamble. -/
theorem of_truncatedBody {expected actual : Nat} (reading : FrameReading version bytes result)
    (truncated : result = .error (.truncatedBody expected actual)) :
    actual < expected ∧ expected + preambleLength = (announcedLength bytes).toNat ∧
      actual + preambleLength = bytes.length := by
  cases reading with
  | noLength | badLength | noCommand | badCommand => cases truncated
  | noBody preamble accepted valid short =>
    cases truncated
    have total := Preamble.totalLength_eq accepted
    refine ⟨short, ?_, ?_⟩
    · rw [announcedLength_word, total, Nat.add_comm]
    · rw [length_preamble_append, Nat.add_comm]
  | whole preamble => exact ((conclusive_body preamble _ _).2 _ _ truncated).elim

/-- A body is looked for behind a preamble, inside the announced length and inside the bytes. -/
theorem of_reachesBody (reading : FrameReading version bytes result)
    (reaches : ReachesBody result) :
    preambleLength ≤ (announcedLength bytes).toNat ∧ preambleLength ≤ bytes.length ∧
      ((announcedLength bytes).toNat ≤ bytes.length ∨
        ∃ expected actual, result = .error (.truncatedBody expected actual)) := by
  cases reading with
  | noLength | badLength | noCommand | badCommand => exact reaches.elim
  | noBody preamble accepted valid short =>
    have total := Preamble.totalLength_eq accepted
    rw [announcedLength_word, length_preamble_append]
    exact ⟨by omega, Nat.le_add_right .., .inr ⟨_, _, rfl⟩⟩
  | whole preamble accepted valid length =>
    have total := Preamble.totalLength_eq accepted
    rw [announcedLength_word, length_preamble_append, List.length_append]
    omega

end FrameReading

/-- How bytes fare as the front of a frame when they are cut short or extended. What they come to,
unless they are truncated, they come to whatever follows. If a frame is decoded, its length is
allowed and the one announced, and every part of it is truncated: inside its preamble, or inside its
body with as many bytes as there are behind the preamble. Whenever a header is truncated, there are
fewer bytes than a preamble has; whenever a body is, there are fewer bytes of it than announced, and
both numbers leave out just the preamble. And whenever a body is looked for at all, the announced
length and the bytes include a preamble, and the body lies inside the bytes unless it is
truncated. -/
theorem decodeFrame_cut_or_extended (version : Version) (bytes : Bytes) :
    let result := decodeFrame version bytes
    let announced := (announcedLength bytes).toNat
    (Conclusive result → ∀ more, decodeFrame version (bytes ++ more) = result) ∧
    (∀ packet used, result = .ok (packet, used) →
      headerLength ≤ used ∧ used ≤ version.maxLength ∧ used = announced ∧
        ∀ count < used, decodeFrame version (bytes.take count) =
          .error (if count < preambleLength then .truncatedHeader
            else .truncatedBody (used - preambleLength) (count - preambleLength))) ∧
    (result = .error .truncatedHeader → bytes.length < preambleLength) ∧
    (∀ expected actual, result = .error (.truncatedBody expected actual) →
      actual < expected ∧ expected + preambleLength = announced ∧
        actual + preambleLength = bytes.length) ∧
    (ReachesBody result → preambleLength ≤ announced ∧ preambleLength ≤ bytes.length ∧
      (announced ≤ bytes.length ∨
        ∃ expected actual, result = .error (.truncatedBody expected actual))) := by
  intro result announced
  have reading : FrameReading version bytes result := frameReading version bytes
  refine ⟨fun conclusive more => (reading.append conclusive more).decodeFrame_eq, ?_,
    reading.of_truncatedHeader, fun expected actual => reading.of_truncatedBody,
    reading.of_reachesBody⟩
  intro packet used decoded
  obtain ⟨preamble, body, rest, rfl, accepted, valid, whole, -, rfl⟩ :=
    decodeFrame_eq_ok.mp decoded
  have total := Preamble.totalLength_eq accepted
  have first : announced = preamble.totalLength.toNat :=
    congrArg UInt32.toNat (announcedLength_word ..)
  have enough : preamble.bodyLength ≤ (body ++ rest).length := by
    rw [List.length_append]
    omega
  refine ⟨headerLength_le_of_accepts accepted, le_maxLength_of_accepts accepted, first.symm,
    fun count part => ?_⟩
  rw [total] at part
  exact decodeFrame_take accepted valid enough part

set_option maxRecDepth 4000 in
/-- A test of the link is decoded whatever follows, and truncated without its last three bytes or
without its last seven; a total length that is not allowed is refused whatever follows. -/
theorem decodeFrame_cut_or_extended_probe :
    let probe : Bytes := [0, 0, 0, 12, 0, 0, 0, 8, 0, 0, 0, 7]
    decodeFrame .v30 (probe ++ [1, 2]) = .ok (⟨.activeTest, 7, ()⟩, 12) ∧
      decodeFrame .v30 (probe.take 9) = .error (.truncatedBody 4 1) ∧
      1 + preambleLength = (probe.take 9).length ∧
      decodeFrame .v30 (probe.take 5) = .error .truncatedHeader ∧
      preambleLength ≤ probe.length ∧
      decodeFrame .v30 ([0, 0, 0, 11] ++ probe) = .error (.invalidTotalLength 11 .v30) := by
  intro probe
  have decoded : decodeFrame .v30 probe = .ok (⟨.activeTest, 7, ()⟩, 12) := rfl
  have refused : decodeFrame .v30 [0, 0, 0, 11] = .error (.invalidTotalLength 11 .v30) := rfl
  obtain ⟨extended, cut, -, -, inside⟩ := decodeFrame_cut_or_extended .v30 probe
  obtain ⟨kept, -⟩ := decodeFrame_cut_or_extended .v30 [0, 0, 0, 11]
  obtain ⟨-, -, -, parts⟩ := cut _ _ decoded
  have late : decodeFrame .v30 (probe.take 9) = .error (.truncatedBody 4 1) := parts 9 (by decide)
  obtain ⟨-, -, -, counted, -⟩ := decodeFrame_cut_or_extended .v30 (probe.take 9)
  exact ⟨extended ⟨nofun, nofun⟩ [1, 2], late, (counted 4 1 late).2.2, parts 5 (by decide),
    (inside trivial).2.1, kept ⟨nofun, nofun⟩ probe⟩

end Cmpp
