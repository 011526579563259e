import Cmpp.Frame.Assembly
import Cmpp.Proofs.Frames

/-!
# Frames that arrive in pieces

What becomes of an assembly is settled by all the bytes still to come, however they are cut into
pieces: `Assembly.conclude` says what, and taking a piece leaves the conclusion as it is
(`Assembly.conclude_take`). The conclusion on a whole stream is that of decoding it at once
(`verdict`), and it leaves the same bytes unread (`conclude_leaves`).
-/

namespace Cmpp

/-- What a stream comes to: a preamble with its body or an error, and the bytes left unread. -/
abbrev Conclusion := Except Error (Preamble × Bytes) × Bytes

/-- What bytes come to from the body on. -/
def concludeBody (preamble : Preamble) (bytes : Bytes) : Conclusion :=
  if bytes.length < preamble.bodyLength then
    (.error (.truncatedBody preamble.bodyLength bytes.length), [])
  else (.ok (preamble, bytes.take preamble.bodyLength), bytes.drop preamble.bodyLength)

/-- What bytes come to from the command number on. -/
def concludeCommand (totalLength : UInt32) (bytes : Bytes) : Conclusion :=
  if bytes.length < 4 then (.error .truncatedHeader, [])
  else match checkCommand (ofWord (bytes.take 4)) with
    | .ok () => concludeBody ⟨totalLength, ofWord (bytes.take 4)⟩ (bytes.drop 4)
    | .error error => (.error error, bytes.drop 4)

/-- What bytes come to from the total length on. -/
def concludeLength (version : Version) (bytes : Bytes) : Conclusion :=
  if bytes.length < 4 then (.error .truncatedHeader, [])
  else match checkTotalLength version (ofWord (bytes.take 4)) with
    | .ok () => concludeCommand (ofWord (bytes.take 4)) (bytes.drop 4)
    | .error error => (.error error, bytes.drop 4)

variable {version : Version} {head rest bytes : Bytes}

/-- A whole body is the conclusion. -/
theorem concludeBody_append {preamble : Preamble} (whole : head.length = preamble.bodyLength) :
    concludeBody preamble (head ++ rest) = (.ok (preamble, head), rest) := by
  have enough : ¬(head ++ rest).length < preamble.bodyLength := by
    rw [List.length_append]
    omega
  rw [concludeBody, if_neg enough, ← whole, List.take_left, List.drop_left]

/-- A whole command number decides how it goes on. -/
theorem concludeCommand_append {totalLength : UInt32} (whole : head.length = 4) :
    concludeCommand totalLength (head ++ rest) =
      match checkCommand (ofWord head) with
      | .ok () => concludeBody ⟨totalLength, ofWord head⟩ rest
      | .error error => (.error error, rest) := by
  have enough : ¬(head ++ rest).length < 4 := by
    rw [List.length_append]
    omega
  rw [concludeCommand, if_neg enough, ← whole, List.take_left, List.drop_left]

/-- A whole total length decides how it goes on. -/
theorem concludeLength_append (whole : head.length = 4) :
    concludeLength version (head ++ rest) =
      match checkTotalLength version (ofWord head) with
      | .ok () => concludeCommand (ofWord head) rest
      | .error error => (.error error, rest) := by
  have enough : ¬(head ++ rest).length < 4 := by
    rw [List.length_append]
    omega
  rw [concludeLength, if_neg enough, ← whole, List.take_left, List.drop_left]

namespace Assembly

/-- What an assembly comes to when all the bytes still to come are known. -/
def conclude (version : Version) : Assembly → Bytes → Conclusion
  | length got, bytes => concludeLength version (got ++ bytes)
  | command totalLength got, bytes => concludeCommand totalLength (got ++ bytes)
  | body preamble got, bytes => concludeBody preamble (got ++ bytes)

/-- The part that is arriving is not complete, and the total length before it was accepted. -/
def Unfinished (version : Version) : Assembly → Prop
  | length got => got.length < 4
  | command totalLength got => version.accepts totalLength.toNat ∧ got.length < 4
  | body preamble got => got.length < preamble.bodyLength

/-- An unfinished assembly wants bytes. -/
theorem Unfinished.wanted_pos {version : Version} {assembly : Assembly}
    (unfinished : assembly.Unfinished version) : 0 < assembly.wanted := by
  cases assembly with
  | length got => exact Nat.sub_pos_of_lt unfinished
  | command totalLength got => exact Nat.sub_pos_of_lt unfinished.2
  | body preamble got => exact Nat.sub_pos_of_lt unfinished

/-- When the stream ends, an unfinished assembly is truncated. -/
theorem Unfinished.conclude_nil {version : Version} {assembly : Assembly}
    (unfinished : assembly.Unfinished version) :
    assembly.conclude version [] = (.error assembly.truncation, []) := by
  cases assembly with
  | length got => simp [conclude, concludeLength, truncation, show got.length < 4 from unfinished]
  | command totalLength got => simp [conclude, concludeCommand, truncation, unfinished.2]
  | body preamble got =>
    simp [conclude, concludeBody, truncation, show got.length < preamble.bodyLength from unfinished]

/-- What taking a piece says of the conclusion, when some more bytes come after it. -/
def Step.Agrees (version : Version) (rest : Bytes) (conclusion : Conclusion) : Step → Prop
  | more next => next.Unfinished version ∧ next.conclude version rest = conclusion
  | complete preamble bytes => conclusion = (.ok (preamble, bytes), rest)
  | refused error => conclusion = (.error error, rest)

/-- Taking a piece that was wanted leaves the conclusion as it is. -/
theorem conclude_take {version : Version} {assembly : Assembly} {piece : Bytes} (rest : Bytes)
    (unfinished : assembly.Unfinished version) (bounded : piece.length ≤ assembly.wanted) :
    (assembly.take version piece).Agrees version rest
      (assembly.conclude version (piece ++ rest)) := by
  cases assembly with
  | length got =>
    simp only [take, conclude, ← List.append_assoc]
    split
    · rename_i short
      exact ⟨short, rfl⟩
    · rename_i long
      have whole : (got ++ piece).length = 4 := by
        simp only [Unfinished, wanted, List.length_append] at *
        omega
      rw [concludeLength_append whole]
      cases checked : checkTotalLength version (ofWord (got ++ piece)) with
      | error error => rfl
      | ok _ => exact ⟨⟨checkTotalLength_eq_ok.mp checked, Nat.zero_lt_succ _⟩, rfl⟩
  | command totalLength got =>
    obtain ⟨accepted, unfinished⟩ := unfinished
    simp only [take, conclude, ← List.append_assoc]
    split
    · rename_i short
      exact ⟨⟨accepted, short⟩, rfl⟩
    · rename_i long
      have whole : (got ++ piece).length = 4 := by
        simp only [wanted, List.length_append] at *
        omega
      rw [concludeCommand_append whole]
      cases checked : checkCommand (ofWord (got ++ piece)) with
      | error error => rfl
      | ok _ =>
        have least := headerLength_le_of_accepts accepted
        refine ⟨?_, rfl⟩
        simp only [Unfinished, Preamble.bodyLength, headerLength, preambleLength,
          List.length_nil] at *
        omega
  | body preamble got =>
    simp only [take, conclude, ← List.append_assoc]
    split
    · rename_i short
      exact ⟨short, rfl⟩
    · rename_i long
      refine concludeBody_append ?_
      simp only [Unfinished, wanted, List.length_append] at *
      omega

end Assembly

/-! ## Arriving and decoding at once -/

/-- How a stream can come out, in pieces and at once: with the same error, or with a whole body
that remains to be decoded. -/
inductive Verdict (version : Version) : Bytes → Conclusion → Except Error (Packet × Nat) → Prop
  /-- The stream ends inside one of the two words. -/
  | truncatedHeader (bytes : Bytes) :
    Verdict version bytes (.error .truncatedHeader, []) (.error .truncatedHeader)
  /-- The total length is refused. -/
  | invalidTotalLength (totalLength : UInt32) (rest : Bytes) :
    Verdict version (word totalLength ++ rest)
      (.error (.invalidTotalLength totalLength version), rest)
      (.error (.invalidTotalLength totalLength version))
  /-- The command number is refused. -/
  | invalidCommand (totalLength commandId : UInt32) (rest : Bytes) :
    Verdict version (word totalLength ++ (word commandId ++ rest))
      (.error (.invalidCommand commandId), rest) (.error (.invalidCommand commandId))
  /-- The stream ends inside the body. -/
  | truncatedBody (preamble : Preamble) (bytes rest : Bytes) :
    Verdict version bytes (.error (.truncatedBody preamble.bodyLength rest.length), [])
      (.error (.truncatedBody preamble.bodyLength rest.length))
  /-- The body is there. -/
  | whole (preamble : Preamble) (body rest : Bytes)
    (accepted : version.accepts preamble.totalLength.toNat)
    (length : body.length = preamble.bodyLength) :
    Verdict version
      (word preamble.totalLength ++ (word preamble.commandId ++ (body ++ rest)))
      (.ok (preamble, body), rest)
      ((decodeBody version preamble body).map fun packet =>
        (packet, preamble.totalLength.toNat))

/-- A stream comes out in pieces as it does at once. -/
theorem verdict (version : Version) (bytes : Bytes) :
    Verdict version bytes (concludeLength version bytes) (decodeFrame version bytes) := by
  have reading := frameReading version bytes
  generalize decodeFrame version bytes = result at reading ⊢
  cases reading with
  | noLength short =>
    rw [concludeLength, if_pos short]
    exact .truncatedHeader bytes
  | @badLength totalLength rest refused =>
    rw [concludeLength_append (length_word totalLength), ofWord_word]
    simp only [checkTotalLength, if_neg refused]
    exact .invalidTotalLength totalLength rest
  | @noCommand totalLength rest accepted short =>
    rw [concludeLength_append (length_word totalLength), ofWord_word]
    simp only [checkTotalLength_eq_ok.mpr accepted, concludeCommand, if_pos short]
    exact .truncatedHeader _
  | @badCommand totalLength commandId rest accepted refused =>
    rw [concludeLength_append (length_word totalLength), ofWord_word]
    simp only [checkTotalLength_eq_ok.mpr accepted, concludeCommand_append (length_word commandId),
      ofWord_word, checkCommand, if_neg refused]
    exact .invalidCommand totalLength commandId rest
  | @noBody preamble rest accepted valid short =>
    rw [concludeLength_append (length_word preamble.totalLength), ofWord_word]
    simp only [checkTotalLength_eq_ok.mpr accepted,
      concludeCommand_append (length_word preamble.commandId), ofWord_word,
      checkCommand_eq_ok.mpr valid, concludeBody, if_pos short]
    exact .truncatedBody preamble _ rest
  | @whole preamble body rest accepted valid length =>
    rw [concludeLength_append (length_word preamble.totalLength), ofWord_word]
    simp only [checkTotalLength_eq_ok.mpr accepted,
      concludeCommand_append (length_word preamble.commandId), ofWord_word,
      checkCommand_eq_ok.mpr valid, concludeBody_append length]
    exact .whole preamble body rest accepted length

/-- How many bytes of a stream are read to receive its first frame: the whole frame if its body is
there, even if the body is refused, or as much as it takes to refuse the preamble, or everything. -/
def consumed (version : Version) (bytes : Bytes) : Nat :=
  match decodeFrame version bytes with
  | .error .truncatedHeader | .error (.truncatedBody ..) => bytes.length
  | .error (.invalidTotalLength ..) => 4
  | .error (.invalidCommand _) => 8
  | _ => (ofWord (bytes.take 4)).toNat

/-- A frame that arrives in pieces leaves the bytes after it unread, and no others. -/
theorem conclude_leaves (version : Version) (bytes : Bytes) :
    ∃ taken, bytes = taken ++ (concludeLength version bytes).2 ∧
      taken.length = consumed version bytes := by
  have verdict := verdict version bytes
  rw [consumed]
  generalize concludeLength version bytes = conclusion, decodeFrame version bytes = decoded
    at verdict ⊢
  cases verdict with
  | truncatedHeader => exact ⟨bytes, by simp, rfl⟩
  | truncatedBody preamble => exact ⟨bytes, by simp, rfl⟩
  | invalidTotalLength totalLength rest => exact ⟨word totalLength, rfl, by simp⟩
  | invalidCommand totalLength commandId rest =>
    exact ⟨word totalLength ++ word commandId, by simp, by simp⟩
  | whole preamble body rest accepted length =>
    refine ⟨word preamble.totalLength ++ word preamble.commandId ++ body, by simp, ?_⟩
    have first : ofWord ((word preamble.totalLength ++
        (word preamble.commandId ++ (body ++ rest))).take 4) = preamble.totalLength := by
      rw [← length_word preamble.totalLength, List.take_left, ofWord_word]
    have least := headerLength_le_of_accepts accepted
    have total : (word preamble.totalLength ++ word preamble.commandId ++ body).length =
        preamble.totalLength.toNat := by
      simp only [List.length_append, length_word, length, Preamble.bodyLength, headerLength,
        preambleLength] at *
      omega
    rw [first, total]
    cases read : decodeBody version preamble body with
    | ok packet => rfl
    | error error => obtain rfl | ⟨format, rfl⟩ := decodeBody_error read <;> rfl

end Cmpp
