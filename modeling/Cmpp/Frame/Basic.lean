import Cmpp.Error
import Cmpp.Packet

/-!
# Frames

The checks on a frame run in wire order: its total length against the bounds of the version, its
command number against the ranges of commands, the presence of the whole body, the kind of message,
and last the fields. `encodeFrame` keeps to the upper bound too. `decodeFrame` applies the checks to
bytes at hand and `decodeFrames` to a run of frames.
-/

namespace Cmpp

/-- The two words before a frame's body. -/
structure Preamble where
  /-- Length of the whole frame. -/
  totalLength : UInt32
  /-- Number of the command. -/
  commandId : UInt32
  deriving DecidableEq

/-- The length of the body that a preamble announces. -/
def Preamble.bodyLength (preamble : Preamble) : Nat :=
  preamble.totalLength.toNat - preambleLength

/-- Check an announced total length against the bounds of a version. -/
def checkTotalLength (version : Version) (length : UInt32) : Except Error Unit :=
  if version.accepts length.toNat then .ok () else .error (.invalidTotalLength length version)

/-- Check the length of an encoded frame against the upper bound of a version. -/
def checkFrameLength (version : Version) (length : Nat) : Except Error Unit :=
  if length ≤ version.maxLength then .ok () else .error (.frameTooLong length version)

/-- Check a command number against the ranges of commands. -/
def checkCommand (id : UInt32) : Except Error Unit :=
  if Command.isValidId id then .ok () else .error (.invalidCommand id)

/-- The kind of message that a command number stands for. -/
def resolveKind (version : Version) (id : UInt32) : Except Error Kind :=
  match Kind.resolve? version id with
  | some kind => .ok kind
  | none => .error (.unsupportedCommand id)

/-- Read the body behind a preamble. -/
def decodeBody (version : Version) (preamble : Preamble) (body : Bytes) : Except Error Packet := do
  let kind ← resolveKind version preamble.commandId
  (Packet.decode kind body).mapError .format

/-- The frame that carries a packet under a sequence number, when the version allows its length. -/
def encodeFrame (version : Version) (packet : Packet) (sequenceId : UInt32) :
    Except Error Bytes := do
  let frame ← (packet.encode sequenceId).mapError .format
  checkFrameLength version frame.length
  .ok frame

/-- Take a word of a preamble off the front. -/
def takeWord (bytes : Bytes) : Except Error (UInt32 × Bytes) :=
  if 4 ≤ bytes.length then .ok (ofWord (bytes.take 4), bytes.drop 4) else .error .truncatedHeader

/-- Read one frame off the front, returning its packet and its length. -/
def decodeFrame (version : Version) (bytes : Bytes) : Except Error (Packet × Nat) := do
  let (totalLength, bytes) ← takeWord bytes
  checkTotalLength version totalLength
  let (commandId, bytes) ← takeWord bytes
  checkCommand commandId
  let preamble : Preamble := ⟨totalLength, commandId⟩
  if preamble.bodyLength ≤ bytes.length then
    let packet ← decodeBody version preamble (bytes.take preamble.bodyLength)
    .ok (packet, totalLength.toNat)
  else .error (.truncatedBody preamble.bodyLength bytes.length)

/-- A word taken off the front is the front. -/
theorem takeWord_eq_ok {bytes rest : Bytes} {value : UInt32}
    (taken : takeWord bytes = .ok (value, rest)) : bytes = word value ++ rest := by
  unfold takeWord at taken
  split at taken
  · rename_i enough
    cases taken
    rw [word_ofWord (by simp [enough]), List.take_append_drop]
  · contradiction

/-- A decoded frame has at least the length of a header and lies inside the bytes. -/
theorem decodeFrame_length {version : Version} {bytes : Bytes} {packet : Packet} {length : Nat}
    (decoded : decodeFrame version bytes = .ok (packet, length)) :
    headerLength ≤ length ∧ length ≤ bytes.length := by
  unfold decodeFrame at decoded
  cases first : takeWord bytes with
  | error _ => simp [first, bind, Except.bind] at decoded
  | ok taken =>
    obtain ⟨totalLength, middle⟩ := taken
    cases checked : checkTotalLength version totalLength with
    | error _ => simp [first, checked, bind, Except.bind] at decoded
    | ok _ =>
      cases second : takeWord middle with
      | error _ => simp [first, checked, second, bind, Except.bind] at decoded
      | ok taken =>
        obtain ⟨commandId, body⟩ := taken
        have whole := takeWord_eq_ok first
        rw [takeWord_eq_ok second] at whole
        simp only [first, checked, second, bind, Except.bind] at decoded
        repeat' split at decoded
        all_goals simp_all [headerLength, Preamble.bodyLength, preambleLength, checkTotalLength,
          Version.accepts, Version.minLength]
        omega

/-- Read frame after frame until one cannot be read, returning the packets with the lengths of
their frames, and what stopped the reading. -/
def decodeFrames (version : Version) (bytes : Bytes) : List (Packet × Nat) × Error :=
  match _ : decodeFrame version bytes with
  | .error error => ([], error)
  | .ok (packet, length) =>
    let (others, error) := decodeFrames version (bytes.drop length)
    ((packet, length) :: others, error)
termination_by bytes.length
decreasing_by
  rename_i decoded
  have bounds := decodeFrame_length decoded
  simp only [headerLength] at bounds
  simp only [List.length_drop]
  omega

end Cmpp
