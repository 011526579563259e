import Cmpp.Frame.Basic

/-!
# Frames that arrive in pieces

A stream delivers a frame in pieces of any size. An `Assembly` is the part of a frame that has
arrived so far: it says how many bytes it wants next, takes the pieces as they come, and applies
the checks on the preamble as soon as their words are complete. No piece is longer than what was
wanted, so an assembly never holds a byte of the next frame.
-/

namespace Cmpp

/-- A frame of which the first bytes have arrived. -/
inductive Assembly
  /-- Inside the total length. -/
  | length (got : Bytes)
  /-- Inside the command number, after an accepted total length. -/
  | command (totalLength : UInt32) (got : Bytes)
  /-- Inside the body, after an accepted command number. -/
  | body (preamble : Preamble) (got : Bytes)
  deriving DecidableEq

namespace Assembly

/-- Nothing has arrived yet. -/
def empty : Assembly := .length []

/-- How many bytes complete the part that is arriving. -/
def wanted : Assembly → Nat
  | length got => 4 - got.length
  | command _ got => 4 - got.length
  | body preamble got => preamble.bodyLength - got.length

/-- How many parts of a frame follow the one that is arriving. -/
def partsAhead : Assembly → Nat
  | length _ => 2
  | command .. => 1
  | body .. => 0

/-- What it means that the stream ends here. -/
def truncation : Assembly → Error
  | length _ | command .. => .truncatedHeader
  | body preamble got => .truncatedBody preamble.bodyLength got.length

/-- What taking a piece leads to. -/
inductive Step
  /-- More bytes are wanted. -/
  | more (assembly : Assembly)
  /-- The frame is complete. -/
  | complete (preamble : Preamble) (body : Bytes)
  /-- The frame is refused. -/
  | refused (error : Error)

/-- Take the next piece. -/
def take (version : Version) (piece : Bytes) : Assembly → Step
  | length got =>
    let got := got ++ piece
    if got.length < 4 then .more (.length got)
    else match checkTotalLength version (ofWord got) with
      | .ok () => .more (.command (ofWord got) [])
      | .error error => .refused error
  | command totalLength got =>
    let got := got ++ piece
    if got.length < 4 then .more (.command totalLength got)
    else match checkCommand (ofWord got) with
      | .ok () => .more (.body ⟨totalLength, ofWord got⟩ [])
      | .error error => .refused error
  | body preamble got =>
    let got := got ++ piece
    if got.length < preamble.bodyLength then .more (.body preamble got)
    else .complete preamble got

/-- Every piece that leaves an assembly wanting more brings it nearer to its end. -/
theorem take_more {version : Version} {piece : Bytes} {assembly next : Assembly}
    (nonempty : piece ≠ []) (taken : assembly.take version piece = .more next) :
    next.partsAhead < assembly.partsAhead ∨
      next.partsAhead = assembly.partsAhead ∧ next.wanted < assembly.wanted := by
  have positive : 0 < piece.length := List.length_pos_iff.mpr nonempty
  cases assembly with
  | length got | command _ got =>
    simp only [take] at taken
    split at taken
    · cases taken
      right
      simp_all only [List.length_append, partsAhead, wanted, true_and]
      omega
    · split at taken <;> cases taken
      left
      simp [partsAhead]
  | body preamble got =>
    simp only [take] at taken
    split at taken
    · cases taken
      right
      simp_all only [List.length_append, partsAhead, wanted, true_and]
      omega
    · cases taken

end Assembly

end Cmpp
