import Cmpp.Message.Width
import Cmpp.Version

/-!
# Responses

A response reports a result, as one byte in the 2.x layouts and as a 32-bit word in the 3.0
layouts. Submitted and delivered messages are acknowledged alike.
-/

namespace Cmpp

/-- How a generation of layouts stores a result. -/
@[reducible] def Generation.resultSlot : Generation → Slot
  | .second => .byte
  | .third => .word

/-- The acknowledgement of a submitted or delivered message. -/
structure Acknowledgement (generation : Generation) where
  /-- The gateway's identifier of the message. -/
  msgId : UInt64 := 0
  /-- Zero when the message was taken over. -/
  result : generation.resultSlot.Value
  deriving DecidableEq

/-- The fields of an acknowledgement. -/
def Acknowledgement.shape (generation : Generation) : Shape (Acknowledgement generation) where
  layout := [⟨"msg_id", .long⟩, ⟨"result", generation.resultSlot⟩]
  toRecord message := (message.msgId, message.result, ())
  ofRecord := fun (msgId, result, ()) => { msgId, result }

end Cmpp
