import Cmpp.Layout.Decode
import Cmpp.Layout.Encode
import Cmpp.Message.Kind

/-!
# Packets

A packet is a message with the sequence number that ties a response to its request. On the wire it
is a frame: the total length, the command and the sequence number, each a 32-bit word, and then the
fields of the message. The first two words are the frame's preamble; what follows them, from the
sequence number on, is its body.
-/

namespace Cmpp

/-- A message of some kind with its sequence number. -/
structure Packet where
  /-- The kind of message. -/
  kind : Kind
  /-- The number shared by a request and its response. -/
  sequenceId : UInt32 := 0
  /-- What the message holds. -/
  fields : kind.Fields
  deriving DecidableEq

/-- The bytes of total length, command and sequence number. -/
def headerLength : Nat := 12

/-- The bytes of total length and command. -/
def preambleLength : Nat := 8

/-- A frame around the fields of a message. -/
def frame (command : Command) (sequenceId : UInt32) (fields : Bytes) : Bytes :=
  word (UInt32.ofNat (headerLength + fields.length)) ++ word command.id ++ word sequenceId ++
    fields

namespace Packet

/-- The command that a packet is sent with. -/
def command (packet : Packet) : Command := packet.kind.command

/-- The frame that carries a packet under a sequence number, which need not be the packet's own. -/
def encode (packet : Packet) (sequenceId : UInt32) : Except FormatError Bytes :=
  (packet.kind.shape.encode packet.fields).map (frame packet.command sequenceId)

/-- Read the body of a frame as a packet of a kind. -/
def decode (kind : Kind) (body : Bytes) : Except FormatError Packet := do
  let (sequenceId, rest) ← decodeWord "seq_id" body
  let fields ← kind.shape.decode rest
  .ok { kind, sequenceId, fields }

/-- The status report in a packet, when it delivers one. -/
def report? : Packet → Option (Except FormatError DeliveryReport)
  | ⟨.deliver .second, _, message⟩ => DeliverV2.report? message
  | ⟨.deliver .third, _, message⟩ => DeliverV3.report? message
  | _ => none

end Packet

end Cmpp
