import Cmpp.Layout.Decode
import Cmpp.Message.Width

/-!
# Delivering a short message

The gateway delivers a short message that a terminal sent or, when `registeredDelivery` is one, the
status report on a message submitted earlier. The report is packed into the content, in a layout
of its own that fills the content.
-/

namespace Cmpp

/-- A delivered short message or status report, 2.x. -/
structure DeliverV2 where
  /-- The gateway's identifier of the message. -/
  msgId : UInt64 := 0
  /-- The number that the message was sent to. -/
  destId : String := ""
  /-- Kind of service. -/
  serviceId : String := ""
  /-- Protocol identifier of the short message. -/
  tpPid : UInt8 := 0
  /-- Whether the content begins with a user data header. -/
  tpUdhi : UInt8 := 0
  /-- Coding of the content. -/
  msgFmt : UInt8 := 0
  /-- The terminal that sent the message. -/
  srcTerminalId : String := ""
  /-- One when the content is a status report. -/
  registeredDelivery : UInt8 := 0
  /-- The short message or the status report. -/
  msgContent : Bytes := []
  /-- Reserved. -/
  reserve : String := ""
  deriving DecidableEq

/-- The fields of a delivered message, 2.x. -/
def DeliverV2.shape : Shape DeliverV2 where
  layout :=
    [⟨"msg_id", .long⟩, ⟨"dest_id", .text Width.source⟩, ⟨"service_id", .text Width.service⟩,
     ⟨"tp_pid", .byte⟩, ⟨"tp_udhi", .byte⟩, ⟨"msg_fmt", .byte⟩,
     ⟨"src_terminal_id", .text Width.terminalV2⟩, ⟨"registered_delivery", .byte⟩,
     ⟨"msg_content", .content "msg_length"⟩, ⟨"reserve", .text Width.reserve⟩]
  toRecord message :=
    (message.msgId, message.destId, message.serviceId, message.tpPid, message.tpUdhi,
     message.msgFmt, message.srcTerminalId, message.registeredDelivery, message.msgContent,
     message.reserve, ())
  ofRecord := fun
    (msgId, destId, serviceId, tpPid, tpUdhi, msgFmt, srcTerminalId, registeredDelivery,
     msgContent, reserve, ()) =>
    { msgId, destId, serviceId, tpPid, tpUdhi, msgFmt, srcTerminalId, registeredDelivery,
      msgContent, reserve }

/-- A delivered short message or status report, 3.0. -/
structure DeliverV3 where
  /-- The gateway's identifier of the message. -/
  msgId : UInt64 := 0
  /-- The number that the message was sent to. -/
  destId : String := ""
  /-- Kind of service. -/
  serviceId : String := ""
  /-- Protocol identifier of the short message. -/
  tpPid : UInt8 := 0
  /-- Whether the content begins with a user data header. -/
  tpUdhi : UInt8 := 0
  /-- Coding of the content. -/
  msgFmt : UInt8 := 0
  /-- The terminal that sent the message. -/
  srcTerminalId : String := ""
  /-- Whether the sending number is real or a pseudonym. -/
  srcTerminalType : UInt8 := 0
  /-- One when the content is a status report. -/
  registeredDelivery : UInt8 := 0
  /-- The short message or the status report. -/
  msgContent : Bytes := []
  /-- Identifier of an on-demand service. -/
  linkId : String := ""
  deriving DecidableEq

/-- The fields of a delivered message, 3.0. -/
def DeliverV3.shape : Shape DeliverV3 where
  layout :=
    [⟨"msg_id", .long⟩, ⟨"dest_id", .text Width.source⟩, ⟨"service_id", .text Width.service⟩,
     ⟨"tp_pid", .byte⟩, ⟨"tp_udhi", .byte⟩, ⟨"msg_fmt", .byte⟩,
     ⟨"src_terminal_id", .text Width.terminalV3⟩, ⟨"src_terminal_type", .byte⟩,
     ⟨"registered_delivery", .byte⟩, ⟨"msg_content", .content "msg_length"⟩,
     ⟨"link_id", .text Width.link⟩]
  toRecord message :=
    (message.msgId, message.destId, message.serviceId, message.tpPid, message.tpUdhi,
     message.msgFmt, message.srcTerminalId, message.srcTerminalType, message.registeredDelivery,
     message.msgContent, message.linkId, ())
  ofRecord := fun
    (msgId, destId, serviceId, tpPid, tpUdhi, msgFmt, srcTerminalId, srcTerminalType,
     registeredDelivery, msgContent, linkId, ()) =>
    { msgId, destId, serviceId, tpPid, tpUdhi, msgFmt, srcTerminalId, srcTerminalType,
      registeredDelivery, msgContent, linkId }

/-- The status report on a message submitted earlier. -/
structure DeliveryReport where
  /-- The gateway's identifier of the message reported on. -/
  msgId : UInt64
  /-- What became of the message. -/
  stat : String
  /-- When the message was submitted. -/
  submitTime : String
  /-- When its delivery was settled. -/
  doneTime : String
  /-- The terminal it was sent to. -/
  destTerminalId : String
  /-- The number that the message centre gave it. -/
  smscSequence : UInt32
  deriving DecidableEq

/-- The fields of a status report whose terminal number has the given width. -/
def DeliveryReport.shape (terminal : Nat) : Shape DeliveryReport where
  layout :=
    [⟨"report.msg_id", .long⟩, ⟨"report.stat", .text Width.status⟩,
     ⟨"report.submit_time", .text Width.reportTime⟩, ⟨"report.done_time", .text Width.reportTime⟩,
     ⟨"report.dest_terminal_id", .text terminal⟩, ⟨"report.smsc_sequence", .word⟩]
  toRecord report :=
    (report.msgId, report.stat, report.submitTime, report.doneTime, report.destTerminalId,
     report.smscSequence, ())
  ofRecord := fun (msgId, stat, submitTime, doneTime, destTerminalId, smscSequence, ()) =>
    { msgId, stat, submitTime, doneTime, destTerminalId, smscSequence }

/-- The status report in the content, when `registeredDelivery` says that there is one. -/
def DeliverV2.report? (message : DeliverV2) : Option (Except FormatError DeliveryReport) :=
  if message.registeredDelivery = 1 then
    some ((DeliveryReport.shape Width.terminalV2).decode message.msgContent)
  else none

/-- The status report in the content, when `registeredDelivery` says that there is one. -/
def DeliverV3.report? (message : DeliverV3) : Option (Except FormatError DeliveryReport) :=
  if message.registeredDelivery = 1 then
    some ((DeliveryReport.shape Width.terminalV3).decode message.msgContent)
  else none

end Cmpp
