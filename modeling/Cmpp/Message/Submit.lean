import Cmpp.Message.Width

/-!
# Submitting a short message

A service submits a short message for up to a hundred terminals. Version 3.0 widens the terminal
numbers, says of each whether it is a pseudonym, and has a link identifier in place of the reserved
text.
-/

namespace Cmpp

/-- A submitted short message, 2.x. -/
structure SubmitV2 where
  /-- The gateway's identifier of the message. -/
  msgId : UInt64 := 0
  /-- Number of parts of the whole message. -/
  pkTotal : UInt8 := 0
  /-- Which of its parts this is. -/
  pkNumber : UInt8 := 0
  /-- Whether a status report is asked for. -/
  registeredDelivery : UInt8 := 0
  /-- Priority. -/
  msgLevel : UInt8 := 0
  /-- Kind of service. -/
  serviceId : String := ""
  /-- Who pays. -/
  feeUserType : UInt8 := 0
  /-- The terminal that pays. -/
  feeTerminalId : String := ""
  /-- Protocol identifier of the short message. -/
  tpPid : UInt8 := 0
  /-- Whether the content begins with a user data header. -/
  tpUdhi : UInt8 := 0
  /-- Coding of the content. -/
  msgFmt : UInt8 := 0
  /-- Source of the content. -/
  msgSrc : String := ""
  /-- Kind of fee. -/
  feeType : String := ""
  /-- Amount of the fee. -/
  feeCode : String := ""
  /-- When the message expires. -/
  validTime : String := ""
  /-- When the message is to be sent. -/
  atTime : String := ""
  /-- The sender's number. -/
  srcId : String := ""
  /-- The terminals to send to. -/
  destTerminalIds : List String := []
  /-- The short message. -/
  msgContent : Bytes := []
  /-- Reserved. -/
  reserve : String := ""
  deriving DecidableEq

/-- The fields of a submitted short message, 2.x. -/
def SubmitV2.shape : Shape SubmitV2 where
  layout :=
    [⟨"msg_id", .long⟩, ⟨"pk_total", .byte⟩, ⟨"pk_number", .byte⟩, ⟨"registered_delivery", .byte⟩,
     ⟨"msg_level", .byte⟩, ⟨"service_id", .text Width.service⟩, ⟨"fee_user_type", .byte⟩,
     ⟨"fee_terminal_id", .text Width.terminalV2⟩, ⟨"tp_pid", .byte⟩, ⟨"tp_udhi", .byte⟩,
     ⟨"msg_fmt", .byte⟩, ⟨"msg_src", .text Width.node⟩, ⟨"fee_type", .text Width.feeType⟩,
     ⟨"fee_code", .text Width.feeCode⟩, ⟨"valid_time", .text Width.time⟩,
     ⟨"at_time", .text Width.time⟩, ⟨"src_id", .text Width.source⟩,
     ⟨"dest_terminal_id", .texts Width.terminalV2⟩, ⟨"msg_content", .content "msg_length"⟩,
     ⟨"reserve", .text Width.reserve⟩]
  toRecord message :=
    (message.msgId, message.pkTotal, message.pkNumber, message.registeredDelivery,
     message.msgLevel, message.serviceId, message.feeUserType, message.feeTerminalId,
     message.tpPid, message.tpUdhi, message.msgFmt, message.msgSrc, message.feeType,
     message.feeCode, message.validTime, message.atTime, message.srcId, message.destTerminalIds,
     message.msgContent, message.reserve, ())
  ofRecord := fun
    (msgId, pkTotal, pkNumber, registeredDelivery, msgLevel, serviceId, feeUserType, feeTerminalId,
     tpPid, tpUdhi, msgFmt, msgSrc, feeType, feeCode, validTime, atTime, srcId, destTerminalIds,
     msgContent, reserve, ()) =>
    { msgId, pkTotal, pkNumber, registeredDelivery, msgLevel, serviceId, feeUserType,
      feeTerminalId, tpPid, tpUdhi, msgFmt, msgSrc, feeType, feeCode, validTime, atTime, srcId,
      destTerminalIds, msgContent, reserve }

/-- A submitted short message, 3.0. -/
structure SubmitV3 where
  /-- The gateway's identifier of the message. -/
  msgId : UInt64 := 0
  /-- Number of parts of the whole message. -/
  pkTotal : UInt8 := 0
  /-- Which of its parts this is. -/
  pkNumber : UInt8 := 0
  /-- Whether a status report is asked for. -/
  registeredDelivery : UInt8 := 0
  /-- Priority. -/
  msgLevel : UInt8 := 0
  /-- Kind of service. -/
  serviceId : String := ""
  /-- Who pays. -/
  feeUserType : UInt8 := 0
  /-- The terminal that pays. -/
  feeTerminalId : String := ""
  /-- Whether the paying number is real or a pseudonym. -/
  feeTerminalType : UInt8 := 0
  /-- Protocol identifier of the short message. -/
  tpPid : UInt8 := 0
  /-- Whether the content begins with a user data header. -/
  tpUdhi : UInt8 := 0
  /-- Coding of the content. -/
  msgFmt : UInt8 := 0
  /-- Source of the content. -/
  msgSrc : String := ""
  /-- Kind of fee. -/
  feeType : String := ""
  /-- Amount of the fee. -/
  feeCode : String := ""
  /-- When the message expires. -/
  validTime : String := ""
  /-- When the message is to be sent. -/
  atTime : String := ""
  /-- The sender's number. -/
  srcId : String := ""
  /-- The terminals to send to. -/
  destTerminalIds : List String := []
  /-- Whether the receiving numbers are real or pseudonyms. -/
  destTerminalType : UInt8 := 0
  /-- The short message. -/
  msgContent : Bytes := []
  /-- Identifier of an on-demand service. -/
  linkId : String := ""
  deriving DecidableEq

/-- The fields of a submitted short message, 3.0. -/
def SubmitV3.shape : Shape SubmitV3 where
  layout :=
    [⟨"msg_id", .long⟩, ⟨"pk_total", .byte⟩, ⟨"pk_number", .byte⟩, ⟨"registered_delivery", .byte⟩,
     ⟨"msg_level", .byte⟩, ⟨"service_id", .text Width.service⟩, ⟨"fee_user_type", .byte⟩,
     ⟨"fee_terminal_id", .text Width.terminalV3⟩, ⟨"fee_terminal_type", .byte⟩, ⟨"tp_pid", .byte⟩,
     ⟨"tp_udhi", .byte⟩, ⟨"msg_fmt", .byte⟩, ⟨"msg_src", .text Width.node⟩,
     ⟨"fee_type", .text Width.feeType⟩, ⟨"fee_code", .text Width.feeCode⟩,
     ⟨"valid_time", .text Width.time⟩, ⟨"at_time", .text Width.time⟩,
     ⟨"src_id", .text Width.source⟩, ⟨"dest_terminal_id", .texts Width.terminalV3⟩,
     ⟨"dest_terminal_type", .byte⟩, ⟨"msg_content", .content "msg_length"⟩,
     ⟨"link_id", .text Width.link⟩]
  toRecord message :=
    (message.msgId, message.pkTotal, message.pkNumber, message.registeredDelivery,
     message.msgLevel, message.serviceId, message.feeUserType, message.feeTerminalId,
     message.feeTerminalType, message.tpPid, message.tpUdhi, message.msgFmt, message.msgSrc,
     message.feeType, message.feeCode, message.validTime, message.atTime, message.srcId,
     message.destTerminalIds, message.destTerminalType, message.msgContent, message.linkId, ())
  ofRecord := fun
    (msgId, pkTotal, pkNumber, registeredDelivery, msgLevel, serviceId, feeUserType, feeTerminalId,
     feeTerminalType, tpPid, tpUdhi, msgFmt, msgSrc, feeType, feeCode, validTime, atTime, srcId,
     destTerminalIds, destTerminalType, msgContent, linkId, ()) =>
    { msgId, pkTotal, pkNumber, registeredDelivery, msgLevel, serviceId, feeUserType,
      feeTerminalId, feeTerminalType, tpPid, tpUdhi, msgFmt, msgSrc, feeType, feeCode, validTime,
      atTime, srcId, destTerminalIds, destTerminalType, msgContent, linkId }

end Cmpp
