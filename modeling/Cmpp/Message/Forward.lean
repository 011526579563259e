import Cmpp.Message.Response

/-!
# Forwarding a short message

One gateway forwards a short message to another. Version 3.0 adds the pseudonyms and kinds of the
users concerned; its terminal numbers keep the narrow width, unlike those of a submitted message.
-/

namespace Cmpp

/-- A forwarded short message, 2.x. -/
structure ForwardV2 where
  /-- The gateway that the message comes from. -/
  sourceId : String := ""
  /-- The gateway that the message goes to. -/
  destinationId : String := ""
  /-- Gateways passed so far. -/
  nodesCount : UInt8 := 0
  /-- What is forwarded. -/
  msgFwdType : UInt8 := 0
  /-- The gateway's identifier of the message. -/
  msgId : UInt64 := 0
  /-- Number of parts of the whole message. -/
  pkTotal : UInt8 := 0
  /-- Which of its parts this is. -/
  pkNumber : UInt8 := 0
  /-- Whether a status report is asked for. -/
  registeredDelivery : UInt8 := 0
  /-- Priority. -/
  msgLevel : UInt8 := 0
  /-- Kind of service. -/
  serviceId : String := ""
  /-- Who pays. -/
  feeUserType : UInt8 := 0
  /-- The terminal that pays. -/
  feeTerminalId : String := ""
  /-- Protocol identifier of the short message. -/
  tpPid : UInt8 := 0
  /-- Whether the content begins with a user data header. -/
  tpUdhi : UInt8 := 0
  /-- Coding of the content. -/
  msgFmt : UInt8 := 0
  /-- Source of the content. -/
  msgSrc : String := ""
  /-- Kind of fee. -/
  feeType : String := ""
  /-- Amount of the fee. -/
  feeCode : String := ""
  /-- When the message expires. -/
  validTime : String := ""
  /-- When the message is to be sent. -/
  atTime : String := ""
  /-- The sender's number. -/
  srcId : String := ""
  /-- The numbers to send to. -/
  destIds : List String := []
  /-- The short message. -/
  msgContent : Bytes := []
  /-- Reserved. -/
  reserve : String := ""
  deriving DecidableEq

/-- The fields of a forwarded short message, 2.x. -/
def ForwardV2.shape : Shape ForwardV2 where
  layout :=
    [⟨"source_id", .text Width.node⟩, ⟨"destination_id", .text Width.node⟩, ⟨"nodes_count", .byte⟩,
     ⟨"msg_fwd_type", .byte⟩, ⟨"msg_id", .long⟩, ⟨"pk_total", .byte⟩, ⟨"pk_number", .byte⟩,
     ⟨"registered_delivery", .byte⟩, ⟨"msg_level", .byte⟩, ⟨"service_id", .text Width.service⟩,
     ⟨"fee_user_type", .byte⟩, ⟨"fee_terminal_id", .text Width.terminalV2⟩, ⟨"tp_pid", .byte⟩,
     ⟨"tp_udhi", .byte⟩, ⟨"msg_fmt", .byte⟩, ⟨"msg_src", .text Width.node⟩,
     ⟨"fee_type", .text Width.feeType⟩, ⟨"fee_code", .text Width.feeCode⟩,
     ⟨"valid_time", .text Width.time⟩, ⟨"at_time", .text Width.time⟩,
     ⟨"src_id", .text Width.source⟩, ⟨"dest_id", .texts Width.terminalV2⟩,
     ⟨"msg_content", .content "msg_length"⟩, ⟨"reserve", .text Width.reserve⟩]
  toRecord message :=
    (message.sourceId, message.destinationId, message.nodesCount, message.msgFwdType,
     message.msgId, message.pkTotal, message.pkNumber, message.registeredDelivery,
     message.msgLevel, message.serviceId, message.feeUserType, message.feeTerminalId,
     message.tpPid, message.tpUdhi, message.msgFmt, message.msgSrc, message.feeType,
     message.feeCode, message.validTime, message.atTime, message.srcId, message.destIds,
     message.msgContent, message.reserve, ())
  ofRecord := fun
    (sourceId, destinationId, nodesCount, msgFwdType, msgId, pkTotal, pkNumber, registeredDelivery,
     msgLevel, serviceId, feeUserType, feeTerminalId, tpPid, tpUdhi, msgFmt, msgSrc, feeType,
     feeCode, validTime, atTime, srcId, destIds, msgContent, reserve, ()) =>
    { sourceId, destinationId, nodesCount, msgFwdType, msgId, pkTotal, pkNumber,
      registeredDelivery, msgLevel, serviceId, feeUserType, feeTerminalId, tpPid, tpUdhi, msgFmt,
      msgSrc, feeType, feeCode, validTime, atTime, srcId, destIds, msgContent, reserve }

/-- A forwarded short message, 3.0. -/
structure ForwardV3 where
  /-- The gateway that the message comes from. -/
  sourceId : String := ""
  /-- The gateway that the message goes to. -/
  destinationId : String := ""
  /-- Gateways passed so far. -/
  nodesCount : UInt8 := 0
  /-- What is forwarded. -/
  msgFwdType : UInt8 := 0
  /-- The gateway's identifier of the message. -/
  msgId : UInt64 := 0
  /-- Number of parts of the whole message. -/
  pkTotal : UInt8 := 0
  /-- Which of its parts this is. -/
  pkNumber : UInt8 := 0
  /-- Whether a status report is asked for. -/
  registeredDelivery : UInt8 := 0
  /-- Priority. -/
  msgLevel : UInt8 := 0
  /-- Kind of service. -/
  serviceId : String := ""
  /-- Who pays. -/
  feeUserType : UInt8 := 0
  /-- The terminal that pays. -/
  feeTerminalId : String := ""
  /-- Pseudonym of the paying terminal. -/
  feeTerminalPseudo : String := ""
  /-- Kind of the paying user. -/
  feeTerminalUserType : UInt8 := 0
  /-- Protocol identifier of the short message. -/
  tpPid : UInt8 := 0
  /-- Whether the content begins with a user data header. -/
  tpUdhi : UInt8 := 0
  /-- Coding of the content. -/
  msgFmt : UInt8 := 0
  /-- Source of the content. -/
  msgSrc : String := ""
  /-- Kind of fee. -/
  feeType : String := ""
  /-- Amount of the fee. -/
  feeCode : String := ""
  /-- When the message expires. -/
  validTime : String := ""
  /-- When the message is to be sent. -/
  atTime : String := ""
  /-- The sender's number. -/
  srcId : String := ""
  /-- The sender's pseudonym. -/
  srcPseudo : String := ""
  /-- Kind of the sending user. -/
  srcUserType : UInt8 := 0
  /-- Whether the sender's number or pseudonym is passed on. -/
  srcType : UInt8 := 0
  /-- The numbers to send to. -/
  destIds : List String := []
  /-- The receiver's pseudonym. -/
  destPseudo : String := ""
  /-- Kind of the receiving user. -/
  destUserType : UInt8 := 0
  /-- The short message. -/
  msgContent : Bytes := []
  /-- Identifier of an on-demand service. -/
  linkId : String := ""
  deriving DecidableEq

/-- The fields of a forwarded short message, 3.0. -/
def ForwardV3.shape : Shape ForwardV3 where
  layout :=
    [⟨"source_id", .text Width.node⟩, ⟨"destination_id", .text Width.node⟩, ⟨"nodes_count", .byte⟩,
     ⟨"msg_fwd_type", .byte⟩, ⟨"msg_id", .long⟩, ⟨"pk_total", .byte⟩, ⟨"pk_number", .byte⟩,
     ⟨"registered_delivery", .byte⟩, ⟨"msg_level", .byte⟩, ⟨"service_id", .text Width.service⟩,
     ⟨"fee_user_type", .byte⟩, ⟨"fee_terminal_id", .text Width.terminalV2⟩,
     ⟨"fee_terminal_pseudo", .text Width.pseudonym⟩, ⟨"fee_terminal_user_type", .byte⟩,
     ⟨"tp_pid", .byte⟩, ⟨"tp_udhi", .byte⟩, ⟨"msg_fmt", .byte⟩, ⟨"msg_src", .text Width.node⟩,
     ⟨"fee_type", .text Width.feeType⟩, ⟨"fee_code", .text Width.feeCode⟩,
     ⟨"valid_time", .text Width.time⟩, ⟨"at_time", .text Width.time⟩,
     ⟨"src_id", .text Width.source⟩, ⟨"src_pseudo", .text Width.pseudonym⟩,
     ⟨"src_user_type", .byte⟩, ⟨"src_type", .byte⟩, ⟨"dest_id", .texts Width.terminalV2⟩,
     ⟨"dest_pseudo", .text Width.pseudonym⟩, ⟨"dest_user_type", .byte⟩,
     ⟨"msg_content", .content "msg_length"⟩, ⟨"link_id", .text Width.link⟩]
  toRecord message :=
    (message.sourceId, message.destinationId, message.nodesCount, message.msgFwdType,
     message.msgId, message.pkTotal, message.pkNumber, message.registeredDelivery,
     message.msgLevel, message.serviceId, message.feeUserType, message.feeTerminalId,
     message.feeTerminalPseudo, message.feeTerminalUserType, message.tpPid, message.tpUdhi,
     message.msgFmt, message.msgSrc, message.feeType, message.feeCode, message.validTime,
     message.atTime, message.srcId, message.srcPseudo, message.srcUserType, message.srcType,
     message.destIds, message.destPseudo, message.destUserType, message.msgContent, message.linkId,
     ())
  ofRecord := fun
    (sourceId, destinationId, nodesCount, msgFwdType, msgId, pkTotal, pkNumber, registeredDelivery,
     msgLevel, serviceId, feeUserType, feeTerminalId, feeTerminalPseudo, feeTerminalUserType,
     tpPid, tpUdhi, msgFmt, msgSrc, feeType, feeCode, validTime, atTime, srcId, srcPseudo,
     srcUserType, srcType, destIds, destPseudo, destUserType, msgContent, linkId, ()) =>
    { sourceId, destinationId, nodesCount, msgFwdType, msgId, pkTotal, pkNumber,
      registeredDelivery, msgLevel, serviceId, feeUserType, feeTerminalId, feeTerminalPseudo,
      feeTerminalUserType, tpPid, tpUdhi, msgFmt, msgSrc, feeType, feeCode, validTime, atTime,
      srcId, srcPseudo, srcUserType, srcType, destIds, destPseudo, destUserType, msgContent,
      linkId }

/-- The response to a forwarded short message. -/
structure ForwardResponse (generation : Generation) where
  /-- The gateway's identifier of the message. -/
  msgId : UInt64 := 0
  /-- Number of parts of the whole message. -/
  pkTotal : UInt8 := 0
  /-- Which of its parts was forwarded. -/
  pkNumber : UInt8 := 0
  /-- Zero when the message was taken over. -/
  result : generation.resultSlot.Value
  deriving DecidableEq

/-- The fields of the response to a forwarded short message. -/
def ForwardResponse.shape (generation : Generation) : Shape (ForwardResponse generation) where
  layout :=
    [⟨"msg_id", .long⟩, ⟨"pk_total", .byte⟩, ⟨"pk_number", .byte⟩,
     ⟨"result", generation.resultSlot⟩]
  toRecord message := (message.msgId, message.pkTotal, message.pkNumber, message.result, ())
  ofRecord := fun (msgId, pkTotal, pkNumber, result, ()) => { msgId, pkTotal, pkNumber, result }

end Cmpp
