/-!
# Commands

The second word of a frame names its command: one of sixteen operations, as a request or as the
response to one. A response has the number of its request with the highest bit set. The numbers of
all commands lie in the two ranges that `isValidId` admits (`isValidId_id`), but not every number
in those ranges belongs to a command.
-/

namespace Cmpp

/-- What a request asks for. -/
inductive Operation
  /-- To log in. -/
  | connect
  /-- To close the link. -/
  | terminate
  /-- To send a short message to terminals. -/
  | submit
  /-- To hand a short message or a status report to a service. -/
  | deliver
  /-- To report on the messages of a day. -/
  | query
  /-- To take a submitted message back. -/
  | cancel
  /-- To show that the link is alive. -/
  | activeTest
  /-- To pass a short message on to another gateway. -/
  | forward
  /-- To ask for the route of a message to a terminal. -/
  | mtRoute
  /-- To ask for the route of a message from a terminal. -/
  | moRoute
  /-- To fetch routes to terminals. -/
  | getMtRoute
  /-- To change a route to a terminal. -/
  | mtRouteUpdate
  /-- To change a route from a terminal. -/
  | moRouteUpdate
  /-- To announce a changed route to a terminal. -/
  | pushMtRouteUpdate
  /-- To announce a changed route from a terminal. -/
  | pushMoRouteUpdate
  /-- To fetch routes from terminals. -/
  | getMoRoute
  deriving DecidableEq

namespace Operation

/-- Every operation, by number. -/
def all : List Operation :=
  [.connect, .terminate, .submit, .deliver, .query, .cancel, .activeTest, .forward, .mtRoute,
    .moRoute, .getMtRoute, .mtRouteUpdate, .moRouteUpdate, .pushMtRouteUpdate,
    .pushMoRouteUpdate, .getMoRoute]

/-- The number of an operation's request. -/
def number : Operation → UInt32
  | .connect => 0x01
  | .terminate => 0x02
  | .submit => 0x04
  | .deliver => 0x05
  | .query => 0x06
  | .cancel => 0x07
  | .activeTest => 0x08
  | .forward => 0x09
  | .mtRoute => 0x10
  | .moRoute => 0x11
  | .getMtRoute => 0x12
  | .mtRouteUpdate => 0x13
  | .moRouteUpdate => 0x14
  | .pushMtRouteUpdate => 0x15
  | .pushMoRouteUpdate => 0x16
  | .getMoRoute => 0x17

/-- The protocol's name for an operation's request. -/
def name : Operation → String
  | .connect => "CMPP_CONNECT"
  | .terminate => "CMPP_TERMINATE"
  | .submit => "CMPP_SUBMIT"
  | .deliver => "CMPP_DELIVER"
  | .query => "CMPP_QUERY"
  | .cancel => "CMPP_CANCEL"
  | .activeTest => "CMPP_ACTIVE_TEST"
  | .forward => "CMPP_FWD"
  | .mtRoute => "CMPP_MT_ROUTE"
  | .moRoute => "CMPP_MO_ROUTE"
  | .getMtRoute => "CMPP_GET_MT_ROUTE"
  | .mtRouteUpdate => "CMPP_MT_ROUTE_UPDATE"
  | .moRouteUpdate => "CMPP_MO_ROUTE_UPDATE"
  | .pushMtRouteUpdate => "CMPP_PUSH_MT_ROUTE_UPDATE"
  | .pushMoRouteUpdate => "CMPP_PUSH_MO_ROUTE_UPDATE"
  | .getMoRoute => "CMPP_GET_MO_ROUTE"

end Operation

/-- Which way a command goes. -/
inductive Direction
  /-- It asks for an operation. -/
  | request
  /-- It answers a request. -/
  | response
  deriving DecidableEq

/-- A command: an operation, asked for or answered. -/
structure Command where
  /-- What is asked for or answered. -/
  operation : Operation
  /-- Whether this is the request or its response. -/
  direction : Direction
  deriving DecidableEq

namespace Command

/-- The bit that tells a response from a request. -/
def responseFlag : UInt32 := 0x80000000

/-- The number before the first request. -/
def requestFloor : UInt32 := 0x00000000

/-- The number after the last request. -/
def requestCeiling : UInt32 := 0x00000018

/-- The number before the first response. -/
def responseFloor : UInt32 := 0x80000000

/-- The number after the last response. -/
def responseCeiling : UInt32 := 0x80000018

/-- Every command: the requests by number, then the responses by number. -/
def all : List Command :=
  Operation.all.map (⟨·, .request⟩) ++ Operation.all.map (⟨·, .response⟩)

/-- The number of a command. -/
def id (command : Command) : UInt32 :=
  match command.direction with
  | .request => command.operation.number
  | .response => command.operation.number ||| responseFlag

/-- The command with a number. -/
def ofId? (id : UInt32) : Option Command := all.find? (·.id == id)

/-- The protocol's name of a command. -/
def name (command : Command) : String :=
  match command.direction with
  | .request => command.operation.name
  | .response => command.operation.name ++ "_RESP"

/-- Whether a command answers a request. -/
def isResponse (command : Command) : Bool := command.direction == .response

/-- The response to a request; a response has none. -/
def response? (command : Command) : Option Command :=
  match command.direction with
  | .request => some ⟨command.operation, .response⟩
  | .response => none

/-- Whether a number lies inside the range of requests or that of responses, bounds excluded. -/
def isValidId (id : UInt32) : Bool :=
  (requestFloor < id && id < requestCeiling) || (responseFloor < id && id < responseCeiling)

/-- A command is found again by its number. -/
theorem ofId?_id (command : Command) : ofId? command.id = some command := by
  obtain ⟨operation, direction⟩ := command
  cases operation <;> cases direction <;> decide

/-- The number of every command is inside a range. -/
theorem isValidId_id (command : Command) : isValidId command.id := by
  obtain ⟨operation, direction⟩ := command
  cases operation <;> cases direction <;> decide

end Command

end Cmpp
