import Cmpp.Command
import Cmpp.Message.Deliver
import Cmpp.Message.Forward
import Cmpp.Message.Link
import Cmpp.Message.Submit
import Cmpp.Version

/-!
# Kinds of messages

Twelve commands carry messages with known fields. Seven of them have other fields in 3.0 than in
2.x, which makes nineteen kinds of messages. `Kind.resolve?` is the one place where a version and a
command number select a kind.
-/

namespace Cmpp

/-- A kind of message: its command and, where the fields depend on it, the generation. -/
inductive Kind
  /-- A login. -/
  | connect
  /-- The response to a login. -/
  | connectResponse (generation : Generation)
  /-- A request to close the link. -/
  | terminate
  /-- The response to a request to close the link. -/
  | terminateResponse
  /-- A submitted short message. -/
  | submit (generation : Generation)
  /-- The acknowledgement of a submitted short message. -/
  | submitResponse (generation : Generation)
  /-- A delivered short message or status report. -/
  | deliver (generation : Generation)
  /-- The acknowledgement of a delivered message. -/
  | deliverResponse (generation : Generation)
  /-- A forwarded short message. -/
  | forward (generation : Generation)
  /-- The response to a forwarded short message. -/
  | forwardResponse (generation : Generation)
  /-- A test of the link. -/
  | activeTest
  /-- The response to a test of the link. -/
  | activeTestResponse
  deriving DecidableEq

namespace Kind

/-- Every kind. -/
def all : List Kind :=
  [.connect, .connectResponse .second, .connectResponse .third, .terminate, .terminateResponse,
    .submit .second, .submit .third, .submitResponse .second, .submitResponse .third,
    .deliver .second, .deliver .third, .deliverResponse .second, .deliverResponse .third,
    .forward .second, .forward .third, .forwardResponse .second, .forwardResponse .third,
    .activeTest, .activeTestResponse]

/-- The name of a kind, with the generation where the fields depend on it. -/
def name : Kind → String
  | .connect => "ConnectRequest"
  | .connectResponse .second => "ConnectResponseV2"
  | .connectResponse .third => "ConnectResponseV3"
  | .terminate => "TerminateRequest"
  | .terminateResponse => "TerminateResponse"
  | .submit .second => "SubmitRequestV2"
  | .submit .third => "SubmitRequestV3"
  | .submitResponse .second => "SubmitResponseV2"
  | .submitResponse .third => "SubmitResponseV3"
  | .deliver .second => "DeliverRequestV2"
  | .deliver .third => "DeliverRequestV3"
  | .deliverResponse .second => "DeliverResponseV2"
  | .deliverResponse .third => "DeliverResponseV3"
  | .forward .second => "ForwardRequestV2"
  | .forward .third => "ForwardRequestV3"
  | .forwardResponse .second => "ForwardResponseV2"
  | .forwardResponse .third => "ForwardResponseV3"
  | .activeTest => "ActiveTestRequest"
  | .activeTestResponse => "ActiveTestResponse"

/-- The kind with a name. -/
def ofName? (name : String) : Option Kind := all.find? (·.name == name)

/-- The command that a kind of message is sent with. -/
def command : Kind → Command
  | .connect => ⟨.connect, .request⟩
  | .connectResponse _ => ⟨.connect, .response⟩
  | .terminate => ⟨.terminate, .request⟩
  | .terminateResponse => ⟨.terminate, .response⟩
  | .submit _ => ⟨.submit, .request⟩
  | .submitResponse _ => ⟨.submit, .response⟩
  | .deliver _ => ⟨.deliver, .request⟩
  | .deliverResponse _ => ⟨.deliver, .response⟩
  | .forward _ => ⟨.forward, .request⟩
  | .forwardResponse _ => ⟨.forward, .response⟩
  | .activeTest => ⟨.activeTest, .request⟩
  | .activeTestResponse => ⟨.activeTest, .response⟩

/-- The kind of message that a command carries, if it is one of those with known fields. -/
def ofCommand? (generation : Generation) : Command → Option Kind
  | ⟨.connect, .request⟩ => some .connect
  | ⟨.connect, .response⟩ => some (.connectResponse generation)
  | ⟨.terminate, .request⟩ => some .terminate
  | ⟨.terminate, .response⟩ => some .terminateResponse
  | ⟨.submit, .request⟩ => some (.submit generation)
  | ⟨.submit, .response⟩ => some (.submitResponse generation)
  | ⟨.deliver, .request⟩ => some (.deliver generation)
  | ⟨.deliver, .response⟩ => some (.deliverResponse generation)
  | ⟨.forward, .request⟩ => some (.forward generation)
  | ⟨.forward, .response⟩ => some (.forwardResponse generation)
  | ⟨.activeTest, .request⟩ => some .activeTest
  | ⟨.activeTest, .response⟩ => some .activeTestResponse
  | _ => none

/-- The kind of message that a command number stands for in a version. -/
def resolve? (version : Version) (id : UInt32) : Option Kind :=
  (Command.ofId? id).bind (ofCommand? version.generation)

/-- What a message of a kind holds. -/
@[reducible] def Fields : Kind → Type
  | .connect => Connect
  | .connectResponse generation => ConnectResponse generation
  | .terminate | .terminateResponse | .activeTest => Unit
  | .submit .second => SubmitV2
  | .submit .third => SubmitV3
  | .submitResponse generation | .deliverResponse generation => Acknowledgement generation
  | .deliver .second => DeliverV2
  | .deliver .third => DeliverV3
  | .forward .second => ForwardV2
  | .forward .third => ForwardV3
  | .forwardResponse generation => ForwardResponse generation
  | .activeTestResponse => ActiveTestResponse

/-- What two messages of a kind hold can be compared. -/
instance : (kind : Kind) → DecidableEq kind.Fields
  | .connect => inferInstanceAs (DecidableEq Connect)
  | .connectResponse generation => inferInstanceAs (DecidableEq (ConnectResponse generation))
  | .terminate | .terminateResponse | .activeTest => inferInstanceAs (DecidableEq Unit)
  | .submit .second => inferInstanceAs (DecidableEq SubmitV2)
  | .submit .third => inferInstanceAs (DecidableEq SubmitV3)
  | .submitResponse generation | .deliverResponse generation =>
    inferInstanceAs (DecidableEq (Acknowledgement generation))
  | .deliver .second => inferInstanceAs (DecidableEq DeliverV2)
  | .deliver .third => inferInstanceAs (DecidableEq DeliverV3)
  | .forward .second => inferInstanceAs (DecidableEq ForwardV2)
  | .forward .third => inferInstanceAs (DecidableEq ForwardV3)
  | .forwardResponse generation => inferInstanceAs (DecidableEq (ForwardResponse generation))
  | .activeTestResponse => inferInstanceAs (DecidableEq ActiveTestResponse)

/-- The fields of a kind of message in wire order. -/
def shape : (kind : Kind) → Shape kind.Fields
  | .connect => Connect.shape
  | .connectResponse generation => ConnectResponse.shape generation
  | .terminate | .terminateResponse | .activeTest => Shape.unit
  | .submit .second => SubmitV2.shape
  | .submit .third => SubmitV3.shape
  | .submitResponse generation | .deliverResponse generation => Acknowledgement.shape generation
  | .deliver .second => DeliverV2.shape
  | .deliver .third => DeliverV3.shape
  | .forward .second => ForwardV2.shape
  | .forward .third => ForwardV3.shape
  | .forwardResponse generation => ForwardResponse.shape generation
  | .activeTestResponse => ActiveTestResponse.shape

/-- A resolved kind is sent with the command it was resolved from. -/
theorem command_of_ofCommand? {generation : Generation} {command : Command} {kind : Kind}
    (found : ofCommand? generation command = some kind) : kind.command = command := by
  obtain ⟨operation, direction⟩ := command
  cases operation <;> cases direction <;> simp_all [ofCommand?] <;> subst found <;> rfl

end Kind

end Cmpp
