/-!
# Transport failures

The ways in which a byte stream can fail, each with the text by which it is reported.
-/

namespace Cmpp

/-- The class of a failure. -/
inductive FailureKind
  /-- The other end no longer reads. -/
  | brokenPipe
  /-- The other end tore the stream down. -/
  | connectionReset
  /-- Nothing happened for too long. -/
  | timedOut
  /-- The call was interrupted and may be repeated at once. -/
  | interrupted
  /-- The stream ended too early. -/
  | unexpectedEnd
  /-- The call would have to wait. -/
  | wouldBlock
  /-- The stream cannot do what was asked. -/
  | unsupported
  /-- A write took no bytes. -/
  | writeZero
  /-- Any other failure. -/
  | other
  deriving DecidableEq

/-- What a failure without a text of its own is reported as. -/
def FailureKind.description : FailureKind → String
  | brokenPipe => "broken pipe"
  | connectionReset => "connection reset"
  | timedOut => "timed out"
  | interrupted => "operation interrupted"
  | unexpectedEnd => "unexpected end of file"
  | wouldBlock => "operation would block"
  | unsupported => "unsupported"
  | writeZero => "write zero"
  | other => "other error"

/-- A failure of a byte stream. -/
structure Failure where
  /-- The class of the failure. -/
  kind : FailureKind
  /-- What went wrong, where the stream says so. -/
  text : Option String := none
  deriving DecidableEq

/-- The report of a failure. -/
def Failure.message (failure : Failure) : String :=
  failure.text.getD failure.kind.description

end Cmpp
