import Cmpp.Scenario.Stage
import Cmpp.Transport.Pipe

/-!
# Scenarios with two ends

Two connections talk to each other over a pipe. Every step is taken at one end; the other end sees
of it only what comes through the pipe.
-/

namespace Cmpp

/-- Two connections at the ends of a pipe. -/
structure Pair where
  /-- The connection at the left end. -/
  left : Stage
  /-- The connection at the right end. -/
  right : Stage
  /-- The pipe between them. -/
  pipe : Pipe

namespace Pair

/-- Open a connection at either end of a pipe. -/
def establish (left right : Config) (capacity : Nat) : Pair :=
  let (leftStage, pipe) := Stage.establish (Pipe.transport .left) left (.ofCapacity capacity)
  let (rightStage, pipe) := Stage.establish (Pipe.transport .right) right pipe
  ⟨leftStage, rightStage, pipe⟩

/-- The connection at an end. -/
def stage (pair : Pair) : End → Stage
  | .left => pair.left
  | .right => pair.right

/-- Do a step at an end. -/
def step (pair : Pair) (side : End) (scenarioStep : ScenarioStep Pipe) : ScenarioReply × Pair :=
  let (reply, stage, pipe) := (pair.stage side).step (Pipe.transport side) pair.pipe scenarioStep
  match side with
  | .left => (reply, { pair with left := stage, pipe })
  | .right => (reply, { pair with right := stage, pipe })

end Pair

end Cmpp
