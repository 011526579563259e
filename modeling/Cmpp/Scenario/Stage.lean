import Cmpp.Connection.Endpoint

/-!
# Scenarios

A scenario exercises one connection step by step. Calls are made and waited for at once, or started
under a name and polled later; in the end the connection may be dropped, which cancels whatever
still waits. A `Stage` is the connection of a scenario, as long as there is one, with the names
given so far; the transport stands outside of it, since two stages may share one.
-/

namespace Cmpp

variable {σ : Type}

/-- A step of a scenario. -/
inductive ScenarioStep (σ : Type)
  /-- Make a call and cancel it if it has to wait. -/
  | perform (call : Call)
  /-- Make a call and keep it under a name if it has to wait. -/
  | start (name : String) (call : Call)
  /-- Go on with the call of a name. -/
  | poll (name : String)
  /-- Cancel the call of a name. -/
  | cancel (name : String)
  /-- Set the lifecycle label. -/
  | setLifecycle (lifecycle : Lifecycle)
  /-- Take a sequence number. -/
  | takeSequence
  /-- Stop the source of sequence numbers. -/
  | stopSequence
  /-- Show the connection. -/
  | describe
  /-- Change the transport from outside. -/
  | change (change : σ → σ)
  /-- Drop the connection with all its tasks. -/
  | dropConnection

/-- What a step of a scenario comes to. -/
inductive ScenarioReply
  /-- A call is over. -/
  | finished (outcome : Outcome)
  /-- A call that would have had to wait was cancelled. -/
  | blocked
  /-- A call has to wait. -/
  | pending
  /-- No call that waits has this name. -/
  | noSuchTask
  /-- A call or the connection was dropped. -/
  | dropped
  /-- The connection had been dropped before. -/
  | alreadyDropped
  /-- There is no connection any more. -/
  | connectionDropped
  /-- A sequence number, or the reason why there is none. -/
  | sequence (taken : Except Error UInt32)
  /-- What was shown. -/
  | text (shown : String)
  /-- The step was done, and there is nothing to say about it. -/
  | done

/-- The connection of a scenario. -/
structure Stage where
  /-- The connection, until it is dropped. -/
  connection : Option Connection
  /-- What happened on its transport, the latest event first. -/
  journal : List Event
  /-- The tasks that have names. -/
  names : List (String × TaskId) := []
  /-- A task that there has not been. -/
  fresh : TaskId := 0

namespace Stage

/-- Open the connection of a scenario. -/
def establish (io : Transport σ) (config : Config) (state : σ) : Stage × σ :=
  let endpoint := Endpoint.establish io config state
  ({ connection := some endpoint.connection, journal := endpoint.line.journal },
    endpoint.line.state)

/-- The stage and the transport after something has happened to the connection. -/
def put (stage : Stage) (endpoint : Endpoint σ) : Stage × σ :=
  ({ stage with connection := some endpoint.connection, journal := endpoint.line.journal },
    endpoint.line.state)

/-- Take a name away from its task. -/
def unname (stage : Stage) (name : String) : Stage :=
  { stage with names := stage.names.filter (·.1 ≠ name) }

/-- Call a task by a name. A task that had the name before is cancelled. -/
def rename (stage : Stage) (io : Transport σ) (endpoint : Endpoint σ) (name : String)
    (task : TaskId) : Stage × σ :=
  let endpoint := match stage.names.lookup name with
    | some earlier => (endpoint.step io (.cancel earlier)).2
    | none => endpoint
  let stage := stage.unname name
  { stage with names := (name, task) :: stage.names }.put endpoint

/-- Do a step of a scenario. -/
def step (stage : Stage) (io : Transport σ) (state : σ) (scenarioStep : ScenarioStep σ) :
    ScenarioReply × Stage × σ :=
  match stage.connection with
  | none =>
    match scenarioStep with
    | .dropConnection => (.alreadyDropped, stage, state)
    | _ => (.connectionDropped, stage, state)
  | some connection =>
    let endpoint : Endpoint σ := ⟨connection, ⟨state, stage.journal⟩⟩
    match scenarioStep with
    | .perform call =>
      let id := stage.fresh
      let stage := { stage with fresh := id + 1 }
      match endpoint.drive io id (.start id call) with
      | (.polled (.ready outcome), endpoint) => (.finished outcome, stage.put endpoint)
      | (_, endpoint) => (.blocked, stage.put (endpoint.step io (.cancel id)).2)
    | .start name call =>
      let id := stage.fresh
      let stage := { stage with fresh := id + 1 }
      match endpoint.drive io id (.start id call) with
      | (.polled (.ready outcome), endpoint) => (.finished outcome, stage.put endpoint)
      | (_, endpoint) => (.pending, stage.rename io endpoint name id)
    | .poll name =>
      match stage.names.lookup name with
      | none => (.noSuchTask, stage, state)
      | some id =>
        match endpoint.drive io id (.poll id) with
        | (.polled (.ready outcome), endpoint) =>
          (.finished outcome, (stage.unname name).put endpoint)
        | (_, endpoint) => (.pending, stage.put endpoint)
    | .cancel name =>
      match stage.names.lookup name with
      | none => (.noSuchTask, stage, state)
      | some id => (.dropped, (stage.unname name).put (endpoint.step io (.cancel id)).2)
    | .setLifecycle lifecycle =>
      (.done, stage.put (endpoint.step io (.setLifecycle lifecycle)).2)
    | .takeSequence =>
      match endpoint.step io .takeSequence with
      | (.sequence taken, endpoint) => (.sequence taken, stage.put endpoint)
      | (_, endpoint) => (.done, stage.put endpoint)
    | .stopSequence => (.done, stage.put (endpoint.step io .stopSequence).2)
    | .describe => (.text connection.describe, stage, state)
    | .change change => (.done, stage, change state)
    | .dropConnection =>
      (.dropped, { stage with connection := none, names := [] }, io.release state)

/-- What happened on the transport since an earlier stage, in order. -/
def eventsSince (stage earlier : Stage) : List Event :=
  (stage.journal.take (stage.journal.length - earlier.journal.length)).reverse

end Stage

end Cmpp
