import Cmpp.Connection.Basic
import Cmpp.Connection.Reception

/-!
# Endpoints

An endpoint is a connection on a line. Everything that happens to it is an `Action`: a call is
started, a task that had to wait is polled again or cancelled, or its owner turns to the lifecycle
label or to the sequence numbers. `Endpoint.step` says what each action does and is the whole
behaviour of a connection: whatever order tasks run in, it is some list of actions.

A task looks at every poll, first of all, whether the connection has been closed. Only then does it
go on with its work, and only while it holds the lock that its work needs.
-/

namespace Cmpp

variable {σ : Type}

/-- A connection on a line. -/
structure Endpoint (σ : Type) where
  /-- The connection. -/
  connection : Connection
  /-- The transport it runs on, with the journal of the calls on it. -/
  line : Line σ

namespace Endpoint

/-- Make a note. -/
def note (endpoint : Endpoint σ) (note : Note) : Endpoint σ :=
  { endpoint with line := endpoint.line.note note }

/-- Open a connection on a transport. -/
def establish (io : Transport σ) (config : Config) (state : σ) : Endpoint σ :=
  let line : Line σ := { state }
  let line :=
    if config.keepalive then
      let line := line.enter (.keepalive true) state
      match io.setKeepalive state true with
      | .ok () => line
      | .error failure => line.note (.keepaliveFailed failure)
    else line
  let peer := io.peer state
  { connection := .ofConfig config peer, line := line.note (.opened config.version peer) }

/-- Go on with sending a frame. -/
def advanceSending (endpoint : Endpoint σ) (io : Transport σ) (id : TaskId) (outcome : Outcome)
    (sequenceId : UInt32) (frame : Bytes) (rest : Transmission) : Progress × Endpoint σ :=
  let connection := endpoint.connection
  if connection.closed then (.finished (.failed .connectionClosed), endpoint)
  else if connection.writeLock.isHeldBy id then
    match rest.poll io connection.writeBuffer endpoint.line with
    | (polled, rest, writeBuffer, line) =>
      let endpoint : Endpoint σ := { connection := { connection with writeBuffer }, line }
      match polled with
      | .pending woken => (.suspended woken (.sending outcome sequenceId frame rest), endpoint)
      | .ready (.error failure) => (.finished (.failed (.transport failure)), endpoint)
      | .ready (.ok ()) =>
        (.finished outcome, endpoint.note (.frameSent sequenceId frame.length))
  else (.suspended false (.sending outcome sequenceId frame rest), endpoint)

/-- Go on with receiving a frame. -/
def advanceReceiving (endpoint : Endpoint σ) (io : Transport σ) (id : TaskId)
    (assembly : Assembly) : Progress × Endpoint σ :=
  let connection := endpoint.connection
  if connection.closed then (.finished (.failed .connectionClosed), endpoint)
  else if connection.readLock.isHeldBy id then
    match assembly.poll connection.version io connection.readBuffer endpoint.line with
    | (polled, assembly, readBuffer, line) =>
      let endpoint : Endpoint σ := { connection := { connection with readBuffer }, line }
      match polled with
      | .pending woken => (.suspended woken (.receiving assembly), endpoint)
      | .ready (.error error) => (.finished (.failed error), endpoint)
      | .ready (.ok (preamble, body)) =>
        match decodeBody connection.version preamble body with
        | .error error => (.finished (.failed error), endpoint)
        | .ok packet =>
          (.finished (.received packet),
            endpoint.note
              (.frameReceived packet.command packet.sequenceId preamble.totalLength))
  else (.suspended false (.receiving assembly), endpoint)

/-- Shut the transport down, whether or not it will. -/
def advanceShutdown (endpoint : Endpoint σ) (io : Transport σ) : Progress × Endpoint σ :=
  match endpoint.line.shutdown io with
  | (.pending woken, line) => (.suspended woken (.closing .shuttingDown), { endpoint with line })
  | (.ready result, line) =>
    let line := match result with
      | .ok () => line
      | .error failure => line.note (.shutdownFailed failure)
    (.finished .closed, { endpoint with line := line.note (.closed endpoint.connection.peer) })

/-- Flush the transport, and then shut it down even if the flush fails. -/
def advanceFlush (endpoint : Endpoint σ) (io : Transport σ) : Progress × Endpoint σ :=
  match endpoint.line.flush io with
  | (.pending woken, line) => (.suspended woken (.closing .flushing), { endpoint with line })
  | (.ready (.ok ()), line) => advanceShutdown { endpoint with line } io
  | (.ready (.error failure), line) =>
    advanceShutdown { endpoint with line := line.note (.flushFailed failure) } io

/-- Go on with closing. What the write buffer holds when its lock is obtained is given up. -/
def advanceClosing (endpoint : Endpoint σ) (io : Transport σ) (id : TaskId) :
    Closing → Progress × Endpoint σ
  | .waiting =>
    if endpoint.connection.writeLock.isHeldBy id then
      let pending := endpoint.connection.writeBuffer.length
      let endpoint := if pending = 0 then endpoint else endpoint.note (.frameDropped pending)
      endpoint.advanceFlush io
    else (.suspended false (.closing .waiting), endpoint)
  | .flushing => endpoint.advanceFlush io
  | .shuttingDown => endpoint.advanceShutdown io

/-- Go on with a task. -/
def advance (endpoint : Endpoint σ) (io : Transport σ) (id : TaskId) :
    Task → Progress × Endpoint σ
  | .sending outcome sequenceId frame rest =>
    endpoint.advanceSending io id outcome sequenceId frame rest
  | .receiving assembly => endpoint.advanceReceiving io id assembly
  | .closing stage => endpoint.advanceClosing io id stage

/-- Begin to send a packet under a sequence number: nothing but a frame that the version allows
reaches the queue of senders. -/
def beginSending (endpoint : Endpoint σ) (io : Transport σ) (id : TaskId) (outcome : Outcome)
    (packet : Packet) (sequenceId : UInt32) : Progress × Endpoint σ :=
  let connection := endpoint.connection
  match encodeFrame connection.version packet sequenceId with
  | .error error => (.finished (.failed error), endpoint)
  | .ok frame =>
    let connection := { connection with writeLock := connection.writeLock.join id }
    { endpoint with connection }.advanceSending io id outcome sequenceId frame (.writing frame)

/-- Begin a call: its first poll. A closed connection refuses every call, but for being closed
again, which is in vain. -/
def begin (endpoint : Endpoint σ) (io : Transport σ) (id : TaskId) (call : Call) :
    Progress × Endpoint σ :=
  let connection := endpoint.connection
  match call with
  | .close =>
    if connection.closed then (.finished .closed, endpoint)
    else
      let connection := { connection.beginClosing with writeLock := connection.writeLock.join id }
      { endpoint with connection }.advanceClosing io id .waiting
  | .receive =>
    if connection.closed then (.finished (.failed .connectionClosed), endpoint)
    else
      let connection := { connection with readLock := connection.readLock.join id }
      { endpoint with connection }.advanceReceiving io id .empty
  | .sendAs packet sequenceId =>
    if connection.closed then (.finished (.failed .connectionClosed), endpoint)
    else endpoint.beginSending io id .sent packet sequenceId
  | .send packet =>
    if connection.closed then (.finished (.failed .connectionClosed), endpoint)
    else
      match connection.sequence.take with
      | (.error error, _) => (.finished (.failed error), endpoint)
      | (.ok sequenceId, sequence) =>
        { endpoint with connection := { connection with sequence } }.beginSending io id
          (.numbered sequenceId) packet sequenceId

/-- Keep a task that has to wait, and forget one that is over. -/
def settle (id : TaskId) : Progress × Endpoint σ → Poll Outcome × Endpoint σ
  | (.finished outcome, endpoint) =>
    (.ready outcome, { endpoint with connection := endpoint.connection.forget id })
  | (.suspended woken task, endpoint) =>
    (.pending woken, { endpoint with connection := endpoint.connection.keep id task })

end Endpoint

/-- What can happen to an endpoint. -/
inductive Action
  /-- A call is made; if it has to wait, it goes on as a task. -/
  | start (id : TaskId) (call : Call)
  /-- A task is polled again. -/
  | poll (id : TaskId)
  /-- A task is given up. -/
  | cancel (id : TaskId)
  /-- The lifecycle label is set. -/
  | setLifecycle (lifecycle : Lifecycle)
  /-- A sequence number is taken. -/
  | takeSequence
  /-- The source of sequence numbers is stopped. -/
  | stopSequence

/-- What an action comes to. -/
inductive Reply
  /-- A call is over, or has to wait. -/
  | polled (poll : Poll Outcome)
  /-- A sequence number, or the reason why there is none. -/
  | sequence (taken : Except Error UInt32)
  /-- The action was done, and there is nothing to say about it. -/
  | done
  /-- There is no such task; or, of a call, there is one already. -/
  | misnamed

namespace Endpoint

/-- What an action does. -/
def step (endpoint : Endpoint σ) (io : Transport σ) : Action → Reply × Endpoint σ
  | .start id call =>
    match endpoint.connection.task? id with
    | some _ => (.misnamed, endpoint)
    | none =>
      let (poll, endpoint) := settle id (endpoint.begin io id call)
      (.polled poll, endpoint)
  | .poll id =>
    match endpoint.connection.task? id with
    | none => (.misnamed, endpoint)
    | some task =>
      let (poll, endpoint) := settle id (endpoint.advance io id task)
      (.polled poll, endpoint)
  | .cancel id =>
    match endpoint.connection.task? id with
    | none => (.misnamed, endpoint)
    | some _ => (.done, { endpoint with connection := endpoint.connection.forget id })
  | .setLifecycle lifecycle =>
    (.done, { endpoint with connection := endpoint.connection.setLifecycle lifecycle })
  | .takeSequence =>
    let (taken, sequence) := endpoint.connection.sequence.take
    (.sequence taken, { endpoint with connection := { endpoint.connection with sequence } })
  | .stopSequence =>
    let sequence := endpoint.connection.sequence.stop
    (.done, { endpoint with connection := { endpoint.connection with sequence } })

/-- Poll a task again as long as it is woken, at most so many times. -/
def repoll (io : Transport σ) (id : TaskId) : Nat → Reply × Endpoint σ → Reply × Endpoint σ
  | times + 1, (.polled (.pending true), endpoint) =>
    repoll io id times (endpoint.step io (.poll id))
  | _, result => result

/-- Start or poll a task and go on polling it as long as it is woken. The transport's patience
bounds how often that can be. -/
def drive (endpoint : Endpoint σ) (io : Transport σ) (id : TaskId) (action : Action) :
    Reply × Endpoint σ :=
  repoll io id (endpoint.line.patience io) (endpoint.step io action)

end Endpoint

end Cmpp
