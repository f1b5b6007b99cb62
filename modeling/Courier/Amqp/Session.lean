import Courier.Amqp.Broker
import Courier.Amqp.Method
import Courier.Journal.Spans
import Courier.Service.Basic

/-!
# Sessions with a broker

A session has three parts.

* `dial` finds the broker, and `connect` logs in, opens a channel, declares the queue, limits
  deliveries to one at a time and starts to consume.  All of this must succeed, apart from the
  limit: without it the worker still runs.
* `serve` runs the service until shutdown, or until the connection is lost.
* `close` closes what is still open.

`methods` lists what the worker sends while it serves: one method for every receipt that gets
through, under the tag that the receipt carries, and one to cancel the consumer.
-/

namespace Courier.Amqp

/-! ### Connecting -/

/-- What an attempt to connect gives. -/
structure Connected where
  result : Except WorkerError Unit
  methods : List Method := []
  logs : List LogRecord := []
  /-- What is sent when a connection that is of no use is dropped. -/
  dropped : List Method := []

/-- The record of a limit that could not be set. -/
def limitRecord (identity : WorkerIdentity) (reason : String) : LogRecord :=
  ⟨.session, .warn, "failed to set QoS prefetch",
    [("worker_id", .shown identity.workerId), ("error", .shown reason)]⟩

/-- The record of a consumer that has been set up. -/
def consumingRecord (config : Config) (identity : WorkerIdentity) : LogRecord :=
  ⟨.session, .info, "consuming",
    [("worker_id", .shown identity.workerId), ("pod", .shown identity.podName),
     ("queue", .shown config.queue), ("consumer_tag", .shown identity.consumerTag),
     ("broker", .shown config.safeUrl)]⟩

/-- Finds the broker of a configuration, with its address. -/
def dial (config : Config) (brokerAt : Place → Reach Broker) :
    Except WorkerError (Address × Broker) :=
  let failed (text : String) := WorkerError.setup ("connect: " ++ transferFault text)
  match Address.ofUrl config.brokerUrl with
  | .error fault => .error (failed fault.message)
  | .ok address =>
    match address.contact (brokerAt address.place) with
    | .error text => .error (failed text)
    | .ok broker => .ok (address, broker)

/-- Sets up a consumer. -/
def connect (config : Config) (identity : WorkerIdentity) (address : Address) (broker : Broker) :
    Connected :=
  let refused := broker.reason.refusal
  let setup (reason : String) : Except WorkerError Unit := .error (.setup reason)
  let opening := [Method.login address, .connectionOpen address.vhost, .channelOpen]
  let declared := opening ++ [.declare config]
  let limited := declared ++ [.limit]
  let consuming := limited ++ [.basicConsume config.queue identity.consumerTag]
  match broker.refuses with
  | some .login =>
    { result := setup ("connect: " ++ (ProtocolError.mk 403 broker.reason.text).refusal)
      methods := [.login address] }
  -- A channel that was never opened shows in its state, not in the broker's words.
  | some .channel =>
    { result := setup ("open channel: " ++ DeadState.initial.channelMessage), methods := opening }
  | some .declare =>
    { result := setup ("declare queue " ++ config.queue ++ ": " ++ refused)
      methods := declared, dropped := [.giveUp] }
  -- The limit itself may fail, but its refusal closes the channel that the consumer needs.
  | some .qos =>
    { result := setup ("consume: " ++ DeadState.closed.channelMessage)
      methods := limited, logs := [limitRecord identity refused], dropped := [.giveUp] }
  | some .consume =>
    { result := setup ("consume: " ++ refused), methods := consuming, dropped := [.giveUp] }
  | _ =>
    { result := .ok (), methods := consuming, logs := [consumingRecord config identity] }

/-! ### Serving -/

/-- What ends a session that has nothing to do any more. -/
inductive Ending where
  /-- Shutdown begins. -/
  | shutdown
  /-- The broker closes the connection. -/
  | lost (text : String)
  deriving DecidableEq, Repr

/-- The reason that a broker gives for closing the connection. -/
def lossReason (text : String) : ProtocolError := ⟨320, text⟩

/-- The state of a service after its session's ending has come. -/
def Ending.apply {σ : Type} (ending : Ending) (s : ServiceState σ) : ServiceState σ :=
  match ending with
  | .shutdown => { s with world := s.world.cancel }
  | .lost text =>
    { s with
      source := { s.source with
        pending := (lossReason text).message?.toList.map fun reason => { item := .fault reason }
        holdsOpen := false } }

/-- Serves until there is nothing more to do, and then to the session's ending.  A service that ends
before never meets the ending; otherwise `announcement` tells of it. -/
def serve {σ : Type} (v : Service σ) (s : ServiceState σ) (ending : Ending)
    (announcement : List Entry) : ServiceRun σ :=
  let first := v.run s
  match first.state.outcome? with
  | some _ => first
  | none =>
    let second := v.run (ending.apply first.state)
    { second with
      journal := first.journal ++ stamp first.state.world.now announcement ++ second.journal }

/-- What is sent for one entry.  A receipt that does not get through is not sent. -/
def send (consumerTag : String) (stopRefused : Bool) : Entry → List Method
  | .settled _ ⟨tag, receipt, .ok ()⟩ => [.ofReceipt tag receipt]
  | .stopAsked => if stopRefused then [] else [.basicCancel consumerTag]
  | _ => []

/-- What the worker sends while it serves. -/
def methods (consumerTag : String) (stopRefused : Bool) (j : Journal) : List Method :=
  (Journal.entries j).flatMap (send consumerTag stopRefused)

/-! ### Closing -/

/-- What is left of a connection. -/
inductive Link where
  | up
  /-- The broker closed the channel. -/
  | channelClosed
  /-- The broker closed the connection. -/
  | lost
  deriving DecidableEq, Repr

/-- What is left of the connection once it has carried the entries of a run. -/
def linkAfter (broker : Broker) (ending : Ending) (j : Journal) : Link :=
  if broker.closesChannel ∨ (broker.refuses = some .cancel ∧ Journal.stopCalls j ≠ 0) then
    .channelClosed
  else
    match ending with
    | .lost _ => .lost
    | .shutdown => .up

/-- The record of a channel that could not be closed. -/
def channelRecord (s : DeadState) : LogRecord :=
  ⟨.session, .debug, "channel close failed", [("error", .shown s.channelMessage)]⟩

/-- The record of a connection that could not be closed. -/
def connectionRecord (s : DeadState) : LogRecord :=
  ⟨.session, .warn, "connection close failed", [("error", .shown s.connectionMessage)]⟩

/-- Closes what is open: what is sent, and what the log says. -/
def close : Link → List Method × List LogRecord
  | .up => ([.closeChannel, .closeConnection], [])
  | .channelClosed => ([.closeConnection], [channelRecord .closed])
  | .lost => ([], [channelRecord .error, connectionRecord .error])

end Courier.Amqp
