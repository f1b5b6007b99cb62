import Courier.Amqp.Table
import Courier.Service.Source

/-!
# Brokers

A `Broker` says what the other side of a session does: what it refuses, which messages it has, and
when it closes the channel.  `ProtocolError.message?` words what it says when it closes something; a
code without a name says nothing, and then only the state of the channel shows what happened.

`Broker.source` is the queue as the worker sees it through one consumer.
-/

namespace Courier.Amqp

/-! ### Errors -/

/-- The reason that a broker gives when it closes a channel or a connection. -/
structure ProtocolError where
  code : Nat
  text : String
  deriving DecidableEq, Repr

namespace ProtocolError

/-- The names of the errors that close a channel only. -/
def softNames : List (Nat × String) :=
  [(311, "CONTENT-TOO-LARGE"), (312, "NO-ROUTE"), (313, "NO-CONSUMERS"), (403, "ACCESS-REFUSED"),
   (404, "NOT-FOUND"), (405, "RESOURCE-LOCKED"), (406, "PRECONDITION-FAILED")]

/-- The names of the errors that close the connection. -/
def hardNames : List (Nat × String) :=
  [(320, "CONNECTION-FORCED"), (402, "INVALID-PATH"), (501, "FRAME-ERROR"), (502, "SYNTAX-ERROR"),
   (503, "COMMAND-INVALID"), (504, "CHANNEL-ERROR"), (505, "UNEXPECTED-FRAME"),
   (506, "RESOURCE-ERROR"), (530, "NOT-ALLOWED"), (540, "NOT-IMPLEMENTED"),
   (541, "INTERNAL-ERROR")]

/-- The wording of an error; `none` if its code has no name. -/
def message? (e : ProtocolError) : Option String :=
  match softNames.lookup e.code, hardNames.lookup e.code with
  | some name, _ => some ("protocol error: AMQP soft error: " ++ name ++ ": " ++ e.text)
  | none, some name => some ("protocol error: AMQP hard error: " ++ name ++ ": " ++ e.text)
  | none, none => none

end ProtocolError

/-- The state of a channel or a connection that can no longer be used. -/
inductive DeadState where
  /-- It was never opened. -/
  | initial
  /-- It is being closed. -/
  | closing
  /-- It was closed. -/
  | closed
  /-- The connection under it was lost. -/
  | error
  deriving DecidableEq, Repr

/-- The name of a state. -/
def DeadState.name : DeadState → String
  | .initial => "Initial"
  | .closing => "Closing"
  | .closed => "Closed"
  | .error => "Error"

/-- The wording of a request over a channel that cannot be used. -/
def DeadState.channelMessage (s : DeadState) : String := "invalid channel state: " ++ s.name

/-- The wording of a request over a connection that cannot be used. -/
def DeadState.connectionMessage (s : DeadState) : String := "invalid connection state: " ++ s.name

/-- The wording of a request that the broker answers by closing the channel. -/
def ProtocolError.refusal (e : ProtocolError) : String :=
  e.message?.getD DeadState.closing.channelMessage

/-- The number of the channel that a session uses. -/
def channelNumber : Nat := 1

/-- The wording of a terminal action over a channel that the broker has closed. -/
def ProtocolError.lateRefusal (e : ProtocolError) : String :=
  e.message?.getD ("invalid channel: " ++ decimal channelNumber)

/-! ### Messages -/

/-- A message in the queue. -/
structure Message where
  payload : List UInt8
  messageId : Option String := none
  correlationId : Option String := none
  exchange : String := ""
  routingKey : String := ""
  headers : Table := .empty
  /-- Does the broker close the channel once it has sent the message? -/
  closesChannel : Bool := false

/-- The message as a delivery with the given tag.  Once the channel is closed no terminal action gets
through. -/
def Message.delivery (m : Message) (tag : Nat) (consumerTag : String) (closing : ProtocolError) :
    Delivery where
  payload := m.payload
  headers := m.headers.headers
  properties :=
    { messageId := m.messageId, correlationId := m.correlationId, exchange := m.exchange
      routingKey := m.routingKey, consumerTag }
  tag
  refusal := fun _ => if m.closesChannel then some closing.lateRefusal else none

/-! ### Brokers -/

/-- A request that the broker may refuse. -/
inductive Request where
  | login
  | channel
  | declare
  | qos
  | consume
  | cancel
  deriving DecidableEq, Repr

/-- What the broker does in a session. -/
structure Broker where
  /-- The request that it refuses, if there is one. -/
  refuses : Option Request := none
  /-- What it says when it refuses a request or closes the channel. -/
  reason : ProtocolError := ⟨406, ""⟩
  messages : List Message := []

namespace Broker

/-- The messages that can be sent before the channel is closed. -/
def reachable : List Message → List Message
  | [] => []
  | m :: rest => if m.closesChannel then [m] else m :: reachable rest

/-- Does the broker close the channel after some message? -/
def closesChannel (b : Broker) : Bool := b.messages.any (·.closesChannel)

/-- The queue as a consumer with the given tag sees it.  The broker numbers the deliveries of a
channel from one.  A closed channel is seen as one error if its reason has a name, and so is a refusal
to stop. -/
def source (b : Broker) (consumerTag : String) : Source :=
  let deliveries := ((reachable b.messages).zipIdx 1).map fun (m, tag) =>
    { item := .delivery (m.delivery tag consumerTag b.reason) : Pending }
  if b.closesChannel then
    { pending := deliveries ++ b.reason.message?.toList.map fun reason => { item := .fault reason }
      stopRefusal := some DeadState.closed.channelMessage }
  else
    { pending := deliveries
      holdsOpen := true
      farewell := if b.refuses = some .cancel then b.reason.message? else none }

end Broker

end Courier.Amqp
