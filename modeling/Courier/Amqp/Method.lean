import Courier.Amqp.Address
import Courier.Config.Basic
import Courier.Delivery
import Courier.Outcome

/-!
# Methods

The methods that the worker sends to the broker, in AMQP's own terms.  Every flag that is not
mentioned is off, except that the queue is durable.

`Method.ofReceipt` is the method that hands in a receipt.
-/

namespace Courier.Amqp

/-- A method that the worker sends. -/
inductive Method where
  | startOk (mechanism response : String)
  | connectionOpen (vhost : String)
  | channelOpen
  /-- Declares a durable queue; the arguments are long strings. -/
  | queueDeclare (queue : String) (arguments : List (String × String))
  | basicQos (count : Nat) (isGlobal : Bool)
  | basicConsume (queue consumerTag : String)
  | basicAck (tag : Nat) (isMultiple : Bool)
  | basicNack (tag : Nat) (isMultiple requeues : Bool)
  | basicCancel (consumerTag : String)
  | channelClose (code : Nat) (text : String)
  | connectionClose (code : Nat) (text : String)
  deriving DecidableEq, Repr

namespace Method

/-- Logs in with user and password, in the way that the address asks for. -/
def login (a : Address) : Method :=
  let mechanism := a.options.mechanism
  .startOk mechanism.name (mechanism.response a.user a.password)

/-- Declares the work queue, with the place for its dead letters. -/
def declare (c : Config) : Method :=
  .queueDeclare c.queue
    [("x-dead-letter-exchange", c.deadLetterExchange),
     ("x-dead-letter-routing-key", c.deadLetterRoutingKey)]

/-- The number of deliveries that may be unsettled at one time. -/
def prefetchCount : Nat := 1

/-- Asks for one delivery at a time. -/
def limit : Method := .basicQos prefetchCount false

/-- Hands in a receipt for the delivery with the given tag, and for no other one. -/
def ofReceipt (tag : Nat) : Receipt → Method
  | .acknowledge => .basicAck tag false
  | .reject requeues => .basicNack tag false requeues

/-- The code of a regular end. -/
def regularEnd : Nat := 200

/-- The text of a regular end. -/
def farewellText : String := "worker shutdown"

/-- Closes the channel at the end. -/
def closeChannel : Method := .channelClose regularEnd farewellText

/-- Closes the connection at the end. -/
def closeConnection : Method := .connectionClose regularEnd farewellText

/-- Closes a connection that could not be set up. -/
def giveUp : Method := .connectionClose regularEnd "OK"

end Method

end Courier.Amqp
