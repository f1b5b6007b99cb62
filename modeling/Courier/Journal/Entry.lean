import Courier.Delivery
import Courier.Handler
import Courier.Outcome

/-!
# The journal

A journal lists what a run of the worker did, in order, as `Entry` values with the time of each.
Everything that can be seen from outside is in it: calls of the handler, terminal actions, waits,
log records, and the spans that the worker opens, labels and closes.

Every delivery has a span `SpanName.handle`, and every call of the handler a span
`SpanName.attempt n` inside it.
-/

namespace Courier

/-- A span of a delivery. -/
inductive SpanName where
  | handle
  | attempt (n : UInt32)
  deriving DecidableEq, Repr

/-- The name of a span in traces and logs. -/
def SpanName.text : SpanName → String
  | .handle => "notifications.handle"
  | .attempt _ => "notifications.attempt"

/-- What the work under a span is to others: it takes part in a trace, or is internal. -/
def SpanName.kind : SpanName → String
  | .handle => "consumer"
  | .attempt _ => "internal"

/-- How the work under a span went. -/
inductive SpanStatus where
  | unset
  | ok
  | error (text : String)
  deriving DecidableEq, Repr

/-- The value of an attribute of a span. -/
inductive AttributeValue where
  | text (s : String)
  | number (i : Int)
  deriving DecidableEq, Repr

/-- Something that a run did. -/
inductive Entry where
  /-- The work on a delivery began. -/
  | received (d : Delivery)
  /-- The stream of deliveries reported an error. -/
  | streamFailed (reason : String)
  /-- A fresh token was drawn. -/
  | drew (token : String)
  | opened (span : SpanName)
  /-- The work inside the span began. -/
  | entered (span : SpanName)
  | recorded (span : SpanName) (key : String) (value : AttributeValue)
  | marked (span : SpanName) (status : SpanStatus)
  | closed (span : SpanName)
  /-- A log record, inside a span or outside all of them. -/
  | logged (span : Option SpanName) (record : LogRecord)
  /-- The handler was called. -/
  | called (call : Call)
  /-- The call ended. -/
  | returned (result : CallResult)
  /-- A wait of so many milliseconds began. -/
  | waiting (wait : Nat)
  /-- The wait came to its end, or shutdown ended it. -/
  | woke (isCancelled : Bool)
  /-- The broker was asked for the terminal action, by a receipt. -/
  | settled (action : Disposition) (call : ReceiptCall)
  /-- The work on the delivery ended. -/
  | ended (outcome : Outcome)
  /-- The handler broke down, and with it the work on deliveries. -/
  | broke (text : String)
  /-- The broker was asked to stop deliveries. -/
  | stopAsked
  /-- The work on deliveries was given up. -/
  | abandoned

/-- An entry and its time, in milliseconds. -/
structure Stamped where
  time : Nat
  entry : Entry

/-- What a run did, first entry first. -/
abbrev Journal := List Stamped

end Courier
