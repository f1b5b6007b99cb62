import Courier.Failure
import Courier.Headers
import Courier.Text.Quoted

/-!
# Deliveries

A `Delivery` is one message as the broker hands it over, together with the tag that receipts for it
carry and with how the broker answers the terminal action.  The broker takes two receipts for a
message, to acknowledge it or to reject it, and a rejected message goes back or not
(`Disposition.receipt`).  `Delivery.refusal` gives the reason for which a receipt does not get
through, or `none` when it does.

`Delivery.settle` hands in the receipt of a terminal action.  A `ReceiptCall` is what that comes to:
the tag and the receipt that the broker gets, and its answer.

`Delivery.describe` is the text of a delivery in logs; it shows the payload's length only.
-/

namespace Courier

/-- What the broker says about a message. -/
structure Properties where
  messageId : Option String := none
  correlationId : Option String := none
  exchange : String := ""
  routingKey : String := ""
  consumerTag : String := ""
  deriving DecidableEq, Repr, Inhabited

/-- What the broker is told about a message that it handed over. -/
inductive Receipt where
  | acknowledge
  | reject (requeues : Bool)
  deriving DecidableEq, Repr

/-- The receipt that carries a terminal action. -/
def Disposition.receipt : Disposition → Receipt
  | .acknowledge => .acknowledge
  | .requeue => .reject true
  | .deadLetter => .reject false

/-- The terminal action that a receipt carries. -/
def Receipt.disposition : Receipt → Disposition
  | .acknowledge => .acknowledge
  | .reject requeues => if requeues then .requeue else .deadLetter

@[simp] theorem Disposition.disposition_receipt (action : Disposition) :
    action.receipt.disposition = action := by
  cases action <;> rfl

/-- A receipt that was handed in, and how the broker answered. -/
structure ReceiptCall where
  /-- The number of the delivery that the receipt is for. -/
  tag : Nat
  receipt : Receipt
  answer : Except WorkerError Unit

/-- A call counts as its answer where an answer is asked for. -/
instance : Coe ReceiptCall (Except WorkerError Unit) := ⟨ReceiptCall.answer⟩

/-- One message, waiting for its terminal action. -/
structure Delivery where
  payload : List UInt8
  headers : Headers := .empty
  properties : Properties := {}
  /-- The number by which the broker knows the delivery. -/
  tag : Nat := 0
  refusal : Receipt → Option String := fun _ => none

namespace Delivery

/-- Hands in a receipt for the delivery. -/
def handIn (d : Delivery) (receipt : Receipt) : ReceiptCall where
  tag := d.tag
  receipt
  answer :=
    match d.refusal receipt with
    | none => .ok ()
    | some reason => .error (.settle receipt.disposition reason)

/-- Asks the broker for a terminal action. -/
def settle (d : Delivery) (action : Disposition) : ReceiptCall := d.handIn action.receipt

/-! ### Text for logs -/

/-- An optional text, quoted. -/
def describeOption : Option String → String
  | none => "None"
  | some s => "Some(" ++ quoted s ++ ")"

/-- A header value: a quoted text, or the numbers of its bytes. -/
def describeValue : HeaderValue → String
  | .text s => "Text(" ++ quoted s ++ ")"
  | .bytes b => "Bytes([" ++ ", ".intercalate (b.map fun x => decimal x.toNat) ++ "])"

/-- A record: its name and its fields between braces. -/
def describeRecord (name : String) (fields : List (String × String)) : String :=
  name ++ " \x7b " ++ ", ".intercalate (fields.map fun (k, v) => k ++ ": " ++ v) ++ " \x7d"

/-- Headers as a record with one field, a map. -/
def describeHeaders (h : Headers) : String :=
  let entries := h.entries.map fun (k, v) => quoted k ++ ": " ++ describeValue v
  describeRecord "Headers" [("values", "\x7b" ++ ", ".intercalate entries ++ "\x7d")]

/-- The broker's properties. -/
def describeProperties (p : Properties) : String :=
  describeRecord "DeliveryProperties"
    [("message_id", describeOption p.messageId), ("correlation_id", describeOption p.correlationId),
     ("exchange", quoted p.exchange), ("routing_key", quoted p.routingKey),
     ("consumer_tag", quoted p.consumerTag)]

/-- A delivery; two dots stand for what is not shown. -/
def describe (d : Delivery) : String :=
  "Delivery \x7b payload_len: " ++ decimal d.payload.length ++ ", headers: " ++
    describeHeaders d.headers ++ ", properties: " ++ describeProperties d.properties ++ ", .. \x7d"

end Delivery

end Courier
