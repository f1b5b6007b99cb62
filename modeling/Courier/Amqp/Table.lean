import Courier.Headers

/-!
# Header tables

AMQP gives a message a table of headers whose values have many types.  `Table.headers` keeps what is
text or bytes and drops the rest, which carries no id and no trace.
-/

namespace Courier.Amqp

/-- A value in a header table. -/
inductive Value where
  | boolean (b : Bool)
  | integer (i : Int)
  | timestamp (seconds : Nat)
  | real (f : Float)
  | decimal (scale value : Nat)
  | shortString (s : String)
  | longString (b : List UInt8)
  | byteArray (b : List UInt8)
  | array (items : List Value)
  | table (entries : List (String × Value))
  | void

/-- The header that a value gives, if it gives one. -/
def Value.header? : Value → Option HeaderValue
  | .longString b => some (.bytes b)
  | .shortString s => some (.text s)
  | .byteArray b => some (.bytes b)
  | _ => none

/-- The headers of a message as the broker sends them. -/
abbrev Table := Dictionary Value

/-- The headers that the worker sees. -/
def Table.headers (t : Table) : Headers := t.filterMap Value.header?

end Courier.Amqp
