import Courier.Dictionary
import Courier.Text.Utf8

/-!
# Message headers

Brokers hand header values over as text or as bytes, and publishers differ in which they choose.
`Headers.text?` hides the difference: it reads either, and an empty or unreadable value counts as
no value.
-/

namespace Courier

/-- A header value as it came off the wire. -/
inductive HeaderValue where
  | text (s : String)
  | bytes (b : List UInt8)
  deriving DecidableEq, Repr

/-- The value as a text; `none` for bytes that are no UTF-8. -/
def HeaderValue.text? : HeaderValue → Option String
  | .text s => some s
  | .bytes b => Utf8.decode? b

/-- The headers of a message. -/
abbrev Headers := Dictionary HeaderValue

/-- The text under a key.  A missing, empty or unreadable value is `none`. -/
def Headers.text? (h : Headers) (key : String) : Option String :=
  ((h.get? key).bind HeaderValue.text?).filter (· ≠ "")

theorem Headers.text?_ne_empty {h : Headers} {key s : String} (hs : h.text? key = some s) :
    s ≠ "" := by
  simpa using (Option.filter_eq_some_iff.1 hs).2

end Courier
