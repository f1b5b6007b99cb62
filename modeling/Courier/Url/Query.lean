import Courier.Text.Percent
import Courier.Text.Split

/-!
# Queries as fields

The query of a URL may be a list of fields `name=value` with `&` between them.  Names and values are
percent-coded, and a `+` stands for a space.
-/

namespace Courier.Query

/-- The text behind the coding of a name or a value; bytes that are no text are replaced. -/
def plain (cs : List Char) : String :=
  let spaced := cs.map fun c => if c = '+' then ' ' else c
  Utf8.decodeLossy (Percent.decode (Utf8.encode (String.ofList spaced)))

/-- Reads a field; without an equals sign the value is empty. -/
def field (cs : List Char) : String × String :=
  match cutAt '=' cs with
  | some (name, value) => (plain name, plain value)
  | none => (plain cs, "")

/-- The fields of a query, in order. -/
def fields (cs : List Char) : List (String × String) :=
  ((splitOn '&' cs).filter (· ≠ [])).map field

end Courier.Query
