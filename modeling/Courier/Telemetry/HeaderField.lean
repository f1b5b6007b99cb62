import Courier.Text.Blank
import Courier.Text.Percent
import Courier.Text.Split

/-!
# Header fields

A request to a collector may carry header fields of the user's choice.  They are written as
`name=value` with commas between them, where a value may be percent-coded
(`HeaderField.listOf`).  Fields that no request can carry are left out.
-/

namespace Courier

/-- A header field of a request.  The name is in lower case. -/
structure HeaderField where
  name : String
  value : String
  deriving DecidableEq, Repr

namespace HeaderField

/-- The marks that the name of a field may hold. -/
def nameMarks : String := "!#$%&'*+-.^_`|~"

/-- May the name of a field hold this character? -/
def isNameChar (c : Char) : Bool := c.isAlphanum || nameMarks.contains c

/-- May the value of a field hold this character? -/
def isValueChar (c : Char) : Bool := (' ' ≤ c && c ≤ '~') || c == '\t'

/-- The text behind percent coding; one that is not coded throughout stands for itself. -/
def plainValue (s : String) : String :=
  ((Percent.decodeAll? (Utf8.encode s)).bind Utf8.decode?).getD s

/-- Reads a field that a request can carry. -/
def read? (cs : List Char) : Option HeaderField := do
  let (name, value) ← cutAt '=' cs
  let name := trim (String.ofList name)
  let value := plainValue (trim (String.ofList value))
  if name ≠ "" ∧ value ≠ "" ∧ name.toList.all isNameChar ∧ value.toList.all isValueChar then
    -- Blanks around a value do not belong to it.
    some ⟨name.toLower, trim value⟩
  else none

/-- The fields that a text lists. -/
def listOf (text : String) : List HeaderField := (splitOn ',' text.toList).filterMap read?

/-- The value of the last field with a name. -/
def value? (fields : List HeaderField) (name : String) : Option String :=
  (fields.reverse.find? (·.name = name)).map (·.value)

end HeaderField

end Courier
