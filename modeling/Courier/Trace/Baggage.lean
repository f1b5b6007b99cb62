import Courier.Dictionary
import Courier.Text.Blank
import Courier.Text.Percent
import Courier.Text.Split

/-!
# Baggage

Baggage is a small dictionary that travels beside a trace.  Each entry has a value and may have
metadata.  It is bounded: `maxEntries` entries, and `maxBytes` bytes of names, values and metadata
together; an insertion that would break a bound changes nothing.

`Baggage.read` reads the header form and skips what it cannot read; `Baggage.header` writes it.
-/

namespace Courier

namespace Baggage

/-- What an entry says. -/
structure Item where
  value : String
  metadata : String := ""
  deriving DecidableEq, Repr

/-- The largest number of entries. -/
def maxEntries : Nat := 64

/-- The largest number of bytes of all entries together. -/
def maxBytes : Nat := 8192

/-- The bytes that one entry takes. -/
def itemBytes (name : String) (item : Item) : Nat :=
  (Utf8.encode name).length + (Utf8.encode item.value).length + (Utf8.encode item.metadata).length

/-- The bytes that all entries take. -/
def bytes (items : Dictionary Item) : Nat :=
  items.entries.foldr (fun (name, item) n => itemBytes name item + n) 0

/-- A character of a name: visible ASCII without separators. -/
def isNameChar (c : Char) : Bool :=
  0x21 ≤ c.toNat && c.toNat ≤ 0x7E &&
    !"(),/:;<=>?@[\\]\x7b\x7d\"".toList.contains c

/-- One or more name characters. -/
def isName (name : String) : Bool := name ≠ "" && name.toList.all isNameChar

end Baggage

/-- The entries that travel beside a trace. -/
structure Baggage where
  items : Dictionary Baggage.Item := .empty
  size_le : items.size ≤ Baggage.maxEntries := by exact Nat.zero_le _
  bytes_le : Baggage.bytes items ≤ Baggage.maxBytes := by exact Nat.zero_le _
  deriving DecidableEq

namespace Baggage

/-- The baggage without entries. -/
def empty : Baggage := {}

instance : Inhabited Baggage := ⟨empty⟩

/-- Enters an item.  Nothing changes for a name that is new and no name, or beyond the bounds. -/
def insert (b : Baggage) (name : String) (item : Item) : Baggage :=
  let items := b.items.insert name item
  if h : (b.items.contains name ∨ isName name) ∧
      items.size ≤ maxEntries ∧ bytes items ≤ maxBytes then
    ⟨items, h.2.1, h.2.2⟩
  else b

/-- The baggage of the given entries, inserted in order. -/
def ofList (entries : List (String × Item)) : Baggage :=
  entries.foldl (fun b (name, item) => b.insert name item) empty

/-- Is there nothing in it? -/
def isEmpty (b : Baggage) : Bool := b.items.isEmpty

/-! ### The header form -/

/-- The metadata of a member: every part that can be read, trimmed. -/
def readMetadata (parts : List (List Char)) : String :=
  ";".intercalate ((parts.filterMap fun part => Percent.decodeText? (String.ofList part)).map trim)

/-- One member of the header: `name=value`, then metadata after semicolons. -/
def readMember? (member : List Char) : Option (String × Item) :=
  match splitOn ';' member with
  | [] => none
  | first :: parts =>
    match splitOn '=' first with
    -- What follows a second equals sign is lost.
    | name :: value :: _ => do
      let name ← Percent.decodeText? (String.ofList name)
      let value ← Percent.decodeText? (String.ofList value)
      return (trim name, ⟨trim value, readMetadata parts⟩)
    | _ => none

/-- The baggage in a header. -/
def read (header : String) : Baggage :=
  ofList ((splitOn ',' header.toList).filterMap readMember?)

/-- The bytes that stay as they are in a name or a value of the header. -/
def isPlainByte (b : UInt8) : Bool :=
  0x20 < b && b < 0x7F && b != 0x22 && b != 0x3B && b != 0x2C && b != 0x3D

/-- One member of the header. -/
def memberText (name : String) (item : Item) : String :=
  let metadata := trim item.metadata
  String.ofList (Percent.encode isPlainByte (trim name)) ++ "=" ++
    String.ofList (Percent.encode isPlainByte (trim item.value)) ++
    (if metadata = "" then "" else ";" ++ metadata)

/-- The header form: the members, in the order of their names, with commas in between. -/
def header (b : Baggage) : String :=
  ",".intercalate (b.items.entries.map fun (name, item) => memberText name item)

end Baggage

end Courier
