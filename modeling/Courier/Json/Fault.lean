import Courier.Text.Quoted

/-!
# What can be wrong with a JSON document

Readers work on the bytes that are still left, so a `Fault` says how many bytes were left when it
was found; `Fault.place` turns that into a line and a column of the whole document.

Two conventions for where a fault lies run through all readers.  `here rest` is the end of what has
been read.  `ahead rest` is one byte further, where the offending byte stands, and the end of the
document when nothing stands there.
-/

namespace Courier.Json

/-! ### Causes -/

/-- What a value turned out to be where something else was wanted. -/
inductive Found where
  | null
  | boolean (b : Bool)
  | integer (i : Int)
  | float (text : String)
  | string (text : String)
  | sequence
  | map
  deriving DecidableEq, Repr

/-- What was wanted. -/
inductive Wanted where
  | string
  | integer
  | command
  deriving DecidableEq, Repr

/-- Why a document is refused. -/
inductive Issue where
  | endInList
  | endInObject
  | endInString
  | endInValue
  | expectedColon
  | expectedListEnd
  | expectedObjectEnd
  | expectedLiteral
  | expectedValue
  | invalidEscape
  | invalidNumber
  | numberOutOfRange
  | invalidCodePoint
  | controlCharacter
  | keyNotString
  | loneSurrogate
  | unpairedSurrogate
  | trailingComma
  | trailingCharacters
  | wrongType (found : Found) (wanted : Wanted)
  | wrongValue (i : Int) (wanted : Wanted)
  | duplicateField (name : String)
  deriving DecidableEq, Repr

/-- The three kinds of issue: the document stops too early, it is no JSON, or it is JSON but no
command. -/
inductive Category where
  | ended
  | malformed
  | unsuitable
  deriving DecidableEq, Repr

/-- The kind of an issue. -/
def Issue.category : Issue → Category
  | .endInList | .endInObject | .endInString | .endInValue => .ended
  | .wrongType _ _ | .wrongValue _ _ | .duplicateField _ => .unsuitable
  | _ => .malformed

/-- The wording of what was found. -/
def Found.message : Found → String
  | .null => "null"
  | .boolean true => "boolean `true`"
  | .boolean false => "boolean `false`"
  | .integer i => "integer `" ++ decimalInt i ++ "`"
  | .float text => "floating point `" ++ text ++ "`"
  | .string text => "string " ++ quoted text
  | .sequence => "sequence"
  | .map => "map"

/-- The wording of what was wanted. -/
def Wanted.message : Wanted → String
  | .string => "a string"
  | .integer => "i64"
  | .command => "struct SendEmailCommand"

/-- The wording of an issue. -/
def Issue.message : Issue → String
  | .endInList => "EOF while parsing a list"
  | .endInObject => "EOF while parsing an object"
  | .endInString => "EOF while parsing a string"
  | .endInValue => "EOF while parsing a value"
  | .expectedColon => "expected `:`"
  | .expectedListEnd => "expected `,` or `]`"
  | .expectedObjectEnd => "expected `,` or `\x7d`"
  | .expectedLiteral => "expected ident"
  | .expectedValue => "expected value"
  | .invalidEscape => "invalid escape"
  | .invalidNumber => "invalid number"
  | .numberOutOfRange => "number out of range"
  | .invalidCodePoint => "invalid unicode code point"
  | .controlCharacter => "control character (\\u0000-\\u001F) found while parsing a string"
  | .keyNotString => "key must be a string"
  | .loneSurrogate => "lone leading surrogate in hex escape"
  | .unpairedSurrogate => "unexpected end of hex escape"
  | .trailingComma => "trailing comma"
  | .trailingCharacters => "trailing characters"
  | .wrongType found wanted =>
    "invalid type: " ++ found.message ++ ", expected " ++ wanted.message
  | .wrongValue i wanted =>
    "invalid value: integer `" ++ decimalInt i ++ "`, expected " ++ wanted.message
  | .duplicateField name => "duplicate field `" ++ name ++ "`"

/-! ### Places -/

/-- A line, counted from one, and a column, the number of bytes of the line already read. -/
structure Place where
  line : Nat
  column : Nat
  deriving DecidableEq, Repr

/-- Moves a place over one more byte. -/
def Place.advance (p : Place) (b : UInt8) : Place :=
  if b = 0x0A then ⟨p.line + 1, 0⟩ else ⟨p.line, p.column + 1⟩

/-- The place after the given bytes. -/
def Place.after (bytes : List UInt8) : Place := bytes.foldl Place.advance ⟨1, 0⟩

/-- An issue, with the number of bytes left where it was found and the number of columns that it
lies further to the left. -/
structure Fault where
  issue : Issue
  left : Nat
  back : Nat := 0
  deriving DecidableEq, Repr

/-- The end of what has been read. -/
def here (issue : Issue) (rest : List UInt8) : Fault := { issue, left := rest.length }

/-- The first byte that has not been read. -/
def ahead (issue : Issue) (rest : List UInt8) : Fault := { issue, left := rest.length - 1 }

/-- Where a fault lies in the document it was found in. -/
def Fault.place (f : Fault) (document : List UInt8) : Place :=
  let p := Place.after (document.take (document.length - f.left))
  { p with column := p.column - f.back }

end Courier.Json
