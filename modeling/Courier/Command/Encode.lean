import Courier.Command.Basic
import Courier.Text.Digits
import Courier.Text.Utf8

/-!
# Writing a command

`encode` writes a command as a JSON object: all seven members in the order of `Field.all`, no
blanks.  Strings keep every character as it is, apart from quotes, backslashes and the characters
below U+0020.
-/

namespace Courier.Command

/-- One character inside a JSON string. -/
def escapedChar (c : Char) : List Char :=
  match c with
  | '"' => ['\\', '"']
  | '\\' => ['\\', '\\']
  | '\x08' => ['\\', 'b']
  | '\x0c' => ['\\', 'f']
  | '\n' => ['\\', 'n']
  | '\r' => ['\\', 'r']
  | '\t' => ['\\', 't']
  | c => if c.toNat < 0x20 then ['\\', 'u'] ++ hexFixedDigits 4 c.toNat else [c]

/-- A JSON string. -/
def writeText (s : String) : List Char := '"' :: s.toList.flatMap escapedChar ++ ['"']

/-- The value of a field. -/
def writeField (c : Command) : Field → List Char
  | .kind => writeText c.kind
  | .recipient => writeText c.recipient
  | .subject => writeText c.subject
  | .body => writeText c.body
  | .applicationId => writeText c.applicationId
  | .interviewId =>
    match c.interviewId with
    | some id => writeText id
    | none => ['n', 'u', 'l', 'l']
  | .jobId => (decimalInt c.jobId.toInt).toList

/-- One member: its key, a colon and its value. -/
def writeMember (c : Command) (f : Field) : List Char :=
  writeText f.name ++ ':' :: writeField c f

/-- The members of a command as a JSON object. -/
def encodeText (c : Command) : String :=
  String.ofList ('\x7b' :: [','].intercalate (Field.all.map (writeMember c)) ++ ['\x7d'])

/-- The bytes of a command as a JSON object. -/
def encode (c : Command) : List UInt8 := Utf8.encode c.encodeText

end Courier.Command
