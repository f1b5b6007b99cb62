import Courier.Text.Digits
import Courier.Text.Property

/-!
# Quoted text

`quoted` writes a text between double quotes so that it stays on one line and shows every
character: quotes and backslashes get a backslash, the usual control characters their letter, and
every other hidden character (`isHidden`) its code point in braces.  A single quote stays.
-/

namespace Courier

/-- One character inside double quotes. -/
def quotedChar (c : Char) : List Char :=
  match c with
  | '"' => ['\\', '"']
  | '\\' => ['\\', '\\']
  | '\t' => ['\\', 't']
  | '\r' => ['\\', 'r']
  | '\n' => ['\\', 'n']
  | '\x00' => ['\\', '0']
  | c =>
    if isHidden c then ['\\', 'u', '\x7b'] ++ digits 16 c.toNat ++ ['\x7d'] else [c]

/-- A text between double quotes. -/
def quoted (s : String) : String :=
  String.ofList ('"' :: s.toList.flatMap quotedChar ++ ['"'])

end Courier
