import Courier.Text.Digits
import Courier.Text.Split

/-!
# Numeric addresses

A host may be given by its number.

* `ipv4?` reads one to four parts with dots between them, each in decimal, octal or hexadecimal
  form; the last part fills all bytes that are left.
* `ipv6?` reads eight pieces with colons between them.  One `::` stands for a run of zeros, and the
  last two pieces may be written as four bytes.

`ipv4Text` and `ipv6Text` write them, with all bytes and all pieces.
-/

namespace Courier

/-! ### Four bytes -/

/-- The value of digits of a base; no digits are zero. -/
def valueOf? (base : Nat) (cs : List Char) : Option Nat :=
  cs.foldlM (fun value c => (digitValue? base c).map (base * value + ·)) 0

/-- A part of an address: hexadecimal after `0x`, octal after another `0`, else decimal. -/
def partValue? (cs : List Char) : Option Nat :=
  match cs with
  | [] => none
  | '0' :: 'x' :: rest | '0' :: 'X' :: rest => valueOf? 16 rest
  | '0' :: rest => valueOf? 8 rest
  | _ => valueOf? 10 cs

/-- The parts of a name; a dot at its end counts for nothing. -/
def nameParts (cs : List Char) : List (List Char) := splitTerminated '.' cs

/-- Does the last part of a name make it an address?  Digits do, even where they are no number. -/
def endsInNumber (cs : List Char) : Bool :=
  match (nameParts cs).getLast? with
  | none => false
  | some last => (last ≠ [] && last.all Char.isDigit) || (partValue? last).isSome

/-- The number of bytes of an address. -/
def byteCount : Nat := 4

/-- The address of which the given parts are the first bytes and the rest. -/
def assemble? : (room : Nat) → List Nat → Option Nat
  | _, [] => none
  | room, [last] => if last < Nat.pow 256 room then some last else none
  | 0, _ => none
  | room + 1, first :: rest =>
    if first < 256 then (assemble? room rest).map (first * Nat.pow 256 room + ·) else none

/-- Reads an address of four bytes. -/
def ipv4? (cs : List Char) : Option Nat :=
  let parts := nameParts cs
  if byteCount < parts.length then none else (parts.mapM partValue?).bind (assemble? byteCount)

/-- An address of four bytes, byte by byte. -/
def ipv4Text (address : Nat) : String :=
  ".".intercalate ([3, 2, 1, 0].map fun i => decimal (address / Nat.pow 256 i % 256))

/-! ### Eight pieces -/

/-- One of the last four bytes of a long address. -/
def byte? (cs : List Char) : Option Nat :=
  match cs with
  | [] => none
  | ['0'] => some 0
  -- A number that begins with zero could be taken for octal.
  | '0' :: _ => none
  | _ => (valueOf? 10 cs).filter (· < 256)

/-- The two pieces that are written as four bytes. -/
def bytePieces? (cs : List Char) : Option (List Nat) :=
  match splitOn '.' cs with
  | [a, b, c, d] => do
    let a ← byte? a
    let b ← byte? b
    let c ← byte? c
    let d ← byte? d
    return [256 * a + b, 256 * c + d]
  | _ => none

/-- The length of the longest piece. -/
def maxPieceLength : Nat := 4

/-- A piece of a long address. -/
def piece? (cs : List Char) : Option Nat :=
  if cs = [] ∨ maxPieceLength < cs.length then none else valueOf? 16 cs

/-- The pieces of a part of an address; at its end, they may be written as bytes. -/
def pieces? (isEnd : Bool) : List (List Char) → Option (List Nat)
  | [] => some []
  | [last] =>
    if isEnd && '.' ∈ last then bytePieces? last else (piece? last).map fun piece => [piece]
  | first :: rest => do
    let piece ← piece? first
    let pieces ← pieces? isEnd rest
    return piece :: pieces

/-- The pieces with colons between them, if there is anything. -/
def joinedPieces? (isEnd : Bool) (cs : List Char) : Option (List Nat) :=
  if cs = [] then some [] else pieces? isEnd (splitOn ':' cs)

/-- The number of pieces of an address. -/
def pieceCount : Nat := 8

/-- Reads an address of eight pieces. -/
def ipv6? (cs : List Char) : Option (List Nat) :=
  match cutAtWord [':', ':'] cs with
  | none => (joinedPieces? true cs).filter (·.length = pieceCount)
  | some (left, right) => do
    let left ← joinedPieces? false left
    let right ← joinedPieces? true right
    let given := left.length + right.length
    guard (given < pieceCount)
    return left ++ List.replicate (pieceCount - given) 0 ++ right

/-- An address of eight pieces, in brackets. -/
def ipv6Text (pieces : List Nat) : String := "[" ++ ":".intercalate (pieces.map hex) ++ "]"

end Courier
