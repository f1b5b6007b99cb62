/-!
# Punycode

A label of a domain name can write characters outside ASCII by ASCII ones: first the ASCII
characters of the label, then, after a hyphen, one number for every other character.  A number says
how many steps of "the next place, or the next code point at the first place" lie before the
character is put in.  Its digits are letters and digits, and which digit is its last one depends on
a bias that follows the size of the numbers so far.

`Punycode.decode?` gives the code points of a label.
-/

namespace Courier.Punycode

/-- The number of digits there are. -/
def base : Nat := 36

/-- The value of a digit: letters of either case, then digits. -/
def digit? (c : Char) : Option Nat :=
  if c.isUpper then some (c.toNat - 0x41)
  else if c.isLower then some (c.toNat - 0x61)
  else if c.isDigit then some (26 + (c.toNat - 0x30))
  else none

/-- The digit from which on a number goes on after the given place. -/
def threshold (bias place : Nat) : Nat := min 26 (max 1 (place - bias))

/-- Reads a number, and gives what follows it. -/
def readNumber? (bias : Nat) :
    (place weight value : Nat) → List Char → Option (Nat × List Char)
  | _, _, _, [] => none
  | place, weight, value, c :: rest =>
    match digit? c with
    | none => none
    | some digit =>
      let limit := threshold bias place
      if digit < limit then some (value + digit * weight, rest)
      else
        readNumber? bias (place + base) (weight * (base - limit)) (value + digit * weight) rest

theorem length_lt_of_readNumber? {bias place weight value number : Nat} {cs rest : List Char}
    (h : readNumber? bias place weight value cs = some (number, rest)) :
    rest.length < cs.length := by
  fun_induction readNumber? bias place weight value cs with
  | case1 => simp at h
  | case2 => simp at h
  | case3 place weight value c cs digit hd limit hl =>
    simp only [Option.some.injEq, Prod.mk.injEq] at h
    obtain ⟨-, rfl⟩ := h
    exact Nat.lt_succ_self _
  | case4 place weight value c cs digit hd limit hl ih => exact Nat.lt_succ_of_lt (ih h)

/-- Divides a number until it is small, and counts the places that this takes. -/
def shrink (number places : Nat) : Nat × Nat :=
  if 455 < number then shrink (number / 35) (places + base) else (number, places)
  termination_by number
  decreasing_by exact Nat.div_lt_self (by omega) (by omega)

/-- The bias after a number, with the length of the label so far. -/
def adapt (number length : Nat) (isFirst : Bool) : Nat :=
  let damped := if isFirst then number / 700 else number / 2
  let (rest, places) := shrink (damped + damped / length) 0
  places + base * rest / (rest + 38)

/-- Where the reading of a label is. -/
structure Cursor where
  codePoint : Nat := 0x80
  place : Nat := 0
  bias : Nat := 72
  label : List Nat

/-- Puts in the character that comes after so many steps, if there is one. -/
def Cursor.advance? (c : Cursor) (steps : Nat) : Option Cursor :=
  let length := c.label.length + 1
  let codePoint := c.codePoint + (c.place + steps) / length
  let place := (c.place + steps) % length
  if codePoint.isValidChar then
    some
      { codePoint, place := place + 1, bias := adapt steps length (c.place = 0)
        label := c.label.take place ++ codePoint :: c.label.drop place }
  else none

/-- Puts in the characters that numbers stand for. -/
def decodeNumbers? (cursor : Cursor) (cs : List Char) : Option (List Nat) :=
  if cs = [] then some cursor.label
  else
    match _h : readNumber? cursor.bias base 1 0 cs with
    | none => none
    | some (number, rest) => (cursor.advance? number).bind fun next => decodeNumbers? next rest
  termination_by cs.length
  decreasing_by exact length_lt_of_readNumber? _h

/-- The part of a label before its last hyphen, and the part after it. -/
def cutAtHyphen (cs : List Char) : List Char × List Char :=
  let numbers := (cs.reverse.takeWhile (· ≠ '-')).reverse
  (cs.take (cs.length - numbers.length - 1), numbers)

/-- The code points of a label, without its mark. -/
def decode? (cs : List Char) : Option (List Nat) :=
  let (plain, numbers) := cutAtHyphen cs
  if plain.all (·.toNat < 0x80) then
    decodeNumbers? { label := plain.map Char.toNat } numbers
  else none

end Courier.Punycode
