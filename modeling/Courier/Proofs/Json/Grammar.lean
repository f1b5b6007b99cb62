import Courier.Json.Skip

/-!
# The grammar of JSON

What JSON is, said without any reader.  A relation of the grammar holds of two byte strings if the
first begins with a piece of the wanted kind and the second is what stands behind it; a relation in
the middle of which a meaning stands says what the piece means as well.

* `Blanks`: blanks, or nothing.
* `Text`: a string between its quotes.  Its bytes are the UTF-8 forms of characters, or escapes, and
  surrogates come in pairs.
* `RawText`: the same for a string that nobody wants to know.  Its bytes need not be UTF-8, and a
  surrogate may stand alone.
* `Integer`: an integer without leading zeros; there is no negative zero.  `Number`: any number.
* `Value`: any value, with the entries of a list or an object separated by commas (`Contents`).
  Strings in it, and names, are raw.
-/

namespace Courier.Json.Grammar

/-! ### Blanks -/

/-- Blanks, or nothing. -/
inductive Blanks : List UInt8 → List UInt8 → Prop where
  | nil {s : List UInt8} : Blanks s s
  | cons {b : UInt8} {s t : List UInt8} (hb : isBlank b = true) (h : Blanks s t) : Blanks (b :: s) t

/-! ### Strings -/

/-- A hexadecimal digit, in either case, and its value. -/
def HexDigit (b : UInt8) (n : Nat) : Prop :=
  (0x30 ≤ b ∧ b ≤ 0x39 ∧ b.toNat = n + 0x30) ∨ (0x61 ≤ b ∧ b ≤ 0x66 ∧ b.toNat = n + 0x57) ∨
    (0x41 ≤ b ∧ b ≤ 0x46 ∧ b.toNat = n + 0x37)

instance (b : UInt8) (n : Nat) : Decidable (HexDigit b n) :=
  inferInstanceAs (Decidable (_ ∨ _ ∨ _))

/-- Four hexadecimal digits and their value. -/
inductive HexCode : List UInt8 → Nat → List UInt8 → Prop where
  | mk {a b c d : UInt8} {w x y z : Nat} {s : List UInt8} (ha : HexDigit a w) (hb : HexDigit b x)
    (hc : HexDigit c y) (hd : HexDigit d z) :
    HexCode (a :: b :: c :: d :: s) (((w * 16 + x) * 16 + y) * 16 + z) s

/-- The escapes of one letter: the letter, and the character that is meant. -/
def shortEscapes : List (UInt8 × Char) :=
  [(0x22, '"'), (0x5C, '\\'), (0x2F, '/'), (0x62, '\x08'), (0x66, '\x0c'), (0x6E, '\n'),
   (0x72, '\r'), (0x74, '\t')]

/-- What stands behind a backslash, and the character that is meant. -/
inductive Escape : List UInt8 → Char → List UInt8 → Prop where
  | short {letter : UInt8} {c : Char} {s : List UInt8} (h : (letter, c) ∈ shortEscapes) :
    Escape (letter :: s) c s
  | code {c : Char} {s t : List UInt8} (h : HexCode s c.toNat t) : Escape (letterU :: s) c t
  /-- A character beyond U+FFFF, as a pair of surrogates. -/
  | pair {c : Char} {high low : Nat} {s t u : List UInt8}
    (hhigh : HexCode s high (backslash :: letterU :: t)) (hlow : HexCode t low u)
    (hh : 0xD800 ≤ high ∧ high ≤ 0xDBFF) (hl : 0xDC00 ≤ low ∧ low ≤ 0xDFFF)
    (hc : c.toNat = (high - 0xD800) * 0x400 + (low - 0xDC00) + 0x10000) :
    Escape (letterU :: s) c u

/-- The inside of a string, and the characters that it means. -/
inductive Chars : List UInt8 → List Char → List UInt8 → Prop where
  | nil {s : List UInt8} : Chars s [] s
  | plain {c : Char} {cs : List Char} {s t : List UInt8} (hc : 0x20 ≤ c.toNat) (hq : c ≠ '"')
    (hb : c ≠ '\\') (h : Chars s cs t) : Chars (String.utf8EncodeChar c ++ s) (c :: cs) t
  | escape {c : Char} {cs : List Char} {s t u : List UInt8} (he : Escape s c t)
    (h : Chars t cs u) : Chars (backslash :: s) (c :: cs) u

/-- A string between its quotes. -/
def Text (s : List UInt8) (text : String) (t : List UInt8) : Prop :=
  ∃ inside, s = quote :: inside ∧ Chars inside text.toList (quote :: t)

/-- What stands behind a backslash in a string that nobody wants to know. -/
inductive RawEscape : List UInt8 → List UInt8 → Prop where
  | short {letter : UInt8} {s : List UInt8} (h : letter ∈ shortEscapes.map Prod.fst) :
    RawEscape (letter :: s) s
  | code {n : Nat} {s t : List UInt8} (h : HexCode s n t) : RawEscape (letterU :: s) t

/-- The inside of a string that nobody wants to know. -/
inductive RawChars : List UInt8 → List UInt8 → Prop where
  | nil {s : List UInt8} : RawChars s s
  | plain {b : UInt8} {s t : List UInt8} (hc : 0x20 ≤ b) (hq : b ≠ quote) (hb : b ≠ backslash)
    (h : RawChars s t) : RawChars (b :: s) t
  | escape {s t u : List UInt8} (he : RawEscape s t) (h : RawChars t u) :
    RawChars (backslash :: s) u

/-- A string that nobody wants to know, between its quotes. -/
def RawText (s t : List UInt8) : Prop :=
  ∃ inside, s = quote :: inside ∧ RawChars inside (quote :: t)

/-! ### Numbers -/

/-- Some digits, or none, behind others of the first value; the second value is that of all. -/
inductive Run : Nat → List UInt8 → Nat → List UInt8 → Prop where
  | nil {m : Nat} {s : List UInt8} : Run m s m s
  | cons {b : UInt8} {m n : Nat} {s t : List UInt8} (hb : isDigit b = true)
    (h : Run (m * 10 + digitOf b) s n t) : Run m (b :: s) n t

/-- A natural number without leading zeros. -/
inductive Natural : List UInt8 → Nat → List UInt8 → Prop where
  | zero {s : List UInt8} : Natural (zero :: s) 0 s
  | digits {b : UInt8} {n : Nat} {s t : List UInt8} (hb : isDigit b = true) (hz : b ≠ zero)
    (h : Run (digitOf b) s n t) : Natural (b :: s) n t

/-- An integer without leading zeros.  Zero has no sign. -/
inductive Integer : List UInt8 → Int → List UInt8 → Prop where
  | natural {n : Nat} {s t : List UInt8} (h : Natural s n t) : Integer s n t
  | negative {n : Nat} {s t : List UInt8} (h : Natural s n t) (hn : n ≠ 0) :
    Integer (minus :: s) (-n) t

/-- One or more digits. -/
def Digits (s t : List UInt8) : Prop :=
  ∃ b rest n, s = b :: rest ∧ isDigit b = true ∧ Run (digitOf b) rest n t

/-- The point and the digits behind it, or nothing. -/
inductive Fraction : List UInt8 → List UInt8 → Prop where
  | none {s : List UInt8} : Fraction s s
  | some {s t : List UInt8} (h : Digits s t) : Fraction (point :: s) t

/-- A power of ten, or nothing. -/
inductive Exponent : List UInt8 → List UInt8 → Prop where
  | none {s : List UInt8} : Exponent s s
  | unsigned {b : UInt8} {s t : List UInt8} (hb : isExponentMark b = true) (h : Digits s t) :
    Exponent (b :: s) t
  | signed {b sign : UInt8} {s t : List UInt8} (hb : isExponentMark b = true)
    (hs : sign = plus ∨ sign = minus) (h : Digits s t) : Exponent (b :: sign :: s) t

/-- A number without its sign. -/
inductive Unsigned : List UInt8 → List UInt8 → Prop where
  | mk {n : Nat} {s t u v : List UInt8} (hn : Natural s n t) (hf : Fraction t u)
    (he : Exponent u v) : Unsigned s v

/-- A number. -/
inductive Number : List UInt8 → List UInt8 → Prop where
  | positive {s t : List UInt8} (h : Unsigned s t) : Number s t
  | negative {s t : List UInt8} (h : Unsigned s t) : Number (minus :: s) t

/-! ### Values -/

/-- The words `null`, `true` and `false`. -/
def words : List (List UInt8) := [0x6E :: nullTail, 0x74 :: trueTail, 0x66 :: falseTail]

/-- The byte that opens a bracket. -/
def opener : Bracket → UInt8
  | .list => openList
  | .object => openObject

/-- What stands in front of a value inside a bracket: in an object a name and a colon. -/
inductive Label : Bracket → List UInt8 → List UInt8 → Prop where
  | list {s : List UInt8} : Label .list s s
  | object {s t u v : List UInt8} (hb : Blanks s t) (hn : RawText t u)
    (hc : Blanks u (colon :: v)) : Label .object s v

/-- What is written: one value, or everything inside a bracket. -/
inductive Extent where
  | value
  | contents (bracket : Bracket)

/-- A value, or the contents of a bracket that is not empty. -/
inductive Written : Extent → List UInt8 → List UInt8 → Prop where
  | word (word : List UInt8) {s : List UInt8} (h : word ∈ words) : Written .value (word ++ s) s
  | number {s t : List UInt8} (h : Number s t) : Written .value s t
  | text {s t : List UInt8} (h : RawText s t) : Written .value s t
  | empty (bracket : Bracket) {s t : List UInt8} (h : Blanks s (bracket.close :: t)) :
    Written .value (opener bracket :: s) t
  | bracket (bracket : Bracket) {s t : List UInt8}
    (h : Written (.contents bracket) s (bracket.close :: t)) :
    Written .value (opener bracket :: s) t
  | last {bracket : Bracket} {s t u v w : List UInt8} (hl : Label bracket s t) (hb : Blanks t u)
    (hv : Written .value u v) (ha : Blanks v w) : Written (.contents bracket) s w
  | more {bracket : Bracket} {s t u v w x : List UInt8} (hl : Label bracket s t) (hb : Blanks t u)
    (hv : Written .value u v) (ha : Blanks v (comma :: w)) (h : Written (.contents bracket) w x) :
    Written (.contents bracket) s x

/-- A value of any kind. -/
abbrev Value : List UInt8 → List UInt8 → Prop := Written .value

/-- Values in a bracket, separated by commas. -/
abbrev Contents (bracket : Bracket) : List UInt8 → List UInt8 → Prop := Written (.contents bracket)

end Courier.Json.Grammar
