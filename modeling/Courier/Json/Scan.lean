import Courier.Json.Fault

/-!
# Blanks, literals and named bytes

The bytes that JSON gives a meaning to, the four blanks, and the literals `null`, `true` and
`false`.  JSON's own blanks are fewer than the text blanks: no form feed, no vertical tab.
-/

namespace Courier.Json

/-! ### Named bytes -/

/-- The byte `"`. -/
def quote : UInt8 := 0x22
/-- The byte `\`. -/
def backslash : UInt8 := 0x5C
/-- The byte `,`. -/
def comma : UInt8 := 0x2C
/-- The byte `:`. -/
def colon : UInt8 := 0x3A
/-- The byte `[`. -/
def openList : UInt8 := 0x5B
/-- The byte `]`. -/
def closeList : UInt8 := 0x5D
/-- The byte `{`. -/
def openObject : UInt8 := 0x7B
/-- The byte `}`. -/
def closeObject : UInt8 := 0x7D
/-- The byte `-`. -/
def minus : UInt8 := 0x2D
/-- The byte `+`. -/
def plus : UInt8 := 0x2B
/-- The byte `.`. -/
def point : UInt8 := 0x2E
/-- The digit `0`. -/
def zero : UInt8 := 0x30

/-- One of `0` to `9`. -/
def isDigit (b : UInt8) : Bool := 0x30 ≤ b && b ≤ 0x39

/-- The value of a digit. -/
def digitOf (b : UInt8) : Nat := b.toNat - 0x30

/-- `e` or `E`. -/
def isExponentMark (b : UInt8) : Bool := b == 0x65 || b == 0x45

/-! ### Blanks -/

/-- Space, tab, line feed or carriage return. -/
def isBlank (b : UInt8) : Bool := b == 0x20 || b == 0x09 || b == 0x0A || b == 0x0D

/-- The bytes from the first one that is no blank. -/
def skipBlanks (s : List UInt8) : List UInt8 := s.dropWhile isBlank

theorem length_skipBlanks_le (s : List UInt8) : (skipBlanks s).length ≤ s.length :=
  (List.dropWhile_sublist isBlank).length_le

theorem length_lt_of_skipBlanks {s rest : List UInt8} {b : UInt8} (h : skipBlanks s = b :: rest) :
    rest.length < s.length := by
  have := length_skipBlanks_le s
  rw [h] at this
  simpa [Nat.succ_le_iff] using this

/-! ### Literals -/

/-- The bytes of `null` after its first. -/
def nullTail : List UInt8 := [0x75, 0x6C, 0x6C]
/-- The bytes of `true` after its first. -/
def trueTail : List UInt8 := [0x72, 0x75, 0x65]
/-- The bytes of `false` after its first. -/
def falseTail : List UInt8 := [0x61, 0x6C, 0x73, 0x65]

/-- Reads exactly the bytes of `word`.  A wrong byte counts as read. -/
def readWord : (word s : List UInt8) → Except Fault (List UInt8)
  | [], s => .ok s
  | _ :: _, [] => .error (here .endInValue [])
  | w :: word, b :: rest =>
    if b = w then readWord word rest else .error (here .expectedLiteral rest)

theorem length_le_of_readWord {word s rest : List UInt8} (h : readWord word s = .ok rest) :
    rest.length ≤ s.length := by
  induction word generalizing s with
  | nil => simp only [readWord, Except.ok.injEq] at h; exact h ▸ Nat.le_refl _
  | cons w word ih =>
    cases s with
    | nil => simp [readWord] at h
    | cons b s =>
      simp only [readWord] at h
      split at h
      · exact Nat.le_succ_of_le (ih h)
      · simp at h

end Courier.Json
