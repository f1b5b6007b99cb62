/-!
# Numbers as digits

Written forms of natural numbers, in both directions.

* `decimal` and `hex` write a number with as many digits as it needs, `hexFixed` with a given
  number of digits.  All hexadecimal output is lower case.
* `readNat` reads an optional `+` and then digits of a base up to 16, as configuration values and
  header fields are written.  It says why a text is refused: `NumberFault`.

`digitValue?_digitChar` says that the two tables of digits agree.
-/

namespace Courier

/-! ### Single digits -/

/-- The digit of value `n`, for `n < 16`. -/
def digitChar (n : Nat) : Char :=
  Char.ofNat (if n < 10 then 0x30 + n else 0x57 + n)

/-- The value of a digit of base 16, in either case. -/
def hexValue? (c : Char) : Option Nat :=
  let n := c.toNat
  if 0x30 ≤ n && n ≤ 0x39 then some (n - 0x30)
  else if 0x61 ≤ n && n ≤ 0x66 then some (n - 0x57)
  else if 0x41 ≤ n && n ≤ 0x46 then some (n - 0x37)
  else none

/-- The value of a digit of base `base`. -/
def digitValue? (base : Nat) (c : Char) : Option Nat :=
  (hexValue? c).filter (· < base)

theorem hexValue?_digitChar : ∀ n : Nat, n < 16 → hexValue? (digitChar n) = some n := by
  decide

theorem digitValue?_digitChar {base n : Nat} (hn : n < base) (hb : base ≤ 16) :
    digitValue? base (digitChar n) = some n := by
  simp [digitValue?, hexValue?_digitChar n (by omega), hn]

theorem hexValue?_lt {c : Char} {n : Nat} (h : hexValue? c = some n) : n < 16 := by
  unfold hexValue? at h
  simp only [Bool.and_eq_true, decide_eq_true_eq] at h
  split at h
  · simp only [Option.some.injEq] at h; omega
  · split at h
    · simp only [Option.some.injEq] at h; omega
    · split at h
      · simp only [Option.some.injEq] at h; omega
      · simp at h

/-! ### Writing -/

/-- The digits of `n` in base `base`, without leading zeros; zero is one digit. -/
def digits (base n : Nat) : List Char :=
  if _h : base < 2 ∨ n < base then [digitChar n]
  else digits base (n / base) ++ [digitChar (n % base)]
  termination_by n
  decreasing_by exact Nat.div_lt_self (by omega) (by omega)

/-- A number in base ten. -/
def decimal (n : Nat) : String := String.ofList (digits 10 n)

/-- A number in base sixteen. -/
def hex (n : Nat) : String := String.ofList (digits 16 n)

/-- The last `width` digits of a number in base sixteen, with leading zeros. -/
def hexFixedDigits : (width : Nat) → (n : Nat) → List Char
  | 0, _ => []
  | width + 1, n => hexFixedDigits width (n / 16) ++ [digitChar (n % 16)]

/-- A number in base sixteen with exactly `width` digits. -/
def hexFixed (width n : Nat) : String := String.ofList (hexFixedDigits width n)

@[simp] theorem length_hexFixedDigits (width n : Nat) :
    (hexFixedDigits width n).length = width := by
  induction width generalizing n with
  | zero => rfl
  | succ width ih => simp [hexFixedDigits, ih]

/-- An integer in base ten, with a minus sign when it is negative. -/
def decimalInt (i : Int) : String :=
  if i < 0 then "-" ++ decimal i.natAbs else decimal i.natAbs

/-! ### Reading -/

/-- The first natural number that 64 bits cannot hold. -/
def wordBound : Nat := Nat.pow 2 64

/-- The first natural number that 64 bits with a sign cannot hold. -/
def signedBound : Nat := Nat.pow 2 63

/-- Why a text is not a number of the wanted size. -/
inductive NumberFault where
  | empty
  | invalidDigit
  | tooLarge
  deriving DecidableEq, Repr

/-- The wording of a `NumberFault`. -/
def NumberFault.message : NumberFault → String
  | .empty => "cannot parse integer from empty string"
  | .invalidDigit => "invalid digit found in string"
  | .tooLarge => "number too large to fit in target type"

/-- Reads digits from the left, keeping the value below `bound`.  The first fault wins: a wrong
digit before the overflow, or the overflow before a wrong digit. -/
def readDigits (base bound : Nat) : (value : Nat) → List Char → Except NumberFault Nat
  | value, [] => .ok value
  | value, c :: rest =>
    match digitValue? base c with
    | none => .error .invalidDigit
    | some d =>
      if value * base + d < bound then readDigits base bound (value * base + d) rest
      else .error .tooLarge

/-- Reads a number below `bound`: an optional `+`, then one or more digits of base `base`. -/
def readNat (base bound : Nat) (cs : List Char) : Except NumberFault Nat :=
  match cs with
  | [] => .error .empty
  | ['+'] => .error .invalidDigit
  | '+' :: rest => readDigits base bound 0 rest
  | _ => readDigits base bound 0 cs

end Courier
