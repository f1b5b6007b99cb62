import Courier.Json.Scan

/-!
# JSON numbers

* `readNumber` gives the value: integers as far as 64 bits reach, every other number as a double.
* `skipUnsigned` only checks the form, after the sign.

A number whose digits go beyond 64 bits keeps the digits that fit, as its significand: further
integer digits only raise the power of ten, further fraction digits are dropped.  The double is the
significand, rounded once, then multiplied or divided by a power of ten and rounded again.  `-0` and
negative integers below the 64-bit range are doubles too.
-/

namespace Courier.Json

/-- The value of a number: an integer that is not negative and below `2 ^ 64`, a negative one from
`-2 ^ 63`, or a double. -/
inductive Number where
  | natural (n : Nat)
  | negative (i : Int)
  | float (f : Float)

/-! ### Runs of digits -/

/-- Takes digits from the front as long as the significand stays below `2 ^ 64`: the significand,
how many digits were taken, and the rest. -/
def takeDigits (significand count : Nat) : List UInt8 → Nat × Nat × List UInt8
  | [] => (significand, count, [])
  | b :: rest =>
    if isDigit b ∧ significand * 10 + digitOf b < wordBound then
      takeDigits (significand * 10 + digitOf b) (count + 1) rest
    else (significand, count, b :: rest)

/-- Drops digits from the front: how many, and the rest. -/
def dropDigits (count : Nat) : List UInt8 → Nat × List UInt8
  | [] => (count, [])
  | b :: rest => if isDigit b then dropDigits (count + 1) rest else (count, b :: rest)

/-- The bytes after the digits in front. -/
def skipDigits (s : List UInt8) : List UInt8 := s.dropWhile isDigit

theorem length_takeDigits_le (significand count : Nat) (s : List UInt8) :
    (takeDigits significand count s).2.2.length ≤ s.length := by
  fun_induction takeDigits significand count s with
  | case1 => simp
  | case2 _ _ _ _ _ ih => simp only [List.length_cons]; omega
  | case3 => simp

theorem length_dropDigits_le (count : Nat) (s : List UInt8) :
    (dropDigits count s).2.length ≤ s.length := by
  fun_induction dropDigits count s with
  | case1 => simp
  | case2 _ _ _ _ ih => simp only [List.length_cons]; omega
  | case3 => simp

theorem length_skipDigits_le (s : List UInt8) : (skipDigits s).length ≤ s.length :=
  (List.dropWhile_sublist isDigit).length_le

/-! ### Doubles -/

/-- The double nearest to a power of ten. -/
def powerOfTen (n : Nat) : Float := Float.ofScientific 1 false n

/-- Divides by `10 ^ e` in steps of at most `10 ^ 308`. -/
def divideByPower (f : Float) (e : Nat) : Float :=
  if h : e ≤ 308 then f / powerOfTen e
  else if f == 0 then f
  else divideByPower (f / powerOfTen 308) (e - 308)
  termination_by e
  decreasing_by omega

/-- The double for `significand · 10 ^ exponent`; `none` when it is too large. -/
def floatOfParts (isNegative : Bool) (significand : Nat) (exponent : Int) : Option Float :=
  let f := significand.toUInt64.toFloat
  -- A zero may have any power of ten; every other significand overflows above the largest.
  let magnitude? : Option Float :=
    if exponent < 0 then some (divideByPower f exponent.natAbs)
    else if exponent ≤ 308 then
      let product := f * powerOfTen exponent.natAbs
      if product.isInf then none else some product
    else if f == 0 then some f
    else none
  magnitude?.map fun m => if isNegative then -m else m

/-- The number for `significand · 10 ^ exponent`, read up to `rest`. -/
def finishFloat (isNegative : Bool) (significand : Nat) (exponent : Int) (rest : List UInt8) :
    Except Fault (Number × List UInt8) :=
  match floatOfParts isNegative significand exponent with
  | some f => .ok (.float f, rest)
  | none => .error (here .numberOutOfRange rest)

/-! ### Reading the parts -/

/-- The largest power of ten that is kept as it is written. -/
def maxPower : Nat := Nat.pow 2 31 - 1

/-- Reads the digits of a power of ten, with their value so far.  Once they go beyond `maxPower` the
number is zero or out of range. -/
def readPower (isNegative : Bool) (significand : Nat) (exponent : Int) (isDown : Bool)
    (power : Nat) : List UInt8 → Except Fault (Number × List UInt8)
  | [] => finishFloat isNegative significand
      (if isDown then exponent - power else exponent + power) []
  | b :: rest =>
    if isDigit b then
      if power * 10 + digitOf b ≤ maxPower then
        readPower isNegative significand exponent isDown (power * 10 + digitOf b) rest
      -- The value no longer depends on the power: it is zero or too large.
      else if significand ≠ 0 ∧ !isDown then .error (here .numberOutOfRange rest)
      else .ok (.float (if isNegative then -0.0 else 0.0), skipDigits rest)
    else
      finishFloat isNegative significand
        (if isDown then exponent - power else exponent + power) (b :: rest)

/-- Reads a power of ten after its sign; at least one digit must be there. -/
def readPowerDigits (isNegative : Bool) (significand : Nat) (exponent : Int) (isDown : Bool) :
    List UInt8 → Except Fault (Number × List UInt8)
  | [] => .error (here .endInValue [])
  | b :: rest =>
    if isDigit b then readPower isNegative significand exponent isDown (digitOf b) rest
    else .error (here .invalidNumber rest)

/-- Reads a power of ten after its mark. -/
def readExponent (isNegative : Bool) (significand : Nat) (exponent : Int) :
    List UInt8 → Except Fault (Number × List UInt8)
  | [] => .error (here .endInValue [])
  | b :: rest =>
    if b = plus then readPowerDigits isNegative significand exponent false rest
    else if b = minus then readPowerDigits isNegative significand exponent true rest
    else readPowerDigits isNegative significand exponent false (b :: rest)

/-- Ends a number that is no integer: a power of ten may follow. -/
def readFloatEnd (isNegative : Bool) (significand : Nat) (exponent : Int) :
    List UInt8 → Except Fault (Number × List UInt8)
  | [] => finishFloat isNegative significand exponent []
  | b :: rest =>
    if isExponentMark b then readExponent isNegative significand exponent rest
    else finishFloat isNegative significand exponent (b :: rest)

/-- Reads a fraction after its point; at least one digit must be there. -/
def readFraction (isNegative : Bool) (significand : Nat) (exponent : Int) (s : List UInt8) :
    Except Fault (Number × List UInt8) :=
  -- Digits that no longer fit add nothing to the value, and do not lower the power of ten.
  let (significand, taken, rest) := takeDigits significand 0 s
  let (dropped, rest) := dropDigits 0 rest
  if taken + dropped = 0 then
    .error (ahead (if rest.isEmpty then .endInValue else .invalidNumber) rest)
  else readFloatEnd isNegative significand (exponent - taken) rest

/-- Ends a number after its integer digits, all of which are in the significand. -/
def finishInteger (isNegative : Bool) (significand : Nat) (rest : List UInt8) :
    Number × List UInt8 :=
  if !isNegative then (.natural significand, rest)
  -- A negative zero is left to the doubles, which have one.
  else if 0 < significand ∧ significand ≤ signedBound then (.negative (-significand), rest)
  else (.float (-significand.toUInt64.toFloat), rest)

/-- Reads what follows the integer digits, `extra` of which went beyond 64 bits. -/
def readTail (isNegative : Bool) (significand extra : Nat) :
    List UInt8 → Except Fault (Number × List UInt8)
  | [] =>
    if extra = 0 then .ok (finishInteger isNegative significand [])
    else finishFloat isNegative significand extra []
  | b :: rest =>
    if b = point then readFraction isNegative significand extra rest
    else if isExponentMark b then readExponent isNegative significand extra rest
    else if extra = 0 then .ok (finishInteger isNegative significand (b :: rest))
    else finishFloat isNegative significand extra (b :: rest)

/-- Does a digit stand in front? -/
def startsWithDigit : List UInt8 → Bool
  | [] => false
  | b :: _ => isDigit b

/-- Reads a number after its sign. -/
def readUnsigned (isNegative : Bool) : List UInt8 → Except Fault (Number × List UInt8)
  | [] => .error (here .endInValue [])
  | b :: rest =>
    if b = zero then
      if startsWithDigit rest then .error (ahead .invalidNumber rest)
      else readTail isNegative 0 0 rest
    else if isDigit b then
      let (significand, _, rest) := takeDigits (digitOf b) 0 rest
      let (extra, rest) := dropDigits 0 rest
      readTail isNegative significand extra rest
    else .error (here .invalidNumber rest)

/-- Reads a number. -/
def readNumber : List UInt8 → Except Fault (Number × List UInt8)
  | [] => .error (here .endInValue [])
  | b :: rest => if b = minus then readUnsigned true rest else readUnsigned false (b :: rest)

/-! ### Skipping -/

/-- Skips a power of ten after its sign; at least one digit must be there. -/
def skipPowerDigits : List UInt8 → Except Fault (List UInt8)
  | [] => .error (here .invalidNumber [])
  | b :: rest => if isDigit b then .ok (skipDigits rest) else .error (here .invalidNumber rest)

/-- Skips a power of ten after its mark. -/
def skipExponent : List UInt8 → Except Fault (List UInt8)
  | [] => .error (here .invalidNumber [])
  | b :: rest => if b = plus ∨ b = minus then skipPowerDigits rest else skipPowerDigits (b :: rest)

/-- Skips what follows a run of digits: a power of ten, or nothing. -/
def skipFloatEnd : List UInt8 → Except Fault (List UInt8)
  | [] => .ok []
  | b :: rest => if isExponentMark b then skipExponent rest else .ok (b :: rest)

/-- Skips a fraction after its point; at least one digit must be there. -/
def skipFraction (s : List UInt8) : Except Fault (List UInt8) :=
  if startsWithDigit s then skipFloatEnd (skipDigits s) else .error (ahead .invalidNumber s)

/-- Skips what follows the integer digits. -/
def skipTail : List UInt8 → Except Fault (List UInt8)
  | [] => .ok []
  | b :: rest => if b = point then skipFraction rest else skipFloatEnd (b :: rest)

/-- Skips a number after its sign. -/
def skipUnsigned : List UInt8 → Except Fault (List UInt8)
  | [] => .error (here .invalidNumber [])
  | b :: rest =>
    if b = zero then
      if startsWithDigit rest then .error (ahead .invalidNumber rest) else skipTail rest
    else if isDigit b then skipTail (skipDigits rest)
    else .error (here .invalidNumber rest)

/-! ### What is left is shorter -/

theorem length_le_of_finishFloat {neg : Bool} {m : Nat} {e : Int} {s rest : List UInt8} {n : Number}
    (h : finishFloat neg m e s = .ok (n, rest)) : rest.length ≤ s.length := by
  unfold finishFloat at h
  split at h
  · simp only [Except.ok.injEq, Prod.mk.injEq] at h
    exact h.2 ▸ Nat.le_refl _
  · simp at h

theorem length_le_of_readPower {neg down : Bool} {m p : Nat} {e : Int} {s rest : List UInt8}
    {n : Number} (h : readPower neg m e down p s = .ok (n, rest)) : rest.length ≤ s.length := by
  induction s generalizing p with
  | nil => exact length_le_of_finishFloat h
  | cons b s ih =>
    simp only [readPower] at h
    split at h
    · split at h
      · exact Nat.le_succ_of_le (ih h)
      · split at h
        · simp at h
        · simp only [Except.ok.injEq, Prod.mk.injEq] at h
          obtain ⟨-, rfl⟩ := h
          exact Nat.le_succ_of_le (length_skipDigits_le s)
    · exact length_le_of_finishFloat h

theorem length_le_of_readPowerDigits {neg down : Bool} {m : Nat} {e : Int} {s rest : List UInt8}
    {n : Number} (h : readPowerDigits neg m e down s = .ok (n, rest)) :
    rest.length ≤ s.length := by
  cases s with
  | nil => simp [readPowerDigits] at h
  | cons b s =>
    simp only [readPowerDigits] at h
    split at h
    · exact Nat.le_succ_of_le (length_le_of_readPower h)
    · simp at h

theorem length_le_of_readExponent {neg : Bool} {m : Nat} {e : Int} {s rest : List UInt8}
    {n : Number} (h : readExponent neg m e s = .ok (n, rest)) : rest.length ≤ s.length := by
  cases s with
  | nil => simp [readExponent] at h
  | cons b s =>
    simp only [readExponent] at h
    split at h
    · exact Nat.le_succ_of_le (length_le_of_readPowerDigits h)
    · split at h
      · exact Nat.le_succ_of_le (length_le_of_readPowerDigits h)
      · exact length_le_of_readPowerDigits h

theorem length_le_of_readFloatEnd {neg : Bool} {m : Nat} {e : Int} {s rest : List UInt8}
    {n : Number} (h : readFloatEnd neg m e s = .ok (n, rest)) : rest.length ≤ s.length := by
  cases s with
  | nil => exact length_le_of_finishFloat h
  | cons b s =>
    simp only [readFloatEnd] at h
    split at h
    · exact Nat.le_succ_of_le (length_le_of_readExponent h)
    · exact length_le_of_finishFloat h

theorem length_le_of_readFraction {neg : Bool} {m : Nat} {e : Int} {s rest : List UInt8}
    {n : Number} (h : readFraction neg m e s = .ok (n, rest)) : rest.length ≤ s.length := by
  simp only [readFraction] at h
  split at h
  · simp at h
  · exact Nat.le_trans (length_le_of_readFloatEnd h)
      (Nat.le_trans (length_dropDigits_le _ _) (length_takeDigits_le _ _ _))

theorem length_le_of_readTail {neg : Bool} {m extra : Nat} {s rest : List UInt8} {n : Number}
    (h : readTail neg m extra s = .ok (n, rest)) : rest.length ≤ s.length := by
  have finish : ∀ {t : List UInt8}, finishInteger neg m t = (n, rest) → rest.length ≤ t.length := by
    intro t ht
    unfold finishInteger at ht
    repeat' split at ht
    all_goals
      simp only [Prod.mk.injEq] at ht
      exact ht.2 ▸ Nat.le_refl _
  cases s with
  | nil =>
    simp only [readTail] at h
    split at h
    · exact finish (Except.ok.inj h)
    · exact length_le_of_finishFloat h
  | cons b s =>
    simp only [readTail] at h
    split at h
    · exact Nat.le_succ_of_le (length_le_of_readFraction h)
    · split at h
      · exact Nat.le_succ_of_le (length_le_of_readExponent h)
      · split at h
        · exact finish (Except.ok.inj h)
        · exact length_le_of_finishFloat h

theorem length_lt_of_readUnsigned {neg : Bool} {s rest : List UInt8} {n : Number}
    (h : readUnsigned neg s = .ok (n, rest)) : rest.length < s.length := by
  cases s with
  | nil => simp [readUnsigned] at h
  | cons b s =>
    simp only [readUnsigned] at h
    split at h
    · split at h
      · simp at h
      · exact Nat.lt_succ_of_le (length_le_of_readTail h)
    · split at h
      · exact Nat.lt_succ_of_le (Nat.le_trans (length_le_of_readTail h)
          (Nat.le_trans (length_dropDigits_le _ _) (length_takeDigits_le _ _ _)))
      · simp at h

theorem length_lt_of_readNumber {s rest : List UInt8} {n : Number}
    (h : readNumber s = .ok (n, rest)) : rest.length < s.length := by
  cases s with
  | nil => simp [readNumber] at h
  | cons b s =>
    simp only [readNumber] at h
    split at h
    · exact Nat.lt_succ_of_lt (length_lt_of_readUnsigned h)
    · exact length_lt_of_readUnsigned h

theorem length_le_of_skipPowerDigits {s rest : List UInt8} (h : skipPowerDigits s = .ok rest) :
    rest.length ≤ s.length := by
  cases s with
  | nil => simp [skipPowerDigits] at h
  | cons b s =>
    simp only [skipPowerDigits] at h
    split at h
    · exact Except.ok.inj h ▸ Nat.le_succ_of_le (length_skipDigits_le s)
    · simp at h

theorem length_le_of_skipExponent {s rest : List UInt8} (h : skipExponent s = .ok rest) :
    rest.length ≤ s.length := by
  cases s with
  | nil => simp [skipExponent] at h
  | cons b s =>
    simp only [skipExponent] at h
    split at h
    · exact Nat.le_succ_of_le (length_le_of_skipPowerDigits h)
    · exact length_le_of_skipPowerDigits h

theorem length_le_of_skipFloatEnd {s rest : List UInt8} (h : skipFloatEnd s = .ok rest) :
    rest.length ≤ s.length := by
  cases s with
  | nil => simp_all [skipFloatEnd]
  | cons b s =>
    simp only [skipFloatEnd] at h
    split at h
    · exact Nat.le_succ_of_le (length_le_of_skipExponent h)
    · exact Except.ok.inj h ▸ Nat.le_refl _

theorem length_le_of_skipTail {s rest : List UInt8} (h : skipTail s = .ok rest) :
    rest.length ≤ s.length := by
  cases s with
  | nil => simp_all [skipTail]
  | cons b s =>
    simp only [skipTail] at h
    split at h
    · simp only [skipFraction] at h
      split at h
      · exact Nat.le_succ_of_le (Nat.le_trans (length_le_of_skipFloatEnd h)
          (length_skipDigits_le s))
      · simp at h
    · exact length_le_of_skipFloatEnd h

theorem length_lt_of_skipUnsigned {s rest : List UInt8} (h : skipUnsigned s = .ok rest) :
    rest.length < s.length := by
  cases s with
  | nil => simp [skipUnsigned] at h
  | cons b s =>
    simp only [skipUnsigned] at h
    split at h
    · split at h
      · simp at h
      · exact Nat.lt_succ_of_le (length_le_of_skipTail h)
    · split at h
      · exact Nat.lt_succ_of_le (Nat.le_trans (length_le_of_skipTail h) (length_skipDigits_le s))
      · simp at h

end Courier.Json
