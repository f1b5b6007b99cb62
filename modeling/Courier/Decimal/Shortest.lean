import Courier.Text.Digits

/-!
# The shortest decimal of a binary fraction

A positive double is `m · 2 ^ q` (`Binary`).  The reals that round to it form an interval around it,
half a step wide on each side, a quarter below when `m` is the least significand of its binade; the
ends belong to it exactly when `m` is even.  `Binary.shortest` is the decimal with the fewest digits
in that interval, and of two with equally many digits the nearer one, an exact tie going to the even
digit.

For a given number of digits only the two neighbours of the value on that decimal grid can be the
nearest points of the grid, so the search tries 1, 2, …, 17 digits and two candidates each.  All of
it is exact arithmetic on natural numbers.
-/

namespace Courier

/-- A positive binary fraction `significand · 2 ^ exponent`. -/
structure Binary where
  significand : Nat
  exponent : Int
  deriving DecidableEq, Repr

/-- A decimal `digits · 10 ^ exponent`. -/
structure Decimal where
  digits : Nat
  exponent : Int
  deriving DecidableEq, Repr

namespace Binary

/-! ### Doubles -/

/-- The exponent of the least positive double. -/
def leastExponent : Int := -1074

/-- The least significand of a double that is not among the very smallest. -/
def significandUnit : Nat := Nat.pow 2 52

/-- The number of exponents of doubles. -/
def exponentUnit : Nat := Nat.pow 2 11

/-- The magnitude of a finite double that is not zero, from its bits without the sign. -/
def ofBits (bits : Nat) : Binary :=
  let field : Nat := bits / significandUnit % exponentUnit
  let fraction : Nat := bits % significandUnit
  if field = 0 then ⟨fraction, leastExponent⟩
  else ⟨significandUnit + fraction, leastExponent + field - 1⟩

/-! ### The rounding interval, in quarters of a step -/

/-- Does the step to the next smaller double have half the size of the step upwards? -/
def isNarrowBelow (x : Binary) : Bool :=
  x.significand = significandUnit && leastExponent < x.exponent

/-- The lower end of the interval, in units of `2 ^ (exponent - 2)`. -/
def lower (x : Binary) : Nat := 4 * x.significand - if x.isNarrowBelow then 1 else 2

/-- The upper end of the interval, in units of `2 ^ (exponent - 2)`. -/
def upper (x : Binary) : Nat := 4 * x.significand + 2

/-- The two factors that bring the decimal grid of unit `10 ^ e` and the binary unit
`2 ^ (exponent - 2)` to one scale: `d · 10 ^ e` against `k · 2 ^ (exponent - 2)` is
`d · scale.1` against `k · scale.2`. -/
def scale (x : Binary) (e : Int) : Nat × Nat :=
  let b := x.exponent - 2
  (Nat.pow 10 e.toNat * Nat.pow 2 (-b).toNat, Nat.pow 2 b.toNat * Nat.pow 10 (-e).toNat)

/-- Does the decimal `d · 10 ^ e` round to the fraction? -/
def contains (x : Binary) (d : Nat) (e : Int) : Bool :=
  let s := x.scale e
  let v := d * s.1
  if x.significand % 2 = 0 then x.lower * s.2 ≤ v && v ≤ x.upper * s.2
  else x.lower * s.2 < v && v < x.upper * s.2

/-! ### Grids -/

/-- The number of decimal digits of a positive number. -/
def digitCount (n : Nat) : Nat := (digits 10 n).length

/-- The `e` with `10 ^ e ≤ x < 10 ^ (e + 1)`. -/
def magnitude (x : Binary) : Int :=
  let num := x.significand * Nat.pow 2 x.exponent.toNat
  let den := Nat.pow 2 (-x.exponent).toNat
  -- The digit counts give the exponent, or one more.
  let guess : Int := digitCount num - digitCount den
  if den * Nat.pow 10 guess.toNat ≤ num * Nat.pow 10 (-guess).toNat then guess else guess - 1

/-- Of the two neighbours of the value on the grid of unit `10 ^ e`, the one that rounds to the
fraction; the nearer if both do, the even one if both are equally near. -/
def onGrid (x : Binary) (e : Int) : Option Decimal :=
  let s := x.scale e
  -- The value lies between `below` and `above`, `down` and `up` away from them.
  let v := 4 * x.significand * s.2
  let below := v / s.1
  let above := below + 1
  let down := v - below * s.1
  let up := above * s.1 - v
  match x.contains below e, x.contains above e with
  | true, true =>
    if down < up || (down == up && below % 2 == 0) then some ⟨below, e⟩ else some ⟨above, e⟩
  | true, false => some ⟨below, e⟩
  | false, true => some ⟨above, e⟩
  | false, false => none

/-- The shortest decimal that rounds to the fraction.  Seventeen digits always suffice. -/
def shortest (x : Binary) : Decimal :=
  let top := x.magnitude
  match (List.range 17).findSome? fun (n : Nat) => x.onGrid (top - n) with
  | some d => d
  | none => ⟨0, 0⟩

end Binary

/-! ### Texts -/

namespace Decimal

/-- Moves trailing zeros of the digits into the exponent. -/
def normalize : (fuel : Nat) → Decimal → Decimal
  | 0, d => d
  | fuel + 1, d =>
    if d.digits ≠ 0 ∧ d.digits % 10 = 0 then normalize fuel ⟨d.digits / 10, d.exponent + 1⟩ else d

/-- Where positional notation ends: values from `10 ^ lowest` and below `10 ^ beyond` are written
with a point among their digits, all others with a power of ten. -/
structure Style where
  lowest : Int
  beyond : Int
  deriving Repr

/-- Numbers in reports: positional from 0.00001 and below 10 ^ 16. -/
def Style.report : Style := ⟨-5, 16⟩

/-- A positive decimal in the given style.  Positional texts always have a point with a digit
on each side; a power of ten carries its sign. -/
def render (style : Style) (d : Decimal) : String :=
  let d := normalize 20 d
  let ds := Courier.digits 10 d.digits
  let point : Int := ds.length + d.exponent
  let zeros (n : Nat) : List Char := List.replicate n '0'
  let chars : List Char :=
    if style.lowest < point ∧ point ≤ style.beyond then
      if point ≤ 0 then '0' :: '.' :: zeros (-point).toNat ++ ds
      else if ds.length ≤ point.toNat then ds ++ zeros (point.toNat - ds.length) ++ ['.', '0']
      else ds.take point.toNat ++ '.' :: ds.drop point.toNat
    else
      let mantissa := match ds with
        | first :: second :: rest => first :: '.' :: second :: rest
        | ds => ds
      let power := point - 1
      mantissa ++ 'e' :: (if power < 0 then '-' else '+') :: Courier.digits 10 power.natAbs
  String.ofList chars

end Decimal

/-- The place of the sign among the bits of a double. -/
def signBit : Nat := Nat.pow 2 63

/-- The text of a finite double in the style of reports. -/
def floatText (f : Float) : String :=
  let bits := f.toBits.toNat
  let sign := if signBit ≤ bits then "-" else ""
  let rest := bits % signBit
  if rest = 0 then sign ++ "0.0"
  else sign ++ (Binary.ofBits rest).shortest.render .report

end Courier
