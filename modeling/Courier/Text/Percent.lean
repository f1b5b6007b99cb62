import Courier.Text.Digits
import Courier.Text.Utf8

/-!
# Percent coding

A byte is written as `%` and two hexadecimal digits where it must not appear itself.
`Percent.decode` leaves a `%` alone that no two digits follow, and `Percent.decodeAll?` refuses it;
otherwise they agree (`decode_of_decodeAll?`).  `Percent.encode` writes all bytes of the given class
that way, and never the `%` itself, so what it writes need not read back if the text holds a `%`
already.
-/

namespace Courier.Percent

/-- The byte `%`. -/
def mark : UInt8 := 0x25

/-- The value of a byte that is a hexadecimal digit of either case. -/
def hexOf? (b : UInt8) : Option Nat := hexValue? (Char.ofNat b.toNat)

/-- The byte that `%` and two digits stand for. -/
def escaped? (b high low : UInt8) : Option UInt8 :=
  if b = mark then do
    let high ← hexOf? high
    let low ← hexOf? low
    return UInt8.ofNat (16 * high + low)
  else none

/-- Replaces every `%` and two digits by the byte they stand for. -/
def decode : List UInt8 → List UInt8
  | b :: high :: low :: rest =>
    match escaped? b high low with
    | some c => c :: decode rest
    | none => b :: decode (high :: low :: rest)
  | short => short

/-- Replaces every `%` and two digits by the byte they stand for, if no `%` is left alone. -/
def decodeAll? : List UInt8 → Option (List UInt8)
  | [] => some []
  | b :: rest =>
    if b = mark then
      match rest with
      | high :: low :: rest => do
        let c ← escaped? b high low
        return c :: (← decodeAll? rest)
      | _ => none
    else (decodeAll? rest).map (b :: ·)

theorem decode_of_ne_mark {b : UInt8} {bs : List UInt8} (h : b ≠ mark) :
    decode (b :: bs) = b :: decode bs := by
  match bs with
  | [] => simp [decode]
  | [low] => simp [decode]
  | high :: low :: rest => simp [decode, escaped?, h]

/-- Where no `%` is left alone, both readings agree. -/
theorem decode_of_decodeAll? {bs cs : List UInt8} (h : decodeAll? bs = some cs) :
    decode bs = cs := by
  fun_induction decodeAll? bs generalizing cs with
  | case1 => simpa [decode] using h
  | case2 high low rest ih =>
    obtain ⟨c, hc, h⟩ := Option.bind_eq_some_iff.1 h
    obtain ⟨rest', hrest, h⟩ := Option.bind_eq_some_iff.1 h
    obtain rfl := Option.some.inj h
    simp only [decode, hc, ih hrest]
  | case3 => simp at h
  | case4 b rest hb ih =>
    obtain ⟨rest', hrest, rfl⟩ := Option.map_eq_some_iff.1 h
    rw [decode_of_ne_mark hb, ih hrest]

/-- The text behind percent coding; `none` if its bytes are no UTF-8. -/
def decodeText? (s : String) : Option String := Utf8.decode? (decode (Utf8.encode s))

/-- The text behind percent coding. -/
def decodeText (cs : List Char) : Except Utf8.Fault String :=
  Utf8.decode (decode (Utf8.encode (String.ofList cs)))

/-- A digit of percent coding, in upper case. -/
def upperDigit (n : Nat) : Char := Char.ofNat (if n < 10 then 0x30 + n else 0x37 + n)

/-- Writes the bytes of a text, those outside `plain` as `%` and two digits. -/
def encode (plain : UInt8 → Bool) (s : String) : List Char :=
  (Utf8.encode s).flatMap fun b =>
    if plain b then [Char.ofNat b.toNat]
    else ['%', upperDigit (b.toNat / 16), upperDigit (b.toNat % 16)]

end Courier.Percent
