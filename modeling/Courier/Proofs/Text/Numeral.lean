import Courier.Text.Digits

/-!
# Numerals

A numeral is an optional plus sign and then digits of ASCII, at least one (`IsNumeral`).  Leading
zeros count for nothing, so numerals of one number may have any length.

`readNat` reads the numerals of the numbers below its bound, and nothing else
(`readNat_eq_ok_iff`).  It gives up at the first digit that takes it to the bound; nothing is lost
there, since more digits make no number smaller (`le_ofDigitChars`).
-/

namespace Courier

/-- The text is a numeral of `n`: an optional plus sign, and digits that denote `n` in base ten. -/
def IsNumeral (text : String) (n : Nat) : Prop :=
  ∃ digits : List Char, (text.toList = digits ∨ text.toList = '+' :: digits) ∧ digits ≠ [] ∧
    (∀ c ∈ digits, c.isDigit) ∧ Nat.ofDigitChars 10 digits 0 = n

/-! ### Digits -/

/-- The digits of base ten are those of ASCII. -/
theorem digitValue?_ten (c : Char) :
    digitValue? 10 c = if c.isDigit then some (c.toNat - '0'.toNat) else none := by
  have hzero : '0'.toNat = 0x30 := rfl
  have hnine : '9'.toNat = 0x39 := rfl
  simp only [digitValue?, hexValue?, Char.isDigit_iff_toNat, hzero, hnine, Bool.and_eq_true,
    decide_eq_true_eq]
  generalize c.toNat = n
  by_cases hn : 0x30 ≤ n ∧ n ≤ 0x39
  · have hlt : n - 0x30 < 10 := by omega
    rw [if_pos hn, if_pos hn, Option.filter_some, if_pos (decide_eq_true hlt)]
  · -- A letter counts for ten at least.
    rw [if_neg hn, if_neg hn, Option.filter_eq_none_iff]
    intro d hd
    rw [decide_eq_true_eq, Nat.not_lt]
    split at hd
    · obtain rfl := Option.some.inj hd
      omega
    · split at hd
      · obtain rfl := Option.some.inj hd
        omega
      · cases hd

theorem le_ofDigitChars (digits : List Char) (value : Nat) :
    value ≤ Nat.ofDigitChars 10 digits value := by
  induction digits generalizing value with
  | nil => exact Nat.le_refl value
  | cons c digits ih =>
    rw [Nat.ofDigitChars_cons]
    exact Nat.le_trans (by omega) (ih _)

theorem readDigits_eq_ok_iff {bound value n : Nat} {digits : List Char} (h : value < bound) :
    readDigits 10 bound value digits = .ok n ↔
      (∀ c ∈ digits, c.isDigit) ∧ Nat.ofDigitChars 10 digits value = n ∧ n < bound := by
  induction digits generalizing value with
  | nil =>
    rw [readDigits, Nat.ofDigitChars_nil, Except.ok.injEq]
    constructor
    · rintro rfl
      exact ⟨nofun, rfl, h⟩
    · exact fun hn => hn.2.1
  | cons c digits ih =>
    rw [readDigits, digitValue?_ten, Nat.ofDigitChars_cons, List.forall_mem_cons,
      Nat.mul_comm 10 value]
    by_cases hc : c.isDigit
    · simp only [hc, if_true, true_and]
      split
      · rename_i hlt
        exact ih hlt
      · rename_i hge
        -- The bound is reached already, and the other digits do not lead back.
        have hle := le_ofDigitChars digits (value * 10 + (c.toNat - '0'.toNat))
        constructor
        · nofun
        · rintro ⟨-, rfl, hlt⟩
          exact absurd (Nat.lt_of_le_of_lt hle hlt) hge
    · simp only [hc]
      constructor
      · nofun
      · exact fun hn => absurd hn.1.1 Bool.false_ne_true

/-! ### Numerals -/

theorem readNat_plus {base bound : Nat} {digits : List Char} (h : digits ≠ []) :
    readNat base bound ('+' :: digits) = readDigits base bound 0 digits := by
  cases digits with
  | nil => exact absurd rfl h
  | cons c rest => rfl

theorem readNat_of_head?_ne {base bound : Nat} {digits : List Char} (h : digits ≠ [])
    (hplus : digits.head? ≠ some '+') :
    readNat base bound digits = readDigits base bound 0 digits := by
  unfold readNat
  split
  · exact absurd rfl h
  · exact absurd rfl hplus
  · exact absurd rfl hplus
  · rfl

/-- The numerals of the numbers below the bound are read, and nothing else. -/
theorem readNat_eq_ok_iff {bound n : Nat} {text : String} (h : 0 < bound) :
    readNat 10 bound text.toList = .ok n ↔ IsNumeral text n ∧ n < bound := by
  unfold IsNumeral
  generalize text.toList = cs
  constructor
  · intro hread
    unfold readNat at hread
    split at hread
    · cases hread
    · cases hread
    · rename_i digits hne
      obtain ⟨hdigits, hvalue, hlt⟩ := (readDigits_eq_ok_iff h).1 hread
      exact ⟨⟨digits, .inr rfl, fun hnil => hne (hnil ▸ rfl), hdigits, hvalue⟩, hlt⟩
    · rename_i hne _ _
      obtain ⟨hdigits, hvalue, hlt⟩ := (readDigits_eq_ok_iff h).1 hread
      exact ⟨⟨cs, .inl rfl, hne, hdigits, hvalue⟩, hlt⟩
  · rintro ⟨⟨digits, hform, hne, hdigits, hvalue⟩, hlt⟩
    have hread : readDigits 10 bound 0 digits = .ok n :=
      (readDigits_eq_ok_iff h).2 ⟨hdigits, hvalue, hlt⟩
    have hplus : digits.head? ≠ some '+' := by
      intro hhead
      exact absurd (hdigits '+' (List.mem_of_mem_head? hhead)) (by decide)
    obtain rfl | rfl := hform
    · rw [readNat_of_head?_ne hne hplus, hread]
    · rw [readNat_plus hne, hread]

end Courier
