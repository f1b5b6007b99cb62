import Courier.Proofs.Text.Utf8

/-!
# The order of bytes

Strings are in the order of their UTF-8 bytes, compared from the left (`encode_lt_encode_iff`).

The form of a character is made of digits of its code point in base 64: the last ones stand in bytes
of their own (`continuing`), and the others stand in the first byte (`lead`), with a mark that tells
how many bytes follow.  A wider form has the larger first byte (`lead_lt_lead`), and forms of one
width are compared as their digits are (`continuing_append_lt`).  So the first character in which
two strings differ decides (`utf8EncodeChar_append_lt`), whatever stands behind it.
-/

namespace Courier.Utf8

/-! ### The form of a code point -/

theorem val_toNat_lt (c : Char) : c.val.toNat < 0x110000 := by
  rcases c.valid with h | h
  · exact Nat.lt_trans h (by decide)
  · exact h.2

/-- The number of bytes that continue the form of a code point. -/
def width (n : Nat) : Nat :=
  if n ≤ 0x7F then 0 else if n ≤ 0x7FF then 1 else if n ≤ 0xFFFF then 2 else 3

/-- What the first byte of a form of that width has beside digits. -/
def mark : (width : Nat) → Nat
  | 0 => 0
  | 1 => 0xC0
  | 2 => 0xE0
  | _ => 0xF0

/-- The digits in base 64 but the last ones. -/
def leading : (width n : Nat) → Nat
  | 0, n => n
  | width + 1, n => leading width (n / 64)

/-- The first byte of the form of a code point: its leading digits, and the mark of the width. -/
def lead (n : Nat) : Nat := leading (width n) n + mark (width n)

/-- The last digits in base 64, as bytes that continue a character. -/
def continuing : (width n : Nat) → List UInt8
  | 0, _ => []
  | width + 1, n => continuing width (n / 64) ++ [UInt8.ofNat (n % 64 + 0x80)]

theorem lead_cases (n : Nat) :
    (n ≤ 0x7F ∧ width n = 0 ∧ lead n = n) ∨
    (0x7F < n ∧ n ≤ 0x7FF ∧ width n = 1 ∧ lead n = n / 64 + 0xC0) ∨
    (0x7FF < n ∧ n ≤ 0xFFFF ∧ width n = 2 ∧ lead n = n / 64 / 64 + 0xE0) ∨
    (0xFFFF < n ∧ width n = 3 ∧ lead n = n / 64 / 64 / 64 + 0xF0) := by
  have hlead : lead n = leading (width n) n + mark (width n) := rfl
  by_cases hone : n ≤ 0x7F
  · have hwidth : width n = 0 := if_pos hone
    rw [hwidth] at hlead
    exact .inl ⟨hone, hwidth, hlead⟩
  · by_cases htwo : n ≤ 0x7FF
    · have hwidth : width n = 1 := by rw [width, if_neg hone, if_pos htwo]
      rw [hwidth] at hlead
      exact .inr (.inl ⟨Nat.lt_of_not_le hone, htwo, hwidth, hlead⟩)
    · by_cases hthree : n ≤ 0xFFFF
      · have hwidth : width n = 2 := by rw [width, if_neg hone, if_neg htwo, if_pos hthree]
        rw [hwidth] at hlead
        exact .inr (.inr (.inl ⟨Nat.lt_of_not_le htwo, hthree, hwidth, hlead⟩))
      · have hwidth : width n = 3 := by rw [width, if_neg hone, if_neg htwo, if_neg hthree]
        rw [hwidth] at hlead
        exact .inr (.inr (.inr ⟨Nat.lt_of_not_le hthree, hwidth, hlead⟩))

theorem lead_lt {n : Nat} (h : n < 0x110000) : lead n < 0x100 := by
  have := lead_cases n
  omega

/-- The wider form has the larger first byte. -/
theorem lead_lt_lead {m n : Nat} (h : m < n) (hwidth : width m ≠ width n) : lead m < lead n := by
  have hm := lead_cases m
  have hn := lead_cases n
  omega

/-- The form of a character is its first byte and the bytes of its last digits. -/
theorem utf8EncodeChar_eq_lead (c : Char) :
    String.utf8EncodeChar c =
      UInt8.ofNat (lead c.val.toNat) :: continuing (width c.val.toNat) c.val.toNat := by
  have hlt := val_toNat_lt c
  have hthree (n : Nat) : n / 4096 = n / 64 / 64 := (Nat.div_div_eq_div_mul n 64 64).symm
  have hfour (n : Nat) : n / 262144 = n / 64 / 64 / 64 := by
    rw [Nat.div_div_eq_div_mul, Nat.div_div_eq_div_mul]
  simp only [String.utf8EncodeChar, hthree, hfour]
  generalize c.val.toNat = n at hlt
  rcases lead_cases n with ⟨hn, hwidth, hlead⟩ | ⟨hgt, hn, hwidth, hlead⟩ |
    ⟨hgt, hn, hwidth, hlead⟩ | ⟨hgt, hwidth, hlead⟩
  · rw [if_pos hn, hwidth, hlead, continuing]
  · have hdigit : n / 64 % 32 = n / 64 := Nat.mod_eq_of_lt (by omega)
    rw [if_neg (by omega), if_pos hn, hwidth, hlead, hdigit]
    rfl
  · have hdigit : n / 64 / 64 % 16 = n / 64 / 64 := Nat.mod_eq_of_lt (by omega)
    rw [if_neg (by omega), if_neg (by omega), if_pos hn, hwidth, hlead, hdigit]
    rfl
  · have hdigit : n / 64 / 64 / 64 % 8 = n / 64 / 64 / 64 := Nat.mod_eq_of_lt (by omega)
    rw [if_neg (by omega), if_neg (by omega), if_neg (by omega), hwidth, hlead, hdigit]
    rfl

/-! ### Order -/

/-- Of two numbers the smaller one is smaller in its leading digits, or else in its last ones. -/
theorem continuing_append_lt (k : Nat) {m n : Nat} (h : m < n) (s t : List UInt8) :
    leading k m < leading k n ∨
      leading k m = leading k n ∧ continuing k m ++ s < continuing k n ++ t := by
  induction k generalizing m n s t with
  | zero => exact .inl h
  | succ k ih =>
    rw [leading, leading, continuing, continuing, List.append_assoc, List.append_assoc]
    by_cases hdiv : m / 64 < n / 64
    · exact ih hdiv _ _
    · have heq : m / 64 = n / 64 := by omega
      have hlast : m % 64 + 0x80 < n % 64 + 0x80 := by omega
      have hbyte : n % 64 + 0x80 < 256 := by omega
      rw [heq]
      refine .inr ⟨rfl, List.append_left_lt (List.cons_lt_cons_iff.2 (.inl ?_))⟩
      exact (UInt8.ofNat_lt_iff_lt (Nat.lt_trans hlast hbyte) hbyte).2 hlast

/-- A smaller character has the smaller form, whatever stands behind the two. -/
theorem utf8EncodeChar_append_lt {c d : Char} (h : c < d) (s t : List UInt8) :
    String.utf8EncodeChar c ++ s < String.utf8EncodeChar d ++ t := by
  have hlt : c.val.toNat < d.val.toNat := h
  have hbyte : lead d.val.toNat < 256 := lead_lt (val_toNat_lt d)
  rw [utf8EncodeChar_eq_lead c, utf8EncodeChar_eq_lead d]
  generalize c.val.toNat = m at hlt
  generalize d.val.toNat = n at hlt hbyte
  have hfirst (h : lead m < lead n) : UInt8.ofNat (lead m) < UInt8.ofNat (lead n) :=
    (UInt8.ofNat_lt_iff_lt (Nat.lt_trans h hbyte) hbyte).2 h
  rw [List.cons_append, List.cons_append, List.cons_lt_cons_iff]
  by_cases hwidth : width m = width n
  · obtain hdigits | ⟨hdigits, hlast⟩ := continuing_append_lt (width n) hlt s t
    · exact .inl (hfirst (by rw [lead, lead, hwidth]; omega))
    · exact .inr ⟨by rw [lead, lead, hwidth, hdigits], by rw [hwidth]; exact hlast⟩
  · exact .inl (hfirst (lead_lt_lead hlt hwidth))

theorem flatMap_utf8EncodeChar_lt {cs ds : List Char} (h : cs < ds) :
    cs.flatMap String.utf8EncodeChar < ds.flatMap String.utf8EncodeChar := by
  induction h with
  | nil =>
    rename_i d ds
    rw [List.flatMap_cons, utf8EncodeChar_eq_lead]
    exact List.nil_lt_cons _ _
  | rel hcd =>
    rw [List.flatMap_cons, List.flatMap_cons]
    exact utf8EncodeChar_append_lt hcd _ _
  | cons _ ih => exact List.append_left_lt ih

/-- Strings are in the order of their bytes. -/
theorem encode_lt_encode_iff {s t : String} : encode s < encode t ↔ s < t := by
  have hmono {s t : String} (h : s < t) : encode s < encode t := by
    rw [encode_eq_flatMap, encode_eq_flatMap]
    exact flatMap_utf8EncodeChar_lt h
  constructor
  · intro h
    obtain hst | rfl | hst := Std.lt_trichotomy s t
    · exact hst
    · exact absurd h (List.lt_irrefl (encode s))
    · exact absurd h (List.lt_asymm (hmono hst))
  · exact hmono

end Courier.Utf8
