import Courier.Text.Blank
import Courier.Text.Digits
import Courier.Text.Split

/-!
# Written texts are cut where they were joined

A header is written as pieces with a separator in between, and read by cutting it at the separator.
Where no piece holds the separator the cuts give the pieces back: `splitOn_intercalate`,
`splitTerminated_intercalate`, `cutAt_append_cons`.

The numbers among the pieces have a fixed number of hexadecimal digits, and are read as what was
written: `readNat_hexFixedDigits`.
-/

namespace Courier

/-! ### Separators -/

section Split

variable {sep : Char} {cs piece rest : List Char} {pieces : List (List Char)}

theorem splitOn_of_not_mem (h : sep ∉ cs) : splitOn sep cs = [cs] := by
  induction cs with
  | nil => rfl
  | cons c cs ih =>
    have hc : c ≠ sep := fun heq => h (heq ▸ List.mem_cons_self ..)
    have hcs : sep ∉ cs := fun hmem => h (List.mem_cons_of_mem _ hmem)
    rw [splitOn, if_neg hc, ih hcs]

theorem splitOn_append_cons (h : sep ∉ piece) :
    splitOn sep (piece ++ sep :: rest) = piece :: splitOn sep rest := by
  induction piece with
  | nil => exact if_pos rfl
  | cons c piece ih =>
    have hc : c ≠ sep := fun heq => h (heq ▸ List.mem_cons_self ..)
    have hpiece : sep ∉ piece := fun hmem => h (List.mem_cons_of_mem _ hmem)
    rw [List.cons_append, splitOn, if_neg hc, ih hpiece]

/-- A text that was joined is cut into the pieces it was joined from. -/
theorem splitOn_intercalate (h : ∀ piece ∈ pieces, sep ∉ piece) (hne : pieces ≠ []) :
    splitOn sep ([sep].intercalate pieces) = pieces := by
  induction pieces with
  | nil => exact absurd rfl hne
  | cons piece pieces ih =>
    have hpiece : sep ∉ piece := h piece (List.mem_cons_self ..)
    cases pieces with
    | nil => rw [List.intercalate_singleton, splitOn_of_not_mem hpiece]
    | cons piece' pieces =>
      have hpieces : ∀ p ∈ piece' :: pieces, sep ∉ p := fun p hp => h p (List.mem_cons_of_mem _ hp)
      rw [List.intercalate_cons_cons, List.append_assoc, List.singleton_append,
        splitOn_append_cons hpiece, ih hpieces (List.cons_ne_nil _ _)]

/-- The same for a separator that may also end the text, unless the last piece is empty. -/
theorem splitTerminated_intercalate (h : ∀ piece ∈ pieces, sep ∉ piece)
    (hlast : pieces.getLast? ≠ some []) :
    splitTerminated sep ([sep].intercalate pieces) = pieces := by
  cases pieces with
  | nil => rfl
  | cons piece pieces =>
    rw [splitTerminated, splitOn_intercalate h (List.cons_ne_nil _ _), if_neg hlast]

theorem cutAt_append_cons (h : sep ∉ piece) :
    cutAt sep (piece ++ sep :: rest) = some (piece, rest) := by
  induction piece with
  | nil => exact if_pos rfl
  | cons c piece ih =>
    have hc : c ≠ sep := fun heq => h (heq ▸ List.mem_cons_self ..)
    have hpiece : sep ∉ piece := fun hmem => h (List.mem_cons_of_mem _ hmem)
    rw [List.cons_append, cutAt, if_neg hc, ih hpiece]
    rfl

/-- Every character of a text is in a piece of it, or is the separator. -/
theorem mem_piece_or_eq (sep : Char) {c : Char} (h : c ∈ cs) :
    (∃ piece ∈ splitOn sep cs, c ∈ piece) ∨ c = sep := by
  rw [← intercalate_splitOn sep cs] at h
  generalize splitOn sep cs = pieces at h ⊢
  induction pieces with
  | nil => cases h
  | cons piece pieces ih =>
    cases pieces with
    | nil =>
      rw [List.intercalate_singleton] at h
      exact Or.inl ⟨piece, List.mem_cons_self .., h⟩
    | cons piece' pieces =>
      rw [List.intercalate_cons_cons, List.mem_append, List.mem_append, List.mem_singleton] at h
      rcases h with (hmem | heq) | hrest
      · exact Or.inl ⟨piece, List.mem_cons_self .., hmem⟩
      · exact Or.inr heq
      · rcases ih hrest with ⟨p, hp, hmem⟩ | heq
        · exact Or.inl ⟨p, List.mem_cons_of_mem _ hp, hmem⟩
        · exact Or.inr heq

end Split

/-! ### Blanks -/

/-- A text without blanks is trimmed. -/
theorem trim_eq_self {s : String} (h : ∀ c ∈ s.toList, isBlank c = false) : trim s = s := by
  have hdrop (cs : List Char) (hcs : ∀ c ∈ cs, isBlank c = false) : cs.dropWhile isBlank = cs := by
    cases cs with
    | nil => rfl
    | cons c cs =>
      exact List.dropWhile_cons_of_neg (ne_true_of_eq_false (hcs c (List.mem_cons_self ..)))
  have hreverse : s.toList.reverse.dropWhile isBlank = s.toList.reverse :=
    hdrop _ fun c hc => h c (List.mem_reverse.1 hc)
  rw [trim, trimStart, hdrop _ h, trimEnd, hreverse, List.reverse_reverse, String.ofList_toList]

/-! ### Hexadecimal digits -/

/-- A character that hexadecimal numbers are written with. -/
def IsHexDigit (c : Char) : Prop := ∃ n < 16, c = digitChar n

theorem isHexDigit_of_mem {width n : Nat} {c : Char} (h : c ∈ hexFixedDigits width n) :
    IsHexDigit c := by
  induction width generalizing n with
  | zero => cases h
  | succ width ih =>
    rcases List.mem_append.1 h with hmem | hlast
    · exact ih hmem
    · exact ⟨n % 16, Nat.mod_lt n (by decide), List.mem_singleton.1 hlast⟩

namespace IsHexDigit

variable {c : Char}

theorem ne_plus (h : IsHexDigit c) : c ≠ '+' := by
  obtain ⟨n, hn, rfl⟩ := h
  revert n
  decide

theorem ne_minus (h : IsHexDigit c) : c ≠ '-' := by
  obtain ⟨n, hn, rfl⟩ := h
  revert n
  decide

theorem isBlank_eq (h : IsHexDigit c) : isBlank c = false := by
  obtain ⟨n, hn, rfl⟩ := h
  revert n
  decide

theorem isUpper_eq (h : IsHexDigit c) : c.isUpper = false := by
  obtain ⟨n, hn, rfl⟩ := h
  revert n
  decide

end IsHexDigit

/-- The digits of a number add it to the value read so far. -/
theorem readDigits_hexFixedDigits {width n bound value : Nat} (rest : List Char)
    (hn : n < Nat.pow 16 width) (hbound : value * Nat.pow 16 width + n < bound) :
    readDigits 16 bound value (hexFixedDigits width n ++ rest) =
      readDigits 16 bound (value * Nat.pow 16 width + n) rest := by
  induction width generalizing n rest with
  | zero =>
    have hzero : n = 0 := Nat.lt_one_iff.1 hn
    rw [hzero, hexFixedDigits, Nat.pow_eq, Nat.pow_zero, Nat.mul_one]
    rfl
  | succ width ih =>
    have hpow : value * Nat.pow 16 (width + 1) = value * Nat.pow 16 width * 16 :=
      (Nat.mul_assoc ..).symm
    have hfront : n / 16 < Nat.pow 16 width := Nat.div_lt_of_lt_mul (Nat.mul_comm .. ▸ hn)
    have hvalue : (value * Nat.pow 16 width + n / 16) * 16 + n % 16 =
        value * Nat.pow 16 (width + 1) + n := by
      rw [hpow]
      omega
    have hdigit : digitValue? 16 (digitChar (n % 16)) = some (n % 16) :=
      digitValue?_digitChar (Nat.mod_lt n (by decide)) (Nat.le_refl 16)
    rw [hexFixedDigits, List.append_assoc, ih _ hfront (by omega), List.singleton_append,
      readDigits, hdigit]
    simp only [hvalue, hbound, if_true]

/-- A number is read as it was written. -/
theorem readNat_hexFixedDigits {width n bound : Nat} (hwidth : width ≠ 0)
    (hn : n < Nat.pow 16 width) (hbound : n < bound) :
    readNat 16 bound (hexFixedDigits width n) = .ok n := by
  have hdigits : readDigits 16 bound 0 (hexFixedDigits width n) = .ok n := by
    have hstart : 0 * Nat.pow 16 width + n < bound := by omega
    have hread := readDigits_hexFixedDigits [] hn hstart
    rw [List.append_nil, Nat.zero_mul, Nat.zero_add] at hread
    exact hread
  have hlength := length_hexFixedDigits width n
  have hmem (c : Char) (hc : c ∈ hexFixedDigits width n) : c ≠ '+' := (isHexDigit_of_mem hc).ne_plus
  generalize hexFixedDigits width n = cs at hdigits hlength hmem
  cases cs with
  | nil => exact absurd hlength.symm hwidth
  | cons c cs =>
    have hc : c ≠ '+' := hmem c (List.mem_cons_self ..)
    unfold readNat
    split
    · contradiction
    · rename_i heq
      exact absurd (List.cons.inj heq).1 hc
    · rename_i heq
      exact absurd (List.cons.inj heq).1 hc
    · exact hdigits

end Courier
