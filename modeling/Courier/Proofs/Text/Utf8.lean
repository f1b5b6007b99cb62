import Courier.Text.Utf8

/-!
# Strings and their UTF-8 form

The UTF-8 form of a string is that of its characters, one after another (`encode_eq_flatMap`).  A
character below U+0080 is one byte (`utf8EncodeChar_of_lt`).  Every other one is a byte from `0xC0`
on and then some that continue it (`exists_utf8EncodeChar_eq`), so no byte of it is taken for an
ASCII character, and none but the first for the first byte of a character.

No form of a character is the beginning of another one's: `utf8EncodeChar_append_inj`.
-/

namespace Courier.Utf8

/-! ### Strings -/

theorem encode_ofList (cs : List Char) :
    encode (String.ofList cs) = cs.flatMap String.utf8EncodeChar := by
  rw [encode, String.toByteArray_ofList, List.utf8Encode, List.data_toByteArray]

/-- The UTF-8 form of a string is that of its characters, one after another. -/
theorem encode_eq_flatMap (s : String) : encode s = s.toList.flatMap String.utf8EncodeChar := by
  rw [← encode_ofList, String.ofList_toList]

/-! ### Characters -/

theorem toNat_ofNat_of_isValidChar {n : Nat} (h : n.isValidChar) : (Char.ofNat n).toNat = n := by
  rw [Char.ofNat, dif_pos h]
  rfl

theorem utf8EncodeChar_of_lt {c : Char} (h : c.toNat < 0x80) :
    String.utf8EncodeChar c = [UInt8.ofNat c.toNat] := by
  have hle : c.val.toNat ≤ 0x7F := Nat.le_of_lt_succ h
  simp only [String.utf8EncodeChar, hle, if_true]
  rfl

theorem isContinuation_ofNat {n : Nat} (h : n < 64) : isContinuation (UInt8.ofNat (n + 0x80)) := by
  have hmod : (n + 0x80) % 256 = n + 0x80 := Nat.mod_eq_of_lt (by omega)
  simp only [isContinuation, Bool.and_eq_true, decide_eq_true_eq, UInt8.le_iff_toNat_le,
    UInt8.toNat_ofNat', UInt8.reduceToNat, Nat.reducePow, hmod]
  omega

theorem le_lead_ofNat {n m : Nat} (hm : 0xC0 ≤ m) (h : n + m < 0x100) :
    0xC0 ≤ UInt8.ofNat (n + m) := by
  rw [UInt8.le_iff_toNat_le, UInt8.toNat_ofNat_of_lt' h]
  exact Nat.le_trans hm (Nat.le_add_left m n)

/-- A character from U+0080 on is a byte from `0xC0` on, and then some that continue it. -/
theorem exists_utf8EncodeChar_eq {c : Char} (h : 0x80 ≤ c.toNat) :
    ∃ lead more, String.utf8EncodeChar c = lead :: more ∧ 0xC0 ≤ lead ∧
      ∀ b ∈ more, isContinuation b := by
  have hgt : ¬c.val.toNat ≤ 0x7F := Nat.not_le_of_lt h
  have hcont (n : Nat) : isContinuation (UInt8.ofNat (n % 0x40 + 0x80)) :=
    isContinuation_ofNat (Nat.mod_lt n (by decide))
  simp only [String.utf8EncodeChar, hgt, if_false]
  split
  · refine ⟨_, _, rfl, le_lead_ofNat (by decide) (by omega), ?_⟩
    simp only [List.mem_singleton, forall_eq]
    exact hcont _
  · split
    · refine ⟨_, _, rfl, le_lead_ofNat (by decide) (by omega), ?_⟩
      simp only [List.mem_cons, List.not_mem_nil, or_false, forall_eq_or_imp, forall_eq]
      exact ⟨hcont _, hcont _⟩
    · refine ⟨_, _, rfl, le_lead_ofNat (by decide) (by omega), ?_⟩
      simp only [List.mem_cons, List.not_mem_nil, or_false, forall_eq_or_imp, forall_eq]
      exact ⟨hcont _, hcont _, hcont _⟩

/-- The first byte of a character continues none. -/
theorem isContinuation_lead {c : Char} {lead : UInt8} {more : List UInt8}
    (h : String.utf8EncodeChar c = lead :: more) : isContinuation lead = false := by
  rw [← Bool.not_eq_true, isContinuation, Bool.and_eq_true, decide_eq_true_eq, decide_eq_true_eq,
    UInt8.le_iff_toNat_le, UInt8.le_iff_toNat_le]
  by_cases hlt : c.toNat < 0x80
  · rw [utf8EncodeChar_of_lt hlt] at h
    obtain rfl := (List.cons.inj h).1
    rw [UInt8.toNat_ofNat_of_lt' (Nat.lt_trans hlt (by decide))]
    exact fun hle => absurd hle.1 (Nat.not_le_of_lt hlt)
  · obtain ⟨lead', more', heq, hlead, -⟩ := exists_utf8EncodeChar_eq (Nat.le_of_not_lt hlt)
    rw [heq] at h
    obtain rfl := (List.cons.inj h).1
    have hlt' : (0xBF : UInt8).toNat < lead'.toNat := UInt8.le_iff_toNat_le.1 hlead
    exact fun hle => absurd hle.2 (Nat.not_le_of_lt hlt')

/-- The bytes of a character but the first continue it. -/
theorem isContinuation_of_mem {c : Char} {lead : UInt8} {more : List UInt8}
    (h : String.utf8EncodeChar c = lead :: more) : ∀ b ∈ more, isContinuation b = true := by
  by_cases hlt : c.toNat < 0x80
  · rw [utf8EncodeChar_of_lt hlt] at h
    obtain rfl := (List.cons.inj h).2
    nofun
  · obtain ⟨lead', more', heq, -, hmore⟩ := exists_utf8EncodeChar_eq (Nat.le_of_not_lt hlt)
    rw [heq] at h
    obtain rfl := (List.cons.inj h).2
    exact hmore

/-- No form of a character is the beginning of another one's. -/
theorem utf8EncodeChar_append_inj {c d : Char} {s t : List UInt8}
    (h : String.utf8EncodeChar c ++ s = String.utf8EncodeChar d ++ t) : c = d ∧ s = t := by
  have hread (x : Char) (u : List UInt8) :
      ByteArray.utf8DecodeChar? (String.utf8EncodeChar x ++ u).toByteArray 0 = some x := by
    rw [List.toByteArray_append]
    exact ByteArray.utf8DecodeChar?_utf8EncodeChar_append
  have hcd : some c = some d := by rw [← hread c s, h, hread d t]
  obtain rfl := Option.some.inj hcd
  exact ⟨rfl, List.append_cancel_left h⟩

end Courier.Utf8
