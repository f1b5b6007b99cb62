import Courier.Proofs.Json.Grammar

/-!
# More bytes behind a piece

A relation of the grammar speaks of a piece and of what stands behind it, and a piece is known
without a look at what stands behind it.  So more bytes at the end change nothing: each relation
that holds of two byte strings holds of the two with the same bytes appended (`append_right`).

This is how two documents are compared of which one goes on where the other one ends.  What is left
to say about the bytes in front of that place is that blanks are blanks: `Blanks.exists_eq_append`.
-/

namespace Courier.Json.Grammar

variable {s t : List UInt8}

/-! ### Blanks -/

theorem Blanks.append_right (h : Blanks s t) (r : List UInt8) : Blanks (s ++ r) (t ++ r) := by
  induction h with
  | nil => exact .nil
  | cons hb _ ih => exact .cons hb ih

/-- What is passed over is blank. -/
theorem Blanks.exists_eq_append (h : Blanks s t) :
    ∃ bs : List UInt8, s = bs ++ t ∧ ∀ b ∈ bs, isBlank b = true := by
  induction h with
  | nil => exact ⟨[], rfl, nofun⟩
  | @cons b _ _ hb _ ih =>
    obtain ⟨bs, rfl, hbs⟩ := ih
    exact ⟨b :: bs, rfl, List.forall_mem_cons.2 ⟨hb, hbs⟩⟩

/-! ### Strings -/

theorem HexCode.append_right {n : Nat} (h : HexCode s n t) (r : List UInt8) :
    HexCode (s ++ r) n (t ++ r) := by
  cases h with
  | mk ha hb hc hd => exact .mk ha hb hc hd

theorem Escape.append_right {c : Char} (h : Escape s c t) (r : List UInt8) :
    Escape (s ++ r) c (t ++ r) := by
  cases h with
  | short hletter => exact .short hletter
  | code hcode => exact .code (hcode.append_right r)
  | pair hhigh hlow hh hl hc =>
    exact .pair (hhigh.append_right r) (hlow.append_right r) hh hl hc

theorem Chars.append_right {cs : List Char} (h : Chars s cs t) (r : List UInt8) :
    Chars (s ++ r) cs (t ++ r) := by
  induction h with
  | nil => exact .nil
  | plain hc hq hb _ ih =>
    rw [List.append_assoc]
    exact .plain hc hq hb ih
  | escape he _ ih => exact .escape (he.append_right r) ih

theorem Text.append_right {text : String} (h : Text s text t) (r : List UInt8) :
    Text (s ++ r) text (t ++ r) := by
  obtain ⟨inside, rfl, hinside⟩ := h
  exact ⟨inside ++ r, rfl, hinside.append_right r⟩

theorem RawEscape.append_right (h : RawEscape s t) (r : List UInt8) :
    RawEscape (s ++ r) (t ++ r) := by
  cases h with
  | short hletter => exact .short hletter
  | code hcode => exact .code (hcode.append_right r)

theorem RawChars.append_right (h : RawChars s t) (r : List UInt8) :
    RawChars (s ++ r) (t ++ r) := by
  induction h with
  | nil => exact .nil
  | plain hc hq hb _ ih => exact .plain hc hq hb ih
  | escape he _ ih => exact .escape (he.append_right r) ih

theorem RawText.append_right (h : RawText s t) (r : List UInt8) : RawText (s ++ r) (t ++ r) := by
  obtain ⟨inside, rfl, hinside⟩ := h
  exact ⟨inside ++ r, rfl, hinside.append_right r⟩

/-! ### Numbers

The end of a number is not written down: whether digits that are appended belong to it is up to the
reader.  Here the end is given, so appended digits stand behind it. -/

theorem Run.append_right {m n : Nat} (h : Run m s n t) (r : List UInt8) :
    Run m (s ++ r) n (t ++ r) := by
  induction h with
  | nil => exact .nil
  | cons hb _ ih => exact .cons hb ih

theorem Natural.append_right {n : Nat} (h : Natural s n t) (r : List UInt8) :
    Natural (s ++ r) n (t ++ r) := by
  cases h with
  | zero => exact .zero
  | digits hb hz hrun => exact .digits hb hz (hrun.append_right r)

theorem Integer.append_right {i : Int} (h : Integer s i t) (r : List UInt8) :
    Integer (s ++ r) i (t ++ r) := by
  cases h with
  | natural hn => exact .natural (hn.append_right r)
  | negative hn hne => exact .negative (hn.append_right r) hne

theorem Digits.append_right (h : Digits s t) (r : List UInt8) : Digits (s ++ r) (t ++ r) := by
  obtain ⟨b, rest, n, rfl, hb, hrun⟩ := h
  exact ⟨b, rest ++ r, n, rfl, hb, hrun.append_right r⟩

theorem Fraction.append_right (h : Fraction s t) (r : List UInt8) :
    Fraction (s ++ r) (t ++ r) := by
  cases h with
  | none => exact .none
  | some hdigits => exact .some (hdigits.append_right r)

theorem Exponent.append_right (h : Exponent s t) (r : List UInt8) :
    Exponent (s ++ r) (t ++ r) := by
  cases h with
  | none => exact .none
  | unsigned hb hdigits => exact .unsigned hb (hdigits.append_right r)
  | signed hb hs hdigits => exact .signed hb hs (hdigits.append_right r)

theorem Unsigned.append_right (h : Unsigned s t) (r : List UInt8) :
    Unsigned (s ++ r) (t ++ r) := by
  obtain ⟨hn, hf, he⟩ := h
  exact .mk (hn.append_right r) (hf.append_right r) (he.append_right r)

theorem Number.append_right (h : Number s t) (r : List UInt8) : Number (s ++ r) (t ++ r) := by
  cases h with
  | positive hn => exact .positive (hn.append_right r)
  | negative hn => exact .negative (hn.append_right r)

/-! ### Values -/

theorem Label.append_right {bracket : Bracket} (h : Label bracket s t) (r : List UInt8) :
    Label bracket (s ++ r) (t ++ r) := by
  cases h with
  | list => exact .list
  | object hb hn hc =>
    exact .object (hb.append_right r) (hn.append_right r) (hc.append_right r)

theorem Written.append_right {extent : Extent} (h : Written extent s t) (r : List UInt8) :
    Written extent (s ++ r) (t ++ r) := by
  induction h with
  | word word hword =>
    rw [List.append_assoc]
    exact .word word hword
  | number hn => exact .number (hn.append_right r)
  | text htext => exact .text (htext.append_right r)
  | empty bracket hb => exact .empty bracket (hb.append_right r)
  | bracket bracket _ ih => exact .bracket bracket ih
  | last hl hb _ ha ih => exact .last (hl.append_right r) (hb.append_right r) ih (ha.append_right r)
  | more hl hb _ ha _ ihv ih =>
    exact .more (hl.append_right r) (hb.append_right r) ihv (ha.append_right r) ih

end Courier.Json.Grammar
