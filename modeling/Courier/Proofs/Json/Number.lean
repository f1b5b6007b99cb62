import Courier.Proofs.Json.Grammar

/-!
# Numbers are read as the grammar has them

A number has no end of its own: it goes on while the bytes still belong to it.  So the readers find
the grammar's numbers where nothing follows that could go on with one (`Stops`).

* `unsigned_of_skipUnsigned`, `skipUnsigned_of_unsigned`: numbers that nobody wants to know.
* `natural_of_readNumber`, `negative_of_readNumber`: a number that is no double is an integer.
* `readNumber_of_natural`, `readNumber_of_negative`: integers of at most 64 bits are read as such.
-/

namespace Courier.Json

open Grammar

/-- The bytes do not go on with a number. -/
structure Stops (t : List UInt8) : Prop where
  not_digit : startsWithDigit t = false
  not_point : ∀ u, t ≠ point :: u
  not_mark : ∀ b u, t = b :: u → isExponentMark b = false

theorem not_digit_of_mark {b : UInt8} (h : isExponentMark b = true) : isDigit b = false := by
  simp only [isExponentMark, Bool.or_eq_true, beq_iff_eq] at h
  rcases h with rfl | rfl <;> rfl

theorem ne_point_of_mark {b : UInt8} (h : isExponentMark b = true) : b ≠ point := by
  rintro rfl
  cases h

/-! ### Runs of digits -/

theorem skipDigits_cons {b : UInt8} {s : List UInt8} (hb : isDigit b = true) :
    skipDigits (b :: s) = skipDigits s :=
  List.dropWhile_cons_of_pos hb

theorem skipDigits_cons_of_not_digit {b : UInt8} {s : List UInt8} (hb : isDigit b = false) :
    skipDigits (b :: s) = b :: s :=
  List.dropWhile_cons_of_neg (ne_true_of_eq_false hb)

theorem skipDigits_of_not_digit {t : List UInt8} (h : startsWithDigit t = false) :
    skipDigits t = t := by
  cases t with
  | nil => rfl
  | cons b t => exact skipDigits_cons_of_not_digit h

namespace Grammar.Run

variable {m n : Nat} {s t : List UInt8}

theorem le (h : Run m s n t) : m ≤ n := by
  induction h with
  | nil => exact Nat.le_refl _
  | cons _ _ ih => omega

theorem concat {b : UInt8} (h : Run m s n (b :: t)) (hb : isDigit b = true) :
    Run m s (n * 10 + digitOf b) t := by
  generalize hu : b :: t = u at h
  induction h with
  | nil =>
    subst hu
    exact .cons hb .nil
  | cons hb' _ ih => exact .cons hb' (ih hu)

theorem skipDigits_eq (h : Run m s n t) : skipDigits s = skipDigits t := by
  induction h with
  | nil => rfl
  | cons hb _ ih => rw [skipDigits_cons hb, ih]

end Grammar.Run

theorem exists_run_skipDigits (m : Nat) (s : List UInt8) : ∃ n, Run m s n (skipDigits s) := by
  induction s generalizing m with
  | nil => exact ⟨m, .nil⟩
  | cons b s ih =>
    cases hb : isDigit b with
    | true =>
      rw [skipDigits_cons hb]
      obtain ⟨n, hn⟩ := ih (m * 10 + digitOf b)
      exact ⟨n, .cons hb hn⟩
    | false =>
      rw [skipDigits_cons_of_not_digit hb]
      exact ⟨m, .nil⟩

theorem digits_cons {b : UInt8} (s : List UInt8) (hb : isDigit b = true) :
    Digits (b :: s) (skipDigits s) :=
  let ⟨n, hn⟩ := exists_run_skipDigits (digitOf b) s
  ⟨b, s, n, rfl, hb, hn⟩

namespace Grammar.Digits

variable {s t : List UInt8}

theorem startsWithDigit_eq (h : Digits s t) : startsWithDigit s = true := by
  obtain ⟨b, rest, n, rfl, hb, -⟩ := h
  exact hb

theorem skipDigits_eq (h : Digits s t) (ht : startsWithDigit t = false) : skipDigits s = t := by
  obtain ⟨b, rest, n, rfl, hb, hrun⟩ := h
  rw [skipDigits_cons hb, hrun.skipDigits_eq, skipDigits_of_not_digit ht]

end Grammar.Digits

/-! ### Numbers that nobody wants to know -/

section Skipping

variable {s t u : List UInt8}

theorem digits_of_skipPowerDigits (h : skipPowerDigits s = .ok t) : Digits s t := by
  unfold skipPowerDigits at h
  split at h
  · cases h
  · split at h
    · rename_i hb
      cases h
      exact digits_cons _ hb
    · cases h

theorem exponent_of_skipFloatEnd (h : skipFloatEnd s = .ok t) : Exponent s t := by
  unfold skipFloatEnd at h
  split at h
  · cases h
    exact .none
  · split at h
    · rename_i hmark
      unfold skipExponent at h
      split at h
      · cases h
      · split at h
        · rename_i hsign
          exact .signed hmark hsign (digits_of_skipPowerDigits h)
        · exact .unsigned hmark (digits_of_skipPowerDigits h)
    · cases h
      exact .none

theorem fraction_of_skipTail (h : skipTail s = .ok t) : ∃ u, Fraction s u ∧ Exponent u t := by
  unfold skipTail at h
  split at h
  · cases h
    exact ⟨[], .none, .none⟩
  · split at h
    · rename_i b rest hb
      subst hb
      unfold skipFraction at h
      split at h
      · rename_i hdigit
        cases rest with
        | nil => cases hdigit
        | cons b rest =>
          rw [skipDigits_cons hdigit] at h
          exact ⟨_, .some (digits_cons rest hdigit), exponent_of_skipFloatEnd h⟩
      · cases h
    · exact ⟨_, .none, exponent_of_skipFloatEnd h⟩

theorem unsigned_of_skipUnsigned (h : skipUnsigned s = .ok t) : Unsigned s t := by
  unfold skipUnsigned at h
  split at h
  · cases h
  · split at h
    · rename_i hzero
      subst hzero
      split at h
      · cases h
      · obtain ⟨u, hfraction, hexponent⟩ := fraction_of_skipTail h
        exact .mk .zero hfraction hexponent
    · rename_i hzero
      split at h
      · rename_i hdigit
        obtain ⟨u, hfraction, hexponent⟩ := fraction_of_skipTail h
        obtain ⟨n, hrun⟩ := exists_run_skipDigits _ _
        exact .mk (.digits hdigit hzero hrun) hfraction hexponent
      · cases h

theorem skipPowerDigits_of_digits (h : Digits s t) (ht : startsWithDigit t = false) :
    skipPowerDigits s = .ok t := by
  have hskip := h.skipDigits_eq ht
  obtain ⟨b, rest, n, rfl, hb, -⟩ := h
  rw [skipDigits_cons hb] at hskip
  rw [skipPowerDigits, if_pos hb, hskip]

theorem skipFloatEnd_of_exponent (h : Exponent s t) (ht : Stops t) : skipFloatEnd s = .ok t := by
  cases h with
  | none =>
    cases s with
    | nil => rfl
    | cons b s =>
      rw [skipFloatEnd, if_neg (ne_true_of_eq_false (ht.not_mark b s rfl))]
  | @unsigned b s t hb h =>
    have hread := skipPowerDigits_of_digits h ht.not_digit
    obtain ⟨d, rest, n, rfl, hd, -⟩ := h
    have hsign : ¬(d = plus ∨ d = minus) := by
      rintro (rfl | rfl) <;> cases hd
    rw [skipFloatEnd, if_pos hb, skipExponent, if_neg hsign, hread]
  | signed hb hs h =>
    rw [skipFloatEnd, if_pos hb, skipExponent, if_pos hs,
      skipPowerDigits_of_digits h ht.not_digit]

/-- A power of ten begins with its mark, or there is none. -/
theorem Grammar.Exponent.not_digit (h : Exponent s t) (ht : Stops t) :
    startsWithDigit s = false ∧ ∀ u, s ≠ point :: u := by
  cases h with
  | none => exact ⟨ht.not_digit, ht.not_point⟩
  | unsigned hb h =>
    refine ⟨not_digit_of_mark hb, ?_⟩
    rintro u hu
    exact ne_point_of_mark hb (List.cons.inj hu).1
  | signed hb hs h =>
    refine ⟨not_digit_of_mark hb, ?_⟩
    rintro u hu
    exact ne_point_of_mark hb (List.cons.inj hu).1

theorem skipTail_of_fraction (hf : Fraction s u) (he : Exponent u t) (ht : Stops t) :
    skipTail s = .ok t ∧ startsWithDigit s = false := by
  obtain ⟨hdigit, hpoint⟩ := he.not_digit ht
  have hend := skipFloatEnd_of_exponent he ht
  cases hf with
  | none =>
    refine ⟨?_, hdigit⟩
    cases s with
    | nil => exact hend
    | cons b s =>
      have hb : b ≠ point := by
        rintro rfl
        exact hpoint s rfl
      rw [skipTail, if_neg hb, hend]
  | some h =>
    refine ⟨?_, rfl⟩
    rw [skipTail, if_pos rfl, skipFraction, if_pos h.startsWithDigit_eq, h.skipDigits_eq hdigit,
      hend]

theorem skipUnsigned_of_unsigned (h : Unsigned s t) (ht : Stops t) : skipUnsigned s = .ok t := by
  obtain ⟨hn, hf, he⟩ := h
  obtain ⟨htail, hdigit⟩ := skipTail_of_fraction hf he ht
  cases hn with
  | zero =>
    rw [skipUnsigned, if_pos rfl, if_neg (ne_true_of_eq_false hdigit), htail]
  | digits hb hz hrun =>
    rw [skipUnsigned, if_neg hz, if_pos hb, hrun.skipDigits_eq, skipDigits_of_not_digit hdigit,
      htail]

end Skipping

/-! ### Doubles are no integers -/

section Doubles

variable {neg down : Bool} {m power extra : Nat} {e : Int} {s t : List UInt8} {n : Number}

/-- A number that is read as a double. -/
def Number.IsFloat (n : Number) : Prop := ∃ f, n = .float f

theorem isFloat_of_finishFloat (h : finishFloat neg m e s = .ok (n, t)) : n.IsFloat := by
  unfold finishFloat at h
  split at h
  · cases h
    exact ⟨_, rfl⟩
  · cases h

theorem isFloat_of_readPower (h : readPower neg m e down power s = .ok (n, t)) : n.IsFloat := by
  induction s generalizing power with
  | nil => exact isFloat_of_finishFloat h
  | cons b s ih =>
    rw [readPower] at h
    split at h
    · split at h
      · exact ih h
      · split at h
        · cases h
        · cases h
          exact ⟨_, rfl⟩
    · exact isFloat_of_finishFloat h

theorem isFloat_of_readPowerDigits (h : readPowerDigits neg m e down s = .ok (n, t)) :
    n.IsFloat := by
  unfold readPowerDigits at h
  split at h
  · cases h
  · split at h
    · exact isFloat_of_readPower h
    · cases h

theorem isFloat_of_readExponent (h : readExponent neg m e s = .ok (n, t)) : n.IsFloat := by
  unfold readExponent at h
  split at h
  · cases h
  · split at h
    · exact isFloat_of_readPowerDigits h
    · split at h
      · exact isFloat_of_readPowerDigits h
      · exact isFloat_of_readPowerDigits h

theorem isFloat_of_readFraction (h : readFraction neg m e s = .ok (n, t)) : n.IsFloat := by
  simp only [readFraction] at h
  split at h
  · cases h
  · unfold readFloatEnd at h
    split at h
    · exact isFloat_of_finishFloat h
    · split at h
      · exact isFloat_of_readExponent h
      · exact isFloat_of_finishFloat h

/-- A number that is no double has nothing behind its digits, and all of them fit. -/
theorem finishInteger_of_readTail (h : readTail neg m extra s = .ok (n, t)) (hn : ¬n.IsFloat) :
    extra = 0 ∧ finishInteger neg m s = (n, t) := by
  unfold readTail at h
  split at h
  · split at h
    · rename_i hextra
      exact ⟨hextra, Except.ok.inj h⟩
    · exact absurd (isFloat_of_finishFloat h) hn
  · split at h
    · exact absurd (isFloat_of_readFraction h) hn
    · split at h
      · exact absurd (isFloat_of_readExponent h) hn
      · split at h
        · rename_i hextra
          exact ⟨hextra, Except.ok.inj h⟩
        · exact absurd (isFloat_of_finishFloat h) hn

end Doubles

/-! ### Integers -/

section Integers

variable {s t : List UInt8}

theorem run_takeDigits (m count : Nat) (s : List UInt8) :
    Run m s (takeDigits m count s).1 (takeDigits m count s).2.2 := by
  fun_induction takeDigits m count s with
  | case1 => exact .nil
  | case2 m count b s h ih => exact .cons h.1 ih
  | case3 => exact .nil

/-- Where no digit was dropped, nothing was. -/
theorem dropDigits_eq (count : Nat) (s : List UInt8) :
    count ≤ (dropDigits count s).1 ∧
      ((dropDigits count s).1 = count → (dropDigits count s).2 = s) := by
  fun_induction dropDigits count s with
  | case1 => exact ⟨Nat.le_refl _, fun _ => rfl⟩
  | case2 count b s hb ih => exact ⟨by omega, fun h => by omega⟩
  | case3 => exact ⟨Nat.le_refl _, fun _ => rfl⟩

/-- A number that is no double is an integer without leading zeros. -/
theorem finishInteger_of_readUnsigned {neg : Bool} {x : Number}
    (h : readUnsigned neg s = .ok (x, t)) (hx : ¬x.IsFloat) :
    ∃ n u, Natural s n u ∧ finishInteger neg n u = (x, t) := by
  unfold readUnsigned at h
  split at h
  · cases h
  · split at h
    · rename_i hzero
      subst hzero
      split at h
      · cases h
      · exact ⟨0, _, .zero, (finishInteger_of_readTail h hx).2⟩
    · rename_i b rest hzero
      split at h
      · rename_i hdigit
        obtain ⟨hextra, hfinish⟩ := finishInteger_of_readTail h hx
        -- Digits that do not fit would have made a double.
        rw [(dropDigits_eq 0 _).2 hextra] at hfinish
        exact ⟨_, _, .digits hdigit hzero (run_takeDigits _ _ _), hfinish⟩
      · cases h

theorem finishInteger_eq_natural {neg : Bool} {n m : Nat} {u : List UInt8}
    (h : finishInteger neg n u = (.natural m, t)) : neg = false ∧ n = m ∧ u = t := by
  unfold finishInteger at h
  split at h
  · rename_i hneg
    cases h
    exact ⟨by simpa using hneg, rfl, rfl⟩
  · split at h <;> cases h

theorem finishInteger_eq_negative {neg : Bool} {n : Nat} {i : Int} {u : List UInt8}
    (h : finishInteger neg n u = (.negative i, t)) :
    neg = true ∧ i = -n ∧ n ≠ 0 ∧ n ≤ signedBound ∧ u = t := by
  unfold finishInteger at h
  split at h
  · cases h
  · rename_i hneg
    split at h
    · rename_i hn
      cases h
      exact ⟨by simpa using hneg, rfl, Nat.ne_of_gt hn.1, hn.2, rfl⟩
    · cases h

/-- A number without a sign that is no double is a natural number. -/
theorem natural_of_readNumber {n : Nat} (h : readNumber s = .ok (.natural n, t)) :
    Natural s n t := by
  have hfloat : ¬(Number.natural n).IsFloat := nofun
  unfold readNumber at h
  split at h
  · cases h
  · split at h
    · obtain ⟨m, u, -, hfinish⟩ := finishInteger_of_readUnsigned h hfloat
      cases (finishInteger_eq_natural hfinish).1
    · obtain ⟨m, u, hnatural, hfinish⟩ := finishInteger_of_readUnsigned h hfloat
      obtain ⟨-, rfl, rfl⟩ := finishInteger_eq_natural hfinish
      exact hnatural

/-- A number with a sign that is no double is the negative of one, and not zero. -/
theorem negative_of_readNumber {i : Int} (h : readNumber s = .ok (.negative i, t)) :
    ∃ n : Nat, Integer s (-(n : Int)) t ∧ i = -n ∧ n ≤ signedBound := by
  have hfloat : ¬(Number.negative i).IsFloat := nofun
  unfold readNumber at h
  split at h
  · cases h
  · split at h
    · rename_i hb
      subst hb
      obtain ⟨n, u, hnatural, hfinish⟩ := finishInteger_of_readUnsigned h hfloat
      obtain ⟨-, rfl, hn, hle, rfl⟩ := finishInteger_eq_negative hfinish
      exact ⟨n, .negative hnatural hn, rfl, hle⟩
    · obtain ⟨n, u, -, hfinish⟩ := finishInteger_of_readUnsigned h hfloat
      cases (finishInteger_eq_negative hfinish).1

theorem takeDigits_of_run {m n : Nat} (h : Run m s n t) (hn : n < wordBound)
    (ht : startsWithDigit t = false) (count : Nat) :
    ∃ taken, takeDigits m count s = (n, taken, t) := by
  induction h generalizing count with
  | @nil m s =>
    refine ⟨count, ?_⟩
    cases s with
    | nil => rfl
    | cons b s =>
      rw [startsWithDigit] at ht
      rw [takeDigits, if_neg fun h => ne_true_of_eq_false ht h.1]
  | cons hb h ih =>
    obtain ⟨taken, htaken⟩ := ih hn ht (count + 1)
    refine ⟨taken, ?_⟩
    rw [takeDigits, if_pos ⟨hb, Nat.lt_of_le_of_lt h.le hn⟩, htaken]

theorem dropDigits_of_not_digit (count : Nat) (ht : startsWithDigit t = false) :
    dropDigits count t = (count, t) := by
  cases t with
  | nil => rfl
  | cons b t =>
    rw [startsWithDigit] at ht
    rw [dropDigits, ht]
    rfl

theorem readTail_of_stops {neg : Bool} {n : Nat} (ht : Stops t) :
    readTail neg n 0 t = .ok (finishInteger neg n t) := by
  cases t with
  | nil => rfl
  | cons b t =>
    have hpoint : b ≠ point := by
      rintro rfl
      exact ht.not_point t rfl
    rw [readTail, if_neg hpoint, ht.not_mark b t rfl]
    rfl

/-- A natural number of at most 64 bits is read to its end, with nothing lost. -/
theorem readUnsigned_of_natural {neg : Bool} {n : Nat} (h : Natural s n t) (hn : n < wordBound)
    (ht : Stops t) : readUnsigned neg s = .ok (finishInteger neg n t) := by
  cases h with
  | zero =>
    rw [readUnsigned, if_pos rfl, ht.not_digit, readTail_of_stops ht]
    rfl
  | digits hb hz hrun =>
    -- All digits fit, since the whole number does, and none is left to be dropped.
    obtain ⟨taken, htaken⟩ := takeDigits_of_run hrun hn ht.not_digit 0
    simp only [readUnsigned, if_neg hz, if_pos hb, htaken, dropDigits_of_not_digit 0 ht.not_digit,
      readTail_of_stops ht]

theorem Grammar.Natural.exists_eq_cons {n : Nat} (h : Natural s n t) :
    ∃ b u, s = b :: u ∧ isDigit b = true := by
  cases h with
  | zero => exact ⟨_, _, rfl, rfl⟩
  | digits hb => exact ⟨_, _, rfl, hb⟩

theorem Grammar.Integer.exists_eq_cons {i : Int} (h : Integer s i t) :
    ∃ b u, s = b :: u ∧ (b = minus ∨ isDigit b = true) := by
  cases h with
  | natural h =>
    obtain ⟨b, u, rfl, hb⟩ := h.exists_eq_cons
    exact ⟨b, u, rfl, Or.inr hb⟩
  | negative h => exact ⟨minus, _, rfl, Or.inl rfl⟩

theorem ne_minus_of_isDigit {b : UInt8} (h : isDigit b = true) : b ≠ minus := by
  rintro rfl
  cases h

theorem readNumber_of_natural {n : Nat} (h : Natural s n t) (hn : n < wordBound) (ht : Stops t) :
    readNumber s = .ok (.natural n, t) := by
  have hread : readUnsigned false s = .ok (finishInteger false n t) :=
    readUnsigned_of_natural h hn ht
  obtain ⟨b, u, rfl, hb⟩ := h.exists_eq_cons
  rw [readNumber, if_neg (ne_minus_of_isDigit hb), hread]
  rfl

theorem readNumber_of_negative {n : Nat} (h : Natural s n t) (hn : n ≠ 0) (hle : n ≤ signedBound)
    (ht : Stops t) : readNumber (minus :: s) = .ok (.negative (-n), t) := by
  have hlt : n < wordBound := Nat.lt_of_le_of_lt hle (by decide)
  rw [readNumber, if_pos rfl, readUnsigned_of_natural h hlt ht, finishInteger]
  simp only [Bool.not_true, Bool.false_eq_true, if_false, Nat.pos_of_ne_zero hn, hle, and_self,
    if_true]

end Integers

end Courier.Json
