import Courier.Proofs.Json.Number
import Courier.Proofs.Json.Text

/-!
# Values are skipped as the grammar has them

The grammar has a value inside a value; `skip` has one loop and a stack.  `Closes` says what the
stack stands for: the rest of every bracket that is still open, from the innermost outwards.

* `value_of_skipValue`: whatever is skipped is a value.
* `skipValue_of_value`: every value is skipped, if nothing behind it could go on with a number.
-/

namespace Courier.Json

open Grammar

variable {bracket : Bracket} {open_ outer : List Bracket} {due : Due} {s t u v w : List UInt8}

/-! ### What stands behind a value -/

theorem stops_cons {b : UInt8} (hdigit : isDigit b = false) (hpoint : b ≠ point)
    (hmark : isExponentMark b = false) : Stops (b :: t) := by
  refine ⟨hdigit, ?_, ?_⟩
  · rintro u hu
    exact hpoint (List.cons.inj hu).1
  · rintro c u hu
    rwa [← (List.cons.inj hu).1]

theorem stops_close : Stops (bracket.close :: t) := by
  cases bracket with
  | list => exact stops_cons rfl (by decide) rfl
  | object => exact stops_cons rfl (by decide) rfl

theorem stops_comma : Stops (comma :: t) := stops_cons rfl (by decide) rfl

theorem stops_of_isBlank {b : UInt8} (hb : isBlank b = true) : Stops (b :: t) := by
  simp only [isBlank, Bool.or_eq_true, beq_iff_eq] at hb
  obtain ((rfl | rfl) | rfl) | rfl := hb
  all_goals exact stops_cons rfl (by decide) rfl

theorem Grammar.Blanks.stops (h : Blanks s t) (ht : Stops t) : Stops s := by
  cases h with
  | nil => exact ht
  | cons hb _ => exact stops_of_isBlank hb

/-! ### Names and first bytes -/

theorem isBlank_quote : isBlank quote = false := rfl
theorem isBlank_colon : isBlank colon = false := rfl
theorem isBlank_comma : isBlank comma = false := rfl

theorem Bracket.isBlank_close (bracket : Bracket) : isBlank bracket.close = false := by
  cases bracket <;> rfl

theorem isBlank_opener (bracket : Bracket) : isBlank (opener bracket) = false := by
  cases bracket <;> rfl

theorem label_of_skipKey (h : skipKey s = .ok v) : Label .object s v := by
  unfold skipKey at h
  split at h
  · cases h
  · rename_i hs
    split at h
    · rename_i hquote
      subst hquote
      split at h
      · cases h
      · rename_i htext
        split at h
        · cases h
        · rename_i hrest
          split at h
          · rename_i hcolon
            subst hcolon
            cases h
            exact .object (blanks_of_skipBlanks hs) (skipText_eq_ok_iff.1 htext)
              (blanks_of_skipBlanks hrest)
          · cases h
    · cases h

theorem skipKey_of_label (h : Label .object s v) : skipKey s = .ok v := by
  cases h with
  | object hb hn hc =>
    obtain ⟨inside, rfl, hinside⟩ := hn
    have htext := skipText_eq_ok_iff.2 ⟨inside, rfl, hinside⟩
    simp only [skipKey, hb.skipBlanks_eq_cons isBlank_quote, if_true, htext,
      hc.skipBlanks_eq_cons isBlank_colon]

theorem enter_eq_ok_iff : enter bracket s = .ok t ↔ Label bracket s t := by
  cases bracket with
  | list =>
    constructor
    · intro h
      cases h
      exact .list
    · rintro ⟨⟩
      rfl
  | object => exact ⟨label_of_skipKey, skipKey_of_label⟩

/-- Blanks in front of a label belong to it, or to what stands behind it. -/
theorem Grammar.Blanks.label (hb : Blanks s t) (hl : Label bracket t u) :
    ∃ v, Label bracket s v ∧ Blanks v u := by
  cases hl with
  | list => exact ⟨s, .list, hb⟩
  | object hb' hn hc => exact ⟨u, .object (hb.trans hb') hn hc, .nil⟩

theorem ne_of_isDigit {b c : UInt8} (hb : isDigit b = true) (hc : isDigit c = false) : b ≠ c := by
  rintro rfl
  rw [hb] at hc
  cases hc

theorem isBlank_of_isDigit {b : UInt8} (hb : isDigit b = true) : isBlank b = false := by
  cases hblank : isBlank b with
  | false => rfl
  | true =>
    have hstops : Stops [b] := stops_of_isBlank hblank
    exact absurd (hb.symm.trans hstops.not_digit) (by decide)

/-- A number is skipped from its sign or its first digit. -/
theorem skipScalar_of_number (h : Grammar.Number s t) (ht : Stops t) :
    ∃ b rest, s = b :: rest ∧ (b = minus ∨ isDigit b = true) ∧ skipScalar b rest = .ok t := by
  cases h with
  | positive h =>
    have hread := skipUnsigned_of_unsigned h ht
    obtain ⟨hn, -, -⟩ := h
    obtain ⟨b, rest, rfl, hb⟩ := hn.exists_eq_cons
    refine ⟨b, rest, rfl, Or.inr hb, ?_⟩
    rw [skipScalar, if_neg (ne_of_isDigit hb rfl), if_neg (ne_of_isDigit hb rfl),
      if_neg (ne_of_isDigit hb rfl), if_neg (ne_of_isDigit hb rfl), if_pos hb, hread]
  | negative h => exact ⟨minus, _, rfl, Or.inl rfl, skipUnsigned_of_unsigned h ht⟩

theorem Grammar.Number.exists_eq_cons (h : Grammar.Number s t) :
    ∃ b rest, s = b :: rest ∧ (b = minus ∨ isDigit b = true) := by
  cases h with
  | positive h =>
    obtain ⟨hn, -, -⟩ := h
    obtain ⟨b, rest, rfl, hb⟩ := hn.exists_eq_cons
    exact ⟨b, rest, rfl, Or.inr hb⟩
  | negative h => exact ⟨minus, _, rfl, Or.inl rfl⟩

/-- A value begins neither with a blank nor with the end of a bracket. -/
theorem Grammar.Written.exists_eq_cons (bracket : Bracket) (h : Value s t) :
    ∃ b rest, s = b :: rest ∧ isBlank b = false ∧ b ≠ bracket.close := by
  cases h with
  | word _ h =>
    simp only [words, List.mem_cons, List.not_mem_nil, or_false] at h
    obtain rfl | rfl | rfl := h
    all_goals exact ⟨_, _, rfl, rfl, by cases bracket <;> decide⟩
  | number h =>
    obtain ⟨b, rest, rfl, rfl | hb⟩ := h.exists_eq_cons
    · exact ⟨_, _, rfl, rfl, by cases bracket <;> decide⟩
    · exact ⟨b, rest, rfl, isBlank_of_isDigit hb, ne_of_isDigit hb (by cases bracket <;> rfl)⟩
  | text h =>
    obtain ⟨inside, rfl, -⟩ := h
    exact ⟨_, _, rfl, rfl, by cases bracket <;> decide⟩
  | empty opened | bracket opened =>
    exact ⟨_, _, rfl, isBlank_opener opened, by cases bracket <;> cases opened <;> decide⟩

/-! ### Whatever is skipped is a value -/

/-- The rest of every open bracket, from behind a value in the innermost one. -/
inductive Closes : List Bracket → List UInt8 → List UInt8 → Prop where
  | nil {s : List UInt8} : Closes [] s s
  | close {bracket : Bracket} {outer : List Bracket} {s t u : List UInt8}
    (hb : Blanks s (bracket.close :: t)) (h : Closes outer t u) : Closes (bracket :: outer) s u
  | more {bracket : Bracket} {outer : List Bracket} {s t u v : List UInt8}
    (hb : Blanks s (comma :: t)) (hc : Contents bracket t (bracket.close :: u))
    (h : Closes outer u v) : Closes (bracket :: outer) s v

/-- A value and the rest of the bracket around it are the contents of that bracket. -/
theorem Closes.contents (hl : Label bracket s t) (hb : Blanks t u) (hv : Value u v)
    (h : Closes (bracket :: outer) v w) :
    ∃ x, Contents bracket s (bracket.close :: x) ∧ Closes outer x w := by
  cases h with
  | close hb' h => exact ⟨_, .last hl hb hv hb', h⟩
  | more hb' hc h => exact ⟨_, .more hl hb hv hb' hc, h⟩

/-- What the loop passes from each of its two states. -/
def Passes : Due → List Bracket → List UInt8 → List UInt8 → Prop
  | .value, open_, s, t => ∃ u v, Blanks s u ∧ Value u v ∧ Closes open_ v t
  | .separator, open_, s, t => Closes open_ s t

theorem value_of_skipScalar {b : UInt8} (h : skipScalar b s = .ok t) : Value (b :: s) t := by
  unfold skipScalar at h
  split at h
  · rename_i hb
    subst hb
    rw [readWord_eq_ok_iff.1 h]
    exact .word (0x6E :: nullTail) (by decide)
  split at h
  · rename_i hb
    subst hb
    rw [readWord_eq_ok_iff.1 h]
    exact .word (0x74 :: trueTail) (by decide)
  split at h
  · rename_i hb
    subst hb
    rw [readWord_eq_ok_iff.1 h]
    exact .word (0x66 :: falseTail) (by decide)
  split at h
  · rename_i hb
    subst hb
    exact .number (.negative (unsigned_of_skipUnsigned h))
  split at h
  · exact .number (.positive (unsigned_of_skipUnsigned h))
  split at h
  · rename_i hb
    subst hb
    exact .text (skipText_eq_ok_iff.1 h)
  · cases h

/-- Behind an opening byte stand its closing byte, or a label. -/
theorem blanks_of_opening (h : opening bracket s = .ok (due, t)) :
    (due = .separator ∧ Blanks s (bracket.close :: t)) ∨
      (due = .value ∧ ∃ u, Label bracket s u ∧ Blanks u t) := by
  unfold opening at h
  split at h
  · cases h
  · rename_i hs
    have hblanks := blanks_of_skipBlanks hs
    split at h
    · rename_i hb
      subst hb
      cases h
      exact Or.inl ⟨rfl, hblanks⟩
    · split at h
      · cases h
      · rename_i he
        cases h
        exact Or.inr ⟨rfl, hblanks.label (enter_eq_ok_iff.1 he)⟩

/-- An opening byte, and all that is passed behind it. -/
theorem passes_of_opening (bracket : Bracket) (h : opening bracket s = .ok (due, t))
    (hp : Passes due (due.opened bracket open_) t u) :
    ∃ v, Value (opener bracket :: s) v ∧ Closes open_ v u := by
  obtain ⟨rfl, hb⟩ | ⟨rfl, x, hl, hb⟩ := blanks_of_opening h
  · exact ⟨t, .empty bracket hb, hp⟩
  · obtain ⟨y, z, hb', hv, hcloses⟩ := hp
    obtain ⟨r, hcontents, hrest⟩ := hcloses.contents hl (hb.trans hb') hv
    exact ⟨r, .bracket bracket hcontents, hrest⟩

theorem passes_of_skip (h : skip due open_ s = .ok t) : Passes due open_ s t := by
  -- Along the loop, one case for each way through it; those left out here are its errors.
  fun_induction skip due open_ s with
  | case1 | case2 | case4 | case6 | case9 | case10 | case13 => cases h
  | case3 open_ s rest due t hopen _ hs _ ih =>
    obtain ⟨v, hv, hcloses⟩ := passes_of_opening .list hopen (ih h)
    exact ⟨_, v, blanks_of_skipBlanks hs, hv, hcloses⟩
  | case5 open_ s rest due t hopen _ hs _ _ ih =>
    obtain ⟨v, hv, hcloses⟩ := passes_of_opening .object hopen (ih h)
    exact ⟨_, v, blanks_of_skipBlanks hs, hv, hcloses⟩
  | case7 open_ s b rest hs _ _ _ t hscalar _ ih =>
    exact ⟨_, t, blanks_of_skipBlanks hs, value_of_skipScalar hscalar, ih h⟩
  | case8 =>
    cases h
    exact .nil
  | case11 s bracket outer rest t henter _ hs _ ih =>
    have hlabel := enter_eq_ok_iff.1 henter
    obtain ⟨u, v, hb, hv, hcloses⟩ := ih h
    obtain ⟨w, hcontents, hrest⟩ := hcloses.contents hlabel hb hv
    exact .more (blanks_of_skipBlanks hs) hcontents hrest
  | case12 s bracket outer rest hs _ _ ih => exact .close (blanks_of_skipBlanks hs) (ih h)

theorem value_of_skipValue (h : skipValue s = .ok t) : ∃ u, Blanks s u ∧ Value u t := by
  obtain ⟨u, v, hb, hv, hcloses⟩ := passes_of_skip h
  cases hcloses
  exact ⟨u, hb, hv⟩

/-! ### Every value is skipped -/

/-- What is read in front of a value inside a bracket, be it the first one or another: everything up
to the value, some blanks apart. -/
structure Leads (bracket : Bracket) (s u : List UInt8) : Prop where
  enter : ∃ x, enter bracket s = .ok x ∧ Blanks x u
  opening : ∃ x, opening bracket s = .ok (.value, x) ∧ Blanks x u

theorem leads_of_label (hl : Label bracket s t) (hb : Blanks t u) (hv : Value u v) :
    Leads bracket s u := by
  refine ⟨⟨t, enter_eq_ok_iff.2 hl, hb⟩, ?_⟩
  obtain ⟨b, rest, rfl, hblank, hclose⟩ := hv.exists_eq_cons bracket
  cases bracket with
  | list =>
    cases hl
    refine ⟨b :: rest, ?_, .nil⟩
    simp only [opening, hb.skipBlanks_eq_cons hblank, if_neg hclose, enter]
  | object =>
    cases hl with
    | object hb' hn hc =>
      obtain ⟨inside, rfl, hinside⟩ := hn
      have hkey := skipKey_of_label (.object .nil ⟨inside, rfl, hinside⟩ hc)
      refine ⟨t, ?_, hb⟩
      simp only [opening, hb'.skipBlanks_eq_cons isBlank_quote, enter, hkey]
      rfl

theorem skip_value_of_opening {rest : List UInt8} (hs : skipBlanks s = opener bracket :: rest)
    (h : opening bracket rest = .ok (due, t)) :
    skip .value open_ s = skip due (due.opened bracket open_) t := by
  cases bracket <;> grind [skip, opener, openList, openObject]

theorem skip_value_of_skipScalar {b : UInt8} {rest : List UInt8} (hs : skipBlanks s = b :: rest)
    (hlist : b ≠ openList) (hobject : b ≠ openObject) (h : skipScalar b rest = .ok t) :
    skip .value open_ s = skip .separator open_ t := by
  rw [skip]
  grind

theorem skip_separator_of_comma (hb : Blanks s (comma :: t)) (h : enter bracket t = .ok u) :
    skip .separator (bracket :: outer) s = skip .value (bracket :: outer) u := by
  have hs := hb.skipBlanks_eq_cons isBlank_comma
  conv =>
    lhs
    rw [skip]
  grind

theorem skip_separator_of_close (hb : Blanks s (bracket.close :: t)) :
    skip .separator (bracket :: outer) s = skip .separator outer t := by
  have hs := hb.skipBlanks_eq_cons bracket.isBlank_close
  have hcomma : bracket.close ≠ comma := by cases bracket <;> decide
  rw [skip]
  grind

/-- What the loop makes of a piece that the grammar allows. -/
def Skips : Extent → List UInt8 → List UInt8 → Prop
  | .value, s, t =>
    Stops t → ∀ open_ r, Blanks r s → skip .value open_ r = skip .separator open_ t
  | .contents bracket, s, w =>
    ∀ outer t, w = bracket.close :: t → ∃ u, Leads bracket s u ∧
      ∀ r, Blanks r u → skip .value (bracket :: outer) r = skip .separator outer t

theorem skips_of_written {extent : Extent} (h : Written extent s t) : Skips extent s t := by
  -- Contents go together with the byte behind them: only that takes their bracket off the stack.
  induction h with
  | word _ h =>
    intro ht open_ r hr
    simp only [words, List.mem_cons, List.not_mem_nil, or_false] at h
    obtain rfl | rfl | rfl := h
    all_goals
      exact skip_value_of_skipScalar (hr.skipBlanks_eq_cons rfl) (by decide) (by decide)
        (readWord_eq_ok_iff.2 rfl)
  | number h =>
    intro ht open_ r hr
    obtain ⟨b, rest, rfl, hb, hread⟩ := skipScalar_of_number h ht
    obtain rfl | hb := hb
    · exact skip_value_of_skipScalar (hr.skipBlanks_eq_cons rfl) (by decide) (by decide) hread
    · exact skip_value_of_skipScalar (hr.skipBlanks_eq_cons (isBlank_of_isDigit hb))
        (ne_of_isDigit hb rfl) (ne_of_isDigit hb rfl) hread
  | text h =>
    intro ht open_ r hr
    obtain ⟨inside, rfl, hinside⟩ := h
    exact skip_value_of_skipScalar (hr.skipBlanks_eq_cons rfl) (by decide) (by decide)
      (skipText_eq_ok_iff.2 ⟨inside, rfl, hinside⟩)
  | @empty bracket s t h =>
    intro ht open_ r hr
    have hopening : opening bracket s = .ok (.separator, t) := by
      simp only [opening, h.skipBlanks_eq_cons bracket.isBlank_close, if_true]
    exact skip_value_of_opening (hr.skipBlanks_eq_cons (isBlank_opener bracket)) hopening
  | @bracket bracket s t h ih =>
    intro ht open_ r hr
    obtain ⟨u, ⟨-, x, hopening, hx⟩, hskip⟩ := ih open_ t rfl
    rw [skip_value_of_opening (hr.skipBlanks_eq_cons (isBlank_opener bracket)) hopening]
    exact hskip x hx
  | last hl hb hv ha ih =>
    rintro outer t rfl
    refine ⟨_, leads_of_label hl hb hv, fun r hr => ?_⟩
    rw [ih (ha.stops stops_close) _ r hr, skip_separator_of_close ha]
  | more hl hb hv ha h ihv ihc =>
    rintro outer t rfl
    obtain ⟨u, ⟨⟨x, henter, hx⟩, -⟩, hskip⟩ := ihc outer t rfl
    refine ⟨_, leads_of_label hl hb hv, fun r hr => ?_⟩
    rw [ihv (ha.stops stops_comma) _ r hr, skip_separator_of_comma ha henter, hskip x hx]

theorem skipValue_of_value (hb : Blanks s u) (hv : Value u t) (ht : Stops t) :
    skipValue s = .ok t := by
  have hskip := skips_of_written hv ht [] s hb
  rw [skipValue, hskip, skip]

end Courier.Json
