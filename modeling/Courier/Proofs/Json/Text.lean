import Courier.Proofs.Json.Grammar
import Courier.Proofs.Text.Utf8

/-!
# Blanks and strings are read as the grammar has them

For every reader of `Json.Scan` and `Json.Text` this module says what it takes from its input, in
the terms of the grammar, and that it fails on nothing that the grammar allows.

* `blanks_skipBlanks`, `Grammar.Blanks.skipBlanks_eq`: blanks are dropped as far as they go.
* `readHex4_eq_ok_iff`, `escape_of_readEscape`, `readEscape_of_escape`: escapes.
* `readText_eq_ok_iff`: a string is read if and only if it is one, and as the text that it means.
  The reader joins bytes and escapes first and looks for UTF-8 afterwards; that no character is made
  of an escape and bytes around it is `Resolves.chars`.
* `skipText_eq_ok_iff`: a string that nobody wants to know.  Every string is one:
  `Grammar.Text.raw`.
-/

namespace Courier.Json

open Grammar

/-! ### Blanks -/

theorem skipBlanks_cons_of_isBlank {b : UInt8} {s : List UInt8} (hb : isBlank b = true) :
    skipBlanks (b :: s) = skipBlanks s :=
  List.dropWhile_cons_of_pos hb

theorem skipBlanks_cons {b : UInt8} {s : List UInt8} (hb : isBlank b = false) :
    skipBlanks (b :: s) = b :: s :=
  List.dropWhile_cons_of_neg (ne_true_of_eq_false hb)

theorem blanks_skipBlanks (s : List UInt8) : Blanks s (skipBlanks s) := by
  induction s with
  | nil => exact .nil
  | cons b s ih =>
    cases hb : isBlank b with
    | true => exact .cons hb (by rwa [skipBlanks_cons_of_isBlank hb])
    | false =>
      rw [skipBlanks_cons hb]
      exact .nil

theorem blanks_of_skipBlanks {s t : List UInt8} (h : skipBlanks s = t) : Blanks s t :=
  h ▸ blanks_skipBlanks s

namespace Grammar.Blanks

theorem trans {s t u : List UInt8} (h : Blanks s t) (h' : Blanks t u) : Blanks s u := by
  induction h with
  | nil => exact h'
  | cons hb _ ih => exact .cons hb (ih h')

/-- Blanks are dropped as far as they go. -/
theorem skipBlanks_eq {s t : List UInt8} (h : Blanks s t) : skipBlanks s = skipBlanks t := by
  induction h with
  | nil => rfl
  | cons hb _ ih => rw [skipBlanks_cons_of_isBlank hb, ih]

theorem skipBlanks_eq_cons {b : UInt8} {s t : List UInt8} (h : Blanks s (b :: t))
    (hb : isBlank b = false) : skipBlanks s = b :: t := by
  rw [h.skipBlanks_eq, skipBlanks_cons hb]

end Grammar.Blanks

/-! ### Literals -/

theorem readWord_eq_ok_iff {word s t : List UInt8} : readWord word s = .ok t ↔ s = word ++ t := by
  induction word generalizing s with
  | nil => simp only [readWord, Except.ok.injEq, List.nil_append]
  | cons w word ih =>
    cases s with
    | nil => simp only [readWord, List.cons_append, reduceCtorEq]
    | cons b s =>
      simp only [readWord, List.cons_append, List.cons.injEq]
      by_cases hb : b = w
      · simp only [hb, if_true, true_and, ih]
      · simp only [hb, if_false, false_and, reduceCtorEq]

/-! ### Hexadecimal digits -/

theorem hexValue?_eq_some_iff {b : UInt8} {n : Nat} :
    hexValue? (Char.ofNat b.toNat) = some n ↔ HexDigit b n := by
  have hlt : b.toNat < 256 := b.toNat_lt
  have htoNat : (Char.ofNat b.toNat).toNat = b.toNat :=
    Utf8.toNat_ofNat_of_isValidChar (Or.inl (by omega))
  simp only [hexValue?, HexDigit, htoNat, UInt8.le_iff_toNat_le, UInt8.reduceToNat,
    Bool.and_eq_true, decide_eq_true_eq]
  repeat' split
  all_goals simp only [Option.some.injEq, reduceCtorEq, false_iff]
  all_goals omega

theorem readHex4_eq_ok_iff {s t : List UInt8} {n : Nat} :
    readHex4 s = .ok (n, t) ↔ HexCode s n t := by
  constructor
  · intro h
    unfold readHex4 at h
    split at h
    · split at h
      · rename_i hx
        simp only [Except.ok.injEq, Prod.mk.injEq] at h
        obtain ⟨rfl, rfl⟩ := h
        simp only [hex4?, Option.bind_eq_bind, Option.bind_eq_some_iff, hexValue?_eq_some_iff,
          Option.pure_def, Option.some.injEq] at hx
        obtain ⟨w, ha, x, hb, y, hc, z, hd, rfl⟩ := hx
        exact .mk ha hb hc hd
      · cases h
    · cases h
  · rintro ⟨ha, hb, hc, hd⟩
    rw [← hexValue?_eq_some_iff] at ha hb hc hd
    simp only [readHex4, hex4?, ha, hb, hc, hd, Option.bind_eq_bind, Option.bind_some,
      Option.pure_def]

theorem Grammar.HexDigit.lt {b : UInt8} {n : Nat} (h : HexDigit b n) : n < 16 :=
  hexValue?_lt (hexValue?_eq_some_iff.2 h)

theorem Grammar.HexCode.lt {s t : List UInt8} {n : Nat} (h : HexCode s n t) : n < 0x10000 := by
  obtain ⟨ha, hb, hc, hd⟩ := h
  have := ha.lt
  have := hb.lt
  have := hc.lt
  have := hd.lt
  omega

/-! ### Escapes -/

/-- The table of the reader and that of the grammar agree. -/
theorem simpleEscape?_of_mem : ∀ p ∈ shortEscapes,
    simpleEscape? p.1 = some (UInt8.ofNat p.2.toNat) ∧ p.2.toNat < 0x80 ∧ p.1 ≠ letterU := by
  decide

theorem exists_mem_shortEscapes {letter b : UInt8} (h : simpleEscape? letter = some b) :
    ∃ c, (letter, c) ∈ shortEscapes ∧ b = UInt8.ofNat c.toNat := by
  refine ⟨Char.ofNat b.toNat, ?_⟩
  unfold simpleEscape? at h
  repeat' split at h
  case isFalse.isFalse.isFalse.isFalse.isFalse.isFalse.isFalse.isFalse => cases h
  all_goals
    subst letter
    obtain rfl := Option.some.inj h
    decide

theorem isHighSurrogate_iff {n : Nat} : isHighSurrogate n = true ↔ 0xD800 ≤ n ∧ n ≤ 0xDBFF := by
  simp only [isHighSurrogate, Bool.and_eq_true, decide_eq_true_eq]

theorem isLowSurrogate_iff {n : Nat} : isLowSurrogate n = true ↔ 0xDC00 ≤ n ∧ n ≤ 0xDFFF := by
  simp only [isLowSurrogate, Bool.and_eq_true, decide_eq_true_eq]

/-- A character is no surrogate. -/
theorem surrogate_toNat (c : Char) :
    isLowSurrogate c.toNat = false ∧ isHighSurrogate c.toNat = false := by
  have hvalid : c.toNat < 0xD800 ∨ 0xDFFF < c.toNat ∧ c.toNat < 0x110000 := c.valid
  simp only [← Bool.not_eq_true, isLowSurrogate_iff, isHighSurrogate_iff]
  omega

theorem hexCode_of_readLowSurrogate {s t : List UInt8} {n : Nat}
    (h : readLowSurrogate s = .ok (n, t)) :
    ∃ u, s = backslash :: letterU :: u ∧ HexCode u n t ∧ 0xDC00 ≤ n ∧ n ≤ 0xDFFF := by
  unfold readLowSurrogate at h
  split at h
  · cases h
  · split at h
    · rename_i hb
      subst hb
      split at h
      · cases h
      · split at h
        · rename_i hc
          subst hc
          split at h
          · cases h
          · rename_i hread
            split at h
            · rename_i hlow
              simp only [Except.ok.injEq, Prod.mk.injEq] at h
              obtain ⟨rfl, rfl⟩ := h
              exact ⟨_, rfl, readHex4_eq_ok_iff.1 hread, isLowSurrogate_iff.1 hlow⟩
            · cases h
        · cases h
    · cases h

/-- Behind the letter of an escape stands the number of a character, or a pair of surrogates. -/
theorem escape_of_readCodePoint {s t : List UInt8} {n : Nat} (h : readCodePoint s = .ok (n, t)) :
    Escape (letterU :: s) (Char.ofNat n) t := by
  unfold readCodePoint at h
  split at h
  · cases h
  · rename_i first rest hread
    have hcode := readHex4_eq_ok_iff.1 hread
    have hlt := hcode.lt
    split at h
    · cases h
    · rename_i hlow
      rw [isLowSurrogate_iff] at hlow
      split at h
      · rename_i hhigh
        rw [isHighSurrogate_iff] at hhigh
        split at h
        · cases h
        · rename_i second rest' hread'
          simp only [Except.ok.injEq, Prod.mk.injEq] at h
          obtain ⟨rfl, rfl⟩ := h
          obtain ⟨u, rfl, hsecond, hl⟩ := hexCode_of_readLowSurrogate hread'
          refine .pair hcode hsecond hhigh hl (Utf8.toNat_ofNat_of_isValidChar (Or.inr ?_))
          simp only [pairValue]
          omega
      · rename_i hhigh
        rw [isHighSurrogate_iff] at hhigh
        simp only [Except.ok.injEq, Prod.mk.injEq] at h
        obtain ⟨rfl, rfl⟩ := h
        refine .code ?_
        rwa [Utf8.toNat_ofNat_of_isValidChar]
        simp only [Nat.isValidChar]
        omega

/-- An escape is read as the UTF-8 form of the character that is meant. -/
theorem readEscape_of_escape {s t : List UInt8} {c : Char} (h : Escape s c t) :
    readEscape s = .ok (String.utf8EncodeChar c, t) := by
  cases h with
  | short h =>
    obtain ⟨hread, hlt, hne⟩ := simpleEscape?_of_mem _ h
    simp only [readEscape, if_neg hne, hread, Utf8.utf8EncodeChar_of_lt hlt]
  | code h =>
    have hread : readHex4 _ = .ok (c.toNat, t) := readHex4_eq_ok_iff.2 h
    obtain ⟨hlow, hhigh⟩ := surrogate_toNat c
    simp only [readEscape, if_true, readCodePoint, hread, hlow, hhigh, Bool.false_eq_true, if_false,
      Char.ofNat_toNat]
  | @pair c high low s t u hhigh hlow hh hl hc =>
    have hread := readHex4_eq_ok_iff.2 hhigh
    have hread' := readHex4_eq_ok_iff.2 hlow
    have hfirst : ¬isLowSurrogate high = true := fun h => by
      have := isLowSurrogate_iff.1 h
      omega
    simp only [readEscape, if_true, readCodePoint, hread, if_neg hfirst,
      if_pos (isHighSurrogate_iff.2 hh), readLowSurrogate, hread',
      if_pos (isLowSurrogate_iff.2 hl), pairValue, ← hc, Char.ofNat_toNat]

/-- What is read as an escape is one. -/
theorem escape_of_readEscape {s t out : List UInt8} (h : readEscape s = .ok (out, t)) :
    ∃ c, out = String.utf8EncodeChar c ∧ Escape s c t := by
  unfold readEscape at h
  split at h
  · cases h
  · split at h
    · rename_i hb
      subst hb
      split at h
      · cases h
      · rename_i hread
        simp only [Except.ok.injEq, Prod.mk.injEq] at h
        obtain ⟨rfl, rfl⟩ := h
        exact ⟨_, rfl, escape_of_readCodePoint hread⟩
    · split at h
      · rename_i hread
        simp only [Except.ok.injEq, Prod.mk.injEq] at h
        obtain ⟨rfl, rfl⟩ := h
        obtain ⟨c, hmem, rfl⟩ := exists_mem_shortEscapes hread
        exact ⟨c, (Utf8.utf8EncodeChar_of_lt (simpleEscape?_of_mem _ hmem).2.1).symm, .short hmem⟩
      · cases h

/-! ### Strings -/

/-- Bytes that stand for themselves in a string. -/
def IsPlain (b : UInt8) : Prop := ¬b = quote ∧ ¬b = backslash ∧ ¬b < 0x20

/-- Bytes that are not ASCII stand for themselves. -/
theorem isPlain_of_le {b : UInt8} (h : 0x80 ≤ b) : IsPlain b := by
  refine ⟨?_, ?_, ?_⟩
  · rintro rfl
    exact absurd h (by decide)
  · rintro rfl
    exact absurd h (by decide)
  · rw [UInt8.lt_iff_toNat_lt]
    have := UInt8.le_iff_toNat_le.1 h
    simp only [UInt8.reduceToNat] at this ⊢
    omega

theorem isPlain_of_isContinuation {b : UInt8} (h : Utf8.isContinuation b = true) : IsPlain b := by
  simp only [Utf8.isContinuation, Bool.and_eq_true, decide_eq_true_eq] at h
  exact isPlain_of_le h.1

/-- A character below U+0080 stands for itself if and only if its byte does. -/
theorem isPlain_ofNat_iff {c : Char} (h : c.toNat < 0x80) :
    IsPlain (UInt8.ofNat c.toNat) ↔ 0x20 ≤ c.toNat ∧ c ≠ '"' ∧ c ≠ '\\' := by
  have htoNat : (UInt8.ofNat c.toNat).toNat = c.toNat :=
    UInt8.toNat_ofNat_of_lt' (Nat.lt_trans h (by decide))
  have hquote : UInt8.ofNat c.toNat = quote ↔ c = '"' := by
    rw [← UInt8.toNat_inj, htoNat, ← Char.toNat_inj]
    rfl
  have hbackslash : UInt8.ofNat c.toNat = backslash ↔ c = '\\' := by
    rw [← UInt8.toNat_inj, htoNat, ← Char.toNat_inj]
    rfl
  rw [IsPlain, hquote, hbackslash, UInt8.lt_iff_toNat_lt, htoNat, Nat.not_lt]
  exact and_rotate.symm

/-- The bytes of a plain character are plain. -/
theorem isPlain_of_mem_utf8EncodeChar {c : Char} (hc : 0x20 ≤ c.toNat) (hq : c ≠ '"')
    (hb : c ≠ '\\') : ∀ b ∈ String.utf8EncodeChar c, IsPlain b := by
  by_cases hlt : c.toNat < 0x80
  · rw [Utf8.utf8EncodeChar_of_lt hlt]
    intro b hmem
    rw [List.mem_singleton.1 hmem]
    exact (isPlain_ofNat_iff hlt).2 ⟨hc, hq, hb⟩
  · obtain ⟨lead, more, heq, hlead, hmore⟩ := Utf8.exists_utf8EncodeChar_eq (Nat.le_of_not_lt hlt)
    rw [heq]
    intro b hmem
    rcases List.mem_cons.1 hmem with rfl | hmem
    · exact isPlain_of_le (UInt8.le_trans (by decide) hlead)
    · exact isPlain_of_isContinuation (hmore b hmem)

/-- A character whose first byte is plain is so itself. -/
theorem isPlain_char {c : Char} {lead : UInt8} {more : List UInt8}
    (h : String.utf8EncodeChar c = lead :: more) (hlead : IsPlain lead) :
    0x20 ≤ c.toNat ∧ c ≠ '"' ∧ c ≠ '\\' := by
  by_cases hlt : c.toNat < 0x80
  · rw [Utf8.utf8EncodeChar_of_lt hlt] at h
    obtain rfl := (List.cons.inj h).1
    exact (isPlain_ofNat_iff hlt).1 hlead
  · refine ⟨by omega, ?_, ?_⟩
    · rintro rfl
      exact hlt (by decide)
    · rintro rfl
      exact hlt (by decide)

theorem readBytes_quote (done s : List UInt8) :
    readBytes done (quote :: s) = .ok (done.reverse, s) := by
  rw [readBytes, if_pos rfl]

theorem readBytes_backslash {done s t out : List UInt8} (h : readEscape s = .ok (out, t)) :
    readBytes done (backslash :: s) = readBytes (out.reverse ++ done) t := by
  rw [readBytes, if_neg (by decide), if_pos rfl]
  split
  · rename_i hread
    rw [h] at hread
    cases hread
  · rename_i hread
    rw [h] at hread
    cases hread
    rfl

theorem readBytes_plain {done : List UInt8} (bytes s : List UInt8)
    (h : ∀ b ∈ bytes, IsPlain b) :
    readBytes done (bytes ++ s) = readBytes (bytes.reverse ++ done) s := by
  induction bytes generalizing done with
  | nil => rfl
  | cons b bytes ih =>
    obtain ⟨hq, hb, hc⟩ := h b (List.mem_cons_self ..)
    rw [List.cons_append, readBytes, if_neg hq, if_neg hb, if_neg hc,
      ih fun b hb => h b (List.mem_cons_of_mem _ hb), List.reverse_cons, List.append_assoc,
      List.singleton_append]

theorem readBytes_of_chars {s t : List UInt8} {cs : List Char} (h : Chars s cs (quote :: t))
    (done : List UInt8) :
    readBytes done s = .ok (done.reverse ++ cs.flatMap String.utf8EncodeChar, t) := by
  generalize hu : quote :: t = u at h
  -- The reader keeps what it has read so far, the last byte first, in `done`.
  induction h generalizing done with
  | nil =>
    rw [← hu, readBytes_quote, List.flatMap_nil, List.append_nil]
  | plain hc hq hb h ih =>
    rw [readBytes_plain _ _ (isPlain_of_mem_utf8EncodeChar hc hq hb), ih _ hu,
      List.reverse_append, List.reverse_reverse, List.flatMap_cons, List.append_assoc]
  | escape he h ih =>
    rw [readBytes_backslash (readEscape_of_escape he), ih _ hu, List.reverse_append,
      List.reverse_reverse, List.flatMap_cons, List.append_assoc]

/-- The inside of a string, and the bytes that it stands for, whether or not they are UTF-8. -/
inductive Resolves : List UInt8 → List UInt8 → List UInt8 → Prop where
  | nil {s : List UInt8} : Resolves s [] s
  | plain {b : UInt8} {s out t : List UInt8} (hb : IsPlain b) (h : Resolves s out t) :
    Resolves (b :: s) (b :: out) t
  | escape {c : Char} {s out t u : List UInt8} (he : Escape s c t) (h : Resolves t out u) :
    Resolves (backslash :: s) (String.utf8EncodeChar c ++ out) u

theorem resolves_of_readBytes {done s out t : List UInt8} (h : readBytes done s = .ok (out, t)) :
    ∃ more, out = done.reverse ++ more ∧ Resolves s more (quote :: t) := by
  fun_induction readBytes done s with
  | case1 => cases h
  | case2 done s =>
    cases h
    exact ⟨[], (List.append_nil _).symm, .nil⟩
  | case3 => cases h
  | case4 done s out' s' hread hlt hq ih =>
    obtain ⟨more, rfl, hmore⟩ := ih h
    obtain ⟨c, rfl, hescape⟩ := escape_of_readEscape hread
    refine ⟨String.utf8EncodeChar c ++ more, ?_, .escape hescape hmore⟩
    rw [List.reverse_append, List.reverse_reverse, List.append_assoc]
  | case5 => cases h
  | case6 done b s hq hb hc ih =>
    obtain ⟨more, rfl, hmore⟩ := ih h
    refine ⟨b :: more, ?_, .plain ⟨hq, hb, hc⟩ hmore⟩
    rw [List.reverse_cons, List.append_assoc, List.singleton_append]

/-- A byte that continues a character comes from no escape. -/
theorem Resolves.exists_eq_append {more s out t : List UInt8} (h : Resolves s (more ++ out) t)
    (hmore : ∀ b ∈ more, Utf8.isContinuation b = true) :
    ∃ rest, s = more ++ rest ∧ Resolves rest out t := by
  induction more generalizing s with
  | nil => exact ⟨s, rfl, h⟩
  | cons b more ih =>
    have hb := hmore b (List.mem_cons_self ..)
    generalize hall : b :: more ++ out = all at h
    cases h with
    | nil => cases hall
    | plain hplain h =>
      cases hall
      obtain ⟨rest, rfl, hrest⟩ := ih h fun b hb => hmore b (List.mem_cons_of_mem _ hb)
      exact ⟨rest, rfl, hrest⟩
    | @escape c s out' t u he h =>
      -- What an escape means begins with a first byte, and that continues nothing.
      obtain ⟨lead, rest, heq⟩ := List.exists_cons_of_ne_nil (String.utf8EncodeChar_ne_nil (c := c))
      rw [heq] at hall
      obtain rfl : b = lead := (List.cons.inj hall).1
      rw [Utf8.isContinuation_lead heq] at hb
      cases hb

/-- Bytes that are UTF-8 come character by character: none is made of an escape and of bytes around
it. -/
theorem Resolves.chars {s t : List UInt8} {cs : List Char}
    (h : Resolves s (cs.flatMap String.utf8EncodeChar) t) : Chars s cs t := by
  induction cs generalizing s with
  | nil =>
    generalize hall : [].flatMap String.utf8EncodeChar = all at h
    cases h with
    | nil => exact .nil
    | plain => cases hall
    | escape => exact absurd (List.append_eq_nil_iff.1 hall.symm).1 String.utf8EncodeChar_ne_nil
  | cons c cs ih =>
    obtain ⟨lead, more, heq⟩ := List.exists_cons_of_ne_nil (String.utf8EncodeChar_ne_nil (c := c))
    rw [List.flatMap_cons] at h
    generalize hall : String.utf8EncodeChar c ++ cs.flatMap String.utf8EncodeChar = all at h
    cases h with
    | nil => exact absurd (List.append_eq_nil_iff.1 hall).1 String.utf8EncodeChar_ne_nil
    | escape he h =>
      obtain ⟨rfl, rfl⟩ := Utf8.utf8EncodeChar_append_inj hall
      exact .escape he (ih h)
    | plain hb h =>
      -- The first byte stands for itself, and so do those that continue it.
      rw [heq] at hall
      obtain ⟨rfl, rfl⟩ := List.cons.inj hall
      obtain ⟨rest, rfl, hrest⟩ := h.exists_eq_append (Utf8.isContinuation_of_mem heq)
      obtain ⟨hc, hq, hb⟩ := isPlain_char heq hb
      have hchars := Chars.plain hc hq hb (ih hrest)
      rwa [heq] at hchars

/-- A string is read if and only if it is one, and as the text that it means. -/
theorem readText_eq_ok_iff {s t : List UInt8} {text : String} :
    readText s = .ok (text, t) ↔ Text (quote :: s) text t := by
  constructor
  · intro h
    unfold readText at h
    split at h
    · cases h
    · rename_i bytes rest hread
      split at h
      · rename_i hdecode
        simp only [Except.ok.injEq, Prod.mk.injEq] at h
        obtain ⟨rfl, rfl⟩ := h
        obtain ⟨out, hbytes, hout⟩ := resolves_of_readBytes hread
        rw [List.reverse_nil, List.nil_append] at hbytes
        subst hbytes
        rw [Utf8.decode?_eq_some_iff, Utf8.encode_eq_flatMap] at hdecode
        rw [← hdecode] at hout
        exact ⟨s, rfl, hout.chars⟩
      · cases h
  · rintro ⟨inside, hinside, h⟩
    obtain rfl := (List.cons.inj hinside).2
    have hdecode := Utf8.decode?_encode text
    rw [Utf8.encode_eq_flatMap] at hdecode
    simp only [readText, readBytes_of_chars h, List.reverse_nil, List.nil_append, hdecode]

/-! ### Strings that nobody wants to know -/

theorem skipEscape_eq_ok_iff {s t : List UInt8} : skipEscape s = .ok t ↔ RawEscape s t := by
  constructor
  · intro h
    unfold skipEscape at h
    split at h
    · cases h
    · split at h
      · rename_i hb
        subst hb
        split at h
        · cases h
        · rename_i hread
          cases h
          exact .code (readHex4_eq_ok_iff.1 hread)
      · split at h
        · rename_i hread
          cases h
          obtain ⟨c, hmem, -⟩ := exists_mem_shortEscapes hread
          exact .short (List.mem_map_of_mem hmem)
        · cases h
  · intro h
    cases h with
    | short hmem =>
      obtain ⟨p, hp, rfl⟩ := List.mem_map.1 hmem
      obtain ⟨hread, -, hne⟩ := simpleEscape?_of_mem p hp
      simp only [skipEscape, if_neg hne, hread]
    | code hcode => simp only [skipEscape, if_true, readHex4_eq_ok_iff.2 hcode]

theorem skipText_backslash {s t : List UInt8} (h : skipEscape s = .ok t) :
    skipText (backslash :: s) = skipText t := by
  rw [skipText, if_neg (by decide), if_pos rfl]
  split
  · rename_i hread
    rw [h] at hread
    cases hread
  · rename_i hread
    rw [h] at hread
    cases hread
    rfl

/-- A string that nobody wants to know is skipped if and only if it is one. -/
theorem skipText_eq_ok_iff {s t : List UInt8} : skipText s = .ok t ↔ RawText (quote :: s) t := by
  constructor
  · intro h
    suffices RawChars s (quote :: t) from ⟨s, rfl, this⟩
    fun_induction skipText s with
    | case1 => cases h
    | case2 s =>
      cases h
      exact .nil
    | case3 => cases h
    | case4 s s' hread hlt hq ih => exact .escape (skipEscape_eq_ok_iff.1 hread) (ih h)
    | case5 => cases h
    | case6 b s hq hb hc ih => exact .plain (UInt8.not_lt.1 hc) hq hb (ih h)
  · rintro ⟨inside, hinside, h⟩
    obtain rfl := (List.cons.inj hinside).2
    clear hinside
    generalize hu : quote :: t = u at h
    induction h with
    | nil => rw [← hu, skipText, if_pos rfl]
    | plain hc hq hb h ih => rw [skipText, if_neg hq, if_neg hb, if_neg (UInt8.not_lt.2 hc), ih hu]
    | escape he h ih => rw [skipText_backslash (skipEscape_eq_ok_iff.2 he), ih hu]

/-! ### Strings are raw strings -/

theorem Grammar.RawChars.append {s t : List UInt8} (bytes : List UInt8)
    (hbytes : ∀ b ∈ bytes, IsPlain b) (h : RawChars s t) : RawChars (bytes ++ s) t := by
  induction bytes with
  | nil => exact h
  | cons b bytes ih =>
    obtain ⟨hq, hb, hc⟩ := hbytes b (List.mem_cons_self ..)
    exact .plain (UInt8.not_lt.1 hc) hq hb (ih fun b hb => hbytes b (List.mem_cons_of_mem _ hb))

theorem Grammar.Chars.raw {s t : List UInt8} {cs : List Char} (h : Chars s cs t) :
    RawChars s t := by
  induction h with
  | nil => exact .nil
  | plain hc hq hb _ ih => exact ih.append _ (isPlain_of_mem_utf8EncodeChar hc hq hb)
  | escape he _ ih =>
    cases he with
    | short hmem => exact .escape (.short (List.mem_map_of_mem hmem)) ih
    | code hcode => exact .escape (.code hcode) ih
    | pair hhigh hlow => exact .escape (.code hhigh) (.escape (.code hlow) ih)

/-- Whoever does not want to know a string takes every string that has a meaning, and some more. -/
theorem Grammar.Text.raw {s t : List UInt8} {text : String} (h : Text s text t) : RawText s t := by
  obtain ⟨inside, rfl, hinside⟩ := h
  exact ⟨inside, rfl, hinside.raw⟩

end Courier.Json
