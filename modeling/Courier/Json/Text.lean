import Courier.Json.Scan
import Courier.Text.Utf8

/-!
# JSON strings

Both readers start after the opening quote and end after the closing one.

* `readText` gives the string that is meant: escapes are resolved, surrogates must come in pairs,
  and the bytes must be UTF-8.
* `skipText` only finds the end: it checks that escapes are well-formed and that no control
  character stands unescaped, and looks at nothing else.

A reader's rest is never longer than what it was given (`length_lt_of_readText`,
`length_lt_of_skipText`).
-/

namespace Courier.Json

/-! ### Escapes -/

/-- What the letter after a backslash stands for, `u` apart. -/
def simpleEscape? (b : UInt8) : Option UInt8 :=
  if b = 0x22 then some 0x22
  else if b = 0x5C then some 0x5C
  else if b = 0x2F then some 0x2F
  else if b = 0x62 then some 0x08
  else if b = 0x66 then some 0x0C
  else if b = 0x6E then some 0x0A
  else if b = 0x72 then some 0x0D
  else if b = 0x74 then some 0x09
  else none

/-- The letter `u`, which starts an escape of four hexadecimal digits. -/
def letterU : UInt8 := 0x75

/-- The value of four hexadecimal digits. -/
def hex4? (a b c d : UInt8) : Option Nat := do
  let a ← hexValue? (Char.ofNat a.toNat)
  let b ← hexValue? (Char.ofNat b.toNat)
  let c ← hexValue? (Char.ofNat c.toNat)
  let d ← hexValue? (Char.ofNat d.toNat)
  return ((a * 16 + b) * 16 + c) * 16 + d

/-- Reads four hexadecimal digits.  Four bytes count as read also when they are no digits; with
fewer left, all of them do. -/
def readHex4 : List UInt8 → Except Fault (Nat × List UInt8)
  | a :: b :: c :: d :: rest =>
    match hex4? a b c d with
    | some n => .ok (n, rest)
    | none => .error (here .invalidEscape rest)
  | _ => .error (here .endInString [])

/-- A surrogate that starts a pair. -/
def isHighSurrogate (n : Nat) : Bool := 0xD800 ≤ n && n ≤ 0xDBFF

/-- A surrogate that ends a pair. -/
def isLowSurrogate (n : Nat) : Bool := 0xDC00 ≤ n && n ≤ 0xDFFF

/-- The code point of a surrogate pair. -/
def pairValue (high low : Nat) : Nat := (high - 0xD800) * 0x400 + (low - 0xDC00) + 0x10000

/-- Reads the second half of a surrogate pair, with its backslash and `u`. -/
def readLowSurrogate : List UInt8 → Except Fault (Nat × List UInt8)
  | [] => .error (here .endInString [])
  | b :: rest =>
    if b = backslash then
      match rest with
      | [] => .error (here .endInString [])
      | c :: rest =>
        if c = letterU then
          match readHex4 rest with
          | .error e => .error e
          | .ok (n, rest) =>
            if isLowSurrogate n then .ok (n, rest) else .error (here .loneSurrogate rest)
        else .error (here .unpairedSurrogate rest)
    else .error (here .unpairedSurrogate rest)

/-- Reads the digits of a `u` escape, and of a second one when the first is half of a pair. -/
def readCodePoint (s : List UInt8) : Except Fault (Nat × List UInt8) :=
  match readHex4 s with
  | .error e => .error e
  | .ok (n, rest) =>
    -- The second half of a pair cannot come first.
    if isLowSurrogate n then .error (here .loneSurrogate rest)
    else if isHighSurrogate n then
      match readLowSurrogate rest with
      | .error e => .error e
      | .ok (low, rest) => .ok (pairValue n low, rest)
    else .ok (n, rest)

/-- Reads an escape after its backslash; the answer is the UTF-8 form of what it stands for. -/
def readEscape : List UInt8 → Except Fault (List UInt8 × List UInt8)
  | [] => .error (here .endInString [])
  | b :: rest =>
    if b = letterU then
      match readCodePoint rest with
      | .error e => .error e
      | .ok (n, rest) => .ok (String.utf8EncodeChar (Char.ofNat n), rest)
    else
      match simpleEscape? b with
      | some c => .ok ([c], rest)
      | none => .error (here .invalidEscape rest)

/-- Skips an escape after its backslash. -/
def skipEscape : List UInt8 → Except Fault (List UInt8)
  | [] => .error (here .endInString [])
  | b :: rest =>
    if b = letterU then
      match readHex4 rest with
      | .error e => .error e
      | .ok (_, rest) => .ok rest
    else
      match simpleEscape? b with
      | some _ => .ok rest
      | none => .error (here .invalidEscape rest)

theorem length_lt_of_readHex4 {s rest : List UInt8} {n : Nat} (h : readHex4 s = .ok (n, rest)) :
    rest.length < s.length := by
  unfold readHex4 at h
  split at h
  · split at h
    · simp only [Except.ok.injEq, Prod.mk.injEq] at h
      obtain ⟨-, rfl⟩ := h
      simp only [List.length_cons]
      omega
    · simp at h
  · simp at h

theorem length_lt_of_readLowSurrogate {s rest : List UInt8} {n : Nat}
    (h : readLowSurrogate s = .ok (n, rest)) : rest.length < s.length := by
  unfold readLowSurrogate at h
  repeat' split at h
  all_goals try simp at h
  rename_i h4 _
  have := length_lt_of_readHex4 h4
  obtain ⟨-, rfl⟩ := h
  simp only [List.length_cons]
  omega

theorem length_lt_of_readCodePoint {s rest : List UInt8} {n : Nat}
    (h : readCodePoint s = .ok (n, rest)) : rest.length < s.length := by
  unfold readCodePoint at h
  split at h
  · simp at h
  · rename_i h4
    have h₁ := length_lt_of_readHex4 h4
    split at h
    · simp at h
    · split at h
      · split at h
        · simp at h
        · rename_i hl
          have h₂ := length_lt_of_readLowSurrogate hl
          simp only [Except.ok.injEq, Prod.mk.injEq] at h
          obtain ⟨-, rfl⟩ := h
          omega
      · simp only [Except.ok.injEq, Prod.mk.injEq] at h
        obtain ⟨-, rfl⟩ := h
        exact h₁

theorem length_lt_of_readEscape {s rest out : List UInt8} (h : readEscape s = .ok (out, rest)) :
    rest.length < s.length := by
  unfold readEscape at h
  split at h
  · simp at h
  · split at h
    · split at h
      · simp at h
      · rename_i hc
        have := length_lt_of_readCodePoint hc
        simp only [Except.ok.injEq, Prod.mk.injEq] at h
        obtain ⟨-, rfl⟩ := h
        simp only [List.length_cons]
        omega
    · split at h
      · simp only [Except.ok.injEq, Prod.mk.injEq] at h
        obtain ⟨-, rfl⟩ := h
        simp
      · simp at h

theorem length_lt_of_skipEscape {s rest : List UInt8} (h : skipEscape s = .ok rest) :
    rest.length < s.length := by
  unfold skipEscape at h
  split at h
  · simp at h
  · split at h
    · split at h
      · simp at h
      · rename_i h4
        have := length_lt_of_readHex4 h4
        simp only [Except.ok.injEq] at h
        subst h
        simp only [List.length_cons]
        omega
    · split at h
      · simp only [Except.ok.injEq] at h
        subst h
        simp
      · simp at h

/-! ### Whole strings -/

/-- Reads up to the closing quote; `done` holds the resolved bytes so far, last first. -/
def readBytes (done : List UInt8) : List UInt8 → Except Fault (List UInt8 × List UInt8)
  | [] => .error (here .endInString [])
  | b :: rest =>
    if b = quote then .ok (done.reverse, rest)
    else if b = backslash then
      match h : readEscape rest with
      | .error e => .error e
      | .ok (out, rest') =>
        have : rest'.length < rest.length := length_lt_of_readEscape h
        readBytes (out.reverse ++ done) rest'
    else if b < 0x20 then .error (here .controlCharacter rest)
    else readBytes (b :: done) rest
  termination_by s => s.length

/-- Reads a string: the text it means, and the bytes after its closing quote. -/
def readText (s : List UInt8) : Except Fault (String × List UInt8) :=
  match readBytes [] s with
  | .error e => .error e
  | .ok (bytes, rest) =>
    match Utf8.decode? bytes with
    | some text => .ok (text, rest)
    | none =>
      .error { issue := .invalidCodePoint, left := rest.length,
               back := bytes.length - Utf8.validLength bytes }

/-- Skips a string: the bytes after its closing quote. -/
def skipText : List UInt8 → Except Fault (List UInt8)
  | [] => .error (here .endInString [])
  | b :: rest =>
    if b = quote then .ok rest
    else if b = backslash then
      match h : skipEscape rest with
      | .error e => .error e
      | .ok rest' =>
        have : rest'.length < rest.length := length_lt_of_skipEscape h
        skipText rest'
    else if b < 0x20 then .error (here .controlCharacter (b :: rest))
    else skipText rest
  termination_by s => s.length

theorem length_lt_of_readBytes {done s out rest : List UInt8}
    (h : readBytes done s = .ok (out, rest)) : rest.length < s.length := by
  fun_induction readBytes done s with
  | case1 => simp at h
  | case2 done tail =>
    simp only [Except.ok.injEq, Prod.mk.injEq] at h
    obtain ⟨-, rfl⟩ := h
    simp
  | case3 => simp at h
  | case4 done tail _ _ _ _ _ ih =>
    have := ih h
    simp only [List.length_cons]
    omega
  | case5 => simp at h
  | case6 done b tail _ _ _ ih =>
    have := ih h
    simp only [List.length_cons]
    omega

theorem length_lt_of_readText {s rest : List UInt8} {text : String}
    (h : readText s = .ok (text, rest)) : rest.length < s.length := by
  unfold readText at h
  split at h
  · simp at h
  · rename_i hb
    split at h
    · simp only [Except.ok.injEq, Prod.mk.injEq] at h
      obtain ⟨-, rfl⟩ := h
      exact length_lt_of_readBytes hb
    · simp at h

theorem length_lt_of_skipText {s rest : List UInt8} (h : skipText s = .ok rest) :
    rest.length < s.length := by
  fun_induction skipText s with
  | case1 => simp at h
  | case2 tail =>
    simp only [Except.ok.injEq] at h
    subst h
    simp
  | case3 => simp at h
  | case4 tail _ _ _ _ ih =>
    have := ih h
    simp only [List.length_cons]
    omega
  | case5 => simp at h
  | case6 b tail _ _ _ ih =>
    have := ih h
    simp only [List.length_cons]
    omega

end Courier.Json
