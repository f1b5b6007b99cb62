import Courier.Json.Number
import Courier.Json.Text

/-!
# Skipping a value

`skipValue` finds the end of a JSON value that nobody wants to know.  It checks the form of
everything it passes, to any depth, with the brackets that are still open on a stack of its own, so
that a document nested a million deep costs no more than its length.

The loop `skip` is in one of two states (`Due`): a value is due, or a value has just ended and the
bracket around it, if there is one, says what may follow.
-/

namespace Courier.Json

/-- A bracket that is still open. -/
inductive Bracket where
  | list
  | object
  deriving DecidableEq, Repr

/-- The document ended inside the bracket. -/
def Bracket.ended : Bracket → Issue
  | .list => .endInList
  | .object => .endInObject

/-- Neither a comma nor the closing byte follows a value inside the bracket. -/
def Bracket.unseparated : Bracket → Issue
  | .list => .expectedListEnd
  | .object => .expectedObjectEnd

/-- The byte that closes the bracket. -/
def Bracket.close : Bracket → UInt8
  | .list => closeList
  | .object => closeObject

/-- What the loop waits for. -/
inductive Due where
  | value
  | separator
  deriving DecidableEq, Repr

/-- Skips a key and its colon. -/
def skipKey (s : List UInt8) : Except Fault (List UInt8) :=
  match skipBlanks s with
  | [] => .error (ahead .endInObject [])
  | b :: rest =>
    if b = quote then
      match skipText rest with
      | .error e => .error e
      | .ok rest =>
        match skipBlanks rest with
        | [] => .error (ahead .endInObject [])
        | b :: rest =>
          if b = colon then .ok rest else .error (ahead .expectedColon (b :: rest))
    else .error (ahead .keyNotString (b :: rest))

/-- Skips a value that is no list and no object, given its first byte. -/
def skipScalar (b : UInt8) (rest : List UInt8) : Except Fault (List UInt8) :=
  if b = 0x6E then readWord nullTail rest
  else if b = 0x74 then readWord trueTail rest
  else if b = 0x66 then readWord falseTail rest
  else if b = minus then skipUnsigned rest
  else if isDigit b then skipUnsigned (b :: rest)
  else if b = quote then skipText rest
  else .error (ahead .expectedValue (b :: rest))

/-- The next value of an open bracket: an object's starts with its key. -/
def enter (bracket : Bracket) (s : List UInt8) : Except Fault (List UInt8) :=
  match bracket with
  | .list => .ok s
  | .object => skipKey s

/-- What stands right after an opening bracket: its closing byte, and then a separator is due, or
something else, and then a value is due. -/
def opening (bracket : Bracket) (s : List UInt8) : Except Fault (Due × List UInt8) :=
  match skipBlanks s with
  | [] => .error (ahead bracket.ended [])
  | b :: rest =>
    if b = bracket.close then .ok (.separator, rest)
    else
      match enter bracket (b :: rest) with
      | .error e => .error e
      | .ok rest => .ok (.value, rest)

theorem length_lt_of_skipKey {s rest : List UInt8} (h : skipKey s = .ok rest) :
    rest.length < s.length := by
  unfold skipKey at h
  split at h
  · simp at h
  · rename_i b tail hs
    have h₁ := length_lt_of_skipBlanks hs
    split at h
    · split at h
      · simp at h
      · rename_i ht
        have h₂ := length_lt_of_skipText ht
        split at h
        · simp at h
        · rename_i hb
          have h₃ := length_lt_of_skipBlanks hb
          split at h
          · have := Except.ok.inj h
            subst this
            omega
          · simp at h
    · simp at h

theorem length_le_of_skipScalar {b : UInt8} {rest rest' : List UInt8}
    (h : skipScalar b rest = .ok rest') : rest'.length ≤ rest.length := by
  unfold skipScalar at h
  repeat' split at h
  · exact length_le_of_readWord h
  · exact length_le_of_readWord h
  · exact length_le_of_readWord h
  · exact Nat.le_of_lt (length_lt_of_skipUnsigned h)
  · exact Nat.le_of_lt_succ (length_lt_of_skipUnsigned h)
  · exact Nat.le_of_lt (length_lt_of_skipText h)
  · simp at h

theorem length_le_of_enter {bracket : Bracket} {s rest : List UInt8}
    (h : enter bracket s = .ok rest) : rest.length ≤ s.length := by
  cases bracket with
  | list => exact Except.ok.inj h ▸ Nat.le_refl _
  | object => exact Nat.le_of_lt (length_lt_of_skipKey h)

theorem length_le_of_opening {bracket : Bracket} {due : Due} {s rest : List UInt8}
    (h : opening bracket s = .ok (due, rest)) : rest.length ≤ s.length := by
  unfold opening at h
  split at h
  · simp at h
  · rename_i b tail hs
    have h₁ := length_lt_of_skipBlanks hs
    split at h
    · simp only [Except.ok.injEq, Prod.mk.injEq] at h
      obtain ⟨-, rfl⟩ := h
      exact Nat.le_of_lt h₁
    · split at h
      · simp at h
      · rename_i he
        have h₂ := length_le_of_enter he
        simp only [Except.ok.injEq, Prod.mk.injEq] at h
        obtain ⟨-, rfl⟩ := h
        simp only [List.length_cons] at h₂
        omega

/-- The brackets that are open after an opening one: it counts only if a value stands in it. -/
def Due.opened (due : Due) (bracket : Bracket) (open_ : List Bracket) : List Bracket :=
  match due with
  | .value => bracket :: open_
  | .separator => open_

/-- Skips up to the end of the value that the bottom of the stack, or the document, holds. -/
def skip (due : Due) (open_ : List Bracket) (s : List UInt8) : Except Fault (List UInt8) :=
  match due with
  | .value =>
    match hs : skipBlanks s with
    | [] => .error (ahead .endInValue [])
    | b :: rest =>
      have := length_lt_of_skipBlanks hs
      if b = openList then
        match h : opening .list rest with
        | .error e => .error e
        | .ok (due, rest') =>
          have := length_le_of_opening h
          skip due (due.opened .list open_) rest'
      else if b = openObject then
        match h : opening .object rest with
        | .error e => .error e
        | .ok (due, rest') =>
          have := length_le_of_opening h
          skip due (due.opened .object open_) rest'
      else
        match h : skipScalar b rest with
        | .error e => .error e
        | .ok rest' =>
          have := length_le_of_skipScalar h
          skip .separator open_ rest'
  | .separator =>
    match open_ with
    | [] => .ok s
    | bracket :: outer =>
      match hs : skipBlanks s with
      | [] => .error (ahead bracket.ended [])
      | b :: rest =>
        have := length_lt_of_skipBlanks hs
        if b = comma then
          match h : enter bracket rest with
          | .error e => .error e
          | .ok rest' =>
            have := length_le_of_enter h
            skip .value (bracket :: outer) rest'
        else if b = bracket.close then skip .separator outer rest
        else .error (ahead bracket.unseparated (b :: rest))
  termination_by s.length

/-- Skips one value, with the blanks in front of it: the bytes after it. -/
def skipValue (s : List UInt8) : Except Fault (List UInt8) := skip .value [] s

theorem length_le_of_skip {due : Due} {open_ : List Bracket} {s rest : List UInt8}
    (h : skip due open_ s = .ok rest) : rest.length ≤ s.length := by
  fun_induction skip due open_ s with
  | case1 | case2 | case4 | case6 | case9 | case10 | case13 => simp at h
  | case8 => exact Except.ok.inj h ▸ Nat.le_refl _
  | case3 | case5 | case7 | case11 | case12 =>
    rename_i ih
    have := ih h
    omega

theorem length_le_of_skipValue {s rest : List UInt8} (h : skipValue s = .ok rest) :
    rest.length ≤ s.length := length_le_of_skip h

end Courier.Json
