import Courier.Command.Basic
import Courier.Decimal.Shortest
import Courier.Json.Skip

/-!
# Reading a command

A command is a JSON object with its fields as members, in any order, or a JSON list with the fields
in their own order, cut off anywhere.  A field that is missing or `null` has its default.  Members
with other names are skipped, whatever they hold; a field that comes twice is refused.

* `readField` reads the value of one field into a command.
* `readMembers` reads the members of an object, `readItems` the items of a list.
* `decode` reads a whole document; a `DecodeError` keeps the document for the log.
-/

namespace Courier

/-- A document that is no command. -/
structure DecodeError where
  raw : List UInt8
  fault : Json.Fault
  deriving DecidableEq, Repr

namespace DecodeError

/-- Where in the document the fault lies. -/
def place (e : DecodeError) : Json.Place := e.fault.place e.raw

/-- What the log says. -/
def message (e : DecodeError) : String :=
  "invalid command payload: " ++ e.fault.issue.message ++ " at line " ++ decimal e.place.line ++
    " column " ++ decimal e.place.column

/-- The document as readable text. -/
def rawLossy (e : DecodeError) : String := Utf8.decodeLossy e.raw

end DecodeError

namespace Command

open Json

/-! ### Values -/

/-- What a number is called where it is not wanted. -/
def foundNumber : Number → Found
  | .natural n => .integer n
  | .negative i => .integer i
  | .float f => .float (floatText f)

/-- The fault for a value that is not of the wanted kind, given its first byte.  Literals, numbers
and strings are read to their end first and may have a fault of their own. -/
def unwanted (wanted : Wanted) (b : UInt8) (rest : List UInt8) : Fault :=
  let afterWord (word : List UInt8) (found : Found) : Fault :=
    match readWord word rest with
    | .ok rest => here (.wrongType found wanted) rest
    | .error e => e
  if b = 0x6E then afterWord nullTail .null
  else if b = 0x74 then afterWord trueTail (.boolean true)
  else if b = 0x66 then afterWord falseTail (.boolean false)
  else if b = minus ∨ isDigit b then
    match readNumber (b :: rest) with
    | .ok (n, rest) => here (.wrongType (foundNumber n) wanted) rest
    | .error e => e
  else if b = quote then
    match readText rest with
    | .ok (text, rest) => here (.wrongType (.string text) wanted) rest
    | .error e => e
  else if b = openList then here (.wrongType .sequence wanted) (b :: rest)
  else if b = openObject then here (.wrongType .map wanted) (b :: rest)
  else ahead .expectedValue (b :: rest)

/-- Reads a string, given the first byte of the value. -/
def readString (b : UInt8) (rest : List UInt8) : Except Fault (String × List UInt8) :=
  if b = quote then readText rest else .error (unwanted .string b rest)

/-- Reads a 64-bit integer, given the first byte of the value. -/
def readInteger (b : UInt8) (rest : List UInt8) : Except Fault (Int64 × List UInt8) :=
  if b = minus ∨ isDigit b then
    match readNumber (b :: rest) with
    | .error e => .error e
    | .ok (.natural n, rest) =>
      if n < signedBound then .ok (Int64.ofNat n, rest)
      else .error (here (.wrongValue n .integer) rest)
    | .ok (.negative i, rest) => .ok (Int64.ofInt i, rest)
    | .ok (n, rest) => .error (here (.wrongType (foundNumber n) .integer) rest)
  else .error (unwanted .integer b rest)

/-- Reads a value that may be `null`: then it is `none`. -/
def readNullable {α : Type} (read : UInt8 → List UInt8 → Except Fault (α × List UInt8))
    (s : List UInt8) : Except Fault (Option α × List UInt8) :=
  match skipBlanks s with
  | [] => .error (ahead .endInValue [])
  | b :: rest =>
    if b = 0x6E then
      match readWord nullTail rest with
      | .ok rest => .ok (none, rest)
      | .error e => .error e
    else
      match read b rest with
      | .ok (a, rest) => .ok (some a, rest)
      | .error e => .error e

/-! ### Fields -/

/-- Puts a text into a field. -/
def setText (c : Command) (f : Field) (text? : Option String) : Command :=
  match f with
  | .kind => { c with kind := text?.getD "" }
  | .recipient => { c with recipient := text?.getD "" }
  | .subject => { c with subject := text?.getD "" }
  | .body => { c with body := text?.getD "" }
  | .applicationId => { c with applicationId := text?.getD "" }
  | .interviewId => { c with interviewId := text? }
  | .jobId => c

/-- Reads the value of a field into a command. -/
def readField (f : Field) (c : Command) (s : List UInt8) : Except Fault (Command × List UInt8) :=
  match f with
  | .jobId =>
    match readNullable readInteger s with
    | .ok (i?, rest) => .ok ({ c with jobId := i?.getD 0 }, rest)
    | .error e => .error e
  | f =>
    match readNullable readString s with
    | .ok (text?, rest) => .ok (c.setText f text?, rest)
    | .error e => .error e

/-! ### Members of an object -/

/-- What stands where a member may begin: the end of the object, or a key, whose bytes follow. -/
inductive NextMember where
  | none (rest : List UInt8)
  | key (rest : List UInt8)

/-- Goes to the next key of an object, behind its opening quote. -/
def nextMember (isFirst : Bool) (s : List UInt8) : Except Fault NextMember :=
  match skipBlanks s with
  | [] => .error (ahead .endInObject [])
  | b :: rest =>
    if b = closeObject then .ok (.none rest)
    else if isFirst then
      if b = quote then .ok (.key rest) else .error (ahead .keyNotString (b :: rest))
    else if b = comma then
      match skipBlanks rest with
      | [] => .error (ahead .endInValue [])
      | b :: rest =>
        if b = quote then .ok (.key rest)
        else if b = closeObject then .error (ahead .trailingComma (b :: rest))
        else .error (ahead .keyNotString (b :: rest))
    else .error (ahead .expectedObjectEnd (b :: rest))

/-- Goes behind the colon after a key. -/
def afterColon (s : List UInt8) : Except Fault (List UInt8) :=
  match skipBlanks s with
  | [] => .error (ahead .endInObject [])
  | b :: rest => if b = colon then .ok rest else .error (ahead .expectedColon (b :: rest))

/-- The fault for a field that comes twice.  It lies behind the blanks after the key, and behind the
object's end if that follows. -/
def duplicate (f : Field) (s : List UInt8) : Fault :=
  match skipBlanks s with
  | [] => here (.duplicateField f.name) []
  | b :: rest =>
    if b = closeObject then here (.duplicateField f.name) rest
    else here (.duplicateField f.name) (b :: rest)

/-- The command read so far, and the fields that have been in the document. -/
structure Draft where
  command : Command := {}
  seen : List Field := []

/-- Reads one member, from behind the opening quote of its key. -/
def readMember (d : Draft) (s : List UInt8) : Except Fault (Draft × List UInt8) :=
  match readText s with
  | .error e => .error e
  | .ok (key, rest) =>
    match Field.ofName? key with
    | some f =>
      -- A second value is not looked at.
      if f ∈ d.seen then .error (duplicate f rest)
      else
        match afterColon rest with
        | .error e => .error e
        | .ok rest =>
          match readField f d.command rest with
          | .error e => .error e
          | .ok (c, rest) => .ok (⟨c, f :: d.seen⟩, rest)
    | none =>
      match afterColon rest with
      | .error e => .error e
      | .ok rest =>
        match skipValue rest with
        | .error e => .error e
        | .ok rest => .ok (d, rest)

/-! ### What is left is shorter -/

theorem length_lt_of_readInteger {b : UInt8} {rest rest' : List UInt8} {i : Int64}
    (h : readInteger b rest = .ok (i, rest')) : rest'.length ≤ rest.length := by
  unfold readInteger at h
  split at h
  · split at h
    · simp at h
    · rename_i hn
      have := length_lt_of_readNumber hn
      split at h
      · simp only [Except.ok.injEq, Prod.mk.injEq] at h
        obtain ⟨-, rfl⟩ := h
        exact Nat.le_of_lt_succ this
      · simp at h
    · rename_i hn
      have := length_lt_of_readNumber hn
      simp only [Except.ok.injEq, Prod.mk.injEq] at h
      obtain ⟨-, rfl⟩ := h
      exact Nat.le_of_lt_succ this
    · simp at h
  · simp at h

theorem length_le_of_readString {b : UInt8} {rest rest' : List UInt8} {text : String}
    (h : readString b rest = .ok (text, rest')) : rest'.length ≤ rest.length := by
  unfold readString at h
  split at h
  · exact Nat.le_of_lt (length_lt_of_readText h)
  · simp at h

theorem length_lt_of_readNullable {α : Type}
    {read : UInt8 → List UInt8 → Except Fault (α × List UInt8)}
    (hread : ∀ {b rest a rest'}, read b rest = .ok (a, rest') → rest'.length ≤ rest.length)
    {s rest : List UInt8} {a? : Option α} (h : readNullable read s = .ok (a?, rest)) :
    rest.length < s.length := by
  unfold readNullable at h
  split at h
  · simp at h
  · rename_i hs
    have h₁ := length_lt_of_skipBlanks hs
    split at h
    · split at h
      · rename_i hw
        have h₂ := length_le_of_readWord hw
        simp only [Except.ok.injEq, Prod.mk.injEq] at h
        obtain ⟨-, rfl⟩ := h
        omega
      · simp at h
    · split at h
      · rename_i hr
        have h₂ := hread hr
        simp only [Except.ok.injEq, Prod.mk.injEq] at h
        obtain ⟨-, rfl⟩ := h
        omega
      · simp at h

theorem length_lt_of_readField {f : Field} {c c' : Command} {s rest : List UInt8}
    (h : readField f c s = .ok (c', rest)) : rest.length < s.length := by
  unfold readField at h
  split at h
  · split at h
    · rename_i hr
      simp only [Except.ok.injEq, Prod.mk.injEq] at h
      obtain ⟨-, rfl⟩ := h
      exact length_lt_of_readNullable length_lt_of_readInteger hr
    · simp at h
  · split at h
    · rename_i hr
      simp only [Except.ok.injEq, Prod.mk.injEq] at h
      obtain ⟨-, rfl⟩ := h
      exact length_lt_of_readNullable length_le_of_readString hr
    · simp at h

theorem length_lt_of_afterColon {s rest : List UInt8} (h : afterColon s = .ok rest) :
    rest.length < s.length := by
  unfold afterColon at h
  split at h
  · simp at h
  · rename_i hs
    split at h
    · exact Except.ok.inj h ▸ length_lt_of_skipBlanks hs
    · simp at h

theorem length_lt_of_nextMember {isFirst : Bool} {s rest : List UInt8}
    (h : nextMember isFirst s = .ok (.key rest)) : rest.length < s.length := by
  unfold nextMember at h
  split at h
  · simp at h
  · rename_i hs
    have h₁ := length_lt_of_skipBlanks hs
    split at h
    · simp at h
    · split at h
      · split at h
        · simp only [Except.ok.injEq, NextMember.key.injEq] at h
          exact h ▸ h₁
        · simp at h
      · split at h
        · split at h
          · simp at h
          · rename_i hs'
            have h₂ := length_lt_of_skipBlanks hs'
            split at h
            · simp only [Except.ok.injEq, NextMember.key.injEq] at h
              subst h
              omega
            · split at h <;> simp at h
        · simp at h

theorem length_lt_of_readMember {d d' : Draft} {s rest : List UInt8}
    (h : readMember d s = .ok (d', rest)) : rest.length < s.length := by
  unfold readMember at h
  split at h
  · simp at h
  · rename_i ht
    have h₁ := length_lt_of_readText ht
    split at h
    · split at h
      · simp at h
      · split at h
        · simp at h
        · rename_i hc
          have h₂ := length_lt_of_afterColon hc
          split at h
          · simp at h
          · rename_i hf
            have h₃ := length_lt_of_readField hf
            simp only [Except.ok.injEq, Prod.mk.injEq] at h
            obtain ⟨-, rfl⟩ := h
            omega
    · split at h
      · simp at h
      · rename_i hc
        have h₂ := length_lt_of_afterColon hc
        split at h
        · simp at h
        · rename_i hf
          have h₃ := length_le_of_skipValue hf
          simp only [Except.ok.injEq, Prod.mk.injEq] at h
          obtain ⟨-, rfl⟩ := h
          omega

/-! ### Whole documents -/

/-- Reads the members of an object up to its end. -/
def readMembers (isFirst : Bool) (d : Draft) (s : List UInt8) :
    Except Fault (Command × List UInt8) :=
  match hn : nextMember isFirst s with
  | .error e => .error e
  | .ok (.none rest) => .ok (d.command, rest)
  | .ok (.key rest) =>
    match hm : readMember d rest with
    | .error e => .error e
    | .ok (d, rest') =>
      have := length_lt_of_nextMember hn
      have := length_lt_of_readMember hm
      readMembers false d rest'
  termination_by s.length

/-- Goes to the end of a list all of whose items have been read. -/
def listEnd (s : List UInt8) : Except Fault (List UInt8) :=
  match skipBlanks s with
  | [] => .error (ahead .endInList [])
  | b :: rest =>
    if b = closeList then .ok rest
    else if b = comma then
      match skipBlanks rest with
      | [] => .error (ahead .trailingCharacters [])
      | b :: rest =>
        if b = closeList then .error (ahead .trailingComma (b :: rest))
        else .error (ahead .trailingCharacters (b :: rest))
    else .error (ahead .trailingCharacters (b :: rest))

/-- Reads the items of a list into the given fields, up to the end of the list. -/
def readItems (isFirst : Bool) (c : Command) :
    List Field → List UInt8 → Except Fault (Command × List UInt8)
  | [], s =>
    match listEnd s with
    | .error e => .error e
    | .ok rest => .ok (c, rest)
  | f :: fields, s =>
    let item (s : List UInt8) : Except Fault (Command × List UInt8) :=
      match readField f c s with
      | .error e => .error e
      | .ok (c, rest) => readItems false c fields rest
    match skipBlanks s with
    | [] => .error (ahead .endInList [])
    | b :: rest =>
      -- Fields beyond the end of the list keep their defaults.
      if b = closeList then .ok (c, rest)
      else if isFirst then item (b :: rest)
      else if b = comma then
        match skipBlanks rest with
        | [] => .error (ahead .endInValue [])
        | b :: rest =>
          if b = closeList then .error (ahead .trailingComma (b :: rest)) else item (b :: rest)
      else .error (ahead .expectedListEnd (b :: rest))

/-- Reads an object or a list as a command: the command, and the bytes after it. -/
def readCommand (s : List UInt8) : Except Fault (Command × List UInt8) :=
  match skipBlanks s with
  | [] => .error (ahead .endInValue [])
  | b :: rest =>
    if b = openObject then readMembers true {} rest
    else if b = openList then readItems true {} Field.all rest
    else .error (unwanted .command b rest)

/-- Reads a document that holds one command and nothing else. -/
def readDocument (s : List UInt8) : Except Fault Command :=
  match readCommand s with
  | .error e => .error e
  | .ok (c, rest) =>
    match skipBlanks rest with
    | [] => .ok c
    | b :: rest => .error (ahead .trailingCharacters (b :: rest))

/-- The command that a payload holds. -/
def decode (payload : List UInt8) : Except DecodeError Command :=
  match readDocument payload with
  | .ok c => .ok c
  | .error fault => .error ⟨payload, fault⟩

end Command

end Courier
