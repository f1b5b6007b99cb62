import Courier.Text.Digits

/-!
# UTF-8

Bytes arrive from the broker as they are, so every text starts its life as a `List UInt8`.
`decode?` is the strict reading: the bytes are some string's UTF-8 form, or nothing.
`decodeLossy` always answers: a byte sequence that starts no character is cut after its longest
prefix that could still have become one, and each such cut is shown as U+FFFD.
`validLength` counts the bytes before the first such cut.  `decode` is the strict reading that says
what is wrong: a `Fault`.

The reading goes piece by piece (`nextPiece`): the second byte's range depends on the first one,
which keeps out overlong forms, surrogates and everything above U+10FFFF.
-/

namespace Courier.Utf8

/-! ### One piece at a time -/

/-- What a byte string starts with: a well-formed character, or bytes that start none. -/
inductive Piece where
  | char (c : Char)
  | broken
  deriving DecidableEq, Repr

/-- A byte that continues a character. -/
def isContinuation (b : UInt8) : Bool := 0x80 ≤ b && b ≤ 0xBF

/-- The length of the character that `lead` starts, with the range its second byte must lie in;
`none` when no character starts with `lead`. -/
def leadRule (lead : UInt8) : Option (Nat × UInt8 × UInt8) :=
  if lead < 0xC2 then none
  else if lead ≤ 0xDF then some (2, 0x80, 0xBF)
  else if lead = 0xE0 then some (3, 0xA0, 0xBF)
  else if lead = 0xED then some (3, 0x80, 0x9F)
  else if lead ≤ 0xEF then some (3, 0x80, 0xBF)
  else if lead = 0xF0 then some (4, 0x90, 0xBF)
  else if lead ≤ 0xF3 then some (4, 0x80, 0xBF)
  else if lead = 0xF4 then some (4, 0x80, 0x8F)
  else none

/-- The six payload bits of a continuation byte. -/
def payload (b : UInt8) : Nat := b.toNat % 64

/-- The first piece of `lead :: rest`, with what follows it.  A piece is never empty, and a broken
one is the longest prefix that some character also starts with. -/
def nextPiece (lead : UInt8) (rest : List UInt8) : Piece × List UInt8 :=
  if lead < 0x80 then (.char (Char.ofNat lead.toNat), rest)
  else
    match leadRule lead with
    | none => (.broken, rest)
    | some (len, lo, hi) =>
      match rest with
      | [] => (.broken, [])
      | b :: rest₁ =>
        if b < lo || hi < b then (.broken, rest)
        else if len = 2 then
          (.char (Char.ofNat (lead.toNat % 32 * 64 + payload b)), rest₁)
        else
          match rest₁ with
          | [] => (.broken, [])
          | c :: rest₂ =>
            if !isContinuation c then (.broken, rest₁)
            else if len = 3 then
              (.char (Char.ofNat ((lead.toNat % 16 * 64 + payload b) * 64 + payload c)), rest₂)
            else
              match rest₂ with
              | [] => (.broken, [])
              | d :: rest₃ =>
                if !isContinuation d then (.broken, rest₂)
                else
                  (.char (Char.ofNat
                    (((lead.toNat % 8 * 64 + payload b) * 64 + payload c) * 64 + payload d)),
                    rest₃)

theorem length_nextPiece_le (lead : UInt8) (rest : List UInt8) :
    (nextPiece lead rest).2.length ≤ rest.length := by
  unfold nextPiece
  repeat' split
  all_goals simp only [List.length_cons, List.length_nil]
  all_goals omega

/-- All pieces of a byte string, in order. -/
def pieces : List UInt8 → List Piece
  | [] => []
  | lead :: rest =>
    let next := nextPiece lead rest
    next.1 :: pieces next.2
  termination_by bytes => bytes.length
  decreasing_by
    have := length_nextPiece_le lead rest
    simp only [List.length_cons]
    omega

/-! ### Readings of a whole byte string -/

/-- The character that stands for bytes which start no character. -/
def replacement : Char := '\uFFFD'

/-- How a piece is shown when everything has to be shown. -/
def Piece.show : Piece → Char
  | .char c => c
  | .broken => replacement

/-- The text of a byte string, with U+FFFD for each broken piece. -/
def decodeLossy (bytes : List UInt8) : String := String.ofList ((pieces bytes).map Piece.show)

/-- The number of bytes before the first broken piece. -/
def validLength : List UInt8 → Nat
  | [] => 0
  | lead :: rest =>
    match h : nextPiece lead rest with
    | (.broken, _) => 0
    | (.char _, rest') =>
      have : rest'.length < rest.length + 1 := by
        have := length_nextPiece_le lead rest
        rw [h] at this
        exact Nat.lt_succ_of_le this
      (rest.length + 1 - rest'.length) + validLength rest'
  termination_by bytes => bytes.length

/-- The UTF-8 form of a string. -/
def encode (s : String) : List UInt8 := s.toByteArray.data.toList

/-- The string whose UTF-8 form the bytes are, if there is one. -/
def decode? (bytes : List UInt8) : Option String := String.fromUTF8? ⟨bytes.toArray⟩

/-- Why bytes are no text. -/
structure Fault where
  /-- The number of bytes before the first broken piece. -/
  index : Nat
  /-- The length of that piece; `none` where the bytes end within a character. -/
  length : Option Nat
  deriving DecidableEq, Repr

/-- The wording of a fault. -/
def Fault.message (f : Fault) : String :=
  match f.length with
  | some length =>
    "invalid utf-8 sequence of " ++ decimal length ++ " bytes from index " ++ decimal f.index
  | none => "incomplete utf-8 byte sequence from index " ++ decimal f.index

/-- The length of the piece that `lead :: rest` starts with, or `none` if a character is cut off by
the end of the bytes. -/
def pieceLength (lead : UInt8) (rest : List UInt8) : Option Nat :=
  let behind := (nextPiece lead rest).2
  if behind.isEmpty && (leadRule lead).isSome then none
  else some (rest.length + 1 - behind.length)

/-- What is wrong with bytes that are no text. -/
def fault (bytes : List UInt8) : Fault :=
  let index := validLength bytes
  match bytes.drop index with
  | [] => ⟨index, none⟩
  | lead :: rest => ⟨index, pieceLength lead rest⟩

/-- The string whose UTF-8 form the bytes are. -/
def decode (bytes : List UInt8) : Except Fault String :=
  match decode? bytes with
  | some s => .ok s
  | none => .error (fault bytes)

theorem decode?_encode (s : String) : decode? (encode s) = some s := by
  simp [decode?, encode, String.fromUTF8?, s.isValidUTF8, String.fromUTF8]

theorem encode_of_decode? {bytes : List UInt8} {s : String} (h : decode? bytes = some s) :
    encode s = bytes := by
  unfold decode? String.fromUTF8? at h
  split at h
  · simp only [Option.some.injEq] at h
    subst h
    simp [encode, String.fromUTF8]
  · simp at h

/-- Strict reading accepts exactly the UTF-8 forms of strings. -/
theorem decode?_eq_some_iff {bytes : List UInt8} {s : String} :
    decode? bytes = some s ↔ encode s = bytes :=
  ⟨encode_of_decode?, fun h => h ▸ decode?_encode s⟩

end Courier.Utf8
