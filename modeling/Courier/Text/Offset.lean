import Courier.Text.Split

/-!
# Byte offsets

A place in a text is often given by the number of bytes in front of it.  Not every number is a
place: `cutAtOffset?` cuts a text at an offset, unless the offset lies within a character or beyond
the end.

The offsets at which something was found are places: `cutAtOffset?_of_offsetOfWord?`,
`cutAtOffset?_of_lastOffsetOf?`.
-/

namespace Courier

/-- The number of bytes that characters take. -/
def byteLength : List Char → Nat
  | [] => 0
  | c :: rest => c.utf8Size + byteLength rest

/-- The part in front of a byte offset and the part behind it.  There is none if the offset lies
within a character or beyond the end. -/
def cutAtOffset? (offset : Nat) : List Char → Option (List Char × List Char)
  | [] => if offset = 0 then some ([], []) else none
  | c :: rest =>
    if offset = 0 then some ([], c :: rest)
    else if offset < c.utf8Size then none
    else
      (cutAtOffset? (offset - c.utf8Size) rest).map fun (before, after) => (c :: before, after)

/-- The byte offset of the first occurrence of a word. -/
def offsetOfWord? (word cs : List Char) : Option Nat :=
  (cutAtWord word cs).map fun (before, _) => byteLength before

/-- The byte offset of the last occurrence of a character. -/
def lastOffsetOf? (c : Char) (cs : List Char) : Option Nat :=
  (cutAtLast c cs).map fun (before, _) => byteLength before

theorem byteLength_cons (c : Char) (cs : List Char) :
    byteLength (c :: cs) = c.utf8Size + byteLength cs :=
  rfl

theorem byteLength_append (cs cs' : List Char) :
    byteLength (cs ++ cs') = byteLength cs + byteLength cs' := by
  induction cs with
  | nil => rw [List.nil_append, byteLength, Nat.zero_add]
  | cons c cs ih => rw [List.cons_append, byteLength_cons, byteLength_cons, ih, Nat.add_assoc]

/-- Where a text was put together it can be cut. -/
theorem cutAtOffset?_append (cs cs' : List Char) :
    cutAtOffset? (byteLength cs) (cs ++ cs') = some (cs, cs') := by
  induction cs with
  | nil =>
    cases cs' with
    | nil => rfl
    | cons c rest => exact if_pos rfl
  | cons c cs ih =>
    have hpos := c.utf8Size_pos
    have hlength := byteLength_cons c cs
    rw [List.cons_append, cutAtOffset?, if_neg (by omega), if_neg (by omega), hlength,
      Nat.add_sub_cancel_left, ih]
    rfl

/-- Where a word was found the text can be cut, behind the word too. -/
theorem cutAtOffset?_of_offsetOfWord? {word cs : List Char} {offset : Nat}
    (h : offsetOfWord? word cs = some offset) :
    ∃ before after, cutAtOffset? (offset + byteLength word) cs = some (before ++ word, after) := by
  obtain ⟨⟨before, after⟩, hcut, rfl⟩ := Option.map_eq_some_iff.1 h
  refine ⟨before, after, ?_⟩
  rw [eq_append_of_cutAtWord hcut, ← byteLength_append]
  exact cutAtOffset?_append (before ++ word) after

/-- Where a character was found the text can be cut. -/
theorem cutAtOffset?_of_lastOffsetOf? {c : Char} {cs : List Char} {offset : Nat}
    (h : lastOffsetOf? c cs = some offset) :
    ∃ before after, cutAtOffset? offset cs = some (before, c :: after) := by
  obtain ⟨⟨before, after⟩, hcut, rfl⟩ := Option.map_eq_some_iff.1 h
  refine ⟨before, after, ?_⟩
  rw [eq_append_of_cutAtLast hcut]
  exact cutAtOffset?_append before (c :: after)

end Courier
