/-!
# Splitting at a separator

`splitOn` cuts a list of characters at every separator: the pieces, joined by the separator, are the
list again (`intercalate_splitOn`).  `splitTerminated` is for lists in which the separator may also
end the last piece.  `cutAt` and `cutAtLast` cut at one separator only, the first or the last, and
`cutAtWord` at a separator of several characters.
-/

namespace Courier

/-- The pieces between separators; there is always at least one. -/
def splitOn (sep : Char) : List Char → List (List Char)
  | [] => [[]]
  | c :: rest =>
    if c = sep then [] :: splitOn sep rest
    else
      match splitOn sep rest with
      | [] => [[c]]
      | piece :: pieces => (c :: piece) :: pieces

/-- The pieces between separators, without an empty piece at the end. -/
def splitTerminated (sep : Char) (cs : List Char) : List (List Char) :=
  let pieces := splitOn sep cs
  if pieces.getLast? = some [] then pieces.dropLast else pieces

/-- The part before the first separator and the part after it. -/
def cutAt (sep : Char) : List Char → Option (List Char × List Char)
  | [] => none
  | c :: rest =>
    if c = sep then some ([], rest)
    else (cutAt sep rest).map fun (before, after) => (c :: before, after)

/-- The part before the last separator and the part after it. -/
def cutAtLast (sep : Char) : List Char → Option (List Char × List Char)
  | [] => none
  | c :: rest =>
    match cutAtLast sep rest with
    | some (before, after) => some (c :: before, after)
    | none => if c = sep then some ([], rest) else none

/-- The part before the first occurrence of `word`, and the part after it. -/
def cutAtWord (word : List Char) : List Char → Option (List Char × List Char)
  | [] => if word = [] then some ([], []) else none
  | c :: rest =>
    if word.isPrefixOf (c :: rest) then some ([], (c :: rest).drop word.length)
    else (cutAtWord word rest).map fun (before, after) => (c :: before, after)

/-! ### Nothing is lost -/

theorem eq_append_of_cutAtLast {sep : Char} {cs before after : List Char}
    (h : cutAtLast sep cs = some (before, after)) : cs = before ++ sep :: after := by
  induction cs generalizing before with
  | nil => simp [cutAtLast] at h
  | cons c rest ih =>
    simp only [cutAtLast] at h
    split at h
    · rename_i hrest
      obtain ⟨rfl, rfl⟩ := Prod.mk.inj (Option.some.inj h)
      rw [ih hrest, List.cons_append]
    · split at h
      · rename_i hc
        obtain ⟨rfl, rfl⟩ := Prod.mk.inj (Option.some.inj h)
        rw [hc, List.nil_append]
      · cases h

theorem eq_append_of_cutAtWord {word cs before after : List Char}
    (h : cutAtWord word cs = some (before, after)) : cs = before ++ word ++ after := by
  induction cs generalizing before with
  | nil =>
    simp only [cutAtWord] at h
    split at h
    · rename_i hword
      obtain ⟨rfl, rfl⟩ := Prod.mk.inj (Option.some.inj h)
      rw [hword]
      rfl
    · cases h
  | cons c rest ih =>
    simp only [cutAtWord] at h
    split at h
    · rename_i hword
      obtain ⟨more, hmore⟩ := List.isPrefixOf_iff_prefix.1 hword
      obtain ⟨rfl, rfl⟩ := Prod.mk.inj (Option.some.inj h)
      rw [← hmore, List.drop_left, List.nil_append]
    · obtain ⟨⟨before', after'⟩, hrest, heq⟩ := Option.map_eq_some_iff.1 h
      obtain ⟨rfl, rfl⟩ := Prod.mk.inj heq
      rw [ih hrest, List.cons_append, List.cons_append]

theorem splitOn_ne_nil (sep : Char) (cs : List Char) : splitOn sep cs ≠ [] := by
  cases cs with
  | nil => simp [splitOn]
  | cons c rest =>
    simp only [splitOn]
    split
    · simp
    · split <;> simp

theorem intercalate_splitOn (sep : Char) (cs : List Char) :
    [sep].intercalate (splitOn sep cs) = cs := by
  induction cs with
  | nil => rfl
  | cons c rest ih =>
    simp only [splitOn]
    obtain ⟨piece, pieces, h⟩ := List.exists_cons_of_ne_nil (splitOn_ne_nil sep rest)
    rw [h] at ih ⊢
    split
    · rename_i hc
      rw [← ih, hc]
      rfl
    · rw [← ih]
      cases pieces <;> simp [List.intercalate]

end Courier
