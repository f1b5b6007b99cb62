/-!
# Dictionaries

A `Dictionary` maps texts to values.  Its entries are kept in the order of their keys, by code
point, which is also the order of their bytes; the order is part of the type (`sorted`), so that two
dictionaries with the same entries are equal.

The view is `get?`: `get?_insert_self` and `get?_insert_of_ne` say what `insert` does to it, and
`ext_get?` that it tells dictionaries apart.
-/

namespace Courier

/-- A finite map from texts to values. -/
structure Dictionary (β : Type) where
  entries : List (String × β) := []
  sorted : entries.Pairwise (·.1 < ·.1) := by exact .nil
  deriving DecidableEq

namespace Dictionary

variable {β : Type}

/-! ### Operations -/

/-- The dictionary without entries. -/
def empty : Dictionary β := {}

instance : Inhabited (Dictionary β) := ⟨empty⟩

/-- Puts an entry where it belongs among sorted entries; an entry with the same key goes. -/
def insertEntry (k : String) (b : β) : List (String × β) → List (String × β)
  | [] => [(k, b)]
  | (k', b') :: rest =>
    if k < k' then (k, b) :: (k', b') :: rest
    else if k = k' then (k, b) :: rest
    else (k', b') :: insertEntry k b rest

theorem mem_insertEntry {k : String} {b : β} {e : String × β} {l : List (String × β)}
    (h : e ∈ insertEntry k b l) : e = (k, b) ∨ e ∈ l := by
  induction l with
  | nil => simpa [insertEntry] using h
  | cons head rest ih =>
    obtain ⟨k', b'⟩ := head
    simp only [insertEntry] at h
    grind

theorem sorted_insertEntry {k : String} {b : β} {l : List (String × β)}
    (h : l.Pairwise (·.1 < ·.1)) : (insertEntry k b l).Pairwise (·.1 < ·.1) := by
  induction l with
  | nil => simp [insertEntry]
  | cons head rest ih =>
    obtain ⟨k', b'⟩ := head
    rw [List.pairwise_cons] at h
    simp only [insertEntry]
    split
    · rename_i hlt
      refine .cons (fun e he => ?_) (.cons h.1 h.2)
      rcases List.mem_cons.1 he with rfl | he
      · exact hlt
      · exact String.lt_trans hlt (h.1 e he)
    · split
      · rename_i heq
        exact .cons (fun e he => heq ▸ h.1 e he) h.2
      · rename_i hge hne
        refine .cons (fun e he => ?_) (ih h.2)
        rcases mem_insertEntry he with rfl | he
        · exact Std.lt_of_le_of_ne (String.not_lt.1 hge) (Ne.symm hne)
        · exact h.1 e he

/-- Enters a value under a key.  A value that was there before goes. -/
def insert (d : Dictionary β) (k : String) (b : β) : Dictionary β :=
  ⟨insertEntry k b d.entries, sorted_insertEntry d.sorted⟩

/-- The dictionary of the given entries; of two with one key the later one stays. -/
def ofList (entries : List (String × β)) : Dictionary β :=
  entries.foldl (fun d (k, b) => d.insert k b) empty

/-- The value under a key. -/
def get? (d : Dictionary β) (k : String) : Option β := d.entries.lookup k

/-- Is there a value under the key? -/
def contains (d : Dictionary β) (k : String) : Bool := (d.get? k).isSome

/-- The entries whose value `f` can read, with what it reads. -/
def filterMap {γ : Type} (f : β → Option γ) (d : Dictionary β) : Dictionary γ where
  entries := d.entries.filterMap fun (k, b) => (f b).map (k, ·)
  sorted := by
    refine d.sorted.filterMap _ fun e e' h c hc c' hc' => ?_
    obtain ⟨-, -, rfl⟩ := Option.map_eq_some_iff.1 hc
    obtain ⟨-, -, rfl⟩ := Option.map_eq_some_iff.1 hc'
    exact h

/-- The keys, in order. -/
def keys (d : Dictionary β) : List String := d.entries.map (·.1)

/-- The number of entries. -/
def size (d : Dictionary β) : Nat := d.entries.length

/-- Are there no entries? -/
def isEmpty (d : Dictionary β) : Bool := d.entries.isEmpty

/-! ### What an insertion changes -/

theorem lookup_cons_of_ne {k k' : String} (h : k' ≠ k) (b : β) (l : List (String × β)) :
    ((k, b) :: l).lookup k' = l.lookup k' := by
  simp [List.lookup_cons, beq_false_of_ne h]

theorem lookup_insertEntry_self (k : String) (b : β) (l : List (String × β)) :
    (insertEntry k b l).lookup k = some b := by
  induction l with
  | nil => exact List.lookup_cons_self
  | cons head rest ih =>
    obtain ⟨k', b'⟩ := head
    simp only [insertEntry]
    split
    · exact List.lookup_cons_self
    · split
      · exact List.lookup_cons_self
      · rename_i hne
        rw [lookup_cons_of_ne hne, ih]

theorem lookup_insertEntry_of_ne {k k' : String} (h : k' ≠ k) (b : β) (l : List (String × β)) :
    (insertEntry k b l).lookup k' = l.lookup k' := by
  induction l with
  | nil => exact lookup_cons_of_ne h b []
  | cons head rest ih =>
    obtain ⟨j, b'⟩ := head
    simp only [insertEntry]
    split
    · exact lookup_cons_of_ne h b _
    · split
      · rename_i heq
        subst heq
        rw [lookup_cons_of_ne h, lookup_cons_of_ne h]
      · by_cases hj : k' = j
        · rw [hj, List.lookup_cons_self, List.lookup_cons_self]
        · rw [lookup_cons_of_ne hj, lookup_cons_of_ne hj, ih]

@[simp] theorem get?_insert_self (d : Dictionary β) (k : String) (b : β) :
    (d.insert k b).get? k = some b := lookup_insertEntry_self k b d.entries

theorem get?_insert_of_ne {d : Dictionary β} {k k' : String} (h : k' ≠ k) (b : β) :
    (d.insert k b).get? k' = d.get? k' := lookup_insertEntry_of_ne h b d.entries

theorem get?_insert (d : Dictionary β) (k k' : String) (b : β) :
    (d.insert k b).get? k' = if k' = k then some b else d.get? k' := by
  split
  · rename_i h
    rw [h, get?_insert_self]
  · rename_i h
    exact get?_insert_of_ne h b

@[simp] theorem get?_empty (k : String) : (empty : Dictionary β).get? k = none := rfl

/-! ### The view tells dictionaries apart -/

theorem lookup_eq_none_of_lt {k : String} {l : List (String × β)}
    (h : ∀ e ∈ l, k < e.1) : l.lookup k = none := by
  induction l with
  | nil => rfl
  | cons head rest ih =>
    obtain ⟨j, b⟩ := head
    have hj : k ≠ j := fun hkj => String.lt_irrefl k (hkj ▸ h (j, b) (.head _))
    rw [lookup_cons_of_ne hj, ih fun e he => h e (.tail _ he)]

theorem lookup_eq_none_of_lt_head {k j : String} {b : β} {l : List (String × β)} (h : k < j)
    (hl : ∀ e ∈ l, j < e.1) : ((j, b) :: l).lookup k = none :=
  lookup_eq_none_of_lt fun e he => by
    rcases List.mem_cons.1 he with rfl | he
    · exact h
    · exact String.lt_trans h (hl e he)

theorem eq_of_lookup_eq {l l' : List (String × β)} (h : l.Pairwise (·.1 < ·.1))
    (h' : l'.Pairwise (·.1 < ·.1)) (heq : ∀ k, l.lookup k = l'.lookup k) : l = l' := by
  induction l generalizing l' with
  | nil =>
    cases l' with
    | nil => rfl
    | cons head rest =>
      have := heq head.1
      rw [List.lookup_cons_self] at this
      cases this
  | cons head rest ih =>
    obtain ⟨k, b⟩ := head
    rw [List.pairwise_cons] at h
    cases l' with
    | nil =>
      have := heq k
      rw [List.lookup_cons_self] at this
      cases this
    | cons head' rest' =>
      obtain ⟨k', b'⟩ := head'
      rw [List.pairwise_cons] at h'
      have hk : k = k' := by
        have hlt : ¬ k < k' := fun hlt => by
          have := heq k
          rw [List.lookup_cons_self, lookup_eq_none_of_lt_head hlt h'.1] at this
          cases this
        have hgt : ¬ k' < k := fun hgt => by
          have := heq k'
          rw [List.lookup_cons_self, lookup_eq_none_of_lt_head hgt h.1] at this
          cases this
        exact String.le_antisymm (String.not_lt.1 hgt) (String.not_lt.1 hlt)
      subst hk
      have hb := heq k
      rw [List.lookup_cons_self, List.lookup_cons_self] at hb
      cases hb
      congr 1
      refine ih h.2 h'.2 fun j => ?_
      by_cases hj : j = k
      · rw [hj, lookup_eq_none_of_lt h.1, lookup_eq_none_of_lt h'.1]
      · have := heq j
        rwa [lookup_cons_of_ne hj, lookup_cons_of_ne hj] at this

theorem lookup_filterMap {γ : Type} (f : β → Option γ) (k : String) {l : List (String × β)}
    (h : l.Pairwise (·.1 < ·.1)) :
    (l.filterMap fun (j, b) => (f b).map (j, ·)).lookup k = (l.lookup k).bind f := by
  induction l with
  | nil => rfl
  | cons head rest ih =>
    obtain ⟨j, b⟩ := head
    rw [List.pairwise_cons] at h
    cases hb : f b with
    | none =>
      simp only [List.filterMap_cons, hb, Option.map_none]
      rw [ih h.2]
      by_cases hj : k = j
      · rw [hj, List.lookup_cons_self, lookup_eq_none_of_lt h.1, Option.bind_none, Option.bind_some,
          hb]
      · rw [lookup_cons_of_ne hj]
    | some c =>
      simp only [List.filterMap_cons, hb, Option.map_some]
      by_cases hj : k = j
      · rw [hj, List.lookup_cons_self, List.lookup_cons_self, Option.bind_some, hb]
      · rw [lookup_cons_of_ne hj, lookup_cons_of_ne hj, ih h.2]

/-- A value is there if `f` can read what was there. -/
theorem get?_filterMap {γ : Type} (f : β → Option γ) (d : Dictionary β) (k : String) :
    (d.filterMap f).get? k = (d.get? k).bind f :=
  lookup_filterMap f k d.sorted

@[ext] theorem ext_get? {d d' : Dictionary β} (h : ∀ k, d.get? k = d'.get? k) : d = d' := by
  obtain ⟨l, hl⟩ := d
  obtain ⟨l', hl'⟩ := d'
  have := eq_of_lookup_eq hl hl' h
  subst this
  rfl

end Dictionary

end Courier
