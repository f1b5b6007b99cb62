import Courier.Headers
import Courier.Proofs.Text.ByteOrder
import Mathlib.Data.Finset.Card
import Mathlib.Data.List.Induction

/-!
# Headers after insertions

Headers are made by inserting values one after another.  Under each key the last value stays
(`Dictionary.get?_ofList`), and nothing else of the insertions can be seen: two dictionaries are
equal exactly if the last values are (`Dictionary.ofList_eq_ofList_iff`).  So insertions under
different keys may change places (`Dictionary.ofList_eq_of_entriesAt`).

The keys stand in the order of their bytes, each of them once.  A dictionary sorts by code point,
which is the same (`Utf8.encode_lt_encode_iff`).

`Headers.keeps_ofList` puts this together with the reading of values: a text, or bytes that are the
UTF-8 form of one, unless it is empty.
-/

namespace Courier

namespace Dictionary

variable {β : Type} {entries other : List (String × β)} {key : String}

/-! ### Dictionaries of entries -/

/-- The entries with a key, in their order. -/
def entriesAt (entries : List (String × β)) (key : String) : List (String × β) :=
  entries.filter (·.1 = key)

/-- The value of the last entry with a key. -/
def last? (entries : List (String × β)) (key : String) : Option β :=
  (entriesAt entries key).getLast?.map Prod.snd

theorem last?_concat (entries : List (String × β)) (k : String) (b : β) (key : String) :
    last? (entries ++ [(k, b)]) key = if key = k then some b else last? entries key := by
  rw [last?, entriesAt, List.filter_append]
  by_cases h : k = key
  · simp [h]
  · simp [h, Ne.symm h, last?, entriesAt]

theorem ofList_concat (entries : List (String × β)) (k : String) (b : β) :
    ofList (entries ++ [(k, b)]) = (ofList entries).insert k b := by
  rw [ofList, ofList, List.foldl_append]
  rfl

/-- The last entry with a key stays. -/
theorem get?_ofList (entries : List (String × β)) (key : String) :
    (ofList entries).get? key = last? entries key := by
  induction entries using List.reverseRecOn with
  | nil => rfl
  | append_singleton entries entry ih =>
    obtain ⟨k, b⟩ := entry
    rw [ofList_concat, get?_insert, last?_concat, ih]

theorem ofList_eq_ofList_iff :
    ofList entries = ofList other ↔ ∀ key, last? entries key = last? other key := by
  simp only [← get?_ofList]
  exact ⟨fun h key => by rw [h], ext_get?⟩

/-! ### Keys -/

theorem mem_keys_iff {d : Dictionary β} : key ∈ d.keys ↔ (d.get? key).isSome := by
  rw [keys, get?, List.lookup_isSome_iff, List.mem_map]
  constructor
  · rintro ⟨entry, hentry, rfl⟩
    exact ⟨entry, hentry, beq_self_eq_true entry.1⟩
  · rintro ⟨entry, hentry, hkey⟩
    exact ⟨entry, hentry, (eq_of_beq hkey).symm⟩

theorem isSome_last?_iff : (last? entries key).isSome ↔ key ∈ entries.map Prod.fst := by
  rw [last?, Option.isSome_map, List.getLast?_isSome, entriesAt, Ne, List.filter_eq_nil_iff]
  simp

theorem mem_keys_ofList_iff : key ∈ (ofList entries).keys ↔ key ∈ entries.map Prod.fst := by
  rw [mem_keys_iff, get?_ofList, isSome_last?_iff]

theorem pairwise_keys (d : Dictionary β) : d.keys.Pairwise (· < ·) := List.pairwise_map.2 d.sorted

theorem size_ofList (entries : List (String × β)) :
    (ofList entries).size = (entries.map Prod.fst).toFinset.card := by
  have hnodup : (ofList entries).keys.Nodup := (pairwise_keys _).imp String.ne_of_lt
  have hsame : (ofList entries).keys.toFinset = (entries.map Prod.fst).toFinset := by
    ext key
    rw [List.mem_toFinset, List.mem_toFinset, mem_keys_ofList_iff]
  rw [← hsame, List.toFinset_card_of_nodup hnodup, keys, List.length_map, size]

theorem isEmpty_ofList_iff : (ofList entries).isEmpty ↔ entries = [] := by
  have hsize : (ofList entries).isEmpty ↔ (ofList entries).size = 0 := by
    rw [isEmpty, List.isEmpty_iff, size, List.length_eq_zero_iff]
  rw [hsize, size_ofList, Finset.card_eq_zero, List.toFinset_eq_empty_iff, List.map_eq_nil_iff]

/-! ### The order of entries -/

/-- The order of entries with different keys does not matter. -/
theorem ofList_eq_of_entriesAt (h : ∀ key, entriesAt entries key = entriesAt other key) :
    ofList entries = ofList other :=
  ofList_eq_ofList_iff.2 fun key => by rw [last?, last?, h]

theorem length_entriesAt (entries : List (String × β)) (key : String) :
    (entriesAt entries key).length = (entries.map Prod.fst).count key := by
  rw [entriesAt, ← List.countP_eq_length_filter, List.count, List.countP_map]
  rfl

theorem entriesAt_eq_of_perm (h : entries.Perm other) (hkeys : (entries.map Prod.fst).Nodup)
    (key : String) : entriesAt entries key = entriesAt other key := by
  have hperm : (entriesAt entries key).Perm (entriesAt other key) := h.filter _
  -- A list of at most one entry has no other order.
  have hlength : (entriesAt entries key).length ≤ 1 := by
    rw [length_entriesAt]
    exact List.nodup_iff_count_le_one.1 hkeys key
  obtain hzero | hone := Nat.le_one_iff_eq_zero_or_eq_one.1 hlength
  · rw [List.eq_nil_of_length_eq_zero hzero] at hperm ⊢
    exact hperm.nil_eq
  · obtain ⟨entry, hentry⟩ := List.length_eq_one_iff.1 hone
    rw [hentry] at hperm ⊢
    exact List.singleton_perm.1 hperm

end Dictionary

/-! ### Headers -/

open Dictionary

theorem HeaderValue.text?_eq_some_iff {value : HeaderValue} {s : String} :
    value.text? = some s ↔ value = .text s ∨ value = .bytes (Utf8.encode s) := by
  cases value with
  | text t => simp [text?]
  | bytes b =>
    rw [text?, Utf8.decode?_eq_some_iff]
    simp [eq_comm]

theorem Headers.text?_eq_some_iff {headers : Headers} {key s : String} :
    headers.text? key = some s ↔ s ≠ "" ∧
      (headers.get? key = some (.text s) ∨ headers.get? key = some (.bytes (Utf8.encode s))) := by
  rw [Headers.text?, Option.filter_eq_some_iff, decide_eq_true_eq, and_comm,
    Option.bind_eq_some_iff]
  refine and_congr_right fun _ => ⟨?_, ?_⟩
  · rintro ⟨value, hvalue, hs⟩
    obtain rfl | rfl := HeaderValue.text?_eq_some_iff.1 hs
    · exact .inl hvalue
    · exact .inr hvalue
  · rintro (hvalue | hvalue)
    · exact ⟨_, hvalue, HeaderValue.text?_eq_some_iff.2 (.inl rfl)⟩
    · exact ⟨_, hvalue, HeaderValue.text?_eq_some_iff.2 (.inr rfl)⟩

/-- What headers show of the insertions that made them. -/
structure Headers.Keeps (headers : Headers) (inserts : List (String × HeaderValue)) : Prop where
  /-- The last value under a key is read, as a text or as the UTF-8 form of one. -/
  text?_iff : ∀ key s, headers.text? key = some s ↔ s ≠ "" ∧
    (last? inserts key = some (.text s) ∨ last? inserts key = some (.bytes (Utf8.encode s)))
  mem_keys_iff : ∀ key, key ∈ headers.keys ↔ key ∈ inserts.map Prod.fst
  /-- The keys strictly increase in the order of bytes. -/
  increasing : (headers.keys.map Utf8.encode).Pairwise (· < ·)
  size_eq : headers.size = (inserts.map Prod.fst).toFinset.card
  isEmpty_iff : headers.isEmpty ↔ inserts = []

theorem Headers.keeps (inserts : List (String × HeaderValue)) :
    Headers.Keeps (ofList inserts) inserts where
  text?_iff key s := by rw [Headers.text?_eq_some_iff, get?_ofList]
  mem_keys_iff _ := mem_keys_ofList_iff
  increasing := List.pairwise_map.2 ((pairwise_keys _).imp Utf8.encode_lt_encode_iff.2)
  size_eq := size_ofList inserts
  isEmpty_iff := isEmpty_ofList_iff

/-- **The last insertion under a key counts.**  Headers keep the last value under each key and
nothing else, so they are equal exactly if those values are; insertions under different keys may
change places. -/
theorem Headers.keeps_ofList (inserts : List (String × HeaderValue)) :
    Headers.Keeps (ofList inserts) inserts ∧
    ∀ other : List (String × HeaderValue),
      (ofList inserts = ofList other ↔ ∀ key, last? inserts key = last? other key) ∧
      ((∀ key, entriesAt inserts key = entriesAt other key) → ofList inserts = ofList other) ∧
      (inserts.Perm other → (inserts.map Prod.fst).Nodup → ofList inserts = ofList other) := by
  refine ⟨Headers.keeps inserts, fun other => ⟨ofList_eq_ofList_iff, ofList_eq_of_entriesAt, ?_⟩⟩
  intro hperm hkeys
  exact ofList_eq_of_entriesAt (entriesAt_eq_of_perm hperm hkeys)

/-- A readable value that gives way to bytes that are no UTF-8, and a key beyond ASCII that is
inserted in between. -/
theorem Headers.keeps_ofList_replaced :
    let inserts : List (String × HeaderValue) :=
      [("message_id", .text "m"), ("\u00e9", .bytes [0xC3, 0xA9]), ("message_id", .bytes [0xFF])]
    let other : List (String × HeaderValue) :=
      [("message_id", .text "m"), ("message_id", .bytes [0xFF]), ("\u00e9", .bytes [0xC3, 0xA9])]
    (∀ key, entriesAt inserts key = entriesAt other key) ∧ ofList inserts = ofList other ∧
      Headers.text? (ofList inserts) "message_id" = none ∧
      Headers.text? (ofList inserts) "\u00e9" = some "\u00e9" := by
  intro inserts other
  have hentries : ∀ key, entriesAt inserts key = entriesAt other key := by
    intro key
    by_cases hid : "message_id" = key
    · subst hid
      rfl
    · simp [entriesAt, inserts, other, List.filter_cons, hid]
  have hsame := (keeps_ofList inserts).2 other
  refine ⟨hentries, hsame.2.1 hentries, ?_, ?_⟩
  · decide +kernel
  · decide +kernel

end Courier
