import Courier.Command.Decode
import Courier.Proofs.Command.Document
import Courier.Proofs.Json.Value

/-!
# Documents are decoded as their form says

Every reader of `Command.Decode` takes from its input what the form of a document has there, and
nothing that the form allows makes it fail.

* `decode_complete`: every object no field of which comes twice is decoded.
* `decode_sound`: whatever is decoded is such an object, or a list of values in order.

Either way the command is the one that the document makes.  The readers put one field after the
other into a draft; that this is the command of all entries at once is `foldl_put`.
-/

namespace Courier.Command

open Json Json.Grammar

variable {s t u v : List UInt8}

/-! ### Values -/

theorem integer_of_readInteger {b : UInt8} {i : Int64} (h : readInteger b s = .ok (i, t)) :
    Integer (b :: s) i.toInt t := by
  unfold readInteger at h
  split at h
  · split at h
    · cases h
    · rename_i n rest hread
      split at h
      · rename_i hn
        cases h
        rw [Int64.toInt_ofNat_of_lt hn]
        exact .natural (natural_of_readNumber hread)
      · cases h
    · rename_i i rest hread
      cases h
      obtain ⟨n, hinteger, rfl, hle⟩ := negative_of_readNumber hread
      have hle' : (n : Int) ≤ 2 ^ 63 := Int.ofNat_le.2 hle
      rw [Int64.toInt_ofInt_of_le (by omega) (by omega)]
      exact hinteger
    · cases h
  · cases h

theorem readInteger_of_integer {b : UInt8} {i : Int64} (h : Integer (b :: s) i.toInt t)
    (ht : Stops t) : readInteger b s = .ok (i, t) := by
  have hlt := i.toInt_lt
  have hle := i.le_toInt
  obtain ⟨_, _, heq, hb⟩ := h.exists_eq_cons
  cases heq
  generalize hi : i.toInt = j at h
  cases h with
  | @natural n _ _ h =>
    have hn : n < signedBound := by
      have : (n : Int) < 2 ^ 63 := hi ▸ hlt
      exact Int.ofNat_lt.1 this
    have hread := readNumber_of_natural h (Nat.lt_trans hn (by decide)) ht
    have hi' : Int64.ofNat n = i := by
      rw [← Int64.toInt_inj, Int64.toInt_ofNat_of_lt hn, hi]
    simp only [readInteger, if_pos hb, hread, if_pos hn, hi']
  | @negative n _ _ h hn =>
    have hn' : n ≤ signedBound := by
      have : (n : Int) ≤ 2 ^ 63 := by omega
      exact Int.ofNat_le.1 this
    have hread := readNumber_of_negative h hn hn' ht
    have hi' : Int64.ofInt (-n) = i := by rw [← hi, Int64.ofInt_toInt]
    rw [readInteger, if_pos hb, hread]
    simp only [hi']

theorem text_of_readString {b : UInt8} {text : String} (h : readString b s = .ok (text, t)) :
    Text (b :: s) text t := by
  unfold readString at h
  split at h
  · rename_i hb
    subst hb
    exact readText_eq_ok_iff.1 h
  · cases h

theorem readString_of_text {b : UInt8} {text : String} (h : Text (b :: s) text t) :
    readString b s = .ok (text, t) := by
  obtain ⟨inside, heq, -⟩ := id h
  cases heq
  rw [readString, if_pos rfl]
  exact readText_eq_ok_iff.2 h

section Nullable

variable {α : Type} {read : UInt8 → List UInt8 → Except Fault (α × List UInt8)} {a? : Option α}

/-- A value that may be `null` is `null`, or it is what the reader reads. -/
theorem blanks_of_readNullable (h : readNullable read s = .ok (a?, t)) :
    ∃ u, Blanks s u ∧ (a? = none ∧ u = 0x6E :: nullTail ++ t ∨
      ∃ b rest a, u = b :: rest ∧ a? = some a ∧ read b rest = .ok (a, t)) := by
  unfold readNullable at h
  split at h
  · cases h
  · rename_i b rest hs
    refine ⟨b :: rest, blanks_of_skipBlanks hs, ?_⟩
    split at h
    · rename_i hb
      subst hb
      split at h
      · rename_i hword
        cases h
        rw [readWord_eq_ok_iff.1 hword]
        exact Or.inl ⟨rfl, rfl⟩
      · cases h
    · split at h
      · rename_i hread
        cases h
        exact Or.inr ⟨b, rest, _, rfl, rfl, hread⟩
      · cases h

theorem readNullable_of_null (hb : Blanks s (0x6E :: nullTail ++ t)) :
    readNullable read s = .ok (none, t) := by
  have hword : readWord nullTail (nullTail ++ t) = .ok t := readWord_eq_ok_iff.2 rfl
  rw [List.cons_append] at hb
  simp only [readNullable, hb.skipBlanks_eq_cons rfl, if_true, hword]

theorem readNullable_of_read {b : UInt8} {rest : List UInt8} {a : α} (hb : Blanks s (b :: rest))
    (hblank : Json.isBlank b = false) (hnull : b ≠ 0x6E) (h : read b rest = .ok (a, t)) :
    readNullable read s = .ok (some a, t) := by
  simp only [readNullable, hb.skipBlanks_eq_cons hblank, if_neg hnull, h]

end Nullable

/-! ### Fields -/

/-- The command with another content in one field. -/
def put (c : Command) (f : Field) (content : Content) : Command :=
  match f with
  | .jobId => { c with jobId := content.integer?.getD 0 }
  | f => c.setText f content.text?

theorem put_ofContents (g : Field → Content) (f : Field) (content : Content) :
    (ofContents g).put f content = ofContents fun f' => if f' = f then content else g f' := by
  cases f <;> rfl

theorem put_eq_setText {f : Field} (c : Command) (content : Content) (hf : f ≠ .jobId) :
    c.put f content = c.setText f content.text? := by
  cases f <;> first | rfl | exact (hf rfl).elim

theorem readField_eq {f : Field} (c : Command) (s : List UInt8) (hf : f ≠ .jobId) :
    readField f c s =
      match readNullable readString s with
      | .ok (text?, rest) => .ok (c.setText f text?, rest)
      | .error e => .error e := by
  cases f <;> first | rfl | exact (hf rfl).elim

theorem fieldText_of_readField {f : Field} {c c' : Command} (h : readField f c s = .ok (c', t)) :
    ∃ content u, Blanks s u ∧ FieldText f u content t ∧ c' = c.put f content := by
  by_cases hf : f = .jobId
  · subst hf
    rw [readField] at h
    split at h
    · rename_i hread
      cases h
      obtain ⟨u, hb, ⟨rfl, rfl⟩ | ⟨b, rest, i, rfl, rfl, hi⟩⟩ := blanks_of_readNullable hread
      · exact ⟨.null, _, hb, .null, rfl⟩
      · exact ⟨.integer i, _, hb, .integer (integer_of_readInteger hi), rfl⟩
    · cases h
  · rw [readField_eq c s hf] at h
    split at h
    · rename_i hread
      cases h
      obtain ⟨u, hb, ⟨rfl, rfl⟩ | ⟨b, rest, text, rfl, rfl, htext⟩⟩ := blanks_of_readNullable hread
      · exact ⟨.null, _, hb, .null, (put_eq_setText c .null hf).symm⟩
      · exact ⟨.text text, _, hb, .text hf (text_of_readString htext),
          (put_eq_setText c (.text text) hf).symm⟩
    · cases h

theorem readField_of_fieldText {f : Field} {content : Content} (c : Command) (hb : Blanks s u)
    (hv : FieldText f u content t) (ht : Stops t) :
    readField f c s = .ok (c.put f content, t) := by
  cases hv with
  | null =>
    by_cases hf : f = .jobId
    · subst hf
      rw [readField, readNullable_of_null hb]
      rfl
    · rw [readField_eq c s hf, readNullable_of_null hb, put_eq_setText c .null hf]
      rfl
  | text hf h =>
    obtain ⟨inside, rfl, -⟩ := id h
    have hread := readNullable_of_read hb isBlank_quote (by decide) (readString_of_text h)
    rw [readField_eq c s hf, hread, put_eq_setText c _ hf]
    rfl
  | @integer i _ _ h =>
    obtain ⟨b, rest, rfl, hfirst⟩ := h.exists_eq_cons
    have hinteger := readInteger_of_integer h ht
    have hread : readNullable readInteger s = .ok (some i, t) := by
      obtain rfl | hdigit := hfirst
      · exact readNullable_of_read hb rfl (by decide) hinteger
      · have hblank := isBlank_of_isDigit hdigit
        exact readNullable_of_read hb hblank (ne_of_isDigit hdigit rfl) hinteger
    rw [readField, hread]
    rfl

/-! ### Members of an object -/

theorem afterColon_eq_ok_iff : afterColon s = .ok t ↔ Blanks s (colon :: t) := by
  constructor
  · intro h
    unfold afterColon at h
    split at h
    · cases h
    · rename_i hs
      split at h
      · rename_i hcolon
        subst hcolon
        cases h
        exact blanks_of_skipBlanks hs
      · cases h
  · intro h
    simp only [afterColon, h.skipBlanks_eq_cons isBlank_colon, if_true]

/-- Where a member may begin, the object ends, or a key follows, behind a comma if need be. -/
theorem blanks_of_nextMember {isFirst : Bool} {next : NextMember}
    (h : nextMember isFirst s = .ok next) :
    (∃ t, next = .none t ∧ Blanks s (closeObject :: t)) ∨
      (∃ t, next = .key t ∧ isFirst = true ∧ Blanks s (quote :: t)) ∨
        ∃ t u, next = .key t ∧ isFirst = false ∧ Blanks s (comma :: u) ∧ Blanks u (quote :: t) := by
  unfold nextMember at h
  split at h
  · cases h
  · rename_i b rest hs
    have hblanks := blanks_of_skipBlanks hs
    split at h
    · rename_i hb
      subst hb
      cases h
      exact Or.inl ⟨rest, rfl, hblanks⟩
    · split at h
      · rename_i hfirst
        split at h
        · rename_i hb
          subst hb
          cases h
          exact Or.inr (Or.inl ⟨rest, rfl, hfirst, hblanks⟩)
        · cases h
      · rename_i hfirst
        split at h
        · rename_i hb
          subst hb
          split at h
          · cases h
          · rename_i hs'
            split at h
            · rename_i hb
              subst hb
              cases h
              exact Or.inr (Or.inr ⟨_, rest, rfl, by simpa using hfirst, hblanks,
                blanks_of_skipBlanks hs'⟩)
            · split at h <;> cases h
        · cases h

theorem nextMember_of_close {isFirst : Bool} (hb : Blanks s (closeObject :: t)) :
    nextMember isFirst s = .ok (.none t) := by
  simp only [nextMember, hb.skipBlanks_eq_cons rfl, if_true]

theorem nextMember_of_first (hb : Blanks s (quote :: t)) : nextMember true s = .ok (.key t) := by
  have hquote : quote ≠ closeObject := by decide
  simp only [nextMember, hb.skipBlanks_eq_cons isBlank_quote, if_neg hquote, if_true]

theorem nextMember_of_next (hc : Blanks s (comma :: u)) (hb : Blanks u (quote :: t)) :
    nextMember false s = .ok (.key t) := by
  have hcomma : comma ≠ closeObject := by decide
  simp only [nextMember, hc.skipBlanks_eq_cons isBlank_comma, if_neg hcomma, Bool.false_eq_true,
    if_false, if_true, hb.skipBlanks_eq_cons isBlank_quote]

/-- The draft with one more member. -/
def Draft.add (d : Draft) : Member → Draft
  | .field f content => ⟨d.command.put f content, f :: d.seen⟩
  | .other _ => d

theorem memberText_of_readMember {d d' : Draft} (h : readMember d s = .ok (d', t)) :
    ∃ m, MemberText (quote :: s) m t ∧ d' = d.add m ∧ ∀ e, m.entry? = some e → e.1 ∉ d.seen := by
  unfold readMember at h
  split at h
  · cases h
  · rename_i key rest hkey
    have htext := readText_eq_ok_iff.1 hkey
    split at h
    · rename_i f hname
      rw [Field.ofName?_eq_some_iff.1 hname] at htext
      split at h
      · cases h
      · rename_i hfresh
        split at h
        · cases h
        · rename_i hcolon
          split at h
          · cases h
          · rename_i hread
            cases h
            obtain ⟨content, u, hb, hv, rfl⟩ := fieldText_of_readField hread
            refine ⟨.field f content, .field htext (afterColon_eq_ok_iff.1 hcolon) hb hv, rfl, ?_⟩
            rintro e ⟨⟩
            exact hfresh
    · rename_i hname
      split at h
      · cases h
      · rename_i hcolon
        split at h
        · cases h
        · rename_i hskip
          cases h
          obtain ⟨u, hb, hv⟩ := value_of_skipValue hskip
          have hother : ∀ f : Field, key ≠ f.name := by
            rintro f rfl
            rw [Field.ofName?_name] at hname
            cases hname
          exact ⟨.other key, .other htext hother (afterColon_eq_ok_iff.1 hcolon) hb hv, rfl, nofun⟩

theorem readMember_of_memberText {d : Draft} {m : Member} (h : MemberText (quote :: s) m t)
    (hfresh : ∀ e, m.entry? = some e → e.1 ∉ d.seen) (ht : Stops t) :
    readMember d s = .ok (d.add m, t) := by
  cases h with
  | @field f _ _ _ _ _ _ hk hc hb hv =>
    have hkey := readText_eq_ok_iff.2 hk
    have hread := readField_of_fieldText d.command hb hv ht
    have hseen : f ∉ d.seen := hfresh _ rfl
    simp only [readMember, hkey, Field.ofName?_name, if_neg hseen, afterColon_eq_ok_iff.2 hc, hread]
    rfl
  | @other key _ _ _ _ _ hk hother hc hb hv =>
    have hkey := readText_eq_ok_iff.2 hk
    have hname : Field.ofName? key = none := by
      cases hname : Field.ofName? key with
      | none => rfl
      | some f => exact absurd (Field.ofName?_eq_some_iff.1 hname) (hother f)
    simp only [readMember, hkey, hname, afterColon_eq_ok_iff.2 hc, skipValue_of_value hb hv ht]
    rfl

/-! ### Objects -/

/-- What follows the items that are still to come cannot go on with a number. -/
theorem Items.stops {α : Type} {bracket : Bracket} {item : List UInt8 → α → List UInt8 → Prop}
    {as : List α} (h : Items bracket item false s as t) : Stops s := by
  cases h with
  | done hb => exact hb.stops stops_close
  | next hc => exact hc.stops stops_comma

/-- The first member has a field of its own, or none, and so have all others. -/
theorem nodup_fields_cons {m : Member} {ms : List Member} {d : Draft} :
    (fields (m :: ms) ++ d.seen).Nodup ↔
      (∀ e, m.entry? = some e → e.1 ∉ d.seen) ∧ (fields ms ++ (d.add m).seen).Nodup := by
  cases m with
  | field f content =>
    rw [fields_field, Draft.add, List.perm_middle.nodup_iff, List.cons_append]
    constructor
    · intro h
      refine ⟨?_, h⟩
      rintro e ⟨⟩ hmem
      exact (List.nodup_cons.1 h).1 (List.mem_append_right _ hmem)
    · exact And.right
  | other key => exact ⟨fun h => ⟨nofun, h⟩, And.right⟩

theorem items_of_readMembers {isFirst : Bool} {d : Draft} {c : Command} (hseen : d.seen.Nodup)
    (h : readMembers isFirst d s = .ok (c, t)) :
    ∃ ms, Items .object MemberText isFirst s ms t ∧ (fields ms ++ d.seen).Nodup ∧
      c = (ms.foldl Draft.add d).command := by
  fun_induction readMembers isFirst d s with
  | case1 | case3 => cases h
  | case2 isFirst d s rest hnext =>
    cases h
    obtain ⟨_, heq, hb⟩ | ⟨_, heq, -⟩ | ⟨_, _, heq, -⟩ := blanks_of_nextMember hnext
    all_goals cases heq
    exact ⟨[], .done hb, hseen, rfl⟩
  | case4 isFirst d s rest hnext d' rest' hmember _ _ ih =>
    obtain ⟨m, hm, rfl, hfresh⟩ := memberText_of_readMember hmember
    -- A member is refused if its field has been seen, so no field is ever seen twice.
    have hseen' : (d.add m).seen.Nodup := by
      cases m with
      | field f content => exact List.nodup_cons.2 ⟨hfresh _ rfl, hseen⟩
      | other key => exact hseen
    obtain ⟨ms, hitems, hfields, rfl⟩ := ih hseen' h
    refine ⟨m :: ms, ?_, nodup_fields_cons.2 ⟨hfresh, hfields⟩, rfl⟩
    obtain ⟨_, heq, -⟩ | ⟨_, heq, rfl, hb⟩ | ⟨_, _, heq, rfl, hc, hb⟩ :=
      blanks_of_nextMember hnext
    all_goals cases heq
    · exact .first hb hm hitems
    · exact .next hc hb hm hitems

theorem readMembers_of_none {isFirst : Bool} {d : Draft}
    (hnext : nextMember isFirst s = .ok (.none t)) :
    readMembers isFirst d s = .ok (d.command, t) := by
  rw [readMembers]
  grind

theorem readMembers_of_key {isFirst : Bool} {d d' : Draft}
    (hnext : nextMember isFirst s = .ok (.key t)) (hmember : readMember d t = .ok (d', u)) :
    readMembers isFirst d s = readMembers false d' u := by
  conv =>
    lhs
    rw [readMembers]
  grind

theorem MemberText.exists_eq_cons {m : Member} (h : MemberText s m t) :
    ∃ inside, s = quote :: inside := by
  cases h with
  | field hk =>
    obtain ⟨inside, rfl, -⟩ := hk
    exact ⟨inside, rfl⟩
  | other hk =>
    obtain ⟨inside, rfl, -⟩ := hk
    exact ⟨inside, rfl⟩

theorem readMembers_of_items {isFirst : Bool} {d : Draft} {ms : List Member}
    (h : Items .object MemberText isFirst s ms t) (hfields : (fields ms ++ d.seen).Nodup) :
    readMembers isFirst d s = .ok ((ms.foldl Draft.add d).command, t) := by
  induction h generalizing d with
  | done hb => exact readMembers_of_none (nextMember_of_close hb)
  | first hb hm hitems ih =>
    obtain ⟨hfresh, hfields⟩ := nodup_fields_cons.1 hfields
    obtain ⟨inside, rfl⟩ := hm.exists_eq_cons
    have hmember := readMember_of_memberText hm hfresh hitems.stops
    rw [readMembers_of_key (nextMember_of_first hb) hmember, ih hfields, List.foldl_cons]
  | next hc hb hm hitems ih =>
    obtain ⟨hfresh, hfields⟩ := nodup_fields_cons.1 hfields
    obtain ⟨inside, rfl⟩ := hm.exists_eq_cons
    have hmember := readMember_of_memberText hm hfresh hitems.stops
    rw [readMembers_of_key (nextMember_of_next hc hb) hmember, ih hfields, List.foldl_cons]

/-! ### Lists -/

theorem listEnd_eq_ok_iff : listEnd s = .ok t ↔ Blanks s (closeList :: t) := by
  constructor
  · intro h
    unfold listEnd at h
    split at h
    · cases h
    · rename_i hs
      split at h
      · rename_i hb
        subst hb
        cases h
        exact blanks_of_skipBlanks hs
      · split at h
        · split at h
          · cases h
          · split at h <;> cases h
        · cases h
  · intro h
    simp only [listEnd, h.skipBlanks_eq_cons rfl, if_true]

/-- A field and its value in a list. -/
abbrev EntryText (s : List UInt8) (e : Entry) (t : List UInt8) : Prop := FieldText e.1 s e.2 t

/-- Where an item may begin, the list ends, or the value of the next field follows, behind a comma
if need be. -/
theorem readField_of_readItems {isFirst : Bool} {c c' : Command} {f : Field} {fs : List Field}
    (h : readItems isFirst c (f :: fs) s = .ok (c', t)) :
    (c' = c ∧ Blanks s (closeList :: t)) ∨
      ∃ u v d, (isFirst = true ∧ Blanks s u ∨
          isFirst = false ∧ ∃ w, Blanks s (comma :: w) ∧ Blanks w u) ∧
        readField f c u = .ok (d, v) ∧ readItems false d fs v = .ok (c', t) := by
  simp only [readItems] at h
  split at h
  · cases h
  · rename_i b rest hs
    have hblanks := blanks_of_skipBlanks hs
    split at h
    · rename_i hclose
      subst hclose
      cases h
      exact Or.inl ⟨rfl, hblanks⟩
    · split at h
      · rename_i hfirst
        split at h
        · cases h
        · rename_i hread
          exact Or.inr ⟨_, _, _, Or.inl ⟨hfirst, hblanks⟩, hread, h⟩
      · rename_i hfirst
        split at h
        · rename_i hcomma
          subst hcomma
          split at h
          · cases h
          · rename_i hs'
            split at h
            · cases h
            · split at h
              · cases h
              · rename_i hread
                have hblanks' := blanks_of_skipBlanks hs'
                refine Or.inr ⟨_, _, _, Or.inr ⟨Bool.eq_false_iff.2 hfirst, ?_⟩, hread, h⟩
                exact ⟨rest, hblanks, hblanks'⟩
        · cases h

/-- The values in a list are for the first of the given fields, in their order. -/
theorem items_of_readItems {isFirst : Bool} {c c' : Command} {fs : List Field}
    (h : readItems isFirst c fs s = .ok (c', t)) :
    ∃ es, Items .list EntryText isFirst s es t ∧ es.map Prod.fst <+: fs ∧
      c' = es.foldl (fun c e => c.put e.1 e.2) c := by
  induction fs generalizing isFirst c s with
  | nil =>
    rw [readItems] at h
    split at h
    · cases h
    · rename_i hend
      cases h
      exact ⟨[], .done (listEnd_eq_ok_iff.1 hend), List.nil_prefix, rfl⟩
  | cons f fs ih =>
    obtain ⟨rfl, hend⟩ | ⟨u, v, d, hlead, hread, hmore⟩ := readField_of_readItems h
    · exact ⟨[], .done hend, List.nil_prefix, rfl⟩
    · obtain ⟨content, w, hb, hv, rfl⟩ := fieldText_of_readField hread
      obtain ⟨es, hitems, hfields, rfl⟩ := ih hmore
      refine ⟨(f, content) :: es, ?_, (List.prefix_cons_inj f).2 hfields, rfl⟩
      obtain ⟨rfl, hs⟩ | ⟨rfl, x, hc, hs⟩ := hlead
      · exact .first (hs.trans hb) hv hitems
      · exact .next hc (hs.trans hb) hv hitems

theorem FieldText.exists_eq_cons {f : Field} {content : Content} (h : FieldText f s content t) :
    ∃ b rest, s = b :: rest ∧ Json.isBlank b = false ∧ b ≠ closeList := by
  cases h with
  | null => exact ⟨0x6E, nullTail ++ t, rfl, rfl, by decide⟩
  | text hf h =>
    obtain ⟨inside, rfl, -⟩ := h
    exact ⟨quote, inside, rfl, rfl, by decide⟩
  | integer h =>
    obtain ⟨b, rest, rfl, hfirst⟩ := h.exists_eq_cons
    obtain rfl | hdigit := hfirst
    · exact ⟨minus, rest, rfl, rfl, by decide⟩
    · exact ⟨b, rest, rfl, isBlank_of_isDigit hdigit, ne_of_isDigit hdigit rfl⟩

theorem readItems_of_close {isFirst : Bool} {c : Command} {fs : List Field}
    (hb : Blanks s (closeList :: t)) : readItems isFirst c fs s = .ok (c, t) := by
  cases fs with
  | nil => simp only [readItems, listEnd_eq_ok_iff.2 hb]
  | cons f fs => simp only [readItems, hb.skipBlanks_eq_cons rfl, if_true]

/-- The values for the first of the given fields are read into them. -/
theorem readItems_of_items {isFirst : Bool} {c : Command} {fs : List Field} {es : List Entry}
    (h : Items .list EntryText isFirst s es t) (hfields : es.map Prod.fst <+: fs) :
    readItems isFirst c fs s = .ok (es.foldl (fun c e => c.put e.1 e.2) c, t) := by
  induction h generalizing c fs with
  | done hb => exact readItems_of_close hb
  | @first e es s t u v hb hv hitems ih =>
    obtain ⟨fs, rfl, hrest⟩ := List.cons_prefix_iff.1 hfields
    have hread := readField_of_fieldText c .nil hv hitems.stops
    obtain ⟨b, rest, rfl, hblank, hclose⟩ := FieldText.exists_eq_cons hv
    simp only [readItems, hb.skipBlanks_eq_cons hblank, if_neg hclose, if_true, hread, ih hrest,
      List.foldl_cons]
  | @next e es s t u v w hc hb hv hitems ih =>
    obtain ⟨fs, rfl, hrest⟩ := List.cons_prefix_iff.1 hfields
    have hread := readField_of_fieldText c .nil hv hitems.stops
    have hcomma : comma ≠ closeList := by decide
    obtain ⟨b, rest, rfl, hblank, hclose⟩ := FieldText.exists_eq_cons hv
    simp only [readItems, hc.skipBlanks_eq_cons isBlank_comma, if_neg hcomma, Bool.false_eq_true,
      if_false, if_true, hb.skipBlanks_eq_cons hblank, if_neg hclose, hread, ih hrest,
      List.foldl_cons]

/-! ### Meaning -/

theorem foldl_add_command (ms : List Member) (d : Draft) :
    (ms.foldl Draft.add d).command =
      (entries ms).foldl (fun c e => c.put e.1 e.2) d.command := by
  induction ms generalizing d with
  | nil => rfl
  | cons m ms ih =>
    rw [List.foldl_cons, ih]
    cases m <;> rfl

/-- Putting contents into fields one after the other makes the command of the entries, if none of
them is for a field that another one is for. -/
theorem foldl_put_ofContents {es : List Entry} (hfields : (es.map Prod.fst).Nodup)
    (g : Field → Content) :
    es.foldl (fun c e => c.put e.1 e.2) (ofContents g) =
      ofContents fun f => (es.lookup f).getD (g f) := by
  induction es generalizing g with
  | nil => rfl
  | cons e es ih =>
    obtain ⟨f, content⟩ := e
    obtain ⟨hfresh, hrest⟩ := List.nodup_cons.1 hfields
    rw [List.foldl_cons, put_ofContents, ih hrest]
    congr 1
    funext f'
    by_cases hf : f' = f
    · subst hf
      -- What is put here is final: no later entry is for the same field.
      have hnone : es.lookup f' = none := by
        rw [Option.eq_none_iff_forall_ne_some]
        intro other hother
        have hmem := (lookup_eq_some_iff_mem hrest).1 hother
        exact hfresh (List.mem_map.2 ⟨_, hmem, rfl⟩)
      rw [hnone, List.lookup_cons_self, if_pos rfl]
      rfl
    · have hne : (f' == f) = false := beq_false_of_ne hf
      rw [List.lookup_cons, hne, if_neg hf]

theorem foldl_put {es : List Entry} (hfields : (es.map Prod.fst).Nodup) :
    es.foldl (fun c e => c.put e.1 e.2) {} = ofEntries es :=
  foldl_put_ofContents hfields fun _ => .null

/-! ### Whole documents -/

variable {document : List UInt8} {c : Command}

/-- A document is decoded if a command has been read and only blanks are left. -/
theorem decode_eq_ok_iff : decode document = .ok c ↔
    ∃ rest, readCommand document = .ok (c, rest) ∧ Blanks rest [] := by
  constructor
  · intro h
    unfold decode readDocument at h
    split at h
    · rename_i hdocument
      split at hdocument
      · cases hdocument
      · rename_i hread
        split at hdocument
        · rename_i hs
          cases hdocument
          cases h
          exact ⟨_, hread, blanks_of_skipBlanks hs⟩
        · cases hdocument
    · cases h
  · rintro ⟨rest, hread, hb⟩
    have hs : skipBlanks rest = [] := hb.skipBlanks_eq
    simp only [decode, readDocument, hread, hs]

theorem readCommand_of_object (hb : Blanks document (openObject :: s)) :
    readCommand document = readMembers true {} s := by
  simp only [readCommand, hb.skipBlanks_eq_cons rfl, if_true]

theorem readCommand_of_list (hb : Blanks document (openList :: s)) :
    readCommand document = readItems true {} Field.all s := by
  have hobject : openList ≠ openObject := by decide
  simp only [readCommand, hb.skipBlanks_eq_cons rfl, if_neg hobject, if_true]

/-- A command is read from the bytes behind one of the two opening bytes. -/
theorem blanks_of_readCommand (h : readCommand document = .ok (c, t)) :
    (∃ s, Blanks document (openObject :: s) ∧ readMembers true {} s = .ok (c, t)) ∨
      ∃ s, Blanks document (openList :: s) ∧ readItems true {} Field.all s = .ok (c, t) := by
  unfold readCommand at h
  split at h
  · cases h
  · rename_i hs
    split at h
    · rename_i hb
      subst hb
      exact Or.inl ⟨_, blanks_of_skipBlanks hs, h⟩
    · split at h
      · rename_i hb
        subst hb
        exact Or.inr ⟨_, blanks_of_skipBlanks hs, h⟩
      · cases h

theorem decode_of_isObject {ms : List Member} (h : IsObject document ms)
    (hfields : (fields ms).Nodup) : decode document = .ok (ofEntries (entries ms)) := by
  obtain ⟨s, t, hopen, hitems, hend⟩ := h
  rw [decode_eq_ok_iff]
  refine ⟨t, ?_, hend⟩
  have hseen : (fields ms ++ ({} : Draft).seen).Nodup := by rwa [List.append_nil]
  rw [readCommand_of_object hopen, readMembers_of_items hitems hseen, foldl_add_command,
    foldl_put hfields]

/-- **Completeness.**  An object no field of which comes twice is decoded, as the command that its
members make.  All that counts is what they say about fields: other members, members that are
`null`, and the order make no difference. -/
theorem decode_complete {ms : List Member} (h : IsObject document ms)
    (hfields : (fields ms).Nodup) :
    decode document = .ok (ofEntries (entries ms)) ∧
      ∀ document' ms', IsObject document' ms' → (fields ms').Nodup →
        (telling (entries ms')).Perm (telling (entries ms)) →
          decode document' = decode document := by
  refine ⟨decode_of_isObject h hfields, ?_⟩
  intro document' ms' h' hfields' htelling
  rw [decode_of_isObject h hfields, decode_of_isObject h' hfields',
    ofEntries_congr hfields' hfields htelling]

/-- An object with an escape in a key and a member that is for no field. -/
def escapedDocument : List UInt8 :=
  Utf8.encode "\x7b\"\\u0074o\" : \"a\",\"x\":[]\x7d "

theorem isObject_escapedDocument :
    IsObject escapedDocument [.field .recipient (.text "a"), .other "x"] := by
  have hcode : HexCode (Utf8.encode "0074o\" : \"a\",\"x\":[]\x7d ") 't'.toNat
      (Utf8.encode "o\" : \"a\",\"x\":[]\x7d ") :=
    .mk (w := 0) (x := 0) (y := 7) (z := 4) (by decide) (by decide) (by decide) (by decide)
  have hkey : Text (Utf8.encode "\"\\u0074o\" : \"a\",\"x\":[]\x7d ") "to"
      (Utf8.encode " : \"a\",\"x\":[]\x7d ") :=
    ⟨_, rfl, .escape (.code hcode) (.plain (c := 'o') (by decide) (by decide) (by decide) .nil)⟩
  have hcolon : Blanks (Utf8.encode " : \"a\",\"x\":[]\x7d ")
      (colon :: Utf8.encode " \"a\",\"x\":[]\x7d ") := .cons rfl .nil
  have hvalue : Text (Utf8.encode "\"a\",\"x\":[]\x7d ") "a" (Utf8.encode ",\"x\":[]\x7d ") :=
    ⟨_, rfl, .plain (c := 'a') (by decide) (by decide) (by decide) .nil⟩
  have hother : Text (Utf8.encode "\"x\":[]\x7d ") "x" (Utf8.encode ":[]\x7d ") :=
    ⟨_, rfl, .plain (c := 'x') (by decide) (by decide) (by decide) .nil⟩
  have hunknown : ∀ f : Field, "x" ≠ f.name := by
    intro f
    cases f <;> decide
  have hskipped : Value (Utf8.encode "[]\x7d ") (Utf8.encode "\x7d ") := .empty .list .nil
  have hlast : Items .object MemberText false (Utf8.encode ",\"x\":[]\x7d ") [.other "x"]
      (Utf8.encode " ") := .next .nil .nil (.other hother hunknown .nil .nil hskipped) (.done .nil)
  have hfirst : MemberText (Utf8.encode "\"\\u0074o\" : \"a\",\"x\":[]\x7d ")
      (.field .recipient (.text "a")) (Utf8.encode ",\"x\":[]\x7d ") :=
    .field hkey hcolon (.cons rfl .nil) (.text (by decide) hvalue)
  exact ⟨_, _, .nil, .first .nil hfirst hlast, .cons rfl .nil⟩

theorem decode_escapedDocument : decode escapedDocument = .ok { recipient := "a" } :=
  decode_of_isObject isObject_escapedDocument (by decide)

/-- Its key is unescaped, its unknown member is skipped, and every object that says the same is the
same command. -/
theorem decode_complete_escaped :
    decode escapedDocument = .ok { recipient := "a" } ∧
      ∀ document' ms', IsObject document' ms' → (fields ms').Nodup →
        (telling (entries ms')).Perm [(.recipient, .text "a")] →
          decode document' = decode escapedDocument :=
  decode_complete isObject_escapedDocument (by decide)

/-- **Soundness.**  A document that is decoded is an object no field of which comes twice, or a list
of values for fields in their order, seven at most; and the command is the one that it makes. -/
theorem decode_sound (h : decode document = .ok c) :
    (∃ ms, IsObject document ms ∧ (fields ms).Nodup ∧ c = ofEntries (entries ms)) ∨
      ∃ es, IsList document es ∧ es.map Prod.fst <+: Field.all ∧ es.length ≤ 7 ∧
        c = ofEntries es := by
  obtain ⟨rest, hread, hend⟩ := decode_eq_ok_iff.1 h
  obtain ⟨s, hopen, hmembers⟩ | ⟨s, hopen, hvalues⟩ := blanks_of_readCommand hread
  · obtain ⟨ms, hitems, hfields, rfl⟩ := items_of_readMembers List.nodup_nil hmembers
    rw [List.append_nil] at hfields
    refine Or.inl ⟨ms, ⟨s, rest, hopen, hitems, hend⟩, hfields, ?_⟩
    rw [foldl_add_command, foldl_put hfields]
  · obtain ⟨es, hitems, hprefix, rfl⟩ := items_of_readItems hvalues
    have hfields : (es.map Prod.fst).Nodup := hprefix.sublist.nodup (by decide)
    have hlength : es.length ≤ 7 := by
      have := hprefix.length_le
      rwa [List.length_map] at this
    exact Or.inr ⟨es, ⟨s, rest, hopen, hitems, hend⟩, hprefix, hlength, foldl_put hfields⟩

/-- The same object again: it is decoded, and so it has one of the two forms. -/
theorem decode_sound_escaped :
    decode escapedDocument = .ok { recipient := "a" } ∧
      ((∃ ms, IsObject escapedDocument ms ∧ (fields ms).Nodup ∧
          { recipient := "a" } = ofEntries (entries ms)) ∨
        ∃ es, IsList escapedDocument es ∧ es.map Prod.fst <+: Field.all ∧ es.length ≤ 7 ∧
          { recipient := "a" } = ofEntries es) :=
  ⟨decode_escapedDocument, decode_sound decode_escapedDocument⟩

end Courier.Command
