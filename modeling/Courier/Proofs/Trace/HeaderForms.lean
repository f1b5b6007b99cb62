import Courier.Proofs.Text.Split
import Courier.Trace.Span

/-!
# The header forms of spans and trace states are read as they were written

* `SpanContext.read?_parentHeader`: a valid span is read as itself, as one from elsewhere, with the
  one flag that its header form keeps.
* `TraceState.read?_header`: a trace state is read as itself.  It holds neither a separator in a key
  or a value nor a member without text, so no cut goes wrong; the header form of the empty trace
  state is the empty text.
-/

namespace Courier

/-! ### Spans -/

namespace SpanContext

variable (c : SpanContext)

/-- The flags that the header form keeps. -/
def keptFlags : UInt8 := c.flags &&& sampledFlag

theorem toNat_keptFlags_le : c.keptFlags.toNat ≤ 1 := by
  rw [keptFlags, UInt8.toNat_and]
  exact Nat.and_le_right

/-- The parts of the header form: the version, both ids and the flags. -/
def parts : List (List Char) :=
  [hexFixedDigits 2 0, hexFixedDigits 32 c.traceId.toNat, hexFixedDigits 16 c.spanId.toNat,
    hexFixedDigits 2 c.keptFlags.toNat]

theorem isHexDigit_of_mem_parts {part : List Char} (h : part ∈ c.parts) {x : Char} (hx : x ∈ part) :
    IsHexDigit x := by
  have hdigits : ∃ width n, part = hexFixedDigits width n := by
    simp only [parts, List.mem_cons, List.not_mem_nil, or_false] at h
    rcases h with heq | heq | heq | heq
    · exact ⟨_, _, heq⟩
    · exact ⟨_, _, heq⟩
    · exact ⟨_, _, heq⟩
    · exact ⟨_, _, heq⟩
  obtain ⟨width, n, rfl⟩ := hdigits
  exact isHexDigit_of_mem hx

theorem toList_parentHeader : c.parentHeader.toList = ['-'].intercalate c.parts := by
  have hversion : "00-".toList = hexFixedDigits 2 0 ++ ['-'] := rfl
  have hdash : "-".toList = ['-'] := rfl
  simp only [parentHeader, traceIdText, spanIdText, hexFixed, String.toList_append,
    String.toList_ofList, hversion, hdash, parts, List.intercalate_cons_cons,
    List.intercalate_singleton, List.append_assoc]
  rfl

theorem trim_parentHeader : trim c.parentHeader = c.parentHeader := by
  apply trim_eq_self
  intro x hx
  rw [toList_parentHeader] at hx
  have hcut : splitOn '-' (['-'].intercalate c.parts) = c.parts := by
    refine splitOn_intercalate ?_ (List.cons_ne_nil _ _)
    exact fun part hpart hmem => (c.isHexDigit_of_mem_parts hpart hmem).ne_minus rfl
  rcases mem_piece_or_eq '-' hx with ⟨part, hpart, hmem⟩ | heq
  · rw [hcut] at hpart
    exact (c.isHexDigit_of_mem_parts hpart hmem).isBlank_eq
  · rw [heq]
    rfl

/-- The header form is cut into the parts that it was joined from. -/
theorem headerParts_parentHeader : headerParts c.parentHeader = c.parts := by
  rw [headerParts, trim_parentHeader, toList_parentHeader]
  apply splitTerminated_intercalate
  · exact fun part hpart hmem => (c.isHexDigit_of_mem_parts hpart hmem).ne_minus rfl
  · have hlast : c.parts.getLast? = some (hexFixedDigits 2 c.keptFlags.toNat) := rfl
    rw [hlast]
    intro hnil
    have hlength := length_hexFixedDigits 2 c.keptFlags.toNat
    rw [Option.some.inj hnil] at hlength
    cases hlength

theorem readHex?_hexFixedDigits {width n bound : Nat} (hwidth : width ≠ 0)
    (hn : n < Nat.pow 16 width) (hbound : n < bound) :
    readHex? bound (hexFixedDigits width n) = some n := by
  rw [readHex?, readNat_hexFixedDigits hwidth hn hbound]
  rfl

theorem readId?_hexFixedDigits {bits width : Nat} (hwidth : width ≠ 0) (hbits : 4 * width = bits)
    (id : BitVec bits) : readId? bits (hexFixedDigits width id.toNat) = some id := by
  have hupper : (hexFixedDigits width id.toNat).any Char.isUpper = false := by
    rw [List.any_eq_false]
    exact fun x hx => ne_true_of_eq_false (isHexDigit_of_mem hx).isUpper_eq
  have hbound : id.toNat < Nat.pow 2 bits := id.isLt
  have hn : id.toNat < Nat.pow 16 width := by
    have hpow : Nat.pow 16 width = Nat.pow 2 bits := by
      rw [← hbits, Nat.pow_eq, Nat.pow_eq, Nat.pow_mul]
    rw [hpow]
    exact hbound
  rw [readId?, hupper, if_neg Bool.false_ne_true, readHex?_hexFixedDigits hwidth hn hbound,
    Option.map_some, BitVec.ofNat_toNat, BitVec.setWidth_eq]

/-- The span as others come to know it: it lies elsewhere, and has the one flag that counts. -/
def abroad : SpanContext := { c with flags := c.keptFlags, isRemote := true }

/-- A header of version 0 is read part by part. -/
theorem read?_of_headerParts {header : String} {version traceId spanId flags : List Char}
    (hparts : headerParts header = [version, traceId, spanId, flags])
    (hversion : readHex? 256 version = some 0) (htrace : readId? 128 traceId = some c.traceId)
    (hspan : readId? 64 spanId = some c.spanId)
    (hflags : readHex? 256 flags = some c.keptFlags.toNat) (h : c.isValid = true) :
    read? header c.state = some c.abroad := by
  have hmax : c.keptFlags.toNat ≤ maxFlags := Nat.le_trans c.toNat_keptFlags_le (by decide)
  have hkept : UInt8.ofNat c.keptFlags.toNat &&& sampledFlag = c.keptFlags := by
    rw [UInt8.ofNat_toNat, keptFlags, UInt8.and_assoc, UInt8.and_self]
  have hvalid : (⟨c.traceId, c.spanId, c.keptFlags, true, c.state⟩ : SpanContext).isValid = true := h
  have hpassed {p : Prop} [Decidable p] (hp : p) : (guard p : Option Unit) = some () := if_pos hp
  rw [read?, hparts]
  refine Option.bind_eq_some_iff.2 ⟨_, hversion, ?_⟩
  refine Option.bind_eq_some_iff.2 ⟨(), hpassed ⟨Nat.zero_le _, fun _ => rfl⟩, ?_⟩
  refine Option.bind_eq_some_iff.2 ⟨_, htrace, ?_⟩
  refine Option.bind_eq_some_iff.2 ⟨_, hspan, ?_⟩
  refine Option.bind_eq_some_iff.2 ⟨_, hflags, ?_⟩
  refine Option.bind_eq_some_iff.2 ⟨(), hpassed fun _ => hmax, ?_⟩
  rw [hkept]
  exact Option.bind_eq_some_iff.2 ⟨(), hpassed hvalid, rfl⟩

/-- **A valid span is read as it was written.** -/
theorem read?_parentHeader (h : c.isValid = true) :
    read? c.parentHeader c.state = some c.abroad := by
  have hflags : c.keptFlags.toNat ≤ 1 := c.toNat_keptFlags_le
  have hversion : readHex? 256 (hexFixedDigits 2 0) = some 0 :=
    readHex?_hexFixedDigits (by decide) (by decide) (by decide)
  have hread : readHex? 256 (hexFixedDigits 2 c.keptFlags.toNat) = some c.keptFlags.toNat :=
    readHex?_hexFixedDigits (by decide) (Nat.lt_of_le_of_lt hflags (by decide)) (by omega)
  have hwide : 4 * 32 = 128 := by decide
  have hnarrow : 4 * 16 = 64 := by decide
  have htrace : readId? 128 (hexFixedDigits 32 c.traceId.toNat) = some c.traceId :=
    readId?_hexFixedDigits (by decide) hwide c.traceId
  have hspan : readId? 64 (hexFixedDigits 16 c.spanId.toNat) = some c.spanId :=
    readId?_hexFixedDigits (by decide) hnarrow c.spanId
  exact c.read?_of_headerParts c.headerParts_parentHeader hversion htrace hspan hread h

end SpanContext

/-! ### Trace states -/

namespace TraceState

theorem isKeyChar_or_eq_of_isKey {key : String} (h : isKey key = true) {x : Char}
    (hx : x ∈ key.toList) : isKeyChar x = true ∨ x = '@' := by
  simp only [isKey, Bool.and_eq_true] at h
  obtain ⟨-, hparts⟩ := h
  rcases mem_piece_or_eq '@' hx with ⟨piece, hpiece, hmem⟩ | heq
  · left
    generalize splitOn '@' key.toList = pieces at hparts hpiece
    -- One part, or one before the `@` and one after it.
    split at hparts
    · rw [List.mem_singleton.1 hpiece] at hmem
      exact List.all_eq_true.1 hparts x hmem
    · simp only [Bool.and_eq_true] at hparts
      obtain ⟨⟨⟨hname, hvendor⟩, -⟩, -⟩ := hparts
      simp only [List.mem_cons, List.not_mem_nil, or_false] at hpiece
      rcases hpiece with rfl | rfl
      · exact List.all_eq_true.1 hname x hmem
      · exact List.all_eq_true.1 hvendor x hmem
    · cases hparts
  · exact Or.inr heq

/-- Separators are in no key. -/
theorem not_mem_of_isKey {key : String} (h : isKey key = true) {sep : Char}
    (hsep : isKeyChar sep = false) (hat : sep ≠ '@') : sep ∉ key.toList := by
  intro hmem
  rcases isKeyChar_or_eq_of_isKey h hmem with hchar | heq
  · rw [hsep] at hchar
    cases hchar
  · exact hat heq

/-- Separators are in no value. -/
theorem not_mem_of_isValue {value : String} (h : isValue value = true) :
    ',' ∉ value.toList ∧ '=' ∉ value.toList := by
  simp only [isValue, Bool.and_eq_true, List.all_eq_true, bne_iff_ne] at h
  exact ⟨fun hmem => (h.2 _ hmem).1 rfl, fun hmem => (h.2 _ hmem).2 rfl⟩

variable {m : String × String}

theorem not_mem_memberText (hk : isKey m.1 = true) (hv : isValue m.2 = true) :
    ',' ∉ memberText m := by
  intro hmem
  rcases List.mem_append.1 hmem with hkey | hrest
  · exact not_mem_of_isKey hk rfl (by decide) hkey
  · rcases List.mem_cons.1 hrest with heq | hvalue
    · cases heq
    · exact (not_mem_of_isValue hv).1 hvalue

theorem readMember?_memberText (hk : isKey m.1 = true) (hv : isValue m.2 = true) :
    readMember? (memberText m) = some m := by
  have hkey : '=' ∉ m.1.toList := not_mem_of_isKey hk rfl (by decide)
  have hvalue : m.2.toList.dropWhile (· == '=') = m.2.toList := by
    have hnone := (not_mem_of_isValue hv).2
    generalize m.2.toList = value at hnone
    cases value with
    | nil => rfl
    | cons x value =>
      refine List.dropWhile_cons_of_neg fun heq => hnone ?_
      rw [← beq_iff_eq.1 heq]
      exact List.mem_cons_self ..
  rw [readMember?, memberText, cutAt_append_cons hkey, Option.map_some]
  simp only [hvalue, String.ofList_toList]

theorem mapM_readMember?_memberText {members : List (String × String)}
    (h : ∀ m ∈ members, isKey m.1 = true ∧ isValue m.2 = true) :
    (members.map memberText).mapM readMember? = some members := by
  induction members with
  | nil => rfl
  | cons m members ih =>
    obtain ⟨⟨hk, hv⟩, hrest⟩ := List.forall_mem_cons.1 h
    rw [List.map_cons, List.mapM_cons, readMember?_memberText hk hv, ih hrest]
    rfl

theorem ofMembers?_members (state : TraceState) : ofMembers? state.members = .ok state := by
  obtain ⟨members, hwell⟩ := state
  induction members with
  | nil => rfl
  | cons m members ih =>
    obtain ⟨⟨hk, hv⟩, hrest⟩ := List.forall_mem_cons.1 hwell
    rw [ofMembers?, dif_pos hk, dif_pos hv, ih hrest]

/-- **A trace state is read as it was written.** -/
theorem read?_header (state : TraceState) : read? state.header = some state := by
  have hmembers : readMembers? state.header = some state.members := by
    have hcut : splitTerminated ',' ([','].intercalate (state.members.map memberText)) =
        state.members.map memberText := by
      apply splitTerminated_intercalate
      · intro piece hpiece
        obtain ⟨m, hm, rfl⟩ := List.mem_map.1 hpiece
        exact not_mem_memberText (state.wellFormed m hm).1 (state.wellFormed m hm).2
      · -- No member is without text: each has its equals sign.
        rw [List.getLast?_map]
        intro hlast
        obtain ⟨m, -, hm⟩ := Option.map_eq_some_iff.1 hlast
        exact List.append_ne_nil_of_right_ne_nil _ (List.cons_ne_nil _ _) hm
    rw [readMembers?, header, String.toList_ofList, hcut, mapM_readMember?_memberText state.wellFormed]
  rw [read?, hmembers]
  simp only [ofMembers?_members]
  rfl

end TraceState

end Courier
