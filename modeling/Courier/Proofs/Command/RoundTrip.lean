import Courier.Command.Encode
import Courier.Proofs.Command.Decoding

/-!
# What is written is read back

`encode` writes an object of the form that `decode` reads: `isObject_encode`, with one member a
field, and each piece of the writer is a piece of the grammar in front of whatever follows it.  So
`decode_encode_injective` is a case of the completeness of the decoder.
-/

namespace Courier.Command

open Json Json.Grammar

/-- The UTF-8 form of some characters. -/
abbrev bytes (cs : List Char) : List UInt8 := cs.flatMap String.utf8EncodeChar

variable {s t : List UInt8}

/-! ### Strings -/

/-- The digits of the writer are those of the grammar. -/
theorem hexDigit_digitChar : ∀ n < 16,
    String.utf8EncodeChar (digitChar n) = [UInt8.ofNat (digitChar n).toNat] ∧
      HexDigit (UInt8.ofNat (digitChar n).toNat) n := by
  decide

theorem hexCode_hexFixedDigits {n : Nat} (hn : n < 0x10000) (t : List UInt8) :
    HexCode (bytes (hexFixedDigits 4 n) ++ t) n t := by
  obtain ⟨ha, hw⟩ := hexDigit_digitChar (n / 16 / 16 / 16 % 16) (Nat.mod_lt _ (by decide))
  obtain ⟨hb, hx⟩ := hexDigit_digitChar (n / 16 / 16 % 16) (Nat.mod_lt _ (by decide))
  obtain ⟨hc, hy⟩ := hexDigit_digitChar (n / 16 % 16) (Nat.mod_lt _ (by decide))
  obtain ⟨hd, hz⟩ := hexDigit_digitChar (n % 16) (Nat.mod_lt _ (by decide))
  have hcode := HexCode.mk (s := t) hw hx hy hz
  have hvalue : ((n / 16 / 16 / 16 % 16 * 16 + n / 16 / 16 % 16) * 16 + n / 16 % 16) * 16 + n % 16 =
      n := by omega
  rw [hvalue] at hcode
  simpa only [hexFixedDigits, bytes, List.nil_append, List.flatMap_append, List.flatMap_cons,
    List.flatMap_nil, List.append_nil, ha, hb, hc, hd, List.cons_append] using hcode

/-- A character is written as itself, or as an escape that means it. -/
theorem chars_escapedChar {cs : List Char} (c : Char) (h : Chars s cs t) :
    Chars (bytes (escapedChar c) ++ s) (c :: cs) t := by
  unfold escapedChar
  split
  iterate 7 exact .escape (.short (by decide)) h
  split
  · rename_i hlt
    have hcode := hexCode_hexFixedDigits (Nat.lt_trans hlt (by decide)) s
    rw [bytes, List.flatMap_append, List.append_assoc]
    exact .escape (.code hcode) h
  · rename_i hquote hbackslash _ _ _ _ _ hlt
    rw [bytes, List.flatMap_cons, List.flatMap_nil, List.append_nil]
    exact .plain (Nat.le_of_not_lt hlt) hquote hbackslash h

theorem chars_flatMap_escapedChar (cs : List Char) (t : List UInt8) :
    Chars (bytes (cs.flatMap escapedChar) ++ t) cs t := by
  induction cs with
  | nil => exact .nil
  | cons c cs ih =>
    rw [List.flatMap_cons, bytes, List.flatMap_append, List.append_assoc]
    exact chars_escapedChar c ih

theorem text_writeText (text : String) (t : List UInt8) :
    Text (bytes (writeText text) ++ t) text t := by
  refine ⟨bytes (text.toList.flatMap escapedChar) ++ quote :: t, ?_,
    chars_flatMap_escapedChar text.toList (quote :: t)⟩
  rw [writeText, bytes, List.cons_append, List.flatMap_cons, List.flatMap_append, List.append_assoc,
    List.append_assoc]
  rfl

/-! ### Integers -/

theorem isDigit_digitChar : ∀ n < 10,
    String.utf8EncodeChar (digitChar n) = [UInt8.ofNat (digitChar n).toNat] ∧
      isDigit (UInt8.ofNat (digitChar n).toNat) = true ∧
        digitOf (UInt8.ofNat (digitChar n).toNat) = n := by
  decide

/-- One more digit behind a number that is not zero. -/
theorem natural_concat {n : Nat} {b : UInt8} (h : Natural s n (b :: t)) (hn : n ≠ 0)
    (hb : isDigit b = true) : Natural s (n * 10 + digitOf b) t := by
  cases h with
  | zero => exact absurd rfl hn
  | digits hfirst hz hrun => exact .digits hfirst hz (hrun.concat hb)

theorem natural_digits (n : Nat) (t : List UInt8) : Natural (bytes (digits 10 n) ++ t) n t := by
  induction n using Nat.strongRecOn generalizing t with
  | ind n ih =>
    rw [digits]
    split
    · rename_i hlt
      have hlt' : n < 10 := by omega
      obtain ⟨hbyte, hdigit, hvalue⟩ := isDigit_digitChar n hlt'
      rw [bytes, List.flatMap_cons, hbyte]
      by_cases hn : n = 0
      · subst hn
        exact .zero
      · have hz : UInt8.ofNat (digitChar n).toNat ≠ zero := by
          intro hz
          rw [hz] at hvalue
          exact hn hvalue.symm
        have hrun : Run (digitOf (UInt8.ofNat (digitChar n).toNat)) t n t := by
          rw [hvalue]
          exact .nil
        exact .digits hdigit hz hrun
    · rename_i hge
      -- The last digit stands behind those of `n / 10`, which is not zero here.
      obtain ⟨hbyte, hdigit, hvalue⟩ := isDigit_digitChar (n % 10) (Nat.mod_lt n (by decide))
      have hprefix := ih (n / 10) (by omega) (UInt8.ofNat (digitChar (n % 10)).toNat :: t)
      have hnatural := natural_concat hprefix (by omega) hdigit
      have hsum : n / 10 * 10 + n % 10 = n := by omega
      rw [hvalue, hsum] at hnatural
      rwa [bytes, List.flatMap_append, List.flatMap_singleton, hbyte, List.append_assoc,
        List.singleton_append]

theorem integer_decimalInt (i : Int) (t : List UInt8) :
    Integer (bytes (decimalInt i).toList ++ t) i t := by
  have hnatural := natural_digits i.natAbs t
  unfold decimalInt
  split
  · rename_i hneg
    have hi : -(i.natAbs : Int) = i := by omega
    have hinteger := Integer.negative hnatural (by omega)
    rw [hi] at hinteger
    rw [decimal, String.toList_append, String.toList_ofList, String.toList_ofList]
    exact hinteger
  · have hi : (i.natAbs : Int) = i := by omega
    have hinteger := Integer.natural hnatural
    rw [hi] at hinteger
    rwa [decimal, String.toList_ofList]

/-! ### Members -/

/-- What a command says about a field. -/
def content (c : Command) : Field → Content
  | .kind => .text c.kind
  | .recipient => .text c.recipient
  | .subject => .text c.subject
  | .body => .text c.body
  | .applicationId => .text c.applicationId
  | .interviewId => c.interviewId.elim .null .text
  | .jobId => .integer c.jobId

theorem ofContents_content (c : Command) : ofContents c.content = c := by
  obtain ⟨kind, recipient, subject, body, applicationId, interviewId, jobId⟩ := c
  cases interviewId <;> rfl

theorem fieldText_writeField (c : Command) (f : Field) (t : List UInt8) :
    FieldText f (bytes (c.writeField f) ++ t) (c.content f) t := by
  cases f with
  | jobId => exact .integer (integer_decimalInt _ t)
  | interviewId =>
    rw [writeField, content]
    cases c.interviewId with
    | none => exact .null
    | some id => exact .text (by decide) (text_writeText id t)
  | _ => exact .text (by decide) (text_writeText _ t)

theorem memberText_writeMember (c : Command) (f : Field) (t : List UInt8) :
    MemberText (bytes (c.writeMember f) ++ t) (.field f (c.content f)) t := by
  have hkey := text_writeText f.name (colon :: (bytes (c.writeField f) ++ t))
  have hvalue := fieldText_writeField c f t
  have hmember : MemberText _ (.field f (c.content f)) t := .field hkey .nil .nil hvalue
  rw [writeMember, bytes, List.flatMap_append, List.flatMap_cons, List.append_assoc]
  exact hmember

/-! ### Whole commands -/

/-- Pieces with a comma between them are the first piece, and then each one with a comma in
front. -/
theorem intercalate_cons {α : Type} (separator x : List α) (xs : List (List α)) :
    separator.intercalate (x :: xs) = x ++ xs.flatMap (separator ++ ·) := by
  induction xs generalizing x with
  | nil => rw [List.intercalate_singleton, List.flatMap_nil, List.append_nil]
  | cons y xs ih =>
    rw [List.intercalate_cons_cons, ih, List.flatMap_cons, List.append_assoc, List.append_assoc]

theorem items_flatMap (c : Command) (fs : List Field) (t : List UInt8) :
    Items .object MemberText false
      (bytes ((fs.map c.writeMember).flatMap ([','] ++ ·)) ++ closeObject :: t)
      (fs.map fun f => .field f (c.content f)) t := by
  induction fs with
  | nil => exact .done .nil
  | cons f fs ih =>
    rw [List.map_cons, List.map_cons, List.flatMap_cons]
    simp only [bytes, List.flatMap_append, List.append_assoc]
    exact .next (t := bytes (c.writeMember f) ++ _) .nil .nil (memberText_writeMember c f _) ih

/-- The members that `encode` writes. -/
def members (c : Command) : List Member := Field.all.map fun f => .field f (c.content f)

theorem isObject_encode (c : Command) : IsObject (encode c) c.members := by
  have hrest := items_flatMap c
    [.recipient, .subject, .body, .applicationId, .interviewId, .jobId] []
  have hitems : Items .object MemberText true _ c.members [] :=
    .first .nil (memberText_writeMember c .kind _) hrest
  refine ⟨_, [], ?_, hitems, .nil⟩
  rw [encode, encodeText, Utf8.encode_ofList, Field.all, List.map_cons, intercalate_cons]
  simp only [List.cons_append, List.flatMap_cons, List.flatMap_append, List.append_assoc]
  exact .nil

theorem fields_members (c : Command) : fields c.members = Field.all := rfl

theorem ofEntries_members (c : Command) : ofEntries (entries c.members) = c := by
  have hcontent : contentOf (entries c.members) = c.content := by
    funext f
    cases f <;> rfl
  rw [ofEntries, hcontent, ofContents_content]

/-- **What is written is read back**, and so no two commands are written alike. -/
theorem decode_encode_injective :
    (∀ c : Command, decode (encode c) = .ok c) ∧ Function.Injective encode := by
  have hdecode : ∀ c : Command, decode (encode c) = .ok c := by
    intro c
    have hfields : (fields c.members).Nodup := by
      rw [fields_members]
      decide
    rw [decode_of_isObject (isObject_encode c) hfields, ofEntries_members]
  refine ⟨hdecode, ?_⟩
  intro c d h
  have hread := hdecode c
  rw [h, hdecode d] at hread
  exact (Except.ok.inj hread).symm

end Courier.Command
