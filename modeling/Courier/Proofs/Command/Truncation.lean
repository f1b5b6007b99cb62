import Courier.Proofs.Command.Decoding
import Courier.Proofs.Json.Extension
import Courier.Proofs.Processing.Dismissal

/-!
# Documents that were cut short

A command ends with the byte that closes its bracket, so a reader knows its end without a look at
what stands behind it: with more bytes at the end of the document it reads the same command and
leaves these bytes (`readCommand_append`).  What is left must be blank.

So no document that holds a command goes on, with anything but blanks, to another one that does
(`isBlank_of_decode_append`).  A command that loses a part of itself on its way is never taken for
another command: it is refused, and goes to the dead letters without a call
(`dismisses_of_decode_append`).
-/

namespace Courier.Command

open Json Json.Grammar

variable {s t : List UInt8}

/-! ### More bytes behind fields, members and items -/

theorem FieldText.append_right {f : Field} {content : Content} (h : FieldText f s content t)
    (r : List UInt8) : FieldText f (s ++ r) content (t ++ r) := by
  cases h with
  | null =>
    rw [List.append_assoc]
    exact .null
  | text hf htext => exact .text hf (htext.append_right r)
  | integer hinteger => exact .integer (hinteger.append_right r)

theorem MemberText.append_right {m : Member} (h : MemberText s m t) (r : List UInt8) :
    MemberText (s ++ r) m (t ++ r) := by
  cases h with
  | field hk hc hb hv =>
    exact .field (hk.append_right r) (hc.append_right r) (hb.append_right r) (hv.append_right r)
  | other hk hother hc hb hv =>
    exact .other (hk.append_right r) hother (hc.append_right r) (hb.append_right r)
      (hv.append_right r)

/-- Items end with their closing byte, so this needs nothing but the same about each of them. -/
theorem Items.append_right {α : Type} {bracket : Bracket}
    {item : List UInt8 → α → List UInt8 → Prop} {isFirst : Bool} {as : List α}
    (h : Items bracket item isFirst s as t) (r : List UInt8)
    (hitem : ∀ {s a t}, item s a t → item (s ++ r) a (t ++ r)) :
    Items bracket item isFirst (s ++ r) as (t ++ r) := by
  induction h with
  | done hb => exact .done (hb.append_right r)
  | first hb ha _ ih => exact .first (hb.append_right r) (hitem ha) ih
  | next hc hb ha _ ih => exact .next (hc.append_right r) (hb.append_right r) (hitem ha) ih

/-! ### More bytes behind a command -/

variable {c : Command}

/-- Bytes behind a command are left where they are. -/
theorem readCommand_append (h : readCommand s = .ok (c, t)) (r : List UInt8) :
    readCommand (s ++ r) = .ok (c, t ++ r) := by
  -- Both ways lead through the grammar, which says where the command ends.
  obtain ⟨s', hopen, hmembers⟩ | ⟨s', hopen, hvalues⟩ := blanks_of_readCommand h
  · obtain ⟨ms, hitems, hfields, rfl⟩ := items_of_readMembers List.nodup_nil hmembers
    have hopen' : Blanks (s ++ r) (openObject :: (s' ++ r)) := hopen.append_right r
    have hitems' : Items .object MemberText true (s' ++ r) ms (t ++ r) :=
      hitems.append_right r fun hm => hm.append_right r
    rw [readCommand_of_object hopen', readMembers_of_items hitems' hfields]
  · obtain ⟨es, hitems, hfields, rfl⟩ := items_of_readItems hvalues
    have hopen' : Blanks (s ++ r) (openList :: (s' ++ r)) := hopen.append_right r
    have hitems' : Items .list EntryText true (s' ++ r) es (t ++ r) :=
      hitems.append_right r fun hv => hv.append_right r
    rw [readCommand_of_list hopen', readItems_of_items hitems' hfields]

variable {q r : List UInt8} {c' : Command}

/-- **Only blanks can follow a document that holds a command.** -/
theorem isBlank_of_decode_append (hq : decode q = .ok c) (h : decode (q ++ r) = .ok c') :
    ∀ b ∈ r, Json.isBlank b = true := by
  obtain ⟨rest, hread, -⟩ := decode_eq_ok_iff.1 hq
  obtain ⟨rest', hread', hend⟩ := decode_eq_ok_iff.1 h
  have hrest : rest' = rest ++ r := by
    rw [readCommand_append hread r] at hread'
    exact (Prod.mk.inj (Except.ok.inj hread')).2.symm
  obtain ⟨bs, heq, hblank⟩ := hend.exists_eq_append
  rw [List.append_nil, hrest] at heq
  intro b hb
  exact hblank b (heq ▸ List.mem_append_right rest hb)

/-- **A command that was cut short is refused.**  Where a document holds a command, a part of it in
front that lacks any byte but blanks at the end holds none, and a delivery with that payload goes to
the dead letters without a call. -/
theorem dismisses_of_decode_append (h : decode (q ++ r) = .ok c)
    (hcut : ∃ b ∈ r, Json.isBlank b = false) :
    (∃ e, decode q = .error e) ∧
      ∀ {σ : Type} (w : Worker σ) (world : World σ) (d : Delivery), d.payload = q →
        w.Dismisses world d := by
  have herror : ∃ e, decode q = .error e := by
    cases hq : decode q with
    | error e => exact ⟨e, rfl⟩
    | ok c' =>
      obtain ⟨b, hb, hnot⟩ := hcut
      have hblank := isBlank_of_decode_append hq h b hb
      rw [hnot] at hblank
      cases hblank
  refine ⟨herror, ?_⟩
  intro σ w world d hpayload
  obtain ⟨e, he⟩ := herror
  exact dismisses_of_decode_error w world (hpayload ▸ he)

/-- The object with an escape in a key, without the byte that closes it: all of its members are
there. -/
theorem dismisses_escaped :
    (∃ b ∈ escapedDocument.drop 23, Json.isBlank b = false) ∧
      (∃ e, decode (escapedDocument.take 23) = .error e) ∧
        Worker.Dismisses (Worker.scripted none) { memory := ⟨none, []⟩ }
          { payload := escapedDocument.take 23 } := by
  have hcut : ∃ b ∈ escapedDocument.drop 23, Json.isBlank b = false := by decide
  have hwhole : decode (escapedDocument.take 23 ++ escapedDocument.drop 23) =
      .ok { recipient := "a" } := by
    rw [List.take_append_drop]
    exact decode_escapedDocument
  obtain ⟨herror, hdismisses⟩ := dismisses_of_decode_append hwhole hcut
  exact ⟨hcut, herror, hdismisses _ _ _ rfl⟩

end Courier.Command
