import Courier.Proofs.Command.Decoding
import Courier.Proofs.Processing.Dismissal
import Courier.Proofs.Processing.Rhythm

/-!
# Documents that are no objects

A command is written as an object, but the decoder takes lists as well.  Among the documents that
are no objects these are the only ones that it takes: a list of at most seven values, each of them
`null` or of the type of the field in whose place it stands (`decode_of_not_isObject`).  Any other
list, a single value and a text without any value are refused, and go to the dead letters without a
call.

A list of values for the first fields is a command with these values, and the handler is called for
it.  The shortest one is the empty list (`process_emptyList`).
-/

namespace Courier.Command

open Json Json.Grammar

variable {document s : List UInt8} {c : Command}

/-- The first byte that is no blank opens the bracket. -/
theorem eq_opener_of_isBracket {α : Type} {bracket : Bracket}
    {item : List UInt8 → α → List UInt8 → Prop} {as : List α}
    (h : IsBracket bracket item document as) {b : UInt8} (hb : Blanks document (b :: s))
    (hblank : Json.isBlank b = false) : b = opener bracket := by
  obtain ⟨inside, rest, hopen, -, -⟩ := h
  have hfirst : skipBlanks document = b :: s := hb.skipBlanks_eq_cons hblank
  rw [hopen.skipBlanks_eq_cons (isBlank_opener bracket)] at hfirst
  exact (List.cons.inj hfirst).1.symm

/-- A document that begins with another byte is no object. -/
theorem not_isObject_of_ne {b : UInt8} (hb : Blanks document (b :: s))
    (hblank : Json.isBlank b = false) (hne : b ≠ openObject) (ms : List Member) :
    ¬IsObject document ms :=
  fun h => hne (eq_opener_of_isBracket h hb hblank)

/-- A list of values for the first fields, in their order, is decoded. -/
theorem decode_of_isList {es : List Entry} (h : IsList document es)
    (hfields : es.map Prod.fst <+: Field.all) : decode document = .ok (ofEntries es) := by
  obtain ⟨s, t, hopen, hitems, hend⟩ := h
  have hdistinct : (es.map Prod.fst).Nodup := hfields.sublist.nodup (by decide)
  rw [decode_eq_ok_iff]
  refine ⟨t, ?_, hend⟩
  rw [readCommand_of_list hopen, readItems_of_items hitems hfields, foldl_put hdistinct]

/-- What is decoded and is no object is such a list. -/
theorem isList_of_decode (hd : decode document = .ok c) (h : ∀ ms, ¬IsObject document ms) :
    ∃ es, IsList document es ∧ es.map Prod.fst <+: Field.all := by
  obtain ⟨rest, hread, hend⟩ := decode_eq_ok_iff.1 hd
  obtain ⟨s, hopen, hmembers⟩ | ⟨s, hopen, hvalues⟩ := blanks_of_readCommand hread
  · obtain ⟨ms, hitems, -, -⟩ := items_of_readMembers List.nodup_nil hmembers
    exact absurd ⟨s, rest, hopen, hitems, hend⟩ (h ms)
  · obtain ⟨es, hitems, hfields, -⟩ := items_of_readItems hvalues
    exact ⟨es, ⟨s, rest, hopen, hitems, hend⟩, hfields⟩

/-- Where the payload holds a command, no worker takes it for one that cannot be decoded. -/
theorem stage_process_ne_poison {σ : Type} (w : Worker σ) (world : World σ) {d : Delivery}
    (hd : decode d.payload = .ok c) : (w.process world d).stage ≠ .finished .poison := by
  intro hstage
  have hfits := fits_process w world d
  rw [hstage] at hfits
  obtain ⟨before, hend, -⟩ := hfits
  cases hend with
  | poison herror =>
    rw [hd] at herror
    cases herror

/-- **What is no object holds a command only if it is a list** of values for the first fields, in
their order; then the command is the one that these values make, and no worker sends it to the dead
letters as a payload that is none.  Everything else that is no object is refused, and goes to the
dead letters without a call. -/
theorem decode_of_not_isObject (h : ∀ ms, ¬IsObject document ms) :
    (∀ es, IsList document es → es.map Prod.fst <+: Field.all →
      decode document = .ok (ofEntries es) ∧
        ∀ {σ : Type} (w : Worker σ) (world : World σ) (d : Delivery), d.payload = document →
          (w.process world d).stage ≠ .finished .poison) ∧
    ((∀ es, IsList document es → ¬es.map Prod.fst <+: Field.all) →
      (∃ e, decode document = .error e) ∧
        ∀ {σ : Type} (w : Worker σ) (world : World σ) (d : Delivery), d.payload = document →
          w.Dismisses world d) := by
  constructor
  · intro es hlist hfields
    have hd := decode_of_isList hlist hfields
    refine ⟨hd, ?_⟩
    intro σ w world d hpayload
    exact stage_process_ne_poison w world (hpayload ▸ hd)
  · intro hnone
    have herror : ∃ e, decode document = .error e := by
      cases hd : decode document with
      | error e => exact ⟨e, rfl⟩
      | ok c =>
        obtain ⟨es, hlist, hfields⟩ := isList_of_decode hd h
        exact absurd hfields (hnone es hlist)
    refine ⟨herror, ?_⟩
    intro σ w world d hpayload
    obtain ⟨e, he⟩ := herror
    exact dismisses_of_decode_error w world (hpayload ▸ he)

/-- A list with a number in the place of a text is refused, and the handler is not called. -/
theorem decode_of_not_isObject_number :
    let document := Utf8.encode " [\"email\",7]"
    (∀ ms, ¬IsObject document ms) ∧
      (∀ es, IsList document es → ¬es.map Prod.fst <+: Field.all) ∧
        (∃ e, decode document = .error e) ∧
          (Worker.scripted none).Dismisses { memory := ⟨none, []⟩ } { payload := document } := by
  intro document
  have hlist : Blanks document (openList :: Utf8.encode "\"email\",7]") := .cons rfl .nil
  have hno := not_isObject_of_ne hlist rfl (by decide)
  have hrefused : (decode document).isOk = false := by decide +kernel
  have hnone : ∀ es, IsList document es → ¬es.map Prod.fst <+: Field.all := by
    intro es hes hfields
    rw [decode_of_isList hes hfields] at hrefused
    cases hrefused
  obtain ⟨herror, hdismisses⟩ := (decode_of_not_isObject hno).2 hnone
  exact ⟨hno, hnone, herror, hdismisses _ _ _ rfl⟩

/-- The empty list is no object, and yet the handler is called for it. -/
theorem process_emptyList :
    let w := Worker.scripted none
    let world : World Handler.Script := { memory := ⟨some 0, []⟩ }
    let d : Delivery := { payload := Utf8.encode "[]" }
    (∀ ms, ¬IsObject d.payload ms) ∧ decode d.payload = .ok {} ∧
      (w.process world d).outcome? = some (.acknowledged 1) ∧
        Act.attempts (w.process world d).acts = [1] := by
  intro w world d
  have hlist : Blanks d.payload (openList :: Utf8.encode "]") := .nil
  have hd : decode d.payload = .ok {} := rfl
  have hrun := w.goesThrough_process world hd rfl rfl (Worker.cancels_scripted rfl _ _)
    (Nat.zero_le _) nofun rfl (w.concludes_succeeded _ 1)
  exact ⟨not_isObject_of_ne hlist rfl (by decide), hd, hrun.outcome_eq, hrun.attempts_eq⟩

end Courier.Command
