import Courier.Proofs.Processing.Interleaving

/-!
# Payloads that are no commands

A payload that cannot be decoded is sent to the dead letters, and that is all: no call, no wait, no
other terminal action.  It makes no difference who handles commands, how often they are tried, when
shutdown begins, or in which order steps and time come (`dismisses_of_decode_error`).
-/

namespace Courier

variable {σ : Type} {w : Worker σ} {d : Delivery} {e : DecodeError}

/-- The delivery was sent to the dead letters, and nothing else was done about it. -/
def Run.Dismissed (run : Run σ) (d : Delivery) : Prop :=
  run.stage = .finished .poison ∧ run.acts = [.settle (d.settle .deadLetter)]

/-- A delivery is sent to the dead letters, whatever the handler is and whenever shutdown begins. -/
structure Worker.Dismisses (w : Worker σ) (world : World σ) (d : Delivery) : Prop where
  /-- However steps, time and shutdown come: nothing has been done yet, or all of it. -/
  play (events : List Worker.Event) :
    ((w.play world d events).stage.isFinal = false ∧ (w.play world d events).acts = []) ∨
      (w.play world d events).Dismissed d
  /-- On its own clock the worker comes to the end. -/
  process : (w.process world d).Dismissed d

/-- Where the payload cannot be decoded only two stages are left in which something could have been
done, and both are of a delivery that is sent away. -/
theorem acts_of_fits_of_decode_error {stage : Stage} {l : List Act} (h : stage.Fits w d l)
    (hd : Command.decode d.payload = .error e) :
    (stage.isFinal = false ∧ l = []) ∨
      (stage = .finished .poison ∧ l = [.settle (d.settle .deadLetter)]) := by
  have hno {job : Job} {n : UInt32} {rounds : List Round} (hat : w.IsAt d job n rounds) : False := by
    have hcommand := hat.decode_eq
    rw [hd] at hcommand
    cases hcommand
  have hpoison {outcome : Outcome} {before : List Act} (hend : w.Ending d outcome before) :
      outcome = .poison ∧ before = [] := by
    cases hend with
    | poison => exact ⟨rfl, rfl⟩
    | acknowledged hat | exhausted hat | unstarted hat | unfinished hat => exact (hno hat).elim
  cases stage with
  | received d' => exact .inl ⟨rfl, h.2⟩
  | due job n =>
    obtain ⟨rounds, hat, -⟩ := h
    exact (hno hat).elim
  | calling job n since reply =>
    obtain ⟨rounds, hat, -⟩ := h
    exact (hno hat).elim
  | waiting job n until_ =>
    obtain ⟨rounds, failure, wait, hat, -⟩ := h
    exact (hno hat).elim
  | settling s => exact .inl ⟨rfl, (hpoison h.2).2⟩
  | finished outcome =>
    obtain ⟨before, hend, rfl⟩ := h
    obtain ⟨rfl, rfl⟩ := hpoison hend
    exact .inr ⟨rfl, rfl⟩
  | broken text =>
    obtain ⟨job, n, rounds, hat, -⟩ := h
    exact (hno hat).elim

/-- **A payload that is no command goes to the dead letters**, without a call. -/
theorem dismisses_of_decode_error (w : Worker σ) (world : World σ)
    (hd : Command.decode d.payload = .error e) : w.Dismisses world d where
  play events := acts_of_fits_of_decode_error (fits_play w world d events) hd
  process := by
    have hfinal : (w.process world d).stage.isFinal = true := isFinal_toEnd w world (.received d)
    obtain ⟨hlive, -⟩ | hend := acts_of_fits_of_decode_error (fits_process w world d) hd
    · rw [hfinal] at hlive
      cases hlive
    · exact hend

end Courier
