import Courier.Proofs.Service.Watch

/-!
# A source that takes its time

A coordinator that has asked the source to stop waits for the answer, and the grace period begins
only when it is there.  So shutdown is bounded by the time of the answer and the grace period
together (`attend_asked_eq`): whatever the answer is, whenever it comes and whatever becomes of the
loop, the coordinator ends by then.  A loop that has ended before the answer is joined when the
answer comes.

The grace period alone is no bound (`not_now_attend_le`), and without an answer the coordinator waits
for ever, also where the loop has ended (`attend_unanswered`).
-/

namespace Courier.Coordinator

variable {c : Coordinator} {first : Glance} {p : Prospect} {C : Nat}

/-- Without an answer the coordinator waits for ever. -/
theorem attend_unanswered (c : Coordinator) (first : Glance) (p : Prospect) (source : Source) :
    c.attend first p (c.asked source C none) = c.asked source C none :=
  attend_of_wakeAt_eq_none rfl

/-- **Shutdown is bounded from the answer on.**  Let shutdown begin at `C`, before the loop ends.
The coordinator asks the source once, at `C`.  If the answer comes at `A`, with success or failure,
the coordinator ends by the end of the grace period that begins with the answer: it joins a loop
that ends before that, not before the answer, and gives any other one up at the end.  If no answer
comes it never ends, whatever becomes of the loop. -/
theorem attend_asked_eq (c : Coordinator) (first : Glance) (p : Prospect) (source : Source)
    (hC : p.cancelAt = some C) (hfirst : ∀ L, p.endsAt = some L → C < L) :
    let run := c.attend first p { source }
    run.journal.stopTimes = [C] ∧
    (∀ delay A, source.stopDelay = some delay → A = C + delay →
      (∃ outcome, run.phase = .done outcome) ∧ run.now ≤ A + c.grace ∧
      (∀ L, p.endsAt = some L → L < A + c.grace →
        run.phase = .done p.outcome ∧ run.now = max A L ∧ run.journal.abandonTimes = []) ∧
      ((∀ L, p.endsAt = some L → A + c.grace < L) →
        run.phase = .done .graceElapsed ∧ run.now = A + c.grace ∧
          run.journal.abandonTimes = [A + c.grace])) ∧
    (source.stopDelay = none →
      run.phase = .stopping none source.stop.1 ∧ run.journal.abandonTimes = [] ∧
        ∀ time, isReady (p.view time) run.phase = false) := by
  intro run
  have hasked : run = c.attend first p (c.asked source C (source.stopDelay.map (C + ·))) :=
    attend_of_asked hC (fun L hL => Nat.le_of_lt (hfirst L hL))
      (Prospect.noticed_view_eq_none hfirst first)
  cases hdelay : source.stopDelay with
  | none =>
    have hrun : run = c.asked source C none := by
      rw [hasked, hdelay]
      exact attend_unanswered c first p source
    rw [hrun]
    exact ⟨rfl, nofun, fun _ => ⟨rfl, rfl, fun _ => rfl⟩⟩
  | some delay =>
    have hA : C ≤ C + delay := Nat.le_add_right C delay
    rw [hdelay] at hasked
    obtain ⟨hdone, hle, hstop⟩ := attend_asked_bounds c first p source hA
    rw [hasked]
    refine ⟨hstop, ?_, nofun⟩
    rintro _ _ ⟨⟩ rfl
    refine ⟨hdone, hle, ?_, ?_⟩
    · intro L hL hlt
      obtain ⟨hphase, hnow, -, hnone⟩ :=
        attend_asked_of_le c first source hA hL (Nat.le_of_lt hlt)
      exact ⟨hphase, hnow, hnone⟩
    · intro h
      obtain ⟨hphase, hnow, -, hsome⟩ := attend_asked_of_elapsed c first source hA h
      exact ⟨hphase, hnow, hsome⟩

/-- A source that refuses after twenty seconds, and a loop that has ended after three: it is joined
when the refusal is there. -/
theorem attend_asked_eq_late :
    let c : Coordinator := ⟨"worker-1", 10000⟩
    let p : Prospect := { endsAt := some 3005, result := .ok { requeued := 1 }, cancelAt := some 5 }
    let source : Source := { stopRefusal := some "channel closed", stopDelay := some 20000 }
    let run := c.attend .loop p { source }
    p.cancelAt = some 5 ∧ (∀ L, p.endsAt = some L → 5 < L) ∧
      run.phase = .done (.loopFinished { requeued := 1 }) ∧ run.now = 20005 ∧
        run.journal.stopTimes = [5] := by
  intro c p source run
  have hfirst : ∀ L, p.endsAt = some L → 5 < L := by
    rintro L ⟨⟩
    decide
  obtain ⟨hstop, hanswered, -⟩ := attend_asked_eq c .loop p source rfl hfirst
  obtain ⟨-, -, hjoined, -⟩ := hanswered 20000 20005 rfl rfl
  obtain ⟨hphase, hnow, -⟩ := hjoined 3005 rfl (by decide)
  exact ⟨rfl, hfirst, hphase, hnow, hstop⟩

/-- A source that answers after twenty seconds takes a coordinator past a grace period of ten, and
one that never answers keeps it waiting. -/
theorem not_now_attend_le :
    let c : Coordinator := ⟨"worker-1", 10000⟩
    let p : Prospect := { cancelAt := some 5 }
    let slow : Source := { holdsOpen := true, stopDelay := some 20000 }
    let silent : Source := { holdsOpen := true, stopDelay := none }
    (c.attend .loop p { source := slow }).phase = .done .graceElapsed ∧
      ¬(c.attend .loop p { source := slow }).now ≤ 5 + c.grace ∧
        (c.attend .loop p { source := silent }).phase = .stopping none (.ok ()) := by
  intro c p slow silent
  have hnever : ∀ time L, p.endsAt = some L → time < L := by
    rintro time L ⟨⟩
  have hasked (source : Source) : c.attend .loop p { source } =
      c.attend .loop p (c.asked source 5 (source.stopDelay.map (5 + ·))) :=
    attend_of_asked rfl (fun L hL => Nat.le_of_lt (hnever 5 L hL)) rfl
  have hslow : c.attend .loop p { source := slow } =
      c.attend .loop p (c.asked slow 5 (some 20005)) := hasked slow
  have hsilent : c.attend .loop p { source := silent } = c.asked silent 5 none :=
    (hasked silent).trans (attend_unanswered c .loop p silent)
  have hlater : 5 ≤ 20005 := by decide
  obtain ⟨hphase, hnow, -⟩ := attend_asked_of_elapsed c .loop slow hlater (hnever _)
  rw [hslow, hsilent, hphase, hnow]
  exact ⟨rfl, by decide, rfl⟩

end Courier.Coordinator
