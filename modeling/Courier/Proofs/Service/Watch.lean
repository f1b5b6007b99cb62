import Courier.Proofs.Service.Interleaving

/-!
# The coordinator on its own

All that a coordinator sees of a loop is when and how it ends.  A `Prospect` says that, and when
shutdown begins; it leaves open what the loop does.  `Coordinator.attend` is the run of a
coordinator under a prospect: it makes each step as soon as it can (`isReady_iff_wakeAt`).  What it
looks at first makes a difference only where the loop ends just as shutdown begins
(`CoordinatorView.noticed_eq`).

A coordinator joins the loop (`attend_of_joined`) or asks the source to stop (`attend_of_asked`),
and when the answer comes it joins the loop or gives it up (`attend_asked_of_le`,
`attend_asked_of_elapsed`); or it waits for ever.  `attend_eq` puts this together for a source that
answers at once; a loop that has been given up does nothing any more (`CoordinatorPhase.EndsWork`).

That the coordinator of a service does the same is shown in `Courier.Proofs.Service.Foresight`.
-/

namespace Courier

/-! ### What a coordinator notices -/

namespace CoordinatorView

variable {v : CoordinatorView}

/-- As long as shutdown has not begun, the end of the loop is noticed. -/
theorem noticed_eq (h : v.isCancelled = false) (first : Glance) : v.noticed first = v.result? := by
  cases first with
  | loop => rfl
  | shutdown => simp only [noticed, h, Bool.false_eq_true, if_false]

theorem noticed_eq_none (h : v.result? = none) (first : Glance) : v.noticed first = none := by
  cases first with
  | loop => exact h
  | shutdown => simp only [noticed, h, ite_self]

end CoordinatorView

/-! ### What becomes of a loop -/

/-- What becomes of a loop, and when shutdown begins. -/
structure Prospect where
  /-- The time at which the loop ends, if it does. -/
  endsAt : Option Nat := none
  /-- How it ends: with its counts, or with the reason for which it broke down. -/
  result : Except String Tally := .ok {}
  /-- The time at which shutdown begins, if it does. -/
  cancelAt : Option Nat := none

namespace Prospect

/-- The outcome of a loop that ends in this way. -/
def outcome (p : Prospect) : ShutdownOutcome :=
  match p.result with
  | .ok tally => .loopFinished tally
  | .error reason => .loopFailed reason

/-- What there is to see at a time. -/
def view (p : Prospect) (now : Nat) : CoordinatorView :=
  ⟨now, p.cancelAt, if p.endsAt.any (· ≤ now) then some p.outcome else none⟩

/-- The earlier one of two times. -/
def earlier : Option Nat → Option Nat → Option Nat
  | some a, some b => some (min a b)
  | some a, none => some a
  | none, b => b

/-- The earliest time, from now on, at which a coordinator can go further. -/
def wakeAt (p : Prospect) (now : Nat) : CoordinatorPhase → Option Nat
  | .watching => (earlier p.endsAt p.cancelAt).map (max now)
  | .stopping answersAt _ => answersAt.map (max now)
  | .draining deadline => (earlier p.endsAt (some deadline)).map (max now)
  | .done _ => none

theorem any_earlier (a b : Option Nat) (now : Nat) :
    (earlier a b).any (· ≤ now) = (a.any (· ≤ now) || b.any (· ≤ now)) := by
  cases a with
  | none => rfl
  | some a =>
    cases b with
    | none => exact (Bool.or_false _).symm
    | some b =>
      show decide (min a b ≤ now) = (decide (a ≤ now) || decide (b ≤ now))
      rw [← Bool.decide_or, decide_eq_decide]
      omega

theorem le_wakeAt {p : Prospect} {now time : Nat} {phase : CoordinatorPhase}
    (h : p.wakeAt now phase = some time) : now ≤ time := by
  have hmap {a : Option Nat} (ha : a.map (max now) = some time) : now ≤ time := by
    obtain ⟨x, -, rfl⟩ := Option.map_eq_some_iff.1 ha
    exact Nat.le_max_left _ _
  cases phase with
  | watching => exact hmap h
  | stopping answersAt answer => exact hmap h
  | draining deadline => exact hmap h
  | done outcome => cases h

/-- A coordinator is ready from the time on for which it waits, and not before. -/
theorem isReady_iff_wakeAt (p : Prospect) {now time : Nat} (phase : CoordinatorPhase)
    (h : now ≤ time) :
    Coordinator.isReady (p.view time) phase = true ↔
      ∃ wake, p.wakeAt now phase = some wake ∧ wake ≤ time := by
  have hany (a : Option Nat) :
      a.any (· ≤ time) = true ↔ ∃ wake, a.map (max now) = some wake ∧ wake ≤ time := by
    cases a with
    | none =>
      constructor
      · exact fun h => by cases h
      · rintro ⟨wake, hwake, -⟩
        cases hwake
    | some a =>
      simp only [Option.any_some, decide_eq_true_eq, Option.map_some, Option.some.injEq,
        exists_eq_left']
      omega
  have hresult : (p.view time).result?.isSome = p.endsAt.any (· ≤ time) := by
    unfold view
    cases p.endsAt.any (· ≤ time) <;> rfl
  cases phase with
  | watching =>
    rw [Coordinator.isReady, hresult, wakeAt, ← hany, any_earlier]
    rfl
  | stopping answersAt answer => exact hany answersAt
  | draining deadline =>
    rw [Coordinator.isReady, hresult, wakeAt, ← hany, any_earlier]
    rfl
  | done outcome =>
    constructor
    · exact fun h => by cases h
    · rintro ⟨wake, hwake, -⟩
      cases hwake

end Prospect

/-- The times at which the source was asked to stop. -/
def Journal.stopTimes (j : Journal) : List Nat :=
  j.filterMap fun s =>
    match s.entry with
    | .stopAsked => some s.time
    | _ => none

/-- The times at which the loop was given up. -/
def Journal.abandonTimes (j : Journal) : List Nat :=
  j.filterMap fun s =>
    match s.entry with
    | .abandoned => some s.time
    | _ => none

/-- Where a coordinator stands, and what it did. -/
structure Watch where
  now : Nat := 0
  source : Source
  phase : CoordinatorPhase := .watching
  journal : Journal := []

namespace Coordinator

/-- Lets time pass until the given one, and makes a step. -/
def advance (c : Coordinator) (first : Glance) (p : Prospect) (time : Nat) (run : Watch) : Watch :=
  let progress := c.step first (p.view time) run.source run.phase
  ⟨time, progress.source, progress.phase, run.journal ++ stamp time progress.entries⟩

/-- The run of a coordinator, to its end or until it waits for ever. -/
def attend (c : Coordinator) (first : Glance) (p : Prospect) (run : Watch) : Watch :=
  match _h : p.wakeAt run.now run.phase with
  | none => run
  | some time =>
    if _ready : isReady (p.view time) run.phase then c.attend first p (c.advance first p time run)
    else run
  termination_by rank run.phase
  decreasing_by exact rank_step_lt _ready

/-- Where a coordinator stands that has asked the source to stop, and whose answer comes at the
given time. -/
def asked (c : Coordinator) (source : Source) (now : Nat) (answersAt : Option Nat) : Watch :=
  ⟨now, source.stop.2, .stopping answersAt source.stop.1,
    stamp now (c.requestStop now source).entries⟩

/-! ### Which step the coordinator makes -/

section Steps

variable {c : Coordinator} {first : Glance} {view : CoordinatorView} {source : Source}
  {answer : Except WorkerError Unit} {now deadline : Nat}

theorem step_watching_of_noticed {outcome : ShutdownOutcome}
    (h : view.noticed first = some outcome) :
    c.step first view source .watching = c.join source outcome := by
  simp only [step, h]

theorem step_watching_of_isCancelled (h : view.noticed first = none)
    (hc : view.isCancelled = true) :
    c.step first view source .watching = c.requestStop view.now source := by
  simp only [step, h, hc, if_true]

theorem step_stopping (h : now ≤ view.now) :
    c.step first view source (.stopping (some now) answer) =
      c.beginGrace view.now source answer := by
  have hdue : (some now).any (· ≤ view.now) = true := decide_eq_true h
  rw [step, if_pos hdue]

theorem step_draining_of_result? {outcome : ShutdownOutcome} (h : view.result? = some outcome) :
    c.step first view source (.draining deadline) = c.join source outcome := by
  simp only [step, h]

theorem step_draining_of_le (h : view.result? = none) (hle : deadline ≤ view.now) :
    c.step first view source (.draining deadline) = c.abandon source := by
  simp only [step, h, hle, if_true]

/-- A coordinator that is not ready changes nothing. -/
theorem step_of_isReady_eq_false {phase : CoordinatorPhase} (h : isReady view phase = false) :
    c.step first view source phase = ⟨source, phase, []⟩ := by
  cases phase with
  | watching =>
    obtain ⟨hresult, hcancelled⟩ := Bool.or_eq_false_iff.1 h
    have hnone : view.result? = none :=
      Option.not_isSome_iff_eq_none.1 (Bool.eq_false_iff.1 hresult)
    rw [step, CoordinatorView.noticed_eq_none hnone, hcancelled]
    rfl
  | stopping answersAt answer =>
    have hnot : ¬answersAt.any (· ≤ view.now) = true := Bool.eq_false_iff.1 h
    rw [step, if_neg hnot]
  | draining deadline =>
    obtain ⟨hresult, hdue⟩ := Bool.or_eq_false_iff.1 h
    have hnone : view.result? = none :=
      Option.not_isSome_iff_eq_none.1 (Bool.eq_false_iff.1 hresult)
    simp only [step, hnone, if_neg (of_decide_eq_false hdue)]
  | done outcome => rfl

end Steps

/-! ### The courses of the run -/

variable {c : Coordinator} {first : Glance} {p : Prospect} {run : Watch}

theorem attend_of_wakeAt_eq_none (h : p.wakeAt run.now run.phase = none) :
    c.attend first p run = run := by
  rw [attend, h]

/-- A coordinator that waits for a time makes its step then. -/
theorem attend_of_wakeAt {time : Nat} (h : p.wakeAt run.now run.phase = some time) :
    c.attend first p run = c.attend first p (c.advance first p time run) := by
  have hready : isReady (p.view time) run.phase = true :=
    (p.isReady_iff_wakeAt run.phase (Prospect.le_wakeAt h)).2 ⟨time, h, Nat.le_refl _⟩
  rw [attend, h]
  exact dif_pos hready

theorem attend_done (c : Coordinator) (first : Glance) (p : Prospect) (now : Nat) (source : Source)
    (outcome : ShutdownOutcome) (j : Journal) :
    c.attend first p ⟨now, source, .done outcome, j⟩ = ⟨now, source, .done outcome, j⟩ :=
  attend_of_wakeAt_eq_none rfl

section Courses

variable {source : Source} {j : Journal} {now L C A deadline : Nat}

theorem result?_view (hL : p.endsAt = some L) (h : L ≤ now) :
    (p.view now).result? = some p.outcome := by
  simp only [Prospect.view, hL, Option.any_some, h, decide_true, if_true]

theorem result?_view_eq_none (h : ∀ L, p.endsAt = some L → now < L) :
    (p.view now).result? = none := by
  have hany : p.endsAt.any (· ≤ now) = false := by
    cases hL : p.endsAt with
    | none => rfl
    | some L => exact decide_eq_false (Nat.not_le.2 (h L hL))
  simp only [Prospect.view, hany, Bool.false_eq_true, if_false]

theorem isCancelled_view (hC : p.cancelAt = some C) (h : C ≤ now) :
    (p.view now).isCancelled = true := by
  rw [CoordinatorView.isCancelled, Prospect.view, hC]
  exact decide_eq_true h

theorem isCancelled_view_eq_false (h : ∀ C, p.cancelAt = some C → now < C) :
    (p.view now).isCancelled = false := by
  rw [CoordinatorView.isCancelled, Prospect.view]
  cases hC : p.cancelAt with
  | none => rfl
  | some C => exact decide_eq_false (Nat.not_le.2 (h C hC))

/-- The loop ends before shutdown has been noticed: the coordinator joins it. -/
theorem attend_of_joined (hL : p.endsAt = some L) (hle : ∀ C, p.cancelAt = some C → L ≤ C)
    (hn : (p.view L).noticed first = some p.outcome) :
    c.attend first p { source } =
      ⟨L, source, .done p.outcome, stamp L (c.join source p.outcome).entries⟩ := by
  have hwake : p.wakeAt 0 .watching = some L := by
    rw [Prospect.wakeAt, hL]
    cases hC : p.cancelAt with
    | none => exact congrArg some (Nat.zero_max L)
    | some C =>
      exact congrArg some ((Nat.zero_max _).trans (Nat.min_eq_left (hle C hC)))
  have hstep : c.step first (p.view L) source .watching = c.join source p.outcome :=
    step_watching_of_noticed hn
  rw [attend_of_wakeAt hwake, advance, hstep, join_eq]
  exact attend_done c first p L source p.outcome _

/-- The loop ends before the grace period does: the coordinator joins it, at once where it has ended
before. -/
theorem attend_draining_of_le (hL : p.endsAt = some L) (hle : L ≤ deadline) :
    c.attend first p ⟨now, source, .draining deadline, j⟩ =
      ⟨max now L, source, .done p.outcome,
        j ++ stamp (max now L) (c.join source p.outcome).entries⟩ := by
  have hwake : p.wakeAt now (.draining deadline) = some (max now L) := by
    rw [Prospect.wakeAt, hL]
    exact congrArg some (congrArg (max now) (Nat.min_eq_left hle))
  have hstep : c.step first (p.view (max now L)) source (.draining deadline) =
      c.join source p.outcome := step_draining_of_result? (result?_view hL (Nat.le_max_right now L))
  rw [attend_of_wakeAt hwake, advance, hstep, join_eq]
  exact attend_done c first p (max now L) source p.outcome _

/-- The grace period runs out: the coordinator gives the loop up. -/
theorem attend_of_elapsed (h : ∀ L, p.endsAt = some L → deadline < L) (hnow : now ≤ deadline) :
    c.attend first p ⟨now, source, .draining deadline, j⟩ =
      ⟨deadline, source, .done .graceElapsed, j ++ stamp deadline (c.abandon source).entries⟩ := by
  have hwake : p.wakeAt now (.draining deadline) = some deadline := by
    rw [Prospect.wakeAt]
    cases hL : p.endsAt with
    | none => exact congrArg some (Nat.max_eq_right hnow)
    | some L =>
      have hmin : min L deadline = deadline := Nat.min_eq_right (Nat.le_of_lt (h L hL))
      exact congrArg some ((congrArg (max now) hmin).trans (Nat.max_eq_right hnow))
  have hstep : c.step first (p.view deadline) source (.draining deadline) = c.abandon source :=
    step_draining_of_le (result?_view_eq_none h) (Nat.le_refl _)
  rw [attend_of_wakeAt hwake, advance, hstep]
  exact attend_done c first p deadline source .graceElapsed _

/-- Shutdown begins before the end of the loop has been noticed: the source is asked to stop. -/
theorem attend_of_asked (hC : p.cancelAt = some C) (hle : ∀ L, p.endsAt = some L → C ≤ L)
    (hn : (p.view C).noticed first = none) :
    c.attend first p { source } =
      c.attend first p (c.asked source C (source.stopDelay.map (C + ·))) := by
  have hwake : p.wakeAt 0 .watching = some C := by
    rw [Prospect.wakeAt, hC]
    cases hL : p.endsAt with
    | none => exact congrArg some (Nat.zero_max C)
    | some L =>
      exact congrArg some ((Nat.zero_max _).trans (Nat.min_eq_right (hle L hL)))
  have hstep : c.step first (p.view C) source .watching = c.requestStop C source :=
    step_watching_of_isCancelled hn (isCancelled_view hC (Nat.le_refl C))
  rw [attend_of_wakeAt hwake, advance, hstep]
  rfl

/-- The source answers: the grace period begins then. -/
theorem attend_asked (h : C ≤ A) :
    c.attend first p (c.asked source C (some A)) =
      c.attend first p ⟨A, source.stop.2, .draining (A + c.grace),
        stamp C (c.requestStop C source).entries ++
          stamp A (c.beginGrace A source.stop.2 source.stop.1).entries⟩ := by
  have hwake : p.wakeAt C (.stopping (some A) source.stop.1) = some A :=
    congrArg some (Nat.max_eq_right h)
  have hstep : c.step first (p.view A) source.stop.2 (.stopping (some A) source.stop.1) =
      c.beginGrace A source.stop.2 source.stop.1 := step_stopping (Nat.le_refl _)
  rw [asked, attend_of_wakeAt hwake, advance, hstep]
  rfl

/-- The source is asked to stop, and answers at once. -/
theorem attend_of_cancelled (hC : p.cancelAt = some C) (hle : ∀ L, p.endsAt = some L → C ≤ L)
    (hn : (p.view C).noticed first = none) (hs : source.stopDelay = some 0) :
    c.attend first p { source } = c.attend first p (c.asked source C (some C)) := by
  rw [attend_of_asked hC hle hn, hs, Option.map_some, Nat.add_zero]

end Courses

end Coordinator

/-! ### All courses -/

namespace Prospect

variable {p : Prospect} {L C : Nat}

/-- A loop that ends before shutdown begins is noticed. -/
theorem noticed_view (hL : p.endsAt = some L) (h : ∀ C, p.cancelAt = some C → L < C)
    (first : Glance) : (p.view L).noticed first = some p.outcome := by
  rw [CoordinatorView.noticed_eq (Coordinator.isCancelled_view_eq_false h)]
  exact Coordinator.result?_view hL (Nat.le_refl L)

theorem noticed_view_eq_none (h : ∀ L, p.endsAt = some L → C < L) (first : Glance) :
    (p.view C).noticed first = none :=
  CoordinatorView.noticed_eq_none (Coordinator.result?_view_eq_none h) first

/-- The end of the loop or the beginning of shutdown is noticed first, or neither ever comes. -/
theorem noticed_cases (p : Prospect) (first : Glance) :
    (∃ L, p.endsAt = some L ∧ (∀ C, p.cancelAt = some C → L ≤ C) ∧
      (p.view L).noticed first = some p.outcome) ∨
    (∃ C, p.cancelAt = some C ∧ (∀ L, p.endsAt = some L → C ≤ L) ∧
      (p.view C).noticed first = none) ∨
    p.endsAt = none ∧ p.cancelAt = none := by
  cases hL : p.endsAt with
  | none =>
    cases hC : p.cancelAt with
    | none => exact Or.inr (Or.inr ⟨rfl, rfl⟩)
    | some C =>
      have hnever : ∀ L, p.endsAt = some L → C < L := by
        rw [hL]
        exact nofun
      exact Or.inr (Or.inl ⟨C, rfl, nofun, noticed_view_eq_none hnever first⟩)
  | some L =>
    cases hC : p.cancelAt with
    | none =>
      have hnever : ∀ C, p.cancelAt = some C → L < C := by
        rw [hC]
        exact nofun
      exact Or.inl ⟨L, rfl, nofun, noticed_view hL hnever first⟩
    | some C =>
      have hends : ∀ L', some L = some L' → L' = L := fun _ h => (Option.some.inj h).symm
      have hbegins : ∀ C', some C = some C' → C' = C := fun _ h => (Option.some.inj h).symm
      rcases Nat.lt_trichotomy L C with hlt | rfl | hlt
      · refine Or.inl ⟨L, rfl, fun C' h => hbegins C' h ▸ Nat.le_of_lt hlt, ?_⟩
        exact noticed_view hL (fun C' h => hbegins C' (hC.symm.trans h) ▸ hlt) first
      -- The loop ends just as shutdown begins: what is looked at first decides.
      · cases first with
        | loop =>
          refine Or.inl ⟨L, rfl, fun C' h => Nat.le_of_eq (hbegins C' h).symm, ?_⟩
          exact Coordinator.result?_view hL (Nat.le_refl L)
        | shutdown =>
          refine Or.inr (Or.inl ⟨L, rfl, fun L' h => Nat.le_of_eq (hends L' h).symm, ?_⟩)
          exact if_pos (Coordinator.isCancelled_view hC (Nat.le_refl L))
      · refine Or.inr (Or.inl ⟨C, rfl, fun L' h => hends L' h ▸ Nat.le_of_lt hlt, ?_⟩)
        exact noticed_view_eq_none (fun L' h => hends L' (hL.symm.trans h) ▸ hlt) first

end Prospect

namespace Journal

theorem stopTimes_append (j j' : Journal) : stopTimes (j ++ j') = stopTimes j ++ stopTimes j' :=
  List.filterMap_append

theorem abandonTimes_append (j j' : Journal) :
    abandonTimes (j ++ j') = abandonTimes j ++ abandonTimes j' :=
  List.filterMap_append

variable (c : Coordinator) (time : Nat) (source : Source)

/-- A coordinator that joins the loop neither stops the source nor gives the loop up. -/
theorem times_join (outcome : ShutdownOutcome) :
    stopTimes (stamp time (c.join source outcome).entries) = [] ∧
      abandonTimes (stamp time (c.join source outcome).entries) = [] := by
  cases outcome with
  | loopFinished _ | graceElapsed | loopFailed _ => exact ⟨rfl, rfl⟩

/-- A coordinator that stops the source does so once, whatever the answer and whenever it comes. -/
theorem times_asked (answersAt : Nat) (answer : Except WorkerError Unit) :
    let j := stamp time (c.requestStop time source).entries ++
      stamp answersAt (c.beginGrace answersAt source.stop.2 answer).entries
    stopTimes j = [time] ∧ abandonTimes j = [] := by
  cases answer with
  | ok _ | error _ => exact ⟨rfl, rfl⟩

theorem times_abandon :
    stopTimes (stamp time (c.abandon source).entries) = [] ∧
      abandonTimes (stamp time (c.abandon source).entries) = [time] :=
  ⟨rfl, rfl⟩

end Journal

namespace Coordinator

variable {c : Coordinator} {first : Glance} {p : Prospect} {source : Source} {L C A : Nat}

/-- The loop ends before the grace period that begins with the answer does. -/
theorem attend_asked_of_le (c : Coordinator) (first : Glance) (source : Source) (hA : C ≤ A)
    (hL : p.endsAt = some L) (hle : L ≤ A + c.grace) :
    let run := c.attend first p (c.asked source C (some A))
    run.phase = .done p.outcome ∧ run.now = max A L ∧ run.journal.stopTimes = [C] ∧
      run.journal.abandonTimes = [] := by
  intro run
  have hrun : run = _ := (attend_asked hA).trans (attend_draining_of_le hL hle)
  obtain ⟨hstop, habandon⟩ := Journal.times_asked c C source A source.stop.1
  obtain ⟨hstop', habandon'⟩ := Journal.times_join c (max A L) source.stop.2 p.outcome
  rw [hrun]
  refine ⟨rfl, rfl, ?_, ?_⟩
  · rw [Journal.stopTimes_append, hstop, hstop', List.append_nil]
  · rw [Journal.abandonTimes_append, habandon, habandon', List.append_nil]

/-- The grace period that begins with the answer runs out. -/
theorem attend_asked_of_elapsed (c : Coordinator) (first : Glance) (source : Source) (hA : C ≤ A)
    (h : ∀ L, p.endsAt = some L → A + c.grace < L) :
    let run := c.attend first p (c.asked source C (some A))
    run.phase = .done .graceElapsed ∧ run.now = A + c.grace ∧ run.journal.stopTimes = [C] ∧
      run.journal.abandonTimes = [A + c.grace] := by
  intro run
  have hrun : run = _ :=
    (attend_asked hA).trans (attend_of_elapsed h (Nat.le_add_right A c.grace))
  obtain ⟨hstop, habandon⟩ := Journal.times_asked c C source A source.stop.1
  obtain ⟨hstop', habandon'⟩ := Journal.times_abandon c (A + c.grace) source.stop.2
  rw [hrun]
  refine ⟨rfl, rfl, ?_, ?_⟩
  · rw [Journal.stopTimes_append, hstop, hstop', List.append_nil]
  · rw [Journal.abandonTimes_append, habandon, habandon', List.nil_append]

theorem attend_asked_bounds (c : Coordinator) (first : Glance) (p : Prospect) (source : Source)
    (hA : C ≤ A) :
    let run := c.attend first p (c.asked source C (some A))
    (∃ outcome, run.phase = .done outcome) ∧ run.now ≤ A + c.grace ∧
      run.journal.stopTimes = [C] := by
  intro run
  by_cases hL : ∃ L, p.endsAt = some L ∧ L ≤ A + c.grace
  · obtain ⟨L, hL, hle⟩ := hL
    obtain ⟨hphase, hnow, hstop, -⟩ := attend_asked_of_le c first source hA hL hle
    refine ⟨⟨_, hphase⟩, ?_, hstop⟩
    calc run.now = max A L := hnow
      _ ≤ A + c.grace := Nat.max_le.2 ⟨Nat.le_add_right A c.grace, hle⟩
  · have helapsed : ∀ L, p.endsAt = some L → A + c.grace < L :=
      fun L hL' => Nat.not_le.1 fun hle => hL ⟨L, hL', hle⟩
    obtain ⟨hphase, hnow, hstop, -⟩ := attend_asked_of_elapsed c first source hA helapsed
    exact ⟨⟨_, hphase⟩, Nat.le_of_eq hnow, hstop⟩

/-- When and how the coordinator ends does not depend on what the source answers at once. -/
theorem attend_congr {source' : Source} (hs : source.stopDelay = some 0)
    (hs' : source'.stopDelay = some 0) :
    (c.attend first p { source := source' }).phase = (c.attend first p { source }).phase ∧
      (c.attend first p { source := source' }).now = (c.attend first p { source }).now := by
  obtain ⟨L, hL, hle, hn⟩ | ⟨C, hC, hle, hn⟩ | ⟨hL, hC⟩ := p.noticed_cases first
  · rw [attend_of_joined hL hle hn, attend_of_joined hL hle hn]
    exact ⟨rfl, rfl⟩
  · rw [attend_of_cancelled hC hle hn hs, attend_of_cancelled hC hle hn hs']
    have hC' : C ≤ C := Nat.le_refl C
    by_cases hdrained : ∃ L, p.endsAt = some L ∧ L ≤ C + c.grace
    · obtain ⟨L, hL, hdrain⟩ := hdrained
      obtain ⟨hphase, hnow, -⟩ := attend_asked_of_le c first source hC' hL hdrain
      obtain ⟨hphase', hnow', -⟩ := attend_asked_of_le c first source' hC' hL hdrain
      exact ⟨hphase'.trans hphase.symm, hnow'.trans hnow.symm⟩
    · have helapsed : ∀ L, p.endsAt = some L → C + c.grace < L :=
        fun L hL => Nat.not_le.1 fun hle => hdrained ⟨L, hL, hle⟩
      obtain ⟨hphase, hnow, -⟩ := attend_asked_of_elapsed c first source hC' helapsed
      obtain ⟨hphase', hnow', -⟩ := attend_asked_of_elapsed c first source' hC' helapsed
      exact ⟨hphase'.trans hphase.symm, hnow'.trans hnow.symm⟩
  · have hwake : p.wakeAt 0 .watching = none := by rw [Prospect.wakeAt, hL, hC]; rfl
    rw [attend_of_wakeAt_eq_none hwake, attend_of_wakeAt_eq_none hwake]
    exact ⟨rfl, rfl⟩

/-- **When the coordinator ends, and how.**  Let the source answer at once, with success or failure.
A loop that ends before shutdown begins is joined then, and the source is not stopped.  Otherwise
the source is stopped once, at the beginning of shutdown; a loop that ends within the grace period
is joined then, and any other one is given up at its end and does nothing any more.  Where nothing
ever happens the coordinator waits for ever, and nothing of all this depends on the answer. -/
theorem attend_eq (c : Coordinator) (first : Glance) (p : Prospect) (source : Source)
    (hs : source.stopDelay = some 0) :
    let run := c.attend first p { source }
    (∀ L, p.endsAt = some L → (∀ C, p.cancelAt = some C → L < C) →
      run.phase = .done p.outcome ∧ run.now = L ∧ run.journal.stopTimes = [] ∧
        run.source = source) ∧
    (∀ C, p.cancelAt = some C → (∀ L, p.endsAt = some L → C < L) →
      run.journal.stopTimes = [C] ∧
      (∀ L, p.endsAt = some L → L < C + c.grace →
        run.phase = .done p.outcome ∧ run.now = L ∧ run.journal.abandonTimes = []) ∧
      ((∀ L, p.endsAt = some L → C + c.grace < L) →
        run.phase = .done .graceElapsed ∧ run.now = C + c.grace ∧
          run.journal.abandonTimes = [C + c.grace] ∧ run.phase.EndsWork)) ∧
    (p.endsAt = none → p.cancelAt = none → run = { source }) ∧
    (∀ source', source'.stopDelay = some 0 →
      (c.attend first p { source := source' }).phase = run.phase ∧
        (c.attend first p { source := source' }).now = run.now) := by
  intro run
  refine ⟨?_, ?_, ?_, fun source' hs' => attend_congr hs hs'⟩
  · intro L hL hfirst
    have hrun : run = _ := attend_of_joined hL (fun C hC => Nat.le_of_lt (hfirst C hC))
      (Prospect.noticed_view hL hfirst first)
    rw [hrun]
    exact ⟨rfl, rfl, (Journal.times_join c L source p.outcome).1, rfl⟩
  · intro C hC hfirst
    have hrun : run = c.attend first p (c.asked source C (some C)) :=
      attend_of_cancelled hC (fun L hL => Nat.le_of_lt (hfirst L hL))
        (Prospect.noticed_view_eq_none hfirst first) hs
    rw [hrun]
    refine ⟨(attend_asked_bounds c first p source (Nat.le_refl C)).2.2, ?_, ?_⟩
    · intro L hL hlt
      obtain ⟨hphase, hnow, -, hnone⟩ :=
        attend_asked_of_le c first source (Nat.le_refl C) hL (Nat.le_of_lt hlt)
      exact ⟨hphase, hnow.trans (Nat.max_eq_right (Nat.le_of_lt (hfirst L hL))), hnone⟩
    · intro h
      obtain ⟨hphase, hnow, -, hsome⟩ :=
        attend_asked_of_elapsed c first source (Nat.le_refl C) h
      exact ⟨hphase, hnow, hsome, hphase ▸ endsWork_graceElapsed⟩
  · intro hL hC
    have hwake : p.wakeAt 0 .watching = none := by rw [Prospect.wakeAt, hL, hC]; rfl
    exact attend_of_wakeAt_eq_none hwake

/-- A loop that ends three seconds after the beginning of shutdown is joined, although its source
could not be stopped. -/
theorem attend_eq_drained :
    let c : Coordinator := ⟨"worker-1", 10000⟩
    let p : Prospect :=
      { endsAt := some 3005, result := .ok { requeued := 1 }, cancelAt := some 5 }
    let source : Source := { stopRefusal := some "channel closed" }
    let run := c.attend .loop p { source }
    source.stopDelay = some 0 ∧ run.phase = .done (.loopFinished { requeued := 1 }) ∧
      run.now = 3005 ∧ run.journal.stopTimes = [5] := by
  intro c p source run
  have hfirst : ∀ L, p.endsAt = some L → 5 < L := by
    rintro L ⟨⟩
    decide
  obtain ⟨-, hcancelled, -, -⟩ := attend_eq c .loop p source rfl
  obtain ⟨hstop, hdrained, -⟩ := hcancelled 5 rfl hfirst
  obtain ⟨hphase, hnow, -⟩ := hdrained 3005 rfl (by decide)
  exact ⟨rfl, hphase, hnow, hstop⟩

end Coordinator

end Courier
