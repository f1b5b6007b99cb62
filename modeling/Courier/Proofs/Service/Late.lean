import Courier.Proofs.Processing.Interruption
import Courier.Proofs.Service.Endings

/-!
# Deliveries that come after shutdown

A worker that has seen shutdown makes no attempt at a delivery that is handed out from then on.  Its
payload is still read: the delivery goes to the dead letters if that is no command, and back to the
queue otherwise (`Case.IsUntried`).

The work on such a delivery is at a few stages only (`Stage.IsUntried`), and every step keeps it
there (`isUntried_step`).  `Loop.Spares` counts the deliveries that came before shutdown, and says
this of all others; `spares_follow` carries it from one event to the next, and `isUntried_play` over
whole runs.
-/

namespace Courier

variable {σ : Type}

/-! ### Stages without an attempt -/

/-- The outcome of a delivery that no attempt was made at. -/
def Outcome.IsUntried (outcome : Outcome) : Prop := outcome = .poison ∨ outcome = .interrupted 0

/-- No attempt was made, and none will be if shutdown has been seen. -/
def Stage.IsUntried : Stage → Prop
  | .received _ => True
  | .due _ n => n = 1
  | .settling s => s.outcome.IsUntried
  | .finished outcome => outcome.IsUntried
  | .calling _ _ _ _ | .waiting _ _ _ | .broken _ => False

/-- Once shutdown has been seen, a step makes no attempt. -/
theorem isUntried_step {w : Worker σ} {world : World σ} {stage : Stage}
    (hseen : w.seesShutdown world = true) (h : stage.IsUntried) :
    (w.step world stage).stage.IsUntried := by
  cases stage with
  | received d =>
    simp only [Worker.step, Worker.receive]
    split
    · exact Or.inl rfl
    · rfl
  | due job n =>
    obtain rfl : n = 1 := h
    simp only [Worker.step, Worker.attempt, if_pos hseen]
    exact Or.inr rfl
  | settling s => exact h
  | finished outcome => exact h
  | calling job n since reply => exact h.elim
  | waiting job n until_ => exact h.elim
  | broken text => exact h.elim

/-- A delivery that goes back before its first attempt leaves no acts behind. -/
theorem Worker.Ending.eq_nil_of_interrupted_zero {w : Worker σ} {d : Delivery} {outcome : Outcome}
    {l : List Act} (h : w.Ending d outcome l) (ho : outcome = .interrupted 0) : l = [] := by
  cases h with
  | poison hd => rfl
  | acknowledged h => cases ho
  | exhausted h hw => cases ho
  | @unstarted job n rounds h =>
    have hn : n - 1 = 0 := Outcome.interrupted.inj ho
    have hlength : rounds.length = 0 := by
      rw [← h.toNat_sub_one, hn]
      rfl
    rw [List.eq_nil_of_length_eq_zero hlength]
    rfl
  | @unfinished job n rounds e wait h hw =>
    have hn : n = 0 := Outcome.interrupted.inj ho
    have htoNat := h.toNat_eq
    rw [hn] at htoNat
    cases htoNat

namespace Case

/-- No attempt was made at the delivery: a payload that is no command goes to the dead letters, and
any other delivery goes back. -/
def IsUntried (c : Case) : Prop :=
  let action : Disposition := if c.delivery.isPoison then .deadLetter else .requeue
  c.outcome = (if c.delivery.isPoison then .poison else .interrupted 0) ∧
    c.acts = [.settle (c.delivery.settle action)]

variable {w : Worker σ} {c : Case}

theorem Fits.isUntried (h : c.Fits w) (ho : c.outcome.IsUntried) : c.IsUntried := by
  unfold IsUntried
  cases hp : c.delivery.isPoison with
  | true => exact h.of_isPoison hp
  | false =>
    have hne : c.outcome ≠ .poison := by
      intro hpoison
      rw [h.eq_poison_iff.1 hpoison] at hp
      cases hp
    have houtcome : c.outcome = .interrupted 0 := ho.resolve_left hne
    refine ⟨houtcome, ?_⟩
    obtain ⟨before, hend, hacts⟩ := h
    rw [hacts, hend.eq_nil_of_interrupted_zero houtcome, houtcome]
    rfl

end Case

/-! ### Deliveries after the first so many -/

/-- No attempt was made at the deliveries that came after the first `n`. -/
structure Loop.Spares (n : Nat) (entries : List Entry) (loop : Loop) : Prop where
  closed : ∀ c ∈ (docket entries).closed.drop n, c.outcome.IsUntried
  busy : n ≤ (docket entries).closed.length →
    ∀ stage, loop.phase.stage? = some stage → stage.IsUntried

/-- When so many deliveries have been handed out there are no later ones yet. -/
theorem Loop.Files.spares {w : Worker σ} {entries : List Entry} {loop : Loop}
    (h : loop.Files w entries) : loop.Spares (docket entries).deliveries.length entries := by
  have hlength : (docket entries).deliveries.length =
      (docket entries).closed.length + (docket entries).current?.toList.length := by
    rw [Docket.deliveries, List.length_append, List.length_map, List.length_map]
  constructor
  · rw [hlength, List.drop_eq_nil_of_le (Nat.le_add_right _ _)]
    exact List.forall_mem_nil _
  · intro hle stage hstage
    obtain ⟨a, ha, -⟩ := h.busy stage hstage
    rw [hlength, ha] at hle
    exact absurd hle (Nat.not_succ_le_self _)

namespace Loop.Spares

variable {w : Worker σ} {world : World σ} {n : Nat} {entries : List Entry} {loop : Loop}

theorem take (h : loop.Spares n entries) (d : Delivery) :
    Loop.Spares n (entries ++ [.received d]) { loop with phase := .working (.received d) } := by
  have hdocket : docket (entries ++ [.received d]) = (docket entries).take d :=
    docket_append entries _
  constructor
  · rw [hdocket]
    exact h.closed
  · rintro - stage ⟨⟩
    trivial

theorem work (h : loop.Spares n entries) (hfiles : loop.Files w entries)
    (hseen : w.seesShutdown world = true) {stage : Stage} (hp : loop.phase = .working stage) :
    (loop.afterStage (w.step world stage).stage).Spares n
      (entries ++ (w.step world stage).entries) := by
  have hdocket := hfiles.docket_work hp world
  have hstage : loop.phase.stage? = some stage := by
    rw [hp]
    rfl
  obtain ⟨a, ha, -⟩ := hfiles.busy stage hstage
  have hnext : n ≤ (docket entries).closed.length → (w.step world stage).stage.IsUntried :=
    fun hle => isUntried_step hseen (h.busy hle stage hstage)
  -- What the step did and where it led to is known; the step itself counts no more.
  generalize acts (w.step world stage).entries = new at hdocket
  generalize (w.step world stage).stage = next at hdocket hnext ⊢
  by_cases hfinished : ∃ outcome, next = .finished outcome
  · obtain ⟨outcome, rfl⟩ := hfinished
    constructor
    · rw [hdocket, Docket.closed_advance_finished _ _ _ ha]
      rcases Nat.lt_or_ge (docket entries).closed.length n with hlt | hle
      · -- The delivery is one of the first `n`.
        rw [List.drop_eq_nil_of_le (by rw [List.length_append]; exact hlt)]
        exact List.forall_mem_nil _
      · rw [List.drop_append_of_le_length hle]
        intro c hc
        rcases List.mem_append.1 hc with hold | hlast
        · exact h.closed c hold
        · rw [List.mem_singleton.1 hlast]
          exact hnext hle
    · intro _ stage' hstage'
      cases hstage'
  · have hopen : ∀ outcome, next ≠ .finished outcome := fun outcome heq => hfinished ⟨outcome, heq⟩
    rw [Docket.advance_eq_add _ _ hopen] at hdocket
    constructor
    · rw [hdocket]
      exact h.closed
    · rw [hdocket, loop.stage?_afterStage hopen]
      rintro hle stage' ⟨⟩
      exact hnext hle

theorem stay (h : loop.Spares n entries) {loop' : Loop} {new : List Entry}
    (ha : ∀ e ∈ new, e.isAside = true)
    (hp : loop'.phase = loop.phase ∨ loop.phase.stage? = none ∧ loop'.phase.stage? = none) :
    loop'.Spares n (entries ++ new) := by
  have hdocket : docket (entries ++ new) = docket entries :=
    (docket_append entries new).trans ((docket entries).foldl_enter_aside ha).1
  constructor
  · rw [hdocket]
    exact h.closed
  · intro hle stage hstage
    rw [hdocket] at hle
    rcases hp with hsame | ⟨-, hnone⟩
    · rw [hsame] at hstage
      exact h.busy hle stage hstage
    · rw [hnone] at hstage
      cases hstage

/-- Under a shutdown that has been seen, a step of the loop keeps it. -/
theorem step (h : loop.Spares n entries) (hfiles : loop.Files w entries)
    (hseen : w.seesShutdown world = true) (source : Source) :
    w.seesShutdown (loop.step w world source).world = true ∧
      (loop.step w world source).loop.Spares n (entries ++ (loop.step w world source).entries) := by
  have hdeed : loop.Deed w world source (loop.step w world source) := Loop.deed_step
  generalize loop.step w world source = progress at hdeed ⊢
  cases hdeed with
  | take hp => exact ⟨hseen, h.take _⟩
  | work hp => exact ⟨(Worker.quiet_step _ hseen).seesShutdown, h.work hfiles hseen hp⟩
  | stay ha hp => exact ⟨hseen, h.stay ha hp⟩

/-- The loop of a service keeps it, whether or not it has been given up. -/
theorem loopStep {v : Service σ} {s : ServiceState σ} (h : s.loop.Spares n entries)
    (hfiles : s.loop.Files v.worker entries) (hseen : v.worker.seesShutdown s.world = true) :
    v.worker.seesShutdown (v.loopStep s).world = true ∧
      (v.loopStep s).loop.Spares n (entries ++ (v.loopStep s).entries) := by
  unfold Service.loopStep
  split
  · exact ⟨hseen, h.stay (List.forall_mem_nil _) (.inl rfl)⟩
  · exact h.step hfiles hseen s.source

end Loop.Spares

/-! ### Runs -/

/-- What holds of a service that has seen shutdown when `n` deliveries had been handed out. -/
structure ServiceRun.IsLate (v : Service σ) (n : Nat) (run : ServiceRun σ) : Prop where
  seesShutdown : v.worker.seesShutdown run.state.world = true
  files : run.state.loop.Files v.worker run.journal.entries
  spares : run.state.loop.Spares n run.journal.entries

theorem isLate_follow {v : Service σ} {run : ServiceRun σ} {n : Nat} (event : Service.Event)
    (h : run.IsLate v n) : (run.follow v event).IsLate v n := by
  have hfiles := files_follow event h.files
  cases event with
  | fire p first =>
    have hentries : (run.follow v (.fire p first)).journal.entries =
        run.journal.entries ++ (v.fire run.state p first).2 := by
      simp only [ServiceRun.follow, Journal.entries_append, Journal.entries_stamp]
    cases p with
    | loop =>
      obtain ⟨hseen, hspares⟩ := h.spares.loopStep h.files h.seesShutdown
      exact ⟨hseen, hfiles, hentries ▸ hspares⟩
    | coordinator =>
      have haside := isAside_coordinator v.coordinator first (run.state.loop.view run.state.world)
        run.state.source run.state.phase
      exact ⟨h.seesShutdown, hfiles, hentries ▸ h.spares.stay haside (.inl rfl)⟩
  | cancel => exact ⟨Worker.seesShutdown_cancel h.seesShutdown, hfiles, h.spares⟩
  | elapse time =>
    exact ⟨Worker.seesShutdown_at h.seesShutdown (Nat.le_add_right _ _), hfiles, h.spares⟩

theorem isLate_foldl {v : Service σ} {run : ServiceRun σ} {n : Nat} (events : List Service.Event)
    (h : run.IsLate v n) : (events.foldl (ServiceRun.follow v) run).IsLate v n := by
  induction events generalizing run with
  | nil => exact h
  | cons event events ih => exact ih (isLate_follow event h)

/-- No attempt is made at a delivery that is handed out after shutdown has begun. -/
theorem isUntried_play (v : Service σ) (world : World σ) (queue : List Delivery)
    (holdsOpen : Bool) (hw : v.worker.heedsShutdown = true) (events more : List Service.Event) :
    let start := ServiceState.start world queue holdsOpen
    let run := v.play start events
    run.state.world.isCancelled = true →
      ∀ c ∈ (v.play start (events ++ more)).docket.closed.drop run.docket.deliveries.length,
        c.IsUntried := by
  intro start run hcancelled c hc
  have hfiles := files_play v world queue holdsOpen events
  have hlate : run.IsLate v run.docket.deliveries.length :=
    ⟨Worker.seesShutdown_iff.2 ⟨hw, hcancelled⟩, hfiles, hfiles.spares⟩
  have hmore : (v.play start (events ++ more)).IsLate v run.docket.deliveries.length := by
    rw [v.play_append]
    exact isLate_foldl more hlate
  have hfits : c.Fits v.worker := hmore.files.fits c (List.mem_of_mem_drop hc)
  exact hfits.isUntried (hmore.spares.closed c hc)

end Courier
