import Courier.Proofs.Service.Poison

/-!
# A batch, one delivery after the other

`Worker.process` takes one delivery to its end.  The loop over a batch does nothing else: it takes
the first delivery to its end in the world that it has found, the next one in the world that this
has left, and so on (`Worker.WorksThrough`).

While a delivery is in flight, the loop on its own clock makes the steps that the worker makes on
its own (`toEnd_working`).  So a delivery is taken up and processed (`toEnd_pulling_cons`), and the
docket gets its case (`foldl_enter_process`).  `hasDone_consume` says what there is when the whole
batch is done.
-/

namespace Courier

variable {σ : Type}

/-! ### The loop and the worker, step beside step -/

section Loop

variable {w : Worker σ} {world : World σ} {stage : Stage} {source : Source} {tally : Tally}
  {j : Journal}

/-- Where the loop goes from a stage does not depend on where it comes from. -/
theorem Loop.afterStage_congr (phase phase' : LoopPhase) (tally : Tally) (stage : Stage) :
    afterStage ⟨phase, tally⟩ stage = afterStage ⟨phase', tally⟩ stage := by
  cases stage <;> rfl

theorem Loop.afterStage_of_live (phase : LoopPhase) (tally : Tally) (h : stage.isFinal = false) :
    afterStage ⟨phase, tally⟩ stage = ⟨.working stage, tally⟩ := by
  cases stage with
  | finished _ | broken _ => cases h
  | received _ | due _ _ | calling _ _ _ _ | waiting _ _ _ | settling _ => rfl

namespace LoopRun

/-- While a delivery is in flight, the loop goes on as the work on it does. -/
theorem toEnd_working (h : stage.isFinal = false) :
    (⟨world, source, ⟨.working stage, tally⟩, j⟩ : LoopRun σ).toEnd w =
      (⟨(w.toEnd world stage).world, source,
        Loop.afterStage ⟨.working stage, tally⟩ (w.toEnd world stage).stage,
        j ++ (w.toEnd world stage).journal⟩ : LoopRun σ).toEnd w := by
  fun_induction Worker.toEnd w world stage generalizing j with
  | case1 world stage hfinal =>
    rw [hfinal] at h
    cases h
  | case2 world stage hfinal ready progress =>
    rename_i run ih
    have htime : (⟨.working stage, tally⟩ : Loop).readyAt w world = some (w.readyAt world stage) :=
      rfl
    have hready : (⟨.working stage, tally⟩ : Loop).isReady w ready source = true :=
      Loop.isReady_at h htime
    have hstep : (⟨world, source, ⟨.working stage, tally⟩, j⟩ : LoopRun σ).toEnd w =
        (⟨progress.world, source, Loop.afterStage ⟨.working stage, tally⟩ progress.stage,
          j ++ stamp ready.now progress.entries⟩ : LoopRun σ).toEnd w := by
      rw [toEnd_of_isReady htime (by rw [follow_elapse htime]; exact hready), follow_elapse htime]
      rfl
    rw [hstep]
    cases hnext : progress.stage.isFinal with
    | true =>
      have hrun : run = ⟨progress.world, progress.stage, []⟩ := toEnd_of_isFinal w _ hnext
      rw [hrun, List.append_nil]
    | false =>
      rw [Loop.afterStage_of_live _ _ hnext, ih hnext, List.append_assoc,
        Loop.afterStage_congr (.working progress.stage) (.working stage)]

/-- A loop that finds its source open goes on to the first item. -/
theorem toEnd_pulling (w : Worker σ) (world : World σ) (stream : List Pending) (tally : Tally)
    (j : Journal) :
    (⟨world, { pending := stream }, ⟨.pulling, tally⟩, j⟩ : LoopRun σ).toEnd w =
      (⟨world, { pending := stream }, ⟨.popping, tally⟩, j⟩ : LoopRun σ).toEnd w := by
  have htime : (⟨.pulling, tally⟩ : Loop).readyAt w world = some world.now := rfl
  have hlook : (⟨world, { pending := stream }, ⟨.pulling, tally⟩, j⟩ : LoopRun σ).toEnd w =
      (⟨world, { pending := stream }, ⟨.popping, tally⟩, j ++ []⟩ : LoopRun σ).toEnd w := by
    rw [toEnd_of_isReady htime rfl, follow_elapse htime]
    rfl
  rw [hlook, List.append_nil]

/-- The loop takes up the first delivery of a batch, and takes it to its end. -/
theorem toEnd_pulling_cons (w : Worker σ) (world : World σ) (d : Delivery) (ds : List Delivery)
    (tally : Tally) (j : Journal) :
    (⟨world, { pending := batch (d :: ds) }, ⟨.pulling, tally⟩, j⟩ : LoopRun σ).toEnd w =
      (⟨(w.process world d).world, { pending := batch ds },
        Loop.afterStage ⟨.pulling, tally⟩ (w.process world d).stage,
        j ++ (w.process world d).journal⟩ : LoopRun σ).toEnd w := by
  have htime : (⟨.popping, tally⟩ : Loop).readyAt w world = some world.now := rfl
  have htake : (⟨world, { pending := batch (d :: ds) }, ⟨.popping, tally⟩, j⟩ : LoopRun σ).toEnd w =
      (⟨world, { pending := batch ds }, ⟨.working (.received d), tally⟩,
        j ++ stamp world.now [.received d]⟩ : LoopRun σ).toEnd w := by
    rw [toEnd_of_isReady htime rfl, follow_elapse htime]
    rfl
  rw [toEnd_pulling, htake, toEnd_working rfl, List.append_assoc,
    Loop.afterStage_congr (.working (.received d)) .pulling]
  rfl

/-- A loop that has done with its batch ends. -/
theorem toEnd_pulling_nil (w : Worker σ) (world : World σ) (tally : Tally) (j : Journal) :
    (⟨world, { pending := batch [] }, ⟨.pulling, tally⟩, j⟩ : LoopRun σ).toEnd w =
      ⟨world, { pending := batch [] }, ⟨.ended, tally⟩,
        j ++ stamp world.now [.logged none (Loop.endRecord w tally)]⟩ := by
  have htime : (⟨.popping, tally⟩ : Loop).readyAt w world = some world.now := rfl
  rw [toEnd_pulling, toEnd_of_isReady htime rfl, follow_elapse htime, toEnd]
  rfl

end LoopRun

theorem Worker.consume_eq (w : Worker σ) (world : World σ) (stream : List Pending) :
    w.consume world stream =
      (⟨world, { pending := stream }, ⟨.pulling, {}⟩,
        stamp world.now [.logged none (Loop.startRecord w)]⟩ : LoopRun σ).toEnd w := by
  have htime : (⟨.idle, {}⟩ : Loop).readyAt w world = some world.now := rfl
  rw [consume, LoopRun.start, LoopRun.toEnd_of_isReady htime rfl, LoopRun.follow_elapse htime]
  rfl

end Loop

/-! ### The case of a delivery -/

section Docket

variable {w : Worker σ} {world : World σ} {d : Delivery} {outcome : Outcome}

/-- The work on the delivery in flight takes the docket to its end. -/
theorem foldl_enter_toEnd (w : Worker σ) (world : World σ) (stage : Stage) (D : Docket)
    (h : stage.isFinal = false) :
    (w.toEnd world stage).journal.entries.foldl Docket.enter D =
      D.advance (w.toEnd world stage).acts (w.toEnd world stage).stage := by
  fun_induction Worker.toEnd w world stage generalizing D with
  | case1 world stage hfinal =>
    rw [hfinal] at h
    cases h
  | case2 world stage hfinal ready progress =>
    rename_i run ih
    have hstep : progress.entries.foldl Docket.enter D =
        D.advance (acts progress.entries) progress.stage := w.foldl_enter_step D ready h
    simp only [Run.acts, Journal.entries_append, Journal.entries_stamp, acts_append,
      List.foldl_append, hstep]
    cases hnext : progress.stage.isFinal with
    | true =>
      have hrun : run = ⟨progress.world, progress.stage, []⟩ := toEnd_of_isFinal w _ hnext
      rw [hrun]
      exact congrArg (D.advance · _) (List.append_nil _).symm
    | false =>
      have hopen : ∀ outcome, progress.stage ≠ .finished outcome := by
        rintro outcome heq
        rw [heq] at hnext
        cases hnext
      rw [D.advance_eq_add _ hopen, ih _ hnext, D.advance_add]
      rfl

/-- A delivery that is processed to an outcome has its case. -/
theorem foldl_enter_process (D : Docket) (h : (w.process world d).stage = .finished outcome) :
    (w.process world d).journal.entries.foldl Docket.enter D =
      { closed := D.closed ++ [⟨d, (w.process world d).acts, outcome⟩] } := by
  have hend : (w.toEnd world (.received d)).stage = .finished outcome := h
  have hacts : (w.process world d).acts = (w.toEnd world (.received d)).acts := rfl
  have hfold : (w.process world d).journal.entries.foldl Docket.enter D =
      (w.toEnd world (.received d)).journal.entries.foldl Docket.enter (D.take d) := rfl
  rw [hfold, foldl_enter_toEnd w world _ _ rfl, hend, hacts]
  rfl

end Docket

/-! ### Whole batches -/

/-- The deliveries are processed one after the other, each in the world that the one before has
left, and all of them come to an outcome: these are their cases, and the world at the end. -/
inductive Worker.WorksThrough (w : Worker σ) : World σ → List Delivery → List Case → World σ → Prop
  where
  | nil {world : World σ} : WorksThrough w world [] [] world
  | cons {world world' : World σ} {d : Delivery} {ds : List Delivery} {outcome : Outcome}
    {cases : List Case} (h : (w.process world d).stage = .finished outcome)
    (hrest : WorksThrough w (w.process world d).world ds cases world') :
    WorksThrough w world (d :: ds) (⟨d, (w.process world d).acts, outcome⟩ :: cases) world'

namespace Worker.WorksThrough

variable {w : Worker σ} {world world' : World σ} {ds : List Delivery} {cases : List Case}

/-- Every delivery has its case. -/
theorem map_delivery (h : w.WorksThrough world ds cases world') :
    cases.map (·.delivery) = ds := by
  induction h with
  | nil => rfl
  | cons _ _ ih => exact congrArg (List.cons _) ih

theorem settledOnce (h : w.WorksThrough world ds cases world') :
    ∀ c ∈ cases, SettledOnce c.delivery c.outcome c.acts := by
  induction h with
  | nil => exact List.forall_mem_nil _
  | @cons world world' d ds outcome cases hstage hrest ih =>
    have hfits := fits_process w world d
    rw [hstage] at hfits
    exact List.forall_mem_cons.2 ⟨settledOnce_of_fits hfits, ih⟩

end Worker.WorksThrough

/-- A run of the loop has done with a batch: it has ended, with these cases and nothing else. -/
structure LoopRun.HasDone (run : LoopRun σ) (cases : List Case) (world : World σ) : Prop where
  phase_eq : run.loop.phase = .ended
  world_eq : run.world = world
  tally_eq : run.loop.tally = (cases.map (·.outcome)).foldl Tally.record {}
  docket_eq : run.docket = { closed := cases }
  acts_eq : acts run.entries = cases.flatMap (·.acts)

/-- From anywhere between two deliveries: what is written until the end tells of these cases. -/
theorem LoopRun.toEnd_of_worksThrough {w : Worker σ} {world world' : World σ} {ds : List Delivery}
    {cases : List Case} (h : w.WorksThrough world ds cases world') (tally : Tally) (j : Journal) :
    ∃ more : Journal,
      (⟨world, { pending := batch ds }, ⟨.pulling, tally⟩, j⟩ : LoopRun σ).toEnd w =
        ⟨world', { pending := batch [] },
          ⟨.ended, (cases.map (·.outcome)).foldl Tally.record tally⟩, j ++ more⟩ ∧
      (∀ D : Docket, D.current? = none →
        more.entries.foldl Docket.enter D = { closed := D.closed ++ cases }) ∧
      acts more.entries = cases.flatMap (·.acts) := by
  induction h generalizing tally j with
  | @nil world =>
    refine ⟨_, toEnd_pulling_nil w world tally j, ?_, rfl⟩
    rintro ⟨closed, current⟩ rfl
    exact congrArg (Docket.mk · none) (List.append_nil closed).symm
  | @cons world world' d ds outcome cases hstage hrest ih =>
    obtain ⟨more, hrun, hdocket, hacts⟩ :=
      ih (tally.record outcome) (j ++ (w.process world d).journal)
    refine ⟨(w.process world d).journal ++ more, ?_, ?_, ?_⟩
    · rw [toEnd_pulling_cons, hstage, ← List.append_assoc]
      exact hrun
    · intro D hD
      rw [Journal.entries_append, List.foldl_append, foldl_enter_process D hstage, hdocket _ rfl,
        List.append_assoc]
      rfl
    · rw [Journal.entries_append, acts_append, hacts]
      rfl

/-- **The loop over a batch processes one delivery after the other.** -/
theorem Worker.WorksThrough.hasDone_consume {w : Worker σ} {world world' : World σ}
    {ds : List Delivery} {cases : List Case} (h : w.WorksThrough world ds cases world') :
    (w.consume world (batch ds)).HasDone cases world' := by
  obtain ⟨more, hrun, hdocket, hacts⟩ :=
    LoopRun.toEnd_of_worksThrough h {} (stamp world.now [.logged none (Loop.startRecord w)])
  have hconsume := (w.consume_eq world (batch ds)).trans hrun
  have hentries : (w.consume world (batch ds)).entries =
      .logged none (Loop.startRecord w) :: more.entries := by
    rw [hconsume, LoopRun.entries, Journal.entries_append, Journal.entries_stamp]
    rfl
  refine ⟨?_, ?_, ?_, ?_, ?_⟩
  · rw [hconsume]
  · rw [hconsume]
  · rw [hconsume]
  · rw [LoopRun.docket, hentries]
    exact hdocket {} rfl
  · rw [hentries]
    exact hacts

end Courier
