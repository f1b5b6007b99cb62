import Courier.Proofs.Processing.Interruption
import Courier.Proofs.Service.Endings

/-!
# Services that lose no time

In `Service.play` time may pass whenever it likes.  A run is prompt (`Service.IsPrompt`) if time
passes only until somebody can go further, and not once the coordinator is done.  Who goes first
when both can is still open, and so is what the coordinator looks at first.

`Service.run` is such a run (`Service.exists_prompt_run`): it lets time pass up to
`Service.readyAt`, and nobody is ready before that time (`Loop.readyAt_le`,
`Coordinator.readyAt_le`).  It ends when the coordinator is done, or when neither party waits for
any time (`Service.end_run`).
-/

namespace Courier

variable {σ : Type}

/-! ### Prompt runs -/

namespace Service

variable (v : Service σ)

/-- The event keeps nobody waiting who could go further. -/
def Allows (s : ServiceState σ) : Service.Event → Prop
  | .elapse time => s.outcome? = none ∧
      ∀ t < time, ∀ p, v.isReady { s with world := s.world.at (s.world.now + t) } p = false
  | .fire _ _ | .cancel => True

/-- No event keeps anybody waiting who could go further. -/
def IsPrompt : ServiceRun σ → List Service.Event → Prop
  | _, [] => True
  | run, event :: events => v.Allows run.state event ∧ IsPrompt (run.follow v event) events

variable {v}

theorem isPrompt_append {run : ServiceRun σ} {events more : List Service.Event} :
    v.IsPrompt run (events ++ more) ↔
      v.IsPrompt run events ∧ v.IsPrompt (events.foldl (ServiceRun.follow v) run) more := by
  induction events generalizing run with
  | nil => exact ⟨fun h => ⟨trivial, h⟩, fun h => h.2⟩
  | cons event events ih =>
    constructor
    · intro h
      obtain ⟨hevents, hmore⟩ := ih.1 h.2
      exact ⟨⟨h.1, hevents⟩, hmore⟩
    · intro h
      exact ⟨h.1.1, ih.2 ⟨h.1.2, h.2⟩⟩

end Service

/-! ### When somebody is ready -/

section Ready

variable {w : Worker σ} {world : World σ} {time : Nat}

/-- A stage is not ready before its time. -/
theorem readyAt_le {stage : Stage} (hle : world.now ≤ time)
    (h : stage.isReady w (world.at time) = true) : w.readyAt world stage ≤ time := by
  cases stage with
  | calling job n since reply =>
    have hdue : reply.endsAt since ≤ time := of_decide_eq_true h
    exact Nat.max_le.2 ⟨hle, hdue⟩
  | waiting job n until_ =>
    rcases Bool.or_eq_true_iff.1 h with hseen | hdue
    · obtain ⟨hheeds, hcancelled⟩ := Worker.seesShutdown_iff.1 hseen
      obtain ⟨C, hC, hCle⟩ := isCancelled_iff.1 hcancelled
      have hC' : world.cancelAt = some C := hC
      simp only [Worker.readyAt, Worker.shutdownSeenAt, hheeds, if_true, hC', Option.map_some]
      exact Nat.le_trans (Nat.min_le_right _ _) (Nat.max_le.2 ⟨hle, hCle⟩)
    · have hdue : until_ ≤ time := of_decide_eq_true hdue
      have hmax : max world.now until_ ≤ time := Nat.max_le.2 ⟨hle, hdue⟩
      simp only [Worker.readyAt]
      cases w.shutdownSeenAt world with
      | none => exact hmax
      | some seen => exact Nat.le_trans (Nat.min_le_left _ _) hmax
  | received _ | due _ _ | settling _ | finished _ | broken _ => exact hle

/-- A loop that is not ready yet is not ready before its time. -/
theorem Loop.readyAt_le {loop : Loop} {source : Source} (hle : world.now ≤ time)
    (h : loop.isReady w (world.at time) source = true) :
    loop.isReady w world source = true ∨ ∃ r, loop.readyAt w world = some r ∧ r ≤ time := by
  obtain ⟨phase, tally⟩ := loop
  cases phase with
  | idle | pulling | popping => exact Or.inl rfl
  | awaiting until_ =>
    rcases Bool.or_eq_true_iff.1 h with hstopped | hdue
    · exact Or.inl (Bool.or_eq_true_iff.2 (Or.inl hstopped))
    · have hdue : until_ ≤ time := of_decide_eq_true hdue
      exact Or.inr ⟨_, rfl, Nat.max_le.2 ⟨hle, hdue⟩⟩
  | holding => exact Or.inl h
  | working stage => exact Or.inr ⟨_, rfl, Courier.readyAt_le hle h⟩
  | ended => cases h
  | failed text => cases h

/-- A coordinator that is not ready yet is not ready before its time. -/
theorem Coordinator.readyAt_le {loop : Loop} {phase : CoordinatorPhase} (hle : world.now ≤ time)
    (h : isReady (loop.view (world.at time)) phase = true) :
    isReady (loop.view world) phase = true ∨
      ∃ r, readyAt (loop.view world) phase = some r ∧ r ≤ time := by
  have hany {a : Option Nat} (ha : a.any (· ≤ time) = true) :
      ∃ r, a.map (max world.now) = some r ∧ r ≤ time := by
    obtain ⟨x, hx, hxle⟩ := Option.any_eq_true _ _ |>.1 ha
    exact ⟨_, by rw [hx]; rfl, Nat.max_le.2 ⟨hle, of_decide_eq_true hxle⟩⟩
  cases phase with
  | watching =>
    rcases Bool.or_eq_true_iff.1 h with hresult | hcancelled
    · exact Or.inl (Bool.or_eq_true_iff.2 (Or.inl hresult))
    · exact Or.inr (hany hcancelled)
  | stopping answersAt answer => exact Or.inr (hany h)
  | draining deadline =>
    rcases Bool.or_eq_true_iff.1 h with hresult | hdue
    · exact Or.inl (Bool.or_eq_true_iff.2 (Or.inl hresult))
    · exact Or.inr ⟨_, rfl, Nat.max_le.2 ⟨hle, of_decide_eq_true hdue⟩⟩
  | done outcome => cases h

/-- A coordinator is ready when its time has come. -/
theorem Coordinator.isReady_at {loop : Loop} {phase : CoordinatorPhase}
    (h : readyAt (loop.view world) phase = some time) :
    isReady (loop.view (world.at time)) phase = true := by
  have hany {a : Option Nat} (ha : a.map (max world.now) = some time) :
      a.any (· ≤ time) = true := by
    obtain ⟨x, rfl, rfl⟩ := Option.map_eq_some_iff.1 ha
    exact decide_eq_true (Nat.le_max_right _ _)
  cases phase with
  | watching => exact Bool.or_eq_true_iff.2 (Or.inr (hany h))
  | stopping answersAt answer => exact hany h
  | draining deadline =>
    obtain rfl := Option.some.inj h
    exact Bool.or_eq_true_iff.2 (Or.inr (decide_eq_true (Nat.le_max_right _ _)))
  | done outcome => cases h

theorem Coordinator.le_readyAt {loop : Loop} {phase : CoordinatorPhase}
    (h : readyAt (loop.view world) phase = some time) : world.now ≤ time := by
  have hmap {a : Option Nat} (ha : a.map (max world.now) = some time) : world.now ≤ time := by
    obtain ⟨x, -, rfl⟩ := Option.map_eq_some_iff.1 ha
    exact Nat.le_max_left _ _
  cases phase with
  | watching => exact hmap h
  | stopping answersAt answer => exact hmap h
  | draining deadline => exact Option.some.inj h ▸ Nat.le_max_left _ _
  | done outcome => cases h

end Ready

/-! ### Letting time pass -/

namespace Service

variable {v : Service σ} {s : ServiceState σ} {time : Nat}

/-- Where nobody makes the next step, nobody can. -/
theorem isReady_eq_false (h : v.next? s = none) (p : Party) : v.isReady s p = false := by
  have hparty : p = first s ∨ p = (first s).other := by
    cases p <;> cases first s <;> first | exact Or.inl rfl | exact Or.inr rfl
  unfold next? at h
  split at h
  · cases h
  · rename_i hfirst
    split at h
    · cases h
    · rename_i hother
      rcases hparty with rfl | rfl
      · exact Bool.eq_false_iff.2 hfirst
      · exact Bool.eq_false_iff.2 hother

/-- The next time is the earlier one of those of the two parties. -/
theorem readyAt_eq_some (h : v.readyAt s = some time) :
    s.outcome? = none ∧
      (s.loop.readyAt v.worker s.world = some time ∨
        Coordinator.readyAt (s.loop.view s.world) s.phase = some time) ∧
      (∀ r, s.loop.readyAt v.worker s.world = some r → time ≤ r) ∧
      ∀ r, Coordinator.readyAt (s.loop.view s.world) s.phase = some r → time ≤ r := by
  unfold readyAt at h
  split at h
  · cases h
  · rename_i houtcome
    refine ⟨Option.not_isSome_iff_eq_none.1 houtcome, ?_⟩
    cases hloop : s.loop.readyAt v.worker s.world with
    | none =>
      rw [hloop] at h
      have hcoordinator : Coordinator.readyAt (s.loop.view s.world) s.phase = some time := h
      refine ⟨Or.inr hcoordinator, (fun r hr => by cases hr), ?_⟩
      intro r hr
      rw [hcoordinator] at hr
      exact Nat.le_of_eq (Option.some.inj hr)
    | some a =>
      cases hcoordinator : Coordinator.readyAt (s.loop.view s.world) s.phase with
      | none =>
        rw [hloop, hcoordinator] at h
        obtain rfl := Option.some.inj h
        refine ⟨Or.inl rfl, ?_, (fun r hr => by cases hr)⟩
        rintro r ⟨⟩
        exact Nat.le_refl _
      | some b =>
        rw [hloop, hcoordinator] at h
        obtain rfl := Option.some.inj h
        refine ⟨?_, ?_, ?_⟩
        · rcases Nat.le_total a b with hle | hle
          · rw [Nat.min_eq_left hle]
            exact Or.inl rfl
          · rw [Nat.min_eq_right hle]
            exact Or.inr rfl
        · rintro r ⟨⟩
          exact Nat.min_le_left _ _
        · rintro r ⟨⟩
          exact Nat.min_le_right _ _

/-- Where nobody waits for any time, the coordinator does not. -/
theorem coordinator_readyAt_eq_none (h : v.readyAt s = none) (houtcome : s.outcome? = none) :
    Coordinator.readyAt (s.loop.view s.world) s.phase = none := by
  unfold readyAt at h
  rw [houtcome] at h
  cases hloop : s.loop.readyAt v.worker s.world with
  | none =>
    rw [hloop] at h
    exact h
  | some a =>
    cases hcoordinator : Coordinator.readyAt (s.loop.view s.world) s.phase with
    | none => rfl
    | some b =>
      rw [hloop, hcoordinator] at h
      cases h

/-- Nobody is ready before the next time. -/
theorem isReady_before (hnext : v.next? s = none) (h : v.readyAt s = some time) {t : Nat}
    (ht : t < time - s.world.now) (p : Party) :
    v.isReady { s with world := s.world.at (s.world.now + t) } p = false := by
  obtain ⟨houtcome, -, hloop, hcoordinator⟩ := readyAt_eq_some h
  have hle : s.world.now ≤ s.world.now + t := Nat.le_add_right _ _
  have hnot := isReady_eq_false hnext p
  apply Bool.eq_false_iff.2
  intro hready
  cases p with
  | loop =>
    obtain ⟨-, hready⟩ := Bool.and_eq_true_iff.1 hready
    have hnot : s.loop.isReady v.worker s.world s.source = false := by
      rw [isReady, houtcome] at hnot
      exact hnot
    obtain hnow | ⟨r, hr, hrle⟩ := Loop.readyAt_le hle hready
    · rw [hnot] at hnow
      cases hnow
    · have := hloop r hr
      omega
  | coordinator =>
    obtain hnow | ⟨r, hr, hrle⟩ := Coordinator.readyAt_le hle hready
    · rw [isReady, hnow] at hnot
      cases hnot
    · have := hcoordinator r hr
      omega

theorem now_le_readyAt (h : v.readyAt s = some time) : s.world.now ≤ time := by
  obtain ⟨-, hloop | hcoordinator, -⟩ := readyAt_eq_some h
  · exact Loop.le_readyAt hloop
  · exact Coordinator.le_readyAt hcoordinator

/-- Somebody is ready when the next time has come. -/
theorem isReady_at (h : v.readyAt s = some time)
    (hlive : ∀ stage, s.loop.phase = .working stage → stage.isFinal = false) :
    ∃ p, v.isReady { s with world := s.world.at time } p = true := by
  obtain ⟨houtcome, hloop | hcoordinator, -⟩ := readyAt_eq_some h
  · have hlive' : s.loop.phase.IsLive := by
      unfold Loop.readyAt at hloop
      generalize s.loop.phase = phase at hloop hlive
      cases phase with
      | working stage => exact hlive stage rfl
      | holding => cases hloop
      | idle | pulling | popping | awaiting _ | ended | failed _ => trivial
    have hnone : ServiceState.outcome? { s with world := s.world.at time } = none := houtcome
    refine ⟨.loop, ?_⟩
    rw [isReady, hnone]
    exact Loop.isReady_at hlive' hloop
  · exact ⟨.coordinator, Coordinator.isReady_at hcoordinator⟩

end Service

/-! ### The run on one thread -/

/-- Two states differ in nothing but whose turn it is. -/
structure ServiceState.Matches (s s' : ServiceState σ) : Prop where
  world_eq : s'.world = s.world
  source_eq : s'.source = s.source
  loop_eq : s'.loop = s.loop
  phase_eq : s'.phase = s.phase

namespace ServiceState.Matches

variable {v : Service σ} {s s' : ServiceState σ}

theorem refl (s : ServiceState σ) : s.Matches s := ⟨rfl, rfl, rfl, rfl⟩

theorem outcome?_eq (h : s.Matches s') : s'.outcome? = s.outcome? := by
  unfold outcome?
  rw [h.phase_eq]

/-- Whose turn it is does not decide who can go further, and when. -/
theorem isReady_at (h : s.Matches s') (time : Nat) (p : Party) :
    v.isReady { s' with world := s'.world.at time } p =
      v.isReady { s with world := s.world.at time } p := by
  obtain ⟨world, source, loop, phase, turn, timers⟩ := s
  obtain ⟨world', source', loop', phase', turn', timers'⟩ := s'
  obtain ⟨rfl, rfl, rfl, rfl⟩ := h
  cases p <;> rfl

/-- Nor does it decide what a step does. -/
theorem fire (h : s.Matches s') (p : Party) :
    (v.fire s p).1.Matches (v.fire s' p).1 ∧ (v.fire s' p).2 = (v.fire s p).2 := by
  obtain ⟨world, source, loop, phase, turn, timers⟩ := s
  obtain ⟨world', source', loop', phase', turn', timers'⟩ := s'
  obtain ⟨rfl, rfl, rfl, rfl⟩ := h
  cases p with
  | loop | coordinator => exact ⟨⟨rfl, rfl, rfl, rfl⟩, rfl⟩

end ServiceState.Matches

namespace Service

variable {v : Service σ} {s s' : ServiceState σ}

/-- Letting time pass as the run on one thread does is prompt. -/
theorem exists_prompt_settle (h : s'.Matches s) (j : Journal) :
    ∃ events, v.IsPrompt ⟨s', j⟩ events ∧
      (events.foldl (ServiceRun.follow v) ⟨s', j⟩).state.Matches (v.settle s) ∧
      (events.foldl (ServiceRun.follow v) ⟨s', j⟩).journal = j := by
  unfold settle
  cases hnext : v.next? s with
  | some p => exact ⟨[], trivial, h, rfl⟩
  | none =>
    cases htime : v.readyAt s with
    | none => exact ⟨[], trivial, h, rfl⟩
    | some time =>
      have hnow : s'.world.now + (time - s.world.now) = time := by
        rw [← h.world_eq]
        exact Nat.add_sub_cancel' (now_le_readyAt htime)
      have hworld : s.world.at time = s'.world.at time := by rw [h.world_eq]
      refine ⟨[.elapse (time - s.world.now)], ⟨⟨?_, ?_⟩, trivial⟩, ?_, rfl⟩
      · rw [← h.outcome?_eq]
        exact (readyAt_eq_some htime).1
      · intro t ht p
        rw [← h.isReady_at, ← h.world_eq]
        exact isReady_before hnext htime ht p
      · simp only [Option.isSome_none, Bool.false_eq_true, if_false, List.foldl_cons,
          List.foldl_nil, ServiceRun.follow, hnow]
        exact ⟨hworld, h.source_eq, h.loop_eq, h.phase_eq⟩

/-- The run on one thread is prompt. -/
theorem exists_prompt_run (h : s'.Matches s) (j : Journal) :
    ∃ events, v.IsPrompt ⟨s', j⟩ events ∧
      (events.foldl (ServiceRun.follow v) ⟨s', j⟩).state.Matches (v.run s).state ∧
      (events.foldl (ServiceRun.follow v) ⟨s', j⟩).journal = j ++ (v.run s).journal := by
  fun_induction Service.run v s generalizing s' j with
  | case1 s settled =>
    obtain ⟨events, hprompt, hmatches, hjournal⟩ := exists_prompt_settle h j
    exact ⟨events, hprompt, hmatches, hjournal.trans (List.append_nil j).symm⟩
  | case2 s settled p hnext fired rest =>
    rename_i ih
    obtain ⟨front, hfront, hmatches, hjournal⟩ := exists_prompt_settle h j
    -- The state after the time has passed, and after the step that is then made.
    generalize hrun : front.foldl (ServiceRun.follow v) ⟨s', j⟩ = run at hmatches hjournal
    obtain ⟨hfire, hentries⟩ := hmatches.fire (v := v) p
    have hfollow : run.follow v (.fire p) = ⟨(v.fire run.state p).1,
        j ++ stamp run.state.world.now (v.fire run.state p).2⟩ := by
      rw [ServiceRun.follow, hjournal]
    obtain ⟨events, hevents, hend, htail⟩ :=
      ih hfire (j ++ stamp run.state.world.now (v.fire run.state p).2)
    refine ⟨front ++ .fire p :: events, ?_, ?_, ?_⟩
    · rw [isPrompt_append, hrun]
      exact ⟨hfront, trivial, hfollow ▸ hevents⟩
    · rw [List.foldl_append, hrun, List.foldl_cons, hfollow]
      exact hend
    · rw [List.foldl_append, hrun, List.foldl_cons, hfollow, htail, List.append_assoc,
        ← hmatches.world_eq, ← hentries]

theorem files_settle {entries : List Entry} (h : s.loop.Files v.worker entries) :
    (v.settle s).loop.Files v.worker entries := by
  unfold settle
  split
  · exact h
  · split
    · exact h
    · exact h

/-- Where nobody can go further although time has passed, nobody waits for any time. -/
theorem readyAt_settle {entries : List Entry} (h : s.loop.Files v.worker entries)
    (hnext : v.next? (v.settle s) = none) : v.readyAt (v.settle s) = none := by
  cases hnow : v.next? s with
  | some p =>
    have hsame : v.settle s = s := by
      rw [settle, hnow]
      rfl
    rw [hsame, hnow] at hnext
    cases hnext
  | none =>
    cases htime : v.readyAt s with
    | none =>
      have hsame : v.settle s = s := by
        rw [settle, hnow, htime]
        rfl
      rw [hsame, htime]
    | some time =>
      obtain ⟨p, hp⟩ := isReady_at htime h.live
      have hnot := isReady_eq_false hnext p
      have hlater : v.isReady (v.settle s) p =
          v.isReady { s with world := s.world.at time } p := by
        simp only [settle, hnow, htime, Option.isSome_none, Bool.false_eq_true, if_false]
        cases p <;> rfl
      rw [hlater, hp] at hnot
      cases hnot

/-- A run ends when nobody can go further, and nobody waits for any time. -/
theorem end_run {entries : List Entry} (h : s.loop.Files v.worker entries) :
    (∀ p, v.isReady (v.run s).state p = false) ∧ v.readyAt (v.run s).state = none := by
  fun_induction Service.run v s generalizing entries with
  | case1 s settled =>
    rename_i hnext
    exact ⟨isReady_eq_false hnext, readyAt_settle h hnext⟩
  | case2 s settled p hnext fired rest =>
    rename_i ih
    exact ih (files_fire p .loop (files_settle h))

end Service

end Courier
