import Courier.Processing.Step

/-!
# A delivery from beginning to end

`Worker.process` takes a delivery to its end on a clock that runs only while the work has to wait.

It ends because every step lowers the `Stage.rank` of a stage that is ready (`rank_step_lt`), and
`Worker.readyAt` is a time at which the stage is ready (`isReady_readyAt`).
-/

namespace Courier

variable {σ : Type}

/-! ### Every step counts -/

/-- A bound for the number of steps to the end: four for every attempt that may still come. -/
def Stage.rank (policy : RetryPolicy) : Stage → Nat
  | .received _ => 4 * policy.maxAttempts.toNat + 4
  | .due _ n => 4 * (policy.maxAttempts.toNat - n.toNat) + 3
  | .calling _ n _ _ => 4 * (policy.maxAttempts.toNat - n.toNat) + 2
  | .waiting _ n _ => 4 * (policy.maxAttempts.toNat - (n + 1).toNat) + 4
  | .settling _ => 1
  | .finished _ => 0
  | .broken _ => 0

theorem toNat_add_one_of_lt {n m : UInt32} (h : n < m) : (n + 1).toNat = n.toNat + 1 := by
  have := UInt32.lt_iff_toNat_lt.1 h
  have := m.toNat_lt
  rw [UInt32.toNat_add]
  simp only [UInt32.reduceToNat]
  omega

theorem rank_receive_lt (w : Worker σ) (world : World σ) (d : Delivery) :
    (w.receive world d).stage.rank w.policy < (Stage.received d).rank w.policy := by
  unfold Worker.receive
  split
  · simp [Worker.reject, Stage.rank]
  · simp only [Worker.accept, Stage.rank, UInt32.reduceToNat]
    omega

theorem rank_attempt_lt (w : Worker σ) (world : World σ) (job : Job) (n : UInt32) :
    (w.attempt world job n).stage.rank w.policy < (Stage.due job n).rank w.policy := by
  unfold Worker.attempt
  split
  · simp [Worker.conclude, Stage.rank]
  · simp only [Worker.call, Stage.rank]
    omega

theorem rank_conclusion_lt (w : Worker σ) (world : World σ) (job : Job) (n : UInt32) (since : Nat)
    (reply : Reply) (result : CallResult) :
    (w.conclusion world job n result).stage.rank w.policy <
      (Stage.calling job n since reply).rank w.policy := by
  cases result with
  | succeeded => simp [Worker.conclusion, Worker.conclude, Stage.rank]
  | panicked text => simp [Worker.conclusion, Stage.rank]
  | failed e =>
    simp only [Worker.conclusion, Worker.retry]
    cases h : w.policy.backoffAfter n with
    | none => simp [Worker.conclude, Stage.rank]
    | some wait =>
      have hlt := RetryPolicy.lt_maxAttempts_of_backoffAfter h
      have := UInt32.lt_iff_toNat_lt.1 hlt
      simp only [Stage.rank, toNat_add_one_of_lt hlt]
      omega

theorem rank_wake_lt (w : Worker σ) (world : World σ) (job : Job) (n : UInt32) (until_ : Nat) :
    (w.wake world job n).stage.rank w.policy < (Stage.waiting job n until_).rank w.policy := by
  unfold Worker.wake
  split
  · simp [Worker.conclude, Stage.rank]
  · simp [Stage.rank]

/-- A step of a stage that is ready lowers its rank. -/
theorem rank_step_lt {w : Worker σ} {world : World σ} {stage : Stage}
    (h : stage.isReady w world) :
    (w.step world stage).stage.rank w.policy < stage.rank w.policy := by
  cases stage with
  | received d => exact rank_receive_lt w world d
  | due job n => exact rank_attempt_lt w world job n
  | calling job n since reply =>
    have hready : reply.endsAt since ≤ world.now := by simpa [Stage.isReady] using h
    simp only [Worker.step, hready, if_true]
    exact rank_conclusion_lt w world job n since reply reply.result
  | waiting job n until_ =>
    have hready : w.seesShutdown world = true ∨ until_ ≤ world.now := by
      simpa [Stage.isReady] using h
    simp only [Worker.step, hready, if_true]
    exact rank_wake_lt w world job n until_
  | settling s => simp [Worker.step, Worker.settle, Stage.rank]
  | finished o => simp [Stage.isReady] at h
  | broken t => simp [Stage.isReady] at h

/-! ### When the next step can be made -/

/-- The earliest time, from now on, at which shutdown is seen. -/
def Worker.shutdownSeenAt (w : Worker σ) (world : World σ) : Option Nat :=
  if w.heedsShutdown then world.cancelAt.map (max world.now) else none

/-- The earliest time, from now on, at which the stage is ready. -/
def Worker.readyAt (w : Worker σ) (world : World σ) : Stage → Nat
  | .calling _ _ since reply => max world.now (reply.endsAt since)
  | .waiting _ _ until_ =>
    match w.shutdownSeenAt world with
    | none => max world.now until_
    | some time => min (max world.now until_) time
  | _ => world.now

/-- The world at a later time. -/
def World.at (world : World σ) (time : Nat) : World σ := { world with now := time }

theorem seesShutdown_of_shutdownSeenAt {w : Worker σ} {world : World σ} {time : Nat}
    (h : w.shutdownSeenAt world = some time) : w.seesShutdown (world.at time) = true := by
  unfold Worker.shutdownSeenAt at h
  split at h
  · rename_i hh
    obtain ⟨c, hc, rfl⟩ := Option.map_eq_some_iff.1 h
    simp only [Worker.seesShutdown, World.isCancelled, World.at, hh, hc, Option.any_some,
      Bool.true_and, decide_eq_true_eq]
    exact Nat.le_max_right _ _
  · simp at h

theorem seesShutdown_or_le_readyAt (w : Worker σ) (world : World σ) (job : Job) (n : UInt32)
    (until_ : Nat) :
    w.seesShutdown (world.at (w.readyAt world (.waiting job n until_))) = true ∨
      until_ ≤ w.readyAt world (.waiting job n until_) := by
  simp only [Worker.readyAt]
  cases hs : w.shutdownSeenAt world with
  | none => exact .inr (Nat.le_max_right _ _)
  | some time =>
    simp only
    rcases Nat.le_total (max world.now until_) time with hle | hle
    · rw [Nat.min_eq_left hle]
      exact .inr (Nat.le_max_right _ _)
    · rw [Nat.min_eq_right hle]
      exact .inl (seesShutdown_of_shutdownSeenAt hs)

theorem isReady_readyAt {w : Worker σ} {world : World σ} {stage : Stage}
    (h : stage.isFinal = false) : stage.isReady w (world.at (w.readyAt world stage)) := by
  cases stage with
  | received d => rfl
  | due job n => rfl
  | settling s => rfl
  | finished o => simp [Stage.isFinal] at h
  | broken t => simp [Stage.isFinal] at h
  | calling job n since reply =>
    exact decide_eq_true (Nat.le_max_right world.now (reply.endsAt since))
  | waiting job n until_ =>
    exact Bool.or_eq_true_iff.2 <|
      (seesShutdown_or_le_readyAt w world job n until_).imp id decide_eq_true

/-! ### Runs -/

/-- What a run did and where it stands. -/
structure Run (σ : Type) where
  world : World σ
  stage : Stage
  journal : Journal

/-- Entries of one time. -/
def stamp (time : Nat) (entries : List Entry) : Journal := entries.map fun e => ⟨time, e⟩

namespace Worker

/-- Takes the work on a delivery from a stage to its end. -/
def toEnd (w : Worker σ) (world : World σ) (stage : Stage) : Run σ :=
  if _h : stage.isFinal then ⟨world, stage, []⟩
  else
    -- Time passes only as far as the stage needs.
    let world := world.at (w.readyAt world stage)
    let progress := w.step world stage
    let run := w.toEnd progress.world progress.stage
    { run with journal := stamp world.now progress.entries ++ run.journal }
  termination_by stage.rank w.policy
  decreasing_by exact rank_step_lt (isReady_readyAt (by simpa using _h))

/-- Takes a delivery to its end. -/
def process (w : Worker σ) (world : World σ) (d : Delivery) : Run σ :=
  let run := w.toEnd world (.received d)
  { run with journal := stamp world.now [.received d] ++ run.journal }

end Worker

/-- The outcome at the end of a run; `none` where the handler broke down. -/
def Run.outcome? (run : Run σ) : Option Outcome :=
  match run.stage with
  | .finished outcome => some outcome
  | _ => none

end Courier
