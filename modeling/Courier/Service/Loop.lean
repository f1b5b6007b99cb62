import Courier.Processing.Run
import Courier.Service.Source

/-!
# The consume loop

The loop takes one item at a time from a source and brings it to its end before it asks for the next
one.  It ends when the source closes, and breaks when the handler breaks down.

`Loop.step` takes the loop one step further, `Loop.isReady` says when it can go further at once, and
`Loop.rank` bounds the number of its steps (`Loop.rank_step_lt`).
-/

namespace Courier

/-- How far the loop is. -/
inductive LoopPhase where
  /-- It has not begun. -/
  | idle
  /-- The next item may be asked for. -/
  | pulling
  /-- The source was found open, and its first item may be taken. -/
  | popping
  /-- The next item comes at the given time. -/
  | awaiting (until_ : Nat)
  /-- There is no next item, for now. -/
  | holding
  /-- A delivery is in flight. -/
  | working (stage : Stage)
  /-- The source has closed. -/
  | ended
  /-- The handler broke down. -/
  | failed (text : String)

/-- The consume loop: how far it is, and what it has counted. -/
structure Loop where
  phase : LoopPhase := .idle
  tally : Tally := {}

/-- What a step of the loop leads to, and what it did. -/
structure LoopProgress (σ : Type) where
  world : World σ
  source : Source
  loop : Loop
  entries : List Entry

namespace Loop

variable {σ : Type}

/-! ### Log records -/

/-- The record of a loop that begins. -/
def startRecord (w : Worker σ) : LogRecord :=
  ⟨.loop, .debug, "consume loop starting", [("worker_id", .shown w.identity.workerId)]⟩

/-- The record of an error in the stream. -/
def faultRecord (w : Worker σ) (reason : String) : LogRecord :=
  ⟨.loop, .warn, "delivery stream error",
    [("worker_id", .shown w.identity.workerId),
     ("error", .shown (WorkerError.stream reason).message)]⟩

/-- The record of a loop that ends, with its counts. -/
def endRecord (w : Worker σ) (t : Tally) : LogRecord :=
  ⟨.loop, .info, "messages channel closed (connection/channel ended)",
    [("worker_id", .shown w.identity.workerId), ("acknowledged", .number t.acknowledged.toNat),
     ("poisoned", .number t.poisoned.toNat), ("exhausted", .number t.exhausted.toNat),
     ("requeued", .number t.requeued.toNat), ("stream_errors", .number t.streamErrors.toNat)]⟩

/-! ### Steps -/

/-- Takes up what the source gives. -/
def accept (w : Worker σ) (world : World σ) (source : Source) (loop : Loop) (pull : Pull) :
    LoopProgress σ :=
  match pull with
  | .closed =>
    ⟨world, source, { loop with phase := .ended }, [.logged none (endRecord w loop.tally)]⟩
  | .held => ⟨world, source, { loop with phase := .holding }, []⟩
  | .later wait => ⟨world, source, { loop with phase := .awaiting (world.now + wait) }, []⟩
  | .now (.delivery d) rest =>
    ⟨world, rest, { loop with phase := .working (.received d) }, [.received d]⟩
  | .now (.fault reason) rest =>
    ⟨world, rest, { phase := .pulling, tally := loop.tally.recordStreamError },
      [.streamFailed reason, .logged none (faultRecord w reason)]⟩

/-- The loop after a step of the work on a delivery. -/
def afterStage (loop : Loop) : Stage → Loop
  | .finished outcome => { phase := .pulling, tally := loop.tally.record outcome }
  | .broken text => { loop with phase := .failed text }
  | stage => { loop with phase := .working stage }

/-- Goes on with the delivery in flight. -/
def work (w : Worker σ) (world : World σ) (source : Source) (loop : Loop) (stage : Stage) :
    LoopProgress σ :=
  let progress := w.step world stage
  ⟨progress.world, source, loop.afterStage progress.stage, progress.entries⟩

/-- Takes the loop one step further; where it has to wait, nothing changes. -/
def step (w : Worker σ) (world : World σ) (source : Source) (loop : Loop) : LoopProgress σ :=
  match loop.phase with
  | .idle => ⟨world, source, { loop with phase := .pulling }, [.logged none (startRecord w)]⟩
  | .pulling =>
    -- Deliveries may be stopped between this look at the source and the next step.
    if source.isStopped then loop.accept w world source source.pullStopped
    else ⟨world, source, { loop with phase := .popping }, []⟩
  | .popping => loop.accept w world source source.pop
  | .awaiting until_ =>
    -- An item that has been waited for is not waited for again.
    if source.isStopped ∨ until_ ≤ world.now then loop.accept w world source source.take
    else ⟨world, source, loop, []⟩
  | .holding => loop.accept w world source source.take
  | .working stage => loop.work w world source stage
  | .ended | .failed _ => ⟨world, source, loop, []⟩

/-- Can the loop go further at once? -/
def isReady (w : Worker σ) (world : World σ) (source : Source) (loop : Loop) : Bool :=
  match loop.phase with
  | .idle | .pulling | .popping => true
  | .awaiting until_ => source.isStopped || until_ ≤ world.now
  | .holding => !source.isHeld
  | .working stage => stage.isReady w world
  | .ended | .failed _ => false

/-- The time at which the loop can go further by itself, if there is one. -/
def readyAt (w : Worker σ) (world : World σ) (loop : Loop) : Option Nat :=
  match loop.phase with
  | .idle | .pulling | .popping => some world.now
  | .awaiting until_ => some (max world.now until_)
  | .working stage => some (w.readyAt world stage)
  | .holding | .ended | .failed _ => none

/-- Is the loop in a wait between two attempts? -/
def isWaiting (loop : Loop) : Bool :=
  match loop.phase with
  | .working stage => stage.isWaiting
  | _ => false

/-- Does the next step of the loop see a timer go off? -/
def seesTimer (w : Worker σ) (world : World σ) (source : Source) (loop : Loop) : Bool :=
  match loop.phase with
  | .awaiting _ => !source.isStopped
  | .working stage => stage.seesTimer w world
  | .idle | .pulling | .popping | .holding | .ended | .failed _ => false

/-! ### Every step counts -/

/-- The largest number of steps for one item, and a few to spare. -/
def itemRank (policy : RetryPolicy) : Nat := 4 * policy.maxAttempts.toNat + 9

/-- A bound for the number of steps of the loop. -/
def rank (policy : RetryPolicy) (source : Source) (loop : Loop) : Nat :=
  match loop.phase with
  | .idle => source.size * itemRank policy + 5
  | .pulling => source.size * itemRank policy + 4
  | .popping => source.size * itemRank policy + 3
  | .awaiting _ => source.size * itemRank policy + 2
  | .holding => source.size * itemRank policy + 1
  | .working stage => source.size * itemRank policy + stage.rank policy + 4
  | .ended | .failed _ => 0

theorem itemRank_le_of_size_lt (policy : RetryPolicy) {source rest : Source}
    (h : rest.size < source.size) :
    rest.size * itemRank policy + itemRank policy ≤ source.size * itemRank policy := by
  rw [← Nat.succ_mul]
  exact Nat.mul_le_mul_right _ h

/-- Taking up an item lowers the rank. -/
theorem rank_accept_now_lt {w : Worker σ} {world : World σ} {source rest : Source} {loop : Loop}
    {item : Item} (h : rest.size < source.size) :
    (loop.accept w world source (.now item rest)).loop.rank w.policy
        (loop.accept w world source (.now item rest)).source <
      source.size * itemRank w.policy + 1 := by
  have := itemRank_le_of_size_lt w.policy h
  cases item with
  | delivery d =>
    simp only [accept, rank, Stage.rank]
    simp only [itemRank] at this ⊢
    omega
  | fault reason =>
    simp only [accept, rank]
    simp only [itemRank] at this ⊢
    omega

theorem rank_accept_closed_lt {w : Worker σ} {world : World σ} {source : Source} {loop : Loop} :
    (loop.accept w world source .closed).loop.rank w.policy
      (loop.accept w world source .closed).source < source.size * itemRank w.policy + 1 :=
  Nat.succ_pos _

theorem rank_accept_take_lt {w : Worker σ} {world : World σ} {source : Source} {loop : Loop}
    (h : source.isHeld = false) :
    (loop.accept w world source source.take).loop.rank w.policy
      (loop.accept w world source source.take).source < source.size * itemRank w.policy + 1 := by
  cases ht : source.take with
  | closed => exact rank_accept_closed_lt
  | now item rest => exact rank_accept_now_lt (Source.size_lt_of_take ht)
  | held =>
    unfold Source.take at ht
    unfold Source.isHeld at h
    grind [Source.pullStopped]
  | later wait =>
    unfold Source.take at ht
    grind [Source.pullStopped]

theorem rank_accept_pullStopped_lt {w : Worker σ} {world : World σ} {source : Source}
    {loop : Loop} :
    (loop.accept w world source source.pullStopped).loop.rank w.policy
        (loop.accept w world source source.pullStopped).source <
      source.size * itemRank w.policy + 1 := by
  cases ht : source.pullStopped with
  | closed => exact rank_accept_closed_lt
  | now item rest => exact rank_accept_now_lt (Source.size_lt_of_pullStopped ht)
  | held =>
    unfold Source.pullStopped at ht
    grind
  | later wait =>
    unfold Source.pullStopped at ht
    grind

theorem rank_accept_pop_lt {w : Worker σ} {world : World σ} {source : Source} {loop : Loop} :
    (loop.accept w world source source.pop).loop.rank w.policy
      (loop.accept w world source source.pop).source < source.size * itemRank w.policy + 3 := by
  cases ht : source.pop with
  | closed => exact Nat.lt_of_lt_of_le rank_accept_closed_lt (Nat.add_le_add_left (by decide) _)
  | now item rest =>
    exact Nat.lt_of_lt_of_le (rank_accept_now_lt (Source.size_lt_of_pop ht))
      (Nat.add_le_add_left (by decide) _)
  | held => exact Nat.add_lt_add_left (by decide) _
  | later wait => exact Nat.add_lt_add_left (by decide) _

theorem rank_afterStage_le (policy : RetryPolicy) (source : Source) (loop : Loop) (stage : Stage) :
    (loop.afterStage stage).rank policy source ≤
      source.size * itemRank policy + stage.rank policy + 4 := by
  cases stage <;> simp [afterStage, rank, Stage.rank]

/-- A step of a loop that is ready lowers its rank. -/
theorem rank_step_lt {w : Worker σ} {world : World σ} {source : Source} {loop : Loop}
    (h : loop.isReady w world source) :
    (loop.step w world source).loop.rank w.policy (loop.step w world source).source <
      loop.rank w.policy source := by
  obtain ⟨phase, tally⟩ := loop
  cases phase with
  | idle => exact Nat.lt_succ_self _
  | pulling =>
    simp only [step]
    split
    · exact Nat.lt_of_lt_of_le rank_accept_pullStopped_lt (Nat.add_le_add_left (by decide) _)
    · exact Nat.lt_succ_self _
  | popping => exact rank_accept_pop_lt
  | awaiting until_ =>
    have hready : source.isStopped = true ∨ until_ ≤ world.now := by simpa [isReady] using h
    simp only [step, hready, if_true]
    by_cases hs : source.isHeld = false
    · exact Nat.lt_succ_of_lt (rank_accept_take_lt hs)
    · have ht : source.take = .held := by
        unfold Source.take
        unfold Source.isHeld at hs
        grind
      rw [ht]
      exact Nat.lt_succ_self _
  | holding =>
    refine rank_accept_take_lt ?_
    simpa [isReady] using h
  | working stage =>
    have hstage : (w.step world stage).stage.rank w.policy < stage.rank w.policy :=
      Courier.rank_step_lt h
    refine Nat.lt_of_le_of_lt (rank_afterStage_le w.policy source _ _) ?_
    simp only [rank]
    omega
  | ended => simp [isReady] at h
  | failed text => simp [isReady] at h

end Loop

end Courier
