import Courier.Proofs.Processing.Interruption
import Courier.Proofs.Service.Endings

/-!
# Calls, shutdown and time

How much time may have passed since shutdown began, if no call lasts longer than a bound?  The
answer is in what is known of a service at any time (`ServiceState.IsTimely`):

* a call that runs has begun no later than shutdown, and does not last too long
  (`Loop.IsTimely`);
* the coordinator stops the source as soon as shutdown has begun, and the drain that follows has not
  lasted longer than the bound (`CoordinatorPhase.IsTimely`).

Steps of the loop and the beginning of shutdown let no time pass (`World.SameTime`) and keep it;
steps of the coordinator keep it since the grace period is longer than the bound.  Time that passes
keeps it as well, as long as nobody waits who could go further (`CoordinatorPhase.IsTimely.elapse`):
under shutdown, with its source stopped, the loop waits for nothing but a call
(`Loop.exists_call`).
-/

namespace Courier

variable {σ : Type}

/-! ### How long calls last -/

namespace Handler

/-- What the handler remembers after some more calls. -/
def memoryAfter (h : Handler σ) (memory : σ) (calls : List Call) : σ :=
  calls.foldl (fun memory call => (h.call memory call).2) memory

/-- No call lasts longer, whatever the handler has been called for before. -/
def LastsAtMost (h : Handler σ) (bound : Nat) (memory : σ) : Prop :=
  ∀ calls call, (h.call (h.memoryAfter memory calls) call).1.duration ≤ bound

variable {h : Handler σ} {bound : Nat} {memory : σ}

theorem LastsAtMost.duration_le (hl : h.LastsAtMost bound memory) (call : Call) :
    (h.call memory call).1.duration ≤ bound :=
  hl [] call

theorem LastsAtMost.next (hl : h.LastsAtMost bound memory) (call : Call) :
    h.LastsAtMost bound (h.call memory call).2 :=
  fun calls call' => hl (call :: calls) call'

end Handler

/-! ### When shutdown begins -/

namespace World

/-- Shutdown does not begin before the given time. -/
def NotBefore (world : World σ) (time : Nat) : Prop := ∀ C, world.cancelAt = some C → time ≤ C

/-- Shutdown begins no later than at the given time. -/
def CancelsBy (world : World σ) (time : Nat) : Prop := ∃ C, world.cancelAt = some C ∧ C ≤ time

/-- No time has passed from the first world to the second, but shutdown may have begun. -/
structure SameTime (world world' : World σ) : Prop where
  now_eq : world'.now = world.now
  cancelAt_eq : world'.cancelAt = world.cancelAt ∨ world'.cancelAt = world.cancel.cancelAt

variable {world world' : World σ} {time C : Nat}

theorem SameTime.refl (world : World σ) : world.SameTime world := ⟨rfl, .inl rfl⟩

theorem sameTime_cancel (world : World σ) : world.SameTime world.cancel := ⟨rfl, .inr rfl⟩

/-- Shutdown that has not begun does not begin before now. -/
theorem notBefore_now (h : world.isCancelled = false) : world.NotBefore world.now := by
  intro C hC
  apply Nat.le_of_not_le
  intro hle
  rw [isCancelled_iff.2 ⟨C, hC, hle⟩] at h
  cases h

theorem NotBefore.of_sameTime (h : world.NotBefore time) (hle : time ≤ world.now)
    (hsame : world.SameTime world') : world'.NotBefore time := by
  intro C hC
  rcases hsame.cancelAt_eq with heq | heq
  · exact h C (heq.symm.trans hC)
  · obtain rfl : min world.now (world.cancelAt.getD world.now) = C :=
      Option.some.inj (heq.symm.trans hC)
    refine Nat.le_min.2 ⟨hle, ?_⟩
    cases hcancel : world.cancelAt with
    | none => exact hle
    | some C => exact h C hcancel

theorem CancelsBy.of_sameTime (h : world.CancelsBy time) (hsame : world.SameTime world') :
    world'.CancelsBy time := by
  obtain ⟨C, hC, hle⟩ := h
  rcases hsame.cancelAt_eq with heq | heq
  · exact ⟨C, heq.trans hC, hle⟩
  · refine ⟨min world.now C, ?_, Nat.le_trans (Nat.min_le_right _ _) hle⟩
    rw [heq, cancel, hC]
    rfl

/-- Shutdown that has begun does not begin again. -/
theorem SameTime.cancelAt_eq_some (hsame : world.SameTime world') (hC : world.cancelAt = some C)
    (hle : C ≤ world.now) : world'.cancelAt = some C := by
  rcases hsame.cancelAt_eq with heq | heq
  · exact heq.trans hC
  · rw [heq, cancel, hC]
    exact congrArg some (Nat.min_eq_right hle)

end World

/-! ### Calls that run -/

/-- The call that runs, with the time at which it began. -/
def Stage.call? : Stage → Option (Nat × Reply)
  | .calling _ _ since reply => some (since, reply)
  | _ => none

/-- The call that runs, with the time at which it began. -/
def Loop.call? (loop : Loop) : Option (Nat × Reply) := loop.phase.stage?.bind Stage.call?

theorem Loop.call?_afterStage (loop : Loop) (stage : Stage) :
    (loop.afterStage stage).call? = stage.call? := by
  cases stage with
  | received _ | due _ _ | calling _ _ _ _ | waiting _ _ _ | settling _ | finished _ | broken _ =>
    rfl

namespace Worker

/-- A step of the work on a delivery begins a call, or leaves alone what calls depend on. -/
inductive Stride (w : Worker σ) (world : World σ) (stage : Stage) : Progress σ → Prop where
  /-- A call begins, since shutdown has not been seen. -/
  | call {job : Job} {n : UInt32} (hseen : w.seesShutdown world = false) :
    Stride w world stage (w.call world job n)
  /-- No call begins. -/
  | stay {progress : Progress σ} (hworld : ∃ drawn, progress.world = { world with drawn })
    (hcall : progress.stage.call? = none ∨ progress.stage.call? = stage.call?) :
    Stride w world stage progress

variable {w : Worker σ} {world : World σ}

theorem stride_step (stage : Stage) : w.Stride world stage (w.step world stage) := by
  have hsame : ∃ drawn, world = { world with drawn } := ⟨_, rfl⟩
  cases stage with
  | received d =>
    simp only [step, receive]
    split
    · exact .stay hsame (.inl rfl)
    · exact .stay ⟨_, rfl⟩ (.inl rfl)
  | due job n =>
    simp only [step, attempt]
    split
    · exact .stay hsame (.inl rfl)
    · rename_i hseen
      exact .call (Bool.eq_false_iff.2 hseen)
  | calling job n since reply =>
    simp only [step]
    split
    · cases reply.result with
      | succeeded => exact .stay hsame (.inl rfl)
      | failed e =>
        simp only [conclusion, retry]
        split
        · exact .stay hsame (.inl rfl)
        · exact .stay hsame (.inl rfl)
      | panicked text => exact .stay hsame (.inl rfl)
    · exact .stay hsame (.inr rfl)
  | waiting job n until_ =>
    simp only [step, wake]
    split
    · split
      · exact .stay hsame (.inl rfl)
      · exact .stay hsame (.inl rfl)
    · exact .stay hsame (.inl rfl)
  | settling s => exact .stay hsame (.inl rfl)
  | finished outcome => exact .stay hsame (.inl rfl)
  | broken text => exact .stay hsame (.inl rfl)

theorem sameTime_call (w : Worker σ) (world : World σ) (job : Job) (n : UInt32) :
    world.SameTime (w.call world job n).world := by
  simp only [call]
  split
  · exact ⟨rfl, .inr rfl⟩
  · exact ⟨rfl, .inl rfl⟩

theorem memory_call (w : Worker σ) (world : World σ) (job : Job) (n : UInt32) :
    (w.call world job n).world.memory = (w.handler.call world.memory (w.callOf job n)).2 := by
  simp only [call]
  split
  · rfl
  · rfl

/-- A step lets no time pass. -/
theorem sameTime_step (w : Worker σ) (world : World σ) (stage : Stage) :
    world.SameTime (w.step world stage).world := by
  have hstride : w.Stride world stage (w.step world stage) := stride_step stage
  generalize w.step world stage = progress at hstride ⊢
  cases hstride with
  | @call job n hseen => exact w.sameTime_call world job n
  | stay hworld hcall =>
    obtain ⟨drawn, hworld⟩ := hworld
    rw [hworld]
    exact ⟨rfl, .inl rfl⟩

/-- A call begins no later than shutdown. -/
theorem notBefore_call (hw : w.heedsShutdown = true) (hseen : w.seesShutdown world = false)
    (job : Job) (n : UInt32) : (w.call world job n).world.NotBefore world.now := by
  have hquiet : world.isCancelled = false := by
    apply Bool.eq_false_iff.2
    intro hcancelled
    rw [seesShutdown_iff.2 ⟨hw, hcancelled⟩] at hseen
    cases hseen
  exact (World.notBefore_now hquiet).of_sameTime (Nat.le_refl _) (w.sameTime_call world job n)

end Worker

/-! ### What is known of a service that loses no time -/

/-- A call that runs has begun no later than shutdown, and does not last too long. -/
def Loop.IsTimely (bound : Nat) (world : World σ) (loop : Loop) : Prop :=
  ∀ since reply, loop.call? = some (since, reply) →
    since ≤ world.now ∧ world.NotBefore since ∧ reply.duration ≤ bound

/-- The coordinator goes along with shutdown, and is done in time. -/
def CoordinatorPhase.IsTimely (grace bound : Nat) (world : World σ) (source : Source)
    (loop : Loop) : CoordinatorPhase → Prop
  | .watching => world.NotBefore world.now
  | .stopping answersAt _ =>
    source.isStopped = true ∧ world.cancelAt = some world.now ∧ answersAt = some world.now
  | .draining deadline =>
    source.isStopped = true ∧ ∃ C, world.cancelAt = some C ∧ C ≤ world.now ∧
      world.now ≤ C + bound ∧ deadline = C + grace
  | .done outcome => loop.result? = some outcome ∧ world.NotBefore (world.now - bound)

/-- What holds of a service that loses no time, if no call lasts longer than the bound. -/
structure ServiceState.IsTimely (v : Service σ) (bound : Nat) (s : ServiceState σ) : Prop where
  lasts : v.worker.handler.LastsAtMost bound s.world.memory
  loop : s.loop.IsTimely bound s.world
  coordinator : s.phase.IsTimely v.coordinator.grace bound s.world s.source s.loop

section Steps

variable {w : Worker σ} {c : Coordinator} {world world' : World σ} {source source' : Source}
  {loop loop' : Loop} {phase : CoordinatorPhase} {grace bound : Nat}

theorem Loop.IsTimely.of_sameTime (h : loop.IsTimely bound world) (hsame : world.SameTime world')
    (hcall : loop'.call? = none ∨ loop'.call? = loop.call?) : loop'.IsTimely bound world' := by
  intro since reply hrun
  rcases hcall with hnone | heq
  · rw [hnone] at hrun
    cases hrun
  · obtain ⟨hle, hbefore, hduration⟩ := h since reply (heq.symm.trans hrun)
    exact ⟨hsame.now_eq.symm ▸ hle, hbefore.of_sameTime hle hsame, hduration⟩

namespace CoordinatorPhase

/-- A loop that goes on, and shutdown that begins, keep it. -/
theorem IsTimely.of_sameTime (h : phase.IsTimely grace bound world source loop)
    (hsame : world.SameTime world') (hsource : source.isStopped = true → source'.isStopped = true)
    (hresult : ∀ outcome, loop.result? = some outcome → loop'.result? = some outcome) :
    phase.IsTimely grace bound world' source' loop' := by
  have hnow := hsame.now_eq
  cases phase with
  | watching =>
    have hbefore : world.NotBefore world.now := h
    show world'.NotBefore world'.now
    rw [hnow]
    exact hbefore.of_sameTime (Nat.le_refl _) hsame
  | stopping answersAt answer =>
    obtain ⟨hstopped, hcancel, hanswers⟩ := h
    refine ⟨hsource hstopped, ?_, ?_⟩
    · rw [hnow]
      exact hsame.cancelAt_eq_some hcancel (Nat.le_refl _)
    · rw [hnow]
      exact hanswers
  | draining deadline =>
    obtain ⟨hstopped, C, hC, hle, hbound, hdeadline⟩ := h
    refine ⟨hsource hstopped, C, hsame.cancelAt_eq_some hC hle, ?_, ?_, hdeadline⟩
    · rw [hnow]
      exact hle
    · rw [hnow]
      exact hbound
  | done outcome =>
    obtain ⟨hjoined, hbefore⟩ := h
    refine ⟨hresult outcome hjoined, ?_⟩
    rw [hnow]
    exact hbefore.of_sameTime (Nat.sub_le _ _) hsame

/-- Wherever the coordinator is, not too much time has passed. -/
theorem IsTimely.notBefore (h : phase.IsTimely grace bound world source loop) :
    world.NotBefore (world.now - bound) := by
  intro C hC
  cases phase with
  | watching => exact Nat.le_trans (Nat.sub_le _ _) (h C hC)
  | stopping answersAt answer =>
    obtain ⟨-, hcancel, -⟩ := h
    obtain rfl : world.now = C := Option.some.inj (hcancel.symm.trans hC)
    exact Nat.sub_le _ _
  | draining deadline =>
    obtain ⟨-, C', hC', -, hbound, -⟩ := h
    obtain rfl : C' = C := Option.some.inj (hC'.symm.trans hC)
    exact Nat.sub_le_iff_le_add.2 hbound
  | done outcome => exact h.2 C hC

/-- A step of the coordinator keeps it: the grace period does not run out. -/
theorem IsTimely.step (h : phase.IsTimely c.grace bound world source loop) {rest : List Delivery}
    (hsource : source.Holds rest) (hbound : bound < c.grace) (first : Glance) :
    (c.step first (loop.view world) source phase).phase.IsTimely c.grace bound world
      (c.step first (loop.view world) source phase).source loop := by
  have hjoin {outcome : ShutdownOutcome} (hr : (loop.view world).result? = some outcome) :
      (c.join source outcome).phase.IsTimely c.grace bound world
        (c.join source outcome).source loop := by
    rw [Coordinator.join_eq]
    exact ⟨hr, h.notBefore⟩
  cases phase with
  | watching =>
    simp only [Coordinator.step]
    split
    · rename_i hr
      exact hjoin (Coordinator.result?_of_noticed hr)
    · split
      · rename_i hcancelled
        obtain ⟨C, hC, hle⟩ := isCancelled_iff.1 hcancelled
        have hnow : C = world.now := Nat.le_antisymm hle (h C hC)
        have hdelay : source.stopDelay = some 0 := by
          rw [hsource]
          rfl
        refine ⟨hsource.stop.2, hC.trans (congrArg some hnow), ?_⟩
        rw [hdelay]
        rfl
      · exact h
  | stopping answersAt answer =>
    simp only [Coordinator.step]
    split
    · obtain ⟨hstopped, hcancel, -⟩ := h
      exact ⟨hstopped, world.now, hcancel, Nat.le_refl _, Nat.le_add_right _ _, rfl⟩
    · exact h
  | draining deadline =>
    simp only [Coordinator.step]
    split
    · rename_i hr
      exact hjoin hr
    · split
      · rename_i hdue
        obtain ⟨-, C, -, -, hle, hdeadline⟩ := h
        have hdue : deadline ≤ world.now := hdue
        omega
      · exact h
  | done outcome => exact h

end CoordinatorPhase

/-- A step of the loop lets no time pass. -/
theorem Loop.sameTime_step (w : Worker σ) (world : World σ) (source : Source) (loop : Loop) :
    world.SameTime (loop.step w world source).world := by
  have hdeed : loop.Deed w world source (loop.step w world source) := Loop.deed_step
  generalize loop.step w world source = progress at hdeed ⊢
  cases hdeed with
  | take hp => exact .refl world
  | work hp => exact w.sameTime_step world _
  | stay ha hp => exact .refl world

/-- A step of the loop keeps what is known of calls. -/
theorem Loop.IsTimely.step (h : loop.IsTimely bound world) (source : Source)
    (hw : w.heedsShutdown = true) (hlasts : w.handler.LastsAtMost bound world.memory) :
    w.handler.LastsAtMost bound (loop.step w world source).world.memory ∧
      (loop.step w world source).loop.IsTimely bound (loop.step w world source).world := by
  have hsame := loop.sameTime_step w world source
  have hdeed : loop.Deed w world source (loop.step w world source) := Loop.deed_step
  generalize loop.step w world source = progress at hsame hdeed ⊢
  cases hdeed with
  | take hp => exact ⟨hlasts, h.of_sameTime hsame (.inl rfl)⟩
  | @work stage hp =>
    have hcall : loop.call? = stage.call? := by
      rw [Loop.call?, hp]
      rfl
    have hstride : w.Stride world stage (w.step world stage) := Worker.stride_step stage
    simp only [Loop.work] at hsame ⊢
    generalize w.step world stage = progress at hsame hstride ⊢
    cases hstride with
    | @call job n hseen =>
      refine ⟨?_, ?_⟩
      · rw [w.memory_call]
        exact hlasts.next _
      · intro since reply hrun
        obtain ⟨rfl, rfl⟩ := Prod.mk.inj (Option.some.inj hrun)
        refine ⟨Nat.le_of_eq hsame.now_eq.symm, Worker.notBefore_call hw hseen job n, ?_⟩
        exact hlasts.duration_le _
    | stay hworld hstays =>
      obtain ⟨drawn, hworld⟩ := hworld
      refine ⟨?_, h.of_sameTime hsame ?_⟩
      · rw [hworld]
        exact hlasts
      · rw [hcall, loop.call?_afterStage]
        exact hstays
  | stay ha hp =>
    refine ⟨hlasts, h.of_sameTime hsame ?_⟩
    rcases hp with hphase | ⟨-, hnone⟩
    · refine .inr ?_
      rw [Loop.call?, hphase]
      rfl
    · refine .inl ?_
      rw [Loop.call?, hnone]
      rfl

/-- A loop that is over stays as it is. -/
theorem Loop.step_of_result? {outcome : ShutdownOutcome} (h : loop.result? = some outcome) :
    (loop.step w world source).loop = loop := by
  obtain ⟨phase, tally⟩ := loop
  cases phase with
  | ended | failed _ => rfl
  | idle | pulling | popping | awaiting _ | holding | working _ => cases h

/-! #### The loop of a service, which may have been given up -/

section Given

variable {v : Service σ} {s : ServiceState σ}

theorem Service.sameTime_loopStep (v : Service σ) (s : ServiceState σ) :
    s.world.SameTime (v.loopStep s).world := by
  unfold loopStep
  split
  · exact .refl _
  · exact s.loop.sameTime_step v.worker s.world s.source

theorem Loop.IsTimely.loopStep (h : s.loop.IsTimely bound s.world)
    (hw : v.worker.heedsShutdown = true)
    (hlasts : v.worker.handler.LastsAtMost bound s.world.memory) :
    v.worker.handler.LastsAtMost bound (v.loopStep s).world.memory ∧
      (v.loopStep s).loop.IsTimely bound (v.loopStep s).world := by
  unfold Service.loopStep
  split
  · exact ⟨hlasts, h⟩
  · exact h.step s.source hw hlasts

theorem Service.loopStep_of_result? {outcome : ShutdownOutcome}
    (h : s.loop.result? = some outcome) : (v.loopStep s).loop = s.loop := by
  unfold loopStep
  split
  · rfl
  · exact Loop.step_of_result? h

end Given

/-- Under a shutdown that has been seen, and with its source stopped, the loop waits for nothing but
a call. -/
theorem Loop.exists_call (hlive : ∀ stage, loop.phase = .working stage → stage.isFinal = false)
    (hseen : w.seesShutdown world = true) (hs : source.isStopped = true)
    (hresult : loop.result? = none) (h : loop.isReady w world source = false) :
    ∃ since reply, loop.call? = some (since, reply) ∧ world.now < reply.endsAt since := by
  obtain ⟨phase, tally⟩ := loop
  cases phase with
  | idle | pulling | popping => cases h
  | awaiting until_ =>
    simp only [Loop.isReady, hs, Bool.true_or] at h
    cases h
  | holding =>
    simp only [Loop.isReady, Source.isHeld, hs] at h
    cases h
  | working stage =>
    cases stage with
    | received _ | due _ _ | settling _ => cases h
    | calling job n since reply =>
      have hnot : ¬reply.endsAt since ≤ world.now := of_decide_eq_false h
      exact ⟨since, reply, rfl, Nat.lt_of_not_le hnot⟩
    | waiting job n until_ =>
      simp only [Loop.isReady, Stage.isReady, hseen, Bool.true_or] at h
      cases h
    | finished _ | broken _ => cases hlive _ rfl
  | ended => cases hresult
  | failed text => cases hresult

/-- So it is over, or can go further, when the longest call after shutdown would be over. -/
theorem Loop.IsTimely.lt_of_isReady (h : loop.IsTimely bound world)
    (hlive : ∀ stage, loop.phase = .working stage → stage.isFinal = false)
    (hw : w.heedsShutdown = true) (hs : source.isStopped = true) (hresult : loop.result? = none)
    {C time : Nat} (hC : world.cancelAt = some C) (hle : C ≤ time)
    (hnot : loop.isReady w (world.at time) source = false) : time < C + bound := by
  have hseen : w.seesShutdown (world.at time) = true :=
    Worker.seesShutdown_iff.2 ⟨hw, isCancelled_iff.2 ⟨C, hC, hle⟩⟩
  obtain ⟨since, reply, hrun, hlt⟩ := Loop.exists_call hlive hseen hs hresult hnot
  obtain ⟨-, hbefore, hduration⟩ := h since reply hrun
  calc
    time < since + reply.duration := hlt
    _ ≤ C + bound := Nat.add_le_add (hbefore C hC) hduration

/-- Time that passes keeps it, if nobody waits who could go further. -/
theorem CoordinatorPhase.IsTimely.elapse (h : phase.IsTimely grace bound world source loop)
    (hloop : loop.IsTimely bound world)
    (hlive : ∀ stage, loop.phase = .working stage → stage.isFinal = false)
    (hw : w.heedsShutdown = true) (hopen : ∀ outcome, phase ≠ .done outcome) {time : Nat}
    (hcoordinator : ∀ t < time,
      Coordinator.isReady (loop.view (world.at (world.now + t))) phase = false)
    (hready : ∀ t < time, loop.isReady w (world.at (world.now + t)) source = false) :
    phase.IsTimely grace bound (world.at (world.now + time)) source loop := by
  cases phase with
  | watching =>
    intro C hC
    have hle : world.now ≤ C := h C hC
    apply Nat.le_of_not_lt
    intro hlt
    -- The coordinator would have been ready at the beginning of shutdown.
    have hnow : world.now + (C - world.now) = C := Nat.add_sub_cancel' hle
    have hnot := hcoordinator (C - world.now) (Nat.sub_lt_left_of_lt_add hle hlt)
    rw [hnow] at hnot
    have hquiet : (world.at C).isCancelled = false := (Bool.or_eq_false_iff.1 hnot).2
    have hcancelled : (world.at C).isCancelled = true := isCancelled_iff.2 ⟨C, hC, Nat.le_refl _⟩
    rw [hcancelled] at hquiet
    cases hquiet
  | stopping answersAt answer =>
    cases time with
    | zero => exact h
    | succ t =>
      obtain ⟨-, -, rfl⟩ := h
      have hnot := hcoordinator 0 (Nat.succ_pos t)
      exact absurd (Nat.le_refl world.now) (of_decide_eq_false hnot)
  | draining deadline =>
    cases time with
    | zero => exact h
    | succ t =>
      obtain ⟨hstopped, C, hC, hle, -, hdeadline⟩ := h
      have hresult : loop.result? = none := by
        have hnot := hcoordinator t (Nat.lt_succ_self t)
        exact Option.not_isSome_iff_eq_none.1 (Bool.eq_false_iff.1 (Bool.or_eq_false_iff.1 hnot).1)
      have hlt : world.now + t < C + bound :=
        hloop.lt_of_isReady hlive hw hstopped hresult hC
          (Nat.le_trans hle (Nat.le_add_right _ _)) (hready t (Nat.lt_succ_self t))
      exact ⟨hstopped, C, hC, Nat.le_trans hle (Nat.le_add_right _ _), hlt, hdeadline⟩
  | done outcome => exact absurd rfl (hopen outcome)

end Steps

end Courier
