import Courier.Proofs.Service.Endings

/-!
# What a source has in stock

Whatever a source is like, with errors among its items and items that let themselves be waited for,
its deliveries are handed out in order and none is lost on the way: the delivery that a step of the
loop takes was the first of `Source.stock`, and the coordinator takes none (`Loop.stock_step`,
`Coordinator.stock_step`).

A loop that is left to itself goes on until the stock is empty (`stock_toEnd`), unless the handler
breaks down.  Then it has ended, or it holds on to a source that stays open.
-/

namespace Courier

variable {σ : Type}

/-! ### Sources -/

namespace Source

/-- What a source may give, as far as its stock goes. -/
inductive Supplies (s : Source) : Pull → Prop where
  | closed (h : s.isStopped = false → s.stock = []) : Supplies s .closed
  | held (h : s.isStopped = false → s.stock = []) : Supplies s .held
  | later (wait : Nat) : Supplies s (.later wait)
  | now {item : Item} {rest : Source} (hs : rest.isStopped = s.isStopped)
    (h : item.delivery?.toList ++ rest.stock = s.stock) : Supplies s (.now item rest)

variable (s : Source)

theorem supplies_pullStopped (h : s.isStopped = true) : s.Supplies s.pullStopped := by
  unfold pullStopped
  split
  · exact .closed fun hs => by rw [h] at hs; cases hs
  · exact .now rfl rfl

theorem stock_cons {p : Pending} {rest : List Pending} (h : s.pending = p :: rest) :
    p.item.delivery?.toList ++ { s with pending := rest }.stock = s.stock := by
  obtain ⟨item, after⟩ := p
  rw [stock, stock, h]
  cases item <;> rfl

theorem supplies_take : s.Supplies s.take := by
  unfold take
  split
  · rename_i hs
    exact s.supplies_pullStopped hs
  · split
    · rename_i hpending
      have hstock : s.stock = [] := by rw [stock, hpending]; rfl
      split
      · exact .held fun _ => hstock
      · exact .closed fun _ => hstock
    · rename_i hpending
      exact .now rfl (s.stock_cons hpending)

theorem supplies_pop : s.Supplies s.pop := by
  unfold pop
  split
  · rename_i hpending
    have hstock : s.stock = [] := by rw [stock, hpending]; rfl
    split
    · exact .held fun _ => hstock
    · exact .closed fun _ => hstock
  · rename_i hpending
    split
    · exact .now rfl (s.stock_cons hpending)
    · exact .later _

theorem stock_stop : s.stop.2.stock = s.stock := by
  unfold stop
  split <;> rfl

end Source

/-! ### Steps -/

/-- A loop has all that its source had, if it asks for no more. -/
structure Loop.HasAll (source : Source) (loop : Loop) : Prop where
  isStopped_eq : source.isStopped = false
  stock_eq : loop.phase = .holding ∨ loop.phase = .ended → source.stock = []

namespace Loop

variable {w : Worker σ} {world : World σ} {source : Source} {loop : Loop} {pull : Pull}

theorem stock_accept (h : source.Supplies pull) :
    deliveries (loop.accept w world source pull).entries ++
      (loop.accept w world source pull).source.stock = source.stock := by
  cases h with
  | closed _ => rfl
  | held _ => rfl
  | later wait => rfl
  | @now item rest _ hstock =>
    rw [← hstock]
    cases item <;> rfl

/-- A step hands out the first delivery of the stock, or none. -/
theorem stock_step :
    deliveries (loop.step w world source).entries ++ (loop.step w world source).source.stock =
      source.stock := by
  obtain ⟨phase, tally⟩ := loop
  cases phase with
  | idle => rfl
  | pulling =>
    simp only [step]
    split
    · rename_i hs
      exact stock_accept (source.supplies_pullStopped hs)
    · rfl
  | popping => exact stock_accept source.supplies_pop
  | awaiting until_ =>
    simp only [step]
    split
    · exact stock_accept source.supplies_take
    · rfl
  | holding => exact stock_accept source.supplies_take
  | working stage =>
    show deliveries (w.step world stage).entries ++ source.stock = source.stock
    rw [w.deliveries_step world stage]
    rfl
  | ended => rfl
  | failed text => rfl

theorem hasAll_accept (h : source.Supplies pull) (hs : source.isStopped = false) :
    (loop.accept w world source pull).loop.HasAll (loop.accept w world source pull).source := by
  cases h with
  | closed hstock => exact ⟨hs, fun _ => hstock hs⟩
  | held hstock => exact ⟨hs, fun _ => hstock hs⟩
  | later wait => exact ⟨hs, by rintro (h | h) <;> cases h⟩
  | @now item rest hrest _ =>
    cases item with
    | delivery d => exact ⟨hrest.trans hs, by rintro (h | h) <;> cases h⟩
    | fault reason => exact ⟨hrest.trans hs, by rintro (h | h) <;> cases h⟩

theorem phase_afterStage_ne_holding (loop : Loop) (stage : Stage) :
    (loop.afterStage stage).phase ≠ .holding := by
  cases stage <;> exact nofun

theorem hasAll_step (h : loop.HasAll source) :
    (loop.step w world source).loop.HasAll (loop.step w world source).source := by
  obtain ⟨hs, hstock⟩ := h
  obtain ⟨phase, tally⟩ := loop
  cases phase with
  | idle => exact ⟨hs, by rintro (h | h) <;> cases h⟩
  | pulling =>
    simp only [step, hs, Bool.false_eq_true, if_false]
    exact ⟨hs, by rintro (h | h) <;> cases h⟩
  | popping => exact hasAll_accept source.supplies_pop hs
  | awaiting until_ =>
    simp only [step]
    split
    · exact hasAll_accept source.supplies_take hs
    · exact ⟨hs, hstock⟩
  | holding => exact hasAll_accept source.supplies_take hs
  | working stage =>
    refine ⟨hs, ?_⟩
    rintro (hphase | hphase)
    · exact absurd hphase (phase_afterStage_ne_holding _ _)
    · exact absurd hphase (phase_afterStage_ne_ended _ _)
  | ended => exact ⟨hs, hstock⟩
  | failed text => exact ⟨hs, hstock⟩

end Loop

/-- The coordinator takes nothing out of the stock. -/
theorem Coordinator.stock_step (c : Coordinator) (first : Glance) (view : CoordinatorView)
    (source : Source) (phase : CoordinatorPhase) :
    (c.step first view source phase).source.stock = source.stock := by
  have hmove : Move view source phase (c.step first view source phase) := c.move_step first phase
  generalize c.step first view source phase = progress at hmove ⊢
  cases hmove with
  | stop => exact source.stock_stop
  | join => rfl
  | stay => rfl

/-! ### A loop that is left to itself -/

section Runs

variable {w : Worker σ} {run : LoopRun σ} {queue : List Delivery}

theorem stock_follow_loop (event : Worker.Event)
    (h : deliveries run.entries ++ run.source.stock = queue) :
    deliveries (run.follow w event).entries ++ (run.follow w event).source.stock = queue := by
  cases event with
  | step =>
    rw [entries_follow_step, deliveries_append, List.append_assoc, ← h]
    exact congrArg (deliveries run.entries ++ ·) Loop.stock_step
  | cancel => exact h
  | elapse time => exact h

/-- A run of the loop hands out its source's stock in order. -/
theorem stock_play_loop (events : List Worker.Event)
    (h : deliveries run.entries ++ run.source.stock = queue) :
    deliveries (run.play w events).entries ++ (run.play w events).source.stock = queue := by
  induction events generalizing run with
  | nil => exact h
  | cons event events ih => exact ih (stock_follow_loop event h)

theorem hasAll_play_loop (events : List Worker.Event) (h : run.loop.HasAll run.source) :
    (run.play w events).loop.HasAll (run.play w events).source := by
  induction events generalizing run with
  | nil => exact h
  | cons event events ih =>
    refine ih ?_
    cases event with
    | step => exact Loop.hasAll_step h
    | cancel => exact h
    | elapse time => exact h

/-- A run on a clock of its own goes on until its loop has ended, holds on to its source, or has
broken down. -/
theorem phase_toEnd_of_files (h : run.loop.Files w run.entries) :
    ((run.toEnd w).loop.phase = .holding ∨ (run.toEnd w).loop.phase = .ended) ∨
      ∃ text, (run.toEnd w).loop.phase = .failed text := by
  fun_induction LoopRun.toEnd w run with
  | case1 run hnone =>
    unfold Loop.readyAt at hnone
    split at hnone
    any_goals cases hnone
    · rename_i hphase
      exact Or.inl (Or.inl hphase)
    · rename_i hphase
      exact Or.inl (Or.inr hphase)
    · rename_i text hphase
      exact Or.inr ⟨text, hphase⟩
  | case2 run time hready ready hisReady ih =>
    exact ih (files_follow_loop .step (files_follow_loop (.elapse (time - run.world.now)) h))
  | case3 run time hready ready hisReady =>
    have heq : ready = _ := LoopRun.follow_elapse hready
    have hlive : run.loop.phase.IsLive := by
      have hworking := h.live
      unfold Loop.readyAt at hready
      generalize run.loop.phase = phase at hworking hready ⊢
      cases phase with
      | holding => cases hready
      | working stage => exact hworking stage rfl
      | idle | pulling | popping | awaiting _ | ended | failed _ => trivial
    rw [heq] at hisReady
    exact absurd (Loop.isReady_at hlive hready) hisReady

/-- A loop breaks down only over a delivery whose call did. -/
theorem Loop.Files.panicked {entries : List Entry} {loop : Loop} {text : String}
    (h : loop.Files w entries) (hp : loop.phase = .failed text) :
    ∃ a, (Courier.docket entries).current? = some a ∧ .panicked text ∈ Act.results a.acts := by
  obtain ⟨a, ha, job, n, rounds, -, hacts⟩ := h.busy (.broken text) (by rw [hp]; rfl)
  refine ⟨a, ha, ?_⟩
  rw [hacts, Act.results_append]
  exact List.mem_append_right _ (List.mem_singleton_self _)

/-- **The loop takes all.**  Left to itself with a source that nobody has stopped, it brings every
delivery of the source's stock to an outcome, in order, unless a call of the handler breaks down. -/
theorem stock_toEnd (w : Worker σ) (world : World σ) (source : Source)
    (hs : source.isStopped = false) :
    let run := LoopRun.toEnd w { world, source }
    (∃ text a, run.loop.phase = .failed text ∧ run.docket.current? = some a ∧
      .panicked text ∈ Act.results a.acts) ∨
      run.docket.closed.map (·.delivery) = source.stock ∧ run.source.stock = [] := by
  intro run
  obtain ⟨events, hrun⟩ := exists_play_eq_toEnd_loop w { world, source }
  have hfiles : run.loop.Files w run.entries := by
    rw [show run = _ from hrun]
    exact files_run_loop events (files_start w)
  have hstock : deliveries run.entries ++ run.source.stock = source.stock := by
    rw [show run = _ from hrun]
    exact stock_play_loop events rfl
  have hall : run.loop.HasAll run.source := by
    rw [show run = _ from hrun]
    exact hasAll_play_loop events ⟨hs, by rintro (h | h) <;> cases h⟩
  let start : LoopRun σ := { world, source }
  have hstart : start.loop.Files w start.entries := files_start w
  rcases phase_toEnd_of_files hstart with hphase | hfailed
  · have hempty : run.source.stock = [] := hall.stock_eq hphase
    have hidle : run.loop.phase.stage? = none := by
      rcases hphase with hphase | hphase
      · rw [hphase]
        rfl
      · rw [hphase]
        rfl
    refine Or.inr ⟨?_, hempty⟩
    rw [LoopRun.docket, hfiles.map_delivery_closed hidle, ← hstock, hempty, List.append_nil]
  · obtain ⟨text, htext⟩ := hfailed
    obtain ⟨a, ha, hpanicked⟩ := hfiles.panicked htext
    exact Or.inl ⟨text, a, htext, ha, hpanicked⟩

end Runs

end Courier
