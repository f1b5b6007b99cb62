import Courier.Proofs.Journal.Ledger
import Courier.Service.Basic

/-!
# The moves of a service

The consume loop takes a delivery from its source, works on the one that it has, or does something
that nobody else sees (`Loop.Move`).  The coordinator stops the source, joins the loop, or changes
nothing but its own phase (`Coordinator.Move`).  `Loop.move_step` and `Coordinator.move_step` say
that a step is always one of these; nothing else about the steps is used later.

The source is a queue of deliveries that are all there to be taken (`Source.Holds`).  Once it has
been stopped a delivery is taken only by a loop that had found it open before.
-/

namespace Courier

/-! ### Queues of deliveries -/

namespace Source

/-- The source still holds the given deliveries, and nothing else.  It may have been stopped. -/
def Holds (s : Source) (rest : List Delivery) : Prop :=
  s = { Source.ofDeliveries rest s.holdsOpen with isStopped := s.isStopped }

/-- The deliveries that a source still holds. -/
def stock (s : Source) : List Delivery :=
  s.pending.filterMap fun p =>
    match p.item with
    | .delivery d => some d
    | .fault _ => none

/-- What a source gives that holds the given deliveries: the first one, if any. -/
inductive Gives (s : Source) : List Delivery → Pull → Prop where
  | closed {rest : List Delivery} : Gives s rest .closed
  | held {rest : List Delivery} : Gives s rest .held
  | delivery {d : Delivery} {rest : List Delivery} {s' : Source} (hs' : s'.isStopped = s.isStopped)
    (h : s'.Holds rest) : Gives s (d :: rest) (.now (.delivery d) s')

variable {s : Source} {rest : List Delivery}

theorem Holds.stock_eq (h : s.Holds rest) : s.stock = rest := by
  rw [h, stock, ofDeliveries, List.filterMap_map]
  exact List.filterMap_some

theorem Holds.remaining_eq (h : s.Holds rest) : s.remaining = rest.length := by
  rw [h, remaining, ofDeliveries, List.length_map]

theorem Holds.stop (h : s.Holds rest) : s.stop.2.Holds rest ∧ s.stop.2.isStopped = true := by
  rw [h]
  exact ⟨rfl, rfl⟩

theorem Holds.gives_pop (h : s.Holds rest) : s.Gives rest s.pop := by
  rw [h, pop]
  rcases rest with _ | ⟨d, rest⟩
  · cases hopen : s.holdsOpen with
    | true => exact .held
    | false => exact .closed
  · exact .delivery rfl rfl

theorem Holds.pullStopped_eq (h : s.Holds rest) : s.pullStopped = .closed := by
  rw [h]
  rfl

theorem Holds.take_eq_pop (h : s.Holds rest) (hs : s.isStopped = false) : s.take = s.pop := by
  rw [h, hs, take, pop]
  rcases rest with _ | ⟨d, rest⟩ <;> rfl

end Source

/-! ### The loop -/

/-- The stage of the delivery that the loop is busy with; a handler that broke down leaves it with
the loop. -/
def LoopPhase.stage? : LoopPhase → Option Stage
  | .working stage => some stage
  | .failed text => some (.broken text)
  | _ => none

/-- What a step of the loop can be, if the source holds the given deliveries. -/
inductive Loop.Move {σ : Type} (w : Worker σ) (world : World σ) (source : Source) (loop : Loop) :
    List Delivery → LoopProgress σ → Prop where
  /-- The next delivery is taken up. -/
  | take {d : Delivery} {rest : List Delivery} {source' : Source}
    (hs : source.isStopped = true → loop.phase = .popping)
    (hs' : source'.isStopped = source.isStopped) (hp : loop.phase.stage? = none)
    (he : loop.phase ≠ .ended) (h : source'.Holds rest) :
    Move w world source loop (d :: rest)
      ⟨world, source', { loop with phase := .working (.received d) }, [.received d]⟩
  /-- The work on a delivery goes on. -/
  | work {rest : List Delivery} {stage : Stage} (hp : loop.phase = .working stage) :
    Move w world source loop rest (loop.work w world source stage)
  /-- Neither the source nor any delivery is touched. -/
  | stay {rest : List Delivery} {loop' : Loop} {entries : List Entry}
    (hd : deliveries entries = []) (ha : acts entries = [])
    (ht : loop'.tally = loop.tally) (hp : loop'.phase.stage? = loop.phase.stage?)
    (he : loop.phase = .ended → loop' = loop)
    (hs : source.isStopped = true → loop'.phase = .popping → loop.phase = .popping) :
    Move w world source loop rest ⟨world, source, loop', entries⟩

namespace Loop

variable {σ : Type} {w : Worker σ} {world : World σ} {source : Source} {loop : Loop}
  {rest : List Delivery}

theorem move_accept {pull : Pull} (h : source.Gives rest pull) (hp : loop.phase.stage? = none)
    (he : loop.phase ≠ .ended) (hs : source.isStopped = true → loop.phase = .popping) :
    loop.Move w world source rest (loop.accept w world source pull) := by
  cases h with
  | closed =>
    refine .stay rfl rfl rfl hp.symm (fun h => absurd h he) fun _ h => ?_
    cases h
  | held =>
    refine .stay rfl rfl rfl hp.symm (fun h => absurd h he) fun _ h => ?_
    cases h
  | delivery hs' h => exact .take hs hs' hp he h

/-- A source that has been stopped is closed. -/
theorem move_accept_closed (hp : loop.phase.stage? = none) (he : loop.phase ≠ .ended) :
    loop.Move w world source rest (loop.accept w world source .closed) := by
  refine .stay rfl rfl rfl hp.symm (fun h => absurd h he) fun _ h => ?_
  cases h

theorem move_accept_take (h : source.Holds rest) (hp : loop.phase.stage? = none)
    (he : loop.phase ≠ .ended) :
    loop.Move w world source rest (loop.accept w world source source.take) := by
  cases hs : source.isStopped with
  | true =>
    have htake : source.take = .closed := by rw [Source.take, hs, if_pos rfl, h.pullStopped_eq]
    rw [htake]
    exact move_accept_closed hp he
  | false =>
    rw [h.take_eq_pop hs]
    exact move_accept h.gives_pop hp he fun hstopped => by rw [hs] at hstopped; cases hstopped

/-- A step of the loop is a move. -/
theorem move_step (h : source.Holds rest) :
    loop.Move w world source rest (loop.step w world source) := by
  obtain ⟨phase, tally⟩ := loop
  cases phase with
  | idle => exact .stay rfl rfl rfl rfl (fun h => by cases h) fun _ h => by cases h
  | pulling =>
    simp only [step]
    split
    · rw [h.pullStopped_eq]
      exact move_accept_closed rfl (by simp)
    · rename_i hs
      exact .stay rfl rfl rfl rfl (fun h => by cases h) fun hstopped => absurd hstopped hs
  | popping => exact move_accept h.gives_pop rfl (by simp) fun _ => rfl
  | awaiting until_ =>
    simp only [step]
    split
    · exact move_accept_take h rfl (by simp)
    · exact .stay rfl rfl rfl rfl (fun _ => rfl) fun _ h => h
  | holding => exact move_accept_take h rfl (by simp)
  | working stage => exact .work rfl
  | ended => exact .stay rfl rfl rfl rfl (fun _ => rfl) fun _ h => by cases h
  | failed text => exact .stay rfl rfl rfl rfl (fun _ => rfl) fun _ h => by cases h

/-- The loop of a service makes a move, too, whether or not it has been given up. -/
theorem move_loopStep (v : Service σ) {s : ServiceState σ} (h : s.source.Holds rest) :
    s.loop.Move v.worker s.world s.source rest (v.loopStep s) := by
  unfold Service.loopStep
  split
  · exact .stay rfl rfl rfl rfl (fun _ => rfl) fun _ h => h
  · exact move_step h

theorem eq_of_result? {tally : Tally} (h : loop.result? = some (.loopFinished tally)) :
    loop = ⟨.ended, tally⟩ := by
  obtain ⟨phase, counted⟩ := loop
  cases phase
  case ended =>
    cases h
    rfl
  all_goals cases h

end Loop

/-! ### The coordinator -/

/-- What a step of the coordinator can be. -/
inductive Coordinator.Move (view : CoordinatorView) (source : Source) (phase : CoordinatorPhase) :
    CoordinatorProgress → Prop where
  /-- The source is asked to stop. -/
  | stop {phase' : CoordinatorPhase} {entries : List Entry} (hd : deliveries entries = [])
    (ha : acts entries = []) (hp : ∀ outcome, phase' ≠ .done outcome) :
    Move view source phase ⟨source.stop.2, phase', entries⟩
  /-- The loop is over. -/
  | join {outcome : ShutdownOutcome} {entries : List Entry} (hd : deliveries entries = [])
    (ha : acts entries = []) (hr : view.result? = some outcome) :
    Move view source phase ⟨source, .done outcome, entries⟩
  /-- The source is not touched, and the loop is not over. -/
  | stay {phase' : CoordinatorPhase} {entries : List Entry} (hd : deliveries entries = [])
    (ha : acts entries = []) (hp : ∀ tally, phase' = .done (.loopFinished tally) → phase = phase') :
    Move view source phase ⟨source, phase', entries⟩

namespace Coordinator

variable {c : Coordinator} {view : CoordinatorView} {source : Source}

theorem join_eq (c : Coordinator) (source : Source) (outcome : ShutdownOutcome) :
    c.join source outcome = ⟨source, .done outcome, (c.join source outcome).entries⟩ := by
  cases outcome <;> rfl

theorem move_join {phase : CoordinatorPhase} {outcome : ShutdownOutcome}
    (hr : view.result? = some outcome) : Move view source phase (c.join source outcome) := by
  cases outcome <;> exact .join rfl rfl hr

/-- What the coordinator notices of the loop's end is how the loop ended. -/
theorem result?_of_noticed {first : Glance} {outcome : ShutdownOutcome}
    (h : view.noticed first = some outcome) : view.result? = some outcome := by
  cases first with
  | loop => exact h
  | shutdown =>
    simp only [CoordinatorView.noticed] at h
    split at h
    · cases h
    · exact h

/-- A step of the coordinator is a move. -/
theorem move_step (first : Glance) (phase : CoordinatorPhase) :
    Move view source phase (c.step first view source phase) := by
  cases phase with
  | watching =>
    simp only [step]
    split
    · rename_i hr
      exact move_join (result?_of_noticed hr)
    · split
      · exact .stop rfl rfl fun outcome h => by cases h
      · exact .stay rfl rfl fun tally h => by cases h
  | stopping answersAt answer =>
    simp only [step]
    split
    · cases answer <;> exact .stay rfl rfl fun tally h => by cases h
    · exact .stay rfl rfl fun tally h => by cases h
  | draining deadline =>
    simp only [step]
    split
    · rename_i hr
      exact move_join hr
    · split
      · exact .stay rfl rfl fun tally h => by cases h
      · exact .stay rfl rfl fun tally h => by cases h
  | done outcome => exact .stay rfl rfl fun _ _ => rfl

end Coordinator

end Courier
