import Courier.Proofs.Journal.Docket
import Courier.Proofs.Service.Stream

/-!
# How deliveries end

The consume loop takes a delivery, works on the one that it has, or does something that no delivery
has to do with (`Loop.Deed`).  That is so over every source, whatever the source gives.

So the docket of a run agrees with how far its loop is (`Loop.Files`): a case is closed when its
delivery has come to an outcome through acts that fit, and an account is open only while a delivery
is in flight.  Runs of the loop alone keep it (`files_play_loop`), and so do runs of a service
(`files_play`).
-/

namespace Courier

variable {σ : Type}

/-- Is the payload no command? -/
def Delivery.isPoison (d : Delivery) : Bool := (Item.delivery d).isPoison

theorem Delivery.isPoison_eq_false_iff {d : Delivery} :
    d.isPoison = false ↔ ∃ command, Command.decode d.payload = .ok command := by
  rw [isPoison, Item.isPoison]
  constructor
  · intro h
    cases hdecode : Command.decode d.payload with
    | error e =>
      rw [hdecode] at h
      cases h
    | ok command => exact ⟨command, rfl⟩
  · rintro ⟨command, hdecode⟩
    rw [hdecode]
    rfl

namespace Case

/-- The work on the delivery came to its outcome through these acts. -/
def Fits (w : Worker σ) (c : Case) : Prop := (Stage.finished c.outcome).Fits w c.delivery c.acts

variable {w : Worker σ} {c : Case}

/-- The delivery is settled once, as its outcome says, after everything else. -/
theorem Fits.settledOnce (h : c.Fits w) : SettledOnce c.delivery c.outcome c.acts :=
  settledOnce_of_fits h

theorem Fits.eq_poison_iff (h : c.Fits w) :
    c.outcome = .poison ↔ c.delivery.isPoison = true :=
  (Stage.Fits.actions_finished h).2

/-- A payload that is no command goes to the dead letters, and nothing else is done about it. -/
theorem Fits.of_isPoison (h : c.Fits w) (hp : c.delivery.isPoison = true) :
    c.outcome = .poison ∧ c.acts = [.settle (c.delivery.settle .deadLetter)] := by
  have houtcome : c.outcome = .poison := h.eq_poison_iff.2 hp
  refine ⟨houtcome, ?_⟩
  unfold Fits at h
  rw [houtcome] at h
  obtain ⟨before, hend, hacts⟩ := h
  cases hend with
  | poison hd => exact hacts

end Case

/-! ### What the loop does -/

/-- What a step of the loop can be, over any source. -/
inductive Loop.Deed (w : Worker σ) (world : World σ) (source : Source) (loop : Loop) :
    LoopProgress σ → Prop where
  /-- A delivery is taken up. -/
  | take {d : Delivery} {source' : Source} (hp : loop.phase.stage? = none) :
    Deed w world source loop
      ⟨world, source', { loop with phase := .working (.received d) }, [.received d]⟩
  /-- The work on a delivery goes on. -/
  | work {stage : Stage} (hp : loop.phase = .working stage) :
    Deed w world source loop (loop.work w world source stage)
  /-- No delivery has to do with it. -/
  | stay {source' : Source} {loop' : Loop} {entries : List Entry}
    (ha : ∀ e ∈ entries, e.isAside = true)
    (hp : loop'.phase = loop.phase ∨ loop.phase.stage? = none ∧ loop'.phase.stage? = none) :
    Deed w world source loop ⟨world, source', loop', entries⟩

namespace Loop

variable {w : Worker σ} {world : World σ} {source : Source} {loop : Loop}

theorem deed_accept (pull : Pull) (hp : loop.phase.stage? = none) :
    loop.Deed w world source (loop.accept w world source pull) := by
  cases pull with
  | closed => exact .stay (List.forall_mem_singleton.2 rfl) (.inr ⟨hp, rfl⟩)
  | held => exact .stay (List.forall_mem_nil _) (.inr ⟨hp, rfl⟩)
  | later wait => exact .stay (List.forall_mem_nil _) (.inr ⟨hp, rfl⟩)
  | now item rest =>
    cases item with
    | delivery d => exact .take hp
    | fault reason =>
      exact .stay (List.forall_mem_cons.2 ⟨rfl, List.forall_mem_singleton.2 rfl⟩) (.inr ⟨hp, rfl⟩)

/-- A step of the loop is one of its deeds. -/
theorem deed_step : loop.Deed w world source (loop.step w world source) := by
  obtain ⟨phase, tally⟩ := loop
  cases phase with
  | idle => exact .stay (List.forall_mem_singleton.2 rfl) (.inr ⟨rfl, rfl⟩)
  | pulling =>
    simp only [step]
    split
    · exact deed_accept _ rfl
    · exact .stay (List.forall_mem_nil _) (.inr ⟨rfl, rfl⟩)
  | popping => exact deed_accept _ rfl
  | awaiting until_ =>
    simp only [step]
    split
    · exact deed_accept _ rfl
    · exact .stay (List.forall_mem_nil _) (.inl rfl)
  | holding => exact deed_accept _ rfl
  | working stage => exact .work rfl
  | ended => exact .stay (List.forall_mem_nil _) (.inl rfl)
  | failed text => exact .stay (List.forall_mem_nil _) (.inl rfl)

theorem stage?_afterStage (loop : Loop) {stage : Stage} (h : ∀ outcome, stage ≠ .finished outcome) :
    (loop.afterStage stage).phase.stage? = some stage := by
  cases stage with
  | finished outcome => exact absurd rfl (h outcome)
  | received _ | due _ _ | calling _ _ _ _ | waiting _ _ _ | settling _ | broken _ => rfl

end Loop

/-! ### The docket agrees with the loop -/

/-- The docket of a journal with the given entries agrees with how far the loop is. -/
structure Loop.Files (w : Worker σ) (entries : List Entry) (loop : Loop) : Prop where
  fits : ∀ c ∈ (docket entries).closed, c.Fits w
  idle : loop.phase.stage? = none → (docket entries).current? = none
  busy : ∀ stage, loop.phase.stage? = some stage →
    ∃ a, (docket entries).current? = some a ∧ stage.Fits w a.delivery a.acts
  live : ∀ stage, loop.phase = .working stage → stage.isFinal = false
  /-- No delivery is lost between two cases. -/
  deliveries_eq : (docket entries).deliveries = deliveries entries

theorem files_start (w : Worker σ) : Loop.Files w [] {} where
  fits := List.forall_mem_nil _
  idle _ := rfl
  busy _ h := by cases h
  live _ h := by cases h
  deliveries_eq := rfl

namespace Loop.Files

variable {w : Worker σ} {entries : List Entry} {loop : Loop}

theorem take (h : loop.Files w entries) (hp : loop.phase.stage? = none) (d : Delivery) :
    Loop.Files w (entries ++ [.received d]) { loop with phase := .working (.received d) } := by
  have hdocket : docket (entries ++ [.received d]) = (docket entries).take d :=
    docket_append entries _
  refine ⟨?_, (fun h => by cases h), ?_, ?_, ?_⟩
  · rw [hdocket]
    exact h.fits
  · rintro stage ⟨⟩
    rw [hdocket]
    exact ⟨⟨d, []⟩, rfl, rfl, rfl⟩
  · rintro stage ⟨⟩
    rfl
  · rw [hdocket, (docket entries).deliveries_take d (h.idle hp), h.deliveries_eq, deliveries_append]
    rfl

/-- The work on a delivery takes the docket further. -/
theorem docket_work (h : loop.Files w entries) {stage : Stage} (hp : loop.phase = .working stage)
    (world : World σ) :
    docket (entries ++ (w.step world stage).entries) =
      (docket entries).advance (acts (w.step world stage).entries) (w.step world stage).stage := by
  rw [docket_append]
  exact w.foldl_enter_step _ world (h.live stage hp)

theorem work (h : loop.Files w entries) {stage : Stage} (hp : loop.phase = .working stage)
    (world : World σ) :
    (loop.afterStage (w.step world stage).stage).Files w
      (entries ++ (w.step world stage).entries) := by
  have hdocket := h.docket_work hp world
  have hdeliveries : (docket (entries ++ (w.step world stage).entries)).deliveries =
      deliveries (entries ++ (w.step world stage).entries) := by
    rw [hdocket, Docket.deliveries_advance, h.deliveries_eq, deliveries_append, w.deliveries_step,
      List.append_nil]
  obtain ⟨a, ha, hfits⟩ := h.busy stage (by rw [hp]; rfl)
  have hnext := fits_step world hfits
  -- What the step did and where it led to is known; the step itself counts no more.
  generalize acts (w.step world stage).entries = new at hdocket hnext
  generalize (w.step world stage).stage = next at hdocket hnext ⊢
  have hlive : ∀ stage, (loop.afterStage next).phase = .working stage → stage.isFinal = false := by
    intro stage hstage
    have hnext := loop.isLive_afterStage next
    rwa [hstage] at hnext
  by_cases hfinished : ∃ outcome, next = .finished outcome
  · obtain ⟨outcome, rfl⟩ := hfinished
    refine ⟨?_, ?_, (fun stage h => by cases h), hlive, hdeliveries⟩
    · intro c hc
      rw [hdocket, Docket.closed_advance_finished _ _ _ ha] at hc
      rcases List.mem_append.1 hc with hold | hlast
      · exact h.fits c hold
      · rw [List.mem_singleton.1 hlast]
        exact hnext
    · intro _
      rw [hdocket]
      rfl
  · have hopen : ∀ outcome, next ≠ .finished outcome := fun outcome heq => hfinished ⟨outcome, heq⟩
    have hstage := loop.stage?_afterStage hopen
    have hcurrent : ((docket entries).add new).current? = some ⟨a.delivery, a.acts ++ new⟩ := by
      rw [Docket.add, ha]
      rfl
    rw [Docket.advance_eq_add _ _ hopen] at hdocket
    refine ⟨?_, ?_, ?_, hlive, hdeliveries⟩
    · rw [hdocket]
      exact h.fits
    · intro hnone
      rw [hstage] at hnone
      cases hnone
    · intro next' hnext'
      obtain rfl := Option.some.inj (hstage.symm.trans hnext')
      rw [hdocket]
      exact ⟨_, hcurrent, hnext⟩

theorem stay (h : loop.Files w entries) {loop' : Loop} {new : List Entry}
    (ha : ∀ e ∈ new, e.isAside = true)
    (hp : loop'.phase = loop.phase ∨ loop.phase.stage? = none ∧ loop'.phase.stage? = none) :
    loop'.Files w (entries ++ new) := by
  obtain ⟨hfold, hnew⟩ := (docket entries).foldl_enter_aside ha
  have hdocket : docket (entries ++ new) = docket entries := (docket_append entries new).trans hfold
  have hdeliveries : (docket (entries ++ new)).deliveries = deliveries (entries ++ new) := by
    rw [hdocket, h.deliveries_eq, deliveries_append, hnew, List.append_nil]
  rcases hp with hsame | ⟨hnone, hnone'⟩
  · refine ⟨?_, ?_, ?_, ?_, hdeliveries⟩
    · rw [hdocket]
      exact h.fits
    · rw [hdocket, hsame]
      exact h.idle
    · rw [hdocket, hsame]
      exact h.busy
    · rw [hsame]
      exact h.live
  · refine ⟨?_, ?_, ?_, ?_, hdeliveries⟩
    · rw [hdocket]
      exact h.fits
    · rw [hdocket]
      exact fun _ => h.idle hnone
    · intro stage hstage
      rw [hnone'] at hstage
      cases hstage
    · intro stage hstage
      rw [hstage] at hnone'
      cases hnone'

/-- A step of the loop keeps it, whatever its source gives. -/
theorem step (h : loop.Files w entries) (world : World σ) (source : Source) :
    (loop.step w world source).loop.Files w (entries ++ (loop.step w world source).entries) := by
  have hdeed : loop.Deed w world source (loop.step w world source) := Loop.deed_step
  generalize loop.step w world source = progress at hdeed ⊢
  cases hdeed with
  | take hp => exact h.take hp _
  | work hp => exact h.work hp world
  | stay ha hp => exact h.stay ha hp

/-- A delivery in flight is on its way, or the handler broke down over it. -/
theorem isFinal_or_broken (h : loop.Files w entries) {stage : Stage}
    (hs : loop.phase.stage? = some stage) :
    stage.isFinal = false ∨ ∃ text, stage = .broken text := by
  have hlive := h.live
  generalize loop.phase = phase at hlive hs
  cases phase with
  | working stage' =>
    obtain rfl := Option.some.inj hs
    exact Or.inl (hlive _ rfl)
  | failed text => exact Or.inr ⟨text, (Option.some.inj hs).symm⟩
  | idle | pulling | popping | awaiting _ | holding | ended => cases hs

/-- While no delivery is in flight, every delivery handed out has its case. -/
theorem map_delivery_closed (h : loop.Files w entries) (hp : loop.phase.stage? = none) :
    (docket entries).closed.map (·.delivery) = deliveries entries := by
  rw [← h.deliveries_eq, Docket.deliveries, h.idle hp]
  exact (List.append_nil _).symm

end Loop.Files

/-! ### Runs -/

/-- The docket of a run. -/
def LoopRun.docket (run : LoopRun σ) : Docket := Courier.docket run.entries

/-- The docket of a run. -/
def ServiceRun.docket (run : ServiceRun σ) : Docket := Courier.docket run.journal.entries

/-- A run to the end waits until its loop is ready, makes a step, and goes on from there. -/
theorem LoopRun.toEnd_of_isReady {w : Worker σ} {run : LoopRun σ} {time : Nat}
    (ht : run.loop.readyAt w run.world = some time)
    (h : (run.follow w (.elapse (time - run.world.now))).loop.isReady w
      (run.follow w (.elapse (time - run.world.now))).world
      (run.follow w (.elapse (time - run.world.now))).source = true) :
    run.toEnd w = ((run.follow w (.elapse (time - run.world.now))).follow w .step).toEnd w := by
  rw [toEnd, ht]
  exact dif_pos h

theorem files_follow_loop {w : Worker σ} {run : LoopRun σ} (event : Worker.Event)
    (h : run.loop.Files w run.entries) :
    (run.follow w event).loop.Files w (run.follow w event).entries := by
  cases event with
  | step =>
    rw [entries_follow_step]
    exact h.step run.world run.source
  | cancel => exact h
  | elapse time => exact h

theorem files_run_loop {w : Worker σ} {run : LoopRun σ} (events : List Worker.Event)
    (h : run.loop.Files w run.entries) :
    (run.play w events).loop.Files w (run.play w events).entries := by
  induction events generalizing run with
  | nil => exact h
  | cons event events ih => exact ih (files_follow_loop event h)

/-- Whatever happens to a loop over a stream, its docket agrees with it. -/
theorem files_play_loop (w : Worker σ) (world : World σ) (stream : List Pending)
    (events : List Worker.Event) :
    (w.playLoop world stream events).loop.Files w (w.playLoop world stream events).entries :=
  files_run_loop events (files_start w)

/-- A loop that has ended has brought every delivery of its stream to an outcome, in order. -/
theorem map_delivery_closed_of_ended {w : Worker σ} {stream : List Pending} {run : LoopRun σ}
    (h : run.loop.Files w run.entries) (hs : run.Sound w stream) (hp : run.loop.phase = .ended) :
    run.docket.closed.map (·.delivery) = stream.filterMap fun p => p.item.delivery? := by
  have hclosed : run.docket.closed.map (·.delivery) = deliveries run.entries :=
    h.map_delivery_closed (by rw [hp]; rfl)
  have htaken : taken run.entries = stream.map (·.item) := by
    have hstream := hs.orderly.taken_eq
    rwa [hs.ended hp, List.map_nil, List.append_nil] at hstream
  rw [hclosed, deliveries_eq, htaken, List.filterMap_map]
  rfl

/-- A step of the coordinator tells of no delivery. -/
theorem isAside_coordinator (c : Coordinator) (first : Glance) (view : CoordinatorView)
    (source : Source) (phase : CoordinatorPhase) :
    ∀ e ∈ (c.step first view source phase).entries, e.isAside = true := by
  have hjoin (outcome : ShutdownOutcome) :
      ∀ e ∈ (c.join source outcome).entries, e.isAside = true := by
    cases outcome with
    | loopFinished _ | graceElapsed | loopFailed _ => exact List.forall_mem_singleton.2 rfl
  have htwo (e e' : Entry) (he : e.isAside = true) (he' : e'.isAside = true) :
      ∀ x ∈ [e, e'], x.isAside = true :=
    List.forall_mem_cons.2 ⟨he, List.forall_mem_singleton.2 he'⟩
  cases phase with
  | watching =>
    simp only [Coordinator.step]
    split
    · exact hjoin _
    · split
      · exact htwo _ _ rfl rfl
      · exact List.forall_mem_nil _
  | stopping answersAt answer =>
    simp only [Coordinator.step]
    split
    · cases answer with
      | ok _ => exact List.forall_mem_nil _
      | error e => exact List.forall_mem_singleton.2 rfl
    · exact List.forall_mem_nil _
  | draining deadline =>
    simp only [Coordinator.step]
    split
    · exact hjoin _
    · split
      · exact htwo _ _ rfl rfl
      · exact List.forall_mem_nil _
  | done outcome => exact List.forall_mem_nil _

theorem files_fire {v : Service σ} {s : ServiceState σ} {entries : List Entry} (p : Party)
    (first : Glance) (h : s.loop.Files v.worker entries) :
    (v.fire s p first).1.loop.Files v.worker (entries ++ (v.fire s p first).2) := by
  cases p with
  | loop =>
    simp only [Service.fire, Service.loopStep]
    split
    · exact h.stay (List.forall_mem_nil _) (.inl rfl)
    · exact h.step s.world s.source
  | coordinator =>
    have haside := isAside_coordinator v.coordinator first (s.loop.view s.world) s.source s.phase
    exact h.stay haside (.inl rfl)

theorem files_follow {v : Service σ} {run : ServiceRun σ} (event : Service.Event)
    (h : run.state.loop.Files v.worker run.journal.entries) :
    (run.follow v event).state.loop.Files v.worker (run.follow v event).journal.entries := by
  cases event with
  | fire p first =>
    simp only [ServiceRun.follow, Journal.entries_append, Journal.entries_stamp]
    exact files_fire p first h
  | cancel => exact h
  | elapse time => exact h

theorem files_foldl {v : Service σ} {run : ServiceRun σ} (events : List Service.Event)
    (h : run.state.loop.Files v.worker run.journal.entries) :
    (events.foldl (ServiceRun.follow v) run).state.loop.Files v.worker
      (events.foldl (ServiceRun.follow v) run).journal.entries := by
  induction events generalizing run with
  | nil => exact h
  | cons event events ih => exact ih (files_follow event h)

/-- Whatever happens to a service, its docket agrees with its loop. -/
theorem files_play (v : Service σ) (world : World σ) (queue : List Delivery) (holdsOpen : Bool)
    (events : List Service.Event) :
    let run := v.play (.start world queue holdsOpen) events
    run.state.loop.Files v.worker run.journal.entries :=
  files_foldl events (files_start v.worker)

end Courier
