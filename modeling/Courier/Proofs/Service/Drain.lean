import Courier.Proofs.Service.Late
import Courier.Proofs.Service.Prompt
import Courier.Proofs.Service.Timely

/-!
# Graceful shutdown

From the beginning of shutdown on there is nothing to wait for but a call that runs.  So a service
whose calls are short enough is done no later than its longest call after the beginning of shutdown,
and never because its grace period has run out.

`isTimely_follow` carries `ServiceState.IsTimely` over the events of a run that loses no time
(`Service.IsPrompt`), and `ServiceRun.DrainsWithin` reads off what it means for the end of the run.
`drains_play` puts it together with what is known of late deliveries (`isUntried_play`).
`outcome_play_ne` shows why the handler must not break down.
-/

namespace Courier

variable {σ : Type}

/-! ### Runs -/

section Runs

variable {v : Service σ} {s : ServiceState σ} {run : ServiceRun σ} {queue : List Delivery}
  {entries : List Entry} {bound : Nat}

/-- A step of either party keeps it. -/
theorem isTimely_fire (h : s.IsTimely v bound) (hsource : s.source.Serves queue entries)
    (hw : v.worker.heedsShutdown = true) (hbound : bound < v.coordinator.grace) (p : Party)
    (first : Glance) : (v.fire s p first).1.IsTimely v bound := by
  cases p with
  | loop =>
    obtain ⟨hlasts, hloop⟩ := h.loop.loopStep hw h.lasts
    refine ⟨hlasts, hloop, h.coordinator.of_sameTime (v.sameTime_loopStep s) ?_ ?_⟩
    · exact fun hs => (fire_of_isStopped (v := v) .loop first hsource hs).1
    · intro outcome hr
      exact (congrArg Loop.result? (Service.loopStep_of_result? hr)).trans hr
  | coordinator =>
    obtain ⟨rest, hrest, -⟩ := hsource
    exact ⟨h.lasts, h.loop, h.coordinator.step hrest hbound first⟩

/-- Every event keeps it that keeps nobody waiting. -/
theorem isTimely_follow (h : run.state.IsTimely v bound) (hsound : run.Sound v queue)
    (hfiles : run.state.loop.Files v.worker run.journal.entries)
    (hw : v.worker.heedsShutdown = true) (hbound : bound < v.coordinator.grace)
    {event : Service.Event} (hallows : v.Allows run.state event) :
    (run.follow v event).state.IsTimely v bound := by
  cases event with
  | fire p first => exact isTimely_fire h hsound.serves hw hbound p first
  | cancel =>
    have hsame := run.state.world.sameTime_cancel
    exact ⟨h.lasts, h.loop.of_sameTime hsame (.inr rfl),
      h.coordinator.of_sameTime hsame id fun _ hr => hr⟩
  | elapse time =>
    obtain ⟨houtcome, hready⟩ := hallows
    have hopen : ∀ outcome, run.state.phase ≠ .done outcome := by
      intro outcome hphase
      rw [ServiceState.outcome?, hphase] at houtcome
      cases houtcome
    refine ⟨h.lasts, ?_, h.coordinator.elapse h.loop hfiles.live hw hopen ?_ ?_⟩
    · intro since reply hrun
      obtain ⟨hle, hbefore, hduration⟩ := h.loop since reply hrun
      exact ⟨Nat.le_trans hle (Nat.le_add_right _ _), hbefore, hduration⟩
    · exact fun t ht => hready t ht .coordinator
    · intro t ht
      have hnot := hready t ht .loop
      let later := { run.state with world := run.state.world.at (run.state.world.now + t) }
      have hnone : later.outcome? = none := houtcome
      rw [Service.isReady, hnone] at hnot
      exact hnot

theorem isTimely_foldl (events : List Service.Event) (h : run.state.IsTimely v bound)
    (hsound : run.Sound v queue) (hfiles : run.state.loop.Files v.worker run.journal.entries)
    (hw : v.worker.heedsShutdown = true) (hbound : bound < v.coordinator.grace)
    (hprompt : v.IsPrompt run events) :
    (events.foldl (ServiceRun.follow v) run).state.IsTimely v bound := by
  induction events generalizing run with
  | nil => exact h
  | cons event events ih =>
    have hnext := isTimely_follow h hsound hfiles hw hbound hprompt.1
    exact ih hnext (sound_follow event hsound) (files_follow event hfiles) hprompt.2

/-- Shutdown comes no later than it was to come. -/
theorem cancelsBy_foldl (events : List Service.Event) {time : Nat}
    (h : run.state.world.CancelsBy time) :
    (events.foldl (ServiceRun.follow v) run).state.world.CancelsBy time := by
  induction events generalizing run with
  | nil => exact h
  | cons event events ih =>
    refine ih ?_
    cases event with
    | fire p first =>
      cases p with
      | loop => exact h.of_sameTime (v.sameTime_loopStep run.state)
      | coordinator => exact h
    | cancel => exact h.of_sameTime run.state.world.sameTime_cancel
    | elapse time => exact h

theorem ServiceState.Matches.isTimely {s' : ServiceState σ} (h : s.Matches s')
    (ht : s.IsTimely v bound) : s'.IsTimely v bound := by
  obtain ⟨world, source, loop, phase, turn, timers⟩ := s
  obtain ⟨world', source', loop', phase', turn', timers'⟩ := s'
  obtain ⟨rfl, rfl, rfl, rfl⟩ := h
  exact ⟨ht.lasts, ht.loop, ht.coordinator⟩

theorem ServiceState.phase_eq_done {outcome : ShutdownOutcome} (h : s.outcome? = some outcome) :
    s.phase = .done outcome := by
  unfold ServiceState.outcome? at h
  split at h
  · rename_i o hphase
    rw [hphase, Option.some.inj h]
  · cases h

/-- Where shutdown has begun and nobody waits for any time, the coordinator is done. -/
theorem ServiceState.IsTimely.isSome_outcome? (h : s.IsTimely v bound)
    (hcancel : s.world.cancelAt.isSome = true) (hready : v.readyAt s = none) :
    s.outcome?.isSome = true := by
  cases houtcome : s.outcome? with
  | some outcome => rfl
  | none =>
    have hnone := Service.coordinator_readyAt_eq_none hready houtcome
    have hphase := h.coordinator
    rw [ServiceState.outcome?] at houtcome
    generalize s.phase = phase at houtcome hnone hphase
    cases phase with
    | watching =>
      have hnone : s.world.cancelAt = none := Option.map_eq_none_iff.1 hnone
      rw [hnone] at hcancel
      cases hcancel
    | stopping answersAt answer =>
      obtain ⟨-, -, hanswers⟩ := hphase
      have hnone : answersAt = none := Option.map_eq_none_iff.1 hnone
      rw [hnone] at hanswers
      cases hanswers
    | draining deadline => cases hnone
    | done outcome => cases houtcome

/-- A loop that is over has brought every delivery to an outcome, unless the handler broke down. -/
theorem Loop.Files.of_result? {w : Worker σ} {loop : Loop} {outcome : ShutdownOutcome}
    (h : loop.Files w entries) (hr : loop.result? = some outcome) :
    (∃ tally, outcome = .loopFinished tally ∧
      (docket entries).closed.map (·.delivery) = deliveries entries) ∨
    ∃ reason a text, outcome = .loopFailed reason ∧ (docket entries).current? = some a ∧
      Act.reply (.panicked text) ∈ a.acts := by
  obtain ⟨phase, tally⟩ := loop
  cases phase with
  | ended => exact Or.inl ⟨tally, (Option.some.inj hr).symm, h.map_delivery_closed rfl⟩
  | failed text =>
    obtain ⟨a, ha, job, n, rounds, -, hacts⟩ := h.busy (.broken text) rfl
    refine Or.inr ⟨_, a, text, (Option.some.inj hr).symm, ha, ?_⟩
    rw [hacts]
    exact List.mem_append_right _ (List.mem_cons_of_mem _ (List.mem_singleton_self _))
  | idle | pulling | popping | awaiting _ | holding | working _ => cases hr

/-- After shutdown the service is done in time: its loop has ended by itself, with an outcome for
every delivery, or the handler has broken down. -/
structure ServiceRun.DrainsWithin (bound : Nat) (run : ServiceRun σ) : Prop where
  now_le : ∀ C, run.state.world.cancelAt = some C → run.state.world.now ≤ C + bound
  outcome : ∀ outcome, run.state.outcome? = some outcome →
    (∃ tally, outcome = .loopFinished tally ∧
      run.docket.closed.map (·.delivery) = deliveries run.journal.entries) ∨
    ∃ reason a text, outcome = .loopFailed reason ∧ run.docket.current? = some a ∧
      Act.reply (.panicked text) ∈ a.acts

theorem ServiceState.IsTimely.drainsWithin (h : s.IsTimely v bound) {j : Journal}
    (hfiles : s.loop.Files v.worker j.entries) : ServiceRun.DrainsWithin bound ⟨s, j⟩ where
  now_le C hC := Nat.sub_le_iff_le_add.1 (h.coordinator.notBefore C hC)
  outcome outcome houtcome := by
    have hphase := h.coordinator
    have hdone : s.phase = .done outcome := ServiceState.phase_eq_done houtcome
    rw [hdone] at hphase
    exact hfiles.of_result? hphase.1

end Runs

/-! ### A service to look at -/

namespace Handler

/-- A handler with one reply left gives it again and again. -/
theorem memoryAfter_stepwise (reply : Reply) (calls : List Call) :
    stepwise.memoryAfter ⟨reply, []⟩ calls = ⟨reply, []⟩ := by
  induction calls with
  | nil => rfl
  | cons call calls ih => exact ih

theorem lastsAtMost_stepwise (reply : Reply) :
    stepwise.LastsAtMost reply.duration ⟨reply, []⟩ := by
  intro calls call
  rw [memoryAfter_stepwise]
  exact Nat.min_le_left _ _

end Handler

/-- A service whose handler replies as a list says. -/
def Service.stepwise (grace : Nat) : Service Handler.Replies where
  worker :=
    { identity := { workerId := "worker-1" }, queue := "notifications", handler := .stepwise,
      tokens := fun _ => "token" }
  coordinator := ⟨"worker-1", grace⟩

/-- Two deliveries for a handler with one reply. -/
def Service.pair (reply : Reply) : ServiceState Handler.Replies :=
  .start { memory := ⟨reply, []⟩ } [.refused, .refused] true

/-- While a call runs, and the grace period too, time may pass. -/
theorem allows_elapse {v : Service σ} {s : ServiceState σ} {job : Job} {n : UInt32}
    {since deadline time : Nat} {reply : Reply}
    (hloop : s.loop.phase = .working (.calling job n since reply))
    (hphase : s.phase = .draining deadline) (hends : s.world.now + time ≤ reply.endsAt since)
    (hdeadline : s.world.now + time ≤ deadline) : v.Allows s (.elapse time) := by
  obtain ⟨world, source, ⟨phase, tally⟩, phase', turn, timers⟩ := s
  obtain rfl : phase = .working (.calling job n since reply) := hloop
  obtain rfl : phase' = .draining deadline := hphase
  refine ⟨rfl, fun t ht p => ?_⟩
  have hlt : world.now + t < world.now + time := Nat.add_lt_add_left ht _
  cases p with
  | loop =>
    have hnot : ¬reply.endsAt since ≤ world.now + t := Nat.not_le.2 (Nat.lt_of_lt_of_le hlt hends)
    exact decide_eq_false hnot
  | coordinator =>
    have hnot : ¬deadline ≤ world.now + t := Nat.not_le.2 (Nat.lt_of_lt_of_le hlt hdeadline)
    exact decide_eq_false hnot

/-- The first call asks for shutdown and comes to its end within the grace period. -/
theorem exists_prompt_called (grace : Nat) (reply : Reply) (hcancels : reply.cancels = true)
    (hle : (Handler.asleep reply).duration ≤ grace) :
    ∃ events job turn j,
      (Service.stepwise grace).IsPrompt ⟨Service.pair reply, []⟩ events ∧
      (Service.stepwise grace).play (Service.pair reply) events =
        ⟨{ world :=
             { now := (Handler.asleep reply).endsAt 0, cancelAt := some 0, drawn := 1
               memory := ⟨reply, []⟩ }
           source := { Source.ofDeliveries [.refused] true with isStopped := true }
           loop := { phase := .working (.calling job 1 0 (Handler.asleep reply)) }
           phase := .draining (0 + grace)
           turn }, j⟩ := by
  obtain ⟨result, duration, cancels, logs⟩ := reply
  obtain rfl : cancels = true := hcancels
  let v := Service.stepwise grace
  let start := Service.pair { result, duration, cancels := true, logs }
  let taken := v.play start (List.replicate 3 (.fire .loop))
  let more : List Service.Event :=
    [.fire .loop, .fire .coordinator, .fire .coordinator, .elapse (min duration longestWait)]
  have hreceived := follow_received v taken decode_refused rfl rfl
  have hplay : v.play start (List.replicate 4 (.fire .loop) ++ more) =
      more.foldl (ServiceRun.follow v) (taken.follow v (.fire .loop)) := v.play_append start _ more
  have hprompt : v.IsPrompt (taken.follow v (.fire .loop)) more := by
    rw [hreceived]
    exact ⟨trivial, trivial, trivial,
      allows_elapse rfl rfl (Nat.le_refl _) (Nat.add_le_add_left hle 0), trivial⟩
  rw [hreceived] at hplay
  refine ⟨List.replicate 4 (.fire .loop) ++ more, _, _, _, ?_, hplay.trans rfl⟩
  exact ⟨trivial, trivial, trivial, trivial, hprompt⟩

/-- The answer to a call that is over is looked at. -/
theorem follow_answered (v : Service σ) (run : ServiceRun σ) {job : Job} {n : UInt32}
    {since : Nat} {reply : Reply}
    (hp : run.state.loop.phase = .working (.calling job n since reply))
    (ha : run.state.isAbandoned = false) (hdue : reply.endsAt since ≤ run.state.world.now) :
    run.follow v (.fire .loop) =
      let progress := v.worker.conclusion run.state.world job n reply.result
      ⟨{ run.state with
          world := progress.world
          loop := run.state.loop.afterStage progress.stage
          turn := .loop
          timers := v.timersAfterStep run.state },
        run.journal ++ stamp run.state.world.now progress.entries⟩ := by
  simp only [ServiceRun.follow, Service.fire, v.loopStep_of_isAbandoned_eq_false ha, Loop.step, hp,
    Loop.work, Worker.step, hdue, if_true]

/-! ### Graceful shutdown -/

/-- **Graceful shutdown.**  Let no call last longer than the bound, and the grace period be longer
than it.  Then, from its very beginning and from wherever a run without delay has come to, the
service is done no later than the bound after the beginning of shutdown, and its loop has ended by
itself, unless the handler broke down; the grace period never runs out.  No attempt is made at a
delivery handed out after shutdown has begun, however the parties take turns and whatever time
passes. -/
theorem drains_play (v : Service σ) (world : World σ) (queue : List Delivery) (holdsOpen : Bool)
    (bound : Nat) (hw : v.worker.heedsShutdown = true)
    (hlasts : v.worker.handler.LastsAtMost bound world.memory)
    (hbound : bound < v.coordinator.grace)
    (hworld : world.NotBefore world.now) :
    let start := ServiceState.start world queue holdsOpen
    (∀ events, v.IsPrompt ⟨start, []⟩ events →
      let run := v.play start events
      let rest := v.run run.state
      run.DrainsWithin bound ∧
      ServiceRun.DrainsWithin bound ⟨rest.state, run.journal ++ rest.journal⟩ ∧
      (rest.state.world.cancelAt.isSome = true → rest.state.outcome?.isSome = true) ∧
      (∀ C, run.state.world.cancelAt = some C → rest.state.world.CancelsBy C)) ∧
    (∀ events more,
      let run := v.play start events
      run.state.world.isCancelled = true →
      ∀ c ∈ (v.play start (events ++ more)).docket.closed.drop run.docket.deliveries.length,
        c.IsUntried) := by
  intro start
  refine ⟨?_, fun events more => isUntried_play v world queue holdsOpen hw events more⟩
  intro events hprompt run rest
  have hstart : start.IsTimely v bound := ⟨hlasts, (fun _ _ h => by cases h), hworld⟩
  have htimely : run.state.IsTimely v bound :=
    isTimely_foldl events hstart (sound_start v world queue holdsOpen) (files_start v.worker) hw
      hbound hprompt
  have hfiles : run.state.loop.Files v.worker run.journal.entries :=
    files_play v world queue holdsOpen events
  obtain ⟨more, hmore, hmatches, hjournal⟩ :=
    Service.exists_prompt_run (v := v) (.refl run.state) run.journal
  have hrest : rest.state.IsTimely v bound :=
    hmatches.isTimely (isTimely_foldl more htimely (sound_play v world queue holdsOpen events)
      hfiles hw hbound hmore)
  have hfilesRest : rest.state.loop.Files v.worker (run.journal ++ rest.journal).entries := by
    have hend := files_foldl (v := v) more hfiles
    rwa [hjournal, ← hmatches.loop_eq] at hend
  have hcancel : ∀ C, run.state.world.cancelAt = some C → rest.state.world.CancelsBy C := by
    intro C hC
    have hby := cancelsBy_foldl (v := v) more ⟨C, hC, Nat.le_refl C⟩
    rwa [← hmatches.world_eq] at hby
  exact ⟨htimely.drainsWithin hfiles, hrest.drainsWithin hfilesRest,
    fun hcancel => hrest.isSome_outcome? hcancel (Service.end_run hfiles).2, hcancel⟩

/-- The first call asks for shutdown, takes three seconds and fails: there is no wait for another
one, and the other delivery stays in the queue. -/
theorem drains_play_interrupted :
    let v := Service.stepwise 10000
    let reply : Reply :=
      { result := .failed (.transient "busy"), duration := 3000, cancels := true }
    let start := Service.pair reply
    v.worker.handler.LastsAtMost 3000 start.world.memory ∧
      ∃ events, v.IsPrompt ⟨start, []⟩ events ∧
        let run := v.play start events
        run.DrainsWithin 3000 ∧ run.state.outcome? = some (.loopFinished { requeued := 1 }) ∧
          run.state.world.cancelAt = some 0 ∧ run.state.world.now = 3000 := by
  intro v reply start
  have hlasts : v.worker.handler.LastsAtMost 3000 start.world.memory :=
    Handler.lastsAtMost_stepwise reply
  have hends : (Handler.asleep reply).endsAt 0 = 3000 := by decide
  obtain ⟨events, job, turn, j, hprompt, hplay⟩ :=
    exists_prompt_called 10000 reply rfl (by decide)
  let more : List Service.Event :=
    [.fire .loop, .fire .loop, .fire .loop, .fire .loop, .fire .coordinator]
  have hprompt : v.IsPrompt ⟨start, []⟩ (events ++ more) :=
    Service.isPrompt_append.2 ⟨hprompt, trivial, trivial, trivial, trivial, trivial, trivial⟩
  have hrun : v.play start (events ++ more) =
      more.foldl (ServiceRun.follow v) (v.play start events) := v.play_append start events more
  rw [hplay, List.foldl_cons, follow_answered _ _ rfl rfl (Nat.le_refl _)] at hrun
  obtain ⟨hruns, -⟩ := drains_play v start.world [.refused, .refused] true 3000 rfl hlasts
    (by decide) (fun C hC => by cases hC)
  refine ⟨hlasts, events ++ more, hprompt, (hruns _ hprompt).1, ?_⟩
  rw [hrun]
  exact ⟨rfl, rfl, hends⟩

/-- A handler that breaks down ends the loop, and then the loop has not finished. -/
theorem outcome_play_ne :
    let v := Service.stepwise 10000
    let reply : Reply := { result := .panicked "boom", duration := 5, cancels := true }
    let start := Service.pair reply
    v.worker.handler.LastsAtMost 5 start.world.memory ∧ 5 < v.coordinator.grace ∧
      ∃ events, v.IsPrompt ⟨start, []⟩ events ∧
        let run := v.play start events
        run.state.world.cancelAt = some 0 ∧
          ∃ reason, run.state.outcome? = some (.loopFailed reason) := by
  intro v reply start
  obtain ⟨events, job, turn, j, hprompt, hplay⟩ :=
    exists_prompt_called 10000 reply rfl (by decide)
  let more : List Service.Event := [.fire .loop, .fire .coordinator]
  have hrun : v.play start (events ++ more) =
      more.foldl (ServiceRun.follow v) (v.play start events) := v.play_append start events more
  have hmore : v.IsPrompt ⟨start, []⟩ (events ++ more) :=
    Service.isPrompt_append.2 ⟨hprompt, trivial, trivial, trivial⟩
  rw [hplay, List.foldl_cons, follow_answered _ _ rfl rfl (Nat.le_refl _)] at hrun
  refine ⟨Handler.lastsAtMost_stepwise reply, by decide, events ++ more, hmore, ?_⟩
  rw [hrun]
  exact ⟨rfl, _, rfl⟩

end Courier
