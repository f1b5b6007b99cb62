import Courier.Proofs.Service.Prompt
import Courier.Proofs.Service.Timely
import Courier.Proofs.Service.Watch

/-!
# The coordinator on its own and in a service

`Coordinator.attend` knows of the loop only what a `Prospect` says.  Is that what the coordinator of
a service does?  A run of a service shows when its loop ends, how, and when shutdown begins; the
prospect that says just this (`Prospect.Foretells`) exists for every run
(`Prospect.exists_foretells`).

If nothing happens at the same moment, the coordinator of a run without delay does what it does
under that prospect (`attend_of_play`).  Every event keeps the two together (`Watch.Reflects`): a
step of the loop leaves the coordinator where it is, a step of the coordinator is one that it makes
on its own (`Prospect.Tells.like_step`), and time does not pass the moment for which it waits
(`Watch.Reflects.elapse`).
-/

namespace Courier

variable {σ : Type}

/-! ### The loop leaves the coordinator's affairs alone -/

/-- Two sources answer the request to stop in the same way. -/
structure Source.AnswersLike (s s' : Source) : Prop where
  refusal_eq : s'.stopRefusal = s.stopRefusal
  delay_eq : s'.stopDelay = s.stopDelay

namespace Source

variable {s s' s'' rest : Source} {item : Item}

theorem AnswersLike.refl (s : Source) : s.AnswersLike s := ⟨rfl, rfl⟩

theorem AnswersLike.trans (h : s.AnswersLike s') (h' : s'.AnswersLike s'') : s.AnswersLike s'' :=
  ⟨h'.refusal_eq.trans h.refusal_eq, h'.delay_eq.trans h.delay_eq⟩

theorem AnswersLike.answer_eq (h : s.AnswersLike s') : s'.stop.1 = s.stop.1 := by
  unfold stop
  rw [h.refusal_eq]
  cases s.stopRefusal <;> rfl

/-- A source that was asked to stop answers as before. -/
theorem answersLike_stop (s : Source) : s.AnswersLike s.stop.2 := by
  unfold stop
  split
  · exact ⟨rfl, rfl⟩
  · exact ⟨rfl, rfl⟩

theorem AnswersLike.symm (h : s.AnswersLike s') : s'.AnswersLike s :=
  ⟨h.refusal_eq.symm, h.delay_eq.symm⟩

theorem AnswersLike.stop (h : s.AnswersLike s') : s.stop.2.AnswersLike s'.stop.2 :=
  (s.answersLike_stop.symm.trans h).trans s'.answersLike_stop

theorem answersLike_of_pullStopped (h : s.pullStopped = .now item rest) : s.AnswersLike rest := by
  unfold pullStopped at h
  split at h
  · cases h
  · cases h
    exact ⟨rfl, rfl⟩

theorem answersLike_of_take (h : s.take = .now item rest) : s.AnswersLike rest := by
  unfold take at h
  split at h
  · exact answersLike_of_pullStopped h
  · split at h
    · split at h
      · cases h
      · cases h
    · cases h
      exact ⟨rfl, rfl⟩

theorem answersLike_of_pop (h : s.pop = .now item rest) : s.AnswersLike rest := by
  unfold pop at h
  split at h
  · split at h
    · cases h
    · cases h
  · split at h
    · cases h
      exact ⟨rfl, rfl⟩
    · cases h

end Source

namespace Loop

variable {w : Worker σ} {world : World σ} {source : Source} {loop : Loop}

/-- What the loop does to its source, and what it writes, is nothing that the coordinator does. -/
structure Abstains (source : Source) (progress : LoopProgress σ) : Prop where
  answersLike : source.AnswersLike progress.source
  stopTimes_eq : ∀ time, (stamp time progress.entries).stopTimes = []
  abandonTimes_eq : ∀ time, (stamp time progress.entries).abandonTimes = []

theorem abstains_accept {pull : Pull}
    (h : ∀ item rest, pull = .now item rest → source.AnswersLike rest) :
    Abstains source (loop.accept w world source pull) := by
  cases pull with
  | closed => exact ⟨.refl source, fun _ => rfl, fun _ => rfl⟩
  | held => exact ⟨.refl source, fun _ => rfl, fun _ => rfl⟩
  | later wait => exact ⟨.refl source, fun _ => rfl, fun _ => rfl⟩
  | now item rest =>
    have hrest := h item rest rfl
    cases item with
    | delivery d => exact ⟨hrest, fun _ => rfl, fun _ => rfl⟩
    | fault reason => exact ⟨hrest, fun _ => rfl, fun _ => rfl⟩

theorem abstains_step : Abstains source (loop.step w world source) := by
  have hsame {loop' : Loop} {world' : World σ} :
      Abstains source ⟨world', source, loop', []⟩ := ⟨.refl source, fun _ => rfl, fun _ => rfl⟩
  obtain ⟨phase, tally⟩ := loop
  cases phase with
  | idle => exact ⟨.refl source, fun _ => rfl, fun _ => rfl⟩
  | pulling =>
    simp only [step]
    split
    · exact abstains_accept fun _ _ => Source.answersLike_of_pullStopped
    · exact hsame
  | popping => exact abstains_accept fun _ _ => Source.answersLike_of_pop
  | awaiting until_ =>
    simp only [step]
    split
    · exact abstains_accept fun _ _ => Source.answersLike_of_take
    · exact hsame
  | holding => exact abstains_accept fun _ _ => Source.answersLike_of_take
  | working stage =>
    have hinner {time : Nat} {f : Stamped → Option Nat}
        (hf : ∀ e : Entry, e.isInner = true → f ⟨time, e⟩ = none) :
        (stamp time (w.step world stage).entries).filterMap f = [] := by
      rw [stamp, List.filterMap_map]
      exact w.filterMap_step hf world stage
    refine ⟨.refl source, fun time => hinner fun e he => ?_, fun time => hinner fun e he => ?_⟩
    · cases e
      case stopAsked => cases he
      all_goals rfl
    · cases e
      case abandoned => cases he
      all_goals rfl
  | ended => exact hsame
  | failed text => exact hsame

theorem abstains_loopStep (v : Service σ) (s : ServiceState σ) :
    Abstains s.source (v.loopStep s) := by
  unfold Service.loopStep
  split
  · exact ⟨.refl s.source, fun _ => rfl, fun _ => rfl⟩
  · exact abstains_step

end Loop

/-! ### What a run shows of its loop -/

namespace Prospect

/-- The prospect says what a state shows: how the loop ended, if it has, and when shutdown began.
What has not happened yet lies ahead. -/
structure Tells (p : Prospect) (s : ServiceState σ) : Prop where
  ended : ∀ outcome, s.loop.result? = some outcome →
    p.outcome = outcome ∧ ∃ L, p.endsAt = some L ∧ L ≤ s.world.now
  running : s.loop.result? = none → ∀ L, p.endsAt = some L → s.world.now ≤ L
  cancelled : s.world.isCancelled = true → p.cancelAt = s.world.cancelAt
  quiet : s.world.isCancelled = false → ∀ C, p.cancelAt = some C → s.world.now ≤ C

/-- The prospect says what a run shows from beginning to end. -/
def Foretells (p : Prospect) (v : Service σ) : ServiceRun σ → List Service.Event → Prop
  | run, [] => p.Tells run.state
  | run, event :: events => p.Tells run.state ∧ p.Foretells v (run.follow v event) events

/-- The loop ends neither as shutdown begins nor as the grace period runs out. -/
def IsClear (p : Prospect) (grace : Nat) : Prop :=
  ∀ L C, p.endsAt = some L → p.cancelAt = some C → L ≠ C ∧ L ≠ C + grace

theorem Foretells.tells {p : Prospect} {v : Service σ} {run : ServiceRun σ}
    {events : List Service.Event} (h : p.Foretells v run events) : p.Tells run.state := by
  cases events with
  | nil => exact h
  | cons event events => exact h.1

end Prospect

/-- The earlier one of two times does not lie behind the second one. -/
theorem le_of_map_earlier {a : Option Nat} {b now time : Nat}
    (h : (Prospect.earlier a (some b)).map (max now) = some time) : time ≤ max now b := by
  cases a with
  | none =>
    obtain rfl := Option.some.inj h
    exact Nat.le_refl _
  | some a =>
    obtain rfl := Option.some.inj h
    exact Nat.max_le.2
      ⟨Nat.le_max_left _ _, Nat.le_trans (Nat.min_le_right a b) (Nat.le_max_right _ _)⟩

/-! ### Every run is foretold -/

/-- One state may come before another: time has not gone back, and neither the end of the loop nor
the beginning of shutdown has been taken back. -/
structure ServiceState.Precedes (s s' : ServiceState σ) : Prop where
  now_le : s.world.now ≤ s'.world.now
  result?_eq : ∀ outcome, s.loop.result? = some outcome → s'.loop.result? = some outcome
  cancelled : s.world.isCancelled = true →
    s'.world.isCancelled = true ∧ s'.world.cancelAt = s.world.cancelAt
  quiet : s.world.isCancelled = false → s'.world.NotBefore s.world.now

theorem ServiceState.precedes_of_sameTime {s s' : ServiceState σ} (h : s.world.SameTime s'.world)
    (hresult : ∀ outcome, s.loop.result? = some outcome → s'.loop.result? = some outcome) :
    s.Precedes s' where
  now_le := Nat.le_of_eq h.now_eq.symm
  result?_eq := hresult
  cancelled hc := by
    obtain ⟨C, hC, hle⟩ := isCancelled_iff.1 hc
    have hC' : s'.world.cancelAt = some C := h.cancelAt_eq_some hC hle
    have hle' : C ≤ s'.world.now := h.now_eq.symm ▸ hle
    exact ⟨isCancelled_iff.2 ⟨C, hC', hle'⟩, hC'.trans hC.symm⟩
  quiet hc := (World.notBefore_now hc).of_sameTime (Nat.le_refl _) h

/-- Every event leads to a later state. -/
theorem precedes_follow (v : Service σ) (run : ServiceRun σ) (event : Service.Event) :
    run.state.Precedes (run.follow v event).state := by
  have hstays : ∀ outcome, run.state.loop.result? = some outcome →
      run.state.loop.result? = some outcome := fun _ => id
  cases event with
  | fire p first =>
    cases p with
    | loop =>
      exact ServiceState.precedes_of_sameTime (v.sameTime_loopStep run.state)
        fun _ hr => (congrArg Loop.result? (Service.loopStep_of_result? hr)).trans hr
    | coordinator => exact ServiceState.precedes_of_sameTime (.refl _) hstays
  | cancel => exact ServiceState.precedes_of_sameTime run.state.world.sameTime_cancel hstays
  | elapse time =>
    exact ⟨Nat.le_add_right _ _, hstays, fun hc => ⟨isCancelled_at hc (Nat.le_add_right _ _), rfl⟩,
      World.notBefore_now⟩

namespace Prospect

variable {p : Prospect} {v : Service σ} {s : ServiceState σ} {run : ServiceRun σ}
  {events : List Service.Event} {outcome : ShutdownOutcome} {L : Nat}

/-- A loop that is over may have ended earlier. -/
theorem Tells.earlier (h : p.Tells s) (hr : s.loop.result? = some outcome)
    (hL : L ≤ s.world.now) : ({ p with endsAt := some L } : Prospect).Tells s where
  ended outcome ho := ⟨(h.ended outcome ho).1, L, rfl, hL⟩
  running hnone := by
    rw [hr] at hnone
    cases hnone
  cancelled := h.cancelled
  quiet := h.quiet

theorem Foretells.earlier (h : p.Foretells v run events)
    (hr : run.state.loop.result? = some outcome) (hL : L ≤ run.state.world.now) :
    ({ p with endsAt := some L } : Prospect).Foretells v run events := by
  induction events generalizing run with
  | nil => exact Tells.earlier h hr hL
  | cons event events ih =>
    have hprecedes := precedes_follow v run event
    exact ⟨Tells.earlier h.1 hr hL,
      ih h.2 (hprecedes.result?_eq outcome hr) (Nat.le_trans hL hprecedes.now_le)⟩

/-- A loop ends with its counts, or with a reason. -/
theorem exists_result {loop : Loop} (h : loop.result? = some outcome) :
    ∃ result, Prospect.outcome { result } = outcome := by
  unfold Loop.result? at h
  split at h
  · exact ⟨.ok loop.tally, Option.some.inj h⟩
  · rename_i text _
    exact ⟨.error _, Option.some.inj h⟩
  · cases h

/-- Some prospect says what a state shows; a loop that is over has ended just now. -/
theorem exists_tells (s : ServiceState σ) :
    ∃ p : Prospect, p.Tells s ∧
      ∀ outcome, s.loop.result? = some outcome → p.endsAt = some s.world.now := by
  let cancelAt := if s.world.isCancelled then s.world.cancelAt else none
  have hcancelled : s.world.isCancelled = true → cancelAt = s.world.cancelAt :=
    fun hc => if_pos hc
  have hquiet : s.world.isCancelled = false → ∀ C, cancelAt = some C → s.world.now ≤ C := by
    intro hc C hC
    simp only [cancelAt, hc, Bool.false_eq_true, if_false] at hC
    cases hC
  cases hr : s.loop.result? with
  | none =>
    refine ⟨{ cancelAt }, ⟨?_, ?_, hcancelled, hquiet⟩, ?_⟩
    · intro outcome ho
      rw [hr] at ho
      cases ho
    · intro _ L hL
      cases hL
    · intro outcome ho
      cases ho
  | some outcome =>
    obtain ⟨result, hresult⟩ := exists_result hr
    refine ⟨{ endsAt := some s.world.now, result, cancelAt }, ⟨?_, ?_, hcancelled, hquiet⟩,
      fun _ _ => rfl⟩
    · intro outcome' ho
      exact ⟨hresult.trans (Option.some.inj (hr.symm.trans ho)), _, rfl, Nat.le_refl _⟩
    · intro hnone
      rw [hr] at hnone
      cases hnone

/-- Every run is foretold; a loop that is over at the beginning ends then. -/
theorem exists_foretells (v : Service σ) (run : ServiceRun σ) (events : List Service.Event) :
    ∃ p : Prospect, p.Foretells v run events ∧
      ∀ outcome, run.state.loop.result? = some outcome → p.endsAt = some run.state.world.now := by
  induction events generalizing run with
  | nil => exact exists_tells run.state
  | cons event events ih =>
    obtain ⟨p, hp, hends⟩ := ih (run.follow v event)
    have hprecedes := precedes_follow v run event
    have hcancelled (hc : run.state.world.isCancelled = true) :
        p.cancelAt = run.state.world.cancelAt := by
      obtain ⟨hc', heq⟩ := hprecedes.cancelled hc
      exact (hp.tells.cancelled hc').trans heq
    have hquiet (hc : run.state.world.isCancelled = false) :
        ∀ C, p.cancelAt = some C → run.state.world.now ≤ C := by
      intro C hC
      cases hc' : (run.follow v event).state.world.isCancelled with
      | true => exact hprecedes.quiet hc C ((hp.tells.cancelled hc').symm.trans hC)
      | false => exact Nat.le_trans hprecedes.now_le (hp.tells.quiet hc' C hC)
    cases hr : run.state.loop.result? with
    | some outcome =>
      have hr' := hprecedes.result?_eq outcome hr
      refine ⟨{ p with endsAt := some run.state.world.now }, ⟨⟨?_, ?_, hcancelled, hquiet⟩,
        hp.earlier hr' hprecedes.now_le⟩, fun _ _ => rfl⟩
      · intro outcome' ho
        exact ⟨(hp.tells.ended outcome' (hprecedes.result?_eq outcome' ho)).1, _, rfl,
          Nat.le_refl _⟩
      · intro hnone
        rw [hr] at hnone
        cases hnone
    | none =>
      refine ⟨p, ⟨⟨?_, ?_, hcancelled, hquiet⟩, hp⟩, fun _ ho => by cases ho⟩
      · intro outcome ho
        rw [hr] at ho
        cases ho
      · intro _ L hL
        refine Nat.le_trans hprecedes.now_le ?_
        cases hr' : (run.follow v event).state.loop.result? with
        | none => exact hp.tells.running hr' L hL
        | some outcome =>
          exact Nat.le_of_eq (Option.some.inj ((hends outcome hr').symm.trans hL))

end Prospect

/-! ### The same step on its own and in a service -/

/-- What is known of a phase that began at the given time: nothing had happened before, or shutdown
began then, and so did the grace period. -/
def CoordinatorPhase.BeganAt (p : Prospect) (grace now : Nat) : CoordinatorPhase → Prop
  | .watching => (∀ C, p.cancelAt = some C → now ≤ C) ∧ ∀ L, p.endsAt = some L → now ≤ L
  | .stopping answersAt _ => p.cancelAt = some now ∧ answersAt = some now
  | .draining deadline => p.cancelAt = some now ∧ deadline = now + grace
  | .done _ => True

/-- Two steps made at the given time lead to the same phase through the same entries. -/
structure CoordinatorProgress.Like (p : Prospect) (grace now : Nat)
    (progress progress' : CoordinatorProgress) : Prop where
  phase_eq : progress'.phase = progress.phase
  entries_eq : progress'.entries = progress.entries
  answersLike : progress.source.AnswersLike progress'.source
  beganAt : progress.phase.BeganAt p grace now
  delay_eq : progress.source.stopDelay = some 0

namespace Coordinator

variable {c : Coordinator} {p : Prospect} {source source' : Source}
  {answer : Except WorkerError Unit} {grace now : Nat} (h : source.AnswersLike source')
  (hs : source.stopDelay = some 0)

include h hs

theorem like_join (outcome : ShutdownOutcome) :
    (c.join source outcome).Like p grace now (c.join source' outcome) := by
  cases outcome with
  | loopFinished _ | graceElapsed | loopFailed _ => exact ⟨rfl, rfl, h, trivial, hs⟩

theorem like_requestStop (hC : p.cancelAt = some now) :
    (c.requestStop now source).Like p grace now (c.requestStop now source') := by
  refine ⟨?_, rfl, h.stop, ⟨hC, ?_⟩, source.answersLike_stop.delay_eq.trans hs⟩
  · show CoordinatorPhase.stopping (source'.stopDelay.map (now + ·)) source'.stop.1 =
      .stopping (source.stopDelay.map (now + ·)) source.stop.1
    rw [h.answer_eq, h.delay_eq]
  · rw [hs]
    rfl

theorem like_beginGrace (hC : p.cancelAt = some now) :
    (c.beginGrace now source answer).Like p c.grace now (c.beginGrace now source' answer) :=
  ⟨rfl, rfl, h, ⟨hC, rfl⟩, hs⟩

theorem like_abandon : (c.abandon source).Like p grace now (c.abandon source') :=
  ⟨rfl, rfl, h, trivial, hs⟩

end Coordinator

namespace Prospect.Tells

variable {p : Prospect} {s : ServiceState σ} {phase : CoordinatorPhase} {time later : Nat}

theorem result?_view (h : p.Tells s) {outcome : ShutdownOutcome}
    (hr : s.loop.result? = some outcome) : (p.view s.world.now).result? = some outcome := by
  obtain ⟨houtcome, L, hL, hle⟩ := h.ended outcome hr
  rw [Coordinator.result?_view hL hle, houtcome]

theorem result?_view_eq_none (h : p.Tells s) (hr : s.loop.result? = none)
    (hne : ∀ L, p.endsAt = some L → L ≠ s.world.now) : (p.view s.world.now).result? = none :=
  Coordinator.result?_view_eq_none fun L hL =>
    Nat.lt_of_le_of_ne (h.running hr L hL) (Ne.symm (hne L hL))

theorem isCancelled_view (h : p.Tells s) (hc : s.world.isCancelled = true) :
    (p.view s.world.now).isCancelled = true := by
  rw [CoordinatorView.isCancelled, Prospect.view, h.cancelled hc]
  exact hc

/-- A coordinator that is ready in the service is so on its own. -/
theorem isReady (h : p.Tells s)
    (hready : Coordinator.isReady (s.loop.view s.world) phase = true) :
    Coordinator.isReady (p.view s.world.now) phase = true := by
  have hresult (hsome : s.loop.result?.isSome = true) :
      (p.view s.world.now).result?.isSome = true := by
    obtain ⟨outcome, hr⟩ := Option.isSome_iff_exists.1 hsome
    rw [h.result?_view hr]
    rfl
  cases phase with
  | watching =>
    refine Bool.or_eq_true_iff.2 ?_
    rcases Bool.or_eq_true_iff.1 hready with hsome | hcancelled
    · exact Or.inl (hresult hsome)
    · exact Or.inr (h.isCancelled_view hcancelled)
  | stopping answersAt answer => exact hready
  | draining deadline =>
    refine Bool.or_eq_true_iff.2 ?_
    rcases Bool.or_eq_true_iff.1 hready with hsome | hdue
    · exact Or.inl (hresult hsome)
    · exact Or.inr hdue
  | done outcome => cases hready

/-- A coordinator that was ready on its own some time ago was so in the service. -/
theorem isReady_of_lt (h : p.Tells { s with world := s.world.at later }) (hlt : time < later)
    (hready : Coordinator.isReady (p.view time) phase = true) :
    Coordinator.isReady (s.loop.view (s.world.at time)) phase = true := by
  have hresult (hsome : (p.view time).result?.isSome = true) : s.loop.result?.isSome = true := by
    apply Option.isSome_iff_ne_none.2
    intro hr
    have hnone : (p.view time).result? = none :=
      Coordinator.result?_view_eq_none fun L hL => Nat.lt_of_lt_of_le hlt (h.running hr L hL)
    rw [hnone] at hsome
    cases hsome
  cases phase with
  | watching =>
    refine Bool.or_eq_true_iff.2 ?_
    rcases Bool.or_eq_true_iff.1 hready with hsome | hcancelled
    · exact Or.inl (hresult hsome)
    · refine Or.inr ?_
      obtain ⟨C, hC, hle⟩ := Option.any_eq_true _ _ |>.1 hcancelled
      have hle : C ≤ time := of_decide_eq_true hle
      have hbegun : (s.world.at later).isCancelled = true := by
        apply Bool.of_not_eq_false
        intro hquiet
        exact absurd (h.quiet hquiet C hC) (Nat.not_le.2 (Nat.lt_of_le_of_lt hle hlt))
      exact isCancelled_iff.2 ⟨C, (h.cancelled hbegun).symm.trans hC, hle⟩
  | stopping answersAt answer => exact hready
  | draining deadline =>
    refine Bool.or_eq_true_iff.2 ?_
    rcases Bool.or_eq_true_iff.1 hready with hsome | hdue
    · exact Or.inl (hresult hsome)
    · exact Or.inr hdue
  | done outcome => cases hready

/-- If nothing happens at the same moment, the coordinator does in a service what it does on its own
at that time. -/
theorem like_step {c : Coordinator} {source : Source} {began : Nat} (ht : p.Tells s)
    (hclear : p.IsClear c.grace) (h : source.AnswersLike s.source)
    (hs : source.stopDelay = some 0) (hbegan : phase.BeganAt p c.grace began)
    (hready : Coordinator.isReady (s.loop.view s.world) phase = true)
    (hwake : p.wakeAt began phase = some s.world.now) (first first' : Glance) :
    (c.step first (p.view s.world.now) source phase).Like p c.grace s.world.now
      (c.step first' (s.loop.view s.world) s.source phase) := by
  cases phase with
  | watching =>
    obtain ⟨hcancels, hends⟩ := hbegan
    cases hr : s.loop.result? with
    | some outcome =>
      obtain ⟨-, L, hL, hle⟩ := ht.ended outcome hr
      -- The coordinator is woken by the end of the loop, and by nothing else.
      have hquiet : (p.view s.world.now).isCancelled = false := by
        refine Coordinator.isCancelled_view_eq_false fun C hC => ?_
        have hwoken : max began (min L C) = s.world.now := by
          rw [wakeAt, hL, hC] at hwake
          exact Option.some.inj hwake
        have hne : L ≠ C := (hclear L C hL hC).1
        have hbegan := Nat.le_min.2 ⟨hends L hL, hcancels C hC⟩
        omega
      have hquiet' : (s.loop.view s.world).isCancelled = false := by
        apply Bool.eq_false_iff.2
        intro hcancelled
        rw [ht.isCancelled_view hcancelled] at hquiet
        cases hquiet
      have hseen := (CoordinatorView.noticed_eq hquiet first).trans (ht.result?_view hr)
      have hseen' := (CoordinatorView.noticed_eq hquiet' first').trans hr
      rw [Coordinator.step_watching_of_noticed hseen, Coordinator.step_watching_of_noticed hseen']
      exact Coordinator.like_join h hs outcome
    | none =>
      have hcancelled : (s.loop.view s.world).isCancelled = true := by
        have hnone : (s.loop.view s.world).result? = none := hr
        rw [Coordinator.isReady, hnone] at hready
        exact hready
      obtain ⟨C, hC, hle⟩ := isCancelled_iff.1 hcancelled
      have hcancel : p.cancelAt = some C := (ht.cancelled hcancelled).trans hC
      -- The coordinator is woken by the beginning of shutdown, and by nothing else.
      have hnow : C = s.world.now := by
        rw [wakeAt, hcancel] at hwake
        have hlate : s.world.now ≤ max began C := le_of_map_earlier hwake
        rw [Nat.max_eq_right (hcancels C hcancel)] at hlate
        exact Nat.le_antisymm hle hlate
      have hfirst : (p.view s.world.now).result? = none :=
        ht.result?_view_eq_none hr fun L hL => hnow ▸ (hclear L C hL hcancel).1
      rw [Coordinator.step_watching_of_isCancelled (CoordinatorView.noticed_eq_none hfirst first)
          (ht.isCancelled_view hcancelled),
        Coordinator.step_watching_of_isCancelled (CoordinatorView.noticed_eq_none hr first')
          hcancelled]
      exact Coordinator.like_requestStop h hs (hcancel.trans (congrArg some hnow))
  | stopping answersAt answer =>
    obtain ⟨hC, rfl⟩ := hbegan
    have hnow : began = s.world.now := (Nat.max_self began).symm.trans (Option.some.inj hwake)
    rw [Coordinator.step_stopping (Nat.le_of_eq hnow),
      Coordinator.step_stopping (Nat.le_of_eq hnow)]
    exact Coordinator.like_beginGrace h hs (hC.trans (congrArg some hnow))
  | draining deadline =>
    obtain ⟨hC, rfl⟩ := hbegan
    cases hr : s.loop.result? with
    | some outcome =>
      rw [Coordinator.step_draining_of_result? (ht.result?_view hr),
        Coordinator.step_draining_of_result? hr]
      exact Coordinator.like_join h hs outcome
    | none =>
      have hdue : began + c.grace ≤ s.world.now := by
        have hnone : (s.loop.view s.world).result? = none := hr
        rw [Coordinator.isReady, hnone] at hready
        exact of_decide_eq_true hready
      -- The coordinator is woken by the end of the grace period, and by nothing else.
      have hnow : began + c.grace = s.world.now := by
        have hlate : s.world.now ≤ max began (began + c.grace) := le_of_map_earlier hwake
        rw [Nat.max_eq_right (Nat.le_add_right began c.grace)] at hlate
        exact Nat.le_antisymm hdue hlate
      have hfirst : (p.view s.world.now).result? = none :=
        ht.result?_view_eq_none hr fun L hL => hnow ▸ (hclear L began hL hC).2
      rw [Coordinator.step_draining_of_le hfirst hdue, Coordinator.step_draining_of_le hr hdue]
      exact Coordinator.like_abandon h hs
  | done outcome => cases hready

end Prospect.Tells

/-! ### The run on its own and in a service -/

/-- A coordinator on its own stands where that of a run stands, and did the same at the same times.
It has not been woken in the meantime. -/
structure Watch.Reflects (p : Prospect) (grace : Nat) (here : Watch) (run : ServiceRun σ) :
    Prop where
  phase_eq : run.state.phase = here.phase
  answersLike : here.source.AnswersLike run.state.source
  delay_eq : here.source.stopDelay = some 0
  stopTimes_eq : run.journal.stopTimes = here.journal.stopTimes
  abandonTimes_eq : run.journal.abandonTimes = here.journal.abandonTimes
  beganAt : here.phase.BeganAt p grace here.now
  now_le : here.now ≤ run.state.world.now
  le_wakeAt : ∀ time, p.wakeAt here.now here.phase = some time → run.state.world.now ≤ time
  now_eq : ∀ outcome, here.phase = .done outcome → here.now = run.state.world.now

namespace Watch.Reflects

variable {v : Service σ} {p : Prospect} {here : Watch} {run : ServiceRun σ}

/-- What the loop does leaves the coordinator where it is. -/
theorem fire_loop (h : here.Reflects p v.coordinator.grace run) (first : Glance) :
    here.Reflects p v.coordinator.grace (run.follow v (.fire .loop first)) := by
  have habstains : Loop.Abstains run.state.source (v.loopStep run.state) :=
    Loop.abstains_loopStep v run.state
  have hnow := (v.sameTime_loopStep run.state).now_eq
  simp only [ServiceRun.follow, Service.fire]
  generalize v.loopStep run.state = progress at habstains hnow ⊢
  refine ⟨h.phase_eq, h.answersLike.trans habstains.answersLike, h.delay_eq, ?_, ?_, h.beganAt,
    ?_, ?_, ?_⟩
  · rw [Journal.stopTimes_append, habstains.stopTimes_eq, List.append_nil]
    exact h.stopTimes_eq
  · rw [Journal.abandonTimes_append, habstains.abandonTimes_eq, List.append_nil]
    exact h.abandonTimes_eq
  · exact hnow.symm ▸ h.now_le
  · exact fun time hwake => hnow.symm ▸ h.le_wakeAt time hwake
  · exact fun outcome hphase => (h.now_eq outcome hphase).trans hnow.symm

/-- A step of the coordinator is one that it makes on its own, or none at all. -/
theorem fire_coordinator (h : here.Reflects p v.coordinator.grace run)
    (ht : p.Tells run.state) (hclear : p.IsClear v.coordinator.grace) (first first' : Glance) :
    ∃ there : Watch, v.coordinator.attend first p here = v.coordinator.attend first p there ∧
      there.Reflects p v.coordinator.grace (run.follow v (.fire .coordinator first')) := by
  let c := v.coordinator
  let s := run.state
  have hfollow : run.follow v (.fire .coordinator first') =
      let progress := c.step first' (s.loop.view s.world) s.source s.phase
      ⟨{ s with source := progress.source, phase := progress.phase, turn := .coordinator,
                timers := 0 },
        run.journal ++ stamp s.world.now progress.entries⟩ := rfl
  rw [hfollow]
  cases hready : Coordinator.isReady (s.loop.view s.world) s.phase with
  | false =>
    refine ⟨here, rfl, ?_⟩
    rw [Coordinator.step_of_isReady_eq_false hready]
    simp only [stamp, List.map_nil, List.append_nil]
    exact ⟨h.phase_eq, h.answersLike, h.delay_eq, h.stopTimes_eq, h.abandonTimes_eq, h.beganAt,
      h.now_le, h.le_wakeAt, h.now_eq⟩
  | true =>
    rw [h.phase_eq] at hready
    obtain ⟨time, hwake, hle⟩ := (p.isReady_iff_wakeAt here.phase h.now_le).1 (ht.isReady hready)
    obtain rfl : s.world.now = time := Nat.le_antisymm (h.le_wakeAt time hwake) hle
    have hlike :=
      ht.like_step hclear h.answersLike h.delay_eq h.beganAt hready hwake first first'
    refine ⟨c.advance first p s.world.now here, Coordinator.attend_of_wakeAt hwake, ?_⟩
    rw [Coordinator.advance, h.phase_eq]
    refine ⟨hlike.phase_eq, hlike.answersLike, hlike.delay_eq, ?_, ?_, hlike.beganAt,
      Nat.le_refl _, fun _ => Prospect.le_wakeAt, fun _ _ => rfl⟩
    · rw [Journal.stopTimes_append, Journal.stopTimes_append, h.stopTimes_eq, hlike.entries_eq]
    · rw [Journal.abandonTimes_append, Journal.abandonTimes_append, h.abandonTimes_eq,
        hlike.entries_eq]

/-- Time that passes does not take the coordinator past the time for which it waits. -/
theorem elapse (h : here.Reflects p v.coordinator.grace run) {time : Nat}
    (hallows : v.Allows run.state (.elapse time))
    (ht : p.Tells (run.follow v (.elapse time)).state) :
    here.Reflects p v.coordinator.grace (run.follow v (.elapse time)) := by
  obtain ⟨houtcome, hnot⟩ := hallows
  refine ⟨h.phase_eq, h.answersLike, h.delay_eq, h.stopTimes_eq, h.abandonTimes_eq, h.beganAt,
    Nat.le_trans h.now_le (Nat.le_add_right _ _), ?_, ?_⟩
  · intro wake hwake
    apply Nat.le_of_not_lt
    intro hlt
    have hle : run.state.world.now ≤ wake := h.le_wakeAt wake hwake
    have hown : Coordinator.isReady (p.view wake) here.phase = true :=
      (p.isReady_iff_wakeAt here.phase (Nat.le_trans h.now_le hle)).2
        ⟨wake, hwake, Nat.le_refl _⟩
    -- The coordinator of the run would have been ready, too.
    have hready := ht.isReady_of_lt (s := run.state) hlt hown
    have hnow : run.state.world.now + (wake - run.state.world.now) = wake :=
      Nat.add_sub_cancel' hle
    have hnot := hnot (wake - run.state.world.now) (Nat.sub_lt_left_of_lt_add hle hlt) .coordinator
    rw [Service.isReady, hnow, h.phase_eq, hready] at hnot
    cases hnot
  · intro outcome hphase
    rw [ServiceState.outcome?, h.phase_eq, hphase] at houtcome
    cases houtcome

theorem follow (h : here.Reflects p v.coordinator.grace run)
    (hclear : p.IsClear v.coordinator.grace) {event : Service.Event}
    (hallows : v.Allows run.state event) (ht : p.Tells run.state)
    (hnext : p.Tells (run.follow v event).state) (first : Glance) :
    ∃ there : Watch, v.coordinator.attend first p here = v.coordinator.attend first p there ∧
      there.Reflects p v.coordinator.grace (run.follow v event) := by
  cases event with
  | fire party first' =>
    cases party with
    | loop => exact ⟨here, rfl, h.fire_loop first'⟩
    | coordinator => exact h.fire_coordinator ht hclear first first'
  | cancel =>
    exact ⟨here, rfl, h.phase_eq, h.answersLike, h.delay_eq, h.stopTimes_eq, h.abandonTimes_eq,
      h.beganAt, h.now_le, h.le_wakeAt, h.now_eq⟩
  | elapse time => exact ⟨here, rfl, h.elapse hallows hnext⟩

theorem foldl (h : here.Reflects p v.coordinator.grace run) (hclear : p.IsClear v.coordinator.grace)
    {events : List Service.Event} (hprompt : v.IsPrompt run events)
    (hforetells : p.Foretells v run events) (first : Glance) :
    ∃ there : Watch, v.coordinator.attend first p here = v.coordinator.attend first p there ∧
      there.Reflects p v.coordinator.grace (events.foldl (ServiceRun.follow v) run) := by
  induction events generalizing run here with
  | nil => exact ⟨here, rfl, h⟩
  | cons event events ih =>
    obtain ⟨ht, hrest⟩ := hforetells
    obtain ⟨between, hattend, hreflects⟩ := h.follow hclear hprompt.1 ht hrest.tells first
    obtain ⟨there, hattend', hend⟩ := ih hreflects hprompt.2 hrest
    exact ⟨there, hattend.trans hattend', hend⟩

end Watch.Reflects

/-- **The coordinator of a service does what it does on its own.**  Take any run without delay of
any service whose source answers at once, and a prospect that foretells when its loop ends and when
shutdown begins.  If there are no ties, the coordinator of the run ends as it does under that
prospect, whatever either of them looks at first: in the same way and at the same time, having
stopped the source and given the loop up at the same times. -/
theorem attend_of_play {v : Service σ} {s : ServiceState σ} {p : Prospect}
    {events : List Service.Event} {outcome : ShutdownOutcome} (first : Glance)
    (hphase : s.phase = .watching) (hrunning : s.loop.result? = none)
    (hs : s.source.stopDelay = some 0) (hbefore : s.world.NotBefore s.world.now)
    (hprompt : v.IsPrompt ⟨s, []⟩ events) (hforetells : p.Foretells v ⟨s, []⟩ events)
    (hclear : p.IsClear v.coordinator.grace)
    (hdone : (v.play s events).state.phase = .done outcome) :
    let alone := v.coordinator.attend first p { source := s.source, now := s.world.now }
    alone.phase = .done outcome ∧ alone.now = (v.play s events).state.world.now ∧
      alone.journal.stopTimes = (v.play s events).journal.stopTimes ∧
      alone.journal.abandonTimes = (v.play s events).journal.abandonTimes := by
  intro alone
  have hquiet : ∀ C, p.cancelAt = some C → s.world.now ≤ C := by
    intro C hC
    cases hc : s.world.isCancelled with
    | true => exact hbefore C ((hforetells.tells.cancelled hc).symm.trans hC)
    | false => exact hforetells.tells.quiet hc C hC
  have hstart : Watch.Reflects p v.coordinator.grace { source := s.source, now := s.world.now }
      ⟨s, []⟩ :=
    ⟨hphase, .refl _, hs, rfl, rfl, ⟨hquiet, hforetells.tells.running hrunning⟩, Nat.le_refl _,
      fun _ => Prospect.le_wakeAt, fun _ h => by cases h⟩
  obtain ⟨there, hattend, h⟩ := hstart.foldl hclear hprompt hforetells first
  have hthere : there.phase = .done outcome := h.phase_eq.symm.trans hdone
  have halone : alone = there := by
    refine hattend.trans (Coordinator.attend_of_wakeAt_eq_none ?_)
    rw [hthere]
    rfl
  rw [halone]
  exact ⟨hthere, h.now_eq outcome hthere, h.stopTimes_eq.symm, h.abandonTimes_eq.symm⟩

end Courier
