import Courier.Service.Loop

/-!
# The shutdown coordinator

The coordinator watches the consume loop.  If shutdown begins before the loop has ended, it asks the
source to stop deliveries, waits for the answer, and then gives the delivery in flight a grace
period to come to its end.

All it sees is the clock, the beginning of shutdown, and how the loop ended (`CoordinatorView`).
`Coordinator.step` takes it one step further, `Coordinator.isReady` says when it can go further at
once.  While it watches, the loop may have ended and shutdown may have begun; which of them it
follows then depends on where it looks first (`Glance`).
-/

namespace Courier

/-- How the consume loop ended. -/
inductive ShutdownOutcome where
  /-- The source closed. -/
  | loopFinished (tally : Tally)
  /-- The grace period ran out, and the loop was abandoned. -/
  | graceElapsed
  /-- The loop broke down. -/
  | loopFailed (reason : String)
  deriving DecidableEq, Repr

/-- The outcome of a loop that is over. -/
def Loop.result? (loop : Loop) : Option ShutdownOutcome :=
  match loop.phase with
  | .ended => some (.loopFinished loop.tally)
  | .failed text => some (.loopFailed ("task # panicked with message " ++ quoted text))
  | _ => none

/-- How far the coordinator is. -/
inductive CoordinatorPhase where
  /-- Shutdown has not begun. -/
  | watching
  /-- The answer of the source comes at the given time, if it comes. -/
  | stopping (answersAt : Option Nat) (answer : Except WorkerError Unit)
  /-- The grace period runs until the given time. -/
  | draining (deadline : Nat)
  | done (outcome : ShutdownOutcome)

/-- What the coordinator sees. -/
structure CoordinatorView where
  /-- The clock, in milliseconds. -/
  now : Nat
  /-- The time at which shutdown begins or began, if it does. -/
  cancelAt : Option Nat
  /-- How the loop ended, if it has. -/
  result? : Option ShutdownOutcome

/-- Has shutdown begun? -/
def CoordinatorView.isCancelled (v : CoordinatorView) : Bool := v.cancelAt.any (· ≤ v.now)

/-- What the coordinator looks at first while it watches. -/
inductive Glance where
  | loop
  | shutdown
  deriving DecidableEq, Repr

/-- How the loop ended, as far as the coordinator notices while it watches: a shutdown that has begun
hides it from a coordinator that looks at shutdown first. -/
def CoordinatorView.noticed (v : CoordinatorView) : Glance → Option ShutdownOutcome
  | .loop => v.result?
  | .shutdown => if v.isCancelled then none else v.result?

/-- What there is to see of a world and a loop. -/
def Loop.view {σ : Type} (loop : Loop) (world : World σ) : CoordinatorView :=
  ⟨world.now, world.cancelAt, loop.result?⟩

/-- Who coordinates, and how long the grace period is, in milliseconds. -/
structure Coordinator where
  workerId : String
  grace : Nat

/-- What a step of the coordinator leads to, and what it did. -/
structure CoordinatorProgress where
  source : Source
  phase : CoordinatorPhase
  entries : List Entry

namespace Coordinator

/-! ### Log records -/

/-- A record of the coordinator. -/
def log (c : Coordinator) (level : Level) (message : String)
    (fields : List (String × FieldValue)) : Entry :=
  .logged none ⟨.shutdown, level, message, ("worker_id", .shown c.workerId) :: fields⟩

/-- The grace period in whole seconds, as the log shows it. -/
def graceField (c : Coordinator) : String × FieldValue := ("grace_secs", .number (c.grace / 1000))

/-! ### Steps -/

/-- The loop is over. -/
def join (c : Coordinator) (source : Source) (outcome : ShutdownOutcome) : CoordinatorProgress :=
  match outcome with
  | .loopFailed reason =>
    ⟨source, .done outcome, [c.log .error "consume loop task failed" [("error", .shown reason)]]⟩
  | _ => ⟨source, .done outcome, [c.log .info "consume loop finished" []]⟩

/-- Shutdown has begun: asks the source to stop. -/
def requestStop (c : Coordinator) (now : Nat) (source : Source) : CoordinatorProgress :=
  let (answer, stopped) := source.stop
  ⟨stopped, .stopping (source.stopDelay.map (now + ·)) answer,
    [c.log .info "shutdown requested, stopping intake" [c.graceField], .stopAsked]⟩

/-- The source has answered: the grace period begins. -/
def beginGrace (c : Coordinator) (now : Nat) (source : Source) (answer : Except WorkerError Unit) :
    CoordinatorProgress :=
  ⟨source, .draining (now + c.grace),
    match answer with
    | .ok () => []
    | .error e => [c.log .warn "failed to cancel consumer" [("error", .shown e.message)]]⟩

/-- The grace period has run out. -/
def abandon (c : Coordinator) (source : Source) : CoordinatorProgress :=
  ⟨source, .done .graceElapsed,
    [c.log .warn "grace period elapsed, abandoning in-flight message" [c.graceField], .abandoned]⟩

/-- Takes the coordinator one step further; where it has to wait, nothing changes. -/
def step (c : Coordinator) (first : Glance) (view : CoordinatorView) (source : Source)
    (phase : CoordinatorPhase) : CoordinatorProgress :=
  match phase with
  | .watching =>
    match view.noticed first with
    | some outcome => c.join source outcome
    | none => if view.isCancelled then c.requestStop view.now source else ⟨source, phase, []⟩
  | .stopping answersAt answer =>
    if answersAt.any (· ≤ view.now) then c.beginGrace view.now source answer
    else ⟨source, phase, []⟩
  | .draining deadline =>
    -- A loop that has ended comes before a deadline that has passed.
    match view.result? with
    | some outcome => c.join source outcome
    | none => if deadline ≤ view.now then c.abandon source else ⟨source, phase, []⟩
  | .done _ => ⟨source, phase, []⟩

/-- Can the coordinator go further at once? -/
def isReady (view : CoordinatorView) : CoordinatorPhase → Bool
  | .watching => view.result?.isSome || view.isCancelled
  | .stopping answersAt _ => answersAt.any (· ≤ view.now)
  | .draining deadline => view.result?.isSome || deadline ≤ view.now
  | .done _ => false

/-- The time at which the coordinator can go further if the loop does not end, if there is one. -/
def readyAt (view : CoordinatorView) : CoordinatorPhase → Option Nat
  | .watching => view.cancelAt.map (max view.now)
  | .stopping answersAt _ => answersAt.map (max view.now)
  | .draining deadline => some (max view.now deadline)
  | .done _ => none

/-- Has a time come that the coordinator itself was waiting for?  The beginning of shutdown is no
such time: it reaches everybody. -/
def isDue (now : Nat) : CoordinatorPhase → Bool
  | .stopping answersAt _ => answersAt.any (· ≤ now)
  | .draining deadline => deadline ≤ now
  | .watching | .done _ => false

/-- The number of steps that the coordinator can still make. -/
def rank : CoordinatorPhase → Nat
  | .watching => 3
  | .stopping _ _ => 2
  | .draining _ => 1
  | .done _ => 0

/-- A coordinator that is ready and does not notice the loop's end sees shutdown. -/
theorem isCancelled_of_noticed_eq_none {view : CoordinatorView} {first : Glance}
    (h : isReady view .watching) (hn : view.noticed first = none) : view.isCancelled = true := by
  cases hc : view.isCancelled with
  | true => rfl
  | false =>
    have hr : view.result? = none := by
      cases first <;> simpa [CoordinatorView.noticed, hc] using hn
    simp [isReady, hc, hr] at h

/-- A step of a coordinator that is ready lowers its rank. -/
theorem rank_step_lt {c : Coordinator} {first : Glance} {view : CoordinatorView} {source : Source}
    {phase : CoordinatorPhase} (h : isReady view phase) :
    rank (c.step first view source phase).phase < rank phase := by
  cases phase with
  | watching =>
    simp only [step]
    split
    · rename_i outcome _
      cases outcome <;> simp [join, rank]
    · rename_i hr
      simp [isCancelled_of_noticed_eq_none h hr, requestStop, rank]
  | stopping answersAt answer =>
    simp only [isReady] at h
    simp [step, h, beginGrace, rank]
  | draining deadline =>
    simp only [step]
    split
    · rename_i outcome _
      cases outcome <;> simp [join, rank]
    · rename_i hr
      have hd : deadline ≤ view.now := by simpa [isReady, hr] using h
      simp [hd, abandon, rank]
  | done outcome => simp [isReady] at h

theorem size_step (c : Coordinator) (first : Glance) (view : CoordinatorView) (source : Source)
    (phase : CoordinatorPhase) : (c.step first view source phase).source.size = source.size := by
  unfold step
  repeat' split
  · unfold join
    split <;> rfl
  · exact Source.size_stop source
  · rfl
  · rfl
  · rfl
  · unfold join
    split <;> rfl
  · rfl
  · rfl
  · rfl

end Coordinator

end Courier
