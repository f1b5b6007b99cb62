import Courier.Service.Coordinator

/-!
# The service

A `Service` is a worker with its coordinator.  Its state holds the consume loop and the coordinator
side by side; each makes its steps (`Service.fire`) whenever it is ready, and time passes only while
neither is (`Service.settle`).  A loop that the coordinator has given up makes no more steps.

`Service.run` is the run on one thread: whoever has the turn keeps it while it is ready.  The
coordinator has it first, and whenever a time comes that it was waiting for; after any other passing
of time the loop has it.  A loop that has seen `timersPerTurn` timers go off in one turn lets the
coordinator go first before it waits again (`Service.isTired`).  The run ends when the coordinator
is done, or when nothing will ever happen again; it ends because each step lowers `Service.rank`.
-/

namespace Courier

/-- A worker and its coordinator. -/
structure Service (σ : Type) where
  worker : Worker σ
  coordinator : Coordinator

/-- The two parties of a service. -/
inductive Party where
  | loop
  | coordinator
  deriving DecidableEq, Repr

/-- The other party. -/
def Party.other : Party → Party
  | .loop => .coordinator
  | .coordinator => .loop

/-- Where a service stands. -/
structure ServiceState (σ : Type) where
  world : World σ
  source : Source
  loop : Loop := {}
  phase : CoordinatorPhase := .watching
  /-- Who goes first when both are ready. -/
  turn : Party := .coordinator
  /-- The number of timers that the loop has seen go off in its turn. -/
  timers : Nat := 0

/-- Where a run of a service ended, and what it did. -/
structure ServiceRun (σ : Type) where
  state : ServiceState σ
  journal : Journal

/-- How the coordinator ended, if it has. -/
def ServiceState.outcome? {σ : Type} (s : ServiceState σ) : Option ShutdownOutcome :=
  match s.phase with
  | .done outcome => some outcome
  | _ => none

/-- Has the loop been given up? -/
def ServiceState.isAbandoned {σ : Type} (s : ServiceState σ) : Bool :=
  match s.phase with
  | .done .graceElapsed => true
  | _ => false

namespace Service

variable {σ : Type} (v : Service σ)

/-! ### Steps -/

/-- Can a party go further at once?  Once the coordinator is done the loop is given up. -/
def isReady (s : ServiceState σ) : Party → Bool
  | .loop => s.outcome?.isNone && s.loop.isReady v.worker s.world s.source
  | .coordinator => Coordinator.isReady (s.loop.view s.world) s.phase

/-- The number of timers that may go off in one turn. -/
def timersPerTurn : Nat := 128

/-- Has the loop come to a wait after so many timers that its turn ends there? -/
def isTired (s : ServiceState σ) : Bool := s.loop.isWaiting && timersPerTurn ≤ s.timers

/-- The number of timers in the loop's turn after its next step. -/
def timersAfterStep (s : ServiceState σ) : Nat :=
  (if isTired s then 0 else s.timers) +
    (if s.loop.seesTimer v.worker s.world s.source then 1 else 0)

/-- What the loop does next; nothing, once it has been given up. -/
def loopStep (s : ServiceState σ) : LoopProgress σ :=
  if s.isAbandoned then ⟨s.world, s.source, s.loop, []⟩
  else s.loop.step v.worker s.world s.source

/-- A party makes a step, and keeps the turn.  A coordinator that watches looks at the loop first,
unless it is told to look at shutdown. -/
def fire (s : ServiceState σ) (p : Party) (first : Glance := .loop) :
    ServiceState σ × List Entry :=
  match p with
  | .loop =>
    let progress := v.loopStep s
    ({ s with world := progress.world, source := progress.source, loop := progress.loop,
              turn := .loop, timers := v.timersAfterStep s }, progress.entries)
  | .coordinator =>
    let progress := v.coordinator.step first (s.loop.view s.world) s.source s.phase
    ({ s with source := progress.source, phase := progress.phase, turn := .coordinator,
              timers := 0 }, progress.entries)

/-- The next time at which a party can go further, if there is one. -/
def readyAt (s : ServiceState σ) : Option Nat :=
  if s.outcome?.isSome then none
  else
    match s.loop.readyAt v.worker s.world, Coordinator.readyAt (s.loop.view s.world) s.phase with
    | some a, some b => some (min a b)
    | some a, none => some a
    | none, b => b

/-- The party that has the turn, or the coordinator where the loop is tired. -/
def first (s : ServiceState σ) : Party := if isTired s then .coordinator else s.turn

/-- The party that makes the next step. -/
def next? (s : ServiceState σ) : Option Party :=
  if v.isReady s (first s) then some (first s)
  else if v.isReady s (first s).other then some (first s).other
  else none

/-- Lets time pass if neither party can go further. -/
def settle (s : ServiceState σ) : ServiceState σ :=
  if (v.next? s).isSome then s
  else
    match v.readyAt s with
    | none => s
    | some time =>
      { s with
        world := s.world.at time
        -- Whoever had set an alarm for this time is woken first.
        turn := if Coordinator.isDue time s.phase then .coordinator else .loop
        timers := 0 }

/-! ### Every step counts -/

/-- A bound for the number of steps of both parties. -/
def rank (s : ServiceState σ) : Nat :=
  s.loop.rank v.worker.policy s.source + Coordinator.rank s.phase

theorem isReady_of_next? {s : ServiceState σ} {p : Party} (h : v.next? s = some p) :
    v.isReady s p := by
  unfold next? at h
  split at h
  · rename_i hr
    obtain rfl := Option.some.inj h
    exact hr
  · split at h
    · rename_i hr
      obtain rfl := Option.some.inj h
      exact hr
    · simp at h

theorem rank_settle (s : ServiceState σ) : v.rank (v.settle s) = v.rank s := by
  unfold settle
  split
  · rfl
  · split <;> rfl

theorem rank_of_size {policy : RetryPolicy} {source source' : Source} {loop : Loop}
    (h : source'.size = source.size) : loop.rank policy source' = loop.rank policy source := by
  unfold Loop.rank
  rw [h]

theorem isAbandoned_of_isReady {s : ServiceState σ} (h : v.isReady s .loop) :
    s.isAbandoned = false := by
  have hnone : s.outcome?.isNone = true := (Bool.and_eq_true_iff.1 h).1
  unfold ServiceState.isAbandoned
  split
  · rename_i hphase
    simp [ServiceState.outcome?, hphase] at hnone
  · rfl

/-- A loop that has not been given up goes on. -/
theorem loopStep_of_isAbandoned_eq_false {s : ServiceState σ} (h : s.isAbandoned = false) :
    v.loopStep s = s.loop.step v.worker s.world s.source := by
  rw [loopStep, h, if_neg Bool.false_ne_true]

/-- A step of a party that is ready lowers the rank. -/
theorem rank_fire_lt {s : ServiceState σ} {p : Party} (h : v.isReady s p) :
    v.rank (v.fire s p).1 < v.rank s := by
  cases p with
  | loop =>
    have hr : s.loop.isReady v.worker s.world s.source = true :=
      (Bool.and_eq_true_iff.1 h).2
    simp only [rank, fire, v.loopStep_of_isAbandoned_eq_false (v.isAbandoned_of_isReady h)]
    exact Nat.add_lt_add_right (Loop.rank_step_lt hr) _
  | coordinator =>
    have hsize := Coordinator.size_step v.coordinator .loop (s.loop.view s.world) s.source s.phase
    simp only [rank, fire, rank_of_size hsize]
    exact Nat.add_lt_add_left (Coordinator.rank_step_lt h) _

/-! ### Runs -/

/-- Runs a service until its coordinator is done, or nothing will ever happen again. -/
def run (s : ServiceState σ) : ServiceRun σ :=
  let s' := v.settle s
  match _h : v.next? s' with
  | none => ⟨s', []⟩
  | some p =>
    let fired := v.fire s' p
    let rest := run fired.1
    { rest with journal := stamp s'.world.now fired.2 ++ rest.journal }
  termination_by v.rank s
  decreasing_by
    rw [← v.rank_settle s]
    exact v.rank_fire_lt (v.isReady_of_next? _h)

end Service

end Courier
