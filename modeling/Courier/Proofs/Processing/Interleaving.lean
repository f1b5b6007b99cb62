import Courier.Proofs.Processing.Course

/-!
# The work on a delivery in any order of events

`Worker.process` looks at the clock and at shutdown at times of its own choosing.  Here somebody
else chooses: a run is played by a list of events (`Worker.play`), each of them a step of the
worker, the beginning of shutdown, or time that passes.  Events come in any order, so shutdown may
begin between any two steps, and the worker may come late to a wait that is over.

`fits_play` carries what is known of a stage (`Stage.Fits`) over to every such run, and
`exists_play_eq_process` finds `Worker.process` among them.  `settledOnce_play` is the main result:
a run that comes to an outcome asks the broker for one terminal action, after everything else.
-/

namespace Courier

/-- What may happen next to the work on a delivery. -/
inductive Worker.Event where
  /-- The worker goes on, if it can. -/
  | step
  /-- Shutdown begins. -/
  | cancel
  /-- So many milliseconds pass. -/
  | elapse (time : Nat)

variable {σ : Type}

/-- A run after one more event. -/
def Run.follow (w : Worker σ) (run : Run σ) : Worker.Event → Run σ
  | .step =>
    let progress := w.step run.world run.stage
    ⟨progress.world, progress.stage, run.journal ++ stamp run.world.now progress.entries⟩
  | .cancel => { run with world := run.world.cancel }
  | .elapse time => { run with world := run.world.at (run.world.now + time) }

/-- A run after some more events. -/
def Run.play (w : Worker σ) (run : Run σ) (events : List Worker.Event) : Run σ :=
  events.foldl (Run.follow w) run

/-- A delivery that has just come. -/
def Run.start (world : World σ) (d : Delivery) : Run σ :=
  ⟨world, .received d, stamp world.now [.received d]⟩

/-- The work on a delivery, as the events say. -/
def Worker.play (w : Worker σ) (world : World σ) (d : Delivery) (events : List Worker.Event) :
    Run σ :=
  (Run.start world d).play w events

/-- The acts of a run. -/
def Run.acts (run : Run σ) : List Act := Courier.acts run.journal.entries

namespace Run

variable (w : Worker σ) (run : Run σ)

@[simp] theorem play_cons (event : Worker.Event) (events : List Worker.Event) :
    run.play w (event :: events) = (run.follow w event).play w events := rfl

theorem play_append (events more : List Worker.Event) :
    run.play w (events ++ more) = (run.play w events).play w more :=
  List.foldl_append

end Run

theorem Worker.play_append (w : Worker σ) (world : World σ) (d : Delivery)
    (events more : List Worker.Event) :
    w.play world d (events ++ more) = (w.play world d events).play w more :=
  Run.play_append w _ events more

/-! ### The acts fit the stage -/

theorem fits_follow {w : Worker σ} {d : Delivery} {run : Run σ} (event : Worker.Event)
    (h : run.stage.Fits w d run.acts) :
    (run.follow w event).stage.Fits w d (run.follow w event).acts := by
  cases event with
  | step =>
    simp only [Run.acts, Run.follow, Journal.entries_append, Journal.entries_stamp, acts_append]
    exact fits_step run.world h
  | cancel => exact h
  | elapse time => exact h

theorem fits_run {w : Worker σ} {d : Delivery} {run : Run σ} (events : List Worker.Event)
    (h : run.stage.Fits w d run.acts) :
    (run.play w events).stage.Fits w d (run.play w events).acts := by
  induction events generalizing run with
  | nil => exact h
  | cons event events ih => exact ih (fits_follow event h)

/-- Whatever happens, the acts of a delivery fit the stage that the work on it is at. -/
theorem fits_play (w : Worker σ) (world : World σ) (d : Delivery) (events : List Worker.Event) :
    (w.play world d events).stage.Fits w d (w.play world d events).acts :=
  fits_run events ⟨rfl, rfl⟩

/-! ### The run on a clock of its own is one of them -/

theorem le_readyAt (w : Worker σ) (world : World σ) (stage : Stage) :
    world.now ≤ w.readyAt world stage := by
  cases stage with
  | calling job n since reply => exact Nat.le_max_left _ _
  | waiting job n until_ =>
    simp only [Worker.readyAt]
    cases hs : w.shutdownSeenAt world with
    | none => exact Nat.le_max_left _ _
    | some time =>
      refine Nat.le_min.2 ⟨Nat.le_max_left _ _, ?_⟩
      unfold Worker.shutdownSeenAt at hs
      split at hs
      · obtain ⟨c, -, rfl⟩ := Option.map_eq_some_iff.1 hs
        exact Nat.le_max_left _ _
      · cases hs
  | received _ | due _ _ | settling _ | finished _ | broken _ => exact Nat.le_refl _

theorem isFinal_toEnd (w : Worker σ) (world : World σ) (stage : Stage) :
    (w.toEnd world stage).stage.isFinal = true := by
  fun_induction Worker.toEnd w world stage with
  | case1 world stage h => exact h
  | case2 world stage h world' progress run ih => exact ih

/-- A run that is over goes no further. -/
theorem toEnd_of_isFinal (w : Worker σ) (world : World σ) {stage : Stage}
    (h : stage.isFinal = true) : w.toEnd world stage = ⟨world, stage, []⟩ := by
  rw [Worker.toEnd, dif_pos h]

/-- The run to the end is played by waiting for each step just as long as it needs. -/
theorem exists_play_eq_toEnd (w : Worker σ) (world : World σ) (stage : Stage) (j : Journal) :
    ∃ events, Run.play w ⟨world, stage, j⟩ events =
      { w.toEnd world stage with journal := j ++ (w.toEnd world stage).journal } := by
  fun_induction Worker.toEnd w world stage generalizing j with
  | case1 world stage h => exact ⟨[], by rw [List.append_nil]; rfl⟩
  | case2 world stage h world' progress run ih =>
    obtain ⟨events, hevents⟩ := ih (j ++ stamp world'.now progress.entries)
    refine ⟨.elapse (w.readyAt world stage - world.now) :: .step :: events, ?_⟩
    have hnow : world.now + (w.readyAt world stage - world.now) = w.readyAt world stage :=
      Nat.add_sub_cancel' (le_readyAt w world stage)
    simp only [Run.play_cons, Run.follow, hnow]
    rw [← List.append_assoc]
    exact hevents

/-- `Worker.process` is one of the runs that events can play. -/
theorem exists_play_eq_process (w : Worker σ) (world : World σ) (d : Delivery) :
    ∃ events, w.process world d = w.play world d events := by
  obtain ⟨events, hevents⟩ := exists_play_eq_toEnd w world (.received d)
    (stamp world.now [.received d])
  exact ⟨events, hevents.symm⟩

theorem fits_process (w : Worker σ) (world : World σ) (d : Delivery) :
    (w.process world d).stage.Fits w d (w.process world d).acts := by
  obtain ⟨events, hevents⟩ := exists_play_eq_process w world d
  rw [hevents]
  exact fits_play w world d events

/-! ### One terminal action, after everything else -/

/-- The receipt that a delivery gets for its outcome: it is acknowledged after a success, goes back
if it was interrupted, and is sent away otherwise. -/
inductive Outcome.Takes : Outcome → Receipt → Prop where
  | acknowledged (n : UInt32) : Takes (.acknowledged n) .acknowledge
  | interrupted (n : UInt32) : Takes (.interrupted n) (.reject true)
  | poison : Takes .poison (.reject false)
  | exhausted (n : UInt32) : Takes (.exhausted n) (.reject false)

/-- The call settles the delivery with the outcome: the receipt of the outcome is handed in under the
delivery's tag, and answered by the delivery's broker. -/
structure ReceiptCall.Settles (call : ReceiptCall) (d : Delivery) (outcome : Outcome) : Prop where
  tag_eq : call.tag = d.tag
  takes : outcome.Takes call.receipt
  answer_eq_ok_iff : call.answer = .ok () ↔ d.refusal call.receipt = none
  eq_settle : call = d.settle outcome.disposition

theorem settles_settle (d : Delivery) (outcome : Outcome) :
    (d.settle outcome.disposition).Settles d outcome where
  tag_eq := rfl
  takes := by cases outcome <;> constructor
  answer_eq_ok_iff := by
    simp only [Delivery.settle, Delivery.handIn]
    cases d.refusal outcome.disposition.receipt <;> simp
  eq_settle := rfl

/-- A delivery came to an outcome through the given acts, and is settled: the last act is the call
that settles it, no act before is such a call, every call of the handler has ended by then, and the
outcome counts those. -/
structure SettledOnce (d : Delivery) (outcome : Outcome) (l : List Act) : Prop where
  exists_eq_append : ∃ before call, l = before ++ [.settle call] ∧ call.Settles d outcome ∧
    Act.actions before = [] ∧ (Act.results before).length = (Act.calls before).length
  length_calls : (Act.calls l).length = outcome.attempts.toNat

theorem Run.stage_eq_finished {run : Run σ} {outcome : Outcome}
    (h : run.outcome? = some outcome) : run.stage = .finished outcome := by
  unfold Run.outcome? at h
  split at h
  · rename_i o hstage
    rw [hstage, Option.some.inj h]
  · cases h

theorem settledOnce_of_fits {w : Worker σ} {d : Delivery} {outcome : Outcome} {l : List Act}
    (h : (Stage.finished outcome).Fits w d l) : SettledOnce d outcome l := by
  obtain ⟨before, hend, rfl⟩ := h
  refine ⟨⟨before, _, rfl, settles_settle d outcome, hend.actions_eq_nil, hend.length_results⟩, ?_⟩
  rw [Act.calls_append, List.length_append, hend.length_calls]
  rfl

/-- **One terminal action.**  However steps, time and shutdown come, and on the worker's own clock:
a run that comes to an outcome settles the delivery once, as the outcome says, after the last call
has ended and with nothing after it, and the outcome counts the calls.  On its own clock the worker
always comes to an end. -/
theorem settledOnce_play (w : Worker σ) (world : World σ) (d : Delivery) :
    (∀ events outcome, (w.play world d events).stage = .finished outcome →
      SettledOnce d outcome (w.play world d events).acts) ∧
    (∀ outcome, (w.process world d).outcome? = some outcome →
      SettledOnce d outcome (w.process world d).acts) ∧
    (w.process world d).stage.isFinal = true := by
  refine ⟨?_, ?_, isFinal_toEnd w world (.received d)⟩
  · intro events outcome hstage
    have hfits := fits_play w world d events
    rw [hstage] at hfits
    exact settledOnce_of_fits hfits
  · intro outcome houtcome
    have hfits := fits_process w world d
    rw [Run.stage_eq_finished houtcome] at hfits
    exact settledOnce_of_fits hfits

/-! ### A run to look at -/

/-- A worker with the standard policy whose handler follows a script. -/
def Worker.scripted (cancelOn : Option Nat) : Worker Handler.Script where
  identity := { workerId := "worker-1" }
  queue := "notifications"
  handler := .scripted cancelOn
  tokens _ := "token"

/-- A delivery with the smallest payload that holds a command, and a broker that refuses. -/
def Delivery.refused : Delivery where
  payload := [123, 125]
  refusal _ := some "channel closed"

theorem decode_refused : Command.decode Delivery.refused.payload = .ok {} := by cbv

/-- The first call fails and asks for shutdown, which ends the wait: one terminal action, which the
broker refuses, and one attempt. -/
theorem settledOnce_play_interrupted :
    let w := Worker.scripted (some 1)
    let run := w.play { memory := ⟨some 5, []⟩ } .refused [.step, .step, .step, .step, .step]
    run.stage = .finished (.interrupted 1) ∧ SettledOnce .refused (.interrupted 1) run.acts := by
  intro w run
  have hstage : run.stage = .finished (.interrupted 1) := by
    simp only [run, Worker.play, Run.play_cons, Run.follow, Run.start,
      Worker.step_received _ _ decode_refused]
    rfl
  exact ⟨hstage, (settledOnce_play w _ _).1 _ _ hstage⟩

end Courier
