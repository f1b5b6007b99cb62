import Courier.Proofs.Processing.Interleaving
import Mathlib.Algebra.BigOperators.Group.Finset.Basic

/-!
# The rhythm of a delivery without shutdown

Left alone, the worker calls the handler, waits as the schedule says, and calls again, until a call
succeeds or the attempts are used up.  The handler's answers to these calls are fixed from the
start (`Worker.replyAt`), and so are the times: call `i`, counted from zero, begins at
`Worker.beginAt`, when the calls and the waits before it are over.

* `extends_round`: a call that fails leads to its wait and to the next attempt; `extends_rounds`
  follows the work through as many rounds as there are failures.
* `extends_last`: the answer to the last call leads to the terminal action and the outcome.
* `process_eq_rounds`: put together, they say all that a run does, and when.

The waits are slept, and no sleep lasts longer than `longestWait`, so a longer wait of the schedule
ends with it (`RetryPolicy.pause`).  `now_process_ne` is such a run.  Calls take the time they take.
-/

namespace Courier

variable {σ : Type}

/-- Did the call fail? -/
def Reply.IsFailure (r : Reply) : Prop := ∃ e, r.result = .failed e

namespace RetryPolicy

/-- The wait after the attempt of the given index, which counts from zero. -/
def waitAt (p : RetryPolicy) (i : Nat) : Nat := p.schedule.getD i 0

/-- The time that this wait takes. -/
def pause (p : RetryPolicy) (i : Nat) : Nat := min (p.waitAt i) longestWait

end RetryPolicy

namespace Worker

variable (w : Worker σ)

/-- What the worker makes of a command: the delivery, with the ids that it goes by. -/
def jobOf (world : World σ) (d : Delivery) (command : Command) : Job :=
  ⟨d, command, (w.identify world d command).1⟩

/-- What the handler remembers once it has been called for the first so many attempts. -/
def memoryAfter (job : Job) (memory : σ) : Nat → σ
  | 0 => memory
  | i + 1 =>
    (w.handler.call (memoryAfter job memory i) (w.callOf job (UInt32.ofNat (i + 1)))).2

/-- How the handler replies to the call of the given index, which counts from zero. -/
def replyAt (job : Job) (memory : σ) (i : Nat) : Reply :=
  (w.handler.call (w.memoryAfter job memory i) (w.callOf job (UInt32.ofNat (i + 1)))).1

/-- The time at which this call begins, if the first one begins at `start`. -/
def beginAt (job : Job) (memory : σ) (start i : Nat) : Nat :=
  start + ∑ j ∈ Finset.range i, ((w.replyAt job memory j).duration + w.policy.pause j)

/-- The time at which it ends. -/
def endAt (job : Job) (memory : σ) (start i : Nat) : Nat :=
  w.beginAt job memory start i + (w.replyAt job memory i).duration

/-- The call of the given index and its answer. -/
def timedCall (job : Job) (memory : σ) (start i : Nat) : List (Nat × Act) :=
  [(w.beginAt job memory start i, .call (w.callOf job (UInt32.ofNat (i + 1)))),
   (w.endAt job memory start i, .reply (w.replyAt job memory i).result)]

/-- The same with the wait that follows, up to the beginning of the next call. -/
def timedRound (job : Job) (memory : σ) (start i : Nat) : List (Nat × Act) :=
  w.timedCall job memory start i ++
    [(w.endAt job memory start i, .wait (w.policy.waitAt i)),
     (w.beginAt job memory start (i + 1), .wake false)]

/-- The calls and waits of the first so many rounds. -/
def timedRounds (job : Job) (memory : σ) (start k : Nat) : List (Nat × Act) :=
  (List.range k).flatMap (w.timedRound job memory start)

variable {w}

theorem beginAt_succ (job : Job) (memory : σ) (start i : Nat) :
    w.beginAt job memory start (i + 1) = w.endAt job memory start i + w.policy.pause i := by
  rw [endAt, beginAt, beginAt, Finset.sum_range_succ]
  omega

theorem timedRounds_succ (job : Job) (memory : σ) (start k : Nat) :
    w.timedRounds job memory start (k + 1) =
      w.timedRounds job memory start k ++ w.timedRound job memory start k := by
  rw [timedRounds, List.range_succ, List.flatMap_append, List.flatMap_singleton, ← timedRounds]

end Worker

/-! ### Steps on the worker's own clock -/

/-- A run does what the rest of it does, after some acts. -/
structure Run.Extends (run rest : Run σ) (l : List (Nat × Act)) : Prop where
  world_eq : run.world = rest.world
  stage_eq : run.stage = rest.stage
  timedActs_eq : run.journal.timedActs = l ++ rest.journal.timedActs

namespace Run

variable {run rest rest' : Run σ} {l l' : List (Nat × Act)}

theorem Extends.trans (h : run.Extends rest l) (h' : rest.Extends rest' l') :
    run.Extends rest' (l ++ l') where
  world_eq := h.world_eq.trans h'.world_eq
  stage_eq := h.stage_eq.trans h'.stage_eq
  timedActs_eq := by rw [h.timedActs_eq, h'.timedActs_eq, List.append_assoc]

theorem Extends.refl (run : Run σ) : run.Extends run [] := ⟨rfl, rfl, rfl⟩

end Run

namespace Worker

variable {w : Worker σ} {world : World σ} {job : Job} {n : UInt32}

/-- A run to the end waits until its stage is ready, makes a step, and goes on from there. -/
theorem extends_toEnd (w : Worker σ) (world : World σ) (stage : Stage)
    (h : stage.isFinal = false) {time : Nat} (htime : w.readyAt world stage = time)
    {progress : Progress σ} (hstep : w.step (world.at time) stage = progress) :
    (w.toEnd world stage).Extends (w.toEnd progress.world progress.stage)
      ((acts progress.entries).map fun act => (time, act)) := by
  subst htime hstep
  rw [toEnd, dif_neg (by rw [h]; exact Bool.false_ne_true)]
  refine ⟨rfl, rfl, ?_⟩
  rw [Journal.timedActs_append, Journal.timedActs_stamp]
  rfl

/-- The work ends with the terminal action. -/
theorem extends_settling (w : Worker σ) (world : World σ) (s : Settlement) :
    (w.toEnd world (.settling s)).Extends ⟨world, .finished s.outcome, []⟩
      [(world.now, .settle (s.delivery.settle s.outcome.disposition))] := by
  have h := extends_toEnd w world (.settling s) rfl rfl rfl
  rw [step, acts_settle] at h
  have hend : w.toEnd world (.finished s.outcome) = _ := toEnd_of_isFinal w world rfl
  exact h.trans (hend ▸ Run.Extends.refl _)

theorem seesShutdown_eq_false (w : Worker σ) (hc : world.cancelAt = none) :
    w.seesShutdown world = false := by
  rw [seesShutdown, World.isCancelled, hc]
  exact Bool.and_false _

/-- An attempt starts at once. -/
theorem extends_due (w : Worker σ) (world : World σ) (job : Job) (n : UInt32) {reply : Reply}
    {memory : σ} (hc : world.cancelAt = none)
    (hcall : w.handler.call world.memory (w.callOf job n) = (reply, memory))
    (hcancels : reply.cancels = false) :
    (w.toEnd world (.due job n)).Extends
      (w.toEnd { world with memory } (.calling job n world.now reply))
      [(world.now, .call (w.callOf job n))] := by
  have hstep : w.step world (.due job n) = w.call world job n := by
    rw [step, attempt, seesShutdown_eq_false w hc, if_neg Bool.false_ne_true]
  have h := extends_toEnd w world (.due job n) rfl rfl hstep
  rw [acts_call] at h
  simp only [call, hcall, hcancels, Bool.false_eq_true, if_false] at h
  exact h

/-- A call that has just begun is waited for. -/
theorem extends_calling (w : Worker σ) (world : World σ) (job : Job) (n : UInt32) (reply : Reply) :
    let time := world.now + reply.duration
    let progress := w.conclusion (world.at time) job n reply.result
    (w.toEnd world (.calling job n world.now reply)).Extends
      (w.toEnd progress.world progress.stage)
      ((acts progress.entries).map fun act => (time, act)) := by
  intro time progress
  have hle : world.now ≤ reply.endsAt world.now := Nat.le_add_right _ _
  refine extends_toEnd w world (.calling job n world.now reply) rfl (Nat.max_eq_right hle) ?_
  exact if_pos (Nat.le_refl _)

/-- A wait comes to its end. -/
theorem extends_waiting (w : Worker σ) (world : World σ) (job : Job) (n : UInt32) {until_ : Nat}
    (hc : world.cancelAt = none) (hle : world.now ≤ until_) :
    (w.toEnd world (.waiting job n until_)).Extends
      (w.toEnd (world.at until_) (.due job (n + 1))) [(until_, .wake false)] := by
  have hseen : w.shutdownSeenAt world = none := by
    unfold shutdownSeenAt
    split
    · rw [hc]
      rfl
    · rfl
  have hready : w.readyAt world (.waiting job n until_) = until_ := by
    simp only [readyAt, hseen]
    exact Nat.max_eq_right hle
  have hstep : w.step (world.at until_) (.waiting job n until_) =
      ⟨world.at until_, .due job (n + 1), [.woke false]⟩ := by
    have hdue : until_ ≤ (world.at until_).now := Nat.le_refl _
    have hnot : w.seesShutdown (world.at until_) = false := seesShutdown_eq_false w hc
    rw [step, if_pos (Or.inr hdue), wake, hnot, if_neg Bool.false_ne_true]
  exact extends_toEnd w world _ rfl hready hstep

/-! ### Round after round -/

/-- A world of the given time and memory, with everything else as it was. -/
def worldAt (w : Worker σ) (job : Job) (world : World σ) (i : Nat) : World σ :=
  { world with
    now := w.beginAt job world.memory world.now i
    memory := w.memoryAfter job world.memory i }

/-- The world when the call of the given index has ended. -/
def worldAfter (w : Worker σ) (job : Job) (world : World σ) (i : Nat) : World σ :=
  { world with
    now := w.endAt job world.memory world.now i
    memory := w.memoryAfter job world.memory (i + 1) }

/-- From an attempt to what its answer leads to. -/
theorem extends_call (w : Worker σ) (world : World σ) (job : Job) (i : Nat)
    (hc : world.cancelAt = none)
    (hcancels : (w.replyAt job world.memory i).cancels = false) :
    let n := UInt32.ofNat (i + 1)
    let result := (w.replyAt job world.memory i).result
    let progress := w.conclusion (w.worldAfter job world i) job n result
    (w.toEnd (w.worldAt job world i) (.due job n)).Extends
      (w.toEnd progress.world progress.stage)
      ((w.beginAt job world.memory world.now i, .call (w.callOf job n)) ::
        (acts progress.entries).map fun act => (w.endAt job world.memory world.now i, act)) := by
  intro n result progress
  have hdue := w.extends_due (w.worldAt job world i) job n hc rfl hcancels
  exact hdue.trans (w.extends_calling _ job n (w.replyAt job world.memory i))

/-- A round: a call fails, its wait is waited for, and the next attempt is due. -/
theorem extends_round (w : Worker σ) (world : World σ) (job : Job) (i : Nat)
    (hc : world.cancelAt = none)
    (hcancels : (w.replyAt job world.memory i).cancels = false)
    (hfail : (w.replyAt job world.memory i).IsFailure)
    (hw : w.policy.backoffAfter (UInt32.ofNat (i + 1)) = some (w.policy.waitAt i)) :
    (w.toEnd (w.worldAt job world i) (.due job (UInt32.ofNat (i + 1)))).Extends
      (w.toEnd (w.worldAt job world (i + 1)) (.due job (UInt32.ofNat (i + 2))))
      (w.timedRound job world.memory world.now i) := by
  obtain ⟨e, he⟩ := hfail
  have hcall := w.extends_call world job i hc hcancels
  simp only [he, conclusion, retry, hw] at hcall
  have hwait := w.extends_waiting (w.worldAfter job world i) job (UInt32.ofNat (i + 1)) hc
    (le_alarm (w.worldAfter job world i).now (w.policy.waitAt i))
  have hround := hcall.trans hwait
  have hnext : UInt32.ofNat (i + 1) + 1 = UInt32.ofNat (i + 2) := (UInt32.ofNat_add _ _).symm
  have hnow : alarm (w.worldAfter job world i).now (w.policy.waitAt i) =
      w.beginAt job world.memory world.now (i + 1) := (beginAt_succ _ _ _ _).symm
  rw [hnext, hnow] at hround
  rw [timedRound, timedCall, he]
  exact hround

/-- As many rounds as there are failures. -/
theorem extends_rounds (w : Worker σ) (world : World σ) (job : Job) (k : Nat)
    (hc : world.cancelAt = none)
    (hcancels : ∀ i, (w.replyAt job world.memory i).cancels = false)
    (hfail : ∀ i < k, (w.replyAt job world.memory i).IsFailure)
    (hw : ∀ i < k, w.policy.backoffAfter (UInt32.ofNat (i + 1)) = some (w.policy.waitAt i)) :
    (w.toEnd world (.due job 1)).Extends
      (w.toEnd (w.worldAt job world k) (.due job (UInt32.ofNat (k + 1))))
      (w.timedRounds job world.memory world.now k) := by
  induction k with
  | zero => exact Run.Extends.refl _
  | succ k ih =>
    have hrounds := ih (fun i hi => hfail i (Nat.lt_succ_of_lt hi))
      (fun i hi => hw i (Nat.lt_succ_of_lt hi))
    rw [timedRounds_succ]
    exact hrounds.trans
      (w.extends_round world job k hc (hcancels k) (hfail k (Nat.lt_succ_self k))
        (hw k (Nat.lt_succ_self k)))

/-- The outcome is known once the call is answered. -/
def Concludes (w : Worker σ) (job : Job) (n : UInt32) (result : CallResult) (outcome : Outcome) :
    Prop :=
  ∀ world, ∃ attempt entries,
    w.conclusion world job n result = w.conclude world job outcome attempt entries ∧
      acts entries = [.reply result]

theorem concludes_succeeded (w : Worker σ) (job : Job) (n : UInt32) :
    w.Concludes job n .succeeded (.acknowledged n) :=
  fun _ => ⟨_, _, rfl, rfl⟩

theorem concludes_failed (w : Worker σ) (job : Job) {n : UInt32} (e : HandlerError)
    (hw : w.policy.backoffAfter n = none) : w.Concludes job n (.failed e) (.exhausted n) := by
  intro world
  simp only [conclusion, retry, hw]
  exact ⟨_, _, rfl, rfl⟩

/-- The last call, whose answer gives the outcome. -/
theorem extends_last (w : Worker σ) (world : World σ) (job : Job) (k : Nat)
    (hc : world.cancelAt = none)
    (hcancels : (w.replyAt job world.memory k).cancels = false) {outcome : Outcome}
    (hlast : w.Concludes job (UInt32.ofNat (k + 1)) (w.replyAt job world.memory k).result outcome) :
    (w.toEnd (w.worldAt job world k) (.due job (UInt32.ofNat (k + 1)))).Extends
      ⟨w.worldAfter job world k, .finished outcome, []⟩
      (w.timedCall job world.memory world.now k ++
        [(w.endAt job world.memory world.now k,
          .settle (job.delivery.settle outcome.disposition))]) := by
  obtain ⟨attempt, entries, hconclusion, hentries⟩ := hlast (w.worldAfter job world k)
  have hcall := w.extends_call world job k hc hcancels
  simp only [hconclusion, acts_conclude, hentries] at hcall
  exact hcall.trans
    (extends_settling w (w.worldAfter job world k) ⟨job.delivery, outcome, job.ids, attempt⟩)

/-- The command is taken up before the first attempt, at once. -/
theorem extends_process (w : Worker σ) (world : World σ) {d : Delivery} {command : Command}
    (hd : Command.decode d.payload = .ok command) :
    ∃ drawn, (w.process world d).Extends
      (w.toEnd { world with drawn } (.due (w.jobOf world d command) 1)) [] := by
  have h := extends_toEnd w world (.received d) rfl rfl (w.step_received world hd)
  rw [acts_accept] at h
  exact ⟨_, h.world_eq, h.stage_eq, h.timedActs_eq⟩

end Worker

/-! ### Attempts, waits and times -/

namespace RetryPolicy

variable {p : RetryPolicy}

theorem waitAt_eq {i : Nat} (hi : i < p.schedule.length) : p.waitAt i = p.schedule[i] := by
  rw [waitAt, List.getD_eq_getElem?_getD, List.getElem?_eq_getElem hi, Option.getD_some]

/-- After every attempt but the last there is a wait. -/
theorem IsCoupled.backoffAfter_eq (h : p.IsCoupled) {i : Nat} (hi : i < p.schedule.length) :
    p.backoffAfter (UInt32.ofNat (i + 1)) = some (p.waitAt i) := by
  rw [h.backoffAfter_of_lt hi, waitAt_eq hi]

theorem map_waitAt (p : RetryPolicy) {k : Nat} (hk : k ≤ p.schedule.length) :
    (List.range k).map p.waitAt = p.schedule.take k := by
  apply List.ext_getElem
  · rw [List.length_map, List.length_range, List.length_take, Nat.min_eq_left hk]
  · intro i hi hi'
    rw [List.length_map, List.length_range] at hi
    rw [List.getElem_map, List.getElem_range, List.getElem_take,
      waitAt_eq (Nat.lt_of_lt_of_le hi hk)]

end RetryPolicy

namespace Worker

variable {w : Worker σ} {world : World σ} {job : Job}

theorem waits_timedRounds (w : Worker σ) (job : Job) (memory : σ) (start k : Nat) :
    Act.waits ((w.timedRounds job memory start k).map Prod.snd) =
      (List.range k).map w.policy.waitAt := by
  rw [timedRounds, List.map_flatMap, Act.waits, List.filterMap_flatMap, List.map_eq_flatMap]
  rfl

/-- The last call ends when all calls and all waits between them are over. -/
theorem endAt_eq (w : Worker σ) (job : Job) (memory : σ) (start k : Nat) :
    w.endAt job memory start k =
      start + ∑ i ∈ Finset.range (k + 1), (w.replyAt job memory i).duration +
        ∑ i ∈ Finset.range k, w.policy.pause i := by
  rw [endAt, beginAt, Finset.sum_add_distrib, Finset.sum_range_succ]
  omega

/-- The work on a command goes through so many rounds, each a call and a wait, and a last call, and
comes to an outcome. -/
structure GoesThrough (w : Worker σ) (job : Job) (world : World σ) (k : Nat) (outcome : Outcome)
    (run : Run σ) : Prop where
  outcome_eq : run.outcome? = some outcome
  /-- Every call, every wait and the terminal action, with their times, and nothing else. -/
  timedActs_eq : run.journal.timedActs =
    w.timedRounds job world.memory world.now k ++ w.timedCall job world.memory world.now k ++
      [(w.endAt job world.memory world.now k,
        .settle (job.delivery.settle outcome.disposition))]
  attempts_eq : Act.attempts run.acts = List.range' 1 (k + 1)
  toNat_attempts : outcome.attempts.toNat = k + 1
  waits_eq : Act.waits run.acts = w.policy.schedule.take k
  now_eq : run.world.now =
    world.now + ∑ i ∈ Finset.range (k + 1), (w.replyAt job world.memory i).duration +
      ∑ i ∈ Finset.range k, w.policy.pause i

/-- Rounds and a last call make up the run. -/
theorem goesThrough_of_extends {drawn k : Nat} {d : Delivery} {outcome : Outcome}
    (hk : k ≤ w.policy.schedule.length) (hn : outcome.attempts.toNat = k + 1)
    (h : (w.process world d).Extends
      ⟨w.worldAfter job { world with drawn } k, .finished outcome, []⟩
      (w.timedRounds job world.memory world.now k ++ (w.timedCall job world.memory world.now k ++
        [(w.endAt job world.memory world.now k,
          .settle (job.delivery.settle outcome.disposition))]))) :
    w.GoesThrough job world k outcome (w.process world d) := by
  have hacts : (w.process world d).journal.timedActs =
      w.timedRounds job world.memory world.now k ++ w.timedCall job world.memory world.now k ++
        [(w.endAt job world.memory world.now k,
          .settle (job.delivery.settle outcome.disposition))] := by
    rw [h.timedActs_eq, ← List.append_assoc]
    exact List.append_nil _
  have hfits := fits_process w world d
  refine ⟨?_, hacts, ?_, hn, ?_, ?_⟩
  · rw [Run.outcome?, h.stage_eq]
  · rw [attempts_of_fits hfits]
    rw [h.stage_eq] at hfits
    rw [(settledOnce_of_fits hfits).length_calls, hn]
  · rw [Run.acts, ← Journal.map_snd_timedActs, hacts, List.map_append, List.map_append,
      Act.waits_append, Act.waits_append, waits_timedRounds, RetryPolicy.map_waitAt _ hk]
    exact (List.append_nil _).trans (List.append_nil _)
  · rw [h.world_eq]
    exact w.endAt_eq job world.memory world.now k

/-- The first so many calls fail, and the answer to the next one gives the outcome. -/
theorem extends_process_rounds (w : Worker σ) (world : World σ) {d : Delivery} {command : Command}
    (hd : Command.decode d.payload = .ok command) (hp : w.policy.IsCoupled)
    (hc : world.cancelAt = none)
    (hcancels : ∀ i, (w.replyAt (w.jobOf world d command) world.memory i).cancels = false) {k : Nat}
    (hk : k ≤ w.policy.schedule.length)
    (hfail : ∀ i < k, (w.replyAt (w.jobOf world d command) world.memory i).IsFailure)
    {outcome : Outcome}
    (hlast : w.Concludes (w.jobOf world d command) (UInt32.ofNat (k + 1))
      (w.replyAt (w.jobOf world d command) world.memory k).result outcome) :
    let job := w.jobOf world d command
    ∃ drawn, (w.process world d).Extends
      ⟨w.worldAfter job { world with drawn } k, .finished outcome, []⟩
      (w.timedRounds job world.memory world.now k ++ (w.timedCall job world.memory world.now k ++
        [(w.endAt job world.memory world.now k,
          .settle (job.delivery.settle outcome.disposition))])) := by
  intro job
  obtain ⟨drawn, hprocess⟩ := w.extends_process world hd
  have hrounds := w.extends_rounds { world with drawn } job k hc hcancels
    hfail (fun i hi => hp.backoffAfter_eq (Nat.lt_of_lt_of_le hi hk))
  have hend := w.extends_last { world with drawn } job k hc (hcancels k) hlast
  exact ⟨drawn, (hprocess.trans hrounds).trans hend⟩

theorem goesThrough_process (w : Worker σ) (world : World σ) {d : Delivery} {command : Command}
    (hd : Command.decode d.payload = .ok command) (hp : w.policy.IsCoupled)
    (hc : world.cancelAt = none)
    (hcancels : ∀ i, (w.replyAt (w.jobOf world d command) world.memory i).cancels = false) {k : Nat}
    (hk : k ≤ w.policy.schedule.length)
    (hfail : ∀ i < k, (w.replyAt (w.jobOf world d command) world.memory i).IsFailure)
    {outcome : Outcome} (hn : outcome.attempts.toNat = k + 1)
    (hlast : w.Concludes (w.jobOf world d command) (UInt32.ofNat (k + 1))
      (w.replyAt (w.jobOf world d command) world.memory k).result outcome) :
    w.GoesThrough (w.jobOf world d command) world k outcome (w.process world d) := by
  obtain ⟨drawn, hrun⟩ := w.extends_process_rounds world hd hp hc hcancels hk hfail hlast
  exact goesThrough_of_extends hk hn hrun

/-- **The rhythm of a delivery.**  Without shutdown, and under a policy with a wait after every
attempt but the last: if the first `k` calls fail and the next one succeeds, the delivery is
acknowledged after `k` rounds of a call and its wait and one more call; if no allowed call
succeeds, the work goes through the whole schedule and the delivery is exhausted. -/
theorem process_eq_rounds (w : Worker σ) (world : World σ) (d : Delivery) (command : Command)
    (hd : Command.decode d.payload = .ok command) (hp : w.policy.IsCoupled)
    (hc : world.cancelAt = none)
    (hcancels : ∀ i, (w.replyAt (w.jobOf world d command) world.memory i).cancels = false) :
    let job := w.jobOf world d command
    let reply := w.replyAt job world.memory
    (∀ k < w.policy.maxAttempts.toNat, (∀ i < k, (reply i).IsFailure) →
      (reply k).result = .succeeded →
        w.GoesThrough job world k (.acknowledged (UInt32.ofNat (k + 1))) (w.process world d)) ∧
    ((∀ i < w.policy.maxAttempts.toNat, (reply i).IsFailure) →
      w.GoesThrough job world w.policy.schedule.length (.exhausted w.policy.maxAttempts)
        (w.process world d)) := by
  intro job reply
  have hlength : w.policy.schedule.length + 1 = w.policy.maxAttempts.toNat := hp
  constructor
  · intro k hk hfail hs
    have hlt : k + 1 < 2 ^ 32 := Nat.lt_of_le_of_lt hk w.policy.maxAttempts.toNat_lt
    refine w.goesThrough_process world hd hp hc hcancels (by omega) hfail
      (UInt32.toNat_ofNat_of_lt' hlt) ?_
    rw [hs]
    exact w.concludes_succeeded job _
  · intro hfail
    obtain ⟨e, he⟩ := hfail w.policy.schedule.length (by omega)
    refine w.goesThrough_process world hd hp hc hcancels (Nat.le_refl _)
      (fun i hi => hfail i (by omega)) hlength.symm ?_
    rw [he, hlength, UInt32.ofNat_toNat]
    exact w.concludes_failed job e (RetryPolicy.backoffAfter_maxAttempts _)

theorem cancels_scripted {w : Worker Handler.Script} (hw : w.handler = .scripted none) (job : Job)
    (memory : Handler.Script) (i : Nat) : (w.replyAt job memory i).cancels = false := by
  rw [replyAt, hw]
  rcases w.memoryAfter job memory i with ⟨_ | _ | failures, calls⟩ <;> rfl

/-- Two failures and a success: three calls, and both waits of the standard policy. -/
theorem process_eq_rounds_scripted :
    let w := Worker.scripted none
    let world : World Handler.Script := { memory := ⟨some 2, []⟩ }
    w.policy.IsCoupled ∧
      w.GoesThrough (w.jobOf world .refused {}) world 2 (.acknowledged 3)
        (w.process world .refused) := by
  intro w world
  refine ⟨rfl, (process_eq_rounds w world _ _ decode_refused rfl rfl
    (cancels_scripted rfl _ _)).1 2 (by decide) ?_ rfl⟩
  intro i hi
  rcases i with _ | _ | i
  · exact ⟨_, rfl⟩
  · exact ⟨_, rfl⟩
  · omega

/-- No sleep lasts for ten billion seconds: a call that fails and one that succeeds take no
time, and yet less time passes than the schedule says. -/
theorem now_process_ne :
    let w : Worker Handler.Script := { Worker.scripted none with policy := ⟨2, [10000000000000]⟩ }
    let world : World Handler.Script := { memory := ⟨some 1, []⟩ }
    let reply := w.replyAt (w.jobOf world .refused {}) world.memory
    Command.decode Delivery.refused.payload = .ok {} ∧ w.policy.IsCoupled ∧ world.cancelAt = none ∧
      (∀ i, (reply i).cancels = false) ∧ (reply 0).IsFailure ∧ (reply 1).result = .succeeded ∧
      (w.process world .refused).world.now ≠
        world.now + (reply 0).duration + w.policy.waitAt 0 + (reply 1).duration := by
  intro w world reply
  have hp : w.policy.IsCoupled := rfl
  have hcancels : ∀ i, (reply i).cancels = false := cancels_scripted rfl _ _
  have hfail : ∀ i < 1, (reply i).IsFailure := by
    intro i hi
    obtain rfl : i = 0 := by omega
    exact ⟨_, rfl⟩
  refine ⟨decode_refused, hp, rfl, hcancels, hfail 0 (by decide), rfl, ?_⟩
  have hrun := w.goesThrough_process world decode_refused hp rfl hcancels (Nat.le_refl 1) hfail
    rfl (w.concludes_succeeded _ 2)
  rw [hrun.now_eq, Finset.sum_range_succ, Finset.sum_range_one, Finset.sum_range_one]
  decide

end Worker

end Courier
