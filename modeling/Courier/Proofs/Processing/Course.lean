import Courier.Proofs.Journal.Acts
import Mathlib.Tactic.NthRewrite

/-!
# The course of a delivery

What the work on a delivery has done so far is known from the stage it is at.  `Stage.Fits` says it
for every stage: behind an attempt lie as many rounds as its number says (`Worker.roundActs`), each
a call that failed and the wait that the policy grants, and behind the end lies one of five endings
(`Worker.Ending`) and the terminal action.

Every step keeps it (`fits_step`), so it holds whenever the work on a delivery is looked at, in
whatever order steps, time and shutdown come.  The rest of the module reads off what an ending says
about calls, answers and terminal actions.
-/

namespace Courier

/-- An attempt that failed, and after which the next one came. -/
structure Round where
  error : HandlerError
  wait : Nat

/-- Each round waits as long as the policy says. -/
def RetryPolicy.Grants (p : RetryPolicy) (rounds : List Round) : Prop :=
  ∀ i round, rounds[i]? = some round → p.backoffAfter (UInt32.ofNat (i + 1)) = some round.wait

/-- The schedule holds one wait less than there are attempts. -/
def RetryPolicy.IsCoupled (p : RetryPolicy) : Prop := p.schedule.length + 1 = p.maxAttempts.toNat

namespace RetryPolicy

variable {p : RetryPolicy} {rounds : List Round} {n : UInt32}

theorem grants_nil : p.Grants [] := by
  intro i round h
  simp at h

/-- One more round, with the wait that comes next. -/
theorem Grants.concat {round : Round} (h : p.Grants rounds) (hn : n.toNat = rounds.length + 1)
    (hw : p.backoffAfter n = some round.wait) : p.Grants (rounds ++ [round]) := by
  intro i r hr
  rcases Nat.lt_trichotomy i rounds.length with hlt | rfl | hgt
  · rw [List.getElem?_append_left hlt] at hr
    exact h i r hr
  · rw [List.getElem?_concat_length] at hr
    obtain rfl := Option.some.inj hr
    rw [← hn, UInt32.ofNat_toNat]
    exact hw
  · rw [List.getElem?_eq_none (by rw [List.length_append, List.length_singleton]; omega)] at hr
    cases hr

theorem toNat_lt_maxAttempts {wait : Nat} (h : p.backoffAfter n = some wait) :
    n.toNat < p.maxAttempts.toNat :=
  UInt32.lt_iff_toNat_lt.1 (lt_maxAttempts_of_backoffAfter h)

/-- After a round another attempt is allowed. -/
theorem Grants.length_lt (h : p.Grants rounds) (hne : rounds ≠ []) (hn : n.toNat = rounds.length) :
    n.toNat < p.maxAttempts.toNat := by
  have hpos : 0 < rounds.length := List.length_pos_iff.2 hne
  have hlast : rounds[rounds.length - 1]? = some (rounds.getLast hne) := by
    rw [← List.getLast?_eq_getElem?, List.getLast?_eq_some_getLast hne]
  have hw := h _ _ hlast
  rw [Nat.sub_add_cancel hpos, ← hn, UInt32.ofNat_toNat] at hw
  exact toNat_lt_maxAttempts hw

/-- Under a coupled policy a wait follows every attempt but the last. -/
theorem IsCoupled.backoffAfter_of_lt (h : p.IsCoupled) {i : Nat} (hi : i < p.schedule.length) :
    p.backoffAfter (UInt32.ofNat (i + 1)) = some p.schedule[i] := by
  unfold IsCoupled at h
  have hlt : i + 1 < 2 ^ 32 := Nat.lt_trans (by omega) p.maxAttempts.toNat_lt
  have htoNat : (UInt32.ofNat (i + 1)).toNat = i + 1 := UInt32.toNat_ofNat_of_lt' hlt
  unfold backoffAfter
  rw [if_neg, htoNat, Nat.add_sub_cancel, List.getElem?_eq_getElem hi]
  rintro (hzero | hle)
  · rw [hzero] at htoNat
    cases htoNat
  · rw [UInt32.le_iff_toNat_le, htoNat] at hle
    omega

/-- A wait is missing only after the last attempt. -/
theorem IsCoupled.maxAttempts_le (h : p.IsCoupled) (hn : 0 < n.toNat)
    (hw : p.backoffAfter n = none) : p.maxAttempts.toNat ≤ n.toNat := by
  apply Nat.le_of_not_lt
  intro hlt
  have hi : n.toNat - 1 < p.schedule.length := by
    unfold IsCoupled at h
    omega
  have hsome := h.backoffAfter_of_lt hi
  rw [Nat.sub_add_cancel hn, UInt32.ofNat_toNat, hw] at hsome
  cases hsome

theorem backoffAfter_maxAttempts (p : RetryPolicy) : p.backoffAfter p.maxAttempts = none :=
  if_pos (Or.inr (UInt32.le_refl _))

end RetryPolicy

namespace Worker

variable {σ : Type} (w : Worker σ)

/-! ### Acts of attempts and rounds -/

/-- The acts of an attempt that ended. -/
def attemptActs (job : Job) (n : UInt32) (result : CallResult) : List Act :=
  [.call (w.callOf job n), .reply result]

/-- The acts of a round. -/
def roundAct (job : Job) (n : UInt32) (round : Round) : List Act :=
  w.attemptActs job n (.failed round.error) ++ [.wait round.wait, .wake false]

/-- The acts of the first rounds of a job. -/
def roundActs (job : Job) (rounds : List Round) : List Act :=
  rounds.zipIdx.flatMap fun p => w.roundAct job (UInt32.ofNat (p.2 + 1)) p.1

theorem roundActs_concat {job : Job} {rounds : List Round} {n : UInt32} (round : Round)
    (hn : n.toNat = rounds.length + 1) :
    w.roundActs job (rounds ++ [round]) = w.roundActs job rounds ++ w.roundAct job n round := by
  rw [roundActs, List.zipIdx_append, List.flatMap_append, ← roundActs]
  simp only [Nat.zero_add, List.zipIdx_singleton, List.flatMap_singleton]
  rw [← hn, UInt32.ofNat_toNat]

/-! ### What lies behind a stage -/

/-- The work on a delivery is at the attempt of the given number, behind the given rounds. -/
structure IsAt (d : Delivery) (job : Job) (n : UInt32) (rounds : List Round) : Prop where
  delivery_eq : job.delivery = d
  decode_eq : Command.decode d.payload = .ok job.command
  toNat_eq : n.toNat = rounds.length + 1
  grants : w.policy.Grants rounds

/-- How the work on a delivery comes to an outcome, and through which acts. -/
inductive Ending (d : Delivery) : Outcome → List Act → Prop where
  /-- The payload is no command. -/
  | poison {e : DecodeError} (h : Command.decode d.payload = .error e) : Ending d .poison []
  /-- A call succeeds. -/
  | acknowledged {job : Job} {n : UInt32} {rounds : List Round} (h : w.IsAt d job n rounds) :
    Ending d (.acknowledged n) (w.roundActs job rounds ++ w.attemptActs job n .succeeded)
  /-- A call fails, and no other one is allowed. -/
  | exhausted {job : Job} {n : UInt32} {rounds : List Round} {e : HandlerError}
    (h : w.IsAt d job n rounds) (hw : w.policy.backoffAfter n = none) :
    Ending d (.exhausted n) (w.roundActs job rounds ++ w.attemptActs job n (.failed e))
  /-- Shutdown is seen before an attempt. -/
  | unstarted {job : Job} {n : UInt32} {rounds : List Round} (h : w.IsAt d job n rounds) :
    Ending d (.interrupted (n - 1)) (w.roundActs job rounds)
  /-- Shutdown is seen in the wait that follows a failed attempt. -/
  | unfinished {job : Job} {n : UInt32} {rounds : List Round} {e : HandlerError} {wait : Nat}
    (h : w.IsAt d job n rounds) (hw : w.policy.backoffAfter n = some wait) :
    Ending d (.interrupted n)
      (w.roundActs job rounds ++ w.attemptActs job n (.failed e) ++ [.wait wait, .wake true])

end Worker

/-- The acts fit the stage: they are those by which the work on the delivery came to it. -/
def Stage.Fits {σ : Type} (w : Worker σ) (d : Delivery) (l : List Act) : Stage → Prop
  | .received d' => d' = d ∧ l = []
  | .due job n => ∃ rounds, w.IsAt d job n rounds ∧ l = w.roundActs job rounds
  | .calling job n _ _ =>
    ∃ rounds, w.IsAt d job n rounds ∧ l = w.roundActs job rounds ++ [.call (w.callOf job n)]
  | .waiting job n _ =>
    ∃ rounds e wait, w.IsAt d job n rounds ∧ w.policy.backoffAfter n = some wait ∧
      l = w.roundActs job rounds ++ w.attemptActs job n (.failed e) ++ [.wait wait]
  | .settling s => s.delivery = d ∧ w.Ending d s.outcome l
  | .finished outcome =>
    ∃ before, w.Ending d outcome before ∧
      l = before ++ [.settle (d.settle outcome.disposition)]
  | .broken text =>
    ∃ job n rounds, w.IsAt d job n rounds ∧
      l = w.roundActs job rounds ++ w.attemptActs job n (.panicked text)

/-! ### Every step keeps it -/

section Steps

variable {σ : Type} {w : Worker σ} {d : Delivery} {l : List Act} {job : Job} {n : UInt32}
  {rounds : List Round}

theorem Worker.step_received (w : Worker σ) (world : World σ) {command : Command}
    (hd : Command.decode d.payload = .ok command) :
    w.step world (.received d) = w.accept world d command := by
  simp only [step, receive, hd]

theorem fits_receive (world : World σ) :
    (w.receive world d).stage.Fits w d (acts (w.receive world d).entries) := by
  unfold Worker.receive
  cases hd : Command.decode d.payload with
  | error e =>
    rw [Worker.acts_reject]
    exact ⟨rfl, .poison hd⟩
  | ok command =>
    rw [Worker.acts_accept]
    exact ⟨[], ⟨rfl, hd, rfl, RetryPolicy.grants_nil⟩, rfl⟩

theorem fits_attempt (world : World σ) (h : w.IsAt d job n rounds) :
    (w.attempt world job n).stage.Fits w d
      (w.roundActs job rounds ++ acts (w.attempt world job n).entries) := by
  unfold Worker.attempt
  split
  · rw [Worker.acts_conclude]
    refine ⟨h.delivery_eq, ?_⟩
    show w.Ending d _ (w.roundActs job rounds ++ [])
    rw [List.append_nil]
    exact .unstarted h
  · rw [Worker.acts_call]
    exact ⟨rounds, h, rfl⟩

theorem fits_retry (world : World σ) (e : HandlerError) (h : w.IsAt d job n rounds) :
    (w.retry world job n e).stage.Fits w d
      (w.roundActs job rounds ++ [.call (w.callOf job n)] ++
        acts (w.retry world job n e).entries) := by
  unfold Worker.retry
  cases hw : w.policy.backoffAfter n with
  | none =>
    simp only [Worker.acts_conclude, List.append_assoc]
    exact ⟨h.delivery_eq, .exhausted h hw⟩
  | some wait =>
    refine ⟨rounds, e, wait, h, hw, ?_⟩
    simp only [List.append_assoc]
    rfl

theorem fits_conclusion (world : World σ) (result : CallResult) (h : w.IsAt d job n rounds) :
    (w.conclusion world job n result).stage.Fits w d
      (w.roundActs job rounds ++ [.call (w.callOf job n)] ++
        acts (w.conclusion world job n result).entries) := by
  cases result with
  | succeeded =>
    simp only [Worker.conclusion, Worker.acts_conclude, List.append_assoc]
    exact ⟨h.delivery_eq, .acknowledged h⟩
  | failed e => exact fits_retry world e h
  | panicked text =>
    refine ⟨job, n, rounds, h, ?_⟩
    rw [List.append_assoc]
    rfl

theorem fits_wake (world : World σ) {e : HandlerError} {wait : Nat} (h : w.IsAt d job n rounds)
    (hw : w.policy.backoffAfter n = some wait) :
    (w.wake world job n).stage.Fits w d
      (w.roundActs job rounds ++ w.attemptActs job n (.failed e) ++ [.wait wait] ++
        acts (w.wake world job n).entries) := by
  unfold Worker.wake
  split
  · rw [Worker.acts_conclude, List.append_assoc _ [Act.wait wait]]
    exact ⟨h.delivery_eq, .unfinished h hw⟩
  · have hlt := RetryPolicy.lt_maxAttempts_of_backoffAfter hw
    refine ⟨rounds ++ [⟨e, wait⟩],
      ⟨h.delivery_eq, h.decode_eq, ?_, h.grants.concat h.toNat_eq hw⟩, ?_⟩
    · rw [toNat_add_one_of_lt hlt, h.toNat_eq, List.length_append, List.length_singleton]
    · rw [w.roundActs_concat _ h.toNat_eq, Worker.roundAct]
      simp only [List.append_assoc]
      rfl

theorem fits_settle (world : World σ) (s : Settlement) (hd : s.delivery = d)
    (h : w.Ending d s.outcome l) :
    (w.settle world s).stage.Fits w d (l ++ acts (w.settle world s).entries) := by
  rw [Worker.acts_settle, hd]
  exact ⟨l, h, rfl⟩

/-- A step adds the acts by which it comes to the next stage. -/
theorem fits_step {stage : Stage} (world : World σ) (h : stage.Fits w d l) :
    (w.step world stage).stage.Fits w d (l ++ acts (w.step world stage).entries) := by
  cases stage with
  | received d' =>
    obtain ⟨rfl, rfl⟩ := h
    exact fits_receive world
  | due job n =>
    obtain ⟨rounds, h, rfl⟩ := h
    exact fits_attempt world h
  | calling job n since reply =>
    simp only [Worker.step]
    split
    · obtain ⟨rounds, h, rfl⟩ := h
      exact fits_conclusion world reply.result h
    · rw [acts_nil, List.append_nil]
      exact h
  | waiting job n until_ =>
    simp only [Worker.step]
    split
    · obtain ⟨rounds, e, wait, h, hw, rfl⟩ := h
      exact fits_wake world h hw
    · rw [acts_nil, List.append_nil]
      exact h
  | settling s => exact fits_settle world s h.1 h.2
  | finished outcome =>
    simp only [Worker.step, acts_nil, List.append_nil]
    exact h
  | broken text =>
    simp only [Worker.step, acts_nil, List.append_nil]
    exact h

end Steps

/-! ### Calls, answers and terminal actions behind an ending -/

namespace Worker

variable {σ : Type} (w : Worker σ)

/-- These are the calls for the first so many attempts of one job, that of the delivery. -/
def CallsFor (d : Delivery) (attempts : Nat) (calls : List Call) : Prop :=
  ∃ job : Job, job.delivery = d ∧
    (attempts ≠ 0 → Command.decode d.payload = .ok job.command) ∧
      calls = (List.range attempts).map fun i => w.callOf job (UInt32.ofNat (i + 1))

theorem calls_roundActs (job : Job) (rounds : List Round) :
    Act.calls (w.roundActs job rounds) =
      (List.range rounds.length).map fun i => w.callOf job (UInt32.ofNat (i + 1)) := by
  rw [Act.calls, roundActs, List.filterMap_flatMap, List.range_eq_range', ← List.zipIdx_map_snd,
    List.map_map, List.map_eq_flatMap]
  rfl

theorem results_roundActs (job : Job) (rounds : List Round) :
    Act.results (w.roundActs job rounds) = rounds.map fun round => .failed round.error := by
  have hrounds : rounds = rounds.zipIdx.map Prod.fst := (List.zipIdx_map_fst 0 rounds).symm
  rw [Act.results, roundActs, List.filterMap_flatMap]
  nth_rewrite 2 [hrounds]
  rw [List.map_map, List.map_eq_flatMap]
  rfl

theorem actions_roundActs (job : Job) (rounds : List Round) :
    Act.actions (w.roundActs job rounds) = [] := by
  rw [Act.actions, roundActs, List.filterMap_flatMap, List.flatMap_eq_nil_iff]
  intro p _
  rfl

variable {w} {d : Delivery} {job : Job} {n : UInt32} {rounds : List Round}

theorem callsFor_nil (d : Delivery) : w.CallsFor d 0 [] :=
  ⟨⟨d, {}, ⟨"", ""⟩⟩, rfl, fun h => absurd rfl h, rfl⟩

theorem IsAt.toNat_sub_one (h : w.IsAt d job n rounds) : (n - 1).toNat = rounds.length := by
  have hle : (1 : UInt32) ≤ n := by
    rw [UInt32.le_iff_toNat_le, h.toNat_eq]
    exact Nat.le_add_left _ _
  rw [UInt32.toNat_sub_of_le _ _ hle, h.toNat_eq]
  exact Nat.add_sub_cancel rounds.length 1

/-- The calls of the rounds behind an attempt and its own are those of all attempts so far. -/
theorem IsAt.callsFor (h : w.IsAt d job n rounds) :
    w.CallsFor d n.toNat (Act.calls (w.roundActs job rounds) ++ [w.callOf job n]) := by
  refine ⟨job, h.delivery_eq, fun _ => h.decode_eq, ?_⟩
  rw [w.calls_roundActs, h.toNat_eq, List.range_succ, List.map_append, List.map_singleton,
    ← h.toNat_eq, UInt32.ofNat_toNat]

/-- The calls of the rounds behind an attempt are those of the attempts before it. -/
theorem IsAt.callsFor_sub_one (h : w.IsAt d job n rounds) :
    w.CallsFor d (n - 1).toNat (Act.calls (w.roundActs job rounds)) := by
  refine ⟨job, h.delivery_eq, fun _ => h.decode_eq, ?_⟩
  rw [w.calls_roundActs, h.toNat_sub_one]

namespace Ending

variable {outcome : Outcome} {l : List Act}

/-- The handler is called for each attempt that the outcome counts, in order. -/
theorem callsFor (h : w.Ending d outcome l) :
    w.CallsFor d outcome.attempts.toNat (Act.calls l) := by
  cases h with
  | poison hd => exact callsFor_nil d
  | acknowledged h | exhausted h hw =>
    rw [Act.calls_append]
    exact h.callsFor
  | unstarted h => exact h.callsFor_sub_one
  | @unfinished job n rounds e wait h hw =>
    rw [Act.calls_append, Act.calls_append, show Act.calls [.wait wait, .wake true] = [] from rfl,
      List.append_nil]
    exact h.callsFor

/-- The outcome counts the calls. -/
theorem length_calls (h : w.Ending d outcome l) :
    (Act.calls l).length = outcome.attempts.toNat := by
  obtain ⟨job, -, -, hcalls⟩ := h.callsFor
  rw [hcalls, List.length_map, List.length_range]

/-- Every call has ended. -/
theorem length_results (h : w.Ending d outcome l) :
    (Act.results l).length = (Act.calls l).length := by
  cases h with
  | poison hd => rfl
  | unstarted h => rw [w.results_roundActs, w.calls_roundActs, List.length_map, List.length_map,
      List.length_range]
  | acknowledged h | exhausted h hw | unfinished h hw =>
    simp only [Act.results_append, Act.calls_append, List.length_append, w.results_roundActs,
      w.calls_roundActs, List.length_map, List.length_range]
    rfl

/-- The broker has not been asked for a terminal action. -/
theorem actions_eq_nil (h : w.Ending d outcome l) : Act.actions l = [] := by
  cases h with
  | poison hd => rfl
  | unstarted h => exact w.actions_roundActs _ _
  | acknowledged h | exhausted h hw | unfinished h hw =>
    simp only [Act.actions_append, w.actions_roundActs]
    rfl

end Ending

end Worker

/-! ### Calls and terminal actions behind a stage -/

section Stages

variable {σ : Type} {w : Worker σ} {d : Delivery} {l : List Act} {stage : Stage}

/-- The broker has not been asked for a terminal action before the end. -/
theorem actions_eq_nil_of_fits (h : stage.Fits w d l) (hn : ∀ outcome, stage ≠ .finished outcome) :
    Act.actions l = [] := by
  cases stage with
  | received d' =>
    obtain ⟨-, rfl⟩ := h
    rfl
  | due job n =>
    obtain ⟨rounds, -, rfl⟩ := h
    exact w.actions_roundActs job rounds
  | calling job n since reply =>
    obtain ⟨rounds, -, rfl⟩ := h
    rw [Act.actions_append, w.actions_roundActs]
    rfl
  | waiting job n until_ =>
    obtain ⟨rounds, e, wait, -, -, rfl⟩ := h
    rw [Act.actions_append, Act.actions_append, w.actions_roundActs]
    rfl
  | settling s => exact h.2.actions_eq_nil
  | finished outcome => exact absurd rfl (hn outcome)
  | broken text =>
    obtain ⟨job, n, rounds, -, rfl⟩ := h
    rw [Act.actions_append, w.actions_roundActs]
    rfl

/-- The handler has been called for the first so many attempts, in order. -/
theorem callsFor_of_fits (h : stage.Fits w d l) :
    ∃ n : UInt32, w.CallsFor d n.toNat (Act.calls l) := by
  cases stage with
  | received d' =>
    obtain ⟨-, rfl⟩ := h
    exact ⟨0, Worker.callsFor_nil d⟩
  | due job n =>
    obtain ⟨rounds, h, rfl⟩ := h
    exact ⟨n - 1, h.callsFor_sub_one⟩
  | calling job n since reply =>
    obtain ⟨rounds, h, rfl⟩ := h
    refine ⟨n, ?_⟩
    rw [Act.calls_append]
    exact h.callsFor
  | waiting job n until_ =>
    obtain ⟨rounds, e, wait, h, -, rfl⟩ := h
    refine ⟨n, ?_⟩
    rw [Act.calls_append, Act.calls_append, show Act.calls [.wait wait] = [] from rfl,
      List.append_nil]
    exact h.callsFor
  | settling s => exact ⟨s.outcome.attempts, h.2.callsFor⟩
  | finished outcome =>
    obtain ⟨before, hend, rfl⟩ := h
    refine ⟨outcome.attempts, ?_⟩
    rw [Act.calls_append, show Act.calls [.settle _] = [] from rfl,
      List.append_nil]
    exact hend.callsFor
  | broken text =>
    obtain ⟨job, n, rounds, h, rfl⟩ := h
    refine ⟨n, ?_⟩
    rw [Act.calls_append]
    exact h.callsFor

/-- The attempts are numbered from one, without a gap. -/
theorem attempts_of_fits (h : stage.Fits w d l) :
    Act.attempts l = List.range' 1 (Act.calls l).length := by
  obtain ⟨n, job, -, -, hcalls⟩ := callsFor_of_fits h
  rw [Act.attempts, hcalls, List.length_map, List.length_range, List.range'_eq_map_range,
    List.map_map]
  apply List.map_congr_left
  intro i hi
  have hlt : i + 1 < 2 ^ 32 :=
    Nat.lt_of_le_of_lt (List.mem_range.1 hi) n.toNat_lt
  show (UInt32.ofNat (i + 1)).toNat = 1 + i
  rw [UInt32.toNat_ofNat_of_lt' hlt, Nat.add_comm]

end Stages

end Courier
