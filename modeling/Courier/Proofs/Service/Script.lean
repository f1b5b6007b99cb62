import Courier.Proofs.Processing.Rhythm
import Courier.Proofs.Service.Batch
import Mathlib.Algebra.GroupWithZero.Nat

/-!
# A number of failures over a batch

A scripted handler fails a number of times, over all deliveries together, and then succeeds.  Let
`f` failures be left when a delivery is taken up, and let `N` attempts be allowed.  The delivery
uses up `N` of them if there are so many, and is exhausted; otherwise it uses them all, and is
acknowledged with the call after that (`usesFailures_process`).  In both cases `f - N` failures are
left to the next one.

So over a batch the failures are divided by the attempts: the quotient is the number of deliveries
that are exhausted, and the remainder is what the next one has to get over.
`callsOver_succ` and `sumOver_succ` are the steps of this division, for the calls and for the waits,
and `spendsFailures_consume` is its result.

No sleep lasts longer than `longestWait`, so a longer wait of the schedule ends with it
(`RetryPolicy.pauses`).  `now_consume_ne` is such a run.
-/

namespace Courier

open Handler (Script)

/-! ### One call after the other -/

namespace Handler

variable {s : Script} {f : Nat}

theorem failuresLeft_scripted (h : s.failuresLeft = some f) (c : Call) :
    ((scripted none).call s c).2.failuresLeft = some (f - 1) := by
  obtain ⟨failuresLeft, calls⟩ := s
  obtain rfl : failuresLeft = some f := h
  cases f with
  | zero => rfl
  | succ f => rfl

theorem isFailure_scripted (h : s.failuresLeft = some f) (hf : 0 < f) (c : Call) :
    ((scripted none).call s c).1.IsFailure := by
  obtain ⟨failuresLeft, calls⟩ := s
  obtain rfl : failuresLeft = some f := h
  cases f with
  | zero => exact absurd hf (Nat.lt_irrefl 0)
  | succ f => exact ⟨_, rfl⟩

theorem result_scripted (h : s.failuresLeft = some 0) (c : Call) :
    ((scripted none).call s c).1.result = .succeeded := by
  obtain ⟨failuresLeft, calls⟩ := s
  obtain rfl : failuresLeft = some 0 := h
  rfl

theorem duration_scripted (s : Script) (c : Call) :
    ((scripted none).call s c).1.duration = 0 := by
  obtain ⟨_ | _ | f, calls⟩ := s <;> rfl

end Handler

namespace Worker

variable {w : Worker Script} (job : Job) {memory : Script} {f i : Nat}

theorem failuresLeft_memoryAfter (hw : w.handler = .scripted none)
    (h : memory.failuresLeft = some f) (i : Nat) :
    (w.memoryAfter job memory i).failuresLeft = some (f - i) := by
  induction i with
  | zero => exact h
  | succ i ih =>
    rw [memoryAfter, hw]
    exact Handler.failuresLeft_scripted ih _

theorem isFailure_replyAt (hw : w.handler = .scripted none) (h : memory.failuresLeft = some f)
    (hi : i < f) : (w.replyAt job memory i).IsFailure := by
  rw [replyAt, hw]
  exact Handler.isFailure_scripted (failuresLeft_memoryAfter job hw h i) (Nat.sub_pos_of_lt hi) _

theorem result_replyAt (hw : w.handler = .scripted none) (h : memory.failuresLeft = some f)
    (hi : f ≤ i) : (w.replyAt job memory i).result = .succeeded := by
  have hleft := failuresLeft_memoryAfter job hw h i
  rw [Nat.sub_eq_zero_of_le hi] at hleft
  rw [replyAt, hw]
  exact Handler.result_scripted hleft _

theorem duration_replyAt (hw : w.handler = .scripted none) (memory : Script) (i : Nat) :
    (w.replyAt job memory i).duration = 0 := by
  rw [replyAt, hw]
  exact Handler.duration_scripted _ _

end Worker

/-! ### One delivery -/

namespace RetryPolicy

variable (p : RetryPolicy)

/-- The times that the waits of the schedule take. -/
def pauses : List Nat := p.schedule.map fun wait => min wait longestWait

/-- How a delivery ends that has so many failures before it. -/
def verdict (f : Nat) : Outcome :=
  if f < p.maxAttempts.toNat then .acknowledged (UInt32.ofNat (f + 1))
  else .exhausted p.maxAttempts

theorem map_pause {k : Nat} (hk : k ≤ p.schedule.length) :
    (List.range k).map p.pause = p.pauses.take k := by
  rw [pauses, ← List.map_take, ← map_waitAt p hk, List.map_map]
  rfl

/-- The pauses of the first so many rounds. -/
theorem sum_pause {k : Nat} (hk : k ≤ p.schedule.length) :
    ∑ i ∈ Finset.range k, p.pause i = (p.pauses.take k).sum := by
  rw [← p.map_pause hk]
  rfl

end RetryPolicy

/-- The work on a delivery, begun with so many failures before it, uses up what it can of them. -/
structure Run.UsesFailures (p : RetryPolicy) (world : World Script) (f : Nat) (run : Run Script) :
    Prop where
  stage_eq : run.stage = .finished (p.verdict f)
  cancelAt_eq : run.world.cancelAt = none
  failuresLeft_eq : run.world.memory.failuresLeft = some (f - p.maxAttempts.toNat)
  waits_eq : Act.waits run.acts = p.schedule.take f
  length_calls : (Act.calls run.acts).length = min (f + 1) p.maxAttempts.toNat
  now_eq : run.world.now = world.now + (p.pauses.take f).sum

namespace Worker

variable {w : Worker Script} {world : World Script} {d : Delivery} {f : Nat}

/-- A scripted run goes through `k` rounds, and comes to an outcome after one call more. -/
theorem usesFailures_of_rounds (hw : w.handler = .scripted none) (hp : w.policy.IsCoupled)
    (hc : world.cancelAt = none) (hf : world.memory.failuresLeft = some f) {command : Command}
    (hd : Command.decode d.payload = .ok command) {k : Nat}
    (hk : k = min f w.policy.schedule.length) {outcome : Outcome}
    (hn : outcome.attempts.toNat = k + 1) (houtcome : outcome = w.policy.verdict f)
    (hlast : w.Concludes (w.jobOf world d command) (UInt32.ofNat (k + 1))
      (w.replyAt (w.jobOf world d command) world.memory k).result outcome) :
    (w.process world d).UsesFailures w.policy world f := by
  have hlength : w.policy.schedule.length + 1 = w.policy.maxAttempts.toNat := hp
  have hcancels := w.cancels_scripted hw (w.jobOf world d command) world.memory
  have hfail : ∀ i < k, (w.replyAt (w.jobOf world d command) world.memory i).IsFailure :=
    fun i hi => isFailure_replyAt _ hw hf (by omega)
  have hle : k ≤ w.policy.schedule.length := by omega
  obtain ⟨drawn, hrun⟩ := w.extends_process_rounds world hd hp hc hcancels hle hfail hlast
  have hrounds := goesThrough_of_extends hle hn hrun
  -- To take as many as there are failures is to take `k`, since there are no more waits.
  have htake (l : List Nat) (hl : l.length = w.policy.schedule.length) : l.take f = l.take k := by
    rw [List.take_eq_take_iff, hk, hl]
    omega
  have hpauses : w.policy.pauses.length = w.policy.schedule.length := List.length_map _
  refine ⟨?_, ?_, ?_, ?_, ?_, ?_⟩
  · rw [hrun.stage_eq, houtcome]
  · rw [hrun.world_eq]
    exact hc
  · rw [hrun.world_eq]
    exact (failuresLeft_memoryAfter _ hw hf (k + 1)).trans (congrArg some (by omega))
  · rw [hrounds.waits_eq, htake _ rfl]
  · have hattempts := congrArg List.length hrounds.attempts_eq
    rw [Act.attempts, List.length_map, List.length_range'] at hattempts
    omega
  · rw [hrounds.now_eq, w.policy.sum_pause hle, htake _ hpauses,
      Finset.sum_eq_zero fun i _ => duration_replyAt _ hw _ i, Nat.add_zero]

/-- **One delivery**, with so many failures before it. -/
theorem usesFailures_process (hw : w.handler = .scripted none) (hp : w.policy.IsCoupled)
    (hc : world.cancelAt = none) (hf : world.memory.failuresLeft = some f)
    (hd : d.isPoison = false) : (w.process world d).UsesFailures w.policy world f := by
  have hlength : w.policy.schedule.length + 1 = w.policy.maxAttempts.toNat := hp
  obtain ⟨command, hcommand⟩ := Delivery.isPoison_eq_false_iff.1 hd
  by_cases hlt : f < w.policy.maxAttempts.toNat
  · -- Some call is left when the failures are over.
    have hverdict : w.policy.verdict f = .acknowledged (UInt32.ofNat (f + 1)) := if_pos hlt
    have hk : f = min f w.policy.schedule.length := by omega
    have hn : (Outcome.acknowledged (UInt32.ofNat (f + 1))).attempts.toNat = f + 1 :=
      UInt32.toNat_ofNat_of_lt' (Nat.lt_of_le_of_lt hlt w.policy.maxAttempts.toNat_lt)
    refine usesFailures_of_rounds hw hp hc hf hcommand hk hn hverdict.symm ?_
    rw [result_replyAt _ hw hf (Nat.le_refl f)]
    exact w.concludes_succeeded _ _
  · have hverdict : w.policy.verdict f = .exhausted w.policy.maxAttempts := if_neg hlt
    have hk : w.policy.schedule.length = min f w.policy.schedule.length := by omega
    have hn : (Outcome.exhausted w.policy.maxAttempts).attempts.toNat =
        w.policy.schedule.length + 1 := hlength.symm
    refine usesFailures_of_rounds hw hp hc hf hcommand hk hn hverdict.symm ?_
    have hlast : w.policy.schedule.length < f := by omega
    obtain ⟨e, he⟩ := isFailure_replyAt (w.jobOf world d command) hw hf hlast
    rw [he, hlength, UInt32.ofNat_toNat]
    exact w.concludes_failed _ e (RetryPolicy.backoffAfter_maxAttempts _)

end Worker

/-! ### Failures divided by attempts -/

/-- The calls for `m` deliveries, with `N` attempts for each and `k` failures before them. -/
def callsOver (N m k : Nat) : Nat := if m ≤ k / N then m * N else k + m - k / N

/-- What a list of waits comes to over `m` deliveries: the whole of it for each that is exhausted,
and a part of it for the next one. -/
def sumOver (l : List Nat) (N m k : Nat) : Nat :=
  min m (k / N) * l.sum + if k / N < m then (l.take (k % N)).sum else 0

section Division

variable {N : Nat} {l : List Nat}

theorem callsOver_zero (N k : Nat) : callsOver N 0 k = 0 := by
  rw [callsOver, if_pos (Nat.zero_le _), Nat.zero_mul]

theorem sumOver_zero (l : List Nat) (N k : Nat) : sumOver l N 0 k = 0 := by
  rw [sumOver, Nat.zero_min, Nat.zero_mul, if_neg (Nat.not_lt_zero _)]

theorem callsOver_succ (hN : 0 < N) (m k : Nat) :
    callsOver N (m + 1) k = min (k + 1) N + callsOver N m (k - N) := by
  unfold callsOver
  rcases Nat.lt_or_ge k N with hlt | hle
  · have hnone : k - N = 0 := Nat.sub_eq_zero_of_le (Nat.le_of_lt hlt)
    have hrest : (if m ≤ 0 then m * N else 0 + m - 0) = m := by
      split
      · rename_i hm
        rw [Nat.le_zero.1 hm, Nat.zero_mul]
      · omega
    rw [hnone, Nat.div_eq_of_lt hlt, Nat.zero_div, Nat.min_eq_left hlt, hrest,
      if_neg (Nat.not_succ_le_zero m)]
    omega
  · obtain ⟨rest, rfl⟩ := Nat.exists_eq_add_of_le hle
    rw [Nat.add_sub_cancel_left, Nat.add_div_left rest hN, Nat.min_eq_right (by omega),
      Nat.add_mul]
    have hquotient : rest / N ≤ rest := Nat.div_le_self rest N
    split <;> split <;> omega

theorem sumOver_succ (hN : 0 < N) (hl : l.length < N) (m k : Nat) :
    sumOver l N (m + 1) k = (l.take k).sum + sumOver l N m (k - N) := by
  unfold sumOver
  rcases Nat.lt_or_ge k N with hlt | hle
  · have hnone : k - N = 0 := Nat.sub_eq_zero_of_le (Nat.le_of_lt hlt)
    rw [hnone, Nat.div_eq_of_lt hlt, Nat.mod_eq_of_lt hlt, Nat.zero_div, Nat.zero_mod]
    simp
  · obtain ⟨rest, rfl⟩ := Nat.exists_eq_add_of_le hle
    have hall : l.take (N + rest) = l := List.take_of_length_le (by omega)
    rw [hall, Nat.add_sub_cancel_left, Nat.add_div_left rest hN, Nat.add_mod_left,
      Nat.succ_min_succ, Nat.succ_mul]
    simp only [Nat.add_lt_add_iff_right]
    omega

end Division

namespace RetryPolicy

variable {p : RetryPolicy} {k i : Nat}

/-- As long as there are failures for all attempts, deliveries are exhausted. -/
theorem verdict_of_lt (hi : i < k / p.maxAttempts.toNat) :
    p.verdict (k - i * p.maxAttempts.toNat) = .exhausted p.maxAttempts := by
  have hle : (i + 1) * p.maxAttempts.toNat ≤ k := Nat.mul_le_of_le_div _ _ _ hi
  rw [Nat.succ_mul] at hle
  exact if_neg (by omega)

/-- The next delivery gets over the remainder. -/
theorem verdict_div (hp : 0 < p.maxAttempts.toNat) :
    p.verdict (k - k / p.maxAttempts.toNat * p.maxAttempts.toNat) =
      .acknowledged (UInt32.ofNat (k % p.maxAttempts.toNat + 1)) := by
  have hrest : k - k / p.maxAttempts.toNat * p.maxAttempts.toNat = k % p.maxAttempts.toNat := by
    rw [Nat.mul_comm, Nat.mod_eq_sub_mul_div]
  rw [hrest]
  exact if_pos (Nat.mod_lt k hp)

/-- No failure is left after that. -/
theorem verdict_of_gt (hp : 0 < p.maxAttempts.toNat) (hi : k / p.maxAttempts.toNat < i) :
    p.verdict (k - i * p.maxAttempts.toNat) = .acknowledged 1 := by
  have hlt : k < i * p.maxAttempts.toNat := (Nat.div_lt_iff_lt_mul hp).1 hi
  rw [Nat.sub_eq_zero_of_le (Nat.le_of_lt hlt)]
  exact if_pos hp

end RetryPolicy

/-! ### Whole batches -/

/-- What the cases of so many deliveries come to, with `k` failures before them. -/
structure SplitFailures (p : RetryPolicy) (m k : Nat) (cases : List Case) : Prop where
  outcome_eq : ∀ i c, cases[i]? = some c →
    c.outcome = p.verdict (k - i * p.maxAttempts.toNat)
  length_calls : (Act.calls (cases.flatMap (·.acts))).length = callsOver p.maxAttempts.toNat m k
  sum_waits : (Act.waits (cases.flatMap (·.acts))).sum =
    sumOver p.schedule p.maxAttempts.toNat m k

section Batch

variable {w : Worker Script} {world : World Script} {p : RetryPolicy} {m k : Nat}
  {cases : List Case} {d : Delivery} {ds : List Delivery}

theorem splitFailures_nil (p : RetryPolicy) (k : Nat) : SplitFailures p 0 k [] where
  outcome_eq i c h := by cases h
  length_calls := (callsOver_zero _ k).symm
  sum_waits := (sumOver_zero _ _ k).symm

/-- One delivery, and those after it. -/
theorem SplitFailures.cons (hp : p.IsCoupled) {run : Run Script}
    (hrun : run.UsesFailures p world k)
    (h : SplitFailures p m (k - p.maxAttempts.toNat) cases) (d : Delivery) :
    SplitFailures p (m + 1) k (⟨d, run.acts, p.verdict k⟩ :: cases) := by
  have hlength : p.schedule.length + 1 = p.maxAttempts.toNat := hp
  refine ⟨?_, ?_, ?_⟩
  · intro i c hc
    cases i with
    | zero =>
      obtain rfl := Option.some.inj hc
      rw [Nat.zero_mul]
      rfl
    | succ i =>
      rw [h.outcome_eq i c hc, Nat.succ_mul, Nat.sub_sub, Nat.add_comm]
  · rw [List.flatMap_cons, Act.calls_append, List.length_append, hrun.length_calls,
      h.length_calls, callsOver_succ (by omega)]
  · rw [List.flatMap_cons, Act.waits_append, List.sum_append, hrun.waits_eq, h.sum_waits,
      sumOver_succ (by omega) (by omega)]

/-- A batch is worked through, whatever the number of failures. -/
theorem exists_worksThrough (hw : w.handler = .scripted none) (hp : w.policy.IsCoupled)
    (hc : world.cancelAt = none) (hk : world.memory.failuresLeft = some k)
    (hds : ∀ d ∈ ds, d.isPoison = false) :
    ∃ cases world', w.WorksThrough world ds cases world' ∧
      SplitFailures w.policy ds.length k cases ∧
      world'.now = world.now + sumOver w.policy.pauses w.policy.maxAttempts.toNat ds.length k := by
  induction ds generalizing world k with
  | nil =>
    refine ⟨[], world, .nil, splitFailures_nil _ k, ?_⟩
    rw [List.length_nil, sumOver_zero, Nat.add_zero]
  | cons d ds ih =>
    have hlength : w.policy.schedule.length + 1 = w.policy.maxAttempts.toNat := hp
    have hpauses : w.policy.pauses.length < w.policy.maxAttempts.toNat := by
      rw [RetryPolicy.pauses, List.length_map]
      omega
    have hd := w.usesFailures_process hw hp hc hk (hds d (List.mem_cons_self ..))
    obtain ⟨cases, world', hrest, hsplit, hnow⟩ := ih hd.cancelAt_eq hd.failuresLeft_eq
      fun d' hd' => hds d' (List.mem_cons_of_mem _ hd')
    refine ⟨_, world', .cons hd.stage_eq hrest, hsplit.cons hp hd d, ?_⟩
    rw [hnow, hd.now_eq, List.length_cons, sumOver_succ (by omega) hpauses, Nat.add_assoc]

end Batch

/-- What a run of the loop over a batch comes to, begun at `start` with `k` failures before it. -/
structure LoopRun.SpendsFailures (p : RetryPolicy) (start : Nat) (ds : List Delivery) (k : Nat)
    (run : LoopRun Script) : Prop where
  phase_eq : run.loop.phase = .ended
  /-- Every delivery has its case, in order, with one terminal action. -/
  deliveries_eq : run.docket.closed.map (·.delivery) = ds
  settledOnce : ∀ c ∈ run.docket.closed, SettledOnce c.delivery c.outcome c.acts
  /-- As many deliveries as all attempts can be used up for are exhausted. -/
  exhausted : ∀ i c, run.docket.closed[i]? = some c → i < k / p.maxAttempts.toNat →
    c.outcome = .exhausted p.maxAttempts
  /-- The next one gets over the failures that are left. -/
  turning : ∀ c, run.docket.closed[k / p.maxAttempts.toNat]? = some c →
    c.outcome = .acknowledged (UInt32.ofNat (k % p.maxAttempts.toNat + 1))
  /-- Every other one succeeds at once. -/
  succeeding : ∀ i c, run.docket.closed[i]? = some c → k / p.maxAttempts.toNat < i →
    c.outcome = .acknowledged 1
  length_calls : (Act.calls (acts run.entries)).length =
    if ds.length ≤ k / p.maxAttempts.toNat then ds.length * p.maxAttempts.toNat
    else k + ds.length - k / p.maxAttempts.toNat
  sum_waits : (Act.waits (acts run.entries)).sum =
    min ds.length (k / p.maxAttempts.toNat) * p.schedule.sum +
      if k / p.maxAttempts.toNat < ds.length then (p.schedule.take (k % p.maxAttempts.toNat)).sum
      else 0
  now_eq : run.world.now = start + (min ds.length (k / p.maxAttempts.toNat) * p.pauses.sum +
    if k / p.maxAttempts.toNat < ds.length then (p.pauses.take (k % p.maxAttempts.toNat)).sum
    else 0)

namespace Worker

/-- **A number of failures over a batch.**  Without shutdown, and under a policy with a wait after
every attempt but the last, let the handler fail `k` times over a batch of commands.  The quotient
of `k` by the attempts is the number of deliveries that are exhausted, its remainder the number of
failures of the next one, and every other delivery succeeds at once.  The calls and the waits are
as many as that makes, and no more time passes than the waits take. -/
theorem spendsFailures_consume (w : Worker Script) (world : World Script) (ds : List Delivery)
    {k : Nat} (hw : w.handler = .scripted none) (hp : w.policy.IsCoupled)
    (hc : world.cancelAt = none) (hk : world.memory.failuresLeft = some k)
    (hds : ∀ d ∈ ds, d.isPoison = false) :
    (w.consume world (batch ds)).SpendsFailures w.policy world.now ds k := by
  obtain ⟨cases, world', hworks, hsplit, hnow⟩ := exists_worksThrough hw hp hc hk hds
  have hdone := hworks.hasDone_consume
  have hlength : w.policy.schedule.length + 1 = w.policy.maxAttempts.toNat := hp
  have hpos : 0 < w.policy.maxAttempts.toNat := by omega
  have hclosed : (w.consume world (batch ds)).docket.closed = cases := by rw [hdone.docket_eq]
  refine ⟨hdone.phase_eq, ?_, ?_, ?_, ?_, ?_, ?_, ?_, ?_⟩
  · rw [hclosed, hworks.map_delivery]
  · rw [hclosed]
    exact hworks.settledOnce
  · intro i c hmem hi
    rw [hclosed] at hmem
    rw [hsplit.outcome_eq i c hmem, RetryPolicy.verdict_of_lt hi]
  · intro c hmem
    rw [hclosed] at hmem
    rw [hsplit.outcome_eq _ c hmem, RetryPolicy.verdict_div hpos]
  · intro i c hmem hi
    rw [hclosed] at hmem
    rw [hsplit.outcome_eq i c hmem, RetryPolicy.verdict_of_gt hpos hi]
  · rw [hdone.acts_eq]
    exact hsplit.length_calls
  · rw [hdone.acts_eq]
    exact hsplit.sum_waits
  · rw [hdone.world_eq]
    exact hnow

/-- Four failures and three attempts: the first of three deliveries is exhausted, the second one
succeeds after a failure, the third one at once. -/
theorem spendsFailures_consume_four :
    let w := Worker.scripted none
    let world : World Script := { memory := ⟨some 4, []⟩ }
    let ds : List Delivery := [.refused, .refused, .refused]
    let run := w.consume world (batch ds)
    w.policy.IsCoupled ∧ (∀ d ∈ ds, d.isPoison = false) ∧
      run.SpendsFailures w.policy 0 ds 4 ∧ (Act.calls (acts run.entries)).length = 6 ∧
        run.world.now = 5000 := by
  intro w world ds run
  have hcommand : Delivery.refused.isPoison = false :=
    Delivery.isPoison_eq_false_iff.2 ⟨_, decode_refused⟩
  have hds : ∀ d ∈ ds, d.isPoison = false := by
    intro d hd
    simp only [ds, List.mem_cons, List.not_mem_nil, or_false, or_self] at hd
    rwa [hd]
  have hrun := spendsFailures_consume w world ds rfl rfl rfl rfl hds
  exact ⟨rfl, hds, hrun, hrun.length_calls.trans (by decide), hrun.now_eq.trans (by decide)⟩

/-- Nobody sleeps for ten billion seconds: one failure and two attempts make one wait, and
yet less time passes than the schedule says. -/
theorem now_consume_ne :
    let w : Worker Script := { Worker.scripted none with policy := ⟨2, [10000000000000]⟩ }
    let world : World Script := { memory := ⟨some 1, []⟩ }
    let ds : List Delivery := [.refused]
    w.policy.IsCoupled ∧ (∀ d ∈ ds, d.isPoison = false) ∧
      (w.consume world (batch ds)).world.now ≠
        world.now + (min ds.length (1 / 2) * w.policy.schedule.sum +
          if 1 / 2 < ds.length then (w.policy.schedule.take (1 % 2)).sum else 0) := by
  intro w world ds
  have hcommand : Delivery.refused.isPoison = false :=
    Delivery.isPoison_eq_false_iff.2 ⟨_, decode_refused⟩
  have hds : ∀ d ∈ ds, d.isPoison = false := List.forall_mem_singleton.2 hcommand
  have hp : w.policy.IsCoupled := rfl
  have hk : world.memory.failuresLeft = some 1 := rfl
  obtain ⟨cases, world', hworks, -, hnow⟩ := exists_worksThrough rfl hp rfl hk hds
  refine ⟨hp, hds, ?_⟩
  rw [hworks.hasDone_consume.world_eq, hnow]
  decide

end Worker

end Courier
