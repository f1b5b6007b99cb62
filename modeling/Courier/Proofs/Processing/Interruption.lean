import Courier.Proofs.Processing.Interleaving

/-!
# Shutdown while a delivery is worked on

Once the worker has seen shutdown it starts no call, lets a call that runs come to its end, and
waits for nothing else.  The outcome is then fixed by the answers of the calls made (`verdict`).

* `quiet_step`: shutdown stays seen, and no call starts from then on (`Run.calls_play`).
* `verdict_of_fits`: at the end the outcome is the verdict on the answers.  This needs no shutdown:
  it holds of every run whose policy has a wait after every attempt but the last
  (`RetryPolicy.IsCoupled`).
* `now_toEnd_of_seesShutdown`: the work is over as soon as a call that runs is (`Stage.freeAt`).

`verdict_of_seesShutdown` puts them together, for a shutdown at any point of any run.
-/

namespace Courier

/-- How a delivery ends whose calls were answered so and that gets no more calls: by the last
answer, and by whether it was the last one allowed.  There is no outcome if the handler broke. -/
def verdict (maxAttempts : UInt32) (results : List CallResult) : Option Outcome :=
  let n := UInt32.ofNat results.length
  match results.getLast? with
  | none => some (.interrupted 0)
  | some .succeeded => some (.acknowledged n)
  | some (.failed _) => some (if n = maxAttempts then .exhausted maxAttempts else .interrupted n)
  | some (.panicked _) => none

/-- The time at which no call runs any more. -/
def Stage.freeAt (now : Nat) : Stage → Nat
  | .calling _ _ since reply => max now (reply.endsAt since)
  | _ => now

variable {σ : Type}

/-! ### The verdict on the answers -/

namespace Worker

variable {w : Worker σ} {d : Delivery} {job : Job} {n : UInt32} {rounds : List Round}
  {outcome : Outcome} {l : List Act}

/-- Under a coupled policy no attempt goes beyond the last one allowed. -/
theorem IsAt.toNat_le_maxAttempts (h : w.IsAt d job n rounds) (hp : w.policy.IsCoupled) :
    n.toNat ≤ w.policy.maxAttempts.toNat := by
  rcases List.eq_nil_or_concat rounds with rfl | ⟨init, last, rfl⟩
  · rw [h.toNat_eq]
    unfold RetryPolicy.IsCoupled at hp
    exact hp ▸ Nat.le_add_left _ _
  · have hlt := h.grants.length_lt (by simp) h.toNat_sub_one
    rw [h.toNat_sub_one] at hlt
    rw [h.toNat_eq]
    exact hlt

theorem verdict_concat (maxAttempts : UInt32) (results : List CallResult) (n : UInt32)
    (hn : n.toNat = results.length + 1) (result : CallResult) :
    verdict maxAttempts (results ++ [result]) =
      match result with
      | .succeeded => some (.acknowledged n)
      | .failed _ =>
        some (if n = maxAttempts then .exhausted maxAttempts else .interrupted n)
      | .panicked _ => none := by
  unfold verdict
  rw [List.getLast?_concat, List.length_append, List.length_singleton, ← hn, UInt32.ofNat_toNat]
  cases result <;> rfl

/-- The answers behind an ending fix the outcome. -/
theorem Ending.verdict_eq (h : w.Ending d outcome l) (hne : outcome ≠ .poison)
    (hp : w.policy.IsCoupled) : verdict w.policy.maxAttempts (Act.results l) = some outcome := by
  have hlength : ∀ rounds : List Round,
      (rounds.map fun round => CallResult.failed round.error).length = rounds.length :=
    fun rounds => List.length_map _
  cases h with
  | poison hd => exact absurd rfl hne
  | @acknowledged job n rounds h =>
    rw [Act.results_append, w.results_roundActs]
    exact verdict_concat _ _ n (by rw [hlength, h.toNat_eq]) .succeeded
  | @exhausted job n rounds e h hw =>
    have hpos : 0 < n.toNat := by rw [h.toNat_eq]; exact Nat.succ_pos _
    have hn : n = w.policy.maxAttempts := UInt32.toNat_inj.1
      (Nat.le_antisymm (h.toNat_le_maxAttempts hp) (hp.maxAttempts_le hpos hw))
    rw [Act.results_append, w.results_roundActs]
    refine (verdict_concat _ _ n (by rw [hlength, h.toNat_eq]) (.failed e)).trans ?_
    rw [if_pos hn, hn]
  | @unstarted job n rounds h =>
    rw [w.results_roundActs]
    rcases List.eq_nil_or_concat rounds with rfl | ⟨init, last, rfl⟩
    · have hn : n = 1 := UInt32.toNat_inj.1 h.toNat_eq
      rw [hn]
      rfl
    · have hsub := h.toNat_sub_one
      have hlt := h.grants.length_lt (by simp) hsub
      have hne : n - 1 ≠ w.policy.maxAttempts := by
        intro heq
        rw [heq] at hlt
        exact Nat.lt_irrefl _ hlt
      rw [List.length_concat] at hsub
      rw [List.concat_eq_append, List.map_append, List.map_singleton]
      refine (verdict_concat _ _ (n - 1) (by rw [hlength, hsub]) (.failed last.error)).trans ?_
      rw [if_neg hne]
  | @unfinished job n rounds e wait h hw =>
    have hne : n ≠ w.policy.maxAttempts := by
      intro heq
      have hlt := RetryPolicy.toNat_lt_maxAttempts hw
      rw [heq] at hlt
      exact Nat.lt_irrefl _ hlt
    rw [Act.results_append, Act.results_append, w.results_roundActs,
      show Act.results [.wait wait, .wake true] = [] from rfl, List.append_nil]
    refine (verdict_concat _ _ n (by rw [hlength, h.toNat_eq]) (.failed e)).trans ?_
    rw [if_neg hne]

end Worker

/-- At the end the outcome is the verdict on the answers, and every call has been answered. -/
theorem verdict_of_fits {w : Worker σ} {d : Delivery} {command : Command} {run : Run σ}
    (hd : Command.decode d.payload = .ok command) (hp : w.policy.IsCoupled)
    (h : run.stage.Fits w d run.acts) (hfinal : run.stage.isFinal) :
    run.outcome? = verdict w.policy.maxAttempts (Act.results run.acts) ∧
      (Act.results run.acts).length = (Act.calls run.acts).length := by
  unfold Run.outcome?
  cases hstage : run.stage with
  | finished outcome =>
    rw [hstage] at h
    obtain ⟨before, hend, hacts⟩ := h
    have hne : outcome ≠ .poison := by
      rintro rfl
      cases hend with
      | poison he => rw [hd] at he; cases he
    have hresults : Act.results run.acts = Act.results before := by
      rw [hacts, Act.results_append]
      exact List.append_nil _
    have hcalls : Act.calls run.acts = Act.calls before := by
      rw [hacts, Act.calls_append]
      exact List.append_nil _
    rw [hresults, hcalls]
    exact ⟨(hend.verdict_eq hne hp).symm, hend.length_results⟩
  | broken text =>
    rw [hstage] at h
    obtain ⟨job, n, rounds, h, hacts⟩ := h
    have hlength : n.toNat = (rounds.map fun r => CallResult.failed r.error).length + 1 := by
      rw [List.length_map, h.toNat_eq]
    rw [hacts, Act.results_append, Act.calls_append, w.results_roundActs, w.calls_roundActs]
    refine ⟨(Worker.verdict_concat _ _ n hlength (.panicked text)).symm, ?_⟩
    simp only [List.length_append, List.length_map, List.length_range]
    rfl
  | received _ | due _ _ | calling _ _ _ _ | waiting _ _ _ | settling _ =>
    rw [hstage] at hfinal
    cases hfinal

/-! ### Shutdown that has been seen -/

theorem isCancelled_iff {world : World σ} :
    world.isCancelled = true ↔ ∃ c, world.cancelAt = some c ∧ c ≤ world.now := by
  unfold World.isCancelled
  rw [Option.any_eq_true]
  simp only [decide_eq_true_eq]

theorem isCancelled_cancel (world : World σ) : world.cancel.isCancelled = true :=
  isCancelled_iff.2 ⟨_, rfl, Nat.min_le_left _ _⟩

theorem isCancelled_at {world : World σ} {time : Nat} (h : world.isCancelled = true)
    (hle : world.now ≤ time) : (world.at time).isCancelled = true := by
  obtain ⟨c, hc, hle'⟩ := isCancelled_iff.1 h
  exact isCancelled_iff.2 ⟨c, hc, Nat.le_trans hle' hle⟩

namespace Worker

variable {w : Worker σ} {world : World σ}

theorem seesShutdown_iff :
    w.seesShutdown world = true ↔ w.heedsShutdown = true ∧ world.isCancelled = true := by
  unfold seesShutdown
  exact Bool.and_eq_true_iff

theorem seesShutdown_at {time : Nat} (h : w.seesShutdown world = true) (hle : world.now ≤ time) :
    w.seesShutdown (world.at time) = true := by
  obtain ⟨hw, hc⟩ := seesShutdown_iff.1 h
  exact seesShutdown_iff.2 ⟨hw, isCancelled_at hc hle⟩

theorem seesShutdown_cancel (h : w.seesShutdown world = true) :
    w.seesShutdown world.cancel = true :=
  seesShutdown_iff.2 ⟨(seesShutdown_iff.1 h).1, isCancelled_cancel world⟩

theorem now_step (w : Worker σ) (world : World σ) (stage : Stage) :
    (w.step world stage).world.now = world.now := by
  cases stage with
  | received d =>
    simp only [step, receive]
    split
    · rfl
    · rfl
  | due job n =>
    simp only [step, attempt]
    split
    · rfl
    · simp only [call]
      split
      · rfl
      · rfl
  | calling job n since reply =>
    simp only [step]
    split
    · cases reply.result with
      | succeeded => rfl
      | failed e =>
        simp only [conclusion, retry]
        split
        · rfl
        · rfl
      | panicked text => rfl
    · rfl
  | waiting job n until_ =>
    simp only [step]
    split
    · unfold wake
      split
      · rfl
      · rfl
    · rfl
  | settling s => rfl
  | finished outcome => rfl
  | broken text => rfl

/-- What a step leads to under a shutdown that has been seen: it stays seen, no call has started,
and unless the step had to wait no call runs. -/
structure Quiet (w : Worker σ) (ready : Bool) (now : Nat) (progress : Progress σ) : Prop where
  seesShutdown : w.seesShutdown progress.world = true
  calls_eq_nil : Act.calls (acts progress.entries) = []
  freeAt_eq : ready = true → progress.stage.freeAt now = now

theorem quiet_conclude {ready : Bool} {job : Job} {outcome : Outcome} {attempt : Option UInt32}
    {entries : List Entry} (h : w.seesShutdown world = true)
    (hcalls : Act.calls (acts entries) = []) :
    w.Quiet ready world.now (w.conclude world job outcome attempt entries) :=
  ⟨h, by rw [acts_conclude, hcalls], fun _ => rfl⟩

theorem quiet_conclusion {ready : Bool} (job : Job) (n : UInt32) (result : CallResult)
    (h : w.seesShutdown world = true) :
    w.Quiet ready world.now (w.conclusion world job n result) := by
  cases result with
  | succeeded => exact quiet_conclude h rfl
  | failed e =>
    simp only [conclusion, retry]
    split
    · exact quiet_conclude h rfl
    · exact ⟨h, rfl, fun _ => rfl⟩
  | panicked text => exact ⟨h, rfl, fun _ => rfl⟩

theorem quiet_step (stage : Stage) (h : w.seesShutdown world = true) :
    w.Quiet (stage.isReady w world) world.now (w.step world stage) := by
  cases stage with
  | received d =>
    simp only [step, receive]
    split
    · exact ⟨h, by rw [acts_reject]; rfl, fun _ => rfl⟩
    · exact ⟨h, by rw [acts_accept]; rfl, fun _ => rfl⟩
  | due job n =>
    simp only [step, attempt]
    rw [if_pos h]
    exact quiet_conclude h rfl
  | calling job n since reply =>
    simp only [step]
    split
    · exact quiet_conclusion job n reply.result h
    · rename_i hnot
      refine ⟨h, rfl, fun hready => ?_⟩
      exact absurd (of_decide_eq_true hready) hnot
  | waiting job n until_ =>
    simp only [step, wake]
    rw [if_pos (Or.inl h), if_pos h]
    exact quiet_conclude h rfl
  | settling s => exact ⟨h, by rw [step, acts_settle]; rfl, fun _ => rfl⟩
  | finished outcome => exact ⟨h, rfl, fun _ => rfl⟩
  | broken text => exact ⟨h, rfl, fun _ => rfl⟩

/-- Under a shutdown that has been seen there is nothing to wait for but a call. -/
theorem readyAt_of_seesShutdown (stage : Stage) (h : w.seesShutdown world = true) :
    w.readyAt world stage = stage.freeAt world.now := by
  obtain ⟨hw, hc⟩ := seesShutdown_iff.1 h
  obtain ⟨c, hc, hle⟩ := isCancelled_iff.1 hc
  cases stage with
  | waiting job n until_ =>
    simp only [readyAt, shutdownSeenAt, hw, if_true, hc, Option.map_some]
    rw [Nat.max_eq_left hle]
    exact Nat.min_eq_right (Nat.le_max_left _ _)
  | calling _ _ _ _ | received _ | due _ _ | settling _ | finished _ | broken _ => rfl

/-- From a shutdown that has been seen on, the work takes no longer than a call that runs. -/
theorem now_toEnd_of_seesShutdown (stage : Stage) (h : w.seesShutdown world = true) :
    (w.toEnd world stage).world.now = stage.freeAt world.now := by
  fun_induction toEnd w world stage with
  | case1 world stage hfinal =>
    cases stage with
    | finished _ | broken _ => rfl
    | received _ | due _ _ | calling _ _ _ _ | waiting _ _ _ | settling _ => cases hfinal
  | case2 world stage hfinal world' progress run ih =>
    have hnow : world'.now = stage.freeAt world.now := readyAt_of_seesShutdown stage h
    have hready : stage.isReady w world' = true := isReady_readyAt (by simpa using hfinal)
    have hquiet := quiet_step stage (seesShutdown_at h (le_readyAt w world stage))
    have hfree := hquiet.freeAt_eq hready
    rw [ih hquiet.seesShutdown, now_step, ← hnow]
    exact hfree

/-- A call that runs is the next thing to end, at its own time. -/
theorem head?_toEnd_calling (w : Worker σ) (world : World σ) (job : Job) (n : UInt32) (since : Nat)
    (reply : Reply) :
    (w.toEnd world (.calling job n since reply)).journal.timedActs.head? =
      some (max world.now (reply.endsAt since), .reply reply.result) := by
  have hready : reply.endsAt since ≤ max world.now (reply.endsAt since) := Nat.le_max_right _ _
  rw [toEnd, dif_neg (by exact Bool.false_ne_true)]
  simp only [readyAt, step, World.at, hready, if_true, Journal.timedActs_append,
    Journal.timedActs_stamp]
  cases reply.result with
  | succeeded =>
    rw [conclusion, acts_conclude]
    rfl
  | failed e =>
    simp only [conclusion, retry]
    split
    · rw [acts_conclude]
      rfl
    · rfl
  | panicked text => rfl

end Worker

/-! ### Runs that go on under shutdown -/

namespace Run

variable {w : Worker σ} {run : Run σ}

theorem seesShutdown_follow (event : Worker.Event) (h : w.seesShutdown run.world = true) :
    w.seesShutdown (run.follow w event).world = true := by
  cases event with
  | step => exact (Worker.quiet_step run.stage h).seesShutdown
  | cancel => exact Worker.seesShutdown_cancel h
  | elapse time => exact Worker.seesShutdown_at h (Nat.le_add_right _ _)

theorem calls_follow (event : Worker.Event) (h : w.seesShutdown run.world = true) :
    Act.calls (run.follow w event).acts = Act.calls run.acts := by
  cases event with
  | step =>
    simp only [acts, follow, Journal.entries_append, Journal.entries_stamp, acts_append,
      Act.calls_append, (Worker.quiet_step run.stage h).calls_eq_nil, List.append_nil]
  | cancel => rfl
  | elapse time => rfl

/-- No call starts once shutdown has been seen. -/
theorem calls_play (events : List Worker.Event) (h : w.seesShutdown run.world = true) :
    Act.calls (run.play w events).acts = Act.calls run.acts := by
  induction events generalizing run with
  | nil => rfl
  | cons event events ih =>
    rw [play_cons, ih (seesShutdown_follow event h), calls_follow event h]

end Run

/-- **Shutdown at any point.**  Let the worker see shutdown after some events of a run, with the
calls made by then numbered up to `n`.  However the run goes on, no further call starts, and at its
end every call has been answered and the outcome is the verdict on the answers.  Left to itself the
worker comes to that end: the call that runs, if one does, is answered in its own time, and nothing
else is waited for. -/
theorem verdict_of_seesShutdown (w : Worker σ) (world : World σ) (d : Delivery) (command : Command)
    (hd : Command.decode d.payload = .ok command) (hp : w.policy.IsCoupled)
    (events : List Worker.Event) (h : w.seesShutdown (w.play world d events).world = true) :
    let run := w.play world d events
    let n := (Act.calls run.acts).length
    let rest := w.toEnd run.world run.stage
    Act.attempts run.acts = List.range' 1 n ∧
    (∀ more, Act.calls (w.play world d (events ++ more)).acts = Act.calls run.acts) ∧
    (∀ more, (w.play world d (events ++ more)).stage.isFinal = true →
      let results := Act.results (w.play world d (events ++ more)).acts
      results.length = n ∧
      (w.play world d (events ++ more)).outcome? = verdict w.policy.maxAttempts results) ∧
    (∃ more, w.play world d (events ++ more) =
      { rest with journal := run.journal ++ rest.journal }) ∧
    rest.stage.isFinal = true ∧
    rest.world.now = run.stage.freeAt run.world.now ∧
    (∀ job m since reply, run.stage = .calling job m since reply →
      rest.journal.timedActs.head? =
        some (max run.world.now (reply.endsAt since), .reply reply.result)) := by
  intro run n rest
  have hcalls : ∀ more, Act.calls (w.play world d (events ++ more)).acts = Act.calls run.acts := by
    intro more
    rw [Worker.play_append]
    exact Run.calls_play more h
  refine ⟨attempts_of_fits (fits_play w world d events), hcalls, ?_, ?_,
    isFinal_toEnd w run.world run.stage, Worker.now_toEnd_of_seesShutdown run.stage h, ?_⟩
  · intro more hfinal results
    obtain ⟨hverdict, hlength⟩ :=
      verdict_of_fits hd hp (fits_play w world d (events ++ more)) hfinal
    exact ⟨by rw [hlength, hcalls more], hverdict⟩
  · obtain ⟨more, hmore⟩ := exists_play_eq_toEnd w run.world run.stage run.journal
    refine ⟨more, ?_⟩
    rw [Worker.play_append]
    exact hmore
  · intro job m since reply hstage
    show (w.toEnd run.world run.stage).journal.timedActs.head? = _
    rw [hstage]
    exact Worker.head?_toEnd_calling w run.world job m since reply

/-- Shutdown begins while the first of three calls runs: the call fails, and the delivery goes back
without another one. -/
theorem verdict_of_seesShutdown_call :
    let w := Worker.scripted (some 1)
    let run := w.play { memory := ⟨some 5, []⟩ } .refused [.step, .step]
    w.policy.IsCoupled ∧ w.seesShutdown run.world = true ∧
      ∀ more, (run.play w more).stage.isFinal = true →
        let results := Act.results (run.play w more).acts
        results.length = (Act.calls run.acts).length ∧
          (run.play w more).outcome? = verdict 3 results := by
  intro w run
  have hseen : w.seesShutdown run.world = true := by
    simp only [run, Worker.play, Run.play_cons, Run.follow, Run.start,
      Worker.step_received _ _ decode_refused]
    rfl
  refine ⟨rfl, hseen, ?_⟩
  intro more hfinal
  have hrun := (verdict_of_seesShutdown w _ _ _ decode_refused rfl _ hseen).2.2.1 more
  rw [Worker.play_append] at hrun
  exact hrun hfinal

end Courier
