import Courier.Proofs.Processing.Interleaving
import Courier.Proofs.Service.Moves

/-!
# The service in any order of events

`Service.run` lets the loop and the coordinator take turns as one thread does.  Here they go on in
any order: a run is played by a list of events (`Service.play`), each of them a step of one party,
whether or not there is something for it to do, the beginning of shutdown, or time that passes.

`ServiceRun.Sound` is what every event keeps (`sound_follow`): the deliveries handed out and those
still held are the queue (`Source.Serves`), the ledger agrees with how far the loop is
(`Loop.Agrees`), and a coordinator that has joined the loop tells how it ended.  A source that was
stopped hands out no more than the loop has claimed (`foldl_of_isStopped`): one delivery if the loop
had found the source open and has not looked at its items yet, none otherwise.  Once the loop has
been given up nothing is done any more (`endsWork_graceElapsed`).

`accountsFor_play` reads off what that means for the deliveries (`ServiceRun.AccountsFor`), and
`accounts_play_ne` is a run in which a delivery is handed out late.
-/

namespace Courier

variable {σ : Type}

/-- What may happen next to a service. -/
inductive Service.Event where
  /-- A party makes a step, if it can.  A coordinator that watches may look at either side first. -/
  | fire (p : Party) (first : Glance := .loop)
  /-- Shutdown begins. -/
  | cancel
  /-- So many milliseconds pass. -/
  | elapse (time : Nat)

/-- A service that is about to begin, with a queue of deliveries. -/
def ServiceState.start (world : World σ) (queue : List Delivery) (holdsOpen : Bool) :
    ServiceState σ where
  world
  source := .ofDeliveries queue holdsOpen

/-- A run after one more event. -/
def ServiceRun.follow (v : Service σ) (run : ServiceRun σ) : Service.Event → ServiceRun σ
  | .fire p first =>
    let fired := v.fire run.state p first
    ⟨fired.1, run.journal ++ stamp run.state.world.now fired.2⟩
  | .cancel => { run with state := { run.state with world := run.state.world.cancel } }
  | .elapse time =>
    let world := run.state.world
    { run with state := { run.state with world := world.at (world.now + time) } }

/-- A run of a service, as the events say. -/
def Service.play (v : Service σ) (s : ServiceState σ) (events : List Service.Event) :
    ServiceRun σ :=
  events.foldl (ServiceRun.follow v) ⟨s, []⟩

theorem Service.play_append (v : Service σ) (s : ServiceState σ)
    (events more : List Service.Event) :
    v.play s (events ++ more) = more.foldl (ServiceRun.follow v) (v.play s events) :=
  List.foldl_append

/-- The accounts of the deliveries that a run handed out. -/
def ServiceRun.ledger (run : ServiceRun σ) : Ledger := Courier.ledger run.journal.entries

/-! ### A loop that has been given up -/

/-- The second run has done nothing more than the first one. -/
structure ServiceRun.Rests (run run' : ServiceRun σ) : Prop where
  loop_eq : run'.state.loop = run.state.loop
  source_eq : run'.state.source = run.state.source
  phase_eq : run'.state.phase = run.state.phase
  memory_eq : run'.state.world.memory = run.state.world.memory
  journal_eq : run'.journal = run.journal

theorem rests_follow (v : Service σ) {run : ServiceRun σ} (event : Service.Event)
    (h : run.state.phase = .done .graceElapsed) : run.Rests (run.follow v event) := by
  obtain ⟨⟨world, source, loop, phase, turn, timers⟩, journal⟩ := run
  obtain rfl : phase = .done .graceElapsed := h
  cases event with
  | fire p first =>
    cases p with
    | loop | coordinator => exact ⟨rfl, rfl, rfl, rfl, List.append_nil journal⟩
  | cancel | elapse time => exact ⟨rfl, rfl, rfl, rfl, rfl⟩

/-- Whatever happens to a service once its coordinator is there, nothing more is done. -/
def CoordinatorPhase.EndsWork (phase : CoordinatorPhase) : Prop :=
  ∀ (σ : Type) (v : Service σ) (run : ServiceRun σ) (events : List Service.Event),
    run.state.phase = phase → run.Rests (events.foldl (ServiceRun.follow v) run)

/-- A coordinator that gives the loop up ends its work. -/
theorem endsWork_graceElapsed : (CoordinatorPhase.done .graceElapsed).EndsWork := by
  intro σ v run events h
  induction events generalizing run with
  | nil => exact ⟨rfl, rfl, rfl, rfl, rfl⟩
  | cons event events ih =>
    have hfirst := rests_follow v event h
    have hrest := ih (run.follow v event) (hfirst.phase_eq.trans h)
    exact ⟨hrest.loop_eq.trans hfirst.loop_eq, hrest.source_eq.trans hfirst.source_eq,
      hrest.phase_eq.trans hfirst.phase_eq, hrest.memory_eq.trans hfirst.memory_eq,
      hrest.journal_eq.trans hfirst.journal_eq⟩

/-! ### What the ledger says -/

/-- One terminal action was asked for, that of an outcome, after everything else. -/
def Account.IsSettled (a : Account) : Prop := ∃ outcome, SettledOnce a.delivery outcome a.acts

theorem Account.IsSettled.actions_eq {a : Account} (h : a.IsSettled) :
    ∃ action, Act.actions a.acts = [action] := by
  obtain ⟨outcome, ⟨before, call, hacts, hcall, hbefore, -⟩, -⟩ := h
  refine ⟨outcome.disposition, ?_⟩
  rw [hacts, Act.actions_append, hbefore, hcall.eq_settle, Act.actions_settle, List.nil_append]

/-- A delivery in flight has been settled once at most. -/
theorem length_actions_le_one {w : Worker σ} {stage : Stage} {d : Delivery} {l : List Act}
    (h : stage.Fits w d l) : (Act.actions l).length ≤ 1 := by
  by_cases hstage : ∃ outcome, stage = .finished outcome
  · obtain ⟨outcome, rfl⟩ := hstage
    obtain ⟨action, haction⟩ :=
      Account.IsSettled.actions_eq (a := ⟨d, l⟩) ⟨outcome, settledOnce_of_fits h⟩
    exact Nat.le_of_eq (congrArg List.length haction)
  · rw [actions_eq_nil_of_fits h fun outcome heq => hstage ⟨outcome, heq⟩]
    exact Nat.zero_le 1

/-- All these deliveries are settled, and the tally counts them. -/
structure Balanced (accounts : List Account) (tally : Tally) : Prop where
  isSettled : ∀ a ∈ accounts, a.IsSettled
  processed_eq : tally.processed = UInt64.ofNat accounts.length

theorem processed_record (tally : Tally) (outcome : Outcome) :
    (tally.record outcome).processed = tally.processed + 1 := by
  cases outcome <;> simp only [Tally.record, Tally.processed] <;> ac_rfl

theorem Balanced.concat {accounts : List Account} {tally : Tally} {a : Account}
    (h : Balanced accounts tally) {outcome : Outcome} (ha : SettledOnce a.delivery outcome a.acts) :
    Balanced (accounts ++ [a]) (tally.record outcome) where
  isSettled a' ha' := by
    rcases List.mem_append.1 ha' with hmem | hmem
    · exact h.isSettled a' hmem
    · rw [List.mem_singleton.1 hmem]
      exact ⟨outcome, ha⟩
  processed_eq := by
    rw [processed_record, h.processed_eq, List.length_append, UInt64.ofNat_add]
    rfl

/-- The ledger agrees with how far the loop is: between deliveries all are settled and counted, and
the account of a delivery in flight fits the stage that the work on it is at. -/
def Loop.Agrees (w : Worker σ) (l : Ledger) (loop : Loop) : Prop :=
  match loop.phase.stage? with
  | none => Balanced l.accounts loop.tally
  | some stage =>
    Balanced l.closed loop.tally ∧ ∃ a, l.last? = some a ∧ stage.Fits w a.delivery a.acts

namespace Loop

variable {w : Worker σ} {l : Ledger} {loop : Loop}

theorem agrees_afterStage {stage : Stage} {a : Account} (hb : Balanced l.closed loop.tally)
    (ha : l.last? = some a) (h : stage.Fits w a.delivery a.acts) :
    (loop.afterStage stage).Agrees w l := by
  cases stage with
  | finished outcome =>
    show Balanced l.accounts (loop.tally.record outcome)
    rw [Ledger.accounts, ha]
    exact hb.concat (settledOnce_of_fits h)
  | received _ | due _ _ | calling _ _ _ _ | waiting _ _ _ | settling _ | broken _ =>
    exact ⟨hb, a, ha, h⟩

theorem Agrees.take (h : loop.Agrees w l) (hp : loop.phase.stage? = none) (d : Delivery) :
    Agrees w (l.take d) { loop with phase := .working (.received d) } := by
  unfold Agrees at h
  rw [hp] at h
  exact ⟨h, ⟨d, []⟩, rfl, rfl, rfl⟩

theorem Agrees.work (h : loop.Agrees w l) {stage : Stage} (hp : loop.phase = .working stage)
    (world : World σ) :
    (loop.afterStage (w.step world stage).stage).Agrees w
      (l.add (acts (w.step world stage).entries)) := by
  unfold Agrees at h
  rw [hp] at h
  obtain ⟨hb, a, ha, hfits⟩ := h
  refine agrees_afterStage (a := { a with acts := a.acts ++ acts (w.step world stage).entries }) hb
    ?_ (fits_step world hfits)
  rw [Ledger.add, ha]
  rfl

theorem Agrees.stay (h : loop.Agrees w l) {loop' : Loop} (ht : loop'.tally = loop.tally)
    (hp : loop'.phase.stage? = loop.phase.stage?) : loop'.Agrees w l := by
  unfold Agrees at h ⊢
  rw [hp, ht]
  exact h

end Loop

/-! ### What every event keeps -/

/-- The deliveries handed out, by the entries of a journal, and those still held are the queue. -/
def Source.Serves (queue : List Delivery) (source : Source) (entries : List Entry) : Prop :=
  ∃ rest, source.Holds rest ∧ deliveries entries ++ rest = queue

theorem Source.Serves.append {queue : List Delivery} {source : Source} {entries new : List Entry}
    (h : source.Serves queue entries) (hd : deliveries new = []) :
    source.Serves queue (entries ++ new) := by
  obtain ⟨rest, hrest, hqueue⟩ := h
  refine ⟨rest, hrest, ?_⟩
  rw [deliveries_append, hd, List.append_nil]
  exact hqueue

/-- What holds of a service with the given queue, once its journal has the given entries. -/
structure ServiceState.Sound (v : Service σ) (queue : List Delivery) (s : ServiceState σ)
    (entries : List Entry) : Prop where
  serves : s.source.Serves queue entries
  agrees : s.loop.Agrees v.worker (ledger entries)
  /-- A coordinator that has joined the loop tells how it ended. -/
  joined : ∀ tally, s.phase = .done (.loopFinished tally) → s.loop = ⟨.ended, tally⟩

section Steps

variable {v : Service σ} {queue : List Delivery} {s : ServiceState σ} {entries : List Entry}

theorem sound_start (v : Service σ) (world : World σ) (queue : List Delivery) (holdsOpen : Bool) :
    (ServiceState.start world queue holdsOpen).Sound v queue [] where
  serves := ⟨queue, rfl, rfl⟩
  agrees := ⟨nofun, rfl⟩
  joined := nofun

theorem sound_loop (first : Glance) (h : s.Sound v queue entries) :
    (v.fire s .loop first).1.Sound v queue (entries ++ (v.fire s .loop first).2) := by
  obtain ⟨rest, hrest, hqueue⟩ := h.serves
  have hmove : s.loop.Move v.worker s.world s.source rest _ := Loop.move_loopStep v hrest
  simp only [Service.fire]
  generalize v.loopStep s = progress at hmove ⊢
  cases hmove with
  | @take d rest source' hs hs' hp he hrest' =>
    refine ⟨⟨rest, hrest', ?_⟩, ?_, ?_⟩
    · rw [deliveries_append, List.append_assoc]
      exact hqueue
    · rw [ledger_concat_received]
      exact h.agrees.take hp d
    · intro tally hphase
      rw [h.joined tally hphase] at he
      exact absurd rfl he
  | @work rest stage hp =>
    have hd : deliveries (s.loop.work v.worker s.world s.source stage).entries = [] :=
      v.worker.deliveries_step s.world stage
    refine ⟨h.serves.append hd, ?_, ?_⟩
    · rw [ledger_append hd]
      exact h.agrees.work hp s.world
    · intro tally hphase
      rw [h.joined tally hphase] at hp
      cases hp
  | stay hd ha ht hp he =>
    refine ⟨h.serves.append hd, ?_, ?_⟩
    · rw [ledger_append hd, ha, Ledger.add_nil]
      exact h.agrees.stay ht hp
    · intro tally hphase
      have hloop := h.joined tally hphase
      rw [← hloop]
      exact he (by rw [hloop])

theorem sound_coordinator (first : Glance) (h : s.Sound v queue entries) :
    (v.fire s .coordinator first).1.Sound v queue (entries ++ (v.fire s .coordinator first).2) := by
  have hmove : Coordinator.Move (s.loop.view s.world) s.source s.phase _ :=
    v.coordinator.move_step first s.phase
  simp only [Service.fire]
  generalize v.coordinator.step first (s.loop.view s.world) s.source s.phase = progress at hmove ⊢
  have hagrees : ∀ {new : List Entry}, deliveries new = [] → acts new = [] →
      s.loop.Agrees v.worker (ledger (entries ++ new)) := by
    intro new hd ha
    rw [ledger_append hd, ha, Ledger.add_nil]
    exact h.agrees
  cases hmove with
  | stop hd ha hp =>
    obtain ⟨rest, hrest, hqueue⟩ := h.serves.append hd
    exact ⟨⟨rest, hrest.stop.1, hqueue⟩, hagrees hd ha, fun tally hphase => absurd hphase (hp _)⟩
  | join hd ha hr =>
    refine ⟨h.serves.append hd, hagrees hd ha, ?_⟩
    intro tally hphase
    cases hphase
    exact Loop.eq_of_result? hr
  | stay hd ha hp =>
    exact ⟨h.serves.append hd, hagrees hd ha,
      fun tally hphase => h.joined tally ((hp tally hphase).trans hphase)⟩

/-- A step of either party keeps what is known of the service. -/
theorem sound_fire (p : Party) (first : Glance) (h : s.Sound v queue entries) :
    (v.fire s p first).1.Sound v queue (entries ++ (v.fire s p first).2) := by
  cases p with
  | loop => exact sound_loop first h
  | coordinator => exact sound_coordinator first h

end Steps

/-! ### What every run keeps -/

/-- What is known of a run of a service with the given queue. -/
def ServiceRun.Sound (v : Service σ) (queue : List Delivery) (run : ServiceRun σ) : Prop :=
  run.state.Sound v queue run.journal.entries

theorem sound_follow {v : Service σ} {queue : List Delivery} {run : ServiceRun σ}
    (event : Service.Event) (h : run.Sound v queue) : (run.follow v event).Sound v queue := by
  cases event with
  | fire p first =>
    unfold ServiceRun.Sound
    simp only [ServiceRun.follow, Journal.entries_append, Journal.entries_stamp]
    exact sound_fire p first h
  | cancel => exact ⟨h.serves, h.agrees, h.joined⟩
  | elapse time => exact ⟨h.serves, h.agrees, h.joined⟩

theorem sound_foldl {v : Service σ} {queue : List Delivery} {run : ServiceRun σ}
    (events : List Service.Event) (h : run.Sound v queue) :
    (events.foldl (ServiceRun.follow v) run).Sound v queue := by
  induction events generalizing run with
  | nil => exact h
  | cons event events ih => exact ih (sound_follow event h)

theorem sound_play (v : Service σ) (world : World σ) (queue : List Delivery) (holdsOpen : Bool)
    (events : List Service.Event) :
    (v.play (.start world queue holdsOpen) events).Sound v queue :=
  sound_foldl events (sound_start v world queue holdsOpen)

theorem sound_settle {v : Service σ} {queue : List Delivery} {s : ServiceState σ}
    {entries : List Entry} (h : s.Sound v queue entries) : (v.settle s).Sound v queue entries := by
  unfold Service.settle
  split
  · exact h
  · split
    · exact h
    · exact ⟨h.serves, h.agrees, h.joined⟩

/-- The run on one thread keeps it, too. -/
theorem sound_run {v : Service σ} {queue : List Delivery} {s : ServiceState σ}
    {entries : List Entry} (h : s.Sound v queue entries) :
    (v.run s).state.Sound v queue (entries ++ (v.run s).journal.entries) := by
  fun_induction Service.run v s generalizing entries with
  | case1 s s' =>
    rw [show Journal.entries [] = [] from rfl, List.append_nil]
    exact sound_settle h
  | case2 s s' p hnext fired rest =>
    simp only [Journal.entries_append, Journal.entries_stamp, ← List.append_assoc]
    rename_i ih
    exact ih (sound_fire p .loop (sound_settle h))

/-! ### A source that was stopped -/

/-- The number of deliveries that the loop may still take from a source that has been stopped. -/
def LoopPhase.claims : LoopPhase → Nat
  | .popping => 1
  | _ => 0

theorem LoopPhase.claims_eq_zero {phase : LoopPhase} (h : phase ≠ .popping) : phase.claims = 0 := by
  cases phase
  case popping => exact absurd rfl h
  all_goals rfl

/-- The work on a delivery leads to no claim on another one. -/
theorem Loop.claims_afterStage (loop : Loop) (stage : Stage) :
    (loop.afterStage stage).phase.claims = 0 := by
  cases stage <;> rfl

/-- A source that was stopped stays so, and what it hands out uses up a claim. -/
theorem fire_of_isStopped {v : Service σ} {queue : List Delivery} {s : ServiceState σ}
    {entries : List Entry} (p : Party) (first : Glance) (h : s.source.Serves queue entries)
    (hs : s.source.isStopped = true) :
    (v.fire s p first).1.source.isStopped = true ∧
      (deliveries (v.fire s p first).2).length + (v.fire s p first).1.loop.phase.claims ≤
        s.loop.phase.claims := by
  obtain ⟨rest, hrest, -⟩ := h
  cases p with
  | loop =>
    have hmove : s.loop.Move v.worker s.world s.source rest _ := Loop.move_loopStep v hrest
    simp only [Service.fire]
    generalize v.loopStep s = progress at hmove ⊢
    cases hmove with
    | take hpop hs' =>
      refine ⟨hs'.trans hs, ?_⟩
      rw [hpop hs]
      exact Nat.le_refl 1
    | @work rest stage hp =>
      have hd : deliveries (s.loop.work v.worker s.world s.source stage).entries = [] :=
        v.worker.deliveries_step s.world stage
      refine ⟨hs, ?_⟩
      rw [hd]
      show 0 + (s.loop.afterStage _).phase.claims ≤ _
      rw [Loop.claims_afterStage]
      exact Nat.zero_le _
    | @stay rest loop' entries hd ha ht hp he hstay =>
      refine ⟨hs, ?_⟩
      by_cases hpop : loop'.phase = .popping
      · rw [hd, hpop, hstay hs hpop]
        exact Nat.le_refl 1
      · rw [hd, LoopPhase.claims_eq_zero hpop]
        exact Nat.zero_le _
  | coordinator =>
    have hmove : Coordinator.Move (s.loop.view s.world) s.source s.phase _ :=
      v.coordinator.move_step first s.phase
    simp only [Service.fire]
    generalize v.coordinator.step first (s.loop.view s.world) s.source s.phase = progress at hmove ⊢
    have hle {new : List Entry} (hd : deliveries new = []) :
        (deliveries new).length + s.loop.phase.claims ≤ s.loop.phase.claims := by
      rw [hd]
      exact Nat.le_of_eq (Nat.zero_add _)
    cases hmove with
    | stop hd => exact ⟨hrest.stop.2, hle hd⟩
    | join hd => exact ⟨hs, hle hd⟩
    | stay hd => exact ⟨hs, hle hd⟩

/-- A source that was stopped hands out no more than the loop has claimed. -/
theorem foldl_of_isStopped {v : Service σ} {queue : List Delivery} {run : ServiceRun σ}
    (events : List Service.Event) (h : run.Sound v queue)
    (hs : run.state.source.isStopped = true) :
    ∃ late, deliveries (events.foldl (ServiceRun.follow v) run).journal.entries =
        deliveries run.journal.entries ++ late ∧
      late.length ≤ run.state.loop.phase.claims := by
  induction events generalizing run with
  | nil => exact ⟨[], (List.append_nil _).symm, Nat.zero_le _⟩
  | cons event events ih =>
    have hsound := sound_follow event h
    cases event with
    | fire p first =>
      obtain ⟨hs', hle⟩ := fire_of_isStopped (v := v) p first h.serves hs
      obtain ⟨late, hlate, hlength⟩ := ih hsound hs'
      refine ⟨deliveries (v.fire run.state p first).2 ++ late, ?_, ?_⟩
      · rw [List.foldl_cons, hlate, ← List.append_assoc]
        simp only [ServiceRun.follow, Journal.entries_append, Journal.entries_stamp,
          deliveries_append]
      · rw [List.length_append]
        exact Nat.le_trans (Nat.add_le_add_left hlength _) hle
    | cancel => exact ih hsound hs
    | elapse time => exact ih hsound hs

/-! ### The accounts of a run -/

/-- A run accounts for all deliveries of a queue. -/
structure ServiceRun.AccountsFor (queue : List Delivery) (run : ServiceRun σ) : Prop where
  /-- Those handed out, followed by those still held, are the queue. -/
  queue_eq : run.ledger.accounts.map (·.delivery) ++ run.state.source.stock = queue
  /-- All of them but the last are settled, each once. -/
  isSettled : ∀ a ∈ run.ledger.closed, a.IsSettled
  /-- The last one is settled once at most. -/
  length_actions_le : ∀ a, run.ledger.last? = some a → (Act.actions a.acts).length ≤ 1
  /-- When the loop has ended by itself all are settled, and with those never handed out they make
  up the queue. -/
  finished : ∀ tally, run.state.outcome? = some (.loopFinished tally) →
    (∀ a ∈ run.ledger.accounts, a.IsSettled) ∧
    tally.processed + UInt64.ofNat run.state.source.remaining = UInt64.ofNat queue.length ∧
    (queue.length < UInt64.size → tally.processed.toNat + run.state.source.remaining = queue.length)
  /-- A delivery is left unsettled only by a loop that was given up or broke down. -/
  unsettled : ∀ outcome, run.state.outcome? = some outcome →
    (∃ a ∈ run.ledger.accounts, ¬a.IsSettled) →
      outcome = .graceElapsed ∨ ∃ reason, outcome = .loopFailed reason

theorem Loop.Agrees.closed {w : Worker σ} {l : Ledger} {loop : Loop} (h : loop.Agrees w l) :
    ∀ a ∈ l.closed, a.IsSettled := by
  unfold Agrees at h
  split at h
  · exact fun a ha => h.isSettled a (List.mem_append_left _ ha)
  · exact h.1.isSettled

theorem Loop.Agrees.last {w : Worker σ} {l : Ledger} {loop : Loop} (h : loop.Agrees w l)
    {a : Account} (ha : l.last? = some a) : (Act.actions a.acts).length ≤ 1 := by
  unfold Agrees at h
  split at h
  · have hmem : a ∈ l.accounts := by
      rw [Ledger.accounts, ha]
      exact List.mem_append_right _ (List.mem_singleton_self a)
    obtain ⟨action, haction⟩ := (h.isSettled a hmem).actions_eq
    exact Nat.le_of_eq (congrArg List.length haction)
  · obtain ⟨-, a', ha', hfits⟩ := h
    obtain rfl : a = a' := Option.some.inj (ha.symm.trans ha')
    exact length_actions_le_one hfits

theorem ServiceRun.Sound.accountsFor {v : Service σ} {queue : List Delivery} {run : ServiceRun σ}
    (h : run.Sound v queue) : run.AccountsFor queue := by
  obtain ⟨rest, hrest, hqueue⟩ := h.serves
  rw [← map_delivery_accounts] at hqueue
  have hfinished : ∀ tally, run.state.outcome? = some (.loopFinished tally) →
      Balanced run.ledger.accounts tally := by
    intro tally houtcome
    have hphase : run.state.phase = .done (.loopFinished tally) := by
      unfold ServiceState.outcome? at houtcome
      split at houtcome
      · rename_i outcome hphase
        rw [hphase, Option.some.inj houtcome]
      · cases houtcome
    have hagrees := h.agrees
    rw [h.joined tally hphase] at hagrees
    exact hagrees
  refine ⟨?_, h.agrees.closed, fun a ha => h.agrees.last ha, ?_, ?_⟩
  · rw [hrest.stock_eq]
    exact hqueue
  · intro tally houtcome
    have hbalanced := hfinished tally houtcome
    have hlength : run.ledger.accounts.length + run.state.source.remaining = queue.length := by
      rw [hrest.remaining_eq, ← hqueue, List.length_append, List.length_map]
      rfl
    refine ⟨hbalanced.isSettled, ?_, ?_⟩
    · rw [hbalanced.processed_eq, ← UInt64.ofNat_add, hlength]
    · intro hlt
      have hle : run.ledger.accounts.length ≤ queue.length := by omega
      rw [hbalanced.processed_eq, UInt64.toNat_ofNat_of_lt' (Nat.lt_of_le_of_lt hle hlt), hlength]
  · intro outcome houtcome hunsettled
    cases outcome with
    | loopFinished tally =>
      obtain ⟨a, ha, hnot⟩ := hunsettled
      exact absurd ((hfinished tally houtcome).isSettled a ha) hnot
    | graceElapsed => exact Or.inl rfl
    | loopFailed reason => exact Or.inr ⟨reason, rfl⟩

/-- **Nothing is lost, nothing is settled twice.**  However the loop and the coordinator take turns,
whichever side the coordinator looks at first, and whenever shutdown begins: the run accounts for the
deliveries of the queue.  Once the source was stopped one more delivery is handed out at most, and
only by a loop that had found the source open before.  The run on one thread accounts for the
deliveries, too. -/
theorem accountsFor_play (v : Service σ) (world : World σ) (queue : List Delivery)
    (holdsOpen : Bool) :
    let start := ServiceState.start world queue holdsOpen
    (∀ events, (v.play start events).AccountsFor queue) ∧
    (∀ events, (v.play start events).state.source.isStopped = true → ∀ more, ∃ late,
      (v.play start (events ++ more)).ledger.accounts.map (·.delivery) =
        (v.play start events).ledger.accounts.map (·.delivery) ++ late ∧
      late.length ≤ 1 ∧ ((v.play start events).state.loop.phase ≠ .popping → late = [])) ∧
    (v.run start).AccountsFor queue := by
  intro start
  refine ⟨fun events => (sound_play v world queue holdsOpen events).accountsFor, ?_, ?_⟩
  · intro events hs more
    obtain ⟨late, hlate, hlength⟩ :=
      foldl_of_isStopped more (sound_play v world queue holdsOpen events) hs
    refine ⟨late, ?_, ?_, ?_⟩
    · rw [v.play_append, ServiceRun.ledger, ServiceRun.ledger, map_delivery_accounts,
        map_delivery_accounts]
      exact hlate
    · have hone : (v.play start events).state.loop.phase.claims ≤ 1 := by
        unfold LoopPhase.claims
        split
        · exact Nat.le_refl 1
        · exact Nat.zero_le 1
      exact Nat.le_trans hlength hone
    · intro hpop
      rw [LoopPhase.claims_eq_zero hpop] at hlength
      exact List.eq_nil_of_length_eq_zero (Nat.le_zero.1 hlength)
  · have hrun : (v.run start).Sound v queue := sound_run (sound_start v world queue holdsOpen)
    exact hrun.accountsFor

theorem follow_received (v : Service σ) (run : ServiceRun σ) {d : Delivery} {command : Command}
    (hd : Command.decode d.payload = .ok command)
    (hp : run.state.loop.phase = .working (.received d)) (ha : run.state.isAbandoned = false) :
    run.follow v (.fire .loop) =
      let progress := v.worker.accept run.state.world d command
      ⟨{ run.state with
          world := progress.world
          loop := run.state.loop.afterStage progress.stage
          turn := .loop
          timers := v.timersAfterStep run.state },
        run.journal ++ stamp run.state.world.now progress.entries⟩ := by
  simp only [ServiceRun.follow, Service.fire, v.loopStep_of_isAbandoned_eq_false ha, Loop.step, hp,
    Loop.work, v.worker.step_received run.state.world hd]

/-- Shutdown begins while the first of two deliveries is worked on: it goes back, and the other one
is never handed out. -/
theorem accountsFor_play_interrupted :
    let v : Service Handler.Script := ⟨.scripted (some 1), ⟨"worker-1", 10000⟩⟩
    let start := ServiceState.start { memory := ⟨some 5, []⟩ } [.refused, .refused] true
    let events : List Service.Event :=
      [.fire .loop, .fire .loop, .fire .loop, .fire .loop, .fire .loop, .fire .coordinator]
    let more : List Service.Event :=
      [.fire .loop, .fire .loop, .fire .loop, .fire .loop, .fire .coordinator, .fire .coordinator]
    let run := v.play start (events ++ more)
    (v.play start events).state.source.isStopped = true ∧
      run.ledger.accounts.map (·.delivery) = [.refused] ∧
      run.state.outcome? = some (.loopFinished { requeued := 1 }) ∧
      (∀ a ∈ run.ledger.accounts, a.IsSettled) ∧ 1 + run.state.source.remaining = 2 := by
  intro v start events more run
  obtain ⟨haccounts, hstopped, -⟩ := accountsFor_play v { memory := ⟨some 5, []⟩ }
    [.refused, .refused] true
  let taken := v.play start [.fire .loop, .fire .loop, .fire .loop]
  have hreceived := follow_received v taken decode_refused rfl rfl
  have hevents : v.play start events = [.fire .loop, .fire .coordinator].foldl (ServiceRun.follow v)
      (taken.follow v (.fire .loop)) := rfl
  have hrun : run = more.foldl (ServiceRun.follow v) (v.play start events) :=
    v.play_append start events more
  rw [hreceived] at hevents
  have hs : (v.play start events).state.source.isStopped = true := by
    rw [hevents]
    decide
  have htaken : (v.play start events).ledger.accounts.map (·.delivery) = [.refused] := by
    rw [ServiceRun.ledger, map_delivery_accounts, hevents]
    rfl
  have houtcome : run.state.outcome? = some (.loopFinished { requeued := 1 }) := by
    rw [hrun, hevents]
    decide
  have hworking : (v.play start events).state.loop.phase ≠ .popping := by
    rw [hevents]
    exact fun h => by cases h
  obtain ⟨late, hlate, -, hnone⟩ := hstopped events hs more
  have hledger : run.ledger.accounts.map (·.delivery) = [.refused] := by
    rw [hlate, htaken, hnone hworking, List.append_nil]
  obtain ⟨hsettled, -, hcount⟩ := (haccounts (events ++ more)).finished _ houtcome
  exact ⟨hs, hledger, houtcome, hsettled, hcount (by decide)⟩

/-- Deliveries are stopped after the loop has found the source open, and before it looks at the
items: then it takes the first one all the same. -/
theorem accounts_play_ne :
    let v : Service Handler.Script := ⟨.scripted none, ⟨"worker-1", 10000⟩⟩
    let start :=
      ServiceState.start { memory := ⟨some 0, []⟩, cancelAt := some 0 } [.refused, .refused] true
    let events : List Service.Event := [.fire .loop, .fire .loop, .fire .coordinator]
    let more : List Service.Event := [.fire .loop]
    (v.play start events).state.source.isStopped = true ∧
      (v.play start events).ledger.accounts.map (·.delivery) = [] ∧
      (v.play start (events ++ more)).ledger.accounts.map (·.delivery) = [.refused] ∧
      ¬∀ events, (v.play start events).state.source.isStopped = true → ∀ more,
        (v.play start (events ++ more)).ledger.accounts.map (·.delivery) =
          (v.play start events).ledger.accounts.map (·.delivery) := by
  intro v start events more
  have hs : (v.play start events).state.source.isStopped = true := by decide
  have hbefore : (v.play start events).ledger.accounts.map (·.delivery) = [] := by
    rw [ServiceRun.ledger, map_delivery_accounts]
    rfl
  have hafter : (v.play start (events ++ more)).ledger.accounts.map (·.delivery) = [.refused] := by
    rw [ServiceRun.ledger, map_delivery_accounts]
    rfl
  refine ⟨hs, hbefore, hafter, fun h => ?_⟩
  have hnone := h events hs more
  rw [hbefore, hafter] at hnone
  cases hnone

end Courier
