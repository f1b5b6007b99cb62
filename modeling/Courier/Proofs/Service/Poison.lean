import Courier.Proofs.Service.Endings

/-!
# Payloads that are no commands

A delivery whose payload is no command goes to the dead letters, and leaves no other trace: the
handler is not called for it, no time passes, and no other delivery comes to a different end.

Take a run over a list of deliveries, and leave out of its state all that has to do with such
payloads (`LoopPhase.commands`, `Docket.commands`, `Tally.commands`).  What is left is the state of
a run over the commands alone (`LoopRun.Leads`).  While the first loop is busy with a payload that
is no command (`Loop.isOnPoison`) the second one stays where it is; otherwise both make the same
step.

So two lists with the same commands lead to runs that agree on them (`agreesOnCommands_play`).
-/

namespace Courier

variable {σ : Type}

/-! ### Leaving out what is no command -/

/-- The deliveries that hold commands. -/
def commands (ds : List Delivery) : List Delivery := ds.filter fun d => !d.isPoison

/-- The stream that hands out the given deliveries at once. -/
def batch (ds : List Delivery) : List Pending := (Source.ofDeliveries ds false).pending

/-- The docket of the commands. -/
def Docket.commands (D : Docket) : Docket where
  closed := D.closed.filter fun c => !c.delivery.isPoison
  current? := D.current?.filter fun a => !a.delivery.isPoison

/-- The counts of everything but payloads that are no commands. -/
def Tally.commands (t : Tally) : Tally := { t with poisoned := 0 }

/-- Is the stage that of a payload that is no command? -/
def Stage.isPoison : Stage → Bool
  | .received d => d.isPoison
  | .settling s => s.outcome = .poison
  | _ => false

/-- Is the first of these deliveries one whose payload is no command? -/
def beginsWithPoison (ds : List Delivery) : Bool := ds.head?.any Delivery.isPoison

/-- How far a loop is that gets the commands only, when one is this far that gets everything and has
the given deliveries before it. -/
def LoopPhase.commands (ahead : List Delivery) : LoopPhase → LoopPhase
  | .popping => if beginsWithPoison ahead then .pulling else .popping
  | .working stage => if stage.isPoison then .pulling else .working stage
  | phase => phase

/-- The loop waits for nothing that its source gives. -/
def LoopPhase.IsPrompt : LoopPhase → Prop
  | .awaiting _ | .holding => False
  | _ => True

/-- Is the next step of the loop about a payload that is no command? -/
def Loop.isOnPoison (source : Source) (loop : Loop) : Bool :=
  match loop.phase with
  | .pulling | .popping => beginsWithPoison source.stock
  | .working stage => stage.isPoison
  | _ => false

/-- The calls, their answers and the waits among some acts. -/
def Act.work (l : List Act) : List Act := l.filter fun act => act.action?.isNone

/-- The calls, their answers and the waits of a journal, with their times. -/
def Journal.timedWork (j : Journal) : List (Nat × Act) :=
  j.timedActs.filter fun p => p.2.action?.isNone

theorem Journal.timedWork_append (j : Journal) (time : Nat) (l : List Entry) :
    timedWork (j ++ stamp time l) =
      timedWork j ++ (Act.work (acts l)).map fun act => (time, act) := by
  rw [timedWork, timedActs_append, timedActs_stamp, List.filter_append, List.filter_map]
  rfl

namespace LoopPhase

variable {stage : Stage} {ahead : List Delivery}

theorem commands_popping_of_poison (h : beginsWithPoison ahead = true) :
    commands ahead .popping = .pulling :=
  if_pos h

theorem commands_popping (h : beginsWithPoison ahead = false) :
    commands ahead .popping = .popping :=
  if_neg fun h' => Bool.false_ne_true (h.symm.trans h')

theorem commands_working_of_isPoison (h : stage.isPoison = true) :
    commands ahead (working stage) = .pulling :=
  if_pos h

theorem commands_working (h : stage.isPoison = false) :
    commands ahead (working stage) = .working stage :=
  if_neg fun h' => Bool.false_ne_true (h.symm.trans h')

theorem commands_eq_ended_iff {phase : LoopPhase} :
    phase.commands ahead = .ended ↔ phase = .ended := by
  cases phase with
  | popping =>
    have hne : commands ahead .popping ≠ .ended := by
      cases h : beginsWithPoison ahead with
      | true =>
        rw [commands_popping_of_poison h]
        exact LoopPhase.noConfusion
      | false =>
        rw [commands_popping h]
        exact LoopPhase.noConfusion
    exact ⟨fun h => absurd h hne, LoopPhase.noConfusion⟩
  | working stage =>
    have hne : commands ahead (working stage) ≠ .ended := by
      cases h : stage.isPoison with
      | true =>
        rw [commands_working_of_isPoison h]
        exact LoopPhase.noConfusion
      | false =>
        rw [commands_working h]
        exact LoopPhase.noConfusion
    exact ⟨fun h => absurd h hne, LoopPhase.noConfusion⟩
  | idle | pulling | awaiting _ | holding | ended | failed _ => exact Iff.rfl

end LoopPhase

/-! ### The work on one delivery -/

section Stages

variable {w : Worker σ} {d : Delivery} {l : List Act} {stage : Stage}

/-- A stage on the way is that of a payload that is no command if the delivery's is none. -/
theorem isPoison_of_fits (h : stage.Fits w d l) (hf : stage.isFinal = false) :
    stage.isPoison = d.isPoison := by
  have hjob {job : Job} {n : UInt32} {rounds : List Round} (hat : w.IsAt d job n rounds) :
      false = d.isPoison := by
    rw [Delivery.isPoison, Item.isPoison, hat.decode_eq]
    rfl
  cases stage with
  | received d' => rw [h.1]; rfl
  | due job n =>
    obtain ⟨rounds, hat, -⟩ := h
    exact hjob hat
  | calling job n since reply =>
    obtain ⟨rounds, hat, -⟩ := h
    exact hjob hat
  | waiting job n until_ =>
    obtain ⟨rounds, e, wait, hat, -⟩ := h
    exact hjob hat
  | settling s =>
    have hfinished : (Stage.finished s.outcome).Fits w d (l ++ [_]) := ⟨l, h.2, rfl⟩
    have hiff := hfinished.actions_finished.2
    show decide (s.outcome = .poison) = d.isPoison
    rw [Bool.eq_iff_iff, decide_eq_true_iff]
    exact hiff
  | finished outcome => cases hf
  | broken text => cases hf

/-- The handler does not break down over a payload that is no command. -/
theorem not_broken_of_isPoison (hp : d.isPoison = true) {text : String} :
    ¬(Stage.broken text).Fits w d l := by
  rintro ⟨job, n, rounds, hat, -⟩
  rw [Delivery.isPoison, Item.isPoison, hat.decode_eq] at hp
  cases hp

/-- The work on a payload that is no command calls nobody, takes no time and changes nothing. -/
theorem step_of_isPoison (w : Worker σ) (world : World σ) (h : stage.isPoison = true) :
    (w.step world stage).world = world ∧ Act.work (acts (w.step world stage).entries) = [] ∧
      stage.isReady w world = true ∧ w.readyAt world stage = world.now := by
  cases stage with
  | received d =>
    simp only [Worker.step, Worker.receive]
    cases hd : Command.decode d.payload with
    | error e =>
      rw [Worker.acts_reject]
      exact ⟨rfl, rfl, rfl, rfl⟩
    | ok command =>
      rw [Stage.isPoison, Delivery.isPoison, Item.isPoison, hd] at h
      cases h
  | settling s =>
    rw [Worker.step, Worker.acts_settle]
    exact ⟨rfl, rfl, rfl, rfl⟩
  | due _ _ | calling _ _ _ _ | waiting _ _ _ | finished _ | broken _ => cases h

end Stages

/-! ### Dockets and tallies -/

namespace Docket

variable {D : Docket} {a : Account}

/-- Where a payload that is no command is in flight, nothing of it is left. -/
theorem commands_advance_of_isPoison (ha : D.current? = some a) (hp : a.delivery.isPoison = true)
    (l : List Act) (stage : Stage) : (D.advance l stage).commands = D.commands := by
  obtain ⟨closed, current⟩ := D
  obtain rfl : current = some a := ha
  have hnone (a' : Account) (ha' : a'.delivery = a.delivery) :
      (some a').filter (fun a => !a.delivery.isPoison) = none := by
    rw [Option.filter_some, ha', hp]
    rfl
  have hadd : (Docket.mk closed (some a)).commands = (Docket.mk closed none).commands := by
    rw [commands, commands, hnone a rfl]
    rfl
  by_cases hs : ∃ outcome, stage = .finished outcome
  · obtain ⟨outcome, rfl⟩ := hs
    rw [hadd]
    simp only [advance, add, close, commands, Option.map_some, Option.toList_some, List.map_cons,
      List.map_nil, List.filter_append, List.filter_cons, hp, Bool.not_true, Bool.false_eq_true,
      if_false, List.filter_nil, List.append_nil]
  · rw [advance_eq_add _ _ fun outcome heq => hs ⟨outcome, heq⟩, hadd]
    simp only [add, commands, Option.map_some]
    rw [hnone ⟨a.delivery, a.acts ++ l⟩ rfl]
    rfl

/-- Where a command is in flight, all of it is left. -/
theorem commands_advance (ha : D.current? = some a) (hp : a.delivery.isPoison = false)
    (l : List Act) (stage : Stage) : (D.advance l stage).commands = D.commands.advance l stage := by
  obtain ⟨closed, current⟩ := D
  obtain rfl : current = some a := ha
  have hsome (a' : Account) (ha' : a'.delivery = a.delivery) :
      (some a').filter (fun a => !a.delivery.isPoison) = some a' := by
    rw [Option.filter_some, ha', hp]
    rfl
  by_cases hs : ∃ outcome, stage = .finished outcome
  · obtain ⟨outcome, rfl⟩ := hs
    simp only [advance, add, close, commands, hsome a rfl, Option.map_some, Option.toList_some,
      List.map_cons, List.map_nil, List.filter_append, List.filter_cons, hp, Bool.not_false,
      if_true, List.filter_nil]
    rfl
  · have hopen : ∀ outcome, stage ≠ .finished outcome := fun outcome heq => hs ⟨outcome, heq⟩
    rw [advance_eq_add _ _ hopen, advance_eq_add _ _ hopen]
    simp only [add, commands, Option.map_some, hsome a rfl]
    rw [hsome ⟨a.delivery, a.acts ++ l⟩ rfl]

end Docket

theorem Tally.commands_record (t : Tally) {outcome : Outcome} (h : outcome ≠ .poison) :
    (t.record outcome).commands = t.commands.record outcome := by
  cases outcome with
  | poison => exact absurd rfl h
  | acknowledged _ | exhausted _ | interrupted _ => rfl

/-! ### One step -/

/-- The second loop has what is left of the source and the state of the first one. -/
structure Loop.Leads (source source' : Source) (loop loop' : Loop) : Prop where
  sources : ∃ rest : List Delivery, source = { pending := batch rest } ∧
    source' = { pending := batch (Courier.commands rest) }
  phase_eq : loop'.phase = loop.phase.commands source.stock
  tally_eq : loop'.tally = loop.tally.commands
  prompt : loop.phase.IsPrompt

/-- The first loop goes one step further from the given docket, and the second one with it, or stays
where it is. -/
structure LoopProgress.Leads (D : Docket) (progress progress' : LoopProgress σ) : Prop where
  world_eq : progress'.world = progress.world
  leads : Loop.Leads progress.source progress'.source progress.loop progress'.loop
  docket_eq : progress'.entries.foldl Docket.enter D.commands =
    (progress.entries.foldl Docket.enter D).commands
  work_eq : Act.work (acts progress'.entries) = Act.work (acts progress.entries)

namespace Loop

variable {w : Worker σ} {world : World σ} {source source' : Source} {loop loop' : Loop}
  {entries : List Entry}

theorem stock_batch (rest : List Delivery) : Source.stock { pending := batch rest } = rest := by
  have hholds : Source.Holds { pending := batch rest } rest := rfl
  exact hholds.stock_eq

/-- The work on a payload that is no command leaves the second loop in front of its next item. -/
theorem leads_afterStage_of_isPoison (rest : List Delivery) (loop : Loop) {next : Stage}
    {d : Delivery} {l : List Act} (h : next.Fits w d l) (hp : d.isPoison = true) :
    Leads { pending := batch rest } { pending := batch (Courier.commands rest) }
      (loop.afterStage next) ⟨.pulling, loop.tally.commands⟩ := by
  cases next with
  | finished outcome =>
    obtain rfl : outcome = .poison := h.actions_finished.2.2 hp
    exact ⟨⟨rest, rfl, rfl⟩, rfl, rfl, trivial⟩
  | broken text => exact absurd h (not_broken_of_isPoison hp)
  | received _ | due _ _ | calling _ _ _ _ | waiting _ _ _ | settling _ =>
    have hpoison := (isPoison_of_fits h rfl).trans hp
    exact ⟨⟨rest, rfl, rfl⟩, (LoopPhase.commands_working_of_isPoison hpoison).symm, rfl, trivial⟩

/-- The work on a command leaves both loops in the same place. -/
theorem leads_afterStage (rest : List Delivery) (phase phase' : LoopPhase) (tally : Tally)
    {next : Stage} {d : Delivery} {l : List Act} (h : next.Fits w d l) (hp : d.isPoison = false) :
    Leads { pending := batch rest } { pending := batch (Courier.commands rest) }
      (Loop.afterStage ⟨phase, tally⟩ next) (Loop.afterStage ⟨phase', tally.commands⟩ next) := by
  cases next with
  | finished outcome =>
    have hne : outcome ≠ .poison := by
      intro heq
      have hpoison := h.actions_finished.2.1 heq
      rw [Delivery.isPoison, hpoison] at hp
      cases hp
    exact ⟨⟨rest, rfl, rfl⟩, rfl, (tally.commands_record hne).symm, trivial⟩
  | broken text => exact ⟨⟨rest, rfl, rfl⟩, rfl, rfl, trivial⟩
  | received _ | due _ _ | calling _ _ _ _ | waiting _ _ _ | settling _ =>
    have hpoison := (isPoison_of_fits h rfl).trans hp
    exact ⟨⟨rest, rfl, rfl⟩, (LoopPhase.commands_working hpoison).symm, rfl, trivial⟩

/-- While the first loop is busy with a payload that is no command, the second one stays. -/
theorem leads_step_aside (world : World σ) (h : Leads source source' loop loop')
    (hf : loop.Files w entries) (haside : loop.isOnPoison source = true) :
    LoopProgress.Leads (docket entries) (loop.step w world source) ⟨world, source', loop', []⟩ ∧
      loop.isReady w world source = true ∧ loop.readyAt w world = some world.now := by
  obtain ⟨phase, tally⟩ := loop
  obtain ⟨phase', tally'⟩ := loop'
  obtain ⟨⟨rest, rfl, rfl⟩, hphase, htally, hprompt⟩ := h
  simp only at hphase htally
  subst hphase htally
  cases phase with
  | pulling =>
    have hphase : LoopPhase.pulling = LoopPhase.commands _ .popping :=
      (LoopPhase.commands_popping_of_poison haside).symm
    exact ⟨⟨rfl, ⟨⟨rest, rfl, rfl⟩, hphase, rfl, trivial⟩, rfl, rfl⟩, rfl, rfl⟩
  | popping =>
    rw [LoopPhase.commands_popping_of_poison haside]
    rw [isOnPoison, stock_batch] at haside
    cases rest with
    | nil => cases haside
    | cons d rest =>
      have hp : d.isPoison = true := haside
      have hrest : Courier.commands (d :: rest) = Courier.commands rest :=
        List.filter_cons_of_neg (by rw [hp]; exact Bool.false_ne_true)
      have hstage : Stage.isPoison (.received d) = true := hp
      have hnone : (docket entries).current? = none := hf.idle rfl
      refine ⟨⟨rfl, ⟨⟨rest, rfl, ?_⟩, (LoopPhase.commands_working_of_isPoison hstage).symm, rfl,
        trivial⟩, ?_, rfl⟩, rfl, rfl⟩
      · rw [hrest]
      · show (docket entries).commands = ((docket entries).take d).commands
        rw [Docket.commands, Docket.commands, hnone, Docket.take, Option.filter_some, hp]
        rfl
  | working stage =>
    have hstage : stage.isPoison = true := haside
    obtain ⟨hworld, hacts, hready, htime⟩ := step_of_isPoison w world hstage
    obtain ⟨a, ha, hfits⟩ := hf.busy stage rfl
    have hlive := hf.live stage rfl
    have hp : a.delivery.isPoison = true := (isPoison_of_fits hfits hlive).symm.trans hstage
    refine ⟨⟨hworld.symm, ?_, ?_, hacts.symm⟩, hready, congrArg some htime⟩
    · rw [LoopPhase.commands_working_of_isPoison hstage]
      exact leads_afterStage_of_isPoison rest _ (fits_step world hfits) hp
    · show (docket entries).commands =
        ((w.step world stage).entries.foldl Docket.enter (docket entries)).commands
      rw [w.foldl_enter_step _ world hlive, Docket.commands_advance_of_isPoison ha hp]
  | idle | awaiting _ | holding | ended | failed _ => cases haside

/-- Otherwise both loops make the same step. -/
theorem leads_step (world : World σ) (h : Leads source source' loop loop')
    (hf : loop.Files w entries) (haside : loop.isOnPoison source = false) :
    LoopProgress.Leads (docket entries) (loop.step w world source)
        (loop'.step w world source') ∧
      loop'.readyAt w world = loop.readyAt w world ∧
      ∀ time, loop'.isReady w (world.at time) source' = loop.isReady w (world.at time) source := by
  obtain ⟨phase, tally⟩ := loop
  obtain ⟨phase', tally'⟩ := loop'
  obtain ⟨⟨rest, rfl, rfl⟩, hphase, htally, hprompt⟩ := h
  simp only at hphase htally
  subst hphase htally
  have hlog (record : LogRecord) (D : Docket) :
      [Entry.logged none record].foldl Docket.enter D = D :=
    (D.foldl_enter_aside (List.forall_mem_singleton.2 rfl)).1
  cases phase with
  | idle =>
    refine ⟨⟨rfl, ⟨⟨rest, rfl, rfl⟩, rfl, rfl, trivial⟩, ?_, rfl⟩, rfl, fun _ => rfl⟩
    exact (hlog _ _).trans (congrArg _ (hlog _ _).symm)
  | pulling =>
    have hphase : LoopPhase.popping = LoopPhase.commands _ .popping :=
      (LoopPhase.commands_popping haside).symm
    exact ⟨⟨rfl, ⟨⟨rest, rfl, rfl⟩, hphase, rfl, trivial⟩, rfl, rfl⟩, rfl, fun _ => rfl⟩
  | popping =>
    rw [LoopPhase.commands_popping haside]
    rw [isOnPoison, stock_batch] at haside
    cases rest with
    | nil =>
      refine ⟨⟨rfl, ⟨⟨[], rfl, rfl⟩, rfl, rfl, trivial⟩, ?_, rfl⟩, rfl, fun _ => rfl⟩
      exact (hlog _ _).trans (congrArg _ (hlog _ _).symm)
    | cons d rest =>
      have hp : d.isPoison = false := haside
      have hrest : Courier.commands (d :: rest) = d :: Courier.commands rest :=
        List.filter_cons_of_pos (by rw [hp]; rfl)
      have hstage : Stage.isPoison (.received d) = false := hp
      have hnone : (docket entries).current? = none := hf.idle rfl
      rw [hrest]
      refine ⟨⟨rfl, ⟨⟨rest, rfl, rfl⟩, (LoopPhase.commands_working hstage).symm, rfl, trivial⟩, ?_,
        rfl⟩, rfl, fun _ => rfl⟩
      show (docket entries).commands.take d = ((docket entries).take d).commands
      rw [Docket.commands, Docket.commands, hnone, Docket.take, Docket.take, Option.filter_some, hp]
      rfl
  | working stage =>
    have hstage : stage.isPoison = false := haside
    obtain ⟨a, ha, hfits⟩ := hf.busy stage rfl
    have hlive := hf.live stage rfl
    have hp : a.delivery.isPoison = false := (isPoison_of_fits hfits hlive).symm.trans hstage
    rw [LoopPhase.commands_working hstage]
    refine ⟨⟨rfl, leads_afterStage rest _ _ tally (fits_step world hfits) hp, ?_, rfl⟩, rfl,
      fun _ => rfl⟩
    show (w.step world stage).entries.foldl Docket.enter (docket entries).commands =
      ((w.step world stage).entries.foldl Docket.enter (docket entries)).commands
    rw [w.foldl_enter_step _ world hlive, w.foldl_enter_step _ world hlive,
      Docket.commands_advance ha hp]
  | awaiting until_ => exact hprompt.elim
  | holding => exact hprompt.elim
  | ended => exact ⟨⟨rfl, ⟨⟨rest, rfl, rfl⟩, rfl, rfl, trivial⟩, rfl, rfl⟩, rfl, fun _ => rfl⟩
  | failed text => exact ⟨⟨rfl, ⟨⟨rest, rfl, rfl⟩, rfl, rfl, trivial⟩, rfl, rfl⟩, rfl, fun _ => rfl⟩

end Loop

/-! ### Whole runs -/

/-- Does the event come from outside, and not from the worker? -/
def Worker.Event.isOutside : Worker.Event → Bool
  | .step => false
  | .cancel | .elapse _ => true

/-- The events that come from outside. -/
def outside (events : List Worker.Event) : List Worker.Event :=
  events.filter Worker.Event.isOutside

/-- The second run is one over the commands alone, and has done with them what the first one has. -/
structure LoopRun.Leads (w : Worker σ) (run run' : LoopRun σ) : Prop where
  world_eq : run'.world = run.world
  leads : Loop.Leads run.source run'.source run.loop run'.loop
  docket_eq : run'.docket = run.docket.commands
  timedWork_eq : run'.journal.timedWork = run.journal.timedWork
  files : run.loop.Files w run.entries

theorem leads_start (w : Worker σ) (world : World σ) (ds : List Delivery) :
    (LoopRun.start world (batch ds)).Leads w (LoopRun.start world (batch (commands ds))) where
  world_eq := rfl
  leads := ⟨⟨ds, rfl, rfl⟩, rfl, rfl, trivial⟩
  docket_eq := rfl
  timedWork_eq := rfl
  files := files_start w

namespace LoopRun.Leads

variable {w : Worker σ} {run run' : LoopRun σ}

/-- What a step writes into a journal. -/
theorem write (h : run.Leads w run') {progress' : LoopProgress σ}
    (hp : LoopProgress.Leads run.docket (run.loop.step w run.world run.source) progress') :
    (run.follow w .step).Leads w
      ⟨progress'.world, progress'.source, progress'.loop,
        run'.journal ++ stamp run.world.now progress'.entries⟩ where
  world_eq := hp.world_eq
  leads := hp.leads
  docket_eq := by
    have hdocket := h.docket_eq
    unfold LoopRun.docket at hdocket ⊢
    rw [entries_follow_step, docket_append]
    simp only [LoopRun.entries, Journal.entries_append, Journal.entries_stamp]
    rw [docket_append]
    exact hdocket ▸ hp.docket_eq
  timedWork_eq := by
    rw [LoopRun.follow, Journal.timedWork_append, Journal.timedWork_append, h.timedWork_eq,
      hp.work_eq]
  files := files_follow_loop .step h.files

/-- A step about a payload that is no command leaves the second run where it is. -/
theorem step_aside (h : run.Leads w run') (ha : run.loop.isOnPoison run.source = true) :
    (run.follow w .step).Leads w run' := by
  obtain ⟨hstep, -⟩ := Loop.leads_step_aside run.world h.leads h.files ha
  have hwrite := h.write hstep
  rw [show stamp run.world.now [] = [] from rfl, List.append_nil] at hwrite
  obtain ⟨world', source', loop', journal'⟩ := run'
  obtain rfl : world' = run.world := h.world_eq
  exact hwrite

/-- Any other step is one of both. -/
theorem step (h : run.Leads w run') (ha : run.loop.isOnPoison run.source = false) :
    (run.follow w .step).Leads w (run'.follow w .step) := by
  obtain ⟨hstep, -⟩ := Loop.leads_step run.world h.leads h.files ha
  have hwrite := h.write hstep
  obtain ⟨world', source', loop', journal'⟩ := run'
  obtain rfl : world' = run.world := h.world_eq
  exact hwrite

/-- What comes from outside comes to both. -/
theorem outside (h : run.Leads w run') {event : Worker.Event} (he : event.isOutside = true) :
    (run.follow w event).Leads w (run'.follow w event) := by
  cases event with
  | step => cases he
  | cancel =>
    have hworld : run'.world.cancel = run.world.cancel := congrArg World.cancel h.world_eq
    exact ⟨hworld, h.leads, h.docket_eq, h.timedWork_eq, h.files⟩
  | elapse time =>
    have hworld : run'.world.at (run'.world.now + time) = run.world.at (run.world.now + time) := by
      rw [h.world_eq]
    exact ⟨hworld, h.leads, h.docket_eq, h.timedWork_eq, h.files⟩

/-- The second run can do what is left of what the first one does. -/
theorem exists_play (h : run.Leads w run') (events : List Worker.Event) :
    ∃ events', Courier.outside events' = Courier.outside events ∧
      (run.play w events).Leads w (run'.play w events') := by
  induction events generalizing run run' with
  | nil => exact ⟨[], rfl, h⟩
  | cons event events ih =>
    cases he : event.isOutside with
    | true =>
      obtain ⟨events', houtside, hplay⟩ := ih (h.outside he)
      refine ⟨event :: events', ?_, hplay⟩
      rw [Courier.outside, Courier.outside, List.filter_cons_of_pos he, List.filter_cons_of_pos he]
      exact congrArg (event :: ·) houtside
    | false =>
      obtain rfl : event = .step := by
        cases event with
        | step => rfl
        | cancel | elapse time => cases he
      cases ha : run.loop.isOnPoison run.source with
      | true => exact ih (h.step_aside ha)
      | false =>
        obtain ⟨events', houtside, hplay⟩ := ih (h.step ha)
        exact ⟨.step :: events', houtside, hplay⟩

/-- The first run comes to where its next step is one of both. -/
theorem exists_play_aside (h : run.Leads w run') :
    ∃ events, Courier.outside events = [] ∧ (run.play w events).Leads w run' ∧
      (run.play w events).loop.isOnPoison (run.play w events).source = false := by
  generalize hrank : run.loop.rank w.policy run.source = rank
  induction rank using Nat.strongRecOn generalizing run with
  | ind rank ih =>
    cases ha : run.loop.isOnPoison run.source with
    | false => exact ⟨[], rfl, h, ha⟩
    | true =>
      obtain ⟨-, hready, -⟩ := Loop.leads_step_aside run.world h.leads h.files ha
      have hlt : (run.follow w .step).loop.rank w.policy (run.follow w .step).source < rank :=
        hrank ▸ Loop.rank_step_lt hready
      obtain ⟨events, houtside, hplay⟩ := ih _ hlt (h.step_aside ha) rfl
      exact ⟨.step :: events, houtside, hplay⟩

/-- The first run can do what the second one does, and deal with everything else in between. -/
theorem exists_play' (h : run.Leads w run') (events' : List Worker.Event) :
    ∃ events, Courier.outside events = Courier.outside events' ∧
      (run.play w events).Leads w (run'.play w events') := by
  induction events' generalizing run run' with
  | nil => exact ⟨[], rfl, h⟩
  | cons event events' ih =>
    obtain ⟨front, hfront, hlead, ha⟩ := h.exists_play_aside
    have hfollow : ((run.play w front).follow w event).Leads w (run'.follow w event) := by
      cases event with
      | step => exact hlead.step ha
      | cancel => exact hlead.outside rfl
      | elapse time => exact hlead.outside rfl
    obtain ⟨events, houtside, hplay⟩ := ih hfollow
    refine ⟨front ++ event :: events, ?_, ?_⟩
    · rw [Courier.outside, List.filter_append, ← Courier.outside, hfront, List.nil_append]
      cases event with
      | step => exact houtside
      | cancel => exact congrArg (Worker.Event.cancel :: ·) houtside
      | elapse time => exact congrArg (Worker.Event.elapse time :: ·) houtside
    · rw [LoopRun.play_append]
      exact hplay

/-- The first loop waits for nothing in vain. -/
theorem isLive (h : run.Leads w run') : run.loop.phase.IsLive := by
  have hprompt := h.leads.prompt
  have hlive := h.files.live
  generalize run.loop.phase = phase at hprompt hlive
  cases phase with
  | holding => exact hprompt
  | working stage => exact hlive stage rfl
  | idle | pulling | popping | awaiting _ | ended | failed _ => trivial

/-- On clocks of their own both runs come to the same end. -/
theorem toEnd (h : run.Leads w run') : (run.toEnd w).Leads w (run'.toEnd w) := by
  fun_induction LoopRun.toEnd w run generalizing run' with
  | case1 run hnone =>
    cases ha : run.loop.isOnPoison run.source with
    | true =>
      obtain ⟨-, -, htime⟩ := Loop.leads_step_aside run.world h.leads h.files ha
      rw [hnone] at htime
      cases htime
    | false =>
      obtain ⟨-, htime, -⟩ := Loop.leads_step run.world h.leads h.files ha
      have hnone' : run'.loop.readyAt w run'.world = none := by rw [h.world_eq, htime, hnone]
      rw [LoopRun.toEnd, hnone']
      exact h
  | case2 run time htime ready hready =>
    rename_i ih
    have heq : ready = { run with world := run.world.at time } := LoopRun.follow_elapse htime
    have hnow : run.loop.isReady w (run.world.at time) run.source = true := by
      rw [heq] at hready
      exact hready
    cases ha : run.loop.isOnPoison run.source with
    -- No time passes for a payload that is no command.
    | true =>
      obtain ⟨-, -, htime'⟩ := Loop.leads_step_aside run.world h.leads h.files ha
      obtain rfl : time = run.world.now := Option.some.inj (htime.symm.trans htime')
      have hsame : ready = run := heq
      rw [hsame] at ih ⊢
      exact ih (h.step_aside ha)
    | false =>
      obtain ⟨-, htime', hready'⟩ := Loop.leads_step run.world h.leads h.files ha
      have hlead : ready.Leads w (run'.follow w (.elapse (time - run.world.now))) := h.outside rfl
      have hunfold : run'.toEnd w =
          ((run'.follow w (.elapse (time - run.world.now))).follow w .step).toEnd w := by
        rw [← h.world_eq]
        refine LoopRun.toEnd_of_isReady ?_ ?_
        · rw [h.world_eq, htime', htime]
        · rw [← h.world_eq] at hlead
          have hworld := hlead.world_eq
          rw [hworld, heq]
          exact (hready' time).trans hnow
      rw [hunfold]
      exact ih (hlead.step ha)
  | case3 run time htime ready =>
    rename_i hready
    have heq : ready = { run with world := run.world.at time } := LoopRun.follow_elapse htime
    rw [heq] at hready
    exact absurd (Loop.isReady_at h.isLive htime) hready

end LoopRun.Leads

/-! ### Lists with the same commands -/

/-- Two runs have done the same about commands, at the same times. -/
structure LoopRun.AgreesOnCommands (run run' : LoopRun σ) : Prop where
  /-- The clock, the shutdown, the tokens drawn and what the handler remembers are the same. -/
  world_eq : run'.world = run.world
  /-- The handler was called for the same, answered the same, and the same was waited for. -/
  timedWork_eq : run'.journal.timedWork = run.journal.timedWork
  /-- The commands came to the same outcomes, through the same acts. -/
  docket_eq : run'.docket.commands = run.docket.commands
  /-- The counts differ in the number of payloads that are no commands only. -/
  tally_eq : run'.loop.tally.commands = run.loop.tally.commands
  ended_iff : run'.loop.phase = .ended ↔ run.loop.phase = .ended

/-- What a run over a list of deliveries does about payloads that are no commands. -/
structure LoopRun.RejectsPoison (ds : List Delivery) (run : LoopRun σ) : Prop where
  /-- They go to the dead letters, and nothing else is done about them. -/
  rejected : ∀ c ∈ run.docket.closed, c.delivery.isPoison = true →
    c.outcome = .poison ∧ c.acts = [.settle (c.delivery.settle .deadLetter)]
  /-- Nothing is done about the one in flight. -/
  untouched : ∀ a, run.docket.current? = some a → a.delivery.isPoison = true → a.acts = []
  /-- At the end every delivery of the list has come to its outcome, in order. -/
  ended : run.loop.phase = .ended → run.docket.closed.map (·.delivery) = ds

/-- Runs that do the same as a third one about commands agree on them. -/
theorem LoopRun.Leads.agreesOnCommands {w : Worker σ} {run run' third : LoopRun σ}
    (h : run.Leads w third) (h' : run'.Leads w third) : run.AgreesOnCommands run' where
  world_eq := h'.world_eq.symm.trans h.world_eq
  timedWork_eq := h'.timedWork_eq.symm.trans h.timedWork_eq
  docket_eq := h'.docket_eq.symm.trans h.docket_eq
  tally_eq := h'.leads.tally_eq.symm.trans h.leads.tally_eq
  ended_iff := by
    have hphase := h.leads.phase_eq
    have hphase' := h'.leads.phase_eq
    rw [← LoopPhase.commands_eq_ended_iff, ← hphase', hphase, LoopPhase.commands_eq_ended_iff]

/-- Nothing is done about a payload that is no command before its terminal action. -/
theorem acts_eq_nil_of_isPoison {w : Worker σ} {d : Delivery} {l : List Act} {stage : Stage}
    (h : stage.Fits w d l) (hf : stage.isFinal = false) (hp : d.isPoison = true) : l = [] := by
  have hstage : stage.isPoison = true := (isPoison_of_fits h hf).trans hp
  cases stage with
  | received d' => exact h.2
  | settling s =>
    obtain ⟨-, hend⟩ := h
    have houtcome : s.outcome = .poison := of_decide_eq_true hstage
    rw [houtcome] at hend
    cases hend with
    | poison hd => rfl
  | due _ _ | calling _ _ _ _ | waiting _ _ _ | finished _ | broken _ => cases hstage

theorem rejectsPoison_of_files {w : Worker σ} {ds : List Delivery} {run : LoopRun σ}
    (hf : run.loop.Files w run.entries) (hs : run.Sound w (batch ds)) : run.RejectsPoison ds where
  rejected c hc hp := (hf.fits c hc).of_isPoison hp
  untouched a ha hp := by
    have hcurrent : (docket run.entries).current? = some a := ha
    cases hstage : run.loop.phase.stage? with
    | none =>
      rw [hf.idle hstage] at hcurrent
      cases hcurrent
    | some stage =>
      obtain ⟨a', ha', hfits⟩ := hf.busy stage hstage
      obtain rfl : a' = a := Option.some.inj (ha'.symm.trans hcurrent)
      obtain hlive | ⟨text, rfl⟩ := hf.isFinal_or_broken hstage
      · exact acts_eq_nil_of_isPoison hfits hlive hp
      · exact absurd hfits (not_broken_of_isPoison hp)
  ended hphase := by
    rw [map_delivery_closed_of_ended hf hs hphase, batch, Source.ofDeliveries, List.filterMap_map]
    exact List.filterMap_some

/-- **Payloads that are no commands do not interfere.**  Take two lists of deliveries with the same
commands.  Whatever a run over the first one does, under any shutdown and any passing of time, a run
over the second one under the same does the same about the commands, at the same times; and on
clocks of their own the two loops do.  Each payload that is no command goes to the dead letters
once, without a call. -/
theorem agreesOnCommands_play (w : Worker σ) (world : World σ) (ds ds' : List Delivery)
    (h : commands ds' = commands ds) :
    (∀ events, ∃ events', outside events' = outside events ∧
      (w.playLoop world (batch ds) events).AgreesOnCommands
        (w.playLoop world (batch ds') events')) ∧
    (w.consume world (batch ds)).AgreesOnCommands (w.consume world (batch ds')) ∧
    (∀ events, (w.playLoop world (batch ds) events).RejectsPoison ds) ∧
    (w.consume world (batch ds)).RejectsPoison ds ∧
    ((w.consume world (batch ds)).loop.phase = .ended ∨
      ∃ text, (w.consume world (batch ds)).loop.phase = .failed text ∧
        .panicked text ∈ Act.results (acts (w.consume world (batch ds)).entries)) := by
  have hstart := leads_start w world ds
  have hstart' := leads_start w world ds'
  rw [h] at hstart'
  have hsound := sound_start_loop w world (batch ds)
  have hrejects (events : List Worker.Event) :
      (w.playLoop world (batch ds) events).RejectsPoison ds :=
    rejectsPoison_of_files (files_play_loop w world (batch ds) events)
      (sound_play_loop events hsound)
  obtain ⟨played, hplayed⟩ := exists_play_eq_toEnd_loop w (LoopRun.start world (batch ds))
  have hconsume : w.consume world (batch ds) = w.playLoop world (batch ds) played := hplayed
  refine ⟨?_, hstart.toEnd.agreesOnCommands hstart'.toEnd, hrejects, ?_, ?_⟩
  · intro events
    obtain ⟨third, hthird, hleads⟩ := hstart.exists_play events
    obtain ⟨events', houtside, hleads'⟩ := hstart'.exists_play' third
    exact ⟨events', houtside.trans hthird, hleads.agreesOnCommands hleads'⟩
  · rw [hconsume]
    exact hrejects played
  · obtain hended | ⟨text, hfailed⟩ := phase_toEnd hsound
    · exact Or.inl hended
    · have horderly := (sound_play_loop played hsound).orderly
      rw [← hplayed] at horderly
      exact Or.inr ⟨text, hfailed, horderly.failed text hfailed⟩

/-- Two empty payloads around a command change nothing about it, although shutdown begins with its
first call. -/
theorem agreesOnCommands_play_around :
    let w := Worker.scripted (some 1)
    let world : World Handler.Script := { memory := ⟨some 5, []⟩ }
    let ds : List Delivery := [{ payload := [] }, .refused, { payload := [] }]
    commands [.refused] = commands ds ∧
      (w.consume world (batch ds)).AgreesOnCommands (w.consume world (batch [.refused])) ∧
      (w.consume world (batch ds)).RejectsPoison ds := by
  intro w world ds
  have hcommand : Delivery.refused.isPoison = false := by
    rw [Delivery.isPoison, Item.isPoison, decode_refused]
    rfl
  have hempty : Delivery.isPoison { payload := [] } = true := rfl
  have hcommands : commands [.refused] = commands ds := by
    simp only [ds, commands, List.filter_cons, hcommand, hempty]
    rfl
  obtain ⟨-, hagrees, -, hrejects, -⟩ := agreesOnCommands_play w world ds [.refused] hcommands
  exact ⟨hcommands, hagrees, hrejects⟩

end Courier
