import Courier.Proofs.Service.Endings

/-!
# Terminal actions that are refused

A broker may refuse a terminal action.  The refusal is logged and marked on a span, and that is all:
the action is not repeated, no other one takes its place, and neither this delivery nor a later one
comes to a different end.

`unrefused` takes the answers of brokers out of everything that holds a delivery, and log records
and span statuses out of a journal.  A step from a state without answers leads to the same, without
answers, as a step from the state itself (`Worker.unrefused_step`, `Loop.unrefused_step`).  So two
runs that start with the same but for the answers stay so (`sameButAnswers_play`).
-/

namespace Courier

variable {σ : Type}

/-! ### Leaving out the answers -/

/-- The delivery, from a broker that refuses nothing. -/
def Delivery.unrefused (d : Delivery) : Delivery := { d with refusal := fun _ => none }

/-- The item, from a broker that refuses nothing. -/
def Item.unrefused : Item → Item
  | delivery d => delivery d.unrefused
  | fault reason => fault reason

/-- The item that is still to come, from a broker that refuses nothing. -/
def Pending.unrefused (p : Pending) : Pending := { p with item := p.item.unrefused }

/-- The source, over a broker that refuses nothing. -/
def Source.unrefused (s : Source) : Source := { s with pending := s.pending.map Pending.unrefused }

/-- What the source gives, over a broker that refuses nothing. -/
def Pull.unrefused : Pull → Pull
  | now item rest => now item.unrefused rest.unrefused
  | pull => pull

/-- The job, from a broker that refuses nothing. -/
def Job.unrefused (job : Job) : Job := { job with delivery := job.delivery.unrefused }

/-- The settlement, with a broker that refuses nothing. -/
def Settlement.unrefused (s : Settlement) : Settlement :=
  { s with delivery := s.delivery.unrefused }

/-- The stage, with a broker that refuses nothing. -/
def Stage.unrefused : Stage → Stage
  | received d => received d.unrefused
  | due job n => due job.unrefused n
  | calling job n since reply => calling job.unrefused n since reply
  | waiting job n until_ => waiting job.unrefused n until_
  | settling s => settling s.unrefused
  | finished outcome => finished outcome
  | broken text => broken text

/-- The phase, with a broker that refuses nothing. -/
def LoopPhase.unrefused : LoopPhase → LoopPhase
  | working stage => working stage.unrefused
  | phase => phase

/-- The loop, with a broker that refuses nothing. -/
def Loop.unrefused (loop : Loop) : Loop := { loop with phase := loop.phase.unrefused }

/-- The receipt as it was handed in, with a broker that refuses nothing. -/
def ReceiptCall.unrefused (call : ReceiptCall) : ReceiptCall := { call with answer := .ok () }

/-- The act, with a broker that refuses nothing. -/
def Act.unrefused : Act → Act
  | settle handed => settle handed.unrefused
  | act => act

/-- The entry without the answer of a broker; log records and span statuses are left out. -/
def Entry.unrefused? : Entry → Option Entry
  | received d => some (received d.unrefused)
  | settled action call => some (settled action call.unrefused)
  | marked _ _ | logged _ _ => none
  | entry => some entry

/-- The entries without the answers of brokers, log records and span statuses. -/
def unrefused (entries : List Entry) : List Entry := entries.filterMap Entry.unrefused?

/-- The journal without the answers of brokers, log records and span statuses. -/
def Journal.unrefused (j : Journal) : Journal :=
  j.filterMap fun s => s.entry.unrefused?.map fun entry => ⟨s.time, entry⟩

/-- The account, with a broker that refuses nothing. -/
def Account.unrefused (a : Account) : Account := ⟨a.delivery.unrefused, a.acts.map Act.unrefused⟩

/-- The case, with a broker that refuses nothing. -/
def Case.unrefused (c : Case) : Case :=
  ⟨c.delivery.unrefused, c.acts.map Act.unrefused, c.outcome⟩

/-- The docket, with brokers that refuse nothing. -/
def Docket.unrefused (D : Docket) : Docket where
  closed := D.closed.map Case.unrefused
  current? := D.current?.map Account.unrefused

/-- What a step leads to, with a broker that refuses nothing. -/
def Progress.unrefused (progress : Progress σ) : Progress σ :=
  ⟨progress.world, progress.stage.unrefused, Courier.unrefused progress.entries⟩

/-- What a step leads to, with brokers that refuse nothing. -/
def LoopProgress.unrefused (progress : LoopProgress σ) : LoopProgress σ :=
  ⟨progress.world, progress.source.unrefused, progress.loop.unrefused,
    Courier.unrefused progress.entries⟩

/-! ### The work on one delivery -/

namespace Worker

variable (w : Worker σ) (world : World σ)

/-- Answers, records and statuses aside, a terminal action leaves the same entries behind. -/
theorem unrefused_entries_settle (s : Settlement) :
    Courier.unrefused (w.settle world s).entries =
      .settled s.outcome.disposition (s.delivery.settle s.outcome.disposition).unrefused ::
        (s.attempt.toList.map (fun n => Entry.closed (.attempt n)) ++
          [.closed .handle, .ended s.outcome]) := by
  simp only [settle]
  cases s.attempt <;> cases (s.delivery.settle s.outcome.disposition).answer <;> rfl

/-- The work on a delivery goes the same way whatever its broker answers. -/
theorem unrefused_step (stage : Stage) :
    (w.step world stage.unrefused).unrefused = (w.step world stage).unrefused := by
  cases stage with
  | received d =>
    simp only [Stage.unrefused, step, receive]
    have hpayload : d.unrefused.payload = d.payload := rfl
    rw [hpayload]
    split
    · rfl
    · rfl
  | due job n =>
    simp only [Stage.unrefused, step, attempt]
    split
    · rfl
    · rfl
  | calling job n since reply =>
    simp only [Stage.unrefused, step]
    split
    · cases reply.result with
      | succeeded => rfl
      | failed e =>
        simp only [conclusion, retry]
        split
        · rfl
        · rfl
      | panicked text => rfl
    · rfl
  | waiting job n until_ =>
    simp only [Stage.unrefused, step, wake]
    split
    · split
      · rfl
      · rfl
    · rfl
  | settling s =>
    have hentries := w.unrefused_entries_settle world s
    have hentries' := w.unrefused_entries_settle world s.unrefused
    show Progress.mk world (.finished s.outcome) _ = Progress.mk world (.finished s.outcome) _
    exact congrArg _ (hentries'.trans hentries.symm)
  | finished outcome => rfl
  | broken text => rfl

end Worker

/-! ### The loop -/

namespace Source

variable (s : Source)

@[simp] theorem unrefused_unrefused : s.unrefused.unrefused = s.unrefused := by
  have hitem (p : Pending) : p.unrefused.unrefused = p.unrefused := by
    obtain ⟨d | reason, after⟩ := p
    · rfl
    · rfl
  simp only [unrefused, List.map_map]
  congr 1
  exact List.map_congr_left fun p _ => hitem p

theorem unrefused_take : s.unrefused.take = s.take.unrefused := by
  obtain ⟨pending, holdsOpen, isStopped, farewell, stopRefusal, stopDelay⟩ := s
  cases isStopped with
  | true => cases farewell <;> rfl
  | false =>
    cases pending with
    | nil => cases holdsOpen <;> rfl
    | cons p rest => rfl

theorem unrefused_pullStopped : s.unrefused.pullStopped = s.pullStopped.unrefused := by
  obtain ⟨pending, holdsOpen, isStopped, farewell, stopRefusal, stopDelay⟩ := s
  cases farewell <;> rfl

theorem unrefused_pop : s.unrefused.pop = s.pop.unrefused := by
  obtain ⟨pending, holdsOpen, isStopped, farewell, stopRefusal, stopDelay⟩ := s
  cases pending with
  | nil => cases holdsOpen <;> rfl
  | cons p rest =>
    obtain ⟨item, after⟩ := p
    cases after <;> rfl

theorem isHeld_unrefused : s.unrefused.isHeld = s.isHeld := by
  obtain ⟨pending, holdsOpen, isStopped, farewell, stopRefusal, stopDelay⟩ := s
  cases pending <;> rfl

end Source

namespace Loop

variable (w : Worker σ) (world : World σ) (source : Source) (loop : Loop)

theorem unrefused_accept (pull : Pull) :
    (loop.unrefused.accept w world source.unrefused pull.unrefused).unrefused =
      (loop.accept w world source pull).unrefused := by
  cases pull with
  | closed | held | later wait =>
    simp only [Pull.unrefused, accept, LoopProgress.unrefused, Source.unrefused_unrefused]
    rfl
  | now item rest =>
    cases item with
    | delivery d =>
      simp only [Pull.unrefused, Item.unrefused, accept, LoopProgress.unrefused,
        Source.unrefused_unrefused]
      rfl
    | fault reason =>
      simp only [Pull.unrefused, Item.unrefused, accept, LoopProgress.unrefused,
        Source.unrefused_unrefused]
      rfl

theorem unrefused_afterStage (stage : Stage) :
    (loop.unrefused.afterStage stage.unrefused).unrefused = (loop.afterStage stage).unrefused := by
  cases stage <;> rfl

/-- The loop goes the same way whatever the brokers answer. -/
theorem unrefused_step :
    (loop.unrefused.step w world source.unrefused).unrefused =
      (loop.step w world source).unrefused := by
  obtain ⟨phase, tally⟩ := loop
  cases phase with
  | pulling =>
    have hstopped : source.unrefused.isStopped = source.isStopped := rfl
    simp only [unrefused, LoopPhase.unrefused, step, hstopped]
    split
    · rw [source.unrefused_pullStopped]
      exact unrefused_accept w world source ⟨.pulling, tally⟩ source.pullStopped
    · simp only [LoopProgress.unrefused, Source.unrefused_unrefused]
  | popping =>
    show (Loop.unrefused ⟨.popping, tally⟩ |>.accept w world source.unrefused
      source.unrefused.pop).unrefused = _
    rw [source.unrefused_pop]
    exact unrefused_accept w world source ⟨.popping, tally⟩ source.pop
  | awaiting until_ =>
    have hstopped : source.unrefused.isStopped = source.isStopped := rfl
    simp only [unrefused, LoopPhase.unrefused, step, hstopped]
    split
    · rw [source.unrefused_take]
      exact unrefused_accept w world source ⟨.awaiting until_, tally⟩ source.take
    · simp only [LoopProgress.unrefused, Source.unrefused_unrefused]
  | holding =>
    show (Loop.unrefused ⟨.holding, tally⟩ |>.accept w world source.unrefused
      source.unrefused.take).unrefused = _
    rw [source.unrefused_take]
    exact unrefused_accept w world source ⟨.holding, tally⟩ source.take
  | working stage =>
    have hstep := w.unrefused_step world stage
    simp only [Progress.unrefused, Progress.mk.injEq] at hstep
    obtain ⟨hworld, hstage, hentries⟩ := hstep
    have hloop : (Loop.afterStage ⟨.working stage.unrefused, tally⟩
        (w.step world stage.unrefused).stage).unrefused =
        (Loop.afterStage ⟨.working stage, tally⟩ (w.step world stage).stage).unrefused := by
      rw [← unrefused_afterStage, hstage, ← unrefused_afterStage ⟨.working stage, tally⟩]
      rfl
    simp only [unrefused, LoopPhase.unrefused, step, work, LoopProgress.unrefused,
      Source.unrefused_unrefused]
    simp only [unrefused] at hloop
    rw [hworld, hentries]
    exact congrArg (fun loop => LoopProgress.mk _ _ loop _) hloop
  | idle | ended | failed text =>
    simp only [unrefused, LoopPhase.unrefused, step, LoopProgress.unrefused,
      Source.unrefused_unrefused]

end Loop

/-- The loop is as far from its next step whatever the brokers answer. -/
theorem Loop.readyAt_unrefused (w : Worker σ) (world : World σ) (loop : Loop) :
    loop.unrefused.readyAt w world = loop.readyAt w world := by
  obtain ⟨phase, tally⟩ := loop
  cases phase with
  | working stage => cases stage <;> rfl
  | idle | pulling | popping | awaiting _ | holding | ended | failed _ => rfl

theorem Loop.isReady_unrefused (w : Worker σ) (world : World σ) (source : Source) (loop : Loop) :
    loop.unrefused.isReady w world source.unrefused = loop.isReady w world source := by
  obtain ⟨phase, tally⟩ := loop
  cases phase with
  | holding => exact congrArg (!·) source.isHeld_unrefused
  | working stage => cases stage <;> rfl
  | idle | pulling | popping | awaiting _ | ended | failed _ => rfl

/-! ### Journals and dockets -/

namespace Journal

theorem unrefused_append_stamp (j : Journal) (time : Nat) (l : List Entry) :
    unrefused (j ++ stamp time l) = unrefused j ++ stamp time (Courier.unrefused l) := by
  rw [unrefused, List.filterMap_append, ← unrefused, stamp, stamp, Courier.unrefused,
    List.filterMap_map, List.map_filterMap]
  rfl

theorem entries_unrefused (j : Journal) : j.unrefused.entries = Courier.unrefused j.entries := by
  rw [entries, unrefused, entries, Courier.unrefused, List.map_filterMap, List.filterMap_map]
  congr 1
  funext s
  show _ = s.entry.unrefused?
  cases s.entry.unrefused? <;> rfl

/-- Answers aside, nothing that is done to others is left out. -/
theorem timedActs_unrefused (j : Journal) :
    j.unrefused.timedActs = j.timedActs.map fun p => (p.1, p.2.unrefused) := by
  rw [timedActs, timedActs, unrefused, List.filterMap_filterMap, List.map_filterMap]
  congr 1
  funext s
  obtain ⟨time, entry⟩ := s
  cases entry <;> rfl

end Journal

namespace Docket

variable (D : Docket)

theorem unrefused_add (more : List Act) :
    (D.add more).unrefused = D.unrefused.add (more.map Act.unrefused) := by
  obtain ⟨closed, _ | a⟩ := D
  · rfl
  · simp only [add, unrefused, Account.unrefused, Option.map_some, List.map_append]

theorem unrefused_close (outcome : Outcome) :
    (D.close outcome).unrefused = D.unrefused.close outcome := by
  obtain ⟨closed, _ | a⟩ := D
  · simp only [close, unrefused, Option.toList_none, List.map_nil, List.append_nil, Option.map_none]
  · simp only [close, unrefused, Option.toList_some, List.map_append, List.map_cons, List.map_nil,
      Option.map_some, Option.map_none]
    rfl

/-- Without answers an entry does to the docket what it does with them. -/
theorem unrefused_enter (entry : Entry) :
    (D.enter entry).unrefused = entry.unrefused?.toList.foldl enter D.unrefused := by
  cases entry
  case received d => rfl
  case ended outcome => exact D.unrefused_close outcome
  case marked span status => exact congrArg unrefused D.add_nil
  case logged span record => exact congrArg unrefused D.add_nil
  all_goals exact D.unrefused_add _

theorem foldl_enter_unrefused (entries : List Entry) :
    (Courier.unrefused entries).foldl enter D.unrefused = (entries.foldl enter D).unrefused := by
  induction entries generalizing D with
  | nil => rfl
  | cons entry entries ih =>
    have hcons : Courier.unrefused (entry :: entries) =
        entry.unrefused?.toList ++ Courier.unrefused entries := by
      rw [Courier.unrefused, List.filterMap_cons]
      cases entry.unrefused? <;> rfl
    rw [hcons, List.foldl_append, ← D.unrefused_enter, ih, List.foldl_cons]

end Docket

/-- Answers aside, every delivery has the same case. -/
theorem docket_unrefused (entries : List Entry) :
    docket (unrefused entries) = (docket entries).unrefused :=
  Docket.foldl_enter_unrefused {} entries

/-! ### Runs -/

namespace LoopRun

/-- The run, with brokers that refuse nothing, and without log records and span statuses. -/
def unrefused (run : LoopRun σ) : LoopRun σ :=
  ⟨run.world, run.source.unrefused, run.loop.unrefused, run.journal.unrefused⟩

variable {w : Worker σ} {run run' : LoopRun σ}

theorem unrefused_follow (event : Worker.Event) (h : run'.unrefused = run.unrefused) :
    (run'.follow w event).unrefused = (run.follow w event).unrefused := by
  obtain ⟨world, source, loop, journal⟩ := run
  obtain ⟨world', source', loop', journal'⟩ := run'
  simp only [unrefused, LoopRun.mk.injEq] at h
  obtain ⟨rfl, hsource, hloop, hjournal⟩ := h
  cases event with
  | step =>
    have hstep : (loop'.step w world' source').unrefused =
        (loop.step w world' source).unrefused := by
      rw [← Loop.unrefused_step, hsource, hloop, Loop.unrefused_step]
    simp only [LoopProgress.unrefused, LoopProgress.mk.injEq] at hstep
    obtain ⟨hworld, hsource, hloop, hentries⟩ := hstep
    simp only [unrefused, follow, Journal.unrefused_append_stamp, hworld, hsource, hloop, hentries,
      hjournal]
  | cancel => simp only [unrefused, follow, hsource, hloop, hjournal]
  | elapse time => simp only [unrefused, follow, hsource, hloop, hjournal]

theorem unrefused_play (events : List Worker.Event) (h : run'.unrefused = run.unrefused) :
    (run'.play w events).unrefused = (run.play w events).unrefused := by
  induction events generalizing run run' with
  | nil => exact h
  | cons event events ih => exact ih (unrefused_follow event h)

/-- Whether the loop can go further, and when, does not depend on the answers. -/
theorem isReady_of_unrefused_eq (h : run'.unrefused = run.unrefused) :
    run'.loop.isReady w run'.world run'.source = run.loop.isReady w run.world run.source := by
  simp only [unrefused, LoopRun.mk.injEq] at h
  obtain ⟨hworld, hsource, hloop, -⟩ := h
  rw [← Loop.isReady_unrefused, hworld, hsource, hloop, Loop.isReady_unrefused]

theorem readyAt_of_unrefused_eq (h : run'.unrefused = run.unrefused) :
    run'.loop.readyAt w run'.world = run.loop.readyAt w run.world := by
  simp only [unrefused, LoopRun.mk.injEq] at h
  obtain ⟨hworld, -, hloop, -⟩ := h
  rw [← Loop.readyAt_unrefused, hworld, hloop, Loop.readyAt_unrefused]

theorem unrefused_toEnd (h : run'.unrefused = run.unrefused) :
    (run'.toEnd w).unrefused = (run.toEnd w).unrefused := by
  fun_induction LoopRun.toEnd w run generalizing run' with
  | case1 run hnone =>
    have hnone' := (readyAt_of_unrefused_eq (w := w) h).trans hnone
    rw [toEnd, hnone']
    exact h
  | case2 run time htime ready hready =>
    rename_i ih
    have hnow : run'.world.now = run.world.now := congrArg (fun run => run.world.now) h
    have hwait : (run'.follow w (.elapse (time - run'.world.now))).unrefused = ready.unrefused := by
      rw [hnow]
      exact unrefused_follow _ h
    have htime' := (readyAt_of_unrefused_eq (w := w) h).trans htime
    have hready' := (isReady_of_unrefused_eq (w := w) hwait).trans hready
    rw [toEnd_of_isReady htime' hready']
    exact ih (unrefused_follow .step hwait)
  | case3 run time htime ready =>
    rename_i hready
    have hnow : run'.world.now = run.world.now := congrArg (fun run => run.world.now) h
    have hwait : (run'.follow w (.elapse (time - run'.world.now))).unrefused = ready.unrefused := by
      rw [hnow]
      exact unrefused_follow _ h
    have htime' := (readyAt_of_unrefused_eq (w := w) h).trans htime
    have hready' := isReady_of_unrefused_eq (w := w) hwait
    rw [toEnd, htime']
    simp only [hready', hready, Bool.false_eq_true, dif_neg, not_false_eq_true]
    exact h

end LoopRun

/-- Two runs have done the same but for log records, span statuses and the answers of brokers. -/
structure LoopRun.SameButAnswers (run run' : LoopRun σ) : Prop where
  /-- The clock, the shutdown, the tokens drawn and what the handler remembers are the same. -/
  world_eq : run'.world = run.world
  tally_eq : run'.loop.tally = run.loop.tally
  ended_iff : run'.loop.phase = .ended ↔ run.loop.phase = .ended
  /-- Calls, waits and terminal actions are the same, at the same times. -/
  timedActs_eq : (run'.journal.timedActs.map fun p => (p.1, p.2.unrefused)) =
    run.journal.timedActs.map fun p => (p.1, p.2.unrefused)
  /-- The deliveries came to the same outcomes, through the same acts. -/
  docket_eq : run'.docket.unrefused = run.docket.unrefused
  /-- Everything else that was written is the same, too. -/
  journal_eq : run'.journal.unrefused = run.journal.unrefused

/-- A run over a stream asks for one terminal action for each delivery. -/
structure LoopRun.SettlesOnce (stream : List Pending) (run : LoopRun σ) : Prop where
  /-- A delivery that came to an outcome was settled once, as the outcome says. -/
  settled : ∀ c ∈ run.docket.closed, SettledOnce c.delivery c.outcome c.acts
  /-- A delivery in flight has not been settled. -/
  unsettled : ∀ a, run.docket.current? = some a → Act.actions a.acts = []
  /-- At the end every delivery of the stream has come to its outcome, in order. -/
  ended : run.loop.phase = .ended →
    run.docket.closed.map (·.delivery) = stream.filterMap fun p => p.item.delivery?

theorem LoopPhase.unrefused_eq_ended_iff {phase : LoopPhase} :
    phase.unrefused = .ended ↔ phase = .ended := by
  cases phase with
  | working stage => exact ⟨LoopPhase.noConfusion, LoopPhase.noConfusion⟩
  | idle | pulling | popping | awaiting _ | holding | ended | failed _ => exact Iff.rfl

theorem sameButAnswers_of_unrefused_eq {run run' : LoopRun σ}
    (h : run'.unrefused = run.unrefused) : run.SameButAnswers run' := by
  simp only [LoopRun.unrefused, LoopRun.mk.injEq] at h
  obtain ⟨hworld, -, hloop, hjournal⟩ := h
  have hphase : run'.loop.phase.unrefused = run.loop.phase.unrefused := congrArg Loop.phase hloop
  have htally : run'.loop.tally = run.loop.tally := by
    show run'.loop.unrefused.tally = run.loop.unrefused.tally
    rw [hloop]
  refine ⟨hworld, htally, ?_, ?_, ?_, hjournal⟩
  · rw [← LoopPhase.unrefused_eq_ended_iff, hphase, LoopPhase.unrefused_eq_ended_iff]
  · rw [← Journal.timedActs_unrefused, hjournal, Journal.timedActs_unrefused]
  · unfold LoopRun.docket LoopRun.entries
    rw [← docket_unrefused, ← docket_unrefused, ← Journal.entries_unrefused, hjournal,
      Journal.entries_unrefused]

theorem settlesOnce_of_files {w : Worker σ} {stream : List Pending} {run : LoopRun σ}
    (hf : run.loop.Files w run.entries) (hs : run.Sound w stream) : run.SettlesOnce stream where
  settled c hc := (hf.fits c hc).settledOnce
  unsettled a ha := by
    have hcurrent : (docket run.entries).current? = some a := ha
    cases hstage : run.loop.phase.stage? with
    | none =>
      rw [hf.idle hstage] at hcurrent
      cases hcurrent
    | some stage =>
      obtain ⟨a', ha', hfits⟩ := hf.busy stage hstage
      obtain rfl : a' = a := Option.some.inj (ha'.symm.trans hcurrent)
      refine actions_eq_nil_of_fits hfits ?_
      rintro outcome rfl
      obtain hlive | ⟨text, htext⟩ := hf.isFinal_or_broken hstage
      · cases hlive
      · cases htext
  ended hp := map_delivery_closed_of_ended hf hs hp

/-- **Refusals change nothing.**  Take two streams that differ in nothing but what brokers answer to
terminal actions.  Under the same events, and on clocks of their own, the two loops make the same
calls, waits and terminal actions at the same times, come to the same outcomes and count the same;
each delivery is settled once, whatever the answer. -/
theorem sameButAnswers_play (w : Worker σ) (world : World σ) (stream stream' : List Pending)
    (h : stream'.map Pending.unrefused = stream.map Pending.unrefused) :
    (∀ events, (w.playLoop world stream events).SameButAnswers
      (w.playLoop world stream' events)) ∧
    (w.consume world stream).SameButAnswers (w.consume world stream') ∧
    (∀ events, (w.playLoop world stream events).SettlesOnce stream) ∧
    (w.consume world stream).SettlesOnce stream := by
  have hstart : (LoopRun.start world stream').unrefused =
      (LoopRun.start world stream).unrefused := by
    simp only [LoopRun.start, LoopRun.unrefused, Source.unrefused, h]
  have hsound := sound_start_loop w world stream
  have hsettles (events : List Worker.Event) :
      (w.playLoop world stream events).SettlesOnce stream :=
    settlesOnce_of_files (files_play_loop w world stream events) (sound_play_loop events hsound)
  obtain ⟨played, hplayed⟩ := exists_play_eq_toEnd_loop w (LoopRun.start world stream)
  refine ⟨?_, ?_, hsettles, ?_⟩
  · intro events
    exact sameButAnswers_of_unrefused_eq (LoopRun.unrefused_play events hstart)
  · exact sameButAnswers_of_unrefused_eq (LoopRun.unrefused_toEnd hstart)
  · have hconsume : w.consume world stream = w.playLoop world stream played := hplayed
    rw [hconsume]
    exact hsettles played

/-- The broker that takes the first of two deliveries refuses every terminal action, or none. -/
theorem sameButAnswers_play_first :
    let w := Worker.scripted none
    let world : World Handler.Script := { memory := ⟨some 1, []⟩ }
    let stream : List Pending := [⟨.delivery .refused, 0⟩, ⟨.delivery { payload := [] }, 0⟩]
    let stream' : List Pending :=
      [⟨.delivery Delivery.refused.unrefused, 0⟩, ⟨.delivery { payload := [] }, 0⟩]
    stream'.map Pending.unrefused = stream.map Pending.unrefused ∧
      (w.consume world stream).SameButAnswers (w.consume world stream') ∧
      (w.consume world stream).SettlesOnce stream := by
  intro w world stream stream'
  have hstreams : stream'.map Pending.unrefused = stream.map Pending.unrefused := rfl
  obtain ⟨-, hsame, -, hsettles⟩ := sameButAnswers_play w world stream stream' hstreams
  exact ⟨hstreams, hsame, hsettles⟩

end Courier
