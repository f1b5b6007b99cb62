import Courier.Proofs.Service.Interleaving

/-!
# The consume loop over a stream

A stream is a list of items, deliveries and errors in any order, that a source hands out one by one
before it closes.  Here the loop is alone with such a source, and its run is played by a list of
events (`Worker.playLoop`): steps of the loop, the beginning of shutdown, time that passes.
`Worker.consume` is the run on a clock of its own, and one of those (`exists_play_eq_toEnd_loop`).

`Loop.Turn` says what a step of the loop can be.  From it comes what every run keeps,
`LoopRun.Sound`: all deliveries but the one in flight are settled and counted, and the journal tells
of them one after the other (`Squared`).
-/

namespace Courier

variable {σ : Type}

/-! ### Items -/

/-- The item that an entry takes from the source. -/
def Entry.item? : Entry → Option Item
  | .received d => some (.delivery d)
  | .streamFailed reason => some (.fault reason)
  | _ => none

/-- The items that were taken from the source, in order. -/
def taken (entries : List Entry) : List Item := entries.filterMap Entry.item?

namespace Item

/-- The delivery, if the item is one. -/
def delivery? : Item → Option Delivery
  | delivery d => some d
  | fault _ => none

/-- Is the item an error? -/
def isFault : Item → Bool
  | delivery _ => false
  | fault _ => true

/-- Is the item a delivery whose payload is no command? -/
def isPoison : Item → Bool
  | delivery d => !(Command.decode d.payload).isOk
  | fault _ => false

end Item

@[simp] theorem taken_append (l l' : List Entry) : taken (l ++ l') = taken l ++ taken l' :=
  List.filterMap_append

/-- The deliveries handed out are those among the items. -/
theorem deliveries_eq (entries : List Entry) :
    deliveries entries = (taken entries).filterMap Item.delivery? := by
  rw [taken, List.filterMap_filterMap, deliveries]
  congr 1
  funext entry
  cases entry <;> rfl

theorem deliveries_eq_nil {entries : List Entry} (h : taken entries = []) :
    deliveries entries = [] := by
  rw [deliveries_eq, h]
  rfl

theorem taken_step (w : Worker σ) (world : World σ) (stage : Stage) :
    taken (w.step world stage).entries = [] := by
  refine w.filterMap_step ?_ world stage
  intro e he
  cases e
  case received d => cases he
  case streamFailed reason => cases he
  all_goals rfl

/-! ### Runs -/

/-- Where a loop stands that is alone with its source, and what it did. -/
structure LoopRun (σ : Type) where
  world : World σ
  source : Source
  loop : Loop := {}
  journal : Journal := []

namespace LoopRun

/-- A loop that is about to begin, with a source that hands out a stream and then closes. -/
def start (world : World σ) (stream : List Pending) : LoopRun σ where
  world
  source := { pending := stream }

/-- What the run has written. -/
def entries (run : LoopRun σ) : List Entry := run.journal.entries

/-- The accounts of the deliveries that the run took from its source. -/
def accounts (run : LoopRun σ) : List Account := (ledger run.entries).accounts

/-- A run after one more event. -/
def follow (w : Worker σ) (run : LoopRun σ) : Worker.Event → LoopRun σ
  | .step =>
    let progress := run.loop.step w run.world run.source
    ⟨progress.world, progress.source, progress.loop,
      run.journal ++ stamp run.world.now progress.entries⟩
  | .cancel => { run with world := run.world.cancel }
  | .elapse time => { run with world := run.world.at (run.world.now + time) }

/-- A run after some more events. -/
def play (w : Worker σ) (run : LoopRun σ) (events : List Worker.Event) : LoopRun σ :=
  events.foldl (follow w) run

theorem play_append (w : Worker σ) (run : LoopRun σ) (events more : List Worker.Event) :
    run.play w (events ++ more) = (run.play w events).play w more :=
  List.foldl_append

/-- Takes a run to the end of the loop; time passes only as far as the next step needs. -/
def toEnd (w : Worker σ) (run : LoopRun σ) : LoopRun σ :=
  match run.loop.readyAt w run.world with
  | none => run
  | some time =>
    let ready := run.follow w (.elapse (time - run.world.now))
    if _h : ready.loop.isReady w ready.world ready.source then (ready.follow w .step).toEnd w
    else run
  termination_by run.loop.rank w.policy run.source
  decreasing_by exact Loop.rank_step_lt _h

end LoopRun

namespace Worker

/-- The consume loop over a stream, as the events say. -/
def playLoop (w : Worker σ) (world : World σ) (stream : List Pending)
    (events : List Worker.Event) : LoopRun σ :=
  (LoopRun.start world stream).play w events

/-- The consume loop over a stream, on a clock of its own. -/
def consume (w : Worker σ) (world : World σ) (stream : List Pending) : LoopRun σ :=
  (LoopRun.start world stream).toEnd w

end Worker

/-! ### The moves of the loop -/

/-- The loop does not wait in vain: neither for a source that will never give anything, nor for a
delivery that it is done with. -/
def LoopPhase.IsLive : LoopPhase → Prop
  | .holding => False
  | .working stage => stage.isFinal = false
  | _ => True

/-- What a step of the loop can be, if its source still holds the given items. -/
inductive Loop.Turn (w : Worker σ) (world : World σ) (loop : Loop) :
    List Pending → LoopProgress σ → Prop where
  /-- The next item is a delivery, and is taken up. -/
  | take {d : Delivery} {after : Nat} {rest : List Pending} (hp : loop.phase.stage? = none) :
    Turn w world loop (⟨.delivery d, after⟩ :: rest)
      ⟨world, { pending := rest }, { loop with phase := .working (.received d) }, [.received d]⟩
  /-- The next item is an error, and is counted. -/
  | fault {reason : String} {after : Nat} {rest : List Pending} (hp : loop.phase.stage? = none) :
    Turn w world loop (⟨.fault reason, after⟩ :: rest)
      ⟨world, { pending := rest }, ⟨.pulling, loop.tally.recordStreamError⟩,
        [.streamFailed reason, .logged none (faultRecord w reason)]⟩
  /-- The work on a delivery goes on. -/
  | work {rest : List Pending} {stage : Stage} (hp : loop.phase = .working stage) :
    Turn w world loop rest (loop.work w world { pending := rest } stage)
  /-- There is no item left. -/
  | close (hp : loop.phase.stage? = none) :
    Turn w world loop []
      ⟨world, { pending := [] }, { loop with phase := .ended },
        [.logged none (endRecord w loop.tally)]⟩
  /-- Neither the source nor any delivery is touched. -/
  | stay {rest : List Pending} {phase : LoopPhase} {entries : List Entry}
    (ht : taken entries = []) (ha : acts entries = []) (hp : phase.stage? = loop.phase.stage?)
    (he : phase = .ended → loop.phase = .ended) (hl : loop.phase.IsLive → phase.IsLive) :
    Turn w world loop rest ⟨world, { pending := rest }, { loop with phase }, entries⟩

namespace Loop

variable {w : Worker σ} {world : World σ} {loop : Loop} {rest : List Pending}

theorem turn_take (hp : loop.phase.stage? = none) :
    loop.Turn w world rest
      (loop.accept w world { pending := rest } (Source.take { pending := rest })) := by
  rcases rest with _ | ⟨⟨d | reason, after⟩, rest⟩
  · exact .close hp
  · exact .take hp
  · exact .fault hp

theorem pop_eq_later {item : Item} {after : Nat} (h : after ≠ 0) :
    Source.pop { pending := ⟨item, after⟩ :: rest } = .later (min after longestWait) :=
  if_neg h

theorem turn_pop (hp : loop.phase.stage? = none) :
    loop.Turn w world rest
      (loop.accept w world { pending := rest } (Source.pop { pending := rest })) := by
  rcases rest with _ | ⟨⟨item, after⟩, rest⟩
  · exact .close hp
  · by_cases hafter : after = 0
    · subst hafter
      exact turn_take hp
    · rw [pop_eq_later hafter]
      exact .stay rfl rfl hp.symm nofun fun _ => trivial

/-- A step of the loop is one of its turns. -/
theorem turn_step : loop.Turn w world rest (loop.step w world { pending := rest }) := by
  obtain ⟨phase, tally⟩ := loop
  cases phase with
  | idle => exact .stay rfl rfl rfl (fun h => by cases h) fun _ => trivial
  | pulling => exact .stay rfl rfl rfl (fun h => by cases h) fun _ => trivial
  | popping => exact turn_pop rfl
  | awaiting until_ =>
    simp only [step]
    split
    · exact turn_take rfl
    · exact .stay rfl rfl rfl (fun h => by cases h) id
  | holding => exact turn_take rfl
  | working stage => exact .work rfl
  | ended => exact .stay rfl rfl rfl id id
  | failed text => exact .stay rfl rfl rfl (fun h => by cases h) id

theorem isLive_afterStage (loop : Loop) (stage : Stage) : (loop.afterStage stage).phase.IsLive := by
  cases stage
  case finished outcome => trivial
  case broken text => trivial
  all_goals rfl

theorem phase_afterStage_ne_ended (loop : Loop) (stage : Stage) :
    (loop.afterStage stage).phase ≠ .ended := by
  cases stage <;> exact nofun

end Loop

/-! ### What has been counted -/

/-- The tally counts the items and the terminal actions, in 64 bits. -/
structure Tally.Counts (t : Tally) (items : List Item) (actions : List Disposition) : Prop where
  streamErrors_eq : t.streamErrors = UInt64.ofNat (items.countP Item.isFault)
  acknowledged_eq : t.acknowledged = UInt64.ofNat (actions.count .acknowledge)
  requeued_eq : t.requeued = UInt64.ofNat (actions.count .requeue)
  poisoned_eq : t.poisoned = UInt64.ofNat (items.countP Item.isPoison)
  exhausted_eq : ∃ n, t.exhausted = UInt64.ofNat n ∧
    items.countP Item.isPoison + n = actions.count .deadLetter
  processed_eq : t.processed = UInt64.ofNat actions.length
  length_eq : actions.length + items.countP Item.isFault = items.length

/-- The tally is that of the items and the terminal actions. -/
structure Tally.Reports (t : Tally) (items : List Item) (actions : List Disposition) : Prop where
  streamErrors_eq : t.streamErrors.toNat = items.countP Item.isFault
  acknowledged_eq : t.acknowledged.toNat = actions.count .acknowledge
  requeued_eq : t.requeued.toNat = actions.count .requeue
  poisoned_eq : t.poisoned.toNat = items.countP Item.isPoison
  rejected_eq : t.poisoned.toNat + t.exhausted.toNat = actions.count .deadLetter
  processed_eq : t.processed.toNat + t.streamErrors.toNat = items.length

namespace Tally.Counts

variable {t : Tally} {items : List Item} {actions : List Disposition}

theorem nil : Counts {} [] [] := ⟨rfl, rfl, rfl, rfl, ⟨0, rfl, rfl⟩, rfl, rfl⟩

theorem fault (h : t.Counts items actions) (reason : String) :
    t.recordStreamError.Counts (items ++ [.fault reason]) actions := by
  have hpoisoned : (items ++ [Item.fault reason]).countP Item.isPoison =
      items.countP Item.isPoison := List.countP_append
  refine ⟨?_, h.acknowledged_eq, h.requeued_eq, ?_, ?_, h.processed_eq, ?_⟩
  · rw [recordStreamError, h.streamErrors_eq, List.countP_append, UInt64.ofNat_add]
    rfl
  · rw [hpoisoned]
    exact h.poisoned_eq
  · rw [hpoisoned]
    exact h.exhausted_eq
  · rw [List.countP_append, List.length_append, ← h.length_eq]
    exact (Nat.add_assoc _ _ _).symm

/-- An outcome is counted as its terminal action, and as that of a payload that is no command. -/
theorem delivery (h : t.Counts items actions) {d : Delivery} {outcome : Outcome}
    (hpoison : outcome = .poison ↔ (Item.delivery d).isPoison = true) :
    (t.record outcome).Counts (items ++ [.delivery d]) (actions ++ [outcome.disposition]) := by
  refine ⟨?_, ?_, ?_, ?_, ?_, ?_, ?_⟩
  · rw [List.countP_append, show (t.record outcome).streamErrors = t.streamErrors by
      cases outcome <;> rfl, h.streamErrors_eq]
    rfl
  · rw [List.count_append, UInt64.ofNat_add, ← h.acknowledged_eq]
    cases outcome
    case acknowledged n => rfl
    all_goals exact (UInt64.add_zero _).symm
  · rw [List.count_append, UInt64.ofNat_add, ← h.requeued_eq]
    cases outcome
    case interrupted n => rfl
    all_goals exact (UInt64.add_zero _).symm
  · rw [List.countP_append, UInt64.ofNat_add, ← h.poisoned_eq, List.countP_singleton]
    cases outcome
    case poison =>
      rw [if_pos (hpoison.1 rfl)]
      rfl
    all_goals
      rw [if_neg fun hd => nomatch hpoison.2 hd]
      exact (UInt64.add_zero _).symm
  · obtain ⟨n, hn, hsum⟩ := h.exhausted_eq
    rw [List.countP_append, List.count_append, List.countP_singleton, ← hsum]
    cases outcome
    case poison =>
      rw [if_pos (hpoison.1 rfl)]
      exact ⟨n, hn, Nat.add_right_comm _ _ _⟩
    case exhausted m =>
      rw [if_neg fun hd => nomatch hpoison.2 hd]
      refine ⟨n + 1, ?_, rfl⟩
      rw [record, hn, UInt64.ofNat_add]
      rfl
    all_goals
      rw [if_neg fun hd => nomatch hpoison.2 hd]
      exact ⟨n, hn, rfl⟩
  · rw [processed_record, h.processed_eq, List.length_append, UInt64.ofNat_add]
    rfl
  · rw [List.countP_append, List.length_append, List.length_append, ← h.length_eq]
    exact Nat.add_right_comm _ _ _

/-- Where the items fit into 64 bits, nothing is lost. -/
theorem reports (h : t.Counts items actions) (hlt : items.length < UInt64.size) :
    t.Reports items actions := by
  have hactions : actions.length ≤ items.length := by
    have := h.length_eq
    omega
  have hitems : ∀ p : Item → Bool, (UInt64.ofNat (items.countP p)).toNat = items.countP p :=
    fun p => UInt64.toNat_ofNat_of_lt' (Nat.lt_of_le_of_lt List.countP_le_length hlt)
  have hcount : ∀ action, (UInt64.ofNat (actions.count action)).toNat = actions.count action :=
    fun action => UInt64.toNat_ofNat_of_lt'
      (Nat.lt_of_le_of_lt (Nat.le_trans List.count_le_length hactions) hlt)
  have hstream : t.streamErrors.toNat = items.countP Item.isFault := by
    rw [h.streamErrors_eq, hitems]
  have hpoisoned : t.poisoned.toNat = items.countP Item.isPoison := by
    rw [h.poisoned_eq, hitems]
  refine ⟨hstream, ?_, ?_, hpoisoned, ?_, ?_⟩
  · rw [h.acknowledged_eq, hcount]
  · rw [h.requeued_eq, hcount]
  · obtain ⟨n, hn, hsum⟩ := h.exhausted_eq
    have hle : n ≤ actions.count .deadLetter := by omega
    have hn' : n < UInt64.size :=
      Nat.lt_of_le_of_lt (Nat.le_trans hle (Nat.le_trans List.count_le_length hactions)) hlt
    rw [hpoisoned, hn, UInt64.toNat_ofNat_of_lt' hn', hsum]
  · rw [hstream, h.processed_eq, UInt64.toNat_ofNat_of_lt' (Nat.lt_of_le_of_lt hactions hlt),
      h.length_eq]

end Tally.Counts

/-! ### Between deliveries, and with one in flight -/

/-- All deliveries so far are settled and counted, and all acts are theirs, one delivery after the
other. -/
structure Squared (w : Worker σ) (entries : List Entry) (tally : Tally) : Prop where
  finished : ∀ a ∈ (ledger entries).accounts, ∃ outcome : Outcome,
    (Stage.finished outcome).Fits w a.delivery a.acts
  acts_eq : acts entries = (ledger entries).accounts.flatMap (·.acts)
  counts : tally.Counts (taken entries) (Act.actions (acts entries))

/-- All was squared when the last delivery was taken; nothing was taken since, and the acts since
then fit the stage that the work on it is at. -/
def InFlight (w : Worker σ) (entries : List Entry) (tally : Tally) (stage : Stage) : Prop :=
  ∃ before d after, entries = before ++ .received d :: after ∧ Squared w before tally ∧
    taken after = [] ∧ stage.Fits w d (acts after)

/-- The entries square with how far the loop is. -/
def Loop.Squares (w : Worker σ) (entries : List Entry) (loop : Loop) : Prop :=
  match loop.phase.stage? with
  | none => Squared w entries loop.tally
  | some stage => InFlight w entries loop.tally stage

theorem accounts_received (before : List Entry) (d : Delivery) {after : List Entry}
    (h : deliveries after = []) :
    (ledger (before ++ .received d :: after)).accounts =
      (ledger before).accounts ++ [⟨d, acts after⟩] := by
  rw [List.append_cons, ledger_append h, ledger_concat_received]
  rfl

theorem Squared.append {w : Worker σ} {entries new : List Entry} {tally : Tally}
    (h : Squared w entries tally) (ht : taken new = []) (ha : acts new = []) :
    Squared w (entries ++ new) tally := by
  have hledger : ledger (entries ++ new) = ledger entries := by
    rw [ledger_append (deliveries_eq_nil ht), ha, Ledger.add_nil]
  have hacts : acts (entries ++ new) = acts entries := by rw [acts_append, ha, List.append_nil]
  have htaken : taken (entries ++ new) = taken entries := by
    rw [taken_append, ht, List.append_nil]
  refine ⟨?_, ?_, ?_⟩
  · rw [hledger]
    exact h.finished
  · rw [hledger, hacts]
    exact h.acts_eq
  · rw [hacts, htaken]
    exact h.counts

/-- A delivery whose outcome is known has been settled once, as the outcome says, and is poison only
if its payload is no command. -/
theorem Stage.Fits.actions_finished {w : Worker σ} {d : Delivery} {outcome : Outcome}
    {l : List Act} (h : (Stage.finished outcome).Fits w d l) :
    Act.actions l = [outcome.disposition] ∧
      (outcome = .poison ↔ (Item.delivery d).isPoison = true) := by
  obtain ⟨before, hend, rfl⟩ := h
  refine ⟨?_, ?_⟩
  · rw [Act.actions_append, hend.actions_eq_nil, Act.actions_settle, List.nil_append]
  · cases hend with
    | poison hd =>
      rw [Item.isPoison, hd]
      exact ⟨fun _ => rfl, fun _ => rfl⟩
    | acknowledged h | exhausted h hw | unstarted h | unfinished h hw =>
      rw [Item.isPoison, h.decode_eq]
      exact ⟨nofun, nofun⟩

theorem InFlight.finish {w : Worker σ} {entries : List Entry} {tally : Tally} {outcome : Outcome}
    (h : InFlight w entries tally (.finished outcome)) :
    Squared w entries (tally.record outcome) := by
  obtain ⟨before, d, after, rfl, hbefore, htaken, hfits⟩ := h
  obtain ⟨hactions, hpoison⟩ := hfits.actions_finished
  have haccounts := accounts_received before d (deliveries_eq_nil htaken)
  refine ⟨?_, ?_, ?_⟩
  · rw [haccounts]
    intro a ha
    rcases List.mem_append.1 ha with hmem | hmem
    · exact hbefore.finished a hmem
    · rw [List.mem_singleton.1 hmem]
      exact ⟨outcome, hfits⟩
  · rw [haccounts, acts_append, hbefore.acts_eq, List.flatMap_append, List.flatMap_singleton]
    rfl
  · have hitems : taken (before ++ .received d :: after) = taken before ++ [.delivery d] := by
      rw [taken_append]
      exact congrArg (taken before ++ .delivery d :: ·) htaken
    have hacts : acts (before ++ .received d :: after) = acts before ++ acts after := by
      rw [acts_append]
      rfl
    rw [hitems, hacts, Act.actions_append, hactions]
    exact hbefore.counts.delivery hpoison

namespace Loop.Squares

variable {w : Worker σ} {entries : List Entry} {loop : Loop}

theorem of_none (hp : loop.phase.stage? = none) (h : loop.Squares w entries) :
    Squared w entries loop.tally := by
  unfold Loop.Squares at h
  rwa [hp] at h

theorem take (h : loop.Squares w entries) (hp : loop.phase.stage? = none) (d : Delivery) :
    Loop.Squares w (entries ++ [.received d]) { loop with phase := .working (.received d) } := by
  have hsquared := h.of_none hp
  exact ⟨entries, d, [], rfl, hsquared, rfl, rfl, rfl⟩

theorem fault (h : loop.Squares w entries) (hp : loop.phase.stage? = none) (reason : String)
    (record : LogRecord) :
    Loop.Squares w (entries ++ [.streamFailed reason, .logged none record])
      ⟨.pulling, loop.tally.recordStreamError⟩ := by
  have hsquared := h.of_none hp
  have hledger : ledger (entries ++ [.streamFailed reason, .logged none record]) =
      ledger entries := by
    rw [ledger_append rfl]
    exact Ledger.add_nil _
  refine ⟨?_, ?_, ?_⟩
  · rw [hledger]
    exact hsquared.finished
  · rw [hledger, acts_append, ← hsquared.acts_eq]
    exact List.append_nil _
  · rw [taken_append, acts_append]
    exact (List.append_nil (acts entries)).symm ▸ hsquared.counts.fault reason

theorem work (h : loop.Squares w entries) {stage : Stage} (hp : loop.phase = .working stage)
    (world : World σ) :
    (loop.afterStage (w.step world stage).stage).Squares w
      (entries ++ (w.step world stage).entries) := by
  unfold Loop.Squares at h
  rw [hp] at h
  obtain ⟨before, d, after, rfl, hbefore, htaken, hfits⟩ := h
  have hnew := taken_step w world stage
  have hflight : InFlight w (before ++ .received d :: after ++ (w.step world stage).entries)
      loop.tally (w.step world stage).stage := by
    refine ⟨before, d, after ++ (w.step world stage).entries, ?_, hbefore, ?_, ?_⟩
    · rw [List.append_assoc, List.cons_append]
    · rw [taken_append, htaken, hnew, List.append_nil]
    · rw [acts_append]
      exact fits_step world hfits
  generalize (w.step world stage).stage = next at hflight ⊢
  cases next with
  | finished outcome => exact hflight.finish
  | received _ | due _ _ | calling _ _ _ _ | waiting _ _ _ | settling _ | broken _ => exact hflight

theorem stay (h : loop.Squares w entries) {phase : LoopPhase} {new : List Entry}
    (ht : taken new = []) (ha : acts new = []) (hp : phase.stage? = loop.phase.stage?) :
    Loop.Squares w (entries ++ new) { loop with phase } := by
  unfold Loop.Squares at h ⊢
  simp only [hp]
  cases hstage : loop.phase.stage? with
  | none =>
    rw [hstage] at h
    exact h.append ht ha
  | some stage =>
    rw [hstage] at h
    obtain ⟨before, d, after, rfl, hbefore, htaken, hfits⟩ := h
    refine ⟨before, d, after ++ new, ?_, hbefore, ?_, ?_⟩
    · rw [List.append_assoc, List.cons_append]
    · rw [taken_append, htaken, ht, List.append_nil]
    · rwa [acts_append, ha, List.append_nil]

end Loop.Squares

/-! ### One delivery at a time -/

/-- Whenever an item was taken, all deliveries before it had been settled. -/
def Paced (entries : List Entry) : Prop :=
  ∀ before e after, entries = before ++ e :: after → e.item?.isSome = true →
    ∀ a ∈ (ledger before).accounts, a.IsSettled

/-- An element of two lists joined is in the first one or in the second one. -/
theorem exists_of_append_eq {α : Type} {l new before after : List α} {a : α}
    (h : l ++ new = before ++ a :: after) :
    (∃ more, l = before ++ a :: more) ∨ ∃ more, before = l ++ more ∧ new = more ++ a :: after := by
  rcases List.append_eq_append_iff.1 h with ⟨more, hbefore, hnew⟩ | ⟨more, hl, hnew⟩
  · exact Or.inr ⟨more, hbefore, hnew⟩
  · cases more with
    | nil =>
      rw [List.append_nil] at hl
      exact Or.inr ⟨[], by rw [hl, List.append_nil], hnew.symm⟩
    | cons a' more =>
      obtain rfl := (List.cons.inj hnew).1
      exact Or.inl ⟨more, hl⟩

theorem Paced.append {entries new : List Entry} (h : Paced entries)
    (hnew : ∀ before e after, new = before ++ e :: after → e.item?.isSome = true →
      before = [] ∧ ∀ a ∈ (ledger entries).accounts, a.IsSettled) :
    Paced (entries ++ new) := by
  intro before e after heq he
  -- The entry was there before, or it is one of the new ones.
  rcases exists_of_append_eq heq with ⟨more, hentries⟩ | ⟨more, rfl, hmore⟩
  · exact h before e more hentries he
  · obtain ⟨rfl, hsettled⟩ := hnew more e after hmore he
    rwa [List.append_nil]

theorem Paced.append_of_taken {entries new : List Entry} (h : Paced entries)
    (hnew : taken new = []) : Paced (entries ++ new) := by
  refine h.append ?_
  rintro before e after rfl he
  have hnone := List.filterMap_eq_nil_iff.1 hnew e
    (List.mem_append_right _ (List.mem_cons_self ..))
  rw [hnone] at he
  cases he

theorem Paced.append_item {entries rest : List Entry} {e : Entry} (h : Paced entries)
    (hsettled : ∀ a ∈ (ledger entries).accounts, a.IsSettled) (hrest : taken rest = []) :
    Paced (entries ++ e :: rest) := by
  refine h.append ?_
  intro before e' after heq he
  cases before with
  | nil => exact ⟨rfl, hsettled⟩
  | cons b before =>
    obtain rfl := (List.cons.inj heq).2
    have hnone := List.filterMap_eq_nil_iff.1 hrest e'
      (List.mem_append_right _ (List.mem_cons_self ..))
    rw [hnone] at he
    cases he

theorem Squared.isSettled {w : Worker σ} {entries : List Entry} {tally : Tally}
    (h : Squared w entries tally) : ∀ a ∈ (ledger entries).accounts, a.IsSettled := by
  intro a ha
  obtain ⟨outcome, hfits⟩ := h.finished a ha
  exact ⟨outcome, settledOnce_of_fits hfits⟩

/-! ### What every run keeps -/

/-- What holds of a run of the loop over the given stream. -/
structure LoopRun.Sound (w : Worker σ) (stream : List Pending) (run : LoopRun σ) : Prop where
  /-- The items taken, and those still held, are the stream. -/
  streams : ∃ rest : List Pending, run.source = { pending := rest } ∧
    taken run.entries ++ rest.map (·.item) = stream.map (·.item)
  squares : run.loop.Squares w run.entries
  paced : Paced run.entries
  ended : run.loop.phase = .ended → run.source.pending = []
  live : run.loop.phase.IsLive

theorem sound_start_loop (w : Worker σ) (world : World σ) (stream : List Pending) :
    (LoopRun.start world stream).Sound w stream where
  streams := ⟨stream, rfl, rfl⟩
  squares := ⟨nofun, rfl, .nil⟩
  paced := by
    intro before e after heq
    exact absurd heq.symm (List.append_ne_nil_of_right_ne_nil _ (List.cons_ne_nil _ _))
  ended := nofun
  live := trivial

@[simp] theorem entries_follow_step (w : Worker σ) (run : LoopRun σ) :
    (run.follow w .step).entries =
      run.entries ++ (run.loop.step w run.world run.source).entries := by
  simp only [LoopRun.entries, LoopRun.follow, Journal.entries_append, Journal.entries_stamp]

/-- A step of the loop keeps it, whichever turn it is. -/
theorem sound_step_loop {w : Worker σ} {stream : List Pending} {run : LoopRun σ}
    (h : run.Sound w stream) : (run.follow w .step).Sound w stream := by
  obtain ⟨⟨rest, hsource, hstream⟩, hsquares, hpaced, hended, hlive⟩ := h
  have hentries := entries_follow_step w run
  have hturn : run.loop.Turn w run.world rest _ := Loop.turn_step
  rw [← hsource] at hturn
  -- From here on nothing but the turn counts: what the step does is in it.
  suffices ∀ progress, run.loop.Turn w run.world rest progress →
      (∃ rest' : List Pending, progress.source = { pending := rest' } ∧
        taken (run.entries ++ progress.entries) ++ rest'.map (·.item) = stream.map (·.item)) ∧
      progress.loop.Squares w (run.entries ++ progress.entries) ∧
      Paced (run.entries ++ progress.entries) ∧
      (progress.loop.phase = .ended → progress.source.pending = []) ∧
      progress.loop.phase.IsLive by
    obtain ⟨hstreams, hsquares, hpaced, hended, hlive⟩ := this _ hturn
    rw [← hentries] at hstreams hsquares hpaced
    exact ⟨hstreams, hsquares, hpaced, hended, hlive⟩
  intro progress hturn
  cases hturn with
  | @take d after rest hp =>
    have hsettled := (hsquares.of_none hp).isSettled
    refine ⟨⟨rest, rfl, ?_⟩, hsquares.take hp d, hpaced.append_item hsettled rfl, nofun, rfl⟩
    rw [taken_append, List.append_assoc]
    exact hstream
  | @fault reason after rest hp =>
    have hsettled := (hsquares.of_none hp).isSettled
    refine ⟨⟨rest, rfl, ?_⟩, hsquares.fault hp reason _, hpaced.append_item hsettled rfl, nofun,
      trivial⟩
    rw [taken_append, List.append_assoc]
    exact hstream
  | @work rest stage hp =>
    have hnew := taken_step w run.world stage
    refine ⟨⟨rest, rfl, ?_⟩, hsquares.work hp run.world, hpaced.append_of_taken hnew, ?_,
      run.loop.isLive_afterStage _⟩
    · rw [taken_append, Loop.work, hnew, List.append_nil]
      exact hstream
    · exact fun hphase => absurd hphase (run.loop.phase_afterStage_ne_ended _)
  | close hp =>
    refine ⟨⟨[], rfl, ?_⟩, hsquares.stay rfl rfl hp.symm, hpaced.append_of_taken rfl,
      fun _ => rfl, trivial⟩
    rw [taken_append, List.append_assoc]
    exact hstream
  | @stay rest phase new ht ha hp he hl =>
    refine ⟨⟨rest, rfl, ?_⟩, hsquares.stay ht ha hp, hpaced.append_of_taken ht, ?_, hl hlive⟩
    · rw [taken_append, ht, List.append_nil]
      exact hstream
    · intro hphase
      have hpending := hended (he hphase)
      rw [hsource] at hpending
      exact hpending

theorem sound_follow_loop {w : Worker σ} {stream : List Pending} {run : LoopRun σ}
    (event : Worker.Event) (h : run.Sound w stream) : (run.follow w event).Sound w stream := by
  cases event with
  | step => exact sound_step_loop h
  | cancel => exact ⟨h.streams, h.squares, h.paced, h.ended, h.live⟩
  | elapse time => exact ⟨h.streams, h.squares, h.paced, h.ended, h.live⟩

theorem sound_play_loop {w : Worker σ} {stream : List Pending} {run : LoopRun σ}
    (events : List Worker.Event) (h : run.Sound w stream) : (run.play w events).Sound w stream := by
  induction events generalizing run with
  | nil => exact h
  | cons event events ih => exact ih (sound_follow_loop event h)

/-! ### The run on a clock of its own -/

theorem Loop.le_readyAt {w : Worker σ} {world : World σ} {loop : Loop} {time : Nat}
    (h : loop.readyAt w world = some time) : world.now ≤ time := by
  unfold readyAt at h
  split at h
  · exact Nat.le_of_eq (Option.some.inj h)
  · exact Nat.le_of_eq (Option.some.inj h)
  · exact Nat.le_of_eq (Option.some.inj h)
  · exact Option.some.inj h ▸ Nat.le_max_left _ _
  · exact Option.some.inj h ▸ Courier.le_readyAt w world _
  all_goals cases h

/-- A loop that is live is ready when its time has come. -/
theorem Loop.isReady_at {w : Worker σ} {world : World σ} {loop : Loop} {source : Source}
    {time : Nat} (hl : loop.phase.IsLive) (h : loop.readyAt w world = some time) :
    loop.isReady w (world.at time) source = true := by
  obtain ⟨phase, tally⟩ := loop
  cases phase with
  | idle => rfl
  | pulling => rfl
  | popping => rfl
  | awaiting until_ =>
    obtain rfl := Option.some.inj h
    exact Bool.or_eq_true_iff.2 (Or.inr (decide_eq_true (Nat.le_max_right _ _)))
  | working stage =>
    obtain rfl := Option.some.inj h
    exact isReady_readyAt hl
  | holding | ended | failed _ => cases h

theorem LoopRun.follow_elapse {w : Worker σ} {run : LoopRun σ} {time : Nat}
    (h : run.loop.readyAt w run.world = some time) :
    run.follow w (.elapse (time - run.world.now)) = { run with world := run.world.at time } := by
  rw [follow, Nat.add_sub_cancel' (Loop.le_readyAt h)]

/-- The run on a clock of its own is one of those that events play. -/
theorem exists_play_eq_toEnd_loop (w : Worker σ) (run : LoopRun σ) :
    ∃ events, run.toEnd w = run.play w events := by
  fun_induction LoopRun.toEnd w run with
  | case1 => exact ⟨[], rfl⟩
  | case2 run time hready ready h ih =>
    obtain ⟨events, hevents⟩ := ih
    exact ⟨.elapse (time - run.world.now) :: .step :: events, hevents⟩
  | case3 => exact ⟨[], rfl⟩

/-- A run on a clock of its own ends with the loop at its end, or broken down. -/
theorem phase_toEnd {w : Worker σ} {stream : List Pending} {run : LoopRun σ}
    (h : run.Sound w stream) :
    (run.toEnd w).loop.phase = .ended ∨ ∃ text, (run.toEnd w).loop.phase = .failed text := by
  fun_induction LoopRun.toEnd w run with
  | case1 run hnone =>
    have hlive := h.live
    unfold Loop.readyAt at hnone
    -- Three phases wait for nothing; one of them is not live.
    split at hnone
    any_goals cases hnone
    · rename_i hphase
      rw [hphase] at hlive
      exact hlive.elim
    · rename_i hphase
      exact Or.inl hphase
    · rename_i text hphase
      exact Or.inr ⟨text, hphase⟩
  | case2 run time hready ready hisReady ih =>
    exact ih (sound_follow_loop .step (sound_follow_loop (.elapse (time - run.world.now)) h))
  | case3 run time hready ready hisReady =>
    have heq : ready = _ := LoopRun.follow_elapse hready
    rw [heq] at hisReady
    exact absurd (Loop.isReady_at h.live hready) hisReady

/-- A step over a delivery that holds a command. -/
theorem LoopRun.follow_received (w : Worker σ) (run : LoopRun σ) {d : Delivery} {command : Command}
    (hd : Command.decode d.payload = .ok command)
    (hp : run.loop.phase = .working (.received d)) :
    run.follow w .step =
      let progress := w.accept run.world d command
      ⟨progress.world, run.source, run.loop.afterStage progress.stage,
        run.journal ++ stamp run.world.now progress.entries⟩ := by
  simp only [follow, Loop.step, hp, Loop.work, w.step_received run.world hd]

/-! ### An orderly run -/

/-- A run of the loop takes the items of the stream one by one. -/
structure LoopRun.Orderly (w : Worker σ) (stream : List Pending) (run : LoopRun σ) : Prop where
  /-- The items taken, followed by those still held, are the stream. -/
  taken_eq : taken run.entries ++ run.source.pending.map (·.item) = stream.map (·.item)
  /-- Whenever an item is taken, all deliveries before it have been settled, each once. -/
  paced : Paced run.entries
  /-- There is an account for each delivery among the items taken, in their order. -/
  accounts_eq : run.accounts.map (·.delivery) = (taken run.entries).filterMap Item.delivery?
  /-- Whatever is done, it is done about one delivery after the other. -/
  acts_eq : acts run.entries = run.accounts.flatMap (·.acts)
  /-- The handler is called for a delivery with its own command, for the first so many attempts. -/
  calls : ∀ a ∈ run.accounts, ∃ n : UInt32, w.CallsFor a.delivery n.toNat (Act.calls a.acts)
  /-- The loop ends when the stream does: all deliveries are settled, and the tally is right. -/
  ended : run.loop.phase = .ended → run.source.pending = [] ∧ (∀ a ∈ run.accounts, a.IsSettled) ∧
    (stream.length < UInt64.size →
      run.loop.tally.Reports (stream.map (·.item)) (Act.actions (acts run.entries)))
  /-- It breaks down only with the handler. -/
  failed : ∀ text, run.loop.phase = .failed text → .panicked text ∈ Act.results (acts run.entries)

/-- All acts belong to deliveries, one after the other, and those of each fit some stage. -/
theorem Loop.Squares.acts_eq {w : Worker σ} {entries : List Entry} {loop : Loop}
    (h : loop.Squares w entries) :
    acts entries = (ledger entries).accounts.flatMap (·.acts) ∧
      ∀ a ∈ (ledger entries).accounts, ∃ stage : Stage, stage.Fits w a.delivery a.acts := by
  unfold Loop.Squares at h
  split at h
  · exact ⟨h.acts_eq, fun a ha => let ⟨outcome, hfits⟩ := h.finished a ha; ⟨_, hfits⟩⟩
  · rename_i stage _
    obtain ⟨before, d, after, rfl, hbefore, htaken, hfits⟩ := h
    rw [accounts_received before d (deliveries_eq_nil htaken)]
    refine ⟨?_, ?_⟩
    · rw [acts_append, hbefore.acts_eq, List.flatMap_append, List.flatMap_singleton]
      rfl
    · intro a ha
      rcases List.mem_append.1 ha with hmem | hmem
      · obtain ⟨outcome, hfits⟩ := hbefore.finished a hmem
        exact ⟨_, hfits⟩
      · rw [List.mem_singleton.1 hmem]
        exact ⟨stage, hfits⟩

/-- A handler that broke down has said so in its last answer. -/
theorem InFlight.panicked {w : Worker σ} {entries : List Entry} {tally : Tally} {text : String}
    (h : InFlight w entries tally (.broken text)) :
    .panicked text ∈ Act.results (acts entries) := by
  obtain ⟨before, d, after, rfl, -, -, job, n, rounds, -, hacts⟩ := h
  have hmem : CallResult.panicked text ∈ Act.results (acts after) := by
    rw [hacts, Act.results_append]
    exact List.mem_append_right _ (List.mem_singleton_self _)
  rw [acts_append, Act.results_append]
  exact List.mem_append_right _ hmem

theorem LoopRun.Sound.orderly {w : Worker σ} {stream : List Pending} {run : LoopRun σ}
    (h : run.Sound w stream) : run.Orderly w stream := by
  obtain ⟨rest, hsource, hstream⟩ := h.streams
  obtain ⟨hacts, hfits⟩ := h.squares.acts_eq
  have htaken : taken run.entries ++ run.source.pending.map (·.item) = stream.map (·.item) := by
    rw [hsource]
    exact hstream
  refine ⟨htaken, h.paced, ?_, hacts, ?_, ?_, ?_⟩
  · rw [LoopRun.accounts, map_delivery_accounts, deliveries_eq]
  · intro a ha
    obtain ⟨stage, hstage⟩ := hfits a ha
    exact callsFor_of_fits hstage
  · intro hphase
    have hpending := h.ended hphase
    have hsquared := h.squares.of_none (by rw [hphase]; rfl)
    have hall : taken run.entries = stream.map (·.item) := by
      rwa [hpending, List.map_nil, List.append_nil] at htaken
    refine ⟨hpending, hsquared.isSettled, ?_⟩
    intro hlt
    have hcounts := hsquared.counts
    rw [hall] at hcounts
    exact hcounts.reports (by rwa [List.length_map])
  · intro text hphase
    have hsquares := h.squares
    unfold Loop.Squares at hsquares
    rw [hphase] at hsquares
    exact hsquares.panicked

end Courier
