import Courier.Proofs.Service.Moves
import Courier.Proofs.Service.Stream

/-!
# Errors in a stream

An error in the stream is counted, and changes nothing else.  Next to a run over a stream goes one
over the same stream without its errors (`LoopRun.Shadows`): the second one makes the same steps,
but waits while the first one is busy with an error.  All the time both are in the same world, and
have done the same at the same times (`LoopRun.Mirrors`).

`orderly_play` joins this to what is known of every run over a stream.
-/

namespace Courier

variable {σ : Type}

/-! ### Streams without errors -/

/-- The stream without its errors. -/
def withoutFaults (stream : List Pending) : List Pending := stream.filter fun p => !p.item.isFault

/-- How far a loop is that leaves out the errors, when a loop is this far that takes them: it has
not asked for an item yet where the other one has asked for an error. -/
def LoopPhase.withoutFaults : LoopPhase → List Pending → LoopPhase
  | .popping, ⟨.fault _, _⟩ :: _ => .pulling
  | .awaiting _, ⟨.fault _, _⟩ :: _ => .pulling
  | phase, _ => phase

theorem LoopPhase.withoutFaults_eq_ended_iff {phase : LoopPhase} {rest : List Pending} :
    phase.withoutFaults rest = .ended ↔ phase = .ended := by
  unfold withoutFaults
  split
  · exact ⟨nofun, nofun⟩
  · exact ⟨nofun, nofun⟩
  · exact Iff.rfl

/-- Two runs are in the same world, and have done the same about the same deliveries at the same
times.  Their tallies differ in the number of errors only; the second run has had none. -/
structure LoopRun.Mirrors (run run' : LoopRun σ) : Prop where
  world_eq : run'.world = run.world
  accounts_eq : run'.accounts = run.accounts
  timedActs_eq : run'.journal.timedActs = run.journal.timedActs
  tally_eq : run'.loop.tally = { run.loop.tally with streamErrors := 0 }
  ended_iff : run'.loop.phase = .ended ↔ run.loop.phase = .ended

/-! ### One step -/

/-- The second loop is over the stream without its errors, and as far as the first one. -/
structure Loop.Shadows (source source' : Source) (loop loop' : Loop) : Prop where
  streams : ∃ rest : List Pending, source = { pending := rest } ∧
    source' = { pending := Courier.withoutFaults rest } ∧
      loop'.phase = loop.phase.withoutFaults rest
  tally_eq : loop'.tally = { loop.tally with streamErrors := 0 }

/-- Entries that tell of the same deliveries and acts. -/
structure SameEntries (new new' : List Entry) : Prop where
  ledger_eq : ∀ l : Ledger, new'.foldl Ledger.enter l = new.foldl Ledger.enter l
  acts_eq : acts new' = acts new

theorem SameEntries.refl (new : List Entry) : SameEntries new new := ⟨fun _ => rfl, rfl⟩

/-- The first loop goes one step further, and the second one with it, or stays where it is. -/
structure LoopProgress.Shadows (progress progress' : LoopProgress σ) : Prop where
  world_eq : progress'.world = progress.world
  shadows : Loop.Shadows progress.source progress'.source progress.loop progress'.loop
  same : SameEntries progress.entries progress'.entries

namespace Loop

variable {w : Worker σ} {world : World σ}

theorem tally_record (tally : Tally) (outcome : Outcome) :
    Tally.record { tally with streamErrors := 0 } outcome =
      { tally.record outcome with streamErrors := 0 } := by
  cases outcome <;> rfl

/-- Both loops hold on to what they have. -/
theorem shadows_hold (world : World σ) (rest : List Pending) (phase : LoopPhase) (tally : Tally)
    (new : List Entry) :
    LoopProgress.Shadows ⟨world, { pending := rest }, ⟨phase, tally⟩, new⟩
      ⟨world, { pending := Courier.withoutFaults rest },
        ⟨phase.withoutFaults rest, { tally with streamErrors := 0 }⟩, new⟩ :=
  ⟨rfl, ⟨⟨rest, rfl, rfl, rfl⟩, rfl⟩, .refl new⟩

theorem shadows_afterStage (rest : List Pending) (phase phase' : LoopPhase) (tally : Tally)
    (stage : Stage) :
    Shadows { pending := rest } { pending := Courier.withoutFaults rest }
      (Loop.afterStage ⟨phase, tally⟩ stage)
      (Loop.afterStage ⟨phase', { tally with streamErrors := 0 }⟩ stage) := by
  cases stage with
  | finished outcome => exact ⟨⟨rest, rfl, rfl, rfl⟩, tally_record tally outcome⟩
  | received _ | due _ _ | calling _ _ _ _ | waiting _ _ _ | settling _ | broken _ =>
    exact ⟨⟨rest, rfl, rfl, rfl⟩, rfl⟩

/-- A source that is empty closes for both; a delivery at the head is the same for both. -/
theorem shadows_accept_take (tally : Tally) (rest : List Pending) {phase phase' : LoopPhase}
    (hrest : rest.head?.all (fun p => !p.item.isFault) = true) :
    (Loop.accept w world { pending := rest } ⟨phase, tally⟩
        (Source.take { pending := rest })).Shadows
      (Loop.accept w world { pending := Courier.withoutFaults rest }
        ⟨phase', { tally with streamErrors := 0 }⟩
        (Source.take { pending := Courier.withoutFaults rest })) := by
  rcases rest with _ | ⟨⟨d | reason, after⟩, rest⟩
  · exact ⟨rfl, ⟨⟨[], rfl, rfl, rfl⟩, rfl⟩, ⟨fun _ => rfl, rfl⟩⟩
  · exact shadows_hold world _ _ tally _
  · cases hrest

/-- An error at the head is taken by the first loop alone. -/
theorem shadows_accept_fault (tally : Tally) {rest : List Pending} {phase : LoopPhase}
    (reason : String) (after : Nat) :
    (Loop.accept w world { pending := ⟨.fault reason, after⟩ :: rest } ⟨phase, tally⟩
        (Source.take { pending := ⟨.fault reason, after⟩ :: rest })).Shadows
      ⟨world, { pending := Courier.withoutFaults rest },
        ⟨.pulling, { tally with streamErrors := 0 }⟩, []⟩ := by
  have hledger (l : Ledger) : l = (l.add []).add [] := by rw [Ledger.add_nil, Ledger.add_nil]
  exact ⟨rfl, ⟨⟨rest, rfl, rfl, rfl⟩, rfl⟩, ⟨hledger, rfl⟩⟩

/-- **One step.**  The second loop goes with the first one, unless that is busy with an error. -/
theorem shadows_step {source source' : Source} {loop loop' : Loop}
    (h : Shadows source source' loop loop') (hl : loop.phase.IsLive) :
    (loop.step w world source).Shadows (loop'.step w world source') ∨
      (loop.step w world source).Shadows ⟨world, source', loop', []⟩ := by
  -- The phase and the tally of the second loop are known, so all is about the first one.
  obtain ⟨phase, tally⟩ := loop
  obtain ⟨phase', tally'⟩ := loop'
  obtain ⟨⟨rest, rfl, rfl, hphase⟩, htally⟩ := h
  simp only at hphase htally
  subst hphase htally
  cases phase with
  | idle => exact Or.inl (shadows_hold world _ _ tally _)
  | pulling =>
    rcases rest with _ | ⟨⟨d | reason, after⟩, rest⟩
    · exact Or.inl (shadows_hold world [] .popping tally [])
    · exact Or.inl (shadows_hold world (⟨.delivery d, after⟩ :: rest) .popping tally [])
    -- An error is in the first stream only: the second loop stays in front of its next item.
    · exact Or.inr (shadows_hold world (⟨.fault reason, after⟩ :: rest) .popping tally [])
  | popping =>
    rcases rest with _ | ⟨⟨d | reason, after⟩, rest⟩
    · exact Or.inl (shadows_accept_take tally [] rfl)
    -- A delivery at the head stands at the head of both streams, and is as far off in both.
    · refine Or.inl ?_
      by_cases hafter : after = 0
      · subst hafter
        exact shadows_accept_take (w := w) tally (⟨.delivery d, 0⟩ :: rest) rfl
      · have hpop (rest : List Pending) :
            Source.pop { pending := ⟨.delivery d, after⟩ :: rest } =
              .later (min after longestWait) :=
          pop_eq_later hafter
        show (Loop.accept w world _ _ (Source.pop _)).Shadows
          (Loop.accept w world _ _ (Source.pop _))
        rw [hpop, show Courier.withoutFaults (⟨.delivery d, after⟩ :: rest) =
          ⟨.delivery d, after⟩ :: Courier.withoutFaults rest from rfl, hpop]
        exact shadows_hold world _ _ tally _
    · refine Or.inr ?_
      by_cases hafter : after = 0
      · subst hafter
        exact shadows_accept_fault tally reason 0
      · show (Loop.accept w world _ _ (Source.pop _)).Shadows _
        rw [pop_eq_later hafter]
        exact shadows_hold world _ _ tally _
  | awaiting until_ =>
    by_cases hdue : until_ ≤ world.now
    · rcases rest with _ | ⟨⟨d | reason, after⟩, rest⟩
      · simp only [step, hdue, or_true, if_true, LoopPhase.withoutFaults]
        exact Or.inl (shadows_accept_take tally [] rfl)
      · simp only [step, hdue, or_true, if_true, LoopPhase.withoutFaults]
        exact Or.inl (shadows_accept_take tally (⟨.delivery d, after⟩ :: rest) rfl)
      · refine Or.inr ?_
        simp only [step, hdue, or_true, if_true]
        exact shadows_accept_fault tally reason after
    · refine Or.inr ?_
      simp only [step, hdue, Bool.false_eq_true, or_self, if_false]
      exact shadows_hold world _ _ tally _
  | holding => exact hl.elim
  | working stage =>
    exact Or.inl ⟨rfl, shadows_afterStage rest _ _ tally _, .refl _⟩
  | ended => exact Or.inl (shadows_hold world _ _ tally _)
  | failed text => exact Or.inl (shadows_hold world _ _ tally _)

end Loop

/-! ### Whole runs -/

/-- The second run is over the stream without its errors, and as far as the first one. -/
structure LoopRun.Shadows (run run' : LoopRun σ) : Prop where
  world_eq : run'.world = run.world
  shadows : Loop.Shadows run.source run'.source run.loop run'.loop
  ledger_eq : ledger run'.entries = ledger run.entries
  timedActs_eq : run'.journal.timedActs = run.journal.timedActs

theorem LoopRun.Shadows.mirrors {run run' : LoopRun σ} (h : run.Shadows run') :
    run.Mirrors run' where
  world_eq := h.world_eq
  accounts_eq := by rw [accounts, accounts, h.ledger_eq]
  timedActs_eq := h.timedActs_eq
  tally_eq := h.shadows.tally_eq
  ended_iff := by
    obtain ⟨rest, -, -, hphase⟩ := h.shadows.streams
    rw [hphase, LoopPhase.withoutFaults_eq_ended_iff]

theorem shadows_start (world : World σ) (stream : List Pending) :
    (LoopRun.start world stream).Shadows (LoopRun.start world (withoutFaults stream)) where
  world_eq := rfl
  shadows := ⟨⟨stream, rfl, rfl, rfl⟩, rfl⟩
  ledger_eq := rfl
  timedActs_eq := rfl

/-- What a step writes into a journal. -/
theorem LoopRun.Shadows.write {run run' : LoopRun σ} {progress progress' : LoopProgress σ}
    (h : run.Shadows run') (hp : progress.Shadows progress') (time : Nat) :
    LoopRun.Shadows
      ⟨progress.world, progress.source, progress.loop,
        run.journal ++ stamp time progress.entries⟩
      ⟨progress'.world, progress'.source, progress'.loop,
        run'.journal ++ stamp time progress'.entries⟩ where
  world_eq := hp.world_eq
  shadows := hp.shadows
  ledger_eq := by
    have hledger := h.ledger_eq
    simp only [LoopRun.entries, Journal.entries_append, Journal.entries_stamp] at hledger ⊢
    rw [ledger, ledger, List.foldl_append, List.foldl_append, ← ledger, ← ledger, hledger,
      hp.same.ledger_eq]
  timedActs_eq := by
    rw [Journal.timedActs_append, Journal.timedActs_append, Journal.timedActs_stamp,
      Journal.timedActs_stamp, h.timedActs_eq, hp.same.acts_eq]

theorem shadows_follow {w : Worker σ} {run run' : LoopRun σ} (event : Worker.Event)
    (h : run.Shadows run') (hl : run.loop.phase.IsLive) :
    ∃ events', events'.Sublist [event] ∧ (run.follow w event).Shadows (run'.play w events') := by
  obtain ⟨world, source, loop, journal⟩ := run
  obtain ⟨world', source', loop', journal'⟩ := run'
  obtain rfl : world' = world := h.world_eq
  cases event with
  | step =>
    obtain hstep | hstay := Loop.shadows_step (w := w) h.shadows hl
    · exact ⟨[.step], .refl _, h.write hstep world'.now⟩
    · have hwrite := h.write hstay world'.now
      rw [show stamp world'.now [] = [] from rfl, List.append_nil] at hwrite
      exact ⟨[], List.nil_sublist _, hwrite⟩
  | cancel =>
    exact ⟨[.cancel], .refl _, rfl, h.shadows, h.ledger_eq, h.timedActs_eq⟩
  | elapse time =>
    exact ⟨[.elapse time], .refl _, rfl, h.shadows, h.ledger_eq, h.timedActs_eq⟩

theorem exists_shadows_play {w : Worker σ} {stream : List Pending} {run run' : LoopRun σ}
    (events : List Worker.Event) (hs : run.Sound w stream) (h : run.Shadows run') :
    ∃ events', events'.Sublist events ∧ (run.play w events).Shadows (run'.play w events') := by
  induction events generalizing run run' with
  | nil => exact ⟨[], .refl _, h⟩
  | cons event events ih =>
    obtain ⟨first, hfirst, hfollow⟩ := shadows_follow (w := w) event h hs.live
    obtain ⟨later, hlater, hplay⟩ := ih (sound_follow_loop event hs) hfollow
    refine ⟨first ++ later, hfirst.append hlater, ?_⟩
    rw [LoopRun.play_append]
    exact hplay

/-! ### All of it -/

/-- **One item at a time.**  However steps, time and shutdown come, the loop takes the items of a
stream in order, settles every delivery before it takes the next item, and reports what it did.  A
run over the stream without its errors can do the same at the same times.  On a clock of its own the
loop comes to its end, unless the handler breaks down. -/
theorem orderly_play (w : Worker σ) (world : World σ) (stream : List Pending) :
    (∀ events, (w.playLoop world stream events).Orderly w stream ∧
      ∃ events', events'.Sublist events ∧
        (w.playLoop world stream events).Mirrors
          (w.playLoop world (withoutFaults stream) events')) ∧
    (∃ events, w.consume world stream = w.playLoop world stream events) ∧
    ((w.consume world stream).loop.phase = .ended ∨
      ∃ text, (w.consume world stream).loop.phase = .failed text ∧
        .panicked text ∈ Act.results (acts (w.consume world stream).entries)) := by
  have hstart := sound_start_loop w world stream
  have hplay := exists_play_eq_toEnd_loop w (LoopRun.start world stream)
  refine ⟨?_, hplay, ?_⟩
  · intro events
    obtain ⟨events', hsublist, hshadows⟩ :=
      exists_shadows_play events hstart (shadows_start world stream)
    exact ⟨(sound_play_loop events hstart).orderly, events', hsublist, hshadows.mirrors⟩
  · obtain hended | ⟨text, hfailed⟩ := phase_toEnd hstart
    · exact Or.inl hended
    · obtain ⟨events, hevents⟩ := hplay
      have hsound := sound_play_loop events hstart
      rw [← hevents] at hsound
      exact Or.inr ⟨text, hfailed, hsound.orderly.failed text hfailed⟩

/-- An error, a command and a payload that is none: the handler is called once, all three are
counted, and the loop ends. -/
theorem orderly_play_mixed :
    let w := Worker.scripted none
    let stream : List Pending :=
      [⟨.fault "frame error", 0⟩, ⟨.delivery { payload := [123, 125] }, 0⟩,
        ⟨.delivery { payload := [] }, 0⟩]
    let events : List Worker.Event := List.replicate 6 .step
    let more : List Worker.Event := List.replicate 9 .step
    let run := w.playLoop { memory := ⟨some 0, []⟩ } stream (events ++ more)
    run.loop.phase = .ended ∧
      run.loop.tally = { acknowledged := 1, poisoned := 1, streamErrors := 1 } ∧
        (Act.calls (acts run.entries)).length = 1 ∧
          run.loop.tally.Reports (stream.map (·.item)) (Act.actions (acts run.entries)) := by
  intro w stream events more run
  let taken := w.playLoop { memory := ⟨some 0, []⟩ } stream (List.replicate 5 .step)
  let d : Delivery := { payload := [123, 125] }
  have hreceived := LoopRun.follow_received w (d := d) taken decode_refused rfl
  have hrun : run = (taken.follow w .step).play w more := LoopRun.play_append w _ events more
  rw [hreceived] at hrun
  have hresult : run.loop.result? =
      some (.loopFinished { acknowledged := 1, poisoned := 1, streamErrors := 1 }) := by
    rw [hrun]
    decide +kernel
  have hloop : run.loop = ⟨.ended, _⟩ := Loop.eq_of_result? hresult
  have hphase : run.loop.phase = .ended := congrArg Loop.phase hloop
  have hcalls : (Act.calls (acts run.entries)).length = 1 := by
    rw [hrun]
    decide +kernel
  obtain ⟨hruns, -, -⟩ := orderly_play w { memory := ⟨some 0, []⟩ } stream
  have horderly : run.Orderly w stream := (hruns (events ++ more)).1
  exact ⟨hphase, congrArg Loop.tally hloop, hcalls, (horderly.ended hphase).2.2 (by decide)⟩

end Courier
