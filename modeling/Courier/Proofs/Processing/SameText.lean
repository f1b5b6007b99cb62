import Courier.Proofs.Service.Refusals

/-!
# Headers that say the same

A header value may come as text or as bytes, and may be there or not without saying anything.  What
the worker does with a message depends on what `Headers.text?` reads under each key and on nothing
else about its headers.

Two deliveries with `Delivery.SameText` differ in how their headers are written, and perhaps in what
their broker says: the number that it gives them, and its answers.  The trace context, the ids and
with them every call come out the same, so the work on both goes through the same stages
(`Stage.SameText`) in the same world:

* `sameText_step`: a step keeps this, and does the same to others.
* `sameCourse_play`, `sameCourse_process`: what whole runs have in common.
-/

namespace Courier

/-- Under each key the same text is read. -/
def Headers.SameText (h h' : Headers) : Prop := ∀ key, h'.text? key = h.text? key

/-- Payload and properties are the same, and the headers say the same. -/
structure Delivery.SameText (d d' : Delivery) : Prop where
  payload_eq : d'.payload = d.payload
  properties_eq : d'.properties = d.properties
  headers : d.headers.SameText d'.headers

/-! ### What is read off headers -/

section Readers

variable {h h' : Headers}

theorem TraceContext.extract_eq_of_sameText (hs : h.SameText h') : extract h' = extract h := by
  have hstate : extractState h' = extractState h := by
    rw [extractState, hs]
    rfl
  have hspan : extractSpan h' = extractSpan h := by
    rw [extractSpan, hs, hstate]
    rfl
  have hbaggage : extractBaggage h' = extractBaggage h := by
    rw [extractBaggage, hs]
    rfl
  rw [extract, hspan, hbaggage]
  rfl

theorem CorrelationIds.givenMessageId_eq_of_sameText (hs : h.SameText h')
    (property : Option String) : givenMessageId property h' = givenMessageId property h := by
  rw [givenMessageId, hs]
  rfl

theorem CorrelationIds.givenCorrelationId_eq_of_sameText (hs : h.SameText h')
    (property : Option String) (command : Command) :
    givenCorrelationId property h' command = givenCorrelationId property h command := by
  rw [givenCorrelationId, hs]
  rfl

/-- The ids are the same function of the fresh token. -/
theorem CorrelationIds.derive_eq_of_sameText (hs : h.SameText h')
    (messageId correlationId : Option String) (command : Command) :
    derive messageId correlationId h' command = derive messageId correlationId h command := by
  funext token
  rw [derive, givenMessageId_eq_of_sameText hs, givenCorrelationId_eq_of_sameText hs]
  rfl

end Readers

/-! ### Stages -/

/-- The jobs differ in how headers are written, and in how the broker answers. -/
structure Job.SameText (job job' : Job) : Prop where
  delivery : job.delivery.SameText job'.delivery
  command_eq : job'.command = job.command
  ids_eq : job'.ids = job.ids

/-- The settlements differ in how headers are written, and in how the broker answers. -/
structure Settlement.SameText (s s' : Settlement) : Prop where
  delivery : s.delivery.SameText s'.delivery
  outcome_eq : s'.outcome = s.outcome

/-- The stages differ in how headers are written, and in how the broker answers. -/
inductive Stage.SameText : Stage → Stage → Prop where
  | received {d d' : Delivery} (h : d.SameText d') : SameText (.received d) (.received d')
  | due {job job' : Job} (h : job.SameText job') (n : UInt32) :
    SameText (.due job n) (.due job' n)
  | calling {job job' : Job} (h : job.SameText job') (n : UInt32) (since : Nat) (reply : Reply) :
    SameText (.calling job n since reply) (.calling job' n since reply)
  | waiting {job job' : Job} (h : job.SameText job') (n : UInt32) (until_ : Nat) :
    SameText (.waiting job n until_) (.waiting job' n until_)
  | settling {s s' : Settlement} (h : s.SameText s') : SameText (.settling s) (.settling s')
  | finished (outcome : Outcome) : SameText (.finished outcome) (.finished outcome)
  | broken (text : String) : SameText (.broken text) (.broken text)

/-- The act, whatever number the broker gave to the delivery, and however it answers. -/
def Act.untagged : Act → Act
  | settle handed => settle { handed.unrefused with tag := 0 }
  | act => act

/-- The acts, without the numbers and the answers of brokers. -/
def unanswered (l : List Act) : List Act := l.map Act.untagged

/-- Two steps lead to the same world and to stages with the same text, through the same acts. -/
structure Progress.SameText {σ : Type} (p p' : Progress σ) : Prop where
  world_eq : p'.world = p.world
  stage : p.stage.SameText p'.stage
  acts_eq : unanswered (acts p'.entries) = unanswered (acts p.entries)

section Steps

variable {σ : Type} {w : Worker σ} {job job' : Job} {n : UInt32}

theorem callOf_eq_of_sameText (w : Worker σ) (h : job.SameText job') (n : UInt32) :
    w.callOf job' n = w.callOf job n := by
  rw [Worker.callOf, h.ids_eq, h.command_eq,
    TraceContext.extract_eq_of_sameText h.delivery.headers]
  rfl

theorem sameText_conclude (world : World σ) (h : job.SameText job') (outcome : Outcome)
    (attempt : Option UInt32) {entries entries' : List Entry}
    (hacts : unanswered (acts entries') = unanswered (acts entries)) :
    (w.conclude world job outcome attempt entries).SameText
      (w.conclude world job' outcome attempt entries') := by
  refine ⟨rfl, .settling ⟨h.delivery, rfl⟩, ?_⟩
  rw [Worker.acts_conclude, Worker.acts_conclude, hacts]

theorem sameText_receive (w : Worker σ) (world : World σ) {d d' : Delivery} (h : d.SameText d') :
    (w.receive world d).SameText (w.receive world d') := by
  unfold Worker.receive
  rw [h.payload_eq]
  cases Command.decode d.payload with
  | error e =>
    refine ⟨rfl, .settling ⟨h, rfl⟩, ?_⟩
    rw [Worker.acts_reject, Worker.acts_reject]
  | ok command =>
    have hids : w.identify world d' command = w.identify world d command := by
      simp only [Worker.identify, h.properties_eq, CorrelationIds.derive_eq_of_sameText h.headers,
        CorrelationIds.givenMessageId_eq_of_sameText h.headers]
    refine ⟨?_, ?_, ?_⟩
    · simp only [Worker.accept, hids]
    · simp only [Worker.accept, hids]
      refine .due ?_ 1
      exact ⟨h, rfl, rfl⟩
    · rw [Worker.acts_accept, Worker.acts_accept]

theorem sameText_attempt (w : Worker σ) (world : World σ) (h : job.SameText job') (n : UInt32) :
    (w.attempt world job n).SameText (w.attempt world job' n) := by
  unfold Worker.attempt
  split
  · exact sameText_conclude world h _ none rfl
  · have hcall := callOf_eq_of_sameText w h n
    refine ⟨?_, ?_, ?_⟩
    · simp only [Worker.call, hcall]
    · simp only [Worker.call, hcall]
      exact .calling h n _ _
    · rw [Worker.acts_call, Worker.acts_call, hcall]

theorem sameText_conclusion (w : Worker σ) (world : World σ) (h : job.SameText job') (n : UInt32)
    (result : CallResult) :
    (w.conclusion world job n result).SameText (w.conclusion world job' n result) := by
  cases result with
  | succeeded => exact sameText_conclude world h _ _ rfl
  | failed e =>
    simp only [Worker.conclusion, Worker.retry]
    cases w.policy.backoffAfter n with
    | none => exact sameText_conclude world h _ none rfl
    | some wait => exact ⟨rfl, .waiting h n _, rfl⟩
  | panicked text => exact ⟨rfl, .broken text, rfl⟩

theorem sameText_wake (w : Worker σ) (world : World σ) (h : job.SameText job') (n : UInt32) :
    (w.wake world job n).SameText (w.wake world job' n) := by
  unfold Worker.wake
  split
  · exact sameText_conclude world h _ none rfl
  · exact ⟨rfl, .due h _, rfl⟩

/-- A step does the same from stages with the same text. -/
theorem sameText_step (w : Worker σ) (world : World σ) {stage stage' : Stage}
    (h : stage.SameText stage') : (w.step world stage).SameText (w.step world stage') := by
  cases h with
  | received h => exact sameText_receive w world h
  | due h n => exact sameText_attempt w world h n
  | calling h n since reply =>
    simp only [Worker.step]
    split
    · exact sameText_conclusion w world h n reply.result
    · exact ⟨rfl, .calling h n since reply, rfl⟩
  | waiting h n until_ =>
    simp only [Worker.step]
    split
    · exact sameText_wake w world h n
    · exact ⟨rfl, .waiting h n until_, rfl⟩
  | @settling s s' h =>
    refine ⟨rfl, ?_, ?_⟩
    · show Stage.SameText (.finished s.outcome) (.finished s'.outcome)
      rw [h.outcome_eq]
      exact .finished s.outcome
    · rw [Worker.step, Worker.step, Worker.acts_settle, Worker.acts_settle, h.outcome_eq]
      rfl
  | finished outcome => exact ⟨rfl, .finished outcome, rfl⟩
  | broken text => exact ⟨rfl, .broken text, rfl⟩

end Steps

/-! ### Runs -/

/-- Calls, answers, waits and terminal actions with their times, but for what the broker says. -/
def Journal.course (j : Journal) : List (Nat × Act) :=
  j.timedActs.map fun (time, act) => (time, act.untagged)

@[simp] theorem Journal.course_append (j j' : Journal) : (j ++ j').course = j.course ++ j'.course := by
  rw [course, timedActs_append, List.map_append]
  rfl

@[simp] theorem Journal.course_stamp (time : Nat) (l : List Entry) :
    (stamp time l).course = (unanswered (acts l)).map fun act => (time, act) := by
  rw [course, timedActs_stamp, unanswered, List.map_map, List.map_map]
  rfl

/-- The runs are at stages with the same text in the same world, through the same acts. -/
structure Run.SameText {σ : Type} (run run' : Run σ) : Prop where
  world_eq : run'.world = run.world
  stage : run.stage.SameText run'.stage
  course_eq : run'.journal.course = run.journal.course

section Runs

variable {σ : Type} {w : Worker σ} {run run' : Run σ} {d d' : Delivery}

theorem isFinal_eq_of_sameText {stage stage' : Stage} (h : stage.SameText stage') :
    stage'.isFinal = stage.isFinal := by
  cases h <;> rfl

theorem readyAt_eq_of_sameText (w : Worker σ) (world : World σ) {stage stage' : Stage}
    (h : stage.SameText stage') : w.readyAt world stage' = w.readyAt world stage := by
  cases h <;> rfl

theorem sameText_follow (event : Worker.Event) (h : run.SameText run') :
    (run.follow w event).SameText (run'.follow w event) := by
  cases event with
  | step =>
    have hstep := sameText_step w run.world h.stage
    simp only [Run.follow, h.world_eq]
    refine ⟨hstep.world_eq, hstep.stage, ?_⟩
    rw [Journal.course_append, Journal.course_append, Journal.course_stamp, Journal.course_stamp,
      h.course_eq, hstep.acts_eq]
  | cancel => exact ⟨congrArg World.cancel h.world_eq, h.stage, h.course_eq⟩
  | elapse time =>
    refine ⟨?_, h.stage, h.course_eq⟩
    simp only [Run.follow, h.world_eq]

theorem sameText_play (w : Worker σ) (world : World σ) (h : d.SameText d')
    (events : List Worker.Event) :
    (w.play world d events).SameText (w.play world d' events) := by
  suffices hruns : ∀ run run' : Run σ, run.SameText run' →
      (run.play w events).SameText (run'.play w events) from
    hruns _ _ ⟨rfl, .received h, rfl⟩
  induction events with
  | nil => exact fun _ _ h => h
  | cons event events ih => exact fun _ _ h => ih _ _ (sameText_follow event h)

theorem sameText_toEnd (w : Worker σ) (world : World σ) {stage stage' : Stage}
    (h : stage.SameText stage') : (w.toEnd world stage).SameText (w.toEnd world stage') := by
  have hfinal := isFinal_eq_of_sameText h
  have hready := readyAt_eq_of_sameText w world h
  fun_induction Worker.toEnd w world stage generalizing stage' with
  | case1 world stage hstage =>
    rw [Worker.toEnd, dif_pos (hfinal.trans hstage)]
    exact ⟨rfl, h, rfl⟩
  | case2 world stage hstage world' progress run =>
    rename_i ih
    have hstep := sameText_step w (world.at (w.readyAt world stage)) h
    have hrest := ih hstep.stage (isFinal_eq_of_sameText hstep.stage)
      (readyAt_eq_of_sameText w _ hstep.stage)
    rw [Worker.toEnd, dif_neg (by rw [hfinal]; exact hstage)]
    simp only [hready, hstep.world_eq]
    refine ⟨hrest.world_eq, hrest.stage, ?_⟩
    rw [Journal.course_append, Journal.course_append, Journal.course_stamp, Journal.course_stamp,
      hstep.acts_eq]
    exact congrArg _ hrest.course_eq

theorem sameText_process (w : Worker σ) (world : World σ) (h : d.SameText d') :
    (w.process world d).SameText (w.process world d') := by
  have hrest := sameText_toEnd w world (.received h)
  refine ⟨hrest.world_eq, hrest.stage, ?_⟩
  show Journal.course (_ ++ _) = Journal.course (_ ++ _)
  rw [Journal.course_append, Journal.course_append, hrest.course_eq]
  rfl

/-! ### What runs with the same text have in common -/

theorem Journal.calls_eq_course (j : Journal) :
    j.calls = j.course.filterMap fun (time, act) => act.call?.map fun call => (time, call) := by
  rw [calls, course, timedActs, List.map_filterMap, List.filterMap_filterMap]
  congr 1
  funext s
  obtain ⟨time, entry⟩ := s
  cases entry <;> rfl

theorem Journal.settlements_eq_course (j : Journal) :
    j.settlements = Act.actions (j.course.map Prod.snd) := by
  rw [settlements_eq, ← map_snd_timedActs, course, List.map_map, Act.actions, Act.actions,
    List.filterMap_map, List.filterMap_map]
  congr 1
  funext s
  obtain ⟨time, act⟩ := s
  cases act <;> rfl

/-- Two runs come to the same end in the same world, and do the same to others at the same times,
whatever their brokers answer. -/
structure Run.SameCourse (run run' : Run σ) : Prop where
  /-- The clock, the beginning of shutdown, the tokens drawn and the handler's memory. -/
  world_eq : run'.world = run.world
  outcome_eq : run'.outcome? = run.outcome?
  calls_eq : run'.journal.calls = run.journal.calls
  settlements_eq : run'.journal.settlements = run.journal.settlements
  course_eq : run'.journal.course = run.journal.course

theorem Run.SameText.sameCourse (h : run.SameText run') : run.SameCourse run' := by
  refine ⟨h.world_eq, ?_, ?_, ?_, h.course_eq⟩
  · obtain ⟨world, stage, journal⟩ := run
    obtain ⟨world', stage', journal'⟩ := run'
    cases h.stage <;> rfl
  · rw [Journal.calls_eq_course, h.course_eq, Journal.calls_eq_course]
  · rw [Journal.settlements_eq_course, h.course_eq, Journal.settlements_eq_course]

/-- The worker makes no difference between two deliveries: it reads the same trace context and the
same ids off them, and works on both in the same way, in any order of events and on its own clock. -/
structure Worker.TreatsAlike (w : Worker σ) (d d' : Delivery) : Prop where
  extract_eq : TraceContext.extract d'.headers = TraceContext.extract d.headers
  /-- The ids are the same function of the command and of the fresh token. -/
  derive_eq : CorrelationIds.derive d'.properties.messageId d'.properties.correlationId d'.headers =
    CorrelationIds.derive d.properties.messageId d.properties.correlationId d.headers
  play : ∀ world events, (w.play world d events).SameCourse (w.play world d' events)
  process : ∀ world, (w.process world d).SameCourse (w.process world d')

/-- Headers that say the same are treated alike. -/
theorem treatsAlike_of_sameText (w : Worker σ) (h : d.SameText d') : w.TreatsAlike d d' where
  extract_eq := TraceContext.extract_eq_of_sameText h.headers
  derive_eq := by
    rw [h.properties_eq]
    funext command
    exact CorrelationIds.derive_eq_of_sameText h.headers _ _ command
  play world events := (sameText_play w world h events).sameCourse
  process world := (sameText_process w world h).sameCourse

end Runs

end Courier
