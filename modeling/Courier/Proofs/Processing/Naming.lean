import Courier.Proofs.Processing.Interleaving

/-!
# The ids of a delivery

A delivery gets its two ids when its payload has been read, each of them from the first of several
sources that says something (`FirstNonEmpty`).  From then on the ids are part of the work on the
delivery: a stage has them (`Stage.IsNamed`), every step passes them on (`named_step`), and none
draws a token again.

So the handler gets the same ids with every attempt, and one token at most is drawn, however often
the delivery is tried: `oneName_play`.
-/

namespace Courier

/-! ### The first source that says something -/

/-- The text is that of the first source that is there and not empty. -/
inductive FirstNonEmpty : List (Option String) → String → Prop where
  | here {s : String} {rest : List (Option String)} (hs : s ≠ "") : FirstNonEmpty (some s :: rest) s
  | missing {s : String} {rest : List (Option String)} (h : FirstNonEmpty rest s) :
    FirstNonEmpty (none :: rest) s
  | empty {s : String} {rest : List (Option String)} (h : FirstNonEmpty rest s) :
    FirstNonEmpty (some "" :: rest) s

theorem FirstNonEmpty.ne_empty {sources : List (Option String)} {s : String}
    (h : FirstNonEmpty sources s) : s ≠ "" := by
  induction h with
  | here hs => exact hs
  | missing _ ih | empty _ ih => exact ih

/-- The sources settle the text. -/
theorem FirstNonEmpty.unique {sources : List (Option String)} {s s' : String}
    (h : FirstNonEmpty sources s) (h' : FirstNonEmpty sources s') : s = s' := by
  induction h with
  | here hs =>
    cases h' with
    | here _ => rfl
    | empty _ => exact absurd rfl hs
  | missing _ ih =>
    cases h' with
    | missing h' => exact ih h'
  | empty _ ih =>
    cases h' with
    | here hs => exact absurd rfl hs
    | empty h' => exact ih h'

/-- One more source in front, which counts if it says something. -/
theorem FirstNonEmpty.cons {sources : List (Option String)} {s : String}
    (h : FirstNonEmpty sources s) (source : Option String) :
    FirstNonEmpty (source :: sources) ((nonEmpty source).getD s) := by
  cases source with
  | none => exact .missing h
  | some text =>
    by_cases htext : text = ""
    · rw [htext]
      exact .empty h
    · have hsome : nonEmpty (some text) = some text := by simp [nonEmpty, htext]
      rw [hsome]
      exact .here htext

/-- Headers drop an empty text themselves. -/
theorem nonEmpty_text? (headers : Headers) (key : String) :
    nonEmpty (headers.text? key) = headers.text? key := by
  simp only [nonEmpty, Headers.text?, Option.filter_filter, Bool.and_self]

namespace CorrelationIds

/-- The message id is the broker's, the header's or the token. -/
theorem firstNonEmpty_messageId (property property' : Option String) (headers : Headers)
    (command : Command) {token : String} (ht : token ≠ "") :
    FirstNonEmpty [property, headers.text? messageIdHeader, some token]
      (derive property property' headers command token).messageId := by
  have htoken : FirstNonEmpty [some token] token := .here ht
  have hsources := (htoken.cons (headers.text? messageIdHeader)).cons property
  rw [nonEmpty_text?, ← Option.getD_or] at hsources
  exact hsources

/-- The correlation id is the broker's, the header's, the application's or the message id. -/
theorem firstNonEmpty_correlationId (property property' : Option String) (headers : Headers)
    (command : Command) {token : String} (ht : token ≠ "") :
    FirstNonEmpty
      [property', headers.text? correlationIdHeader, some command.applicationId,
        some (derive property property' headers command token).messageId]
      (derive property property' headers command token).correlationId := by
  have hmessage : FirstNonEmpty [some (derive property property' headers command token).messageId]
      (derive property property' headers command token).messageId :=
    .here (messageId_derive_ne_empty ht)
  have hsources := ((hmessage.cons (some command.applicationId)).cons
    (headers.text? correlationIdHeader)).cons property'
  rw [nonEmpty_text?, ← Option.getD_or, ← Option.getD_or] at hsources
  exact hsources

end CorrelationIds

/-! ### Tokens -/

/-- The token that an entry says was drawn. -/
def Entry.token? : Entry → Option String
  | .drew token => some token
  | _ => none

/-- The tokens drawn among some entries. -/
def drawnTokens (entries : List Entry) : List String := entries.filterMap Entry.token?

@[simp] theorem drawnTokens_append (l l' : List Entry) :
    drawnTokens (l ++ l') = drawnTokens l ++ drawnTokens l' :=
  List.filterMap_append

@[simp] theorem drawnTokens_logged (span : Option SpanName) (records : List LogRecord) :
    drawnTokens (records.map (Entry.logged span)) = [] := by
  rw [drawnTokens, List.filterMap_eq_nil_iff]
  intro entry hentry
  obtain ⟨record, -, rfl⟩ := List.mem_map.1 hentry
  rfl

/-! ### Every step passes the ids on -/

/-- The work on a delivery goes on under these ids, or is over. -/
def Stage.IsNamed (ids : CorrelationIds) : Stage → Prop
  | .received _ => False
  | .due job _ | .calling job _ _ _ | .waiting job _ _ => job.ids = ids
  | .settling s => s.ids = ids
  | .finished _ | .broken _ => True

/-- A step that goes on under these ids: it draws no token, and tells the handler no other ids. -/
structure Progress.IsNamed {σ : Type} (ids : CorrelationIds) (world : World σ) (p : Progress σ) :
    Prop where
  stage : p.stage.IsNamed ids
  drawn_eq : p.world.drawn = world.drawn
  tokens_eq : drawnTokens p.entries = []
  calls : ∀ c ∈ Act.calls (acts p.entries), c.ids = ids

section Steps

variable {σ : Type} (w : Worker σ) (world : World σ) {job : Job} {n : UInt32}
  {ids : CorrelationIds}

theorem drawnTokens_openHandle (d : Delivery) : drawnTokens (w.openHandle d) = [] := by
  unfold Worker.openHandle
  cases nonEmpty d.properties.messageId <;> rfl

theorem drawnTokens_report (ids : CorrelationIds) (outcome : Outcome) :
    drawnTokens (w.report ids outcome) = [] := by
  cases outcome <;> rfl

theorem named_conclude (outcome : Outcome) (attempt : Option UInt32) {entries : List Entry}
    (h : job.ids = ids) (htokens : drawnTokens entries = [])
    (hcalls : Act.calls (acts entries) = []) :
    (w.conclude world job outcome attempt entries).IsNamed ids world where
  stage := h
  drawn_eq := rfl
  tokens_eq := by
    rw [Worker.conclude, drawnTokens_append, htokens, drawnTokens_report]
    rfl
  calls := by
    rw [Worker.acts_conclude, hcalls]
    exact List.forall_mem_nil _

theorem named_call (n : UInt32) (h : job.ids = ids) :
    (w.call world job n).IsNamed ids world where
  stage := h
  drawn_eq := by
    simp only [Worker.call]
    split <;> rfl
  tokens_eq := by
    rw [Worker.call, drawnTokens_append, drawnTokens_logged]
    rfl
  calls := by
    rw [Worker.acts_call]
    intro c hc
    rw [List.mem_singleton.1 hc]
    exact h

theorem named_attempt (n : UInt32) (h : job.ids = ids) :
    (w.attempt world job n).IsNamed ids world := by
  unfold Worker.attempt
  split
  · exact named_conclude w world _ _ h rfl rfl
  · exact named_call w world n h

theorem named_retry (n : UInt32) (e : HandlerError) (h : job.ids = ids) :
    (w.retry world job n e).IsNamed ids world := by
  unfold Worker.retry
  cases w.policy.backoffAfter n with
  | none => exact named_conclude w world _ _ h rfl rfl
  | some wait => exact ⟨h, rfl, rfl, List.forall_mem_nil _⟩

theorem named_conclusion (n : UInt32) (result : CallResult) (h : job.ids = ids) :
    (w.conclusion world job n result).IsNamed ids world := by
  cases result with
  | succeeded => exact named_conclude w world _ _ h rfl rfl
  | failed e => exact named_retry w world n e h
  | panicked text => exact ⟨trivial, rfl, rfl, List.forall_mem_nil _⟩

theorem named_wake (n : UInt32) (h : job.ids = ids) :
    (w.wake world job n).IsNamed ids world := by
  unfold Worker.wake
  split
  · exact named_conclude w world _ _ h rfl rfl
  · exact ⟨h, rfl, rfl, List.forall_mem_nil _⟩

theorem named_settle (s : Settlement) : (w.settle world s).IsNamed ids world where
  stage := trivial
  drawn_eq := rfl
  tokens_eq := by
    simp only [Worker.settle, drawnTokens_append]
    cases s.attempt <;> cases (s.delivery.settle s.outcome.disposition).answer <;> rfl
  calls := by
    rw [Worker.acts_settle]
    exact List.forall_mem_nil _

/-- A step of work that has its ids goes on under them. -/
theorem named_step {stage : Stage} (h : stage.IsNamed ids) :
    (w.step world stage).IsNamed ids world := by
  cases stage with
  | received d => exact h.elim
  | due job n => exact named_attempt w world n h
  | calling job n since reply =>
    simp only [Worker.step]
    split
    · exact named_conclusion w world n reply.result h
    · exact ⟨h, rfl, rfl, List.forall_mem_nil _⟩
  | waiting job n until_ =>
    simp only [Worker.step]
    split
    · exact named_wake w world n h
    · exact ⟨h, rfl, rfl, List.forall_mem_nil _⟩
  | settling s => exact named_settle w world s
  | finished outcome => exact ⟨h, rfl, rfl, List.forall_mem_nil _⟩
  | broken text => exact ⟨h, rfl, rfl, List.forall_mem_nil _⟩

end Steps

/-! ### One name for a whole run -/

section Runs

variable {σ : Type} {w : Worker σ} {world : World σ} {d : Delivery} {command : Command}

/-- The ids that a delivery gets in a world. -/
def Worker.idsOf (w : Worker σ) (world : World σ) (d : Delivery) (command : Command) :
    CorrelationIds :=
  (w.identify world d command).1

/-- The tokens that a delivery needs for its ids: one, or none. -/
def Worker.tokensFor (w : Worker σ) (world : World σ) (d : Delivery) (command : Command) :
    List String :=
  (w.identify world d command).2.toList

theorem Worker.idsOf_eq (w : Worker σ) (world : World σ) (d : Delivery) (command : Command) :
    w.idsOf world d command =
      .derive d.properties.messageId d.properties.correlationId d.headers command
        (w.tokens world.drawn) := by
  unfold idsOf identify
  cases CorrelationIds.givenMessageId d.properties.messageId d.headers <;> rfl

/-- A token is needed only where neither the broker nor a header gives a message id. -/
theorem Worker.tokensFor_eq (w : Worker σ) (world : World σ) (d : Delivery) (command : Command) :
    w.tokensFor world d command =
      if CorrelationIds.givenMessageId d.properties.messageId d.headers = none then
        [w.tokens world.drawn]
      else [] := by
  unfold tokensFor identify
  cases CorrelationIds.givenMessageId d.properties.messageId d.headers <;> rfl

/-- What a run has drawn so far, and whom it has told which ids. -/
structure Run.IsNamed (w : Worker σ) (world : World σ) (d : Delivery) (command : Command)
    (run : Run σ) : Prop where
  calls : ∀ c ∈ Act.calls run.acts, c.ids = w.idsOf world d command
  /-- Either the payload has not been read yet, or the ids are settled. -/
  place :
    (run.stage = .received d ∧ drawnTokens run.journal.entries = [] ∧
        run.world.drawn = world.drawn) ∨
      (run.stage.IsNamed (w.idsOf world d command) ∧
        drawnTokens run.journal.entries = w.tokensFor world d command ∧
          run.world.drawn = world.drawn + (w.tokensFor world d command).length)

theorem drawnTokens_accept (w : Worker σ) (world : World σ) (d : Delivery) (command : Command) :
    drawnTokens (w.accept world d command).entries = w.tokensFor world d command := by
  rw [Worker.accept, drawnTokens_append, drawnTokens_append, drawnTokens_openHandle,
    Worker.tokensFor]
  cases (w.identify world d command).2 <;> rfl

theorem isNamed_start (w : Worker σ) (world : World σ) (d : Delivery) (command : Command) :
    (Run.start world d).IsNamed w world d command where
  calls := List.forall_mem_nil _
  place := .inl ⟨rfl, rfl, rfl⟩

theorem isNamed_follow {run : Run σ} (hd : Command.decode d.payload = .ok command)
    (event : Worker.Event) (h : run.IsNamed w world d command) :
    (run.follow w event).IsNamed w world d command := by
  cases event with
  | cancel => exact ⟨h.calls, h.place⟩
  | elapse time => exact ⟨h.calls, h.place⟩
  | step =>
    obtain ⟨hcalls, ⟨hstage, htokens, hdrawn⟩ | ⟨hstage, htokens, hdrawn⟩⟩ := h
    · -- The ids depend on the world by the number of the next token only.
      have hids : w.idsOf run.world d command = w.idsOf world d command := by
        rw [w.idsOf_eq, w.idsOf_eq, hdrawn]
      have hneeded : w.tokensFor run.world d command = w.tokensFor world d command := by
        rw [w.tokensFor_eq, w.tokensFor_eq, hdrawn]
      have hstep : w.step run.world run.stage = w.accept run.world d command := by
        rw [hstage, Worker.step_received w run.world hd]
      refine ⟨?_, .inr ⟨?_, ?_, ?_⟩⟩
      · simp only [Run.acts, Run.follow, Journal.entries_append, Journal.entries_stamp,
          acts_append, hstep, Worker.acts_accept, List.append_nil]
        exact hcalls
      · simp only [Run.follow, hstep]
        exact hids
      · simp only [Run.follow, Journal.entries_append, Journal.entries_stamp, drawnTokens_append,
          hstep, htokens, drawnTokens_accept, hneeded, List.nil_append]
      · simp only [Run.follow, hstep]
        show run.world.drawn + (w.tokensFor run.world d command).length = _
        rw [hneeded, hdrawn]
    · have hstep := named_step w run.world hstage
      refine ⟨?_, .inr ⟨hstep.stage, ?_, hstep.drawn_eq.trans hdrawn⟩⟩
      · intro c hc
        simp only [Run.acts, Run.follow, Journal.entries_append, Journal.entries_stamp,
          acts_append, Act.calls_append] at hc
        rcases List.mem_append.1 hc with hbefore | hnow
        · exact hcalls c hbefore
        · exact hstep.calls c hnow
      · simp only [Run.follow, Journal.entries_append, Journal.entries_stamp, drawnTokens_append,
          htokens, hstep.tokens_eq, List.append_nil]

theorem isNamed_play (hd : Command.decode d.payload = .ok command) (events : List Worker.Event) :
    (w.play world d events).IsNamed w world d command := by
  suffices h : ∀ run : Run σ, run.IsNamed w world d command →
      (run.play w events).IsNamed w world d command from h _ (isNamed_start w world d command)
  induction events with
  | nil => exact fun _ h => h
  | cons event events ih => exact fun _ h => ih _ (isNamed_follow hd event h)

/-- What a run shows of the ids of its delivery. -/
structure Run.HasOneName (w : Worker σ) (world : World σ) (d : Delivery) (ids : CorrelationIds)
    (run : Run σ) : Prop where
  /-- Every call tells the handler these ids. -/
  calls : ∀ c ∈ Act.calls run.acts, c.ids = ids
  /-- No token was drawn, or the next one, because nobody else gives a message id. -/
  tokens : drawnTokens run.journal.entries = [] ∨
    drawnTokens run.journal.entries = [w.tokens world.drawn] ∧
      CorrelationIds.givenMessageId d.properties.messageId d.headers = none
  /-- The tokens that were drawn have been counted. -/
  drawn_eq : run.world.drawn = world.drawn + (drawnTokens run.journal.entries).length

theorem Run.IsNamed.hasOneName {run : Run σ} (h : run.IsNamed w world d command) :
    run.HasOneName w world d (w.idsOf world d command) where
  calls := h.calls
  tokens := by
    obtain ⟨-, htokens, -⟩ | ⟨-, htokens, -⟩ := h.place
    · exact .inl htokens
    · rw [htokens, w.tokensFor_eq]
      split
      · rename_i hnone
        exact .inr ⟨rfl, hnone⟩
      · exact .inl rfl
  drawn_eq := by
    obtain ⟨-, htokens, hdrawn⟩ | ⟨-, htokens, hdrawn⟩ := h.place
    · rw [htokens, hdrawn]
      rfl
    · rw [htokens, hdrawn]

/-- **One name for all attempts.**  A delivery that holds a command has one pair of ids, each of them
from the first source that says something, and neither of them empty.  Whatever the policy, the
handler and the shutdown are, every call of every run gets this pair, and the run draws one token at
most. -/
theorem oneName_play (w : Worker σ) (world : World σ) (d : Delivery) {command : Command}
    (hd : Command.decode d.payload = .ok command) (ht : w.tokens world.drawn ≠ "") :
    ∃ ids : CorrelationIds,
      FirstNonEmpty
        [d.properties.messageId, d.headers.text? messageIdHeader, some (w.tokens world.drawn)]
        ids.messageId ∧
      FirstNonEmpty
        [d.properties.correlationId, d.headers.text? correlationIdHeader,
          some command.applicationId, some ids.messageId]
        ids.correlationId ∧
      ids.messageId ≠ "" ∧ ids.correlationId ≠ "" ∧
      (∀ events, (w.play world d events).HasOneName w world d ids) ∧
      (w.process world d).HasOneName w world d ids := by
  have hmessage := CorrelationIds.firstNonEmpty_messageId d.properties.messageId
    d.properties.correlationId d.headers command ht
  have hcorrelation := CorrelationIds.firstNonEmpty_correlationId d.properties.messageId
    d.properties.correlationId d.headers command ht
  rw [← w.idsOf_eq] at hmessage hcorrelation
  have hplay (events : List Worker.Event) :
      (w.play world d events).HasOneName w world d (w.idsOf world d command) :=
    (isNamed_play hd events).hasOneName
  obtain ⟨events, hevents⟩ := exists_play_eq_process w world d
  refine ⟨w.idsOf world d command, hmessage, hcorrelation, hmessage.ne_empty,
    hcorrelation.ne_empty, hplay, ?_⟩
  rw [hevents]
  exact hplay events

/-- A delivery whose broker gives an empty message id, and whose headers give one that is no text. -/
def Delivery.unnamed : Delivery where
  payload := [123, 125]
  headers := .ofList [(messageIdHeader, .bytes [0xFF]), (correlationIdHeader, .text "")]
  properties := { messageId := some "" }

/-- Nobody names the delivery, so the token does, and names it twice. -/
theorem oneName_play_unnamed :
    let w := Worker.scripted none
    let world : World Handler.Script := { memory := ⟨some 1, []⟩ }
    Command.decode Delivery.unnamed.payload = .ok {} ∧ w.tokens world.drawn ≠ "" ∧
      ∀ events, (w.play world .unnamed events).HasOneName w world .unnamed ⟨"token", "token"⟩ := by
  intro w world
  have hd : Command.decode Delivery.unnamed.payload = .ok {} := decode_refused
  have ht : w.tokens world.drawn ≠ "" := by decide
  refine ⟨hd, ht, ?_⟩
  obtain ⟨⟨messageId, correlationId⟩, hmessage, hcorrelation, -, -, hplay, -⟩ :=
    oneName_play w world .unnamed hd ht
  have hunread : Delivery.unnamed.headers.text? messageIdHeader = none := by decide
  have hempty : Delivery.unnamed.headers.text? correlationIdHeader = none := by decide
  have htoken : FirstNonEmpty [some "token"] "token" := .here ht
  rw [hunread] at hmessage
  obtain rfl : messageId = "token" := hmessage.unique (.empty (.missing htoken))
  rw [hempty] at hcorrelation
  obtain rfl : correlationId = "token" :=
    hcorrelation.unique (.missing (.missing (.empty htoken)))
  exact hplay

end Runs

end Courier
