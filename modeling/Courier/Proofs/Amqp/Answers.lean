import Courier.Amqp.Session
import Courier.Proofs.Service.Stock

/-!
# Answers to deliveries

A worker that is connected gets messages, each under a delivery tag, and answers with methods that
name a tag (`Method.tag?`).  `Method.answer` is the method that belongs to an outcome.

An outcome takes a receipt (`Outcome.Takes`), the receipt is handed in under the tag of its own
delivery (`ReceiptCall.Settles`), and a receipt that gets through is sent as a method
(`Method.ofReceipt`).  Together that is the answer (`Case.Fits.methods_eq`), and nothing else is
sent about deliveries (`answers_eq`).

`Answering` says what a loop and its source keep: every step of the loop keeps it
(`Answering.step`), and so does what tells of no delivery (`Answering.aside`).

`Answered` is what that means for the messages of a session, and `answered_play` the main result.
`answers_play_ne` shows what becomes of a delivery over which the handler breaks down.
-/

namespace Courier

variable {σ : Type}

namespace Amqp

/-! ### Methods -/

namespace Method

/-- The delivery tag that a method names. -/
def tag? : Method → Option Nat
  | basicAck tag _ => some tag
  | basicNack tag _ _ => some tag
  | _ => none

/-- The answer to a delivery that came to an outcome. -/
def answer (tag : Nat) : Outcome → Method
  | .acknowledged _ => .basicAck tag false
  | .interrupted _ => .basicNack tag false true
  | .poison | .exhausted _ => .basicNack tag false false

/-- The receipt that an outcome takes is sent as the answer. -/
theorem ofReceipt_eq_answer (tag : Nat) {outcome : Outcome} {receipt : Receipt}
    (h : outcome.Takes receipt) : ofReceipt tag receipt = answer tag outcome := by
  cases h <;> rfl

theorem tag?_ofReceipt (tag : Nat) (receipt : Receipt) :
    (ofReceipt tag receipt).tag? = some tag := by
  cases receipt <;> rfl

/-- The answers to cases name their tags. -/
theorem filterMap_tag?_answer (l : List Case) :
    (l.map fun c => answer c.delivery.tag c.outcome).filterMap tag? =
      l.map (·.delivery.tag) := by
  have htag : (tag? ∘ fun c : Case => answer c.delivery.tag c.outcome) =
      some ∘ fun c => c.delivery.tag := by
    funext c
    show (answer c.delivery.tag c.outcome).tag? = some c.delivery.tag
    cases c.outcome <;> rfl
  rw [List.filterMap_map, htag, List.filterMap_eq_map]

end Method

end Amqp

open Amqp

namespace Act

/-- The method that an act sends about a delivery, if its receipt gets through. -/
def method? : Act → Option Method
  | .settle ⟨tag, receipt, .ok ()⟩ => some (.ofReceipt tag receipt)
  | _ => none

/-- The methods that are sent about deliveries. -/
def methods (l : List Act) : List Method := l.filterMap method?

theorem methods_append (l l' : List Act) : methods (l ++ l') = methods l ++ methods l' :=
  List.filterMap_append

theorem methods_eq_nil {l : List Act} (h : actions l = []) : methods l = [] := by
  refine List.filterMap_eq_nil_iff.2 fun act hact => ?_
  have hnone : act.action? = none := List.filterMap_eq_nil_iff.1 h act hact
  cases act with
  | settle handed => cases hnone
  | call _ | reply _ | wait _ | wake _ => rfl

end Act

namespace Amqp

/-- What is sent about deliveries. -/
def answers (consumerTag : String) (stopRefused : Bool) (j : Journal) : List Method :=
  (methods consumerTag stopRefused j).filter (·.tag?.isSome)

/-- What is sent about deliveries for an entry is sent for its act. -/
theorem filter_send (consumerTag : String) (stopRefused : Bool) (e : Entry) :
    (send consumerTag stopRefused e).filter (·.tag?.isSome) =
      (e.act?.bind Act.method?).toList := by
  cases e with
  | settled action call =>
    obtain ⟨tag, receipt, _ | _⟩ := call
    · rfl
    · exact List.filter_cons_of_pos (by rw [Method.tag?_ofReceipt]; rfl)
  | stopAsked =>
    rw [send]
    split <;> rfl
  | _ => rfl

/-- What is sent about deliveries is sent for acts. -/
theorem answers_eq (consumerTag : String) (stopRefused : Bool) (j : Journal) :
    answers consumerTag stopRefused j = Act.methods (acts j.entries) := by
  rw [answers, Amqp.methods, Act.methods, acts, List.filter_flatMap, List.filterMap_filterMap]
  induction j.entries with
  | nil => rfl
  | cons e entries ih =>
    rw [List.flatMap_cons, ih, filter_send, List.filterMap_cons]
    cases e.act?.bind Act.method? <;> rfl

end Amqp

/-! ### Dockets -/

namespace Docket

variable {D : Docket}

/-- All that was done about deliveries, in order. -/
def acts (D : Docket) : List Act :=
  D.closed.flatMap (·.acts) ++ D.current?.toList.flatMap (·.acts)

theorem acts_take (d : Delivery) (h : D.current? = none) : (D.take d).acts = D.acts := by
  rw [acts, acts, h]
  rfl

theorem acts_advance {a : Account} (l : List Act) (stage : Stage) (h : D.current? = some a) :
    (D.advance l stage).acts = D.acts ++ l := by
  by_cases hfinished : ∃ outcome, stage = .finished outcome
  · obtain ⟨outcome, rfl⟩ := hfinished
    have hcurrent : (D.advance l (.finished outcome)).current? = none := rfl
    simp only [acts, D.closed_advance_finished l outcome h, hcurrent, h, Option.toList_none,
      Option.toList_some, List.flatMap_append, List.flatMap_singleton, List.flatMap_nil,
      List.append_nil, List.append_assoc]
  · rw [D.advance_eq_add l fun outcome heq => hfinished ⟨outcome, heq⟩]
    simp only [acts, add, h, Option.map_some, Option.toList_some, List.flatMap_singleton,
      List.append_assoc]

end Docket

/-- A broker takes every receipt for the delivery. -/
def Delivery.IsOpen (d : Delivery) : Prop := ∀ receipt, d.refusal receipt = none

/-- The call that settles a delivery sends the answer. -/
theorem ReceiptCall.Settles.methods_eq {call : ReceiptCall} {d : Delivery} {outcome : Outcome}
    (h : call.Settles d outcome) (ho : d.IsOpen) :
    Act.methods [.settle call] = [.answer d.tag outcome] := by
  have hok : call.answer = .ok () := h.answer_eq_ok_iff.2 (ho call.receipt)
  obtain ⟨tag, receipt, answer⟩ := call
  obtain rfl : answer = .ok () := hok
  rw [← h.tag_eq, ← Method.ofReceipt_eq_answer tag h.takes]
  rfl

/-- One method is sent about a delivery that came to an outcome: the answer. -/
theorem Case.Fits.methods_eq {w : Worker σ} {c : Case} (h : c.Fits w) (ho : c.delivery.IsOpen) :
    Act.methods c.acts = [.answer c.delivery.tag c.outcome] := by
  obtain ⟨before, call, hacts, hcall, hbefore, -⟩ := h.settledOnce.exists_eq_append
  rw [hacts, Act.methods_append, Act.methods_eq_nil hbefore, List.nil_append, hcall.methods_eq ho]

/-- Nothing has been sent yet about a delivery in flight. -/
theorem Loop.Files.methods_current {w : Worker σ} {entries : List Entry} {loop : Loop}
    (h : loop.Files w entries) :
    Act.methods ((docket entries).current?.toList.flatMap (·.acts)) = [] := by
  cases hstage : loop.phase.stage? with
  | none =>
    rw [h.idle hstage]
    rfl
  | some stage =>
    obtain ⟨a, ha, hfits⟩ := h.busy stage hstage
    have hopen : ∀ outcome, stage ≠ .finished outcome := by
      rintro outcome rfl
      rcases h.isFinal_or_broken hstage with hfinal | ⟨text, htext⟩
      · cases hfinal
      · cases htext
    rw [ha, Option.toList_some, List.flatMap_singleton]
    exact Act.methods_eq_nil (actions_eq_nil_of_fits hfits hopen)

theorem Loop.Files.methods_docket {w : Worker σ} {entries : List Entry} {loop : Loop}
    (h : loop.Files w entries) (ho : ∀ d ∈ deliveries entries, d.IsOpen) :
    Act.methods (docket entries).acts =
      (docket entries).closed.map fun c => .answer c.delivery.tag c.outcome := by
  have hmem : ∀ c ∈ (docket entries).closed, c.delivery ∈ deliveries entries := by
    intro c hc
    rw [← h.deliveries_eq]
    exact List.mem_append_left _ (List.mem_map_of_mem hc)
  have hone : ∀ c ∈ (docket entries).closed,
      Act.methods c.acts = [.answer c.delivery.tag c.outcome] :=
    fun c hc => (h.fits c hc).methods_eq (ho _ (hmem c hc))
  rw [Docket.acts, Act.methods_append, h.methods_current, List.append_nil, Act.methods,
    List.filterMap_flatMap, List.map_eq_flatMap, List.flatMap_def, List.flatMap_def]
  exact congrArg List.flatten (List.map_congr_left hone)

/-! ### Whenever a delivery is taken -/

/-- Whenever a delivery was taken, this held of what had been written before. -/
def AtTakes (P : List Entry → Prop) (entries : List Entry) : Prop :=
  ∀ before d after, entries = before ++ .received d :: after → P before

namespace AtTakes

variable {P : List Entry → Prop} {entries new : List Entry}

theorem append (h : AtTakes P entries) (hnew : deliveries new = []) : AtTakes P (entries ++ new) := by
  intro before d after heq
  rcases exists_of_append_eq heq with ⟨more, hentries⟩ | ⟨more, -, rfl⟩
  · exact h before d more hentries
  · rw [deliveries_append] at hnew
    cases (List.append_eq_nil_iff.1 hnew).2

theorem take (h : AtTakes P entries) (hp : P entries) (d : Delivery) :
    AtTakes P (entries ++ [.received d]) := by
  intro before d' after heq
  rcases exists_of_append_eq heq with ⟨more, hentries⟩ | ⟨more, rfl, hnew⟩
  · exact h before d' more hentries
  · cases more with
    | nil => rwa [List.append_nil]
    | cons e more => cases (List.append_eq_nil_iff.1 (List.cons.inj hnew).2.symm).2

end AtTakes

/-! ### What every step keeps -/

/-- What has been sent so far names the tags of the deliveries that were handed out so far. -/
def AllAnswered (entries : List Entry) : Prop :=
  (Act.methods (acts entries)).filterMap Method.tag? = (deliveries entries).map (·.tag)

/-- What holds of a loop and its source, once the journal has the given entries, if the source had
the queue in stock at first. -/
structure Answering (w : Worker σ) (queue : List Delivery) (source : Source) (loop : Loop)
    (entries : List Entry) : Prop where
  files : loop.Files w entries
  stock_eq : deliveries entries ++ source.stock = queue
  acts_eq : acts entries = (docket entries).acts
  paced : AtTakes AllAnswered entries

section Steps

variable {w : Worker σ} {queue : List Delivery} {source source' : Source} {loop loop' : Loop}
  {entries new : List Entry}

theorem answering_start (w : Worker σ) (source : Source) :
    Answering w source.stock source {} [] where
  files := files_start w
  stock_eq := rfl
  acts_eq := rfl
  paced _ _ _ heq :=
    absurd heq.symm (List.append_ne_nil_of_right_ne_nil _ (List.cons_ne_nil _ _))

namespace Answering

variable (h : Answering w queue source loop entries)

include h

theorem isOpen (ho : ∀ d ∈ queue, d.IsOpen) : ∀ d ∈ deliveries entries, d.IsOpen := by
  intro d hd
  refine ho d ?_
  rw [← h.stock_eq]
  exact List.mem_append_left _ hd

/-- Each case has sent its answer, and nothing else has been sent. -/
theorem methods_eq (ho : ∀ d ∈ queue, d.IsOpen) :
    Act.methods (acts entries) =
      (docket entries).closed.map fun c => .answer c.delivery.tag c.outcome := by
  rw [h.acts_eq, h.files.methods_docket (h.isOpen ho)]

/-- While no delivery is in flight, all have been answered. -/
theorem allAnswered (ho : ∀ d ∈ queue, d.IsOpen) (hp : loop.phase.stage? = none) :
    AllAnswered entries := by
  rw [AllAnswered, h.methods_eq ho, Method.filterMap_tag?_answer,
    ← h.files.map_delivery_closed hp, List.map_map]
  rfl

theorem take (ho : ∀ d ∈ queue, d.IsOpen) (hp : loop.phase.stage? = none) {d : Delivery}
    (hs : d :: source'.stock = source.stock) :
    Answering w queue source' { loop with phase := .working (.received d) }
      (entries ++ [.received d]) where
  files := h.files.take hp d
  stock_eq := by
    rw [deliveries_append, List.append_assoc, ← h.stock_eq, ← hs]
    rfl
  acts_eq := by
    have hdocket : docket (entries ++ [.received d]) = (docket entries).take d :=
      docket_append entries _
    rw [hdocket, Docket.acts_take d (h.files.idle hp), acts_append, h.acts_eq]
    exact List.append_nil _
  paced := h.paced.take (h.allAnswered ho hp) d

theorem work {stage : Stage} (hp : loop.phase = .working stage) (world : World σ) :
    Answering w queue source (loop.afterStage (w.step world stage).stage)
      (entries ++ (w.step world stage).entries) := by
  have hnone := w.deliveries_step world stage
  obtain ⟨a, ha, -⟩ := h.files.busy stage (by rw [hp]; rfl)
  refine ⟨h.files.work hp world, ?_, ?_, h.paced.append hnone⟩
  · rw [deliveries_append, hnone, List.append_nil]
    exact h.stock_eq
  · rw [h.files.docket_work hp world, Docket.acts_advance _ _ ha, acts_append, h.acts_eq]

/-- Entries that tell of no delivery answer none. -/
theorem aside (ha : ∀ e ∈ new, e.isAside = true) (hs : source'.stock = source.stock)
    (hp : loop'.phase = loop.phase ∨ loop.phase.stage? = none ∧ loop'.phase.stage? = none) :
    Answering w queue source' loop' (entries ++ new) := by
  obtain ⟨hfold, hnone⟩ := (docket entries).foldl_enter_aside ha
  have hacts : acts new = [] := by
    refine List.filterMap_eq_nil_iff.2 fun e he => ?_
    have haside := ha e he
    cases e with
    | logged _ _ | streamFailed _ | stopAsked | abandoned => rfl
    | _ => cases haside
  refine ⟨h.files.stay ha hp, ?_, ?_, h.paced.append hnone⟩
  · rw [deliveries_append, hnone, List.append_nil, hs]
    exact h.stock_eq
  · rw [docket_append, hfold, acts_append, hacts, List.append_nil, h.acts_eq]

/-- A step of the loop keeps it, whatever its source gives. -/
theorem step (ho : ∀ d ∈ queue, d.IsOpen) (world : World σ) :
    Answering w queue (loop.step w world source).source (loop.step w world source).loop
      (entries ++ (loop.step w world source).entries) := by
  have hdeed : loop.Deed w world source (loop.step w world source) := Loop.deed_step
  have hstock : deliveries (loop.step w world source).entries ++
      (loop.step w world source).source.stock = source.stock := Loop.stock_step
  generalize loop.step w world source = progress at hdeed hstock ⊢
  cases hdeed with
  | take hp => exact h.take ho hp hstock
  | work hp => exact h.work hp world
  | stay ha hp =>
    rw [((docket entries).foldl_enter_aside ha).2] at hstock
    exact h.aside ha hstock hp

end Answering

/-! ### Runs -/

variable {v : Service σ} {s : ServiceState σ}

theorem answering_fire (h : Answering v.worker queue s.source s.loop entries)
    (ho : ∀ d ∈ queue, d.IsOpen) (p : Party) (first : Glance) :
    Answering v.worker queue (v.fire s p first).1.source (v.fire s p first).1.loop
      (entries ++ (v.fire s p first).2) := by
  cases p with
  | loop =>
    simp only [Service.fire, Service.loopStep]
    split
    · exact h.aside (List.forall_mem_nil _) rfl (.inl rfl)
    · exact h.step ho s.world
  | coordinator =>
    let view := s.loop.view s.world
    exact h.aside (isAside_coordinator v.coordinator first view s.source s.phase)
      (Coordinator.stock_step v.coordinator first view s.source s.phase) (.inl rfl)

/-- What holds of a run of a service, once it has gone so far. -/
def ServiceRun.Answers (w : Worker σ) (queue : List Delivery) (run : ServiceRun σ) : Prop :=
  Answering w queue run.state.source run.state.loop run.journal.entries

theorem answers_follow {run : ServiceRun σ} (event : Service.Event)
    (h : run.Answers v.worker queue) (ho : ∀ d ∈ queue, d.IsOpen) :
    (run.follow v event).Answers v.worker queue := by
  cases event with
  | fire p first =>
    unfold ServiceRun.Answers
    simp only [ServiceRun.follow, Journal.entries_append, Journal.entries_stamp]
    exact answering_fire h ho p first
  | cancel => exact h
  | elapse time => exact h

theorem answers_foldl {run : ServiceRun σ} (events : List Service.Event)
    (h : run.Answers v.worker queue) (ho : ∀ d ∈ queue, d.IsOpen) :
    (events.foldl (ServiceRun.follow v) run).Answers v.worker queue := by
  induction events generalizing run with
  | nil => exact h
  | cons event events ih => exact ih (answers_follow event h ho)

theorem answering_settle
    (h : Answering v.worker queue s.source s.loop entries) :
    Answering v.worker queue (v.settle s).source (v.settle s).loop
      entries := by
  unfold Service.settle
  split
  · exact h
  · split
    · exact h
    · exact h

/-- The run on one thread keeps it, too. -/
theorem answering_run
    (h : Answering v.worker queue s.source s.loop entries)
    (ho : ∀ d ∈ queue, d.IsOpen) :
    Answering v.worker queue (v.run s).state.source (v.run s).state.loop
      (entries ++ (v.run s).journal.entries) := by
  fun_induction Service.run v s generalizing entries with
  | case1 s s' =>
    rw [show Journal.entries [] = [] from rfl, List.append_nil]
    exact answering_settle h
  | case2 s s' p hnext fired rest =>
    simp only [Journal.entries_append, Journal.entries_stamp, ← List.append_assoc]
    rename_i ih
    exact ih (answering_fire (answering_settle h) ho p .loop)

/-- A session that goes on until shutdown keeps it. -/
theorem answers_serve {announcement : List Entry} (ho : ∀ d ∈ queue, d.IsOpen)
    (ha : ∀ e ∈ announcement, e.isAside = true)
    (h : Answering v.worker queue s.source s.loop []) :
    (serve v s .shutdown announcement).Answers v.worker queue := by
  have hfirst := answering_run h ho
  rw [List.nil_append] at hfirst
  unfold serve
  simp only
  split
  · exact hfirst
  · unfold ServiceRun.Answers
    simp only [Journal.entries_append, Journal.entries_stamp]
    exact answering_run (s := Ending.shutdown.apply (v.run s).state)
      (hfirst.aside ha rfl (.inl rfl)) ho

theorem answering_play_loop {run : LoopRun σ} (events : List Worker.Event)
    (h : Answering w queue run.source run.loop run.entries)
    (ho : ∀ d ∈ queue, d.IsOpen) :
    Answering w queue (run.play w events).source (run.play w events).loop
      (run.play w events).entries := by
  induction events generalizing run with
  | nil => exact h
  | cons event events ih =>
    refine ih ?_
    cases event with
    | step =>
      rw [entries_follow_step]
      exact h.step ho run.world
    | cancel => exact h
    | elapse time => exact h

end Steps

/-! ### Messages -/

namespace Amqp

/-- A message, sent under a delivery tag. -/
structure Sent where
  tag : Nat
  message : Message

namespace Sent

/-- The message as the worker gets it. -/
def delivery (s : Sent) (consumerTag : String) (closing : ProtocolError) : Delivery :=
  s.message.delivery s.tag consumerTag closing

/-- A delivery shows the message as it was sent, and under the same tag. -/
structure ShownBy (s : Sent) (d : Delivery) : Prop where
  tag_eq : d.tag = s.tag
  payload_eq : d.payload = s.message.payload
  headers_eq : d.headers = s.message.headers.headers
  messageId_eq : d.properties.messageId = s.message.messageId
  correlationId_eq : d.properties.correlationId = s.message.correlationId
  exchange_eq : d.properties.exchange = s.message.exchange
  routingKey_eq : d.properties.routingKey = s.message.routingKey

variable (s : Sent) (consumerTag : String) (closing : ProtocolError)

theorem shownBy_delivery : s.ShownBy (s.delivery consumerTag closing) :=
  ⟨rfl, rfl, rfl, rfl, rfl, rfl, rfl⟩

/-- The channel takes answers as long as it is open. -/
theorem isOpen_delivery (h : s.message.closesChannel = false) :
    (s.delivery consumerTag closing).IsOpen := by
  intro receipt
  simp only [delivery, Message.delivery, h, Bool.false_eq_true, if_false]

end Sent

namespace Broker

/-- What a broker sends over a channel. -/
def sent (b : Broker) : List Sent := ((reachable b.messages).zipIdx 1).map fun (m, tag) => ⟨tag, m⟩

variable {b : Broker}

/-- What a broker sends is what its queue has in stock. -/
theorem stock_source (h : b.closesChannel = false) (consumerTag : String) :
    (b.source consumerTag).stock = b.sent.map (·.delivery consumerTag b.reason) := by
  simp only [source, h, Bool.false_eq_true, if_false, Source.stock, sent, List.filterMap_map,
    List.map_map]
  exact congrFun List.filterMap_eq_map _

theorem mem_of_mem_reachable {m : Message} {messages : List Message} (h : m ∈ reachable messages) :
    m ∈ messages := by
  induction messages with
  | nil => cases h
  | cons m' rest ih =>
    unfold reachable at h
    split at h
    · rw [List.mem_singleton.1 h]
      exact List.mem_cons_self ..
    · rcases List.mem_cons.1 h with rfl | hrest
      · exact List.mem_cons_self ..
      · exact List.mem_cons_of_mem _ (ih hrest)

theorem closesChannel_sent (h : b.closesChannel = false) :
    ∀ s ∈ b.sent, s.message.closesChannel = false := by
  intro s hs
  obtain ⟨⟨m, tag⟩, hm, rfl⟩ := List.mem_map.1 hs
  have hmem : m ∈ b.messages := mem_of_mem_reachable (List.fst_mem_of_mem_zipIdx hm)
  exact Bool.eq_false_iff.2 (List.any_eq_false.1 h m hmem)

end Broker

/-- The journal tells of a session in which these messages were sent: the worker takes them one by
one, and answers each. -/
structure Answered (w : Worker σ) (consumerTag : String) (stopRefused : Bool) (sent : List Sent)
    (j : Journal) : Prop where
  /-- The deliveries handed out are the first messages, in order. -/
  shown : ∀ (i : Nat) (d : Delivery), (deliveries j.entries)[i]? = some d →
    ∃ s : Sent, sent[i]? = some s ∧ s.ShownBy d
  /-- Each of them has its case, but for the one in flight. -/
  deliveries_eq : (docket j.entries).deliveries = deliveries j.entries
  /-- What was done about a delivery led to its outcome. -/
  fits : ∀ c ∈ (docket j.entries).closed, c.Fits w
  /-- Each case is answered once, in order, under its own tag and as its outcome says. -/
  answers_eq : answers consumerTag stopRefused j =
    (docket j.entries).closed.map fun c => .answer c.delivery.tag c.outcome
  /-- Whenever a delivery is taken, all before it have been answered. -/
  paced : ∀ before s after, j = before ++ s :: after → s.entry.delivery?.isSome = true →
    (answers consumerTag stopRefused before).filterMap Method.tag? =
      (deliveries before.entries).map (·.tag)

theorem answered_of_answering {w : Worker σ} {consumerTag : String} {stopRefused : Bool}
    {closing : ProtocolError} {sent : List Sent} {source : Source} {loop : Loop} {j : Journal}
    (ho : ∀ d ∈ sent.map (·.delivery consumerTag closing), d.IsOpen)
    (h : Answering w (sent.map (·.delivery consumerTag closing)) source loop j.entries) :
    Answered w consumerTag stopRefused sent j where
  shown i d hd := by
    have hsent : (sent.map (·.delivery consumerTag closing))[i]? = some d := by
      rw [← h.stock_eq, List.getElem?_append_left (List.getElem?_eq_some_iff.1 hd).1]
      exact hd
    rw [List.getElem?_map] at hsent
    obtain ⟨s, hs, rfl⟩ := Option.map_eq_some_iff.1 hsent
    exact ⟨s, hs, s.shownBy_delivery consumerTag closing⟩
  deliveries_eq := h.files.deliveries_eq
  fits := h.files.fits
  answers_eq := (answers_eq consumerTag stopRefused j).trans (h.methods_eq ho)
  paced before s after hj hs := by
    obtain ⟨time, entry⟩ := s
    have hentries : j.entries = before.entries ++ entry :: Journal.entries after := by
      rw [hj, Journal.entries_append]
      rfl
    obtain ⟨d, hd⟩ := Option.isSome_iff_exists.1 hs
    obtain rfl := Entry.eq_received hd
    rw [answers_eq]
    exact h.paced before.entries d _ hentries

/-- **Every delivery is answered once.**  A source has messages in stock, each under its tag, and the
channel stays open.  Then in whatever order things happen, and in a session that goes on until
shutdown, the worker takes the messages one by one and answers each as its outcome says, before it
takes the next one.  A loop that is left to itself answers them all, unless a call of the handler
breaks down. -/
theorem answered_play (v : Service σ) (world : World σ) (source : Source) (consumerTag : String)
    (closing : ProtocolError) (stopRefused : Bool) (sent : List Sent)
    (hsource : source.stock = sent.map (·.delivery consumerTag closing))
    (hup : ∀ s ∈ sent, s.message.closesChannel = false) :
    let start : ServiceState σ := { world, source }
    (∀ events, Answered v.worker consumerTag stopRefused sent (v.play start events).journal) ∧
    (∀ announcement : List Entry, (∀ e ∈ announcement, e.isAside = true) →
      Answered v.worker consumerTag stopRefused sent
        (serve v start .shutdown announcement).journal) ∧
    (source.isStopped = false →
      let run := LoopRun.toEnd v.worker { world, source }
      Answered v.worker consumerTag stopRefused sent run.journal ∧
        ((∃ text a, run.loop.phase = .failed text ∧ run.docket.current? = some a ∧
            .panicked text ∈ Act.results a.acts) ∨
          (answers consumerTag stopRefused run.journal).filterMap Method.tag? =
            sent.map (·.tag))) := by
  intro start
  have ho : ∀ d ∈ sent.map (·.delivery consumerTag closing), d.IsOpen := by
    intro d hd
    obtain ⟨s, hs, rfl⟩ := List.mem_map.1 hd
    exact s.isOpen_delivery consumerTag closing (hup s hs)
  have hstart := answering_start v.worker source
  rw [hsource] at hstart
  refine ⟨?_, ?_, ?_⟩
  · intro events
    have hplay : (v.play start events).Answers v.worker _ :=
      answers_foldl events hstart ho
    exact answered_of_answering ho hplay
  · intro announcement ha
    exact answered_of_answering ho (answers_serve (s := start) ho ha hstart)
  · intro hs run
    obtain ⟨events, hrun⟩ := exists_play_eq_toEnd_loop v.worker { world, source }
    have hanswered : Answered v.worker consumerTag stopRefused sent run.journal := by
      rw [show run = _ from hrun]
      exact answered_of_answering ho (answering_play_loop events hstart ho)
    refine ⟨hanswered, ?_⟩
    rcases stock_toEnd v.worker world source hs with hfailed | ⟨hclosed, -⟩
    · exact Or.inl hfailed
    · refine Or.inr ?_
      have htags := congrArg (List.map Delivery.tag) (hclosed.trans hsource)
      rw [List.map_map, List.map_map] at htags
      rw [hanswered.answers_eq, Method.filterMap_tag?_answer]
      exact htags

/-- A message whose call succeeds, and one that holds no command: each is answered under its own
tag. -/
theorem answered_play_both :
    let v : Service Handler.Script := ⟨.scripted none, ⟨"worker-1", 10000⟩⟩
    let b : Broker := { messages := [{ payload := [123, 125] }, { payload := [] }] }
    let start : ServiceState Handler.Script :=
      { world := { memory := ⟨some 0, []⟩ }, source := b.source "consumer" }
    let events : List Service.Event := List.replicate 4 (.fire .loop)
    let more : List Service.Event := List.replicate 8 (.fire .loop)
    let run := v.play start (events ++ more)
    start.source.stock = b.sent.map (·.delivery "consumer" b.reason) ∧
      (∀ s ∈ b.sent, s.message.closesChannel = false) ∧
      Answered v.worker "consumer" false b.sent run.journal ∧
      answers "consumer" false run.journal = [.basicAck 1 false, .basicNack 2 false false] := by
  intro v b start events more run
  have hstock : start.source.stock = b.sent.map (·.delivery "consumer" b.reason) :=
    Broker.stock_source rfl "consumer"
  have hup : ∀ s ∈ b.sent, s.message.closesChannel = false := Broker.closesChannel_sent rfl
  obtain ⟨hplay, -, -⟩ := answered_play v start.world start.source "consumer" b.reason false b.sent
    hstock hup
  have hanswered : Answered v.worker "consumer" false b.sent run.journal :=
    hplay (events ++ more)
  refine ⟨hstock, hup, hanswered, ?_⟩
  let taken := v.play start (List.replicate 3 (.fire .loop))
  let d : Delivery := Message.delivery { payload := [123, 125] } 1 "consumer" b.reason
  have hreceived := follow_received v (d := d) taken decode_refused rfl rfl
  have hrun : run = more.foldl (ServiceRun.follow v) (taken.follow v (.fire .loop)) :=
    v.play_append start events more
  rw [hrun, hreceived]
  decide +kernel

/-- A loop that broke down does nothing more. -/
theorem entries_play_of_failed {w : Worker σ} {run : LoopRun σ} {text : String}
    (events : List Worker.Event) (h : run.loop.phase = .failed text) :
    (run.play w events).entries = run.entries := by
  induction events generalizing run with
  | nil => rfl
  | cons event events ih =>
    cases event with
    | step =>
      have hstep : run.loop.step w run.world run.source = ⟨run.world, run.source, run.loop, []⟩ := by
        rw [Loop.step, h]
      have hloop : (run.follow w .step).loop = run.loop := congrArg LoopProgress.loop hstep
      refine (ih (by rw [hloop, h])).trans ?_
      rw [entries_follow_step, hstep, List.append_nil]
    | cancel => exact ih h
    | elapse time => exact ih h

/-- A call of a handler that breaks down ends the loop, and its delivery is never answered. -/
theorem answers_play_ne :
    let w : Worker Handler.Replies :=
      { identity := { workerId := "worker-1" }, queue := "notifications", handler := .stepwise,
        tokens := fun _ => "token" }
    let b : Broker := { messages := [{ payload := [123, 125] }] }
    let start : LoopRun Handler.Replies :=
      { world := { memory := ⟨{ result := .panicked "boom" }, []⟩ }, source := b.source "consumer" }
    ∃ events, let run := start.play w events
      (deliveries run.entries).map (·.tag) = b.sent.map (·.tag) ∧
        run.loop.phase = .failed "boom" ∧
        ∀ more, answers "consumer" false (run.play w more).journal = [] := by
  intro w b start
  let taken := start.play w [.step, .step, .step]
  let d : Delivery := Message.delivery { payload := [123, 125] } 1 "consumer" b.reason
  have hreceived := LoopRun.follow_received w (d := d) taken decode_refused rfl
  let run := start.play w [.step, .step, .step, .step, .step, .step]
  have hrun : run = LoopRun.play w (taken.follow w .step) [.step, .step] := rfl
  rw [hreceived] at hrun
  have hphase : run.loop.phase = .failed "boom" := by rw [hrun]; rfl
  refine ⟨[.step, .step, .step, .step, .step, .step], ?_, hphase, ?_⟩
  · show (deliveries run.entries).map (·.tag) = _
    rw [hrun]
    rfl
  · intro more
    have hentries : (run.play w more).entries = run.entries := entries_play_of_failed more hphase
    have hmethods : Act.methods (acts run.entries) = [] := by
      rw [hrun]
      rfl
    rw [answers_eq]
    exact (congrArg (fun entries => Act.methods (acts entries)) hentries).trans hmethods

end Amqp

end Courier
