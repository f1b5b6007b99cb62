import Courier.Proofs.Journal.Acts

/-!
# The ledger of deliveries

A journal of a service tells of many deliveries, one after another.  Its `ledger` has an `Account`
for each of them, with the acts between the moment at which it was handed out and the moment at
which the next one was.

* `Ledger.foldl_enter`: entries that hand out no delivery only add acts to the last account.
* `map_delivery_accounts`: there is one account for each delivery handed out, in order.
* `Worker.deliveries_step`: the work on a delivery hands out no other one.
-/

namespace Courier

/-- The delivery that an entry hands out. -/
def Entry.delivery? : Entry → Option Delivery
  | .received d => some d
  | _ => none

/-- The deliveries that were handed out, in order. -/
def deliveries (entries : List Entry) : List Delivery := entries.filterMap Entry.delivery?

/-- A delivery, and what was done about it. -/
structure Account where
  delivery : Delivery
  acts : List Act

/-- The accounts of all deliveries handed out. -/
structure Ledger where
  /-- The accounts of all deliveries but the last. -/
  closed : List Account := []
  /-- The account of the last delivery. -/
  last? : Option Account := none

namespace Ledger

/-- All accounts, in order. -/
def accounts (l : Ledger) : List Account := l.closed ++ l.last?.toList

/-- A delivery is handed out. -/
def take (l : Ledger) (d : Delivery) : Ledger := ⟨l.accounts, some ⟨d, []⟩⟩

/-- Something is done about the last delivery. -/
def add (l : Ledger) (more : List Act) : Ledger :=
  { l with last? := l.last?.map fun a => { a with acts := a.acts ++ more } }

/-- The ledger after one more entry of the journal. -/
def enter (l : Ledger) : Entry → Ledger
  | .received d => l.take d
  | entry => l.add entry.act?.toList

end Ledger

/-- The ledger of a journal. -/
def ledger (entries : List Entry) : Ledger := entries.foldl Ledger.enter {}

/-! ### Entries and accounts -/

theorem Entry.eq_received {e : Entry} {d : Delivery} (h : e.delivery? = some d) :
    e = .received d := by
  cases e with
  | received d' => rw [Option.some.inj h]
  | _ => cases h

@[simp] theorem deliveries_append (l l' : List Entry) :
    deliveries (l ++ l') = deliveries l ++ deliveries l' :=
  List.filterMap_append

namespace Ledger

@[simp] theorem add_nil (l : Ledger) : l.add [] = l := by
  obtain ⟨closed, _ | ⟨d, acts⟩⟩ := l
  · rfl
  · simp only [add, Option.map_some, List.append_nil]

theorem add_add (l : Ledger) (more more' : List Act) :
    (l.add more).add more' = l.add (more ++ more') := by
  obtain ⟨closed, _ | ⟨d, acts⟩⟩ := l
  · rfl
  · simp only [add, Option.map_some, List.append_assoc]

theorem enter_of_delivery?_eq_none (l : Ledger) {entry : Entry} (h : entry.delivery? = none) :
    l.enter entry = l.add entry.act?.toList := by
  cases entry
  case received d => cases h
  all_goals rfl

/-- Entries that hand out no delivery add their acts to the last account. -/
theorem foldl_enter (l : Ledger) {entries : List Entry} (h : deliveries entries = []) :
    entries.foldl enter l = l.add (acts entries) := by
  induction entries generalizing l with
  | nil => rw [List.foldl_nil, acts_nil, add_nil]
  | cons entry entries ih =>
    obtain ⟨hentry, hentries⟩ : entry.delivery? = none ∧ deliveries entries = [] := by
      rw [deliveries, List.filterMap_eq_nil_iff] at h
      exact ⟨h entry (List.mem_cons_self ..),
        List.filterMap_eq_nil_iff.2 fun e he => h e (List.mem_cons_of_mem _ he)⟩
    rw [List.foldl_cons, enter_of_delivery?_eq_none l hentry, ih _ hentries, add_add, ← acts_cons]

theorem map_delivery_accounts_add (l : Ledger) (more : List Act) :
    (l.add more).accounts.map (·.delivery) = l.accounts.map (·.delivery) := by
  obtain ⟨closed, _ | a⟩ := l
  · rfl
  · simp only [add, accounts, Option.map_some, Option.toList_some, List.map_append, List.map_cons,
      List.map_nil]

theorem map_delivery_accounts_take (l : Ledger) (d : Delivery) :
    (l.take d).accounts.map (·.delivery) = l.accounts.map (·.delivery) ++ [d] :=
  List.map_append

end Ledger

theorem ledger_append {l l' : List Entry} (h : deliveries l' = []) :
    ledger (l ++ l') = (ledger l).add (acts l') := by
  rw [ledger, List.foldl_append, Ledger.foldl_enter _ h, ← ledger]

theorem ledger_concat_received (l : List Entry) (d : Delivery) :
    ledger (l ++ [.received d]) = (ledger l).take d :=
  List.foldl_append

/-- There is one account for each delivery handed out, in order. -/
theorem map_delivery_accounts (entries : List Entry) :
    (ledger entries).accounts.map (·.delivery) = deliveries entries := by
  suffices h : ∀ l : Ledger, (entries.foldl Ledger.enter l).accounts.map (·.delivery) =
      l.accounts.map (·.delivery) ++ deliveries entries from h {}
  induction entries with
  | nil => exact fun l => (List.append_nil _).symm
  | cons entry entries ih =>
    intro l
    rw [List.foldl_cons, ih]
    cases hentry : entry.delivery? with
    | none =>
      rw [l.enter_of_delivery?_eq_none hentry, Ledger.map_delivery_accounts_add, deliveries,
        deliveries, List.filterMap_cons_none hentry]
    | some d =>
      obtain rfl := Entry.eq_received hentry
      rw [Ledger.enter, Ledger.map_delivery_accounts_take, List.append_assoc]
      rfl

/-! ### The work on a delivery hands out no other one -/

/-- The outcome that an entry tells of. -/
def Entry.outcome? : Entry → Option Outcome
  | .ended outcome => some outcome
  | _ => none

/-- The entry tells of the work on one delivery, and of nothing around it. -/
def Entry.isInner : Entry → Bool
  | .received _ | .streamFailed _ | .stopAsked | .abandoned => false
  | _ => true

/-- The entry tells of the work on one delivery, before its end. -/
def Entry.isMidway (e : Entry) : Bool := e.isInner && e.outcome?.isNone

/-- Log records stand inside the work. -/
@[simp] theorem isMidway_logged (span : Option SpanName) (records : List LogRecord) :
    (records.map (Entry.logged span)).all Entry.isMidway = true := by
  rw [List.all_map, List.all_eq_true]
  exact fun _ _ => rfl

namespace Worker

variable {σ : Type} (w : Worker σ)

@[simp] theorem isMidway_openHandle (d : Delivery) :
    (w.openHandle d).all Entry.isMidway = true := by
  unfold openHandle
  cases nonEmpty d.properties.messageId <;> rfl

theorem isMidway_conclude (world : World σ) (job : Job) (outcome : Outcome)
    (attempt : Option UInt32) {entries : List Entry} (h : entries.all Entry.isMidway = true) :
    (w.conclude world job outcome attempt entries).entries.all Entry.isMidway = true := by
  rw [conclude, List.all_append, h]
  cases outcome <;> rfl

theorem isMidway_receive (world : World σ) (d : Delivery) :
    (w.receive world d).entries.all Entry.isMidway = true := by
  unfold receive
  split
  · rw [reject, List.all_append, isMidway_openHandle]
    rfl
  · rw [accept, List.all_append, List.all_append, isMidway_openHandle]
    cases (w.identify world d _).2 <;> rfl

theorem isMidway_attempt (world : World σ) (job : Job) (n : UInt32) :
    (w.attempt world job n).entries.all Entry.isMidway = true := by
  unfold attempt
  split
  · exact w.isMidway_conclude world job _ none rfl
  · rw [call, List.all_append, isMidway_logged]
    rfl

theorem isMidway_conclusion (world : World σ) (job : Job) (n : UInt32) (result : CallResult) :
    (w.conclusion world job n result).entries.all Entry.isMidway = true := by
  cases result with
  | succeeded => exact w.isMidway_conclude world job _ _ rfl
  | failed e =>
    simp only [conclusion, retry]
    split
    · exact w.isMidway_conclude world job _ none rfl
    · rfl
  | panicked text => rfl

theorem isMidway_wake (world : World σ) (job : Job) (n : UInt32) :
    (w.wake world job n).entries.all Entry.isMidway = true := by
  unfold wake
  split
  · exact w.isMidway_conclude world job _ none rfl
  · rfl

/-- Before the terminal action no step writes of the end, or of anything around the work. -/
theorem isMidway_step (world : World σ) {stage : Stage} (h : ∀ s, stage ≠ .settling s) :
    (w.step world stage).entries.all Entry.isMidway = true := by
  cases stage with
  | received d => exact w.isMidway_receive world d
  | due job n => exact w.isMidway_attempt world job n
  | calling job n since reply =>
    simp only [step]
    split
    · exact w.isMidway_conclusion world job n reply.result
    · rfl
  | waiting job n until_ =>
    simp only [step]
    split
    · exact w.isMidway_wake world job n
    · rfl
  | settling s => exact absurd rfl (h s)
  | finished outcome => rfl
  | broken text => rfl

/-- The terminal action comes with the end. -/
theorem exists_entries_settle (world : World σ) (s : Settlement) :
    ∃ front : List Entry, (w.settle world s).entries = front ++ [.ended s.outcome] ∧
      front.all Entry.isMidway = true := by
  simp only [settle]
  refine ⟨_, (List.append_assoc _ [Entry.closed .handle] [.ended s.outcome]).symm, ?_⟩
  simp only [List.all_append]
  cases s.attempt <;> cases (s.delivery.settle s.outcome.disposition).answer <;> rfl

/-- A step of the work on a delivery writes of nothing else. -/
theorem isInner_step (world : World σ) (stage : Stage) :
    (w.step world stage).entries.all Entry.isInner = true := by
  have hmidway {l : List Entry} (h : l.all Entry.isMidway = true) : l.all Entry.isInner = true := by
    rw [List.all_eq_true] at h ⊢
    intro e he
    exact (Bool.and_eq_true_iff.1 (h e he)).1
  by_cases hs : ∃ s, stage = .settling s
  · obtain ⟨s, rfl⟩ := hs
    obtain ⟨front, hentries, hfront⟩ := w.exists_entries_settle world s
    rw [step, hentries, List.all_append, hmidway hfront]
    rfl
  · exact hmidway (w.isMidway_step world fun s heq => hs ⟨s, heq⟩)

/-- What is read off entries, but not off those of the work on a delivery, is not there in a
step. -/
theorem filterMap_step {α : Type} {f : Entry → Option α}
    (hf : ∀ e : Entry, e.isInner = true → f e = none) (world : World σ) (stage : Stage) :
    (w.step world stage).entries.filterMap f = [] := by
  have hinner := List.all_eq_true.1 (w.isInner_step world stage)
  exact List.filterMap_eq_nil_iff.2 fun e he => hf e (hinner e he)

/-- A step of the work on a delivery hands out no other one. -/
theorem deliveries_step (world : World σ) (stage : Stage) :
    deliveries (w.step world stage).entries = [] := by
  refine w.filterMap_step ?_ world stage
  intro e he
  cases e
  case received d => cases he
  all_goals rfl

end Worker

end Courier
