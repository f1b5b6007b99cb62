import Courier.Proofs.Journal.Ledger

/-!
# The docket of deliveries

A ledger has the acts of every delivery; a `docket` says in addition how the work on it ended.  A
delivery that is handed out opens an account, and with its outcome the account is closed as a
`Case`.

* `Docket.foldl_enter`: between the two, entries only add acts to the account.
* `Worker.foldl_enter_step`: a step of the work on a delivery adds its acts, and closes the account
  if it leads to an outcome.
-/

namespace Courier

/-- A delivery, what was done about it, and how it ended. -/
structure Case where
  delivery : Delivery
  acts : List Act
  outcome : Outcome

/-- The cases of the deliveries that came to an outcome, and the account of the one in flight. -/
structure Docket where
  closed : List Case := []
  current? : Option Account := none

/-- The entry begins the work on a delivery, or ends it. -/
def Entry.isBoundary (e : Entry) : Bool := e.delivery?.isSome || e.outcome?.isSome

/-- The entry tells of no delivery. -/
def Entry.isAside : Entry → Bool
  | .logged _ _ | .streamFailed _ | .stopAsked | .abandoned => true
  | _ => false

namespace Docket

/-- A delivery is handed out. -/
def take (D : Docket) (d : Delivery) : Docket := { D with current? := some ⟨d, []⟩ }

/-- Something is done about the delivery in flight. -/
def add (D : Docket) (more : List Act) : Docket :=
  { D with current? := D.current?.map fun a => { a with acts := a.acts ++ more } }

/-- The delivery in flight comes to an outcome. -/
def close (D : Docket) (outcome : Outcome) : Docket where
  closed := D.closed ++ D.current?.toList.map fun a => ⟨a.delivery, a.acts, outcome⟩

/-- The docket after one more entry of the journal. -/
def enter (D : Docket) : Entry → Docket
  | .received d => D.take d
  | .ended outcome => D.close outcome
  | entry => D.add entry.act?.toList

/-- The work on the delivery in flight comes to a stage, through some acts. -/
def advance (D : Docket) (l : List Act) : Stage → Docket
  | .finished outcome => (D.add l).close outcome
  | _ => D.add l

/-- All deliveries, in order. -/
def deliveries (D : Docket) : List Delivery :=
  D.closed.map (·.delivery) ++ D.current?.toList.map (·.delivery)

end Docket

/-- The docket of a journal. -/
def docket (entries : List Entry) : Docket := entries.foldl Docket.enter {}

theorem docket_append (entries new : List Entry) :
    docket (entries ++ new) = new.foldl Docket.enter (docket entries) :=
  List.foldl_append

/-! ### Entries between the beginning and the end -/

namespace Docket

variable (D : Docket)

@[simp] theorem add_nil : D.add [] = D := by
  obtain ⟨closed, _ | ⟨d, acts⟩⟩ := D
  · rfl
  · simp only [add, Option.map_some, List.append_nil]

theorem add_add (more more' : List Act) : (D.add more).add more' = D.add (more ++ more') := by
  obtain ⟨closed, _ | ⟨d, acts⟩⟩ := D
  · rfl
  · simp only [add, Option.map_some, List.append_assoc]

@[simp] theorem deliveries_take (d : Delivery) (h : D.current? = none) :
    (D.take d).deliveries = D.deliveries ++ [d] := by
  simp only [deliveries, take, h, Option.toList_none, List.map_nil, List.append_nil]
  rfl

@[simp] theorem deliveries_add (more : List Act) : (D.add more).deliveries = D.deliveries := by
  obtain ⟨closed, _ | a⟩ := D
  · rfl
  · rfl

@[simp] theorem deliveries_close (outcome : Outcome) :
    (D.close outcome).deliveries = D.deliveries := by
  obtain ⟨closed, _ | a⟩ := D
  · simp only [deliveries, close, Option.toList_none, List.map_nil, List.append_nil]
  · simp only [deliveries, close, Option.toList_some, Option.toList_none, List.map_append,
      List.map_cons, List.map_nil, List.append_nil]

theorem advance_eq_add (l : List Act) {stage : Stage} (h : ∀ outcome, stage ≠ .finished outcome) :
    D.advance l stage = D.add l := by
  cases stage with
  | finished outcome => exact absurd rfl (h outcome)
  | received _ | due _ _ | calling _ _ _ _ | waiting _ _ _ | settling _ | broken _ => rfl

theorem advance_add (l l' : List Act) (stage : Stage) :
    (D.add l).advance l' stage = D.advance (l ++ l') stage := by
  cases stage with
  | finished outcome => rw [advance, advance, add_add]
  | received _ | due _ _ | calling _ _ _ _ | waiting _ _ _ | settling _ | broken _ =>
    exact D.add_add l l'

theorem closed_advance_finished (l : List Act) (outcome : Outcome) {a : Account}
    (h : D.current? = some a) :
    (D.advance l (.finished outcome)).closed =
      D.closed ++ [⟨a.delivery, a.acts ++ l, outcome⟩] := by
  rw [advance, close, add, h]
  rfl

@[simp] theorem deliveries_advance (l : List Act) (stage : Stage) :
    (D.advance l stage).deliveries = D.deliveries := by
  by_cases h : ∃ outcome, stage = .finished outcome
  · obtain ⟨outcome, rfl⟩ := h
    rw [advance, deliveries_close, deliveries_add]
  · rw [D.advance_eq_add l fun outcome heq => h ⟨outcome, heq⟩, deliveries_add]

theorem enter_of_isBoundary {e : Entry} (h : e.isBoundary = false) :
    D.enter e = D.add e.act?.toList := by
  cases e
  case received d => cases h
  case ended outcome => cases h
  all_goals rfl

/-- Between the beginning and the end of the work on a delivery, entries add their acts. -/
theorem foldl_enter {entries : List Entry} (h : ∀ e ∈ entries, e.isBoundary = false) :
    entries.foldl enter D = D.add (acts entries) := by
  induction entries generalizing D with
  | nil => rw [List.foldl_nil, acts_nil, add_nil]
  | cons e entries ih =>
    have he : e.isBoundary = false := h e (List.mem_cons_self ..)
    have hentries : ∀ e' ∈ entries, e'.isBoundary = false :=
      fun e' he' => h e' (List.mem_cons_of_mem _ he')
    rw [List.foldl_cons, D.enter_of_isBoundary he, ih _ hentries, add_add, ← acts_cons]

end Docket

theorem Entry.isBoundary_of_isMidway {e : Entry} (h : e.isMidway = true) :
    e.isBoundary = false := by
  cases e
  case received d => cases h
  case ended outcome => cases h
  all_goals rfl

theorem isBoundary_of_all_isMidway {entries : List Entry} (h : entries.all Entry.isMidway = true) :
    ∀ e ∈ entries, e.isBoundary = false :=
  fun e he => Entry.isBoundary_of_isMidway (List.all_eq_true.1 h e he)

/-- Entries that tell of no delivery change no account, and hand nothing out. -/
theorem Docket.foldl_enter_aside (D : Docket) {entries : List Entry}
    (h : ∀ e ∈ entries, e.isAside = true) :
    entries.foldl enter D = D ∧ Courier.deliveries entries = [] := by
  have hboundary : ∀ e ∈ entries, e.isBoundary = false ∧ e.act? = none ∧ e.delivery? = none := by
    intro e he
    have haside := h e he
    cases e
    case logged span record => exact ⟨rfl, rfl, rfl⟩
    case streamFailed reason => exact ⟨rfl, rfl, rfl⟩
    case stopAsked => exact ⟨rfl, rfl, rfl⟩
    case abandoned => exact ⟨rfl, rfl, rfl⟩
    all_goals cases haside
  have hacts : acts entries = [] :=
    List.filterMap_eq_nil_iff.2 fun e he => (hboundary e he).2.1
  refine ⟨?_, List.filterMap_eq_nil_iff.2 fun e he => (hboundary e he).2.2⟩
  rw [D.foldl_enter fun e he => (hboundary e he).1, hacts, add_nil]

/-! ### The steps of the work on a delivery -/

namespace Worker

variable {σ : Type} (w : Worker σ)

/-- Only the terminal action leads to the end. -/
theorem stage_step_ne_finished (world : World σ) {stage : Stage} (hs : ∀ s, stage ≠ .settling s)
    (hf : stage.isFinal = false) (outcome : Outcome) :
    (w.step world stage).stage ≠ .finished outcome := by
  cases stage with
  | received d =>
    simp only [step, receive]
    split
    · exact fun h => by cases h
    · exact fun h => by cases h
  | due job n =>
    simp only [step, attempt]
    split
    · exact fun h => by cases h
    · exact fun h => by cases h
  | calling job n since reply =>
    simp only [step]
    split
    · cases reply.result with
      | succeeded => exact fun h => by cases h
      | failed e =>
        simp only [conclusion, retry]
        split
        · exact fun h => by cases h
        · exact fun h => by cases h
      | panicked text => exact fun h => by cases h
    · exact fun h => by cases h
  | waiting job n until_ =>
    simp only [step, wake]
    split
    · split
      · exact fun h => by cases h
      · exact fun h => by cases h
    · exact fun h => by cases h
  | settling s => exact absurd rfl (hs s)
  | finished outcome => cases hf
  | broken text => cases hf

/-- A step adds its acts, and closes the account if it leads to an outcome. -/
theorem foldl_enter_step (D : Docket) (world : World σ) {stage : Stage}
    (hf : stage.isFinal = false) :
    (w.step world stage).entries.foldl Docket.enter D =
      D.advance (acts (w.step world stage).entries) (w.step world stage).stage := by
  by_cases hs : ∃ s, stage = .settling s
  · obtain ⟨s, rfl⟩ := hs
    obtain ⟨front, hentries, hfront⟩ := w.exists_entries_settle world s
    have hacts : acts (w.settle world s).entries = acts front := by
      rw [hentries, acts_append]
      exact List.append_nil _
    show (w.settle world s).entries.foldl Docket.enter D =
      D.advance (acts (w.settle world s).entries) (.finished s.outcome)
    rw [hacts, hentries, List.foldl_append, D.foldl_enter (isBoundary_of_all_isMidway hfront)]
    rfl
  · have hs' : ∀ s, stage ≠ .settling s := fun s heq => hs ⟨s, heq⟩
    have hentries := isBoundary_of_all_isMidway (w.isMidway_step world hs')
    have hstage := w.stage_step_ne_finished world hs' hf
    rw [D.foldl_enter hentries, D.advance_eq_add _ hstage]

end Worker

end Courier
