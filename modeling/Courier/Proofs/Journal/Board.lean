import Courier.Proofs.Journal.Acts

/-!
# The board of spans

A `Board` shows the spans of a journal as others see them, without what was recorded on the way: the
spans that are open, innermost first, those that are closed, last first, and beside them the order in
which spans were opened and the number of calls of the handler so far.

* `board_append`: the board of a longer journal follows from that of a shorter one, entry by entry
  (`Board.follow`), so that a step of the worker is looked at by itself.
* `Entry.IsPlaced`: the entry stands among the spans where it belongs, a call in the span of its own
  attempt, a wait in the span of the delivery alone, and so on.
* `isPlaced_of_placed`: where every entry is in its place, each one is in its place on the board of
  all entries before it.
-/

namespace Courier

/-- What others see of a span. -/
structure SpanReport where
  name : SpanName
  /-- How the spans of its delivery hang in a trace. -/
  link : TraceLink
  /-- Does the span lie in another one of ours? -/
  isNested : Bool
  status : SpanStatus
  deriving DecidableEq

/-- A span without its attributes and its count of log records. -/
def Span.report (s : Span) : SpanReport := ⟨s.name, s.link, s.isNested, s.status⟩

/-- The spans so far, and the calls. -/
structure Board where
  link : TraceLink := {}
  /-- The spans that are open, innermost first. -/
  opened : List SpanReport := []
  /-- The spans that are closed, last first. -/
  closed : List SpanReport := []
  /-- The names of all spans, in the order in which they were opened. -/
  openings : List SpanName := []
  /-- The number of calls of the handler. -/
  calls : Nat := 0

namespace Board

/-- The names of the open spans, innermost first. -/
def names (b : Board) : List SpanName := b.opened.map (·.name)

/-- A span that is opened. -/
def openSpan (sampling : Sampling) (b : Board) (name : SpanName) : SpanReport :=
  let isNested := name ≠ .handle && !b.opened.isEmpty
  let link := if name = .handle || isNested then b.link else .ofContext sampling .empty
  ⟨name, link, isNested, .unset⟩

/-- The board after one more entry. -/
def follow (sampling : Sampling) (b : Board) : Entry → Board
  | .received d => { b with link := .ofContext sampling (.extract d.headers) }
  | .opened name =>
    { b with
      opened := b.openSpan sampling name :: b.opened
      openings := b.openings ++ [name] }
  | .marked name status =>
    { b with opened := b.opened.map fun r => if r.name = name then { r with status } else r }
  | .closed name =>
    { b with
      opened := b.opened.filter (·.name ≠ name)
      closed := b.opened.filter (·.name = name) ++ b.closed }
  | .called _ => { b with calls := b.calls + 1 }
  | _ => b

/-- The board after some more entries. -/
def play (sampling : Sampling) (b : Board) (entries : List Entry) : Board :=
  entries.foldl (follow sampling) b

theorem play_append (sampling : Sampling) (b : Board) (l l' : List Entry) :
    b.play sampling (l ++ l') = (b.play sampling l).play sampling l' :=
  List.foldl_append

end Board

/-- The span that an entry opens. -/
def Entry.opening? : Entry → Option SpanName
  | .opened name => some name
  | _ => none

/-- The board of a journal. -/
def board (sampling : Sampling) (entries : List Entry) : Board :=
  let tracker := entries.foldl (Span.Tracker.follow sampling) {}
  ⟨tracker.link, tracker.opened.map Span.report, tracker.closed.map Span.report,
    entries.filterMap Entry.opening?, (Act.calls (acts entries)).length⟩

/-! ### The board goes on entry by entry -/

section Follow

variable (sampling : Sampling) (t : Span.Tracker)

theorem map_report_update (name : SpanName) (f : Span → Span) (g : SpanReport → SpanReport)
    (hf : ∀ s, (f s).report = g s.report) :
    (t.update name f).opened.map Span.report =
      (t.opened.map Span.report).map fun r => if r.name = name then g r else r := by
  rw [Span.Tracker.update, List.map_map, List.map_map]
  apply List.map_congr_left
  intro s _
  show Span.report (if s.name = name then f s else s) =
    if s.name = name then g s.report else s.report
  rw [apply_ite Span.report, hf]

/-- Nobody sees an attribute or a log record on the board. -/
theorem map_report_update_of_report_eq (name : SpanName) (f : Span → Span)
    (hf : ∀ s, (f s).report = s.report) :
    (t.update name f).opened.map Span.report = t.opened.map Span.report := by
  rw [map_report_update t name f id hf]
  simp only [id, ite_self, List.map_id']

theorem map_report_filter (p : SpanName → Bool) (l : List Span) :
    (l.filter fun s => p s.name).map Span.report =
      (l.map Span.report).filter fun r => p r.name := by
  rw [List.filter_map]
  rfl

theorem report_openSpan (openings : List SpanName) (calls : Nat) (name : SpanName) :
    (t.openSpan sampling name).report =
      Board.openSpan sampling
        ⟨t.link, t.opened.map Span.report, t.closed.map Span.report, openings, calls⟩ name := by
  simp only [Span.Tracker.openSpan, Board.openSpan, Span.report, List.isEmpty_map]

theorem board_concat (entries : List Entry) (e : Entry) :
    board sampling (entries ++ [e]) = (board sampling entries).follow sampling e := by
  simp only [board, List.foldl_append, List.foldl_cons, List.foldl_nil, acts_append,
    Act.calls_append, List.length_append, List.filterMap_append]
  generalize List.foldl (Span.Tracker.follow sampling) {} entries = t
  generalize entries.filterMap Entry.opening? = openings
  generalize (Act.calls (acts entries)).length = calls
  have hquiet {e : Entry} (h : e.opening? = none) :
      openings ++ [e].filterMap Entry.opening? = openings := by
    rw [List.filterMap_cons_none h, List.filterMap_nil, List.append_nil]
  cases e with
  | opened name =>
    simp only [Span.Tracker.follow, Board.follow, List.map_cons,
      report_openSpan sampling t openings calls name]
    rfl
  | recorded name key value =>
    simp only [Span.Tracker.follow, Board.follow]
    rw [map_report_update_of_report_eq t name (·.record sampling key value) fun s => rfl,
      hquiet rfl]
    rfl
  | marked name status =>
    simp only [Span.Tracker.follow, Board.follow]
    rw [map_report_update t name _ (fun r => { r with status }) fun s => rfl, hquiet rfl]
    rfl
  | closed name =>
    simp only [Span.Tracker.follow, Board.follow, List.map_append]
    rw [map_report_filter (fun n => n ≠ name), map_report_filter (fun n => n = name), hquiet rfl]
    rfl
  | logged span record =>
    rw [hquiet rfl]
    cases span with
    | none => rfl
    | some name =>
      simp only [Span.Tracker.follow, Board.follow]
      rw [map_report_update_of_report_eq t name
        (fun s => { s with events := min (s.events + 1) sampling.eventLimit }) fun s => rfl]
      rfl
  | _ =>
    rw [hquiet rfl]
    rfl

/-- **The board of a longer journal.** -/
theorem board_append (entries more : List Entry) :
    board sampling (entries ++ more) = (board sampling entries).play sampling more := by
  induction more generalizing entries with
  | nil => rw [List.append_nil]; rfl
  | cons e more ih =>
    rw [List.append_cons, ih, board_concat]
    rfl

/-- The closed spans of the board are the spans of the journal. -/
theorem map_report_ofEntries (entries : List Entry) :
    (Span.ofEntries sampling entries).map Span.report = (board sampling entries).closed.reverse :=
  List.map_reverse

end Follow

/-! ### Every entry in its place -/

/-- The entry stands where it belongs among the spans. -/
def Entry.IsPlaced (b : Board) : Entry → Prop
  -- The span of the delivery is the first one, and no other attempt is open when one is opened.
  | .opened .handle => b.openings = []
  | .opened (.attempt n) => b.names = [.handle] ∧ n.toNat = b.calls + 1
  -- Spans are closed from within, and only an open span is written to.
  | .entered name | .closed name => b.names.head? = some name
  | .recorded name _ _ | .marked name _ | .logged (some name) _ => name ∈ b.names
  | .called call => b.names = [.attempt call.attempt, .handle] ∧ call.attempt.toNat = b.calls + 1
  | .returned _ => ∃ n, b.names = [.attempt n, .handle] ∧ n.toNat = b.calls
  | .waiting _ | .woke _ => b.names = [.handle]
  -- Only the receipt of a success has an attempt to stand in: the last one.
  | .settled _ ⟨_, .acknowledge, _⟩ => ∃ n, b.names = [.attempt n, .handle] ∧ n.toNat = b.calls
  | .settled _ ⟨_, .reject _, _⟩ => b.names = [.handle]
  | .ended _ | .broke _ => b.names = []
  | _ => True

/-- Every entry is in its place, on the board that the entries before it lead to. -/
def Placed (sampling : Sampling) (b : Board) : List Entry → Prop
  | [] => True
  | e :: l => e.IsPlaced b ∧ Placed sampling (b.follow sampling e) l

section Placed

variable {sampling : Sampling} {b : Board}

theorem placed_append {l l' : List Entry} :
    Placed sampling b (l ++ l') ↔
      Placed sampling b l ∧ Placed sampling (b.play sampling l) l' := by
  induction l generalizing b with
  | nil =>
    simp only [List.nil_append, Placed, true_and]
    rfl
  | cons e l ih =>
    show e.IsPlaced b ∧ Placed sampling _ (l ++ l') ↔ (e.IsPlaced b ∧ Placed sampling _ l) ∧ _
    rw [ih, and_assoc]
    rfl

/-- Each entry is in its place on the board of all entries before it. -/
theorem isPlaced_of_placed {before after : List Entry} {e : Entry}
    (h : Placed sampling {} (before ++ e :: after)) : e.IsPlaced (board sampling before) := by
  have hboard : board sampling before = Board.play sampling {} before :=
    board_append sampling [] before
  rw [hboard]
  exact (placed_append.1 h).2.1

/-- Log records inside an open span. -/
theorem placed_logged (sampling : Sampling) {b : Board} {name : SpanName} (h : name ∈ b.names)
    (records : List LogRecord) :
    Placed sampling b (records.map (Entry.logged (some name))) ∧
      b.play sampling (records.map (Entry.logged (some name))) = b := by
  induction records with
  | nil => exact ⟨trivial, rfl⟩
  | cons record records ih => exact ⟨⟨h, ih.1⟩, ih.2⟩

end Placed

end Courier
