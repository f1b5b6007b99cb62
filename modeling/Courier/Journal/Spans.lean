import Courier.Dictionary
import Courier.Journal.Entry

/-!
# Spans of a journal

`Journal.spans` collects the spans that a run closed, in the order in which they closed, each with
everything that was recorded on it: its attributes, the last status it was marked with, and the
number of log records inside it, as far as a `Sampling` keeps them.  Spans of a trace that is not
kept are left out.
-/

namespace Courier

/-- A span that has been closed. -/
structure Span where
  name : SpanName
  /-- How the spans of its delivery hang in a trace. -/
  link : TraceLink
  /-- Does the span lie in another one of ours? -/
  isNested : Bool := false
  status : SpanStatus := .unset
  attributes : Dictionary AttributeValue := .empty
  /-- How often an attribute has been recorded. -/
  recorded : Nat := 0
  /-- The number of log records inside the span. -/
  events : Nat := 0
  deriving DecidableEq

namespace Span

/-- The number of attributes that come before all others: the file, the module and the line that a
span is opened at, and the number and the name of the thread. -/
def placeAttributes : Nat := 5

/-- Records an attribute, if there is room for one more.  A name that comes again takes room too. -/
def record (s : Span) (sampling : Sampling) (key : String) (value : AttributeValue) : Span :=
  { s with
    attributes :=
      if placeAttributes + s.recorded < sampling.attributeLimit then s.attributes.insert key value
      else s.attributes
    recorded := s.recorded + 1 }

/-- The spans so far: those that are open, innermost first, and those that are closed, last
first. -/
structure Tracker where
  link : TraceLink := {}
  opened : List Span := []
  closed : List Span := []

/-- Changes an open span. -/
def Tracker.update (t : Tracker) (name : SpanName) (f : Span → Span) : Tracker :=
  { t with opened := t.opened.map fun s => if s.name = name then f s else s }

/-- A span that is opened.  An attempt continues the trace of the span that it lies in. -/
def Tracker.openSpan (t : Tracker) (sampling : Sampling) (name : SpanName) : Span :=
  let isNested := name ≠ .handle && !t.opened.isEmpty
  let link := if name = .handle || isNested then t.link else .ofContext sampling .empty
  { name, link, isNested }

/-- Follows one entry. -/
def Tracker.follow (sampling : Sampling) (t : Tracker) : Entry → Tracker
  | .received d => { t with link := .ofContext sampling (.extract d.headers) }
  | .opened name => { t with opened := t.openSpan sampling name :: t.opened }
  | .recorded name key value =>
    t.update name (·.record sampling key value)
  | .marked name status => t.update name fun s => { s with status }
  | .logged (some name) _ =>
    t.update name fun s => { s with events := min (s.events + 1) sampling.eventLimit }
  | .closed name =>
    { t with
      opened := t.opened.filter (·.name ≠ name)
      closed := t.opened.filter (·.name = name) ++ t.closed }
  | _ => t

/-- The spans that the entries close, in order. -/
def ofEntries (sampling : Sampling) (entries : List Entry) : List Span :=
  (entries.foldl (Tracker.follow sampling) {}).closed.reverse

/-- The spans that are kept. -/
def kept (sampling : Sampling) (entries : List Entry) : List Span :=
  (ofEntries sampling entries).filter (·.link.isSampled)

end Span

namespace Journal

/-- The entries without their times. -/
def entries (j : Journal) : List Entry := j.map (·.entry)

/-- The spans of a run that are kept. -/
def spans (j : Journal) (sampling : Sampling) : List Span := Span.kept sampling (entries j)

/-- The log records of a run, with the spans they lie in. -/
def logs (j : Journal) : List (Option SpanName × LogRecord) :=
  (entries j).filterMap fun
    | .logged span record => some (span, record)
    | _ => none

/-- The calls of the handler, with their times. -/
def calls (j : Journal) : List (Nat × Call) :=
  j.filterMap fun
    | ⟨time, .called call⟩ => some (time, call)
    | _ => none

/-- The terminal actions that the broker was asked for, as its receipts say. -/
def settlements (j : Journal) : List Disposition :=
  (entries j).filterMap fun
    | .settled _ call => some call.receipt.disposition
    | _ => none

/-- How often the broker was asked to stop deliveries. -/
def stopCalls (j : Journal) : Nat :=
  ((entries j).filter fun
    | .stopAsked => true
    | _ => false).length

end Journal

end Courier
