import Courier.Journal.Entry
import Courier.Telemetry.Filter

/-!
# What a filter shows

`View.ofEntries` goes along the entries of a run and keeps what a filter lets pass: a shorter list
of entries, in which hidden spans are missing and records lie in the innermost span that is shown,
and the lines of the log.
-/

namespace Courier

/-- A line of the log. -/
structure LogLine where
  level : Level
  /-- The spans around it, outermost first. -/
  spans : List SpanName
  text : String
  deriving DecidableEq, Repr

/-- The line as it is written: the level, the spans with colons between them, the text. -/
def LogLine.render (l : LogLine) : String :=
  let spans := ":".intercalate (l.spans.map SpanName.text)
  l.level.name ++ " " ++ (if l.spans.isEmpty then "" else spans ++ ": ") ++ l.text

/-- What a filter shows of the entries so far. -/
structure View where
  /-- The spans that are open, innermost first, hidden ones included. -/
  scopes : List Scope := []
  /-- The entries that are left, last one first. -/
  entries : List Entry := []
  /-- The lines of the log, last one first. -/
  lines : List LogLine := []

namespace View

/-- The open spans from the given one outwards. -/
def around (v : View) (span? : Option SpanName) : List Scope :=
  match span? with
  | none => []
  | some span => v.scopes.dropWhile (·.span ≠ span)

/-- Is a span shown? -/
def isShown (v : View) (span : SpanName) : Bool := v.scopes.any fun s => s.span = span && s.isShown

/-- Changes an open span. -/
def update (v : View) (span : SpanName) (f : Scope → Scope) : View :=
  { v with scopes := v.scopes.map fun s => if s.span = span then f s else s }

/-- Keeps an entry of a span, if the span is shown. -/
def keep (v : View) (span : SpanName) (e : Entry) : View :=
  if v.isShown span then { v with entries := e :: v.entries } else v

/-- Keeps a record, if it passes. -/
def log (v : View) (f : Filter) (span? : Option SpanName) (r : LogRecord) : View :=
  let scopes := v.around span?
  if f.passes scopes r then
    let shown := (scopes.filter (·.isShown)).map (·.span)
    { v with
      entries := .logged shown.head? r :: v.entries
      lines := ⟨r.level, shown.reverse, r.text⟩ :: v.lines }
  else v

/-- Follows one entry. -/
def follow (f : Filter) (v : View) (e : Entry) : View :=
  match e with
  | .opened span => { v with scopes := f.opens v.scopes span :: v.scopes }.keep span e
  | .recorded span key value =>
    (v.update span fun s => { s with values := s.values ++ [(key, value)] }).keep span e
  | .entered span => (v.update span fun s => s.enter f).keep span e
  | .marked span _ => v.keep span e
  | .closed span =>
    { v.keep span e with scopes := v.scopes.filter (·.span ≠ span) }
  | .logged span? r => v.log f span? r
  | _ => { v with entries := e :: v.entries }

/-- What a filter shows of some entries. -/
def ofEntries (f : Filter) (entries : List Entry) : View :=
  let v := entries.foldl (follow f) {}
  { v with entries := v.entries.reverse, lines := v.lines.reverse }

end View

end Courier
