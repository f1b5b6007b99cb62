import Courier.Identity
import Courier.Journal.Entry
import Courier.Text.Blank
import Courier.Text.Digits
import Courier.Text.Pattern
import Courier.Text.Property
import Courier.Text.Split

/-!
# Log filters

A filter says which log records and spans there are.  It is written as directives with commas
between them, each of the form `target[span{field=value}]=level`, where parts may be missing.

* The target is how the names of the parts begin that the directive is about.
* A directive without span and value is about records and spans themselves: those up to its level
  pass.  With a field it is only about records that have it.
* A directive with a span or a field is about what happens inside spans: those with the name, the
  field and the value always pass, and so does everything inside them up to the level.

A level is one of the names in `Filter.levelNames`, in either case, or a digit from 0 to 5; a
missing one lets everything pass.  Of all directives about a record the most specific one decides,
and of equal ones the last (`Filter.ceiling`); without any nothing passes.  A malformed directive
makes the whole filter malformed.
-/

namespace Courier

/-! ### Levels -/

/-- The place of a level: the more it matters, the lower. -/
def Level.rank : Level → Nat
  | .error => 1
  | .warn => 2
  | .info => 3
  | .debug => 4

/-! ### Directives -/

/-- A field of a span or a record, and the value that it has to have. -/
structure FieldRule where
  name : String
  value : Option String := none
  deriving DecidableEq, Repr

/-- What records of some parts, or inside some spans, have to keep to. -/
structure Directive where
  /-- How the names of the parts begin. -/
  target : Option String := none
  /-- The name of the spans. -/
  span : Option String := none
  field : Option FieldRule := none
  /-- The highest rank that passes; 0 lets nothing pass. -/
  ceiling : Nat
  deriving DecidableEq, Repr

namespace Directive

/-- Is the directive about records and spans themselves? -/
def isStatic (d : Directive) : Bool := d.span.isNone && d.field.all (·.value.isNone)

/-- Is the directive about what happens inside spans? -/
def isDynamic (d : Directive) : Bool := d.span.isSome || d.field.isSome

/-- Is a name one of those that the directive is about? -/
def hasTarget (d : Directive) (target : String) : Bool := d.target.all (·.isPrefixOf target)

/-- Are two directives about the same? -/
def sameSubject (a b : Directive) : Bool :=
  a.target = b.target && a.span = b.span && a.field = b.field

/-- The measures of how specific a directive is, in order of weight. -/
def specificity (d : Directive) : List Nat :=
  [(d.target.map (·.length + 1)).getD 0, if d.field.isSome then 1 else 0]

/-- The name of the field, if there is one. -/
def fieldName (d : Directive) : String := (d.field.map (·.name)).getD ""

/-- Does another directive decide in place of this one?  Of two that are equally specific the one
with the greater field does, or the later one. -/
def yieldsTo (d later : Directive) : Bool :=
  if d.specificity = later.specificity then d.fieldName ≤ later.fieldName
  else d.specificity < later.specificity

end Directive

/-! ### Filters -/

/-- Directives, in the order in which they are written. -/
abbrev Filter := List Directive

namespace Filter

/-- The rank that lets everything pass. -/
def top : Nat := 5

/-- The names of levels. -/
def levelNames : List (String × Nat) :=
  [("off", 0), ("error", Level.error.rank), ("warn", Level.warn.rank), ("info", Level.info.rank),
   ("debug", Level.debug.rank), ("trace", top)]

/-- Reads a level. -/
def level? (cs : List Char) : Option Nat :=
  match readNat 10 wordBound cs with
  | .ok n => if n ≤ top then some n else none
  | .error _ => levelNames.lookup (String.ofList cs).toLower

/-- Reads a level that may be missing. -/
def levelOrTop? (cs : List Char) : Option Nat := if cs = [] then some top else level? cs

/-! #### Values -/

/-- The value of a field that a directive asks for. -/
inductive Wanted where
  /-- A value that no field has. -/
  | never
  | number (n : Nat)
  | text (p : Pattern)

/-- The names of numbers that no field has. -/
def oddNumbers : List String := ["true", "false", "inf", "infinity", "nan"]

/-- Is this the form of a number with a sign, a fraction or a power of ten? -/
def isOddNumber (cs : List Char) : Bool :=
  let cs :=
    match cs with
    | '-' :: rest | '+' :: rest => rest
    | cs => cs
  let afterWhole := cs.dropWhile Char.isDigit
  let afterPart :=
    match afterWhole with
    | '.' :: rest => rest.dropWhile Char.isDigit
    | rest => rest
  let hasDigit := (cs.take (cs.length - afterPart.length)).any Char.isDigit
  let power :=
    match afterPart with
    | [] => true
    | mark :: '-' :: digits | mark :: '+' :: digits | mark :: digits =>
      (mark == 'e' || mark == 'E') && digits ≠ [] && digits.all Char.isDigit
  oddNumbers.contains (String.ofList cs).toLower || (hasDigit && power)

/-- Reads a value: a number, or a pattern for texts. -/
def wanted? (value : String) : Option Wanted :=
  match readNat 10 wordBound value.toList with
  | .ok n => some (.number n)
  | .error _ =>
    if isOddNumber value.toList then some .never
    else (Pattern.read? value.toList).map .text

/-- Is this the value that is asked for? -/
def Wanted.accepts : Wanted → AttributeValue → Bool
  | .number n, .number i => i = n
  | .text p, .text s => p.describes s.toList
  | _, _ => false

/-! #### Reading -/

/-- May a directive begin with this character? -/
def isStart (c : Char) : Bool := c == '-' || c == ':' || c == '_' || isAlphanumeric c

/-- Reads a field, up to what follows its name and value. -/
def field? (cs : List Char) : Option FieldRule :=
  if cs = [] then none
  else
    match splitOn '=' cs with
    | name :: value :: _ =>
      let value := String.ofList value
      if (wanted? value).isSome then some ⟨String.ofList name, some value⟩ else none
    | _ => some ⟨String.ofList cs, none⟩

/-- How far the reading of a directive is; numbers are places in its text. -/
inductive Reading where
  | start
  | levelOrTarget (since : Nat)
  | span (since : Nat)
  | field (since : Nat)
  | afterField
  | afterSpan
  | level (since : Nat)
  deriving DecidableEq, Repr

/-- Reads one more character, the one at `place`.  `piece` gives the text between two places. -/
def Reading.next? (piece : Nat → Nat → List Char) (d : Directive) (place : Nat) (c : Char) :
    Reading → Option (Directive × Reading)
  | start =>
    if c = '[' then some (d, span (place + 1))
    else if isStart c then some (d, levelOrTarget place)
    else none
  | levelOrTarget since =>
    let target := some (String.ofList (piece since place))
    if c = '=' then some ({ d with target }, level (place + 1))
    else if c = '[' then some ({ d with target }, span (place + 1))
    else some (d, levelOrTarget since)
  | span since =>
    let name := String.ofList (piece since place)
    if c = ']' then some ({ d with span := some name }, afterSpan)
    else if c = '\x7b' then some ({ d with span := nonEmpty (some name) }, field (place + 1))
    else some (d, span since)
  | field since =>
    if c = '\x7d' then
      (field? (piece since place)).map fun field => ({ d with field := some field }, afterField)
    else some (d, field since)
  | afterField => if c = ']' then some (d, afterSpan) else none
  | afterSpan => if c = '=' then some (d, level (place + 1)) else none
  | level since => some (d, level since)

/-- Ends a directive.  `piece` gives the text from a place on. -/
def Reading.finish? (piece : Nat → List Char) (d : Directive) : Reading → Option Directive
  | levelOrTarget since =>
    match levelOrTop? (piece since) with
    | some ceiling => some { d with ceiling }
    | none => some { d with target := some (String.ofList (piece since)) }
  | level since => (levelOrTop? (piece since)).map fun ceiling => { d with ceiling }
  | afterSpan => some d
  | start | span _ | field _ | afterField => none

/-- Reads the rest of a directive. -/
def directiveFrom? (written : List Char) (d : Directive) (reading : Reading) (place : Nat) :
    List Char → Option Directive
  | [] => reading.finish? written.drop d
  | c :: rest =>
    match reading.next? (fun first last => (written.take last).drop first) d place c with
    | none => none
    | some (d, reading) => directiveFrom? written d reading (place + 1) rest

/-- Reads a directive.  Blanks around it do not count when its parts are told apart, but the parts
are cut at the same places out of the text with its blanks. -/
def directive? (cs : List Char) : Option Directive :=
  directiveFrom? cs { ceiling := top } .start 0 (trimEnd (trimStart cs))

/-- The filter in place of one without directives: errors only. -/
def errorsOnly : Filter := [{ ceiling := Level.error.rank }]

/-- Reads a filter. -/
def ofText? (text : String) : Option Filter :=
  match (splitOn ',' text.toList).filter (· ≠ []) with
  | [] => some errorsOnly
  | pieces => pieces.mapM directive?

/-- The filter in place of a missing or malformed one: everything of the worker's own. -/
def standard : Filter :=
  [{ ceiling := Level.info.rank }, { target := some workerTarget, ceiling := Level.debug.rank }]

/-- The variable that holds the filter. -/
def variableName : String := "RUST_LOG"

/-- The filter that a lookup of variables gives. -/
def ofLookup (lookup : String → Option String) : Filter :=
  ((lookup variableName).bind ofText?).getD standard

/-! ### Records and spans themselves -/

/-- The directives about records and spans themselves. -/
def statics (f : Filter) : List Directive := f.filter Directive.isStatic

/-- The directive that decides about something of a part, with the given fields. -/
def deciding? (f : Filter) (target : String) (hasField : String → Bool) : Option Directive :=
  f.statics.foldl (fun best? d =>
    if ¬d.hasTarget target ∨ ¬d.field.all (fun field => hasField field.name) then best?
    else if best?.all fun best => best.yieldsTo d then some d
    else best?) none

/-- The highest rank that passes by itself. -/
def ceiling (f : Filter) (target : String) (hasField : String → Bool) : Nat :=
  ((f.deciding? target hasField).map (·.ceiling)).getD 0

/-- The field that every record has. -/
def messageField : String := "message"

/-- Does a record pass by itself? -/
def passesAlone (f : Filter) (r : LogRecord) : Bool :=
  r.level.rank ≤ f.ceiling r.part.target fun name =>
    name == messageField || r.fields.any (·.1 == name)

/-! ### What happens inside spans -/

/-- The directives about what happens inside spans; of those about the same the last one counts. -/
def dynamics : Filter → List Directive
  | [] => []
  | d :: rest =>
    let later := dynamics rest
    if d.isDynamic && !later.any d.sameSubject then d :: later else later

/-- The highest rank in some directives. -/
def maxCeiling (ds : List Directive) : Nat := ds.foldl (fun n d => max n d.ceiling) 0

/-- Does some directive ask for a value?  Then spans of all levels are looked at. -/
def asksForValue (f : Filter) : Bool := f.any fun d => d.field.any (·.value.isSome)

/-- The highest rank that anything can have that passes. -/
def highest (f : Filter) : Nat :=
  if f.asksForValue then top else max (maxCeiling f.statics) (maxCeiling f.dynamics)

end Filter

/-! ### Spans -/

namespace SpanName

/-- The level of every span. -/
def level : Level := .info

/-- The part that opens spans. -/
def part : Part := .processing

/-- The fields that every span has. -/
def commonFields : List String := ["otel.kind", "otel.status_code", "otel.status_message"]

/-- The fields of a span. -/
def fields : SpanName → List String
  | .handle =>
    commonFields ++
      ["messaging.system", "messaging.destination", "messaging.operation", "messaging.message_id",
       "amqp.exchange", "amqp.routing_key", "amqp.consumer_tag", "hireflow.worker_id",
       "hireflow.application_id", "hireflow.job_id", "hireflow.correlation_id",
       "notification.type"]
  | .attempt _ => commonFields ++ ["attempt"]

/-- The values that a span has from the beginning. -/
def values (s : SpanName) : List (String × AttributeValue) :=
  ("otel.kind", .text s.kind) ::
    match s with
    | .handle => []
    | .attempt n => [("attempt", .number n.toNat)]

end SpanName

/-- Is the directive about what happens inside this span? -/
def Directive.isAbout (d : Directive) (s : SpanName) : Bool :=
  d.hasTarget SpanName.part.target && d.span.all (· == s.text) &&
    d.field.all fun field => s.fields.contains field.name

/-- Has a span the value that the directive asks for? -/
def Directive.accepts (d : Directive) (values : List (String × AttributeValue)) : Bool :=
  match d.field with
  | some ⟨name, some value⟩ =>
    ((Filter.wanted? value).any fun wanted => (values.lookup name).any wanted.accepts)
  | _ => true

/-- A span that is open, as a filter sees it. -/
structure Scope where
  span : SpanName
  isShown : Bool
  values : List (String × AttributeValue)
  /-- The highest rank that passes inside the span, whatever it is. -/
  ceiling : Nat := 0

namespace Filter

/-- Does a rank pass inside spans, whatever it is of? -/
def passesInside (f : Filter) (scopes : List Scope) (rank : Nat) : Bool :=
  rank ≤ maxCeiling f.dynamics && scopes.any (rank ≤ ·.ceiling)

/-- Does a record pass inside spans? -/
def passes (f : Filter) (scopes : List Scope) (r : LogRecord) : Bool :=
  f.passesInside scopes r.level.rank || f.passesAlone r

/-- Does a span pass inside others?  A directive about it is enough. -/
def shows (f : Filter) (scopes : List Scope) (s : SpanName) : Bool :=
  let rank := SpanName.level.rank
  rank ≤ f.highest &&
    (f.dynamics.any (·.isAbout s) || rank ≤ f.ceiling SpanName.part.target (fun _ => true) ||
      f.passesInside scopes rank)

/-- The highest rank that passes inside a span with the given values, whatever it is. -/
def ceilingInside (f : Filter) (s : SpanName) (values : List (String × AttributeValue)) : Nat :=
  maxCeiling (f.dynamics.filter fun d => d.isAbout s && d.accepts values)

/-- Opens a span inside others. -/
def opens (f : Filter) (scopes : List Scope) (s : SpanName) : Scope :=
  { span := s, isShown := f.shows scopes s, values := s.values }

end Filter

/-- The span once the work inside it has begun. -/
def Scope.enter (s : Scope) (f : Filter) : Scope :=
  if s.isShown then { s with ceiling := f.ceilingInside s.span s.values } else s

end Courier
