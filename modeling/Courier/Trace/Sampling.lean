import Courier.Text.Digits
import Courier.Text.Split

/-!
# Sampling

Not every trace has to be kept.  A `Sampling` says which traces are (`Sampling.keeps`), and how many
attributes and log records a span holds.

A share of all traces is kept by their numbers: of `shareUnit` numbers, those below a bound.  A
trace that begins here has no number yet; it counts as the first one.
-/

namespace Courier

/-- A rule for traces. -/
inductive Sampler where
  | always
  | never
  /-- Keeps the traces with numbers below the bound. -/
  | share (bound : Nat)
  deriving DecidableEq, Repr

/-- What is kept of traces. -/
structure Sampling where
  sampler : Sampler := .always
  /-- Does a publisher's own decision come before the rule? -/
  heedsPublisher : Bool := true
  /-- The largest number of attributes of a span. -/
  attributeLimit : Nat := 128
  /-- The largest number of log records in a span. -/
  eventLimit : Nat := 128
  deriving DecidableEq, Repr

/-- The number of numbers that traces are told apart by. -/
def shareUnit : Nat := signedBound

/-- The number of a trace: 63 bits of its id. -/
def shareNumber (traceId : BitVec 128) : Nat := traceId.toNat % wordBound / 2

namespace Sampler

/-- Does the rule keep a trace? -/
def keeps (s : Sampler) (traceId : Option (BitVec 128)) : Bool :=
  match s with
  | always => true
  | never => false
  | share bound => (traceId.map shareNumber).getD 0 < bound

/-! ### Shares -/

/-- A share in decimal form: digits before and after the point, and a power of ten. -/
structure Share where
  isNegative : Bool
  digits : List Char
  exponent : Int

/-- Cuts a sign off. -/
def cutSign (cs : List Char) : Bool × List Char :=
  match cs with
  | '-' :: rest => (true, rest)
  | '+' :: rest => (false, rest)
  | _ => (false, cs)

/-- Reads a power of ten, which may be missing. -/
def readExponent? (cs : List Char) : Option Int :=
  match cs with
  | [] => some 0
  | mark :: rest =>
    let (isNegative, digits) := cutSign rest
    if (mark == 'e' || mark == 'E') && digits ≠ [] && digits.all Char.isDigit then
      let n : Int := digits.foldl (fun n c => 10 * n + (c.toNat - 0x30)) 0
      some (if isNegative then -n else n)
    else none

/-- Reads a share in decimal form. -/
def readShare? (cs : List Char) : Option Share :=
  let (isNegative, cs) := cutSign cs
  let whole := cs.takeWhile Char.isDigit
  let rest := cs.dropWhile Char.isDigit
  let (part, rest) :=
    match rest with
    | '.' :: rest => (rest.takeWhile Char.isDigit, rest.dropWhile Char.isDigit)
    | rest => ([], rest)
  if whole = [] ∧ part = [] then none
  else
    (readExponent? rest).map fun exponent =>
      ⟨isNegative, (whole ++ part).dropWhile (· = '0'), exponent - part.length⟩

/-- The number of traces below a share, if it is less than all of them. -/
def Share.bound? (s : Share) : Option Nat :=
  let n := s.digits.foldl (fun n c => 10 * n + (c.toNat - 0x30)) 0
  if s.isNegative ∨ n = 0 then some 0
  -- The first digit stands at a place before the point.
  else if 0 < s.exponent + s.digits.length then none
  -- A share this small keeps nothing.
  else if s.exponent + s.digits.length < -20 then some 0
  else some (n * shareUnit / Nat.pow 10 s.exponent.natAbs)

/-- The names of a share without bounds, and of one that is no number. -/
def endlessNames : List String := ["inf", "infinity"]

/-- The rule for a share; one that cannot be read counts as everything. -/
def ofShare (text : String) : Sampler :=
  let (isNegative, word) := cutSign text.toList
  let word := (String.ofList word).toLower
  if endlessNames.contains word then (if isNegative then never else always)
  else if word = "nan" then never
  else
    match readShare? text.toList with
    | none => always
    | some s => ((s.bound?).map share).getD always

end Sampler

namespace Sampling

/-- The variable that names the rule. -/
def ruleVariable : String := "OTEL_TRACES_SAMPLER"

/-- The variable with the share that a rule keeps. -/
def shareVariable : String := "OTEL_TRACES_SAMPLER_ARG"

/-- The variable with the largest number of attributes of a span. -/
def attributeVariable : String := "OTEL_SPAN_ATTRIBUTE_COUNT_LIMIT"

/-- The variable with the largest number of log records in a span. -/
def eventVariable : String := "OTEL_SPAN_EVENT_COUNT_LIMIT"

/-- The variables that the sampling depends on. -/
def variableNames : List String := [ruleVariable, shareVariable, attributeVariable, eventVariable]

/-- The rule with the given name. -/
def ofName (name share : String) : Sampling :=
  match name with
  | "always_on" => { sampler := .always, heedsPublisher := false }
  | "always_off" => { sampler := .never, heedsPublisher := false }
  | "traceidratio" => { sampler := .ofShare share, heedsPublisher := false }
  | "parentbased_always_off" => { sampler := .never }
  | "parentbased_traceidratio" => { sampler := .ofShare share }
  | _ => {}

/-- The sampling that a lookup of variables gives. -/
def ofLookup (lookup : String → Option String) : Sampling :=
  let sampling := ofName ((lookup ruleVariable).getD "") ((lookup shareVariable).getD "")
  let number? (name : String) : Option Nat :=
    (lookup name).bind fun text => (readNat 10 (Nat.pow 2 32) text.toList).toOption
  { sampling with
    attributeLimit := (number? attributeVariable).getD sampling.attributeLimit
    eventLimit := (number? eventVariable).getD sampling.eventLimit }

/-- Is a trace kept?  A publisher's trace comes with the publisher's own decision. -/
def keeps (s : Sampling) (publisher : Option (BitVec 128 × Bool)) : Bool :=
  match publisher with
  | none => s.sampler.keeps none
  | some (traceId, isKept) => if s.heedsPublisher then isKept else s.sampler.keeps (some traceId)

end Sampling

end Courier
