import Courier.Trace.Propagation
import Courier.Trace.Sampling

/-!
# Spans of our own

A `TraceLink` says how the spans that the worker opens for a delivery hang in a trace: they continue
the publisher's trace if the headers name one, and begin a new one otherwise.  Spans of a trace that
is not kept carry no trace state.
-/

namespace Courier

/-- How the worker's spans hang in a trace. -/
structure TraceLink where
  /-- The publisher's span, or `none` where a new trace begins. -/
  parent : Option SpanContext := none
  baggage : Baggage := .empty
  /-- Are the spans kept? -/
  isSampled : Bool := true
  deriving DecidableEq

namespace TraceLink

/-- The link that the headers' context gives. -/
def ofContext (sampling : Sampling) (c : TraceContext) : TraceLink :=
  let parent := c.span.filter SpanContext.isValid
  ⟨parent, c.baggage, sampling.keeps (parent.map fun p => (p.traceId, p.isSampled))⟩

/-- The publisher's trace. -/
def traceId (l : TraceLink) : Option (BitVec 128) := l.parent.map (·.traceId)

/-- The trace state of the spans. -/
def state (l : TraceLink) : TraceState :=
  match l.parent with
  | none => .empty
  | some parent => if l.isSampled then parent.state else .empty

end TraceLink

end Courier
