import Courier.Headers
import Courier.Trace.Baggage
import Courier.Trace.Span

/-!
# Trace context in headers

A `TraceContext` is what one service passes to the next: the span to continue, if there is one, and
the baggage.  `TraceContext.extract` reads it from message headers, where bad or missing headers
mean no span or no baggage and never an error; `TraceContext.inject` writes it.
-/

namespace Courier

/-- The header that names the parent span. -/
def traceParentHeader : String := "traceparent"

/-- The header with the trace state. -/
def traceStateHeader : String := "tracestate"

/-- The header with the baggage. -/
def baggageHeader : String := "baggage"

/-- A span to continue, and baggage. -/
structure TraceContext where
  span : Option SpanContext := none
  baggage : Baggage := .empty
  deriving DecidableEq

namespace TraceContext

/-- The context that says nothing. -/
def empty : TraceContext := {}

instance : Inhabited TraceContext := ⟨empty⟩

/-- The span to continue, with the invalid one for none. -/
def spanContext (c : TraceContext) : SpanContext := c.span.getD {}

/-- Does the context continue a trace that began elsewhere? -/
def isRemoteParent (c : TraceContext) : Bool := c.spanContext.isValid && c.spanContext.isRemote

/-- The trace state that headers carry; a bad one counts as empty. -/
def extractState (h : Headers) : TraceState :=
  (TraceState.read? ((h.text? traceStateHeader).getD "")).getD .empty

/-- The span that headers name. -/
def extractSpan (h : Headers) : Option SpanContext :=
  (h.text? traceParentHeader).bind fun header => SpanContext.read? header (extractState h)

/-- The baggage that headers carry. -/
def extractBaggage (h : Headers) : Baggage :=
  ((h.text? baggageHeader).map Baggage.read).getD .empty

/-- The context that headers carry. -/
def extract (h : Headers) : TraceContext := ⟨extractSpan h, extractBaggage h⟩

/-- Writes the span of a context, if it is valid. -/
def injectSpan (c : TraceContext) (h : Headers) : Headers :=
  if c.spanContext.isValid then
    (h.insert traceParentHeader (.text c.spanContext.parentHeader)).insert traceStateHeader
      (.text c.spanContext.state.header)
  else h

/-- Writes the baggage of a context, if there is any. -/
def injectBaggage (c : TraceContext) (h : Headers) : Headers :=
  if c.baggage.isEmpty then h else h.insert baggageHeader (.text c.baggage.header)

/-- Writes a context into headers. -/
def inject (c : TraceContext) (h : Headers) : Headers := c.injectBaggage (c.injectSpan h)

end TraceContext

end Courier
