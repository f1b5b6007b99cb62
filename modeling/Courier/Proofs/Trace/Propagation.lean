import Courier.Proofs.Trace.HeaderForms
import Courier.Trace.Propagation

/-!
# A context survives the headers

A publisher writes its context into the headers of a message, and the worker reads it there.
`extract_inject` says what the worker gets: the publisher's span with its trace state, whatever the
headers held before.  A context without a valid span writes neither of the two trace headers, and
headers that have nothing to do with traces keep their values, text or bytes.

What one insertion changes is known from `Dictionary.get?_insert`; `get?_injectSpan` and
`get?_inject` put the insertions of a context together, key by key.
-/

namespace Courier.TraceContext

variable (c : TraceContext) (h : Headers)

/-! ### What the headers hold afterwards -/

/-- The span is written under two keys, and nothing else changes. -/
theorem get?_injectSpan (hc : c.spanContext.isValid = true) (key : String) :
    (c.injectSpan h).get? key =
      if key = traceStateHeader then some (.text c.spanContext.state.header)
      else if key = traceParentHeader then some (.text c.spanContext.parentHeader)
      else h.get? key := by
  rw [injectSpan, if_pos hc, Dictionary.get?_insert, Dictionary.get?_insert]

/-- The baggage goes under a key of its own. -/
theorem get?_inject {key : String} (hkey : key ≠ baggageHeader) :
    (c.inject h).get? key = (c.injectSpan h).get? key := by
  rw [inject, injectBaggage]
  split
  · rfl
  · exact Dictionary.get?_insert_of_ne hkey _

theorem get?_inject_parent (hc : c.spanContext.isValid = true) :
    (c.inject h).get? traceParentHeader = some (.text c.spanContext.parentHeader) := by
  have hstate : traceParentHeader ≠ traceStateHeader := by decide
  rw [c.get?_inject h (by decide), c.get?_injectSpan h hc, if_neg hstate, if_pos rfl]

theorem get?_inject_state (hc : c.spanContext.isValid = true) :
    (c.inject h).get? traceStateHeader = some (.text c.spanContext.state.header) := by
  rw [c.get?_inject h (by decide), c.get?_injectSpan h hc, if_pos rfl]

/-- Without a valid span only the baggage is written. -/
theorem get?_inject_of_invalid (hc : c.spanContext.isValid = false) {key : String}
    (hkey : key ≠ baggageHeader) : (c.inject h).get? key = h.get? key := by
  rw [c.get?_inject h hkey, injectSpan, hc, if_neg Bool.false_ne_true]

/-- Headers that have nothing to do with traces keep their values. -/
theorem get?_inject_of_ne {key : String} (hparent : key ≠ traceParentHeader)
    (hstate : key ≠ traceStateHeader) (hbaggage : key ≠ baggageHeader) :
    (c.inject h).get? key = h.get? key := by
  cases hc : c.spanContext.isValid with
  | false => exact c.get?_inject_of_invalid h hc hbaggage
  | true => rw [c.get?_inject h hbaggage, c.get?_injectSpan h hc, if_neg hstate, if_neg hparent]

/-! ### What is read from them -/

variable {h}

/-- A header without text reads as none, and a trace state without members has no text. -/
theorem extractState_of_get? {state : TraceState}
    (hstate : h.get? traceStateHeader = some (.text state.header)) : extractState h = state := by
  have htext : (h.text? traceStateHeader).getD "" = state.header := by
    rw [Headers.text?, hstate, Option.bind_some, HeaderValue.text?, Option.filter_some]
    by_cases hempty : state.header = ""
    · rw [hempty]
      rfl
    · simp only [hempty, ne_eq, not_false_eq_true, decide_true, if_true, Option.getD_some]
  rw [extractState, htext, TraceState.read?_header]
  rfl

theorem extractSpan_of_get? {span : SpanContext} (hspan : span.isValid = true)
    (hparent : h.get? traceParentHeader = some (.text span.parentHeader))
    (hstate : h.get? traceStateHeader = some (.text span.state.header)) :
    extractSpan h = some span.abroad := by
  have hread : SpanContext.read? span.parentHeader span.state = some span.abroad :=
    span.read?_parentHeader hspan
  have hne : span.parentHeader ≠ "" := by
    intro hempty
    rw [hempty] at hread
    cases hread
  have htext : h.text? traceParentHeader = some span.parentHeader := by
    rw [Headers.text?, hparent, Option.bind_some, HeaderValue.text?, Option.filter_some,
      if_pos (decide_eq_true hne)]
  rw [extractSpan, htext, Option.bind_some, extractState_of_get? hstate, hread]

/-- The span of a context is read as it was written, whatever the headers held before. -/
theorem extractSpan_inject (hc : c.spanContext.isValid = true) :
    extractSpan (c.inject h) = some c.spanContext.abroad :=
  extractSpan_of_get? hc (c.get?_inject_parent h hc) (c.get?_inject_state h hc)

/-! ### From the publisher to the worker -/

/-- The context continues the trace of a publisher's context. -/
structure Continues (back c : TraceContext) : Prop where
  isRemoteParent : back.isRemoteParent = true
  traceId_eq : back.spanContext.traceId = c.spanContext.traceId
  spanId_eq : back.spanContext.spanId = c.spanContext.spanId
  isSampled_eq : back.spanContext.isSampled = c.spanContext.isSampled
  /-- Members, their values and their order are the publisher's. -/
  state_eq : back.spanContext.state = c.spanContext.state

theorem continues_of_extractSpan {back : TraceContext} (hc : c.spanContext.isValid = true)
    (hback : back.span = some c.spanContext.abroad) : back.Continues c := by
  have hspan : back.spanContext = c.spanContext.abroad := by
    rw [spanContext, hback]
    rfl
  refine ⟨?_, ?_, ?_, ?_, ?_⟩
  · have hvalid : c.spanContext.abroad.isValid = true := hc
    rw [isRemoteParent, hspan, hvalid]
    rfl
  · rw [hspan]
    rfl
  · rw [hspan]
    rfl
  · have hkept : c.spanContext.keptFlags &&& SpanContext.sampledFlag =
        c.spanContext.flags &&& SpanContext.sampledFlag := by
      rw [SpanContext.keptFlags, UInt8.and_assoc, UInt8.and_self]
    rw [hspan, SpanContext.isSampled, SpanContext.isSampled]
    exact congrArg (· == SpanContext.sampledFlag) hkept
  · rw [hspan]
    rfl

/-- **Publishers are continued.**  A context with a valid span, written into any headers, is read
from them as a remote parent with its ids, its sampling and its trace state; what the headers said of
another trace is gone.  A context without a valid span leaves the two trace headers as they were.
All other headers but the baggage keep their values in either case. -/
theorem extract_inject (c : TraceContext) (h : Headers) :
    (c.spanContext.isValid = true →
      (extract (c.inject h)).Continues c ∧
      (c.inject h).get? traceParentHeader = some (.text c.spanContext.parentHeader) ∧
      (c.inject h).get? traceStateHeader = some (.text c.spanContext.state.header)) ∧
    (c.spanContext.isValid = false →
      (c.inject h).get? traceParentHeader = h.get? traceParentHeader ∧
      (c.inject h).get? traceStateHeader = h.get? traceStateHeader) ∧
    ∀ key, key ≠ traceParentHeader → key ≠ traceStateHeader → key ≠ baggageHeader →
      (c.inject h).get? key = h.get? key := by
  refine ⟨?_, ?_, ?_⟩
  · intro hc
    have hback : (extract (c.inject h)).span = some c.spanContext.abroad := c.extractSpan_inject hc
    exact ⟨c.continues_of_extractSpan hc hback, c.get?_inject_parent h hc,
      c.get?_inject_state h hc⟩
  · intro hc
    exact ⟨c.get?_inject_of_invalid h hc (by decide), c.get?_inject_of_invalid h hc (by decide)⟩
  · intro key hparent hstate hbaggage
    exact c.get?_inject_of_ne h hparent hstate hbaggage

/-- A context without trace state replaces stale headers, one as text and one as bytes; a header in
bytes that has nothing to do with traces stays. -/
theorem extract_inject_stale :
    let c : TraceContext := { span := some { traceId := 10, spanId := 11, flags := 3 } }
    let h : Headers := .ofList
      [("traceparent", .text "00-1-2-01"), ("tracestate", .bytes [0x61, 0x3D, 0x62]),
       ("x-kind", .bytes [0xFF])]
    c.spanContext.isValid = true ∧ (extract (c.inject h)).Continues c ∧
      (extract (c.inject h)).spanContext.state = .empty ∧
      (c.inject h).get? "x-kind" = some (.bytes [0xFF]) := by
  intro c h
  have hc : c.spanContext.isValid = true := by decide
  obtain ⟨hvalid, -, hother⟩ := extract_inject c h
  obtain ⟨hback, -, -⟩ := hvalid hc
  have hkind : (c.inject h).get? "x-kind" = h.get? "x-kind" :=
    hother "x-kind" (by decide) (by decide) (by decide)
  have hstale : h.get? "x-kind" = some (.bytes [0xFF]) := by
    show (Dictionary.insert _ "x-kind" _).get? "x-kind" = _
    rw [Dictionary.get?_insert_self]
  exact ⟨hc, hback, hback.state_eq, hkind.trans hstale⟩

end Courier.TraceContext
