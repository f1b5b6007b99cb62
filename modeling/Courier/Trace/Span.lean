import Courier.Trace.State
import Courier.Text.Blank
import Courier.Text.Digits

/-!
# Span contexts

A `SpanContext` names one span of a trace so that others can continue it.  Its header form has four
parts, `version-trace-span-flags`, all in hexadecimal digits.

`SpanContext.read?` accepts shorter ids and later versions; `SpanContext.parentHeader` writes
version 0 with full ids and keeps one flag, whether the trace is sampled.
-/

namespace Courier

/-- A span of a trace. -/
structure SpanContext where
  traceId : BitVec 128 := 0
  spanId : BitVec 64 := 0
  flags : UInt8 := 0
  isRemote : Bool := false
  state : TraceState := .empty
  deriving DecidableEq

namespace SpanContext

/-- Both ids are set. -/
def isValid (c : SpanContext) : Bool := c.traceId != 0 && c.spanId != 0

/-- The flag of a trace whose spans are kept. -/
def sampledFlag : UInt8 := 1

/-- Are the spans of the trace kept? -/
def isSampled (c : SpanContext) : Bool := c.flags &&& sampledFlag == sampledFlag

/-- A hexadecimal number below `bound`. -/
def readHex? (bound : Nat) (cs : List Char) : Option Nat := (readNat 16 bound cs).toOption

/-- An id of a span or trace: a hexadecimal number without upper-case letters. -/
def readId? (width : Nat) (cs : List Char) : Option (BitVec width) :=
  if cs.any Char.isUpper then none else (readHex? (Nat.pow 2 width) cs).map (BitVec.ofNat width)

/-- The largest version; the one above it is kept free. -/
def maxVersion : Nat := 254

/-- The largest flags of version 0. -/
def maxFlags : Nat := 2

/-- The parts of a header. -/
def headerParts (header : String) : List (List Char) :=
  splitTerminated '-' (trim header).toList

/-- The span that a header names, with the given trace state. -/
def read? (header : String) (state : TraceState) : Option SpanContext :=
  match headerParts header with
  | version :: traceId :: spanId :: flags :: more => do
    let version ← readHex? 256 version
    -- Later versions may have more parts.
    guard (version ≤ maxVersion ∧ (version = 0 → more = []))
    let traceId ← readId? 128 traceId
    let spanId ← readId? 64 spanId
    let flags ← readHex? 256 flags
    guard (version = 0 → flags ≤ maxFlags)
    let context : SpanContext :=
      { traceId, spanId, flags := UInt8.ofNat flags &&& sampledFlag, isRemote := true, state }
    guard context.isValid
    return context
  | _ => none

/-- A trace id with all its digits. -/
def traceIdText (id : BitVec 128) : String := hexFixed 32 id.toNat

/-- A span id with all its digits. -/
def spanIdText (id : BitVec 64) : String := hexFixed 16 id.toNat

/-- The header form of a span. -/
def parentHeader (c : SpanContext) : String :=
  "00-" ++ traceIdText c.traceId ++ "-" ++ spanIdText c.spanId ++ "-" ++
    hexFixed 2 (c.flags &&& sampledFlag).toNat

end SpanContext

end Courier
