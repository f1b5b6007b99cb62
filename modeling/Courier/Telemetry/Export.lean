import Courier.Config.Basic
import Courier.Journal.Spans
import Courier.Network
import Courier.Telemetry.Endpoint
import Courier.Telemetry.HeaderField

/-!
# Export of spans

A worker sends the spans of its run to the collector, together with what the worker is: a batch
whenever enough spans have been closed, and the rest when it ends.  `Exporter.send` gives the
requests and the fate of the last one; nobody waits for the others.  The batches are cut so that no
span is lost or sent twice (`flatten_cutBatches`).
-/

namespace Courier

/-- What a worker is, as a collector sees it. -/
structure Resource where
  serviceName : String
  identity : WorkerIdentity
  /-- The attributes that the environment adds. -/
  added : List (String × String) := []
  deriving DecidableEq, Repr

namespace Resource

/-- The attributes of a resource, in order of their names.  Those of the worker come before those
that the environment adds. -/
def attributes (r : Resource) : Dictionary String :=
  .ofList <| r.added ++
    [("hireflow.worker_id", r.identity.workerId), ("k8s.namespace.name", r.identity.podNamespace),
     ("k8s.node.name", r.identity.nodeName), ("k8s.pod.name", r.identity.podName),
     ("service.name", r.serviceName)]

/-- Reads an attribute; without an equals sign there is none. -/
def readAttribute? (cs : List Char) : Option (String × String) :=
  (cutAt '=' cs).map fun (name, value) => (trim (String.ofList name), trim (String.ofList value))

/-- The variable that adds attributes. -/
def variableName : String := "OTEL_RESOURCE_ATTRIBUTES"

/-- The resource with the attributes that a lookup of variables adds. -/
def ofLookup (serviceName : String) (identity : WorkerIdentity) (lookup : String → Option String) :
    Resource :=
  let pieces := splitOn ',' ((lookup variableName).getD "").toList
  { serviceName, identity, added := pieces.filterMap readAttribute? }

end Resource

/-- The name of what makes the spans. -/
def tracerName : String := "hireflow/notifications-worker"

/-- A request that carries spans. -/
structure Export where
  target : String
  contentType : String
  resource : Resource
  spans : List Span

namespace Export

/-! ### The form of spans -/

/-- The form in which spans are sent. -/
def form : String := "application/x-protobuf"

/-- The variables with header fields for requests; the first one that is set counts. -/
def headerVariables : List String :=
  ["OTEL_EXPORTER_OTLP_TRACES_HEADERS", "OTEL_EXPORTER_OTLP_HEADERS"]

/-- What requests say about the form of the spans, which a header field may replace. -/
def formOf (lookup : String → Option String) : String :=
  let fields := HeaderField.listOf ((headerVariables.findSome? lookup).getD "")
  (HeaderField.value? fields "content-type").getD form

/-! ### Answers -/

/-- Is this the status of a request that was accepted? -/
def isAccepted (status : Nat) : Bool := 200 ≤ status && status < 300

/-- The collector that answers at an endpoint; nothing answers where no request can be sent. -/
def collector? (collectorAt : Place → Reach Nat) (e : Endpoint) : Option Nat :=
  if e.isSecure then none else e.place?.bind fun place => (collectorAt place).found?

/-! ### Batches -/

/-- How many spans are held back at most, and how many are sent together. -/
structure Limits where
  queue : Nat := 2048
  batch : Nat := 512
  deriving DecidableEq, Repr

/-- The variable with the number of spans that are held back. -/
def queueVariable : String := "OTEL_BSP_MAX_QUEUE_SIZE"

/-- The variable with the number of spans that are sent together. -/
def batchVariable : String := "OTEL_BSP_MAX_EXPORT_BATCH_SIZE"

/-- The variables that the limits depend on. -/
def Limits.variableNames : List String := [queueVariable, batchVariable]

/-- The limits that a lookup of variables gives. -/
def Limits.ofLookup (lookup : String → Option String) : Limits :=
  let number? (name : String) : Option Nat :=
    (lookup name).bind fun text => (readNat 10 wordBound text.toList).toOption
  let standard : Limits := {}
  { queue := (number? queueVariable).getD standard.queue
    batch := (number? batchVariable).getD standard.batch }

/-- The size of a full batch. -/
def Limits.size (l : Limits) : Nat := max 1 (min l.batch l.queue)

/-- The spans that are not dropped: without any room nothing is held back. -/
def Limits.held (l : Limits) (spans : List Span) : List Span := if l.queue = 0 then [] else spans

/-- The full batches of some spans, and the rest. -/
def cutBatches (size : Nat) (spans : List Span) : List (List Span) × List Span :=
  if size = 0 ∨ spans.length < size then ([], spans)
  else
    let (batches, rest) := cutBatches size (spans.drop size)
    (spans.take size :: batches, rest)
  termination_by spans.length
  decreasing_by
    simp only [List.length_drop]
    omega

/-- No span is lost or sent twice. -/
theorem flatten_cutBatches (size : Nat) (spans : List Span) :
    (cutBatches size spans).1.flatten ++ (cutBatches size spans).2 = spans := by
  fun_induction cutBatches size spans with
  | case1 spans h => simp
  | case2 spans h batches rest heq ih =>
    rw [heq] at ih
    rw [List.flatten_cons, List.append_assoc, ih, List.take_append_drop]

/-- A batch has the full size. -/
theorem length_of_mem_cutBatches {size : Nat} {spans batch : List Span}
    (h : batch ∈ (cutBatches size spans).1) : batch.length = size := by
  fun_induction cutBatches size spans with
  | case1 spans hshort => simp at h
  | case2 spans hlong batches rest heq ih =>
    rcases List.mem_cons.1 h with rfl | hmem
    · rw [List.length_take]
      omega
    · exact ih (by rwa [heq])

end Export

/-! ### Sending -/

/-- What sends spans to a collector. -/
structure Exporter where
  endpoint : Endpoint
  resource : Resource
  contentType : String
  limits : Export.Limits

namespace Exporter

/-- The request that carries some spans. -/
def request (e : Exporter) (spans : List Span) : Export where
  target := e.endpoint.requestTarget
  contentType := e.contentType
  resource := e.resource
  spans := spans

/-- Sends spans: the requests that a collector gets, and whether the rest at the end has been
accepted, if there is any. -/
def send (e : Exporter) (collectorAt : Place → Reach Nat) (spans : List Span) :
    List Export × Bool :=
  let (batches, rest) := Export.cutBatches e.limits.size (e.limits.held spans)
  match Export.collector? collectorAt e.endpoint with
  | none => ([], rest.isEmpty)
  | some status =>
    (((batches ++ [rest]).filter (!·.isEmpty)).map e.request,
      rest.isEmpty || Export.isAccepted status)

end Exporter

end Courier
