import Courier.Amqp.Session
import Courier.Config.EnvFile
import Courier.Service.Signal
import Courier.Telemetry.Export
import Courier.Telemetry.View

/-!
# The program

A worker process, from its start to its end.

* It reads its configuration from the environment and the environment file.  Without one it ends at
  once.
* It sets up tracing, which may fail, and connects to the broker, which may not.
* It serves until shutdown, or until the broker ends the connection; then it closes what is open.
* At its end it exports the spans of the run.

Its telemetry follows a filter, which also hides spans, and a sampling.

`Program.run` says what a process does, given what surrounds it: its exit code, the methods that it
sends to the broker, the lines of its log, the spans that it exports, and what it reports on its
error output.
-/

namespace Courier

/-- What ends a process that has nothing to do any more. -/
inductive Occasion where
  | signal (s : Signal)
  /-- The broker closes the connection. -/
  | lost (text : String)
  deriving DecidableEq, Repr

/-- What surrounds a process. -/
structure Surroundings where
  environment : Environment := .empty
  /-- The text of the environment file; a missing file is like an empty one. -/
  envFile : String := ""
  /-- The source of fresh tokens; the first one names the worker. -/
  tokens : Nat → String
  /-- What the broker at a place does. -/
  brokerAt : Place → Reach Amqp.Broker
  /-- What the collector at a place answers with. -/
  collectorAt : Place → Reach Nat
  occasion : Occasion

/-- What a process does. -/
structure ProgramRun where
  exitCode : Nat := 0
  methods : List Amqp.Method := []
  lines : List LogLine := []
  exports : List Export := []
  /-- The lines on the error output. -/
  report : List String := []

namespace Program

/-! ### Reports of failures -/

/-- A cause on lines of its own, the first one after `label`. -/
def indent (label margin cause : String) : List String :=
  match splitOn '\n' cause.toList with
  | [] => [label]
  | first :: rest =>
    (label ++ String.ofList first) :: rest.map fun line => margin ++ String.ofList line

/-- Causes with their numbers. -/
def numbered (n : Nat) : List String → List String
  | [] => []
  | cause :: causes =>
    indent ("    " ++ decimal n ++ ": ") "       " cause ++ numbered (n + 1) causes

/-- What ended a process early: what it was about, and the causes, nearest first. -/
def failureReport (headline : String) (causes : List String) : List String :=
  ["Error: " ++ headline, "", "Caused by:"] ++
    match causes with
    | [cause] => indent "    " "    " cause
    | causes => numbered 0 causes

/-! ### Log records -/

/-- A record that names the worker. -/
def log (identity : WorkerIdentity) (part : Part) (level : Level) (message : String)
    (fields : List (String × FieldValue)) : LogRecord :=
  ⟨part, level, message, ("worker_id", .shown identity.workerId) :: fields⟩

/-- The record of tracing, set up or not. -/
def tracingRecord (config : Config) (identity : WorkerIdentity) (exporter? : Option Exporter) :
    LogRecord :=
  match exporter? with
  | some _ =>
    log identity .telemetry .info "otel tracing enabled"
      [("endpoint", .shown config.traceEndpoint), ("service", .shown config.serviceName)]
  | none =>
    log identity .telemetry .warn "otel init failed (continuing without tracing)"
      [("pod", .shown identity.podName), ("error", .shown "failed to build OTLP span exporter")]

/-- The record of a worker that starts. -/
def startRecord (config : Config) (identity : WorkerIdentity) : LogRecord :=
  log identity .main .info "worker starting"
    [("pod", .shown identity.podName), ("namespace", .shown identity.podNamespace),
     ("node", .shown identity.nodeName), ("queue", .shown config.queue)]

/-- The record of how the service ended. -/
def stopRecord (identity : WorkerIdentity) : ShutdownOutcome → LogRecord
  | .loopFinished tally =>
    log identity .main .info "worker stopped" [("processed", .number tally.processed.toNat)]
  | .graceElapsed => log identity .main .warn "worker stopped before in-flight message settled" []
  | .loopFailed reason =>
    log identity .main .warn "worker stopped after consume loop failure" [("reason", .shown reason)]

/-- The record of a process that ends. -/
def endRecord (identity : WorkerIdentity) : LogRecord :=
  log identity .main .info "shutdown complete" []

/-- The record of spans that have not been accepted. -/
def exportRecord : LogRecord := ⟨.telemetry, .warn, "otel shutdown error", []⟩

/-! ### The session -/

/-- What a session with the broker gives. -/
structure SessionRun where
  result : Except WorkerError Unit
  methods : List Amqp.Method := []
  entries : List Entry := []

/-- Records outside all spans. -/
def outside (records : List LogRecord) : List Entry := records.map (Entry.logged none)

/-- How the session ends on an occasion. -/
def Occasion.ending : Occasion → Amqp.Ending
  | .signal _ => .shutdown
  | .lost text => .lost text

/-- What tells of an occasion. -/
def announcement (identity : WorkerIdentity) : Occasion → List Entry
  | .signal s =>
    let watch : SignalWatch := { workerId := identity.workerId }
    (watch.receive s).2.map (Entry.logged none)
  | .lost _ => []

/-- The service of a process: mails are logged. -/
def service (config : Config) (identity : WorkerIdentity) (tokens : Nat → String)
    (sampling : Sampling) : Service Unit where
  worker := { identity, queue := config.queue, handler := .logging, tokens, sampling }
  coordinator := ⟨identity.workerId, 1000 * config.shutdownGrace⟩

/-- Serves over a connection that is set up, and closes it. -/
def converse (s : Surroundings) (config : Config) (identity : WorkerIdentity) (sampling : Sampling)
    (broker : Amqp.Broker) (connected : Amqp.Connected) : SessionRun :=
  let source := broker.source identity.consumerTag
  let ending := Occasion.ending s.occasion
  let run := Amqp.serve (service config identity s.tokens sampling)
    -- The first token has named the worker.
    { world := { drawn := 1, memory := () }, source } ending (announcement identity s.occasion)
  let (closing, closingLogs) := Amqp.close (Amqp.linkAfter broker ending run.journal)
  { result := .ok ()
    methods := connected.methods ++
      Amqp.methods identity.consumerTag source.stopRefusal.isSome run.journal ++ closing
    entries := outside connected.logs ++ run.journal.entries ++
      outside (run.state.outcome?.toList.map (stopRecord identity) ++ closingLogs ++
        [endRecord identity]) }

/-- Connects and serves. -/
def session (s : Surroundings) (config : Config) (identity : WorkerIdentity)
    (sampling : Sampling) : SessionRun :=
  match Amqp.dial config s.brokerAt with
  | .error e => { result := .error e }
  | .ok (address, broker) =>
    let connected := Amqp.connect config identity address broker
    match connected.result with
    | .ok () => converse s config identity sampling broker connected
    | .error e =>
      { result := .error e, methods := connected.methods, entries := outside connected.logs }

/-! ### Telemetry -/

/-- How a process tells of its work. -/
structure Telemetry where
  filter : Filter
  sampling : Sampling
  exporter? : Option Exporter

/-- The telemetry that a configuration and a lookup of variables give. -/
def telemetry (config : Config) (identity : WorkerIdentity) (lookup : String → Option String) :
    Telemetry where
  filter := .ofLookup lookup
  sampling := .ofLookup lookup
  exporter? := (Endpoint.ofText? config.traceEndpoint).map fun endpoint =>
    { endpoint
      resource := .ofLookup config.serviceName identity lookup
      contentType := Export.formOf lookup
      limits := .ofLookup lookup }

/-- Exports spans: the requests, and what the log says about them. -/
def exportSpans (s : Surroundings) (t : Telemetry) (spans : List Span) :
    List Export × List LogRecord :=
  match t.exporter? with
  | none => ([], [])
  | some exporter =>
    let (exports, isAccepted) := exporter.send s.collectorAt spans
    (exports, if isAccepted then [] else [exportRecord])

/-! ### The whole -/

/-- Works with a configuration; `lookup` finds all other variables. -/
def work (s : Surroundings) (config : Config) (lookup : String → Option String) : ProgramRun :=
  let identity :=
    WorkerIdentity.generate (s.tokens 0) config.podName config.podNamespace config.nodeName
  let t := telemetry config identity lookup
  let session := session s config identity t.sampling
  let beginning := [tracingRecord config identity t.exporter?, startRecord config identity]
  let view := View.ofEntries t.filter (outside beginning ++ session.entries)
  let (exports, exportLogs) := exportSpans s t (Span.kept t.sampling view.entries)
  let report :=
    match session.result with
    | .ok () => []
    | .error e => failureReport "Failed to connect to RabbitMQ" [e.message]
  { exitCode := if report.isEmpty then 0 else 1
    methods := session.methods
    lines := view.lines ++ (View.ofEntries t.filter (outside exportLogs)).lines
    exports, report }

/-- What a process does. -/
def run (s : Surroundings) : ProgramRun :=
  match Config.ofEnvironment s.environment s.envFile with
  | .error e =>
    { exitCode := 1
      report := failureReport "Failed to load configuration" [e.message, e.cause.message] }
  | .ok config =>
    -- The variables of telemetry may come from the environment file too.
    work s config (EnvFile.load s.environment s.envFile).get?

end Program

end Courier
