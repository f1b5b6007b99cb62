import Courier.Command.Decode
import Courier.Journal.Entry
import Courier.Timer
import Courier.Worker

/-!
# The work on a delivery

The work on one delivery goes through a few stages (`Stage`):

```text
received ──► settling (poison)
   │
   └──► due ──► calling ──► settling (acknowledged, exhausted) ──► finished
         ▲  │      │
         │  │      └──► waiting ──► settling (interrupted)
         │  └─────────────│───────► settling (interrupted)
         └────────────────┘
```

Shutdown is looked for before every attempt and during every wait, never during a call.

`Worker.step` takes the work one stage further, as a function of the stage and the `World`, and says
what it did.  `Stage.isReady` says when a stage can go further at once: every stage but the end can,
apart from a call and a wait whose time has not come.
-/

namespace Courier

/-- A delivery that holds a command. -/
structure Job where
  delivery : Delivery
  command : Command
  ids : CorrelationIds

/-- A delivery whose outcome is known. -/
structure Settlement where
  delivery : Delivery
  outcome : Outcome
  ids : CorrelationIds
  /-- The attempt whose span is still open: the one that succeeded. -/
  attempt : Option UInt32 := none

/-- How far the work on a delivery is. -/
inductive Stage where
  /-- Nothing has been done. -/
  | received (d : Delivery)
  /-- The attempt of the given number may start. -/
  | due (job : Job) (n : UInt32)
  /-- The handler runs since the given time. -/
  | calling (job : Job) (n : UInt32) (since : Nat) (reply : Reply)
  /-- The attempt failed, and the next one starts at the given time. -/
  | waiting (job : Job) (n : UInt32) (until_ : Nat)
  /-- The terminal action is due. -/
  | settling (s : Settlement)
  | finished (outcome : Outcome)
  /-- The handler broke down. -/
  | broken (text : String)

/-- What a step leads to, and what it did. -/
structure Progress (σ : Type) where
  world : World σ
  stage : Stage
  entries : List Entry

namespace Worker

variable {σ : Type} (w : Worker σ)

/-! ### Log records -/

/-- The fields that name the worker and the delivery. -/
def idFields (ids : CorrelationIds) : List (String × FieldValue) :=
  [("worker_id", .shown w.identity.workerId), ("message_id", .shown ids.messageId),
   ("correlation_id", .shown ids.correlationId)]

/-- The same fields, with the pod. -/
def podFields (ids : CorrelationIds) : List (String × FieldValue) :=
  [("worker_id", .shown w.identity.workerId), ("pod", .shown w.identity.podName),
   ("message_id", .shown ids.messageId), ("correlation_id", .shown ids.correlationId)]

/-- The fields that count attempts. -/
def attemptFields (n : UInt32) : List (String × FieldValue) :=
  [("attempt", .number n.toNat), ("max_attempts", .number w.policy.maxAttempts.toNat)]

/-- A record inside the span of the delivery. -/
def log (level : Level) (message : String) (fields : List (String × FieldValue)) : Entry :=
  .logged (some .handle) ⟨.processing, level, message, fields⟩

/-! ### Entries -/

/-- Opens the span of a delivery. -/
def openHandle (d : Delivery) : List Entry :=
  let text (key value : String) : Entry := .recorded .handle key (.text value)
  [.opened .handle, text "messaging.system" "rabbitmq", text "messaging.destination" w.queue,
   text "messaging.operation" "process", text "amqp.exchange" d.properties.exchange,
   text "amqp.routing_key" d.properties.routingKey,
   text "amqp.consumer_tag" d.properties.consumerTag,
   text "hireflow.worker_id" w.identity.workerId] ++
  (nonEmpty d.properties.messageId).toList.map (text "messaging.message_id") ++ [.entered .handle]

/-- Labels the span of a delivery with what its payload says. -/
def labelHandle (job : Job) : List Entry :=
  [.recorded .handle "messaging.message_id" (.text job.ids.messageId),
   .recorded .handle "hireflow.correlation_id" (.text job.ids.correlationId),
   .recorded .handle "hireflow.application_id" (.text job.command.applicationId),
   .recorded .handle "hireflow.job_id" (.number job.command.jobId.toInt),
   .recorded .handle "notification.type" (.text job.command.kind)]

/-- Marks the span of a delivery as failed. -/
def fail (text : String) : Entry := .marked .handle (.error text)

/-- Reports the outcome of a command. -/
def report (ids : CorrelationIds) (outcome : Outcome) : List Entry :=
  let attempts := [("attempts", FieldValue.number outcome.attempts.toNat)]
  match outcome with
  | .acknowledged _ =>
    [.marked .handle .ok, log .info "message processed" (w.idFields ids ++ attempts)]
  | .exhausted _ =>
    [log .error "max attempts reached, sending to DLQ" (w.podFields ids ++ attempts)]
  | .interrupted _ =>
    [log .info "worker terminating, requeueing message" (w.idFields ids ++ attempts)]
  | .poison => []

/-! ### Steps -/

/-- Does the worker see that shutdown has begun? -/
def seesShutdown (world : World σ) : Bool := w.heedsShutdown && world.isCancelled

/-- The outcome of a command is known. -/
def conclude (world : World σ) (job : Job) (outcome : Outcome) (attempt : Option UInt32)
    (entries : List Entry) : Progress σ :=
  ⟨world, .settling ⟨job.delivery, outcome, job.ids, attempt⟩,
    entries ++ w.report job.ids outcome⟩

/-- The ids of a payload that is no command: what the broker says, or nothing. -/
def poisonIds (d : Delivery) : CorrelationIds :=
  ⟨d.properties.messageId.getD "", d.properties.correlationId.getD ""⟩

/-- Sends a payload that is no command away. -/
def reject (world : World σ) (d : Delivery) (e : DecodeError) : Progress σ :=
  let ids := poisonIds d
  ⟨world, .settling { delivery := d, outcome := .poison, ids },
    w.openHandle d ++
      [fail "invalid json",
       log .error "invalid message, sending to DLQ"
        (w.podFields ids ++ [("error", .shown e.message), ("payload", .shown e.rawLossy)])]⟩

/-- The ids of a command, and the token that they needed, if any. -/
def identify (world : World σ) (d : Delivery) (command : Command) :
    CorrelationIds × Option String :=
  -- The token counts as drawn only where it is used.
  let token := w.tokens world.drawn
  let ids := CorrelationIds.derive d.properties.messageId d.properties.correlationId d.headers
    command token
  match CorrelationIds.givenMessageId d.properties.messageId d.headers with
  | some _ => (ids, none)
  | none => (ids, some token)

/-- Takes a command up. -/
def accept (world : World σ) (d : Delivery) (command : Command) : Progress σ :=
  let (ids, token?) := w.identify world d command
  let job : Job := ⟨d, command, ids⟩
  ⟨{ world with drawn := world.drawn + token?.toList.length }, .due job 1,
    w.openHandle d ++ token?.toList.map Entry.drew ++ labelHandle job⟩

/-- Reads the payload. -/
def receive (world : World σ) (d : Delivery) : Progress σ :=
  match Command.decode d.payload with
  | .error e => w.reject world d e
  | .ok command => w.accept world d command

/-- What the handler gets to know. -/
def callOf (job : Job) (n : UInt32) : Call where
  worker := w.identity
  ids := job.ids
  attempt := n
  command := job.command
  trace := .ofContext w.sampling (.extract job.delivery.headers)

/-- Calls the handler. -/
def call (world : World σ) (job : Job) (n : UInt32) : Progress σ :=
  let (reply, memory) := w.handler.call world.memory (w.callOf job n)
  let world := { world with memory }
  -- A call that asks for shutdown does so at its start, and is not cut short.
  ⟨if reply.cancels then world.cancel else world,
    .calling job n world.now reply,
    [.opened (.attempt n), .recorded (.attempt n) "attempt" (.text (decimal n.toNat)),
     .entered (.attempt n), .called (w.callOf job n)] ++
      reply.logs.map (Entry.logged (some (.attempt n)))⟩

/-- Starts an attempt, unless shutdown has begun. -/
def attempt (world : World σ) (job : Job) (n : UInt32) : Progress σ :=
  if w.seesShutdown world then
    w.conclude world job (.interrupted (n - 1)) none
      [fail "terminated before attempt; requeue",
       log .info "shutdown in progress, not starting attempt"
        (w.idFields job.ids ++ w.attemptFields n)]
  else w.call world job n

/-- A wait as the log's 64-bit counter shows it. -/
def shownWait (wait : Nat) : Nat := wait % wordBound

/-- Goes on after a failed call: waits for the next attempt if there is one. -/
def retry (world : World σ) (job : Job) (n : UInt32) (e : HandlerError) : Progress σ :=
  let failed : List Entry :=
    [.returned (.failed e), .marked (.attempt n) (.error "handler failed"), .closed (.attempt n),
     log .warn "handler failed" (w.podFields job.ids ++ w.attemptFields n ++
      [("kind", .literal e.kind), ("error", .shown e.message)])]
  match w.policy.backoffAfter n with
  | none =>
    w.conclude world job (.exhausted n) none (failed ++ [fail "max attempts reached; dlq"])
  | some wait =>
    ⟨world, .waiting job n (alarm world.now wait),
      failed ++
        [log .info "backing off before retrying" (w.idFields job.ids ++ w.attemptFields n ++
          [("backoff_ms", .number (shownWait wait))]),
         .waiting wait]⟩

/-- Goes on after a call. -/
def conclusion (world : World σ) (job : Job) (n : UInt32) (result : CallResult) : Progress σ :=
  match result with
  | .succeeded =>
    w.conclude world job (.acknowledged n) (some n)
      [.returned .succeeded, .marked (.attempt n) .ok]
  | .failed e => w.retry world job n e
  | .panicked text =>
    ⟨world, .broken text,
      [.returned (.panicked text), .closed (.attempt n), .closed .handle, .broke text]⟩

/-- Ends a wait. -/
def wake (world : World σ) (job : Job) (n : UInt32) : Progress σ :=
  if w.seesShutdown world then
    w.conclude world job (.interrupted n) none
      [.woke true, fail "terminated during backoff; requeue",
       log .info "shutdown during backoff" (w.idFields job.ids ++ w.attemptFields n)]
  else ⟨world, .due job (n + 1), [.woke false]⟩

/-- Asks the broker for the terminal action.  A refusal is logged, and changes nothing else. -/
def settle (world : World σ) (s : Settlement) : Progress σ :=
  let action := s.outcome.disposition
  let call := s.delivery.settle action
  -- A refusal is marked on the innermost span that is open.
  let span : SpanName := (s.attempt.map SpanName.attempt).getD .handle
  let refused : List Entry :=
    match call.answer with
    | .ok () => []
    | .error e =>
      [.marked span (.error (action.name ++ " failed")),
       log .error "failed to settle message"
        (w.podFields s.ids ++ [("disposition", .literal action.name), ("error", .shown e.message)])]
  let closing := s.attempt.toList.map fun n => Entry.closed (.attempt n)
  ⟨world, .finished s.outcome,
    [.settled action call] ++ refused ++ closing ++ [.closed .handle, .ended s.outcome]⟩

/-- Takes the work on a delivery one stage further; where it has to wait, nothing changes. -/
def step (world : World σ) (stage : Stage) : Progress σ :=
  match stage with
  | .received d => w.receive world d
  | .due job n => w.attempt world job n
  | .calling job n since reply =>
    if reply.endsAt since ≤ world.now then w.conclusion world job n reply.result
    else ⟨world, stage, []⟩
  | .waiting job n until_ =>
    if w.seesShutdown world ∨ until_ ≤ world.now then w.wake world job n else ⟨world, stage, []⟩
  | .settling s => w.settle world s
  | .finished _ | .broken _ => ⟨world, stage, []⟩

end Worker

namespace Stage

/-- Has the work come to its end? -/
def isFinal : Stage → Bool
  | finished _ | broken _ => true
  | _ => false

/-- Can the work go further at once? -/
def isReady {σ : Type} (w : Worker σ) (world : World σ) : Stage → Bool
  | received _ | due _ _ | settling _ => true
  | calling _ _ since reply => reply.endsAt since ≤ world.now
  | waiting _ _ until_ => w.seesShutdown world || until_ ≤ world.now
  | finished _ | broken _ => false

/-- Is it a wait between two attempts? -/
def isWaiting : Stage → Bool
  | waiting _ _ _ => true
  | _ => false

/-- Does the next step see a timer go off?  A call that takes no time has set none, and a wait that
shutdown ends does not look at its own. -/
def seesTimer {σ : Type} (w : Worker σ) (world : World σ) : Stage → Bool
  | calling _ _ _ reply => reply.duration ≠ 0
  | waiting _ _ _ => !w.seesShutdown world
  | _ => false

end Stage

end Courier
