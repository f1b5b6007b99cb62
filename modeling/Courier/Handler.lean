import Courier.Identity
import Courier.Journal.Record
import Courier.Timer
import Courier.Trace.Link

/-!
# Handlers

A handler carries out commands.  The worker knows nothing about it but what a `Reply` says: how a
call ended, how long it took, whether it asked for shutdown, and what it logged.  A handler may
remember earlier calls, so its replies depend on a memory `σ` that each call may change.

Three handlers come with the library: `Handler.logging` only writes a log record,
`Handler.scripted` fails a number of times before it succeeds, and `Handler.stepwise` replies as a
list says.
-/

namespace Courier

/-- Why a call failed.  Both kinds are tried again; they differ in the log only. -/
inductive HandlerError where
  | transient (reason : String)
  | permanent (reason : String)
  deriving DecidableEq, Repr

namespace HandlerError

/-- The name of the kind of failure. -/
def kind : HandlerError → String
  | transient _ => "transient"
  | permanent _ => "permanent"

/-- The wording of a failure. -/
def message : HandlerError → String
  | transient reason => "transient failure: " ++ reason
  | permanent reason => "permanent failure: " ++ reason

end HandlerError

/-- How a call ended. -/
inductive CallResult where
  | succeeded
  | failed (e : HandlerError)
  /-- The handler broke down; the work on the delivery ends with it. -/
  | panicked (text : String)
  deriving DecidableEq, Repr

/-- What a handler gets to know about a call. -/
structure Call where
  worker : WorkerIdentity
  ids : CorrelationIds
  /-- The number of the attempt, from one. -/
  attempt : UInt32
  command : Command
  trace : TraceLink
  deriving DecidableEq

/-- What a call did. -/
structure Reply where
  result : CallResult
  /-- The time the call took, in milliseconds. -/
  duration : Nat := 0
  /-- Did the call ask for shutdown, at its start? -/
  cancels : Bool := false
  logs : List LogRecord := []

/-- The time at which a call ends that began at the given time. -/
def Reply.endsAt (r : Reply) (since : Nat) : Nat := since + r.duration

/-- Carries out commands, with a memory of type `σ`. -/
structure Handler (σ : Type) where
  call : σ → Call → Reply × σ

namespace Handler

/-! ### Logging -/

/-- The log record in place of a mail. -/
def notification (c : Call) : LogRecord where
  part := .handler
  level := .info
  message := "NOTIFY SendEmail"
  fields :=
    [("worker_id", .shown c.worker.workerId), ("pod", .shown c.worker.podName),
     ("correlation_id", .shown c.ids.correlationId), ("attempt", .number c.attempt.toNat),
     ("to", .shown c.command.recipient), ("subject", .shown c.command.subject),
     ("application_id", .shown c.command.applicationId)]

/-- Logs the mail and succeeds. -/
def logging : Handler Unit where
  call _ c := ({ result := .succeeded, logs := [notification c] }, ())

/-! ### A number of failures -/

/-- What a scripted handler remembers. -/
structure Script where
  /-- The failures still to come; `none` for failures without end. -/
  failuresLeft : Option Nat
  /-- The calls so far, first call first. -/
  calls : List Call := []

/-- The failure of the call of the given number, counted from one. -/
def scriptedFailure (number : Nat) : HandlerError :=
  .transient ("simulated transient failure (call " ++ decimal number ++ ")")

/-- Fails as often as its script says, then succeeds.  The call of number `cancelOn`, if there is
one, asks for shutdown. -/
def scripted (cancelOn : Option Nat) : Handler Script where
  call s c :=
    -- Calls count from one, over all deliveries.
    let number := s.calls.length + 1
    let cancels := cancelOn == some number
    let calls := s.calls ++ [c]
    match s.failuresLeft with
    | none => ({ result := .failed (scriptedFailure number), cancels }, ⟨none, calls⟩)
    | some 0 => ({ result := .succeeded, cancels }, ⟨some 0, calls⟩)
    | some (n + 1) => ({ result := .failed (scriptedFailure number), cancels }, ⟨some n, calls⟩)

/-! ### A list of replies -/

/-- The replies still to come; the last one is given again and again. -/
structure Replies where
  next : Reply
  later : List Reply := []

/-- The reply of a handler that passes the time of its call by sleeping. -/
def asleep (r : Reply) : Reply := { r with duration := min r.duration longestWait }

/-- Replies as a list says, and sleeps through each call. -/
def stepwise : Handler Replies where
  call s _ :=
    match s.later with
    | [] => (asleep s.next, s)
    | next :: later => (asleep s.next, ⟨next, later⟩)

end Handler

end Courier
