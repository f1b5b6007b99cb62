import Courier.Journal.Record

/-!
# Signals

The first signal to end begins shutdown; later ones change nothing.
-/

namespace Courier

/-- A signal that asks the process to end. -/
inductive Signal where
  | interrupt
  | terminate
  deriving DecidableEq, Repr

/-- The name of a signal. -/
def Signal.name : Signal → String
  | .interrupt => "SIGINT"
  | .terminate => "SIGTERM"

/-- What watches for signals, on behalf of a worker. -/
structure SignalWatch where
  workerId : String
  /-- Has a signal come? -/
  isFinished : Bool := false
  /-- Has shutdown begun? -/
  isCancelled : Bool := false
  deriving DecidableEq, Repr

namespace SignalWatch

/-- Shutdown begins for another reason. -/
def cancel (w : SignalWatch) : SignalWatch := { w with isCancelled := true }

/-- The record of the first signal. -/
def record (w : SignalWatch) (signal : Signal) : LogRecord :=
  ⟨.shutdown, .info, "received shutdown signal",
    [("worker_id", .shown w.workerId), ("signal", .literal signal.name)]⟩

/-- A signal comes. -/
def receive (w : SignalWatch) (signal : Signal) : SignalWatch × List LogRecord :=
  if w.isFinished then (w, [])
  else ({ w with isFinished := true, isCancelled := true }, [w.record signal])

end SignalWatch

end Courier
