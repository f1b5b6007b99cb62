import Courier.Text.Quoted

/-!
# Log records

A `LogRecord` is one event for the log: the part of the worker that it comes from, a level, a
message, and named fields in the order in which they are written.
-/

namespace Courier

/-- How much a record matters. -/
inductive Level where
  | error
  | warn
  | info
  | debug
  deriving DecidableEq, Repr

/-- The name of a level. -/
def Level.name : Level → String
  | .error => "ERROR"
  | .warn => "WARN"
  | .info => "INFO"
  | .debug => "DEBUG"

/-- The value of a field. -/
inductive FieldValue where
  /-- A text that the log shows as it is. -/
  | shown (s : String)
  /-- A text that the log shows between quotes. -/
  | literal (s : String)
  | number (n : Nat)
  deriving DecidableEq, Repr

/-- The value as a line of the log shows it. -/
def FieldValue.text : FieldValue → String
  | .shown s => s
  | .literal s => quoted s
  | .number n => decimal n

/-- The parts of a worker process. -/
inductive Part where
  | main
  | telemetry
  | session
  | loop
  | processing
  | handler
  | shutdown
  deriving DecidableEq, Repr

/-- The name of the worker, as log filters know it. -/
def workerTarget : String := "notifications_worker"

/-- The name of a part, as log filters know it. -/
def Part.target : Part → String
  | .main => workerTarget
  | .telemetry => workerTarget ++ "::telemetry"
  | .session => workerTarget ++ "::amqp"
  | .loop => workerTarget ++ "::consumer"
  | .processing => workerTarget ++ "::processor"
  | .handler => workerTarget ++ "::handler"
  | .shutdown => workerTarget ++ "::shutdown"

/-- An event for the log. -/
structure LogRecord where
  /-- The part that the event happened in. -/
  part : Part
  level : Level
  message : String
  fields : List (String × FieldValue)
  deriving DecidableEq, Repr

/-- The record without its level, on one line. -/
def LogRecord.text (r : LogRecord) : String :=
  " ".intercalate (r.message :: r.fields.map fun (name, value) => name ++ "=" ++ value.text)

end Courier
