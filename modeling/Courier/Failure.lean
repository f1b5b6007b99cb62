import Courier.Text.Digits

/-!
# What can go wrong at the broker

A `Disposition` is the terminal action that a delivery gets.  A `WorkerError` is a failure of the
broker side: `WorkerError.message` is its wording in logs.
-/

namespace Courier

/-- The terminal action for a delivery. -/
inductive Disposition where
  /-- Done: the message leaves the queue. -/
  | acknowledge
  /-- Back to the queue, for any worker. -/
  | requeue
  /-- Away from the queue: its dead-letter exchange gets the message. -/
  | deadLetter
  deriving DecidableEq, Repr

/-- The short name of a disposition. -/
def Disposition.name : Disposition → String
  | .acknowledge => "ack"
  | .requeue => "requeue"
  | .deadLetter => "dead-letter"

/-- A failure of the broker side. -/
inductive WorkerError where
  /-- The connection, the queue or the consumer could not be set up. -/
  | setup (reason : String)
  /-- The stream of deliveries reported an error. -/
  | stream (reason : String)
  /-- A terminal action did not get through. -/
  | settle (action : Disposition) (reason : String)
  /-- The broker did not take the request to stop deliveries. -/
  | stopIntake (reason : String)
  /-- A retry policy whose schedule does not fit its number of attempts. -/
  | invalidPolicy (reason : String)
  deriving DecidableEq, Repr

/-- The wording of a failure. -/
def WorkerError.message : WorkerError → String
  | .setup reason => "broker setup failed: " ++ reason
  | .stream reason => "delivery stream error: " ++ reason
  | .settle action reason => "failed to " ++ action.name ++ " delivery: " ++ reason
  | .stopIntake reason => "failed to stop intake: " ++ reason
  | .invalidPolicy reason => "invalid retry policy: " ++ reason

end Courier
