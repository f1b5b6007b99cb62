import Courier.Failure

/-!
# Outcomes

An `Outcome` says how a delivery ended; it fixes the terminal action (`Outcome.disposition`) and the
number of times that the handler was called (`Outcome.attempts`).  A `Tally` counts the outcomes of
one run, and the stream errors in between, in 64 bits each.
-/

namespace Courier

/-- How a delivery ended. -/
inductive Outcome where
  /-- The handler succeeded at the last of so many attempts. -/
  | acknowledged (attempts : UInt32)
  /-- The payload is no command; the handler was not called. -/
  | poison
  /-- Every attempt failed. -/
  | exhausted (attempts : UInt32)
  /-- Shutdown began before the next attempt could start. -/
  | interrupted (attempts : UInt32)
  deriving DecidableEq, Repr

namespace Outcome

/-- The terminal action that goes with an outcome. -/
def disposition : Outcome → Disposition
  | acknowledged _ => .acknowledge
  | poison | exhausted _ => .deadLetter
  | interrupted _ => .requeue

/-- The number of handler calls made. -/
def attempts : Outcome → UInt32
  | poison => 0
  | acknowledged n | exhausted n | interrupted n => n

end Outcome

/-- Counts of outcomes and of stream errors. -/
structure Tally where
  acknowledged : UInt64 := 0
  poisoned : UInt64 := 0
  exhausted : UInt64 := 0
  requeued : UInt64 := 0
  streamErrors : UInt64 := 0
  deriving DecidableEq, Repr

namespace Tally

instance : Inhabited Tally := ⟨{}⟩

/-- Counts one more outcome. -/
def record (t : Tally) : Outcome → Tally
  | .acknowledged _ => { t with acknowledged := t.acknowledged + 1 }
  | .poison => { t with poisoned := t.poisoned + 1 }
  | .exhausted _ => { t with exhausted := t.exhausted + 1 }
  | .interrupted _ => { t with requeued := t.requeued + 1 }

/-- Counts one more stream error. -/
def recordStreamError (t : Tally) : Tally := { t with streamErrors := t.streamErrors + 1 }

/-- The number of deliveries that came to an end. -/
def processed (t : Tally) : UInt64 := t.acknowledged + t.poisoned + t.exhausted + t.requeued

end Tally

end Courier
