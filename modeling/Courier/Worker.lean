import Courier.Handler
import Courier.Retry

/-!
# Workers and their world

A `Worker` is what stays the same while deliveries are processed: who the worker is, its queue, its
retry policy, its handler.  A `World` is what changes: the clock, the beginning of shutdown, the
tokens drawn, the handler's memory.
-/

namespace Courier

/-- A worker process, with what it does its work by. -/
structure Worker (σ : Type) where
  identity : WorkerIdentity
  queue : String
  policy : RetryPolicy := .standard
  handler : Handler σ
  /-- The source of fresh tokens. -/
  tokens : Nat → String
  /-- Does the worker's own work stop at shutdown? -/
  heedsShutdown : Bool := true
  sampling : Sampling := {}

/-- What the work on a delivery depends on and changes. -/
structure World (σ : Type) where
  /-- The clock, in milliseconds. -/
  now : Nat := 0
  /-- The time at which shutdown begins or began, if it does. -/
  cancelAt : Option Nat := none
  /-- The number of tokens drawn. -/
  drawn : Nat := 0
  /-- What the handler remembers. -/
  memory : σ

namespace World

variable {σ : Type}

/-- Has shutdown begun? -/
def isCancelled (world : World σ) : Bool := world.cancelAt.any (· ≤ world.now)

/-- Shutdown begins now, unless it has begun before. -/
def cancel (world : World σ) : World σ :=
  { world with cancelAt := some (min world.now (world.cancelAt.getD world.now)) }

end World

end Courier
