import Courier.Failure

/-!
# Retry policies

A `RetryPolicy` is a list of waits, in milliseconds, with the number of attempts that it allows:
one more than there are waits.  Attempts are counted in 32 bits, from one.

* `RetryPolicy.ofSchedule` takes the number of attempts from the schedule.
* `RetryPolicy.new?` takes both and checks that they fit.
* `RetryPolicy.backoffAfter` is the wait after a failed attempt, if another one may follow.
-/

namespace Courier

/-- How often a delivery is tried, and how long to wait in between. -/
structure RetryPolicy where
  maxAttempts : UInt32
  schedule : List Nat
  deriving DecidableEq, Repr

namespace RetryPolicy

/-- Three attempts, with waits of one and three seconds. -/
def standard : RetryPolicy := ⟨3, [1000, 3000]⟩

instance : Inhabited RetryPolicy := ⟨standard⟩

/-- The policy that goes through the given waits. -/
def ofSchedule (schedule : List Nat) : RetryPolicy :=
  ⟨UInt32.ofNat schedule.length + 1, schedule⟩

/-- The policy of the given number of attempts and waits, if they fit. -/
def new? (maxAttempts : UInt32) (schedule : List Nat) : Except WorkerError RetryPolicy :=
  if maxAttempts = 0 then .error (.invalidPolicy "max_attempts must be at least 1")
  else if UInt32.ofNat schedule.length ≠ maxAttempts - 1 then
    .error (.invalidPolicy ("schedule has " ++ decimal schedule.length ++ " entries, expected " ++
      decimal (maxAttempts - 1).toNat ++ " for " ++ decimal maxAttempts.toNat ++ " attempts"))
  else .ok ⟨maxAttempts, schedule⟩

/-- The wait between a failed attempt and the next one; `none` after the last attempt. -/
def backoffAfter (p : RetryPolicy) (attempt : UInt32) : Option Nat :=
  if attempt = 0 ∨ p.maxAttempts ≤ attempt then none else p.schedule[attempt.toNat - 1]?

theorem lt_maxAttempts_of_backoffAfter {p : RetryPolicy} {attempt : UInt32} {wait : Nat}
    (h : p.backoffAfter attempt = some wait) : attempt < p.maxAttempts := by
  unfold backoffAfter at h
  split at h
  · simp at h
  · rename_i hn
    exact UInt32.not_le.1 fun hle => hn (Or.inr hle)

end RetryPolicy

end Courier
