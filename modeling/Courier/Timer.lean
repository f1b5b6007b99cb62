/-!
# Sleeping

Whoever sleeps is woken after the wait, but no sleep lasts longer than `longestWait`: a longer one
ends with it.  This is so for sleeping only.  A time limit that is set for somebody else's work runs
for as long as it says.
-/

namespace Courier

/-- The longest time that a sleep lasts, in milliseconds: thirty years of 365 days. -/
def longestWait : Nat := 30 * 365 * 86400 * 1000

/-- The time at which a sleep ends that is begun for the given wait. -/
def alarm (now wait : Nat) : Nat := now + min wait longestWait

theorem le_alarm (now wait : Nat) : now ≤ alarm now wait := Nat.le_add_right _ _

end Courier
