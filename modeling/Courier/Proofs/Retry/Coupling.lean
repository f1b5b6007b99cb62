import Courier.Proofs.Processing.Course

/-!
# How attempts and waits are coupled

A policy should hold one wait less than it allows attempts (`RetryPolicy.IsCoupled`).  Attempts are
counted in 32 bits and waits are not, so the number of waits is cut down to 32 bits before the two
are compared, and all that is known of a policy that was made (`RetryPolicy.IsMade`) is that they
agree modulo `UInt32.size`, which is `2 ^ 32`.

* `new?_eq_ok_iff` says what `new?` accepts, and `IsMade.toNat_maxAttempts` what is known of every
  policy that was made, whichever way.
* `IsMade.isCoupled_iff`: such a policy is coupled exactly when its waits, and one more, can be
  counted in 32 bits.
* `IsMade.backoffAfter_eq`: coupled or not, it has a wait after every attempt but the last, because
  cutting the number of waits down only ever takes attempts away.

`coupled_modulo_width` puts these together, and `not_coupled_of_wrapped` goes to the edge, where a
policy with `2 ^ 32` waits allows one attempt.
-/

namespace Courier.RetryPolicy

variable {n attempt : UInt32} {schedule : List Nat} {p : RetryPolicy}

/-- The policies that can be made: from waits alone, or from waits and a number of attempts. -/
inductive IsMade : RetryPolicy → Prop
  | ofSchedule (schedule : List Nat) : IsMade (ofSchedule schedule)
  | new {n : UInt32} {schedule : List Nat} {p : RetryPolicy} (h : new? n schedule = .ok p) :
    IsMade p

/-! ### What `new?` accepts -/

theorem one_le_iff_ne_zero : 1 ≤ n ↔ n ≠ 0 := by
  rw [← UInt32.pos_iff_ne_zero, UInt32.lt_iff_toNat_lt, UInt32.le_iff_toNat_le]
  rfl

/-- Cut down to 32 bits, the number of waits is compared with the number of further attempts. -/
theorem ofNat_eq_sub_one_iff {k : Nat} (hn : 1 ≤ n) :
    UInt32.ofNat k = n - 1 ↔ k % UInt32.size = n.toNat - 1 := by
  rw [← UInt32.toNat_inj, UInt32.toNat_ofNat', UInt32.toNat_sub_of_le n 1 hn]
  rfl

/-- `new?` gives a policy exactly when there is an attempt, and as many waits, modulo `2 ^ 32`, as
there are further attempts. -/
theorem new?_eq_ok_iff :
    new? n schedule = .ok p ↔
      (1 ≤ n ∧ schedule.length % UInt32.size = n.toNat - 1) ∧ p = ⟨n, schedule⟩ := by
  unfold new?
  split
  next hzero =>
    constructor
    · intro h
      cases h
    · rintro ⟨⟨hpos, -⟩, -⟩
      exact absurd hzero (one_le_iff_ne_zero.1 hpos)
  next hzero =>
    have hpos : 1 ≤ n := one_le_iff_ne_zero.2 hzero
    have hfit := ofNat_eq_sub_one_iff (k := schedule.length) hpos
    split
    next hne =>
      constructor
      · intro h
        cases h
      · rintro ⟨⟨-, h⟩, -⟩
        exact absurd (hfit.2 h) hne
    next heq =>
      rw [Except.ok.injEq]
      exact ⟨fun h => ⟨⟨hpos, hfit.1 (Decidable.not_not.1 heq)⟩, h.symm⟩, fun h => h.2.symm⟩

theorem exists_new?_eq_ok_iff :
    (∃ p, new? n schedule = .ok p) ↔ 1 ≤ n ∧ schedule.length % UInt32.size = n.toNat - 1 := by
  constructor
  · rintro ⟨p, h⟩
    exact (new?_eq_ok_iff.1 h).1
  · intro h
    exact ⟨⟨n, schedule⟩, new?_eq_ok_iff.2 ⟨h, rfl⟩⟩

/-! ### Policies that were made -/

namespace IsMade

/-- Attempts and waits agree modulo `2 ^ 32`, however the policy was made. -/
theorem toNat_maxAttempts (h : p.IsMade) :
    p.maxAttempts.toNat = (p.schedule.length + 1) % UInt32.size := by
  cases h with
  | ofSchedule schedule =>
    rw [RetryPolicy.ofSchedule, UInt32.toNat_add, UInt32.toNat_ofNat']
    exact Nat.mod_add_mod _ _ _
  | @new n schedule _ h =>
    obtain ⟨⟨hn, hfit⟩, rfl⟩ := new?_eq_ok_iff.1 h
    have hpos : 1 ≤ n.toNat := UInt32.le_iff_toNat_le.1 hn
    have hlt : n.toNat < UInt32.size := n.toNat_lt_size
    -- One more than the remainder is the number of attempts, which fits, so nothing is cut off here.
    simp only [UInt32.size] at hfit hlt ⊢
    omega

theorem isCoupled_iff (h : p.IsMade) : p.IsCoupled ↔ p.schedule.length + 1 < UInt32.size := by
  unfold IsCoupled
  rw [h.toNat_maxAttempts]
  constructor
  · intro heq
    rw [heq]
    exact Nat.mod_lt _ (by decide)
  · intro hlt
    rw [Nat.mod_eq_of_lt hlt]

theorem one_le_maxAttempts_iff (h : p.IsMade) :
    1 ≤ p.maxAttempts ↔ (p.schedule.length + 1) % UInt32.size ≠ 0 := by
  rw [one_le_iff_ne_zero, ne_eq, ← UInt32.toNat_inj, h.toNat_maxAttempts]
  rfl

/-- There are never more attempts than waits and one, so no wait is missing. -/
theorem toNat_sub_one_lt (h : p.IsMade) (hpos : 1 ≤ attempt) (hlt : attempt < p.maxAttempts) :
    attempt.toNat - 1 < p.schedule.length := by
  have hpos' : 1 ≤ attempt.toNat := UInt32.le_iff_toNat_le.1 hpos
  have hle : p.maxAttempts.toNat ≤ p.schedule.length + 1 := by
    rw [h.toNat_maxAttempts]
    exact Nat.mod_le _ _
  have hlt' : attempt.toNat < p.maxAttempts.toNat := UInt32.lt_iff_toNat_lt.1 hlt
  omega

/-- However many waits there are, each attempt but the last is followed by the one of its number. -/
theorem backoffAfter_eq (h : p.IsMade) (hpos : 1 ≤ attempt) (hlt : attempt < p.maxAttempts) :
    ∃ hi : attempt.toNat - 1 < p.schedule.length,
      p.backoffAfter attempt = some p.schedule[attempt.toNat - 1] := by
  have hi := h.toNat_sub_one_lt hpos hlt
  have hin : ¬ (attempt = 0 ∨ p.maxAttempts ≤ attempt) := by
    rintro (hzero | hle)
    · exact one_le_iff_ne_zero.1 hpos hzero
    · exact UInt32.not_le.2 hlt hle
  refine ⟨hi, ?_⟩
  rw [backoffAfter, if_neg hin, List.getElem?_eq_getElem hi]

end IsMade

/-- No other number has a wait. -/
theorem backoffAfter_eq_none (p : RetryPolicy) (h : ¬ (1 ≤ attempt ∧ attempt < p.maxAttempts)) :
    p.backoffAfter attempt = none := by
  unfold backoffAfter
  refine if_pos ?_
  by_cases hzero : attempt = 0
  · exact Or.inl hzero
  · exact Or.inr (UInt32.not_lt.1 fun hlt => h ⟨one_le_iff_ne_zero.2 hzero, hlt⟩)

/-! ### The coupling and the width of the counter -/

/-- **Coupling modulo the width of the counter.**  `new?` accepts a positive number of attempts with
waits for all but one of them, counted modulo `2 ^ 32`; so below `2 ^ 32` waits it accepts exactly
what is coupled.  A policy that was made allows an attempt unless the number of its waits, and one
more, is a multiple of `2 ^ 32`, and is coupled exactly when that number can be counted in 32 bits.
And under any policy that was made, coupled or not, the wait of its number follows each attempt but
the last. -/
theorem coupled_modulo_width (n : UInt32) (schedule : List Nat) :
    ((∃ p, new? n schedule = .ok p) ↔ 1 ≤ n ∧ schedule.length % UInt32.size = n.toNat - 1) ∧
    (schedule.length < UInt32.size →
      ((∃ p, new? n schedule = .ok p) ↔ 1 ≤ n ∧ schedule.length = n.toNat - 1)) ∧
    ∀ p, IsMade p →
      (1 ≤ p.maxAttempts ↔ (p.schedule.length + 1) % UInt32.size ≠ 0) ∧
      (p.IsCoupled ↔ p.schedule.length + 1 < UInt32.size) ∧
      ∀ attempt : UInt32,
        (1 ≤ attempt ∧ attempt < p.maxAttempts →
          ∃ hi : attempt.toNat - 1 < p.schedule.length,
            p.backoffAfter attempt = some p.schedule[attempt.toNat - 1]) ∧
        (¬ (1 ≤ attempt ∧ attempt < p.maxAttempts) → p.backoffAfter attempt = none) := by
  refine ⟨exists_new?_eq_ok_iff, ?_, ?_⟩
  · intro hlt
    rw [exists_new?_eq_ok_iff, Nat.mod_eq_of_lt hlt]
  · intro p hp
    exact ⟨hp.one_le_maxAttempts_iff, hp.isCoupled_iff, fun attempt =>
      ⟨fun h => hp.backoffAfter_eq h.1 h.2, p.backoffAfter_eq_none⟩⟩

/-- The standard policy is the one that `new?` gives for its values; it is coupled, its second
attempt is followed by the second wait, and its third by none. -/
theorem coupled_modulo_width_standard :
    new? 3 [1000, 3000] = .ok standard ∧ (∃ p, new? 3 [1000, 3000] = .ok p) ∧
      standard.IsCoupled ∧ standard.backoffAfter 2 = some 3000 ∧
      standard.backoffAfter 3 = none := by
  have hnew : new? 3 [1000, 3000] = .ok standard := rfl
  obtain ⟨-, hbelow, hmade⟩ := coupled_modulo_width 3 [1000, 3000]
  obtain ⟨-, hcoupled, hwaits⟩ := hmade standard (.new hnew)
  obtain ⟨_, hsecond⟩ := (hwaits 2).1 (by decide)
  exact ⟨hnew, (hbelow (by decide)).2 (by decide), hcoupled.2 (by decide), hsecond,
    (hwaits 3).2 (by decide)⟩

/-- At the width of the counter the coupling is lost: one attempt is accepted with `2 ^ 32` waits,
and `2 ^ 32 - 1` waits alone make a policy without any attempt. -/
theorem not_coupled_of_wrapped :
    ((∃ p, new? 1 (List.replicate UInt32.size 0) = .ok p) ∧
      (List.replicate UInt32.size 0).length ≠ (1 : UInt32).toNat - 1) ∧
    (ofSchedule (List.replicate (UInt32.size - 1) 0)).maxAttempts = 0 := by
  have hfull : (List.replicate UInt32.size 0).length = UInt32.size := List.length_replicate
  have hlast : (List.replicate (UInt32.size - 1) 0).length = UInt32.size - 1 := List.length_replicate
  -- The lengths come first: nothing may evaluate the lists themselves.
  rw [exists_new?_eq_ok_iff, ofSchedule, hfull, hlast]
  refine ⟨⟨?_, ?_⟩, rfl⟩ <;> decide

end Courier.RetryPolicy
