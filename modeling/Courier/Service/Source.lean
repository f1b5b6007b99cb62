import Courier.Delivery
import Courier.Timer

/-!
# Sources of deliveries

A `Source` is the queue as one consumer sees it: the items still to come, and what happens when
there are none left or when deliveries are stopped.  Items come in order, one at a time.

`Source.pull` says what asking for the next item gives, and `Source.stop` what the request to stop
deliveries does.  Asking looks first whether the source has been stopped, and then at its items
(`Source.pop`).  These are two looks: deliveries may be stopped in between.
-/

namespace Courier

/-- What a source hands out. -/
inductive Item where
  | delivery (d : Delivery)
  /-- An error in place of a delivery. -/
  | fault (reason : String)

/-- An item that has not been handed out, and how long it lets itself be waited for. -/
structure Pending where
  item : Item
  after : Nat := 0

/-- A queue as one consumer sees it. -/
structure Source where
  pending : List Pending := []
  /-- Does the source stay open when there are no items left? -/
  holdsOpen : Bool := false
  /-- Have deliveries been stopped? -/
  isStopped : Bool := false
  /-- The error that follows when deliveries are stopped, if there is one. -/
  farewell : Option String := none
  /-- The reason for which deliveries cannot be stopped, if there is one. -/
  stopRefusal : Option String := none
  /-- How long the answer to the request to stop takes; `none` if none comes. -/
  stopDelay : Option Nat := some 0

/-- What asking for the next item gives. -/
inductive Pull where
  | closed
  /-- Nothing, until the source changes. -/
  | held
  /-- The next item, after a wait. -/
  | later (wait : Nat)
  | now (item : Item) (rest : Source)

namespace Source

/-- A source that hands out deliveries at once. -/
def ofDeliveries (deliveries : List Delivery) (holdsOpen : Bool) : Source where
  pending := deliveries.map fun d => { item := .delivery d }
  holdsOpen

/-- Asks for the next item of a source that has been stopped: only the farewell is left. -/
def pullStopped (s : Source) : Pull :=
  match s.farewell with
  | none => .closed
  | some reason => .now (.fault reason) { s with farewell := none }

/-- Takes the first item, or says why there is none. -/
def take (s : Source) : Pull :=
  if s.isStopped then s.pullStopped
  else
    match s.pending with
    | [] => if s.holdsOpen then .held else .closed
    | p :: rest => .now p.item { s with pending := rest }

/-- Takes the first item of a source that was open a moment ago.  An item that lets itself be waited
for is slept for. -/
def pop (s : Source) : Pull :=
  match s.pending with
  | [] => if s.holdsOpen then .held else .closed
  | p :: rest =>
    if p.after = 0 then .now p.item { s with pending := rest } else .later (min p.after longestWait)

/-- Asks for the next item, with nothing in between. -/
def pull (s : Source) : Pull := if s.isStopped then s.pullStopped else s.pop

/-- Is there nothing to be had, and nothing to wait for either? -/
def isHeld (s : Source) : Bool := !s.isStopped && s.pending.isEmpty && s.holdsOpen

/-- Asks the source to stop: how it answers, and what becomes of it. -/
def stop (s : Source) : Except WorkerError Unit × Source :=
  match s.stopRefusal with
  -- A source that cannot be stopped goes on as before.
  | some reason => (.error (.stopIntake reason), s)
  | none => (.ok (), { s with isStopped := true })

/-- The number of items never handed out. -/
def remaining (s : Source) : Nat := s.pending.length

/-- The number of items that can still come. -/
def size (s : Source) : Nat := s.pending.length + s.farewell.toList.length

theorem size_lt_of_pullStopped {s rest : Source} {item : Item}
    (h : s.pullStopped = .now item rest) : rest.size < s.size := by
  unfold pullStopped at h
  split at h
  · simp at h
  · rename_i hf
    simp only [Pull.now.injEq] at h
    obtain ⟨-, rfl⟩ := h
    simp [size, hf]

theorem size_lt_of_take {s rest : Source} {item : Item} (h : s.take = .now item rest) :
    rest.size < s.size := by
  unfold take at h
  split at h
  · exact size_lt_of_pullStopped h
  · split at h
    · split at h <;> simp at h
    · rename_i hp
      simp only [Pull.now.injEq] at h
      obtain ⟨-, rfl⟩ := h
      simp [size, hp]

theorem size_lt_of_pop {s rest : Source} {item : Item} (h : s.pop = .now item rest) :
    rest.size < s.size := by
  unfold pop at h
  split at h
  · split at h <;> simp at h
  · rename_i hp
    split at h
    · simp only [Pull.now.injEq] at h
      obtain ⟨-, rfl⟩ := h
      simp [size, hp]
    · simp at h

theorem size_stop (s : Source) : s.stop.2.size = s.size := by
  unfold stop
  split <;> rfl

end Source

end Courier
