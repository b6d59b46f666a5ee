import Mathlib.Data.List.Basic

/-!
# Bounded channels

Go's buffered channels: a send blocks while the buffer is full and panics when the
channel is closed, a receive takes the oldest value, blocks while there is none, and
reports the end once the channel is closed and drained; closing twice panics.

A `Chan` carries the proof that its buffer is within its capacity. What a blocked
operation waits for is left to the scheduler of the system that uses the channel: the
operations here answer at once, and say that they are blocked.
-/

namespace RetryEndpoint.Go

universe u

variable {α : Type u} {cap : ℕ}

/-- A channel of capacity `cap`. -/
structure Chan (α : Type u) (cap : ℕ) where
  /-- The values sent and not yet received, oldest first. -/
  queue : List α
  /-- Whether the channel has been closed. -/
  closed : Bool
  /-- The buffer is within the capacity. -/
  bounded : queue.length ≤ cap

/-- `make(chan α, cap)`. -/
def Chan.make (α : Type u) (cap : ℕ) : Chan α cap := ⟨[], false, Nat.zero_le _⟩

/-- What a send does. -/
inductive Sent (α : Type u) (cap : ℕ) where
  /-- The value is in the buffer. -/
  | done (c : Chan α cap)
  /-- The buffer is full. -/
  | blocked
  /-- The channel is closed. -/
  | panics

/-- `c <- x`. -/
def Chan.send (c : Chan α cap) (x : α) : Sent α cap :=
  if c.closed then .panics
  else if h : c.queue.length < cap then .done ⟨c.queue ++ [x], c.closed, by rw [List.length_append]; exact h⟩
  else .blocked

/-- What a receive does. -/
inductive Received (α : Type u) (cap : ℕ) where
  /-- A value was taken. -/
  | value (x : α) (c : Chan α cap)
  /-- The channel is closed and drained. -/
  | ended
  /-- There is nothing to take yet. -/
  | blocked

/-- `x, ok := <-c`. -/
def Chan.recv (c : Chan α cap) : Received α cap :=
  match h : c.queue with
  | x :: q => .value x ⟨q, c.closed, by have := c.bounded; rw [h] at this; exact Nat.le_of_succ_le this⟩
  | [] => if c.closed then .ended else .blocked

/-- `close(c)`, which panics (`none`) when the channel is closed already. -/
def Chan.close (c : Chan α cap) : Option (Chan α cap) :=
  if c.closed then none else some { c with closed := true }

/-- A send on an open channel does not panic. -/
theorem Chan.send_ne_panics {c : Chan α cap} (hc : c.closed = false) (x : α) : c.send x ≠ .panics := by
  unfold Chan.send
  rw [hc]
  split
  · contradiction
  · split <;> simp

/-- A send that is done has put its value last. -/
theorem Chan.send_eq_done {c c' : Chan α cap} {x : α} (h : c.send x = .done c') :
    c.closed = false ∧ c'.closed = false ∧ c'.queue = c.queue ++ [x] := by
  unfold Chan.send at h
  split at h
  · cases h
  · rename_i hc
    split at h
    · cases h
      exact ⟨by simpa using hc, by simpa using hc, rfl⟩
    · cases h

/-- A receive that takes a value takes the first. -/
theorem Chan.recv_eq_value {c c' : Chan α cap} {x : α} (h : c.recv = .value x c') :
    c.queue = x :: c'.queue ∧ c'.closed = c.closed := by
  unfold Chan.recv at h
  split at h
  · rename_i y q hq
    cases h
    exact ⟨hq, rfl⟩
  · split at h <;> cases h

end RetryEndpoint.Go
