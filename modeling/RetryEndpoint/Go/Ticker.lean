import RetryEndpoint.Go.Bytes

/-!
# Tickers

Go's `time.Ticker`: its channel holds one tick at most, so a receiver that is late loses the
ticks in between, and after a late tick the next one is due where it would have been.

The runtime fires the ticker when it gets to it (`fire`). A run of a system with a ticker is
punctual where time passes only up to the next tick (`Ticker.Allows`).
-/

namespace RetryEndpoint.Go

/-- A ticker. -/
structure Ticker where
  /-- The time between two ticks. -/
  period : Duration
  /-- When the next one is due. -/
  next : Time
  /-- Whether there is one in the channel. -/
  pending : Bool
  /-- `Stop` has been called. -/
  stopped : Bool

namespace Ticker

/-- `time.NewTicker`. -/
def new (period : Duration) (now : Time) : Ticker := ⟨period, now + period, false, false⟩

variable (t : Ticker)

/-- The runtime gets to the ticker. -/
def fire (now : Time) : Ticker :=
  if t.stopped = false ∧ t.next ≤ now then
    { t with pending := true, next := t.next + t.period * (1 + (now - t.next) / t.period) }
  else t

/-- A receive from the channel of a ticker that has a tick. -/
def receive : Ticker := { t with pending := false }

/-- `Stop`. -/
def stop : Ticker := { t with stopped := true }

/-- Time may pass up to `now`: no tick is due before, and none is in the channel. -/
def Allows (now : Time) : Prop := t.pending = false ∧ now ≤ t.next

/-- A tick that is fired on time. -/
theorem fire_of_eq {now : Time} (hs : t.stopped = false) (h : t.next = now) :
    t.fire now = { t with pending := true, next := t.next + t.period } := by
  rw [fire, if_pos ⟨hs, h.le⟩, h]
  simp

theorem fire_of_lt {now : Time} (h : now < t.next) : t.fire now = t := by
  rw [fire, if_neg fun hf => absurd hf.2 (not_le.mpr h)]

end Ticker

end RetryEndpoint.Go
