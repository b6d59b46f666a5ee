import RetryEndpoint.Go.Bytes

/-!
# Steps that may fail

A Go function that returns at its first error is a sequence of steps in `Except`, and so is
one that may panic. A sequence ends well exactly when each of its steps does.

The operations that may panic are those the compiler puts a check in front of: indexing,
slicing, and `make` with a capacity that is negative or needs more than `maxAlloc` bytes.
-/

namespace RetryEndpoint.Go

universe u v

section

variable {ε : Type u} {α β : Type v}

/-- A sequence ends well exactly when its first step does and then the rest does. -/
theorem bind_eq_ok_iff {x : Except ε α} {f : α → Except ε β} {b : β} :
    (x >>= f) = .ok b ↔ ∃ a, x = .ok a ∧ f a = .ok b := by
  cases x with
  | error e => simp [bind, Except.bind]
  | ok a => simp [bind, Except.bind]

end

/-- A run-time panic. -/
inductive Panic where
  /-- `index out of range`. -/
  | index
  /-- `slice bounds out of range`. -/
  | slice
  /-- `makeslice: cap out of range`. -/
  | makeslice
  deriving DecidableEq

/-- A capacity that `make` accepts, for elements of `size` bytes. -/
def CapFits (maxAlloc size : ℕ) (cap : ℤ) : Prop := 0 ≤ cap ∧ cap * size ≤ maxAlloc

instance (maxAlloc size : ℕ) (cap : ℤ) : Decidable (CapFits maxAlloc size cap) :=
  inferInstanceAs (Decidable (0 ≤ cap ∧ cap * size ≤ maxAlloc))

/-- `make([]T, 0, cap)`, for elements of `size` bytes. -/
def makeCap {α : Type u} (maxAlloc size : ℕ) (cap : ℤ) : Except Panic (List α) :=
  if CapFits maxAlloc size cap then .ok [] else .error .makeslice

/-- `b[i:j]`, with its check. -/
def slice? (b : Bytes) (i j : ℕ) : Except Panic Bytes :=
  if i ≤ j ∧ j ≤ b.length then .ok (slice b i j) else .error .slice

/-- `b[i]`, with its check. -/
def index? (b : Bytes) (i : ℕ) : Except Panic UInt8 :=
  match b[i]? with
  | some x => .ok x
  | none => .error .index

/-- `a[i] = x`, with its check. -/
def assign? {α : Type u} (a : List α) (i : ℕ) (x : α) : Except Panic (List α) :=
  if i < a.length then .ok (a.set i x) else .error .index

theorem slice?_of_le {b : Bytes} {i j : ℕ} (hij : i ≤ j) (hj : j ≤ b.length) : slice? b i j = .ok (slice b i j) :=
  if_pos ⟨hij, hj⟩

theorem index?_of_lt {b : Bytes} {i : ℕ} (h : i < b.length) : index? b i = .ok (b.getD i 0) := by
  simp [index?, List.getElem?_eq_getElem h]

theorem makeCap_of_fits {α : Type u} {maxAlloc size : ℕ} {cap : ℤ} (h : CapFits maxAlloc size cap) :
    makeCap maxAlloc size cap = .ok ([] : List α) := if_pos h

theorem makeCap_of_not_fits {α : Type u} {maxAlloc size : ℕ} {cap : ℤ} (h : ¬ CapFits maxAlloc size cap) :
    (makeCap maxAlloc size cap : Except Panic (List α)) = .error .makeslice := if_neg h

end RetryEndpoint.Go
