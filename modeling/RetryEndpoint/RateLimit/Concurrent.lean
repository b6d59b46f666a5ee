import RetryEndpoint.RateLimit.Limiter
import RetryEndpoint.Theory.Runs

/-!
# The sliding windows under concurrent workers

`Allow` of both sliding-window limiters starts

    now := time.Now()
    r.mu.Lock()

so a worker reads the clock, and only then waits for the mutex. Between the two other
workers may read a later clock and go first.

## The model

The workers of a `Pool` share a clock and a limiter. A worker reads the clock for a key
(`read`), and later runs the critical section with what it read (`enter`); the clock
goes forward between steps (`tick`). A run is any list of such acts; an act that its
worker is not ready for does nothing. The pool records its critical sections in the
order in which they ran.

## What is proved

* `follows_run`, `admitted_run` — a key's instants and its admissions are those of
  `windowRun` on the key's readings, in the order of its critical sections.
* `cap_of_inOrder_or_le_one` — so no window holds more than `max` admissions when the
  critical sections of the key ran in the order of their readings, or when `max` is at
  most one. With `max` at least two a run exists that breaks the cap: the window holds
  `max` admissions, a worker reads the clock, a second one reads it when the window has
  passed and drops them all, and the first is let in on the emptied window.
-/

namespace RetryEndpoint.RateLimit.Concurrent

open Go Theory

variable {K : Type}

/-- A critical section that has run. -/
structure Section (K : Type) where
  /-- The key of the call. -/
  key : K
  /-- The clock as the call read it. -/
  now : Time
  /-- The verdict. -/
  ok : Bool

/-- The workers, the clock they read and the limiter they share. -/
structure Pool (K : Type) where
  /-- The clock. -/
  clock : Time
  /-- The call each worker is in: its key, and the clock as it read it. -/
  pending : ℕ → Option (K × Time)
  /-- The limiter. -/
  limiter : WindowLimiter K
  /-- The critical sections that have run, in order. -/
  sections : List (Section K)

/-- What can happen next. -/
inductive Act (K : Type) where
  /-- The clock goes forward. -/
  | tick (d : ℕ)
  /-- A worker calls `Allow` for a key and reads the clock. -/
  | read (w : ℕ) (key : K)
  /-- A worker gets the mutex and runs the critical section. -/
  | enter (w : ℕ)

/-- The pool at the start. -/
def Pool.start (max : ℤ) (W : Duration) : Pool K := ⟨0, fun _ => none, newWindowLimiter K max W, []⟩

variable [DecidableEq K]

/-- One act. -/
def Pool.step (p : Pool K) : Act K → Pool K
  | .tick d => { p with clock := p.clock + d }
  | .read w key =>
    match p.pending w with
    | none => { p with pending := Function.update p.pending w (some (key, p.clock)) }
    | some _ => p
  | .enter w =>
    match p.pending w with
    | none => p
    | some (key, now) =>
      { p with
        pending := Function.update p.pending w none
        limiter := (p.limiter.allow key now).2
        sections := p.sections ++ [⟨key, now, (p.limiter.allow key now).1⟩] }

/-- A run of the pool. -/
def run (max : ℤ) (W : Duration) (acts : List (Act K)) : Pool K := runFrom Pool.step (Pool.start max W) acts

/-- What the calls for `key` read, in the order of their critical sections. -/
def Pool.readings (p : Pool K) (key : K) : List Time := (p.sections.filter fun c => c.key = key).map Section.now

/-- What the admitted calls for `key` read. -/
def Pool.admitted (p : Pool K) (key : K) : List Time :=
  (p.sections.filter fun c => c.key = key ∧ c.ok).map Section.now

/-- The critical sections of `key` ran in the order in which their calls read the clock. -/
def Pool.InOrder (p : Pool K) (key : K) : Prop := (p.readings key).Pairwise (· ≤ ·)

instance (p : Pool K) (key : K) : Decidable (p.InOrder key) :=
  inferInstanceAs (Decidable ((p.readings key).Pairwise (· ≤ ·)))

variable {max : ℤ} {W : Duration}

theorem run_snoc (acts : List (Act K)) (a : Act K) : run max W (acts ++ [a]) = (run max W acts).step a :=
  runFrom_snoc ..

/-! ### A key's calls are a run of its window -/

/-- The pool answers as the window does, for every key. -/
structure Pool.Follows (max : ℤ) (W : Duration) (p : Pool K) : Prop where
  /-- The limiter's `max` does not change. -/
  max_eq : p.limiter.max = max
  /-- The limiter's window does not change. -/
  window_eq : p.limiter.window = W
  /-- The instants kept and the admissions are the window's. -/
  run_eq : ∀ key, (p.limiter.timestamps key, p.admitted key) = windowRun max W (p.readings key)

/-- A critical section is one step of its key's window, and no step of the others'. -/
theorem Pool.Follows.enter {p : Pool K} (h : p.Follows max W) (q : ℕ → Option (K × Time)) (key : K) (now : Time) :
    Pool.Follows max W
      { p with
        pending := q
        limiter := (p.limiter.allow key now).2
        sections := p.sections ++ [⟨key, now, (p.limiter.allow key now).1⟩] } := by
  refine ⟨h.max_eq, h.window_eq, fun k => ?_⟩
  have hk := h.run_eq k
  simp only [Pool.readings, Pool.admitted, Prod.ext_iff] at hk ⊢
  by_cases hkey : key = k
  · subst hkey
    rw [WindowLimiter.timestamps_allow_self, WindowLimiter.allow_fst, h.max_eq, h.window_eq, List.filter_append,
      List.filter_append, List.map_append, List.map_append]
    simp only [List.filter_singleton, decide_true, true_and, cond_true, List.map_singleton]
    rw [windowRun_snoc, windowStep, hk.1]
    refine ⟨rfl, ?_⟩
    rw [hk.2]
    cases (Theory.window max W now (windowRun max W _).1).1 <;> simp [logged]
  · rw [WindowLimiter.timestamps_allow_of_ne _ (Ne.symm hkey), List.filter_append, List.filter_append]
    simpa [List.filter_singleton, hkey] using hk

theorem Pool.Follows.step {p : Pool K} (h : p.Follows max W) (a : Act K) : (p.step a).Follows max W := by
  cases a with
  | tick d => exact ⟨h.max_eq, h.window_eq, h.run_eq⟩
  | read w key =>
    simp only [Pool.step]
    split
    · exact ⟨h.max_eq, h.window_eq, h.run_eq⟩
    · exact h
  | enter w =>
    simp only [Pool.step]
    split
    · exact h
    · exact h.enter _ _ _

/-- Every run follows the windows. -/
theorem follows_run (max : ℤ) (W : Duration) (acts : List (Act K)) : (run max W acts).Follows max W :=
  runFrom_invariant ⟨rfl, rfl, fun _ => rfl⟩ (fun _ a h => h.step a) acts

/-- The admissions of a key are those of its window, run on its readings. -/
theorem admitted_run (acts : List (Act K)) (key : K) :
    (run max W acts).admitted key = (windowRun max W ((run max W acts).readings key)).2 := by
  rw [← (follows_run max W acts).run_eq key]

/-! ### A schedule that breaks the cap -/

/-- A call that is not interrupted. -/
def call (w : ℕ) (key : K) : List (Act K) := [.read w key] ++ [.enter w]

theorem step_call {p : Pool K} {w : ℕ} (hp : p.pending w = none) (key : K) :
    (p.step (.read w key)).step (.enter w) =
      { p with
        limiter := (p.limiter.allow key p.clock).2
        sections := p.sections ++ [⟨key, p.clock, (p.limiter.allow key p.clock).1⟩] } := by
  have hq : Function.update (Function.update p.pending w (some (key, p.clock))) w none = p.pending := by
    rw [Function.update_idem, ← hp, Function.update_eq_self]
  simp only [Pool.step, hp, Function.update_self, hq]

/-- `k` calls one after another at the start of the clock. -/
theorem run_calls (max : ℤ) (W : Duration) (key : K) (k : ℕ) :
    (run max W (List.replicate k (call 0 key)).flatten).clock = 0 ∧
      (run max W (List.replicate k (call 0 key)).flatten).pending = (fun _ => none) ∧
      (run max W (List.replicate k (call 0 key)).flatten).readings key = List.replicate k 0 := by
  induction k with
  | zero => exact ⟨rfl, rfl, rfl⟩
  | succ k ih =>
    obtain ⟨hc, hp, hr⟩ := ih
    rw [List.replicate_succ', List.flatten_append, List.flatten_singleton]
    generalize (List.replicate k (call 0 key)).flatten = acts at hc hp hr ⊢
    rw [call, ← List.append_assoc, run_snoc, run_snoc, step_call (by rw [hp]), hc]
    refine ⟨rfl, hp, ?_⟩
    simp only [Pool.readings] at hr ⊢
    rw [List.filter_append, List.map_append, hr, List.replicate_succ']
    simp

/-- The window is filled; worker 1 reads the clock; the window passes; worker 0 reads
the clock and goes first; worker 1 follows with its old reading. -/
def overtaking (max : ℤ) (W : Duration) (key : K) : List (Act K) :=
  (List.replicate max.toNat (call 0 key)).flatten ++ [.read 1 key] ++ [.tick W.toNat] ++ [.read 0 key] ++ [.enter 0] ++
    [.enter 1]

theorem readings_overtaking (hW : 0 < W) (key : K) :
    (run max W (overtaking max W key)).readings key = List.replicate max.toNat 0 ++ [W] ++ [0] := by
  obtain ⟨hc, hp, hr⟩ := run_calls max W key max.toNat
  have hW' : ((W.toNat : ℕ) : ℤ) = W := Int.toNat_of_nonneg hW.le
  simp only [overtaking, run_snoc, Pool.step, hp, hc, Function.update_of_ne (zero_ne_one' ℕ), Function.update_self,
    Function.update_of_ne (one_ne_zero' ℕ), hW', zero_add]
  simp only [Pool.readings] at hr ⊢
  rw [List.filter_append, List.filter_append, List.map_append, List.map_append, hr]
  simp

/-- **The cap holds while a key's critical sections run in the order of their readings,
or when at most one admission fits a window**; with room for two it does not hold of
every run. -/
theorem cap_of_inOrder_or_le_one [Inhabited K] (max : ℤ) (W : Duration) (hW : 0 < W) :
    (∀ (acts : List (Act K)) (key : K), max ≤ 1 ∨ (run max W acts).InOrder key →
      Capped max W ((run max W acts).admitted key)) ∧
    ((∀ (acts : List (Act K)) (key : K), Capped max W ((run max W acts).admitted key)) ↔ max ≤ 1) := by
  have hone : ∀ (acts : List (Act K)) (key : K), max ≤ 1 → Capped max W ((run max W acts).admitted key) := by
    intro acts key hmax
    rw [admitted_run]
    exact windowRun_capped_of_le_one hW hmax _
  refine ⟨fun acts key h => ?_, fun h => ?_, fun hmax acts key => hone acts key hmax⟩
  · rcases h with hmax | hin
    · exact hone acts key hmax
    · rw [admitted_run]
      exact windowRun_capped_of_sorted max W hin
  · by_contra hlt
    have := h (overtaking max W default) default
    rw [admitted_run, readings_overtaking hW] at this
    exact windowRun_not_capped hW (by omega) this

/-- Two calls for one `SeqNum`, in order. -/
theorem cap_of_two_calls : (0 : ℤ) < 10 ∧
    Capped 2 10 ((run 2 10 (call 0 (7 : UInt64) ++ call 1 7)).admitted 7) :=
  ⟨by decide, (cap_of_inOrder_or_le_one 2 10 (by decide)).1 _ _ (.inr (by decide))⟩

/-- The clock is read at 0, 1, 9 and 11, and the call that read 9 runs last: with room
for two in ten, three calls are let through in the window that ends at 9. -/
theorem cap_broken_by_overtaking :
    ¬ Capped 2 10 ((run 2 10 (call 0 (7 : UInt64) ++ [.tick 1] ++ call 0 7 ++ [.tick 8, .read 1 7, .tick 2] ++
      call 0 7 ++ [.enter 1])).admitted 7) := by
  intro h
  exact absurd (h 9) (by decide)

end RetryEndpoint.RateLimit.Concurrent
