import RetryEndpoint.RateLimit.Limiter
import RetryEndpoint.Theory.Linearize

/-!
# The token buckets under concurrent workers

`tokenBucketLimiter.Allow` takes the mutex for the map only:

    t.mu.Lock()
    l, ok := t.limit[key]
    if !ok { l = rate.NewLimiter(t.r, t.burst); t.limit[key] = l }
    t.mu.Unlock()
    return l.Allow()

So a worker leaves the critical section with a pointer to a bucket, and other workers may make and
use buckets before it does.

## The model

Buckets are in a heap, and the map has their addresses. A call is two steps: `enter`, the critical
section, and `allow`, the call of the bucket, which has a mutex of its own. Steps of different workers
interleave in any way; one that its worker is not ready for does nothing. The state records the
calls with their verdicts, in the order in which they got to their buckets.

## What is proved

* `Buckets.Refines` — a key has one bucket for ever: what a worker brings from the critical section is
  the address that is in the map.
* `two_steps_refine` — so the verdicts are those of `TokenBucketLimiter.allow`, where the two
  steps are one, on the calls in that order.
-/

namespace RetryEndpoint.RateLimit

open Go Theory

variable {D : Deps}

/-- A call of a token-bucket limiter: its key, and the clock as the bucket reads it. -/
structure BucketCall where
  /-- The key. -/
  key : Bytes
  /-- The clock. -/
  now : Time
  deriving DecidableEq

namespace TokenBucketLimiter

/-- The limiter after a call. -/
def after (l : TokenBucketLimiter D) (c : BucketCall) : TokenBucketLimiter D := (l.allow c.key c.now).2

/-- The verdict on a call. -/
def verdict (l : TokenBucketLimiter D) (c : BucketCall) : Bool := (l.allow c.key c.now).1

end TokenBucketLimiter

/-- `tokenBucketLimiter`, with its buckets in the heap, and the workers that call it. -/
structure Buckets (D : Deps) where
  /-- The addresses of the buckets. -/
  limit : Bytes → Option ℕ
  /-- The buckets. -/
  heap : ℕ → D.Bucket
  /-- The first address that is not in use. -/
  free : ℕ
  /-- Tokens per second. -/
  r : ℚ
  /-- The size of a bucket. -/
  burst : ℤ
  /-- What a worker brings from the critical section: its key, and the address of the bucket. -/
  pending : ℕ → Option (Bytes × ℕ)
  /-- The calls that have got to their buckets, with the verdicts. -/
  calls : List (BucketCall × Bool)

namespace Buckets

/-- What can happen next. -/
inductive Act where
  /-- A worker calls `Allow` for a key and runs the critical section. -/
  | enter (w : ℕ) (key : Bytes)
  /-- A worker calls `Allow` of the bucket that it has. -/
  | allow (w : ℕ) (now : Time)

/-- No bucket has been made; what unused addresses hold does not matter. -/
def new (D : Deps) (tokensPerSec : ℚ) (burst : ℤ) : Buckets D :=
  ⟨fun _ => none, fun _ => D.newLimiter tokensPerSec burst, 0, tokensPerSec, burst, fun _ => none, []⟩

/-- The critical section: the address for a key, made if there is none. -/
def getOrNew (s : Buckets D) (key : Bytes) : ℕ × Buckets D :=
  match s.limit key with
  | some p => (p, s)
  | none =>
    (s.free, { s with
      limit := Function.update s.limit key (some s.free)
      heap := Function.update s.heap s.free (D.newLimiter s.r s.burst)
      free := s.free + 1 })

/-- One step. -/
def step (s : Buckets D) : Act → Buckets D
  | .enter w key =>
    match s.pending w with
    | some _ => s
    | none =>
      let r := s.getOrNew key
      { r.2 with pending := Function.update s.pending w (some (key, r.1)) }
  | .allow w now =>
    match s.pending w with
    | none => s
    | some (key, p) =>
      let b := D.allow (s.heap p) now
      { s with
        heap := Function.update s.heap p b.2
        pending := Function.update s.pending w none
        calls := s.calls ++ [(⟨key, now⟩, b.1)] }

/-- A run. -/
def run (D : Deps) (tokensPerSec : ℚ) (burst : ℤ) (acts : List Act) : Buckets D :=
  runFrom step (new D tokensPerSec burst) acts

/-- **One bucket for each key**: the limiter `l` has the buckets that the map leads to. -/
structure Refines (s : Buckets D) (l : TokenBucketLimiter D) : Prop where
  /-- The same rate. -/
  r : s.r = l.r
  /-- The same size of buckets. -/
  burst : s.burst = l.burst
  /-- A key without an address has a new bucket. -/
  bucket : ∀ key, ((s.limit key).elim (D.newLimiter s.r s.burst) s.heap) = (l.limit key).getD (D.newLimiter l.r l.burst)
  /-- Addresses are in use. -/
  lt_free : ∀ key p, s.limit key = some p → p < s.free
  /-- Keys do not share buckets. -/
  inj : ∀ key key' p, s.limit key = some p → s.limit key' = some p → key = key'
  /-- A worker has the address of its key. -/
  pending : ∀ w key p, s.pending w = some (key, p) → s.limit key = some p

theorem refines_new (tokensPerSec : ℚ) (burst : ℤ) :
    (new D tokensPerSec burst).Refines (newTokenBucketLimiter D tokensPerSec burst) := by
  refine ⟨rfl, rfl, fun _ => rfl, ?_, ?_, ?_⟩
  · intro key p h
    cases h
  · intro key key' p h
    cases h
  · intro w key p h
    cases h

variable {s : Buckets D} {l : TokenBucketLimiter D}

/-- What is under a key after an entry was set. -/
theorem update_eq_some_iff {α β : Type} [DecidableEq α] {f : α → Option β} {a k : α} {b p : β} :
    Function.update f a (some b) k = some p ↔ k = a ∧ b = p ∨ k ≠ a ∧ f k = some p := by
  by_cases hk : k = a <;> simp [hk]

/-- An address that is made is no other key's. -/
theorem Refines.make (h : s.Refines l) {key : Bytes} (hkey : s.limit key = none) :
    Refines { s with
      limit := Function.update s.limit key (some s.free)
      heap := Function.update s.heap s.free (D.newLimiter s.r s.burst)
      free := s.free + 1 } l where
  r := h.r
  burst := h.burst
  bucket k := by
    rw [← h.bucket k]
    by_cases hk : k = key
    · subst hk
      simp [hkey]
    · cases hp : s.limit k with
      | none => simp [hk, hp]
      | some p => simp [hk, hp, Nat.ne_of_lt (h.lt_free k p hp)]
  lt_free k p hp := by
    rcases update_eq_some_iff.mp hp with ⟨-, rfl⟩ | ⟨-, hold⟩
    · exact Nat.lt_succ_self _
    · exact Nat.lt_succ_of_lt (h.lt_free k p hold)
  inj k k' p hp hp' := by
    rcases update_eq_some_iff.mp hp with ⟨rfl, rfl⟩ | ⟨-, hold⟩
    · rcases update_eq_some_iff.mp hp' with ⟨rfl, -⟩ | ⟨-, hold'⟩
      · rfl
      · exact absurd (h.lt_free k' _ hold') (lt_irrefl _)
    · rcases update_eq_some_iff.mp hp' with ⟨rfl, rfl⟩ | ⟨-, hold'⟩
      · exact absurd (h.lt_free k _ hold) (lt_irrefl _)
      · exact h.inj k k' p hold hold'
  pending w k p hw := by
    have hp := h.pending w k p hw
    refine update_eq_some_iff.mpr (.inr ⟨?_, hp⟩)
    rintro rfl
    rw [hkey] at hp
    cases hp

/-- The critical section finds the address of its key, or makes one. -/
theorem Refines.getOrNew (h : s.Refines l) (key : Bytes) :
    (s.getOrNew key).2.Refines l ∧ (s.getOrNew key).2.limit key = some (s.getOrNew key).1 ∧
      (s.getOrNew key).2.calls = s.calls ∧ (s.getOrNew key).2.pending = s.pending := by
  unfold Buckets.getOrNew
  split
  next p hp => exact ⟨h, hp, rfl, rfl⟩
  next hnone => exact ⟨h.make hnone, Function.update_self .., rfl, rfl⟩

/-- A worker comes out of the critical section with an address, or gives one up. -/
theorem Refines.setPending (h : s.Refines l) (w : ℕ) (o : Option (Bytes × ℕ))
    (ho : ∀ key p, o = some (key, p) → s.limit key = some p) :
    Refines { s with pending := Function.update s.pending w o } l := by
  refine ⟨h.r, h.burst, h.bucket, h.lt_free, h.inj, fun w' key p hw' => ?_⟩
  change Function.update s.pending w o w' = some (key, p) at hw'
  by_cases hw : w' = w
  · subst hw
    rw [Function.update_self] at hw'
    exact ho key p hw'
  · rw [Function.update_of_ne hw] at hw'
    exact h.pending w' key p hw'

/-- A bucket is called by its address: the limiter's bucket of the key changes, and no other. -/
theorem Refines.allow (h : s.Refines l) {key : Bytes} {p : ℕ} (hp : s.limit key = some p) (now : Time) :
    (D.allow (s.heap p) now).1 = (l.allow key now).1 ∧
      Refines { s with heap := Function.update s.heap p (D.allow (s.heap p) now).2 } (l.allow key now).2 := by
  have hb : s.heap p = (l.limit key).getD (D.newLimiter l.r l.burst) := by
    rw [← h.bucket key, hp]
    rfl
  refine ⟨by rw [hb]; rfl, ⟨h.r, h.burst, fun k => ?_, h.lt_free, h.inj, h.pending⟩⟩
  by_cases hk : k = key
  · subst hk
    simp [hp, hb, TokenBucketLimiter.allow]
  · have hsame : (s.limit k).elim (D.newLimiter s.r s.burst) (Function.update s.heap p (D.allow (s.heap p) now).2) =
        (s.limit k).elim (D.newLimiter s.r s.burst) s.heap := by
      cases hq : s.limit k with
      | none => rfl
      | some q =>
        have hne : q ≠ p := by
          rintro rfl
          exact hk (h.inj k key q hq hp)
        simp [hne]
    simp only [TokenBucketLimiter.allow, Function.update_of_ne hk]
    exact hsame.trans (h.bucket k)

/-- The critical section changes nothing for the limiter, and the call of the bucket is its call. -/
theorem Refines.step (h : s.Refines l) (a : Act) :
    Linear TokenBucketLimiter.after TokenBucketLimiter.verdict Refines calls s (s.step a) l := by
  cases a with
  | enter w key =>
    simp only [Buckets.step]
    split
    next => exact .inl ⟨h, rfl⟩
    next =>
      obtain ⟨hr, hlimit, hcalls, hpending⟩ := h.getOrNew key
      refine .inl ⟨?_, hcalls⟩
      rw [← hpending]
      refine hr.setPending w _ ?_
      rintro k p ⟨⟩
      exact hlimit
  | allow w now =>
    simp only [Buckets.step]
    split
    next => exact .inl ⟨h, rfl⟩
    next key p hw =>
      obtain ⟨hverdict, hr⟩ := h.allow (h.pending w key p hw) now
      refine .inr ⟨⟨key, now⟩, ?_, ?_⟩
      · have hset := hr.setPending w none nofun
        exact ⟨hset.r, hset.burst, hset.bucket, hset.lt_free, hset.inj, hset.pending⟩
      · simp only [TokenBucketLimiter.verdict, hverdict]

/-- **In two steps the limiter answers as in one.** Whatever other workers do between a call's critical
section and its call of the bucket, the verdicts are those of a limiter that is called in one step, in
the order in which the calls got to their buckets. -/
theorem two_steps_refine (D : Deps) (tokensPerSec : ℚ) (burst : ℤ) (acts : List Act) :
    (run D tokensPerSec burst acts).calls =
      record TokenBucketLimiter.after TokenBucketLimiter.verdict (newTokenBucketLimiter D tokensPerSec burst)
        ((run D tokensPerSec burst acts).calls.map Prod.fst) :=
  (linearize (refines_new tokensPerSec burst) rfl (fun _ _ a h => h.step a) acts).2

end Buckets

end RetryEndpoint.RateLimit
