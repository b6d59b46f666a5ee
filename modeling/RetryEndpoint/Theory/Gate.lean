import RetryEndpoint.Theory.Runs
import RetryEndpoint.Theory.SlidingWindow
import Mathlib.Algebra.Order.Field.Rat
import Mathlib.Tactic.Linarith
import Mathlib.Tactic.SplitIfs

/-!
# Gates

A gate is asked at instants of a clock, and lets the one that asks pass or not. `admitted` is the
list of the instants at which it lets pass.

A `Keyed` family has one gate for each key, and asking one leaves the others alone; so what passes for
a key is what its gate alone would let pass (`passes_key`). `seen_component` is how such a family, or
anything else that is a component of a larger system, is found in a run of that system: its part of the
run is a run of its own.

A sliding window is a gate (`windowGate`), and so is a token bucket.
`RateBound` is what a token bucket promises: in a stretch of time of length `T` no more than
`burst + rate * T` pass. `TokenBucket` is one, as a bucket of tokens that fills with time, and
`TokenBucket.rateBound` says that it keeps the promise when the clock does not go back.
-/

namespace RetryEndpoint.Theory

universe u v w x

/-! ### A component of a system -/

section Component

variable {σ : Type u} {ε : Type v} {α : Type w} {κ β : Type x}

/-- **A component sees a run of its own.** A step of the system is a call on the component or leaves it
alone; `see` are the calls, and `view` is what is seen of one. -/
theorem seen_component {step : σ → ε → σ} {see : σ → ε → Option κ} {see' : σ → ε → Option β} {call : α → κ → α}
    {view : α → κ → Option β} (part : σ → α)
    (hpart : ∀ s e, part (step s e) = (see s e).elim (part s) (call (part s)))
    (hsee : ∀ s e, see' s e = (see s e).bind (view (part s))) (s : σ) (es : List ε) :
    seen step see' s es = seen call view (part s) (seen step see s es) := by
  induction es generalizing s with
  | nil => rfl
  | cons e es ih =>
    rw [seen, seen, ih, hsee, hpart]
    cases see s e with
    | none => rfl
    | some k => rfl

end Component

/-! ### Gates -/

section Gates

variable {γ : Type u} {κ : Type v} {α : Type w}

/-- The instants at which a gate lets pass, of those at which it is asked. -/
def admitted (ask : γ → ℤ → Bool × γ) : γ → List ℤ → List ℤ
  | _, [] => []
  | g, t :: ts => (if (ask g t).1 then [t] else []) ++ admitted ask (ask g t).2 ts

theorem admitted_sublist (ask : γ → ℤ → Bool × γ) (g : γ) (ts : List ℤ) : (admitted ask g ts).Sublist ts := by
  induction ts generalizing g with
  | nil => exact .slnil
  | cons t ts ih =>
    rw [admitted]
    split_ifs
    · exact (ih _).cons_cons t
    · exact (ih _).cons t

/-- A family of gates, one for each key. -/
structure Keyed (allow : α → κ → ℤ → Bool × α) (gate : α → κ → γ) (ask : γ → ℤ → Bool × γ) : Prop where
  /-- The gate of the key is asked. -/
  verdict : ∀ a k t, (allow a k t).1 = (ask (gate a k) t).1
  /-- It has been asked. -/
  own : ∀ a k t, gate (allow a k t).2 k = (ask (gate a k) t).2
  /-- The others have not. -/
  other : ∀ a k t k', k' ≠ k → gate (allow a k t).2 k' = gate a k'

/-- The calls that pass, of calls one after another. -/
def passes (allow : α → κ → ℤ → Bool × α) (a : α) (calls : List (κ × ℤ)) : List (κ × ℤ) :=
  seen (fun a c => (allow a c.1 c.2).2) (fun a c => if (allow a c.1 c.2).1 then some c else none) a calls

/-- The instants of the calls for a key. -/
def instants [DecidableEq κ] (k : κ) (calls : List (κ × ℤ)) : List ℤ :=
  (calls.filter fun c => c.1 = k).map Prod.snd

/-- **What passes for a key is what its gate lets pass.** -/
theorem Keyed.passes_key [DecidableEq κ] {allow : α → κ → ℤ → Bool × α} {gate : α → κ → γ} {ask : γ → ℤ → Bool × γ}
    (h : Keyed allow gate ask) (a : α) (calls : List (κ × ℤ)) (k : κ) :
    instants k (passes allow a calls) = admitted ask (gate a k) (instants k calls) := by
  induction calls generalizing a with
  | nil => rfl
  | cons c calls ih =>
    obtain ⟨key, t⟩ := c
    have hrest := ih (allow a key t).2
    rw [passes] at hrest ⊢
    rw [seen, instants, List.filter_append, List.map_append]
    by_cases hk : key = k
    · subst hk
      have hcalls : instants key ((key, t) :: calls) = t :: instants key calls := by simp [instants]
      rw [hcalls, admitted, ← h.verdict, ← h.own, ← hrest]
      refine congrArg₂ (· ++ ·) ?_ rfl
      split_ifs
      · simp
      · rfl
    · have hcalls : instants k ((key, t) :: calls) = instants k calls := by simp [instants, hk]
      rw [hcalls, ← h.other a key t k (Ne.symm hk), ← hrest]
      refine (congrArg₂ (· ++ ·) ?_ rfl).trans (List.nil_append _)
      split_ifs
      · simp [hk]
      · rfl

end Gates

/-! ### Sliding windows -/

/-- A sliding window as a gate: its limit, its length, and the instants that it keeps. -/
def windowGate (g : ℤ × ℤ × List ℤ) (now : ℤ) : Bool × ℤ × ℤ × List ℤ :=
  let r := window g.1 g.2.1 now g.2.2
  (r.1, g.1, g.2.1, r.2)

theorem foldl_windowStep (max W : ℤ) (ts log rs : List ℤ) :
    (rs.foldl (windowStep max W) (ts, log)).2 = log ++ admitted windowGate (max, W, ts) rs := by
  induction rs generalizing ts log with
  | nil => simp [admitted]
  | cons r rs ih =>
    rw [List.foldl_cons, windowStep, ih, admitted, windowGate, logged]
    split_ifs
    · simp
    · simp

/-- **A window lets pass no more than its limit** in any stretch of its length, when the clock does not go
back. -/
theorem capped_windowGate (max W : ℤ) {rs : List ℤ} (hs : rs.Pairwise (· ≤ ·)) :
    Capped max W (admitted windowGate (max, W, []) rs) := by
  have hcap := windowRun_capped_of_sorted max W hs
  rwa [windowRun, foldl_windowStep, List.nil_append] at hcap

/-! ### Token buckets -/

/-- The instants from `s` to `t`. -/
def between (s t : ℤ) (log : List ℤ) : List ℤ := log.filter fun x => s ≤ x ∧ x ≤ t

/-- **In a stretch of time of length `T` there are no more than `burst + rate * T` of the instants.** -/
def RateBound (rate : ℚ) (burst : ℕ) (log : List ℤ) : Prop :=
  ∀ s t, s ≤ t → ((between s t log).length : ℚ) ≤ burst + rate * (t - s)

/-- A bucket that fills at a rate, up to a size. -/
structure TokenBucket where
  /-- Tokens for one unit of time. -/
  rate : ℚ
  /-- How many tokens there can be. -/
  burst : ℕ
  /-- How many there were when one was last taken. -/
  tokens : ℚ
  /-- When that was. -/
  last : ℤ
  /-- The bucket does not leak. -/
  rate_nonneg : 0 ≤ rate
  /-- Only tokens that are there are taken. -/
  tokens_nonneg : 0 ≤ tokens

namespace TokenBucket

/-- A full bucket. -/
def full (rate : ℚ) (burst : ℕ) (hrate : 0 ≤ rate) : TokenBucket := ⟨rate, burst, burst, 0, hrate, Nat.cast_nonneg _⟩

/-- How many tokens there are at an instant. A clock that has gone back brings none. -/
def level (b : TokenBucket) (t : ℤ) : ℚ := min b.burst (b.tokens + b.rate * (t - min b.last t : ℤ))

/-- A token is taken, if there is one. -/
def take (b : TokenBucket) (t : ℤ) : Bool × TokenBucket :=
  if h : 1 ≤ b.level t then
    (true, { b with tokens := b.level t - 1, last := t, tokens_nonneg := sub_nonneg.mpr h })
  else (false, b)

variable (b : TokenBucket)

theorem level_le_burst (t : ℤ) : b.level t ≤ b.burst := min_le_left ..

theorem level_nonneg (t : ℤ) : 0 ≤ b.level t := by
  refine le_min (Nat.cast_nonneg _) (add_nonneg b.tokens_nonneg (mul_nonneg b.rate_nonneg ?_))
  exact_mod_cast sub_nonneg.mpr (min_le_right b.last t)

/-- The bucket does not fill faster than its rate. -/
theorem level_le {a t : ℤ} (hat : a ≤ t) : b.level t ≤ b.level a + b.rate * (t - a) := by
  have hrate := b.rate_nonneg
  have hgain : 0 ≤ b.rate * ((t : ℚ) - a) := mul_nonneg hrate (sub_nonneg.mpr (by exact_mod_cast hat))
  have helapsed : b.rate * ((t - min b.last t : ℤ) : ℚ) ≤ b.rate * ((a - min b.last a : ℤ) : ℚ) + b.rate * (t - a) := by
    rw [← mul_add]
    refine mul_le_mul_of_nonneg_left ?_ hrate
    have : t - min b.last t ≤ a - min b.last a + (t - a) := by omega
    exact_mod_cast this
  unfold level
  rw [min_add]
  refine min_le_min ?_ ?_
  · linarith
  · linarith

/-- What a bucket has after a token was taken. -/
theorem level_take {t : ℤ} (h : 1 ≤ b.level t) : (b.take t).2.level t = b.level t - 1 := by
  have hle := b.level_le_burst t
  simp only [take, dif_pos h]
  rw [level]
  simp only [min_self, sub_self, Int.cast_zero, mul_zero, add_zero]
  exact min_eq_right (by linarith)

/-- From `a` on, a bucket lets pass what it has at `a`, and what it gains. -/
theorem admitted_le_level {ts : List ℤ} (hs : ts.Pairwise (· ≤ ·)) {a u : ℤ} (ha : ∀ t ∈ ts, a ≤ t) (hau : a ≤ u) :
    (((admitted take b ts).filter fun t => t ≤ u).length : ℚ) ≤ b.level a + b.rate * (u - a) := by
  induction ts generalizing b a with
  | nil =>
    have hgain : 0 ≤ b.rate * ((u : ℚ) - a) := mul_nonneg b.rate_nonneg (sub_nonneg.mpr (by exact_mod_cast hau))
    have hnonneg := b.level_nonneg a
    simp only [admitted, List.filter_nil, List.length_nil, Nat.cast_zero]
    linarith
  | cons t ts ih =>
    obtain ⟨hlater, hs'⟩ := List.pairwise_cons.mp hs
    have hat := ha t (by simp)
    have hlevel := b.level_le hat
    by_cases htu : t ≤ u
    · rw [admitted, List.filter_append, List.length_append]
      by_cases h : 1 ≤ b.level t
      · -- one token less, and one more that passed
        have hrest := ih (b.take t).2 hs' hlater htu
        have hrate : (b.take t).2.rate = b.rate := by simp only [take, dif_pos h]
        have hok : (b.take t).1 = true := by simp only [take, dif_pos h]
        rw [b.level_take h, hrate] at hrest
        simp only [hok, if_true, List.filter_cons, htu, decide_true, List.filter_nil, List.length_singleton]
        push_cast
        linarith
      · have hrest := ih b hs' hlater htu
        have hno : b.take t = (false, b) := by simp only [take, dif_neg h]
        rw [hno]
        simp only [Bool.false_eq_true, if_false, List.filter_nil, List.length_nil, Nat.zero_add]
        linarith
    · -- what comes after `u` does not count
      have hnone : (admitted take b (t :: ts)).filter (fun t => t ≤ u) = [] := by
        refine List.filter_eq_nil_iff.mpr fun y hy => ?_
        have hty : t ≤ y := by
          rcases List.mem_cons.mp ((admitted_sublist take b _).subset hy) with rfl | hmem
          · exact le_rfl
          · exact hlater y hmem
        simp only [decide_eq_true_eq]
        omega
      have hgain : 0 ≤ b.rate * ((u : ℚ) - a) := mul_nonneg b.rate_nonneg (sub_nonneg.mpr (by exact_mod_cast hau))
      have hnonneg := b.level_nonneg a
      rw [hnone, List.length_nil, Nat.cast_zero]
      linarith

/-- **A token bucket keeps to its rate** when the clock does not go back. -/
theorem rateBound {ts : List ℤ} (hs : ts.Pairwise (· ≤ ·)) : RateBound b.rate b.burst (admitted take b ts) := by
  intro s u hsu
  induction ts generalizing b with
  | nil =>
    have hgain : 0 ≤ b.rate * ((u : ℚ) - s) := mul_nonneg b.rate_nonneg (sub_nonneg.mpr (by exact_mod_cast hsu))
    simp only [admitted, between, List.filter_nil, List.length_nil, Nat.cast_zero]
    positivity
  | cons t ts ih =>
    obtain ⟨hlater, hs'⟩ := List.pairwise_cons.mp hs
    by_cases hts : t < s
    · -- what passed before `s` does not count
      have hrest := ih (b.take t).2 hs'
      have hsame : (b.take t).2.rate = b.rate ∧ (b.take t).2.burst = b.burst := by
        unfold take
        split_ifs <;> exact ⟨rfl, rfl⟩
      have hskip : between s u (if (b.take t).1 then [t] else []) = [] := by
        refine List.filter_eq_nil_iff.mpr fun y hy => ?_
        have : y = t := by
          split_ifs at hy
          · exact List.mem_singleton.mp hy
          · cases hy
        simp only [decide_eq_true_eq]
        omega
      rw [hsame.1, hsame.2] at hrest
      rw [admitted, between, List.filter_append]
      rw [between] at hskip hrest
      rwa [hskip, List.nil_append]
    · have hall : ∀ y ∈ t :: ts, s ≤ y := by
        intro y hy
        rcases List.mem_cons.mp hy with rfl | hmem
        · omega
        · exact (not_lt.mp hts).trans (hlater y hmem)
      have hfilter : between s u (admitted take b (t :: ts)) = (admitted take b (t :: ts)).filter fun y => y ≤ u := by
        refine List.filter_congr fun y hy => ?_
        simp [hall y ((admitted_sublist take b _).subset hy)]
      have hlevel := b.level_le_burst s
      have hcount := b.admitted_le_level hs hall hsu
      rw [hfilter]
      linarith

end TokenBucket

end RetryEndpoint.Theory
