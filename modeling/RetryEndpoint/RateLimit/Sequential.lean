import RetryEndpoint.RateLimit.Concurrent
import Mathlib.Data.List.Dedup

/-!
# The sliding windows call by call

What the sliding-window limiters promise when the critical sections run in the order in
which their calls read the clock, for calls on any keys; and what they keep in memory.

## The model

A run is a list of calls, each with its key and the clock as it read it. The pool of
`RateLimit.Concurrent` records the answers; here its critical sections follow one another
and nothing else happens. The two types of limiter of the source are one here, over the
type `K` of keys.

## What is proved

* `allow_exact` — the limiters are exact: a call is let through when fewer than `max`
  calls for its key were let through in the window that ends with it, and not otherwise,
  so that no window holds more than `max`; a rejected call leaves no trace, and a key
  without admissions in its window has room for `max`.
* `keys_held_iff` — the map has a key for every key that was ever called. It is bounded by
  the keys called in the last window only as long as there are no others.
-/

namespace RetryEndpoint.RateLimit.Concurrent

open Go Theory

/-- A call of `Allow`: its key, and the clock as it read it. -/
structure Call (K : Type) where
  /-- The key. -/
  key : K
  /-- The clock. -/
  now : Time
  deriving DecidableEq

variable {K : Type} [DecidableEq K]

/-- The critical section of a call. -/
def Pool.allow (p : Pool K) (c : Call K) : Pool K :=
  { p with
    limiter := (p.limiter.allow c.key c.now).2
    sections := p.sections ++ [⟨c.key, c.now, (p.limiter.allow c.key c.now).1⟩] }

/-- Calls one after another. -/
def runCalls (max : ℤ) (W : Duration) (calls : List (Call K)) : Pool K := runFrom Pool.allow (Pool.start max W) calls

/-- The answer to a call after `pre`. -/
def verdict (max : ℤ) (W : Duration) (pre : List (Call K)) (c : Call K) : Bool :=
  ((runCalls max W pre).limiter.allow c.key c.now).1

/-- The calls come in the order of their readings. -/
def Sorted (calls : List (Call K)) : Prop := calls.Pairwise fun a b => a.now ≤ b.now

/-- What the calls for `key` read. -/
def readingsOf (key : K) (calls : List (Call K)) : List Time := (calls.filter fun c => c.key = key).map Call.now

variable {max : ℤ} {W : Duration}

theorem runCalls_snoc (calls : List (Call K)) (c : Call K) :
    runCalls max W (calls ++ [c]) = (runCalls max W calls).allow c := runFrom_snoc ..

/-! ### The record of a run -/

theorem sections_snoc (calls : List (Call K)) (c : Call K) :
    (runCalls max W (calls ++ [c])).sections =
      (runCalls max W calls).sections ++ [⟨c.key, c.now, verdict max W calls c⟩] := by
  rw [runCalls_snoc]
  rfl

theorem readings_runCalls (key : K) (calls : List (Call K)) :
    (runCalls max W calls).readings key = readingsOf key calls := by
  induction calls using List.reverseRecOn with
  | nil => rfl
  | append_singleton calls c ih =>
    simp only [Pool.readings, readingsOf] at ih ⊢
    rw [sections_snoc, List.filter_append, List.filter_append, List.map_append, List.map_append, ih]
    by_cases h : c.key = key <;> simp [h]

theorem admitted_snoc (key : K) (calls : List (Call K)) (c : Call K) :
    (runCalls max W (calls ++ [c])).admitted key =
      (runCalls max W calls).admitted key ++ if c.key = key ∧ verdict max W calls c then [c.now] else [] := by
  simp only [Pool.admitted, sections_snoc, List.filter_append, List.map_append]
  by_cases h : c.key = key ∧ verdict max W calls c <;> simp [h]

/-- The pool answers as the window of each key does. -/
theorem follows_runCalls (max : ℤ) (W : Duration) (calls : List (Call K)) : (runCalls max W calls).Follows max W :=
  runFrom_invariant ⟨rfl, rfl, fun _ => rfl⟩ (fun _ c h => h.enter _ c.key c.now) calls

theorem Sorted.readings {calls : List (Call K)} (h : Sorted calls) (key : K) :
    (readingsOf key calls).Pairwise (· ≤ ·) :=
  List.pairwise_map.mpr (h.sublist List.filter_sublist)

variable (max W) in
/-- The instants kept for a key are its admissions, as far as they matter from `t` on. -/
theorem exact_runCalls {calls : List (Call K)} (hs : Sorted calls) {t : Time} (ht : ∀ c ∈ calls, c.now ≤ t) (key : K) :
    Exact W t ((runCalls max W calls).limiter.timestamps key) ((runCalls max W calls).admitted key) := by
  have hrun := (follows_runCalls max W calls).run_eq key
  rw [readings_runCalls] at hrun
  have hle : ∀ r ∈ readingsOf key calls, r ≤ t := by
    intro r hr
    obtain ⟨c, hc, rfl⟩ := List.mem_map.mp hr
    exact ht c (List.mem_of_mem_filter hc)
  have hex := (windowRun_exact max W (hs.readings key) hle).1
  rwa [← hrun] at hex

omit [DecidableEq K] in
theorem Sorted.le_last {pre post : List (Call K)} {c : Call K} (h : Sorted (pre ++ c :: post)) :
    Sorted pre ∧ ∀ a ∈ pre, a.now ≤ c.now := by
  obtain ⟨hpre, -, hle⟩ := List.pairwise_append.mp h
  exact ⟨hpre, fun a ha => hle a ha c (by simp)⟩

/-! ### Exactness -/

/-- A call is let through exactly when its window has room. -/
theorem verdict_iff {pre : List (Call K)} {c : Call K} (hs : Sorted pre) (hc : ∀ a ∈ pre, a.now ≤ c.now) :
    verdict max W pre c = true ↔ ((within W c.now ((runCalls max W pre).admitted c.key)).length : ℤ) < max := by
  have hex := exact_runCalls max W hs hc c.key
  have hf := follows_runCalls max W pre
  rw [verdict, WindowLimiter.allow_fst_iff, WindowLimiter.unexpired, hf.max_eq, hf.window_eq, hex.recent_eq _ le_rfl,
    within_eq_recent hex.le]

/-- After a call that is rejected, everything is answered as if it had not been made. -/
theorem rejected_no_trace {pre post : List (Call K)} {c : Call K} (hs : Sorted (pre ++ c :: post))
    (hc : verdict max W pre c = false) :
    ∃ answers, (runCalls max W (pre ++ c :: post)).sections =
        (runCalls max W pre).sections ++ ⟨c.key, c.now, false⟩ :: answers ∧
      (runCalls max W (pre ++ post)).sections = (runCalls max W pre).sections ++ answers := by
  induction post using List.reverseRecOn with
  | nil => exact ⟨[], by rw [sections_snoc, hc], by simp⟩
  | append_singleton post d ih =>
    have hs' : Sorted ((pre ++ c :: post) ++ d :: []) := by simpa using hs
    obtain ⟨hs₁, hd₁⟩ := hs'.le_last
    have hsub : (pre ++ post).Sublist (pre ++ c :: post) := (List.sublist_cons_self c post).append_left pre
    obtain ⟨answers, h₁, h₂⟩ := ih hs₁
    -- the two runs have the same admissions, so they answer alike
    have hadm : (runCalls max W (pre ++ c :: post)).admitted d.key = (runCalls max W (pre ++ post)).admitted d.key := by
      simp [Pool.admitted, h₁, h₂]
    have hverdict : verdict max W (pre ++ c :: post) d = verdict max W (pre ++ post) d := by
      rw [Bool.eq_iff_iff, verdict_iff hs₁ hd₁, verdict_iff (hs₁.sublist hsub) fun a ha => hd₁ a (hsub.subset ha), hadm]
    refine ⟨answers ++ [⟨d.key, d.now, verdict max W (pre ++ post) d⟩], ?_, ?_⟩
    · rw [← List.cons_append, ← List.append_assoc, sections_snoc, h₁, hverdict]
      simp
    · rw [← List.append_assoc, sections_snoc, h₂]
      simp

variable (max W) in
/-- More calls add at most their number to a key's admissions. -/
theorem admitted_append (key : K) (pre more : List (Call K)) :
    ∃ ts, (runCalls max W (pre ++ more)).admitted key = (runCalls max W pre).admitted key ++ ts ∧
      ts.length ≤ (readingsOf key more).length := by
  induction more using List.reverseRecOn with
  | nil => exact ⟨[], by simp, Nat.zero_le _⟩
  | append_singleton more c ih =>
    obtain ⟨ts, hts, hlen⟩ := ih
    rw [← List.append_assoc, admitted_snoc, hts]
    refine ⟨ts ++ _, List.append_assoc .., ?_⟩
    simp only [readingsOf, List.filter_append, List.map_append, List.length_append, List.length_map] at hlen ⊢
    by_cases h : c.key = key
    · cases verdict max W (pre ++ more) c <;> simp [h] <;> omega
    · simp [h, hlen]

/-- A key that has no admission in its window has room for `max`. -/
theorem verdict_of_quiet {pre more : List (Call K)} {c : Call K} (hs : Sorted (pre ++ more ++ [c])) {t : Time}
    (hpre : ∀ a ∈ pre, a.now ≤ t) (hc : t ≤ c.now) (hquiet : within W t ((runCalls max W pre).admitted c.key) = [])
    (hroom : ((readingsOf c.key more).length : ℤ) < max) : verdict max W (pre ++ more) c = true := by
  obtain ⟨hs', hle⟩ := hs.le_last
  rw [verdict_iff hs' hle]
  obtain ⟨ts, hts, hlen⟩ := admitted_append max W c.key pre more
  have hex := exact_runCalls max W (hs'.sublist (List.sublist_append_left pre more)) hpre c.key
  have hnil := within_eq_nil_of_le hc hex.le hquiet
  have hfew : (within W c.now ts).length ≤ ts.length := List.length_filter_le ..
  rw [hts, within, List.filter_append, ← within, ← within, hnil, List.nil_append]
  omega

/-- **What an exact limiter does** in a run of calls. -/
structure ExactRun (max : ℤ) (W : Duration) (calls : List (Call K)) : Prop where
  /-- A call at `t` is let through exactly when fewer than `max` earlier calls for its key
  were let through in `(t - W, t]`. -/
  admits : ∀ pre c post, calls = pre ++ c :: post →
    (verdict max W pre c = true ↔ ((within W c.now ((runCalls max W pre).admitted c.key)).length : ℤ) < max)
  /-- No interval `(t - W, t]` holds more than `max` admissions of a key. -/
  capped : ∀ key t, ((within W t ((runCalls max W calls).admitted key)).length : ℤ) ≤ max
  /-- The calls after a rejected one are answered as if it had not been made. -/
  rejected : ∀ pre c post, calls = pre ++ c :: post → verdict max W pre c = false →
    ∃ answers, (runCalls max W calls).sections = (runCalls max W pre).sections ++ ⟨c.key, c.now, false⟩ :: answers ∧
      (runCalls max W (pre ++ post)).sections = (runCalls max W pre).sections ++ answers
  /-- When a key has no admission in `(t - W, t]`, its first `max` calls from `t` on are let
  through. -/
  readmits : ∀ pre more c post t, calls = pre ++ more ++ c :: post → (∀ a ∈ pre, a.now ≤ t) → t ≤ c.now →
    within W t ((runCalls max W pre).admitted c.key) = [] → ((readingsOf c.key more).length : ℤ) < max →
    verdict max W (pre ++ more) c = true
  /-- The compaction keeps exactly the instants after the cutoff, in order. -/
  kept : ∀ pre c post, calls = pre ++ c :: post →
    (runCalls max W (pre ++ [c])).limiter.timestamps c.key =
      ((runCalls max W pre).limiter.timestamps c.key).filter (fun s => c.now - W < s) ++
        if verdict max W pre c then [c.now] else []

/-- **The sliding windows are exact** for calls that come in the order of their readings. -/
theorem allow_exact (hmax : 0 ≤ max) (W : Duration) {calls : List (Call K)} (hs : Sorted calls) :
    ExactRun max W calls where
  admits := by
    rintro pre c post rfl
    exact verdict_iff hs.le_last.1 hs.le_last.2
  capped key t := by
    have hrun := (follows_runCalls max W calls).run_eq key
    rw [readings_runCalls] at hrun
    have hcap := windowRun_capped_of_sorted max W (hs.readings key)
    rw [← hrun] at hcap
    have hle : (within W t ((runCalls max W calls).admitted key)).length ≤ max.toNat := hcap t
    omega
  rejected := by
    rintro pre c post rfl hc
    exact rejected_no_trace hs hc
  readmits := by
    rintro pre more c post t rfl hpre hc hquiet hroom
    refine verdict_of_quiet (hs.sublist ?_) hpre hc hquiet hroom
    exact List.Sublist.append_left (List.singleton_sublist.mpr (by simp)) _
  kept := by
    rintro pre c post rfl
    have hf := follows_runCalls max W pre
    rw [runCalls_snoc, Pool.allow, WindowLimiter.timestamps_allow_self, hf.max_eq, hf.window_eq, verdict,
      WindowLimiter.allow_fst, hf.max_eq, hf.window_eq]
    cases hok : (Theory.window max W c.now ((runCalls max W pre).limiter.timestamps c.key)).1 with
    | true => exact window_snd_of_true hok
    | false => rw [window_snd_of_false hok]; exact (List.append_nil _).symm

/-- With room for two in ten: the third call of 7 is rejected, the one of 8 is not, and after
the window 7 is let in again. -/
theorem allow_exact_seqNum :
    ExactRun 2 10 ([⟨7, 0⟩, ⟨7, 1⟩, ⟨7, 9⟩, ⟨8, 9⟩, ⟨7, 11⟩] : List (Call UInt64)) ∧
      (runCalls 2 10 ([⟨7, 0⟩, ⟨7, 1⟩, ⟨7, 9⟩, ⟨8, 9⟩, ⟨7, 11⟩] : List (Call UInt64))).sections.map Section.ok =
        [true, true, false, true, true] :=
  ⟨allow_exact (by decide) 10 (by simp [Sorted]), by decide⟩

/-! ### What is kept in memory -/

/-- The keys with an entry in the map. -/
def Pool.heldKeys (p : Pool K) : List K := p.limiter.keys.keys

/-- The distinct keys that were called in `(t - W, t]`. -/
def recentKeys (W : Duration) (t : Time) (calls : List (Call K)) : List K :=
  ((calls.filter fun c => t - W < c.now ∧ c.now ≤ t).map Call.key).dedup

/-- An entry is made for every key that is called, and none is ever removed. -/
theorem mem_heldKeys {key : K} {calls : List (Call K)} :
    key ∈ (runCalls max W calls).heldKeys ↔ key ∈ calls.map Call.key := by
  induction calls using List.reverseRecOn with
  | nil => simp [Pool.heldKeys, runCalls, runFrom, Pool.start, newWindowLimiter]
  | append_singleton calls c ih =>
    rw [runCalls_snoc, List.map_append, List.mem_append, ← ih]
    simp only [Pool.heldKeys, Pool.allow, WindowLimiter.allow, ← AList.mem_keys, AList.mem_insert, List.map_singleton,
      List.mem_singleton, or_comm]

theorem mem_recentKeys {t : Time} {key : K} {calls : List (Call K)} :
    key ∈ recentKeys W t calls ↔ ∃ c ∈ calls, c.key = key ∧ t - W < c.now ∧ c.now ≤ t := by
  simp only [recentKeys, List.mem_dedup, List.mem_map, List.mem_filter, decide_eq_true_eq]
  constructor
  · rintro ⟨c, ⟨hc, ht⟩, hk⟩
    exact ⟨c, hc, hk, ht⟩
  · rintro ⟨c, hc, hk, ht⟩
    exact ⟨c, ⟨hc, ht⟩, hk⟩

/-- Every key that was ever called was also called in `(t - W, t]`. -/
def AllRecent (W : Duration) (t : Time) (calls : List (Call K)) : Prop :=
  ∀ c ∈ calls, ∃ c' ∈ calls, c'.key = c.key ∧ t - W < c'.now ∧ c'.now ≤ t

/-- **The keys held are no more than those called in the window, and quiet keys hold nothing,
exactly when no key was ever called that is quiet now.** -/
theorem keys_held_iff (max : ℤ) (W : Duration) (calls : List (Call K)) (t : Time) :
    ((runCalls max W calls).heldKeys.length ≤ (recentKeys W t calls).length ↔ AllRecent W t calls) ∧
      ((∀ key ∈ (runCalls max W calls).heldKeys, key ∈ recentKeys W t calls) ↔ AllRecent W t calls) := by
  have hheld : (runCalls max W calls).heldKeys.Nodup := AList.keys_nodup _
  have hrecent : (recentKeys W t calls).Nodup := List.nodup_dedup _
  have hsub : recentKeys W t calls ⊆ (runCalls max W calls).heldKeys := by
    intro key hkey
    obtain ⟨c, hc, rfl, -⟩ := mem_recentKeys.mp hkey
    exact mem_heldKeys.mpr (List.mem_map_of_mem hc)
  have hquiet : (∀ key ∈ (runCalls max W calls).heldKeys, key ∈ recentKeys W t calls) ↔ AllRecent W t calls := by
    simp only [AllRecent, mem_heldKeys, mem_recentKeys, List.forall_mem_map]
  refine ⟨⟨fun hle => hquiet.mp ?_, fun h => ?_⟩, hquiet⟩
  · -- no longer than its part without repetitions, the list of keys held is that part
    exact ((List.subperm_of_subset hrecent hsub).perm_of_length_le hle).symm.subset
  · exact (List.subperm_of_subset hheld (hquiet.mpr h)).length_le

/-- A second `SeqNum` is called long after the first: both are held, and the first has been
quiet for ten windows. -/
theorem quiet_seqNum_held :
    Sorted ([⟨1, 0⟩, ⟨2, 100⟩] : List (Call UInt64)) ∧
      ¬ (runCalls 5 10 ([⟨1, 0⟩, ⟨2, 100⟩] : List (Call UInt64))).heldKeys.length ≤
        (recentKeys 10 100 ([⟨1, 0⟩, ⟨2, 100⟩] : List (Call UInt64))).length ∧
      1 ∈ (runCalls 5 10 ([⟨1, 0⟩, ⟨2, 100⟩] : List (Call UInt64))).heldKeys := by
  refine ⟨?_, by decide, by decide⟩
  simp [Sorted]

end RetryEndpoint.RateLimit.Concurrent
