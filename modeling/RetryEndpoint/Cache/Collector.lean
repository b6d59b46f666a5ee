import RetryEndpoint.Cache.MemoryRuns
import RetryEndpoint.Go.Ticker
import RetryEndpoint.Theory.Runs
import Mathlib.Tactic.Linarith

/-!
# The collector of the memory backend

`cache/memory/memory.go`: `New` starts a goroutine that sweeps the map at every tick of a ticker,
until `Close` hands it a value over the channel `stopGC`, which has no buffer.

## The model

The collector is at its `select`, in a sweep, or has returned. A call of `Close` waits until the
collector takes its value, and then stops the ticker. Stores and deletions come from other
goroutines; `Retrieve` and `Len` change nothing and are left out, as is the lock, under which a sweep
is one step (`Locking`). Time passes between the steps, and a tick is fired when the runtime gets to
it. The state keeps what has been stored and when, and when there was a sweep.

## What is proved

* `close_gets_through_iff` — one call of `Close` gets through at most, the others wait for ever, and after
  it there is no sweep.
* `len_le_recent` — while the collector runs on time, the map holds no more keys than have been
  stored in the last 30 seconds and the time to live before them, with or without a limit.
* `bounded_as_unbounded` — so a limit above that number is never reached, and the cache is that without.
-/

namespace RetryEndpoint.Cache.Collector

open Go Theory

/-! ### The collector -/

/-- `30 * time.Second`. -/
def period : Duration := 30000000000

/-- Where the collector is. -/
inductive Gc where
  /-- At the `select`. -/
  | selecting
  /-- In `sweepExpired`. -/
  | sweeping
  /-- It has returned. -/
  | returned
  deriving DecidableEq

/-- Where a call of `Close` is. -/
inductive Closer where
  /-- Not called. -/
  | idle
  /-- At `c.stopGC <- struct{}{}`. -/
  | sending
  /-- At `c.gcTicker.Stop()`. -/
  | stopping
  /-- It has returned. -/
  | returned
  deriving DecidableEq

/-- The collector has taken its value. -/
def Closer.Through (c : Closer) : Prop := c = .stopping ∨ c = .returned

/-- A call of `Store`. -/
structure Stored where
  /-- The key. -/
  key : Bytes
  /-- When it was stored. -/
  time : Time
  /-- For how long. -/
  ttl : Duration

/-- When a sweep removes what was stored: at once, if the time to live is not positive. -/
def Stored.deadline (r : Stored) : Time := r.time + max r.ttl 0

/-- The cache, with its collector and the calls of `Close`. -/
structure State where
  /-- The clock. -/
  clock : Time
  /-- The map, and its limit. -/
  cache : Memory Bytes
  /-- `c.gcTicker`. -/
  ticker : Ticker
  /-- The collector. -/
  gc : Gc
  /-- The calls of `Close`. -/
  closer : ℕ → Closer
  /-- What has been stored. -/
  stored : List Stored
  /-- When there was a sweep. -/
  swept : List Time

/-- What can happen next. -/
inductive Event where
  /-- Time passes. -/
  | pass (d : ℕ)
  /-- The runtime gets to the ticker. -/
  | fire
  /-- `Store`; `pick` is the order of the map. -/
  | store (key value : Bytes) (ttl : Duration) (pick : ℕ)
  /-- `Delete`. -/
  | delete (key : Bytes)
  /-- The collector receives a tick. -/
  | tick
  /-- `sweepExpired`. -/
  | sweep
  /-- `Close` is called. -/
  | close (w : ℕ)
  /-- The collector receives from `stopGC`, and returns. -/
  | handOver (w : ℕ)
  /-- `Close` stops the ticker, and returns. -/
  | stop (w : ℕ)

/-- `New`. -/
def State.new (maxKeys : ℤ) (clock : Time) : State :=
  ⟨clock, .new Bytes maxKeys, .new period clock, .selecting, fun _ => .idle, [], []⟩

/-- One step. -/
def State.step (s : State) : Event → State
  | .pass d => { s with clock := s.clock + d }
  | .fire => { s with ticker := s.ticker.fire s.clock }
  | .store key value ttl pick =>
    { s with cache := s.cache.store key value ttl s.clock pick, stored := s.stored ++ [⟨key, s.clock, ttl⟩] }
  | .delete key => { s with cache := s.cache.delete key }
  | .tick =>
    if s.gc = .selecting ∧ s.ticker.pending then { s with gc := .sweeping, ticker := s.ticker.receive } else s
  | .sweep =>
    if s.gc = .sweeping then
      { s with gc := .selecting, cache := s.cache.sweepExpired s.clock, swept := s.swept ++ [s.clock] }
    else s
  | .close w => if s.closer w = .idle then { s with closer := Function.update s.closer w .sending } else s
  | .handOver w =>
    if s.closer w = .sending ∧ s.gc = .selecting then
      { s with gc := .returned, closer := Function.update s.closer w .stopping }
    else s
  | .stop w =>
    if s.closer w = .stopping then
      { s with ticker := s.ticker.stop, closer := Function.update s.closer w .returned }
    else s

/-- A run. -/
def run (maxKeys : ℤ) (clock : Time) (es : List Event) : State := runFrom State.step (State.new maxKeys clock) es

theorem run_append (maxKeys : ℤ) (clock : Time) (es es' : List Event) :
    run maxKeys clock (es ++ es') = runFrom State.step (run maxKeys clock es) es' := List.foldl_append ..

/-! ### `Close` -/

/-- The collector has returned if a call of `Close` has got through, and no other has. -/
structure State.Once (s : State) : Prop where
  returned : s.gc = .returned ↔ ∃ w, (s.closer w).Through
  unique : ∀ v w, (s.closer v).Through → (s.closer w).Through → v = w

variable {s : State}

/-- A call that goes on before the hand-over, or after it, changes nothing of that. -/
theorem State.Once.update (h : s.Once) {w : ℕ} {c : Closer} (hc : c.Through ↔ (s.closer w).Through) {s' : State}
    (hgc : s'.gc = .returned ↔ s.gc = .returned) (hcloser : s'.closer = Function.update s.closer w c) : s'.Once := by
  have hthrough : ∀ v, (s'.closer v).Through ↔ (s.closer v).Through := by
    intro v
    rw [hcloser]
    by_cases hv : v = w
    · subst hv
      rw [Function.update_self]
      exact hc
    · rw [Function.update_of_ne hv]
  refine ⟨hgc.trans (h.returned.trans (exists_congr fun v => (hthrough v).symm)), fun v u hv hu => ?_⟩
  exact h.unique v u ((hthrough v).mp hv) ((hthrough u).mp hu)

theorem State.Once.of_closer (h : s.Once) {s' : State} (hgc : s'.gc = .returned ↔ s.gc = .returned)
    (hcloser : s'.closer = s.closer) : s'.Once :=
  ⟨by rw [hgc, hcloser]; exact h.returned, by rw [hcloser]; exact h.unique⟩

theorem State.Once.step (h : s.Once) (e : Event) : (s.step e).Once := by
  cases e with
  | pass d => exact h.of_closer .rfl rfl
  | fire => exact h.of_closer .rfl rfl
  | store key value ttl pick => exact h.of_closer .rfl rfl
  | delete key => exact h.of_closer .rfl rfl
  | tick =>
    simp only [State.step]
    split_ifs with hg
    · exact h.of_closer (by simp [hg.1]) rfl
    · exact h
  | sweep =>
    simp only [State.step]
    split_ifs with hg
    · exact h.of_closer (by simp [hg]) rfl
    · exact h
  | close w =>
    simp only [State.step]
    split_ifs with hw
    · exact h.update (by simp [hw, Closer.Through]) .rfl rfl
    · exact h
  | handOver w =>
    simp only [State.step]
    split_ifs with hw
    · -- none was through, since the collector had not returned
      have hnone : ∀ v, ¬ (s.closer v).Through := by
        intro v hv
        have hret := h.returned.mpr ⟨v, hv⟩
        rw [hw.2] at hret
        cases hret
      have hthrough : ∀ v, (Function.update s.closer w Closer.stopping v).Through → v = w := by
        intro v hv
        by_contra hne
        rw [Function.update_of_ne hne] at hv
        exact hnone v hv
      refine ⟨iff_of_true rfl ⟨w, by simp [Closer.Through]⟩, fun v u hv hu => ?_⟩
      rw [hthrough v hv, hthrough u hu]
    · exact h
  | stop w =>
    simp only [State.step]
    split_ifs with hw
    · exact h.update (by simp [hw, Closer.Through]) .rfl rfl
    · exact h

theorem once_run (maxKeys : ℤ) (clock : Time) (es : List Event) : (run maxKeys clock es).Once := by
  refine runFrom_invariant (I := State.Once) ⟨?_, ?_⟩ (fun _ e h => h.step e) es
  · simp [State.new, Closer.Through]
  · simp [State.new, Closer.Through]

/-- What got through stays so, and the collector sweeps no more. -/
theorem through_step {w : ℕ} (hs : s.Once) (h : (s.closer w).Through) (e : Event) :
    ((s.step e).closer w).Through ∧ (s.step e).swept = s.swept := by
  have hret := hs.returned.mpr ⟨w, h⟩
  cases e with
  | pass d => exact ⟨h, rfl⟩
  | fire => exact ⟨h, rfl⟩
  | store key value ttl pick => exact ⟨h, rfl⟩
  | delete key => exact ⟨h, rfl⟩
  | tick => simp [State.step, hret, h]
  | sweep => simp [State.step, hret, h]
  | close v =>
    simp only [State.step]
    split_ifs with hv
    · have hne : w ≠ v := by
        rintro rfl
        simp [hv, Closer.Through] at h
      exact ⟨by simpa only [Function.update_of_ne hne] using h, rfl⟩
    · exact ⟨h, rfl⟩
  | handOver v => simp [State.step, hret, h]
  | stop v =>
    simp only [State.step]
    split_ifs with hv
    · refine ⟨?_, rfl⟩
      by_cases hw : w = v
      · exact .inr (by simp only [hw, Function.update_self])
      · simpa only [Function.update_of_ne hw] using h
    · exact ⟨h, rfl⟩

theorem through_runFrom {w : ℕ} (hs : s.Once) (h : (s.closer w).Through) (es : List Event) :
    ((runFrom State.step s es).closer w).Through ∧ (runFrom State.step s es).swept = s.swept := by
  have hstep : ∀ (s' : State) (e : Event), s'.Once ∧ (s'.closer w).Through ∧ s'.swept = s.swept →
      (s'.step e).Once ∧ ((s'.step e).closer w).Through ∧ (s'.step e).swept = s.swept := by
    rintro s' e ⟨honce, hthrough, hswept⟩
    obtain ⟨hthrough', hswept'⟩ := through_step honce hthrough e
    exact ⟨honce.step e, hthrough', hswept'.trans hswept⟩
  exact (runFrom_invariant ⟨hs, h, rfl⟩ hstep es).2

/-- A call of `Close` returns if no other has got through and the others make way for it. -/
theorem exists_returned {w : ℕ} (hs : s.Once) (h : ∀ v ≠ w, ¬ (s.closer v).Through) :
    ∃ es, ((runFrom State.step s es).closer w) = .returned := by
  cases hw : s.closer w with
  | returned => exact ⟨[], hw⟩
  | stopping => exact ⟨[.stop w], by simp [runFrom, State.step, hw]⟩
  | idle | sending =>
    have hgc : s.gc ≠ .returned := by
      intro hret
      obtain ⟨v, hv⟩ := hs.returned.mp hret
      by_cases hvw : v = w
      · subst hvw
        simp [hw, Closer.Through] at hv
      · exact h v hvw hv
    -- the sweep comes to its end first
    refine ⟨[.sweep, .close w, .handOver w, .stop w], ?_⟩
    cases hg : s.gc with
    | returned => exact absurd hg hgc
    | selecting | sweeping => simp [runFrom, State.step, hw, hg]

/-- **One call of `Close` gets through**: a call can return exactly as long as no other has got
through, and once one has there is no sweep any more. -/
theorem close_gets_through_iff (maxKeys : ℤ) (clock : Time) (es : List Event) (w : ℕ) :
    ((∃ es', (run maxKeys clock (es ++ es')).closer w = .returned) ↔
        ∀ v ≠ w, ¬ ((run maxKeys clock es).closer v).Through) ∧
      (((run maxKeys clock es).closer w).Through →
        ∀ es', (run maxKeys clock (es ++ es')).swept = (run maxKeys clock es).swept) := by
  have honce := once_run maxKeys clock es
  refine ⟨⟨?_, fun h => ?_⟩, fun h es' => ?_⟩
  · rintro ⟨es', hes'⟩ v hv hthrough
    have hv' := (through_runFrom honce hthrough es').1
    rw [← run_append] at hv'
    exact hv ((once_run maxKeys clock (es ++ es')).unique v w hv' (.inr hes'))
  · simp only [run_append]
    exact exists_returned honce h
  · rw [run_append]
    exact (through_runFrom honce h es').2

/-! ### What the map holds -/

/-- The collector has a tick to take, or is in a sweep. -/
def State.Busy (s : State) : Prop := s.ticker.pending = true ∨ s.gc = .sweeping

instance (s : State) : Decidable s.Busy := inferInstanceAs (Decidable (s.ticker.pending = true ∨ s.gc = .sweeping))

/-- Time does not pass while the collector is busy, nor past the next tick. -/
def State.Punctual (s : State) : Event → Prop
  | .pass d => s.gc ≠ .sweeping ∧ s.ticker.Allows (s.clock + d)
  | _ => True

/-- Where what is in the map comes from, and that it has not long been out of date: `since` is the
instant up to which everything has been swept. -/
def Holds (s : State) (since : Time) : Prop := ∀ k e, s.cache.data.lookup k = some e →
  ∃ r ∈ s.stored, r.key = k ∧ e.expires = r.time + r.ttl ∧ since ≤ r.deadline

/-- A collector that runs on time. -/
structure State.Tidy (s : State) : Prop where
  running : s.ticker.stopped = false
  period : s.ticker.period = period
  /-- The last tick was due within the last period. -/
  clock : s.ticker.next - Collector.period ≤ s.clock ∧ s.clock ≤ s.ticker.next
  /-- It is due now if the collector is busy. -/
  busy : s.Busy → s.clock = s.ticker.next - Collector.period
  /-- The sweep before it was done. -/
  holds : Holds s (s.ticker.next - 2 * Collector.period)
  /-- And its own, unless the collector is busy. -/
  swept : ¬ s.Busy → Holds s (s.ticker.next - Collector.period)

theorem lookup_store_eq_some {m : Memory Bytes} {key value k : Bytes} {ttl : Duration} {now : Time} {pick : ℕ}
    {e : Entry Bytes} (h : (m.store key value ttl now pick).data.lookup k = some e) :
    (k = key ∧ e = ⟨value, now + ttl⟩) ∨ m.data.lookup k = some e := by
  by_cases hk : k = key
  · subst hk
    rw [Memory.lookup_store_self] at h
    exact .inl ⟨rfl, (Option.some.inj h).symm⟩
  · right
    simp only [Memory.store, AList.lookup_insert_ne hk] at h
    split at h
    · next keyToRemove _ =>
      by_cases hr : k = keyToRemove
      · subst hr
        rw [AList.lookup_erase] at h
        cases h
      · rwa [AList.lookup_erase_ne hr] at h
    · exact h

/-- What is stored now is not out of date. -/
theorem Holds.store {since : Time} (h : Holds s since) (hsince : since ≤ s.clock) (key value : Bytes) (ttl : Duration)
    (pick : ℕ) : Holds (s.step (.store key value ttl pick)) since := by
  intro k e hk
  rcases lookup_store_eq_some hk with ⟨rfl, rfl⟩ | hk
  · refine ⟨⟨k, s.clock, ttl⟩, by simp [State.step], rfl, rfl, ?_⟩
    exact hsince.trans (le_add_of_nonneg_right (le_max_right _ _))
  · obtain ⟨r, hr, hrest⟩ := h k e hk
    exact ⟨r, by simp [State.step, hr], hrest⟩

theorem Holds.of_lookup {since since' : Time} (h : Holds s since) {s' : State} (hle : since' ≤ since)
    (hstored : s'.stored = s.stored)
    (hlookup : ∀ k e, s'.cache.data.lookup k = some e → s.cache.data.lookup k = some e) : Holds s' since' := by
  intro k e hk
  obtain ⟨r, hr, hkey, hexp, hdead⟩ := h k e (hlookup k e hk)
  exact ⟨r, hstored ▸ hr, hkey, hexp, hle.trans hdead⟩

/-- A sweep leaves nothing that is out of date. -/
theorem Holds.sweep {since : Time} (h : Holds s since) {s' : State} (hstored : s'.stored = s.stored)
    (hcache : s'.cache = s.cache.sweepExpired s.clock) : Holds s' s.clock := by
  intro k e hk
  rw [hcache, Memory.lookup_sweepExpired, Option.filter_eq_some_iff] at hk
  obtain ⟨r, hr, hkey, hexp, -⟩ := h k e hk.1
  refine ⟨r, hstored ▸ hr, hkey, hexp, ?_⟩
  have hlive : s.clock ≤ e.expires := by simpa using hk.2
  calc s.clock ≤ e.expires := hlive
    _ = r.time + r.ttl := hexp
    _ ≤ r.deadline := by unfold Stored.deadline; gcongr; exact le_max_left _ _

theorem period_pos : 0 < period := by decide

/-- What happens on time leaves the collector on time, unless it returns. -/
theorem State.Tidy.step (h : s.Tidy) (honce : s.Once) {e : Event} (he : s.Punctual e) :
    (s.step e).gc = .returned ∨ (s.step e).Tidy := by
  have hpos := period_pos
  cases e with
  | pass d =>
    obtain ⟨hgc, hpending, hle⟩ := he
    have hidle : ¬ s.Busy := by simp [State.Busy, hgc, hpending]
    have hclock : s.clock ≤ s.clock + d := le_add_of_nonneg_right (Int.natCast_nonneg d)
    exact .inr ⟨h.running, h.period, ⟨h.clock.1.trans hclock, hle⟩, fun hb => absurd hb hidle, h.holds, h.swept⟩
  | fire =>
    right
    rcases h.clock.2.lt_or_eq with hlt | heq
    · simp only [State.step, s.ticker.fire_of_lt hlt]
      exact h
    · -- the last tick was dealt with before this one is due
      have hidle : ¬ s.Busy := by
        intro hb
        have := h.busy hb
        linarith
      simp only [State.step, s.ticker.fire_of_eq h.running heq.symm]
      have hnext : s.ticker.next + s.ticker.period - Collector.period = s.clock := by
        rw [h.period, heq, add_sub_cancel_right]
      refine ⟨h.running, h.period, ⟨hnext.le, ?_⟩, fun _ => hnext.symm, ?_, fun hb => absurd (.inl rfl) hb⟩
      · dsimp only
        rw [h.period]
        linarith
      · refine (h.swept hidle).of_lookup ?_ rfl fun _ _ => id
        dsimp only
        rw [h.period]
        linarith
  | store key value ttl pick =>
    refine .inr ⟨h.running, h.period, h.clock, h.busy, ?_, fun hb => ?_⟩
    · exact h.holds.store (by linarith [h.clock.1]) key value ttl pick
    · exact (h.swept hb).store h.clock.1 key value ttl pick
  | delete key =>
    have hlookup : ∀ k e, (s.cache.delete key).data.lookup k = some e → s.cache.data.lookup k = some e := by
      intro k e hk
      by_cases hkey : k = key
      · subst hkey
        rw [Memory.lookup_delete_self] at hk
        cases hk
      · rwa [Memory.lookup_delete_of_ne _ hkey] at hk
    refine .inr ⟨h.running, h.period, h.clock, h.busy, ?_, fun hb => ?_⟩
    · exact h.holds.of_lookup le_rfl rfl hlookup
    · exact (h.swept hb).of_lookup le_rfl rfl hlookup
  | tick =>
    right
    simp only [State.step]
    split_ifs with hg
    · exact ⟨h.running, h.period, h.clock, fun _ => h.busy (.inl hg.2), h.holds, fun hb => absurd (.inr rfl) hb⟩
    · exact h
  | sweep =>
    right
    simp only [State.step]
    split_ifs with hg
    · have hclock := h.busy (.inr hg)
      have hswept : Holds { s with cache := s.cache.sweepExpired s.clock } s.clock := h.holds.sweep rfl rfl
      refine ⟨h.running, h.period, h.clock, fun _ => hclock, ?_, fun _ => ?_⟩
      · exact hswept.of_lookup (by dsimp only; linarith) rfl fun _ _ => id
      · exact hswept.of_lookup hclock.symm.le rfl fun _ _ => id
    · exact h
  | close w =>
    right
    simp only [State.step]
    split_ifs
    · exact ⟨h.running, h.period, h.clock, h.busy, h.holds, h.swept⟩
    · exact h
  | handOver w =>
    simp only [State.step]
    split_ifs
    · exact .inl rfl
    · exact .inr h
  | stop w =>
    simp only [State.step]
    split_ifs with hw
    · exact .inl (honce.returned.mpr ⟨w, .inl hw⟩)
    · exact .inr h

theorem returned_step (h : s.gc = .returned) (e : Event) : (s.step e).gc = .returned := by
  cases e with
  | pass | fire | store | delete => exact h
  | tick | sweep | handOver w => simp [State.step, h]
  | close w | stop w =>
    simp only [State.step]
    split_ifs <;> exact h

/-- A collector that runs on time, as long as it runs. -/
theorem tidy_run {maxKeys : ℤ} {clock : Time} {es : List Event}
    (h : Along State.step (State.new maxKeys clock) State.Punctual es) (hgc : (run maxKeys clock es).gc ≠ .returned) :
    (run maxKeys clock es).Tidy := by
  have hpos := period_pos
  have hstep : ∀ (s : State) (e : Event), s.Once ∧ (s.gc = .returned ∨ s.Tidy) → s.Punctual e →
      (s.step e).Once ∧ ((s.step e).gc = .returned ∨ (s.step e).Tidy) := by
    rintro s e ⟨honce, hret | htidy⟩ he
    · exact ⟨honce.step e, .inl (returned_step hret e)⟩
    · exact ⟨honce.step e, htidy.step honce he⟩
  have hempty : ∀ since, Holds (State.new maxKeys clock) since := by
    intro since k e hk
    cases hk
  have hnew : (State.new maxKeys clock).Tidy := by
    refine ⟨rfl, rfl, ⟨?_, ?_⟩, ?_, hempty _, fun _ => hempty _⟩
    · simp [State.new, Ticker.new]
    · simp [State.new, Ticker.new, hpos.le]
    · simp [State.Busy, State.new, Ticker.new]
  exact (Along.invariant ⟨once_run maxKeys clock [], .inr hnew⟩ hstep h).2.resolve_left hgc

/-- What was stored, and may still be in the map at `now`. -/
def recent (now : Time) (stored : List Stored) : List Stored := stored.filter fun r => now ≤ r.deadline + period

theorem State.Tidy.len_le (h : s.Tidy) : s.cache.len ≤ (recent s.clock s.stored).length := by
  have hsub : s.cache.data.keys ⊆ (recent s.clock s.stored).map Stored.key := by
    intro k hk
    rw [← AList.mem_keys, ← AList.lookup_isSome] at hk
    obtain ⟨e, he⟩ := Option.isSome_iff_exists.mp hk
    by_cases hb : s.Busy
    · obtain ⟨r, hr, hkey, -, hdead⟩ := h.holds k e he
      have hclock := h.busy hb
      refine List.mem_map.mpr ⟨r, List.mem_filter.mpr ⟨hr, ?_⟩, hkey⟩
      simp only [decide_eq_true_eq]
      linarith
    · obtain ⟨r, hr, hkey, -, hdead⟩ := h.swept hb k e he
      have hclock := h.clock.2
      refine List.mem_map.mpr ⟨r, List.mem_filter.mpr ⟨hr, ?_⟩, hkey⟩
      simp only [decide_eq_true_eq]
      linarith
  rw [Memory.len_eq]
  calc s.cache.data.keys.length
      ≤ ((recent s.clock s.stored).map Stored.key).length := ((AList.keys_nodup _).subperm hsub).length_le
    _ = _ := List.length_map _

/-- **A map that is swept on time holds no more than what was stored recently**: each of its keys
has been stored, and has not been out of date for longer than 30 seconds. -/
theorem len_le_recent {maxKeys : ℤ} {clock : Time} {es : List Event}
    (h : Along State.step (State.new maxKeys clock) State.Punctual es) (hgc : (run maxKeys clock es).gc ≠ .returned) :
    (run maxKeys clock es).cache.len ≤ (recent (run maxKeys clock es).clock (run maxKeys clock es).stored).length :=
  (tidy_run h hgc).len_le

/-- A frame is stored for a second, and the collector sweeps at its first tick. -/
def oneSweep : List Event := [.store [1] [2] 1000000000 0, .pass 30000000000, .fire, .tick, .sweep]

theorem len_le_recent_oneSweep :
    Along State.step (State.new 0 0) State.Punctual oneSweep ∧
      (run 0 0 oneSweep).cache.len ≤ (recent (run 0 0 oneSweep).clock (run 0 0 oneSweep).stored).length := by
  have hes : Along State.step (State.new 0 0) State.Punctual oneSweep := by
    simp only [oneSweep, along_cons_iff]
    exact ⟨trivial, ⟨by decide, by decide, by decide⟩, trivial, trivial, trivial, along_nil⟩
  exact ⟨hes, len_le_recent hes (by decide)⟩

/-! ### A limit that is not reached -/

/-- The same with no limit. -/
def State.unlimited (s : State) : State := { s with cache := { s.cache with maxKeys := 0 } }

/-- There is room for a key when a frame is stored, by what was stored recently. -/
def State.Roomy (maxKeys : ℤ) (s : State) : Event → Prop
  | .store .. => (recent s.clock s.stored).length < maxKeys
  | _ => True

theorem store_of_victim_none {m : Memory Bytes} {pick : ℕ} (h : m.victim pick = none) (key value : Bytes)
    (ttl : Duration) (now : Time) :
    m.store key value ttl now pick = { m with data := m.data.insert key ⟨value, now + ttl⟩ } := by
  simp only [Memory.store, h]

/-- With room for a key, the limit makes no difference to a step. -/
theorem unlimited_step {maxKeys : ℤ} (h : s.Tidy) (hmax : s.cache.maxKeys = maxKeys) {e : Event}
    (he : s.Roomy maxKeys e) : (s.step e).unlimited = s.unlimited.step e := by
  cases e with
  | store key value ttl pick =>
    have hvictim : s.cache.victim pick = none := by
      refine if_neg fun hfull => ?_
      have hlen := h.len_le
      have hroom : ((recent s.clock s.stored).length : ℤ) < maxKeys := he
      rw [hmax] at hfull
      have hle : (s.cache.len : ℤ) ≤ (recent s.clock s.stored).length := by exact_mod_cast hlen
      exact absurd hfull.2 (not_le.mpr (hle.trans_lt hroom))
    have hvictim' : s.unlimited.cache.victim pick = none := Memory.victim_of_unlimited le_rfl pick
    simp only [State.step, store_of_victim_none hvictim, store_of_victim_none hvictim']
    rfl
  | pass | fire | delete => rfl
  | tick | sweep | close | handOver | stop => exact apply_ite State.unlimited ..

theorem maxKeys_run (maxKeys : ℤ) (clock : Time) (es : List Event) :
    (run maxKeys clock es).cache.maxKeys = maxKeys := by
  refine runFrom_invariant (I := fun s : State => s.cache.maxKeys = maxKeys) rfl (fun s e hs => ?_) es
  cases e with
  | pass | fire | store | delete => exact hs
  | tick | sweep | close | handOver | stop =>
    simp only [State.step]
    split_ifs <;> exact hs

/-- **A cache with a limit is one without**, as long as the collector runs on time and there were
fewer frames than the limit in the last 30 seconds and the time to live before them, whenever one
is stored. -/
theorem bounded_as_unbounded {maxKeys : ℤ} {clock : Time} {es : List Event}
    (h : Along State.step (State.new maxKeys clock) (fun s e => s.Punctual e ∧ s.Roomy maxKeys e) es)
    (hgc : (run maxKeys clock es).gc ≠ .returned) :
    (run maxKeys clock es).unlimited = run 0 clock es := by
  induction es using List.reverseRecOn with
  | nil => rfl
  | append_singleton es e ih =>
    obtain ⟨hes, he⟩ := along_snoc_iff.mp h
    have hgc' : (run maxKeys clock es).gc ≠ .returned := by
      intro hret
      rw [run, runFrom_snoc] at hgc
      exact hgc (returned_step hret e)
    have htidy := tidy_run (hes.mono fun _ _ hq => hq.1) hgc'
    rw [run, runFrom_snoc]
    change ((run maxKeys clock es).step e).unlimited = _
    rw [unlimited_step htidy (maxKeys_run maxKeys clock es) he.2, ih hes hgc', run, run, runFrom_snoc]

/-- A cache for two frames is stored to once. -/
theorem bounded_as_unbounded_oneSweep :
    Along State.step (State.new 2 0) (fun s e => s.Punctual e ∧ s.Roomy 2 e) oneSweep ∧
      (run 2 0 oneSweep).unlimited = run 0 0 oneSweep := by
  have hes : Along State.step (State.new 2 0) (fun s e => s.Punctual e ∧ s.Roomy 2 e) oneSweep := by
    have hroom : (State.new 2 0).Roomy 2 (.store [1] [2] 1000000000 0) := by
      change ((recent 0 []).length : ℤ) < 2
      decide
    simp only [oneSweep, along_cons_iff]
    exact ⟨⟨trivial, hroom⟩, ⟨⟨by decide, by decide, by decide⟩, trivial⟩, ⟨trivial, trivial⟩, ⟨trivial, trivial⟩,
      ⟨trivial, trivial⟩, along_nil⟩
  exact ⟨hes, bounded_as_unbounded hes (by decide)⟩

end RetryEndpoint.Cache.Collector
