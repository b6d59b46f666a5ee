import RetryEndpoint.Cache.Locking

/-!
# The memory backend is linearizable

What the threads that share a `memory.Cache` can rely on: although their calls overlap, it is as if
each were done at one instant.

## The model

The runs are those of `Cache.Locking`, with their two records: `log`, in the order in which calls take
effect, and `returned`. `Acts` says what a step can do to them.

## What is proved

* `Timed` — calls take effect at instants in order: nothing takes effect between a writer's reading of
  the clock and its effect.
* `Accounted` — a call takes effect once, and returns what it had then.
* `State.Guarded.progress` — the threads do not keep each other waiting for ever.
* `locked_linearizes` — so every run is as good as one of whole calls, one after another.
* `concurrent_retrieve_iff` — without a limit, a lookup finds what any of the threads stored last, until its
  time to live has passed.
-/

namespace RetryEndpoint.Cache.Locking

open Go Theory

variable {s s' : State} {w : ℕ} {p : Pc}

/-! ### The two records -/

/-- The instant that a call under way has read. -/
def Pc.stamp : Pc → Option Time
  | .stamped _ _ _ _ now | .sweeping now _ => some now
  | .idle | .waiting _ | .entered _ | .evicted .. | .found .. | .leaving .. => none

/-- What a call under way will return. -/
def Pc.pending : Pc → Option (Op × Answer)
  | .leaving o r => some (o, r)
  | .idle | .waiting _ | .entered _ | .evicted .. | .stamped .. | .found .. | .sweeping .. => none

theorem Pc.writes_of_stamp {p : Pc} {t : Time} (h : p.stamp = some t) : p.writes = true := by
  cases p with
  | stamped | sweeping => rfl
  | idle | waiting | entered | evicted | found | leaving => cases h

/-- **What a step of a thread can do** to the records: nothing, one call takes effect, or one returns. -/
inductive Acts (s : State) (w : ℕ) : State → Prop where
  /-- The thread waits. -/
  | stay : Acts s w s
  /-- It goes on; it may have read the clock. -/
  | move (mu : RWMutex ℕ) (cache : Memory Bytes) (p : Pc) (hold : (s.pc w).pending = none) (hnew : p.pending = none)
      (hstamp : p.stamp = none ∨ p.stamp = (s.pc w).stamp ∨ p.stamp = some s.clock) :
      Acts s w { s with mu := mu, cache := cache, pc := Function.update s.pc w p }
  /-- Its call takes effect, at the instant that it has read or reads. -/
  | commit (cache : Memory Bytes) (o : Op) (time : Time) (pick : ℕ) (r : Answer) (hold : (s.pc w).pending = none)
      (hin : (s.pc w).writes = true ∨ (s.pc w).reads = true)
      (htime : time = s.clock ∨ (s.pc w).stamp = some time) :
      Acts s w ({ s with cache := cache }.commit w o time pick r)
  /-- It returns. -/
  | leave (mu : RWMutex ℕ) (o : Op) (r : Answer) (hold : s.pc w = .leaving o r) :
      Acts s w ({ s with mu := mu, returned := s.returned ++ [(w, o, r)] }.goto w .idle)

theorem acts_enter {o : Op} (hw : s.pc w = .entered o) (pick : ℕ) : Acts s w (s.enter w pick o) := by
  have hold : (s.pc w).pending = none := by rw [hw]; rfl
  have hin : (s.pc w).writes = true ∨ (s.pc w).reads = true := by
    rw [hw]
    cases hx : o.exclusive <;> simp [Pc.writes, Pc.reads, hx]
  unfold State.enter
  split
  · exact .move s.mu _ _ hold rfl (.inl rfl)
  · split
    · exact .commit s.cache _ _ _ _ hold hin (.inl rfl)
    · exact .move s.mu s.cache _ hold rfl (.inl rfl)
  · exact .commit _ _ _ _ _ hold hin (.inl rfl)
  · exact .move s.mu s.cache _ hold rfl (.inr (.inr rfl))
  · exact .commit s.cache _ _ _ _ hold hin (.inl rfl)

theorem acts_act (s : State) (w pick : ℕ) : Acts s w (s.act w pick) := by
  unfold State.act
  split
  next => exact .stay
  next o hw =>
    split
    · exact .move _ s.cache _ (by rw [hw]; rfl) rfl (.inl rfl)
    · exact .stay
  next o hw => exact acts_enter hw pick
  next hw => exact .move s.mu s.cache _ (by rw [hw]; rfl) rfl (.inr (.inr rfl))
  next hw => exact .commit _ _ _ _ _ (by rw [hw]; rfl) (.inl (by rw [hw]; rfl)) (.inr (by rw [hw]; rfl))
  next hw => exact .commit s.cache _ _ _ _ (by rw [hw]; rfl) (.inr (by rw [hw]; rfl)) (.inl rfl)
  next hw =>
    split
    · exact .commit s.cache _ _ _ _ (by rw [hw]; rfl) (.inl (by rw [hw]; rfl)) (.inr (by rw [hw]; rfl))
    · exact .move s.mu _ _ (by rw [hw]; rfl) rfl (.inr (.inl (by rw [hw]; rfl)))
  next o r hw => exact .leave _ o r hw

/-- The calls take effect at instants in order. -/
structure Timed (s : State) : Prop where
  /-- The lock is held by those inside. -/
  guarded : s.Guarded
  /-- The clock has come so far. -/
  le_clock : ∀ x ∈ s.log, x.1.time ≤ s.clock
  /-- In order. -/
  sorted : s.log.Pairwise fun x y => x.1.time ≤ y.1.time
  /-- No call has taken effect since a writer read the clock. -/
  stamp : ∀ w t, (s.pc w).stamp = some t → (∀ x ∈ s.log, x.1.time ≤ t) ∧ t ≤ s.clock

theorem Timed.acts (h : Timed s) (hg : s'.Guarded) (ha : Acts s w s') : Timed s' := by
  cases ha with
  | stay => exact h
  | move mu cache p hold hnew hstamp =>
    refine ⟨hg, h.le_clock, h.sorted, fun v t hv => ?_⟩
    dsimp only at hv
    by_cases hvw : v = w
    · rw [hvw, Function.update_self] at hv
      rcases hstamp with hnone | hsame | hclock
      · rw [hnone] at hv
        cases hv
      · exact h.stamp w t (hsame ▸ hv)
      · obtain rfl := Option.some.inj (hclock.symm.trans hv)
        exact ⟨h.le_clock, le_rfl⟩
    · rw [Function.update_of_ne hvw] at hv
      exact h.stamp v t hv
  | commit cache o time pick r hold hin htime =>
    have hle : (∀ x ∈ s.log, x.1.time ≤ time) ∧ time ≤ s.clock := by
      rcases htime with rfl | hread
      · exact ⟨h.le_clock, le_rfl⟩
      · exact h.stamp w time hread
    refine ⟨hg, fun x hx => ?_, ?_, fun v t hv => ?_⟩
    · rcases List.mem_append.mp hx with hx | hx
      · exact h.le_clock x hx
      · rw [List.mem_singleton.mp hx]
        exact hle.2
    · refine List.pairwise_append.mpr ⟨h.sorted, List.pairwise_singleton _ _, fun x hx y hy => ?_⟩
      rw [List.mem_singleton.mp hy]
      exact hle.1 x hx
    · simp only [State.commit] at hv
      by_cases hvw : v = w
      · rw [hvw, Function.update_self] at hv
        cases hv
      · -- a writer that has read the clock would be alone
        rw [Function.update_of_ne hvw] at hv
        obtain ⟨hw, hr⟩ := RWMutex.Guards.alone h.guarded (Pc.writes_of_stamp hv) (Ne.symm hvw)
        rw [hw, hr] at hin
        rcases hin with hin | hin <;> cases hin
  | leave mu o r hold =>
    refine ⟨hg, h.le_clock, h.sorted, fun v t hv => ?_⟩
    simp only [State.goto] at hv
    by_cases hvw : v = w
    · rw [hvw, Function.update_self] at hv
      cases hv
    · rw [Function.update_of_ne hvw] at hv
      exact h.stamp v t hv

theorem Timed.step (h : Timed s) (e : Event) : Timed (s.step e) := by
  have hg := h.guarded.step e
  cases e with
  | tick d =>
    have hle : s.clock ≤ s.clock + d := le_add_of_nonneg_right (Nat.cast_nonneg d)
    exact ⟨hg, fun x hx => (h.le_clock x hx).trans hle, h.sorted,
      fun w t hw => ⟨(h.stamp w t hw).1, (h.stamp w t hw).2.trans hle⟩⟩
  | invoke w o =>
    unfold State.step at hg ⊢
    dsimp only at hg ⊢
    split at hg
    next hw => exact h.acts hg (.move s.mu s.cache _ (by rw [hw]; rfl) rfl (.inl rfl))
    next => exact h
  | step w pick => exact h.acts hg (acts_act s w pick)

/-- What thread `w` has in the record of effects. -/
def State.effects (s : State) (w : ℕ) : List (Op × Answer) :=
  (s.log.filter fun x => x.1.thread = w).map fun x => (x.1.op, x.2)

/-- What it has in the record of returns. -/
def State.returns (s : State) (w : ℕ) : List (Op × Answer) := (s.returned.filter fun x => x.1 = w).map Prod.snd

/-- **A call takes effect once, and returns what it had then.** -/
def State.Accounted (s : State) : Prop := ∀ w, s.effects w = s.returns w ++ (s.pc w).pending.toList

theorem State.Accounted.acts (h : s.Accounted) (ha : Acts s w s') : s'.Accounted := by
  intro v
  have hv := h v
  cases ha with
  | stay => exact hv
  | move mu cache p hold hnew hstamp =>
    refine hv.trans (congrArg (s.returns v ++ Option.toList ·) ?_)
    dsimp only
    by_cases hvw : v = w
    · rw [hvw, Function.update_self, hold, hnew]
    · rw [Function.update_of_ne hvw]
  | commit cache o time pick r hold hin htime =>
    simp only [State.effects, State.returns, State.commit, List.filter_append, List.map_append] at hv ⊢
    rw [hv]
    by_cases hvw : v = w
    · subst hvw
      rw [hold, Function.update_self]
      simp [Pc.pending]
    · simp [Function.update_of_ne hvw, Ne.symm hvw]
  | leave mu o r hold =>
    simp only [State.effects, State.returns, State.goto, List.filter_append, List.map_append] at hv ⊢
    rw [hv]
    by_cases hvw : v = w
    · subst hvw
      simp [hold, Pc.pending]
    · simp [Function.update_of_ne hvw, Ne.symm hvw]

theorem State.Accounted.step (h : s.Accounted) (e : Event) : (s.step e).Accounted := by
  cases e with
  | tick d => exact h
  | invoke w o =>
    unfold State.step
    dsimp only
    split
    next hw => exact h.acts (.move s.mu s.cache _ (by rw [hw]; rfl) rfl (.inl rfl))
    next => exact h
  | step w pick => exact h.acts (acts_act s w pick)

/-! ### Every run -/

/-- A thread that is in a call, and not inside, waits for the lock. -/
theorem Pc.waiting_of_outside (hidle : p ≠ .idle) (hout : ¬ (p.writes = true ∨ p.reads = true)) :
    ∃ o, p = .waiting o := by
  cases p with
  | idle => exact absurd rfl hidle
  | waiting o => exact ⟨o, rfl⟩
  | entered o | leaving o r => cases hx : o.exclusive <;> simp [Pc.writes, Pc.reads, hx] at hout
  | evicted | stamped | found | sweeping => simp [Pc.writes, Pc.reads] at hout

/-- A thread inside is not kept waiting. -/
theorem act_of_inside (hin : (s.pc w).writes = true ∨ (s.pc w).reads = true) (pick : ℕ) :
    (s.act w pick).pc w ≠ s.pc w := by
  unfold State.act
  split
  next hw => simp [hw, Pc.writes, Pc.reads] at hin
  next o hw => simp [hw, Pc.writes, Pc.reads] at hin
  next o hw =>
    unfold State.enter
    split
    · simp [State.goto, hw]
    · split <;> simp [State.goto, State.commit, hw]
    · simp [State.commit, hw]
    · simp [State.goto, hw]
    · simp [State.commit, hw]
  next hw => simp [State.goto, hw]
  next hw => simp [State.commit, hw]
  next hw => simp [State.commit, hw]
  next now rest hw =>
    split
    next => simp [State.commit, hw]
    next k hk =>
      -- one key less to come to
      simp only [State.goto, Function.update_self, hw, ne_eq, Pc.sweeping.injEq, true_and]
      intro hsame
      have hlen := List.length_erase_add_one (List.mem_of_getElem? hk)
      rw [hsame] at hlen
      omega
  next hw => simp [State.goto, hw]

/-- **As long as there are calls under way, one of them can go on.** -/
theorem State.Guarded.progress (h : s.Guarded) (hw : s.pc w ≠ .idle) : ∃ v pick, (s.act v pick).pc v ≠ s.pc v := by
  cases hmu : s.mu with
  | writer v => exact ⟨v, 0, act_of_inside (.inl ((h.writer v).mpr hmu)) 0⟩
  | readers is =>
    cases is with
    | cons v is => exact ⟨v, 0, act_of_inside (.inr ((h.reader v).mpr ⟨_, hmu, by simp⟩)) 0⟩
    | nil =>
      by_cases hin : (s.pc w).writes = true ∨ (s.pc w).reads = true
      · exact ⟨w, 0, act_of_inside hin 0⟩
      · -- nobody holds the lock, and so a thread that waits for it gets it
        obtain ⟨o, hpc⟩ := Pc.waiting_of_outside hw hin
        refine ⟨w, 0, ?_⟩
        cases hx : o.exclusive with
        | true => simp [State.act, hpc, hx, hmu, RWMutex.lock, State.goto]
        | false => simp [State.act, hpc, hx, hmu, RWMutex.rLock, State.goto]

theorem timed_run (maxKeys : ℤ) (clock : Time) (es : List Event) : Timed (run maxKeys clock es) :=
  runFrom_invariant (I := Timed) ⟨guarded_run maxKeys clock [], nofun, .nil, nofun⟩ (fun _ e h => h.step e) es

/-- The record of a run is one of the sequential cache. -/
theorem record_run (maxKeys : ℤ) (clock : Time) (es : List Event) :
    (run maxKeys clock es).log =
      record Memory.after Memory.result (Memory.new Bytes maxKeys) ((run maxKeys clock es).log.map Prod.fst) :=
  (linearize (refines_new maxKeys clock) rfl (fun _ _ e h => h.step e) es).2

/-- A state that is as good as one of whole calls, one after another. -/
structure Linearized (maxKeys : ℤ) (s : State) : Prop where
  /-- The calls return what the sequential cache answers, in the order in which they take effect. -/
  sequential : s.log = record Memory.after Memory.result (Memory.new Bytes maxKeys) (s.log.map Prod.fst)
  /-- They take effect at instants in order. -/
  sorted : s.log.Pairwise fun x y => x.1.time ≤ y.1.time
  /-- A thread returns from its calls in order, with what they had when they took effect. -/
  accounted : ∀ w, s.effects w = s.returns w ++ (s.pc w).pending.toList
  /-- Nobody is inside with a writer. -/
  exclusive : ∀ w, (s.pc w).writes = true → ∀ v, v ≠ w → (s.pc v).writes = false ∧ (s.pc v).reads = false
  /-- While there are calls under way, one of them can go on. -/
  progress : ∀ w, s.pc w ≠ .idle → ∃ v pick, (s.act v pick).pc v ≠ s.pc v

/-- **Under its lock the memory backend is as good as sequential**, whatever the threads do. -/
theorem locked_linearizes (maxKeys : ℤ) (clock : Time) (es : List Event) :
    Linearized maxKeys (run maxKeys clock es) := by
  have htimed := timed_run maxKeys clock es
  have haccounted : (run maxKeys clock es).Accounted :=
    runFrom_invariant (I := State.Accounted) (fun _ => rfl) (fun _ e h => h.step e) es
  refine ⟨record_run maxKeys clock es, htimed.sorted, haccounted, fun w hw v hv => ?_, fun w hw => ?_⟩
  · exact RWMutex.Guards.alone htimed.guarded hw hv
  · exact htimed.guarded.progress hw

/-! ### What a lookup finds -/

/-- The calls of a record, without those of `Len`. -/
def calls (log : List (Access × Answer)) : List Cache.Event :=
  log.filterMap fun x => match x.1.op with
    | .call c => some ⟨c, x.1.time⟩
    | .len => none

/-- Without a limit the order of the map does not matter. -/
theorem runFrom_after {maxKeys : ℤ} (hmax : maxKeys ≤ 0) (log : List (Access × Answer)) :
    runFrom Memory.after (Memory.new Bytes maxKeys) (log.map Prod.fst) = memoryAfter maxKeys 0 (calls log) := by
  induction log using List.reverseRecOn with
  | nil => rfl
  | append_singleton log x ih =>
    have hcalls : calls (log ++ [x]) = calls log ++ calls [x] := List.filterMap_append
    rw [List.map_append, List.map_singleton, runFrom_snoc, ih, hcalls]
    obtain ⟨⟨w, o, time, pick⟩, r⟩ := x
    cases o with
    | len => simp [Memory.after, calls]
    | call c =>
      have hunlimited := (maxKeys_memoryAfter maxKeys 0 (calls log)).trans_le hmax
      have hstep : memoryAfter maxKeys 0 (calls log ++ [⟨c, time⟩]) =
          (memoryAfter maxKeys 0 (calls log)).step 0 ⟨c, time⟩ := runFrom_snoc ..
      have hlast : calls [(⟨w, .call c, time, pick⟩, r)] = [⟨c, time⟩] := rfl
      rw [hlast, hstep, Memory.after]
      cases c with
      | store key value ttl => simp only [Memory.step, Memory.store, Memory.victim_of_unlimited hunlimited]
      | retrieve | delete | sweep => rfl

/-- **A lookup finds what was stored last**, among all threads, until its time to live has passed: the
last `Store` or `Delete` of the key that took effect before it. -/
theorem concurrent_retrieve_iff {maxKeys : ℤ} (hmax : maxKeys ≤ 0) (clock : Time) (es : List Event)
    {pre post : List (Access × Answer)} {key : Bytes} {t : Time} {pick : ℕ} {value : Option Bytes}
    (hlog : (run maxKeys clock es).log = pre ++ (⟨w, .call (.retrieve key), t, pick⟩, .frame value) :: post)
    (v : Bytes) : value = some v ↔ ∃ ttl since, LastStore key v ttl since (calls pre) ∧ t ≤ since + ttl := by
  have hsorted := (timed_run maxKeys clock es).sorted
  rw [hlog] at hsorted
  have hle : ∀ e ∈ calls pre, e.time ≤ t := by
    intro e he
    obtain ⟨x, hx, hxe⟩ := List.mem_filterMap.mp he
    have htime := rel_of_pairwise_split hsorted x hx
    split at hxe
    next => obtain rfl := Option.some.inj hxe; exact htime
    next => cases hxe
  have hanswer := answer_of_record (record_run maxKeys clock es) hlog
  rw [runFrom_after hmax] at hanswer
  have hvalue : value = (memoryAfter maxKeys 0 (calls pre)).retrieve key t := Answer.frame.inj hanswer
  rw [hvalue, retrieve_memoryAfter hmax 0 key hle, Option.bind_eq_some_iff]
  constructor
  · rintro ⟨written, hlast, hfound⟩
    obtain ⟨hlive, rfl⟩ : ¬ written.time + written.ttl < t ∧ written.value = v := by simpa using hfound
    exact ⟨written.ttl, written.time, lastWrite_eq_some_iff.mp hlast, not_lt.mp hlive⟩
  · rintro ⟨ttl, since, hlast, hlive⟩
    exact ⟨⟨v, ttl, since⟩, lastWrite_eq_some_iff.mpr hlast, if_neg (not_lt.mpr hlive)⟩

/-- A lookup that waits for a store. -/
def storeAndLookup : List Event :=
  [.invoke 0 (.call (.store [1] [7] 5)), .invoke 1 (.call (.retrieve [1])), .step 0 0, .step 1 0, .step 0 0, .tick 2,
    .step 0 0, .step 0 0, .step 0 0, .step 1 0, .step 1 0, .tick 4, .step 1 0]

theorem concurrent_retrieve_iff_of_two :
    ∃ pre, (run 0 0 storeAndLookup).log = pre ++ [(⟨1, .call (.retrieve [1]), 6, 0⟩, .frame (some [7]))] ∧
      ∃ ttl since, LastStore [1] [7] ttl since (calls pre) ∧ 6 ≤ since + ttl := by
  have hlog : (run 0 0 storeAndLookup).log =
      [(⟨0, .call (.store [1] [7] 5), 2, 0⟩, .done)] ++ [(⟨1, .call (.retrieve [1]), 6, 0⟩, .frame (some [7]))] := by
    rfl
  exact ⟨_, hlog, (concurrent_retrieve_iff le_rfl 0 storeAndLookup hlog [7]).mp rfl⟩

end RetryEndpoint.Cache.Locking
