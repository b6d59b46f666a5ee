import RetryEndpoint.Cache.MemoryRuns
import RetryEndpoint.Go.RWMutex
import RetryEndpoint.Theory.Linearize

/-!
# The memory backend under its lock

`cache/memory/memory.go`: the ingress workers, the NACK workers and the collector call one
`memory.Cache` side by side. `Store`, `Delete` and `sweepExpired` take its `sync.RWMutex` to write,
`Retrieve` and `Len` to read, and each of them is several steps under the lock: a store makes room,
reads the clock and sets its entry, a sweep goes through the map key by key.

## The model

A thread is at a `Pc` of its call. Threads take their steps in any order, and the clock runs between
them (`Event`); a thread that waits for the lock stays where it is. A step that needs an order of the map,
of `range` in a store or in a sweep, has it from the event. The state keeps two records: `log` has the
calls in the order in which they take effect, with what they return, and `returned` has them in the
order in which they return.

## What is proved

* `guarded_run` — who changes the map is alone in it, and who reads it keeps the writers out.
* `Memory.sweepKey_swept` — a sweep that goes through the map key by key, in any order, removes what
  `sweepExpired` says.
* `Refines.step` — the map is as the calls so far leave it, but for what the writer has done of its call;
  so a step is nothing for the sequential cache, or one call.
-/

namespace RetryEndpoint.Cache

open Go Theory

/-! ### The calls, and their steps -/

/-- A call of the memory backend. -/
inductive Op where
  /-- `Store`, `Retrieve`, `Delete` or `sweepExpired`. -/
  | call (c : Call)
  /-- `Len`. -/
  | len

/-- The call takes the lock to write. -/
def Op.exclusive : Op → Bool
  | .call (.store ..) | .call (.delete _) | .call .sweep => true
  | .call (.retrieve _) | .len => false

/-- What a call returns. -/
inductive Answer where
  /-- No error. -/
  | done
  /-- What `Retrieve` found. -/
  | frame (value : Option Bytes)
  /-- The number of entries. -/
  | count (n : ℕ)
  deriving DecidableEq

namespace Memory

variable (m : Memory Bytes)

/-- The part of `Store` that makes room. -/
def evict (pick : ℕ) : Memory Bytes :=
  { m with data := match m.victim pick with
    | some keyToRemove => m.data.erase keyToRemove
    | none => m.data }

/-- The body of the loop of `sweepExpired`, for the key `k`. -/
def sweepKey (now : Time) (k : Bytes) : Memory Bytes :=
  match m.data.lookup k with
  | some e => if e.expires < now then m.delete k else m
  | none => m

/-- A sweep that has not come to the keys `rest`. -/
def swept (now : Time) (rest : List Bytes) : Memory Bytes :=
  { m with data := ⟨m.data.entries.filter fun p => p.1 ∈ rest ∨ ¬ p.2.expires < now,
      m.data.nodupKeys.sublist List.filter_sublist⟩ }

end Memory

namespace Locking

/-- Where a thread is. -/
inductive Pc where
  /-- Not in a call. -/
  | idle
  /-- At `Lock` or `RLock`. -/
  | waiting (o : Op)
  /-- It has the lock. -/
  | entered (o : Op)
  /-- `Store` has made room. -/
  | evicted (key value : Bytes) (ttl : Duration) (pick : ℕ)
  /-- `Store` has read the clock. -/
  | stamped (key value : Bytes) (ttl : Duration) (pick : ℕ) (now : Time)
  /-- `Retrieve` has found an entry. -/
  | found (key : Bytes) (e : Entry Bytes)
  /-- `sweepExpired` has read the clock, and has not come to the keys `rest`. -/
  | sweeping (now : Time) (rest : List Bytes)
  /-- At the deferred `Unlock` or `RUnlock`, with the result. -/
  | leaving (o : Op) (r : Answer)

/-- Between `Lock` and `Unlock`. -/
def Pc.writes : Pc → Bool
  | .entered o | .leaving o _ => o.exclusive
  | .evicted .. | .stamped .. | .sweeping .. => true
  | .idle | .waiting _ | .found .. => false

/-- Between `RLock` and `RUnlock`. -/
def Pc.reads : Pc → Bool
  | .entered o | .leaving o _ => !o.exclusive
  | .found .. => true
  | .idle | .waiting _ | .evicted .. | .stamped .. | .sweeping .. => false

/-- A call that has taken effect: who made it, which it is, the instant that counts, and the order of the map. -/
structure Access where
  /-- The thread. -/
  thread : ℕ
  /-- The call. -/
  op : Op
  /-- The instant. -/
  time : Time
  /-- Which key `range` yields first. -/
  pick : ℕ

/-- The cache and the threads that use it. -/
structure State where
  /-- The clock. -/
  clock : Time
  /-- `c.mu`. -/
  mu : RWMutex ℕ
  /-- The map, and its limit. -/
  cache : Memory Bytes
  /-- Where the threads are. -/
  pc : ℕ → Pc
  /-- The calls that have taken effect, in that order. -/
  log : List (Access × Answer)
  /-- The calls that have returned, in that order. -/
  returned : List (ℕ × Op × Answer)

/-- What can happen next. -/
inductive Event where
  /-- Time passes. -/
  | tick (d : ℕ)
  /-- A thread begins a call. -/
  | invoke (w : ℕ) (o : Op)
  /-- A thread takes a step; `pick` is the order of the map. -/
  | step (w : ℕ) (pick : ℕ)

namespace State

/-- `New`. -/
def new (maxKeys : ℤ) (clock : Time) : State := ⟨clock, .readers [], .new Bytes maxKeys, fun _ => .idle, [], []⟩

variable (s : State)

/-- The thread goes on. -/
def goto (w : ℕ) (p : Pc) : State := { s with pc := Function.update s.pc w p }

/-- The call takes effect, and only the lock is left to give back. -/
def commit (w : ℕ) (o : Op) (time : Time) (pick : ℕ) (r : Answer) : State :=
  { s with log := s.log ++ [(⟨w, o, time, pick⟩, r)], pc := Function.update s.pc w (.leaving o r) }

/-- The first step of a call under the lock. -/
def enter (w pick : ℕ) : Op → State
  | .call (.store key value ttl) => { s with cache := s.cache.evict pick }.goto w (.evicted key value ttl pick)
  | .call (.retrieve key) =>
    match s.cache.data.lookup key with
    | none => s.commit w (.call (.retrieve key)) s.clock 0 (.frame none)
    | some e => s.goto w (.found key e)
  | .call (.delete key) =>
    { s with cache := s.cache.delete key }.commit w (.call (.delete key)) s.clock 0 .done
  | .call .sweep => s.goto w (.sweeping s.clock s.cache.data.keys)
  | .len => s.commit w .len s.clock 0 (.count s.cache.len)

/-- A step of a thread. -/
def act (w pick : ℕ) : State :=
  match s.pc w with
  | .idle => s
  | .waiting o =>
    match if o.exclusive then s.mu.lock w else s.mu.rLock w with
    | some mu => { s with mu := mu }.goto w (.entered o)
    | none => s
  | .entered o => s.enter w pick o
  | .evicted key value ttl p => s.goto w (.stamped key value ttl p s.clock)
  | .stamped key value ttl p now =>
    { s with cache := { s.cache with data := s.cache.data.insert key ⟨value, now + ttl⟩ } }.commit w
      (.call (.store key value ttl)) now p .done
  | .found key e =>
    s.commit w (.call (.retrieve key)) s.clock 0 (.frame (if e.expires < s.clock then none else some e.value))
  | .sweeping now rest =>
    match rest[pick % rest.length]? with
    | none => s.commit w (.call .sweep) now 0 .done
    | some k => { s with cache := s.cache.sweepKey now k }.goto w (.sweeping now (rest.erase k))
  | .leaving o r =>
    { s with
      mu := if o.exclusive then s.mu.unlock else s.mu.rUnlock w
      returned := s.returned ++ [(w, o, r)] }.goto w .idle

/-- One event. -/
def step : Event → State
  | .tick d => { s with clock := s.clock + d }
  | .invoke w o =>
    match s.pc w with
    | .idle => s.goto w (.waiting o)
    | _ => s
  | .step w pick => s.act w pick

end State

/-- A run. -/
def run (maxKeys : ℤ) (clock : Time) (es : List Event) : State := runFrom State.step (State.new maxKeys clock) es

/-! ### The lock -/

/-- The lock of a state is held by those inside. -/
def State.Guarded (s : State) : Prop := s.mu.Guards Pc.writes Pc.reads s.pc

theorem State.Guarded.enter {s : State} (h : s.Guarded) {w : ℕ} {o : Op} (hw : s.pc w = .entered o) (pick : ℕ) :
    (s.enter w pick o).Guarded := by
  have hinside {c : Memory Bytes} {log : List (Access × Answer)} {p : Pc} (hp : p.writes = o.exclusive)
      (hp' : p.reads = !o.exclusive) :
      State.Guarded { s with cache := c, log := log, pc := Function.update s.pc w p } :=
    RWMutex.Guards.inside h (by rw [hw, hp]; rfl) (by rw [hw, hp']; rfl)
  unfold State.enter
  split
  · exact hinside rfl rfl
  · split
    · exact hinside rfl rfl
    · exact hinside rfl rfl
  · exact hinside rfl rfl
  · exact hinside rfl rfl
  · exact hinside rfl rfl

theorem State.Guarded.act {s : State} (h : s.Guarded) (w pick : ℕ) : (s.act w pick).Guarded := by
  unfold State.act
  split
  next => exact h
  next o hw =>
    cases hx : o.exclusive with
    | true =>
      simp only [if_true]
      split
      next mu hmu => exact RWMutex.Guards.lock h hmu hx (by simp [Pc.reads, hx])
      next => exact h
    | false =>
      simp only [Bool.false_eq_true, if_false]
      split
      next mu hmu => exact RWMutex.Guards.rLock h hmu (by rw [hw]; rfl) hx (by simp [Pc.reads, hx])
      next => exact h
  next o hw => exact h.enter hw pick
  next hw => exact RWMutex.Guards.inside h (by rw [hw]; rfl) (by rw [hw]; rfl)
  next hw => exact RWMutex.Guards.inside h (by rw [hw]; rfl) (by rw [hw]; rfl)
  next hw => exact RWMutex.Guards.inside h (by rw [hw]; rfl) (by rw [hw]; rfl)
  next hw =>
    split
    · exact RWMutex.Guards.inside h (by rw [hw]; rfl) (by rw [hw]; rfl)
    · exact RWMutex.Guards.inside h (by rw [hw]; rfl) (by rw [hw]; rfl)
  next o r hw =>
    cases hx : o.exclusive with
    | true => exact RWMutex.Guards.unlock h (by rw [hw]; exact hx) rfl rfl
    | false => exact RWMutex.Guards.rUnlock h (by rw [hw]; simp [Pc.reads, hx]) rfl rfl

theorem State.Guarded.step {s : State} (h : s.Guarded) (e : Event) : (s.step e).Guarded := by
  cases e with
  | tick d => exact h
  | invoke w o =>
    unfold State.step
    dsimp only
    split
    next hw => exact RWMutex.Guards.inside h (by rw [hw]; rfl) (by rw [hw]; rfl)
    next => exact h
  | step w pick => exact h.act w pick

/-- **The lock is held by those who are inside**, in every run. -/
theorem guarded_run (maxKeys : ℤ) (clock : Time) (es : List Event) : (run maxKeys clock es).Guarded :=
  have hnew : (State.new maxKeys clock).Guarded := RWMutex.guards_new fun _ => ⟨rfl, rfl⟩
  runFrom_invariant hnew (fun _ e h => h.step e) es

/-! ### The map -/

end Locking

namespace Memory

/-- Erasing a key takes its entry out. -/
theorem kerase_eq_filter {V : Type} {k : Bytes} {l : List (Sigma fun _ : Bytes => V)} (h : l.NodupKeys) :
    l.kerase k = l.filter fun p => p.1 ≠ k := by
  induction l with
  | nil => rfl
  | cons p l ih =>
    obtain ⟨hnot, hl⟩ := List.nodupKeys_cons.mp h
    by_cases hp : k = p.1
    · rw [List.kerase_cons_eq hp, List.filter_cons_of_neg (by simp [hp])]
      refine (List.filter_eq_self.mpr fun q hq => ?_).symm
      have hne : q.1 ≠ k := by
        rintro rfl
        exact hnot (hp ▸ List.mem_keys_of_mem hq)
      simpa using hne
    · rw [List.kerase_cons_ne hp, ih hl, List.filter_cons_of_pos (by simpa using Ne.symm hp)]

variable (m : Memory Bytes)

theorem swept_nil (now : Time) : m.swept now [] = m.sweepExpired now := by
  simp [swept, sweepExpired]

theorem swept_keys (now : Time) : m.swept now m.data.keys = m := by
  have hall : (m.data.entries.filter fun p => p.1 ∈ m.data.keys ∨ ¬ p.2.expires < now) = m.data.entries :=
    List.filter_eq_self.mpr fun p hp => by simp [AList.keys, List.mem_keys_of_mem hp]
  obtain ⟨data, maxKeys⟩ := m
  exact congrArg (Memory.mk · maxKeys) (AList.ext hall)

/-- The loop of a sweep, key by key in any order, comes to what the sweep removes. -/
theorem sweepKey_swept {now : Time} {rest : List Bytes} (hrest : rest.Nodup) {k : Bytes} (hk : k ∈ rest) :
    (m.swept now rest).sweepKey now k = m.swept now (rest.erase k) := by
  -- the key has not been visited, so its entry is as it was
  have hlookup : (m.swept now rest).data.lookup k = m.data.lookup k := by
    refine Option.ext fun e => ?_
    rw [← Option.mem_def, ← Option.mem_def, AList.mem_lookup_iff, AList.mem_lookup_iff]
    simp [swept, hk]
  have hmem (p : Sigma fun _ : Bytes => Entry Bytes) (hp : p ∈ m.data.entries) (hpk : p.1 = k) :
      m.data.lookup k = some p.2 := by
    subst hpk
    exact AList.mem_lookup_iff.mpr hp
  have hentries : ((m.swept now rest).sweepKey now k).data.entries = (m.swept now (rest.erase k)).data.entries := by
    unfold sweepKey
    rw [hlookup]
    cases he : m.data.lookup k with
    | none =>
      refine List.filter_congr fun p hp => ?_
      have hne : p.1 ≠ k := fun hpk => by simp [hmem p hp hpk] at he
      simp [List.mem_erase_of_ne hne]
    | some e =>
      by_cases hx : e.expires < now
      · simp only [if_pos hx]
        refine (kerase_eq_filter (m.swept now rest).data.nodupKeys).trans ?_
        simp only [swept, List.filter_filter]
        refine List.filter_congr fun p hp => ?_
        by_cases hpk : p.1 = k
        · have hpe : p.2 = e := Option.some.inj ((hmem p hp hpk).symm.trans he)
          simp [hpk, hpe, hx, hrest.not_mem_erase]
        · simp [hpk, List.mem_erase_of_ne hpk]
      · simp only [if_neg hx]
        refine List.filter_congr fun p hp => ?_
        by_cases hpk : p.1 = k
        · have hpe : p.2 = e := Option.some.inj ((hmem p hp hpk).symm.trans he)
          simp [hpk, hpe, hx, hk]
        · simp [List.mem_erase_of_ne hpk]
  have hmax : ((m.swept now rest).sweepKey now k).maxKeys = (m.swept now (rest.erase k)).maxKeys := by
    unfold sweepKey
    split
    · split_ifs <;> rfl
    · rfl
  generalize (m.swept now rest).sweepKey now k = m₁ at hentries hmax ⊢
  generalize m.swept now (rest.erase k) = m₂ at hentries hmax ⊢
  obtain ⟨data, maxKeys⟩ := m₁
  obtain ⟨data', maxKeys'⟩ := m₂
  exact congrArg₂ Memory.mk (AList.ext hentries) hmax

/-- The sequential cache after an access. -/
def after (m : Memory Bytes) (a : Locking.Access) : Memory Bytes :=
  match a.op with
  | .call c => m.step a.pick ⟨c, a.time⟩
  | .len => m

/-- What it answers. -/
def result (m : Memory Bytes) (a : Locking.Access) : Answer :=
  match a.op with
  | .call (.retrieve key) => .frame (m.retrieve key a.time)
  | .call (.store ..) | .call (.delete _) | .call .sweep => .done
  | .len => .count m.len

end Memory

namespace Locking

/-- What the writer has done of its call. -/
def Pc.progress (m : Memory Bytes) : Pc → Memory Bytes
  | .evicted _ _ _ pick | .stamped _ _ _ pick _ => m.evict pick
  | .sweeping now rest => m.swept now rest
  | .idle | .waiting _ | .entered _ | .found .. | .leaving .. => m

/-- **The map is as the calls so far leave it**, but for what the writer has done of its call. -/
structure Refines (s : State) (m : Memory Bytes) : Prop where
  /-- The lock is held by those inside. -/
  guarded : s.Guarded
  /-- Nobody writes. -/
  quiet : (∀ w, (s.pc w).writes = false) → s.cache = m
  /-- Somebody writes. -/
  writing : ∀ w, (s.pc w).writes = true → s.cache = (s.pc w).progress m
  /-- An entry that was found is still there. -/
  found : ∀ w key e, s.pc w = .found key e → m.data.lookup key = some e
  /-- A sweep comes to a key once. -/
  nodup : ∀ w now rest, s.pc w = .sweeping now rest → rest.Nodup

variable {s s' : State} {m m' : Memory Bytes} {w : ℕ} {p : Pc}

/-- A writer goes on: nobody else is inside. -/
theorem Refines.of_writes (hg : s'.Guarded) (hpc : s'.pc w = p) (hp : p.writes = true)
    (hcache : s'.cache = p.progress m') (hrest : ∀ now rest, p = .sweeping now rest → rest.Nodup) : Refines s' m' := by
  subst hpc
  have halone {v : ℕ} (hv : v ≠ w) := RWMutex.Guards.alone hg hp hv
  refine ⟨hg, fun hquiet => ?_, fun v hv => ?_, fun v key e hv => ?_, fun v now rest hv => ?_⟩
  · rw [hquiet w] at hp
    cases hp
  · by_cases hvw : v = w
    · rw [hvw]
      exact hcache
    · rw [(halone hvw).1] at hv
      cases hv
  · by_cases hvw : v = w
    · rw [← hvw, hv] at hp
      cases hp
    · have hreads := (halone hvw).2
      rw [hv] at hreads
      cases hreads
  · by_cases hvw : v = w
    · exact hrest now rest (hvw ▸ hv)
    · have hwrites := (halone hvw).1
      rw [hv] at hwrites
      cases hwrites

/-- A thread that does not write goes on: the map stays as it is. -/
theorem Refines.of_not_writes (h : Refines s m) (hg : s'.Guarded) (hpc : s'.pc = Function.update s.pc w p)
    (hcache : s'.cache = s.cache) (hold : (s.pc w).writes = false) (hp : p.writes = false)
    (hfound : ∀ key e, p = .found key e → m.data.lookup key = some e) : Refines s' m := by
  have hother {v : ℕ} (hv : v ≠ w) : s'.pc v = s.pc v := by rw [hpc, Function.update_of_ne hv]
  have hself : s'.pc w = p := by rw [hpc, Function.update_self]
  refine ⟨hg, fun hquiet => ?_, fun v hv => ?_, fun v key e hv => ?_, fun v now rest hv => ?_⟩
  · rw [hcache]
    refine h.quiet fun v => ?_
    by_cases hvw : v = w
    · rw [hvw, hold]
    · rw [← hother hvw, hquiet v]
  · by_cases hvw : v = w
    · rw [hvw, hself, hp] at hv
      cases hv
    · rw [hother hvw] at hv ⊢
      rw [hcache]
      exact h.writing v hv
  · by_cases hvw : v = w
    · exact hfound key e (by rw [← hself, ← hvw, hv])
    · exact h.found v key e (by rw [← hother hvw, hv])
  · by_cases hvw : v = w
    · rw [hvw, hself] at hv
      rw [hv] at hp
      cases hp
    · exact h.nodup v now rest (by rw [← hother hvw, hv])

/-- A writer leaves: nobody is inside any more. -/
theorem Refines.of_unlock (h : Refines s m) (hg : s'.Guarded) (hpc : s'.pc = Function.update s.pc w .idle)
    (hcache : s'.cache = s.cache) (hold : (s.pc w).writes = true) (hdone : (s.pc w).progress m = m) : Refines s' m := by
  have hout (v : ℕ) : (s'.pc v).writes = false ∧ (s'.pc v).reads = false := by
    rw [hpc]
    by_cases hvw : v = w
    · rw [hvw, Function.update_self]
      exact ⟨rfl, rfl⟩
    · rw [Function.update_of_ne hvw]
      exact RWMutex.Guards.alone h.guarded hold hvw
  refine ⟨hg, fun _ => ?_, fun v hv => ?_, fun v key e hv => ?_, fun v now rest hv => ?_⟩
  · rw [hcache, h.writing w hold, hdone]
  · rw [(hout v).1] at hv
    cases hv
  · have hreads := (hout v).2
    rw [hv] at hreads
    cases hreads
  · have hwrites := (hout v).1
    rw [hv] at hwrites
    cases hwrites

/-- A reader sees what the calls so far leave. -/
theorem Refines.cache_of_reads (h : Refines s m) (hr : (s.pc w).reads = true) : s.cache = m :=
  h.quiet fun v => RWMutex.Guards.no_writer h.guarded hr v

/-- A call that only reads takes effect. -/
theorem Refines.commit (h : Refines s m) {o : Op} {time : Time} {pick : ℕ} {r : Answer}
    (hg : (s.commit w o time pick r).Guarded) (hold : (s.pc w).writes = false) (ho : o.exclusive = false)
    (hr : r = m.result ⟨w, o, time, pick⟩) :
    Linear Memory.after Memory.result Refines State.log s (s.commit w o time pick r) m := by
  refine .inr ⟨⟨w, o, time, pick⟩, ?_, by rw [← hr]; rfl⟩
  have hm : m.after ⟨w, o, time, pick⟩ = m := by
    cases o with
    | call c =>
      cases c with
      | retrieve key => rfl
      | store | delete | sweep => cases ho
    | len => rfl
  rw [hm]
  exact h.of_not_writes hg rfl rfl hold ho (by simp)

/-- The first step under the lock. -/
theorem Refines.enter (h : Refines s m) {o : Op} (hw : s.pc w = .entered o) (pick : ℕ) :
    Linear Memory.after Memory.result Refines State.log s (s.enter w pick o) m := by
  have hg := h.guarded.enter hw pick
  have hwrites : (s.pc w).writes = o.exclusive := by rw [hw]; rfl
  have hcache : s.cache = m := by
    cases hx : o.exclusive with
    | true =>
      have hprogress := h.writing w (hwrites.trans hx)
      rwa [hw] at hprogress
    | false => exact h.cache_of_reads (by rw [hw]; simp [Pc.reads, hx])
  unfold State.enter at hg ⊢
  split
  next key value ttl =>
    refine .inl ⟨.of_writes hg (Function.update_self ..) rfl ?_ (by simp), rfl⟩
    exact congrArg (Memory.evict · pick) hcache
  next key =>
    dsimp only at hg
    rw [hcache] at hg ⊢
    split at hg
    next hnone => exact h.commit hg hwrites rfl (by simp [Memory.result, Memory.retrieve, hnone])
    next e he =>
      refine .inl ⟨h.of_not_writes hg rfl rfl hwrites rfl ?_, rfl⟩
      rintro k e' ⟨⟩
      exact he
  next key =>
    refine .inr ⟨⟨w, .call (.delete key), s.clock, 0⟩, ?_, rfl⟩
    refine .of_writes hg (Function.update_self ..) rfl ?_ (by simp)
    exact congrArg (Memory.delete · key) hcache
  next =>
    refine .inl ⟨.of_writes hg (Function.update_self ..) rfl ?_ ?_, rfl⟩
    · have hall : m = m.swept s.clock s.cache.data.keys := by rw [hcache, m.swept_keys]
      exact hcache.trans hall
    · rintro now rest ⟨⟩
      exact s.cache.data.keys_nodup
  next => exact h.commit hg hwrites rfl (by rw [hcache]; rfl)

/-- **A step of a thread is nothing for the sequential cache, or one call.** -/
theorem Refines.act (h : Refines s m) (w pick : ℕ) :
    Linear Memory.after Memory.result Refines State.log s (s.act w pick) m := by
  have hg := h.guarded.act w pick
  unfold State.act at hg ⊢
  split
  next => exact .inl ⟨h, rfl⟩
  next o hw =>
    simp only [hw] at hg
    cases hx : o.exclusive with
    | true =>
      simp only [hx, if_true] at hg ⊢
      split at hg
      next mu hmu =>
        -- nobody was inside
        have hquiet := h.guarded
        rw [State.Guarded, (RWMutex.lock_eq_some hmu).1] at hquiet
        exact .inl ⟨.of_writes hg (Function.update_self ..) hx (h.quiet hquiet.quiet) (by simp), rfl⟩
      next => exact .inl ⟨h, rfl⟩
    | false =>
      simp only [hx, Bool.false_eq_true, if_false] at hg ⊢
      split at hg
      next mu hmu => exact .inl ⟨h.of_not_writes hg rfl rfl (by rw [hw]; rfl) hx (by simp), rfl⟩
      next => exact .inl ⟨h, rfl⟩
  next o hw => exact h.enter hw pick
  next key value ttl p hw =>
    simp only [hw] at hg
    refine .inl ⟨.of_writes hg (Function.update_self ..) rfl ?_ (by simp), rfl⟩
    have hprogress := h.writing w (by rw [hw]; rfl)
    rwa [hw] at hprogress
  next key value ttl p now hw =>
    simp only [hw] at hg
    refine .inr ⟨⟨w, .call (.store key value ttl), now, p⟩, ?_, rfl⟩
    refine .of_writes hg (Function.update_self ..) rfl ?_ (by simp)
    have hprogress := h.writing w (by rw [hw]; rfl)
    rw [hw] at hprogress
    exact congrArg (fun c : Memory Bytes => { c with data := c.data.insert key ⟨value, now + ttl⟩ }) hprogress
  next key e hw =>
    simp only [hw] at hg
    refine h.commit hg (by rw [hw]; rfl) rfl ?_
    simp [Memory.result, Memory.retrieve, h.found w key e hw]
  next now rest hw =>
    simp only [hw] at hg
    have hprogress := h.writing w (by rw [hw]; rfl)
    rw [hw] at hprogress
    split at hg
    next hnone =>
      -- the loop is over
      obtain rfl : rest = [] := by
        by_contra hne
        have hpos := List.length_pos_iff.mpr hne
        exact absurd (List.getElem?_eq_none_iff.mp hnone) (not_le.mpr (Nat.mod_lt pick hpos))
      refine .inr ⟨⟨w, .call .sweep, now, 0⟩, ?_, rfl⟩
      exact .of_writes hg (Function.update_self ..) rfl (hprogress.trans (m.swept_nil now)) (by simp)
    next k hk =>
      have hnodup := h.nodup w now rest hw
      refine .inl ⟨.of_writes hg (Function.update_self ..) rfl ?_ ?_, rfl⟩
      · refine (congrArg (Memory.sweepKey · now k) hprogress).trans ?_
        exact m.sweepKey_swept hnodup (List.mem_of_getElem? hk)
      · rintro now' rest' ⟨⟩
        exact hnodup.erase k
  next o r hw =>
    simp only [hw] at hg
    by_cases hx : o.exclusive = true
    · exact .inl ⟨h.of_unlock hg rfl rfl (by rw [hw]; exact hx) (by rw [hw]; rfl), rfl⟩
    · exact .inl ⟨h.of_not_writes hg rfl rfl (by rw [hw]; exact Bool.eq_false_iff.mpr hx) rfl (by simp), rfl⟩

theorem Refines.step (h : Refines s m) (e : Event) :
    Linear Memory.after Memory.result Refines State.log s (s.step e) m := by
  cases e with
  | tick d => exact .inl ⟨⟨h.guarded, h.quiet, h.writing, h.found, h.nodup⟩, rfl⟩
  | invoke w o =>
    have hg := h.guarded.step (.invoke w o)
    unfold State.step at hg ⊢
    dsimp only at hg ⊢
    split at hg
    next hw => exact .inl ⟨h.of_not_writes hg rfl rfl (by rw [hw]; rfl) rfl (by simp), rfl⟩
    next => exact .inl ⟨h, rfl⟩
  | step w pick => exact h.act w pick

theorem refines_new (maxKeys : ℤ) (clock : Time) : Refines (State.new maxKeys clock) (Memory.new Bytes maxKeys) where
  guarded := guarded_run maxKeys clock []
  quiet _ := rfl
  writing w hw := by cases hw
  found w key e hw := by cases hw
  nodup w now rest hw := by cases hw

end Locking

end RetryEndpoint.Cache
