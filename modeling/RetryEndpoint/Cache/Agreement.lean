import RetryEndpoint.Cache.Backends
import RetryEndpoint.Config
import RetryEndpoint.Theory.Runs

/-!
# The two backends compared

`cache.Cache` has an implementation in the process and one on Redis, and an endpoint works
with either. This module compares what the two return to the same calls.

## The model

A run is a list of calls of `Store`, `Retrieve` and `Delete`, each at an instant, with the
background sweeps of the memory backend among them. What a cache is for is said by the
history: `lastWrite` is the last thing written under a key and not deleted since.

Of the client and the server it is assumed (`SetsFor`) that `SET` with a positive expiration keeps the
value for that time, and that with any other there is no deadline where there was none. The expiration `-1`
is `redis.KeepTTL`, which leaves the deadline of the key as it is; in a run in which every
`Store` has that expiration no key has a deadline to keep, so it is no special case.

## What is proved

* `retrieve_memoryAfter`, `apply_redisAfter` — after every run, each backend returns the last
  thing written, the memory backend until its time to live has passed and Redis only if the
  time to live is positive.
* `backends_agree_iff` — so the two return the same in every run exactly when the time to
  live that is configured is positive.
-/

namespace RetryEndpoint.Cache

open Go Theory

/-- A call of the cache. -/
inductive Call where
  /-- `Store`. -/
  | store (key value : Bytes) (ttl : Duration)
  /-- `Retrieve`. -/
  | retrieve (key : Bytes)
  /-- `Delete`. -/
  | delete (key : Bytes)
  /-- `sweepExpired`, which only the memory backend has. -/
  | sweep

/-- A call, at an instant. -/
structure Event where
  /-- The call. -/
  call : Call
  /-- The instant. -/
  time : Time

/-- One call of the memory backend. -/
def Memory.step (pick : ℕ) (m : Memory Bytes) (e : Event) : Memory Bytes :=
  match e.call with
  | .store key value ttl => m.store key value ttl e.time pick
  | .retrieve _ => m
  | .delete key => m.delete key
  | .sweep => m.sweepExpired e.time

/-- One call of the Redis backend. -/
def RedisCache.step (c : RedisCache) (r : Redis) (e : Event) : Redis :=
  match e.call with
  | .store key value ttl => c.store key value ttl e.time r
  | .retrieve _ => r
  | .delete key => c.delete key r
  | .sweep => r

/-- The memory backend after a run. -/
def memoryAfter (maxKeys : ℤ) (pick : ℕ) (es : List Event) : Memory Bytes :=
  runFrom (Memory.step pick) (Memory.new Bytes maxKeys) es

/-- The keyspace of the Redis backend after a run. -/
def redisAfter (c : RedisCache) (es : List Event) : Redis := runFrom c.step ExpMap.empty es

/-- The two backends return the same to every `Retrieve` of the run. -/
def SameAnswers (maxKeys : ℤ) (pick : ℕ) (c : RedisCache) (es : List Event) : Prop :=
  ∀ pre key t post, es = pre ++ ⟨.retrieve key, t⟩ :: post →
    (memoryAfter maxKeys pick pre).retrieve key t = c.retrieve key t (redisAfter c pre)

/-! ### The history -/

/-- A value that was written. -/
structure Written where
  /-- The value. -/
  value : Bytes
  /-- For how long. -/
  ttl : Duration
  /-- When. -/
  time : Time

/-- What a call does to the last thing written under `key`. -/
def Event.write (key : Bytes) (w : Option Written) (e : Event) : Option Written :=
  match e.call with
  | .store k value ttl => if k = key then some ⟨value, ttl, e.time⟩ else w
  | .delete k => if k = key then none else w
  | .retrieve _ | .sweep => w

/-- The last thing written under `key` and not deleted since. -/
def lastWrite (key : Bytes) (es : List Event) : Option Written := runFrom (Event.write key) none es

theorem lastWrite_snoc (key : Bytes) (es : List Event) (e : Event) :
    lastWrite key (es ++ [e]) = Event.write key (lastWrite key es) e := runFrom_snoc ..

/-- It was stored in the run. -/
theorem mem_of_lastWrite {key : Bytes} {es : List Event} {w : Written} (h : lastWrite key es = some w) :
    ⟨.store key w.value w.ttl, w.time⟩ ∈ es := by
  induction es using List.reverseRecOn with
  | nil => cases h
  | append_singleton es e ih =>
    rw [lastWrite_snoc] at h
    rw [List.mem_append, List.mem_singleton]
    obtain ⟨call, t⟩ := e
    cases call with
    | store k value ttl =>
      by_cases hk : k = key
      · obtain rfl : _ = w := Option.some.inj (by simpa [Event.write, hk] using h)
        exact .inr (by rw [hk])
      · exact .inl (ih (by simpa [Event.write, hk] using h))
    | delete k =>
      by_cases hk : k = key
      · simp [Event.write, hk] at h
      · exact .inl (ih (by simpa [Event.write, hk] using h))
    | retrieve | sweep => exact .inl (ih h)

/-! ### The backends and the history -/

theorem Memory.maxKeys_step (pick : ℕ) (m : Memory Bytes) (e : Event) : (m.step pick e).maxKeys = m.maxKeys := by
  obtain ⟨call, t⟩ := e
  cases call <;> rfl

theorem maxKeys_memoryAfter (maxKeys : ℤ) (pick : ℕ) (es : List Event) :
    (memoryAfter maxKeys pick es).maxKeys = maxKeys :=
  runFrom_invariant (I := fun m : Memory Bytes => m.maxKeys = maxKeys) rfl
    (fun m e hm => (m.maxKeys_step pick e).trans hm) es

/-- **The memory backend returns the last thing written until its time to live has passed**,
wherever the sweeps come. -/
theorem retrieve_memoryAfter {maxKeys : ℤ} (hmax : maxKeys ≤ 0) (pick : ℕ) (key : Bytes) {es : List Event} {t : Time}
    (ht : ∀ e ∈ es, e.time ≤ t) :
    (memoryAfter maxKeys pick es).retrieve key t =
      (lastWrite key es).bind fun w => if w.time + w.ttl < t then none else some w.value := by
  induction es using List.reverseRecOn with
  | nil => rfl
  | append_singleton es e ih =>
    specialize ih fun e he => ht e (List.mem_append_left _ he)
    have hv := Memory.victim_of_unlimited ((maxKeys_memoryAfter maxKeys pick es).trans_le hmax) pick
    rw [lastWrite_snoc, memoryAfter, runFrom_snoc, ← memoryAfter]
    obtain ⟨call, now⟩ := e
    cases call with
    | store k value ttl =>
      by_cases hk : k = key
      · subst hk
        rw [Memory.step, Memory.retrieve_of_lookup (Memory.lookup_store_self ..)]
        simp [Event.write]
      · rw [Memory.step, Memory.retrieve_of_lookup (Memory.lookup_store_of_ne (Ne.symm hk) hv ..),
          ← Memory.retrieve_of_lookup rfl, ih]
        simp [Event.write, hk]
    | delete k =>
      by_cases hk : k = key
      · subst hk
        rw [Memory.step, Memory.retrieve_of_lookup (Memory.lookup_delete_self ..)]
        simp [Event.write]
      · rw [Memory.step, Memory.retrieve_of_lookup (Memory.lookup_delete_of_ne _ (Ne.symm hk)),
          ← Memory.retrieve_of_lookup rfl, ih]
        simp [Event.write, hk]
    | retrieve => exact ih
    | sweep =>
      have hsweep := ht _ (List.mem_append_right _ (List.mem_singleton_self _))
      rw [Memory.step, Memory.retrieve_sweepExpired _ _ hsweep, ih]
      rfl

/-- Every `Store` of the run has the time to live `ttl`. -/
def StoresFor (ttl : Duration) (es : List Event) : Prop := ∀ key value d t, ⟨.store key value d, t⟩ ∈ es → d = ttl

/-- The deadline of what is written, if its time to live is positive. -/
def Written.deadline (w : Written) : Option Time := if 0 < w.ttl then some (w.time + w.ttl) else none

/-- What `SET` makes of the deadline of the last thing written. -/
theorem setUntil_redisAfter {c : RedisCache} {ttl : Duration} (hR : c.client.SetsFor ttl) {key : Bytes}
    {es : List Event} (hes : StoresFor ttl es)
    (h : redisAfter c es (c.redisKey key) = (lastWrite key es).map fun w => ⟨w.value, w.deadline⟩) (value : Bytes)
    (now : Time) :
    c.client.setUntil ttl now (ExpMap.deadline (redisAfter c es) (c.redisKey key) now) =
      Written.deadline ⟨value, ttl, now⟩ := by
  by_cases httl : 0 < ttl
  · rw [hR.pos httl, Written.deadline, if_pos httl]
  · have hold : ExpMap.deadline (redisAfter c es) (c.redisKey key) now = none := by
      rw [ExpMap.deadline, h]
      cases hw : lastWrite key es with
      | none => rfl
      | some w =>
        have hd : w.ttl = ttl := hes _ _ _ _ (mem_of_lastWrite hw)
        simp [Written.deadline, hd, httl]
    rw [hold, hR.nonpos (not_lt.mp httl), Written.deadline, if_neg httl]

/-- **Redis holds the last thing written**, with a deadline if the time to live is positive. -/
theorem apply_redisAfter {c : RedisCache} {ttl : Duration} (hR : c.client.SetsFor ttl) (key : Bytes)
    {es : List Event} (hes : StoresFor ttl es) :
    redisAfter c es (c.redisKey key) = (lastWrite key es).map fun w => ⟨w.value, w.deadline⟩ := by
  induction es using List.reverseRecOn with
  | nil => rfl
  | append_singleton es e ih =>
    have hpre : StoresFor ttl es := fun _ _ _ _ hm => hes _ _ _ _ (List.mem_append_left _ hm)
    specialize ih hpre
    rw [lastWrite_snoc, redisAfter, runFrom_snoc, ← redisAfter]
    obtain ⟨call, now⟩ := e
    cases call with
    | store k value d =>
      obtain rfl : d = ttl := hes k value d now (List.mem_append_right _ (List.mem_singleton_self _))
      by_cases hk : k = key
      · subst hk
        change c.store k value d now (redisAfter c es) (c.redisKey k) = _
        rw [c.store_self, setUntil_redisAfter hR hpre ih value]
        simp [Event.write]
      · have hne : c.redisKey key ≠ c.redisKey k := fun h => hk (c.redisKey_inj h).symm
        simp [RedisCache.step, Event.write, hk, c.store_of_ne hne, ih]
    | delete k =>
      by_cases hk : k = key
      · subst hk
        simp [RedisCache.step, RedisCache.delete, Event.write, ExpMap.del_self]
      · have hne : c.redisKey key ≠ c.redisKey k := fun h => hk (c.redisKey_inj h).symm
        simp [RedisCache.step, RedisCache.delete, Event.write, hk, ExpMap.del_of_ne _ hne, ih]
    | retrieve | sweep => exact ih

/-! ### Agreement -/

/-- A run of an endpoint whose time to live is `ttl`: every `Store` has it and a value that
is not empty, time does not run backwards, and nothing happens at an expiry instant. -/
structure Proper (ttl : Duration) (es : List Event) : Prop where
  /-- What is stored. -/
  stored : ∀ key value d t, ⟨.store key value d, t⟩ ∈ es → d = ttl ∧ value ≠ []
  /-- Time does not run backwards. -/
  sorted : es.Pairwise fun a b => a.time ≤ b.time
  /-- Nothing happens at an expiry instant. -/
  apart : es.Pairwise fun a b => ∀ key value d, a.call = .store key value d → b.time ≠ a.time + d

theorem Proper.storesFor {ttl : Duration} {es : List Event} (h : Proper ttl es) : StoresFor ttl es :=
  fun key value d t hm => (h.stored key value d t hm).1

/-- The call that ends a proper run comes after the others, and at no expiry instant. -/
theorem Proper.at_end {ttl : Duration} {pre post : List Event} {e : Event} (h : Proper ttl (pre ++ e :: post)) :
    ∀ a ∈ pre, a.time ≤ e.time ∧ ∀ key value d, a.call = .store key value d → e.time ≠ a.time + d := by
  intro a ha
  exact ⟨rel_of_pairwise_split h.sorted a ha, rel_of_pairwise_split h.apart a ha⟩

/-- With a time to live that is positive, what is written is returned by both backends until
the same instant. -/
theorem sameAnswers_of_pos {ttl : Duration} (httl : 0 < ttl) {es : List Event} (h : Proper ttl es) {maxKeys : ℤ}
    (hmax : maxKeys ≤ 0) (pick : ℕ) {c : RedisCache} (hR : c.client.SetsFor ttl) : SameAnswers maxKeys pick c es := by
  rintro pre key t post rfl
  have hend := h.at_end
  have hpre : StoresFor ttl pre := fun _ _ _ _ hm => h.storesFor _ _ _ _ (List.mem_append_left _ hm)
  rw [retrieve_memoryAfter hmax pick key fun a ha => (hend a ha).1, RedisCache.retrieve, ExpMap.get,
    apply_redisAfter hR key hpre]
  cases hw : lastWrite key pre with
  | none => rfl
  | some w =>
    have hmem := mem_of_lastWrite hw
    have hd : w.ttl = ttl := hpre _ _ _ _ hmem
    have hne : t ≠ w.time + w.ttl := (hend _ hmem).2 _ _ _ rfl
    have hdead : w.deadline = some (w.time + w.ttl) := if_pos (hd ▸ httl)
    rcases lt_or_gt_of_ne hne with hlt | hgt
    · simp [hdead, hlt, hlt.le]
    · simp [hdead, hgt, hgt.le]

/-- A store and a later lookup. -/
def storeThenRetrieve (ttl : Duration) : List Event := [⟨.store [0] [1] ttl, 0⟩, ⟨.retrieve [0], 1⟩]

theorem proper_storeThenRetrieve {ttl : Duration} (httl : ttl ≤ 0) : Proper ttl (storeThenRetrieve ttl) where
  stored key value d t h := by
    simp only [storeThenRetrieve, List.mem_cons, Event.mk.injEq, Call.store.injEq, reduceCtorEq, false_and,
      List.not_mem_nil, or_false] at h
    obtain ⟨⟨-, rfl, rfl⟩, -⟩ := h
    exact ⟨rfl, by decide⟩
  sorted := by simp [storeThenRetrieve]
  apart := by
    have hne : (1 : Time) ≠ 0 + ttl := by rw [zero_add]; exact (httl.trans_lt one_pos).ne'
    simp only [storeThenRetrieve, List.pairwise_cons, List.mem_singleton, forall_eq, Call.store.injEq]
    refine ⟨?_, by simp⟩
    rintro key value d ⟨-, -, rfl⟩
    exact hne

/-- With a time to live that is not, Redis still has what the memory backend has dropped. -/
theorem not_sameAnswers_storeThenRetrieve {ttl : Duration} (httl : ttl ≤ 0) (maxKeys : ℤ) (pick : ℕ) {c : RedisCache}
    (hR : c.client.SetsFor ttl) : ¬ SameAnswers maxKeys pick c (storeThenRetrieve ttl) := by
  intro h
  have h := h [⟨.store [0] [1] ttl, 0⟩] [0] 1 [] rfl
  have hm : (memoryAfter maxKeys pick [⟨.store [0] [1] ttl, 0⟩]).retrieve [0] 1 = none := by
    refine (Memory.retrieve_of_lookup (Memory.lookup_store_self ..) 1).trans (if_pos ?_)
    rw [zero_add]
    exact httl.trans_lt one_pos
  have hr : c.retrieve [0] 1 (redisAfter c [⟨.store [0] [1] ttl, 0⟩]) = some [1] := by
    have hpre : StoresFor ttl [⟨.store [0] [1] ttl, 0⟩] := by simp +contextual [StoresFor]
    rw [RedisCache.retrieve, ExpMap.get, apply_redisAfter hR [0] hpre]
    simp [lastWrite, runFrom, Event.write, Written.deadline, not_lt.mpr httl, Item.Live]
  rw [hm, hr] at h
  cases h

/-- **The two backends return the same in every run exactly when the time to live is
positive.** `Load` accepts any other time to live as well. What `SET` does with the expiration is
assumed. -/
theorem backends_agree_iff {env : Config.Env} {f : Config.Flags} {cfg : Config} (_ : Config.load env f = .ok cfg)
    {maxKeys : ℤ} (hmax : maxKeys ≤ 0) (pick : ℕ) (c : RedisCache) (hR : c.client.SetsFor cfg.cacheTTL) :
    (∀ es, Proper cfg.cacheTTL es → SameAnswers maxKeys pick c es) ↔ 0 < cfg.cacheTTL := by
  constructor
  · intro h
    by_contra httl
    have httl := not_lt.mp httl
    exact not_sameAnswers_storeThenRetrieve httl maxKeys pick hR (h _ (proper_storeThenRetrieve httl))
  · intro httl es hes
    exact sameAnswers_of_pos httl hes hmax pick hR

/-- With the default time to live of a minute the two agree. -/
theorem backends_agree_by_default :
    Config.load Config.oneInterface (Config.defaults {} .memory) = .ok (Config.defaultConfig {} .memory) ∧
      ∀ es, Proper (60 * Config.second) es → SameAnswers 0 0 ⟨msClient, ascii ['p']⟩ es :=
  ⟨Config.load_defaults .., (backends_agree_iff (Config.load_defaults {} .memory) le_rfl 0 ⟨msClient, ascii ['p']⟩
    (setsFor_msClient (by decide))).mpr (by decide)⟩

/-- A time to live of zero is accepted: the memory backend then returns nothing and Redis
returns the frame for ever. -/
theorem backends_differ_without_ttl :
    ∃ cfg, Config.load Config.oneInterface (Config.defaults { cacheTTL := 0 } .memory) = .ok cfg ∧
      Proper cfg.cacheTTL (storeThenRetrieve 0) ∧ ¬ SameAnswers 0 0 ⟨msClient, ascii ['p']⟩ (storeThenRetrieve 0) :=
  ⟨_, Config.load_defaults .., proper_storeThenRetrieve le_rfl,
    not_sameAnswers_storeThenRetrieve le_rfl 0 0 (setsFor_msClient (dvd_zero _))⟩

end RetryEndpoint.Cache
