import RetryEndpoint.Go.Bytes
import RetryEndpoint.Theory.ExpiringMap
import Mathlib.Data.List.AList

/-!
# The cache and its two backends

`cache/cache.go`, `cache/memory/memory.go` and `cache/redis/redis.go`: frames are stored
under a key for a time, in the process or in a Redis that several endpoints may share.

## The model

`Interface` is the interface `cache.Cache`, over the state `σ` of the backend and the type `V` of what is
handed to `Store`: a backend may keep the slice it is given or the bytes in it.

* `Memory` is the in-process backend: a map of entries with an expiry, checked by
  `retrieve` and `sweepExpired`. `store` keeps what it is given. When the cache is full it
  deletes the first key that `range` over the map yields, which Go leaves open: `pick`
  says which.
* `RedisCache` is the Redis backend: a key prefix, in front of every key, on a store with
  `SET`, `GET` and `SET NX` (`Theory.ExpMap`). The value goes over the network, so Redis
  keeps the bytes. A `Fault` is a command that comes back with an error; the server may
  have run it all the same.
* `RedisClient` is what the client package and the server make of an expiration, which is
  not part of the repository: until when a value is kept, and whether `SET NX` is accepted. What is
  assumed of it is said where it is used, by `SetsFor`, `ClaimsAtLeast` and `ClaimsFor`.

## What is proved

* `Memory.lookup_store_of_ne`, `Memory.lookup_store_self` — what a store does to the entries.
* `Memory.lookup_sweepExpired` — a sweep removes exactly what a lookup would not return.
* `RedisCache.setNX_of_agreeOn`, `RedisCache.store_of_agreeOn` — a command is answered by the entry of
  its key alone, and changes no other.
-/

namespace RetryEndpoint.Cache

open Go Theory

/-- A Go `error` that is not nil. -/
abbrev Err := String

/-- `cache.Cache`: `Store` and `Retrieve`, at an instant of the clock. -/
structure Interface (σ V : Type) where
  /-- `Store`: the error, if any, and the state after it. -/
  store : Bytes → V → Duration → Time → σ → Option Err × σ
  /-- `Retrieve`: an error, or the value, if there is one. -/
  retrieve : Bytes → Time → σ → Except Err (Option V)

/-! ### Memory -/

/-- `entry`. -/
structure Entry (V : Type) where
  /-- The value. -/
  value : V
  /-- When the value expires. -/
  expires : Time

/-- `memory.Cache`. -/
structure Memory (V : Type) where
  /-- The entries. -/
  data : AList fun _ : Bytes => Entry V
  /-- The most keys to hold; no limit unless positive. -/
  maxKeys : ℤ

namespace Memory

variable {V : Type}

/-- `New`. -/
def new (V : Type) (maxKeys : ℤ) : Memory V := ⟨∅, maxKeys⟩

/-- `len(c.data)`. -/
def len (m : Memory V) : ℕ := m.data.entries.length

/-- The key that `Store` deletes to make room: the first that `range` yields, when the
cache is full. -/
def victim (m : Memory V) (pick : ℕ) : Option Bytes :=
  if 0 < m.maxKeys ∧ m.maxKeys ≤ m.len then m.data.keys[pick % m.len]? else none

/-- `Store`. -/
def store (m : Memory V) (key : Bytes) (value : V) (ttl : Duration) (now : Time) (pick : ℕ) : Memory V :=
  let data := match m.victim pick with
    | some keyToRemove => m.data.erase keyToRemove
    | none => m.data
  { m with data := data.insert key ⟨value, now + ttl⟩ }

/-- `Retrieve`. -/
def retrieve (m : Memory V) (key : Bytes) (now : Time) : Option V :=
  match m.data.lookup key with
  | none => none
  | some e => if e.expires < now then none else some e.value

/-- `Delete`. -/
def delete (m : Memory V) (key : Bytes) : Memory V := { m with data := m.data.erase key }

/-- `sweepExpired`. -/
def sweepExpired (m : Memory V) (now : Time) : Memory V :=
  { m with data := ⟨m.data.entries.filter fun p => ¬ p.2.expires < now,
      m.data.nodupKeys.sublist List.filter_sublist⟩ }

/-- The backend, with `pick` for the order of the map. -/
def cache (V : Type) (pick : ℕ) : Interface (Memory V) V where
  store key value ttl now m := (none, m.store key value ttl now pick)
  retrieve key now m := .ok (m.retrieve key now)

theorem lookup_store_self (m : Memory V) (key : Bytes) (value : V) (ttl : Duration) (now : Time) (pick : ℕ) :
    (m.store key value ttl now pick).data.lookup key = some ⟨value, now + ttl⟩ := by
  simp only [store, AList.lookup_insert]

/-- A store that evicts nothing leaves the other keys alone. -/
theorem lookup_store_of_ne {m : Memory V} {key k : Bytes} (hk : k ≠ key) {pick : ℕ} (hv : m.victim pick = none)
    (value : V) (ttl : Duration) (now : Time) :
    (m.store key value ttl now pick).data.lookup k = m.data.lookup k := by
  simp only [store, hv, AList.lookup_insert_ne hk]

theorem lookup_delete_self (m : Memory V) (key : Bytes) : (m.delete key).data.lookup key = none :=
  AList.lookup_erase ..

theorem lookup_delete_of_ne (m : Memory V) {key k : Bytes} (hk : k ≠ key) :
    (m.delete key).data.lookup k = m.data.lookup k := AList.lookup_erase_ne hk

theorem victim_of_unlimited {m : Memory V} (h : m.maxKeys ≤ 0) (pick : ℕ) : m.victim pick = none :=
  if_neg fun hm => absurd hm.1 (not_lt.mpr h)

theorem retrieve_of_lookup {m : Memory V} {key : Bytes} {o : Option (Entry V)} (h : m.data.lookup key = o) (t : Time) :
    m.retrieve key t = o.bind fun e => if e.expires < t then none else some e.value := by
  rw [retrieve, h]
  cases o <;> rfl

/-- A sweep removes exactly the entries that have expired. -/
theorem lookup_sweepExpired (m : Memory V) (key : Bytes) (now : Time) :
    (m.sweepExpired now).data.lookup key = (m.data.lookup key).filter fun e => ¬ e.expires < now := by
  refine Option.ext fun e => ?_
  rw [← Option.mem_def, AList.mem_lookup_iff, Option.filter_eq_some_iff, ← Option.mem_def, AList.mem_lookup_iff]
  simp [sweepExpired]

/-- So it is not seen by those who look later. -/
theorem retrieve_sweepExpired (m : Memory V) (key : Bytes) {now t : Time} (h : now ≤ t) :
    (m.sweepExpired now).retrieve key t = m.retrieve key t := by
  rw [retrieve_of_lookup (m.lookup_sweepExpired key now), retrieve_of_lookup (o := m.data.lookup key) rfl]
  cases m.data.lookup key with
  | none => rfl
  | some e =>
    by_cases he : e.expires < now
    · simp [Option.filter, he, he.trans_le h]
    · simp [Option.filter, he]

end Memory

/-! ### Redis -/

/-- The keyspace of a Redis server. -/
abbrev Redis := ExpMap Bytes Bytes

/-- `redis.Client`, and the server it talks to: what becomes of an expiration. -/
structure RedisClient where
  /-- `Set`, with an expiration and at an instant: until when the value is kept, if not for ever. The
  last argument is the deadline of the value that is replaced, if that has one. -/
  setUntil : Duration → Time → Option Time → Option Time
  /-- `SetNX`: until when a key that is set is kept, or the error with which the command is refused. -/
  nxUntil : Duration → Time → Except Err (Option Time)

namespace RedisClient

/-- `SET` with the expiration `ttl` keeps the value for `ttl` if that is positive, and sets no deadline
otherwise. -/
structure SetsFor (R : RedisClient) (ttl : Duration) : Prop where
  pos : 0 < ttl → ∀ now old, R.setUntil ttl now old = some (now + ttl)
  nonpos : ttl ≤ 0 → ∀ now, R.setUntil ttl now none = none

/-- A key that is set by `SET NX` with the expiration `ttl` is kept for `ttl` at least. -/
def ClaimsAtLeast (R : RedisClient) (ttl : Duration) : Prop :=
  ∀ now stop, R.nxUntil ttl now = .ok stop → ∀ d ∈ stop, now + ttl ≤ d

/-- `SET NX` with the expiration `ttl` is accepted, and keeps the key for `ttl`. -/
def ClaimsFor (R : RedisClient) (ttl : Duration) : Prop := ∀ now, R.nxUntil ttl now = .ok (some (now + ttl))

/-- Until when a key is kept that `SET NX` sets at an instant. -/
def claimUntil (R : RedisClient) (ttl : Duration) (now : Time) : Option Time :=
  match R.nxUntil ttl now with
  | .ok stop => stop
  | .error _ => none

theorem ClaimsAtLeast.le {R : RedisClient} {ttl : Duration} (h : R.ClaimsAtLeast ttl) (now : Time) :
    ∀ d ∈ R.claimUntil ttl now, now + ttl ≤ d := by
  intro d hd
  unfold claimUntil at hd
  split at hd
  next stop hstop => exact h now stop hstop d hd
  next => cases hd

theorem ClaimsFor.claimUntil_eq {R : RedisClient} {ttl : Duration} (h : R.ClaimsFor ttl) (now : Time) :
    R.claimUntil ttl now = some (now + ttl) := by
  simp only [claimUntil, h now]

theorem ClaimsFor.atLeast {R : RedisClient} {ttl : Duration} (h : R.ClaimsFor ttl) : R.ClaimsAtLeast ttl := by
  intro now stop hstop d hd
  rw [h now] at hstop
  obtain rfl := Except.ok.inj hstop
  exact (Option.some.inj hd).le

end RedisClient

/-- `time.Millisecond`. -/
def millisecond : Duration := 1000000

/-- An expiration in whole milliseconds, at least one. -/
def wholeMs (ttl : Duration) : Duration := max millisecond (ttl / millisecond * millisecond)

/-- A client that passes on whole milliseconds, and takes `-1` for keeping the deadline that there is. `SET
NX` refuses other negative expirations. -/
def msClient : RedisClient where
  setUntil ttl now old := if 0 < ttl then some (now + wholeMs ttl) else if ttl = -1 then old else none
  nxUntil ttl now :=
    if 0 < ttl then .ok (some (now + wholeMs ttl))
    else if ttl = 0 ∨ ttl = -1 then .ok none
    else .error "ERR invalid expire time in 'set' command"

theorem wholeMs_eq_self {ttl : Duration} (hpos : 0 < ttl) (h : millisecond ∣ ttl) : wholeMs ttl = ttl := by
  rw [wholeMs, Int.ediv_mul_cancel h]
  exact max_eq_right (Int.le_of_dvd hpos h)

theorem setsFor_msClient {ttl : Duration} (h : millisecond ∣ ttl) : msClient.SetsFor ttl where
  pos hpos now old := by
    simp only [msClient, if_pos hpos, wholeMs_eq_self hpos h]
  nonpos hle now := by
    simp [msClient, not_lt.mpr hle]

theorem claimsFor_msClient {ttl : Duration} (hpos : 0 < ttl) (h : millisecond ∣ ttl) : msClient.ClaimsFor ttl := by
  intro now
  simp only [msClient, if_pos hpos, wholeMs_eq_self hpos h]

/-- `redis.Cache`: a client, and a key prefix. -/
structure RedisCache where
  /-- The client. -/
  client : RedisClient
  /-- The prefix of every key. -/
  keyPrefix : Bytes

/-- A command that comes back with an error. -/
structure Fault where
  /-- The error. -/
  err : Err
  /-- Whether the server has run the command. -/
  applied : Bool

namespace RedisCache

variable (c : RedisCache)

/-- The key on the server. -/
def redisKey (key : Bytes) : Bytes := c.keyPrefix ++ key

theorem redisKey_inj {k k' : Bytes} (h : c.redisKey k = c.redisKey k') : k = k' := List.append_cancel_left h

/-- `Store`. -/
def store (key value : Bytes) (ttl : Duration) (now : Time) (r : Redis) : Redis :=
  let redisKey := c.redisKey key
  r.set redisKey value (c.client.setUntil ttl now (r.deadline redisKey now))

/-- `Retrieve`. -/
def retrieve (key : Bytes) (now : Time) (r : Redis) : Option Bytes := r.get (c.redisKey key) now

/-- `Delete`. -/
def delete (key : Bytes) (r : Redis) : Redis := r.del (c.redisKey key)

/-- `SetNX`: whether the key was set, the error, if any, and the keyspace after it. -/
def setNX (key value : Bytes) (ttl : Duration) (now : Time) (fault : Option Fault) (r : Redis) :
    Bool × Option Err × Redis :=
  match c.client.nxUntil ttl now with
  | .error err => (false, some (fault.elim err Fault.err), r)
  | .ok stop =>
    let res := r.setNX (c.redisKey key) value stop now
    match fault with
    | none => (res.1, none, res.2)
    | some f => (false, some f.err, if f.applied then res.2 else r)

/-- What is under the key after `Store`. -/
theorem store_self (key value : Bytes) (ttl : Duration) (now : Time) (r : Redis) :
    c.store key value ttl now r (c.redisKey key) =
      some ⟨value, c.client.setUntil ttl now (r.deadline (c.redisKey key) now)⟩ := ExpMap.set_self ..

/-- `Store` changes the entry of its key at most. -/
theorem store_of_ne {key k : Bytes} (hk : k ≠ c.redisKey key) (value : Bytes) (ttl : Duration) (now : Time)
    (r : Redis) : c.store key value ttl now r k = r k := ExpMap.set_of_ne _ hk ..

/-- On keyspaces that agree on its key, `Store` does the same. -/
theorem store_of_agreeOn {P : Bytes → Prop} {r r' : Redis} (h : ExpMap.AgreeOn P r r') {key : Bytes}
    (hkey : P (c.redisKey key)) (value : Bytes) (ttl : Duration) (now : Time) :
    ExpMap.AgreeOn P (c.store key value ttl now r) (c.store key value ttl now r') := by
  unfold store
  dsimp only
  rw [h.deadline hkey now]
  exact h.set _ _ _

/-- `SetNX` is `SET NX` on the server, or nothing. -/
theorem setNX_cases (key value : Bytes) (ttl : Duration) (now : Time) (fault : Option Fault) (r : Redis) :
    (c.setNX key value ttl now fault r).2.2 = r ∨
      ∃ stop, c.client.nxUntil ttl now = .ok stop ∧
        (c.setNX key value ttl now fault r).2.2 = (r.setNX (c.redisKey key) value stop now).2 := by
  unfold setNX
  cases hnx : c.client.nxUntil ttl now with
  | error err => exact .inl rfl
  | ok stop =>
    cases fault with
    | none => exact .inr ⟨stop, rfl, rfl⟩
    | some f =>
      dsimp only
      split_ifs
      · exact .inr ⟨stop, rfl, rfl⟩
      · exact .inl rfl

/-- `SetNX` sets a key exactly if it is accepted and does not fail, and nothing is live there. -/
theorem setNX_eq_true_iff (key value : Bytes) (ttl : Duration) (now : Time) (fault : Option Fault) (r : Redis) :
    (c.setNX key value ttl now fault r).1 = true ↔
      fault = none ∧ (∃ stop, c.client.nxUntil ttl now = .ok stop) ∧ r.get (c.redisKey key) now = none := by
  unfold setNX
  cases hnx : c.client.nxUntil ttl now with
  | error err => simp
  | ok stop =>
    cases fault with
    | some f => simp
    | none => cases hget : r.get (c.redisKey key) now <;> simp [ExpMap.setNX, hget]

theorem setNX_of_accepted {ttl : Duration} {now : Time} {stop : Option Time}
    (h : c.client.nxUntil ttl now = .ok stop) (key value : Bytes) (r : Redis) :
    c.setNX key value ttl now none r =
      ((r.setNX (c.redisKey key) value stop now).1, none, (r.setNX (c.redisKey key) value stop now).2) := by
  simp only [setNX, h]

/-- `SetNX` changes the entry of its key at most, with or without an error. -/
theorem setNX_of_ne {key k : Bytes} (hk : k ≠ c.redisKey key) (value : Bytes) (ttl : Duration) (now : Time)
    (fault : Option Fault) (r : Redis) : (c.setNX key value ttl now fault r).2.2 k = r k := by
  rcases c.setNX_cases key value ttl now fault r with he | ⟨stop, -, he⟩
  · rw [he]
  · rw [he]
    exact ExpMap.setNX_of_ne r hk value stop now

/-- On keyspaces that agree on its key, `SetNX` answers alike. -/
theorem setNX_of_agreeOn {P : Bytes → Prop} {r r' : Redis} (h : ExpMap.AgreeOn P r r') {key : Bytes}
    (hkey : P (c.redisKey key)) (value : Bytes) (ttl : Duration) (now : Time) (fault : Option Fault) :
    (c.setNX key value ttl now fault r).1 = (c.setNX key value ttl now fault r').1 ∧
      ExpMap.AgreeOn P (c.setNX key value ttl now fault r).2.2 (c.setNX key value ttl now fault r').2.2 := by
  unfold setNX
  cases c.client.nxUntil ttl now with
  | error err => exact ⟨rfl, h⟩
  | ok stop =>
    have hnx := h.setNX hkey value stop now
    cases fault with
    | none => exact hnx
    | some f =>
      refine ⟨rfl, ?_⟩
      dsimp only
      split_ifs
      · exact hnx.2
      · exact h

/-- `SetNX` before `d` keeps what is held up to `d`. -/
theorem heldUntil_setNX {r : Redis} {k : Bytes} {d : Time} (h : ExpMap.HeldUntil r k d) (key value : Bytes)
    (ttl : Duration) {now : Time} (hnow : now < d) (fault : Option Fault) :
    ExpMap.HeldUntil (c.setNX key value ttl now fault r).2.2 k d := by
  rcases c.setNX_cases key value ttl now fault r with he | ⟨stop, -, he⟩
  · rwa [he]
  · rw [he]
    exact h.setNX (c.redisKey key) value stop hnow

/-- The backend, when the connection does not fail. -/
def cache : Interface Redis Bytes where
  store key value ttl now r := (none, c.store key value ttl now r)
  retrieve key now r := .ok (c.retrieve key now r)

end RedisCache

end RetryEndpoint.Cache
