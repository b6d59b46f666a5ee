import RetryEndpoint.Ingress.Worker
import RetryEndpoint.Retransmit.Retransmitter
import RetryEndpoint.Theory.Runs

/-!
# Endpoints that share a Redis

Several endpoints may hold one frame and get the same NACK. Each of them claims the frame
with `SET NX` in a Redis they share, under a key that expires after the dedup window, and
only the one whose claim succeeds sends the frame.

## The model

The instances of a `Fleet` share the Redis, the key prefix and the window. A call of
`Retransmit` is two steps: the `gate`, which returns at once if it drops the frame, and the
`egress`. Steps of different calls interleave in any way, with each other and with the
frames that the instances' ingress workers store in the same Redis. A step that is not
possible does nothing. The state records the calls in the order of their gates, and what
they have returned so far.

## What is proved

* `run_inv` — for any faults of `SET NX` and any failures of writes: a frame that the gate
  drops is reported as sent, and one that it lets through is reported as sent only when it
  is on all egress interfaces.
* `run_booked` — as long as `SET NX` fails only where the key is held (`Covered`), so in
  particular when it does not fail, the claims in Redis are those of the calls that passed
  the gate, if a key is kept for the window at least.
* `run_ledger` — if it is kept for the window and no longer, a frame is dropped only because its key
  was claimed less than a window ago.
-/

namespace RetryEndpoint.Retransmit

open Go Cache ShardCommon Theory

/-- Endpoints that share a Redis. -/
structure Fleet (ι : Type) where
  /-- The retransmitter of each. -/
  inst : ι → Retransmitter
  /-- The client, with the prefix they share. -/
  cache : RedisCache
  /-- The dedup window. -/
  window : Duration
  /-- A window of zero would be a claim for ever. -/
  window_pos : 0 < window
  /-- All use the one Redis. -/
  shared : ∀ i, (inst i).redisCache = some cache
  /-- All use the one window. -/
  dedupWindow_eq : ∀ i, (inst i).dedupWindow = window
  /-- The configuration is refused without an egress interface. -/
  sockets_ne : ∀ i, (inst i).sockets ≠ []

/-- A call of `Retransmit` that has been through the gate. -/
structure Call (ι : Type) where
  /-- The instance. -/
  inst : ι
  /-- The frame. -/
  raw : Bytes
  /-- Its transaction id. -/
  txID : Bytes
  /-- When `SET NX` ran. -/
  time : Time
  /-- What the gate said. -/
  gate : Gate
  deriving DecidableEq

/-- The Redis and the calls. -/
structure FleetState (ι : Type) where
  /-- The keyspace of the Redis. -/
  redis : Redis
  /-- The calls, in the order of their gates. -/
  calls : List (Call ι)
  /-- What each call has returned; none while it has not. -/
  result : ℕ → Option Result

/-- What can happen next. -/
inductive FleetEvent (ι : Type) where
  /-- An instance calls `Retransmit` and runs the gate. -/
  | gate (i : ι) (raw txID : Bytes) (now : Time) (fault : Option Fault)
  /-- The `n`-th call writes to the sockets of its instance and returns. -/
  | egress (n : ℕ) (order : List Bytes) (write : Bytes → Option Err)
  /-- An ingress worker stores a frame. -/
  | store (f : Header) (raw : Bytes) (ttl : Duration) (now : Time)

/-- `SET NX` does not fail in the event. -/
def FleetEvent.Clean {ι : Type} : FleetEvent ι → Prop
  | .gate _ _ _ _ fault => fault = none
  | _ => True

/-- The event is a call for one of the given frames, if it is a call. -/
def FleetEvent.Of {ι : Type} (frames : Set Bytes) : FleetEvent ι → Prop
  | .gate _ raw _ _ _ => raw ∈ frames
  | _ => True

theorem FleetEvent.of_univ {ι : Type} (e : FleetEvent ι) : e.Of Set.univ := by cases e <;> trivial

/-- The writes of the event succeed, if it has any. -/
def FleetEvent.WritesOk {ι : Type} : FleetEvent ι → Prop
  | .egress _ _ write => ∀ name, write name = none
  | _ => True

variable {ι : Type}

/-- No calls yet, and an empty Redis. -/
def FleetState.start : FleetState ι := ⟨ExpMap.empty, [], fun _ => none⟩

namespace Fleet

variable (fl : Fleet ι) (S : ShardLib)

/-- The gate of a call. -/
def stepGate (s : FleetState ι) (i : ι) (raw txID : Bytes) (now : Time) (fault : Option Fault) : FleetState ι :=
  let g := (fl.inst i).gate raw now fault s.redis
  { redis := g.2
    calls := s.calls ++ [⟨i, raw, txID, now, g.1⟩]
    result :=
      if g.1 = .dropped then Function.update s.result s.calls.length (some (fl.inst i).dropResult) else s.result }

/-- The writes of the `n`-th call, if it is at them. -/
def stepEgress (s : FleetState ι) (n : ℕ) (order : List Bytes) (write : Bytes → Option Err) : FleetState ι :=
  match s.calls[n]?, s.result n with
  | some c, none =>
    if order.Perm (fl.inst c.inst).sockets then
      { s with result := Function.update s.result n (some ((fl.inst c.inst).egress S c.raw c.txID order write)) }
    else s
  | _, _ => s

/-- One event. -/
def step (s : FleetState ι) : FleetEvent ι → FleetState ι
  | .gate i raw txID now fault => fl.stepGate s i raw txID now fault
  | .egress n order write => fl.stepEgress S s n order write
  | .store f raw ttl now => { s with redis := fl.cache.store (Ingress.frameKey f) raw ttl now s.redis }

/-- A run. -/
def run (es : List (FleetEvent ι)) : FleetState ι := runFrom (fl.step S) .start es

/-! ### The keys -/

/-- The key in Redis that a frame is claimed by. -/
def key (raw : Bytes) : Bytes := fl.cache.redisKey (buildDedupKey raw)

/-- The keys of claims: the prefix and eight bytes. -/
def IsDedupKey (k : Bytes) : Prop := k.length = fl.cache.keyPrefix.length + 8

variable {fl S}

theorem isDedupKey_key {raw : Bytes} (h : 56 ≤ raw.length) : fl.IsDedupKey (fl.key raw) := by
  simp [IsDedupKey, key, RedisCache.redisKey, length_buildDedupKey h]

/-- Frames are stored under other keys than claims. -/
theorem not_isDedupKey_frameKey (f : Header) : ¬ fl.IsDedupKey (fl.cache.redisKey (Ingress.frameKey f)) := by
  simp [IsDedupKey, RedisCache.redisKey]

theorem key_inj {raw raw' : Bytes} : fl.key raw = fl.key raw' ↔ buildDedupKey raw = buildDedupKey raw' :=
  ⟨fl.cache.redisKey_inj, fun h => by rw [key, key, h]⟩

/-- A frame without a key is not checked. -/
theorem gate_of_short {raw : Bytes} (h : raw.length < 56) (i : ι) (now : Time) (fault : Option Fault) (r : Redis) :
    (fl.inst i).gate raw now fault r = (.unguarded, r) := (fl.inst i).gate_of_short h now fault r

/-- The gate is `SET NX` of the frame's key, for the window. -/
theorem gate_of_key {raw : Bytes} (h : 56 ≤ raw.length) (i : ι) (now : Time) (fault : Option Fault) (r : Redis) :
    (fl.inst i).gate raw now fault r =
      (if (fl.cache.setNX (buildDedupKey raw) (ascii ['1']) fl.window now fault r).1 then .claimed else .dropped,
        (fl.cache.setNX (buildDedupKey raw) (ascii ['1']) fl.window now fault r).2.2) := by
  rw [(fl.inst i).gate_of_key (fl.shared i) h, fl.dedupWindow_eq]

/-- When `SET NX` fails, the frame is dropped. -/
theorem gate_of_fault {raw : Bytes} (h : 56 ≤ raw.length) (i : ι) (now : Time) (fault : Fault) (r : Redis) :
    ((fl.inst i).gate raw now (some fault) r).1 = .dropped := by
  rw [gate_of_key h]
  refine if_neg fun hset => ?_
  cases ((fl.cache.setNX_eq_true_iff ..).mp hset).1

theorem gate_eq_unguarded_iff {raw : Bytes} {i : ι} {now : Time} {fault : Option Fault} {r : Redis} :
    ((fl.inst i).gate raw now fault r).1 = .unguarded ↔ raw.length < 56 := by
  by_cases h : raw.length < 56
  · simp [gate_of_short h, h]
  · rw [gate_of_key (by omega)]
    split_ifs <;> simp [h]

/-! ### What the calls return -/

/-- What `Retransmit` returns for: a frame that is dropped is reported as sent, and one that
is let through is reported as sent only when it is on all egress interfaces. -/
structure Inv (fl : Fleet ι) (s : FleetState ι) : Prop where
  /-- Only calls return. -/
  fresh : ∀ n, s.calls.length ≤ n → s.result n = none
  /-- The frames without a key are those that are not checked. -/
  unguarded_iff : ∀ (n : ℕ) (c : Call ι), s.calls[n]? = some c → (c.gate = .unguarded ↔ c.raw.length < 56)
  /-- A dropped frame. -/
  dropped : ∀ (n : ℕ) (c : Call ι), s.calls[n]? = some c → c.gate = .dropped →
    s.result n = some (fl.inst c.inst).dropResult
  /-- A frame that is let through. -/
  written : ∀ (n : ℕ) (c : Call ι) res, s.calls[n]? = some c → c.gate ≠ .dropped → s.result n = some res →
    res.err = none → (fl.inst c.inst).WroteAll res c.raw

variable (fl S) in
/-- What the writes of a call do, if it is at them. -/
theorem stepEgress_cases (s : FleetState ι) (n : ℕ) (order : List Bytes) (write : Bytes → Option Err) :
    fl.stepEgress S s n order write = s ∨
      ∃ c, s.calls[n]? = some c ∧ s.result n = none ∧ order.Perm (fl.inst c.inst).sockets ∧
        fl.stepEgress S s n order write =
          { s with
            result := Function.update s.result n (some ((fl.inst c.inst).egress S c.raw c.txID order write)) } := by
  unfold stepEgress
  split
  next c hc hr =>
    split_ifs with ho
    · exact .inr ⟨c, hc, hr, ho, rfl⟩
    · exact .inl rfl
  next => exact .inl rfl

@[simp] theorem stepEgress_calls (s : FleetState ι) (n : ℕ) (order : List Bytes) (write : Bytes → Option Err) :
    (fl.stepEgress S s n order write).calls = s.calls := by
  rcases stepEgress_cases fl S s n order write with he | ⟨c, -, -, -, he⟩ <;> rw [he]

@[simp] theorem stepEgress_redis (s : FleetState ι) (n : ℕ) (order : List Bytes) (write : Bytes → Option Err) :
    (fl.stepEgress S s n order write).redis = s.redis := by
  rcases stepEgress_cases fl S s n order write with he | ⟨c, -, -, -, he⟩ <;> rw [he]

theorem lt_length_of_getElem? {s : FleetState ι} {n : ℕ} {c : Call ι} (h : s.calls[n]? = some c) :
    n < s.calls.length := (List.getElem?_eq_some_iff.mp h).1

/-- The calls so far do not change at a gate. -/
theorem calls_stepGate_of_lt {s : FleetState ι} {n : ℕ} (hn : n < s.calls.length) (i : ι) (raw txID : Bytes)
    (now : Time) (fault : Option Fault) : (fl.stepGate s i raw txID now fault).calls[n]? = s.calls[n]? :=
  List.getElem?_append_left hn

/-- The call that a gate adds. -/
theorem calls_stepGate_length (s : FleetState ι) (i : ι) (raw txID : Bytes) (now : Time) (fault : Option Fault) :
    (fl.stepGate s i raw txID now fault).calls[s.calls.length]? =
      some ⟨i, raw, txID, now, ((fl.inst i).gate raw now fault s.redis).1⟩ := List.getElem?_concat_length ..

/-- The results of the calls so far do not change at a gate. -/
theorem result_stepGate_of_lt {s : FleetState ι} {n : ℕ} (hn : n < s.calls.length) (i : ι) (raw txID : Bytes)
    (now : Time) (fault : Option Fault) : (fl.stepGate s i raw txID now fault).result n = s.result n := by
  simp only [stepGate]
  split_ifs
  · exact Function.update_of_ne hn.ne ..
  · rfl

theorem Inv.stepGate {s : FleetState ι} (h : fl.Inv s) (i : ι) (raw txID : Bytes) (now : Time)
    (fault : Option Fault) : fl.Inv (fl.stepGate s i raw txID now fault) := by
  constructor
  · intro n hn
    have hn' : s.calls.length < n := by simpa [Fleet.stepGate, Nat.succ_le_iff] using hn
    simp only [Fleet.stepGate]
    split_ifs
    · rw [Function.update_of_ne hn'.ne', h.fresh n hn'.le]
    · exact h.fresh n hn'.le
  · intro n c hc
    rcases getElem?_snoc_eq_some_iff.mp hc with hc | ⟨-, rfl⟩
    · exact h.unguarded_iff n c hc
    · exact gate_eq_unguarded_iff
  · intro n c hc hd
    rcases getElem?_snoc_eq_some_iff.mp hc with hc | ⟨rfl, rfl⟩
    · rw [result_stepGate_of_lt (lt_length_of_getElem? hc)]
      exact h.dropped n c hc hd
    · simp only [Fleet.stepGate, if_pos hd, Function.update_self]
  · intro n c res hc hd hr
    rcases getElem?_snoc_eq_some_iff.mp hc with hc | ⟨rfl, rfl⟩
    · rw [result_stepGate_of_lt (lt_length_of_getElem? hc)] at hr
      exact h.written n c res hc hd hr
    · -- the call has only begun
      simp only [Fleet.stepGate, if_neg hd, h.fresh _ le_rfl] at hr
      cases hr

theorem Inv.stepEgress {s : FleetState ι} (h : fl.Inv s) (n : ℕ) (order : List Bytes) (write : Bytes → Option Err) :
    fl.Inv (fl.stepEgress S s n order write) := by
  rcases stepEgress_cases fl S s n order write with he | ⟨c, hc, hr, ho, he⟩
  · rw [he]
    exact h
  · rw [he]
    refine ⟨fun m hm => ?_, h.unguarded_iff, fun m c' hc' hd => ?_, fun m c' res hc' hd hres herr => ?_⟩
    · have hmn : m ≠ n := ((lt_length_of_getElem? hc).trans_le hm).ne'
      simp only [Function.update_of_ne hmn, h.fresh m hm]
    · have hm : m ≠ n := by
        rintro rfl
        rw [h.dropped m c' hc' hd] at hr
        cases hr
      simp only [Function.update_of_ne hm, h.dropped m c' hc' hd]
    · by_cases hm : m = n
      · subst hm
        obtain rfl : c = c' := by simpa [hc] using hc'
        simp only [Function.update_self, Option.some.injEq] at hres
        subst hres
        exact Retransmitter.egress_wroteAll ho herr
      · simp only [Function.update_of_ne hm] at hres
        exact h.written m c' res hc' hd hres herr

theorem inv_start : fl.Inv FleetState.start :=
  ⟨fun _ _ => rfl, fun _ _ h => by simp [FleetState.start] at h, fun _ _ h => by simp [FleetState.start] at h,
    fun _ _ _ h => by simp [FleetState.start] at h⟩

theorem Inv.step {s : FleetState ι} (h : fl.Inv s) (e : FleetEvent ι) : fl.Inv (fl.step S s e) := by
  cases e with
  | gate i raw txID now fault => exact h.stepGate i raw txID now fault
  | egress n order write => exact h.stepEgress n order write
  | store f raw ttl now => exact ⟨h.fresh, h.unguarded_iff, h.dropped, h.written⟩

variable (fl S) in
theorem run_inv (es : List (FleetEvent ι)) : fl.Inv (fl.run S es) :=
  runFrom_invariant inv_start (fun _ e h => h.step e) es

/-! ### The claims in Redis -/

/-- The claims that the calls have made. -/
def grants (fl : Fleet ι) (calls : List (Call ι)) : List (Grant Bytes) :=
  calls.filterMap fun c => if c.gate = .claimed then some ⟨fl.key c.raw, c.time⟩ else none

/-- The `m`-th call holds the key of `raw` at `now`: it claimed it less than a window ago. -/
structure HeldBy (fl : Fleet ι) (s : FleetState ι) (raw : Bytes) (now : Time) (m : ℕ) (c : Call ι) : Prop where
  /-- It is the call. -/
  call : s.calls[m]? = some c
  /-- It passed the gate. -/
  claimed : c.gate = .claimed
  /-- It did so with the key. -/
  key_eq : buildDedupKey c.raw = buildDedupKey raw
  /-- The window has not passed. -/
  recent : now < c.time + fl.window

/-- The key of `raw` is held at `now`. -/
def Held (fl : Fleet ι) (s : FleetState ι) (raw : Bytes) (now : Time) : Prop := ∃ m c, fl.HeldBy s raw now m c

/-- If `SET NX` fails in the event, it does so where the key is held. -/
def Covered (fl : Fleet ι) (s : FleetState ι) : FleetEvent ι → Prop
  | .gate _ raw _ now (some _) => 56 ≤ raw.length → fl.Held s raw now
  | _ => True

theorem Covered.of_clean {s : FleetState ι} {e : FleetEvent ι} (h : e.Clean) : fl.Covered s e := by
  cases e with
  | gate i raw txID now fault => rw [show fault = none from h]; trivial
  | egress => trivial
  | store => trivial

theorem held_iff_grant {s : FleetState ι} {raw : Bytes} {now : Time} :
    fl.Held s raw now ↔ ∃ g ∈ fl.grants s.calls, g.key = fl.key raw ∧ now < g.time + fl.window := by
  constructor
  · rintro ⟨m, c, h⟩
    refine ⟨⟨fl.key c.raw, c.time⟩, List.mem_filterMap.mpr ⟨c, List.mem_of_getElem? h.call, if_pos h.claimed⟩,
      key_inj.mpr h.key_eq, h.recent⟩
  · rintro ⟨g, hg, hk, ht⟩
    obtain ⟨c, hc, hcg⟩ := List.mem_filterMap.mp hg
    obtain ⟨m, hm⟩ := List.getElem?_of_mem hc
    split_ifs at hcg with hcl
    cases hcg
    exact ⟨m, c, hm, hcl, key_inj.mp hk, ht⟩

/-- A key that is held stays held by the same call when a call is added. -/
theorem HeldBy.snoc {s s' : FleetState ι} {raw : Bytes} {now : Time} {m : ℕ} {c x : Call ι}
    (h : fl.HeldBy s raw now m c) (hs : s'.calls = s.calls ++ [x]) : fl.HeldBy s' raw now m c :=
  ⟨by rw [hs]; exact getElem?_snoc_eq_some_iff.mpr (.inl h.call), h.claimed, h.key_eq, h.recent⟩

/-- An earlier call that holds a key after a gate has held it before. -/
theorem HeldBy.of_stepGate {s : FleetState ι} {i : ι} {raw txID : Bytes} {now : Time} {fault : Option Fault}
    {raw' : Bytes} {t : Time} {m : ℕ} {c : Call ι} (h : fl.HeldBy (fl.stepGate s i raw txID now fault) raw' t m c)
    (hm : m < s.calls.length) : fl.HeldBy s raw' t m c := by
  have hc := h.call
  rw [calls_stepGate_of_lt hm] at hc
  exact ⟨hc, h.claimed, h.key_eq, h.recent⟩

variable (fl) in
/-- Until when a claim holds that is made at `t`. -/
def life (t : Time) : Option Time := fl.cache.client.claimUntil fl.window t

variable (fl) in
/-- The claims in Redis are those of the calls that passed the gate. -/
def Booked (s : FleetState ι) : Prop := Leased fl.life fl.IsDedupKey s.redis (fl.grants s.calls)

theorem booked_start : fl.Booked FleetState.start := leased_empty ..

section Booked

variable {s : FleetState ι} (hR : fl.cache.client.ClaimsAtLeast fl.window)

include hR

theorem le_life (t : Time) : ∀ d ∈ fl.life t, t ≤ d := fun d hd =>
  (le_add_of_nonneg_right fl.window_pos.le).trans (hR.le t d hd)

/-- The gate keeps the books. -/
theorem Booked.stepGate (h : fl.Booked s) (i : ι) {raw txID : Bytes} {now : Time} {fault : Option Fault}
    (hc : fl.Covered s (.gate i raw txID now fault)) : fl.Booked (fl.stepGate s i raw txID now fault) := by
  unfold Booked at h ⊢
  change Leased _ _ ((fl.inst i).gate raw now fault s.redis).2
    (fl.grants (s.calls ++ [⟨i, raw, txID, now, ((fl.inst i).gate raw now fault s.redis).1⟩]))
  rw [grants, List.filterMap_append, ← grants]
  by_cases hlen : raw.length < 56
  · rw [gate_of_short hlen]
    simpa using h
  have hlen : 56 ≤ raw.length := by omega
  have hkey : fl.IsDedupKey (fl.key raw) := isDedupKey_key hlen
  rw [gate_of_key hlen, RedisCache.setNX, show fl.cache.redisKey (buildDedupKey raw) = fl.key raw from rfl]
  cases hnx : fl.cache.client.nxUntil fl.window now with
  | error err => simpa using h
  | ok stop =>
    obtain rfl : fl.life now = stop := by simp only [life, RedisClient.claimUntil, hnx]
    cases fault with
    | some f =>
      -- the key is held, so that the server has refused the command if it has run it
      obtain ⟨g, hg, hgk, hrecent⟩ := held_iff_grant.mp (hc hlen)
      have href := (h.setNX_eq_false_iff (le_life hR) hkey (ascii ['1']) (fl.life now) now).mpr
        ⟨g, hg, hgk, fun d hd => hrecent.trans_le (hR.le g.time d hd)⟩
      simpa [ExpMap.setNX_of_false href] using h
    | none =>
      cases hset : (s.redis.setNX (fl.key raw) (ascii ['1']) (fl.life now) now).1 with
      | true => simpa [hset] using h.grant (le_life hR) hkey hset
      | false => simpa [hset] using h.refuse hset

theorem Booked.step (h : fl.Booked s) {e : FleetEvent ι} (hc : fl.Covered s e) : fl.Booked (fl.step S s e) := by
  cases e with
  | gate i raw txID now fault => exact h.stepGate hR i hc
  | egress n order write => simpa only [Booked, Fleet.step, stepEgress_calls, stepEgress_redis] using h
  | store f raw ttl now => exact h.other (not_isDedupKey_frameKey f) raw _

theorem run_booked {es : List (FleetEvent ι)} (h : Along (fl.step S) .start fl.Covered es) : fl.Booked (fl.run S es) :=
  h.invariant booked_start fun _ _ hs hc => hs.step hR hc

end Booked

/-- **The claims and the calls.** The claims in Redis are those of the calls that passed the
gate, and a frame is dropped only where its key is held by an earlier call. -/
structure Ledger (fl : Fleet ι) (s : FleetState ι) : Prop where
  /-- The claims in Redis. -/
  booked : fl.Booked s
  /-- The calls that were dropped. -/
  held : ∀ (n : ℕ) (c : Call ι), s.calls[n]? = some c → c.gate = .dropped →
    ∃ m c', m < n ∧ fl.HeldBy s c.raw c.time m c'

theorem ledger_start : fl.Ledger FleetState.start :=
  ⟨booked_start, fun _ _ h => by simp [FleetState.start] at h⟩

section Ledger

variable {s : FleetState ι} (hR : fl.cache.client.ClaimsFor fl.window)

include hR

/-- **The gate drops a frame exactly when its key is held.** -/
theorem Ledger.gate_dropped_iff (h : fl.Ledger s) {raw : Bytes} (hlen : 56 ≤ raw.length) (i : ι) (txID : Bytes)
    {now : Time} {fault : Option Fault} (hc : fl.Covered s (.gate i raw txID now fault)) :
    ((fl.inst i).gate raw now fault s.redis).1 = .dropped ↔ fl.Held s raw now := by
  cases fault with
  | some f => exact iff_of_true (gate_of_fault hlen i now f s.redis) (hc hlen)
  | none =>
    have hrefused := h.booked.setNX_eq_false_iff (le_life hR.atLeast) (isDedupKey_key hlen) (ascii ['1'])
      (some (now + fl.window)) now
    have hlife (t : Time) : (∀ d ∈ fl.life t, now < d) ↔ now < t + fl.window := by
      simp [life, hR.claimUntil_eq]
    rw [gate_of_key hlen, RedisCache.setNX_of_accepted _ (hR now), held_iff_grant]
    simp only [hlife] at hrefused
    rw [← hrefused, key]
    cases (s.redis.setNX (fl.cache.redisKey (buildDedupKey raw)) (ascii ['1']) (some (now + fl.window)) now).1 <;> simp

theorem Ledger.stepGate (h : fl.Ledger s) (i : ι) {raw txID : Bytes} {now : Time} {fault : Option Fault}
    (hc : fl.Covered s (.gate i raw txID now fault)) : fl.Ledger (fl.stepGate s i raw txID now fault) := by
  refine ⟨h.booked.stepGate hR.atLeast i hc, fun n c hn hd => ?_⟩
  rcases getElem?_snoc_eq_some_iff.mp hn with hn | ⟨rfl, rfl⟩
  · obtain ⟨m, c', hmn, hheld⟩ := h.held n c hn hd
    exact ⟨m, c', hmn, hheld.snoc rfl⟩
  · have hlen : 56 ≤ raw.length := by
      by_contra hlt
      rw [gate_of_short (by omega)] at hd
      cases hd
    obtain ⟨m, c', hheld⟩ := (h.gate_dropped_iff hR hlen i txID hc).mp hd
    exact ⟨m, c', lt_length_of_getElem? hheld.call, hheld.snoc rfl⟩

omit hR in
/-- What does not change the calls changes the books in Redis at most. -/
theorem Ledger.of_calls_eq {s' : FleetState ι} (h : fl.Ledger s) (hs : s'.calls = s.calls) (hb : fl.Booked s') :
    fl.Ledger s' := by
  refine ⟨hb, fun n c hn hd => ?_⟩
  obtain ⟨m, c', hmn, hheld⟩ := h.held n c (by rw [← hs]; exact hn) hd
  exact ⟨m, c', hmn, by rw [hs]; exact hheld.call, hheld.claimed, hheld.key_eq, hheld.recent⟩

theorem Ledger.step (h : fl.Ledger s) {e : FleetEvent ι} (hc : fl.Covered s e) : fl.Ledger (fl.step S s e) := by
  have hb := h.booked.step hR.atLeast (S := S) hc
  cases e with
  | gate i raw txID now fault => exact h.stepGate hR i hc
  | egress n order write => exact h.of_calls_eq (stepEgress_calls ..) hb
  | store f raw ttl now => exact h.of_calls_eq rfl hb

theorem run_ledger {es : List (FleetEvent ι)} (h : Along (fl.step S) .start fl.Covered es) : fl.Ledger (fl.run S es) :=
  h.invariant ledger_start fun _ _ hs hc => hs.step hR hc

end Ledger

end Fleet

end RetryEndpoint.Retransmit
