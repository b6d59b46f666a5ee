import RetryEndpoint.Cache.Backends
import RetryEndpoint.ShardCommon
import Mathlib.Data.List.Perm.Basic

/-!
# The retransmitter

`retransmit/retransmit.go`: a cached frame is sent to its multicast group on every egress
interface, unless another endpoint has claimed it in the shared Redis a moment ago.

## The model

`retransmit` is `gate`, the claim by `SET NX`, and then, unless the gate drops the frame,
`egress`, the choice of the group and the writes. The two are functions of their own since
calls on other instances may come between them. An error of `SET NX` is only logged: what
counts is whether the key was set. The sockets are in a map, whose order Go leaves open:
`order` is the order of this call. `write` says what `WriteTo` returns on each socket.

## What is proved

* `egress_err_eq_none_iff` — the writes return no error exactly when all of them succeed,
  and `egress_wroteAll` — then the frame is on every interface.
* `retransmit_of_clear`, `retransmit_of_not_clear` — a frame is written unless it is claimed
  already or `SET NX` fails or is refused, and then it is dropped.
* `gate_redis_of_ne` — the gate changes the entry of the frame's dedup key at most.
* `egress_by_writes_iff` — when the outcome does not depend on the order of the sockets.
-/

namespace RetryEndpoint.Retransmit

open Go Cache ShardCommon

/-- `Retransmitter`. -/
structure Retransmitter where
  /-- The sharding of the multicast groups. -/
  engine : Engine
  /-- The names of the interfaces with an egress socket. -/
  sockets : List Bytes
  /-- A map has each key once. -/
  nodup : sockets.Nodup
  /-- The port frames are sent to. -/
  egressPort : ℤ
  /-- How long a claim holds. -/
  dedupWindow : Duration
  /-- The Redis that the claims are made in, if there is one. -/
  redisCache : Option RedisCache
  /-- Whether there is a metrics recorder. -/
  recorder : Bool

/-- A retransmitter with one egress interface, a window of ten milliseconds and the prefix `p` in Redis. -/
def oneSocket (recorder : Bool) : Retransmitter :=
  ⟨⟨0, 0, 0⟩, [ascii ['e']], List.nodup_singleton _, 9001, 10 * millisecond, some ⟨msClient, ascii ['p']⟩, recorder⟩

/-- What `Retransmit` counts. -/
inductive Metric where
  /-- `RetransmitDedup`. -/
  | retransmitDedup
  /-- `CacheError`, which is also counted for a failed egress write. -/
  | cacheError
  deriving DecidableEq

/-- A datagram written to an egress socket. -/
structure Sent where
  /-- The interface. -/
  iface : Bytes
  /-- The multicast group. -/
  addr : UDPAddr
  /-- The frame. -/
  data : Bytes
  deriving DecidableEq

/-- What a call of `Retransmit` leaves behind. -/
structure Result where
  /-- What it returns; none is nil. -/
  err : Option Err
  /-- What it wrote. -/
  sent : List Sent
  /-- What it counted. -/
  counted : List Metric
  deriving DecidableEq

/-- The outcome of the dedup check. -/
inductive Gate where
  /-- No check: there is no Redis, or the frame is too short to have a key. -/
  | unguarded
  /-- The key was set. -/
  | claimed
  /-- The key was not set. -/
  | dropped
  deriving DecidableEq

/-- `buildDedupKey`: bytes 48 to 55, the `SeqNum`; a shorter frame has no key. -/
def buildDedupKey (raw : Bytes) : Bytes := if raw.length < 56 then [] else slice raw 48 56

theorem length_buildDedupKey {raw : Bytes} (h : 56 ≤ raw.length) : (buildDedupKey raw).length = 8 := by
  rw [buildDedupKey, if_neg (by omega), length_slice (by omega) h]

namespace Retransmitter

variable (r : Retransmitter) (S : ShardLib)

/-- Counts go to the recorder, if there is one. -/
def count (ms : List Metric) : List Metric := if r.recorder then ms else []

/-- The dedup check at the head of `Retransmit`. -/
def gate (raw : Bytes) (now : Time) (fault : Option Fault) (redis : Redis) : Gate × Redis :=
  match r.redisCache with
  | none => (.unguarded, redis)
  | some c =>
    let dedupKey := buildDedupKey raw
    if 0 < dedupKey.length then
      -- an error is logged, and the verdict is `set` all the same
      let (set, _, redis) := c.setNX dedupKey (ascii ['1']) r.dedupWindow now fault redis
      if !set then (.dropped, redis) else (.claimed, redis)
    else (.unguarded, redis)

/-- The group of a frame, by its version. -/
def groupAddr (raw txID : Bytes) : UDPAddr :=
  let control (index : UInt16) : UDPAddr :=
    ⟨S.controlGroupAddr r.engine.mcPrefix r.engine.groupID index, r.egressPort⟩
  let shard : UDPAddr := S.addr r.engine (S.groupIndex r.engine txID) r.egressPort
  match raw[6]? with
  | none => shard
  | some ver =>
    if ver = frameVerV4 then control ctrlGroupControl
    else if ver = frameVerV5 then control ctrlGroupSubtreeAnnounce
    else if ver = frameVerV6 then control ctrlGroupControl
    else shard

/-- The loop over the sockets, in the order in which they come: the first error ends it. -/
def writeAll (write : Bytes → Option Err) (addr : UDPAddr) (raw : Bytes) : List Bytes → Result
  | [] => ⟨none, [], []⟩
  | name :: order =>
    match write name with
    | some e => ⟨some e, [], r.count [.cacheError]⟩
    | none =>
      let res := writeAll write addr raw order
      { res with sent := ⟨name, addr, raw⟩ :: res.sent }

/-- `Retransmit` after the dedup check. -/
def egress (raw txID : Bytes) (order : List Bytes) (write : Bytes → Option Err) : Result :=
  r.writeAll write (r.groupAddr S raw txID) raw order

/-- What `Retransmit` returns when the gate drops the frame. -/
def dropResult : Result := ⟨none, [], r.count [.retransmitDedup]⟩

/-- `Retransmit`. -/
def retransmit (raw txID : Bytes) (now : Time) (fault : Option Fault) (order : List Bytes)
    (write : Bytes → Option Err) (redis : Redis) : Result × Redis :=
  match r.gate raw now fault redis with
  | (.dropped, redis) => (r.dropResult, redis)
  | (_, redis) => (r.egress S raw txID order write, redis)

/-- A result has the frame on every egress interface. -/
def WroteAll (res : Result) (raw : Bytes) : Prop := ∀ name ∈ r.sockets, ∃ x ∈ res.sent, x.iface = name ∧ x.data = raw

instance (res : Result) (raw : Bytes) : Decidable (r.WroteAll res raw) :=
  inferInstanceAs (Decidable (∀ name ∈ r.sockets, ∃ x ∈ res.sent, x.iface = name ∧ x.data = raw))

/-! ### The claim -/

/-- `Retransmit` changes the Redis at its gate only. -/
theorem retransmit_redis (raw txID : Bytes) (now : Time) (fault : Option Fault) (order : List Bytes)
    (write : Bytes → Option Err) (redis : Redis) :
    (r.retransmit S raw txID now fault order write redis).2 = (r.gate raw now fault redis).2 := by
  unfold retransmit
  split
  next h => rw [h]
  next h => rw [h]

/-- A frame without a key is not checked. -/
theorem gate_of_short {raw : Bytes} (h : raw.length < 56) (now : Time) (fault : Option Fault) (redis : Redis) :
    r.gate raw now fault redis = (.unguarded, redis) := by
  cases hc : r.redisCache <;> simp [gate, hc, buildDedupKey, h]

/-- The gate is `SET NX` of the frame's key. -/
theorem gate_of_key {c : RedisCache} (hc : r.redisCache = some c) {raw : Bytes} (h : 56 ≤ raw.length) (now : Time)
    (fault : Option Fault) (redis : Redis) :
    r.gate raw now fault redis =
      (if (c.setNX (buildDedupKey raw) (ascii ['1']) r.dedupWindow now fault redis).1 then .claimed else .dropped,
        (c.setNX (buildDedupKey raw) (ascii ['1']) r.dedupWindow now fault redis).2.2) := by
  have hkey : 0 < (buildDedupKey raw).length := by rw [length_buildDedupKey h]; decide
  simp only [gate, hc, if_pos hkey]
  cases (c.setNX (buildDedupKey raw) (ascii ['1']) r.dedupWindow now fault redis).1 <;> rfl

/-- The gate changes the entry of its key at most. -/
theorem gate_redis_of_ne {c : RedisCache} (hc : r.redisCache = some c) {raw k : Bytes}
    (hk : k ≠ c.redisKey (buildDedupKey raw)) (now : Time) (fault : Option Fault) (redis : Redis) :
    (r.gate raw now fault redis).2 k = redis k := by
  by_cases hlen : raw.length < 56
  · rw [r.gate_of_short hlen]
  · rw [r.gate_of_key hc (not_lt.mp hlen)]
    exact c.setNX_of_ne hk (ascii ['1']) r.dedupWindow now fault redis

/-! ### The writes -/

variable {r S}

theorem writeAll_err_eq_none_iff {write : Bytes → Option Err} {addr : UDPAddr} {raw : Bytes} {order : List Bytes} :
    (r.writeAll write addr raw order).err = none ↔ ∀ name ∈ order, write name = none := by
  induction order with
  | nil => simp [writeAll]
  | cons name order ih => cases h : write name <;> simp [writeAll, h, ih]

theorem writeAll_sent {write : Bytes → Option Err} {addr : UDPAddr} {raw : Bytes} {order : List Bytes}
    (h : (r.writeAll write addr raw order).err = none) :
    (r.writeAll write addr raw order).sent = order.map fun name => ⟨name, addr, raw⟩ := by
  induction order with
  | nil => rfl
  | cons name order ih =>
    cases hw : write name with
    | some e => simp [writeAll, hw] at h
    | none =>
      simp only [writeAll, hw] at h ⊢
      rw [ih h, List.map_cons]

/-- The writes return no error exactly when all of them succeed. -/
theorem egress_err_eq_none_iff {raw txID : Bytes} {order : List Bytes} {write : Bytes → Option Err}
    (ho : order.Perm r.sockets) :
    (r.egress S raw txID order write).err = none ↔ ∀ name ∈ r.sockets, write name = none := by
  rw [egress, writeAll_err_eq_none_iff]
  exact forall_congr' fun name => imp_congr_left ho.mem_iff

/-- Without an error, the frame is on every interface. -/
theorem egress_wroteAll {raw txID : Bytes} {order : List Bytes} {write : Bytes → Option Err}
    (ho : order.Perm r.sockets) (h : (r.egress S raw txID order write).err = none) :
    r.WroteAll (r.egress S raw txID order write) raw := by
  intro name hname
  rw [egress, writeAll_sent h]
  exact ⟨_, List.mem_map_of_mem (ho.mem_iff.mpr hname), rfl, rfl⟩

/-- What was written was written without an error. -/
theorem write_of_mem_sent {write : Bytes → Option Err} {addr : UDPAddr} {raw : Bytes} {order : List Bytes} {x : Sent}
    (hx : x ∈ (r.writeAll write addr raw order).sent) : write x.iface = none := by
  induction order with
  | nil => cases hx
  | cons name order ih =>
    cases hw : write name with
    | some e => simp [writeAll, hw] at hx
    | none =>
      simp only [writeAll, hw, List.mem_cons] at hx
      rcases hx with rfl | hx
      · exact hw
      · exact ih hx

/-- So after an error the frame is not on every interface. -/
theorem egress_wroteAll_iff {raw txID : Bytes} {order : List Bytes} {write : Bytes → Option Err}
    (ho : order.Perm r.sockets) :
    r.WroteAll (r.egress S raw txID order write) raw ↔ (r.egress S raw txID order write).err = none := by
  refine ⟨fun h => (egress_err_eq_none_iff ho).mpr fun name hname => ?_, egress_wroteAll ho⟩
  obtain ⟨x, hx, rfl, -⟩ := h name hname
  exact write_of_mem_sent hx

/-- The writes count no duplicate. -/
theorem egress_counted (raw txID : Bytes) (order : List Bytes) (write : Bytes → Option Err) :
    (r.egress S raw txID order write).counted.count .retransmitDedup = 0 := by
  unfold egress
  induction order with
  | nil => rfl
  | cons name order ih =>
    cases hw : write name with
    | some e => cases hr : r.recorder <;> simp [writeAll, hw, count, hr]
    | none => simpa only [writeAll, hw] using ih

/-- A dropped frame is on no interface. -/
theorem not_wroteAll_dropResult (hs : r.sockets ≠ []) (raw : Bytes) : ¬ r.WroteAll r.dropResult raw := by
  obtain ⟨name, hname⟩ := List.exists_mem_of_ne_nil _ hs
  intro h
  obtain ⟨x, hx, -⟩ := h name hname
  cases hx

/-! ### The outcome -/

variable (r) in
/-- Nothing stands in the way of the frame: if there is a Redis, and the frame is long enough to
have a key there, `SET NX` neither fails nor is refused and nothing is under the key. -/
def Clear (raw : Bytes) (now : Time) (fault : Option Fault) (redis : Redis) : Prop :=
  ∀ c ∈ r.redisCache, 56 ≤ raw.length → fault = none ∧ (∃ stop, c.client.nxUntil r.dedupWindow now = .ok stop) ∧
    redis.get (c.redisKey (buildDedupKey raw)) now = none

/-- The gate drops exactly the frames that are not clear. -/
theorem gate_eq_dropped_iff (raw : Bytes) (now : Time) (fault : Option Fault) (redis : Redis) :
    (r.gate raw now fault redis).1 = .dropped ↔ ¬ r.Clear raw now fault redis := by
  cases hc : r.redisCache with
  | none => simp [gate, Clear, hc]
  | some c =>
    by_cases hlen : 56 ≤ raw.length
    · have hclear : r.Clear raw now fault redis ↔
          (c.setNX (buildDedupKey raw) (ascii ['1']) r.dedupWindow now fault redis).1 = true := by
        rw [c.setNX_eq_true_iff]
        simp [Clear, hc, hlen]
      rw [r.gate_of_key hc hlen, hclear]
      cases (c.setNX (buildDedupKey raw) (ascii ['1']) r.dedupWindow now fault redis).1 <;> simp
    · simp [r.gate_of_short (not_le.mp hlen), Clear, hlen]

section

variable {raw : Bytes} {now : Time} {fault : Option Fault} {redis : Redis}

/-- A frame that is clear is sent. -/
theorem retransmit_of_clear (h : r.Clear raw now fault redis) (txID : Bytes) (order : List Bytes)
    (write : Bytes → Option Err) :
    (r.retransmit S raw txID now fault order write redis).1 = r.egress S raw txID order write := by
  have hg : (r.gate raw now fault redis).1 ≠ .dropped := fun hd => (gate_eq_dropped_iff raw now fault redis).mp hd h
  unfold retransmit
  split
  next heq => exact absurd (congrArg Prod.fst heq) hg
  next => rfl

/-- Any other is dropped. -/
theorem retransmit_of_not_clear (h : ¬ r.Clear raw now fault redis) (txID : Bytes) (order : List Bytes)
    (write : Bytes → Option Err) :
    (r.retransmit S raw txID now fault order write redis).1 = r.dropResult := by
  obtain ⟨redis', hg⟩ : ∃ redis', r.gate raw now fault redis = (.dropped, redis') :=
    ⟨_, Prod.ext ((gate_eq_dropped_iff raw now fault redis).mpr h) rfl⟩
  simp only [retransmit, hg]

end

/-! ### The order of the sockets -/

section Orders

variable (r S) (raw txID : Bytes) (now : Time) (fault : Option Fault) (write : Bytes → Option Err) (redis : Redis)

/-- The interfaces on which a call puts the frame. -/
def ifaces (order : List Bytes) : Set Bytes :=
  {name | ∃ x ∈ (r.retransmit S raw txID now fault order write redis).1.sent, x.iface = name ∧ x.data = raw}

/-- The outcome of the call is that of the writes, in every order of the sockets. -/
structure EgressByWrites : Prop where
  /-- The frame is on the same interfaces in every order. -/
  same : ∀ order order', order.Perm r.sockets → order'.Perm r.sockets →
    r.ifaces S raw txID now fault write redis order = r.ifaces S raw txID now fault write redis order'
  /-- It is on all those that can be written to. -/
  served : ∀ order, order.Perm r.sockets → ∀ name ∈ r.sockets, write name = none →
    name ∈ r.ifaces S raw txID now fault write redis order
  /-- The call returns nil exactly if all writes succeed. -/
  nil_iff : ∀ order, order.Perm r.sockets →
    ((r.retransmit S raw txID now fault order write redis).1.err = none ↔ ∀ name ∈ r.sockets, write name = none)

variable {raw now fault redis}

theorem ifaces_of_clear (h : r.Clear raw now fault redis) (order : List Bytes) :
    r.ifaces S raw txID now fault write redis order =
      {name | ∃ x ∈ (r.egress S raw txID order write).sent, x.iface = name ∧ x.data = raw} := by
  rw [ifaces, retransmit_of_clear h]

theorem ifaces_of_not_clear (h : ¬ r.Clear raw now fault redis) (order : List Bytes) :
    r.ifaces S raw txID now fault write redis order = ∅ := by
  rw [ifaces, retransmit_of_not_clear h]
  simp [dropResult]

/-- When all writes succeed, the frame is on every interface. -/
theorem ifaces_of_success (h : r.Clear raw now fault redis) (hw : ∀ name ∈ r.sockets, write name = none)
    {order : List Bytes} (ho : order.Perm r.sockets) :
    r.ifaces S raw txID now fault write redis order = {name | name ∈ r.sockets} := by
  have herr : (r.egress S raw txID order write).err = none := (egress_err_eq_none_iff ho).mpr hw
  rw [ifaces_of_clear r S txID write h, egress, writeAll_sent herr]
  ext name
  simp [ho.mem_iff]

/-- When the first write fails, it is on none. -/
theorem ifaces_of_failure (h : r.Clear raw now fault redis) {name : Bytes} (hw : write name ≠ none)
    (order : List Bytes) :
    r.ifaces S raw txID now fault write redis (name :: order) = ∅ := by
  obtain ⟨e, he⟩ := Option.ne_none_iff_exists'.mp hw
  rw [ifaces_of_clear r S txID write h]
  simp [egress, writeAll, he]

/-- A frame that is written is written without an error exactly if all writes succeed. -/
theorem err_of_clear (h : r.Clear raw now fault redis) {order : List Bytes} (ho : order.Perm r.sockets) :
    (r.retransmit S raw txID now fault order write redis).1.err = none ↔ ∀ name ∈ r.sockets, write name = none := by
  rw [retransmit_of_clear h, egress_err_eq_none_iff ho]

/-- Without a socket there is one order, and nothing to write. -/
theorem egressByWrites_of_no_socket (h : r.sockets = []) : r.EgressByWrites S raw txID now fault write redis where
  same order order' ho ho' := by
    rw [h] at ho ho'
    rw [ho.eq_nil, ho'.eq_nil]
  served order ho name hname := by
    rw [h] at hname
    cases hname
  nil_iff order ho := by
    rw [h] at ho ⊢
    rw [ho.eq_nil]
    by_cases hc : r.Clear raw now fault redis
    · simp [retransmit_of_clear hc, egress, writeAll]
    · simp [retransmit_of_not_clear hc, dropResult]

/-- **The outcome does not depend on the order of the sockets exactly if there is none, or the
frame is written and the writes all succeed or all fail.** The loop ends at the first error, so
with both kinds of sockets those that work are served or not as the order has it. -/
theorem egress_by_writes_iff (raw : Bytes) (now : Time) (fault : Option Fault) (redis : Redis) :
    r.EgressByWrites S raw txID now fault write redis ↔
      r.sockets = [] ∨ r.Clear raw now fault redis ∧
        ((∀ name ∈ r.sockets, write name = none) ∨ ∀ name ∈ r.sockets, write name ≠ none) := by
  constructor
  · intro h
    by_contra hor
    obtain ⟨hne, hmixed⟩ := not_or.mp hor
    by_cases hc : r.Clear raw now fault redis
    · have hmixed := not_and.mp hmixed hc
      push Not at hmixed
      obtain ⟨⟨bad, hbad, hfail⟩, good, hgood, hsucc⟩ := hmixed
      -- with the failing socket in front, the working one is not served
      have hserved := h.served (bad :: r.sockets.erase bad) (List.perm_cons_erase hbad).symm good hgood hsucc
      rw [ifaces_of_failure r S txID write hc hfail] at hserved
      exact hserved
    · -- a frame that is dropped is on no interface, and the call returns nil
      obtain ⟨name, hname⟩ := List.exists_mem_of_ne_nil _ hne
      have hnil := h.nil_iff r.sockets (.refl _)
      rw [retransmit_of_not_clear hc] at hnil
      have hserved := h.served r.sockets (.refl _) name hname (hnil.mp rfl name hname)
      rw [ifaces_of_not_clear r S txID write hc] at hserved
      exact hserved
  · rintro (hnone | ⟨hc, hsucc | hfail⟩)
    · exact egressByWrites_of_no_socket r S txID write hnone
    · exact
        { same := fun order order' ho ho' => by
            rw [ifaces_of_success r S txID write hc hsucc ho, ifaces_of_success r S txID write hc hsucc ho']
          served := fun order ho name hname _ => by
            rw [ifaces_of_success r S txID write hc hsucc ho]
            exact hname
          nil_iff := fun order ho => err_of_clear r S txID write hc ho }
    · have hempty {order : List Bytes} (ho : order.Perm r.sockets) :
          r.ifaces S raw txID now fault write redis order = ∅ := by
        cases order with
        | nil =>
          rw [ifaces_of_clear r S txID write hc]
          simp [egress, writeAll]
        | cons name order => exact ifaces_of_failure r S txID write hc (hfail name (ho.mem_iff.mp (by simp))) order
      exact
        { same := fun order order' ho ho' => by rw [hempty ho, hempty ho']
          served := fun order ho name hname hw => absurd hw (hfail name hname)
          nil_iff := fun order ho => err_of_clear r S txID write hc ho }

end Orders

/-- A retransmitter with two egress interfaces and no Redis. -/
def twoSockets : Retransmitter :=
  { oneSocket false with
    sockets := [ascii ['e'], ascii ['f']]
    nodup := by decide
    redisCache := none }

/-- The writes of `f` fail. -/
def secondFails (name : Bytes) : Option Err := if name = ascii ['f'] then some "network is down" else none

/-- With one working interface of two, the frame is on it or on none. -/
theorem egress_depends_on_order :
    (twoSockets.retransmit oneGroup (wireFrame 1 1) (List.replicate 32 0) 0 none [ascii ['e'], ascii ['f']]
        secondFails Theory.ExpMap.empty).1.sent.map Sent.iface = [ascii ['e']] ∧
      (twoSockets.retransmit oneGroup (wireFrame 1 1) (List.replicate 32 0) 0 none [ascii ['f'], ascii ['e']]
        secondFails Theory.ExpMap.empty).1.sent = [] ∧
      ¬ twoSockets.EgressByWrites oneGroup (wireFrame 1 1) (List.replicate 32 0) 0 none secondFails
        Theory.ExpMap.empty := by
  have hnone : (twoSockets.retransmit oneGroup (wireFrame 1 1) (List.replicate 32 0) 0 none [ascii ['f'], ascii ['e']]
      secondFails Theory.ExpMap.empty).1.sent = [] := rfl
  refine ⟨rfl, hnone, fun h => ?_⟩
  obtain ⟨x, hx, -⟩ := h.served [ascii ['f'], ascii ['e']] (.swap ..) (ascii ['e']) (by decide) rfl
  rw [hnone] at hx
  cases hx

end Retransmitter

end RetryEndpoint.Retransmit
