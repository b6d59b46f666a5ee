import RetryEndpoint.Ingress.Worker
import RetryEndpoint.NackServer.Process
import RetryEndpoint.Retransmit.Retransmitter
import RetryEndpoint.Theory.Runs

/-!
# The service, from ingress to retransmit

An endpoint with the Redis backend, as `main.go` wires it: the ingress worker, the NACK
server and the retransmitter use one client, so that frames and claims are in one keyspace.

## The model

An `Endpoint` takes `frame` and `nack` events, each a whole call of `processFrame` or
`processNACK`, in any order. Redis is a map whose entries expire, and `SET` and `GET` do not
fail; `SET NX` and the writes to the sockets may. That `SET` keeps a frame for the time to live is assumed
(`SetsFor`).

What the service is for is said by the history alone: `latest` is the last datagram that
was stored by a given header.

## What is proved

* `run_holds` — after every run the keyspace holds, for each header, the latest datagram
  stored by it, and no claim gets in its way.
* `processNACK_serves_latest` — so a request that passes the tiers before the lookup hits
  exactly the latest datagram with its `HashKey` and `SeqNum`, as long as it is younger than
  the time to live, and is a miss otherwise.
-/

namespace RetryEndpoint.Service

open Go Cache Ingress NackServer RateLimit Retransmit ShardCommon Theory

/-- An endpoint with the Redis backend. -/
structure Endpoint where
  /-- The frame formats. -/
  frames : FrameLib
  /-- The multicast groups. -/
  shards : ShardLib
  /-- The Redis client. -/
  client : RedisCache
  /-- The ingress worker. -/
  worker : Worker
  /-- The NACK server. -/
  server : Server
  /-- The retransmitter. -/
  retransmitter : Retransmitter
  /-- It uses the same client. -/
  wired : retransmitter.redisCache = some client

/-- The keyspace of the Redis, and the limiter. -/
structure State (D : Deps) where
  /-- The keyspace. -/
  redis : Redis
  /-- The limiter. -/
  limiter : Limiter D

/-- How the retransmitter fares in a call: whether `SET NX` fails, the order of the sockets
and what the writes return. -/
structure Weather where
  /-- The failure of `SET NX`. -/
  fault : Option Fault
  /-- The order of the sockets. -/
  order : List Bytes
  /-- What the writes return. -/
  write : Bytes → Option Err

/-- What can happen next. -/
inductive Event where
  /-- A datagram arrives on the multicast groups. -/
  | frame (raw : Bytes) (now : Time)
  /-- A datagram arrives on the NACK port. -/
  | nack (datagram : Bytes) (src : Option UDPAddr) (now : Time) (sendErr : Bool) (weather : Weather)

namespace Endpoint

variable {D : Deps} (ep : Endpoint)

/-- The cache and the retransmitter, as the server calls them. -/
def backend (weather : Weather) : Backend Redis where
  cache := ep.client.cache
  retransmit raw txID now redis :=
    let r := ep.retransmitter.retransmit ep.shards raw txID now weather.fault weather.order weather.write redis
    (r.1.err, r.2)

/-- `processNACK`, at the endpoint. -/
def processNACK (datagram : Bytes) (src : Option UDPAddr) (now : Time) (sendErr : Bool) (weather : Weather)
    (s : State D) : Outcome × Limiter D × Redis :=
  ep.server.processNACK ep.shards (ep.backend weather) datagram src now sendErr s.limiter s.redis

/-- One event. -/
def step (s : State D) : Event → State D
  | .frame raw now =>
    { s with redis := (processFrame ep.frames ep.client.cache ep.worker raw raw now s.redis).1 }
  | .nack datagram src now sendErr weather =>
    let r := ep.processNACK datagram src now sendErr weather s
    ⟨r.2.2, r.2.1⟩

/-- A run, from an empty Redis. -/
def run (l : Limiter D) (es : List Event) : State D := runFrom ep.step ⟨ExpMap.empty, l⟩ es

/-- The datagrams that were stored by the header `f`, and when. -/
def arrivals (f : Header) (es : List Event) : List (Bytes × Time) :=
  es.filterMap fun
    | .frame raw now => if storedHeader ep.frames raw = some f then some (raw, now) else none
    | .nack .. => none

/-- The latest of them. -/
def latest (f : Header) (es : List Event) : Option (Bytes × Time) := (ep.arrivals f es).getLast?

/-! ### The keyspace and the history -/

/-- The keyspace holds the latest datagrams, each for the time to live. -/
def Holds (redis : Redis) (es : List Event) : Prop :=
  ∀ f, redis (ep.client.redisKey (frameKey f)) = (ep.latest f es).map fun a => ⟨a.1, some (a.2 + ep.worker.ttl)⟩

variable {ep}

theorem latest_snoc_frame (f : Header) (es : List Event) (raw : Bytes) (now : Time) :
    ep.latest f (es ++ [.frame raw now]) =
      if storedHeader ep.frames raw = some f then some (raw, now) else ep.latest f es := by
  by_cases h : storedHeader ep.frames raw = some f <;> simp [latest, arrivals, h]

theorem latest_snoc_nack (f : Header) (es : List Event) (datagram : Bytes) (src : Option UDPAddr) (now : Time)
    (sendErr : Bool) (weather : Weather) :
    ep.latest f (es ++ [.nack datagram src now sendErr weather]) = ep.latest f es := by
  simp [latest, arrivals]

/-- The latest datagram stored by a header has that header. -/
theorem storedHeader_of_latest {f : Header} {es : List Event} {raw : Bytes} {t : Time}
    (h : ep.latest f es = some (raw, t)) : storedHeader ep.frames raw = some f := by
  obtain ⟨e, -, he⟩ := List.mem_filterMap.mp (List.mem_of_getLast? h)
  cases e with
  | frame raw' now =>
    by_cases hs : storedHeader ep.frames raw' = some f
    · obtain ⟨rfl, -⟩ : raw' = raw ∧ now = t := by simpa [hs] using he
      exact hs
    · simp [hs] at he
  | nack => cases he

/-- A datagram is stored under its header. -/
theorem Holds.frame (hR : ep.client.client.SetsFor ep.worker.ttl) (httl : 0 < ep.worker.ttl) {redis : Redis}
    {es : List Event} (h : ep.Holds redis es) (raw : Bytes) (now : Time) :
    ep.Holds (processFrame ep.frames ep.client.cache ep.worker raw raw now redis).1 (es ++ [.frame raw now]) := by
  intro f
  rw [latest_snoc_frame]
  cases hs : storedHeader ep.frames raw with
  | none =>
    rw [processFrame_of_none _ _ hs, if_neg (by simp)]
    exact h f
  | some g =>
    rw [processFrame_of_stored _ _ hs]
    by_cases hg : g = f
    · subst hg
      rw [if_pos rfl, Option.map_some, ← hR.pos httl now]
      exact ep.client.store_self ..
    · have hk : ep.client.redisKey (frameKey f) ≠ ep.client.redisKey (frameKey g) :=
        fun he => hg (frameKey_inj (ep.client.redisKey_inj he)).symm
      rw [if_neg (by simpa using hg), ← h f]
      exact ep.client.store_of_ne hk ..

/-- A frame's key is not a claim's. -/
theorem frameKey_ne_buildDedupKey (c : RedisCache) (f : Header) (raw : Bytes) :
    c.redisKey (frameKey f) ≠ c.redisKey (buildDedupKey raw) := by
  intro h
  have hl := congrArg List.length (c.redisKey_inj h)
  by_cases hlen : raw.length < 56
  · simp [buildDedupKey, hlen] at hl
  · rw [length_buildDedupKey (by omega), length_frameKey] at hl
    cases hl

/-- A NACK leaves the frames alone. -/
theorem Holds.nack {s : State D} {es : List Event} (h : ep.Holds s.redis es) (datagram : Bytes) (src : Option UDPAddr)
    (now : Time) (sendErr : Bool) (weather : Weather) :
    ep.Holds (ep.processNACK datagram src now sendErr weather s).2.2
      (es ++ [.nack datagram src now sendErr weather]) := by
  intro f
  rw [latest_snoc_nack, ← h f]
  rcases ep.server.processNACK_state ep.shards (ep.backend weather) datagram src now sendErr s.limiter s.redis with
    hr | ⟨raw, txID, hr⟩
  · rw [processNACK, hr]
  · rw [processNACK, hr]
    simp only [backend, Retransmitter.retransmit_redis]
    exact ep.retransmitter.gate_redis_of_ne ep.wired (frameKey_ne_buildDedupKey _ f raw) ..

theorem run_holds (hR : ep.client.client.SetsFor ep.worker.ttl) (httl : 0 < ep.worker.ttl) (l : Limiter D)
    (es : List Event) : ep.Holds (ep.run l es).redis es := by
  induction es using List.reverseRecOn with
  | nil => intro f; rfl
  | append_singleton es e ih =>
    rw [run, runFrom_snoc]
    cases e with
    | frame raw now => exact ih.frame hR httl raw now
    | nack datagram src now sendErr weather => exact ih.nack datagram src now sendErr weather

/-! ### What a lookup finds -/

/-- A lookup finds the latest datagram while it is younger than the time to live. -/
theorem Holds.retrieve_eq_some_iff {redis : Redis} {es : List Event} (h : ep.Holds redis es) (f : Header) (raw : Bytes)
    (now : Time) :
    ep.client.retrieve (frameKey f) now redis = some raw ↔
      ∃ t, ep.latest f es = some (raw, t) ∧ now < t + ep.worker.ttl := by
  cases hl : ep.latest f es with
  | none =>
    have hk := h f
    rw [hl] at hk
    simp [RedisCache.retrieve, ExpMap.get_eq_none hk]
  | some a =>
    have hk := h f
    rw [hl] at hk
    rw [RedisCache.retrieve, ExpMap.get_eq_some_iff hk]
    constructor
    · rintro ⟨rfl, ht⟩
      exact ⟨a.2, rfl, ht⟩
    · rintro ⟨t, ha, ht⟩
      obtain rfl := Option.some.inj ha
      exact ⟨rfl, ht⟩

/-- The lookup of a request, by what is in the cache. -/
theorem processNACK_path_of_admitted {s : State D} {datagram : Bytes} (hv : Valid datagram) {src : Option UDPAddr}
    {now : Time} (hpre : (preLookup s.limiter (srcIP src) (readNACK datagram) now).1 = none) (sendErr : Bool)
    (weather : Weather) :
    (ep.processNACK datagram src now sendErr weather s).1.path =
      match ep.client.retrieve (readNACK datagram).key now s.redis with
      | none => .miss
      | some raw => .hit raw
        (if (ep.server.throttleGroup ep.shards (preLookup s.limiter (srcIP src) (readNACK datagram) now).2 (srcIP src)
          (frameTxID raw) now).1 then none
        else some ⟨raw, frameTxID raw, ((ep.backend weather).retransmit raw (frameTxID raw) now s.redis).1⟩) := by
  have hp : preLookup s.limiter (srcIP src) (readNACK datagram) now =
      (none, (preLookup s.limiter (srcIP src) (readNACK datagram) now).2) := Prod.ext hpre rfl
  rw [processNACK, Server.processNACK_of_admitted hv hp, Server.lookup]
  simp only [backend, RedisCache.cache]
  cases ep.client.retrieve (readNACK datagram).key now s.redis with
  | none => rfl
  | some raw => exact Server.serve_path ..

variable (ep)

/-- **The service law.** After any run, a valid request for one frame that passes the tiers
before the lookup hits a datagram exactly when that is the latest one stored by the
request's `HashKey` and `SeqNum` and it is younger than the time to live; otherwise it is a
miss. On a hit `Retransmit` is called with the datagram and its bytes 8 to 39, unless the
group tier throttles it. What does not decode, or has no `SeqNum`, is never seen. `SET` is assumed to keep a
frame for the time to live. -/
theorem processNACK_serves_latest (l : Limiter D) (es : List Event) (datagram : Bytes) (src : Option UDPAddr)
    (now : Time) (sendErr : Bool) (weather : Weather) (httl : 0 < ep.worker.ttl)
    (hR : ep.client.client.SetsFor ep.worker.ttl) (hv : Valid datagram)
    (hpre : (preLookup (ep.run l es).limiter (srcIP src) (readNACK datagram) now).1 = none) :
    let q := readNACK datagram
    let path := (ep.processNACK datagram src now sendErr weather (ep.run l es)).1.path
    let limiter := (preLookup (ep.run l es).limiter (srcIP src) q now).2
    (∀ raw, (∃ call, path = .hit raw call) ↔
      ∃ t, ep.latest ⟨q.hashKey, q.startSeq⟩ es = some (raw, t) ∧ now < t + ep.worker.ttl) ∧
    ((¬ ∃ raw t, ep.latest ⟨q.hashKey, q.startSeq⟩ es = some (raw, t) ∧ now < t + ep.worker.ttl) → path = .miss) ∧
    (∀ raw call, path = .hit raw call →
      (if (ep.server.throttleGroup ep.shards limiter (srcIP src) (frameTxID raw) now).1 then call = none
        else ∃ err, call = some ⟨raw, frameTxID raw, err⟩) ∧
      (40 ≤ raw.length → frameTxID raw = slice raw 8 40) ∧
      ownHeader ep.frames raw = some ⟨q.hashKey, q.startSeq⟩ ∧ q.startSeq ≠ 0) := by
  intro q path limiter
  have hpath : path = _ := processNACK_path_of_admitted hv hpre sendErr weather
  have hret : ∀ raw, ep.client.retrieve q.key now (ep.run l es).redis = some raw ↔ _ := fun raw =>
    (run_holds hR httl l es).retrieve_eq_some_iff ⟨q.hashKey, q.startSeq⟩ raw now
  cases hr : ep.client.retrieve q.key now (ep.run l es).redis with
  | none =>
    rw [hr] at hpath
    have hnone : ∀ raw, ¬ ∃ t, ep.latest ⟨q.hashKey, q.startSeq⟩ es = some (raw, t) ∧ now < t + ep.worker.ttl := by
      intro raw h
      rw [← hret raw, hr] at h
      cases h
    rw [hpath]
    exact ⟨fun raw => iff_of_false (fun ⟨call, h⟩ => by cases h) (hnone raw), fun _ => rfl,
      fun raw call h => by cases h⟩
  | some raw₀ =>
    rw [hr] at hpath
    obtain ⟨t, hlatest, ht⟩ := (hret raw₀).mp hr
    refine ⟨fun raw => ?_, fun h => absurd ⟨raw₀, t, hlatest, ht⟩ h, fun raw call h => ?_⟩
    · rw [← hret raw, hr, hpath]
      simp
    · rw [hpath] at h
      obtain ⟨rfl, rfl⟩ : raw₀ = raw ∧ _ = call := by simpa only [Path.hit.injEq] using h
      have hown := (storedHeader_eq_some_iff _).mp (storedHeader_of_latest hlatest)
      refine ⟨?_, fun hlen => by rw [frameTxID, if_pos hlen], hown⟩
      split_ifs
      · rfl
      · exact ⟨_, rfl⟩

/-- An endpoint with one egress interface and a time to live of sixty milliseconds. -/
def small : Endpoint where
  frames := wireFrames
  shards := oneGroup
  client := ⟨msClient, ascii ['p']⟩
  worker := ⟨60 * millisecond, false⟩
  server := ⟨false, false, none, false⟩
  retransmitter := oneSocket false
  wired := rfl

/-- A frame is stored twice, the second time at 5 ms, and is found at 60 ms. -/
theorem small_serves_latest :
    ∃ call, (small.processNACK (wireNACK 1 1) none (60 * millisecond) false ⟨none, [ascii ['e']], fun _ => none⟩
      (small.run (limiterWith 10 10 10)
        [.frame (wireFrame 1 1) 0, .frame (wireFrame 1 1) (5 * millisecond)])).1.path = .hit (wireFrame 1 1) call :=
  ((processNACK_serves_latest small (limiterWith 10 10 10)
    [.frame (wireFrame 1 1) 0, .frame (wireFrame 1 1) (5 * millisecond)] (wireNACK 1 1) none (60 * millisecond) false
    ⟨none, [ascii ['e']], fun _ => none⟩ (by decide) (setsFor_msClient (Dvd.intro_left _ rfl)) (by decide)
    (by decide)).1 _).mpr ⟨5 * millisecond, by decide, by decide⟩

end Endpoint

end RetryEndpoint.Service
