import RetryEndpoint.Service

/-!
# Endpoints on one network

What an endpoint retransmits goes to a multicast group that the endpoints have joined, by default on
the port they listen on, and nothing turns the loop off: retransmits come back. They are stored
again, by the endpoint that has sent them and by the others, served again, and so on.

## The model

The endpoints of a `Network` are those of `Service`, on one Redis and under one prefix. `wire` is
what has ever been multicast: the datagrams of the sources (`send`) and those that the endpoints
have written to their sockets (`emitted`). Of these any endpoint may receive any one at any time, in
any order, often or never (`deliver`). Requests (`nack`) may be anything, from anywhere.

## What is proved

* `retransmits_are_originals` — through any number of such rounds an endpoint multicasts only what a
  source has sent, byte for byte, and only at a valid request for the `HashKey` and `SeqNum` that it
  has in its own header, to the group of its class, while the time to live of some reception runs, if that is
  positive and `SET` keeps to it.
-/

namespace RetryEndpoint

open Go Cache Ingress NackServer RateLimit Retransmit ShardCommon Theory Service

/-! ### What a request and a retransmit can do -/

/-- What is sent is the frame, to its group. -/
theorem Retransmit.Retransmitter.mem_writeAll {r : Retransmitter} {write : Bytes → Option Err} {addr : UDPAddr}
    {raw : Bytes} {order : List Bytes} {x : Sent} (hx : x ∈ (r.writeAll write addr raw order).sent) :
    x.data = raw ∧ x.addr = addr := by
  induction order with
  | nil => cases hx
  | cons name order ih =>
    cases hw : write name with
    | some e => simp [writeAll, hw] at hx
    | none =>
      simp only [writeAll, hw, List.mem_cons] at hx
      rcases hx with rfl | hx
      · exact ⟨rfl, rfl⟩
      · exact ih hx

theorem Retransmit.Retransmitter.mem_retransmit {r : Retransmitter} {S : ShardLib} {raw txID : Bytes} {now : Time}
    {fault : Option Fault} {order : List Bytes} {write : Bytes → Option Err} {redis : Redis} {x : Sent}
    (hx : x ∈ (r.retransmit S raw txID now fault order write redis).1.sent) :
    x.data = raw ∧ x.addr = r.groupAddr S raw txID := by
  unfold retransmit at hx
  split at hx
  · cases hx
  · exact mem_writeAll hx

/-- A hit is at a valid request, of what the lookup has found. -/
theorem NackServer.Server.processNACK_hit {D : Deps} {σ : Type} {srv : Server} {S : ShardLib} {B : Backend σ}
    {datagram : Bytes} {src : Option UDPAddr} {now : Time} {sendErr : Bool} {l : Limiter D} {s : σ} {raw : Bytes}
    {call : Option RetransmitCall} (h : (srv.processNACK S B datagram src now sendErr l s).1.path = .hit raw call) :
    Valid datagram ∧ B.cache.retrieve (readNACK datagram).key now s = .ok (some raw) := by
  unfold processNACK at h
  split at h
  · cases h
  · next hvalid =>
    dsimp only at h
    split_ifs at h with hrange
    · cases h
    · split at h
      · cases h
      · refine ⟨⟨hvalid, not_not.mp hrange⟩, ?_⟩
        unfold lookup at h
        split at h
        · cases h
        · cases h
        · next found hfound =>
          rw [serve_path] at h
          obtain ⟨rfl, -⟩ := Path.hit.inj h
          exact hfound

/-- Endpoints on one Redis, under one prefix, and on one multicast network. -/
structure Network (ι : Type) where
  /-- The endpoints. -/
  endpoint : ι → Endpoint
  /-- The frame formats. -/
  frames : FrameLib
  frames_eq : ∀ i, (endpoint i).frames = frames
  /-- The Redis client. -/
  client : RedisCache
  client_eq : ∀ i, (endpoint i).client = client

namespace Network

variable {ι : Type} {D : Deps}

/-- What can happen next. -/
inductive Event (ι : Type) where
  /-- A source multicasts a datagram. -/
  | send (raw : Bytes)
  /-- An endpoint receives a datagram of the network. -/
  | deliver (i : ι) (raw : Bytes) (now : Time)
  /-- A datagram arrives on the NACK port of an endpoint. -/
  | nack (i : ι) (datagram : Bytes) (src : Option UDPAddr) (now : Time) (sendErr : Bool) (weather : Weather)

/-- The Redis, the limiters, and the network. -/
structure State (ι : Type) (D : Deps) where
  /-- The keyspace. -/
  redis : Redis
  /-- The limiter of each endpoint. -/
  limiter : ι → Limiter D
  /-- What has been multicast. -/
  wire : List Bytes

variable (m : Network ι)

/-- What an endpoint writes to its egress sockets. -/
def emitted (s : State ι D) : Event ι → List Sent
  | .nack i datagram src now sendErr weather =>
    match ((m.endpoint i).processNACK datagram src now sendErr weather ⟨s.redis, s.limiter i⟩).1.path with
    | .hit raw (some _) =>
      ((m.endpoint i).retransmitter.retransmit (m.endpoint i).shards raw (frameTxID raw) now weather.fault weather.order
        weather.write s.redis).1.sent
    | _ => []
  | _ => []

variable [DecidableEq ι]

/-- One event. A datagram that is not on the network is not received. -/
def step (s : State ι D) : Event ι → State ι D
  | .send raw => { s with wire := s.wire ++ [raw] }
  | .deliver i raw now =>
    if s.wire.contains raw then
      let ep := m.endpoint i
      { s with redis := (processFrame ep.frames ep.client.cache ep.worker raw raw now s.redis).1 }
    else s
  | .nack i datagram src now sendErr weather =>
    let r := (m.endpoint i).processNACK datagram src now sendErr weather ⟨s.redis, s.limiter i⟩
    ⟨r.2.2, Function.update s.limiter i r.2.1,
      s.wire ++ (m.emitted s (.nack i datagram src now sendErr weather)).map (·.data)⟩

/-- A run, from an empty Redis. -/
def run (limiter : ι → Limiter D) (es : List (Event ι)) : State ι D := runFrom m.step ⟨ExpMap.empty, limiter, []⟩ es

/-! ### Where things come from -/

/-- What is kept by the header `f` is a datagram of a source that has this header, with the deadline that
was set at one of its receptions. -/
structure Kept (f : Header) (x : Item Bytes) (es : List (Event ι)) : Prop where
  sent : .send x.value ∈ es
  header : storedHeader m.frames x.value = some f
  received : ∃ j t old, .deliver j x.value t ∈ es ∧
    x.deadline = m.client.client.setUntil (m.endpoint j).worker.ttl t old

/-- All that is on the network or kept comes from the sources. -/
structure Genuine (s : State ι D) (es : List (Event ι)) : Prop where
  wire : ∀ raw ∈ s.wire, .send raw ∈ es
  kept : ∀ f x, s.redis (m.client.redisKey (frameKey f)) = some x → m.Kept f x es

variable {m}

omit [DecidableEq ι] in
theorem Kept.mono {f : Header} {x : Item Bytes} {es es' : List (Event ι)} (h : m.Kept f x es) (hes : es ⊆ es') :
    m.Kept f x es' where
  sent := hes h.sent
  header := h.header
  received := by
    obtain ⟨j, t, old, hmem, hd⟩ := h.received
    exact ⟨j, t, old, hes hmem, hd⟩

omit [DecidableEq ι] in
theorem Genuine.mono {s : State ι D} {es es' : List (Event ι)} (h : m.Genuine s es) (hes : es ⊆ es') :
    m.Genuine s es' where
  wire raw hraw := hes (h.wire raw hraw)
  kept f x hx := (h.kept f x hx).mono hes

omit [DecidableEq ι] in
/-- An endpoint emits what is kept under the key of the request, while it is live. -/
theorem Genuine.emitted {s : State ι D} {es : List (Event ι)} (h : m.Genuine s es) {i : ι} {datagram : Bytes}
    {src : Option UDPAddr} {now : Time} {sendErr : Bool} {weather : Weather} {x : Sent}
    (hx : x ∈ m.emitted s (.nack i datagram src now sendErr weather)) :
    Valid datagram ∧
      x.addr = (m.endpoint i).retransmitter.groupAddr (m.endpoint i).shards x.data (frameTxID x.data) ∧
      ∃ y : Item Bytes, m.Kept ⟨(readNACK datagram).hashKey, (readNACK datagram).startSeq⟩ y es ∧ y.Live now ∧
        y.value = x.data := by
  simp only [Network.emitted] at hx
  split at hx
  · next raw call hpath =>
    obtain ⟨hv, hfound⟩ := Server.processNACK_hit hpath
    obtain ⟨rfl, haddr⟩ := Retransmitter.mem_retransmit hx
    have hget : s.redis.get (m.client.redisKey (readNACK datagram).key) now = some x.data := by
      simpa only [Endpoint.backend, RedisCache.cache, RedisCache.retrieve, m.client_eq i, Except.ok.injEq] using hfound
    obtain ⟨y, hy, hlive⟩ := Option.bind_eq_some_iff.mp hget
    obtain ⟨hl, hvalue⟩ := Option.ite_none_right_eq_some.mp hlive
    exact ⟨hv, haddr, y, h.kept _ y hy, hl, Option.some.inj hvalue⟩
  · cases hx

/-! ### Runs -/

theorem Genuine.send {s : State ι D} {es : List (Event ι)} (h : m.Genuine s es) (raw : Bytes) :
    m.Genuine (m.step s (.send raw)) (es ++ [.send raw]) where
  wire raw' hraw := by
    rcases List.mem_append.mp hraw with hmem | hmem
    · exact List.mem_append_left _ (h.wire raw' hmem)
    · obtain rfl := List.mem_singleton.mp hmem
      simp
  kept f x hx := (h.kept f x hx).mono (List.subset_append_left ..)

/-- A datagram that is received is kept by its own header. -/
theorem Genuine.deliver {s : State ι D} {es : List (Event ι)} (h : m.Genuine s es) (i : ι) (raw : Bytes) (now : Time) :
    m.Genuine (m.step s (.deliver i raw now)) (es ++ [.deliver i raw now]) := by
  have hmono := h.mono (List.subset_append_left es [.deliver i raw now])
  by_cases hwire : s.wire.contains raw = true
  · simp only [step, if_pos hwire]
    refine ⟨hmono.wire, fun f x hx => ?_⟩
    dsimp only at hx
    rw [m.frames_eq i, m.client_eq i] at hx
    cases hs : storedHeader m.frames raw with
    | none =>
      rw [processFrame_of_none _ _ hs] at hx
      exact hmono.kept f x hx
    | some g =>
      rw [processFrame_of_stored _ _ hs] at hx
      by_cases hg : g = f
      · subst hg
        obtain rfl := Option.some.inj ((m.client.store_self ..).symm.trans hx)
        exact ⟨hmono.wire raw (List.contains_iff_mem.mp hwire), hs, i, now, _, by simp, rfl⟩
      · have hk : m.client.redisKey (frameKey f) ≠ m.client.redisKey (frameKey g) :=
          fun he => hg (frameKey_inj (m.client.redisKey_inj he)).symm
        exact hmono.kept f x ((m.client.store_of_ne hk ..).symm.trans hx)
  · simpa only [step, if_neg hwire] using hmono

/-- What is emitted adds nothing new, and the claim is in nobody's way. -/
theorem Genuine.nack {s : State ι D} {es : List (Event ι)} (h : m.Genuine s es) (i : ι) (datagram : Bytes)
    (src : Option UDPAddr) (now : Time) (sendErr : Bool) (weather : Weather) :
    m.Genuine (m.step s (.nack i datagram src now sendErr weather))
      (es ++ [.nack i datagram src now sendErr weather]) := by
  suffices hsame : m.Genuine (m.step s (.nack i datagram src now sendErr weather)) es from
    hsame.mono (List.subset_append_left ..)
  refine ⟨fun raw hraw => ?_, fun f x hx => ?_⟩
  · rcases List.mem_append.mp hraw with hmem | hmem
    · exact h.wire raw hmem
    · obtain ⟨y, hy, rfl⟩ := List.mem_map.mp hmem
      obtain ⟨-, -, z, hkept, -, hz⟩ := h.emitted hy
      exact hz ▸ hkept.sent
  · refine h.kept f x ?_
    rw [← hx]
    dsimp only [step, Endpoint.processNACK]
    rcases (m.endpoint i).server.processNACK_state (m.endpoint i).shards ((m.endpoint i).backend weather) datagram src
      now sendErr (s.limiter i) s.redis with hr | ⟨raw, txID, hr⟩
    · rw [hr]
    · rw [hr]
      simp only [Endpoint.backend, Retransmitter.retransmit_redis]
      rw [← m.client_eq i]
      exact ((m.endpoint i).retransmitter.gate_redis_of_ne (m.endpoint i).wired
        (Endpoint.frameKey_ne_buildDedupKey _ f raw) ..).symm

variable (m) in
theorem genuine_run (limiter : ι → Limiter D) (es : List (Event ι)) : m.Genuine (m.run limiter es) es := by
  induction es using List.reverseRecOn with
  | nil => exact ⟨fun _ hraw => (by cases hraw), fun _ _ hx => (by cases hx)⟩
  | append_singleton es e ih =>
    rw [run, runFrom_snoc]
    cases e with
    | send raw => exact ih.send raw
    | deliver i raw now => exact ih.deliver i raw now
    | nack i datagram src now sendErr weather => exact ih.nack i datagram src now sendErr weather

variable (m) in
/-- **Endpoints multicast originals only.** Whatever has been received, stored and retransmitted before,
all on the network was sent by a source, and what an endpoint writes to its sockets at a request is a
datagram that a source has sent, whose own header has the `HashKey` and `SeqNum` of the request, which
is valid; it goes to the group of its class, and some endpoint has received it, less than its time to live
ago if that is positive and `SET` keeps a value for it. -/
theorem retransmits_are_originals (limiter : ι → Limiter D) (es : List (Event ι)) (i : ι) (datagram : Bytes)
    (src : Option UDPAddr) (now : Time) (sendErr : Bool) (weather : Weather) :
    (∀ raw ∈ (m.run limiter es).wire, .send raw ∈ es) ∧
    ∀ x ∈ m.emitted (m.run limiter es) (.nack i datagram src now sendErr weather),
      Valid datagram ∧ .send x.data ∈ es ∧
      storedHeader m.frames x.data = some ⟨(readNACK datagram).hashKey, (readNACK datagram).startSeq⟩ ∧
      x.addr = (m.endpoint i).retransmitter.groupAddr (m.endpoint i).shards x.data (frameTxID x.data) ∧
      ∃ j t, .deliver j x.data t ∈ es ∧ (0 < (m.endpoint j).worker.ttl →
        m.client.client.SetsFor (m.endpoint j).worker.ttl → now < t + (m.endpoint j).worker.ttl) := by
  have hgen := m.genuine_run limiter es
  refine ⟨hgen.wire, fun x hx => ?_⟩
  obtain ⟨hv, haddr, y, hkept, hlive, hy⟩ := hgen.emitted hx
  obtain ⟨j, t, old, hdeliver, hdeadline⟩ := hkept.received
  rw [← hy]
  refine ⟨hv, hkept.sent, hkept.header, hy ▸ haddr, j, t, hdeliver, fun httl hR => ?_⟩
  rw [hR.pos httl] at hdeadline
  exact hlive _ hdeadline

/-- Two endpoints with one egress interface each. -/
def two : Network Bool where
  endpoint _ := Endpoint.small
  frames := wireFrames
  frames_eq _ := rfl
  client := ⟨msClient, ascii ['p']⟩
  client_eq _ := rfl

-- The second endpoint is asked for what the first has received, and once more, after the claim has
-- run out, for what it has received of its own retransmit.
example :
    let q : ℤ → Event Bool := fun t => .nack true (wireNACK 1 1) none t false ⟨none, [ascii ['e']], fun _ => none⟩
    let s := two.run (fun _ => limiterWith 10 10 10)
      [.send (wireFrame 1 1), .deliver false (wireFrame 1 1) 0, q (50 * millisecond),
        .deliver true (wireFrame 1 1) (51 * millisecond)]
    s.wire = [wireFrame 1 1, wireFrame 1 1] ∧
      (two.emitted s (q (100 * millisecond))).map (·.data) = [wireFrame 1 1] := by
  decide

end Network

end RetryEndpoint
