import RetryEndpoint.Theory.Runs
import RetryEndpoint.Wiring

/-!
# Endpoints on one Redis

Several endpoints that are given the address of one Redis, each with a cache backend of its
own: what they keep there, and whether they are in each other's way.

## The model

A `Deployment` is a family of endpoints that `run` has started with that address, Redis
answering, each with the client that `redis.New` has made of it. Between them they send any
commands in any order: frames are stored and looked up (in the Redis by those with the Redis
backend, in the process by the others) and claimed by the gate of `Retransmit`. A `SET NX` may
come back with an error. A `SET` that does not reach the server is one that is not in the run.

Keys are told apart by their length: both prefixes have ten bytes, after which there are sixteen
in the key of a frame and eight in that of a claim.

## What is proved

* `frames_claims_apart` — lookups find the same frames with and without the claims, and claims
  are decided alike with and without the stores.
* `one_namespace_iff` — two endpoints claim a frame under one key, and each is kept by the other's
  claim from sending it, exactly when they have the same backend.
* `mixed_claims_twice` — with one of each, both send the frame.
-/

namespace RetryEndpoint

open Go Cache ShardCommon Ingress Retransmit Theory Config

/-- Endpoints that are started with the address of one Redis. -/
structure Deployment (ι : Type) where
  /-- The address. -/
  addr : String
  addr_ne : addr ≠ ""
  /-- The configurations. -/
  cfg : ι → Config
  accepted : ∀ i, ∃ env f, load env f = .ok (cfg i)
  redisAddr_eq : ∀ i, (cfg i).redisAddr = addr
  /-- What the client and the server make of expirations. -/
  client : RedisClient
  /-- What `redis.New` returns to an endpoint. -/
  ping : ι → String → Except Err RedisClient
  reachable : ∀ i, ping i addr = .ok client
  /-- The clients that `run` builds. -/
  clients : ι → Clients
  started : ∀ i, start (ping i) (cfg i) = .ok (clients i)

/-- A command of an endpoint. -/
inductive Command (ι : Type) where
  /-- `Store`; `pick` is for the order of the map, in a cache in memory. -/
  | store (i : ι) (f : Header) (value : Bytes) (now : Time) (pick : ℕ)
  /-- `Retrieve`. -/
  | retrieve (i : ι) (f : Header) (now : Time)
  /-- `SetNX`, at the gate of `Retransmit`. -/
  | claim (i : ι) (raw : Bytes) (now : Time) (fault : Option Fault)

namespace Command

variable {ι : Type}

/-- When the command is run. -/
def time : Command ι → Time
  | store _ _ _ now _ | retrieve _ _ now | claim _ _ now _ => now

def isStore : Command ι → Bool
  | store .. => true
  | _ => false

def isClaim : Command ι → Bool
  | claim .. => true
  | _ => false

end Command

namespace Deployment

variable {ι : Type}

/-- What is kept. -/
structure State (ι : Type) where
  /-- The keyspace of the Redis. -/
  redis : Redis
  /-- The frames in the memory of each endpoint; none with the Redis backend. -/
  frames : ι → Memory Bytes

variable (d : Deployment ι)

/-- The retransmitter of an endpoint. -/
def retransmitter (i : ι) : Retransmitter := (d.cfg i).retransmitter (d.clients i).redisCache

/-- The key that `SET NX` is sent for, when the frame has one. -/
def claimKey (i : ι) (raw : Bytes) : Option Bytes := (d.clients i).redisCache.map (·.redisKey (buildDedupKey raw))

/-- What a lookup finds. -/
def found (s : State ι) : Command ι → Option (Option Bytes)
  | .retrieve i f now =>
    match (d.clients i).frames with
    | some c => some (c.retrieve (frameKey f) now s.redis)
    | none => some ((s.frames i).retrieve (frameKey f) now)
  | _ => none

/-- What comes of a claim: whether the key was set, if `SET NX` is sent. -/
def verdict (s : State ι) : Command ι → Option Gate
  | .claim i raw now fault => some ((d.retransmitter i).gate raw now fault s.redis).1
  | _ => none

variable [DecidableEq ι]

/-- A command runs. -/
def step (s : State ι) : Command ι → State ι
  | .store i f value now pick =>
    let ttl := (d.cfg i).worker.ttl
    match (d.clients i).frames with
    | some c => { s with redis := c.store (frameKey f) value ttl now s.redis }
    | none => { s with frames := Function.update s.frames i ((s.frames i).store (frameKey f) value ttl now pick) }
  | .retrieve .. => s
  | .claim i raw now fault => { s with redis := ((d.retransmitter i).gate raw now fault s.redis).2 }

/-- The state after some commands. -/
def run (s : State ι) (cs : List (Command ι)) : State ι := runFrom d.step s cs

/-- What the lookups of a run find. -/
def lookups (s : State ι) (cs : List (Command ι)) : List (Option Bytes) := seen d.step d.found s cs

/-- What comes of the claims of a run. -/
def claims (s : State ι) (cs : List (Command ι)) : List Gate := seen d.step d.verdict s cs

/-! ### Clients and keys -/

omit [DecidableEq ι] in
theorem clients_eq (i : ι) : d.clients i = (d.cfg i).cacheBackend.clients d.client := by
  have hstart : start (d.ping i) (d.cfg i) = .ok ((d.cfg i).cacheBackend.clients d.client) :=
    start_of_reachable (d.redisAddr_eq i ▸ d.addr_ne) (d.redisAddr_eq i ▸ d.reachable i)
  exact Except.ok.inj ((d.started i).symm.trans hstart)

/-- The length of the keys of frames. -/
def IsFrameKey (k : Bytes) : Prop := k.length = 26

/-- The length of the keys of claims. -/
def IsClaimKey (k : Bytes) : Prop := k.length = 18

theorem IsFrameKey.not_isClaimKey {k : Bytes} (h : IsFrameKey k) : ¬ IsClaimKey k := by
  unfold IsFrameKey at h
  unfold IsClaimKey
  omega

/-- The key of a frame in the Redis is that of a frame, whoever looks. -/
theorem isFrameKey_framePrefix (client : RedisClient) (f : Header) :
    IsFrameKey (RedisCache.redisKey ⟨client, framePrefix⟩ (frameKey f)) := by
  rw [IsFrameKey, RedisCache.redisKey, List.length_append, length_frameKey]
  exact (by decide : framePrefix.length + 16 = 26)

variable {d}

omit [DecidableEq ι] in
theorem isFrameKey_redisKey {i : ι} {c : RedisCache} (hc : (d.clients i).frames = some c) (f : Header) :
    IsFrameKey (c.redisKey (frameKey f)) := by
  rw [clients_eq] at hc
  cases hb : (d.cfg i).cacheBackend with
  | redis =>
    rw [hb] at hc
    obtain rfl : ⟨d.client, framePrefix⟩ = c := Option.some.inj hc
    exact isFrameKey_framePrefix d.client f
  | memory =>
    rw [hb] at hc
    cases hc

omit [DecidableEq ι] in
/-- The client for claims, and the length of its prefix. -/
theorem redisCache_spec {i : ι} {c : RedisCache} (hc : (d.clients i).redisCache = some c) :
    c.client = d.client ∧ c.keyPrefix.length = 10 := by
  rw [clients_eq] at hc
  cases hb : (d.cfg i).cacheBackend with
  | redis =>
    rw [hb] at hc
    obtain rfl : ⟨d.client, framePrefix⟩ = c := Option.some.inj hc
    exact ⟨rfl, (by decide : framePrefix.length = 10)⟩
  | memory =>
    rw [hb] at hc
    obtain rfl : ⟨d.client, dedupPrefix⟩ = c := Option.some.inj hc
    exact ⟨rfl, (by decide : dedupPrefix.length = 10)⟩

omit [DecidableEq ι] in
theorem isClaimKey_redisKey {i : ι} {c : RedisCache} (hc : (d.clients i).redisCache = some c) {raw : Bytes}
    (h : 56 ≤ raw.length) : IsClaimKey (c.redisKey (buildDedupKey raw)) := by
  rw [IsClaimKey, RedisCache.redisKey, List.length_append, length_buildDedupKey h, (redisCache_spec hc).2]

omit [DecidableEq ι] in
theorem exists_redisCache (d : Deployment ι) (i : ι) : ∃ c, (d.clients i).redisCache = some c := by
  rw [clients_eq]
  cases (d.cfg i).cacheBackend with
  | redis => exact ⟨_, rfl⟩
  | memory => exact ⟨_, rfl⟩

/-! ### Frames and claims -/

omit [DecidableEq ι] in
/-- A claim leaves frames alone. -/
theorem gate_of_isFrameKey (i : ι) (raw : Bytes) (now : Time) (fault : Option Fault) (r : Redis) {k : Bytes}
    (hk : IsFrameKey k) : ((d.retransmitter i).gate raw now fault r).2 k = r k := by
  obtain ⟨c, hc⟩ := d.exists_redisCache i
  by_cases hlen : raw.length < 56
  · rw [Retransmitter.gate_of_short _ hlen]
  · refine Retransmitter.gate_redis_of_ne _ hc ?_ now fault r
    rintro rfl
    exact hk.not_isClaimKey (isClaimKey_redisKey hc (not_lt.mp hlen))

omit [DecidableEq ι] in
/-- Claims are decided by the keys of claims. -/
theorem gate_of_agreeOn (i : ι) (raw : Bytes) (now : Time) (fault : Option Fault) {r r' : Redis}
    (h : ExpMap.AgreeOn IsClaimKey r r') :
    ((d.retransmitter i).gate raw now fault r).1 = ((d.retransmitter i).gate raw now fault r').1 ∧
      ExpMap.AgreeOn IsClaimKey ((d.retransmitter i).gate raw now fault r).2
        ((d.retransmitter i).gate raw now fault r').2 := by
  obtain ⟨c, hc⟩ := d.exists_redisCache i
  by_cases hlen : raw.length < 56
  · rw [Retransmitter.gate_of_short _ hlen, Retransmitter.gate_of_short _ hlen]
    exact ⟨rfl, h⟩
  · have hlen : 56 ≤ raw.length := not_lt.mp hlen
    have hnx := c.setNX_of_agreeOn h (isClaimKey_redisKey hc hlen) (ascii ['1']) (d.retransmitter i).dedupWindow now
      fault
    rw [Retransmitter.gate_of_key _ hc hlen, Retransmitter.gate_of_key _ hc hlen]
    exact ⟨by simp only [hnx.1], hnx.2⟩

/-- A store leaves claims alone. -/
theorem store_of_isClaimKey (s : State ι) (i : ι) (f : Header) (value : Bytes) (now : Time) (pick : ℕ) {k : Bytes}
    (hk : IsClaimKey k) : (d.step s (.store i f value now pick)).redis k = s.redis k := by
  cases hc : (d.clients i).frames with
  | none => simp only [step, hc]
  | some c =>
    simp only [step, hc]
    refine c.store_of_ne ?_ ..
    rintro rfl
    exact (isFrameKey_redisKey hc f).not_isClaimKey hk

/-- The states have the same frames. -/
def SameFrames (s s' : State ι) : Prop := s.frames = s'.frames ∧ ExpMap.AgreeOn IsFrameKey s.redis s'.redis

omit [DecidableEq ι] in
theorem SameFrames.found {s s' : State ι} (h : SameFrames s s') (c : Command ι) : d.found s c = d.found s' c := by
  cases c with
  | retrieve i f now =>
    cases hc : (d.clients i).frames with
    | none => simp only [Deployment.found, hc, h.1]
    | some c => simp only [Deployment.found, hc, RedisCache.retrieve, h.2.get (isFrameKey_redisKey hc f) now]
  | store => rfl
  | claim => rfl

theorem SameFrames.step {s s' : State ι} (h : SameFrames s s') {c : Command ι} (hc : c.isClaim = false) :
    SameFrames (d.step s c) (d.step s' c) := by
  cases c with
  | retrieve => exact h
  | store i f value now pick =>
    cases hfr : (d.clients i).frames with
    | none =>
      simp only [Deployment.step, hfr]
      exact ⟨by rw [h.1], h.2⟩
    | some c =>
      simp only [Deployment.step, hfr]
      exact ⟨h.1, c.store_of_agreeOn h.2 (isFrameKey_redisKey hfr f) value _ now⟩
  | claim => cases hc

theorem SameFrames.claim {s s' : State ι} (h : SameFrames s s') {c : Command ι} (hc : c.isClaim = true) :
    SameFrames (d.step s c) s' := by
  cases c with
  | claim i raw now fault => exact ⟨h.1, h.2.skip fun _ hk => gate_of_isFrameKey i raw now fault s.redis hk⟩
  | store => cases hc
  | retrieve => cases hc

/-- The states have the same claims. -/
def SameClaims (s s' : State ι) : Prop := ExpMap.AgreeOn IsClaimKey s.redis s'.redis

theorem SameClaims.step {s s' : State ι} (h : SameClaims s s') {c : Command ι} (hc : c.isStore = false) :
    SameClaims (d.step s c) (d.step s' c) := by
  cases c with
  | claim i raw now fault => exact (gate_of_agreeOn i raw now fault h).2
  | retrieve => exact h
  | store => cases hc

theorem SameClaims.store {s s' : State ι} (h : SameClaims s s') {c : Command ι} (hc : c.isStore = true) :
    SameClaims (d.step s c) s' := by
  cases c with
  | store i f value now pick => exact ExpMap.AgreeOn.skip h fun _ hk => store_of_isClaimKey s i f value now pick hk
  | claim => cases hc
  | retrieve => cases hc

omit [DecidableEq ι] in
theorem SameClaims.verdict {s s' : State ι} (h : SameClaims s s') (c : Command ι) :
    d.verdict s c = d.verdict s' c := by
  cases c with
  | claim i raw now fault => exact congrArg some (gate_of_agreeOn i raw now fault h).1
  | store => rfl
  | retrieve => rfl

omit [DecidableEq ι] in
theorem found_of_isClaim {c : Command ι} (hc : c.isClaim = true) (s : State ι) : d.found s c = none := by
  cases c with
  | claim => rfl
  | store => rfl
  | retrieve => cases hc

omit [DecidableEq ι] in
theorem verdict_of_isStore {c : Command ι} (hc : c.isStore = true) (s : State ι) : d.verdict s c = none := by
  cases c with
  | store => rfl
  | retrieve => rfl
  | claim => cases hc

variable (d) in
/-- **Frames and claims are not in each other's way**: the lookups of a run find what they find
without its claims, and its claims are decided as they are without its stores. -/
theorem frames_claims_apart (s : State ι) (cs : List (Command ι)) :
    d.lookups s cs = d.lookups s (cs.filter fun c => !c.isClaim) ∧
      d.claims s cs = d.claims s (cs.filter fun c => !c.isStore) := by
  have hframes : SameFrames s s := ⟨rfl, .refl _ _⟩
  have hclaims : SameClaims s s := .refl _ _
  constructor
  · refine seen_filter (fun _ _ c h => h.found c) (fun _ _ c h hc => ?_) (fun _ _ c h hc => ?_) hframes cs
    · exact h.step (by simpa using hc)
    · have hclaim : c.isClaim = true := by simpa using hc
      exact ⟨found_of_isClaim hclaim _, h.claim hclaim⟩
  · refine seen_filter (fun _ _ c h => h.verdict c) (fun _ _ c h hc => ?_) (fun _ _ c h hc => ?_) hclaims cs
    · exact h.step (by simpa using hc)
    · have hstore : c.isStore = true := by simpa using hc
      exact ⟨verdict_of_isStore hstore _, h.store hstore⟩

/-! ### One namespace for claims -/

/-- The endpoint `j` does not send a frame that `i` has claimed, within the window of `i` and
whatever the endpoints do in between. -/
def Suppresses (d : Deployment ι) (i j : ι) : Prop :=
  ∀ (s : State ι) (raw : Bytes) (now : Time) (fault : Option Fault), 56 ≤ raw.length →
    d.verdict s (.claim i raw now fault) = some .claimed →
    ∀ (cs : List (Command ι)) (t : Time) (fault' : Option Fault), (∀ c ∈ cs, c.time ≤ t) →
      t < now + (d.cfg i).dedupWindow →
      d.verdict (d.run (d.step s (.claim i raw now fault)) cs) (.claim j raw t fault') = some .dropped

omit [DecidableEq ι] in
/-- A claim holds for the time of the window at least. -/
theorem heldUntil_gate {i : ι} (hR : d.client.ClaimsAtLeast (d.cfg i).dedupWindow) {c : RedisCache}
    (hc : (d.clients i).redisCache = some c) {raw : Bytes} (hlen : 56 ≤ raw.length) {now : Time}
    {fault : Option Fault} {r : Redis} (h : ((d.retransmitter i).gate raw now fault r).1 = .claimed) :
    ExpMap.HeldUntil ((d.retransmitter i).gate raw now fault r).2 (c.redisKey (buildDedupKey raw))
      (now + (d.cfg i).dedupWindow) := by
  rw [Retransmitter.gate_of_key _ hc hlen] at h ⊢
  have hset : (c.setNX (buildDedupKey raw) (ascii ['1']) (d.retransmitter i).dedupWindow now fault r).1 = true := by
    by_contra hno
    rw [if_neg hno] at h
    cases h
  obtain ⟨rfl, ⟨stop, hstop⟩, -⟩ := (c.setNX_eq_true_iff ..).mp hset
  rw [c.setNX_of_accepted hstop] at hset ⊢
  refine ExpMap.heldUntil_setNX (fun e he => ?_) hset
  rw [(redisCache_spec hc).1] at hstop
  exact hR now stop hstop e he

omit [DecidableEq ι] in
/-- A key that is held is not claimed. -/
theorem gate_of_heldUntil {i : ι} {c : RedisCache} (hc : (d.clients i).redisCache = some c) {raw : Bytes}
    (hlen : 56 ≤ raw.length) {stop t : Time} {r : Redis} (h : r.HeldUntil (c.redisKey (buildDedupKey raw)) stop)
    (ht : t < stop) (fault : Option Fault) : ((d.retransmitter i).gate raw t fault r).1 = .dropped := by
  obtain ⟨y, hy, hlive⟩ := h
  rw [Retransmitter.gate_of_key _ hc hlen]
  refine if_neg fun hset => ?_
  obtain ⟨-, -, hget⟩ := (c.setNX_eq_true_iff ..).mp hset
  simp [ExpMap.get, hy, hlive t ht] at hget

/-- No command ends a claim before its time. -/
theorem heldUntil_step {s : State ι} {k : Bytes} (hk : IsClaimKey k) {stop : Time} (h : s.redis.HeldUntil k stop)
    {c : Command ι} (hc : c.time < stop) : (d.step s c).redis.HeldUntil k stop := by
  cases c with
  | store i f value now pick =>
    obtain ⟨y, hy, hlive⟩ := h
    exact ⟨y, (store_of_isClaimKey s i f value now pick hk).trans hy, hlive⟩
  | retrieve => exact h
  | claim i raw now fault =>
    obtain ⟨client, hclient⟩ := d.exists_redisCache i
    by_cases hlen : raw.length < 56
    · simp only [step, Retransmitter.gate_of_short _ hlen]
      exact h
    · simp only [step, (d.retransmitter i).gate_of_key hclient (not_lt.mp hlen)]
      exact client.heldUntil_setNX h _ _ _ hc fault

theorem suppresses_of_redisCache_eq {i j : ι} (hR : d.client.ClaimsAtLeast (d.cfg i).dedupWindow)
    (h : (d.clients i).redisCache = (d.clients j).redisCache) :
    d.Suppresses i j := by
  intro s raw now fault hlen hclaimed cs t fault' hcs ht
  obtain ⟨c, hc⟩ := d.exists_redisCache i
  have hgrant : ((d.retransmitter i).gate raw now fault s.redis).1 = .claimed := Option.some.inj hclaimed
  have hheld : (d.run (d.step s (.claim i raw now fault)) cs).redis.HeldUntil (c.redisKey (buildDedupKey raw))
      (now + (d.cfg i).dedupWindow) := by
    refine Along.invariant (I := fun s : State ι => s.redis.HeldUntil _ _) (heldUntil_gate hR hc hlen hgrant)
      (fun _ _ hs hq => ?_) (along_of_forall hcs)
    exact heldUntil_step (isClaimKey_redisKey hc hlen) hs (lt_of_le_of_lt hq ht)
  exact congrArg some (gate_of_heldUntil (h ▸ hc) hlen hheld ht fault')

omit [DecidableEq ι] in
/-- The prefixes differ, so the keys tell the backends apart. -/
theorem claimKey_eq_iff {i j : ι} {raw : Bytes} :
    d.claimKey i raw = d.claimKey j raw ↔ (d.cfg i).cacheBackend = (d.cfg j).cacheBackend := by
  simp only [claimKey, clients_eq]
  constructor
  · intro h
    have hne : framePrefix ≠ dedupPrefix := by decide
    generalize (d.cfg i).cacheBackend = backend, (d.cfg j).cacheBackend = backend' at h
    match backend, backend' with
    | .redis, .redis | .memory, .memory => rfl
    | .redis, .memory => exact absurd (List.append_cancel_right (Option.some.inj h)) hne
    | .memory, .redis => exact absurd (List.append_cancel_right (Option.some.inj h)) hne.symm
  · intro h
    rw [h]

variable (d) in
/-- **Two endpoints have one namespace for claims exactly when they have the same backend**:
then they claim a frame under one key, and neither sends what the other has claimed. A key that `SET NX`
sets is assumed to be kept for the window of the endpoint at least. -/
theorem one_namespace_iff (i j : ι) (hi : d.client.ClaimsAtLeast (d.cfg i).dedupWindow)
    (hj : d.client.ClaimsAtLeast (d.cfg j).dedupWindow) :
    (∀ raw : Bytes, 56 ≤ raw.length → d.claimKey i raw = d.claimKey j raw) ∧ d.Suppresses i j ∧ d.Suppresses j i ↔
      (d.cfg i).cacheBackend = (d.cfg j).cacheBackend := by
  constructor
  · rintro ⟨hkeys, -, -⟩
    exact claimKey_eq_iff.mp (hkeys (List.replicate 56 0) (by simp))
  · intro h
    have hcache : (d.clients i).redisCache = (d.clients j).redisCache := by rw [clients_eq, clients_eq, h]
    exact ⟨fun _ _ => claimKey_eq_iff.mpr h, suppresses_of_redisCache_eq hi hcache,
      suppresses_of_redisCache_eq hj hcache.symm⟩

/-- Two endpoints with the default settings and these backends. -/
def pair (backend : Bool → CacheBackend) : Deployment Bool where
  addr := "localhost:6379"
  addr_ne := by decide
  cfg i := defaultConfig { redisAddr := "localhost:6379" } (backend i)
  accepted i := ⟨_, _, load_defaults _ (backend i)⟩
  redisAddr_eq _ := rfl
  client := msClient
  ping _ _ := .ok msClient
  reachable _ := rfl
  clients i := (backend i).clients msClient
  started _ := start_of_reachable (by decide : "localhost:6379" ≠ "") rfl

theorem claimsAtLeast_pair (backend : Bool → CacheBackend) (i : Bool) :
    (pair backend).client.ClaimsAtLeast ((pair backend).cfg i).dedupWindow := by
  have hfor : msClient.ClaimsFor (60 * second) := claimsFor_msClient (by decide) (by decide)
  exact hfor.atLeast

/-- With the memory backend on both, neither sends what the other has claimed. -/
theorem one_namespace_of_memory :
    (pair fun _ => .memory).Suppresses true false ∧ (pair fun _ => .memory).Suppresses false true :=
  ((one_namespace_iff (pair fun _ => .memory) true false (claimsAtLeast_pair _ _) (claimsAtLeast_pair _ _)).mpr rfl).2

/-- With one backend of each kind, both endpoints claim the frame, one millisecond apart and under
a key of their own. -/
theorem mixed_claims_twice :
    let d := pair fun i => if i then .redis else .memory
    let raw : Bytes := List.replicate 56 0
    let s : State Bool := ⟨ExpMap.empty, fun _ => .new Bytes 0⟩
    d.claimKey true raw ≠ d.claimKey false raw ∧
      d.claims s [.claim true raw 0 none, .claim false raw millisecond none] = [.claimed, .claimed] := by
  decide

end Deployment

end RetryEndpoint
