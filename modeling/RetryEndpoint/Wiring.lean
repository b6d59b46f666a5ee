import RetryEndpoint.Config
import RetryEndpoint.Ingress.Worker
import RetryEndpoint.NackServer.Process
import RetryEndpoint.Retransmit.Retransmitter
import Mathlib.Data.List.Dedup

/-!
# How an endpoint is put together

`main.go`, `run`: what the components of an endpoint are built from, given a configuration
that `Load` has accepted.

## The model

`start` is `run` up to the point where the components are built. Frames are in the Redis or
in the process, by the backend; claims are in the Redis whenever there is one. The two uses
of Redis have a client each with a prefix of its own, except with the Redis backend, where
one client serves both. `ping` says what `redis.New` makes of an address: a client, or the error of its
check of the connection. The recorder is always there.

## What is proved

* `start_of_reachable` — an endpoint whose Redis answers claims frames with the prefix of its
  backend, and keeps them there with the Redis backend only.
-/

namespace RetryEndpoint

open Go Cache ShardCommon

namespace Config

variable (cfg : Config)

/-- The engine, `shard.New(cfg.MCPrefix, cfg.MCGroupID, cfg.ShardBits)`. -/
def engine : Engine := ⟨cfg.mcPrefix, cfg.mcGroupID, cfg.shardBits.val⟩

/-- The limits that are passed to `ratelimit.New`. -/
def limits : RateLimit.Config where
  ipRate := cfg.rlIPRate
  ipBurst := cfg.rlIPBurst
  senderRate := cfg.rlSenderRate
  senderWindow := cfg.rlSenderWindow
  chainRate := cfg.rlChainRate
  chainWindow := cfg.rlChainWindow
  sequenceMax := cfg.rlSequenceMax
  sequenceWindow := cfg.rlSequenceWindow
  groupRate := cfg.rlGroupRate
  groupBurst := cfg.rlGroupBurst

/-- The retransmitter after `Open`: a socket for each name. -/
def retransmitter (redisCache : Option RedisCache) : Retransmit.Retransmitter where
  engine := cfg.engine
  sockets := (cfg.egressIfaces.map bytesOf).dedup
  nodup := List.nodup_dedup _
  egressPort := cfg.egressPort
  dedupWindow := cfg.dedupWindow
  redisCache := redisCache
  recorder := true

/-- The NACK server, with its setters called. -/
def server : NackServer.Server where
  suppressACK := cfg.suppressACK
  suppressMISS := cfg.suppressMISS
  shardEngine := some cfg.engine
  recorder := true

/-- The ingress worker. -/
def worker : Ingress.Worker := ⟨cfg.cacheTTL, true⟩

theorem sockets_retransmitter_ne_nil {env : Env} {f : Flags} {cfg : Config} (h : load env f = .ok cfg)
    (redisCache : Option RedisCache) : (cfg.retransmitter redisCache).sockets ≠ [] := by
  obtain ⟨name, hname⟩ := List.exists_mem_of_ne_nil _ (load_spec h).2.2
  exact List.ne_nil_of_mem (List.mem_dedup.mpr (List.mem_map_of_mem hname))

end Config

/-- The key prefix of the client that keeps frames. -/
def framePrefix : Bytes := bytesOf "bre:frame:"

/-- The key prefix of the client that is there for claims only. -/
def dedupPrefix : Bytes := bytesOf "bre:dedup:"

/-- The clients of an endpoint. -/
structure Clients where
  /-- Where frames are kept; in the process, if there is none. -/
  frames : Option RedisCache
  /-- Where frames are claimed, if there is one. -/
  redisCache : Option RedisCache

/-- The part of `run` that builds the cache and the client for claims. -/
def start (ping : String → Except Err RedisClient) (cfg : Config) : Except Err Clients :=
  match cfg.cacheBackend with
  | .redis =>
    if cfg.redisAddr = "" then .error "REDIS_ADDR required when CACHE_BACKEND=redis"
    else match ping cfg.redisAddr with
      | .error err => .error ("redis ping failed: " ++ err)
      | .ok client => .ok ⟨some ⟨client, framePrefix⟩, some ⟨client, framePrefix⟩⟩
  | .memory =>
    if cfg.redisAddr ≠ "" then
      match ping cfg.redisAddr with
      -- only logged: the endpoint runs without claims
      | .error _ => .ok ⟨none, none⟩
      | .ok client => .ok ⟨none, some ⟨client, dedupPrefix⟩⟩
    else .ok ⟨none, none⟩

/-- The clients for a Redis that answers. -/
def Config.CacheBackend.clients (client : RedisClient) : Config.CacheBackend → Clients
  | .redis => ⟨some ⟨client, framePrefix⟩, some ⟨client, framePrefix⟩⟩
  | .memory => ⟨none, some ⟨client, dedupPrefix⟩⟩

theorem start_of_reachable {ping : String → Except Err RedisClient} {cfg : Config} (haddr : cfg.redisAddr ≠ "")
    {client : RedisClient} (hping : ping cfg.redisAddr = .ok client) :
    start ping cfg = .ok (cfg.cacheBackend.clients client) := by
  cases hb : cfg.cacheBackend with
  | redis => simp [start, hb, haddr, hping, Config.CacheBackend.clients]
  | memory => simp [start, hb, haddr, hping, Config.CacheBackend.clients]

end RetryEndpoint
