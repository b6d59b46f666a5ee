import RetryEndpoint.Wiring

/-!
# The values of the flags

`config/config.go`, `Load` up to `flag.Parse`: each flag has a default in the source, which an
environment variable overrides, which the command line overrides.

## The model

`Sources` has the command line, the environment and the parsers of the standard library. A
variable that is empty, or that does not parse, is as one that is not there; a flag that does
not parse ends the process. The `env` functions and the kinds of flags of the source differ in
their parsers only. An integer flag is read by `ParseInt` with base 0, and its variable by
`Atoi`. `uint(envInt(…))` wraps around.

A flag `isSet` to what the command line says or, failing that, its variable.

## What is proved

* `limits_of_load` — the limits an endpoint is built with are those of the flags.
* `aliases_take_effect_iff` — the aliases of the chain limits have no effect: they are overruled
  by the defaults of what they stand for. The limits themselves have theirs, unless the rate is too large
  for an `int`.
-/

namespace RetryEndpoint.Config

open Go

/-- Where the flags get their values from. -/
structure Sources where
  /-- The text a flag has on the command line, if it is there. -/
  args : String → Option String
  /-- `os.Getenv`. -/
  getenv : String → String
  /-- `strconv.Atoi`. -/
  atoi : String → Option ℤ
  /-- `strconv.ParseInt(s, 0, strconv.IntSize)`. -/
  parseInt : String → Option ℤ
  /-- `strconv.ParseUint(s, 0, strconv.IntSize)`. -/
  parseUint : String → Option ℕ
  /-- `strconv.ParseBool`. -/
  parseBool : String → Option Bool
  /-- `strconv.ParseFloat(s, 64)`. -/
  parseFloat : String → Option ℚ
  /-- `time.ParseDuration`. -/
  parseDuration : String → Option Duration

namespace Sources

variable (E : Sources)

section

variable {α : Type}

/-- The value of a variable, or the default. -/
def env (parse : String → Option α) (key : String) (dflt : α) : α :=
  let v := E.getenv key
  if v ≠ "" then
    match parse v with
    | some x => x
    | none => dflt
  else dflt

/-- The value of a flag; none is the end of the process. -/
def flag (parse : String → Option α) (name : String) (dflt : α) : Option α :=
  match E.args name with
  | some s => parse s
  | none => some dflt

/-- What a flag is set to by the command line or by its variable, if it is. -/
def isSet (parse : String → Option α) (name key : String) : Option α :=
  match E.args name with
  | some s => parse s
  | none => if E.getenv key ≠ "" then parse (E.getenv key) else none

/-- A flag has the value that it is set to, or its default. -/
theorem flag_env {parse : String → Option α} {name key : String} {dflt x : α}
    (h : E.flag parse name (E.env parse key dflt) = some x) : x = (E.isSet parse name key).getD dflt := by
  unfold flag at h
  unfold isSet
  cases hargs : E.args name with
  | some s =>
    simp only [hargs] at h
    simp [h]
  | none =>
    simp only [hargs, Option.some.injEq] at h
    rw [← h, env]
    split_ifs
    · cases parse (E.getenv key) <;> rfl
    · rfl

end

/-- `envStr`. -/
def envStr (key dflt : String) : String := E.env some key dflt

/-- `envInt`. -/
def envInt (key : String) (dflt : ℤ) : ℤ := E.env E.atoi key dflt

/-- `envBool`. -/
def envBool (key : String) (dflt : Bool) : Bool := E.env E.parseBool key dflt

/-- `envFloat`. -/
def envFloat (key : String) (dflt : ℚ) : ℚ := E.env E.parseFloat key dflt

/-- `envDuration`. -/
def envDuration (key : String) (dflt : Duration) : Duration := E.env E.parseDuration key dflt

/-- `uint(n)`. -/
def uint (n : ℤ) : ℕ := (n % 2 ^ 64).toNat

/-- The flags of the rate limiter. -/
def parseLimits : Option RateLimit.Config := do
  let ipRate ← E.flag E.parseFloat "rl-ip-rate" (E.envFloat "RL_IP_RATE" 100)
  let ipBurst ← E.flag E.parseInt "rl-ip-burst" (E.envInt "RL_IP_BURST" 10)
  let senderRate ← E.flag E.parseFloat "rl-sender-rate" (E.envFloat "RL_SENDER_RATE" 0)
  let senderWindow ← E.flag E.parseDuration "rl-sender-window" (E.envDuration "RL_SENDER_WINDOW" 0)
  let chainRate ← E.flag E.parseFloat "rl-chain-rate" (E.envFloat "RL_CHAIN_RATE" 500)
  let chainWindow ← E.flag E.parseDuration "rl-chain-window" (E.envDuration "RL_CHAIN_WINDOW" RateLimit.minute)
  let sequenceMax ← E.flag E.parseInt "rl-sequence-max" (E.envInt "RL_SEQUENCE_MAX" 100)
  let sequenceWindow ← E.flag E.parseDuration "rl-sequence-window" (E.envDuration "RL_SEQUENCE_WINDOW" RateLimit.minute)
  let groupRate ← E.flag E.parseFloat "rl-group-rate" (E.envFloat "RL_GROUP_RATE" 200)
  let groupBurst ← E.flag E.parseInt "rl-group-burst" (E.envInt "RL_GROUP_BURST" 50)
  return ⟨ipRate, ipBurst, senderRate, senderWindow, chainRate, chainWindow, sequenceMax, sequenceWindow, groupRate,
    groupBurst⟩

/-- The flags that `Load` passes on as they are. -/
def parseSettings : Option Settings := do
  let listenPort ← E.flag E.parseInt "listen-port" (E.envInt "LISTEN_PORT" 9001)
  let redisAddr ← E.flag some "redis-addr" (E.envStr "REDIS_ADDR" "")
  let cacheTTL ← E.flag E.parseDuration "cache-ttl" (E.envDuration "CACHE_TTL" (60 * second))
  let cacheMaxKeys ← E.flag E.parseInt "cache-max-keys" (E.envInt "CACHE_MAX_KEYS" 0)
  let nackPort ← E.flag E.parseInt "nack-port" (E.envInt "NACK_PORT" 9300)
  let egressPort ← E.flag E.parseInt "egress-port" (E.envInt "EGRESS_PORT" 9001)
  let dedupWindow ← E.flag E.parseDuration "dedup-window" (E.envDuration "DEDUP_WINDOW" (60 * second))
  let limits ← E.parseLimits
  let subtreeDataEnabled ← E.flag E.parseBool "subtree-data-enabled" (E.envBool "SUBTREE_DATA_ENABLED" false)
  let drainTimeout ← E.flag E.parseDuration "drain-timeout" (E.envDuration "DRAIN_TIMEOUT" 0)
  let suppressACK ← E.flag E.parseBool "suppress-ack" (E.envBool "SUPPRESS_ACK" false)
  let suppressMISS ← E.flag E.parseBool "suppress-miss" (E.envBool "SUPPRESS_MISS" false)
  return {
    listenPort := listenPort, redisAddr, cacheTTL, cacheMaxKeys, nackPort, egressPort, dedupWindow
    rlIPRate := limits.ipRate, rlIPBurst := limits.ipBurst
    rlSenderRate := limits.senderRate, rlSenderWindow := limits.senderWindow
    rlChainRate := limits.chainRate, rlChainWindow := limits.chainWindow
    rlSequenceMax := limits.sequenceMax, rlSequenceWindow := limits.sequenceWindow
    rlGroupRate := limits.groupRate, rlGroupBurst := limits.groupBurst
    drainTimeout, subtreeDataEnabled, suppressACK, suppressMISS }

/-- `Load` up to `flag.Parse`. -/
def parse (numCPU : ℕ) : Option Flags := do
  let settings ← E.parseSettings
  let cacheBackend ← E.flag some "cache-backend" (E.envStr "CACHE_BACKEND" "memory")
  let nackWorkers ← E.flag E.parseInt "nack-workers" (E.envInt "NACK_WORKERS" numCPU)
  let egressIface ← E.flag some "egress-iface" (E.envStr "EGRESS_IFACE" "eth0")
  let mcScope ← E.flag some "scope" (E.envStr "MC_SCOPE" "site")
  let mcGroupID ← E.flag some "mc-group-id" (E.envStr "MC_GROUP_ID" "0x000B")
  let shardBits ← E.flag E.parseUint "shard-bits" (uint (E.envInt "SHARD_BITS" 8))
  let beaconTier ← E.flag E.parseUint "beacon-tier" (uint (E.envInt "BEACON_TIER" 0))
  let beaconPreference ← E.flag E.parseUint "beacon-preference" (uint (E.envInt "BEACON_PREFERENCE" 128))
  let beaconInterval ← E.flag E.parseDuration "beacon-interval" (E.envDuration "BEACON_INTERVAL" (60 * second))
  let beaconScope ← E.flag some "beacon-scope" (E.envStr "BEACON_SCOPE" "site")
  let beaconNACKAddr ← E.flag some "nack-addr" (E.envStr "NACK_ADDR" "")
  return { settings with
    shardBits, mcScope, mcGroupID, cacheBackend, nackWorkers, egressIface, beaconTier, beaconPreference, beaconInterval
    beaconScope, beaconNACKAddr }

/-! ### What the limits are -/

variable {E}

theorem parseSettings_of_parse {numCPU : ℕ} {f : Flags} (h : E.parse numCPU = some f) :
    E.parseSettings = some f.toSettings := by
  unfold parse at h
  obtain ⟨settings, hs, h⟩ := Option.bind_eq_some_iff.mp h
  iterate 11 obtain ⟨_, -, h⟩ := Option.bind_eq_some_iff.mp h
  obtain rfl := Option.some.inj h
  exact hs

theorem parseLimits_of_parseSettings {s : Settings} (h : E.parseSettings = some s) :
    E.parseLimits = some ⟨s.rlIPRate, s.rlIPBurst, s.rlSenderRate, s.rlSenderWindow, s.rlChainRate, s.rlChainWindow,
      s.rlSequenceMax, s.rlSequenceWindow, s.rlGroupRate, s.rlGroupBurst⟩ := by
  unfold parseSettings at h
  iterate 7 obtain ⟨_, -, h⟩ := Option.bind_eq_some_iff.mp h
  obtain ⟨limits, hl, h⟩ := Option.bind_eq_some_iff.mp h
  iterate 4 obtain ⟨_, -, h⟩ := Option.bind_eq_some_iff.mp h
  obtain rfl := Option.some.inj h
  exact hl

/-- **The limits that an endpoint is built with** are those of the flags. -/
theorem limits_of_load {env : Config.Env} {f : Flags} {cfg : Config} (hf : E.parse env.numCPU = some f)
    (h : load env f = .ok cfg) : E.parseLimits = some cfg.limits := by
  have hs := parseSettings_of_parse hf
  rw [← (load_spec h).1] at hs
  exact parseLimits_of_parseSettings hs

/-- The chain limits, by what the flags are set to. -/
theorem chain_limits_of_parse {cfg : RateLimit.Config} (h : E.parseLimits = some cfg) :
    cfg.chainRate = (E.isSet E.parseFloat "rl-chain-rate" "RL_CHAIN_RATE").getD 500 ∧
      cfg.chainWindow = (E.isSet E.parseDuration "rl-chain-window" "RL_CHAIN_WINDOW").getD RateLimit.minute := by
  unfold parseLimits at h
  iterate 4 obtain ⟨_, -, h⟩ := Option.bind_eq_some_iff.mp h
  obtain ⟨chainRate, hrate, h⟩ := Option.bind_eq_some_iff.mp h
  obtain ⟨chainWindow, hwindow, h⟩ := Option.bind_eq_some_iff.mp h
  iterate 4 obtain ⟨_, -, h⟩ := Option.bind_eq_some_iff.mp h
  obtain rfl := Option.some.inj h
  exact ⟨E.flag_env hrate, E.flag_env hwindow⟩

/-- A rate that is not zero is used, whatever the alias is. -/
theorem chain_max_of_ne_zero (D : RateLimit.Deps) {cfg : RateLimit.Config} (h : cfg.chainRate ≠ 0) :
    (RateLimit.newLimiter D cfg).chainLimiter.max =
      if toInt D.otherInt cfg.chainRate ≤ 0 then 500 else toInt D.otherInt cfg.chainRate := by
  have heff : cfg.effectiveChainRate = cfg.chainRate := if_neg fun hz => h hz.1
  simp only [RateLimit.newLimiter, RateLimit.newWindowLimiter, heff]

/-- A rate of at least one has its integer part for a limit, exactly if that is an `int`. -/
theorem chain_max_eq_floor_iff (D : RateLimit.Deps) {cfg : RateLimit.Config} (h : 1 ≤ cfg.chainRate) :
    (RateLimit.newLimiter D cfg).chainLimiter.max = ⌊cfg.chainRate⌋ ↔ cfg.chainRate < 2 ^ 63 := by
  have hpos : (1 : ℤ) ≤ ⌊cfg.chainRate⌋ := Int.le_floor.mpr (by exact_mod_cast h)
  rw [chain_max_of_ne_zero D (zero_lt_one.trans_le h).ne']
  constructor
  · intro hmax
    by_contra hlarge
    have hlarge : 2 ^ 63 ≤ cfg.chainRate := not_lt.mp hlarge
    have hfloor : (2 : ℤ) ^ 63 ≤ ⌊cfg.chainRate⌋ := Int.le_floor.mpr (by exact_mod_cast hlarge)
    have hlt := toInt_lt D.otherInt hlarge
    split_ifs at hmax <;> omega
  · intro hlt
    rw [toInt_of_nonneg D.otherInt (zero_le_one.trans h) hlt]
    exact if_neg (by omega)

/-- So is a window that is positive. -/
theorem chain_window_of_pos (D : RateLimit.Deps) {cfg : RateLimit.Config} (h : 0 < cfg.chainWindow) :
    (RateLimit.newLimiter D cfg).chainLimiter.window = cfg.chainWindow := by
  have hw : ¬ cfg.chainWindow ≤ 0 := not_le.mpr h
  simp only [RateLimit.newLimiter, RateLimit.newWindowLimiter, RateLimit.Config.effectiveChainWindow, hw, false_and,
    if_false]

/-! ### The aliases -/

variable (E) in
/-- The chain limiter has what the aliases, or what they stand for, are set to. -/
structure AliasesTakeEffect (D : RateLimit.Deps) (cfg : Config) : Prop where
  /-- The alias of the rate. -/
  rate : ∀ r, E.isSet E.parseFloat "rl-sender-rate" "RL_SENDER_RATE" = some r → 1 ≤ r →
    E.isSet E.parseFloat "rl-chain-rate" "RL_CHAIN_RATE" = none →
      (RateLimit.newLimiter D cfg.limits).chainLimiter.max = ⌊r⌋
  /-- The alias of the window. -/
  window : ∀ w, E.isSet E.parseDuration "rl-sender-window" "RL_SENDER_WINDOW" = some w → 0 < w →
    E.isSet E.parseDuration "rl-chain-window" "RL_CHAIN_WINDOW" = none →
      (RateLimit.newLimiter D cfg.limits).chainLimiter.window = w
  /-- The rate itself. -/
  canonical_rate : ∀ r, E.isSet E.parseFloat "rl-chain-rate" "RL_CHAIN_RATE" = some r → 1 ≤ r →
    (RateLimit.newLimiter D cfg.limits).chainLimiter.max = ⌊r⌋
  /-- The window itself. -/
  canonical_window : ∀ w, E.isSet E.parseDuration "rl-chain-window" "RL_CHAIN_WINDOW" = some w → 0 < w →
    (RateLimit.newLimiter D cfg.limits).chainLimiter.window = w

/-- **The aliases take effect exactly if they say what the defaults of the chain limits say**, and the
chain limits themselves if the rate is in the range of `int`. A chain limit that is not set is not zero but has
its default, and so is never replaced. -/
theorem aliases_take_effect_iff {env : Config.Env} {f : Flags} {cfg : Config} (hf : E.parse env.numCPU = some f)
    (h : load env f = .ok cfg) (D : RateLimit.Deps) :
    E.AliasesTakeEffect D cfg ↔
      (∀ r, E.isSet E.parseFloat "rl-sender-rate" "RL_SENDER_RATE" = some r → 1 ≤ r →
        E.isSet E.parseFloat "rl-chain-rate" "RL_CHAIN_RATE" = none → ⌊r⌋ = 500) ∧
      (∀ w, E.isSet E.parseDuration "rl-sender-window" "RL_SENDER_WINDOW" = some w → 0 < w →
        E.isSet E.parseDuration "rl-chain-window" "RL_CHAIN_WINDOW" = none → w = RateLimit.minute) ∧
      ∀ r, E.isSet E.parseFloat "rl-chain-rate" "RL_CHAIN_RATE" = some r → 1 ≤ r → r < 2 ^ 63 := by
  obtain ⟨hrate, hwindow⟩ := chain_limits_of_parse (limits_of_load hf h)
  have hmax {r : ℚ} (hr : cfg.limits.chainRate = r) (hone : 1 ≤ r) :
      (RateLimit.newLimiter D cfg.limits).chainLimiter.max = ⌊r⌋ ↔ r < 2 ^ 63 :=
    hr ▸ chain_max_eq_floor_iff D (hr ▸ hone)
  have hwin {w : Duration} (hw : cfg.limits.chainWindow = w) (hpos : 0 < w) :
      (RateLimit.newLimiter D cfg.limits).chainLimiter.window = w := hw ▸ chain_window_of_pos D (hw ▸ hpos)
  have hmax₀ (hnone : E.isSet E.parseFloat "rl-chain-rate" "RL_CHAIN_RATE" = none) :
      (RateLimit.newLimiter D cfg.limits).chainLimiter.max = 500 := by
    rw [(hmax (by rw [hrate, hnone]; rfl) (by norm_num : (1 : ℚ) ≤ 500)).mpr (by norm_num)]
    norm_num
  have hwin₀ (hnone : E.isSet E.parseDuration "rl-chain-window" "RL_CHAIN_WINDOW" = none) :
      (RateLimit.newLimiter D cfg.limits).chainLimiter.window = RateLimit.minute :=
    hwin (by rw [hwindow, hnone]; rfl) (by decide)
  constructor
  · intro ha
    refine ⟨fun r hr hone hnone => ?_, fun w hw hpos hnone => ?_, fun r hr hone => ?_⟩
    · rw [← ha.rate r hr hone hnone, hmax₀ hnone]
    · rw [← ha.window w hw hpos hnone, hwin₀ hnone]
    · exact (hmax (by rw [hrate, hr]; rfl) hone).mp (ha.canonical_rate r hr hone)
  · rintro ⟨hr, hw, hfits⟩
    exact
      { rate := fun r hset hone hnone => by rw [hmax₀ hnone, hr r hset hone hnone]
        window := fun w hset hpos hnone => by rw [hwin₀ hnone, hw w hset hpos hnone]
        canonical_rate := fun r hset hone => (hmax (by rw [hrate, hset]; rfl) hone).mpr (hfits r hset hone)
        canonical_window := fun w hset hpos => hwin (by rw [hwindow, hset]; rfl) hpos }

/-- An empty command line, and an environment with `RL_SENDER_RATE` only. -/
def senderRate (text : String) (r : ℚ) : Sources where
  args _ := none
  getenv key := if key = "RL_SENDER_RATE" then text else ""
  atoi _ := none
  parseInt _ := none
  parseUint _ := none
  parseBool _ := none
  parseFloat s := if s = text then some r else none
  parseDuration _ := none

theorem parse_senderRate (text : String) (ht : text ≠ "") (r : ℚ) :
    (senderRate text r).parse 4 = some (defaults { rlSenderRate := r } .memory) := by
  have hargs (name : String) : (senderRate text r).args name = none := rfl
  have henv {α : Type} (parse : String → Option α) {key : String} (hkey : key ≠ "RL_SENDER_RATE") (dflt : α) :
      (senderRate text r).env parse key dflt = dflt := by simp [env, senderRate, hkey]
  have hrate : (senderRate text r).envFloat "RL_SENDER_RATE" 0 = r := by simp [envFloat, env, senderRate, ht]
  simp only [parse, parseSettings, parseLimits, flag, hargs, hrate]
  simp [envInt, envStr, envBool, envFloat, envDuration, henv, uint, defaults, CacheBackend.name]

theorem isSet_senderRate (text : String) (ht : text ≠ "") (r : ℚ) :
    (senderRate text r).isSet (senderRate text r).parseFloat "rl-sender-rate" "RL_SENDER_RATE" = some r ∧
      (senderRate text r).isSet (senderRate text r).parseFloat "rl-chain-rate" "RL_CHAIN_RATE" = none ∧
      (senderRate text r).isSet (senderRate text r).parseDuration "rl-sender-window" "RL_SENDER_WINDOW" = none := by
  simp [isSet, senderRate, ht]

/-- An alias that says what the default says. -/
theorem aliases_take_effect_at_default :
    (senderRate "500" 500).parse oneInterface.numCPU = some (defaults { rlSenderRate := 500 } .memory) ∧
      (senderRate "500" 500).AliasesTakeEffect RateLimit.countdown (defaultConfig { rlSenderRate := 500 } .memory) := by
  have hf : (senderRate "500" 500).parse oneInterface.numCPU = some (defaults { rlSenderRate := 500 } .memory) :=
    parse_senderRate "500" (by decide) 500
  obtain ⟨hsender, hchain, hwindow⟩ := isSet_senderRate "500" (by decide) 500
  refine ⟨hf, (aliases_take_effect_iff hf (load_defaults ..) _).mpr
    ⟨fun r hr _ _ => ?_, fun w hw => ?_, fun r hr => ?_⟩⟩
  · rw [hsender] at hr
    rw [← Option.some.inj hr]
    norm_num
  · rw [hwindow] at hw
    cases hw
  · rw [hchain] at hr
    cases hr

/-- `RL_SENDER_RATE=10` is set, `RL_CHAIN_RATE` is not, and the limiter lets 500 requests through. -/
theorem alias_overruled :
    (senderRate "10" 10).parse oneInterface.numCPU = some (defaults { rlSenderRate := 10 } .memory) ∧
      load oneInterface (defaults { rlSenderRate := 10 } .memory) = .ok (defaultConfig { rlSenderRate := 10 } .memory) ∧
      (RateLimit.newLimiter RateLimit.countdown
        (defaultConfig { rlSenderRate := 10 } .memory).limits).chainLimiter.max = 500 ∧
      ¬ (senderRate "10" 10).AliasesTakeEffect RateLimit.countdown (defaultConfig { rlSenderRate := 10 } .memory) := by
  have hmax : (RateLimit.newLimiter RateLimit.countdown
      (defaultConfig { rlSenderRate := 10 } .memory).limits).chainLimiter.max = 500 := by
    rw [(chain_max_eq_floor_iff _ (by norm_num [limits, defaultConfig])).mpr (by norm_num [limits, defaultConfig])]
    norm_num [limits, defaultConfig]
  refine ⟨parse_senderRate "10" (by decide) 10, load_defaults .., hmax, fun h => ?_⟩
  obtain ⟨hsender, hchain, -⟩ := isSet_senderRate "10" (by decide) 10
  have hten := h.rate 10 hsender (by norm_num) hchain
  rw [hmax] at hten
  norm_num at hten

end Sources

end RetryEndpoint.Config
