import RetryEndpoint.Cache.Backends
import RetryEndpoint.Go.Errors
import RetryEndpoint.Go.IP
import RetryEndpoint.Go.Strings
import RetryEndpoint.RateLimit.Limiter

/-!
# The configuration

`config/config.go`, `Load`: what the flags say is checked, in the order of the source, and
some of it is turned into what the endpoint works with.

## The model

`Flags` are the values of the flags after `flag.Parse`, whether they come from the command
line, the environment or the defaults; the defaults of the source are those of the fields.
`Settings` are the flags that `Load` passes on as they are, and `Config` adds what it
derives. A `float64` flag is a rational: not a number and the infinities are left out.
`Env` is what `Load` asks the machine. The checks are functions of their own, each with
the error of the source.

## What is proved

* `load_eq_ok_iff` — what `Load` accepts, and what it makes of it.
* `load_spec` — in a configuration that `Load` accepts, the settings are those of the flags,
  there is one ingress worker and there is an egress interface.
* `load_beacon` — the tier and the preference of the beacon fit in a byte, its interval is a second
  or more, and its address, if one is given, is an IPv6 address.
* `load_defaults` — the other flags at their defaults, any settings are accepted.
-/

namespace RetryEndpoint

open Go Cache

namespace Config

/-- `time.Second`. -/
def second : Duration := 1000000000

/-- The flags that `Load` passes on as they are. -/
structure Settings where
  listenPort : ℤ := 9001
  redisAddr : String := ""
  cacheTTL : Duration := 60 * second
  cacheMaxKeys : ℤ := 0
  nackPort : ℤ := 9300
  egressPort : ℤ := 9001
  dedupWindow : Duration := 60 * second
  rlIPRate : ℚ := 100
  rlIPBurst : ℤ := 10
  rlSenderRate : ℚ := 0
  rlSenderWindow : Duration := 0
  rlChainRate : ℚ := 500
  rlChainWindow : Duration := RateLimit.minute
  rlSequenceMax : ℤ := 100
  rlSequenceWindow : Duration := RateLimit.minute
  rlGroupRate : ℚ := 200
  rlGroupBurst : ℤ := 50
  drainTimeout : Duration := 0
  subtreeDataEnabled : Bool := false
  suppressACK : Bool := false
  suppressMISS : Bool := false

/-- The values of the flags. -/
structure Flags extends Settings where
  shardBits : ℕ := 8
  mcScope : String := "site"
  mcGroupID : String := "0x000B"
  cacheBackend : String := "memory"
  nackWorkers : ℤ
  egressIface : String := "eth0"
  beaconTier : ℕ := 0
  beaconPreference : ℕ := 128
  beaconInterval : Duration := 60 * second
  beaconScope : String := "site"
  beaconNACKAddr : String := ""

/-- What `Load` asks the machine it runs on. -/
structure Env where
  /-- `runtime.NumCPU`. -/
  numCPU : ℕ
  /-- `net.InterfaceByName`: the error, if there is no such interface. -/
  interfaceByName : String → Option Err
  /-- `net.ParseIP`. -/
  parseIP : String → Option Bytes

/-- The cache backends. -/
inductive CacheBackend where
  | redis
  | memory
  deriving DecidableEq

/-- How the flag names them. -/
def CacheBackend.name : CacheBackend → String
  | .redis => "redis"
  | .memory => "memory"

/-- The widths of a shard key that are allowed. -/
abbrev ShardBits := {bits : ℕ // 1 ≤ bits ∧ bits ≤ 15}

end Config

open Config in
/-- `Config`. -/
structure Config extends Settings where
  /-- How many bits of a transaction id select its group. -/
  shardBits : ShardBits
  /-- The multicast prefix of the scope. -/
  mcPrefix : UInt16
  /-- The group id. -/
  mcGroupID : UInt16
  /-- Where frames are kept. -/
  cacheBackend : CacheBackend
  /-- How many ingress workers there are. -/
  numWorkers : ℕ
  /-- How many workers process NACKs. -/
  nackWorkers : ℤ
  /-- The interfaces frames are retransmitted on. -/
  egressIfaces : List String
  /-- How close the endpoint is to the source. -/
  beaconTier : ℕ
  /-- The weight of the endpoint in its tier. -/
  beaconPreference : ℕ
  /-- How often it is advertised. -/
  beaconInterval : Duration
  /-- The scope it is advertised in. -/
  beaconScopeByte : UInt8
  /-- The address it is advertised with; empty to pick one. -/
  beaconNACKAddr : String

namespace Config

/-- `NumGroups`. -/
def numGroups (cfg : Config) : ℕ := 1 <<< cfg.shardBits.val

/-! ### The checks -/

/-- The width of the shard key. -/
def checkShardBits (bits : ℕ) : Except Err ShardBits :=
  if h : bits < 1 ∨ 15 < bits then .error ("shard-bits must be in [1, 15], got " ++ decimalString bits)
  else .ok ⟨bits, by omega⟩

/-- `Scopes`. -/
def scopes : List (String × UInt16) := [("link", 0xFF02), ("site", 0xFF05), ("org", 0xFF08), ("global", 0xFF0E)]

/-- The multicast prefix of a scope. -/
def resolveScope (mcScope : String) : Except Err UInt16 :=
  match scopes.lookup mcScope with
  | some mcPrefix => .ok mcPrefix
  | none => .error ("unknown scope " ++ quote mcScope.toList ++ "; valid values: link, site, org, global")

/-- `parseGroupID`: hexadecimal after `0x`, decimal, or hexadecimal where that fails. -/
def parseGroupID (s : List Char) : Except Err UInt16 :=
  let s := trimSpace s
  if s = [] then .error "empty value" else
  let low := s.map Char.toLower
  let (s, base) :=
    if low.take 2 = ['0', 'x'] then (s.drop 2, 16)
    else match parseUint s 10 16 with
      | .error _ => (s, 16)
      | .ok _ => (s, 10)
  match parseUint s base 16 with
  | .error e => .error (e.text s)
  | .ok n => .ok (UInt16.ofNat n)

/-- The group id. -/
def checkGroupID (mcGroupID : String) : Except Err UInt16 :=
  match parseGroupID mcGroupID.toList with
  | .ok gid => .ok gid
  | .error err => .error ("invalid -mc-group-id " ++ quote mcGroupID.toList ++ ": " ++ err)

/-- The cache backend. -/
def checkBackend (cacheBackend : String) : Except Err CacheBackend :=
  if cacheBackend = "redis" then .ok .redis
  else if cacheBackend = "memory" then .ok .memory
  else .error ("cache-backend must be 'redis' or 'memory', got " ++ quote cacheBackend.toList)

/-- The loop over the egress interfaces. -/
def checkIfaces (env : Env) : List (List Char) → Except Err (List String)
  | [] => .ok []
  | name :: names =>
    let name := trimSpace name
    if name = [] then checkIfaces env names
    else match env.interfaceByName (String.ofList name) with
      | some err => .error ("egress interface " ++ quote name ++ " not found: " ++ err)
      | none => (checkIfaces env names).map (String.ofList name :: ·)

/-- The egress interfaces, of which there must be one. -/
def checkEgressIfaces (env : Env) (egressIface : String) : Except Err (List String) :=
  match checkIfaces env (egressIface.toList.splitOn ',') with
  | .error err => .error err
  | .ok [] => .error "at least one egress interface must be specified via -egress-iface"
  | .ok ifaces => .ok ifaces

/-- The scope of the beacon. -/
def checkBeaconScope (beaconScope : String) : Except Err UInt8 :=
  if beaconScope = "site" then .ok 0x05
  else if beaconScope = "org" then .ok 0x08
  else if beaconScope = "global" then .ok 0x0E
  else if beaconScope = "both" ∨ beaconScope = "all" then .ok 0xFF
  else .error ("beacon-scope must be one of link|site|org|global|both|all, got " ++ quote beaconScope.toList)

/-- A flag that goes into a byte of the advert. -/
def checkUint8 (flag : String) (n : ℕ) : Except Err Unit :=
  if 255 < n then .error (flag ++ " must fit in uint8, got " ++ decimalString n) else .ok ()

/-- The interval of the beacon. -/
def checkBeaconInterval (interval : Duration) : Except Err Unit :=
  if interval < second then
    .error ("beacon-interval must be ≥ 1s (advert carries an integer seconds field), got " ++ durationString interval)
  else .ok ()

/-- `ip.To4() != nil`. -/
def isTo4 (ip : Bytes) : Bool := (to4 ip).isSome

/-- `ip.To16() != nil`. -/
def isTo16 (ip : Bytes) : Bool := ip.length = 4 || ip.length = 16

/-- The address of the beacon, if one is given. -/
def checkNACKAddr (env : Env) (addr : String) : Except Err Unit :=
  let err := "nack-addr must be a valid IPv6 unicast address, got " ++ quote addr.toList
  if addr ≠ "" then
    match env.parseIP addr with
    | none => .error err
    | some ip => if !isTo16 ip || isTo4 ip then .error err else .ok ()
  else .ok ()

/-- `Load`, after the flags are parsed. -/
def load (env : Env) (f : Flags) : Except Err Config := do
  let shardBits ← checkShardBits f.shardBits
  let mcPrefix ← resolveScope f.mcScope
  let mcGroupID ← checkGroupID f.mcGroupID
  let cacheBackend ← checkBackend f.cacheBackend
  let nackWorkers := if f.nackWorkers ≤ 0 then (env.numCPU : ℤ) else f.nackWorkers
  let egressIfaces ← checkEgressIfaces env f.egressIface
  let beaconScopeByte ← checkBeaconScope f.beaconScope
  checkUint8 "beacon-tier" f.beaconTier
  checkUint8 "beacon-preference" f.beaconPreference
  checkBeaconInterval f.beaconInterval
  checkNACKAddr env f.beaconNACKAddr
  return { f.toSettings with
    shardBits, mcPrefix, mcGroupID, cacheBackend, numWorkers := 1, nackWorkers, egressIfaces,
    beaconTier := f.beaconTier, beaconPreference := f.beaconPreference, beaconInterval := f.beaconInterval,
    beaconScopeByte, beaconNACKAddr := f.beaconNACKAddr }

theorem checkEgressIfaces_ne_nil {env : Env} {egressIface : String} {ifaces : List String}
    (h : checkEgressIfaces env egressIface = .ok ifaces) : ifaces ≠ [] := by
  unfold checkEgressIfaces at h
  split at h
  · cases h
  · cases h
  · next ifaces' hne _ =>
    obtain rfl := Except.ok.inj h
    exact hne

/-- What `Load` has checked and derived in the configuration that it makes of the flags. -/
structure Loaded (env : Env) (f : Flags) (cfg : Config) : Prop where
  settings : cfg.toSettings = f.toSettings
  shardBits : checkShardBits f.shardBits = .ok cfg.shardBits
  mcPrefix : resolveScope f.mcScope = .ok cfg.mcPrefix
  mcGroupID : checkGroupID f.mcGroupID = .ok cfg.mcGroupID
  cacheBackend : checkBackend f.cacheBackend = .ok cfg.cacheBackend
  numWorkers : cfg.numWorkers = 1
  nackWorkers : cfg.nackWorkers = if f.nackWorkers ≤ 0 then (env.numCPU : ℤ) else f.nackWorkers
  egressIfaces : checkEgressIfaces env f.egressIface = .ok cfg.egressIfaces
  beaconScope : checkBeaconScope f.beaconScope = .ok cfg.beaconScopeByte
  beaconTier : cfg.beaconTier = f.beaconTier ∧ checkUint8 "beacon-tier" cfg.beaconTier = .ok ()
  beaconPreference :
    cfg.beaconPreference = f.beaconPreference ∧ checkUint8 "beacon-preference" cfg.beaconPreference = .ok ()
  beaconInterval : cfg.beaconInterval = f.beaconInterval ∧ checkBeaconInterval cfg.beaconInterval = .ok ()
  beaconNACKAddr : cfg.beaconNACKAddr = f.beaconNACKAddr ∧ checkNACKAddr env cfg.beaconNACKAddr = .ok ()

/-- **`Load` accepts the flags that pass every check**, and nothing else goes into the configuration. -/
theorem load_eq_ok_iff {env : Env} {f : Flags} {cfg : Config} : load env f = .ok cfg ↔ Loaded env f cfg := by
  constructor
  · intro h
    simp only [load, bind_eq_ok_iff] at h
    obtain ⟨bits, hbits, mcPrefix, hscope, gid, hgid, backend, hbackend, ifaces, hifaces, scope, hbeacon, h⟩ := h
    obtain ⟨⟨⟩, htier, ⟨⟩, hpref, ⟨⟩, hinterval, ⟨⟩, haddr, h⟩ := h
    obtain rfl := Except.ok.inj h
    exact ⟨rfl, hbits, hscope, hgid, hbackend, rfl, rfl, hifaces, hbeacon, ⟨rfl, htier⟩, ⟨rfl, hpref⟩,
      ⟨rfl, hinterval⟩, ⟨rfl, haddr⟩⟩
  · intro h
    obtain ⟨htier, htier'⟩ := h.beaconTier
    obtain ⟨hpref, hpref'⟩ := h.beaconPreference
    obtain ⟨hinterval, hinterval'⟩ := h.beaconInterval
    obtain ⟨haddr, haddr'⟩ := h.beaconNACKAddr
    simp only [load, h.shardBits, h.mcPrefix, h.mcGroupID, h.cacheBackend, h.egressIfaces, h.beaconScope, ← h.settings,
      ← h.nackWorkers, ← htier, htier', ← hpref, hpref', ← hinterval, hinterval', ← haddr, haddr']
    rw [← h.numWorkers]
    rfl

/-- What is known of a configuration that `Load` accepts. -/
theorem load_spec {env : Env} {f : Flags} {cfg : Config} (h : load env f = .ok cfg) :
    cfg.toSettings = f.toSettings ∧ cfg.numWorkers = 1 ∧ cfg.egressIfaces ≠ [] := by
  have hl := load_eq_ok_iff.mp h
  exact ⟨hl.settings, hl.numWorkers, checkEgressIfaces_ne_nil hl.egressIfaces⟩

/-- What the checks of the beacon's flags leave. -/
theorem load_beacon {env : Env} {f : Flags} {cfg : Config} (h : load env f = .ok cfg) :
    cfg.beaconTier ≤ 255 ∧ cfg.beaconPreference ≤ 255 ∧ second ≤ cfg.beaconInterval ∧
      checkNACKAddr env cfg.beaconNACKAddr = .ok () := by
  have hl := load_eq_ok_iff.mp h
  have htier := hl.beaconTier.2
  have hpref := hl.beaconPreference.2
  have hinterval := hl.beaconInterval.2
  refine ⟨?_, ?_, ?_, hl.beaconNACKAddr.2⟩
  · by_contra hn
    simp [checkUint8, not_le.mp hn] at htier
  · by_contra hn
    simp [checkUint8, not_le.mp hn] at hpref
  · by_contra hn
    simp [checkBeaconInterval, not_le.mp hn] at hinterval

/-! ### The defaults -/

/-- A machine with one interface, `eth0`. It stands in for the machine where a concrete one
is needed. -/
def oneInterface : Env where
  numCPU := 4
  interfaceByName name := if name = "eth0" then none else some "route ip+net: no such network interface"
  parseIP _ := none

/-- The default flags, but for the settings and the backend. -/
def defaults (s : Settings) (cacheBackend : CacheBackend) : Flags :=
  { s with
    nackWorkers := 4
    cacheBackend := cacheBackend.name }

/-- What `Load` makes of them. -/
def defaultConfig (s : Settings) (cacheBackend : CacheBackend) : Config :=
  { s with
    shardBits := ⟨8, by decide⟩, mcPrefix := 0xFF05, mcGroupID := 0x000B, cacheBackend, numWorkers := 1
    nackWorkers := 4, egressIfaces := ["eth0"], beaconTier := 0, beaconPreference := 128, beaconInterval := 60 * second
    beaconScopeByte := 0x05, beaconNACKAddr := "" }

/-- The defaults are accepted with any interval of a second or more and any address that passes. -/
theorem load_defaults_beacon (s : Settings) (cacheBackend : CacheBackend) (parseIP : String → Option Bytes)
    {interval : Duration} {addr : String} (hi : second ≤ interval)
    (haddr : checkNACKAddr { oneInterface with parseIP } addr = .ok ()) :
    load { oneInterface with parseIP }
        { defaults s cacheBackend with beaconInterval := interval, beaconNACKAddr := addr } =
      .ok { defaultConfig s cacheBackend with beaconInterval := interval, beaconNACKAddr := addr } := by
  have hgroup : checkGroupID "0x000B" = .ok 0x000B := by decide
  have hifaces : checkEgressIfaces { oneInterface with parseIP } "eth0" = .ok ["eth0"] := by rfl
  rw [load_eq_ok_iff]
  exact
    { settings := rfl
      shardBits := rfl
      mcPrefix := rfl
      mcGroupID := hgroup
      cacheBackend := by cases cacheBackend <;> rfl
      numWorkers := rfl
      nackWorkers := rfl
      egressIfaces := hifaces
      beaconScope := rfl
      beaconTier := ⟨rfl, rfl⟩
      beaconPreference := ⟨rfl, rfl⟩
      beaconInterval := ⟨rfl, if_neg (not_lt.mpr hi)⟩
      beaconNACKAddr := ⟨rfl, haddr⟩ }

/-- The defaults are accepted with any interval of a second or more. -/
theorem load_defaults_interval (s : Settings) (cacheBackend : CacheBackend) {interval : Duration}
    (hi : second ≤ interval) :
    load oneInterface { defaults s cacheBackend with beaconInterval := interval } =
      .ok { defaultConfig s cacheBackend with beaconInterval := interval } :=
  load_defaults_beacon s cacheBackend oneInterface.parseIP hi rfl

/-- The defaults are accepted with any settings: none of these is checked. -/
theorem load_defaults (s : Settings) (cacheBackend : CacheBackend) :
    load oneInterface (defaults s cacheBackend) = .ok (defaultConfig s cacheBackend) :=
  load_defaults_interval s cacheBackend (by decide : second ≤ 60 * second)

end Config

end RetryEndpoint
