import RetryEndpoint.Config
import RetryEndpoint.Go.Float
import RetryEndpoint.ShardCommon

/-!
# The beacon

`beacon/beacon.go` and the part of `main.go` that starts it: the endpoint advertises itself by a
datagram of 56 bytes, with the address to send NACKs to, what it can do, and how often it is
going to repeat the advert.

## The model

`buildADVERT` is the datagram, for the `beacon.Config` that `run` derives from the configuration
(`beaconConfig`). The interval is the only field that is computed: a `time.Duration` is turned
into a `float64` of seconds, which is turned into a `uint16`. `Flags` are the flags of the beacon
that `Load` does not look at. `Host` is what `run` asks the machine; a nil `net.IP` is the empty
byte string. The group and the interface the datagram is sent on are not in it.

## What is proved

* `pickBeaconNACKAddr_spec` — the address that is advertised is an IPv6 address, and the configured
  one if there is one.
* `advert_round_trips_iff` — the datagram says what is configured exactly if the interval is
  shorter than 65536 seconds.
-/

namespace RetryEndpoint.Beacon

open Go Cache ShardCommon Config

/-- `MsgTypeADVERT`. -/
def msgTypeADVERT : UInt8 := 0x20

/-- `FlagDraining`. -/
def flagDraining : UInt16 := 0x0004

/-- `FlagUnicastRetransmit`. -/
def flagUnicastRetransmit : UInt16 := 0x0008

/-- `FlagMulticastRetransmit`. -/
def flagMulticastRetransmit : UInt16 := 0x0010

/-- `beacon.Config`, as far as it is in the datagram. -/
structure Config where
  /-- The address NACKs are received at. -/
  nackAddr : Bytes
  /-- The port. -/
  nackPort : UInt16
  /-- How close the endpoint is to the source. -/
  tier : UInt8
  /-- Its weight in the tier. -/
  preference : UInt8
  /-- How often the advert is sent. -/
  interval : Duration
  /-- The scope. -/
  scope : UInt8
  /-- What the endpoint can do. -/
  flags : UInt16
  /-- Which instance it is. -/
  instanceID : UInt32

/-- `New`: an interval of zero is a minute. -/
def new (cfg : Config) : Config := if cfg.interval = 0 then { cfg with interval := 60 * second } else cfg

/-- `ip.To16()`. -/
def to16 (ip : Bytes) : Option Bytes := if isTo16 ip then some (ip16 ip) else none

/-- `buildADVERT`. -/
def buildADVERT (other : ℚ → UInt16) (cfg : Config) : Bytes :=
  -- `net.IPv6unspecified` stands in for an address that is neither IPv4 nor IPv6
  let nackIP := (to16 cfg.nackAddr).getD (List.replicate 16 0)
  let intervalSec := toUint16 other (seconds cfg.interval)
  putUint32 magicBSV ++ putUint16 protoVer ++ [msgTypeADVERT, cfg.scope] ++ nackIP ++
    (putUint16 cfg.nackPort ++ [cfg.tier, cfg.preference] ++ putUint16 intervalSec ++ putUint16 cfg.flags ++
      putUint32 cfg.instanceID ++ List.replicate 20 0)

/-! ### What `run` makes of the configuration -/

/-- The flags of the beacon that `Load` passes on as they are. -/
structure Flags where
  /-- `-instance`. -/
  instanceID : String := ""
  /-- `-beacon-flags-unicast`. -/
  unicast : Bool := false
  /-- `-beacon-flags-multicast`. -/
  multicast : Bool := true
  /-- `-beacon-flags-draining`. -/
  draining : Bool := false

/-- What `run` asks the machine. -/
structure Host where
  /-- `iface.Addrs`: the addresses of an interface. -/
  addrs : String → Except Err (List Bytes)
  /-- `ip.IsGlobalUnicast`. -/
  isGlobalUnicast : Bytes → Bool
  /-- `ip.IsLinkLocalUnicast`. -/
  isLinkLocalUnicast : Bytes → Bool
  /-- `os.Hostname`, if it does not fail. -/
  hostname : Option String
  /-- `crc32.Checksum` with the table of `crc32.Castagnoli`. -/
  checksum : Bytes → UInt32

/-- What is assumed of `net`: a global unicast address is an IPv4 or an IPv6 address. -/
def Host.Laws (H : Host) : Prop := ∀ ip, H.isGlobalUnicast ip = true → isTo16 ip = true

/-- `hashInstanceID`. -/
def hashInstanceID (H : Host) (s : String) : UInt32 :=
  let h := H.checksum (bytesOf s)
  if h = 0 then 1 else h

/-- An address of an interface that can be advertised. -/
def suitable (H : Host) (ip : Bytes) : Bool :=
  !(ip = [] || isTo4 ip) && (H.isGlobalUnicast ip && !H.isLinkLocalUnicast ip)

/-- `pickBeaconNACKAddr`. -/
def pickBeaconNACKAddr (env : Env) (H : Host) (explicit iface : String) : Except Err Bytes :=
  if explicit ≠ "" then
    match env.parseIP explicit with
    | none => .error ("invalid nack-addr " ++ quote explicit.toList)
    | some ip => .ok ((to16 ip).getD [])
  else
    match H.addrs iface with
    | .error err => .error ("iface " ++ iface ++ " addrs: " ++ err)
    | .ok addrs =>
      match addrs.find? (suitable H) with
      | some ip => .ok ((to16 ip).getD [])
      | none => .error ("no global-unicast IPv6 address on " ++ iface ++ "; set -nack-addr explicitly")

/-- The flags in the datagram. -/
def Flags.bits (bf : Flags) : UInt16 :=
  (if bf.unicast then flagUnicastRetransmit else 0) ||| (if bf.multicast then flagMulticastRetransmit else 0) |||
    (if bf.draining then flagDraining else 0)

/-- The name of the instance: the one that is given, or that of the host. -/
def Flags.host (bf : Flags) (H : Host) : String := if bf.instanceID = "" then H.hostname.getD "" else bf.instanceID

/-- The `beacon.Config` that `run` starts the beacon with. -/
def beaconConfig (env : Env) (H : Host) (cfg : RetryEndpoint.Config) (bf : Flags) : Except Err Config :=
  match pickBeaconNACKAddr env H cfg.beaconNACKAddr (cfg.egressIfaces.headD "") with
  | .error err => .error ("beacon: " ++ err)
  | .ok nackIP => .ok
    { nackAddr := nackIP
      nackPort := UInt16.ofNat (cfg.nackPort % 65536).toNat
      tier := UInt8.ofNat cfg.beaconTier
      preference := UInt8.ofNat cfg.beaconPreference
      interval := cfg.beaconInterval
      scope := cfg.beaconScopeByte
      flags := bf.bits
      instanceID := hashInstanceID H (bf.host H) }

/-! ### The address -/

theorem to16_of_length {ip : Bytes} (h : ip.length = 16) : to16 ip = some ip := by
  simp [to16, isTo16, ip16, h]

theorem length_of_not_isTo4 {ip : Bytes} (h : isTo16 ip = true) (h4 : isTo4 ip = false) : ip.length = 16 := by
  have hor : ip.length = 4 ∨ ip.length = 16 := by simpa [isTo16] using h
  exact hor.resolve_left fun h => by simp [isTo4, to4, h] at h4

/-- A configured address passes `Load` if it is an IPv6 address. -/
theorem parseIP_of_checkNACKAddr {env : Env} {addr : String} (h : checkNACKAddr env addr = .ok ()) (hne : addr ≠ "") :
    ∃ ip, env.parseIP addr = some ip ∧ ip.length = 16 ∧ isTo4 ip = false := by
  simp only [checkNACKAddr, if_pos hne] at h
  cases hp : env.parseIP addr with
  | none => simp [hp] at h
  | some ip =>
    refine ⟨ip, rfl, ?_⟩
    simp only [hp] at h
    split_ifs at h with hbad
    have hgood : isTo16 ip = true ∧ isTo4 ip = false := by simpa using hbad
    exact ⟨length_of_not_isTo4 hgood.1 hgood.2, hgood.2⟩

/-- An address that `Load` lets pass is picked as it is. -/
theorem pickBeaconNACKAddr_explicit {env : Env} {H : Host} {explicit iface : String}
    (hcheck : checkNACKAddr env explicit = .ok ()) (hne : explicit ≠ "") :
    ∃ ip, env.parseIP explicit = some ip ∧ pickBeaconNACKAddr env H explicit iface = .ok ip ∧ ip.length = 16 ∧
      isTo4 ip = false := by
  obtain ⟨ip, hparse, hlen, h4⟩ := parseIP_of_checkNACKAddr hcheck hne
  refine ⟨ip, hparse, ?_, hlen, h4⟩
  simp only [pickBeaconNACKAddr, if_pos hne, hparse, to16_of_length hlen]
  rfl

theorem length_of_suitable {H : Host} (hH : H.Laws) {ip : Bytes} (h : suitable H ip = true) : ip.length = 16 := by
  simp only [suitable, Bool.and_eq_true, Bool.not_eq_true', Bool.or_eq_false_iff] at h
  exact length_of_not_isTo4 (hH ip h.2.1) h.1.2

/-- Without one, the first suitable address of the interface is picked. -/
theorem pickBeaconNACKAddr_empty_eq_ok_iff {env : Env} {H : Host} (hH : H.Laws) {iface : String} {ip : Bytes} :
    pickBeaconNACKAddr env H "" iface = .ok ip ↔
      ∃ addrs, H.addrs iface = .ok addrs ∧ addrs.find? (suitable H) = some ip := by
  simp only [pickBeaconNACKAddr, ne_eq, not_true_eq_false, if_false]
  cases H.addrs iface with
  | error err => simp
  | ok addrs =>
    simp only [Except.ok.injEq, exists_eq_left']
    cases hf : addrs.find? (suitable H) with
    | none => simp
    | some found => simp [to16_of_length (length_of_suitable hH (List.find?_some hf))]

/-- **The address that is picked** is an IPv6 address, and the configured one if there is one. -/
theorem pickBeaconNACKAddr_spec {env : Env} {H : Host} (hH : H.Laws) {explicit iface : String} {ip : Bytes}
    (hcheck : checkNACKAddr env explicit = .ok ()) (h : pickBeaconNACKAddr env H explicit iface = .ok ip) :
    ip.length = 16 ∧ (explicit ≠ "" → env.parseIP explicit = some ip) := by
  by_cases hne : explicit = ""
  · subst hne
    obtain ⟨addrs, -, hfind⟩ := (pickBeaconNACKAddr_empty_eq_ok_iff hH).mp h
    exact ⟨length_of_suitable hH (List.find?_some hfind), fun hn => absurd rfl hn⟩
  · obtain ⟨found, hparse, hpick, hlen, -⟩ := pickBeaconNACKAddr_explicit hcheck hne
    obtain rfl := Except.ok.inj (hpick.symm.trans h)
    exact ⟨hlen, fun _ => hparse⟩

/-! ### The datagram -/

section Layout

variable (other : ℚ → UInt16) {cfg : Config} (h : cfg.nackAddr.length = 16)

include h

theorem buildADVERT_eq :
    buildADVERT other cfg = (putUint32 magicBSV ++ putUint16 protoVer ++ [msgTypeADVERT, cfg.scope] ++ cfg.nackAddr) ++
      (putUint16 cfg.nackPort ++ [cfg.tier, cfg.preference] ++ putUint16 (toUint16 other (seconds cfg.interval)) ++
        putUint16 cfg.flags ++ putUint32 cfg.instanceID ++ List.replicate 20 0) := by
  rw [buildADVERT, to16_of_length h]
  rfl

theorem slice_buildADVERT_addr : slice (buildADVERT other cfg) 8 24 = cfg.nackAddr := by
  have hmid := slice_append_middle (putUint32 magicBSV ++ putUint16 protoVer ++ [msgTypeADVERT, cfg.scope]) cfg.nackAddr
  rw [h] at hmid
  rw [buildADVERT_eq other h]
  exact hmid _

/-- What follows the address. -/
theorem slice_buildADVERT_tail {i : ℕ} (hi : 24 ≤ i) (j : ℕ) :
    slice (buildADVERT other cfg) i j =
      slice (putUint16 cfg.nackPort ++ [cfg.tier, cfg.preference] ++
        putUint16 (toUint16 other (seconds cfg.interval)) ++ putUint16 cfg.flags ++ putUint32 cfg.instanceID ++
        List.replicate 20 0) (i - 24) (j - 24) := by
  have hlen : (putUint32 magicBSV ++ putUint16 protoVer ++ [msgTypeADVERT, cfg.scope] ++ cfg.nackAddr).length = 24 := by
    rw [List.length_append, h]
    rfl
  rw [buildADVERT_eq other h, slice_append_right (by omega), hlen]

theorem length_buildADVERT : (buildADVERT other cfg).length = 56 := by
  rw [buildADVERT_eq other h, List.length_append, List.length_append, h]
  rfl

/-- The fields that follow the address, one by one. -/
theorem fields_buildADVERT :
    slice (buildADVERT other cfg) 24 26 = putUint16 cfg.nackPort ∧
      slice (buildADVERT other cfg) 26 27 = [cfg.tier] ∧
      slice (buildADVERT other cfg) 27 28 = [cfg.preference] ∧
      slice (buildADVERT other cfg) 28 30 = putUint16 (toUint16 other (seconds cfg.interval)) ∧
      slice (buildADVERT other cfg) 30 32 = putUint16 cfg.flags ∧
      slice (buildADVERT other cfg) 32 36 = putUint32 cfg.instanceID ∧
      slice (buildADVERT other cfg) 36 56 = List.replicate 20 0 := by
  refine ⟨?_, ?_, ?_, ?_, ?_, ?_, ?_⟩ <;> rw [slice_buildADVERT_tail other h (by decide)] <;> rfl

end Layout

/-- The datagram, read at the documented offsets, says what is configured. -/
structure RoundTrip (env : Env) (H : Host) (cfg : RetryEndpoint.Config) (bf : Flags) (d : Bytes) : Prop where
  /-- It has 56 bytes. -/
  size : d.length = 56
  /-- The scope. -/
  scope : slice d 7 8 = [cfg.beaconScopeByte]
  /-- The address, as it is picked. -/
  addr : pickBeaconNACKAddr env H cfg.beaconNACKAddr (cfg.egressIfaces.headD "") = .ok (slice d 8 24)
  /-- The address, if one is configured. -/
  explicit : cfg.beaconNACKAddr ≠ "" → env.parseIP cfg.beaconNACKAddr = some (slice d 8 24)
  /-- The port. -/
  port : ((uint16 (slice d 24 26)).toNat : ℤ) = cfg.nackPort
  /-- The tier. -/
  tier : beNat (slice d 26 27) = cfg.beaconTier
  /-- The preference. -/
  preference : beNat (slice d 27 28) = cfg.beaconPreference
  /-- The interval, in whole seconds. -/
  interval : ((uint16 (slice d 28 30)).toNat : ℤ) = cfg.beaconInterval / second
  /-- Listeners wait for three times as long, and so for the next advert. -/
  eviction : cfg.beaconInterval < 3 * (uint16 (slice d 28 30)).toNat * second
  /-- The flags, and no other bit. -/
  flags : (uint16 (slice d 30 32) &&& flagUnicastRetransmit ≠ 0 ↔ bf.unicast) ∧
    (uint16 (slice d 30 32) &&& flagMulticastRetransmit ≠ 0 ↔ bf.multicast) ∧
    (uint16 (slice d 30 32) &&& flagDraining ≠ 0 ↔ bf.draining) ∧
    uint16 (slice d 30 32) &&& ~~~(flagUnicastRetransmit ||| flagMulticastRetransmit ||| flagDraining) = 0
  /-- The instance. -/
  instanceID : uint32 (slice d 32 36) = hashInstanceID H (bf.host H)
  /-- The reserved bytes. -/
  reserved : slice d 36 56 = List.replicate 20 0

/-- The flags can be told from the bits. -/
theorem Flags.bits_spec (bf : Flags) :
    (bf.bits &&& flagUnicastRetransmit ≠ 0 ↔ bf.unicast) ∧ (bf.bits &&& flagMulticastRetransmit ≠ 0 ↔ bf.multicast) ∧
      (bf.bits &&& flagDraining ≠ 0 ↔ bf.draining) ∧
      bf.bits &&& ~~~(flagUnicastRetransmit ||| flagMulticastRetransmit ||| flagDraining) = 0 := by
  have key : ∀ unicast multicast draining : Bool,
      let bits := Flags.bits ⟨"", unicast, multicast, draining⟩
      (bits &&& flagUnicastRetransmit ≠ 0 ↔ unicast) ∧ (bits &&& flagMulticastRetransmit ≠ 0 ↔ multicast) ∧
        (bits &&& flagDraining ≠ 0 ↔ draining) ∧
        bits &&& ~~~(flagUnicastRetransmit ||| flagMulticastRetransmit ||| flagDraining) = 0 := by decide +kernel
  exact key bf.unicast bf.multicast bf.draining

/-- The whole seconds of an interval that fits are in the datagram. -/
theorem toUint16_seconds (other : ℚ → UInt16) {interval : ℤ} (h : 1000000000 ≤ interval)
    (h' : interval < 65536 * 1000000000) :
    ((toUint16 other (seconds interval)).toNat : ℤ) = interval / 1000000000 := by
  obtain ⟨n, hn⟩ := Int.eq_ofNat_of_zero_le (by omega : 0 ≤ interval / 1000000000)
  have hfloor : ⌊seconds interval⌋ = n := (floor_seconds (by omega : 0 ≤ interval) (by omega)).trans hn
  rw [toUint16_of_floor other (by omega) hfloor, hn]

/-- Those of a longer one have no room there. -/
theorem RoundTrip.interval_lt {env : Env} {H : Host} {cfg : RetryEndpoint.Config} {bf : Flags} {d : Bytes}
    (h : RoundTrip env H cfg bf d) : cfg.beaconInterval < 65536 * second := by
  have hlt : ((uint16 (slice d 28 30)).toNat : ℤ) < 65536 := by exact_mod_cast UInt16.toNat_lt _
  rw [h.interval] at hlt
  exact (Int.ediv_lt_iff_lt_mul (by decide)).mp hlt

/-- An interval that is advertised in whole seconds comes round before three of it have passed. -/
theorem lt_three_mul {interval n : ℤ} (h : 1000000000 ≤ interval) (hn : n = interval / 1000000000) :
    interval < 3 * n * 1000000000 := by omega

/-- What is in the configuration of the beacon. -/
theorem beaconConfig_spec {env : Env} {H : Host} {cfg : RetryEndpoint.Config} {bf : Flags} {bc : Config}
    (h : beaconConfig env H cfg bf = .ok bc) :
    pickBeaconNACKAddr env H cfg.beaconNACKAddr (cfg.egressIfaces.headD "") = .ok bc.nackAddr ∧
      bc.nackPort = UInt16.ofNat (cfg.nackPort % 65536).toNat ∧ bc.tier = UInt8.ofNat cfg.beaconTier ∧
      bc.preference = UInt8.ofNat cfg.beaconPreference ∧ bc.interval = cfg.beaconInterval ∧
      bc.scope = cfg.beaconScopeByte ∧ bc.flags = bf.bits ∧ bc.instanceID = hashInstanceID H (bf.host H) := by
  unfold beaconConfig at h
  split at h
  · cases h
  next ip hpick =>
    obtain rfl := Except.ok.inj h
    exact ⟨hpick, rfl, rfl, rfl, rfl, rfl, rfl, rfl⟩

/-- A number that fits in a byte is read back. -/
theorem beNat_uint8 {n : ℕ} (h : n ≤ 255) : beNat [UInt8.ofNat n] = n := by
  have hn : (UInt8.ofNat n).toNat = n := by rw [UInt8.toNat_ofNat', Nat.mod_eq_of_lt (Nat.lt_succ_of_le h)]
  simp [beNat, hn]

/-- So is a port. -/
theorem toNat_port {port : ℤ} (h : 1 ≤ port) (h' : port ≤ 65535) :
    ((UInt16.ofNat (port % 65536).toNat).toNat : ℤ) = port := by
  rw [UInt16.toNat_ofNat']
  omega

/-- **The datagram says what is configured exactly if the interval is shorter than 65536
seconds.** `Load` checks that the tier and the preference fit in their fields, and that the
interval is a second or more. -/
theorem advert_round_trips_iff {env : Env} {H : Host} (hH : H.Laws) {f : Config.Flags} {cfg : RetryEndpoint.Config}
    (hload : load env f = .ok cfg) (hport : 1 ≤ cfg.nackPort) (hport' : cfg.nackPort ≤ 65535) {bf : Flags} {bc : Config}
    (hb : beaconConfig env H cfg bf = .ok bc) (other : ℚ → UInt16) :
    RoundTrip env H cfg bf (buildADVERT other (new bc)) ↔ cfg.beaconInterval < 65536 * second := by
  obtain ⟨htier, hpref, hinterval, hcheck⟩ := load_beacon hload
  obtain ⟨hpick, hp, ht, hpr, hi, hs, hf, hid⟩ := beaconConfig_spec hb
  obtain ⟨hlen, hexplicit⟩ := pickBeaconNACKAddr_spec hH hcheck hpick
  have hnew : new bc = bc := if_neg (by rw [hi]; exact (lt_of_lt_of_le (by decide) hinterval).ne')
  obtain ⟨h24, h26, h27, h28, h30, h32, h36⟩ := fields_buildADVERT other hlen
  rw [hnew]
  constructor
  · intro hround
    exact hround.interval_lt
  · intro hlt
    have hfield := toUint16_seconds other hinterval hlt
    exact
      { size := length_buildADVERT other hlen
        scope := congrArg (fun x => [x]) hs
        addr := by rw [slice_buildADVERT_addr other hlen, hpick]
        explicit := fun hne => by rw [slice_buildADVERT_addr other hlen, hexplicit hne]
        port := by rw [h24, uint16_putUint16, hp, toNat_port hport hport']
        tier := by rw [h26, ht, beNat_uint8 htier]
        preference := by rw [h27, hpr, beNat_uint8 hpref]
        interval := by rw [h28, uint16_putUint16, hi]; exact hfield
        eviction := by rw [h28, uint16_putUint16, hi]; exact lt_three_mul hinterval hfield
        flags := by rw [h30, uint16_putUint16, hf]; exact bf.bits_spec
        instanceID := by rw [h32, uint32_putUint32, hid]
        reserved := h36 }

/-- A machine whose interface has the address `2001:db8::1`. It stands in for the machine where a
concrete one is needed. -/
def oneAddress : Host where
  addrs _ := .ok [[0x20, 0x01, 0x0d, 0xb8] ++ List.replicate 11 0 ++ [1]]
  isGlobalUnicast ip := ip.length = 16
  isLinkLocalUnicast _ := false
  hostname := some "retry"
  checksum _ := 7

theorem laws_oneAddress : oneAddress.Laws := by
  intro ip h
  have hlen : ip.length = 16 := by simpa [oneAddress] using h
  simp [isTo16, hlen]

/-- With the default of a minute. -/
theorem advert_round_trips_by_default :
    load oneInterface (defaults {} .memory) = .ok (defaultConfig {} .memory) ∧
      ∃ bc, beaconConfig oneInterface oneAddress (defaultConfig {} .memory) {} = .ok bc ∧
        ∀ other, RoundTrip oneInterface oneAddress (defaultConfig {} .memory) {} (buildADVERT other (new bc)) := by
  refine ⟨load_defaults .., _, rfl, fun other => ?_⟩
  exact (advert_round_trips_iff laws_oneAddress (load_defaults {} .memory) (by decide) (by decide) rfl other).mpr
    (by decide)

/-- An interval of 65536 seconds is accepted, and is not in the datagram. -/
theorem advert_interval_wraps :
    load oneInterface { defaults {} .memory with beaconInterval := 65536 * second } =
        .ok { defaultConfig {} .memory with beaconInterval := 65536 * second } ∧
      ∃ bc, beaconConfig oneInterface oneAddress { defaultConfig {} .memory with beaconInterval := 65536 * second } {} =
          .ok bc ∧
        ∀ other,
          ¬ RoundTrip oneInterface oneAddress { defaultConfig {} .memory with beaconInterval := 65536 * second } {}
            (buildADVERT other (new bc)) := by
  refine ⟨load_defaults_interval {} .memory (by decide), _, rfl, fun other h => ?_⟩
  exact absurd h.interval_lt (lt_irrefl _)

end RetryEndpoint.Beacon
