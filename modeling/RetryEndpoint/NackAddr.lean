import RetryEndpoint.Beacon
import RetryEndpoint.Go.IP

/-!
# The address for NACKs

The address that `run` binds the NACK socket to and that the beacon advertises (`main.go`). It is
the one of the flag, which `Load` has checked, or the first suitable one of the first egress
interface.

## The model

`Usable` is what an address has to be for a listener to send a NACK to it, and `Eligible` what is
looked for on an interface. `Host.Net` says that the machine's predicates on addresses are those of
`net.IP`.

## What is proved

* `pickBeaconNACKAddr_empty_iff` — without the flag, the first eligible address is picked.
* `Eligible.usable` — an eligible address is usable.
* `address_usable_iff` — so the address is always usable exactly if that of the flag is neither
  multicast nor unspecified. `Load` says that it must be unicast and does not check it.
-/

namespace RetryEndpoint.Beacon

open Go Cache RetryEndpoint.Config

/-- The predicates of the machine are those of `net.IP`. -/
structure Host.Net (H : Host) : Prop where
  /-- `ip.IsGlobalUnicast`. -/
  isGlobalUnicast : ∀ ip, H.isGlobalUnicast ip = Go.isGlobalUnicast ip
  /-- `ip.IsLinkLocalUnicast`. -/
  isLinkLocalUnicast : ∀ ip, H.isLinkLocalUnicast ip = Go.isLinkLocalUnicast ip

/-- The address `run` binds the NACK socket to. -/
def nackBindIP (env : Env) (H : Host) (cfg : RetryEndpoint.Config) : Except Err Bytes :=
  match pickBeaconNACKAddr env H cfg.beaconNACKAddr (cfg.egressIfaces.headD "") with
  | .error err => .error ("resolve nack bind address: " ++ err)
  | .ok ip => .ok ip

/-- An IPv6 address that a NACK can be sent to. -/
structure Usable (ip : Bytes) : Prop where
  /-- It has 16 bytes. -/
  length : ip.length = 16
  /-- It is not an IPv4 address in its 16-byte form. -/
  not_ipv4 : to4 ip = none
  /-- It is not a multicast address. -/
  not_multicast : isMulticast ip = false
  /-- It is not `::`. -/
  not_unspecified : isUnspecified ip = false

/-- An IPv6 address of an interface that is looked for: global unicast and not link-local. -/
structure Eligible (ip : Bytes) : Prop where
  /-- It has 16 bytes. -/
  length : ip.length = 16
  /-- It is not an IPv4 address in its 16-byte form. -/
  not_ipv4 : to4 ip = none
  /-- It is global unicast. -/
  global : isGlobalUnicast ip = true
  /-- It is not link-local. -/
  not_linkLocal : isLinkLocalUnicast ip = false

theorem Eligible.usable {ip : Bytes} (h : Eligible ip) : Usable ip := by
  obtain ⟨-, -, hunspecified, -, hmulticast, -⟩ := isGlobalUnicast_iff.mp h.global
  exact ⟨h.length, h.not_ipv4, hmulticast, hunspecified⟩

/-! ### The interface -/

section Interface

variable {env : Env} {H : Host} (hH : H.Net)

include hH

theorem Host.Net.laws : H.Laws := by
  intro ip h
  rw [hH.isGlobalUnicast] at h
  simpa [isTo16] using (isGlobalUnicast_iff.mp h).1

/-- What the loop over the addresses looks for. -/
theorem suitable_iff {ip : Bytes} : suitable H ip = true ↔ Eligible ip := by
  simp only [suitable, hH.isGlobalUnicast, hH.isLinkLocalUnicast, Bool.and_eq_true, Bool.not_eq_true',
    Bool.or_eq_false_iff, decide_eq_false_iff_not, isTo4, Option.isSome_eq_false_iff, Option.isNone_iff_eq_none]
  constructor
  · rintro ⟨⟨-, h4⟩, hglobal, hlocal⟩
    have hlen := length_of_not_isTo4 (hH.laws ip (by rwa [hH.isGlobalUnicast])) (by simp [isTo4, h4])
    exact ⟨hlen, h4, hglobal, hlocal⟩
  · rintro ⟨hlen, h4, hglobal, hlocal⟩
    refine ⟨⟨?_, h4⟩, hglobal, hlocal⟩
    rintro rfl
    cases hlen

variable {iface : String} {addrs : List Bytes} (haddrs : H.addrs iface = .ok addrs)

include haddrs

/-- Without the flag, the first eligible address is picked. -/
theorem pickBeaconNACKAddr_empty_iff {ip : Bytes} :
    pickBeaconNACKAddr env H "" iface = .ok ip ↔
      ∃ before after, addrs = before ++ ip :: after ∧ Eligible ip ∧ ∀ a ∈ before, ¬ Eligible a := by
  rw [pickBeaconNACKAddr_empty_eq_ok_iff hH.laws, haddrs]
  simp only [Except.ok.injEq, exists_eq_left']
  rw [List.find?_eq_some_iff_append, suitable_iff hH]
  constructor
  · rintro ⟨hip, before, after, hsplit, hbefore⟩
    refine ⟨before, after, hsplit, hip, fun a ha hel => ?_⟩
    simpa [(suitable_iff hH).mpr hel] using hbefore a ha
  · rintro ⟨before, after, hsplit, hip, hbefore⟩
    refine ⟨hip, before, after, hsplit, fun a ha => ?_⟩
    simpa using mt (suitable_iff hH).mp (hbefore a ha)

/-- It fails when there is none. -/
theorem pickBeaconNACKAddr_empty_error_iff :
    (∃ err, pickBeaconNACKAddr env H "" iface = .error err) ↔ ∀ a ∈ addrs, ¬ Eligible a := by
  constructor
  · rintro ⟨err, herr⟩ a ha hel
    -- an eligible address means that one is found
    obtain ⟨found, hfind⟩ := Option.isSome_iff_exists.mp
      (List.find?_isSome.mpr ⟨a, ha, (suitable_iff hH).mpr hel⟩)
    rw [(pickBeaconNACKAddr_empty_eq_ok_iff hH.laws).mpr ⟨addrs, haddrs, hfind⟩] at herr
    cases herr
  · intro hnone
    cases hpick : pickBeaconNACKAddr env H "" iface with
    | error err => exact ⟨err, rfl⟩
    | ok ip =>
      obtain ⟨before, after, rfl, hel, -⟩ := (pickBeaconNACKAddr_empty_iff hH haddrs).mp hpick
      exact absurd hel (hnone ip (by simp))

end Interface

/-- Whatever is picked without the flag is usable. -/
theorem usable_of_empty {env : Env} {H : Host} (hH : H.Net) {iface : String} {ip : Bytes}
    (h : pickBeaconNACKAddr env H "" iface = .ok ip) : Usable ip := by
  obtain ⟨addrs, -, hfind⟩ := (pickBeaconNACKAddr_empty_eq_ok_iff hH.laws).mp h
  exact ((suitable_iff hH).mp (List.find?_some hfind)).usable

/-! ### What is bound and advertised -/

/-- The address is usable wherever it is used, and is the first eligible one without the flag. -/
structure AddressUsable (env : Env) (H : Host) (cfg : RetryEndpoint.Config) : Prop where
  /-- Whatever is picked. -/
  picked : ∀ ip, pickBeaconNACKAddr env H cfg.beaconNACKAddr (cfg.egressIfaces.headD "") = .ok ip → Usable ip
  /-- What the NACK socket is bound to. -/
  bound : ∀ ip, nackBindIP env H cfg = .ok ip → Usable ip
  /-- What is in the datagram of the beacon. -/
  advertised : ∀ bf bc other, beaconConfig env H cfg bf = .ok bc → Usable (slice (buildADVERT other (new bc)) 8 24)
  /-- Without the flag it is the first eligible address. -/
  first : cfg.beaconNACKAddr = "" → ∀ addrs, H.addrs (cfg.egressIfaces.headD "") = .ok addrs → ∀ ip,
    pickBeaconNACKAddr env H cfg.beaconNACKAddr (cfg.egressIfaces.headD "") = .ok ip ↔
      ∃ before after, addrs = before ++ ip :: after ∧ Eligible ip ∧ ∀ a ∈ before, ¬ Eligible a
  /-- There is none exactly if there is no eligible address. -/
  fails : cfg.beaconNACKAddr = "" → ∀ addrs, H.addrs (cfg.egressIfaces.headD "") = .ok addrs →
    ((∃ err, pickBeaconNACKAddr env H cfg.beaconNACKAddr (cfg.egressIfaces.headD "") = .error err) ↔
      ∀ a ∈ addrs, ¬ Eligible a)

theorem nackBindIP_eq_ok_iff {env : Env} {H : Host} {cfg : RetryEndpoint.Config} {ip : Bytes} :
    nackBindIP env H cfg = .ok ip ↔
      pickBeaconNACKAddr env H cfg.beaconNACKAddr (cfg.egressIfaces.headD "") = .ok ip := by
  unfold nackBindIP
  split <;> simp_all

/-- `New` leaves the address, and the datagram has it in its bytes 8 to 23. -/
theorem slice_advert {bc : Config} (hlen : bc.nackAddr.length = 16) (other : ℚ → UInt16) :
    slice (buildADVERT other (new bc)) 8 24 = bc.nackAddr := by
  have hnew : (new bc).nackAddr = bc.nackAddr := by
    unfold new
    split_ifs <;> rfl
  rw [slice_buildADVERT_addr other (hnew ▸ hlen), hnew]

/-- All there is to show is that what is picked is usable. -/
theorem addressUsable_of_picked {env : Env} {H : Host} (hH : H.Net) {cfg : RetryEndpoint.Config}
    (h : ∀ ip, pickBeaconNACKAddr env H cfg.beaconNACKAddr (cfg.egressIfaces.headD "") = .ok ip → Usable ip) :
    AddressUsable env H cfg where
  picked := h
  bound ip hbind := h ip (nackBindIP_eq_ok_iff.mp hbind)
  advertised bf bc other hb := by
    have hu := h _ (beaconConfig_spec hb).1
    rwa [slice_advert hu.length]
  first hempty addrs haddrs ip := by
    rw [hempty]
    exact pickBeaconNACKAddr_empty_iff hH haddrs
  fails hempty addrs haddrs := by
    rw [hempty]
    exact pickBeaconNACKAddr_empty_error_iff hH haddrs

/-- **The address is usable exactly if that of the flag is neither multicast nor unspecified.** The
addresses of the interface are filtered by `IsGlobalUnicast`, that of the flag is not. -/
theorem address_usable_iff {env : Env} {H : Host} (hH : H.Net) {f : Config.Flags} {cfg : RetryEndpoint.Config}
    (hload : load env f = .ok cfg) :
    AddressUsable env H cfg ↔
      (cfg.beaconNACKAddr ≠ "" → ∀ ip, env.parseIP cfg.beaconNACKAddr = some ip →
        isMulticast ip = false ∧ isUnspecified ip = false) := by
  have hcheck := (load_beacon hload).2.2.2
  constructor
  · intro h hne ip hparse
    obtain ⟨ip', hparse', hpick, -, -⟩ := pickBeaconNACKAddr_explicit hcheck hne
    obtain rfl := Option.some.inj (hparse.symm.trans hparse')
    have hu := h.picked ip hpick
    exact ⟨hu.not_multicast, hu.not_unspecified⟩
  · intro h
    apply addressUsable_of_picked hH
    intro ip hpick
    by_cases hne : cfg.beaconNACKAddr = ""
    · rw [hne] at hpick
      exact usable_of_empty hH hpick
    · obtain ⟨ip', hparse, hpick', hlen, h4⟩ := pickBeaconNACKAddr_explicit hcheck hne
      obtain rfl := Except.ok.inj (hpick.symm.trans hpick')
      obtain ⟨hmulticast, hunspecified⟩ := h hne ip hparse
      exact ⟨hlen, by simpa [isTo4] using h4, hmulticast, hunspecified⟩

/-- The machine with the address `2001:db8::1`, and the predicates of `net.IP`. -/
def oneNetAddress : Host :=
  { oneAddress with isGlobalUnicast := Go.isGlobalUnicast, isLinkLocalUnicast := Go.isLinkLocalUnicast }

theorem net_oneNetAddress : oneNetAddress.Net := ⟨fun _ => rfl, fun _ => rfl⟩

/-- By default, its address is picked. -/
theorem address_usable_by_default :
    load oneInterface (defaults {} .memory) = .ok (defaultConfig {} .memory) ∧
      pickBeaconNACKAddr oneInterface oneNetAddress "" "eth0" =
        .ok ([0x20, 0x01, 0x0d, 0xb8] ++ List.replicate 11 0 ++ [1]) ∧
      AddressUsable oneInterface oneNetAddress (defaultConfig {} .memory) := by
  refine ⟨load_defaults .., by decide, ?_⟩
  exact (address_usable_iff net_oneNetAddress (load_defaults {} .memory)).mpr fun hne => absurd rfl hne

/-- `net.ParseIP`, as far as the addresses `ff05::1` and `::` go. -/
def parseTwo (s : String) : Option Bytes :=
  if s = "ff05::1" then some ([0xff, 0x05] ++ List.replicate 13 0 ++ [1])
  else if s = "::" then some ipv6unspecified
  else none

/-- The defaults, with an address. -/
def withAddress (addr : String) : RetryEndpoint.Config :=
  { defaultConfig {} .memory with beaconNACKAddr := addr }

/-- `Load` accepts a multicast address and `::`, which are then bound and advertised. -/
theorem unusable_address_advertised :
    load { oneInterface with parseIP := parseTwo } { defaults {} .memory with beaconNACKAddr := "ff05::1" } =
        .ok (withAddress "ff05::1") ∧
      (∃ ip, nackBindIP { oneInterface with parseIP := parseTwo } oneNetAddress (withAddress "ff05::1") = .ok ip ∧
        isMulticast ip = true) ∧
      ¬ AddressUsable { oneInterface with parseIP := parseTwo } oneNetAddress (withAddress "ff05::1") ∧
      load { oneInterface with parseIP := parseTwo } { defaults {} .memory with beaconNACKAddr := "::" } =
        .ok (withAddress "::") ∧
      (∃ ip, nackBindIP { oneInterface with parseIP := parseTwo } oneNetAddress (withAddress "::") = .ok ip ∧
        isUnspecified ip = true) ∧
      ¬ AddressUsable { oneInterface with parseIP := parseTwo } oneNetAddress (withAddress "::") := by
  refine ⟨load_defaults_beacon {} .memory parseTwo (by decide) (by decide), ⟨_, rfl, by decide⟩, ?_,
    load_defaults_beacon {} .memory parseTwo (by decide) (by decide), ⟨_, rfl, by decide⟩, ?_⟩
  · intro h
    exact absurd (h.bound _ rfl).not_multicast (by decide)
  · intro h
    exact absurd (h.bound _ rfl).not_unspecified (by decide)

end RetryEndpoint.Beacon
