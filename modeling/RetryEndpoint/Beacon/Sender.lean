import RetryEndpoint.Beacon
import RetryEndpoint.Go.Ticker
import RetryEndpoint.Groups
import RetryEndpoint.Theory.Runs
import Mathlib.Tactic.Linarith
import Mathlib.Tactic.Ring

/-!
# The beacon sender

`beacon/beacon.go`, `Run`: the advert is built once and sent to the beacon group of each scope, at
once and then at every tick of a ticker, until the context is cancelled.

## The model

`dial` says which groups a socket can be opened for; the others are logged and left out, and
without any socket `Run` returns. The sender is in the loop of `send`, at its `select`, or has
returned. A write may fail, which is logged, and only those that do not are counted. Time passes
between the steps, and a tick is fired when the runtime gets to it. The recorder is always there, and the
option of the socket that picks the interface is left out.

## What is proved

* `adverts_on_time` — as long as it runs on time, the sender has written the same advert to
  every group it could dial, once for each interval that has begun, and it counts those that went out. Only
  at the instant at which an interval begins its round may be under way.
* `beacon_groups_apart` — the groups of the beacon are distinct, there is at least one, and the
  endpoint does not join any of them.
-/

namespace RetryEndpoint.Beacon

open Go Cache Theory ShardCommon

/-! ### The groups -/

/-- `shard.CtrlGroupBeacon`. -/
def ctrlGroupBeacon : UInt16 := 0xFFFD

section Groups

variable (S : ShardLib)

/-- `beaconGroups`, for the group id `groupID`. -/
def beaconGroups (cfg : Config) (groupID : UInt16) : List UDPAddr :=
  let beaconPort := 9300
  let group (mcPrefix : UInt16) : UDPAddr := ⟨S.controlGroupAddr mcPrefix groupID ctrlGroupBeacon, beaconPort⟩
  (if cfg.scope = 0x05 ∨ cfg.scope = 0xFF then [group 0xFF05] else []) ++
    (if cfg.scope = 0x08 ∨ cfg.scope = 0xFF then [group 0xFF08] else []) ++
    (if cfg.scope = 0x0E ∨ cfg.scope = 0xFF then [group 0xFF0E] else [])

end Groups

/-! ### The sender -/

namespace Sender

/-- Where the sender is. -/
inductive Pc where
  /-- In the loop of `send`, with the groups `rest` to go. -/
  | sending (rest : List UDPAddr)
  /-- At the `select`. -/
  | selecting
  /-- It has returned. -/
  | returned

/-- A datagram that was handed to a socket. -/
structure Write where
  /-- The group. -/
  group : UDPAddr
  /-- The datagram. -/
  data : Bytes
  /-- Whether the write succeeded. -/
  ok : Bool

/-- The sender. -/
structure State where
  /-- The clock. -/
  clock : Time
  /-- The ticker. -/
  ticker : Ticker
  /-- Where it is. -/
  pc : Pc
  /-- The context is cancelled. -/
  cancelled : Bool
  /-- What was written. -/
  written : List Write
  /-- `BeaconAdvertSent`: the counter. -/
  advertsSent : ℕ

/-- What can happen next. -/
inductive Event where
  /-- Time passes. -/
  | pass (d : ℕ)
  /-- The runtime gets to the ticker. -/
  | fire
  /-- The next write, and whether it succeeds. -/
  | write (ok : Bool)
  /-- The sender receives a tick. -/
  | tick
  /-- The context is cancelled. -/
  | cancel
  /-- The sender receives from `ctx.Done()`. -/
  | done

variable (conns : List UDPAddr) (buf : Bytes)

/-- The rest of the loop of `send`. -/
def Pc.loop : List UDPAddr → Pc
  | [] => .selecting
  | c :: rest => .sending (c :: rest)

/-- `Run`, when the sockets are open: it returns if there are none, and sends at once otherwise. -/
def State.start (interval : Duration) (clock : Time) : State where
  clock := clock
  ticker := .new interval clock
  pc := if conns = [] then .returned else .sending conns
  cancelled := false
  written := []
  advertsSent := 0

/-- One step. -/
def State.step (s : State) : Event → State
  | .pass d => { s with clock := s.clock + d }
  | .fire => { s with ticker := s.ticker.fire s.clock }
  | .write ok =>
    match s.pc with
    | .sending (c :: rest) =>
      { s with
        written := s.written ++ [⟨c, buf, ok⟩]
        advertsSent := if ok then s.advertsSent + 1 else s.advertsSent
        pc := .loop rest }
    | .sending [] | .selecting | .returned => s
  | .tick =>
    match s.pc with
    | .selecting => if s.ticker.pending then { s with ticker := s.ticker.receive, pc := .loop conns } else s
    | .sending _ | .returned => s
  | .cancel => { s with cancelled := true }
  | .done =>
    match s.pc with
    | .selecting => if s.cancelled then { s with ticker := s.ticker.stop, pc := .returned } else s
    | .sending _ | .returned => s

/-- A run. -/
def run (interval : Duration) (clock : Time) (es : List Event) : State :=
  runFrom (State.step conns buf) (State.start conns interval clock) es

/-- Time does not pass while there is something to send, nor past the next tick. -/
def State.Punctual (s : State) : Event → Prop
  | .pass d =>
    match s.pc with
    | .sending _ => False
    | .selecting => s.ticker.Allows (s.clock + d)
    | .returned => True
  | _ => True

/-! ### The rounds -/

/-- The groups that were written to, in order. -/
def State.groups (s : State) : List UDPAddr := s.written.map Write.group

/-- `n` rounds over the sockets. -/
def rounds (n : ℕ) : List UDPAddr := (List.replicate n conns).flatten

theorem rounds_succ (n : ℕ) : rounds conns (n + 1) = rounds conns n ++ conns := by
  rw [rounds, List.replicate_succ', List.flatten_append, rounds]
  simp

/-- The ticker has the interval of the beacon, and has not been stopped. -/
def Runs (interval : Duration) (t : Ticker) : Prop := t.period = interval ∧ t.stopped = false

/-- The round after `n` others is due now. -/
structure State.Due (interval : Duration) (start : Time) (n : ℕ) (s : State) : Prop where
  runs : Runs interval s.ticker
  clock : s.clock = start + interval * n
  next : s.ticker.next = start + interval * (n + 1)

/-- It is due at the next tick. -/
structure State.Ahead (interval : Duration) (start : Time) (n : ℕ) (s : State) : Prop where
  runs : Runs interval s.ticker
  pending : s.ticker.pending = false
  clock : start + interval * (n - 1) ≤ s.clock ∧ s.clock ≤ s.ticker.next
  next : s.ticker.next = start + interval * n

/-- What a sender that runs on time has written: `n` rounds, and a part of the one that is due. -/
def State.Kept (interval : Duration) (start : Time) (n : ℕ) (s : State) : Prop :=
  match s.pc with
  | .sending rest =>
    rest ≠ [] ∧ (∃ done, conns = done ++ rest ∧ s.groups = rounds conns n ++ done) ∧ s.Due interval start n ∧
      s.ticker.pending = false
  | .selecting =>
    conns ≠ [] ∧ s.groups = rounds conns n ∧
      (s.ticker.pending = true ∧ s.Due interval start n ∨ s.Ahead interval start n)
  | .returned => s.groups = rounds conns n

section Kept

variable {conns} {buf} {interval : Duration} {start : Time} {n : ℕ} {s : State}

/-- No tick is due before the round is over. -/
theorem State.Due.fire (h : s.Due interval start n) (hpos : 0 < interval) : s.ticker.fire s.clock = s.ticker := by
  refine s.ticker.fire_of_lt ?_
  rw [h.clock, h.next]
  linarith

variable (conns buf) in
/-- The next tick is fired when it is due. -/
theorem State.Ahead.fire (h : s.Ahead interval start n) :
    (s.step conns buf .fire).ticker.pending = true ∧ (s.step conns buf .fire).Due interval start n ∨
      (s.step conns buf .fire).Ahead interval start n := by
  rcases h.clock.2.lt_or_eq with hlt | heq
  · right
    simp only [State.step, s.ticker.fire_of_lt hlt]
    exact h
  · left
    simp only [State.step, s.ticker.fire_of_eq h.runs.2 heq.symm]
    refine ⟨trivial, ⟨h.runs, heq.trans h.next, ?_⟩⟩
    dsimp only
    rw [h.next, h.runs.1]
    ring

theorem State.Kept.step_sending (h : s.Kept conns interval start n) (hpos : 0 < interval) {rest : List UDPAddr}
    (hpc : s.pc = .sending rest) {e : Event} (he : s.Punctual e) :
    ∃ n', (s.step conns buf e).Kept conns interval start n' := by
  have hkept := h
  unfold State.Kept at hkept
  rw [hpc] at hkept
  obtain ⟨hrest, ⟨done, hdone, hgroups⟩, hdue, hpending⟩ := hkept
  cases e with
  | pass d => simp [State.Punctual, hpc] at he
  | fire =>
    refine ⟨n, ?_⟩
    rw [State.step, hdue.fire hpos]
    exact h
  | write ok =>
    cases rest with
    | nil => exact absurd rfl hrest
    | cons c rest =>
      have hstep : s.step conns buf (.write ok) =
          { s with
            written := s.written ++ [⟨c, buf, ok⟩]
            advertsSent := if ok then s.advertsSent + 1 else s.advertsSent
            pc := .loop rest } := by simp only [State.step, hpc]
      rw [hstep]
      cases rest with
      | nil =>
        -- the round is over
        refine ⟨n + 1, by simp [hdone], ?_, .inr ⟨hdue.runs, hpending, ⟨?_, ?_⟩, ?_⟩⟩
        · rw [rounds_succ, hdone, ← List.append_assoc, ← hdone, ← hgroups]
          simp [State.groups]
        all_goals dsimp only
        · rw [hdue.clock]
          push_cast
          linarith
        · rw [hdue.clock, hdue.next]
          linarith
        · rw [hdue.next]
          push_cast
          ring
      | cons c' rest =>
        refine ⟨n, by simp, ⟨done ++ [c], by rw [hdone, List.append_assoc]; rfl, ?_⟩,
          ⟨hdue.runs, hdue.clock, hdue.next⟩, hpending⟩
        rw [← List.append_assoc, ← hgroups]
        simp [State.groups]
  | cancel =>
    refine ⟨n, ?_⟩
    unfold State.Kept
    simp only [State.step, hpc]
    exact ⟨hrest, ⟨done, hdone, hgroups⟩, ⟨hdue.runs, hdue.clock, hdue.next⟩, hpending⟩
  | tick | done =>
    refine ⟨n, ?_⟩
    simp only [State.step, hpc]
    exact h

theorem State.Kept.step_selecting (h : s.Kept conns interval start n) (hpos : 0 < interval)
    (hpc : s.pc = .selecting) {e : Event} (he : s.Punctual e) :
    ∃ n', (s.step conns buf e).Kept conns interval start n' := by
  have hkept := h
  unfold State.Kept at hkept
  rw [hpc] at hkept
  obtain ⟨hconns, hgroups, htime⟩ := hkept
  refine ⟨n, ?_⟩
  cases e with
  | pass d =>
    rw [State.Punctual, hpc] at he
    obtain ⟨hpending, hle⟩ := he
    rcases htime with ⟨hp, -⟩ | hahead
    · rw [hpending] at hp
      cases hp
    · have hclock : s.clock ≤ s.clock + d := le_add_of_nonneg_right (Int.natCast_nonneg d)
      unfold State.Kept
      simp only [State.step, hpc]
      exact ⟨hconns, hgroups, .inr ⟨hahead.runs, hpending, ⟨hahead.clock.1.trans hclock, hle⟩, hahead.next⟩⟩
  | fire =>
    rcases htime with ⟨hp, hdue⟩ | hahead
    · rw [State.step, hdue.fire hpos]
      exact h
    · have hfire := hahead.fire conns buf
      unfold State.Kept
      simp only [State.step, hpc] at hfire ⊢
      exact ⟨hconns, hgroups, hfire⟩
  | write ok =>
    simp only [State.step, hpc]
    exact h
  | tick =>
    simp only [State.step, hpc]
    split_ifs with hp
    · rcases htime with ⟨-, hdue⟩ | hahead
      · -- the next round begins
        obtain ⟨c, rest, rfl⟩ := List.exists_cons_of_ne_nil hconns
        exact ⟨by simp, ⟨[], rfl, by rw [List.append_nil]; exact hgroups⟩, ⟨hdue.runs, hdue.clock, hdue.next⟩, rfl⟩
      · rw [hahead.pending] at hp
        cases hp
    · exact h
  | cancel =>
    unfold State.Kept
    simp only [State.step, hpc]
    refine ⟨hconns, hgroups, htime.imp (fun hd => ⟨hd.1, ⟨hd.2.runs, hd.2.clock, hd.2.next⟩⟩) fun ha => ?_⟩
    exact ⟨ha.runs, ha.pending, ha.clock, ha.next⟩
  | done =>
    simp only [State.step, hpc]
    split_ifs
    · exact hgroups
    · exact h

theorem State.Kept.step (h : s.Kept conns interval start n) (hpos : 0 < interval) {e : Event} (he : s.Punctual e) :
    ∃ n', (s.step conns buf e).Kept conns interval start n' := by
  cases hpc : s.pc with
  | sending rest => exact h.step_sending hpos hpc he
  | selecting => exact h.step_selecting hpos hpc he
  | returned =>
    -- nothing is written any more
    refine ⟨n, ?_⟩
    unfold State.Kept at h ⊢
    rw [hpc] at h
    cases e with
    | pass | fire | write | tick | cancel | done =>
      simp only [State.step, hpc]
      exact h

/-- What is written and counted, on time or not. -/
structure State.Counted (buf : Bytes) (s : State) : Prop where
  /-- Every datagram is the advert. -/
  data : ∀ w ∈ s.written, w.data = buf
  /-- Those that went out are counted. -/
  advertsSent : s.advertsSent = (s.written.filter Write.ok).length

theorem State.Counted.step (h : s.Counted buf) (e : Event) : (s.step conns buf e).Counted buf := by
  cases e with
  | write ok =>
    simp only [State.step]
    split
    · refine ⟨fun w hw => ?_, ?_⟩
      · rcases List.mem_append.mp hw with hw | hw
        · exact h.data w hw
        · rw [List.mem_singleton.mp hw]
      · have hsent := h.advertsSent
        cases ok <;> simp [hsent]
    all_goals exact h
  | tick | done =>
    simp only [State.step]
    split
    · split_ifs
      · exact ⟨h.data, h.advertsSent⟩
      · exact h
    all_goals exact h
  | pass | fire | cancel => exact ⟨h.data, h.advertsSent⟩

end Kept

/-- What a sender has done by now. -/
structure Advertised (conns : List UDPAddr) (buf : Bytes) (interval : Duration) (start : Time) (s : State) : Prop where
  /-- Every datagram is the advert, and those that went out are counted. -/
  counted : s.Counted buf
  /-- Each socket was written to in each of `n` rounds, and as long as it runs the time is in the `n`-th
  interval. At its end, the round that is due then may be under way: a part of the sockets, but not all of
  them, have been written to once more. -/
  rounds : ∃ n done rest, conns = done ++ rest ∧ s.groups = rounds conns n ++ done ∧
    (done ≠ [] → rest ≠ [] ∧ s.clock = start + interval * n) ∧
    (s.pc ≠ .returned → start + interval * (n - 1) ≤ s.clock ∧ s.clock ≤ start + interval * n)

theorem State.Kept.advertised {conns : List UDPAddr} {buf : Bytes} {interval : Duration} {start : Time} {n : ℕ}
    {s : State} (h : s.Kept conns interval start n) (hpos : 0 < interval) (hc : s.Counted buf) :
    Advertised conns buf interval start s := by
  have hdue (hd : s.Due interval start n) : start + interval * (n - 1) ≤ s.clock ∧ s.clock ≤ start + interval * n := by
    rw [hd.clock]
    constructor <;> linarith
  unfold State.Kept at h
  refine ⟨hc, ?_⟩
  cases hpc : s.pc with
  | sending rest =>
    rw [hpc] at h
    obtain ⟨hrest, ⟨done, hdone, hgroups⟩, hd, -⟩ := h
    exact ⟨n, done, rest, hdone, hgroups, fun _ => ⟨hrest, hd.clock⟩, fun _ => hdue hd⟩
  | selecting =>
    rw [hpc] at h
    obtain ⟨-, hgroups, htime⟩ := h
    refine ⟨n, [], conns, rfl, by rw [hgroups, List.append_nil], fun hne => absurd rfl hne, fun _ => ?_⟩
    rcases htime with ⟨-, hd⟩ | ha
    · exact hdue hd
    · exact ⟨ha.clock.1, ha.clock.2.trans ha.next.le⟩
  | returned =>
    rw [hpc] at h
    exact ⟨n, [], conns, rfl, by rw [h, List.append_nil], fun hne => absurd rfl hne, fun hne => absurd rfl hne⟩

theorem advertised_run {interval : Duration} (hpos : 0 < interval) (start : Time) {es : List Event}
    (hes : Along (State.step conns buf) (State.start conns interval start) State.Punctual es) :
    Advertised conns buf interval start (run conns buf interval start es) := by
  have hstart : (State.start conns interval start).Kept conns interval start 0 := by
    unfold State.Kept State.start
    by_cases hconns : conns = []
    · simp only [if_pos hconns]
      rfl
    · simp only [if_neg hconns]
      refine ⟨hconns, ⟨[], rfl, rfl⟩, ⟨⟨rfl, rfl⟩, ?_, ?_⟩, rfl⟩
      · simp
      · simp [Ticker.new]
  have hstep : ∀ (s : State) (e : Event), (∃ n, s.Kept conns interval start n) ∧ s.Counted buf → s.Punctual e →
      (∃ n, (s.step conns buf e).Kept conns interval start n) ∧ (s.step conns buf e).Counted buf := by
    rintro s e ⟨⟨n, hn⟩, hc⟩ he
    exact ⟨hn.step hpos he, hc.step e⟩
  obtain ⟨⟨n, hn⟩, hc⟩ := Along.invariant ⟨⟨0, hstart⟩, ⟨nofun, rfl⟩⟩ hstep hes
  exact hn.advertised hpos hc

end Sender

/-! ### The sender of an endpoint -/

section Endpoint

variable {env : Config.Env} {H : Host} {f : Config.Flags} {cfg : RetryEndpoint.Config} {bf : Flags} {b : Config}

/-- The sockets of the beacon: one for each group that can be dialled. -/
def conns (S : ShardLib) (dial : UDPAddr → Option Err) (b : Config) (groupID : UInt16) : List UDPAddr :=
  (beaconGroups S b groupID).filter fun g => (dial g).isNone

/-- `New` leaves an interval that `Load` has accepted as it is. -/
theorem new_eq_self (h : Config.load env f = .ok cfg) (hb : beaconConfig env H cfg bf = .ok b) :
    new b = b ∧ b.interval = cfg.beaconInterval ∧ 0 < cfg.beaconInterval := by
  obtain ⟨-, -, -, -, hinterval, -⟩ := beaconConfig_spec hb
  have hpos : 0 < cfg.beaconInterval := lt_of_lt_of_le (by decide) (Config.load_beacon h).2.2.1
  have hne : b.interval ≠ 0 := by
    rw [hinterval]
    exact hpos.ne'
  exact ⟨if_neg hne, hinterval, hpos⟩

/-- **The beacon keeps to its interval**: as long as it runs on time, the same advert has been
written once to every group that could be dialled for each interval that has begun, whichever
writes fail, and the counter says how many went out. At the instant at which an interval begins, its
round may not have begun or be under way. -/
theorem adverts_on_time (h : Config.load env f = .ok cfg) (hb : beaconConfig env H cfg bf = .ok b) (S : ShardLib)
    (dial : UDPAddr → Option Err) (other : ℚ → UInt16) (start : Time) {es : List Sender.Event}
    (hes : Along (Sender.State.step (conns S dial (new b) cfg.mcGroupID) (buildADVERT other (new b)))
      (.start (conns S dial (new b) cfg.mcGroupID) (new b).interval start) Sender.State.Punctual es) :
    Sender.Advertised (conns S dial (new b) cfg.mcGroupID) (buildADVERT other (new b)) cfg.beaconInterval start
      (Sender.run (conns S dial (new b) cfg.mcGroupID) (buildADVERT other (new b)) (new b).interval start es) := by
  obtain ⟨hnew, hinterval, hpos⟩ := new_eq_self h hb
  rw [hnew, hinterval] at hes ⊢
  exact Sender.advertised_run _ _ hpos start hes

/-- The defaults, with a beacon in all scopes. -/
theorem load_allScopes :
    Config.load Config.oneInterface { Config.defaults {} .memory with beaconScope := "all" } =
      .ok { Config.defaultConfig {} .memory with beaconScopeByte := 0xFF } :=
  Config.load_eq_ok_iff.mpr { Config.load_eq_ok_iff.mp (Config.load_defaults {} .memory) with beaconScope := rfl }

/-- A round over three groups, in which one write fails, and two thirds of the next a minute later. -/
def roundAndMore : List Sender.Event :=
  [.write true, .write false, .write true, .pass 60000000000, .fire, .tick, .write true, .write true]

theorem adverts_on_time_in_roundAndMore :
    ∃ b, beaconConfig Config.oneInterface oneAddress
        { Config.defaultConfig {} .memory with beaconScopeByte := 0xFF } {} = .ok b ∧
      let s := Sender.run (conns ipv6Groups (fun _ => none) (new b) 0x000B) (buildADVERT (fun _ => 0) (new b))
        (new b).interval 0 roundAndMore
      Sender.Advertised (conns ipv6Groups (fun _ => none) (new b) 0x000B) (buildADVERT (fun _ => 0) (new b))
          (60 * Config.second) 0 s ∧
        s.clock = 60 * Config.second ∧ s.groups.length = 5 ∧ s.advertsSent = 4 := by
  have hb : beaconConfig Config.oneInterface oneAddress
      { Config.defaultConfig {} .memory with beaconScopeByte := 0xFF } {} = .ok _ := rfl
  refine ⟨_, hb, ?_, by decide, by decide, by decide⟩
  refine adverts_on_time load_allScopes hb ipv6Groups (fun _ => none) (fun _ => 0) 0 ?_
  simp only [roundAndMore, along_cons_iff]
  exact ⟨trivial, trivial, trivial, ⟨rfl, by decide⟩, trivial, trivial, trivial, trivial, along_nil⟩

/-! ### The groups of an endpoint -/

/-- What is assumed of the addresses of control groups: the prefix and the index are in bytes of their own. -/
structure AddrLaws (S : ShardLib) : Prop extends ShardLaws S where
  controlGroupAddr_inj2 : ∀ groupID, Function.Injective2 fun mcPrefix index => S.controlGroupAddr mcPrefix groupID index

theorem addrLaws_ipv6Groups : AddrLaws ipv6Groups where
  toShardLaws := shardLaws_ipv6Groups
  controlGroupAddr_inj2 groupID p p' i i' h := by
    have h' : putUint16 p ++ (List.replicate 10 0 ++ putUint16 groupID ++ putUint16 i) =
        putUint16 p' ++ (List.replicate 10 0 ++ putUint16 groupID ++ putUint16 i') := by
      simpa [ipv6Groups] using h
    obtain ⟨hp, hrest⟩ := List.append_inj h' rfl
    exact ⟨putUint16_inj hp, putUint16_inj (List.append_cancel_left hrest)⟩

theorem ctrlGroupBeacon_not_mem_joined (cfg : RetryEndpoint.Config) : ctrlGroupBeacon ∉ joined cfg := by
  intro h
  simp only [joined, List.mem_append, List.mem_map, List.mem_range, List.mem_singleton] at h
  rcases h with (⟨i, hi, heq⟩ | heq) | h
  · -- the index of a shard has fifteen bits
    have hi : i < 2 ^ 15 := hi.trans_le (numGroups_le cfg)
    have hnat := congrArg UInt16.toNat heq
    rw [UInt16.toNat_ofNat', Nat.mod_eq_of_lt (by omega)] at hnat
    simp [ctrlGroupBeacon] at hnat
    omega
  · cases heq
  · split_ifs at h
    · cases List.mem_singleton.mp h
    · cases h

variable {S : ShardLib}

/-- The prefixes of the scopes of a byte. -/
def scopePrefixes (scope : UInt8) : List UInt16 :=
  (if scope = 0x05 ∨ scope = 0xFF then [0xFF05] else []) ++ (if scope = 0x08 ∨ scope = 0xFF then [0xFF08] else []) ++
    (if scope = 0x0E ∨ scope = 0xFF then [0xFF0E] else [])

theorem beaconGroups_eq (groupID : UInt16) : beaconGroups S b groupID =
    (scopePrefixes b.scope).map fun p => ⟨S.controlGroupAddr p groupID ctrlGroupBeacon, 9300⟩ := by
  unfold beaconGroups scopePrefixes
  split_ifs <;> rfl

theorem nodup_scopePrefixes (scope : UInt8) : (scopePrefixes scope).Nodup := by
  unfold scopePrefixes
  split_ifs <;> decide

/-- The beacon has a scope. -/
theorem scopePrefixes_ne_nil (h : Config.load env f = .ok cfg) : scopePrefixes cfg.beaconScopeByte ≠ [] := by
  have hscope := (Config.load_eq_ok_iff.mp h).beaconScope
  unfold Config.checkBeaconScope at hscope
  split_ifs at hscope
  all_goals
    rw [← Except.ok.inj hscope]
    decide

/-- **The groups of the beacon are distinct, there is one at least, and the endpoint joins none of
them**, so it does not receive its own adverts as frames. -/
theorem beacon_groups_apart (hS : AddrLaws S) (h : Config.load env f = .ok cfg)
    (hb : beaconConfig env H cfg bf = .ok b) :
    beaconGroups S (new b) cfg.mcGroupID ≠ [] ∧ (beaconGroups S (new b) cfg.mcGroupID).Nodup ∧
      ∀ g ∈ beaconGroups S (new b) cfg.mcGroupID, ∀ a, some a ∈ buildGroups S cfg cfg.engine → a.ip ≠ g.ip := by
  obtain ⟨-, -, -, -, -, hscope, -⟩ := beaconConfig_spec hb
  rw [(new_eq_self h hb).1, beaconGroups_eq, hscope]
  refine ⟨?_, ?_, ?_⟩
  · rw [Ne, List.map_eq_nil_iff]
    exact scopePrefixes_ne_nil h
  · refine (nodup_scopePrefixes _).map fun p p' hp => ?_
    exact (hS.controlGroupAddr_inj2 _ (congrArg UDPAddr.ip hp)).1
  · intro g hg a ha heq
    obtain ⟨p, -, rfl⟩ := List.mem_map.mp hg
    rw [buildGroups_eq hS.toShardLaws] at ha
    obtain ⟨i, hi, hia⟩ := List.mem_map.mp ha
    obtain rfl := Option.some.inj hia
    -- the indices of the two groups are the same
    have hindex := (hS.controlGroupAddr_inj2 _ heq).2
    exact ctrlGroupBeacon_not_mem_joined cfg (hindex ▸ hi)

theorem beacon_groups_apart_by_default :
    AddrLaws ipv6Groups ∧
      Config.load Config.oneInterface (Config.defaults {} .memory) = .ok (Config.defaultConfig {} .memory) ∧
        ∃ b, beaconConfig Config.oneInterface oneAddress (Config.defaultConfig {} .memory) {} = .ok b ∧
          beaconGroups ipv6Groups (new b) 0x000B ≠ [] := by
  have hb : beaconConfig Config.oneInterface oneAddress (Config.defaultConfig {} .memory) {} = .ok _ := rfl
  have happ := beacon_groups_apart addrLaws_ipv6Groups (Config.load_defaults {} .memory) hb
  exact ⟨addrLaws_ipv6Groups, Config.load_defaults .., _, hb, happ.1⟩

end Endpoint

end RetryEndpoint.Beacon
