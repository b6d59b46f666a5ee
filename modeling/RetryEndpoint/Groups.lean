import RetryEndpoint.Wiring

/-!
# The multicast groups

Three places map frames to multicast groups: `buildGroups` in `main.go` says which groups
the ingress worker joins, `processFrame` tells the classes of frames apart as they come in,
and `Retransmit` picks the group a frame is sent to. A fourth, the group tier of the rate
limiter, picks the bucket that a retransmit is charged to.

## The model

`Retransmit` sends a frame to one of three kinds of groups (`egressKind`). A group is known by
the 16-bit index in its address, that of a shard or one of the control indices at the top of
the range (`GroupKind.number`); `joined` are the indices that are joined. `buildGroups`
is the code: a slice of nil pointers that a loop fills, and one or two appends.

The `shard` and `frame` packages are assumed to obey `ShardLaws` and `ClassifierLaws`. The second says that
the classifiers look at the version byte alone; for the frames that they accept it is enough that these have
the version byte (`ClassifierSound`, `egressKind_of_accepted`). For the
buckets it is enough that different groups have different addresses (`GroupsApart`).

## What is proved

* `groupAddr_kind`, `addr_number`, `buildGroups_eq` — the addresses of the code are those of
  the kinds and their indices.
* `groups_consistent` — a frame is sent to a group that is joined, the one of the class it
  came in by; the groups joined are distinct; no transaction goes to a control group.
* `same_bucket_iff` — the group tier charges by the transaction id alone, so it charges the
  group that is used for transactions and not in general.
-/

namespace RetryEndpoint

open Go Cache ShardCommon Ingress Retransmit NackServer

/-! ### The groups that are joined -/

section Join

variable (S : ShardLib)

/-- The loop of `buildGroups`, with `n` rounds to go from `i` on. -/
def fillGroups (e : Engine) (port : ℤ) : ℕ → ℕ → List (Option UDPAddr) → List (Option UDPAddr)
  | 0, _, groups => groups
  | n + 1, i, groups => fillGroups e port n (i + 1) (groups.set i (some (S.addr e (UInt32.ofNat i) port)))

/-- `buildGroups`; `none` is a nil pointer. -/
def buildGroups (cfg : Config) (e : Engine) : List (Option UDPAddr) :=
  let groups := fillGroups S e cfg.listenPort cfg.numGroups 0 (List.replicate cfg.numGroups none)
  let ctrlIP := S.controlGroupAddr cfg.mcPrefix cfg.mcGroupID ctrlGroupControl
  let groups := groups ++ [some ⟨ctrlIP, cfg.listenPort⟩]
  if cfg.subtreeDataEnabled then
    let subtreeDataIP := S.controlGroupAddr cfg.mcPrefix cfg.mcGroupID ctrlGroupSubtreeAnnounce
    groups ++ [some ⟨subtreeDataIP, cfg.listenPort⟩]
  else groups

/-- The indices of the groups that are joined. -/
def joined (cfg : Config) : List UInt16 :=
  (List.range cfg.numGroups).map UInt16.ofNat ++ [ctrlGroupControl] ++
    if cfg.subtreeDataEnabled then [ctrlGroupSubtreeAnnounce] else []

/-- The loop fills the places from `i` on, and leaves those before it alone. -/
theorem fillGroups_eq (e : Engine) (port : ℤ) (n : ℕ) (done : List (Option UDPAddr)) :
    fillGroups S e port n done.length (done ++ List.replicate n none) =
      done ++ (List.range' done.length n).map fun i => some (S.addr e (UInt32.ofNat i) port) := by
  induction n generalizing done with
  | zero => simp [fillGroups]
  | succ n ih =>
    have hset :
        (done ++ List.replicate (n + 1) none).set done.length (some (S.addr e (UInt32.ofNat done.length) port)) =
        (done ++ [some (S.addr e (UInt32.ofNat done.length) port)]) ++ List.replicate n none := by
      simp [List.replicate_succ]
    have hlen : done.length + 1 = (done ++ [some (S.addr e (UInt32.ofNat done.length) port)]).length := by simp
    rw [fillGroups, hset, hlen, ih, List.range'_succ]
    simp

theorem numGroups_le (cfg : Config) : cfg.numGroups ≤ 2 ^ 15 := by
  rw [Config.numGroups, Nat.one_shiftLeft]
  exact Nat.pow_le_pow_right (by decide) cfg.shardBits.2.2

variable {S}

/-- The groups that are joined are those of the indices, and none is nil. -/
theorem buildGroups_eq (hS : ShardLaws S) (cfg : Config) :
    buildGroups S cfg cfg.engine =
      (joined cfg).map fun i => some ⟨S.controlGroupAddr cfg.mcPrefix cfg.mcGroupID i, cfg.listenPort⟩ := by
  have hfill := fillGroups_eq S cfg.engine cfg.listenPort cfg.numGroups []
  have hshards : ((List.range cfg.numGroups).map fun i => some (S.addr cfg.engine (UInt32.ofNat i) cfg.listenPort)) =
      (List.range cfg.numGroups).map fun i =>
        some ⟨S.controlGroupAddr cfg.mcPrefix cfg.mcGroupID (UInt16.ofNat i), cfg.listenPort⟩ := by
    refine List.map_congr_left fun i hi => ?_
    have hi : i < 2 ^ 15 := (List.mem_range.mp hi).trans_le (numGroups_le cfg)
    have hnat : (UInt32.ofNat i).toNat = i := UInt32.toNat_ofNat_of_lt' (hi.trans (by decide))
    rw [hS.addr_eq _ _ _ (by omega)]
    simp [Config.engine]
  simp only [List.nil_append, List.length_nil, ← List.range_eq_range'] at hfill
  rw [buildGroups, joined, hfill, hshards]
  cases cfg.subtreeDataEnabled <;> simp

/-- A shard group is joined. -/
theorem mem_joined_of_lt {cfg : Config} {i : UInt16} (h : i.toNat < 2 ^ cfg.shardBits.val) : i ∈ joined cfg := by
  have hmem : i ∈ (List.range cfg.numGroups).map UInt16.ofNat :=
    List.mem_map.mpr ⟨i.toNat, by rwa [List.mem_range, Config.numGroups, Nat.one_shiftLeft], UInt16.ofNat_toNat⟩
  simp [joined, hmem]

/-- No index is joined twice. -/
theorem nodup_joined (cfg : Config) : (joined cfg).Nodup := by
  have hle := numGroups_le cfg
  have hlt : ∀ i ∈ (List.range cfg.numGroups).map UInt16.ofNat, i.toNat < 2 ^ 15 := by
    intro i hi
    obtain ⟨j, hj, rfl⟩ := List.mem_map.mp hi
    rw [UInt16.toNat_ofNat']
    exact (Nat.mod_le ..).trans_lt ((List.mem_range.mp hj).trans_le hle)
  have hshards : ((List.range cfg.numGroups).map UInt16.ofNat).Nodup := by
    refine List.Nodup.map_on (fun i hi j hj hij => ?_) List.nodup_range
    have hn := congrArg UInt16.toNat hij
    rw [List.mem_range] at hi hj
    rwa [UInt16.toNat_ofNat', UInt16.toNat_ofNat', Nat.mod_eq_of_lt (by omega), Nat.mod_eq_of_lt (by omega)] at hn
  have hc : ctrlGroupControl ∉ (List.range cfg.numGroups).map UInt16.ofNat := fun h => absurd (hlt _ h) (by decide)
  have hs : ctrlGroupSubtreeAnnounce ∉ (List.range cfg.numGroups).map UInt16.ofNat :=
    fun h => absurd (hlt _ h) (by decide)
  have hall :
      ((List.range cfg.numGroups).map UInt16.ofNat ++ [ctrlGroupControl] ++ [ctrlGroupSubtreeAnnounce]).Nodup := by
    rw [List.append_assoc, List.nodup_append]
    refine ⟨hshards, by decide, fun i hi j hj hij => ?_⟩
    subst hij
    rcases List.mem_append.mp hj with hj | hj
    · exact hc (List.mem_singleton.mp hj ▸ hi)
    · exact hs (List.mem_singleton.mp hj ▸ hi)
  unfold joined
  split_ifs
  · exact hall
  · exact hall.sublist (List.Sublist.append_left (List.nil_sublist _) _)

end Join

/-! ### The group a frame is sent to -/

/-- The kinds of groups. -/
inductive GroupKind where
  /-- `CtrlGroupControl`. -/
  | control
  /-- `CtrlGroupSubtreeAnnounce`. -/
  | subtree
  /-- The shard group of a transaction id. -/
  | shard
  deriving DecidableEq

/-- The kind of group that `Retransmit` sends a frame to, by its version. -/
def egressKind (raw : Bytes) : GroupKind :=
  if raw[6]? = some frameVerV4 ∨ raw[6]? = some frameVerV6 then .control
  else if raw[6]? = some frameVerV5 then .subtree
  else .shard

/-- The kind of group that frames of a class belong to. -/
def groupKind : FrameClass → GroupKind
  | .block | .anchor => .control
  | .subtreeData => .subtree
  | .transaction => .shard

section Egress

variable (S : ShardLib)

/-- The address of the group of a kind. -/
def GroupKind.addr (r : Retransmitter) (txID : Bytes) : GroupKind → UDPAddr
  | .control => ⟨S.controlGroupAddr r.engine.mcPrefix r.engine.groupID ctrlGroupControl, r.egressPort⟩
  | .subtree => ⟨S.controlGroupAddr r.engine.mcPrefix r.engine.groupID ctrlGroupSubtreeAnnounce, r.egressPort⟩
  | .shard => S.addr r.engine (S.groupIndex r.engine txID) r.egressPort

/-- The index of the group of a kind. -/
def GroupKind.number (e : Engine) (txID : Bytes) : GroupKind → UInt16
  | .control => ctrlGroupControl
  | .subtree => ctrlGroupSubtreeAnnounce
  | .shard => (S.groupIndex e txID).toUInt16

/-- The group that `Retransmit` sends a frame to is that of its kind. -/
theorem groupAddr_kind (r : Retransmitter) (raw txID : Bytes) :
    r.groupAddr S raw txID = (egressKind raw).addr S r txID := by
  unfold Retransmitter.groupAddr egressKind
  cases raw[6]? with
  | none => simp [GroupKind.addr]
  | some ver =>
    by_cases h4 : ver = frameVerV4
    · simp [h4, GroupKind.addr]
    by_cases h5 : ver = frameVerV5
    · subst h5
      simp [GroupKind.addr, frameVerV4, frameVerV5, frameVerV6]
    by_cases h6 : ver = frameVerV6
    · subst h6
      simp [GroupKind.addr, frameVerV4, frameVerV5, frameVerV6]
    · simp [h4, h5, h6, GroupKind.addr]

variable {S}

theorem toNat_groupIndex (hS : ShardLaws S) {e : Engine} (he : e.shardBits ≤ 15) (txID : Bytes) :
    (S.groupIndex e txID).toUInt16.toNat = (S.groupIndex e txID).toNat ∧ (S.groupIndex e txID).toNat < 2 ^ 15 := by
  have hlt := (hS.groupIndex_lt e txID).trans_le (Nat.pow_le_pow_right (by decide) he)
  exact ⟨by rw [UInt32.toNat_toUInt16]; omega, hlt⟩

/-- The address of a group is that of its index. -/
theorem addr_number (hS : ShardLaws S) {r : Retransmitter} (he : r.engine.shardBits ≤ 15) (txID : Bytes)
    (k : GroupKind) :
    k.addr S r txID =
      ⟨S.controlGroupAddr r.engine.mcPrefix r.engine.groupID (k.number S r.engine txID), r.egressPort⟩ := by
  have hlt := (toNat_groupIndex hS he txID).2
  cases k with
  | control | subtree => rfl
  | shard => exact hS.addr_eq r.engine _ _ (by omega)

/-- The classes that a frame comes in by and the groups that it is sent to agree. -/
theorem egressKind_eq {F : FrameLib} (hF : ClassifierLaws F) {raw : Bytes} (h : 7 ≤ raw.length) :
    egressKind raw = groupKind (classify F raw) := by
  have h4 := hF.isBlockFrame_iff raw h
  have h5 := hF.isSubtreeDataFrame_iff raw h
  have h6 := hF.isAnchorFrame_iff raw h
  unfold egressKind classify
  by_cases hb : raw[6]? = some frameVerV4
  · simp [h4.mpr hb, hb, groupKind]
  by_cases hs : raw[6]? = some frameVerV5
  · have hne : frameVerV5 ≠ frameVerV4 ∧ frameVerV5 ≠ frameVerV6 := by decide
    simp [h4, h5, hs, hne, groupKind]
  by_cases ha : raw[6]? = some frameVerV6
  · have hne : frameVerV6 ≠ frameVerV4 ∧ frameVerV6 ≠ frameVerV5 := by decide
    simp [h4, h5, h6, ha, hne, groupKind]
  · simp [h4, h5, h6, hb, hs, ha, groupKind]

/-- For a frame that a classifier accepts, this needs no more than that the frame has the version byte. -/
theorem egressKind_of_accepted {F : FrameLib} (hF : ClassifierSound F) {raw : Bytes}
    (h : classify F raw ≠ .transaction) : egressKind raw = groupKind (classify F raw) := by
  unfold classify at h ⊢
  split_ifs at h ⊢ with hblock hsubtree hanchor
  · exact if_pos (.inl (hF.isBlockFrame raw hblock))
  · rw [egressKind, hF.isSubtreeDataFrame raw hsubtree]
    rfl
  · exact if_pos (.inr (hF.isAnchorFrame raw hanchor))
  · exact absurd rfl h

example {raw : Bytes} (h : classify wireFrames raw ≠ .transaction) :
    egressKind raw = groupKind (classify wireFrames raw) := egressKind_of_accepted classifierSound_wireFrames h

/-- The group of a frame is joined, that of subtree data if it is enabled. -/
theorem number_mem_joined (hS : ShardLaws S) {cfg : Config} {k : GroupKind} (hk : k = .subtree → cfg.subtreeDataEnabled)
    (txID : Bytes) : k.number S cfg.engine txID ∈ joined cfg := by
  cases k with
  | control => simp [joined, GroupKind.number]
  | subtree => simp [joined, GroupKind.number, hk rfl]
  | shard =>
    refine mem_joined_of_lt ?_
    rw [GroupKind.number, (toNat_groupIndex hS cfg.shardBits.2.2 txID).1]
    exact hS.groupIndex_lt cfg.engine txID

end Egress

/-! ### Joins, ingress and egress agree -/

/-- **What it means for joins, ingress and egress to agree** in an endpoint. -/
structure GroupsConsistent (S : ShardLib) (F : FrameLib) (cfg : Config) (r : Retransmitter) : Prop where
  /-- A frame is sent to a group that is joined; one of version 5, if subtree data is enabled. -/
  joined : ∀ raw txID, 7 ≤ raw.length → (raw[6]? = some frameVerV5 → cfg.subtreeDataEnabled) →
    ∃ a, some a ∈ buildGroups S cfg cfg.engine ∧ a.ip = (r.groupAddr S raw txID).ip
  /-- It is the group of the class that the frame comes in by. -/
  routed : ∀ raw txID, 7 ≤ raw.length → r.groupAddr S raw txID =
    match classify F raw with
    | .block | .anchor => ⟨S.controlGroupAddr cfg.mcPrefix cfg.mcGroupID ctrlGroupControl, r.egressPort⟩
    | .subtreeData => ⟨S.controlGroupAddr cfg.mcPrefix cfg.mcGroupID ctrlGroupSubtreeAnnounce, r.egressPort⟩
    | .transaction => S.addr cfg.engine (S.groupIndex cfg.engine txID) r.egressPort
  /-- The groups joined have distinct addresses, and none is nil. -/
  distinct : ((buildGroups S cfg cfg.engine).map (Option.map UDPAddr.ip)).Nodup ∧ none ∉ buildGroups S cfg cfg.engine
  /-- A transaction is never sent to a control group. -/
  ordinary : ∀ raw txID, 7 ≤ raw.length → classify F raw = .transaction → ∀ index : UInt16, 0xFFFB ≤ index →
    (r.groupAddr S raw txID).ip ≠ S.controlGroupAddr cfg.mcPrefix cfg.mcGroupID index

/-- **Joins, ingress and egress agree** in every endpoint that is configured and built by the
code. -/
theorem groups_consistent {env : Config.Env} {f : Config.Flags} {cfg : Config} (_ : Config.load env f = .ok cfg)
    {S : ShardLib} (hS : ShardLaws S) {F : FrameLib} (hF : ClassifierLaws F) (redisCache : Option RedisCache) :
    GroupsConsistent S F cfg (cfg.retransmitter redisCache) where
  joined raw txID _ h5 := by
    have hk : egressKind raw = .subtree → cfg.subtreeDataEnabled := by
      unfold egressKind
      split_ifs with h₁ h₂
      · nofun
      · exact fun _ => h5 h₂
      · nofun
    rw [buildGroups_eq hS, groupAddr_kind, addr_number hS cfg.shardBits.2.2]
    exact ⟨_, List.mem_map_of_mem (number_mem_joined hS hk txID), rfl⟩
  routed raw txID hlen := by
    rw [groupAddr_kind, egressKind_eq hF hlen]
    cases classify F raw <;> rfl
  distinct := by
    rw [buildGroups_eq hS, List.map_map]
    refine ⟨(nodup_joined cfg).map ?_, by simp⟩
    intro i j hij
    exact hS.controlGroupAddr_inj _ _ (Option.some.inj hij)
  ordinary raw txID hlen hclass index hindex hip := by
    rw [groupAddr_kind, addr_number hS cfg.shardBits.2.2, egressKind_eq hF hlen, hclass] at hip
    have hindex' := congrArg UInt16.toNat (hS.controlGroupAddr_inj _ _ hip)
    obtain ⟨hnat, hlt⟩ := toNat_groupIndex hS (e := cfg.engine) cfg.shardBits.2.2 txID
    have hle : (0xFFFB : UInt16).toNat ≤ index.toNat := UInt16.le_iff_toNat_le.mp hindex
    rw [groupKind, GroupKind.number] at hindex'
    have hc : (0xFFFB : UInt16).toNat = 65531 := rfl
    have he : (cfg.retransmitter redisCache).engine = cfg.engine := rfl
    rw [he, hnat] at hindex'
    omega

/-- They agree in an endpoint with the default configuration. -/
theorem groups_consistent_by_default :
    GroupsConsistent ipv6Groups versionFrames (Config.defaultConfig {} .memory)
      ((Config.defaultConfig {} .memory).retransmitter none) :=
  groups_consistent (Config.load_defaults {} .memory) shardLaws_ipv6Groups classifierLaws_versionFrames none

/-! ### The bucket a retransmit is charged to -/

section Bucket

open RateLimit

variable {D : Deps} {S : ShardLib}

/-- The bucket of the group tier that a frame is charged to, for a source. -/
def chargedBucket (D : Deps) (S : ShardLib) (cfg : Config) (ip raw : Bytes) : Bytes :=
  groupKey D ip (S.groupIndex cfg.engine (frameTxID raw))

/-- The group that the frame is sent to when it is not throttled. -/
def sentTo (S : ShardLib) (r : Retransmitter) (raw : Bytes) : UDPAddr := r.groupAddr S raw (frameTxID raw)

/-- The handling of a hit takes its token from that bucket and from no other. -/
theorem serve_groupLimiter (cfg : Config) {σ : Type} (B : Backend σ) (raw : Bytes) (src : Option UDPAddr)
    (seqNum : UInt64) (now : Time) (sendErr : Bool) (l : Limiter D) (s : σ) :
    (cfg.server.serve S B raw src seqNum now sendErr l s).2.1.groupLimiter =
      (l.groupLimiter.allow (chargedBucket D S cfg (srcIP src) raw) now).2 := by
  simp only [Server.serve]
  split_ifs <;> rfl

/-- And what is sent then goes to that group. -/
theorem egress_sentTo (r : Retransmitter) (raw : Bytes) (order : List Bytes) (write : Bytes → Option Err) :
    ∀ x ∈ (r.egress S raw (frameTxID raw) order write).sent, x.addr = sentTo S r raw := by
  simp only [Retransmitter.egress]
  induction order with
  | nil => simp [Retransmitter.writeAll]
  | cons name order ih =>
    intro x hx
    rw [Retransmitter.writeAll] at hx
    cases hw : write name with
    | some e => simp [hw] at hx
    | none =>
      simp only [hw, List.mem_cons] at hx
      rcases hx with rfl | hx
      · rfl
      · exact ih x hx

/-- What is assumed of the `shard` package here: indices are within the width of the shard key,
and different groups have different addresses. -/
structure GroupsApart (S : ShardLib) (e : Engine) : Prop where
  /-- An index is within the width. -/
  groupIndex_lt : ∀ txID, (S.groupIndex e txID).toNat < 2 ^ e.shardBits
  /-- Different shards have different addresses. -/
  addr_inj : ∀ i j port, i.toNat < 2 ^ e.shardBits → j.toNat < 2 ^ e.shardBits →
    S.addr e i port = S.addr e j port → i = j
  /-- No shard has the address of a control group. -/
  control_ne : ∀ index ∈ [ctrlGroupControl, ctrlGroupSubtreeAnnounce], ∀ i port, i.toNat < 2 ^ e.shardBits →
    ⟨S.controlGroupAddr e.mcPrefix e.groupID index, port⟩ ≠ S.addr e i port
  /-- The two control groups have different addresses. -/
  controls_ne : S.controlGroupAddr e.mcPrefix e.groupID ctrlGroupControl ≠
    S.controlGroupAddr e.mcPrefix e.groupID ctrlGroupSubtreeAnnounce

theorem groupsApart_of_laws (hS : ShardLaws S) {e : Engine} (he : e.shardBits ≤ 15) : GroupsApart S e := by
  have hbits : 2 ^ e.shardBits ≤ 2 ^ 15 := Nat.pow_le_pow_right (by decide) he
  have htop : ∀ index ∈ [ctrlGroupControl, ctrlGroupSubtreeAnnounce], 0xFFFB ≤ index.toNat := by
    simp [ctrlGroupControl, ctrlGroupSubtreeAnnounce]
  refine ⟨hS.groupIndex_lt e, fun i j port hi hj h => ?_, fun index hindex i port hi h => ?_, fun h => ?_⟩
  · rw [hS.addr_eq e i port (by omega), hS.addr_eq e j port (by omega), UDPAddr.mk.injEq] at h
    have hn := congrArg UInt16.toNat (hS.controlGroupAddr_inj _ _ h.1)
    rw [UInt32.toNat_toUInt16, UInt32.toNat_toUInt16] at hn
    exact UInt32.toNat_inj.mp (by omega)
  · rw [hS.addr_eq e i port (by omega), UDPAddr.mk.injEq] at h
    have hn := congrArg UInt16.toNat (hS.controlGroupAddr_inj _ _ h.1)
    have hc := htop index hindex
    rw [UInt32.toNat_toUInt16] at hn
    omega
  · exact absurd (hS.controlGroupAddr_inj _ _ h) (by decide)

/-- Two groups are the same when they are of one kind, and of one shard if they are shards. -/
theorem addr_eq_iff {r : Retransmitter} (h : GroupsApart S r.engine) (txID₁ txID₂ : Bytes) (k₁ k₂ : GroupKind) :
    k₁.addr S r txID₁ = k₂.addr S r txID₂ ↔
      k₁ = k₂ ∧ (k₁ = .shard → S.groupIndex r.engine txID₁ = S.groupIndex r.engine txID₂) := by
  have hcontrol := fun txID => h.control_ne ctrlGroupControl (by simp) _ r.egressPort (h.groupIndex_lt txID)
  have hsubtree := fun txID => h.control_ne ctrlGroupSubtreeAnnounce (by simp) _ r.egressPort (h.groupIndex_lt txID)
  have hinj := h.addr_inj _ _ r.egressPort (h.groupIndex_lt txID₁) (h.groupIndex_lt txID₂)
  cases k₁ <;> cases k₂ <;> simp only [GroupKind.addr, UDPAddr.mk.injEq, and_true, true_and, reduceCtorEq, false_and,
    iff_false, false_implies, true_implies]
  case control.subtree => exact h.controls_ne
  case control.shard => exact hcontrol txID₂
  case subtree.control => exact h.controls_ne.symm
  case subtree.shard => exact hsubtree txID₂
  case shard.control => exact (hcontrol txID₁).symm
  case shard.subtree => exact (hsubtree txID₁).symm
  case shard.shard => exact ⟨hinj, fun heq => by rw [heq]⟩

/-- **Two frames are charged to one bucket exactly when they are sent to one group**, if both
are transactions, or if they are of one kind exactly when their transaction ids are in one
shard; and only then. -/
theorem same_bucket_iff {env : Config.Env} {f : Config.Flags} {cfg : Config} (_ : Config.load env f = .ok cfg)
    (hS : GroupsApart S cfg.engine) (D : Deps) (redisCache : Option RedisCache) (ip raw₁ raw₂ : Bytes) :
    (chargedBucket D S cfg ip raw₁ = chargedBucket D S cfg ip raw₂ ↔
      sentTo S (cfg.retransmitter redisCache) raw₁ = sentTo S (cfg.retransmitter redisCache) raw₂) ↔
    (egressKind raw₁ = .shard ∧ egressKind raw₂ = .shard) ∨
      (egressKind raw₁ = egressKind raw₂ ↔
        S.groupIndex cfg.engine (frameTxID raw₁) = S.groupIndex cfg.engine (frameTxID raw₂)) := by
  have he : (cfg.retransmitter redisCache).engine = cfg.engine := rfl
  rw [chargedBucket, chargedBucket, groupKey_eq_iff, sentTo, sentTo, groupAddr_kind, groupAddr_kind,
    addr_eq_iff (by rwa [he]), he]
  by_cases hk : egressKind raw₁ = egressKind raw₂
  · by_cases hs : egressKind raw₂ = .shard
    · simp [hk, hs]
    · simp [hk, hs]
  · have hnot : ¬ (egressKind raw₁ = .shard ∧ egressKind raw₂ = .shard) := fun h => hk (h.1.trans h.2.symm)
    simp only [hk, hnot, false_and, iff_false, false_or, false_iff]

/-- A frame of a version, with a transaction id that starts with `top`. -/
def versionFrame (ver top : UInt8) : Bytes :=
  putUint32 magicBSV ++ putUint16 protoVer ++ [ver, 0x00] ++ [top] ++ List.replicate 83 0

/-- Two transactions in different shards are charged to different buckets, and sent to
different groups. -/
theorem same_bucket_transactions :
    chargedBucket countdown ipv6Groups (Config.defaultConfig {} .memory) [] (versionFrame 2 0) =
        chargedBucket countdown ipv6Groups (Config.defaultConfig {} .memory) [] (versionFrame 2 255) ↔
      sentTo ipv6Groups ((Config.defaultConfig {} .memory).retransmitter none) (versionFrame 2 0) =
        sentTo ipv6Groups ((Config.defaultConfig {} .memory).retransmitter none) (versionFrame 2 255) :=
  (same_bucket_iff (Config.load_defaults {} .memory) (groupsApart_of_laws shardLaws_ipv6Groups (by decide)) countdown
    none [] _ _).mpr (.inl (by decide))

/-- Two block control frames go to one group and are charged to different buckets. -/
theorem block_frames_in_two_buckets :
    sentTo ipv6Groups ((Config.defaultConfig {} .memory).retransmitter none) (versionFrame 4 0) =
        sentTo ipv6Groups ((Config.defaultConfig {} .memory).retransmitter none) (versionFrame 4 255) ∧
      chargedBucket countdown ipv6Groups (Config.defaultConfig {} .memory) [] (versionFrame 4 0) ≠
        chargedBucket countdown ipv6Groups (Config.defaultConfig {} .memory) [] (versionFrame 4 255) := by
  decide

end Bucket

end RetryEndpoint
