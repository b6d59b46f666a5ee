import RetryEndpoint.Go.Bytes

/-!
# What the endpoint uses of `bitcoin-shard-common`

The wire format of the frames and the derivation of multicast groups live in a module of
their own, `bitcoin-shard-common`, which is not part of the repository. The repository
calls its `frame` package to classify and decode a datagram and its `shard` package to
turn a transaction id into a multicast address; here the two packages are parameters,
`FrameLib` and `ShardLib`, and only the constants that the repository's own comments and
documents spell out are fixed.

A decoder is a function of the datagram's bytes. It returns what the repository stores a
frame by, its `HashKey` and `SeqNum`, or nothing when the datagram does not decode; the
error itself is only logged.
-/

namespace RetryEndpoint.ShardCommon

open Go

/-- `net.UDPAddr`. -/
structure UDPAddr where
  /-- The address. -/
  ip : Bytes
  /-- The port. -/
  port : ℤ
  deriving DecidableEq

/-! ### `frame` -/

/-- `frame.MagicBSV`. -/
def magicBSV : UInt32 := 0xE3E1F3E8

/-- `frame.ProtoVer`. -/
def protoVer : UInt16 := 0x02BF

/-- `frame.FrameVerV4`: block control frames. -/
def frameVerV4 : UInt8 := 0x04

/-- `frame.FrameVerV5`: subtree data frames. -/
def frameVerV5 : UInt8 := 0x05

/-- `frame.FrameVerV6`: anchor transaction frames. -/
def frameVerV6 : UInt8 := 0x06

/-- What the endpoint reads of a decoded frame. -/
@[ext]
structure Header where
  /-- `HashKey`, the identifier of the flow. -/
  hashKey : UInt64
  /-- `SeqNum`, the counter in the flow; zero when the proxy has not stamped the frame. -/
  seqNum : UInt64
  deriving DecidableEq

/-- The classifiers and decoders of the `frame` package. -/
structure FrameLib where
  /-- `frame.IsBlockFrame`. -/
  isBlockFrame : Bytes → Bool
  /-- `frame.IsSubtreeDataFrame`. -/
  isSubtreeDataFrame : Bytes → Bool
  /-- `frame.IsAnchorFrame`. -/
  isAnchorFrame : Bytes → Bool
  /-- `frame.Decode`. -/
  decode : Bytes → Option Header
  /-- `frame.DecodeBlock`. -/
  decodeBlock : Bytes → Option Header
  /-- `frame.DecodeSubtreeData`. -/
  decodeSubtreeData : Bytes → Option Header
  /-- `frame.DecodeAnchor`. -/
  decodeAnchor : Bytes → Option Header

/-- The two fields where the header has them: `HashKey` in bytes 40 to 47 and `SeqNum` in
bytes 48 to 55. -/
def headerAt (b : Bytes) : Header := ⟨uint64 (slice b 40 48), uint64 (slice b 48 56)⟩

/-- Frames as the comments of the repository lay them out: the magic in front, the version
in byte 6, the two fields in the header. It stands in for the `frame` package where a
concrete one is needed. -/
def wireFrames : FrameLib :=
  let isVer (v : UInt8) (b : Bytes) := decide (56 ≤ b.length ∧ slice b 0 4 = putUint32 magicBSV ∧ b[6]? = some v)
  let read (v : UInt8) (b : Bytes) := if isVer v b then some (headerAt b) else none
  { isBlockFrame := isVer frameVerV4
    isSubtreeDataFrame := isVer frameVerV5
    isAnchorFrame := isVer frameVerV6
    decode := read 0x02
    decodeBlock := read frameVerV4
    decodeSubtreeData := read frameVerV5
    decodeAnchor := read frameVerV6 }

/-- What the classifiers accept has their version in byte 6. -/
structure ClassifierSound (F : FrameLib) : Prop where
  isBlockFrame : ∀ b, F.isBlockFrame b = true → b[6]? = some frameVerV4
  isSubtreeDataFrame : ∀ b, F.isSubtreeDataFrame b = true → b[6]? = some frameVerV5
  isAnchorFrame : ∀ b, F.isAnchorFrame b = true → b[6]? = some frameVerV6

theorem classifierSound_wireFrames : ClassifierSound wireFrames where
  isBlockFrame _ h := (of_decide_eq_true h).2.2
  isSubtreeDataFrame _ h := (of_decide_eq_true h).2.2
  isAnchorFrame _ h := (of_decide_eq_true h).2.2

/-- Classifiers that test the version byte, at offset 6, and nothing else. This is more than a classifier
keeps that looks at the length or at the magic as well, as those of `wireFrames` do, which obey
`ClassifierSound` only. A frame that has the version byte and not the rest is then taken for a transaction as it
comes in, and is still sent to the group of its version. -/
structure ClassifierLaws (F : FrameLib) : Prop where
  /-- Block control frames are version 4. -/
  isBlockFrame_iff : ∀ b, 7 ≤ b.length → (F.isBlockFrame b = true ↔ b[6]? = some frameVerV4)
  /-- Subtree data frames are version 5. -/
  isSubtreeDataFrame_iff : ∀ b, 7 ≤ b.length → (F.isSubtreeDataFrame b = true ↔ b[6]? = some frameVerV5)
  /-- Anchor frames are version 6. -/
  isAnchorFrame_iff : ∀ b, 7 ≤ b.length → (F.isAnchorFrame b = true ↔ b[6]? = some frameVerV6)

/-- The same frames, told apart by the version byte alone. -/
def versionFrames : FrameLib :=
  { wireFrames with
    isBlockFrame := fun b => b[6]? = some frameVerV4
    isSubtreeDataFrame := fun b => b[6]? = some frameVerV5
    isAnchorFrame := fun b => b[6]? = some frameVerV6 }

theorem classifierLaws_versionFrames : ClassifierLaws versionFrames where
  isBlockFrame_iff _ _ := decide_eq_true_iff
  isSubtreeDataFrame_iff _ _ := decide_eq_true_iff
  isAnchorFrame_iff _ _ := decide_eq_true_iff

/-- A version 2 frame with the given stamp, the rest of its header zero, and no payload. -/
def wireFrame (hashKey seqNum : UInt64) : Bytes :=
  putUint32 magicBSV ++ putUint16 protoVer ++ [0x02, 0x00] ++ List.replicate 32 0 ++ putUint64 hashKey ++
    putUint64 seqNum ++ List.replicate 36 0

/-! ### `shard` -/

/-- `shard.CtrlGroupControl`. -/
def ctrlGroupControl : UInt16 := 0xFFFE

/-- `shard.CtrlGroupSubtreeAnnounce`. -/
def ctrlGroupSubtreeAnnounce : UInt16 := 0xFFFB

/-- `shard.Engine`, as `shard.New` makes it. -/
structure Engine where
  /-- The multicast prefix. -/
  mcPrefix : UInt16
  /-- The group id. -/
  groupID : UInt16
  /-- How many bits of a transaction id select its group. -/
  shardBits : ℕ

/-- The derivations of the `shard` package. -/
structure ShardLib where
  /-- `Engine.GroupIndex`, of a transaction id. -/
  groupIndex : Engine → Bytes → UInt32
  /-- `Engine.Addr`, of a group index and a port. -/
  addr : Engine → UInt32 → ℤ → UDPAddr
  /-- `shard.ControlGroupAddr`, of a prefix, a group id and a control index. -/
  controlGroupAddr : UInt16 → UInt16 → UInt16 → Bytes

/-- What is assumed of the `shard` package: a group index is within the width of the shard key,
and an address has the prefix, the group id and a 16-bit index, that of a shard or of a
control group, each in bytes of its own. -/
structure ShardLaws (S : ShardLib) : Prop where
  /-- An index is within the width. -/
  groupIndex_lt : ∀ e txID, (S.groupIndex e txID).toNat < 2 ^ e.shardBits
  /-- Shard groups and control groups have the same layout. -/
  addr_eq : ∀ e i port, i.toNat < 2 ^ 16 →
    S.addr e i port = ⟨S.controlGroupAddr e.mcPrefix e.groupID i.toUInt16, port⟩
  /-- The index is in bytes of its own. -/
  controlGroupAddr_inj : ∀ mcPrefix groupID, Function.Injective (S.controlGroupAddr mcPrefix groupID)

/-- The layout that the comments of the repository give: the prefix in front, the group id in
bytes 12 and 13, the index in the last two bytes; the index of a transaction is in the
highest bits of its id. It stands in for the `shard` package where one that obeys the laws is
needed. -/
def ipv6Groups : ShardLib :=
  let layout (mcPrefix groupID index : UInt16) : Bytes :=
    putUint16 mcPrefix ++ List.replicate 10 0 ++ putUint16 groupID ++ putUint16 index
  { groupIndex := fun e txID => UInt32.ofNat (beNat (txID.take 4) / 2 ^ (32 - e.shardBits))
    addr := fun e i port => ⟨layout e.mcPrefix e.groupID i.toUInt16, port⟩
    controlGroupAddr := layout }

theorem shardLaws_ipv6Groups : ShardLaws ipv6Groups where
  groupIndex_lt e txID := by
    have hlen : (txID.take 4).length ≤ 4 := List.length_take_le ..
    have hlt : beNat (txID.take 4) < 2 ^ 32 :=
      (beNat_lt _).trans_le (Nat.pow_le_pow_right (by decide) hlen)
    have hdiv : beNat (txID.take 4) / 2 ^ (32 - e.shardBits) < 2 ^ e.shardBits := by
      rw [Nat.div_lt_iff_lt_mul (Nat.two_pow_pos _), ← pow_add]
      exact hlt.trans_le (Nat.pow_le_pow_right (by decide) (by omega))
    exact (Nat.mod_le _ _).trans_lt hdiv
  addr_eq _ _ _ _ := rfl
  controlGroupAddr_inj _ _ _ _ h := putUint16_inj (List.append_cancel_left h)

/-- All frames in one group. It stands in for the `shard` package where a concrete one is
needed. -/
def oneGroup : ShardLib := ⟨fun _ _ => 0, fun _ _ port => ⟨[], port⟩, fun _ _ _ => []⟩

end RetryEndpoint.ShardCommon
