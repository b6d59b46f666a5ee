import RetryEndpoint.Cache.Backends
import RetryEndpoint.Go.IP
import RetryEndpoint.RateLimit.Limiter
import RetryEndpoint.ShardCommon

/-!
# The handling of a NACK

`server/server.go`, `processNACK` and what it calls: a listener asks for a frame by its
`HashKey` and `SeqNum`; the request is checked, goes through the rate limiter, and the
cached frame is retransmitted and acknowledged, or the listener is told that it is not
here.

## The model

`processNACK` is a function of the datagram, its source, the clock, the limiter and the
state `σ` of what lies behind the cache and the retransmitter (`Backend`). It returns an
`Outcome`: which way the call went, with the call of `Retransmit` if there was one, what
was sent back and what was counted. The steps are functions of their own: `validateNACK`,
the tiers before the lookup (`preLookup`), the group tier (`throttleGroup`) and what
follows the retransmit (`afterRetransmit`). `sendErr` is whether sending a response fails.

## What is proved

* `processNACK_of_limited` — a valid request for one frame that a tier before the lookup
  rejects gets no answer, and `processNACK_of_admitted` — one that passes them is answered
  by the lookup alone (`lookup`).
-/

namespace RetryEndpoint.NackServer

open Go Cache RateLimit ShardCommon

/-! ### The wire format -/

/-- `NACKSize`. -/
def nackSize : ℕ := 64

/-- `msgTypeNACK`. -/
def msgTypeNACK : UInt8 := 0x10

/-- `msgTypeMISS`. -/
def msgTypeMISS : UInt8 := 0x11

/-- `msgTypeACK`. -/
def msgTypeACK : UInt8 := 0x12

/-- `fmt.Sprintf("%0*X", width, n)`. -/
def hexUpper (width n : ℕ) : String :=
  let digits := (Nat.toDigits 16 n).map Char.toUpper
  String.ofList (List.replicate (width - digits.length) '0' ++ digits)

/-- `validateNACK`: the error, if the datagram is not a NACK. -/
def validateNACK (datagram : Bytes) : Option Err :=
  if datagram.length < nackSize then some ("invalid NACK size: " ++ toString datagram.length)
  else if uint32 (slice datagram 0 4) ≠ magicBSV then
    some ("invalid magic: 0x" ++ hexUpper 8 (uint32 (slice datagram 0 4)).toNat)
  else if datagram.getD 6 0 ≠ msgTypeNACK then
    some ("invalid message type: 0x" ++ hexUpper 2 (datagram.getD 6 0).toNat)
  else none

/-- What a NACK asks for. -/
structure Nack where
  /-- The flow. -/
  hashKey : UInt64
  /-- The first missing frame. -/
  startSeq : UInt64
  /-- The last missing frame. -/
  endSeq : UInt64
  deriving DecidableEq

/-- The fields of a NACK datagram. -/
def readNACK (datagram : Bytes) : Nack :=
  ⟨uint64 (slice datagram 8 16), uint64 (slice datagram 16 24), uint64 (slice datagram 24 32)⟩

/-- A NACK for one frame, the rest of the datagram zero. -/
def wireNACK (hashKey seqNum : UInt64) : Bytes :=
  putUint32 magicBSV ++ putUint16 protoVer ++ [msgTypeNACK, 0] ++ putUint64 hashKey ++ putUint64 seqNum ++
    putUint64 seqNum ++ List.replicate 32 0

/-- The key the frame is looked up by. -/
def Nack.key (q : Nack) : Bytes := putUint64 q.hashKey ++ putUint64 q.startSeq

/-- A datagram that is a NACK for one frame. -/
structure Valid (datagram : Bytes) : Prop where
  /-- It is a NACK. -/
  valid : validateNACK datagram = none
  /-- It asks for one frame. -/
  single : (readNACK datagram).endSeq = (readNACK datagram).startSeq

instance (datagram : Bytes) : Decidable (Valid datagram) :=
  decidable_of_iff
    (validateNACK datagram = none ∧ (readNACK datagram).endSeq = (readNACK datagram).startSeq)
    ⟨fun h => ⟨h.1, h.2⟩, fun h => ⟨h.1, h.2⟩⟩

/-- The 16 bytes of an ACK or a MISS. -/
def response (msgType flags : UInt8) (seqNum : UInt64) : Bytes :=
  putUint32 magicBSV ++ putUint16 protoVer ++ [msgType, flags] ++ putUint64 seqNum

/-! ### The server -/

/-- `Server`: what `processNACK` uses of it besides the limiter, the cache and the
retransmitter. -/
structure Server where
  /-- No ACK is sent. -/
  suppressACK : Bool
  /-- No MISS is sent. -/
  suppressMISS : Bool
  /-- The sharding for the group tier; without it the tier is skipped. -/
  shardEngine : Option Engine
  /-- Whether there is a metrics recorder. -/
  recorder : Bool

/-- The label of a response in the metrics. -/
inductive ResponseLabel where
  | ack
  | miss
  deriving DecidableEq

/-- What `processNACK` counts. -/
inductive Metric where
  | nackRequest
  | rateLimitDrop (level : Level)
  | cacheError
  | cacheMiss
  | cacheHit
  | retransmit
  | responseSent (label : ResponseLabel)
  | responseSendError (label : ResponseLabel)
  deriving DecidableEq

/-- A response on its way. -/
structure Reply where
  /-- To whom. -/
  dst : UDPAddr
  /-- The datagram. -/
  data : Bytes
  deriving DecidableEq

/-- A call of `Retransmit`, and what it returned. -/
structure RetransmitCall where
  /-- The frame. -/
  raw : Bytes
  /-- Its transaction id. -/
  txID : Bytes
  /-- The error, if any. -/
  err : Option Err
  deriving DecidableEq

/-- Which way a call of `processNACK` goes. -/
inductive Path where
  /-- The datagram is not a NACK. -/
  | invalid (e : Err)
  /-- The request is for a range. -/
  | range
  /-- A tier before the lookup rejects the request. -/
  | limited (level : Level)
  /-- The lookup fails. -/
  | cacheError (e : Err)
  /-- The frame is not in the cache. -/
  | miss
  /-- The frame is in the cache; there is no call when the group tier throttles it. -/
  | hit (raw : Bytes) (call : Option RetransmitCall)
  deriving DecidableEq

/-- What a call of `processNACK` leaves behind. -/
structure Outcome where
  /-- Which way it went. -/
  path : Path
  /-- What was sent back. -/
  replies : List Reply
  /-- What was counted. -/
  counted : List Metric
  deriving DecidableEq

/-- What the server calls: the cache and the retransmitter, over their state `σ`. -/
structure Backend (σ : Type) where
  /-- The cache. -/
  cache : Interface σ Bytes
  /-- `Retransmit`, of a frame and its transaction id. -/
  retransmit : Bytes → Bytes → Time → σ → Option Err × σ

/-- The source address that the limiter sees. -/
def srcIP : Option UDPAddr → Bytes
  | some src => src.ip
  | none => ipv6unspecified

/-- The transaction id in a frame's header, bytes 8 to 39. -/
def frameTxID (raw : Bytes) : Bytes := if 40 ≤ raw.length then slice raw 8 40 else List.replicate 32 0

/-- The tiers before the lookup: `Allow`, then `AllowChain`. The tier that rejects the
request, or none. -/
def preLookup {D : Deps} (l : Limiter D) (ip : Bytes) (q : Nack) (now : Time) : Option Level × Limiter D :=
  match l.allow ip q.startSeq now with
  | (some level, l) => (some level, l)
  | (none, l) =>
    let ch := l.allowChain ip q.hashKey now
    if !ch.1 then (some .chain, ch.2) else (none, ch.2)

/-- `sendResponse`. -/
def sendResponse (dst : UDPAddr) (msgType flags : UInt8) (seqNum : UInt64) (sendErr : Bool) :
    List Reply × List Metric :=
  let label := if msgType = msgTypeMISS then ResponseLabel.miss else .ack
  if sendErr then ([], [.responseSendError label])
  else ([⟨dst, response msgType flags seqNum⟩], [.responseSent label])

namespace Server

variable {D : Deps} {σ : Type} (srv : Server) (S : ShardLib) (B : Backend σ)

/-- An outcome; counts go to the recorder, if there is one. -/
def outcome (path : Path) (replies : List Reply) (counted : List Metric) : Outcome :=
  ⟨path, replies, if srv.recorder then counted else []⟩

/-- The MISS. -/
def replyMISS (src : Option UDPAddr) (sendErr : Bool) : List Reply × List Metric :=
  match src with
  | some dst => if srv.suppressMISS then ([], []) else sendResponse dst msgTypeMISS 0 0 sendErr
  | none => ([], [])

/-- The ACK. -/
def replyACK (src : Option UDPAddr) (seqNum : UInt64) (sendErr : Bool) : List Reply × List Metric :=
  match src with
  | some dst => if srv.suppressACK then ([], []) else sendResponse dst msgTypeACK 0x01 seqNum sendErr
  | none => ([], [])

/-- What follows the retransmit: after an error nothing, otherwise the ACK. A throttled
request is acknowledged too. -/
def afterRetransmit (call : Option RetransmitCall) (src : Option UDPAddr) (seqNum : UInt64) (sendErr : Bool) :
    List Reply × List Metric :=
  let ack := srv.replyACK src seqNum sendErr
  match call with
  | none => ack
  | some c =>
    match c.err with
    | some _ => ([], [])
    | none => (ack.1, .retransmit :: ack.2)

/-- The group tier: whether the retransmit is throttled. -/
def throttleGroup (l : Limiter D) (ip txID : Bytes) (now : Time) : Bool × Limiter D :=
  match srv.shardEngine with
  | none => (false, l)
  | some e =>
    let g := l.allowGroup ip (S.groupIndex e txID) now
    (!g.1, g.2)

/-- The frame is in the cache. -/
def serve (raw : Bytes) (src : Option UDPAddr) (seqNum : UInt64) (now : Time) (sendErr : Bool) (l : Limiter D) (s : σ) :
    Outcome × Limiter D × σ :=
  let txID := frameTxID raw
  let g := srv.throttleGroup S l (srcIP src) txID now
  if g.1 then
    let tail := srv.afterRetransmit none src seqNum sendErr
    (srv.outcome (.hit raw none) tail.1 ([.nackRequest, .cacheHit, .rateLimitDrop .group] ++ tail.2), g.2, s)
  else
    let res := B.retransmit raw txID now s
    let call : RetransmitCall := ⟨raw, txID, res.1⟩
    let tail := srv.afterRetransmit (some call) src seqNum sendErr
    (srv.outcome (.hit raw (some call)) tail.1 ([.nackRequest, .cacheHit] ++ tail.2), g.2, res.2)

/-- The lookup, and what follows it. -/
def lookup (q : Nack) (src : Option UDPAddr) (now : Time) (sendErr : Bool) (l : Limiter D) (s : σ) :
    Outcome × Limiter D × σ :=
  match B.cache.retrieve q.key now s with
  | .error e => (srv.outcome (.cacheError e) [] [.nackRequest, .cacheError], l, s)
  | .ok none =>
    let tail := srv.replyMISS src sendErr
    (srv.outcome .miss tail.1 ([.nackRequest, .cacheMiss] ++ tail.2), l, s)
  | .ok (some raw) => srv.serve S B raw src q.startSeq now sendErr l s

/-- `processNACK`. -/
def processNACK (datagram : Bytes) (src : Option UDPAddr) (now : Time) (sendErr : Bool) (l : Limiter D) (s : σ) :
    Outcome × Limiter D × σ :=
  match validateNACK datagram with
  | some e => (srv.outcome (.invalid e) [] [.nackRequest], l, s)
  | none =>
    let q := readNACK datagram
    if q.endSeq ≠ q.startSeq then (srv.outcome .range [] [.nackRequest], l, s)
    else
      match preLookup l (srcIP src) q now with
      | (some level, l) => (srv.outcome (.limited level) [] [.nackRequest, .rateLimitDrop level], l, s)
      | (none, l) => srv.lookup S B q src now sendErr l s

variable {srv S B}

/-- A valid request that a tier before the lookup rejects changes the limiter at most. -/
theorem processNACK_of_limited {datagram : Bytes} (hv : Valid datagram) {src : Option UDPAddr} {now : Time}
    {l l' : Limiter D} {level : Level} (hp : preLookup l (srcIP src) (readNACK datagram) now = (some level, l'))
    (sendErr : Bool) (s : σ) :
    srv.processNACK S B datagram src now sendErr l s =
      (srv.outcome (.limited level) [] [.nackRequest, .rateLimitDrop level], l', s) := by
  simp only [processNACK, hv.valid, hv.single, ne_eq, not_true_eq_false, if_false, hp]

/-- **A valid request that passes the tiers is answered by the lookup.** -/
theorem processNACK_of_admitted {datagram : Bytes} (hv : Valid datagram) {src : Option UDPAddr} {now : Time}
    {l l' : Limiter D} (hp : preLookup l (srcIP src) (readNACK datagram) now = (none, l'))
    (sendErr : Bool) (s : σ) :
    srv.processNACK S B datagram src now sendErr l s =
      srv.lookup S B (readNACK datagram) src now sendErr l' s := by
  simp only [processNACK, hv.valid, hv.single, ne_eq, not_true_eq_false, if_false, hp]

/-- A hit that the group tier throttles is acknowledged and not retransmitted. -/
theorem serve_of_throttled {raw : Bytes} {src : Option UDPAddr} {now : Time} {l : Limiter D}
    (h : (srv.throttleGroup S l (srcIP src) (frameTxID raw) now).1 = true) (seqNum : UInt64) (sendErr : Bool) (s : σ) :
    srv.serve S B raw src seqNum now sendErr l s =
      (srv.outcome (.hit raw none) (srv.replyACK src seqNum sendErr).1
        ([.nackRequest, .cacheHit, .rateLimitDrop .group] ++ (srv.replyACK src seqNum sendErr).2),
        (srv.throttleGroup S l (srcIP src) (frameTxID raw) now).2, s) := by
  simp only [serve, h, if_true, afterRetransmit]

/-- Any other is retransmitted. -/
theorem serve_of_passed {raw : Bytes} {src : Option UDPAddr} {now : Time} {l : Limiter D}
    (h : (srv.throttleGroup S l (srcIP src) (frameTxID raw) now).1 = false) (seqNum : UInt64) (sendErr : Bool) (s : σ) :
    srv.serve S B raw src seqNum now sendErr l s =
      let res := B.retransmit raw (frameTxID raw) now s
      let call : RetransmitCall := ⟨raw, frameTxID raw, res.1⟩
      let tail := srv.afterRetransmit (some call) src seqNum sendErr
      (srv.outcome (.hit raw (some call)) tail.1 ([.nackRequest, .cacheHit] ++ tail.2),
        (srv.throttleGroup S l (srcIP src) (frameTxID raw) now).2, res.2) := by
  simp only [serve, h, Bool.false_eq_true, if_false]

/-- A hit: `Retransmit` is called with the frame and its transaction id unless the group
tier throttles it. -/
theorem serve_path (raw : Bytes) (src : Option UDPAddr) (seqNum : UInt64) (now : Time) (sendErr : Bool)
    (l : Limiter D) (s : σ) :
    (srv.serve S B raw src seqNum now sendErr l s).1.path =
      .hit raw (if (srv.throttleGroup S l (srcIP src) (frameTxID raw) now).1 then none
        else some ⟨raw, frameTxID raw, (B.retransmit raw (frameTxID raw) now s).1⟩) := by
  cases h : (srv.throttleGroup S l (srcIP src) (frameTxID raw) now).1 with
  | true => rw [serve_of_throttled h]; rfl
  | false => rw [serve_of_passed h]; rfl

variable (srv S B) in
/-- `processNACK` changes the state behind the cache and the retransmitter only by a call of
`Retransmit`. -/
theorem processNACK_state (datagram : Bytes) (src : Option UDPAddr) (now : Time) (sendErr : Bool) (l : Limiter D)
    (s : σ) :
    (srv.processNACK S B datagram src now sendErr l s).2.2 = s ∨
      ∃ raw txID, (srv.processNACK S B datagram src now sendErr l s).2.2 = (B.retransmit raw txID now s).2 := by
  unfold processNACK
  split
  · exact .inl rfl
  · dsimp only
    split_ifs
    · exact .inl rfl
    · split
      · exact .inl rfl
      · unfold lookup
        split
        · exact .inl rfl
        · exact .inl rfl
        · unfold serve
          dsimp only
          split_ifs
          · exact .inl rfl
          · exact .inr ⟨_, _, rfl⟩

end Server

end RetryEndpoint.NackServer
