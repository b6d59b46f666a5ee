import RetryEndpoint.NackServer.HandOff

/-!
# The protocol of the NACK server

What the server takes from the wire and what it writes back: the documented format of a NACK
against the checks of `Run`, `validateNACK` and `processNACK`, and the ACK or MISS that a
request is answered with.

## The model

`ReadFrom` fills a buffer of 64 bytes, so of a longer datagram the rest is lost and the size
check sees 64 bytes (`readFrom`). A response is written last, so the writes that `processNACK`
attempts are its replies when the write does not fail (`attempted`). `Backend.logged` is a
backend that keeps the calls of `Retransmit`.

## What is proved

* `accepts_wire_format_iff` — the server accepts what the format describes, up to the
  datagrams that are too long or have another protocol version.
* `response_protocol` — when a response is written, which one, and what is left alone
  otherwise.
-/

namespace RetryEndpoint.NackServer

open Go Cache RateLimit ShardCommon

/-! ### What is accepted -/

/-- What `ReadFrom` puts into the buffer of a NACK. -/
def readFrom (d : Bytes) : Bytes := d.take nackSize

/-- The documented format of a NACK for one frame. -/
structure WireFormat (d : Bytes) : Prop where
  /-- It has 64 bytes. -/
  size : d.length = 64
  /-- The magic. -/
  magic : uint32 (slice d 0 4) = 0xE3E1F3E8
  /-- The protocol version. -/
  version : uint16 (slice d 4 6) = 0x02BF
  /-- The message type. -/
  msgType : d.getD 6 0 = 0x10
  /-- `StartSeq` and `EndSeq` are equal. -/
  single : uint64 (slice d 16 24) = uint64 (slice d 24 32)

/-- The datagram passes the size check of `Run`, `validateNACK` and the range check. -/
structure Accepted (d : Bytes) : Prop where
  /-- The size check, on the length that was read. -/
  size : (readFrom d).length = nackSize
  /-- The checks of `processNACK`. -/
  valid : Valid (readFrom d)

/-- The reader hands on exactly what passes the size check. -/
theorem HandOff.accepted_read {s : HandOff.State} (hs : HandOff.Delivery s) (hr : s.reader = .reading) (workers : ℕ)
    (d : Bytes) (src : Option UDPAddr) :
    (HandOff.readerStep workers s (.read d src)).accepted =
      s.accepted ++ if (readFrom d).length = nackSize then [(readFrom d, src)] else [] := by
  have hfill : (s.heap.fill s.buf d).2 = (readFrom d).length := by
    rw [Heap.fill_count, hs.buf_eq, readFrom, List.length_take, Nat.min_comm]
  rw [HandOff.readerStep]
  · simp only [hfill]
    rfl
  · exact hr

theorem validateNACK_eq_none_iff {d : Bytes} :
    validateNACK d = none ↔ nackSize ≤ d.length ∧ uint32 (slice d 0 4) = magicBSV ∧ d.getD 6 0 = msgTypeNACK := by
  rw [validateNACK]
  split_ifs with h₁ h₂ h₃
  · exact iff_of_false (by simp) fun h => absurd h₁ (not_lt.mpr h.1)
  · exact iff_of_false (by simp) fun h => h₂ h.2.1
  · exact iff_of_false (by simp) fun h => h₃ h.2.2
  · exact iff_of_true rfl ⟨not_lt.mp h₁, not_not.mp h₂, not_not.mp h₃⟩

theorem slice_readFrom (d : Bytes) (i : ℕ) {j : ℕ} (hj : j ≤ nackSize) : slice (readFrom d) i j = slice d i j := by
  rw [slice, slice, readFrom, List.drop_take, List.take_take, Nat.min_eq_left (Nat.sub_le_sub_right hj i)]

/-- What the checks look at: the length up to 64 bytes, the magic, the type and the range. -/
theorem accepted_iff {d : Bytes} :
    Accepted d ↔ 64 ≤ d.length ∧ uint32 (slice d 0 4) = 0xE3E1F3E8 ∧ d.getD 6 0 = 0x10 ∧
      uint64 (slice d 16 24) = uint64 (slice d 24 32) := by
  have hlen : (readFrom d).length = nackSize ↔ 64 ≤ d.length := by simp [readFrom, nackSize]
  have htype : (readFrom d).getD 6 0 = d.getD 6 0 := by simp [readFrom, nackSize]
  have hslice (i : ℕ) {j : ℕ} (hj : j ≤ nackSize) := slice_readFrom d i hj
  constructor
  · rintro ⟨hsize, hvalid⟩
    obtain ⟨-, hmagic, hmsg⟩ := validateNACK_eq_none_iff.mp hvalid.valid
    have hsingle := hvalid.single
    rw [readNACK, hslice 8 (by decide), hslice 16 (by decide), hslice 24 (by decide)] at hsingle
    rw [hslice 0 (by decide)] at hmagic
    exact ⟨hlen.mp hsize, hmagic, htype ▸ hmsg, hsingle.symm⟩
  · rintro ⟨hsize, hmagic, hmsg, hsingle⟩
    refine ⟨hlen.mpr hsize, validateNACK_eq_none_iff.mpr ⟨(hlen.mpr hsize).ge, ?_, htype.trans hmsg⟩, ?_⟩
    · rw [hslice 0 (by decide), hmagic]
      rfl
    · rw [readNACK, hslice 8 (by decide), hslice 16 (by decide), hslice 24 (by decide)]
      exact hsingle.symm

/-- A call that ends before the limiter is asked. -/
def Path.early : Path → Bool
  | .invalid _ | .range => true
  | .limited _ | .cacheError _ | .miss | .hit _ _ => false

section

variable {D : Deps} {σ : Type} (srv : Server) (S : ShardLib) (B : Backend σ) {datagram : Bytes} (src : Option UDPAddr)
  (now : Time) (sendErr : Bool) (l : Limiter D) (s : σ)

/-- A datagram that is not a NACK for one frame changes nothing. -/
theorem Server.processNACK_of_not_valid (h : ¬ Valid datagram) :
    ∃ path counted, path.early = true ∧ ∀ {σ : Type} (B : Backend σ) (sendErr : Bool) (s : σ),
      srv.processNACK S B datagram src now sendErr l s = (srv.outcome path [] counted, l, s) := by
  cases hv : validateNACK datagram with
  | some e =>
    refine ⟨.invalid e, [.nackRequest], rfl, fun B sendErr s => ?_⟩
    simp only [Server.processNACK, hv]
  | none =>
    have hrange : (readNACK datagram).endSeq ≠ (readNACK datagram).startSeq := fun hs => h ⟨hv, hs⟩
    refine ⟨.range, [.nackRequest], rfl, fun B sendErr s => ?_⟩
    simp only [Server.processNACK, hv, if_pos hrange]

theorem Server.lookup_path_early (q : Nack) :
    (srv.lookup S B q src now sendErr l s).1.path.early = false := by
  rw [Server.lookup]
  split
  · rfl
  · rfl
  · rw [Server.serve_path]
    rfl

/-- The limiter is asked about the others. -/
theorem Server.processNACK_path_early_iff :
    (srv.processNACK S B datagram src now sendErr l s).1.path.early = false ↔ Valid datagram := by
  constructor
  · intro h
    by_contra hv
    obtain ⟨path, counted, hearly, heq⟩ := Server.processNACK_of_not_valid srv S src now l hv
    rw [heq] at h
    exact absurd (hearly.symm.trans h) (by decide)
  · intro hv
    rcases hp : preLookup l (srcIP src) (readNACK datagram) now with ⟨_ | level, l'⟩
    · rw [Server.processNACK_of_admitted hv hp]
      exact Server.lookup_path_early ..
    · rw [Server.processNACK_of_limited hv hp]
      rfl

/-- A datagram is accepted exactly if the reader hands it on and the limiter is asked about it. -/
theorem accepted_iff_reaches_limiter {t : HandOff.State} (ht : HandOff.Delivery t) (hr : t.reader = .reading)
    (workers : ℕ) {d : Bytes} :
    Accepted d ↔
      (HandOff.readerStep workers t (.read d src)).accepted = t.accepted ++ [(readFrom d, src)] ∧
        (srv.processNACK S B (readFrom d) src now sendErr l s).1.path.early = false := by
  rw [HandOff.accepted_read ht hr, Server.processNACK_path_early_iff, List.append_cancel_left_eq]
  constructor
  · rintro ⟨hsize, hvalid⟩
    exact ⟨if_pos hsize, hvalid⟩
  · rintro ⟨hsize, hvalid⟩
    by_cases h : (readFrom d).length = nackSize
    · exact ⟨h, hvalid⟩
    · simp [h] at hsize

end

/-- **The server accepts exactly the documented format on the datagrams that, if they are
accepted, are no longer than 64 bytes and have the protocol version of the format.** Neither is
checked. -/
theorem accepts_wire_format_iff (d : Bytes) :
    (Accepted d ↔ WireFormat d) ↔
      (64 ≤ d.length → uint32 (slice d 0 4) = 0xE3E1F3E8 → d.getD 6 0 = 0x10 →
        uint64 (slice d 16 24) = uint64 (slice d 24 32) → d.length = 64 ∧ uint16 (slice d 4 6) = 0x02BF) := by
  constructor
  · intro h h₁ h₂ h₃ h₄
    have hw := h.mp (accepted_iff.mpr ⟨h₁, h₂, h₃, h₄⟩)
    exact ⟨hw.size, hw.version⟩
  · intro h
    constructor
    · intro ha
      obtain ⟨h₁, h₂, h₃, h₄⟩ := accepted_iff.mp ha
      obtain ⟨hsize, hversion⟩ := h h₁ h₂ h₃ h₄
      exact ⟨hsize, h₂, hversion, h₃, h₄⟩
    · intro hw
      exact accepted_iff.mpr ⟨hw.size.ge, hw.magic, hw.msgType, hw.single⟩

/-- A NACK of another protocol version, and one with a byte too many, are accepted. -/
theorem accepts_other_formats :
    Accepted ((wireNACK 1 5).set 4 0xFF) ∧ ¬ WireFormat ((wireNACK 1 5).set 4 0xFF) ∧
      Accepted (wireNACK 1 5 ++ [0]) ∧ ¬ WireFormat (wireNACK 1 5 ++ [0]) := by
  refine ⟨accepted_iff.mpr (by decide), fun h => ?_, accepted_iff.mpr (by decide), fun h => ?_⟩
  · exact absurd h.version (by decide)
  · exact absurd h.size (by decide)

/-! ### What is written back -/

theorem response_type (msgType flags : UInt8) (seqNum : UInt64) :
    (response msgType flags seqNum)[6]? = some msgType := rfl

theorem response_flags (msgType flags : UInt8) (seqNum : UInt64) :
    (response msgType flags seqNum)[7]? = some flags := rfl

theorem response_seqNum (msgType flags : UInt8) (seqNum : UInt64) :
    uint64 (slice (response msgType flags seqNum) 8 16) = seqNum := by
  have hslice : slice (response msgType flags seqNum) 8 16 = putUint64 seqNum := rfl
  rw [hslice, uint64_putUint64]

theorem length_response (msgType flags : UInt8) (seqNum : UInt64) : (response msgType flags seqNum).length = 16 := rfl

/-- The backend, with the calls of `Retransmit` on record. -/
def Backend.logged {σ : Type} (B : Backend σ) : Backend (σ × List (Bytes × Bytes)) where
  cache :=
    { store := fun key value ttl now s =>
        let res := B.cache.store key value ttl now s.1
        (res.1, res.2, s.2)
      retrieve := fun key now s => B.cache.retrieve key now s.1 }
  retransmit raw txID now s :=
    let res := B.retransmit raw txID now s.1
    (res.1, res.2, s.2 ++ [(raw, txID)])

/-- The call of `Retransmit` on a path, if there is one. -/
def Path.calls : Path → List (Bytes × Bytes)
  | .hit _ (some c) => [(c.raw, c.txID)]
  | .hit _ none | .invalid _ | .range | .limited _ | .cacheError _ | .miss => []

namespace Server

variable {D : Deps} {σ : Type} (srv : Server) (S : ShardLib) (B : Backend σ) (datagram : Bytes) (src : Option UDPAddr)
  (now : Time) (sendErr : Bool) (l : Limiter D) (s : σ)

/-- The request reaches the cache: it is valid, and the tiers before the lookup admit it. -/
def LooksUp : Prop := Valid datagram ∧ (preLookup l (srcIP src) (readNACK datagram) now).1 = none

/-- What the lookup by `HashKey` and `StartSeq` returns. -/
def found : Except Err (Option Bytes) := B.cache.retrieve (readNACK datagram).key now s

/-- Whether the group tier throttles the retransmit of the frame. -/
def throttled (raw : Bytes) : Bool :=
  (srv.throttleGroup S (preLookup l (srcIP src) (readNACK datagram) now).2 (srcIP src) (frameTxID raw) now).1

/-- The responses that are written, whether or not the write succeeds. -/
def attempted : List Reply := (srv.processNACK S B datagram src now false l s).1.replies

/-- The calls of `Retransmit`. -/
def retransmits : List (Bytes × Bytes) := (srv.processNACK S B.logged datagram src now false l (s, [])).2.2.2

variable {datagram src now l}

theorem processNACK_of_looksUp (h : LooksUp datagram src now l) :
    srv.processNACK S B datagram src now sendErr l s =
      srv.lookup S B (readNACK datagram) src now sendErr (preLookup l (srcIP src) (readNACK datagram) now).2 s :=
  processNACK_of_admitted h.1 (Prod.ext h.2 rfl) sendErr s

variable {S} in
/-- A request that does not reach the cache is not answered, and leaves what is behind the
cache and the retransmitter alone. -/
theorem processNACK_of_not_looksUp (h : ¬ LooksUp datagram src now l) :
    ∃ path counted l', ∀ {σ : Type} (B : Backend σ) (sendErr : Bool) (s : σ),
      srv.processNACK S B datagram src now sendErr l s = (srv.outcome path [] counted, l', s) := by
  by_cases hv : Valid datagram
  · rcases hp : preLookup l (srcIP src) (readNACK datagram) now with ⟨_ | level, l'⟩
    · exact absurd ⟨hv, congrArg Prod.fst hp⟩ h
    · exact ⟨.limited level, _, l', fun B sendErr s => processNACK_of_limited hv hp sendErr s⟩
  · obtain ⟨path, counted, -, heq⟩ := processNACK_of_not_valid srv S src now l hv
    exact ⟨path, counted, l, heq⟩

theorem mem_replyMISS_iff {r : Reply} :
    r ∈ (srv.replyMISS src false).1 ↔
      srv.suppressMISS = false ∧ ∃ dst, src = some dst ∧ r = ⟨dst, response msgTypeMISS 0 0⟩ := by
  cases src with
  | none => simp [replyMISS]
  | some dst => cases h : srv.suppressMISS <;> simp [replyMISS, sendResponse, h]

theorem mem_replyACK_iff {seqNum : UInt64} {r : Reply} :
    r ∈ (srv.replyACK src seqNum false).1 ↔
      srv.suppressACK = false ∧ ∃ dst, src = some dst ∧ r = ⟨dst, response msgTypeACK 1 seqNum⟩ := by
  cases src with
  | none => simp [replyACK]
  | some dst => cases h : srv.suppressACK <;> simp [replyACK, sendResponse, h]

/-- What is written when the frame is found. -/
theorem replies_serve {raw : Bytes} {seqNum : UInt64} :
    (srv.serve S B raw src seqNum now false l s).1.replies =
      if (srv.throttleGroup S l (srcIP src) (frameTxID raw) now).1 = true ∨
        (B.retransmit raw (frameTxID raw) now s).1 = none then (srv.replyACK src seqNum false).1 else [] := by
  cases h : (srv.throttleGroup S l (srcIP src) (frameTxID raw) now).1 with
  | true =>
    rw [serve_of_throttled h]
    simp [outcome]
  | false =>
    rw [serve_of_passed h]
    cases hr : (B.retransmit raw (frameTxID raw) now s).1 <;> simp [outcome, afterRetransmit, hr]

/-- **What is written**: a MISS if no frame is found, an ACK if one is found and it is throttled
or retransmitted. -/
theorem attempted_of_looksUp (h : LooksUp datagram src now l) :
    srv.attempted S B datagram src now l s =
      match found B datagram now s with
      | .error _ => []
      | .ok none => (srv.replyMISS src false).1
      | .ok (some raw) =>
        if srv.throttled S datagram src now l raw = true ∨ (B.retransmit raw (frameTxID raw) now s).1 = none then
          (srv.replyACK src (readNACK datagram).startSeq false).1 else [] := by
  rw [attempted, processNACK_of_looksUp srv S B false s h, lookup, ← found]
  cases found B datagram now s with
  | error e => rfl
  | ok o =>
    cases o with
    | none => rfl
    | some raw => exact replies_serve ..

theorem attempted_of_not_looksUp (h : ¬ LooksUp datagram src now l) :
    srv.attempted S B datagram src now l s = [] := by
  obtain ⟨path, counted, l', heq⟩ := processNACK_of_not_looksUp srv h
  rw [attempted, heq]
  rfl

/-- The responses, one by one. -/
theorem mem_attempted_iff {r : Reply} :
    r ∈ srv.attempted S B datagram src now l s ↔ LooksUp datagram src now l ∧
      ((found B datagram now s = .ok none ∧ srv.suppressMISS = false ∧
          ∃ dst, src = some dst ∧ r = ⟨dst, response msgTypeMISS 0 0⟩) ∨
        ∃ raw, found B datagram now s = .ok (some raw) ∧
          (srv.throttled S datagram src now l raw = true ∨ (B.retransmit raw (frameTxID raw) now s).1 = none) ∧
          srv.suppressACK = false ∧
          ∃ dst, src = some dst ∧ r = ⟨dst, response msgTypeACK 1 (readNACK datagram).startSeq⟩) := by
  by_cases h : LooksUp datagram src now l
  · rw [attempted_of_looksUp srv S B s h]
    cases hf : found B datagram now s with
    | error e => simp
    | ok o =>
      cases o with
      | none => simp [h, mem_replyMISS_iff]
      | some raw =>
        dsimp only
        split_ifs with hack
        · simp [h, hack, mem_replyACK_iff]
        · simp [hack]
  · rw [attempted_of_not_looksUp srv S B s h]
    simp [h]

/-- They are a MISS, or an ACK with the `SeqNum` that was asked for. -/
theorem data_of_mem_attempted {r : Reply} (hr : r ∈ srv.attempted S B datagram src now l s) :
    src = some r.dst ∧ (r.data = response msgTypeMISS 0 0 ∨
      r.data = response msgTypeACK 1 (readNACK datagram).startSeq) := by
  rcases (mem_attempted_iff srv S B s).mp hr with ⟨-, ⟨-, -, dst, hsrc, rfl⟩ | ⟨raw, -, -, -, dst, hsrc, rfl⟩⟩
  · exact ⟨hsrc, .inl rfl⟩
  · exact ⟨hsrc, .inr rfl⟩

theorem length_attempted_le : (srv.attempted S B datagram src now l s).length ≤ 1 := by
  have hm : (srv.replyMISS src false).1.length ≤ 1 := by
    cases src <;> cases h : srv.suppressMISS <;> simp [replyMISS, sendResponse, h]
  have ha : (srv.replyACK src (readNACK datagram).startSeq false).1.length ≤ 1 := by
    cases src <;> cases h : srv.suppressACK <;> simp [replyACK, sendResponse, h]
  by_cases h : LooksUp datagram src now l
  · rw [attempted_of_looksUp srv S B s h]
    split
    · exact Nat.zero_le _
    · exact hm
    · split_ifs
      · exact ha
      · exact Nat.zero_le _
  · rw [attempted_of_not_looksUp srv S B s h]
    exact Nat.zero_le _

/-- The calls of `Retransmit` are those of the path. -/
theorem serve_logged (raw : Bytes) (seqNum : UInt64) (log : List (Bytes × Bytes)) :
    (srv.serve S B.logged raw src seqNum now sendErr l (s, log)).2.2.2 =
      log ++ (srv.serve S B raw src seqNum now sendErr l s).1.path.calls := by
  cases h : (srv.throttleGroup S l (srcIP src) (frameTxID raw) now).1 with
  | true => simp [serve_of_throttled h, outcome, Path.calls]
  | false => simp [serve_of_passed h, outcome, Path.calls, Backend.logged]

/-- **`Retransmit` is called once if a frame is found that is not throttled**, and not otherwise. -/
theorem retransmits_of_looksUp (h : LooksUp datagram src now l) :
    srv.retransmits S B datagram src now l s =
      match found B datagram now s with
      | .error _ | .ok none => []
      | .ok (some raw) => if srv.throttled S datagram src now l raw then [] else [(raw, frameTxID raw)] := by
  have hf : B.logged.cache.retrieve (readNACK datagram).key now (s, []) = found B datagram now s := rfl
  rw [retransmits, processNACK_of_looksUp srv S B.logged false _ h, lookup, hf]
  cases found B datagram now s with
  | error e => rfl
  | ok o =>
    cases o with
    | none => rfl
    | some raw =>
      dsimp only
      rw [serve_logged, serve_path, throttled]
      split_ifs <;> rfl

/-- A write that fails changes nothing but what is sent and counted. -/
theorem serve_sendErr (raw : Bytes) (seqNum : UInt64) :
    (srv.serve S B raw src seqNum now true l s).2 = (srv.serve S B raw src seqNum now false l s).2 ∧
      (srv.serve S B raw src seqNum now true l s).1.path = (srv.serve S B raw src seqNum now false l s).1.path ∧
      (srv.serve S B raw src seqNum now true l s).1.replies = [] := by
  have hack : (srv.replyACK src seqNum true).1 = [] := by
    cases src <;> cases h : srv.suppressACK <;> simp [replyACK, sendResponse, h]
  refine ⟨?_, by rw [serve_path, serve_path], ?_⟩
  · cases h : (srv.throttleGroup S l (srcIP src) (frameTxID raw) now).1 with
    | true => rw [serve_of_throttled h, serve_of_throttled h]
    | false => rw [serve_of_passed h, serve_of_passed h]
  · cases h : (srv.throttleGroup S l (srcIP src) (frameTxID raw) now).1 with
    | true =>
      rw [serve_of_throttled h]
      exact hack
    | false =>
      rw [serve_of_passed h]
      cases hr : (B.retransmit raw (frameTxID raw) now s).1 <;> simp [outcome, afterRetransmit, hr, hack]

theorem processNACK_sendErr :
    (srv.processNACK S B datagram src now true l s).2 = (srv.processNACK S B datagram src now false l s).2 ∧
      (srv.processNACK S B datagram src now true l s).1.path = (srv.processNACK S B datagram src now false l s).1.path ∧
      (srv.processNACK S B datagram src now true l s).1.replies = [] := by
  by_cases h : LooksUp datagram src now l
  · have hmiss : (srv.replyMISS src true).1 = [] := by
      cases src <;> cases h : srv.suppressMISS <;> simp [replyMISS, sendResponse, h]
    rw [processNACK_of_looksUp srv S B true s h, processNACK_of_looksUp srv S B false s h, lookup, lookup]
    cases B.cache.retrieve (readNACK datagram).key now s with
    | error e => exact ⟨rfl, rfl, rfl⟩
    | ok o =>
      cases o with
      | none => exact ⟨rfl, rfl, hmiss⟩
      | some raw => exact serve_sendErr ..
  · obtain ⟨path, counted, l', heq⟩ := processNACK_of_not_looksUp srv h
    rw [heq, heq]
    exact ⟨rfl, rfl, rfl⟩

variable (datagram src now l) in
/-- The responses to a NACK. -/
structure ResponseProtocol : Prop where
  /-- One response is written at most. -/
  one_write : (srv.attempted S B datagram src now l s).length ≤ 1
  /-- It has 16 bytes and goes to the source. -/
  sixteen : ∀ r ∈ srv.attempted S B datagram src now l s, r.data.length = 16 ∧ src = some r.dst
  /-- A write that fails changes nothing but what is sent. -/
  write_fails :
    (srv.processNACK S B datagram src now true l s).2 = (srv.processNACK S B datagram src now false l s).2 ∧
      (srv.processNACK S B datagram src now true l s).1.path = (srv.processNACK S B datagram src now false l s).1.path ∧
      (srv.processNACK S B datagram src now true l s).1.replies = []
  /-- `Retransmit` is called once at most. -/
  one_retransmit : (srv.retransmits S B datagram src now l s).length ≤ 1
  /-- A request that is malformed, for a range or limited is not answered, and the call goes the same
  way with any cache and any retransmitter, whose state it leaves alone. -/
  turned_away : ¬ LooksUp datagram src now l →
    srv.attempted S B datagram src now l s = [] ∧ srv.retransmits S B datagram src now l s = [] ∧
      ∀ {σ' : Type} (B' : Backend σ') (s' : σ'), srv.processNACK S B' datagram src now false l s' =
        ((srv.processNACK S B datagram src now false l s).1, (srv.processNACK S B datagram src now false l s).2.1, s')
  /-- One that is malformed or for a range costs no budget. -/
  no_budget : ¬ Valid datagram → (srv.processNACK S B datagram src now false l s).2.1 = l
  /-- When there is a MISS. -/
  miss : (∃ r ∈ srv.attempted S B datagram src now l s, r.data[6]? = some msgTypeMISS) ↔
    LooksUp datagram src now l ∧ found B datagram now s = .ok none ∧ src ≠ none ∧ srv.suppressMISS = false
  /-- What is in it. -/
  miss_data : ∀ r ∈ srv.attempted S B datagram src now l s, r.data[6]? = some msgTypeMISS →
    r.data[7]? = some 0 ∧ uint64 (slice r.data 8 16) = 0
  /-- When there is an ACK. -/
  ack : (∃ r ∈ srv.attempted S B datagram src now l s, r.data[6]? = some msgTypeACK) ↔
    LooksUp datagram src now l ∧ ∃ raw, found B datagram now s = .ok (some raw) ∧
      (srv.throttled S datagram src now l raw = true ∨
        srv.retransmits S B datagram src now l s = [(raw, frameTxID raw)] ∧
          (B.retransmit raw (frameTxID raw) now s).1 = none) ∧
      src ≠ none ∧ srv.suppressACK = false
  /-- What is in it. -/
  ack_data : ∀ r ∈ srv.attempted S B datagram src now l s, r.data[6]? = some msgTypeACK →
    r.data[7]? = some 1 ∧ uint64 (slice r.data 8 16) = (readNACK datagram).startSeq
  /-- After an error of the cache nothing is written. -/
  cache_error : ∀ e, found B datagram now s = .error e → srv.attempted S B datagram src now l s = []
  /-- After an error of `Retransmit` nothing is written. -/
  retransmit_error : ∀ raw e, found B datagram now s = .ok (some raw) →
    srv.throttled S datagram src now l raw = false → (B.retransmit raw (frameTxID raw) now s).1 = some e →
      srv.attempted S B datagram src now l s = []

theorem miss_iff :
    (∃ r ∈ srv.attempted S B datagram src now l s, r.data[6]? = some msgTypeMISS) ↔
      LooksUp datagram src now l ∧ found B datagram now s = .ok none ∧ src ≠ none ∧ srv.suppressMISS = false := by
  constructor
  · rintro ⟨r, hr, htype⟩
    rcases (mem_attempted_iff srv S B s).mp hr with
      ⟨hlook, ⟨hnone, hsup, dst, rfl, -⟩ | ⟨raw, -, -, -, dst, -, rfl⟩⟩
    · exact ⟨hlook, hnone, by simp, hsup⟩
    · rw [response_type] at htype
      exact absurd htype (by decide)
  · rintro ⟨hlook, hnone, hsrc, hsup⟩
    obtain ⟨dst, rfl⟩ := Option.ne_none_iff_exists'.mp hsrc
    exact ⟨_, (mem_attempted_iff srv S B s).mpr ⟨hlook, .inl ⟨hnone, hsup, dst, rfl, rfl⟩⟩, response_type ..⟩

theorem ack_iff :
    (∃ r ∈ srv.attempted S B datagram src now l s, r.data[6]? = some msgTypeACK) ↔
      LooksUp datagram src now l ∧ ∃ raw, found B datagram now s = .ok (some raw) ∧
        (srv.throttled S datagram src now l raw = true ∨
          srv.retransmits S B datagram src now l s = [(raw, frameTxID raw)] ∧
            (B.retransmit raw (frameTxID raw) now s).1 = none) ∧
        src ≠ none ∧ srv.suppressACK = false := by
  constructor
  · rintro ⟨r, hr, htype⟩
    rcases (mem_attempted_iff srv S B s).mp hr with
      ⟨hlook, ⟨-, -, dst, -, rfl⟩ | ⟨raw, hraw, hack, hsup, dst, rfl, -⟩⟩
    · rw [response_type] at htype
      exact absurd htype (by decide)
    · refine ⟨hlook, raw, hraw, ?_, by simp, hsup⟩
      cases hthr : srv.throttled S datagram (some dst) now l raw with
      | true => exact .inl rfl
      | false =>
        have hcall := retransmits_of_looksUp srv S B s hlook
        simp only [hraw, hthr, Bool.false_eq_true, if_false] at hcall
        exact .inr ⟨hcall, hack.resolve_left (by simp [hthr])⟩
  · rintro ⟨hlook, raw, hraw, hack, hsrc, hsup⟩
    obtain ⟨dst, rfl⟩ := Option.ne_none_iff_exists'.mp hsrc
    refine ⟨_, (mem_attempted_iff srv S B s).mpr ⟨hlook, .inr ⟨raw, hraw, ?_, hsup, dst, rfl, rfl⟩⟩, response_type ..⟩
    exact hack.imp_right And.right

variable (datagram src now l) in
/-- **The response protocol**, for every request and whatever the limiter, the cache and the
retransmitter do. -/
theorem response_protocol : srv.ResponseProtocol S B datagram src now l s where
  one_write := length_attempted_le ..
  sixteen r hr := by
    obtain ⟨hsrc, hdata | hdata⟩ := data_of_mem_attempted srv S B s hr
    · exact ⟨hdata ▸ length_response .., hsrc⟩
    · exact ⟨hdata ▸ length_response .., hsrc⟩
  write_fails := processNACK_sendErr ..
  one_retransmit := by
    by_cases h : LooksUp datagram src now l
    · rw [retransmits_of_looksUp srv S B s h]
      split
      · exact Nat.zero_le _
      · exact Nat.zero_le _
      · split_ifs <;> simp
    · obtain ⟨path, counted, l', heq⟩ := processNACK_of_not_looksUp srv h
      rw [retransmits, heq]
      exact Nat.zero_le _
  turned_away h := by
    obtain ⟨path, counted, l', heq⟩ := processNACK_of_not_looksUp srv h
    refine ⟨attempted_of_not_looksUp srv S B s h, ?_, fun B' s' => ?_⟩
    · rw [retransmits, heq]
    · rw [heq, heq]
  no_budget h := by
    obtain ⟨path, counted, -, heq⟩ := processNACK_of_not_valid srv S src now l h
    rw [heq]
  miss := miss_iff ..
  miss_data r hr htype := by
    obtain ⟨-, hdata | hdata⟩ := data_of_mem_attempted srv S B s hr
    · rw [hdata]
      exact ⟨response_flags .., response_seqNum ..⟩
    · rw [hdata, response_type] at htype
      exact absurd htype (by decide)
  ack := ack_iff ..
  ack_data r hr htype := by
    obtain ⟨-, hdata | hdata⟩ := data_of_mem_attempted srv S B s hr
    · rw [hdata, response_type] at htype
      exact absurd htype (by decide)
    · rw [hdata]
      exact ⟨response_flags .., response_seqNum ..⟩
  cache_error e he := by
    refine List.eq_nil_iff_forall_not_mem.mpr fun r hr => ?_
    rcases (mem_attempted_iff srv S B s).mp hr with ⟨-, ⟨hnone, -⟩ | ⟨raw, hraw, -⟩⟩
    · simp [he] at hnone
    · simp [he] at hraw
  retransmit_error raw e hraw hthr herr := by
    refine List.eq_nil_iff_forall_not_mem.mpr fun r hr => ?_
    rcases (mem_attempted_iff srv S B s).mp hr with ⟨-, ⟨hnone, -⟩ | ⟨raw', hraw', hack, -⟩⟩
    · simp [hraw] at hnone
    · obtain rfl : raw = raw' := by simpa [hraw] using hraw'
      simp [hthr, herr] at hack

end Server

end RetryEndpoint.NackServer
