import RetryEndpoint.NackServer.Protocol
import RetryEndpoint.NackServer.Workers
import RetryEndpoint.Wiring
import Mathlib.Algebra.BigOperators.Ring.List
import Mathlib.Algebra.Order.BigOperators.Group.List

/-!
# The accounts of the NACK path

The counters that `processNACK` keeps, and the bytes that it sends back, while any number of
workers are at it.

## The model

The runs are those of `Workers`: calls that take their steps in any order. The value of a counter
is what all calls have counted so far, those that have returned and those under way
(`State.total`). What is under way is part of the accounts. `CacheError` is a counter that the
ingress worker and the retransmitter share; here it is what `processNACK` itself adds to it.

## What is proved

* `Task.Sound.balanced`, `Task.Sound.replies` — what one call counts and sends, at each stage.
* `accounts_balance` — the counters balance at every point of every run: requests are malformed,
  rejected, fail, miss, hit or are on their way, and hits and misses have their responses.
* `no_amplification` — no address is sent more than a quarter of the bytes that came from it.
-/

namespace RetryEndpoint.NackServer

open Go Cache RateLimit ShardCommon Theory

namespace Server

/-- There is no MISS to `src`: there is no address, or MISSes are suppressed. -/
def silentMISS (srv : Server) (src : Option UDPAddr) : Bool := src.isNone || srv.suppressMISS

/-- There is no ACK to `src`. -/
def silentACK (srv : Server) (src : Option UDPAddr) : Bool := src.isNone || srv.suppressACK

end Server

/-- A response is to a NACK for one frame. -/
theorem Server.Possible.valid {srv : Server} {datagram : Bytes} {path : Path} (h : srv.Possible datagram path)
    (hresp : path.responds = true) : Valid datagram := by
  cases path with
  | invalid | range | limited | cacheError => cases hresp
  | miss => exact h
  | hit raw call =>
    cases call with
    | none => exact h.1
    | some c => exact h.1

namespace Workers

variable {D : Deps} {σ : Type} {srv : Server}

/-! ### The counters -/

namespace Stage

/-- The result of the lookup is not known yet. -/
@[simp]
def looking : Stage → Bool
  | .validate | .ip _ | .sequence _ | .chain _ | .retrieve _ => true
  | .group _ _ | .retransmit _ _ _ | .respond _ _ | .returned _ => false

/-- The frame was found, and has not been retransmitted. -/
@[simp]
def serving : Stage → Bool
  | .group _ _ | .retransmit _ _ _ => true
  | .validate | .ip _ | .sequence _ | .chain _ | .retrieve _ | .respond _ _ | .returned _ => false

/-- The request was no NACK for one frame. -/
@[simp]
def malformed : Stage → Bool
  | .returned (.invalid _) | .returned .range => true
  | _ => false

/-- `Retransmit` returned an error. -/
@[simp]
def failed : Stage → Bool
  | .returned (.hit _ (some c)) => c.err.isSome
  | _ => false

/-- The call has come to its MISS, or has returned without one. -/
@[simp]
def withoutMISS (silent : Bool) : Stage → Bool
  | .respond _ .miss => true
  | .returned .miss => silent
  | _ => false

/-- The call has come to its ACK, or has returned without one. -/
@[simp]
def withoutACK (silent : Bool) : Stage → Bool
  | .respond _ (.hit _ _) => true
  | .returned (.hit _ none) => silent
  | .returned (.hit _ (some c)) => c.err.isNone && silent
  | _ => false

end Stage

/-- **The counts of one call balance.** -/
structure Task.Balanced (srv : Server) (t : Task) : Prop where
  /-- A request is malformed, rejected, fails, misses, hits, or is being looked up. -/
  requests : t.counted.count .nackRequest =
    t.stage.malformed.toNat + t.counted.count (.rateLimitDrop .ip) + t.counted.count (.rateLimitDrop .sequence) +
      t.counted.count (.rateLimitDrop .chain) + t.counted.count .cacheError + t.counted.count .cacheMiss +
      t.counted.count .cacheHit + t.stage.looking.toNat
  /-- A hit is throttled, retransmitted, fails, or is being served. -/
  hits : t.counted.count .cacheHit = t.counted.count (.rateLimitDrop .group) + t.counted.count .retransmit +
    t.stage.failed.toNat + t.stage.serving.toNat
  /-- A miss has a response, sent or not. -/
  misses : t.counted.count .cacheMiss = t.counted.count (.responseSent .miss) +
    t.counted.count (.responseSendError .miss) + (t.stage.withoutMISS (srv.silentMISS t.src)).toNat
  /-- So has a hit that is throttled or retransmitted. -/
  acks : t.counted.count (.rateLimitDrop .group) + t.counted.count .retransmit = t.counted.count (.responseSent .ack) +
    t.counted.count (.responseSendError .ack) + (t.stage.withoutACK (srv.silentACK t.src)).toNat

theorem counted_replyMISS (src : Option UDPAddr) (sendErr : Bool) :
    (srv.replyMISS src sendErr).2 =
      if srv.silentMISS src then [] else [if sendErr then .responseSendError .miss else .responseSent .miss] := by
  cases src with
  | none => rfl
  | some dst =>
    cases h : srv.suppressMISS <;> cases sendErr <;> simp [Server.replyMISS, Server.silentMISS, sendResponse, h]

theorem counted_replyACK (src : Option UDPAddr) (seqNum : UInt64) (sendErr : Bool) :
    (srv.replyACK src seqNum sendErr).2 =
      if srv.silentACK src then [] else [if sendErr then .responseSendError .ack else .responseSent .ack] := by
  cases src with
  | none => rfl
  | some dst =>
    cases h : srv.suppressACK <;> cases sendErr <;>
      simp [Server.replyACK, Server.silentACK, sendResponse, h, msgTypeACK, msgTypeMISS]

theorem Task.Sound.balanced {t : Task} (h : t.Sound srv) (hrec : srv.recorder = true) : t.Balanced srv := by
  have hcounts (ms : List Metric) : srv.counts ms = ms := if_pos hrec
  cases h with
  | fresh hs hr hc =>
    rw [hcounts] at hc
    constructor <;> simp [hs, hc]
  | asking q hs hv hq hr hc =>
    rw [hcounts] at hc
    rcases hs with hs | hs | hs | hs
    all_goals constructor <;> simp [hs, hc]
  | serving q raw hs hv hq hr hc =>
    rw [hcounts] at hc
    rcases hs with hs | ⟨since, hs⟩
    all_goals constructor <;> simp [hs, hc]
  | answering path hs hresp hp hr hc =>
    rw [hcounts] at hc
    cases path with
    | invalid | range | limited | cacheError => cases hresp
    | miss => constructor <;> simp [hs, hc, Path.counted]
    | hit raw call =>
      cases call with
      | none => constructor <;> simp [hs, hc, Path.counted]
      | some c =>
        have herr : c.err = none := Option.isNone_iff_eq_none.mp hresp
        constructor <;> simp [hs, hc, Path.counted, herr]
  | returned path hs hp sendErr ho =>
    have hc : path.counted ++ (srv.reply path t.src (readNACK t.datagram).startSeq sendErr).2 = t.counted := by
      rw [← hcounts (_ ++ _)]
      exact congrArg Outcome.counted ho
    cases path with
    | invalid | range | cacheError => constructor <;> simp [hs, ← hc, Path.counted, Server.reply]
    | limited level =>
      obtain ⟨-, hlevel, -⟩ := hp
      cases level with
      | ip | sequence | chain => constructor <;> simp [hs, ← hc, Path.counted, Server.reply]
      | group => exact absurd rfl hlevel
    | miss =>
      simp only [Path.counted, Server.reply, counted_replyMISS] at hc
      cases hsilent : srv.silentMISS t.src <;> cases sendErr <;> constructor <;> simp [hs, ← hc, hsilent]
    | hit raw call =>
      cases call with
      | none =>
        simp only [Path.counted, Server.reply, counted_replyACK] at hc
        cases hsilent : srv.silentACK t.src <;> cases sendErr <;> constructor <;> simp [hs, ← hc, hsilent]
      | some c =>
        cases herr : c.err with
        | some e =>
          simp only [Path.counted, Server.reply, herr, Option.isSome_some, if_true, List.append_nil] at hc
          constructor <;> simp [hs, ← hc, herr]
        | none =>
          simp only [Path.counted, Server.reply, herr, Option.isSome_none, Bool.false_eq_true, if_false,
            counted_replyACK] at hc
          cases hsilent : srv.silentACK t.src <;> cases sendErr <;> constructor <;> simp [hs, ← hc, hsilent, herr]

/-- What a number comes to over all calls of a run. -/
def State.sum (s : State D σ) (f : Task → ℕ) : ℕ := (s.calls.map f).sum

/-- A counter. -/
def State.total (s : State D σ) (m : Metric) : ℕ := s.sum fun t => t.counted.count m

/-- How many calls are at a stage. -/
def State.number (s : State D σ) (p : Stage → Bool) : ℕ := s.sum fun t => (p t.stage).toNat

/-- **The balance of the counters.** What is under way is part of it. -/
structure State.Balanced (srv : Server) (s : State D σ) : Prop where
  /-- A request is malformed, rejected before the lookup, fails, misses, hits, or is on its way. -/
  requests : s.total .nackRequest =
    s.number Stage.malformed + s.total (.rateLimitDrop .ip) + s.total (.rateLimitDrop .sequence) +
      s.total (.rateLimitDrop .chain) + s.total .cacheError + s.total .cacheMiss + s.total .cacheHit +
      s.number Stage.looking
  /-- A hit is throttled, retransmitted, fails, or is on its way. -/
  hits : s.total .cacheHit =
    s.total (.rateLimitDrop .group) + s.total .retransmit + s.number Stage.failed + s.number Stage.serving
  /-- A miss is answered, or there is no answer to it. -/
  misses : s.total .cacheMiss = s.total (.responseSent .miss) + s.total (.responseSendError .miss) +
    s.sum fun t => (t.stage.withoutMISS (srv.silentMISS t.src)).toNat
  /-- So is a hit that is throttled or retransmitted. -/
  acks : s.total (.rateLimitDrop .group) + s.total .retransmit =
    s.total (.responseSent .ack) + s.total (.responseSendError .ack) +
      s.sum fun t => (t.stage.withoutACK (srv.silentACK t.src)).toNat

theorem sum_add (s : State D σ) (f g : Task → ℕ) : s.sum f + s.sum g = s.sum fun t => f t + g t :=
  List.sum_map_add.symm

theorem sum_congr {s : State D σ} {f g : Task → ℕ} (h : ∀ t ∈ s.calls, f t = g t) : s.sum f = s.sum g := by
  rw [State.sum, State.sum, List.map_congr_left h]

theorem State.balanced_of_calls {s : State D σ} (h : ∀ t ∈ s.calls, t.Balanced srv) : s.Balanced srv where
  requests := by
    simp only [State.total, State.number, sum_add]
    exact sum_congr fun t ht => (h t ht).requests
  hits := by
    simp only [State.total, State.number, sum_add]
    exact sum_congr fun t ht => (h t ht).hits
  misses := by
    simp only [State.total, sum_add]
    exact sum_congr fun t ht => (h t ht).misses
  acks := by
    simp only [State.total, sum_add]
    exact sum_congr fun t ht => (h t ht).acks

/-- **The counters of the NACK path balance**, at every point of every interleaving. -/
theorem accounts_balance {ω : Type} (cfg : RetryEndpoint.Config) (S : ShardLib) (back : ω → Backend σ)
    (x : Shared D σ) (es : List (Event ω)) :
    (run cfg.server S back cfg.nackWorkers.toNat x es).Balanced cfg.server :=
  State.balanced_of_calls fun t ht => (run_sound x es t ht).balanced rfl

/-! ### The responses -/

/-- How many bytes were sent to an address. -/
def State.bytesTo (s : State D σ) (dst : UDPAddr) : ℕ :=
  s.sum fun t => ((t.replies.filter fun r => r.dst = dst).map fun r => r.data.length).sum

/-- How many bytes of requests came from it. -/
def State.bytesFrom (s : State D σ) (dst : UDPAddr) : ℕ :=
  s.sum fun t => if t.src = some dst then t.datagram.length else 0

/-- Nothing is sent back, or one response to where the request came from. -/
def AtMostOne (src : Option UDPAddr) (rs : List Reply) : Prop :=
  rs = [] ∨ ∃ dst msgType flags seqNum, src = some dst ∧ rs = [⟨dst, response msgType flags seqNum⟩]

theorem atMostOne_sendResponse (dst : UDPAddr) (msgType flags : UInt8) (seqNum : UInt64) (sendErr : Bool) :
    AtMostOne (some dst) (sendResponse dst msgType flags seqNum sendErr).1 := by
  cases sendErr with
  | true => exact .inl rfl
  | false => exact .inr ⟨dst, msgType, flags, seqNum, rfl, rfl⟩

variable (srv)

theorem atMostOne_replyMISS (src : Option UDPAddr) (sendErr : Bool) :
    AtMostOne src (srv.replyMISS src sendErr).1 := by
  cases src with
  | none => exact .inl rfl
  | some dst =>
    simp only [Server.replyMISS]
    split_ifs
    · exact .inl rfl
    · exact atMostOne_sendResponse ..

theorem atMostOne_replyACK (src : Option UDPAddr) (seqNum : UInt64) (sendErr : Bool) :
    AtMostOne src (srv.replyACK src seqNum sendErr).1 := by
  cases src with
  | none => exact .inl rfl
  | some dst =>
    simp only [Server.replyACK]
    split_ifs
    · exact .inl rfl
    · exact atMostOne_sendResponse ..

/-- A call that does not go on to a response sends nothing back. -/
theorem atMostOne_reply (path : Path) (src : Option UDPAddr) (seqNum : UInt64) (sendErr : Bool) :
    AtMostOne src (srv.reply path src seqNum sendErr).1 ∧
      (path.responds = false → (srv.reply path src seqNum sendErr).1 = []) := by
  cases path with
  | invalid | range | limited | cacheError => exact ⟨.inl rfl, fun _ => rfl⟩
  | miss => exact ⟨atMostOne_replyMISS srv src sendErr, nofun⟩
  | hit raw call =>
    cases call with
    | none => exact ⟨atMostOne_replyACK srv src seqNum sendErr, nofun⟩
    | some c =>
      simp only [Server.reply, Path.responds]
      cases c.err with
      | some e => exact ⟨.inl rfl, fun _ => rfl⟩
      | none => exact ⟨atMostOne_replyACK srv src seqNum sendErr, nofun⟩

variable {srv}

/-- A call has sent nothing, or one response of 16 bytes to where a NACK of 64 came from. -/
theorem Task.Sound.replies {t : Task} (h : t.Sound srv) :
    AtMostOne t.src t.replies ∧ (t.replies ≠ [] → 64 ≤ t.datagram.length) := by
  have hnone (hr : t.replies = []) : AtMostOne t.src t.replies ∧ (t.replies ≠ [] → 64 ≤ t.datagram.length) :=
    ⟨.inl hr, fun h => absurd hr h⟩
  cases h with
  | fresh hs hr | asking q hs hv hq hr | serving q raw hs hv hq hr | answering path hs hresp hp hr => exact hnone hr
  | returned path hs hp sendErr ho =>
    have hr : (srv.reply path t.src (readNACK t.datagram).startSeq sendErr).1 = t.replies :=
      congrArg Outcome.replies ho
    obtain ⟨hone, hsilent⟩ := atMostOne_reply srv path t.src (readNACK t.datagram).startSeq sendErr
    rw [hr] at hone hsilent
    refine ⟨hone, fun hne => ?_⟩
    cases hresp : path.responds with
    | false => exact absurd (hsilent hresp) hne
    | true => exact (validateNACK_eq_none_iff.mp (hp.valid hresp).valid).1

/-- So it sends an address at most a quarter of the bytes that it has from it. -/
theorem Task.Sound.bytes_le {t : Task} (h : t.Sound srv) (dst : UDPAddr) :
    4 * ((t.replies.filter fun r => r.dst = dst).map fun r => r.data.length).sum ≤
      if t.src = some dst then t.datagram.length else 0 := by
  obtain ⟨hnone | ⟨dst', msgType, flags, seqNum, hsrc, hone⟩, hlen⟩ := h.replies
  · simp [hnone]
  · have hlen : 64 ≤ t.datagram.length := hlen (by simp [hone])
    by_cases hdst : dst' = dst
    · simp [hone, hsrc, hdst, length_response, hlen]
    · simp [hone, hdst]

/-- **No address is sent more than a quarter of the bytes that came from it**, at any point of any
interleaving: a request has at most one response, which is a quarter of its size. -/
theorem no_amplification {ω : Type} (srv : Server) (S : ShardLib) (back : ω → Backend σ) (workers : ℕ)
    (x : Shared D σ) (es : List (Event ω)) (dst : UDPAddr) :
    4 * (run srv S back workers x es).bytesTo dst ≤ (run srv S back workers x es).bytesFrom dst := by
  rw [State.bytesTo, State.bytesFrom, State.sum, State.sum, ← List.sum_map_mul_left]
  exact List.sum_le_sum fun t ht => (run_sound x es t ht).bytes_le dst

end Workers

end RetryEndpoint.NackServer
