import RetryEndpoint.NackServer.Tiers
import RetryEndpoint.Theory.Runs
import Mathlib.Tactic.SplitIfs

/-!
# The workers of the NACK server, step by step

`Server.Run` starts a pool of workers that run `processNACK` side by side. They share the limiter,
whose tiers have a mutex each, the cache, the retransmitter and the counters, so between two
accesses of one call the other calls may do anything.

## The model

A `Task` is a call of `processNACK` under way: its request, the `Stage` it is at, what it has
sent back and what it has counted. `advance` takes it to the next stage, which is one access to
what is shared: a tier of the limiter, the lookup, `Retransmit`, or the write of the response.
Each access reads the clock for itself. An `Event` is a request that a worker takes up, if one is
free, or a step of a call under way, in any order. `Retransmit` is one step here;
`Retransmit.Fleet` separates its gate from its writes.

## What is proved

* `advance_alone` — a call whose steps follow one another is a call of `processNACK`.
* `run_sound` — what is known of a call at each stage, in every interleaving.
* `interleaving_refines` — each call that returns leaves behind what a call of `processNACK` that
  is not interrupted leaves behind, for some limiter and some backend.
-/

namespace RetryEndpoint.NackServer

open Go Cache RateLimit ShardCommon Theory

/-! ### What a call leaves behind, by its path -/

/-- What a call counts before its response. -/
def Path.counted : Path → List Metric
  | .invalid _ | .range => [.nackRequest]
  | .limited level => [.nackRequest, .rateLimitDrop level]
  | .cacheError _ => [.nackRequest, .cacheError]
  | .miss => [.nackRequest, .cacheMiss]
  | .hit _ none => [.nackRequest, .cacheHit, .rateLimitDrop .group]
  | .hit _ (some c) => if c.err.isSome then [.nackRequest, .cacheHit] else [.nackRequest, .cacheHit, .retransmit]

/-- The call goes on to a response. -/
def Path.responds : Path → Bool
  | .invalid _ | .range | .limited _ | .cacheError _ => false
  | .miss | .hit _ none => true
  | .hit _ (some c) => c.err.isNone

namespace Server

/-- Counts go to the recorder, if there is one. -/
def counts (srv : Server) (ms : List Metric) : List Metric := if srv.recorder then ms else []

/-- The response of a call that goes a given way. -/
def reply (srv : Server) (path : Path) (src : Option UDPAddr) (seqNum : UInt64) (sendErr : Bool) :
    List Reply × List Metric :=
  match path with
  | .invalid _ | .range | .limited _ | .cacheError _ => ([], [])
  | .miss => srv.replyMISS src sendErr
  | .hit _ none => srv.replyACK src seqNum sendErr
  | .hit _ (some c) => if c.err.isSome then ([], []) else srv.replyACK src seqNum sendErr

/-- What it leaves behind. -/
def outcomeOf (srv : Server) (path : Path) (src : Option UDPAddr) (seqNum : UInt64) (sendErr : Bool) : Outcome :=
  let tail := srv.reply path src seqNum sendErr
  srv.outcome path tail.1 (path.counted ++ tail.2)

/-- The ways a call for a datagram can go. -/
def Possible (srv : Server) (datagram : Bytes) : Path → Prop
  | .invalid e => validateNACK datagram = some e
  | .range => validateNACK datagram = none ∧ (readNACK datagram).endSeq ≠ (readNACK datagram).startSeq
  | .limited level => Valid datagram ∧ level ≠ .group ∧ (level = .chain → (readNACK datagram).hashKey ≠ 0)
  | .cacheError _ | .miss => Valid datagram
  | .hit _ none => Valid datagram ∧ srv.shardEngine.isSome
  | .hit raw (some c) => Valid datagram ∧ c.raw = raw ∧ c.txID = frameTxID raw

end Server

namespace Workers

/-- Where a call is: what it does next. -/
inductive Stage where
  /-- `validateNACK`, and the check for a range. -/
  | validate
  /-- The IP tier. -/
  | ip (q : Nack)
  /-- The sequence tier. -/
  | sequence (q : Nack)
  /-- The chain tier. -/
  | chain (q : Nack)
  /-- The lookup. -/
  | retrieve (q : Nack)
  /-- The group tier. -/
  | group (q : Nack) (raw : Bytes)
  /-- `Retransmit`; `since` is when the call got past the group tier. -/
  | retransmit (q : Nack) (raw : Bytes) (since : Time)
  /-- The response. -/
  | respond (q : Nack) (path : Path)
  /-- The call has returned. -/
  | returned (path : Path)
  deriving DecidableEq

/-- A call of `processNACK`. -/
structure Task where
  /-- The datagram. -/
  datagram : Bytes
  /-- Where it comes from. -/
  src : Option UDPAddr
  /-- Where the call is. -/
  stage : Stage
  /-- What it has sent back. -/
  replies : List Reply
  /-- What it has counted. -/
  counted : List Metric

/-- What the workers share. -/
structure Shared (D : Deps) (σ : Type) where
  /-- The limiter. -/
  limiter : Limiter D
  /-- What lies behind the cache and the retransmitter. -/
  behind : σ

section

variable {D : Deps} {σ : Type} (srv : Server) (S : ShardLib) (B : Backend σ)

/-- A call that begins. -/
def Task.new (datagram : Bytes) (src : Option UDPAddr) : Task :=
  ⟨datagram, src, .validate, [], srv.counts [.nackRequest]⟩

/-- The call goes on to another stage. -/
def Task.goto (t : Task) (stage : Stage) (replies : List Reply) (counted : List Metric) : Task :=
  { t with stage := stage, replies := t.replies ++ replies, counted := t.counted ++ srv.counts counted }

/-- One step of a call. -/
def advance (now : Time) (sendErr : Bool) (t : Task) (x : Shared D σ) : Task × Shared D σ :=
  match t.stage with
  | .validate =>
    match validateNACK t.datagram with
    | some e => (t.goto srv (.returned (.invalid e)) [] [], x)
    | none =>
      let q := readNACK t.datagram
      if q.endSeq ≠ q.startSeq then (t.goto srv (.returned .range) [] [], x) else (t.goto srv (.ip q) [] [], x)
  | .ip q =>
    let r := x.limiter.ipLimiter.allow (D.ipString (srcIP t.src)) now
    let x := { x with limiter := { x.limiter with ipLimiter := r.2 } }
    if !r.1 then (t.goto srv (.returned (.limited .ip)) [] [.rateLimitDrop .ip], x)
    else (t.goto srv (.sequence q) [] [], x)
  | .sequence q =>
    let r := x.limiter.sequenceLimiter.allow q.startSeq now
    let x := { x with limiter := { x.limiter with sequenceLimiter := r.2 } }
    if !r.1 then (t.goto srv (.returned (.limited .sequence)) [] [.rateLimitDrop .sequence], x)
    else (t.goto srv (.chain q) [] [], x)
  | .chain q =>
    let r := x.limiter.allowChain (srcIP t.src) q.hashKey now
    let x := { x with limiter := r.2 }
    if !r.1 then (t.goto srv (.returned (.limited .chain)) [] [.rateLimitDrop .chain], x)
    else (t.goto srv (.retrieve q) [] [], x)
  | .retrieve q =>
    match B.cache.retrieve q.key now x.behind with
    | .error e => (t.goto srv (.returned (.cacheError e)) [] [.cacheError], x)
    | .ok none => (t.goto srv (.respond q .miss) [] [.cacheMiss], x)
    | .ok (some raw) => (t.goto srv (.group q raw) [] [.cacheHit], x)
  | .group q raw =>
    let g := srv.throttleGroup S x.limiter (srcIP t.src) (frameTxID raw) now
    let x := { x with limiter := g.2 }
    if g.1 then (t.goto srv (.respond q (.hit raw none)) [] [.rateLimitDrop .group], x)
    else (t.goto srv (.retransmit q raw now) [] [], x)
  | .retransmit q raw _ =>
    let res := B.retransmit raw (frameTxID raw) now x.behind
    let path := Path.hit raw (some ⟨raw, frameTxID raw, res.1⟩)
    let x := { x with behind := res.2 }
    match res.1 with
    | some _ => (t.goto srv (.returned path) [] [], x)
    | none => (t.goto srv (.respond q path) [] [.retransmit], x)
  | .respond q path =>
    let tail := srv.reply path t.src q.startSeq sendErr
    (t.goto srv (.returned path) tail.1 tail.2, x)
  | .returned _ => (t, x)

/-- The call has returned. -/
def Stage.isReturned : Stage → Bool
  | .returned _ => true
  | _ => false

/-- The pool. -/
structure State (D : Deps) (σ : Type) where
  /-- What the workers share. -/
  shared : Shared D σ
  /-- The calls under way. -/
  busy : List Task
  /-- The calls that have returned, in order. -/
  finished : List Task

/-- What can happen next; `env` is what the backend meets in the step. -/
inductive Event (ω : Type) where
  /-- A worker takes up a request. -/
  | start (datagram : Bytes) (src : Option UDPAddr)
  /-- The `i`-th call under way takes a step. -/
  | advance (i : ℕ) (now : Time) (sendErr : Bool) (env : ω)

variable {ω : Type} (back : ω → Backend σ) (workers : ℕ)

/-- One event. -/
def step (s : State D σ) : Event ω → State D σ
  | .start datagram src =>
    if s.busy.length < workers then { s with busy := s.busy ++ [Task.new srv datagram src] } else s
  | .advance i now sendErr env =>
    match s.busy[i]? with
    | none => s
    | some t =>
      let r := advance srv S (back env) now sendErr t s.shared
      if r.1.stage.isReturned then ⟨r.2, s.busy.eraseIdx i, s.finished ++ [r.1]⟩
      else { s with shared := r.2, busy := s.busy.set i r.1 }

/-- A run. -/
def run (x : Shared D σ) (es : List (Event ω)) : State D σ := runFrom (step srv S back workers) ⟨x, [], []⟩ es

/-- All calls of a run so far. -/
def State.calls (s : State D σ) : List Task := s.finished ++ s.busy

end

/-- What a call that has returned leaves behind. -/
def Task.outcome (t : Task) : Option Outcome :=
  match t.stage with
  | .returned path => some ⟨path, t.replies, t.counted⟩
  | _ => none

/-! ### One call -/

section

variable {D : Deps} {σ : Type} {srv : Server} {S : ShardLib} {B : Backend σ}

theorem counts_append (ms ms' : List Metric) : srv.counts (ms ++ ms') = srv.counts ms ++ srv.counts ms' := by
  unfold Server.counts
  split_ifs
  · rfl
  · rfl

variable (srv) in
/-- **What is known of a call at each stage.** Until the response nothing has been sent back, and
what has been counted goes by the stage; at the end it goes by the path. -/
inductive Task.Sound (t : Task) : Prop where
  /-- Nothing is known of the datagram. -/
  | fresh (hs : t.stage = .validate) (hr : t.replies = []) (hc : t.counted = srv.counts [.nackRequest])
  /-- The datagram is a NACK for one frame. -/
  | asking (q : Nack) (hs : t.stage = .ip q ∨ t.stage = .sequence q ∨ t.stage = .chain q ∨ t.stage = .retrieve q)
      (hv : Valid t.datagram) (hq : q = readNACK t.datagram) (hr : t.replies = [])
      (hc : t.counted = srv.counts [.nackRequest])
  /-- The frame is in the cache. -/
  | serving (q : Nack) (raw : Bytes) (hs : t.stage = .group q raw ∨ ∃ since, t.stage = .retransmit q raw since)
      (hv : Valid t.datagram) (hq : q = readNACK t.datagram) (hr : t.replies = [])
      (hc : t.counted = srv.counts [.nackRequest, .cacheHit])
  /-- Only the response is missing. -/
  | answering (path : Path) (hs : t.stage = .respond (readNACK t.datagram) path) (hresp : path.responds = true)
      (hp : srv.Possible t.datagram path) (hr : t.replies = []) (hc : t.counted = srv.counts path.counted)
  /-- The call has returned. -/
  | returned (path : Path) (hs : t.stage = .returned path) (hp : srv.Possible t.datagram path) (sendErr : Bool)
      (ho : srv.outcomeOf path t.src (readNACK t.datagram).startSeq sendErr = ⟨path, t.replies, t.counted⟩)

section Goto

@[simp] theorem goto_stage (t : Task) (stage : Stage) (rs : List Reply) (ms : List Metric) :
    (t.goto srv stage rs ms).stage = stage := rfl

@[simp] theorem goto_src (t : Task) (stage : Stage) (rs : List Reply) (ms : List Metric) :
    (t.goto srv stage rs ms).src = t.src := rfl

/-- Two stages in one. -/
theorem goto_goto (t : Task) (stage stage' : Stage) (rs rs' : List Reply) (ms ms' : List Metric) :
    (t.goto srv stage rs ms).goto srv stage' rs' ms' = t.goto srv stage' (rs ++ rs') (ms ++ ms') := by
  simp only [Task.goto, counts_append, List.append_assoc]

variable {t : Task} (hr : t.replies = []) {soFar : List Metric} (hc : t.counted = srv.counts soFar)

include hr in
theorem replies_goto (stage : Stage) (ms : List Metric) : (t.goto srv stage [] ms).replies = [] := by
  rw [Task.goto, hr]
  rfl

include hc in
theorem counted_goto (stage : Stage) (ms : List Metric) :
    (t.goto srv stage [] ms).counted = srv.counts (soFar ++ ms) := by
  rw [Task.goto, hc, counts_append]

include hr hc in
/-- A call that returns without a response. -/
theorem sound_goto_returned (path : Path) {ms : List Metric} (hcount : path.counted = soFar ++ ms)
    (hreply : ∀ src seqNum, srv.reply path src seqNum false = ([], [])) (hp : srv.Possible t.datagram path) :
    (t.goto srv (.returned path) [] ms).Sound srv := by
  refine .returned path rfl hp false ?_
  rw [replies_goto hr, counted_goto hc, ← hcount, Server.outcomeOf, hreply, List.append_nil]
  rfl

include hr hc in
/-- A call that goes on to its response. -/
theorem sound_goto_respond (path : Path) {ms : List Metric} (hcount : path.counted = soFar ++ ms)
    (hresp : path.responds = true) (hp : srv.Possible t.datagram path) :
    (t.goto srv (.respond (readNACK t.datagram) path) [] ms).Sound srv :=
  .answering path rfl hresp hp (replies_goto hr _ _) (by rw [counted_goto hc, hcount])

end Goto

theorem Task.Sound.advance {t : Task} (h : t.Sound srv) (now : Time) (sendErr : Bool) (x : Shared D σ) :
    (Workers.advance srv S B now sendErr t x).1.Sound srv := by
  cases h with
  | fresh hs hr hc =>
    simp only [Workers.advance, hs]
    split
    next e he => exact sound_goto_returned hr hc (.invalid e) rfl (fun _ _ => rfl) he
    next he =>
      split_ifs with hq
      · exact sound_goto_returned hr hc .range rfl (fun _ _ => rfl) ⟨he, hq⟩
      · exact .asking _ (.inl rfl) ⟨he, not_not.mp hq⟩ rfl (replies_goto hr _ _) (counted_goto hc _ _)
  | asking q hs hv hq hr hc =>
    subst hq
    rcases hs with hs | hs | hs | hs
    · -- the IP tier
      simp only [Workers.advance, hs]
      split_ifs
      · exact sound_goto_returned hr hc (.limited .ip) rfl (fun _ _ => rfl) ⟨hv, by decide, nofun⟩
      · exact .asking _ (.inr (.inl rfl)) hv rfl (replies_goto hr _ _) (counted_goto hc _ _)
    · -- the sequence tier
      simp only [Workers.advance, hs]
      split_ifs
      · exact sound_goto_returned hr hc (.limited .sequence) rfl (fun _ _ => rfl) ⟨hv, by decide, nofun⟩
      · exact .asking _ (.inr (.inr (.inl rfl))) hv rfl (replies_goto hr _ _) (counted_goto hc _ _)
    · -- the chain tier, which lets a `HashKey` of zero pass
      simp only [Workers.advance, hs]
      split_ifs with hverdict
      · refine sound_goto_returned hr hc (.limited .chain) rfl (fun _ _ => rfl) ⟨hv, by decide, fun _ hz => ?_⟩
        rw [Limiter.allowChain, if_pos hz] at hverdict
        cases hverdict
      · exact .asking _ (.inr (.inr (.inr rfl))) hv rfl (replies_goto hr _ _) (counted_goto hc _ _)
    · -- the lookup
      simp only [Workers.advance, hs]
      split
      next e _ => exact sound_goto_returned hr hc (.cacheError e) rfl (fun _ _ => rfl) hv
      next => exact sound_goto_respond hr hc .miss rfl rfl hv
      next raw _ => exact .serving _ raw (.inl rfl) hv rfl (replies_goto hr _ _) (counted_goto hc _ _)
  | serving q raw hs hv hq hr hc =>
    subst hq
    rcases hs with hs | ⟨since, hs⟩
    · -- the group tier, which is skipped without an engine
      simp only [Workers.advance, hs]
      split_ifs with hthrottled
      · refine sound_goto_respond hr hc (.hit raw none) rfl rfl ⟨hv, ?_⟩
        cases hengine : srv.shardEngine with
        | none => simp [Server.throttleGroup, hengine] at hthrottled
        | some e => rfl
      · exact .serving _ raw (.inr ⟨now, rfl⟩) hv rfl (replies_goto hr _ _) (counted_goto hc _ _)
    · -- `Retransmit`
      simp only [Workers.advance, hs]
      split
      next err herr =>
        rw [herr]
        exact sound_goto_returned hr hc (.hit raw (some ⟨raw, frameTxID raw, some err⟩)) rfl (fun _ _ => rfl)
          ⟨hv, rfl, rfl⟩
      next hnil =>
        rw [hnil]
        exact sound_goto_respond hr hc (.hit raw (some ⟨raw, frameTxID raw, none⟩)) rfl rfl ⟨hv, rfl, rfl⟩
  | answering path hs hresp hp hr hc =>
    simp only [Workers.advance, hs]
    refine .returned path rfl hp sendErr ?_
    rw [Task.goto, hr, hc, ← counts_append]
    rfl
  | returned path hs hp sendErr' ho =>
    simp only [Workers.advance, hs]
    exact .returned path hs hp sendErr' ho

/-- A call that has returned goes by its path. -/
theorem Task.Sound.of_isReturned {t : Task} (h : t.Sound srv) (hret : t.stage.isReturned = true) :
    ∃ path sendErr, t.stage = .returned path ∧ srv.Possible t.datagram path ∧
      srv.outcomeOf path t.src (readNACK t.datagram).startSeq sendErr = ⟨path, t.replies, t.counted⟩ := by
  cases h with
  | fresh hs =>
    rw [hs] at hret
    cases hret
  | asking q hs =>
    rcases hs with hs | hs | hs | hs
    all_goals
      rw [hs] at hret
      cases hret
  | serving q raw hs =>
    rcases hs with hs | ⟨since, hs⟩
    all_goals
      rw [hs] at hret
      cases hret
  | answering path hs =>
    rw [hs] at hret
    cases hret
  | returned path hs hp sendErr ho => exact ⟨path, sendErr, hs, hp, ho⟩

/-! ### A call by itself -/

variable (srv S B) in
/-- Steps of one call that follow one another at one instant. -/
def advances (now : Time) (sendErr : Bool) : ℕ → Task × Shared D σ → Task × Shared D σ
  | 0, p => p
  | n + 1, p => advances now sendErr n (advance srv S B now sendErr p.1 p.2)

section Alone

variable {now : Time} {sendErr : Bool} {t : Task} {l : Limiter D} {s : σ}

theorem advances_returned {path : Path} (ht : t.stage = .returned path) (x : Shared D σ) (n : ℕ) :
    advances srv S B now sendErr n (t, x) = (t, x) := by
  induction n with
  | zero => rfl
  | succ n ih =>
    rw [advances, advance, ht]
    exact ih

/-- The steps of a call end as `processNACK` does: with the result `r`. -/
def EndsWith (p : Task × Shared D σ) (r : Outcome × Limiter D × σ) : Prop :=
  p.1.outcome = some r.1 ∧ p.2 = ⟨r.2.1, r.2.2⟩

/-- From the group tier on, a call does what `serve` says. -/
theorem advances_serve {q : Nack} {raw : Bytes} (hs : t.stage = .group q raw) (hr : t.replies = [])
    (hc : t.counted = srv.counts [.nackRequest, .cacheHit]) :
    EndsWith (advances srv S B now sendErr 3 (t, ⟨l, s⟩)) (srv.serve S B raw t.src q.startSeq now sendErr l s) := by
  cases hg : (srv.throttleGroup S l (srcIP t.src) (frameTxID raw) now).1 with
  | true =>
    rw [Server.serve_of_throttled hg]
    simp only [advances, advance, hs, hg, if_true, Task.goto]
    refine ⟨congrArg some ?_, rfl⟩
    simp only [hr, hc, List.nil_append, List.append_nil, ← counts_append]
    rfl
  | false =>
    rw [Server.serve_of_passed hg]
    simp only [advances, advance, hs, hg, Bool.false_eq_true, if_false, Task.goto]
    cases hres : (B.retransmit raw (frameTxID raw) now s).1 with
    | some e =>
      refine ⟨congrArg some ?_, rfl⟩
      simp only [hr, hc, List.append_nil, ← counts_append]
      rfl
    | none =>
      refine ⟨congrArg some ?_, rfl⟩
      simp only [hr, hc, List.nil_append, List.append_nil, ← counts_append]
      rfl

/-- From the lookup on, a call does what `lookup` says. -/
theorem advances_lookup {q : Nack} (hs : t.stage = .retrieve q) (hr : t.replies = [])
    (hc : t.counted = srv.counts [.nackRequest]) :
    EndsWith (advances srv S B now sendErr 4 (t, ⟨l, s⟩)) (srv.lookup S B q t.src now sendErr l s) := by
  rw [Server.lookup, advances, advance]
  simp only [hs]
  cases hfound : B.cache.retrieve q.key now s with
  | error e =>
    simp only
    rw [advances_returned rfl]
    refine ⟨congrArg some ?_, rfl⟩
    simp only [Task.goto, hr, hc, List.append_nil, ← counts_append]
    rfl
  | ok found =>
    cases found with
    | none =>
      simp only [advances, advance, Task.goto]
      refine ⟨congrArg some ?_, rfl⟩
      simp only [hr, hc, List.nil_append, List.append_nil, ← counts_append]
      rfl
    | some raw => exact advances_serve rfl (replies_goto hr _ _) (counted_goto hc _ _)

/-- The tiers before the lookup, one after another, are `preLookup`. -/
theorem advances_preLookup {q : Nack} (hs : t.stage = .ip q) (n : ℕ) :
    advances srv S B now sendErr (n + 3) (t, ⟨l, s⟩) =
      match preLookup l (srcIP t.src) q now with
      | (some level, l') =>
        advances srv S B now sendErr n (t.goto srv (.returned (.limited level)) [] [.rateLimitDrop level], ⟨l', s⟩)
      | (none, l') => advances srv S B now sendErr n (t.goto srv (.retrieve q) [] [], ⟨l', s⟩) := by
  rw [preLookup, Limiter.allow, advances, advance]
  simp only [hs]
  cases hip : (l.ipLimiter.allow (D.ipString (srcIP t.src)) now).1 with
  | false =>
    simp only [Bool.not_false, if_true]
    rw [advances_returned rfl, advances_returned rfl]
  | true =>
    simp only [Bool.not_true, Bool.false_eq_true, if_false]
    rw [advances, advance]
    simp only [goto_stage, goto_goto, List.nil_append]
    cases hseq : (l.sequenceLimiter.allow q.startSeq now).1 with
    | false =>
      simp only [Bool.not_false, if_true]
      rw [advances_returned rfl, advances_returned rfl]
    | true =>
      simp only [Bool.not_true, Bool.false_eq_true, if_false]
      rw [advances, advance]
      simp only [goto_stage, goto_src, goto_goto, List.nil_append]
      split_ifs <;> rfl

/-- **A call whose steps follow one another at one instant is a call of `processNACK`.** -/
theorem advance_alone (srv : Server) (S : ShardLib) (B : Backend σ) (datagram : Bytes) (src : Option UDPAddr)
    (now : Time) (sendErr : Bool) (l : Limiter D) (s : σ) :
    EndsWith (advances srv S B now sendErr 8 (Task.new srv datagram src, ⟨l, s⟩))
      (srv.processNACK S B datagram src now sendErr l s) := by
  rw [Server.processNACK, advances, advance]
  simp only [Task.new]
  cases hv : validateNACK datagram with
  | some e =>
    simp only
    rw [advances_returned rfl]
    exact ⟨by simp [Task.outcome, Task.goto, Server.outcome, Server.counts], rfl⟩
  | none =>
    by_cases hq : (readNACK datagram).endSeq = (readNACK datagram).startSeq
    · simp only [hq, ne_eq, not_true_eq_false, if_false]
      rw [advances_preLookup rfl 4]
      simp only [goto_src, goto_goto, List.nil_append]
      rcases preLookup l (srcIP src) (readNACK datagram) now with ⟨_ | level, l'⟩
      · exact advances_lookup rfl rfl (by simp [Task.goto, Server.counts])
      · simp only
        rw [advances_returned rfl]
        refine ⟨congrArg some ?_, rfl⟩
        simp only [Task.goto, List.append_nil, ← counts_append]
        rfl
    · simp only [hq, ne_eq, not_false_eq_true, if_true]
      rw [advances_returned rfl]
      exact ⟨by simp [Task.outcome, Task.goto, Server.outcome, Server.counts], rfl⟩

end Alone

/-! ### Every interleaving -/

/-- A backend that finds `found`, and whose `Retransmit` returns `err`. -/
def answering (found : Except Err (Option Bytes)) (err : Option Err) : Backend Unit where
  cache := ⟨fun _ _ _ _ s => (none, s), fun _ _ _ => found⟩
  retransmit _ _ _ s := (err, s)

/-- A new limiter with so much room in its tiers. -/
def roomFor (ip chain sequence group : ℤ) : Limiter countdown :=
  { limiterWith ip chain sequence with groupLimiter := newTokenBucketLimiter countdown 0 group }

theorem preLookup_roomFor (ipRoom chain sequence group : ℤ) (ip : Bytes) (q : Nack) (now : Time) :
    (preLookup (roomFor ipRoom chain sequence group) ip q now).1 =
      if ¬ 0 < ipRoom then some .ip else if ¬ 0 < sequence then some .sequence
      else if ¬ (q.hashKey = 0 ∨ 0 < chain) then some .chain else none := by
  have hwindow {K : Type} [DecidableEq K] (max : ℤ) (key : K) :
      ((newWindowLimiter K max minute).allow key now).1 = decide (0 < max) := by
    rw [Bool.eq_iff_iff, WindowLimiter.allow_fst_iff, decide_eq_true_iff]
    exact Iff.rfl
  have hbucket (r : ℚ) (burst : ℤ) (key : Bytes) :
      ((newTokenBucketLimiter countdown r burst).allow key now).1 = decide (0 < burst) := by
    by_cases h : 0 < burst <;> simp [newTokenBucketLimiter, TokenBucketLimiter.allow, countdown, h]
  rw [preLookup_eq]
  simp only [roomFor, limiterWith, hbucket, hwindow, decide_eq_false_iff_not]
  by_cases hip : 0 < ipRoom
  · by_cases hseq : 0 < sequence
    · by_cases hkey : q.hashKey = 0 <;> simp [hip, hseq, hkey]
    · simp [hip, hseq]
  · simp [hip]

/-- The tiers before the lookup leave the group tier alone. -/
theorem groupLimiter_preLookup (l : Limiter D) (ip : Bytes) (q : Nack) (now : Time) :
    (preLookup l ip q now).2.groupLimiter = l.groupLimiter := by
  rw [preLookup_eq]
  dsimp only
  split_ifs <;> rfl

/-- Every way that a call can go is gone by a call of `processNACK`. -/
theorem exists_processNACK {datagram : Bytes} {path : Path} (h : srv.Possible datagram path) (S : ShardLib)
    (src : Option UDPAddr) (sendErr : Bool) :
    ∃ (l : Limiter countdown) (B : Backend Unit),
      (srv.processNACK S B datagram src 0 sendErr l ()).1 =
        srv.outcomeOf path src (readNACK datagram).startSeq sendErr := by
  have hadmits (group : ℤ) : (preLookup (roomFor 1 1 1 group) (srcIP src) (readNACK datagram) 0).1 = none := by
    simp [preLookup_roomFor]
  cases path with
  | invalid e =>
    refine ⟨roomFor 1 1 1 1, answering (.ok none) none, ?_⟩
    simp only [Server.processNACK, show validateNACK datagram = some e from h]
    rfl
  | range =>
    refine ⟨roomFor 1 1 1 1, answering (.ok none) none, ?_⟩
    simp only [Server.processNACK, h.1, if_pos h.2]
    rfl
  | limited level =>
    obtain ⟨hv, hgroup, hchain⟩ := h
    -- a limiter that has no room in that tier
    have hreject : ∃ l : Limiter countdown, (preLookup l (srcIP src) (readNACK datagram) 0).1 = some level := by
      cases level with
      | ip => exact ⟨roomFor 0 1 1 1, by simp [preLookup_roomFor]⟩
      | sequence => exact ⟨roomFor 1 1 0 1, by simp [preLookup_roomFor]⟩
      | chain => exact ⟨roomFor 1 0 1 1, by simp [preLookup_roomFor, hchain rfl]⟩
      | group => exact absurd rfl hgroup
    obtain ⟨l, hl⟩ := hreject
    refine ⟨l, answering (.ok none) none, ?_⟩
    rw [Server.processNACK_of_limited hv (Prod.ext hl rfl)]
    rfl
  | cacheError e =>
    refine ⟨roomFor 1 1 1 1, answering (.error e) none, ?_⟩
    rw [Server.processNACK_of_admitted h (Prod.ext (hadmits 1) rfl)]
    rfl
  | miss =>
    refine ⟨roomFor 1 1 1 1, answering (.ok none) none, ?_⟩
    rw [Server.processNACK_of_admitted h (Prod.ext (hadmits 1) rfl)]
    rfl
  | hit raw call =>
    cases call with
    | none =>
      obtain ⟨hv, hengine⟩ := h
      obtain ⟨e, he⟩ := Option.isSome_iff_exists.mp hengine
      refine ⟨roomFor 1 1 1 0, answering (.ok (some raw)) none, ?_⟩
      rw [Server.processNACK_of_admitted hv (Prod.ext (hadmits 0) rfl)]
      refine congrArg Prod.fst (Server.serve_of_throttled ?_ _ _ _)
      simp only [Server.throttleGroup, he, Limiter.allowGroup, groupLimiter_preLookup]
      rfl
    | some c =>
      obtain ⟨hv, hraw, htxID⟩ := h
      obtain ⟨err, rfl⟩ : ∃ err, c = ⟨raw, frameTxID raw, err⟩ := ⟨c.err, by rw [← htxID, ← hraw]⟩
      refine ⟨roomFor 1 1 1 1, answering (.ok (some raw)) err, ?_⟩
      rw [Server.processNACK_of_admitted hv (Prod.ext (hadmits 1) rfl)]
      refine (congrArg Prod.fst (Server.serve_of_passed ?_ _ _ _)).trans ?_
      · cases he : srv.shardEngine with
        | none => simp only [Server.throttleGroup, he]
        | some e =>
          simp only [Server.throttleGroup, he, Limiter.allowGroup, groupLimiter_preLookup]
          rfl
      · cases err <;> rfl

section Run

variable {ω : Type} {back : ω → Backend σ} {workers : ℕ}

/-- What holds of a call that begins, and is kept by its steps, holds of all calls of a run. -/
theorem run_calls {I : Task → Prop} (hnew : ∀ datagram src, I (Task.new srv datagram src))
    (hadvance : ∀ (B : Backend σ) now sendErr t (x : Shared D σ), I t → I (advance srv S B now sendErr t x).1)
    (x : Shared D σ) (es : List (Event ω)) : ∀ t ∈ (run srv S back workers x es).calls, I t := by
  refine runFrom_invariant (I := fun s : State D σ => ∀ t ∈ s.calls, I t) (by simp [State.calls]) (fun s e hs => ?_) es
  cases e with
  | start datagram src =>
    simp only [step]
    split_ifs
    · intro t ht
      rw [State.calls, ← List.append_assoc, List.mem_append, List.mem_singleton] at ht
      rcases ht with ht | rfl
      · exact hs t ht
      · exact hnew datagram src
    · exact hs
  | advance i now sendErr env =>
    simp only [step]
    split
    next => exact hs
    next t hi =>
      have ht : I t := hs t (List.mem_append_right _ (List.mem_of_getElem? hi))
      have hnext := hadvance (back env) now sendErr t s.shared ht
      split_ifs
      · intro u hu
        simp only [State.calls, List.mem_append, List.mem_singleton] at hu
        rcases hu with (hu | rfl) | hu
        · exact hs u (List.mem_append_left _ hu)
        · exact hnext
        · exact hs u (List.mem_append_right _ (List.mem_of_mem_eraseIdx hu))
      · intro u hu
        rcases List.mem_append.mp hu with hu | hu
        · exact hs u (List.mem_append_left _ hu)
        · rcases List.mem_or_eq_of_mem_set hu with hu | rfl
          · exact hs u (List.mem_append_right _ hu)
          · exact hnext

theorem run_sound (x : Shared D σ) (es : List (Event ω)) :
    ∀ t ∈ (run srv S back workers x es).calls, t.Sound srv :=
  run_calls (fun _ _ => .fresh rfl rfl rfl) (fun _ now sendErr _ x ht => ht.advance now sendErr x) x es

theorem finished_returned (x : Shared D σ) (es : List (Event ω)) :
    ∀ t ∈ (run srv S back workers x es).finished, t.stage.isReturned = true := by
  refine runFrom_invariant (I := fun s : State D σ => ∀ t ∈ s.finished, t.stage.isReturned = true) (by simp)
    (fun s e hs => ?_) es
  cases e with
  | start datagram src =>
    simp only [step]
    split_ifs
    · exact hs
    · exact hs
  | advance i now sendErr env =>
    simp only [step]
    split
    next => exact hs
    next t hi =>
      split_ifs with hret
      · intro u hu
        rcases List.mem_append.mp hu with hu | hu
        · exact hs u hu
        · rwa [List.mem_singleton.mp hu]
      · exact hs

end Run

/-- **Interleaving changes nothing that a call shows.** Whatever the other workers do between its
steps, a call that has returned went a way, sent back and counted what a call of `processNACK`
that is not interrupted does, on some limiter and some backend. -/
theorem interleaving_refines {ω : Type} (srv : Server) (S : ShardLib) (back : ω → Backend σ) (workers : ℕ)
    (x : Shared D σ) (es : List (Event ω)) :
    ∀ t ∈ (run srv S back workers x es).finished, ∃ (l : Limiter countdown) (B : Backend Unit) (sendErr : Bool),
      t.outcome = some (srv.processNACK S B t.datagram t.src 0 sendErr l ()).1 := by
  intro t ht
  obtain ⟨path, sendErr, hs, hp, ho⟩ :=
    (run_sound x es t (List.mem_append_left _ ht)).of_isReturned (finished_returned x es t ht)
  obtain ⟨l, B, hlB⟩ := exists_processNACK hp S t.src sendErr
  exact ⟨l, B, sendErr, by rw [hlB, ho, Task.outcome, hs]⟩

end

/-- A server that counts. -/
def counting : Server := ⟨false, false, none, true⟩

/-- Two requests for frames that are not there, step by step in turn. -/
def inTurn : State countdown Unit :=
  run counting oneGroup (fun _ : Unit => answering (.ok none) none) 2 ⟨roomFor 2 2 2 2, ()⟩
    ([.start (wireNACK 1 1) none, .start (wireNACK 1 2) none] ++
      (List.replicate 6 [.advance 1 0 false (), .advance 0 0 false ()]).flatten)

theorem interleaving_refines_inTurn :
    ∃ t ∈ inTurn.finished, t.datagram = wireNACK 1 1 ∧
      ∃ (l : Limiter countdown) (B : Backend Unit) (sendErr : Bool),
        t.outcome = some (counting.processNACK oneGroup B t.datagram t.src 0 sendErr l ()).1 := by
  have hfinished : inTurn.finished.map Task.datagram = [wireNACK 1 2, wireNACK 1 1] := by decide
  have hmem : wireNACK 1 1 ∈ inTurn.finished.map Task.datagram := by
    rw [hfinished]
    simp
  obtain ⟨t, ht, hd⟩ := List.mem_map.mp hmem
  exact ⟨t, ht, hd, interleaving_refines _ _ _ _ _ _ t ht⟩

end Workers

end RetryEndpoint.NackServer
