import RetryEndpoint.Go.Errors
import RetryEndpoint.NackServer.Tiers
import RetryEndpoint.Wiring

/-!
# Panics on the way to the lookup

A panic in a NACK worker ends the endpoint. This module follows `processNACK` as far as the
lookup with the checks that Go makes: the slices of the datagram, the indices of the
compaction loop, and the capacity that the sliding windows pass to `make` for a new key.

## The model

The functions with a question mark are those of `NackServer.Process` and `RateLimit.Limiter`
with these checks. `maxAlloc` is how many bytes Go allocates at most, and an instant takes
`timeSize` of them. The buckets of the IP tier are not part of the repository, and so what
they let through is a parameter; `CanPass` says that they let through anything at all.

## What is proved

* `processNACK?_eq` — a call does not panic when the tiers it gets to have limits that fit,
  and then does what the model without checks does.
* `no_panic_iff` — no run of requests panics exactly when nothing passes the IP tier, or the
  limit of the sequence tier is not negative and fits, and that of the chain tier fits or is
  never reached.
-/

namespace RetryEndpoint.NackServer

open Go Cache RateLimit ShardCommon Theory

/-- `unsafe.Sizeof(time.Time{})`. -/
def timeSize : ℕ := 24

/-! ### The functions, with their checks -/

/-- The compaction loop. -/
def compactFrom? {α : Type} (keep : α → Bool) : ℕ → ℕ → ℕ → List α → Except Panic (List α × ℕ)
  | 0, _, v, a => .ok (a, v)
  | n + 1, i, v, a =>
    match a[i]? with
    | none => .ok (a, v)
    | some x =>
      if keep x then do
        let a ← assign? a v x
        compactFrom? keep n (i + 1) (v + 1) a
      else compactFrom? keep n (i + 1) v a

/-- The instants kept for a key; a new key gets an array of the full capacity. -/
def WindowLimiter.entry? {K : Type} [DecidableEq K] (maxAlloc : ℕ) (l : WindowLimiter K) (key : K) :
    Except Panic (List Time) :=
  match l.keys.lookup key with
  | some timestamps => .ok timestamps
  | none => makeCap maxAlloc timeSize l.max

/-- `Allow` of the sliding windows. -/
def WindowLimiter.allow? {K : Type} [DecidableEq K] (maxAlloc : ℕ) (l : WindowLimiter K) (key : K) (now : Time) :
    Except Panic (Bool × WindowLimiter K) := do
  let timestamps ← WindowLimiter.entry? maxAlloc l key
  let (a, validIdx) ← compactFrom? (fun s => now - l.window < s) timestamps.length 0 0 timestamps
  let kept := a.take validIdx
  let r := if l.max ≤ kept.length then (false, kept) else (true, kept ++ [now])
  return (r.1, { l with keys := l.keys.insert key r.2 })

section

variable {D : Deps} (maxAlloc : ℕ)

/-- `Allow`. -/
def allow? (l : Limiter D) (srcIP : Bytes) (startSeq : UInt64) (now : Time) : Except Panic (Option Level × Limiter D) :=
  let ip := l.ipLimiter.allow (D.ipString srcIP) now
  let l := { l with ipLimiter := ip.2 }
  if !ip.1 then .ok (some .ip, l)
  else do
    let sq ← WindowLimiter.allow? maxAlloc l.sequenceLimiter startSeq now
    let l := { l with sequenceLimiter := sq.2 }
    if !sq.1 then return (some .sequence, l)
    return (none, l)

/-- `AllowChain`. -/
def allowChain? (l : Limiter D) (srcIP : Bytes) (hashKey : UInt64) (now : Time) : Except Panic (Bool × Limiter D) :=
  if hashKey = 0 then .ok (true, l)
  else do
    let ch ← WindowLimiter.allow? maxAlloc l.chainLimiter (chainKey D srcIP hashKey) now
    return (ch.1, { l with chainLimiter := ch.2 })

/-- The tiers before the lookup. -/
def preLookup? (l : Limiter D) (ip : Bytes) (q : Nack) (now : Time) : Except Panic (Option Level × Limiter D) := do
  match ← allow? maxAlloc l ip q.startSeq now with
  | (some level, l) => return (some level, l)
  | (none, l) =>
    let ch ← allowChain? maxAlloc l ip q.hashKey now
    if !ch.1 then return (some .chain, ch.2)
    return (none, ch.2)

/-- `validateNACK`. -/
def validateNACK? (datagram : Bytes) : Except Panic (Option Err) := do
  if datagram.length < nackSize then return some ("invalid NACK size: " ++ toString datagram.length)
  let magic := uint32 (← slice? datagram 0 4)
  if magic ≠ magicBSV then return some ("invalid magic: 0x" ++ hexUpper 8 magic.toNat)
  let msgType ← index? datagram 6
  if msgType ≠ msgTypeNACK then return some ("invalid message type: 0x" ++ hexUpper 2 msgType.toNat)
  return none

/-- The fields of a NACK. -/
def readNACK? (datagram : Bytes) : Except Panic Nack := do
  let hashKey := uint64 (← slice? datagram 8 16)
  let startSeq := uint64 (← slice? datagram 16 24)
  let endSeq := uint64 (← slice? datagram 24 32)
  return ⟨hashKey, startSeq, endSeq⟩

/-- `processNACK`, with the checks up to the lookup. -/
def processNACK? {σ : Type} (srv : Server) (S : ShardLib) (B : Backend σ) (datagram : Bytes) (src : Option UDPAddr)
    (now : Time) (sendErr : Bool) (l : Limiter D) (s : σ) : Except Panic (Outcome × Limiter D × σ) := do
  match ← validateNACK? datagram with
  | some e => return (srv.outcome (.invalid e) [] [.nackRequest], l, s)
  | none =>
    let q ← readNACK? datagram
    if q.endSeq ≠ q.startSeq then return (srv.outcome .range [] [.nackRequest], l, s)
    match ← preLookup? maxAlloc l (srcIP src) q now with
    | (some level, l) => return (srv.outcome (.limited level) [] [.nackRequest, .rateLimitDrop level], l, s)
    | (none, l) => return srv.lookup S B q src now sendErr l s

end

/-! ### When they do not panic -/

/-- The compaction writes behind the place it reads. -/
theorem compactFrom?_eq {α : Type} (keep : α → Bool) : ∀ (n i v : ℕ) (a : List α), v ≤ i →
    compactFrom? keep n i v a = .ok (compactFrom keep n i v a)
  | 0, _, _, _, _ => rfl
  | n + 1, i, v, a, hv => by
    rw [compactFrom?, compactFrom]
    cases hx : a[i]? with
    | none => rfl
    | some x =>
      have hi : i < a.length := (List.getElem?_eq_some_iff.mp hx).1
      cases hk : keep x with
      | false => simpa [hk] using compactFrom?_eq keep n (i + 1) v a (by omega)
      | true =>
        have hset : assign? a v x = .ok (a.set v x) := if_pos (by omega)
        simpa [hk, hset, bind, Except.bind] using compactFrom?_eq keep n (i + 1) (v + 1) (a.set v x) (by omega)

section Window

variable {K : Type} [DecidableEq K] {maxAlloc : ℕ} {l : WindowLimiter K}

/-- A sliding window whose limit fits does not panic. -/
theorem allow?_of_fits (h : CapFits maxAlloc timeSize l.max) (key : K) (now : Time) :
    WindowLimiter.allow? maxAlloc l key now = .ok (l.allow key now) := by
  have hentry : WindowLimiter.entry? maxAlloc l key = .ok (l.timestamps key) := by
    rw [WindowLimiter.entry?, makeCap_of_fits h, WindowLimiter.timestamps]
    cases l.keys.lookup key <;> rfl
  rw [WindowLimiter.allow?, hentry]
  simp only [bind, Except.bind, compactFrom?_eq _ _ _ _ _ le_rfl]
  rfl

/-- Otherwise it panics at the first call for a key. -/
theorem allow?_of_not_fits (h : ¬ CapFits maxAlloc timeSize l.max) {key : K} (hk : l.keys.lookup key = none)
    (now : Time) :
    WindowLimiter.allow? maxAlloc l key now = .error .makeslice := by
  rw [WindowLimiter.allow?, WindowLimiter.entry?, hk, makeCap_of_not_fits h]
  rfl

end Window

theorem validateNACK?_eq (datagram : Bytes) : validateNACK? datagram = .ok (validateNACK datagram) := by
  unfold validateNACK? validateNACK
  by_cases hlen : datagram.length < nackSize
  · simp [hlen, pure, Except.pure]
  · have h64 : 64 ≤ datagram.length := not_lt.mp hlen
    simp only [if_neg hlen, slice?_of_le (Nat.zero_le 4) (by omega : 4 ≤ datagram.length),
      index?_of_lt (by omega : 6 < datagram.length), bind, Except.bind, pure, Except.pure]
    split_ifs <;> rfl

theorem readNACK?_eq {datagram : Bytes} (h : datagram.length = nackSize) :
    readNACK? datagram = .ok (readNACK datagram) := by
  have h64 : datagram.length = 64 := h
  simp only [readNACK?, slice?_of_le (by omega : 8 ≤ 16) (by omega : 16 ≤ datagram.length),
    slice?_of_le (by omega : 16 ≤ 24) (by omega : 24 ≤ datagram.length),
    slice?_of_le (by omega : 24 ≤ 32) (by omega : 32 ≤ datagram.length), bind, Except.bind]
  rfl

section Tiers

variable {D : Deps} {maxAlloc : ℕ} {l : Limiter D} {ip : Bytes} {q : Nack} {now : Time}

/-- A request that the IP tier rejects gets to no sliding window. -/
theorem preLookup?_of_ip (h : (l.ipLimiter.allow (D.ipString ip) now).1 = false) :
    preLookup? maxAlloc l ip q now = .ok (preLookup l ip q now) := by
  simp [preLookup?, allow?, preLookup, Limiter.allow, h, bind, Except.bind, pure, Except.pure]

/-- The limits of the windows fit as far as a request can get: with a limit of zero nothing
passes the sequence tier. -/
def Limiter.Fits (maxAlloc : ℕ) (l : Limiter D) : Prop :=
  CapFits maxAlloc timeSize l.sequenceLimiter.max ∧
    (l.sequenceLimiter.max = 0 ∨ CapFits maxAlloc timeSize l.chainLimiter.max)

/-- Then no request panics. -/
theorem preLookup?_of_fits (h : Limiter.Fits maxAlloc l) :
    preLookup? maxAlloc l ip q now = .ok (preLookup l ip q now) := by
  cases hip : (l.ipLimiter.allow (D.ipString ip) now).1 with
  | false => exact preLookup?_of_ip hip
  | true =>
    cases hsq : (l.sequenceLimiter.allow q.startSeq now).1 with
    | false =>
      simp [preLookup?, allow?, preLookup, Limiter.allow, hip, allow?_of_fits h.1, hsq, bind, Except.bind, pure,
        Except.pure]
    | true =>
      have hchain : CapFits maxAlloc timeSize l.chainLimiter.max := by
        refine h.2.resolve_left fun hz => ?_
        have hlt := (l.sequenceLimiter.allow_fst_iff q.startSeq now).mp hsq
        rw [hz] at hlt
        exact absurd hlt (by omega)
      simp only [preLookup?, allow?, preLookup, Limiter.allow, hip, allow?_of_fits h.1, hsq, bind, Except.bind, pure,
        Except.pure, Bool.not_true, Bool.false_eq_true, if_false]
      by_cases hz : q.hashKey = 0
      · simp [allowChain?, Limiter.allowChain, hz]
      · cases hch : (l.chainLimiter.allow (chainKey D ip q.hashKey) now).1 <;>
          simp [allowChain?, Limiter.allowChain, hz, allow?_of_fits hchain, hch, bind, Except.bind, pure, Except.pure]

/-- Otherwise a request that passes the IP tier panics, if its keys are new. -/
theorem preLookup?_of_not_fits (h : ¬ Limiter.Fits maxAlloc l)
    (hip : (l.ipLimiter.allow (D.ipString ip) now).1 = true) (hs : l.sequenceLimiter.keys = ∅)
    (hc : l.chainLimiter.keys = ∅) (hq : q.hashKey ≠ 0) : preLookup? maxAlloc l ip q now = .error .makeslice := by
  by_cases hseq : CapFits maxAlloc timeSize l.sequenceLimiter.max
  · obtain ⟨hz, hchain⟩ := not_or.mp fun h' => h ⟨hseq, h'⟩
    have hsq : (l.sequenceLimiter.allow q.startSeq now).1 = true := by
      have hpos : 0 < l.sequenceLimiter.max := lt_of_le_of_ne hseq.1 (Ne.symm hz)
      rw [WindowLimiter.allow_fst_iff, WindowLimiter.unexpired, WindowLimiter.timestamps, hs]
      simpa [recent] using hpos
    simp [preLookup?, allow?, hip, allow?_of_fits hseq, hsq, allowChain?, hq,
      allow?_of_not_fits hchain (by rw [hc]; rfl), bind, Except.bind, pure, Except.pure]
  · simp [preLookup?, allow?, hip, allow?_of_not_fits hseq (by rw [hs]; rfl), bind, Except.bind]

end Tiers

/-! ### Runs of requests -/

/-- A datagram of the size of a NACK, and what it meets. -/
structure Arrival where
  /-- The datagram. -/
  datagram : Bytes
  /-- It has the size of a NACK. -/
  size : datagram.length = nackSize
  /-- Where it comes from. -/
  src : Option UDPAddr
  /-- The clock. -/
  now : Time
  /-- Whether sending a response fails. -/
  sendErr : Bool

section Run

variable {D : Deps} {σ : Type} (maxAlloc : ℕ) (srv : Server) (S : ShardLib) (B : Backend σ)

/-- Requests one after another, up to the first panic. -/
def serveAll : List Arrival → Limiter D × σ → Except Panic (Limiter D × σ)
  | [], st => .ok st
  | a :: as, st => do
    let r ← processNACK? maxAlloc srv S B a.datagram a.src a.now a.sendErr st.1 st.2
    serveAll as r.2

variable {maxAlloc srv S B}

/-- A request whose tiers do not panic is answered as without the checks. -/
theorem processNACK?_eq (a : Arrival) {l : Limiter D} (s : σ)
    (h : preLookup? maxAlloc l (srcIP a.src) (readNACK a.datagram) a.now =
      .ok (preLookup l (srcIP a.src) (readNACK a.datagram) a.now)) :
    processNACK? maxAlloc srv S B a.datagram a.src a.now a.sendErr l s =
      .ok (srv.processNACK S B a.datagram a.src a.now a.sendErr l s) := by
  simp only [processNACK?, Server.processNACK, validateNACK?_eq, readNACK?_eq a.size, h, bind, Except.bind]
  cases validateNACK a.datagram with
  | some e => rfl
  | none =>
    by_cases hr : (readNACK a.datagram).endSeq = (readNACK a.datagram).startSeq
    · simp only [hr, ne_eq, not_true_eq_false, if_false]
      rcases preLookup l (srcIP a.src) (readNACK a.datagram) a.now with ⟨_ | level, l'⟩ <;> rfl
    · simp only [hr, ne_eq, not_false_eq_true, if_true]
      rfl

/-- A request for one frame panics where its tiers do. -/
theorem processNACK?_of_panic {a : Arrival} (hv : Valid a.datagram) {l : Limiter D} {p : Panic}
    (h : preLookup? maxAlloc l (srcIP a.src) (readNACK a.datagram) a.now = .error p) (s : σ) :
    processNACK? maxAlloc srv S B a.datagram a.src a.now a.sendErr l s = .error p := by
  simp only [processNACK?, validateNACK?_eq, readNACK?_eq a.size, h, bind, Except.bind, hv.valid, hv.single, ne_eq,
    not_true_eq_false, if_false]

variable (srv S B) in
/-- The lookup and what follows it leave the tiers before it alone. -/
theorem lookup_limiter (q : Nack) (src : Option UDPAddr) (now : Time) (sendErr : Bool) (l : Limiter D) (s : σ) :
    ∃ g, (srv.lookup S B q src now sendErr l s).2.1 = { l with groupLimiter := g } := by
  unfold Server.lookup
  split
  · exact ⟨_, rfl⟩
  · exact ⟨_, rfl⟩
  next raw _ =>
    obtain ⟨g, hg⟩ : ∃ g, (srv.throttleGroup S l (srcIP src) (frameTxID raw) now).2 = { l with groupLimiter := g } := by
      unfold Server.throttleGroup
      split
      · exact ⟨_, rfl⟩
      · exact ⟨_, rfl⟩
    refine ⟨g, ?_⟩
    cases ht : (srv.throttleGroup S l (srcIP src) (frameTxID raw) now).1 with
    | true => rw [Server.serve_of_throttled ht, hg]
    | false => rw [Server.serve_of_passed ht, hg]

variable (srv S B) in
/-- What a request does to the tiers before the lookup is done by the tiers before the lookup. -/
theorem processNACK_limiter (datagram : Bytes) (src : Option UDPAddr) (now : Time) (sendErr : Bool) (l : Limiter D)
    (s : σ) :
    (srv.processNACK S B datagram src now sendErr l s).2.1 = l ∨
      ∃ g, (srv.processNACK S B datagram src now sendErr l s).2.1 =
        { (preLookup l (srcIP src) (readNACK datagram) now).2 with groupLimiter := g } := by
  unfold Server.processNACK
  split
  · exact .inl rfl
  · dsimp only
    split_ifs
    · exact .inl rfl
    · split
      next h => exact .inr ⟨_, by rw [h]⟩
      next h =>
        obtain ⟨g, hg⟩ := lookup_limiter srv S B (readNACK datagram) src now sendErr _ s
        exact .inr ⟨g, by rw [hg, h]⟩

/-- **No run panics** from a state with a property that keeps the tiers from panicking, and that
they keep. -/
theorem serveAll_ok {I : Limiter D → Prop}
    (hok : ∀ l ip q now, I l → preLookup? maxAlloc l ip q now = .ok (preLookup l ip q now))
    (hpre : ∀ l ip q now, I l → I (preLookup l ip q now).2) (hgroup : ∀ l g, I l → I { l with groupLimiter := g })
    (as : List Arrival) {st : Limiter D × σ} (h : I st.1) : ∃ r, serveAll maxAlloc srv S B as st = .ok r := by
  induction as generalizing st with
  | nil => exact ⟨st, rfl⟩
  | cons a as ih =>
    have hnext : I (srv.processNACK S B a.datagram a.src a.now a.sendErr st.1 st.2).2.1 := by
      rcases processNACK_limiter srv S B a.datagram a.src a.now a.sendErr st.1 st.2 with
        hl | ⟨g, hl⟩
      · rw [hl]
        exact h
      · rw [hl]
        exact hgroup _ g (hpre _ _ _ _ h)
    obtain ⟨r, hr⟩ := ih hnext
    exact ⟨r, by rw [serveAll, processNACK?_eq a st.2 (hok _ _ _ _ h)]; exact hr⟩

end Run

/-! ### The IP tier -/

section IP

variable {D : Deps}

/-- One of the requests at the instants `ts` gets through the bucket. -/
def Passes (D : Deps) : D.Bucket → List Time → Prop
  | _, [] => False
  | b, t :: ts => (D.allow b t).1 = true ∨ Passes D (D.allow b t).2 ts

/-- The IP tier lets some request through. -/
def CanPass (D : Deps) (limits : RateLimit.Config) : Prop :=
  ∃ ts, Passes D (D.newLimiter limits.ipRate limits.ipBurst) ts

/-- The bucket of a key. -/
def bucket (l : TokenBucketLimiter D) (key : Bytes) : D.Bucket := (l.limit key).getD (D.newLimiter l.r l.burst)

theorem allow_bucket (l : TokenBucketLimiter D) (key : Bytes) (now : Time) :
    (l.allow key now).1 = (D.allow (bucket l key) now).1 := rfl

theorem bucket_allow (l : TokenBucketLimiter D) (key k : Bytes) (now : Time) :
    bucket (l.allow key now).2 k = if k = key then (D.allow (bucket l key) now).2 else bucket l k := by
  by_cases h : k = key
  · subst h
    simp [bucket, TokenBucketLimiter.allow]
  · simp [bucket, TokenBucketLimiter.allow, h]

theorem preLookup_ipLimiter (l : Limiter D) (ip : Bytes) (q : Nack) (now : Time) :
    (preLookup l ip q now).2.ipLimiter = (l.ipLimiter.allow (D.ipString ip) now).2 := by
  rw [preLookup_eq]
  dsimp only
  split_ifs <;> rfl

theorem preLookup_max (l : Limiter D) (ip : Bytes) (q : Nack) (now : Time) :
    (preLookup l ip q now).2.sequenceLimiter.max = l.sequenceLimiter.max ∧
      (preLookup l ip q now).2.chainLimiter.max = l.chainLimiter.max := by
  rw [preLookup_eq]
  dsimp only
  split_ifs <;> exact ⟨rfl, rfl⟩

/-- No bucket ever lets a request through. -/
def NonePass (l : Limiter D) : Prop := ∀ key ts, ¬ Passes D (bucket l.ipLimiter key) ts

theorem NonePass.preLookup {l : Limiter D} (h : NonePass l) (ip : Bytes) (q : Nack) (now : Time) :
    NonePass (preLookup l ip q now).2 := by
  intro key ts hts
  rw [preLookup_ipLimiter, bucket_allow] at hts
  split_ifs at hts with hk
  · exact h (D.ipString ip) (now :: ts) (.inr hts)
  · exact h key ts hts

/-- A request for one frame. -/
def oneFrame (now : Time) : Arrival := ⟨wireNACK 1 1, by decide, none, now, false⟩

theorem valid_oneFrame (now : Time) : Valid (oneFrame now).datagram := (by decide : Valid (wireNACK 1 1))

theorem readNACK_oneFrame (now : Time) : readNACK (oneFrame now).datagram = ⟨1, 1, 1⟩ :=
  (by decide : readNACK (wireNACK 1 1) = ⟨1, 1, 1⟩)

/-- When the limits do not fit, the first request that passes the IP tier panics. -/
theorem serveAll_panics {σ : Type} {maxAlloc : ℕ} (srv : Server) (S : ShardLib) (B : Backend σ) (ts : List Time)
    {l : Limiter D} (s : σ) (hts : Passes D (bucket l.ipLimiter (D.ipString ipv6unspecified)) ts)
    (hfit : ¬ Limiter.Fits maxAlloc l) (hs : l.sequenceLimiter.keys = ∅) (hc : l.chainLimiter.keys = ∅) :
    serveAll maxAlloc srv S B (ts.map oneFrame) (l, s) = .error .makeslice := by
  induction ts generalizing l with
  | nil => exact hts.elim
  | cons t ts ih =>
    rw [List.map_cons, serveAll]
    cases hip : (l.ipLimiter.allow (D.ipString ipv6unspecified) t).1 with
    | true =>
      have hpanic : preLookup? maxAlloc l ipv6unspecified (readNACK (oneFrame t).datagram) t = .error .makeslice :=
        preLookup?_of_not_fits hfit hip hs hc (by rw [readNACK_oneFrame]; decide)
      rw [processNACK?_of_panic (valid_oneFrame t) hpanic]
      rfl
    | false =>
      have hrej : preLookup l ipv6unspecified (readNACK (oneFrame t).datagram) t =
          (some .ip, { l with ipLimiter := (l.ipLimiter.allow (D.ipString ipv6unspecified) t).2 }) := by
        rw [preLookup_eq]
        simp only [hip, if_true]
      rw [processNACK?_eq (oneFrame t) s (preLookup?_of_ip hip), Server.processNACK_of_limited (valid_oneFrame t) hrej]
      refine ih ?_ hfit hs hc
      rw [bucket_allow, if_pos rfl]
      exact hts.resolve_left (by rw [← allow_bucket, hip]; decide)

end IP

/-- **No run of requests panics** exactly when nothing ever passes the IP tier, or the limit of
the sequence tier fits, and is zero or that of the chain tier fits too. -/
theorem no_panic_iff {env : Config.Env} {f : Config.Flags} {cfg : Config} (_ : Config.load env f = .ok cfg)
    (D : Deps) (S : ShardLib) {σ : Type} (B : Backend σ) (s : σ) (maxAlloc : ℕ) :
    (∀ as, ∃ r, serveAll maxAlloc cfg.server S B as (newLimiter D cfg.limits, s) = .ok r) ↔
      ¬ CanPass D cfg.limits ∨ (CapFits maxAlloc timeSize cfg.rlSequenceMax ∧
        (cfg.rlSequenceMax = 0 ∨ CapFits maxAlloc timeSize (newLimiter D cfg.limits).chainLimiter.max)) := by
  constructor
  · intro hall
    by_contra hcond
    obtain ⟨hpass, hfit⟩ := not_or.mp hcond
    obtain ⟨ts, hts⟩ := not_not.mp hpass
    obtain ⟨r, hr⟩ := hall (ts.map oneFrame)
    have hpanic : serveAll maxAlloc cfg.server S B (ts.map oneFrame) (newLimiter D cfg.limits, s) = .error .makeslice :=
      serveAll_panics cfg.server S B ts s hts hfit rfl rfl
    rw [hpanic] at hr
    cases hr
  · rintro (hpass | hfit) as
    · refine serveAll_ok (I := NonePass) (fun l ip q now h => preLookup?_of_ip ?_)
        (fun l ip q now h => h.preLookup ip q now) (fun l g h => h) as fun key ts hts => hpass ⟨ts, hts⟩
      rw [allow_bucket]
      exact Bool.eq_false_iff.mpr fun hip => h (D.ipString ip) [now] (.inl hip)
    · refine serveAll_ok (I := Limiter.Fits maxAlloc) (fun l ip q now h => preLookup?_of_fits h)
        (fun l ip q now h => ?_) (fun l g h => h) as hfit
      rw [Limiter.Fits, (preLookup_max l ip q now).1, (preLookup_max l ip q now).2]
      exact h

/-- With the default limits nothing panics, 48 bits of addresses being what Go has on 64-bit
machines. -/
theorem no_panic_by_default :
    Config.load Config.oneInterface (Config.defaults {} .memory) = .ok (Config.defaultConfig {} .memory) ∧
      ∀ as, ∃ r, serveAll (2 ^ 48) (Config.defaultConfig {} .memory).server oneGroup noFrames as
        (newLimiter countdown (Config.defaultConfig {} .memory).limits, ()) = .ok r := by
  refine ⟨Config.load_defaults .., ?_⟩
  refine (no_panic_iff (Config.load_defaults {} .memory) countdown oneGroup noFrames () (2 ^ 48)).mpr (.inr ?_)
  exact ⟨by decide, .inr (by decide)⟩

/-- A limit of -1 for the sequence tier is accepted, and the first NACK panics. -/
theorem negative_limit_panics :
    Config.load Config.oneInterface (Config.defaults { rlSequenceMax := -1 } .memory) =
        .ok (Config.defaultConfig { rlSequenceMax := -1 } .memory) ∧
      serveAll (2 ^ 48) (Config.defaultConfig { rlSequenceMax := -1 } .memory).server oneGroup noFrames [oneFrame 0]
        (newLimiter countdown (Config.defaultConfig { rlSequenceMax := -1 } .memory).limits, ()) = .error .makeslice :=
  ⟨Config.load_defaults .., serveAll_panics _ _ _ [0] () (.inl (by decide)) (fun h => absurd h.1 (by decide)) rfl rfl⟩

end RetryEndpoint.NackServer
