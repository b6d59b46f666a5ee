import RetryEndpoint.Go.Bytes
import RetryEndpoint.Go.Float
import RetryEndpoint.Theory.SlidingWindow
import Mathlib.Data.List.AList

/-!
# The rate limiter

`ratelimit/ratelimit.go`: four tiers of limits on NACK requests. Tiers 1 (source IP)
and 4 (source IP and group) are token buckets, tiers 2 (source IP and `HashKey`) and 3
(`SeqNum`) are sliding windows; each tier keeps one state per key in a map.

## The model

The two sliding-window types of the source differ only in the type of their key, so
`WindowLimiter` is both: `SlidingWindowLimiter` has strings for keys, `SequenceLimiter`
64-bit numbers. The token bucket itself is `golang.org/x/time/rate`, which is not part
of the repository, an address is turned into text by `net.IP.String`, and `int` of a rate that
is out of range is left open by the language; a `Deps` says
what these do. A bucket's verdict may depend on the bucket and on the clock, nothing else.

`Allow` reads the clock before it takes the mutex. Here the reading is an argument;
`RateLimit.Concurrent` separates the two. A map entry is created with
`make([]time.Time, 0, max)`, which only reserves space.

## What is proved

* `WindowLimiter.allow_fst_iff` — a call is let through exactly when fewer than `max`
  admissions of its key are in the window.
* `WindowLimiter.timestamps_allow_self`, `WindowLimiter.timestamps_allow_of_ne` — a call
  changes the instants kept for its own key and no others.
* `WindowLimiter.Agree.allow` — what a limiter answers for a key depends only on what it
  keeps for that key, and a call on another key does not change that.
-/

namespace RetryEndpoint.RateLimit

open Go Theory

/-! ### Sliding windows -/

section WindowLimiter

/-- A sliding-window limiter: the instants of the admissions of each key. -/
structure WindowLimiter (K : Type) where
  /-- The instants kept for each key. -/
  keys : AList fun _ : K => List Time
  /-- How many admissions a window may hold. -/
  max : ℤ
  /-- The length of the window. -/
  window : Duration

/-- `slidingWindowLimiter`, keyed by strings. -/
abbrev SlidingWindowLimiter := WindowLimiter Bytes

/-- `sequenceLimiter`, keyed by `SeqNum`. -/
abbrev SequenceLimiter := WindowLimiter UInt64

/-- `newSlidingWindowLimiter` and `newSequenceLimiter`. -/
def newWindowLimiter (K : Type) (max : ℤ) (window : Duration) : WindowLimiter K := ⟨∅, max, window⟩

variable {K : Type} [DecidableEq K]

namespace WindowLimiter

/-- The instants kept for a key; a key without an entry has none. -/
def timestamps (l : WindowLimiter K) (key : K) : List Time := (l.keys.lookup key).getD []

/-- `Allow`, with the clock read as `now`: the verdict, and the limiter after it. -/
def allow (l : WindowLimiter K) (key : K) (now : Time) : Bool × WindowLimiter K :=
  let r := Theory.window l.max l.window now (l.timestamps key)
  (r.1, { l with keys := l.keys.insert key r.2 })

@[simp] theorem allow_window (l : WindowLimiter K) (key : K) (now : Time) :
    (l.allow key now).2.window = l.window := rfl

theorem allow_fst (l : WindowLimiter K) (key : K) (now : Time) :
    (l.allow key now).1 = (Theory.window l.max l.window now (l.timestamps key)).1 := rfl

/-- A call leaves its own key's instants as the window says. -/
theorem timestamps_allow_self (l : WindowLimiter K) (key : K) (now : Time) :
    (l.allow key now).2.timestamps key = (Theory.window l.max l.window now (l.timestamps key)).2 := by
  simp only [allow, timestamps, AList.lookup_insert, Option.getD_some]

/-- A call leaves the other keys' instants alone. -/
theorem timestamps_allow_of_ne (l : WindowLimiter K) {key k : K} (h : k ≠ key) (now : Time) :
    (l.allow key now).2.timestamps k = l.timestamps k := by
  simp only [allow, timestamps, AList.lookup_insert_ne h]

/-- The budget a key has used at `t`: its admissions that have not left the window. -/
def unexpired (l : WindowLimiter K) (key : K) (t : Time) : List Time := recent l.window t (l.timestamps key)

/-- A request is let through exactly when fewer than `max` admissions are in the window. -/
theorem allow_fst_iff (l : WindowLimiter K) (key : K) (now : Time) :
    (l.allow key now).1 = true ↔ ((l.unexpired key now).length : ℤ) < l.max := window_fst_iff

/-- A call that is let through adds its instant to its key's window. -/
theorem unexpired_allow_self {l : WindowLimiter K} {key : K} {now : Time} (h : (l.allow key now).1 = true)
    (hW : 0 < l.window) : (l.allow key now).2.unexpired key now = l.unexpired key now ++ [now] := by
  rw [unexpired, timestamps_allow_self, window_snd_of_true h, allow_window, recent_append, recent_recent le_rfl]
  simp [recent, unexpired, hW]

/-- The two limiters have the same parameters and keep the same instants for `key`. -/
structure Agree (l l' : WindowLimiter K) (key : K) : Prop where
  /-- The same `max`. -/
  max : l.max = l'.max
  /-- The same window. -/
  window : l.window = l'.window
  /-- The same instants. -/
  timestamps : l.timestamps key = l'.timestamps key

theorem Agree.refl (l : WindowLimiter K) (key : K) : Agree l l key := ⟨rfl, rfl, rfl⟩

/-- A call on another key, in one of the two limiters only, keeps the agreement. -/
theorem Agree.skip {l l' : WindowLimiter K} {key : K} (h : Agree l l' key) {k : K} (hk : k ≠ key) (now : Time) :
    Agree (l.allow k now).2 l' key :=
  ⟨h.max, h.window, (l.timestamps_allow_of_ne hk.symm now).trans h.timestamps⟩

/-- **What a limiter answers for a key depends on that key's instants alone.** -/
theorem Agree.allow_fst {l l' : WindowLimiter K} {key : K} (h : Agree l l' key) (now : Time) :
    (l.allow key now).1 = (l'.allow key now).1 := by
  rw [WindowLimiter.allow_fst, WindowLimiter.allow_fst, h.max, h.window, h.timestamps]

/-- The same call in both limiters keeps the agreement. -/
theorem Agree.allow {l l' : WindowLimiter K} {key : K} (h : Agree l l' key) (k : K) (now : Time) :
    Agree (l.allow k now).2 (l'.allow k now).2 key := by
  refine ⟨h.max, h.window, ?_⟩
  by_cases hk : key = k
  · subst hk
    rw [timestamps_allow_self, timestamps_allow_self, h.max, h.window, h.timestamps]
  · rw [timestamps_allow_of_ne _ hk, timestamps_allow_of_ne _ hk, h.timestamps]

end WindowLimiter

end WindowLimiter

/-! ### Token buckets -/

/-- What the limiter takes from elsewhere: the token buckets of `golang.org/x/time/rate`, the text
of an address, and the conversion of numbers that do not fit. -/
structure Deps where
  /-- `*rate.Limiter`. -/
  Bucket : Type
  /-- `rate.NewLimiter(r, burst)`. -/
  newLimiter : ℚ → ℤ → Bucket
  /-- `(*rate.Limiter).Allow` at an instant of the clock. -/
  allow : Bucket → Time → Bool × Bucket
  /-- `net.IP.String`. -/
  ipString : Bytes → Bytes
  /-- What `int` makes of a number that is out of its range. -/
  otherInt : ℚ → Int64

/-- Buckets that are not refilled, and addresses as their own text. They stand in for the
packages where concrete ones are needed. -/
def countdown : Deps where
  Bucket := ℤ
  newLimiter _ burst := burst
  allow b _ := if 0 < b then (true, b - 1) else (false, b)
  ipString := id
  otherInt _ := Int64.minValue

/-- `tokenBucketLimiter`: a bucket for each key. -/
structure TokenBucketLimiter (D : Deps) where
  /-- The buckets made so far. -/
  limit : Bytes → Option D.Bucket
  /-- Tokens per second. -/
  r : ℚ
  /-- The size of a bucket. -/
  burst : ℤ

variable {D : Deps}

/-- `newTokenBucketLimiter`. -/
def newTokenBucketLimiter (D : Deps) (tokensPerSec : ℚ) (burst : ℤ) : TokenBucketLimiter D :=
  ⟨fun _ => none, tokensPerSec, burst⟩

/-- `tokenBucketLimiter.Allow`. -/
def TokenBucketLimiter.allow (l : TokenBucketLimiter D) (key : Bytes) (now : Time) : Bool × TokenBucketLimiter D :=
  let b := D.allow ((l.limit key).getD (D.newLimiter l.r l.burst)) now
  (b.1, { l with limit := Function.update l.limit key (some b.2) })

namespace TokenBucketLimiter

/-- The two limiters have the same parameters and the same bucket for `key`. -/
structure Agree (l l' : TokenBucketLimiter D) (key : Bytes) : Prop where
  /-- The same rate. -/
  r : l.r = l'.r
  /-- The same size of buckets. -/
  burst : l.burst = l'.burst
  /-- The same bucket. -/
  limit : l.limit key = l'.limit key

theorem Agree.refl (l : TokenBucketLimiter D) (key : Bytes) : Agree l l key := ⟨rfl, rfl, rfl⟩

/-- A call on another key, in one of the two limiters only, keeps the agreement. -/
theorem Agree.skip {l l' : TokenBucketLimiter D} {key : Bytes} (h : Agree l l' key) {k : Bytes} (hk : k ≠ key)
    (now : Time) : Agree (l.allow k now).2 l' key :=
  ⟨h.r, h.burst, (Function.update_of_ne hk.symm ..).trans h.limit⟩

/-- **What a limiter answers for a key depends on that key's bucket alone.** -/
theorem Agree.allow_fst {l l' : TokenBucketLimiter D} {key : Bytes} (h : Agree l l' key) (now : Time) :
    (l.allow key now).1 = (l'.allow key now).1 := by
  simp only [TokenBucketLimiter.allow, h.r, h.burst, h.limit]

/-- The same call in both limiters keeps the agreement. -/
theorem Agree.allow {l l' : TokenBucketLimiter D} {key : Bytes} (h : Agree l l' key) (k : Bytes) (now : Time) :
    Agree (l.allow k now).2 (l'.allow k now).2 key := by
  refine ⟨h.r, h.burst, ?_⟩
  by_cases hk : key = k
  · subst hk
    simp only [TokenBucketLimiter.allow, Function.update_self, h.r, h.burst, h.limit]
  · simp only [TokenBucketLimiter.allow, Function.update_of_ne hk, h.limit]

end TokenBucketLimiter

/-! ### The four tiers -/

/-- `Level`: the tier that rejected a request. -/
inductive Level where
  | ip
  | chain
  | sequence
  | group
  deriving DecidableEq, Repr

/-- `Limiter`. -/
structure Limiter (D : Deps) where
  /-- Tier 1, by source IP. -/
  ipLimiter : TokenBucketLimiter D
  /-- Tier 2, by source IP and `HashKey`. -/
  chainLimiter : SlidingWindowLimiter
  /-- Tier 3, by `SeqNum`. -/
  sequenceLimiter : SequenceLimiter
  /-- Tier 4, by source IP and group. -/
  groupLimiter : TokenBucketLimiter D

/-- `Config`. -/
structure Config where
  /-- Tokens per second per source IP. -/
  ipRate : ℚ
  /-- Burst size per source IP. -/
  ipBurst : ℤ
  /-- Alias for `chainRate`. -/
  senderRate : ℚ
  /-- Alias for `chainWindow`. -/
  senderWindow : Duration
  /-- Requests per `chainWindow` per source IP and `HashKey`. -/
  chainRate : ℚ
  /-- The window of the chain tier. -/
  chainWindow : Duration
  /-- Requests per `SeqNum` per `sequenceWindow`. -/
  sequenceMax : ℤ
  /-- The window of the sequence tier. -/
  sequenceWindow : Duration
  /-- Retransmits per second per source IP and group. -/
  groupRate : ℚ
  /-- Burst size per source IP and group. -/
  groupBurst : ℤ

/-- `time.Minute`. -/
def minute : Duration := 60000000000

/-- The window of the sequence tier: a minute unless a positive one is given. -/
def Config.effectiveSequenceWindow (cfg : Config) : Duration :=
  if cfg.sequenceWindow ≤ 0 then minute else cfg.sequenceWindow

/-- The rate of the chain tier: the alias stands in for a rate of zero. -/
def Config.effectiveChainRate (cfg : Config) : ℚ :=
  if cfg.chainRate = 0 ∧ cfg.senderRate ≠ 0 then cfg.senderRate else cfg.chainRate

/-- The window of the chain tier: the alias stands in for one that is not positive, and
a minute for both. -/
def Config.effectiveChainWindow (cfg : Config) : Duration :=
  let w := if cfg.chainWindow ≤ 0 ∧ 0 < cfg.senderWindow then cfg.senderWindow else cfg.chainWindow
  if w ≤ 0 then minute else w

/-- `New`. -/
def newLimiter (D : Deps) (cfg : Config) : Limiter D :=
  let chainMax := toInt D.otherInt cfg.effectiveChainRate
  { ipLimiter := newTokenBucketLimiter D cfg.ipRate cfg.ipBurst
    chainLimiter := newWindowLimiter Bytes (if chainMax ≤ 0 then 500 else chainMax) cfg.effectiveChainWindow
    sequenceLimiter := newWindowLimiter UInt64 cfg.sequenceMax cfg.effectiveSequenceWindow
    groupLimiter := newTokenBucketLimiter D (if cfg.groupRate ≤ 0 then 200 else cfg.groupRate)
      (if cfg.groupBurst ≤ 0 then 50 else cfg.groupBurst) }

/-- A limiter with room for `ipBurst` requests of a source, `chainMax` of a flow and
`sequenceMax` of a `SeqNum`. -/
def limiterWith (ipBurst chainMax sequenceMax : ℤ) : Limiter countdown where
  ipLimiter := newTokenBucketLimiter countdown 0 ipBurst
  chainLimiter := newWindowLimiter Bytes chainMax minute
  sequenceLimiter := newWindowLimiter UInt64 sequenceMax minute
  groupLimiter := newTokenBucketLimiter countdown 200 50

/-- A hexadecimal digit, in lower case. -/
def hexDigit (n : ℕ) : UInt8 := UInt8.ofNat (if n < 10 then 48 + n else 87 + n)

/-- `fmt.Sprintf("%016x", v)`. -/
def hex16 (v : UInt64) : Bytes := (List.range 16).map fun i => hexDigit (v.toNat / 16 ^ (15 - i) % 16)

/-- `fmt.Sprintf("%d", v)`. -/
def decimal (v : UInt32) : Bytes := ascii (Nat.toDigits 10 v.toNat)

/-- The key of the chain tier, `fmt.Sprintf("%s:%016x", srcIP.String(), hashKey)`. -/
def chainKey (D : Deps) (srcIP : Bytes) (hashKey : UInt64) : Bytes := D.ipString srcIP ++ ascii [':'] ++ hex16 hashKey

/-- The key of the group tier, `fmt.Sprintf("%s:%d", srcIP.String(), groupIdx)`. -/
def groupKey (D : Deps) (srcIP : Bytes) (groupIdx : UInt32) : Bytes :=
  D.ipString srcIP ++ ascii [':'] ++ decimal groupIdx

theorem decimal_inj {v w : UInt32} (h : decimal v = decimal w) : v = w := by
  have hd : ∀ n : ℕ, ∀ c ∈ Nat.toDigits 10 n, c.isDigit := fun n c hc =>
    Nat.isDigit_of_mem_toDigits (by decide) (by decide) hc
  have hdigits := ascii_digits_inj (hd _) (hd _) h
  rw [← UInt32.toNat_inj, ← Nat.ofDigitChars_ten_toDigits (n := v.toNat), hdigits, Nat.ofDigitChars_ten_toDigits]

/-- A source has a bucket for each group. -/
theorem groupKey_eq_iff (D : Deps) (srcIP : Bytes) (i j : UInt32) : groupKey D srcIP i = groupKey D srcIP j ↔ i = j :=
  ⟨fun h => decimal_inj (List.append_cancel_left h), fun h => h ▸ rfl⟩

namespace Limiter

/-- `Allow`: the IP tier, then the sequence tier. It returns the tier that rejected the
request, or none. -/
def allow (l : Limiter D) (srcIP : Bytes) (startSeq : UInt64) (now : Time) : Option Level × Limiter D :=
  let ip := l.ipLimiter.allow (D.ipString srcIP) now
  let l := { l with ipLimiter := ip.2 }
  if !ip.1 then (some .ip, l) else
  let sq := l.sequenceLimiter.allow startSeq now
  let l := { l with sequenceLimiter := sq.2 }
  if !sq.1 then (some .sequence, l) else (none, l)

/-- `AllowChain`: the chain tier, which a `HashKey` of zero bypasses. -/
def allowChain (l : Limiter D) (srcIP : Bytes) (hashKey : UInt64) (now : Time) : Bool × Limiter D :=
  if hashKey = 0 then (true, l) else
  let ch := l.chainLimiter.allow (chainKey D srcIP hashKey) now
  (ch.1, { l with chainLimiter := ch.2 })

/-- `AllowGroup`: the group tier. -/
def allowGroup (l : Limiter D) (srcIP : Bytes) (groupIdx : UInt32) (now : Time) : Bool × Limiter D :=
  let g := l.groupLimiter.allow (groupKey D srcIP groupIdx) now
  (g.1, { l with groupLimiter := g.2 })

end Limiter

end RetryEndpoint.RateLimit
