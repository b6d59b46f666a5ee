import RetryEndpoint.NackServer.Panics
import RetryEndpoint.NackServer.Workers
import RetryEndpoint.Theory.Gate
import Mathlib.Data.List.Perm.Basic

/-!
# The limits in every interleaving

What the four tiers of the limiter promise about all workers together: how many requests get past
each of them in a stretch of time, and how many frames are retransmitted for them.

## The model

The runs are those of `Workers`. A `Tier` says where a tier is in the limiter, which key it asks for
and when, and how one sees that a call got past it: it goes on to the next stage. The four tiers
are `ipTier`, `chainTier`, `sequenceTier` and `groupTier`. The buckets are those of a package;
`Metered` is what its documentation promises, and `tokenBuckets` are buckets that keep the promise. Each
access reads the clock, and readings come in order (`InOrder`).

## What is proved

* `Tier.Lawful` — a tier changes when it is asked, and a call goes on exactly when it is let through.
* `passed_eq` — what gets past a tier in a run is what the tier, asked by itself in that order, lets pass.
* `retransmits_perm` — every retransmit is one pass of the group tier, and no pass is used twice.
* `limits_hold` — in every run a source gets no more requests past the IP tier than its rate and its burst
  allow, a flow and a number no more than their window, and a group for a source no more past the group tier
  than its rate and burst; each retransmit uses one of these passes up. When it runs is another matter: a
  worker that is held up after the group tier may retransmit at any later time.
-/

namespace RetryEndpoint

open Go Cache RateLimit ShardCommon Theory

open scoped List

namespace RateLimit

/-- A rate for a second, for a nanosecond. Negative rates are as good as none. -/
def perNanosecond (r : ℚ) : ℚ := max r 0 / 10 ^ 9

/-- The buckets keep to their rate and their size. -/
def Deps.Metered (D : Deps) : Prop :=
  ∀ (r : ℚ) (burst : ℤ) (ts : List Time), ts.Pairwise (· ≤ ·) →
    RateBound (perNanosecond r) burst.toNat (admitted D.allow (D.newLimiter r burst) ts)

theorem perNanosecond_nonneg (r : ℚ) : 0 ≤ perNanosecond r := div_nonneg (le_max_right r 0) (by norm_num)

/-- Token buckets, and addresses as their own text. -/
def tokenBuckets : Deps where
  Bucket := TokenBucket
  newLimiter r burst := .full (perNanosecond r) burst.toNat (perNanosecond_nonneg r)
  allow := TokenBucket.take
  ipString := id
  otherInt _ := Int64.minValue

theorem metered_tokenBuckets : tokenBuckets.Metered := fun r burst _ hts =>
  (TokenBucket.full (perNanosecond r) burst.toNat (perNanosecond_nonneg r)).rateBound hts

end RateLimit

namespace NackServer

variable {D : Deps}

theorem keyed_buckets (D : Deps) : Keyed (TokenBucketLimiter.allow (D := D)) bucket D.allow where
  verdict := allow_bucket
  own l key now := by rw [bucket_allow, if_pos rfl]
  other l key now k hk := by rw [bucket_allow, if_neg hk]

theorem keyed_windows (K : Type) [DecidableEq K] :
    Keyed (WindowLimiter.allow (K := K)) (fun l key => (l.max, l.window, l.timestamps key)) windowGate where
  verdict l key now := rfl
  own l key now := by rw [l.timestamps_allow_self key now]; rfl
  other l key now k hk := by rw [l.timestamps_allow_of_ne hk now]; rfl

namespace Workers

/-! ### The tiers -/

/-- A tier of the limiter, as the workers use it. -/
structure Tier (D : Deps) (L K : Type) where
  /-- Where it is. -/
  get : Limiter D → L
  /-- `Allow`. -/
  allow : L → K → Time → Bool × L
  /-- The key that a call asks for in its next step, if that is the tier's. -/
  key : Task → Option K
  /-- Where a call goes on that is let through. -/
  past : Stage → Bool

variable {L K σ ω : Type} (srv : Server) (S : ShardLib)

/-- The tier is asked by the calls that are there, and they go on exactly when it lets them through. -/
structure Tier.Lawful (T : Tier D L K) : Prop where
  /-- Other steps leave the tier alone. -/
  get_advance : ∀ {σ : Type} (B : Backend σ) (now : Time) (sendErr : Bool) (t : Task) (x : Shared D σ),
    T.get (advance srv S B now sendErr t x).2.limiter =
      (T.key t).elim (T.get x.limiter) fun k => (T.allow (T.get x.limiter) k now).2
  /-- Who is let through goes on. -/
  past_advance : ∀ {σ : Type} (B : Backend σ) (now : Time) (sendErr : Bool) (t : Task) (x : Shared D σ) (k : K),
    T.key t = some k → T.past (advance srv S B now sendErr t x).1.stage = (T.allow (T.get x.limiter) k now).1

/-- Tier 1. -/
def ipTier (D : Deps) : Tier D (TokenBucketLimiter D) Bytes where
  get := Limiter.ipLimiter
  allow := TokenBucketLimiter.allow
  key t := match t.stage with
    | .ip _ => some (D.ipString (srcIP t.src))
    | _ => none
  past
    | .sequence _ => true
    | _ => false

/-- Tier 2, which a `HashKey` of zero bypasses. -/
def chainTier (D : Deps) : Tier D SlidingWindowLimiter Bytes where
  get := Limiter.chainLimiter
  allow := WindowLimiter.allow
  key t := match t.stage with
    | .chain q => if q.hashKey = 0 then none else some (chainKey D (srcIP t.src) q.hashKey)
    | _ => none
  past
    | .retrieve _ => true
    | _ => false

/-- Tier 3. -/
def sequenceTier (D : Deps) : Tier D SequenceLimiter UInt64 where
  get := Limiter.sequenceLimiter
  allow := WindowLimiter.allow
  key t := match t.stage with
    | .sequence q => some q.startSeq
    | _ => none
  past
    | .chain _ => true
    | _ => false

/-- The key of a frame's group, for a source; there are groups if there is an engine. -/
def frameGroup (D : Deps) (src : Option UDPAddr) (raw : Bytes) : Option Bytes :=
  srv.shardEngine.map fun e => groupKey D (srcIP src) (S.groupIndex e (frameTxID raw))

/-- Tier 4. -/
def groupTier (D : Deps) : Tier D (TokenBucketLimiter D) Bytes where
  get := Limiter.groupLimiter
  allow := TokenBucketLimiter.allow
  key t := match t.stage with
    | .group _ raw => frameGroup srv S D t.src raw
    | _ => none
  past
    | .retransmit .. => true
    | _ => false

section Lawful

variable {srv S}

/-- What a step does to the limiter: it asks the tier that the call is at. -/
theorem advance_limiter (B : Backend σ) (now : Time) (sendErr : Bool) (t : Task) (x : Shared D σ) :
    (advance srv S B now sendErr t x).2.limiter =
      match t.stage with
      | .ip _ =>
        { x.limiter with ipLimiter := (x.limiter.ipLimiter.allow (D.ipString (srcIP t.src)) now).2 }
      | .sequence q =>
        { x.limiter with sequenceLimiter := (x.limiter.sequenceLimiter.allow q.startSeq now).2 }
      | .chain q => (x.limiter.allowChain (srcIP t.src) q.hashKey now).2
      | .group _ raw => (srv.throttleGroup S x.limiter (srcIP t.src) (frameTxID raw) now).2
      | _ => x.limiter := by
  unfold advance
  cases t.stage with
  | validate =>
    dsimp only
    split
    · rfl
    · split_ifs <;> rfl
  | ip q | sequence q | chain q | group q raw =>
    dsimp only
    split_ifs <;> rfl
  | retrieve q | retransmit q raw since =>
    dsimp only
    split <;> rfl
  | respond q path | returned path => rfl

theorem lawful_ipTier : (ipTier D).Lawful srv S where
  get_advance B now sendErr t x := by
    rw [advance_limiter]
    cases hs : t.stage with
    | chain q => simp only [ipTier, hs, Limiter.allowChain]; split_ifs <;> rfl
    | group q raw => simp only [ipTier, hs, Server.throttleGroup]; split <;> rfl
    | _ => simp [ipTier, hs]
  past_advance B now sendErr t x k hk := by
    cases hs : t.stage with
    | ip q =>
      obtain rfl : D.ipString (srcIP t.src) = k := by simpa [ipTier, hs] using hk
      unfold advance
      simp only [ipTier, hs]
      cases (x.limiter.ipLimiter.allow (D.ipString (srcIP t.src)) now).1 <;> rfl
    | _ => simp [ipTier, hs] at hk

theorem lawful_chainTier : (chainTier D).Lawful srv S where
  get_advance B now sendErr t x := by
    rw [advance_limiter]
    cases hs : t.stage with
    | chain q => simp only [chainTier, hs, Limiter.allowChain]; split_ifs <;> rfl
    | group q raw => simp only [chainTier, hs, Server.throttleGroup]; split <;> rfl
    | _ => simp [chainTier, hs]
  past_advance B now sendErr t x k hk := by
    cases hs : t.stage with
    | chain q =>
      simp only [chainTier, hs] at hk
      split_ifs at hk with hz
      obtain rfl : chainKey D (srcIP t.src) q.hashKey = k := by simpa using hk
      unfold advance
      simp only [chainTier, hs, Limiter.allowChain, if_neg hz]
      cases (x.limiter.chainLimiter.allow (chainKey D (srcIP t.src) q.hashKey) now).1 <;> rfl
    | _ => simp [chainTier, hs] at hk

theorem lawful_sequenceTier : (sequenceTier D).Lawful srv S where
  get_advance B now sendErr t x := by
    rw [advance_limiter]
    cases hs : t.stage with
    | chain q => simp only [sequenceTier, hs, Limiter.allowChain]; split_ifs <;> rfl
    | group q raw => simp only [sequenceTier, hs, Server.throttleGroup]; split <;> rfl
    | _ => simp [sequenceTier, hs]
  past_advance B now sendErr t x k hk := by
    cases hs : t.stage with
    | sequence q =>
      obtain rfl : q.startSeq = k := by simpa [sequenceTier, hs] using hk
      unfold advance
      simp only [sequenceTier, hs]
      cases (x.limiter.sequenceLimiter.allow q.startSeq now).1 <;> rfl
    | _ => simp [sequenceTier, hs] at hk

theorem lawful_groupTier : (groupTier srv S D).Lawful srv S where
  get_advance B now sendErr t x := by
    rw [advance_limiter]
    cases hs : t.stage with
    | chain q => simp only [groupTier, hs, Limiter.allowChain]; split_ifs <;> rfl
    | group q raw =>
      simp only [groupTier, hs, frameGroup, Server.throttleGroup]
      cases srv.shardEngine <;> rfl
    | _ => simp [groupTier, hs]
  past_advance B now sendErr t x k hk := by
    cases hs : t.stage with
    | group q raw =>
      simp only [groupTier, hs, frameGroup] at hk
      obtain ⟨e, he, rfl⟩ := Option.map_eq_some_iff.mp hk
      unfold advance
      simp only [groupTier, hs, Server.throttleGroup, he, Limiter.allowGroup]
      cases (x.limiter.groupLimiter.allow (groupKey D (srcIP t.src) (S.groupIndex e (frameTxID raw))) now).1 <;> rfl
    | _ => simp [groupTier, hs] at hk

end Lawful

/-! ### What gets past a tier in a run -/

/-- A call asks the tier: its key, and the clock. -/
def Tier.called (T : Tier D L K) (s : State D σ) : Event ω → Option (K × Time)
  | .start .. => none
  | .advance i now _ _ => s.busy[i]?.bind fun t => (T.key t).map fun k => (k, now)

/-- A step takes a call past the tier: its key, and when that is. -/
def Tier.pass (T : Tier D L K) (B : Backend σ) (now : Time) (sendErr : Bool) (t : Task) (x : Shared D σ) :
    Option (K × Time) :=
  (T.key t).bind fun k => if T.past (advance srv S B now sendErr t x).1.stage then some (k, now) else none

/-- A call gets past the tier. -/
def Tier.passed (T : Tier D L K) (back : ω → Backend σ) (s : State D σ) : Event ω → Option (K × Time)
  | .start .. => none
  | .advance i now sendErr env => s.busy[i]?.bind fun t => T.pass srv S (back env) now sendErr t s.shared

/-- A call that is about to run `Retransmit`: the group of the frame for its source, and the pass of the group
tier that it uses up. -/
def Task.retransmits (D : Deps) (t : Task) : Option (Bytes × Time) :=
  match t.stage with
  | .retransmit _ raw since => (frameGroup srv S D t.src raw).map fun k => (k, since)
  | _ => none

/-- A call runs `Retransmit` in this step, and uses up this pass. -/
def retransmitted (s : State D σ) : Event ω → Option (Bytes × Time)
  | .start .. => none
  | .advance i _ _ _ => s.busy[i]?.bind (Task.retransmits srv S D)

/-- The clock, as an event reads it. -/
def Event.now : Event ω → Option Time
  | .start .. => none
  | .advance _ now _ _ => some now

/-- The clock does not go back. -/
def InOrder (es : List (Event ω)) : Prop := (es.filterMap Event.now).Pairwise (· ≤ ·)

section Run

variable {srv S} {back : ω → Backend σ} {workers : ℕ}

theorem step_shared (s : State D σ) (i : ℕ) (now : Time) (sendErr : Bool) (env : ω) :
    (step srv S back workers s (.advance i now sendErr env)).shared =
      (s.busy[i]?).elim s.shared fun t => (advance srv S (back env) now sendErr t s.shared).2 := by
  simp only [step]
  cases s.busy[i]? with
  | none => rfl
  | some t =>
    dsimp only
    split_ifs <;> rfl

/-- **What gets past a tier is what the tier, asked in that order, lets pass.** -/
theorem Tier.Lawful.passed_eq {T : Tier D L K} (hT : T.Lawful srv S) (s : State D σ) (es : List (Event ω)) :
    seen (step srv S back workers) (T.passed srv S back) s es =
      passes T.allow (T.get s.shared.limiter) (seen (step srv S back workers) T.called s es) := by
  refine seen_component (fun s : State D σ => T.get s.shared.limiter) (fun s e => ?_) (fun s e => ?_) s es
  · cases e with
    | start datagram src =>
      simp only [step, Tier.called]
      split_ifs <;> rfl
    | advance i now sendErr env =>
      rw [step_shared, Tier.called]
      cases s.busy[i]? with
      | none => rfl
      | some t =>
        refine (hT.get_advance (back env) now sendErr t s.shared).trans ?_
        cases hk : T.key t <;> simp [hk]
  · cases e with
    | start datagram src => rfl
    | advance i now sendErr env =>
      rw [Tier.passed, Tier.called]
      cases s.busy[i]? with
      | none => rfl
      | some t =>
        cases hk : T.key t with
        | none => simp [Tier.pass, hk]
        | some k => simp [Tier.pass, hk, hT.past_advance (back env) now sendErr t s.shared k hk]

/-- Calls for a key ask at instants of the clock. -/
theorem Tier.called_sublist [DecidableEq K] (T : Tier D L K) (k : K) (s : State D σ) (es : List (Event ω)) :
    (instants k (seen (step srv S back workers) T.called s es)).Sublist (es.filterMap Event.now) := by
  have hall : ((seen (step srv S back workers) T.called s es).map Prod.snd).Sublist (es.filterMap Event.now) := by
    induction es generalizing s with
    | nil => exact .slnil
    | cons e es ih =>
      rw [seen, List.map_append, List.filterMap_cons]
      cases e with
      | start datagram src => exact ih _
      | advance i now sendErr env =>
        simp only [Event.now, Tier.called]
        cases s.busy[i]? with
        | none => exact (ih _).cons now
        | some t =>
          cases hk : T.key t with
          | none => simpa [hk] using (ih _).cons now
          | some k => simpa [hk] using (ih _).cons_cons now
  exact (List.filter_sublist.map Prod.snd).trans hall

/-- After a step a call is about to retransmit exactly when the step took it past the group tier. -/
theorem retransmits_advance {engine : Engine} (hsrv : srv.shardEngine = some engine) (B : Backend σ) (now : Time)
    (sendErr : Bool) (t : Task) (x : Shared D σ) :
    (advance srv S B now sendErr t x).1.retransmits srv S D = (groupTier srv S D).pass srv S B now sendErr t x := by
  have hother (hkey : (groupTier srv S D).key t = none)
      (hnone : (advance srv S B now sendErr t x).1.retransmits srv S D = none) :
      (advance srv S B now sendErr t x).1.retransmits srv S D =
        (groupTier srv S D).pass srv S B now sendErr t x := by
    rw [hnone, Tier.pass, hkey]
    rfl
  cases hs : t.stage with
  | group q raw =>
    have hkey : (groupTier srv S D).key t = frameGroup srv S D t.src raw := by simp only [groupTier, hs]
    rw [Tier.pass, hkey]
    simp only [frameGroup, hsrv, Option.map_some, Option.bind_some]
    unfold advance
    simp only [hs]
    cases (srv.throttleGroup S x.limiter (srcIP t.src) (frameTxID raw) now).1 with
    | true => rfl
    | false => simp [groupTier, Task.retransmits, frameGroup, hsrv]
  | validate =>
    refine hother (by simp only [groupTier, hs]) ?_
    unfold advance
    simp only [hs]
    split
    · rfl
    · split_ifs <;> rfl
  | ip q | sequence q | chain q =>
    refine hother (by simp only [groupTier, hs]) ?_
    unfold advance
    simp only [hs]
    split_ifs <;> rfl
  | retrieve q | retransmit q raw since =>
    refine hother (by simp only [groupTier, hs]) ?_
    unfold advance
    simp only [hs]
    split <;> rfl
  | respond q path =>
    refine hother (by simp only [groupTier, hs]) ?_
    unfold advance
    simp only [hs]
    rfl
  | returned path =>
    refine hother (by simp only [groupTier, hs]) ?_
    unfold advance
    simp only [hs, Task.retransmits]

variable (srv S back workers) in
/-- Of the calls under way a step changes one. -/
theorem filterMap_busy_step {β : Type} {f : Task → Option β} (hf : ∀ t, t.stage.isReturned = true → f t = none)
    {s : State D σ} {i : ℕ} {t : Task} (hi : s.busy[i]? = some t) (now : Time) (sendErr : Bool) (env : ω) :
    ((f t).toList ++ (s.busy.eraseIdx i).filterMap f).Perm (s.busy.filterMap f) ∧
      ((step srv S back workers s (.advance i now sendErr env)).busy.filterMap f).Perm
        ((f (advance srv S (back env) now sendErr t s.shared).1).toList ++ (s.busy.eraseIdx i).filterMap f) := by
  obtain ⟨hlt, rfl⟩ := List.getElem?_eq_some_iff.mp hi
  have hcons (u : Task) : (u :: s.busy.eraseIdx i).filterMap f = (f u).toList ++ (s.busy.eraseIdx i).filterMap f := by
    rw [List.filterMap_cons]
    cases f u <;> rfl
  refine ⟨?_, ?_⟩
  · rw [← hcons]
    exact (List.getElem_cons_eraseIdx_perm hlt).filterMap f
  · simp only [step, hi]
    split_ifs with hret
    · rw [hf _ hret]
      exact .refl _
    · rw [← hcons]
      exact (List.set_perm_cons_eraseIdx hlt _).filterMap f

/-- What one call does to what has run, what is about to, and what has passed: `r` runs and `q` passes. -/
theorem perm_handOver {α : Type} {ran passed busy busy' rest r q : List α} (h : (ran ++ busy).Perm passed)
    (hbefore : (r ++ rest).Perm busy) (hafter : busy'.Perm (q ++ rest)) : (ran ++ r ++ busy').Perm (passed ++ q) :=
  calc ran ++ r ++ busy'
    _ ~ ran ++ r ++ (q ++ rest) := hafter.append_left _
    _ ~ ran ++ r ++ (rest ++ q) := List.perm_append_comm.append_left _
    _ = ran ++ (r ++ rest) ++ q := by simp only [List.append_assoc]
    _ ~ ran ++ busy ++ q := (hbefore.append_left ran).append_right q
    _ ~ passed ++ q := h.append_right q

/-- **Every retransmit is one pass of the group tier**: the passes are the retransmits that have run, and
the calls that are about to run one. -/
theorem retransmits_perm {engine : Engine} (hsrv : srv.shardEngine = some engine) (x : Shared D σ)
    (es : List (Event ω)) :
    (seen (step srv S back workers) (retransmitted srv S) ⟨x, [], []⟩ es ++
        (run srv S back workers x es).busy.filterMap (Task.retransmits srv S D)).Perm
      (seen (step srv S back workers) ((groupTier srv S D).passed srv S back) ⟨x, [], []⟩ es) := by
  induction es using List.reverseRecOn with
  | nil => exact .refl _
  | append_singleton es e ih =>
    rw [run, runFrom_snoc, seen_snoc, seen_snoc, ← run]
    generalize run srv S back workers x es = s at ih ⊢
    cases e with
    | start datagram src =>
      have hbusy : (step srv S back workers s (.start datagram src)).busy.filterMap (Task.retransmits srv S D) =
          s.busy.filterMap (Task.retransmits srv S D) := by
        simp only [step]
        split_ifs
        · rw [List.filterMap_append]
          exact List.append_nil _
        · rfl
      rw [hbusy]
      simpa [retransmitted, Tier.passed] using ih
    | advance i now sendErr env =>
      cases hi : s.busy[i]? with
      | none => simpa [retransmitted, Tier.passed, step, hi] using ih
      | some t =>
        have hf : ∀ u : Task, u.stage.isReturned = true → u.retransmits srv S D = none := by
          intro u hu
          unfold Task.retransmits
          split
          next hs => rw [hs] at hu; cases hu
          next => rfl
        obtain ⟨hbefore, hafter⟩ := filterMap_busy_step srv S back workers hf hi now sendErr env
        rw [retransmits_advance hsrv] at hafter
        simp only [retransmitted, Tier.passed, hi, Option.bind_some]
        exact perm_handOver ih hbefore hafter

/-- So for a key the retransmits use up some of the passes, each one of its own. -/
theorem retransmits_subperm {engine : Engine} (hsrv : srv.shardEngine = some engine) (x : Shared D σ)
    (es : List (Event ω)) (key : Bytes) :
    (instants key (seen (step srv S back workers) (retransmitted srv S) ⟨x, [], []⟩ es)).Subperm
      (instants key (seen (step srv S back workers) ((groupTier srv S D).passed srv S back) ⟨x, [], []⟩ es)) := by
  refine List.Subperm.trans ?_ (((retransmits_perm hsrv x es).filter _).map Prod.snd).subperm
  exact (((List.sublist_append_left _ _).filter _).map Prod.snd).subperm

end Run

/-! ### The limits -/

/-- **The limits hold** in a run from a new limiter. -/
structure Limited (cfg : Config) (S : ShardLib) (D : Deps) (back : ω → Backend σ) (workers : ℕ) (behind : σ)
    (es : List (Event ω)) : Prop where
  /-- Requests of a source that get past the IP tier. -/
  ip : ∀ ip, RateBound (perNanosecond cfg.rlIPRate) cfg.rlIPBurst.toNat (instants (D.ipString ip)
    (seen (step cfg.server S back workers) ((ipTier D).passed cfg.server S back)
      ⟨⟨newLimiter D cfg.limits, behind⟩, [], []⟩ es))
  /-- Requests for a number that get past the sequence tier. -/
  sequence : ∀ startSeq, Capped cfg.rlSequenceMax cfg.limits.effectiveSequenceWindow (instants startSeq
    (seen (step cfg.server S back workers) ((sequenceTier D).passed cfg.server S back)
      ⟨⟨newLimiter D cfg.limits, behind⟩, [], []⟩ es))
  /-- Requests of a source for a flow that get past the chain tier. -/
  chain : ∀ ip hashKey, Capped (newLimiter D cfg.limits).chainLimiter.max cfg.limits.effectiveChainWindow
    (instants (chainKey D ip hashKey)
      (seen (step cfg.server S back workers) ((chainTier D).passed cfg.server S back)
        ⟨⟨newLimiter D cfg.limits, behind⟩, [], []⟩ es))
  /-- Requests of a source for frames of a group that get past the group tier. -/
  group : ∀ ip groupIdx, RateBound (perNanosecond (newLimiter D cfg.limits).groupLimiter.r)
    (newLimiter D cfg.limits).groupLimiter.burst.toNat (instants (groupKey D ip groupIdx)
      (seen (step cfg.server S back workers) ((groupTier cfg.server S D).passed cfg.server S back)
        ⟨⟨newLimiter D cfg.limits, behind⟩, [], []⟩ es))
  /-- Each retransmit uses up one of these. -/
  retransmits : ∀ ip groupIdx, (instants (groupKey D ip groupIdx)
      (seen (step cfg.server S back workers) (retransmitted cfg.server S)
        ⟨⟨newLimiter D cfg.limits, behind⟩, [], []⟩ es)).Subperm
    (instants (groupKey D ip groupIdx)
      (seen (step cfg.server S back workers) ((groupTier cfg.server S D).passed cfg.server S back)
        ⟨⟨newLimiter D cfg.limits, behind⟩, [], []⟩ es))

variable {srv S} {back : ω → Backend σ} {workers : ℕ}

/-- What gets past a tier of buckets keeps to their rate. -/
theorem rateBound_passed (hD : D.Metered) {T : Tier D (TokenBucketLimiter D) Bytes} (hT : T.Lawful srv S)
    (hallow : T.allow = TokenBucketLimiter.allow) {s : State D σ} {r : ℚ} {burst : ℤ}
    (hnew : T.get s.shared.limiter = newTokenBucketLimiter D r burst) {es : List (Event ω)} (hes : InOrder es)
    (key : Bytes) :
    RateBound (perNanosecond r) burst.toNat
      (instants key (seen (step srv S back workers) (T.passed srv S back) s es)) := by
  rw [hT.passed_eq, hallow, (keyed_buckets D).passes_key, hnew]
  exact hD r burst _ (hes.sublist (T.called_sublist key s es))

/-- What gets past a tier of windows keeps to their limit. -/
theorem capped_passed [DecidableEq K] {T : Tier D (WindowLimiter K) K} (hT : T.Lawful srv S)
    (hallow : T.allow = WindowLimiter.allow) {s : State D σ} {max : ℤ} {window : Duration}
    (hnew : T.get s.shared.limiter = newWindowLimiter K max window) {es : List (Event ω)} (hes : InOrder es) (key : K) :
    Capped max window (instants key (seen (step srv S back workers) (T.passed srv S back) s es)) := by
  rw [hT.passed_eq, hallow, (keyed_windows K).passes_key, hnew]
  exact capped_windowGate max window (hes.sublist (T.called_sublist key s es))

/-- **In every interleaving of the workers the limits hold.** -/
theorem limits_hold (hD : D.Metered) (cfg : Config) (S : ShardLib) (back : ω → Backend σ) (workers : ℕ) (behind : σ)
    {es : List (Event ω)} (hes : InOrder es) : Limited cfg S D back workers behind es where
  ip _ := rateBound_passed hD lawful_ipTier rfl rfl hes _
  sequence _ := capped_passed lawful_sequenceTier rfl rfl hes _
  chain _ _ := capped_passed lawful_chainTier rfl rfl hes _
  group _ _ := rateBound_passed hD lawful_groupTier rfl rfl hes _
  retransmits _ _ := retransmits_subperm rfl _ es _

/-- Two requests of one source; the second is taken up before the first is done, which is retransmitted. -/
def twoRequests : List (Event Unit) :=
  [.start (wireNACK 1 1) none, .advance 0 0 false (), .start (wireNACK 1 2) none, .advance 0 3 false (),
    .advance 1 3 false (), .advance 1 7 false (), .advance 0 8 false (), .advance 0 9 false (), .advance 0 10 false (),
    .advance 0 11 false (), .advance 1 12 false (), .advance 0 13 false ()]

/-- The limits hold, and the first request has used up the pass that it got at 11. -/
theorem limits_hold_two :
    InOrder twoRequests ∧
      Limited (Config.defaultConfig {} .memory) oneGroup tokenBuckets
        (fun _ => answering (.ok (some (wireFrame 1 1))) none) 2 () twoRequests ∧
      seen (step (Config.defaultConfig {} .memory).server oneGroup
          (fun _ => answering (.ok (some (wireFrame 1 1))) none) 2)
        (retransmitted (Config.defaultConfig {} .memory).server oneGroup)
        ⟨⟨newLimiter tokenBuckets (Config.defaultConfig {} .memory).limits, ()⟩, [], []⟩ twoRequests =
          [(groupKey tokenBuckets (srcIP none) 0, 11)] := by
  have hes : InOrder twoRequests := by
    unfold InOrder
    decide
  exact ⟨hes, limits_hold metered_tokenBuckets _ _ _ _ _ hes, by decide +kernel⟩

end Workers

end NackServer

end RetryEndpoint
