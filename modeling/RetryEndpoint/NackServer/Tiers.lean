import RetryEndpoint.NackServer.Process

/-!
# The tiers of the limiter, as a NACK meets them

The documents number the tiers 1 (source IP), 2 (source IP and `HashKey`), 3 (`SeqNum`)
and 4 (source IP and group). `processNACK` calls `Allow`, which is tiers 1 and 3, before
`AllowChain`, which is tier 2, and tier 3 goes by the `SeqNum` alone.

## What is proved

* `preLookup_eq` — what the tiers before the lookup do, one after another.
* `sequence_verdicts_of_ne` — in a run of requests, those for one gap do not change what
  the sequence tier says of a gap with another `SeqNum`;
  `sequence_verdict_of_same_seqNum` is a run where they do, the two gaps being of two flows
  with one `SeqNum`.
* `rejection_spares_later_iff` — a rejection leaves the budgets of the later tiers alone
  unless it is one of the chain tier, which comes after the sequence tier has let the
  request in; `chain_rejection_spends` is such a rejection.
-/

namespace RetryEndpoint.NackServer

open Go Cache RateLimit ShardCommon

variable {D : Deps}

/-- **The tiers before the lookup**: IP, sequence, chain. -/
theorem preLookup_eq (l : Limiter D) (ip : Bytes) (q : Nack) (now : Time) :
    preLookup l ip q now =
      let tb := l.ipLimiter.allow (D.ipString ip) now
      let sq := l.sequenceLimiter.allow q.startSeq now
      let ch := l.chainLimiter.allow (chainKey D ip q.hashKey) now
      if tb.1 = false then (some .ip, { l with ipLimiter := tb.2 })
      else if sq.1 = false then (some .sequence, { l with ipLimiter := tb.2, sequenceLimiter := sq.2 })
      else if q.hashKey = 0 then (none, { l with ipLimiter := tb.2, sequenceLimiter := sq.2 })
      else (if ch.1 = false then some .chain else none,
        { l with ipLimiter := tb.2, sequenceLimiter := sq.2, chainLimiter := ch.2 }) := by
  simp only [preLookup, Limiter.allow]
  cases (l.ipLimiter.allow (D.ipString ip) now).1 with
  | false => rfl
  | true =>
    cases (l.sequenceLimiter.allow q.startSeq now).1 with
    | false => rfl
    | true =>
      by_cases hz : q.hashKey = 0
      · simp [Limiter.allowChain, hz]
      · cases hc : (l.chainLimiter.allow (chainKey D ip q.hashKey) now).1 <;> simp [Limiter.allowChain, hz, hc]

/-! ### Runs of requests -/

/-- A request as the limiter sees it. -/
structure Request where
  /-- The source address. -/
  ip : Bytes
  /-- What is asked for. -/
  nack : Nack
  /-- When. -/
  now : Time

/-- The gap a request is for: the flow, and the frame missing in it. -/
def Request.gap (r : Request) : Header := ⟨r.nack.hashKey, r.nack.startSeq⟩

/-- The requests of a run, each with the tier that rejects it. -/
def verdicts : Limiter D → List Request → List (Request × Option Level)
  | _, [] => []
  | l, r :: rs => (r, (preLookup l r.ip r.nack r.now).1) :: verdicts (preLookup l r.ip r.nack r.now).2 rs

/-- The IP tier admits every request of the run. -/
def IPAdmits (l : Limiter D) (rs : List Request) : Prop := ∀ v ∈ verdicts l rs, v.2 ≠ some .ip

instance (l : Limiter D) (rs : List Request) : Decidable (IPAdmits l rs) :=
  inferInstanceAs (Decidable (∀ v ∈ verdicts l rs, v.2 ≠ some .ip))

/-- For each request for the gap `g`, whether the sequence tier rejects it. -/
def sequenceVerdicts (g : Header) (l : Limiter D) (rs : List Request) : List Bool :=
  ((verdicts l rs).filter fun v => v.1.gap = g).map fun v => v.2 = some .sequence

/-- What the sequence tier does with a request that the IP tier admits. -/
theorem preLookup_sequence {l : Limiter D} {ip : Bytes} {q : Nack} {now : Time}
    (h : (preLookup l ip q now).1 ≠ some .ip) :
    (preLookup l ip q now).2.sequenceLimiter = (l.sequenceLimiter.allow q.startSeq now).2 ∧
      ((preLookup l ip q now).1 = some .sequence ↔ (l.sequenceLimiter.allow q.startSeq now).1 = false) := by
  rw [preLookup_eq] at h ⊢
  dsimp only at h ⊢
  split_ifs at h ⊢ <;> simp_all

/-- Two limiters that keep the same for a `SeqNum` say the same of its gaps, whether or not
the requests for a gap with another `SeqNum` are made. -/
theorem sequenceVerdicts_congr {g₁ g₂ : Header} (hne : g₁.seqNum ≠ g₂.seqNum) (rs : List Request) {l l' : Limiter D}
    (hl : l.sequenceLimiter.Agree l'.sequenceLimiter g₂.seqNum) (h : IPAdmits l rs)
    (h' : IPAdmits l' (rs.filter fun r => r.gap ≠ g₁)) :
    sequenceVerdicts g₂ l rs = sequenceVerdicts g₂ l' (rs.filter fun r => r.gap ≠ g₁) := by
  induction rs generalizing l l' with
  | nil => rfl
  | cons r rs ih =>
    obtain ⟨hip, hrs⟩ := List.forall_mem_cons.mp h
    obtain ⟨hseq, hver⟩ := preLookup_sequence hip
    by_cases hg : r.gap = g₁
    · -- the second run does not make this request, which is for another `SeqNum`
      have hg₂ : r.gap ≠ g₂ := fun h₂ => hne (by rw [← hg, h₂])
      have hk : r.nack.startSeq ≠ g₂.seqNum := by rw [← hg] at hne; exact hne
      rw [List.filter_cons_of_neg (by simpa using hg)] at h' ⊢
      rw [← ih (by rw [hseq]; exact hl.skip hk r.now) hrs h']
      simp [sequenceVerdicts, verdicts, hg₂]
    · rw [List.filter_cons_of_pos (by simpa using hg)] at h' ⊢
      obtain ⟨hip', hrs'⟩ := List.forall_mem_cons.mp h'
      obtain ⟨hseq', hver'⟩ := preLookup_sequence hip'
      have hrest := ih (by rw [hseq, hseq']; exact hl.allow r.nack.startSeq r.now) hrs hrs'
      simp only [sequenceVerdicts, verdicts] at hrest ⊢
      by_cases hg₂ : r.gap = g₂
      · have hk : r.nack.startSeq = g₂.seqNum := by rw [← hg₂]; rfl
        have hsame : (preLookup l r.ip r.nack r.now).1 = some .sequence ↔
            (preLookup l' r.ip r.nack r.now).1 = some .sequence := by
          rw [hver, hver', hk, hl.allow_fst r.now]
        simp [hg₂, hsame, hrest]
      · simp [hg₂, hrest]

/-- **The sequence tier isolates gaps with different `SeqNum`s.** In any run of requests
that the IP tier admits, deleting those for one gap changes no verdict of the sequence tier
on a gap with another `SeqNum`. -/
theorem sequence_verdicts_of_ne (l : Limiter D) (rs : List Request) (g₁ g₂ : Header) (hne : g₁.seqNum ≠ g₂.seqNum)
    (h : IPAdmits l rs) (h' : IPAdmits l (rs.filter fun r => r.gap ≠ g₁)) :
    sequenceVerdicts g₂ l rs = sequenceVerdicts g₂ l (rs.filter fun r => r.gap ≠ g₁) :=
  sequenceVerdicts_congr hne rs (.refl ..) h h'

/-- A request from a fixed source for one frame of a flow. -/
def requestFor (hashKey seqNum : UInt64) (now : Time) : Request := ⟨ipv6unspecified, ⟨hashKey, seqNum, seqNum⟩, now⟩

/-- One request for each of two frames of a flow. -/
theorem sequence_verdicts_of_two_frames :
    sequenceVerdicts ⟨1, 6⟩ (limiterWith 10 10 1) [requestFor 1 5 0, requestFor 1 6 1] =
      sequenceVerdicts ⟨1, 6⟩ (limiterWith 10 10 1)
        ([requestFor 1 5 0, requestFor 1 6 1].filter fun r => r.gap ≠ ⟨1, 5⟩) :=
  sequence_verdicts_of_ne (limiterWith 10 10 1) _ ⟨1, 5⟩ ⟨1, 6⟩ (by decide) (by decide) (by decide)

/-- One request for frame 5 of each of two flows, and room for one: the second is rejected
because of the first. -/
theorem sequence_verdict_of_same_seqNum :
    IPAdmits (limiterWith 10 10 1) [requestFor 1 5 0, requestFor 2 5 1] ∧
      sequenceVerdicts ⟨2, 5⟩ (limiterWith 10 10 1) [requestFor 1 5 0, requestFor 2 5 1] = [true] ∧
      sequenceVerdicts ⟨2, 5⟩ (limiterWith 10 10 1)
        ([requestFor 1 5 0, requestFor 2 5 1].filter fun r => r.gap ≠ ⟨1, 5⟩) = [false] := by
  decide

/-! ### What a rejection spends -/

/-- The number of a tier in the documents. -/
def tier : Level → ℕ
  | .ip => 1
  | .chain => 2
  | .sequence => 3
  | .group => 4

/-- The tier that rejects the request, if one does. -/
def Path.rejectedBy : Path → Option Level
  | .limited level => some level
  | .hit _ none => some .group
  | _ => none

/-- The two limiters have the same budgets left in a tier, for every key: the same buckets,
or the same admissions that have not left the window. -/
def SameBudgets (level : Level) (l l' : Limiter D) (now : Time) : Prop :=
  match level with
  | .ip => l'.ipLimiter.limit = l.ipLimiter.limit
  | .chain => ∀ key, l'.chainLimiter.unexpired key now = l.chainLimiter.unexpired key now
  | .sequence => ∀ key, l'.sequenceLimiter.unexpired key now = l.sequenceLimiter.unexpired key now
  | .group => l'.groupLimiter.limit = l.groupLimiter.limit

/-- If a tier rejects the request, the budgets of the later tiers are as before. -/
def Spares (path : Path) (l l' : Limiter D) (now : Time) : Prop :=
  ∀ level, path.rejectedBy = some level → ∀ later, tier level < tier later → SameBudgets later l l' now

/-- After the lookup only the last tier can reject. -/
theorem lookup_rejectedBy {σ : Type} (srv : Server) (S : ShardLib) (B : Backend σ) (q : Nack) (src : Option UDPAddr)
    (now : Time) (sendErr : Bool) (l : Limiter D) (s : σ) {level : Level}
    (h : (srv.lookup S B q src now sendErr l s).1.path.rejectedBy = some level) : level = .group := by
  unfold Server.lookup at h
  split at h
  · cases h
  · cases h
  · unfold Server.serve at h
    dsimp only at h
    split_ifs at h <;> cases h
    rfl

/-- No tier comes after the group tier. -/
theorem tier_le (level : Level) : tier level ≤ tier .group := by cases level <;> decide

/-- The IP tier is the first that is asked. -/
theorem spares_of_ip (l : Limiter D) (tb : TokenBucketLimiter D) (now : Time) :
    Spares (.limited .ip) l { l with ipLimiter := tb } now := by
  rintro _ ⟨⟩ later hlater
  cases later with
  | ip => exact absurd hlater (by decide)
  | chain => exact fun _ => rfl
  | sequence => exact fun _ => rfl
  | group => rfl

/-- The sequence tier rejects before the group tier is asked. -/
theorem spares_of_sequence (l : Limiter D) (tb : TokenBucketLimiter D) (sq : SequenceLimiter) (now : Time) :
    Spares (.limited .sequence) l { l with ipLimiter := tb, sequenceLimiter := sq } now := by
  rintro _ ⟨⟩ later hlater
  cases later with
  | ip => exact absurd hlater (by decide)
  | chain => exact absurd hlater (by decide)
  | sequence => exact absurd hlater (by decide)
  | group => rfl

/-- The chain tier rejects when the sequence tier has already counted the request. -/
theorem not_spares_of_chain {l : Limiter D} (tb : TokenBucketLimiter D) {seqNum : UInt64} (ch : SlidingWindowLimiter)
    {now : Time} (hW : 0 < l.sequenceLimiter.window) (hsq : (l.sequenceLimiter.allow seqNum now).1 = true) :
    ¬ Spares (.limited .chain) l
      { l with ipLimiter := tb, sequenceLimiter := (l.sequenceLimiter.allow seqNum now).2, chainLimiter := ch }
      now := by
  intro h
  have hkey := h .chain rfl .sequence (by decide) seqNum
  rw [WindowLimiter.unexpired_allow_self hsq hW] at hkey
  exact absurd (congrArg List.length hkey) (by simp)

/-- **What a rejection spends.** A valid request that a tier rejects leaves the budgets of
the later tiers alone, unless the IP and sequence tiers let it in and the chain tier
rejects it. -/
theorem rejection_spares_later_iff {σ : Type} (srv : Server) (S : ShardLib) (B : Backend σ) (datagram : Bytes)
    (src : Option UDPAddr) (now : Time) (sendErr : Bool) (l : Limiter D) (s : σ) (hv : Valid datagram)
    (hW : 0 < l.sequenceLimiter.window) :
    Spares (srv.processNACK S B datagram src now sendErr l s).1.path l
        (srv.processNACK S B datagram src now sendErr l s).2.1 now ↔
      ¬ ((l.ipLimiter.allow (D.ipString (srcIP src)) now).1 = true ∧
        (l.sequenceLimiter.allow (readNACK datagram).startSeq now).1 = true ∧
        (readNACK datagram).hashKey ≠ 0 ∧
        (l.chainLimiter.allow (chainKey D (srcIP src) (readNACK datagram).hashKey) now).1 = false) := by
  have hadm : ∀ l', preLookup l (srcIP src) (readNACK datagram) now = (none, l') →
      Spares (srv.processNACK S B datagram src now sendErr l s).1.path l
        (srv.processNACK S B datagram src now sendErr l s).2.1 now := by
    intro l' hl' level hlevel later hlater
    rw [Server.processNACK_of_admitted hv hl'] at hlevel
    rw [lookup_rejectedBy srv S B _ src now sendErr l' s hlevel] at hlater
    exact absurd (tier_le later) (by omega)
  have hpre := preLookup_eq l (srcIP src) (readNACK datagram) now
  dsimp only at hpre
  split_ifs at hpre with hip hsq hz hch
  · rw [Server.processNACK_of_limited hv hpre]
    exact iff_of_true (spares_of_ip l _ now) fun h => by simp [hip] at h
  · rw [Server.processNACK_of_limited hv hpre]
    exact iff_of_true (spares_of_sequence l _ _ now) fun h => by simp [hsq] at h
  · exact iff_of_true (hadm _ hpre) fun h => h.2.2.1 hz
  · rw [Server.processNACK_of_limited hv hpre]
    have hsq' : (l.sequenceLimiter.allow (readNACK datagram).startSeq now).1 = true := by simpa using hsq
    exact iff_of_false (not_spares_of_chain _ _ hW hsq') (not_not_intro ⟨by simpa using hip, hsq', hz, hch⟩)
  · exact iff_of_true (hadm _ hpre) fun h => hch h.2.2.2

/-- A backend that has no frame. -/
def noFrames : Backend Unit where
  cache := ⟨fun _ _ _ _ s => (none, s), fun _ _ _ => .ok none⟩
  retransmit _ _ _ s := (none, s)

/-- A request that the IP tier rejects leaves the budgets of the other tiers alone. -/
theorem ip_rejection_spares :
    Spares (Server.processNACK ⟨false, false, none, false⟩ oneGroup noFrames (wireNACK 1 1) none 0 false
        (limiterWith 0 1 1) ()).1.path (limiterWith 0 1 1)
      (Server.processNACK ⟨false, false, none, false⟩ oneGroup noFrames (wireNACK 1 1) none 0 false
        (limiterWith 0 1 1) ()).2.1 0 :=
  (rejection_spares_later_iff ⟨false, false, none, false⟩ oneGroup noFrames (wireNACK 1 1) none 0 false
    (limiterWith 0 1 1) () (by decide) (by decide)).mpr (by decide)

/-- The limiter, with room for one request of a flow, after one request of a flow. -/
def flowServed : Limiter countdown :=
  (Server.processNACK ⟨false, false, none, false⟩ oneGroup noFrames (wireNACK 1 1) none 0 false
    (limiterWith 10 1 1) ()).2.1

/-- A request for another frame of the flow is rejected by the chain tier, and has used up
the room for its `SeqNum`. -/
theorem chain_rejection_spends :
    (Server.processNACK ⟨false, false, none, false⟩ oneGroup noFrames (wireNACK 1 2) none 7 false
        flowServed ()).1.path = .limited .chain ∧
      flowServed.sequenceLimiter.unexpired 2 7 = [] ∧
      (Server.processNACK ⟨false, false, none, false⟩ oneGroup noFrames (wireNACK 1 2) none 7 false
        flowServed ()).2.1.sequenceLimiter.unexpired 2 7 = [7] := by
  decide

end RetryEndpoint.NackServer
