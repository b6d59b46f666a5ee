import RetryEndpoint.NackServer.Process
import RetryEndpoint.Retransmit.Fleet

/-!
# What the dedup gate guarantees, and what it does not

The gate claims a frame before it is written, by the `SeqNum` alone, and takes every
outcome of `SET NX` but a success for "another instance already retransmitted this frame".

How long a key is kept is up to the client and the server: `ClaimsAtLeast` and `ClaimsFor` say that it is
kept for the window at least, or for the window. Where the expiration is passed on in milliseconds, both hold of
windows of whole milliseconds (`claimsFor_msClient`).

## What is proved

* `writers_apart` — of the calls for one frame, those that go on to the writes are at least
  a window apart.
* `suppressed_same_identity_iff` — a frame is held back for its own sake exactly as long as
  no two flows use one `SeqNum`; `suppressed_by_other_flow` is a run in which they do.
* `nil_means_sent` — "sent" is true as long as no call holding the claim is still writing
  or has failed, and, when the clock does not run back, not longer; `failed_write_burns` is
  a run in which a write has failed.
* `outage_accounted_iff` — a failing `SET NX` does no harm exactly where the claim is held
  anyway; `outage_drops` is a run in which it is not.
-/

namespace RetryEndpoint.Retransmit.Fleet

open Go Cache ShardCommon Theory

variable {ι : Type} {fl : Fleet ι} {S : ShardLib}

/-! ### At most one writer in a window -/

/-- Two claims of one key are at least a window apart. -/
theorem Booked.claims_apart (hR : fl.cache.client.ClaimsAtLeast fl.window) {s : FleetState ι} (h : fl.Booked s)
    {i j : ℕ} (hij : i < j) {a b : Call ι}
    (ha : s.calls[i]? = some a) (hb : s.calls[j]? = some b) (hga : a.gate = .claimed) (hgb : b.gate = .claimed)
    (hk : buildDedupKey a.raw = buildDedupKey b.raw) : a.time + fl.window ≤ b.time := by
  obtain ⟨hi, rfl⟩ := List.getElem?_eq_some_iff.mp ha
  obtain ⟨hj, rfl⟩ := List.getElem?_eq_some_iff.mp hb
  have hs := List.pairwise_filterMap.mp h.spaced
  obtain ⟨d, hd, hdb⟩ :=
    List.pairwise_iff_getElem.mp hs i j hi hj hij _ (if_pos hga) _ (if_pos hgb) (key_inj.mpr hk)
  exact (hR.le _ d hd).trans hdb

/-- While a call holds a key, no later call has claimed it. -/
theorem Booked.not_lt_of_heldBy (hR : fl.cache.client.ClaimsAtLeast fl.window) {s : FleetState ι} (h : fl.Booked s)
    {raw : Bytes} {now : Time} {m m' : ℕ} {c c' : Call ι} (hm : fl.HeldBy s raw now m c)
    (hm' : fl.HeldBy s raw now m' c') (ht : c'.time ≤ now) : ¬ m < m' := by
  intro hlt
  have hapart := h.claims_apart hR hlt hm.call hm'.call hm.claimed hm'.claimed (hm.key_eq.trans hm'.key_eq.symm)
  exact absurd (hm.recent.trans_le (hapart.trans ht)) (lt_irrefl _)

/-- One call holds a key at a time, when no call is ahead of the clock. -/
theorem Booked.heldBy_unique (hR : fl.cache.client.ClaimsAtLeast fl.window) {s : FleetState ι} (h : fl.Booked s)
    {raw : Bytes} {now : Time} {m m' : ℕ} {c c' : Call ι} (hm : fl.HeldBy s raw now m c)
    (hm' : fl.HeldBy s raw now m' c') (ht : c.time ≤ now) (ht' : c'.time ≤ now) : m = m' := by
  apply Nat.le_antisymm
  · exact Nat.not_lt.mp (h.not_lt_of_heldBy hR hm' hm ht)
  · exact Nat.not_lt.mp (h.not_lt_of_heldBy hR hm hm' ht')

/-- A frame with a key that is not dropped is claimed. -/
theorem Inv.claimed {s : FleetState ι} (h : fl.Inv s) {n : ℕ} {c : Call ι} (hc : s.calls[n]? = some c)
    (hlen : 56 ≤ c.raw.length) (hg : c.gate ≠ .dropped) : c.gate = .claimed := by
  have hu := h.unguarded_iff n c hc
  cases hgate : c.gate with
  | unguarded => exact absurd (hu.mp hgate) (by omega)
  | claimed => rfl
  | dropped => exact absurd hgate hg

/-- A claimed frame has a key. -/
theorem Inv.long {s : FleetState ι} (h : fl.Inv s) {n : ℕ} {c : Call ι} (hc : s.calls[n]? = some c)
    (hg : c.gate ≠ .unguarded) : 56 ≤ c.raw.length := by
  by_contra hlt
  exact hg ((h.unguarded_iff n c hc).mpr (by omega))

/-- Who holds a key has passed the gate. -/
theorem HeldBy.not_dropped {s : FleetState ι} {raw : Bytes} {now : Time} {m : ℕ} {c : Call ι}
    (h : fl.HeldBy s raw now m c) : c.gate ≠ .dropped := by
  rw [h.claimed]
  decide

/-- Who holds a key has a frame with a key. -/
theorem HeldBy.long {s : FleetState ι} {raw : Bytes} {now : Time} {m : ℕ} {c : Call ι}
    (h : fl.HeldBy s raw now m c) (hi : fl.Inv s) : 56 ≤ c.raw.length := by
  refine hi.long h.call ?_
  rw [h.claimed]
  decide

variable (fl S)

/-- **At most one instance goes on to the writes in a window.** In every run without faults
of `SET NX`, two calls for one frame that has a key, and that go on to the writes, ran their
`SET NX` at least a window apart, if Redis keeps a claim for the window at least. -/
theorem writers_apart (hR : fl.cache.client.ClaimsAtLeast fl.window) (es : List (FleetEvent ι))
    (hes : ∀ e ∈ es, e.Clean) (i j : ℕ) (hij : i < j) (a b : Call ι) (ha : (fl.run S es).calls[i]? = some a)
    (hb : (fl.run S es).calls[j]? = some b) (hraw : a.raw = b.raw)
    (hlen : 56 ≤ a.raw.length) (hga : a.gate ≠ .dropped) (hgb : b.gate ≠ .dropped) :
    a.time + fl.window ≤ b.time := by
  have hi := run_inv fl S es
  have hl : fl.Booked (fl.run S es) := run_booked hR ((along_of_forall hes).mono fun _ _ => Covered.of_clean)
  exact hl.claims_apart hR hij ha hb (hi.claimed ha hlen hga) (hi.claimed hb (hraw ▸ hlen) hgb) (by rw [hraw])

/-- Two endpoints with one egress interface each, and a window of ten milliseconds. -/
def pair : Fleet Bool where
  inst _ := oneSocket true
  cache := ⟨msClient, ascii ['p']⟩
  window := 10 * millisecond
  window_pos := by decide
  shared _ := rfl
  dedupWindow_eq _ := rfl
  sockets_ne _ := List.cons_ne_nil _ _

theorem claimsFor_pair : pair.cache.client.ClaimsFor pair.window :=
  claimsFor_msClient (by decide) (Dvd.intro_left _ rfl)

/-- One endpoint sends the frame; the other is held back once and sends it when the window
has passed. -/
def reclaim : List (FleetEvent Bool) :=
  [.gate false (wireFrame 1 1) [] 0 none, .egress 0 [ascii ['e']] fun _ => none,
    .gate true (wireFrame 1 1) [] (5 * millisecond) none, .gate true (wireFrame 1 1) [] (12 * millisecond) none]

theorem writers_apart_in_reclaim : 0 + pair.window ≤ 12 * millisecond :=
  writers_apart pair oneGroup claimsFor_pair.atLeast reclaim (by simp [reclaim, FleetEvent.Clean]) 0 2 (by decide)
    ⟨false, wireFrame 1 1, [], 0, .claimed⟩ ⟨true, wireFrame 1 1, [], 12 * millisecond, .claimed⟩ (by decide)
    (by decide) rfl (by decide) (by decide) (by decide)

/-! ### What holds a frame back -/

section

variable {fl S}

/-- The call has returned nil, and the frame is not on all egress interfaces. -/
def Suppressed (fl : Fleet ι) (s : FleetState ι) (n : ℕ) (c : Call ι) : Prop :=
  s.calls[n]? = some c ∧ ∃ res, s.result n = some res ∧ res.err = none ∧ ¬ (fl.inst c.inst).WroteAll res c.raw

/-- The calls that are suppressed are those that the gate has dropped. -/
theorem Inv.suppressed_iff {s : FleetState ι} (h : fl.Inv s) {n : ℕ} {c : Call ι} :
    fl.Suppressed s n c ↔ s.calls[n]? = some c ∧ c.gate = .dropped := by
  constructor
  · rintro ⟨hc, res, hr, herr, hw⟩
    refine ⟨hc, ?_⟩
    by_contra hg
    exact hw (h.written n c res hc hg hr herr)
  · rintro ⟨hc, hg⟩
    exact ⟨hc, _, h.dropped n c hc hg, rfl, Retransmitter.not_wroteAll_dropResult (fl.sockets_ne _) _⟩

/-- Frames with one key have one `SeqNum`, and the other way round. -/
theorem buildDedupKey_eq_iff {raw raw' : Bytes} (h : 56 ≤ raw.length) (h' : 56 ≤ raw'.length) :
    buildDedupKey raw = buildDedupKey raw' ↔ (headerAt raw).seqNum = (headerAt raw').seqNum := by
  have hl : (slice raw 48 56).length = 8 := length_slice (by decide) h
  have hl' : (slice raw' 48 56).length = 8 := length_slice (by decide) h'
  rw [buildDedupKey, buildDedupKey, if_neg (by omega), if_neg (by omega)]
  exact ⟨fun he => by rw [headerAt, headerAt, he], uint64_inj hl hl'⟩

/-- The calls are for the given frames. -/
def FromFrames (frames : Set Bytes) (s : FleetState ι) : Prop :=
  ∀ (n : ℕ) (c : Call ι), s.calls[n]? = some c → c.raw ∈ frames

theorem FromFrames.step {frames : Set Bytes} {s : FleetState ι} (h : FromFrames frames s) {e : FleetEvent ι}
    (he : e.Of frames) : FromFrames frames (fl.step S s e) := by
  cases e with
  | gate i raw txID now fault =>
    intro n c hc
    rcases getElem?_snoc_eq_some_iff.mp hc with hc | ⟨-, rfl⟩
    · exact h n c hc
    · exact he
  | egress n order write => simpa only [FromFrames, Fleet.step, stepEgress_calls] using h
  | store => exact h

/-- What holds in the runs of calls for the given frames, as long as `SET NX` fails only
where the key is held. -/
structure Sound (fl : Fleet ι) (frames : Set Bytes) (s : FleetState ι) : Prop where
  /-- What the calls return. -/
  inv : fl.Inv s
  /-- The claims in Redis. -/
  ledger : fl.Ledger s
  /-- The frames. -/
  fromFrames : FromFrames frames s

theorem sound_start (frames : Set Bytes) : fl.Sound frames .start :=
  ⟨inv_start, ledger_start, fun n c hc => by simp [FleetState.start] at hc⟩

theorem Sound.step (hR : fl.cache.client.ClaimsFor fl.window) {frames : Set Bytes} {s : FleetState ι}
    (h : fl.Sound frames s) {e : FleetEvent ι} (he : fl.Covered s e ∧ e.Of frames) :
    fl.Sound frames (fl.step S s e) :=
  ⟨h.inv.step e, h.ledger.step hR he.1, h.fromFrames.step he.2⟩

theorem run_sound (hR : fl.cache.client.ClaimsFor fl.window) {frames : Set Bytes} {es : List (FleetEvent ι)}
    (h : ∀ e ∈ es, e.Clean ∧ e.Of frames) : fl.Sound frames (fl.run S es) :=
  (along_of_forall h).invariant (sound_start frames) fun _ _ hs he => hs.step hR ⟨.of_clean he.1, he.2⟩

variable (fl S) in
/-- Of two calls at one instant with one key, the second is dropped. -/
theorem calls_of_two_gates (hR : fl.cache.client.ClaimsFor fl.window) (i : ι) {raw raw' : Bytes}
    (h : 56 ≤ raw.length) (h' : 56 ≤ raw'.length) (hk : buildDedupKey raw = buildDedupKey raw') :
    (fl.run S [.gate i raw [] 0 none, .gate i raw' [] 0 none]).calls =
      [⟨i, raw, [], 0, .claimed⟩, ⟨i, raw', [], 0, .dropped⟩] := by
  have hfree : ¬ fl.Held (.start : FleetState ι) raw 0 := by
    rintro ⟨m, c, hm⟩
    simpa [FleetState.start] using hm.call
  have hfirst : (fl.run S [.gate i raw [] 0 none]).calls = [⟨i, raw, [], 0, .claimed⟩] := by
    have hn := mt (ledger_start.gate_dropped_iff hR h i [] (Covered.of_clean rfl)).mp hfree
    have hc := (run_inv fl S [.gate i raw [] 0 none]).claimed (n := 0) rfl h hn
    simp only [run, runFrom, List.foldl, Fleet.step, stepGate, FleetState.start, List.nil_append] at hc ⊢
    rw [hc]
  have hl : fl.Ledger (fl.run S [.gate i raw [] 0 none]) :=
    run_ledger hR (along_cons_iff.mpr ⟨.of_clean rfl, along_nil⟩)
  have hheld : fl.Held (fl.run S [.gate i raw [] 0 none]) raw' 0 :=
    ⟨0, _, by rw [hfirst]; rfl, rfl, hk, by simpa using fl.window_pos⟩
  have hsecond := (hl.gate_dropped_iff hR h' i [] (Covered.of_clean rfl)).mpr hheld
  change (fl.run S [.gate i raw [] 0 none]).calls ++
    [⟨i, raw', [], 0, ((fl.inst i).gate raw' 0 none (fl.run S [.gate i raw [] 0 none]).redis).1⟩] = _
  rw [hsecond, hfirst]
  rfl

end

/-- **What holds a frame back.** Take any frames, and the runs, without faults of `SET NX`
and with writes that succeed, of calls for these frames. In all of them it is a call for the
same `HashKey` and `SeqNum`, less than a window before, that holds a frame back, exactly
when no two of the frames have one `SeqNum` and two `HashKey`s. Redis is assumed to keep a claim for the
window. -/
theorem suppressed_same_identity_iff [Nonempty ι] (hR : fl.cache.client.ClaimsFor fl.window) (frames : Set Bytes) :
    (∀ es : List (FleetEvent ι), (∀ e ∈ es, e.Clean ∧ e.WritesOk ∧ e.Of frames) →
      ∀ n c, fl.Suppressed (fl.run S es) n c → 56 ≤ c.raw.length →
        ∃ m c', m < n ∧ (fl.run S es).calls[m]? = some c' ∧ c'.gate ≠ .dropped ∧ 56 ≤ c'.raw.length ∧
          headerAt c'.raw = headerAt c.raw ∧ c.time < c'.time + fl.window) ↔
    ∀ raw ∈ frames, ∀ raw' ∈ frames, 56 ≤ raw.length → 56 ≤ raw'.length →
      (headerAt raw).seqNum = (headerAt raw').seqNum → (headerAt raw).hashKey = (headerAt raw').hashKey := by
  constructor
  · intro h raw hraw raw' hraw' hlen hlen' hseq
    obtain ⟨i⟩ := ‹Nonempty ι›
    have hcalls := calls_of_two_gates fl S hR i hlen hlen' ((buildDedupKey_eq_iff hlen hlen').mpr hseq)
    have hsup := ((run_inv fl S [.gate i raw [] 0 none, .gate i raw' [] 0 none]).suppressed_iff
      (n := 1) (c := ⟨i, raw', [], 0, .dropped⟩)).mpr ⟨by rw [hcalls]; rfl, rfl⟩
    have hes : ∀ e ∈ [FleetEvent.gate i raw [] 0 none, .gate i raw' [] 0 none],
        e.Clean ∧ e.WritesOk ∧ e.Of frames := by
      simp [FleetEvent.Clean, FleetEvent.WritesOk, FleetEvent.Of, hraw, hraw']
    obtain ⟨m, c', hm, hc', -, -, hh, -⟩ := h _ hes 1 _ hsup hlen'
    obtain rfl : m = 0 := by omega
    rw [hcalls] at hc'
    obtain rfl := Option.some.inj hc'
    rw [← hh]
  · intro h es hes n c hsup hlen
    have hs : fl.Sound frames (fl.run S es) := run_sound hR fun e he => ⟨(hes e he).1, (hes e he).2.2⟩
    obtain ⟨hc, hg⟩ := hs.inv.suppressed_iff.mp hsup
    obtain ⟨m, c', hmn, hheld⟩ := hs.ledger.held n c hc hg
    have hlen' : 56 ≤ c'.raw.length := hheld.long hs.inv
    have hseq := (buildDedupKey_eq_iff hlen' hlen).mp hheld.key_eq
    have hhash := h _ (hs.fromFrames m c' hheld.call) _ (hs.fromFrames n c hc) hlen' hlen hseq
    refine ⟨m, c', hmn, hheld.call, hheld.not_dropped, hlen', ?_, hheld.recent⟩
    exact Header.ext hhash hseq

/-- In `reclaim` the call that is held back is the second, and the first is for its frame. -/
theorem suppressed_same_identity_in_reclaim :
    ∃ m c', m < 1 ∧ (pair.run oneGroup reclaim).calls[m]? = some c' ∧ c'.gate ≠ .dropped ∧ 56 ≤ c'.raw.length ∧
      headerAt c'.raw = headerAt (wireFrame 1 1) ∧ 5 * millisecond < c'.time + pair.window := by
  refine (suppressed_same_identity_iff pair oneGroup claimsFor_pair {wireFrame 1 1}).mpr ?_ reclaim ?_ 1
    ⟨true, wireFrame 1 1, [], 5 * millisecond, .dropped⟩ ?_ (by decide)
  · rintro raw rfl raw' rfl - - -
    rfl
  · simp [reclaim, FleetEvent.Clean, FleetEvent.WritesOk, FleetEvent.Of]
  · exact ⟨by decide, ⟨none, [], [.retransmitDedup]⟩, by decide, rfl, by decide⟩

/-- One endpoint sends frame 1 of a flow, and then the other is asked for frame 1 of another
flow. -/
def twoFlows : List (FleetEvent Bool) :=
  [.gate false (wireFrame 1 1) [] 0 none, .egress 0 [ascii ['e']] fun _ => none,
    .gate true (wireFrame 2 1) [] millisecond none]

/-- The second frame is held back, and the only call before it is for another flow. -/
theorem suppressed_by_other_flow :
    pair.Suppressed (pair.run oneGroup twoFlows) 1 ⟨true, wireFrame 2 1, [], millisecond, .dropped⟩ ∧
      (pair.run oneGroup twoFlows).calls[0]? = some ⟨false, wireFrame 1 1, [], 0, .claimed⟩ ∧
      headerAt (wireFrame 1 1) ≠ headerAt (wireFrame 2 1) :=
  ⟨⟨by decide, ⟨none, [], [.retransmitDedup]⟩, by decide, rfl, by decide⟩, by decide, by decide⟩

/-! ### What nil means -/

section

variable {fl S}

/-- The frames with a key have different `SeqNum`s. -/
def Distinct (frames : Set Bytes) : Prop :=
  ∀ raw ∈ frames, ∀ raw' ∈ frames, 56 ≤ raw.length → 56 ≤ raw'.length →
    (headerAt raw).seqNum = (headerAt raw').seqNum → raw = raw'

/-- The frame of the call `c` was sent by the `m`-th call, which holds its key. -/
structure SentBy (fl : Fleet ι) (s : FleetState ι) (c : Call ι) (m : ℕ) (c' : Call ι) : Prop where
  /-- It holds the key. -/
  held : fl.HeldBy s c.raw c.time m c'
  /-- It was for the same frame. -/
  raw_eq : c'.raw = c.raw
  /-- It has written the frame to all egress interfaces. -/
  wrote : ∃ res, s.result m = some res ∧ res.err = none ∧ (fl.inst c'.inst).WroteAll res c'.raw

/-- Every call that has returned nil has the frame on all egress interfaces of an instance:
its own, or that of an earlier call which holds the key. -/
def Backed (fl : Fleet ι) (s : FleetState ι) : Prop :=
  ∀ (n : ℕ) (c : Call ι) res, s.calls[n]? = some c → s.result n = some res → res.err = none →
    (fl.inst c.inst).WroteAll res c.raw ∨ ∃ m c', m < n ∧ fl.SentBy s c m c'

/-- The last call that claimed the frame. -/
def LastClaim (s : FleetState ι) (raw : Bytes) (m : ℕ) (c : Call ι) : Prop :=
  s.calls[m]? = some c ∧ c.gate = .claimed ∧ c.raw = raw ∧
    ∀ (k : ℕ) (c' : Call ι), m < k → s.calls[k]? = some c' → c'.raw = raw → c'.gate ≠ .claimed

/-- If the event is a call for a frame and the last attempt to write the frame has failed,
the gate lets the call through. -/
def Retried (fl : Fleet ι) (s : FleetState ι) : FleetEvent ι → Prop
  | .gate i raw _ now fault => ∀ m c res, LastClaim s raw m c → s.result m = some res → res.err ≠ none →
      ((fl.inst i).gate raw now fault s.redis).1 ≠ .dropped
  | _ => True

/-- If the event is a call for a frame, the call that holds the key has written the frame. -/
def Settled (fl : Fleet ι) (s : FleetState ι) : FleetEvent ι → Prop
  | .gate _ raw _ now _ => ∀ m c, fl.HeldBy s raw now m c → ∃ res, s.result m = some res ∧ res.err = none
  | _ => True

/-- If the event is a call, it is not before the calls so far. -/
def Ordered (s : FleetState ι) : FleetEvent ι → Prop
  | .gate _ _ _ now _ => ∀ (m : ℕ) (c : Call ι), s.calls[m]? = some c → c.time ≤ now
  | _ => True

/-- Who holds a frame's key has claimed that frame. -/
theorem HeldBy.raw_eq {frames : Set Bytes} (hd : Distinct frames) {s : FleetState ι} (hs : fl.Sound frames s)
    {raw : Bytes} (hraw : raw ∈ frames) (hlen : 56 ≤ raw.length) {now : Time} {m : ℕ} {c : Call ι}
    (h : fl.HeldBy s raw now m c) : c.raw = raw := by
  have hlen' : 56 ≤ c.raw.length := h.long hs.inv
  have hseq := (buildDedupKey_eq_iff hlen' hlen).mp h.key_eq
  exact hd _ (hs.fromFrames m c h.call) _ hraw hlen' hlen hseq

/-- Only the calls that the gate has dropped need another call to back them. -/
theorem Inv.backed_iff {s : FleetState ι} (h : fl.Inv s) :
    fl.Backed s ↔ ∀ (n : ℕ) (c : Call ι), s.calls[n]? = some c → c.gate = .dropped →
      ∃ m c', m < n ∧ fl.SentBy s c m c' := by
  constructor
  · intro hb n c hc hg
    refine (hb n c _ hc (h.dropped n c hc hg) rfl).resolve_left ?_
    exact Retransmitter.not_wroteAll_dropResult (fl.sockets_ne _) _
  · intro hb n c res hc hr herr
    by_cases hg : c.gate = .dropped
    · exact .inr (hb n c hc hg)
    · exact .inl (h.written n c res hc hg hr herr)

/-- Calls stay. -/
theorem calls_step {s : FleetState ι} {m : ℕ} {c : Call ι} (hc : s.calls[m]? = some c) (e : FleetEvent ι) :
    (fl.step S s e).calls[m]? = some c := by
  cases e with
  | gate => exact getElem?_snoc_eq_some_iff.mpr (.inl hc)
  | egress => simpa only [Fleet.step, stepEgress_calls] using hc
  | store => exact hc

/-- Results stay. -/
theorem result_step {s : FleetState ι} {m : ℕ} {c : Call ι} (hc : s.calls[m]? = some c) {res : Result}
    (hr : s.result m = some res) (e : FleetEvent ι) : (fl.step S s e).result m = some res := by
  cases e with
  | gate => rw [Fleet.step, result_stepGate_of_lt (lt_length_of_getElem? hc), hr]
  | egress n order write =>
    rw [Fleet.step]
    rcases stepEgress_cases fl S s n order write with he | ⟨c', -, hn, -, he⟩
    · rw [he, hr]
    · have hmn : m ≠ n := by
        rintro rfl
        rw [hr] at hn
        cases hn
      simp only [he, Function.update_of_ne hmn, hr]
  | store => exact hr

theorem SentBy.step {s : FleetState ι} {c c' : Call ι} {m : ℕ} (h : fl.SentBy s c m c') (e : FleetEvent ι) :
    fl.SentBy (fl.step S s e) c m c' := by
  obtain ⟨res, hr, herr, hw⟩ := h.wrote
  exact ⟨⟨calls_step h.held.call e, h.held.claimed, h.held.key_eq, h.held.recent⟩, h.raw_eq,
    res, result_step h.held.call hr e, herr, hw⟩

/-- A call that finds the key held by a call that has written the frame is backed by it. -/
theorem Backed.step (hR : fl.cache.client.ClaimsFor fl.window) {frames : Set Bytes} (hd : Distinct frames)
    {s : FleetState ι} (hb : fl.Backed s) (h : fl.Sound frames s) {e : FleetEvent ι} (hc : e.Clean)
    (he : e.Of frames) (hs : fl.Settled s e) : fl.Backed (fl.step S s e) := by
  have hb := h.inv.backed_iff.mp hb
  refine (h.inv.step e).backed_iff.mpr fun n c hn hg => ?_
  have hold : s.calls[n]? = some c → ∃ m c', m < n ∧ fl.SentBy (fl.step S s e) c m c' := by
    intro hn
    obtain ⟨m, c', hmn, hsent⟩ := hb n c hn hg
    exact ⟨m, c', hmn, hsent.step e⟩
  cases e with
  | egress => exact hold (by simpa only [Fleet.step, stepEgress_calls] using hn)
  | store => exact hold hn
  | gate i raw txID now fault =>
    rcases getElem?_snoc_eq_some_iff.mp hn with hn | ⟨rfl, rfl⟩
    · exact hold hn
    have hlen : 56 ≤ raw.length := (h.inv.step (.gate i raw txID now fault)).long hn (by rw [hg]; decide)
    obtain ⟨m, c', hheld⟩ := (h.ledger.gate_dropped_iff hR hlen i txID (Covered.of_clean hc)).mp hg
    obtain ⟨res, hr, herr⟩ := hs m c' hheld
    have hw := h.inv.written m c' res hheld.call hheld.not_dropped hr herr
    have hraw := hheld.raw_eq hd h he hlen
    exact ⟨m, c', lt_length_of_getElem? hheld.call, SentBy.step ⟨hheld, hraw, res, hr, herr, hw⟩ _⟩

/-- If the call that holds the key has written the frame, the last attempt has not failed. -/
theorem Settled.retried (hR : fl.cache.client.ClaimsFor fl.window) {frames : Set Bytes} (hd : Distinct frames)
    {s : FleetState ι} {e : FleetEvent ι} (hs : fl.Settled s e) (h : fl.Sound frames s) (hc : e.Clean)
    (he : e.Of frames) : fl.Retried s e := by
  cases e with
  | egress => trivial
  | store => trivial
  | gate i raw txID now fault =>
    rintro m c res ⟨hm, hcl, rfl, hlast⟩ hr herr hg
    have hlen : 56 ≤ c.raw.length := h.inv.long hm (by rw [hcl]; decide)
    obtain ⟨m', c', hheld⟩ := (h.ledger.gate_dropped_iff hR hlen i txID (Covered.of_clean hc)).mp hg
    have hraw := hheld.raw_eq hd h he hlen
    -- the last claim is the one that holds the key, or later
    have hrecent : now < c.time + fl.window := by
      rcases Nat.lt_trichotomy m' m with hlt | rfl | hlt
      · have hapart := h.ledger.booked.claims_apart hR.atLeast hlt hheld.call hm hheld.claimed hcl hheld.key_eq
        exact (hheld.recent.trans_le hapart).trans (lt_add_of_pos_right _ fl.window_pos)
      · obtain rfl : c = c' := by simpa [hm] using hheld.call
        exact hheld.recent
      · exact absurd hheld.claimed (hlast m' c' hlt hheld.call hraw)
    obtain ⟨res', hr', herr'⟩ := hs m c ⟨hm, hcl, rfl, hrecent⟩
    rw [hr] at hr'
    cases hr'
    exact herr herr'

/-- The other way round: if the calls are backed and the clock does not run back, the call
that backs a new one is the one that holds its key. -/
theorem Backed.settled (hR : fl.cache.client.ClaimsFor fl.window) {frames : Set Bytes}
    (hlong : ∀ raw ∈ frames, 56 ≤ raw.length) {s : FleetState ι} {e : FleetEvent ι} (hb : fl.Backed (fl.step S s e))
    (h : fl.Sound frames s) (hc : e.Clean) (he : e.Of frames) (ho : Ordered s e) : fl.Settled s e := by
  cases e with
  | egress => trivial
  | store => trivial
  | gate i raw txID now fault =>
    intro m c hheld
    have hg := (h.ledger.gate_dropped_iff hR (hlong raw he) i txID (Covered.of_clean hc)).mpr ⟨m, c, hheld⟩
    have hn : (fl.step S s (.gate i raw txID now fault)).calls[s.calls.length]? =
        some ⟨i, raw, txID, now, .dropped⟩ := by
      rw [Fleet.step, calls_stepGate_length, hg]
    obtain ⟨m', c', hlt, hsent⟩ := (h.inv.step _).backed_iff.mp hb _ _ hn rfl
    have hheld' : fl.HeldBy s raw now m' c' := hsent.held.of_stepGate hlt
    obtain rfl := h.ledger.booked.heldBy_unique hR.atLeast hheld hheld' (ho m c hheld.call) (ho m' c' hheld'.call)
    obtain ⟨res, hr, herr, -⟩ := hsent.wrote
    rw [Fleet.step, result_stepGate_of_lt hlt] at hr
    exact ⟨res, hr, herr⟩

end

/-- **What nil means.** Take a run, without faults of `SET NX`, of calls for frames that have
different `SeqNum`s. If each call finds the key free, or held by a call that has written the
frame, then at every point of the run a nil stands for a frame that was written to all
egress interfaces of an instance, and a call after a failed attempt tries again. If the
clock does not run back, these are the only such runs. Redis is assumed to keep a claim for the window. -/
theorem nil_means_sent (hR : fl.cache.client.ClaimsFor fl.window) (frames : Set Bytes)
    (hlong : ∀ raw ∈ frames, 56 ≤ raw.length) (hd : Distinct frames) (es : List (FleetEvent ι))
    (hes : ∀ e ∈ es, e.Clean ∧ e.Of frames) :
    (Along (fl.step S) .start fl.Settled es →
      Along (fl.step S) .start (fun s e => fl.Backed (fl.step S s e) ∧ fl.Retried s e) es) ∧
    (Along (fl.step S) .start Ordered es →
      Along (fl.step S) .start (fun s e => fl.Backed (fl.step S s e) ∧ fl.Retried s e) es →
      Along (fl.step S) .start fl.Settled es) := by
  constructor
  · intro hs
    have h := (hs.and (along_of_forall hes)).invariant_along (I := fun s => fl.Sound frames s ∧ fl.Backed s)
      ⟨sound_start frames, fun n c res hc => by simp [FleetState.start] at hc⟩
      fun s e ⟨h, hb⟩ ⟨hs, hc, he⟩ => ⟨h.step hR ⟨.of_clean hc, he⟩, hb.step hR hd h hc he hs⟩
    refine h.mono ?_
    rintro s e ⟨⟨h, -⟩, ⟨hs, hc, he⟩, -, hb⟩
    exact ⟨hb, hs.retried hR hd h hc he⟩
  · intro ho hb
    have hes' : Along (fl.step S) .start (fun _ e => e.Clean ∧ e.Of frames) es := along_of_forall hes
    have h := hes'.invariant_along (sound_start frames) fun s e h he => h.step hR ⟨.of_clean he.1, he.2⟩
    refine ((h.and ho).and hb).mono ?_
    rintro s e ⟨⟨⟨h, ⟨hc, he⟩, -⟩, ho⟩, hb, -⟩
    exact hb.settled hR hlong h hc he ho

/-- One endpoint sends the frame, and then the other is held back. -/
def sentThenHeld : List (FleetEvent Bool) :=
  [.gate false (wireFrame 1 1) [] 0 none, .egress 0 [ascii ['e']] fun _ => none,
    .gate true (wireFrame 1 1) [] millisecond none]

theorem nil_means_sent_in_sentThenHeld :
    Along (pair.step oneGroup) .start (fun s e => pair.Backed (pair.step oneGroup s e) ∧ pair.Retried s e)
      sentThenHeld := by
  refine (nil_means_sent pair oneGroup claimsFor_pair {wireFrame 1 1} (by rintro raw rfl; decide)
    (by rintro raw rfl raw' rfl - - -; rfl) sentThenHeld (by simp [sentThenHeld, FleetEvent.Clean, FleetEvent.Of])).1 ?_
  refine along_cons_iff.mpr ⟨fun m c hheld => ?_, along_cons_iff.mpr ⟨trivial, along_cons_iff.mpr
    ⟨fun m c hheld => ?_, along_nil⟩⟩⟩
  · simpa [FleetState.start] using hheld.call
  · obtain rfl : m = 0 := Nat.lt_one_iff.mp (lt_length_of_getElem? hheld.call)
    exact ⟨⟨none, [⟨ascii ['e'], ⟨[], 9001⟩, wireFrame 1 1⟩], []⟩, by decide, rfl⟩

/-- The write of one endpoint fails, and then the other is asked for the frame. -/
def failedWrite : List (FleetEvent Bool) :=
  [.gate false (wireFrame 1 1) [] 0 none, .egress 0 [ascii ['e']] fun _ => some "network is down",
    .gate true (wireFrame 1 1) [] millisecond none]

/-- The first call returns the error; the second returns nil, and nothing was written. -/
theorem failed_write_burns :
    (pair.run oneGroup failedWrite).calls =
        [⟨false, wireFrame 1 1, [], 0, .claimed⟩, ⟨true, wireFrame 1 1, [], millisecond, .dropped⟩] ∧
      (pair.run oneGroup failedWrite).result 0 = some ⟨some "network is down", [], [.cacheError]⟩ ∧
      (pair.run oneGroup failedWrite).result 1 = some ⟨none, [], [.retransmitDedup]⟩ := by
  decide

/-! ### An outage of the Redis -/

section

variable {fl S}

/-- Every call that has returned has written the frame to all egress interfaces, or has
returned an error, or its key is held by an earlier call. -/
def Accounted (fl : Fleet ι) (s : FleetState ι) : Prop :=
  ∀ (n : ℕ) (c : Call ι) res, s.calls[n]? = some c → s.result n = some res →
    (fl.inst c.inst).WroteAll res c.raw ∨ res.err ≠ none ∨ ∃ m c', m < n ∧ fl.HeldBy s c.raw c.time m c'

/-- Some `processNACK` that has made the call sends an ACK for it. -/
def Acknowledged (c : Call ι) (res : Result) : Prop :=
  ∃ (srv : NackServer.Server) (src : Option UDPAddr) (seqNum : UInt64) (sendErr : Bool),
    (srv.afterRetransmit (some ⟨c.raw, c.txID, res.err⟩) src seqNum sendErr).1 ≠ []

/-- A frame with a key that is acknowledged, or counted as dropped by the dedup check, was
claimed less than a window before, or by this call. -/
def Honest (fl : Fleet ι) (s : FleetState ι) : Prop :=
  ∀ (n : ℕ) (c : Call ι) res, s.calls[n]? = some c → s.result n = some res → 56 ≤ c.raw.length →
    Acknowledged c res ∨ .retransmitDedup ∈ res.counted →
      ∃ m c', m ≤ n ∧ fl.HeldBy s c.raw c.time m c' ∧ c'.raw = c.raw

/-- With the books in order, every call is accounted for. -/
theorem Ledger.accounted {s : FleetState ι} (hl : fl.Ledger s) (hi : fl.Inv s) : fl.Accounted s := by
  intro n c res hc hr
  by_cases hg : c.gate = .dropped
  · exact .inr (.inr (hl.held n c hc hg))
  · by_cases herr : res.err = none
    · exact .inl (hi.written n c res hc hg hr herr)
    · exact .inr (.inl herr)

theorem Sound.honest {frames : Set Bytes} (hd : Distinct frames) {s : FleetState ι} (h : fl.Sound frames s) :
    fl.Honest s := by
  intro n c res hc _ hlen _
  by_cases hg : c.gate = .dropped
  · obtain ⟨m, c', hmn, hheld⟩ := h.ledger.held n c hc hg
    exact ⟨m, c', hmn.le, hheld, hheld.raw_eq hd h (h.fromFrames n c hc) hlen⟩
  · exact ⟨n, c, le_rfl, ⟨hc, h.inv.claimed hc hlen hg, rfl, lt_add_of_pos_right _ fl.window_pos⟩, rfl⟩

/-- A failing `SET NX` where the key is not held drops a call that nothing accounts for. -/
theorem Accounted.covered {s : FleetState ι} (hi : fl.Inv s) {e : FleetEvent ι}
    (ha : fl.Accounted (fl.step S s e)) : fl.Covered s e := by
  cases e with
  | egress => trivial
  | store => trivial
  | gate i raw txID now fault =>
    cases fault with
    | none => trivial
    | some f =>
      intro hlen
      have hn : (fl.step S s (.gate i raw txID now (some f))).calls[s.calls.length]? =
          some ⟨i, raw, txID, now, .dropped⟩ := by rw [Fleet.step, calls_stepGate_length, gate_of_fault hlen]
      have hr := (hi.step _).dropped _ _ hn rfl
      rcases ha _ _ _ hn hr with hw | herr | ⟨m, c', hlt, hheld⟩
      · exact absurd hw (Retransmitter.not_wroteAll_dropResult (fl.sockets_ne _) _)
      · exact absurd rfl herr
      · exact ⟨m, c', hheld.of_stepGate hlt⟩

end

/-- **What an outage does.** For any faults of `SET NX`: every call of a run is accounted for
exactly when `SET NX` fails only where the key is held, so that the frame would have been
dropped anyway. In such a run, if the frames have different `SeqNum`s, no ACK is sent and no
drop is counted for a frame that was not claimed in the window. Redis is assumed to keep a claim for the window. -/
theorem outage_accounted_iff (hR : fl.cache.client.ClaimsFor fl.window) (es : List (FleetEvent ι)) :
    (Along (fl.step S) .start (fun s e => fl.Accounted (fl.step S s e)) es ↔
      Along (fl.step S) .start fl.Covered es) ∧
    (Along (fl.step S) .start fl.Covered es → ∀ frames : Set Bytes, Distinct frames →
      (∀ e ∈ es, e.Of frames) → Along (fl.step S) .start (fun s e => fl.Honest (fl.step S s e)) es) := by
  have hsound : Along (fl.step S) .start fl.Covered es → ∀ frames : Set Bytes, (∀ e ∈ es, e.Of frames) →
      Along (fl.step S) .start (fun s e => fl.Sound frames (fl.step S s e)) es := by
    intro h frames hof
    have hs := (h.and (along_of_forall hof)).invariant_along (sound_start frames) fun s e hs he => hs.step hR he
    exact hs.mono fun s e hs => hs.2.2
  refine ⟨⟨fun h pre e post hes => ?_, fun h => ?_⟩, fun h frames hd hof => ?_⟩
  · exact (h pre e post hes).covered (run_inv fl S pre)
  · exact (hsound h Set.univ fun e _ => e.of_univ).mono fun s e hs => hs.ledger.accounted hs.inv
  · exact (hsound h frames hof).mono fun s e hs => hs.honest hd

/-- The Redis is not reached when the frame is asked for a second time. -/
def lateOutage : List (FleetEvent Bool) :=
  [.gate false (wireFrame 1 1) [] 0 none,
    .gate true (wireFrame 1 1) [] millisecond (some ⟨"connection refused", false⟩)]

theorem lateOutage_accounted :
    Along (pair.step oneGroup) .start (fun s e => pair.Accounted (pair.step oneGroup s e)) lateOutage := by
  refine (outage_accounted_iff pair oneGroup claimsFor_pair lateOutage).1.mpr ?_
  refine along_cons_iff.mpr ⟨trivial, along_cons_iff.mpr ⟨fun _ => ?_, along_nil⟩⟩
  exact ⟨0, ⟨false, wireFrame 1 1, [], 0, .claimed⟩, by decide, rfl, rfl, by decide⟩

/-- The Redis is not reached when the frame is asked for. -/
def outage : List (FleetEvent Bool) := [.gate false (wireFrame 1 1) [] 0 (some ⟨"connection refused", false⟩)]

/-- The only call returns nil with nothing written and counts a drop, no call has claimed
the frame, and the listener gets an ACK. -/
theorem outage_drops :
    (pair.run oneGroup outage).calls = [⟨false, wireFrame 1 1, [], 0, .dropped⟩] ∧
      (pair.run oneGroup outage).result 0 = some ⟨none, [], [.retransmitDedup]⟩ ∧
      (NackServer.Server.afterRetransmit ⟨false, false, none, true⟩ (some ⟨wireFrame 1 1, [], none⟩)
        (some ⟨[], 9⟩) 1 false).1 = [⟨⟨[], 9⟩, NackServer.response NackServer.msgTypeACK 1 1⟩] := by
  decide

end RetryEndpoint.Retransmit.Fleet
