import RetryEndpoint.Theory.Runs
import RetryEndpoint.Wiring

/-!
# The accounts of the retransmits

The NACK server counts hits, throttled requests and retransmits, and the retransmitter
counts what its dedup check drops. The two meet only in the error that `Retransmit` returns:
nil when the frame was sent, and nil when it was dropped.

## The model

A run is a list of calls of `processNACK` on an endpoint as `run` builds it, with a Redis for
claims or without. What the lookup finds, what is in the Redis when the call gets there,
whether `SET NX` fails, and what the writes return may be anything, and different from call to
call. The state keeps what was counted, and each `Retransmit` with its result.

## What is proved

* `accounts_run` — in every run a hit is throttled, fails or is counted as a retransmit, and
  a retransmit that is counted was either written to every socket or dropped as a duplicate.
* `balanced_iff` — so the documented balance, in which a duplicate is no retransmit, holds
  exactly in the runs in which no call of `Retransmit` finds its frame claimed or fails to
  claim it.
-/

namespace RetryEndpoint.Metrics

open Go Cache ShardCommon NackServer RateLimit Retransmit Theory

/-- A call of `processNACK`, and what it meets. -/
structure Call (r : Retransmitter) where
  /-- The datagram. -/
  datagram : Bytes
  /-- Where it comes from. -/
  src : Option UDPAddr
  /-- The clock. -/
  now : Time
  /-- Whether sending a response fails. -/
  sendErr : Bool
  /-- What the lookup returns. -/
  found : Except Err (Option Bytes)
  /-- The keyspace when the frame is claimed. -/
  redis : Redis
  /-- The failure of `SET NX`. -/
  fault : Option Fault
  /-- The order of the sockets. -/
  order : List Bytes
  /-- They are those of the retransmitter. -/
  perm : order.Perm r.sockets
  /-- What the writes return. -/
  write : Bytes → Option Err

/-- A call of `Retransmit`. -/
structure Attempt where
  /-- The frame. -/
  raw : Bytes
  /-- What the call left behind. -/
  result : Result

/-- The limiter, what was counted, and the calls of `Retransmit`. -/
structure Ledger (D : Deps) where
  /-- The limiter. -/
  limiter : Limiter D
  /-- What the server has counted. -/
  counted : List NackServer.Metric
  /-- The calls of `Retransmit`. -/
  attempts : List Attempt

section

variable {D : Deps} (cfg : Config) (S : ShardLib) (client : Option RedisCache)

/-- `Retransmit`, in a call. -/
def Call.result (c : Call (cfg.retransmitter client)) (raw : Bytes) : Result :=
  ((cfg.retransmitter client).retransmit S raw (frameTxID raw) c.now c.fault c.order c.write c.redis).1

/-- The cache and the retransmitter, in a call. -/
def Call.backend (c : Call (cfg.retransmitter client)) : Backend (List Attempt) where
  cache := ⟨fun _ _ _ _ attempts => (none, attempts), fun _ _ _ => c.found⟩
  retransmit raw txID now attempts :=
    let res := (cfg.retransmitter client).retransmit S raw txID now c.fault c.order c.write c.redis
    (res.1.err, attempts ++ [⟨raw, res.1⟩])

/-- One call. -/
def Ledger.step (s : Ledger D) (c : Call (cfg.retransmitter client)) : Ledger D :=
  let res := cfg.server.processNACK S (c.backend cfg S client) c.datagram c.src c.now c.sendErr s.limiter s.attempts
  ⟨res.2.1, s.counted ++ res.1.counted, res.2.2⟩

/-- A run. -/
def ledgerAfter (l : Limiter D) (calls : List (Call (cfg.retransmitter client))) : Ledger D :=
  runFrom (Ledger.step cfg S client) ⟨l, [], []⟩ calls

end

/-! ### The accounts -/

namespace Ledger

variable {D : Deps} (s : Ledger D)

/-- `bre_cache_hits_total`. -/
def cacheHits : ℕ := s.counted.count .cacheHit

/-- `bre_retransmits_total`. -/
def retransmits : ℕ := s.counted.count .retransmit

/-- `bre_rate_limit_drops_total` at the group tier. -/
def groupDrops : ℕ := s.counted.count (.rateLimitDrop .group)

/-- `bre_retransmit_dedup_total`. -/
def dedups : ℕ := (s.attempts.flatMap fun a => a.result.counted).count .retransmitDedup

/-- The calls of `Retransmit` that returned an error. -/
def errors : ℕ := s.attempts.countP fun a => a.result.err.isSome

/-- The calls of `Retransmit` that wrote the frame to every egress socket. -/
def written (r : Retransmitter) : ℕ := s.attempts.countP fun a => r.WroteAll a.result a.raw

/-- **The documented balance**: a retransmit was written to every socket, and a hit is a
retransmit, a duplicate, a throttled request or an error. -/
def Balanced (r : Retransmitter) : Prop :=
  s.retransmits = s.written r ∧ s.cacheHits = s.retransmits + s.dedups + s.groupDrops + s.errors

instance (r : Retransmitter) : Decidable (s.Balanced r) :=
  inferInstanceAs (Decidable (s.retransmits = s.written r ∧
    s.cacheHits = s.retransmits + s.dedups + s.groupDrops + s.errors))

/-- What is the case: a duplicate is counted as a retransmit too. -/
structure Accounts (r : Retransmitter) : Prop where
  /-- A retransmit was written or is a duplicate. -/
  retransmits : s.retransmits = s.written r + s.dedups
  /-- A hit is a retransmit, a throttled request or an error. -/
  hits : s.cacheHits = s.retransmits + s.groupDrops + s.errors

end Ledger

/-! ### One call -/

/-- The counts that the accounts are about. -/
def onAccount (m : NackServer.Metric) : Prop := m = .cacheHit ∨ m = .retransmit ∨ m = .rateLimitDrop .group

instance (m : NackServer.Metric) : Decidable (onAccount m) :=
  inferInstanceAs (Decidable (m = .cacheHit ∨ m = .retransmit ∨ m = .rateLimitDrop .group))

theorem count_eq_zero {ms : List NackServer.Metric} (h : ∀ m ∈ ms, ¬ onAccount m) :
    ms.count .cacheHit = 0 ∧ ms.count .retransmit = 0 ∧ ms.count (.rateLimitDrop .group) = 0 := by
  refine ⟨List.count_eq_zero.mpr fun hm => h _ hm ?_, List.count_eq_zero.mpr fun hm => h _ hm ?_,
    List.count_eq_zero.mpr fun hm => h _ hm ?_⟩ <;> decide

/-- Responses are counted otherwise, if they are sent at all. -/
theorem not_onAccount_sendResponse (suppress : Bool) (dst : UDPAddr) (msgType flags : UInt8) (seqNum : UInt64)
    (sendErr : Bool) :
    ∀ m ∈ (if suppress then ([], []) else sendResponse dst msgType flags seqNum sendErr).2, ¬ onAccount m := by
  split_ifs
  · simp
  · cases sendErr <;> simp [sendResponse, onAccount]

theorem not_onAccount_replyMISS (srv : Server) (src : Option UDPAddr) (sendErr : Bool) :
    ∀ m ∈ (srv.replyMISS src sendErr).2, ¬ onAccount m := by
  cases src with
  | none => simp [Server.replyMISS]
  | some dst => exact not_onAccount_sendResponse _ _ _ _ _ _

theorem not_onAccount_replyACK (srv : Server) (src : Option UDPAddr) (seqNum : UInt64) (sendErr : Bool) :
    ∀ m ∈ (srv.replyACK src seqNum sendErr).2, ¬ onAccount m := by
  cases src with
  | none => simp [Server.replyACK]
  | some dst => exact not_onAccount_sendResponse _ _ _ _ _ _

/-- The tiers before the lookup are not the group tier. -/
theorem preLookup_ne_group {D : Deps} {l l' : Limiter D} {ip : Bytes} {q : Nack} {now : Time} {level : Level}
    (h : preLookup l ip q now = (some level, l')) : level ≠ .group := by
  rintro rfl
  unfold preLookup Limiter.allow at h
  dsimp only at h
  split_ifs at h <;> simp at h
  split_ifs at h <;> simp at h

section

variable {D : Deps} {cfg : Config} {S : ShardLib} {client : Option RedisCache}

variable (cfg S client) in
/-- The call gets as far as `Retransmit`, for the frame `raw`. -/
def Ledger.Reaches (s : Ledger D) (c : Call (cfg.retransmitter client)) (raw : Bytes) : Prop :=
  Valid c.datagram ∧ c.found = .ok (some raw) ∧
    ∃ l, preLookup s.limiter (srcIP c.src) (readNACK c.datagram) c.now = (none, l) ∧
      (cfg.server.throttleGroup S l (srcIP c.src) (frameTxID raw) c.now).1 = false

/-- What a call adds to the accounts. -/
inductive Ledger.Adds (s : Ledger D) (c : Call (cfg.retransmitter client)) (ms : List NackServer.Metric) :
    List Attempt → Prop where
  /-- It is no hit. -/
  | noHit (h : ∀ m ∈ ms, ¬ onAccount m) (hr : ∀ raw, ¬ s.Reaches cfg S client c raw) : Adds s c ms []
  /-- It is a hit that is throttled. -/
  | throttled (h : ms.count .cacheHit = 1) (hr : ms.count .retransmit = 0) (hg : ms.count (.rateLimitDrop .group) = 1)
      (hn : ∀ raw, ¬ s.Reaches cfg S client c raw) : Adds s c ms []
  /-- It is a hit for which `Retransmit` is called. -/
  | called (raw : Bytes) (h : ms.count .cacheHit = 1)
      (hr : ms.count .retransmit = if (c.result cfg S client raw).err = none then 1 else 0)
      (hg : ms.count (.rateLimitDrop .group) = 0) (hreach : ∀ raw', s.Reaches cfg S client c raw' ↔ raw' = raw) :
      Adds s c ms [⟨raw, c.result cfg S client raw⟩]

theorem outcome_counted (path : Path) (replies : List Reply) (ms : List NackServer.Metric) :
    (cfg.server.outcome path replies ms).counted = ms := rfl

section Lookup

variable {c : Call (cfg.retransmitter client)} {q : Nack} {l : Limiter D} {attempts : List Attempt}

theorem lookup_of_error {e : Err} (h : c.found = .error e) :
    cfg.server.lookup S (c.backend cfg S client) q c.src c.now c.sendErr l attempts =
      (cfg.server.outcome (.cacheError e) [] [.nackRequest, .cacheError], l, attempts) := by
  simp only [Server.lookup, Call.backend, h]

theorem lookup_of_none (h : c.found = .ok none) :
    cfg.server.lookup S (c.backend cfg S client) q c.src c.now c.sendErr l attempts =
      (cfg.server.outcome .miss (cfg.server.replyMISS c.src c.sendErr).1
        ([.nackRequest, .cacheMiss] ++ (cfg.server.replyMISS c.src c.sendErr).2), l, attempts) := by
  simp only [Server.lookup, Call.backend, h]

theorem lookup_of_some {raw : Bytes} (h : c.found = .ok (some raw)) :
    cfg.server.lookup S (c.backend cfg S client) q c.src c.now c.sendErr l attempts =
      cfg.server.serve S (c.backend cfg S client) raw c.src q.startSeq c.now c.sendErr l attempts := by
  simp only [Server.lookup, Call.backend, h]

theorem processNACK_of_not_valid (h : ¬ Valid c.datagram) :
    ∃ path, cfg.server.processNACK S (c.backend cfg S client) c.datagram c.src c.now c.sendErr l attempts =
      (cfg.server.outcome path [] [.nackRequest], l, attempts) := by
  unfold Server.processNACK
  split
  · exact ⟨_, rfl⟩
  next hval =>
    have hsingle : (readNACK c.datagram).endSeq ≠ (readNACK c.datagram).startSeq := fun hs => h ⟨hval, hs⟩
    exact ⟨.range, by simp only [hsingle, ne_eq, not_false_eq_true, if_true]⟩

end Lookup

/-- The handling of a hit is a throttled one or calls `Retransmit`. -/
theorem serve_adds {s : Ledger D} {c : Call (cfg.retransmitter client)} (hv : Valid c.datagram) {l : Limiter D}
    (hp : preLookup s.limiter (srcIP c.src) (readNACK c.datagram) c.now = (none, l)) {raw : Bytes}
    (hf : c.found = .ok (some raw)) (seqNum : UInt64) :
    ∃ new, (cfg.server.serve S (c.backend cfg S client) raw c.src seqNum c.now c.sendErr l s.attempts).2.2 =
        s.attempts ++ new ∧
      s.Adds (S := S) c
        (cfg.server.serve S (c.backend cfg S client) raw c.src seqNum c.now c.sendErr l s.attempts).1.counted new := by
  have hreach : ∀ raw', s.Reaches cfg S client c raw' ↔
      raw' = raw ∧ (cfg.server.throttleGroup S l (srcIP c.src) (frameTxID raw) c.now).1 = false := by
    intro raw'
    constructor
    · rintro ⟨-, hf', l', hp', ht⟩
      obtain rfl : raw = raw' := by simpa [hf] using hf'
      obtain rfl : l = l' := by simpa [hp] using hp'
      exact ⟨rfl, ht⟩
    · rintro ⟨rfl, ht⟩
      exact ⟨hv, hf, l, hp, ht⟩
  obtain ⟨hh, hr, hg⟩ := count_eq_zero (not_onAccount_replyACK cfg.server c.src seqNum c.sendErr)
  cases ht : (cfg.server.throttleGroup S l (srcIP c.src) (frameTxID raw) c.now).1 with
  | true =>
    rw [Server.serve_of_throttled ht]
    refine ⟨[], (List.append_nil _).symm, .throttled ?_ ?_ ?_ fun raw' h => ?_⟩
    · simp [outcome_counted, hh]
    · simp [outcome_counted, hr]
    · simp [outcome_counted, hg]
    · simp [hreach, ht] at h
  | false =>
    rw [Server.serve_of_passed ht]
    refine ⟨[⟨raw, c.result cfg S client raw⟩], rfl, .called raw ?_ ?_ ?_ fun raw' => by simp [hreach, ht]⟩
    all_goals
      simp only [outcome_counted, Call.backend, Server.afterRetransmit, Call.result]
      split <;> simp_all

/-- **What a call adds to the accounts.** -/
theorem step_adds (s : Ledger D) (c : Call (cfg.retransmitter client)) :
    ∃ ms new, (s.step cfg S client c).counted = s.counted ++ ms ∧
      (s.step cfg S client c).attempts = s.attempts ++ new ∧ s.Adds (S := S) c ms new := by
  simp only [Ledger.step]
  by_cases hv : Valid c.datagram
  · rcases hp : preLookup s.limiter (srcIP c.src) (readNACK c.datagram) c.now with ⟨_ | level, l⟩
    · rw [Server.processNACK_of_admitted hv hp]
      cases hf : c.found with
      | error e =>
        rw [lookup_of_error hf]
        refine ⟨_, [], rfl, (List.append_nil _).symm, .noHit (by simp [outcome_counted, onAccount]) ?_⟩
        rintro raw ⟨-, hf', -⟩
        simp [hf] at hf'
      | ok found =>
        cases found with
        | none =>
          rw [lookup_of_none hf]
          refine ⟨_, [], rfl, (List.append_nil _).symm, .noHit ?_ ?_⟩
          · intro m hm
            rcases List.mem_append.mp hm with hm | hm
            · rcases (by simpa using hm : m = .nackRequest ∨ m = .cacheMiss) with rfl | rfl <;> decide
            · exact not_onAccount_replyMISS _ _ _ m hm
          · rintro raw ⟨-, hf', -⟩
            simp [hf] at hf'
        | some raw =>
          rw [lookup_of_some hf]
          obtain ⟨new, hnew, hadds⟩ := serve_adds hv hp hf (readNACK c.datagram).startSeq
          exact ⟨_, new, rfl, hnew, hadds⟩
    · rw [Server.processNACK_of_limited hv hp]
      refine ⟨_, [], rfl, (List.append_nil _).symm, .noHit ?_ ?_⟩
      · simp [outcome_counted, onAccount, preLookup_ne_group hp]
      · rintro raw ⟨-, -, l', hp', -⟩
        simp [hp] at hp'
  · obtain ⟨path, hpath⟩ := processNACK_of_not_valid (S := S) hv
    rw [hpath]
    exact ⟨_, [], rfl, (List.append_nil _).symm, .noHit (by simp [outcome_counted, onAccount]) fun raw h => hv h.1⟩

/-! ### The accounts of a run -/

/-- A call of `Retransmit` counts a duplicate exactly when the frame is not clear. -/
theorem dedup_result (c : Call (cfg.retransmitter client)) (raw : Bytes) :
    (c.result cfg S client raw).counted.count .retransmitDedup = 0 ↔
      (cfg.retransmitter client).Clear raw c.now c.fault c.redis := by
  rw [Call.result]
  by_cases hclear : (cfg.retransmitter client).Clear raw c.now c.fault c.redis
  · rw [Retransmitter.retransmit_of_clear hclear, Retransmitter.egress_counted]
    exact iff_of_true rfl hclear
  · rw [Retransmitter.retransmit_of_not_clear hclear]
    exact iff_of_false Nat.one_ne_zero hclear

/-- It returns nil when it has written the frame everywhere, and when it counts a duplicate. -/
theorem nil_result (hs : (cfg.retransmitter client).sockets ≠ []) (c : Call (cfg.retransmitter client)) (raw : Bytes) :
    (if (c.result cfg S client raw).err = none then 1 else 0) =
      (if (cfg.retransmitter client).WroteAll (c.result cfg S client raw) raw then 1 else 0) +
        (c.result cfg S client raw).counted.count .retransmitDedup := by
  rw [Call.result]
  by_cases hclear : (cfg.retransmitter client).Clear raw c.now c.fault c.redis
  · rw [Retransmitter.retransmit_of_clear hclear, Retransmitter.egress_counted]
    simp [Retransmitter.egress_wroteAll_iff c.perm]
  · rw [Retransmitter.retransmit_of_not_clear hclear]
    rw [if_neg (Retransmitter.not_wroteAll_dropResult hs raw)]
    rfl

/-- **A call keeps the accounts.** -/
theorem Ledger.Accounts.step (hs : (cfg.retransmitter client).sockets ≠ []) {s : Ledger D}
    (h : s.Accounts (cfg.retransmitter client)) (c : Call (cfg.retransmitter client)) :
    (s.step cfg S client c).Accounts (cfg.retransmitter client) := by
  obtain ⟨ms, new, hms, hnew, hadds⟩ := step_adds (S := S) s c
  obtain ⟨hr, hh⟩ := h
  simp only [Ledger.retransmits, Ledger.written, Ledger.dedups, Ledger.cacheHits, Ledger.groupDrops, Ledger.errors]
    at hr hh
  refine ⟨?_, ?_⟩ <;>
    simp only [Ledger.retransmits, Ledger.written, Ledger.dedups, Ledger.cacheHits, Ledger.groupDrops, Ledger.errors,
      hms, hnew, List.count_append, List.countP_append, List.flatMap_append]
  all_goals
    cases hadds with
    | noHit hno =>
      obtain ⟨h₁, h₂, h₃⟩ := count_eq_zero hno
      simp only [List.flatMap_nil, List.count_nil, List.countP_nil]
      omega
    | throttled h₁ h₂ h₃ =>
      simp only [List.flatMap_nil, List.count_nil, List.countP_nil]
      omega
    | called raw h₁ h₂ h₃ =>
      have hnil := nil_result (S := S) hs c raw
      simp only [List.flatMap_singleton, List.countP_singleton, decide_eq_true_eq]
      cases herr : (c.result cfg S client raw).err <;> simp [herr] at h₂ hnil ⊢ <;> omega

/-- **The accounts of every run**: a hit is throttled, fails or is counted as a retransmit, and a
retransmit was written everywhere or is a duplicate. -/
theorem accounts_run (hs : (cfg.retransmitter client).sockets ≠ []) (l : Limiter D)
    (calls : List (Call (cfg.retransmitter client))) :
    (ledgerAfter cfg S client l calls).Accounts (cfg.retransmitter client) :=
  runFrom_invariant (I := fun s : Ledger D => s.Accounts (cfg.retransmitter client)) ⟨rfl, rfl⟩
    (fun _ c h => h.step hs c) calls

variable (cfg S client) in
/-- If the call gets as far as `Retransmit`, the frame is clear. -/
def Ledger.FindsClear (s : Ledger D) (c : Call (cfg.retransmitter client)) : Prop :=
  ∀ raw, s.Reaches cfg S client c raw → (cfg.retransmitter client).Clear raw c.now c.fault c.redis

theorem dedups_step_eq_zero_iff (s : Ledger D) (c : Call (cfg.retransmitter client)) :
    (s.step cfg S client c).dedups = 0 ↔ s.dedups = 0 ∧ s.FindsClear cfg S client c := by
  obtain ⟨ms, new, -, hnew, hadds⟩ := step_adds (S := S) s c
  simp only [Ledger.dedups, hnew, List.flatMap_append, List.count_append, Nat.add_eq_zero_iff]
  refine and_congr_right fun _ => ?_
  cases hadds with
  | noHit _ hr => exact iff_of_true rfl fun raw h => absurd h (hr raw)
  | throttled _ _ _ hr => exact iff_of_true rfl fun raw h => absurd h (hr raw)
  | called raw _ _ _ hr =>
    rw [List.flatMap_singleton, dedup_result]
    constructor
    · intro hclear raw' hraw'
      obtain rfl := (hr raw').mp hraw'
      exact hclear
    · exact fun h => h raw ((hr raw).mpr rfl)

theorem dedups_eq_zero_iff (l : Limiter D) (calls : List (Call (cfg.retransmitter client))) :
    (ledgerAfter cfg S client l calls).dedups = 0 ↔
      Along (Ledger.step cfg S client) ⟨l, [], []⟩ (Ledger.FindsClear cfg S client) calls := by
  induction calls using List.reverseRecOn with
  | nil => exact iff_of_true rfl along_nil
  | append_singleton calls c ih =>
    rw [along_snoc_iff, ← ih, ledgerAfter, runFrom_snoc, dedups_step_eq_zero_iff]
    rfl

/-- **The documented balance holds exactly when no call of `Retransmit` in the run finds its
frame claimed, or fails to claim it.** -/
theorem balanced_iff {env : Config.Env} {f : Config.Flags} {cfg : Config} (h : Config.load env f = .ok cfg)
    (S : ShardLib) (client : Option RedisCache) (l : Limiter D) (calls : List (Call (cfg.retransmitter client))) :
    (ledgerAfter cfg S client l calls).Balanced (cfg.retransmitter client) ↔
      Along (Ledger.step cfg S client) ⟨l, [], []⟩ (Ledger.FindsClear cfg S client) calls := by
  rw [← dedups_eq_zero_iff, Ledger.Balanced]
  obtain ⟨hr, hh⟩ := accounts_run (S := S) (Config.sockets_retransmitter_ne_nil h client) l calls
  omega

end

/-- A NACK that hits, at an endpoint with the default configuration and a Redis for claims. -/
def nackThatHits (redis : Redis) :
    Call ((Config.defaultConfig {} .memory).retransmitter (some ⟨msClient, dedupPrefix⟩)) where
  datagram := wireNACK 1 1
  src := none
  now := millisecond
  sendErr := false
  found := .ok (some (wireFrame 1 1))
  redis := redis
  fault := none
  order := [bytesOf "eth0"]
  perm := by decide
  write _ := none

/-- Nobody has claimed the frame: it is sent, and the accounts balance. -/
theorem balanced_when_clear :
    (ledgerAfter (Config.defaultConfig {} .memory) oneGroup (some ⟨msClient, dedupPrefix⟩) (limiterWith 10 10 10)
      [nackThatHits ExpMap.empty]).Balanced
        ((Config.defaultConfig {} .memory).retransmitter (some ⟨msClient, dedupPrefix⟩)) := by
  refine (balanced_iff (Config.load_defaults {} .memory) oneGroup (some ⟨msClient, dedupPrefix⟩) (limiterWith 10 10 10)
    _).mpr (along_cons_iff.mpr ⟨fun _ _ c hc _ => ?_, along_nil⟩)
  obtain rfl := Option.some.inj hc
  exact ⟨rfl, ⟨_, rfl⟩, rfl⟩

/-- Another endpoint has claimed the frame: nothing is sent, and yet a retransmit is counted. -/
theorem unbalanced_by_duplicate :
    let s := ledgerAfter (Config.defaultConfig {} .memory) oneGroup (some ⟨msClient, dedupPrefix⟩)
      (limiterWith 10 10 10)
      [nackThatHits (ExpMap.empty.set (dedupPrefix ++ putUint64 1) [0x31] (some (10 * millisecond)))]
    let r := (Config.defaultConfig {} .memory).retransmitter (some ⟨msClient, dedupPrefix⟩)
    ¬ s.Balanced r ∧ s.retransmits = 1 ∧ s.written r = 0 ∧ s.cacheHits = 1 ∧ s.dedups = 1 := by
  decide

end RetryEndpoint.Metrics
