import RetryEndpoint.Cache.Agreement
import RetryEndpoint.Ingress.Worker
import Mathlib.Data.Set.Card

/-!
# Runs of the memory backend

`cache/memory/memory.go`: what an endpoint gets back from the cache in its own process, with
and without a limit on the number of keys.

## The model

Without a limit no key is evicted, and the runs are those of `memoryAfter`. With one, each
call comes with the key that `range` over the map yields first in it, if it evicts: a run of
`memoryRun` is a list of calls, each with its `pick`.

## What is proved

* `unlimited_refines_ttl_map` — without a limit the cache is a map with times to live, in which
  the sweeps are not seen.
* `limited_capacity` — with a limit it never holds more keys, and a `Store` makes room for one
  key at most, when the cache is full.
* `overwrite_keeps_iff`, `evicts_oldest_iff` — a full cache of more than one key may lose
  another key to an overwrite, and a key that is not the oldest to a new one.
-/

namespace RetryEndpoint.Cache

open Go Theory

/-! ### What is held without a limit -/

/-- A call that changes what is written under `key`. -/
def Event.Writes (key : Bytes) (e : Event) : Prop :=
  match e.call with
  | .store k _ _ | .delete k => k = key
  | .retrieve _ | .sweep => False

/-- The last `Store` or `Delete` on `key` is that `Store`. -/
def LastStore (key value : Bytes) (ttl : Duration) (time : Time) (es : List Event) : Prop :=
  ∃ before after, es = before ++ ⟨.store key value ttl, time⟩ :: after ∧ ∀ e ∈ after, ¬ e.Writes key

theorem Event.write_of_not_writes {key : Bytes} {e : Event} (h : ¬ e.Writes key) (w : Option Written) :
    Event.write key w e = w := by
  obtain ⟨call, t⟩ := e
  cases call with
  | store k | delete k => exact if_neg h
  | retrieve | sweep => rfl

/-- `lastWrite` is what its name says. -/
theorem lastWrite_eq_some_iff {key : Bytes} {es : List Event} {w : Written} :
    lastWrite key es = some w ↔ LastStore key w.value w.ttl w.time es := by
  constructor
  · intro h
    induction es using List.reverseRecOn with
    | nil => cases h
    | append_singleton es e ih =>
      rw [lastWrite_snoc] at h
      by_cases hw : e.Writes key
      · obtain ⟨call, t⟩ := e
        cases call with
        | store k value ttl =>
          obtain rfl : k = key := hw
          obtain rfl : _ = w := Option.some.inj (by simpa [Event.write] using h)
          exact ⟨es, [], rfl, by simp⟩
        | delete k =>
          obtain rfl : k = key := hw
          simp [Event.write] at h
        | retrieve | sweep => exact hw.elim
      · rw [Event.write_of_not_writes hw] at h
        obtain ⟨before, after, rfl, hafter⟩ := ih h
        refine ⟨before, after ++ [e], by simp, fun a ha => ?_⟩
        rcases List.mem_append.mp ha with ha | ha
        · exact hafter a ha
        · rwa [List.mem_singleton.mp ha]
  · rintro ⟨before, after, rfl, hafter⟩
    induction after using List.reverseRecOn with
    | nil => rw [lastWrite_snoc]; exact if_pos rfl
    | append_singleton after e ih =>
      rw [← List.cons_append, ← List.append_assoc, lastWrite_snoc,
        Event.write_of_not_writes (hafter e (by simp))]
      exact ih fun a ha => hafter a (List.mem_append_left _ ha)

/-- A call that is not a sweep. -/
def Event.isCall (e : Event) : Bool :=
  match e.call with
  | .sweep => false
  | _ => true

/-- A sweep writes nothing. -/
theorem lastWrite_filter_isCall (key : Bytes) (es : List Event) :
    lastWrite key (es.filter Event.isCall) = lastWrite key es := by
  induction es using List.reverseRecOn with
  | nil => rfl
  | append_singleton es e ih =>
    rw [List.filter_append, lastWrite_snoc, ← ih]
    obtain ⟨call, t⟩ := e
    cases call with
    | store | retrieve | delete => exact lastWrite_snoc ..
    | sweep => simp [Event.isCall, Event.write]

/-- Time does not run backwards. -/
def Sorted (es : List Event) : Prop := es.Pairwise fun a b => a.time ≤ b.time

theorem Sorted.le_of_split {pre post : List Event} {e : Event} (h : Sorted (pre ++ e :: post)) :
    ∀ a ∈ pre, a.time ≤ e.time := rel_of_pairwise_split h

/-- What a call returns, if it is a `Retrieve`. -/
def Memory.answer (m : Memory Bytes) (e : Event) : Option (Option Bytes) :=
  match e.call with
  | .retrieve key => some (m.retrieve key e.time)
  | .store _ _ _ | .delete _ | .sweep => none

/-- What the `Retrieve`s of a run return, in order. -/
def answers (maxKeys : ℤ) (pick : ℕ) (es : List Event) : List (Option Bytes) :=
  seen (Memory.step pick) Memory.answer (Memory.new Bytes maxKeys) es

theorem answers_snoc (maxKeys : ℤ) (pick : ℕ) (es : List Event) (e : Event) :
    answers maxKeys pick (es ++ [e]) =
      answers maxKeys pick es ++ ((memoryAfter maxKeys pick es).answer e).toList := seen_snoc ..

/-- The answers are those of the run without its sweeps. -/
theorem answers_filter_isCall {maxKeys : ℤ} (hmax : maxKeys ≤ 0) (pick : ℕ) {es : List Event} (h : Sorted es) :
    answers maxKeys pick (es.filter Event.isCall) = answers maxKeys pick es := by
  induction es using List.reverseRecOn with
  | nil => rfl
  | append_singleton es e ih =>
    have hle := h.le_of_split
    specialize ih (List.pairwise_append.mp h).1
    obtain ⟨call, t⟩ := e
    rw [List.filter_append, answers_snoc, ← ih]
    cases call with
    | store | delete => exact answers_snoc ..
    | sweep => simp [Event.isCall, Memory.answer]
    | retrieve key =>
      -- both runs have written the same, so both lookups return the same
      have hret : (memoryAfter maxKeys pick (es.filter Event.isCall)).retrieve key t =
          (memoryAfter maxKeys pick es).retrieve key t := by
        rw [retrieve_memoryAfter hmax pick key hle,
          retrieve_memoryAfter hmax pick key fun a ha => hle a (List.mem_of_mem_filter ha), lastWrite_filter_isCall]
      refine (answers_snoc ..).trans ?_
      simp only [Memory.answer, hret]

namespace Memory

variable {V : Type}

theorem len_eq (m : Memory V) : m.len = m.data.keys.length := (List.length_map _).symm

/-- What is left by a sweep is what a lookup at its instant finds. -/
theorem encard_retrieve_sweepExpired (m : Memory V) (t : Time) :
    {key | (m.sweepExpired t).retrieve key t ≠ none}.encard = (m.sweepExpired t).len := by
  have hfound (key : Bytes) : (m.sweepExpired t).retrieve key t ≠ none ↔ key ∈ (m.sweepExpired t).data.keys := by
    rw [retrieve_of_lookup (m.lookup_sweepExpired key t), ← AList.mem_keys, ← AList.lookup_isSome,
      lookup_sweepExpired]
    cases m.data.lookup key with
    | none => simp
    | some e => by_cases he : e.expires < t <;> simp [Option.filter, he]
  have hset : {key | (m.sweepExpired t).retrieve key t ≠ none} =
      ((m.sweepExpired t).data.keys.toFinset : Set Bytes) := by
    ext key
    rw [List.coe_toFinset]
    exact hfound key
  rw [hset, Set.encard_coe_eq_coe_finsetCard, List.toFinset_card_of_nodup (AList.keys_nodup _), len_eq]

end Memory

/-- A run in which the cache is a map with times to live. -/
structure RefinesTTLMap (maxKeys : ℤ) (pick : ℕ) (es : List Event) : Prop where
  /-- `Retrieve` returns what was stored last, until its time to live has passed. -/
  retrieve : ∀ pre key t post, es = pre ++ ⟨.retrieve key, t⟩ :: post → ∀ v,
    (memoryAfter maxKeys pick pre).retrieve key t = some v ↔ ∃ ttl s, LastStore key v ttl s pre ∧ t ≤ s + ttl
  /-- A run that differs from this one in its sweeps only has the same answers. -/
  sweeps : ∀ es', Sorted es' → es'.filter Event.isCall = es.filter Event.isCall →
    answers maxKeys pick es' = answers maxKeys pick es
  /-- After a sweep only what a lookup finds is held. -/
  len : ∀ pre t post, es = pre ++ ⟨.sweep, t⟩ :: post →
    ({key | (memoryAfter maxKeys pick (pre ++ [⟨.sweep, t⟩])).retrieve key t ≠ none} : Set Bytes).encard =
      (memoryAfter maxKeys pick (pre ++ [⟨.sweep, t⟩])).len

/-- **Without a limit, the memory backend is a map with times to live**, whatever they are and
wherever the sweeps come. -/
theorem unlimited_refines_ttl_map {maxKeys : ℤ} (hmax : maxKeys ≤ 0) (pick : ℕ) {es : List Event} (h : Sorted es) :
    RefinesTTLMap maxKeys pick es where
  retrieve := by
    rintro pre key t post rfl v
    rw [retrieve_memoryAfter hmax pick key h.le_of_split, Option.bind_eq_some_iff]
    constructor
    · rintro ⟨w, hw, hv⟩
      obtain ⟨hlive, rfl⟩ : ¬ w.time + w.ttl < t ∧ w.value = v := by simpa using hv
      exact ⟨w.ttl, w.time, lastWrite_eq_some_iff.mp hw, not_lt.mp hlive⟩
    · rintro ⟨ttl, s, hlast, hlive⟩
      exact ⟨⟨v, ttl, s⟩, lastWrite_eq_some_iff.mpr hlast, if_neg (not_lt.mpr hlive)⟩
  sweeps es' hes' hcalls := by
    rw [← answers_filter_isCall hmax pick hes', hcalls, answers_filter_isCall hmax pick h]
  len := by
    rintro pre t post rfl
    rw [memoryAfter, runFrom_snoc]
    exact Memory.encard_retrieve_sweepExpired ..

/-- A run with a sweep at the deadline, which leaves the value, and one after it. -/
theorem unlimited_refines_ttl_map_of_sweeps :
    Sorted [⟨.store [1] [7] 5, 0⟩, ⟨.sweep, 5⟩, ⟨.retrieve [1], 5⟩, ⟨.sweep, 6⟩] ∧
      RefinesTTLMap 0 0 [⟨.store [1] [7] 5, 0⟩, ⟨.sweep, 5⟩, ⟨.retrieve [1], 5⟩, ⟨.sweep, 6⟩] :=
  have h : Sorted [⟨.store [1] [7] 5, 0⟩, ⟨.sweep, 5⟩, ⟨.retrieve [1], 5⟩, ⟨.sweep, 6⟩] := by simp [Sorted]
  ⟨h, unlimited_refines_ttl_map le_rfl 0 h⟩

/-! ### One `Store` in a cache with a limit -/

section Keys

variable {α : Type} {β : α → Type} [DecidableEq α] (s : AList β) (a : α)

theorem length_keys_insert (b : β a) : (s.insert a b).keys.length = (s.erase a).keys.length + 1 := by
  rw [AList.keys_insert, AList.keys_erase, List.length_cons]

theorem length_keys_erase_le : (s.erase a).keys.length ≤ s.keys.length := by
  rw [AList.keys_erase]
  exact List.length_erase_le

variable {s a}

theorem length_keys_erase_add_one (h : a ∈ s) : (s.erase a).keys.length + 1 = s.keys.length := by
  rw [AList.keys_erase]
  exact List.length_erase_add_one h

theorem length_keys_erase_of_not_mem (h : a ∉ s) : (s.erase a).keys.length = s.keys.length := by
  rw [AList.keys_erase, List.erase_of_not_mem h]

end Keys

namespace Memory

variable {V : Type} {m : Memory V} {key : Bytes} {pick : ℕ}

theorem mem_of_victim {k : Bytes} (h : m.victim pick = some k) : k ∈ m.data := by
  rw [victim] at h
  split_ifs at h
  exact List.mem_of_getElem? h

/-- A full cache evicts a key. -/
theorem victim_eq_none_iff (hmax : 0 < m.maxKeys) : m.victim pick = none ↔ (m.len : ℤ) < m.maxKeys := by
  constructor
  · intro h
    by_contra hfull
    have hfull := not_lt.mp hfull
    have hpos : 0 < m.len := by omega
    rw [victim, if_pos ⟨hmax, hfull⟩, List.getElem?_eq_none_iff, ← len_eq] at h
    exact absurd (Nat.mod_lt pick hpos) (not_lt.mpr h)
  · intro h
    exact if_neg fun hfull => absurd h (not_lt.mpr hfull.2)

/-- It is any of its keys. -/
theorem exists_victim (hmax : 0 < m.maxKeys) (hfull : m.maxKeys ≤ m.len) (hkey : key ∈ m.data) :
    ∃ pick, m.victim pick = some key := by
  obtain ⟨i, hi, hget⟩ := List.mem_iff_getElem.mp (AList.mem_keys.mp hkey)
  refine ⟨i, ?_⟩
  rw [victim, if_pos ⟨hmax, hfull⟩, Nat.mod_eq_of_lt (by rwa [len_eq]), List.getElem?_eq_getElem hi, hget]

/-- If there is more than one, either of two may be. -/
theorem exists_two_victims (hmax : 0 < m.maxKeys) (hfull : m.maxKeys ≤ m.len) (hone : m.maxKeys ≠ 1) :
    ∃ k k', k ≠ k' ∧ (∃ pick, m.victim pick = some k) ∧ ∃ pick, m.victim pick = some k' := by
  have hlen : 2 ≤ m.data.keys.length := by rw [← len_eq]; omega
  have hvictim (k : Bytes) (hk : k ∈ m.data.keys) := exists_victim hmax hfull (AList.mem_keys.mpr hk)
  have hnodup := m.data.keys_nodup
  generalize m.data.keys = keys at hlen hvictim hnodup
  rcases keys with _ | ⟨k, _ | ⟨k', rest⟩⟩
  · simp at hlen
  · simp at hlen
  · refine ⟨k, k', ?_, hvictim k (by simp), hvictim k' (by simp)⟩
    rintro rfl
    simp at hnodup

/-- What a store does to the other keys: one of them may be evicted. -/
theorem lookup_store_ne {k : Bytes} (hk : k ≠ key) (value : V) (ttl : Duration) (now : Time) :
    (m.store key value ttl now pick).data.lookup k = if m.victim pick = some k then none else m.data.lookup k := by
  cases hv : m.victim pick with
  | none => rw [lookup_store_of_ne hk hv, if_neg nofun]
  | some v =>
    simp only [store, hv, AList.lookup_insert_ne hk, Option.some.injEq]
    split_ifs with h
    · rw [h, AList.lookup_erase]
    · rw [AList.lookup_erase_ne (Ne.symm h)]

/-- A key other than the one that is stored is lost exactly if it is the one evicted. -/
theorem not_mem_store_iff {k : Bytes} (hk : k ≠ key) (hmem : k ∈ m.data) (value : V) (ttl : Duration) (now : Time) :
    k ∉ (m.store key value ttl now pick).data ↔ m.victim pick = some k := by
  rw [← AList.lookup_eq_none, lookup_store_ne hk]
  split_ifs with h
  · simp [h]
  · simp [h, AList.lookup_eq_none, hmem]

/-- A store of a key that is there, and that evicts no other, leaves the number of keys as it is. -/
theorem len_store_of_mem (hkey : key ∈ m.data) (hv : ∀ k, m.victim pick = some k → k = key) (value : V) (ttl : Duration)
    (now : Time) : (m.store key value ttl now pick).len = m.len := by
  have hlen : (m.data.erase key).keys.length + 1 = m.data.keys.length := length_keys_erase_add_one hkey
  rw [len_eq, len_eq, ← hlen]
  cases h : m.victim pick with
  | none => simp only [store, h, length_keys_insert]
  | some k =>
    obtain rfl := hv k h
    simp only [store, h, length_keys_insert]
    rw [length_keys_erase_of_not_mem (by simp)]

/-- A store keeps the number of keys within the limit. -/
theorem len_store_le (hmax : 0 < m.maxKeys) (h : (m.len : ℤ) ≤ m.maxKeys) (value : V) (ttl : Duration) (now : Time) :
    ((m.store key value ttl now pick).len : ℤ) ≤ m.maxKeys := by
  rw [len_eq]
  cases hv : m.victim pick with
  | none =>
    have hlt := (victim_eq_none_iff hmax).mp hv
    have hle : (m.data.erase key).keys.length ≤ m.len := by rw [len_eq]; exact length_keys_erase_le ..
    simp only [store, hv, length_keys_insert]
    omega
  | some k =>
    have hlen : (m.data.erase k).keys.length + 1 = m.len := by
      rw [len_eq]
      exact length_keys_erase_add_one (mem_of_victim hv)
    have hle : ((m.data.erase k).erase key).keys.length ≤ (m.data.erase k).keys.length := length_keys_erase_le ..
    simp only [store, hv, length_keys_insert]
    omega

theorem len_delete_le (m : Memory V) (key : Bytes) : (m.delete key).len ≤ m.len := by
  rw [len_eq, len_eq]
  exact length_keys_erase_le ..

theorem len_sweepExpired_le (m : Memory V) (now : Time) : (m.sweepExpired now).len ≤ m.len :=
  List.length_filter_le ..

end Memory

/-! ### Runs of a cache with a limit -/

/-- The memory backend after a run. Each call has its `pick`. -/
def memoryRun (maxKeys : ℤ) (xs : List (Event × ℕ)) : Memory Bytes :=
  runFrom (fun m x => m.step x.2 x.1) (Memory.new Bytes maxKeys) xs

theorem maxKeys_memoryRun (maxKeys : ℤ) (xs : List (Event × ℕ)) : (memoryRun maxKeys xs).maxKeys = maxKeys :=
  runFrom_invariant (I := fun m : Memory Bytes => m.maxKeys = maxKeys) rfl
    (fun m x hm => (m.maxKeys_step x.2 x.1).trans hm) xs

/-- One call keeps the number of keys within the limit. -/
theorem len_step_le {m : Memory Bytes} (hmax : 0 < m.maxKeys) (h : (m.len : ℤ) ≤ m.maxKeys) (x : Event × ℕ) :
    ((m.step x.2 x.1).len : ℤ) ≤ m.maxKeys := by
  obtain ⟨⟨call, t⟩, pick⟩ := x
  cases call with
  | store key value ttl => exact Memory.len_store_le hmax h ..
  | retrieve => exact h
  | delete key => exact le_trans (by exact_mod_cast m.len_delete_le key) h
  | sweep => exact le_trans (by exact_mod_cast m.len_sweepExpired_le t) h

/-- So does a run. -/
theorem len_memoryRun_le {maxKeys : ℤ} (hmax : 0 < maxKeys) (xs : List (Event × ℕ)) :
    ((memoryRun maxKeys xs).len : ℤ) ≤ maxKeys := by
  have h : (memoryRun maxKeys xs).maxKeys = maxKeys ∧ ((memoryRun maxKeys xs).len : ℤ) ≤ maxKeys := by
    refine runFrom_invariant (I := fun m : Memory Bytes => m.maxKeys = maxKeys ∧ (m.len : ℤ) ≤ maxKeys)
      ⟨rfl, by simpa [Memory.new, Memory.len] using hmax.le⟩ ?_ xs
    rintro m x ⟨rfl, hlen⟩
    exact ⟨m.maxKeys_step x.2 x.1, len_step_le hmax hlen x⟩
  exact h.2

/-- A state of a cache with a limit from which a `Store` loses little. -/
structure Capacity (maxKeys : ℤ) (m : Memory Bytes) : Prop where
  /-- There are no more keys than the limit. -/
  len_le : (m.len : ℤ) ≤ maxKeys
  /-- The entry under the key is the one that was stored. -/
  stored : ∀ key value ttl now pick,
    (m.store key value ttl now pick).data.lookup key = some ⟨value, now + ttl⟩
  /-- One other key is removed at most. -/
  removed_le_one : ∀ key value ttl now pick, ∀ k ∈ m.data, ∀ k' ∈ m.data, k ≠ key → k' ≠ key →
    k ∉ (m.store key value ttl now pick).data → k' ∉ (m.store key value ttl now pick).data → k = k'
  /-- A key is removed from a full cache only. -/
  full_of_removed : ∀ key value ttl now pick, ∀ k ∈ m.data, k ∉ (m.store key value ttl now pick).data →
    (m.len : ℤ) = maxKeys

/-- **A cache with a limit keeps to it**, and a `Store` in it removes one other key at most,
when the cache is full. -/
theorem limited_capacity {maxKeys : ℤ} (hmax : 0 < maxKeys) (xs : List (Event × ℕ)) :
    Capacity maxKeys (memoryRun maxKeys xs) where
  len_le := len_memoryRun_le hmax xs
  stored := Memory.lookup_store_self _
  removed_le_one key value ttl now pick k hk k' hk' hne hne' hgone hgone' := by
    have hv := (Memory.not_mem_store_iff hne hk ..).mp hgone
    have hv' := (Memory.not_mem_store_iff hne' hk' ..).mp hgone'
    exact Option.some.inj (hv.symm.trans hv')
  full_of_removed key value ttl now pick k hk hgone := by
    have hne : k ≠ key := by
      rintro rfl
      rw [← AList.lookup_eq_none, Memory.lookup_store_self] at hgone
      cases hgone
    have hv := (Memory.not_mem_store_iff hne hk ..).mp hgone
    have hmaxKeys := maxKeys_memoryRun maxKeys xs
    refine le_antisymm (len_memoryRun_le hmax xs) (not_lt.mp fun hlt => ?_)
    rw [(Memory.victim_eq_none_iff (by rwa [hmaxKeys])).mpr (by rwa [hmaxKeys])] at hv
    cases hv

/-- A cache of one key, full, then overwritten by another key. -/
theorem limited_capacity_one :
    Capacity 1 (memoryRun 1 [(⟨.store [1] [7] 5, 0⟩, 0), (⟨.store [2] [8] 5, 1⟩, 3)]) :=
  limited_capacity (by decide) _

/-! ### What is evicted -/

/-- With room left, or room for one key, nothing but the key itself is ever evicted. -/
theorem victims_eq_iff {maxKeys : ℤ} (hmax : 0 < maxKeys) (xs : List (Event × ℕ)) {key : Bytes}
    (hkey : key ∈ (memoryRun maxKeys xs).data) :
    (∀ pick k, (memoryRun maxKeys xs).victim pick = some k → k = key) ↔
      ((memoryRun maxKeys xs).len : ℤ) < maxKeys ∨ maxKeys = 1 := by
  have hmaxKeys := maxKeys_memoryRun maxKeys xs
  have hlen := len_memoryRun_le hmax xs
  generalize memoryRun maxKeys xs = m at hkey hmaxKeys hlen ⊢
  subst hmaxKeys
  constructor
  · intro h
    by_contra hor
    obtain ⟨hfull, hone⟩ := not_or.mp hor
    obtain ⟨k, k', hne, ⟨pick, hk⟩, pick', hk'⟩ := Memory.exists_two_victims hmax (not_lt.mp hfull) hone
    exact hne ((h pick k hk).trans (h pick' k' hk').symm)
  · rintro (hroom | hone) pick k hv
    · rw [(Memory.victim_eq_none_iff hmax).mpr hroom] at hv
      cases hv
    · by_contra hne
      have hcount := length_keys_erase_add_one hkey
      have hk := AList.mem_keys.mp (AList.mem_erase.mpr ⟨hne, Memory.mem_of_victim hv⟩)
      have hpos := List.length_pos_of_mem hk
      rw [Memory.len_eq] at hlen
      omega

/-- Nothing is lost but what was under `key`. -/
def KeepsOthers (key : Bytes) (m m' : Memory Bytes) : Prop :=
  m'.len = m.len ∧ ∀ k, k ≠ key → m'.data.lookup k = m.data.lookup k

/-- A store of a key that is there loses nothing exactly if it evicts no other key. -/
theorem keepsOthers_store_iff {m : Memory Bytes} {key : Bytes} (hkey : key ∈ m.data) (value : Bytes) (ttl : Duration)
    (now : Time) (pick : ℕ) :
    KeepsOthers key m (m.store key value ttl now pick) ↔ ∀ k, m.victim pick = some k → k = key := by
  constructor
  · rintro ⟨-, hothers⟩ k hv
    by_contra hne
    have hmem := Memory.mem_of_victim hv
    have hgone := (Memory.not_mem_store_iff hne hmem value ttl now).mpr hv
    rw [← AList.lookup_eq_none, hothers k hne, AList.lookup_eq_none] at hgone
    exact hgone hmem
  · intro hv
    refine ⟨Memory.len_store_of_mem hkey hv .., fun k hk => ?_⟩
    rw [Memory.lookup_store_ne hk, if_neg fun h => hk (hv k h)]

/-- **Overwriting a key loses no other key, in every order of the map, exactly if the cache
has room left or is one of a single key.** `Store` asks whether the cache is full before it
knows whether the key is new. -/
theorem overwrite_keeps_iff {maxKeys : ℤ} (hmax : 0 < maxKeys) (xs : List (Event × ℕ)) {key : Bytes}
    (hkey : key ∈ (memoryRun maxKeys xs).data) :
    ((∀ value ttl now pick,
        KeepsOthers key (memoryRun maxKeys xs) ((memoryRun maxKeys xs).store key value ttl now pick)) ∧
      -- a datagram whose frame is in the cache already
      ∀ F w b f raw now pick, Ingress.storedHeader F b = some f → Ingress.frameKey f = key →
        KeepsOthers key (memoryRun maxKeys xs)
          (Ingress.processFrame F (Memory.cache Bytes pick) w b raw now (memoryRun maxKeys xs)).1) ↔
      ((memoryRun maxKeys xs).len : ℤ) < maxKeys ∨ maxKeys = 1 := by
  rw [← victims_eq_iff hmax xs hkey]
  constructor
  · rintro ⟨hstore, -⟩ pick
    exact (keepsOthers_store_iff hkey [] 0 0 pick).mp (hstore ..)
  · intro hv
    refine ⟨fun value ttl now pick => (keepsOthers_store_iff hkey ..).mpr (hv pick), ?_⟩
    rintro F w b f raw now pick hf rfl
    rw [Ingress.processFrame_of_stored (h := hf)]
    exact (keepsOthers_store_iff hkey ..).mpr (hv pick)

/-- With room left, whatever the order of the map. -/
theorem overwrite_keeps_with_room :
    [1] ∈ (memoryRun 2 [(⟨.store [1] [7] 5, 0⟩, 0)]).data ∧ ∀ value ttl now pick,
      KeepsOthers [1] (memoryRun 2 [(⟨.store [1] [7] 5, 0⟩, 0)])
        ((memoryRun 2 [(⟨.store [1] [7] 5, 0⟩, 0)]).store [1] value ttl now pick) :=
  have hkey : [1] ∈ (memoryRun 2 [(⟨.store [1] [7] 5, 0⟩, 0)]).data := by decide
  ⟨hkey, ((overwrite_keeps_iff (by decide) _ hkey).mpr (.inl (by decide))).1⟩

/-- A cache of two keys in which both are, and a `Store` of the second that evicts the first. -/
theorem overwrite_loses_other :
    let m := memoryRun 2 [(⟨.store [1] [7] 5, 0⟩, 0), (⟨.store [2] [8] 5, 1⟩, 0)]
    [1] ∈ m.data ∧ [2] ∈ m.data ∧ [1] ∉ (m.store [2] [8] 5 2 1).data ∧ ¬ KeepsOthers [2] m (m.store [2] [8] 5 2 1) := by
  refine ⟨by decide, by decide, by decide, fun h => ?_⟩
  exact absurd h.1 (by decide)

/-- Of the keys that are held when a `Store` of a new key takes one away, it is the one that was
stored first. -/
def EvictsOldest (maxKeys : ℤ) (xs : List (Event × ℕ)) (e : Event) (pick : ℕ) : Prop :=
  ∀ k ∈ (memoryRun maxKeys xs).data, k ∉ (memoryRun maxKeys (xs ++ [(e, pick)])).data →
    ∀ k' ∈ (memoryRun maxKeys xs).data, k' ≠ k → ∃ w w',
      lastWrite k (xs.map Prod.fst) = some w ∧ lastWrite k' (xs.map Prod.fst) = some w' ∧ w.time < w'.time

/-- **A new key takes the place of the oldest one, in every order of the map, exactly if there is
room left or a single key.** The order in which `range` yields the keys is not that in which they
were stored. -/
theorem evicts_oldest_iff {maxKeys : ℤ} (hmax : 0 < maxKeys) (xs : List (Event × ℕ)) {key : Bytes}
    (hkey : key ∉ (memoryRun maxKeys xs).data) (value : Bytes) (ttl : Duration) (now : Time) :
    (∀ pick, EvictsOldest maxKeys xs ⟨.store key value ttl, now⟩ pick) ↔
      ((memoryRun maxKeys xs).len : ℤ) < maxKeys ∨ maxKeys = 1 := by
  have hgone {pick : ℕ} {k : Bytes} (hk : k ∈ (memoryRun maxKeys xs).data) :
      k ∉ (memoryRun maxKeys (xs ++ [(⟨.store key value ttl, now⟩, pick)])).data ↔
        (memoryRun maxKeys xs).victim pick = some k := by
    have hne : k ≠ key := fun h => hkey (h ▸ hk)
    rw [memoryRun, runFrom_snoc]
    exact Memory.not_mem_store_iff hne hk ..
  constructor
  · intro h
    by_contra hor
    obtain ⟨hfull, hone⟩ := not_or.mp hor
    have hmaxKeys := maxKeys_memoryRun maxKeys xs
    obtain ⟨k, k', hne, ⟨pick, hv⟩, pick', hv'⟩ :=
      Memory.exists_two_victims (hmaxKeys.symm ▸ hmax) (hmaxKeys.symm ▸ not_lt.mp hfull) (hmaxKeys.symm ▸ hone)
    have hk := Memory.mem_of_victim hv
    have hk' := Memory.mem_of_victim hv'
    -- either of the two may be evicted, and both cannot be the older one
    obtain ⟨w, w', hw, hw', hlt⟩ := h pick k hk ((hgone hk).mpr hv) k' hk' (Ne.symm hne)
    obtain ⟨u', u, hu', hu, hlt'⟩ := h pick' k' hk' ((hgone hk').mpr hv') k hk hne
    obtain rfl : w = u := Option.some.inj (hw.symm.trans hu)
    obtain rfl : w' = u' := Option.some.inj (hw'.symm.trans hu')
    exact absurd hlt (not_lt.mpr hlt'.le)
  · intro hor pick k hk hout k' hk' hne
    have hv := (hgone hk).mp hout
    exact absurd ((victims_eq_iff hmax xs hk').mpr hor pick k hv) (Ne.symm hne)

/-- With a limit of one key the one that is evicted is the only one. -/
theorem evicts_oldest_single :
    [2] ∉ (memoryRun 1 [(⟨.store [1] [7] 5, 0⟩, 0)]).data ∧
      ∀ pick, EvictsOldest 1 [(⟨.store [1] [7] 5, 0⟩, 0)] ⟨.store [2] [8] 5, 1⟩ pick :=
  have hkey : [2] ∉ (memoryRun 1 [(⟨.store [1] [7] 5, 0⟩, 0)]).data := by decide
  ⟨hkey, (evicts_oldest_iff (by decide) _ hkey [8] 5 1).mpr (.inr rfl)⟩

/-- Two keys, stored at 0 and at 1, and a third at 2 that evicts the one stored at 1. -/
theorem evicts_newest :
    let xs : List (Event × ℕ) := [(⟨.store [1] [7] 5, 0⟩, 0), (⟨.store [2] [8] 5, 1⟩, 0)]
    [3] ∉ (memoryRun 2 xs).data ∧ [1] ∈ (memoryRun 2 xs).data ∧ [2] ∈ (memoryRun 2 xs).data ∧
      [2] ∉ (memoryRun 2 (xs ++ [(⟨.store [3] [9] 5, 2⟩, 0)])).data ∧
      [1] ∈ (memoryRun 2 (xs ++ [(⟨.store [3] [9] 5, 2⟩, 0)])).data ∧
      ¬ EvictsOldest 2 xs ⟨.store [3] [9] 5, 2⟩ 0 := by
  refine ⟨by decide, by decide, by decide, by decide, by decide, fun h => ?_⟩
  obtain ⟨w, w', hw, hw', hlt⟩ := h [2] (by decide) (by decide) [1] (by decide) (by decide)
  obtain rfl : (⟨[8], 5, 1⟩ : Written) = w := Option.some.inj hw
  obtain rfl : (⟨[7], 5, 0⟩ : Written) = w' := Option.some.inj hw'
  exact absurd hlt (by decide)

end RetryEndpoint.Cache
