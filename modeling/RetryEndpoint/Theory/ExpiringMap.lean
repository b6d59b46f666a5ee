import Mathlib.Algebra.Order.Ring.Int
import Mathlib.Data.List.Induction
import Mathlib.Data.Option.Basic
import Mathlib.Logic.Function.Basic
import Mathlib.Tactic.ByContra
import Mathlib.Tactic.SplitIfs

/-!
# Maps whose entries expire

A key-value store in which an entry may carry a deadline, as a store with `SET`
with an expiry, `SET NX` and `GET` has them. Nothing here depends on what the keys
and values are.

## The model

An `ExpMap` gives each key at most one `Item`: a value, and the deadline after
which it is not there any more. An item is `Live` strictly before its deadline.
`set` overwrites, `setNX` writes only where nothing is live and says whether it
did, `get` reads what is live. Which deadline an entry gets is said by who writes it.

## Leases

A successful `setNX` of `k` at `t` is a *grant* of `k`, which holds until `life t`, or for ever
if that is none. A log of grants *accounts for* the keys `P` of a map (`Leased`) when each
key's deadline is that of its last grant and no grant is made while another one of the key
holds. Other keys are free.

## What is proved

* `ExpMap.AgreeOn.setNX` — maps that agree on some keys answer alike for them, and go on
  to agree.
* `ExpMap.heldUntil_setNX`, `ExpMap.HeldUntil.setNX` — what `setNX` has written stays for its
  time, whatever other `setNX` there are.
* `Leased.grant` — a successful `setNX` keeps the account, with the grant added;
  `Leased.refuse`, `Leased.other` — a refused one, and a write to a free key, keep it.
* `Leased.setNX_eq_false_iff` — `setNX` is refused exactly when the log has a grant
  of the key that holds.
* `Leased.spaced` — so of two grants of one key the first is over when the second is made.
-/

namespace RetryEndpoint.Theory

universe u v

variable {K : Type u} {V : Type v}

/-- A value, with the instant from which it is gone. -/
structure Item (V : Type v) where
  /-- The value. -/
  value : V
  /-- The first instant at which the item is not there; never, if there is none. -/
  deadline : Option ℤ

/-- The item is still there at `t`. -/
def Item.Live (x : Item V) (t : ℤ) : Prop := ∀ d ∈ x.deadline, t < d

instance (x : Item V) (t : ℤ) : Decidable (x.Live t) :=
  match h : x.deadline with
  | none => isTrue (by simp [Item.Live, h])
  | some d => decidable_of_iff (t < d) (by simp [Item.Live, h])

@[simp] theorem Item.live_mk_some (x : V) (d t : ℤ) : Item.Live ⟨x, some d⟩ t ↔ t < d := by
  simp [Item.Live]

/-- A map whose entries expire. -/
def ExpMap (K : Type u) (V : Type v) := K → Option (Item V)

namespace ExpMap

/-- The empty map. -/
def empty : ExpMap K V := fun _ => none

/-- What is live under `k` at `t`. -/
def get (m : ExpMap K V) (k : K) (t : ℤ) : Option V :=
  (m k).bind fun x => if x.Live t then some x.value else none

/-- The deadline of what is live under `k` at `t`, if it has one. -/
def deadline (m : ExpMap K V) (k : K) (t : ℤ) : Option ℤ :=
  (m k).bind fun x => if x.Live t then x.deadline else none

variable [DecidableEq K]

/-- Write `x` under `k`, to be there until `stop`. -/
def set (m : ExpMap K V) (k : K) (x : V) (stop : Option ℤ) : ExpMap K V := Function.update m k (some ⟨x, stop⟩)

/-- Write `x` under `k` if nothing is live there at `t`, and say whether it was
written. -/
def setNX (m : ExpMap K V) (k : K) (x : V) (stop : Option ℤ) (t : ℤ) : Bool × ExpMap K V :=
  if (m.get k t).isSome then (false, m) else (true, m.set k x stop)

/-- Remove `k`. -/
def del (m : ExpMap K V) (k : K) : ExpMap K V := Function.update m k none

theorem set_self (m : ExpMap K V) (k : K) (x : V) (stop : Option ℤ) : m.set k x stop k = some ⟨x, stop⟩ :=
  Function.update_self ..

theorem set_of_ne (m : ExpMap K V) {k k' : K} (h : k' ≠ k) (x : V) (stop : Option ℤ) : m.set k x stop k' = m k' :=
  Function.update_of_ne h ..

theorem del_self (m : ExpMap K V) (k : K) : m.del k k = none := Function.update_self ..

theorem del_of_ne (m : ExpMap K V) {k k' : K} (h : k' ≠ k) : m.del k k' = m k' := Function.update_of_ne h ..

/-- `setNX` changes at most the entry of its key. -/
theorem setNX_of_ne (m : ExpMap K V) {k k' : K} (h : k' ≠ k) (x : V) (stop : Option ℤ) (t : ℤ) :
    (m.setNX k x stop t).2 k' = m k' := by
  unfold setNX
  split_ifs
  · rfl
  · exact m.set_of_ne h x stop

theorem setNX_of_false {m : ExpMap K V} {k : K} {x : V} {stop : Option ℤ} {t : ℤ}
    (h : (m.setNX k x stop t).1 = false) : (m.setNX k x stop t).2 = m := by
  unfold setNX at h ⊢
  split_ifs at h ⊢
  rfl

theorem setNX_of_true {m : ExpMap K V} {k : K} {x : V} {stop : Option ℤ} {t : ℤ}
    (h : (m.setNX k x stop t).1 = true) : (m.setNX k x stop t).2 = m.set k x stop := by
  unfold setNX at h ⊢
  split_ifs at h ⊢
  rfl

/-- `setNX` is refused exactly by a live item. -/
theorem setNX_eq_false_iff (m : ExpMap K V) (k : K) (x : V) (stop : Option ℤ) (t : ℤ) :
    (m.setNX k x stop t).1 = false ↔ ∃ y, m k = some y ∧ y.Live t := by
  cases hk : m k with
  | none => simp [setNX, get, hk]
  | some y =>
    by_cases hy : y.Live t
    · simp [setNX, get, hk, hy]
    · simp [setNX, get, hk, hy]

omit [DecidableEq K] in
/-- An entry is read until its deadline. -/
theorem get_eq_some_iff {m : ExpMap K V} {k : K} {x : V} {stop : ℤ} (hm : m k = some ⟨x, some stop⟩) (y : V) (t : ℤ) :
    m.get k t = some y ↔ y = x ∧ t < stop := by
  by_cases ht : t < stop
  · simp [get, hm, ht, eq_comm]
  · simp [get, hm, ht]

omit [DecidableEq K] in
theorem get_eq_none {m : ExpMap K V} {k : K} (hm : m k = none) (t : ℤ) : m.get k t = none := by
  simp [get, hm]

/-! ### Maps that agree on some keys -/

omit [DecidableEq K] in
/-- The maps have the same entries under the keys `P`. -/
def AgreeOn (P : K → Prop) (m m' : ExpMap K V) : Prop := ∀ k, P k → m k = m' k

section AgreeOn

variable {P : K → Prop} {m m' : ExpMap K V}

omit [DecidableEq K] in
theorem AgreeOn.refl (P : K → Prop) (m : ExpMap K V) : AgreeOn P m m := fun _ _ => rfl

omit [DecidableEq K] in
theorem AgreeOn.get (h : AgreeOn P m m') {k : K} (hk : P k) (t : ℤ) : m.get k t = m'.get k t := by
  rw [ExpMap.get, ExpMap.get, h k hk]

omit [DecidableEq K] in
theorem AgreeOn.deadline (h : AgreeOn P m m') {k : K} (hk : P k) (t : ℤ) : m.deadline k t = m'.deadline k t := by
  rw [ExpMap.deadline, ExpMap.deadline, h k hk]

omit [DecidableEq K] in
/-- A change to other keys, in one of the two maps only. -/
theorem AgreeOn.skip (h : AgreeOn P m m') {n : ExpMap K V} (hn : ∀ k, P k → n k = m k) : AgreeOn P n m' :=
  fun k hk => (hn k hk).trans (h k hk)

theorem AgreeOn.set (h : AgreeOn P m m') (k : K) (x : V) (stop : Option ℤ) :
    AgreeOn P (m.set k x stop) (m'.set k x stop) := by
  intro k' hk'
  by_cases hkk : k' = k
  · subst hkk
    rw [set_self, set_self]
  · rw [set_of_ne _ hkk, set_of_ne _ hkk, h k' hk']

/-- `setNX` of one of the keys is answered alike. -/
theorem AgreeOn.setNX (h : AgreeOn P m m') {k : K} (hk : P k) (x : V) (stop : Option ℤ) (t : ℤ) :
    (m.setNX k x stop t).1 = (m'.setNX k x stop t).1 ∧ AgreeOn P (m.setNX k x stop t).2 (m'.setNX k x stop t).2 := by
  unfold ExpMap.setNX
  rw [h.get hk t]
  split_ifs
  · exact ⟨rfl, h⟩
  · exact ⟨rfl, h.set k x stop⟩

end AgreeOn

/-! ### Entries that stay -/

omit [DecidableEq K] in
/-- Something is under `k` up to `d`. -/
def HeldUntil (m : ExpMap K V) (k : K) (d : ℤ) : Prop := ∃ y, m k = some y ∧ ∀ t < d, y.Live t

/-- A successful `setNX` holds its key until the deadline. -/
theorem heldUntil_setNX {m : ExpMap K V} {k : K} {x : V} {stop : Option ℤ} {t d : ℤ} (hd : ∀ e ∈ stop, d ≤ e)
    (h : (m.setNX k x stop t).1 = true) : HeldUntil (m.setNX k x stop t).2 k d := by
  rw [setNX_of_true h]
  exact ⟨_, m.set_self k x stop, fun t' ht' e he => ht'.trans_le (hd e he)⟩

/-- `setNX` before `d` leaves it there. -/
theorem HeldUntil.setNX {m : ExpMap K V} {k : K} {d : ℤ} (h : HeldUntil m k d) (k' : K) (x : V) (stop : Option ℤ)
    {t : ℤ} (ht : t < d) : HeldUntil (m.setNX k' x stop t).2 k d := by
  obtain ⟨y, hy, hlive⟩ := h
  by_cases hk : k = k'
  · subst hk
    have hno : (m.setNX k x stop t).1 = false := (m.setNX_eq_false_iff k x stop t).mpr ⟨y, hy, hlive t ht⟩
    rw [setNX_of_false hno]
    exact ⟨y, hy, hlive⟩
  · exact ⟨y, by rw [setNX_of_ne _ hk, hy], hlive⟩

end ExpMap

/-! ### Leases -/

/-- A grant: a successful `setNX` of a key. -/
structure Grant (K : Type u) where
  /-- The key. -/
  key : K
  /-- When. -/
  time : ℤ

variable [DecidableEq K]

/-- When `k` was last granted, the log being in the order of the grants. -/
def lastGrant (log : List (Grant K)) (k : K) : Option ℤ :=
  ((log.filter fun g => g.key = k).getLast?).map Grant.time

theorem lastGrant_snoc (log : List (Grant K)) (g : Grant K) (k : K) :
    lastGrant (log ++ [g]) k = if g.key = k then some g.time else lastGrant log k := by
  by_cases h : g.key = k
  · simp [lastGrant, List.filter_append, h]
  · simp [lastGrant, List.filter_append, h]

theorem mem_of_lastGrant {log : List (Grant K)} {k : K} {s : ℤ} (h : lastGrant log k = some s) :
    (⟨k, s⟩ : Grant K) ∈ log := by
  obtain ⟨g, hg, rfl⟩ := Option.map_eq_some_iff.mp h
  have hm := List.mem_filter.mp (List.mem_of_getLast? hg)
  have hk : g.key = k := by simpa using hm.2
  rw [← hk]
  exact hm.1

/-- Of two grants of one key, the first is over when the second is made. -/
def Spaced (life : ℤ → Option ℤ) (log : List (Grant K)) : Prop :=
  log.Pairwise fun a b => a.key = b.key → ∃ d ∈ life a.time, d ≤ b.time

/-- Every grant of a key but the last is over when the last is made. -/
theorem Spaced.le_lastGrant {life : ℤ → Option ℤ} {log : List (Grant K)} (h : Spaced life log) {g : Grant K}
    (hg : g ∈ log) : ∃ s, lastGrant log g.key = some s ∧ (g.time = s ∨ ∃ d ∈ life g.time, d ≤ s) := by
  induction log using List.reverseRecOn with
  | nil => cases hg
  | append_singleton log g₀ ih =>
    obtain ⟨hs, -, hlast⟩ := List.pairwise_append.mp h
    rw [lastGrant_snoc]
    rcases List.mem_append.mp hg with hg | hg
    · split_ifs with hk
      · exact ⟨_, rfl, .inr (hlast g hg g₀ (by simp) hk.symm)⟩
      · exact ih hs hg
    · obtain rfl := List.mem_singleton.mp hg
      exact ⟨_, if_pos rfl, .inl rfl⟩

/-- **The log accounts for the keys `P` of the map**: a key's deadline is that of its last
grant, and no grant is made while another one of the key holds. -/
structure Leased (life : ℤ → Option ℤ) (P : K → Prop) (m : ExpMap K V) (log : List (Grant K)) : Prop where
  /-- The deadlines are those of the last grants. -/
  deadline : ∀ k, P k → (m k).map Item.deadline = (lastGrant log k).map life
  /-- Grants of one key do not overlap. -/
  spaced : Spaced life log

theorem leased_empty (life : ℤ → Option ℤ) (P : K → Prop) : Leased life P (ExpMap.empty : ExpMap K V) [] where
  deadline _ _ := rfl
  spaced := .nil

namespace Leased

variable {life : ℤ → Option ℤ} {P : K → Prop} {m : ExpMap K V} {log : List (Grant K)}

/-- A live item is a last grant that holds. -/
theorem live_iff (h : Leased life P m log) {k : K} (hk : P k) (t : ℤ) :
    (∃ y, m k = some y ∧ y.Live t) ↔ ∃ s, lastGrant log k = some s ∧ ∀ d ∈ life s, t < d := by
  have hd := h.deadline k hk
  constructor
  · rintro ⟨y, hy, hl⟩
    rw [hy, Option.map_some] at hd
    obtain ⟨s, hs, hsd⟩ := Option.map_eq_some_iff.mp hd.symm
    exact ⟨s, hs, hsd ▸ hl⟩
  · rintro ⟨s, hs, ht⟩
    rw [hs, Option.map_some] at hd
    obtain ⟨y, hy, hyd⟩ := Option.map_eq_some_iff.mp hd
    refine ⟨y, hy, fun d hd => ht d ?_⟩
    rwa [← hyd]

/-- **`setNX` is refused exactly when the log has a grant of the key that holds.** -/
theorem setNX_eq_false_iff (h : Leased life P m log) (hlife : ∀ s, ∀ d ∈ life s, s ≤ d) {k : K} (hk : P k) (x : V)
    (stop : Option ℤ) (t : ℤ) :
    (m.setNX k x stop t).1 = false ↔ ∃ g ∈ log, g.key = k ∧ ∀ d ∈ life g.time, t < d := by
  rw [ExpMap.setNX_eq_false_iff, h.live_iff hk]
  constructor
  · rintro ⟨s, hs, ht⟩
    exact ⟨⟨k, s⟩, mem_of_lastGrant hs, rfl, ht⟩
  · rintro ⟨g, hg, rfl, ht⟩
    obtain ⟨s, hs, rfl | ⟨d, hd, hle⟩⟩ := h.spaced.le_lastGrant hg
    · exact ⟨_, hs, ht⟩
    · exact ⟨s, hs, fun e he => ((ht d hd).trans_le hle).trans_le (hlife s e he)⟩

/-- **A grant is accounted for.** -/
theorem grant (h : Leased life P m log) (hlife : ∀ s, ∀ d ∈ life s, s ≤ d) {k : K} (hk : P k) {x : V} {t : ℤ}
    (hnx : (m.setNX k x (life t) t).1 = true) : Leased life P (m.setNX k x (life t) t).2 (log ++ [⟨k, t⟩]) := by
  rw [ExpMap.setNX_of_true hnx]
  constructor
  · intro k' hk'
    rw [lastGrant_snoc]
    by_cases hkk : k = k'
    · subst hkk
      rw [ExpMap.set_self, if_pos rfl]
      rfl
    · rw [ExpMap.set_of_ne _ (Ne.symm hkk), if_neg hkk]
      exact h.deadline k' hk'
  · refine List.pairwise_append.mpr ⟨h.spaced, List.pairwise_singleton _ _, fun g hg g' hg' hkk => ?_⟩
    obtain rfl := List.mem_singleton.mp hg'
    -- a grant that holds would have refused this one
    by_contra hover
    push Not at hover
    have hno := (h.setNX_eq_false_iff hlife hk x (life t) t).mpr ⟨g, hg, hkk, hover⟩
    rw [hnx] at hno
    cases hno

/-- A refusal changes nothing. -/
theorem refuse (h : Leased life P m log) {k : K} {x : V} {stop : Option ℤ} {t : ℤ}
    (hnx : (m.setNX k x stop t).1 = false) : Leased life P (m.setNX k x stop t).2 log := by
  rw [ExpMap.setNX_of_false hnx]
  exact h

/-- A write to a free key changes nothing. -/
theorem other (h : Leased life P m log) {k : K} (hk : ¬ P k) (x : V) (stop : Option ℤ) :
    Leased life P (m.set k x stop) log where
  deadline k' hk' := by
    rw [ExpMap.set_of_ne _ (by rintro rfl; exact hk hk')]
    exact h.deadline k' hk'
  spaced := h.spaced

end Leased

end RetryEndpoint.Theory
