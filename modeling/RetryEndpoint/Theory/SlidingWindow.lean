import Mathlib.Algebra.Order.Ring.Int
import Mathlib.Data.List.Basic
import Mathlib.Data.List.Induction
import Mathlib.Data.List.Sort
import Mathlib.Tactic.ByContra
import Mathlib.Tactic.SplitIfs

/-!
# Sliding windows

A sliding-window log limits how many requests are let through in any stretch of
time of length `W`: it keeps the instants of the admissions, drops those that have
left the window when a request comes, and lets the request through when fewer than
`max` are left. The log is kept in an array that is compacted in place.

## The model

`compact` is the loop that writes the survivors of an array over its front while
it reads the array from front to back. `window max W now ts` is the answer to a
request that reads the clock as `now`, and the instants kept after it.

## What is proved

* `compact_eq_filter` — the loop keeps exactly the elements it should, in order,
  although it overwrites the array it reads.
* `Exact.step`, `Capped.step` — while readings come in order, the instants kept are
  the admissions that are still in the window, and no window of length `W` holds
  more than `max` admissions;
* `windowRun_capped_of_sorted` — so the cap holds for readings in order;
* `windowRun_capped_of_le_one` — with `max ≤ 1` it holds for readings in any order;
* `windowRun_not_capped` — with `max ≥ 2` it does not.
-/

namespace RetryEndpoint.Theory

/-! ### Compaction in place -/

section Compact

universe u

variable {α : Type u} (keep : α → Bool)

/-- The loop, with `n` elements still to read from index `i` on, and `v` survivors
already written to the front: the array and the number of survivors at the end. -/
def compactFrom : ℕ → ℕ → ℕ → List α → List α × ℕ
  | 0, _, v, a => (a, v)
  | n + 1, i, v, a =>
    match a[i]? with
    | none => (a, v)
    | some x => if keep x then compactFrom n (i + 1) (v + 1) (a.set v x) else compactFrom n (i + 1) v a

/-- Compact an array in place, and cut it off after the survivors. -/
def compact (a : List α) : List α :=
  let r := compactFrom keep a.length 0 0 a
  r.1.take r.2

/-- The loop's invariant: the front of the array holds the survivors of what has
been read, and what has not been read is untouched. -/
theorem compactFrom_spec (orig : List α) : ∀ (n i v : ℕ) (a : List α), i + n = orig.length → v ≤ i →
    a.length = orig.length → a.drop i = orig.drop i → a.take v = (orig.take i).filter keep →
    (compactFrom keep n i v a).1.take (compactFrom keep n i v a).2 = orig.filter keep
  | 0, i, v, a, hn, hv, hl, hd, ht => by
    rw [compactFrom, ht, List.take_of_length_le (by omega)]
  | n + 1, i, v, a, hn, hv, hl, hd, ht => by
    have hi : i < orig.length := by omega
    -- the element read at `i` is still the original one
    have hx : a[i]? = some orig[i] := by
      rw [← List.head?_drop, hd, List.head?_drop, List.getElem?_eq_getElem hi]
    have hread : (orig.take (i + 1)).filter keep =
        (orig.take i).filter keep ++ if keep orig[i] then [orig[i]] else [] := by
      rw [List.take_add_one, List.getElem?_eq_getElem hi, List.filter_append]
      simp [List.filter_cons]
    have htail : orig.drop (i + 1) = (a.drop i).tail := by rw [hd, List.tail_drop]
    simp only [compactFrom, hx]
    split_ifs with hk
    · refine compactFrom_spec orig n (i + 1) (v + 1) _ (by omega) (by omega) (by simpa using hl) ?_ ?_
      · rw [List.drop_set_of_lt (by omega), htail, List.tail_drop]
      · rw [List.take_add_one, List.take_set_of_le (le_refl v), ht, hread, if_pos hk,
          List.getElem?_set_self (by omega)]
        rfl
    · refine compactFrom_spec orig n (i + 1) v a (by omega) (by omega) hl ?_ ?_
      · rw [htail, List.tail_drop]
      · rw [ht, hread, if_neg hk, List.append_nil]

/-- **The loop keeps exactly what it should, in order.** -/
theorem compact_eq_filter (a : List α) : compact keep a = a.filter keep :=
  compactFrom_spec keep a a.length 0 0 a (Nat.zero_add _) le_rfl rfl rfl (by simp)

end Compact

/-! ### The window -/

/-- A request that reads the clock as `now`, when the instants `ts` are kept: whether
it is let through, and the instants kept after it. -/
def window (max W now : ℤ) (ts : List ℤ) : Bool × List ℤ :=
  let kept := compact (fun s => now - W < s) ts
  if max ≤ kept.length then (false, kept) else (true, kept ++ [now])

/-- The instants of `log` in the window that ends at `t`. -/
def within (W t : ℤ) (log : List ℤ) : List ℤ := log.filter fun x => t - W < x ∧ x ≤ t

/-- No window of length `W` holds more than `max` of the instants of `log`. -/
def Capped (max W : ℤ) (log : List ℤ) : Prop := ∀ t, (within W t log).length ≤ max.toNat

/-- What is in the window that starts after `now - W`, no instant being later. -/
def recent (W now : ℤ) (log : List ℤ) : List ℤ := log.filter fun s => now - W < s

/-- The admissions after a request that reads the clock as `now`. -/
def logged (ok : Bool) (now : ℤ) (log : List ℤ) : List ℤ := if ok then log ++ [now] else log

section Window

variable {max W now : ℤ} {ts log : List ℤ}

theorem window_eq (max W now : ℤ) (ts : List ℤ) : window max W now ts =
    if max ≤ (recent W now ts).length then (false, recent W now ts) else (true, recent W now ts ++ [now]) := by
  simp only [window, compact_eq_filter]
  rfl

/-- A request is let through exactly when fewer than `max` instants are left. -/
theorem window_fst_iff : (window max W now ts).1 = true ↔ ((recent W now ts).length : ℤ) < max := by
  rw [window_eq]
  split_ifs with h
  · simpa using h
  · simpa using h

theorem window_snd_of_true (h : (window max W now ts).1 = true) :
    (window max W now ts).2 = recent W now ts ++ [now] := by
  rw [window_eq] at h ⊢
  split_ifs at h ⊢
  rfl

theorem window_snd_of_false (h : (window max W now ts).1 = false) : (window max W now ts).2 = recent W now ts := by
  rw [window_eq] at h ⊢
  split_ifs at h ⊢
  rfl

theorem mem_recent {x : ℤ} : x ∈ recent W now log ↔ x ∈ log ∧ now - W < x := by
  simp [recent]

/-- What has left the window does not come back to a later one. -/
theorem recent_recent {n : ℤ} (hn : now ≤ n) (l : List ℤ) : recent W n (recent W now l) = recent W n l := by
  simp only [recent, List.filter_filter]
  refine List.filter_congr fun x _ => ?_
  rw [Bool.eq_iff_iff]
  simp only [Bool.and_eq_true, decide_eq_true_eq]
  omega

theorem recent_append (l₁ l₂ : List ℤ) : recent W now (l₁ ++ l₂) = recent W now l₁ ++ recent W now l₂ :=
  List.filter_append ..

/-- When no instant is later than `t`, the two are the same. -/
theorem within_eq_recent {t : ℤ} (h : ∀ x ∈ log, x ≤ t) : within W t log = recent W t log :=
  List.filter_congr fun x hx => by simp [h x hx]

/-- What is not in the window that ends at `now` is not in one that ends later. -/
theorem within_eq_nil_of_le {t : ℤ} (ht : now ≤ t) (hle : ∀ x ∈ log, x ≤ now) (h : within W now log = []) :
    within W t log = [] := by
  rw [within, List.filter_eq_nil_iff] at h ⊢
  intro x hx
  have hout := h x hx
  have := hle x hx
  simp only [decide_eq_true_eq] at hout ⊢
  omega

theorem within_snoc (t : ℤ) (log : List ℤ) : within W t (log ++ [now]) =
    within W t log ++ if t - W < now ∧ now ≤ t then [now] else [] := by
  simp [within, List.filter_append, List.filter_cons]

/-! ### Readings in order -/

/-- **The instants kept are exact** after readings in order up to `m`: from `m` on, they
and the log of admissions have the same instants in the window. -/
structure Exact (W m : ℤ) (ts log : List ℤ) : Prop where
  /-- No admission is later than `m`. -/
  le : ∀ x ∈ log, x ≤ m
  /-- The same instants are in the window. -/
  recent_eq : ∀ n, m ≤ n → recent W n ts = recent W n log

theorem exact_nil (W m : ℤ) : Exact W m [] [] := ⟨by simp, fun _ _ => rfl⟩

variable {m : ℤ}

/-- A later reading keeps the instants exact. -/
theorem Exact.step (h : Exact W m ts log) (hm : m ≤ now) :
    Exact W now (window max W now ts).2 (logged (window max W now ts).1 now log) := by
  cases hok : (window max W now ts).1 with
  | true =>
    rw [window_snd_of_true hok]
    simp only [logged, if_true]
    refine ⟨fun x hx => ?_, fun n hn => ?_⟩
    · rcases List.mem_append.mp hx with hx | hx
      · exact (h.le x hx).trans hm
      · exact (List.mem_singleton.mp hx).le
    · rw [recent_append, recent_append, recent_recent hn, h.recent_eq n (hm.trans hn)]
  | false =>
    rw [window_snd_of_false hok]
    simp only [logged, Bool.false_eq_true, if_false]
    exact ⟨fun x hx => (h.le x hx).trans hm, fun n hn => by rw [recent_recent hn, h.recent_eq n (hm.trans hn)]⟩

/-- **A later reading keeps the cap.** -/
theorem Capped.step (hc : Capped max W log) (h : Exact W m ts log) (hm : m ≤ now) :
    Capped max W (logged (window max W now ts).1 now log) := by
  intro t
  cases hok : (window max W now ts).1 with
  | false => simpa [logged] using hc t
  | true =>
    simp only [logged, if_true, within_snoc]
    split_ifs with ht
    · -- every admission in the window that ends at `t` was still kept at `now`
      have hlt : ((recent W now log).length : ℤ) < max := by
        rw [← h.recent_eq now hm]; exact window_fst_iff.mp hok
      have hsub : (within W t log).length ≤ (recent W now log).length := by
        refine (List.monotone_filter_right log fun x hx => ?_).length_le
        simp only [decide_eq_true_eq] at hx ⊢
        omega
      rw [List.length_append, List.length_singleton]
      omega
    · rw [List.append_nil]
      exact hc t

theorem capped_nil (max W : ℤ) : Capped max W [] := fun _ => by simp [within]

/-! ### One admission at a time -/

/-- With room for at most one admission, the instants kept are just the last
admission, and each admission is `W` after the one before. -/
structure Single (max W : ℤ) (ts log : List ℤ) : Prop where
  /-- Without room for one, nothing is let through. -/
  empty : max ≤ 0 → log = []
  /-- Only the last admission is kept. -/
  kept : 0 < max → ts = log.getLast?.toList
  /-- Admissions are at least `W` apart. -/
  spaced : log.Pairwise fun a b => a + W ≤ b

theorem single_nil (max W : ℤ) : Single max W [] [] := ⟨fun _ => rfl, fun _ => rfl, .nil⟩

/-- The last of the admissions is the latest. -/
theorem Single.le_last (h : Single max W ts log) (hW : 0 < W) {a l : ℤ} (ha : a ∈ log)
    (hl : log.getLast? = some l) : a ≤ l := by
  obtain ⟨init, rfl⟩ := List.getLast?_eq_some_iff.mp hl
  rcases List.mem_append.mp ha with ha | ha
  · have := (List.pairwise_append.mp h.spaced).2.2 a ha l (by simp)
    omega
  · exact (List.mem_singleton.mp ha).le

/-- Any reading keeps this, in or out of order. -/
theorem Single.step (h : Single max W ts log) (hW : 0 < W) (hmax : max ≤ 1) :
    Single max W (window max W now ts).2 (logged (window max W now ts).1 now log) := by
  cases hok : (window max W now ts).1 with
  | true =>
    have hlen := window_fst_iff.mp hok
    have hpos : 0 < max := by omega
    rw [window_snd_of_true hok]
    simp only [logged, if_true]
    -- nothing is left of the instants kept, so the last admission has left the window
    have hnil : recent W now ts = [] := List.eq_nil_of_length_eq_zero (by omega)
    refine ⟨fun h0 => by omega, fun _ => by simp [hnil],
      List.pairwise_append.mpr ⟨h.spaced, List.pairwise_singleton _ _, fun a ha b hb => ?_⟩⟩
    obtain rfl := List.mem_singleton.mp hb
    cases hl : log.getLast? with
    | none => rw [List.getLast?_eq_none_iff.mp hl] at ha; cases ha
    | some l =>
      have hgone : ¬ b - W < l := by
        intro hlt
        have : l ∈ recent W b ts := mem_recent.mpr ⟨by rw [h.kept hpos, hl]; simp, hlt⟩
        rw [hnil] at this
        cases this
      have := h.le_last hW ha hl
      omega
  | false =>
    have hlen : max ≤ (recent W now ts).length := by
      by_contra hlt
      rw [window_fst_iff.mpr (by omega)] at hok
      cases hok
    rw [window_snd_of_false hok]
    simp only [logged, Bool.false_eq_true, if_false]
    refine ⟨h.empty, fun hpos => ?_, h.spaced⟩
    -- the one instant kept is still in the window
    have hts : ts.length ≤ 1 := by
      rw [h.kept hpos]
      cases log.getLast? <;> simp
    have hle : (recent W now ts).length ≤ ts.length := List.length_filter_le ..
    rw [← h.kept hpos]
    exact List.filter_eq_self.mpr (List.length_filter_eq_length_iff.mp (by unfold recent at hle hlen; omega))

/-- **With room for at most one admission, the cap holds**, whatever the order of the
readings. -/
theorem Single.capped (h : Single max W ts log) (hmax : max ≤ 1) : Capped max W log := by
  intro t
  by_cases h0 : max ≤ 0
  · simp [within, h.empty h0]
  · -- two admissions in one window would be less than `W` apart
    have hp : (within W t log).Pairwise fun a b => a + W ≤ b := h.spaced.sublist List.filter_sublist
    have hmem : ∀ x ∈ within W t log, t - W < x ∧ x ≤ t := fun x hx => by
      simpa using (List.mem_filter.mp hx).2
    rcases hw : within W t log with _ | ⟨a, _ | ⟨b, l⟩⟩
    · simp
    · simp only [List.length_singleton]
      omega
    · rw [hw] at hp hmem
      have hab := (List.pairwise_cons.mp hp).1 b (by simp)
      have ha := hmem a (by simp)
      have hb := hmem b (by simp)
      omega

end Window

/-! ### Runs -/

/-- A request, with the instants kept and the log of admissions before it. -/
def windowStep (max W : ℤ) (p : List ℤ × List ℤ) (now : ℤ) : List ℤ × List ℤ :=
  ((window max W now p.1).2, logged (window max W now p.1).1 now p.2)

/-- Requests that read the clock as `rs`, in the order in which they are answered: the
instants kept at the end, and the log of admissions. -/
def windowRun (max W : ℤ) (rs : List ℤ) : List ℤ × List ℤ := rs.foldl (windowStep max W) ([], [])

theorem windowRun_snoc (max W : ℤ) (rs : List ℤ) (now : ℤ) :
    windowRun max W (rs ++ [now]) = windowStep max W (windowRun max W rs) now := by
  simp [windowRun]

theorem Exact.mono {W m m' : ℤ} {ts log : List ℤ} (h : Exact W m ts log) (hm : m ≤ m') : Exact W m' ts log :=
  ⟨fun x hx => (h.le x hx).trans hm, fun n hn => h.recent_eq n (hm.trans hn)⟩

/-- Readings in order keep the instants exact, and the cap. -/
theorem windowRun_exact (max W : ℤ) {rs : List ℤ} (hs : rs.Pairwise (· ≤ ·)) {m : ℤ} (hm : ∀ r ∈ rs, r ≤ m) :
    Exact W m (windowRun max W rs).1 (windowRun max W rs).2 ∧ Capped max W (windowRun max W rs).2 := by
  induction rs using List.reverseRecOn generalizing m with
  | nil => exact ⟨exact_nil W m, capped_nil max W⟩
  | append_singleton rs now ih =>
    obtain ⟨hs', -, hlast⟩ := List.pairwise_append.mp hs
    obtain ⟨hex, hcap⟩ := ih hs' fun r hr => hlast r hr now (by simp)
    rw [windowRun_snoc]
    exact ⟨(hex.step le_rfl).mono (hm now (by simp)), hcap.step hex le_rfl⟩

/-- **Readings in order keep the cap.** -/
theorem windowRun_capped_of_sorted (max W : ℤ) {rs : List ℤ} (hs : rs.Pairwise (· ≤ ·)) :
    Capped max W (windowRun max W rs).2 := by
  obtain ⟨m, hm⟩ : ∃ m, ∀ r ∈ rs, r ≤ m := by
    cases hl : rs.getLast? with
    | none => exact ⟨0, by simp [List.getLast?_eq_none_iff.mp hl]⟩
    | some l =>
      obtain ⟨init, rfl⟩ := List.getLast?_eq_some_iff.mp hl
      refine ⟨l, fun r hr => ?_⟩
      rcases List.mem_append.mp hr with hr | hr
      · exact (List.pairwise_append.mp hs).2.2 r hr l (by simp)
      · exact (List.mem_singleton.mp hr).le
  exact (windowRun_exact max W hs hm).2

/-- **With room for at most one admission, readings in any order keep the cap.** -/
theorem windowRun_capped_of_le_one {max W : ℤ} (hW : 0 < W) (hmax : max ≤ 1) (rs : List ℤ) :
    Capped max W (windowRun max W rs).2 := by
  have h : Single max W (windowRun max W rs).1 (windowRun max W rs).2 := by
    induction rs using List.reverseRecOn with
    | nil => exact single_nil max W
    | append_singleton rs now ih =>
      rw [windowRun_snoc]
      exact ih.step hW hmax
  exact h.capped hmax

/-- Requests at one instant are let through while there is room. -/
theorem windowRun_replicate {max W : ℤ} (hW : 0 < W) (k : ℕ) (hk : (k : ℤ) ≤ max) :
    windowRun max W (List.replicate k 0) = (List.replicate k 0, List.replicate k 0) := by
  induction k with
  | zero => rfl
  | succ k ih =>
    have hrec : recent W 0 (List.replicate k 0) = List.replicate k 0 := List.filter_eq_self.mpr fun x hx => by
      rw [(List.mem_replicate.mp hx).2]; simpa using hW
    have hok : (window max W 0 (List.replicate k 0)).1 = true := by
      rw [window_fst_iff, hrec, List.length_replicate]; omega
    rw [List.replicate_succ', windowRun_snoc, ih (by omega), windowStep, window_snd_of_true hok, hok, hrec]
    rfl

/-- **With room for two, readings out of order break the cap**: when the window is full
of admissions at `0`, a request that reads `W` drops them all, and one that read `0`
before it and is answered after it is let through. -/
theorem windowRun_not_capped {max W : ℤ} (hW : 0 < W) (hmax : 2 ≤ max) :
    ¬ Capped max W (windowRun max W (List.replicate max.toNat 0 ++ [W] ++ [0])).2 := by
  have hdrop : recent W W (List.replicate max.toNat 0) = [] := List.filter_eq_nil_iff.mpr fun x hx => by
    rw [(List.mem_replicate.mp hx).2]; simp
  have hkeep : recent W 0 [W] = [W] := List.filter_eq_self.mpr fun x hx => by
    rw [List.mem_singleton.mp hx]; simp only [decide_eq_true_eq]; omega
  have hok : (window max W W (List.replicate max.toNat 0)).1 = true := by
    rw [window_fst_iff, hdrop, List.length_nil]; omega
  have hok' : (window max W 0 [W]).1 = true := by
    rw [window_fst_iff, hkeep, List.length_singleton]; omega
  have hall : within W 0 (List.replicate max.toNat 0) = List.replicate max.toNat 0 :=
    List.filter_eq_self.mpr fun x hx => by rw [(List.mem_replicate.mp hx).2]; simpa using hW
  intro hc
  have := hc 0
  rw [windowRun_snoc, windowRun_snoc, windowRun_replicate hW _ (by omega), windowStep, windowStep,
    window_snd_of_true hok, hok, hdrop, List.nil_append, hok', logged, if_pos rfl, logged, if_pos rfl, within_snoc,
    within_snoc, hall, if_neg (by omega), if_pos (by omega), List.append_nil, List.length_append,
    List.length_replicate, List.length_singleton] at this
  omega

end RetryEndpoint.Theory
