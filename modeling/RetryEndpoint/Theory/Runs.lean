import Mathlib.Data.List.Induction

/-!
# Runs of a step function

A system that takes one event after another is a function `step`, and a run of it is the
fold of a list of events. What is proved about a run is proved by one of these rules: an
invariant that every step keeps holds after every run (`runFrom_invariant`), and one that
a step keeps under a condition on the state and the event holds after every run whose
events meet the condition where they happen (`Along.invariant`), and at every point of it
(`Along.invariant_along`); a run along which a measure falls is bounded by it (`Along.length_le`).
What is `seen` of two runs, one of which lacks some events of the
other, is compared by `seen_filter`.
-/

namespace RetryEndpoint.Theory

universe u v

variable {σ : Type u} {ε : Type v} (step : σ → ε → σ) (s : σ)

/-- The state after the events `es`. -/
def runFrom (es : List ε) : σ := es.foldl step s

theorem runFrom_snoc (es : List ε) (e : ε) : runFrom step s (es ++ [e]) = step (runFrom step s es) e :=
  List.foldl_append ..

/-- Each event of the run meets `Q` in the state in which it happens. -/
def Along (Q : σ → ε → Prop) (es : List ε) : Prop := ∀ pre e post, es = pre ++ e :: post → Q (runFrom step s pre) e

/-- A list with one more element is split before its end or at it. -/
theorem split_snoc {l pre post : List ε} {x y : ε} (h : l ++ [x] = pre ++ y :: post) :
    (post = [] ∧ y = x ∧ pre = l) ∨ ∃ post', post = post' ++ [x] ∧ l = pre ++ y :: post' := by
  rcases List.eq_nil_or_concat post with rfl | ⟨post', z, rfl⟩
  · obtain ⟨rfl, hx⟩ := List.append_inj' h rfl
    exact .inl ⟨rfl, by simpa using hx.symm, rfl⟩
  · rw [List.concat_eq_append] at h ⊢
    have h' : l ++ [x] = (pre ++ y :: post') ++ [z] := by simpa using h
    obtain ⟨rfl, hx⟩ := List.append_inj' h' rfl
    obtain rfl : x = z := by simpa using hx
    exact .inr ⟨post', rfl, rfl⟩

/-- Where a list is split, what comes before is related to what comes next if the list is. -/
theorem rel_of_pairwise_split {R : ε → ε → Prop} {pre post : List ε} {e : ε} (h : (pre ++ e :: post).Pairwise R) :
    ∀ a ∈ pre, R a e := fun a ha => (List.pairwise_append.mp h).2.2 a ha e (by simp)

/-- The elements of a list with one more element, by their places. -/
theorem getElem?_snoc_eq_some_iff {l : List ε} {x y : ε} {n : ℕ} :
    (l ++ [x])[n]? = some y ↔ l[n]? = some y ∨ n = l.length ∧ y = x := by
  rcases Nat.lt_trichotomy n l.length with hn | rfl | hn
  · simp [List.getElem?_append_left hn, Nat.ne_of_lt hn]
  · simp [eq_comm]
  · have hle : l.length ≤ n := Nat.le_of_lt hn
    have hne : (l ++ [x]).length ≤ n := by rw [List.length_append]; exact hn
    simp [List.getElem?_eq_none hne, List.getElem?_eq_none hle, Nat.ne_of_gt hn]

variable {step s}

theorem along_snoc_iff {Q : σ → ε → Prop} {es : List ε} {e : ε} :
    Along step s Q (es ++ [e]) ↔ Along step s Q es ∧ Q (runFrom step s es) e := by
  constructor
  · intro h
    exact ⟨fun pre e' post hes => h pre e' (post ++ [e]) (by simp [hes]), h es e [] rfl⟩
  · rintro ⟨h, he⟩ pre e' post hes
    rcases split_snoc hes with ⟨-, rfl, rfl⟩ | ⟨post', -, hes'⟩
    · exact he
    · exact h pre e' post' hes'

theorem along_nil {Q : σ → ε → Prop} : Along step s Q [] := by
  intro pre e post h
  simp at h

theorem along_cons_iff {Q : σ → ε → Prop} {es : List ε} {e : ε} :
    Along step s Q (e :: es) ↔ Q s e ∧ Along step (step s e) Q es := by
  constructor
  · intro h
    exact ⟨h [] e es rfl, fun pre e' post hes => h (e :: pre) e' post (by rw [hes]; rfl)⟩
  · rintro ⟨he, h⟩ pre e' post hes
    cases pre with
    | nil =>
      obtain ⟨rfl, -⟩ := List.cons.inj hes
      exact he
    | cons x pre =>
      obtain ⟨rfl, hes'⟩ := List.cons.inj hes
      exact h pre e' post hes'

theorem Along.and {Q R : σ → ε → Prop} {es : List ε} (h : Along step s Q es) (h' : Along step s R es) :
    Along step s (fun s e => Q s e ∧ R s e) es := fun pre e post hes => ⟨h pre e post hes, h' pre e post hes⟩

/-- A run along `Q` is one up to every point. -/
theorem Along.of_append {Q : σ → ε → Prop} {es es' : List ε} (h : Along step s Q (es ++ es')) : Along step s Q es :=
  fun pre e post hes => h pre e (post ++ es') (by simp [hes])

theorem along_of_forall {Q : ε → Prop} {es : List ε} (h : ∀ e ∈ es, Q e) : Along step s (fun _ e => Q e) es := by
  rintro pre e post rfl
  exact h e (by simp)

theorem Along.mono {Q R : σ → ε → Prop} {es : List ε} (h : Along step s Q es) (hQR : ∀ s e, Q s e → R s e) :
    Along step s R es := fun pre e post hes => hQR _ _ (h pre e post hes)

/-- **An invariant that steps keep where `Q` holds** holds after a run along `Q`. -/
theorem Along.invariant {Q : σ → ε → Prop} {I : σ → Prop} (h₀ : I s)
    (hstep : ∀ s e, I s → Q s e → I (step s e)) {es : List ε} (h : Along step s Q es) :
    I (runFrom step s es) := by
  induction es using List.reverseRecOn with
  | nil => exact h₀
  | append_singleton es e ih =>
    obtain ⟨hes, he⟩ := along_snoc_iff.mp h
    rw [runFrom_snoc]
    exact hstep _ e (ih hes) he

/-- It holds before and after every event of such a run. -/
theorem Along.invariant_along {Q : σ → ε → Prop} {I : σ → Prop} (h₀ : I s)
    (hstep : ∀ s e, I s → Q s e → I (step s e)) {es : List ε} (h : Along step s Q es) :
    Along step s (fun s e => I s ∧ Q s e ∧ I (step s e)) es := by
  rintro pre e post rfl
  have hI : I (runFrom step s pre) := h.of_append.invariant h₀ hstep
  have hQ : Q (runFrom step s pre) e := h pre e post rfl
  exact ⟨hI, hQ, hstep _ e hI hQ⟩

/-- **An invariant that every step keeps** holds after every run. -/
theorem runFrom_invariant {I : σ → Prop} (h₀ : I s) (hstep : ∀ s e, I s → I (step s e)) (es : List ε) :
    I (runFrom step s es) :=
  Along.invariant h₀ (fun s e hi _ => hstep s e hi) (along_of_forall (fun _ _ => trivial : ∀ e ∈ es, True))

/-- **A run along which a measure falls is no longer than the measure.** -/
theorem Along.length_le {Q : σ → ε → Prop} {I : σ → Prop} {μ : σ → ℕ} (h₀ : I s)
    (hstep : ∀ s e, I s → Q s e → I (step s e)) (hlt : ∀ s e, I s → Q s e → μ (step s e) < μ s) {es : List ε}
    (h : Along step s Q es) : es.length + μ (runFrom step s es) ≤ μ s := by
  induction es using List.reverseRecOn with
  | nil => simp [runFrom]
  | append_singleton es e ih =>
    obtain ⟨hes, he⟩ := along_snoc_iff.mp h
    have hfall := hlt _ e (hes.invariant h₀ hstep) he
    have hlen := ih hes
    rw [runFrom_snoc, List.length_append, List.length_singleton]
    omega

/-! ### Two runs -/

universe w

variable {β : Type w}

/-- What is seen of a run: what `see` makes of each event in the state in which it happens, in order. -/
def seen (step : σ → ε → σ) (see : σ → ε → Option β) : σ → List ε → List β
  | _, [] => []
  | s, e :: es => (see s e).toList ++ seen step see (step s e) es

theorem seen_snoc (see : σ → ε → Option β) (s : σ) (es : List ε) (e : ε) :
    seen step see s (es ++ [e]) = seen step see s es ++ (see (runFrom step s es) e).toList := by
  induction es generalizing s with
  | nil => simp [seen, runFrom]
  | cons e' es ih => rw [List.cons_append, seen, ih, seen, List.append_assoc]; rfl

/-- **Events that change nothing of what is seen can be taken out.** `R` relates the states of
the run to those of the run without them. -/
theorem seen_filter {see : σ → ε → Option β} {keep : ε → Bool} {R : σ → σ → Prop}
    (hsee : ∀ s s' e, R s s' → see s e = see s' e)
    (hkeep : ∀ s s' e, R s s' → keep e = true → R (step s e) (step s' e))
    (hskip : ∀ s s' e, R s s' → keep e = false → see s e = none ∧ R (step s e) s')
    {s s' : σ} (h : R s s') (es : List ε) : seen step see s es = seen step see s' (es.filter keep) := by
  induction es generalizing s s' with
  | nil => rfl
  | cons e es ih =>
    cases hk : keep e with
    | true => rw [List.filter_cons_of_pos hk, seen, seen, hsee s s' e h, ih (hkeep s s' e h hk)]
    | false =>
      obtain ⟨hnone, hR⟩ := hskip s s' e h hk
      rw [List.filter_cons_of_neg (by simp [hk]), seen, hnone, ih hR]
      rfl

end RetryEndpoint.Theory
