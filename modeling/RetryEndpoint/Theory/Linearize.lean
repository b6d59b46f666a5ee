import RetryEndpoint.Theory.Runs

/-!
# Linearization

Calls on a shared object, each of several steps, interleave. They are as good as calls one after
another if each takes effect at one of its steps: what the calls return, in the order of these
steps, is then what the object in its sequential form returns to them in that order.

`record` is what a sequential object answers to a list of calls. `linearize` is the rule: a relation
between the states of the system and those of the sequential object that every step keeps, where a
step leaves the record of the system alone or adds one call to it, with the sequential answer.
-/

namespace RetryEndpoint.Theory

universe u v w x y

variable {σ : Type u} {ε : Type v} {α : Type w} {κ : Type x} {ρ : Type y}

/-- What a sequential object answers to calls one after another. -/
def record (astep : α → κ → α) (answer : α → κ → ρ) (a : α) (ks : List κ) : List (κ × ρ) :=
  seen astep (fun a k => some (k, answer a k)) a ks

variable {astep : α → κ → α} {answer : α → κ → ρ}

theorem record_snoc (a : α) (ks : List κ) (k : κ) :
    record astep answer a (ks ++ [k]) = record astep answer a ks ++ [(k, answer (runFrom astep a ks) k)] :=
  seen_snoc ..

variable (astep answer) in
theorem map_fst_record (a : α) (ks : List κ) : (record astep answer a ks).map Prod.fst = ks := by
  induction ks using List.reverseRecOn with
  | nil => rfl
  | append_singleton ks k ih => rw [record_snoc, List.map_append, ih]; rfl

theorem record_append (a : α) (ks ks' : List κ) :
    record astep answer a (ks ++ ks') = record astep answer a ks ++ record astep answer (runFrom astep a ks) ks' := by
  induction ks' using List.reverseRecOn with
  | nil => simp [record, seen]
  | append_singleton ks' k ih =>
    rw [← List.append_assoc, record_snoc, ih, record_snoc, List.append_assoc, runFrom, runFrom, runFrom,
      List.foldl_append]

/-- An answer in a record is the answer after the calls before it. -/
theorem answer_of_record {a : α} {log : List (κ × ρ)} (h : log = record astep answer a (log.map Prod.fst))
    {pre post : List (κ × ρ)} {k : κ} {r : ρ} (hlog : log = pre ++ (k, r) :: post) :
    r = answer (runFrom astep a (pre.map Prod.fst)) k := by
  have hcalls : log.map Prod.fst = pre.map Prod.fst ++ ([k] ++ post.map Prod.fst) := by simp [hlog]
  rw [hcalls, record_append, record_append, hlog] at h
  have hlen : pre.length = (record astep answer a (pre.map Prod.fst)).length := by
    have hfst := congrArg List.length (map_fst_record astep answer a (pre.map Prod.fst))
    rw [List.length_map, List.length_map] at hfst
    exact hfst.symm
  obtain ⟨-, hrest⟩ := List.append_inj h hlen
  exact (Prod.mk.inj (List.cons.inj hrest).1).2

/-- A step of the system, as the sequential object sees it: nothing, or a call. -/
def Linear (astep : α → κ → α) (answer : α → κ → ρ) (R : σ → α → Prop) (log : σ → List (κ × ρ)) (s s' : σ) (a : α) :
    Prop :=
  (R s' a ∧ log s' = log s) ∨ ∃ k, R s' (astep a k) ∧ log s' = log s ++ [(k, answer a k)]

/-- **If every step is nothing or a call to the sequential object, a run is a run of it.** -/
theorem linearize {step : σ → ε → σ} {R : σ → α → Prop} {log : σ → List (κ × ρ)} {s : σ} {a : α} (h₀ : R s a)
    (hlog : log s = []) (hstep : ∀ s a e, R s a → Linear astep answer R log s (step s e) a) (es : List ε) :
    R (runFrom step s es) (runFrom astep a ((log (runFrom step s es)).map Prod.fst)) ∧
      log (runFrom step s es) = record astep answer a ((log (runFrom step s es)).map Prod.fst) := by
  induction es using List.reverseRecOn with
  | nil =>
    simp only [runFrom, List.foldl_nil, hlog]
    exact ⟨h₀, rfl⟩
  | append_singleton es e ih =>
    obtain ⟨hR, hrec⟩ := ih
    rw [runFrom_snoc]
    rcases hstep _ _ e hR with ⟨hR', hlog'⟩ | ⟨k, hR', hlog'⟩
    · rw [hlog']
      exact ⟨hR', hrec⟩
    · rw [hlog', List.map_append]
      refine ⟨?_, ?_⟩
      · rw [List.map_singleton, runFrom_snoc]
        exact hR'
      · rw [List.map_singleton, record_snoc, ← hrec]

end RetryEndpoint.Theory
