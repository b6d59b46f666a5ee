import RetryEndpoint.Config
import RetryEndpoint.Theory.Runs

/-!
# Readiness

`metrics/metrics.go`: `/readyz` compares the number of workers that are ready with a total.
Both halves of the endpoint, the ingress worker and the NACK server, are counted when their
sockets are set up and taken off the count when they return. The total is the number of
ingress workers of the configuration.

## The model

A half goes from `starting` to `setUp`, when its socket is there, to `serving`, when it has
called `WorkerReady`, and to `exited`; it may also fail while it is starting. The deferred
`WorkerDone` is part of the return. The halves run in goroutines of their own, so a run is any
list of such steps, with `SetDraining` among them; a step that its half is not at does nothing.

## What is proved

* `readyCount_run` — the count is the number of halves that serve.
* `ready_iff_orderly` — `/readyz` answers 200 only while both halves are up exactly in the
  runs in which a half is counted only when the other is up, and leaves only when the other
  is not counted.
-/

namespace RetryEndpoint.Metrics

open Go Theory

/-! ### The recorder -/

/-- `Recorder`: what `/readyz` reads. -/
structure Recorder where
  /-- How many workers are ready. -/
  readyCount : ℤ
  /-- How many there should be. -/
  numWorkers : ℤ
  /-- Whether the endpoint is draining. -/
  draining : Bool

/-- `New`. -/
def Recorder.new (numWorkers : ℤ) : Recorder := ⟨0, numWorkers, false⟩

/-- `WorkerReady`. -/
def Recorder.workerReady (r : Recorder) : Recorder := { r with readyCount := r.readyCount + 1 }

/-- `WorkerDone`. -/
def Recorder.workerDone (r : Recorder) : Recorder := { r with readyCount := r.readyCount - 1 }

/-- `SetDraining`. -/
def Recorder.setDraining (r : Recorder) : Recorder := { r with draining := true }

/-- An HTTP response. -/
structure Response where
  /-- The status code. -/
  code : ℕ
  /-- The body. -/
  body : String

/-- The body of an answer to `/readyz`. -/
def readyzBody (status : String) (ready total : ℤ) : String :=
  "\x7b\"status\":\"" ++ status ++ "\",\"workers_ready\":" ++ intString ready ++ ",\"workers_total\":" ++
    intString total ++ "\x7d"

/-- `handleReadyz`. -/
def Recorder.handleReadyz (r : Recorder) : Response :=
  let ready := r.readyCount
  let total := r.numWorkers
  if r.draining then ⟨503, readyzBody "draining" ready total⟩
  else if total ≤ ready ∧ 0 < total then ⟨200, readyzBody "ready" ready total⟩
  else ⟨503, readyzBody "starting" ready total⟩

theorem handleReadyz_eq_200_iff (r : Recorder) :
    r.handleReadyz.code = 200 ↔ r.draining = false ∧ r.numWorkers ≤ r.readyCount ∧ 0 < r.numWorkers := by
  unfold Recorder.handleReadyz
  dsimp only
  split_ifs with hd hr
  · simp [hd]
  · simp [hd, hr]
  · simp [hd, hr]

/-! ### The two halves -/

/-- The halves of an endpoint. -/
inductive Half where
  | ingress
  | server
  deriving DecidableEq

/-- The other half. -/
def Half.other : Half → Half
  | .ingress => .server
  | .server => .ingress

/-- How far a half is. -/
inductive Phase where
  /-- Its socket is not set up. -/
  | starting
  /-- Its socket is set up, and it has not been counted. -/
  | setUp
  /-- It has been counted. -/
  | serving
  /-- It has returned. -/
  | exited
  deriving DecidableEq

/-- Its socket is there, and it has not returned. -/
def Phase.Up (p : Phase) : Prop := p = .setUp ∨ p = .serving

instance (p : Phase) : Decidable p.Up := inferInstanceAs (Decidable (p = .setUp ∨ p = .serving))

/-- The recorder, and how far the halves are. -/
structure State where
  /-- The recorder. -/
  recorder : Recorder
  /-- The halves. -/
  phase : Half → Phase

/-- What can happen next. -/
inductive Event where
  /-- A half has set up its socket. -/
  | setUp (h : Half)
  /-- A half calls `WorkerReady`. -/
  | ready (h : Half)
  /-- A half returns: with an error while it is starting, or from its loop. -/
  | exit (h : Half)
  /-- `SetDraining`. -/
  | drain

/-- One step. -/
def State.step (s : State) : Event → State
  | .setUp h => if s.phase h = .starting then { s with phase := Function.update s.phase h .setUp } else s
  | .ready h =>
    if s.phase h = .setUp then ⟨s.recorder.workerReady, Function.update s.phase h .serving⟩ else s
  | .exit h =>
    if s.phase h = .starting then { s with phase := Function.update s.phase h .exited }
    else if s.phase h = .serving then ⟨s.recorder.workerDone, Function.update s.phase h .exited⟩
    else s
  | .drain => { s with recorder := s.recorder.setDraining }

/-- The endpoint when `run` starts its goroutines. -/
def State.start (cfg : Config) : State := ⟨.new cfg.numWorkers, fun _ => .starting⟩

/-- A run. -/
def run (cfg : Config) (es : List Event) : State := runFrom State.step (State.start cfg) es

/-- `/readyz` answers 200 only when not draining and both halves are up. -/
def State.ReadyMeansServing (s : State) : Prop :=
  s.recorder.handleReadyz.code = 200 → s.recorder.draining = false ∧ ∀ h, (s.phase h).Up

/-- A step that keeps the two halves together: unless the endpoint is draining, a half is
counted only when the other is up, and returns from its loop only when the other is not
counted. -/
def State.Orderly (s : State) : Event → Prop
  | .ready h => s.phase h = .setUp → s.recorder.draining ∨ (s.phase h.other).Up
  | .exit h => s.phase h = .serving → s.recorder.draining ∨ s.phase h.other ≠ .serving
  | .setUp _ | .drain => True

/-! ### The count -/

@[simp] theorem other_other (h : Half) : h.other.other = h := by cases h <;> rfl

theorem other_ne (h : Half) : h.other ≠ h := by cases h <;> decide

/-- What holds of a half and of the other holds of both. -/
theorem forall_half_iff {P : Half → Prop} (h : Half) : (∀ h', P h') ↔ P h ∧ P h.other := by
  constructor
  · exact fun hall => ⟨hall h, hall h.other⟩
  · rintro ⟨h₁, h₂⟩ h'
    cases h <;> cases h' <;> assumption

/-- How much a phase adds to the count. -/
def Phase.count (p : Phase) : ℤ := if p = .serving then 1 else 0

/-- The count in a state with one ingress worker. -/
structure State.Counted (s : State) : Prop where
  /-- The total is one. -/
  numWorkers : s.recorder.numWorkers = 1
  /-- The count is the number of halves that serve. -/
  readyCount : ∀ h, s.recorder.readyCount = (s.phase h).count + (s.phase h.other).count

/-- A half that goes on to another phase changes the count by what the phases add. -/
theorem State.Counted.update {s : State} (hs : s.Counted) {h : Half} {p : Phase} {r : Recorder}
    (hn : r.numWorkers = s.recorder.numWorkers)
    (hr : r.readyCount - s.recorder.readyCount = p.count - (s.phase h).count) :
    State.Counted ⟨r, Function.update s.phase h p⟩ := by
  refine ⟨hn.trans hs.numWorkers, (forall_half_iff h).mpr ⟨?_, ?_⟩⟩
  · have := hs.readyCount h
    simp only [Function.update_self, Function.update_of_ne (other_ne h)]
    omega
  · have := hs.readyCount h
    simp only [other_other, Function.update_self, Function.update_of_ne (other_ne h)]
    omega

theorem State.Counted.step {s : State} (hs : s.Counted) (e : Event) : (s.step e).Counted := by
  cases e with
  | setUp h =>
    simp only [State.step]
    split_ifs with hp
    · exact hs.update rfl (by simp [hp, Phase.count])
    · exact hs
  | ready h =>
    simp only [State.step]
    split_ifs with hp
    · exact hs.update rfl (by simp [hp, Phase.count, Recorder.workerReady])
    · exact hs
  | exit h =>
    simp only [State.step]
    split_ifs with hp hp'
    · exact hs.update rfl (by simp [hp, Phase.count])
    · exact hs.update rfl (by simp [hp', Phase.count, Recorder.workerDone])
    · exact hs
  | drain => exact ⟨hs.numWorkers, hs.readyCount⟩

/-- **The count is the number of halves that serve**, in every run. -/
theorem readyCount_run {env : Config.Env} {f : Config.Flags} {cfg : Config} (h : Config.load env f = .ok cfg)
    (es : List Event) : (run cfg es).Counted := by
  refine runFrom_invariant (I := State.Counted) ⟨?_, fun _ => rfl⟩ (fun _ e hs => hs.step e) es
  exact congrArg Nat.cast (Config.load_spec h).2.1

/-! ### The two halves together -/

/-- When a half is counted the other is up, unless the endpoint is draining. -/
def State.Together (s : State) : Prop := s.recorder.draining = false → ∀ h, s.phase h = .serving → (s.phase h.other).Up

/-- One half that serves is enough for `/readyz`. -/
theorem State.Counted.ready_iff {s : State} (hs : s.Counted) : s.ReadyMeansServing ↔ s.Together := by
  have hcount : s.recorder.numWorkers ≤ s.recorder.readyCount ∧ 0 < s.recorder.numWorkers ↔
      ∃ h, s.phase h = .serving := by
    have hc := hs.readyCount .ingress
    rw [hs.numWorkers, hc]
    constructor
    · rintro ⟨hle, -⟩
      by_contra hnone
      rw [not_exists] at hnone
      simp [Phase.count, hnone] at hle
    · rintro ⟨h, hh⟩
      refine ⟨?_, by decide⟩
      rw [← hc, hs.readyCount h, Phase.count, if_pos hh, Phase.count]
      split_ifs <;> decide
  rw [State.ReadyMeansServing, handleReadyz_eq_200_iff, hcount, State.Together]
  constructor
  · intro hready hd h hh
    exact (hready ⟨hd, h, hh⟩).2 h.other
  · rintro htogether ⟨hd, h, hh⟩
    exact ⟨hd, (forall_half_iff h).mpr ⟨.inr hh, htogether hd h hh⟩⟩

theorem together_iff {s : State} (h : Half) : s.Together ↔ (s.recorder.draining = false →
    (s.phase h = .serving → (s.phase h.other).Up) ∧ (s.phase h.other = .serving → (s.phase h).Up)) := by
  rw [State.Together]
  exact imp_congr_right fun _ => by rw [forall_half_iff h, other_other]

/-- A step keeps the halves together exactly when it is orderly. -/
theorem together_step_iff {s : State} (hs : s.Together) (e : Event) : (s.step e).Together ↔ s.Orderly e := by
  cases e with
  | setUp h =>
    rw [together_iff h] at hs ⊢
    simp only [State.step, State.Orderly]
    split_ifs with hp
    · -- the half was not counted and now is up
      simp only [Function.update_self, Function.update_of_ne (other_ne h), Phase.Up, reduceCtorEq, false_implies,
        true_and, true_or, implies_true]
    · exact iff_true_intro hs
  | ready h =>
    rw [together_iff h] at hs ⊢
    simp only [State.step, State.Orderly]
    split_ifs with hp
    · simp only [Recorder.workerReady, Function.update_self, Function.update_of_ne (other_ne h), Phase.Up, or_true,
        implies_true, and_true, true_implies, hp]
      cases s.recorder.draining <;> simp
    · exact iff_of_true hs fun h' => absurd h' hp
  | exit h =>
    rw [together_iff h] at hs ⊢
    simp only [State.step, State.Orderly]
    split_ifs with hp hp'
    · -- the other half was not counted, since this one was not up
      simp only [hp, Phase.Up, Function.update_self, Function.update_of_ne (other_ne h), reduceCtorEq, false_implies,
        true_and, or_self, imp_false, iff_true] at hs ⊢
      exact hs
    · simp only [Recorder.workerDone, hp', Phase.Up, Function.update_self, Function.update_of_ne (other_ne h),
        reduceCtorEq, false_implies, true_and, or_self, imp_false, true_implies, ne_eq]
      cases s.recorder.draining <;> simp
    · exact iff_of_true hs fun h' => absurd h' hp'
  | drain => exact iff_true_intro fun hd => absurd hd (by simp [State.step, Recorder.setDraining])

/-- **`/readyz` answers 200 only while both halves are up, all through a run, exactly when
every step of it is orderly.** -/
theorem ready_iff_orderly {env : Config.Env} {f : Config.Flags} {cfg : Config} (h : Config.load env f = .ok cfg)
    (es : List Event) :
    (∀ pre post, es = pre ++ post → (run cfg pre).ReadyMeansServing) ↔
      Along State.step (State.start cfg) State.Orderly es := by
  simp only [(readyCount_run h _).ready_iff]
  constructor
  · rintro hall pre e post rfl
    have hpre := hall pre (e :: post) rfl
    have hnext := hall (pre ++ [e]) post (by simp)
    rw [run, runFrom_snoc] at hnext
    exact (together_step_iff hpre e).mp hnext
  · rintro hes pre post rfl
    refine Along.invariant (I := State.Together) ?_ (fun s e hs he => (together_step_iff hs e).mpr he) hes.of_append
    exact fun _ h hh => absurd hh (by simp [State.start])

/-- Both sockets are set up before either half is counted. -/
theorem ready_in_orderly_start :
    Config.load Config.oneInterface (Config.defaults {} .memory) = .ok (Config.defaultConfig {} .memory) ∧
      ∀ pre post, [.setUp .ingress, .setUp .server, .ready .ingress, .ready .server] = pre ++ post →
        (run (Config.defaultConfig {} .memory) pre).ReadyMeansServing := by
  refine ⟨Config.load_defaults .., (ready_iff_orderly (Config.load_defaults {} .memory) _).mpr ?_⟩
  simp only [along_cons_iff]
  exact ⟨trivial, trivial, fun _ => .inr (by decide), fun _ => .inr (by decide), along_nil⟩

/-- The NACK server is up and the ingress worker has failed to start: the endpoint is ready. -/
theorem ready_without_ingress :
    (run (Config.defaultConfig {} .memory)
        [.setUp .server, .ready .server, .exit .ingress]).recorder.handleReadyz.code = 200 ∧
      ¬ (run (Config.defaultConfig {} .memory) [.setUp .server, .ready .server, .exit .ingress]).ReadyMeansServing := by
  refine ⟨by decide, fun h => ?_⟩
  have hup := (h (by decide)).2 .ingress
  exact absurd hup (by decide)

end RetryEndpoint.Metrics
