import RetryEndpoint.Lifecycle.Process

/-!
# The end of an endpoint

How `run` (`main.go`) leaves what it has opened and started: after a signal, and when it returns
an error.

## What is proved

* `closed_after_use_iff` — nothing is used after it is closed and nothing runs at the end, in any
  interleaving, exactly if the second pick of the address does not fail: that error is returned
  while the goroutines run.
* `signal_ends` — once `signal.Notify` has been called, a signal brings `run` to its return from any
  state, if ingress, server and beacon can return; before that it kills the process. Where `run` returns, each
  thing it has opened has had its `Close` called once, in reverse order, and after a clean shutdown every
  goroutine has returned. (What `Close` does to the egress sockets is a matter of its own: see
  `Retransmit.Sockets`.)
-/

namespace RetryEndpoint.Lifecycle

open Go Cache Theory
open RetryEndpoint.Beacon (Host nackBindIP beaconConfig)

/-! ### The instructions of `run` -/

@[simp] theorem mem_check {i : Instr} {err : Option Err} : i ∈ check err ↔ ∃ e, err = some e ∧ i = .fails e := by
  simp [check, eq_comm]

@[simp] theorem filterMap_opened_check (err : Option Err) : (check err).filterMap Instr.opened = [] := by
  cases err <;> rfl

section Program

variable {env : Config.Env} {w : Machine} {cfg : Config} {opts : Options}

/-- Before the goroutines `run` opens, fails or defers. -/
theorem mem_setUp {i : Instr} (h : i ∈ setUp env w cfg opts) :
    (∃ r, i = .opens r) ∨ (∃ err, i = .fails err) ∨ i = .deferCancel := by
  have hcaches : i ∈ openCaches w cfg → (∃ r, i = .opens r) ∨ ∃ err, i = .fails err := by
    unfold openCaches
    intro hi
    split at hi
    · exact .inr ⟨_, List.mem_singleton.mp hi⟩
    · left
      split_ifs at hi
      · simp only [List.mem_cons, List.not_mem_nil, or_false] at hi
        rcases hi with rfl | rfl
        · exact ⟨_, rfl⟩
        · exact ⟨_, rfl⟩
      · exact ⟨_, List.mem_singleton.mp hi⟩
  simp only [setUp, List.mem_append, mem_check, List.mem_flatMap, List.mem_singleton] at h
  aesop

/-- Then it starts goroutines, and fails if the address of the beacon cannot be picked. -/
theorem mem_launch {i : Instr} (h : i ∈ launch env w cfg opts) : (∃ g, i = .go g) ∨
    ∃ err, i = .fails err ∧ opts.beaconEnabled = true ∧ beaconConfig env w.later cfg opts.beacon = .error err := by
  simp only [launch, List.mem_append, List.mem_cons, List.not_mem_nil, or_false] at h
  have hbeacon : ∀ err, errorOf (beaconConfig env w.later cfg opts.beacon) = some err →
      beaconConfig env w.later cfg opts.beacon = .error err := by
    intro err herr
    cases hb : beaconConfig env w.later cfg opts.beacon with
    | error e => simpa [hb, errorOf] using herr
    | ok b => simp [hb, errorOf] at herr
  aesop

theorem mem_shutDown {i : Instr} (h : i ∈ shutDown cfg) :
    i ∈ [Instr.notify, .await, .setDraining, .sleep, .cancel, .closeDone] := by
  unfold shutDown at h
  split_ifs at h <;> simp at h ⊢ <;> tauto

variable (env w cfg opts) in
/-- `run` waits at its end only. -/
theorem wait_not_mem : .wait ∉ setUp env w cfg opts ++ launch env w cfg opts ++ shutDown cfg := by
  intro h
  rcases List.mem_append.mp h with h | h
  · rcases List.mem_append.mp h with h | h
    · simpa using mem_setUp h
    · simpa using mem_launch h
  · simpa using mem_shutDown h

/-- So it has cancelled the context and closed `done` when it waits, and it has nothing left to do. -/
theorem before_wait {pre rest : List Instr} (h : program env w cfg opts = pre ++ .wait :: rest) :
    rest = [] ∧ .cancel ∈ pre ∧ .closeDone ∈ pre := by
  rcases split_snoc h with ⟨hrest, -, rfl⟩ | ⟨rest', -, hbody⟩
  · exact ⟨hrest, by simp [shutDown], by simp [shutDown]⟩
  · exact absurd (by rw [hbody]; simp) (wait_not_mem env w cfg opts)

variable (env w cfg opts) in
/-- If `run` gets as far as the beacon, the address of the beacon is picked. -/
def BeaconStarts : Prop := Sound (setUp env w cfg opts) → opts.beaconEnabled = true →
  ∃ b, beaconConfig env w.later cfg opts.beacon = .ok b

/-- An error is then returned before any goroutine is started. -/
theorem go_not_mem_of_error (hb : BeaconStarts env w cfg opts) {pre rest : List Instr} {err : Err} (hsound : Sound pre)
    (h : program env w cfg opts = pre ++ .fails err :: rest) (g : Goroutine) : .go g ∉ pre := by
  rw [program, List.append_assoc, List.append_assoc] at h
  rcases List.append_eq_append_iff.mp h with ⟨mid, rfl, htail⟩ | ⟨mid, hsetUp, -⟩
  · -- past the set-up, only the beacon can fail
    exfalso
    have hmem : .fails err ∈ launch env w cfg opts ++ (shutDown cfg ++ [.wait]) := by
      rw [htail]
      simp
    rcases List.mem_append.mp hmem with hmem | hmem
    · obtain ⟨g, hg⟩ | ⟨e, -, hen, hfail⟩ := mem_launch hmem
      · cases hg
      · obtain ⟨b, hok⟩ := hb (fun e he => hsound e (by simp [he])) hen
        rw [hok] at hfail
        cases hfail
    · rcases List.mem_append.mp hmem with hmem | hmem
      · simpa using mem_shutDown hmem
      · simp at hmem
  · intro hgo
    have hmem : .go g ∈ setUp env w cfg opts := by
      rw [hsetUp]
      simp [hgo]
    simpa using mem_setUp hmem

/-- No goroutine runs once `run` returns. -/
theorem not_live_of_returned (hb : BeaconStarts env w cfg opts) {s : State} {pre : List Instr} {err : Option Err}
    (hret : Returned (program env w cfg opts) pre err) (hpre : s.After pre) (g : Goroutine) : s.status g ≠ .live := by
  cases err with
  | none =>
    have hend := hret.at_end rfl
    exact hpre.waited _ [] g hend.symm (by simp)
  | some e =>
    obtain ⟨rest, hrest⟩ := hret.at_error e rfl
    have hunborn := (hpre.unborn g).mpr (go_not_mem_of_error hb hret.sound hrest g)
    rw [hunborn]
    nofun

/-! ### Nothing is used after it is closed -/

/-- Nothing has been used after it was closed, and no goroutine runs at the end. -/
def State.Orderly (s : State) : Prop := s.misused = [] ∧ ∀ err, s.main = .ended err → ∀ g, s.status g ≠ .live

/-- A step of `run` uses nothing that is closed, and sends no signal. -/
theorem stepMain_frame (s : State) : s.stepMain.misused = s.misused ∧ s.stepMain.signalled = s.signalled := by
  unfold State.stepMain
  cases s.main with
  | running rest deferred =>
    cases rest with
    | nil => exact ⟨rfl, rfl⟩
    | cons i rest =>
      cases i with
      | fails err => exact ⟨rfl, rfl⟩
      | _ =>
        dsimp only
        split_ifs <;> exact ⟨rfl, rfl⟩
  | returning err deferred =>
    cases deferred with
    | nil => exact ⟨rfl, rfl⟩
    | cons d deferred => cases d <;> exact ⟨rfl, rfl⟩
  | ended err => exact ⟨rfl, rfl⟩
  | killed => exact ⟨rfl, rfl⟩

/-- What it takes to use something that is closed. -/
theorem misused_step (s : State) (e : Event) : (s.step e).misused = s.misused ∨
    ¬ s.main.Over ∧ ∃ g, s.status g = .live ∧ s.closed ≠ [] := by
  unfold State.step
  by_cases hover : s.main.Over
  · rw [if_pos hover]
    exact .inl rfl
  · rw [if_neg hover]
    cases e with
    | main => exact .inl (stepMain_frame s).1
    | signal =>
      dsimp only
      split_ifs <;> exact .inl rfl
    | use g r =>
      dsimp only
      split_ifs with hu
      · exact .inr ⟨hover, g, hu.1, List.ne_nil_of_mem hu.2.2⟩
      · exact .inl rfl
    | returns g =>
      dsimp only
      split_ifs <;> exact .inl rfl

/-- While something is closed, no goroutine runs. -/
theorem closed_eq_nil_or_not_live (hb : BeaconStarts env w cfg opts) {s : State} (hs : s.At (program env w cfg opts))
    (hover : ¬ s.main.Over) : s.closed = [] ∨ ∀ g, s.status g ≠ .live := by
  unfold State.At at hs
  cases hm : s.main with
  | running rest deferred =>
    rw [hm] at hs
    obtain ⟨-, -, -, -, -, hc⟩ := hs
    exact .inl hc
  | returning err deferred =>
    rw [hm] at hs
    obtain ⟨pre, hret, hpre, -⟩ := hs
    exact .inr (not_live_of_returned hb hret hpre)
  | ended err => exact absurd (by rw [hm]; trivial) hover
  | killed => exact absurd (by rw [hm]; trivial) hover

theorem orderly_run (hb : BeaconStarts env w cfg opts) (es : List Event) :
    (run (program env w cfg opts) es).Orderly := by
  constructor
  · induction es using List.reverseRecOn with
    | nil => rfl
    | append_singleton es e ih =>
      rw [run, runFrom_snoc]
      rcases misused_step (run (program env w cfg opts) es) e with hsame | ⟨hover, g, hlive, hclosed⟩
      · exact hsame.trans ih
      · rcases closed_eq_nil_or_not_live hb (at_run _ es) hover with hnil | hquiet
        · exact absurd hnil hclosed
        · exact absurd hlive (hquiet g)
  · intro err herr g
    have hat := at_run (program env w cfg opts) es
    unfold State.At at hat
    rw [herr] at hat
    obtain ⟨pre, hret, hpre, -⟩ := hat
    exact not_live_of_returned hb hret hpre g

/-! ### An error while the goroutines run -/

/-- An instruction that neither blocks nor returns. -/
def Instr.Straight (i : Instr) : Prop := i ≠ .await ∧ i ≠ .wait ∧ ∀ err, i ≠ .fails err

theorem Instr.Straight.passes {i : Instr} (hi : i.Straight) (s : State) : s.Passes i := by
  cases i with
  | await => exact absurd rfl hi.1
  | wait => exact absurd rfl hi.2.1
  | _ => trivial

theorem step_main_of_passes {s : State} {i : Instr} {rest : List Instr} {deferred : List Deferred}
    (hm : s.main = .running (i :: rest) deferred) (hi : ∀ err, i ≠ .fails err) (hp : s.Passes i) :
    s.step .main = { s.exec i with main := .running rest (i.deferred.toList ++ deferred) } := by
  have hover : ¬ s.main.Over := by
    rw [hm]
    exact id
  rw [State.step, if_neg hover]
  dsimp only
  unfold State.stepMain
  rw [hm]
  cases i with
  | fails err => exact absurd rfl (hi err)
  | _ => exact if_pos hp

/-- `run` can go through such instructions, with the goroutines it starts running. -/
theorem exists_main_of_straight {s : State} {pre rest : List Instr} {deferred : List Deferred}
    (hm : s.main = .running (pre ++ rest) deferred) (hpre : ∀ i ∈ pre, i.Straight) :
    ∃ es, (runFrom State.step s es).main = .running rest (deferredBy pre ++ deferred) ∧
      ∀ g, .go g ∈ pre ∨ s.status g = .live → (runFrom State.step s es).status g = .live := by
  induction pre generalizing s deferred with
  | nil => exact ⟨[], hm, fun g hg => hg.resolve_left (List.not_mem_nil)⟩
  | cons i pre ih =>
    have hi := hpre i (by simp)
    have hstep := step_main_of_passes hm hi.2.2 (hi.passes s)
    obtain ⟨es, hmain, hlive⟩ := ih (congrArg State.main hstep) fun j hj => hpre j (by simp [hj])
    refine ⟨.main :: es, ?_, fun g hg => hlive g ?_⟩
    · have hdeferred : deferredBy (i :: pre) = deferredBy pre ++ i.deferred.toList := by
        unfold deferredBy
        rw [List.filterMap_cons]
        cases i.deferred <;> simp
      rw [hdeferred, List.append_assoc]
      exact hmain
    · rw [hstep]
      rcases hg with hg | hg
      · rcases List.mem_cons.mp hg with rfl | hg
        · exact .inr (by simp [State.exec])
        · exact .inl hg
      · refine .inr ?_
        cases i with
        | go g' => by_cases heq : g = g' <;> simp [State.exec, heq, hg]
        | _ => exact hg

/-- The deferred calls close the sockets, and the server uses them. -/
theorem misused_of_fails {s : State} {err : Err} {rest : List Instr} {deferred : List Deferred}
    (hm : s.main = .running (.fails err :: rest) (.cancel :: .close .sockets :: deferred))
    (hlive : s.status .server = .live) :
    (runFrom State.step s [.main, .main, .main, .use .server .sockets]).misused ≠ [] := by
  simp [runFrom, State.step, State.stepMain, hm, hlive, Main.Over, Goroutine.uses]

/-- The sockets are the last thing that a set-up without errors opens. -/
theorem setUp_eq_of_sound (h : Sound (setUp env w cfg opts)) :
    ∃ pre, setUp env w cfg opts = pre ++ [.opens .sockets, .deferCancel] := by
  have hnone : errorOf (nackBindIP env w.host cfg) = none := by
    rw [Option.eq_none_iff_forall_ne_some]
    intro e he
    exact h e (by simp [setUp, he])
  refine ⟨check w.recorder ++ openCaches w cfg ++ check (w.interfaceByName opts.mcIface) ++
    cfg.egressIfaces.flatMap (fun name => check (w.interfaceByName name)) ++ check w.openSockets, ?_⟩
  rw [setUp, hnone]
  simp [check]

variable (env w cfg opts) in
/-- The goroutines that are started before the beacon. -/
theorem launch_eq_of_error (hen : opts.beaconEnabled = true) {err : Err}
    (hfail : beaconConfig env w.later cfg opts.beacon = .error err) :
    ∃ gs : List Goroutine, .server ∈ gs ∧ launch env w cfg opts = gs.map .go ++ [.fails err, .go .beacon] := by
  refine ⟨[.metrics] ++ (if cfg.cacheBackend = .memory then [.sampler] else []) ++ [.ingress, .server], by simp, ?_⟩
  rw [launch, if_pos hen, hfail]
  split_ifs <;> rfl

/-- **Nothing is used after it is closed, and no goroutine runs at the end, in any run, exactly if
the address of the beacon is picked whenever `run` gets that far.** -/
theorem closed_after_use_iff (env : Config.Env) (w : Machine) (cfg : Config) (opts : Options) :
    (∀ es, (run (program env w cfg opts) es).Orderly) ↔ BeaconStarts env w cfg opts := by
  refine ⟨fun h hsound hen => ?_, orderly_run⟩
  cases hfail : beaconConfig env w.later cfg opts.beacon with
  | ok b => exact ⟨b, rfl⟩
  | error err =>
    exfalso
    obtain ⟨pre, hsetUp⟩ := setUp_eq_of_sound hsound
    obtain ⟨gs, hserver, hlaunch⟩ := launch_eq_of_error env w cfg opts hen hfail
    have hprogram : program env w cfg opts =
        (setUp env w cfg opts ++ gs.map .go) ++ .fails err :: (.go .beacon :: (shutDown cfg ++ [.wait])) := by
      simp [program, hlaunch]
    have hstraight : ∀ i ∈ setUp env w cfg opts ++ gs.map .go, i.Straight := by
      intro i hi
      rcases List.mem_append.mp hi with hi | hi
      · rcases mem_setUp hi with ⟨r, rfl⟩ | ⟨e, rfl⟩ | rfl
        · exact ⟨nofun, nofun, nofun⟩
        · exact absurd hi (hsound e)
        · exact ⟨nofun, nofun, nofun⟩
      · obtain ⟨g, -, rfl⟩ := List.mem_map.mp hi
        exact ⟨nofun, nofun, nofun⟩
    have hdeferred : deferredBy (setUp env w cfg opts ++ gs.map .go) =
        .cancel :: .close .sockets :: deferredBy pre := by
      have hgo : (gs.map Instr.go).filterMap Instr.deferred = [] := by
        rw [List.filterMap_map]
        exact List.filterMap_eq_nil_iff.mpr fun _ _ => rfl
      rw [deferredBy, List.filterMap_append, hgo, hsetUp, List.filterMap_append, List.append_nil, List.reverse_append]
      rfl
    have hstart : (State.start (program env w cfg opts)).main = .running (_ ++ .fails err :: _) [] :=
      congrArg (Main.running · []) hprogram
    obtain ⟨es, hmain, hlive⟩ := exists_main_of_straight hstart hstraight
    rw [hdeferred, List.append_nil] at hmain
    have hmisused := misused_of_fails hmain (hlive .server (.inl (by simp [hserver])))
    refine hmisused ?_
    have := (h (es ++ [.main, .main, .main, .use .server .sockets])).1
    rwa [run, runFrom, List.foldl_append] at this

/-! ### A signal -/

theorem signalled_step {s : State} (h : s.signalled = true) (e : Event) : (s.step e).signalled = true := by
  unfold State.step
  by_cases hover : s.main.Over
  · rwa [if_pos hover]
  · rw [if_neg hover]
    cases e with
    | main => exact (stepMain_frame s).2.trans h
    | signal =>
      dsimp only
      split_ifs
      · rfl
      · exact h
    | use g r =>
      dsimp only
      split_ifs <;> exact h
    | returns g =>
      dsimp only
      split_ifs <;> exact h

/-- The deferred calls do not block. -/
theorem exists_ended_of_returning {s : State} {err : Option Err} {deferred : List Deferred}
    (hm : s.main = .returning err deferred) : ∃ es err, (runFrom State.step s es).main = .ended err := by
  induction deferred generalizing s with
  | nil => exact ⟨[.main], err, by simp [runFrom, State.step, State.stepMain, hm, Main.Over]⟩
  | cons d deferred ih =>
    have hnext : (s.step .main).main = .returning err deferred := by
      cases d <;> simp [State.step, State.stepMain, hm, Main.Over]
    obtain ⟨es, hes⟩ := ih hnext
    exact ⟨.main :: es, hes⟩

theorem step_returns {s : State} (hover : ¬ s.main.Over) {g : Goroutine} (hmay : s.MayReturn g = true) :
    ∃ status, s.step (.returns g) = { s with status } ∧ ∀ g', status g' = .live → s.status g' = .live ∧ g' ≠ g := by
  rw [State.step, if_neg hover]
  by_cases hlive : s.status g = .live
  · refine ⟨Function.update s.status g .done, if_pos ⟨hlive, hmay⟩, fun g' hg' => ?_⟩
    by_cases heq : g' = g
    · subst heq
      simp at hg'
    · rw [Function.update_of_ne heq] at hg'
      exact ⟨hg', heq⟩
  · refine ⟨s.status, if_neg fun h => hlive h.1, fun g' hg' => ⟨hg', ?_⟩⟩
    rintro rfl
    exact hlive hg'

/-- Once the context is cancelled and `done` is closed, the goroutines can return. -/
theorem exists_returned {s : State} (hover : ¬ s.main.Over) (hcancelled : s.cancelled = true)
    (hdone : s.doneClosed = true) (gs : List Goroutine) :
    ∃ es, (runFrom State.step s es).main = s.main ∧
      ∀ g, (runFrom State.step s es).status g = .live → s.status g = .live ∧ g ∉ gs := by
  induction gs generalizing s with
  | nil => exact ⟨[], rfl, fun g hg => ⟨hg, List.not_mem_nil⟩⟩
  | cons g gs ih =>
    have hmay : s.MayReturn g = true := by cases g <;> first | exact hcancelled | exact hdone | rfl
    obtain ⟨status, hstep, hstatus⟩ := step_returns hover hmay
    obtain ⟨es, hmain, hlive⟩ := ih (s := s.step (.returns g)) (by rwa [hstep]) (by rwa [hstep]) (by rwa [hstep])
    refine ⟨.returns g :: es, hmain.trans (by rw [hstep]), fun g' hg' => ?_⟩
    obtain ⟨hg, hmem⟩ := hlive g' hg'
    rw [hstep] at hg
    obtain ⟨hg, hne⟩ := hstatus g' hg
    exact ⟨hg, by simp [hne, hmem]⟩

/-- After a signal `run` can go on to its end. -/
theorem exists_ended_of_running {s : State} (hs : s.At (program env w cfg opts)) (hsignalled : s.signalled = true)
    {rest : List Instr} {deferred : List Deferred} (hm : s.main = .running rest deferred) :
    ∃ es err, (runFrom State.step s es).main = .ended err := by
  induction rest generalizing s deferred with
  | nil =>
    have hnext : (s.step .main).main = .returning none deferred := by simp [State.step, State.stepMain, hm, Main.Over]
    obtain ⟨es, hes⟩ := exists_ended_of_returning hnext
    exact ⟨.main :: es, hes⟩
  | cons i rest ih =>
    -- an instruction that does not block
    have hpass {s : State} (hs : s.At (program env w cfg opts)) (hsignalled : s.signalled = true)
        (hm : s.main = .running (i :: rest) deferred) (hi : ∀ err, i ≠ .fails err) (hp : s.Passes i) :
        ∃ es err, (runFrom State.step s es).main = .ended err := by
      have hnext := congrArg State.main (step_main_of_passes hm hi hp)
      obtain ⟨es, hes⟩ := ih (hs.step .main) (signalled_step hsignalled .main) hnext
      exact ⟨.main :: es, hes⟩
    cases i with
    | fails err =>
      have hnext : (s.step .main).main = .returning (some err) deferred := by
        simp [State.step, State.stepMain, hm, Main.Over]
      obtain ⟨es, hes⟩ := exists_ended_of_returning hnext
      exact ⟨.main :: es, hes⟩
    | wait =>
      -- the goroutines return first
      have hover : ¬ s.main.Over := by
        rw [hm]
        exact id
      have hat := hs
      unfold State.At at hat
      rw [hm] at hat
      obtain ⟨pre, hpre, -, hafter, -, -⟩ := hat
      obtain ⟨-, hcancel, hclose⟩ := before_wait hpre
      obtain ⟨es, hmain, hlive⟩ := exists_returned hover (hafter.cancelled hcancel) (hafter.doneClosed hclose)
        Finset.univ.toList
      have hs' := runFrom_invariant (I := State.At (program env w cfg opts)) hs (fun _ e h => h.step e) es
      have hsignalled' := runFrom_invariant (I := fun s : State => s.signalled = true) hsignalled
        (fun _ e h => signalled_step h e) es
      obtain ⟨es', err, hes'⟩ := hpass hs' hsignalled' (hmain.trans hm) (by simp) fun g hg => by
        simpa using (hlive g hg).2
      exact ⟨es ++ es', err, by rwa [runFrom, List.foldl_append]⟩
    | await => exact hpass hs hsignalled hm (by simp) hsignalled
    | _ => exact hpass hs hsignalled hm (by simp) trivial

/-- `run` itself does not kill the process. -/
theorem stepMain_ne_killed {s : State} (hover : ¬ s.main.Over) : s.stepMain.main ≠ .killed := by
  unfold State.stepMain
  cases hm : s.main with
  | running rest deferred =>
    cases rest with
    | nil => simp
    | cons i rest =>
      cases i with
      | fails err => simp
      | _ =>
        dsimp only
        split_ifs <;> simp [hm]
  | returning err deferred =>
    cases deferred with
    | nil => simp
    | cons d deferred => cases d <;> simp
  | ended | killed => exact absurd (by rw [hm]; trivial) hover

/-- A step kills the process only where `signal.Notify` has not been called. -/
theorem not_notified_of_step_killed {s : State} (h : s.main = .killed → s.notified = false) {e : Event}
    (hm : (s.step e).main = .killed) : (s.step e).notified = false := by
  unfold State.step at hm ⊢
  by_cases hover : s.main.Over
  · rw [if_pos hover] at hm ⊢
    exact h hm
  · have hne : s.main ≠ .killed := fun hk => hover (by rw [hk]; trivial)
    rw [if_neg hover] at hm ⊢
    cases e with
    | main => exact absurd hm (stepMain_ne_killed hover)
    | signal =>
      cases hn : s.notified with
      | true => exact absurd (by simpa [hn] using hm) hne
      | false => simp
    | use | returns =>
      dsimp only at hm
      split_ifs at hm <;> exact absurd hm hne

/-- A process that is killed has not called `signal.Notify`. -/
theorem not_notified_of_killed (is : List Instr) (es : List Event) (h : (run is es).main = .killed) :
    (run is es).notified = false := by
  refine runFrom_invariant (I := fun s : State => s.main = .killed → s.notified = false) ?_
    (fun s e hs => not_notified_of_step_killed hs) es h
  intro hm
  cases hm

/-- A signal that is asked for brings `run` to its return. -/
theorem exists_ended {es : List Event} (hn : (run (program env w cfg opts) es).notified = true) :
    ∃ es' err, (run (program env w cfg opts) (es ++ .signal :: es')).main = .ended err := by
  have hsplit : ∀ es', run (program env w cfg opts) (es ++ .signal :: es') =
      runFrom State.step ((run (program env w cfg opts) es).step .signal) es' :=
    fun es' => List.foldl_append ..
  have hat := (at_run (program env w cfg opts) es).step .signal
  simp only [hsplit]
  by_cases hover : (run (program env w cfg opts) es).main.Over
  · have hsame : (run (program env w cfg opts) es).step .signal = run (program env w cfg opts) es := if_pos hover
    rw [hsame]
    cases hm : (run (program env w cfg opts) es).main with
    | running | returning =>
      rw [hm] at hover
      exact hover.elim
    | ended err => exact ⟨[], err, hm⟩
    | killed =>
      rw [not_notified_of_killed _ es hm] at hn
      cases hn
  · have hsignal : (run (program env w cfg opts) es).step .signal =
        { run (program env w cfg opts) es with signalled := true } := by
      rw [State.step, if_neg hover]
      exact if_pos hn
    rw [hsignal] at hat ⊢
    cases hm : (run (program env w cfg opts) es).main with
    | running rest deferred => exact exists_ended_of_running hat rfl hm
    | returning err deferred => exact exists_ended_of_returning hm
    | ended | killed => exact absurd (by rw [hm]; trivial) hover

/-! ### The end -/

/-- The process that `run` has left with `err`. -/
structure Stopped (cfg : Config) (started : List Instr) (s : State) (err : Option Err) : Prop where
  /-- `Close` was called on what was opened, the last first. -/
  closed : s.closed = s.opened.reverse
  /-- And on nothing twice. -/
  nodup : s.closed.Nodup
  /-- A clean shutdown was asked for. -/
  signalled : err = none → s.signalled = true
  /-- And drained the endpoint if that is configured. -/
  drained : err = none → 0 < cfg.drainTimeout → s.draining = true
  /-- Every goroutine has returned. -/
  returned : err = none → ∀ g, .go g ∈ started → s.status g = .done

variable (env w cfg opts) in
/-- What `run` opens if nothing fails. -/
theorem filterMap_opened_program :
    (program env w cfg opts).filterMap Instr.opened = (openCaches w cfg).filterMap Instr.opened ++ [.sockets] := by
  have hlaunch : (launch env w cfg opts).filterMap Instr.opened = [] := by
    refine List.filterMap_eq_nil_iff.mpr fun i hi => ?_
    obtain ⟨g, rfl⟩ | ⟨err, rfl, -⟩ := mem_launch hi <;> rfl
  have hshut : (shutDown cfg).filterMap Instr.opened = [] := by
    unfold shutDown
    split_ifs <;> rfl
  have hifaces : (cfg.egressIfaces.flatMap fun name => check (w.interfaceByName name)).filterMap Instr.opened = [] := by
    refine List.filterMap_eq_nil_iff.mpr fun i hi => ?_
    obtain ⟨name, -, hi⟩ := List.mem_flatMap.mp hi
    obtain ⟨e, -, rfl⟩ := mem_check.mp hi
    rfl
  simp only [program, setUp, List.filterMap_append, hlaunch, hshut, hifaces, filterMap_opened_check, List.append_nil,
    List.nil_append]
  change (openCaches w cfg).filterMap Instr.opened ++ [.sockets] ++ [] ++ [] = _
  rw [List.append_nil, List.append_nil]

variable (env w cfg opts) in
theorem nodup_opened : ((program env w cfg opts).filterMap Instr.opened).Nodup := by
  rw [filterMap_opened_program]
  unfold openCaches
  split
  · exact List.nodup_singleton _
  · split_ifs <;> decide

theorem stopped_of_ended {es : List Event} {err : Option Err}
    (h : (run (program env w cfg opts) es).main = .ended err) :
    Stopped cfg (launch env w cfg opts) (run (program env w cfg opts) es) err := by
  have hat := at_run (program env w cfg opts) es
  unfold State.At at hat
  rw [h] at hat
  obtain ⟨pre, hret, hpre, hclosed⟩ := hat
  have hall : err = none → pre = program env w cfg opts := fun herr => (hret.at_end herr).symm
  refine ⟨hclosed, ?_, fun herr => hpre.signalled ?_, fun herr hd => hpre.draining ?_, fun herr g hg => ?_⟩
  · -- what was opened is part of what is opened if nothing fails
    have hsub : pre.Sublist (program env w cfg opts) := by
      cases err with
      | none => rw [hall rfl]
      | some e =>
        obtain ⟨rest, hrest⟩ := hret.at_error e rfl
        rw [hrest]
        exact List.sublist_append_left ..
    rw [hclosed, List.nodup_reverse, hpre.opened]
    exact (hsub.filterMap _).nodup (nodup_opened env w cfg opts)
  · rw [hall herr]
    simp [program, shutDown]
  · rw [hall herr]
    simp [program, shutDown, hd]
  · have hlive := hpre.waited _ [] g (hall herr) (by simp)
    have hborn := mt (hpre.unborn g).mp (not_not.mpr (by rw [hall herr]; simp [program, hg]))
    cases hst : (run (program env w cfg opts) es).status g with
    | unborn => exact absurd hst hborn
    | live => exact absurd hst hlive
    | done => rfl

/-- **A signal brings `run` to its return from any state** after `signal.Notify`, and kills the process
before. Where `run` has returned, `Close` was called once on each thing that was opened, in reverse order;
without an error, all that was started has returned. -/
theorem signal_ends (env : Config.Env) (w : Machine) (cfg : Config) (opts : Options) (es : List Event) :
    ((run (program env w cfg opts) es).notified = true →
        ∃ es' err, (run (program env w cfg opts) (es ++ .signal :: es')).main = .ended err) ∧
      ((run (program env w cfg opts) es).notified = false → ¬ (run (program env w cfg opts) es).main.Over →
        (run (program env w cfg opts) (es ++ [.signal])).main = .killed) ∧
      ∀ err, (run (program env w cfg opts) es).main = .ended err →
        Stopped cfg (launch env w cfg opts) (run (program env w cfg opts) es) err := by
  refine ⟨exists_ended, fun hn hover => ?_, fun _ => stopped_of_ended⟩
  rw [run, runFrom_snoc, ← run, State.step, if_neg hover]
  simp [hn]

/-- A machine without a Redis, on which nothing else fails. -/
def withoutRedis : Machine where
  recorder := none
  ping _ := .error "connection refused"
  interfaceByName _ := none
  openSockets := none
  host := Beacon.oneAddress
  later := Beacon.oneAddress

/-- `run` with the default configuration. -/
def defaultProgram : List Instr := program Config.oneInterface withoutRedis (Config.defaultConfig {} .memory) {}

/-- It asks for signals at its ninth step, and then one ends it. -/
theorem signal_ends_by_default :
    (run defaultProgram (List.replicate 9 .main)).notified = true ∧
      ∃ es err, (run defaultProgram (List.replicate 9 .main ++ .signal :: es)).main = .ended err :=
  ⟨by decide, (signal_ends Config.oneInterface withoutRedis (Config.defaultConfig {} .memory) {}
    (List.replicate 9 .main)).1 (by decide)⟩

end Program

end RetryEndpoint.Lifecycle
