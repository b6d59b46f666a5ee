import RetryEndpoint.NackAddr
import RetryEndpoint.Theory.Runs
import RetryEndpoint.Wiring
import Mathlib.Data.Fintype.Basic

/-!
# The life of an endpoint

`main.go`, `run`: what the endpoint opens, the goroutines that it starts, and how it is brought
to its end by a signal or by an error.

## The model

`run` is a list of instructions, in the order of the source: what it opens with a deferred
`Close`, the errors it returns, the goroutines, and the shutdown. A check that passes is no
instruction, and what follows a `fails` is never reached. The goroutines run at the same time:
an event is a step of `run`, a signal, a use of something by a goroutine, or the return of a
goroutine. The metrics server returns when `done` is closed and the sampler when the context is
cancelled; the others may return at any time, with an error. That ingress, server and beacon can return
once the context is cancelled is an assumption here (`MayReturn`). A signal before `signal.Notify` kills
the process, and nothing is closed then. `time.Sleep` ends at some time, and the last flush of the metrics is left out.

`Machine` is what `run` asks the machine. The address for NACKs is picked twice, before the
server is built and before the beacon is, and the interface may have lost it in between.

## What is proved

* `at_run` — the state at any time is what the instructions executed so far have made of it,
  however the goroutines run.
-/

namespace RetryEndpoint.Lifecycle

open Go Cache Theory
open RetryEndpoint.Beacon (Host nackBindIP beaconConfig)

/-! ### What `run` does -/

/-- What `run` opens, and closes by a deferred call. -/
inductive Resource where
  /-- The cache. -/
  | cache
  /-- The client for claims, if it has one of its own. -/
  | dedup
  /-- The egress sockets. -/
  | sockets
  deriving DecidableEq

/-- The goroutines that `run` starts. -/
inductive Goroutine where
  | metrics
  | sampler
  | ingress
  | server
  | beacon
  deriving DecidableEq

instance : Fintype Goroutine := ⟨{.metrics, .sampler, .ingress, .server, .beacon}, fun g => by cases g <;> decide⟩

/-- What a goroutine works with. -/
def Goroutine.uses : Goroutine → List Resource
  | .sampler | .ingress => [.cache]
  | .server => [.cache, .dedup, .sockets]
  | .metrics | .beacon => []

/-- An instruction of `run`. -/
inductive Instr where
  /-- Something is opened, and its `Close` is deferred. -/
  | opens (r : Resource)
  /-- `return err`. -/
  | fails (err : Err)
  /-- `defer cancel()`. -/
  | deferCancel
  /-- `wg.Add(1)` and the `go` statement. -/
  | go (g : Goroutine)
  /-- `signal.Notify`. -/
  | notify
  /-- `<-sigCh`. -/
  | await
  /-- `rec.SetDraining()`. -/
  | setDraining
  /-- `time.Sleep`. -/
  | sleep
  /-- `cancel()`. -/
  | cancel
  /-- `close(done)`. -/
  | closeDone
  /-- `wg.Wait()`. -/
  | wait
  deriving DecidableEq

/-- What `run` asks the machine. -/
structure Machine where
  /-- `metrics.New`. -/
  recorder : Option Err
  /-- `redis.New`: a client for an address, or the error of the check of the connection. -/
  ping : String → Except Err Cache.RedisClient
  /-- `net.InterfaceByName`. -/
  interfaceByName : String → Option Err
  /-- `retrans.Open`. -/
  openSockets : Option Err
  /-- The machine when the address for the NACK socket is picked. -/
  host : Host
  /-- The machine when the address for the beacon is picked. -/
  later : Host

/-- The settings that are read by `run` only. -/
structure Options where
  /-- `-mc-iface`. -/
  mcIface : String := "eth0"
  /-- `-beacon-enabled`. -/
  beaconEnabled : Bool := true
  /-- The flags of the beacon. -/
  beacon : Beacon.Flags := {}

/-- The error of a result. -/
def errorOf {α : Type} : Except Err α → Option Err
  | .error err => some err
  | .ok _ => none

/-- `if err != nil { return err }`. -/
def check (err : Option Err) : List Instr := err.toList.map .fails

section Program

variable (env : Config.Env) (w : Machine) (cfg : Config) (opts : Options)

/-- The cache, and the client for claims when frames are in the process. -/
def openCaches : List Instr :=
  match start w.ping cfg with
  | .error err => [.fails err]
  | .ok clients =>
    .opens .cache :: if clients.frames.isNone ∧ clients.redisCache.isSome then [.opens .dedup] else []

/-- `run` up to the first goroutine. -/
def setUp : List Instr :=
  check w.recorder ++ openCaches w cfg ++ check (w.interfaceByName opts.mcIface) ++
    cfg.egressIfaces.flatMap (fun name => check (w.interfaceByName name)) ++
    check w.openSockets ++ [.opens .sockets] ++ check (errorOf (nackBindIP env w.host cfg)) ++ [.deferCancel]

/-- The goroutines. The memory backend only has a `Len` to sample. -/
def launch : List Instr :=
  [.go .metrics] ++ (if cfg.cacheBackend = .memory then [.go .sampler] else []) ++ [.go .ingress, .go .server] ++
    if opts.beaconEnabled then check (errorOf (beaconConfig env w.later cfg opts.beacon)) ++ [.go .beacon] else []

/-- The shutdown, up to the wait for the goroutines. -/
def shutDown : List Instr :=
  [.notify, .await] ++ (if 0 < cfg.drainTimeout then [.setDraining, .sleep] else []) ++ [.cancel, .closeDone]

/-- `run`. -/
def program : List Instr := (setUp env w cfg opts ++ launch env w cfg opts ++ shutDown cfg) ++ [.wait]

end Program

/-! ### Executions -/

/-- A deferred call. -/
inductive Deferred where
  | close (r : Resource)
  | cancel

/-- What a deferred call closes. -/
def Deferred.resource : Deferred → Option Resource
  | .close r => some r
  | .cancel => none

/-- What an instruction defers. -/
def Instr.deferred : Instr → Option Deferred
  | .opens r => some (.close r)
  | .deferCancel => some .cancel
  | _ => none

/-- What an instruction opens. -/
def Instr.opened : Instr → Option Resource
  | .opens r => some r
  | _ => none

/-- How far `run` is. -/
inductive Main where
  /-- It has `rest` to do. -/
  | running (rest : List Instr) (deferred : List Deferred)
  /-- It returns, and these deferred calls are left. -/
  | returning (err : Option Err) (deferred : List Deferred)
  /-- `main` has returned or called `os.Exit`. -/
  | ended (err : Option Err)
  /-- A signal has ended the process before it was asked for. -/
  | killed

/-- The process is there no more. -/
def Main.Over : Main → Prop
  | .ended _ | .killed => True
  | .running .. | .returning .. => False

instance : DecidablePred Main.Over
  | .ended _ | .killed => inferInstanceAs (Decidable True)
  | .running .. | .returning .. => inferInstanceAs (Decidable False)

/-- How far a goroutine is. -/
inductive Status where
  | unborn
  | live
  | done
  deriving DecidableEq

/-- The process. -/
structure State where
  /-- The goroutine of `run`. -/
  main : Main
  /-- The goroutines. -/
  status : Goroutine → Status := fun _ => .unborn
  /-- What has been opened, in order. -/
  opened : List Resource := []
  /-- What has been closed, in order. -/
  closed : List Resource := []
  /-- `signal.Notify` has been called. -/
  notified : Bool := false
  /-- There is a signal in `sigCh`, or was. -/
  signalled : Bool := false
  /-- The endpoint is draining. -/
  draining : Bool := false
  /-- The context is cancelled. -/
  cancelled : Bool := false
  /-- `done` is closed. -/
  doneClosed : Bool := false
  /-- What has been used after it was closed, and by which goroutine. -/
  misused : List (Goroutine × Resource) := []

/-- What an instruction does, except for the return and for what it defers. -/
def State.exec (s : State) : Instr → State
  | .opens r => { s with opened := s.opened ++ [r] }
  | .go g => { s with status := Function.update s.status g .live }
  | .notify => { s with notified := true }
  | .setDraining => { s with draining := true }
  | .cancel => { s with cancelled := true }
  | .closeDone => { s with doneClosed := true }
  | .fails _ | .deferCancel | .await | .sleep | .wait => s

/-- An instruction does not block. -/
def State.Passes (s : State) : Instr → Prop
  | .await => s.signalled = true
  | .wait => ∀ g, s.status g ≠ .live
  | _ => True

instance (s : State) : DecidablePred s.Passes
  | .await => inferInstanceAs (Decidable (s.signalled = true))
  | .wait => inferInstanceAs (Decidable (∀ g, s.status g ≠ .live))
  | .opens _ | .fails _ | .deferCancel | .go _ | .notify | .setDraining | .sleep | .cancel | .closeDone =>
    inferInstanceAs (Decidable True)

/-- A step of `run`: an instruction, or a deferred call once it returns. -/
def State.stepMain (s : State) : State :=
  match s.main with
  | .running [] deferred => { s with main := .returning none deferred }
  | .running (i :: rest) deferred =>
    match i with
    | .fails err => { s with main := .returning (some err) deferred }
    | i => if s.Passes i then { s.exec i with main := .running rest (i.deferred.toList ++ deferred) } else s
  | .returning err [] => { s with main := .ended err }
  | .returning err (.close r :: deferred) =>
    { s with main := .returning err deferred, closed := s.closed ++ [r] }
  | .returning err (.cancel :: deferred) => { s with main := .returning err deferred, cancelled := true }
  | .ended _ | .killed => s

/-- What a goroutine waits for before it returns. Ingress, server and beacon are taken to be able to return at
any time. -/
def State.MayReturn (s : State) : Goroutine → Bool
  | .metrics => s.doneClosed
  | .sampler => s.cancelled
  | .ingress | .server | .beacon => true

/-- What can happen next. -/
inductive Event where
  /-- A step of `run`. -/
  | main
  /-- An interrupt, or a request to terminate. -/
  | signal
  /-- A goroutine uses something. -/
  | use (g : Goroutine) (r : Resource)
  /-- A goroutine returns, and calls `wg.Done`. -/
  | returns (g : Goroutine)

/-- One step. -/
def State.step (s : State) (e : Event) : State :=
  if s.main.Over then s else
  match e with
  | .main => s.stepMain
  | .signal => if s.notified then { s with signalled := true } else { s with main := .killed }
  | .use g r =>
    if s.status g = .live ∧ r ∈ g.uses ∧ r ∈ s.closed then { s with misused := s.misused ++ [(g, r)] } else s
  | .returns g =>
    if s.status g = .live ∧ s.MayReturn g then { s with status := Function.update s.status g .done } else s

/-- The process when `run` has loaded its configuration. -/
def State.start (is : List Instr) : State := { main := .running is [] }

/-- A run of the process. -/
def run (is : List Instr) (es : List Event) : State := runFrom State.step (State.start is) es

/-! ### Where a process is -/

/-- What is deferred after some instructions. -/
def deferredBy (is : List Instr) : List Deferred := (is.filterMap Instr.deferred).reverse

theorem deferredBy_snoc (is : List Instr) (i : Instr) :
    deferredBy (is ++ [i]) = i.deferred.toList ++ deferredBy is := by
  unfold deferredBy
  rw [List.filterMap_append, List.reverse_append, List.filterMap_cons]
  cases i.deferred <;> rfl

/-- What is deferred closes what was opened, the last first. -/
theorem filterMap_resource_deferredBy (is : List Instr) :
    (deferredBy is).filterMap Deferred.resource = (is.filterMap Instr.opened).reverse := by
  have hopened : (fun i : Instr => i.deferred.bind Deferred.resource) = Instr.opened := by
    funext i
    cases i <;> rfl
  rw [deferredBy, List.filterMap_reverse, List.filterMap_filterMap, hopened]

/-- What the instructions `pre` have made of the process, while the goroutines go on. -/
structure State.After (s : State) (pre : List Instr) : Prop where
  /-- What they have opened. -/
  opened : s.opened = pre.filterMap Instr.opened
  /-- A goroutine has been started if they have started it. -/
  unborn : ∀ g, s.status g = .unborn ↔ .go g ∉ pre
  /-- It has returned if it was waited for. -/
  waited : ∀ a b g, pre = a ++ .wait :: b → .go g ∉ b → s.status g ≠ .live
  signalled : .await ∈ pre → s.signalled = true
  draining : .setDraining ∈ pre → s.draining = true
  cancelled : .cancel ∈ pre → s.cancelled = true
  doneClosed : .closeDone ∈ pre → s.doneClosed = true

/-- It stays so when goroutines return and what was set stays set. -/
theorem State.After.mono {s s' : State} {pre : List Instr} (h : s.After pre) (hopened : s'.opened = s.opened)
    (hunborn : ∀ g, s'.status g = .unborn ↔ s.status g = .unborn)
    (hlive : ∀ g, s'.status g = .live → s.status g = .live) (hsignalled : s.signalled = true → s'.signalled = true)
    (hdraining : s'.draining = s.draining) (hcancelled : s.cancelled = true → s'.cancelled = true)
    (hdone : s'.doneClosed = s.doneClosed) : s'.After pre where
  opened := hopened.trans h.opened
  unborn g := (hunborn g).trans (h.unborn g)
  waited a b g hpre hgo := fun hl => h.waited a b g hpre hgo (hlive g hl)
  signalled hmem := hsignalled (h.signalled hmem)
  draining hmem := hdraining.trans (h.draining hmem)
  cancelled hmem := hcancelled (h.cancelled hmem)
  doneClosed hmem := hdone.trans (h.doneClosed hmem)

/-- One more instruction. -/
theorem State.After.exec {s : State} {pre : List Instr} (h : s.After pre) {i : Instr} (hi : s.Passes i) (m : Main) :
    State.After { s.exec i with main := m } (pre ++ [i]) where
  opened := by
    rw [List.filterMap_append, ← h.opened]
    cases i <;> simp [State.exec, Instr.opened]
  unborn g := by
    have hg := h.unborn g
    cases i with
    | go g' =>
      by_cases heq : g = g'
      · subst heq
        simp [State.exec]
      · simp [State.exec, heq, hg]
    | _ => simp [State.exec, hg]
  waited a b g hpre hgo := by
    rcases split_snoc hpre with ⟨rfl, hwait, rfl⟩ | ⟨b', rfl, rfl⟩
    · -- it has just waited
      subst hwait
      exact hi g
    · rw [List.mem_append, not_or, List.mem_singleton] at hgo
      have hg := h.waited a b' g rfl hgo.1
      cases i with
      | go g' =>
        have hne : g ≠ g' := fun heq => hgo.2 (by rw [heq])
        simpa [State.exec, hne] using hg
      | _ => exact hg
  signalled hmem := by
    rcases List.mem_append.mp hmem with hmem | hmem
    · have hs := h.signalled hmem
      cases i <;> exact hs
    · obtain rfl := List.mem_singleton.mp hmem
      exact hi
  draining hmem := by
    rcases List.mem_append.mp hmem with hmem | hmem
    · have hs := h.draining hmem
      cases i <;> first | exact hs | rfl
    · obtain rfl := List.mem_singleton.mp hmem
      rfl
  cancelled hmem := by
    rcases List.mem_append.mp hmem with hmem | hmem
    · have hs := h.cancelled hmem
      cases i <;> first | exact hs | rfl
    · obtain rfl := List.mem_singleton.mp hmem
      rfl
  doneClosed hmem := by
    rcases List.mem_append.mp hmem with hmem | hmem
    · have hs := h.doneClosed hmem
      cases i <;> first | exact hs | rfl
    · obtain rfl := List.mem_singleton.mp hmem
      rfl

/-- No instruction of `pre` returned an error. -/
def Sound (pre : List Instr) : Prop := ∀ err, .fails err ∉ pre

/-- `run` has returned `err` after `pre`: at its end, or at an error. -/
structure Returned (is pre : List Instr) (err : Option Err) : Prop where
  sound : Sound pre
  at_end : err = none → is = pre
  at_error : ∀ e, err = some e → ∃ rest, is = pre ++ .fails e :: rest

/-- Where the process is in the instructions `is`. -/
def State.At (is : List Instr) (s : State) : Prop :=
  match s.main with
  | .running rest deferred =>
    ∃ pre, is = pre ++ rest ∧ Sound pre ∧ s.After pre ∧ deferred = deferredBy pre ∧ s.closed = []
  | .returning err deferred =>
    ∃ pre, Returned is pre err ∧ s.After pre ∧ s.closed ++ deferred.filterMap Deferred.resource = s.opened.reverse
  | .ended err => ∃ pre, Returned is pre err ∧ s.After pre ∧ s.closed = s.opened.reverse
  | .killed => True

section At

variable {is : List Instr} {s : State}

/-- Events of the goroutines leave `run` where it is. -/
theorem State.At.mono {s' : State} (h : s.At is) (hmain : s'.main = s.main) (hclosed : s'.closed = s.closed)
    (hopened : s'.opened = s.opened) (hafter : ∀ pre, s.After pre → s'.After pre) : s'.At is := by
  unfold State.At at h ⊢
  rw [hmain, hclosed, hopened]
  cases hm : s.main with
  | running rest deferred =>
    rw [hm] at h
    obtain ⟨pre, his, hsound, hpre, hds, hc⟩ := h
    exact ⟨pre, his, hsound, hafter pre hpre, hds, hc⟩
  | returning err deferred =>
    rw [hm] at h
    obtain ⟨pre, hret, hpre, hc⟩ := h
    exact ⟨pre, hret, hafter pre hpre, hc⟩
  | ended err =>
    rw [hm] at h
    obtain ⟨pre, hret, hpre, hc⟩ := h
    exact ⟨pre, hret, hafter pre hpre, hc⟩
  | killed =>
    rw [hm] at h
    exact h

theorem State.At.stepMain (h : s.At is) : s.stepMain.At is := by
  unfold State.At at h
  unfold State.stepMain
  cases hm : s.main with
  | running rest deferred =>
    rw [hm] at h
    obtain ⟨pre, his, hsound, hpre, hds, hc⟩ := h
    -- the deferred calls close what is open
    have hclose : s.closed ++ deferred.filterMap Deferred.resource = s.opened.reverse := by
      rw [hc, hds, filterMap_resource_deferredBy, hpre.opened, List.nil_append]
    cases rest with
    | nil =>
      refine ⟨pre, ⟨hsound, fun _ => ?_, nofun⟩, ?_, hclose⟩
      · rw [his, List.append_nil]
      · exact hpre.mono rfl (fun _ => .rfl) (fun _ => id) id rfl id rfl
    | cons i rest =>
      -- an instruction that does not return
      have hnext (hi : ∀ err, i ≠ .fails err) (hp : s.Passes i) :
          State.At is { s.exec i with main := .running rest (i.deferred.toList ++ deferred) } := by
        refine ⟨pre ++ [i], by rw [his, List.append_assoc]; rfl, ?_, hpre.exec hp _, ?_, ?_⟩
        · intro err hmem
          rcases List.mem_append.mp hmem with hmem | hmem
          · exact hsound err hmem
          · exact hi err (List.mem_singleton.mp hmem).symm
        · rw [deferredBy_snoc, hds]
        · cases i <;> exact hc
      have hstay : s.At is := by
        unfold State.At
        rw [hm]
        exact ⟨pre, his, hsound, hpre, hds, hc⟩
      cases i with
      | fails err =>
        refine ⟨pre, ⟨hsound, nofun, ?_⟩, ?_, hclose⟩
        · intro e he
          obtain rfl := Option.some.inj he
          exact ⟨rest, his⟩
        · exact hpre.mono rfl (fun _ => .rfl) (fun _ => id) id rfl id rfl
      | _ =>
        dsimp only
        split_ifs with hp
        · exact hnext nofun hp
        · exact hstay
  | returning err deferred =>
    rw [hm] at h
    obtain ⟨pre, hret, hpre, hc⟩ := h
    cases deferred with
    | nil => exact ⟨pre, hret, hpre.mono rfl (fun _ => .rfl) (fun _ => id) id rfl id rfl, by simpa using hc⟩
    | cons d deferred =>
      cases d with
      | close r =>
        refine ⟨pre, hret, hpre.mono rfl (fun _ => .rfl) (fun _ => id) id rfl id rfl, ?_⟩
        simpa [Deferred.resource] using hc
      | cancel =>
        exact ⟨pre, hret, hpre.mono rfl (fun _ => .rfl) (fun _ => id) id rfl (fun _ => rfl) rfl, hc⟩
  | ended err =>
    dsimp only
    unfold State.At
    rw [hm] at h ⊢
    exact h
  | killed =>
    dsimp only
    unfold State.At
    rw [hm] at h ⊢
    exact h

theorem State.At.step (h : s.At is) (e : Event) : (s.step e).At is := by
  unfold State.step
  by_cases hover : s.main.Over
  · rw [if_pos hover]
    exact h
  · rw [if_neg hover]
    cases e with
    | main => exact h.stepMain
    | signal =>
      dsimp only
      split_ifs with hn
      · exact h.mono rfl rfl rfl fun _ hpre => hpre.mono rfl (fun _ => .rfl) (fun _ => id) (fun _ => rfl) rfl id rfl
      · trivial
    | use g r =>
      dsimp only
      split_ifs with hu
      · exact h.mono rfl rfl rfl fun _ hpre => hpre.mono rfl (fun _ => .rfl) (fun _ => id) id rfl id rfl
      · exact h
    | returns g =>
      dsimp only
      split_ifs with hr
      · refine h.mono rfl rfl rfl fun _ hpre => hpre.mono rfl (fun g' => ?_) (fun g' => ?_) id rfl id rfl
        · by_cases heq : g' = g
          · subst heq
            simp [hr.1]
          · simp [heq]
        · by_cases heq : g' = g
          · subst heq
            simp
          · simp [heq]
      · exact h

end At

/-- **Where the process is**, after every run. -/
theorem at_run (is : List Instr) (es : List Event) : (run is es).At is := by
  refine runFrom_invariant (I := State.At is) ?_ (fun _ e h => h.step e) es
  exact ⟨[], rfl, nofun, ⟨rfl, fun _ => by simp [State.start], by simp, nofun, nofun, nofun, nofun⟩, rfl, rfl⟩

end RetryEndpoint.Lifecycle
