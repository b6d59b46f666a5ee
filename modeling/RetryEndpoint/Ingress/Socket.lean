import RetryEndpoint.Go.Strings
import RetryEndpoint.Ingress.Worker
import RetryEndpoint.Theory.Runs

/-!
# The socket of the ingress worker

`ingress/ingress.go`, `Run` and `openRawSocket`: the worker works with the number of a file
descriptor. It opens a socket, binds it and joins the groups; a goroutine of its own closes the
socket when the context is cancelled, while the worker may be about to receive from it.

## The model

The descriptors of the process are a table, in which other goroutines open and close descriptors
of their own; the kernel hands out any number that is free. `Replies` are what the calls of the
set-up come back with. A receive from a number that is not open fails with `EBADF`; otherwise it
is from whatever the number stands for. What is done with a datagram is in `Worker`, and the
receive timeout is left out, as the loop does not look at what comes of setting it.

## What is proved

* `socket_closed_once` — the socket is closed once, on every path and by whoever has to, and no
  descriptor of another goroutine is.
* `receives_from_own_socket` — if no other goroutine opens a descriptor between the `Close` and the
  return of the worker, all that is received is from the socket, and the worker returns at the
  first receive after the `Close`.
* `receives_from_reused_number` — one that does open a descriptor there may get the number of the socket, and
  the worker takes what it receives from that for frames.
-/

namespace RetryEndpoint.Ingress.Socket

open Go Cache ShardCommon Theory

/-! ### The worker and the table -/

/-- Whose a descriptor is. -/
inductive Owner where
  /-- The socket of the worker. -/
  | ingress
  /-- A descriptor of another goroutine. -/
  | other (k : ℕ)
  deriving DecidableEq

/-- Where the worker is. -/
inductive Pc where
  /-- Before `openRawSocket`. -/
  | starting
  /-- In the receive loop, with the number of its socket. -/
  | looping (fd : ℕ)
  /-- `Run` has returned. -/
  | returned (err : Option Err)
  deriving DecidableEq

/-- Where the goroutine is that closes the socket. -/
inductive Closer where
  /-- It has not been started. -/
  | unborn
  /-- At `<-ctx.Done()`. -/
  | waiting (fd : ℕ)
  /-- It has closed the socket. -/
  | done
  deriving DecidableEq

/-- The process. -/
structure State where
  /-- The table of descriptors. -/
  fds : ℕ → Option Owner
  /-- The worker. -/
  pc : Pc
  /-- The goroutine that closes its socket. -/
  closer : Closer
  /-- The context is cancelled. -/
  cancelled : Bool
  /-- What was passed to `processFrame`, and where it came from. -/
  frames : List (Owner × Bytes)
  /-- What the calls of `unix.Close` have closed, if anything. -/
  closed : List (Option Owner)

/-- What the calls of the set-up come back with. -/
structure Replies where
  /-- `unix.Socket`. -/
  socket : Except Err ℕ
  /-- `SetsockoptInt`, for `SO_REUSEPORT`. -/
  reusePort : Option Err
  /-- `unix.Bind`. -/
  bind : Option Err
  /-- `SetsockoptIPv6Mreq`, for the address of a group. -/
  join : Bytes → Option Err
  /-- `grp.IP`, as it is formatted. -/
  ipString : Bytes → String

/-- The first error after the socket is there. -/
def Replies.error (r : Replies) (port : ℤ) (groups : List UDPAddr) : Option Err :=
  (r.reusePort.map ("ingress: open socket: SO_REUSEPORT: " ++ ·)).or <|
    (r.bind.map (("ingress: open socket: bind [::]::" ++ intString port ++ ": ") ++ ·)).or <|
      groups.findSome? fun grp => (r.join grp.ip).map (("ingress: join group " ++ r.ipString grp.ip ++ ": ") ++ ·)

/-- What can happen next. -/
inductive Event where
  /-- `openRawSocket`, and the loop over the groups. -/
  | setUp (r : Replies)
  /-- The context is cancelled. -/
  | cancel
  /-- The goroutine closes the socket. -/
  | close
  /-- `Recvfrom` comes back, with `r` if the number is open. -/
  | recv (r : RecvResult)
  /-- Another goroutine opens a descriptor, and gets the number `n`. -/
  | opens (n k : ℕ)
  /-- Another goroutine closes a descriptor of its own. -/
  | closes (n : ℕ)

namespace State

/-- `unix.Close`. -/
def close (s : State) (fd : ℕ) : State :=
  { s with fds := Function.update s.fds fd none, closed := s.closed ++ [s.fds fd] }

variable (port : ℤ) (groups : List UDPAddr)

/-- The set-up. An error closes the socket; otherwise the goroutine that closes it is started. -/
def setUp (s : State) (r : Replies) : State :=
  match r.socket with
  | .error err => { s with pc := .returned (some ("ingress: open socket: socket: " ++ err)) }
  | .ok fd =>
    -- the kernel does not hand out a number that is in use
    if s.fds fd ≠ none then s else
    let s := { s with fds := Function.update s.fds fd (some .ingress) }
    match r.error port groups with
    | some err => { s.close fd with pc := .returned (some err) }
    | none => { s with pc := .looping fd, closer := .waiting fd }

/-- A receive. -/
def recv (s : State) (fd : ℕ) (r : RecvResult) : State :=
  match s.fds fd with
  | none => if Errno.ebadf.continues s.cancelled then s else { s with pc := .returned none }
  | some o =>
    match r with
    | .data d => if 0 < d.bytes.length then { s with frames := s.frames ++ [(o, d.bytes)] } else s
    | .error e => if e.continues s.cancelled then s else { s with pc := .returned none }

/-- One step. -/
def step (s : State) : Event → State
  | .setUp r => if s.pc = .starting then s.setUp port groups r else s
  | .cancel => { s with cancelled := true }
  | .close =>
    match s.closer with
    | .waiting fd => if s.cancelled then { s.close fd with closer := .done } else s
    | .unborn | .done => s
  | .recv r =>
    match s.pc with
    | .looping fd => s.recv fd r
    | .starting | .returned _ => s
  | .opens n k => if s.fds n = none then { s with fds := Function.update s.fds n (some (.other k)) } else s
  | .closes n =>
    match s.fds n with
    | some (.other _) => { s with fds := Function.update s.fds n none }
    | some .ingress | none => s

/-- `Run`, in a process with some descriptors. -/
def start (others : ℕ → Option ℕ) : State :=
  ⟨fun n => (others n).map .other, .starting, .unborn, false, [], []⟩

end State

/-- A run. -/
def run (port : ℤ) (groups : List UDPAddr) (others : ℕ → Option ℕ) (es : List Event) : State :=
  runFrom (State.step port groups) (State.start others) es

/-! ### The socket is closed once -/

/-- The worker has no socket. -/
def State.Free (s : State) : Prop := ∀ n, s.fds n ≠ some .ingress

/-- Where the socket is. -/
def State.Inv (s : State) : Prop :=
  match s.closer with
  | .unborn => s.Free ∧ (s.pc = .starting ∧ s.closed = [] ∨
      ∃ err, s.pc = .returned (some err) ∧ (s.closed = [] ∨ s.closed = [some .ingress]))
  | .waiting fd =>
    (∀ n, s.fds n = some .ingress ↔ n = fd) ∧ s.closed = [] ∧ (s.pc = .looping fd ∨ s.pc = .returned none)
  | .done => s.Free ∧ s.closed = [some .ingress] ∧ ((∃ fd, s.pc = .looping fd) ∨ s.pc = .returned none)

section Inv

variable {port : ℤ} {groups : List UDPAddr} {s : State}

/-- What other goroutines do leaves the socket where it is. -/
theorem State.Inv.of_fds (h : s.Inv) {fds : ℕ → Option Owner}
    (hfds : ∀ n, fds n = some .ingress ↔ s.fds n = some .ingress) : State.Inv { s with fds } := by
  unfold State.Inv State.Free at h ⊢
  cases hc : s.closer with
  | unborn | done =>
    rw [hc] at h
    exact ⟨fun n hn => h.1 n ((hfds n).mp hn), h.2⟩
  | waiting fd =>
    rw [hc] at h
    exact ⟨fun n => (hfds n).trans (h.1 n), h.2⟩

/-- So does the worker, once it has a socket. -/
theorem State.Inv.of_pc (h : s.Inv) {fd : ℕ} (hpc : s.pc = .looping fd) :
    State.Inv { s with pc := .returned none } := by
  unfold State.Inv State.Free at h ⊢
  cases hc : s.closer with
  | unborn =>
    rw [hc, hpc] at h
    rcases h.2 with ⟨hst, -⟩ | ⟨err, hret, -⟩
    · cases hst
    · cases hret
  | waiting fd' =>
    rw [hc] at h
    exact ⟨h.1, h.2.1, .inr rfl⟩
  | done =>
    rw [hc] at h
    exact ⟨h.1, h.2.1, .inr rfl⟩

theorem State.Inv.setUp (h : s.Inv) (hpc : s.pc = .starting) (r : Replies) : (s.setUp port groups r).Inv := by
  have hinv := h
  unfold State.Inv at h
  cases hc : s.closer with
  | waiting fd =>
    rw [hc, hpc] at h
    simp at h
  | done =>
    rw [hc, hpc] at h
    simp at h
  | unborn =>
    rw [hc] at h
    obtain ⟨hfree, hrest⟩ := h
    have hclosed : s.closed = [] := by
      rcases hrest with ⟨-, hcl⟩ | ⟨err, hret, -⟩
      · exact hcl
      · rw [hpc] at hret
        cases hret
    unfold State.setUp
    cases r.socket with
    | error err =>
      unfold State.Inv
      simp only [hc]
      exact ⟨hfree, .inr ⟨_, rfl, .inl hclosed⟩⟩
    | ok fd =>
      dsimp only
      split_ifs with hused
      · exact hinv
      · cases r.error port groups with
        | some err =>
          -- the socket is closed again
          unfold State.Inv
          simp only [State.close, hc, Function.update_idem, Function.update_self, hclosed]
          refine ⟨fun n hn => ?_, .inr ⟨err, rfl, .inr rfl⟩⟩
          by_cases heq : n = fd
          · simp [heq] at hn
          · simp only [Function.update_of_ne heq] at hn
            exact hfree n hn
        | none =>
          refine ⟨fun n => ?_, hclosed, .inl rfl⟩
          by_cases heq : n = fd
          · simp [heq]
          · simp only [Function.update_of_ne heq]
            exact iff_of_false (hfree n) heq

theorem State.Inv.step (h : s.Inv) (e : Event) : (s.step port groups e).Inv := by
  cases e with
  | setUp r =>
    simp only [State.step]
    split_ifs with hpc
    · exact h.setUp hpc r
    · exact h
  | cancel => exact h
  | close =>
    simp only [State.step]
    split
    · next fd hc =>
      split_ifs
      · unfold State.Inv at h
        rw [hc] at h
        obtain ⟨hfds, hclosed, hpc⟩ := h
        unfold State.Inv
        simp only [State.close, (hfds fd).mpr rfl, hclosed]
        refine ⟨fun n hn => ?_, rfl, hpc.imp (fun hl => ⟨fd, hl⟩) id⟩
        by_cases heq : n = fd
        · simp [heq] at hn
        · simp only [Function.update_of_ne heq] at hn
          exact heq ((hfds n).mp hn)
      · exact h
    · exact h
    · exact h
  | recv r =>
    simp only [State.step]
    split
    · next fd hpc =>
      unfold State.recv
      split
      · split_ifs
        · exact h
        · exact h.of_pc hpc
      · cases r with
        | data d =>
          dsimp only
          split_ifs
          · exact h
          · exact h
        | error e =>
          dsimp only
          split_ifs
          · exact h
          · exact h.of_pc hpc
    · exact h
    · exact h
  | opens n k =>
    simp only [State.step]
    split_ifs with hfree
    · refine h.of_fds fun m => ?_
      by_cases heq : m = n
      · simp [heq, hfree]
      · rw [Function.update_of_ne heq]
    · exact h
  | closes n =>
    simp only [State.step]
    split
    · next k hk =>
      refine h.of_fds fun m => ?_
      by_cases heq : m = n
      · simp [heq, hk]
      · rw [Function.update_of_ne heq]
    · exact h
    · exact h

end Inv

section Runs

variable (port : ℤ) (groups : List UDPAddr) (others : ℕ → Option ℕ)

theorem inv_run (es : List Event) : (run port groups others es).Inv := by
  have hstart : (State.start others).Inv := by
    refine ⟨fun n hn => ?_, .inl ⟨rfl, rfl⟩⟩
    simp [State.start] at hn
  exact runFrom_invariant hstart (fun _ e h => h.step e) es

/-- What holds of the socket at any time. -/
structure Safe (s : State) : Prop where
  /-- There is one at most. -/
  unique : ∀ m n, s.fds m = some .ingress → s.fds n = some .ingress → m = n
  /-- What has been closed is the socket, once. -/
  closed : s.closed = [] ∨ s.closed = [some .ingress]
  /-- It is then closed for good. -/
  released : s.closed ≠ [] → s.Free
  /-- And it is closed if `Run` returns an error. -/
  failed : ∀ err, s.pc = .returned (some err) → s.Free

theorem State.Inv.safe {s : State} (h : s.Inv) : Safe s := by
  unfold State.Inv at h
  cases hc : s.closer with
  | unborn =>
    rw [hc] at h
    obtain ⟨hfree, hrest⟩ := h
    refine ⟨fun m _ hm _ => absurd hm (hfree m), ?_, fun _ => hfree, fun _ _ => hfree⟩
    rcases hrest with ⟨-, hcl⟩ | ⟨-, -, hcl⟩
    · exact .inl hcl
    · exact hcl
  | waiting fd =>
    rw [hc] at h
    obtain ⟨hfds, hclosed, hpc⟩ := h
    refine ⟨fun m n hm hn => ?_, .inl hclosed, fun hne => absurd hclosed hne, fun err herr => ?_⟩
    · rw [(hfds m).mp hm, (hfds n).mp hn]
    · rw [herr] at hpc
      simp at hpc
  | done =>
    rw [hc] at h
    obtain ⟨hfree, hclosed, -⟩ := h
    exact ⟨fun m _ hm _ => absurd hm (hfree m), .inr hclosed, fun _ => hfree, fun _ _ => hfree⟩

/-- **The socket is closed once, and nothing else is**, on every path and in every interleaving:
there is one at most, it is closed before an error is returned, and whenever the context is
cancelled it can be closed. -/
theorem socket_closed_once (es : List Event) :
    Safe (run port groups others es) ∧ (run port groups others (es ++ [.cancel, .close])).Free := by
  refine ⟨(inv_run port groups others es).safe, ?_⟩
  have hinv := inv_run port groups others (es ++ [.cancel, .close])
  have hsplit : run port groups others (es ++ [.cancel, .close]) =
      ((run port groups others es).step port groups .cancel).step port groups .close := List.foldl_append ..
  rw [hsplit] at hinv ⊢
  cases hc : (run port groups others es).closer with
  | unborn | done =>
    unfold State.Inv at hinv
    simp only [State.step, hc] at hinv ⊢
    exact hinv.1
  | waiting fd =>
    unfold State.Inv at hinv
    simp only [State.step, hc, if_true] at hinv ⊢
    exact hinv.1

/-! ### What is received -/

variable {port groups others}

/-- No other goroutine opens a descriptor after the `Close`, while the worker is in its loop. -/
def State.Quiet (s : State) : Event → Prop
  | .opens _ _ => s.closer = .done → ∀ fd, s.pc ≠ .looping fd
  | _ => True

/-- The number that the worker uses is that of its socket, or of nothing. -/
structure State.Own (s : State) : Prop where
  frames : ∀ p ∈ s.frames, p.1 = .ingress
  fds : ∀ fd, s.pc = .looping fd → ∀ k, s.fds fd ≠ some (.other k)
  closed : s.closer = .done → ∀ fd, s.pc = .looping fd → s.fds fd = none

theorem State.Own.returned {s : State} (h : s.Own) : State.Own { s with pc := .returned none } :=
  ⟨h.frames, nofun, nofun⟩

theorem State.Own.recv {s : State} (h : s.Own) {fd : ℕ} (hpc : s.pc = .looping fd) (r : RecvResult) :
    (s.recv fd r).Own := by
  unfold State.recv
  split
  · split_ifs
    · exact h
    · exact h.returned
  · next o ho =>
    cases r with
    | data d =>
      dsimp only
      split_ifs
      · refine ⟨fun p hp => ?_, h.fds, h.closed⟩
        rcases List.mem_append.mp hp with hp | hp
        · exact h.frames p hp
        · rw [List.mem_singleton.mp hp]
          cases o with
          | ingress => rfl
          | other k => exact absurd ho (h.fds fd hpc k)
      · exact h
    | error e =>
      dsimp only
      split_ifs
      · exact h
      · exact h.returned

/-- While the socket is open, the number of the worker is that of the socket. -/
theorem State.Inv.looping {s : State} (h : s.Inv) {fd : ℕ} (hpc : s.pc = .looping fd) :
    s.closer = .waiting fd ∧ s.fds fd = some .ingress ∨ s.closer = .done := by
  unfold State.Inv at h
  cases hc : s.closer with
  | unborn =>
    rw [hc, hpc] at h
    simp at h
  | waiting fd' =>
    rw [hc] at h
    obtain ⟨hfds, -, hpc'⟩ := h
    rcases hpc' with hl | hr
    · obtain rfl : fd = fd' := Pc.looping.inj (hpc.symm.trans hl)
      exact .inl ⟨rfl, (hfds fd).mpr rfl⟩
    · rw [hpc] at hr
      cases hr
  | done => exact .inr rfl

theorem State.Own.step {s : State} (hinv : s.Inv) (h : s.Own) {e : Event} (he : s.Quiet e) :
    (s.step port groups e).Own := by
  cases e with
  | setUp r =>
    simp only [State.step]
    split_ifs
    · unfold State.setUp
      cases r.socket with
      | error err => exact ⟨h.frames, nofun, nofun⟩
      | ok fd =>
        dsimp only
        split_ifs
        · exact h
        · cases r.error port groups with
          | some err => exact ⟨h.frames, nofun, nofun⟩
          | none =>
            refine ⟨h.frames, fun fd' hfd k => ?_, nofun⟩
            obtain rfl := Pc.looping.inj hfd
            simp
    · exact h
  | cancel => exact ⟨h.frames, h.fds, h.closed⟩
  | close =>
    simp only [State.step]
    split
    · next fd hc =>
      split_ifs
      · -- the number of the worker stands for nothing now
        have hnone : ∀ fd', s.pc = .looping fd' → Function.update s.fds fd none fd' = none := by
          intro fd' hpc
          rcases hinv.looping hpc with ⟨hw, -⟩ | hd
          · obtain rfl := Closer.waiting.inj (hc.symm.trans hw)
            exact Function.update_self ..
          · rw [hc] at hd
            cases hd
        refine ⟨h.frames, fun fd' hpc k => ?_, fun _ fd' hpc => hnone fd' hpc⟩
        have hn := hnone fd' hpc
        simp only [State.close, hn]
        nofun
      · exact h
    · exact h
    · exact h
  | recv r =>
    simp only [State.step]
    split
    · next fd hpc => exact h.recv hpc r
    · exact h
    · exact h
  | opens n k =>
    simp only [State.step]
    split_ifs with hfree
    · -- the socket is open, so the number is another one
      have hne : ∀ fd, s.pc = .looping fd → fd ≠ n := by
        rintro fd hpc rfl
        rcases hinv.looping hpc with ⟨-, hfd⟩ | hd
        · rw [hfree] at hfd
          cases hfd
        · exact he hd fd hpc
      refine ⟨h.frames, fun fd hpc k' => ?_, fun hd fd hpc => absurd hpc (he hd fd)⟩
      simp only [Function.update_of_ne (hne fd hpc)]
      exact h.fds fd hpc k'
    · exact h
  | closes n =>
    simp only [State.step]
    split
    · next k hk =>
      have hne : ∀ fd, s.pc = .looping fd → fd ≠ n := by
        rintro fd hpc rfl
        exact h.fds fd hpc k hk
      refine ⟨h.frames, fun fd hpc k' => ?_, fun hd fd hpc => ?_⟩
      · simp only [Function.update_of_ne (hne fd hpc)]
        exact h.fds fd hpc k'
      · simp only [Function.update_of_ne (hne fd hpc)]
        exact h.closed hd fd hpc
    · exact h
    · exact h

theorem own_run {es : List Event} (hes : Along (State.step port groups) (State.start others) State.Quiet es) :
    (run port groups others es).Own := by
  have hstep : ∀ (s : State) (e : Event), s.Inv ∧ s.Own → s.Quiet e →
      (s.step port groups e).Inv ∧ (s.step port groups e).Own :=
    fun s e hs he => ⟨hs.1.step e, hs.2.step hs.1 he⟩
  exact (Along.invariant ⟨inv_run port groups others [], ⟨nofun, nofun, nofun⟩⟩ hstep hes).2

/-- **What is received is from the socket**, as long as no other goroutine opens a descriptor
between the `Close` and the return of the worker; the first receive after the `Close` is the last. -/
theorem receives_from_own_socket {es : List Event}
    (hes : Along (State.step port groups) (State.start others) State.Quiet es) :
    (∀ p ∈ (run port groups others es).frames, p.1 = .ingress) ∧
      ((run port groups others es).closer = .done → ∀ fd, (run port groups others es).pc = .looping fd →
        ∀ r, (run port groups others (es ++ [.recv r])).pc = .returned none) := by
  have hown := own_run hes
  refine ⟨hown.frames, fun hd fd hpc r => ?_⟩
  have hnone := hown.closed hd fd hpc
  rw [run, runFrom_snoc]
  change (State.step port groups (run port groups others es) (.recv r)).pc = _
  unfold run at hpc hnone ⊢
  simp [State.step, State.recv, hpc, hnone, Errno.continues]

/-- A set-up without errors, which gets the number `3`. -/
def accepted : Replies := ⟨.ok 3, none, none, fun _ => none, fun _ => ""⟩

/-- A datagram. -/
def datagram : Datagram := ⟨[1], by decide⟩

theorem receives_from_own_socket_of_one :
    Along (State.step 9001 []) (State.start fun _ => none) State.Quiet
        [.setUp accepted, .recv (.data datagram), .cancel, .close] ∧
      ∀ p ∈ (run 9001 [] (fun _ => none) [.setUp accepted, .recv (.data datagram), .cancel, .close]).frames,
        p.1 = .ingress := by
  have hes : Along (State.step 9001 []) (State.start fun _ => none) State.Quiet
      [.setUp accepted, .recv (.data datagram), .cancel, .close] := by
    simp only [along_cons_iff]
    exact ⟨trivial, trivial, trivial, trivial, along_nil⟩
  exact ⟨hes, (receives_from_own_socket hes).1⟩

/-- **The number may be handed out again**: between the `Close` and the return of the worker another goroutine may
get the number of its socket, and what the worker receives next is from there. -/
theorem receives_from_reused_number {es : List Event}
    (hes : Along (State.step port groups) (State.start others) State.Quiet es)
    (hclosed : (run port groups others es).closer = .done) {fd : ℕ} (hpc : (run port groups others es).pc = .looping fd)
    (k : ℕ) {d : Datagram} (hd : 0 < d.bytes.length) :
    (run port groups others (es ++ [.opens fd k, .recv (.data d)])).frames =
      (run port groups others es).frames ++ [(.other k, d.bytes)] := by
  have hfree : (run port groups others es).fds fd = none := (own_run hes).closed hclosed fd hpc
  have hsplit : run port groups others (es ++ [.opens fd k, .recv (.data d)]) =
      ((run port groups others es).step port groups (.opens fd k)).step port groups (.recv (.data d)) :=
    List.foldl_append ..
  rw [hsplit]
  simp [State.step, State.recv, hfree, hpc, hd]

-- The worker takes the datagram of another socket for a frame.
example :
    (run 9001 [] (fun _ => none)
      [.setUp accepted, .cancel, .close, .opens 3 7, .recv (.data datagram)]).frames = [(.other 7, [1])] := by
  decide

end Runs

end RetryEndpoint.Ingress.Socket
