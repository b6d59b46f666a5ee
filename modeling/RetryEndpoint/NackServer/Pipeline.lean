import RetryEndpoint.NackServer.Balance
import RetryEndpoint.NackServer.Shutdown

/-!
# The NACK server as a whole

`Server.Run` with the calls of `processNACK` that its workers make: from the datagrams on the socket
to the responses.

## The model

`HandOff` has the reader, the channel and where the workers are, and `Workers` has the steps of a
call. Here the two run together. A worker that receives a request begins a call with the bytes that
are in the request's array; the call takes its steps in the midst of everything else, on the
limiter and the backend that all share; and the worker is free again when the call returns.

The `k`-th of `tasks` is the `k`-th call in the record of the hand-off.

## What is proved

* `inv_run` — the calls and the hand-off keep in step: what is proved of each of them holds of both.
* `server_serves` — the `k`-th call answers the `k`-th datagram that passes the size check, like a call
  that is not interrupted; no more calls are under way than there are workers; what is sent to an address is
  at most a quarter of what was read from it; no more than 101 datagrams wait for a worker; and when
  `Run` has returned, and with it the socket is closed, no call is left that could write to it.
-/

namespace RetryEndpoint.NackServer

open Go RateLimit ShardCommon Theory
open Workers (Task Shared advance)

/-! ### Steps of the hand-off -/

namespace HandOff

/-- What a step of the reader, or of a worker that is not in a call, can do. -/
inductive Moves (workers : ℕ) (s s' : State) : Prop where
  /-- No call begins; datagrams may have been read. -/
  | stays (hcalls : s'.calls = s.calls) (hworker : ∀ i req, s.worker i = .busy req → s'.worker i = .busy req)
      (haccepted : ∃ more, s'.accepted = s.accepted ++ more)
  /-- A worker begins a call. -/
  | takes (i : ℕ) (req : NackRequest) (hi : i < workers) (hidle : s.worker i = .idle)
      (hcalls : s'.calls = s.calls ++ [(i, req)]) (hworker : s'.worker = Function.update s.worker i (.busy req))
      (haccepted : s'.accepted = s.accepted)

theorem Moves.refl (workers : ℕ) (s : State) : Moves workers s s :=
  .stays rfl (fun _ _ h => h) ⟨[], (List.append_nil _).symm⟩

theorem moves_readerStep (workers : ℕ) (s : State) (e : Event) : Moves workers s (readerStep workers s e) := by
  have hsame {s' : State} (hcalls : s'.calls = s.calls) (hworker : s'.worker = s.worker)
      (haccepted : s'.accepted = s.accepted) : Moves workers s s' :=
    .stays hcalls (fun _ _ h => by rwa [hworker]) ⟨[], by rw [haccepted, List.append_nil]⟩
  unfold readerStep
  split
  next => exact hsame rfl rfl rfl
  next => exact hsame rfl rfl rfl
  next => exact hsame rfl rfl rfl
  next => exact .stays rfl (fun _ _ h => h) ⟨_, rfl⟩ -- a datagram is read
  next => split_ifs <;> exact hsame rfl rfl rfl
  next => split <;> exact hsame rfl rfl rfl
  next => split_ifs <;> exact hsame rfl rfl rfl
  next => split <;> exact hsame rfl rfl rfl
  next => split_ifs <;> exact hsame rfl rfl rfl
  next => exact .refl workers s

theorem moves_workerStep {workers i : ℕ} (hi : i < workers) (s : State) {e : Event}
    (he : e = .workerDone i ∨ e = .workerRecv i) : Moves workers s (workerStep s i e) := by
  have hexits (hidle : s.worker i = .idle) :
      Moves workers s { s with worker := Function.update s.worker i .exited } := by
    refine .stays rfl (fun j req hj => ?_) ⟨[], (List.append_nil _).symm⟩
    have hne : j ≠ i := by
      rintro rfl
      rw [hidle] at hj
      cases hj
    exact (Function.update_of_ne hne ..).trans hj
  unfold workerStep
  split
  next hidle =>
    split_ifs
    · exact hexits hidle
    · exact .refl workers s
  next hidle =>
    split
    next req c _ => exact .takes i req hi hidle rfl rfl rfl
    next => exact hexits hidle
    next => exact .refl workers s
  next =>
    obtain he | he := he <;> cases he
  next => exact .refl workers s

/-- A step that is not the return of a call. -/
theorem moves_step (workers : ℕ) (s : State) {e : Event} (he : ∀ i, e ≠ .workerReturn i) :
    Moves workers s (step workers s e) := by
  cases e with
  | workerReturn i => exact absurd rfl (he i)
  | workerDone i | workerRecv i =>
    simp only [step]
    split_ifs with hi
    · exact moves_workerStep hi s (by simp)
    · exact .refl workers s
  | cancel => exact .stays rfl (fun _ _ h => h) ⟨[], (List.append_nil _).symm⟩
  | _ => exact moves_readerStep workers s _

/-- The return of a call. -/
theorem step_workerReturn {workers i : ℕ} (hi : i < workers) {s : State} {req : NackRequest}
    (hbusy : s.worker i = .busy req) :
    step workers s (.workerReturn i) = { s with worker := Function.update s.worker i .idle } := by
  simp only [step, if_pos hi, workerStep, hbusy]

/-- The `k`-th call has the `k`-th datagram. -/
theorem Delivery.getElem?_accepted {s : State} (h : Delivery s) {k i : ℕ} {req : NackRequest}
    (hk : s.calls[k]? = some (i, req)) : s.accepted[k]? = some (datagramOf s.heap req) := by
  have hlt : k < s.calls.length := (List.getElem?_eq_some_iff.mp hk).1
  rw [← h.accepted_eq, State.outstanding, List.append_assoc, List.append_assoc, List.map_append,
    List.getElem?_append_left (by simpa using hlt)]
  simp [hk]

theorem Delivery.length_accepted {s : State} (h : Delivery s) :
    s.accepted.length =
      s.calls.length + s.requests.queue.length + (s.reader.inHand s.buf).length + s.givenUp.length := by
  rw [← h.accepted_eq]
  simp [State.outstanding, Nat.add_assoc]

end HandOff

/-! ### The server -/

namespace Workers

/-- What a call answers. -/
def Task.request (t : Task) : Bytes × Option UDPAddr := (t.datagram, t.src)

/-- A step of a call changes neither. -/
theorem request_advance {D : Deps} {σ : Type} (srv : Server) (S : ShardLib) (B : Backend σ) (now : Time)
    (sendErr : Bool) (t : Task) (x : Shared D σ) : (advance srv S B now sendErr t x).1.request = t.request := by
  unfold advance
  split
  next =>
    split
    · rfl
    · dsimp only
      split_ifs <;> rfl
  next => dsimp only; split_ifs <;> rfl
  next => dsimp only; split_ifs <;> rfl
  next => dsimp only; split_ifs <;> rfl
  next => split <;> rfl
  next => dsimp only; split_ifs <;> rfl
  next => dsimp only; split <;> rfl
  next => rfl
  next => rfl

end Workers

namespace Pipeline

section

variable {D : Deps} {σ ω : Type} (srv : Server) (S : ShardLib) (back : ω → Backend σ) (workers : ℕ)

/-- The server. -/
structure State (D : Deps) (σ : Type) where
  /-- The reader, the channel and the workers. -/
  hand : HandOff.State
  /-- What the calls share. -/
  shared : Shared D σ
  /-- The calls, in the order in which they began. -/
  tasks : List Task

/-- What can happen next. -/
inductive Event (ω : Type) where
  /-- A step of the reader or of a worker that is not in a call, or the cancellation. -/
  | hand (e : HandOff.Event)
  /-- The `k`-th call takes a step; `env` is what the backend meets in it. -/
  | advance (k : ℕ) (now : Time) (sendErr : Bool) (env : ω)

/-- The hand-off goes on to `h`; a call begins with the bytes of its request. -/
def State.follow (s : State D σ) (h : HandOff.State) : State D σ :=
  { s with
    hand := h
    tasks := s.tasks ++ (h.calls.drop s.tasks.length).map fun c => Task.new srv (h.heap.read c.2.data) c.2.src }

/-- One event. A worker is free again when its call returns, and not before. -/
def step (s : State D σ) : Event ω → State D σ
  | .hand (.workerReturn _) => s
  | .hand e => s.follow srv (HandOff.step workers s.hand e)
  | .advance k now sendErr env =>
    match s.tasks[k]?, s.hand.calls[k]? with
    | some t, some (i, _) =>
      if t.stage.isReturned then s else
      let r := advance srv S (back env) now sendErr t s.shared
      ⟨if r.1.stage.isReturned then HandOff.step workers s.hand (.workerReturn i) else s.hand, r.2, s.tasks.set k r.1⟩
    | _, _ => s

/-- A run. -/
def run (x : Shared D σ) (es : List (Event ω)) : State D σ :=
  runFrom (step srv S back workers) ⟨HandOff.start, x, []⟩ es

/-- The `k`-th call is under way, at the worker `i`. -/
def State.InCall (s : State D σ) (k i : ℕ) : Prop :=
  ∃ t req, s.tasks[k]? = some t ∧ t.stage.isReturned = false ∧ s.hand.calls[k]? = some (i, req)

/-- **The calls and the hand-off keep in step.** -/
structure Inv (s : State D σ) : Prop where
  control : HandOff.Control s.hand
  delivery : HandOff.Delivery s.hand
  joined : HandOff.Joined workers s.hand
  /-- Each call has its task. -/
  length : s.tasks.length = s.hand.calls.length
  /-- The tasks are about the datagrams, in order. -/
  inOrder : s.tasks.map Task.request = s.hand.accepted.take s.tasks.length
  /-- What is known of a call. -/
  sound : ∀ t ∈ s.tasks, t.Sound srv
  /-- The worker of a call that is under way is busy. -/
  busy : ∀ k i, s.InCall k i → i < workers ∧ ∃ req, s.hand.worker i = .busy req
  /-- With this one call. -/
  single : ∀ j k i, s.InCall j i → s.InCall k i → j = k

end

section

variable {D : Deps} {σ ω : Type} {srv : Server} {S : ShardLib} {back : ω → Backend σ} {workers : ℕ} {s : State D σ}

theorem inv_start (x : Shared D σ) : Inv srv workers (⟨HandOff.start, x, []⟩ : State D σ) where
  control := HandOff.control_start
  delivery := HandOff.delivery_start
  joined h := by cases h
  length := rfl
  inOrder := rfl
  sound t ht := by cases ht
  busy k i h := by
    obtain ⟨t, req, ht, -⟩ := h
    cases ht
  single j k i h := by
    obtain ⟨t, req, ht, -⟩ := h
    cases ht

theorem Inv.length_le (h : Inv srv workers s) : s.tasks.length ≤ s.hand.accepted.length := by
  rw [h.length, h.delivery.length_accepted]
  omega

/-- No call begins. -/
theorem Inv.stays (h : Inv srv workers s) {h' : HandOff.State} (hc : HandOff.Control h') (hd : HandOff.Delivery h')
    (hj : HandOff.Joined workers h') (hcalls : h'.calls = s.hand.calls)
    (hworker : ∀ i req, s.hand.worker i = .busy req → h'.worker i = .busy req)
    (haccepted : ∃ more, h'.accepted = s.hand.accepted ++ more) : Inv srv workers (s.follow srv h') := by
  obtain ⟨more, hmore⟩ := haccepted
  have htasks : s.follow srv h' = { s with hand := h' } := by
    simp [State.follow, hcalls, ← h.length]
  have hin (k i : ℕ) (hki : State.InCall { s with hand := h' } k i) : s.InCall k i := by
    obtain ⟨t, req, ht, hret, hk⟩ := hki
    exact ⟨t, req, ht, hret, hcalls ▸ hk⟩
  rw [htasks]
  refine ⟨hc, hd, hj, h.length.trans (congrArg List.length hcalls.symm), ?_, h.sound, fun k i hki => ?_,
    fun j k i hji hki => h.single j k i (hin j i hji) (hin k i hki)⟩
  · rw [h.inOrder, hmore, List.take_append_of_le_length h.length_le]
  · obtain ⟨hi, req, hbusy⟩ := h.busy k i (hin k i hki)
    exact ⟨hi, req, hworker i req hbusy⟩

/-- A worker that is idle begins a call. -/
theorem Inv.takes (h : Inv srv workers s) {h' : HandOff.State} (hc : HandOff.Control h') (hd : HandOff.Delivery h')
    (hj : HandOff.Joined workers h') {i : ℕ} {req : HandOff.NackRequest} (hi : i < workers)
    (hidle : s.hand.worker i = .idle) (hcalls : h'.calls = s.hand.calls ++ [(i, req)])
    (hworker : h'.worker = Function.update s.hand.worker i (.busy req)) (haccepted : h'.accepted = s.hand.accepted) :
    Inv srv workers (s.follow srv h') := by
  have htasks : s.follow srv h' =
      { s with hand := h', tasks := s.tasks ++ [Task.new srv (h'.heap.read req.data) req.src] } := by
    simp [State.follow, hcalls, h.length]
  have hlast : h'.calls[s.tasks.length]? = some (i, req) := by
    rw [hcalls, h.length]
    simp
  have hin (k j : ℕ) (hkj : State.InCall (s.follow srv h') k j) : s.InCall k j ∨ k = s.tasks.length ∧ j = i := by
    obtain ⟨t, req', ht, hret, hk⟩ := hkj
    rw [htasks] at ht hk
    rcases getElem?_snoc_eq_some_iff.mp ht with ht | ⟨rfl, -⟩
    · left
      have hlt : k < s.hand.calls.length := h.length ▸ (List.getElem?_eq_some_iff.mp ht).1
      dsimp only at hk
      rw [hcalls, List.getElem?_append_left hlt] at hk
      exact ⟨t, req', ht, hret, hk⟩
    · right
      have heq := Option.some.inj (hlast.symm.trans hk)
      exact ⟨rfl, (congrArg Prod.fst heq).symm⟩
  -- the worker is in no other call
  have hfree (k : ℕ) : ¬ s.InCall k i := by
    intro hki
    obtain ⟨-, req', hbusy⟩ := h.busy k i hki
    rw [hidle] at hbusy
    cases hbusy
  refine ⟨hc, hd, hj, ?_, ?_, ?_, fun k j hkj => ?_, fun k k' j hkj hkj' => ?_⟩
  · simp [htasks, hcalls, h.length]
  · have hnext := hd.getElem?_accepted hlast
    rw [htasks]
    simp only [List.map_append, List.length_append, List.length_singleton, List.map_singleton]
    rw [List.take_add_one, hnext, h.inOrder, haccepted]
    rfl
  · rw [htasks]
    intro t ht
    rcases List.mem_append.mp ht with ht | ht
    · exact h.sound t ht
    · rw [List.mem_singleton.mp ht]
      exact .fresh rfl rfl rfl
  · change j < workers ∧ ∃ req, h'.worker j = .busy req
    rw [hworker]
    rcases hin k j hkj with hold | ⟨-, rfl⟩
    · obtain ⟨hj', req', hbusy⟩ := h.busy k j hold
      have hne : j ≠ i := by
        rintro rfl
        exact hfree k hold
      exact ⟨hj', req', (Function.update_of_ne hne ..).trans hbusy⟩
    · exact ⟨hi, req, Function.update_self ..⟩
  · rcases hin k j hkj with hold | ⟨rfl, rfl⟩
    · rcases hin k' j hkj' with hold' | ⟨-, rfl⟩
      · exact h.single k k' j hold hold'
      · exact absurd hold (hfree k)
    · rcases hin k' j hkj' with hold' | ⟨rfl, -⟩
      · exact absurd hold' (hfree k')
      · rfl

theorem Inv.hand (h : Inv srv workers s) {e : HandOff.Event} (he : ∀ i, e ≠ .workerReturn i) :
    Inv srv workers (s.follow srv (HandOff.step workers s.hand e)) := by
  obtain ⟨hc, hd⟩ := HandOff.step_inv ⟨h.control, h.delivery⟩ workers e
  have hj := h.joined.step e
  cases HandOff.moves_step workers s.hand he with
  | stays hcalls hworker haccepted => exact h.stays hc hd hj hcalls hworker haccepted
  | takes i req hi hidle hcalls hworker haccepted => exact h.takes hc hd hj hi hidle hcalls hworker haccepted

/-- A call takes a step, and its worker is free if it returns. -/
theorem Inv.advance (h : Inv srv workers s) {k i : ℕ} {t t' : Task} {req : HandOff.NackRequest} {x : Shared D σ}
    (ht : s.tasks[k]? = some t) (hret : t.stage.isReturned = false) (hk : s.hand.calls[k]? = some (i, req))
    (hrequest : t'.request = t.request) (hsound : t'.Sound srv) :
    Inv srv workers (⟨if t'.stage.isReturned then HandOff.step workers s.hand (.workerReturn i) else s.hand, x,
      s.tasks.set k t'⟩ : State D σ) := by
  have hcall : s.InCall k i := ⟨t, req, ht, hret, hk⟩
  obtain ⟨hi, req', hbusy⟩ := h.busy k i hcall
  have hlt : k < s.tasks.length := (List.getElem?_eq_some_iff.mp ht).1
  have hmap : (s.tasks.set k t').map Task.request = s.tasks.map Task.request := by
    obtain ⟨_, rfl⟩ := List.getElem?_eq_some_iff.mp ht
    rw [List.map_set, hrequest, ← List.map_set, List.set_getElem_self]
  have hmem : ∀ u ∈ s.tasks.set k t', u.Sound srv := by
    intro u hu
    rcases List.mem_or_eq_of_mem_set hu with hu | rfl
    · exact h.sound u hu
    · exact hsound
  -- a call that is under way after the step was before it, and is this one only if it has not returned
  have hin {hand : HandOff.State} (hcalls : hand.calls = s.hand.calls) {j i' : ℕ}
      (hji : State.InCall ⟨hand, x, s.tasks.set k t'⟩ j i') :
      s.InCall j i' ∧ (j = k → t'.stage.isReturned = false) := by
    obtain ⟨u, req'', hu, huret, hj⟩ := hji
    dsimp only at hu hj
    rw [hcalls] at hj
    by_cases hjk : j = k
    · subst hjk
      rw [List.getElem?_set_self hlt] at hu
      obtain rfl := Option.some.inj hu
      exact ⟨⟨t, req'', ht, hret, hj⟩, fun _ => huret⟩
    · rw [List.getElem?_set_ne (Ne.symm hjk)] at hu
      exact ⟨⟨u, req'', hu, huret, hj⟩, fun heq => absurd heq hjk⟩
  cases hreturned : t'.stage.isReturned with
  | false =>
    simp only [Bool.false_eq_true, if_false]
    refine ⟨h.control, h.delivery, h.joined, (List.length_set ..).trans h.length, ?_, hmem, fun j i' hji => ?_,
      fun j j' i' hji hji' => h.single j j' i' (hin rfl hji).1 (hin rfl hji').1⟩
    · rw [hmap, List.length_set]
      exact h.inOrder
    · exact h.busy j i' (hin rfl hji).1
  | true =>
    simp only [if_true]
    obtain ⟨hc, hd⟩ := HandOff.step_inv ⟨h.control, h.delivery⟩ workers (.workerReturn i)
    have hj := h.joined.step (.workerReturn i)
    rw [HandOff.step_workerReturn hi hbusy] at hc hd hj ⊢
    refine ⟨hc, hd, hj, (List.length_set ..).trans h.length, ?_, hmem, fun j i' hji => ?_,
      fun j j' i' hji hji' => h.single j j' i' (hin rfl hji).1 (hin rfl hji').1⟩
    · rw [hmap, List.length_set]
      exact h.inOrder
    · obtain ⟨hold, hjk⟩ := hin rfl hji
      obtain ⟨hi', req'', hbusy'⟩ := h.busy j i' hold
      have hne : i' ≠ i := by
        rintro rfl
        have := hjk (h.single j k i' hold hcall)
        rw [hreturned] at this
        cases this
      exact ⟨hi', req'', (Function.update_of_ne hne ..).trans hbusy'⟩

theorem Inv.step (h : Inv srv workers s) (e : Event ω) : Inv srv workers (step srv S back workers s e) := by
  cases e with
  | hand e =>
    cases e with
    | workerReturn i => exact h
    | _ => exact h.hand (by simp)
  | advance k now sendErr env =>
    simp only [Pipeline.step]
    split
    next t i req ht hk =>
      by_cases hret : t.stage.isReturned
      · rwa [if_pos hret]
      · rw [if_neg hret]
        apply h.advance ht (Bool.eq_false_iff.mpr hret) hk
        · exact Workers.request_advance ..
        · exact (h.sound t (List.mem_of_getElem? ht)).advance now sendErr s.shared
    next => exact h

variable (srv S back workers) in
theorem inv_run (x : Shared D σ) (es : List (Event ω)) : Inv srv workers (run srv S back workers x es) :=
  runFrom_invariant (inv_start x) (fun _ e h => h.step e) es

/-! ### What the server does -/

/-- How many bytes were sent to an address. -/
def State.bytesTo (s : State D σ) (dst : UDPAddr) : ℕ :=
  (s.tasks.map fun t => ((t.replies.filter fun r => r.dst = dst).map fun r => r.data.length).sum).sum

/-- How many bytes that pass the size check were read from it. -/
def State.bytesFrom (s : State D σ) (dst : UDPAddr) : ℕ :=
  (s.hand.accepted.map fun a => if a.2 = some dst then a.1.length else 0).sum

variable (srv S workers) in
/-- What the server has done, at any point. -/
structure Serves (s : State D σ) : Prop where
  /-- The `k`-th call is for the `k`-th datagram. -/
  inOrder : s.tasks.map Task.request = s.hand.accepted.take s.tasks.length
  /-- A call that has returned did what `processNACK` does. -/
  outcome : ∀ t ∈ s.tasks, t.stage.isReturned = true →
    ∃ (l : Limiter countdown) (B : Backend Unit) (sendErr : Bool),
      t.outcome = some (srv.processNACK S B t.datagram t.src 0 sendErr l ()).1
  /-- No more calls are under way than there are workers. -/
  concurrent : ∀ ks : Finset ℕ, (∀ k ∈ ks, ∃ i, s.InCall k i) → ks.card ≤ workers
  /-- No address is sent more than a quarter of what was read from it. -/
  bytes : ∀ dst, 4 * s.bytesTo dst ≤ s.bytesFrom dst
  /-- Until the cancellation, the channel and the reader have at most 101 datagrams. -/
  waiting : s.hand.cancelled = false → s.hand.accepted.length ≤ s.tasks.length + 101
  /-- When `Run` has returned, so have all calls. -/
  ended : s.hand.reader = .returned → ∀ t ∈ s.tasks, t.stage.isReturned = true

theorem Inv.bytes_le (h : Inv srv workers s) (dst : UDPAddr) : 4 * s.bytesTo dst ≤ s.bytesFrom dst := by
  have htasks : (s.tasks.map fun t => if t.src = some dst then t.datagram.length else 0) =
      (s.hand.accepted.take s.tasks.length).map fun a => if a.2 = some dst then a.1.length else 0 := by
    rw [← h.inOrder, List.map_map]
    rfl
  calc 4 * s.bytesTo dst
      ≤ (s.tasks.map fun t => if t.src = some dst then t.datagram.length else 0).sum := by
        rw [State.bytesTo, ← List.sum_map_mul_left]
        exact List.sum_le_sum fun t ht => (h.sound t ht).bytes_le dst
    _ = ((s.hand.accepted.take s.tasks.length).map fun a => if a.2 = some dst then a.1.length else 0).sum := by
        rw [htasks]
    _ ≤ s.bytesFrom dst := by
        exact ((List.take_sublist ..).map _).sum_le_sum fun _ _ => Nat.zero_le _

theorem Inv.card_le (h : Inv srv workers s) {ks : Finset ℕ} (hks : ∀ k ∈ ks, ∃ i, s.InCall k i) :
    ks.card ≤ workers := by
  choose! worker hworker using hks
  calc ks.card
      ≤ (Finset.range workers).card := by
        apply Finset.card_le_card_of_injOn worker
        · intro k hk
          exact Finset.mem_coe.mpr (Finset.mem_range.mpr (h.busy k _ (hworker k hk)).1)
        · intro j hj k hk heq
          exact h.single j k _ (hworker j hj) (heq ▸ hworker k hk)
    _ = workers := Finset.card_range workers

theorem Inv.waiting_le (h : Inv srv workers s) (hcancelled : s.hand.cancelled = false) :
    s.hand.accepted.length ≤ s.tasks.length + 101 := by
  have hgiven : s.hand.givenUp = [] := by
    refine h.control.givenUp.resolve_right fun hdone => ?_
    rw [h.control.cancelled hdone] at hcancelled
    cases hcancelled
  have hhand : (s.hand.reader.inHand s.hand.buf).length ≤ 1 := by
    unfold HandOff.Reader.inHand
    split
    · split_ifs <;> simp
    · simp
    · simp
  have hqueue := s.hand.requests.bounded
  rw [h.delivery.length_accepted, h.length, hgiven, List.length_nil]
  omega

/-- A call that is under way has a worker that has not exited. -/
theorem Inv.returned (h : Inv srv workers s) (hreader : s.hand.reader = .returned) {t : Task} (ht : t ∈ s.tasks) :
    t.stage.isReturned = true := by
  by_contra hret
  obtain ⟨k, hk⟩ := List.mem_iff_getElem?.mp ht
  have hlt : k < s.hand.calls.length := by
    rw [← h.length]
    exact (List.getElem?_eq_some_iff.mp hk).1
  have hcall : s.InCall k s.hand.calls[k].1 :=
    ⟨t, s.hand.calls[k].2, hk, Bool.eq_false_iff.mpr hret, List.getElem?_eq_getElem hlt⟩
  obtain ⟨hi, req, hbusy⟩ := h.busy k _ hcall
  rw [h.joined hreader _ hi] at hbusy
  cases hbusy

variable (srv S back workers) in
/-- **The NACK server, from its socket to its responses**, in every interleaving of the reader, the workers
and the steps of their calls. -/
theorem server_serves (x : Shared D σ) (es : List (Event ω)) :
    Serves srv S workers (run srv S back workers x es) := by
  have h := inv_run srv S back workers x es
  refine ⟨h.inOrder, fun t ht hret => ?_, fun _ => h.card_le, h.bytes_le, h.waiting_le,
    fun hreader _ => h.returned hreader⟩
  obtain ⟨path, sendErr, hs, hp, ho⟩ := (h.sound t ht).of_isReturned hret
  obtain ⟨l, B, hlB⟩ := Workers.exists_processNACK hp S t.src sendErr
  exact ⟨l, B, sendErr, by rw [hlB, ho, Task.outcome, hs]⟩

end

end Pipeline

end RetryEndpoint.NackServer
