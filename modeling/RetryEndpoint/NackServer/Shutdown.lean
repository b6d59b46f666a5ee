import RetryEndpoint.NackServer.HandOff
import Mathlib.Algebra.BigOperators.Fin
import Mathlib.Algebra.Order.BigOperators.Group.Finset

/-!
# The NACK server shuts down

`Server.Run` after its context is cancelled: the reader leaves its loop, closes the channel and waits
for the workers, which finish what they are at, take what is left in the channel or see the
cancellation. Which of these comes first is open.

## The model

The runs are those of `NackServer.HandOff`. A step counts if it changes the state. `weight` is what is
left to do: a datagram on its way to a worker is worth the steps that it will take.

## What is proved

* `step_weight` — after the cancellation every step that counts leaves less to do.
* `goes_on` — until `Run` has returned there is a step that counts, and it needs nothing from the network.
* `shuts_down` — so `Run` returns after no more steps than 208 and two for each worker, whatever the order;
  then every worker has returned, and nothing happens any more.
-/

namespace RetryEndpoint.NackServer.HandOff

open Go ShardCommon Theory

/-- What is left for the reader: a datagram that it reads, copies and sends is work for a worker. -/
def Reader.weight : Reader → ℕ
  | .reading => 8
  | .received .. => 7
  | .holding _ => 6
  | .top => 3
  | .closing => 2
  | .waiting => 1
  | .returned => 0

/-- What is left for a worker. -/
def Worker.weight : Worker → ℕ
  | .busy _ => 2
  | .idle => 1
  | .exited => 0

@[simp] theorem Worker.weight_busy (req : NackRequest) : (Worker.busy req).weight = 2 := rfl

@[simp] theorem Worker.weight_idle : Worker.idle.weight = 1 := rfl

@[simp] theorem Worker.weight_exited : Worker.exited.weight = 0 := rfl

/-- What is left to do. -/
def State.weight (workers : ℕ) (s : State) : ℕ :=
  s.reader.weight + 2 * s.requests.queue.length + ∑ i ∈ Finset.range workers, (s.worker i).weight

/-- A step of the server or its workers, and not of the network. -/
def Event.byItself : Event → Bool
  | .cancel | .read .. | .readError => false
  | _ => true

variable {workers : ℕ} {s : State}

theorem weight_le (workers : ℕ) (s : State) : s.weight workers ≤ 208 + 2 * workers := by
  have hreader : s.reader.weight ≤ 8 := by cases s.reader <;> simp [Reader.weight]
  have hqueue := s.requests.bounded
  have hworkers : ∑ i ∈ Finset.range workers, (s.worker i).weight ≤ workers * 2 := by
    have hle : ∀ i ∈ Finset.range workers, (s.worker i).weight ≤ 2 := by
      intro i _
      cases s.worker i <;> simp [Worker.weight]
    simpa using Finset.sum_le_card_nsmul (Finset.range workers) _ 2 hle
  unfold State.weight
  omega

/-- One worker changes what the workers have left. -/
theorem sum_update_weight {i : ℕ} (hi : i < workers) (worker : ℕ → Worker) (w : Worker) :
    ∑ j ∈ Finset.range workers, (Function.update worker i w j).weight + (worker i).weight =
      ∑ j ∈ Finset.range workers, (worker j).weight + w.weight := by
  have hmem := Finset.mem_range.mpr hi
  have hnew := Finset.add_sum_erase (Finset.range workers) (fun j => (Function.update worker i w j).weight) hmem
  have hold := Finset.add_sum_erase (Finset.range workers) (fun j => (worker j).weight) hmem
  have hsame : ∑ j ∈ (Finset.range workers).erase i, (Function.update worker i w j).weight =
      ∑ j ∈ (Finset.range workers).erase i, (worker j).weight :=
    Finset.sum_congr rfl fun j hj => by rw [Function.update_of_ne (Finset.ne_of_mem_erase hj)]
  simp only [Function.update_self] at hnew
  omega

/-! ### Every step that counts leaves less to do -/

theorem readerStep_weight (h : Control s) (hc : s.cancelled = true) (e : Event) :
    readerStep workers s e = s ∨ (readerStep workers s e).weight workers < s.weight workers := by
  have hmove {s' : State} (hq : s'.requests.queue = s.requests.queue) (hw : s'.worker = s.worker)
      (hr : s'.reader.weight < s.reader.weight) : s'.weight workers < s.weight workers := by
    unfold State.weight
    rw [hq, hw]
    omega
  unfold HandOff.readerStep
  split
  next hr => exact .inr (hmove rfl rfl (by simp [hr, hc, Reader.weight]))
  next hr => exact .inr (hmove rfl rfl (by rw [hr]; simp [Reader.weight]))
  next hr => exact .inr (hmove rfl rfl (by simp [hr, hc, Reader.weight]))
  next d src hr => exact .inr (hmove rfl rfl (by rw [hr]; simp [Reader.weight]))
  next n src hr =>
    split_ifs
    · exact .inr (hmove rfl rfl (by rw [hr]; simp [Reader.weight]))
    · exact .inr (hmove rfl rfl (by rw [hr]; simp [Reader.weight]))
  next req hr =>
    have hopen : s.requests.closed = false := by rw [h.closed, hr]; rfl
    split
    next c hsend =>
      -- the request is in the channel now, where it is worth two steps
      refine .inr ?_
      obtain ⟨-, -, hq⟩ := Chan.send_eq_done hsend
      simp only [State.weight, hq, hr, Reader.weight, List.length_append, List.length_singleton]
      omega
    next => exact .inl rfl
    next hsend => exact absurd hsend (Chan.send_ne_panics hopen req)
  next req hr =>
    rw [if_pos hc]
    exact .inr (hmove rfl rfl (by rw [hr]; simp [Reader.weight]))
  next hr =>
    have hopen : s.requests.closed = false := by rw [h.closed, hr]; rfl
    simp only [Chan.close, hopen, Bool.false_eq_true, if_false]
    exact .inr (hmove rfl rfl (by rw [hr]; simp [Reader.weight]))
  next hr =>
    split_ifs
    · exact .inr (hmove rfl rfl (by rw [hr]; simp [Reader.weight]))
    · exact .inl rfl
  next => exact .inl rfl

theorem workerStep_weight {i : ℕ} (hi : i < workers) (e : Event) :
    workerStep s i e = s ∨ (workerStep s i e).weight workers < s.weight workers := by
  have hmove (w : Worker) := sum_update_weight hi s.worker w
  unfold HandOff.workerStep
  split
  next hw =>
    split_ifs
    · refine .inr ?_
      have hsum := hmove .exited
      simp only [hw, Worker.weight_idle, Worker.weight_exited] at hsum
      simp only [State.weight]
      omega
    · exact .inl rfl
  next hw =>
    split
    next req c hrecv =>
      refine .inr ?_
      have hsum := hmove (.busy req)
      simp only [hw, Worker.weight_idle, Worker.weight_busy] at hsum
      simp only [State.weight, (Chan.recv_eq_value hrecv).1, List.length_cons]
      omega
    next =>
      refine .inr ?_
      have hsum := hmove .exited
      simp only [hw, Worker.weight_idle, Worker.weight_exited] at hsum
      simp only [State.weight]
      omega
    next => exact .inl rfl
  next req hw =>
    refine .inr ?_
    have hsum := hmove .idle
    simp only [hw, Worker.weight_idle, Worker.weight_busy] at hsum
    simp only [State.weight]
    omega
  next => exact .inl rfl

/-- **After the cancellation every step that counts leaves less to do.** -/
theorem step_weight (h : Control s) (hc : s.cancelled = true) {e : Event} (he : step workers s e ≠ s) :
    (step workers s e).weight workers < s.weight workers := by
  have hworker (i : ℕ) (hi : (if i < workers then workerStep s i e else s) ≠ s) :
      (if i < workers then workerStep s i e else s).weight workers < s.weight workers := by
    split_ifs at hi ⊢ with hlt
    · exact (workerStep_weight hlt e).resolve_left hi
    · exact absurd rfl hi
  cases e with
  | cancel => exact absurd (by simp only [step, ← hc]) he
  | workerDone i => exact hworker i he
  | workerRecv i => exact hworker i he
  | workerReturn i => exact hworker i he
  | _ => exact (readerStep_weight h hc _).resolve_left he

/-! ### There is always a step that counts -/

/-- **Until `Run` has returned there is a step that counts**, and that needs nothing from the network. -/
theorem goes_on (h : Control s) (hc : s.cancelled = true) (hr : s.reader ≠ .returned) :
    ∃ e, e.byItself = true ∧ step workers s e ≠ s := by
  have hreader {e : Event} {r : Reader} (hstep : (step workers s e).reader = r) (hne : r ≠ s.reader) :
      step workers s e ≠ s := fun hsame => hne (by rw [← hstep, hsame])
  cases hread : s.reader with
  | top => exact ⟨.select, rfl, hreader (r := .closing) (by simp [step, readerStep, hread, hc]) (by simp [hread])⟩
  | reading => exact ⟨.readTimeout, rfl, hreader (r := .top) (by simp [step, readerStep, hread]) (by simp [hread])⟩
  | received n src =>
    by_cases hn : n = nackSize
    · exact ⟨.copy, rfl, hreader rfl (by simp [step, readerStep, hread, hn])⟩
    · exact ⟨.copy, rfl, hreader rfl (by simp [step, readerStep, hread, hn])⟩
  | holding req =>
    exact ⟨.giveUp, rfl, hreader (r := .closing) (by simp [step, readerStep, hread, hc]) (by simp [hread])⟩
  | closing =>
    have hopen : s.requests.closed = false := by rw [h.closed, hread]; rfl
    exact ⟨.close, rfl,
      hreader (r := .waiting) (by simp [step, readerStep, hread, Chan.close, hopen]) (by simp [hread])⟩
  | waiting =>
    by_cases hall : ∀ i < workers, s.worker i = .exited
    · have hjoin : (step workers s .join).reader = .returned := by
        simp only [step, readerStep, hread]
        rw [if_pos]
        refine List.all_eq_true.mpr fun i hi => ?_
        simp [hall i (List.mem_range.mp hi)]
      exact ⟨.join, rfl, hreader hjoin (by simp [hread])⟩
    · -- a worker that has not returned sees the cancellation, or is at a request
      simp only [not_forall] at hall
      obtain ⟨i, hi, hexited⟩ := hall
      have hworker {e : Event} {w : Worker} (hstep : (step workers s e).worker i = w) (hne : w ≠ s.worker i) :
          step workers s e ≠ s := fun hsame => hne (by rw [← hstep, hsame])
      cases hw : s.worker i with
      | idle =>
        exact ⟨.workerDone i, rfl, hworker (w := .exited) (by simp [step, hi, workerStep, hw, hc]) (by simp [hw])⟩
      | busy req =>
        exact ⟨.workerReturn i, rfl, hworker (w := .idle) (by simp [step, hi, workerStep, hw]) (by simp [hw])⟩
      | exited => exact absurd hw hexited
  | returned => exact absurd hread hr

/-! ### The end -/

/-- When `Run` has returned, so have the workers. -/
def Joined (workers : ℕ) (s : State) : Prop := s.reader = .returned → ∀ i < workers, s.worker i = .exited

theorem Joined.readerStep (h : Joined workers s) (e : Event) : Joined workers (readerStep workers s e) := by
  have hif {r : Reader} (hr : r ≠ .returned) : (if s.cancelled then Reader.closing else r) ≠ .returned := by
    split_ifs
    · exact Reader.noConfusion
    · exact hr
  unfold HandOff.readerStep
  split
  next => exact fun hret => absurd hret (hif Reader.noConfusion)
  next => exact nofun
  next => exact fun hret => absurd hret (hif Reader.noConfusion)
  next => exact nofun
  next => split_ifs <;> exact nofun
  next =>
    split
    · exact nofun
    · exact h
    · exact h
  next =>
    split_ifs
    · exact nofun
    · exact h
  next =>
    split
    · exact nofun
    · exact h
  next =>
    split_ifs with hall
    · intro _ i hi
      have hexited := List.all_eq_true.mp hall i (List.mem_range.mpr hi)
      dsimp only
      split at hexited
      next hw => exact hw
      next => cases hexited
    · exact h
  next => exact h

theorem Joined.workerStep (h : Joined workers s) (i : ℕ) (e : Event) : Joined workers (workerStep s i e) := by
  -- a worker that has returned takes no step
  have hupdate {requests : Chan NackRequest 100} {calls : List (ℕ × NackRequest)} {w : Worker}
      (hw : s.worker i ≠ .exited) :
      Joined workers { s with requests := requests, calls := calls, worker := Function.update s.worker i w } := by
    intro hret j hj
    have hexited := h hret j hj
    have hne : j ≠ i := by
      rintro rfl
      exact hw hexited
    exact (Function.update_of_ne hne ..).trans hexited
  unfold HandOff.workerStep
  split
  next hw =>
    split_ifs
    · exact hupdate (by simp [hw])
    · exact h
  next hw =>
    split
    · exact hupdate (by simp [hw])
    · exact hupdate (by simp [hw])
    · exact h
  next hw => exact hupdate (by simp [hw])
  next => exact h

theorem Joined.step (h : Joined workers s) (e : Event) : Joined workers (step workers s e) := by
  have hworker (i : ℕ) : Joined workers (if i < workers then HandOff.workerStep s i e else s) := by
    split_ifs
    · exact h.workerStep i e
    · exact h
  cases e with
  | cancel => exact h
  | workerDone i => exact hworker i
  | workerRecv i => exact hworker i
  | workerReturn i => exact hworker i
  | _ => exact h.readerStep _

/-- Nothing happens after the end. -/
theorem step_of_returned (hc : s.cancelled = true) (hr : s.reader = .returned)
    (hall : ∀ i < workers, s.worker i = .exited) (e : Event) : step workers s e = s := by
  have hworker (i : ℕ) : (if i < workers then workerStep s i e else s) = s := by
    split_ifs with hi
    · simp [workerStep, hall i hi]
    · rfl
  cases e with
  | cancel => simp only [step, ← hc]
  | workerDone i => exact hworker i
  | workerRecv i => exact hworker i
  | workerReturn i => exact hworker i
  | _ => simp [step, readerStep, hr]

/-- How a server that is cancelled ends. -/
structure ShutsDown (workers : ℕ) (s : State) : Prop where
  /-- There are not many steps left that count. -/
  bounded : ∀ es, Along (step workers) s (fun s e => step workers s e ≠ s) es → es.length ≤ 208 + 2 * workers
  /-- Until `Run` has returned there is one, and it needs nothing from the network. -/
  goes_on : ∀ es, (runFrom (step workers) s es).reader ≠ .returned →
    ∃ e, e.byItself = true ∧ step workers (runFrom (step workers) s es) e ≠ runFrom (step workers) s es
  /-- When it has returned, so have the workers, and nothing happens any more. -/
  ends : ∀ es, (runFrom (step workers) s es).reader = .returned →
    (∀ i < workers, (runFrom (step workers) s es).worker i = .exited) ∧
      ∀ e, step workers (runFrom (step workers) s es) e = runFrom (step workers) s es

/-- The context stays cancelled. -/
theorem cancelled_step (hc : s.cancelled = true) (e : Event) : (step workers s e).cancelled = true := by
  have hreader : (readerStep workers s e).cancelled = true := by
    unfold readerStep
    split
    next => exact hc
    next => exact hc
    next => exact hc
    next => exact hc
    next => split_ifs <;> exact hc
    next => split <;> exact hc
    next =>
      rw [if_pos hc]
      exact hc
    next => split <;> exact hc
    next => split_ifs <;> exact hc
    next => exact hc
  have hworker (i : ℕ) : (if i < workers then workerStep s i e else s).cancelled = true := by
    split_ifs
    · unfold workerStep
      split
      next =>
        rw [if_pos hc]
        exact hc
      next => split <;> exact hc
      next => exact hc
      next => exact hc
    · exact hc
  cases e with
  | cancel => rfl
  | workerDone i => exact hworker i
  | workerRecv i => exact hworker i
  | workerReturn i => exact hworker i
  | _ => exact hreader

/-- What holds of a server that is cancelled. -/
structure Stopping (workers : ℕ) (s : State) : Prop where
  /-- The reader and the channel. -/
  control : Control s
  /-- The datagrams. -/
  delivery : Delivery s
  /-- The workers return before `Run`. -/
  joined : Joined workers s
  /-- The context is cancelled. -/
  cancelled : s.cancelled = true

theorem Stopping.step (h : Stopping workers s) (e : Event) : Stopping workers (step workers s e) :=
  have hinv := step_inv ⟨h.control, h.delivery⟩ workers e
  ⟨hinv.1, hinv.2, h.joined.step e, cancelled_step h.cancelled e⟩

/-- **A server that is cancelled returns**, from every state that it can be in and whatever comes first. -/
theorem shuts_down (workers : ℕ) (es : List Event) (hc : (run workers es).cancelled = true) :
    ShutsDown workers (run workers es) := by
  have hjoined : Joined workers (run workers es) :=
    runFrom_invariant (I := Joined workers) (fun hret => by cases hret) (fun _ e h => h.step e) es
  have hstopping : Stopping workers (run workers es) :=
    ⟨(run_inv workers es).1, (run_inv workers es).2, hjoined, hc⟩
  have hall (more : List Event) : Stopping workers (runFrom (step workers) (run workers es) more) :=
    runFrom_invariant hstopping (fun _ e h => h.step e) more
  refine ⟨fun more hmore => ?_, fun more hr => ?_, fun more hr => ?_⟩
  · have hfalls : ∀ s e, Stopping workers s → step workers s e ≠ s →
        State.weight workers (step workers s e) < State.weight workers s :=
      fun s e h he => step_weight h.control h.cancelled he
    have hlen := hmore.length_le hstopping (fun s e h _ => h.step e) hfalls
    exact le_trans (Nat.le_of_add_right_le hlen) (weight_le workers _)
  · exact goes_on (hall more).control (hall more).cancelled hr
  · have hexited := (hall more).joined hr
    exact ⟨hexited, step_of_returned (hall more).cancelled hr hexited⟩

/-- A server with three workers that is cancelled with one request in its channel. -/
theorem shuts_down_three :
    (run 3 [.select, .read (List.replicate 64 0) none, .copy, .send, .cancel]).cancelled = true ∧
      ShutsDown 3 (run 3 [.select, .read (List.replicate 64 0) none, .copy, .send, .cancel]) :=
  have hc : (run 3 [.select, .read (List.replicate 64 0) none, .copy, .send, .cancel]).cancelled = true := rfl
  ⟨hc, shuts_down 3 _ hc⟩

end RetryEndpoint.NackServer.HandOff
