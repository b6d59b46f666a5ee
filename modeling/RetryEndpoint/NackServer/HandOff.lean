import RetryEndpoint.Go.Channel
import RetryEndpoint.Go.Memory
import RetryEndpoint.NackServer.Process
import RetryEndpoint.Theory.Runs
import Mathlib.Tactic.SplitIfs

/-!
# The hand-off of NACK datagrams to the workers

`Server.Run`: one goroutine reads datagrams into one buffer of 64 bytes, copies each that
has the size of a NACK and sends the copy on a channel of 100 requests; the workers of a
pool receive from the channel and call `processNACK`. When the context is cancelled the
reader closes the channel and waits for the workers.

## The model

The `State` has the heap with the buffer, the channel, where the reader and each worker
are, and whether the context is cancelled. An `Event` is one step of the reader or of a
worker, or the cancellation; events come in any order, and one that is not possible does
nothing. A read keeps 64 bytes of a longer datagram, as `ReadFrom` does. Of a `select`
with several ready cases any may be taken. A send on a closed channel, or a second close,
panics.

The state records the datagrams that were read and pass the size check, the calls of
`processNACK` in the order in which they began, the request that the reader gave up, and
the operations of the reader on the channel.

## What is proved

* `run_inv` — the requests of the calls, those in the channel, the one in the reader's hand
  and the one that was given up are, in this order, the datagrams that pass the size check,
  and each of them has an array of its own.
* `handOff` — so the `k`-th call gets the `k`-th datagram, none is lost before the
  cancellation, and the channel is closed at most once, with no send after it.
-/

namespace RetryEndpoint.NackServer.HandOff

open Go ShardCommon Theory

/-- `nackRequest`. -/
structure NackRequest where
  /-- The copy of the datagram. -/
  data : Slice
  /-- The source address. -/
  src : Option UDPAddr

/-- Where the reader is. -/
inductive Reader where
  /-- At the `select` at the head of the loop. -/
  | top
  /-- In `ReadFrom`. -/
  | reading
  /-- A datagram is in the buffer. -/
  | received (n : ℕ) (src : Option UDPAddr)
  /-- At the `select` that sends the copy. -/
  | holding (req : NackRequest)
  /-- On an exit path, before `close(requests)`. -/
  | closing
  /-- In `wg.Wait`. -/
  | waiting
  /-- `Run` has returned. -/
  | returned

/-- The reader has left its loop. -/
def Reader.Done : Reader → Prop
  | .closing | .waiting | .returned => True
  | _ => False

/-- Where a worker is. -/
inductive Worker where
  /-- At its `select`. -/
  | idle
  /-- In `processNACK`. -/
  | busy (req : NackRequest)
  /-- It has returned. -/
  | exited

/-- An operation on the channel. -/
inductive ChanOp where
  /-- `requests <- …`. -/
  | send
  /-- `close(requests)`. -/
  | close
  deriving DecidableEq

/-- The server. -/
structure State where
  /-- The memory of the process. -/
  heap : Heap
  /-- The reader's buffer. -/
  buf : Slice
  /-- Whether the context is cancelled. -/
  cancelled : Bool
  /-- The channel. -/
  requests : Chan NackRequest 100
  /-- Where the reader is. -/
  reader : Reader
  /-- Where each worker is. -/
  worker : ℕ → Worker
  /-- The datagrams that were read and pass the size check, with their sources. -/
  accepted : List (Bytes × Option UDPAddr)
  /-- The calls of `processNACK`, by worker. -/
  calls : List (ℕ × NackRequest)
  /-- The request that the reader gave up at the cancellation. -/
  givenUp : List NackRequest
  /-- What the reader did with the channel. -/
  ops : List ChanOp
  /-- Whether a channel operation has panicked. -/
  panicked : Bool

/-- What can happen next. -/
inductive Event where
  /-- The context is cancelled. -/
  | cancel
  /-- The reader's `select` at the head of the loop. -/
  | select
  /-- `ReadFrom` times out. -/
  | readTimeout
  /-- `ReadFrom` fails. -/
  | readError
  /-- `ReadFrom` returns a datagram. -/
  | read (d : Bytes) (src : Option UDPAddr)
  /-- The size check, and the copy. -/
  | copy
  /-- The reader sends the copy. -/
  | send
  /-- The reader finds the context cancelled instead. -/
  | giveUp
  /-- `close(requests)`. -/
  | close
  /-- `wg.Wait` returns. -/
  | join
  /-- A worker finds the context cancelled. -/
  | workerDone (i : ℕ)
  /-- A worker receives from the channel. -/
  | workerRecv (i : ℕ)
  /-- `processNACK` returns. -/
  | workerReturn (i : ℕ)

/-- The server before the first read. -/
def start : State :=
  let m := Heap.empty.make nackSize
  ⟨m.1, m.2, false, .make NackRequest 100, .top, fun _ => .idle, [], [], [], [], false⟩

/-! ### The reader -/

/-- The step of the reader, where it is. -/
def readerStep (workers : ℕ) (s : State) (e : Event) : State :=
  match s.reader, e with
  | .top, .select => { s with reader := if s.cancelled then .closing else .reading }
  | .reading, .readTimeout => { s with reader := .top }
  | .reading, .readError => { s with reader := if s.cancelled then .closing else .top }
  | .reading, .read d src =>
    let f := s.heap.fill s.buf d
    { s with
      heap := f.1
      reader := .received f.2 src
      accepted := s.accepted ++ if f.2 = nackSize then [(d.take nackSize, src)] else [] }
  | .received n src, .copy =>
    if n ≠ nackSize then { s with reader := .top }
    else
      let m := s.heap.make nackSize
      { s with
        heap := (m.1.fill m.2 (m.1.read (s.buf.upTo n))).1
        reader := .holding ⟨m.2, src⟩ }
  | .holding req, .send =>
    match s.requests.send req with
    | .done c => { s with requests := c, reader := .top, ops := s.ops ++ [.send] }
    | .blocked => s
    | .panics => { s with ops := s.ops ++ [.send], panicked := true }
  | .holding req, .giveUp =>
    if s.cancelled then { s with reader := .closing, givenUp := s.givenUp ++ [req] } else s
  | .closing, .close =>
    match s.requests.close with
    | some c => { s with requests := c, reader := .waiting, ops := s.ops ++ [.close] }
    | none => { s with ops := s.ops ++ [.close], panicked := true }
  | .waiting, .join =>
    if (List.range workers).all fun i => s.worker i matches .exited then { s with reader := .returned } else s
  | _, _ => s

/-! ### The workers -/

/-- The step of a worker, where it is. -/
def workerStep (s : State) (i : ℕ) (e : Event) : State :=
  match s.worker i, e with
  | .idle, .workerDone _ => if s.cancelled then { s with worker := Function.update s.worker i .exited } else s
  | .idle, .workerRecv _ =>
    match s.requests.recv with
    | .value req c =>
      { s with
        requests := c
        worker := Function.update s.worker i (.busy req)
        calls := s.calls ++ [(i, req)] }
    | .ended => { s with worker := Function.update s.worker i .exited }
    | .blocked => s
  | .busy _, .workerReturn _ => { s with worker := Function.update s.worker i .idle }
  | _, _ => s

/-- One event. -/
def step (workers : ℕ) (s : State) (e : Event) : State :=
  match e with
  | .cancel => { s with cancelled := true }
  | .workerDone i | .workerRecv i | .workerReturn i => if i < workers then workerStep s i e else s
  | _ => readerStep workers s e

/-- A run with a number of workers. -/
def run (workers : ℕ) (es : List Event) : State := runFrom (step workers) start es

/-! ### The channel -/

/-- The reader has closed the channel. -/
def Reader.closed : Reader → Bool
  | .waiting | .returned => true
  | _ => false

/-- **The reader and the channel.** The reader leaves its loop, and gives up a request, only
when the context is cancelled; it sends before it closes the channel and never after; and
neither panics. -/
structure Control (s : State) : Prop where
  /-- Only a reader that has left its loop has given up a request. -/
  givenUp : s.givenUp = [] ∨ s.reader.Done
  /-- It has left its loop because the context is cancelled. -/
  cancelled : s.reader.Done → s.cancelled = true
  /-- The channel is closed when the reader has closed it. -/
  closed : s.requests.closed = s.reader.closed
  /-- The sends come before the close. -/
  ops : ∃ k, s.ops = List.replicate k .send ++ if s.requests.closed then [.close] else []
  /-- Nothing has panicked. -/
  panicked : s.panicked = false

theorem control_start : Control start := ⟨.inl rfl, fun h => h.elim, rfl, ⟨0, rfl⟩, rfl⟩

/-- A reader in its loop has not closed the channel. -/
theorem Reader.closed_eq_false {r : Reader} (h : ¬ r.Done) : r.closed = false := by
  cases r with
  | waiting => exact absurd trivial h
  | returned => exact absurd trivial h
  | _ => rfl

/-- A step of the reader that leaves the channel alone, in its loop or out of it. -/
theorem Control.move {s : State} (h : Control s) (hd : ¬ s.reader.Done) {r : Reader} (hr : r.closed = false)
    (hc : r.Done → s.cancelled = true) (heap : Heap) (accepted : List (Bytes × Option UDPAddr)) :
    Control { s with heap := heap, reader := r, accepted := accepted } :=
  ⟨.inl (h.givenUp.resolve_right hd), hc, h.closed.trans ((Reader.closed_eq_false hd).trans hr.symm), h.ops, h.panicked⟩

/-- A step of the reader that leaves the loop when the context is cancelled. -/
theorem Control.move_or_close {s : State} (h : Control s) (hd : ¬ s.reader.Done) {r : Reader} (hr : ¬ r.Done) :
    Control { s with reader := if s.cancelled then .closing else r } := by
  split_ifs with hcan
  · exact h.move hd rfl (fun _ => hcan) s.heap s.accepted
  · exact h.move hd (Reader.closed_eq_false hr) (fun hr' => absurd hr' hr) s.heap s.accepted

theorem Control.readerStep {s : State} (h : Control s) (workers : ℕ) (e : Event) :
    Control (readerStep workers s e) := by
  unfold HandOff.readerStep
  split
  next hr => exact h.move_or_close (by simp [hr, Reader.Done]) id -- select
  next hr => exact h.move (by simp [hr, Reader.Done]) rfl False.elim s.heap s.accepted
  next hr => exact h.move_or_close (by simp [hr, Reader.Done]) id -- readError
  next d src hr => exact h.move (by simp [hr, Reader.Done]) rfl False.elim _ _
  next n src hr => -- copy
    have hd : ¬ s.reader.Done := by simp [hr, Reader.Done]
    split_ifs
    · exact h.move hd rfl False.elim s.heap s.accepted
    · exact h.move hd rfl False.elim _ s.accepted
  next req hr => -- send
    have hopen : s.requests.closed = false := by rw [h.closed, hr]; rfl
    split
    next c hc =>
      obtain ⟨-, hc', -⟩ := Chan.send_eq_done hc
      obtain ⟨k, hk⟩ := h.ops
      have hlive := h.givenUp.resolve_right (by simp [hr, Reader.Done])
      refine ⟨.inl hlive, fun hd => hd.elim, hc', ⟨k + 1, ?_⟩, h.panicked⟩
      simp [hk, hopen, hc', List.replicate_succ']
    next => exact h
    next hc => exact absurd hc (Chan.send_ne_panics hopen req)
  next req hr => -- giveUp
    split_ifs with hcan
    · exact ⟨.inr trivial, fun _ => hcan, by rw [h.closed, hr]; rfl, h.ops, h.panicked⟩
    · exact h
  next hr => -- close
    have hopen : s.requests.closed = false := by rw [h.closed, hr]; rfl
    simp only [Chan.close, hopen, Bool.false_eq_true, if_false]
    obtain ⟨k, hk⟩ := h.ops
    refine ⟨.inr trivial, fun _ => h.cancelled (by simp [hr, Reader.Done]), rfl, ⟨k, ?_⟩, h.panicked⟩
    simp [hk, hopen]
  next hr => -- join
    split_ifs
    · have hcancelled := h.cancelled (by simp [hr, Reader.Done])
      exact ⟨.inr trivial, fun _ => hcancelled, by rw [h.closed, hr]; rfl, h.ops, h.panicked⟩
    · exact h
  next => exact h

theorem Control.workerStep {s : State} (h : Control s) (i : ℕ) (e : Event) : Control (workerStep s i e) := by
  unfold HandOff.workerStep
  split
  next =>
    split_ifs
    · exact ⟨h.givenUp, h.cancelled, h.closed, h.ops, h.panicked⟩
    · exact h
  next =>
    split
    next req c hc =>
      have hcl := (Chan.recv_eq_value hc).2
      exact ⟨h.givenUp, h.cancelled, hcl.trans h.closed, by rw [hcl]; exact h.ops, h.panicked⟩
    next => exact ⟨h.givenUp, h.cancelled, h.closed, h.ops, h.panicked⟩
    next => exact h
  next => exact ⟨h.givenUp, h.cancelled, h.closed, h.ops, h.panicked⟩
  next => exact h

/-! ### The datagrams -/

/-- What the reader has in its hand: a datagram of the right size in the buffer, or a copy. -/
def Reader.inHand (buf : Slice) : Reader → List NackRequest
  | .received n src => if n = nackSize then [⟨buf, src⟩] else []
  | .holding req => [req]
  | _ => []

/-- The copy that the reader has in its hand. -/
def Reader.copied : Reader → List NackRequest
  | .holding req => [req]
  | _ => []

/-- What a request shows. -/
def datagramOf (h : Heap) (req : NackRequest) : Bytes × Option UDPAddr := (h.read req.data, req.src)

/-- The requests of the calls, in the channel, in the reader's hand, and given up. -/
def State.outstanding (s : State) : List NackRequest :=
  s.calls.map Prod.snd ++ s.requests.queue ++ s.reader.inHand s.buf ++ s.givenUp

/-- The copies among them. -/
def State.copies (s : State) : List NackRequest :=
  s.calls.map Prod.snd ++ s.requests.queue ++ s.reader.copied ++ s.givenUp

/-- **The requests are the datagrams**, in order, and the copies are not in the buffer. -/
structure Delivery (s : State) : Prop where
  /-- The buffer. -/
  buf_eq : s.buf = ⟨0, nackSize⟩
  /-- Its array is allocated. -/
  next_pos : 0 < s.heap.next
  /-- The copies have arrays of their own. -/
  own : ∀ req ∈ s.copies, 0 < req.data.addr ∧ req.data.addr < s.heap.next
  /-- What the requests show. -/
  accepted_eq : s.outstanding.map (datagramOf s.heap) = s.accepted

theorem delivery_start : Delivery start :=
  ⟨rfl, Nat.zero_lt_one, by simp [State.copies, start, Reader.copied, Chan.make], rfl⟩

/-- A step that moves requests and writes no memory. -/
theorem Delivery.of_eq {s s' : State} (h : Delivery s) (hb : s'.buf = s.buf) (hh : s'.heap = s.heap)
    (ho : s'.outstanding = s.outstanding) (hc : ∀ req ∈ s'.copies, req ∈ s.copies) (ha : s'.accepted = s.accepted) :
    Delivery s' :=
  ⟨hb.trans h.buf_eq, by rw [hh]; exact h.next_pos, fun req hreq => by rw [hh]; exact h.own req (hc req hreq),
    by rw [ho, hh, ha]; exact h.accepted_eq⟩

/-- Memory that is written elsewhere does not change what copies show. -/
theorem map_datagramOf_congr {h h' : Heap} {reqs : List NackRequest}
    (hr : ∀ req ∈ reqs, h'.read req.data = h.read req.data) : reqs.map (datagramOf h') = reqs.map (datagramOf h) :=
  List.map_congr_left fun req hreq => by rw [datagramOf, datagramOf, hr req hreq]

/-- A read overwrites the buffer, and no copy. -/
theorem Delivery.read {s : State} (h : Delivery s) (hg : s.givenUp = []) (hr : s.reader = .reading) (d : Bytes)
    (src : Option UDPAddr) :
    Delivery { s with
      heap := (s.heap.fill s.buf d).1
      reader := .received (s.heap.fill s.buf d).2 src
      accepted := s.accepted ++ if (s.heap.fill s.buf d).2 = nackSize then [(d.take nackSize, src)] else [] } := by
  have hcopies : s.copies = s.calls.map Prod.snd ++ s.requests.queue := by simp [State.copies, hg, hr, Reader.copied]
  have hold : (s.calls.map Prod.snd ++ s.requests.queue).map (datagramOf (s.heap.fill s.buf d).1) = s.accepted := by
    rw [← h.accepted_eq, State.outstanding, hg, hr]
    simp only [Reader.inHand, List.append_nil]
    refine map_datagramOf_congr fun req hreq => s.heap.read_fill_of_ne d ?_
    have := (h.own req (by rw [hcopies]; exact hreq)).1
    rw [h.buf_eq]
    exact this.ne'
  refine ⟨h.buf_eq, h.next_pos, fun req hreq => h.own req ?_, ?_⟩
  · simpa [State.copies, hg, hr, Reader.copied] using hreq
  · rw [State.outstanding]
    simp only [hg, List.append_nil]
    rw [List.map_append, hold, Reader.inHand]
    congr 1
    split_ifs with hn
    · have hread := s.heap.read_fill s.buf d
      rw [hn] at hread
      rw [h.buf_eq] at hread ⊢
      exact congrArg (fun b => [(b, src)]) hread
    · rfl

/-- A copy is made of what the buffer shows. -/
theorem Delivery.copy {s : State} (h : Delivery s) (hg : s.givenUp = []) {src : Option UDPAddr}
    (hr : s.reader = .received nackSize src) :
    Delivery { s with
      heap := ((s.heap.make nackSize).1.fill (s.heap.make nackSize).2
        ((s.heap.make nackSize).1.read (s.buf.upTo nackSize))).1
      reader := .holding ⟨(s.heap.make nackSize).2, src⟩ } := by
  have hcopies : s.copies = s.calls.map Prod.snd ++ s.requests.queue := by simp [State.copies, hg, hr, Reader.copied]
  have hbuf : s.buf.upTo nackSize = s.buf := by rw [h.buf_eq]; rfl
  have haddr : s.buf.addr < s.heap.next := by rw [h.buf_eq]; exact h.next_pos
  have hlen : (s.heap.read s.buf).length = nackSize := by rw [h.buf_eq]; simp [Heap.read]
  rw [hbuf, s.heap.read_make nackSize haddr]
  refine ⟨h.buf_eq, Nat.succ_pos _, fun req hreq => ?_, ?_⟩
  · simp only [State.copies, hg, Reader.copied, List.append_nil] at hreq
    rcases List.mem_append.mp hreq with hreq | hreq
    · obtain ⟨h₁, h₂⟩ := h.own req (by rw [hcopies]; exact hreq)
      exact ⟨h₁, h₂.trans (Nat.lt_succ_self _)⟩
    · obtain rfl := List.mem_singleton.mp hreq
      exact ⟨h.next_pos, Nat.lt_succ_self _⟩
  · rw [← h.accepted_eq, State.outstanding, State.outstanding, hg, hr]
    simp only [Reader.inHand, if_true, List.append_nil, List.map_append, List.map_cons, List.map_nil]
    rw [← List.map_append, ← List.map_append]
    congr 1
    · refine map_datagramOf_congr fun req hreq => ?_
      have hown := h.own req (by rw [hcopies]; exact hreq)
      rw [Heap.read_fill_of_ne _ _ hown.2.ne, Heap.read_make _ _ hown.2]
    · simp only [datagramOf, Heap.read_fill_make _ hlen]

/-- The reader moves with nothing in its hand, before and after. -/
theorem Delivery.move {s : State} (h : Delivery s) {r : Reader} (hr : s.reader.inHand s.buf = [])
    (hr' : r.inHand s.buf = []) (hc : r.copied = []) : Delivery { s with reader := r } :=
  h.of_eq rfl rfl (by simp only [State.outstanding, hr, hr'])
    (fun req hreq => by
      simp only [State.copies, hc, List.append_nil, List.mem_append] at hreq ⊢
      tauto)
    rfl

theorem Delivery.move_or_close {s : State} (h : Delivery s) {r : Reader} (hr : s.reader.inHand s.buf = [])
    (hr' : r.inHand s.buf = []) (hc : r.copied = []) :
    Delivery { s with reader := if s.cancelled then .closing else r } := by
  split_ifs
  · exact h.move hr rfl rfl
  · exact h.move hr hr' hc

theorem Delivery.readerStep {s : State} (h : Delivery s) (hctl : Control s) (workers : ℕ) (e : Event) :
    Delivery (readerStep workers s e) := by
  unfold HandOff.readerStep
  split
  next hr => exact h.move_or_close (by rw [hr]; rfl) rfl rfl -- select
  next hr => exact h.move (by rw [hr]; rfl) rfl rfl
  next hr => exact h.move_or_close (by rw [hr]; rfl) rfl rfl -- readError
  next d src hr => exact h.read (hctl.givenUp.resolve_right (by simp [hr, Reader.Done])) hr d src
  next n src hr => -- copy
    split_ifs with hn
    · exact h.move (by rw [hr, Reader.inHand, if_neg hn]) rfl rfl
    · obtain rfl : n = nackSize := not_not.mp hn
      exact h.copy (hctl.givenUp.resolve_right (by simp [hr, Reader.Done])) hr
  next req hr => -- send
    split
    next c hc =>
      obtain ⟨-, -, hq⟩ := Chan.send_eq_done hc
      exact h.of_eq rfl rfl (by simp [State.outstanding, hr, hq, Reader.inHand])
        (by simp [State.copies, hr, hq, Reader.copied]) rfl
    next => exact h
    next => exact h.of_eq rfl rfl rfl (fun _ => id) rfl
  next req hr => -- giveUp
    have hg := hctl.givenUp.resolve_right (by simp [hr, Reader.Done])
    split_ifs
    · exact h.of_eq rfl rfl (by simp [State.outstanding, hr, hg, Reader.inHand])
        (by simp [State.copies, hr, hg, Reader.copied]) rfl
    · exact h
  next hr => -- close
    split
    next c hc =>
      obtain ⟨-, rfl⟩ : s.requests.closed = false ∧ { s.requests with closed := true } = c := by
        simpa [Chan.close] using hc
      exact h.of_eq rfl rfl (by simp [State.outstanding, hr, Reader.inHand])
        (by simp [State.copies, hr, Reader.copied]) rfl
    next => exact h.of_eq rfl rfl rfl (fun _ => id) rfl
  next hr => -- join
    split_ifs
    · exact h.move (by rw [hr]; rfl) rfl rfl
    · exact h
  next => exact h

theorem Delivery.workerStep {s : State} (h : Delivery s) (i : ℕ) (e : Event) : Delivery (workerStep s i e) := by
  unfold HandOff.workerStep
  split
  next =>
    split_ifs
    · exact h.of_eq rfl rfl rfl (fun _ => id) rfl
    · exact h
  next =>
    split
    next req c hc =>
      -- the first request of the channel becomes the last call
      have hq := (Chan.recv_eq_value hc).1
      exact h.of_eq rfl rfl (by simp [State.outstanding, hq]) (by simp [State.copies, hq]) rfl
    next => exact h.of_eq rfl rfl rfl (fun _ => id) rfl
    next => exact h
  next => exact h.of_eq rfl rfl rfl (fun _ => id) rfl
  next => exact h

/-! ### Runs -/

theorem step_inv {s : State} (h : Control s ∧ Delivery s) (workers : ℕ) (e : Event) :
    Control (step workers s e) ∧ Delivery (step workers s e) := by
  obtain ⟨hc, hd⟩ := h
  have hreader := And.intro (hc.readerStep workers e) (hd.readerStep hc workers e)
  have hworker : ∀ i, Control (if i < workers then workerStep s i e else s) ∧
      Delivery (if i < workers then workerStep s i e else s) := by
    intro i
    split_ifs
    · exact ⟨hc.workerStep i e, hd.workerStep i e⟩
    · exact ⟨hc, hd⟩
  cases e with
  | cancel => exact ⟨⟨hc.givenUp, fun _ => rfl, hc.closed, hc.ops, hc.panicked⟩, hd.of_eq rfl rfl rfl (fun _ => id) rfl⟩
  | workerDone i => exact hworker i
  | workerRecv i => exact hworker i
  | workerReturn i => exact hworker i
  | _ => exact hreader

theorem run_inv (workers : ℕ) (es : List Event) : Control (run workers es) ∧ Delivery (run workers es) :=
  runFrom_invariant (I := fun s => Control s ∧ Delivery s) ⟨control_start, delivery_start⟩
    (fun _ e h => step_inv h workers e) es

/-- **The hand-off.** After every run with any number of workers: the `k`-th call of
`processNACK` has the bytes and the source of the `k`-th datagram that passed the size
check; before the cancellation each of these datagrams is, once, with a call, in the channel
or in the reader's hand; and nothing panics, the channel having been closed at most once,
with no send after it. -/
theorem handOff (workers : ℕ) (es : List Event) :
    (∀ (k i : ℕ) (req : NackRequest), (run workers es).calls[k]? = some (i, req) →
      (run workers es).accepted[k]? = some ((run workers es).heap.read req.data, req.src)) ∧
    ((run workers es).cancelled = false →
      ((run workers es).calls.map Prod.snd ++ (run workers es).requests.queue ++
        (run workers es).reader.inHand (run workers es).buf).map (datagramOf (run workers es).heap) =
          (run workers es).accepted) ∧
    (run workers es).panicked = false ∧
    (∃ n, (run workers es).ops = List.replicate n .send ∨
      (run workers es).ops = List.replicate n .send ++ [.close]) := by
  obtain ⟨hc, hd⟩ := run_inv workers es
  generalize run workers es = s at hc hd
  refine ⟨fun k i req hk => ?_, fun hcan => ?_, hc.panicked, ?_⟩
  · have hlt : k < s.calls.length := (List.getElem?_eq_some_iff.mp hk).1
    rw [← hd.accepted_eq, State.outstanding, List.append_assoc, List.append_assoc, List.map_append,
      List.getElem?_append_left (by simpa using hlt)]
    simp [hk, datagramOf]
  · -- a reader that has given up a request has seen the cancellation
    have hg : s.givenUp = [] := hc.givenUp.resolve_right fun hdone => by simp [hc.cancelled hdone] at hcan
    rw [← hd.accepted_eq, State.outstanding, hg, List.append_nil]
  · obtain ⟨n, hn⟩ := hc.ops
    refine ⟨n, ?_⟩
    rw [hn]
    split_ifs
    · exact .inr rfl
    · exact .inl (List.append_nil _)

end RetryEndpoint.NackServer.HandOff
