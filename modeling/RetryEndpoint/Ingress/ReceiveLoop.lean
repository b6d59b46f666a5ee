import RetryEndpoint.Ingress.Worker
import RetryEndpoint.Theory.Runs
import Mathlib.Tactic.SplitIfs

/-!
# The receive loop over the memory cache

`Worker.Run` allocates one buffer before its loop, receives every datagram into it and
passes `buf[:n]` to `processFrame`; the memory backend keeps the slice it is given. So an
entry of the cache shows what the buffer holds when the entry is read, not what it held
when the entry was stored.

## The model

A `State` has the heap with the buffer, the cache, whose values are slices, and where the
loop is. The events are a return of `Recvfrom`, the call of `processFrame` and the sweeps
of the cache's own goroutine, in any order; `Retrieve` changes nothing, so that a lookup at
any point of a run is a lookup in the state there. The state records what was received and
what was stored, in order, and the keys that were evicted.

## What is proved

* `run_inv` — what the buffer holds after a run: at each offset, the byte of the last
  datagram that was long enough to reach it.
* `run_kept` — an entry stays while nothing is stored under its key, nothing is evicted and
  its time has not passed.
* `retrieve_eq_stored_iff` — so a lookup returns the bytes of the last datagram stored
  under its key exactly when the datagrams received since have left the same bytes in the
  buffer (`Undisturbed`); `retrieve_after_next_frame` is a run in which they have not.
-/

namespace RetryEndpoint.Ingress.ReceiveLoop

open Go Cache ShardCommon Theory

/-- Where the loop is. -/
inductive PC where
  /-- In `Recvfrom`. -/
  | receiving
  /-- Before `processFrame(buf[:n])`. -/
  | processing (n : ℕ)
  /-- `Run` has returned. -/
  | returned

/-- What a run does to the buffer and to the cache. -/
inductive Act where
  /-- A datagram was received into the buffer. -/
  | received (d : Bytes)
  /-- A datagram was stored, by its header, at a time. -/
  | stored (f : Header) (d : Bytes) (t : Time)
  deriving DecidableEq

/-- The worker, its buffer and the cache. -/
structure State where
  /-- The memory of the process. -/
  heap : Heap
  /-- The receive buffer. -/
  buf : Slice
  /-- The cache. -/
  cache : Memory Slice
  /-- Where the loop is. -/
  pc : PC
  /-- What was received and stored so far. -/
  log : List Act
  /-- The keys evicted so far. -/
  evicted : List Bytes

/-- What can happen next. -/
inductive Event where
  /-- `Recvfrom` comes back; `cancelled` is `ctx.Err() != nil`. -/
  | recv (r : RecvResult) (cancelled : Bool)
  /-- `processFrame`; `pick` is the order of the cache's map. -/
  | process (now : Time) (pick : ℕ)
  /-- `sweepExpired`. -/
  | sweep (now : Time)

/-- The event reads the clock at `now` or before, if at all. -/
def Event.By (now : Time) : Event → Prop
  | .recv _ _ => True
  | .process t _ => t ≤ now
  | .sweep t => t ≤ now

/-- The loop before its first datagram. -/
def start (maxKeys : ℤ) : State :=
  let m := Heap.empty.make recvBufSize
  ⟨m.1, m.2, Memory.new Slice maxKeys, .receiving, [], []⟩

/-- The bytes that `Retrieve` returns. -/
def State.retrieve (s : State) (key : Bytes) (now : Time) : Option Bytes :=
  (s.cache.retrieve key now).map s.heap.read

section

variable (F : FrameLib) (w : Worker)

/-- `Recvfrom` comes back. -/
def State.recv (s : State) (r : RecvResult) (cancelled : Bool) : State :=
  match r with
  | .error e => { s with pc := if e.continues cancelled then .receiving else .returned }
  | .data d =>
    let f := s.heap.fill s.buf d.bytes
    { s with
      heap := f.1
      pc := if 0 < f.2 then .processing f.2 else .receiving
      log := s.log ++ [.received d.bytes] }

/-- `processFrame(buf[:n])`. -/
def State.process (s : State) (n : ℕ) (now : Time) (pick : ℕ) : State :=
  let raw := s.buf.upTo n
  let b := s.heap.read raw
  let s' := { s with
    cache := (processFrame F (Memory.cache Slice pick) w b raw now s.cache).1
    pc := .receiving }
  match storedHeader F b with
  | none => s'
  | some f => { s' with
      log := s.log ++ [.stored f b now]
      evicted := s.evicted ++ (s.cache.victim pick).toList }

/-- One event; one that is not possible where the loop is changes nothing. -/
def step (s : State) : Event → State
  | .recv r cancelled =>
    match s.pc with
    | .receiving => s.recv r cancelled
    | _ => s
  | .process now pick =>
    match s.pc with
    | .processing n => s.process F w n now pick
    | _ => s
  | .sweep now => { s with cache := s.cache.sweepExpired now }

/-- A run. -/
def run (maxKeys : ℤ) (es : List Event) : State := runFrom (step F w) (start maxKeys) es

end

/-- The datagrams received, in order. -/
def received (log : List Act) : List Bytes :=
  log.filterMap fun
    | .received d => some d
    | .stored _ _ _ => none

/-- The last datagram that reaches offset `i` of the buffer. -/
def lastReaching (i : ℕ) (ds : List Bytes) : Option Bytes := (ds.filter fun x => i < x.length).getLast?

/-- The datagrams `later` leave the bytes of `d` in the buffer: at each offset of `d`, the
last of them that is long enough to reach it has the same byte as `d`. -/
def Undisturbed (d : Bytes) (later : List Bytes) : Prop :=
  ∀ i < d.length, ∀ x ∈ lastReaching i later, x[i]? = d[i]?

instance (d : Bytes) (later : List Bytes) : Decidable (Undisturbed d later) :=
  inferInstanceAs (Decidable (∀ i < d.length, ∀ x ∈ lastReaching i later, x[i]? = d[i]?))

theorem received_append (log log' : List Act) : received (log ++ log') = received log ++ received log' :=
  List.filterMap_append

@[simp] theorem received_snoc_received (log : List Act) (d : Bytes) :
    received (log ++ [.received d]) = received log ++ [d] := received_append ..

@[simp] theorem received_snoc_stored (log : List Act) (f : Header) (d : Bytes) (t : Time) :
    received (log ++ [.stored f d t]) = received log := by rw [received_append]; exact List.append_nil _

theorem lastReaching_append (i : ℕ) (as bs : List Bytes) :
    lastReaching i (as ++ bs) = (lastReaching i bs).or (lastReaching i as) := by
  simp only [lastReaching, List.filter_append, List.getLast?_append]

theorem lastReaching_singleton (i : ℕ) (d : Bytes) :
    lastReaching i [d] = if i < d.length then some d else none := by
  by_cases hi : i < d.length <;> simp [lastReaching, hi]

/-! ### The buffer -/

/-- The byte that datagrams received in order leave at an offset of a new buffer. -/
def left (i : ℕ) (ds : List Bytes) : UInt8 := (lastReaching i ds).elim 0 fun x => x.getD i 0

/-- More datagrams overwrite the offsets they reach. -/
theorem left_append (i : ℕ) (as bs : List Bytes) :
    left i (as ++ bs) = (lastReaching i bs).elim (left i as) fun x => x.getD i 0 := by
  rw [left, lastReaching_append]
  cases lastReaching i bs <;> rfl

theorem left_snoc (i : ℕ) (ds : List Bytes) (d : Bytes) : left i (ds ++ [d]) = d.getD i (left i ds) := by
  rw [left_append, lastReaching_singleton]
  by_cases hi : i < d.length <;> simp [hi]

/-- **The buffer and the log.** The buffer is the one allocated at the start, it holds what
the received datagrams have left, and what is processed or stored is the datagram received
right before. -/
structure State.Inv (s : State) : Prop where
  /-- The buffer. -/
  buf_eq : s.buf = ⟨0, recvBufSize⟩
  /-- What it holds. -/
  byte_eq : ∀ i, s.heap.byte 0 i = left i (received s.log)
  /-- What is about to be processed. -/
  processing : ∀ n, s.pc = .processing n → ∃ pre d, s.log = pre ++ [.received d] ∧ n = d.length
  /-- What was stored. -/
  stored : ∀ pre f d t post, s.log = pre ++ .stored f d t :: post → ∃ pre', pre = pre' ++ [.received d]

theorem inv_start (maxKeys : ℤ) : (start maxKeys).Inv where
  buf_eq := rfl
  byte_eq _ := rfl
  processing _ h := by cases h
  stored pre f d t post h := by simp [start] at h

/-- Before `processFrame`, `buf[:n]` shows the datagram received last. -/
theorem State.Inv.read_processing {s : State} (h : s.Inv) {pre : List Act} {d : Bytes}
    (hlog : s.log = pre ++ [.received d]) : s.heap.read (s.buf.upTo d.length) = d := by
  rw [Heap.read_eq_iff]
  refine ⟨rfl, fun i hi => ?_⟩
  rw [Slice.upTo_addr, h.buf_eq, h.byte_eq, hlog, received_snoc_received, left_snoc, List.getD_eq_getElem _ _ hi,
    List.getElem?_eq_getElem hi]

section

variable {F : FrameLib} {w : Worker}

variable (F w) in
/-- What an event does: nothing, a receive, a call of `processFrame`, or a sweep. -/
theorem step_cases (s : State) (e : Event) :
    step F w s e = s ∨
      (∃ r cancelled, e = .recv r cancelled ∧ s.pc = .receiving ∧ step F w s e = s.recv r cancelled) ∨
      (∃ now pick n, e = .process now pick ∧ s.pc = .processing n ∧ step F w s e = s.process F w n now pick) ∨
      ∃ now, e = .sweep now ∧ step F w s e = { s with cache := s.cache.sweepExpired now } := by
  cases e with
  | recv r cancelled =>
    cases hp : s.pc with
    | receiving => exact .inr (.inl ⟨r, cancelled, rfl, rfl, by simp only [step, hp]⟩)
    | processing => exact .inl (by simp only [step, hp])
    | returned => exact .inl (by simp only [step, hp])
  | process now pick =>
    cases hp : s.pc with
    | receiving => exact .inl (by simp only [step, hp])
    | processing n => exact .inr (.inr (.inl ⟨now, pick, n, rfl, rfl, by simp only [step, hp]⟩))
    | returned => exact .inl (by simp only [step, hp])
  | sweep now => exact .inr (.inr (.inr ⟨now, rfl, rfl⟩))

theorem State.Inv.recv {s : State} (h : s.Inv) (r : RecvResult) (cancelled : Bool) : (s.recv r cancelled).Inv := by
  cases r with
  | error e =>
    refine ⟨h.buf_eq, h.byte_eq, fun n hn => ?_, h.stored⟩
    simp only [State.recv] at hn
    split_ifs at hn
  | data d =>
    have hlen : d.bytes.length ≤ s.buf.len := by rw [h.buf_eq]; exact d.length_le
    refine ⟨h.buf_eq, fun i => ?_, fun n hn => ⟨s.log, d.bytes, rfl, ?_⟩, fun pre f b t post hlog => ?_⟩
    · have hb := s.heap.fill_byte_self hlen i
      rw [show s.buf.addr = 0 by rw [h.buf_eq], h.byte_eq] at hb
      simp only [State.recv, received_snoc_received]
      rw [hb, left_snoc]
    · simp only [State.recv, Heap.fill_count, Nat.min_eq_left hlen] at hn
      split_ifs at hn
      cases hn
      rfl
    · rcases split_snoc hlog with ⟨-, hy, -⟩ | ⟨post', -, hlog'⟩
      · cases hy
      · exact h.stored _ _ _ _ _ hlog'

theorem State.Inv.process {s : State} (h : s.Inv) {n : ℕ} (hn : s.pc = .processing n) (now : Time) (pick : ℕ) :
    (s.process F w n now pick).Inv := by
  obtain ⟨pre, d, hlog, rfl⟩ := h.processing n hn
  simp only [State.process, h.read_processing hlog]
  cases hf : storedHeader F d with
  | none => exact ⟨h.buf_eq, h.byte_eq, fun _ hn => (by cases hn), h.stored⟩
  | some f =>
    refine ⟨h.buf_eq, fun i => by simpa using h.byte_eq i, fun _ hn => (by cases hn), fun pre' f' d' t post hlog' => ?_⟩
    rcases split_snoc hlog' with ⟨-, hy, rfl⟩ | ⟨post', -, hlog''⟩
    · cases hy
      exact ⟨pre, hlog⟩
    · exact h.stored _ _ _ _ _ hlog''

theorem State.Inv.step {s : State} (h : s.Inv) (e : Event) : (step F w s e).Inv := by
  rcases step_cases F w s e with hs | ⟨r, cancelled, -, -, hs⟩ | ⟨now, pick, n, -, hp, hs⟩ | ⟨now, -, hs⟩ <;> rw [hs]
  · exact h
  · exact h.recv r cancelled
  · exact h.process hp now pick
  · exact ⟨h.buf_eq, h.byte_eq, h.processing, h.stored⟩

theorem run_inv (maxKeys : ℤ) (es : List Event) : (run F w maxKeys es).Inv :=
  runFrom_invariant (inv_start maxKeys) (fun _ e h => h.step e) es

/-! ### The entries -/

/-- **The cache and the log.** While nothing has been evicted, the last datagram stored
under a key has its entry until its time has passed. -/
def State.Kept (s : State) (w : Worker) (now : Time) : Prop :=
  s.evicted = [] → ∀ pre f d t post, s.log = pre ++ .stored f d t :: post → (∀ d' t', .stored f d' t' ∉ post) →
    now ≤ t + w.ttl → s.cache.data.lookup (frameKey f) = some ⟨s.buf.upTo d.length, t + w.ttl⟩

theorem State.Kept.recv {s : State} {now : Time} (h : s.Kept w now) (r : RecvResult) (cancelled : Bool) :
    (s.recv r cancelled).Kept w now := by
  cases r with
  | error e => exact h
  | data d =>
    intro hev pre f b t post hlog hpost httl
    rcases split_snoc hlog with ⟨-, hy, -⟩ | ⟨post', rfl, hlog'⟩
    · cases hy
    · exact h hev pre f b t post' hlog' (fun d' t' hm => hpost d' t' (List.mem_append_left _ hm)) httl

theorem State.Kept.process {s : State} {now : Time} (h : s.Kept w now) (hi : s.Inv) {n : ℕ}
    (hn : s.pc = .processing n) (t : Time) (pick : ℕ) : (s.process F w n t pick).Kept w now := by
  obtain ⟨pre, d, hlog, rfl⟩ := hi.processing n hn
  simp only [State.process, hi.read_processing hlog]
  cases hf : storedHeader F d with
  | none => simpa only [State.Kept, processFrame_of_none _ _ hf] using h
  | some f =>
    intro hev pre' f' d' t' post hlog' hpost httl
    obtain ⟨hev, hv⟩ : s.evicted = [] ∧ s.cache.victim pick = none := by simpa using hev
    simp only [processFrame_of_stored _ _ hf, Memory.cache]
    rcases split_snoc hlog' with ⟨-, hy, -⟩ | ⟨post', rfl, hlog''⟩
    · cases hy
      exact Memory.lookup_store_self ..
    · -- the new entry is under another key, since it comes after the last one under `f'`
      have hne : frameKey f' ≠ frameKey f := fun he => hpost d t (by simp [frameKey_inj he])
      rw [Memory.lookup_store_of_ne hne hv]
      exact h hev pre' f' d' t' post' hlog'' (fun d' t' hm => hpost d' t' (List.mem_append_left _ hm)) httl

theorem State.Kept.sweep {s : State} {now : Time} (h : s.Kept w now) {t : Time} (ht : t ≤ now) :
    State.Kept { s with cache := s.cache.sweepExpired t } w now := by
  intro hev pre f d t' post hlog hpost httl
  rw [Memory.lookup_sweepExpired, h hev pre f d t' post hlog hpost httl, Option.filter_some, if_pos]
  simpa using ht.trans httl

theorem State.Kept.step {s : State} {now : Time} (h : s.Kept w now) (hi : s.Inv) {e : Event} (he : e.By now) :
    (step F w s e).Kept w now := by
  rcases step_cases F w s e with hs | ⟨r, cancelled, -, -, hs⟩ | ⟨t, pick, n, -, hp, hs⟩ | ⟨t, rfl, hs⟩ <;> rw [hs]
  · exact h
  · exact h.recv r cancelled
  · exact h.process hi hp t pick
  · exact h.sweep he

theorem run_kept (maxKeys : ℤ) {now : Time} {es : List Event} (hes : ∀ e ∈ es, e.By now) :
    (run F w maxKeys es).Kept w now := by
  have h₀ : (start maxKeys).Kept w now := fun _ pre f d t post hlog => by simp [start] at hlog
  have hby : Along (step F w) (start maxKeys) (fun _ e => e.By now) es := along_of_forall hes
  exact (hby.invariant (I := fun s : State => s.Inv ∧ s.Kept w now) ⟨inv_start maxKeys, h₀⟩
    fun _ _ h he => ⟨h.1.step _, h.2.step h.1 he⟩).2

/-- What the buffer shows of a datagram received before others. -/
theorem State.Inv.read_stored_iff {s : State} (h : s.Inv) {pre post : List Act} {f : Header} {d : Bytes} {t : Time}
    (hlog : s.log = pre ++ .stored f d t :: post) :
    s.heap.read (s.buf.upTo d.length) = d ↔ Undisturbed d (received post) := by
  obtain ⟨pre', rfl⟩ := h.stored _ _ _ _ _ hlog
  have hrec : received s.log = (received pre' ++ [d]) ++ received post := by
    rw [hlog, received_append, received_snoc_received]
    rfl
  rw [Heap.read_eq_iff, Undisturbed, Slice.upTo_addr, h.buf_eq]
  simp only [Slice.upTo_len, true_and]
  refine forall₂_congr fun i hi => ?_
  rw [h.byte_eq, hrec, left_append, left_snoc]
  cases hx : lastReaching i (received post) with
  | none => simp [hi]
  | some x =>
    have hix : i < x.length := by
      have := List.mem_of_getLast? hx
      simpa using (List.mem_filter.mp this).2
    simp [hix, eq_comm]

end

variable (F : FrameLib) (w : Worker)

/-- **A stored frame and the buffer.** After any run in which nothing was evicted, and as
long as the time of the last datagram stored under a key has not passed, `Retrieve` returns
the bytes of that datagram exactly when the datagrams received after it have left them in
the buffer. -/
theorem retrieve_eq_stored_iff (maxKeys : ℤ) (es : List Event) (pre post : List Act) (f : Header) (d : Bytes)
    (t now : Time) (hlog : (run F w maxKeys es).log = pre ++ .stored f d t :: post)
    (hlast : ∀ d' t', .stored f d' t' ∉ post) (hev : (run F w maxKeys es).evicted = [])
    (hnow : ∀ e ∈ es, e.By now) (httl : now ≤ t + w.ttl) :
    (run F w maxKeys es).retrieve (frameKey f) now = some d ↔ Undisturbed d (received post) := by
  have hk := run_kept (F := F) (w := w) maxKeys hnow hev pre f d t post hlog hlast httl
  rw [State.retrieve, Memory.retrieve, hk, ← (run_inv maxKeys es).read_stored_iff hlog]
  simp only [if_neg (not_lt.mpr httl), Option.map_some, Option.some.injEq]

/-- A frame, and after it the first bytes of the same frame, which do not decode. -/
def frameThenCopy : List Event :=
  [.recv (.data ⟨wireFrame 1 1, by decide⟩) false, .process 0 0,
    .recv (.data ⟨(wireFrame 1 1).take 10, by decide⟩) false, .process 1 0]

/-- The copy leaves the frame's bytes in the buffer, and the frame is returned. -/
theorem retrieve_after_copy :
    (run wireFrames ⟨60, false⟩ 0 frameThenCopy).retrieve (frameKey ⟨1, 1⟩) 2 = some (wireFrame 1 1) :=
  (retrieve_eq_stored_iff wireFrames ⟨60, false⟩ 0 frameThenCopy [.received (wireFrame 1 1)]
    [.received ((wireFrame 1 1).take 10)] ⟨1, 1⟩ (wireFrame 1 1) 0 2 (by decide +kernel) (by simp)
    (by decide +kernel) (by simp [frameThenCopy, Event.By]) (by decide)).mpr (by decide +kernel)

/-- Two frames of one length, of two flows. -/
def twoFrames : List Event :=
  [.recv (.data ⟨wireFrame 1 1, by decide⟩) false, .process 0 0,
    .recv (.data ⟨wireFrame 2 1, by decide⟩) false, .process 1 0]

/-- The first frame is stored once, nothing is evicted and its time has not passed, but a
lookup of its key returns the second frame. -/
theorem retrieve_after_next_frame :
    (run wireFrames ⟨60, false⟩ 0 twoFrames).log =
        [.received (wireFrame 1 1), .stored ⟨1, 1⟩ (wireFrame 1 1) 0,
          .received (wireFrame 2 1), .stored ⟨2, 1⟩ (wireFrame 2 1) 1] ∧
      (run wireFrames ⟨60, false⟩ 0 twoFrames).evicted = [] ∧
      (run wireFrames ⟨60, false⟩ 0 twoFrames).retrieve (frameKey ⟨1, 1⟩) 2 = some (wireFrame 2 1) ∧
      wireFrame 2 1 ≠ wireFrame 1 1 := by
  decide +kernel

end RetryEndpoint.Ingress.ReceiveLoop
