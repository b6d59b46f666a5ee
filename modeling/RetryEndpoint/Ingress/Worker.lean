import RetryEndpoint.Cache.Backends
import RetryEndpoint.Go.Memory
import RetryEndpoint.ShardCommon

/-!
# The ingress worker

`ingress/ingress.go`: one goroutine receives multicast datagrams into one buffer and
stores each frame that decodes and is stamped under `HashKey ∥ SeqNum`.

## The model

`processFrame` hands the datagram to one of four handlers by its version. The handlers
differ in the decoder only, so they are `storeDecoded` at their decoders. What they store,
`raw`, is passed on to the cache as it is; its bytes are passed beside it, for the
decoders. A handler reports what the metrics recorder counts, when there is one.

`RecvResult` is what `Recvfrom` comes back with, and `Errno.continues` says after which
errors the receive loop goes on.

## What is proved

* `processFrame_classify` — `processFrame` goes by the class of a datagram.
* `processFrame_eq` — the four handlers store a frame by the header that the decoder of
  its own class gives it (`ownHeader`).
* `processFrame_of_none`, `processFrame_of_stored` — so a datagram that does not decode, or
  is not stamped, leaves the cache alone, and any other is stored under its `frameKey`.
-/

namespace RetryEndpoint.Ingress

open Go Cache ShardCommon

/-- What `processFrame` counts. -/
inductive Metric where
  /-- `FrameDropped("decode_error")`. -/
  | frameDropped
  /-- `FrameReceived`. -/
  | frameReceived
  /-- `CacheError`. -/
  | cacheError
  /-- `FrameCached`. -/
  | frameCached
  deriving DecidableEq

/-- `Worker`: what `processFrame` uses of it besides the cache. -/
structure Worker where
  /-- How long a frame is kept. -/
  ttl : Duration
  /-- Whether there is a metrics recorder. -/
  recorder : Bool

/-- Counts go to the recorder, if there is one. -/
def Worker.count (w : Worker) (ms : List Metric) : List Metric := if w.recorder then ms else []

/-- The 16-byte key of a frame, `HashKey (8B) ∥ SeqNum (8B)`. -/
def frameKey (f : Header) : Bytes := putUint64 f.hashKey ++ putUint64 f.seqNum

theorem frameKey_inj {f g : Header} (h : frameKey f = frameKey g) : f = g := by
  obtain ⟨h₁, h₂⟩ := putUint64_append_inj h
  cases f; cases g
  simp_all

@[simp] theorem length_frameKey (f : Header) : (frameKey f).length = 16 := by simp [frameKey]

section

variable {σ V : Type} (F : FrameLib) (cache : Interface σ V) (w : Worker)

/-- What every handler does with what its decoder gives. -/
def storeDecoded (decoded : Option Header) (raw : V) (now : Time) (s : σ) : σ × List Metric :=
  match decoded with
  | none => (s, w.count [.frameDropped])
  | some f =>
    if f.seqNum = 0 then (s, w.count [.frameReceived]) else
    match cache.store (frameKey f) raw w.ttl now s with
    | (some _, s) => (s, w.count [.frameReceived, .cacheError])
    | (none, s) => (s, w.count [.frameReceived, .frameCached])

/-- `processBlockFrame`. -/
def processBlockFrame (b : Bytes) (raw : V) (now : Time) (s : σ) : σ × List Metric :=
  storeDecoded cache w (F.decodeBlock b) raw now s

/-- `processSubtreeDataFrame`. -/
def processSubtreeDataFrame (b : Bytes) (raw : V) (now : Time) (s : σ) : σ × List Metric :=
  storeDecoded cache w (F.decodeSubtreeData b) raw now s

/-- `processAnchorFrame`. -/
def processAnchorFrame (b : Bytes) (raw : V) (now : Time) (s : σ) : σ × List Metric :=
  storeDecoded cache w (F.decodeAnchor b) raw now s

/-- `processFrame`. -/
def processFrame (b : Bytes) (raw : V) (now : Time) (s : σ) : σ × List Metric :=
  if F.isBlockFrame b then processBlockFrame F cache w b raw now s
  else if F.isSubtreeDataFrame b then processSubtreeDataFrame F cache w b raw now s
  else if F.isAnchorFrame b then processAnchorFrame F cache w b raw now s
  else storeDecoded cache w (F.decode b) raw now s

/-- The classes of frames that `processFrame` tells apart. -/
inductive FrameClass where
  | block
  | subtreeData
  | anchor
  | transaction
  deriving DecidableEq

/-- The class of a datagram. -/
def classify (b : Bytes) : FrameClass :=
  if F.isBlockFrame b then .block
  else if F.isSubtreeDataFrame b then .subtreeData
  else if F.isAnchorFrame b then .anchor
  else .transaction

/-- The handlers of `processFrame` are those of the classes. -/
theorem processFrame_classify (b : Bytes) (raw : V) (now : Time) (s : σ) :
    processFrame F cache w b raw now s =
      match classify F b with
      | .block => processBlockFrame F cache w b raw now s
      | .subtreeData => processSubtreeDataFrame F cache w b raw now s
      | .anchor => processAnchorFrame F cache w b raw now s
      | .transaction => storeDecoded cache w (F.decode b) raw now s := by
  unfold processFrame classify
  split_ifs <;> rfl

end

section

variable {σ V : Type} (F : FrameLib)

/-- What the decoder of a datagram's own class gives. -/
def ownHeader (b : Bytes) : Option Header :=
  if F.isBlockFrame b then F.decodeBlock b
  else if F.isSubtreeDataFrame b then F.decodeSubtreeData b
  else if F.isAnchorFrame b then F.decodeAnchor b
  else F.decode b

/-- The header a datagram is stored by: none when it does not decode or is not stamped. -/
def storedHeader (b : Bytes) : Option Header := (ownHeader F b).filter fun f => f.seqNum ≠ 0

theorem storedHeader_eq_some_iff {b : Bytes} {f : Header} :
    storedHeader F b = some f ↔ ownHeader F b = some f ∧ f.seqNum ≠ 0 := by
  simp [storedHeader, Option.filter_eq_some_iff]

variable {F} (cache : Interface σ V) (w : Worker)

/-- The four handlers go by the header of the datagram's own class. -/
theorem processFrame_eq (b : Bytes) (raw : V) (now : Time) (s : σ) :
    processFrame F cache w b raw now s = storeDecoded cache w (ownHeader F b) raw now s := by
  unfold processFrame ownHeader
  split_ifs <;> rfl

/-- A datagram that does not decode, or is not stamped, leaves the cache alone. -/
theorem processFrame_of_none {b : Bytes} (h : storedHeader F b = none) (raw : V) (now : Time) (s : σ) :
    (processFrame F cache w b raw now s).1 = s := by
  rw [processFrame_eq]
  cases hf : ownHeader F b with
  | none => rfl
  | some f =>
    have hz : f.seqNum = 0 := by simpa [storedHeader, hf, Option.filter_some] using h
    simp [storeDecoded, hz]

/-- A stamped datagram that decodes is stored under its key. -/
theorem processFrame_of_stored {b : Bytes} {f : Header} (h : storedHeader F b = some f) (raw : V) (now : Time) (s : σ) :
    (processFrame F cache w b raw now s).1 = (cache.store (frameKey f) raw w.ttl now s).2 := by
  obtain ⟨hf, hz⟩ := (storedHeader_eq_some_iff F).mp h
  rw [processFrame_eq, hf]
  simp only [storeDecoded, if_neg hz]
  rcases cache.store (frameKey f) raw w.ttl now s with ⟨_ | _, s'⟩ <;> rfl

end

/-! ### The receive loop -/

/-- `recvBufSize`: the size of the one buffer that all datagrams are received into. -/
def recvBufSize : ℕ := 4 * 1024 * 1024

/-- A UDP datagram, whose length field has 16 bits. -/
structure Datagram where
  /-- The payload. -/
  bytes : Bytes
  /-- It is within the length field. -/
  fits : bytes.length ≤ 65535

/-- Every datagram fits the buffer. -/
theorem Datagram.length_le (d : Datagram) : d.bytes.length ≤ recvBufSize := d.fits.trans (by decide)

/-- The errors of `Recvfrom` that the loop tells apart. -/
inductive Errno where
  /-- `EAGAIN`, which is also `EWOULDBLOCK`: the receive timeout. -/
  | eagain
  /-- `EBADF`: the socket was closed. -/
  | ebadf
  /-- `EINVAL`. -/
  | einval
  /-- `EINTR`. -/
  | eintr
  /-- Any other. -/
  | other
  deriving DecidableEq

/-- What `Recvfrom` comes back with. -/
inductive RecvResult where
  /-- A datagram. -/
  | data (d : Datagram)
  /-- An error. -/
  | error (e : Errno)

/-- Whether the receive loop goes on after an error; `cancelled` is `ctx.Err() != nil`. -/
def Errno.continues (e : Errno) (cancelled : Bool) : Bool :=
  match e with
  | .eagain => !cancelled
  | .ebadf => false
  | .einval => false
  | .eintr => true
  | .other => !cancelled

end RetryEndpoint.Ingress
