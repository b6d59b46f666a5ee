import RetryEndpoint.Deployment

/-!
# Frames in one Redis

Of the endpoints of a `Deployment`, those with the Redis backend keep their frames in one place
and under one prefix. What one of them has received, all of them serve, for the time to live of the one
that received it; the others keep what they receive to themselves.

## The model

The runs are those of `Deployment`, from an empty Redis and empty memories. `latestShared` reads
off a run the last frame that was stored by a header by any endpoint with the Redis backend,
with the endpoint and the time. The times to live of these endpoints are taken to be positive, and `SET` to
keep a frame for them (`KeepsFrames`).

## What is proved

* `frames_found` — an endpoint with the Redis backend finds exactly the latest of the frames that
  such endpoints have stored, for the time to live of the storing endpoint; what an
  endpoint with the memory backend finds depends on its own commands only.

The deadline is that of the latest store: where endpoints have different times to live, one that
stores a frame again with a shorter one cuts it short for all.
-/

namespace RetryEndpoint

open Go Cache ShardCommon Ingress Retransmit Theory Config

variable {ι : Type}

/-- Whose command it is. -/
def Command.endpoint : Command ι → ι
  | store i _ _ _ _ | retrieve i _ _ | claim i _ _ _ => i

namespace Deployment

variable (d : Deployment ι)

/-- Nothing is kept yet. -/
def fresh : State ι := ⟨ExpMap.empty, fun i => .new Bytes (d.cfg i).cacheMaxKeys⟩

/-- The frame that a command stores in the Redis by the header `f`: by whom, the frame, and when. -/
def sharedStore (f : Header) : Command ι → Option (ι × Bytes × Time)
  | .store i g value now _ => if (d.cfg i).cacheBackend = .redis ∧ g = f then some (i, value, now) else none
  | _ => none

/-- The latest of them. -/
def latestShared (f : Header) (cs : List (Command ι)) : Option (ι × Bytes × Time) :=
  (cs.filterMap (d.sharedStore f)).getLast?

/-- The endpoints with the Redis backend have positive times to live, and `SET` keeps a frame for them. -/
def KeepsFrames : Prop :=
  ∀ i, (d.cfg i).cacheBackend = .redis → 0 < (d.cfg i).worker.ttl ∧ d.client.SetsFor (d.cfg i).worker.ttl

/-- The Redis holds the latest frames, each for the time to live of its endpoint. -/
def HoldsShared (redis : Redis) (cs : List (Command ι)) : Prop :=
  ∀ f, redis (RedisCache.redisKey ⟨d.client, framePrefix⟩ (frameKey f)) =
    (d.latestShared f cs).map fun a => ⟨a.2.1, some (a.2.2 + (d.cfg a.1).worker.ttl)⟩

variable {d}

theorem latestShared_snoc_of_none {f : Header} {c : Command ι} (h : d.sharedStore f c = none)
    (cs : List (Command ι)) : d.latestShared f (cs ++ [c]) = d.latestShared f cs := by
  simp [latestShared, h]

theorem latestShared_snoc_of_some {f : Header} {c : Command ι} {a : ι × Bytes × Time}
    (h : d.sharedStore f c = some a) (cs : List (Command ι)) : d.latestShared f (cs ++ [c]) = some a := by
  simp [latestShared, h]

theorem frames_of_redis {i : ι} (h : (d.cfg i).cacheBackend = .redis) :
    (d.clients i).frames = some ⟨d.client, framePrefix⟩ := by
  rw [clients_eq, h]
  rfl

theorem frames_of_memory {i : ι} (h : (d.cfg i).cacheBackend = .memory) : (d.clients i).frames = none := by
  rw [clients_eq, h]
  rfl

variable [DecidableEq ι]

/-! ### The Redis and the history -/

/-- A frame that is stored in the Redis is the latest by its header. -/
theorem HoldsShared.store (hR : d.KeepsFrames) {s : State ι} {cs : List (Command ι)} (h : d.HoldsShared s.redis cs)
    (i : ι) (g : Header) (value : Bytes) (now : Time) (pick : ℕ) :
    d.HoldsShared (d.step s (.store i g value now pick)).redis (cs ++ [.store i g value now pick]) := by
  intro f
  cases hb : (d.cfg i).cacheBackend with
  | memory =>
    have hnone : d.sharedStore f (.store i g value now pick) = none := if_neg fun hr => by simp [hb] at hr
    rw [latestShared_snoc_of_none hnone, ← h f]
    simp only [step, frames_of_memory hb]
  | redis =>
    simp only [step, frames_of_redis hb]
    by_cases hg : g = f
    · subst hg
      have hsome : d.sharedStore g (.store i g value now pick) = some (i, value, now) := if_pos ⟨hb, rfl⟩
      obtain ⟨httl, hset⟩ := hR i hb
      rw [latestShared_snoc_of_some hsome, RedisCache.store_self, hset.pos httl]
      rfl
    · have hnone : d.sharedStore f (.store i g value now pick) = none := if_neg fun hr => hg hr.2
      have hk : RedisCache.redisKey ⟨d.client, framePrefix⟩ (frameKey f) ≠
          RedisCache.redisKey ⟨d.client, framePrefix⟩ (frameKey g) :=
        fun he => hg (frameKey_inj (RedisCache.redisKey_inj _ he)).symm
      rw [latestShared_snoc_of_none hnone, ← h f]
      exact RedisCache.store_of_ne _ hk ..

/-- A claim is not in the way of frames. -/
theorem HoldsShared.claim {s : State ι} {cs : List (Command ι)} (h : d.HoldsShared s.redis cs) (i : ι) (raw : Bytes)
    (now : Time) (fault : Option Fault) :
    d.HoldsShared (d.step s (.claim i raw now fault)).redis (cs ++ [.claim i raw now fault]) := by
  intro f
  rw [latestShared_snoc_of_none rfl, ← h f]
  exact gate_of_isFrameKey i raw now fault s.redis (isFrameKey_framePrefix d.client f)

theorem holdsShared_run (hR : d.KeepsFrames) (cs : List (Command ι)) : d.HoldsShared (d.run d.fresh cs).redis cs := by
  induction cs using List.reverseRecOn with
  | nil => intro f; rfl
  | append_singleton cs c ih =>
    rw [run, runFrom_snoc]
    cases c with
    | store i g value now pick => exact ih.store hR i g value now pick
    | retrieve i g now =>
      intro f
      rw [latestShared_snoc_of_none rfl]
      exact ih f
    | claim i raw now fault => exact ih.claim i raw now fault

omit [DecidableEq ι] in
/-- What is live under the key of a frame. -/
theorem HoldsShared.get_eq_some_iff {redis : Redis} {cs : List (Command ι)} (h : d.HoldsShared redis cs) (f : Header)
    (now : Time) (v : Bytes) :
    redis.get (RedisCache.redisKey ⟨d.client, framePrefix⟩ (frameKey f)) now = some v ↔
      ∃ i t, d.latestShared f cs = some (i, v, t) ∧ now < t + (d.cfg i).worker.ttl := by
  have hk := h f
  cases hl : d.latestShared f cs with
  | none =>
    rw [hl] at hk
    simp [ExpMap.get_eq_none hk]
  | some a =>
    obtain ⟨i, value, t⟩ := a
    rw [hl] at hk
    rw [ExpMap.get_eq_some_iff hk]
    simp only [Option.some.injEq, Prod.mk.injEq]
    constructor
    · rintro ⟨rfl, hlive⟩
      exact ⟨i, t, ⟨rfl, rfl, rfl⟩, hlive⟩
    · rintro ⟨_, _, ⟨rfl, rfl, rfl⟩, hlive⟩
      exact ⟨rfl, hlive⟩

/-! ### The memories -/

/-- A command changes the memory of its own endpoint at most. -/
theorem frames_step_of_ne (s : State ι) {c : Command ι} {j : ι} (h : c.endpoint ≠ j) :
    (d.step s c).frames j = s.frames j := by
  cases c with
  | store i f value now pick =>
    cases hc : (d.clients i).frames with
    | none =>
      simp only [step, hc]
      exact Function.update_of_ne h.symm ..
    | some c => simp only [step, hc]
  | retrieve => rfl
  | claim => rfl

theorem frames_step_congr {s s' : State ι} (c : Command ι) {j : ι} (h : s.frames j = s'.frames j) :
    (d.step s c).frames j = (d.step s' c).frames j := by
  cases c with
  | store i f value now pick =>
    cases hc : (d.clients i).frames with
    | none =>
      simp only [step, hc]
      by_cases hij : j = i
      · subst hij
        rw [Function.update_self, Function.update_self, h]
      · rw [Function.update_of_ne hij, Function.update_of_ne hij, h]
    | some c => simpa only [step, hc] using h
  | retrieve => exact h
  | claim => exact h

/-- The memory of an endpoint is made by its own commands. -/
theorem frames_run (s : State ι) (cs : List (Command ι)) (j : ι) :
    (d.run s cs).frames j = (d.run s (cs.filter fun c => c.endpoint = j)).frames j := by
  induction cs using List.reverseRecOn with
  | nil => rfl
  | append_singleton cs c ih =>
    rw [run, runFrom_snoc, List.filter_append]
    by_cases hc : c.endpoint = j
    · rw [List.filter_singleton, decide_eq_true hc, run]
      exact (frames_step_congr c ih).trans (congrArg (State.frames · j) (runFrom_snoc ..).symm)
    · rw [List.filter_singleton, decide_eq_false hc, frames_step_of_ne _ hc]
      simpa [run] using ih

variable (d) in
/-- **Where a frame is found**: with the Redis backend a lookup finds exactly the latest frame that
any such endpoint has stored by the header, while it is younger than the time to live of this endpoint,
where these times are positive and `SET` keeps to them; with the memory backend it finds what it would if no
other endpoint had run. -/
theorem frames_found (cs : List (Command ι)) (j : ι) (f : Header) (now : Time) :
    (d.KeepsFrames → (d.cfg j).cacheBackend = .redis →
      ∀ v, d.found (d.run d.fresh cs) (.retrieve j f now) = some (some v) ↔
        ∃ i t, d.latestShared f cs = some (i, v, t) ∧ now < t + (d.cfg i).worker.ttl) ∧
    ((d.cfg j).cacheBackend = .memory → d.found (d.run d.fresh cs) (.retrieve j f now) =
      d.found (d.run d.fresh (cs.filter fun c => c.endpoint = j)) (.retrieve j f now)) := by
  constructor
  · intro hR hj v
    simp only [found, frames_of_redis hj, RedisCache.retrieve, Option.some.injEq]
    exact (holdsShared_run hR cs).get_eq_some_iff f now v
  · intro hj
    simp only [found, frames_of_memory hj, frames_run d.fresh cs j]

theorem keepsFrames_pair (backend : Bool → CacheBackend) : (pair backend).KeepsFrames := by
  intro i _
  have hset : msClient.SetsFor (60 * second) := setsFor_msClient (by decide)
  exact ⟨(by decide : (0 : ℤ) < 60 * second), hset⟩

/-- What one endpoint has stored, the other finds half a minute later. -/
theorem frames_found_by_other :
    (pair fun _ => .redis).found
        ((pair fun _ => .redis).run (pair fun _ => .redis).fresh [.store true ⟨1, 1⟩ (wireFrame 1 1) 0 0])
        (.retrieve false ⟨1, 1⟩ (30 * second)) =
      some (some (wireFrame 1 1)) :=
  ((frames_found (pair fun _ => .redis) [.store true ⟨1, 1⟩ (wireFrame 1 1) 0 0] false ⟨1, 1⟩ (30 * second)).1
    (keepsFrames_pair _) rfl _).mpr ⟨true, 0, rfl, by decide⟩

end Deployment

end RetryEndpoint
