import Mathlib.Data.List.Nodup
import Mathlib.Logic.Function.Basic

/-!
# Locks for readers and writers

Go's `sync.RWMutex`: any number of readers hold it, or one writer does. As with channels, what a
blocked goroutine waits for is left to the scheduler: the operations answer at once, and say
(`none`) that they are blocked.

Which goroutines are between their `Lock` and their `Unlock` is read off where they are in their code:
`Guards` says that the lock is held by exactly those. Each operation keeps it, and so does every step
inside (`Guards.inside`).
-/

namespace RetryEndpoint.Go

universe u v

/-- `sync.RWMutex`: who holds it. -/
inductive RWMutex (ι : Type u) where
  /-- These read; nobody holds it if there are none. -/
  | readers (is : List ι)
  /-- This one writes. -/
  | writer (i : ι)

namespace RWMutex

variable {ι : Type u} [DecidableEq ι]

/-- `Lock`. -/
def lock (i : ι) : RWMutex ι → Option (RWMutex ι)
  | readers [] => some (writer i)
  | _ => none

/-- `RLock`. -/
def rLock (i : ι) : RWMutex ι → Option (RWMutex ι)
  | readers is => some (readers (i :: is))
  | writer _ => none

/-- `Unlock`, by the one that writes. -/
def unlock (_ : RWMutex ι) : RWMutex ι := readers []

/-- `RUnlock`. -/
def rUnlock (i : ι) : RWMutex ι → RWMutex ι
  | readers is => readers (is.erase i)
  | m => m

omit [DecidableEq ι] in
/-- A writer waits until nobody holds the lock. -/
theorem lock_eq_some {m m' : RWMutex ι} {i : ι} (h : m.lock i = some m') : m = .readers [] ∧ m' = .writer i := by
  unfold lock at h
  split at h
  · exact ⟨rfl, by simpa using h.symm⟩
  · cases h

variable {α : Type v} (writes reads : α → Bool)

/-- **The lock is held by those who are inside**, by where they are: `writes` for writers, `reads` for
readers. -/
structure Guards (m : RWMutex ι) (pc : ι → α) : Prop where
  /-- Who writes holds it. -/
  writer : ∀ i, writes (pc i) = true ↔ m = .writer i
  /-- Who reads is one of the readers. -/
  reader : ∀ i, reads (pc i) = true ↔ ∃ is, m = .readers is ∧ i ∈ is
  /-- A reader reads once. -/
  nodup : ∀ is, m = .readers is → is.Nodup

variable {writes reads} {m m' : RWMutex ι} {pc : ι → α} {i : ι} {a : α}

omit [DecidableEq ι] in
/-- At the start nobody is inside. -/
theorem guards_new (h : ∀ i, writes (pc i) = false ∧ reads (pc i) = false) :
    Guards writes reads (.readers []) pc where
  writer i := by simp [(h i).1]
  reader i := by simp [(h i).2]
  nodup is his := by
    cases his
    exact List.nodup_nil

/-- A step inside, or outside, changes nothing for the lock. -/
theorem Guards.inside (h : Guards writes reads m pc) (hw : writes a = writes (pc i)) (hr : reads a = reads (pc i)) :
    Guards writes reads m (Function.update pc i a) where
  writer j := by
    rw [← h.writer j]
    by_cases hj : j = i
    · subst hj
      rw [Function.update_self, hw]
    · rw [Function.update_of_ne hj]
  reader j := by
    rw [← h.reader j]
    by_cases hj : j = i
    · subst hj
      rw [Function.update_self, hr]
    · rw [Function.update_of_ne hj]
  nodup := h.nodup

/-- A writer that gets the lock. -/
theorem Guards.lock (h : Guards writes reads m pc) (hm : m.lock i = some m') (hw : writes a = true)
    (hr : reads a = false) : Guards writes reads m' (Function.update pc i a) := by
  obtain ⟨rfl, rfl⟩ := lock_eq_some hm
  refine ⟨fun j => ?_, fun j => ?_, fun is his => by cases his⟩
  · by_cases hj : j = i
    · subst hj
      simp [hw]
    · have hout := (h.writer j).not.mpr nofun
      simpa [Function.update_of_ne hj, Ne.symm hj] using hout
  · by_cases hj : j = i
    · subst hj
      simp [hr]
    · have hout := (h.reader j).not.mpr (by simp)
      simpa [Function.update_of_ne hj] using hout

/-- A reader that gets it. -/
theorem Guards.rLock (h : Guards writes reads m pc) (hm : m.rLock i = some m') (hout : reads (pc i) = false)
    (hw : writes a = false) (hr : reads a = true) : Guards writes reads m' (Function.update pc i a) := by
  obtain ⟨is, rfl, rfl⟩ : ∃ is, m = .readers is ∧ m' = .readers (i :: is) := by
    unfold RWMutex.rLock at hm
    split at hm
    · exact ⟨_, rfl, by simpa using hm.symm⟩
    · cases hm
  have hnot : i ∉ is := fun hi => by simp [(h.reader i).mpr ⟨is, rfl, hi⟩] at hout
  refine ⟨fun j => ?_, fun j => ?_, fun is' his' => ?_⟩
  · by_cases hj : j = i
    · subst hj
      simp [hw]
    · have hnone := (h.writer j).not.mpr nofun
      simpa [Function.update_of_ne hj] using hnone
  · by_cases hj : j = i
    · subst hj
      simp [hr]
    · have hj' := h.reader j
      simpa [Function.update_of_ne hj, hj] using hj'
  · cases his'
    exact List.nodup_cons.mpr ⟨hnot, h.nodup is rfl⟩

/-- A writer that gives it back. -/
theorem Guards.unlock (h : Guards writes reads m pc) (hin : writes (pc i) = true) (hw : writes a = false)
    (hr : reads a = false) : Guards writes reads m.unlock (Function.update pc i a) := by
  obtain rfl := (h.writer i).mp hin
  refine ⟨fun j => ?_, fun j => ?_, fun is his => ?_⟩
  · by_cases hj : j = i
    · subst hj
      simp [hw, RWMutex.unlock]
    · have hout := (h.writer j).not.mpr (by simpa using Ne.symm hj)
      simpa [Function.update_of_ne hj, RWMutex.unlock] using hout
  · by_cases hj : j = i
    · subst hj
      simp [hr, RWMutex.unlock]
    · have hout := (h.reader j).not.mpr (by simp)
      simpa [Function.update_of_ne hj, RWMutex.unlock] using hout
  · cases his
    exact List.nodup_nil

/-- A reader that gives it back. -/
theorem Guards.rUnlock (h : Guards writes reads m pc) (hin : reads (pc i) = true) (hw : writes a = false)
    (hr : reads a = false) : Guards writes reads (m.rUnlock i) (Function.update pc i a) := by
  obtain ⟨is, rfl, hi⟩ := (h.reader i).mp hin
  have hnodup := h.nodup is rfl
  refine ⟨fun j => ?_, fun j => ?_, fun is' his' => ?_⟩
  · by_cases hj : j = i
    · subst hj
      simp [hw, RWMutex.rUnlock]
    · have hnone := (h.writer j).not.mpr nofun
      simpa [Function.update_of_ne hj, RWMutex.rUnlock] using hnone
  · by_cases hj : j = i
    · subst hj
      simp [hr, RWMutex.rUnlock, hnodup.mem_erase_iff]
    · have hj' := h.reader j
      simpa [Function.update_of_ne hj, RWMutex.rUnlock, hnodup.mem_erase_iff, hj] using hj'
  · cases his'
    exact hnodup.erase i

omit [DecidableEq ι] in
/-- **Who writes is alone.** -/
theorem Guards.alone (h : Guards writes reads m pc) (hi : writes (pc i) = true) {j : ι} (hj : j ≠ i) :
    writes (pc j) = false ∧ reads (pc j) = false := by
  obtain rfl := (h.writer i).mp hi
  refine ⟨Bool.eq_false_iff.mpr fun hw => ?_, Bool.eq_false_iff.mpr fun hr => ?_⟩
  · obtain ⟨⟩ := (h.writer j).mp hw
    exact hj rfl
  · obtain ⟨is, his, -⟩ := (h.reader j).mp hr
    cases his

omit [DecidableEq ι] in
/-- While there are readers, or nobody, nobody writes. -/
theorem Guards.quiet {is : List ι} (h : Guards writes reads (.readers is) pc) (j : ι) : writes (pc j) = false :=
  Bool.eq_false_iff.mpr fun hw => by cases (h.writer j).mp hw

omit [DecidableEq ι] in
/-- Who reads keeps the writers out. -/
theorem Guards.no_writer (h : Guards writes reads m pc) (hi : reads (pc i) = true) (j : ι) : writes (pc j) = false := by
  obtain ⟨is, rfl, -⟩ := (h.reader i).mp hi
  exact h.quiet j

end RWMutex

end RetryEndpoint.Go
