import RetryEndpoint.Go.Bytes
import Mathlib.Data.List.GetD
import Mathlib.Logic.Function.Basic

/-!
# Buffers and slices

A Go `[]byte` is not the bytes themselves but a view of a backing array: two
slices of one array see each other's writes. This module keeps the arrays in a
heap, so that a program that stores a slice and one that stores a copy differ.

## The model

A `Heap` holds the backing arrays by address and the next free address. A `Slice`
is an address and a length; all slices here start at the first byte of their
array, as `buf[:n]` does. `make` allocates, `fill` copies bytes over the front of a
slice (`copy`, and a socket read into a buffer), and `read` gives the bytes that a
slice shows *now*.

## What is proved

* `read_fill_of_ne`, `read_make` — a write to one array, or a new array, does not
  show in slices of another.
* `read_fill_upTo`, `read_fill` — bytes that were read into a buffer are what `buf[:n]`
  shows, as many as fit.
* `read_eq_iff` — what a slice must hold to show given bytes.
-/

namespace RetryEndpoint.Go

/-- The backing arrays, by address. -/
structure Heap where
  /-- The next free address. -/
  next : ℕ
  /-- The bytes of the array at an address. -/
  byte : ℕ → ℕ → UInt8

/-- A slice from the start of a backing array. -/
structure Slice where
  /-- The address of the array. -/
  addr : ℕ
  /-- The length. -/
  len : ℕ
  deriving DecidableEq

/-- The heap of a program that has allocated nothing. -/
def Heap.empty : Heap := ⟨0, fun _ _ => 0⟩

/-- `make([]byte, n)`. -/
def Heap.make (h : Heap) (n : ℕ) : Heap × Slice :=
  (⟨h.next + 1, Function.update h.byte h.next fun _ => 0⟩, ⟨h.next, n⟩)

/-- `s[:n]`. -/
def Slice.upTo (s : Slice) (n : ℕ) : Slice := ⟨s.addr, n⟩

/-- `copy(s, d)`, and a read of `d` into `s`: as many bytes as fit are written over
the front of the array, and their number is returned. -/
def Heap.fill (h : Heap) (s : Slice) (d : Bytes) : Heap × ℕ :=
  let n := min d.length s.len
  (⟨h.next, Function.update h.byte s.addr fun i => (d.take n).getD i (h.byte s.addr i)⟩, n)

/-- The bytes a slice shows. -/
def Heap.read (h : Heap) (s : Slice) : Bytes := (List.range s.len).map (h.byte s.addr)

@[simp] theorem Slice.upTo_addr (s : Slice) (n : ℕ) : (s.upTo n).addr = s.addr := rfl

@[simp] theorem Slice.upTo_len (s : Slice) (n : ℕ) : (s.upTo n).len = n := rfl

@[simp] theorem Heap.fill_count (h : Heap) (s : Slice) (d : Bytes) : (h.fill s d).2 = min d.length s.len := rfl

/-- The bytes a read into a large enough slice leaves in its array. -/
theorem Heap.fill_byte_self (h : Heap) {s : Slice} {d : Bytes} (hd : d.length ≤ s.len) (i : ℕ) :
    (h.fill s d).1.byte s.addr i = d.getD i (h.byte s.addr i) := by
  simp only [Heap.fill, Function.update_self, Nat.min_eq_left hd, List.take_length]

/-- A write to one array does not show in another's slices. -/
theorem Heap.read_fill_of_ne (h : Heap) {s v : Slice} (d : Bytes) (hv : v.addr ≠ s.addr) :
    (h.fill s d).1.read v = h.read v := by
  simp only [Heap.read, Heap.fill, Function.update_of_ne hv]

/-- A new array does not show in the slices that exist. -/
theorem Heap.read_make (h : Heap) (n : ℕ) {v : Slice} (hv : v.addr < h.next) :
    (h.make n).1.read v = h.read v := by
  simp only [Heap.read, Heap.make, Function.update_of_ne hv.ne]

/-- What a slice's array must hold for the slice to show `d`. -/
theorem Heap.read_eq_iff (h : Heap) (s : Slice) (d : Bytes) :
    h.read s = d ↔ s.len = d.length ∧ ∀ i, i < d.length → d[i]? = some (h.byte s.addr i) := by
  constructor
  · rintro rfl
    refine ⟨by simp [Heap.read], fun i hi => ?_⟩
    have hi' : i < s.len := by simpa [Heap.read] using hi
    simp [Heap.read, hi']
  · rintro ⟨hl, hb⟩
    refine List.ext_getElem? fun i => ?_
    by_cases hi : i < d.length
    · rw [hb i hi]
      simp [Heap.read, hl, hi]
    · rw [List.getElem?_eq_none (Nat.le_of_not_lt hi), List.getElem?_eq_none]
      simpa [Heap.read, hl] using hi

/-- After a read of `d` into `s`, the front of `s` shows `d`. -/
theorem Heap.read_fill_upTo (h : Heap) {s : Slice} {d : Bytes} (hd : d.length ≤ s.len) :
    (h.fill s d).1.read (s.upTo d.length) = d := by
  rw [Heap.read_eq_iff]
  refine ⟨rfl, fun i hi => ?_⟩
  rw [Slice.upTo_addr, Heap.fill_byte_self h hd, List.getD_eq_getElem _ _ hi, List.getElem?_eq_getElem hi]

/-- A read of `d` into `s` keeps what fits of `d`. -/
theorem Heap.read_fill (h : Heap) (s : Slice) (d : Bytes) :
    (h.fill s d).1.read (s.upTo (h.fill s d).2) = d.take s.len := by
  have hfill : h.fill s d = h.fill s (d.take s.len) := by
    have hm : min d.length s.len = min (d.take s.len).length s.len := by
      rw [List.length_take]
      omega
    have ht : d.take (min d.length s.len) = (d.take s.len).take (min d.length s.len) := by
      rw [List.take_take, Nat.min_eq_left (Nat.min_le_right ..)]
    simp only [Heap.fill, ← hm, ht]
  have hle : (d.take s.len).length ≤ s.len := by
    rw [List.length_take]
    omega
  rw [hfill, Heap.fill_count, Nat.min_eq_left hle]
  exact h.read_fill_upTo hle

/-- What is copied to a new array is there, and does not depend on where it came from. -/
theorem Heap.read_fill_make (h : Heap) {n : ℕ} {d : Bytes} (hd : d.length = n) :
    ((h.make n).1.fill (h.make n).2 d).1.read (h.make n).2 = d := by
  have hr := (h.make n).1.read_fill_upTo (s := (h.make n).2) (d := d) hd.le
  rwa [hd] at hr

end RetryEndpoint.Go
