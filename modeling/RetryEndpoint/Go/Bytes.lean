import Mathlib.Algebra.Order.Ring.Nat
import Mathlib.Data.List.Basic
import Mathlib.Tactic.Ring

/-!
# Byte strings

Go's `[]byte` and `string` values, as lists of bytes, and the fixed-width
big-endian numbers that `encoding/binary` reads from them and writes to them.

## The model

A byte string is a `Bytes`; `slice b i j` is Go's `b[i:j]`. `beNat` is the number
that a byte string spells in base 256, most significant byte first, and `beBytes k`
spells a number in `k` bytes; `uint16`, `uint32`, `uint64` and the `putUint`s are
these at the widths of Go's types.

## What is proved

* `beNat_beBytes` — spelling a number in `k` bytes and reading it back gives the
  number modulo `256 ^ k`, so `uint64_putUint64` is the identity.
* `uint64_inj` — eight bytes are determined by the number they spell.
* `putUint64_append_inj` — two keys made of two 64-bit numbers are equal only when
  the numbers are.
-/

namespace RetryEndpoint.Go

/-- A Go `[]byte` or `string`. -/
abbrev Bytes := List UInt8

/-- An instant of Go's clock, in nanoseconds. -/
abbrev Time := ℤ

/-- A Go `time.Duration`, in nanoseconds. -/
abbrev Duration := ℤ

/-- The bytes of a text made of ASCII characters. -/
def ascii (cs : List Char) : Bytes := cs.map fun c => UInt8.ofNat c.toNat

/-- Texts made of digits are equal when their bytes are. -/
theorem ascii_digits_inj {cs ds : List Char} (hc : ∀ c ∈ cs, c.isDigit) (hd : ∀ c ∈ ds, c.isDigit)
    (h : ascii cs = ascii ds) : cs = ds := by
  have hbyte : ∀ {c d : Char}, c.isDigit → d.isDigit → UInt8.ofNat c.toNat = UInt8.ofNat d.toNat → c = d := by
    intro c d hc hd hcd
    have hn := congrArg UInt8.toNat hcd
    have hlt : ∀ {c : Char}, c.isDigit → c.toNat < 256 := fun hc =>
      (Char.isDigit_iff_toNat.mp hc).2.trans_lt (by decide)
    rw [UInt8.toNat_ofNat', UInt8.toNat_ofNat', Nat.mod_eq_of_lt (hlt hc), Nat.mod_eq_of_lt (hlt hd)] at hn
    exact Char.toNat_inj.mp hn
  induction cs generalizing ds with
  | nil => exact (List.map_eq_nil_iff.mp h.symm).symm
  | cons c cs ih =>
    obtain - | ⟨d, ds⟩ := ds
    · cases h
    · obtain ⟨hcd, hrest⟩ := List.cons.inj h
      rw [hbyte (hc c (by simp)) (hd d (by simp)) hcd,
        ih (fun x hx => hc x (List.mem_cons_of_mem _ hx)) (fun x hx => hd x (List.mem_cons_of_mem _ hx)) hrest]

/-- `[]byte(s)`, the bytes of a string. -/
def bytesOf (s : String) : Bytes := s.toByteArray.data.toList

/-- `b[i:j]`. -/
def slice (b : Bytes) (i j : ℕ) : Bytes := (b.drop i).take (j - i)

theorem length_slice {b : Bytes} {i j : ℕ} (hij : i ≤ j) (hj : j ≤ b.length) :
    (slice b i j).length = j - i := by
  simp only [slice, List.length_take, List.length_drop]
  omega

theorem slice_append_right {a : Bytes} {i : ℕ} (h : a.length ≤ i) (b : Bytes) (j : ℕ) :
    slice (a ++ b) i j = slice b (i - a.length) (j - a.length) := by
  have hdrop : (a ++ b).drop i = b.drop (i - a.length) := by
    rw [List.drop_append, List.drop_eq_nil_of_le h, List.nil_append]
  rw [slice, slice, hdrop, Nat.sub_sub_sub_cancel_right h]

theorem slice_append_middle (a b c : Bytes) : slice (a ++ b ++ c) a.length (a.length + b.length) = b := by
  rw [slice, List.append_assoc, List.drop_left, Nat.add_sub_cancel_left, List.take_left]

/-- The 16-byte form of an IP address, `v4InV6Prefix` in front of an IPv4 address. -/
def ip16 (ip : Bytes) : Bytes := if ip.length = 4 then List.replicate 10 0 ++ [0xff, 0xff] ++ ip else ip

/-! ### Big-endian numbers -/

/-- The number a byte string spells, most significant byte first. -/
def beNat : Bytes → ℕ
  | [] => 0
  | x :: b => x.toNat * 256 ^ b.length + beNat b

/-- The `k` bytes that spell `n`, most significant byte first: Go's
`byte(n >> 8*(k-1)), …, byte(n)`. What does not fit is dropped. -/
def beBytes : ℕ → ℕ → Bytes
  | 0, _ => []
  | k + 1, n => UInt8.ofNat (n / 256 ^ k) :: beBytes k n

@[simp] theorem length_beBytes (k n : ℕ) : (beBytes k n).length = k := by
  induction k with
  | zero => rfl
  | succ k ih => rw [beBytes, List.length_cons, ih]

/-- What was spelled in `k` bytes is read back modulo `256 ^ k`. -/
theorem beNat_beBytes (k n : ℕ) : beNat (beBytes k n) = n % 256 ^ k := by
  induction k with
  | zero => rw [beBytes, beNat, pow_zero, Nat.mod_one]
  | succ k ih =>
    have hx : (UInt8.ofNat (n / 256 ^ k)).toNat = n / 256 ^ k % 256 := UInt8.toNat_ofNat'
    rw [beBytes, beNat, ih, length_beBytes, hx, pow_succ, Nat.mod_mul]
    ring

theorem beNat_lt (b : Bytes) : beNat b < 256 ^ b.length := by
  induction b with
  | nil => simp [beNat]
  | cons x b ih =>
    have hx : (x.toNat + 1) * 256 ^ b.length ≤ 256 * 256 ^ b.length := Nat.mul_le_mul_right _ x.toNat_lt
    rw [beNat, List.length_cons, pow_succ, Nat.mul_comm _ 256]
    rw [Nat.add_mul, Nat.one_mul] at hx
    omega

/-- The first byte and the rest are the quotient and the remainder. -/
theorem beNat_cons_div_mod (x : UInt8) (b : Bytes) :
    beNat (x :: b) / 256 ^ b.length = x.toNat ∧ beNat (x :: b) % 256 ^ b.length = beNat b :=
  (Nat.div_mod_unique (Nat.pow_pos (by decide))).mpr ⟨by rw [beNat]; ring, beNat_lt b⟩

/-- Byte strings of one length that spell the same number are the same. -/
theorem beNat_inj {a b : Bytes} (hl : a.length = b.length) (h : beNat a = beNat b) : a = b := by
  induction a generalizing b with
  | nil => exact (List.length_eq_zero_iff.mp hl.symm).symm
  | cons x a ih =>
    obtain - | ⟨y, b⟩ := b
    · cases hl
    · have hl' : a.length = b.length := Nat.succ_inj.mp hl
      obtain ⟨hx, ha⟩ := beNat_cons_div_mod x a
      obtain ⟨hy, hb⟩ := beNat_cons_div_mod y b
      rw [h, hl'] at hx ha
      rw [UInt8.toNat_inj.mp (hx.symm.trans hy), ih hl' (ha.symm.trans hb)]

/-- `binary.BigEndian.Uint16`, of a slice of two bytes. -/
def uint16 (b : Bytes) : UInt16 := UInt16.ofNat (beNat b)

/-- `binary.BigEndian.Uint32`, of a slice of four bytes. -/
def uint32 (b : Bytes) : UInt32 := UInt32.ofNat (beNat b)

/-- `binary.BigEndian.Uint64`, of a slice of eight bytes. -/
def uint64 (b : Bytes) : UInt64 := UInt64.ofNat (beNat b)

/-- `binary.BigEndian.PutUint16`. -/
def putUint16 (v : UInt16) : Bytes := beBytes 2 v.toNat

/-- `binary.BigEndian.PutUint32`. -/
def putUint32 (v : UInt32) : Bytes := beBytes 4 v.toNat

/-- `binary.BigEndian.PutUint64`. -/
def putUint64 (v : UInt64) : Bytes := beBytes 8 v.toNat

@[simp] theorem length_putUint64 (v : UInt64) : (putUint64 v).length = 8 := length_beBytes 8 _

theorem uint16_putUint16 (v : UInt16) : uint16 (putUint16 v) = v := by
  have hv : v.toNat % 256 ^ 2 = v.toNat := Nat.mod_eq_of_lt v.toNat_lt
  rw [uint16, putUint16, beNat_beBytes, hv, UInt16.ofNat_toNat]

theorem uint32_putUint32 (v : UInt32) : uint32 (putUint32 v) = v := by
  have hv : v.toNat % 256 ^ 4 = v.toNat := Nat.mod_eq_of_lt v.toNat_lt
  rw [uint32, putUint32, beNat_beBytes, hv, UInt32.ofNat_toNat]

theorem uint64_putUint64 (v : UInt64) : uint64 (putUint64 v) = v := by
  have hv : v.toNat % 256 ^ 8 = v.toNat := Nat.mod_eq_of_lt v.toNat_lt
  rw [uint64, putUint64, beNat_beBytes, hv, UInt64.ofNat_toNat]

theorem putUint16_inj {v w : UInt16} (h : putUint16 v = putUint16 w) : v = w := by
  rw [← uint16_putUint16 v, ← uint16_putUint16 w, h]

theorem uint64_inj {a b : Bytes} (ha : a.length = 8) (hb : b.length = 8) (h : uint64 a = uint64 b) : a = b := by
  have hn := congrArg UInt64.toNat h
  have hla := beNat_lt a
  have hlb := beNat_lt b
  rw [ha, show 256 ^ 8 = 2 ^ 64 by norm_num] at hla
  rw [hb, show 256 ^ 8 = 2 ^ 64 by norm_num] at hlb
  rw [uint64, uint64, UInt64.toNat_ofNat', UInt64.toNat_ofNat', Nat.mod_eq_of_lt hla, Nat.mod_eq_of_lt hlb] at hn
  exact beNat_inj (ha.trans hb.symm) hn

theorem putUint64_inj {v w : UInt64} (h : putUint64 v = putUint64 w) : v = w := by
  rw [← uint64_putUint64 v, ← uint64_putUint64 w, h]

/-- A 16-byte key made of two numbers determines both. -/
theorem putUint64_append_inj {a b c d : UInt64} (h : putUint64 a ++ putUint64 b = putUint64 c ++ putUint64 d) :
    a = c ∧ b = d := by
  obtain ⟨h₁, h₂⟩ := List.append_inj h (by simp)
  exact ⟨putUint64_inj h₁, putUint64_inj h₂⟩

end RetryEndpoint.Go
