import RetryEndpoint.Go.Bytes
import Mathlib.Data.Int.Log
import Mathlib.Data.Rat.Floor
import Mathlib.Tactic.Linarith
import Mathlib.Tactic.NormNum
import Mathlib.Tactic.Positivity

/-!
# Floating-point numbers

Go's `float64` in its normal range: an operation returns the exact result rounded to 53
significant bits, to the nearest and, between two, to the even one.

## The model

A number is a rational. `ulp` is the distance of the numbers with 53 bits around one, and
`float64` rounds to a multiple of it. Overflow and the numbers too small to be normal are left
out. A conversion to an integer drops the fraction; what comes of a number that does
not fit is up to the implementation, and `other` says what.

## What is proved

* `abs_float64_sub_le` — the relative error of an operation is at most `2 ^ -53`.
* `float64_intCast` — integers of up to 53 bits are exact.
-/

namespace RetryEndpoint.Go

/-- The nearest integer, and of two the even one. -/
def roundEven (y : ℚ) : ℤ :=
  let n := ⌊y⌋
  if y - n < 1 / 2 then n
  else if 1 / 2 < y - n then n + 1
  else if n % 2 = 0 then n else n + 1

theorem roundEven_intCast (n : ℤ) : roundEven n = n := by
  rw [roundEven, Int.floor_intCast, sub_self]
  exact if_pos (by norm_num)

theorem abs_roundEven_sub_le (y : ℚ) : |(roundEven y : ℚ) - y| ≤ 1 / 2 := by
  have hlo := Int.floor_le y
  have hhi := Int.lt_floor_add_one y
  rw [roundEven, abs_le]
  split_ifs
  · constructor <;> linarith
  · push_cast
    constructor <;> linarith
  · constructor <;> linarith
  · push_cast
    constructor <;> linarith

/-- The distance between the numbers with 53 significant bits around `x`. -/
def ulp (x : ℚ) : ℚ := 2 ^ (Int.log 2 |x| - 52)

/-- The result of an operation, rounded to a `float64`. -/
def float64 (x : ℚ) : ℚ := roundEven (x / ulp x) * ulp x

theorem ulp_pos (x : ℚ) : 0 < ulp x := zpow_pos (by norm_num) _

theorem ulp_eq (x : ℚ) : ulp x = 2 ^ Int.log 2 |x| / 2 ^ 52 := zpow_sub₀ two_ne_zero ..

theorem float64_of_exact {x : ℚ} {n : ℤ} (h : x = n * ulp x) : float64 x = x := by
  have hdiv : x / ulp x = n := (div_eq_iff (ulp_pos x).ne').mpr h
  rw [float64, hdiv, roundEven_intCast, ← h]

/-- **The relative error of a rounding.** -/
theorem abs_float64_sub_le (x : ℚ) : |float64 x - x| ≤ |x| / 2 ^ 53 := by
  rcases eq_or_ne x 0 with rfl | hx
  · rw [float64_of_exact (n := 0) (by simp)]
    simp
  · have hu := ulp_pos x
    have hlog : (2 : ℚ) ^ Int.log 2 |x| ≤ |x| := by
      exact_mod_cast Int.zpow_log_le_self (by decide) (abs_pos.mpr hx)
    have hdiff : float64 x - x = (roundEven (x / ulp x) - x / ulp x) * ulp x := by
      rw [float64, sub_mul, div_mul_cancel₀ _ hu.ne']
    calc |float64 x - x| = |(roundEven (x / ulp x) : ℚ) - x / ulp x| * ulp x := by rw [hdiff, abs_mul, abs_of_pos hu]
      _ ≤ 1 / 2 * ulp x := mul_le_mul_of_nonneg_right (abs_roundEven_sub_le _) hu.le
      _ = 2 ^ Int.log 2 |x| / 2 ^ 53 := by rw [ulp_eq]; ring
      _ ≤ |x| / 2 ^ 53 := div_le_div_of_nonneg_right hlog (by norm_num)

/-- Integers of up to 53 bits are exact. -/
theorem float64_intCast {n : ℤ} (h : |n| < 2 ^ 53) : float64 n = n := by
  rcases eq_or_ne n 0 with rfl | hn
  · exact float64_of_exact (n := 0) (by simp)
  · have hpos : 0 < |(n : ℚ)| := abs_pos.mpr (by exact_mod_cast hn)
    have hlog : Int.log 2 |(n : ℚ)| < 53 := by
      refine (Int.lt_zpow_iff_log_lt (by decide) hpos).mp ?_
      exact_mod_cast h
    obtain ⟨k, hk⟩ := Int.le.dest (show Int.log 2 |(n : ℚ)| ≤ 52 by omega)
    refine float64_of_exact (n := n * 2 ^ k) ?_
    have hsub : Int.log 2 |(n : ℚ)| - 52 = -k := by omega
    rw [ulp, hsub, zpow_neg, zpow_natCast]
    push_cast
    rw [mul_assoc, mul_inv_cancel₀ (by positivity), mul_one]

/-- A conversion to `uint16`. -/
def toUint16 (other : ℚ → UInt16) (x : ℚ) : UInt16 :=
  if -1 < x ∧ x < 65536 then UInt16.ofNat ⌊x⌋.toNat else other x

/-- What fits loses its fraction. -/
theorem toUint16_of_floor (other : ℚ → UInt16) {x : ℚ} {n : ℕ} (hn : n < 65536) (h : ⌊x⌋ = n) :
    (toUint16 other x).toNat = n := by
  have hlo : (n : ℚ) ≤ x := by exact_mod_cast (Int.le_floor.mp h.ge)
  have hhi : x < n + 1 := by exact_mod_cast (Int.floor_lt.mp (by omega : ⌊x⌋ < (n : ℤ) + 1))
  have hle : (n : ℚ) + 1 ≤ 65536 := by exact_mod_cast hn
  have hnn : (0 : ℚ) ≤ n := by positivity
  rw [toUint16, if_pos ⟨by linarith, by linarith⟩, h, Int.toNat_natCast, UInt16.toNat_ofNat', Nat.mod_eq_of_lt hn]

/-- A conversion to `int`, of 64 bits. -/
def toInt (other : ℚ → Int64) (x : ℚ) : ℤ :=
  if -9223372036854775809 < x ∧ x < 9223372036854775808 then if 0 ≤ x then ⌊x⌋ else ⌈x⌉ else (other x).toInt

theorem toInt_of_nonneg (other : ℚ → Int64) {x : ℚ} (h₀ : 0 ≤ x) (h : x < 2 ^ 63) : toInt other x = ⌊x⌋ := by
  rw [toInt, if_pos ⟨by linarith, by linarith⟩, if_pos h₀]

/-- What does not fit does not become larger than what does. -/
theorem toInt_lt (other : ℚ → Int64) {x : ℚ} (h : 2 ^ 63 ≤ x) : toInt other x < 2 ^ 63 := by
  rw [toInt, if_neg fun hx => by linarith [hx.2]]
  exact (other x).toInt_lt

/-! ### Seconds -/

/-- `time.Duration.Seconds`: the whole seconds and the fraction are divided out, converted and
added. -/
def seconds (d : Duration) : ℚ :=
  let sec := d.tdiv 1000000000
  let nsec := d.tmod 1000000000
  float64 (float64 sec + float64 (float64 nsec / 1000000000))

/-- The fraction is far enough from the next second for both roundings. -/
theorem floor_float64_add {s r : ℤ} (hs : 0 ≤ s) (hs' : s < 2 ^ 20) (hr : 0 < r) (hr' : r < 1000000000) :
    ⌊float64 (s + float64 (r / 1000000000))⌋ = s := by
  have hs₀ : (0 : ℚ) ≤ s := by exact_mod_cast hs
  have hs₁ : (s : ℚ) ≤ 2 ^ 20 := by exact_mod_cast hs'.le
  have hr₀ : (1 : ℚ) ≤ r := by exact_mod_cast hr
  have hr₁ : (r : ℚ) + 1 ≤ 1000000000 := by exact_mod_cast hr'
  have hfrac := abs_float64_sub_le (r / 1000000000)
  rw [abs_of_nonneg (by positivity : (0 : ℚ) ≤ r / 1000000000), abs_le] at hfrac
  obtain ⟨hlo, hhi⟩ := hfrac
  generalize float64 (r / 1000000000) = f at hlo hhi ⊢
  have hf : 0 ≤ f := by linarith
  have hsum := abs_float64_sub_le (s + f)
  rw [abs_of_nonneg (by linarith : (0 : ℚ) ≤ s + f), abs_le] at hsum
  obtain ⟨hlo', hhi'⟩ := hsum
  refine Int.floor_eq_iff.mpr ⟨?_, ?_⟩ <;> linarith

theorem floor_float64_sum {s r : ℤ} (hs : 0 ≤ s) (hs' : s < 2 ^ 20) (hr : 0 ≤ r) (hr' : r < 1000000000) :
    ⌊float64 (float64 s + float64 (float64 r / 1000000000))⌋ = s := by
  have hexact : float64 s = s := float64_intCast (by rw [abs_of_nonneg hs]; omega)
  have hexact' : float64 r = r := float64_intCast (by rw [abs_of_nonneg hr]; omega)
  rw [hexact, hexact']
  rcases hr.eq_or_lt with rfl | hpos
  · have hzero : float64 ((0 : ℤ) / 1000000000) = 0 := by
      rw [Int.cast_zero, zero_div]
      exact_mod_cast float64_intCast (n := 0) (by decide)
    rw [hzero, add_zero, hexact, Int.floor_intCast]
  · exact floor_float64_add hs hs' hpos hr'

/-- **The whole seconds survive the roundings.** -/
theorem floor_seconds {d : ℤ} (hd : 0 ≤ d) (hd' : d / 1000000000 < 2 ^ 20) : ⌊seconds d⌋ = d / 1000000000 := by
  have hsec : d.tdiv 1000000000 = d / 1000000000 := Int.tdiv_eq_ediv_of_nonneg hd
  have hnsec : d.tmod 1000000000 = d % 1000000000 := Int.tmod_eq_emod_of_nonneg hd
  rw [seconds, hsec, hnsec]
  exact floor_float64_sum (Int.ediv_nonneg hd (by decide)) hd' (Int.emod_nonneg d (by decide))
    (Int.emod_lt_of_pos d (by decide))

end RetryEndpoint.Go
