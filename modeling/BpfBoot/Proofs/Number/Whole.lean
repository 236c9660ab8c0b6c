import BpfBoot.Number.Binary64
import Mathlib.Data.Rat.Cast.Order
import Mathlib.Algebra.Order.Field.Power
import Mathlib.Tactic.FieldSimp
import Mathlib.Tactic.NormNum
import Mathlib.Tactic.Ring

/-!
# Whole numbers in binary

A whole number of at most 53 bits is a floating point number itself, so a decimal fraction that stands for
one is rounded to it exactly, however it is written. The exponent among whose multiples a fraction is rounded
is then at most zero, and whole numbers are multiples of every such power of two.
-/

namespace BpfBoot.Number

namespace Fraction

def value (q : Fraction) : ℚ :=
  q.num / q.den

theorem den_scale_pos {q : Fraction} (hq : 0 < q.den) {base : Nat} (hbase : 0 < base) (e : Int) :
    0 < (q.scale base e).den := by
  cases e with
  | ofNat k => exact hq
  | negSucc k => exact Nat.mul_pos hq (Nat.pow_pos hbase)

theorem value_scale (q : Fraction) (base : Nat) (e : Int) :
    (q.scale base e).value = q.value * (base : ℚ) ^ e := by
  cases e with
  | ofNat k =>
    change ((q.num * base ^ k : ℕ) : ℚ) / q.den = q.num / q.den * (base : ℚ) ^ (k : ℤ)
    rw [zpow_natCast]
    push_cast
    ring
  | negSucc k =>
    change (q.num : ℚ) / (q.den * base ^ (k + 1) : ℕ) = q.num / q.den * (base : ℚ) ^ Int.negSucc k
    rw [zpow_negSucc]
    push_cast
    rw [div_mul_eq_div_div, div_eq_mul_inv _ ((base : ℚ) ^ (k + 1))]

theorem num_eq_of_value {q : Fraction} {n : Nat} (hq : 0 < q.den) (h : q.value = n) :
    q.num = n * q.den := by
  have hden : (q.den : ℚ) ≠ 0 := by exact_mod_cast hq.ne'
  rw [value, div_eq_iff hden] at h
  exact_mod_cast h

theorem roundHalfEven_of_value {q : Fraction} {n : Nat} (hq : 0 < q.den) (h : q.value = n) :
    q.roundHalfEven = n := by
  have hnum := num_eq_of_value hq h
  have hfloor : q.num / q.den = n := by rw [hnum, Nat.mul_div_cancel n hq]
  have hrest : q.num % q.den = 0 := by rw [hnum, Nat.mul_mod_left]
  have hne : (0 == q.den) = false := by simpa using hq.ne
  simp [roundHalfEven, hfloor, hrest, hne]

theorem roundHalfUp_of_value {q : Fraction} {n : Nat} (hq : 0 < q.den) (h : q.value = n) :
    q.roundHalfUp = n := by
  have hnum := num_eq_of_value hq h
  have hsum : 2 * q.num + q.den = q.den + n * (2 * q.den) := by
    rw [hnum]
    ring
  rw [roundHalfUp, hsum, Nat.add_mul_div_right _ _ (by omega), Nat.div_eq_of_lt (by omega), Nat.zero_add]

end Fraction

namespace Binary64

open Fraction

/-- The floating point number is a natural number. Zero may have a sign. -/
inductive IsWhole (n : Nat) : Binary64 → Prop where
  | finite {negative : Bool} {m : Nat} {e : Int} (hsign : negative = true → n = 0)
      (hvalue : (m : ℚ) * 2 ^ e = n) : IsWhole n (.finite negative m e)

theorem IsWhole.isFinite {n : Nat} {x : Binary64} (h : IsWhole n x) : x.isFinite = true := by
  cases h with
  | finite => rfl

theorem isWhole_zero (negative : Bool) (e : Int) : IsWhole 0 (.finite negative 0 e) :=
  .finite (fun _ => rfl) (by simp)

theorem IsWhole.clamp {n limit : Nat} {x : Binary64} (h : IsWhole n x) (hn : n ≤ limit) :
    x.clamp limit = n := by
  cases h with
  | @finite negative m e hsign hvalue =>
    cases negative with
    | true => exact (hsign rfl).symm
    | false =>
      have hscaled : (Fraction.scale ⟨m, 1⟩ 2 e).value = n := by
        rw [value_scale, ← hvalue]
        simp [value]
      change min limit (Fraction.scale ⟨m, 1⟩ 2 e).roundHalfUp = n
      rw [roundHalfUp_of_value (den_scale_pos Nat.one_pos Nat.two_pos e) hscaled, Nat.min_eq_right hn]

theorem log2_num_le {q : Fraction} {n : Nat} (hq : 0 < q.den) (hn : n < 2 ^ 53)
    (hnum : q.num = n * q.den) (hpos : q.num ≠ 0) : q.num.log2 ≤ 53 + q.den.log2 := by
  have hden : q.den < 2 ^ (q.den.log2 + 1) := Nat.lt_log2_self
  have hlt : q.num < 2 ^ (53 + q.den.log2 + 1) := by
    calc q.num = n * q.den := hnum
      _ < 2 ^ 53 * q.den := Nat.mul_lt_mul_of_pos_right hn hq
      _ ≤ 2 ^ 53 * 2 ^ (q.den.log2 + 1) := Nat.mul_le_mul_left _ hden.le
      _ = 2 ^ (53 + q.den.log2 + 1) := by ring
  exact Nat.le_of_lt_succ ((Nat.log2_lt hpos).mpr hlt)

/-- Whole numbers of 53 bits are rounded among fractions that contain them all. -/
theorem exponentFor_le_zero {q : Fraction} {n : Nat} (hq : 0 < q.den) (hn : n < 2 ^ 53)
    (hnum : q.num = n * q.den) (hpos : q.num ≠ 0) : exponentFor q ≤ 0 := by
  have hlog := log2_num_le hq hn hnum hpos
  have hmin : minExponent ≤ 0 := by decide
  unfold exponentFor
  generalize hguess : Int.ofNat q.num.log2 - Int.ofNat q.den.log2 - 52 = guess
  have hle : guess ≤ 1 := by
    rw [← hguess]
    simp only [Int.ofNat_eq_natCast]
    omega
  by_cases hone : guess = 1
  · -- The guess is one too high only for a quotient that has 53 bits already.
    subst hone
    have hscaled : (q.scale 2 (-1)).num < (q.scale 2 (-1)).den * leastFullMantissa := by
      change q.num < q.den * 2 ^ 1 * leastFullMantissa
      have hbound : n * q.den < 2 ^ 53 * q.den := Nat.mul_lt_mul_of_pos_right hn hq
      rw [hnum, leastFullMantissa]
      omega
    simp only [if_pos hscaled]
    omega
  · dsimp only
    split <;> omega

theorem isWhole_ofFraction {q : Fraction} {n : Nat} (hq : 0 < q.den) (hn : n < 2 ^ 53) (hpos : n ≠ 0)
    (h : q.value = n) : IsWhole n (ofFraction false q) := by
  have hnum := num_eq_of_value hq h
  have hnonzero : q.num ≠ 0 := by
    rw [hnum]
    exact Nat.mul_ne_zero hpos hq.ne'
  have hexponent := exponentFor_le_zero hq hn hnum hnonzero
  rw [ofFraction, if_neg hnonzero]
  generalize exponentFor q = e at hexponent
  obtain ⟨k, rfl⟩ : ∃ k : Nat, e = -(k : Int) := ⟨e.natAbs, by omega⟩
  have hscaled : (q.scale 2 (- -(k : Int))).value = (n * 2 ^ k : ℕ) := by
    rw [value_scale, h, neg_neg, zpow_natCast]
    push_cast
    ring
  have hrounded := roundHalfEven_of_value (den_scale_pos hq Nat.two_pos _) hscaled
  have hback : ((n * 2 ^ k : ℕ) : ℚ) * 2 ^ (-(k : Int)) = n := by
    rw [zpow_neg, zpow_natCast]
    push_cast
    field_simp
  simp only [hrounded]
  by_cases hfull : n * 2 ^ k = mantissaBound
  · have hbelow : ¬ maxExponent < -(k : Int) + 1 := by
      rw [maxExponent]
      omega
    rw [if_pos hfull]
    simp only [if_neg hbelow]
    refine .finite nofun ?_
    rw [← hback, hfull, zpow_add₀ (by norm_num)]
    simp only [leastFullMantissa, mantissaBound]
    push_cast
    ring
  · have hbelow : ¬ maxExponent < -(k : Int) := by
      rw [maxExponent]
      omega
    rw [if_neg hfull]
    simp only [if_neg hbelow]
    exact .finite nofun hback

/-- The number of digits of a number tells its size. -/
theorem between_powers_of_digits {m : Nat} (hm : m ≠ 0) :
    10 ^ ((Nat.toDigits 10 m).length - 1) ≤ m ∧ m < 10 ^ (Nat.toDigits 10 m).length := by
  have hdigits : 0 < (Nat.toDigits 10 m).length := List.length_pos_iff.mpr Nat.toDigits_ne_nil
  refine ⟨?_, (Nat.length_toDigits_le_iff (by decide) hdigits).mp le_rfl⟩
  rcases Nat.lt_or_ge 1 (Nat.toDigits 10 m).length with hmany | hone
  · by_contra hsmall
    have := (Nat.length_toDigits_le_iff (b := 10) (by decide) (Nat.sub_pos_of_lt hmany)).mpr
      (Nat.not_le.mp hsmall)
    omega
  · rw [Nat.sub_eq_zero_of_le hone]
    exact Nat.one_le_iff_ne_zero.mpr hm

/-- A decimal fraction that stands for a small number above zero has few digits before its point. -/
theorem places_of_value {m n : Nat} {k : Int} (hn : n < 2 ^ 53) (hpos : n ≠ 0) (hm : m ≠ 0)
    (hvalue : (m : ℚ) * 10 ^ k = n) :
    0 < ((Nat.toDigits 10 m).length : Int) + k ∧ ((Nat.toDigits 10 m).length : Int) + k ≤ 16 := by
  have hdigits : 0 < (Nat.toDigits 10 m).length := List.length_pos_iff.mpr Nat.toDigits_ne_nil
  obtain ⟨hlow, hhigh⟩ := between_powers_of_digits hm
  generalize (Nat.toDigits 10 m).length = digits at *
  have hscale : (0 : ℚ) < 10 ^ k := by positivity
  constructor
  · have hone : (10 : ℚ) ^ (0 : Int) < 10 ^ ((digits : Int) + k) := by
      calc (10 : ℚ) ^ (0 : Int) = 1 := zpow_zero _
        _ ≤ n := by exact_mod_cast Nat.one_le_iff_ne_zero.mpr hpos
        _ = m * 10 ^ k := hvalue.symm
        _ < 10 ^ digits * 10 ^ k := by gcongr; exact_mod_cast hhigh
        _ = 10 ^ ((digits : Int) + k) := by rw [zpow_add₀ (by norm_num), zpow_natCast]
    exact (zpow_lt_zpow_iff_right₀ (by norm_num)).mp hone
  · have hbound : (10 : ℚ) ^ ((digits - 1 : Nat) + k : Int) < 10 ^ (16 : Int) := by
      calc (10 : ℚ) ^ ((digits - 1 : Nat) + k : Int) = 10 ^ (digits - 1) * 10 ^ k := by
            rw [zpow_add₀ (by norm_num), zpow_natCast]
        _ ≤ m * 10 ^ k := by gcongr; exact_mod_cast hlow
        _ = n := hvalue
        _ < 2 ^ 53 := by exact_mod_cast hn
        _ < 10 ^ (16 : Int) := by norm_num
    have := (zpow_lt_zpow_iff_right₀ (by norm_num)).mp hbound
    omega

/-- A decimal fraction that stands for a whole number of 53 bits is read as that number. -/
theorem isWhole_ofDecimal {negative : Bool} {m n : Nat} {k : Int} (hn : n < 2 ^ 53)
    (hsign : negative = true → n = 0) (hvalue : (m : ℚ) * 10 ^ k = n) :
    IsWhole n (ofDecimal negative m k) := by
  rcases Nat.eq_zero_or_pos m with rfl | hm
  · obtain rfl : n = 0 := by simpa [eq_comm] using hvalue
    exact isWhole_zero negative minExponent
  · have hpos : n ≠ 0 := by
      rintro rfl
      have hnonzero : (m : ℚ) * 10 ^ k ≠ 0 :=
        mul_ne_zero (by exact_mod_cast hm.ne') (zpow_ne_zero k (by norm_num))
      exact hnonzero (by simpa using hvalue)
    obtain rfl : negative = false := by simpa using mt hsign hpos
    obtain ⟨hlow, hhigh⟩ := places_of_value hn hpos hm.ne' hvalue
    have hmany : ¬ manyDigits < Int.ofNat (Nat.toDigits 10 m).length + k := by
      rw [manyDigits, Int.ofNat_eq_natCast]
      omega
    have hfew : ¬ Int.ofNat (Nat.toDigits 10 m).length + k < -manyDigits := by
      rw [manyDigits, Int.ofNat_eq_natCast]
      omega
    rw [ofDecimal]
    simp only [if_neg hm.ne', if_neg hmany, if_neg hfew]
    refine isWhole_ofFraction (den_scale_pos Nat.one_pos (by decide) k) hn hpos ?_
    rw [value_scale, ← hvalue]
    simp [value]

end Binary64

end BpfBoot.Number
