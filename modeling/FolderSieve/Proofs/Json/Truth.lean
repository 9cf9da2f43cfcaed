import FolderSieve.Json.Value
import Mathlib.Data.Rat.Cast.Order
import Mathlib.Tactic.FieldSimp
import Mathlib.Tactic.Linarith
import Mathlib.Tactic.NormNum
import Mathlib.Tactic.Positivity
import Mathlib.Tactic.Ring

/-!
# JSON — values that count as true or false

A number counts as true if it is one, and as false if it is zero.  A number with a fraction or an
exponent is rounded first, to the nearest of the numbers that binary64 can hold (`Double`); where two
are as near as each other the one with the even significand is taken, and zero and one have such a
significand.

* `Real.nearest_zero_iff`, `Real.nearest_one_iff`: which numbers are as near to zero, or to one, as to
  any double.
* `Real.isZero_finite_iff`, `Real.isOne_finite_iff`: these are what is asked of a real.
* `Value.isTruth_iff`: which values count as the given truth value.
-/

namespace FolderSieve.Json

namespace Real

/-! ### The nearest double -/

/-- A number that binary64 can hold: a significand of 53 bits times a power of two. -/
def Double (y : ℚ) : Prop :=
  ∃ m k : ℤ, |m| < 2 ^ 53 ∧ -1074 ≤ k ∧ k ≤ 971 ∧ y = m * (2 : ℚ) ^ k

/-- No double is nearer to `x` than `y`. -/
def Nearest (x y : ℚ) : Prop :=
  Double y ∧ ∀ z, Double z → |x - y| ≤ |x - z|

/-- A multiple of a power of two is one of each lesser power. -/
theorem exists_mul_zpow {j k : ℤ} (h : j ≤ k) (m : ℤ) :
    ∃ n : ℤ, (m : ℚ) * 2 ^ k = n * 2 ^ j := by
  obtain ⟨i, rfl⟩ := Int.le.dest h
  refine ⟨m * 2 ^ i, ?_⟩
  rw [zpow_add₀ two_ne_zero, zpow_natCast, Int.cast_mul, Int.cast_pow, Int.cast_ofNat]
  ring

/-- The least positive double. -/
def least : ℚ :=
  (2 : ℚ) ^ (-1074 : ℤ)

theorem least_pos : 0 < least :=
  zpow_pos two_pos _

theorem double_zero : Double 0 :=
  ⟨0, 0, by norm_num, by norm_num, by norm_num, by norm_num⟩

theorem double_one : Double 1 :=
  ⟨1, 0, by norm_num, by norm_num, by norm_num, by norm_num⟩

theorem double_least : Double least :=
  ⟨1, -1074, by norm_num, le_refl _, by norm_num, by rw [Int.cast_one, one_mul, least]⟩

/-- The double below one. -/
theorem double_below_one : Double (1 - 1 / 2 ^ 53) :=
  ⟨2 ^ 53 - 1, -53, by norm_num, by norm_num, by norm_num, by norm_num⟩

/-- The double above one. -/
theorem double_above_one : Double (1 + 1 / 2 ^ 52) :=
  ⟨2 ^ 52 + 1, -52, by norm_num, by norm_num, by norm_num, by norm_num⟩

theorem Double.neg {y : ℚ} (h : Double y) : Double (-y) := by
  obtain ⟨m, k, hm, hk, hk', rfl⟩ := h
  exact ⟨-m, k, by rwa [abs_neg], hk, hk', by rw [Int.cast_neg, neg_mul]⟩

/-- The doubles are whole multiples of the least one. -/
theorem exists_mul_least {z : ℚ} (hz : Double z) : ∃ n : ℤ, z = n * least := by
  obtain ⟨m, k, -, hk, -, rfl⟩ := hz
  exact exists_mul_zpow hk m

theorem least_le_abs {z : ℚ} (hz : Double z) (h : z ≠ 0) : least ≤ |z| := by
  obtain ⟨n, rfl⟩ := exists_mul_least hz
  have hn : n ≠ 0 := by
    rintro rfl
    exact h (by rw [Int.cast_zero, zero_mul])
  have hone : (1 : ℚ) ≤ |(n : ℚ)| := by exact_mod_cast Int.one_le_abs hn
  calc least = 1 * least := (one_mul _).symm
    _ ≤ |(n : ℚ)| * least := mul_le_mul_of_nonneg_right hone least_pos.le
    _ = |n * least| := by rw [abs_mul, abs_of_pos least_pos]

/-- **Near to zero** is what is at most half of the least double away. -/
theorem nearest_zero_iff {x : ℚ} : Nearest x 0 ↔ |x| ≤ least / 2 := by
  have hpos := least_pos
  constructor
  · rintro ⟨-, h⟩
    have hright := h least double_least
    have hleft := h (-least) double_least.neg
    rw [sub_zero] at hright hleft
    rw [sub_neg_eq_add] at hleft
    rcases le_total 0 x with hx | hx
    · rw [abs_of_nonneg hx] at hright ⊢
      rcases le_total x least with hl | hl
      · rw [abs_of_nonpos (by linarith)] at hright
        linarith
      · rw [abs_of_nonneg (by linarith)] at hright
        linarith
    · rw [abs_of_nonpos hx] at hleft ⊢
      rcases le_total (-least) x with hl | hl
      · rw [abs_of_nonneg (by linarith)] at hleft
        linarith
      · rw [abs_of_nonpos (by linarith)] at hleft
        linarith
  · refine fun h => ⟨double_zero, fun z hz => ?_⟩
    rw [sub_zero]
    by_cases hz0 : z = 0
    · rw [hz0, sub_zero]
    · have hfar := least_le_abs hz hz0
      have htri := abs_sub_abs_le_abs_sub z x
      rw [abs_sub_comm] at htri
      linarith

/-- The doubles next to one are half as far below it as above. -/
theorem le_or_le_of_ne_one {z : ℚ} (hz : Double z) (h : z ≠ 1) :
    z ≤ 1 - 1 / 2 ^ 53 ∨ 1 + 1 / 2 ^ 52 ≤ z := by
  obtain ⟨m, k, hm, -, -, rfl⟩ := hz
  have hm' : (m : ℚ) < 2 ^ 53 := by exact_mod_cast (abs_lt.mp hm).2
  have hlt (j : ℤ) (hk : k ≤ j) : (m : ℚ) * 2 ^ k < 2 ^ 53 * 2 ^ j := by
    have hpow : (2 : ℚ) ^ k ≤ 2 ^ j := zpow_le_zpow_right₀ one_le_two hk
    have hk0 : (0 : ℚ) < 2 ^ k := zpow_pos two_pos k
    calc (m : ℚ) * 2 ^ k < 2 ^ 53 * 2 ^ k := mul_lt_mul_of_pos_right hm' hk0
      _ ≤ 2 ^ 53 * 2 ^ j := mul_le_mul_of_nonneg_left hpow (by norm_num)
  rcases lt_or_gt_of_ne h with hlt1 | hgt1
  · left
    by_cases hk : k ≤ -54
    · have := hlt (-54) hk
      norm_num at this ⊢
      linarith
    · -- below one the multiples of `2 ^ -53` end with the one before it
      obtain ⟨n, hn⟩ := exists_mul_zpow (show (-53 : ℤ) ≤ k by omega) m
      rw [hn] at hlt1 ⊢
      norm_num at hlt1 ⊢
      have hn1 : n < 9007199254740992 := by
        have : (n : ℚ) < 9007199254740992 := by linarith
        exact_mod_cast this
      have hn2 : (n : ℚ) ≤ 9007199254740991 := by exact_mod_cast Int.le_sub_one_of_lt hn1
      linarith
  · right
    by_cases hk : k ≤ -53
    · have := hlt (-53) hk
      norm_num at this
      linarith
    · -- above one they are multiples of `2 ^ -52`
      obtain ⟨n, hn⟩ := exists_mul_zpow (show (-52 : ℤ) ≤ k by omega) m
      rw [hn] at hgt1 ⊢
      norm_num at hgt1 ⊢
      have hn1 : 4503599627370496 < n := by
        have : (4503599627370496 : ℚ) < n := by linarith
        exact_mod_cast this
      have hn2 : (4503599627370497 : ℚ) ≤ n := by exact_mod_cast hn1
      linarith

/-- **Near to one** is what lies between the midpoints to the doubles next to it. -/
theorem nearest_one_iff {x : ℚ} :
    Nearest x 1 ↔ 1 - 1 / 2 ^ 54 ≤ x ∧ x ≤ 1 + 1 / 2 ^ 53 := by
  constructor
  · rintro ⟨-, h⟩
    -- squared, the two distances are compared without absolute values
    have hsquare := sq_le_sq.mpr (h _ double_below_one)
    have hsquare' := sq_le_sq.mpr (h _ double_above_one)
    norm_num at hsquare hsquare' ⊢
    constructor <;> nlinarith
  · rintro ⟨hlow, hhigh⟩
    refine ⟨double_one, fun z hz => ?_⟩
    by_cases hz1 : z = 1
    · rw [hz1]
    · norm_num at hlow hhigh
      refine abs_le.mpr ?_
      rcases le_or_le_of_ne_one hz hz1 with hz' | hz'
      · norm_num at hz'
        rw [abs_of_nonneg (by linarith)]
        constructor <;> linarith
      · norm_num at hz'
        rw [abs_of_nonpos (by linarith)]
        constructor <;> linarith

/-! ### Which reals round to zero and to one -/

/-- The number that is written as digits and an exponent. -/
def decimal (digits exponent : Int) : ℚ :=
  digits * (10 : ℚ) ^ exponent

theorem fraction_spec (m : Nat) (e : Int) :
    0 < (fraction m e).2 ∧
      (m : ℚ) * 10 ^ e = ((fraction m e).1 : ℚ) / (fraction m e).2 := by
  unfold fraction
  by_cases he : 0 ≤ e
  · obtain ⟨n, rfl⟩ := Int.eq_ofNat_of_zero_le he
    simp
  · obtain ⟨n, rfl⟩ : ∃ n : Nat, e = -n := ⟨(-e).toNat, by omega⟩
    rw [if_neg he]
    refine ⟨by simp, ?_⟩
    simp [div_eq_mul_inv]

/-- A number lies between two powers of ten, by the place of its leading digit. -/
theorem magnitude_spec {m : Nat} (hm : m ≠ 0) (e : Int) :
    (10 : ℚ) ^ (magnitude m e - 1) ≤ m * 10 ^ e ∧ (m : ℚ) * 10 ^ e < 10 ^ magnitude m e := by
  have hlen : 0 < (Nat.toDigits 10 m).length := Nat.length_toDigits_pos
  obtain ⟨k, hk⟩ := Nat.exists_eq_add_of_lt hlen
  rw [Nat.zero_add] at hk
  have hlt : m < 10 ^ (k + 1) :=
    (Nat.length_toDigits_le_iff (by decide) (by omega)).mp hk.le
  have hle : 10 ^ k ≤ m := by
    by_contra h
    rcases Nat.eq_zero_or_pos k with rfl | hk0
    · exact hm (by omega)
    · have := (Nat.length_toDigits_le_iff (by decide) hk0).mpr (not_le.mp h)
      omega
  have hpow : (0 : ℚ) < 10 ^ e := zpow_pos (by norm_num) e
  have hmag : magnitude m e = ((k + 1 : Nat) : Int) + e := by rw [magnitude, hk]
  constructor
  · have hsplit : (10 : ℚ) ^ (magnitude m e - 1) = 10 ^ k * 10 ^ e := by
      rw [hmag, ← zpow_natCast, ← zpow_add₀ (by norm_num)]
      congr 1
      push_cast
      ring
    rw [hsplit]
    exact mul_le_mul_of_nonneg_right (by exact_mod_cast hle) hpow.le
  · rw [hmag, zpow_add₀ (by norm_num), zpow_natCast]
    exact mul_lt_mul_of_pos_right (by exact_mod_cast hlt) hpow

theorem half_least : least / 2 = (2 ^ 1075 : ℚ)⁻¹ := by
  have h : (2 : ℚ) ^ (-1075 : ℤ) = 2 ^ (-1074 : ℤ) * 2 ^ (-1 : ℤ) := by
    rw [← zpow_add₀ two_ne_zero]
    rfl
  have hneg : (2 : ℚ) ^ (-1075 : ℤ) = (2 ^ 1075)⁻¹ := by rw [zpow_neg, zpow_ofNat]
  rw [← hneg, h, zpow_neg_one, least, div_eq_mul_inv]

/-- What is too small is near to zero. -/
theorem small_le : (10 : ℚ) ^ (tooSmall - 1) ≤ least / 2 := by
  have hpow : (2 : ℚ) ^ 1075 ≤ 10 ^ 331 :=
    calc (2 : ℚ) ^ 1075 = (2 ^ 13) ^ 82 * 2 ^ 9 := by rw [← pow_mul, ← pow_add]
      _ ≤ (10 ^ 4) ^ 82 * 10 ^ 3 := by gcongr <;> norm_num
      _ = 10 ^ 331 := by rw [← pow_mul, ← pow_add]
  have hsmall : (10 : ℚ) ^ (-331 : ℤ) = (10 ^ 331)⁻¹ := by rw [zpow_neg, zpow_ofNat]
  have hplace : tooSmall - 1 = -331 := rfl
  rw [hplace, hsmall, half_least]
  exact inv_anti₀ (pow_pos two_pos _) hpow

theorem least_lt_one : least < 1 := by
  rw [least]
  exact zpow_lt_one_of_neg₀ one_lt_two (by norm_num)

/-- What is too large is ten at least. -/
theorem ten_le_of_tooLarge {m : Nat} {e : Int} (hm : m ≠ 0) (h : tooLarge < magnitude m e) :
    10 ≤ (m : ℚ) * 10 ^ e :=
  calc (10 : ℚ) = 10 ^ (1 : ℤ) := (zpow_one _).symm
    _ ≤ 10 ^ (magnitude m e - 1) := by
      refine zpow_le_zpow_right₀ (by norm_num) ?_
      unfold tooLarge at h
      omega
    _ ≤ m * 10 ^ e := (magnitude_spec hm e).1

theorem le_of_tooSmall {m : Nat} {e : Int} (hm : m ≠ 0) (h : magnitude m e < tooSmall) :
    (m : ℚ) * 10 ^ e ≤ least / 2 :=
  calc (m : ℚ) * 10 ^ e ≤ 10 ^ magnitude m e := (magnitude_spec hm e).2.le
    _ ≤ 10 ^ (tooSmall - 1) := zpow_le_zpow_right₀ (by norm_num) (by omega)
    _ ≤ least / 2 := small_le

theorem mul_pow_le_iff (num den k : Nat) :
    num * Nat.pow 2 k ≤ den ↔ (num : ℚ) * 2 ^ k ≤ den := by
  rw [Nat.pow_eq]
  exact_mod_cast Iff.rfl

/-- **A real is zero** exactly if it is near to zero. -/
theorem isZero_finite_iff (d e : Int) :
    (Real.finite d e).isZero = true ↔ Nearest (decimal d e) 0 := by
  have hpow : (0 : ℚ) < 10 ^ e := zpow_pos (by norm_num) e
  have habs : |decimal d e| = (d.natAbs : ℚ) * 10 ^ e := by
    rw [decimal, abs_mul, abs_of_pos hpow, Nat.cast_natAbs, Int.cast_abs]
  rw [nearest_zero_iff, habs]
  unfold isZero
  by_cases hm : d.natAbs = 0
  · simp [hm, (half_pos least_pos).le]
  simp only [hm, if_false]
  split
  · rename_i hlarge
    have := ten_le_of_tooLarge hm hlarge
    have := least_lt_one
    have := least_pos
    constructor
    · intro h
      cases h
    · intro h
      linarith
  split
  · rename_i hsmall
    exact iff_of_true rfl (le_of_tooSmall hm hsmall)
  · obtain ⟨hden, hfrac⟩ := fraction_spec d.natAbs e
    generalize fraction d.natAbs e = f at hden hfrac ⊢
    obtain ⟨num, den⟩ := f
    simp only at hden hfrac ⊢
    have hden' : (0 : ℚ) < den := by exact_mod_cast hden
    rw [hfrac, half_least]
    generalize 1075 = k
    rw [inv_eq_one_div, div_le_div_iff₀ hden' (pow_pos two_pos _), one_mul, ← mul_pow_le_iff,
      decide_eq_true_iff]

/-- **A real is one** exactly if it is near to one. -/
theorem isOne_finite_iff (d e : Int) :
    (Real.finite d e).isOne = true ↔ Nearest (decimal d e) 1 := by
  rw [nearest_one_iff]
  unfold isOne
  have hpow : (0 : ℚ) < 10 ^ e := zpow_pos (by norm_num) e
  by_cases hd : d ≤ 0
  · have hneg : decimal d e ≤ 0 :=
      mul_nonpos_of_nonpos_of_nonneg (by exact_mod_cast hd) hpow.le
    simp only [hd, if_true]
    norm_num
    intro h
    linarith
  have hval : decimal d e = (d.natAbs : ℚ) * 10 ^ e := by
    rw [decimal, Nat.cast_natAbs, abs_of_pos (by omega)]
  have hm : d.natAbs ≠ 0 := by omega
  simp only [hd, if_false]
  split
  · rename_i hlarge
    have := hval ▸ ten_le_of_tooLarge hm hlarge
    norm_num
    intro h
    linarith
  split
  · rename_i hsmall
    have := hval ▸ le_of_tooSmall hm hsmall
    have := least_lt_one
    norm_num
    intro h
    linarith
  · obtain ⟨hden, hfrac⟩ := fraction_spec d.natAbs e
    generalize fraction d.natAbs e = f at hden hfrac ⊢
    obtain ⟨num, den⟩ := f
    simp only at hden hfrac ⊢
    have hden' : (0 : ℚ) < den := by exact_mod_cast hden
    rw [hval, hfrac, le_div_iff₀ hden', div_le_iff₀ hden', Bool.and_eq_true, decide_eq_true_iff,
      decide_eq_true_iff]
    have hlow : den * (Nat.pow 2 54 - 1) ≤ num * Nat.pow 2 54 ↔
        (den : ℚ) * (2 ^ 54 - 1) ≤ num * 2 ^ 54 := by
      rw [← Nat.cast_le (α := ℚ)]
      norm_num
    have hhigh : num * Nat.pow 2 53 ≤ den * (Nat.pow 2 53 + 1) ↔
        (num : ℚ) * 2 ^ 53 ≤ den * (2 ^ 53 + 1) := by
      rw [← Nat.cast_le (α := ℚ)]
      norm_num
    rw [hlow, hhigh]
    constructor
    · rintro ⟨h₁, h₂⟩
      constructor <;> linarith
    · rintro ⟨h₁, h₂⟩
      constructor <;> linarith

end Real

/-! ### Which values count as a truth value -/

/-- The value counts as the given truth value: it is that boolean, or the number that stands for it,
zero or one, once it is rounded. -/
inductive Counts (b : Bool) : Value → Prop where
  | bool : Counts b (.bool b)
  | int : Counts b (.int (if b then 1 else 0))
  | real (d e : Int) : Real.Nearest (Real.decimal d e) (if b then 1 else 0) →
      Counts b (.real (.finite d e))

/-- **Values that count as a truth value** are told exactly. -/
theorem Value.isTruth_iff {b : Bool} {v : Value} : v.isTruth b = true ↔ Counts b v := by
  constructor
  · intro h
    cases v with
    | bool c =>
        obtain rfl : b = c := by simpa [Value.isTruth] using h
        exact .bool
    | int n =>
        obtain rfl : n = if b then 1 else 0 := by simpa [Value.isTruth] using h
        exact .int
    | real x =>
        cases x with
        | finite d e =>
            refine .real d e ?_
            cases b with
            | false => simpa [Value.isTruth, Real.isZero_finite_iff] using h
            | true => simpa [Value.isTruth, Real.isOne_finite_iff] using h
        | infinite n => cases b <;> cases h
        | undefined => cases b <;> cases h
    | _ => cases h
  · rintro (_ | _ | ⟨d, e, h⟩)
    · simp [Value.isTruth]
    · simp [Value.isTruth]
    · cases b with
      | false => simpa [Value.isTruth, Real.isZero_finite_iff] using h
      | true => simpa [Value.isTruth, Real.isOne_finite_iff] using h

end FolderSieve.Json
