import Mathlib

/-!
# Geometry/Float32 — `float` arithmetic, rounded to nearest even

The texture matrix of a drawn buffer is computed in `float`.  A `float` is `m · 2^e` with
`|m| < 2^24` and `e ≥ -149` (`Representable`); an operation computes the exact result and rounds
it to the nearest such number, ties to the even significand (`round32`).  Above `FLT_MAX` the code
rounds to infinity; the model has no infinity and keeps 24 bits there, and the values it is asked
about stay below `2^33`.

Two facts carry every error bound of the texture matrix: the rounding error is at most `2^-24` of
the value, plus `2^-150` below the normal range (`round32_error`), and a `float` is kept
(`round32_of_representable`), so `round32` is idempotent (`round32_round32`).  The binade of the
value is Mathlib's `Int.log 2`.
-/

namespace SurfaceFlinger

/-! ## Rounding to an integer -/

/-- `z` rounded to the nearest integer, ties to the even one. -/
def roundEven (z : ℚ) : ℤ :=
  if z - ⌊z⌋ < 1 / 2 then ⌊z⌋
  else if 1 / 2 < z - ⌊z⌋ then ⌊z⌋ + 1
  else if ⌊z⌋ % 2 = 0 then ⌊z⌋ else ⌊z⌋ + 1

theorem abs_roundEven_sub_le (z : ℚ) : |(roundEven z : ℚ) - z| ≤ 1 / 2 := by
  have h₁ := Int.floor_le z
  have h₂ := Int.lt_floor_add_one z
  unfold roundEven
  split_ifs <;> push_cast <;> rw [abs_le] <;> constructor <;> linarith

@[simp] theorem roundEven_intCast (n : ℤ) : roundEven n = n := by
  simp [roundEven]

/-! ## Rounding to a `float` -/

/-- The exponent of the last place of a `float` near `x`: 23 binary places below the leading one,
and never below the last place of the subnormals, `2^-149`. -/
def ulpExp (x : ℚ) : ℤ := max (Int.log 2 |x| - 23) (-149)

/-- **`x` rounded to a `float`**, to nearest, ties to even. -/
def round32 (x : ℚ) : ℚ :=
  if x = 0 then 0 else roundEven (x / 2 ^ ulpExp x) * 2 ^ ulpExp x

/-- **A `float`**: a significand of at most 24 bits, and an exponent no lower than the
subnormals'. -/
def Representable (x : ℚ) : Prop :=
  ∃ m e : ℤ, |m| < 2 ^ 24 ∧ -149 ≤ e ∧ x = m * 2 ^ e

@[simp] theorem round32_zero : round32 0 = 0 := by
  simp [round32]

/-- The binade of a nonzero value: `2^L ≤ |x| < 2^(L+1)` for `L = Int.log 2 |x|`. -/
theorem binade {x : ℚ} (hx : x ≠ 0) :
    (2 : ℚ) ^ Int.log 2 |x| ≤ |x| ∧ |x| < 2 ^ (Int.log 2 |x| + 1) := by
  have h := Int.zpow_log_le_self (b := 2) one_lt_two (abs_pos.2 hx)
  have h' := Int.lt_zpow_succ_log_self (b := 2) one_lt_two |x|
  push_cast at h h'
  exact ⟨h, h'⟩

/-- The scaled value `x / 2^ulpExp x` has at most 24 bits before the point. -/
theorem abs_div_ulp_lt (x : ℚ) : |x / 2 ^ ulpExp x| < 2 ^ 24 := by
  rcases eq_or_ne x 0 with rfl | hx
  · simp
  have hq : (0 : ℚ) < 2 ^ ulpExp x := zpow_pos two_pos _
  rw [abs_div, abs_of_pos hq, div_lt_iff₀ hq]
  calc |x| < 2 ^ (Int.log 2 |x| + 1) := (binade hx).2
    _ ≤ 2 ^ ((24 : ℤ) + ulpExp x) :=
        zpow_le_zpow_right₀ one_le_two (by unfold ulpExp; omega)
    _ = 2 ^ 24 * 2 ^ ulpExp x := by rw [zpow_add₀ two_ne_zero]; norm_num

/-- **The rounding error**: at most `2^-24` of the value, plus half the last place of the
subnormals. -/
theorem round32_error (x : ℚ) : |round32 x - x| ≤ |x| / 2 ^ 24 + 1 / 2 ^ 150 := by
  rcases eq_or_ne x 0 with rfl | hx
  · simp
  have hq : (0 : ℚ) < 2 ^ ulpExp x := zpow_pos two_pos _
  have hhalf : |round32 x - x| ≤ 2 ^ ulpExp x / 2 := by
    calc |round32 x - x| = |(roundEven (x / 2 ^ ulpExp x) : ℚ) - x / 2 ^ ulpExp x| *
          2 ^ ulpExp x := by
          rw [round32, if_neg hx, ← abs_of_pos hq, ← abs_mul, abs_of_pos hq, sub_mul,
            div_mul_cancel₀ _ hq.ne']
      _ ≤ 1 / 2 * 2 ^ ulpExp x := mul_le_mul_of_nonneg_right (abs_roundEven_sub_le _) hq.le
      _ = 2 ^ ulpExp x / 2 := by ring
  refine hhalf.trans ?_
  rcases le_total (Int.log 2 |x| - 23) (-149) with h | h
  · -- below the normal range the last place is `2^-149`
    have he : ulpExp x = -149 := max_eq_right h
    rw [he]
    have : (0 : ℚ) ≤ |x| / 2 ^ 24 := by positivity
    norm_num [zpow_neg] at this ⊢
    linarith
  · -- a normal value: the last place is `2^-23` of its binade
    have he : ulpExp x = Int.log 2 |x| - 23 := max_eq_left h
    have hb := (binade hx).1
    rw [he, zpow_sub₀ two_ne_zero]
    have : (0 : ℚ) < 1 / 2 ^ 150 := by positivity
    have h23 : ((2 : ℚ) ^ (23 : ℤ)) = 2 ^ 23 := by norm_num
    rw [h23]
    linarith [div_le_div_of_nonneg_right hb (by positivity : (0 : ℚ) ≤ 2 ^ 24)]

/-- **A `float` is kept.** -/
theorem round32_of_representable {x : ℚ} (h : Representable x) : round32 x = x := by
  obtain ⟨m, e, hm, he, rfl⟩ := h
  rcases eq_or_ne m 0 with rfl | hm0
  · simp
  have hx : (m : ℚ) * 2 ^ e ≠ 0 := mul_ne_zero (Int.cast_ne_zero.2 hm0) (zpow_ne_zero _ two_ne_zero)
  -- the last place of `m · 2^e` is at most `2^e`
  have hle : ulpExp ((m : ℚ) * 2 ^ e) ≤ e := by
    refine max_le ?_ he
    have hlt : |(m : ℚ) * 2 ^ e| < 2 ^ (e + 24) := by
      have he2 : (0 : ℚ) < 2 ^ e := zpow_pos two_pos e
      rw [abs_mul, abs_of_pos he2, zpow_add₀ two_ne_zero, mul_comm ((2 : ℚ) ^ e)]
      exact mul_lt_mul_of_pos_right (by exact_mod_cast hm) he2
    have := (Int.lt_zpow_iff_log_lt (b := 2) one_lt_two (abs_pos.2 hx)).1 (by exact_mod_cast hlt)
    omega
  have hint : (m : ℚ) * 2 ^ e / 2 ^ ulpExp ((m : ℚ) * 2 ^ e) =
      ((m * 2 ^ (e - ulpExp ((m : ℚ) * 2 ^ e)).toNat : ℤ) : ℚ) := by
    push_cast
    rw [← zpow_natCast, Int.toNat_of_nonneg (by omega), zpow_sub₀ two_ne_zero, mul_div_assoc]
  rw [round32, if_neg hx, hint, roundEven_intCast]
  push_cast
  rw [← zpow_natCast, Int.toNat_of_nonneg (by omega), mul_assoc, ← zpow_add₀ two_ne_zero,
    sub_add_cancel]

/-- **A rounded value is a `float`**: its significand has at most 24 bits, or it rounded up to
`2^24`, which is `2^23` one place higher. -/
theorem representable_round32 (x : ℚ) : Representable (round32 x) := by
  rcases eq_or_ne x 0 with rfl | hx
  · exact ⟨0, 0, by norm_num, by norm_num, by simp⟩
  have hr : |roundEven (x / 2 ^ ulpExp x)| ≤ 2 ^ 24 := by
    have h₁ := abs_roundEven_sub_le (x / 2 ^ ulpExp x)
    have h₂ := abs_div_ulp_lt x
    have : ((|roundEven (x / 2 ^ ulpExp x)| : ℤ) : ℚ) < 2 ^ 24 + 1 := by
      push_cast
      linarith [abs_sub_abs_le_abs_sub (roundEven (x / 2 ^ ulpExp x) : ℚ) (x / 2 ^ ulpExp x)]
    exact Int.lt_add_one_iff.1 (by exact_mod_cast this)
  have hq : -149 ≤ ulpExp x := le_max_right _ _
  rw [round32, if_neg hx]
  rcases hr.lt_or_eq with hlt | heq
  · exact ⟨_, _, hlt, hq, rfl⟩
  · -- rounded up to the next binade
    refine ⟨roundEven (x / 2 ^ ulpExp x) / 2, ulpExp x + 1, ?_, by omega, ?_⟩
    · rcases abs_eq (by norm_num) |>.1 heq with h | h <;> rw [h] <;> norm_num
    · rcases abs_eq (by norm_num) |>.1 heq with h | h <;> rw [h, zpow_add_one₀ two_ne_zero] <;>
        norm_num <;> ring

@[simp] theorem round32_round32 (x : ℚ) : round32 (round32 x) = round32 x :=
  round32_of_representable (representable_round32 x)

theorem Representable.neg {x : ℚ} (h : Representable x) : Representable (-x) := by
  obtain ⟨m, e, hm, he, rfl⟩ := h
  exact ⟨-m, e, by rwa [abs_neg], he, by push_cast; ring⟩

/-- An integer of at most 24 bits is a `float`. -/
theorem representable_intCast {n : ℤ} (h : |n| < 2 ^ 24) : Representable n :=
  ⟨n, 0, h, by norm_num, by simp⟩

theorem representable_half : Representable (1 / 2) :=
  ⟨1, -1, by norm_num, by norm_num, by norm_num [zpow_neg]⟩

theorem round32_one : round32 1 = 1 := by
  simpa using round32_of_representable (representable_intCast (n := 1) (by norm_num))

theorem round32_neg_one : round32 (-1) = -1 := by
  simpa using round32_of_representable (representable_intCast (n := -1) (by norm_num))

theorem round32_half : round32 (1 / 2) = 1 / 2 := round32_of_representable representable_half

theorem round32_neg_half : round32 (-(1 / 2)) = -(1 / 2) :=
  round32_of_representable representable_half.neg

/-- A nonzero integer does not round to zero. -/
theorem round32_intCast_eq_zero (n : ℤ) : round32 n = 0 ↔ n = 0 := by
  refine ⟨fun h => ?_, fun h => by simp [h]⟩
  by_contra hn
  have he := round32_error n
  have h1 : (1 : ℚ) ≤ |(n : ℚ)| := by exact_mod_cast Int.one_le_abs hn
  rw [h, zero_sub, abs_neg] at he
  have : (0 : ℚ) < 1 / 2 ^ 150 := by positivity
  linarith

end SurfaceFlinger
