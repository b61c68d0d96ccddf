import SurfaceFlinger.Geometry.Float32

/-!
# Geometry/Mat4 — `mat4`, exactly and in `float`

`mat4` of libs/math over exact rationals: `*ᵥ` and `*` are the exact products, and `mulVecF` and
`mulF` are its `operator*` as `TMatHelpers` computes it in `float`, column by column, each product
and each running sum rounded.

Two results carry the error bounds of the texture matrix.  `mulVecF_error`: a `float` column
product is within `2^-20` of the sum of its products' magnitudes (plus `2^-147`) of the exact one.
`abs_mulF_sub_mul_le`: a `float` product of two approximations, at a row that ignores `r`, is within
that rounding error plus the input errors it carries of the exact product of what they approximate.
-/

namespace SurfaceFlinger

open Matrix

/-- **`mat4`**, exactly. -/
abbrev Mat4 := Matrix (Fin 4) (Fin 4) ℚ

namespace Mat4

/-- `mat4(m00, m01, …, m33)`: sixteen numbers, column by column. -/
def ofColumns (c0r0 c0r1 c0r2 c0r3 c1r0 c1r1 c1r2 c1r3 c2r0 c2r1 c2r2 c2r3 c3r0 c3r1 c3r2 c3r3 :
    ℚ) : Mat4 :=
  !![c0r0, c1r0, c2r0, c3r0; c0r1, c1r1, c2r1, c3r1; c0r2, c1r2, c2r2, c3r2;
    c0r3, c1r3, c2r3, c3r3]

/-- `mat4::translate(t)`: the identity with `t` as its last column. -/
def translate (t : Fin 4 → ℚ) : Mat4 := ofColumns 1 0 0 0 0 1 0 0 0 0 1 0 (t 0) (t 1) (t 2) (t 3)

/-- `mat4::scale(s)`: `s` on the diagonal. -/
def scale (s : Fin 4 → ℚ) : Mat4 := ofColumns (s 0) 0 0 0 0 (s 1) 0 0 0 0 (s 2) 0 0 0 0 (s 3)

/-- `inverse(m)`, the inverse of an invertible matrix. -/
def inverse (m : Mat4) : Mat4 := m.det⁻¹ • m.adjugate

theorem ofColumns_mulVec (c0r0 c0r1 c0r2 c0r3 c1r0 c1r1 c1r2 c1r3 c2r0 c2r1 c2r2 c2r3 c3r0 c3r1
    c3r2 c3r3 : ℚ) (v : Fin 4 → ℚ) :
    ofColumns c0r0 c0r1 c0r2 c0r3 c1r0 c1r1 c1r2 c1r3 c2r0 c2r1 c2r2 c2r3 c3r0 c3r1 c3r2 c3r3 *ᵥ v =
      ![c0r0 * v 0 + c1r0 * v 1 + c2r0 * v 2 + c3r0 * v 3,
        c0r1 * v 0 + c1r1 * v 1 + c2r1 * v 2 + c3r1 * v 3,
        c0r2 * v 0 + c1r2 * v 1 + c2r2 * v 2 + c3r2 * v 3,
        c0r3 * v 0 + c1r3 * v 1 + c2r3 * v 2 + c3r3 * v 3] := by
  ext i
  fin_cases i <;>
    simp only [mulVec, dotProduct, ofColumns, Fin.zero_eta, Fin.mk_one, Fin.reduceFinMk,
      Fin.isValue, of_apply, cons_val', empty_val', cons_val_fin_one, cons_val_zero, cons_val_one,
      cons_val_two,
      cons_val_three, head_cons, tail_cons, head_fin_const, Fin.sum_univ_four, Nat.succ_eq_add_one,
      Nat.reduceAdd]

@[simp] theorem translate_vec4 (a b c d : ℚ) :
    translate ![a, b, c, d] = ofColumns 1 0 0 0 0 1 0 0 0 0 1 0 a b c d := rfl

@[simp] theorem scale_vec4 (a b c d : ℚ) :
    scale ![a, b, c, d] = ofColumns a 0 0 0 0 b 0 0 0 0 c 0 0 0 0 d := rfl

theorem translate_mulVec (t v : Fin 4 → ℚ) :
    translate t *ᵥ v = ![v 0 + t 0 * v 3, v 1 + t 1 * v 3, v 2 + t 2 * v 3, t 3 * v 3] := by
  simp only [translate, ofColumns_mulVec, zero_mul, one_mul, add_zero, zero_add]

theorem scale_mulVec (s v : Fin 4 → ℚ) :
    scale s *ᵥ v = ![s 0 * v 0, s 1 * v 1, s 2 * v 2, s 3 * v 3] := by
  simp only [scale, ofColumns_mulVec, zero_mul, one_mul, add_zero, zero_add]

theorem inverse_eq (m : Mat4) : inverse m = m⁻¹ := by
  rw [inverse, Matrix.inv_def, Ring.inverse_eq_inv']

/-- Matrices are equal when they act alike. -/
theorem ext_mulVec {a b : Mat4} (h : ∀ v, a *ᵥ v = b *ᵥ v) : a = b :=
  Matrix.toLin'.injective (LinearMap.ext h)

theorem vec4_eta (v : Fin 4 → ℚ) : ![v 0, v 1, v 2, v 3] = v := by
  ext i
  fin_cases i <;> rfl

/-! ## Products in `float`

`TMatHelpers::multiply` computes a column of `lhs * rhs` as `lhs * rhs[col]`, and that starts from a
zero column and adds `lhs[c] * rhs[col][c]` for `c = 0, 1, 2, 3`, every product and every sum
rounded to `float`.  The first sum adds to zero, which is exact. -/

/-- **`lhs * rhs` for a column `rhs`, in `float`.** -/
def mulVecF (m : Mat4) (v : Fin 4 → ℚ) : Fin 4 → ℚ := fun i =>
  round32 (round32 (round32 (round32 (m i 0 * v 0) + round32 (m i 1 * v 1)) +
    round32 (m i 2 * v 2)) + round32 (m i 3 * v 3))

/-- **`lhs * rhs` in `float`**, column by column. -/
def mulF (a b : Mat4) : Mat4 := Matrix.of fun i j => a.mulVecF (fun k => b k j) i

theorem mulF_apply (a b : Mat4) (i j : Fin 4) :
    a.mulF b i j = round32 (round32 (round32 (round32 (a i 0 * b 0 j) + round32 (a i 1 * b 1 j)) +
      round32 (a i 2 * b 2 j)) + round32 (a i 3 * b 3 j)) := rfl

/-- A `float` product by `mat4(…)`, column by column. -/
theorem mulF_ofColumns (m : Mat4) (c0r0 c0r1 c0r2 c0r3 c1r0 c1r1 c1r2 c1r3 c2r0 c2r1 c2r2 c2r3 c3r0
    c3r1 c3r2 c3r3 : ℚ) :
    m.mulF (ofColumns c0r0 c0r1 c0r2 c0r3 c1r0 c1r1 c1r2 c1r3 c2r0 c2r1 c2r2 c2r3 c3r0 c3r1 c3r2
        c3r3) =
      ofColumns (m.mulVecF ![c0r0, c0r1, c0r2, c0r3] 0) (m.mulVecF ![c0r0, c0r1, c0r2, c0r3] 1)
        (m.mulVecF ![c0r0, c0r1, c0r2, c0r3] 2) (m.mulVecF ![c0r0, c0r1, c0r2, c0r3] 3)
        (m.mulVecF ![c1r0, c1r1, c1r2, c1r3] 0) (m.mulVecF ![c1r0, c1r1, c1r2, c1r3] 1)
        (m.mulVecF ![c1r0, c1r1, c1r2, c1r3] 2) (m.mulVecF ![c1r0, c1r1, c1r2, c1r3] 3)
        (m.mulVecF ![c2r0, c2r1, c2r2, c2r3] 0) (m.mulVecF ![c2r0, c2r1, c2r2, c2r3] 1)
        (m.mulVecF ![c2r0, c2r1, c2r2, c2r3] 2) (m.mulVecF ![c2r0, c2r1, c2r2, c2r3] 3)
        (m.mulVecF ![c3r0, c3r1, c3r2, c3r3] 0) (m.mulVecF ![c3r0, c3r1, c3r2, c3r3] 1)
        (m.mulVecF ![c3r0, c3r1, c3r2, c3r3] 2) (m.mulVecF ![c3r0, c3r1, c3r2, c3r3] 3) := by
  ext i j
  fin_cases i <;> fin_cases j <;> rfl

/-- `mat4(…)` times a column, in `float`. -/
theorem ofColumns_mulVecF (c0r0 c0r1 c0r2 c0r3 c1r0 c1r1 c1r2 c1r3 c2r0 c2r1 c2r2 c2r3 c3r0 c3r1
    c3r2 c3r3 a b c d : ℚ) :
    (ofColumns c0r0 c0r1 c0r2 c0r3 c1r0 c1r1 c1r2 c1r3 c2r0 c2r1 c2r2 c2r3 c3r0 c3r1 c3r2
        c3r3).mulVecF ![a, b, c, d] =
      ![round32 (round32 (round32 (round32 (c0r0 * a) + round32 (c1r0 * b)) + round32 (c2r0 * c)) +
          round32 (c3r0 * d)),
        round32 (round32 (round32 (round32 (c0r1 * a) + round32 (c1r1 * b)) + round32 (c2r1 * c)) +
          round32 (c3r1 * d)),
        round32 (round32 (round32 (round32 (c0r2 * a) + round32 (c1r2 * b)) + round32 (c2r2 * c)) +
          round32 (c3r2 * d)),
        round32 (round32 (round32 (round32 (c0r3 * a) + round32 (c1r3 * b)) + round32 (c2r3 * c)) +
          round32 (c3r3 * d))] := by
  ext i
  fin_cases i <;> rfl

/-- The error of a rounded sum: the errors of the summands, and the rounding of their sum. -/
theorem round32_add_error {x y x' y' dx dy : ℚ} (hx : |x - x'| ≤ dx) (hy : |y - y'| ≤ dy) :
    |round32 (x + y) - (x' + y')| ≤ dx + dy + (|x'| + |y'| + dx + dy) / 2 ^ 24 + 1 / 2 ^ 150 := by
  have hxy : |x + y| ≤ |x'| + |y'| + dx + dy := by
    calc |x + y| = |x' + y' + ((x - x') + (y - y'))| := by ring_nf
      _ ≤ |x'| + |y'| + (|x - x'| + |y - y'|) :=
        (abs_add _ _).trans (add_le_add (abs_add _ _) (abs_add _ _))
      _ ≤ _ := by linarith only [hx, hy]
  calc |round32 (x + y) - (x' + y')| = |(round32 (x + y) - (x + y)) + ((x - x') + (y - y'))| := by
        ring_nf
    _ ≤ |round32 (x + y) - (x + y)| + (|x - x'| + |y - y'|) :=
        (abs_add _ _).trans (add_le_add le_rfl (abs_add _ _))
    _ ≤ _ := by
      linarith only [round32_error (x + y), hx, hy,
        div_le_div_of_nonneg_right hxy (by positivity : (0 : ℚ) ≤ 2 ^ 24)]

/-- **The rounding error of a `float` column product**: at most `2^-20` of the sum of the
products' magnitudes, plus `2^-147`. -/
theorem mulVecF_error (m : Mat4) (v : Fin 4 → ℚ) (i : Fin 4) :
    |m.mulVecF v i - (m *ᵥ v) i| ≤ (∑ c, |m i c * v c|) / 2 ^ 20 + 1 / 2 ^ 147 := by
  simp only [mulVecF, mulVec, dotProduct, Fin.sum_univ_four]
  have e : ∀ x : ℚ, |round32 x - x| ≤ |x| / 2 ^ 24 + 1 / 2 ^ 150 := round32_error
  have h₁ := round32_add_error (e (m i 0 * v 0)) (e (m i 1 * v 1))
  have h₂ := round32_add_error h₁ (e (m i 2 * v 2))
  have h₃ := round32_add_error h₂ (e (m i 3 * v 3))
  refine h₃.trans ?_
  linarith only [abs_add (m i 0 * v 0) (m i 1 * v 1),
    abs_add (m i 0 * v 0 + m i 1 * v 1) (m i 2 * v 2), abs_nonneg (m i 0 * v 0),
    abs_nonneg (m i 1 * v 1), abs_nonneg (m i 2 * v 2), abs_nonneg (m i 3 * v 3)]

theorem mulF_error (a b : Mat4) (i j : Fin 4) :
    |a.mulF b i j - (a * b) i j| ≤ (∑ c, |a i c * b c j|) / 2 ^ 20 + 1 / 2 ^ 147 :=
  mulVecF_error a (fun k => b k j) i

/-- The error a product carries from its inputs, in exact arithmetic. -/
theorem abs_mul_sub_mul_le (a a' b b' : Mat4) (i j : Fin 4) :
    |(a' * b') i j - (a * b) i j| ≤
      ∑ c, (|a' i c - a i c| * |b' c j| + |a i c| * |b' c j - b c j|) := by
  simp only [mul_apply, ← Finset.sum_sub_distrib]
  refine (Finset.abs_sum_le_sum_abs _ _).trans (Finset.sum_le_sum fun c _ => ?_)
  calc |a' i c * b' c j - a i c * b c j| =
        |(a' i c - a i c) * b' c j + a i c * (b' c j - b c j)| := by ring_nf
    _ ≤ _ := by
      simpa only [abs_mul] using abs_add ((a' i c - a i c) * b' c j) (a i c * (b' c j - b c j))

/-- One term of a product at a row that ignores `r`: its size, and the error it carries. -/
theorem abs_mul_term_le {x x' y y' δa δb : ℚ} (hx : |x| ≤ 1) (hx' : |x' - x| ≤ δa)
    (hy : |y| ≤ 1) (hy' : |y' - y| ≤ δb) :
    |x' * y'| ≤ (1 + δa) * (1 + δb) ∧ |x' - x| * |y'| + |x| * |y' - y| ≤ δa * (1 + δb) + δb := by
  have ha : |x'| ≤ 1 + δa := by linarith [abs_sub_abs_le_abs_sub x' x]
  have hb : |y'| ≤ 1 + δb := by linarith [abs_sub_abs_le_abs_sub y' y]
  have hδa : 0 ≤ δa := (abs_nonneg _).trans hx'
  refine ⟨by rw [abs_mul]; exact mul_le_mul ha hb (abs_nonneg _) (by linarith), ?_⟩
  have h₁ : |x' - x| * |y'| ≤ δa * (1 + δb) := mul_le_mul hx' hb (abs_nonneg _) hδa
  have h₂ : |x| * |y' - y| ≤ 1 * δb := mul_le_mul hx hy' (abs_nonneg _) zero_le_one
  linarith

/-- **A `float` product of two approximations**, at a row `i` of entries at most 1 with no `r`
entry and a column `j` of entries at most 1 outside the row of `r`: within the rounding error of
three products plus the input errors they carry of the exact product. -/
theorem abs_mulF_sub_mul_le {a a' b b' : Mat4} {i j : Fin 4} {δa δb : ℚ} (ha₂ : a i 2 = 0)
    (ha₂' : a' i 2 = 0) (ha : ∀ c, |a i c| ≤ 1) (ha' : ∀ c, |a' i c - a i c| ≤ δa)
    (hb : ∀ c, c ≠ 2 → |b c j| ≤ 1) (hb' : ∀ c, c ≠ 2 → |b' c j - b c j| ≤ δb) :
    |a'.mulF b' i j - (a * b) i j| ≤
      3 * ((1 + δa) * (1 + δb)) / 2 ^ 20 + 1 / 2 ^ 147 + 3 * (δa * (1 + δb) + δb) := by
  have t : ∀ c : Fin 4, c ≠ 2 → |a' i c * b' c j| ≤ (1 + δa) * (1 + δb) ∧
      |a' i c - a i c| * |b' c j| + |a i c| * |b' c j - b c j| ≤ δa * (1 + δb) + δb :=
    fun c hc => abs_mul_term_le (ha c) (ha' c) (hb c hc) (hb' c hc)
  have hr := mulF_error a' b' i j
  have he := abs_mul_sub_mul_le a a' b b' i j
  simp only [Fin.sum_univ_four, ha₂, ha₂', sub_zero, abs_zero, zero_mul, add_zero] at hr he
  obtain ⟨t₀, t₀'⟩ := t 0 (by decide)
  obtain ⟨t₁, t₁'⟩ := t 1 (by decide)
  obtain ⟨t₃, t₃'⟩ := t 3 (by decide)
  calc |a'.mulF b' i j - (a * b) i j|
      ≤ |a'.mulF b' i j - (a' * b') i j| + |(a' * b') i j - (a * b) i j| := abs_sub_le _ _ _
    _ ≤ _ := by linarith

/-- **A `float` product of exact matrices**, under the same bounds: within the rounding error of
three products. -/
theorem abs_mulF_sub_mul_le_of_exact {a b : Mat4} {i j : Fin 4} (ha₂ : a i 2 = 0)
    (ha : ∀ c, |a i c| ≤ 1) (hb : ∀ c, c ≠ 2 → |b c j| ≤ 1) :
    |a.mulF b i j - (a * b) i j| ≤ 3 / 2 ^ 20 + 1 / 2 ^ 147 := by
  have := @abs_mulF_sub_mul_le a a b b i j 0 0 ha₂ ha₂ ha (fun _ => by simp) hb (fun _ _ => by simp)
  norm_num at this ⊢
  exact this

end Mat4

end SurfaceFlinger
