import LaneMatrix.Proofs.Mat4.Determinant

/-!
# Inverses of products, of inverses and of transposed matrices

Over a field the divisor is a determinant: that of a product is the product of the determinants,
a transposed matrix has the same one, and an inverse has the reciprocal. So where two lanes can be
inverted, their product, their inverses and their transposed matrices can be inverted too, and none
of these inverses divides by zero. What the inverses are follows from the reading as a matrix.
Lanes beside them may hold anything, singular matrices included.
-/

universe u

namespace LaneMatrix

namespace Mat4

theorem toMatrix_transpose {α : Type u} (m : Mat4 α) :
    m.transpose.toMatrix = m.toMatrix.transpose := by
  ext row col
  rw [toMatrix_apply, entry_transpose, Matrix.transpose_apply, toMatrix_apply]

theorem divisor_multiply {α : Type u} [CommRing α] (a b : Mat4 α) :
    (a.multiply b).divisor = a.divisor * b.divisor := by
  rw [divisor_eq_det, divisor_eq_det, divisor_eq_det, toMatrix_multiply, Matrix.det_mul]

theorem divisor_transpose {α : Type u} [CommRing α] (m : Mat4 α) :
    m.transpose.divisor = m.divisor := by
  rw [divisor_eq_det, divisor_eq_det, toMatrix_transpose, Matrix.det_transpose]

section Field

variable {K : Type u} [Field K]

theorem divisor_inverse (m : Mat4 K) : m.inverse.divisor = m.divisor⁻¹ := by
  rw [divisor_eq_det, divisor_eq_det, toMatrix_inverse, Matrix.det_nonsing_inv,
    Ring.inverse_eq_inv']

theorem inverse_of_multiply (a b : Mat4 K) :
    (a.multiply b).inverse = b.inverse.multiply a.inverse := by
  apply toMatrix_injective
  rw [toMatrix_inverse, toMatrix_multiply, Matrix.mul_inv_rev, toMatrix_multiply,
    toMatrix_inverse, toMatrix_inverse]

theorem inverse_inverse {m : Mat4 K} (h : m.toMatrix.det ≠ 0) : m.inverse.inverse = m := by
  apply toMatrix_injective
  rw [toMatrix_inverse, toMatrix_inverse]
  exact Matrix.nonsing_inv_nonsing_inv _ h.isUnit

theorem inverse_transpose (m : Mat4 K) : m.transpose.inverse = m.inverse.transpose := by
  apply toMatrix_injective
  rw [toMatrix_inverse, toMatrix_transpose, toMatrix_transpose, toMatrix_inverse,
    Matrix.transpose_nonsing_inv]

end Field

end Mat4

namespace Interleaved

section Field

variable {K : Type u} [Field K] {W : Nat}

theorem lane_divisor_eq_det (p : Interleaved K W) (i : Fin W) :
    p.divisor.lane i = (lane p i).toMatrix.det := by
  rw [lane_divisor, Mat4.divisor_eq_det]

theorem lane_divisor_multiply (a b : Interleaved K W) (i : Fin W) :
    (a.multiply b).divisor.lane i = a.divisor.lane i * b.divisor.lane i := by
  rw [lane_divisor, lane_multiply, Mat4.divisor_multiply, ← lane_divisor, ← lane_divisor]

theorem lane_divisor_inverse (p : Interleaved K W) (i : Fin W) :
    p.inverse.divisor.lane i = (p.divisor.lane i)⁻¹ := by
  rw [lane_divisor, lane_inverse, Mat4.divisor_inverse, ← lane_divisor]

theorem lane_divisor_transpose (p : Interleaved K W) (i : Fin W) :
    p.transpose.divisor.lane i = p.divisor.lane i := by
  rw [lane_divisor, lane_transpose, Mat4.divisor_transpose, ← lane_divisor]

/-- Inverting reverses a product, undoes itself and commutes with transposing, in every lane whose
matrices are regular. What the five inverses divide by there is never zero. -/
theorem lane_inverse_reverses_products (a b : Interleaved K W) (i : Fin W)
    (ha : (lane a i).toMatrix.det ≠ 0) (hb : (lane b i).toMatrix.det ≠ 0) :
    lane (a.multiply b).inverse i = lane (b.inverse.multiply a.inverse) i ∧
      lane a.inverse.inverse i = lane a i ∧
      lane a.transpose.inverse i = lane a.inverse.transpose i ∧
      ((a.multiply b).divisor.lane i = a.divisor.lane i * b.divisor.lane i ∧
        a.inverse.divisor.lane i = (a.divisor.lane i)⁻¹ ∧
        a.transpose.divisor.lane i = a.divisor.lane i) ∧
      ∀ m ∈ [a, b, a.multiply b, a.inverse, a.transpose], m.divisor.lane i ≠ 0 := by
  have hdiva : a.divisor.lane i ≠ 0 := lane_divisor_eq_det a i ▸ ha
  have hdivb : b.divisor.lane i ≠ 0 := lane_divisor_eq_det b i ▸ hb
  have hproduct := lane_divisor_multiply a b i
  have hinverse := lane_divisor_inverse a i
  have htranspose := lane_divisor_transpose a i
  refine ⟨?_, ?_, ?_, ⟨hproduct, hinverse, htranspose⟩, ?_⟩
  · rw [lane_inverse, lane_multiply, lane_multiply, lane_inverse, lane_inverse]
    exact Mat4.inverse_of_multiply (lane a i) (lane b i)
  · rw [lane_inverse, lane_inverse]
    exact Mat4.inverse_inverse ha
  · rw [lane_inverse, lane_transpose, lane_transpose, lane_inverse]
    exact Mat4.inverse_transpose (lane a i)
  · simp only [List.forall_mem_cons, hproduct, hinverse, htranspose]
    exact ⟨hdiva, hdivb, mul_ne_zero hdiva hdivb, inv_ne_zero hdiva, hdiva,
      List.forall_mem_nil _⟩

end Field

/-- Two matrices that neither commute nor are symmetric, in the second lane; in the first lane one
factor is zero and the other has the entries 0 to 15, so both are singular. -/
theorem lane_inverse_of_product_beside_singular :
    let m : Mat4 ℚ := ⟨#v[1, 2, 0, 3, 0, 1, 4, 0, 5, 0, 1, 0, 0, 6, 0, 1]⟩
    let n : Mat4 ℚ := ⟨#v[2, 0, 1, 0, 3, 1, 0, 0, 0, 0, 1, 7, 1, 0, 0, 2]⟩
    let a : Interleaved ℚ 2 := ofLanes fun i => if i = 0 then 0 else m
    let b : Interleaved ℚ 2 := ofLanes fun i =>
      if i = 0 then Mat4.ofCells fun k => (k.val : ℚ) else n
    (lane a 0).toMatrix.det = 0 ∧ (lane b 0).toMatrix.det = 0 ∧
      (lane a 1).toMatrix.det ≠ 0 ∧ (lane b 1).toMatrix.det ≠ 0 ∧
      lane (a.multiply b) 1 ≠ lane (b.multiply a) 1 ∧
      lane (a.multiply b).inverse 1 = lane (b.inverse.multiply a.inverse) 1 ∧
      lane a.inverse.inverse 1 = lane a 1 ∧
      lane a.transpose.inverse 1 = lane a.inverse.transpose 1 := by
  intro m n a b
  have hdet : (lane a 0).toMatrix.det = 0 ∧ (lane b 0).toMatrix.det = 0 ∧
      (lane a 1).toMatrix.det ≠ 0 ∧ (lane b 1).toMatrix.det ≠ 0 := by
    simp only [← Mat4.divisor_eq_det]
    decide +kernel
  obtain ⟨ha0, hb0, ha, hb⟩ := hdet
  obtain ⟨hproduct, hinverse, htranspose, -⟩ := lane_inverse_reverses_products a b 1 ha hb
  exact ⟨ha0, hb0, ha, hb, by decide +kernel, hproduct, hinverse, htranspose⟩

end Interleaved

end LaneMatrix
