import Mathlib.LinearAlgebra.Matrix.NonsingularInverse
import Mathlib.Tactic.FinCases
import LaneMatrix.Interleaved

/-!
# Products and inverses in exact arithmetic

With scalars that obey the laws of a ring or a field, a matrix of four columns can be read as a
matrix in the sense of linear algebra. Read in this way the product is the product of matrices,
the adjugate is the adjugate, the divisor is the determinant and the inverse is the inverse. The
reading is one to one, so what holds of matrices holds of the cells, and lane by lane it holds of
interleaved matrices. Nothing here says what rounding arithmetic makes of a matrix.
-/

universe u

namespace LaneMatrix

namespace Mat4

/-- The matrix in the sense of linear algebra, where a row comes before a column. -/
def toMatrix {α : Type u} (m : Mat4 α) : Matrix (Fin 4) (Fin 4) α :=
  Matrix.of fun row col => m.entry col row

@[simp] theorem toMatrix_apply {α : Type u} (m : Mat4 α) (row col : Fin 4) :
    m.toMatrix row col = m.entry col row := rfl

theorem toMatrix_injective {α : Type u} :
    Function.Injective (toMatrix : Mat4 α → Matrix (Fin 4) (Fin 4) α) := by
  intro m n h
  ext col row
  rw [← toMatrix_apply, h, toMatrix_apply]

theorem toMatrix_identity {α : Type u} [Zero α] [One α] :
    (identity : Mat4 α).toMatrix = 1 := by
  ext row col
  rw [toMatrix_apply, entry_identity, Matrix.one_apply]
  simp only [eq_comm]

theorem toMatrix_multiply {α : Type u} [NonUnitalNonAssocSemiring α] (a b : Mat4 α) :
    (a.multiply b).toMatrix = a.toMatrix * b.toMatrix := by
  ext row col
  rw [toMatrix_apply, entry_multiply, Matrix.mul_apply, Fin.sum_univ_four]
  rfl

/-- Each entry of the adjugate is a signed minor, without row `j` and column `c`. -/
theorem entry_adjugate {α : Type u} [CommRing α] (m : Mat4 α) (j c : Fin 4) :
    m.adjugate.entry j c =
      (-1) ^ (j.val + c.val) * (m.toMatrix.submatrix j.succAbove c.succAbove).det := by
  rw [Matrix.det_fin_three, adjugate, entry_ofColumns]
  -- Columns 0 and 1 come from the lower two rows, columns 2 and 3 from the upper two.
  fin_cases j
  · fin_cases c <;>
      simp [cofactorRows, Minors.ofRows, Minors.cofactors, Mat4.row, Fin.succAbove, Fin.lt_def] <;>
      ring
  · fin_cases c <;>
      simp [cofactorRows, Minors.ofRows, Minors.cofactorsTurned, Mat4.row, Fin.succAbove,
        Fin.lt_def] <;>
      ring
  · fin_cases c <;>
      simp [cofactorRows, Minors.ofRows, Minors.cofactors, Mat4.row, Fin.succAbove, Fin.lt_def] <;>
      ring
  · fin_cases c <;>
      simp [cofactorRows, Minors.ofRows, Minors.cofactorsTurned, Mat4.row, Fin.succAbove,
        Fin.lt_def] <;>
      ring

theorem toMatrix_adjugate {α : Type u} [CommRing α] (m : Mat4 α) :
    m.adjugate.toMatrix = m.toMatrix.adjugate := by
  ext row col
  rw [Matrix.adjugate_fin_succ_eq_det_submatrix, toMatrix_apply, entry_adjugate,
    Nat.add_comm col.val row.val]

theorem col_ofColumns {α : Type u} (cols : Quad (Quad α)) (c : Fin 4) :
    (ofColumns cols).col c = cols.get c := by
  simp only [col, entry_ofColumns, Quad.get_zero, Quad.get_one, Quad.get_two, Quad.get_three]

/-- What the inverse divides by is the first entry of the product with the adjugate. -/
theorem divisor_eq_entry {α : Type u} [Add α] [Sub α] [Mul α] (m : Mat4 α) :
    m.divisor = (m.multiply m.adjugate).entry 0 0 := by
  rw [multiply, entry_ofFn, adjugate, col_ofColumns, Quad.get_zero, divisor]

theorem divisor_eq_det {α : Type u} [CommRing α] (m : Mat4 α) : m.divisor = m.toMatrix.det := by
  rw [divisor_eq_entry, ← toMatrix_apply, toMatrix_multiply, toMatrix_adjugate,
    Matrix.mul_adjugate, Matrix.smul_apply, Matrix.one_apply_eq, smul_eq_mul, mul_one]

/-- This includes singular matrices, whose inverse is zero on both sides. -/
theorem toMatrix_inverse {K : Type u} [Field K] (m : Mat4 K) :
    m.inverse.toMatrix = m.toMatrix⁻¹ := by
  ext row col
  rw [Matrix.inv_def, Ring.inverse_eq_inv', Matrix.smul_apply, smul_eq_mul, ← toMatrix_adjugate,
    ← divisor_eq_det, toMatrix_apply, toMatrix_apply, entry_inverse, one_div, mul_comm]

theorem multiply_inverse {K : Type u} [Field K] {m : Mat4 K} (h : m.toMatrix.det ≠ 0) :
    m.multiply m.inverse = identity := by
  apply toMatrix_injective
  rw [toMatrix_multiply, toMatrix_inverse, toMatrix_identity]
  exact Matrix.mul_nonsing_inv _ h.isUnit

theorem inverse_multiply {K : Type u} [Field K] {m : Mat4 K} (h : m.toMatrix.det ≠ 0) :
    m.inverse.multiply m = identity := by
  apply toMatrix_injective
  rw [toMatrix_multiply, toMatrix_inverse, toMatrix_identity]
  exact Matrix.nonsing_inv_mul _ h.isUnit

end Mat4

namespace Interleaved

theorem lane_divisor {S : Type u} {W : Nat} [Add S] [Sub S] [Mul S] (p : Interleaved S W)
    (i : Fin W) : p.divisor.lane i = (lane p i).divisor :=
  Mat4.map_divisor (fun x => x.lane i) (fun x y => Lanes.lane_add x y i)
    (fun x y => Lanes.lane_sub x y i) (fun x y => Lanes.lane_mul x y i) p

/-- The inverse divides once in each lane, by the determinant of the matrix there. Where this is
not zero the inverse is one on both sides, also beside singular matrices. -/
theorem lane_inverse_two_sided {K : Type u} [Field K] {W : Nat} (p : Interleaved K W)
    (i : Fin W) :
    (∀ c r, (p.inverse.entry c r).lane i =
      (p.adjugate.entry c r).lane i * (1 / p.divisor.lane i)) ∧
    p.divisor.lane i = (lane p i).toMatrix.det ∧
    (p.divisor.lane i = 0 ↔ ¬ IsUnit (lane p i).toMatrix) ∧
    ((lane p i).toMatrix.det ≠ 0 →
      lane (p.multiply p.inverse) i = Mat4.identity ∧
      lane (p.inverse.multiply p) i = Mat4.identity) := by
  have hdet : p.divisor.lane i = (lane p i).toMatrix.det := by
    rw [lane_divisor, Mat4.divisor_eq_det]
  refine ⟨?_, hdet, ?_, ?_⟩
  · intro c r
    rw [Mat4.entry_inverse, Lanes.lane_mul, Lanes.lane_div, Lanes.lane_one]
  · rw [hdet, Matrix.isUnit_iff_isUnit_det, isUnit_iff_ne_zero, not_not]
  · intro h
    constructor
    · rw [lane_multiply, lane_inverse]
      exact Mat4.multiply_inverse h
    · rw [lane_multiply, lane_inverse]
      exact Mat4.inverse_multiply h

/-- A regular matrix of no symmetry in the second lane, and zero in the first. -/
theorem lane_inverse_beside_zero :
    let m : Mat4 ℚ := ⟨#v[1, 2, 0, 3, 0, 1, 4, 0, 5, 0, 1, 0, 0, 6, 0, 1]⟩
    let p : Interleaved ℚ 2 := ofLanes fun i => if i = 0 then 0 else m
    (lane p 0).toMatrix.det = 0 ∧ (lane p 1).toMatrix.det ≠ 0 ∧
      lane (p.multiply p.inverse) 1 = Mat4.identity ∧
      lane (p.inverse.multiply p) 1 = Mat4.identity := by
  intro m p
  have h0 : (lane p 0).toMatrix.det = 0 := by
    rw [← Mat4.divisor_eq_det]
    decide +kernel
  have h1 : (lane p 1).toMatrix.det ≠ 0 := by
    rw [← Mat4.divisor_eq_det]
    decide +kernel
  exact ⟨h0, h1, (lane_inverse_two_sided p 1).2.2.2 h1⟩

end Interleaved

end LaneMatrix
