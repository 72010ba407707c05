import LaneMatrix.Interleaved
import LaneMatrix.Proofs.Scalar.Binary

/-!
# Transposed products

A cell of a product adds its four terms in the order of the rows and columns it is made of, and
the transposed product adds the same terms in the same order with the factors of each exchanged.
So transposing reverses a product as soon as multiplication commutes, and the results are the
same to the last bit. Addition is not asked to be associative or commutative.
-/

universe u

namespace LaneMatrix

theorem Quad.dot_comm {S : Type u} [Add S] [Mul S] (hmul : ∀ x y : S, x * y = y * x)
    (p q : Quad S) : p.dot q = q.dot p := by
  simp only [dot, hmul p.x, hmul p.y, hmul p.z, hmul p.w]

namespace Mat4

theorem row_transpose {α : Type u} (m : Mat4 α) (r : Fin 4) : m.transpose.row r = m.col r := by
  simp only [row, col, entry_transpose]

theorem col_transpose {α : Type u} (m : Mat4 α) (c : Fin 4) : m.transpose.col c = m.row c := by
  simp only [row, col, entry_transpose]

theorem transpose_transpose {α : Type u} (m : Mat4 α) : m.transpose.transpose = m := by
  ext c r
  rw [entry_transpose, entry_transpose]

theorem transpose_multiply {S : Type u} [Add S] [Mul S] (hmul : ∀ x y : S, x * y = y * x)
    (a b : Mat4 S) : (a.multiply b).transpose = b.transpose.multiply a.transpose := by
  ext c r
  calc (a.multiply b).transpose.entry c r
    _ = (a.row c).dot (b.col r) := by rw [entry_transpose, multiply, entry_ofFn]
    _ = (b.col r).dot (a.row c) := Quad.dot_comm hmul _ _
    _ = (b.transpose.row r).dot (a.transpose.col c) := by rw [row_transpose, col_transpose]
    _ = (b.transpose.multiply a.transpose).entry c r := by rw [multiply, entry_ofFn]

end Mat4

namespace Interleaved

/-- Transposing reverses products of interleaved matrices, cell for cell and lane for lane, where
multiplication of scalars commutes; it works within each lane, and twice it does nothing. -/
theorem transpose_reverses_products {S : Type u} [Add S] [Mul S] (W : Nat) :
    ((∀ x y : S, x * y = y * x) → ∀ a b : Interleaved S W,
      (a.multiply b).transpose = b.transpose.multiply a.transpose) ∧
    ∀ m : Interleaved S W,
      (∀ i, lane m.transpose i = (lane m i).transpose ∧
        ∀ c r, (lane m.transpose i).entry c r = (lane m i).entry r c) ∧
      m.transpose.transpose = m := by
  constructor
  · intro hmul a b
    apply ext_lane
    intro i
    rw [lane_transpose, lane_multiply, lane_multiply, lane_transpose, lane_transpose]
    exact Mat4.transpose_multiply hmul (lane a i) (lane b i)
  · intro m
    refine ⟨?_, Mat4.transpose_transpose m⟩
    intro i
    have hlane := lane_transpose m i
    refine ⟨hlane, ?_⟩
    intro c r
    rw [hlane, Mat4.entry_transpose]

/-- One lane is not a number throughout; in the other no product of two cells is exact. -/
theorem transpose_reverses_rounded_product :
    let a : Interleaved Float32 2 := ofLanes fun i =>
      if i = 0 then Mat4.replicate (Float32.ofBits 0x7fc00000)
      else Mat4.ofFn fun c r => Float32.ofBits (.ofNat (0x3f800001 + 4 * c.val + r.val))
    let b : Interleaved Float32 2 := ofLanes fun i =>
      if i = 0 then Mat4.identity
      else Mat4.ofFn fun c r => Float32.ofBits (.ofNat (0xbf9fff01 + c.val + 4 * r.val))
    (∀ x y : Float32, x * y = y * x) ∧
      (a.multiply b).transpose = b.transpose.multiply a.transpose ∧
      b.transpose.transpose = b := by
  intro a b
  obtain ⟨hproduct, htwice⟩ := transpose_reverses_products (S := Float32) 2
  exact ⟨BinaryScalar.mul_comm, hproduct BinaryScalar.mul_comm a b, (htwice b).2⟩

end Interleaved

end LaneMatrix
