import LaneMatrix.Proofs.Mat4.Determinant

/-!
# Products of several matrices

Over a semiring the product is associative, although each cell is added up from the left and the
factors of a term may not be exchanged. A product of several factors can be bracketed in many ways;
`Bracketing` is one of them, with the factors in their order, and all of them have the value of the
product taken from the left. With rounding arithmetic this is not so.
-/

universe u

namespace LaneMatrix

theorem Mat4.multiply_assoc {S : Type u} [NonUnitalSemiring S] (a b c : Mat4 S) :
    (a.multiply b).multiply c = a.multiply (b.multiply c) := by
  apply Mat4.toMatrix_injective
  simp only [Mat4.toMatrix_multiply, Matrix.mul_assoc]

theorem Interleaved.multiply_assoc {S : Type u} [NonUnitalSemiring S] {W : Nat}
    (a b c : Interleaved S W) : (a.multiply b).multiply c = a.multiply (b.multiply c) := by
  apply Interleaved.ext_lane
  intro i
  simp only [Interleaved.lane_multiply, Mat4.multiply_assoc]

/-- A product with its brackets: a factor alone, or a product of two products. -/
inductive Bracketing (α : Type u) where
  | factor (m : α)
  | pair (left right : Bracketing α)

namespace Bracketing

def factors {α : Type u} : Bracketing α → List α
  | factor m => [m]
  | pair left right => left.factors ++ right.factors

/-- The products in the order of the brackets, the innermost first. -/
def product {α : Type u} [Add α] [Mul α] : Bracketing (Mat4 α) → Mat4 α
  | factor m => m
  | pair left right => left.product.multiply right.product

theorem factors_ne_nil {α : Type u} (t : Bracketing α) : t.factors ≠ [] := by
  induction t with
  | factor m => exact List.cons_ne_nil m []
  | pair left right ihl _ =>
    rw [factors]
    exact List.append_ne_nil_of_left_ne_nil ihl right.factors

section Associative

variable {α : Type u} [Add α] [Mul α]

/-- Brackets behind a factor can be left out: the factors come in one by one. -/
theorem multiply_product
    (hassoc : ∀ a b c : Mat4 α, (a.multiply b).multiply c = a.multiply (b.multiply c))
    (t : Bracketing (Mat4 α)) (m : Mat4 α) :
    m.multiply t.product = t.factors.foldl Mat4.multiply m := by
  induction t generalizing m with
  | factor n => rfl
  | pair left right ihl ihr =>
    calc m.multiply (pair left right).product
      _ = (m.multiply left.product).multiply right.product := (hassoc _ _ _).symm
      _ = right.factors.foldl Mat4.multiply (left.factors.foldl Mat4.multiply m) := by
        rw [ihr, ihl]
      _ = (pair left right).factors.foldl Mat4.multiply m := by rw [factors, List.foldl_append]

theorem product_eq_foldl
    (hassoc : ∀ a b c : Mat4 α, (a.multiply b).multiply c = a.multiply (b.multiply c))
    {t : Bracketing (Mat4 α)} {m : Mat4 α} {ms : List (Mat4 α)} (h : t.factors = m :: ms) :
    t.product = ms.foldl Mat4.multiply m := by
  induction t generalizing m ms with
  | factor n =>
    obtain ⟨rfl, rfl⟩ := List.cons.inj h
    rfl
  | pair left right ihl _ =>
    -- The first factor stands in the left part, which is never empty.
    rcases List.append_eq_cons_iff.mp h with ⟨hnil, -⟩ | ⟨front, hleft, rfl⟩
    · exact absurd hnil left.factors_ne_nil
    · rw [product, multiply_product hassoc, ihl hleft, List.foldl_append]

end Associative

end Bracketing

namespace Interleaved

/-- Over a semiring, commutative or not, brackets do not matter for a product of interleaved
matrices: not for three factors, and not for any list of them. -/
theorem product_of_bracketing {S : Type u} [NonUnitalSemiring S] (W : Nat) :
    (∀ a b c : Interleaved S W,
      (a.multiply b).multiply c = a.multiply (b.multiply c)) ∧
    ∀ (t : Bracketing (Interleaved S W)) (m : Interleaved S W) (ms : List (Interleaved S W)),
      t.factors = m :: ms → t.product = ms.foldl Mat4.multiply m :=
  ⟨multiply_assoc, fun _ _ _ h => Bracketing.product_eq_foldl multiply_assoc h⟩

/-- The scalars are matrices of two columns, which do not commute. -/
theorem product_of_pairs :
    let x : Matrix (Fin 2) (Fin 2) ℕ := !![0, 1; 0, 0]
    let y : Matrix (Fin 2) (Fin 2) ℕ := !![1, 0; 2, 3]
    let a : Interleaved (Matrix (Fin 2) (Fin 2) ℕ) 2 := ofLanes fun i =>
      Mat4.ofFn fun c _ => if c.val = i.val then x else y
    let b : Interleaved (Matrix (Fin 2) (Fin 2) ℕ) 2 := ofLanes fun i =>
      Mat4.ofFn fun _ r => if r.val = i.val then y else x
    let t : Bracketing (Interleaved (Matrix (Fin 2) (Fin 2) ℕ) 2) :=
      .pair (.pair (.factor a) (.factor b)) (.pair (.factor b) (.factor a))
    x * y ≠ y * x ∧ t.factors = [a, b, b, a] ∧
      (a.multiply b).multiply (b.multiply a) = ((a.multiply b).multiply b).multiply a := by
  intro x y a b t
  exact ⟨by decide, rfl, (product_of_bracketing 2).2 t a [b, b, a] rfl⟩

end Interleaved

end LaneMatrix
