import LaneMatrix.Mat4

/-!
# Inverse by cofactors

The minors of the upper two rows and of the lower two rows give all cofactors. Column `j` of the
adjugate is row `j` of the cofactors, the divisor is the first row times the first column of the
adjugate, and the inverse is the adjugate times the reciprocal of the divisor. A divisor of zero
is not looked for. As in the product, the order of every operation is part of the result.
-/

universe u v

namespace LaneMatrix.Mat4

/-- The six minors of two rows, each named for its pair of columns. -/
structure Minors (α : Type u) where
  m01 : α
  m02 : α
  m03 : α
  m12 : α
  m13 : α
  m23 : α

namespace Minors

def ofRows {α : Type u} [Sub α] [Mul α] (p q : Quad α) : Minors α where
  m01 := p.x * q.y - q.x * p.y
  m02 := p.x * q.z - q.x * p.z
  m03 := p.x * q.w - q.x * p.w
  m12 := p.y * q.z - q.y * p.z
  m13 := p.y * q.w - q.y * p.w
  m23 := p.z * q.w - q.z * p.w

/-- Cofactors from the minors of two rows and a third row, first cofactor with a plus sign. -/
def cofactors {α : Type u} [Add α] [Sub α] [Mul α] (n : Minors α) (r : Quad α) : Quad α where
  x := r.y * n.m23 - r.z * n.m13 + r.w * n.m12
  y := r.z * n.m03 - r.x * n.m23 - r.w * n.m02
  z := r.x * n.m13 - r.y * n.m03 + r.w * n.m01
  w := r.y * n.m02 - r.x * n.m12 - r.z * n.m01

/-- The same with all signs turned. -/
def cofactorsTurned {α : Type u} [Add α] [Sub α] [Mul α] (n : Minors α) (r : Quad α) :
    Quad α where
  x := r.z * n.m13 - r.y * n.m23 - r.w * n.m12
  y := r.x * n.m23 - r.z * n.m03 + r.w * n.m02
  z := r.y * n.m03 - r.x * n.m13 - r.w * n.m01
  w := r.x * n.m12 - r.y * n.m02 + r.z * n.m01

def map {α : Type u} {β : Type v} (f : α → β) (n : Minors α) : Minors β :=
  ⟨f n.m01, f n.m02, f n.m03, f n.m12, f n.m13, f n.m23⟩

theorem map_ofRows {α : Type u} {β : Type v} [Sub α] [Mul α] [Sub β] [Mul β] (f : α → β)
    (hsub : ∀ x y, f (x - y) = f x - f y) (hmul : ∀ x y, f (x * y) = f x * f y) (p q : Quad α) :
    (ofRows p q).map f = ofRows (p.map f) (q.map f) := by
  simp only [ofRows, map, Quad.map, hsub, hmul]

theorem map_cofactors {α : Type u} {β : Type v} [Add α] [Sub α] [Mul α]
    [Add β] [Sub β] [Mul β] (f : α → β) (hadd : ∀ x y, f (x + y) = f x + f y)
    (hsub : ∀ x y, f (x - y) = f x - f y) (hmul : ∀ x y, f (x * y) = f x * f y)
    (n : Minors α) (r : Quad α) :
    (n.cofactors r).map f = (n.map f).cofactors (r.map f) := by
  simp only [cofactors, map, Quad.map, hadd, hsub, hmul]

theorem map_cofactorsTurned {α : Type u} {β : Type v} [Add α] [Sub α] [Mul α]
    [Add β] [Sub β] [Mul β] (f : α → β) (hadd : ∀ x y, f (x + y) = f x + f y)
    (hsub : ∀ x y, f (x - y) = f x - f y) (hmul : ∀ x y, f (x * y) = f x * f y)
    (n : Minors α) (r : Quad α) :
    (n.cofactorsTurned r).map f = (n.map f).cofactorsTurned (r.map f) := by
  simp only [cofactorsTurned, map, Quad.map, hadd, hsub, hmul]

end Minors

/-- The columns of the adjugate. -/
def cofactorRows {α : Type u} [Add α] [Sub α] [Mul α] (m : Mat4 α) : Quad (Quad α) :=
  let upper := Minors.ofRows (m.row 0) (m.row 1)
  let lower := Minors.ofRows (m.row 2) (m.row 3)
  ⟨lower.cofactors (m.row 1), lower.cofactorsTurned (m.row 0),
    upper.cofactors (m.row 3), upper.cofactorsTurned (m.row 2)⟩

def adjugate {α : Type u} [Add α] [Sub α] [Mul α] (m : Mat4 α) : Mat4 α :=
  ofColumns m.cofactorRows

/-- What the inverse divides by. -/
def divisor {α : Type u} [Add α] [Sub α] [Mul α] (m : Mat4 α) : α :=
  (m.row 0).dot m.cofactorRows.x

def inverse {α : Type u} [Add α] [Sub α] [Mul α] [Div α] [One α] (m : Mat4 α) : Mat4 α :=
  let cofactors := m.cofactorRows
  let divisor := (m.row 0).dot cofactors.x
  let reciprocal := 1 / divisor
  (ofColumns cofactors).map fun x => x * reciprocal

theorem entry_inverse {α : Type u} [Add α] [Sub α] [Mul α] [Div α] [One α] (m : Mat4 α)
    (j c : Fin 4) : m.inverse.entry j c = m.adjugate.entry j c * (1 / m.divisor) := by
  simp only [inverse, entry_map, adjugate, divisor]

theorem map_cofactorRows {α : Type u} {β : Type v} [Add α] [Sub α] [Mul α]
    [Add β] [Sub β] [Mul β] (f : α → β) (hadd : ∀ x y, f (x + y) = f x + f y)
    (hsub : ∀ x y, f (x - y) = f x - f y) (hmul : ∀ x y, f (x * y) = f x * f y) (m : Mat4 α) :
    m.cofactorRows.map (fun q => q.map f) = (m.map f).cofactorRows := by
  simp only [cofactorRows, row_map, Quad.map_mk, Minors.map_cofactors f hadd hsub hmul,
    Minors.map_cofactorsTurned f hadd hsub hmul, Minors.map_ofRows f hsub hmul]

theorem map_adjugate {α : Type u} {β : Type v} [Add α] [Sub α] [Mul α]
    [Add β] [Sub β] [Mul β] (f : α → β) (hadd : ∀ x y, f (x + y) = f x + f y)
    (hsub : ∀ x y, f (x - y) = f x - f y) (hmul : ∀ x y, f (x * y) = f x * f y) (m : Mat4 α) :
    m.adjugate.map f = (m.map f).adjugate := by
  ext j c
  rw [adjugate, adjugate, ← map_cofactorRows f hadd hsub hmul, entry_map, entry_ofColumns,
    entry_ofColumns, Quad.get_map, Quad.get_map]

theorem map_divisor {α : Type u} {β : Type v} [Add α] [Sub α] [Mul α]
    [Add β] [Sub β] [Mul β] (f : α → β) (hadd : ∀ x y, f (x + y) = f x + f y)
    (hsub : ∀ x y, f (x - y) = f x - f y) (hmul : ∀ x y, f (x * y) = f x * f y) (m : Mat4 α) :
    f m.divisor = (m.map f).divisor := by
  rw [divisor, divisor, ← map_cofactorRows f hadd hsub hmul, row_map, Quad.map_dot f hadd hmul]
  rfl

/-- A map that keeps the arithmetic of the cells keeps inverses, zero divisors included. -/
theorem map_inverse {α : Type u} {β : Type v} [Add α] [Sub α] [Mul α] [Div α] [One α]
    [Add β] [Sub β] [Mul β] [Div β] [One β] (f : α → β) (hone : f 1 = 1)
    (hadd : ∀ x y, f (x + y) = f x + f y) (hsub : ∀ x y, f (x - y) = f x - f y)
    (hmul : ∀ x y, f (x * y) = f x * f y) (hdiv : ∀ x y, f (x / y) = f x / f y) (m : Mat4 α) :
    m.inverse.map f = (m.map f).inverse := by
  ext j c
  rw [entry_map, entry_inverse, entry_inverse, hmul, hdiv, hone, map_divisor f hadd hsub hmul,
    ← map_adjugate f hadd hsub hmul, entry_map]

end LaneMatrix.Mat4
