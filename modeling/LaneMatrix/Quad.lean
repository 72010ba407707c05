/-!
# Four values

A row or a column of a matrix has four entries, named `x`, `y`, `z` and `w`.
-/

universe u v

namespace LaneMatrix

/-- A literal of `Fin 4` contains the instance that was found where it was written, and the one that
is found by itself depends on how much of the library is imported there. With this one, the same
literal is the same term in every module, so that lemmas about it can be rewritten with anywhere. -/
instance four_neZero : @NeZero Nat Zero.ofOfNat0 4 := ⟨Nat.succ_ne_zero 3⟩

structure Quad (α : Type u) where
  x : α
  y : α
  z : α
  w : α
  deriving DecidableEq

namespace Quad

def get {α : Type u} (q : Quad α) (i : Fin 4) : α :=
  if i = 0 then q.x else if i = 1 then q.y else if i = 2 then q.z else q.w

@[simp] theorem get_zero {α : Type u} (q : Quad α) : q.get 0 = q.x := rfl
@[simp] theorem get_one {α : Type u} (q : Quad α) : q.get 1 = q.y := rfl
@[simp] theorem get_two {α : Type u} (q : Quad α) : q.get 2 = q.z := rfl
@[simp] theorem get_three {α : Type u} (q : Quad α) : q.get 3 = q.w := rfl

def map {α : Type u} {β : Type v} (f : α → β) (q : Quad α) : Quad β := ⟨f q.x, f q.y, f q.z, f q.w⟩

theorem map_mk {α : Type u} {β : Type v} (f : α → β) (x y z w : α) :
    (⟨x, y, z, w⟩ : Quad α).map f = ⟨f x, f y, f z, f w⟩ := rfl

theorem get_map {α : Type u} {β : Type v} (f : α → β) (q : Quad α) (i : Fin 4) :
    (q.map f).get i = f (q.get i) := by
  simp only [get, map]
  split
  · rfl
  · split
    · rfl
    · split <;> rfl

def mapM {α : Type u} {β : Type v} {m : Type v → Type v} [Monad m] (f : α → m β) (q : Quad α) :
    m (Quad β) := do
  return ⟨← f q.x, ← f q.y, ← f q.z, ← f q.w⟩

/-- The four products in order, added from the left. -/
def dot {α : Type u} [Add α] [Mul α] (p q : Quad α) : α :=
  p.x * q.x + p.y * q.y + p.z * q.z + p.w * q.w

theorem map_dot {α : Type u} {β : Type v} [Add α] [Mul α] [Add β] [Mul β] (f : α → β)
    (hadd : ∀ x y, f (x + y) = f x + f y) (hmul : ∀ x y, f (x * y) = f x * f y) (p q : Quad α) :
    f (p.dot q) = (p.map f).dot (q.map f) := by
  simp only [dot, map, hadd, hmul]

end Quad

end LaneMatrix
