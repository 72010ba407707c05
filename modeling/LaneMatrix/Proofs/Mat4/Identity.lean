import Mathlib.Data.Set.Defs
import LaneMatrix.Interleaved
import LaneMatrix.Proofs.Scalar.Binary

/-!
# Products with the identity

A cell of a product with the identity is a sum of four terms, one of them the cell itself and the
others zeros. With rounding arithmetic the zeros may be of either sign and the sum is taken from
the left, so `ExactUnits` asks for little: neither that addition is associative nor that products
distribute over it. What is not a zero then comes through as it is. A zero stays a zero, but its
sign may change, and `SameUpTo` leaves that open. Nothing is said of cells that are not finite.
-/

universe u

namespace LaneMatrix

/-- How one and zero act on the finite values `F` with zeros `Z`. That `Z` lies in `F` and
contains zero is true where this is used, but never needed. -/
structure ExactUnits {S : Type u} [Zero S] [One S] [Add S] [Mul S] (F Z : Set S) : Prop where
  one_mul : ∀ {x}, x ∈ F → 1 * x = x
  mul_one : ∀ {x}, x ∈ F → x * 1 = x
  zero_mul : ∀ {x}, x ∈ F → 0 * x ∈ Z
  mul_zero : ∀ {x}, x ∈ F → x * 0 ∈ Z
  zero_add : ∀ {z x}, z ∈ Z → x ∈ F → x ∉ Z → z + x = x
  add_zero : ∀ {z x}, z ∈ Z → x ∈ F → x ∉ Z → x + z = x
  add_mem : ∀ {z z'}, z ∈ Z → z' ∈ Z → z + z' ∈ Z

/-- The value `y` is `x`, or both are zeros. -/
def SameUpTo {S : Type u} (Z : Set S) (x y : S) : Prop := (x ∉ Z → y = x) ∧ (x ∈ Z → y ∈ Z)

theorem SameUpTo.of_eq {S : Type u} {Z : Set S} {x y : S} (h : y = x) : SameUpTo Z x y := by
  subst h
  exact ⟨fun _ => rfl, id⟩

/-- A comparison that takes all zeros for equal does not see the difference. -/
theorem SameUpTo.compare {S : Type u} {Z : Set S} {x y : S} (h : SameUpTo Z x y)
    {eq : S → S → Bool} (hself : eq x x) (hzeros : ∀ z ∈ Z, ∀ z' ∈ Z, eq z z') : eq x y := by
  by_cases hx : x ∈ Z
  · exact hzeros x hx y (h.2 hx)
  · rw [h.1 hx]
    exact hself

namespace ExactUnits

variable {S : Type u} [Zero S] [One S] [Add S] [Mul S] {F Z : Set S}

theorem same_zero_add (h : ExactUnits F Z) {x z t : S} (hx : x ∈ F) (hz : z ∈ Z) (ht : t = x) :
    SameUpTo Z x (z + t) := by
  subst ht
  exact ⟨h.zero_add hz hx, h.add_mem hz⟩

theorem same_add_zero (h : ExactUnits F Z) {x y z : S} (hx : x ∈ F) (hy : SameUpTo Z x y)
    (hz : z ∈ Z) : SameUpTo Z x (y + z) := by
  constructor
  · intro hn
    rw [hy.1 hn]
    exact h.add_zero hz hx hn
  · intro hm
    exact h.add_mem (hy.2 hm) hz

/-- Zeros before the term `k` add up to a zero, the term takes its place, and the zeros after it
leave it. -/
theorem same_dot (h : ExactUnits F Z) {p q : Quad S} {x : S} (hx : x ∈ F) (k : Fin 4)
    (hk : p.get k * q.get k = x) (hz : ∀ l, l ≠ k → p.get l * q.get l ∈ Z) :
    SameUpTo Z x (p.dot q) := by
  match k with
  | 0 =>
    have h0 : SameUpTo Z x (p.x * q.x) := .of_eq hk
    have h1 := h.same_add_zero hx h0 (hz 1 (by decide))
    have h2 := h.same_add_zero hx h1 (hz 2 (by decide))
    exact h.same_add_zero hx h2 (hz 3 (by decide))
  | 1 =>
    have h1 := h.same_zero_add hx (hz 0 (by decide)) hk
    have h2 := h.same_add_zero hx h1 (hz 2 (by decide))
    exact h.same_add_zero hx h2 (hz 3 (by decide))
  | 2 =>
    have h1 := h.add_mem (hz 0 (by decide)) (hz 1 (by decide))
    have h2 := h.same_zero_add hx h1 hk
    exact h.same_add_zero hx h2 (hz 3 (by decide))
  | 3 =>
    have h1 := h.add_mem (hz 0 (by decide)) (hz 1 (by decide))
    have h2 := h.add_mem h1 (hz 2 (by decide))
    exact h.same_zero_add hx h2 hk

end ExactUnits

namespace Mat4

section Units

variable {S : Type u} [Zero S] [One S] [Add S] [Mul S] {F Z : Set S}

theorem identity_multiply_same (h : ExactUnits F Z) {m : Mat4 S} (hm : ∀ c r, m.entry c r ∈ F)
    (c r : Fin 4) : SameUpTo Z (m.entry c r) ((identity.multiply m).entry c r) := by
  rw [multiply, entry_ofFn]
  apply h.same_dot (hm c r) r
  · rw [get_row, get_col, entry_identity, if_pos rfl]
    exact h.one_mul (hm c r)
  · intro l hl
    rw [get_row, get_col, entry_identity, if_neg hl]
    exact h.zero_mul (hm c l)

theorem multiply_identity_same (h : ExactUnits F Z) {m : Mat4 S} (hm : ∀ c r, m.entry c r ∈ F)
    (c r : Fin 4) : SameUpTo Z (m.entry c r) ((m.multiply identity).entry c r) := by
  rw [multiply, entry_ofFn]
  apply h.same_dot (hm c r) c
  · rw [get_row, get_col, entry_identity, if_pos rfl]
    exact h.mul_one (hm c r)
  · intro l hl
    rw [get_row, get_col, entry_identity, if_neg hl.symm]
    exact h.mul_zero (hm l r)

end Units

end Mat4

/-- With one rounding after each operation, one and the zeros of both signs act exactly on
everything that is finite. -/
theorem BinaryScalar.exactUnits (S : Type) [Zero S] [One S] [Add S] [Sub S] [Mul S] [Div S]
    [BEq S] [BinaryScalar S] :
    ExactUnits {x : S | (read x).isFinite = true} {z | Binary.IsZero (read z)} where
  one_mul hx := one_mul_of_isFinite hx
  mul_one hx := by
    rw [BinaryScalar.mul_comm]
    exact one_mul_of_isFinite hx
  zero_mul hx := isZero_zero_mul hx
  mul_zero hx := by
    rw [BinaryScalar.mul_comm]
    exact isZero_zero_mul hx
  zero_add hz hx hn := (zero_add_add_zero hz hx hn).1
  add_zero hz hx hn := (zero_add_add_zero hz hx hn).2
  add_mem hz hz' := isZero_add hz hz'

namespace Interleaved

/-- A lane of finite cells comes through a product with the identity, on either side, up to the
sign of its zeros, and no comparison that takes zeros for equal tells the difference. -/
theorem lane_multiply_identity {S : Type u} [Zero S] [One S] [Add S] [Mul S] {F Z : Set S}
    (h : ExactUnits F Z) {W : Nat} (p : Interleaved S W) (i : Fin W)
    (hcells : ∀ c r, (p.entry c r).lane i ∈ F) (c r : Fin 4) :
    let x := (p.entry c r).lane i
    let left := ((Mat4.identity.multiply p).entry c r).lane i
    let right := ((p.multiply Mat4.identity).entry c r).lane i
    SameUpTo Z x left ∧ SameUpTo Z x right ∧
      ∀ eq : S → S → Bool, (∀ y ∈ F, eq y y) → (∀ z ∈ Z, ∀ z' ∈ Z, eq z z') →
        eq x left ∧ eq x right := by
  have hlane : ∀ c r, (lane p i).entry c r ∈ F := by
    intro c r
    rw [entry_lane]
    exact hcells c r
  have hleft := Mat4.identity_multiply_same h hlane c r
  have hright := Mat4.multiply_identity_same h hlane c r
  rw [← lane_identity i, ← lane_multiply, entry_lane, entry_lane] at hleft hright
  refine ⟨hleft, hright, ?_⟩
  intro eq hself hzeros
  exact ⟨hleft.compare (hself _ (hcells c r)) hzeros, hright.compare (hself _ (hcells c r)) hzeros⟩

/-- The cells are zeros of both signs, subnormal and the largest there are; the other lane holds
nothing finite. -/
theorem lane_multiply_identity_of_signed_zeros :
    let m : Mat4 Float32 := ⟨#v[Float32.ofBits 0x80000000, 0, Float32.ofBits 1, 1,
      Float32.ofBits 0x80000001, Float32.ofBits 0x80000000, 0, Float32.ofBits 0x7f7fffff,
      0, 0, Float32.ofBits 0x80000000, Float32.ofBits 0xff7fffff,
      1, Float32.ofBits 0x3f000000, Float32.ofBits 0x80000000, 0]⟩
    let p : Interleaved Float32 2 := ofLanes fun i =>
      if i = 0 then Mat4.replicate (Float32.ofBits 0x7f800000) else m
    (∀ c r, (BinaryScalar.read ((p.entry c r).lane 1)).isFinite = true) ∧
      ∀ c r, ((p.entry c r).lane 1 == ((Mat4.identity.multiply p).entry c r).lane 1) = true ∧
        ((p.entry c r).lane 1 == ((p.multiply Mat4.identity).entry c r).lane 1) = true := by
  intro m p
  have hfinite : ∀ c r, (BinaryScalar.read (m.entry c r)).isFinite = true := by
    decide +kernel
  have hcells : ∀ c r, (BinaryScalar.read ((p.entry c r).lane 1)).isFinite = true := by
    intro c r
    rw [← entry_lane, lane_ofLanes, if_neg (by decide)]
    exact hfinite c r
  refine ⟨hcells, ?_⟩
  intro c r
  obtain ⟨_, _, hcompare⟩ :=
    lane_multiply_identity (BinaryScalar.exactUnits Float32) p 1 hcells c r
  exact hcompare (· == ·) (fun _ => BinaryScalar.beq_self)
    fun _ hz _ hz' => BinaryScalar.beq_of_isZero hz hz'

end Interleaved

end LaneMatrix
