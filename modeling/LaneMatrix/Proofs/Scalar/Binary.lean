import LaneMatrix.Proofs.Scalar.Rounding

/-!
# Rounding scalars

Scalars of type `Float32` and `Float` are patterns of a binary format. An operation reads its
arguments, computes the exact result, rounds it once and keeps that; everything that is not a
number is one value. `BinaryScalar` says this of a type, and the laws below hold for both: which
results are zero, infinite or not a number, that multiplication commutes, and that a product with
one and a sum with zero are exact. None of them says how near a rounded result is.
-/

namespace LaneMatrix

namespace Binary

open Float.Model (Format UnpackedFloat totalExponent)
open Float.Model.UnpackedFloat

variable (fmt : Format)

inductive IsZero : UnpackedFloat → Prop where
  | zero (s : Sign) : IsZero (.zero s)

inductive ZeroOrNaN : UnpackedFloat → Prop where
  | zero (s : Sign) : ZeroOrNaN (.zero s)
  | notANumber : ZeroOrNaN .notANumber

inductive InfiniteOrNaN : UnpackedFloat → Prop where
  | infinity (s : Sign) : InfiniteOrNaN (.infinity s)
  | notANumber : InfiniteOrNaN .notANumber

theorem IsZero.special {u : UnpackedFloat} (h : IsZero u) : Special u := by
  cases h with
  | zero s => exact .zero s

theorem ZeroOrNaN.special {u : UnpackedFloat} (h : ZeroOrNaN u) : Special u := by
  cases h with
  | zero s => exact .zero s
  | notANumber => exact .notANumber

theorem InfiniteOrNaN.special {u : UnpackedFloat} (h : InfiniteOrNaN u) : Special u := by
  cases h with
  | infinity s => exact .infinity s
  | notANumber => exact .notANumber

theorem sign_mul_comm (s t : Sign) : s * t = t * s := by
  cases s <;> cases t <;> rfl

theorem positive_mul (s : Sign) : .positive * s = s := by
  cases s <;> rfl

theorem mul_comm (u v : UnpackedFloat) :
    UnpackedFloat.mul fmt u v = UnpackedFloat.mul fmt v u := by
  cases u <;> cases v <;>
    simp only [UnpackedFloat.mul, sign_mul_comm, Nat.mul_comm, Int.add_comm]

theorem zeroOrNaN_mul {u : UnpackedFloat} (h : ZeroOrNaN u) (v : UnpackedFloat) :
    ZeroOrNaN (UnpackedFloat.mul fmt u v) := by
  cases h <;> cases v <;> constructor

theorem zeroOrNaN_add {u v : UnpackedFloat} (hu : ZeroOrNaN u) (hv : ZeroOrNaN v) :
    ZeroOrNaN (UnpackedFloat.add fmt u v) := by
  cases hu <;> cases hv
  · rw [UnpackedFloat.add]
    split <;> constructor
  all_goals constructor

theorem zeroOrNaN_sub {u v : UnpackedFloat} (hu : ZeroOrNaN u) (hv : ZeroOrNaN v) :
    ZeroOrNaN (UnpackedFloat.sub fmt u v) := by
  cases hu <;> cases hv
  · rw [UnpackedFloat.sub]
    split <;> constructor
  all_goals constructor

theorem infiniteOrNaN_mul (u : UnpackedFloat) {v : UnpackedFloat} (h : InfiniteOrNaN v) :
    InfiniteOrNaN (UnpackedFloat.mul fmt u v) := by
  cases u <;> cases h <;> constructor

theorem infiniteOrNaN_div {s : Sign} {n : Nat} {x : Int} {hn : 0 < n} {v : UnpackedFloat}
    (h : ZeroOrNaN v) : InfiniteOrNaN (UnpackedFloat.div fmt (.finite s n x hn) v) := by
  cases h <;> constructor

theorem isZero_mul {u v : UnpackedFloat} (hu : IsZero u) (hv : v.isFinite = true) :
    IsZero (UnpackedFloat.mul fmt u v) := by
  cases hu
  cases v with
  | infinity t => cases hv
  | notANumber => cases hv
  | zero t => constructor
  | finite t n x hn => constructor

theorem isZero_add {u v : UnpackedFloat} (hu : IsZero u) (hv : IsZero v) :
    IsZero (UnpackedFloat.add fmt u v) := by
  cases hu
  cases hv
  rw [UnpackedFloat.add]
  split <;> constructor

/-- Zeros are lost in a sum with any other finite value, on both sides. -/
theorem zero_add_add_zero {u v : UnpackedFloat} (hu : IsZero u) (hv : v.isFinite = true)
    (hz : ¬ IsZero v) :
    UnpackedFloat.add fmt u v = v ∧ UnpackedFloat.add fmt v u = v := by
  cases hu
  cases v with
  | infinity t => cases hv
  | notANumber => cases hv
  | zero t => exact absurd (.zero t) hz
  | finite t n x hn => exact ⟨rfl, rfl⟩

theorem one_mul {fmt : Format} {b : BitVec fmt.numBits} {v : UnpackedFloat}
    (h : UnpackedFloat.unpack fmt b = v) (hv : v.isFinite = true) :
    UnpackedFloat.mul fmt (.finite .positive (2 ^ fmt.mantissaBitsWithoutImplicit)
      (-fmt.mantissaBitsWithoutImplicit) (Nat.two_pow_pos _)) v = v := by
  cases v with
  | infinity t => cases hv
  | notANumber => cases hv
  | zero t => rw [UnpackedFloat.mul, positive_mul]
  | finite t n x hn =>
    rw [UnpackedFloat.mul, positive_mul, Nat.mul_comm, Int.add_comm]
    exact roundWithAccuracy_of_target _ (targetExponent_of_unpack h)

theorem beq_self {v : UnpackedFloat} (hv : v.isFinite = true) : v.beq v = true := by
  have hne : v ≠ .notANumber := by
    rintro rfl
    cases hv
  exact (beq_iff_ne_notANumber_and_eq v v).2 ⟨hne, hne, .inl rfl⟩

theorem beq_of_isZero {u v : UnpackedFloat} (hu : IsZero u) (hv : IsZero v) :
    u.beq v = true := by
  cases hu
  cases hv
  rfl

end Binary

open Float.Model (Format UnpackedFloat)
open Binary

/-- Scalars that are read from and kept in a binary format, with one rounding after each exact
operation. -/
class BinaryScalar (S : Type) [Zero S] [One S] [Add S] [Sub S] [Mul S] [Div S] [BEq S] where
  format : Format
  read : S → UnpackedFloat
  keep : UnpackedFloat → S
  held : ∀ x, ∃ b, UnpackedFloat.unpack format b = read x
  keep_read : ∀ x, keep (read x) = x
  read_keep : ∀ {u}, Special u → read (keep u) = u
  read_zero : read 0 = .zero .positive
  read_one : read 1 = .finite .positive (2 ^ format.mantissaBitsWithoutImplicit)
    (-format.mantissaBitsWithoutImplicit) (Nat.two_pow_pos _)
  add_eq : ∀ x y : S, x + y = keep (UnpackedFloat.add format (read x) (read y))
  sub_eq : ∀ x y : S, x - y = keep (UnpackedFloat.sub format (read x) (read y))
  mul_eq : ∀ x y : S, x * y = keep (UnpackedFloat.mul format (read x) (read y))
  div_eq : ∀ x y : S, x / y = keep (UnpackedFloat.div format (read x) (read y))
  beq_eq : ∀ x y : S, (x == y) = (read x).beq (read y)

instance : BinaryScalar Float32 where
  format := Format.binary32
  read x := x.toModel.unpack
  keep u := .ofModel (.pack u)
  held x := ⟨_, rfl⟩
  keep_read x := by
    obtain ⟨bits, valid⟩ := x
    have h := UnpackedFloat.pack_unpack_of_valid valid
    simp only [Float32.Model.pack, Float32.Model.unpack, h]
  read_keep h := unpack_pack_of_special h
  read_zero := rfl
  read_one := rfl
  add_eq _ _ := rfl
  sub_eq _ _ := rfl
  mul_eq _ _ := rfl
  div_eq _ _ := rfl
  beq_eq _ _ := rfl

instance : BinaryScalar Float where
  format := Format.binary64
  read x := x.toModel.unpack
  keep u := .ofModel (.pack u)
  held x := ⟨_, rfl⟩
  keep_read x := by
    obtain ⟨bits, valid⟩ := x
    have h := UnpackedFloat.pack_unpack_of_valid valid
    simp only [Float.Model.pack, Float.Model.unpack, h]
  read_keep h := unpack_pack_of_special h
  read_zero := rfl
  read_one := rfl
  add_eq _ _ := rfl
  sub_eq _ _ := rfl
  mul_eq _ _ := rfl
  div_eq _ _ := rfl
  beq_eq _ _ := rfl

namespace BinaryScalar

variable {S : Type} [Zero S] [One S] [Add S] [Sub S] [Mul S] [Div S] [BEq S] [BinaryScalar S]

protected theorem mul_comm (x y : S) : x * y = y * x := by
  rw [mul_eq, mul_eq, Binary.mul_comm]

theorem zeroOrNaN_mul_left {z : S} (hz : ZeroOrNaN (read z)) (x : S) :
    ZeroOrNaN (read (z * x)) := by
  have h := zeroOrNaN_mul (format S) hz (read x)
  rwa [mul_eq, read_keep h.special]

theorem zeroOrNaN_add {z z' : S} (hz : ZeroOrNaN (read z)) (hz' : ZeroOrNaN (read z')) :
    ZeroOrNaN (read (z + z')) := by
  have h := Binary.zeroOrNaN_add (format S) hz hz'
  rwa [add_eq, read_keep h.special]

theorem zeroOrNaN_sub {z z' : S} (hz : ZeroOrNaN (read z)) (hz' : ZeroOrNaN (read z')) :
    ZeroOrNaN (read (z - z')) := by
  have h := Binary.zeroOrNaN_sub (format S) hz hz'
  rwa [sub_eq, read_keep h.special]

theorem infiniteOrNaN_mul_right (x : S) {y : S} (hy : InfiniteOrNaN (read y)) :
    InfiniteOrNaN (read (x * y)) := by
  have h := infiniteOrNaN_mul (format S) (read x) hy
  rwa [mul_eq, read_keep h.special]

theorem infiniteOrNaN_one_div {z : S} (hz : ZeroOrNaN (read z)) :
    InfiniteOrNaN (read (1 / z)) := by
  rw [div_eq, read_one, read_keep (infiniteOrNaN_div (format S) hz).special]
  exact infiniteOrNaN_div (format S) hz

theorem one_mul_of_isFinite {x : S} (hx : (read x).isFinite = true) : 1 * x = x := by
  obtain ⟨b, hb⟩ := held x
  rw [mul_eq, read_one, Binary.one_mul hb hx, keep_read]

theorem isZero_zero_mul {x : S} (hx : (read x).isFinite = true) : IsZero (read (0 * x)) := by
  have hz : IsZero (read (0 : S)) := by
    rw [read_zero]
    exact .zero _
  have h := isZero_mul (format S) hz hx
  rwa [mul_eq, read_keep h.special]

theorem isZero_add {z z' : S} (hz : IsZero (read z)) (hz' : IsZero (read z')) :
    IsZero (read (z + z')) := by
  have h := Binary.isZero_add (format S) hz hz'
  rwa [add_eq, read_keep h.special]

theorem zero_add_add_zero {z x : S} (hz : IsZero (read z)) (hx : (read x).isFinite = true)
    (hn : ¬ IsZero (read x)) : z + x = x ∧ x + z = x := by
  obtain ⟨hl, hr⟩ := Binary.zero_add_add_zero (format S) hz hx hn
  rw [add_eq, add_eq, hl, hr, keep_read]
  exact ⟨rfl, rfl⟩

theorem beq_self {x : S} (hx : (read x).isFinite = true) : (x == x) = true := by
  rw [beq_eq]
  exact Binary.beq_self hx

theorem beq_of_isZero {z z' : S} (hz : IsZero (read z)) (hz' : IsZero (read z')) :
    (z == z') = true := by
  rw [beq_eq]
  exact Binary.beq_of_isZero hz hz'

end BinaryScalar

end LaneMatrix
