/-!
# Lanes

`Lanes S W` holds `W` scalars that one operation treats as a unit. Every arithmetic operation is
lane-wise: the lemmas below describe it through `Lanes.lane`, the projection to one lane, and no
law of the scalars is used.
-/

universe u v

namespace LaneMatrix

structure Lanes (S : Type u) (W : Nat) where
  toVector : Vector S W
  deriving DecidableEq

namespace Lanes

def lane {S : Type u} {W : Nat} (p : Lanes S W) (i : Fin W) : S := p.toVector.get i

theorem lane_eq_getElem {S : Type u} {W : Nat} (p : Lanes S W) (i : Fin W) :
    p.lane i = p.toVector[i.val] := rfl

def ofFn {S : Type u} {W : Nat} (f : Fin W → S) : Lanes S W := ⟨Vector.ofFn f⟩

@[simp] theorem lane_ofFn {S : Type u} {W : Nat} (f : Fin W → S) (i : Fin W) :
    (ofFn f).lane i = f i := by
  simp [lane_eq_getElem, ofFn]

@[ext] theorem ext {S : Type u} {W : Nat} {p q : Lanes S W}
    (h : ∀ i, p.lane i = q.lane i) : p = q := by
  cases p with
  | mk xs =>
    cases q with
    | mk ys =>
      congr 1
      exact Vector.ext fun i hi => h ⟨i, hi⟩

@[simp] theorem ofFn_lane {S : Type u} {W : Nat} (p : Lanes S W) :
    ofFn (fun i => p.lane i) = p :=
  ext fun i => lane_ofFn _ i

def splat {S : Type u} {W : Nat} (value : S) : Lanes S W := ⟨Vector.replicate W value⟩

@[simp] theorem lane_splat {S : Type u} {W : Nat} (value : S) (i : Fin W) :
    (splat value : Lanes S W).lane i = value := by
  simp [lane_eq_getElem, splat]

instance {S : Type u} {W : Nat} [Zero S] : Zero (Lanes S W) := ⟨splat 0⟩
instance {S : Type u} {W : Nat} [One S] : One (Lanes S W) := ⟨splat 1⟩

instance {S : Type u} {W : Nat} [Add S] : Add (Lanes S W) :=
  ⟨fun p q => ⟨p.toVector.zipWith (· + ·) q.toVector⟩⟩
instance {S : Type u} {W : Nat} [Sub S] : Sub (Lanes S W) :=
  ⟨fun p q => ⟨p.toVector.zipWith (· - ·) q.toVector⟩⟩
instance {S : Type u} {W : Nat} [Mul S] : Mul (Lanes S W) :=
  ⟨fun p q => ⟨p.toVector.zipWith (· * ·) q.toVector⟩⟩
instance {S : Type u} {W : Nat} [Div S] : Div (Lanes S W) :=
  ⟨fun p q => ⟨p.toVector.zipWith (· / ·) q.toVector⟩⟩

@[simp] theorem lane_zero {S : Type u} {W : Nat} [Zero S] (i : Fin W) :
    (0 : Lanes S W).lane i = 0 :=
  lane_splat 0 i

@[simp] theorem lane_one {S : Type u} {W : Nat} [One S] (i : Fin W) :
    (1 : Lanes S W).lane i = 1 :=
  lane_splat 1 i

@[simp] theorem lane_add {S : Type u} {W : Nat} [Add S] (p q : Lanes S W) (i : Fin W) :
    (p + q).lane i = p.lane i + q.lane i :=
  Vector.getElem_zipWith i.isLt

@[simp] theorem lane_sub {S : Type u} {W : Nat} [Sub S] (p q : Lanes S W) (i : Fin W) :
    (p - q).lane i = p.lane i - q.lane i :=
  Vector.getElem_zipWith i.isLt

@[simp] theorem lane_mul {S : Type u} {W : Nat} [Mul S] (p q : Lanes S W) (i : Fin W) :
    (p * q).lane i = p.lane i * q.lane i :=
  Vector.getElem_zipWith i.isLt

@[simp] theorem lane_div {S : Type u} {W : Nat} [Div S] (p q : Lanes S W) (i : Fin W) :
    (p / q).lane i = p.lane i / q.lane i :=
  Vector.getElem_zipWith i.isLt

/-- Equal when all lanes are, by the comparison of the scalars. -/
instance {S : Type u} {W : Nat} [BEq S] : BEq (Lanes S W) := ⟨fun p q => p.toVector == q.toVector⟩

end Lanes

end LaneMatrix
