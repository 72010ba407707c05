import LaneMatrix.Lanes.Buffer
import LaneMatrix.Mat4.Cell
import LaneMatrix.Mat4.Inverse

/-!
# Interleaved matrices

`Interleaved S W` holds `W` matrices side by side: each of its sixteen cells is a unit of `W`
lanes, and lane `i` of all cells together is matrix `i`. The projection `Interleaved.lane` carries
every operation on interleaved matrices to the same operation on matrix `i` alone.

A stream holds interleaved matrices in a flat buffer, cell after cell: cell `k` of lane `i` stands
`k * W + i` places behind the start. A buffer without room for all `16 * W` scalars is a fault,
found before anything is written.
-/

universe u

namespace LaneMatrix

abbrev Interleaved (S : Type u) (W : Nat) := Mat4 (Lanes S W)

namespace Interleaved

def lane {S : Type u} {W : Nat} (p : Interleaved S W) (i : Fin W) : Mat4 S :=
  p.map fun x => x.lane i

theorem entry_lane {S : Type u} {W : Nat} (p : Interleaved S W) (i : Fin W) (c r : Fin 4) :
    (lane p i).entry c r = (p.entry c r).lane i :=
  Mat4.entry_map _ _ _ _

theorem ext_lane {S : Type u} {W : Nat} {p q : Interleaved S W}
    (h : ∀ i, lane p i = lane q i) : p = q := by
  apply Mat4.ext
  intro c r
  apply Lanes.ext
  intro i
  rw [← entry_lane, ← entry_lane, h]

def ofLanes {S : Type u} {W : Nat} (f : Fin W → Mat4 S) : Interleaved S W :=
  Mat4.ofFn fun c r => Lanes.ofFn fun i => (f i).entry c r

@[simp] theorem lane_ofLanes {S : Type u} {W : Nat} (f : Fin W → Mat4 S) (i : Fin W) :
    lane (ofLanes f) i = f i := by
  ext c r
  simp only [entry_lane, ofLanes, Mat4.entry_ofFn, Lanes.lane_ofFn]

/-- The matrix of one lane, for a lane that is not known to be there. -/
def laneMatrix {S : Type u} {W : Nat} (p : Interleaved S W) (i : Nat) : Except Fault (Mat4 S) :=
  if h : i < W then .ok (lane p ⟨i, h⟩) else .error (.lane i W)

/-- The same matrix in every lane. -/
def splat {S : Type u} (W : Nat) (m : Mat4 S) : Interleaved S W := m.map fun x => Lanes.splat x

@[simp] theorem lane_splat {S : Type u} {W : Nat} (m : Mat4 S) (i : Fin W) :
    lane (splat W m) i = m := by
  ext c r
  simp only [entry_lane, splat, Mat4.entry_map, Lanes.lane_splat]

theorem lane_zero {S : Type u} {W : Nat} [Zero S] (i : Fin W) :
    lane (0 : Interleaved S W) i = 0 := by
  ext c r
  simp only [entry_lane, Mat4.entry_zero, Lanes.lane_zero]

theorem lane_identity {S : Type u} {W : Nat} [Zero S] [One S] (i : Fin W) :
    lane (Mat4.identity : Interleaved S W) i = Mat4.identity := by
  ext c r
  simp only [entry_lane, Mat4.entry_identity]
  split <;> simp

theorem lane_transpose {S : Type u} {W : Nat} (p : Interleaved S W) (i : Fin W) :
    lane p.transpose i = (lane p i).transpose := by
  ext c r
  simp only [entry_lane, Mat4.entry_transpose]

theorem lane_multiply {S : Type u} {W : Nat} [Add S] [Mul S] (p q : Interleaved S W)
    (i : Fin W) : lane (p.multiply q) i = (lane p i).multiply (lane q i) :=
  Mat4.map_multiply _ (fun x y => Lanes.lane_add x y i) (fun x y => Lanes.lane_mul x y i) p q

theorem lane_inverse {S : Type u} {W : Nat} [Add S] [Sub S] [Mul S] [Div S] [One S]
    (p : Interleaved S W) (i : Fin W) : lane p.inverse i = (lane p i).inverse :=
  Mat4.map_inverse _ (Lanes.lane_one i) (fun x y => Lanes.lane_add x y i)
    (fun x y => Lanes.lane_sub x y i) (fun x y => Lanes.lane_mul x y i)
    (fun x y => Lanes.lane_div x y i) p

def storeStream {S : Type u} {W : Nat} (p : Interleaved S W) (dst : Array S) (start : Nat) :
    Except Fault (Array S) :=
  if 16 * W ≤ dst.size - start then
    (List.finRange 16).foldlM (fun d k => (p.cellAt k).store d (start + k.val * W)) dst
  else .error (.stream (16 * W) (dst.size - start))

theorem size_of_foldlM_store {S : Type u} {W : Nat} (p : Interleaved S W) {ks : List (Fin 16)}
    {dst d : Array S} {start : Nat}
    (h : ks.foldlM (fun d k => (p.cellAt k).store d (start + k.val * W)) dst = .ok d) :
    d.size = dst.size := by
  induction ks generalizing dst with
  | nil => rw [← Except.ok.inj h]
  | cons k ks ih =>
    rw [List.foldlM_cons] at h
    cases hstore : (p.cellAt k).store dst (start + k.val * W) with
    | error f =>
      rw [hstore] at h
      cases h
    | ok next =>
      rw [hstore] at h
      exact (ih h).trans (Lanes.size_of_store hstore)

theorem size_of_storeStream {S : Type u} {W : Nat} {p : Interleaved S W} {dst d : Array S}
    {start : Nat} (h : storeStream p dst start = .ok d) : d.size = dst.size := by
  rw [storeStream] at h
  split at h
  · exact size_of_foldlM_store p h
  · cases h

def loadStream {S : Type u} {W : Nat} (src : Array S) (start : Nat) :
    Except Fault (Interleaved S W) :=
  if 16 * W ≤ src.size - start then do
    return ⟨← Vector.ofFnM fun k : Fin 16 => Lanes.load src (start + k.val * W)⟩
  else .error (.stream (16 * W) (src.size - start))

end Interleaved

end LaneMatrix
