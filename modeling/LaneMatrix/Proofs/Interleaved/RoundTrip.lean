import LaneMatrix.Interleaved.Gather

/-!
# Gathering and scattering back

Gathering takes as many matrices as there are lanes and no other number. What it gives holds them
lane by lane, scattering gives them back, and interleaved matrices that are scattered can be
gathered again. Both ways go cell by cell through one scratch buffer; nothing of this is left, and
since the scalars are of any type none of them can have changed on the way.
-/

universe u

namespace LaneMatrix.Interleaved

theorem ofMatrices_of_size_ne {S : Type u} [Zero S] {W : Nat} {ms : Array (Mat4 S)}
    (h : ms.size ≠ W) : ofMatrices W ms = .error (.argument (.laneCount W ms.size)) :=
  if_neg h

/-- The checked reading of a lane finds exactly the matrices that were put in. -/
theorem laneMatrix_ofLanes {S : Type u} [Zero S] {W : Nat} {ms : Array (Mat4 S)}
    (h : ms.size = W) (i : Nat) :
    laneMatrix (ofLanes fun j : Fin W => ms.getD j.val 0) i =
      if hi : i < ms.size then .ok ms[i] else .error (.lane i W) := by
  subst h
  rw [laneMatrix]
  by_cases hi : i < ms.size
  · rw [dif_pos hi, dif_pos hi, lane_ofLanes, Array.getElem_eq_getD]
  · rw [dif_neg hi, dif_neg hi]

theorem toMatrices_ofLanes {S : Type u} [Zero S] {W : Nat} {ms : Array (Mat4 S)}
    (h : ms.size = W) : toMatrices (ofLanes fun i : Fin W => ms.getD i.val 0) = .ok ms := by
  rw [toMatrices_eq]
  refine congrArg Except.ok ?_
  apply Array.ext
  · rw [Array.size_ofFn, h]
  · intro i _ hi
    rw [Array.getElem_ofFn, lane_ofLanes, Array.getElem_eq_getD]

/-- The lanes of `p` as a list, gathered again. -/
theorem ofMatrices_ofFn_lane {S : Type u} [Zero S] {W : Nat} (p : Interleaved S W) :
    ofMatrices W (Array.ofFn (lane p)) = .ok p := by
  rw [ofMatrices_of_size Array.size_ofFn]
  refine congrArg Except.ok ?_
  apply ext_lane
  intro i
  rw [lane_ofLanes, ← Array.getElem_eq_getD (h := by rw [Array.size_ofFn]; exact i.isLt),
    Array.getElem_ofFn]

/-- Cell `k` of matrix `i` in the list is lane `i` of cell `k`. -/
theorem cellAt_ofFn_lane {S : Type u} {W : Nat} (p : Interleaved S W) (i : Fin W) (k : Fin 16) :
    ((Array.ofFn (lane p))[i.val]?.map fun m => m.cellAt k) = some ((p.cellAt k).lane i) := by
  rw [Array.getElem?_ofFn, dif_pos i.isLt]
  exact congrArg some (Mat4.cellAt_map _ p k)

/-- Gathering and scattering undo each other. Gathering fails on any number of matrices but the
width; lanes that are not there cannot be read. -/
theorem ofMatrices_toMatrices_inverse {S : Type u} [Zero S] (W : Nat) :
    (∀ ms : Array (Mat4 S),
      if ms.size = W then
        ∃ p : Interleaved S W, ofMatrices W ms = .ok p ∧ toMatrices p = .ok ms ∧
          ∀ i, laneMatrix p i = if hi : i < ms.size then .ok ms[i] else .error (.lane i W)
      else ofMatrices W ms = .error (.argument (.laneCount W ms.size))) ∧
    ∀ p : Interleaved S W, ∃ ms, toMatrices p = .ok ms ∧ ofMatrices W ms = .ok p ∧
      ∀ (i : Fin W) (k : Fin 16),
        (ms[i.val]?.map fun m => m.cellAt k) = some ((p.cellAt k).lane i) := by
  constructor
  · intro ms
    split
    · rename_i h
      exact ⟨_, ofMatrices_of_size h, toMatrices_ofLanes h, laneMatrix_ofLanes h⟩
    · rename_i h
      exact ofMatrices_of_size_ne h
  · intro p
    exact ⟨_, toMatrices_eq p, ofMatrices_ofFn_lane p, cellAt_ofFn_lane p⟩

end LaneMatrix.Interleaved
