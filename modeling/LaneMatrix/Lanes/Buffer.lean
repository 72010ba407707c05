import LaneMatrix.Failure
import LaneMatrix.Lanes

/-!
# Lanes in flat buffers

Loading reads `W` neighbouring scalars, lane 0 first, and storing writes them. Both need all `W`
places: a buffer that is too short is a fault, found before anything is written.
-/

universe u

namespace LaneMatrix

/-- Writes the values one after the other from `start` on; a value past the end is dropped. -/
def overwrite {S : Type u} (dst : Array S) (start : Nat) : List S → Array S
  | [] => dst
  | v :: vs => overwrite (dst.setIfInBounds start v) (start + 1) vs

@[simp] theorem size_overwrite {S : Type u} (dst : Array S) (start : Nat) (vs : List S) :
    (overwrite dst start vs).size = dst.size := by
  induction vs generalizing dst start with
  | nil => rfl
  | cons v vs ih => simp [overwrite, ih]

theorem getElem?_overwrite {S : Type u} (dst : Array S) (start : Nat) (vs : List S) (k : Nat) :
    (overwrite dst start vs)[k]? =
      if start ≤ k ∧ k < start + vs.length ∧ k < dst.size then vs[k - start]? else dst[k]? := by
  induction vs generalizing dst start with
  | nil =>
    rw [overwrite, if_neg (by simp only [List.length_nil]; omega)]
  | cons v vs ih =>
    rw [overwrite, ih, Array.size_setIfInBounds, Array.getElem?_setIfInBounds, List.length_cons]
    by_cases hk : start = k
    · subst hk
      rw [if_neg (by omega), if_pos rfl]
      by_cases hs : start < dst.size
      · rw [if_pos hs, if_pos ⟨by omega, by omega, hs⟩, Nat.sub_self, List.getElem?_cons_zero]
      · rw [if_neg hs, if_neg (by omega)]
        exact (Array.getElem?_eq_none (by omega)).symm
    · rw [if_neg hk]
      by_cases hr : start + 1 ≤ k ∧ k < start + 1 + vs.length ∧ k < dst.size
      · have hd : k - start = (k - (start + 1)) + 1 := by omega
        rw [if_pos hr, if_pos ⟨by omega, by omega, hr.2.2⟩, hd, List.getElem?_cons_succ]
      · rw [if_neg hr, if_neg (by omega)]

namespace Lanes

def toList {S : Type u} {W : Nat} (p : Lanes S W) : List S := p.toVector.toList

@[simp] theorem length_toList {S : Type u} {W : Nat} (p : Lanes S W) : p.toList.length = W :=
  Vector.length_toList

theorem getElem?_toList {S : Type u} {W : Nat} (p : Lanes S W) (i : Fin W) :
    p.toList[i.val]? = some (p.lane i) := by
  rw [List.getElem?_eq_getElem (by simp)]
  simp [toList, lane_eq_getElem]

/-- The value of one lane, for an index that is not known to be in range. -/
def extract {S : Type u} {W : Nat} (p : Lanes S W) (i : Nat) : Except Fault S :=
  if h : i < W then .ok (p.lane ⟨i, h⟩) else .error .index

def load {S : Type u} {W : Nat} (src : Array S) (start : Nat) : Except Fault (Lanes S W) :=
  if h : start + W ≤ src.size then
    .ok (ofFn fun i => src[start + i.val])
  else .error .shortSlice

def store {S : Type u} {W : Nat} (p : Lanes S W) (dst : Array S) (start : Nat) :
    Except Fault (Array S) :=
  if start + W ≤ dst.size then .ok (overwrite dst start p.toList) else .error .shortSlice

theorem size_of_store {S : Type u} {W : Nat} {p : Lanes S W} {dst d : Array S} {start : Nat}
    (h : p.store dst start = .ok d) : d.size = dst.size := by
  simp only [store] at h
  split at h
  · rw [← Except.ok.inj h, size_overwrite]
  · cases h

theorem load_of_fits {S : Type u} {W : Nat} {src : Array S} {start : Nat}
    (h : start + W ≤ src.size) :
    ∃ p : Lanes S W, load src start = .ok p ∧ ∀ i : Fin W, src[start + i.val]? = some (p.lane i) := by
  refine ⟨ofFn fun i => src[start + i.val], by rw [load, dif_pos h], ?_⟩
  intro i
  rw [lane_ofFn]
  exact Array.getElem?_eq_getElem (by omega)

theorem load_of_short {S : Type u} {W : Nat} {src : Array S} {start : Nat}
    (h : src.size < start + W) : (load src start : Except Fault (Lanes S W)) = .error .shortSlice :=
  dif_neg (Nat.not_le_of_lt h)

theorem store_of_fits {S : Type u} {W : Nat} (p : Lanes S W) {dst : Array S} {start : Nat}
    (h : start + W ≤ dst.size) : p.store dst start = .ok (overwrite dst start p.toList) :=
  if_pos h

theorem store_of_short {S : Type u} {W : Nat} (p : Lanes S W) {dst : Array S} {start : Nat}
    (h : dst.size < start + W) : p.store dst start = .error .shortSlice :=
  if_neg (Nat.not_le_of_lt h)

/-- Storing changes the places of the lanes and no other. -/
theorem getElem?_of_store {S : Type u} {W : Nat} {p : Lanes S W} {dst d : Array S} {start : Nat}
    (h : p.store dst start = .ok d) (k : Nat) :
    d[k]? = if start ≤ k ∧ k < start + W then p.toList[k - start]? else dst[k]? := by
  by_cases hfit : start + W ≤ dst.size
  · rw [store_of_fits p hfit] at h
    rw [← Except.ok.inj h, getElem?_overwrite, length_toList]
    by_cases hk : start ≤ k ∧ k < start + W
    · rw [if_pos hk, if_pos ⟨hk.1, hk.2, by omega⟩]
    · rw [if_neg hk, if_neg fun hn => hk ⟨hn.1, hn.2.1⟩]
  · rw [store_of_short p (by omega)] at h
    cases h

/-- Loading from a buffer of fixed size, always from its front. -/
def loadBlock {S : Type u} {W N : Nat} (src : Vector S N) : Except Fault (Lanes S W) :=
  load src.toArray 0

def storeBlock {S : Type u} {W N : Nat} (p : Lanes S W) (dst : Vector S N) :
    Except Fault (Vector S N) :=
  match h : p.store dst.toArray 0 with
  | .ok d => .ok ⟨d, (size_of_store h).trans dst.size_toArray⟩
  | .error f => .error f

def blankBlock (S : Type u) [Zero S] (N : Nat) : Vector S N := Vector.replicate N 0

end Lanes

end LaneMatrix
