import LaneMatrix.Interleaved
import LaneMatrix.Interleaved.Scratch

/-!
# Gathering and scattering

Matrices are gathered into lanes cell by cell: the scalars of one cell are collected in a scratch
buffer and loaded from there, and lanes without a matrix take the cell of a padding matrix.
Scattering goes the other way. Whatever the scratch held before, `gives_gather` says that lane `i`
of the result is matrix `i`, and `gives_scatter` that matrix `i` of the output becomes lane `i`.
-/

universe u

namespace LaneMatrix.Interleaved

/-- What the lanes hold for cell `k`: the matrices that are there, then the padding. -/
def cellScalars {S : Type u} (W : Nat) (ms : Array (Mat4 S)) (pad : Mat4 S) (k : Fin 16) :
    List S :=
  List.ofFn fun i : Fin W => (ms.getD i.val pad).cellAt k

def gatherCell {S : Type u} {W : Nat} (ms : Array (Mat4 S)) (pad : Mat4 S) (k : Fin 16) :
    WithScratch S (Lanes S W) := fun scratch => do
  if W ≤ scratch.size then
    let filled := overwrite scratch 0 (cellScalars W ms pad k)
    return (← Lanes.load filled 0, filled)
  else throw .shortSlice

def gather {S : Type u} {W : Nat} (ms : Array (Mat4 S)) (pad : Mat4 S) :
    WithScratch S (Interleaved S W) := do
  return ⟨← Vector.ofFnM (gatherCell ms pad)⟩

/-- Writes cell `k` of the first lanes into the matrices of `out`. -/
def scatterCell {S : Type u} {W : Nat} (p : Interleaved S W) (out : Array (Mat4 S))
    (k : Fin 16) : WithScratch S (Array (Mat4 S)) := fun scratch => do
  let filled ← (p.cellAt k).store scratch 0
  if h : out.size ≤ filled.size then
    return (out.mapFinIdx fun i m hi => m.setCellAt k filled[i], filled)
  else throw .index

def scatter {S : Type u} {W : Nat} (p : Interleaved S W) (out : Array (Mat4 S)) :
    WithScratch S (Array (Mat4 S)) :=
  (List.finRange 16).foldlM (scatterCell p) out

theorem length_cellScalars {S : Type u} (W : Nat) (ms : Array (Mat4 S)) (pad : Mat4 S)
    (k : Fin 16) : (cellScalars W ms pad k).length = W :=
  List.length_ofFn

theorem sameBehind_overwrite {S : Type u} {W : Nat} (s : Array S) {vs : List S}
    (h : vs.length = W) : SameBehind W s (overwrite s 0 vs) := by
  refine ⟨size_overwrite s 0 vs, ?_⟩
  intro j hj
  rw [getElem?_overwrite, if_neg (by omega)]

theorem gives_gatherCell {S : Type u} {W : Nat} (ms : Array (Mat4 S)) (pad : Mat4 S)
    (k : Fin 16) :
    WithScratch.Gives W (gatherCell ms pad k)
      (Lanes.ofFn fun i : Fin W => (ms.getD i.val pad).cellAt k) := by
  intro s hs
  refine ⟨overwrite s 0 (cellScalars W ms pad k), ?_,
    sameBehind_overwrite s (length_cellScalars W ms pad k)⟩
  have hload : Lanes.load (overwrite s 0 (cellScalars W ms pad k)) 0 =
      .ok (Lanes.ofFn fun i : Fin W => (ms.getD i.val pad).cellAt k) := by
    rw [Lanes.load, dif_pos (by rw [size_overwrite]; omega)]
    congr 2
    funext i
    apply Option.some.inj
    rw [← Array.getElem?_eq_getElem, Nat.zero_add, getElem?_overwrite,
      if_pos ⟨by omega, by rw [length_cellScalars]; omega, by omega⟩]
    simp [cellScalars]
  simp only [gatherCell, if_pos hs, hload]
  rfl

theorem gives_gather {S : Type u} {W : Nat} (ms : Array (Mat4 S)) (pad : Mat4 S) :
    WithScratch.Gives W (gather ms pad) (ofLanes fun i : Fin W => ms.getD i.val pad) := by
  have hcells : ofLanes (fun i : Fin W => ms.getD i.val pad) =
      ⟨Vector.ofFn fun k => Lanes.ofFn fun i : Fin W => (ms.getD i.val pad).cellAt k⟩ := by
    apply ext_lane
    intro i
    rw [lane_ofLanes]
    apply Mat4.ext_cellAt
    intro k
    simp [lane, Mat4.cellAt_eq_getElem, Mat4.map]
  rw [hcells]
  exact WithScratch.gives_bind (WithScratch.gives_ofFnM (gives_gatherCell ms pad))
    (WithScratch.gives_pure W _)

/-- Cell `k` of every matrix in the output is replaced by the cell of its lane. -/
def putCell {S : Type u} {W : Nat} (p : Interleaved S W) (out : Array (Mat4 S)) (k : Fin 16) :
    Array (Mat4 S) :=
  out.mapFinIdx fun i m _ => if h : i < W then m.setCellAt k ((p.cellAt k).lane ⟨i, h⟩) else m

theorem gives_scatterCell {S : Type u} {W : Nat} (p : Interleaved S W) (out : Array (Mat4 S))
    (k : Fin 16) (ho : out.size ≤ W) :
    WithScratch.Gives W (scatterCell p out k) (putCell p out k) := by
  intro s hs
  refine ⟨overwrite s 0 (p.cellAt k).toList, ?_, sameBehind_overwrite s (Lanes.length_toList _)⟩
  have hsize : out.size ≤ (overwrite s 0 (p.cellAt k).toList).size := by
    rw [size_overwrite]
    omega
  have hstore : (p.cellAt k).store s 0 = .ok (overwrite s 0 (p.cellAt k).toList) := by
    rw [Lanes.store, if_pos (by omega)]
  simp only [scatterCell, hstore, bind, Except.bind, pure, Except.pure, dif_pos hsize, putCell]
  congr 2
  apply Array.ext
  · simp
  · intro i h1 h2
    have hi : i < W := by
      rw [Array.size_mapFinIdx] at h1
      omega
    simp only [Array.getElem_mapFinIdx, dif_pos hi]
    congr 1
    apply Option.some.inj
    rw [← Array.getElem?_eq_getElem, getElem?_overwrite,
      if_pos ⟨by omega, by rw [Lanes.length_toList]; omega, by omega⟩, Nat.sub_zero]
    exact Lanes.getElem?_toList (p.cellAt k) ⟨i, hi⟩

theorem size_foldl_putCell {S : Type u} {W : Nat} (p : Interleaved S W) (ks : List (Fin 16))
    (out : Array (Mat4 S)) : (ks.foldl (putCell p) out).size = out.size := by
  induction ks generalizing out with
  | nil => rfl
  | cons k ks ih => rw [List.foldl_cons, ih, putCell, Array.size_mapFinIdx]

theorem cellAt_foldl_putCell {S : Type u} {W : Nat} (p : Interleaved S W) (ks : List (Fin 16))
    (out : Array (Mat4 S)) (i : Nat) (hi : i < W) (m n : Mat4 S) (hm : out[i]? = some m)
    (hn : (ks.foldl (putCell p) out)[i]? = some n) (l : Fin 16) :
    (l ∈ ks → n.cellAt l = (p.cellAt l).lane ⟨i, hi⟩) ∧ (l ∉ ks → n.cellAt l = m.cellAt l) := by
  induction ks generalizing out m with
  | nil =>
    rw [List.foldl_nil, hm] at hn
    rw [Option.some.inj hn]
    exact ⟨fun h => absurd h List.not_mem_nil, fun _ => rfl⟩
  | cons k ks ih =>
    have hk : (putCell p out k)[i]? = some (m.setCellAt k ((p.cellAt k).lane ⟨i, hi⟩)) := by
      rw [putCell, Array.getElem?_mapFinIdx]
      simp only [Array.getElem?_eq_some_iff] at hm
      obtain ⟨hs, hm⟩ := hm
      simp [hs, hm, hi]
    obtain ⟨hin, hout⟩ := ih (putCell p out k) _ hk hn
    constructor
    · intro h
      by_cases hl : l ∈ ks
      · exact hin hl
      · obtain rfl : l = k := (List.mem_cons.1 h).resolve_right hl
        rw [hout hl, Mat4.cellAt_setCellAt, if_pos rfl]
    · intro h
      have hl : l ∉ ks := fun hl => h (List.mem_cons_of_mem k hl)
      have hkl : k ≠ l := by
        rintro rfl
        exact h List.mem_cons_self
      rw [hout hl, Mat4.cellAt_setCellAt, if_neg hkl]

/-- Matrix `i` of the output is replaced by lane `i`. -/
def putLanes {S : Type u} {W : Nat} (p : Interleaved S W) (out : Array (Mat4 S)) :
    Array (Mat4 S) :=
  out.mapFinIdx fun i m _ => if h : i < W then lane p ⟨i, h⟩ else m

theorem foldl_putCell {S : Type u} {W : Nat} (p : Interleaved S W) (out : Array (Mat4 S))
    (ho : out.size ≤ W) : (List.finRange 16).foldl (putCell p) out = putLanes p out := by
  apply Array.ext
  · rw [size_foldl_putCell, putLanes, Array.size_mapFinIdx]
  · intro i h1 h2
    have hs : i < out.size := by
      rwa [size_foldl_putCell] at h1
    have hi : i < W := by omega
    simp only [putLanes, Array.getElem_mapFinIdx, dif_pos hi]
    apply Mat4.ext_cellAt
    intro l
    rw [(cellAt_foldl_putCell p (List.finRange 16) out i hi out[i] _
      (Array.getElem?_eq_getElem hs) (Array.getElem?_eq_getElem h1) l).1 (List.mem_finRange l),
      lane, Mat4.cellAt_map]

theorem gives_scatter {S : Type u} {W : Nat} (p : Interleaved S W) (out : Array (Mat4 S))
    (ho : out.size ≤ W) : WithScratch.Gives W (scatter p out) (putLanes p out) := by
  rw [← foldl_putCell p out ho]
  refine WithScratch.gives_foldlM (fun b => b.size ≤ W) ?_ _ _ ho
  intro b k hb
  refine ⟨gives_scatterCell p b k hb, ?_⟩
  rw [putCell, Array.size_mapFinIdx]
  exact hb

/-- One matrix for each lane; any other number of matrices is refused. -/
def ofMatrices {S : Type u} [Zero S] (W : Nat) (ms : Array (Mat4 S)) :
    Except Failure (Interleaved S W) :=
  if ms.size = W then
    ((gather ms 0).run' (Array.replicate W 0)).mapError .fault
  else .error (.argument (.laneCount W ms.size))

def toMatrices {S : Type u} [Zero S] {W : Nat} (p : Interleaved S W) :
    Except Fault (Array (Mat4 S)) :=
  (scatter p (Array.replicate W 0)).run' (Array.replicate W 0)

theorem ofMatrices_of_size {S : Type u} [Zero S] {W : Nat} {ms : Array (Mat4 S)}
    (h : ms.size = W) : ofMatrices W ms = .ok (ofLanes fun i : Fin W => ms.getD i.val 0) := by
  obtain ⟨t, ht, _⟩ := gives_gather (W := W) ms 0 (Array.replicate W 0)
    (Nat.le_of_eq Array.size_replicate.symm)
  rw [ofMatrices, if_pos h, StateT.run', ht]
  rfl

theorem toMatrices_eq {S : Type u} [Zero S] {W : Nat} (p : Interleaved S W) :
    toMatrices p = .ok (Array.ofFn (lane p)) := by
  obtain ⟨t, ht, _⟩ := gives_scatter p (Array.replicate W 0)
    (Nat.le_of_eq Array.size_replicate) (Array.replicate W 0)
    (Nat.le_of_eq Array.size_replicate.symm)
  have hlanes : putLanes p (Array.replicate W 0) = Array.ofFn (lane p) := by
    apply Array.ext
    · simp [putLanes]
    · intro i h1 h2
      have hi : i < W := by simpa using h2
      simp [putLanes, hi]
  rw [toMatrices, StateT.run', ht, ← hlanes]
  rfl

end LaneMatrix.Interleaved
