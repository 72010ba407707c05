import Mathlib.Tactic.Choose
import LaneMatrix.Proofs.Interleaved.RoundTrip

/-!
# Streams are exact and framed

The sixteen stores of a stream stand side by side, so together they are one store of all scalars,
cell after cell: nothing is written twice and nothing outside. From a stream the interleaved
matrices are loaded back whatever stands around it, and its scalars are those that scattering
gives, in the other order. A buffer that is too short is refused before the first store; since a
result cannot show what a fault leaves behind, this is said of a buffer that is changed in place.
-/

universe u

namespace LaneMatrix

/-- Two writes side by side are one. -/
theorem overwrite_append {S : Type u} (dst : Array S) (start : Nat) (us vs : List S) :
    overwrite dst start (us ++ vs) = overwrite (overwrite dst start us) (start + us.length) vs := by
  induction us generalizing dst start with
  | nil => rfl
  | cons u us ih =>
    rw [List.cons_append, overwrite, overwrite, ih, List.length_cons, Nat.add_right_comm,
      Nat.add_assoc]

namespace Lanes

/-- The scalars of several units, one unit after the other. -/
def concat {S : Type u} {W n : Nat} (f : Fin n → Lanes S W) : List S :=
  (List.finRange n).flatMap fun k => (f k).toList

theorem concat_succ {S : Type u} {W n : Nat} (f : Fin (n + 1) → Lanes S W) :
    concat f = concat (fun k => f k.castSucc) ++ (f (Fin.last n)).toList := by
  simp only [concat, List.finRange_succ_last, List.flatMap_append, List.flatMap_map,
    List.flatMap_cons, List.flatMap_nil, List.append_nil]

@[simp] theorem length_concat {S : Type u} {W n : Nat} (f : Fin n → Lanes S W) :
    (concat f).length = n * W := by
  induction n with
  | zero => exact (Nat.zero_mul W).symm
  | succ n ih => rw [concat_succ, List.length_append, ih, length_toList, Nat.succ_mul]

theorem place_lt {W n : Nat} (k : Fin n) (i : Fin W) : k.val * W + i.val < n * W :=
  calc k.val * W + i.val < k.val * W + W := by omega
    _ = (k.val + 1) * W := (Nat.succ_mul k.val W).symm
    _ ≤ n * W := Nat.mul_le_mul_right W k.isLt

theorem exists_place {W n j : Nat} (h : j < n * W) :
    ∃ (k : Fin n) (i : Fin W), j = k.val * W + i.val := by
  have hW : 0 < W := Nat.pos_of_mul_pos_left (Nat.zero_lt_of_lt h)
  refine ⟨⟨j / W, Nat.div_lt_of_lt_mul (by rwa [Nat.mul_comm])⟩, ⟨j % W, Nat.mod_lt j hW⟩, ?_⟩
  exact (Nat.div_add_mod' j W).symm

theorem getElem?_concat {S : Type u} {W n : Nat} (f : Fin n → Lanes S W) (k : Fin n)
    (i : Fin W) : (concat f)[k.val * W + i.val]? = some ((f k).lane i) := by
  induction n with
  | zero => exact k.elim0
  | succ n ih =>
    rw [concat_succ]
    cases k using Fin.lastCases with
    | last =>
      rw [List.getElem?_append_right (by rw [length_concat, Fin.val_last]; omega), length_concat,
        Fin.val_last, Nat.add_sub_cancel_left, getElem?_toList]
    | cast k =>
      rw [List.getElem?_append_left (by rw [length_concat]; exact place_lt k i)]
      exact ih (fun k => f k.castSucc) k

/-- Stores side by side are one write of all the scalars. -/
theorem foldlM_store {S : Type u} {W n : Nat} (f : Fin n → Lanes S W) {dst : Array S}
    {start : Nat} (h : start + n * W ≤ dst.size) :
    (List.finRange n).foldlM (fun d k => (f k).store d (start + k.val * W)) dst =
      .ok (overwrite dst start (concat f)) := by
  induction n with
  | zero => rfl
  | succ n ih =>
    rw [Nat.succ_mul] at h
    have hinit : (List.finRange n).foldlM
        (fun d k => (f k.castSucc).store d (start + k.castSucc.val * W)) dst =
        .ok (overwrite dst start (concat fun k => f k.castSucc)) :=
      ih (fun k => f k.castSucc) (by omega)
    have hlast : (f (Fin.last n)).store (overwrite dst start (concat fun k => f k.castSucc))
        (start + (Fin.last n).val * W) = .ok (overwrite dst start (concat f)) := by
      rw [store_of_fits _ (by rw [size_overwrite, Fin.val_last]; omega), concat_succ,
        overwrite_append, length_concat, Fin.val_last]
    rw [List.finRange_succ_last, List.foldlM_append, List.foldlM_map, hinit]
    exact (bind_pure _).trans hlast

/-- What a store makes of a buffer that is changed in place, with the fault if there is one. -/
def storeInPlace {S : Type u} {W : Nat} (p : Lanes S W) (start : Nat) (dst : Array S) :
    Option Fault × Array S :=
  match p.store dst start with
  | .ok d => (none, d)
  | .error f => (some f, dst)

/-- Stores one after the other up to the first fault; what was written before it stays. -/
def storeAllInPlace {S : Type u} {W : Nat} :
    List (Lanes S W × Nat) → Array S → Option Fault × Array S
  | [], dst => (none, dst)
  | (p, start) :: rest, dst =>
    match p.storeInPlace start dst with
    | (none, d) => storeAllInPlace rest d
    | (some f, d) => (some f, d)

theorem storeAllInPlace_of_ok {ι : Type} {S : Type u} {W : Nat} (f : ι → Lanes S W)
    (place : ι → Nat) {ks : List ι} {dst d : Array S}
    (h : ks.foldlM (fun d k => (f k).store d (place k)) dst = .ok d) :
    storeAllInPlace (ks.map fun k => (f k, place k)) dst = (none, d) := by
  induction ks generalizing dst with
  | nil =>
    rw [List.foldlM_nil] at h
    rw [← Except.ok.inj h]
    rfl
  | cons k ks ih =>
    rw [List.foldlM_cons] at h
    cases hk : (f k).store dst (place k) with
    | error e =>
      rw [hk] at h
      cases h
    | ok c =>
      rw [hk] at h
      rw [List.map_cons, storeAllInPlace, storeInPlace, hk]
      exact ih h

end Lanes

namespace Interleaved

/-- The scalars of the stream, cell after cell. -/
def scalars {S : Type u} {W : Nat} (p : Interleaved S W) : List S :=
  Lanes.concat fun k => p.cellAt k

theorem length_scalars {S : Type u} {W : Nat} (p : Interleaved S W) :
    (scalars p).length = 16 * W :=
  Lanes.length_concat _

theorem getElem?_scalars {S : Type u} {W : Nat} (p : Interleaved S W) (k : Fin 16) (i : Fin W) :
    (scalars p)[k.val * W + i.val]? = some ((p.cellAt k).lane i) :=
  Lanes.getElem?_concat (fun k => p.cellAt k) k i

theorem storeStream_of_fits {S : Type u} {W : Nat} (p : Interleaved S W) {dst : Array S}
    {start : Nat} (h : start + 16 * W ≤ dst.size) :
    storeStream p dst start = .ok (overwrite dst start (scalars p)) := by
  rw [storeStream, if_pos (by omega)]
  exact Lanes.foldlM_store (fun k => p.cellAt k) h

theorem storeStream_of_short {S : Type u} {W : Nat} (p : Interleaved S W) {dst : Array S}
    {start : Nat} (h : dst.size - start < 16 * W) :
    storeStream p dst start = .error (.stream (16 * W) (dst.size - start)) :=
  if_neg (Nat.not_le_of_lt h)

theorem loadStream_of_short {S : Type u} {W : Nat} {src : Array S} {start : Nat}
    (h : src.size - start < 16 * W) :
    (loadStream src start : Except Fault (Interleaved S W)) =
      .error (.stream (16 * W) (src.size - start)) :=
  if_neg (Nat.not_le_of_lt h)

/-- Loading reads the scalars of the stream and no others. -/
theorem loadStream_of_fits {S : Type u} {W : Nat} {src : Array S} {start : Nat}
    (h : start + 16 * W ≤ src.size) :
    ∃ p : Interleaved S W, loadStream src start = .ok p ∧
      ∀ j, j < 16 * W → (scalars p)[j]? = src[start + j]? := by
  have hfits : ∀ k : Fin 16, start + k.val * W + W ≤ src.size := by
    intro k
    have := Nat.mul_le_mul_right W k.isLt
    rw [Nat.succ_mul] at this
    omega
  choose f hload hlane using fun k => Lanes.load_of_fits (W := W) (hfits k)
  refine ⟨⟨Vector.ofFn f⟩, ?_, ?_⟩
  · have hcells : (Vector.ofFnM fun k : Fin 16 => Lanes.load (W := W) src (start + k.val * W)) =
        .ok (Vector.ofFn f) := by
      rw [funext hload]
      exact Vector.ofFnM_pure
    rw [loadStream, if_pos (by omega), hcells]
    rfl
  · intro j hj
    obtain ⟨k, i, rfl⟩ := Lanes.exists_place hj
    rw [getElem?_scalars, ← Nat.add_assoc, hlane, Mat4.cellAt_eq_getElem]
    simp

/-- The stream determines the matrices. -/
theorem eq_of_scalars {S : Type u} {W : Nat} {p q : Interleaved S W}
    (h : ∀ j, j < 16 * W → (scalars p)[j]? = (scalars q)[j]?) : p = q := by
  apply Mat4.ext_cellAt
  intro k
  ext i
  have hj := h _ (Lanes.place_lt k i)
  rw [getElem?_scalars, getElem?_scalars] at hj
  exact Option.some.inj hj

theorem getElem?_overwrite_scalars {S : Type u} {W : Nat} (p : Interleaved S W) {dst : Array S}
    {start j : Nat} (h : start + 16 * W ≤ dst.size) (hj : j < 16 * W) :
    (overwrite dst start (scalars p))[start + j]? = (scalars p)[j]? := by
  rw [getElem?_overwrite, length_scalars, if_pos (by omega), Nat.add_sub_cancel_left]

theorem loadStream_overwrite {S : Type u} {W : Nat} (p : Interleaved S W) {dst : Array S}
    {start : Nat} (h : start + 16 * W ≤ dst.size) :
    loadStream (overwrite dst start (scalars p)) start = .ok p := by
  have hroom : start + 16 * W ≤ (overwrite dst start (scalars p)).size := by
    rwa [size_overwrite]
  obtain ⟨q, hq, hscalars⟩ := loadStream_of_fits hroom
  have hqp : q = p := by
    apply eq_of_scalars
    intro j hj
    rw [hscalars j hj, getElem?_overwrite_scalars p h hj]
  rw [hq, hqp]

/-- The stores of a stream on a buffer that is changed in place. -/
def storeStreamInPlace {S : Type u} {W : Nat} (p : Interleaved S W) (dst : Array S)
    (start : Nat) : Option Fault × Array S :=
  if 16 * W ≤ dst.size - start then
    Lanes.storeAllInPlace
      ((List.finRange 16).map fun k => (p.cellAt k, start + k.val * W)) dst
  else (some (.stream (16 * W) (dst.size - start)), dst)

theorem storeStreamInPlace_of_fits {S : Type u} {W : Nat} (p : Interleaved S W) {dst : Array S}
    {start : Nat} (h : start + 16 * W ≤ dst.size) :
    storeStreamInPlace p dst start = (none, overwrite dst start (scalars p)) := by
  rw [storeStreamInPlace, if_pos (by omega)]
  exact Lanes.storeAllInPlace_of_ok _ _ (Lanes.foldlM_store (fun k => p.cellAt k) h)

theorem storeStreamInPlace_of_short {S : Type u} {W : Nat} (p : Interleaved S W) {dst : Array S}
    {start : Nat} (h : dst.size - start < 16 * W) :
    storeStreamInPlace p dst start = (some (.stream (16 * W) (dst.size - start)), dst) :=
  if_neg (Nat.not_le_of_lt h)

/-- The buffer `d` is `dst` with the matrices `ms` from `start` on, as a stream of cells. -/
structure Streamed {S : Type u} (W : Nat) (ms : Array (Mat4 S)) (dst d : Array S)
    (start : Nat) : Prop where
  size_eq : d.size = dst.size
  inside : ∀ (k : Fin 16) (i : Fin W),
    d[start + (k.val * W + i.val)]? = ms[i.val]?.map fun m => m.cellAt k
  outside : ∀ j, j < start ∨ start + 16 * W ≤ j → d[j]? = dst[j]?

theorem streamed_overwrite {S : Type u} {W : Nat} (p : Interleaved S W) {dst : Array S}
    {start : Nat} (h : start + 16 * W ≤ dst.size) :
    Streamed W (Array.ofFn (lane p)) dst (overwrite dst start (scalars p)) start := by
  refine ⟨size_overwrite dst start _, ?_, ?_⟩
  · intro k i
    rw [getElem?_overwrite_scalars p h (Lanes.place_lt k i), getElem?_scalars,
      cellAt_ofFn_lane p i k]
  · intro j hj
    rw [getElem?_overwrite, length_scalars, if_neg (by omega)]

/-- Storing and loading are exact: a buffer with room holds the matrices that scattering gives and
is otherwise as it was, loading gives back what was stored, and storing what was loaded gives back
the scalars. A buffer without room is refused by both and stays as it is. -/
theorem stream_exact_and_framed {S : Type u} [Zero S] (W : Nat) :
    (∀ (p : Interleaved S W) (dst : Array S) (start : Nat), start ≤ dst.size →
      if 16 * W ≤ dst.size - start then
        ∃ d ms, storeStream p dst start = .ok d ∧ storeStreamInPlace p dst start = (none, d) ∧
          toMatrices p = .ok ms ∧ Streamed W ms dst d start ∧ loadStream d start = .ok p
      else
        storeStream p dst start = .error (.stream (16 * W) (dst.size - start)) ∧
          storeStreamInPlace p dst start =
            (some (.stream (16 * W) (dst.size - start)), dst)) ∧
    (∀ (src : Array S) (start : Nat), start ≤ src.size →
      if 16 * W ≤ src.size - start then
        ∃ p : Interleaved S W, loadStream src start = .ok p ∧
          ∀ (dst : Array S) (place : Nat), place + 16 * W ≤ dst.size →
            ∃ d, storeStream p dst place = .ok d ∧
              ∀ j, j < 16 * W → d[place + j]? = src[start + j]?
      else
        (loadStream src start : Except Fault (Interleaved S W)) =
          .error (.stream (16 * W) (src.size - start))) ∧
    ∀ (ms : Array (Mat4 S)) (dst : Array S) (start : Nat), ms.size = W →
      start + 16 * W ≤ dst.size →
        ∃ (p : Interleaved S W) (d : Array S), ofMatrices W ms = .ok p ∧
          storeStream p dst start = .ok d ∧ Streamed W ms dst d start := by
  refine ⟨?_, ?_, ?_⟩
  · intro p dst start hs
    split
    · have h : start + 16 * W ≤ dst.size := by omega
      exact ⟨_, _, storeStream_of_fits p h, storeStreamInPlace_of_fits p h, toMatrices_eq p,
        streamed_overwrite p h, loadStream_overwrite p h⟩
    · have h : dst.size - start < 16 * W := by omega
      exact ⟨storeStream_of_short p h, storeStreamInPlace_of_short p h⟩
  · intro src start hs
    split
    · have h : start + 16 * W ≤ src.size := by omega
      obtain ⟨p, hp, hscalars⟩ := loadStream_of_fits h
      refine ⟨p, hp, ?_⟩
      intro dst place hplace
      refine ⟨_, storeStream_of_fits p hplace, ?_⟩
      intro j hj
      rw [getElem?_overwrite_scalars p hplace hj, hscalars j hj]
    · exact loadStream_of_short (by omega)
  · intro ms dst start hms h
    refine ⟨_, _, ofMatrices_of_size hms, storeStream_of_fits _ h, ?_⟩
    have hlanes := toMatrices_ofLanes hms
    rw [toMatrices_eq] at hlanes
    have hs := streamed_overwrite (ofLanes fun i : Fin W => ms.getD i.val 0) h
    rwa [Except.ok.inj hlanes] at hs

/-- Two matrices in the middle of a longer buffer, and too near to its end. -/
theorem stream_of_two_matrices :
    let m : Mat4 Float32 := ⟨#v[1, 2, 3, 4, 5, 6, 7, 8, 9, 10, 11, 12, 13, 14, 15, 16]⟩
    let dst : Array Float32 := Array.replicate 40 (-1)
    #[m, 0].size = 2 ∧ 3 + 16 * 2 ≤ dst.size ∧
      ∃ (p : Interleaved Float32 2) (d : Array Float32), ofMatrices 2 #[m, 0] = .ok p ∧
        storeStream p dst 3 = .ok d ∧ Streamed 2 #[m, 0] dst d 3 ∧ loadStream d 3 = .ok p ∧
        storeStreamInPlace p dst 9 = (some (.stream 32 31), dst) := by
  intro m dst
  obtain ⟨p, d, hp, hd, hs⟩ :=
    (stream_exact_and_framed 2).2.2 #[m, 0] dst 3 rfl (by decide)
  have hfits := (stream_exact_and_framed 2).1 p dst 3 (by decide)
  rw [if_pos (by decide)] at hfits
  obtain ⟨e, _, he, _, _, _, hload⟩ := hfits
  obtain rfl : d = e := Except.ok.inj (hd.symm.trans he)
  have hshort := (stream_exact_and_framed 2).1 p dst 9 (by decide)
  rw [if_neg (by decide)] at hshort
  exact ⟨rfl, by decide, p, d, hp, hd, hs, hload, hshort.2⟩

end Interleaved

end LaneMatrix
