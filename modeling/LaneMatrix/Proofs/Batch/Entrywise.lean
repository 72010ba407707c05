import LaneMatrix.Proofs.Batch.Pasting

/-!
# Batches matrix by matrix

A batch call works in chunks, on lanes, through one scratch buffer, with padding in the last
chunk. None of this shows in what it leaves: each matrix of the output is what the kernel makes of
the matrices at its own place. One chunk gives its part of these results for every scratch and
every padding, and the chunks of a batch hold every place, so a whole call gives all of them.
-/

universe u

namespace LaneMatrix

theorem Interleaved.getElem?_putLanes {S : Type u} {W : Nat} (p : Interleaved S W)
    {out : Array (Mat4 S)} {k : Nat} (hk : k < out.size) (hW : k < W) :
    (putLanes p out)[k]? = some (lane p ⟨k, hW⟩) := by
  rw [Array.getElem?_eq_getElem (by rw [putLanes, Array.size_mapFinIdx]; exact hk)]
  simp only [putLanes, Array.getElem_mapFinIdx, dif_pos hW]

namespace Batch

/-- The lists of the batch and an output of the given length belong together. -/
def Fits {S : Type u} : Batch S → Nat → Prop
  | multiply a b, outLength => b.size = a.size ∧ outLength = a.size
  | invert m, outLength => outLength = m.size

/-- What the kernel makes of the matrices at each place on their own. -/
def results {S : Type u} [Add S] [Sub S] [Mul S] [Div S] [One S] : Batch S → Array (Mat4 S)
  | multiply a b => Array.zipWith Mat4.multiply a b
  | invert m => m.map Mat4.inverse

theorem checkLength_eq_ok_iff {name : String} {expected actual : Nat} :
    checkLength name expected actual = .ok () ↔ actual = expected := by
  rw [checkLength]
  by_cases h : expected = actual
  · simp [h]
  · simp [h, Ne.symm h]

theorem check_eq_ok_iff {S : Type u} {batch : Batch S} {n : Nat} :
    batch.shape.check n = .ok () ↔ batch.Fits n := by
  cases batch with
  | invert m => exact checkLength_eq_ok_iff
  | multiply a b =>
    simp only [shape, Shape.check, Fits]
    by_cases hb : b.size = a.size
    · rw [checkLength_eq_ok_iff.mpr hb]
      exact ⟨fun h => ⟨hb, checkLength_eq_ok_iff.mp h⟩, fun h => checkLength_eq_ok_iff.mpr h.2⟩
    · rw [checkLength, if_neg (Ne.symm hb)]
      constructor
      · intro h
        cases h
      · exact fun h => absurd h.1 hb

theorem size_eq_of_fits {S : Type u} {batch : Batch S} {n : Nat} (h : batch.Fits n) :
    batch.size = n := by
  cases batch with
  | multiply a b => exact h.2.symm
  | invert m => exact h.symm

theorem size_results {S : Type u} [Add S] [Sub S] [Mul S] [Div S] [One S] {batch : Batch S}
    {n : Nat} (h : batch.Fits n) : batch.results.size = n := by
  cases batch with
  | multiply a b =>
    have hmin : min a.size b.size = a.size := by rw [h.1, Nat.min_self]
    rw [results, Array.size_zipWith, hmin, h.2]
  | invert m => rw [results, Array.size_map, h]

/-- The lanes of a chunk that hold matrices hold the results at its places. -/
theorem gives_compute {S : Type u} [Add S] [Sub S] [Mul S] [Div S] [Zero S] [One S] (W : Nat)
    {batch : Batch S} (pad : Mat4 S) {c : Chunk} {n : Nat} (hb : batch.Fits n)
    (hc : c.Within n) :
    ∃ p : Interleaved S W, WithScratch.Gives W (batch.compute W pad c) p ∧
      ∀ i : Fin W, i.val < c.live → (c.of batch.results)[i.val]? = some (Interleaved.lane p i) := by
  cases batch with
  | multiply a b =>
    have ha : (c.of a).size = c.live := Chunk.size_of (by rw [← hb.2]; exact hc)
    have hb' : (c.of b).size = c.live := Chunk.size_of (by rw [hb.1, ← hb.2]; exact hc)
    refine ⟨_, WithScratch.gives_bind (Interleaved.gives_gather (c.of a) pad)
      (WithScratch.gives_bind (Interleaved.gives_gather (c.of b) pad)
        (WithScratch.gives_pure W _)), ?_⟩
    intro i hi
    have hpart : c.of (results (multiply a b)) =
        Array.zipWith Mat4.multiply (c.of a) (c.of b) := Array.extract_zipWith
    rw [hpart, Interleaved.lane_multiply, Interleaved.lane_ofLanes, Interleaved.lane_ofLanes,
      Array.getElem?_eq_getElem (by rw [Array.size_zipWith, ha, hb']; omega),
      Array.getElem_zipWith, ← Array.getElem_eq_getD (h := by omega),
      ← Array.getElem_eq_getD (h := by omega)]
  | invert m =>
    have hm : (c.of m).size = c.live := Chunk.size_of (by rw [← hb]; exact hc)
    refine ⟨_, WithScratch.gives_bind (Interleaved.gives_gather (c.of m) pad)
      (WithScratch.gives_pure W _), ?_⟩
    intro i hi
    have hpart : c.of (results (invert m)) = (c.of m).map Mat4.inverse := Array.map_extract.symm
    rw [hpart, Interleaved.lane_inverse, Interleaved.lane_ofLanes,
      Array.getElem?_eq_getElem (by rw [Array.size_map, hm]; exact hi), Array.getElem_map,
      ← Array.getElem_eq_getD (h := by omega)]

/-- One chunk leaves its part of the results, whatever the scratch, the padding and its part of
the output held before. -/
theorem gives_solve {S : Type u} [Add S] [Sub S] [Mul S] [Div S] [Zero S] [One S] {W : Nat}
    {batch : Batch S} (pad : Mat4 S) {c : Chunk} {n : Nat} (hb : batch.Fits n) (hc : c.Within n)
    (hlive : c.live ≤ W) {old : Array (Mat4 S)} (hold : old.size = c.live) :
    WithScratch.Gives W (batch.solve W pad c old) (c.of batch.results) := by
  obtain ⟨p, hp, hlanes⟩ := gives_compute W pad hb hc
  have hput : Interleaved.putLanes p old = c.of batch.results := by
    apply Array.ext_getElem?
    intro k
    by_cases hk : k < c.live
    · have hW : k < W := by omega
      rw [hlanes ⟨k, hW⟩ hk, Interleaved.getElem?_putLanes p (by omega) hW]
    · have hres : (c.of batch.results).size = c.live :=
        Chunk.size_of (by rw [size_results hb]; exact hc)
      rw [Array.getElem?_eq_none (by rw [Interleaved.putLanes, Array.size_mapFinIdx]; omega),
        Array.getElem?_eq_none (by omega)]
  rw [← hput]
  exact WithScratch.gives_bind hp (Interleaved.gives_scatter p old (by omega))

/-- Chunk after chunk, the results are pasted into the output. The invariant is that the output
keeps its length and the scratch its room; what they hold plays no part. -/
theorem runChunks_eq {S : Type u} [Add S] [Sub S] [Mul S] [Div S] [Zero S] [One S] {W : Nat}
    {batch : Batch S} (pad : Mat4 S) {cs : List Chunk} {out : Array (Mat4 S)} {scratch : Array S}
    (hb : batch.Fits out.size) (hcs : ∀ c ∈ cs, c.Within out.size ∧ c.live ≤ W)
    (hs : W ≤ scratch.size) (log : List BatchRecord) :
    batch.runChunks W pad cs out scratch log =
      ⟨⟨.ok (), log ++ cs.flatMap (records W)⟩, cs.foldl (Chunk.paste batch.results) out⟩ := by
  induction cs generalizing out scratch log with
  | nil => simp [runChunks]
  | cons c cs ih =>
    obtain ⟨hc, hlive⟩ := hcs c List.mem_cons_self
    obtain ⟨t, ht, hbehind⟩ := gives_solve pad hb hc hlive (Chunk.size_of hc) scratch hs
    have hsize := Chunk.size_paste batch.results out c
    have hrest := @ih (Chunk.paste batch.results out c) t
      (by rw [hsize]; exact hb)
      (by rw [hsize]; exact fun d hd => hcs d (List.mem_cons_of_mem c hd))
      (by rw [hbehind.1]; exact hs) (log ++ records W c)
    rw [List.append_assoc, Chunk.paste] at hrest
    simp only [runChunks, StateT.run, ht]
    exact hrest

/-- All chunks of a batch together leave its results, for every scratch and every padding. -/
theorem runChunks_chunks {S : Type u} [Add S] [Sub S] [Mul S] [Div S] [Zero S] [One S] {W : Nat}
    (hW : 0 < W) {batch : Batch S} (pad : Mat4 S) {out : Array (Mat4 S)} {scratch : Array S}
    (hb : batch.Fits out.size) (hs : W ≤ scratch.size) :
    batch.runChunks W pad (chunks W batch.size) out scratch [] =
      ⟨⟨.ok (), (chunks W batch.size).flatMap (records W)⟩, batch.results⟩ := by
  have hn := size_eq_of_fits hb
  have hres := size_results hb
  have hwithin : ∀ c ∈ chunks W batch.size, c.Within out.size := by
    rw [hn]
    exact fun c hc => within_of_mem_chunks hW hc
  rw [runChunks_eq pad hb (fun c hc => ⟨hwithin c hc, live_le_of_mem_chunks hc⟩) hs,
    List.nil_append]
  congr 1
  apply Chunk.foldl_paste_of_covering
  · rw [hres]
    exact hwithin
  · exact hres
  · rw [hres, hn]
    exact fun k hk => chunks_covering hW hk

theorem run_eq {S : Type u} [Add S] [Sub S] [Mul S] [Div S] [Zero S] [One S] {W : Nat}
    (hW : 0 < W) {batch : Batch S} {out : Array (Mat4 S)} (hb : batch.Fits out.size) :
    batch.run W out =
      ⟨⟨.ok (), (chunks W batch.size).flatMap (records W)⟩, batch.results⟩ := by
  have hpad : Interleaved.laneMatrix (Mat4.identity : Interleaved S W) 0 = .ok Mat4.identity := by
    rw [Interleaved.laneMatrix, dif_pos hW, Interleaved.lane_identity]
  rw [run, check_eq_ok_iff.mpr hb, hpad]
  exact runChunks_chunks hW Mat4.identity hb (Nat.le_of_eq Array.size_replicate.symm)

/-- The call ends well and leaves `xs`, whatever the output held before; and it is the same call
with any other padding and any other scratch. -/
def Leaves {S : Type u} [Add S] [Sub S] [Mul S] [Div S] [Zero S] [One S] (W : Nat)
    (batch : Batch S) (xs : Array (Mat4 S)) : Prop :=
  ∀ out : Array (Mat4 S), out.size = xs.size →
    (batch.run W out).outcome = .ok () ∧ (batch.run W out).out = xs ∧
    ∀ (pad : Mat4 S) (scratch : Array S), W ≤ scratch.size →
      batch.runChunks W pad (chunks W batch.size) out scratch [] = batch.run W out

theorem leaves_results {S : Type u} [Add S] [Sub S] [Mul S] [Div S] [Zero S] [One S] {W : Nat}
    (hW : 0 < W) {batch : Batch S} {n : Nat} (hb : batch.Fits n) :
    batch.Leaves W batch.results := by
  intro out hout
  have hfits : batch.Fits out.size := by
    rw [hout, size_results hb]
    exact hb
  rw [run_eq hW hfits]
  exact ⟨rfl, rfl, fun pad scratch hs => runChunks_chunks hW pad hfits hs⟩

/-- The width-one unit that holds a matrix inverts this matrix alone. -/
theorem lane_inverse_of_single {S : Type u} [Add S] [Sub S] [Mul S] [Div S] [Zero S] [One S]
    (m : Mat4 S) :
    ∃ p : Interleaved S 1, Interleaved.ofMatrices 1 #[m] = .ok p ∧
      Interleaved.laneMatrix p.inverse 0 = .ok m.inverse := by
  refine ⟨_, Interleaved.ofMatrices_of_size rfl, ?_⟩
  rw [Interleaved.laneMatrix, dif_pos Nat.zero_lt_one, Interleaved.lane_inverse,
    Interleaved.lane_ofLanes]
  rfl

/-- Each product and each inverse of a batch is the one that its own matrices have, in the fixed
order of operations. The results are named before the width, the output and the padding are, so
they depend on none of these. -/
theorem run_matrix_by_matrix {S : Type u} [Add S] [Sub S] [Mul S] [Div S] [Zero S] [One S]
    (n : Nat) :
    (∀ a b : Vector (Mat4 S) n, ∃ d : Vector (Mat4 S) n,
      (∀ W, 0 < W → (multiply a.toArray b.toArray).Leaves W d.toArray) ∧
      ∀ (i : Fin n) (j r : Fin 4), (d.get i).entry j r =
        (((a.get i).entry 0 r * (b.get i).entry j 0 +
          (a.get i).entry 1 r * (b.get i).entry j 1) +
          (a.get i).entry 2 r * (b.get i).entry j 2) +
          (a.get i).entry 3 r * (b.get i).entry j 3) ∧
    (∀ m : Vector (Mat4 S) n, ∃ d : Vector (Mat4 S) n,
      (∀ W, 0 < W → (invert m.toArray).Leaves W d.toArray) ∧
      ∀ i : Fin n, ∃ p : Interleaved S 1, Interleaved.ofMatrices 1 #[m.get i] = .ok p ∧
        Interleaved.laneMatrix p.inverse 0 = .ok (d.get i)) := by
  constructor
  · intro a b
    have hb : (multiply a.toArray b.toArray).Fits n :=
      ⟨b.size_toArray.trans a.size_toArray.symm, a.size_toArray.symm⟩
    refine ⟨⟨(multiply a.toArray b.toArray).results, size_results hb⟩,
      fun W hW => leaves_results hW hb, ?_⟩
    intro i j r
    have hi : Vector.get ⟨(multiply a.toArray b.toArray).results, size_results hb⟩ i =
        (a.get i).multiply (b.get i) := by
      simp only [results, Vector.get, Array.getElem_zipWith]
      rfl
    rw [hi, Mat4.entry_multiply]
  · intro m
    have hb : (invert m.toArray).Fits n := m.size_toArray.symm
    refine ⟨⟨(invert m.toArray).results, size_results hb⟩,
      fun W hW => leaves_results hW hb, ?_⟩
    intro i
    have hi : Vector.get ⟨(invert m.toArray).results, size_results hb⟩ i =
        (m.get i).inverse := by
      simp only [results, Vector.get, Array.getElem_map]
      rfl
    rw [hi]
    exact lane_inverse_of_single (m.get i)

/-- Three scalings at width two, so that the last chunk is padded. -/
theorem run_three_at_width_two :
    0 < 2 ∧ ∃ d : Vector (Mat4 Float32) 3,
      (multiply (Vector.replicate 3 (Mat4.diagonal 2 3 4 1)).toArray
        (Vector.replicate 3 (Mat4.diagonal 5 6 7 1)).toArray).Leaves 2 d.toArray ∧
      (d.get 2).entry 1 1 = ((0 * 0 + 3 * 6) + 0 * 0) + 0 * 0 := by
  obtain ⟨d, hd, hcell⟩ := (run_matrix_by_matrix 3).1
    (Vector.replicate 3 (Mat4.diagonal 2 3 4 1 : Mat4 Float32))
    (Vector.replicate 3 (Mat4.diagonal 5 6 7 1))
  exact ⟨by decide, d, hd 2 (by decide), hcell 2 1 1⟩

end Batch

end LaneMatrix
