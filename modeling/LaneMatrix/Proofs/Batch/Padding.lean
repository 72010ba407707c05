import LaneMatrix.Proofs.Batch.Entrywise

/-!
# Padding and scratch

A chunk with fewer matrices than lanes is padded, and all its scalars go through a scratch buffer
that still holds what earlier cells and earlier chunks have left in it. Neither can be seen in the
output: gathering puts a matrix or the padding into each lane, whatever the scratch held, kernels
work lane by lane, and scattering takes only the lanes that have a place in the output. So one
chunk, and any chunks one after the other, leave the same with any other padding and scratch. Of
the scratch itself only as many places are changed as there are lanes, in every single step.
-/

universe u

namespace LaneMatrix

namespace Interleaved

section Steps

variable {S : Type u} {W : Nat}

theorem cellAt_ofLanes (f : Fin W → Mat4 S) (k : Fin 16) :
    (ofLanes f).cellAt k = Lanes.ofFn fun i => (f i).cellAt k := by
  ext i
  have hlane : (lane (ofLanes f) i).cellAt k = (f i).cellAt k := by rw [lane_ofLanes]
  rw [lane, Mat4.cellAt_map] at hlane
  rw [Lanes.lane_ofFn, hlane]

/-- Gathering fills a lane with its matrix, or with the padding where there is none; each cell on
its own goes through the scratch in the same way. -/
theorem exists_gather (W : Nat) (ms : Array (Mat4 S)) (pad : Mat4 S) :
    ∃ p : Interleaved S W, WithScratch.Gives W (gather ms pad) p ∧
      (∀ k, WithScratch.Gives W (gatherCell ms pad k) (p.cellAt k)) ∧
      ∀ i : Fin W, lane p i = if h : i.val < ms.size then ms[i.val] else pad := by
  refine ⟨_, gives_gather ms pad, ?_, ?_⟩
  · intro k
    rw [cellAt_ofLanes]
    exact gives_gatherCell ms pad k
  · intro i
    rw [lane_ofLanes]
    rfl

/-- Scattering replaces each matrix of the output by its lane, cell after cell. -/
theorem exists_scatter (p : Interleaved S W) {out : Array (Mat4 S)} (h : out.size ≤ W) :
    ∃ d : Array (Mat4 S), WithScratch.Gives W (scatter p out) d ∧
      (∀ k, ∃ e, WithScratch.Gives W (scatterCell p out k) e) ∧ d.size = out.size ∧
      ∀ i : Fin W, i.val < out.size → d[i.val]? = some (lane p i) :=
  ⟨_, gives_scatter p out h, fun k => ⟨_, gives_scatterCell p out k h⟩, Array.size_mapFinIdx,
    fun i hi => getElem?_putLanes p hi i.isLt⟩

end Steps

end Interleaved

namespace Batch

section Calls

variable {S : Type u} [Add S] [Sub S] [Mul S] [Div S] [Zero S] [One S] {W : Nat}

/-- The padding of a chunk and what the scratch holds reach no matrix of the output. A lane is
gathered from its matrix or from the padding and from nothing else, scattering writes the lanes that
have a place, and a chunk, computed by either kernel, leaves the results at its own places; so do
chunks that hand their scratch on, in any number and order. Every cell that is gathered or scattered
changes the scratch in its first `W` places at most. The lists of a batch can be a single chunk. -/
theorem padding_and_scratch_stay_out (W : Nat) :
    (∀ (ms : Array (Mat4 S)) (pad : Mat4 S), ∃ p : Interleaved S W,
      WithScratch.Gives W (Interleaved.gather ms pad) p ∧
      (∀ k, WithScratch.Gives W (Interleaved.gatherCell ms pad k) (p.cellAt k)) ∧
      ∀ i : Fin W, Interleaved.lane p i = if h : i.val < ms.size then ms[i.val] else pad) ∧
    (∀ (p : Interleaved S W) (out : Array (Mat4 S)), out.size ≤ W → ∃ d : Array (Mat4 S),
      WithScratch.Gives W (Interleaved.scatter p out) d ∧
      (∀ k, ∃ e, WithScratch.Gives W (Interleaved.scatterCell p out k) e) ∧
      d.size = out.size ∧
      ∀ i : Fin W, i.val < out.size → d[i.val]? = some (Interleaved.lane p i)) ∧
    ∀ (batch : Batch S) (n : Nat), batch.Fits n →
      (∀ (c : Chunk) (old : Array (Mat4 S)), c.Within n → c.live ≤ W → old.size = c.live →
        ∀ pad, WithScratch.Gives W (batch.solve W pad c old) (c.of batch.results)) ∧
      ∀ (cs : List Chunk) (out : Array (Mat4 S)) (log : List BatchRecord), out.size = n →
        (∀ c ∈ cs, c.Within n ∧ c.live ≤ W) →
        ∃ call, ∀ (pad : Mat4 S) (scratch : Array S), W ≤ scratch.size →
          batch.runChunks W pad cs out scratch log = call := by
  refine ⟨Interleaved.exists_gather W, fun p out => Interleaved.exists_scatter p, ?_⟩
  intro batch n hb
  constructor
  · exact fun c old hc hlive hold pad => gives_solve pad hb hc hlive hold
  · rintro cs out log rfl hcs
    exact ⟨_, fun pad scratch hs => runChunks_eq pad hb hcs hs log⟩

/-- One matrix at width two, with either padding in the lane beside it. -/
theorem padding_and_scratch_of_half_chunk :
    let a : Mat4 Float32 := Mat4.diagonal 2 3 4 1
    let batch := multiply #[a] #[a]
    batch.Fits 1 ∧ (⟨0, 1⟩ : Chunk).Within 1 ∧ 1 ≤ 2 ∧
      ∃ d t u, batch.solve 2 0 ⟨0, 1⟩ #[0] #[7, 8, 9] = .ok (d, t) ∧
        batch.solve 2 Mat4.identity ⟨0, 1⟩ #[0] #[5, 6] = .ok (d, u) ∧
        d = #[a.multiply a] ∧ t.size = 3 ∧ t[2]? = some 9 ∧ u.size = 2 := by
  intro a batch
  have hb : batch.Fits 1 := ⟨rfl, rfl⟩
  have hc : (⟨0, 1⟩ : Chunk).Within 1 := Nat.le_refl 1
  have hchunk := ((padding_and_scratch_stay_out 2).2.2 batch 1 hb).1 ⟨0, 1⟩ #[0] hc (by decide) rfl
  obtain ⟨t, ht, hsize, hbehind⟩ := hchunk 0 #[7, 8, 9] (by decide)
  obtain ⟨u, hu, hsize', -⟩ := hchunk Mat4.identity #[5, 6] (by decide)
  have hresults : (⟨0, 1⟩ : Chunk).of batch.results = #[a.multiply a] := by
    simp [Chunk.of, batch, results]
  exact ⟨hb, hc, by decide, _, t, u, ht, hu, hresults, hsize, hbehind 2 (Nat.le_refl 2), hsize'⟩

end Calls

end Batch

end LaneMatrix
