import LaneMatrix.Proofs.Batch.Fanout
import LaneMatrix.Proofs.Batch.Pasting

/-!
# Runs and threads

How a batch that is shared out is cut into runs, and whether every thread gets one. The length of a
run is rounded up twice, to whole matrices and to whole chunks, so the runs can cover the batch
before each thread has its own. Rounding gains less than one chunk for each thread; a run has at
least 256 of them, so that up to 257 threads nobody is left without work. The bound is sharp.
-/

namespace LaneMatrix

/-- The places of a chunk, in order. -/
def Chunk.places (c : Chunk) : List Nat := List.range' c.start c.live

/-- The first `k` pieces hold the places before the cut after them. -/
theorem places_pieces (d n k : Nat) :
    ((List.range k).map (chunk d n)).flatMap Chunk.places = List.range (min (k * d) n) := by
  induction k with
  | zero => simp
  | succ k ih =>
    have hnext : min ((k + 1) * d) n = min (k * d) n + min d (n - k * d) := by
      rw [Nat.add_mul]
      omega
    have hstart : List.range' (k * d) (min d (n - k * d)) =
        List.range' (0 + min (k * d) n) (min d (n - k * d)) := by
      rcases Nat.le_total (k * d) n with hle | hle
      · rw [Nat.min_eq_left hle, Nat.zero_add]
      · -- A piece that starts behind the end holds nothing.
        rw [Nat.sub_eq_zero_of_le hle, Nat.min_zero, List.range'_zero, List.range'_zero]
    rw [List.range_succ, List.map_append, List.flatMap_append, ih, List.map_singleton,
      List.flatMap_singleton, Chunk.places, chunk, hstart, List.range_eq_range',
      List.range'_append_1, ← hnext, List.range_eq_range']

/-- The pieces follow each other without a gap, from the first place to the last. -/
theorem places_chunks (n : Nat) {d : Nat} (hd : 0 < d) :
    (chunks d n).flatMap Chunk.places = List.range n := by
  rw [chunks, places_pieces, Nat.min_eq_right (le_pieceCount_mul n hd)]

/-- Every piece is full but the last, which is not empty. -/
theorem chunk_of_lt_pieceCount {d n i : Nat} (hd : 0 < d) (hi : i < pieceCount n d) :
    (chunk d n i).start = i * d ∧
      if i + 1 = pieceCount n d then 1 ≤ (chunk d n i).live ∧ (chunk d n i).live ≤ d
      else (chunk d n i).live = d := by
  refine ⟨rfl, ?_⟩
  have hstart : i * d < n := (lt_pieceCount_iff hd).mp hi
  by_cases hlast : i + 1 = pieceCount n d
  · have hend : n ≤ (i + 1) * d := hlast ▸ le_pieceCount_mul n hd
    rw [if_pos hlast, live_chunk_of_le hend]
    rw [Nat.add_mul] at hend
    omega
  · have hnext : (i + 1) * d < n := (lt_pieceCount_iff hd).mp (by omega)
    rw [if_neg hlast, live_chunk_of_full (Nat.le_of_lt hnext)]

namespace Fanout

theorem mul_chunksPerThread_pos {width : Nat} (hw : 0 < width) : 0 < width * chunksPerThread :=
  Nat.mul_pos hw (by decide)

theorem runLength_lt_count {count width limit : Nat} (hw : 0 < width)
    (h : 2 ≤ threadCount count width limit) :
    runLength count width (threadCount count width limit) < count :=
  runLength_lt hw h ((two_le_threadCount_iff hw).mp h).2.2

/-- Every chosen thread has its 256 chunks. -/
theorem threadCount_mul_le {count width limit : Nat} (hw : 0 < width)
    (h : 2 ≤ threadCount count width limit) :
    threadCount count width limit * (width * chunksPerThread) ≤ count :=
  ((le_threadCount_iff h hw).mp (Nat.le_refl _)).2.2.2

theorem mul_chunksPerThread_le_runLength {count width threads : Nat} (ht : 0 < threads)
    (hwork : threads * (width * chunksPerThread) ≤ count) :
    width * chunksPerThread ≤ runLength count width threads := by
  refine Nat.le_of_mul_le_mul_left ?_ ht
  exact Nat.le_trans hwork (le_mul_runLength count width ht)

/-- Rounding gains less than one chunk for each thread. -/
theorem mul_runLength_lt {count width threads : Nat} (hw : 0 < width) (ht : 0 < threads)
    (hcount : 0 < count) : threads * runLength count width threads < count + threads * width := by
  have hpieces : 0 < pieceCount count threads := (lt_pieceCount_iff ht).mpr (by omega)
  have hround : runLength count width threads ≤ pieceCount count threads - 1 + width := by
    have hlt := roundUp_lt (pieceCount count threads) hw
    rw [runLength]
    omega
  calc threads * runLength count width threads
    _ ≤ threads * (pieceCount count threads - 1 + width) := Nat.mul_le_mul_left _ hround
    _ = (pieceCount count threads - 1) * threads + threads * width := by
      rw [Nat.mul_add, Nat.mul_comm threads (_ - 1)]
    _ < count + threads * width := Nat.add_lt_add_right (pred_pieceCount_mul_lt ht hcount) _

/-- The runs of all threads but one do not reach the end of the batch. -/
theorem pred_mul_runLength_lt {count width threads : Nat} (hw : 0 < width) (ht : 0 < threads)
    (hwork : threads * (width * chunksPerThread) ≤ count) (hfew : threads ≤ 257) :
    (threads - 1) * runLength count width threads < count := by
  have hchunk := mul_chunksPerThread_pos hw
  have hcount : 0 < count := Nat.lt_of_lt_of_le (Nat.mul_pos ht hchunk) hwork
  have hlength := mul_chunksPerThread_le_runLength ht hwork
  have hpred : (threads - 1) * runLength count width threads + runLength count width threads =
      threads * runLength count width threads := by
    rw [← Nat.succ_mul, Nat.succ_eq_add_one, Nat.sub_add_cancel ht]
  by_cases hshort : runLength count width threads = width * chunksPerThread
  · -- Runs of exactly 256 chunks, and the batch has as many for every thread.
    rw [hshort] at hpred ⊢
    omega
  · -- A longer run has at least 257 chunks, as many as there are threads.
    have hchunks : width * 257 ≤ runLength count width threads := by
      obtain ⟨k, hk⟩ := dvd_runLength count hw threads
      rw [hk] at hlength hshort ⊢
      have hk256 : chunksPerThread ≤ k := Nat.le_of_mul_le_mul_left hlength hw
      have hne : k ≠ chunksPerThread := fun he => hshort (by rw [he])
      rw [chunksPerThread] at hk256 hne
      exact Nat.mul_le_mul_left width (by omega)
    have hgain := mul_runLength_lt hw ht hcount
    have hthreads : threads * width ≤ width * 257 := by
      rw [Nat.mul_comm]
      exact Nat.mul_le_mul_left width hfew
    omega

/-- Up to 257 threads, each thread gets a run. -/
theorem pieceCount_runLength {count width threads : Nat} (hw : 0 < width) (ht : 0 < threads)
    (hwork : threads * (width * chunksPerThread) ≤ count) (hfew : threads ≤ 257) :
    pieceCount count (runLength count width threads) = threads := by
  have hl : 0 < runLength count width threads :=
    Nat.lt_of_lt_of_le (mul_chunksPerThread_pos hw) (mul_chunksPerThread_le_runLength ht hwork)
  apply Nat.le_antisymm
  · exact (pieceCount_le_iff hl).mpr (le_mul_runLength count width ht)
  · have hlast := (lt_pieceCount_iff hl).mpr (pred_mul_runLength_lt hw ht hwork hfew)
    omega

/-- A batch that is shared out is cut into runs of at least 256 full chunks, which follow each
other from the first matrix to the last; only the last run may be shorter. No thread gets two, and
up to 257 threads get one each; with 258 it can happen that one gets none. -/
theorem runs_of_threads :
    (∀ count width limit : Nat, 0 < width → 2 ≤ threadCount count width limit →
      let threads := threadCount count width limit
      let length := runLength count width threads
      let runs := pieceCount count length
      width ∣ length ∧ 256 * width ≤ length ∧
        (chunks length count).length = runs ∧
        (chunks length count).flatMap Chunk.places = List.range count ∧
        (∀ i, i < runs →
          (chunks length count)[i]? = some (chunk length count i) ∧
          (chunk length count i).start = i * length ∧
          if i + 1 = runs then
            1 ≤ (chunk length count i).live ∧ (chunk length count i).live ≤ length
          else (chunk length count i).live = length) ∧
        2 ≤ runs ∧ runs ≤ threads ∧ threads ≤ limit ∧
        (threads ≤ 257 → runs = threads)) ∧
    ∃ count width limit : Nat, 0 < width ∧ threadCount count width limit = 258 ∧
      pieceCount count (runLength count width 258) = 257 := by
  constructor
  · intro count width limit hw h threads length runs
    have ht : 0 < threads := Nat.lt_of_lt_of_le Nat.two_pos h
    have hwork : threads * (width * chunksPerThread) ≤ count := threadCount_mul_le hw h
    obtain ⟨hdvd, hl, htwo, -, -, -⟩ := runs_of_shared hw h
    refine ⟨hdvd, ?_, ?_, places_chunks count hl, ?_, htwo, ?_, threadCount_le .., ?_⟩
    · rw [Nat.mul_comm]
      exact mul_chunksPerThread_le_runLength ht hwork
    · rw [chunks, List.length_map, List.length_range]
    · intro i hi
      have hplace : (chunks length count)[i]? = some (chunk length count i) := by
        rw [chunks, List.getElem?_map, List.getElem?_range hi, Option.map_some]
      exact ⟨hplace, chunk_of_lt_pieceCount hl hi⟩
    · exact (pieceCount_le_iff hl).mpr (le_mul_runLength count width ht)
    · exact pieceCount_runLength hw ht hwork
  · exact ⟨66049, 1, 258, by decide, by decide, by decide⟩

/-- As many threads as are sure to get a run each, and one matrix more than 256 for each. -/
theorem runs_of_257_threads :
    0 < 1 ∧ threadCount 65793 1 257 = 257 ∧ runLength 65793 1 257 = 257 ∧
      (chunks 257 65793).flatMap Chunk.places = List.range 65793 ∧
      pieceCount 65793 257 = 257 ∧ (chunk 257 65793 256).live ≤ 257 := by
  have hthreads : threadCount 65793 1 257 = 257 := by decide
  have hlength : runLength 65793 1 257 = 257 := by decide
  have hplan := runs_of_threads.1 65793 1 257 (by decide) (by decide)
  simp only [hthreads, hlength] at hplan
  obtain ⟨-, -, -, hplaces, hruns, -, -, -, hall⟩ := hplan
  have hcount := hall (Nat.le_refl 257)
  have hlast := (hruns 256 (by rw [hcount]; decide)).2.2
  rw [if_pos (by rw [hcount])] at hlast
  exact ⟨by decide, hthreads, hlength, hplaces, hcount, hlast.2⟩

end Fanout

end LaneMatrix
