import LaneMatrix.Proofs.Batch.Entrywise
import LaneMatrix.Proofs.Batch.Fanout
import LaneMatrix.Proofs.Batch.Runs

/-!
# Parallel batches

A thread gets the part of the batch that belongs to its run, and works on it as on a batch of its
own. The results of a part are that part of the results, so the runs together leave what one call
leaves, and none of them fails.
-/

universe u

namespace LaneMatrix

/-- Steps that all go through, taken one after the other. -/
theorem mapM_ok {β : Type u} {f : Nat → Except Fault β} {g : Nat → β} {l : List Nat}
    (h : ∀ i ∈ l, f i = .ok (g i)) : l.mapM f = .ok (l.map g) := by
  induction l with
  | nil => rfl
  | cons i l ih =>
    rw [List.mapM_cons, h i List.mem_cons_self, ih fun j hj => h j (List.mem_cons_of_mem i hj)]
    rfl

namespace Batch

/-- The part of the batch that belongs to a chunk. -/
def part {S : Type u} (batch : Batch S) (c : Chunk) : Batch S :=
  match batch with
  | multiply a b => multiply (c.of a) (c.of b)
  | invert m => invert (c.of m)

/-- A chunk within the batch can be cut out of all its lists. -/
theorem slice_eq {S : Type u} {batch : Batch S} {n : Nat} (hb : batch.Fits n) {c : Chunk}
    (hc : c.Within n) : batch.slice c.start (c.start + c.live) = .ok (batch.part c) := by
  have hend : c.start + c.live ≤ n := hc
  cases batch with
  | multiply a b =>
    obtain ⟨hba, hn⟩ := hb
    rw [slice, if_pos ⟨by omega, by omega, by omega⟩]
    rfl
  | invert m =>
    rw [slice, if_pos ⟨by omega, by rw [← hb]; exact hend⟩]
    rfl

theorem fits_part {S : Type u} {batch : Batch S} {n : Nat} (hb : batch.Fits n) {c : Chunk}
    (hc : c.Within n) : (batch.part c).Fits c.live := by
  cases batch with
  | multiply a b =>
    obtain ⟨hba, hn⟩ := hb
    have ha : (c.of a).size = c.live := Chunk.size_of (by rw [← hn]; exact hc)
    have hb : (c.of b).size = c.live := Chunk.size_of (by rw [hba, ← hn]; exact hc)
    exact ⟨hb.trans ha.symm, ha.symm⟩
  | invert m =>
    have hm : (c.of m).size = c.live := Chunk.size_of (by rw [← hb]; exact hc)
    exact hm.symm

theorem results_part {S : Type u} [Add S] [Sub S] [Mul S] [Div S] [One S] (batch : Batch S)
    (c : Chunk) : (batch.part c).results = c.of batch.results := by
  cases batch with
  | multiply a b => exact Array.extract_zipWith.symm
  | invert m => exact Array.map_extract

/-- A run works on its part of the batch as on a batch of its own. -/
theorem work_eq {S : Type u} [Add S] [Sub S] [Mul S] [Div S] [Zero S] [One S] {W : Nat}
    (hW : 0 < W) {batch : Batch S} {n : Nat} (hb : batch.Fits n) {c : Chunk} (hc : c.Within n)
    {run : Array (Mat4 S)} (hrun : run.size = c.live) :
    batch.work W c.start run =
      ⟨⟨.ok (), (chunks W c.live).flatMap (records W)⟩, c.of batch.results⟩ := by
  have hfits := fits_part hb hc
  rw [work, hrun, slice_eq hb hc]
  simp only
  rw [run_eq hW (by rw [hrun]; exact hfits), size_eq_of_fits hfits, results_part]

theorem size_run {S : Type u} [Add S] [Sub S] [Mul S] [Div S] [Zero S] [One S] (W : Nat)
    (batch : Batch S) (out : Array (Mat4 S)) : (batch.run W out).out.size = out.size := by
  by_cases hb : batch.Fits out.size
  · rcases Nat.eq_zero_or_pos W with rfl | hW
    · rw [run, check_eq_ok_iff.mpr hb]
      rfl
    · rw [run_eq hW hb]
      exact size_results hb
  · cases hcheck : batch.shape.check out.size with
    | ok _ => exact absurd (check_eq_ok_iff.mp hcheck) hb
    | error e =>
      rw [run, hcheck]
      rfl

theorem size_runParallel {S : Type u} [Add S] [Sub S] [Mul S] [Div S] [Zero S] [One S] (W : Nat)
    (batch : Batch S) (out : Array (Mat4 S)) (limit : Nat) :
    (batch.runParallel W out limit).out.size = out.size := by
  rw [runParallel]
  split
  · rfl
  · cases batch.shape.check out.size with
    | error e => rfl
    | ok _ =>
      simp only
      split
      · rfl
      · split
        · exact size_run W batch out
        · exact size_overRuns _ _ _ out

theorem keepsLength_work {S : Type u} [Add S] [Sub S] [Mul S] [Div S] [Zero S] [One S] (W : Nat)
    (batch : Batch S) : KeepsLength (batch.work W) := by
  intro start run
  rw [work]
  cases batch.slice start (start + run.size) with
  | error f => rfl
  | ok share => exact size_run W share run

theorem joinOutcomes_of_all_ok {outcomes : List (Except Failure Unit)}
    (h : ∀ r ∈ outcomes, r = .ok ()) : joinOutcomes (.ok ()) outcomes = .ok () := by
  induction outcomes with
  | nil => rfl
  | cons r rest ih =>
    rw [h r List.mem_cons_self]
    exact ih fun s hs => h s (List.mem_cons_of_mem r hs)

theorem runAlone_work {S : Type u} [Add S] [Sub S] [Mul S] [Div S] [Zero S] [One S] {W : Nat}
    (hW : 0 < W) {batch : Batch S} {out : Array (Mat4 S)} (hb : batch.Fits out.size)
    {length i : Nat} (hi : i * length ≤ out.size) :
    runAlone length (batch.work W) out i =
      ⟨⟨.ok (), (chunks W (chunk length out.size i).live).flatMap (records W)⟩,
        (chunk length out.size i).of batch.results⟩ :=
  work_eq hW hb (chunk_within hi) (Chunk.size_of (chunk_within hi))

/-- Runs of any length leave the results of the batch, whatever the order in which they finish. -/
theorem overRuns_work {S : Type u} [Add S] [Sub S] [Mul S] [Div S] [Zero S] [One S] {W : Nat}
    (hW : 0 < W) {batch : Batch S} {out : Array (Mat4 S)} (hb : batch.Fits out.size)
    {length : Nat} (hl : 0 < length) {order : List Nat}
    (h : order.Perm (List.range (pieceCount out.size length))) :
    (overRuns order length (batch.work W) out).outcome = .ok () ∧
      (overRuns order length (batch.work W) out).out = batch.results := by
  have hw := keepsLength_work W batch
  have halone : ∀ i < pieceCount out.size length, runAlone length (batch.work W) out i =
      ⟨⟨.ok (), (chunks W (chunk length out.size i).live).flatMap (records W)⟩,
        (chunk length out.size i).of batch.results⟩ := by
    intro i hi
    exact runAlone_work hW hb (Nat.le_of_lt ((lt_pieceCount_iff hl).mp hi))
  constructor
  · rw [(overRuns_of_perm hl hw h).1]
    apply joinOutcomes_of_all_ok
    intro r hr
    obtain ⟨call, hcall, rfl⟩ := List.mem_map.mp hr
    obtain ⟨i, hi, rfl⟩ := List.mem_map.mp hcall
    rw [halone i (List.mem_range.mp hi)]
  · apply overRuns_eq_of_pieces hl hw h (size_results hb)
    intro i hi
    rw [halone i hi]

/-- A batch that is not shared out is a plain call. -/
theorem runParallel_of_one {S : Type u} [Add S] [Sub S] [Mul S] [Div S] [Zero S] [One S]
    {W limit : Nat} (hW : 0 < W) (hlimit : 0 < limit) {batch : Batch S} {out : Array (Mat4 S)}
    (hb : batch.Fits out.size) (hone : Fanout.threadCount batch.size W limit = 1) :
    batch.runParallel W out limit = batch.run W out := by
  rw [runParallel, if_neg (Nat.pos_iff_ne_zero.mp hlimit), check_eq_ok_iff.mpr hb]
  simp only
  rw [if_neg (Nat.pos_iff_ne_zero.mp hW), if_pos hone]

theorem runParallel_of_ne_one {S : Type u} [Add S] [Sub S] [Mul S] [Div S] [Zero S] [One S]
    {W limit : Nat} (hW : 0 < W) (hlimit : 0 < limit) {batch : Batch S} {out : Array (Mat4 S)}
    (hb : batch.Fits out.size) (hmany : Fanout.threadCount batch.size W limit ≠ 1) :
    batch.runParallel W out limit =
      let length := Fanout.runLength batch.size W (Fanout.threadCount batch.size W limit)
      overRuns (List.range (pieceCount out.size length)) length (batch.work W) out := by
  rw [runParallel, if_neg (Nat.pos_iff_ne_zero.mp hlimit), check_eq_ok_iff.mpr hb]
  simp only
  rw [if_neg (Nat.pos_iff_ne_zero.mp hW), if_neg hmany]

theorem runParallel_results {S : Type u} [Add S] [Sub S] [Mul S] [Div S] [Zero S] [One S]
    {W limit : Nat} (hW : 0 < W) (hlimit : 0 < limit) {batch : Batch S} {out : Array (Mat4 S)}
    (hb : batch.Fits out.size) :
    (batch.runParallel W out limit).outcome = .ok () ∧
      (batch.runParallel W out limit).out = batch.results := by
  by_cases hone : Fanout.threadCount batch.size W limit = 1
  · rw [runParallel_of_one hW hlimit hb hone, run_eq hW hb]
    exact ⟨rfl, rfl⟩
  · rw [runParallel_of_ne_one hW hlimit hb hone]
    exact overRuns_work hW hb (Fanout.runLength_pos hlimit hone) (List.Perm.refl _)

end Batch

end LaneMatrix
