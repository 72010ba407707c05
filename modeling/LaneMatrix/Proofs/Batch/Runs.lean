import LaneMatrix.Batch.Parallel
import LaneMatrix.Proofs.Batch.Pasting

/-!
# Runs in any order

The runs of a call have no place in common, so a run that finishes later still finds its own part
of the output as it was at the start. What a run reports and writes is therefore what it would
report and write alone, and since the reports are joined in the order of the runs, nothing of the
order in which the runs finish is left.
-/

universe u

namespace LaneMatrix

theorem Call.eq_of_parts {α : Type u} {c d : Call α} (houtcome : c.outcome = d.outcome)
    (hlog : c.log = d.log) (hout : c.out = d.out) : c = d := by
  obtain ⟨⟨outcome, log⟩, out⟩ := c
  obtain ⟨⟨outcome', log'⟩, out'⟩ := d
  obtain rfl : outcome = outcome' := houtcome
  obtain rfl : log = log' := hlog
  obtain rfl : out = out' := hout
  rfl

/-- A run leaves as many places as it was given. -/
def KeepsLength {α : Type u} (work : Nat → Array α → Call α) : Prop :=
  ∀ start run, (work start run).out.size = run.size

/-- Run `i` alone, on the output as it is at the start. -/
def runAlone {α : Type u} (length : Nat) (work : Nat → Array α → Call α) (out : Array α)
    (i : Nat) : Call α :=
  let run := chunk length out.size i
  work run.start (run.of out)

theorem Chunk.of_congr {α : Type u} {c : Chunk} {xs ys : Array α} (hx : c.Within xs.size)
    (hy : c.Within ys.size) (h : ∀ k, c.Holds k → xs[k]? = ys[k]?) : c.of xs = c.of ys := by
  apply Array.ext_getElem?
  intro k
  rw [getElem?_of hx, getElem?_of hy]
  by_cases hk : k < c.live
  · rw [if_pos hk, if_pos hk]
    exact h _ ⟨Nat.le_add_right _ _, by omega⟩
  · rw [if_neg hk, if_neg hk]

/-- A chunk that is written anew holds what was written. -/
theorem Chunk.of_overwrite_self {α : Type u} {c : Chunk} {xs ys : Array α}
    (h : c.Within xs.size) (hy : ys.size = c.live) :
    c.of (overwrite xs c.start ys.toList) = ys := by
  have hend : c.start + c.live ≤ xs.size := h
  apply Array.ext_getElem?
  intro k
  rw [getElem?_of (by rwa [size_overwrite]), getElem?_overwrite, Array.length_toList, hy]
  by_cases hk : k < c.live
  · rw [if_pos hk, if_pos (by omega), Nat.add_sub_cancel_left, Array.getElem?_toList]
  · rw [if_neg hk]
    exact (Array.getElem?_eq_none (by omega)).symm

/-- Writing one piece anew leaves the others as they are. -/
theorem Chunk.of_overwrite_of_ne {α : Type u} {d i j : Nat} (hd : 0 < d) {xs ys : Array α}
    (hj : j * d ≤ xs.size) (hij : j ≠ i) (hy : ys.size = (chunk d xs.size i).live) :
    (chunk d xs.size j).of (overwrite xs (i * d) ys.toList) = (chunk d xs.size j).of xs := by
  apply Chunk.of_congr
  · rw [size_overwrite]
    exact chunk_within hj
  · exact chunk_within hj
  · intro k hk
    have hown := ((holds_chunk_iff hd).mp hk).1
    rw [getElem?_overwrite, Array.length_toList, hy, if_neg]
    rintro ⟨hlow, hhigh, -⟩
    have hother : (chunk d xs.size i).Holds k := ⟨hlow, hhigh⟩
    exact hij (hown.trans ((holds_chunk_iff hd).mp hother).1.symm)

theorem size_runAlone {α : Type u} {length : Nat} {work : Nat → Array α → Call α}
    (hw : KeepsLength work) {out : Array α} {i : Nat} (hi : i * length ≤ out.size) :
    (runAlone length work out i).out.size = (chunk length out.size i).live := by
  rw [runAlone, hw, Chunk.size_of (chunk_within hi)]

/-- Turns still needed, after a schedule that begins with a turn of `i`. -/
theorem sub_count_cons (turns i j : Nat) (schedule : List Nat) :
    turns - (i :: schedule).count j = (turns - if i = j then 1 else 0) - schedule.count j := by
  rw [List.count_cons]
  by_cases hij : i = j
  · rw [if_pos hij, if_pos (by rw [hij]; exact beq_self_eq_true j)]
    omega
  · rw [if_neg hij, if_neg (by simpa using hij)]
    omega

/-- No turns are left exactly when each of the threads has had those that it needed. -/
theorem sub_count_eq_zero_iff {threads : Nat} {needed : Nat → Nat} {schedule : List Nat} :
    (∀ i, (if i < threads then needed i else 0) - schedule.count i = 0) ↔
      ∀ i < threads, needed i ≤ schedule.count i := by
  constructor
  · intro h i hi
    have hzero := h i
    rw [if_pos hi] at hzero
    omega
  · intro h i
    by_cases hi : i < threads
    · have hturns := h i hi
      rw [if_pos hi]
      omega
    · rw [if_neg hi, Nat.zero_sub]

namespace Finished

@[simp] theorem size_add {α : Type u} (length count : Nat) (work : Nat → Array α → Call α)
    (s : Finished α) (i : Nat) : (s.add length count work i).out.size = s.out.size :=
  size_overwrite _ _ _

theorem size_foldl_add {α : Type u} (length count : Nat) (work : Nat → Array α → Call α)
    (order : List Nat) (s : Finished α) :
    (order.foldl (add length count work) s).out.size = s.out.size := by
  induction order generalizing s with
  | nil => rfl
  | cons i order ih => rw [List.foldl_cons, ih, size_add]

section Pieces

variable {α : Type u} {length : Nat} {work : Nat → Array α → Call α}

/-- A run writes its own piece anew and no other. -/
theorem of_add (hl : 0 < length) (hw : KeepsLength work) (s : Finished α) {i j : Nat}
    (hi : i * length ≤ s.out.size) (hj : j * length ≤ s.out.size) :
    (chunk length s.out.size j).of (s.add length s.out.size work i).out =
      if j = i then (runAlone length work s.out j).out
      else (chunk length s.out.size j).of s.out := by
  have hadd : (s.add length s.out.size work i).out =
      overwrite s.out (i * length) (runAlone length work s.out i).out.toList := rfl
  rw [hadd]
  by_cases hij : j = i
  · subst hij
    rw [if_pos rfl]
    exact Chunk.of_overwrite_self (chunk_within hj) (size_runAlone hw hj)
  · rw [if_neg hij]
    exact Chunk.of_overwrite_of_ne hl hj hij (size_runAlone hw hi)

theorem runAlone_add (hl : 0 < length) (hw : KeepsLength work) (s : Finished α) {i j : Nat}
    (hi : i * length ≤ s.out.size) (hj : j * length ≤ s.out.size) (hij : j ≠ i) :
    runAlone length work (s.add length s.out.size work i).out j =
      runAlone length work s.out j := by
  simp only [runAlone, size_add, of_add hl hw s hi hj, if_neg hij]

/-- After some runs have finished, their reports are those of the runs alone, and their pieces
hold what the runs alone write. The induction is over the order; the runs still to come are
untouched by the one that finishes. -/
theorem foldl_add (hl : 0 < length) (hw : KeepsLength work) {order : List Nat}
    (hnodup : order.Nodup) (s : Finished α) (horder : ∀ i ∈ order, i * length ≤ s.out.size) :
    (order.foldl (add length s.out.size work) s).reports =
        s.reports ++ order.map (fun i => (i, (runAlone length work s.out i).toReport)) ∧
      ∀ j, j * length ≤ s.out.size →
        (chunk length s.out.size j).of (order.foldl (add length s.out.size work) s).out =
          if j ∈ order then (runAlone length work s.out j).out
          else (chunk length s.out.size j).of s.out := by
  induction order generalizing s with
  | nil => simp
  | cons i rest ih =>
    obtain ⟨hfresh, hrestnodup⟩ := List.nodup_cons.mp hnodup
    have hi := horder i List.mem_cons_self
    have hrest : ∀ j ∈ rest, j * length ≤ s.out.size :=
      fun j hj => horder j (List.mem_cons_of_mem i hj)
    have hsize := size_add length s.out.size work s i
    have hsame : ∀ j ∈ rest, runAlone length work (s.add length s.out.size work i).out j =
        runAlone length work s.out j := by
      intro j hj
      refine runAlone_add hl hw s hi (hrest j hj) ?_
      rintro rfl
      exact hfresh hj
    obtain ⟨hreports, hout⟩ := ih hrestnodup (s.add length s.out.size work i)
      (by rw [hsize]; exact hrest)
    rw [hsize] at hreports hout
    rw [List.foldl_cons]
    constructor
    · have htail : rest.map (fun j =>
          (j, (runAlone length work (s.add length s.out.size work i).out j).toReport)) =
          rest.map (fun j => (j, (runAlone length work s.out j).toReport)) := by
        apply List.map_congr_left
        intro j hj
        rw [hsame j hj]
      rw [hreports, htail, List.map_cons, List.append_cons]
      rfl
    · intro j hj
      rw [hout j hj]
      by_cases hmem : j ∈ rest
      · rw [if_pos hmem, if_pos (List.mem_cons_of_mem i hmem), hsame j hmem]
      · simp only [if_neg hmem, of_add hl hw s hi hj, List.mem_cons, or_iff_left hmem]

end Pieces

end Finished

theorem lookup_map_of_mem {α : Type u} (f : Nat → α) {order : List Nat} {i : Nat}
    (h : i ∈ order) : (order.map fun j => (j, f j)).lookup i = some (f i) := by
  induction order with
  | nil => cases h
  | cons j order ih =>
    rw [List.map_cons, List.lookup_cons]
    by_cases hij : i = j
    · subst hij
      simp
    · have hne : (i == j) = false := by simpa using hij
      rw [hne]
      exact ih ((List.mem_cons.mp h).resolve_left hij)

/-- Values filed under their keys in some order, read back in another. -/
theorem filterMap_lookup_map {α : Type u} (f : Nat → α) {order keys : List Nat}
    (h : ∀ i ∈ keys, i ∈ order) :
    (keys.filterMap fun i => (order.map fun j => (j, f j)).lookup i) = keys.map f := by
  induction keys with
  | nil => rfl
  | cons i keys ih =>
    have hrest := ih fun j hj => h j (List.mem_cons_of_mem i hj)
    rw [List.filterMap_cons, lookup_map_of_mem f (h i List.mem_cons_self), List.map_cons, ← hrest]

/-- The runs alone, in their own order. -/
def runsAlone {α : Type u} (length : Nat) (work : Nat → Array α → Call α) (out : Array α) :
    List (Call α) :=
  (List.range (pieceCount out.size length)).map (runAlone length work out)

theorem size_overRuns {α : Type u} (order : List Nat) (length : Nat)
    (work : Nat → Array α → Call α) (out : Array α) :
    (overRuns order length work out).out.size = out.size := by
  rw [overRuns]
  split
  · rfl
  · exact Finished.size_foldl_add length out.size work order ⟨[], out⟩

section Orders

variable {α : Type u} {length : Nat} {work : Nat → Array α → Call α} {out : Array α}
  {order other : List Nat}

/-- What a call on runs comes to, whatever the order in which they finish. -/
theorem overRuns_of_perm (hl : 0 < length) (hw : KeepsLength work)
    (h : order.Perm (List.range (pieceCount out.size length))) :
    (overRuns order length work out).outcome =
        joinOutcomes (.ok ()) ((runsAlone length work out).map fun r => r.outcome) ∧
      (overRuns order length work out).log =
        .splitting out.size length (pieceCount out.size length) ::
          (runsAlone length work out).flatMap (fun r => r.log) ∧
      ∀ i < pieceCount out.size length,
        (chunk length out.size i).of (overRuns order length work out).out =
          (runAlone length work out i).out := by
  have hmem : ∀ i, i ∈ order ↔ i < pieceCount out.size length := by
    intro i
    rw [h.mem_iff, List.mem_range]
  have hnodup : order.Nodup := h.nodup_iff.mpr List.nodup_range
  have horder : ∀ i ∈ order, i * length ≤ out.size := by
    intro i hi
    exact Nat.le_of_lt ((lt_pieceCount_iff hl).mp ((hmem i).mp hi))
  obtain ⟨hreports, hout⟩ := Finished.foldl_add hl hw hnodup ⟨[], out⟩ horder
  simp only [List.nil_append] at hreports
  have hlookup : ((List.range (pieceCount out.size length)).filterMap fun i =>
        (order.foldl (Finished.add length out.size work) ⟨[], out⟩).reports.lookup i) =
      (runsAlone length work out).map fun r => r.toReport := by
    rw [hreports, filterMap_lookup_map _ fun i hi => (hmem i).mpr (List.mem_range.mp hi),
      runsAlone, List.map_map]
    rfl
  rw [overRuns, if_neg (Nat.pos_iff_ne_zero.mp hl)]
  refine ⟨?_, ?_, ?_⟩
  · simp only [hlookup, List.map_map]
    rfl
  · simp only [hlookup, List.flatMap_map]
  · intro i hi
    have hrun := (hmem i).mpr hi
    rw [hout i (horder i hrun), if_pos hrun]

/-- The output of the runs is the list whose pieces are what the runs alone leave. -/
theorem overRuns_eq_of_pieces (hl : 0 < length) (hw : KeepsLength work)
    (h : order.Perm (List.range (pieceCount out.size length))) {xs : Array α}
    (hsize : xs.size = out.size)
    (hpieces : ∀ i < pieceCount out.size length,
      (chunk length out.size i).of xs = (runAlone length work out i).out) :
    (overRuns order length work out).out = xs := by
  obtain ⟨-, -, hout⟩ := overRuns_of_perm hl hw h
  have hruns := size_overRuns order length work out
  apply eq_of_pieces hl (hruns.trans hsize.symm)
  rw [hruns]
  intro i hi
  rw [hout i hi, hpieces i hi]

/-- Two orders in which the same runs finish make no difference. -/
theorem overRuns_perm (hl : 0 < length) (hw : KeepsLength work)
    (h : order.Perm (List.range (pieceCount out.size length)))
    (ho : other.Perm (List.range (pieceCount out.size length))) :
    overRuns order length work out = overRuns other length work out := by
  obtain ⟨houtcome, hlog, -⟩ := overRuns_of_perm hl hw h
  obtain ⟨houtcome', hlog', hout'⟩ := overRuns_of_perm hl hw ho
  apply Call.eq_of_parts
  · rw [houtcome, houtcome']
  · rw [hlog, hlog']
  · exact overRuns_eq_of_pieces hl hw h (size_overRuns other length work out) hout'

end Orders

end LaneMatrix
