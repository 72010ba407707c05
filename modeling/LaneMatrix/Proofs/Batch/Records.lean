import Mathlib.Data.List.Basic
import LaneMatrix.Batch.Forecast
import LaneMatrix.Proofs.Batch.Parallel

/-!
# What batches report

Only the last chunk of a batch can be short, so a call writes one padding record or none. A run
whose length is a multiple of the width ends with a full chunk unless it is the last one, and the
last run leaves over as many matrices as the whole batch does; so the runs of a call that is shared
out write, all together, what one call writes. What a call reports is thereby settled by lengths
alone, and a forecast is never wrong.
-/

universe u v

namespace LaneMatrix

/-- The full pieces, and after them a short one if anything is left over. -/
theorem chunks_eq (n : Nat) {d : Nat} (hd : 0 < d) :
    chunks d n = (List.range (n / d)).map (fun i => (⟨i * d, d⟩ : Chunk)) ++
      if n % d = 0 then [] else [⟨n / d * d, n % d⟩] := by
  have hsplit := Nat.div_add_mod' n d
  have hfull : ∀ i ∈ List.range (n / d), chunk d n i = ⟨i * d, d⟩ := by
    intro i hi
    have hnext : (i + 1) * d ≤ n / d * d := Nat.mul_le_mul_right d (List.mem_range.mp hi)
    calc chunk d n i
      _ = ⟨i * d, (chunk d n i).live⟩ := rfl
      _ = ⟨i * d, d⟩ := by rw [live_chunk_of_full (by omega)]
  by_cases hrest : n % d = 0
  · rw [chunks, pieceCount, if_pos hrest, if_pos hrest, List.append_nil]
    exact List.map_congr_left hfull
  · have hlast : chunk d n (n / d) = ⟨n / d * d, n % d⟩ := by
      have hless := Nat.mod_lt n hd
      calc chunk d n (n / d)
        _ = ⟨n / d * d, (chunk d n (n / d)).live⟩ := rfl
        _ = ⟨n / d * d, n - n / d * d⟩ := by
          rw [live_chunk_of_le (by rw [Nat.add_mul]; omega)]
        _ = ⟨n / d * d, n % d⟩ := by rw [Nat.sub_eq_of_eq_add' hsplit.symm]
    rw [chunks, pieceCount, if_neg hrest, if_neg hrest, List.range_succ, List.map_append,
      List.map_congr_left hfull, List.map_singleton, hlast]

/-- Where full pieces count for nothing, all depends on what is left over. -/
theorem flatMap_chunks {β : Type v} (f : Chunk → List β) (n : Nat) {d : Nat} (hd : 0 < d)
    (hfull : ∀ c : Chunk, c.live = d → f c = []) :
    (chunks d n).flatMap f = if n % d = 0 then [] else f ⟨n / d * d, n % d⟩ := by
  have hnone : ((List.range (n / d)).map fun i => (⟨i * d, d⟩ : Chunk)).flatMap f = [] := by
    rw [List.flatMap_eq_nil_iff]
    intro c hc
    obtain ⟨i, -, rfl⟩ := List.mem_map.mp hc
    exact hfull _ rfl
  rw [chunks_eq n hd, List.flatMap_append, hnone, List.nil_append]
  split
  · rfl
  · exact List.flatMap_singleton f _

namespace Batch

theorem flatMap_records {W : Nat} (hW : 0 < W) (n : Nat) :
    (chunks W n).flatMap (records W) = Shape.tail n W := by
  rw [flatMap_chunks (records W) n hW, Shape.tail, records, if_pos (Nat.mod_lt n hW)]
  intro c hc
  rw [records, if_neg (by omega)]

/-- Runs of full chunks write what the whole batch would write. -/
theorem flatMap_tail {W length : Nat} (hl : 0 < length) (hdvd : W ∣ length) (n : Nat) :
    (chunks length n).flatMap (fun c => Shape.tail c.live W) = Shape.tail n W := by
  rw [flatMap_chunks _ n hl]
  · by_cases hrest : n % length = 0
    · have hn : n % W = 0 :=
        Nat.mod_eq_zero_of_dvd (Nat.dvd_trans hdvd (Nat.dvd_of_mod_eq_zero hrest))
      rw [if_pos hrest, Shape.tail, if_pos hn]
    · simp only [if_neg hrest, Shape.tail, Nat.mod_mod_of_dvd n hdvd]
  · intro c hc
    rw [hc, Shape.tail, if_pos (Nat.mod_eq_zero_of_dvd hdvd)]

section Calls

variable {S : Type u} [Add S] [Sub S] [Mul S] [Div S] [Zero S] [One S] {W limit length : Nat}
  {batch : Batch S} {out : Array (Mat4 S)}

theorem log_run (hW : 0 < W) (hb : batch.Fits out.size) :
    (batch.run W out).log = Shape.tail batch.size W := by
  rw [run_eq hW hb]
  exact flatMap_records hW batch.size

/-- A run on its own is padded only where its length is no multiple of the width. -/
theorem log_runAlone (hW : 0 < W) (hb : batch.Fits out.size) {i : Nat}
    (hi : i * length ≤ out.size) :
    (runAlone length (batch.work W) out i).log =
      Shape.tail (chunk length out.size i).live W := by
  rw [runAlone_work hW hb hi]
  exact flatMap_records hW _

theorem log_overRuns (hW : 0 < W) (hb : batch.Fits out.size) (hl : 0 < length)
    (hdvd : W ∣ length) :
    (overRuns (List.range (pieceCount out.size length)) length (batch.work W) out).log =
      .splitting out.size length (pieceCount out.size length) :: Shape.tail out.size W := by
  have hlogs : (runsAlone length (batch.work W) out).flatMap (fun r => r.log) =
      (chunks length out.size).flatMap fun c => Shape.tail c.live W := by
    rw [runsAlone, chunks, List.flatMap_map, List.flatMap_map]
    apply List.flatMap_congr
    intro i hi
    have hstart := (lt_pieceCount_iff hl).mp (List.mem_range.mp hi)
    exact log_runAlone hW hb (Nat.le_of_lt hstart)
  rw [(overRuns_of_perm hl (keepsLength_work W batch) (List.Perm.refl _)).2.1, hlogs,
    flatMap_tail hl hdvd]

/-- A plain call reports what is forecast from its lengths. -/
theorem report_run (W : Nat) (batch : Batch S) (out : Array (Mat4 S)) :
    (batch.run W out).toReport = batch.shape.forecast W out.size := by
  cases hcheck : batch.shape.check out.size with
  | error e =>
    rw [run, hcheck, Shape.forecast, hcheck]
    rfl
  | ok _ =>
    have hb := check_eq_ok_iff.mp hcheck
    rcases Nat.eq_zero_or_pos W with rfl | hW
    · rw [run, hcheck, Shape.forecast, hcheck]
      rfl
    · rw [run_eq hW hb, Shape.forecast, hcheck, flatMap_records hW]
      exact (if_neg (Nat.pos_iff_ne_zero.mp hW)).symm

/-- So does a call on several threads. -/
theorem report_runParallel (W : Nat) (batch : Batch S) (out : Array (Mat4 S)) (limit : Nat) :
    (batch.runParallel W out limit).toReport = batch.shape.forecastParallel W out.size limit := by
  by_cases hlimit : limit = 0
  · subst hlimit
    rfl
  cases hcheck : batch.shape.check out.size with
  | error e =>
    rw [runParallel, if_neg hlimit, hcheck, Shape.forecastParallel, if_neg hlimit, hcheck]
    rfl
  | ok _ =>
    have hb := check_eq_ok_iff.mp hcheck
    have hcount : batch.shape.count = out.size := size_eq_of_fits hb
    rw [Shape.forecastParallel, if_neg hlimit, hcheck]
    by_cases hW : W = 0
    · subst hW
      rw [runParallel, if_neg hlimit, hcheck]
      rfl
    simp only [if_neg hW, hcount]
    have hW' := Nat.pos_iff_ne_zero.mpr hW
    have hlimit' := Nat.pos_iff_ne_zero.mpr hlimit
    by_cases hone : Fanout.threadCount batch.size W limit = 1
    · rw [runParallel_of_one hW' hlimit' hb hone, report_run, Shape.forecast, hcheck]
      rw [size, hcount] at hone
      rw [if_pos hone]
      simp only [if_neg hW, hcount]
    · have hl := Fanout.runLength_pos hlimit' hone
      have houtcome := (overRuns_work hW' hb hl (List.Perm.refl _)).1
      have hlog := log_overRuns hW' hb hl (Fanout.dvd_runLength batch.size hW' _)
      rw [runParallel_of_ne_one hW' hlimit' hb hone]
      rw [size, hcount] at hone houtcome hlog ⊢
      rw [if_neg hone, ← houtcome, ← hlog]

/-- Of runs that are cut at full chunks only the last can write anything, and it writes what a
plain call on the whole batch writes. -/
theorem log_runAlone_of_dvd (hW : 0 < W) (hb : batch.Fits out.size) (hl : 0 < length)
    (hdvd : W ∣ length) {i : Nat} (hi : i < pieceCount out.size length) :
    (runAlone length (batch.work W) out i).log =
      if i + 1 = pieceCount out.size length then (batch.run W out).log else [] := by
  have hstart : i * length < out.size := (lt_pieceCount_iff hl).mp hi
  rw [log_runAlone hW hb (Nat.le_of_lt hstart), log_run hW hb, size_eq_of_fits hb]
  by_cases hend : i + 1 = pieceCount out.size length
  · have hrest : (out.size - i * length) % W = out.size % W := by
      obtain ⟨k, hk⟩ := Nat.dvd_trans hdvd (Nat.dvd_mul_left length i)
      rw [hk, Nat.sub_mul_mod (by omega)]
    have hlast : out.size ≤ (i + 1) * length := by
      rw [hend]
      exact le_pieceCount_mul out.size hl
    rw [if_pos hend, live_chunk_of_le hlast, Shape.tail, Shape.tail, hrest]
  · have hnext : (i + 1) * length < out.size := (lt_pieceCount_iff hl).mp (by omega)
    rw [if_neg hend, live_chunk_of_full (Nat.le_of_lt hnext), Shape.tail,
      if_pos (Nat.mod_eq_zero_of_dvd hdvd)]

/-- A call that is shared out writes a record of its own and then those of a plain call. -/
theorem log_runParallel_of_shared (hW : 0 < W) (hlimit : 0 < limit) (hb : batch.Fits out.size)
    (hshared : Fanout.threadCount batch.size W limit ≠ 1) :
    let length := Fanout.runLength batch.size W (Fanout.threadCount batch.size W limit)
    (batch.runParallel W out limit).log =
      .splitting batch.size length (pieceCount batch.size length) :: (batch.run W out).log := by
  have hl := Fanout.runLength_pos hlimit hshared
  rw [runParallel_of_ne_one hW hlimit hb hshared, log_run hW hb]
  simp only
  rw [log_overRuns hW hb hl (Fanout.dvd_runLength batch.size hW _), size_eq_of_fits hb]

/-- The records of both kinds of calls, for lists that belong together. -/
theorem log_run_and_log_runParallel (hW : 0 < W) (hlimit : 0 < limit) (hb : batch.Fits out.size) :
    (batch.run W out).log =
        (if W ∣ batch.size then [] else [.padding (batch.size % W) W]) ∧
      ((batch.runParallel W out limit).log = (batch.run W out).log ∧
          Fanout.threadCount batch.size W limit = 1 ∨
        ∃ length runs,
          (batch.runParallel W out limit).log =
            .splitting batch.size length runs :: (batch.run W out).log ∧
          W ∣ length ∧ 0 < length ∧ 2 ≤ runs ∧ runs ≤ limit ∧
          (runs - 1) * length < batch.size ∧ batch.size ≤ runs * length ∧
          ∀ i, i < runs → (runAlone length (batch.work W) out i).log =
            if i + 1 = runs then (batch.run W out).log else []) ∧
      (∀ live width, (BatchRecord.padding live width).line.text =
        s!"padding tail chunk: {live} of {width} lanes live") ∧
      ∀ count length runs, (BatchRecord.splitting count length runs).line.text =
        s!"splitting {count} matrices into runs of {length} across {runs} threads" := by
  refine ⟨?_, ?_, fun _ _ => rfl, fun _ _ _ => rfl⟩
  · rw [log_run hW hb, Shape.tail]
    simp only [Nat.dvd_iff_mod_eq_zero]
  · by_cases hone : Fanout.threadCount batch.size W limit = 1
    · left
      exact ⟨by rw [runParallel_of_one hW hlimit hb hone], hone⟩
    · right
      have hpos := Fanout.threadCount_pos batch.size W hlimit
      obtain ⟨hdvd, hl, htwo, hruns, hlast, hall⟩ :=
        Fanout.runs_of_shared hW (by omega : 2 ≤ Fanout.threadCount batch.size W limit)
      refine ⟨_, _, log_runParallel_of_shared hW hlimit hb hone, hdvd, hl, htwo, hruns, hlast,
        hall, ?_⟩
      rw [size_eq_of_fits hb] at hdvd hl ⊢
      exact fun i hi => log_runAlone_of_dvd hW hb hl hdvd hi

end Calls

/-- A batch of odd length at width two, shared out to two of three threads. -/
theorem log_of_odd_batch :
    let batch := invert (Array.replicate 4099 (Mat4.identity : Mat4 Float32))
    let out := Array.replicate 4099 (0 : Mat4 Float32)
    0 < 2 ∧ 0 < 3 ∧ batch.Fits out.size ∧ (batch.run 2 out).log = [.padding 1 2] ∧
      ∃ length runs, (batch.runParallel 2 out 3).log =
          [.splitting 4099 length runs, .padding 1 2] ∧
        2 ∣ length ∧ 2 ≤ runs ∧ runs ≤ 3 ∧ (runs - 1) * length < 4099 := by
  intro batch out
  have hb : batch.Fits out.size := by
    rw [Fits, Array.size_replicate, Array.size_replicate]
  have hn : batch.size = 4099 := (size_eq_of_fits hb).trans Array.size_replicate
  obtain ⟨hplain, hparallel, -⟩ :=
    log_run_and_log_runParallel (by decide : 0 < 2) (by decide : 0 < 3) hb
  rw [hn, if_neg (by decide)] at hplain
  rw [hn, hplain] at hparallel
  rcases hparallel with ⟨-, hone⟩ | ⟨length, runs, hlog, hdvd, -, htwo, hthree, hlast, -⟩
  · exact absurd hone (by decide)
  · exact ⟨by decide, by decide, hb, hplain, length, runs, hlog, hdvd, htwo, hthree, hlast⟩

end Batch

end LaneMatrix
