import LaneMatrix.Batch.Schedule
import LaneMatrix.Proofs.Batch.Parallel

/-!
# Every schedule

Threads take turns chunk by chunk, in any order. The invariant of a schedule is that each place of
the output either holds its result or lies in a chunk that some thread still has to do; a turn may
only write results, so the invariant does not care who is next. When all threads are done nothing
is left to do, and the output is that of a plain call.
-/

universe u

namespace LaneMatrix

theorem Chunk.of_of {α : Type u} {c d : Chunk} (h : c.Within d.live) (xs : Array α) :
    c.of (d.of xs) = (⟨d.start + c.start, c.live⟩ : Chunk).of xs := by
  have hend : c.start + c.live ≤ d.live := h
  simp only [Chunk.of, Array.extract_extract]
  congr 1
  omega

namespace Worker

/-- Where a chunk of the worker's run lies in the output. -/
def place {S : Type u} (w : Worker S) (c : Chunk) : Chunk := ⟨w.start + c.start, c.live⟩

/-- The worker still has to write the place `k` of the output. -/
def Pends {S : Type u} (w : Worker S) (k : Nat) : Prop := ∃ c ∈ w.pending, (w.place c).Holds k

/-- The worker's share is the part of the batch that its run covers, and what it still has to do
lies in this run. -/
structure Sound {S : Type u} [Add S] [Sub S] [Mul S] [Div S] [One S] (W : Nat) (batch : Batch S)
    (w : Worker S) : Prop where
  fits : w.share.Fits w.share.size
  within : (⟨w.start, w.share.size⟩ : Chunk).Within batch.size
  results : w.share.results = (⟨w.start, w.share.size⟩ : Chunk).of batch.results
  pending : ∀ c ∈ w.pending, c.Within w.share.size ∧ c.live ≤ W
  room : W ≤ w.scratch.size

theorem Sound.within_place {S : Type u} [Add S] [Sub S] [Mul S] [Div S] [One S] {W : Nat}
    {batch : Batch S} {w : Worker S} (hw : w.Sound W batch) {c : Chunk} (hc : c ∈ w.pending) :
    (w.place c).Within batch.size := by
  have hrun : w.start + w.share.size ≤ batch.size := hw.within
  have hend : c.start + c.live ≤ w.share.size := (hw.pending c hc).1
  simp only [Chunk.Within, place]
  omega

/-- A chunk at work writes the results of its places. -/
theorem turn_cons {S : Type u} [Add S] [Sub S] [Mul S] [Div S] [Zero S] [One S] {W : Nat}
    {batch : Batch S} {w : Worker S} (hw : w.Sound W batch) (pad : Mat4 S) {c : Chunk}
    {rest : List Chunk} (hpending : w.pending = c :: rest) {out : Array (Mat4 S)}
    (hout : out.size = batch.size) :
    ∃ scratch, W ≤ scratch.size ∧
      w.turn W pad out = .ok ({ w with pending := rest, scratch },
        Chunk.paste batch.results out (w.place c)) := by
  have hmem : c ∈ w.pending := by
    rw [hpending]
    exact List.mem_cons_self
  obtain ⟨hc, hlive⟩ := hw.pending c hmem
  have hold : ((w.place c).of out).size = c.live :=
    Chunk.size_of (by rw [hout]; exact hw.within_place hmem)
  have hblock : c.of w.share.results = (w.place c).of batch.results := by
    rw [hw.results, Chunk.of_of hc]
    rfl
  obtain ⟨t, ht, hbehind⟩ := Batch.gives_solve pad hw.fits hc hlive
    hold w.scratch hw.room
  refine ⟨t, by rw [hbehind.1]; exact hw.room, ?_⟩
  have hsolve : w.share.solve W pad c (Chunk.of ⟨w.start + c.start, c.live⟩ out) w.scratch =
      .ok ((w.place c).of batch.results, t) := by
    rw [← hblock]
    exact ht
  simp only [turn, hpending, StateT.run, hsolve]
  rfl

/-- One turn: a chunk less to do, and at each place either the result or what was there before,
the latter only where the worker leaves nothing undone that it did not leave undone before. -/
theorem turn_sound {S : Type u} [Add S] [Sub S] [Mul S] [Div S] [Zero S] [One S] {W : Nat}
    {batch : Batch S} (hb : batch.Fits batch.size) {w : Worker S} (hw : w.Sound W batch)
    (pad : Mat4 S) {out : Array (Mat4 S)} (hout : out.size = batch.size) :
    ∃ next written, w.turn W pad out = .ok (next, written) ∧ next.Sound W batch ∧
      next.pending.length = w.pending.length - 1 ∧ written.size = batch.size ∧
      ∀ k, written[k]? = batch.results[k]? ∨
        (written[k]? = out[k]? ∧ (w.Pends k → next.Pends k)) := by
  cases hp : w.pending with
  | nil =>
    refine ⟨w, out, by rw [turn, hp], hw, by rw [hp]; rfl, hout, ?_⟩
    exact fun k => Or.inr ⟨rfl, id⟩
  | cons c rest =>
    obtain ⟨scratch, hroom, hturn⟩ := turn_cons hw pad hp hout
    have hrest : ∀ d ∈ rest, d ∈ w.pending := by
      rw [hp]
      exact fun d hd => List.mem_cons_of_mem c hd
    refine ⟨_, _, hturn, ⟨hw.fits, hw.within, hw.results, fun d hd => hw.pending d (hrest d hd),
      hroom⟩, rfl, by rw [Chunk.size_paste, hout], ?_⟩
    intro k
    have hres := Batch.size_results hb
    have hplace : (w.place c).Within batch.size :=
      hw.within_place (by rw [hp]; exact List.mem_cons_self)
    rw [Chunk.getElem?_paste (by rw [hres, hout]) (by rw [hres]; exact hplace)]
    by_cases hk : (w.place c).Holds k
    · left
      rw [if_pos hk]
    · right
      refine ⟨if_neg hk, ?_⟩
      rintro ⟨d, hd, hdk⟩
      rw [hp] at hd
      rcases List.mem_cons.mp hd with rfl | hd
      · exact absurd hdk hk
      · exact ⟨d, hd, hdk⟩

/-- The worker of run `i` before its first chunk, where the run can be cut out of the batch. -/
def starting {S : Type u} [Zero S] (W : Nat) (batch : Batch S) (length i : Nat) : Worker S :=
  let run := chunk length batch.size i
  ⟨batch.part run, run.start, chunks W run.live, Array.replicate W 0⟩

theorem ofRun_eq {S : Type u} [Zero S] (W : Nat) {batch : Batch S}
    (hb : batch.Fits batch.size) {length i : Nat} (hi : i * length ≤ batch.size) :
    ofRun W batch length i = .ok (starting W batch length i) := by
  have hrun := chunk_within hi
  simp only [ofRun, Batch.slice_eq hb hrun, bind, Except.bind, starting,
    Batch.size_eq_of_fits (Batch.fits_part hb hrun)]
  rfl

theorem sound_starting {S : Type u} [Add S] [Sub S] [Mul S] [Div S] [Zero S] [One S] {W : Nat}
    (hW : 0 < W) {batch : Batch S} (hb : batch.Fits batch.size) {length i : Nat}
    (hi : i * length ≤ batch.size) : (starting W batch length i).Sound W batch := by
  have hrun := chunk_within hi
  have hfits := Batch.fits_part hb hrun
  have hsize : (starting W batch length i).share.size = (chunk length batch.size i).live :=
    Batch.size_eq_of_fits hfits
  constructor
  · rw [hsize]
    exact hfits
  · rw [hsize]
    exact hrun
  · rw [hsize]
    exact Batch.results_part batch _
  · rw [hsize]
    exact fun c hc => ⟨within_of_mem_chunks hW hc, live_le_of_mem_chunks hc⟩
  · exact Nat.le_of_eq Array.size_replicate.symm

/-- Before its first chunk, a worker still has to write every place of its run. -/
theorem pends_starting {S : Type u} [Zero S] {W : Nat} (hW : 0 < W) {batch : Batch S}
    {length i k : Nat} (hk : (chunk length batch.size i).Holds k) :
    (starting W batch length i).Pends k := by
  obtain ⟨hlow, hhigh⟩ := hk
  obtain ⟨c, hc, hlow', hhigh'⟩ := chunks_covering (d := W)
    (n := (chunk length batch.size i).live) (k := k - (chunk length batch.size i).start) hW
    (by omega)
  refine ⟨c, hc, ?_⟩
  simp only [Chunk.Holds, place, starting]
  omega

end Worker

namespace Workshop

/-- How many chunks worker `i` still has to do. -/
def left {S : Type u} (shop : Workshop S) (i : Nat) : Nat :=
  match shop.workers[i]? with
  | some w => w.pending.length
  | none => 0

/-- What no worker still has to write is the result. -/
structure Sound {S : Type u} [Add S] [Sub S] [Mul S] [Div S] [One S] (W : Nat) (batch : Batch S)
    (shop : Workshop S) : Prop where
  workers : ∀ w ∈ shop.workers, w.Sound W batch
  size : shop.out.size = batch.size
  settled : ∀ k, (∀ w ∈ shop.workers, ¬ w.Pends k) → shop.out[k]? = batch.results[k]?

/-- A turn of any worker succeeds and keeps the invariant; only its own work gets less. -/
theorem turn_sound {S : Type u} [Add S] [Sub S] [Mul S] [Div S] [Zero S] [One S] {W : Nat}
    {batch : Batch S} (hb : batch.Fits batch.size) {shop : Workshop S}
    (h : shop.Sound W batch) (pad : Mat4 S) (i : Nat) :
    ∃ next, shop.turn W pad i = .ok next ∧ next.Sound W batch ∧
      ∀ j, next.left j = shop.left j - if i = j then 1 else 0 := by
  cases hi : shop.workers[i]? with
  | none =>
    refine ⟨shop, by rw [turn, hi], h, ?_⟩
    intro j
    by_cases hij : i = j
    · subst hij
      simp only [left, hi, Nat.zero_sub]
    · rw [if_neg hij, Nat.sub_zero]
  | some w =>
    have hmem : w ∈ shop.workers := List.mem_of_getElem? hi
    obtain ⟨hlt, -⟩ := List.getElem?_eq_some_iff.mp hi
    obtain ⟨next, written, hturn, hnext, hleft, hsize, hplaces⟩ :=
      Worker.turn_sound hb (h.workers w hmem) pad h.size
    refine ⟨⟨shop.workers.set i next, written⟩, by simp only [turn, hi, hturn], ⟨?_, hsize, ?_⟩, ?_⟩
    · intro v hv
      rcases List.mem_or_eq_of_mem_set hv with hold | rfl
      · exact h.workers v hold
      · exact hnext
    · intro k hk
      rcases hplaces k with hdone | ⟨hsame, hkeeps⟩
      · exact hdone
      · have hnextk : ¬ next.Pends k := hk next (List.mem_set hlt next)
        refine hsame.trans (h.settled k ?_)
        intro v hv
        obtain ⟨j, hj⟩ := List.mem_iff_getElem?.mp hv
        by_cases hij : i = j
        · subst hij
          obtain rfl : w = v := Option.some.inj (hi.symm.trans hj)
          exact fun hp => hnextk (hkeeps hp)
        · exact hk v (List.mem_iff_getElem?.mpr ⟨j, by rw [List.getElem?_set_ne hij, hj]⟩)
    · intro j
      by_cases hij : i = j
      · subst hij
        simp only [left, List.getElem?_set_self hlt, hi, hleft, if_pos]
      · simp only [left, List.getElem?_set_ne hij, if_neg hij, Nat.sub_zero]

/-- A whole schedule, turn by turn. -/
theorem run_sound {S : Type u} [Add S] [Sub S] [Mul S] [Div S] [Zero S] [One S] {W : Nat}
    {batch : Batch S} (hb : batch.Fits batch.size) {shop : Workshop S}
    (h : shop.Sound W batch) (pad : Mat4 S) (schedule : List Nat) :
    ∃ final, shop.run W pad schedule = .ok final ∧ final.Sound W batch ∧
      ∀ j, final.left j = shop.left j - schedule.count j := by
  induction schedule generalizing shop with
  | nil => exact ⟨shop, rfl, h, fun j => rfl⟩
  | cons i schedule ih =>
    obtain ⟨next, hturn, hnext, hleft⟩ := turn_sound hb h pad i
    obtain ⟨final, hrun, hfinal, hcount⟩ := ih hnext
    refine ⟨final, ?_, hfinal, ?_⟩
    · rw [run, List.foldlM_cons, hturn]
      exact hrun
    · intro j
      rw [hcount j, hleft j, sub_count_cons]

theorem done_iff_left {S : Type u} {shop : Workshop S} : shop.Done ↔ ∀ j, shop.left j = 0 := by
  constructor
  · intro h j
    rw [left]
    cases hj : shop.workers[j]? with
    | none => rfl
    | some w =>
      have hnil := h w (List.mem_of_getElem? hj)
      simp only [hnil, List.length_nil]
  · intro h w hw
    obtain ⟨j, hj⟩ := List.mem_iff_getElem?.mp hw
    have hlen := h j
    simp only [left, hj] at hlen
    exact List.eq_nil_of_length_eq_zero hlen

theorem out_of_done {S : Type u} [Add S] [Sub S] [Mul S] [Div S] [One S] {W : Nat}
    {batch : Batch S} {shop : Workshop S} (h : shop.Sound W batch) (hdone : shop.Done) :
    shop.out = batch.results := by
  apply Array.ext_getElem?
  intro k
  apply h.settled k
  rintro w hw ⟨c, hc, -⟩
  rw [hdone w hw] at hc
  cases hc

/-- All workers can be set up: every run lies within the batch. -/
theorem ofBatch_eq {S : Type u} [Zero S] (W : Nat) {batch : Batch S}
    (hb : batch.Fits batch.size) {length : Nat} (hl : 0 < length) (out : Array (Mat4 S)) :
    ofBatch W batch length out = .ok
      ⟨(List.range (pieceCount batch.size length)).map (Worker.starting W batch length), out⟩ := by
  have hworkers : (List.range (pieceCount batch.size length)).mapM (Worker.ofRun W batch length) =
      .ok ((List.range (pieceCount batch.size length)).map (Worker.starting W batch length)) := by
    apply mapM_ok
    intro i hi
    have hstart := (lt_pieceCount_iff hl).mp (List.mem_range.mp hi)
    exact Worker.ofRun_eq W hb (Nat.le_of_lt hstart)
  rw [ofBatch, hworkers]
  rfl

theorem sound_starting {S : Type u} [Add S] [Sub S] [Mul S] [Div S] [Zero S] [One S] {W : Nat}
    (hW : 0 < W) {batch : Batch S} (hb : batch.Fits batch.size) {length : Nat} (hl : 0 < length)
    {out : Array (Mat4 S)} (hout : out.size = batch.size) :
    Sound W batch
      ⟨(List.range (pieceCount batch.size length)).map (Worker.starting W batch length), out⟩ := by
  refine ⟨?_, hout, ?_⟩
  · intro w hw
    obtain ⟨i, hi, rfl⟩ := List.mem_map.mp hw
    have hstart := (lt_pieceCount_iff hl).mp (List.mem_range.mp hi)
    exact Worker.sound_starting hW hb (Nat.le_of_lt hstart)
  · intro k hk
    by_cases hlt : k < batch.size
    · have hpiece := div_lt_pieceCount hl hlt
      refine absurd (Worker.pends_starting hW ((holds_chunk_iff hl).mpr ⟨rfl, hlt⟩)) (hk _ ?_)
      exact List.mem_map.mpr ⟨k / length, List.mem_range.mpr hpiece, rfl⟩
    · have hres := Batch.size_results hb
      have hold : out[k]? = none := Array.getElem?_eq_none (by omega)
      have hnew : batch.results[k]? = none := Array.getElem?_eq_none (by omega)
      exact hold.trans hnew.symm

theorem left_starting {S : Type u} [Zero S] (W : Nat) (batch : Batch S) (length : Nat)
    (out : Array (Mat4 S)) (i : Nat) :
    left ⟨(List.range (pieceCount batch.size length)).map (Worker.starting W batch length), out⟩ i =
      if i < pieceCount batch.size length then
        pieceCount (chunk length batch.size i).live W
      else 0 := by
  by_cases hi : i < pieceCount batch.size length
  · have hworker : ((List.range (pieceCount batch.size length)).map
        (Worker.starting W batch length))[i]? = some (Worker.starting W batch length i) := by
      rw [List.getElem?_map, List.getElem?_range hi]
      rfl
    rw [if_pos hi, left, hworker]
    simp only [Worker.starting, chunks, List.length_map, List.length_range]
  · have hworker : ((List.range (pieceCount batch.size length)).map
        (Worker.starting W batch length))[i]? = none := by
      apply List.getElem?_eq_none
      rw [List.length_map, List.length_range]
      omega
    rw [if_neg hi, left, hworker]

/-- Any schedule on runs of any length: no turn fails, the schedule ends the work exactly when
each worker has had a turn for each of its chunks, and then the results are there. -/
theorem run_starting {S : Type u} [Add S] [Sub S] [Mul S] [Div S] [Zero S] [One S] {W : Nat}
    (hW : 0 < W) {batch : Batch S} {out : Array (Mat4 S)} (hb : batch.Fits out.size)
    {length : Nat} (hl : 0 < length) :
    ∃ shop, ofBatch W batch length out = .ok shop ∧
      ∀ (pad : Mat4 S) (schedule : List Nat), ∃ final, shop.run W pad schedule = .ok final ∧
        (final.Done ↔ ∀ i < pieceCount batch.size length,
          pieceCount (chunk length batch.size i).live W ≤ schedule.count i) ∧
        (final.Done → final.out = batch.results) := by
  have hn := Batch.size_eq_of_fits hb
  have hfits : batch.Fits batch.size := by
    rw [hn]
    exact hb
  refine ⟨_, ofBatch_eq W hfits hl out, ?_⟩
  intro pad schedule
  obtain ⟨final, hrun, hfinal, hleft⟩ :=
    run_sound hfits (sound_starting hW hfits hl hn.symm) pad schedule
  refine ⟨final, hrun, ?_, out_of_done hfinal⟩
  rw [done_iff_left, ← sub_count_eq_zero_iff]
  simp only [hleft, left_starting]

end Workshop

namespace Batch

/-- A parallel call leaves what a plain call leaves, in whatever order its runs finish and
however the chunks of its threads interleave; no thread reads outside the batch and none fails. -/
theorem runParallel_eq_run_of_any_order {S : Type u} [Add S] [Sub S] [Mul S] [Div S] [Zero S]
    [One S] {W limit : Nat} (hW : 0 < W) (hlimit : 0 < limit) {batch : Batch S}
    {out : Array (Mat4 S)} (hb : batch.Fits out.size) :
    (batch.run W out).outcome = .ok () ∧
    (batch.runParallel W out limit).outcome = .ok () ∧
    (batch.runParallel W out limit).out = (batch.run W out).out ∧
    (Fanout.threadCount batch.size W limit ≠ 1 →
      let length := Fanout.runLength batch.size W (Fanout.threadCount batch.size W limit)
      0 < length ∧
      (∀ order : List Nat, order.Perm (List.range (pieceCount batch.size length)) →
        overRuns order length (batch.work W) out = batch.runParallel W out limit) ∧
      ∃ shop, Workshop.ofBatch W batch length out = .ok shop ∧
        ∀ (pad : Mat4 S) (schedule : List Nat), ∃ final,
          shop.run W pad schedule = .ok final ∧
          (final.Done ↔ ∀ i < pieceCount batch.size length,
            pieceCount (chunk length batch.size i).live W ≤ schedule.count i) ∧
          (final.Done → final.out = (batch.run W out).out)) := by
  have hplain := run_eq hW hb
  obtain ⟨hok, hout⟩ := runParallel_results hW hlimit hb
  refine ⟨by rw [hplain], hok, by rw [hout, hplain], ?_⟩
  intro hmany length
  have hl : 0 < length := Fanout.runLength_pos hlimit hmany
  refine ⟨hl, ?_, ?_⟩
  · intro order horder
    rw [size_eq_of_fits hb] at horder
    rw [runParallel_of_ne_one hW hlimit hb hmany]
    exact overRuns_perm hl (keepsLength_work W batch) horder (List.Perm.refl _)
  · rw [hplain]
    exact Workshop.run_starting hW hb hl

/-- The smallest batch that is shared out at width two, its second run finishing first. -/
theorem runParallel_second_run_first :
    0 < 2 ∧ 0 < 3 ∧
    (invert (Array.replicate 4096 (Mat4.identity : Mat4 Float32))).Fits
      (Array.replicate 4096 (0 : Mat4 Float32)).size ∧
    Fanout.threadCount 4096 2 3 ≠ 1 ∧
    overRuns [1, 0] 2048 ((invert (Array.replicate 4096 (Mat4.identity : Mat4 Float32))).work 2)
        (Array.replicate 4096 0) =
      (invert (Array.replicate 4096 Mat4.identity)).runParallel 2 (Array.replicate 4096 0) 3 := by
  have hb : (invert (Array.replicate 4096 (Mat4.identity : Mat4 Float32))).Fits
      (Array.replicate 4096 (0 : Mat4 Float32)).size := by
    rw [Fits, Array.size_replicate, Array.size_replicate]
  have hn := (size_eq_of_fits hb).trans Array.size_replicate
  have hmany : Fanout.threadCount 4096 2 3 ≠ 1 := by decide
  have hlength : Fanout.runLength 4096 2 (Fanout.threadCount 4096 2 3) = 2048 := by decide
  have hshared :=
    (runParallel_eq_run_of_any_order (by decide : 0 < 2) (by decide : 0 < 3) hb).2.2.2
  simp only [hn, hlength] at hshared
  exact ⟨by decide, by decide, hb, hmany, (hshared hmany).2.1 [1, 0] (List.Perm.swap 0 1 [])⟩

end Batch

end LaneMatrix
