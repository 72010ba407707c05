import Mathlib.Algebra.BigOperators.Ring.List
import Mathlib.Tactic.Ring
import LaneMatrix.Proofs.Runner.Table
import LaneMatrix.Runner.Sample

/-!
# Whole runs of the runner

Whatever the environment holds, the runner reaches its end: the settings it reads off allow at
least one iteration and one thread, the smoke check passes, and no call of any row fails. Its log
is made up of the warnings, the two records of the smoke check and the records of all calls, row
by row. The level of the log decides which of these records are shown and nothing else.
-/

namespace LaneMatrix

namespace Log.Filter

theorem shows_trace (level : Level) : (upTo .trace).shows level = true := by
  cases level <;> rfl

end Log.Filter

namespace Settings

/-- The variable that a warning is about. -/
def warned? : RunnerRecord → Option String
  | .notACount key _ _ => some key
  | _ => none

theorem countOr_warned (key : String) (default : Nat) (raw : Option ByteArray) :
    ((countOr key default raw).2.map warned?).Sublist [some key] := by
  rw [countOr]
  cases raw.bind String.fromUTF8? with
  | none => exact List.nil_sublist _
  | some text =>
    simp only
    cases Count.ofText? text.toList with
    | none => exact List.Sublist.refl _
    | some n => exact List.nil_sublist _

theorem ofEnvironment_warned (env : Environment) :
    ((ofEnvironment env).2.map warned?).Sublist
      [some "MATPACKET_BATCH", some "MATPACKET_ITERS", some "MATPACKET_THREADS"] := by
  simp only [ofEnvironment, List.map_append]
  exact ((countOr_warned _ _ _).append (countOr_warned _ _ _)).append (countOr_warned _ _ _)

theorem one_le_iterations (env : Environment) : 1 ≤ (ofEnvironment env).1.iterations :=
  Nat.le_max_right _ _

theorem one_le_threads (env : Environment) : 1 ≤ (ofEnvironment env).1.threads :=
  Nat.le_max_right _ _

end Settings

/-- What is read back is the first lane, whatever the buffer held before. -/
theorem Check.readBack_of_size (c : Check) {buffer : Array Float32} (h : buffer.size = 4) :
    ∃ next, c.readBack buffer = .ok (c.cell.lane 0, next) ∧ next.size = 4 := by
  have hstore := Lanes.store_of_fits c.cell (Nat.le_of_eq h.symm)
  have hfirst : (overwrite buffer 0 c.cell.toList)[0]? = some (c.cell.lane 0) := by
    rw [Lanes.getElem?_of_store hstore, if_pos (by decide)]
    exact Lanes.getElem?_toList c.cell 0
  refine ⟨overwrite buffer 0 c.cell.toList, ?_, (Lanes.size_of_store hstore).trans h⟩
  simp only [readBack, hstore, bind, Except.bind, hfirst]
  rfl

theorem Smoke.transcript_eq :
    transcript = ⟨[.log .productPassed, .log .inversePassed,
      .print "Smoke: multiply ok, inverse ok"], none⟩ := by
  have hproduct : product.holds (product.cell.lane 0) = true := by decide +kernel
  have hinverse : inverse.holds (inverse.cell.lane 0) = true := by decide +kernel
  have hzeros : (Array.replicate 4 (0 : Float32)).size = 4 := Array.size_replicate
  obtain ⟨buffer, hfirst, hsize⟩ := product.readBack_of_size hzeros
  obtain ⟨last, hsecond, -⟩ := inverse.readBack_of_size hsize
  simp only [transcript, hfirst, hsecond, Check.record, Check.word, hproduct, hinverse]
  rfl

namespace Transcript

/-- Parts that do not end the run are simply followed by the rest. -/
theorem chain_append {parts : List Transcript} (h : ∀ t ∈ parts, t.exit = none)
    (rest : List Transcript) :
    chain (parts ++ rest) =
      ⟨parts.flatMap (fun t => t.events) ++ (chain rest).events, (chain rest).exit⟩ := by
  induction parts with
  | nil => rfl
  | cons t parts ih =>
    rw [List.cons_append, chain, h t List.mem_cons_self,
      ih fun u hu => h u (List.mem_cons_of_mem t hu), List.flatMap_cons, List.append_assoc]

/-- The level of the log has no influence on what is printed. -/
theorem printed_eq (filter : Log.Filter) (t : Transcript) :
    t.printed filter = t.events.filterMap Event.printed? := by
  rw [printed, acted, List.filterMap_filter]
  congr 1
  funext e
  cases e with
  | log r => exact ite_self none
  | _ => rfl

/-- At the level of traces nothing is left out. -/
theorem logged_trace (t : Transcript) :
    t.logged (.upTo .trace) = t.events.filterMap Event.record? := by
  rw [logged, acted, List.filter_eq_self.mpr]
  intro e _
  cases e with
  | log r => exact Log.Filter.shows_trace _
  | _ => rfl

end Transcript

namespace Settings

theorem isBatch_of_warned {p : BatchRecord → Bool} {r : RunnerRecord} {key : String}
    (h : warned? r = some key) : RunnerRecord.isBatch p r = false := by
  cases r with
  | notACount _ _ _ => rfl
  | _ => cases h

theorem countP_isBatch_warnings (p : BatchRecord → Bool) (env : Environment) :
    (ofEnvironment env).2.countP (RunnerRecord.isBatch p) = 0 := by
  rw [List.countP_eq_zero]
  intro r hr
  have hkey := (ofEnvironment_warned env).subset (List.mem_map_of_mem hr)
  simp only [List.mem_cons, List.not_mem_nil, or_false] at hkey
  rcases hkey with h | h | h <;> simp [isBatch_of_warned h]

end Settings

namespace Transcript

/-- The standard output from top to bottom: the rows of the table between fixed lines. -/
def page (s : Settings) : List Printed :=
  ["=== Batched 4x4 Matrix Kernels ===", "", "Smoke: multiply ok, inverse ok", "",
    s!"Batch: {s.batch} matrices, {s.iterations} iterations, {s.threads} threads",
    String.ofList (List.replicate 60 '-')].map Printed.line ++
  Row.all.map Printed.row ++
  ["", "M mat/s = million matrices per second. Higher is better.", ""].map Printed.line

/-- The run is never cut short, so all its parts follow each other. -/
theorem ofEnvironment_eq (env : Environment) :
    ofEnvironment env =
      let s := (Settings.ofEnvironment env).1
      ⟨(Settings.ofEnvironment env).2.map .log ++
          ([.print "=== Batched 4x4 Matrix Kernels ===", .print ""] : List Event) ++
          ([.log .productPassed, .log .inversePassed,
            .print "Smoke: multiply ok, inverse ok"] : List Event) ++
          (heading s).events ++ (Row.table s).flatMap (fun t => t.events) ++ footing.events,
        some 0⟩ := by
  have ht := Settings.one_le_threads env
  rw [ofEnvironment, chain_append]
  · simp [Smoke.transcript_eq, chain, footing]
  · intro t h
    rcases List.mem_append.mp h with h | h
    · simp only [List.mem_cons, List.not_mem_nil, or_false, Smoke.transcript_eq] at h
      rcases h with rfl | rfl | rfl | rfl <;> rfl
    · exact Row.exit_of_mem_table ht t h

/-- What is printed, at any level of the log. -/
theorem printed_ofEnvironment (env : Environment) (filter : Log.Filter) :
    (ofEnvironment env).printed filter = page (Settings.ofEnvironment env).1 := by
  have hwarnings :
      (((Settings.ofEnvironment env).2.map Event.log).filterMap Event.printed?) = [] := by
    rw [List.filterMap_map]
    exact List.filterMap_eq_nil_iff.mpr fun _ _ => rfl
  rw [printed_eq, ofEnvironment_eq]
  simp only [List.filterMap_append, hwarnings, Row.printed_table (Settings.one_le_threads env)]
  rfl

/-- What is logged at the level of traces. -/
theorem logged_ofEnvironment (env : Environment) :
    (ofEnvironment env).logged (.upTo .trace) =
      (Settings.ofEnvironment env).2 ++ [.productPassed, .inversePassed] ++
        Row.all.flatMap fun row => row.records (Settings.ofEnvironment env).1 := by
  have hwarnings : (((Settings.ofEnvironment env).2.map Event.log).filterMap Event.record?) =
      (Settings.ofEnvironment env).2 := by
    rw [List.filterMap_map]
    exact List.filterMap_some
  rw [logged_trace, ofEnvironment_eq]
  have htitle (first second : String) :
      [Event.print first, .print second].filterMap Event.record? = [] := rfl
  have hsmoke (line : String) :
      [Event.log .productPassed, .log .inversePassed, .print line].filterMap Event.record? =
        [.productPassed, .inversePassed] := rfl
  have hheading (s : Settings) : (heading s).events.filterMap Event.record? = [] := rfl
  have hfooting : footing.events.filterMap Event.record? = [] := rfl
  simp only [List.filterMap_append, hwarnings, htitle, hsmoke, hheading, hfooting,
    Row.recorded_table (Settings.one_le_threads env), List.append_nil]

theorem countP_isBatch_logged (p : BatchRecord → Bool) (env : Environment) :
    let s := (Settings.ofEnvironment env).1
    ((ofEnvironment env).logged (.upTo .trace)).countP (RunnerRecord.isBatch p) =
      (1 + s.iterations) * (Row.all.map fun row => (row.forecast s).log.countP p).sum := by
  intro s
  have hsmoke : [RunnerRecord.productPassed, .inversePassed].countP (RunnerRecord.isBatch p) = 0 :=
    rfl
  rw [logged_ofEnvironment, List.countP_append, List.countP_append,
    Settings.countP_isBatch_warnings, hsmoke, List.countP_flatMap, Nat.zero_add,
    ← List.sum_map_mul_left]
  congr 1
  apply List.map_congr_left
  intro row hrow
  exact Row.countP_records (Row.width_pos_of_mem_all row hrow) (Settings.one_le_threads env) p

/-- A run in any environment. The calls of a row end with the first one that fails, and yet each row
is called once more than there are iterations, on sample batches of the length that has been set
and with a first output of zeros; no call fails. The level of the log does not matter to what is
printed. -/
theorem ofEnvironment_complete (env : Environment) :
    let s := (Settings.ofEnvironment env).1
    let warnings := (Settings.ofEnvironment env).2
    let run := ofEnvironment env
    let a := Runner.sampleBatch s.batch 0x5eed
    let b := Runner.sampleBatch s.batch 0xfeed
    let zeros : Array (Mat4 Float32) := Array.replicate s.batch 0
    let calls (row : Row) := row.calls s a b
    1 ≤ s.iterations ∧ 1 ≤ s.threads ∧
    (∀ row ∈ Row.all, (calls row).map (fun c => c.toReport) =
      List.replicate (1 + s.iterations) ⟨.ok (), (row.call s.threads a b zeros).log⟩) ∧
    run.exit = some 0 ∧
    Row.all.map Row.name =
      ["mul portable x4", "mul portable x8", "inv portable x4", "inv portable x8",
        "mul wide f32x4", "mul wide f32x8", "inv wide f32x4", "inv wide f32x8",
        "mul x8 MT", "inv x8 MT"] ∧
    (∀ filter, run.printed filter = page s) ∧
    (warnings.map Settings.warned?).Sublist
      [some "MATPACKET_BATCH", some "MATPACKET_ITERS", some "MATPACKET_THREADS"] ∧
    (run.logged (.upTo .trace)).map RunnerRecord.line =
      warnings.map RunnerRecord.line ++
      [⟨.info, "matpacket", "Id*Id passed basic check"⟩,
        ⟨.info, "matpacket", "Inv scale passed"⟩] ++
      Row.all.flatMap (fun row => (calls row).flatMap fun c => c.log.map BatchRecord.line) ∧
    (run.logged (.upTo .trace)).countP (RunnerRecord.isBatch BatchRecord.isPadding) =
      (1 + s.iterations) *
        (4 * (if 4 ∣ s.batch then 0 else 1) + 6 * (if 8 ∣ s.batch then 0 else 1)) ∧
    (run.logged (.upTo .trace)).countP (RunnerRecord.isBatch BatchRecord.isSplitting) =
      if 2 ≤ Fanout.threadCount s.batch 8 s.threads then 2 * (1 + s.iterations) else 0 := by
  intro s warnings run a b zeros calls
  have ht : 0 < s.threads := Settings.one_le_threads env
  have ha : a.size = s.batch := Runner.size_sampleBatch _ _
  have hb : b.size = s.batch := Runner.size_sampleBatch _ _
  have hzeros : zeros.size = s.batch := Array.size_replicate
  refine ⟨Settings.one_le_iterations env, ht, ?_, ?_, rfl, printed_ofEnvironment env,
    Settings.ofEnvironment_warned env, ?_, ?_, ?_⟩
  · intro row hrow
    have hw := Row.width_pos_of_mem_all row hrow
    have hcall := Row.report_call row ha hb hzeros
    have hok : (row.forecast s).outcome = .ok () := by rw [Row.forecast_eq hw ht]
    rw [Row.map_report_calls row ha hb, Row.reports_eq hw ht, ← hok, hcall]
  · exact congrArg (fun t => t.exit) (ofEnvironment_eq env)
  · have hcalls : ∀ row ∈ Row.all,
        ((calls row).flatMap fun c => c.log.map RunnerRecord.batch) = row.records s :=
      fun row _ => Row.flatMap_calls row ha hb
    rw [logged_ofEnvironment, ← List.flatMap_congr hcalls]
    simp only [List.map_append, List.map_flatMap, List.map_map]
    rfl
  · rw [countP_isBatch_logged, Row.sum_isPadding_forecast ht]
  · rw [countP_isBatch_logged, Row.sum_isSplitting_forecast ht]
    split <;> ring

end Transcript

end LaneMatrix
