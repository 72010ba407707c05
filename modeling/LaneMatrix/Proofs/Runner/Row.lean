import Mathlib.Data.List.Basic
import Mathlib.Tactic.Ring
import LaneMatrix.Proofs.Batch.Records
import LaneMatrix.Runner.Row

/-!
# The calls of a row

The calls of a row hand their output on from one to the next and end with the first one that fails.
What a call reports depends on lengths alone, and every call keeps the length of the output. So
either the first call fails and is the only one, or all calls report the same; both are what was
forecast for the row. For as many lanes and threads as a row can have it is never a failure.
-/

namespace LaneMatrix

namespace BatchRecord

def isPadding : BatchRecord → Bool
  | padding _ _ => true
  | splitting _ _ _ => false

def isSplitting : BatchRecord → Bool
  | padding _ _ => false
  | splitting _ _ _ => true

end BatchRecord

/-- A record of a batch call that has the property `p`. -/
def RunnerRecord.isBatch (p : BatchRecord → Bool) : RunnerRecord → Bool
  | batch r => p r
  | _ => false

namespace Row

theorem width_pos_of_mem_all : ∀ row ∈ all, 0 < row.width := by decide

theorem shape_batch {S : Type} (row : Row) {n : Nat} {a b : Array (Mat4 S)} (ha : a.size = n)
    (hb : b.size = n) : (row.batch a b).shape = row.shape n := by
  rw [batch, shape]
  cases row.kernel with
  | multiply => rw [Batch.shape, ha, hb]
  | invert => rw [Batch.shape, ha]

theorem check_shape (row : Row) (count : Nat) : (row.shape count).check count = .ok () := by
  have hlength (name : String) : Batch.checkLength name count count = .ok () :=
    Batch.checkLength_eq_ok_iff.mpr rfl
  rw [shape]
  cases row.kernel with
  | multiply =>
    simp only [Batch.Shape.check, hlength]
    rfl
  | invert => exact hlength "out"

section Calls

variable {S : Type} [Add S] [Sub S] [Mul S] [Div S] [Zero S] [One S] {row : Row} {s : Settings}
  {a b out : Array (Mat4 S)}

theorem report_call (row : Row) (ha : a.size = s.batch) (hb : b.size = s.batch)
    (hout : out.size = s.batch) :
    (row.call s.threads a b out).toReport = row.forecast s := by
  rw [call, forecast]
  cases row.parallel with
  | true =>
    rw [if_pos rfl, if_pos rfl, Batch.report_runParallel, shape_batch row ha hb, hout]
  | false =>
    rw [if_neg Bool.false_ne_true, if_neg Bool.false_ne_true, Batch.report_run,
      shape_batch row ha hb, hout]

theorem size_call (row : Row) (threads : Nat) (a b out : Array (Mat4 S)) :
    (row.call threads a b out).out.size = out.size := by
  rw [call]
  split
  · exact Batch.size_runParallel ..
  · exact Batch.size_run ..

theorem next?_of_ok {last : Call (Mat4 S)} (h : last.outcome = .ok ()) :
    row.next? s.threads a b last = some (row.call s.threads a b last.out) := by
  rw [next?, h]

theorem timed_of_error {last : Call (Mat4 S)} {f : Failure} (h : last.outcome = .error f)
    (n : Nat) : row.timed s.threads a b n last = [] := by
  cases n with
  | zero => rfl
  | succ n => rw [timed, next?, h]

/-- Where no failure was forecast, every timed call reports what was forecast. -/
theorem map_report_timed (ha : a.size = s.batch) (hb : b.size = s.batch)
    (hok : (row.forecast s).outcome = .ok ()) {last : Call (Mat4 S)} (hlast : last.outcome = .ok ())
    (hout : last.out.size = s.batch) (n : Nat) :
    (row.timed s.threads a b n last).map (fun c => c.toReport) =
      List.replicate n (row.forecast s) := by
  induction n generalizing last with
  | zero => rfl
  | succ n ih =>
    have hreport := report_call row ha hb hout
    have hnext : (row.call s.threads a b last.out).outcome = .ok () :=
      (congrArg Report.outcome hreport).trans hok
    have hsize := (size_call row s.threads a b last.out).trans hout
    simp only [timed, next?_of_ok hlast, List.map_cons, hreport, ih hnext hsize]
    rfl

/-- The calls of a row report what was forecast for the row, whether they go well or not. -/
theorem map_report_calls (row : Row) (ha : a.size = s.batch) (hb : b.size = s.batch) :
    (row.calls s a b).map (fun c => c.toReport) = row.reports s := by
  have hzeros : (Array.replicate a.size (0 : Mat4 S)).size = s.batch := by
    rw [Array.size_replicate, ha]
  have hreport := report_call row ha hb hzeros
  have houtcome := congrArg Report.outcome hreport
  rw [calls, List.map_cons, hreport, reports]
  cases hforecast : (row.forecast s).outcome with
  | ok =>
    have hsize := (size_call row s.threads a b (Array.replicate a.size 0)).trans hzeros
    rw [map_report_timed ha hb hforecast (houtcome.trans hforecast) hsize, Nat.add_comm]
    rfl
  | error f =>
    rw [timed_of_error (houtcome.trans hforecast)]
    rfl

/-- The records of the calls that are really made. -/
theorem flatMap_calls (row : Row) (ha : a.size = s.batch) (hb : b.size = s.batch) :
    ((row.calls s a b).flatMap fun c => c.log.map RunnerRecord.batch) = row.records s := by
  rw [records, ← map_report_calls row ha hb, List.flatMap_map]

end Calls

theorem count_shape (row : Row) (n : Nat) : (row.shape n).count = n := by
  rw [shape]
  cases row.kernel <;> rfl

/-- No call of a row fails, and only a parallel row can write a record of its own. -/
theorem forecast_eq {row : Row} {s : Settings} (hw : 0 < row.width) (ht : 0 < s.threads) :
    row.forecast s =
      let threads := Fanout.threadCount s.batch row.width s.threads
      let run := Fanout.runLength s.batch row.width threads
      ⟨.ok (), (if row.parallel ∧ 2 ≤ threads then
          [.splitting s.batch run (pieceCount s.batch run)] else []) ++
        Batch.Shape.tail s.batch row.width⟩ := by
  have hpos := Fanout.threadCount_pos s.batch row.width ht
  rw [forecast, Batch.Shape.forecast, Batch.Shape.forecastParallel, check_shape, count_shape]
  simp only [if_neg (Nat.pos_iff_ne_zero.mp hw), if_neg (Nat.pos_iff_ne_zero.mp ht)]
  cases row.parallel with
  | false => simp
  | true =>
    by_cases hone : Fanout.threadCount s.batch row.width s.threads = 1
    · simp [hone]
    · have htwo : 2 ≤ Fanout.threadCount s.batch row.width s.threads := by omega
      simp [hone, htwo]

theorem countP_isPadding_forecast {row : Row} {s : Settings} (hw : 0 < row.width)
    (ht : 0 < s.threads) :
    (row.forecast s).log.countP BatchRecord.isPadding = if row.width ∣ s.batch then 0 else 1 := by
  rw [forecast_eq hw ht]
  simp only [List.countP_append, Batch.Shape.tail, Nat.dvd_iff_mod_eq_zero]
  split <;> split <;> rfl

theorem countP_isSplitting_forecast {row : Row} {s : Settings} (hw : 0 < row.width)
    (ht : 0 < s.threads) :
    (row.forecast s).log.countP BatchRecord.isSplitting =
      if row.parallel ∧ 2 ≤ Fanout.threadCount s.batch row.width s.threads then 1 else 0 := by
  rw [forecast_eq hw ht]
  simp only [List.countP_append, Batch.Shape.tail]
  split <;> split <;> rfl

theorem reports_eq {row : Row} {s : Settings} (hw : 0 < row.width) (ht : 0 < s.threads) :
    row.reports s = List.replicate (1 + s.iterations) (row.forecast s) := by
  have hok : (row.forecast s).outcome = .ok () := by rw [forecast_eq hw ht]
  simp only [reports, hok]

theorem countP_records {row : Row} {s : Settings} (hw : 0 < row.width) (ht : 0 < s.threads)
    (p : BatchRecord → Bool) :
    (row.records s).countP (RunnerRecord.isBatch p) =
      (1 + s.iterations) * (row.forecast s).log.countP p := by
  have hbatch : RunnerRecord.isBatch p ∘ RunnerRecord.batch = p := rfl
  rw [records, reports_eq hw ht, List.countP_flatMap, List.map_replicate, List.sum_replicate_nat,
    Function.comp, List.countP_map, hbatch]

/-- Four rows are four lanes wide and six are eight lanes wide. -/
theorem sum_isPadding_forecast {s : Settings} (ht : 0 < s.threads) :
    (all.map fun row => (row.forecast s).log.countP BatchRecord.isPadding).sum =
      4 * (if 4 ∣ s.batch then 0 else 1) + 6 * (if 8 ∣ s.batch then 0 else 1) := by
  have hrows : (all.map fun row => (row.forecast s).log.countP BatchRecord.isPadding) =
      all.map fun row => if row.width ∣ s.batch then 0 else 1 := by
    apply List.map_congr_left
    intro row hrow
    exact countP_isPadding_forecast (width_pos_of_mem_all row hrow) ht
  rw [hrows]
  simp only [all, single, threaded, List.cons_append, List.nil_append, List.map_cons,
    List.map_nil, List.sum_cons, List.sum_nil]
  ring

/-- Both parallel rows are eight lanes wide. -/
theorem sum_isSplitting_forecast {s : Settings} (ht : 0 < s.threads) :
    (all.map fun row => (row.forecast s).log.countP BatchRecord.isSplitting).sum =
      if 2 ≤ Fanout.threadCount s.batch 8 s.threads then 2 else 0 := by
  have hrows : (all.map fun row => (row.forecast s).log.countP BatchRecord.isSplitting) =
      all.map fun row =>
        if row.parallel ∧ 2 ≤ Fanout.threadCount s.batch row.width s.threads then 1 else 0 := by
    apply List.map_congr_left
    intro row hrow
    exact countP_isSplitting_forecast (width_pos_of_mem_all row hrow) ht
  rw [hrows]
  by_cases hmany : 2 ≤ Fanout.threadCount s.batch 8 s.threads
  · simp [all, single, threaded, hmany]
  · simp [all, single, threaded, hmany]

end Row

end LaneMatrix
