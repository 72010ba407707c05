import LaneMatrix.Batch
import LaneMatrix.Batch.Fanout

/-!
# Batches on several threads

The output is cut into runs, and each run is a call of its own on its part of the batch. The runs
are joined in their order: the first fault among them is the fault of the whole call, also when
an earlier run only returned an error; without a fault the first error counts.
-/

universe u

namespace LaneMatrix

/-- Joins the outcomes of the runs; `held` is what the runs before have come to. -/
def joinOutcomes (held : Except Failure Unit) : List (Except Failure Unit) → Except Failure Unit
  | [] => held
  | .error (.fault f) :: _ => .error (.fault f)
  | .error (.argument e) :: rest =>
    joinOutcomes (match held with | .ok () => .error (.argument e) | .error _ => held) rest
  | .ok () :: rest => joinOutcomes held rest

/-- The runs that have finished, each with its report, and the output that all runs share. -/
structure Finished (α : Type u) where
  reports : List (Nat × Report)
  out : Array α

/-- Run `i` works on its own part of the output and finishes. -/
def Finished.add {α : Type u} (length count : Nat) (work : Nat → Array α → Call α)
    (s : Finished α) (i : Nat) : Finished α :=
  let run := chunk length count i
  let call := work run.start (run.of s.out)
  ⟨s.reports ++ [(i, call.toReport)], overwrite s.out run.start call.out.toList⟩

/-- Works on the runs, which finish in the given order, and joins them in their own order. Every
run works to its end, whatever becomes of the others, and what it has written is kept. -/
def overRuns {α : Type u} (order : List Nat) (length : Nat) (work : Nat → Array α → Call α)
    (out : Array α) : Call α :=
  if length = 0 then .refused (.fault .divisor) out
  else
    let runs := pieceCount out.size length
    let finished := order.foldl (Finished.add length out.size work) ⟨[], out⟩
    let reports := (List.range runs).filterMap fun i => finished.reports.lookup i
    { outcome := joinOutcomes (.ok ()) (reports.map fun r => r.outcome)
      log := .splitting out.size length runs :: reports.flatMap fun r => r.log
      out := finished.out }

namespace Batch

def slice {S : Type u} (batch : Batch S) (start stop : Nat) : Except Fault (Batch S) :=
  match batch with
  | multiply a b =>
    if start ≤ stop ∧ stop ≤ a.size ∧ stop ≤ b.size then
      .ok (multiply (a.extract start stop) (b.extract start stop))
    else .error .shortSlice
  | invert m =>
    if start ≤ stop ∧ stop ≤ m.size then .ok (invert (m.extract start stop))
    else .error .shortSlice

/-- One thread's share: the run that starts at `start`. -/
def work {S : Type u} [Add S] [Sub S] [Mul S] [Div S] [Zero S] [One S] (W : Nat)
    (batch : Batch S) (start : Nat) (run : Array (Mat4 S)) : Call (Mat4 S) :=
  match batch.slice start (start + run.size) with
  | .error f => .refused (.fault f) run
  | .ok share => share.run W run

/-- A width of zero makes the thread choice divide by zero. The runs finish in their own order. -/
def runParallel {S : Type u} [Add S] [Sub S] [Mul S] [Div S] [Zero S] [One S] (W : Nat)
    (batch : Batch S) (out : Array (Mat4 S)) (limit : Nat) : Call (Mat4 S) :=
  if limit = 0 then .refused (.argument .noThreads) out
  else
    match batch.shape.check out.size with
    | .error e => .refused (.argument e) out
    | .ok () =>
      if W = 0 then .refused (.fault .divisor) out
      else
        let threads := Fanout.threadCount batch.size W limit
        if threads = 1 then batch.run W out
        else
          let length := Fanout.runLength batch.size W threads
          overRuns (List.range (pieceCount out.size length)) length (batch.work W) out

end Batch

end LaneMatrix
