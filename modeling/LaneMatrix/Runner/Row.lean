import LaneMatrix.Batch.Forecast
import LaneMatrix.Batch.Parallel
import LaneMatrix.Runner.Settings

/-!
# Rows of the runner's table

A row is a kernel at some width, called on the whole batch once to warm up and then once for each
iteration, up to the first call that fails. The parallel rows share the batch out to threads. The
wide rows keep their lanes in registers of a form of their own; only the width and the lengths
reach what a row reports, so here they are rows like the portable ones of the same width.

What a row reports is forecast: it takes no arithmetic on matrices, and it is what the calls of the
row report on any matrices of that number.
-/

namespace LaneMatrix

inductive Kernel where
  | multiply
  | invert
  deriving DecidableEq

structure Row where
  name : String
  kernel : Kernel
  width : Nat
  parallel : Bool
  deriving DecidableEq

namespace Row

/-- The rows on one thread, in the order in which they are measured and displayed. -/
def single : List Row :=
  [⟨"mul portable x4", .multiply, 4, false⟩, ⟨"mul portable x8", .multiply, 8, false⟩,
   ⟨"inv portable x4", .invert, 4, false⟩, ⟨"inv portable x8", .invert, 8, false⟩,
   ⟨"mul wide f32x4", .multiply, 4, false⟩, ⟨"mul wide f32x8", .multiply, 8, false⟩,
   ⟨"inv wide f32x4", .invert, 4, false⟩, ⟨"inv wide f32x8", .invert, 8, false⟩]

/-- The rows on several threads, all measured before one is displayed. -/
def threaded : List Row :=
  [⟨"mul x8 MT", .multiply, 8, true⟩, ⟨"inv x8 MT", .invert, 8, true⟩]

/-- All rows of the table, from top to bottom. -/
def all : List Row := single ++ threaded

def batch {S : Type} (row : Row) (a b : Array (Mat4 S)) : Batch S :=
  match row.kernel with
  | .multiply => .multiply a b
  | .invert => .invert a

/-- One call of the row. -/
def call {S : Type} [Add S] [Sub S] [Mul S] [Div S] [Zero S] [One S] (row : Row) (threads : Nat)
    (a b out : Array (Mat4 S)) : Call (Mat4 S) :=
  if row.parallel then (row.batch a b).runParallel row.width out threads
  else (row.batch a b).run row.width out

/-- The next call after `last`, on the output that it has left. After a call that fails there is
none. -/
def next? {S : Type} [Add S] [Sub S] [Mul S] [Div S] [Zero S] [One S] (row : Row) (threads : Nat)
    (a b : Array (Mat4 S)) (last : Call (Mat4 S)) : Option (Call (Mat4 S)) :=
  match last.outcome with
  | .ok () => some (row.call threads a b last.out)
  | .error _ => none

/-- So many calls after `last`, or fewer if one of them fails. -/
def timed {S : Type} [Add S] [Sub S] [Mul S] [Div S] [Zero S] [One S] (row : Row) (threads : Nat)
    (a b : Array (Mat4 S)) : Nat → Call (Mat4 S) → List (Call (Mat4 S))
  | 0, _ => []
  | n + 1, last =>
    match row.next? threads a b last with
    | none => []
    | some call => call :: row.timed threads a b n call

/-- All calls of the row: one to warm up, on an output of zeros, and one for each iteration. -/
def calls {S : Type} [Add S] [Sub S] [Mul S] [Div S] [Zero S] [One S] (row : Row) (s : Settings)
    (a b : Array (Mat4 S)) : List (Call (Mat4 S)) :=
  let warmup := row.call s.threads a b (Array.replicate a.size 0)
  warmup :: row.timed s.threads a b s.iterations warmup

def shape (row : Row) (count : Nat) : Batch.Shape :=
  match row.kernel with
  | .multiply => ⟨count, some count⟩
  | .invert => ⟨count, none⟩

/-- What each call of the row will report. -/
def forecast (row : Row) (s : Settings) : Report :=
  if row.parallel then (row.shape s.batch).forecastParallel row.width s.batch s.threads
  else (row.shape s.batch).forecast row.width s.batch

/-- What all calls of the row will report. -/
def reports (row : Row) (s : Settings) : List Report :=
  let report := row.forecast s
  match report.outcome with
  | .ok () => List.replicate (1 + s.iterations) report
  | .error _ => [report]

/-- What will be logged while the row is measured. -/
def records (row : Row) (s : Settings) : List RunnerRecord :=
  (row.reports s).flatMap fun r => r.log.map .batch

end Row

end LaneMatrix
