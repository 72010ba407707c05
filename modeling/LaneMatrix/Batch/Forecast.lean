import LaneMatrix.Batch
import LaneMatrix.Batch.Fanout

/-!
# Forecasts

What a call will report depends on lengths alone, not on the matrices. A forecast is read off the
lengths without any arithmetic on matrices, so it costs the same for a batch of any size.
-/

namespace LaneMatrix

namespace Batch.Shape

/-- The one short chunk that a batch of `count` matrices can end in. -/
def tail (count width : Nat) : List BatchRecord :=
  if count % width = 0 then [] else [.padding (count % width) width]

def forecast (W : Nat) (s : Shape) (outLength : Nat) : Report :=
  match s.check outLength with
  | .error e => ⟨.error (.argument e), []⟩
  | .ok () => if W = 0 then ⟨.error (.fault (.lane 0 0)), []⟩ else ⟨.ok (), tail s.count W⟩

def forecastParallel (W : Nat) (s : Shape) (outLength limit : Nat) : Report :=
  if limit = 0 then ⟨.error (.argument .noThreads), []⟩
  else
    match s.check outLength with
    | .error e => ⟨.error (.argument e), []⟩
    | .ok () =>
      if W = 0 then ⟨.error (.fault .divisor), []⟩
      else
        let threads := Fanout.threadCount s.count W limit
        if threads = 1 then ⟨.ok (), tail s.count W⟩
        else
          let run := Fanout.runLength s.count W threads
          ⟨.ok (), .splitting s.count run (pieceCount s.count run) :: tail s.count W⟩

end Batch.Shape

end LaneMatrix
