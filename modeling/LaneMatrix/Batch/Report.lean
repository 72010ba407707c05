import LaneMatrix.Failure
import LaneMatrix.Log

/-!
# What a batch call reports

A call ends well or fails, and writes log records on its way. `Call` adds the matrices that the
call leaves in its output.
-/

universe u

namespace LaneMatrix

inductive BatchRecord where
  | padding (live width : Nat)
  | splitting (count run threads : Nat)
  deriving DecidableEq

def BatchRecord.line : BatchRecord → Log.Line
  | padding live width =>
    ⟨.trace, "matpacket::batch", s!"padding tail chunk: {live} of {width} lanes live"⟩
  | splitting count run threads =>
    ⟨.debug, "matpacket::batch::threaded",
      s!"splitting {count} matrices into runs of {run} across {threads} threads"⟩

structure Report where
  outcome : Except Failure Unit
  log : List BatchRecord

structure Call (α : Type u) extends Report where
  out : Array α

/-- A call that stops before it writes anything. -/
def Call.refused {α : Type u} (e : Failure) (out : Array α) : Call α := ⟨⟨.error e, []⟩, out⟩

end LaneMatrix
