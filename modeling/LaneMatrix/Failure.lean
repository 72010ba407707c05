import LaneMatrix.Text.Quoted

/-!
# Why a call does not finish

An argument error is an answer to the caller: the lists handed over do not fit together. A fault
is a broken precondition of a single operation, and ends the call that meets it. A fault about
lanes, cells or streams carries a message; one about a plain index, a divisor or a number that
does not fit into a word of 64 bits has none.
-/

namespace LaneMatrix

/-- The first number that does not fit into a word, 2 to the power of 64. -/
def wordBound : Nat := 18446744073709551616

inductive ArgumentError where
  | laneCount (expected actual : Nat)
  | length (name : String) (expected actual : Nat)
  | noThreads
  deriving DecidableEq

namespace ArgumentError

def label : ArgumentError → String
  | laneCount _ _ => "LaneCountMismatch"
  | length _ _ _ => "LengthMismatch"
  | noThreads => "ZeroThreads"

def message : ArgumentError → String
  | laneCount expected actual => s!"expected {expected} matrices (one per lane), got {actual}"
  | length name expected actual => s!"{name}: expected {expected} matrices, got {actual}"
  | noThreads => "thread count must be at least 1"

/-- The label followed by the named parts of the error; a name stands in quotes. -/
def details (e : ArgumentError) : String :=
  match e with
  | laneCount expected actual =>
    s!"{e.label} \x7b expected: {expected}, actual: {actual} \x7d"
  | length name expected actual =>
    e.label ++ " \x7b name: " ++ Quoted.quote name ++
      s!", expected: {expected}, actual: {actual} \x7d"
  | noThreads => e.label

end ArgumentError

inductive Fault where
  | lane (i width : Nat)
  | cell (col row : Nat)
  | stream (needed available : Nat)
  | shortSlice
  | index
  | divisor
  | overflow
  deriving DecidableEq

def Fault.message? : Fault → Option String
  | lane i width => some s!"lane {i} out of range for width {width}"
  | cell col row => some s!"cell ({col}, {row}) out of range"
  | stream needed available =>
    some s!"SoA buffer: expected at least {needed} scalars, got {available}"
  | shortSlice => none
  | index => none
  | divisor => none
  | overflow => none

inductive Failure where
  | argument (e : ArgumentError)
  | fault (f : Fault)
  deriving DecidableEq

end LaneMatrix
