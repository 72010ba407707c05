import LaneMatrix.Batch.Report

/-!
# Settings of the runner

The environment sets how many matrices, iterations and threads the runner uses. A variable that is
not set, or does not hold text, leaves the default; text that is no count does so with a warning.
A count is written with ASCII digits, at least one, and may have one plus sign in front. Leading
zeros do not matter; the value has to fit into a word.
-/

namespace LaneMatrix.Count

def isDigit (c : Char) : Bool := '0' ≤ c && c ≤ '9'

def value (digits : List Char) : Nat :=
  digits.foldl (fun n c => 10 * n + (c.toNat - '0'.toNat)) 0

def unsigned : List Char → List Char
  | '+' :: rest => rest
  | text => text

def ofText? (text : List Char) : Option Nat :=
  let digits := unsigned text
  if digits ≠ [] ∧ digits.all isDigit ∧ value digits < wordBound then some (value digits) else none

example : ofText? "+007".toList = some 7 ∧ ofText? "+".toList = none ∧ ofText? [] = none := by
  decide +kernel

example : ofText? "18446744073709551615".toList = some 18446744073709551615 ∧
    ofText? "18446744073709551616".toList = none := by
  decide +kernel

end LaneMatrix.Count

namespace LaneMatrix

/-- What the runner logs: its own lines, and the records of the batch calls it makes. -/
inductive RunnerRecord where
  | notACount (key text : String) (default : Nat)
  | productPassed
  | productWrong (got : Float32)
  | inversePassed
  | inverseWrong (got : Float32)
  | rowFailed (name : String) (e : ArgumentError)
  | batch (r : BatchRecord)

def RunnerRecord.line : RunnerRecord → Log.Line
  | notACount key text default =>
    ⟨.warn, "matpacket", s!"{key}={Quoted.quote text} is not a count, using {default}"⟩
  | productPassed => ⟨.info, "matpacket", "Id*Id passed basic check"⟩
  | productWrong got => ⟨.error, "matpacket", s!"Id*Id c0x != 1, got {got}"⟩
  | inversePassed => ⟨.info, "matpacket", "Inv scale passed"⟩
  | inverseWrong got => ⟨.error, "matpacket", s!"Inv scale c0x != 0.5, got {got}"⟩
  | rowFailed name e => ⟨.error, "matpacket", s!"{name} failed: {e.message}"⟩
  | batch r => r.line

/-- The variables that the runner reads, as they are: any bytes, or not set. -/
structure Environment where
  batch : Option ByteArray
  iterations : Option ByteArray
  threads : Option ByteArray

structure Settings where
  batch : Nat
  iterations : Nat
  threads : Nat
  deriving DecidableEq

namespace Settings

/-- The value of one variable, and what is logged about it. -/
def countOr (key : String) (default : Nat) (raw : Option ByteArray) : Nat × List RunnerRecord :=
  match raw.bind String.fromUTF8? with
  | none => (default, [])
  | some text =>
    match Count.ofText? text.toList with
    | some n => (n, [])
    | none => (default, [.notACount key text default])

/-- At least one iteration and one thread are used. -/
def ofEnvironment (env : Environment) : Settings × List RunnerRecord :=
  let batch := countOr "MATPACKET_BATCH" 65536 env.batch
  let iterations := countOr "MATPACKET_ITERS" 5 env.iterations
  let threads := countOr "MATPACKET_THREADS" 4 env.threads
  (⟨batch.1, max iterations.1 1, max threads.1 1⟩, batch.2 ++ iterations.2 ++ threads.2)

end Settings

end LaneMatrix
