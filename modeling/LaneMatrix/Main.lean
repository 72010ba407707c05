import LaneMatrix.Runner.Display
import LaneMatrix.Runner.Sample
import LaneMatrix.Runner.Transcript

/-!
# The runner

Reads the environment and acts out its transcript: prints, logs, and measures the rows on sample
batches.
-/

namespace LaneMatrix.Runner

/-- Nanoseconds of the timed calls of a row. -/
def measure (row : Row) (s : Settings) (a b : Array (Mat4 Float32)) : IO Nat := do
  let mut last := row.call s.threads a b (Array.replicate a.size 0)
  let mut total := 0
  for _ in [0:s.iterations] do
    let start ← IO.monoNanosNow
    match row.next? s.threads a b last with
    | none => break
    | some call =>
      if call.out.size ≠ a.size then
        throw (IO.userError "a call has changed the number of matrices")
      last := call
      total := total + ((← IO.monoNanosNow) - start)
  return total

def readVariable (name : String) : IO (Option ByteArray) := do
  return (← IO.getEnv name).map String.toUTF8

def environment : IO Environment := do
  return {
    batch := ← readVariable "MATPACKET_BATCH"
    iterations := ← readVariable "MATPACKET_ITERS"
    threads := ← readVariable "MATPACKET_THREADS" }

def main : IO UInt32 := do
  let env ← environment
  let filter := (Log.Filter.ofSetting? (← readVariable "RUST_LOG")).getD (.upTo .error)
  let settings := (Settings.ofEnvironment env).1
  let a := sampleBatch settings.batch 0x5eed
  let b := sampleBatch settings.batch 0xfeed
  let transcript := Transcript.ofEnvironment env
  let mut times : List (String × Nat) := []
  for event in transcript.acted filter do
    match event with
    | .print line => IO.println line
    | .log r => IO.eprintln (logText r.line)
    | .measure row => times := (row.name, ← measure row settings a b) :: times
    | .display row => IO.println (rowText row settings ((times.lookup row.name).getD 0))
  return (transcript.exit.getD 0).toUInt32

end LaneMatrix.Runner

def main : IO UInt32 := LaneMatrix.Runner.main
