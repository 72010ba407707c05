import LaneMatrix.Runner.Row

/-!
# Transcripts of the runner

A transcript lists all that a run of the runner does, in order: lines it prints, records it logs,
rows it measures and rows it displays. Only the measured numbers themselves are left out.
-/

namespace LaneMatrix

inductive Event where
  | print (line : String)
  | log (r : RunnerRecord)
  | measure (row : Row)
  | display (row : Row)

/-- What stands on the standard output: a line, or a row with its measured numbers. -/
inductive Printed where
  | line (text : String)
  | row (row : Row)

namespace Event

def printed? : Event → Option Printed
  | print text => some (.line text)
  | display row => some (.row row)
  | _ => none

def record? : Event → Option RunnerRecord
  | log r => some r
  | _ => none

/-- A record is carried out where the log shows its level, all other events in any case. -/
def isActed (filter : Log.Filter) : Event → Bool
  | log r => filter.shows r.line.level
  | _ => true

end Event

/-- The events of a part of a run, and the exit code if the run ends there. -/
structure Transcript where
  events : List Event
  exit : Option Nat

namespace Transcript

def chain : List Transcript → Transcript
  | [] => ⟨[], none⟩
  | t :: rest =>
    match t.exit with
    | some code => ⟨t.events, some code⟩
    | none =>
      let more := chain rest
      ⟨t.events ++ more.events, more.exit⟩

end Transcript

/-- A cell whose first lane is known beforehand, and what is logged when it has been looked at. -/
structure Check where
  cell : Lanes Float32 4
  expected : Float32
  passed : RunnerRecord
  wrong : Float32 → RunnerRecord

namespace Check

def holds (c : Check) (got : Float32) : Bool := got == c.expected

def record (c : Check) (got : Float32) : RunnerRecord := if c.holds got then c.passed else c.wrong got

def word (c : Check) (got : Float32) : String := if c.holds got then "ok" else "FAILED"

/-- Stores the cell into a buffer and reads the first place of it. -/
def readBack (c : Check) (buffer : Array Float32) : Except Fault (Float32 × Array Float32) := do
  let buffer ← c.cell.store buffer 0
  match buffer[0]? with
  | some got => return (got, buffer)
  | none => throw .index

end Check

namespace Smoke

/-- The first cell of the identity times itself. -/
def product : Check :=
  let identity : Interleaved Float32 4 := Mat4.identity
  ⟨(identity.multiply identity).named .c0x, 1, .productPassed, .productWrong⟩

/-- The first cell of the inverse of a scaling by two. -/
def inverse : Check :=
  let two : Lanes Float32 4 := Lanes.splat 2
  ⟨(Mat4.diagonal two two two 1).inverse.named .c0x, 0.5, .inversePassed, .inverseWrong⟩

/-- Both checks read their cells back through the same buffer. -/
def transcript : Transcript :=
  match product.readBack (Array.replicate 4 0) with
  | .error _ => ⟨[], some 101⟩
  | .ok (x, buffer) =>
    match inverse.readBack buffer with
    | .error _ => ⟨[.log (product.record x)], some 101⟩
    | .ok (y, _) =>
      { events :=
          [.log (product.record x), .log (inverse.record y),
           .print s!"Smoke: multiply {product.word x}, inverse {inverse.word y}"]
        exit := if product.holds x && inverse.holds y then none else some 1 }

end Smoke

namespace Row

/-- A fault ends the run with a code of its own; an error waits until the row is displayed. -/
def measured (row : Row) (s : Settings) : Transcript where
  events := .measure row :: (row.records s).map .log
  exit :=
    match (row.forecast s).outcome with
    | .error (.fault _) => some 101
    | _ => none

def displayed (row : Row) (s : Settings) : Transcript :=
  match (row.forecast s).outcome with
  | .ok () => ⟨[.display row], none⟩
  | .error (.argument e) => ⟨[.log (.rowFailed row.name e)], some 1⟩
  | .error (.fault _) => ⟨[], none⟩

def table (s : Settings) : List Transcript :=
  single.flatMap (fun row => [row.measured s, row.displayed s]) ++
    threaded.map (fun row => row.measured s) ++ threaded.map fun row => row.displayed s

end Row

namespace Transcript

def heading (s : Settings) : Transcript where
  events :=
    [.print "",
     .print s!"Batch: {s.batch} matrices, {s.iterations} iterations, {s.threads} threads",
     .print (String.ofList (List.replicate 60 '-'))]
  exit := none

def footing : Transcript where
  events :=
    [.print "", .print "M mat/s = million matrices per second. Higher is better.", .print ""]
  exit := some 0

/-- The whole run in the given environment. -/
def ofEnvironment (env : Environment) : Transcript :=
  let settings := Settings.ofEnvironment env
  chain
    ([⟨settings.2.map .log, none⟩,
      ⟨[.print "=== Batched 4x4 Matrix Kernels ===", .print ""], none⟩,
      Smoke.transcript, heading settings.1] ++ Row.table settings.1 ++ [footing])

/-- What is done in a run whose log is set to some level. -/
def acted (filter : Log.Filter) (t : Transcript) : List Event :=
  t.events.filter (Event.isActed filter)

/-- What then stands on the standard output. -/
def printed (filter : Log.Filter) (t : Transcript) : List Printed :=
  (t.acted filter).filterMap Event.printed?

/-- The records that are then in the log. -/
def logged (filter : Log.Filter) (t : Transcript) : List RunnerRecord :=
  (t.acted filter).filterMap Event.record?

end Transcript

end LaneMatrix
