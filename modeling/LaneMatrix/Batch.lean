import LaneMatrix.Batch.Report
import LaneMatrix.Batch.Pieces
import LaneMatrix.Interleaved.Gather

/-!
# Batches

A batch is a list of matrices to invert or two lists to multiply pairwise. It is worked on in
chunks of `W` matrices, one chunk for each kernel call. A last chunk with fewer than `W` matrices
is padded with identity matrices, whose results are dropped. The lengths are checked before
anything is written.
-/

universe u

namespace LaneMatrix

inductive Batch (S : Type u) where
  | multiply (a b : Array (Mat4 S))
  | invert (m : Array (Mat4 S))

namespace Batch

def checkLength (name : String) (expected actual : Nat) : Except ArgumentError Unit :=
  if expected = actual then .ok () else .error (.length name expected actual)

/-- The lengths of a batch; an inversion has no second list. -/
structure Shape where
  count : Nat
  second : Option Nat
  deriving DecidableEq

def Shape.check (s : Shape) (outLength : Nat) : Except ArgumentError Unit := do
  match s.second with
  | some length => checkLength "b" s.count length
  | none => pure ()
  checkLength "out" s.count outLength

def shape {S : Type u} : Batch S → Shape
  | multiply a b => ⟨a.size, some b.size⟩
  | invert m => ⟨m.size, none⟩

def size {S : Type u} (batch : Batch S) : Nat := batch.shape.count

/-- The kernel result for one chunk. -/
def compute {S : Type u} [Add S] [Sub S] [Mul S] [Div S] [Zero S] [One S] (W : Nat)
    (batch : Batch S) (pad : Mat4 S) (c : Chunk) : WithScratch S (Interleaved S W) := do
  match batch with
  | multiply a b =>
    let p ← Interleaved.gather (c.of a) pad
    let q ← Interleaved.gather (c.of b) pad
    return p.multiply q
  | invert m =>
    let p ← Interleaved.gather (c.of m) pad
    return p.inverse

/-- The new contents of the chunk `old` of the output. -/
def solve {S : Type u} [Add S] [Sub S] [Mul S] [Div S] [Zero S] [One S] (W : Nat)
    (batch : Batch S) (pad : Mat4 S) (c : Chunk) (old : Array (Mat4 S)) :
    WithScratch S (Array (Mat4 S)) := do
  Interleaved.scatter (← batch.compute W pad c) old

/-- A chunk that does not fill its lanes is worth a record. -/
def records (W : Nat) (c : Chunk) : List BatchRecord :=
  if c.live < W then [.padding c.live W] else []

def runChunks {S : Type u} [Add S] [Sub S] [Mul S] [Div S] [Zero S] [One S] (W : Nat)
    (batch : Batch S) (pad : Mat4 S) :
    List Chunk → Array (Mat4 S) → Array S → List BatchRecord → Call (Mat4 S)
  | [], out, _, log => ⟨⟨.ok (), log⟩, out⟩
  | c :: cs, out, scratch, log =>
    match (batch.solve W pad c (c.of out)).run scratch with
    | .ok (block, scratch) =>
      runChunks W batch pad cs (overwrite out c.start block.toList) scratch (log ++ records W c)
    | .error f => ⟨⟨.error (.fault f), log ++ records W c⟩, out⟩

/-- The padding matrix is read from lane 0, which a width of zero does not have. -/
def run {S : Type u} [Add S] [Sub S] [Mul S] [Div S] [Zero S] [One S] (W : Nat)
    (batch : Batch S) (out : Array (Mat4 S)) : Call (Mat4 S) :=
  match batch.shape.check out.size with
  | .error e => .refused (.argument e) out
  | .ok () =>
    match Interleaved.laneMatrix (Mat4.identity : Interleaved S W) 0 with
    | .error f => .refused (.fault f) out
    | .ok pad => runChunks W batch pad (chunks W batch.size) out (Array.replicate W 0) []

end Batch

end LaneMatrix
