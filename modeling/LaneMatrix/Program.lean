import LaneMatrix.Interleaved

/-!
# Programs over registers

A program computes with named registers, which hold units `α` of lanes and matrices of them. Its
commands are those operations that work on every lane by itself; the unit type is left open, with
`splat` for a scalar in every lane, so that one program runs at every width. A command that fails
leaves the registers as they were, and the next command runs.
-/

universe u v

namespace LaneMatrix

/-- Why a command of a program or a session is not carried out. -/
inductive CommandError where
  | unknown (name : String)
  | failure (f : Failure)
  deriving DecidableEq

namespace CommandError

def ofFault {α : Type u} (x : Except Fault α) : Except CommandError α :=
  x.mapError fun f => .failure (.fault f)

end CommandError

/-- Values under names. -/
abbrev Names (α : Type u) := String → Option α

namespace Names

def empty {α : Type u} : Names α := fun _ => none

def put {α : Type u} (r : Names α) (name : String) (value : α) : Names α :=
  fun n => if n = name then some value else r n

def find {α : Type u} (r : Names α) (name : String) : Except CommandError α :=
  match r name with
  | some value => .ok value
  | none => .error (.unknown name)

/-- Keeps a value under a name, if there is one. -/
def keep {α : Type u} (r : Names α) (into : Option String) (value : α) : Names α :=
  match into with
  | some name => r.put name value
  | none => r

/-- Keeps four values one after the other, each under its own name if there is one. -/
def keepQuad {α : Type u} (r : Names α) (into : Quad (Option String)) (values : Quad α) : Names α :=
  (((r.keep into.x values.x).keep into.y values.y).keep into.z values.z).keep into.w values.w

end Names

structure Registers (α : Type u) where
  lanes : Names α
  matrices : Names (Mat4 α)

inductive Arith where
  | add | sub | mul | div
  deriving DecidableEq

def Arith.apply {α : Type u} [Add α] [Sub α] [Mul α] [Div α] : Arith → α → α → α
  | add, x, y => x + y
  | sub, x, y => x - y
  | mul, x, y => x * y
  | div, x, y => x / y

/-- The commands whose result is a unit of lanes. In `mulAdd` the product is rounded before the sum
is taken. -/
inductive LaneTerm (S : Type u) where
  | splat (value : S)
  | zero
  | one
  | arith (op : Arith) (a b : String)
  | mulAdd (a m c : String)
  | named (m : String) (c : CellName)
  | cell (m : String) (col row : Nat)

def LaneTerm.eval {S : Type u} {α : Type v} [Add α] [Sub α] [Mul α] [Div α] [Zero α] [One α]
    (splat : S → α) (r : Registers α) : LaneTerm S → Except CommandError α
  | .splat value => .ok (splat value)
  | .zero => .ok 0
  | .one => .ok 1
  | .arith op a b => do return op.apply (← r.lanes.find a) (← r.lanes.find b)
  | .mulAdd a m c => do
    return (← r.lanes.find a) * (← r.lanes.find m) + (← r.lanes.find c)
  | .named m c => do return (← r.matrices.find m).named c
  | .cell m col row => do CommandError.ofFault ((← r.matrices.find m).cell col row)

/-- The commands whose result is a matrix. -/
inductive MatrixTerm (S : Type u) where
  | identity
  | zero
  | diagonal (names : Quad String)
  | splat (m : Mat4 S)
  | ofCells (names : Vector String 16)
  | ofColumns (names : Quad (Quad String))
  | same (m : String)
  | transpose (m : String)
  | inverse (m : String)
  | multiply (a b : String)

def MatrixTerm.eval {S : Type u} {α : Type v} [Add α] [Sub α] [Mul α] [Div α] [Zero α] [One α]
    (splat : S → α) (r : Registers α) : MatrixTerm S → Except CommandError (Mat4 α)
  | .identity => .ok Mat4.identity
  | .zero => .ok 0
  | .diagonal names => do
    let d ← names.mapM r.lanes.find
    return Mat4.diagonal d.x d.y d.z d.w
  | .splat m => .ok (m.map splat)
  | .ofCells names => do return ⟨← names.mapM r.lanes.find⟩
  | .ofColumns names => do return Mat4.ofColumns (← names.mapM fun col => col.mapM r.lanes.find)
  | .same m => r.matrices.find m
  | .transpose m => do return (← r.matrices.find m).transpose
  | .inverse m => do return (← r.matrices.find m).inverse
  | .multiply a b => do return (← r.matrices.find a).multiply (← r.matrices.find b)

inductive Command (S : Type u) where
  | lanes (term : LaneTerm S) (into : Option String)
  | matrix (term : MatrixTerm S) (into : Option String)
  | setNamed (m : String) (c : CellName) (a : String)
  | setCell (m : String) (col row : Nat) (a : String)
  | column (m : String) (col : Nat) (into : Quad (Option String) := ⟨none, none, none, none⟩)

/-- What a command answers. -/
inductive Value (α : Type u) where
  | lanes (p : α)
  | matrix (m : Mat4 α)
  | column (cells : Quad α)

def Command.run {S : Type u} {α : Type v} [Add α] [Sub α] [Mul α] [Div α] [Zero α] [One α]
    (splat : S → α) (r : Registers α) : Command S → Except CommandError (Value α × Registers α)
  | .lanes term into => do
    let p ← term.eval splat r
    return (.lanes p, { r with lanes := r.lanes.keep into p })
  | .matrix term into => do
    let m ← term.eval splat r
    return (.matrix m, { r with matrices := r.matrices.keep into m })
  | .setNamed name c a => do
    let m := (← r.matrices.find name).setNamed c (← r.lanes.find a)
    return (.matrix m, { r with matrices := r.matrices.put name m })
  | .setCell name col row a => do
    let m ← r.matrices.find name
    let p ← r.lanes.find a
    let m ← CommandError.ofFault (m.setCell col row p)
    return (.matrix m, { r with matrices := r.matrices.put name m })
  | .column name col into => do
    let cells ← CommandError.ofFault ((← r.matrices.find name).column col)
    return (.column cells, { r with lanes := r.lanes.keepQuad into cells })

/-- Runs a program: the answer of each command, and the registers at the end. -/
def Registers.run {S : Type u} {α : Type v} [Add α] [Sub α] [Mul α] [Div α] [Zero α] [One α]
    (splat : S → α) (r : Registers α) : List (Command S) →
      List (Except CommandError (Value α)) × Registers α
  | [] => ([], r)
  | c :: cs =>
    match c.run splat r with
    | .error e =>
      let rest := r.run splat cs
      (.error e :: rest.1, rest.2)
    | .ok (value, next) =>
      let rest := next.run splat cs
      (.ok value :: rest.1, rest.2)

end LaneMatrix
