import LaneMatrix.Interleaved.Gather
import LaneMatrix.Program

/-!
# Sessions

A session keeps named lanes, named matrices and named flat buffers, and answers requests one by
one. Besides the commands of a program, a request can look into single lanes and move scalars
between lanes, matrices and buffers. A request that fails leaves the session as it was.
-/

universe u

namespace LaneMatrix

structure Session (S : Type u) (W : Nat) where
  registers : Registers (Lanes S W)
  buffers : Names (Array S)

inductive Request (S : Type u) (W : Nat) where
  | command (c : Command S)
  | width
  | newBuffer (name : String) (content : Array S)
  | showBuffer (name : String)
  | lanes (p : Lanes S W) (into : Option String)
  | load (buffer : String) (start : Nat) (into : Option String)
  | store (a buffer : String) (start : Nat)
  | loadBlock (content : Array S) (into : Option String)
  | storeBlock (a : String) (size : Nat)
  | blankBlock (size : Nat)
  | extract (a : String) (i : Nat)
  | sameLanes (a b : String)
  | ofMatrices (ms : Array (Mat4 S)) (into : Option String)
  | loadStream (buffer : String) (start : Nat) (into : Option String)
  | storeStream (m buffer : String) (start : Nat)
  | laneMatrix (m : String) (i : Nat)
  | toMatrices (m : String)
  | sameMatrix (a b : String)

inductive Answer (S : Type u) (W : Nat) where
  | value (v : Value (Lanes S W))
  | count (n : Nat)
  | scalar (x : S)
  | truth (b : Bool)
  | buffer (content : Array S)
  | blank (content : Array S) (isDefault : Bool)
  | laneMatrix (m : Mat4 S)
  | matrices (ms : Array (Mat4 S))

namespace Session

def empty {S : Type u} {W : Nat} : Session S W :=
  ⟨⟨Names.empty, Names.empty⟩, Names.empty⟩

def keepLanes {S : Type u} {W : Nat} (s : Session S W) (into : Option String) (p : Lanes S W) :
    Answer S W × Session S W :=
  (.value (.lanes p),
    { s with registers := { s.registers with lanes := s.registers.lanes.keep into p } })

def keepMatrix {S : Type u} {W : Nat} (s : Session S W) (into : Option String)
    (m : Interleaved S W) : Answer S W × Session S W :=
  (.value (.matrix m),
    { s with registers := { s.registers with matrices := s.registers.matrices.keep into m } })

def keepBuffer {S : Type u} {W : Nat} (s : Session S W) (name : String) (content : Array S) :
    Answer S W × Session S W :=
  (.buffer content, { s with buffers := s.buffers.put name content })

def answer {S : Type u} {W : Nat} [Add S] [Sub S] [Mul S] [Div S] [Zero S] [One S] [BEq S]
    (s : Session S W) : Request S W → Except CommandError (Answer S W × Session S W)
  | .command c => do
    let (v, registers) ← c.run Lanes.splat s.registers
    return (.value v, { s with registers })
  | .width => .ok (.count W, s)
  | .newBuffer name content => .ok (s.keepBuffer name content)
  | .showBuffer name => do return (.buffer (← s.buffers.find name), s)
  | .lanes p into => .ok (s.keepLanes into p)
  | .load buffer start into => do
    let p ← CommandError.ofFault (Lanes.load (← s.buffers.find buffer) start)
    return s.keepLanes into p
  | .store a buffer start => do
    let p ← s.registers.lanes.find a
    let content ← CommandError.ofFault (p.store (← s.buffers.find buffer) start)
    return s.keepBuffer buffer content
  | .loadBlock content into => do
    let p ← CommandError.ofFault (Lanes.loadBlock content.toVector)
    return s.keepLanes into p
  | .storeBlock a size => do
    let p ← s.registers.lanes.find a
    let block ← CommandError.ofFault (p.storeBlock (Lanes.blankBlock S size))
    return (.buffer block.toArray, s)
  | .blankBlock size =>
    let block := Lanes.blankBlock S size
    .ok (.blank block.toArray (block == Vector.replicate size 0), s)
  | .extract a i => do
    let p ← s.registers.lanes.find a
    return (.scalar (← CommandError.ofFault (p.extract i)), s)
  | .sameLanes a b => do
    let p ← s.registers.lanes.find a
    let q ← s.registers.lanes.find b
    return (.truth (p == q), s)
  | .ofMatrices ms into => do
    let m ← (Interleaved.ofMatrices W ms).mapError .failure
    return s.keepMatrix into m
  | .loadStream buffer start into => do
    let m ← CommandError.ofFault (Interleaved.loadStream (← s.buffers.find buffer) start)
    return s.keepMatrix into m
  | .storeStream name buffer start => do
    let m ← s.registers.matrices.find name
    let content ← CommandError.ofFault
      (Interleaved.storeStream m (← s.buffers.find buffer) start)
    return s.keepBuffer buffer content
  | .laneMatrix name i => do
    let m ← s.registers.matrices.find name
    return (.laneMatrix (← CommandError.ofFault (Interleaved.laneMatrix m i)), s)
  | .toMatrices name => do
    let m ← s.registers.matrices.find name
    return (.matrices (← CommandError.ofFault (Interleaved.toMatrices m)), s)
  | .sameMatrix a b => do
    let m ← s.registers.matrices.find a
    let n ← s.registers.matrices.find b
    return (.truth (m == n), s)

/-- What a request is answered, and the session after it. -/
def step {S : Type u} {W : Nat} [Add S] [Sub S] [Mul S] [Div S] [Zero S] [One S] [BEq S]
    (s : Session S W) (request : Request S W) : Except CommandError (Answer S W) × Session S W :=
  match s.answer request with
  | .error e => (.error e, s)
  | .ok (a, next) => (.ok a, next)

def run {S : Type u} {W : Nat} [Add S] [Sub S] [Mul S] [Div S] [Zero S] [One S] [BEq S]
    (s : Session S W) : List (Request S W) → List (Except CommandError (Answer S W))
  | [] => []
  | request :: rest =>
    let (answer, next) := s.step request
    answer :: next.run rest

/-- The session at the end of a run. -/
def after {S : Type u} {W : Nat} [Add S] [Sub S] [Mul S] [Div S] [Zero S] [One S] [BEq S]
    (s : Session S W) (requests : List (Request S W)) : Session S W :=
  requests.foldl (fun s request => (s.step request).2) s

end Session

end LaneMatrix
