import LaneMatrix.Batch.Parallel

/-!
# Schedules

Threads that work on one batch at the same time take turns in some order, chunk by chunk. A
schedule names the thread of each turn. All threads write to one output, each to its own run, and
each has its own scratch.
-/

universe u

namespace LaneMatrix

/-- A thread: its share of the batch, where its run starts in the output, the chunks of its run
that are still to be done, and its scratch. -/
structure Worker (S : Type u) where
  share : Batch S
  start : Nat
  pending : List Chunk
  scratch : Array S

namespace Worker

/-- The worker of run `i`, before its first chunk. -/
def ofRun {S : Type u} [Zero S] (W : Nat) (batch : Batch S) (length i : Nat) :
    Except Fault (Worker S) := do
  let run := chunk length batch.size i
  let share ← batch.slice run.start (run.start + run.live)
  return ⟨share, run.start, chunks W share.size, Array.replicate W 0⟩

/-- The next chunk of a worker; a worker that is done lets its turn pass. -/
def turn {S : Type u} [Add S] [Sub S] [Mul S] [Div S] [Zero S] [One S] (W : Nat) (pad : Mat4 S)
    (w : Worker S) (out : Array (Mat4 S)) : Except Fault (Worker S × Array (Mat4 S)) :=
  match w.pending with
  | [] => .ok (w, out)
  | c :: rest =>
    let place : Chunk := ⟨w.start + c.start, c.live⟩
    match (w.share.solve W pad c (place.of out)).run w.scratch with
    | .ok (block, scratch) =>
      .ok ({ w with pending := rest, scratch }, overwrite out place.start block.toList)
    | .error f => .error f

end Worker

/-- The workers of a batch in the order of their runs, and the output they share. -/
structure Workshop (S : Type u) where
  workers : List (Worker S)
  out : Array (Mat4 S)

namespace Workshop

def ofBatch {S : Type u} [Zero S] (W : Nat) (batch : Batch S) (length : Nat)
    (out : Array (Mat4 S)) : Except Fault (Workshop S) := do
  let workers ← (List.range (pieceCount batch.size length)).mapM (Worker.ofRun W batch length)
  return ⟨workers, out⟩

/-- One turn of worker `i`; without such a worker nothing happens. -/
def turn {S : Type u} [Add S] [Sub S] [Mul S] [Div S] [Zero S] [One S] (W : Nat) (pad : Mat4 S)
    (shop : Workshop S) (i : Nat) : Except Fault (Workshop S) :=
  match shop.workers[i]? with
  | none => .ok shop
  | some w =>
    match w.turn W pad shop.out with
    | .ok (next, out) => .ok ⟨shop.workers.set i next, out⟩
    | .error f => .error f

def run {S : Type u} [Add S] [Sub S] [Mul S] [Div S] [Zero S] [One S] (W : Nat) (pad : Mat4 S)
    (shop : Workshop S) (schedule : List Nat) : Except Fault (Workshop S) :=
  schedule.foldlM (turn W pad) shop

def Done {S : Type u} (shop : Workshop S) : Prop := ∀ w ∈ shop.workers, w.pending = []

end Workshop

end LaneMatrix
