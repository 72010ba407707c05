import LaneMatrix.Batch.Pieces

/-!
# How a batch is shared out

Small batches stay on one thread, middling ones use two, and large ones all that are allowed; but
each thread must have at least 256 chunks of work. A run is the share of one thread, and its
length is a multiple of the width, so that only the last run can end in a short chunk.
-/

namespace LaneMatrix

namespace Fanout

def singleThreadBelow : Nat := 4096

def twoThreadsBelow : Nat := 16384

def chunksPerThread : Nat := 256

/-- The number of threads that the number of matrices alone asks for. -/
def threadsBySize (count limit : Nat) : Nat :=
  if count < singleThreadBelow then 1 else if count < twoThreadsBelow then 2 else limit

def threadsByWork (count width : Nat) : Nat := max (count / (width * chunksPerThread)) 1

def threadCount (count width limit : Nat) : Nat :=
  min (min (threadsBySize count limit) (threadsByWork count width)) limit

def runLength (count width threads : Nat) : Nat := roundUp (pieceCount count threads) width

example : threadCount 4095 4 8 = 1 ∧ threadCount 8192 4 8 = 2 ∧ threadCount 1048576 4 8 = 8 := by
  decide

/-- Wide chunks are fewer, so fewer threads are worth it. -/
example : threadCount 20000 16 8 = 4 := by decide

example : runLength 1000 8 3 = 336 ∧ runLength 1024 4 4 = 256 ∧ runLength 10 4 4 = 4 := by decide

end Fanout

end LaneMatrix
