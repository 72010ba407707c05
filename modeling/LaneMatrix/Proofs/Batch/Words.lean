import Mathlib.Algebra.Group.Nat.Defs
import LaneMatrix.Proofs.Batch.Parallel
import LaneMatrix.Proofs.Batch.Plan

/-!
# Plans made in words

Machines count in words, and a number that does not fit into one, or a divisor of zero, stops a
call. `Word` makes the plan of a parallel call once more with steps that can fail in this way: the
thread choice, and for a batch that is shared out the length of a run and the ends of each run. As
long as 256 chunks of the width can be counted, no step does fail, and the plan is the one that is
made with numbers of any size. The length of a run is rounded up to a multiple of the width, which
could lead out of the words. It does not, since no length is asked for on one thread, and with two
threads or more a run is shorter than the batch.
-/

universe u

namespace LaneMatrix

/-- How a batch is shared out: the length of a run, and where each run starts and ends. -/
structure Plan where
  length : Nat
  runs : List (Nat × Nat)
  deriving DecidableEq

namespace Fanout

/-- No plan is needed for a batch on one thread. -/
def plan (count width limit : Nat) : Option Plan :=
  let threads := threadCount count width limit
  if threads = 1 then none
  else
    let length := runLength count width threads
    some ⟨length, (chunks length count).map fun run => (run.start, run.start + run.live)⟩

end Fanout

namespace Word

/-- The result of a step, where it fits into a word. -/
def fit (n : Nat) : Except Fault Nat := if n < wordBound then .ok n else .error .overflow

def add (m n : Nat) : Except Fault Nat := fit (m + n)

def mul (m n : Nat) : Except Fault Nat := fit (m * n)

def sub (m n : Nat) : Except Fault Nat := if n ≤ m then fit (m - n) else .error .overflow

def div (n d : Nat) : Except Fault Nat := if d = 0 then .error .divisor else fit (n / d)

def mod (n d : Nat) : Except Fault Nat := if d = 0 then .error .divisor else fit (n % d)

def pieceCount (n d : Nat) : Except Fault Nat := do
  let whole ← div n d
  let rest ← mod n d
  if rest = 0 then return whole else add whole 1

def roundUp (n d : Nat) : Except Fault Nat := do
  let rest ← mod n d
  if rest = 0 then return n else add n (← sub d rest)

def threadCount (count width limit : Nat) : Except Fault Nat := do
  let work ← mul width Fanout.chunksPerThread
  let byWork ← div count work
  return min (min (Fanout.threadsBySize count limit) (max byWork 1)) limit

def runLength (count width threads : Nat) : Except Fault Nat := do
  roundUp (← pieceCount count threads) width

/-- Where run `i` starts and ends. -/
def run (length count i : Nat) : Except Fault (Nat × Nat) := do
  let start ← mul i length
  let stop ← add start (chunk length count i).live
  return (start, stop)

/-- The number of runs is taken by a division too, so that a length of zero fails. -/
def plan (count width limit : Nat) : Except Fault (Option Plan) := do
  let threads ← threadCount count width limit
  if threads = 1 then return none
  else
    let length ← runLength count width threads
    let runs ← (List.range (← pieceCount count length)).mapM (run length count)
    return some ⟨length, runs⟩

/-- A step that goes through hands its result on. -/
theorem ok_bind {α β : Type} (a : α) (f : α → Except Fault β) : (.ok a >>= f) = f a := rfl

theorem fit_of_lt {n : Nat} (h : n < wordBound) : fit n = .ok n := if_pos h

theorem div_of_pos {n d : Nat} (hn : n < wordBound) (hd : 0 < d) : div n d = .ok (n / d) := by
  rw [div, if_neg (Nat.pos_iff_ne_zero.mp hd)]
  exact fit_of_lt (Nat.lt_of_le_of_lt (Nat.div_le_self n d) hn)

theorem mod_of_pos {n d : Nat} (hn : n < wordBound) (hd : 0 < d) : mod n d = .ok (n % d) := by
  rw [mod, if_neg (Nat.pos_iff_ne_zero.mp hd)]
  exact fit_of_lt (Nat.lt_of_le_of_lt (Nat.mod_le n d) hn)

/-- Rounding a quotient up cannot lead out of the words. -/
theorem pieceCount_of_pos {n d : Nat} (hn : n < wordBound) (hd : 0 < d) :
    pieceCount n d = .ok (LaneMatrix.pieceCount n d) := by
  have hfit : LaneMatrix.pieceCount n d < wordBound := by
    refine Nat.lt_of_le_of_lt ?_ hn
    exact (pieceCount_le_iff hd).mpr (Nat.le_mul_of_pos_right n hd)
  rw [pieceCount, div_of_pos hn hd, ok_bind, mod_of_pos hn hd, ok_bind]
  rw [LaneMatrix.pieceCount] at hfit ⊢
  by_cases hrest : n % d = 0
  · rw [if_pos hrest, if_pos hrest]
    rfl
  · rw [if_neg hrest] at hfit ⊢
    rw [if_neg hrest, add, fit_of_lt hfit]

/-- Rounding up to a multiple can: the multiple has to fit. -/
theorem roundUp_of_lt {n d : Nat} (hd : 0 < d) (hword : d < wordBound)
    (hfit : LaneMatrix.roundUp n d < wordBound) :
    roundUp n d = .ok (LaneMatrix.roundUp n d) := by
  have hn : n < wordBound := Nat.lt_of_le_of_lt (le_roundUp n d) hfit
  rw [roundUp, mod_of_pos hn hd, ok_bind]
  rw [LaneMatrix.roundUp] at hfit ⊢
  by_cases hrest : n % d = 0
  · rw [if_pos hrest, if_pos hrest]
    rfl
  · rw [if_neg hrest] at hfit ⊢
    rw [if_neg hrest, sub, if_pos (Nat.le_of_lt (Nat.mod_lt n hd)),
      fit_of_lt (Nat.lt_of_le_of_lt (Nat.sub_le d _) hword), ok_bind, add, fit_of_lt hfit]

theorem threadCount_of_pos {count width : Nat} (limit : Nat) (hcount : count < wordBound)
    (hw : 0 < width) (hwork : width * Fanout.chunksPerThread < wordBound) :
    threadCount count width limit = .ok (Fanout.threadCount count width limit) := by
  have hpos : 0 < width * Fanout.chunksPerThread := Fanout.mul_chunksPerThread_pos hw
  rw [threadCount, mul, fit_of_lt hwork, ok_bind, div_of_pos hcount hpos, ok_bind]
  rfl

theorem runLength_of_lt {count width threads : Nat} (hcount : count < wordBound)
    (hw : 0 < width) (hwide : width < wordBound) (ht : 0 < threads)
    (hfit : Fanout.runLength count width threads < wordBound) :
    runLength count width threads = .ok (Fanout.runLength count width threads) := by
  rw [runLength, pieceCount_of_pos hcount ht, ok_bind]
  exact roundUp_of_lt hw hwide hfit

theorem run_of_le {length count i : Nat} (hcount : count < wordBound) (hi : i * length ≤ count) :
    run length count i = .ok (i * length, i * length + (chunk length count i).live) := by
  have hend : i * length + (chunk length count i).live ≤ count := chunk_within hi
  rw [run, mul, fit_of_lt (Nat.lt_of_le_of_lt hi hcount), ok_bind, add,
    fit_of_lt (Nat.lt_of_le_of_lt hend hcount), ok_bind]
  rfl

/-- No step of a plan fails, as long as 256 chunks of the width can be counted in a word. -/
theorem plan_of_pos {count width limit : Nat} (hcount : count < wordBound) (hw : 0 < width)
    (hwork : width * Fanout.chunksPerThread < wordBound) (hlimit : 0 < limit) :
    plan count width limit = .ok (Fanout.plan count width limit) := by
  rw [plan, threadCount_of_pos limit hcount hw hwork, ok_bind, Fanout.plan]
  by_cases hone : Fanout.threadCount count width limit = 1
  · rw [if_pos hone, if_pos hone]
    rfl
  · have hpos := Fanout.threadCount_pos count width hlimit
    have hl := Fanout.runLength_pos hlimit hone
    have hless : Fanout.runLength count width (Fanout.threadCount count width limit) < count :=
      Fanout.runLength_lt_count hw (by omega)
    have hwide : width < wordBound :=
      Nat.lt_of_le_of_lt (Nat.le_mul_of_pos_right width (by decide)) hwork
    have hlength := runLength_of_lt hcount hw hwide hpos (Nat.lt_trans hless hcount)
    have hruns := mapM_ok (l := List.range (LaneMatrix.pieceCount count _)) fun i hi =>
      run_of_le hcount (Nat.le_of_lt ((lt_pieceCount_iff hl).mp (List.mem_range.mp hi)))
    rw [if_neg hone, if_neg hone, hlength, ok_bind, pieceCount_of_pos hcount hl, ok_bind, hruns,
      ok_bind]
    simp only [chunks, List.map_map]
    rfl

end Word

/-- A parallel call goes by its plan. -/
theorem Batch.runParallel_of_plan {S : Type u} [Add S] [Sub S] [Mul S] [Div S] [Zero S] [One S]
    {W limit : Nat} (hW : 0 < W) (hlimit : 0 < limit) {batch : Batch S} {out : Array (Mat4 S)}
    (hb : batch.Fits out.size) :
    batch.runParallel W out limit =
      (Fanout.plan batch.size W limit).elim (batch.run W out) fun p =>
        overRuns (List.range p.runs.length) p.length (batch.work W) out := by
  by_cases hone : Fanout.threadCount batch.size W limit = 1
  · rw [runParallel_of_one hW hlimit hb hone, Fanout.plan, if_pos hone, Option.elim_none]
  · rw [runParallel_of_ne_one hW hlimit hb hone, Fanout.plan, if_neg hone, Option.elim_some]
    simp only [chunks, List.length_map, List.length_range, size_eq_of_fits hb]

namespace Fanout

/-- Every number that a shared batch is cut by fits into a word. -/
theorem run_bounds {count width limit : Nat} (hcount : count < wordBound) (hw : 0 < width)
    (h : 2 ≤ threadCount count width limit) :
    let threads := threadCount count width limit
    let length := runLength count width threads
    pieceCount count threads < wordBound ∧ length < wordBound ∧ 1 ≤ length ∧
      ∀ i, i < pieceCount count length →
        i * length < wordBound ∧ i * length + (chunk length count i).live < wordBound := by
  intro threads length
  have hl : 0 < length := (runs_of_shared hw h).2.1
  have hless : length < count := runLength_lt_count hw h
  have hshare : pieceCount count threads ≤ length := le_roundUp _ width
  refine ⟨by omega, by omega, hl, ?_⟩
  intro i hi
  have hstart : i * length < count := (lt_pieceCount_iff hl).mp hi
  have hend : i * length + (chunk length count i).live ≤ count :=
    chunk_within (Nat.le_of_lt hstart)
  omega

/-- For whatever lengths, widths and limits of threads there are in words, if 256 chunks of the
width can be counted: a plan can be made in words, a parallel call goes by it, and nothing that is
computed for it is as large as the word bound or divides by zero. -/
theorem plan_within_words {count width limit : Nat} (hcount : count < wordBound) (hw : 0 < width)
    (hwide : width < 2 ^ 56) (hlimit : 0 < limit) (hword : limit < wordBound) :
    let threads := threadCount count width limit
    let length := runLength count width threads
    Word.plan count width limit = .ok (plan count width limit) ∧
      (0 < width * chunksPerThread ∧ width * chunksPerThread < wordBound ∧
        count / (width * chunksPerThread) < wordBound ∧ 0 < threads ∧ threads < wordBound) ∧
      (threads ≠ 1 → 2 ≤ threads ∧
        pieceCount count threads < wordBound ∧ length < wordBound ∧ 1 ≤ length ∧
          ∀ i, i < pieceCount count length →
            i * length < wordBound ∧ i * length + (chunk length count i).live < wordBound) ∧
      ∀ {S : Type u} [Add S] [Sub S] [Mul S] [Div S] [Zero S] [One S] (batch : Batch S)
        (out : Array (Mat4 S)), batch.Fits out.size → batch.size = count →
        batch.runParallel width out limit =
          (plan count width limit).elim (batch.run width out) fun p =>
            overRuns (List.range p.runs.length) p.length (batch.work width) out := by
  intro threads length
  have hwork : width * chunksPerThread < wordBound := by
    rw [chunksPerThread, wordBound]
    omega
  have hpos : 0 < threads := threadCount_pos count width hlimit
  refine ⟨Word.plan_of_pos hcount hw hwork hlimit,
    ⟨mul_chunksPerThread_pos hw, hwork, Nat.lt_of_le_of_lt (Nat.div_le_self ..) hcount, hpos,
      Nat.lt_of_le_of_lt (threadCount_le ..) hword⟩, ?_, ?_⟩
  · intro hmany
    have htwo : 2 ≤ threads := by omega
    exact ⟨htwo, run_bounds hcount hw htwo⟩
  · intro S _ _ _ _ _ _ batch out hb hn
    subst hn
    exact Batch.runParallel_of_plan hw hlimit hb

/-- The largest batch and limit that words can hold, and the largest width for two threads. -/
theorem plan_of_largest_batch :
    18446744073709551615 < wordBound ∧ 0 < 18446744073709551615 ∧
      0 < 36028797018963967 ∧ 36028797018963967 < 2 ^ 56 ∧
      Word.plan 18446744073709551615 36028797018963967 18446744073709551615 =
        .ok (some ⟨9259400833873739519,
          [(0, 9259400833873739519), (9259400833873739519, 18446744073709551615)]⟩) := by
  have hcount : 18446744073709551615 < wordBound := by decide
  have hwidth : 0 < 36028797018963967 := by decide
  have hwide : 36028797018963967 < 2 ^ 56 := by decide
  have hlimit : 0 < 18446744073709551615 := by decide
  have hplan := (plan_within_words.{0} hcount hwidth hwide hlimit hcount).1
  exact ⟨hcount, hlimit, hwidth, hwide, hplan⟩

/-- On one thread the length of a run would not fit: it is never asked for. -/
example : Word.runLength 18446744073709551615 2 1 = .error .overflow ∧
    Word.plan 18446744073709551615 2 1 = .ok none := ⟨rfl, rfl⟩

end Fanout

end LaneMatrix
