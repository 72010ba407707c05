import LaneMatrix.Mat4

/-!
# Sample batches

The matrices that the rows are measured on: affine ones, made from a seed, so that every run
measures the same.
-/

namespace LaneMatrix.Runner

/-- The next sample in `[0, 1)`, and the state after it. -/
def sample (state : UInt64) : Float32 × UInt64 :=
  let next := state * 6364136223846793005 + 1442695040888963407
  (Float32.ofNat (next >>> 40).toNat / 16777216, next)

/-- Scales, rotates about the third axis and translates, so it always has an inverse. -/
def sampleMatrix (state : UInt64) : Mat4 Float32 × UInt64 :=
  let (turn, state) := sample state
  let (size, state) := sample state
  let (x, state) := sample state
  let (y, state) := sample state
  let (z, state) := sample state
  let angle := turn * 6.2831855
  let scale := 0.5 + size * 2
  let sine := angle.sin * scale
  let cosine := angle.cos * scale
  (⟨#v[cosine, sine, 0, 0, -sine, cosine, 0, 0, 0, 0, scale, 0, x * 10, y * 10, z * 10, 1]⟩, state)

def sampleBatch (count : Nat) (seed : UInt64) : Array (Mat4 Float32) :=
  (count.fold (fun _ _ (ms, state) =>
    let (m, state) := sampleMatrix state
    (ms.push m, state)) ((Array.emptyWithCapacity count, seed) : Array (Mat4 Float32) × UInt64)).1

theorem size_fold_push {α σ : Type} {n : Nat}
    {step : (i : Nat) → i < n → Array α × σ → Array α × σ}
    (h : ∀ i hi p, (step i hi p).1.size = p.1.size + 1) (p : Array α × σ) :
    (n.fold step p).1.size = p.1.size + n := by
  induction n with
  | zero => rfl
  | succ n ih =>
    rw [Nat.fold_succ, h, ih fun i hi => h i (Nat.lt_succ_of_lt hi)]
    rfl

theorem size_sampleBatch (count : Nat) (seed : UInt64) :
    (sampleBatch count seed).size = count := by
  rw [sampleBatch, size_fold_push]
  · exact Nat.zero_add count
  · intro i hi p
    exact Array.size_push _

end LaneMatrix.Runner
