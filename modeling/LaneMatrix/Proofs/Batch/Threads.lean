import Mathlib.Algebra.Group.Nat.Defs
import LaneMatrix.Proofs.Batch.Words

/-!
# How many threads a batch gets

The number of threads is the least of three: what the size of the batch asks for, what its work is
worth, and the limit. The first of them depends on the limit too, and jumps at two sizes. Still the
choice never gets smaller with more matrices or a higher limit, nor larger with wider chunks: each
of the conditions for `k` threads (`le_threadCount_iff`) only gets easier to meet. Nothing is said
here about whether every thread that is chosen is given a run.
-/

namespace LaneMatrix.Fanout

/-- A larger batch of narrower chunks under a higher limit gets no fewer threads. -/
theorem threadCount_mono {count more width narrower limit higher : Nat} (hcount : count ≤ more)
    (hn : 0 < narrower) (hwidth : narrower ≤ width) (hl : 0 < limit) (hlimit : limit ≤ higher) :
    threadCount count width limit ≤ threadCount more narrower higher := by
  have hw : 0 < width := Nat.lt_of_lt_of_le hn hwidth
  by_cases hone : threadCount count width limit ≤ 1
  · -- The conditions speak of two threads or more; one thread is always there.
    have hpos := threadCount_pos more narrower (Nat.lt_of_lt_of_le hl hlimit)
    exact Nat.le_trans hone hpos
  · have htwo : 2 ≤ threadCount count width limit := by omega
    obtain ⟨hfew, hsingle, hlarge, hwork⟩ := (le_threadCount_iff htwo hw).mp (Nat.le_refl _)
    refine (le_threadCount_iff htwo hn).mpr ⟨Nat.le_trans hfew hlimit, by omega, ?_, ?_⟩
    · rcases hlarge with heq | hlarge
      · exact .inl heq
      · exact .inr (Nat.le_trans hlarge hcount)
    · calc threadCount count width limit * (narrower * chunksPerThread)
        _ ≤ threadCount count width limit * (width * chunksPerThread) :=
          Nat.mul_le_mul_left _ (Nat.mul_le_mul_right _ hwidth)
        _ ≤ count := hwork
        _ ≤ more := hcount

theorem threadCount_le_two {count width : Nat} (limit : Nat) (hw : 0 < width)
    (hcount : count < 16384) : threadCount count width limit ≤ 2 := by
  refine Nat.le_of_not_lt fun hthree => ?_
  obtain ⟨-, -, hlarge, -⟩ := (le_threadCount_iff (by omega) hw).mp hthree
  omega

/-- The choice of threads, for whatever counts and widths there are in words: it is made in words
without a fault, lies between one and the limit, and is monotone in the count and the limit and
antitone in the width. Two threads or more are chosen exactly for a limit of at least two and a
batch of at least 4096 matrices and 512 chunks; more than two only for 16384 matrices or more. -/
theorem threadCount_bounded_and_monotone {count more width wider limit higher : Nat}
    (hcount : count ≤ more) (hword : more < wordBound) (hw : 0 < width) (hwidth : width ≤ wider)
    (hwide : wider < 2 ^ 56) (hl : 0 < limit) (hlimit : limit ≤ higher) :
    (∀ n w l, n ≤ more → 0 < w → w ≤ wider →
      Word.threadCount n w l = .ok (threadCount n w l)) ∧
    1 ≤ threadCount count width limit ∧ threadCount count width limit ≤ limit ∧
    threadCount count width limit ≤ threadCount more width limit ∧
    threadCount count width limit ≤ threadCount count width higher ∧
    threadCount count wider limit ≤ threadCount count width limit ∧
    (2 ≤ threadCount count width limit ↔ 2 ≤ limit ∧ 4096 ≤ count ∧ 512 * width ≤ count) ∧
    (count < 16384 → threadCount count width limit ≤ 2) := by
  refine ⟨?_, threadCount_pos count width hl, threadCount_le count width limit,
    threadCount_mono hcount hw (Nat.le_refl _) hl (Nat.le_refl _),
    threadCount_mono (Nat.le_refl _) hw (Nat.le_refl _) hl hlimit,
    threadCount_mono (Nat.le_refl _) hw hwidth hl (Nat.le_refl _), two_le_threadCount_iff hw,
    threadCount_le_two limit hw⟩
  intro n w l hn hpos hle
  have hwork : w * chunksPerThread < wordBound := by
    rw [chunksPerThread, wordBound]
    omega
  exact Word.threadCount_of_pos l (Nat.lt_of_le_of_lt hn hword) hpos hwork

/-- Both jumps are passed here: from a batch below the second size to one that reaches it, from a
width that is too wide for two threads, and from a limit below what the work is worth. -/
theorem threadCount_past_both_sizes :
    16383 ≤ 16384 ∧ 16384 < wordBound ∧ 0 < 4 ∧ 4 ≤ 32 ∧ 32 < 2 ^ 56 ∧ 0 < 8 ∧ 8 ≤ 20 ∧
      threadCount 16383 4 8 ≤ threadCount 16384 4 8 ∧
      threadCount 16383 32 8 ≤ threadCount 16383 4 8 ∧ threadCount 16383 4 8 ≤ 2 ∧
      threadCount 16383 4 8 = 2 ∧ threadCount 16384 4 8 = 8 ∧ threadCount 16384 4 20 = 16 ∧
      threadCount 16383 32 8 = 1 := by
  have hcount : 16383 ≤ 16384 := by decide
  have hword : 16384 < wordBound := by decide
  have hw : 0 < 4 := by decide
  have hwidth : 4 ≤ 32 := by decide
  have hwide : 32 < 2 ^ 56 := by decide
  have hl : 0 < 8 := by decide
  have hlimit : 8 ≤ 20 := by decide
  obtain ⟨-, -, -, hmore, -, hwider, -, htwo⟩ :=
    threadCount_bounded_and_monotone hcount hword hw hwidth hwide hl hlimit
  exact ⟨hcount, hword, hw, hwidth, hwide, hl, hlimit, hmore, hwider, htwo (by decide), by decide,
    by decide, by decide, by decide⟩

end LaneMatrix.Fanout
