import LaneMatrix.Batch.Fanout

/-!
# Shares of a batch

When a batch is shared out, each thread but the last gets a run of the same length, a multiple of
the width. The runs together are exactly the batch, none of them is empty, and there are at least
two and never more than the threads that are allowed.
-/

namespace LaneMatrix

theorem pieceCount_le_iff {n d k : Nat} (hd : 0 < d) : pieceCount n d ≤ k ↔ n ≤ k * d := by
  rw [← Nat.not_lt, lt_pieceCount_iff hd, Nat.not_lt]

theorem le_pieceCount_mul (n : Nat) {d : Nat} (hd : 0 < d) : n ≤ pieceCount n d * d :=
  (pieceCount_le_iff hd).mp (Nat.le_refl _)

theorem pred_pieceCount_mul_lt {n d : Nat} (hd : 0 < d) (hn : 0 < n) :
    (pieceCount n d - 1) * d < n := by
  have hpieces : 0 < pieceCount n d := (lt_pieceCount_iff hd).mpr (by omega)
  exact (lt_pieceCount_iff hd).mp (by omega)

theorem le_roundUp (n d : Nat) : n ≤ roundUp n d := by
  rw [roundUp]
  split
  · exact Nat.le_refl n
  · exact Nat.le_add_right n _

theorem roundUp_lt (n : Nat) {d : Nat} (hd : 0 < d) : roundUp n d < n + d := by
  rw [roundUp]
  split <;> omega

theorem dvd_roundUp (n : Nat) {d : Nat} (hd : 0 < d) : d ∣ roundUp n d := by
  rw [roundUp]
  split
  · rename_i h
    exact Nat.dvd_of_mod_eq_zero h
  · have hsplit := Nat.div_add_mod n d
    have hrest := Nat.mod_lt n hd
    refine ⟨n / d + 1, ?_⟩
    rw [Nat.mul_add]
    omega

namespace Fanout

theorem threadCount_pos (count width : Nat) {limit : Nat} (h : 0 < limit) :
    0 < threadCount count width limit := by
  have hsize : 0 < threadsBySize count limit := by
    rw [threadsBySize]
    split
    · exact Nat.one_pos
    · split
      · exact Nat.two_pos
      · exact h
  have hwork : 0 < threadsByWork count width := Nat.le_max_right _ _
  simp only [threadCount]
  omega

theorem threadCount_le (count width limit : Nat) : threadCount count width limit ≤ limit :=
  Nat.min_le_right _ _

/-- Only a batch that holds something is shared out. -/
theorem count_pos_of_threadCount_ne_one {count width limit : Nat} (hl : 0 < limit)
    (h : threadCount count width limit ≠ 1) : 0 < count := by
  rcases Nat.eq_zero_or_pos count with hzero | hpos
  · refine absurd ?_ h
    have hwork : threadsByWork count width = 1 := by
      rw [hzero, threadsByWork, Nat.zero_div]
      rfl
    have hpos := threadCount_pos count width hl
    simp only [threadCount, hwork] at hpos ⊢
    omega
  · exact hpos

theorem le_threadsBySize_iff {k count limit : Nat} (hk : 2 ≤ k) (hl : k ≤ limit) :
    k ≤ threadsBySize count limit ↔ 4096 ≤ count ∧ (k = 2 ∨ 16384 ≤ count) := by
  rw [threadsBySize, singleThreadBelow, twoThreadsBelow]
  by_cases hsingle : count < 4096
  · rw [if_pos hsingle]
    omega
  · rw [if_neg hsingle]
    by_cases htwo : count < 16384
    · rw [if_pos htwo]
      omega
    · rw [if_neg htwo]
      omega

theorem le_threadsByWork_iff {k : Nat} (hk : 2 ≤ k) (count : Nat) {width : Nat} (hw : 0 < width) :
    k ≤ threadsByWork count width ↔ k * (width * chunksPerThread) ≤ count := by
  have hdiv := Nat.le_div_iff_mul_le (x := k) (y := count) (k := width * 256) (by omega)
  simp only [threadsByWork, chunksPerThread]
  omega

/-- What it takes for a batch to get `k` threads: the limit must allow them, the batch must be large
enough, and each of them must have its 256 chunks. -/
theorem le_threadCount_iff {k count width limit : Nat} (hk : 2 ≤ k) (hw : 0 < width) :
    k ≤ threadCount count width limit ↔
      k ≤ limit ∧ 4096 ≤ count ∧ (k = 2 ∨ 16384 ≤ count) ∧
        k * (width * chunksPerThread) ≤ count := by
  have hwork := le_threadsByWork_iff hk count hw
  simp only [threadCount, Nat.le_min]
  constructor
  · rintro ⟨⟨hsize, hwide⟩, hl⟩
    obtain ⟨hsingle, htwo⟩ := (le_threadsBySize_iff hk hl).mp hsize
    exact ⟨hl, hsingle, htwo, hwork.mp hwide⟩
  · rintro ⟨hl, hsingle, htwo, hwide⟩
    exact ⟨⟨(le_threadsBySize_iff hk hl).mpr ⟨hsingle, htwo⟩, hwork.mpr hwide⟩, hl⟩

/-- What it takes for a batch to be shared out at all. -/
theorem two_le_threadCount_iff {count width limit : Nat} (hw : 0 < width) :
    2 ≤ threadCount count width limit ↔ 2 ≤ limit ∧ 4096 ≤ count ∧ 512 * width ≤ count := by
  have hchunks : 2 * (width * chunksPerThread) = 512 * width := by
    rw [chunksPerThread]
    omega
  rw [le_threadCount_iff (Nat.le_refl 2) hw, hchunks]
  constructor
  · rintro ⟨hl, hsingle, -, hwide⟩
    exact ⟨hl, hsingle, hwide⟩
  · rintro ⟨hl, hsingle, hwide⟩
    exact ⟨hl, hsingle, .inl rfl, hwide⟩

theorem runLength_pos {count width limit : Nat} (hl : 0 < limit)
    (h : threadCount count width limit ≠ 1) :
    0 < runLength count width (threadCount count width limit) := by
  have hcount := count_pos_of_threadCount_ne_one hl h
  have hpieces : 0 < pieceCount count (threadCount count width limit) :=
    (lt_pieceCount_iff (threadCount_pos count width hl)).mpr (by omega)
  exact Nat.lt_of_lt_of_le hpieces (le_roundUp _ width)

theorem dvd_runLength (count : Nat) {width : Nat} (hw : 0 < width) (threads : Nat) :
    width ∣ runLength count width threads :=
  dvd_roundUp _ hw

/-- As many runs as there are threads are enough for the batch. -/
theorem le_mul_runLength (count width : Nat) {threads : Nat} (ht : 0 < threads) :
    count ≤ threads * runLength count width threads := by
  calc count
    _ ≤ pieceCount count threads * threads := le_pieceCount_mul count ht
    _ = threads * pieceCount count threads := Nat.mul_comm _ _
    _ ≤ threads * runLength count width threads := Nat.mul_le_mul_left _ (le_roundUp _ width)

/-- No run takes the whole of a batch that is large for its width. -/
theorem runLength_lt {count width threads : Nat} (hw : 0 < width) (ht : 2 ≤ threads)
    (hcount : 512 * width ≤ count) : runLength count width threads < count := by
  have hshare : pieceCount count threads ≤ (count + 1) / 2 := by
    rw [pieceCount_le_iff (by omega)]
    calc count
      _ ≤ (count + 1) / 2 * 2 := by omega
      _ ≤ (count + 1) / 2 * threads := Nat.mul_le_mul_left _ ht
  have hround := roundUp_lt (pieceCount count threads) hw
  rw [runLength]
  omega

/-- The runs of a batch that is shared out. -/
theorem runs_of_shared {count width limit : Nat} (hw : 0 < width)
    (h : 2 ≤ threadCount count width limit) :
    let length := runLength count width (threadCount count width limit)
    let runs := pieceCount count length
    width ∣ length ∧ 0 < length ∧ 2 ≤ runs ∧ runs ≤ limit ∧
      (runs - 1) * length < count ∧ count ≤ runs * length := by
  intro length runs
  obtain ⟨hlimit, hfew, hcount⟩ := (two_le_threadCount_iff hw).mp h
  have hpos : 0 < length := runLength_pos (by omega) (by omega)
  have htwo : 1 < runs := by
    rw [lt_pieceCount_iff hpos, Nat.one_mul]
    exact runLength_lt hw h hcount
  have hruns : runs ≤ threadCount count width limit :=
    (pieceCount_le_iff hpos).mpr (le_mul_runLength count width (by omega))
  exact ⟨dvd_runLength count hw _, hpos, htwo, Nat.le_trans hruns (threadCount_le ..),
    pred_pieceCount_mul_lt hpos (by omega), le_pieceCount_mul count hpos⟩

end Fanout

end LaneMatrix
