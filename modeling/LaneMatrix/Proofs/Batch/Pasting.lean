import LaneMatrix.Batch

/-!
# Pasting chunks

A chunk of a list is pasted when its places take their values from a list of results. Each paste
writes the right values and touches nothing else, so the order of pastes does not matter: what has
been pasted so far is settled by the places that some chunk holds. The chunks of a batch hold every
place of it, so a list is settled by its pieces.
-/

universe u

namespace LaneMatrix

namespace Chunk

/-- The place `k` belongs to the chunk. -/
def Holds (c : Chunk) (k : Nat) : Prop := c.start ≤ k ∧ k < c.start + c.live

/-- The chunk ends within `n` places. -/
def Within (c : Chunk) (n : Nat) : Prop := c.start + c.live ≤ n

instance (c : Chunk) (k : Nat) : Decidable (c.Holds k) :=
  inferInstanceAs (Decidable (c.start ≤ k ∧ k < c.start + c.live))

/-- The places of the chunk take their values from `xs`. -/
def paste {α : Type u} (xs out : Array α) (c : Chunk) : Array α :=
  overwrite out c.start (c.of xs).toList

theorem size_of {α : Type u} {c : Chunk} {xs : Array α} (h : c.Within xs.size) :
    (c.of xs).size = c.live := by
  have hend : min (c.start + c.live) xs.size = c.start + c.live := Nat.min_eq_left h
  rw [Chunk.of, Array.size_extract, hend, Nat.add_sub_cancel_left]

theorem getElem?_of {α : Type u} {c : Chunk} {xs : Array α} (h : c.Within xs.size) (k : Nat) :
    (c.of xs)[k]? = if k < c.live then xs[c.start + k]? else none := by
  have hend : min (c.start + c.live) xs.size - c.start = c.live := by
    rw [Nat.min_eq_left h, Nat.add_sub_cancel_left]
  rw [Chunk.of, Array.getElem?_extract, hend]

@[simp] theorem size_paste {α : Type u} (xs out : Array α) (c : Chunk) :
    (paste xs out c).size = out.size :=
  size_overwrite _ _ _

theorem getElem?_paste {α : Type u} {xs out : Array α} {c : Chunk} (hsize : xs.size = out.size)
    (h : c.Within xs.size) (k : Nat) :
    (paste xs out c)[k]? = if c.Holds k then xs[k]? else out[k]? := by
  have hlive : (c.of xs).toList.length = c.live := by
    rw [Array.length_toList, size_of h]
  rw [paste, getElem?_overwrite, hlive]
  by_cases hk : c.Holds k
  · have hout : k < out.size := by
      have hend : c.start + c.live ≤ xs.size := h
      have := hk.2
      omega
    have hoff : c.start + (k - c.start) = k := by
      have := hk.1
      omega
    rw [if_pos ⟨hk.1, hk.2, hout⟩, if_pos hk, Array.getElem?_toList, getElem?_of h, hoff,
      if_pos (by have := hk.2; omega)]
  · rw [if_neg fun hn => hk ⟨hn.1, hn.2.1⟩, if_neg hk]

/-- A place holds its result as soon as one chunk has brought it, and its old value until then. -/
theorem getElem?_foldl_paste {α : Type u} {xs : Array α} (cs : List Chunk)
    (h : ∀ c ∈ cs, c.Within xs.size) (out : Array α) (hsize : xs.size = out.size) (k : Nat) :
    (cs.foldl (paste xs) out)[k]? = if ∃ c ∈ cs, c.Holds k then xs[k]? else out[k]? := by
  induction cs generalizing out with
  | nil => simp
  | cons c cs ih =>
    have hrest : ∀ d ∈ cs, d.Within xs.size := fun d hd => h d (List.mem_cons_of_mem c hd)
    rw [List.foldl_cons, ih hrest _ (by rw [size_paste, hsize]),
      getElem?_paste hsize (h c List.mem_cons_self)]
    by_cases hin : ∃ d ∈ cs, d.Holds k
    · obtain ⟨d, hd, hk⟩ := hin
      rw [if_pos ⟨d, hd, hk⟩, if_pos ⟨d, List.mem_cons_of_mem c hd, hk⟩]
    · rw [if_neg hin]
      by_cases hk : c.Holds k
      · rw [if_pos hk, if_pos ⟨c, List.mem_cons_self, hk⟩]
      · rw [if_neg hk, if_neg]
        rintro ⟨d, hd, hdk⟩
        rcases List.mem_cons.mp hd with rfl | hd
        · exact hk hdk
        · exact hin ⟨d, hd, hdk⟩

/-- Chunks that hold every place leave nothing of what was there before. -/
theorem foldl_paste_of_covering {α : Type u} {xs out : Array α} {cs : List Chunk}
    (h : ∀ c ∈ cs, c.Within xs.size) (hsize : xs.size = out.size)
    (covering : ∀ k, k < xs.size → ∃ c ∈ cs, c.Holds k) : cs.foldl (paste xs) out = xs := by
  apply Array.ext_getElem?
  intro k
  rw [getElem?_foldl_paste cs h out hsize]
  by_cases hk : k < xs.size
  · rw [if_pos (covering k hk)]
  · have hxs : xs[k]? = none := Array.getElem?_eq_none (by omega)
    have hout : out[k]? = none := Array.getElem?_eq_none (by omega)
    rw [hxs, hout]
    split <;> rfl

end Chunk

theorem chunk_within {d n i : Nat} (h : i * d ≤ n) : (chunk d n i).Within n := by
  simp only [Chunk.Within, chunk]
  omega

theorem live_chunk_le (d n i : Nat) : (chunk d n i).live ≤ d := Nat.min_le_left _ _

theorem live_chunk_of_full {d n i : Nat} (h : (i + 1) * d ≤ n) : (chunk d n i).live = d := by
  rw [Nat.add_mul] at h
  exact Nat.min_eq_left (by omega)

theorem live_chunk_of_le {d n i : Nat} (h : n ≤ (i + 1) * d) :
    (chunk d n i).live = n - i * d := by
  rw [Nat.add_mul] at h
  exact Nat.min_eq_right (by omega)

theorem mem_chunks_iff {d n : Nat} {c : Chunk} :
    c ∈ chunks d n ↔ ∃ i < pieceCount n d, chunk d n i = c := by
  simp only [chunks, List.mem_map, List.mem_range]

theorem within_of_mem_chunks {d n : Nat} (hd : 0 < d) {c : Chunk} (h : c ∈ chunks d n) :
    c.Within n := by
  obtain ⟨i, hi, rfl⟩ := mem_chunks_iff.mp h
  exact chunk_within (Nat.le_of_lt ((lt_pieceCount_iff hd).mp hi))

theorem live_le_of_mem_chunks {d n : Nat} {c : Chunk} (h : c ∈ chunks d n) : c.live ≤ d := by
  obtain ⟨i, _, rfl⟩ := mem_chunks_iff.mp h
  exact live_chunk_le d n i

/-- A place belongs to the piece that the division by the length names, and to no other. -/
theorem holds_chunk_iff {d n i k : Nat} (hd : 0 < d) :
    (chunk d n i).Holds k ↔ i = k / d ∧ k < n := by
  have hdiv := Nat.div_add_mod' k d
  have hmod := Nat.mod_lt k hd
  simp only [Chunk.Holds, chunk]
  constructor
  · rintro ⟨hlow, hhigh⟩
    have hnext : k < (i + 1) * d := by
      rw [Nat.add_mul]
      omega
    refine ⟨?_, by omega⟩
    exact (Nat.div_eq_of_lt_le hlow hnext).symm
  · rintro ⟨rfl, hk⟩
    omega

theorem div_lt_pieceCount {d n k : Nat} (hd : 0 < d) (hk : k < n) : k / d < pieceCount n d :=
  (lt_pieceCount_iff hd).mpr (Nat.lt_of_le_of_lt (Nat.div_mul_le_self k d) hk)

theorem chunks_covering {d n k : Nat} (hd : 0 < d) (hk : k < n) : ∃ c ∈ chunks d n, c.Holds k :=
  ⟨chunk d n (k / d), mem_chunks_iff.mpr ⟨k / d, div_lt_pieceCount hd hk, rfl⟩,
    (holds_chunk_iff hd).mpr ⟨rfl, hk⟩⟩

/-- Lists of one length with the same pieces are the same. -/
theorem eq_of_pieces {α : Type u} {d : Nat} (hd : 0 < d) {xs ys : Array α}
    (hsize : xs.size = ys.size)
    (h : ∀ i < pieceCount xs.size d, (chunk d xs.size i).of xs = (chunk d xs.size i).of ys) :
    xs = ys := by
  apply Array.ext_getElem?
  intro k
  by_cases hk : k < xs.size
  · have hstart : k / d * d ≤ k := Nat.div_mul_le_self k d
    obtain ⟨-, hhigh⟩ := (holds_chunk_iff hd).mpr ⟨rfl, hk⟩
    have hpiece := congrArg (fun zs => zs[k - k / d * d]?) (h (k / d) (div_lt_pieceCount hd hk))
    have hwithin : (chunk d xs.size (k / d)).Within xs.size := chunk_within (by omega)
    have hother : (chunk d xs.size (k / d)).Within ys.size := hsize.subst hwithin
    have hoff : (chunk d xs.size (k / d)).start + (k - k / d * d) = k := by
      simp only [chunk]
      omega
    have hlive : k - k / d * d < (chunk d xs.size (k / d)).live := by omega
    simp only [Chunk.getElem?_of hwithin, Chunk.getElem?_of hother, if_pos hlive, hoff] at hpiece
    exact hpiece
  · rw [Array.getElem?_eq_none (by omega), Array.getElem?_eq_none (by omega)]

end LaneMatrix
