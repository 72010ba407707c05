/-!
# Cutting into pieces

A sequence of `n` places is cut every `d` places; all pieces but the last have length `d`. Every
piece is named by where it starts and how many places it has.
-/

universe u

namespace LaneMatrix

/-- How many pieces there are: the quotient, rounded up. -/
def pieceCount (n d : Nat) : Nat := if n % d = 0 then n / d else n / d + 1

/-- The next multiple of `d` that is not below `n`. -/
def roundUp (n d : Nat) : Nat := if n % d = 0 then n else n + (d - n % d)

structure Chunk where
  start : Nat
  live : Nat
  deriving DecidableEq

/-- The part of an array that a chunk names. -/
def Chunk.of {α : Type u} (c : Chunk) (xs : Array α) : Array α :=
  xs.extract c.start (c.start + c.live)

/-- Piece `i` of `n` places that are cut every `d` places. -/
def chunk (d n i : Nat) : Chunk := ⟨i * d, min d (n - i * d)⟩

def chunks (d n : Nat) : List Chunk := (List.range (pieceCount n d)).map (chunk d n)

theorem pieceCount_eq {n d : Nat} (hd : 0 < d) : pieceCount n d = (n + d - 1) / d := by
  have hn := Nat.div_add_mod n d
  have hr := Nat.mod_lt n hd
  simp only [pieceCount]
  split
  · rename_i h0
    symm
    rw [Nat.div_eq_iff hd]
    rw [Nat.mul_comm] at hn
    omega
  · symm
    rw [Nat.div_eq_iff hd, Nat.add_mul]
    rw [Nat.mul_comm] at hn
    omega

theorem lt_pieceCount_iff {n d i : Nat} (hd : 0 < d) : i < pieceCount n d ↔ i * d < n := by
  rw [pieceCount_eq hd, Nat.lt_div_iff_mul_lt hd]
  omega

end LaneMatrix
