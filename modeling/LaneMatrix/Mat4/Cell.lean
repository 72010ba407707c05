import LaneMatrix.Failure
import LaneMatrix.Mat4

/-!
# Names and checked positions of cells

A cell is addressed by its name, or by a column and a row that may be out of range. The name
`c1z` stands for column 1 and row `z`, where the rows of a column are `x`, `y`, `z`, `w`.
-/

universe u

namespace LaneMatrix

inductive CellName where
  | c0x | c0y | c0z | c0w
  | c1x | c1y | c1z | c1w
  | c2x | c2y | c2z | c2w
  | c3x | c3y | c3z | c3w
  deriving DecidableEq

namespace CellName

def col : CellName → Fin 4
  | c0x | c0y | c0z | c0w => 0
  | c1x | c1y | c1z | c1w => 1
  | c2x | c2y | c2z | c2w => 2
  | c3x | c3y | c3z | c3w => 3

def row : CellName → Fin 4
  | c0x | c1x | c2x | c3x => 0
  | c0y | c1y | c2y | c3y => 1
  | c0z | c1z | c2z | c3z => 2
  | c0w | c1w | c2w | c3w => 3

/-- All names, in the order of the cells. -/
def all : List CellName :=
  [c0x, c0y, c0z, c0w, c1x, c1y, c1z, c1w, c2x, c2y, c2z, c2w, c3x, c3y, c3z, c3w]

def text : CellName → String
  | c0x => "c0x" | c0y => "c0y" | c0z => "c0z" | c0w => "c0w"
  | c1x => "c1x" | c1y => "c1y" | c1z => "c1z" | c1w => "c1w"
  | c2x => "c2x" | c2y => "c2y" | c2z => "c2z" | c2w => "c2w"
  | c3x => "c3x" | c3y => "c3y" | c3z => "c3z" | c3w => "c3w"

def ofText? (text : String) : Option CellName := all.find? fun c => c.text == text

theorem ofText?_text (c : CellName) : ofText? c.text = some c := by
  cases c <;> decide +kernel

end CellName

/-- The number of a cell, where it fits into a word. -/
def cellIndex (col row : Nat) : Except Fault Nat :=
  if cellNumber col row < wordBound then .ok (cellNumber col row) else .error .overflow

namespace Mat4

def named {α : Type u} (m : Mat4 α) (c : CellName) : α := m.entry c.col c.row

def setNamed {α : Type u} (m : Mat4 α) (c : CellName) (value : α) : Mat4 α :=
  m.set c.col c.row value

def cell {α : Type u} (m : Mat4 α) (col row : Nat) : Except Fault α :=
  if h : col < 4 ∧ row < 4 then .ok (m.entry ⟨col, h.1⟩ ⟨row, h.2⟩)
  else .error (.cell col row)

theorem cell_of_lt {α : Type u} (m : Mat4 α) (col row : Fin 4) :
    m.cell col row = .ok (m.entry col row) :=
  dif_pos ⟨col.isLt, row.isLt⟩

def setCell {α : Type u} (m : Mat4 α) (col row : Nat) (value : α) : Except Fault (Mat4 α) :=
  if h : col < 4 ∧ row < 4 then .ok (m.set ⟨col, h.1⟩ ⟨row, h.2⟩ value)
  else .error (.cell col row)

theorem setCell_of_lt {α : Type u} (m : Mat4 α) (col row : Fin 4) (value : α) :
    m.setCell col row value = .ok (m.set col row value) :=
  dif_pos ⟨col.isLt, row.isLt⟩

theorem setCell_of_le {α : Type u} (m : Mat4 α) {col row : Nat} (value : α)
    (h : 4 ≤ col ∨ 4 ≤ row) : m.setCell col row value = .error (.cell col row) :=
  dif_neg (by omega)

/-- The cells of one column, read from row 0 on. -/
def column {α : Type u} (m : Mat4 α) (col : Nat) : Except Fault (Quad α) := do
  return ⟨← m.cell col 0, ← m.cell col 1, ← m.cell col 2, ← m.cell col 3⟩

theorem column_of_lt {α : Type u} (m : Mat4 α) (col : Fin 4) : m.column col = .ok (m.col col) := by
  have hx : m.cell col 0 = .ok (m.entry col 0) := cell_of_lt m col 0
  have hy : m.cell col 1 = .ok (m.entry col 1) := cell_of_lt m col 1
  have hz : m.cell col 2 = .ok (m.entry col 2) := cell_of_lt m col 2
  have hw : m.cell col 3 = .ok (m.entry col 3) := cell_of_lt m col 3
  simp only [column, hx, hy, hz, hw]
  rfl

end Mat4

end LaneMatrix
