import LaneMatrix.Quad

/-!
# Matrices of four columns

The sixteen cells stand column after column, so that cell `(col, row)` has the number
`col * 4 + row`. The cells are of any type: scalars for a single matrix, lanes for several
matrices side by side. `Mat4.entry` is the view that every other operation is described through.
Cell `(j, r)` of a product is row `r` of the left factor times column `j` of the right factor:
four products taken in order and added from the left. No law of the cells is used, and with
rounding arithmetic the order is part of the result.
-/

universe u v

namespace LaneMatrix

/-- The number of a cell, also for columns and rows that no matrix has. -/
def cellNumber (col row : Nat) : Nat := col * 4 + row

structure Mat4 (α : Type u) where
  cells : Vector α 16
  deriving DecidableEq

namespace Mat4

/-- The cell of the given number. -/
def cellAt {α : Type u} (m : Mat4 α) (k : Fin 16) : α := m.cells.get k

theorem cellAt_eq_getElem {α : Type u} (m : Mat4 α) (k : Fin 16) :
    m.cellAt k = m.cells[k.val] := rfl

def setCellAt {α : Type u} (m : Mat4 α) (k : Fin 16) (value : α) : Mat4 α :=
  ⟨m.cells.set k value⟩

def ofCells {α : Type u} (f : Fin 16 → α) : Mat4 α := ⟨Vector.ofFn f⟩

@[simp] theorem cellAt_ofCells {α : Type u} (f : Fin 16 → α) (k : Fin 16) :
    (ofCells f).cellAt k = f k := by
  simp [cellAt_eq_getElem, ofCells]

theorem cellAt_setCellAt {α : Type u} (m : Mat4 α) (k l : Fin 16) (value : α) :
    (m.setCellAt k value).cellAt l = if k = l then value else m.cellAt l := by
  simp only [cellAt_eq_getElem, setCellAt, Vector.getElem_set, Fin.ext_iff]

theorem ext_cellAt {α : Type u} {m n : Mat4 α} (h : ∀ k, m.cellAt k = n.cellAt k) : m = n := by
  cases m with
  | mk xs =>
    cases n with
    | mk ys =>
      congr 1
      apply Vector.ext
      intro i hi
      exact h ⟨i, hi⟩

def position (col row : Fin 4) : Fin 16 := ⟨cellNumber col row, by simp only [cellNumber]; omega⟩

def columnOf (k : Fin 16) : Fin 4 := ⟨k / 4, by omega⟩

def rowOf (k : Fin 16) : Fin 4 := ⟨k % 4, by omega⟩

@[simp] theorem columnOf_position (col row : Fin 4) : columnOf (position col row) = col := by
  apply Fin.ext
  simp only [columnOf, position, cellNumber]
  omega

@[simp] theorem rowOf_position (col row : Fin 4) : rowOf (position col row) = row := by
  apply Fin.ext
  simp only [rowOf, position, cellNumber]
  omega

@[simp] theorem position_columnOf_rowOf (k : Fin 16) : position (columnOf k) (rowOf k) = k := by
  apply Fin.ext
  simp only [columnOf, rowOf, position, cellNumber]
  omega

theorem position_inj {c d r s : Fin 4} : position c r = position d s ↔ c = d ∧ r = s := by
  constructor
  · intro h
    constructor
    · rw [← columnOf_position c r, h, columnOf_position]
    · rw [← rowOf_position c r, h, rowOf_position]
  · rintro ⟨rfl, rfl⟩
    rfl

def entry {α : Type u} (m : Mat4 α) (col row : Fin 4) : α := m.cellAt (position col row)

theorem getElem?_cells {α : Type u} (m : Mat4 α) (col row : Fin 4) :
    m.cells[4 * col.val + row.val]? = some (m.entry col row) := by
  have hnumber : 4 * col.val + row.val = (position col row).val := by
    simp only [position, cellNumber]
    omega
  rw [hnumber]
  exact Vector.getElem?_eq_getElem (position col row).isLt

def ofFn {α : Type u} (f : Fin 4 → Fin 4 → α) : Mat4 α := ofCells fun k => f (columnOf k) (rowOf k)

@[simp] theorem entry_ofFn {α : Type u} (f : Fin 4 → Fin 4 → α) (col row : Fin 4) :
    (ofFn f).entry col row = f col row := by
  simp only [entry, ofFn, cellAt_ofCells, columnOf_position, rowOf_position]

theorem cellAt_eq_entry {α : Type u} (m : Mat4 α) (k : Fin 16) :
    m.cellAt k = m.entry (columnOf k) (rowOf k) := by
  rw [entry, position_columnOf_rowOf]

@[ext] theorem ext {α : Type u} {m n : Mat4 α}
    (h : ∀ col row, m.entry col row = n.entry col row) : m = n := by
  apply ext_cellAt
  intro k
  rw [cellAt_eq_entry, cellAt_eq_entry, h]

@[simp] theorem ofFn_entry {α : Type u} (m : Mat4 α) : ofFn (fun c r => m.entry c r) = m :=
  ext fun _ _ => entry_ofFn _ _ _

def set {α : Type u} (m : Mat4 α) (col row : Fin 4) (value : α) : Mat4 α :=
  m.setCellAt (position col row) value

theorem entry_set {α : Type u} (m : Mat4 α) (c r d s : Fin 4) (value : α) :
    (m.set c r value).entry d s = if c = d ∧ r = s then value else m.entry d s := by
  simp only [entry, set, cellAt_setCellAt, position_inj]

def map {α : Type u} {β : Type v} (f : α → β) (m : Mat4 α) : Mat4 β := ⟨m.cells.map f⟩

@[simp] theorem cellAt_map {α : Type u} {β : Type v} (f : α → β) (m : Mat4 α) (k : Fin 16) :
    (m.map f).cellAt k = f (m.cellAt k) := by
  simp [cellAt_eq_getElem, map]

@[simp] theorem entry_map {α : Type u} {β : Type v} (f : α → β) (m : Mat4 α) (c r : Fin 4) :
    (m.map f).entry c r = f (m.entry c r) :=
  cellAt_map f m _

def replicate {α : Type u} (x : α) : Mat4 α := ⟨Vector.replicate 16 x⟩

@[simp] theorem entry_replicate {α : Type u} (x : α) (c r : Fin 4) :
    (replicate x).entry c r = x := by
  simp [entry, cellAt_eq_getElem, replicate]

/-- The entries of one column. -/
def col {α : Type u} (m : Mat4 α) (c : Fin 4) : Quad α :=
  ⟨m.entry c 0, m.entry c 1, m.entry c 2, m.entry c 3⟩

/-- The entries of one row. -/
def row {α : Type u} (m : Mat4 α) (r : Fin 4) : Quad α :=
  ⟨m.entry 0 r, m.entry 1 r, m.entry 2 r, m.entry 3 r⟩

theorem get_col {α : Type u} (m : Mat4 α) (c : Fin 4) : ∀ r, (m.col c).get r = m.entry c r
  | 0 => rfl
  | 1 => rfl
  | 2 => rfl
  | 3 => rfl

theorem get_row {α : Type u} (m : Mat4 α) (r : Fin 4) : ∀ c, (m.row r).get c = m.entry c r
  | 0 => rfl
  | 1 => rfl
  | 2 => rfl
  | 3 => rfl

theorem row_map {α : Type u} {β : Type v} (f : α → β) (m : Mat4 α) (r : Fin 4) :
    (m.map f).row r = (m.row r).map f := by
  simp only [row, Quad.map, entry_map]

def ofColumns {α : Type u} (cols : Quad (Quad α)) : Mat4 α := ofFn fun c r => (cols.get c).get r

@[simp] theorem entry_ofColumns {α : Type u} (cols : Quad (Quad α)) (c r : Fin 4) :
    (ofColumns cols).entry c r = (cols.get c).get r :=
  entry_ofFn _ _ _

/-- The columns of a matrix, put together again. -/
theorem ofColumns_col {α : Type u} (m : Mat4 α) :
    ofColumns ⟨m.col 0, m.col 1, m.col 2, m.col 3⟩ = m := by
  ext c r
  rw [entry_ofColumns, ← get_col m c r]
  match c with
  | 0 => rfl
  | 1 => rfl
  | 2 => rfl
  | 3 => rfl

instance {α : Type u} [Zero α] : Zero (Mat4 α) := ⟨replicate 0⟩

@[simp] theorem entry_zero {α : Type u} [Zero α] (c r : Fin 4) : (0 : Mat4 α).entry c r = 0 :=
  entry_replicate 0 c r

def diagonal {α : Type u} [Zero α] (x y z w : α) : Mat4 α :=
  ((((0 : Mat4 α).set 0 0 x).set 1 1 y).set 2 2 z).set 3 3 w

def identity {α : Type u} [Zero α] [One α] : Mat4 α := diagonal 1 1 1 1

theorem entry_identity {α : Type u} [Zero α] [One α] (c r : Fin 4) :
    (identity : Mat4 α).entry c r = if c = r then 1 else 0 := by
  simp only [identity, diagonal, entry_set, entry_zero]
  revert c r
  simp [Fin.forall_fin_succ]

instance {α : Type u} [Zero α] [One α] : Inhabited (Mat4 α) := ⟨identity⟩

def transpose {α : Type u} (m : Mat4 α) : Mat4 α := ofFn fun c r => m.entry r c

@[simp] theorem entry_transpose {α : Type u} (m : Mat4 α) (c r : Fin 4) :
    m.transpose.entry c r = m.entry r c :=
  entry_ofFn _ _ _

def multiply {α : Type u} [Add α] [Mul α] (a b : Mat4 α) : Mat4 α :=
  ofFn fun j r => (a.row r).dot (b.col j)

instance {α : Type u} [Add α] [Mul α] : Mul (Mat4 α) := ⟨multiply⟩

theorem entry_multiply {α : Type u} [Add α] [Mul α] (a b : Mat4 α) (j r : Fin 4) :
    (a.multiply b).entry j r =
      a.entry 0 r * b.entry j 0 + a.entry 1 r * b.entry j 1 +
        a.entry 2 r * b.entry j 2 + a.entry 3 r * b.entry j 3 :=
  entry_ofFn _ _ _

/-- A map that keeps sums and products of cells keeps products of matrices. -/
theorem map_multiply {α : Type u} {β : Type v} [Add α] [Mul α] [Add β] [Mul β] (f : α → β)
    (hadd : ∀ x y, f (x + y) = f x + f y) (hmul : ∀ x y, f (x * y) = f x * f y) (a b : Mat4 α) :
    (a.multiply b).map f = (a.map f).multiply (b.map f) := by
  ext j r
  simp only [entry_map, entry_multiply, hadd, hmul]

/-- Equal when all cells are, by the comparison of the cells. -/
instance {α : Type u} [BEq α] : BEq (Mat4 α) := ⟨fun m n => m.cells == n.cells⟩

end Mat4

end LaneMatrix
