import LaneMatrix.Interleaved.Gather

/-!
# Writing and reading single cells

A cell is written by its name or by a column and a row, and read in five ways: by name, by column
and row, within its column, by its number, and lane by lane. All of them number the cells column
after column, so after any run of writes each of them finds the value that was last written there.
A column or a row that no matrix has is refused before anything is written, also where the number
of the cell would be in range. Since a result cannot show what a fault leaves behind, this is said
of a matrix that is changed in place, by writes that go on after a fault.
-/

universe u

namespace LaneMatrix

namespace CellName

/-- The name of the cell in a column and a row. -/
def ofPosition (col row : Fin 4) : CellName := all.get (Mat4.position col row)

theorem col_ofPosition (col row : Fin 4) : (ofPosition col row).col = col := by
  revert col row
  decide

theorem row_ofPosition (col row : Fin 4) : (ofPosition col row).row = row := by
  revert col row
  decide

theorem ofPosition_col_row (c : CellName) : ofPosition c.col c.row = c := by
  cases c <;> rfl

/-- A name spells its column by a digit and its row by a letter. -/
theorem text_ofPosition (col row : Fin 4) :
    (ofPosition col row).text =
      "c" ++ toString col.val ++ (⟨"x", "y", "z", "w"⟩ : Quad String).get row := by
  revert col row
  decide +kernel

end CellName

namespace Mat4

theorem named_ofPosition {α : Type u} (m : Mat4 α) (col row : Fin 4) :
    m.named (CellName.ofPosition col row) = m.entry col row := by
  rw [named, CellName.col_ofPosition, CellName.row_ofPosition]

end Mat4

/-- A write to one cell, by its name or by a column and a row that may be out of range. -/
inductive CellWrite (α : Type u) where
  | named (name : CellName) (value : α)
  | placed (col row : Nat) (value : α)

namespace CellWrite

/-- Why a write is refused, if it is. -/
def fault? {α : Type u} : CellWrite α → Option Fault
  | named _ _ => none
  | placed col row _ => if 4 ≤ col ∨ 4 ≤ row then some (.cell col row) else none

/-- What a write brings to a cell, if that is the cell it is for. -/
def valueAt? {α : Type u} (c r : Fin 4) : CellWrite α → Option α
  | named name value => if name.col = c ∧ name.row = r then some value else none
  | placed col row value => if col = c.val ∧ row = r.val then some value else none

/-- What is last brought to a cell by any of the writes. -/
def last? {α : Type u} (ws : List (CellWrite α)) (c r : Fin 4) : Option α :=
  (ws.filterMap (valueAt? c r)).getLast?

/-- A write to a matrix in place: the fault, if there is one, and the matrix as it is then. -/
def inPlace {α : Type u} (m : Mat4 α) : CellWrite α → Option Fault × Mat4 α
  | named name value => (none, m.setNamed name value)
  | placed col row value =>
    match m.setCell col row value with
    | .ok n => (none, n)
    | .error f => (some f, m)

/-- Writes one after the other, also those that come after a fault. -/
def run {α : Type u} (m : Mat4 α) : List (CellWrite α) → List (Option Fault) × Mat4 α
  | [] => ([], m)
  | w :: ws =>
    let rest := run (w.inPlace m).2 ws
    ((w.inPlace m).1 :: rest.1, rest.2)

theorem inPlace_of_ok {α : Type u} {m n : Mat4 α} {col row : Nat} {value : α}
    (h : m.setCell col row value = .ok n) : (placed col row value).inPlace m = (none, n) := by
  simp only [inPlace, h]

theorem inPlace_of_error {α : Type u} {m : Mat4 α} {col row : Nat} {value : α} {f : Fault}
    (h : m.setCell col row value = .error f) : (placed col row value).inPlace m = (some f, m) := by
  simp only [inPlace, h]

/-- All that a write can do: it is refused and changes nothing, or it sets one cell. -/
theorem inPlace_cases {α : Type u} (m : Mat4 α) (w : CellWrite α) :
    (∃ f, w.fault? = some f ∧ w.inPlace m = (some f, m) ∧ ∀ c r, w.valueAt? c r = none) ∨
    ∃ c r value, w.fault? = none ∧ w.inPlace m = (none, m.set c r value) ∧
      ∀ d s, w.valueAt? d s = if c = d ∧ r = s then some value else none := by
  cases w with
  | named name value => exact .inr ⟨name.col, name.row, value, rfl, rfl, fun _ _ => rfl⟩
  | placed col row value =>
    by_cases hout : 4 ≤ col ∨ 4 ≤ row
    · refine .inl ⟨.cell col row, if_pos hout, inPlace_of_error (m.setCell_of_le value hout), ?_⟩
      intro c r
      exact if_neg (by omega)
    · have hset := m.setCell_of_lt ⟨col, by omega⟩ ⟨row, by omega⟩ value
      refine .inr ⟨_, _, value, if_neg hout, inPlace_of_ok hset, ?_⟩
      intro d s
      simp only [valueAt?, Fin.ext_iff]

/-- Row 7 of column 0 is refused, though there is a cell of that number. -/
example (m : Mat4 Nat) :
    cellNumber 0 7 < 16 ∧ (placed 0 7 1).inPlace m = (some (.cell 0 7), m) := ⟨by decide, rfl⟩

theorem fault_inPlace {α : Type u} (m : Mat4 α) (w : CellWrite α) :
    (w.inPlace m).1 = w.fault? := by
  rcases inPlace_cases m w with ⟨f, hf, hw, -⟩ | ⟨c, r, value, hf, hw, -⟩
  · rw [hf, hw]
  · rw [hf, hw]

theorem entry_inPlace {α : Type u} (m : Mat4 α) (w : CellWrite α) (c r : Fin 4) :
    (w.inPlace m).2.entry c r = (w.valueAt? c r).getD (m.entry c r) := by
  rcases inPlace_cases m w with ⟨f, -, hw, hnone⟩ | ⟨d, s, value, -, hw, hvalue⟩
  · rw [hw, hnone, Option.getD_none]
  · rw [hw, hvalue, Mat4.entry_set]
    split <;> rfl

theorem faults_run {α : Type u} (m : Mat4 α) (ws : List (CellWrite α)) :
    (run m ws).1 = ws.map fault? := by
  induction ws generalizing m with
  | nil => rfl
  | cons w ws ih => rw [run, List.map_cons, fault_inPlace, ih]

theorem last?_cons {α : Type u} (w : CellWrite α) (ws : List (CellWrite α)) (c r : Fin 4) :
    last? (w :: ws) c r = (last? ws c r).or (w.valueAt? c r) := by
  simp only [last?, List.filterMap_cons]
  cases w.valueAt? c r with
  | none => exact Option.or_none.symm
  | some value =>
    rw [List.getLast?_cons]
    cases (ws.filterMap (valueAt? c r)).getLast? <;> rfl

/-- A cell holds what was last brought to it, or what it held at the start. -/
theorem entry_run {α : Type u} (m : Mat4 α) (ws : List (CellWrite α)) (c r : Fin 4) :
    (run m ws).2.entry c r = (last? ws c r).getD (m.entry c r) := by
  induction ws generalizing m with
  | nil => rfl
  | cons w ws ih =>
    rw [run, ih, entry_inPlace, last?_cons]
    cases last? ws c r <;> rfl

end CellWrite

namespace Interleaved

/-- A matrix in every lane is gathered from copies of it, one for each lane. -/
theorem ofMatrices_replicate {S : Type u} [Zero S] (W : Nat) (m : Mat4 S) :
    ofMatrices W (Array.replicate W m) = .ok (splat W m) := by
  rw [ofMatrices_of_size Array.size_replicate]
  refine congrArg Except.ok (ext_lane fun i => ?_)
  simp [lane_ofLanes, lane_splat]

/-- After any writes to interleaved matrices, by name or by column and row, the five ways of
reading a cell agree on the value that was last written to it, or on that of the start. Just those
writes are refused whose column or row is not there, and they change nothing. Matrices can be taken
apart into cells or columns and put together again, and the same matrix in every lane is what is
gathered from copies of it. -/
theorem cells_hold_last_written {S : Type u} [Zero S] {W : Nat} (start : Interleaved S W)
    (ws : List (CellWrite (Lanes S W))) :
    (∀ (m : Interleaved S W) (col row : Nat) (value : Lanes S W),
      if 4 ≤ col ∨ 4 ≤ row then
        m.setCell col row value = .error (.cell col row) ∧
          (CellWrite.placed col row value).inPlace m = (some (.cell col row), m)
      else
        ∃ n, m.setCell col row value = .ok n ∧
          (CellWrite.placed col row value).inPlace m = (none, n)) ∧
    (CellWrite.run start ws).1 = ws.map CellWrite.fault? ∧
    (∀ name : CellName, CellName.ofPosition name.col name.row = name) ∧
    (∀ col row : Fin 4,
      let final := (CellWrite.run start ws).2
      let name := CellName.ofPosition col row
      let value := (CellWrite.last? ws col row).getD (start.entry col row)
      (name.col = col ∧ name.row = row ∧
        name.text = "c" ++ toString col.val ++ (⟨"x", "y", "z", "w"⟩ : Quad String).get row) ∧
      final.named name = value ∧ final.cell col row = .ok value ∧
      (∃ cells, final.column col = .ok cells ∧ cells.get row = value) ∧
      final.cells[4 * col.val + row.val]? = some value ∧
      ∀ i : Fin W, ∃ n, laneMatrix final i = .ok n ∧
        n.cells[4 * col.val + row.val]? = some (value.lane i)) ∧
    (∀ m : Interleaved S W, (⟨m.cells⟩ : Interleaved S W) = m ∧
      ∃ x y z w, m.column 0 = .ok x ∧ m.column 1 = .ok y ∧ m.column 2 = .ok z ∧
        m.column 3 = .ok w ∧ Mat4.ofColumns ⟨x, y, z, w⟩ = m) ∧
    ∀ m : Mat4 S, ofMatrices W (Array.replicate W m) = .ok (splat W m) := by
  refine ⟨?_, CellWrite.faults_run start ws, CellName.ofPosition_col_row, ?_, ?_,
    ofMatrices_replicate W⟩
  · intro m col row value
    by_cases hout : 4 ≤ col ∨ 4 ≤ row
    · rw [if_pos hout]
      have hset := Mat4.setCell_of_le m value hout
      exact ⟨hset, CellWrite.inPlace_of_error hset⟩
    · rw [if_neg hout]
      have hset := Mat4.setCell_of_lt m ⟨col, by omega⟩ ⟨row, by omega⟩ value
      exact ⟨_, hset, CellWrite.inPlace_of_ok hset⟩
  · intro col row final name value
    have hentry : final.entry col row = value := CellWrite.entry_run start ws col row
    refine ⟨⟨CellName.col_ofPosition col row, CellName.row_ofPosition col row,
      CellName.text_ofPosition col row⟩, ?_, ?_, ⟨final.col col, ?_, ?_⟩, ?_, ?_⟩
    · rw [Mat4.named_ofPosition, hentry]
    · rw [Mat4.cell_of_lt, hentry]
    · exact Mat4.column_of_lt final col
    · rw [Mat4.get_col, hentry]
    · rw [Mat4.getElem?_cells, hentry]
    · intro i
      refine ⟨lane final i, dif_pos i.isLt, ?_⟩
      rw [Mat4.getElem?_cells, entry_lane, hentry]
  · intro m
    exact ⟨rfl, m.col 0, m.col 1, m.col 2, m.col 3, Mat4.column_of_lt m 0, Mat4.column_of_lt m 1,
      Mat4.column_of_lt m 2, Mat4.column_of_lt m 3, Mat4.ofColumns_col m⟩

end Interleaved

end LaneMatrix
