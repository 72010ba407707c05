import LaneMatrix.Program

/-!
# Programs lane by lane

A map between two kinds of units that keeps the constants and the arithmetic is carried through
every command: applied to the registers before a run or after it, it gives the same registers and
the same answers. The projection of `W` lanes to one of them is such a map, so a program never
lets one lane look into another. Commands that fail are part of this: a command fails at every
width or at none, with the same error.
-/

universe u v

namespace LaneMatrix

/-- The map `f` takes the units of one kind to those of another and keeps all that a program
does with them. -/
structure Carries {S : Type u} {α β : Type v} [Add α] [Sub α] [Mul α] [Div α] [Zero α] [One α]
    [Add β] [Sub β] [Mul β] [Div β] [Zero β] [One β]
    (splat : S → α) (splat' : S → β) (f : α → β) : Prop where
  splat_eq : ∀ x, f (splat x) = splat' x
  zero_eq : f 0 = 0
  one_eq : f 1 = 1
  add_eq : ∀ x y, f (x + y) = f x + f y
  sub_eq : ∀ x y, f (x - y) = f x - f y
  mul_eq : ∀ x y, f (x * y) = f x * f y
  div_eq : ∀ x y, f (x / y) = f x / f y

namespace Names

def map {α β : Type v} (f : α → β) (r : Names α) : Names β := fun name => (r name).map f

theorem find_map {α β : Type v} (f : α → β) (r : Names α) :
    (r.map f).find = fun name => f <$> r.find name := by
  funext name
  simp only [find, map]
  cases r name with
  | none => rfl
  | some value => rfl

theorem put_map {α β : Type v} (f : α → β) (r : Names α) (name : String) (value : α) :
    (r.map f).put name (f value) = (r.put name value).map f := by
  funext n
  simp only [put, map]
  by_cases h : n = name
  · rw [if_pos h, if_pos h]
    rfl
  · rw [if_neg h, if_neg h]

theorem keep_map {α β : Type v} (f : α → β) (r : Names α) (into : Option String) (value : α) :
    (r.map f).keep into (f value) = (r.keep into value).map f := by
  cases into with
  | none => rfl
  | some name => exact put_map f r name value

theorem keepQuad_map {α β : Type v} (f : α → β) (r : Names α) (into : Quad (Option String))
    (values : Quad α) :
    (r.map f).keepQuad into (values.map f) = (r.keepQuad into values).map f := by
  simp only [keepQuad, Quad.map, keep_map]

end Names

theorem CommandError.ofFault_map {α β : Type v} (f : α → β) (x : Except Fault α) :
    ofFault (f <$> x) = f <$> ofFault x := by
  cases x with
  | error e => rfl
  | ok value => rfl

theorem Quad.mapM_map {ι : Type u} {α β : Type v} {m : Type v → Type v} [Monad m] [LawfulMonad m]
    (f : α → β) (g : ι → m α) (q : Quad ι) :
    q.mapM (fun x => f <$> g x) = Quad.map f <$> q.mapM g := by
  simp only [mapM, bind_map_left, map_bind, map_pure, Quad.map_mk]

theorem List.mapM_map_right {ι : Type u} {α β : Type v} {m : Type v → Type v} [Monad m]
    [LawfulMonad m] (f : α → β) (g : ι → m α) (xs : List ι) :
    xs.mapM (fun x => f <$> g x) = List.map f <$> xs.mapM g := by
  induction xs with
  | nil => simp only [List.mapM_nil, map_pure, List.map_nil]
  | cons x xs ih =>
    simp only [List.mapM_cons, ih, bind_map_left, map_bind, map_pure, List.map_cons]

theorem Vector.mapM_map_right {ι : Type u} {α β : Type v} {m : Type v → Type v} [Monad m]
    [LawfulMonad m] {n : Nat} (f : α → β) (g : ι → m α) (xs : Vector ι n) :
    xs.mapM (fun x => f <$> g x) = Vector.map f <$> xs.mapM g := by
  apply Vector.map_toArray_inj.mp
  calc Vector.toArray <$> xs.mapM (fun x => f <$> g x)
    _ = List.toArray <$> (List.map f <$> xs.toArray.toList.mapM g) := by
      rw [Vector.toArray_mapM, Array.mapM_eq_mapM_toList, List.mapM_map_right]
    _ = (fun ys : Array α => ys.map f) <$> (List.toArray <$> xs.toArray.toList.mapM g) := by
      simp only [Functor.map_map, List.map_toArray]
    _ = (fun ys : Array α => ys.map f) <$> (Vector.toArray <$> xs.mapM g) := by
      rw [Vector.toArray_mapM, Array.mapM_eq_mapM_toList]
    _ = Vector.toArray <$> (Vector.map f <$> xs.mapM g) := by
      simp only [Functor.map_map, Vector.toArray_map]

namespace Mat4

theorem set_map {α β : Type v} (f : α → β) (m : Mat4 α) (c r : Fin 4) (value : α) :
    (m.map f).set c r (f value) = (m.set c r value).map f := by
  ext d s
  rw [entry_map, entry_set, entry_set, entry_map]
  by_cases h : c = d ∧ r = s
  · rw [if_pos h, if_pos h]
  · rw [if_neg h, if_neg h]

theorem zero_map {α β : Type v} [Zero α] [Zero β] (f : α → β) (h : f 0 = 0) :
    (0 : Mat4 α).map f = 0 := by
  ext c r
  rw [entry_map, entry_zero, entry_zero, h]

theorem diagonal_map {α β : Type v} [Zero α] [Zero β] (f : α → β) (h : f 0 = 0) (x y z w : α) :
    (diagonal x y z w).map f = diagonal (f x) (f y) (f z) (f w) := by
  rw [diagonal, diagonal, ← set_map, ← set_map, ← set_map, ← set_map, zero_map f h]

theorem ofColumns_map {α β : Type v} (f : α → β) (cols : Quad (Quad α)) :
    (ofColumns cols).map f = ofColumns (cols.map fun col => col.map f) := by
  ext c r
  rw [entry_map, entry_ofColumns, entry_ofColumns, Quad.get_map, Quad.get_map]

theorem transpose_map {α β : Type v} (f : α → β) (m : Mat4 α) :
    m.transpose.map f = (m.map f).transpose := by
  ext c r
  rw [entry_map, entry_transpose, entry_transpose, entry_map]

theorem cell_map {α β : Type v} (f : α → β) (m : Mat4 α) (col row : Nat) :
    (m.map f).cell col row = f <$> m.cell col row := by
  by_cases h : col < 4 ∧ row < 4
  · rw [cell, cell, dif_pos h, dif_pos h, entry_map]
    rfl
  · rw [cell, cell, dif_neg h, dif_neg h]
    rfl

theorem setCell_map {α β : Type v} (f : α → β) (m : Mat4 α) (col row : Nat) (value : α) :
    (m.map f).setCell col row (f value) = map f <$> m.setCell col row value := by
  by_cases h : col < 4 ∧ row < 4
  · rw [setCell, setCell, dif_pos h, dif_pos h, set_map]
    rfl
  · rw [setCell, setCell, dif_neg h, dif_neg h]
    rfl

theorem column_map {α β : Type v} (f : α → β) (m : Mat4 α) (col : Nat) :
    (m.map f).column col = Quad.map f <$> m.column col := by
  simp only [column, cell_map, bind_map_left, map_bind, map_pure, Quad.map_mk]

end Mat4

def Registers.map {α β : Type v} (f : α → β) (r : Registers α) : Registers β :=
  ⟨r.lanes.map f, r.matrices.map fun m => m.map f⟩

def Value.map {α β : Type v} (f : α → β) : Value α → Value β
  | lanes p => .lanes (f p)
  | matrix m => .matrix (m.map f)
  | column cells => .column (cells.map f)

section Run

variable {S : Type u} {α β : Type v} [Add α] [Sub α] [Mul α] [Div α] [Zero α] [One α]
  [Add β] [Sub β] [Mul β] [Div β] [Zero β] [One β]
  {splat : S → α} {splat' : S → β} {f : α → β}

theorem Arith.apply_map (h : Carries splat splat' f) (op : Arith) (x y : α) :
    op.apply (f x) (f y) = f (op.apply x y) := by
  cases op with
  | add => exact (h.add_eq x y).symm
  | sub => exact (h.sub_eq x y).symm
  | mul => exact (h.mul_eq x y).symm
  | div => exact (h.div_eq x y).symm

theorem LaneTerm.eval_map (h : Carries splat splat' f) (r : Registers α) (t : LaneTerm S) :
    t.eval splat' (r.map f) = f <$> t.eval splat r := by
  cases t with
  | splat value => exact congrArg Except.ok (h.splat_eq value).symm
  | zero => exact congrArg Except.ok h.zero_eq.symm
  | one => exact congrArg Except.ok h.one_eq.symm
  | arith op a b =>
    simp only [eval, Registers.map, Names.find_map, bind_map_left, map_bind, map_pure,
      Arith.apply_map h]
  | mulAdd a m c =>
    simp only [eval, Registers.map, Names.find_map, bind_map_left, map_bind, map_pure,
      h.add_eq, h.mul_eq]
  | named m c =>
    simp only [eval, Registers.map, Names.find_map, bind_map_left, map_bind, map_pure,
      Mat4.named, Mat4.entry_map]
  | cell m col row =>
    simp only [eval, Registers.map, Names.find_map, bind_map_left, map_bind, Mat4.cell_map,
      CommandError.ofFault_map]

theorem MatrixTerm.eval_map (h : Carries splat splat' f) (r : Registers α) (t : MatrixTerm S) :
    t.eval splat' (r.map f) = Mat4.map f <$> t.eval splat r := by
  cases t with
  | identity =>
    refine congrArg Except.ok ?_
    rw [Mat4.identity, Mat4.identity, Mat4.diagonal_map f h.zero_eq, h.one_eq]
  | zero => exact congrArg Except.ok (Mat4.zero_map f h.zero_eq).symm
  | diagonal names =>
    simp only [eval, Registers.map, Names.find_map, Quad.mapM_map, bind_map_left, map_bind, map_pure,
      Mat4.diagonal_map f h.zero_eq, Quad.map]
  | splat m =>
    refine congrArg Except.ok ?_
    ext c r
    rw [Mat4.entry_map, Mat4.entry_map, Mat4.entry_map, h.splat_eq]
  | ofCells names =>
    simp only [eval, Registers.map, Names.find_map, Vector.mapM_map_right, bind_map_left, map_bind,
      map_pure, Mat4.map]
  | ofColumns names =>
    simp only [eval, Registers.map, Names.find_map, Quad.mapM_map, bind_map_left, map_bind,
      map_pure, Mat4.ofColumns_map]
  | same m => simp only [eval, Registers.map, Names.find_map]
  | transpose m =>
    simp only [eval, Registers.map, Names.find_map, bind_map_left, map_bind, map_pure,
      Mat4.transpose_map]
  | inverse m =>
    simp only [eval, Registers.map, Names.find_map, bind_map_left, map_bind, map_pure,
      Mat4.map_inverse f h.one_eq h.add_eq h.sub_eq h.mul_eq h.div_eq]
  | multiply a b =>
    simp only [eval, Registers.map, Names.find_map, bind_map_left, map_bind, map_pure,
      Mat4.map_multiply f h.add_eq h.mul_eq]

/-- One command, failures included. -/
theorem Command.run_map (h : Carries splat splat' f) (r : Registers α) (c : Command S) :
    c.run splat' (r.map f) = Prod.map (Value.map f) (Registers.map f) <$> c.run splat r := by
  cases c with
  | lanes term into =>
    simp only [run, LaneTerm.eval_map h, bind_map_left, map_bind, map_pure]
    simp only [Registers.map, Prod.map, Value.map, Names.keep_map]
  | matrix term into =>
    simp only [run, MatrixTerm.eval_map h, bind_map_left, map_bind, map_pure]
    simp only [Registers.map, Prod.map, Value.map, Names.keep_map]
  | setNamed name c a =>
    simp only [run, Registers.map, Names.find_map, bind_map_left, map_bind, map_pure, Prod.map,
      Value.map, Mat4.setNamed, Mat4.set_map, Names.put_map]
  | setCell name col row a =>
    simp only [run, Registers.map, Names.find_map, bind_map_left, map_bind, map_pure, Prod.map,
      Value.map, Mat4.setCell_map, CommandError.ofFault_map, Names.put_map]
  | column name col into =>
    simp only [run, Registers.map, Names.find_map, bind_map_left, map_bind, map_pure, Prod.map,
      Value.map, Mat4.column_map, CommandError.ofFault_map, Names.keepQuad_map]

/-- A whole program, where a failing command is answered by its error and skipped. -/
theorem Registers.run_map (h : Carries splat splat' f) (program : List (Command S))
    (r : Registers α) :
    (r.map f).run splat' program =
      ((r.run splat program).1.map fun answer => Value.map f <$> answer,
        (r.run splat program).2.map f) := by
  induction program generalizing r with
  | nil => rfl
  | cons c cs ih =>
    rw [run, run, Command.run_map h]
    cases hc : c.run splat r with
    | error e =>
      -- The registers are as they were, so the rest of the program starts from the same ones.
      change (Except.error e :: ((r.map f).run splat' cs).1, ((r.map f).run splat' cs).2) = _
      rw [ih r]
      rfl
    | ok result =>
      obtain ⟨value, next⟩ := result
      change (Except.ok (value.map f) :: ((next.map f).run splat' cs).1,
        ((next.map f).run splat' cs).2) = _
      rw [ih next]
      rfl

end Run

namespace Lanes

/-- One lane as a unit of its own. -/
def alone {S : Type u} {W : Nat} (i : Fin W) (p : Lanes S W) : Lanes S 1 := ofFn fun _ => p.lane i

theorem carries_lane {S : Type u} [Add S] [Sub S] [Mul S] [Div S] [Zero S] [One S] {W : Nat}
    (i : Fin W) : Carries Lanes.splat id fun p : Lanes S W => p.lane i where
  splat_eq := fun x => lane_splat x i
  zero_eq := lane_zero i
  one_eq := lane_one i
  add_eq := fun x y => lane_add x y i
  sub_eq := fun x y => lane_sub x y i
  mul_eq := fun x y => lane_mul x y i
  div_eq := fun x y => lane_div x y i

theorem carries_alone {S : Type u} [Add S] [Sub S] [Mul S] [Div S] [Zero S] [One S] {W : Nat}
    (i : Fin W) : Carries Lanes.splat Lanes.splat (alone i : Lanes S W → Lanes S 1) := by
  constructor <;> intros <;> ext j <;> simp [alone]

end Lanes

/-- No lane of a program looks into another. A run at any width, seen in lane `i`, is the run at
width one on lane `i` of the registers; and what two runs have in lane `i` at the end is the same
if it was the same at the start, whatever zero divisors and singular matrices the other lanes
hold. -/
theorem Registers.run_lanewise {S : Type u} [Add S] [Sub S] [Mul S] [Div S] [Zero S] [One S]
    {W : Nat} (i : Fin W) (program : List (Command S)) :
    (∀ r : Registers (Lanes S W),
      (r.map (Lanes.alone i)).run Lanes.splat program =
        ((r.run Lanes.splat program).1.map fun answer => Value.map (Lanes.alone i) <$> answer,
          (r.run Lanes.splat program).2.map (Lanes.alone i))) ∧
    ∀ r r' : Registers (Lanes S W),
      (r.map fun p => p.lane i) = (r'.map fun p => p.lane i) →
        ((r.run Lanes.splat program).1.map fun answer => Value.map (fun p => p.lane i) <$> answer) =
          ((r'.run Lanes.splat program).1.map fun answer =>
            Value.map (fun p => p.lane i) <$> answer) ∧
        ((r.run Lanes.splat program).2.map fun p => p.lane i) =
          ((r'.run Lanes.splat program).2.map fun p => p.lane i) := by
  constructor
  · intro r
    exact run_map (Lanes.carries_alone i) program r
  · intro r r' h
    have hr := run_map (Lanes.carries_lane i) program r
    have hr' := run_map (Lanes.carries_lane i) program r'
    rw [h, hr'] at hr
    exact ⟨(congrArg Prod.fst hr).symm, (congrArg Prod.snd hr).symm⟩

/-- The first lane divides by zero in one run and inverts a singular matrix in the other. -/
theorem Registers.run_lanewise_beside_zero :
    let program : List (Command Float32) :=
      [.lanes (.arith .div "a" "b") (some "c"), .matrix (.diagonal ⟨"a", "b", "c", "c"⟩) (some "m"),
        .matrix (.inverse "m") none]
    let start (x y : Float32) : Registers (Lanes Float32 2) :=
      ⟨(Names.empty.put "a" ⟨#v[x, 1]⟩).put "b" ⟨#v[y, 1]⟩, Names.empty⟩
    ((start 5 0).map fun p => p.lane 1) = ((start 0 7).map fun p => p.lane 1) ∧
      (((start 5 0).run Lanes.splat program).1.map fun answer =>
          Value.map (fun p => p.lane 1) <$> answer) =
        (((start 0 7).run Lanes.splat program).1.map fun answer =>
          Value.map (fun p => p.lane 1) <$> answer) := by
  intro program start
  have h : ((start 5 0).map fun p => p.lane 1) = ((start 0 7).map fun p => p.lane 1) := by
    simp only [start, map, ← Names.put_map]
    rfl
  exact ⟨h, ((run_lanewise 1 program).2 _ _ h).1⟩

end LaneMatrix
