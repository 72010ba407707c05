import Mathlib.Data.Set.Defs
import LaneMatrix.Interleaved
import LaneMatrix.Proofs.Scalar.Binary

/-!
# Lines of zeros

A row or a column of zeros makes every term of the divisor a zero, and no law of the scalars is
needed to see it: the divisor is computed once more with marks in place of scalars, which tell
only whether a scalar is sure to be a zero. `divisor_mem_of_marks` says that a mark is never
wrong, so what the eight patterns of marks give holds for every matrix with such a line. What is
divided by a zero then spreads to all cells of the inverse, in its own lane and in no other.

A zero is here whatever makes a zero of each product with it. With rounding arithmetic that is
true of the zeros only together with what is not a number, which is what a zero times an infinity
gives.
-/

universe u

namespace LaneMatrix

/-- What is known of a scalar: that it is one of the zeros, or nothing. -/
inductive Mark where
  | zero
  | unknown
  deriving DecidableEq

namespace Mark

/-- A sum or a difference is sure to be a zero if both parts are. -/
def both : Mark → Mark → Mark
  | zero, zero => zero
  | _, _ => unknown

/-- A product is sure to be a zero if one factor is. -/
def either : Mark → Mark → Mark
  | unknown, unknown => unknown
  | _, _ => zero

instance : Add Mark := ⟨both⟩
instance : Sub Mark := ⟨both⟩
instance : Mul Mark := ⟨either⟩

theorem both_eq_zero {m n : Mark} (h : m.both n = zero) : m = zero ∧ n = zero := by
  cases m with
  | unknown => cases h
  | zero =>
    cases n with
    | unknown => cases h
    | zero => exact ⟨rfl, rfl⟩

theorem either_eq_zero {m n : Mark} (h : m.either n = zero) : m = zero ∨ n = zero := by
  cases m with
  | zero => exact .inl rfl
  | unknown =>
    cases n with
    | unknown => cases h
    | zero => exact .inr rfl

end Mark

/-- A set that products do not leave, nor sums and differences within it. -/
class Absorbing {S : Type u} [Add S] [Sub S] [Mul S] (Z : Set S) : Prop where
  mul_left : ∀ {z}, z ∈ Z → ∀ x, z * x ∈ Z
  mul_right : ∀ {z}, z ∈ Z → ∀ x, x * z ∈ Z
  add : ∀ {z z'}, z ∈ Z → z' ∈ Z → z + z' ∈ Z
  sub : ∀ {z z'}, z ∈ Z → z' ∈ Z → z - z' ∈ Z

/-- Dividing one by a scalar of `Z` gives one of `N`, which makes every product one of `N`. -/
structure Poisoning {S : Type u} [Add S] [Sub S] [Mul S] [Div S] [One S] (Z N : Set S) : Prop
    extends Absorbing Z where
  one_div : ∀ {z}, z ∈ Z → 1 / z ∈ N
  mul : ∀ x {y}, y ∈ N → x * y ∈ N

/-- A scalar together with a mark that is true of it. -/
structure Marked {S : Type u} (Z : Set S) where
  value : S
  mark : Mark
  mem_of_mark : mark = .zero → value ∈ Z

namespace Marked

variable {S : Type u} [Add S] [Sub S] [Mul S] {Z : Set S} [Absorbing Z]

instance : Add (Marked Z) where
  add x y := ⟨x.value + y.value, x.mark + y.mark, fun h =>
    Absorbing.add (x.mem_of_mark (Mark.both_eq_zero h).1) (y.mem_of_mark (Mark.both_eq_zero h).2)⟩

instance : Sub (Marked Z) where
  sub x y := ⟨x.value - y.value, x.mark - y.mark, fun h =>
    Absorbing.sub (x.mem_of_mark (Mark.both_eq_zero h).1) (y.mem_of_mark (Mark.both_eq_zero h).2)⟩

instance : Mul (Marked Z) where
  mul x y := ⟨x.value * y.value, x.mark * y.mark, fun h =>
    (Mark.either_eq_zero h).elim (fun hx => Absorbing.mul_left (x.mem_of_mark hx) y.value)
      fun hy => Absorbing.mul_right (y.mem_of_mark hy) x.value⟩

end Marked

namespace Mat4

/-- Marks that are true of the cells give a mark that is true of the divisor. -/
theorem divisor_mem_of_marks {S : Type u} [Add S] [Sub S] [Mul S] {Z : Set S} [Absorbing Z]
    {m : Mat4 S} (marks : Mat4 Mark)
    (hcells : ∀ c r, marks.entry c r = .zero → m.entry c r ∈ Z)
    (hdivisor : marks.divisor = .zero) : m.divisor ∈ Z := by
  -- Both the values and the marks are what a homomorphism makes of the marked matrix.
  let k : Mat4 (Marked Z) := ofFn fun c r => ⟨m.entry c r, marks.entry c r, hcells c r⟩
  have hvalues : k.map Marked.value = m := by
    ext c r
    rw [entry_map, entry_ofFn]
  have hmarks : k.map Marked.mark = marks := by
    ext c r
    rw [entry_map, entry_ofFn]
  have hvalue : k.divisor.value = (k.map Marked.value).divisor :=
    map_divisor Marked.value (fun _ _ => rfl) (fun _ _ => rfl) (fun _ _ => rfl) k
  have hmark : k.divisor.mark = (k.map Marked.mark).divisor :=
    map_divisor Marked.mark (fun _ _ => rfl) (fun _ _ => rfl) (fun _ _ => rfl) k
  rw [hvalues] at hvalue
  rw [hmarks, hdivisor] at hmark
  exact hvalue ▸ k.divisor.mem_of_mark hmark

/-- Zeros on the cells of `line`, and nothing known of the others. -/
def lineMarks (line : Fin 4 → Fin 4 → Bool) : Mat4 Mark :=
  ofFn fun c r => if line c r then .zero else .unknown

theorem divisor_rowMarks : ∀ s, (lineMarks fun _ r => r = s).divisor = .zero := by
  decide +kernel

theorem divisor_columnMarks : ∀ d, (lineMarks fun c _ => c = d).divisor = .zero := by
  decide +kernel

theorem divisor_mem_of_line {S : Type u} [Add S] [Sub S] [Mul S] {Z : Set S} [Absorbing Z]
    {m : Mat4 S} {line : Fin 4 → Fin 4 → Bool} (hline : (lineMarks line).divisor = .zero)
    (h : ∀ c r, line c r → m.entry c r ∈ Z) : m.divisor ∈ Z := by
  refine divisor_mem_of_marks (lineMarks line) ?_ hline
  intro c r hmark
  rw [lineMarks, entry_ofFn] at hmark
  by_cases hcell : line c r
  · exact h c r hcell
  · rw [if_neg hcell] at hmark
    cases hmark

theorem divisor_mem_of_row {S : Type u} [Add S] [Sub S] [Mul S] {Z : Set S} [Absorbing Z]
    {m : Mat4 S} (s : Fin 4) (h : ∀ c, m.entry c s ∈ Z) : m.divisor ∈ Z := by
  apply divisor_mem_of_line (divisor_rowMarks s)
  intro c r hr
  rw [of_decide_eq_true hr]
  exact h c

theorem divisor_mem_of_column {S : Type u} [Add S] [Sub S] [Mul S] {Z : Set S} [Absorbing Z]
    {m : Mat4 S} (d : Fin 4) (h : ∀ r, m.entry d r ∈ Z) : m.divisor ∈ Z := by
  apply divisor_mem_of_line (divisor_columnMarks d)
  intro c r hc
  rw [of_decide_eq_true hc]
  exact h r

theorem entry_inverse_mem {S : Type u} [Add S] [Sub S] [Mul S] [Div S] [One S] {Z N : Set S}
    (h : Poisoning Z N) {m : Mat4 S} (hm : m.divisor ∈ Z) (c r : Fin 4) :
    m.inverse.entry c r ∈ N := by
  rw [entry_inverse]
  exact h.mul _ (h.one_div hm)

end Mat4

/-- With one rounding after each operation, the zeros and what is not a number poison an inverse;
they leave infinities and what is not a number. -/
theorem BinaryScalar.poisoning (S : Type) [Zero S] [One S] [Add S] [Sub S] [Mul S] [Div S]
    [BEq S] [BinaryScalar S] :
    Poisoning {z : S | Binary.ZeroOrNaN (read z)} {y | Binary.InfiniteOrNaN (read y)} where
  mul_left hz x := zeroOrNaN_mul_left hz x
  mul_right hz x := by
    rw [BinaryScalar.mul_comm]
    exact zeroOrNaN_mul_left hz x
  add hz hz' := zeroOrNaN_add hz hz'
  sub hz hz' := zeroOrNaN_sub hz hz'
  one_div hz := infiniteOrNaN_one_div hz
  mul x _ hy := infiniteOrNaN_mul_right x hy

namespace Interleaved

/-- A row or a column of zeros spoils all sixteen cells of the inverse in its lane, whatever the
other cells are, and every other lane is the inverse of its own matrix. -/
theorem lane_inverse_of_zero_line {S : Type u} [Add S] [Sub S] [Mul S] [Div S] [One S]
    {Z N : Set S} (h : Poisoning Z N) {W : Nat} (p : Interleaved S W) (i : Fin W)
    (hline : (∃ r, ∀ c, (p.entry c r).lane i ∈ Z) ∨ ∃ c, ∀ r, (p.entry c r).lane i ∈ Z) :
    (∀ c r, (p.inverse.entry c r).lane i ∈ N) ∧
      ∀ j, j ≠ i → lane p.inverse j = (lane p j).inverse := by
  have := h.toAbsorbing
  have hdivisor : (lane p i).divisor ∈ Z := by
    simp only [← entry_lane] at hline
    rcases hline with ⟨r, hr⟩ | ⟨c, hc⟩
    · exact Mat4.divisor_mem_of_row r hr
    · exact Mat4.divisor_mem_of_column c hc
  constructor
  · intro c r
    rw [← entry_lane, lane_inverse]
    exact Mat4.entry_inverse_mem h hdivisor c r
  · intro j _
    exact lane_inverse p j

/-- The line stands among infinities, a subnormal and the largest finite cell. -/
theorem lane_inverse_beside_identity :
    let m : Mat4 Float32 := ⟨#v[1, 0, Float32.ofBits 0x7f7fffff, 2,
      3, Float32.ofBits 0x80000000, Float32.ofBits 0x7f800000, 4,
      Float32.ofBits 1, Float32.ofBits 0x7fc00000, 5, 6,
      7, 0, 8, Float32.ofBits 0xff800000]⟩
    let p : Interleaved Float32 2 := ofLanes fun i => if i = 0 then Mat4.identity else m
    (∀ c, Binary.ZeroOrNaN (BinaryScalar.read ((p.entry c 1).lane 1))) ∧
      (∀ c r, Binary.InfiniteOrNaN (BinaryScalar.read ((p.inverse.entry c r).lane 1))) ∧
      lane p.inverse 0 = Mat4.identity.inverse := by
  intro m p
  have hzero : Binary.ZeroOrNaN (BinaryScalar.read (0 : Float32)) := .zero .positive
  have hnegative : Binary.ZeroOrNaN (BinaryScalar.read (Float32.ofBits 0x80000000)) :=
    .zero .negative
  have hnan : Binary.ZeroOrNaN (BinaryScalar.read (Float32.ofBits 0x7fc00000)) := .notANumber
  have hcolumns : m.row 1 =
      ⟨0, Float32.ofBits 0x80000000, Float32.ofBits 0x7fc00000, 0⟩ := rfl
  obtain ⟨hx, hy, hz, hw⟩ := Quad.mk.inj hcolumns
  have hrow : ∀ c, Binary.ZeroOrNaN (BinaryScalar.read ((p.entry c 1).lane 1)) := by
    intro c
    rw [← entry_lane, lane_ofLanes, if_neg (by decide)]
    match c with
    | 0 => exact hx ▸ hzero
    | 1 => exact hy ▸ hnegative
    | 2 => exact hz ▸ hnan
    | 3 => exact hw ▸ hzero
  obtain ⟨hcells, hothers⟩ := lane_inverse_of_zero_line (BinaryScalar.poisoning Float32) p 1
    (.inl ⟨1, hrow⟩)
  refine ⟨hrow, hcells, ?_⟩
  rw [hothers 0 (by decide), lane_ofLanes, if_pos rfl]

end Interleaved

end LaneMatrix
