import LaneMatrix.Failure

/-!
# Scratch buffers

Moving matrices between lanes and lists goes through a scratch buffer that is handed on from step
to step and never cleared. What a step leaves in it must not matter to the next one: a step may
write into the first `W` places, and each result depends on what the step itself has written.
-/

universe u v

namespace LaneMatrix

/-- A step that uses a scratch buffer and may end in a fault. -/
abbrev WithScratch (S : Type u) (α : Type u) := StateT (Array S) (Except Fault) α

/-- The second buffer differs from the first at most in the first `W` places. -/
def SameBehind {S : Type u} (W : Nat) (s t : Array S) : Prop :=
  t.size = s.size ∧ ∀ j, W ≤ j → t[j]? = s[j]?

namespace SameBehind

theorem refl {S : Type u} (W : Nat) (s : Array S) : SameBehind W s s := ⟨rfl, fun _ _ => rfl⟩

theorem trans {S : Type u} {W : Nat} {r s t : Array S} (hrs : SameBehind W r s)
    (hst : SameBehind W s t) : SameBehind W r t :=
  ⟨hst.1.trans hrs.1, fun j hj => (hst.2 j hj).trans (hrs.2 j hj)⟩

end SameBehind

/-- The step gives `x` for every scratch with room for `W` scalars, and keeps the rest of it. -/
def WithScratch.Gives {S α : Type u} (W : Nat) (step : WithScratch S α) (x : α) : Prop :=
  ∀ s : Array S, W ≤ s.size → ∃ t, step s = .ok (x, t) ∧ SameBehind W s t

namespace WithScratch

theorem gives_pure {S α : Type u} (W : Nat) (x : α) : Gives W (pure x : WithScratch S α) x :=
  fun s _ => ⟨s, rfl, SameBehind.refl W s⟩

theorem gives_bind {S α β : Type u} {W : Nat} {step : WithScratch S α} {x : α}
    {next : α → WithScratch S β} {y : β} (hx : Gives W step x) (hy : Gives W (next x) y) :
    Gives W (step >>= next) y := by
  intro s hs
  obtain ⟨t, ht, hst⟩ := hx s hs
  obtain ⟨r, hr, htr⟩ := hy t (by rw [hst.1]; exact hs)
  refine ⟨r, ?_, hst.trans htr⟩
  simp only [bind, StateT.bind, ht, Except.bind]
  exact hr

theorem gives_ofFnM {S α : Type u} {W n : Nat} {step : Fin n → WithScratch S α} {x : Fin n → α}
    (h : ∀ i, Gives W (step i) (x i)) : Gives W (Vector.ofFnM step) (Vector.ofFn x) := by
  induction n with
  | zero =>
    rw [Vector.ofFnM_zero]
    exact gives_pure W _
  | succ n ih =>
    rw [Vector.ofFnM_succ, Vector.ofFn_succ]
    exact gives_bind (ih fun i => h i.castSucc)
      (gives_bind (h (Fin.last n)) (gives_pure W _))

theorem gives_foldlM {S β : Type u} {ι : Type v} {W : Nat} {step : β → ι → WithScratch S β}
    {next : β → ι → β} (Fits : β → Prop)
    (h : ∀ b i, Fits b → Gives W (step b i) (next b i) ∧ Fits (next b i)) (l : List ι) (b : β)
    (hb : Fits b) : Gives W (l.foldlM step b) (l.foldl next b) := by
  induction l generalizing b with
  | nil => exact gives_pure W b
  | cons i l ih =>
    rw [List.foldlM_cons, List.foldl_cons]
    exact gives_bind (h b i hb).1 (ih _ (h b i hb).2)

end WithScratch

end LaneMatrix
