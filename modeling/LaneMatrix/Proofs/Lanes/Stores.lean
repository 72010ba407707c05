import LaneMatrix.Proofs.Lanes.Access

/-!
# Stores that overlap

Stores into one buffer may come from units of any width and form, start anywhere and overlap. One
that has no room is a fault, and the stores after it go on. Every place then holds what the last
store that covers it and has room has brought there, or what it held at the start.
-/

universe u

namespace LaneMatrix

namespace LaneAccess.Framed

variable {S V : Type u} {W : Nat} {a : LaneAccess S V}

theorem loadBlock_fault_iff (h : a.Framed W) {N : Nat} (block : Vector S N) :
    a.loadBlock N block = .error .shortSlice ↔ N < W := by
  rw [h.loadBlock_eq]
  rcases Nat.lt_or_ge N W with hN | hN
  · rw [h.load_short block.toArray 0 (by rw [block.size_toArray]; omega)]
    exact iff_of_true rfl hN
  · obtain ⟨v, hv, -⟩ := h.load_room block.toArray 0 (by rw [block.size_toArray]; omega)
    rw [hv]
    exact iff_of_false nofun (Nat.not_lt_of_le hN)

theorem storeBlock_fault_iff (h : a.Framed W) (v : V) {N : Nat} (block : Vector S N) :
    a.storeBlock v N block = .error .shortSlice ↔ N < W := by
  have hmap := h.storeBlock_eq v N block
  rcases Nat.lt_or_ge N W with hN | hN
  · rw [h.store_short v block.toArray 0 (by rw [block.size_toArray]; omega)] at hmap
    refine iff_of_true ?_ hN
    cases hstore : a.storeBlock v N block with
    | ok d =>
      rw [hstore] at hmap
      cases hmap
    | error f =>
      rw [hstore] at hmap
      exact congrArg Except.error (Except.error.inj hmap)
  · obtain ⟨d, hd, -⟩ := h.store_room v block.toArray 0 (by rw [block.size_toArray]; omega)
    rw [hd] at hmap
    refine iff_of_false ?_ (Nat.not_lt_of_le hN)
    intro hfault
    rw [hfault] at hmap
    cases hmap

end LaneAccess.Framed

/-- A unit of some width and form, with the place from which on it is stored. -/
structure LaneStore (S : Type u) where
  {V : Type u}
  {width : Nat}
  {access : LaneAccess S V}
  framed : access.Framed width
  unit : V
  start : Nat

namespace LaneStore

variable {S : Type u}

/-- Why a store into a buffer of some size is refused, if it is. -/
def fault? (size : Nat) (s : LaneStore S) : Option Fault :=
  if s.start + s.width ≤ size then none else some .shortSlice

/-- What a store into a buffer of some size brings to a place, if it covers it and has room. -/
def valueAt? (size k : Nat) (s : LaneStore S) : Option S :=
  if s.start + s.width ≤ size ∧ s.start ≤ k ∧ k < s.start + s.width then
    (s.access.extract s.unit (k - s.start)).toOption
  else none

/-- What is last brought to a place by any of the stores. -/
def last? (size k : Nat) (ss : List (LaneStore S)) : Option S :=
  ss.reverse.findSome? (valueAt? size k)

/-- A store into a buffer that is changed in place: the fault, if there is one, and the buffer as
it is then. -/
def inPlace (dst : Array S) (s : LaneStore S) : Option Fault × Array S :=
  match s.access.store s.unit dst s.start with
  | .ok d => (none, d)
  | .error f => (some f, dst)

/-- Stores one after the other, also those that come after a fault. -/
def run (dst : Array S) : List (LaneStore S) → List (Option Fault) × Array S
  | [] => ([], dst)
  | s :: ss =>
    let rest := run (s.inPlace dst).2 ss
    ((s.inPlace dst).1 :: rest.1, rest.2)

theorem inPlace_of_room (dst : Array S) (s : LaneStore S) (h : s.start + s.width ≤ dst.size) :
    ∃ d, s.inPlace dst = (none, d) ∧ d.size = dst.size ∧
      ∀ k, d[k]? = (s.valueAt? dst.size k).or dst[k]? := by
  obtain ⟨d, hstore, hsize, hplaces, -⟩ := s.framed.store_room s.unit dst s.start h
  refine ⟨d, by rw [inPlace, hstore], hsize, ?_⟩
  intro k
  rw [hplaces k, valueAt?]
  by_cases hk : s.start ≤ k ∧ k < s.start + s.width
  · obtain ⟨x, hx⟩ := s.framed.extract_ok s.unit (k - s.start) (by omega)
    rw [if_pos hk, if_pos ⟨h, hk⟩, hx]
    rfl
  · rw [if_neg hk, if_neg fun hn => hk hn.2, Option.none_or]

theorem inPlace_of_short (dst : Array S) (s : LaneStore S) (h : dst.size < s.start + s.width) :
    s.inPlace dst = (some .shortSlice, dst) := by
  rw [inPlace, s.framed.store_short s.unit dst s.start h]

/-- A store is refused and changes nothing, or it brings its lanes to the places it covers. -/
theorem inPlace_cases (dst : Array S) (s : LaneStore S) :
    ∃ d, s.inPlace dst = (s.fault? dst.size, d) ∧ d.size = dst.size ∧
      ∀ k, d[k]? = (s.valueAt? dst.size k).or dst[k]? := by
  by_cases h : s.start + s.width ≤ dst.size
  · rw [fault?, if_pos h]
    exact inPlace_of_room dst s h
  · rw [fault?, if_neg h]
    refine ⟨dst, inPlace_of_short dst s (by omega), rfl, ?_⟩
    intro k
    rw [valueAt?, if_neg fun hn => h hn.1, Option.none_or]

theorem last?_cons (size k : Nat) (s : LaneStore S) (ss : List (LaneStore S)) :
    last? size k (s :: ss) = (last? size k ss).or (s.valueAt? size k) := by
  rw [last?, List.reverse_cons, List.findSome?_append, List.findSome?_singleton, last?]

/-- A place holds what was last brought to it, or what it held at the start. -/
theorem run_spec (dst : Array S) (ss : List (LaneStore S)) :
    (run dst ss).1 = ss.map (fault? dst.size) ∧ (run dst ss).2.size = dst.size ∧
      ∀ k, (run dst ss).2[k]? = (last? dst.size k ss).or dst[k]? := by
  induction ss generalizing dst with
  | nil => exact ⟨rfl, rfl, fun _ => rfl⟩
  | cons s ss ih =>
    obtain ⟨d, hd, hsize, hplaces⟩ := inPlace_cases dst s
    obtain ⟨hfaults, hsizes, hlast⟩ := ih d
    rw [run, hd]
    refine ⟨?_, hsizes.trans hsize, ?_⟩
    · rw [List.map_cons, ← hsize]
      exact congrArg _ hfaults
    · intro k
      rw [last?_cons, Option.or_assoc, ← hplaces, ← hsize]
      exact hlast k

end LaneStore

/-- Loading and storing are exact and undo each other, in blocks of fixed size as well and for
registers of any form, and stores that overlap leave at every place what was last brought there.
What has no room is a fault and changes nothing. -/
theorem loads_and_stores_framed (S : Type u) (W : Nat) :
    (Lanes.access S W).Framed W ∧
    (∀ (V : Type u) (k : Packing S W V), k.access.Framed W) ∧
    (∀ (V : Type u) (a : LaneAccess S V), a.Framed W → ∀ (N : Nat) (block : Vector S N),
      (a.loadBlock N block = .error .shortSlice ↔ N < W) ∧
        ∀ v, a.storeBlock v N block = .error .shortSlice ↔ N < W) ∧
    (∀ (dst : Array S) (s : LaneStore S),
      if s.start + s.width ≤ dst.size then ∃ d, s.inPlace dst = (none, d)
      else s.inPlace dst = (some .shortSlice, dst)) ∧
    ∀ (dst : Array S) (ss : List (LaneStore S)),
      (LaneStore.run dst ss).1 = ss.map (LaneStore.fault? dst.size) ∧
      (LaneStore.run dst ss).2.size = dst.size ∧
      ∀ k, (LaneStore.run dst ss).2[k]? = (LaneStore.last? dst.size k ss).or dst[k]? := by
  refine ⟨Lanes.framed_access S W, fun V k => k.framed_access, ?_, ?_, LaneStore.run_spec⟩
  · intro V a ha N block
    exact ⟨ha.loadBlock_fault_iff block, fun v => ha.storeBlock_fault_iff v block⟩
  · intro dst s
    split
    · rename_i hroom
      obtain ⟨d, hd, -⟩ := LaneStore.inPlace_of_room dst s hroom
      exact ⟨d, hd⟩
    · rename_i hroom
      exact LaneStore.inPlace_of_short dst s (by omega)

/-- In a buffer of six places a register of four values is overlapped by three lanes and hits the
end of the buffer with its next store; no lanes at all have room at the end and not past it. -/
theorem loads_and_stores_of_overlapping_units :
    let dst : Array Nat := #[0, 0, 0, 0, 0, 0]
    let quad := (Quad.packing Nat).framed_access
    let empty : Lanes Nat 0 := ⟨#v[]⟩
    let ss : List (LaneStore Nat) :=
      [⟨quad, ⟨1, 2, 3, 4⟩, 0⟩, ⟨Lanes.framed_access Nat 3, ⟨#v[7, 8, 9]⟩, 2⟩,
        ⟨quad, ⟨1, 2, 3, 4⟩, 3⟩, ⟨Lanes.framed_access Nat 0, empty, 6⟩,
        ⟨Lanes.framed_access Nat 0, empty, 7⟩]
    let final := LaneStore.run dst ss
    final.1 = [none, none, some .shortSlice, none, some .shortSlice] ∧
      final.2.size = 6 ∧ (∀ k : Fin 6, final.2[k.val]? = #[1, 2, 7, 8, 9, 0][k.val]?) ∧
      (Quad.packing Nat).access.loadBlock 3 #v[1, 2, 7] = .error .shortSlice := by
  intro dst quad empty ss final
  obtain ⟨-, hpacked, hblocks, -, hruns⟩ := loads_and_stores_framed Nat 4
  obtain ⟨hfaults, hsize, hplaces⟩ := hruns dst ss
  refine ⟨hfaults, hsize, ?_, ?_⟩
  · intro k
    rw [hplaces k.val]
    revert k
    decide
  · exact (hblocks _ _ (hpacked _ (Quad.packing Nat)) 3 #v[1, 2, 7]).1.mpr (by decide)

end LaneMatrix
