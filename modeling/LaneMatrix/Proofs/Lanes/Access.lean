import LaneMatrix.Lanes.Buffer
import LaneMatrix.Quad

/-!
# Loading and storing lanes

A store with room for its lanes changes their places and no other, a load reads just these places,
and each of the two undoes the other; without room both are refused. Registers that hold the lanes
in a form of their own do the same, if only their conversions from and to rows of scalars undo
each other; nothing else is assumed of them.
-/

universe u

namespace LaneMatrix

/-- The ways in which units `V` of lanes are moved from and to scalars `S`. -/
structure LaneAccess (S V : Type u) where
  extract : V → Nat → Except Fault S
  load : Array S → Nat → Except Fault V
  store : V → Array S → Nat → Except Fault (Array S)
  loadBlock : (N : Nat) → Vector S N → Except Fault V
  storeBlock : V → (N : Nat) → Vector S N → Except Fault (Vector S N)

/-- Units of `W` lanes are loaded from `W` places and stored to them, exactly and in order, and
without room for `W` lanes not at all. A block of fixed size is such a buffer, used from its
front. -/
structure LaneAccess.Framed {S V : Type u} (W : Nat) (a : LaneAccess S V) : Prop where
  extract_ok : ∀ v i, i < W → ∃ x, a.extract v i = .ok x
  extract_out : ∀ v i, W ≤ i → a.extract v i = .error .index
  store_room : ∀ v (dst : Array S) (start : Nat), start + W ≤ dst.size →
    ∃ d, a.store v dst start = .ok d ∧ d.size = dst.size ∧
      (∀ k, d[k]? = if start ≤ k ∧ k < start + W then (a.extract v (k - start)).toOption
        else dst[k]?) ∧
      a.load d start = .ok v
  store_short : ∀ v (dst : Array S) (start : Nat), dst.size < start + W →
    a.store v dst start = .error .shortSlice
  load_room : ∀ (src : Array S) (start : Nat), start + W ≤ src.size →
    ∃ v, a.load src start = .ok v ∧
      (∀ i, i < W → src[start + i]? = (a.extract v i).toOption) ∧
      a.store v src start = .ok src
  load_short : ∀ (src : Array S) (start : Nat), src.size < start + W →
    a.load src start = .error .shortSlice
  loadBlock_eq : ∀ N (block : Vector S N), a.loadBlock N block = a.load block.toArray 0
  storeBlock_eq : ∀ v N (block : Vector S N),
    (a.storeBlock v N block).map Vector.toArray = a.store v block.toArray 0

namespace Lanes

section Units

variable {S : Type u} {W : Nat}

/-- Lanes as they are held in a row. -/
def access (S : Type u) (W : Nat) : LaneAccess S (Lanes S W) where
  extract := extract
  load := load
  store := store
  loadBlock := fun _ => loadBlock
  storeBlock := fun p _ => p.storeBlock

theorem extract_of_lt (p : Lanes S W) {i : Nat} (h : i < W) :
    p.extract i = .ok (p.lane ⟨i, h⟩) :=
  dif_pos h

theorem getElem?_toList_eq_extract (p : Lanes S W) {i : Nat} (h : i < W) :
    p.toList[i]? = (p.extract i).toOption := by
  rw [extract_of_lt p h, getElem?_toList p ⟨i, h⟩]
  rfl

/-- What has been stored is loaded again, whatever stands around it. -/
theorem load_of_store {p : Lanes S W} {dst d : Array S} {start : Nat}
    (h : p.store dst start = .ok d) (hroom : start + W ≤ dst.size) : load d start = .ok p := by
  have hfits : start + W ≤ d.size := by
    rw [size_of_store h]
    exact hroom
  obtain ⟨q, hq, hlanes⟩ := load_of_fits (W := W) hfits
  rw [hq]
  congr 1
  ext i
  have hplace := hlanes i
  rw [getElem?_of_store h, if_pos (by omega), Nat.add_sub_cancel_left, getElem?_toList] at hplace
  exact (Option.some.inj hplace).symm

/-- Storing what has been loaded changes nothing. -/
theorem store_of_load {p : Lanes S W} {src : Array S} {start : Nat}
    (hlanes : ∀ i : Fin W, src[start + i.val]? = some (p.lane i)) (hroom : start + W ≤ src.size) :
    p.store src start = .ok src := by
  have hstore := store_of_fits p hroom
  rw [hstore]
  congr 1
  apply Array.ext_getElem?
  intro k
  rw [getElem?_of_store hstore]
  by_cases hk : start ≤ k ∧ k < start + W
  · have hplace := hlanes ⟨k - start, by omega⟩
    have hoff : start + (k - start) = k := by omega
    rw [hoff] at hplace
    rw [if_pos hk, hplace]
    exact getElem?_toList p ⟨k - start, by omega⟩
  · rw [if_neg hk]

theorem toArray_storeBlock (p : Lanes S W) {N : Nat} (block : Vector S N) :
    (p.storeBlock block).map Vector.toArray = p.store block.toArray 0 := by
  rw [storeBlock]
  split
  · rename_i d hd
    exact hd.symm
  · rename_i f hf
    exact hf.symm

theorem framed_access (S : Type u) (W : Nat) : (access S W).Framed W where
  extract_ok := fun p i hi => ⟨_, extract_of_lt p hi⟩
  extract_out := fun p i hi => dif_neg (Nat.not_lt_of_le hi)
  store_room := by
    intro p dst start hroom
    have hstore := store_of_fits p hroom
    refine ⟨_, hstore, size_of_store hstore, ?_, load_of_store hstore hroom⟩
    intro k
    rw [getElem?_of_store hstore]
    by_cases hk : start ≤ k ∧ k < start + W
    · rw [if_pos hk, if_pos hk]
      exact getElem?_toList_eq_extract p (by omega)
    · rw [if_neg hk, if_neg hk]
  store_short := fun p _ _ hshort => store_of_short p hshort
  load_room := by
    intro src start hroom
    obtain ⟨p, hload, hlanes⟩ := load_of_fits (W := W) hroom
    refine ⟨p, hload, ?_, store_of_load hlanes hroom⟩
    intro i hi
    rw [hlanes ⟨i, hi⟩]
    exact congrArg Except.toOption (extract_of_lt p hi).symm
  load_short := fun _ _ hshort => load_of_short hshort
  loadBlock_eq := fun _ _ => rfl
  storeBlock_eq := fun p _ block => toArray_storeBlock p block

end Units

end Lanes

/-- The form in which registers `V` hold `W` lanes: the conversions from and to rows of scalars,
which undo each other and so keep the order of the lanes. -/
structure Packing (S : Type u) (W : Nat) (V : Type u) where
  pack : Vector S W → V
  unpack : V → Vector S W
  unpack_pack : ∀ xs, unpack (pack xs) = xs
  pack_unpack : ∀ v, pack (unpack v) = v

/-- Four lanes held as four values. -/
def Quad.packing (S : Type u) : Packing S 4 (Quad S) where
  pack := fun xs => ⟨xs.get 0, xs.get 1, xs.get 2, xs.get 3⟩
  unpack := fun q => Vector.ofFn q.get
  unpack_pack := by
    intro xs
    ext i hi
    rw [Vector.getElem_ofFn]
    match i, hi with
    | 0, _ | 1, _ | 2, _ | 3, _ => rfl
  pack_unpack := fun _ => rfl

namespace Packing

variable {S V : Type u} {W : Nat}

def lanes (k : Packing S W V) (v : V) : Lanes S W := ⟨k.unpack v⟩

def ofLanes (k : Packing S W V) (p : Lanes S W) : V := k.pack p.toVector

theorem lanes_ofLanes (k : Packing S W V) (p : Lanes S W) : k.lanes (k.ofLanes p) = p :=
  congrArg Lanes.mk (k.unpack_pack p.toVector)

theorem ofLanes_lanes (k : Packing S W V) (v : V) : k.ofLanes (k.lanes v) = v :=
  k.pack_unpack v

/-- Registers are loaded and stored by way of the lanes they hold. -/
def access (k : Packing S W V) : LaneAccess S V where
  extract := fun v => (k.lanes v).extract
  load := fun src start => (Lanes.load src start).map k.ofLanes
  store := fun v => (k.lanes v).store
  loadBlock := fun _ block => (Lanes.loadBlock block).map k.ofLanes
  storeBlock := fun v _ => (k.lanes v).storeBlock

theorem load_access (k : Packing S W V) {src : Array S} {start : Nat} {p : Lanes S W}
    (h : Lanes.load src start = .ok p) : k.access.load src start = .ok (k.ofLanes p) :=
  congrArg (Except.map k.ofLanes) h

theorem framed_access (k : Packing S W V) : k.access.Framed W where
  extract_ok := fun v i hi => (Lanes.framed_access S W).extract_ok (k.lanes v) i hi
  extract_out := fun v i hi => (Lanes.framed_access S W).extract_out (k.lanes v) i hi
  store_room := by
    intro v dst start hroom
    obtain ⟨d, hstore, hsize, hplaces, hload⟩ :=
      (Lanes.framed_access S W).store_room (k.lanes v) dst start hroom
    refine ⟨d, hstore, hsize, hplaces, ?_⟩
    rw [k.load_access hload, k.ofLanes_lanes]
  store_short := fun v dst start hshort =>
    (Lanes.framed_access S W).store_short (k.lanes v) dst start hshort
  load_room := by
    intro src start hroom
    obtain ⟨p, hload, hplaces, hstore⟩ := (Lanes.framed_access S W).load_room src start hroom
    have hlanes := k.lanes_ofLanes p
    refine ⟨k.ofLanes p, k.load_access hload, ?_, ?_⟩
    · intro i hi
      rw [hplaces i hi]
      exact congrArg (fun q => (Lanes.extract q i).toOption) hlanes.symm
    · exact (congrArg (fun q => Lanes.store q src start) hlanes).trans hstore
  load_short := fun src start hshort =>
    congrArg (Except.map k.ofLanes) ((Lanes.framed_access S W).load_short src start hshort)
  loadBlock_eq := fun _ _ => rfl
  storeBlock_eq := fun v N block => (Lanes.framed_access S W).storeBlock_eq (k.lanes v) N block

end Packing

end LaneMatrix
