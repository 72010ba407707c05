import LaneMatrix.Proofs.Batch.Crew
import LaneMatrix.Proofs.Batch.Parallel

/-!
# Joining the runs

A call on runs comes to one outcome, whichever run finishes first: the joined outcomes are looked
at in the order of the runs, and there a fault counts for more than an error, wherever it stands,
and otherwise the earlier run for more than the later one. No run is left out or made twice because
another one fails, and what a failing run has written stays. Nothing is assumed of the work but
that it keeps the length of a run, which a part of an output cannot change.
-/

universe u

namespace LaneMatrix

def IsFault (r : Except Failure Unit) : Prop := ∃ f, r = .error (.fault f)

/-- Run `i` is the first of the runs that has an outcome of the given kind. -/
def IsFirst (Kind : Except Failure Unit → Prop) (outcome : Nat → Except Failure Unit)
    (runs i : Nat) : Prop :=
  i < runs ∧ Kind (outcome i) ∧ ∀ j < i, ¬ Kind (outcome j)

theorem joinOutcomes_cons_of_ok (held : Except Failure Unit)
    (outcomes : List (Except Failure Unit)) :
    joinOutcomes held (.ok () :: outcomes) = joinOutcomes held outcomes := rfl

/-- An error is held for good as long as no fault comes. -/
theorem joinOutcomes_of_held {outcomes : List (Except Failure Unit)}
    (h : ∀ r ∈ outcomes, ¬ IsFault r) (e : Failure) :
    joinOutcomes (.error e) outcomes = .error e := by
  induction outcomes with
  | nil => rfl
  | cons r outcomes ih =>
    have hrest := ih fun s hs => h s (List.mem_cons_of_mem r hs)
    match r with
    | .ok () => exact hrest
    | .error (.argument _) => exact hrest
    | .error (.fault f) => exact absurd ⟨f, rfl⟩ (h _ List.mem_cons_self)

/-- The first fault counts, whatever is held and whatever errors come before it. -/
theorem joinOutcomes_of_first_fault {outcomes : List (Except Failure Unit)} {i : Nat}
    {r : Except Failure Unit} (hi : outcomes[i]? = some r) (hr : IsFault r)
    (hbefore : ∀ j < i, ∀ s, outcomes[j]? = some s → ¬ IsFault s) (held : Except Failure Unit) :
    joinOutcomes held outcomes = r := by
  induction outcomes generalizing i held with
  | nil => exact absurd hi nofun
  | cons s outcomes ih =>
    cases i with
    | zero =>
      obtain rfl : s = r := Option.some.inj hi
      obtain ⟨f, rfl⟩ := hr
      rfl
    | succ i =>
      have hrest : ∀ j < i, ∀ t, outcomes[j]? = some t → ¬ IsFault t :=
        fun j hj => hbefore (j + 1) (Nat.succ_lt_succ hj)
      match s with
      | .ok () => exact ih hi hrest held
      | .error (.argument _) => exact ih hi hrest _
      | .error (.fault f) => exact absurd ⟨f, rfl⟩ (hbefore 0 (Nat.succ_pos i) _ rfl)

/-- Without any fault the first error counts. -/
theorem joinOutcomes_of_first_error {outcomes : List (Except Failure Unit)} {i : Nat}
    {r : Except Failure Unit} (hi : outcomes[i]? = some r) (hr : r ≠ .ok ())
    (hbefore : ∀ j < i, ∀ s, outcomes[j]? = some s → s = .ok ())
    (hnone : ∀ s ∈ outcomes, ¬ IsFault s) : joinOutcomes (.ok ()) outcomes = r := by
  induction outcomes generalizing i with
  | nil => exact absurd hi nofun
  | cons s outcomes ih =>
    have hrest : ∀ t ∈ outcomes, ¬ IsFault t := fun t ht => hnone t (List.mem_cons_of_mem s ht)
    cases i with
    | zero =>
      obtain rfl : s = r := Option.some.inj hi
      match s with
      | .ok () => exact absurd rfl hr
      | .error (.argument e) => exact joinOutcomes_of_held hrest (.argument e)
      | .error (.fault f) => exact absurd ⟨f, rfl⟩ (hnone _ List.mem_cons_self)
    | succ i =>
      obtain rfl := hbefore 0 (Nat.succ_pos i) s rfl
      rw [joinOutcomes_cons_of_ok]
      exact ih hi (fun j hj => hbefore (j + 1) (Nat.succ_lt_succ hj)) hrest

section Range

variable {outcome : Nat → Except Failure Unit} {runs i : Nat}

theorem getElem?_map_range (hi : i < runs) :
    ((List.range runs).map outcome)[i]? = some (outcome i) := by
  rw [List.getElem?_map, List.getElem?_range hi]
  rfl

theorem joinOutcomes_range_of_first_fault (h : IsFirst IsFault outcome runs i) :
    joinOutcomes (.ok ()) ((List.range runs).map outcome) = outcome i := by
  obtain ⟨hi, hfault, hbefore⟩ := h
  refine joinOutcomes_of_first_fault (getElem?_map_range hi) hfault ?_ _
  intro j hj s hs
  rw [getElem?_map_range (by omega)] at hs
  exact Option.some.inj hs ▸ hbefore j hj

theorem joinOutcomes_range_of_first_error (hnone : ∀ j < runs, ¬ IsFault (outcome j))
    (h : IsFirst (· ≠ .ok ()) outcome runs i) :
    joinOutcomes (.ok ()) ((List.range runs).map outcome) = outcome i := by
  obtain ⟨hi, herror, hbefore⟩ := h
  refine joinOutcomes_of_first_error (getElem?_map_range hi) herror ?_ ?_
  · intro j hj s hs
    rw [getElem?_map_range (by omega)] at hs
    exact Option.some.inj hs ▸ not_not.mp (hbefore j hj)
  · intro s hs
    obtain ⟨j, hj, rfl⟩ := List.mem_map.mp hs
    exact hnone j (List.mem_range.mp hj)

end Range

section Runs

variable {α : Type u} {length : Nat} {work : Nat → Array α → Call α} {out : Array α}
  {order : List Nat}

/-- Piece `i` of a list, by its first place and the one behind its last. -/
theorem of_chunk (hl : 0 < length) (xs : Array α) {count i : Nat}
    (hi : i < pieceCount count length) :
    (chunk length count i).of xs = xs.extract (i * length) (min ((i + 1) * length) count) := by
  have hstart : i * length < count := (lt_pieceCount_iff hl).mp hi
  have hend : i * length + min length (count - i * length) = min ((i + 1) * length) count := by
    rw [Nat.add_mul]
    omega
  rw [Chunk.of, chunk, hend]

theorem outcome_overRuns (hl : 0 < length) (hw : KeepsLength work)
    (h : order.Perm (List.range (pieceCount out.size length))) :
    (overRuns order length work out).outcome = joinOutcomes (.ok ())
      ((List.range (pieceCount out.size length)).map fun i =>
        (runAlone length work out i).outcome) := by
  rw [(overRuns_of_perm hl hw h).1, runsAlone, List.map_map]
  rfl

/-- A crew whose threads are all done has left and reported what the runs come to in any order. -/
theorem Crew.Sound.eq_overRuns {crew : Crew α} (hcrew : crew.Sound length work out)
    (hdone : crew.Done) (hl : 0 < length) (hw : KeepsLength work)
    (h : order.Perm (List.range (pieceCount out.size length))) :
    crew.out = (overRuns order length work out).out ∧
      crew.outcome = (overRuns order length work out).outcome := by
  constructor
  · exact (overRuns_eq_of_pieces hl hw h hcrew.size fun i hi => (hcrew.alone hdone hi).2).symm
  · rw [hcrew.outcome_of_done hdone, (overRuns_of_perm hl hw h).1]

/-- The call on the runs of an output is the same for every order in which the runs finish. Threads
that make their writes one at a time come to it under every schedule that lets each of them end,
and by then each run has been called for once, with its start and with what the output held there,
also where other runs fail. What every run leaves of its part is kept. The outcome is the first
fault in the order of the runs, whatever errors come before it; without a fault it is the first
error, and without an error all is well. -/
theorem overRuns_in_every_order (hl : 0 < length) (hw : KeepsLength work) (out : Array α) :
    let runs := pieceCount out.size length
    let part := fun (xs : Array α) i => xs.extract (i * length) (min ((i + 1) * length) out.size)
    let outcome := fun i => (work (i * length) (part out i)).outcome
    ∃ call : Call α,
      (∀ order : List Nat, order.Perm (List.range runs) →
        overRuns order length work out = call) ∧
      (∀ writes, Performs writes work → ∀ schedule : List Nat,
        let final := (Crew.ofRuns length out).run length work writes schedule
        (final.Done ↔
          ∀ i < runs, (writes (i * length) (part out i)).length + 2 ≤ schedule.count i) ∧
        (final.Done →
          final.calls.Perm ((List.range runs).map fun i => (i * length, part out i)) ∧
          final.out = call.out ∧ final.outcome = call.outcome)) ∧
      call.out.size = out.size ∧
      (∀ i < runs, part call.out i = (work (i * length) (part out i)).out) ∧
      (∀ i, IsFirst IsFault outcome runs i → call.outcome = outcome i) ∧
      ((∀ i < runs, ¬ IsFault (outcome i)) →
        ∀ i, IsFirst (· ≠ .ok ()) outcome runs i → call.outcome = outcome i) ∧
      ((∀ i < runs, outcome i = .ok ()) → call.outcome = .ok ()) := by
  intro runs part outcome
  have hpart : ∀ (xs : Array α) {i : Nat}, i < runs →
      (chunk length out.size i).of xs = part xs i := fun xs _ hi => of_chunk hl xs hi
  have halone : ∀ i < runs, runAlone length work out i = work (i * length) (part out i) :=
    fun i hi => congrArg (work (i * length)) (hpart out hi)
  have hperm : (List.range runs).Perm (List.range runs) := List.Perm.refl _
  have hjoined : (overRuns (List.range runs) length work out).outcome =
      joinOutcomes (.ok ()) ((List.range runs).map outcome) := by
    rw [outcome_overRuns hl hw hperm]
    refine congrArg (joinOutcomes (.ok ())) (List.map_congr_left ?_)
    intro i hi
    rw [halone i (List.mem_range.mp hi)]
  refine ⟨overRuns (List.range runs) length work out, ?_, ?_, size_overRuns .., ?_, ?_, ?_, ?_⟩
  · exact fun order horder => overRuns_perm hl hw horder hperm
  · intro writes hp schedule final
    have hsound := (Crew.run_sound hl hp (Crew.sound_ofRuns length work out) schedule).1
    constructor
    · rw [Crew.done_run_iff hl hp]
      exact forall₂_congr fun i hi => by rw [hpart out hi]
    · intro hdone
      refine ⟨?_, hsound.eq_overRuns hdone hl hw hperm⟩
      have hcalls := hsound.calls_of_done hdone
      rwa [List.map_congr_left fun i hi => by rw [hpart out (List.mem_range.mp hi)]] at hcalls
  · intro i hi
    rw [← hpart _ hi, (overRuns_of_perm hl hw hperm).2.2 i hi, halone i hi]
  · intro i hi
    rw [hjoined]
    exact joinOutcomes_range_of_first_fault hi
  · intro hnone i hi
    rw [hjoined]
    exact joinOutcomes_range_of_first_error hnone hi
  · intro hall
    rw [hjoined]
    apply Batch.joinOutcomes_of_all_ok
    intro r hr
    obtain ⟨i, hi, rfl⟩ := List.mem_map.mp hr
    exact hall i (List.mem_range.mp hi)

end Runs

/-- Three runs that all fail after a write, the first with an error and the others with faults. -/
theorem overRuns_of_failing_runs :
    let work : Nat → Array Nat → Call Nat := fun start run =>
      ⟨⟨.error (if start = 0 then .argument .noThreads else .fault (.cell start 0)), []⟩,
        run.setIfInBounds 0 (start + 1)⟩
    let writes : Nat → Array Nat → List (Nat × Nat) := fun start _ => [(0, start + 1)]
    let final := (Crew.ofRuns 2 #[7, 7, 7, 7, 7]).run 2 work writes [1, 2, 2, 0, 2, 1, 0, 0, 1]
    0 < 2 ∧ KeepsLength work ∧ [2, 0, 1].Perm (List.range 3) ∧ Performs writes work ∧
      (overRuns [2, 0, 1] 2 work #[7, 7, 7, 7, 7]).outcome = .error (.fault (.cell 2 0)) ∧
      (overRuns [2, 0, 1] 2 work #[7, 7, 7, 7, 7]).out.extract 0 2 = #[1, 7] ∧
      final.calls.Perm [(0, #[7, 7]), (2, #[7, 7]), (4, #[7])] ∧
      final.outcome = .error (.fault (.cell 2 0)) := by
  intro work writes final
  have hl : 0 < 2 := by decide
  have hw : KeepsLength work := fun _ _ => Array.size_setIfInBounds
  have hp : Performs writes work := fun _ _ => rfl
  have hperm : [2, 0, 1].Perm (List.range 3) := by decide
  obtain ⟨call, horder, hcrew, -, hparts, hfault, -⟩ :=
    overRuns_in_every_order hl hw #[7, 7, 7, 7, 7]
  have hfirst : call.outcome = .error (.fault (.cell 2 0)) :=
    hfault 1 ⟨by decide, ⟨_, rfl⟩, by
      rintro j hj ⟨f, hf⟩
      obtain rfl : j = 0 := by omega
      cases hf⟩
  obtain ⟨hdone, hend⟩ := hcrew writes hp [1, 2, 2, 0, 2, 1, 0, 0, 1]
  obtain ⟨hcalls, -, houtcome⟩ := hend (hdone.mpr (by decide))
  rw [horder [2, 0, 1] hperm]
  exact ⟨hl, hw, hperm, hp, hfirst, hparts 0 (by decide), hcalls, houtcome.trans hfirst⟩

end LaneMatrix
