import LaneMatrix.Proofs.Batch.Runs
import Mathlib.Data.List.Nodup

/-!
# Crews

A crew has one thread for each run of an output. A thread calls the work function once, on its run
as it finds it, then makes the writes of that call one at a time, and then is done. Which thread is
next is left to a schedule, so that any number of calls can be under way at once and their writes
interleave in every way. What a thread does in a turn concerns its own run only; this is said of
one thread first. The runs have no place in common, so the other threads see nothing of it.
-/

universe u

namespace LaneMatrix

/-- Writes to single places, one after the other; a write past the end does nothing. -/
def writeAll {α : Type u} (xs : Array α) (ws : List (Nat × α)) : Array α :=
  ws.foldl (fun xs w => xs.setIfInBounds w.1 w.2) xs

/-- All writes of a call together leave what the work leaves. -/
def Performs {α : Type u} (writes : Nat → Array α → List (Nat × α))
    (work : Nat → Array α → Call α) : Prop :=
  ∀ start run, writeAll run (writes start run) = (work start run).out

/-- Where a thread stands. Before its call it is ready; then some writes are left, and a report. -/
inductive Stage (α : Type u) where
  | ready
  | writing (left : List (Nat × α)) (report : Report)
  | done (report : Report)

/-- What a turn of a thread comes to: where the thread stands then, the calls it has made in this
turn, each by the start and the contents of the run, and the run as it leaves it. -/
structure Turn (α : Type u) where
  stage : Stage α
  calls : List (Nat × Array α)
  run : Array α

namespace Stage

def turn {α : Type u} (work : Nat → Array α → Call α)
    (writes : Nat → Array α → List (Nat × α)) (start : Nat) (run : Array α) : Stage α → Turn α
  | ready => ⟨writing (writes start run) (work start run).toReport, [(start, run)], run⟩
  | writing [] report => ⟨done report, [], run⟩
  | writing (w :: left) report => ⟨writing left report, [], run.setIfInBounds w.1 w.2⟩
  | done report => ⟨done report, [], run⟩

/-- How many turns the thread still needs on a run that held `found` at the start. -/
def turnsLeft {α : Type u} (writes : Nat → Array α → List (Nat × α)) (start : Nat)
    (found : Array α) : Stage α → Nat
  | ready => (writes start found).length + 2
  | writing left _ => left.length + 1
  | done _ => 0

/-- The run holds what it should at this stage: `found` before the call, and what the work leaves
of `found` once the writes that are left have been made. -/
def Sound {α : Type u} (work : Nat → Array α → Call α) (start : Nat) (found run : Array α) :
    Stage α → Prop
  | ready => run = found
  | writing left report =>
    report = (work start found).toReport ∧ writeAll run left = (work start found).out
  | done report => report = (work start found).toReport ∧ run = (work start found).out

def outcome? {α : Type u} : Stage α → Option (Except Failure Unit)
  | done report => some report.outcome
  | _ => none

section Turns

variable {α : Type u} {work : Nat → Array α → Call α} {writes : Nat → Array α → List (Nat × α)}
  {start : Nat} {found run : Array α}

theorem size_run_turn (stage : Stage α) :
    (stage.turn work writes start run).run.size = run.size := by
  cases stage with
  | ready => rfl
  | done report => rfl
  | writing left report =>
    cases left with
    | nil => rfl
    | cons w left => exact Array.size_setIfInBounds

theorem turn_ne_ready (stage : Stage α) : (stage.turn work writes start run).stage ≠ ready := by
  cases stage with
  | ready => exact nofun
  | done report => exact nofun
  | writing left report =>
    cases left with
    | nil => exact nofun
    | cons w left => exact nofun

theorem calls_turn_of_ne_ready {stage : Stage α} (h : stage ≠ ready) :
    (stage.turn work writes start run).calls = [] := by
  cases stage with
  | ready => exact absurd rfl h
  | done report => rfl
  | writing left report =>
    cases left with
    | nil => rfl
    | cons w left => rfl

/-- A turn keeps a thread in order and brings it one turn nearer to its end. -/
theorem turn_sound (hp : Performs writes work) {stage : Stage α}
    (h : stage.Sound work start found run) :
    (stage.turn work writes start run).stage.Sound work start found
        (stage.turn work writes start run).run ∧
      (stage.turn work writes start run).stage.turnsLeft writes start found =
        stage.turnsLeft writes start found - 1 := by
  cases stage with
  | ready =>
    obtain rfl : run = found := h
    exact ⟨⟨rfl, hp start run⟩, rfl⟩
  | done report => exact ⟨h, rfl⟩
  | writing left report =>
    cases left with
    | nil => exact ⟨h, rfl⟩
    | cons w left => exact ⟨h, rfl⟩

end Turns

end Stage

/-- The threads in the order of their runs, the calls made so far and the output they share. -/
structure Crew (α : Type u) where
  stages : List (Stage α)
  calls : List (Nat × Array α)
  out : Array α

namespace Crew

/-- One thread for each run, none of which has begun. -/
def ofRuns {α : Type u} (length : Nat) (out : Array α) : Crew α :=
  ⟨List.replicate (pieceCount out.size length) .ready, [], out⟩

/-- A turn of thread `i` on its own run; without such a thread nothing happens. -/
def turn {α : Type u} (length : Nat) (work : Nat → Array α → Call α)
    (writes : Nat → Array α → List (Nat × α)) (crew : Crew α) (i : Nat) : Crew α :=
  match crew.stages[i]? with
  | none => crew
  | some stage =>
    let run := chunk length crew.out.size i
    let turn := stage.turn work writes run.start (run.of crew.out)
    ⟨crew.stages.set i turn.stage, crew.calls ++ turn.calls,
      overwrite crew.out run.start turn.run.toList⟩

def run {α : Type u} (length : Nat) (work : Nat → Array α → Call α)
    (writes : Nat → Array α → List (Nat × α)) (crew : Crew α) (schedule : List Nat) : Crew α :=
  schedule.foldl (turn length work writes) crew

def Done {α : Type u} (crew : Crew α) : Prop :=
  ∀ stage ∈ crew.stages, ∃ report, stage = .done report

/-- The outcomes of the threads that are done, joined in the order of the runs. -/
def outcome {α : Type u} (crew : Crew α) : Except Failure Unit :=
  joinOutcomes (.ok ()) (crew.stages.filterMap Stage.outcome?)

/-- How many turns thread `i` still needs, on an output that was `out` at the start. -/
def turnsLeft {α : Type u} (length : Nat) (writes : Nat → Array α → List (Nat × α))
    (out : Array α) (crew : Crew α) (i : Nat) : Nat :=
  let run := chunk length out.size i
  match crew.stages[i]? with
  | some stage => stage.turnsLeft writes run.start (run.of out)
  | none => 0

/-- Every thread is sound on its own run, and those that have begun have made their calls, each on
its run as it was at the start. -/
structure Sound {α : Type u} (length : Nat) (work : Nat → Array α → Call α) (out : Array α)
    (crew : Crew α) : Prop where
  size : crew.out.size = out.size
  count : crew.stages.length = pieceCount out.size length
  stages : ∀ (i : Nat) (stage : Stage α), crew.stages[i]? = some stage →
    stage.Sound work (i * length) ((chunk length out.size i).of out)
      ((chunk length out.size i).of crew.out)
  calls : ∃ begun : List Nat, begun.Nodup ∧
    (∀ i, i ∈ begun ↔ ∃ stage, crew.stages[i]? = some stage ∧ stage ≠ .ready) ∧
    crew.calls = begun.map fun i => (i * length, (chunk length out.size i).of out)

section Turns

variable {α : Type u} {length : Nat} {work : Nat → Array α → Call α}
  {writes : Nat → Array α → List (Nat × α)} {out : Array α} {crew : Crew α}

theorem sound_ofRuns (length : Nat) (work : Nat → Array α → Call α) (out : Array α) :
    (ofRuns length out).Sound length work out := by
  refine ⟨rfl, List.length_replicate, ?_, [], List.nodup_nil, ?_, rfl⟩
  · intro i stage hi
    obtain rfl := List.eq_of_mem_replicate (List.mem_of_getElem? hi)
    rfl
  · intro i
    constructor
    · exact fun h => absurd h List.not_mem_nil
    · rintro ⟨stage, hi, hne⟩
      exact absurd (List.eq_of_mem_replicate (List.mem_of_getElem? hi)) hne

theorem turn_of_none {i : Nat} (hi : crew.stages[i]? = none) :
    crew.turn length work writes i = crew := by
  simp only [turn, hi]

/-- The run of a thread lies within the output. -/
theorem Sound.start_lt (h : crew.Sound length work out) (hl : 0 < length) {i : Nat}
    {stage : Stage α} (hi : crew.stages[i]? = some stage) : i * length < out.size := by
  obtain ⟨hlt, -⟩ := List.getElem?_eq_some_iff.mp hi
  rw [h.count] at hlt
  exact (lt_pieceCount_iff hl).mp hlt

/-- All that a turn of thread `i` does: the thread moves on, and of the runs only its own changes. -/
theorem turn_of_some (writes : Nat → Array α → List (Nat × α)) (hl : 0 < length)
    (h : crew.Sound length work out) {i : Nat} {stage : Stage α}
    (hi : crew.stages[i]? = some stage) :
    let turned := stage.turn work writes (i * length) ((chunk length out.size i).of crew.out)
    let next := crew.turn length work writes i
    next.stages = crew.stages.set i turned.stage ∧ next.calls = crew.calls ++ turned.calls ∧
      next.out.size = out.size ∧ (chunk length out.size i).of next.out = turned.run ∧
      ∀ j, j ≠ i → j * length ≤ out.size →
        (chunk length out.size j).of next.out = (chunk length out.size j).of crew.out := by
  intro turned next
  have hwithin : (chunk length out.size i).Within crew.out.size := by
    rw [h.size]
    exact chunk_within (Nat.le_of_lt (h.start_lt hl hi))
  have hsize : turned.run.size = (chunk length out.size i).live := by
    rw [Stage.size_run_turn, Chunk.size_of hwithin]
  have hnext : next = ⟨crew.stages.set i turned.stage, crew.calls ++ turned.calls,
      overwrite crew.out (i * length) turned.run.toList⟩ := by
    simp only [next, turn, hi, h.size]
    rfl
  rw [hnext]
  refine ⟨rfl, rfl, (size_overwrite _ _ _).trans h.size,
    Chunk.of_overwrite_self hwithin hsize, ?_⟩
  intro j hji hj
  rw [← h.size] at hsize hj ⊢
  exact Chunk.of_overwrite_of_ne hl hj hji hsize

theorem turnsLeft_of_some {i : Nat} {stage : Stage α} (hi : crew.stages[i]? = some stage) :
    crew.turnsLeft length writes out i =
      stage.turnsLeft writes (i * length) ((chunk length out.size i).of out) := by
  simp only [turnsLeft, hi]
  rfl

/-- The calls after a turn: a thread that has begun makes no more of them. -/
theorem calls_turn (hl : 0 < length) (h : crew.Sound length work out) {i : Nat}
    {stage : Stage α} (hi : crew.stages[i]? = some stage) :
    ∃ begun : List Nat, begun.Nodup ∧
      (∀ j, j ∈ begun ↔ ∃ other, (crew.turn length work writes i).stages[j]? = some other ∧
        other ≠ .ready) ∧
      (crew.turn length work writes i).calls =
        begun.map fun j => (j * length, (chunk length out.size j).of out) := by
  obtain ⟨hstages, hcalls, -⟩ := turn_of_some writes hl h hi
  obtain ⟨begun, hnodup, hmem, hmade⟩ := h.calls
  obtain ⟨hlt, -⟩ := List.getElem?_eq_some_iff.mp hi
  have hown : ∃ other, (crew.turn length work writes i).stages[i]? = some other ∧
      other ≠ .ready := by
    rw [hstages]
    exact ⟨_, List.getElem?_set_self hlt, Stage.turn_ne_ready stage⟩
  have hothers : ∀ j, j ≠ i → (crew.turn length work writes i).stages[j]? = crew.stages[j]? := by
    intro j hji
    rw [hstages, List.getElem?_set_ne hji.symm]
  by_cases hready : stage = .ready
  · subst hready
    have hfresh : i ∉ begun := by
      rw [hmem]
      rintro ⟨other, hother, hne⟩
      exact hne (Option.some.inj (hother.symm.trans hi))
    have hfound : (chunk length out.size i).of crew.out = (chunk length out.size i).of out :=
      h.stages i .ready hi
    have hlonger : (begun ++ [i]).Nodup := by
      rw [← List.concat_eq_append]
      exact List.Nodup.concat hfresh hnodup
    refine ⟨begun ++ [i], hlonger, ?_, ?_⟩
    · intro j
      rw [List.mem_append, List.mem_singleton]
      by_cases hji : j = i
      · subst hji
        exact ⟨fun _ => hown, fun _ => .inr rfl⟩
      · rw [hothers j hji, ← hmem]
        exact ⟨fun hj => hj.resolve_right hji, .inl⟩
    · rw [hcalls, hmade, List.map_append, List.map_singleton, ← hfound]
      rfl
  · refine ⟨begun, hnodup, ?_, ?_⟩
    · intro j
      by_cases hji : j = i
      · subst hji
        exact ⟨fun _ => hown, fun _ => (hmem j).mpr ⟨stage, hi, hready⟩⟩
      · rw [hothers j hji, hmem]
    · rw [hcalls, Stage.calls_turn_of_ne_ready hready, List.append_nil, hmade]

/-- A turn of any thread keeps the whole crew sound: the thread itself by what is said of one
thread, the others because their runs are elsewhere. -/
theorem turn_sound (hl : 0 < length) (hp : Performs writes work)
    (h : crew.Sound length work out) (i : Nat) :
    (crew.turn length work writes i).Sound length work out ∧
      ∀ j, (crew.turn length work writes i).turnsLeft length writes out j =
        crew.turnsLeft length writes out j - if i = j then 1 else 0 := by
  cases hi : crew.stages[i]? with
  | none =>
    rw [turn_of_none hi]
    refine ⟨h, ?_⟩
    intro j
    by_cases hij : i = j
    · subst hij
      simp only [turnsLeft, hi, Nat.zero_sub]
    · rw [if_neg hij, Nat.sub_zero]
  | some stage =>
    obtain ⟨hlt, -⟩ := List.getElem?_eq_some_iff.mp hi
    obtain ⟨hsound, hleft⟩ := Stage.turn_sound hp (h.stages i stage hi)
    obtain ⟨hstages, -, hsize, hown, hothers⟩ := turn_of_some writes hl h hi
    refine ⟨⟨hsize, by rw [hstages, List.length_set, h.count], ?_, calls_turn hl h hi⟩, ?_⟩
    · intro j other hj
      rw [hstages] at hj
      by_cases hij : i = j
      · subst hij
        rw [List.getElem?_set_self hlt] at hj
        rw [← Option.some.inj hj, hown]
        exact hsound
      · rw [List.getElem?_set_ne hij] at hj
        rw [hothers j (Ne.symm hij) (Nat.le_of_lt (h.start_lt hl hj))]
        exact h.stages j other hj
    · intro j
      by_cases hij : i = j
      · subst hij
        have hnext : (crew.turn length work writes i).stages[i]? = some
            (stage.turn work writes (i * length) ((chunk length out.size i).of crew.out)).stage := by
          rw [hstages, List.getElem?_set_self hlt]
        rw [turnsLeft_of_some hnext, turnsLeft_of_some hi, if_pos rfl]
        exact hleft
      · rw [if_neg hij, Nat.sub_zero, turnsLeft, turnsLeft, hstages, List.getElem?_set_ne hij]

/-- A whole schedule, turn by turn. -/
theorem run_sound (hl : 0 < length) (hp : Performs writes work)
    (h : crew.Sound length work out) (schedule : List Nat) :
    (crew.run length work writes schedule).Sound length work out ∧
      ∀ j, (crew.run length work writes schedule).turnsLeft length writes out j =
        crew.turnsLeft length writes out j - schedule.count j := by
  induction schedule generalizing crew with
  | nil => exact ⟨h, fun _ => rfl⟩
  | cons i schedule ih =>
    obtain ⟨hnext, hleft⟩ := turn_sound hl hp h i
    obtain ⟨hfinal, hcount⟩ := ih hnext
    refine ⟨hfinal, ?_⟩
    intro j
    rw [sub_count_cons, ← hleft j]
    exact hcount j

theorem done_iff_turnsLeft (length : Nat) (writes : Nat → Array α → List (Nat × α))
    (out : Array α) :
    crew.Done ↔ ∀ i, crew.turnsLeft length writes out i = 0 := by
  constructor
  · intro h i
    rw [turnsLeft]
    cases hi : crew.stages[i]? with
    | none => rfl
    | some stage =>
      obtain ⟨report, rfl⟩ := h stage (List.mem_of_getElem? hi)
      rfl
  · intro h stage hstage
    obtain ⟨i, hi⟩ := List.mem_iff_getElem?.mp hstage
    have hzero := h i
    rw [turnsLeft_of_some hi] at hzero
    cases stage with
    | done report => exact ⟨report, rfl⟩
    | ready => exact absurd hzero (Nat.succ_ne_zero _)
    | writing left report => exact absurd hzero (Nat.succ_ne_zero _)

/-- A thread that is done has reported and left what its run comes to alone. -/
theorem Sound.alone (h : crew.Sound length work out) (hdone : crew.Done) {i : Nat}
    (hi : i < pieceCount out.size length) :
    crew.stages[i]? = some (.done (runAlone length work out i).toReport) ∧
      (chunk length out.size i).of crew.out = (runAlone length work out i).out := by
  have hlt : i < crew.stages.length := by rwa [h.count]
  have hstage := List.getElem?_eq_getElem hlt
  obtain ⟨report, hreport⟩ := hdone _ (List.getElem_mem hlt)
  rw [hreport] at hstage
  obtain ⟨rfl, hrun⟩ := h.stages i _ hstage
  exact ⟨hstage, hrun⟩

theorem Sound.outcome_of_done (h : crew.Sound length work out) (hdone : crew.Done) :
    crew.outcome =
      joinOutcomes (.ok ()) ((runsAlone length work out).map fun r => r.outcome) := by
  have hstages : crew.stages = (List.range (pieceCount out.size length)).map fun i =>
      .done (runAlone length work out i).toReport := by
    apply List.ext_getElem?
    intro i
    by_cases hi : i < pieceCount out.size length
    · rw [(h.alone hdone hi).1, List.getElem?_map, List.getElem?_range hi]
      rfl
    · rw [List.getElem?_eq_none (by rw [h.count]; omega),
        List.getElem?_eq_none (by rw [List.length_map, List.length_range]; omega)]
  rw [outcome, hstages, List.filterMap_map, runsAlone, List.map_map]
  exact congrArg (joinOutcomes (.ok ())) (congrFun List.filterMap_eq_map' _)

/-- When all are done, each run has been called for once. -/
theorem Sound.calls_of_done (h : crew.Sound length work out) (hdone : crew.Done) :
    crew.calls.Perm ((List.range (pieceCount out.size length)).map fun i =>
      (i * length, (chunk length out.size i).of out)) := by
  obtain ⟨begun, hnodup, hmem, hcalls⟩ := h.calls
  rw [hcalls]
  apply List.Perm.map
  rw [List.perm_ext_iff_of_nodup hnodup List.nodup_range]
  intro i
  rw [hmem, List.mem_range]
  constructor
  · rintro ⟨stage, hi, -⟩
    obtain ⟨hlt, -⟩ := List.getElem?_eq_some_iff.mp hi
    rwa [h.count] at hlt
  · exact fun hi => ⟨_, (h.alone hdone hi).1, nofun⟩

theorem turnsLeft_ofRuns (length : Nat) (writes : Nat → Array α → List (Nat × α))
    (out : Array α) (i : Nat) :
    (ofRuns length out).turnsLeft length writes out i =
      if i < pieceCount out.size length then
        (writes (i * length) ((chunk length out.size i).of out)).length + 2
      else 0 := by
  by_cases hi : i < pieceCount out.size length
  · have hstage : (ofRuns length out).stages[i]? = some .ready := by
      rw [ofRuns, List.getElem?_replicate, if_pos hi]
    rw [if_pos hi, turnsLeft_of_some hstage]
    rfl
  · have hstage : (ofRuns length out).stages[i]? = none := by
      rw [ofRuns, List.getElem?_replicate, if_neg hi]
    simp only [turnsLeft, hstage, if_neg hi]

/-- A schedule ends the work exactly when each thread has had a turn for its call, for each of its
writes and for its report. -/
theorem done_run_iff (hl : 0 < length) (hp : Performs writes work) (schedule : List Nat) :
    ((ofRuns length out).run length work writes schedule).Done ↔
      ∀ i < pieceCount out.size length,
        (writes (i * length) ((chunk length out.size i).of out)).length + 2 ≤ schedule.count i := by
  obtain ⟨-, hleft⟩ := run_sound hl hp (sound_ofRuns length work out) schedule
  rw [done_iff_turnsLeft length writes out, ← sub_count_eq_zero_iff]
  simp only [hleft, turnsLeft_ofRuns]

end Turns

end Crew

end LaneMatrix
