import LaneMatrix.Proofs.Program.Lanewise
import LaneMatrix.Session

/-!
# What sessions keep

A request that fails has no influence on what a session is asked after it. The commands of a
program are answered as over the registers alone, whatever the session was asked before, and leave
its buffers as they were. So lane `i` of a session, taken as a session of width one, answers a
program with lane `i` of the answers. Other requests write to buffers, but none of them makes a
buffer longer or shorter; that takes a request for a new one of the same name.
-/

universe u v

namespace LaneMatrix

theorem Names.eq_some_of_find {α : Type u} {r : Names α} {name : String} {value : α}
    (h : r.find name = .ok value) : r name = some value := by
  rw [find] at h
  split at h
  · next found hfound => rw [hfound, Except.ok.inj h]
  · cases h

theorem CommandError.eq_ok_of_ofFault {α : Type u} {x : Except Fault α} {value : α}
    (h : ofFault x = .ok value) : x = .ok value := by
  cases x with
  | error f => cases h
  | ok found => exact congrArg Except.ok (Except.ok.inj h)

/-- Either `x` fails, or its result has the property `P`. -/
def Yields {ε : Type u} {α : Type v} (x : Except ε α) (P : α → Prop) : Prop := ∀ a, x = .ok a → P a

theorem yields_ok {ε : Type u} {α : Type v} {P : α → Prop} {a : α} (h : P a) :
    Yields (.ok a : Except ε α) P := by
  rintro b ⟨⟩
  exact h

theorem yields_bind {ε : Type u} {α β : Type v} {x : Except ε α} {f : α → Except ε β}
    {P : β → Prop} (h : ∀ a, x = .ok a → Yields (f a) P) : Yields (x >>= f) P := by
  cases x with
  | error e => rintro b ⟨⟩
  | ok a => exact h a rfl

namespace Session

/-- How many scalars a name holds. -/
def length? {S : Type u} {W : Nat} (s : Session S W) (name : String) : Option Nat :=
  (s.buffers name).map Array.size

theorem length?_keepBuffer {S : Type u} {W : Nat} {s : Session S W} {buffer : String}
    {old content : Array S} (hfind : s.buffers.find buffer = .ok old)
    (hsize : content.size = old.size) (name : String) :
    (s.keepBuffer buffer content).2.length? name = s.length? name := by
  by_cases h : name = buffer
  · subst h
    simp [length?, keepBuffer, Names.put, Names.eq_some_of_find hfind, hsize]
  · simp [length?, keepBuffer, Names.put, h]

/-- One lane of the registers, beside the same buffers. -/
def alone {S : Type u} {W : Nat} (i : Fin W) (s : Session S W) : Session S 1 :=
  ⟨s.registers.map (Lanes.alone i), s.buffers⟩

section Requests

variable {S : Type u} {W : Nat} [Add S] [Sub S] [Mul S] [Div S] [Zero S] [One S] [BEq S]

theorem step_of_error {s : Session S W} {request : Request S W} {e : CommandError}
    (h : s.answer request = .error e) : s.step request = (.error e, s) := by
  rw [step, h]

/-- The session goes on to other registers only if the command succeeds, and keeps its buffers. -/
theorem step_command (s : Session S W) (c : Command S) :
    s.step (.command c) =
      match c.run Lanes.splat s.registers with
      | .error e => (.error e, s)
      | .ok (v, registers) => (.ok (.value v), { s with registers }) := by
  rw [step, answer]
  cases c.run Lanes.splat s.registers with
  | error e => rfl
  | ok result => rfl

theorem run_cons (s : Session S W) (request : Request S W) (rest : List (Request S W)) :
    s.run (request :: rest) = (s.step request).1 :: (s.step request).2.run rest :=
  rfl

theorem after_cons (s : Session S W) (request : Request S W) (rest : List (Request S W)) :
    s.after (request :: rest) = (s.step request).2.after rest :=
  rfl

theorem after_append (s : Session S W) (before rest : List (Request S W)) :
    s.after (before ++ rest) = (s.after before).after rest :=
  List.foldl_append

theorem run_append (s : Session S W) (before rest : List (Request S W)) :
    s.run (before ++ rest) = s.run before ++ (s.after before).run rest := by
  induction before generalizing s with
  | nil => rfl
  | cons request before ih =>
    rw [List.cons_append, run_cons, run_cons, after_cons, ih, List.cons_append]

/-- A request that fails has no influence on what is asked after it. -/
theorem run_of_failed (s : Session S W) (before rest : List (Request S W))
    {request : Request S W} {e : CommandError} (h : (s.after before).answer request = .error e) :
    (∃ answers, s.run (before ++ rest) = s.run before ++ answers ∧
      s.run (before ++ request :: rest) = s.run before ++ .error e :: answers) ∧
    s.after (before ++ request :: rest) = s.after (before ++ rest) := by
  have hstep := step_of_error h
  constructor
  · refine ⟨(s.after before).run rest, run_append s before rest, ?_⟩
    rw [run_append, run_cons, hstep]
  · rw [after_append, after_append, after_cons, hstep]

/-- A session that is handed a program only carries it out on its registers. -/
theorem run_commands (s : Session S W) (program : List (Command S)) :
    s.run (program.map .command) =
        (s.registers.run Lanes.splat program).1.map (fun answer => Answer.value <$> answer) ∧
      s.after (program.map .command) =
        { s with registers := (s.registers.run Lanes.splat program).2 } := by
  induction program generalizing s with
  | nil => exact ⟨rfl, rfl⟩
  | cons c cs ih =>
    rw [List.map_cons, run_cons, after_cons, step_command, Registers.run]
    cases c.run Lanes.splat s.registers with
    | error e =>
      -- Both sides go on from where they were.
      obtain ⟨hrun, hafter⟩ := ih s
      exact ⟨congrArg _ hrun, hafter⟩
    | ok result =>
      obtain ⟨value, next⟩ := result
      obtain ⟨hrun, hafter⟩ := ih { s with registers := next }
      exact ⟨congrArg _ hrun, hafter⟩

/-- The session of lane `i` alone answers every program with lane `i` of the answers. -/
theorem run_commands_alone (i : Fin W) (s : Session S W) (program : List (Command S)) :
    (∃ values : List (Except CommandError (Value (Lanes S W))),
      s.run (program.map .command) = values.map (fun v => Answer.value <$> v) ∧
      (s.alone i).run (program.map .command) =
        values.map (fun v => Answer.value <$> Value.map (Lanes.alone i) <$> v)) ∧
    (s.alone i).after (program.map .command) = (s.after (program.map .command)).alone i := by
  obtain ⟨hrun, hafter⟩ := run_commands s program
  obtain ⟨hrun', hafter'⟩ := run_commands (s.alone i) program
  have hlane : (s.alone i).registers.run Lanes.splat program = _ :=
    Registers.run_map (Lanes.carries_alone i) program s.registers
  rw [hlane] at hrun' hafter'
  constructor
  · refine ⟨_, hrun, ?_⟩
    rw [hrun', List.map_map]
    rfl
  · rw [hafter, hafter']
    rfl

/-- A request that succeeds keeps the length of each buffer, except of one that it sets anew. -/
theorem length?_answer (s : Session S W) {request : Request S W} {name : String}
    (h : ∀ content, request ≠ .newBuffer name content) :
    Yields (s.answer request) fun result => result.2.length? name = s.length? name := by
  cases request with
  | command c => exact yields_bind fun _ _ => yields_ok rfl
  | width => exact yields_ok rfl
  | newBuffer other content =>
    have hne : name ≠ other := by
      rintro rfl
      exact h content rfl
    refine yields_ok ?_
    simp [length?, keepBuffer, Names.put, hne]
  | showBuffer other => exact yields_bind fun _ _ => yields_ok rfl
  | lanes p into => exact yields_ok rfl
  | load buffer start into => exact yields_bind fun _ _ => yields_bind fun _ _ => yields_ok rfl
  | store a buffer start =>
    refine yields_bind fun p _ => yields_bind fun old hold => yields_bind fun content hstore => ?_
    have hsize := Lanes.size_of_store (CommandError.eq_ok_of_ofFault hstore)
    exact yields_ok (length?_keepBuffer hold hsize name)
  | loadBlock content into => exact yields_bind fun _ _ => yields_ok rfl
  | storeBlock a size => exact yields_bind fun _ _ => yields_bind fun _ _ => yields_ok rfl
  | blankBlock size => exact yields_ok rfl
  | extract a i => exact yields_bind fun _ _ => yields_bind fun _ _ => yields_ok rfl
  | sameLanes a b => exact yields_bind fun _ _ => yields_bind fun _ _ => yields_ok rfl
  | ofMatrices ms into => exact yields_bind fun _ _ => yields_ok rfl
  | loadStream buffer start into =>
    exact yields_bind fun _ _ => yields_bind fun _ _ => yields_ok rfl
  | storeStream m buffer start =>
    refine yields_bind fun p _ => yields_bind fun old hold => yields_bind fun content hstore => ?_
    have hsize := Interleaved.size_of_storeStream (CommandError.eq_ok_of_ofFault hstore)
    exact yields_ok (length?_keepBuffer hold hsize name)
  | laneMatrix m i => exact yields_bind fun _ _ => yields_bind fun _ _ => yields_ok rfl
  | toMatrices m => exact yields_bind fun _ _ => yields_bind fun _ _ => yields_ok rfl
  | sameMatrix a b => exact yields_bind fun _ _ => yields_bind fun _ _ => yields_ok rfl

theorem length?_step (s : Session S W) {request : Request S W} {name : String}
    (h : ∀ content, request ≠ .newBuffer name content) :
    (s.step request).2.length? name = s.length? name := by
  cases hanswer : s.answer request with
  | error e => rw [step_of_error hanswer]
  | ok result =>
    rw [step, hanswer]
    exact length?_answer s h result hanswer

/-- Over a whole run, whether its requests fail or not. -/
theorem length?_after (s : Session S W) {requests : List (Request S W)} {name : String}
    (h : ∀ content, .newBuffer name content ∉ requests) :
    (s.after requests).length? name = s.length? name := by
  induction requests generalizing s with
  | nil => rfl
  | cons request rest ih =>
    have hfirst : ∀ content, request ≠ .newBuffer name content := by
      rintro content rfl
      exact h content List.mem_cons_self
    have hrest : ∀ content, .newBuffer name content ∉ rest :=
      fun content hmem => h content (List.mem_cons_of_mem request hmem)
    rw [after_cons, ih (s.step request).2 hrest, length?_step s hfirst]

end Requests

end Session

end LaneMatrix
