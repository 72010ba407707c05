import LaneMatrix.Proofs.Batch.Parallel

/-!
# Outcomes of batch calls

How a call ends is settled by the lengths of the lists, the width and the limit of threads: the
complaints are looked for in a fixed order, and the first one counts. All of them come before the
first write and the first record, so a call that fails has done nothing.
-/

universe u

namespace LaneMatrix.Batch

/-- A plain call, or a call on up to so many threads. -/
def call {S : Type u} [Add S] [Sub S] [Mul S] [Div S] [Zero S] [One S] (W : Nat)
    (batch : Batch S) (out : Array (Mat4 S)) : Option Nat → Call (Mat4 S)
  | none => batch.run W out
  | some limit => batch.runParallel W out limit

/-- What a call on lists of these lengths comes to: the first line that applies. -/
def Shape.verdict (W : Nat) (s : Shape) (outLength : Nat) (limit : Option Nat) :
    Except Failure Unit :=
  let second := s.second.getD s.count
  if limit = some 0 then .error (.argument .noThreads)
  else if second ≠ s.count then .error (.argument (.length "b" s.count second))
  else if outLength ≠ s.count then .error (.argument (.length "out" s.count outLength))
  else if W = 0 then .error (.fault (if limit = none then .lane 0 0 else .divisor))
  else .ok ()

theorem checkLength_of_ne {name : String} {expected actual : Nat} (h : actual ≠ expected) :
    checkLength name expected actual = .error (.length name expected actual) :=
  if_neg (Ne.symm h)

/-- The second list is looked at first. -/
theorem check_of_second_ne {s : Shape} (h : s.second.getD s.count ≠ s.count) (outLength : Nat) :
    s.check outLength = .error (.length "b" s.count (s.second.getD s.count)) := by
  obtain ⟨count, second⟩ := s
  cases second with
  | none => exact absurd rfl h
  | some length =>
    have hb : checkLength "b" count length = .error (.length "b" count length) :=
      checkLength_of_ne h
    simp only [Shape.check, hb]
    rfl

theorem check_of_second_eq {s : Shape} (h : s.second.getD s.count = s.count) (outLength : Nat) :
    s.check outLength = checkLength "out" s.count outLength := by
  obtain ⟨count, second⟩ := s
  cases second with
  | none => rfl
  | some length =>
    have hb : checkLength "b" count length = .ok () := checkLength_eq_ok_iff.mpr h
    simp only [Shape.check, hb]
    rfl

section Calls

variable {S : Type u} [Add S] [Sub S] [Mul S] [Div S] [Zero S] [One S] {W : Nat}
  {batch : Batch S} {out : Array (Mat4 S)} {limit : Option Nat}

theorem call_of_no_threads (W : Nat) (batch : Batch S) (out : Array (Mat4 S)) :
    batch.call W out (some 0) = .refused (.argument .noThreads) out := rfl

theorem call_of_check_error (W : Nat) (hlimit : limit ≠ some 0) {e : ArgumentError}
    (h : batch.shape.check out.size = .error e) :
    batch.call W out limit = .refused (.argument e) out := by
  cases limit with
  | none => rw [call, run, h]
  | some limit =>
    have hpos : limit ≠ 0 := fun hzero => hlimit (congrArg some hzero)
    rw [call, runParallel, if_neg hpos, h]

theorem call_of_zero_width (hlimit : limit ≠ some 0) (hb : batch.Fits out.size) :
    batch.call 0 out limit =
      .refused (.fault (if limit = none then .lane 0 0 else .divisor)) out := by
  have hcheck := check_eq_ok_iff.mpr hb
  cases limit with
  | none =>
    rw [call, run, hcheck]
    rfl
  | some limit =>
    have hpos : limit ≠ 0 := fun hzero => hlimit (congrArg some hzero)
    rw [call, runParallel, if_neg hpos, hcheck]
    rfl

theorem outcome_call_of_fits (hlimit : limit ≠ some 0) (hb : batch.Fits out.size)
    (hW : 0 < W) : (batch.call W out limit).outcome = .ok () := by
  cases limit with
  | none => rw [call, run_eq hW hb]
  | some limit =>
    have hpos : limit ≠ 0 := fun hzero => hlimit (congrArg some hzero)
    exact (runParallel_results hW (Nat.pos_iff_ne_zero.mpr hpos) hb).1

/-- A call either goes through or is refused as its verdict says, and then nothing has happened. -/
theorem call_refused_or_ok (W : Nat) (batch : Batch S) (out : Array (Mat4 S))
    (limit : Option Nat) :
    match batch.shape.verdict W out.size limit with
    | .ok () => (batch.call W out limit).outcome = .ok ()
    | .error e => batch.call W out limit = .refused e out := by
  by_cases hlimit : limit = some 0
  · subst hlimit
    exact call_of_no_threads W batch out
  by_cases hsecond : batch.shape.second.getD batch.shape.count = batch.shape.count
  · have hcheck := check_of_second_eq hsecond out.size
    by_cases hout : out.size = batch.shape.count
    · have hb := check_eq_ok_iff.mp (hcheck.trans (checkLength_eq_ok_iff.mpr hout))
      rcases Nat.eq_zero_or_pos W with rfl | hW
      · simpa [Shape.verdict, hlimit, hsecond, hout] using call_of_zero_width hlimit hb
      · have hW0 : W ≠ 0 := Nat.pos_iff_ne_zero.mp hW
        simpa [Shape.verdict, hlimit, hsecond, hout, hW0] using outcome_call_of_fits hlimit hb hW
    · have hrefused := call_of_check_error W hlimit (hcheck.trans (checkLength_of_ne hout))
      simpa [Shape.verdict, hlimit, hsecond, hout] using hrefused
  · have hrefused := call_of_check_error W hlimit (check_of_second_ne hsecond out.size)
    simpa [Shape.verdict, hlimit, hsecond] using hrefused

/-- How a call ends depends on lengths, width and limit alone. Unless it goes through, the output
is as it was and nothing has been logged. Without any lane a plain call ends at lane 0, and a
parallel one, whose thread choice divides by the width, without a message. -/
theorem outcome_call (W : Nat) (batch : Batch S) (out : Array (Mat4 S)) (limit : Option Nat) :
    (batch.call W out limit).outcome = batch.shape.verdict W out.size limit ∧
      ((batch.call W out limit).outcome = .ok () ∨
        (batch.call W out limit).out = out ∧ (batch.call W out limit).log = []) ∧
      (Fault.lane 0 0).message? = some "lane 0 out of range for width 0" ∧
      Fault.divisor.message? = none := by
  have hcall := call_refused_or_ok W batch out limit
  cases hverdict : batch.shape.verdict W out.size limit with
  | error e =>
    simp only [hverdict] at hcall
    rw [hcall]
    exact ⟨rfl, Or.inr ⟨rfl, rfl⟩, by decide +kernel, rfl⟩
  | ok _ =>
    simp only [hverdict] at hcall
    exact ⟨hcall, Or.inl hcall, by decide +kernel, rfl⟩

/-- Every complaint at once: they are made one by one as the earlier ones are met. -/
example :
    (⟨3, some 2⟩ : Shape).verdict 0 1 (some 0) = .error (.argument .noThreads) ∧
      (⟨3, some 2⟩ : Shape).verdict 0 1 (some 4) = .error (.argument (.length "b" 3 2)) ∧
      (⟨3, some 3⟩ : Shape).verdict 0 1 (some 4) = .error (.argument (.length "out" 3 1)) ∧
      (⟨3, some 3⟩ : Shape).verdict 0 3 (some 4) = .error (.fault .divisor) ∧
      (⟨0, none⟩ : Shape).verdict 0 0 none = .error (.fault (.lane 0 0)) :=
  ⟨rfl, rfl, rfl, rfl, rfl⟩

end Calls

end LaneMatrix.Batch
