import LaneMatrix.Runner.Row

/-!
# What is shown of a run

A measured row is shown with its time and its rate, a record with its level and its target. A
quotient of two natural numbers is written with a fixed number of places behind the point, rounded
to the nearest such number; of two that are equally near, the even one is taken.
-/

namespace LaneMatrix.Fixed

def roundedDiv (num den : Nat) : Nat :=
  let q := num / den
  let r := num % den
  if den < 2 * r ∨ (den = 2 * r ∧ q % 2 = 1) then q + 1 else q

def padLeft (width : Nat) (text : String) : String :=
  String.ofList (List.replicate (width - text.length) ' ') ++ text

def padRight (width : Nat) (text : String) : String :=
  text ++ String.ofList (List.replicate (width - text.length) ' ')

def zeroPadded (places n : Nat) : String :=
  let digits := toString n
  String.ofList (List.replicate (places - digits.length) '0') ++ digits

/-- A quotient by zero is not finite, and none at all if its numerator is zero too. -/
def text (places num den : Nat) : String :=
  if den = 0 then if num = 0 then "NaN" else "inf"
  else
    let unit := Nat.pow 10 places
    let scaled := roundedDiv (num * unit) den
    s!"{scaled / unit}.{zeroPadded places (scaled % unit)}"

example : text 3 1 8 = "0.125" ∧ text 2 1 8 = "0.12" ∧ text 2 3 8 = "0.38" := by decide +kernel

end LaneMatrix.Fixed

namespace LaneMatrix.Runner

def rowText (row : Row) (s : Settings) (nanoseconds : Nat) : String :=
  let time := Fixed.text 3 nanoseconds (s.iterations * 1000000)
  let rate := Fixed.text 2 (s.batch * s.iterations * 1000) nanoseconds
  s!"{Fixed.padRight 18 row.name} {Fixed.padLeft 9 time} ms  {Fixed.padLeft 8 rate} M mat/s"

def logText (l : Log.Line) : String :=
  s!"[{Fixed.padRight 5 l.level.text} {l.target}] {l.text}"

end LaneMatrix.Runner
