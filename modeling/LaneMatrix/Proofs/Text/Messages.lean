import LaneMatrix.Failure
import LaneMatrix.Proofs.Text.Quoted

/-!
# Error texts tell errors apart

Both texts of an argument error determine it. A message starts with a name that may be any text,
also one that looks like another message, so it is taken apart from its end: each message ends in a
count, and a count after a blank is read backwards up to the blank. The detailed text is taken apart
in the same way up to the name, which stands in quotes, and quoting can be undone. The names are not
limited to characters that are shown as they are.
-/

universe u

namespace LaneMatrix

/-- A run of items of one kind that stops before an item of another kind, or at the end. -/
theorem run_append_inj {α : Type u} {p : α → Bool} {xs ys rest more : List α}
    (hx : ∀ a ∈ xs, p a = true) (hy : ∀ a ∈ ys, p a = true)
    (hrest : ∀ a ∈ rest.head?, p a = false) (hmore : ∀ a ∈ more.head?, p a = false)
    (h : xs ++ rest = ys ++ more) : xs = ys ∧ rest = more := by
  have hstop : ∀ {l : List α}, (∀ a ∈ l.head?, p a = false) → l.takeWhile p = [] := by
    rintro (_ | ⟨a, l⟩) hl
    · rfl
    · exact List.takeWhile_cons_of_neg (by simp [hl a rfl])
  have hrun := congrArg (List.takeWhile p) h
  rw [List.takeWhile_append_of_pos hx, List.takeWhile_append_of_pos hy, hstop hrest, hstop hmore,
    List.append_nil, List.append_nil] at hrun
  subst hrun
  exact ⟨rfl, List.append_cancel_left h⟩

theorem toDigits_inj {m n : Nat} (h : Nat.toDigits 10 m = Nat.toDigits 10 n) : m = n := by
  rw [← Nat.ofDigitChars_ten_toDigits (n := m), h, Nat.ofDigitChars_ten_toDigits]

theorem toString_inj {m n : Nat} (h : toString m = toString n) : m = n := by
  have hlist := congrArg String.toList h
  rw [Nat.toString_eq_repr, Nat.toString_eq_repr, Nat.toList_repr, Nat.toList_repr] at hlist
  exact toDigits_inj hlist

def EndsInBlank (s : String) : Prop := s.toList.getLast? = some ' '

instance (s : String) : Decidable (EndsInBlank s) :=
  inferInstanceAs (Decidable (s.toList.getLast? = some ' '))

theorem endsInBlank_append (s : String) {t : String} (h : EndsInBlank t) :
    EndsInBlank (s ++ t) := by
  rw [EndsInBlank] at h
  rw [EndsInBlank, String.toList_append, List.getLast?_append, h, Option.some_or]

/-- A count after a blank is read backwards, whatever text stands before the blank. -/
theorem append_toString_inj {s t : String} {m n : Nat} (hs : EndsInBlank s) (ht : EndsInBlank t)
    (h : s ++ toString m = t ++ toString n) : s = t ∧ m = n := by
  have hdigits (k : Nat) : ∀ c ∈ (Nat.toDigits 10 k).reverse, c.isDigit = true := fun c hc =>
    Nat.isDigit_of_mem_toDigits (by decide) (by decide) (List.mem_reverse.mp hc)
  have hblank {s : String} (hs : EndsInBlank s) :
      ∀ c ∈ s.toList.reverse.head?, c.isDigit = false := by
    intro c hc
    rw [List.head?_reverse, hs] at hc
    exact Option.some.inj hc ▸ rfl
  -- Backwards the digits come first, and the blank is where they stop.
  have hlist := congrArg (fun s => s.toList.reverse) h
  simp only [String.toList_append, List.reverse_append, Nat.toString_eq_repr, Nat.toList_repr]
    at hlist
  obtain ⟨hcounts, hfronts⟩ := run_append_inj (hdigits m) (hdigits n) (hblank hs) (hblank ht) hlist
  exact ⟨String.toList_inj.mp (List.reverse_inj.mp hfronts),
    toDigits_inj (List.reverse_inj.mp hcounts)⟩

theorem append_count_inj {s t blank : String} {m n : Nat} (hblank : EndsInBlank blank)
    (h : s ++ blank ++ toString m = t ++ blank ++ toString n) : s = t ∧ m = n := by
  obtain ⟨hfront, hcount⟩ :=
    append_toString_inj (endsInBlank_append s hblank) (endsInBlank_append t hblank) h
  exact ⟨(String.append_left_inj blank).mp hfront, hcount⟩

namespace ArgumentError

/-- A value for each kind of error. -/
def mark {α : Type u} (a b c : α) : ArgumentError → α
  | laneCount _ _ => a
  | length _ _ _ => b
  | noThreads => c

inductive SameKind : ArgumentError → ArgumentError → Prop
  | laneCount (m n k l : Nat) : SameKind (laneCount m n) (laneCount k l)
  | length (s t : String) (m n k l : Nat) : SameKind (length s m n) (length t k l)
  | noThreads : SameKind noThreads noThreads

theorem sameKind_of_mark {α : Type u} {a b c : α} (hab : a ≠ b) (hac : a ≠ c) (hbc : b ≠ c)
    {e f : ArgumentError} (h : e.mark a b c = f.mark a b c) : SameKind e f := by
  match e, f with
  | laneCount m n, laneCount k l => exact .laneCount m n k l
  | laneCount _ _, length _ _ _ => exact absurd h hab
  | laneCount _ _, noThreads => exact absurd h hac
  | length _ _ _, laneCount _ _ => exact absurd h.symm hab
  | length s m n, length t k l => exact .length s t m n k l
  | length _ _ _, noThreads => exact absurd h hbc
  | noThreads, laneCount _ _ => exact absurd h.symm hac
  | noThreads, length _ _ _ => exact absurd h.symm hbc
  | noThreads, noThreads => exact .noThreads

/-- What stands in a message before its last count. -/
def opening : ArgumentError → String
  | laneCount expected _ => s!"expected {expected} matrices (one per lane), got "
  | length name expected _ => s!"{name}: expected {expected} matrices, got "
  | noThreads => "thread count must be at least "

def lastCount : ArgumentError → Nat
  | laneCount _ actual => actual
  | length _ _ actual => actual
  | noThreads => 1

theorem message_eq (e : ArgumentError) : e.message = e.opening ++ toString e.lastCount := by
  cases e with
  | laneCount expected actual => rfl
  | length name expected actual => rfl
  | noThreads => decide +kernel

theorem endsInBlank_opening (e : ArgumentError) : EndsInBlank e.opening := by
  cases e with
  | laneCount expected actual => exact endsInBlank_append _ (by decide +kernel)
  | length name expected actual => exact endsInBlank_append _ (by decide +kernel)
  | noThreads => decide +kernel

/-- Before the last count, the messages differ in the seventh character from the end. -/
theorem getElem?_reverse_opening (e : ArgumentError) :
    e.opening.toList.reverse[6]? = some (e.mark ')' 's' ' ') := by
  cases e with
  | laneCount expected actual =>
    simp only [opening, String.toList_append, List.reverse_append]
    rfl
  | length name expected actual =>
    simp only [opening, String.toList_append, List.reverse_append]
    rfl
  | noThreads => decide +kernel

theorem opening_inj {e f : ArgumentError} (h : e.opening = f.opening)
    (hlast : e.lastCount = f.lastCount) : e = f := by
  have hmark := congrArg (fun s => s.toList.reverse[6]?) h
  simp only [getElem?_reverse_opening, Option.some.injEq] at hmark
  cases sameKind_of_mark (by decide) (by decide) (by decide) hmark with
  | laneCount m n k l =>
    simp only [opening, String.append_right_inj, String.append_left_inj] at h
    obtain rfl := toString_inj h
    exact congrArg (laneCount m) hlast
  | length s t m n k l =>
    simp only [opening, String.append_left_inj] at h
    obtain ⟨rfl, rfl⟩ : s = t ∧ m = k := append_count_inj (by decide +kernel) h
    exact congrArg (length s m) hlast
  | noThreads => rfl

theorem message_inj {e f : ArgumentError} (h : e.message = f.message) : e = f := by
  rw [message_eq, message_eq] at h
  obtain ⟨hopening, hlast⟩ :=
    append_toString_inj (endsInBlank_opening e) (endsInBlank_opening f) h
  exact opening_inj hopening hlast

/-- The detailed texts differ in their fourth character. -/
theorem getElem?_details (e : ArgumentError) :
    e.details.toList[3]? = some (e.mark 'e' 'g' 'o') := by
  cases e with
  | laneCount expected actual =>
    simp only [details, label, String.toList_append, List.append_assoc]
    rfl
  | length name expected actual =>
    simp only [details, label, String.toList_append, List.append_assoc]
    rfl
  | noThreads => decide +kernel

theorem details_inj {e f : ArgumentError} (h : e.details = f.details) : e = f := by
  have hmark := congrArg (fun s => s.toList[3]?) h
  simp only [getElem?_details, Option.some.injEq] at hmark
  cases sameKind_of_mark (by decide) (by decide) (by decide) hmark with
  | laneCount m n k l =>
    simp only [details, label, String.append_left_inj] at h
    obtain ⟨hfront, rfl⟩ := append_count_inj (by decide +kernel) h
    obtain ⟨-, rfl⟩ := append_count_inj (by decide +kernel) hfront
    rfl
  | length s t m n k l =>
    simp only [details, label, String.append_left_inj, ← String.append_assoc] at h
    obtain ⟨hfront, rfl⟩ := append_count_inj (by decide +kernel) h
    obtain ⟨hname, rfl⟩ := append_count_inj (by decide +kernel) hfront
    obtain rfl := Quoted.quote_inj ((String.append_right_inj _).mp hname)
    rfl
  | noThreads => rfl

/-- The message of an error, and its detailed text, are those of no other error: of no other kind,
with no other count, and with no other name, whatever characters the names are made of. -/
theorem texts_tell_errors_apart (e f : ArgumentError) :
    (e.message = f.message ↔ e = f) ∧ (e.details = f.details ↔ e = f) :=
  ⟨⟨message_inj, congrArg message⟩, ⟨details_inj, congrArg details⟩⟩

end ArgumentError

end LaneMatrix
