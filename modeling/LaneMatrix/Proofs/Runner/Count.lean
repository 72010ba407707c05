import Mathlib.Data.List.Induction
import LaneMatrix.Runner.Settings

/-!
# Which settings are counts

The grammar of counts is stated apart from the reader: a numeral is built digit by digit, the value
so far counting ten times, and may have one plus sign in front. The reader accepts exactly the
numerals whose value fits into a word, however many leading zeros they have. So a variable has one
of four outcomes: it is not set, does not hold text, holds a count, or holds other text, and only
the last is warned about. How the text of a line is quoted is not looked into here.
-/

namespace LaneMatrix

namespace Count

def digit (d : Fin 10) : Char := Char.ofNat ('0'.toNat + d.val)

/-- One or more digits, with the number that they are written for. -/
inductive Digits : List Char → Nat → Prop
  | single (d : Fin 10) : Digits [digit d] d.val
  | snoc {cs : List Char} {n : Nat} (h : Digits cs n) (d : Fin 10) :
      Digits (cs ++ [digit d]) (10 * n + d.val)

/-- Digits with at most one plus sign in front. -/
inductive Numeral : List Char → Nat → Prop
  | plain {cs : List Char} {n : Nat} (h : Digits cs n) : Numeral cs n
  | signed {cs : List Char} {n : Nat} (h : Digits cs n) : Numeral ('+' :: cs) n

theorem isDigit_digit (d : Fin 10) : isDigit (digit d) = true := by
  revert d
  decide +kernel

theorem toNat_digit (d : Fin 10) : (digit d).toNat - '0'.toNat = d.val := by
  revert d
  decide +kernel

theorem exists_digit {c : Char} (h : isDigit c = true) : ∃ d : Fin 10, c = digit d := by
  simp only [isDigit, Bool.and_eq_true, decide_eq_true_eq] at h
  obtain ⟨hlow, hhigh⟩ := h
  have hlow' : 48 ≤ c.toNat := hlow
  have hhigh' : c.toNat ≤ 57 := hhigh
  refine ⟨⟨c.toNat - 48, by omega⟩, ?_⟩
  have htoNat : '0'.toNat + (c.toNat - 48) = c.toNat := by
    rw [show '0'.toNat = 48 from rfl]
    omega
  rw [digit, htoNat, Char.ofNat_toNat]

theorem value_snoc (cs : List Char) (d : Fin 10) :
    value (cs ++ [digit d]) = 10 * value cs + d.val := by
  rw [value, List.foldl_append, List.foldl_cons, List.foldl_nil, toNat_digit]
  rfl

/-- The digits of the grammar, as the reader checks them. -/
theorem digits_iff {cs : List Char} {n : Nat} :
    Digits cs n ↔ cs ≠ [] ∧ cs.all isDigit = true ∧ value cs = n := by
  constructor
  · intro h
    induction h with
    | single d =>
      refine ⟨List.cons_ne_nil _ _, ?_, ?_⟩
      · rw [List.all_cons, isDigit_digit, List.all_nil, Bool.and_true]
      · exact (value_snoc [] d).trans (Nat.zero_add _)
    | snoc h d ih =>
      obtain ⟨-, hall, hvalue⟩ := ih
      refine ⟨List.append_ne_nil_of_right_ne_nil _ (List.cons_ne_nil _ _), ?_, ?_⟩
      · rw [List.all_append, hall, List.all_cons, isDigit_digit, List.all_nil]
        rfl
      · rw [value_snoc, hvalue]
  · rintro ⟨hne, hall, rfl⟩
    -- The grammar adds digits at the end, so the list is taken apart from there.
    induction cs using List.reverseRecOn with
    | nil => exact absurd rfl hne
    | append_singleton cs c ih =>
      rw [List.all_append, Bool.and_eq_true, List.all_cons, List.all_nil, Bool.and_true] at hall
      obtain ⟨d, rfl⟩ := exists_digit hall.2
      rw [value_snoc]
      by_cases hcs : cs = []
      · subst hcs
        exact (Nat.zero_add d.val).symm ▸ Digits.single d
      · exact (ih hcs hall.1).snoc d

theorem not_digits_of_plus {rest : List Char} {n : Nat} : ¬ Digits ('+' :: rest) n := by
  intro h
  have hplus := (List.all_eq_true.mp (digits_iff.mp h).2.1) '+' List.mem_cons_self
  exact absurd hplus (by decide)

/-- A plus sign is no digit, so there is at most one way to read a numeral. -/
theorem numeral_iff {text : List Char} {n : Nat} : Numeral text n ↔ Digits (unsigned text) n := by
  fun_cases unsigned text with
  | case1 rest =>
    constructor
    · rintro (h | h)
      · exact absurd h not_digits_of_plus
      · exact h
    · exact Numeral.signed
  | case2 text hplain =>
    constructor
    · rintro (h | h)
      · exact h
      · exact absurd rfl (hplain _)
    · exact Numeral.plain

theorem ofText?_eq_some_iff {text : List Char} {n : Nat} :
    ofText? text = some n ↔ Numeral text n ∧ n < wordBound := by
  rw [numeral_iff, digits_iff, ofText?, Option.ite_none_right_eq_some, Option.some_inj]
  constructor
  · rintro ⟨⟨hne, hall, hlt⟩, rfl⟩
    exact ⟨⟨hne, hall, rfl⟩, hlt⟩
  · rintro ⟨⟨hne, hall, rfl⟩, hlt⟩
    exact ⟨⟨hne, hall, hlt⟩, rfl⟩

theorem ofText?_eq_none_iff {text : List Char} :
    ofText? text = none ↔ ∀ n, Numeral text n → wordBound ≤ n := by
  rw [Option.eq_none_iff_forall_ne_some]
  constructor
  · intro h n hn
    exact Nat.le_of_not_lt fun hlt => h n (ofText?_eq_some_iff.mpr ⟨hn, hlt⟩)
  · intro h n hsome
    obtain ⟨hn, hlt⟩ := ofText?_eq_some_iff.mp hsome
    exact absurd (h n hn) (Nat.not_le_of_lt hlt)

/-- Nothing, a lone sign, two signs, a minus sign, a space, and a digit of another script. -/
example : ∀ text ∈ ["", "+", "++5", "-5", " 5", "\u0665"], ofText? text.toList = none := by
  decide +kernel

end Count

namespace Settings

theorem fromUTF8?_toUTF8 (text : String) : String.fromUTF8? text.toUTF8 = some text :=
  dif_pos text.isValidUTF8

theorem countOr_of_count (key : String) (default : Nat) {text : String} {n : Nat}
    (h : Count.ofText? text.toList = some n) :
    countOr key default (some text.toUTF8) = (n, []) := by
  simp only [countOr, Option.bind_some, fromUTF8?_toUTF8, h]

theorem countOr_of_no_count (key : String) (default : Nat) {text : String}
    (h : Count.ofText? text.toList = none) :
    countOr key default (some text.toUTF8) = (default, [.notACount key text default]) := by
  simp only [countOr, Option.bind_some, fromUTF8?_toUTF8, h]

theorem countOr_of_not_text (key : String) (default : Nat) {bytes : ByteArray}
    (h : ¬ bytes.IsValidUTF8) : countOr key default (some bytes) = (default, []) := by
  have hnone : String.fromUTF8? bytes = none := dif_neg h
  rw [countOr, Option.bind_some, hnone]

theorem countOr_eq_iff (key : String) (default : Nat) (text : String) (n : Nat) :
    countOr key default (some text.toUTF8) = (n, []) ↔
      Count.Numeral text.toList n ∧ n < wordBound := by
  rw [← Count.ofText?_eq_some_iff]
  cases htext : Count.ofText? text.toList with
  | some m =>
    rw [countOr_of_count key default htext]
    simp
  | none =>
    rw [countOr_of_no_count key default htext]
    simp

theorem countOr_warns_iff (key : String) (default : Nat) (text : String) :
    countOr key default (some text.toUTF8) = (default, [.notACount key text default]) ↔
      ∀ n, Count.Numeral text.toList n → wordBound ≤ n := by
  rw [← Count.ofText?_eq_none_iff]
  cases htext : Count.ofText? text.toList with
  | some m =>
    rw [countOr_of_count key default htext]
    simp
  | none =>
    rw [countOr_of_no_count key default htext]
    simp

/-- What becomes of a variable, whatever it is set to. Text is taken for a number exactly when it is
a numeral for it and the number fits into a word; all other text leaves the default, with one
warning that quotes it. A variable that is not set or does not hold text leaves the default in
silence. A zero counts as one iteration and as one thread, without a warning; a batch may be
empty. -/
theorem countOr_of_every_setting :
    (∀ (key : String) (default : Nat),
      countOr key default none = (default, []) ∧
      ∀ bytes : ByteArray,
        if bytes.IsValidUTF8 then
          ∃ text : String, text.toUTF8 = bytes ∧
            (∀ n, countOr key default (some bytes) = (n, []) ↔
              Count.Numeral text.toList n ∧ n < wordBound) ∧
            (countOr key default (some bytes) = (default, [.notACount key text default]) ↔
              ∀ n, Count.Numeral text.toList n → wordBound ≤ n) ∧
            (RunnerRecord.notACount key text default).line =
              ⟨.warn, "matpacket", key ++ "=" ++ Quoted.quote text ++ " is not a count, using " ++
                toString default⟩
        else countOr key default (some bytes) = (default, [])) ∧
    ∀ env : Environment,
      let batch := countOr "MATPACKET_BATCH" 65536 env.batch
      let iterations := countOr "MATPACKET_ITERS" 5 env.iterations
      let threads := countOr "MATPACKET_THREADS" 4 env.threads
      ofEnvironment env =
        (⟨batch.1, if iterations.1 = 0 then 1 else iterations.1,
          if threads.1 = 0 then 1 else threads.1⟩, batch.2 ++ iterations.2 ++ threads.2) := by
  have hclamp (n : Nat) : max n 1 = if n = 0 then 1 else n := by
    split <;> omega
  constructor
  · intro key default
    refine ⟨rfl, ?_⟩
    intro bytes
    split
    · rename_i hvalid
      obtain ⟨text, rfl⟩ : ∃ text : String, text.toUTF8 = bytes :=
        ⟨.ofByteArray bytes hvalid, rfl⟩
      exact ⟨text, rfl, countOr_eq_iff key default text, countOr_warns_iff key default text, rfl⟩
    · rename_i hvalid
      exact countOr_of_not_text key default hvalid
  · intro env batch iterations threads
    rw [ofEnvironment, hclamp, hclamp]

end Settings

end LaneMatrix
