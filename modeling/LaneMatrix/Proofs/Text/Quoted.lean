import LaneMatrix.Text.Quoted

/-!
# Reading quoted text back

A quoted text can be read back without knowing where it ends: a reader that takes one escape at a
time finds every character again and stops at the closing quote. So two quoted texts are the same
only if the texts are, whatever follows them. The argument does not look into the tables of
characters; which ones are shown as they are makes no difference to it.
-/

namespace LaneMatrix.Quoted

/-- The value of a digit in base 16. -/
def hexDigit (c : Char) : Nat := if c.isDigit then c.toNat - 48 else c.toNat - 87

def hexValue (digits : List Char) : Nat := digits.foldl (fun n c => 16 * n + hexDigit c) 0

/-- The character that a backslash and one more stand for. -/
def short? : Char → Option Char
  | '"' => some '"'
  | '\\' => some '\\'
  | 't' => some '\t'
  | 'n' => some '\n'
  | 'r' => some '\r'
  | '0' => some '\x00'
  | _ => none

/-- The next character of a quoted text and what comes after it; none at the closing quote. -/
def next? : List Char → Option (Char × List Char)
  | [] => none
  | '"' :: _ => none
  | '\\' :: 'u' :: '\x7b' :: rest =>
    some (Char.ofNat (hexValue (rest.takeWhile (· ≠ '\x7d'))), (rest.dropWhile (· ≠ '\x7d')).tail)
  | '\\' :: c :: rest => (short? c).map fun d => (d, rest)
  | c :: rest => some (c, rest)

theorem hexDigit_digitChar {d : Nat} (h : d < 16) : hexDigit d.digitChar = d := by
  revert d
  decide

theorem digitChar_ne_brace {d : Nat} (h : d < 16) : d.digitChar ≠ '\x7d' := by
  revert d
  decide

theorem hexValue_toDigits (n : Nat) : hexValue (Nat.toDigits 16 n) = n := by
  induction n using Nat.strongRecOn with
  | ind n ih =>
    rw [Nat.toDigits_eq_if (by decide)]
    split
    · rename_i hlt
      exact (Nat.zero_add _).trans (hexDigit_digitChar hlt)
    · rw [hexValue, List.foldl_append, ← hexValue, ih (n / 16) (by omega), List.foldl_cons,
        List.foldl_nil, hexDigit_digitChar (Nat.mod_lt n (by decide)), Nat.div_add_mod]

theorem ne_brace_of_mem_toDigits (n : Nat) : ∀ c ∈ Nat.toDigits 16 n, c ≠ '\x7d' := by
  induction n using Nat.strongRecOn with
  | ind n ih =>
    rw [Nat.toDigits_eq_if (by decide)]
    split
    · rename_i hlt
      intro c hc
      rw [List.mem_singleton.mp hc]
      exact digitChar_ne_brace hlt
    · intro c hc
      rcases List.mem_append.mp hc with hc | hc
      · exact ih (n / 16) (by omega) c hc
      · rw [List.mem_singleton.mp hc]
        exact digitChar_ne_brace (Nat.mod_lt n (by decide))

theorem next?_of_ne {c : Char} (hquote : c ≠ '"') (hescape : c ≠ '\\') (rest : List Char) :
    next? (c :: rest) = some (c, rest) := by
  simp [next?, hescape]

/-- A character that is written by its number. -/
theorem next?_number (c : Char) (rest : List Char) :
    next? (['\\', 'u', '\x7b'] ++ Nat.toDigits 16 c.toNat ++ ['\x7d'] ++ rest) =
      some (c, rest) := by
  have hdigits : ∀ x ∈ Nat.toDigits 16 c.toNat, decide (x ≠ '\x7d') = true := fun x hx =>
    decide_eq_true (ne_brace_of_mem_toDigits c.toNat x hx)
  simp only [List.append_assoc, List.cons_append, List.nil_append, next?]
  rw [List.takeWhile_append_of_pos hdigits, List.dropWhile_append_of_pos hdigits,
    List.takeWhile_cons_of_neg (by decide), List.dropWhile_cons_of_neg (by decide),
    List.append_nil, hexValue_toDigits, Char.ofNat_toNat, List.tail_cons]

/-- Every escape is read as the character it stands for, whatever comes after it. -/
theorem next?_escape (c : Char) (rest : List Char) :
    next? (escape c ++ rest) = some (c, rest) := by
  rw [escape]
  split
  · subst_vars; rfl
  split
  · subst_vars; rfl
  split
  · subst_vars; rfl
  split
  · subst_vars; rfl
  split
  · subst_vars; rfl
  split
  · subst_vars; rfl
  split
  · rename_i hquote hescape _ _ _ _ _
    exact next?_of_ne hquote hescape rest
  · exact next?_number c rest

/-- Two quoted texts with something after them are the same only if both parts are. -/
theorem body_append_inj {s t rest more : List Char}
    (h : s.flatMap escape ++ '"' :: rest = t.flatMap escape ++ '"' :: more) :
    s = t ∧ rest = more := by
  -- Both are read at once: as long as one goes on with an escape, so does the other.
  induction s generalizing t with
  | nil =>
    cases t with
    | nil => exact ⟨rfl, (List.cons.inj h).2⟩
    | cons d t =>
      have hread := congrArg next? h
      rw [List.flatMap_cons, List.append_assoc, next?_escape] at hread
      cases hread
  | cons c s ih =>
    have hread := congrArg next? h
    rw [List.flatMap_cons, List.append_assoc, next?_escape] at hread
    cases t with
    | nil => cases hread
    | cons d t =>
      rw [List.flatMap_cons, List.append_assoc, next?_escape] at hread
      obtain ⟨rfl, hrest⟩ := Prod.mk.inj (Option.some.inj hread)
      obtain ⟨rfl, hmore⟩ := ih hrest
      exact ⟨rfl, hmore⟩

theorem encode_append_inj {s t rest more : List Char}
    (h : encode s ++ rest = encode t ++ more) : s = t ∧ rest = more := by
  simp only [encode, List.cons_append, List.append_assoc, List.cons.injEq, List.nil_append] at h
  exact body_append_inj h.2

theorem quote_inj {s t : String} (h : quote s = quote t) : s = t := by
  have hlist := congrArg String.toList h
  rw [quote, quote, String.toList_ofList, String.toList_ofList, ← List.append_nil (encode s.toList),
    ← List.append_nil (encode t.toList)] at hlist
  exact String.toList_inj.mp (encode_append_inj hlist).1

end LaneMatrix.Quoted
