import ChartParsing.Symbol

/-!
# Reading joined texts

Texts that are joined with a separator are read back if none of them contains it, and a number is
read back if no digit follows it. These two facts are behind all that is said of printed edges,
charts and graphs.

Main lemmas: `eq_of_intercalate_eq`, `splitLines_join` and `number_append_inj`.
-/

set_option autoImplicit false

namespace ChartParsing

/-! ## Separators -/

/-- **Texts are determined by what they are joined to**, if the separator is in none of them. -/
theorem eq_of_intercalate_eq {c : Char} {texts others : List String}
    (hne : texts ≠ []) (hne' : others ≠ [])
    (htexts : ∀ t ∈ texts, c ∉ t.toList) (hothers : ∀ t ∈ others, c ∉ t.toList)
    (h : (String.singleton c).intercalate texts = (String.singleton c).intercalate others) :
    texts = others := by
  have hsplit := String.toList_split_intercalate htexts
  have hsplit' := String.toList_split_intercalate hothers
  rw [if_neg hne] at hsplit
  rw [if_neg hne'] at hsplit'
  rw [← hsplit, ← hsplit', h]

/-- The lines of a text; behind a newline at its end there is an empty one. -/
def splitLines (text : String) : List String := (text.split '\n').toList.map fun line => line.copy

theorem join_map_newline (lines : List String) :
    String.join (lines.map (· ++ "\n")) = (String.singleton '\n').intercalate (lines ++ [""]) := by
  induction lines with
  | nil => rfl
  | cons line rest ih =>
      have hne : rest ++ [""] ≠ [] := by simp
      rw [List.map_cons, String.join_cons, ih, List.cons_append, String.intercalate_cons_of_ne_nil hne]
      rfl

/-- **Lines are read back** from a text in which each of them has a newline at its end. -/
theorem splitLines_join {lines : List String} (h : ∀ line ∈ lines, '\n' ∉ line.toList) :
    splitLines (String.join (lines.map (· ++ "\n"))) = lines ++ [""] := by
  have hlines : ∀ line ∈ lines ++ [""], '\n' ∉ line.toList := by
    intro line hline
    rcases List.mem_append.mp hline with hline | hline
    · exact h line hline
    · rw [List.mem_singleton.mp hline]
      exact List.not_mem_nil
  rw [splitLines, join_map_newline, String.toList_split_intercalate hlines, if_neg (by simp)]

/-! ## Symbols behind spaces -/

/-- Symbols behind spaces are joined by spaces to what stands before them. -/
theorem append_spaced (first : String) (symbols : List Symbol) :
    first ++ spaced symbols = " ".intercalate (first :: symbols) := by
  induction symbols generalizing first with
  | nil => simp [spaced]
  | cons s rest ih =>
      rw [spaced, String.append_assoc, ih s, String.intercalate_cons_cons, String.append_assoc]

/-- A text and the symbols behind it are read back if no space is in them. -/
theorem append_spaced_inj {first second : String} {symbols others : List Symbol}
    (hfirst : ∀ s ∈ first :: symbols, ' ' ∉ s.toList) (hsecond : ∀ s ∈ second :: others, ' ' ∉ s.toList)
    (h : first ++ spaced symbols = second ++ spaced others) : first = second ∧ symbols = others := by
  have hspace : " " = String.singleton ' ' := rfl
  rw [append_spaced, append_spaced, hspace] at h
  have hpieces := eq_of_intercalate_eq (List.cons_ne_nil _ _) (List.cons_ne_nil _ _) hfirst hsecond h
  exact List.cons.inj hpieces

/-- Symbols behind spaces have no character but those of the symbols and the space. -/
theorem notMem_toList_spaced {c : Char} (hc : c ≠ ' ') {symbols : List Symbol}
    (h : ∀ s ∈ symbols, c ∉ s.toList) : c ∉ (spaced symbols).toList := by
  induction symbols with
  | nil => simp [spaced]
  | cons s rest ih =>
      obtain ⟨hs, hrest⟩ := List.forall_mem_cons.mp h
      simp [spaced, hc, hs, ih hrest]

/-! ## Numbers -/

theorem isDigit_of_mem_toString {n : Nat} {c : Char} (h : c ∈ (toString n).toList) :
    c.isDigit = true := by
  rw [Nat.toString_eq_ofList_toDigits, String.toList_ofList] at h
  exact Nat.isDigit_of_mem_toDigits (by decide) (by decide) h

theorem notMem_toString {c : Char} (hc : c.isDigit = false) (n : Nat) : c ∉ (toString n).toList :=
  fun hmem => Bool.false_ne_true (hc.symm.trans (isDigit_of_mem_toString hmem))

/-- A number is written with at least one digit. -/
theorem exists_toList_toString (n : Nat) :
    ∃ c rest, (toString n).toList = c :: rest ∧ c.isDigit = true := by
  have hne : (toString n).toList ≠ [] := by
    rw [Nat.toString_eq_ofList_toDigits, String.toList_ofList]
    exact Nat.toDigits_ne_nil
  obtain ⟨c, rest, hdigits⟩ := List.exists_cons_of_ne_nil hne
  exact ⟨c, rest, hdigits, isDigit_of_mem_toString (hdigits ▸ List.mem_cons_self)⟩

theorem toString_injective {m n : Nat} (h : toString m = toString n) : m = n := by
  have hvalue := congrArg (fun digits => Nat.ofDigitChars 10 digits.toList 0) h
  simpa [Nat.toString_eq_ofList_toDigits] using hvalue

/-- The digits of a number are what stands in front of the first character that is none. -/
theorem takeWhile_toString_append (n : Nat) {rest : String}
    (hrest : ∀ c ∈ rest.toList.head?, c.isDigit = false) :
    (toString n ++ rest).toList.takeWhile Char.isDigit = (toString n).toList := by
  have hnone : rest.toList.takeWhile Char.isDigit = [] := by
    cases hcase : rest.toList with
    | nil => rfl
    | cons c tail =>
        have hc : c.isDigit = false := hrest c (by rw [hcase]; rfl)
        rw [List.takeWhile_cons_of_neg (by simp [hc])]
  rw [String.toList_append, List.takeWhile_append_of_pos fun c hc => isDigit_of_mem_toString hc, hnone,
    List.append_nil]

/-- **A number and what follows it are read back**, if it is not followed by a digit. -/
theorem number_append_inj {m n : Nat} {first second : String}
    (hfirst : ∀ c ∈ first.toList.head?, c.isDigit = false)
    (hsecond : ∀ c ∈ second.toList.head?, c.isDigit = false)
    (h : toString m ++ first = toString n ++ second) : m = n ∧ first = second := by
  have hdigits : (toString m).toList = (toString n).toList := by
    rw [← takeWhile_toString_append m hfirst, ← takeWhile_toString_append n hsecond, h]
  have hnumber : m = n := toString_injective (String.toList_inj.mp hdigits)
  rw [hnumber] at h
  exact ⟨hnumber, (String.append_right_inj _).mp h⟩

end ChartParsing
