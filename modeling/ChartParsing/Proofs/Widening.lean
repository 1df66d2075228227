import Mathlib.Algebra.Order.BigOperators.Group.List
import Mathlib.Algebra.Order.Ring.Nat
import ChartParsing.Proofs.RuleLayout

/-!
# A wider line never needs more breaks

Two greedy fills of the same symbols, within different widths, break at different symbols, and their
lines are indented differently. The wider one never falls behind: as long as it has taken as many
breaks as the narrower one, it has at least as much room left on its line (`count_fill_le`). So the
text of a rule, or of a grammar, has no more lines when the width grows (`breaks_antitone`).
-/

set_option autoImplicit false

namespace ChartParsing

/-! ## Line ends -/

/-- The number of line ends in a text. -/
def lineEnds (text : String) : Nat := text.toList.count '\n'

theorem lineEnds_append (first second : String) :
    lineEnds (first ++ second) = lineEnds first + lineEnds second := by
  simp [lineEnds]

theorem lineEnds_separator (i : Nat) (separator : Separator) :
    lineEnds (separator.text i) = [separator].count .newline := by
  cases separator with
  | space => cases i <;> simp [lineEnds, Separator.text]
  | newline => cases i <;> simp [lineEnds, Separator.text]

theorem lineEnds_space : lineEnds " " = 0 := rfl

/-- The separators that are line ends come on top of the line ends inside the symbols. -/
theorem lineEnds_separated (i : Nat) {separators : List Separator} {symbols : List Symbol}
    (h : separators.length = symbols.length) :
    lineEnds (separated i (separators.zip symbols)) =
      lineEnds (spaced symbols) + separators.count .newline := by
  induction symbols generalizing i separators with
  | nil => simp [List.length_eq_zero_iff.mp h, separated, spaced]
  | cons s rest ih =>
      cases separators with
      | nil => simp at h
      | cons separator separators =>
          have hrest := ih (i + 1) (Nat.succ.inj h)
          have hcount : (separator :: separators).count .newline =
              [separator].count .newline + separators.count .newline := by
            rw [← List.count_append, List.singleton_append]
          rw [List.zip_cons_cons, separated, spaced, lineEnds_append, lineEnds_append, lineEnds_append,
            lineEnds_append, lineEnds_separator, lineEnds_space, hrest, hcount]
          omega

/-! ## Two fills of the same symbols -/

/-- **The wider fill has at most one break more from here on, and none if it has as much room left on
its line.** It can only break where the narrower fill does, unless the narrower one is ahead by a
break; and a break that is made up for costs an indentation of two at most, which is no more than
the space that the narrower fill has on its line and the difference of the widths. -/
theorem count_fill_le {narrow wide : Nat} (h : narrow < wide) (i : Nat) (slim broad : Line)
    (symbols : List Symbol) :
    (fill wide i broad symbols).count .newline ≤ (fill narrow i slim symbols).count .newline + 1 ∧
      (broad.width + narrow ≤ slim.width + wide →
        (fill wide i broad symbols).count .newline ≤ (fill narrow i slim symbols).count .newline) := by
  induction symbols generalizing i slim broad with
  | nil => simp [fill]
  | cons s rest ih =>
      have hindent : indentAt i ≤ 2 := by cases i <;> simp [indentAt]
      by_cases hbroad : wide < broad.width + 1 + s.utf8ByteSize
      · by_cases hslim : narrow < slim.width + 1 + s.utf8ByteSize
        · -- both break here, and their lines are the same
          obtain ⟨-, hroom⟩ := ih (i + 1) (slim.next i s .newline) (broad.next i s .newline)
          have hrest := hroom (by simp only [Line.width_next_newline]; omega)
          simp only [fill, hbroad, hslim, if_true, List.count_cons_self]
          omega
        · -- the wider fill makes up for an earlier break of the narrower one
          obtain ⟨-, hroom⟩ := ih (i + 1) (slim.next i s .space) (broad.next i s .newline)
          have hrest := hroom (by simp only [Line.width_next_newline, Line.width_next_space]; omega)
          simp only [fill, hbroad, hslim, if_true, if_false, List.count_cons_self]
          rw [List.count_cons_of_ne (by decide)]
          omega
      · by_cases hslim : narrow < slim.width + 1 + s.utf8ByteSize
        · obtain ⟨hrest, -⟩ := ih (i + 1) (slim.next i s .newline) (broad.next i s .space)
          simp only [fill, hbroad, hslim, if_true, if_false, List.count_cons_self]
          rw [List.count_cons_of_ne (by decide)]
          omega
        · obtain ⟨hrest, hroom⟩ := ih (i + 1) (slim.next i s .space) (broad.next i s .space)
          simp only [Line.width_next_space] at hroom
          simp only [fill, hbroad, hslim, if_false]
          rw [List.count_cons_of_ne (by decide), List.count_cons_of_ne (by decide)]
          omega

/-! ## Breaks of rules and grammars -/

/-- The number of optional line ends of a rule that are taken. -/
def Rule.breaks (width : Nat) (r : Rule) : Nat := (r.separators width).count .newline

/-- The number of optional line ends of all rules that are taken. -/
def Grammar.breaks (width : Nat) (g : Grammar) : Nat := (g.rules.map (Rule.breaks width)).sum

/-- **The breaks of a rule are the line ends that its printed form does not have.** -/
theorem Rule.lineEnds_render (width : Nat) (r : Rule) :
    lineEnds (r.render width) = lineEnds r.display + r.breaks width := by
  have hsymbols := lineEnds_separated 0 (r.length_separators width)
  rw [r.render_eq_filled, r.display_eq, lineEnds_append, lineEnds_append, filled, hsymbols, breaks,
    Nat.add_assoc]

theorem Rule.breaks_le {narrow wide : Nat} (h : narrow ≤ wide) (r : Rule) :
    r.breaks wide ≤ r.breaks narrow := by
  rcases Nat.lt_or_eq_of_le h with h | rfl
  · obtain ⟨-, hroom⟩ := count_fill_le h 0 r.headLine r.headLine r.rhs
    exact hroom (by omega)
  · exact Nat.le_refl _

/-- The breaks of a grammar are the line ends that it does not have with each rule on a line. -/
theorem Grammar.lineEnds_render (width : Nat) (g : Grammar) :
    lineEnds (g.render width) =
      lineEnds ("\n".intercalate (g.rules.map Rule.display)) + g.breaks width := by
  have hrules : ∀ rules : List Rule, lineEnds ("\n".intercalate (rules.map (Rule.render width))) =
      lineEnds ("\n".intercalate (rules.map Rule.display)) + (rules.map (Rule.breaks width)).sum := by
    intro rules
    induction rules with
    | nil => rfl
    | cons r rest ih =>
        cases rest with
        | nil => simp [Rule.lineEnds_render]
        | cons second rest =>
            simp only [List.map_cons, String.intercalate_cons_cons, lineEnds_append,
              Rule.lineEnds_render, List.sum_cons] at ih ⊢
            omega
  rw [g.render_eq_intercalate, breaks]
  exact hrules g.rules

/-- **Widening never adds a break.** The text of a rule has the line ends of its printed form, and
one for each optional line end that is taken; there are no more of them in a wider text than in a
narrower one. A grammar is laid out rule by rule, so the same is true of it. -/
theorem breaks_antitone {narrow wide : Nat} (h : narrow ≤ wide) :
    (∀ r : Rule, lineEnds (r.render narrow) = lineEnds r.display + r.breaks narrow ∧
      lineEnds (r.render wide) = lineEnds r.display + r.breaks wide ∧
      r.breaks wide ≤ r.breaks narrow) ∧
    ∀ g : Grammar,
      lineEnds (g.render narrow) =
        lineEnds ("\n".intercalate (g.rules.map Rule.display)) + g.breaks narrow ∧
      lineEnds (g.render wide) =
        lineEnds ("\n".intercalate (g.rules.map Rule.display)) + g.breaks wide ∧
      g.breaks wide ≤ g.breaks narrow := by
  constructor
  · intro r
    exact ⟨r.lineEnds_render narrow, r.lineEnds_render wide, r.breaks_le h⟩
  · intro g
    refine ⟨g.lineEnds_render narrow, g.lineEnds_render wide, ?_⟩
    exact List.sum_le_sum fun r _ => r.breaks_le h

/-- An empty symbol first, and the second line of the wider text starts further right than the
continued line of the narrower one. -/
theorem breaks_antitone_indented :
    5 ≤ 6 ∧ (Rule.of "S" "" ["ab", "c", "d"]).breaks 6 ≤ (Rule.of "S" "" ["ab", "c", "d"]).breaks 5 := by
  have hwidth : 5 ≤ 6 := by decide
  exact ⟨hwidth, ((breaks_antitone hwidth).1 (Rule.of "S" "" ["ab", "c", "d"])).2.2⟩

end ChartParsing
