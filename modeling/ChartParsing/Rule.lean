import ChartParsing.Listing
import ChartParsing.OrderedSet
import ChartParsing.Symbol

/-!
# Production rules

A rule has a left-hand side and a sequence of at least one symbol on the right. Rules are
ordered by the left-hand side and then by the right-hand sides element by element, a
sequence before its continuations.

`Rule.make` is the checked way to build one; it fails exactly for an empty right-hand side.
-/

set_option autoImplicit false

namespace ChartParsing

open Std

/-! ## Errors of a grammar -/

/-- Why no grammar could be made. -/
inductive GrammarError where
  /-- The rule for `lhs` has no symbol on its right. -/
  | emptyRhs (lhs : Symbol)
deriving DecidableEq

def GrammarError.message : GrammarError → String
  | .emptyRhs lhs => "rule for `" ++ lhs ++ "` has an empty right-hand side"

/-! ## Rules -/

/-- **A production rule** `lhs --> rhs` that yields at least one symbol. -/
structure Rule where
  /-- The symbol that the rule expands. -/
  lhs : Symbol
  /-- What the symbol expands to. -/
  rhs : List Symbol
  /-- A rule is never empty, so every constituent covers some of the input. -/
  rhs_ne_nil : rhs ≠ []
deriving DecidableEq

namespace Rule

/-- The rule with these sides, unless the right-hand side is empty. -/
def make (lhs : Symbol) (rhs : List Symbol) : Except GrammarError Rule :=
  if h : rhs = [] then .error (.emptyRhs lhs) else .ok ⟨lhs, rhs, h⟩

/-- The rule that expands `lhs` to `first` and what follows it. -/
def of (lhs first : Symbol) (rest : List Symbol) : Rule :=
  ⟨lhs, first :: rest, List.cons_ne_nil first rest⟩

/-- The symbol that a constituent of the rule starts with. -/
def first (r : Rule) : Symbol := r.rhs.head r.rhs_ne_nil

theorem rhs_zero (r : Rule) : r.rhs[0]? = some r.first := by
  rw [← List.head?_eq_getElem?, List.head?_eq_some_head r.rhs_ne_nil]
  rfl

/-- What stands before a dot behind the first symbol. -/
theorem take_one_rhs (r : Rule) : r.rhs.take 1 = [r.first] := by
  rw [List.take_add_one, List.take_zero, r.rhs_zero]
  rfl

def length (r : Rule) : Nat := r.rhs.length

/-! ## Order -/

instance : Ord Rule := ⟨compareLex (compareOn lhs) (compareOn rhs)⟩

instance : TransOrd Rule :=
  inferInstanceAs (TransCmp (compareLex (compareOn lhs) (compareOn rhs)))

instance : LawfulEqOrd Rule where
  eq_of_compare {r t} h := by
    have parts : compareOn lhs r t = .eq ∧ compareOn rhs r t = .eq := compareLex_eq_eq.mp h
    have hl : r.lhs = t.lhs := LawfulEqOrd.eq_of_compare (show compare r.lhs t.lhs = .eq from parts.1)
    have hr : r.rhs = t.rhs := LawfulEqOrd.eq_of_compare (show compare r.rhs t.rhs = .eq from parts.2)
    cases r; cases t; cases hl; cases hr; rfl

/-! ## Printing -/

/-- The printed rule: `S --> NP VP`. -/
def display (r : Rule) : String := r.lhs ++ " -->" ++ spaced r.rhs

def listing (r : Rule) : Listing := .atom ("Rule(" ++ r.display ++ ")")

end Rule

end ChartParsing
