import ChartParsing.Grammar

/-!
# Building a grammar step by step

A `Draft` collects the sides of rules without a check, one build step after the other; the
check is made when the draft is finished. `Grammar.build` runs a list of steps.
-/

set_option autoImplicit false

namespace ChartParsing

/-- **One step of building a grammar.** -/
inductive BuildStep where
  /-- A rule for `lhs` whose right-hand side is given symbol by symbol. -/
  | rule (lhs : Symbol) (added : List Symbol)
  /-- A rule with the whole right-hand side at once. -/
  | production (lhs : Symbol) (rhs : List Symbol)
  /-- A rule `category --> word` for each word. -/
  | lexicon (category : Symbol) (words : List Symbol)
deriving DecidableEq

/-- **A grammar under construction**: the sides of its rules, not yet checked. -/
structure Draft where
  /-- The pairs of sides in the order in which they were added. -/
  pairs : List (Symbol × List Symbol) := []

namespace Draft

/-- Adds a rule whose right-hand side grows by one symbol at a time. -/
def addRule (d : Draft) (lhs : Symbol) (added : List Symbol) : Draft :=
  ⟨d.pairs ++ [(lhs, added.foldl (fun rhs s => rhs ++ [s]) [])]⟩

/-- Adds a rule with a given right-hand side. -/
def addProduction (d : Draft) (lhs : Symbol) (rhs : List Symbol) : Draft :=
  d.addRule lhs rhs

/-- Adds a rule for each word of a category. -/
def addLexicon (d : Draft) (category : Symbol) (words : List Symbol) : Draft :=
  words.foldl (fun d word => d.addRule category [word]) d

/-- Adds what a build step asks for. -/
def apply (d : Draft) : BuildStep → Draft
  | .rule lhs added => d.addRule lhs added
  | .production lhs rhs => d.addProduction lhs rhs
  | .lexicon category words => d.addLexicon category words

/-- The grammar of the draft, if each of its rules has a right-hand side. -/
def finish (d : Draft) : Except GrammarError Grammar :=
  Grammar.collect (d.pairs.map fun (lhs, rhs) => Rule.make lhs rhs)

end Draft

/-- **The grammar that a list of build steps makes**, starting from nothing. -/
def Grammar.build (steps : List BuildStep) : Except GrammarError Grammar :=
  (steps.foldl Draft.apply {}).finish

def BuildStep.pairs : BuildStep → List (Symbol × List Symbol)
  | .rule lhs added => [(lhs, added)]
  | .production lhs rhs => [(lhs, rhs)]
  | .lexicon category words => words.map fun word => (category, [word])

end ChartParsing
