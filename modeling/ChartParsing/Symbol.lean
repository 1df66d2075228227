/-!
# Grammar symbols

A symbol is a text. Terminals and nonterminals are the same kind of thing: a token of the
input may also stand on the left of a rule. Symbols are compared by their code points,
and printed as they are, without quotes or escapes.

`spaced` is the one way a sequence of symbols is written behind an arrow.
-/

set_option autoImplicit false

namespace ChartParsing

/-- **A symbol** of a grammar, or a token of an input. -/
abbrev Symbol := String

/-- The symbols one after the other, each behind a space. An empty symbol keeps its space. -/
def spaced : List Symbol → String
  | [] => ""
  | s :: rest => " " ++ s ++ spaced rest

end ChartParsing
