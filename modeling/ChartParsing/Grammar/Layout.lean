import ChartParsing.Doc
import ChartParsing.Grammar

/-!
# Laying out rules and grammars

A rule that is too wide for a line is continued on further ones, each of which takes as many
symbols as fit. A grammar has a rule on each line, or on a line and its continuations.

Main definitions: `Rule.render`, `Grammar.render`.
-/

set_option autoImplicit false

namespace ChartParsing

/-- A rule may be continued on a new line before each symbol of its right-hand side. Lines
after the one of the first symbol are indented. -/
def Rule.doc (r : Rule) : Doc :=
  .group (.text r.lhs ++ .text " -->" ++ .softline ++
    .nest 2 (.join .softline (r.rhs.map .text)))

/-- The rule written within a width. -/
def Rule.render (width : Nat) (r : Rule) : String := r.doc.render width

/-- A grammar has its rules on lines of their own. -/
def Grammar.doc (g : Grammar) : Doc := .join .hardline (g.rules.map Rule.doc)

/-- The grammar written within a width. -/
def Grammar.render (width : Nat) (g : Grammar) : String := g.doc.render width

end ChartParsing
