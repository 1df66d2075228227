import ChartParsing.Chart.View
import ChartParsing.Grammar.Layout
import ChartParsing.Grammar.Zoo
import ChartParsing.Recognition.Report

/-!
# A demonstration

The text of a demonstration: the zoo grammar, a few of its sentences and two edges, and for
three sentences what their recognition found and how much work it was.
-/

set_option autoImplicit false

namespace ChartParsing.Demo

/-- The tokens with a space between them. -/
def sentenceText (tokens : List Symbol) : String := " ".intercalate tokens

/-- The sentence with `n` prepositional phrases; none if `n` is far too large. -/
def sentence (n : Nat) : List Symbol :=
  match Zoo.sentence n with
  | .ok tokens => tokens
  | .error _ => []

/-- What is told of the first rule. -/
def ruleLines (r : Rule) : List String :=
  ["rule = " ++ r.display,
   "rule = " ++ r.listing.inline,
   "lhs = " ++ r.lhs ++ ", rhs = " ++ (Listing.sequence (r.rhs.map .atom)).inline]

/-- The printed form of the `n`th sentence. -/
def exampleLine (n : Nat) : String :=
  "example(" ++ toString n ++ ") = " ++ sentenceText (sentence n)

/-- Two edges of one rule, the second one passive. -/
def edges : List Edge :=
  [⟨0, 2, "S", ["NP", "VP"], 1, by decide, by decide⟩,
   ⟨0, 5, "S", ["NP", "VP"], 2, by decide, by decide⟩]

/-- What is told of the recognition of a sentence. -/
def recognitionLines (n : Nat) : List String :=
  let tokens := sentence n
  let found := ({} : Recognizer).recognize Zoo.grammar tokens
  let view : ChartView := { positions := some [1, -1], cutoff := some 6 }
  ["",
   "Parsing \"" ++ sentenceText tokens ++ "\": " ++ toString (found.chart.accepts "S"),
   found.statistics.display,
   found.chart.renderView view standardWidth]

/-- **The demonstration**, each line with a newline at its end. -/
def text : String :=
  String.join <| List.map (fun line => line ++ "\n") <|
    (Zoo.grammar.rules.take 1).flatMap ruleLines ++
    [Zoo.grammar.render standardWidth] ++
    (List.range 5).map exampleLine ++
    edges.map Edge.display ++
    (List.range 3).flatMap recognitionLines

end ChartParsing.Demo
