import ChartParsing.Proofs.Workload

/-!
# The statistics of a recognition

The counters of a recognition are sums over its positions, of numbers that the full edge sets
determine: how many edges there are, and how many rules and waiting edges each passive edge
meets. The number of edges taken from agendas is found in two ways, from what was put on them
and from what became of each edge.

Main theorem: `statistics_exact`.
-/

set_option autoImplicit false

namespace ChartParsing

namespace Statistics

/-! ## Counters of a sum -/

/-- **A counter that adds up is the sum of the counters**, one for each part. -/
theorem count_sum {count : Statistics → Nat} (hzero : count 0 = 0)
    (hadd : ∀ a b, count (a + b) = count a + count b) (parts : List Statistics) :
    count parts.sum = (parts.map count).sum := by
  induction parts with
  | nil => exact hzero
  | cons part parts ih => rw [List.sum_cons, hadd, ih, List.map_cons, List.sum_cons]

theorem positionSizes_sum (parts : List Statistics) :
    parts.sum.positionSizes = parts.flatMap positionSizes := by
  induction parts with
  | nil => rfl
  | cons part parts ih => rw [List.sum_cons, positionSizes_add, ih, List.flatMap_cons]

/-- Every edge that was taken from an agenda was either added or known. -/
def Balanced (stats : Statistics) : Prop :=
  stats.edgesPopped = stats.edgesAdded + stats.duplicates

theorem balanced_sum {parts : List Statistics} (h : ∀ part ∈ parts, part.Balanced) :
    parts.sum.Balanced := by
  induction parts with
  | nil => rfl
  | cons part parts ih =>
      have hpart : part.Balanced := h part List.mem_cons_self
      have hrest : parts.sum.Balanced :=
        ih fun other hother => h other (List.mem_cons_of_mem part hother)
      unfold Balanced at hpart hrest ⊢
      simp only [List.sum_cons, edgesPopped_add, edgesAdded_add, duplicates_add]
      omega

end Statistics

variable {order : AgendaOrder} {g : Grammar} {input : List Symbol}

/-! ## Counters of a recognition -/

/-- **A counter of a recognition is a sum over its positions.** -/
theorem count_statistics {count : Statistics → Nat} (hzero : count 0 = 0)
    (hadd : ∀ a b, count (a + b) = count a + count b) :
    count (recognizeBy .indexed order g input).statistics =
      ((List.range input.length).map fun k =>
        count (workAt g (recognizeBy .indexed order g input).fullAt (k + 1))).sum := by
  rw [statistics_eq_sum, Statistics.count_sum hzero hadd, List.map_map]
  rfl

theorem positionSizes_eq (order : AgendaOrder) (g : Grammar) (input : List Symbol) :
    (recognizeBy .indexed order g input).statistics.positionSizes =
      (List.range input.length).map fun k =>
        ((recognizeBy .indexed order g input).fullAt (k + 1)).size := by
  rw [statistics_eq_sum, Statistics.positionSizes_sum, List.flatMap_map]
  exact List.map_eq_flatMap.symm

/-- The edges that were added are those of the full edge sets. -/
theorem edgesAdded_eq (order : AgendaOrder) (g : Grammar) (input : List Symbol) :
    (recognizeBy .indexed order g input).statistics.edgesAdded =
      (recognizeBy .indexed order g input).statistics.positionSizes.sum := by
  rw [positionSizes_eq]
  exact count_statistics rfl Statistics.edgesAdded_add

theorem predictions_eq (order : AgendaOrder) (g : Grammar) (input : List Symbol) :
    (recognizeBy .indexed order g input).statistics.predictions =
      ((List.range input.length).map fun k =>
        ((EdgeSet.passive ((recognizeBy .indexed order g input).fullAt (k + 1))).map
          (predictionCount g)).sum).sum :=
  count_statistics rfl Statistics.predictions_add

theorem completions_eq (order : AgendaOrder) (g : Grammar) (input : List Symbol) :
    (recognizeBy .indexed order g input).statistics.completions =
      ((List.range input.length).map fun k =>
        ((EdgeSet.passive ((recognizeBy .indexed order g input).fullAt (k + 1))).map fun e =>
          completionCount ((recognizeBy .indexed order g input).fullAt e.start) e).sum).sum :=
  count_statistics rfl Statistics.completions_add

/-- **All that was put on an agenda was taken from it**: the lexical edge of each token, and
what was predicted and completed. -/
theorem edgesPopped_eq (order : AgendaOrder) (g : Grammar) (input : List Symbol) :
    (recognizeBy .indexed order g input).statistics.edgesPopped =
      input.length + (recognizeBy .indexed order g input).statistics.predictions +
        (recognizeBy .indexed order g input).statistics.completions := by
  have hpopped : (recognizeBy .indexed order g input).statistics.edgesPopped = _ :=
    count_statistics rfl Statistics.edgesPopped_add
  -- the lexical edges of all positions are as many as the tokens
  have hsum : ∀ (predicted completed : Nat → Nat) (n : Nat),
      ((List.range n).map fun k => 1 + (predicted k + completed k)).sum =
        n + ((List.range n).map predicted).sum + ((List.range n).map completed).sum := by
    intro predicted completed n
    induction n with
    | zero => rfl
    | succ n ih =>
        simp only [List.range_succ, List.map_append, List.map_singleton, List.sum_append,
          List.sum_singleton, ih]
        omega
  rw [hpopped, predictions_eq, completions_eq]
  exact hsum _ _ input.length

/-- **All that was taken from an agenda was added or known.** -/
theorem balanced_statistics (order : AgendaOrder) (g : Grammar) (input : List Symbol) :
    (recognizeBy .indexed order g input).statistics.Balanced := by
  rw [Recognition.statistics_eq_tally]
  refine Statistics.balanced_sum fun part hpart => ?_
  obtain ⟨stage, hstage, rfl⟩ := List.mem_map.mp hpart
  obtain ⟨k, hk⟩ := List.mem_iff_getElem?.mp hstage
  obtain ⟨token, -, hspec⟩ := exists_token hk
  rw [tally_events]
  exact (hspec.runs.counted (inferences_eq .indexed)).duplicates

/-- **The statistics are exact.** The sizes are those of the full edge sets that are reported,
and they add up to the edges that were added. Each passive edge of a full edge set was expanded
once: it gave a prediction for each rule that starts with its symbol, and a completion for each
active edge that expects its symbol where it starts. Everything that was put on an agenda, with
the lexical edge of each token, was taken from it, and was then added or known. -/
theorem statistics_exact (recognizer : Recognizer) (g : Grammar) (input : List Symbol) :
    (recognizer.recognize g input).fullAt 0 = ∅ ∧
    (recognizer.recognize g input).reported = (List.range input.length).map (fun k =>
      (k + 1, (recognizer.recognize g input).fullAt (k + 1))) ∧
    (recognizer.recognize g input).statistics.positionSizes =
      (List.range input.length).map (fun k =>
        ((recognizer.recognize g input).fullAt (k + 1)).size) ∧
    (recognizer.recognize g input).statistics.edgesAdded =
      (recognizer.recognize g input).statistics.positionSizes.sum ∧
    (recognizer.recognize g input).statistics.predictions =
      ((List.range input.length).map fun k =>
        ((EdgeSet.passive ((recognizer.recognize g input).fullAt (k + 1))).map fun e =>
          (g.rules.filter fun r => r.first = e.lhs).length).sum).sum ∧
    (recognizer.recognize g input).statistics.completions =
      ((List.range input.length).map fun k =>
        ((EdgeSet.passive ((recognizer.recognize g input).fullAt (k + 1))).map fun e =>
          ((EdgeSet.active ((recognizer.recognize g input).fullAt e.start)).filter fun w =>
            w.next? = some e.lhs).length).sum).sum ∧
    (recognizer.recognize g input).statistics.edgesPopped =
      input.length + (recognizer.recognize g input).statistics.predictions +
        (recognizer.recognize g input).statistics.completions ∧
    (recognizer.recognize g input).statistics.edgesPopped =
      (recognizer.recognize g input).statistics.edgesAdded +
        (recognizer.recognize g input).statistics.duplicates :=
  ⟨rfl, reported_eq _ g input, positionSizes_eq _ g input, edgesAdded_eq _ g input,
    predictions_eq _ g input, completions_eq _ g input, edgesPopped_eq _ g input,
    balanced_statistics _ g input⟩

end ChartParsing
