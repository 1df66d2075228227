import ChartParsing.Proofs.Contents

/-!
# How much work a recognition is

What is counted at a position follows from the full edge sets: every passive edge is expanded
once, when it is added, and gives a prediction for each rule and a completion for each waiting
edge that expects its symbol. Everything that is put on the agenda is taken from it again.

Main lemma: `statistics_eq_sum`, the statistics are the sum of `workAt` over the positions.
-/

set_option autoImplicit false

namespace ChartParsing

/-- The number of rules that start with the symbol of an edge. -/
def predictionCount (g : Grammar) (e : Edge) : Nat :=
  (g.rules.filter fun r => r.first = e.lhs).length

/-- The number of edges of a set that expect the symbol of an edge. -/
def completionCount (waiting : EdgeSet) (e : Edge) : Nat :=
  ((EdgeSet.active waiting).filter fun w => w.next? = some e.lhs).length

/-- **The work on a position**, by the full edge sets of it and of earlier ones. -/
def workAt (g : Grammar) (full : Nat → EdgeSet) (k : Nat) : Statistics :=
  let predictions := ((EdgeSet.passive (full k)).map (predictionCount g)).sum
  let completions :=
    ((EdgeSet.passive (full k)).map fun e => completionCount (full e.start) e).sum
  { edgesPopped := 1 + (predictions + completions)
    edgesAdded := (full k).size
    duplicates := 1 + (predictions + completions) - (full k).size
    predictions := predictions
    completions := completions
    positionSizes := [(full k).size] }

variable {g : Grammar} {input : List Symbol} {stages : Array Stage} {position : Nat}

/-! ## The number of edges that follow from one -/

/-- No prediction fails, since edges do not end before they start. -/
theorem length_predictions {e : Edge} (hstart : e.start ≤ position) :
    (predictions .indexed g position e).length = predictionCount g e := by
  unfold predictions predictionCount
  rw [show Finder.indexed.starting g e.lhs = g.startingWith e.lhs from rfl,
    Grammar.startingWith_eq_filter]
  refine List.filterMap_length_eq_length.mpr fun r _ => ?_
  obtain ⟨f, hf⟩ := Edge.exists_predicted hstart r
  rw [hf]
  rfl

/-- No completion fails, since the column of a position has edges that end there. -/
theorem length_completions {e : Edge} {column : Column}
    (hcolumn : columnAt stages e.start = some column)
    (hspan : ∀ w ∈ column.edges, w.start ≤ position) :
    (completions .indexed stages position e).length = completionCount column.edges e := by
  unfold completions completionCount
  rw [hcolumn, ← Column.expecting_eq_filter]
  refine List.filterMap_length_eq_length.mpr fun w hw => ?_
  obtain ⟨hw, hnext⟩ := Column.mem_expecting.mp hw
  obtain ⟨f, hf⟩ := Edge.exists_advance (Edge.isActive_of_next? hnext) (hspan w hw)
  rw [hf]
  rfl

/-- What follows from an edge, if it is passive. -/
theorem inferences_eq (finder : Finder) (e : Edge) :
    inferences finder g stages position e =
      (if e.isPassive then predictions finder g position e else []).map .predicted ++
        (if e.isPassive then completions finder stages position e else []).map .completed := by
  unfold inferences
  split <;> simp

/-- Edges from which nothing follows add nothing to a sum over a set. -/
theorem sum_passive {edges : EdgeSet} {follow : Edge → List Edge} {count : Edge → Nat}
    (h : ∀ e ∈ edges, (follow e).length = count e) :
    (edges.toList.map fun e => (if e.isPassive then follow e else []).length).sum =
      ((EdgeSet.passive edges).map count).sum := by
  have hpassive : ∀ es : List Edge, (∀ e ∈ es, (follow e).length = count e) →
      (es.map fun e => (if e.isPassive then follow e else []).length).sum =
        ((es.filter Edge.isPassive).map count).sum := by
    intro es hes
    induction es with
    | nil => rfl
    | cons e es ih =>
        have hrest := ih fun f hf => hes f (List.mem_cons_of_mem e hf)
        by_cases hpassive : e.isPassive = true
        · simp [hpassive, hrest, hes e List.mem_cons_self]
        · simp [hpassive, hrest]
  exact hpassive edges.toList h

/-! ## The work on each position -/

variable {order : AgendaOrder}

/-- The earlier columns that are looked up are the full edge sets. -/
theorem exists_columnAt (order : AgendaOrder) (g : Grammar) {k i : Nat} (hk : k ≤ input.length)
    (hi : i ≤ k) :
    ∃ column, columnAt (stagesOf .indexed order g (input.take k)) i = some column ∧
      column.edges = (recognizeBy .indexed order g input).fullAt i := by
  have hexact := exact_stagesOf order g input hk
  have hsize := size_stagesOf_take .indexed order g hk
  obtain ⟨column, hcolumn, hmem⟩ := hexact i (by omega)
  refine ⟨column, hcolumn, OrderedSet.ext_mem fun e => ?_⟩
  rw [hmem e, mem_fullAt (by omega)]

/-- The start and the end of a stage count nothing but the size of its position. -/
theorem tally_events (stage : Stage) :
    Statistics.tally stage.events = { Statistics.tally stage.work with
      positionSizes :=
        (Statistics.tally stage.work).positionSizes ++ [stage.column.edges.size] } := by
  have hevents : stage.events = ([.started stage.position stage.token] ++ stage.work) ++
      [.finished stage.position stage.column.edges] := rfl
  rw [hevents, Statistics.tally_append, Statistics.tally_append]
  refine Statistics.ext ?_ ?_ ?_ ?_ ?_ rfl
  all_goals exact Nat.zero_add _

/-- **The events of a stage add up to the work on its position.** -/
theorem tally_stage {k : Nat} {stage : Stage}
    (h : (recognizeBy .indexed order g input).stages[k]? = some stage) :
    Statistics.tally stage.events =
      workAt g (recognizeBy .indexed order g input).fullAt (k + 1) := by
  obtain ⟨token, htoken, hspec⟩ := exists_token h
  have hk := (List.getElem?_eq_some_iff.mp htoken).1
  have hfull := Recognition.fullAt_succ h
  have hspan : ∀ e ∈ stage.column.edges, e.start ≤ k := by
    intro e he
    rw [← hfull, mem_fullAt hk] at he
    have := he.1.holds.span
    omega
  -- what follows from an edge is counted by the rules, and by the edges of an earlier column
  have hpredictions : ∀ e ∈ stage.column.edges,
      (predictions .indexed g (k + 1) e).length = predictionCount g e := by
    intro e he
    exact length_predictions (Nat.le_succ_of_le (hspan e he))
  have hcompletions : ∀ e ∈ stage.column.edges,
      (completions .indexed (stagesOf .indexed order g (input.take k)) (k + 1) e).length =
        completionCount ((recognizeBy .indexed order g input).fullAt e.start) e := by
    intro e he
    obtain ⟨column, hcolumn, hedges⟩ := exists_columnAt order g (Nat.le_of_lt hk) (hspan e he)
    have hstart := hspan e he
    rw [← hedges]
    refine length_completions hcolumn fun w hw => ?_
    rw [hedges, mem_fullAt (by omega)] at hw
    have := w.start_le_stop
    omega
  have hlog := hspec.runs.tally_log (inferences_eq .indexed) rfl
  rw [sum_passive hpredictions, sum_passive hcompletions] at hlog
  rw [tally_events, hlog, workAt, hfull]
  rfl

/-- **The statistics of a recognition are the work on all positions.** -/
theorem statistics_eq_sum (order : AgendaOrder) (g : Grammar) (input : List Symbol) :
    (recognizeBy .indexed order g input).statistics =
      ((List.range input.length).map fun k =>
        workAt g (recognizeBy .indexed order g input).fullAt (k + 1)).sum := by
  rw [Recognition.statistics_eq_tally]
  exact congrArg List.sum (map_stages _ fun _ _ hstage => tally_stage hstage)

end ChartParsing
