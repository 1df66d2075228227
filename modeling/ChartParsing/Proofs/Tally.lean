import ChartParsing.Recognition.Report

/-!
# Adding up statistics

`tally` counts a list of events, as `Recognition.statistics` counts those of a recognition.
Statistics are added field by field, and the lists of position sizes are put one behind the
other, so that the tally of events in sequence is the sum of the tallies (`tally_append`,
`tally_flatMap`).
-/

set_option autoImplicit false

namespace ChartParsing

namespace Statistics

/-- The statistics of a list of events. -/
def tally (events : List Event) : Statistics := events.foldl record {}

instance : Zero Statistics := ⟨{}⟩

instance : Add Statistics where
  add a b :=
    { edgesPopped := a.edgesPopped + b.edgesPopped
      edgesAdded := a.edgesAdded + b.edgesAdded
      duplicates := a.duplicates + b.duplicates
      predictions := a.predictions + b.predictions
      completions := a.completions + b.completions
      positionSizes := a.positionSizes ++ b.positionSizes }

/-! ## The fields of a sum -/

@[simp] theorem edgesPopped_add (a b : Statistics) :
    (a + b).edgesPopped = a.edgesPopped + b.edgesPopped := rfl

@[simp] theorem edgesAdded_add (a b : Statistics) :
    (a + b).edgesAdded = a.edgesAdded + b.edgesAdded := rfl

@[simp] theorem duplicates_add (a b : Statistics) :
    (a + b).duplicates = a.duplicates + b.duplicates := rfl

@[simp] theorem predictions_add (a b : Statistics) :
    (a + b).predictions = a.predictions + b.predictions := rfl

@[simp] theorem completions_add (a b : Statistics) :
    (a + b).completions = a.completions + b.completions := rfl

@[simp] theorem positionSizes_add (a b : Statistics) :
    (a + b).positionSizes = a.positionSizes ++ b.positionSizes := rfl

theorem add_zero (a : Statistics) : a + 0 = a := by
  refine Statistics.ext rfl rfl rfl rfl rfl ?_
  show a.positionSizes ++ [] = a.positionSizes
  rw [List.append_nil]

/-! ## Events in sequence -/

/-- An event counts the same whatever was counted before. -/
theorem record_add (a b : Statistics) (event : Event) :
    (a + b).record event = a + b.record event := by
  cases event with
  | finished position edges =>
      refine Statistics.ext rfl rfl rfl rfl rfl ?_
      show (a.positionSizes ++ b.positionSizes) ++ _ = a.positionSizes ++ (b.positionSizes ++ _)
      rw [List.append_assoc]
  | _ => rfl

theorem foldl_record_add (a b : Statistics) (events : List Event) :
    events.foldl record (a + b) = a + events.foldl record b := by
  induction events generalizing b with
  | nil => rfl
  | cons event events ih => rw [List.foldl_cons, List.foldl_cons, record_add, ih]

/-- **Events in sequence are counted one part after the other.** -/
theorem tally_append (xs ys : List Event) : tally (xs ++ ys) = tally xs + tally ys := by
  rw [tally, List.foldl_append]
  show ys.foldl record (tally xs) = tally xs + ys.foldl record 0
  rw [← foldl_record_add, add_zero]

theorem tally_cons (event : Event) (events : List Event) :
    tally (event :: events) = tally [event] + tally events :=
  tally_append [event] events

theorem tally_flatMap {α : Type} (f : α → List Event) (xs : List α) :
    tally (xs.flatMap f) = (xs.map fun x => tally (f x)).sum := by
  induction xs with
  | nil => rfl
  | cons x xs ih => rw [List.flatMap_cons, tally_append, ih, List.map_cons, List.sum_cons]

/-! ## The events of putting edges on the agenda -/

/-- Events that each count one more are counted by their number. -/
theorem tally_map {α : Type} {event : α → Event} (count : Nat → Statistics) (hzero : count 0 = 0)
    (hsucc : ∀ x n, tally [event x] + count n = count (n + 1)) (xs : List α) :
    tally (xs.map event) = count xs.length := by
  induction xs with
  | nil => exact hzero.symm
  | cons x xs ih => rw [List.map_cons, tally_cons, ih, hsucc, List.length_cons]

theorem tally_predicted (edges : List Edge) :
    tally ((edges.map Inference.predicted).map Inference.event) =
      { predictions := edges.length } := by
  rw [List.map_map]
  refine tally_map (fun n => { predictions := n }) rfl (fun e n => ?_) edges
  exact Statistics.ext rfl rfl rfl (Nat.add_comm 1 n) rfl rfl

theorem tally_completed (edges : List Edge) :
    tally ((edges.map Inference.completed).map Inference.event) =
      { completions := edges.length } := by
  rw [List.map_map]
  refine tally_map (fun n => { completions := n }) rfl (fun e n => ?_) edges
  exact Statistics.ext rfl rfl rfl rfl (Nat.add_comm 1 n) rfl

/-- **Predictions and completions are counted apart.** -/
theorem tally_inferences (predicted completed : List Edge) :
    tally ((predicted.map Inference.predicted ++ completed.map Inference.completed).map
        Inference.event) =
      { predictions := predicted.length, completions := completed.length } := by
  rw [List.map_append, tally_append, tally_predicted, tally_completed]
  refine Statistics.ext rfl rfl rfl rfl ?_ rfl
  show 0 + completed.length = completed.length
  rw [Nat.zero_add]

end Statistics

theorem Recognition.statistics_eq_tally (r : Recognition) :
    r.statistics = (r.stages.map fun stage => Statistics.tally stage.events).sum :=
  Statistics.tally_flatMap Stage.events r.stages

end ChartParsing
