import ChartParsing.Recognition.Recognizer

/-!
# Recognizing without indexes

Rules and waiting edges are found by indexes: by the numbers of the rules under their first
symbol, and by the active edges of a column under the symbol that they expect. A walk over the
whole grammar, or over all edges of the column, finds the same ones in the same order
(`indexed_eq_exhaustive`).

Main theorem: `recognize_eq_exhaustive`, a recognition without indexes has the same events, one
for one, and the same chart.
-/

set_option autoImplicit false

namespace ChartParsing

/-! ## Finding by a walk -/

/-- A walk over all rules finds those under a first symbol, in the order of the grammar. -/
theorem starting_indexed_eq (g : Grammar) (s : Symbol) :
    Finder.indexed.starting g s = Finder.exhaustive.starting g s :=
  g.startingWith_eq_filter s

/-- A walk over all edges of a column finds the active ones that expect a symbol, in edge order. -/
theorem expecting_indexed_eq (column : Column) (s : Symbol) :
    Finder.indexed.expecting column s = Finder.exhaustive.expecting column s := by
  show column.expecting s = column.edges.toList.filter fun e => e.isActive && e.next? = some s
  rw [column.expecting_eq_filter, EdgeSet.active, List.filter_filter]
  -- both tests are made at once in the walk, in the other order
  simp only [Bool.and_comm]

/-- **The indexes find what a walk finds**, in the same order. -/
theorem indexed_eq_exhaustive : Finder.indexed = Finder.exhaustive := by
  have hstarting : Finder.indexed.starting = Finder.exhaustive.starting := by
    funext g s
    exact starting_indexed_eq g s
  have hexpecting : Finder.indexed.expecting = Finder.exhaustive.expecting := by
    funext column s
    exact expecting_indexed_eq column s
  calc Finder.indexed
      = ⟨Finder.indexed.starting, Finder.indexed.expecting⟩ := rfl
    _ = ⟨Finder.exhaustive.starting, Finder.exhaustive.expecting⟩ := by
        rw [hstarting, hexpecting]
    _ = Finder.exhaustive := rfl

/-! ## Recognitions -/

/-- **The indexes change nothing that can be observed.** With a walk over all rules for each
prediction, and a walk over the full edge set of an earlier position for each completion, the
same things happen in the same order, with as many edges left on the agenda each time, and the
chart is the same. -/
theorem recognize_eq_exhaustive (recognizer : Recognizer) (g : Grammar) (input : List Symbol) :
    (recognizer.recognize g input).events =
        (recognizeBy .exhaustive recognizer.agendaOrder g input).events ∧
      (recognizer.recognize g input).chart =
        (recognizeBy .exhaustive recognizer.agendaOrder g input).chart := by
  unfold Recognizer.recognize
  rw [indexed_eq_exhaustive]
  exact ⟨rfl, rfl⟩

end ChartParsing
