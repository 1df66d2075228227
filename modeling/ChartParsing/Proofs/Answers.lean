import ChartParsing.Proofs.Contents
import ChartParsing.Proofs.Positions

/-!
# The answers of a chart

A symbol is recognized over a span exactly if it derives the tokens of the span
(`recognized_iff_derives`): a position of the chart holds the inferred passive edges that end
there, and these are the constituents of the input.
-/

set_option autoImplicit false

namespace ChartParsing

variable {order : AgendaOrder} {g : Grammar} {input : List Symbol}

/-! ## Positions of the chart -/

theorem le_length_of_position (r : Recognition) (j : Fin r.chart.length) :
    j.val ≤ r.input.length :=
  Nat.le_of_lt_succ (Nat.lt_of_lt_of_eq j.isLt (length_chart r))

/-- **A position of the chart holds the inferred passive edges that end there.** -/
theorem mem_positions {j : Fin (recognizeBy .indexed order g input).chart.length} {e : Edge} :
    e ∈ (recognizeBy .indexed order g input).chart.positions.get j ↔
      Inferred g input e ∧ e.isPassive = true ∧ e.stop = j.val := by
  have hj : j.val ≤ input.length := le_length_of_position _ j
  have hget : (recognizeBy .indexed order g input).chart.positions.get j =
      EdgeSet.passivePart ((recognizeBy .indexed order g input).fullAt j.val) :=
    Option.some.inj ((List.getElem?_eq_getElem j.isLt).symm.trans (at?_chart hj))
  rw [hget, EdgeSet.passivePart, OrderedSet.mem_filter, mem_fullAt hj]
  tauto

/-- **The edges of the chart are the inferred passive ones.** -/
theorem mem_edges_chart {e : Edge} :
    e ∈ (recognizeBy .indexed order g input).chart.edges ↔
      Inferred g input e ∧ e.isPassive = true := by
  unfold Chart.edges
  rw [List.mem_flatMap]
  constructor
  · rintro ⟨edges, hedges, he⟩
    obtain ⟨j, rfl⟩ := List.mem_iff_get.mp hedges
    obtain ⟨hinferred, hpassive, -⟩ := mem_positions.mp he
    exact ⟨hinferred, hpassive⟩
  · rintro ⟨hinferred, hpassive⟩
    have hstop : e.stop < (recognizeBy .indexed order g input).chart.length := by
      rw [length_chart]
      exact Nat.lt_succ_of_le hinferred.holds.span.2
    exact ⟨_, List.get_mem _ ⟨e.stop, hstop⟩, mem_positions.mpr ⟨hinferred, hpassive, rfl⟩⟩

/-! ## Answers -/

/-- **An answer is positive if there is a constituent**, which is a question of derivations. -/
theorem any_passive_iff {category : Symbol} {start : Nat}
    {j : Fin (recognizeBy .indexed order g input).chart.length} :
    ((EdgeSet.passive ((recognizeBy .indexed order g input).chart.positions.get j)).any
        fun e => e.start == start && e.lhs == category) = true ↔
      start < j.val ∧ g.Derives [category] (window input start j.val) := by
  have hj : j.val ≤ input.length := le_length_of_position _ j
  rw [List.any_eq_true]
  constructor
  · rintro ⟨e, he, hmatch⟩
    obtain ⟨hmem, -⟩ := List.mem_filter.mp he
    obtain ⟨he, hpassive, hstop⟩ := mem_positions.mp hmem
    rw [Bool.and_eq_true, beq_iff_eq, beq_iff_eq] at hmatch
    obtain ⟨hstart, -, hderives⟩ :=
      exists_inferred_iff.mp ⟨e, he, hpassive, hmatch.2, hmatch.1, hstop⟩
    exact ⟨hstart, hderives⟩
  · rintro ⟨hstart, hderives⟩
    obtain ⟨e, he, hpassive, hlhs, hstart, hstop⟩ := exists_inferred_iff.mpr ⟨hstart, hj, hderives⟩
    refine ⟨e, List.mem_filter.mpr ⟨mem_positions.mpr ⟨he, hpassive, hstop⟩, hpassive⟩, ?_⟩
    rw [hstart, hlhs, beq_self_eq_true, beq_self_eq_true]
    rfl

/-- What the chart answers at a position that it has. -/
theorem recognized_eq_ok_iff {category : Symbol} {start : Nat} {stop : Int64}
    {j : Fin (recognizeBy .indexed order g input).chart.length}
    (h : (recognizeBy .indexed order g input).chart.resolve stop = .ok j) {answer : Bool} :
    (recognizeBy .indexed order g input).chart.recognized category start stop = .ok answer ↔
      (answer = true ↔ start < j.val ∧ g.Derives [category] (window input start j.val)) := by
  rw [Chart.recognized, h, ← any_passive_iff]
  simp only [Except.map, Except.ok.injEq]
  constructor
  · intro hanswer
    rw [hanswer]
  · exact fun hiff => (Bool.eq_iff_iff.mpr hiff).symm

/-- The chart has an answer at every position in range, counted from either end. -/
theorem exists_recognized_iff (order : AgendaOrder) (g : Grammar) {input : List Symbol}
    (hlength : input.length + 1 < 2 ^ 63) (category : Symbol) (start : Nat) {stop : Int64}
    (hlo : -((input.length : Int) + 1) ≤ stop.toInt) (hhi : stop.toInt ≤ input.length) :
    ∃ j : Nat, (j : Int) = (if 0 ≤ stop.toInt then stop.toInt else input.length + 1 + stop.toInt) ∧
      ∀ answer : Bool,
        (recognizeBy .indexed order g input).chart.recognized category start stop = .ok answer ↔
          (answer = true ↔ start < j ∧ g.Derives [category] (window input start j)) := by
  have hpositions : (recognizeBy .indexed order g input).chart.length = input.length + 1 :=
    length_chart _
  have hword : (recognizeBy .indexed order g input).chart.length < 2 ^ 63 := by
    rw [hpositions]
    exact hlength
  have hrange : -((recognizeBy .indexed order g input).chart.length : Int) ≤ stop.toInt ∧
      stop.toInt < (recognizeBy .indexed order g input).chart.length := by
    rw [hpositions]
    omega
  obtain ⟨j, hj⟩ := (Chart.exists_resolve_iff hword).mpr hrange
  have hmeant := (Chart.resolve_eq_ok_iff hword).mp hj
  refine ⟨j.val, ?_, fun answer => recognized_eq_ok_iff hj⟩
  rw [hmeant, meantIndex, hpositions]
  split <;> split <;> omega

/-- **The chart answers what can be derived.** A position is out of range exactly if it is not
one of the `n + 1` positions, counted from either end. At any other one a symbol is recognized
from `start` exactly if the tokens in between, of which there is at least one, are derived
from it. -/
theorem recognized_iff_derives (recognizer : Recognizer) (g : Grammar) {input : List Symbol}
    (hlength : input.length + 1 < 2 ^ 63) (category : Symbol) (start : Nat) (stop : Int64) :
    ((recognizer.recognize g input).chart.recognized category start stop =
        .error (.positionOutOfRange stop (input.length + 1)) ↔
      stop.toInt < -((input.length : Int) + 1) ∨ (input.length : Int) < stop.toInt) ∧
    (-((input.length : Int) + 1) ≤ stop.toInt → stop.toInt ≤ input.length →
      ∃ j : Nat, (j : Int) = (if 0 ≤ stop.toInt then stop.toInt else input.length + 1 + stop.toInt) ∧
        ((recognizer.recognize g input).chart.recognized category start stop = .ok true ↔
          start < j ∧ g.Derives [category] (window input start j)) ∧
        ((recognizer.recognize g input).chart.recognized category start stop = .ok false ↔
          ¬(start < j ∧ g.Derives [category] (window input start j)))) ∧
    ((recognizer.recognize g input).chart.accepts category = true ↔
      0 < input.length ∧ g.Derives [category] input) := by
  have hpositions : (recognizer.recognize g input).chart.length = input.length + 1 :=
    length_chart _
  refine ⟨?_, fun hlo hhi => ?_, ?_⟩
  · have hword : (recognizer.recognize g input).chart.length < 2 ^ 63 := by
      rw [hpositions]
      exact hlength
    rw [Chart.recognized_eq_error_iff, ← hpositions, Chart.resolve_eq_error_iff hword, hpositions]
    omega
  · obtain ⟨j, hj, hanswer⟩ :=
      exists_recognized_iff recognizer.agendaOrder g hlength category start hlo hhi
    exact ⟨j, hj, (hanswer true).trans (iff_true_left rfl),
      (hanswer false).trans (iff_false_left Bool.false_ne_true)⟩
  · have hminus : (-1 : Int64).toInt = -1 := by decide
    obtain ⟨j, hj, hanswer⟩ := exists_recognized_iff recognizer.agendaOrder g hlength category 0
      (by rw [hminus]; omega) (by rw [hminus]; omega)
    have hlast : j = input.length := by
      rw [hminus, if_neg (by decide)] at hj
      omega
    -- from the first position to the last stands the whole input
    have hwhole := hanswer true
    rw [hlast, window_all, iff_true_left rfl] at hwhole
    exact Chart.accepts_eq_true_iff.trans hwhole

theorem recognized_iff_derives_doubling :
    ((Recognizer.mk .queue).recognize doubling ["a", "b"]).chart.recognized "S" 0 (-1) = .ok true ∧
      ((Recognizer.mk .queue).recognize doubling ["a", "b"]).chart.accepts "S" = true := by
  have hlength : (["a", "b"] : List Symbol).length + 1 < 2 ^ 63 := by decide
  have hall := recognized_iff_derives (.mk .queue) doubling hlength "S" 0 (-1)
  obtain ⟨j, hj, htrue, -⟩ := hall.2.1 (by decide) (by decide)
  have hlast : j = 2 := by
    rw [if_neg (by decide)] at hj
    exact Int.ofNat.inj hj
  refine ⟨htrue.mpr ⟨by omega, ?_⟩, hall.2.2.mpr ⟨by decide, doubling_derives⟩⟩
  rw [hlast]
  exact doubling_derives

end ChartParsing
