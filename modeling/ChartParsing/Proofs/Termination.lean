import Mathlib.Tactic.Ring
import ChartParsing.Proofs.Contents

/-!
# The loop ends, and the chart stays small

At every position the loop runs until its agenda is empty, whatever the rules are: the edges
that can end there are finitely many, and only a new edge puts anything on the agenda. The
places for these edges bound the full edge set and its passive part, and with that the chart
(`recognition_bounded`).
-/

set_option autoImplicit false

namespace ChartParsing

variable {order : AgendaOrder} {g : Grammar} {input : List Symbol}

/-! ## The loop of each position -/

/-- **The loop behind a token ends with the full edge set of its position.** -/
theorem loop_ends (order : AgendaOrder) (g : Grammar) {k : Nat} {token : Symbol}
    (h : input[k]? = some token) :
    ∃ log, Work.Runs order
      (inferences .indexed g (stagesOf .indexed order g (input.take k)) (k + 1))
      (.start [.lexical k token])
      ⟨(recognizeBy .indexed order g input).fullAt (k + 1), [], log⟩ := by
  obtain ⟨stage, hstage, hspec⟩ := exists_stage order g h
  refine ⟨stage.work, ?_⟩
  rw [Recognition.fullAt_succ hstage]
  exact hspec.runs

/-! ## The size of the edge sets -/

/-- **Edges of a full edge set are no more than the places for them**, and one for the token. -/
theorem size_le_places {k : Nat} (hk : k ≤ input.length) {edges : EdgeSet}
    (hfull : ∀ e ∈ edges, e ∈ (recognizeBy .indexed order g input).fullAt k)
    {dots : Rule → List Nat}
    (hdots : ∀ e ∈ edges, ∀ r : Rule, r.rhs = e.rhs → 1 ≤ e.dot → e.dot ∈ dots r) :
    edges.size ≤ 1 + k * (g.rules.map fun r => (dots r).length).sum := by
  cases k with
  | zero =>
      have hnone : ∀ e ∈ edges, e = .lexical 0 "" ∨ e ∈ spanning g 0 dots := fun e he =>
        absurd (hfull e he) (OrderedSet.not_mem_empty e)
      exact size_le_of_spanning hnone
  | succ k =>
      -- the lexical edge of the token is the only one without a rule
      obtain ⟨token, htoken⟩ : ∃ token, input[k]? = some token :=
        ⟨_, List.getElem?_eq_getElem hk⟩
      have hplaces : ∀ e ∈ edges, e = .lexical k token ∨ e ∈ spanning g (k + 1) dots := by
        intro e he
        obtain ⟨hinferred, hstop⟩ := (mem_fullAt hk).mp (hfull e he)
        rcases hinferred.mem_spanning hstop dots (hdots e he) with ⟨t, ht, rfl⟩ | hplace
        · rw [Nat.add_sub_cancel, htoken] at ht
          rw [← Option.some.inj ht, Nat.add_sub_cancel]
          exact Or.inl rfl
        · exact Or.inr hplace
      exact size_le_of_spanning hplaces

/-- A full edge set has a place for each start, rule and symbol of its right-hand side. -/
theorem size_fullAt_le {k : Nat} (hk : k ≤ input.length) :
    ((recognizeBy .indexed order g input).fullAt k).size ≤
      1 + k * (g.rules.map Rule.length).sum := by
  rw [← sum_innerDots]
  exact size_le_places hk (fun _ he => he) fun _ _ _ hrhs hdot => dot_mem_innerDots hrhs hdot

/-- The passive part of a full edge set has a place for each start and rule. -/
theorem size_passivePart_le {k : Nat} (hk : k ≤ input.length) :
    (EdgeSet.passivePart ((recognizeBy .indexed order g input).fullAt k)).size ≤
      1 + k * g.size := by
  rw [← sum_finalDot]
  refine size_le_places hk (fun e he => (OrderedSet.mem_filter.mp he).1) fun e he r hrhs _ => ?_
  exact dot_mem_finalDot (OrderedSet.mem_filter.mp he).2 hrhs

/-! ## The size of the chart -/

theorem sum_range_le {sizes : Nat → Nat} {m n : Nat}
    (h : ∀ k, k < n → sizes k ≤ 1 + (k + 1) * m) :
    ((List.range n).map sizes).sum ≤ n + m * n * (n + 1) / 2 := by
  induction n with
  | zero => simp
  | succ n ih =>
      have hlast := h n (Nat.lt_succ_self n)
      have hrest := ih fun k hk => h k (Nat.lt_succ_of_lt hk)
      have hgrow : m * (n + 1) * (n + 1 + 1) = m * n * (n + 1) + 2 * ((n + 1) * m) := by ring
      rw [List.range_succ, List.map_append, List.sum_append, List.map_singleton,
        List.sum_singleton, hgrow]
      omega

/-- The size of the chart is the number of passive edges, over all full edge sets. -/
theorem size_chart (order : AgendaOrder) (g : Grammar) (input : List Symbol) :
    (recognizeBy .indexed order g input).chart.size =
      ((List.range input.length).map fun k =>
        (EdgeSet.passivePart ((recognizeBy .indexed order g input).fullAt (k + 1))).size).sum := by
  have hsum : (recognizeBy .indexed order g input).chart.size =
      ((recognizeBy .indexed order g input).positions.map OrderedSet.size).sum :=
    List.length_flatMap
  rw [hsum, positions_eq, List.map_cons, List.sum_cons, List.map_map]
  exact Nat.zero_add _

/-- Nothing is pending when the work on a position ends. -/
theorem pending_eq_nil {stage : Stage} (h : stage ∈ (recognizeBy .indexed order g input).stages) :
    stage.pending = [] := by
  obtain ⟨k, hk⟩ := List.mem_iff_getElem?.mp h
  obtain ⟨token, -, hspec⟩ := exists_token hk
  exact hspec.pending_eq

/-- **The loop ends at every position, and the chart is of quadratic size.** The loop behind a
token empties its agenda, and has no other way to go; the budget that it is given is never
short. A full edge set has at most one edge for each earlier position and symbol of a
right-hand side, and one more; its passive part at most one for each earlier position and rule,
and one more. -/
theorem recognition_bounded (recognizer : Recognizer) (g : Grammar) (input : List Symbol) :
    (∀ k token, input[k]? = some token →
      Acc (fun b a => Work.Pops recognizer.agendaOrder (inferences .indexed g
          (stagesOf .indexed recognizer.agendaOrder g (input.take k)) (k + 1)) a b)
        (.start [.lexical k token]) ∧
      ∃ log, Work.Runs recognizer.agendaOrder (inferences .indexed g
          (stagesOf .indexed recognizer.agendaOrder g (input.take k)) (k + 1))
        (.start [.lexical k token]) ⟨(recognizer.recognize g input).fullAt (k + 1), [], log⟩) ∧
    (∀ stage ∈ (recognizer.recognize g input).stages, stage.pending = []) ∧
    (∀ k, k ≤ input.length →
      ((recognizer.recognize g input).fullAt k).size ≤ 1 + k * (g.rules.map Rule.length).sum ∧
      (EdgeSet.passivePart ((recognizer.recognize g input).fullAt k)).size ≤ 1 + k * g.size) ∧
    (recognizer.recognize g input).chart.size ≤
      input.length + g.size * input.length * (input.length + 1) / 2 := by
  refine ⟨fun k token h => ?_, fun stage h => pending_eq_nil h,
    fun k hk => ⟨size_fullAt_le hk, size_passivePart_le hk⟩, ?_⟩
  · obtain ⟨log, run⟩ := loop_ends recognizer.agendaOrder g h
    exact ⟨run.acc rfl, log, run⟩
  · unfold Recognizer.recognize
    rw [size_chart]
    exact sum_range_le fun k hk => size_passivePart_le hk

/-- A grammar with a rule that expands a symbol to itself, and two that lead in a circle. -/
def circular : Grammar :=
  .ofRules [.of "A" "A" [], .of "A" "B" ["A"], .of "B" "A" [], .of "A" "a" []]

theorem recognition_bounded_circular :
    (∃ log, Work.Runs .stack (inferences .indexed circular
        (stagesOf .indexed .stack circular ["a"]) 2)
      (.start [.lexical 1 "a"])
      ⟨((Recognizer.mk .stack).recognize circular ["a", "a"]).fullAt 2, [], log⟩) ∧
    (((Recognizer.mk .stack).recognize circular ["a", "a"]).fullAt 2).size ≤ 11 ∧
    ((Recognizer.mk .stack).recognize circular ["a", "a"]).chart.size ≤ 14 := by
  have hall := recognition_bounded (.mk .stack) circular ["a", "a"]
  exact ⟨(hall.1 1 "a" rfl).2, (hall.2.2.1 2 (by decide)).1, hall.2.2.2⟩

end ChartParsing
