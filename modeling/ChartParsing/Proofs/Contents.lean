import ChartParsing.Proofs.Columns

/-!
# What a recognition finds

The full edge sets that are reported hold exactly the edges that are inferred from the input
(`mem_fullAt`), whatever the order of the agendas, and the chart keeps the passive ones.

Main theorem: `reported_contents`, the edges of all positions in terms of derivations, active
ones included.
-/

set_option autoImplicit false

namespace ChartParsing

/-! ## Reported edge sets -/

/-- The position and the edges that the event reports as finished, if it does. -/
def Event.finished? : Event → Option (Nat × EdgeSet)
  | .finished position edges => some (position, edges)
  | _ => none

/-- A run of the loop on one agenda finishes no position. -/
theorem Work.Runs.finished?_log {order : AgendaOrder} {infer : Edge → List Inference}
    {seeds : List Edge} {w : Work} (run : Runs order infer (start seeds) w) :
    ∀ event ∈ w.log, event.finished? = none := by
  refine run.invariant (P := fun w => ∀ event ∈ w.log, event.finished? = none) ?_ nofun
  intro a b ha step event hevent
  obtain ⟨e, rest, -, ⟨-, rfl⟩ | ⟨-, rfl⟩⟩ := step.cases
  · simp only [List.mem_append, List.mem_cons, List.not_mem_nil, or_false] at hevent
    rcases hevent with hevent | rfl | rfl
    · exact ha event hevent
    · rfl
    · rfl
  · simp only [List.mem_append, List.mem_cons, List.mem_map] at hevent
    rcases hevent with hevent | rfl | rfl | ⟨x, -, rfl⟩
    · exact ha event hevent
    · rfl
    · rfl
    · cases x <;> rfl

namespace Recognition

/-- **The full edge sets that were reported**, with their positions, in order. -/
def reported (r : Recognition) : List (Nat × EdgeSet) := r.events.filterMap Event.finished?

/-- The full edge set of a position; no edge ends before the first token. -/
def fullAt (r : Recognition) : (position : Nat) → EdgeSet
  | 0 => ∅
  | k + 1 => ((r.stages[k]?).map fun stage => stage.column.edges).getD ∅

variable {r : Recognition} {k : Nat} {stage : Stage}

theorem fullAt_succ (h : r.stages[k]? = some stage) : r.fullAt (k + 1) = stage.column.edges := by
  rw [fullAt, h]
  rfl

end Recognition

variable {order : AgendaOrder} {g : Grammar} {input : List Symbol}

theorem length_stages_recognizeBy (order : AgendaOrder) (g : Grammar) (input : List Symbol) :
    (recognizeBy .indexed order g input).stages.length = input.length :=
  Recognition.length_stages _

/-- **Every token has its stage**, as it should be. -/
theorem exists_stage (order : AgendaOrder) (g : Grammar) {k : Nat} {token : Symbol}
    (h : input[k]? = some token) :
    ∃ stage, (recognizeBy .indexed order g input).stages[k]? = some stage ∧
      StageSpec order g input (stagesOf .indexed order g (input.take k)) k token stage := by
  obtain ⟨stage, hstage, hspec⟩ := stage_spec order g h
  refine ⟨stage, ?_, hspec⟩
  rw [← hstage]
  exact Array.getElem?_toList

/-- Every stage is that of a token. -/
theorem exists_token {k : Nat} {stage : Stage}
    (h : (recognizeBy .indexed order g input).stages[k]? = some stage) :
    ∃ token, input[k]? = some token ∧
      StageSpec order g input (stagesOf .indexed order g (input.take k)) k token stage := by
  have hk : k < input.length := by
    rw [← length_stages_recognizeBy order g input]
    exact (List.getElem?_eq_some_iff.mp h).1
  obtain ⟨other, hother, hspec⟩ := exists_stage order g (List.getElem?_eq_getElem hk)
  rw [h] at hother
  cases hother
  exact ⟨_, List.getElem?_eq_getElem hk, hspec⟩

/-- What is told of each stage, told by the number of its token. -/
theorem map_stages {α : Type} {f : Stage → α} (value : Nat → α)
    (h : ∀ k stage, (recognizeBy .indexed order g input).stages[k]? = some stage →
      f stage = value k) :
    (recognizeBy .indexed order g input).stages.map f = (List.range input.length).map value := by
  refine List.ext_getElem? fun k => ?_
  rw [List.getElem?_map, List.getElem?_map]
  cases hstage : (recognizeBy .indexed order g input).stages[k]? with
  | none =>
      have hk := List.getElem?_eq_none_iff.mp hstage
      rw [length_stages_recognizeBy] at hk
      rw [List.getElem?_eq_none (by rw [List.length_range]; exact hk)]
      rfl
  | some stage =>
      have hk := (List.getElem?_eq_some_iff.mp hstage).1
      rw [length_stages_recognizeBy] at hk
      rw [List.getElem?_range hk, Option.map_some, Option.map_some, h k stage hstage]

/-- **A full edge set holds the inferred edges that end at its position.** -/
theorem mem_fullAt {k : Nat} (hk : k ≤ input.length) {e : Edge} :
    e ∈ (recognizeBy .indexed order g input).fullAt k ↔ Inferred g input e ∧ e.stop = k := by
  cases k with
  | zero =>
      refine ⟨fun he => absurd he (OrderedSet.not_mem_empty e), ?_⟩
      rintro ⟨he, hstop⟩
      have := he.holds.span
      omega
  | succ k =>
      obtain ⟨stage, hstage, hspec⟩ := exists_stage order g (List.getElem?_eq_getElem hk)
      rw [Recognition.fullAt_succ hstage]
      exact hspec.mem_column e

/-- **A full edge set in terms of derivations**: it has the lexical edge of the token in front
of the position, and the rules that are recognized up to the position. -/
theorem mem_fullAt_iff_derives {k : Nat} (hpos : 1 ≤ k) (hk : k ≤ input.length) {e : Edge} :
    e ∈ (recognizeBy .indexed order g input).fullAt k ↔
      (e.start = k - 1 ∧ e.stop = k ∧ input[k - 1]? = some e.lhs ∧ e.rhs = [] ∧ e.dot = 0) ∨
      (e.stop = k ∧ e.start < k ∧ (∃ r ∈ g.rules, r.lhs = e.lhs ∧ r.rhs = e.rhs) ∧
        1 ≤ e.dot ∧ e.dot ≤ e.rhs.length ∧
        g.Derives (e.rhs.take e.dot) (window input e.start k)) := by
  rw [mem_fullAt hk, inferred_iff_holds, Edge.Holds, Edge.isToken_iff]
  constructor
  · rintro ⟨⟨ht, hstop, hrhs, hdot⟩ | he, rfl⟩
    · -- the lexical edge of a token ends behind it
      refine Or.inl ⟨by omega, rfl, ?_, hrhs, hdot⟩
      rw [hstop, Nat.add_sub_cancel]
      exact ht
    · exact Or.inr ⟨rfl, he.start_lt_stop, he.rule_mem, he.dot_pos, e.dot_le_length,
        Grammar.derives_iff_yields.mpr he.yields⟩
  · rintro (⟨hstart, hstop, ht, hrhs, hdot⟩ | ⟨rfl, hspan, hrule, hdot, -, hderives⟩)
    · refine ⟨Or.inl ⟨?_, by omega, hrhs, hdot⟩, hstop⟩
      rw [hstart]
      exact ht
    · exact ⟨Or.inr ⟨hrule, hdot, hspan, hk, Grammar.derives_iff_yields.mp hderives⟩, rfl⟩

theorem filterMap_finished?_events (stages : List Stage)
    (h : ∀ stage ∈ stages, ∀ event ∈ stage.work, event.finished? = none) :
    (stages.flatMap Stage.events).filterMap Event.finished? =
      stages.map fun stage => (stage.position, stage.column.edges) := by
  induction stages with
  | nil => rfl
  | cons stage stages ih =>
      have hwork : stage.work.filterMap Event.finished? = [] :=
        List.filterMap_eq_nil_iff.mpr (h stage List.mem_cons_self)
      have hrest := ih fun other hother => h other (List.mem_cons_of_mem stage hother)
      rw [List.flatMap_cons, List.filterMap_append, hrest, Stage.events, List.cons_append,
        List.filterMap_cons, List.filterMap_append, hwork]
      rfl

/-- **Every position behind a token is reported once, in order, with its full edge set.** -/
theorem reported_eq (order : AgendaOrder) (g : Grammar) (input : List Symbol) :
    (recognizeBy .indexed order g input).reported =
      (List.range input.length).map fun k =>
        (k + 1, (recognizeBy .indexed order g input).fullAt (k + 1)) := by
  have hsets : (recognizeBy .indexed order g input).reported =
      (recognizeBy .indexed order g input).stages.map fun stage =>
        (stage.position, stage.column.edges) := by
    refine filterMap_finished?_events _ fun stage hstage => ?_
    obtain ⟨k, hk⟩ := List.mem_iff_getElem?.mp hstage
    obtain ⟨token, -, hspec⟩ := exists_token hk
    exact hspec.runs.finished?_log
  rw [hsets]
  refine map_stages _ fun k stage hstage => ?_
  obtain ⟨token, -, hspec⟩ := exists_token hstage
  rw [hspec.position_eq, Recognition.fullAt_succ hstage]

/-! ## The chart -/

/-- The chart has a position before each token and one at the end. -/
theorem length_chart (r : Recognition) : r.chart.length = r.input.length + 1 :=
  r.chart.length_positions

/-- **Each position of the chart holds the passive edges of the full edge set.** -/
theorem at?_chart {r : Recognition} {k : Nat} (hk : k ≤ r.input.length) :
    r.chart.at? k = some (EdgeSet.passivePart (r.fullAt k)) := by
  cases k with
  | zero => rfl
  | succ k =>
      have hk : k < r.stages.length := by
        rw [r.length_stages]
        exact hk
      have hstage : r.stages[k]? = some r.stages[k] := List.getElem?_eq_getElem hk
      rw [Recognition.fullAt_succ hstage]
      show (r.stages.map fun stage => stage.column.passivePart)[k]? = _
      rw [List.getElem?_map, hstage]
      rfl

/-- The chart is made from the full edge sets. -/
theorem positions_eq (order : AgendaOrder) (g : Grammar) (input : List Symbol) :
    (recognizeBy .indexed order g input).positions =
      ∅ :: (List.range input.length).map fun k =>
        EdgeSet.passivePart ((recognizeBy .indexed order g input).fullAt (k + 1)) := by
  refine congrArg _ (map_stages _ fun k stage hstage => ?_)
  rw [Recognition.fullAt_succ hstage]
  rfl

/-- **What is reported, and what the chart keeps of it.** Each position behind a token is
reported once, with its lexical edge and with all rules that are recognized up to there, at
least by their first symbol; the chart has the passive ones, and nothing at its first
position. -/
theorem reported_contents (recognizer : Recognizer) (g : Grammar) (input : List Symbol) :
    (recognizer.recognize g input).reported = (List.range input.length).map (fun k =>
        (k + 1, (recognizer.recognize g input).fullAt (k + 1))) ∧
    (∀ k, 1 ≤ k → k ≤ input.length → ∀ e : Edge, e ∈ (recognizer.recognize g input).fullAt k ↔
      (e.start = k - 1 ∧ e.stop = k ∧ input[k - 1]? = some e.lhs ∧ e.rhs = [] ∧ e.dot = 0) ∨
      (e.stop = k ∧ e.start < k ∧ (∃ r ∈ g.rules, r.lhs = e.lhs ∧ r.rhs = e.rhs) ∧
        1 ≤ e.dot ∧ e.dot ≤ e.rhs.length ∧
        g.Derives (e.rhs.take e.dot) (window input e.start k))) ∧
    (recognizer.recognize g input).chart.length = input.length + 1 ∧
    (recognizer.recognize g input).chart.at? 0 = some ∅ ∧
    (∀ k, 1 ≤ k → k ≤ input.length → ∃ edges,
      (recognizer.recognize g input).chart.at? k = some edges ∧
      ∀ e : Edge, e ∈ edges ↔
        e ∈ (recognizer.recognize g input).fullAt k ∧ e.isPassive = true) := by
  refine ⟨reported_eq _ g input, fun k hpos hk e => mem_fullAt_iff_derives hpos hk,
    length_chart _, rfl, fun k _ hk => ?_⟩
  refine ⟨_, at?_chart hk, fun e => ?_⟩
  rw [EdgeSet.passivePart, OrderedSet.mem_filter]

/-- Behind the first token the double is recognized up to its first symbol, and the chart keeps
the token. -/
theorem reported_contents_doubling :
    (∃ e : Edge, e ∈ ((Recognizer.mk .stack).recognize doubling ["a", "b"]).fullAt 1 ∧
      e.start = 0 ∧ e.lhs = "S" ∧ e.rhs = ["S", "S"] ∧ e.dot = 1) ∧
    ∃ edges, ((Recognizer.mk .stack).recognize doubling ["a", "b"]).chart.at? 1 = some edges ∧
      .lexical 0 "a" ∈ edges := by
  have hall := reported_contents (.mk .stack) doubling ["a", "b"]
  have hfull := hall.2.1 1 (by decide) (by decide)
  constructor
  · refine ⟨⟨0, 1, "S", ["S", "S"], 1, by decide, by decide⟩, ?_, rfl, rfl, rfl, rfl⟩
    refine (hfull _).mpr (Or.inr ⟨rfl, by decide, ⟨Rule.of "S" "S" ["S"], by decide, rfl, rfl⟩,
      by decide, by decide, ?_⟩)
    exact doubling_yields_token.derives
  · obtain ⟨edges, hat, hmem⟩ := hall.2.2.2.2 1 (by decide) (by decide)
    refine ⟨edges, hat, (hmem _).mpr ⟨?_, rfl⟩⟩
    exact (hfull _).mpr (Or.inl ⟨rfl, rfl, rfl, rfl, rfl⟩)

end ChartParsing
