import ChartParsing.Proofs.Answers
import ChartParsing.Proofs.OrderIndependence

/-!
# Rules that can never complete

A rule is stuck when it waits for a symbol that nobody can provide: the symbol is no token of the
input, and no rule expands it. Such a rule may be predicted, and advanced up to the symbol, at any
position. It leaves no trace in the chart all the same (`stuck_rules_inert`).

Main lemma: `Grammar.Yields.without`. What yields a part of the input never expanded a stuck rule,
so it does without them.
-/

set_option autoImplicit false

namespace ChartParsing

/-- **A rule that can never complete**: some symbol on its right-hand side is neither a token of the
input nor expanded by a rule of the grammar. -/
def Rule.Stuck (g : Grammar) (input : List Symbol) (r : Rule) : Prop :=
  ∃ s ∈ r.rhs, s ∉ input ∧ ∀ other ∈ g.rules, other.lhs ≠ s

/-- The grammar without some of its rules. -/
def Grammar.without (g : Grammar) (dropped : List Rule) : Grammar :=
  .ofRules (g.rules.filter fun r => r ∉ dropped)

variable {g g' : Grammar} {order order' : AgendaOrder} {input : List Symbol} {dropped : List Rule}

theorem Grammar.mem_rules_without {r : Rule} :
    r ∈ (g.without dropped).rules ↔ r ∈ g.rules ∧ r ∉ dropped := by
  simp [without, mem_rules_ofRules]

/-- A window shows tokens of the input only. -/
theorem window_subset (input : List Symbol) (i j : Nat) : window input i j ⊆ input := by
  intro t ht
  exact List.mem_of_mem_drop (List.mem_of_mem_take ht)

/-! ## Yields without stuck rules -/

/-- **A symbol that yields something is a token of it, or is expanded by a rule.** -/
theorem Grammar.Yields.mem_or_expanded {symbols tokens : List Symbol} (h : g.Yields symbols tokens) :
    ∀ s ∈ symbols, s ∈ tokens ∨ ∃ r ∈ g.rules, r.lhs = s := by
  induction h with
  | nil => simp
  | keep t _ ih =>
      intro s hs
      rcases List.mem_cons.mp hs with rfl | hs
      · simp
      · rcases ih s hs with htoken | hrule
        · exact Or.inl (List.mem_cons_of_mem t htoken)
        · exact Or.inr hrule
  | @expand r _ part _ hr _ _ _ ih =>
      intro s hs
      rcases List.mem_cons.mp hs with rfl | hs
      · exact Or.inr ⟨r, hr, rfl⟩
      · rcases ih s hs with htoken | hrule
        · exact Or.inl (List.mem_append_right part htoken)
        · exact Or.inr hrule

/-- The right-hand side of a stuck rule yields no part of the input. -/
theorem Rule.Stuck.not_yields {r : Rule} (hstuck : r.Stuck g input) {tokens : List Symbol}
    (htokens : tokens ⊆ input) : ¬g.Yields r.rhs tokens := by
  intro h
  obtain ⟨s, hs, hinput, hrules⟩ := hstuck
  rcases h.mem_or_expanded s hs with htoken | ⟨other, hother, hlhs⟩
  · exact hinput (htokens htoken)
  · exact hrules other hother hlhs

/-- **What yields a part of the input does so without the stuck rules**, since each rule that was
expanded yields a part as well. -/
theorem Grammar.Yields.without (stuck : ∀ r ∈ dropped, r.Stuck g input)
    {symbols tokens : List Symbol} (h : g.Yields symbols tokens) (htokens : tokens ⊆ input) :
    (g.without dropped).Yields symbols tokens := by
  induction h with
  | nil => exact .nil
  | keep t _ ih => exact .keep t (ih (List.subset_of_cons_subset htokens))
  | @expand r _ part tokens hr inner _ ihInner ihRest =>
      have hpart : part ⊆ input := fun t ht => htokens (List.mem_append_left tokens ht)
      have hrest : tokens ⊆ input := fun t ht => htokens (List.mem_append_right part ht)
      have hkept : r ∉ dropped := fun hdropped => (stuck r hdropped).not_yields hpart inner
      exact .expand (mem_rules_without.mpr ⟨hr, hkept⟩) (ihInner hpart) (ihRest hrest)

/-! ## Charts without stuck rules -/

/-- A recognized constituent is no instance of a stuck rule. -/
theorem Inferred.not_stuck {e : Edge} (he : Inferred g input e) (hpassive : e.isPassive = true)
    {r : Rule} (hstuck : r.Stuck g input) : e.rule? ≠ some r := by
  intro hrule
  obtain ⟨-, hrhs⟩ := Edge.rule?_eq_some_iff.mp hrule
  rcases he.holds with htoken | hpartial
  · obtain ⟨-, -, hnone, -⟩ := Edge.isToken_iff.mp htoken
    exact r.rhs_ne_nil (hrhs.trans hnone)
  · have hyields := hpartial.yields
    rw [Edge.isPassive_iff.mp hpassive, List.take_length, ← hrhs] at hyields
    exact hstuck.not_yields (window_subset input e.start e.stop) hyields

/-- **The constituents are inferred without the stuck rules**, and no others are. -/
theorem inferred_without_iff (stuck : ∀ r ∈ dropped, r.Stuck g input) {e : Edge}
    (hpassive : e.isPassive = true) :
    Inferred (g.without dropped) input e ↔ Inferred g input e := by
  constructor
  · intro he
    exact he.mono fun r hr => (Grammar.mem_rules_without.mp hr).1
  · intro he
    rcases he.holds with htoken | hpartial
    · exact inferred_iff_holds.mpr (Or.inl htoken)
    · obtain ⟨r, hr, hsides⟩ := hpartial.rule_mem
      have hkept : r ∉ dropped := fun hdropped =>
        he.not_stuck hpassive (stuck r hdropped) (Edge.rule?_eq_some_iff.mpr hsides)
      refine inferred_iff_holds.mpr (Or.inr ⟨⟨r, Grammar.mem_rules_without.mpr ⟨hr, hkept⟩, hsides⟩,
        hpartial.dot_pos, hpartial.start_lt_stop, hpartial.stop_le_length, ?_⟩)
      exact hpartial.yields.without stuck (window_subset input e.start e.stop)

/-- **The chart depends on the inferred passive edges only.** -/
theorem chart_eq_of_inferred_iff
    (same : ∀ e : Edge, e.isPassive = true → (Inferred g input e ↔ Inferred g' input e)) :
    (recognizeBy .indexed order g input).chart = (recognizeBy .indexed order' g' input).chart := by
  have hpassive : ∀ k, EdgeSet.passivePart ((recognizeBy .indexed order g input).fullAt k) =
      EdgeSet.passivePart ((recognizeBy .indexed order' g' input).fullAt k) := by
    intro k
    refine OrderedSet.ext_mem fun e => ?_
    simp only [EdgeSet.passivePart, OrderedSet.mem_filter, mem_fullAt_iff_inferred]
    constructor
    · rintro ⟨⟨he, hstop⟩, hpassive⟩
      exact ⟨⟨(same e hpassive).mp he, hstop⟩, hpassive⟩
    · rintro ⟨⟨he, hstop⟩, hpassive⟩
      exact ⟨⟨(same e hpassive).mpr he, hstop⟩, hpassive⟩
  have hpositions : (recognizeBy .indexed order g input).positions =
      (recognizeBy .indexed order' g' input).positions := by
    simp only [positions_eq, hpassive]
  unfold Recognition.chart
  congr 1

/-- **Rules that can never complete leave no trace in the chart.** If each of some rules has a symbol
on its right-hand side that is neither a token of the input nor expanded by any rule, then no edge
of the chart is an instance of one of them, and the grammar without them has the same chart, for
any two orders of the agenda. -/
theorem stuck_rules_inert (recognizer recognizer' : Recognizer) (g : Grammar) (input : List Symbol)
    {dropped : List Rule} (stuck : ∀ r ∈ dropped, r.Stuck g input) :
    (∀ e ∈ (recognizer.recognize g input).chart.edges, ∀ r ∈ dropped, e.rule? ≠ some r) ∧
      (recognizer'.recognize (g.without dropped) input).chart =
        (recognizer.recognize g input).chart := by
  constructor
  · intro e he r hr
    obtain ⟨hinferred, hpassive⟩ := mem_edges_chart.mp he
    exact hinferred.not_stuck hpassive (stuck r hr)
  · exact chart_eq_of_inferred_iff fun e hpassive => inferred_without_iff stuck hpassive

/-- A rule is advanced over both tokens, and then waits for a symbol that nothing expands to. -/
theorem stuck_rules_inert_waiting :
    (∀ r ∈ [Rule.of "S" "S" ["S", "T"]],
        r.Stuck (.ofRules [.of "S" "S" ["S", "T"], .of "S" "a" [], .of "S" "S" ["S"]]) ["a", "a"]) ∧
      ((Recognizer.mk .queue).recognize
          ((Grammar.ofRules [.of "S" "S" ["S", "T"], .of "S" "a" [], .of "S" "S" ["S"]]).without
            [.of "S" "S" ["S", "T"]]) ["a", "a"]).chart =
        ((Recognizer.mk .stack).recognize
          (.ofRules [.of "S" "S" ["S", "T"], .of "S" "a" [], .of "S" "S" ["S"]]) ["a", "a"]).chart := by
  have stuck : ∀ r ∈ [Rule.of "S" "S" ["S", "T"]],
      r.Stuck (.ofRules [.of "S" "S" ["S", "T"], .of "S" "a" [], .of "S" "S" ["S"]]) ["a", "a"] := by
    intro r hr
    rw [List.mem_singleton.mp hr]
    exact ⟨"T", by decide, by decide, by decide⟩
  exact ⟨stuck, (stuck_rules_inert (.mk .stack) (.mk .queue) _ _ stuck).2⟩

end ChartParsing
