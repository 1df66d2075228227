import ChartParsing.Proofs.OrderIndependence
import ChartParsing.Proofs.Positions
import ChartParsing.Proofs.Termination

/-!
# More rules find more

A grammar with more rules infers more edges, so nothing that was recognized gets lost when rules
are added: every edge set that is reported, active edges included, and every position of the
chart is a part of what it becomes (`recognition_mono`).
-/

set_option autoImplicit false

namespace ChartParsing

/-! ## Parts of a set -/

namespace OrderedSet

variable {α : Type} [Ord α]

instance : HasSubset (OrderedSet α) := ⟨fun s t => ∀ x, x ∈ s → x ∈ t⟩

/-- A part of a set is no larger than the set. -/
theorem size_le_of_subset [Std.TransOrd α] {s t : OrderedSet α} (h : s ⊆ t) : s.size ≤ t.size :=
  (s.nodup_toList.subperm h).length_le

end OrderedSet

theorem EdgeSet.passivePart_subset {s t : EdgeSet} (h : s ⊆ t) : passivePart s ⊆ passivePart t := by
  intro e he
  obtain ⟨hmem, hpassive⟩ := OrderedSet.mem_filter.mp he
  exact OrderedSet.mem_filter.mpr ⟨h e hmem, hpassive⟩

variable {g g' : Grammar} {order order' : AgendaOrder} {input : List Symbol}

/-! ## Full edge sets -/

/-- **More rules leave no edge out**, at any position. -/
theorem fullAt_subset (more : g.rules ⊆ g'.rules) (order order' : AgendaOrder)
    (input : List Symbol) (k : Nat) :
    (recognizeBy .indexed order g input).fullAt k ⊆ (recognizeBy .indexed order' g' input).fullAt k := by
  intro e he
  obtain ⟨hinferred, hstop⟩ := mem_fullAt_iff_inferred.mp he
  exact mem_fullAt_iff_inferred.mpr ⟨hinferred.mono more, hstop⟩

/-- What is told of every position behind a token, told of two lists of them. -/
theorem forall₂_range {α : Type} {R : α → α → Prop} {first second : Nat → α}
    (h : ∀ k, R (first k) (second k)) (n : Nat) :
    List.Forall₂ R ((List.range n).map first) ((List.range n).map second) := by
  rw [List.forall₂_map_left_iff, List.forall₂_map_right_iff]
  exact List.forall₂_same.mpr fun k _ => h k

/-! ## Charts -/

theorem positions_subset (more : g.rules ⊆ g'.rules) :
    List.Forall₂ (· ⊆ ·) (recognizeBy .indexed order g input).positions
      (recognizeBy .indexed order' g' input).positions := by
  rw [positions_eq, positions_eq]
  refine .cons (fun e he => he) (forall₂_range (fun k => ?_) input.length)
  exact EdgeSet.passivePart_subset (fullAt_subset more order order' input (k + 1))

theorem size_chart_le (more : g.rules ⊆ g'.rules) :
    (recognizeBy .indexed order g input).chart.size ≤
      (recognizeBy .indexed order' g' input).chart.size := by
  rw [size_chart, size_chart]
  refine List.sum_le_sum fun k _ => OrderedSet.size_le_of_subset ?_
  exact EdgeSet.passivePart_subset (fullAt_subset more order order' input (k + 1))

/-- What a smaller grammar recognizes is recognized with a larger one. -/
theorem recognized_mono (more : g.rules ⊆ g'.rules) {category : Symbol} {start : Nat} {stop : Int64}
    (h : (recognizeBy .indexed order g input).chart.recognized category start stop = .ok true) :
    (recognizeBy .indexed order' g' input).chart.recognized category start stop = .ok true := by
  have hlength : (recognizeBy .indexed order g input).chart.length =
      (recognizeBy .indexed order' g' input).chart.length := by
    rw [length_chart, length_chart]
    rfl
  rw [Chart.recognized_eq] at h ⊢
  rw [← hlength]
  split at h
  next hrange =>
    rw [if_pos hrange]
    have hk : (signedIndex (recognizeBy .indexed order g input).chart.length stop).toNatClampNeg ≤
        input.length := Nat.le_of_lt_succ (Nat.lt_of_lt_of_eq hrange.2 (length_chart _))
    -- the edge that answered the question is in the larger edge set as well
    rw [at?_chart hk, Except.ok.injEq, List.any_eq_true] at h
    rw [at?_chart hk, Except.ok.injEq, List.any_eq_true]
    obtain ⟨e, he, hmatch⟩ := h
    obtain ⟨hmem, hpassive⟩ := List.mem_filter.mp he
    refine ⟨e, List.mem_filter.mpr ⟨?_, hpassive⟩, hmatch⟩
    exact EdgeSet.passivePart_subset (fullAt_subset more order order' input _) e hmem
  next => cases h

/-- **Adding rules loses nothing.** If the rules of a grammar are among those of another one,
the same positions are reported, each with a part of the edges that the other one finds there,
and so is each position of the chart; the chart is no larger, and all that it recognizes is
recognized with the other grammar as well. -/
theorem recognition_mono {rules rules' : List Rule} (more : rules ⊆ rules')
    (recognizer recognizer' : Recognizer) (input : List Symbol) :
    List.Forall₂ (fun a b => a.1 = b.1 ∧ a.2 ⊆ b.2)
        (recognizer.recognize (.ofRules rules) input).reported
        (recognizer'.recognize (.ofRules rules') input).reported ∧
      List.Forall₂ (· ⊆ ·) (recognizer.recognize (.ofRules rules) input).chart.positions
        (recognizer'.recognize (.ofRules rules') input).chart.positions ∧
      (recognizer.recognize (.ofRules rules) input).chart.size ≤
        (recognizer'.recognize (.ofRules rules') input).chart.size ∧
      ∀ category start stop,
        (recognizer.recognize (.ofRules rules) input).chart.recognized category start stop = .ok true →
          (recognizer'.recognize (.ofRules rules') input).chart.recognized category start stop =
            .ok true := by
  have moreRules : (Grammar.ofRules rules).rules ⊆ (Grammar.ofRules rules').rules := by
    intro r hr
    exact Grammar.mem_rules_ofRules.mpr (more (Grammar.mem_rules_ofRules.mp hr))
  refine ⟨?_, positions_subset moreRules, size_chart_le moreRules, fun category start stop h => ?_⟩
  · unfold Recognizer.recognize
    rw [reported_eq, reported_eq]
    exact forall₂_range (fun k => ⟨rfl, fullAt_subset moreRules _ _ input (k + 1)⟩) input.length
  · exact recognized_mono moreRules h

/-- A rule for the token is added, in front of a rule that is given twice, and the agenda is
worked off in the other order. -/
theorem recognition_mono_doubling :
    [Rule.of "S" "S" ["S"], .of "S" "a" []] ⊆
        [Rule.of "a" "b" [], .of "S" "a" [], .of "S" "S" ["S"], .of "S" "a" []] ∧
      ((Recognizer.mk .stack).recognize (.ofRules [.of "S" "S" ["S"], .of "S" "a" []])
          ["a", "b", "a"]).chart.size ≤
        ((Recognizer.mk .queue).recognize
          (.ofRules [.of "a" "b" [], .of "S" "a" [], .of "S" "S" ["S"], .of "S" "a" []])
          ["a", "b", "a"]).chart.size := by
  have more : [Rule.of "S" "S" ["S"], .of "S" "a" []] ⊆
      [Rule.of "a" "b" [], .of "S" "a" [], .of "S" "S" ["S"], .of "S" "a" []] := by decide
  exact ⟨more, (recognition_mono more (.mk .stack) (.mk .queue) ["a", "b", "a"]).2.2.1⟩

end ChartParsing
