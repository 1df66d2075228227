import ChartParsing.Proofs.Workload

/-!
# The order of the work cannot be observed

Which edges are inferred depends on the set of rules only, and the full edge sets hold just
the inferred edges. The charts, the reported edge sets and the statistics are functions of
these sets, so they are the same for both orders of the agenda, and for any order and
repetition of the rules (`recognitions_agree`).
-/

set_option autoImplicit false

namespace ChartParsing

variable {g g' : Grammar} {order order' : AgendaOrder} {input : List Symbol}

/-- More rules do not infer less. -/
theorem Inferred.mono (h : ∀ r ∈ g.rules, r ∈ g'.rules) {e : Edge} (he : Inferred g input e) :
    Inferred g' input e := by
  induction he with
  | token ht => exact .token ht
  | predict _ hpassive hr hfirst hf ih => exact .predict ih hpassive (h _ hr) hfirst hf
  | complete _ hpassive _ hjoin hnext hf ih ihw => exact .complete ih hpassive ihw hjoin hnext hf

/-! ## Full edge sets -/

/-- No edge ends behind the last position. -/
theorem fullAt_of_length_lt {k : Nat} (hk : input.length < k) :
    (recognizeBy .indexed order g input).fullAt k = ∅ := by
  cases k with
  | zero => omega
  | succ k =>
      have hnone : (recognizeBy .indexed order g input).stages[k]? = none := by
        rw [List.getElem?_eq_none_iff, length_stages_recognizeBy]
        omega
      rw [Recognition.fullAt, hnone]
      rfl

/-- The full edge sets hold the inferred edges, also where the input has no position: no edge is
inferred to end there. -/
theorem mem_fullAt_iff_inferred {k : Nat} {e : Edge} :
    e ∈ (recognizeBy .indexed order g input).fullAt k ↔ Inferred g input e ∧ e.stop = k := by
  by_cases hk : k ≤ input.length
  · exact mem_fullAt hk
  · rw [fullAt_of_length_lt (Nat.lt_of_not_le hk)]
    refine iff_of_false (OrderedSet.not_mem_empty e) ?_
    rintro ⟨he, rfl⟩
    exact hk he.holds.span.2

/-- **The full edge sets depend on the set of rules only**, at every position. -/
theorem fullAt_eq (same : ∀ r, r ∈ g.rules ↔ r ∈ g'.rules) (order order' : AgendaOrder)
    (input : List Symbol) :
    (recognizeBy .indexed order g input).fullAt = (recognizeBy .indexed order' g' input).fullAt := by
  funext k
  refine OrderedSet.ext_mem fun e => ?_
  rw [mem_fullAt_iff_inferred, mem_fullAt_iff_inferred]
  constructor
  · rintro ⟨he, hstop⟩
    exact ⟨he.mono fun r hr => (same r).mp hr, hstop⟩
  · rintro ⟨he, hstop⟩
    exact ⟨he.mono fun r hr => (same r).mpr hr, hstop⟩

/-! ## Functions of the full edge sets -/

theorem chart_eq_of_fullAt_eq
    (hfull : (recognizeBy .indexed order g input).fullAt =
      (recognizeBy .indexed order' g' input).fullAt) :
    (recognizeBy .indexed order g input).chart = (recognizeBy .indexed order' g' input).chart := by
  have hpositions : (recognizeBy .indexed order g input).positions =
      (recognizeBy .indexed order' g' input).positions := by
    rw [positions_eq, positions_eq, hfull]
  unfold Recognition.chart
  congr 1

/-- The rules are the same, in another order perhaps, as no rule is listed twice. -/
theorem perm_rules (same : ∀ r, r ∈ g.rules ↔ r ∈ g'.rules) : g.rules.Perm g'.rules :=
  (List.perm_ext_iff_of_nodup g.nodup g'.nodup).mpr same

theorem workAt_eq (same : ∀ r, r ∈ g.rules ↔ r ∈ g'.rules) : workAt g = workAt g' := by
  have hcount : predictionCount g = predictionCount g' := by
    funext e
    exact ((perm_rules same).filter _).length_eq
  unfold workAt
  rw [hcount]

/-- **Neither the order of the agenda nor the order of the rules can be observed**: the charts,
the edge sets that are reported, and all that is counted are the same for rules that are the
same up to order and repetition, worked off in any two orders. -/
theorem recognitions_agree {rules rules' : List Rule} (same : ∀ r, r ∈ rules ↔ r ∈ rules')
    (recognizer recognizer' : Recognizer) (input : List Symbol) :
    (recognizer.recognize (.ofRules rules) input).chart =
        (recognizer'.recognize (.ofRules rules') input).chart ∧
      (recognizer.recognize (.ofRules rules) input).reported =
        (recognizer'.recognize (.ofRules rules') input).reported ∧
      (recognizer.recognize (.ofRules rules) input).statistics =
        (recognizer'.recognize (.ofRules rules') input).statistics := by
  have sameRules : ∀ r, r ∈ (Grammar.ofRules rules).rules ↔ r ∈ (Grammar.ofRules rules').rules := by
    intro r
    rw [Grammar.mem_rules_ofRules, Grammar.mem_rules_ofRules, same r]
  have hfull := fullAt_eq sameRules recognizer.agendaOrder recognizer'.agendaOrder input
  refine ⟨chart_eq_of_fullAt_eq hfull, ?_, ?_⟩
  · unfold Recognizer.recognize
    rw [reported_eq, reported_eq, hfull]
  · unfold Recognizer.recognize
    rw [statistics_eq_sum, statistics_eq_sum, hfull, workAt_eq sameRules]

/-- Rules given in another order, one of them twice, and worked off in the other order. -/
theorem recognitions_agree_swapped :
    ((Recognizer.mk .stack).recognize (.ofRules [.of "S" "S" ["S"], .of "S" "a" []])
        ["a", "a", "a"]).statistics =
      ((Recognizer.mk .queue).recognize
        (.ofRules [.of "S" "a" [], .of "S" "S" ["S"], .of "S" "a" []]) ["a", "a", "a"]).statistics := by
  refine (recognitions_agree (fun r => ?_) _ _ _).2.2
  simp only [List.mem_cons, List.not_mem_nil, or_false]
  tauto

end ChartParsing
