import Mathlib.Data.List.Nodup
import Mathlib.Logic.Equiv.Basic
import ChartParsing.Proofs.OrderIndependence
import ChartParsing.Proofs.Positions

/-!
# Symbols matter through equality only

An injective renaming of the symbols changes their order, and with it the order of every edge
set, of every index and of the agendas, so that a recognition with renamed symbols does not
follow the original one step by step. What it finds is the same up to the renaming all the same:
the rules of inference compare symbols for equality and nothing else.

Main lemma: `inferred_rename_iff`, the edges inferred from the renamed input by renamed
rules are the renamed edges. Main theorem: `recognition_rename`.
-/

set_option autoImplicit false

namespace ChartParsing

variable (f : Symbol → Symbol)

/-! ## Renamed rules and edges -/

namespace Rule

/-- The rule with its symbols renamed. -/
def rename (r : Rule) : Rule :=
  ⟨f r.lhs, r.rhs.map f, fun h => r.rhs_ne_nil (List.map_eq_nil_iff.mp h)⟩

theorem first_rename (r : Rule) : (r.rename f).first = f r.first := List.head_map ..

variable {f}

theorem rename_injective (hf : Function.Injective f) : Function.Injective (rename f) := by
  intro r t h
  have hlhs : r.lhs = t.lhs := hf (congrArg lhs h)
  have hrhs : r.rhs = t.rhs := hf.list_map (congrArg rhs h)
  cases r
  cases t
  cases hlhs
  cases hrhs
  rfl

end Rule

namespace Edge

/-- The edge with its symbols renamed, over the same span and with the dot in the same place. -/
def rename (e : Edge) : Edge :=
  ⟨e.start, e.stop, f e.lhs, e.rhs.map f, e.dot, e.start_le_stop, by
    rw [List.length_map]
    exact e.dot_le_length⟩

theorem isPassive_rename (e : Edge) : (e.rename f).isPassive = e.isPassive := by
  unfold isPassive rename
  rw [List.length_map]

theorem isActive_rename (e : Edge) : (e.rename f).isActive = e.isActive := by
  unfold isActive
  rw [isPassive_rename]

theorem next?_rename (e : Edge) : (e.rename f).next? = e.next?.map f := List.getElem?_map

theorem predicted_rename {start stop : Nat} {r : Rule} {e : Edge}
    (h : predicted start stop r = .ok e) :
    predicted start stop (r.rename f) = .ok (e.rename f) := by
  obtain ⟨hstart, hstop, hlhs, hrhs, hdot⟩ := predicted_eq_ok_iff.mp h
  exact predicted_eq_ok_iff.mpr
    ⟨hstart, hstop, congrArg f hlhs, congrArg (List.map f) hrhs, hdot⟩

theorem advance_rename {w e : Edge} {stop : Nat} (h : w.advance stop = .ok e) :
    (w.rename f).advance stop = .ok (e.rename f) := by
  obtain ⟨hactive, hstart, hstop, hlhs, hrhs, hdot⟩ := advance_eq_ok_iff.mp h
  exact advance_eq_ok_iff.mpr ⟨(isActive_rename f w).trans hactive, hstart, hstop,
    congrArg f hlhs, congrArg (List.map f) hrhs, hdot⟩

variable {f}

theorem rename_injective (hf : Function.Injective f) : Function.Injective (rename f) := by
  intro a b h
  obtain ⟨hstart, hstop, hlhs, hrhs, hdot⟩ := Edge.ext_iff.mp h
  exact Edge.ext hstart hstop (hf hlhs) (hf.list_map hrhs) hdot

end Edge

/-! ## Renamed sets -/

namespace EdgeSet

/-- The set of the renamed edges. -/
def rename (s : EdgeSet) : EdgeSet := OrderedSet.ofList (s.toList.map (Edge.rename f))

theorem mem_rename {s : EdgeSet} {e : Edge} : e ∈ rename f s ↔ ∃ d ∈ s, d.rename f = e := by
  rw [rename, OrderedSet.mem_ofList, List.mem_map]
  rfl

theorem passivePart_rename (s : EdgeSet) :
    passivePart (rename f s) = rename f (passivePart s) := by
  refine OrderedSet.ext_mem fun e => ?_
  rw [passivePart, OrderedSet.mem_filter, mem_rename, mem_rename]
  constructor
  · rintro ⟨⟨d, hd, rfl⟩, hpassive⟩
    rw [Edge.isPassive_rename] at hpassive
    exact ⟨d, OrderedSet.mem_filter.mpr ⟨hd, hpassive⟩, rfl⟩
  · rintro ⟨d, hd, rfl⟩
    obtain ⟨hd, hpassive⟩ := OrderedSet.mem_filter.mp hd
    exact ⟨⟨d, hd, rfl⟩, (Edge.isPassive_rename f d).trans hpassive⟩

variable {f}

/-- **A renamed set lists the renamed edges**, in an order of its own. -/
theorem perm_rename (hf : Function.Injective f) (s : EdgeSet) :
    (rename f s).toList.Perm (s.toList.map (Edge.rename f)) := by
  refine (List.perm_ext_iff_of_nodup (OrderedSet.nodup_toList _) ?_).mpr fun e => ?_
  · exact s.nodup_toList.map (Edge.rename_injective hf)
  · exact OrderedSet.mem_ofList

theorem size_rename (hf : Function.Injective f) (s : EdgeSet) : (rename f s).size = s.size := by
  calc (rename f s).size
      = (s.toList.map (Edge.rename f)).length := (perm_rename hf s).length_eq
    _ = s.size := List.length_map _

/-- The renamed edges that satisfy `p`, when `p` looks at the original ones. -/
theorem perm_filter_rename (hf : Function.Injective f) {p q : Edge → Bool}
    (h : ∀ e, p (e.rename f) = q e) (s : EdgeSet) :
    ((rename f s).toList.filter p).Perm ((s.toList.filter q).map (Edge.rename f)) := by
  have hpq : p ∘ Edge.rename f = q := funext h
  calc (rename f s).toList.filter p
      |>.Perm ((s.toList.map (Edge.rename f)).filter p) := (perm_rename hf s).filter p
    _ = (s.toList.filter q).map (Edge.rename f) := by rw [List.filter_map, hpq]

end EdgeSet

variable {f} {g g' : Grammar} {order order' : AgendaOrder} {input : List Symbol}

/-! ## Inferred edges -/

/-- What was inferred is inferred from the renamed tokens by the renamed rules. -/
theorem Inferred.rename (rules : ∀ r ∈ g.rules, r.rename f ∈ g'.rules) {e : Edge}
    (he : Inferred g input e) : Inferred g' (input.map f) (e.rename f) := by
  induction he with
  | @token i t ht =>
      refine .token ?_
      show (input.map f)[i]? = some (f t)
      rw [List.getElem?_map, ht]
      rfl
  | @predict e d r _ hpassive hr hfirst hd ih =>
      refine .predict ih ((Edge.isPassive_rename f e).trans hpassive) (rules r hr) ?_
        (Edge.predicted_rename f hd)
      exact (r.first_rename f).trans (congrArg f hfirst)
  | @complete e w d _ hpassive _ hjoin hnext hd ih ihw =>
      refine .complete ih ((Edge.isPassive_rename f e).trans hpassive) ihw hjoin ?_
        (Edge.advance_rename f hd)
      rw [Edge.next?_rename, hnext]
      rfl

/-- What is inferred from renamed tokens by renamed rules was inferred before, if different symbols
have different names. -/
theorem Inferred.exists_rename (hf : Function.Injective f)
    (rules : ∀ r' ∈ g'.rules, ∃ r ∈ g.rules, r.rename f = r') {e' : Edge}
    (h : Inferred g' (input.map f) e') : ∃ e, Inferred g input e ∧ e.rename f = e' := by
  induction h with
  | @token i t' ht =>
      rw [List.getElem?_map, Option.map_eq_some_iff] at ht
      obtain ⟨t, ht, rfl⟩ := ht
      exact ⟨.lexical i t, .token ht, rfl⟩
  | @predict _ d' r' _ hpassive hr' hfirst hd' ih =>
      obtain ⟨e, he, rfl⟩ := ih
      obtain ⟨r, hr, rfl⟩ := rules r' hr'
      rw [Edge.isPassive_rename] at hpassive
      -- the first symbol of the rule and that of the edge had one name, so they were equal
      have hfirst : r.first = e.lhs := hf ((r.first_rename f).symm.trans hfirst)
      obtain ⟨d, hd⟩ := Edge.exists_predicted e.start_le_stop r
      refine ⟨d, .predict he hpassive hr hfirst hd, ?_⟩
      exact Except.ok.inj ((Edge.predicted_rename f hd).symm.trans hd')
  | @complete _ _ d' _ hpassive _ hjoin hnext hd' ih ihw =>
      obtain ⟨e, he, rfl⟩ := ih
      obtain ⟨w, hw, rfl⟩ := ihw
      rw [Edge.isPassive_rename] at hpassive
      rw [Edge.next?_rename, Option.map_eq_some_iff] at hnext
      obtain ⟨s, hnext, hs⟩ := hnext
      rw [hf hs] at hnext
      have hjoin : w.stop = e.start := hjoin
      have hspan : w.start ≤ e.stop :=
        (w.start_le_stop.trans (Nat.le_of_eq hjoin)).trans e.start_le_stop
      obtain ⟨d, hd⟩ := Edge.exists_advance (Edge.isActive_of_next? hnext) hspan
      refine ⟨d, .complete he hpassive hw hjoin hnext hd, ?_⟩
      exact Except.ok.inj ((Edge.advance_rename f hd).symm.trans hd')

/-- **Renamed rules infer the renamed edges**, and no others. -/
theorem inferred_rename_iff (hf : Function.Injective f)
    (rules : g'.rules.Perm (g.rules.map (Rule.rename f))) {e' : Edge} :
    Inferred g' (input.map f) e' ↔ ∃ e, Inferred g input e ∧ e.rename f = e' := by
  constructor
  · intro h
    exact h.exists_rename hf fun r' hr => List.mem_map.mp (rules.mem_iff.mp hr)
  · rintro ⟨e, he, rfl⟩
    exact he.rename fun r hr => rules.mem_iff.mpr (List.mem_map_of_mem hr)

/-- **The full edge sets are the renamed ones**, at every position. -/
theorem fullAt_rename (hf : Function.Injective f)
    (rules : g'.rules.Perm (g.rules.map (Rule.rename f))) (order order' : AgendaOrder)
    (input : List Symbol) (k : Nat) :
    (recognizeBy .indexed order' g' (input.map f)).fullAt k =
      EdgeSet.rename f ((recognizeBy .indexed order g input).fullAt k) := by
  refine OrderedSet.ext_mem fun e' => ?_
  rw [mem_fullAt_iff_inferred, inferred_rename_iff hf rules, EdgeSet.mem_rename]
  constructor
  · rintro ⟨⟨e, he, rfl⟩, hstop⟩
    exact ⟨e, mem_fullAt_iff_inferred.mpr ⟨he, hstop⟩, rfl⟩
  · rintro ⟨e, he, rfl⟩
    obtain ⟨he, hstop⟩ := mem_fullAt_iff_inferred.mp he
    exact ⟨⟨e, he, rfl⟩, hstop⟩

/-! ## Statistics -/

theorem predictionCount_rename (hf : Function.Injective f)
    (rules : g'.rules.Perm (g.rules.map (Rule.rename f))) (e : Edge) :
    predictionCount g' (e.rename f) = predictionCount g e := by
  have hfirst : (fun r => decide (Rule.first r = (e.rename f).lhs)) ∘ Rule.rename f =
      fun r => decide (r.first = e.lhs) := by
    funext r
    show decide ((r.rename f).first = f e.lhs) = decide (r.first = e.lhs)
    rw [r.first_rename f, decide_eq_decide]
    exact hf.eq_iff
  calc predictionCount g' (e.rename f)
      = ((g.rules.map (Rule.rename f)).filter fun r => r.first = (e.rename f).lhs).length :=
        (rules.filter _).length_eq
    _ = predictionCount g e := by
        rw [List.filter_map, hfirst, List.length_map]
        rfl

theorem completionCount_rename (hf : Function.Injective f) (waiting : EdgeSet) (e : Edge) :
    completionCount (EdgeSet.rename f waiting) (e.rename f) = completionCount waiting e := by
  unfold completionCount EdgeSet.active
  rw [List.filter_filter, List.filter_filter]
  have hexpects : ∀ w : Edge,
      (decide ((w.rename f).next? = some (e.rename f).lhs) && (w.rename f).isActive) =
        (decide (w.next? = some e.lhs) && w.isActive) := by
    intro w
    have hnext : (w.rename f).next? = some (e.rename f).lhs ↔ w.next? = some e.lhs := by
      rw [Edge.next?_rename]
      show w.next?.map f = (some e.lhs).map f ↔ _
      exact (Option.map_injective hf).eq_iff
    rw [Edge.isActive_rename, decide_eq_decide.mpr hnext]
  rw [(EdgeSet.perm_filter_rename hf hexpects waiting).length_eq, List.length_map]

/-- **The work on a position is the same** when the edge sets are renamed, as are the rules. -/
theorem workAt_rename (hf : Function.Injective f)
    (rules : g'.rules.Perm (g.rules.map (Rule.rename f))) (full : Nat → EdgeSet) (k : Nat) :
    workAt g' (fun k => EdgeSet.rename f (full k)) k = workAt g full k := by
  have hsum : ∀ count count' : Edge → Nat, (∀ e, count' (e.rename f) = count e) →
      ((EdgeSet.passive (EdgeSet.rename f (full k))).map count').sum =
        ((EdgeSet.passive (full k)).map count).sum := by
    intro count count' hcount
    have hpassive := EdgeSet.perm_filter_rename hf (Edge.isPassive_rename f) (full k)
    calc ((EdgeSet.passive (EdgeSet.rename f (full k))).map count').sum
        = ((((full k).toList.filter Edge.isPassive).map (Edge.rename f)).map count').sum :=
          (hpassive.map count').sum_nat
      _ = ((EdgeSet.passive (full k)).map count).sum := by
          rw [List.map_map, show count' ∘ Edge.rename f = count from funext hcount]
          rfl
  unfold workAt
  rw [EdgeSet.size_rename hf, hsum _ _ (predictionCount_rename hf rules),
    hsum _ (fun e => completionCount (EdgeSet.rename f (full e.start)) e)
      fun e => completionCount_rename hf (full e.start) e]

/-! ## Recognitions -/

/-- The chart over the renamed input with all edges renamed. -/
def Chart.rename (f : Symbol → Symbol) (c : Chart) : Chart :=
  ⟨c.input.map f, c.positions.map (EdgeSet.rename f), by
    rw [List.length_map, List.length_map, c.length_positions]⟩

/-- The edges of a position are renamed; a position that the chart does not have has none. -/
theorem Chart.getD_at?_rename (c : Chart) (k : Nat) :
    ((c.rename f).at? k).getD ∅ = EdgeSet.rename f ((c.at? k).getD ∅) := by
  have hat : (c.rename f).at? k = (c.at? k).map (EdgeSet.rename f) := List.getElem?_map
  rw [hat]
  cases c.at? k with
  | none => rfl
  | some edges => rfl

/-- **The chart answers about renamed symbols** what it answered about the original ones. -/
theorem Chart.recognized_rename (hf : Function.Injective f) (c : Chart) (category : Symbol)
    (start : Nat) (stop : Int64) :
    (c.rename f).recognized (f category) start stop = c.recognized category start stop := by
  have hlength : (c.rename f).length = c.length := List.length_map _
  have hmatch : (fun e => e.start == start && e.lhs == f category) ∘ Edge.rename f =
      fun e => e.start == start && e.lhs == category := by
    funext e
    show (e.start == start && f e.lhs == f category) = (e.start == start && e.lhs == category)
    rw [Bool.eq_iff_iff]
    simp only [Bool.and_eq_true, beq_iff_eq, hf.eq_iff]
  have hany : ∀ edges : EdgeSet, (EdgeSet.passive (EdgeSet.rename f edges)).any
      (fun e => e.start == start && e.lhs == f category) =
        (EdgeSet.passive edges).any fun e => e.start == start && e.lhs == category := by
    intro edges
    have hpassive := EdgeSet.perm_filter_rename hf (Edge.isPassive_rename f) edges
    rw [EdgeSet.passive, hpassive.any_eq, List.any_map, hmatch]
    rfl
  rw [recognized_eq, recognized_eq, hlength, getD_at?_rename, hany]

theorem chart_rename (hf : Function.Injective f)
    (rules : g'.rules.Perm (g.rules.map (Rule.rename f))) :
    (recognizeBy .indexed order' g' (input.map f)).chart =
      (recognizeBy .indexed order g input).chart.rename f := by
  have hpositions : (recognizeBy .indexed order' g' (input.map f)).positions =
      (recognizeBy .indexed order g input).positions.map (EdgeSet.rename f) := by
    rw [positions_eq, positions_eq, List.length_map, List.map_cons, List.map_map]
    refine congrArg (List.cons ∅) (List.map_congr_left fun k _ => ?_)
    rw [fullAt_rename hf rules order order' input (k + 1), EdgeSet.passivePart_rename]
    rfl
  unfold Recognition.chart Chart.rename
  congr 1

theorem reported_rename (hf : Function.Injective f)
    (rules : g'.rules.Perm (g.rules.map (Rule.rename f))) :
    (recognizeBy .indexed order' g' (input.map f)).reported =
      (recognizeBy .indexed order g input).reported.map
        fun (position, edges) => (position, EdgeSet.rename f edges) := by
  rw [reported_eq, reported_eq, List.length_map, List.map_map]
  refine List.map_congr_left fun k _ => ?_
  rw [fullAt_rename hf rules order order' input (k + 1)]
  rfl

theorem statistics_rename (hf : Function.Injective f)
    (rules : g'.rules.Perm (g.rules.map (Rule.rename f))) :
    (recognizeBy .indexed order' g' (input.map f)).statistics =
      (recognizeBy .indexed order g input).statistics := by
  rw [statistics_eq_sum, statistics_eq_sum, List.length_map]
  refine congrArg List.sum (List.map_congr_left fun k _ => ?_)
  rw [show (recognizeBy .indexed order' g' (input.map f)).fullAt = _ from
    funext (fullAt_rename hf rules order order' input)]
  exact workAt_rename hf rules _ (k + 1)

/-- The grammar of renamed rules has the renamed rules, and none of them twice. -/
theorem perm_rules_rename (hf : Function.Injective f) (rules : List Rule) :
    (Grammar.ofRules (rules.map (Rule.rename f))).rules.Perm
      ((Grammar.ofRules rules).rules.map (Rule.rename f)) := by
  refine (List.perm_ext_iff_of_nodup (Grammar.nodup _) ?_).mpr fun r => ?_
  · exact List.Nodup.map (Rule.rename_injective hf) (Grammar.nodup _)
  · rw [Grammar.mem_rules_ofRules, List.mem_map, List.mem_map]
    simp only [Grammar.mem_rules_ofRules]

/-- **A recognition sees of its symbols which ones are equal**, and nothing else. When different
symbols get different names, in the rules and in the input, the edges of the chart and of the
edge sets that are reported are the renamed ones, over the same spans and with the dots in the
same places; all that is counted is the same, and so is each answer about a renamed symbol. -/
theorem recognition_rename {f : Symbol → Symbol} (hf : Function.Injective f) (rules : List Rule)
    (recognizer recognizer' : Recognizer) (input : List Symbol) :
    (recognizer'.recognize (.ofRules (rules.map (Rule.rename f))) (input.map f)).chart =
        (recognizer.recognize (.ofRules rules) input).chart.rename f ∧
      (recognizer'.recognize (.ofRules (rules.map (Rule.rename f))) (input.map f)).reported =
        (recognizer.recognize (.ofRules rules) input).reported.map
          (fun (position, edges) => (position, EdgeSet.rename f edges)) ∧
      (recognizer'.recognize (.ofRules (rules.map (Rule.rename f))) (input.map f)).statistics =
        (recognizer.recognize (.ofRules rules) input).statistics ∧
      ∀ category start stop,
        (recognizer'.recognize (.ofRules (rules.map (Rule.rename f))) (input.map f)).chart.recognized
            (f category) start stop =
          (recognizer.recognize (.ofRules rules) input).chart.recognized category start stop := by
  have hrules := perm_rules_rename hf rules
  have hchart : (recognizer'.recognize (.ofRules (rules.map (Rule.rename f))) (input.map f)).chart =
      (recognizer.recognize (.ofRules rules) input).chart.rename f := chart_rename hf hrules
  refine ⟨hchart, reported_rename hf hrules, statistics_rename hf hrules,
    fun category start stop => ?_⟩
  rw [hchart, Chart.recognized_rename hf]

/-- Two symbols change places, and with that the order of the symbols is another one. -/
theorem recognition_rename_swap :
    Function.Injective (Equiv.swap "S" "a") ∧
      ((Recognizer.mk .stack).recognize
          (.ofRules ([.of "S" "S" ["S"], .of "S" "a" [], .of "a" "b" []].map
            (Rule.rename (Equiv.swap "S" "a"))))
          (["a", "b", "a"].map (Equiv.swap "S" "a"))).chart =
        ((Recognizer.mk .stack).recognize
          (.ofRules [.of "S" "S" ["S"], .of "S" "a" [], .of "a" "b" []])
          ["a", "b", "a"]).chart.rename (Equiv.swap "S" "a") := by
  have hswap : Function.Injective (Equiv.swap "S" "a") := (Equiv.swap "S" "a").injective
  exact ⟨hswap, (recognition_rename hswap _ (.mk .stack) (.mk .stack) ["a", "b", "a"]).1⟩

end ChartParsing
