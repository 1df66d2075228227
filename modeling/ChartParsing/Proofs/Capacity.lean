import Mathlib.Algebra.Order.BigOperators.Group.List
import Mathlib.Algebra.Order.Ring.Nat
import Mathlib.Data.List.Perm.Subperm
import ChartParsing.EdgeSet
import ChartParsing.Proofs.Inferred

/-!
# How many edges can end at a position

The edges that end at a position are the lexical edge of the token before it, and edges that
have a start before it, a rule, and a place of the dot. `spanning` lists the latter, for the
places of the dot that `dots` allows in each rule.

Main lemma: `size_le_of_spanning`, a set of such edges has at most one for each start, rule and
place, and one more.
-/

set_option autoImplicit false

namespace ChartParsing

/-- An attempt that gave a value gave no error. -/
theorem toOption_eq_some_iff {ε α : Type} {made : Except ε α} {a : α} :
    made.toOption = some a ↔ made = .ok a := by
  cases made with
  | ok b => simp [Except.toOption]
  | error e => simp [Except.toOption]

/-- The edges of rules that end at a position and start before it, with the dot in a place that
is listed for the rule. -/
def spanning (g : Grammar) (position : Nat) (dots : Rule → List Nat) : List Edge :=
  (List.range position).flatMap fun start => g.rules.flatMap fun r =>
    (dots r).filterMap fun dot => (Edge.make start position r.lhs r.rhs dot).toOption

theorem mem_spanning {g : Grammar} {position : Nat} {dots : Rule → List Nat} {e : Edge} {r : Rule}
    (hstart : e.start < position) (hstop : e.stop = position) (hr : r ∈ g.rules)
    (hlhs : r.lhs = e.lhs) (hrhs : r.rhs = e.rhs) (hdot : e.dot ∈ dots r) :
    e ∈ spanning g position dots := by
  refine List.mem_flatMap.mpr ⟨e.start, List.mem_range.mpr hstart, ?_⟩
  refine List.mem_flatMap.mpr ⟨r, hr, List.mem_filterMap.mpr ⟨e.dot, hdot, ?_⟩⟩
  rw [toOption_eq_some_iff, Edge.make_eq_ok_iff]
  exact ⟨rfl, hstop, hlhs.symm, hrhs.symm, rfl⟩

theorem length_spanning_le (g : Grammar) (position : Nat) (dots : Rule → List Nat) :
    (spanning g position dots).length ≤
      position * (g.rules.map fun r => (dots r).length).sum := by
  have hstart : ∀ start, (g.rules.flatMap fun r => (dots r).filterMap fun dot =>
      (Edge.make start position r.lhs r.rhs dot).toOption).length ≤
        (g.rules.map fun r => (dots r).length).sum := by
    intro start
    rw [List.length_flatMap]
    exact List.sum_le_sum fun r _ => List.length_filterMap_le _ _
  calc (spanning g position dots).length
      = ((List.range position).map fun start => (g.rules.flatMap fun r =>
          (dots r).filterMap fun dot =>
            (Edge.make start position r.lhs r.rhs dot).toOption).length).sum :=
        List.length_flatMap
    _ ≤ ((List.range position).map fun _ => (g.rules.map fun r => (dots r).length).sum).sum :=
        List.sum_le_sum fun start _ => hstart start
    _ = position * (g.rules.map fun r => (dots r).length).sum := by simp

/-- **A set of edges that end at a position is no larger than the places for them.** -/
theorem size_le_of_spanning {g : Grammar} {position : Nat} {dots : Rule → List Nat} {edges : EdgeSet}
    {first : Edge} (h : ∀ e ∈ edges, e = first ∨ e ∈ spanning g position dots) :
    edges.size ≤ 1 + position * (g.rules.map fun r => (dots r).length).sum := by
  have hsub : edges.toList ⊆ first :: spanning g position dots := by
    intro e he
    exact List.mem_cons.mpr (h e he)
  have hsize := (edges.nodup_toList.subperm hsub).length_le
  have hlength := length_spanning_le g position dots
  rw [List.length_cons] at hsize
  rw [OrderedSet.size]
  omega

/-! ## Inferred edges -/

variable {g : Grammar} {input : List Symbol}

/-- **An inferred edge that ends at a position has one of the places**, if its dot has. -/
theorem Inferred.mem_spanning {e : Edge} (h : Inferred g input e) {position : Nat}
    (hstop : e.stop = position) (dots : Rule → List Nat)
    (hdots : ∀ r : Rule, r.rhs = e.rhs → 1 ≤ e.dot → e.dot ∈ dots r) :
    (∃ t, input[position - 1]? = some t ∧ e = .lexical (position - 1) t) ∨
      e ∈ spanning g position dots := by
  rcases h.holds with ⟨t, ht, he⟩ | h
  · have hstart : e.start = position - 1 := by
      have : e.stop = e.start + 1 := congrArg Edge.stop he
      omega
    rw [hstart] at ht he
    exact Or.inl ⟨t, ht, he⟩
  · obtain ⟨r, hr, hlhs, hrhs⟩ := h.rule_mem
    have hspan := h.start_lt_stop
    exact Or.inr (ChartParsing.mem_spanning (by omega) hstop hr hlhs hrhs
      (hdots r hrhs h.dot_pos))

/-- The places of the dot behind at least one symbol. -/
def innerDots (r : Rule) : List Nat := List.range' 1 r.length

/-- The place of the dot at the end. -/
def finalDot (r : Rule) : List Nat := [r.length]

theorem Grammar.rhsTotal_eq_sum (g : Grammar) : g.rhsTotal = (g.rules.map Rule.length).sum :=
  List.length_flatMap

theorem sum_innerDots (g : Grammar) :
    (g.rules.map fun r => (innerDots r).length).sum = (g.rules.map Rule.length).sum := by
  simp [innerDots]

theorem sum_finalDot (g : Grammar) :
    (g.rules.map fun r => (finalDot r).length).sum = g.size := by
  simp [finalDot, Grammar.size]

theorem dot_mem_innerDots {e : Edge} {r : Rule} (hrhs : r.rhs = e.rhs) (hdot : 1 ≤ e.dot) :
    e.dot ∈ innerDots r := by
  have hle := e.dot_le_length
  rw [innerDots, List.mem_range'_1, Rule.length, hrhs]
  omega

theorem dot_mem_finalDot {e : Edge} {r : Rule} (hpassive : e.isPassive = true)
    (hrhs : r.rhs = e.rhs) : e.dot ∈ finalDot r := by
  rw [finalDot, List.mem_singleton, Rule.length, hrhs]
  exact Edge.isPassive_iff.mp hpassive

end ChartParsing
