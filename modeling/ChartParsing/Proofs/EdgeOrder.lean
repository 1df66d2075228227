import ChartParsing.Edge.Annotated

/-!
# The order of edges

Edges are compared part by part, and the first difference decides (`Edge.Before`). Symbols are
compared by their code points, and right-hand sides symbol by symbol, a sequence before its
continuations. Since each part is compared lawfully, so are edges; and since nothing else is
compared, whatever happens to values changes no comparison (`Revalued`).

Main theorem: `Annotated.order_lawful`.
-/

set_option autoImplicit false

namespace ChartParsing

open Std

/-! ## First differences -/

/-- **One text comes before another**: where they differ first it has the smaller code point, or it
has ended. -/
def TextBefore (s t : Symbol) : Prop :=
  List.Lex (fun c d => c.toNat < d.toNat) s.toList t.toList

/-- **An edge comes before another**: it is smaller in the first part in which they differ. -/
inductive Edge.Before (e f : Edge) : Prop where
  | start (h : e.start < f.start)
  | stop (start : e.start = f.start) (h : e.stop < f.stop)
  | lhs (start : e.start = f.start) (stop : e.stop = f.stop) (h : TextBefore e.lhs f.lhs)
  | rhs (start : e.start = f.start) (stop : e.stop = f.stop) (lhs : e.lhs = f.lhs)
      (h : List.Lex TextBefore e.rhs f.rhs)
  | dot (start : e.start = f.start) (stop : e.stop = f.stop) (lhs : e.lhs = f.lhs)
      (rhs : e.rhs = f.rhs) (h : e.dot < f.dot)

theorem compare_symbol_eq_lt_iff {s t : Symbol} : compare s t = .lt ↔ TextBefore s t :=
  compareOfLessAndEq_eq_lt

/-- Sequences are compared at the first place in which they differ. -/
theorem compare_list_eq_lt_iff {α : Type} [Ord α] [LawfulEqOrd α] {before : α → α → Prop}
    (h : ∀ x y : α, compare x y = .lt ↔ before x y) {xs ys : List α} :
    compare xs ys = .lt ↔ List.Lex before xs ys := by
  rw [List.compare_eq_compareLex]
  induction xs generalizing ys with
  | nil =>
      cases ys with
      | nil => simp [List.compareLex_nil_nil]
      | cons y ys => simp [List.compareLex_nil_cons]
  | cons x xs ih =>
      cases ys with
      | nil => simp [List.compareLex_cons_nil]
      | cons y ys =>
          rw [List.compareLex_cons_cons, Ordering.then_eq_lt, ih, h, Std.compare_eq_iff_eq,
            List.cons_lex_cons_iff]

namespace Edge

/-- **The order of edges goes by the first difference.** -/
theorem compare_eq_lt_iff {e f : Edge} : compare e f = .lt ↔ e.Before f := by
  have hparts : compare e f = .lt ↔
      compare e.start f.start = .lt ∨ compare e.start f.start = .eq ∧
        (compare e.stop f.stop = .lt ∨ compare e.stop f.stop = .eq ∧
          (compare e.lhs f.lhs = .lt ∨ compare e.lhs f.lhs = .eq ∧
            (compare e.rhs f.rhs = .lt ∨ compare e.rhs f.rhs = .eq ∧
              compare e.dot f.dot = .lt))) := by
    simp only [← Ordering.then_eq_lt]
    rfl
  simp only [hparts, Nat.compare_eq_lt, Std.compare_eq_iff_eq, compare_symbol_eq_lt_iff,
    compare_list_eq_lt_iff fun _ _ => compare_symbol_eq_lt_iff]
  constructor
  · rintro (h | ⟨hstart, h | ⟨hstop, h | ⟨hlhs, h | ⟨hrhs, h⟩⟩⟩⟩)
    · exact .start h
    · exact .stop hstart h
    · exact .lhs hstart hstop h
    · exact .rhs hstart hstop hlhs h
    · exact .dot hstart hstop hlhs hrhs h
  · intro h
    cases h with
    | start h => exact Or.inl h
    | stop hstart h => exact Or.inr ⟨hstart, Or.inl h⟩
    | lhs hstart hstop h => exact Or.inr ⟨hstart, Or.inr ⟨hstop, Or.inl h⟩⟩
    | rhs hstart hstop hlhs h =>
        exact Or.inr ⟨hstart, Or.inr ⟨hstop, Or.inr ⟨hlhs, Or.inl h⟩⟩⟩
    | dot hstart hstop hlhs hrhs h =>
        exact Or.inr ⟨hstart, Or.inr ⟨hstop, Or.inr ⟨hlhs, Or.inr ⟨hrhs, h⟩⟩⟩⟩

/-- A set of edges lists each edge before those that it comes before. -/
theorem pairwise_before (edges : OrderedSet Edge) : edges.toList.Pairwise Before :=
  edges.ascending.imp compare_eq_lt_iff.mp

end Edge

/-! ## Values -/

namespace Annotated

variable {α β : Type}

/-- **Something was done to the value of an edge**: values were attached, replaced or removed. -/
inductive Revalued (a : Annotated α) : {β : Type} → Annotated β → Prop where
  | keep : Revalued a a
  | attach {β γ : Type} {x : Annotated β} (h : Revalued a x) (value : γ) :
      Revalued a (x.attach value)
  | detach {β γ : Type} {x : Annotated β} (h : Revalued a x) :
      Revalued a (x.detach : Annotated γ)

/-- The edge stays the same. -/
theorem Revalued.edge_eq {a : Annotated α} {x : Annotated β} (h : Revalued a x) :
    x.edge = a.edge := by
  induction h with
  | keep => rfl
  | attach _ _ ih => exact ih
  | detach _ ih => exact ih

/-- **Values are not compared.** -/
theorem compare_eq_compare_edge (a b : Annotated α) : compare a b = compare a.edge b.edge :=
  Ordering.then_eq

theorem beq_eq_beq_edge (a b : Annotated α) : (a == b) = (a.edge == b.edge) :=
  Bool.and_true _

theorem beq_iff {a b : Annotated α} : (a == b) = true ↔ a.edge = b.edge := by
  rw [beq_eq_beq_edge, beq_iff_eq]

theorem compare_eq_eq_iff {a b : Annotated α} : compare a b = .eq ↔ a.edge = b.edge := by
  rw [compare_eq_compare_edge, Std.compare_eq_iff_eq]

/-- **Edges with values are ordered by their edges, and lawfully so.** One comes before the other if
it is smaller in the first part in which they differ; they compare equal exactly if no part differs,
and then they are equal. Turning the arguments round turns the answer round, two edges are always
ordered, both ways only if they are equal, and the order is transitive, with and without equality.
Whatever is done to the values of the two edges, the answers stay the same. -/
theorem order_lawful (a b c : Annotated α) :
    (compare a b = .lt ↔ a.edge.Before b.edge) ∧
    (compare a b = .gt ↔ b.edge.Before a.edge) ∧
    (compare a b = .eq ↔ (a == b) = true) ∧
    ((a == b) = true ↔ a.edge.start = b.edge.start ∧ a.edge.stop = b.edge.stop ∧
      a.edge.lhs = b.edge.lhs ∧ a.edge.rhs = b.edge.rhs ∧ a.edge.dot = b.edge.dot) ∧
    compare b a = (compare a b).swap ∧
    ((compare a b).isLE = true ∨ (compare b a).isLE = true) ∧
    ((compare a b).isLE = true → (compare b a).isLE = true → (a == b) = true) ∧
    ((compare a b).isLE = true → (compare b c).isLE = true → (compare a c).isLE = true) ∧
    (∀ answer, compare a b = answer → compare b c = answer → compare a c = answer) ∧
    ∀ {β : Type} (x y : Annotated β), Revalued a x → Revalued b y →
      compare x y = compare a b ∧ (x == y) = (a == b) := by
  have hswap : compare b a = (compare a b).swap := OrientedOrd.eq_swap
  refine ⟨?_, ?_, ?_, ?_, hswap, ?_, ?_, TransCmp.isLE_trans, ?_, ?_⟩
  · rw [compare_eq_compare_edge, Edge.compare_eq_lt_iff]
  · rw [compare_eq_compare_edge, OrientedCmp.gt_iff_lt, Edge.compare_eq_lt_iff]
  · rw [compare_eq_eq_iff, beq_iff]
  · rw [beq_iff, Edge.ext_iff]
  · rw [hswap]
    cases compare a b <;> simp
  · intro hab hba
    exact beq_iff.mpr (compare_eq_eq_iff.mp (OrientedCmp.isLE_antisymm hab hba))
  · intro answer
    cases answer with
    | lt => exact TransCmp.lt_trans
    | eq => exact TransCmp.eq_trans
    | gt => exact TransCmp.gt_trans
  · intro β x y hx hy
    constructor
    · rw [compare_eq_compare_edge, compare_eq_compare_edge, hx.edge_eq, hy.edge_eq]
    · rw [beq_eq_beq_edge, beq_eq_beq_edge, hx.edge_eq, hy.edge_eq]

end Annotated

end ChartParsing
