import ChartParsing.EdgeSet
import ChartParsing.Index

/-!
# Columns

A column holds all edges that end at a position, once they are all known, with an index of
the active ones by the symbol that they expect.

Main lemma: `expecting_eq_filter`, the index gives the edges that a walk over the column
would find, in edge order.
-/

set_option autoImplicit false

namespace ChartParsing

/-- **The edges that end at a position**, active ones included. -/
structure Column where
  edges : EdgeSet
  /-- The active edges by the symbol that they expect. -/
  byNext : Index Symbol Edge
  /-- The index holds exactly the active edges. -/
  byNext_eq : byNext = Index.ofList Edge.next? (EdgeSet.active edges)

namespace Column

def ofEdges (edges : EdgeSet) : Column := ⟨edges, _, rfl⟩

def empty : Column := ofEdges ∅

/-- The active edges that expect `s`, in edge order. -/
def expecting (column : Column) (s : Symbol) : List Edge := column.byNext.lookup s

def passivePart (column : Column) : EdgeSet := EdgeSet.passivePart column.edges

/-- **The index agrees with a walk over the active edges.** -/
theorem expecting_eq_filter (column : Column) (s : Symbol) :
    column.expecting s = (EdgeSet.active column.edges).filter (fun e => e.next? = some s) := by
  rw [expecting, column.byNext_eq, Index.lookup_ofList]

theorem mem_expecting {column : Column} {s : Symbol} {e : Edge} :
    e ∈ column.expecting s ↔ e ∈ column.edges ∧ e.next? = some s := by
  rw [expecting_eq_filter, EdgeSet.active, List.mem_filter, List.mem_filter, decide_eq_true_eq,
    OrderedSet.mem_toList]
  constructor
  · rintro ⟨⟨he, -⟩, hnext⟩
    exact ⟨he, hnext⟩
  · rintro ⟨he, hnext⟩
    exact ⟨⟨he, Edge.isActive_of_next? hnext⟩, hnext⟩

end Column

end ChartParsing
