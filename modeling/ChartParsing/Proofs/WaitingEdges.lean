import ChartParsing.Proofs.Buckets
import ChartParsing.Proofs.EdgeOrder
import ChartParsing.Recognition.Column

/-!
# The edges that wait in a column

An active edge waits for the symbol behind its dot (`Edge.Expects`), and a column keeps it in the
bucket of that symbol. So the buckets are a partition of the active edges, each bucket is in edge
order, and whoever looks a symbol up misses no edge that waits for it.

Main theorem: `Column.waiting_exact`.
-/

set_option autoImplicit false

namespace ChartParsing

/-! ## Expected symbols -/

namespace Edge

/-- **The edge expects a symbol**: it stands right behind the symbols that were recognized. -/
def Expects (e : Edge) (s : Symbol) : Prop :=
  ∃ recognized rest, e.rhs = recognized ++ s :: rest ∧ recognized.length = e.dot

theorem next?_eq_some_iff {e : Edge} {s : Symbol} : e.next? = some s ↔ e.Expects s := by
  rw [next?]
  constructor
  · intro h
    obtain ⟨hlt, hs⟩ := List.getElem?_eq_some_iff.mp h
    refine ⟨e.rhs.take e.dot, e.rhs.drop (e.dot + 1), ?_, List.length_take_of_le e.dot_le_length⟩
    rw [← hs, List.getElem_cons_drop, List.take_append_drop]
  · rintro ⟨recognized, rest, hrhs, hdot⟩
    rw [hrhs, ← hdot, List.getElem?_append_right (Nat.le_refl _), Nat.sub_self]
    rfl

instance (e : Edge) (s : Symbol) : Decidable (e.Expects s) :=
  decidable_of_iff (e.next? = some s) next?_eq_some_iff

theorem Expects.isActive {e : Edge} {s : Symbol} (h : e.Expects s) : e.isActive = true :=
  isActive_of_next? (next?_eq_some_iff.mpr h)

theorem isSome_next?_iff {e : Edge} : e.next?.isSome = true ↔ e.isActive = true := by
  rw [Option.isSome_iff_ne_none, ne_eq, next?_eq_none_iff]
  simp [isActive]

/-- **An active edge expects exactly one symbol.** -/
theorem existsUnique_expects {e : Edge} (h : e.isActive = true) : ∃! s, e.Expects s := by
  obtain ⟨s, hs⟩ := Option.isSome_iff_exists.mp (isSome_next?_iff.mpr h)
  refine ⟨s, next?_eq_some_iff.mp hs, fun t ht => ?_⟩
  exact Option.some_inj.mp ((next?_eq_some_iff.mpr ht).symm.trans hs)

end Edge

/-! ## The index of a column -/

namespace Column

/-- **A look-up gives the edges of the column that expect the symbol**, in edge order. -/
theorem expecting_ofEdges (edges : EdgeSet) (s : Symbol) :
    (ofEdges edges).expecting s = edges.toList.filter fun e => e.Expects s := by
  rw [expecting_eq_filter]
  show (edges.toList.filter Edge.isActive).filter (fun e => e.next? = some s) = _
  rw [List.filter_filter]
  refine List.filter_congr fun e _ => ?_
  rw [Bool.eq_iff_iff, Bool.and_eq_true, decide_eq_true_eq, decide_eq_true_eq,
    Edge.next?_eq_some_iff]
  exact and_iff_left_of_imp Edge.Expects.isActive

theorem mem_expecting_ofEdges {edges : EdgeSet} {s : Symbol} {e : Edge} :
    e ∈ (ofEdges edges).expecting s ↔ e ∈ edges ∧ e.Expects s := by
  rw [expecting_ofEdges, List.mem_filter, decide_eq_true_eq, OrderedSet.mem_toList]

/-- There is a bucket for each symbol that an edge of the column expects, and none besides. -/
theorem mem_keys_ofEdges {edges : EdgeSet} {s : Symbol} :
    s ∈ (ofEdges edges).byNext.buckets.keys ↔ ∃ e ∈ edges, e.Expects s := by
  show s ∈ (Index.ofList Edge.next? (EdgeSet.active edges)).buckets.keys ↔ _
  simp only [Index.mem_keys_ofList, Edge.next?_eq_some_iff, EdgeSet.active, List.mem_filter,
    OrderedSet.mem_toList]
  constructor
  · rintro ⟨e, ⟨he, -⟩, hs⟩
    exact ⟨e, he, hs⟩
  · rintro ⟨e, he, hs⟩
    exact ⟨e, ⟨he, hs.isActive⟩, hs⟩

/-- **The buckets are a partition of the active edges of a column.** -/
theorem perm_flatMap_expecting (edges : EdgeSet) :
    ((ofEdges edges).byNext.buckets.keys.flatMap (ofEdges edges).expecting).Perm
      (EdgeSet.active edges) := by
  have hall : (EdgeSet.active edges).filter (fun e => e.next?.isSome) = EdgeSet.active edges := by
    refine List.filter_eq_self.mpr fun e he => ?_
    exact Edge.isSome_next?_iff.mpr (List.mem_filter.mp he).2
  have hperm := Index.perm_flatMap_lookup Edge.next? (EdgeSet.active edges)
  rwa [hall] at hperm

/-- **The index of a column is exact, whatever the edges of the column are.** A look-up gives the
edges that expect the symbol, each once and in edge order. Each active edge is in one bucket and in
no other, all buckets together hold the active edges and nothing else, and no passive edge is in any
of them. An edge that is found can be advanced to every position from its start on. The passive edges
are those of the set that the column was made of, in the same order. Filling the index from the
first edge to the last gives the same buckets. -/
theorem waiting_exact (edges : EdgeSet) :
    let column := ofEdges edges
    let keys := column.byNext.buckets.keys
    (∀ s, column.expecting s = edges.toList.filter fun e => e.Expects s) ∧
    (∀ s, (column.expecting s).Pairwise Edge.Before) ∧
    (∀ e ∈ edges, e.isActive = true → ∃! s, s ∈ keys ∧ e ∈ column.expecting s) ∧
    (keys.flatMap column.expecting).Perm (EdgeSet.active edges) ∧
    (∀ e s, e.isPassive = true → e ∉ column.expecting s) ∧
    (∀ s, ∀ e ∈ column.expecting s, ∀ stop, e.start ≤ stop → ∃ f, e.advance stop = .ok f) ∧
    column.passivePart.toList = edges.toList.filter (fun e => e.dot = e.rhs.length) ∧
    (Index.fill Edge.next? (EdgeSet.active edges)).buckets.toList =
      column.byNext.buckets.toList := by
  intro column keys
  refine ⟨expecting_ofEdges edges, ?_, ?_, perm_flatMap_expecting edges, ?_, ?_, ?_,
    Index.toList_buckets_fill Edge.next? (EdgeSet.active edges)⟩
  · intro s
    rw [expecting_ofEdges]
    exact (Edge.pairwise_before edges).filter _
  · intro e he hactive
    obtain ⟨s, hs, hunique⟩ := Edge.existsUnique_expects hactive
    refine ⟨s, ⟨mem_keys_ofEdges.mpr ⟨e, he, hs⟩, mem_expecting_ofEdges.mpr ⟨he, hs⟩⟩, ?_⟩
    rintro t ⟨-, ht⟩
    exact hunique t (mem_expecting_ofEdges.mp ht).2
  · intro e s hpassive hmem
    have hactive := (mem_expecting_ofEdges.mp hmem).2.isActive
    simp [Edge.isActive, hpassive] at hactive
  · intro s e hmem stop hstop
    exact Edge.exists_advance (mem_expecting_ofEdges.mp hmem).2.isActive hstop
  · show edges.toList.filter Edge.isPassive = _
    refine List.filter_congr fun e _ => ?_
    rw [Bool.eq_iff_iff, Edge.isPassive_iff, decide_eq_true_eq]

end Column

end ChartParsing
