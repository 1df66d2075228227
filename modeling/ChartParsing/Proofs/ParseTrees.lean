import ChartParsing.Proofs.Answers
import ChartParsing.Proofs.Termination

/-!
# Parse trees in a chart

A chart keeps the recognized constituents, but neither the parts that an edge was made from nor
the active edges in between. A parse tree can still be read off from it: every edge of the chart
was inferred in finitely many steps, from edges that are in the chart as well, and the last
symbol of a rule is the last part of its constituent.

Main lemma: `Inferred.exists_parts`, by induction over the inference, for active edges too. Main
theorem: `exists_parseTree`.
-/

set_option autoImplicit false

namespace ChartParsing

/-! ## Trees of edges -/

/-- **A finite ordered tree of edges.** -/
inductive ParseTree where
  | node (root : Edge) (children : List ParseTree)

namespace ParseTree

def root : ParseTree → Edge
  | node e _ => e

def children : ParseTree → List ParseTree
  | node _ children => children

/-- The trees that hang at the nodes of a tree, itself included. -/
def subtrees : ParseTree → List ParseTree
  | node e children => node e children :: children.flatMap subtrees

/-- The nodes without children, from left to right. -/
def leaves : ParseTree → List Edge
  | node e [] => [e]
  | node _ (first :: rest) => leaves first ++ rest.flatMap leaves

end ParseTree

/-- The spans of the edges follow upon each other, from one position to another. -/
def Adjoining (stop : Nat) : (start : Nat) → List Edge → Prop
  | start, [] => start = stop
  | start, e :: rest => e.start = start ∧ Adjoining stop e.stop rest

/-- **The root is an instance of a rule over its children**: there is a child for each symbol on
the right-hand side, and together they cover its span. -/
structure ParseTree.Expands (g : Grammar) (t : ParseTree) : Prop where
  passive : t.root.isPassive = true
  rule_mem : ∃ r ∈ g.rules, t.root.rule? = some r
  symbols : t.children.map (fun child => child.root.lhs) = t.root.rhs
  spans : Adjoining t.root.stop t.root.start (t.children.map ParseTree.root)

/-- The lexical edges of the tokens between two positions. -/
def lexicalEdges (input : List Symbol) (i j : Nat) : List Edge :=
  ((window input i j).zipIdx i).map fun (token, k) => .lexical k token

namespace ParseTree

theorem subtrees_node (e : Edge) (children : List ParseTree) :
    (node e children).subtrees = node e children :: children.flatMap subtrees := by
  rw [subtrees]

theorem leaves_leaf (e : Edge) : (node e []).leaves = [e] := by
  rw [leaves]

/-- The leaves of a tree with children are those of the children. -/
theorem leaves_node (e : Edge) {children : List ParseTree} (h : children ≠ []) :
    (node e children).leaves = children.flatMap leaves := by
  cases children with
  | nil => exact absurd rfl h
  | cons first rest => rw [leaves, List.flatMap_cons]

end ParseTree

/-! ## Adjoining edges -/

theorem Adjoining.concat {start : Nat} {edges : List Edge} {e : Edge}
    (h : Adjoining e.start start edges) : Adjoining e.stop start (edges ++ [e]) := by
  induction edges generalizing start with
  | nil => exact ⟨h.symm, rfl⟩
  | cons first rest ih => exact ⟨h.1, ih h.2⟩

variable {g : Grammar} {input : List Symbol}

/-- Behind the last of some adjoining edges is no earlier position. -/
theorem Adjoining.start_le {start stop : Nat} {edges : List Edge}
    (h : Adjoining stop start edges) : start ≤ stop := by
  induction edges generalizing start with
  | nil => exact Nat.le_of_eq h
  | cons first rest ih =>
      obtain ⟨rfl, hrest⟩ := h
      exact Nat.le_trans first.start_le_stop (ih hrest)

theorem lexicalEdges_append (input : List Symbol) {i m j : Nat} (him : i ≤ m) (hmj : m ≤ j)
    (hm : m ≤ input.length) :
    lexicalEdges input i m ++ lexicalEdges input m j = lexicalEdges input i j := by
  unfold lexicalEdges
  rw [← window_append input him hmj, List.zipIdx_append, List.map_append, length_window hm,
    Nat.add_sub_cancel' him]

/-! ## Trees over an input -/

/-- **A parse tree over an input**: its nodes are inferred, those with children by a rule over
these children, and its leaves are the lexical edges of the tokens that it covers. -/
structure ParseTree.Parses (g : Grammar) (input : List Symbol) (t : ParseTree) : Prop where
  nodes : ∀ s ∈ t.subtrees, Inferred g input s.root ∧ s.root.isPassive = true ∧
    (s.children ≠ [] → s.Expands g)
  leaves_eq : t.leaves = lexicalEdges input t.root.start t.root.stop

/-- **The parts of a constituent**, as far as it was recognized: a tree for each symbol before the
dot, over adjoining spans. -/
structure Parts (g : Grammar) (input : List Symbol) (e : Edge) (parts : List ParseTree) :
    Prop where
  parses : ∀ t ∈ parts, t.Parses g input
  symbols : parts.map (fun t => t.root.lhs) = e.rhs.take e.dot
  spans : Adjoining e.stop e.start (parts.map ParseTree.root)

/-- The leaves of adjoining trees are the lexical edges of all tokens that they cover. -/
theorem flatMap_leaves {start stop : Nat} {parts : List ParseTree}
    (h : ∀ t ∈ parts, t.Parses g input) (hspans : Adjoining stop start (parts.map ParseTree.root))
    (hstop : stop ≤ input.length) :
    parts.flatMap ParseTree.leaves = lexicalEdges input start stop := by
  induction parts generalizing start with
  | nil =>
      have hempty : start = stop := hspans
      rw [hempty, lexicalEdges, window, Nat.sub_self, List.take_zero]
      rfl
  | cons t parts ih =>
      obtain ⟨hstart, hrest⟩ := hspans
      have hparts := ih (fun s hs => h s (List.mem_cons_of_mem t hs)) hrest
      have hlast := hrest.start_le
      rw [List.flatMap_cons, (h t List.mem_cons_self).leaves_eq, hparts, hstart]
      exact lexicalEdges_append input (hstart ▸ t.root.start_le_stop) hlast (hlast.trans hstop)

/-- A token is a tree by itself. -/
theorem Edge.IsToken.parses {e : Edge} (h : e.IsToken input) : (ParseTree.node e []).Parses g input := by
  obtain ⟨t, ht, he⟩ := h
  refine ⟨fun s hs => ?_, ?_⟩
  · rw [ParseTree.subtrees_node, List.flatMap_nil, List.mem_singleton] at hs
    rw [hs]
    refine ⟨he ▸ .token ht, IsToken.isPassive ⟨t, ht, he⟩, fun hnone => absurd rfl hnone⟩
  · have hstop : e.stop = e.start + 1 := congrArg Edge.stop he
    rw [ParseTree.leaves_leaf]
    show [e] = lexicalEdges input e.start e.stop
    rw [lexicalEdges, hstop, window_token ht]
    exact congrArg (· :: []) he

/-- **The parts of a passive edge are the children of a tree.** -/
theorem Parts.parses_node {e : Edge} {parts : List ParseTree} (h : Parts g input e parts)
    (he : Inferred g input e) (hpassive : e.isPassive = true) (hpartial : e.IsPartial g input) :
    (ParseTree.node e parts).Parses g input := by
  have hsymbols := h.symbols
  rw [Edge.isPassive_iff.mp hpassive, List.take_length] at hsymbols
  obtain ⟨r, hr, hsides⟩ := hpartial.rule_mem
  have hne : e.rhs ≠ [] := hsides.2 ▸ r.rhs_ne_nil
  have hparts : parts ≠ [] := by
    rintro rfl
    exact hne hsymbols.symm
  refine ⟨fun s hs => ?_, ?_⟩
  · rw [ParseTree.subtrees_node, List.mem_cons, List.mem_flatMap] at hs
    rcases hs with rfl | ⟨t, ht, hs⟩
    · exact ⟨he, hpassive, fun _ => ⟨hpassive, ⟨r, hr, Edge.rule?_eq_some_iff.mpr hsides⟩,
        hsymbols, h.spans⟩⟩
    · exact (h.parses t ht).nodes s hs
  · rw [ParseTree.leaves_node e hparts]
    exact flatMap_leaves h.parses h.spans hpartial.stop_le_length

/-! ## Trees for inferred edges -/

/-- A passive edge with parts is the root of a tree, and so is that of a token. -/
theorem Inferred.exists_parses {e : Edge} (he : Inferred g input e) (hpassive : e.isPassive = true)
    (hparts : e.IsPartial g input → ∃ parts, Parts g input e parts) :
    ∃ t : ParseTree, t.root = e ∧ t.Parses g input := by
  rcases he.holds with htoken | hpartial
  · exact ⟨.node e [], rfl, htoken.parses⟩
  · obtain ⟨parts, h⟩ := hparts hpartial
    exact ⟨.node e parts, rfl, h.parses_node he hpassive hpartial⟩

/-- **What was recognized of a rule has parts.** The induction is on the inference, active edges
included: an edge that is advanced keeps its parts, and the passive edge that advances it is the
last one. -/
theorem Inferred.exists_parts {e : Edge} (he : Inferred g input e) :
    e.IsPartial g input → ∃ parts, Parts g input e parts := by
  induction he with
  | token ht =>
      -- no symbol of a token was recognized before its dot
      intro hpartial
      exact absurd hpartial.dot_pos (Nat.not_succ_le_zero 0)
  | @predict e f r he hpassive hr hfirst hf ih =>
      intro _
      -- the first symbol of the rule was recognized, and its tree is the only part
      obtain ⟨hstart, hstop, -, hrhs, hdot⟩ := Edge.predicted_eq_ok_iff.mp hf
      obtain ⟨t, rfl, ht⟩ := he.exists_parses hpassive ih
      refine ⟨[t], ⟨fun s hs => List.mem_singleton.mp hs ▸ ht, ?_, ?_⟩⟩
      · rw [hrhs, hdot, r.take_one_rhs, hfirst]
        rfl
      · exact ⟨hstart.symm, hstop.symm⟩
  | @complete e w f he hpassive hw hjoin hnext hf ih ihw =>
      intro _
      obtain ⟨-, hstart, hstop, -, hrhs, hdot⟩ := Edge.advance_eq_ok_iff.mp hf
      obtain ⟨t, rfl, ht⟩ := he.exists_parses hpassive ih
      rcases hw.holds with htoken | hpartial
      · -- the edge of a token expects nothing
        rw [Edge.next?_eq_none_iff.mpr htoken.isPassive] at hnext
        cases hnext
      · obtain ⟨parts, h⟩ := ihw hpartial
        refine ⟨parts ++ [t], ⟨fun s hs => ?_, ?_, ?_⟩⟩
        · rcases List.mem_append.mp hs with hs | hs
          · exact h.parses s hs
          · exact List.mem_singleton.mp hs ▸ ht
        · rw [hrhs, hdot, Edge.take_dot_succ hnext, List.map_append, h.symbols]
          rfl
        · have hspans := h.spans
          rw [hjoin] at hspans
          rw [hstart, hstop, List.map_append]
          exact hspans.concat

/-- **A parse tree can be read off from a chart**, for each of its edges. All nodes of the tree are
edges of the chart; a node with children is an instance of a rule of the grammar, has a child for
each symbol on the right-hand side, and is covered by their spans, one behind the other; and the
leaves, from left to right, are the lexical edges of the tokens that the edge covers. -/
theorem exists_parseTree (recognizer : Recognizer) (g : Grammar) (input : List Symbol) {e : Edge}
    (he : e ∈ (recognizer.recognize g input).chart.edges) :
    ∃ t : ParseTree, t.root = e ∧
      (∀ s ∈ t.subtrees, s.root ∈ (recognizer.recognize g input).chart.edges ∧
        (s.children ≠ [] → s.Expands g)) ∧
      t.leaves = lexicalEdges input e.start e.stop := by
  obtain ⟨hinferred, hpassive⟩ := mem_edges_chart.mp he
  obtain ⟨t, rfl, ht⟩ := hinferred.exists_parses hpassive hinferred.exists_parts
  refine ⟨t, rfl, fun s hs => ?_, ht.leaves_eq⟩
  obtain ⟨hs, hpassive, hexpands⟩ := ht.nodes s hs
  exact ⟨mem_edges_chart.mpr ⟨hs, hpassive⟩, hexpands⟩

/-- A rule that expands a symbol to itself, over a token: the edge supports itself, and has a tree
all the same. -/
theorem exists_parseTree_circular :
    (⟨0, 1, "A", ["A"], 1, by decide, by decide⟩ : Edge) ∈
        ((Recognizer.mk .stack).recognize circular ["a", "b"]).chart.edges ∧
      ∃ t : ParseTree, t.root = ⟨0, 1, "A", ["A"], 1, by decide, by decide⟩ ∧
        t.leaves = [.lexical 0 "a"] := by
  have hsingle : Rule.of "A" "a" [] ∈ circular.rules := by decide
  have hloop : Rule.of "A" "A" [] ∈ circular.rules := by decide
  have htoken : Inferred circular ["a", "b"] (.lexical 0 "a") := .token rfl
  have hA : Inferred circular ["a", "b"] ⟨0, 1, "A", ["a"], 1, by decide, by decide⟩ :=
    .predict htoken rfl hsingle rfl rfl
  have hmem : (⟨0, 1, "A", ["A"], 1, by decide, by decide⟩ : Edge) ∈
      ((Recognizer.mk .stack).recognize circular ["a", "b"]).chart.edges :=
    mem_edges_chart.mpr ⟨.predict hA rfl hloop rfl rfl, rfl⟩
  obtain ⟨t, hroot, -, hleaves⟩ := exists_parseTree (.mk .stack) circular ["a", "b"] hmem
  exact ⟨hmem, t, hroot, hleaves⟩

end ChartParsing
