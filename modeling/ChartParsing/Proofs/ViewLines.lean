import Mathlib.Algebra.Order.Ring.Nat
import Mathlib.Data.List.Forall2
import ChartParsing.Chart.View
import ChartParsing.Proofs.JoinedText

/-!
# The lines of a chart

The text of a chart has no optional line ends, so it does not depend on the width. It is told here
line by line: `ViewLine` says which lines there are, and `Chart.viewLines` which of them a view
shows. Symbols have no part in that; they only fill the lines of their edges.

Main theorem: `renderView_eq_lines`.
-/

set_option autoImplicit false

namespace ChartParsing

/-! ## Lines of a text -/

/-- Lines that are indented below a heading, which may all be joined as lines of their own. -/
theorem intercalate_indented (between indent heading : String) {lines : List String} (h : lines ≠ []) :
    heading ++ ((between ++ indent) ++ (between ++ indent).intercalate lines) =
      between.intercalate (heading :: lines.map (indent ++ ·)) := by
  obtain ⟨first, rest, rfl⟩ := List.exists_cons_of_ne_nil h
  induction rest generalizing heading first with
  | nil => simp [String.append_assoc]
  | cons second rest ih =>
      have hrest := ih (indent ++ first) second (List.cons_ne_nil _ _)
      simp only [List.map_cons, String.intercalate_cons_cons, String.append_assoc] at hrest ⊢
      rw [← hrest]

/-- Sections that are joined line by line are joined to all their lines. -/
theorem intercalate_map_intercalate (between : String) {sections : List (List String)}
    (h : ∀ lines ∈ sections, lines ≠ []) :
    between.intercalate (sections.map between.intercalate) = between.intercalate sections.flatten := by
  induction sections with
  | nil => simp
  | cons lines rest ih =>
      obtain ⟨hlines, hrest⟩ := List.forall_mem_cons.mp h
      rw [List.map_cons, List.flatten_cons]
      by_cases hnil : rest = []
      · simp [hnil]
      · have hflatten : rest.flatten ≠ [] := by
          obtain ⟨second, more, rfl⟩ := List.exists_cons_of_ne_nil hnil
          have hsecond := hrest second List.mem_cons_self
          simp [hsecond]
        rw [String.intercalate_cons_of_ne_nil (by simpa using hnil), ih hrest,
          String.intercalate_append_of_ne_nil hlines hflatten]

/-! ## Documents without optional line ends -/

namespace Doc

/-- **A document is written as this text**, whatever the width and the column, in front of anything
that does not look at the column either. -/
def Writes (indent : Nat) (d : Doc) (written : String) : Prop :=
  ∀ (width column : Nat) (rest : Rest) (after : String), (∀ column, rest.text column = after) →
    d.layout width .broken indent rest column = written ++ after

variable {indent : Nat}

theorem writes_text (s : String) : Writes indent (.text s) s := by
  intro width column rest after hrest
  rw [layout, hrest]

theorem writes_hardline :
    Writes indent .hardline ("\n" ++ String.ofList (List.replicate indent ' ')) := by
  intro width column rest after hrest
  rw [layout, newline, hrest]

theorem Writes.append {first second : Doc} {a b : String} (hfirst : first.Writes indent a)
    (hsecond : second.Writes indent b) : (first ++ second).Writes indent (a ++ b) := by
  intro width column rest after hrest
  have hbehind : ∀ column, layout width second .broken indent rest column = b ++ after :=
    fun column => hsecond width column rest after hrest
  rw [String.append_assoc]
  exact hfirst width column _ (b ++ after) hbehind

theorem Writes.nest {d : Doc} {n : Nat} {a : String} (h : d.Writes (indent + n) a) :
    Writes indent (.nest n d) a :=
  h

/-- Documents are joined to their texts. -/
theorem Writes.join {separator : Doc} {between : String} (hsep : separator.Writes indent between)
    {docs : List Doc} {texts : List String} (h : List.Forall₂ (Writes indent) docs texts) :
    (Doc.join separator docs).Writes indent (between.intercalate texts) := by
  induction h with
  | nil =>
      intro width column rest after hrest
      rw [Doc.join, layout, hrest, String.intercalate_nil, String.empty_append]
  | cons hfirst hrest ih =>
      cases hrest with
      | nil => rwa [Doc.join, String.intercalate_singleton]
      | cons hsecond hrest =>
          rw [String.intercalate_cons_cons]
          exact (hfirst.append hsep).append ih

theorem Writes.render {d : Doc} {written : String} (h : d.Writes 0 written) (width : Nat) :
    d.render width = written := by
  rw [Doc.render, h width 0 _ "" fun _ => rfl, String.append_empty]

end Doc

/-! ## The lines that a view shows -/

/-- **A line in the text of a chart.** -/
inductive ViewLine where
  /-- The number of edges in the chart. -/
  | size (total : Nat)
  /-- The number of edges at a position. -/
  | heading (count index : Nat)
  | edge (e : Edge)
  /-- There are edges that are not shown. -/
  | more

namespace ViewLine

/-- The line as it is written. -/
def text : ViewLine → String
  | size total => "Chart size: " ++ toString total ++ " edges"
  | heading count index =>
    toString count ++ " edges ending in position " ++ toString index ++ ":"
  | edge e => "    " ++ e.display
  | more => "    ..."

/-- The line, unless it is filled in by the symbols of an edge. -/
def outline : ViewLine → Option ViewLine
  | edge _ => none
  | line => some line

end ViewLine

namespace ChartView

/-- How many of so many edges may be shown: a cutoff of zero sets no limit, as does none. -/
def limit (view : ChartView) (count : Nat) : Nat :=
  match view.cutoff with
  | none => count
  | some 0 => count
  | some limit => limit

/-- The lines for a position with these edges. -/
def positionLines (view : ChartView) (index : Nat) (edges : EdgeSet) : List ViewLine :=
  .heading edges.size index :: (edges.toList.take (view.limit edges.size)).map .edge ++
    if view.limit edges.size < edges.size then [.more] else []

/-- What the numbers of edges tell of the lines. -/
def outline (view : ChartView) (counts : List Nat) : List (Option ViewLine) :=
  some (.size counts.sum) ::
    (counts.zipIdx.filter fun (count, index) =>
      count != 0 && view.selects index counts.length).flatMap fun (count, index) =>
        some (.heading count index) :: List.replicate (min (view.limit count) count) none ++
          if view.limit count < count then [some .more] else []

end ChartView

namespace Chart

/-- The selected positions that have edges, in ascending order. -/
def shownPositions (c : Chart) (view : ChartView) : List (EdgeSet × Nat) :=
  c.positions.zipIdx.filter fun (edges, index) => !edges.isEmpty && view.selects index c.length

/-- **The lines of a chart that a view shows**: the size of the whole chart, and the lines for each
selected position that has edges. -/
def viewLines (c : Chart) (view : ChartView) : List ViewLine :=
  .size c.counts.sum :: (c.shownPositions view).flatMap fun (edges, index) =>
    view.positionLines index edges

end Chart

namespace ChartView

variable (view : ChartView)

/-! ## The text of a position -/

theorem shown_eq_take (edges : List Edge) : view.shown edges = edges.take (view.limit edges.length) := by
  rcases hcutoff : view.cutoff with _ | (_ | limit)
  · simp [shown, ChartView.limit, hcutoff]
  · simp [shown, ChartView.limit, hcutoff]
  · simp [shown, ChartView.limit, hcutoff]

/-- Some edge of a position is always shown. -/
theorem limit_pos {count : Nat} (h : 0 < count) : 0 < view.limit count := by
  rcases hcutoff : view.cutoff with _ | (_ | limit)
  · simpa [ChartView.limit, hcutoff] using h
  · simpa [ChartView.limit, hcutoff] using h
  · simp [ChartView.limit, hcutoff]

/-- What the lines of a position are made of. -/
theorem map_text_positionLines (index : Nat) (edges : EdgeSet) :
    (view.positionLines index edges).map ViewLine.text =
      (toString edges.size ++ " edges ending in position " ++ toString index ++ ":") ::
        (view.edgeLines edges.toList).map ("    " ++ ·) := by
  have hcut : (view.shown edges.toList).length < edges.toList.length ↔
      view.limit edges.size < edges.size := by
    rw [shown_eq_take, List.length_take, OrderedSet.size]
    omega
  have hshown : view.shown edges.toList = edges.toList.take (view.limit edges.size) :=
    view.shown_eq_take edges.toList
  have hdots : "    " ++ "..." = "    ..." := rfl
  rw [positionLines, edgeLines]
  by_cases h : view.limit edges.size < edges.size
  · rw [if_pos h, if_pos (hcut.mpr h), hshown]
    simp [ViewLine.text, Function.comp_def, hdots]
  · rw [if_neg h, if_neg (mt hcut.mp h), hshown]
    simp [ViewLine.text, Function.comp_def]

theorem edgeLines_ne_nil {edges : List Edge} (h : edges ≠ []) : view.edgeLines edges ≠ [] := by
  have hlimit := view.limit_pos (List.length_pos_iff.mpr h)
  have hshown : view.shown edges ≠ [] := by
    rw [shown_eq_take, ne_eq, List.take_eq_nil_iff]
    rintro (hnone | hnil)
    · omega
    · exact h hnil
  simp [edgeLines, hshown]

/-- **A position is written as its lines**, the edges indented below the heading. -/
theorem writes_positionDoc (index : Nat) {edges : EdgeSet} (h : edges.isEmpty = false) :
    (view.positionDoc index edges).Writes 0
      ("\n".intercalate ((view.positionLines index edges).map ViewLine.text)) := by
  have hlines := view.edgeLines_ne_nil (List.isEmpty_eq_false_iff.mp h)
  have hnest : (Doc.hardline ++ Doc.join .hardline ((view.edgeLines edges.toList).map .text)).Writes
      (0 + 4) (("\n" ++ "    ") ++ ("\n" ++ "    ").intercalate (view.edgeLines edges.toList)) :=
    Doc.writes_hardline.append (Doc.Writes.join Doc.writes_hardline
      (List.forall₂_map_left_iff.mpr (List.forall₂_same.mpr fun s _ => Doc.writes_text s)))
  rw [map_text_positionLines, ← intercalate_indented "\n" "    " _ hlines]
  exact (Doc.writes_text _).append hnest.nest

end ChartView

/-! ## The text of a chart -/

namespace Chart

variable (c : Chart) (view : ChartView)

/-- The lines by sections: one for the size, and one for each position that is shown. -/
def viewSections : List (List ViewLine) :=
  [.size c.counts.sum] :: (c.shownPositions view).map fun (edges, index) =>
    view.positionLines index edges

theorem flatten_viewSections : (c.viewSections view).flatten = c.viewLines view := rfl

theorem ne_nil_of_mem_viewSections {lines : List ViewLine} (h : lines ∈ c.viewSections view) :
    lines ≠ [] := by
  rcases List.mem_cons.mp h with rfl | h
  · exact List.cons_ne_nil _ _
  · obtain ⟨⟨edges, index⟩, -, rfl⟩ := List.mem_map.mp h
    exact List.cons_ne_nil _ _

/-- The edges are counted position by position. -/
theorem size_eq_sum_counts : c.size = c.counts.sum := List.length_flatMap

/-- The parts of the document are written as the sections. -/
theorem forall₂_writes_viewSections :
    List.Forall₂ (Doc.Writes 0)
      (.text ("Chart size: " ++ toString c.size ++ " edges") ::
        (c.shownPositions view).map fun (edges, index) => view.positionDoc index edges)
      ((c.viewSections view).map fun lines => "\n".intercalate (lines.map ViewLine.text)) := by
  rw [size_eq_sum_counts]
  refine .cons (Doc.writes_text _) ?_
  rw [List.map_map, List.forall₂_map_left_iff, List.forall₂_map_right_iff, List.forall₂_same]
  rintro ⟨edges, index⟩ hmem
  have hedges := (List.mem_filter.mp hmem).2
  rw [Bool.and_eq_true, Bool.not_eq_true'] at hedges
  exact view.writes_positionDoc index hedges.1

/-- **A chart is written as the lines that the view shows**, within any width. -/
theorem renderView_eq (width : Nat) :
    c.renderView view width = "\n".intercalate ((c.viewLines view).map ViewLine.text) := by
  have hne : ∀ lines ∈ (c.viewSections view).map (List.map ViewLine.text), lines ≠ [] := by
    intro lines hlines
    obtain ⟨shown, hmem, rfl⟩ := List.mem_map.mp hlines
    exact mt List.map_eq_nil_iff.mp (c.ne_nil_of_mem_viewSections view hmem)
  calc c.renderView view width
      = "\n".intercalate
          ((c.viewSections view).map fun lines => "\n".intercalate (lines.map ViewLine.text)) :=
        (Doc.writes_hardline.join (c.forall₂_writes_viewSections view)).render width
    _ = "\n".intercalate (((c.viewSections view).map (List.map ViewLine.text)).map "\n".intercalate) := by
        rw [List.map_map]
        rfl
    _ = "\n".intercalate ((c.viewSections view).map (List.map ViewLine.text)).flatten :=
        intercalate_map_intercalate "\n" hne
    _ = "\n".intercalate ((c.viewLines view).map ViewLine.text) := by
        rw [← List.map_flatten, flatten_viewSections]

end Chart

/-! ## What the cutoff and the symbols change -/

namespace ChartView

variable (view : ChartView)

/-- With a limit that is not exceeded all edges of a position are shown. -/
theorem positionLines_eq_of_le (index : Nat) {edges : EdgeSet}
    (h : edges.size ≤ view.limit edges.size) :
    view.positionLines index edges = .heading edges.size index :: edges.toList.map .edge := by
  rw [positionLines, if_neg (Nat.not_lt.mpr h), List.append_nil, List.take_of_length_le h]

/-- A cutoff sets no limit if it is zero or if it is large enough. -/
theorem le_limit_cutoff {cutoff count : Nat} (h : cutoff = 0 ∨ count ≤ cutoff) :
    count ≤ ({ view with cutoff := some cutoff } : ChartView).limit count := by
  cases cutoff with
  | zero => exact Nat.le_refl count
  | succ cutoff =>
      rcases h with h | h
      · cases h
      · exact h

/-- The outline of a position. -/
theorem map_outline_positionLines (index : Nat) (edges : EdgeSet) :
    (view.positionLines index edges).map ViewLine.outline =
      some (.heading edges.size index) ::
        List.replicate (min (view.limit edges.size) edges.size) none ++
          if view.limit edges.size < edges.size then [some .more] else [] := by
  have hedges : ((edges.toList.take (view.limit edges.size)).map ViewLine.edge).map ViewLine.outline =
      List.replicate (min (view.limit edges.size) edges.size) none := by
    rw [List.map_map, List.eq_replicate_iff]
    refine ⟨?_, fun line hline => ?_⟩
    · rw [List.length_map, List.length_take, OrderedSet.size]
    · obtain ⟨e, -, rfl⟩ := List.mem_map.mp hline
      rfl
  rw [positionLines, List.map_append, List.map_cons, hedges]
  split
  · rfl
  · rfl

end ChartView

namespace Chart

variable (c : Chart) (view : ChartView)

/-- **The outline of a chart is told by its numbers of edges.** -/
theorem map_outline_viewLines : (c.viewLines view).map ViewLine.outline = view.outline c.counts := by
  have hzip : c.counts.zipIdx = c.positions.zipIdx.map (Prod.map OrderedSet.size id) := List.zipIdx_map
  have hlength : c.counts.length = c.length := List.length_map _
  -- a position has edges if their number is not zero
  have hshown : ((fun (count, index) => count != 0 && view.selects index c.length) ∘
      Prod.map (OrderedSet.size (α := Edge)) id) =
        fun (edges, index) => !edges.isEmpty && view.selects index c.length := by
    funext ⟨edges, index⟩
    have hsize : (edges.size != 0) = !edges.isEmpty := by
      rw [OrderedSet.size, OrderedSet.isEmpty]
      cases edges.toList with
      | nil => rfl
      | cons e rest => rfl
    exact congrArg (· && view.selects index c.length) hsize
  rw [viewLines, shownPositions, ChartView.outline, hzip, hlength, List.filter_map, hshown,
    List.flatMap_map, List.map_cons, List.map_flatMap]
  refine congrArg (some (ViewLine.size c.counts.sum) :: ·) (List.flatMap_congr ?_)
  rintro ⟨edges, index⟩ -
  exact view.map_outline_positionLines index edges

/-- Where the cutoff sets no limit to any position, it shows what no cutoff shows. -/
theorem viewLines_cutoff {cutoff : Nat} (h : cutoff = 0 ∨ ∀ count ∈ c.counts, count ≤ cutoff) :
    c.viewLines { view with cutoff := some cutoff } = c.viewLines { view with cutoff := none } := by
  have hpositions : c.shownPositions { view with cutoff := some cutoff } =
      c.shownPositions { view with cutoff := none } := rfl
  rw [viewLines, viewLines, hpositions]
  refine congrArg _ (List.flatMap_congr ?_)
  rintro ⟨edges, index⟩ hmem
  have hedges : edges ∈ c.positions := (List.mem_zipIdx (List.mem_filter.mp hmem).1).2.2 ▸ List.getElem_mem _
  have hle : cutoff = 0 ∨ edges.size ≤ cutoff :=
    h.imp_right fun hcounts => hcounts _ (List.mem_map_of_mem hedges)
  exact (ChartView.positionLines_eq_of_le _ index (view.le_limit_cutoff hle)).trans
    (ChartView.positionLines_eq_of_le { view with cutoff := none } index (Nat.le_refl _)).symm

end Chart

/-! ## The text of a view -/

/-- **A view shows exactly the lines that it selects.** The text does not depend on the width: it
has a line with the size of the whole chart, and for each selected position that has edges a line
that counts all of them, a line for each of those that are shown, and a line with dots if there are
more. A cutoff that is zero, or not less than any number of edges, shows the same as none. The
symbols of the edges have no part in which lines there are. -/
theorem renderView_eq_lines (c : Chart) (view : ChartView) :
    (∀ width, c.renderView view width = "\n".intercalate ((c.viewLines view).map ViewLine.text)) ∧
    (∀ cutoff, (cutoff = 0 ∨ ∀ count ∈ c.counts, count ≤ cutoff) → ∀ width,
      c.renderView { view with cutoff := some cutoff } width =
        c.renderView { view with cutoff := none } width) ∧
    (c.viewLines view).map ViewLine.outline = view.outline c.counts := by
  refine ⟨c.renderView_eq view, fun cutoff hcutoff width => ?_, c.map_outline_viewLines view⟩
  rw [c.renderView_eq, c.renderView_eq, c.viewLines_cutoff view hcutoff]

/-- Two positions have edges, two of them at the last. A view of the last position leaves out the
other, though its edge is counted; with a cutoff of one there are dots, and a cutoff of two changes
nothing. -/
theorem renderView_eq_lines_last :
    let c : Chart := ⟨["the", "lion"],
      [∅, .ofList [.lexical 0 "the"],
        .ofList [.lexical 1 "lion", ⟨1, 2, "Noun", ["lion"], 1, by decide, by decide⟩]], rfl⟩
    let last : ChartView := { positions := some [-1] }
    (∀ count ∈ c.counts, count ≤ 2) ∧
    c.renderView { last with cutoff := some 2 } standardWidth = c.renderView last standardWidth ∧
    c.renderView { last with cutoff := some 1 } standardWidth =
      "Chart size: 3 edges\n2 edges ending in position 2:\n    [1-2: Noun --> lion .]\n    ..." ∧
    c.renderView { cutoff := some 1 } standardWidth =
      "Chart size: 3 edges\n1 edges ending in position 1:\n    [0-1: the --> .]\n" ++
        "2 edges ending in position 2:\n    [1-2: Noun --> lion .]\n    ..." := by
  intro c last
  have hcounts : ∀ count ∈ c.counts, count ≤ 2 := by decide +kernel
  have hlast : (c.viewLines { last with cutoff := some 1 }).map ViewLine.text =
      ["Chart size: 3 edges", "2 edges ending in position 2:", "    [1-2: Noun --> lion .]",
        "    ..."] := by
    decide +kernel
  have hall : (c.viewLines { cutoff := some 1 }).map ViewLine.text =
      ["Chart size: 3 edges", "1 edges ending in position 1:", "    [0-1: the --> .]",
        "2 edges ending in position 2:", "    [1-2: Noun --> lion .]", "    ..."] := by
    decide +kernel
  refine ⟨hcounts, (renderView_eq_lines c last).2.1 2 (Or.inr hcounts) standardWidth, ?_, ?_⟩
  · rw [(renderView_eq_lines c _).1 standardWidth, hlast]
    decide +kernel
  · rw [(renderView_eq_lines c _).1 standardWidth, hall]
    decide +kernel

end ChartParsing
