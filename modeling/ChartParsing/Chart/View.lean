import ChartParsing.Chart
import ChartParsing.Doc

/-!
# The text of a chart

A chart is written as a header with its size, then for each position that has edges a line
that counts them and the edges themselves, indented. A `ChartView` may select positions,
counted from either end, and may cut the list of each position short.

Main definition: `Chart.renderView`.
-/

set_option autoImplicit false

namespace ChartParsing

/-- **What is shown of a chart.** -/
structure ChartView where
  /-- The positions to show, negative ones counted from the end; all of them if not given. -/
  positions : Option (List Int64) := none
  /-- How many edges to show at each position; zero sets no limit, as does none. -/
  cutoff : Option Nat := none

namespace ChartView

/-- The view selects the position with this index, in a chart with `length` positions. -/
def selects (view : ChartView) (index length : Nat) : Bool :=
  match view.positions with
  | none => true
  | some selected =>
    selected.any fun p => p == Int64.ofNat index || p == positionFromEnd length index

/-- The edges of a position that are shown. -/
def shown (view : ChartView) (edges : List Edge) : List Edge :=
  match view.cutoff with
  | none => edges
  | some 0 => edges
  | some limit => edges.take limit

/-- The lines for the edges of a position: those that are shown, and dots for the others. -/
def edgeLines (view : ChartView) (edges : List Edge) : List String :=
  (view.shown edges).map Edge.display ++
    if (view.shown edges).length < edges.length then ["..."] else []

/-- The text for a position: how many edges it has, and their lines. -/
def positionDoc (view : ChartView) (index : Nat) (edges : EdgeSet) : Doc :=
  .text (toString edges.size ++ " edges ending in position " ++ toString index ++ ":") ++
    .nest 4 (.hardline ++ .join .hardline ((view.edgeLines edges.toList).map .text))

/-- The text for the chart: its size, and the selected positions that have edges. -/
def doc (view : ChartView) (c : Chart) : Doc :=
  let sections := c.positions.zipIdx.filter fun (edges, index) =>
    !edges.isEmpty && view.selects index c.length
  .join .hardline
    (.text ("Chart size: " ++ toString c.size ++ " edges") ::
      sections.map fun (edges, index) => view.positionDoc index edges)

def display (view : ChartView) : String :=
  let optional (value : Option String) : String :=
    match value with
    | none => "None"
    | some text => "Some(" ++ text ++ ")"
  let selected := view.positions.map fun ps =>
    (Listing.sequence (ps.map fun p => .atom (toString p.toInt))).inline
  (Listing.record "ChartView"
    [("positions", .atom (optional selected)),
     ("cutoff", .atom (optional (view.cutoff.map toString)))]).inline

end ChartView

namespace Chart

/-- **The chart as a view shows it**, written within a width. -/
def renderView (c : Chart) (view : ChartView) (width : Nat) : String := (view.doc c).render width

/-- The whole chart, written within a width. -/
def render (width : Nat) (c : Chart) : String := c.renderView {} width

end Chart

end ChartParsing
