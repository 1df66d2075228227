import Mathlib.Logic.Relation
import ChartParsing.Chart.Graph
import ChartParsing.Proofs.Answers
import ChartParsing.Proofs.Escaping
import ChartParsing.Proofs.JoinedText

/-!
# The lines of a graph

The graph of a chart is written line by line, and no character of a symbol adds a line or closes the
quotes around a label. `GraphLine` says which lines there are, and `Chart.drawing` which of them are
written. In the graph of a recognized chart every arc leads forward.

Main theorem: `graph_faithful`.
-/

set_option autoImplicit false

namespace ChartParsing

/-! ## Labels -/

/-- The text between the first quote of a line and the one that closes it. -/
def label? (line : String) : Option String :=
  match line.toList.dropWhile (· != '"') with
  | [] => none
  | _ :: behind => (closingQuote? behind).bind fun n => unescape? (String.ofList (behind.take n))

theorem label?_append {before written text : String} (hbefore : '"' ∉ before.toList)
    (h : Quotes written text) (after : String) :
    label? (before ++ "\"" ++ written ++ "\"" ++ after) = some text := by
  have hdrop : (before ++ "\"" ++ written ++ "\"" ++ after).toList.dropWhile (· != '"') =
      '"' :: (written.toList ++ '"' :: after.toList) := by
    have hquote : "\"".toList = ['"'] := rfl
    simp only [String.toList_append, hquote, List.append_assoc]
    rw [List.dropWhile_append_of_pos fun c hc => bne_iff_ne.mpr (ne_of_mem_of_not_mem hc hbefore)]
    rfl
  rw [label?, hdrop]
  show (closingQuote? (written.toList ++ '"' :: after.toList)).bind _ = _
  rw [h.closes, Option.bind_some, List.take_left, String.ofList_toList, h.reads]

/-- A number is written as it is. -/
theorem escape_toString (n : Nat) : escape (toString n) = toString n := by
  have hdigits : (toString n).toList.flatMap escapeChar = (toString n).toList.flatMap ([·]) :=
    List.flatMap_congr fun c hc => escapeChar_of_isDigit (isDigit_of_mem_toString hc)
  rw [escape, hdigits, List.flatMap_singleton', String.ofList_toList]

/-! ## The lines that are written -/

/-- **A line in the graph of a chart.** -/
inductive GraphLine where
  | opening
  | node (position : Nat)
  | arc (start stop : Nat) (label : String)
  | closing

namespace GraphLine

/-- The line as it is written. -/
def text : GraphLine → String
  | opening => "digraph chart \x7b"
  | node position => "    p" ++ toString position ++ "[label=\"" ++ toString position ++ "\"];"
  | arc start stop label =>
    "    p" ++ toString start ++ " -> p" ++ toString stop ++ "[label=\"" ++ escape label ++ "\"];"
  | closing => "\x7d"

/-- The arc of an edge, with its rule as the label, or the token of a lexical edge. -/
def ofEdge (e : Edge) : GraphLine :=
  arc e.start e.stop (if h : e.rhs = [] then e.lhs else Rule.display ⟨e.lhs, e.rhs, h⟩)

def isArc : GraphLine → Bool
  | arc _ _ _ => true
  | _ => false

end GraphLine

namespace Chart

/-- **The graph of a chart**: a node for each position, and an arc for each passive edge. -/
def drawing (c : Chart) : List GraphLine :=
  .opening :: (List.range c.length).map .node ++ (c.edges.filter Edge.isPassive).map .ofEdge ++
    [.closing]

/-- There is an arc between two positions. -/
def Arc (c : Chart) (start stop : Nat) : Prop := ∃ label, .arc start stop label ∈ c.drawing

end Chart

/-! ## The text of a line -/

namespace GraphLine

/-- A label has no part in where a line ends. -/
theorem newline_notMem_text (line : GraphLine) : '\n' ∉ line.text.toList := by
  have hnumber : ∀ n : Nat, '\n' ∉ (toString n).toList := notMem_toString (by decide)
  cases line with
  | opening => decide
  | node position =>
      simp only [text, String.toList_append, List.mem_append, not_or]
      exact ⟨⟨⟨⟨by decide, hnumber position⟩, by decide⟩, hnumber position⟩, by decide⟩
  | arc start stop label =>
      have hlabel : '\n' ∉ (escape label).toList := fun hmem =>
        absurd ((quotes_escape label).printable '\n' hmem) (by decide)
      simp only [text, String.toList_append, List.mem_append, not_or]
      exact ⟨⟨⟨⟨⟨⟨by decide, hnumber start⟩, by decide⟩, hnumber stop⟩, by decide⟩, hlabel⟩, by decide⟩
  | closing => decide

/-- **The label of an arc is read back** from between its quotes. -/
theorem label?_text_arc (start stop : Nat) (label : String) :
    label? (arc start stop label).text = some label := by
  have hnumber : ∀ n : Nat, '"' ∉ (toString n).toList := notMem_toString (by decide)
  have hbefore : '"' ∉ ("    p" ++ toString start ++ " -> p" ++ toString stop ++ "[label=").toList := by
    simp only [String.toList_append, List.mem_append, not_or]
    exact ⟨⟨⟨⟨by decide, hnumber start⟩, by decide⟩, hnumber stop⟩, by decide⟩
  rw [← label?_append hbefore (quotes_escape label) "];", text]
  simp only [String.append_assoc]
  rfl

end GraphLine

/-! ## The lines of a graph -/

namespace Chart

theorem nodeLine_eq (position : Nat) : nodeLine position = (GraphLine.node position).text := by
  rw [nodeLine, nodeName, GraphLine.text, escape_toString, ← String.append_assoc]
  rfl

theorem arcLine_eq (e : Edge) : arcLine e = (GraphLine.ofEdge e).text := by
  have hlabel : e.label = if h : e.rhs = [] then e.lhs else Rule.display ⟨e.lhs, e.rhs, h⟩ := by
    rw [Edge.label, Edge.rule?]
    by_cases h : e.rhs = []
    · rw [dif_pos h, dif_pos h]
    · rw [dif_neg h, dif_neg h]
  rw [arcLine, nodeName, nodeName, GraphLine.ofEdge, GraphLine.text, hlabel]
  simp only [String.append_assoc]
  rfl

variable (c : Chart)

theorem graphLines_eq : c.graphLines = c.drawing.map GraphLine.text := by
  have hnodes : (List.range c.length).map nodeLine =
      ((List.range c.length).map GraphLine.node).map GraphLine.text := by
    rw [List.map_map]
    exact List.map_congr_left fun position _ => nodeLine_eq position
  have harcs : c.arcs.map arcLine = (c.arcs.map GraphLine.ofEdge).map GraphLine.text := by
    rw [List.map_map]
    exact List.map_congr_left fun e _ => arcLine_eq e
  rw [graphLines, hnodes, harcs, drawing, List.map_append, List.map_append, List.map_cons]
  rfl

/-- **The lines of the text are those of the graph**, with an empty one behind the last newline. -/
theorem splitLines_graph : splitLines c.graph = c.drawing.map GraphLine.text ++ [""] := by
  have hlines : ∀ line ∈ c.drawing.map GraphLine.text, '\n' ∉ line.toList := by
    intro line hline
    obtain ⟨shown, -, rfl⟩ := List.mem_map.mp hline
    exact shown.newline_notMem_text
  rw [graph, graphLines_eq, splitLines_join hlines]

variable {c}

theorem node_mem_drawing {position : Nat} : .node position ∈ c.drawing ↔ position < c.length := by
  simp [drawing, GraphLine.ofEdge]

theorem arc_mem_drawing {start stop : Nat} {label : String} (h : .arc start stop label ∈ c.drawing) :
    ∃ e ∈ c.edges, e.start = start ∧ e.stop = stop := by
  obtain ⟨e, ⟨he, -⟩, hline⟩ : ∃ e, (e ∈ c.edges ∧ e.isPassive = true) ∧
      GraphLine.ofEdge e = .arc start stop label := by
    simpa [drawing] using h
  injection hline with hstart hstop hlabel
  exact ⟨e, he, hstart, hstop⟩

theorem countP_isArc_drawing : c.drawing.countP GraphLine.isArc = c.arcs.length := by
  have hnodes : ((List.range c.length).map GraphLine.node).countP GraphLine.isArc = 0 := by
    rw [List.countP_map, List.countP_eq_zero]
    intro position _
    exact Bool.false_ne_true
  have harcs : (c.arcs.map GraphLine.ofEdge).countP GraphLine.isArc = c.arcs.length := by
    rw [List.countP_map, List.countP_eq_length]
    intro e _
    rfl
  have hopening : GraphLine.opening.isArc ≠ true := Bool.false_ne_true
  have hclosing : [GraphLine.closing].countP GraphLine.isArc = 0 := rfl
  rw [drawing, List.countP_append, List.countP_append, List.countP_cons_of_neg hopening, hnodes,
    hclosing, Nat.zero_add, Nat.add_zero]
  exact harcs

/-! ## Arcs that lead forward -/

/-- If all edges lead forward, then so does every way along arcs. -/
theorem lt_of_transGen_arc (h : ∀ e ∈ c.edges, e.start < e.stop) {start stop : Nat}
    (hway : Relation.TransGen c.Arc start stop) : start < stop := by
  have harc : ∀ {a b}, c.Arc a b → a < b := by
    rintro a b ⟨label, hmem⟩
    obtain ⟨e, he, rfl, rfl⟩ := arc_mem_drawing hmem
    exact h e he
  -- the positions go up along the way, arc by arc
  induction hway with
  | single hlast => exact harc hlast
  | tail _ hlast ih => exact ih.trans (harc hlast)

end Chart

/-- The edges of a recognized chart lead forward, and to a position that there is. -/
theorem span_of_mem_edges_chart {recognizer : Recognizer} {g : Grammar} {input : List Symbol} {e : Edge}
    (h : e ∈ (recognizer.recognize g input).chart.edges) :
    e.isPassive = true ∧ e.start < e.stop ∧ e.stop < (recognizer.recognize g input).chart.length := by
  obtain ⟨hinferred, hpassive⟩ := mem_edges_chart.mp h
  obtain ⟨hlt, hle⟩ := hinferred.holds.span
  refine ⟨hpassive, hlt, ?_⟩
  rw [length_chart]
  exact Nat.lt_succ_of_le hle

/-! ## The graph of a chart -/

/-- **The graph is that of the chart.** Whatever the symbols are, its lines are an opening one, those
of the nodes in ascending order, those of the arcs in the order of the edges, and a closing one; and
the label of an arc is read back. In the graph of a recognized chart each arc leads from one node to
a later one, so that there is no cycle, and there are as many arcs as edges in the chart. -/
theorem graph_faithful :
    (∀ c : Chart, splitLines c.graph = c.drawing.map GraphLine.text ++ [""]) ∧
    (∀ start stop label, label? (GraphLine.arc start stop label).text = some label) ∧
    ∀ (recognizer : Recognizer) (g : Grammar) (input : List Symbol),
      (∀ start stop label, .arc start stop label ∈ (recognizer.recognize g input).chart.drawing →
        start < stop ∧ .node start ∈ (recognizer.recognize g input).chart.drawing ∧
          .node stop ∈ (recognizer.recognize g input).chart.drawing) ∧
      (∀ position, ¬Relation.TransGen (recognizer.recognize g input).chart.Arc position position) ∧
      (recognizer.recognize g input).chart.drawing.countP GraphLine.isArc =
        (recognizer.recognize g input).chart.size := by
  refine ⟨Chart.splitLines_graph, GraphLine.label?_text_arc, fun recognizer g input =>
    ⟨fun start stop label harc => ?_, fun position hcycle => ?_, ?_⟩⟩
  · obtain ⟨e, he, rfl, rfl⟩ := Chart.arc_mem_drawing harc
    obtain ⟨-, hlt, hstop⟩ := span_of_mem_edges_chart he
    exact ⟨hlt, Chart.node_mem_drawing.mpr (hlt.trans hstop), Chart.node_mem_drawing.mpr hstop⟩
  · have hforward : ∀ e ∈ (recognizer.recognize g input).chart.edges, e.start < e.stop :=
      fun e he => (span_of_mem_edges_chart he).2.1
    exact (Chart.lt_of_transGen_arc hforward hcycle).false
  · rw [Chart.countP_isArc_drawing, Chart.arcs,
      List.filter_eq_self.mpr fun e he => (span_of_mem_edges_chart he).1]
    rfl

end ChartParsing
