import ChartParsing.Chart
import ChartParsing.EscapedText

/-!
# A chart as a graph

The chart in the language of Graphviz: a node for each position, and an arc for each
passive edge from where it starts to where it ends, labelled with its rule.

Main definition: `Chart.graph`.
-/

set_option autoImplicit false

namespace ChartParsing

/-- What an arc is labelled with: the rule, or the token of a lexical edge. -/
def Edge.label (e : Edge) : String :=
  match e.rule? with
  | some r => r.display
  | none => e.lhs

namespace Chart

def nodeName (position : Nat) : String := "p" ++ toString position

def nodeLine (position : Nat) : String :=
  "    " ++ nodeName position ++ "[label=\"" ++ escape (toString position) ++ "\"];"

def arcLine (e : Edge) : String :=
  "    " ++ nodeName e.start ++ " -> " ++ nodeName e.stop ++ "[label=\"" ++ escape e.label ++ "\"];"

def arcs (c : Chart) : List Edge := c.edges.filter Edge.isPassive

def graphLines (c : Chart) : List String :=
  ["digraph chart \x7b"] ++ (List.range c.length).map nodeLine ++ c.arcs.map arcLine ++ ["\x7d"]

/-- **The chart in the language of Graphviz**, each line with a newline at its end. -/
def graph (c : Chart) : String := String.join (c.graphLines.map fun line => line ++ "\n")

end Chart

end ChartParsing
