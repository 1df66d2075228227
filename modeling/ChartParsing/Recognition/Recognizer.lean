import ChartParsing.Chart
import ChartParsing.Grammar
import ChartParsing.Recognition.Agenda
import ChartParsing.Recognition.Column

/-!
# Recognizing an input

An input is recognized from left to right. At each position the agenda starts with the
lexical edge of the token before it, and two rules of inference apply to a passive edge for
a symbol `X` that starts at `i` and ends here:

* a grammar rule whose right-hand side starts with `X` gives an edge over the same span with
  its dot behind `X`;
* an active edge that ends at `i` and expects `X` is advanced to here.

Both look only at the grammar and at earlier positions, whose edges are all known.

`Recognizer.recognize` gives the `Recognition`: a `Stage` for each token, with the edges
that end behind it and what happened; the chart holds the passive edges of each stage.
-/

set_option autoImplicit false

namespace ChartParsing

/-! ## Finding rules and waiting edges -/

/-- **How rules and waiting edges are found** for a recognized symbol. -/
structure Finder where
  /-- The grammar rules whose right-hand side starts with a symbol. -/
  starting : Grammar → Symbol → List Rule
  /-- The edges of a column that expect a symbol. -/
  expecting : Column → Symbol → List Edge

namespace Finder

/-- Finds them by the indexes of the grammar and of the column. -/
def indexed : Finder := ⟨Grammar.startingWith, Column.expecting⟩

/-- Finds them by a walk over all rules, and over all edges of the column. -/
def exhaustive : Finder where
  starting g s := g.rules.filter fun r => r.first = s
  expecting column s := column.edges.toList.filter fun e => e.isActive && e.next? = some s

end Finder

/-! ## Stages -/

/-- **What was found for a token**: the edges that end behind it. -/
structure Stage where
  /-- The position behind the token. -/
  position : Nat
  token : Symbol
  column : Column
  /-- What happened between the start and the end of the work on the position. -/
  work : List Event
  /-- What was left of the agenda when the work ended. -/
  pending : List Edge

namespace Stage

def events (stage : Stage) : List Event :=
  .started stage.position stage.token :: stage.work ++ [.finished stage.position stage.column.edges]

end Stage

/-- The column of a position. Nothing ends at the first one, and each stage has the column of
the position behind its token. -/
def columnAt (stages : Array Stage) : (position : Nat) → Option Column
  | 0 => some .empty
  | k + 1 => stages[k]?.map Stage.column

/-! ## Inference -/

/-- The edges predicted at `position` from a passive edge. -/
def predictions (finder : Finder) (g : Grammar) (position : Nat) (e : Edge) : List Edge :=
  (finder.starting g e.lhs).filterMap fun r => (Edge.predicted e.start position r).toOption

/-- The edges completed at `position` by a passive edge. -/
def completions (finder : Finder) (stages : Array Stage) (position : Nat) (e : Edge) : List Edge :=
  match columnAt stages e.start with
  | none => []
  | some column =>
    (finder.expecting column e.lhs).filterMap fun w => (w.advance position).toOption

/-- **What follows from an edge at `position`**: predictions in the order of the grammar, then
completions in edge order. Nothing follows from an active edge. -/
def inferences (finder : Finder) (g : Grammar) (stages : Array Stage) (position : Nat) (e : Edge) :
    List Inference :=
  if e.isPassive then
    (predictions finder g position e).map .predicted ++
      (completions finder stages position e).map .completed
  else []

/-! ## Recognition -/

/-- How many different edges can end at a position: one for the token, and one for each start
before the position and each place of the dot in a rule. -/
def capacity (g : Grammar) (position : Nat) : Nat :=
  1 + position * g.rhsTotal

def nextStage (finder : Finder) (order : AgendaOrder) (g : Grammar) (stages : Array Stage)
    (token : Symbol) : Stage :=
  let start := stages.size
  let position := start + 1
  let found := saturate order (inferences finder g stages position) (capacity g position) ∅
    [Edge.lexical start token]
  ⟨position, token, .ofEdges found.edges, found.events, found.pending⟩

def stagesOf (finder : Finder) (order : AgendaOrder) (g : Grammar) (input : List Symbol) :
    Array Stage :=
  input.foldl (fun stages token => stages.push (nextStage finder order g stages token)) #[]

theorem size_stagesOf (finder : Finder) (order : AgendaOrder) (g : Grammar) (input : List Symbol) :
    (stagesOf finder order g input).size = input.length := by
  have grows : ∀ (tokens : List Symbol) (stages : Array Stage),
      (tokens.foldl (fun stages token => stages.push (nextStage finder order g stages token))
        stages).size = stages.size + tokens.length := by
    intro tokens
    induction tokens with
    | nil => intro stages; rfl
    | cons token tokens ih =>
        intro stages
        simp only [List.foldl_cons, ih, Array.size_push, List.length_cons]
        omega
  simpa [stagesOf] using grows input #[]

/-- **The recognition of an input.** -/
structure Recognition where
  input : List Symbol
  /-- A stage for each token. -/
  stages : List Stage
  /-- No token is without a stage. -/
  length_stages : stages.length = input.length

namespace Recognition

/-- The passive edges of each position. Nothing ends before the first token. -/
def positions (r : Recognition) : List EdgeSet :=
  ∅ :: r.stages.map fun stage => stage.column.passivePart

/-- **The chart of the recognized constituents.** -/
def chart (r : Recognition) : Chart :=
  ⟨r.input, r.positions, by simp [positions, r.length_stages]⟩

def events (r : Recognition) : List Event := r.stages.flatMap Stage.events

end Recognition

/-- The recognition of an input by a way of finding rules and edges. -/
def recognizeBy (finder : Finder) (order : AgendaOrder) (g : Grammar) (input : List Symbol) :
    Recognition :=
  ⟨input, (stagesOf finder order g input).toList, by simp [size_stagesOf]⟩

/-- **A recognizer**, set to an order of the agenda. -/
structure Recognizer where
  /-- The order in which agendas are worked off. -/
  agendaOrder : AgendaOrder := .stack

namespace Recognizer

def recognize (recognizer : Recognizer) (g : Grammar) (input : List Symbol) : Recognition :=
  recognizeBy .indexed recognizer.agendaOrder g input

def display (recognizer : Recognizer) : String :=
  (Listing.record "EarleyRecognizer"
    [("agenda_order", .atom recognizer.agendaOrder.display)]).inline

end Recognizer

end ChartParsing
