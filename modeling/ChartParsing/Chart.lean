import ChartParsing.EdgeSet

/-!
# Charts

A chart over an input of `n` tokens has `n + 1` positions, each with a set of edges. A
recognizer files a passive edge at the position where it ends.

A query may count positions from the end: `-1` is the last one. `Chart.resolve` turns such
a signed position into an index or says that it is out of range, and it is computed in
64-bit words.
-/

set_option autoImplicit false

namespace ChartParsing

/-! ## Errors of a chart -/

/-- Why there is no chart, or no answer from one. -/
inductive ChartError where
  /-- The number of edge sets is not one more than the number of tokens. -/
  | lengthMismatch
  /-- The chart has no such position, counted from either end. -/
  | positionOutOfRange (position : Int64) (length : Nat)
deriving DecidableEq

def ChartError.message : ChartError → String
  | .lengthMismatch => "a chart needs one edge set per input position"
  | .positionOutOfRange position length =>
    "position " ++ toString position.toInt ++ " is outside a chart of length " ++ toString length

/-! ## Charts -/

/-- **The edges over an input**, filed by position. -/
structure Chart where
  input : List Symbol
  positions : List EdgeSet
  /-- There is a position before each token and one at the end. -/
  length_positions : positions.length = input.length + 1
deriving DecidableEq

/-! ## Signed positions -/

/-- The index that a position stands for, negative ones being counted from the end. -/
def signedIndex (length : Nat) (position : Int64) : Int64 :=
  if position < 0 then Int64.ofNat length + position else position

/-- The negative position that stands for an index. -/
def positionFromEnd (length index : Nat) : Int64 := Int64.ofNat index - Int64.ofNat length

namespace Chart

/-- The chart with these edge sets, if there is one for each position of the input. -/
def make (input : List Symbol) (positions : List EdgeSet) : Except ChartError Chart :=
  if h : positions.length = input.length + 1 then .ok ⟨input, positions, h⟩
  else .error .lengthMismatch

def length (c : Chart) : Nat := c.positions.length

/-- The edges of a position, if the chart has it. -/
def at? (c : Chart) (position : Nat) : Option EdgeSet := c.positions[position]?

/-- All edges, by position and then in edge order. -/
def edges (c : Chart) : List Edge := c.positions.flatMap OrderedSet.toList

/-- The number of edges at each position. -/
def counts (c : Chart) : List Nat := c.positions.map OrderedSet.size

/-- The number of edges, over all positions. -/
def size (c : Chart) : Nat := c.edges.length

/-! ## Queries -/

/-- **The index of a position that may be counted from the end.** -/
def resolve (c : Chart) (position : Int64) : Except ChartError (Fin c.length) :=
  let index := signedIndex c.length position
  if h : 0 ≤ index ∧ index.toNatClampNeg < c.length then .ok ⟨index.toNatClampNeg, h.2⟩
  else .error (.positionOutOfRange position c.length)

/-- Some passive edge for `category` that is filed at `stop` starts at `start`. -/
def recognized (c : Chart) (category : Symbol) (start : Nat) (stop : Int64) : Except ChartError Bool :=
  (c.resolve stop).map fun j =>
    (EdgeSet.passive (c.positions.get j)).any fun e => e.start == start && e.lhs == category

/-- The whole input was recognized as `category`. -/
def accepts (c : Chart) (category : Symbol) : Bool :=
  (c.recognized category 0 (-1)).toOption.getD false

/-! ## Printing -/

def listing (c : Chart) : Listing :=
  .record "Chart"
    [("input", .sequence (c.input.map .atom)),
     ("positions", .sequence (c.positions.map EdgeSet.listing))]

end Chart

end ChartParsing
