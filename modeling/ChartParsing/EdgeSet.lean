import ChartParsing.Edge
import ChartParsing.Listing

/-!
# Sets of edges

Edge sets are ordered sets: they list their edges in edge order, and equal sets have the
same edges. `EdgeSetEdit` lists what can be done to one.
-/

set_option autoImplicit false

namespace ChartParsing

/-- **A set of edges**, enumerated in edge order. -/
abbrev EdgeSet := OrderedSet Edge

namespace EdgeSet

def passive (s : EdgeSet) : List Edge := s.toList.filter Edge.isPassive

def active (s : EdgeSet) : List Edge := s.toList.filter Edge.isActive

def passivePart (s : EdgeSet) : EdgeSet := s.filter Edge.isPassive

def listing (s : EdgeSet) : Listing := .set (s.toList.map fun e => .atom e.display)

end EdgeSet

/-! ## Edits of a set -/

/-- **Something done to an edge set.** -/
inductive EdgeSetEdit where
  | clear
  /-- Hold exactly the edges of a list. -/
  | replace (edges : List Edge)
  | insert (e : Edge)
  | keepPassive

namespace EdgeSetEdit

/-- The set after an edit; for an insertion, also whether the edge was new. -/
def apply (s : EdgeSet) : EdgeSetEdit → EdgeSet × Option Change
  | .clear => (∅, none)
  | .replace edges => (OrderedSet.ofList edges, none)
  | .insert e =>
    let (s, change) := s.insertNew e
    (s, some change)
  | .keepPassive => (s.passivePart, none)

/-- The set after a history of edits. -/
def run (s : EdgeSet) (edits : List EdgeSetEdit) : EdgeSet :=
  edits.foldl (fun s edit => (apply s edit).1) s

end EdgeSetEdit

end ChartParsing
