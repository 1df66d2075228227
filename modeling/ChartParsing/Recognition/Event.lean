import ChartParsing.EdgeSet

/-!
# What happens during a recognition

An `Inference` is an edge that follows from a passive edge, with the rule of inference that
gave it. An `Event` is one thing that an observer of a recognition gets to see; the order of
the events is the order in which things happen.
-/

set_option autoImplicit false

namespace ChartParsing

/-- **An edge that follows from another**, with the rule of inference that gave it. -/
inductive Inference where
  /-- A grammar rule starts with what was recognized. -/
  | predicted (e : Edge)
  /-- An active edge expected what was recognized. -/
  | completed (e : Edge)
deriving DecidableEq

def Inference.edge : Inference → Edge
  | predicted e => e
  | completed e => e

/-- **Something that happens while an input is recognized.** -/
inductive Event where
  /-- Work starts on the edges that end at a position, behind this token. -/
  | started (position : Nat) (token : Symbol)
  /-- An edge was taken from the agenda, which has `left` more. -/
  | popped (e : Edge) (left : Nat)
  /-- The edge just taken was known. -/
  | duplicated (e : Edge)
  /-- The edge just taken was added. -/
  | added (e : Edge)
  /-- A predicted edge was put on the agenda. -/
  | predicted (e : Edge)
  /-- A completed edge was put on the agenda. -/
  | completed (e : Edge)
  /-- All edges that end at a position are known. -/
  | finished (position : Nat) (edges : EdgeSet)
deriving DecidableEq

/-- The event of putting an inferred edge on the agenda. -/
def Inference.event : Inference → Event
  | predicted e => .predicted e
  | completed e => .completed e

end ChartParsing
