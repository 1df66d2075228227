import ChartParsing.Attachment
import ChartParsing.Edge

/-!
# Edges that carry a value

An annotated edge is an edge with an optional value, which takes no part in comparison.
Advancing the edge drops the value.
-/

set_option autoImplicit false

namespace ChartParsing

open Std

/-- **An edge with an optional value** of `α`. -/
structure Annotated (α : Type) where
  edge : Edge
  /-- The value, which comparison ignores. -/
  note : Attachment (Option α)

namespace Annotated

variable {α β : Type}

def plain (e : Edge) : Annotated α := ⟨e, ⟨none⟩⟩

def value? (a : Annotated α) : Option α := a.note.value

/-- The edge with another value, of any type. -/
def attach (a : Annotated α) (value : β) : Annotated β := ⟨a.edge, ⟨some value⟩⟩

def detach (a : Annotated α) : Annotated β := plain a.edge

/-- The edge advanced to `stop`, without its value. -/
def advance (a : Annotated α) (stop : Nat) : Except EdgeError (Annotated β) :=
  (a.edge.advance stop).map plain

/-- The printed edge, without its value. -/
def display (a : Annotated α) : String := a.edge.display

instance : BEq (Annotated α) := ⟨fun a b => a.edge == b.edge && a.note == b.note⟩

instance : Ord (Annotated α) := ⟨compareLex (compareOn edge) (compareOn note)⟩

instance : TransOrd (Annotated α) :=
  inferInstanceAs (TransCmp (compareLex (compareOn edge) (compareOn note)))

end Annotated

end ChartParsing
