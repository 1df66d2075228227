import ChartParsing.Edge.Annotated

/-!
# Edits of a held edge

Somebody who holds an edge, perhaps with a value of `α`, may put another one in its place,
advance it, or attach and remove a value. `EdgeEdit.apply` makes an edit or says why not, and
`EdgeEdit.run` makes a whole history of them, in which an edit that fails changes nothing.
-/

set_option autoImplicit false

namespace ChartParsing

/-- **Something done to a held edge**, with values of `α`. -/
inductive EdgeEdit (α : Type) where
  /-- Hold the edge with these parts. -/
  | make (start stop : Nat) (lhs : Symbol) (rhs : List Symbol) (dot : Nat)
  /-- Hold the lexical edge of a token. -/
  | scan (start : Nat) (token : Symbol)
  /-- Hold the edge of a rule whose first symbol was recognized. -/
  | predict (start stop : Nat) (r : Rule)
  | advance (stop : Nat)
  /-- Attach a value in place of the one that was attached. -/
  | attach (value : α)
  | detach

/-- Why an edit was not made. -/
inductive EditError where
  /-- No edge is held that could be edited. -/
  | noEdge
  /-- The edge that would result does not exist. -/
  | badEdge (cause : EdgeError)
deriving DecidableEq

def EditError.message : EditError → String
  | .noEdge => "no edge yet"
  | .badEdge cause => cause.message

namespace EdgeEdit

variable {α : Type}

/-- Holds an edge that was just made, without a value. -/
def hold (made : Except EdgeError Edge) : Except EditError (Annotated α) :=
  match made with
  | .ok e => .ok (.plain e)
  | .error cause => .error (.badEdge cause)

/-- The edge held after an edit. -/
def apply (held : Option (Annotated α)) : EdgeEdit α → Except EditError (Annotated α)
  | .make start stop lhs rhs dot => hold (Edge.make start stop lhs rhs dot)
  | .scan start token => hold (Edge.scan start token)
  | .predict start stop r => hold (Edge.predicted start stop r)
  | .advance stop =>
    match held with
    | none => .error .noEdge
    | some a => hold (a.edge.advance stop)
  | .attach value =>
    match held with
    | none => .error .noEdge
    | some a => .ok (a.attach value)
  | .detach =>
    match held with
    | none => .error .noEdge
    | some a => .ok a.detach

/-- The edge held after several edits, if all of them can be made. -/
def applyAll (held : Option (Annotated α)) : List (EdgeEdit α) → Except EditError (Annotated α)
  | [] =>
    match held with
    | none => .error .noEdge
    | some a => .ok a
  | edit :: edits =>
    match apply held edit with
    | .error e => .error e
    | .ok a => applyAll (some a) edits

/-- The edge held after a history of edits; one that cannot be made changes nothing. -/
def run (held : Option (Annotated α)) : List (EdgeEdit α) → Option (Annotated α)
  | [] => held
  | edit :: edits =>
    match apply held edit with
    | .error _ => run held edits
    | .ok a => run (some a) edits

end EdgeEdit

end ChartParsing
