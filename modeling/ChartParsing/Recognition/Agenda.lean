import ChartParsing.Recognition.Event

/-!
# Working off an agenda

The edges that end at a position are found by working off an agenda. Each edge that is
taken from it and not yet known is added, and whatever follows from it goes on the agenda.
An edge that is known already is passed over.

`saturate` runs this for a rule of inference `infer`. Each addition uses up one unit of a
budget, and with a budget that bounds the number of different edges the agenda is worked
off completely: nothing is left `pending`.
-/

set_option autoImplicit false

namespace ChartParsing

/-! ## Order -/

/-- **Which edge of an agenda comes next.** -/
inductive AgendaOrder where
  /-- The one that was put on it last. -/
  | stack
  /-- The one that was put on it first. -/
  | queue
deriving DecidableEq

namespace AgendaOrder

def display : AgendaOrder → String
  | stack => "Stack"
  | queue => "Queue"

/-- An agenda, listed with the next edge first, after new edges were put on it one by one. -/
def enqueue {α : Type} : AgendaOrder → (agenda new : List α) → List α
  | stack, agenda, new => new.reverse ++ agenda
  | queue, agenda, new => agenda ++ new

theorem perm_enqueue {α : Type} (order : AgendaOrder) (agenda new : List α) :
    (order.enqueue agenda new).Perm (agenda ++ new) := by
  cases order with
  | stack => exact ((List.reverse_perm new).append_right agenda).trans List.perm_append_comm
  | queue => exact List.Perm.refl _

/-- In either order an agenda loses nothing and gains what was put on it. -/
theorem mem_enqueue {α : Type} {order : AgendaOrder} {agenda new : List α} {x : α} :
    x ∈ order.enqueue agenda new ↔ x ∈ agenda ∨ x ∈ new := by
  rw [(perm_enqueue order agenda new).mem_iff, List.mem_append]

theorem length_enqueue {α : Type} (order : AgendaOrder) (agenda new : List α) :
    (order.enqueue agenda new).length = agenda.length + new.length := by
  rw [(perm_enqueue order agenda new).length_eq, List.length_append]

end AgendaOrder

/-! ## Saturation -/

/-- **What came of an agenda.** -/
structure Saturation where
  edges : EdgeSet
  events : List Event
  /-- The part of the agenda that was not worked off. -/
  pending : List Edge

/-- Passes over the known edges at the front of an agenda; what is left is empty or starts
with a new edge. -/
def passKnown (known : EdgeSet) : (agenda : List Edge) → List Event × List Edge
  | [] => ([], [])
  | e :: agenda =>
    if known.contains e then
      let (events, rest) := passKnown known agenda
      (.popped e agenda.length :: .duplicated e :: events, rest)
    else ([], e :: agenda)

/-- **Works off an agenda**, adding at most `budget` edges to the known ones. -/
def saturate (order : AgendaOrder) (infer : Edge → List Inference) :
    (budget : Nat) → (known : EdgeSet) → (agenda : List Edge) → Saturation
  | 0, known, agenda =>
    let (passed, rest) := passKnown known agenda
    ⟨known, passed, rest⟩
  | budget + 1, known, agenda =>
    match passKnown known agenda with
    | (passed, []) => ⟨known, passed, []⟩
    | (passed, e :: rest) =>
      let new := infer e
      let further := saturate order infer budget (known.insert e)
        (order.enqueue rest (new.map Inference.edge))
      { further with
        events := passed ++ .popped e rest.length :: .added e ::
          (new.map Inference.event ++ further.events) }

end ChartParsing
