import Mathlib.Data.List.Range
import Mathlib.Logic.Function.Basic
import Mathlib.Order.Bounds.Basic
import ChartParsing.Proofs.Workload

/-!
# The order of events

What is seen of a recognition falls into blocks, one for each token, and a block into turns: an
edge is taken from the agenda, and it is passed over, or added and followed by the edges that
are put on the agenda. A `Turn` is what is seen of one edge, and `Turn.Lawful` and
`AgendaOrder.Kept` are the laws of a block. They speak of the events only, and know neither
the agenda nor the edge set behind them.

A step of the loop adds a turn that keeps the laws (`Narrated.pops`, `Stacked.concat`), and so
every run of the loop can be told in turns. Main theorem: `events_eq_blocks`.
-/

set_option autoImplicit false

namespace ChartParsing

/-! ## Turns -/

/-- **A turn of the loop**, as it is seen: what happens with an edge that is taken from the
agenda, when so many are left there. -/
inductive Turn where
  /-- The edge was known, and is passed over. -/
  | repeated (e : Edge) (left : Nat)
  /-- The edge is added, and edges are put on the agenda. -/
  | fresh (e : Edge) (left : Nat) (predicted completed : List Edge)

namespace Turn

/-- The edge that is taken. -/
def edge : Turn → Edge
  | repeated e _ => e
  | fresh e _ _ _ => e

/-- The number of edges that are left. -/
def left : Turn → Nat
  | repeated _ left => left
  | fresh _ left _ _ => left

def isRepeated : Turn → Bool
  | repeated _ _ => true
  | fresh _ _ _ _ => false

/-- The edge that is added, if one is. -/
def added : Turn → List Edge
  | repeated _ _ => []
  | fresh e _ _ _ => [e]

/-- The edges that are put on the agenda, in order. -/
def put : Turn → List Edge
  | repeated _ _ => []
  | fresh _ _ predicted completed => predicted ++ completed

def events : Turn → List Event
  | repeated e left => [.popped e left, .duplicated e]
  | fresh e left predicted completed =>
    .popped e left :: .added e :: (predicted.map .predicted ++ completed.map .completed)

/-- **The law of a turn**, behind the turns before it. -/
structure Lawful (before : List Turn) (turn : Turn) : Prop where
  /-- An edge is passed over exactly if it was added before. -/
  repeated_iff : turn.isRepeated = true ↔ turn.edge ∈ before.flatMap added
  /-- Nothing follows from an active edge. -/
  put_eq_nil : turn.edge.isActive = true → turn.put = []
  /-- What is left is what was put on the agenda, the lexical edge included, without what was
  taken from it, this edge included. -/
  left_eq : (turn.left : Int) = 1 + (before.flatMap put).length - (before.length + 1)

end Turn

/-! ## Blocks -/

/-- What arrives on an agenda, in order: its first edge, and what is put there in the turns. -/
def arrivals (seed : Edge) (turns : List Turn) : List Edge := seed :: turns.flatMap Turn.put

/-- The numbers of the arrivals before turn `i` that no earlier turn has taken, when turn `m`
takes arrival `number m`. -/
def waitingAt (seed : Edge) (turns : List Turn) (number : Nat → Nat) (i : Nat) : Set Nat :=
  {a | a < (arrivals seed (turns.take i)).length ∧ ∀ m < i, number m ≠ a}

/-- **The last one first**: each turn takes the latest arrival that is still waiting. -/
structure LastFirst (seed : Edge) (turns : List Turn) (number : Nat → Nat) : Prop where
  edge_eq : ∀ (i : Nat) (turn : Turn), turns[i]? = some turn →
    (arrivals seed turns)[number i]? = some turn.edge
  latest : ∀ i < turns.length, IsGreatest (waitingAt seed turns number i) (number i)

/-- **Edges are taken in the order of the agenda**: from a queue as they arrived, from a stack
the latest one first. -/
def AgendaOrder.Kept (seed : Edge) (turns : List Turn) : AgendaOrder → Prop
  | queue => turns.map Turn.edge = arrivals seed turns
  | stack => ∃ number, LastFirst seed turns number

/-- **What is seen of the work on a position.** -/
structure Block where
  position : Nat
  token : Symbol
  turns : List Turn
  found : EdgeSet

namespace Block

/-- The edge that is put on the agenda first. -/
def seed (block : Block) : Edge := .lexical (block.position - 1) block.token

def events (block : Block) : List Event :=
  .started block.position block.token :: block.turns.flatMap Turn.events ++
    [.finished block.position block.found]

/-- **The law of a block.** -/
structure Lawful (order : AgendaOrder) (block : Block) : Prop where
  /-- There is a turn, and the first edge that is taken is the lexical one. -/
  first : block.turns.head?.map Turn.edge = some block.seed
  turn_lawful : ∀ (i : Nat) (turn : Turn), block.turns[i]? = some turn →
    turn.Lawful (block.turns.take i)
  kept : order.Kept block.seed block.turns
  /-- Every arrival is taken. -/
  all_taken : (block.turns.map Turn.edge).Perm (arrivals block.seed block.turns)
  /-- The edges that are found are those that were added. -/
  mem_found : ∀ e, e ∈ block.found ↔ e ∈ block.turns.flatMap Turn.added

end Block

variable {seed : Edge} {turns : List Turn} {turn : Turn}

/-! ## One turn more -/

theorem arrivals_concat (seed : Edge) (turns : List Turn) (turn : Turn) :
    arrivals seed (turns ++ [turn]) = arrivals seed turns ++ turn.put := by
  unfold arrivals
  rw [List.flatMap_append, List.flatMap_singleton, List.cons_append]

/-- A turn of a list with one more is one of the list, behind the same turns, or the new one. -/
theorem getElem?_concat_cases {i : Nat} {other : Turn} (h : (turns ++ [turn])[i]? = some other) :
    (turns[i]? = some other ∧ (turns ++ [turn]).take i = turns.take i) ∨
      (i = turns.length ∧ other = turn) := by
  by_cases hi : i < turns.length
  · rw [List.getElem?_append_left hi] at h
    exact Or.inl ⟨h, List.take_append_of_le_length (Nat.le_of_lt hi)⟩
  · have hlast := (List.getElem?_eq_some_iff.mp h).1
    rw [List.length_append, List.length_singleton] at hlast
    have hi : i = turns.length := by omega
    rw [hi, List.getElem?_concat_length] at h
    exact Or.inr ⟨hi, (Option.some.inj h).symm⟩

/-! ## Runs told in turns -/

/-- **A state of the loop that the turns lead to.** -/
structure Narrated (seed : Edge) (turns : List Turn) (w : Work) : Prop where
  log_eq : w.log = turns.flatMap Turn.events
  mem_known : ∀ e, e ∈ w.known ↔ e ∈ turns.flatMap Turn.added
  first : (turns.map Turn.edge ++ w.agenda).head? = some seed
  /-- What arrived was taken, or is still there. -/
  perm : (turns.map Turn.edge ++ w.agenda).Perm (arrivals seed turns)
  turn_lawful : ∀ (i : Nat) (turn : Turn), turns[i]? = some turn → turn.Lawful (turns.take i)

theorem narrated_start (seed : Edge) : Narrated seed [] (.start [seed]) where
  log_eq := rfl
  mem_known e := ⟨fun he => absurd he (OrderedSet.not_mem_empty e), nofun⟩
  first := rfl
  perm := .refl _
  turn_lawful := nofun

/-- What is left on an agenda is counted by what arrived and what was taken. -/
theorem Narrated.left_eq {w : Work} (h : Narrated seed turns w) {e : Edge} {rest : List Edge}
    (hagenda : w.agenda = e :: rest) :
    (rest.length : Int) = 1 + (turns.flatMap Turn.put).length - (turns.length + 1) := by
  have hlength := h.perm.length_eq
  rw [hagenda, List.length_append, List.length_map, List.length_cons, arrivals,
    List.length_cons] at hlength
  omega

/-- **A lawful turn leads to the next state**, if the state has what the turn says. -/
theorem Narrated.concat {order : AgendaOrder} {a b : Work} (h : Narrated seed turns a)
    {rest : List Edge} (hagenda : a.agenda = turn.edge :: rest) (hturn : turn.Lawful turns)
    (hlog : b.log = a.log ++ turn.events)
    (hknown : ∀ e, e ∈ b.known ↔ e ∈ a.known ∨ e ∈ turn.added)
    (hnext : b.agenda = order.enqueue rest turn.put) : Narrated seed (turns ++ [turn]) b where
  log_eq := by
    rw [hlog, h.log_eq, List.flatMap_append, List.flatMap_singleton]
  mem_known e := by
    rw [hknown, h.mem_known, List.flatMap_append, List.flatMap_singleton, List.mem_append]
  first := by
    have hfirst := h.first
    rw [hagenda] at hfirst
    rw [List.map_append, List.map_singleton, List.append_assoc, ← hfirst]
    simp only [List.singleton_append, List.head?_append, List.head?_cons]
  perm := by
    have hperm := h.perm
    rw [hagenda] at hperm
    rw [hnext, arrivals_concat, List.map_append, List.map_singleton, List.append_assoc]
    calc turns.map Turn.edge ++ ([turn.edge] ++ order.enqueue rest turn.put)
        |>.Perm (turns.map Turn.edge ++ ([turn.edge] ++ (rest ++ turn.put))) :=
          ((order.perm_enqueue rest turn.put).append_left _).append_left _
      _ = turns.map Turn.edge ++ turn.edge :: rest ++ turn.put := by simp
      _ |>.Perm (arrivals seed turns ++ turn.put) := hperm.append_right _
  turn_lawful i other hother := by
    rcases getElem?_concat_cases hother with ⟨hother, htake⟩ | ⟨rfl, rfl⟩
    · rw [htake]
      exact h.turn_lawful i other hother
    · rw [List.take_left]
      exact hturn

variable {order : AgendaOrder} {infer : Edge → List Inference}
variable {predicted completed : Edge → List Edge}

theorem map_edge_inferences (predicted completed : List Edge) :
    (predicted.map Inference.predicted ++ completed.map Inference.completed).map Inference.edge =
      predicted ++ completed := by
  rw [List.map_append, List.map_map, List.map_map]
  exact congrArg₂ _ (List.map_id predicted) (List.map_id completed)

theorem map_event_inferences (predicted completed : List Edge) :
    (predicted.map Inference.predicted ++ completed.map Inference.completed).map Inference.event =
      predicted.map Event.predicted ++ completed.map Event.completed := by
  rw [List.map_append, List.map_map, List.map_map]
  rfl

/-- **A step of the loop is a lawful turn**, when `predicted` and `completed` are what follows
from an edge, and nothing follows from an active one. -/
theorem Narrated.pops
    (hinfer : ∀ e, infer e = (predicted e).map .predicted ++ (completed e).map .completed)
    (hactive : ∀ e : Edge, e.isActive = true → infer e = []) {a b : Work}
    (h : Narrated seed turns a) (step : Work.Pops order infer a b) :
    ∃ turn rest, a.agenda = Turn.edge turn :: rest ∧
      b.agenda = order.enqueue rest turn.put ∧ Narrated seed (turns ++ [turn]) b := by
  obtain ⟨e, rest, hagenda, ⟨hknown, rfl⟩ | ⟨hnew, rfl⟩⟩ := step.cases
  · -- the edge is known, so it was added in an earlier turn
    have hlawful : (Turn.repeated e rest.length).Lawful turns :=
      ⟨iff_of_true rfl ((h.mem_known e).mp hknown), fun _ => rfl, h.left_eq hagenda⟩
    have hnext : rest = order.enqueue rest [] := by
      cases order with
      | stack => rfl
      | queue => exact (List.append_nil rest).symm
    refine ⟨.repeated e rest.length, rest, hagenda, hnext, h.concat hagenda hlawful rfl ?_ hnext⟩
    intro f
    exact (or_iff_left List.not_mem_nil).symm
  · -- the edge is new, and what follows from it is told in the turn
    have hput : (infer e).map Inference.edge = predicted e ++ completed e := by
      rw [hinfer, map_edge_inferences]
    have hlawful : (Turn.fresh e rest.length (predicted e) (completed e)).Lawful turns := by
      refine ⟨?_, fun he => ?_, h.left_eq hagenda⟩
      · exact iff_of_false Bool.false_ne_true fun he => hnew ((h.mem_known e).mpr he)
      · rw [Turn.put, ← hput, hactive e he]
        rfl
    have hnext : order.enqueue rest ((infer e).map Inference.edge) =
        order.enqueue rest (predicted e ++ completed e) := congrArg (order.enqueue rest) hput
    refine ⟨.fresh e rest.length (predicted e) (completed e), rest, hagenda, hnext,
      h.concat hagenda hlawful ?_ ?_ hnext⟩
    · show _ ++ _ :: _ :: (infer e).map Inference.event = _
      rw [hinfer, map_event_inferences]
      rfl
    · intro f
      rw [OrderedSet.mem_insert, Turn.added, List.mem_singleton, or_comm]

/-! ## The order of a stack -/

/-- Only arrivals are taken. -/
theorem LastFirst.number_lt {number : Nat → Nat} (h : LastFirst seed turns number) {i : Nat}
    (hi : i < turns.length) : number i < (arrivals seed turns).length :=
  (List.getElem?_eq_some_iff.mp (h.edge_eq i _ (List.getElem?_eq_getElem hi))).1

/-- The earlier turns keep their numbers when the next one gets its own. -/
theorem update_earlier {turns : List Turn} {number : Nat → Nat} {a m : Nat} (hm : m < turns.length) :
    Function.update number turns.length a m = number m :=
  Function.update_of_ne (Nat.ne_of_lt hm) a number

/-- What was waiting before an earlier turn, or before the next one, does not depend on the next
one. -/
theorem waitingAt_concat {number : Nat → Nat} {a i : Nat} (hi : i ≤ turns.length) :
    waitingAt seed (turns ++ [turn]) (Function.update number turns.length a) i =
      waitingAt seed turns number i := by
  unfold waitingAt
  rw [List.take_append_of_le_length hi]
  ext b
  refine and_congr_right fun _ => forall₂_congr fun m hm => ?_
  rw [update_earlier (Nat.lt_of_lt_of_le hm hi)]

/-- **A turn that takes the latest arrival keeps the order.** -/
theorem LastFirst.concat {number : Nat → Nat} (h : LastFirst seed turns number) {a : Nat}
    (hlatest : IsGreatest (waitingAt seed turns number turns.length) a)
    (hedge : (arrivals seed turns)[a]? = some turn.edge) :
    LastFirst seed (turns ++ [turn]) (Function.update number turns.length a) where
  edge_eq i other hother := by
    rw [arrivals_concat]
    rcases getElem?_concat_cases hother with ⟨hother, -⟩ | ⟨rfl, rfl⟩
    · have hi := (List.getElem?_eq_some_iff.mp hother).1
      rw [update_earlier hi, List.getElem?_append_left (h.number_lt hi)]
      exact h.edge_eq i other hother
    · rw [Function.update_self,
        List.getElem?_append_left (List.getElem?_eq_some_iff.mp hedge).1]
      exact hedge
  latest i hi := by
    rw [List.length_append, List.length_singleton] at hi
    rw [waitingAt_concat (Nat.le_of_lt_succ hi)]
    rcases Nat.lt_or_eq_of_le (Nat.le_of_lt_succ hi) with hi | rfl
    · rw [update_earlier hi]
      exact h.latest i hi
    · rw [Function.update_self]
      exact hlatest

/-- **What waits after a turn** is what waited before, without the arrival that was taken, and
what arrived in the turn. -/
theorem mem_waitingAt_concat {number : Nat → Nat} (h : LastFirst seed turns number) {a b : Nat}
    (ha : a < (arrivals seed turns).length) :
    b ∈ waitingAt seed (turns ++ [turn]) (Function.update number turns.length a)
        (turns ++ [turn]).length ↔
      (b ∈ waitingAt seed turns number turns.length ∧ b ≠ a) ∨
        ((arrivals seed turns).length ≤ b ∧
          b < (arrivals seed turns).length + turn.put.length) := by
  show (b < _ ∧ ∀ m < _, _) ↔ ((b < _ ∧ ∀ m < _, _) ∧ b ≠ a) ∨ _
  rw [List.take_length, List.take_length, arrivals_concat, List.length_append, List.length_append,
    List.length_singleton]
  constructor
  · rintro ⟨hb, hfree⟩
    by_cases hold : b < (arrivals seed turns).length
    · refine Or.inl ⟨⟨hold, fun m hm => ?_⟩, ?_⟩
      · have hearlier := hfree m (Nat.lt_succ_of_lt hm)
        rwa [update_earlier hm] at hearlier
      · have hnow := hfree turns.length (Nat.lt_succ_self _)
        rw [Function.update_self] at hnow
        exact hnow.symm
    · exact Or.inr ⟨Nat.le_of_not_lt hold, hb⟩
  · rintro (⟨⟨hb, hfree⟩, hba⟩ | ⟨hlo, hhi⟩)
    · refine ⟨Nat.lt_add_right _ hb, fun m hm => ?_⟩
      rcases Nat.lt_or_eq_of_le (Nat.le_of_lt_succ hm) with hm | rfl
      · rw [update_earlier hm]
        exact hfree m hm
      · rw [Function.update_self]
        exact hba.symm
    · -- a new arrival has a larger number than all that were taken
      refine ⟨hhi, fun m hm => ?_⟩
      rcases Nat.lt_or_eq_of_le (Nat.le_of_lt_succ hm) with hm | rfl
      · have hlt := h.number_lt hm
        rw [update_earlier hm]
        omega
      · rw [Function.update_self]
        omega

/-- **A stack after some turns**: the numbers of the arrivals that are on it, the latest one
first. -/
structure Stacked (seed : Edge) (turns : List Turn) (number : Nat → Nat) (waiting : List Nat)
    (agenda : List Edge) : Prop where
  taken : LastFirst seed turns number
  agenda_eq : waiting.map (fun a => (arrivals seed turns)[a]?) = agenda.map some
  latest_first : waiting.Pairwise (· > ·)
  mem_waiting : ∀ a, a ∈ waiting ↔ a ∈ waitingAt seed turns number turns.length

theorem stacked_start (seed : Edge) (number : Nat → Nat) : Stacked seed [] number [0] [seed] where
  taken := ⟨nofun, nofun⟩
  agenda_eq := rfl
  latest_first := List.pairwise_singleton _ _
  mem_waiting a := by
    show a ∈ [0] ↔ a < 1 ∧ _
    rw [List.mem_singleton]
    constructor
    · rintro rfl
      exact ⟨Nat.one_pos, nofun⟩
    · rintro ⟨ha, -⟩
      omega

/-- The numbers that new arrivals get stand for the new arrivals. -/
theorem map_getElem?_range'_append {α : Type} (xs ys : List α) :
    (List.range' xs.length ys.length).map (fun a => (xs ++ ys)[a]?) = ys.map some := by
  refine List.ext_getElem (by simp) fun j _ hj => ?_
  rw [List.length_map] at hj
  rw [List.getElem_map, List.getElem_range', List.getElem_map, Nat.one_mul,
    List.getElem?_append_right (Nat.le_add_right _ _), Nat.add_sub_cancel_left,
    List.getElem?_eq_getElem hj]

/-- **A stack keeps its order**: its top is the latest arrival, and what arrives is put on top. -/
theorem Stacked.concat {number : Nat → Nat} {a : Nat} {waiting : List Nat} {rest : List Edge}
    (h : Stacked seed turns number (a :: waiting) (turn.edge :: rest)) :
    Stacked seed (turns ++ [turn]) (Function.update number turns.length a)
      ((List.range' (arrivals seed turns).length turn.put.length).reverse ++ waiting)
      (AgendaOrder.stack.enqueue rest turn.put) := by
  obtain ⟨hlater, hordered⟩ := List.pairwise_cons.mp h.latest_first
  obtain ⟨hedge, hedges⟩ := List.cons.inj h.agenda_eq
  have ha := (List.getElem?_eq_some_iff.mp hedge).1
  have hbound : ∀ b ∈ waiting, b < (arrivals seed turns).length := fun b hb =>
    (hlater b hb).trans ha
  have hlatest : IsGreatest (waitingAt seed turns number turns.length) a := by
    -- the numbers on the stack fall, and what waits is on the stack
    refine ⟨(h.mem_waiting a).mp List.mem_cons_self, fun b hb => ?_⟩
    rcases List.mem_cons.mp ((h.mem_waiting b).mpr hb) with rfl | hb
    · exact Nat.le_refl b
    · exact Nat.le_of_lt (hlater b hb)
  refine ⟨h.taken.concat hlatest hedge, ?_, ?_, fun b => ?_⟩
  · have hrest : waiting.map (fun b => (arrivals seed turns ++ turn.put)[b]?) = rest.map some := by
      rw [← hedges]
      exact List.map_congr_left fun b hb => List.getElem?_append_left (hbound b hb)
    rw [AgendaOrder.enqueue, arrivals_concat, List.map_append, List.map_reverse,
      map_getElem?_range'_append, hrest, List.map_append, List.map_reverse]
  · refine List.pairwise_append.mpr ⟨List.pairwise_reverse.mpr List.pairwise_lt_range', hordered,
      fun b hb c hc => ?_⟩
    rw [List.mem_reverse, List.mem_range'_1] at hb
    exact Nat.lt_of_lt_of_le (hbound c hc) hb.1
  · have hrest : b ∈ waiting ↔ b ∈ waitingAt seed turns number turns.length ∧ b ≠ a := by
      rw [← h.mem_waiting, List.mem_cons]
      constructor
      · exact fun hb => ⟨Or.inr hb, Nat.ne_of_lt (hlater b hb)⟩
      · rintro ⟨hb, hne⟩
        exact hb.resolve_left hne
    rw [mem_waitingAt_concat h.taken ha, ← hrest, List.mem_append, List.mem_reverse,
      List.mem_range'_1, or_comm]

/-! ## Both orders -/

/-- **The order of an agenda after some turns**, with what is still there. -/
def AgendaOrder.Keeping (seed : Edge) (turns : List Turn) (agenda : List Edge) : AgendaOrder → Prop
  | queue => turns.map Turn.edge ++ agenda = arrivals seed turns
  | stack => ∃ number waiting, Stacked seed turns number waiting agenda

variable (order) in
theorem AgendaOrder.keeping_start (seed : Edge) : order.Keeping seed [] [seed] := by
  cases order with
  | stack => exact ⟨id, [0], stacked_start seed id⟩
  | queue => rfl

theorem AgendaOrder.Keeping.concat {rest : List Edge}
    (h : order.Keeping seed turns (turn.edge :: rest)) :
    order.Keeping seed (turns ++ [turn]) (order.enqueue rest turn.put) := by
  cases order with
  | stack =>
      obtain ⟨number, waiting, h⟩ := h
      cases waiting with
      | nil => cases h.agenda_eq
      | cons a waiting => exact ⟨_, _, h.concat⟩
  | queue =>
      have htaken : turns.map Turn.edge ++ turn.edge :: rest = arrivals seed turns := h
      show (turns ++ [turn]).map Turn.edge ++ (rest ++ turn.put) = arrivals seed (turns ++ [turn])
      rw [arrivals_concat, ← htaken]
      simp only [List.map_append, List.map_singleton, List.append_assoc, List.cons_append,
        List.nil_append]

/-- When the agenda is empty, all that arrived was taken in order. -/
theorem AgendaOrder.Keeping.kept (h : order.Keeping seed turns []) : order.Kept seed turns := by
  cases order with
  | stack =>
      obtain ⟨number, _, h⟩ := h
      exact ⟨number, h.taken⟩
  | queue => exact (List.append_nil _).symm.trans h

/-- **Every run of the loop can be told in turns** that keep the laws. -/
theorem Work.Runs.exists_narrated
    (hinfer : ∀ e, infer e = (predicted e).map .predicted ++ (completed e).map .completed)
    (hactive : ∀ e : Edge, e.isActive = true → infer e = []) {w : Work}
    (run : Runs order infer (start [seed]) w) :
    ∃ turns, Narrated seed turns w ∧ order.Keeping seed turns w.agenda := by
  refine run.invariant
    (P := fun w => ∃ turns, Narrated seed turns w ∧ order.Keeping seed turns w.agenda) ?_
    ⟨[], narrated_start seed, order.keeping_start seed⟩
  rintro a b ⟨turns, h, horder⟩ step
  obtain ⟨turn, rest, hagenda, hnext, hb⟩ := h.pops hinfer hactive step
  rw [hagenda] at horder
  refine ⟨turns ++ [turn], hb, ?_⟩
  rw [hnext]
  exact horder.concat

/-! ## The events of a recognition -/

variable {g : Grammar} {input : List Symbol} {stages : Array Stage}

theorem inferences_eq_nil {finder : Finder} {position : Nat} {e : Edge} (h : e.isActive = true) :
    inferences finder g stages position e = [] := by
  have hactive : ¬e.isPassive = true := by
    rw [Edge.isActive, Bool.not_eq_true'] at h
    exact Bool.eq_false_iff.mp h
  exact if_neg hactive

/-- **What is seen of a stage is a block** that keeps the laws. -/
theorem StageSpec.exists_block {k : Nat} {token : Symbol} {stage : Stage}
    (h : StageSpec order g input stages k token stage) :
    ∃ block : Block, stage.events = block.events ∧ block.position = k + 1 ∧ block.token = token ∧
      block.Lawful order := by
  obtain ⟨turns, hturns, horder⟩ := h.runs.exists_narrated (inferences_eq .indexed)
    fun e => inferences_eq_nil
  have hfirst := hturns.first
  have hperm := hturns.perm
  rw [List.append_nil] at hfirst hperm
  refine ⟨⟨k + 1, token, turns, stage.column.edges⟩, ?_, rfl, rfl, ?_⟩
  · rw [Stage.events, h.position_eq, h.token_eq, show stage.work = _ from hturns.log_eq]
    rfl
  · refine ⟨?_, hturns.turn_lawful, horder.kept, hperm, hturns.mem_known⟩
    rw [← List.head?_map]
    exact hfirst

theorem exists_block (order : AgendaOrder) (g : Grammar) (input : List Symbol) (k : Nat) :
    ∃ block : Block, ∀ stage, (recognizeBy .indexed order g input).stages[k]? = some stage →
      stage.events = block.events ∧ block.position = k + 1 ∧ input[k]? = some block.token ∧
        block.Lawful order := by
  cases hstage : (recognizeBy .indexed order g input).stages[k]? with
  | none =>
      -- there is no stage to tell of, so that any block will do
      exact ⟨⟨0, "", [], ∅⟩, nofun⟩
  | some stage =>
      obtain ⟨token, htoken, hspec⟩ := exists_token hstage
      obtain ⟨block, hevents, hposition, hblock, hlawful⟩ := hspec.exists_block
      refine ⟨block, fun other hother => ?_⟩
      cases hother
      exact ⟨hevents, hposition, htoken.trans (congrArg some hblock.symm), hlawful⟩

/-- **The events of a recognition come in blocks**, one for each token, and each block tells the
work on the position behind its token in turns. An edge is passed over exactly if it was added
before in the block; if it is added and passive, predictions and then completions may follow. The
number of edges that are left is that of all edges put on the agenda so far, less those taken from
it. The first edge taken is the lexical one; from a queue the edges are taken as they arrived, from
a stack the latest one first; every edge is taken in the end, and those that were added are the
edges that are found. -/
theorem events_eq_blocks (recognizer : Recognizer) (g : Grammar) (input : List Symbol) :
    ∃ blocks : List Block,
      (recognizer.recognize g input).events = blocks.flatMap Block.events ∧
      blocks.length = input.length ∧
      ∀ (k : Nat) (block : Block), blocks[k]? = some block →
        block.position = k + 1 ∧ input[k]? = some block.token ∧
          block.Lawful recognizer.agendaOrder := by
  choose block hblock using exists_block recognizer.agendaOrder g input
  refine ⟨(List.range input.length).map block, ?_, by simp, fun k other hother => ?_⟩
  · have hevents : (recognizer.recognize g input).stages.map Stage.events =
        (List.range input.length).map fun k => (block k).events :=
      map_stages _ fun k stage hstage => (hblock k stage hstage).1
    calc (recognizer.recognize g input).events
        = ((recognizer.recognize g input).stages.map Stage.events).flatten := List.flatMap_def
      _ = ((List.range input.length).map fun k => (block k).events).flatten := by rw [hevents]
      _ = ((List.range input.length).map block).flatMap Block.events := by
          rw [List.flatMap_map, List.flatMap_def]
  · rw [List.getElem?_map, Option.map_eq_some_iff] at hother
    obtain ⟨m, hm, rfl⟩ := hother
    obtain ⟨hk, rfl⟩ := List.getElem?_eq_some_iff.mp hm
    rw [List.length_range] at hk
    rw [List.getElem_range]
    obtain ⟨stage, hstage, -⟩ :=
      exists_stage recognizer.agendaOrder g (List.getElem?_eq_getElem hk)
    exact (hblock k stage hstage).2

end ChartParsing
