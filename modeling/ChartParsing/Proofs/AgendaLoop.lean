import Mathlib.Logic.Relation
import ChartParsing.Recognition.Agenda

/-!
# The agenda loop, one edge at a time

`saturate` passes over several known edges at once and is given a budget. Here the same loop
takes one edge per step and has no budget: `Work.pop?` is a step, which fails when the agenda
is empty, and `Work.Runs` any number of steps.

Main lemmas: `saturate_runs`, what `saturate` returns is reached by such steps, and
`saturate_pending`, either nothing is pending or the budget went into as many new edges. What
holds of every run of the loop is proved from a step, by `Work.Runs.invariant`.
-/

set_option autoImplicit false

namespace ChartParsing

/-- **A state of the loop.** -/
structure Work where
  /-- The edges that are known. -/
  known : EdgeSet
  /-- The agenda, listed with the next edge first. -/
  agenda : List Edge
  /-- What happened so far, in order. -/
  log : List Event

namespace Work

/-- The state before the first step, with these edges on the agenda. -/
def start (seeds : List Edge) : Work := ⟨∅, seeds, []⟩

/-- The state that came of an agenda. -/
def ofSaturation (found : Saturation) : Work := ⟨found.edges, found.pending, found.events⟩

variable (order : AgendaOrder) (infer : Edge → List Inference)

/-- The state after the next edge was taken from the agenda, if there is one. -/
def pop? : Work → Option Work
  | ⟨_, [], _⟩ => none
  | ⟨known, e :: rest, log⟩ =>
    if known.contains e then
      some ⟨known, rest, log ++ [.popped e rest.length, .duplicated e]⟩
    else
      some ⟨known.insert e, order.enqueue rest ((infer e).map Inference.edge),
        log ++ .popped e rest.length :: .added e :: (infer e).map Inference.event⟩

/-- One step of the loop. -/
def Pops (a b : Work) : Prop := a.pop? order infer = some b

/-- **A run of the loop**, of any number of steps. -/
def Runs : Work → Work → Prop := Relation.ReflTransGen (Pops order infer)

variable {order : AgendaOrder} {infer : Edge → List Inference}

/-! ## Steps -/

theorem pops_known {known : EdgeSet} {e : Edge} (rest : List Edge) (log : List Event)
    (h : e ∈ known) :
    Pops order infer ⟨known, e :: rest, log⟩
      ⟨known, rest, log ++ [.popped e rest.length, .duplicated e]⟩ := by
  rw [Pops, pop?, if_pos (OrderedSet.contains_iff_mem.mpr h)]

theorem pops_new {known : EdgeSet} {e : Edge} (rest : List Edge) (log : List Event)
    (h : e ∉ known) :
    Pops order infer ⟨known, e :: rest, log⟩
      ⟨known.insert e, order.enqueue rest ((infer e).map Inference.edge),
        log ++ .popped e rest.length :: .added e :: (infer e).map Inference.event⟩ := by
  rw [Pops, pop?, if_neg (fun hc => h (OrderedSet.contains_iff_mem.mp hc))]

/-- **All that a step can do**: pass over a known edge, or add a new one and put what follows
from it on the agenda. -/
theorem Pops.cases {a b : Work} (step : Pops order infer a b) :
    ∃ e rest, a.agenda = e :: rest ∧
      ((e ∈ a.known ∧ b = ⟨a.known, rest, a.log ++ [.popped e rest.length, .duplicated e]⟩) ∨
        (e ∉ a.known ∧ b = ⟨a.known.insert e,
          order.enqueue rest ((infer e).map Inference.edge),
          a.log ++ .popped e rest.length :: .added e :: (infer e).map Inference.event⟩)) := by
  obtain ⟨known, agenda, log⟩ := a
  cases agenda with
  | nil => cases step
  | cons e rest =>
      refine ⟨e, rest, rfl, ?_⟩
      by_cases he : e ∈ known
      · exact Or.inl ⟨he, Option.some.inj (step.symm.trans (pops_known rest log he))⟩
      · exact Or.inr ⟨he, Option.some.inj (step.symm.trans (pops_new rest log he))⟩

/-- **What every step keeps holds after every run.** -/
theorem Runs.invariant {P : Work → Prop} {a b : Work}
    (hstep : ∀ c d, P c → Pops order infer c d → P d) (run : Runs order infer a b) (ha : P a) :
    P b := by
  induction run with
  | refl => exact ha
  | tail _ step ih => exact hstep _ _ ih step

/-- A run that empties the agenda leaves no other way to go: the next step is determined, so
from its first state there is no run without end. -/
theorem Runs.acc {a b : Work} (run : Runs order infer a b) (hdone : b.agenda = []) :
    Acc (fun d c => Pops order infer c d) a := by
  induction run using Relation.ReflTransGen.head_induction_on with
  | refl =>
      refine Acc.intro b fun d step => ?_
      obtain ⟨e, rest, hagenda, -⟩ := step.cases
      rw [hdone] at hagenda
      cases hagenda
  | @head a c step _ ih =>
      refine Acc.intro a fun d other => ?_
      have hsame : d = c := Option.some.inj (other.symm.trans step)
      rw [hsame]
      exact ih

/-! ## The loop with a budget -/

theorem passKnown_runs (known : EdgeSet) (agenda : List Edge) (log : List Event) :
    Runs order infer ⟨known, agenda, log⟩
      ⟨known, (passKnown known agenda).2, log ++ (passKnown known agenda).1⟩ := by
  induction agenda generalizing log with
  | nil =>
      rw [passKnown, List.append_nil]
      exact .refl
  | cons e rest ih =>
      unfold passKnown
      split
      next h =>
        have hrest := ih (log ++ [.popped e rest.length, .duplicated e])
        rw [List.append_assoc] at hrest
        exact .head (pops_known rest log (OrderedSet.contains_iff_mem.mp h)) hrest
      next =>
        rw [List.append_nil]
        exact .refl

/-- The front of the agenda that is left is new. -/
theorem not_mem_of_passKnown {known : EdgeSet} {agenda rest : List Edge} {e : Edge}
    (h : (passKnown known agenda).2 = e :: rest) : e ∉ known := by
  induction agenda with
  | nil => cases h
  | cons f agenda ih =>
      unfold passKnown at h
      split at h
      next => exact ih h
      next hf =>
        cases h
        exact fun hmem => hf (OrderedSet.contains_iff_mem.mpr hmem)

/-- What `saturate` returns is reached by the loop, behind whatever happened before. -/
theorem saturate_runs_from (budget : Nat) (known : EdgeSet) (agenda : List Edge) (log : List Event) :
    Runs order infer ⟨known, agenda, log⟩
      ⟨(saturate order infer budget known agenda).edges,
        (saturate order infer budget known agenda).pending,
        log ++ (saturate order infer budget known agenda).events⟩ := by
  induction budget generalizing known agenda log with
  | zero => exact passKnown_runs known agenda log
  | succ budget ih =>
      have pass : Runs order infer ⟨known, agenda, log⟩ _ := passKnown_runs known agenda log
      unfold saturate
      split
      next passed heq =>
        rw [heq] at pass
        exact pass
      next passed e rest heq =>
        -- the known edges in front are passed over one by one, then `e` is added
        have hnew : e ∉ known := not_mem_of_passKnown (by rw [heq])
        rw [heq] at pass
        have further := ih (known.insert e) (order.enqueue rest ((infer e).map Inference.edge))
          ((log ++ passed) ++ .popped e rest.length :: .added e :: (infer e).map Inference.event)
        have hlog : ∀ events : List Event, ((log ++ passed) ++ .popped e rest.length :: .added e ::
            (infer e).map Inference.event) ++ events = log ++ (passed ++ .popped e rest.length ::
              .added e :: ((infer e).map Inference.event ++ events)) := by
          intro events
          simp only [List.append_assoc, List.cons_append]
        rw [hlog] at further
        exact (pass.tail (pops_new rest (log ++ passed) hnew)).trans further

/-- **What `saturate` returns is reached by the loop**, with what happened in between. -/
theorem saturate_runs (order : AgendaOrder) (infer : Edge → List Inference) (budget : Nat)
    (seeds : List Edge) :
    Runs order infer (start seeds) (ofSaturation (saturate order infer budget ∅ seeds)) :=
  saturate_runs_from budget ∅ seeds []

/-- **An edge stays pending only if the whole budget went into new edges**, and then the next
edge on the agenda is new as well. -/
theorem saturate_pending (budget : Nat) (known : EdgeSet) (agenda : List Edge) :
    (saturate order infer budget known agenda).pending = [] ∨
      ∃ e, e ∉ (saturate order infer budget known agenda).edges ∧
        e ∈ (saturate order infer budget known agenda).pending ∧
        (saturate order infer budget known agenda).edges.size = known.size + budget := by
  induction budget generalizing known agenda with
  | zero =>
      cases hrest : (passKnown known agenda).2 with
      | nil => exact Or.inl hrest
      | cons e rest =>
          refine Or.inr ⟨e, not_mem_of_passKnown hrest, ?_, rfl⟩
          show e ∈ (passKnown known agenda).2
          rw [hrest]
          exact List.mem_cons_self
  | succ budget ih =>
      unfold saturate
      split
      next => exact Or.inl rfl
      next passed e rest heq =>
        have hnew : e ∉ known := not_mem_of_passKnown (by rw [heq])
        rcases ih (known.insert e) (order.enqueue rest ((infer e).map Inference.edge)) with
          hdone | ⟨f, hf, hpending, hsize⟩
        · exact Or.inl hdone
        · refine Or.inr ⟨f, hf, hpending, ?_⟩
          rw [OrderedSet.size_insert hnew] at hsize
          show (saturate order infer budget _ _).edges.size = _
          omega

end Work

end ChartParsing
