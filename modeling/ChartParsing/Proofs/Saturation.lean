import Mathlib.Algebra.Order.Ring.Nat
import Mathlib.Data.List.Perm.Subperm
import ChartParsing.Proofs.AgendaLoop
import ChartParsing.Proofs.Tally

/-!
# What an agenda is worked off to

`Reached` is the closure of the edges on the first agenda under inference. A run of the loop
that ends with an empty agenda knows exactly these edges, in whatever order the agenda was
worked off (`Work.Runs.known_iff`), and the number of things that happened on the way is
fixed by them as well (`Work.Runs.tally_log`).

`saturate_done`: with a budget for all edges that can be reached nothing stays pending.
-/

set_option autoImplicit false

namespace ChartParsing

/-- **The edges that inference leads to** from the edges of a list. -/
inductive Reached (infer : Edge → List Inference) (seeds : List Edge) : Edge → Prop
  | seed {e : Edge} (he : e ∈ seeds) : Reached infer seeds e
  | follow {e : Edge} {x : Inference} (he : Reached infer seeds e) (hx : x ∈ infer e) :
      Reached infer seeds x.edge

namespace Work

variable {order : AgendaOrder} {infer : Edge → List Inference} {seeds : List Edge}

/-! ## The edges that get known -/

/-- An edge was seen once it is known or on the agenda. -/
def Seen (w : Work) (e : Edge) : Prop := e ∈ w.known ∨ e ∈ w.agenda

/-- **The invariant of the loop**: the edges seen are reached, and they lack nothing but what
follows from the edges on the agenda. -/
structure Saturating (infer : Edge → List Inference) (seeds : List Edge) (w : Work) : Prop where
  /-- Only reached edges were seen. -/
  reached : ∀ e, w.Seen e → Reached infer seeds e
  /-- No edge of the first agenda was lost. -/
  seeds_seen : ∀ e ∈ seeds, w.Seen e
  /-- What follows from a known edge was seen. -/
  follow_seen : ∀ e ∈ w.known, ∀ x ∈ infer e, w.Seen x.edge

theorem saturating_start : Saturating infer seeds (start seeds) where
  reached e he := by
    rcases he with he | he
    · exact absurd he (OrderedSet.not_mem_empty e)
    · exact .seed he
  seeds_seen e he := Or.inr he
  follow_seen e he := absurd he (OrderedSet.not_mem_empty e)

/-- After a step the same edges are seen, with those that follow from a new edge. -/
theorem Pops.seen_iff {a b : Work} (step : Pops order infer a b) :
    ∃ e, a.Seen e ∧ e ∈ b.known ∧ (∀ f, f ∈ b.known ↔ f = e ∨ f ∈ a.known) ∧
      ((e ∈ a.known ∧ ∀ f, b.Seen f ↔ a.Seen f) ∨
        ∀ f, b.Seen f ↔ a.Seen f ∨ ∃ x ∈ infer e, x.edge = f) := by
  obtain ⟨e, rest, hagenda, ⟨hknown, rfl⟩ | ⟨-, rfl⟩⟩ := step.cases
  · refine ⟨e, Or.inl hknown, hknown, fun f => ?_, Or.inl ⟨hknown, fun f => ?_⟩⟩
    · exact ⟨Or.inr, fun h => h.elim (fun h => h ▸ hknown) id⟩
    · simp only [Seen, hagenda, List.mem_cons]
      constructor
      · rintro (h | h)
        · exact Or.inl h
        · exact Or.inr (Or.inr h)
      · rintro (h | rfl | h)
        · exact Or.inl h
        · exact Or.inl hknown
        · exact Or.inr h
  · refine ⟨e, Or.inr (by simp [hagenda]), OrderedSet.mem_insert.mpr (Or.inl rfl),
      fun f => OrderedSet.mem_insert, Or.inr fun f => ?_⟩
    simp only [Seen, hagenda, OrderedSet.mem_insert, AgendaOrder.mem_enqueue, List.mem_map,
      List.mem_cons]
    tauto

/-- **A step keeps the invariant.** -/
theorem Saturating.pops {a b : Work} (h : Saturating infer seeds a) (step : Pops order infer a b) :
    Saturating infer seeds b := by
  obtain ⟨e, hseen, -, hknown, ⟨he, hsame⟩ | hmore⟩ := step.seen_iff
  · -- a known edge was passed over
    refine ⟨fun f hf => h.reached f ((hsame f).mp hf), fun f hf => ?_, fun f hf x hx => ?_⟩
    · exact (hsame f).mpr (h.seeds_seen f hf)
    · have hf' : f ∈ a.known := ((hknown f).mp hf).elim (fun h => h ▸ he) id
      exact (hsame x.edge).mpr (h.follow_seen f hf' x hx)
  · -- a new edge was added, and what follows from it was put on the agenda
    refine ⟨fun f hf => ?_, fun f hf => ?_, fun f hf x hx => ?_⟩
    · rcases (hmore f).mp hf with hf | ⟨x, hx, rfl⟩
      · exact h.reached f hf
      · exact .follow (h.reached e hseen) hx
    · exact (hmore f).mpr (Or.inl (h.seeds_seen f hf))
    · rcases (hknown f).mp hf with rfl | hf
      · exact (hmore x.edge).mpr (Or.inr ⟨x, hx, rfl⟩)
      · exact (hmore x.edge).mpr (Or.inl (h.follow_seen f hf x hx))

theorem Runs.saturating {w : Work} (run : Runs order infer (start seeds) w) :
    Saturating infer seeds w :=
  run.invariant (fun _ _ h step => h.pops step) saturating_start

/-- **An agenda that was worked off has led to all edges that can be reached**, and to no
others. -/
theorem Runs.known_iff {w : Work} (run : Runs order infer (start seeds) w)
    (hdone : w.agenda = []) {e : Edge} : e ∈ w.known ↔ Reached infer seeds e := by
  have inv := run.saturating
  have hseen : ∀ f, w.Seen f ↔ f ∈ w.known := fun f => by simp [Seen, hdone]
  refine ⟨fun h => inv.reached e (Or.inl h), fun h => ?_⟩
  induction h with
  | seed he => exact (hseen _).mp (inv.seeds_seen _ he)
  | follow _ hx ih => exact (hseen _).mp (inv.follow_seen _ ih _ hx)

/-! ## The number of steps and of inferences -/

/-- **The invariant of the counts**, when `predicted` and `completed` are what follows from an
edge: every edge that was put on the agenda was taken from it or is still there, and what
follows from an edge was put there once, when the edge was added. -/
structure Counted (predicted completed : Edge → List Edge) (seeds : List Edge) (w : Work) :
    Prop where
  popped : (Statistics.tally w.log).edgesPopped + w.agenda.length = seeds.length +
    ((w.known.toList.map fun e => (predicted e).length).sum +
      (w.known.toList.map fun e => (completed e).length).sum)
  added : (Statistics.tally w.log).edgesAdded = w.known.size
  duplicates : (Statistics.tally w.log).edgesPopped =
    (Statistics.tally w.log).edgesAdded + (Statistics.tally w.log).duplicates
  predictions : (Statistics.tally w.log).predictions =
    (w.known.toList.map fun e => (predicted e).length).sum
  completions : (Statistics.tally w.log).completions =
    (w.known.toList.map fun e => (completed e).length).sum
  positionSizes : (Statistics.tally w.log).positionSizes = []

variable {predicted completed : Edge → List Edge}

theorem counted_start : Counted predicted completed seeds (start seeds) where
  popped := Nat.zero_add _
  added := rfl
  duplicates := rfl
  predictions := rfl
  completions := rfl
  positionSizes := rfl

/-- The sum over the known edges grows by the summand of a new edge. -/
theorem sum_insert {known : EdgeSet} {e : Edge} (h : e ∉ known) (f : Edge → Nat) :
    ((known.insert e).toList.map f).sum = f e + (known.toList.map f).sum := by
  rw [((OrderedSet.perm_insert h).map f).sum_nat, List.map_cons, List.sum_cons]

/-- **A step keeps the counts.** -/
theorem Counted.pops
    (hinfer : ∀ e, infer e = (predicted e).map .predicted ++ (completed e).map .completed)
    {a b : Work} (h : Counted predicted completed seeds a) (step : Pops order infer a b) :
    Counted predicted completed seeds b := by
  obtain ⟨e, rest, hagenda, ⟨-, rfl⟩ | ⟨hnew, rfl⟩⟩ := step.cases
  all_goals
    have hpopped := h.popped
    have hadded := h.added
    have hduplicates := h.duplicates
    rw [hagenda, List.length_cons] at hpopped
  · have htally : Statistics.tally (a.log ++ [.popped e rest.length, .duplicated e]) =
        Statistics.tally a.log + { edgesPopped := 1, duplicates := 1 } :=
      Statistics.tally_append _ _
    constructor <;> simp only [htally, Statistics.edgesPopped_add, Statistics.edgesAdded_add,
      Statistics.duplicates_add, Statistics.predictions_add, Statistics.completions_add,
      Statistics.positionSizes_add]
    · omega
    · exact hadded
    · omega
    · exact h.predictions
    · exact h.completions
    · exact congrArg (· ++ []) h.positionSizes
  · have htally : Statistics.tally
          (a.log ++ .popped e rest.length :: .added e :: (infer e).map Inference.event) =
        Statistics.tally a.log + ({ edgesPopped := 1, edgesAdded := 1 } +
          { predictions := (predicted e).length, completions := (completed e).length }) := by
      rw [Statistics.tally_append, hinfer, ← Statistics.tally_inferences]
      exact congrArg _ (Statistics.tally_append [.popped e rest.length, .added e] _)
    constructor <;> simp only [htally, Statistics.edgesPopped_add, Statistics.edgesAdded_add,
      Statistics.duplicates_add, Statistics.predictions_add, Statistics.completions_add,
      Statistics.positionSizes_add, sum_insert hnew]
    · rw [AgendaOrder.length_enqueue, List.length_map, hinfer, List.length_append,
        List.length_map, List.length_map]
      omega
    · rw [OrderedSet.size_insert hnew]
      omega
    · omega
    · have := h.predictions
      omega
    · have := h.completions
      omega
    · exact congrArg (· ++ []) h.positionSizes

/-- **The counts hold after every run**, worked off or not. -/
theorem Runs.counted
    (hinfer : ∀ e, infer e = (predicted e).map .predicted ++ (completed e).map .completed)
    {w : Work} (run : Runs order infer (start seeds) w) : Counted predicted completed seeds w :=
  run.invariant (fun _ _ h step => h.pops hinfer step) counted_start

/-- **What happened until an agenda was worked off**, counted: it depends on the edges that were
found only, not on the order in which they were. -/
theorem Runs.tally_log
    (hinfer : ∀ e, infer e = (predicted e).map .predicted ++ (completed e).map .completed)
    {w : Work} (run : Runs order infer (start seeds) w) (hdone : w.agenda = []) :
    Statistics.tally w.log =
      { edgesPopped := seeds.length + ((w.known.toList.map fun e => (predicted e).length).sum +
          (w.known.toList.map fun e => (completed e).length).sum)
        edgesAdded := w.known.size
        duplicates := seeds.length + ((w.known.toList.map fun e => (predicted e).length).sum +
          (w.known.toList.map fun e => (completed e).length).sum) - w.known.size
        predictions := (w.known.toList.map fun e => (predicted e).length).sum
        completions := (w.known.toList.map fun e => (completed e).length).sum
        positionSizes := [] } := by
  have h : Counted predicted completed seeds w := run.counted hinfer
  have hpopped := h.popped
  have hadded := h.added
  have hduplicates := h.duplicates
  rw [hdone, List.length_nil] at hpopped
  refine Statistics.ext hpopped hadded ?_ h.predictions h.completions h.positionSizes
  rw [← hpopped, Nat.add_zero, hduplicates, hadded, Nat.add_sub_cancel_left]

/-! ## The budget -/

/-- **A budget for all edges that can be reached lasts until the agenda is empty.** -/
theorem saturate_done {all : List Edge} (hall : ∀ e, Reached infer seeds e → e ∈ all)
    {budget : Nat} (hbudget : all.length ≤ budget) :
    (saturate order infer budget ∅ seeds).pending = [] := by
  rcases saturate_pending budget ∅ seeds with
    hdone | ⟨e, hnew, hpending, hsize⟩
  · exact hdone
  · exfalso
    -- the known edges and one more are different edges, too many for the list of all
    have inv := (saturate_runs order infer budget seeds).saturating
    have hnodup : (e :: (saturate order infer budget ∅ seeds).edges.toList).Nodup :=
      List.nodup_cons.mpr ⟨hnew, OrderedSet.nodup_toList _⟩
    have hsub : e :: (saturate order infer budget ∅ seeds).edges.toList ⊆ all := by
      intro f hf
      rcases List.mem_cons.mp hf with rfl | hf
      · exact hall f (inv.reached f (Or.inr hpending))
      · exact hall f (inv.reached f (Or.inl hf))
    have hlength := (hnodup.subperm hsub).length_le
    rw [List.length_cons] at hlength
    have hzero : (∅ : EdgeSet).size = 0 := rfl
    rw [OrderedSet.size] at hsize
    omega

end Work

end ChartParsing
