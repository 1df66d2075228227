import ChartParsing.EdgeSet
import ChartParsing.Proofs.EdgeOrder
import Mathlib.Data.List.Induction
import Mathlib.Data.Set.Card

/-!
# Edge sets under any history of edits

What an edit does to an edge set is told by what it does to a set without any order
(`EdgeSetEdit.heldAfter`). So after a history of edits the edge set has the members of such a set,
in edge order, and nothing else of the history is left in it: histories that end with the same
members end with the same edge set.

Main theorem: `EdgeSetEdit.history_canonical`.
-/

set_option autoImplicit false

namespace ChartParsing

open Std

/-! ## Insertions -/

namespace OrderedSet

variable {α : Type} [Ord α] [TransOrd α] [LawfulEqOrd α]

/-- A member that is inserted again changes nothing. -/
theorem insert_eq_self {s : OrderedSet α} {x : α} (h : x ∈ s) : s.insert x = s := by
  refine ext_mem fun z => ?_
  rw [mem_insert, or_iff_right_iff_imp]
  rintro rfl
  exact h

/-- **An insertion tells whether the element was new.** -/
theorem insertNew_eq_changed_iff {s : OrderedSet α} {x : α} :
    (s.insertNew x).2 = .changed ↔ x ∉ s := by
  rw [← contains_iff_mem]
  cases hx : s.contains x <;> simp [insertNew, Change.ofBool, hx]

theorem insertNew_eq_unchanged_iff {s : OrderedSet α} {x : α} :
    (s.insertNew x).2 = .unchanged ↔ x ∈ s := by
  rw [← contains_iff_mem]
  cases hx : s.contains x <;> simp [insertNew, Change.ofBool, hx]

omit [LawfulEqOrd α] in
/-- The size is the number of different members. -/
theorem size_eq_ncard (s : OrderedSet α) : s.size = {x | x ∈ s}.ncard := by
  classical
  have hfinset : {x | x ∈ s} = (s.toList.toFinset : Set α) := by
    ext x
    simp [mem_toList]
  rw [hfinset, Set.ncard_coe_finset, List.toFinset_card_of_nodup s.nodup_toList, size]

end OrderedSet

/-! ## Histories -/

namespace EdgeSetEdit

/-- **What a set without order holds after an edit.** -/
def held (before : Set Edge) : EdgeSetEdit → Set Edge
  | .clear => ∅
  | .replace edges => {e | e ∈ edges}
  | .insert e => before ∪ {e}
  | .keepPassive => {e ∈ before | e.dot = e.rhs.length}

/-- What a set without order, empty at first, holds after a history of edits. -/
def heldAfter (edits : List EdgeSetEdit) : Set Edge := edits.foldl held ∅

/-- **An edit changes the members as it changes those of a set without order.** -/
theorem mem_apply {s : EdgeSet} {edit : EdgeSetEdit} {e : Edge} :
    e ∈ (apply s edit).1 ↔ e ∈ held {e | e ∈ s} edit := by
  cases edit with
  | clear => exact iff_of_false (OrderedSet.not_mem_empty e) id
  | replace edges => exact OrderedSet.mem_ofList
  | insert f =>
      show e ∈ s.insert f ↔ e ∈ {e | e ∈ s} ∪ {f}
      rw [OrderedSet.mem_insert, or_comm]
      rfl
  | keepPassive =>
      show e ∈ s.filter Edge.isPassive ↔ e ∈ s ∧ e.dot = e.rhs.length
      rw [OrderedSet.mem_filter, Edge.isPassive_iff]

theorem run_concat (s : EdgeSet) (edits : List EdgeSetEdit) (edit : EdgeSetEdit) :
    run s (edits ++ [edit]) = (apply (run s edits) edit).1 :=
  List.foldl_concat ..

theorem heldAfter_concat (edits : List EdgeSetEdit) (edit : EdgeSetEdit) :
    heldAfter (edits ++ [edit]) = held (heldAfter edits) edit :=
  List.foldl_concat ..

/-- **The set after a history of edits has the members of a set without order.** -/
theorem setOf_mem_run (edits : List EdgeSetEdit) : {e | e ∈ run ∅ edits} = heldAfter edits := by
  induction edits using List.reverseRecOn with
  | nil => exact Set.eq_empty_of_forall_notMem OrderedSet.not_mem_empty
  | append_singleton edits edit ih =>
      ext e
      rw [run_concat, heldAfter_concat, ← ih]
      exact mem_apply

theorem mem_run {edits : List EdgeSetEdit} {e : Edge} : e ∈ run ∅ edits ↔ e ∈ heldAfter edits := by
  rw [← setOf_mem_run]
  rfl

/-- **Histories that end with the same members end with the same set**, and no others do. -/
theorem run_eq_run_iff {edits others : List EdgeSetEdit} :
    run ∅ edits = run ∅ others ↔ heldAfter edits = heldAfter others := by
  constructor
  · intro h
    rw [← setOf_mem_run, ← setOf_mem_run, h]
  · intro h
    refine OrderedSet.ext_mem fun e => ?_
    rw [mem_run, mem_run, h]

/-- **An edge set is a set in canonical form after every history of edits.** It lists its edges in
strictly ascending order, by the first part in which two of them differ. They are those that a set
without order would hold after the same edits, and so are the answers to what it contains and how
large it is. An edge that is inserted is reported as a change exactly if it was not held before, and
as no change exactly if it was, and then the set stays the same. Two histories end with equal sets,
and with the same enumeration, exactly if a set without order would hold the same after both. -/
theorem history_canonical (edits : List EdgeSetEdit) :
    let s := run ∅ edits
    s.toList.Pairwise Edge.Before ∧
    (∀ e, e ∈ s.toList ↔ e ∈ heldAfter edits) ∧
    (∀ e, s.contains e = true ↔ e ∈ heldAfter edits) ∧
    s.size = (heldAfter edits).ncard ∧
    (∀ e,
      let inserted := apply s (.insert e)
      (inserted.2 = some .changed ↔ e ∉ heldAfter edits) ∧
      (inserted.2 = some .unchanged ↔ e ∈ heldAfter edits) ∧
      (inserted.2 = some .unchanged → inserted.1 = s)) ∧
    ∀ others,
      (s = run ∅ others ↔ heldAfter edits = heldAfter others) ∧
      (s.toList = (run ∅ others).toList ↔ heldAfter edits = heldAfter others) := by
  intro s
  refine ⟨Edge.pairwise_before s, fun e => mem_run, ?_, ?_, ?_, ?_⟩
  · intro e
    rw [OrderedSet.contains_iff_mem, mem_run]
  · rw [OrderedSet.size_eq_ncard, setOf_mem_run]
  · intro e inserted
    have hunchanged : inserted.2 = some .unchanged ↔ e ∈ s :=
      Option.some_inj.trans OrderedSet.insertNew_eq_unchanged_iff
    refine ⟨?_, hunchanged.trans mem_run, fun h => OrderedSet.insert_eq_self (hunchanged.mp h)⟩
    rw [← mem_run]
    exact Option.some_inj.trans OrderedSet.insertNew_eq_changed_iff
  · intro others
    refine ⟨run_eq_run_iff, ?_⟩
    rw [← run_eq_run_iff]
    exact ⟨fun h => OrderedSet.ext_mem fun e => by rw [← OrderedSet.mem_toList, h]; rfl, congrArg _⟩

end EdgeSetEdit

end ChartParsing
