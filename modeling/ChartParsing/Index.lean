import Std.Data.TreeMap.Basic
import Std.Data.TreeMap.Lemmas

/-!
# Indexes

An `Index` answers "which elements of a list have this key?" without a walk over the list.
Its buckets keep the order of the list, and an element without a key is in none of them.
A `numbered` index holds the numbers of the elements in place of the elements.

Main lemmas: `lookup_ofList`, a look-up gives what a filter of the list would give, and
`filterMap_lookup_numbered`, so do the elements whose numbers are looked up.
-/

set_option autoImplicit false

namespace ChartParsing

open Std

/-- **An index** of elements of `α` by keys of `κ`. -/
structure Index (κ α : Type) [Ord κ] where
  /-- The elements of each key that has any, in their order. -/
  buckets : TreeMap κ (List α)

namespace Index

variable {κ α : Type} [Ord κ]

def empty : Index κ α := ⟨∅⟩

/-- The elements under a key, in their order. -/
def lookup (index : Index κ α) (k : κ) : List α := index.buckets.getD k []

/-- The index with one more element, in front of those that share its key. -/
def add (key : α → Option κ) (x : α) (index : Index κ α) : Index κ α :=
  match key x with
  | none => index
  | some k => ⟨index.buckets.insert k (x :: index.lookup k)⟩

/-- The index of the elements of a list by their keys. -/
def ofList (key : α → Option κ) (xs : List α) : Index κ α := xs.foldr (add key) empty

variable [TransOrd κ] [LawfulEqOrd κ] [DecidableEq κ]

theorem lookup_add (key : α → Option κ) (x : α) (index : Index κ α) (k : κ) :
    (add key x index).lookup k = if key x = some k then x :: index.lookup k else index.lookup k := by
  unfold add
  cases hx : key x with
  | none => simp
  | some k' =>
      by_cases hk : k' = k
      · subst hk
        simp [lookup]
      · have : compare k' k ≠ .eq := fun h => hk (LawfulEqOrd.eq_of_compare h)
        simp [lookup, TreeMap.getD_insert, this, hk]

/-- **A look-up is a filter**: the elements with the key, each once, in the order of the list. -/
theorem lookup_ofList (key : α → Option κ) (xs : List α) (k : κ) :
    (ofList key xs).lookup k = xs.filter (fun x => key x = some k) := by
  induction xs with
  | nil => simp [ofList, empty, lookup]
  | cons x xs ih =>
      have step : ofList key (x :: xs) = add key x (ofList key xs) := rfl
      rw [step, lookup_add, ih]
      by_cases h : key x = some k <;> simp [h]

/-! ## Numbers of elements -/

/-- The index of the numbers of the elements of a list, counted from 0, by their keys. -/
def numbered (key : α → κ) (xs : List α) : Index κ Nat :=
  ofList (fun number => xs[number]?.map key) (List.range xs.length)

theorem mem_lookup_numbered {key : α → κ} {xs : List α} {k : κ} {number : Nat} :
    number ∈ (numbered key xs).lookup k ↔ ∃ x, xs[number]? = some x ∧ key x = k := by
  rw [numbered, lookup_ofList, List.mem_filter, List.mem_range, decide_eq_true_eq,
    Option.map_eq_some_iff]
  refine ⟨And.right, fun h => ⟨?_, h⟩⟩
  obtain ⟨x, hx, -⟩ := h
  exact (List.getElem?_eq_some_iff.mp hx).1

omit [Ord κ] [TransOrd κ] [LawfulEqOrd κ] [DecidableEq κ] in
/-- A list is what its numbers stand for, from the first to the last. -/
theorem filterMap_getElem?_range (xs : List α) :
    (List.range xs.length).filterMap (fun number => xs[number]?) = xs := by
  induction xs with
  | nil => rfl
  | cons x xs ih =>
      rw [List.length_cons, List.range_succ_eq_map, List.filterMap_cons, List.filterMap_map]
      exact congrArg (List.cons x) ih

/-- **The numbers under a key stand for the elements with the key**, each once, in the order of
the list. -/
theorem filterMap_lookup_numbered (key : α → κ) (xs : List α) (k : κ) :
    ((numbered key xs).lookup k).filterMap (fun number => xs[number]?) =
      xs.filter (fun x => key x = k) := by
  have hkey : ∀ number : Nat, (if decide (xs[number]?.map key = some k) = true then xs[number]? else none) =
      Option.filter (fun x => key x = k) xs[number]? := by
    intro number
    cases xs[number]? with
    | none => simp
    | some x => by_cases h : key x = k <;> simp [Option.filter, h]
  calc ((numbered key xs).lookup k).filterMap (fun number => xs[number]?)
      = (List.range xs.length).filterMap (fun number =>
          Option.filter (fun x => key x = k) xs[number]?) := by
        rw [numbered, lookup_ofList, List.filterMap_filter, funext hkey]
    _ = ((List.range xs.length).filterMap (fun number => xs[number]?)).filter
          (fun x => key x = k) := List.filter_filterMap.symm
    _ = xs.filter (fun x => key x = k) := by rw [filterMap_getElem?_range]

end Index

end ChartParsing
