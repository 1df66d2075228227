/-!
# Sets kept in ascending order

An `OrderedSet` is a strictly ascending list, so it is its own enumeration and two sets
with the same members are equal. Insertion keeps the element that was there first, and
`insertNew` also tells whether the set changed.

Main lemmas: `mem_insert` (what an insertion holds), `ext_mem` (members determine the set).
-/

set_option autoImplicit false

namespace ChartParsing

open Std

/-! ## The outcome of an insertion -/

/-- **Whether an insertion changed a set.** `changed` comes first in the order. -/
inductive Change where
  | changed
  | unchanged
deriving DecidableEq, Ord

namespace Change

/-- The outcome for an element that was new or not. -/
def ofBool (isNew : Bool) : Change := if isNew then changed else unchanged

/-- The set now holds an element more. -/
def isChanged : Change → Bool
  | changed => true
  | unchanged => false

def display : Change → String
  | changed => "Changed"
  | unchanged => "Unchanged"

end Change

/-! ## Ascending lists -/

/-- The elements in ascending order; equal ones keep the order in which they came. -/
def sortAscending {α : Type} [Ord α] (xs : List α) : List α :=
  xs.mergeSort (fun a b => (compare a b).isLE)

/-- Insertion into an ascending list. An element equal to the new one stays in its place. -/
def insertAscending {α : Type} [Ord α] (x : α) : List α → List α
  | [] => [x]
  | y :: ys =>
    match compare x y with
    | .lt => x :: y :: ys
    | .eq => y :: ys
    | .gt => y :: insertAscending x ys

theorem mem_of_mem_insertAscending {α : Type} [Ord α] {x z : α} {ys : List α}
    (h : z ∈ insertAscending x ys) : z = x ∨ z ∈ ys := by
  induction ys with
  | nil => simpa [insertAscending] using h
  | cons y ys ih =>
      unfold insertAscending at h
      split at h
      · simpa using h
      · exact Or.inr h
      · rcases List.mem_cons.mp h with rfl | h
        · exact Or.inr List.mem_cons_self
        · rcases ih h with rfl | h
          · exact Or.inl rfl
          · exact Or.inr (List.mem_cons_of_mem _ h)

theorem pairwise_insertAscending {α : Type} [Ord α] [TransOrd α] (x : α) {ys : List α}
    (h : ys.Pairwise (fun a b => compare a b = .lt)) :
    (insertAscending x ys).Pairwise (fun a b => compare a b = .lt) := by
  induction ys with
  | nil => simp [insertAscending]
  | cons y ys ih =>
      obtain ⟨hy, hys⟩ := List.pairwise_cons.mp h
      unfold insertAscending
      split
      next hxy =>
        refine List.pairwise_cons.mpr ⟨fun z hz => ?_, h⟩
        rcases List.mem_cons.mp hz with rfl | hz
        · exact hxy
        · exact TransCmp.lt_trans hxy (hy z hz)
      next => exact h
      next hxy =>
        refine List.pairwise_cons.mpr ⟨fun z hz => ?_, ih hys⟩
        rcases mem_of_mem_insertAscending hz with rfl | hz
        · exact OrientedCmp.lt_of_gt hxy
        · exact hy z hz

/-! ## Ordered sets -/

/-- **A finite set in canonical form**: its members in strictly ascending order. -/
structure OrderedSet (α : Type) [Ord α] where
  /-- The members in ascending order. -/
  toList : List α
  /-- No two members are equal, and each stands before all larger ones. -/
  ascending : toList.Pairwise (fun a b => compare a b = .lt)

namespace OrderedSet

variable {α : Type} [Ord α]

def empty : OrderedSet α := ⟨[], List.Pairwise.nil⟩

instance : EmptyCollection (OrderedSet α) := ⟨empty⟩

instance : Membership α (OrderedSet α) := ⟨fun s x => x ∈ s.toList⟩

instance [DecidableEq α] : DecidableEq (OrderedSet α) := fun s t =>
  decidable_of_iff (s.toList = t.toList)
    ⟨fun h => by cases s; cases t; cases h; rfl, fun h => h ▸ rfl⟩

def size (s : OrderedSet α) : Nat := s.toList.length

def isEmpty (s : OrderedSet α) : Bool := s.toList.isEmpty

/-- Some member compares equal to `x`. -/
def contains (s : OrderedSet α) (x : α) : Bool := s.toList.any (fun y => compare x y == .eq)

/-- The members that satisfy `p`. -/
def filter (p : α → Bool) (s : OrderedSet α) : OrderedSet α :=
  ⟨s.toList.filter p, s.ascending.filter p⟩

/-! ## Members -/

theorem mem_toList {s : OrderedSet α} {x : α} : x ∈ s.toList ↔ x ∈ s := Iff.rfl

theorem not_mem_empty (x : α) : x ∉ (∅ : OrderedSet α) := List.not_mem_nil

theorem mem_filter {p : α → Bool} {s : OrderedSet α} {x : α} :
    x ∈ s.filter p ↔ x ∈ s ∧ p x = true := List.mem_filter

/-! ## Insertion -/

variable [TransOrd α]

/-- No member is listed twice. -/
theorem nodup_toList (s : OrderedSet α) : s.toList.Nodup :=
  s.ascending.imp fun hab e => by simp [e] at hab

/-- The set with `x`. A member equal to `x` stays, and `x` is dropped. -/
def insert (s : OrderedSet α) (x : α) : OrderedSet α :=
  ⟨insertAscending x s.toList, pairwise_insertAscending x s.ascending⟩

/-- The set with `x`, and whether `x` was new. -/
def insertNew (s : OrderedSet α) (x : α) : OrderedSet α × Change :=
  (s.insert x, Change.ofBool (!s.contains x))

/-- The set with all of `xs`, and for each of them whether it was new. -/
def insertEach (s : OrderedSet α) : List α → OrderedSet α × List Change
  | [] => (s, [])
  | x :: xs =>
    let (s, change) := s.insertNew x
    let (s, changes) := s.insertEach xs
    (s, change :: changes)

/-- The set of the elements of a list; of equal ones the first is kept. -/
def ofList (xs : List α) : OrderedSet α := xs.foldl insert empty

/-! ## Members determine the set -/

variable [LawfulEqOrd α]

omit [TransOrd α] in
theorem contains_iff_mem {s : OrderedSet α} {x : α} : s.contains x = true ↔ x ∈ s := by
  simp [contains, ← mem_toList]

omit [TransOrd α] in
theorem mem_insertAscending {x z : α} {ys : List α} :
    z ∈ insertAscending x ys ↔ z = x ∨ z ∈ ys := by
  refine ⟨mem_of_mem_insertAscending, fun h => ?_⟩
  induction ys with
  | nil => simpa [insertAscending] using h
  | cons y ys ih =>
      unfold insertAscending
      split
      next => simpa using h
      next hxy =>
        rcases h with rfl | h
        · exact LawfulEqOrd.eq_of_compare hxy ▸ List.mem_cons_self
        · exact h
      next =>
        rcases h with rfl | h
        · exact List.mem_cons_of_mem _ (ih (Or.inl rfl))
        · rcases List.mem_cons.mp h with rfl | h
          · exact List.mem_cons_self
          · exact List.mem_cons_of_mem _ (ih (Or.inr h))

/-- **An insertion adds one element and loses none.** -/
theorem mem_insert {s : OrderedSet α} {x z : α} : z ∈ s.insert x ↔ z = x ∨ z ∈ s :=
  mem_insertAscending

omit [TransOrd α] in
/-- A new element is put between the members, which keep their order. -/
theorem perm_insertAscending {x : α} {ys : List α} (h : x ∉ ys) :
    (insertAscending x ys).Perm (x :: ys) := by
  induction ys with
  | nil => exact List.Perm.refl _
  | cons y ys ih =>
      unfold insertAscending
      split
      next => exact List.Perm.refl _
      next hxy => exact absurd (LawfulEqOrd.eq_of_compare hxy ▸ List.mem_cons_self) h
      next =>
        have hys : x ∉ ys := fun hx => h (List.mem_cons_of_mem y hx)
        exact ((ih hys).cons y).trans (List.Perm.swap x y ys)

theorem perm_insert {s : OrderedSet α} {x : α} (h : x ∉ s) :
    (s.insert x).toList.Perm (x :: s.toList) :=
  perm_insertAscending h

theorem size_insert {s : OrderedSet α} {x : α} (h : x ∉ s) : (s.insert x).size = s.size + 1 :=
  (perm_insert h).length_eq

/-- **A set made from a list has the elements of the list.** -/
theorem mem_ofList {xs : List α} {z : α} : z ∈ ofList xs ↔ z ∈ xs := by
  have grows : ∀ (xs : List α) (s : OrderedSet α), z ∈ xs.foldl insert s ↔ z ∈ s ∨ z ∈ xs := by
    intro xs
    induction xs with
    | nil => intro s; simp
    | cons x xs ih =>
        intro s
        rw [List.foldl_cons, ih, mem_insert, List.mem_cons]
        constructor
        · rintro ((h | h) | h)
          · exact Or.inr (Or.inl h)
          · exact Or.inl h
          · exact Or.inr (Or.inr h)
        · rintro (h | h | h)
          · exact Or.inl (Or.inr h)
          · exact Or.inl (Or.inl h)
          · exact Or.inr h
  rw [ofList, grows]
  exact or_iff_right (not_mem_empty z)

omit [LawfulEqOrd α] in
/-- **Two sets with the same members are equal**, and so are their enumerations. -/
theorem ext_mem {s t : OrderedSet α} (h : ∀ x, x ∈ s ↔ x ∈ t) : s = t := by
  have perm : s.toList.Perm t.toList :=
    (List.perm_ext_iff_of_nodup s.nodup_toList t.nodup_toList).mpr h
  have antisymm (a b : α) (hab : compare a b = .lt) (hba : compare b a = .lt) : a = b :=
    absurd hab (OrientedCmp.not_lt_of_lt hba)
  have lists : s.toList = t.toList :=
    perm.eq_of_pairwise (fun a b _ _ => antisymm a b) s.ascending t.ascending
  cases s; cases t; cases lists; rfl

end OrderedSet

end ChartParsing
