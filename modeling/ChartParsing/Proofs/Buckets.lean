import ChartParsing.Grammar
import Mathlib.Data.List.Induction
import Mathlib.Data.List.Nodup

/-!
# Buckets of an index

A look-up tells what one bucket of an index holds. All buckets together hold each element that has a
key exactly once (`perm_flatMap_lookup`), so they are a partition of these elements. An index may be
filled from the front as well, with the next element, or the next number, behind those in its bucket
(`toList_buckets_fill`, `lookup_pushNumbers`).
-/

set_option autoImplicit false

namespace ChartParsing

open Std

namespace Index

variable {κ α : Type} [Ord κ] [TransOrd κ] [LawfulEqOrd κ] [DecidableEq κ]

/-! ## The keys of an index -/

omit [DecidableEq κ] in
theorem mem_keys_add {key : α → Option κ} {x : α} {index : Index κ α} {k : κ} :
    k ∈ (add key x index).buckets.keys ↔ key x = some k ∨ k ∈ index.buckets.keys := by
  unfold add
  cases key x with
  | none => simp
  | some k' => simp [TreeMap.mem_keys]

omit [DecidableEq κ] in
/-- **There is a bucket for each key of an element**, and none besides. -/
theorem mem_keys_ofList {key : α → Option κ} {xs : List α} {k : κ} :
    k ∈ (ofList key xs).buckets.keys ↔ ∃ x ∈ xs, key x = some k := by
  induction xs with
  | nil => simp [ofList, empty, TreeMap.mem_keys]
  | cons x xs ih =>
      show k ∈ (add key x (ofList key xs)).buckets.keys ↔ _
      rw [mem_keys_add, ih]
      simp

/-! ## All buckets together -/

omit [Ord κ] [TransOrd κ] [LawfulEqOrd κ] in
/-- Elements sorted into buckets, one for each key, are neither lost nor doubled. -/
theorem perm_flatMap_filter {key : α → Option κ} {keys : List κ} (hnodup : keys.Nodup) {xs : List α}
    (hkeys : ∀ x ∈ xs, ∀ k, key x = some k → k ∈ keys) :
    (keys.flatMap fun k => xs.filter fun x => key x = some k).Perm
      (xs.filter fun x => (key x).isSome) := by
  induction xs with
  | nil => simp
  | cons x xs ih =>
      have ih := ih fun y hy => hkeys y (List.mem_cons_of_mem x hy)
      cases hx : key x with
      | none => simpa [List.filter_cons, hx] using ih
      | some k =>
          -- the bucket of `x` grows in front, and those before and behind it stay
          obtain ⟨before, behind, rfl⟩ := List.append_of_mem (hkeys x List.mem_cons_self k hx)
          have hother : ∀ k' ∈ before ++ behind, k' ≠ k := by
            rintro k' hk' rfl
            exact (List.nodup_cons.mp (List.nodup_middle.mp hnodup)).1 hk'
          have hsame : ∀ part ⊆ before ++ behind,
              (part.flatMap fun k' => (x :: xs).filter fun y => key y = some k') =
                part.flatMap fun k' => xs.filter fun y => key y = some k' := by
            intro part hpart
            refine List.flatMap_congr fun k' hk' => ?_
            simp [hx, Ne.symm (hother k' (hpart hk'))]
          rw [List.flatMap_append, List.flatMap_cons] at ih ⊢
          rw [hsame before (List.subset_append_left before behind),
            hsame behind (List.subset_append_right before behind)]
          have hbucket : ((x :: xs).filter fun y => key y = some k) =
              x :: xs.filter fun y => key y = some k := by simp [hx]
          have hall : ((x :: xs).filter fun y => (key y).isSome) =
              x :: xs.filter fun y => (key y).isSome := by simp [hx]
          rw [hbucket, hall, List.cons_append]
          exact List.perm_middle.trans (ih.cons x)

/-- **The buckets are a partition of the elements that have a key.** -/
theorem perm_flatMap_lookup (key : α → Option κ) (xs : List α) :
    ((ofList key xs).buckets.keys.flatMap (ofList key xs).lookup).Perm
      (xs.filter fun x => (key x).isSome) := by
  have hlookup : (ofList key xs).lookup = fun k => xs.filter fun x => key x = some k :=
    funext (lookup_ofList key xs)
  rw [hlookup]
  exact perm_flatMap_filter TreeMap.nodup_keys fun x hx k hk => mem_keys_ofList.mpr ⟨x, hx, hk⟩

/-- **The buckets of numbers are a partition of the numbers.** -/
theorem perm_flatMap_lookup_numbered (key : α → κ) (xs : List α) :
    ((numbered key xs).buckets.keys.flatMap (numbered key xs).lookup).Perm
      (List.range xs.length) := by
  have hall : ((List.range xs.length).filter fun number => (xs[number]?.map key).isSome) =
      List.range xs.length := by
    refine List.filter_eq_self.mpr fun number hnumber => ?_
    simpa using hnumber
  rw [← hall]
  exact perm_flatMap_lookup _ _

/-! ## Filling from the front -/

/-- The index with one more element, behind those that share its key. -/
def push (index : Index κ α) (k : κ) (x : α) : Index κ α :=
  ⟨index.buckets.insert k (index.lookup k ++ [x])⟩

theorem lookup_push (index : Index κ α) (k k' : κ) (x : α) :
    (index.push k x).lookup k' = if k = k' then index.lookup k' ++ [x] else index.lookup k' := by
  unfold push lookup
  rw [TreeMap.getD_insert]
  by_cases h : k = k'
  · subst h
    simp
  · have hne : compare k k' ≠ .eq := fun heq => h (LawfulEqOrd.eq_of_compare heq)
    simp [h, hne]

omit [DecidableEq κ] in
/-- There is a bucket more at most for the key of the new element. -/
theorem mem_keys_push {index : Index κ α} {k k' : κ} {x : α} :
    k' ∈ (index.push k x).buckets.keys ↔ k = k' ∨ k' ∈ index.buckets.keys := by
  simp [push, TreeMap.mem_keys]

omit [DecidableEq κ] in
/-- What is in the buckets is told by the keys and the look-ups. -/
theorem toList_buckets_eq {index other : Index κ α}
    (hkeys : ∀ k, k ∈ index.buckets.keys ↔ k ∈ other.buckets.keys)
    (hlookup : ∀ k, index.lookup k = other.lookup k) :
    index.buckets.toList = other.buckets.toList := by
  refine TreeMap.Equiv.toList_eq (TreeMap.Equiv.of_forall_constGet?_eq fun k => ?_)
  have hlookup := hlookup k
  rw [lookup, lookup, TreeMap.getD_eq_getD_getElem?, TreeMap.getD_eq_getD_getElem?] at hlookup
  have hkeys := hkeys k
  rw [TreeMap.mem_keys, TreeMap.mem_keys, TreeMap.mem_iff_isSome_getElem?,
    TreeMap.mem_iff_isSome_getElem?] at hkeys
  cases hindex : index.buckets[k]? <;> cases hother : other.buckets[k]? <;> simp_all

/-- The index with one more element, behind those that share its key. An element without a key is
left out. -/
def file (key : α → Option κ) (index : Index κ α) (x : α) : Index κ α :=
  match key x with
  | none => index
  | some k => index.push k x

/-- The index of the elements of a list by their keys, filled from the first to the last. -/
def fill (key : α → Option κ) (xs : List α) : Index κ α := xs.foldl (file key) empty

theorem lookup_file (key : α → Option κ) (index : Index κ α) (x : α) (k : κ) :
    (file key index x).lookup k =
      if key x = some k then index.lookup k ++ [x] else index.lookup k := by
  unfold file
  cases key x with
  | none => simp
  | some k' => simp [lookup_push]

omit [DecidableEq κ] in
theorem mem_keys_file {key : α → Option κ} {index : Index κ α} {x : α} {k : κ} :
    k ∈ (file key index x).buckets.keys ↔ key x = some k ∨ k ∈ index.buckets.keys := by
  unfold file
  cases key x with
  | none => simp
  | some k' =>
      show k ∈ (index.push k' x).buckets.keys ↔ _
      rw [mem_keys_push, Option.some_inj]

omit [TransOrd κ] [LawfulEqOrd κ] [DecidableEq κ] in
theorem fill_concat (key : α → Option κ) (xs : List α) (x : α) :
    fill key (xs ++ [x]) = file key (fill key xs) x :=
  List.foldl_concat ..

theorem lookup_fill (key : α → Option κ) (xs : List α) (k : κ) :
    (fill key xs).lookup k = xs.filter fun x => key x = some k := by
  induction xs using List.reverseRecOn with
  | nil => simp [fill, empty, lookup]
  | append_singleton xs x ih =>
      rw [fill_concat, lookup_file, ih, List.filter_append]
      by_cases h : key x = some k <;> simp [h]

omit [DecidableEq κ] in
theorem mem_keys_fill {key : α → Option κ} {xs : List α} {k : κ} :
    k ∈ (fill key xs).buckets.keys ↔ ∃ x ∈ xs, key x = some k := by
  induction xs using List.reverseRecOn with
  | nil => simp [fill, empty, TreeMap.mem_keys]
  | append_singleton xs x ih =>
      rw [fill_concat, mem_keys_file, ih]
      simp [or_and_right, exists_or, or_comm]

/-- **An index filled from the front has the same buckets**, with the same elements in them. -/
theorem toList_buckets_fill (key : α → Option κ) (xs : List α) :
    (fill key xs).buckets.toList = (ofList key xs).buckets.toList := by
  refine toList_buckets_eq (fun k => ?_) fun k => ?_
  · rw [mem_keys_fill, mem_keys_ofList]
  · rw [lookup_fill, lookup_ofList]

/-- The index of the numbers of the elements of a list, filled from the first to the last. -/
def pushNumbers (key : α → κ) (xs : List α) : Index κ Nat :=
  xs.zipIdx.foldl (fun index p => index.push (key p.1) p.2) empty

/-- One element more has the next number, which comes last in its bucket. -/
theorem lookup_numbered_concat (key : α → κ) (xs : List α) (x : α) (k : κ) :
    (numbered key (xs ++ [x])).lookup k =
      if key x = k then (numbered key xs).lookup k ++ [xs.length]
      else (numbered key xs).lookup k := by
  have hsame : ∀ number ∈ List.range xs.length, decide ((xs ++ [x])[number]?.map key = some k) =
      decide (xs[number]?.map key = some k) := by
    intro number hnumber
    rw [List.getElem?_append_left (List.mem_range.mp hnumber)]
  rw [numbered, numbered, lookup_ofList, lookup_ofList, List.length_append, List.length_singleton,
    List.range_succ, List.filter_append, List.filter_congr hsame]
  by_cases h : key x = k <;> simp [h]

/-- **Both ways to fill an index of numbers give the same buckets.** -/
theorem lookup_pushNumbers (key : α → κ) (xs : List α) (k : κ) :
    (pushNumbers key xs).lookup k = (numbered key xs).lookup k := by
  induction xs using List.reverseRecOn with
  | nil => rfl
  | append_singleton xs x ih =>
      have hstep : pushNumbers key (xs ++ [x]) = (pushNumbers key xs).push (key x) xs.length := by
        simp [pushNumbers, List.zipIdx_append]
      rw [hstep, lookup_push, ih, lookup_numbered_concat]

/-- The numbers in a bucket ascend. -/
theorem pairwise_lookup_numbered (key : α → κ) (xs : List α) (k : κ) :
    ((numbered key xs).lookup k).Pairwise (· < ·) := by
  rw [numbered, lookup_ofList]
  exact List.pairwise_lt_range.filter _

end Index

end ChartParsing
