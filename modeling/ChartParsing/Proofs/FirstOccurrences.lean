import ChartParsing.Proofs.Buckets

/-!
# Rules that a grammar keeps, and its index

A grammar is made from rules that may be repeated. It keeps those that do not occur earlier
(`eraseDups_eq_filterMap`), which is what a sieve keeps that remembers the rules that came by
(`Sieve.behind_foldl`), and files the number of each under its first symbol.

Main theorem: `Grammar.ofRules_indexed`.
-/

set_option autoImplicit false

namespace ChartParsing

open Std

variable {α : Type}

/-! ## First occurrences -/

section FirstOccurrences

variable [BEq α] [LawfulBEq α]

/-- **One element more is kept if it is new**, behind those that were kept. -/
theorem eraseDups_concat (xs : List α) (x : α) :
    (xs ++ [x]).eraseDups = if x ∈ xs then xs.eraseDups else xs.eraseDups ++ [x] := by
  rw [List.eraseDups_append]
  by_cases h : x ∈ xs <;> simp [List.removeAll, List.eraseDups_cons, h]

/-- **The first occurrences are the elements that do not occur earlier**, each in its place. -/
theorem eraseDups_eq_filterMap (xs : List α) :
    xs.eraseDups =
      xs.zipIdx.filterMap fun (x, number) => if x ∈ xs.take number then none else some x := by
  induction xs using List.reverseRecOn with
  | nil => rfl
  | append_singleton xs x ih =>
      have hsame : ∀ p ∈ xs.zipIdx,
          (if p.1 ∈ (xs ++ [x]).take p.2 then none else some p.1) =
            if p.1 ∈ xs.take p.2 then none else some p.1 := by
        intro p hp
        rw [List.take_append_of_le_length (Nat.le_of_lt (List.snd_lt_of_mem_zipIdx hp))]
      rw [eraseDups_concat, ih, List.zipIdx_append, List.filterMap_append,
        List.filterMap_congr hsame]
      by_cases h : x ∈ xs <;> simp [h]

theorem sublist_eraseDups (xs : List α) : xs.eraseDups.Sublist xs := by
  induction xs using List.reverseRecOn with
  | nil => exact List.Sublist.refl _
  | append_singleton xs x ih =>
      rw [eraseDups_concat]
      split
      next => exact ih.trans (List.sublist_append_left xs [x])
      next => exact ih.append (List.Sublist.refl [x])

/-- Nothing is dropped where nothing is repeated. -/
theorem eraseDups_of_nodup {xs : List α} (h : xs.Nodup) : xs.eraseDups = xs := by
  induction xs using List.reverseRecOn with
  | nil => rfl
  | append_singleton xs x ih =>
      obtain ⟨hxs, -, hdisjoint⟩ := List.nodup_append.mp h
      have hx : x ∉ xs := fun hmem => hdisjoint x hmem x (List.mem_singleton_self x) rfl
      rw [eraseDups_concat, if_neg hx, ih hxs]

/-- Elements that are renamed one to one have their first occurrences in the same places. -/
theorem eraseDups_map {β : Type} [BEq β] [LawfulBEq β] {f : α → β} (hf : Function.Injective f)
    (xs : List α) : (xs.map f).eraseDups = xs.eraseDups.map f := by
  induction xs using List.reverseRecOn with
  | nil => rfl
  | append_singleton xs x ih =>
      have hmem : f x ∈ xs.map f ↔ x ∈ xs := List.mem_map_of_injective hf
      rw [List.map_append, List.map_singleton, eraseDups_concat, eraseDups_concat, ih]
      by_cases hx : x ∈ xs
      · rw [if_pos (hmem.mpr hx), if_pos hx]
      · rw [if_neg (mt hmem.mp hx), if_neg hx, List.map_append, List.map_singleton]

end FirstOccurrences

/-! ## Remembering what came by -/

/-- **A sieve**: the elements that came by, and those of them that were kept. -/
structure Sieve (α : Type) [Ord α] where
  seen : OrderedSet α := ∅
  kept : List α := []

namespace Sieve

variable [Ord α] [TransOrd α]

/-- The sieve behind one element more, which is kept if it was not seen before. -/
def pass (s : Sieve α) (x : α) : Sieve α :=
  match s.seen.insertNew x with
  | (seen, change) => ⟨seen, if change.isChanged then s.kept ++ [x] else s.kept⟩

variable [DecidableEq α]

/-- What a sieve holds behind the elements of a list. -/
structure Behind (s : Sieve α) (xs : List α) : Prop where
  seen : s.seen = OrderedSet.ofList xs
  kept : s.kept = xs.eraseDups

variable [LawfulEqOrd α]

theorem Behind.pass {s : Sieve α} {xs : List α} (h : s.Behind xs) (x : α) :
    (s.pass x).Behind (xs ++ [x]) := by
  have hnew : (s.seen.insertNew x).2.isChanged = !s.seen.contains x := by
    show (Change.ofBool (!s.seen.contains x)).isChanged = _
    cases s.seen.contains x <;> rfl
  have hcontains : s.seen.contains x = true ↔ x ∈ xs := by
    rw [OrderedSet.contains_iff_mem, h.seen, OrderedSet.mem_ofList]
  constructor
  case seen =>
    show s.seen.insert x = OrderedSet.ofList (xs ++ [x])
    rw [h.seen, OrderedSet.ofList, OrderedSet.ofList, List.foldl_append]
    rfl
  case kept =>
    show (if (s.seen.insertNew x).2.isChanged then s.kept ++ [x] else s.kept) = _
    rw [hnew, h.kept, eraseDups_concat]
    by_cases hx : x ∈ xs <;> simp [hcontains, hx]

/-- **A sieve keeps the first occurrences**, whatever came by. -/
theorem behind_foldl (xs : List α) : (xs.foldl Sieve.pass {} : Sieve α).Behind xs := by
  induction xs using List.reverseRecOn with
  | nil => exact ⟨rfl, rfl⟩
  | append_singleton xs x ih =>
      rw [List.foldl_append]
      exact ih.pass x

end Sieve

/-! ## Grammars -/

namespace Grammar

/-- **A grammar is made from its own rules.** -/
theorem ofRules_rules (g : Grammar) : ofRules g.rules = g := by
  obtain ⟨rules, hnodup, byFirst, rfl⟩ := g
  simp only [ofRules, eraseDups_of_nodup hnodup]

/-- Two grammars with the same rules are equal, indexes included. -/
theorem eq_of_rules_eq {g g' : Grammar} (h : g.rules = g'.rules) : g = g' := by
  rw [← ofRules_rules g, h, ofRules_rules]

/-- What is found under a symbol are the rules whose right-hand side has it in front. -/
theorem startingWith_eq_filter_head? (g : Grammar) (s : Symbol) :
    g.startingWith s = g.rules.filter fun r => r.rhs.head? = some s := by
  rw [startingWith_eq_filter]
  refine List.filter_congr fun r _ => ?_
  have hfirst : r.rhs.head? = some r.first := List.head?_eq_some_head r.rhs_ne_nil
  simp only [hfirst, Option.some.injEq]

/-- The numbers in a bucket are those of the rules that are found under its key. -/
theorem map_lookup_byFirst (g : Grammar) (s : Symbol) :
    (g.byFirst.lookup s).map (fun number => g.rules[number]?) = (g.startingWith s).map some := by
  rw [startingWith, List.map_filterMap, ← List.filterMap_eq_map]
  refine List.filterMap_congr fun number hnumber => ?_
  obtain ⟨r, hr, -⟩ := exists_rule_of_mem_byFirst hnumber
  simp [hr]

/-- The rules in all buckets are those of the grammar, in another order. -/
theorem perm_flatMap_startingWith (g : Grammar) :
    (g.byFirst.buckets.keys.flatMap g.startingWith).Perm g.rules := by
  have hperm := (Index.perm_flatMap_lookup_numbered Rule.first g.rules).filterMap
    fun number => g.rules[number]?
  rw [Index.filterMap_getElem?_range, List.filterMap_flatMap, ← g.byFirst_eq] at hperm
  exact hperm

/-- A rule is in one bucket only, that of its first symbol. -/
theorem existsUnique_startingWith {g : Grammar} {r : Rule} (h : r ∈ g.rules) :
    ∃! s, r ∈ g.startingWith s :=
  ⟨r.first, mem_startingWith.mpr ⟨h, rfl⟩, fun _ hs => (mem_startingWith.mp hs).2.symm⟩

/-- **A grammar keeps the first occurrence of each rule, and its index is exact.** Its rules are
those that do not occur earlier, in their order: a sieve keeps them, none is there twice, none is
lost, and they make the same grammar again. The index is the one that is filled from the first rule
to the last. Under a symbol it has, in ascending order, the numbers of the rules that start with the
symbol, so that these are found in the order of the grammar, each once. All buckets together are a
partition of the rules. -/
theorem ofRules_indexed (rules : List Rule) :
    let g := ofRules rules
    (g.rules = rules.zipIdx.filterMap (fun (r, number) =>
          if r ∈ rules.take number then none else some r) ∧
        g.rules = (rules.foldl Sieve.pass {} : Sieve Rule).kept ∧
        g.rules.Sublist rules ∧ g.rules.Nodup ∧ (∀ r, r ∈ g.rules ↔ r ∈ rules) ∧
        ofRules g.rules = g) ∧
      (∀ s, g.startingWith s = g.rules.filter (fun r => r.rhs.head? = some s) ∧
        (g.startingWith s).Nodup ∧
        (g.byFirst.lookup s).map (fun number => g.rules[number]?) = (g.startingWith s).map some ∧
        (g.byFirst.lookup s).Pairwise (· < ·) ∧
        g.byFirst.lookup s = (Index.pushNumbers Rule.first g.rules).lookup s) ∧
      (∀ r ∈ g.rules, ∃! s, r ∈ g.startingWith s) ∧
      (g.byFirst.buckets.keys.flatMap g.startingWith).Perm g.rules := by
  intro g
  refine ⟨⟨eraseDups_eq_filterMap rules, (Sieve.behind_foldl rules).kept.symm,
    sublist_eraseDups rules, g.nodup, fun _ => mem_rules_ofRules, ofRules_rules g⟩,
    ?_, fun _ => existsUnique_startingWith, perm_flatMap_startingWith g⟩
  intro s
  refine ⟨startingWith_eq_filter_head? g s, ?_, map_lookup_byFirst g s, ?_, ?_⟩
  · rw [startingWith_eq_filter]
    exact g.nodup.filter _
  · rw [g.byFirst_eq]
    exact Index.pairwise_lookup_numbered Rule.first g.rules s
  · rw [g.byFirst_eq, Index.lookup_pushNumbers]

/-- The second rule is the first again, and the bucket of its first symbol goes on behind it. -/
example : let g := ofRules [.of "A" "x" [], .of "A" "x" [], .of "B" "y" [], .of "C" "x" ["y"]]
    g.rules = [.of "A" "x" [], .of "B" "y" [], .of "C" "x" ["y"]] ∧
      g.byFirst.lookup "x" = [0, 2] := by
  decide +kernel

end Grammar

end ChartParsing
