import Mathlib.Logic.Relation
import ChartParsing.Grammar

/-!
# Derivations of a grammar

A rewriting step replaces one occurrence of the left-hand side of a rule by its right-hand
side, anywhere in a string of symbols; `Grammar.Derives` is any number of steps. Terminals are
not marked off from nonterminals: every symbol may be rewritten, and every symbol may stay.

Main lemma: `derives_iff_yields`. A derivation is put together from left to right, the first
symbol being kept as a token or expanded by a rule, which is the form that the inductions over
derivations use.
-/

set_option autoImplicit false

namespace ChartParsing

/-! ## Windows of an input -/

/-- The tokens between two positions of an input. -/
def window (input : List Symbol) (i j : Nat) : List Symbol := (input.drop i).take (j - i)

/-- The whole input lies between its first and its last position. -/
theorem window_all (input : List Symbol) : window input 0 input.length = input := by
  simp [window]

theorem window_append (input : List Symbol) {i m j : Nat} (him : i ≤ m) (hmj : m ≤ j) :
    window input i m ++ window input m j = window input i j := by
  have hdrop : input.drop m = (input.drop i).drop (m - i) := by
    rw [List.drop_drop]
    congr 1
    omega
  have hlen : j - i = (m - i) + (j - m) := by omega
  rw [window, window, window, hdrop, hlen, List.take_add]

/-- The window behind a token that has a position of its own. -/
theorem window_token {input : List Symbol} {i : Nat} {t : Symbol} (h : input[i]? = some t) :
    window input i (i + 1) = [t] := by
  obtain ⟨hi, rfl⟩ := List.getElem?_eq_some_iff.mp h
  rw [window, List.drop_eq_getElem_cons hi, Nat.add_sub_cancel_left, List.take_succ_cons,
    List.take_zero]

theorem length_window {input : List Symbol} {i j : Nat} (hj : j ≤ input.length) :
    (window input i j).length = j - i := by
  rw [window, List.length_take, List.length_drop]
  omega

theorem window_prefix_drop (input : List Symbol) (i j : Nat) : window input i j <+: input.drop i :=
  List.take_prefix _ _

namespace Grammar

/-! ## Rewriting -/

/-- **A rewriting step**: some occurrence of the left-hand side of a rule is replaced. -/
inductive Rewrites (g : Grammar) : List Symbol → List Symbol → Prop
  | replace {r : Rule} (before after : List Symbol) (hr : r ∈ g.rules) :
      Rewrites g (before ++ r.lhs :: after) (before ++ r.rhs ++ after)

/-- **Derivability**: zero or more rewriting steps lead from a string to another. -/
def Derives (g : Grammar) : List Symbol → List Symbol → Prop := Relation.ReflTransGen g.Rewrites

/-- **What a string yields**, read off from left to right: each symbol is kept, or it is
expanded by a rule whose right-hand side yields something in its place. -/
inductive Yields (g : Grammar) : List Symbol → List Symbol → Prop
  | nil : Yields g [] []
  | keep (t : Symbol) {symbols tokens : List Symbol} (rest : Yields g symbols tokens) :
      Yields g (t :: symbols) (t :: tokens)
  | expand {r : Rule} {symbols part tokens : List Symbol} (hr : r ∈ g.rules)
      (inner : Yields g r.rhs part) (rest : Yields g symbols tokens) :
      Yields g (r.lhs :: symbols) (part ++ tokens)

variable {g : Grammar}

/-! ## Yields of parts -/

theorem yields_refl (symbols : List Symbol) : g.Yields symbols symbols := by
  induction symbols with
  | nil => exact .nil
  | cons s rest ih => exact .keep s ih

theorem Yields.append {a b u v : List Symbol} (ha : g.Yields a u) (hb : g.Yields b v) :
    g.Yields (a ++ b) (u ++ v) := by
  induction ha with
  | nil => exact hb
  | keep t _ ih => exact .keep t ih
  | expand hr inner _ _ ih =>
      rw [List.cons_append, List.append_assoc]
      exact .expand hr inner ih

/-- **A yield of two strings in sequence splits into a yield of each.** -/
theorem Yields.split {a b w : List Symbol} (h : g.Yields (a ++ b) w) :
    ∃ u v, w = u ++ v ∧ g.Yields a u ∧ g.Yields b v := by
  induction a generalizing w with
  | nil => exact ⟨[], w, rfl, .nil, h⟩
  | cons s a ih =>
      rw [List.cons_append] at h
      cases h with
      | keep _ rest =>
          obtain ⟨u, v, rfl, hu, hv⟩ := ih rest
          exact ⟨s :: u, v, rfl, .keep s hu, hv⟩
      | expand hr inner rest =>
          obtain ⟨u, v, rfl, hu, hv⟩ := ih rest
          exact ⟨_ ++ u, v, (List.append_assoc _ _ _).symm, .expand hr inner hu, hv⟩

/-- A rule turns what its right-hand side yields into what its left-hand side yields. -/
theorem Yields.of_rule {r : Rule} {w : List Symbol} (hr : r ∈ g.rules) (h : g.Yields r.rhs w) :
    g.Yields [r.lhs] w := by
  have := Yields.expand hr h (.nil (g := g))
  rwa [List.append_nil] at this

/-! ## Yields and derivations -/

theorem Derives.append_left {u v : List Symbol} (h : g.Derives u v) (a : List Symbol) :
    g.Derives (a ++ u) (a ++ v) := by
  induction h with
  | refl => exact .refl
  | tail _ step ih =>
      obtain ⟨before, after, hr⟩ := step
      refine ih.tail ?_
      simpa only [List.append_assoc] using Rewrites.replace (a ++ before) after hr

theorem Derives.append_right {u v : List Symbol} (h : g.Derives u v) (b : List Symbol) :
    g.Derives (u ++ b) (v ++ b) := by
  induction h with
  | refl => exact .refl
  | tail _ step ih =>
      obtain ⟨before, after, hr⟩ := step
      refine ih.tail ?_
      simpa only [List.append_assoc, List.cons_append] using
        Rewrites.replace before (after ++ b) hr

theorem Yields.derives {symbols w : List Symbol} (h : g.Yields symbols w) :
    g.Derives symbols w := by
  induction h with
  | nil => exact .refl
  | keep t _ ih => exact Derives.append_left ih [t]
  | @expand r symbols part tokens hr _ _ ihInner ihRest =>
      have first : g.Derives (r.lhs :: symbols) (r.rhs ++ symbols) :=
        .single (Rewrites.replace [] symbols hr)
      have inner : g.Derives (r.rhs ++ symbols) (part ++ symbols) :=
        Derives.append_right ihInner symbols
      have rest : g.Derives (part ++ symbols) (part ++ tokens) := Derives.append_left ihRest part
      exact (first.trans inner).trans rest

/-- Undoing a rewriting step keeps a yield: the replaced occurrence is expanded again. -/
theorem Rewrites.yields {u v w : List Symbol} (step : g.Rewrites u v) (h : g.Yields v w) :
    g.Yields u w := by
  obtain ⟨before, after, hr⟩ := step
  rw [List.append_assoc] at h
  obtain ⟨x, y, rfl, hbefore, hy⟩ := Yields.split h
  obtain ⟨p, z, rfl, hp, hafter⟩ := Yields.split hy
  exact hbefore.append (.expand hr hp hafter)

/-- **Derivations and yields are the same**, so a derivation may be taken apart from the left. -/
theorem derives_iff_yields {u w : List Symbol} : g.Derives u w ↔ g.Yields u w := by
  refine ⟨fun h => ?_, Yields.derives⟩
  induction h using Relation.ReflTransGen.head_induction_on with
  | refl => exact yields_refl w
  | head step _ ih => exact step.yields ih

end Grammar

/-! ## A small grammar -/

/-- A grammar that is ambiguous and left-recursive, and that expands a token. -/
def doubling : Grammar := .ofRules [.of "S" "S" ["S"], .of "S" "a" [], .of "a" "b" []]

theorem doubling_yields_token : doubling.Yields ["S"] ["a"] := by
  have hsingle : Rule.of "S" "a" [] ∈ doubling.rules := by decide
  exact .of_rule hsingle (.keep "a" .nil)

theorem doubling_derives : doubling.Derives ["S"] ["a", "b"] := by
  have hdouble : Rule.of "S" "S" ["S"] ∈ doubling.rules := by decide
  have hsingle : Rule.of "S" "a" [] ∈ doubling.rules := by decide
  have htoken : Rule.of "a" "b" [] ∈ doubling.rules := by decide
  have hright : doubling.Yields ["S"] ["b"] :=
    .of_rule hsingle (.of_rule htoken (.keep "b" .nil))
  exact (Grammar.Yields.of_rule hdouble (doubling_yields_token.append hright)).derives

end ChartParsing
