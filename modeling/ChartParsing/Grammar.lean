import ChartParsing.Index
import ChartParsing.Rule

/-!
# Grammars

A grammar is a sequence of different rules, with an index of their numbers by their first
symbol on the right. Of rules given several times the first occurrence is kept, so the
order in which rules were given is the order of the grammar.

Main lemma: `startingWith_eq_filter`, the index gives the rules that a walk over the
whole grammar would find, in the order of the grammar.
-/

set_option autoImplicit false

namespace ChartParsing

/-- A list without the repetitions of earlier elements has no element twice. -/
theorem nodup_eraseDups {α : Type} [BEq α] [LawfulBEq α] (xs : List α) : xs.eraseDups.Nodup := by
  match xs with
  | [] => exact List.nodup_nil
  | x :: xs =>
      rw [List.eraseDups_cons]
      refine List.nodup_cons.mpr ⟨fun h => ?_, nodup_eraseDups _⟩
      simpa using List.mem_eraseDups.mp h
termination_by xs.length
decreasing_by exact Nat.lt_succ_of_le (List.length_filter_le _ _)

/-! ## Grammars -/

/-- **A context-free grammar** whose rules all yield something. -/
structure Grammar where
  /-- The rules in the order in which they were first given. -/
  rules : List Rule
  /-- No rule is listed twice. -/
  nodup : rules.Nodup
  /-- The numbers of the rules by their first symbol on the right. -/
  byFirst : Index Symbol Nat
  /-- The index holds the number of each rule. -/
  byFirst_eq : byFirst = Index.numbered Rule.first rules

namespace Grammar

/-- The grammar of some rules, each where it is given first. -/
def ofRules (rules : List Rule) : Grammar :=
  ⟨rules.eraseDups, nodup_eraseDups rules, _, rfl⟩

/-- The grammar with a rule for each pair of sides; the first pair that is no rule fails. -/
def ofPairs (pairs : List (Symbol × List Symbol)) : Except GrammarError Grammar :=
  (pairs.mapM fun (lhs, rhs) => Rule.make lhs rhs).map ofRules

/-- The grammar of rules that were made one by one; the first that failed fails it. -/
def collect (rules : List (Except GrammarError Rule)) : Except GrammarError Grammar :=
  (rules.mapM id).map ofRules

def size (g : Grammar) : Nat := g.rules.length

/-- The number of symbols on the right-hand sides of all rules. -/
def rhsTotal (g : Grammar) : Nat := (g.rules.flatMap Rule.rhs).length

def isEmpty (g : Grammar) : Bool := g.rules.isEmpty

/-- The rules whose right-hand side starts with `s`, in the order of the grammar. -/
def startingWith (g : Grammar) (s : Symbol) : List Rule :=
  (g.byFirst.lookup s).filterMap fun number => g.rules[number]?

/-- The symbols that some rule expands. -/
def nonterminals (g : Grammar) : OrderedSet Symbol := OrderedSet.ofList (g.rules.map Rule.lhs)

def listing (g : Grammar) : Listing :=
  .record "Grammar" [("rules", .sequence (g.rules.map Rule.listing))]

/-- **The index agrees with a walk over all rules.** -/
theorem startingWith_eq_filter (g : Grammar) (s : Symbol) :
    g.startingWith s = g.rules.filter (fun r => r.first = s) := by
  rw [startingWith, g.byFirst_eq, Index.filterMap_lookup_numbered]

/-- A number in the index is that of a rule. -/
theorem exists_rule_of_mem_byFirst {g : Grammar} {s : Symbol} {number : Nat}
    (h : number ∈ g.byFirst.lookup s) : ∃ r, g.rules[number]? = some r ∧ r.first = s := by
  rw [g.byFirst_eq] at h
  exact Index.mem_lookup_numbered.mp h

theorem mem_startingWith {g : Grammar} {s : Symbol} {r : Rule} :
    r ∈ g.startingWith s ↔ r ∈ g.rules ∧ r.first = s := by
  rw [startingWith_eq_filter, List.mem_filter, decide_eq_true_eq]

/-- **The grammar of some rules has just these rules.** -/
theorem mem_rules_ofRules {rules : List Rule} {r : Rule} : r ∈ (ofRules rules).rules ↔ r ∈ rules :=
  List.mem_eraseDups

end Grammar

end ChartParsing
