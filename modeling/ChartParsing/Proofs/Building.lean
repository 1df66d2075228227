import ChartParsing.Grammar.Builder
import ChartParsing.Proofs.FirstOccurrences

/-!
# Ways to make a grammar

Build steps, a list of sides and rules that are made one by one all come down to the same list of
sides, which is read from the front: it is a list of rules if no right-hand side is empty, and the
first empty one is the error (`readSides_eq_ok_iff`, `readSides_eq_error_iff`). A draft holds what
its steps contribute, in their order (`Draft.pairs_foldl_apply`).

Main theorem: `build_agrees`.
-/

set_option autoImplicit false

namespace ChartParsing

/-! ## Sides of rules -/

/-- The two sides of a rule. -/
def Rule.sides (r : Rule) : Symbol × List Symbol := (r.lhs, r.rhs)

theorem Rule.sides_injective : Function.Injective Rule.sides := by
  intro r t h
  cases r
  cases t
  cases h
  rfl

/-- **A rule is made from its sides**, and from no others. -/
theorem Rule.make_eq_ok_iff {sides : Symbol × List Symbol} {r : Rule} :
    Rule.make sides.1 sides.2 = .ok r ↔ r.sides = sides := by
  obtain ⟨lhs, rhs⟩ := sides
  unfold make
  by_cases h : rhs = []
  · subst h
    rw [dif_pos rfl]
    constructor
    · intro hmake
      cases hmake
    · intro hsides
      exact absurd (congrArg Prod.snd hsides) r.rhs_ne_nil
  · rw [dif_neg h, Except.ok.injEq]
    constructor
    · rintro rfl
      rfl
    · intro hsides
      exact Rule.sides_injective hsides.symm

theorem Rule.make_eq_error_iff {sides : Symbol × List Symbol} {e : GrammarError} :
    Rule.make sides.1 sides.2 = .error e ↔ sides.2 = [] ∧ e = .emptyRhs sides.1 := by
  unfold make
  by_cases h : sides.2 = []
  · rw [dif_pos h, Except.error.injEq, and_iff_right h, eq_comm]
  · simp [h]

/-! ## Reading sides from the front -/

/-- The rules with these sides, up to the first pair that is no rule. -/
def readSides (pairs : List (Symbol × List Symbol)) : Except GrammarError (List Rule) :=
  pairs.mapM fun sides => Rule.make sides.1 sides.2

/-- One pair more in front is looked at first. -/
theorem readSides_cons (sides : Symbol × List Symbol) (pairs : List (Symbol × List Symbol)) :
    readSides (sides :: pairs) =
      (Rule.make sides.1 sides.2).bind fun r => (readSides pairs).map (r :: ·) := by
  rw [readSides, List.mapM_cons]
  cases Rule.make sides.1 sides.2 with
  | error e => rfl
  | ok r =>
      show (readSides pairs).bind _ = (readSides pairs).map _
      cases readSides pairs <;> rfl

/-- **The rules that are read have the given sides**, one for one. -/
theorem readSides_eq_ok_iff {pairs : List (Symbol × List Symbol)} {rules : List Rule} :
    readSides pairs = .ok rules ↔ rules.map Rule.sides = pairs := by
  induction pairs generalizing rules with
  | nil =>
      rw [List.map_eq_nil_iff]
      show Except.ok [] = Except.ok rules ↔ _
      rw [Except.ok.injEq, eq_comm]
  | cons sides pairs ih =>
      rw [readSides_cons, List.map_eq_cons_iff]
      constructor
      · intro h
        cases hr : Rule.make sides.1 sides.2 with
        | error e => rw [hr] at h; cases h
        | ok r =>
            cases hrest : readSides pairs with
            | error e => rw [hr, hrest] at h; cases h
            | ok rest =>
                rw [hr, hrest] at h
                cases h
                exact ⟨r, rest, rfl, Rule.make_eq_ok_iff.mp hr, ih.mp hrest⟩
      · rintro ⟨r, rest, rfl, hr, hrest⟩
        rw [Rule.make_eq_ok_iff.mpr hr, ih.mpr hrest]
        rfl

/-- The error is that of the pair that a search for an empty right-hand side finds. -/
theorem readSides_eq_error_iff_find? {pairs : List (Symbol × List Symbol)} {e : GrammarError} :
    readSides pairs = .error e ↔
      ∃ sides, pairs.find? (fun sides => sides.2 = []) = some sides ∧ e = .emptyRhs sides.1 := by
  induction pairs with
  | nil => simp [readSides, pure, Except.pure]
  | cons sides pairs ih =>
      rw [readSides_cons]
      cases hr : Rule.make sides.1 sides.2 with
      | error cause =>
          obtain ⟨hempty, rfl⟩ := Rule.make_eq_error_iff.mp hr
          rw [List.find?_cons_of_pos (by simpa using hempty)]
          simp [Except.bind, eq_comm]
      | ok r =>
          have hrhs : sides.2 ≠ [] := by
            rw [← Rule.make_eq_ok_iff.mp hr]
            exact r.rhs_ne_nil
          rw [List.find?_cons_of_neg (by simpa using hrhs), ← ih]
          cases readSides pairs <;> simp [Except.bind, Except.map]

/-- **The error is that of the first empty right-hand side**, whatever stands around it. -/
theorem readSides_eq_error_iff {pairs : List (Symbol × List Symbol)} {e : GrammarError} :
    readSides pairs = .error e ↔ ∃ before lhs behind, pairs = before ++ (lhs, []) :: behind ∧
      (∀ sides ∈ before, sides.2 ≠ []) ∧ e = .emptyRhs lhs := by
  simp only [readSides_eq_error_iff_find?, List.find?_eq_some_iff_append, decide_eq_true_eq]
  constructor
  · rintro ⟨⟨lhs, rhs⟩, ⟨rfl, before, behind, rfl, hbefore⟩, rfl⟩
    exact ⟨before, lhs, behind, rfl, by simpa using hbefore, rfl⟩
  · rintro ⟨before, lhs, behind, rfl, hbefore, rfl⟩
    exact ⟨(lhs, []), ⟨rfl, before, behind, rfl, by simpa using hbefore⟩, rfl⟩

/-- Sides are read to the end if no right-hand side is empty. -/
theorem exists_readSides_eq_ok_iff {pairs : List (Symbol × List Symbol)} :
    (∃ rules, readSides pairs = .ok rules) ↔ ∀ sides ∈ pairs, sides.2 ≠ [] := by
  constructor
  · rintro ⟨rules, h⟩ sides hsides
    rw [← readSides_eq_ok_iff.mp h] at hsides
    obtain ⟨r, -, rfl⟩ := List.mem_map.mp hsides
    exact r.rhs_ne_nil
  · intro h
    cases hread : readSides pairs with
    | ok rules => exact ⟨rules, rfl⟩
    | error e =>
        obtain ⟨before, lhs, behind, rfl, -, -⟩ := readSides_eq_error_iff.mp hread
        exact absurd rfl (h (lhs, []) (by simp))

/-! ## Drafts -/

namespace Draft

/-- The symbols that are added to a right-hand side one at a time are all of it. -/
theorem foldl_add (rhs added : List Symbol) :
    added.foldl (fun rhs s => rhs ++ [s]) rhs = rhs ++ added := by
  induction added generalizing rhs with
  | nil => simp
  | cons s added ih => rw [List.foldl_cons, ih, List.append_assoc, List.singleton_append]

theorem pairs_addRule (d : Draft) (lhs : Symbol) (added : List Symbol) :
    (d.addRule lhs added).pairs = d.pairs ++ [(lhs, added)] := by
  rw [addRule, foldl_add, List.nil_append]

theorem pairs_addLexicon (d : Draft) (category : Symbol) (words : List Symbol) :
    (d.addLexicon category words).pairs = d.pairs ++ words.map fun word => (category, [word]) := by
  induction words generalizing d with
  | nil => exact (List.append_nil _).symm
  | cons word words ih =>
      have hstep : d.addLexicon category (word :: words) =
          (d.addRule category [word]).addLexicon category words := rfl
      rw [hstep, ih, pairs_addRule, List.append_assoc]
      rfl

/-- **A build step adds the sides that it contributes**, behind those that are there. -/
theorem pairs_apply (d : Draft) (step : BuildStep) : (d.apply step).pairs = d.pairs ++ step.pairs := by
  cases step with
  | rule lhs added => exact d.pairs_addRule lhs added
  | production lhs rhs => exact d.pairs_addRule lhs rhs
  | lexicon category words => exact d.pairs_addLexicon category words

/-- **A draft holds what its steps contribute**, in the order of the steps. -/
theorem pairs_foldl_apply (d : Draft) (steps : List BuildStep) :
    (steps.foldl apply d).pairs = d.pairs ++ steps.flatMap BuildStep.pairs := by
  induction steps generalizing d with
  | nil => exact (List.append_nil _).symm
  | cons step steps ih => rw [List.foldl_cons, ih, pairs_apply, List.flatMap_cons, List.append_assoc]

end Draft

/-! ## Grammars -/

namespace Grammar

/-- A grammar from sides is made from the rules that are read. -/
theorem ofPairs_eq (pairs : List (Symbol × List Symbol)) :
    ofPairs pairs = (readSides pairs).map ofRules := rfl

/-- Making each rule first and collecting them afterwards comes to the same. -/
theorem collect_eq_ofPairs (pairs : List (Symbol × List Symbol)) :
    collect (pairs.map fun (lhs, rhs) => Rule.make lhs rhs) = ofPairs pairs := by
  rw [collect, List.mapM_map]
  rfl

/-- **Build steps make the grammar of the sides that they contribute.** -/
theorem build_eq_ofPairs (steps : List BuildStep) :
    build steps = ofPairs (steps.flatMap BuildStep.pairs) := by
  rw [build, Draft.finish, collect_eq_ofPairs, Draft.pairs_foldl_apply]
  rfl

/-- The rules of a grammar are told by their sides: those given, each where it occurs first. -/
theorem ofPairs_eq_ok_iff {pairs : List (Symbol × List Symbol)} {g : Grammar} :
    ofPairs pairs = .ok g ↔
      (∀ sides ∈ pairs, sides.2 ≠ []) ∧ g.rules.map Rule.sides = pairs.eraseDups := by
  have hsides : ∀ rules, readSides pairs = .ok rules →
      (ofRules rules).rules.map Rule.sides = pairs.eraseDups := by
    intro rules hread
    rw [← readSides_eq_ok_iff.mp hread, eraseDups_map Rule.sides_injective]
    rfl
  rw [ofPairs_eq, ← exists_readSides_eq_ok_iff]
  constructor
  · intro h
    cases hread : readSides pairs with
    | error e => rw [hread] at h; cases h
    | ok rules =>
        rw [hread] at h
        cases h
        exact ⟨⟨rules, rfl⟩, hsides rules hread⟩
  · rintro ⟨⟨rules, hread⟩, hg⟩
    have hrules : (ofRules rules).rules = g.rules :=
      List.map_injective_iff.mpr Rule.sides_injective ((hsides rules hread).trans hg.symm)
    rw [hread, ← eq_of_rules_eq hrules]
    rfl

/-- No grammar is made if sides cannot be read. -/
theorem ofPairs_eq_error_iff {pairs : List (Symbol × List Symbol)} {e : GrammarError} :
    ofPairs pairs = .error e ↔ readSides pairs = .error e := by
  rw [ofPairs_eq]
  cases readSides pairs <;> simp [Except.map]

/-- **All ways to make a grammar agree, errors included.** Build steps make what a list of the sides
that they contribute makes, and what rules made one by one and then collected make. It is a grammar
if no right-hand side is empty: its rules have the given sides, each where it occurs first. It is
the error for the left-hand side in front of the first empty one, whatever stands around it. A
lexicon without words contributes nothing. -/
theorem build_agrees (steps : List BuildStep) :
    let pairs := steps.flatMap BuildStep.pairs
    build steps = ofPairs pairs ∧
      build steps = collect (pairs.map fun (lhs, rhs) => Rule.make lhs rhs) ∧
      (∀ g, build steps = .ok g ↔
        (∀ sides ∈ pairs, sides.2 ≠ []) ∧ g.rules.map Rule.sides = pairs.eraseDups) ∧
      (∀ e, build steps = .error e ↔ ∃ before lhs behind, pairs = before ++ (lhs, []) :: behind ∧
        (∀ sides ∈ before, sides.2 ≠ []) ∧ e = .emptyRhs lhs) ∧
      ((∃ g, build steps = .ok g) ↔ ∀ sides ∈ pairs, sides.2 ≠ []) ∧
      ∀ category more, build (steps ++ .lexicon category [] :: more) = build (steps ++ more) := by
  intro pairs
  have hbuild : build steps = ofPairs pairs := build_eq_ofPairs steps
  refine ⟨hbuild, hbuild.trans (collect_eq_ofPairs pairs).symm, ?_, ?_, ?_, ?_⟩
  · intro g
    rw [hbuild, ofPairs_eq_ok_iff]
  · intro e
    rw [hbuild, ofPairs_eq_error_iff, readSides_eq_error_iff]
  · rw [hbuild, ofPairs_eq, ← exists_readSides_eq_ok_iff]
    cases readSides pairs <;> simp [Except.map]
  · intro category more
    rw [build_eq_ofPairs, build_eq_ofPairs, List.flatMap_append, List.flatMap_append]
    rfl

/-- Of two empty right-hand sides the first is the error; the lexicon in front of it has no words. -/
example : build [.production "S" ["a"], .lexicon "N" [], .rule "A" [], .production "B" []] =
    .error (.emptyRhs "A") := rfl

end Grammar

end ChartParsing
