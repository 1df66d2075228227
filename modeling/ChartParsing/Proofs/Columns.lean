import Mathlib.Data.List.Induction
import ChartParsing.Recognition.Recognizer
import ChartParsing.Proofs.Capacity
import ChartParsing.Proofs.Saturation

/-!
# The columns of a recognition

The work on a position looks at the columns of earlier positions only. While these hold
exactly the inferred edges that end at their positions (`Exact`), the agenda of the next
position is worked off completely, and its column is exact as well.

Main lemmas: `nextStage_spec` for the stage of one token, and `exact_stagesOf` for all of
them, by induction on the number of tokens.
-/

set_option autoImplicit false

namespace ChartParsing

/-- **The columns are exact**: each holds the inferred edges that end at its position. -/
def Exact (g : Grammar) (input : List Symbol) (stages : Array Stage) : Prop :=
  ∀ k ≤ stages.size, ∃ column, columnAt stages k = some column ∧
    ∀ e, e ∈ column.edges ↔ Inferred g input e ∧ e.stop = k

variable {g : Grammar} {input : List Symbol} {stages : Array Stage} {position : Nat}

/-! ## What follows from an edge -/

theorem mem_predictions {e f : Edge} :
    f ∈ predictions .indexed g position e ↔
      ∃ r ∈ g.rules, r.first = e.lhs ∧ Edge.predicted e.start position r = .ok f := by
  unfold predictions
  rw [List.mem_filterMap]
  constructor
  · rintro ⟨r, hr, hf⟩
    obtain ⟨hr, hfirst⟩ := Grammar.mem_startingWith.mp hr
    exact ⟨r, hr, hfirst, toOption_eq_some_iff.mp hf⟩
  · rintro ⟨r, hr, hfirst, hf⟩
    exact ⟨r, Grammar.mem_startingWith.mpr ⟨hr, hfirst⟩, toOption_eq_some_iff.mpr hf⟩

theorem mem_completions (h : Exact g input stages) {e f : Edge} (hstart : e.start ≤ stages.size) :
    f ∈ completions .indexed stages position e ↔
      ∃ w, Inferred g input w ∧ w.stop = e.start ∧ w.next? = some e.lhs ∧
        w.advance position = .ok f := by
  obtain ⟨column, hcolumn, hmem⟩ := h e.start hstart
  unfold completions
  rw [hcolumn]
  show f ∈ (column.expecting e.lhs).filterMap _ ↔ _
  rw [List.mem_filterMap]
  constructor
  · rintro ⟨w, hw, hf⟩
    obtain ⟨hw, hnext⟩ := Column.mem_expecting.mp hw
    obtain ⟨hw, hstop⟩ := (hmem w).mp hw
    exact ⟨w, hw, hstop, hnext, toOption_eq_some_iff.mp hf⟩
  · rintro ⟨w, hw, hstop, hnext, hf⟩
    exact ⟨w, Column.mem_expecting.mpr ⟨(hmem w).mpr ⟨hw, hstop⟩, hnext⟩,
      toOption_eq_some_iff.mpr hf⟩

/-- The edges that follow from an edge are its predictions and its completions. -/
theorem exists_mem_inferences {finder : Finder} {e f : Edge} :
    (∃ x ∈ inferences finder g stages position e, x.edge = f) ↔
      e.isPassive = true ∧
        (f ∈ predictions finder g position e ∨ f ∈ completions finder stages position e) := by
  unfold inferences
  split
  next hpassive =>
    simp only [List.mem_append, List.mem_map]
    constructor
    · rintro ⟨x, ⟨f, hf, rfl⟩ | ⟨f, hf, rfl⟩, rfl⟩
      · exact ⟨hpassive, Or.inl hf⟩
      · exact ⟨hpassive, Or.inr hf⟩
    · rintro ⟨-, hf | hf⟩
      · exact ⟨.predicted f, Or.inl ⟨f, hf, rfl⟩, rfl⟩
      · exact ⟨.completed f, Or.inr ⟨f, hf, rfl⟩, rfl⟩
  next hactive => simp [hactive]

/-! ## The next column -/

/-- The edges inferred at the next position are reached from the lexical edge of its token. -/
theorem Inferred.reached (h : Exact g input stages) {token : Symbol}
    (htoken : input[stages.size]? = some token) {e : Edge} (he : Inferred g input e)
    (hstop : e.stop = stages.size + 1) :
    Reached (inferences .indexed g stages (stages.size + 1)) [.lexical stages.size token] e := by
  induction he with
  | @token i t ht =>
      have hi : i = stages.size := Nat.succ.inj hstop
      rw [hi] at ht ⊢
      have hsame : t = token := Option.some.inj (ht.symm.trans htoken)
      rw [hsame]
      exact .seed List.mem_cons_self
  | @predict e f r he hpassive hr hfirst hf ih =>
      have hfstop := (Edge.predicted_eq_ok_iff.mp hf).2.1
      have heStop : e.stop = stages.size + 1 := hfstop.symm.trans hstop
      rw [heStop] at hf
      obtain ⟨x, hx, rfl⟩ := exists_mem_inferences.mpr
        ⟨hpassive, Or.inl (mem_predictions.mpr ⟨r, hr, hfirst, hf⟩)⟩
      exact .follow (ih heStop) hx
  | @complete e w f he hpassive hw hjoin hnext hf ih _ =>
      have hfstop := (Edge.advance_eq_ok_iff.mp hf).2.2.1
      have heStop : e.stop = stages.size + 1 := hfstop.symm.trans hstop
      have hspan := he.holds.span
      rw [heStop] at hf
      have hcompleted : f ∈ completions .indexed stages (stages.size + 1) e :=
        (mem_completions h (by omega)).mpr ⟨w, hw, hjoin, hnext, hf⟩
      obtain ⟨x, hx, rfl⟩ := exists_mem_inferences.mpr ⟨hpassive, Or.inr hcompleted⟩
      exact .follow (ih heStop) hx

/-- All that is reached from the lexical edge of the next token is inferred, and ends behind
the token. -/
theorem Reached.inferred (h : Exact g input stages) {token : Symbol}
    (htoken : input[stages.size]? = some token) {e : Edge}
    (he : Reached (inferences .indexed g stages (stages.size + 1))
      [.lexical stages.size token] e) :
    Inferred g input e ∧ e.stop = stages.size + 1 := by
  induction he with
  | seed he =>
      rw [List.mem_singleton.mp he]
      exact ⟨.token htoken, rfl⟩
  | @follow e x _ hx ih =>
      obtain ⟨he, hstop⟩ := ih
      have hspan := he.holds.span
      obtain ⟨hpassive, hf | hf⟩ := exists_mem_inferences.mp ⟨x, hx, rfl⟩
      · obtain ⟨r, hr, hfirst, hf⟩ := mem_predictions.mp hf
        refine ⟨.predict he hpassive hr hfirst (hstop ▸ hf), ?_⟩
        exact (Edge.predicted_eq_ok_iff.mp hf).2.1
      · obtain ⟨w, hw, hjoin, hnext, hf⟩ := (mem_completions h (by omega)).mp hf
        refine ⟨.complete he hpassive hw hjoin hnext (hstop ▸ hf), ?_⟩
        exact (Edge.advance_eq_ok_iff.mp hf).2.2.1

/-- **What is known of the stage of the token at `k`**, when the columns before it are exact:
nothing is pending, the loop ran from the lexical edge of the token to an empty agenda, and the
column holds the inferred edges that end behind the token. -/
structure StageSpec (order : AgendaOrder) (g : Grammar) (input : List Symbol)
    (stages : Array Stage) (k : Nat) (token : Symbol) (stage : Stage) : Prop where
  position_eq : stage.position = k + 1
  token_eq : stage.token = token
  pending_eq : stage.pending = []
  runs : Work.Runs order (inferences .indexed g stages (k + 1))
    (Work.start [.lexical k token]) ⟨stage.column.edges, [], stage.work⟩
  mem_column : ∀ e, e ∈ stage.column.edges ↔ Inferred g input e ∧ e.stop = k + 1

/-- **The stage of the next token is as it should be.** -/
theorem nextStage_spec (order : AgendaOrder) (h : Exact g input stages) {token : Symbol}
    (htoken : input[stages.size]? = some token) :
    StageSpec order g input stages stages.size token
      (nextStage .indexed order g stages token) := by
  have hall : ∀ e, Reached (inferences .indexed g stages (stages.size + 1))
      [.lexical stages.size token] e →
        e ∈ Edge.lexical stages.size token :: spanning g (stages.size + 1) innerDots := by
    intro e he
    obtain ⟨he, hstop⟩ := Reached.inferred h htoken he
    rcases he.mem_spanning hstop innerDots (fun _ => dot_mem_innerDots) with
      ⟨t, ht, rfl⟩ | he
    · rw [Nat.add_sub_cancel] at ht ⊢
      rw [Option.some.inj (ht.symm.trans htoken)]
      exact List.mem_cons_self
    · exact List.mem_cons_of_mem _ he
  -- all that can be reached has its place, and the budget has room for every place
  have hbudget : (Edge.lexical stages.size token ::
      spanning g (stages.size + 1) innerDots).length ≤ capacity g (stages.size + 1) := by
    have hlength := length_spanning_le g (stages.size + 1) innerDots
    rw [sum_innerDots, ← g.rhsTotal_eq_sum] at hlength
    rw [List.length_cons, capacity]
    omega
  have hdone : (saturate order (inferences .indexed g stages (stages.size + 1))
      (capacity g (stages.size + 1)) ∅ [.lexical stages.size token]).pending = [] :=
    Work.saturate_done hall hbudget
  have hruns := Work.saturate_runs order (inferences .indexed g stages (stages.size + 1))
    (capacity g (stages.size + 1)) [.lexical stages.size token]
  have hmem : ∀ e, e ∈ (nextStage .indexed order g stages token).column.edges ↔
      Inferred g input e ∧ e.stop = stages.size + 1 := fun e =>
    (hruns.known_iff hdone).trans
      ⟨Reached.inferred h htoken, fun he => he.1.reached h htoken he.2⟩
  rw [Work.ofSaturation, hdone] at hruns
  exact ⟨rfl, rfl, hdone, hruns, hmem⟩

/-! ## All columns -/

/-- No inferred edge ends at the first position. -/
theorem exact_empty : Exact g input #[] := by
  intro k hk
  rw [Nat.le_zero.mp hk]
  refine ⟨.empty, rfl, fun e => ⟨fun he => absurd he (OrderedSet.not_mem_empty e), ?_⟩⟩
  rintro ⟨he, hstop⟩
  have := he.holds.span
  omega

/-- **An exact next column keeps the columns exact.** -/
theorem Exact.push (h : Exact g input stages) {stage : Stage}
    (hstage : ∀ e, e ∈ stage.column.edges ↔ Inferred g input e ∧ e.stop = stages.size + 1) :
    Exact g input (stages.push stage) := by
  intro k hk
  rw [Array.size_push] at hk
  rcases Nat.lt_or_eq_of_le hk with hk | rfl
  · obtain ⟨column, hcolumn, hmem⟩ := h k (Nat.le_of_lt_succ hk)
    refine ⟨column, ?_, hmem⟩
    rw [← hcolumn]
    cases k with
    | zero => rfl
    | succ k => rw [columnAt, columnAt, Array.getElem?_push_lt (by omega), Array.getElem?_eq_getElem]
  · exact ⟨stage.column, by simp [columnAt], hstage⟩

theorem stagesOf_concat (finder : Finder) (order : AgendaOrder) (g : Grammar) (input : List Symbol)
    (token : Symbol) :
    stagesOf finder order g (input ++ [token]) = (stagesOf finder order g input).push
      (nextStage finder order g (stagesOf finder order g input) token) := by
  rw [stagesOf, List.foldl_append]
  rfl

/-- The tokens up to a position are those before it and the one in front of it. -/
theorem take_succ_concat {k : Nat} {token : Symbol} (h : input[k]? = some token) :
    input.take (k + 1) = input.take k ++ [token] := by
  rw [List.take_add_one, h]
  rfl

/-- The number of stages before a token. -/
theorem size_stagesOf_take (finder : Finder) (order : AgendaOrder) (g : Grammar) {k : Nat}
    (hk : k ≤ input.length) : (stagesOf finder order g (input.take k)).size = k := by
  rw [size_stagesOf, List.length_take_of_le hk]

/-- **The columns of every prefix of an input are exact**, for the edges of the whole input. -/
theorem exact_stagesOf (order : AgendaOrder) (g : Grammar) (input : List Symbol) {k : Nat}
    (hk : k ≤ input.length) : Exact g input (stagesOf .indexed order g (input.take k)) := by
  induction k with
  | zero => exact exact_empty
  | succ k ih =>
      have hprefix := ih (by omega)
      have hsize := size_stagesOf_take .indexed order g (Nat.le_of_lt hk)
      have htoken : input[k]? = some input[k] := List.getElem?_eq_getElem hk
      rw [take_succ_concat htoken, stagesOf_concat]
      exact hprefix.push (nextStage_spec order hprefix (by rw [hsize]; exact htoken)).mem_column

/-- The stage of a token is made from the stages of the tokens before it. -/
theorem getElem?_stagesOf (finder : Finder) (order : AgendaOrder) (g : Grammar)
    {input : List Symbol} {k : Nat} {token : Symbol} (h : input[k]? = some token) :
    (stagesOf finder order g input)[k]? =
      some (nextStage finder order g (stagesOf finder order g (input.take k)) token) := by
  have hk := (List.getElem?_eq_some_iff.mp h).1
  induction input using List.reverseRecOn with
  | nil => cases h
  | append_singleton input last ih =>
      rw [stagesOf_concat]
      rw [List.length_append, List.length_singleton] at hk
      rcases Nat.lt_or_eq_of_le (Nat.le_of_lt_succ hk) with hk | rfl
      · rw [List.getElem?_append_left hk] at h
        rw [Array.getElem?_push_lt (by rw [size_stagesOf]; exact hk), List.take_append_of_le_length
          (Nat.le_of_lt hk), ← ih h hk, Array.getElem?_eq_getElem]
      · rw [List.getElem?_concat_length] at h
        have hlast : (stagesOf finder order g input).size = input.length := size_stagesOf ..
        rw [← hlast, Array.getElem?_push_size, hlast, List.take_left, Option.some.inj h]

/-- **Every stage of a recognition is as it should be.** -/
theorem stage_spec (order : AgendaOrder) (g : Grammar) {input : List Symbol} {k : Nat}
    {token : Symbol} (h : input[k]? = some token) :
    ∃ stage, (stagesOf .indexed order g input)[k]? = some stage ∧
      StageSpec order g input (stagesOf .indexed order g (input.take k)) k token stage := by
  have hk := Nat.le_of_lt (List.getElem?_eq_some_iff.mp h).1
  have hsize := size_stagesOf_take .indexed order g hk
  have hspec := nextStage_spec order (exact_stagesOf order g input hk) (by rw [hsize]; exact h)
  rw [hsize] at hspec
  exact ⟨_, getElem?_stagesOf .indexed order g h, hspec⟩

end ChartParsing
