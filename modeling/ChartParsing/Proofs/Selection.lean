import ChartParsing.Chart.View
import ChartParsing.Proofs.Positions

/-!
# Positions that a view selects

A view compares the index of a position with the words that were given, and with their distances
from the end; a query turns a word into an index. Both compute in words of 64 bits, and in different
ways. For a chart whose length fits into a signed word neither computation leaves the range of the
words (`ExactWords`), so that both mean the same positions.

Main theorem: `selects_iff_resolve`.
-/

set_option autoImplicit false

namespace ChartParsing

/-! ## Operations on words -/

/-- **No operation on words goes wrong** when a position is resolved, or compared with an index. -/
structure ExactWords (length index : Nat) (position : Int64) : Prop where
  /-- The numbers do not change when they are turned into signed words. -/
  toInt_length : (Int64.ofNat length).toInt = length
  toInt_index : (Int64.ofNat index).toInt = index
  /-- The sum is only computed for a negative position. -/
  add : position < 0 → (Int64.ofNat length).toBitVec.saddOverflow position.toBitVec = false
  sub : (Int64.ofNat index).toBitVec.ssubOverflow (Int64.ofNat length).toBitVec = false
  /-- An index is turned into an unsigned word only if it is not negative. -/
  toNat_signedIndex : 0 ≤ signedIndex length position →
    ((signedIndex length position).toNatClampNeg : Int) = meantIndex length position.toInt

variable {length index : Nat}

theorem exactWords (h : length < 2 ^ 63) (hindex : index < length) (position : Int64) :
    ExactWords length index position := by
  have hlo := position.le_toInt
  have hlength : (Int64.ofNat length).toInt = length := Int64.toInt_ofNat_of_lt h
  have hofNat : (Int64.ofNat index).toInt = index := Int64.toInt_ofNat_of_lt (hindex.trans h)
  constructor
  case toInt_length => exact hlength
  case toInt_index => exact hofNat
  case add =>
    intro hneg
    rw [Int64.lt_iff_toInt_lt, Int64.toInt_zero] at hneg
    rw [BitVec.saddOverflow, Int64.toInt_toBitVec, Int64.toInt_toBitVec, hlength,
      Bool.or_eq_false_iff, decide_eq_false_iff_not, decide_eq_false_iff_not]
    omega
  case sub =>
    rw [BitVec.ssubOverflow, Int64.toInt_toBitVec, Int64.toInt_toBitVec, hlength, hofNat,
      Bool.or_eq_false_iff, decide_eq_false_iff_not, decide_eq_false_iff_not]
    omega
  case toNat_signedIndex =>
    intro hnonneg
    rw [Int64.le_iff_toInt_le, Int64.toInt_zero] at hnonneg
    rw [Int64.toNatClampNeg, Int.toNat_of_nonneg hnonneg, toInt_signedIndex h]

/-- The position that a view computes from the end is the integer that is meant. -/
theorem toInt_positionFromEnd (h : length < 2 ^ 63) (hindex : index < length) :
    (positionFromEnd length index).toInt = index - length := by
  -- the difference does not depend on the position that is compared with it
  have hwords := exactWords h hindex 0
  have hsub := BitVec.toInt_sub_of_not_ssubOverflow (Bool.eq_false_iff.mp hwords.sub)
  rw [Int64.toInt_toBitVec, Int64.toInt_toBitVec, hwords.toInt_index, hwords.toInt_length] at hsub
  rw [positionFromEnd, ← hsub, ← Int64.toBitVec_sub, Int64.toInt_toBitVec]

/-- **Two words mean an index**, one from the start and one from the end. -/
theorem eq_meantIndex_iff (h : length < 2 ^ 63) (hindex : index < length) {position : Int64} :
    (index : Int) = meantIndex length position.toInt ↔
      position = Int64.ofNat index ∨ position = positionFromEnd length index := by
  rw [← Int64.toInt_inj, ← Int64.toInt_inj, toInt_positionFromEnd h hindex,
    Int64.toInt_ofNat_of_lt (hindex.trans h), meantIndex]
  split <;> omega

/-- They are not the same word. -/
theorem ofNat_ne_positionFromEnd (h : length < 2 ^ 63) (hindex : index < length) :
    Int64.ofNat index ≠ positionFromEnd length index := by
  intro heq
  have hends := congrArg Int64.toInt heq
  rw [toInt_positionFromEnd h hindex, Int64.toInt_ofNat_of_lt (hindex.trans h)] at hends
  omega

namespace Chart

variable {c : Chart}

/-! ## Selected positions -/

/-- A word is resolved to an index if it is one of the two that mean it. -/
theorem resolve_eq_ok_iff_eq (h : c.length < 2 ^ 63) {position : Int64} {k : Fin c.length} :
    c.resolve position = .ok k ↔
      position = Int64.ofNat k ∨ position = positionFromEnd c.length k := by
  rw [resolve_eq_ok_iff h, eq_meantIndex_iff h k.isLt]

/-- **A view selects what its positions are resolved to.** -/
theorem selects_eq_true_iff (h : c.length < 2 ^ 63) {view : ChartView} {selected : List Int64}
    (hselected : view.positions = some selected) {k : Fin c.length} :
    view.selects k c.length = true ↔ ∃ p ∈ selected, c.resolve p = .ok k := by
  rw [ChartView.selects, hselected, List.any_eq_true]
  simp only [resolve_eq_ok_iff_eq h, Bool.or_eq_true, beq_iff_eq]

/-- Each index is what exactly two words are resolved to. -/
theorem exists_resolve_eq_ok_iff (h : c.length < 2 ^ 63) (k : Fin c.length) :
    ∃ a b : Int64, a ≠ b ∧ a.toInt = k ∧ b.toInt = (k : Int) - c.length ∧
      ∀ position, c.resolve position = .ok k ↔ position = a ∨ position = b :=
  ⟨Int64.ofNat k, positionFromEnd c.length k, ofNat_ne_positionFromEnd h k.isLt,
    Int64.toInt_ofNat_of_lt (k.isLt.trans h), toInt_positionFromEnd h k.isLt,
    fun _ => resolve_eq_ok_iff_eq h⟩

/-! ## The last position -/

/-- There is a last position, and `-1` is resolved to it, as is its index. -/
theorem exists_last (h : c.length < 2 ^ 63) :
    ∃ last : Fin c.length, last.val = c.length - 1 ∧ c.resolve (-1) = .ok last ∧
      c.resolve (Int64.ofNat (c.length - 1)) = .ok last := by
  have hpos : 0 < c.length := by
    rw [length, c.length_positions]
    exact Nat.succ_pos _
  have hminus : (-1 : Int64).toInt = -1 := by decide
  refine ⟨⟨c.length - 1, by omega⟩, rfl, ?_, (resolve_eq_ok_iff_eq h).mpr (Or.inl rfl)⟩
  rw [resolve_eq_ok_iff h, hminus, meantIndex, if_pos (by decide)]
  show ((c.length - 1 : Nat) : Int) = c.length + -1
  omega

/-- Words that are resolved alike have the same answer, which is that for the whole input. -/
theorem recognized_eq_ok_accepts {last : Fin c.length} (hlast : c.resolve (-1) = .ok last)
    {position : Int64} (h : c.resolve position = .ok last) (category : Symbol) :
    c.recognized category 0 position = .ok (c.accepts category) := by
  rw [accepts, recognized, recognized, hlast, h]
  rfl

end Chart

/-! ## Views and queries -/

/-- **Views select what positions are resolved to.** In a chart whose length fits into a signed
word, no operation on words leaves their range. The words that are resolved are those from the first
position to the last, counted from either end; two of them mean each index. Any other one is
reported as it was given, and selects nothing. Since there is a last position, no error is hidden in
the answer for the whole input. -/
theorem selects_iff_resolve (c : Chart) (h : c.length < 2 ^ 63) :
    (∀ (view : ChartView) (selected : List Int64), view.positions = some selected →
      ∀ k : Fin c.length, view.selects k c.length = true ↔ ∃ p ∈ selected, c.resolve p = .ok k) ∧
    (∀ (k : Fin c.length) (p : Int64), ExactWords c.length k p) ∧
    (∀ p : Int64, (∃ k, c.resolve p = .ok k) ↔ -(c.length : Int) ≤ p.toInt ∧ p.toInt < c.length) ∧
    (∀ k : Fin c.length, ∃ a b : Int64, a ≠ b ∧ a.toInt = k ∧ b.toInt = (k : Int) - c.length ∧
      ∀ p, c.resolve p = .ok k ↔ p = a ∨ p = b) ∧
    (∀ p : Int64, p.toInt < -(c.length : Int) ∨ (c.length : Int) ≤ p.toInt →
      c.resolve p = .error (.positionOutOfRange p c.length) ∧
      ∀ view : ChartView, view.positions = some [p] → ∀ k : Fin c.length,
        view.selects k c.length = false) ∧
    ∀ category, c.recognized category 0 (-1) = .ok (c.accepts category) ∧
      c.recognized category 0 (Int64.ofNat (c.length - 1)) = .ok (c.accepts category) := by
  refine ⟨fun view selected hselected k => Chart.selects_eq_true_iff h hselected,
    fun k p => exactWords h k.isLt p, fun p => Chart.exists_resolve_iff h,
    Chart.exists_resolve_eq_ok_iff h, fun p hout => ?_, fun category => ?_⟩
  · have herror := (Chart.resolve_eq_error_iff h).mpr hout
    refine ⟨herror, fun view hselected k => Bool.eq_false_iff.mpr fun hselects => ?_⟩
    obtain ⟨q, hq, hresolve⟩ := (Chart.selects_eq_true_iff h hselected).mp hselects
    rw [List.mem_singleton.mp hq, herror] at hresolve
    cases hresolve
  · obtain ⟨last, -, hminus, hlast⟩ := Chart.exists_last h
    exact ⟨Chart.recognized_eq_ok_accepts hminus hminus category,
      Chart.recognized_eq_ok_accepts hminus hlast category⟩

/-- A chart over one token, with the smallest word, the largest and the last position. -/
theorem selects_iff_resolve_extremes :
    let c : Chart := ⟨["a"], [∅, .ofList [.lexical 0 "a"]], rfl⟩
    let first : Fin c.length := ⟨0, by decide⟩
    let last : Fin c.length := ⟨1, by decide⟩
    let selected := [Int64.minValue, -1, Int64.maxValue]
    c.length < 2 ^ 63 ∧
      (∃ p ∈ selected, c.resolve p = .ok last) ∧ (¬∃ p ∈ selected, c.resolve p = .ok first) ∧
      c.resolve Int64.minValue = .error (.positionOutOfRange Int64.minValue 2) ∧
      c.resolve Int64.maxValue = .error (.positionOutOfRange Int64.maxValue 2) ∧
      c.recognized "a" 0 1 = .ok true := by
  intro c first last selected
  have hlength : c.length < 2 ^ 63 := by decide
  obtain ⟨hselects, -, -, -, hout, haccepts⟩ := selects_iff_resolve c hlength
  have hlast := hselects { positions := some selected } selected rfl last
  have hfirst := hselects { positions := some selected } selected rfl first
  have htrue : c.accepts "a" = true := by decide +kernel
  refine ⟨hlength, hlast.mp (by decide), mt hfirst.mpr (by decide),
    (hout Int64.minValue (by decide)).1, (hout Int64.maxValue (by decide)).1, ?_⟩
  exact htrue ▸ (haccepts "a").2

end ChartParsing
