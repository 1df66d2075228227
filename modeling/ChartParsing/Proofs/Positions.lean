import Mathlib.Algebra.Order.Ring.Nat
import ChartParsing.Chart

/-!
# Positions counted from either end

A query names a position by a 64-bit word. `meantIndex` is the index that is meant, among the
integers: a negative position is counted from the end. For a chart whose length fits into a
signed word the computation in words agrees with it.

Main lemmas: `Chart.resolve_eq_ok_iff` and `Chart.resolve_eq_error_iff`.
-/

set_option autoImplicit false

namespace ChartParsing

/-- **The index that a position stands for**, if it is one. -/
def meantIndex (length : Nat) (position : Int) : Int :=
  if position < 0 then length + position else position

/-- The sum of a length and a negative position does not leave the range of a word. -/
theorem toInt_signedIndex {length : Nat} (h : length < 2 ^ 63) (position : Int64) :
    (signedIndex length position).toInt = meantIndex length position.toInt := by
  have hlength : (Int64.ofNat length).toInt = length := Int64.toInt_ofNat_of_lt h
  have hlo := position.le_toInt
  unfold signedIndex meantIndex
  by_cases hneg : position.toInt < 0
  · -- a length and a negative word do not add up to anything that is out of range
    rw [if_pos (by rw [Int64.lt_iff_toInt_lt]; exact hneg), if_pos hneg, Int64.toInt_add, hlength]
    exact Int.bmod_eq_of_le (by omega) (by omega)
  · rw [if_neg (by rw [Int64.lt_iff_toInt_lt]; exact hneg), if_neg hneg]

namespace Chart

variable {c : Chart}

/-- **A position is resolved to the index that is meant.** -/
theorem resolve_eq_ok_iff (h : c.length < 2 ^ 63) {position : Int64} {j : Fin c.length} :
    c.resolve position = .ok j ↔ (j.val : Int) = meantIndex c.length position.toInt := by
  have hindex := toInt_signedIndex h position
  have hj := j.isLt
  simp only [resolve]
  constructor
  · intro hok
    split at hok
    next hrange =>
      have hval : (signedIndex c.length position).toNatClampNeg = j.val :=
        congrArg Fin.val (Except.ok.inj hok)
      have hnonneg := Int64.le_iff_toInt_le.mp hrange.1
      rw [Int64.toInt_zero] at hnonneg
      rw [Int64.toNatClampNeg] at hval
      omega
    next => cases hok
  · intro hmeant
    have hval : (signedIndex c.length position).toNatClampNeg = j.val := by
      rw [Int64.toNatClampNeg]
      omega
    have hrange : 0 ≤ signedIndex c.length position ∧
        (signedIndex c.length position).toNatClampNeg < c.length := by
      refine ⟨Int64.le_iff_toInt_le.mpr ?_, by omega⟩
      rw [Int64.toInt_zero]
      omega
    rw [dif_pos hrange]
    exact congrArg Except.ok (Fin.ext hval)

/-- A position from the first to the last, counted from either end, is resolved. -/
theorem exists_resolve_iff (h : c.length < 2 ^ 63) {position : Int64} :
    (∃ j, c.resolve position = .ok j) ↔
      -(c.length : Int) ≤ position.toInt ∧ position.toInt < c.length := by
  constructor
  · rintro ⟨j, hj⟩
    have hmeant := (resolve_eq_ok_iff h).mp hj
    have hlt := j.isLt
    unfold meantIndex at hmeant
    split at hmeant <;> omega
  · rintro ⟨hlo, hhi⟩
    have hmeant : 0 ≤ meantIndex c.length position.toInt ∧
        meantIndex c.length position.toInt < c.length := by
      unfold meantIndex
      split <;> omega
    refine ⟨⟨(meantIndex c.length position.toInt).toNat, by omega⟩, (resolve_eq_ok_iff h).mpr ?_⟩
    exact Int.toNat_of_nonneg hmeant.1

/-- The only error tells the position as it was given, and the length of the chart. -/
theorem eq_of_resolve_eq_error {position : Int64} {e : ChartError}
    (h : c.resolve position = .error e) : e = .positionOutOfRange position c.length := by
  simp only [resolve] at h
  split at h
  next => cases h
  next => exact (Except.error.inj h).symm

/-- **A position is out of range exactly if it is before the first or behind the last.** -/
theorem resolve_eq_error_iff (h : c.length < 2 ^ 63) {position : Int64} :
    c.resolve position = .error (.positionOutOfRange position c.length) ↔
      position.toInt < -(c.length : Int) ∨ (c.length : Int) ≤ position.toInt := by
  have hiff : (∃ j, c.resolve position = .ok j) ↔ _ := exists_resolve_iff h
  cases hcase : c.resolve position with
  | ok j =>
      have hrange := hiff.mp ⟨j, hcase⟩
      refine ⟨nofun, fun hout => ?_⟩
      omega
  | error e =>
      have hout : ¬(-(c.length : Int) ≤ position.toInt ∧ position.toInt < c.length) := by
        rw [← hiff]
        rintro ⟨j, hj⟩
        rw [hcase] at hj
        cases hj
      rw [eq_of_resolve_eq_error hcase]
      refine ⟨fun _ => ?_, fun _ => rfl⟩
      omega

/-- A query fails exactly if its position is not resolved. -/
theorem recognized_eq_error_iff {category : Symbol} {start : Nat} {position : Int64}
    {e : ChartError} :
    c.recognized category start position = .error e ↔ c.resolve position = .error e := by
  unfold recognized
  cases c.resolve position with
  | ok j => exact ⟨nofun, nofun⟩
  | error other => exact ⟨fun h => congrArg _ (Except.error.inj h), fun h =>
      congrArg _ (Except.error.inj h)⟩

theorem getD_toOption_eq_true_iff {answer : Except ChartError Bool} :
    answer.toOption.getD false = true ↔ answer = .ok true := by
  cases answer with
  | ok found => exact ⟨fun h => congrArg Except.ok h, fun h => Except.ok.inj h⟩
  | error e => exact ⟨nofun, nofun⟩

/-- The chart accepts what it recognized from the first position to the last. -/
theorem accepts_eq_true_iff {category : Symbol} :
    c.accepts category = true ↔ c.recognized category 0 (-1) = .ok true :=
  getD_toOption_eq_true_iff

/-- **An answer depends on the length of the chart and on the edges at one position.** -/
theorem recognized_eq (c : Chart) (category : Symbol) (start : Nat) (position : Int64) :
    c.recognized category start position =
      if 0 ≤ signedIndex c.length position ∧
          (signedIndex c.length position).toNatClampNeg < c.length then
        .ok ((EdgeSet.passive ((c.at? (signedIndex c.length position).toNatClampNeg).getD ∅)).any
          fun e => e.start == start && e.lhs == category)
      else .error (.positionOutOfRange position c.length) := by
  rw [recognized, resolve]
  split
  next hrange =>
    rw [at?, List.getElem?_eq_getElem hrange.2]
    rfl
  next => rfl

end Chart

end ChartParsing
