/-
  Cidre.Utils.Whole

  Lengths of a whole number of pixels: the arithmetic of the layouts keeps them, and
  rounding does not cross one.
-/

import Mathlib.Algebra.Ring.Subring.Basic
import Cidre.Utils.Logical

namespace Cidre.Utils.Logical

/-- The whole numbers among the lengths. -/
abbrev whole : Subring Rat := (Int.castRingHom Rat).range

theorem whole_intCast (n : Int) : (n : Rat) ∈ whole := ⟨n, rfl⟩

theorem mem_whole_iff {x : Rat} : x ∈ whole ↔ x.den = 1 := by
  constructor
  · rintro ⟨n, rfl⟩
    rfl
  · exact fun h => ⟨x.num, Rat.coe_int_num_of_den_eq_one h⟩

instance (x : Rat) : Decidable (x ∈ whole) := decidable_of_iff _ mem_whole_iff.symm

theorem whole_max {x y : Rat} (hx : x ∈ whole) (hy : y ∈ whole) : max x y ∈ whole := by
  rcases max_choice x y with h | h
  · rwa [h]
  · rwa [h]

theorem whole_min {x y : Rat} (hx : x ∈ whole) (hy : y ∈ whole) : min x y ∈ whole := by
  rcases min_choice x y with h | h
  · rwa [h]
  · rwa [h]

/-- Rounding does not go below a whole number. -/
theorem le_round {a x : Rat} (ha : a ∈ whole) (hle : a ≤ x) : a ≤ (round x : Rat) := by
  obtain ⟨n, rfl⟩ := ha
  show (n : Rat) ≤ _
  replace hle : (n : Rat) ≤ x := hle
  rw [Int.cast_le, round]
  split
  · rw [Rat.le_floor_iff]
    linarith
  · rw [le_neg, Int.le_iff_lt_add_one, Rat.floor_lt_iff]
    push_cast
    linarith

/-- Rounding does not go above a whole number. -/
theorem round_le {a x : Rat} (ha : a ∈ whole) (hle : x ≤ a) : (round x : Rat) ≤ a := by
  obtain ⟨n, rfl⟩ := ha
  show _ ≤ (n : Rat)
  replace hle : x ≤ (n : Rat) := hle
  rw [Int.cast_le, round]
  split
  · rw [Int.le_iff_lt_add_one, Rat.floor_lt_iff]
    push_cast
    linarith
  · rw [neg_le, Rat.le_floor_iff]
    push_cast
    linarith

theorem round_of_whole {a : Rat} (ha : a ∈ whole) : (round a : Rat) = a :=
  le_antisymm (round_le ha le_rfl) (le_round ha le_rfl)

theorem floor_of_whole {a : Rat} (ha : a ∈ whole) : (a.floor : Rat) = a := by
  obtain ⟨n, rfl⟩ := ha
  exact congrArg _ (Rat.floor_intCast n)

end Cidre.Utils.Logical
