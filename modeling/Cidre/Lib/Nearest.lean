/-
  Cidre.Lib.Nearest

  The point of a closed interval nearest to a given one: the given one itself, or the end
  on its side.
-/

import Mathlib.Algebra.Order.Group.Abs
import Mathlib.Order.Interval.Set.Basic

namespace Cidre.Nearest

open Set

variable {α : Type*} [LinearOrder α]

def nearest (lo hi x : α) : α := max lo (min x hi)

variable {lo hi x y : α}

theorem nearest_mem (h : lo ≤ hi) (x : α) : nearest lo hi x ∈ Icc lo hi :=
  ⟨le_max_left lo _, max_le h (min_le_right x hi)⟩

theorem nearest_of_mem (h : x ∈ Icc lo hi) : nearest lo hi x = x := by
  rw [nearest, min_eq_left h.2, max_eq_right h.1]

theorem nearest_of_lt (h : lo ≤ hi) (hx : x < lo) : nearest lo hi x = lo := by
  rw [nearest, min_eq_left (hx.le.trans h), max_eq_left hx.le]

theorem nearest_of_gt (h : lo ≤ hi) (hx : hi < x) : nearest lo hi x = hi := by
  rw [nearest, min_eq_right hx.le, max_eq_right h]

@[simp] theorem nearest_nearest (h : lo ≤ hi) (x : α) :
    nearest lo hi (nearest lo hi x) = nearest lo hi x :=
  nearest_of_mem (nearest_mem h x)

/-- A point outside goes to an end. -/
theorem nearest_eq_or (h : lo ≤ hi) (hx : x ∉ Icc lo hi) :
    nearest lo hi x = lo ∨ nearest lo hi x = hi := by
  rcases lt_or_ge x lo with hlt | hge
  · exact .inl (nearest_of_lt h hlt)
  · exact .inr (nearest_of_gt h (lt_of_not_ge fun hle => hx ⟨hge, hle⟩))

variable [AddCommGroup α] [IsOrderedAddMonoid α]

theorem abs_nearest_sub_le (h : lo ≤ hi) (hy : y ∈ Icc lo hi) (x : α) :
    |nearest lo hi x - x| ≤ |y - x| := by
  by_cases hx : x ∈ Icc lo hi
  · rw [nearest_of_mem hx, sub_self, abs_zero]
    exact abs_nonneg _
  rcases lt_or_ge x lo with hlt | hge
  · rw [nearest_of_lt h hlt, abs_of_nonneg (sub_nonneg.mpr hlt.le),
      abs_of_nonneg (sub_nonneg.mpr (hlt.le.trans hy.1))]
    exact sub_le_sub_right hy.1 x
  · have hgt : hi < x := lt_of_not_ge fun hle => hx ⟨hge, hle⟩
    rw [nearest_of_gt h hgt, abs_of_nonpos (sub_nonpos.mpr hgt.le),
      abs_of_nonpos (sub_nonpos.mpr (hy.2.trans hgt.le))]
    exact neg_le_neg (sub_le_sub_right hy.2 x)

/-- The end that a point outside goes to is the one it is closer to; where it is as close
to both, they are the same. -/
theorem nearest_eq_ite (h : lo ≤ hi) (hx : x ∉ Icc lo hi) :
    nearest lo hi x = if |x - hi| ≤ |x - lo| then hi else lo := by
  rcases lt_or_ge x lo with hlt | hge
  · rw [nearest_of_lt h hlt, abs_of_nonpos (sub_nonpos.mpr (hlt.le.trans h)),
      abs_of_nonpos (sub_nonpos.mpr hlt.le)]
    split
    · rename_i hle
      have hge : hi ≤ lo := sub_le_sub_iff_left x |>.mp (neg_le_neg_iff.mp hle)
      exact le_antisymm h hge
    · rfl
  · have hgt : hi < x := lt_of_not_ge fun hle => hx ⟨hge, hle⟩
    rw [nearest_of_gt h hgt, if_pos]
    rw [abs_of_nonneg (sub_nonneg.mpr hgt.le), abs_of_nonneg (sub_nonneg.mpr hge)]
    exact sub_le_sub_left h x

end Cidre.Nearest
