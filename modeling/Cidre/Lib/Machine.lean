/-
  Cidre.Lib.Machine

  Machine numbers.  Counters and ids are 64-bit; a float that is only copied
  and compared is its bit pattern.
-/

import Mathlib.Algebra.Ring.Int.Defs
import Mathlib.Algebra.Ring.Nat
import Mathlib.Order.Fin.Basic

namespace Cidre

abbrev U64 := Fin (2 ^ 64)

instance neZeroU64 : NeZero (2 ^ 64) := inferInstance

instance lawfulBEqU64 : LawfulBEq U64 := inferInstance

/-- `n.saturating_add(1)`. -/
def U64.saturatingSucc (n : U64) : U64 := ⟨min (n.val + 1) (2 ^ 64 - 1), by omega⟩

structure F64 where
  bits : U64
deriving DecidableEq, Repr

/-- `==` on `f64`: no NaN is equal to anything, and the two zeros are equal. -/
def floatEq (x y : F64) : Bool :=
  let magnitude : F64 → Nat := fun z => z.bits.val % 2 ^ 63
  let number : F64 → Bool := fun z => magnitude z ≤ 2047 * 2 ^ 52
  number x && number y && (x = y || (magnitude x = 0 && magnitude y = 0))

theorem eq_of_floatEq {x y : F64} (hx : x.bits.val ≠ 2 ^ 63) (hy : y.bits.val ≠ 2 ^ 63)
    (h : floatEq x y = true) : x = y := by
  obtain ⟨x⟩ := x
  obtain ⟨y⟩ := y
  simp only [floatEq, Bool.and_eq_true, Bool.or_eq_true, decide_eq_true_eq, F64.mk.injEq] at *
  rcases h.2 with heq | ⟨hzero, hzero'⟩
  · exact heq
  · exact Fin.ext (by omega)

end Cidre
