/-
  Cidre.Utils.Logical

  Points, sizes and rectangles in logical coordinates, which are fractional, and
  their rounding to physical pixels (`src/utils/mod.rs`).

  Coordinates are exact rationals.
-/

import Mathlib.Data.Rat.Floor

namespace Cidre.Utils.Logical

structure Point where
  x : Rat
  y : Rat
deriving DecidableEq, Repr

structure Size where
  w : Rat
  h : Rat
deriving DecidableEq, Repr

structure Rectangle where
  loc : Point
  size : Size
deriving DecidableEq, Repr

/-- A rectangle has its top and left edges, and not the others. -/
def Rectangle.contains (r : Rectangle) (p : Point) : Bool :=
  decide (r.loc.x ≤ p.x) && decide (p.x < r.loc.x + r.size.w) &&
    decide (r.loc.y ≤ p.y) && decide (p.y < r.loc.y + r.size.h)

/-- `f64::clamp` -/
def clampTo (x lo hi : Rat) : Rat := max lo (min x hi)

/-- `f64::round`: to the nearest integer, and away from zero half-way. -/
def round (x : Rat) : Int :=
  if 0 ≤ x then (x + 1 / 2).floor else -(-x + 1 / 2).floor

def roundLogicalInPhysical (scale logical : Rat) : Rat := round (logical * scale) / scale

def roundLogicalInPhysicalMax1 (scale logical : Rat) : Rat :=
  if logical = 0 then 0 else round (max (logical * scale) 1) / scale

/-- `to_physical_precise_round(scale).to_logical(scale)` -/
def Point.roundPhysical (scale : Rat) (p : Point) : Point :=
  ⟨roundLogicalInPhysical scale p.x, roundLogicalInPhysical scale p.y⟩

/-- `to_physical_precise_ceil(scale).to_logical(scale)` -/
def Size.ceilPhysical (scale : Rat) (s : Size) : Size :=
  ⟨(s.w * scale).ceil / scale, (s.h * scale).ceil / scale⟩

end Cidre.Utils.Logical
