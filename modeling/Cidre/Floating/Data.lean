/-
  Cidre.Floating.Data

  Where a floating window is (`src/layout/floating.rs`, `struct Data`).

  A position is kept as a fraction of the working area, which nothing clamps.  The
  logical position is what that fraction comes to, moved so that enough of the window
  is on screen; it is cached, and follows from the fraction, the size and the working
  area alone.
-/

import Cidre.Utils.Logical

namespace Cidre.Floating

open Cidre.Utils.Logical

/-! ## One axis -/

/-- How much of a window stays on screen.  Numbers taken from Mutter. -/
def minOnScreen (size : Rat) : Rat := clampTo (size / 4) 10 75

def maxOffScreen (size : Rat) : Rat := max 0 (size - minOnScreen size)

/-- A position relative to the working area, moved until enough is on screen. -/
def keepOnScreen (area size pos : Rat) : Rat :=
  min (max pos (-maxOffScreen size)) (area - size + maxOffScreen size)

/-- How much of the span of a window from `pos` is within the area. -/
def visible (area size pos : Rat) : Rat := min (pos + size) area - max pos 0

theorem ten_le_minOnScreen (size : Rat) : 10 ≤ minOnScreen size := le_max_left _ _

theorem minOnScreen_le {size : Rat} (h : 10 ≤ size) : minOnScreen size ≤ size := by
  have hquarter : min (size / 4) 75 ≤ size := le_trans (min_le_left _ _) (by linarith)
  exact max_le h hquarter

/-- Only a window that is four times as large keeps more than 10 on screen. -/
theorem minOnScreen_le_quarter {size : Rat} (h : 10 < minOnScreen size) :
    minOnScreen size ≤ size / 4 := by
  rcases max_choice (10 : Rat) (min (size / 4) 75) with hmax | hmax
  · rw [minOnScreen, clampTo, hmax] at h
    exact absurd h (lt_irrefl _)
  · rw [minOnScreen, clampTo, hmax]
    exact min_le_left _ _

/-- A small window is on screen as a whole. -/
theorem visible_small {area size : Rat} (pos : Rat) (hsize : size < 10) (harea : 10 ≤ area) :
    visible area size (keepOnScreen area size pos) = size := by
  have hoff : maxOffScreen size = 0 :=
    max_eq_left (by linarith [ten_le_minOnScreen size])
  rw [keepOnScreen, hoff, neg_zero, add_zero]
  have hlow : 0 ≤ min (max pos 0) (area - size) := le_min (le_max_right _ _) (by linarith)
  have hhigh : min (max pos 0) (area - size) ≤ area - size := min_le_right _ _
  rw [visible, max_eq_left hlow, min_eq_left (by linarith)]
  linarith

/-- A window that is not small has its least amount on screen, or covers the area. -/
theorem le_visible {area size : Rat} (pos : Rat) (hsize : 10 ≤ size) (harea : 10 ≤ area) :
    min area (minOnScreen size) ≤ visible area size (keepOnScreen area size pos) := by
  have hmin := minOnScreen_le hsize
  have hoff : maxOffScreen size = size - minOnScreen size := max_eq_right (by linarith)
  have hten := ten_le_minOnScreen size
  -- The two clamps do not contradict each other.
  have hroom : -maxOffScreen size ≤ area - size + maxOffScreen size := by
    rw [hoff]
    rcases le_or_gt (minOnScreen size) 10 with hle | hgt
    · linarith
    · linarith [minOnScreen_le_quarter hgt]
  have hlow : minOnScreen size - size ≤ keepOnScreen area size pos := by
    rw [keepOnScreen]
    refine le_min (le_trans ?_ (le_max_right _ _)) (le_trans ?_ hroom)
    · linarith
    · linarith
  have hhigh : keepOnScreen area size pos ≤ area - minOnScreen size := by
    refine le_trans (min_le_right _ _) ?_
    linarith
  rw [visible, le_sub_iff_add_le]
  rcases le_total (keepOnScreen area size pos) 0 with hneg | hnonneg
  · rw [max_eq_right hneg, add_zero]
    exact le_min (le_trans (min_le_right _ _) (by linarith)) (min_le_left _ _)
  · rw [max_eq_left hnonneg]
    have hleast : min area (minOnScreen size) ≤ minOnScreen size := min_le_right _ _
    exact le_min (by linarith) (by linarith)

/-! ## Data -/

/-- `Point<f64, SizeFrac>` -/
structure SizeFrac where
  x : Rat
  y : Rat
deriving DecidableEq, Repr

structure Data where
  /-- relative to the working area -/
  pos : SizeFrac
  /-- cached, and not rounded to physical pixels -/
  logicalPos : Point
  /-- cached, of the tile -/
  size : Size
  workingArea : Rectangle
deriving DecidableEq, Repr

namespace Data

def scaleByWorkingArea (area : Rectangle) (pos : SizeFrac) : Point :=
  ⟨pos.x * area.size.w + area.loc.x, pos.y * area.size.h + area.loc.y⟩

def logicalToSizeFracInWorkingArea (area : Rectangle) (logicalPos : Point) : SizeFrac :=
  ⟨(logicalPos.x - area.loc.x) / max area.size.w 1, (logicalPos.y - area.loc.y) / max area.size.h 1⟩

def recomputeLogicalPos (d : Data) : Data :=
  let logicalPos := scaleByWorkingArea d.workingArea d.pos
  let x := keepOnScreen d.workingArea.size.w d.size.w (logicalPos.x - d.workingArea.loc.x)
  let y := keepOnScreen d.workingArea.size.h d.size.h (logicalPos.y - d.workingArea.loc.y)
  { d with logicalPos := ⟨x + d.workingArea.loc.x, y + d.workingArea.loc.y⟩ }

def updateConfig (workingArea : Rectangle) (d : Data) : Data :=
  if d.workingArea = workingArea then d
  else recomputeLogicalPos { d with workingArea := workingArea }

/-- `update`, for a tile of that size. -/
def update (tileSize : Size) (d : Data) : Data :=
  if d.size = tileSize then d else recomputeLogicalPos { d with size := tileSize }

def setLogicalPos (logicalPos : Point) (d : Data) : Data :=
  recomputeLogicalPos
    { d with pos := logicalToSizeFracInWorkingArea d.workingArea logicalPos }

def new (workingArea : Rectangle) (tileSize : Size) (logicalPos : Point) : Data :=
  let d : Data := { pos := ⟨0, 0⟩, logicalPos := ⟨0, 0⟩, size := ⟨0, 0⟩, workingArea := workingArea }
  (d.update tileSize).setLogicalPos logicalPos

def center (d : Data) : Point :=
  ⟨d.logicalPos.x + d.size.w / 2, d.logicalPos.y + d.size.h / 2⟩

/-! ## The cache -/

/-- The logical position is what it would be recomputed to. -/
def Cached (d : Data) : Prop := d.recomputeLogicalPos = d

variable {d d' : Data}

theorem recomputeLogicalPos_cached (d : Data) : d.recomputeLogicalPos.Cached := rfl

/-- Two cached positions of one fraction, size and working area are the same. -/
theorem Cached.ext (h : d.Cached) (h' : d'.Cached) (hpos : d.pos = d'.pos)
    (hsize : d.size = d'.size) (harea : d.workingArea = d'.workingArea) : d = d' := by
  rw [← h, ← h', recomputeLogicalPos, recomputeLogicalPos, hpos, hsize, harea]

theorem Cached.updateConfig (h : d.Cached) (area : Rectangle) : (d.updateConfig area).Cached := by
  rw [Data.updateConfig]
  split
  · exact h
  · exact recomputeLogicalPos_cached _

theorem Cached.update (h : d.Cached) (size : Size) : (d.update size).Cached := by
  rw [Data.update]
  split
  · exact h
  · exact recomputeLogicalPos_cached _

theorem setLogicalPos_cached (p : Point) (d : Data) : (d.setLogicalPos p).Cached :=
  recomputeLogicalPos_cached _

theorem new_cached (area : Rectangle) (size : Size) (p : Point) : (new area size p).Cached :=
  setLogicalPos_cached _ _

@[simp] theorem updateConfig_workingArea (area : Rectangle) (d : Data) :
    (d.updateConfig area).workingArea = area := by
  rw [updateConfig]
  split
  · next h => exact h
  · rfl

@[simp] theorem updateConfig_pos (area : Rectangle) (d : Data) :
    (d.updateConfig area).pos = d.pos := by
  rw [updateConfig]
  split <;> rfl

@[simp] theorem updateConfig_size (area : Rectangle) (d : Data) :
    (d.updateConfig area).size = d.size := by
  rw [updateConfig]
  split <;> rfl

@[simp] theorem update_size (size : Size) (d : Data) : (d.update size).size = size := by
  rw [update]
  split
  · next h => exact h
  · rfl

@[simp] theorem update_pos (size : Size) (d : Data) : (d.update size).pos = d.pos := by
  rw [update]
  split <;> rfl

@[simp] theorem update_workingArea (size : Size) (d : Data) :
    (d.update size).workingArea = d.workingArea := by
  rw [update]
  split <;> rfl

@[simp] theorem setLogicalPos_size (p : Point) (d : Data) : (d.setLogicalPos p).size = d.size := rfl

@[simp] theorem setLogicalPos_workingArea (p : Point) (d : Data) :
    (d.setLogicalPos p).workingArea = d.workingArea := rfl

@[simp] theorem setLogicalPos_pos (p : Point) (d : Data) :
    (d.setLogicalPos p).pos = logicalToSizeFracInWorkingArea d.workingArea p := rfl

@[simp] theorem new_size (area : Rectangle) (size : Size) (p : Point) :
    (new area size p).size = size := by
  simp [new]

@[simp] theorem new_workingArea (area : Rectangle) (size : Size) (p : Point) :
    (new area size p).workingArea = area := by
  simp [new]

@[simp] theorem new_pos (area : Rectangle) (size : Size) (p : Point) :
    (new area size p).pos = logicalToSizeFracInWorkingArea area p := by
  simp [new]

/-! ## On screen -/

/-- How much of the tile lies inside the working area, along each axis. -/
def onScreen (d : Data) : Size :=
  ⟨visible d.workingArea.size.w d.size.w (d.logicalPos.x - d.workingArea.loc.x),
    visible d.workingArea.size.h d.size.h (d.logicalPos.y - d.workingArea.loc.y)⟩

theorem le_visible_keepOnScreen {area size : Rat} (pos : Rat) (harea : 10 ≤ area) :
    min (min size area) (minOnScreen size) ≤ visible area size (keepOnScreen area size pos) := by
  rcases lt_or_ge size 10 with hlt | hge
  · rw [visible_small pos hlt harea]
    exact le_trans (min_le_left _ _) (min_le_left _ _)
  · refine le_trans (le_min ?_ (min_le_right _ _)) (le_visible pos hge harea)
    exact le_trans (min_le_left _ _) (min_le_right _ _)

theorem Cached.le_onScreen (h : d.Cached) (haw : 10 ≤ d.workingArea.size.w)
    (hah : 10 ≤ d.workingArea.size.h) :
    min (min d.size.w d.workingArea.size.w) (minOnScreen d.size.w) ≤ d.onScreen.w ∧
      min (min d.size.h d.workingArea.size.h) (minOnScreen d.size.h) ≤ d.onScreen.h := by
  rw [← h, onScreen]
  simp only [recomputeLogicalPos, add_sub_cancel_right]
  exact ⟨le_visible_keepOnScreen _ haw, le_visible_keepOnScreen _ hah⟩

/-! ## There and back -/

/-- A fraction survives being taken to logical coordinates. -/
theorem sizeFrac_scale {area : Rectangle} (hw : 1 ≤ area.size.w) (hh : 1 ≤ area.size.h)
    (pos : SizeFrac) : logicalToSizeFracInWorkingArea area (scaleByWorkingArea area pos) = pos := by
  have hw' : area.size.w ≠ 0 := by linarith
  have hh' : area.size.h ≠ 0 := by linarith
  simp only [logicalToSizeFracInWorkingArea, scaleByWorkingArea, add_sub_cancel_right,
    max_eq_left hw, max_eq_left hh, mul_div_cancel_right₀ _ hw', mul_div_cancel_right₀ _ hh']

/-- A tile comes back to where the working area, and its size, were. -/
theorem Cached.back (h : d.Cached) (h' : d'.Cached) (hpos : d'.pos = d.pos) :
    (d'.update d.size).updateConfig d.workingArea = d :=
  Cached.ext ((h'.update _).updateConfig _) h (by simp [hpos]) (by simp) (by simp)

/-- A tile that is put where its fraction says is where it was. -/
theorem Cached.put_back (h : d.Cached) (hw : 1 ≤ d.workingArea.size.w)
    (hh : 1 ≤ d.workingArea.size.h) :
    new d.workingArea d.size (scaleByWorkingArea d.workingArea d.pos) = d :=
  Cached.ext (new_cached _ _ _) h (by rw [new_pos, sizeFrac_scale hw hh]) (by simp) (by simp)

end Data

end Cidre.Floating
