/-
  Cidre.Layout.ViewOffset

  Where the view of the scrolling layout goes to show a column
  (`compute_new_view_offset` of `layout/scrolling.rs` and the functions over it).

  The offset that is computed is that of the view from the column.  The results are about
  the view position, the offset plus the position of the column: it is the position
  nearest to the current one among those that show the column with its padding.

  Positions are exact rationals.
-/

import Cidre.Layout.Geometry
import Cidre.Lib.Nearest
import Cidre.Utils.Logical

namespace Cidre.Layout

open Nearest Panic Set Utils.Logical

/-! ## The offset -/

/-- `x.clamp(lo, hi)`, with its assertion. -/
def clampChecked (x lo hi : Rat) : Option Rat :=
  if lo ≤ hi then some (clampTo x lo hi) else none

def computeNewViewOffset (curX viewWidth newColX newColWidth gaps : Rat) : Option Rat :=
  if viewWidth ≤ newColWidth then
    -- a column wider than the view is left-aligned
    some 0
  else do
    let padding ← clampChecked ((viewWidth - newColWidth) / 2) 0 gaps
    let newX := newColX - padding
    let newRightX := newColX + newColWidth + padding
    if curX ≤ newX ∧ newRightX ≤ curX + viewWidth then
      return -(newColX - curX)
    else
      let distToLeft := |curX - newX|
      let distToRight := |curX + viewWidth - newRightX|
      if distToLeft ≤ distToRight then
        return -padding
      else
        return -(viewWidth - padding - newColWidth)

/-- At least the padding is free on both sides of a column of width `w` at `x`, seen in a
view of width `viewWidth` at `pos`. -/
structure Padded (padding viewWidth x w pos : Rat) : Prop where
  left : padding ≤ x - pos
  right : padding ≤ pos + viewWidth - (x + w)

/-- The gaps, or what fits. -/
def paddingOf (viewWidth w gaps : Rat) : Rat := min gaps ((viewWidth - w) / 2)

/-- The view position `pos` brings into view the column of width `w` at `x`, from the view
position `curX`. -/
structure BroughtIntoView (curX viewWidth x w gaps pos : Rat) : Prop where
  /-- a column as wide as the view or wider is left-aligned -/
  leftAligned : viewWidth ≤ w → pos = x
  /-- any other is seen whole, with its padding -/
  padded : w ≤ viewWidth → Padded (paddingOf viewWidth w gaps) viewWidth x w pos
  /-- there is no more than the padding on the side it is aligned to -/
  aligned : w ≤ viewWidth → ¬Padded (paddingOf viewWidth w gaps) viewWidth x w curX →
    x - pos = paddingOf viewWidth w gaps ∨ pos + viewWidth - (x + w) = paddingOf viewWidth w gaps
  /-- the view stays if that is how the column is seen already -/
  unmoved : w ≤ viewWidth → Padded (paddingOf viewWidth w gaps) viewWidth x w curX → pos = curX
  /-- the view moves no further than it has to -/
  least : w ≤ viewWidth → ∀ other, Padded (paddingOf viewWidth w gaps) viewWidth x w other →
    |pos - curX| ≤ |other - curX|
  /-- doing it again changes nothing -/
  idempotent : computeNewViewOffset pos viewWidth x w gaps = some (pos - x)

section Offset

variable {padding viewWidth x w gaps pos curX : Rat}

theorem padded_iff :
    Padded padding viewWidth x w pos ↔ pos ∈ Icc (x + w + padding - viewWidth) (x - padding) := by
  constructor
  · rintro ⟨hleft, hright⟩
    exact ⟨by linarith, by linarith⟩
  · rintro ⟨hlo, hhi⟩
    exact ⟨by linarith, by linarith⟩

/-- There are positions at which the column is seen with its padding. -/
theorem padded_interval :
    x + w + paddingOf viewWidth w gaps - viewWidth ≤ x - paddingOf viewWidth w gaps := by
  have hhalf : paddingOf viewWidth w gaps ≤ (viewWidth - w) / 2 := min_le_right _ _
  linarith

theorem clamp_padding (hgaps : 0 ≤ gaps) (hw : w ≤ viewWidth) :
    clampChecked ((viewWidth - w) / 2) 0 gaps = some (paddingOf viewWidth w gaps) := by
  have hhalf : 0 ≤ (viewWidth - w) / 2 := by linarith
  rw [clampChecked, if_pos hgaps, clampTo, max_eq_right (le_min hhalf hgaps), min_comm]
  rfl

/-- The view goes to the nearest position that shows the column with its padding. -/
theorem computeNewViewOffset_eq (hgaps : 0 ≤ gaps) (hw : w < viewWidth) :
    computeNewViewOffset curX viewWidth x w gaps =
      some (nearest (x + w + paddingOf viewWidth w gaps - viewWidth)
        (x - paddingOf viewWidth w gaps) curX - x) := by
  have hinterval : x + w + paddingOf viewWidth w gaps - viewWidth ≤
    x - paddingOf viewWidth w gaps := padded_interval
  rw [computeNewViewOffset, if_neg (not_le.mpr hw), clamp_padding hgaps hw.le]
  generalize paddingOf viewWidth w gaps = padding at hinterval
  rw [Option.bind_eq_bind, Option.bind_some]
  by_cases hseen : curX ∈ Icc (x + w + padding - viewWidth) (x - padding)
  · have hfits : curX ≤ x - padding ∧ x + w + padding ≤ curX + viewWidth :=
      ⟨hseen.2, sub_le_iff_le_add.mp hseen.1⟩
    rw [if_pos hfits, nearest_of_mem hseen, neg_sub]
    rfl
  · have hfits : ¬(curX ≤ x - padding ∧ x + w + padding ≤ curX + viewWidth) :=
      fun h => hseen ⟨sub_le_iff_le_add.mpr h.2, h.1⟩
    have hright : curX + viewWidth - (x + w + padding) =
        curX - (x + w + padding - viewWidth) := by ring
    rw [if_neg hfits, nearest_eq_ite hinterval hseen, hright]
    dsimp only
    by_cases hcloser : |curX - (x - padding)| ≤ |curX - (x + w + padding - viewWidth)|
    · rw [if_pos hcloser, if_pos hcloser, sub_sub_cancel_left]
      rfl
    · rw [if_neg hcloser, if_neg hcloser]
      have hsame : -(viewWidth - padding - w) = x + w + padding - viewWidth - x := by ring
      exact congrArg some hsame

theorem computeNewViewOffset_wide (hw : viewWidth ≤ w) :
    computeNewViewOffset curX viewWidth x w gaps = some 0 := if_pos hw

/-- For a column just as wide as the view there is one position. -/
theorem padded_full (hgaps : 0 ≤ gaps) (h : Padded (paddingOf w w gaps) w x w pos) : pos = x := by
  have hzero : paddingOf w w gaps = 0 := by
    rw [paddingOf, sub_self, zero_div, min_eq_right hgaps]
  obtain ⟨hleft, hright⟩ := h
  rw [hzero] at hleft hright
  linarith

theorem broughtIntoView_wide (hgaps : 0 ≤ gaps) (hw : viewWidth ≤ w) :
    BroughtIntoView curX viewWidth x w gaps x := by
  have hfull : w ≤ viewWidth → viewWidth = w := hw.antisymm
  have hpadded : w ≤ viewWidth → Padded (paddingOf viewWidth w gaps) viewWidth x w x := by
    intro hle
    have hzero : paddingOf viewWidth w gaps ≤ 0 :=
      (min_le_right _ _).trans_eq (by rw [hfull hle, sub_self, zero_div])
    exact ⟨by linarith, by linarith⟩
  refine ⟨fun _ => rfl, hpadded, fun hle hnot => ?_, fun hle hseen => ?_,
    fun hle other hother => ?_, ?_⟩
  · left
    rw [sub_self, paddingOf, hfull hle, sub_self, zero_div, min_eq_right hgaps]
  · obtain rfl := hfull hle
    exact (padded_full hgaps hseen).symm
  · obtain rfl := hfull hle
    rw [padded_full hgaps hother]
  · rw [computeNewViewOffset_wide hw, sub_self]

theorem broughtIntoView_nearest (hgaps : 0 ≤ gaps) (hw : w < viewWidth) :
    BroughtIntoView curX viewWidth x w gaps
      (nearest (x + w + paddingOf viewWidth w gaps - viewWidth)
        (x - paddingOf viewWidth w gaps) curX) := by
  have hinterval : x + w + paddingOf viewWidth w gaps - viewWidth ≤
    x - paddingOf viewWidth w gaps := padded_interval
  refine ⟨fun hle => absurd hw hle.not_gt, fun _ => ?_, fun _ hnot => ?_, fun _ hseen => ?_,
    fun _ other hother => ?_, ?_⟩
  · exact padded_iff.mpr (nearest_mem hinterval curX)
  · rcases nearest_eq_or hinterval (fun hmem => hnot (padded_iff.mpr hmem)) with hlo | hhi
    · right
      rw [hlo]
      ring
    · left
      rw [hhi]
      ring
  · exact nearest_of_mem (padded_iff.mp hseen)
  · exact abs_nearest_sub_le hinterval (padded_iff.mp hother) curX
  · rw [computeNewViewOffset_eq hgaps hw, nearest_nearest hinterval]

/-- Showing a column brings it into view, with the least motion. -/
theorem computeNewViewOffset_broughtIntoView (curX viewWidth x w : Rat) (hgaps : 0 ≤ gaps) :
    Returns (computeNewViewOffset curX viewWidth x w gaps) fun offset =>
      BroughtIntoView curX viewWidth x w gaps (x + offset) := by
  rcases le_or_gt viewWidth w with hwide | hnarrow
  · refine ⟨0, computeNewViewOffset_wide hwide, ?_⟩
    show BroughtIntoView curX viewWidth x w gaps (x + 0)
    rw [add_zero]
    exact broughtIntoView_wide hgaps hwide
  · refine ⟨_, computeNewViewOffset_eq hgaps hnarrow, ?_⟩
    show BroughtIntoView curX viewWidth x w gaps (x + (_ - x))
    rw [add_sub_cancel]
    exact broughtIntoView_nearest hgaps hnarrow

/-- A column that sticks out of the view on the right. -/
theorem broughtIntoView_right :
    (0 : Rat) ≤ 16 ∧ Returns (computeNewViewOffset 0 1000 800 300 16) fun offset =>
      BroughtIntoView 0 1000 800 300 16 (800 + offset) :=
  ⟨by decide, computeNewViewOffset_broughtIntoView 0 1000 800 300 (by decide)⟩

end Offset

/-! ## The columns -/

/-- The horizontal part of a rectangle. -/
structure Extent where
  x : Rat
  w : Rat

structure ColumnShape where
  width : Rat
  sizingMode : SizingMode

/-- What the position of the view depends on. -/
structure ScrollView where
  columns : List ColumnShape
  /-- without the struts -/
  parentArea : Extent
  workingArea : Extent
  gaps : Rat
  centerFocusedColumn : CenterFocusedColumn
  alwaysCenterSingleColumn : Bool
  targetViewPos : Rat

/-- The positions of the columns, and of one past them, from that of the first. -/
def columnXs (gaps : Rat) : Rat → List Rat → List Rat
  | x, [] => [x]
  | x, width :: widths => x :: columnXs gaps (x + (width + gaps)) widths

@[simp] theorem columnXs_length (gaps x : Rat) (widths : List Rat) :
    (columnXs gaps x widths).length = widths.length + 1 := by
  induction widths generalizing x with
  | nil => rfl
  | cons width widths ih => rw [columnXs, List.length_cons, ih, List.length_cons]

namespace ScrollView

variable (v : ScrollView) (targetX : Option Rat)

def columnX (columnIdx : Nat) : Option Rat :=
  (columnXs v.gaps 0 (v.columns.map ColumnShape.width))[columnIdx]?

def isCenteringFocusedColumn : Bool :=
  v.centerFocusedColumn == .always || (v.alwaysCenterSingleColumn && v.columns.length ≤ 1)

/-- The area a column is shown in, and the padding it gets there. -/
def areaFor (mode : SizingMode) : Extent × Rat :=
  match mode with
  | .maximized => (v.parentArea, 0)
  | _ => (v.workingArea, v.gaps)

def computeNewViewOffsetFit (colX width : Rat) (mode : SizingMode) : Option Rat :=
  match mode with
  | .fullscreen => some 0
  | mode => do
      let (area, padding) := v.areaFor mode
      let targetX := targetX.getD v.targetViewPos
      let newOffset ← computeNewViewOffset (targetX + area.x) area.w colX width padding
      return newOffset - area.x

def computeNewViewOffsetCentered (colX width : Rat) (mode : SizingMode) : Option Rat :=
  match mode with
  | .fullscreen => v.computeNewViewOffsetFit targetX colX width .fullscreen
  | mode =>
      let area := (v.areaFor mode).1
      if area.w ≤ width then v.computeNewViewOffsetFit targetX colX width mode
      else some (-(area.w - width) / 2 - area.x)

def computeNewViewOffsetForColumnFit (idx : Nat) : Option Rat := do
  let col ← v.columns[idx]?
  v.computeNewViewOffsetFit targetX (← v.columnX idx) col.width col.sizingMode

def computeNewViewOffsetForColumnCentered (idx : Nat) : Option Rat := do
  let col ← v.columns[idx]?
  v.computeNewViewOffsetCentered targetX (← v.columnX idx) col.width col.sizingMode

/-- The width of two neighbors with the gaps around them. -/
def totalWidth (sourceIdx idx : Nat) : Option Rat := do
  let sourceColX ← v.columnX sourceIdx
  let sourceColWidth := (← v.columns[sourceIdx]?).width
  let targetColX ← v.columnX idx
  let targetColWidth := (← v.columns[idx]?).width
  return (if sourceColX < targetColX then targetColX - sourceColX + targetColWidth
    else sourceColX - targetColX + sourceColWidth) + v.gaps * 2

def computeNewViewOffsetForColumn (idx : Nat) (prevIdx : Option Nat) : Option Rat :=
  if v.isCenteringFocusedColumn then
    v.computeNewViewOffsetForColumnCentered targetX idx
  else
    match v.centerFocusedColumn, prevIdx with
    | .always, _ => v.computeNewViewOffsetForColumnCentered targetX idx
    | .onOverflow, none => v.computeNewViewOffsetForColumnFit targetX idx
    | .onOverflow, some prevIdx =>
        if prevIdx = idx then
          v.computeNewViewOffsetForColumnFit targetX idx
        else do
          -- the neighbor on the side that was left
          let sourceIdx := if prevIdx > idx then min (idx + 1) (v.columns.length - 1) else idx - 1
          if (← v.totalWidth sourceIdx idx) ≤ v.workingArea.w then
            v.computeNewViewOffsetForColumnFit targetX idx
          else
            v.computeNewViewOffsetForColumnCentered targetX idx
    | .never, _ => v.computeNewViewOffsetForColumnFit targetX idx

/-- The column of width `w` at `x` is as well in sight as it can be in the area, when the
view is at `pos`. -/
structure InSight (area : Extent) (x w pos : Rat) : Prop where
  leftAligned : area.w ≤ w → pos + area.x = x
  whole : w ≤ area.w → Padded 0 area.w x w (pos + area.x)

/-- How a column ends up: at the left edge of the output if it is fullscreen. -/
def Shows (col : ColumnShape) (x offset : Rat) : Prop :=
  match col.sizingMode with
  | .fullscreen => offset = 0
  | mode => InSight (v.areaFor mode).1 x col.width (x + offset)

variable {v targetX} {colX width : Rat} {mode : SizingMode}

theorem areaFor_padding (hgaps : 0 ≤ v.gaps) (mode : SizingMode) : 0 ≤ (v.areaFor mode).2 := by
  cases mode with
  | maximized => exact le_rfl
  | normal => exact hgaps
  | fullscreen => exact hgaps

/-- Within its area, a column is brought into view. -/
theorem computeNewViewOffsetFit_broughtIntoView (hgaps : 0 ≤ v.gaps) (hmode : mode ≠ .fullscreen)
    (colX width : Rat) :
    Returns (v.computeNewViewOffsetFit targetX colX width mode) fun offset =>
      BroughtIntoView (targetX.getD v.targetViewPos + (v.areaFor mode).1.x) (v.areaFor mode).1.w
        colX width (v.areaFor mode).2 (colX + offset + (v.areaFor mode).1.x) := by
  have hfit : v.computeNewViewOffsetFit targetX colX width mode =
      (computeNewViewOffset (targetX.getD v.targetViewPos + (v.areaFor mode).1.x)
        (v.areaFor mode).1.w colX width (v.areaFor mode).2).map (· - (v.areaFor mode).1.x) := by
    cases mode with
    | fullscreen => exact absurd rfl hmode
    | normal => exact (Option.map_eq_bind ..).symm
    | maximized => exact (Option.map_eq_bind ..).symm
  rw [hfit]
  refine (computeNewViewOffset_broughtIntoView _ _ colX width (areaFor_padding hgaps mode)).map
    fun offset hbrought => ?_
  rwa [add_assoc, sub_add_cancel]

theorem inSight_of_broughtIntoView {curX gaps pos : Rat} {area : Extent} (hgaps : 0 ≤ gaps)
    (h : BroughtIntoView curX area.w colX width gaps (pos + area.x)) :
    InSight area colX width pos where
  leftAligned := h.leftAligned
  whole hw := by
    have hpadding : 0 ≤ paddingOf area.w width gaps := le_min hgaps (by linarith)
    obtain ⟨hleft, hright⟩ := h.padded hw
    exact ⟨hpadding.trans hleft, hpadding.trans hright⟩

theorem computeNewViewOffsetFit_shows (hgaps : 0 ≤ v.gaps) (col : ColumnShape) (x : Rat) :
    Returns (v.computeNewViewOffsetFit targetX x col.width col.sizingMode) (v.Shows col x) := by
  by_cases hmode : col.sizingMode = .fullscreen
  · rw [hmode]
    refine returns_some ?_
    rw [Shows, hmode]
  · refine (computeNewViewOffsetFit_broughtIntoView hgaps hmode x col.width).mono
      fun offset hbrought => ?_
    have hsight := inSight_of_broughtIntoView (areaFor_padding hgaps col.sizingMode) hbrought
    revert hsight hmode
    unfold Shows
    cases col.sizingMode with
    | fullscreen => exact fun hmode => absurd rfl hmode
    | normal => exact fun _ hsight => hsight
    | maximized => exact fun _ hsight => hsight

/-- In the middle of its area, if it is narrower. -/
theorem inSight_centered {area : Extent} {x : Rat} (hw : width < area.w) :
    InSight area x width (x + (-(area.w - width) / 2 - area.x)) where
  leftAligned hwide := absurd hw hwide.not_gt
  whole _ := ⟨by linarith, by linarith⟩

theorem computeNewViewOffsetCentered_shows (hgaps : 0 ≤ v.gaps) (col : ColumnShape) (x : Rat) :
    Returns (v.computeNewViewOffsetCentered targetX x col.width col.sizingMode)
      (v.Shows col x) := by
  have hfit : Returns (v.computeNewViewOffsetFit targetX x col.width col.sizingMode)
      (v.Shows col x) := computeNewViewOffsetFit_shows hgaps col x
  unfold Shows at hfit ⊢
  unfold computeNewViewOffsetCentered
  revert hfit
  cases col.sizingMode with
  | fullscreen => exact fun hfit => hfit
  | normal | maximized =>
    exact fun hfit => returns_ite (fun _ => hfit)
      fun hnarrow => returns_some (inSight_centered (not_le.mp hnarrow))

theorem columnX_returns {idx : Nat} (h : idx ≤ v.columns.length) :
    ∃ x, v.columnX idx = some x := by
  have hlt : idx < (columnXs v.gaps 0 (v.columns.map ColumnShape.width)).length := by
    rw [columnXs_length, List.length_map]
    exact Nat.lt_succ_of_le h
  exact ⟨_, List.getElem?_eq_getElem hlt⟩

theorem totalWidth_returns {sourceIdx idx : Nat} (hsource : sourceIdx < v.columns.length)
    (hidx : idx < v.columns.length) : ∃ total, v.totalWidth sourceIdx idx = some total := by
  obtain ⟨sourceX, hsourceX⟩ := columnX_returns hsource.le
  obtain ⟨targetX, htargetX⟩ := columnX_returns hidx.le
  rw [totalWidth, hsourceX, htargetX, List.getElem?_eq_getElem hsource,
    List.getElem?_eq_getElem hidx]
  exact ⟨_, rfl⟩

/-- The view goes where a column is in sight, whichever column was left for it. -/
theorem computeNewViewOffsetForColumn_shows (hgaps : 0 ≤ v.gaps) {idx : Nat} {col : ColumnShape}
    {x : Rat} (hcol : v.columns[idx]? = some col) (hx : v.columnX idx = some x)
    (targetX : Option Rat) (prevIdx : Option Nat) :
    Returns (v.computeNewViewOffsetForColumn targetX idx prevIdx) (v.Shows col x) := by
  have hfit : Returns (v.computeNewViewOffsetForColumnFit targetX idx) (v.Shows col x) := by
    rw [computeNewViewOffsetForColumnFit, hcol, hx]
    exact computeNewViewOffsetFit_shows hgaps col x
  have hcentered : Returns (v.computeNewViewOffsetForColumnCentered targetX idx)
      (v.Shows col x) := by
    rw [computeNewViewOffsetForColumnCentered, hcol, hx]
    exact computeNewViewOffsetCentered_shows hgaps col x
  unfold computeNewViewOffsetForColumn
  refine returns_ite (fun _ => hcentered) fun _ => ?_
  cases v.centerFocusedColumn with
  | always => exact hcentered
  | never => exact hfit
  | onOverflow =>
    cases prevIdx with
    | none => exact hfit
    | some prevIdx =>
      refine returns_ite (fun _ => hfit) fun _ => ?_
      -- the neighbor on the side of the column that was left is clamped to the columns
      have hidx : idx < v.columns.length := (List.getElem?_eq_some_iff.mp hcol).1
      have hsource : (if prevIdx > idx then min (idx + 1) (v.columns.length - 1) else idx - 1) <
          v.columns.length := by
        split <;> omega
      obtain ⟨total, htotal⟩ := totalWidth_returns hsource hidx
      dsimp only
      rw [htotal]
      exact returns_ite (fun _ => hfit) fun _ => hcentered

/-- Two columns that overflow the view together. -/
def overflowing : ScrollView where
  columns := [⟨800, .normal⟩, ⟨700, .normal⟩]
  parentArea := ⟨0, 1280⟩
  workingArea := ⟨0, 1280⟩
  gaps := 16
  centerFocusedColumn := .onOverflow
  alwaysCenterSingleColumn := false
  targetViewPos := -16

theorem overflowing_shows :
    Returns (overflowing.computeNewViewOffsetForColumn none 1 (some 0))
      (overflowing.Shows ⟨700, .normal⟩ 816) :=
  computeNewViewOffsetForColumn_shows (by decide) rfl (by decide +kernel) none (some 0)

end ScrollView

end Cidre.Layout
