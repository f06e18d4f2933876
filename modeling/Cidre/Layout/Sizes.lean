/-
  Cidre.Layout.Sizes

  The sizes of the tiles of a column (`src/layout/scrolling.rs`, `impl Column`, and
  the sizes of `src/layout/tile.rs`): how wide the column is, how the height of the
  working area is distributed among its tiles, and what a change of a width or a
  height comes to.

  What the sizes depend on, beside the column, are the `Metrics`: the working area, the
  gaps, the tab indicator, and the borders and constraints of the windows.  Lengths are
  exact rationals.  `Metrics.geometry` is the part of a `Geometry` that is computed from
  them.
-/

import Mathlib.Data.List.MinMax
import Cidre.Layout.Column
import Cidre.Utils.Logical

namespace Cidre.Layout

open Cidre.Utils.Logical (Size roundLogicalInPhysical clampTo)
open Cidre.Panic

variable {W : Type}

/-! ## Data -/

/-- `Size<i32, Logical>` -/
structure PixelSize where
  w : Int
  h : Int
deriving DecidableEq, Repr

inductive TabIndicatorPosition where
  | left
  | right
  | top
  | bottom
deriving DecidableEq, Repr

structure TabIndicator where
  off : Bool
  placeWithinColumn : Bool
  hideWhenSingleTab : Bool
  width : Rat
  gap : Rat
  position : TabIndicatorPosition
deriving DecidableEq, Repr

/-- What the sizes of a tile depend on. -/
structure TileMetrics where
  /-- the width of the border, unless it is off -/
  border : Option Rat
  minSize : PixelSize
  maxSize : PixelSize
  /-- of the window, as the client has committed it -/
  size : PixelSize
deriving DecidableEq, Repr

structure Metrics (W : Type) where
  viewSize : Size
  /-- without the struts -/
  parentArea : Size
  workingArea : Size
  scale : Rat
  gaps : Rat
  tabIndicator : TabIndicator
  tile : W → TileMetrics

inductive ResolvedSize where
  /-- of the tile, with its borders -/
  | tile (size : Rat)
  /-- of the window -/
  | window (size : Rat)

/-- `f64::from(i32::MAX)` -/
def i32Max : Rat := 2 ^ 31 - 1

/-! ## Tiles -/

def TabIndicator.extraSize (t : TabIndicator) (tabCount : Nat) (scale : Rat) : Size :=
  if t.off || !t.placeWithinColumn || (t.hideWhenSingleTab && tabCount == 1) then ⟨0, 0⟩
  else
    let size := max 0 (roundLogicalInPhysical scale t.width + roundLogicalInPhysical scale t.gap)
    match t.position with
    | .left | .right => ⟨size, 0⟩
    | .top | .bottom => ⟨0, size⟩

namespace TileMetrics

/-- What the border adds to both sides. -/
def decoration (t : TileMetrics) : Rat :=
  match t.border with
  | none => 0
  | some width => width * 2

def tileWidthForWindowWidth (t : TileMetrics) (size : Rat) : Rat := size + t.decoration

def tileHeightForWindowHeight (t : TileMetrics) (size : Rat) : Rat := size + t.decoration

def windowHeightForTileHeight (t : TileMetrics) (size : Rat) : Rat := size - t.decoration

/-- A border has a window of at least one pixel in it. -/
def minSizeNonfullscreen (t : TileMetrics) : Size :=
  match t.border with
  | none => ⟨t.minSize.w, t.minSize.h⟩
  | some width => ⟨max 1 t.minSize.w + width * 2, max 1 t.minSize.h + width * 2⟩

/-- A size of 0 is no constraint. -/
def maxSizeNonfullscreen (t : TileMetrics) : Size :=
  ⟨if 0 < t.maxSize.w then t.maxSize.w + t.decoration else t.maxSize.w,
    if 0 < t.maxSize.h then t.maxSize.h + t.decoration else t.maxSize.h⟩

/-- The least size of a tile, of at least one pixel. -/
def minTileSize (t : TileMetrics) : Size :=
  ⟨max t.minSizeNonfullscreen.w 1, max t.minSizeNonfullscreen.h 1⟩

/-- `request_tile_size`: the size the window is asked for. -/
def requestTileSize (t : TileMetrics) (size : Size) : PixelSize :=
  match t.border with
  | none => ⟨size.w.floor, size.h.floor⟩
  | some width => ⟨(max 1 (size.w - width * 2)).floor, (max 1 (size.h - width * 2)).floor⟩

end TileMetrics

namespace Metrics

variable (m : Metrics W) (col : Column W Rat)

/-- On the pixels of the output. -/
def toPixels (size : PixelSize) : Size :=
  ⟨roundLogicalInPhysical m.scale size.w, roundLogicalInPhysical m.scale size.h⟩

/-- The size of a tile around a window of that size. -/
def aroundWindow (tile : Tile W Rat) (size : Size) : Size :=
  match tile.sizingMode with
  | .fullscreen => ⟨max size.w m.viewSize.w, max size.h m.viewSize.h⟩
  | .maximized => size
  | .normal => ⟨size.w + (m.tile tile.id).decoration, size.h + (m.tile tile.id).decoration⟩

def windowSize (tile : Tile W Rat) : Size := m.toPixels (m.tile tile.id).size

def tileSize (tile : Tile W Rat) : Size := m.aroundWindow tile (m.windowSize tile)

/-! ## Widths -/

/-- Extra size taken up by elements in the column such as the tab indicator. -/
def extraSize : Size :=
  match col.displayMode with
  | .tabbed => m.tabIndicator.extraSize col.tiles.length m.scale
  | .normal => ⟨0, 0⟩

def resolvePresetSize (preset : PresetSize Rat) (viewSize extraSize : Rat) : ResolvedSize :=
  match preset with
  | .proportion proportion => .tile ((viewSize - m.gaps) * proportion - m.gaps - extraSize)
  | .fixed px => .window px

def resolvePresetHeight (preset : PresetSize Rat) : ResolvedSize :=
  m.resolvePresetSize preset m.workingArea.h (m.extraSize col).h

def resolveColumnWidth : ColumnWidth Rat → Rat
  | .proportion proportion =>
      (m.workingArea.w - m.gaps) * proportion - m.gaps - (m.extraSize col).w
  | .fixed width => width

/-- The width of the tiles, within the constraints of all of them; a column without
    tiles panics. -/
def requestedWidth : Option Rat := do
  let tiles := col.tiles.map fun tile => m.tile tile.id
  let minWidth ← (tiles.map fun t => t.minTileSize.w).max?
  let maxWidths := (tiles.map fun t => t.maxSizeNonfullscreen.w).filter fun w => w ≠ 0
  let maxWidth := max (maxWidths.min?.getD i32Max) minWidth
  let width := if col.isFullWidth then .proportion 1 else col.width
  return max (min (m.resolveColumnWidth col width) maxWidth) minWidth

/-! ## Heights -/

/-- The height of a tile, once it is one: what is left of `WindowHeight` when the fixed
    and preset ones are converted. -/
inductive TileHeight where
  | auto (weight : Rat)
  | fixed (height : Rat)
deriving DecidableEq, Repr

def TileHeight.isAuto : TileHeight → Bool
  | .auto _ => true
  | .fixed _ => false

/-- A tile in the middle of the distribution. -/
structure Slot where
  tile : TileMetrics
  height : TileHeight
deriving DecidableEq, Repr

namespace Slot

def minHeight (s : Slot) : Rat := s.tile.minTileSize.h

def maxHeight (s : Slot) : Rat := s.tile.maxSizeNonfullscreen.h

/-- The whole window height nearest to a tile height, and at least one pixel, as the
    height of the tile. -/
def rounded (s : Slot) (auto : Rat) : Rat :=
  s.tile.tileHeightForWindowHeight
    (max (Utils.Logical.round (s.tile.windowHeightForTileHeight auto) : Rat) 1)

def withFixed (s : Slot) (height : Rat) : Slot := { s with height := .fixed height }

/-- An exact height constraint fixes the height, and a fixed height is within the
    constraints. -/
def constrain (s : Slot) : Slot :=
  let height := if s.minHeight = s.maxHeight then .fixed s.minHeight else s.height
  match height with
  | .fixed h =>
      let h := if 0 < s.maxHeight then min h s.maxHeight else h
      s.withFixed (max h s.minHeight)
  | .auto weight => { s with height := .auto weight }

def weight (s : Slot) : Rat :=
  match s.height with
  | .auto weight => weight
  | .fixed _ => 0

/-- What is fixed already. -/
def taken (s : Slot) : Rat :=
  match s.height with
  | .auto _ => 0
  | .fixed height => height

end Slot

def maxTileHeight : Rat :=
  m.workingArea.h - m.gaps * 2 - (m.extraSize col).h

/-- The tiles with their data. -/
def cells : List (Tile W Rat × TileData Rat) := col.tiles.zip col.data

/-- With several windows in a column, the non-auto window leaves the other ones their
    least heights. -/
def maxNonAutoWindowHeight : Option Rat :=
  if 1 < col.tiles.length ∧ col.displayMode ≠ .tabbed then do
    let nonAutoIdx ← (cells col).findIdx? fun cell => !cell.2.height.isAuto
    let others := (cells col).eraseIdx nonAutoIdx
    let minHeightTaken :=
      (others.map fun cell => (m.tile cell.1.id).minTileSize.h + m.gaps).sum
    let cell ← (cells col)[nonAutoIdx]?
    let heightLeft := m.maxTileHeight col - minHeightTaken
    return max 1 (Utils.Logical.round ((m.tile cell.1.id).windowHeightForTileHeight heightLeft) : Rat)
  else none

/-- A window height as a tile height; a preset that is not configured panics. -/
def tileHeight (t : TileMetrics) : WindowHeight Rat → Option TileHeight
  | .auto weight => some (.auto weight)
  | .fixed height =>
      let windowHeight := max (Utils.Logical.round height : Rat) 1
      -- In any case, clamp to the working area height.
      let max := (m.maxNonAutoWindowHeight col).getD
        (Utils.Logical.round (t.windowHeightForTileHeight (m.maxTileHeight col)) : Rat)
      some (.fixed (t.tileHeightForWindowHeight (min windowHeight max)))
  | .preset idx => do
      let preset ← col.options.presetWindowHeights[idx]?
      let windowHeight :=
        match m.resolvePresetHeight col preset with
        | .tile h => t.windowHeightForTileHeight h
        | .window h => h
      let windowHeight := clampTo (Utils.Logical.round windowHeight) 1 100000
      let windowHeight :=
        match m.maxNonAutoWindowHeight col with
        | some max => min windowHeight max
        | none => windowHeight
      return .fixed (t.tileHeightForWindowHeight windowHeight)

/-- In a tabbed column all tiles have the height of the fixed one, if there is one; it is
    at least the least height of each tab that is not larger than the working area. -/
def tabbedHeight (slots : List Slot) : Option Rat := do
  let fixed := slots.findSome? fun s =>
    match s.height with
    | .fixed h => some h
    | .auto _ => none
  let minHeight ← (slots.map Slot.minHeight).max?
  return max (fixed.getD (m.maxTileHeight col)) (min (m.maxTileHeight col) minHeight)

/-- The tiles as the distribution of the height starts. -/
def slots : Option (List Slot) := do
  let slots ← (cells col).mapM fun cell => do
    let height ← m.tileHeight col (m.tile cell.1.id) cell.2.height
    return { tile := m.tile cell.1.id, height := height : Slot }
  match col.displayMode with
  | .tabbed =>
      let height ← m.tabbedHeight col slots
      return (slots.map fun s => s.withFixed height).map Slot.constrain
  | .normal => return slots.map Slot.constrain

end Metrics

/-! ## The distribution of the height -/

/-- The tiles, and what is left for the automatic ones. -/
structure Distribution where
  slots : List Metrics.Slot
  heightLeft : Rat
  totalWeight : Rat
  autoTilesLeft : Nat
deriving DecidableEq, Repr

namespace Distribution

open Metrics (Slot)

/-- The pass that checks the least heights: the first tile whose automatic height is less
    than its least gets that, and the answer says how much that is and what it weighs. -/
def pinFirst (heightLeft totalWeight : Rat) : List Slot → Option (List Slot × Rat × Rat)
  | [] => none
  | s :: slots =>
      match s.height with
      | .fixed _ => (pinFirst heightLeft totalWeight slots).map fun p => (s :: p.1, p.2)
      | .auto weight =>
          let auto := heightLeft * (weight / totalWeight)
          if auto < s.minHeight then some (s.withFixed s.minHeight :: slots, s.minHeight, weight)
          else
            (pinFirst (heightLeft - s.rounded auto) (totalWeight - weight) slots).map fun p =>
              (s :: p.1, p.2)

/-- The pass that fills the automatic heights in, with how many tiles are left. -/
def fill (heightLeft totalWeight : Rat) (autoTilesLeft : Nat) : List Slot → List Slot × Nat
  | [] => ([], autoTilesLeft)
  | s :: slots =>
      match s.height with
      | .fixed _ =>
          let p := fill heightLeft totalWeight autoTilesLeft slots
          (s :: p.1, p.2)
      | .auto weight =>
          let auto := s.rounded (heightLeft * (weight / totalWeight))
          let p := fill (heightLeft - auto) (totalWeight - weight) (autoTilesLeft - 1) slots
          (s.withFixed auto :: p.1, p.2)

/-- The loop, of at most `fuel` rounds.  A round either fixes one tile at its least height
    or fills in all that are left, and then asserts that none is. -/
def distribute : Nat → Distribution → Option Distribution
  | 0, d => if d.autoTilesLeft = 0 then some d else none
  | fuel + 1, d =>
      if d.autoTilesLeft = 0 then some d
      else
        match pinFirst d.heightLeft d.totalWeight d.slots with
        | some (slots, auto, weight) =>
            distribute fuel ⟨slots, d.heightLeft - auto, d.totalWeight - weight, d.autoTilesLeft - 1⟩
        | none =>
            let (slots, autoTilesLeft) :=
              fill d.heightLeft d.totalWeight d.autoTilesLeft d.slots
            if autoTilesLeft = 0 then some ⟨slots, d.heightLeft, d.totalWeight, 0⟩ else none

/-- What is left once the fixed tiles have their heights. -/
def start (workingHeight gaps : Rat) (slots : List Slot) : Distribution where
  slots := slots
  heightLeft := workingHeight - gaps * (slots.length + 1) - (slots.map Slot.taken).sum
  totalWeight := (slots.map Slot.weight).sum
  autoTilesLeft := slots.countP fun s => s.height.isAuto

/-- The heights; a tile without one panics. -/
def heights (d : Distribution) : Option (List Rat) :=
  d.slots.mapM fun s =>
    match s.height with
    | .fixed h => some h
    | .auto _ => none

end Distribution

namespace Metrics

variable (m : Metrics W) (col : Column W Rat)

/-- The heights of the tiles of a normal column, in the order of the tiles. -/
def tileHeights : Option (List Rat) := do
  let slots ← m.slots col
  let d ← Distribution.distribute slots.length
    (Distribution.start m.workingArea.h m.gaps slots)
  d.heights

/-- What a window is asked for. -/
structure SizeRequest where
  size : PixelSize
  mode : SizingMode
deriving DecidableEq, Repr

/-- `update_tile_sizes`: what each window is asked for. -/
def updateTileSizes : Option (List SizeRequest) :=
  match col.pendingSizingMode with
  | .fullscreen => some (col.tiles.map fun _ =>
      ⟨⟨Utils.Logical.round m.viewSize.w, Utils.Logical.round m.viewSize.h⟩, .fullscreen⟩)
  | .maximized => some (col.tiles.map fun _ =>
      ⟨⟨Utils.Logical.round m.parentArea.w, Utils.Logical.round m.parentArea.h⟩, .maximized⟩)
  | .normal => do
      let width ← m.requestedWidth col
      let heights ← m.tileHeights col
      return List.zipWith (fun tile height =>
        ⟨(m.tile tile.id).requestTileSize ⟨width, height⟩, .normal⟩) col.tiles heights

/-- The tile heights the windows are asked for. -/
def requestedTileHeights : Option (List Rat) := do
  let requests ← m.updateTileSizes col
  return List.zipWith (fun tile (request : SizeRequest) =>
    (m.tile tile.id).tileHeightForWindowHeight request.size.h) col.tiles requests

/-! ## Changes -/

/-- The width `set_column_width` starts from. -/
def currentWidth : ColumnWidth Rat :=
  if col.isFullWidth || col.isPendingMaximized then .proportion 1 else col.width

def maxPx : Rat := 100000

def maxF : Rat := 10000

/-- The width `set_column_width` arrives at. -/
def newWidth (change : SizeChange Rat) (tileIdx : Nat) : ColumnWidth Rat :=
  let current := currentWidth col
  let currentPx := m.resolveColumnWidth col current
  match current, change with
  | _, .setFixed fixed =>
      match col.tiles[tileIdx]? with
      | some tile =>
          .fixed (clampTo ((m.tile tile.id).tileWidthForWindowWidth fixed) 1 maxPx)
      | none => current
  | _, .setProportion proportion => .proportion (clampTo (proportion / 100) 0 maxF)
  | _, .adjustFixed delta => .fixed (clampTo (currentPx + delta) 1 maxPx)
  | .proportion current, .adjustProportion delta =>
      .proportion (clampTo (current + delta / 100) 0 maxF)
  | .fixed _, .adjustProportion delta =>
      let full := m.workingArea.w - m.gaps
      let current := if full = 0 then 1 else (currentPx + m.gaps + (m.extraSize col).w) / full
      .proportion (clampTo (current + delta / 100) 0 maxF)

/-- The height of the window that `set_window_height` starts from. -/
def currentWindowHeight (tile : Tile W Rat) : WindowHeight Rat → Rat
  | .auto _ | .preset _ => (m.windowSize tile).h
  | .fixed height => height

/-- The window height a change asks for, before it is clamped. -/
def changedHeight (tile : Tile W Rat) (current : WindowHeight Rat) (change : SizeChange Rat) :
    Rat :=
  let t := m.tile tile.id
  let currentWindowPx := m.currentWindowHeight tile current
  let currentTilePx := t.tileHeightForWindowHeight currentWindowPx
  let full := m.workingArea.h - m.gaps
  let currentProp := if full = 0 then 1 else (currentTilePx + m.gaps) / full
  let extra := (m.extraSize col).h
  match change with
  | .setFixed fixed => fixed
  | .setProportion proportion =>
      t.windowHeightForTileHeight ((m.workingArea.h - m.gaps) * (proportion / 100) - m.gaps - extra)
  | .adjustFixed delta => currentWindowPx + delta
  | .adjustProportion delta =>
      t.windowHeightForTileHeight
        ((m.workingArea.h - m.gaps) * (currentProp + delta / 100) - m.gaps - extra)

/-- The height other windows leave to the window at `tileIdx`. -/
def heightLeftFor (tile : Tile W Rat) (tileIdx : Nat) : Rat :=
  let minHeightTaken :=
    match col.displayMode with
    | .tabbed => 0
    | .normal => ((col.tiles.eraseIdx tileIdx).map fun tile =>
        max 1 (m.tile tile.id).minSizeNonfullscreen.h + m.gaps).sum
  let heightLeft := m.workingArea.h - (m.extraSize col).h - m.gaps - minHeightTaken - m.gaps
  max 1 ((m.tile tile.id).windowHeightForTileHeight heightLeft)

/-- A window height within the height that is left, and within the constraints. -/
def clampHeight (tile : Tile W Rat) (tileIdx : Nat) (windowHeight : Rat) : Rat :=
  let t := m.tile tile.id
  let windowHeight := min (m.heightLeftFor col tile tileIdx) windowHeight
  let windowHeight := if 0 < t.maxSize.h then min windowHeight t.maxSize.h else windowHeight
  let windowHeight := if 0 < t.minSize.h then max windowHeight t.minSize.h else windowHeight
  clampTo windowHeight 1 maxPx

/-- The window height `set_window_height` arrives at, of a column whose heights are freed
    already. -/
def newHeight (change : SizeChange Rat) (tileIdx : Nat) : Rat :=
  match (cells col)[tileIdx]? with
  | some (tile, d) => m.clampHeight col tile tileIdx (m.changedHeight col tile d.height change)
  | none => 0

/-- The median of the heights of the tiles, the upper one of two. -/
def medianHeight : Rat :=
  let heights := (col.tiles.map fun tile => (m.tileSize tile).h).mergeSort
  heights[heights.length / 2]?.getD 0

def weight (tileIdx : Nat) : Rat :=
  match col.tiles[tileIdx]? with
  | some tile => (m.tileSize tile).h / m.medianHeight col
  | none => 0

/-- `ColumnWidth::from` -/
def widthOfPreset : PresetSize Rat → ColumnWidth Rat
  | .proportion p => .proportion (clampTo p 0 maxF)
  | .fixed px => .fixed (clampTo px 1 maxPx)

/-- `SizeChange::from` -/
def changeOfPreset : PresetSize Rat → SizeChange Rat
  | .proportion p => .setProportion (p * 100)
  | .fixed px => .setFixed px

/-- The answers of a geometry that follow from the metrics. -/
def geometry (g : Geometry W Rat) : Geometry W Rat :=
  { g with
    weight := m.weight
    newWidth := m.newWidth
    newHeight := m.newHeight
    widthOfPreset := widthOfPreset
    changeOfPreset := changeOfPreset }

end Metrics

end Cidre.Layout
