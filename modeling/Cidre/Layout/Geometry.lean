/-
  Cidre.Layout.Geometry

  The data of the scrolling layout (`src/layout/scrolling.rs`), and what its
  arithmetic answers.

  Lengths, offsets and weights are of an arbitrary type `F` with the operations
  of `f64` that the code uses on them; no law of arithmetic is assumed.  The
  sizes of the tiles, the animations and the position of the view are not part
  of the state.  What the code computes from them during a call comes with the
  call, as a `Geometry`: nothing is assumed about it, so that a statement about
  every `Geometry` is one about every size, animation and view position.
-/

import Cidre.Lib.Panic

namespace Cidre.Layout

inductive SizingMode where
  | normal
  | maximized
  | fullscreen
deriving DecidableEq, Repr

inductive ColumnDisplay where
  | normal
  | tabbed
deriving DecidableEq, Repr

inductive CenterFocusedColumn where
  | never
  | always
  | onOverflow
deriving DecidableEq, Repr

inductive ScrollDirection where
  | left
  | right
deriving DecidableEq, Repr

inductive PresetSize (F : Type) where
  | proportion (p : F)
  | fixed (px : Int)
deriving BEq

inductive ColumnWidth (F : Type) where
  | proportion (p : F)
  | fixed (px : F)
deriving BEq

inductive WindowHeight (F : Type) where
  | auto (weight : F)
  | fixed (px : F)
  | preset (idx : Nat)

def WindowHeight.isAuto {F : Type} : WindowHeight F → Bool
  | .auto _ => true
  | _ => false

inductive SizeChange (F : Type) where
  | setFixed (px : Int)
  | setProportion (percent : F)
  | adjustFixed (px : Int)
  | adjustProportion (percent : F)

def SizeChange.isSetFixed {F : Type} : SizeChange F → Bool
  | .setFixed _ => true
  | _ => false

/-- The options the structure of the layout depends on.  The configuration fills
    in the default presets wherever a list of presets is empty
    (`Layout::merge_with`), so neither list is. -/
structure Options (F : Type) where
  presetColumnWidths : List (PresetSize F)
  presetWindowHeights : List (PresetSize F)
  defaultColumnDisplay : ColumnDisplay
  centerFocusedColumn : CenterFocusedColumn
  alwaysCenterSingleColumn : Bool
  presetColumnWidths_ne : presetColumnWidths ≠ []
  presetWindowHeights_ne : presetWindowHeights ≠ []

/-- A tile and what the layout knows of its window: the sizing mode the client
    has committed, the one it was last asked for, and the window rule that
    overrides the default display of a column. -/
structure Tile (W F : Type) where
  id : W
  sizingMode : SizingMode
  pendingSizingMode : SizingMode
  defaultColumnDisplay : Option ColumnDisplay
  options : Options F

structure TileData (F : Type) where
  height : WindowHeight F

structure Column (W F : Type) where
  tiles : List (Tile W F)
  data : List (TileData F)
  activeTileIdx : Nat
  width : ColumnWidth F
  presetWidthIdx : Option Nat
  isFullWidth : Bool
  isPendingFullscreen : Bool
  isPendingMaximized : Bool
  displayMode : ColumnDisplay
  options : Options F

structure ColumnData (F : Type) where
  width : F

structure ResizeEdge where
  top : Bool
  bottom : Bool
  left : Bool
  right : Bool
deriving DecidableEq, Repr

structure InteractiveResize (W : Type) where
  window : W
  edges : ResizeEdge

/-- Who moves the view; `dnd` is set while a drag-and-drop scrolls it. -/
inductive ViewOffset where
  | static
  | animation
  | gesture (isTouchpad dnd : Bool)
deriving DecidableEq, Repr

structure ScrollingSpace (W F : Type) where
  columns : List (Column W F)
  data : List (ColumnData F)
  activeColumnIdx : Nat
  interactiveResize : Option (InteractiveResize W)
  viewOffset : ViewOffset
  activatePrevColumnOnRemoval : Option F
  viewOffsetToRestore : Option F
  options : Options F

structure RemovedTile (W F : Type) where
  tile : Tile W F
  width : ColumnWidth F
  isFullWidth : Bool
  isFloating : Bool

/-- What the arithmetic of the layout answers during one call. -/
structure Geometry (W F : Type) where
  /-- `Column::width` -/
  columnWidth : Column W F → F
  /-- `ColumnWidth::from` -/
  widthOfPreset : PresetSize F → ColumnWidth F
  /-- `SizeChange::from` -/
  changeOfPreset : PresetSize F → SizeChange F
  /-- an area, a gap, a border or the tab indicator changed with the options -/
  areaChanged : Bool
  /-- the height of a tile of the column over the median height -/
  weight : Column W F → Nat → F
  /-- the width `set_column_width` arrives at -/
  newWidth : Column W F → SizeChange F → Nat → ColumnWidth F
  /-- the window height `set_window_height` arrives at -/
  newHeight : Column W F → SizeChange F → Nat → F
  /-- the tile is narrower (wider) than the preset -/
  narrower : Column W F → Nat → PresetSize F → Bool
  wider : Column W F → Nat → PresetSize F → Bool
  /-- the tile is lower (higher) than the preset -/
  lower : Column W F → Nat → PresetSize F → Bool
  higher : Column W F → Nat → PresetSize F → Bool
  /-- `view_offset.stationary()` -/
  stationary : ScrollingSpace W F → F
  /-- the stationary offset moved by the distance of two columns -/
  stationaryFrom : ScrollingSpace W F → Nat → Nat → F
  /-- `compute_new_view_offset_for_column` -/
  newViewOffset : ScrollingSpace W F → Nat → Option Nat → F
  /-- `compute_new_view_offset_for_column_centered` -/
  centeredViewOffset : ScrollingSpace W F → Nat → F
  /-- the view offset that centres the visible columns, or shows the leftmost one -/
  spreadViewOffset : ScrollingSpace W F → F
  /-- the view already is at the offset, or moves there -/
  settled : ScrollingSpace W F → Nat → F → Bool
  /-- the animation of the view is over -/
  animationDone : Bool
  /-- the column begins left of the working area, or ends right of it -/
  offLeft : ScrollingSpace W F → Nat → Bool
  offRight : ScrollingSpace W F → Nat → Bool
  /-- the width left beside the visible columns is not positive -/
  noRoom : ScrollingSpace W F → Bool
  /-- the width of the active column with the width left beside it -/
  expandedWidth : ScrollingSpace W F → F
  /-- the commit changed the width of the column -/
  widthChanged : Bool
  /-- the window is being resized by the user -/
  windowResizing : Bool
  /-- where the view snaps to when the column is centred -/
  centerSnap : ScrollingSpace W F → Nat → F
  /-- where the view snaps to at the left and at the right of the column -/
  leftSnap : ScrollingSpace W F → Nat → F
  rightSnap : ScrollingSpace W F → Nat → F
  /-- how far a snapping point is from where the gesture would stop -/
  snapDistance : F → F
  /-- the gesture would stop to the right of where the view is -/
  towardsRight : Bool
  /-- at the snapping point the column is not fully in view -/
  notInView : ScrollingSpace W F → F → Nat → Bool
  /-- the drag did not scroll anything -/
  unscrolled : Bool
  /-- the drag still has an animation of its own -/
  dragAnimated : Bool
  /-- the window size the pointer asks for -/
  draggedSize : Int × Int

end Cidre.Layout
