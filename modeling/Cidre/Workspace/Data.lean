/-
  Cidre.Workspace.Data

  A workspace with its two layouts (`src/layout/workspace.rs`, `struct Workspace`).

  A window is in the scrolling or in the floating layout, and one of the two is active.
  What a tile keeps of the floating layout while it is in the scrolling one is kept
  beside the layouts, by window.
-/

import Cidre.Floating.Space
import Cidre.Layout.Scrolling
import Cidre.Workspaces.Monitor

namespace Cidre

open Cidre.Floating (FloatingSpace SizeFrac WindowSize FloatingPosition)
open Cidre.Layout (ScrollingSpace Column ColumnWidth Geometry)
open Cidre.Utils.Logical

inductive FloatingActive where
  | no
  /-- the scrolling layout is active, but the floating one is on top of it -/
  | noButRaised
  | yes
deriving DecidableEq, Repr

def FloatingActive.get (active : FloatingActive) : Bool := active = .yes

/-- What a tile keeps that the scrolling layout does not read.  While the window is in
    the floating layout, its size and its position are in the tile there. -/
structure Kept where
  restoreToFloating : Bool
  floatingWindowSize : Option WindowSize
  floatingPos : Option SizeFrac
deriving DecidableEq, Repr

structure Workspace (W F : Type) where
  scrolling : ScrollingSpace W F
  floating : FloatingSpace W F
  floatingIsActive : FloatingActive
  kept : W → Kept

variable {W F : Type}

namespace Workspace

/-- A tile with what both layouts read and store of it. -/
structure FullTile (W F : Type) extends toFloating : Floating.Tile W F where
  restoreToFloating : Bool

structure RemovedTile (W F : Type) where
  tile : FullTile W F
  width : ColumnWidth F
  isFullWidth : Bool
  isFloating : Bool

inductive WorkspaceAddWindowTarget (W : Type) where
  | auto
  | newColumnAt (colIdx : Nat)
  | nextTo (nextTo : W)

/-- What the floating layout reads of a window and of its tile. -/
structure WindowInfo where
  tileSize : Size
  expectedSize : Option WindowSize
  minSize : WindowSize
  maxSize : WindowSize
  requestedSize : Option WindowSize
  defaultFloatingPosition : Option FloatingPosition

/-- What a call finds out from the windows and from the arithmetic of the layouts. -/
structure Env (W F : Type) where
  geometry : Geometry W F
  /-- where a call goes to the scrolling layout twice, that of the second time -/
  after : Geometry W F
  parent : W → Option W
  info : W → WindowInfo
  renderPos : W → Point
  /-- the width of `tile_expected_or_current_size` -/
  tileWidth : W → F

/-- A tile of the scrolling layout with what else there is to it. -/
def Env.tile (env : Env W F) (kept : Kept) (tile : Layout.Tile W F) : FullTile W F where
  toTile := tile
  tileSize := (env.info tile.id).tileSize
  expectedSize := (env.info tile.id).expectedSize
  minSize := (env.info tile.id).minSize
  maxSize := (env.info tile.id).maxSize
  requestedSize := (env.info tile.id).requestedSize
  defaultFloatingPosition := (env.info tile.id).defaultFloatingPosition
  floatingWindowSize := kept.floatingWindowSize
  floatingPos := kept.floatingPos
  restoreToFloating := kept.restoreToFloating

def FullTile.kept (tile : FullTile W F) : Kept where
  restoreToFloating := tile.restoreToFloating
  floatingWindowSize := tile.floatingWindowSize
  floatingPos := tile.floatingPos

/-! ## Queries -/

def new (options : Layout.Options F) (workingArea : Rectangle) (kept : W → Kept) : Workspace W F where
  scrolling := ScrollingSpace.new options
  floating := FloatingSpace.new workingArea options
  floatingIsActive := .no
  kept := kept

def scrollingTiles (s : Workspace W F) : List (Layout.Tile W F) := s.scrolling.columns.flatMap Column.tiles

/-- `windows` -/
def windows (s : Workspace W F) : List W :=
  (s.scrollingTiles.map fun tile => tile.id) ++ s.floating.ids

def isActivePendingFullscreen (s : Workspace W F) : Bool :=
  s.scrolling.columns[s.scrolling.activeColumnIdx]?.any fun col => col.pendingSizingMode = .fullscreen

/-- `active_window` of the scrolling layout -/
def scrollingActive (s : Workspace W F) : Option W := do
  let col ← s.scrolling.columns[s.scrolling.activeColumnIdx]?
  let tile ← col.tiles[col.activeTileIdx]?
  return tile.id

variable [DecidableEq W]

def hasWindow (s : Workspace W F) (id : W) : Bool :=
  s.scrollingTiles.any (fun tile => tile.id == id) || s.floating.hasWindow id

def scrollingTile (s : Workspace W F) (id : W) : Option (Layout.Tile W F) :=
  s.scrollingTiles.find? fun tile => tile.id == id

/-- The window, or what is active, is in the floating layout. -/
def inFloating (s : Workspace W F) (window : Option W) : Bool :=
  window.elim s.floatingIsActive.get fun id => s.floating.hasWindow id

def activeWindow (s : Workspace W F) : Option W :=
  if s.floatingIsActive.get then s.floating.activeWindow.map fun tile => tile.id
  else s.scrollingActive

/-- The window whose rectangle `active_window_visual_rectangle` answers, if any of it is
    in view: the first tile of the floating layout, or the active tile of the active
    column. -/
def visualWindow (s : Workspace W F) : Option W :=
  if s.floatingIsActive.get then s.floating.tiles.head?.map fun tile => tile.id
  else s.scrollingActive

/-- `active_window_visual_rectangle`: where the layout of the window has it, cut off at the
    working area or at the view by `Rectangle::intersection`. -/
def activeWindowVisualRectangle (intersection : Rectangle → Rectangle → Option Rectangle)
    (windowRect : W → Rectangle) (view : Rectangle) (s : Workspace W F) : Option Rectangle := do
  let window ← s.visualWindow
  intersection (if s.floatingIsActive.get then s.floating.workingArea else view) (windowRect window)

end Workspace

end Cidre
