/-
  Cidre.Workspace.Operations

  The operations of a workspace (`src/layout/workspace.rs`, `impl Workspace`).

  Most of them ask the layout that is active, or the one that has the window, to do
  something.  The others move windows between the layouts and keep track of which of the
  two is active.  An operation that panics answers `none`.
-/

import Cidre.Floating.Run
import Cidre.Workspace.Data

namespace Cidre

open Cidre.Panic
open Cidre.Floating (FloatingSpace PositionChange clampPreferringTopLeftInArea)
open Cidre.Layout (ScrollingSpace Column ColumnWidth Geometry)
open Cidre.Utils.Logical
open Cidre.Workspaces (ActivateWindow)

variable {W F : Type}

namespace Workspace

variable [One F] [BEq F] [DecidableEq W] (env : Env W F) (s : Workspace W F)

/-! ## The focus -/

def updateFocusFloatingTilingAfterRemoving (removedFromFloating : Bool) : Workspace W F :=
  if removedFromFloating then
    if s.floating.tiles = [] then { s with floatingIsActive := .no } else s
  else
    -- Scrolling stays focused if both are empty.
    if s.scrolling.columns = [] ∧ s.floating.tiles ≠ [] then { s with floatingIsActive := .yes }
    else s

def switchFocusFloatingTiling : Workspace W F :=
  if s.floating.tiles = [] then s
  else if s.scrolling.columns = [] then s
  else { s with floatingIsActive := if s.floatingIsActive.get then .no else .yes }

def focusFloating : Workspace W F :=
  if !s.floatingIsActive.get then s.switchFocusFloatingTiling else s

def focusTiling : Workspace W F :=
  if s.floatingIsActive.get then s.switchFocusFloatingTiling else s

/-! ## Adding -/

def keep (id : W) (kept : Kept) : Workspace W F :=
  { s with kept := Function.update s.kept id kept }

/-- A new tile comes to the floating layout, which is active if it or nothing else is. -/
def intoFloating (activate : Bool) (floating : Option (FloatingSpace W F)) :
    Option (Workspace W F) := do
  let floating ← floating
  return { s with
    floating := floating
    floatingIsActive :=
      if activate || s.scrolling.columns.isEmpty then .yes else s.floatingIsActive }

/-- Something new comes to the scrolling layout, which is active if it is. -/
def intoScrolling (activate : Bool) (scrolling : Option (ScrollingSpace W F)) :
    Option (Workspace W F) := do
  let scrolling ← scrolling
  return { s with
    scrolling := scrolling
    floatingIsActive := if activate then .no else s.floatingIsActive }

/-- A tile that is put next to a window of the scrolling layout is in the center above
    it: think a dialog that opens on top of a window. -/
def besideScrolling (nextTo : W) (tile : Floating.Tile W F) : Option (Floating.Tile W F) := do
  let nextToTile ← s.scrollingTile nextTo
  let renderPos := env.renderPos nextTo
  let nextToSize := (env.info nextToTile.id).tileSize
  let pos : Point :=
    ⟨renderPos.x + (nextToSize.w - tile.tileSize.w) / 2,
      renderPos.y + (nextToSize.h - tile.tileSize.h) / 2⟩
  let pos := s.floating.clampWithinWorkingArea pos tile.tileSize
  return { tile with floatingPos := some (s.floating.logicalToSizeFrac pos) }

/-- `activate.map_smart(|| self.active_window().unwrap().id() == next_to)` -/
def activatesNextTo (activate : ActivateWindow) (nextTo : W) : Option Bool :=
  match activate with
  | .smart => do
      let active ← s.activeWindow
      return active = nextTo
  | .yes => some true
  | .no => some false

def addTile (tile : FullTile W F) (target : WorkspaceAddWindowTarget W) (activate : ActivateWindow)
    (width : ColumnWidth F) (isFullWidth isFloating : Bool) : Option (Workspace W F) :=
  let tile := { tile with restoreToFloating := isFloating }
  let s := s.keep tile.id tile.kept
  let g := env.geometry
  -- A tile that is to be maximized or fullscreen opens where it can be.
  let floats := isFloating && decide (tile.pendingSizingMode = .normal)
  match target with
  | .auto =>
      let activate := activate.mapSmart (!s.isActivePendingFullscreen)
      if floats then
        s.intoFloating activate (s.floating.addTile (Floating.isChildOf env.parent) tile.toFloating activate)
      else
        s.intoScrolling activate
          (s.scrolling.addTile g none tile.toFloating.toTile activate width isFullWidth)
  | .newColumnAt colIdx =>
      let activate := activate.mapSmart false
      s.intoScrolling activate
        (s.scrolling.addTile g (some colIdx) tile.toFloating.toTile activate width isFullWidth)
  | .nextTo nextTo => do
      let activate ← s.activatesNextTo activate nextTo
      let floatingHasWindow := s.floating.hasWindow nextTo
      if floats then
        if floatingHasWindow then
          s.intoFloating activate
            (s.floating.addTileAbove (Floating.isChildOf env.parent) nextTo tile.toFloating activate)
        else
          let tile ← s.besideScrolling env nextTo tile.toFloating
          s.intoFloating activate (s.floating.addTile (Floating.isChildOf env.parent) tile activate)
      else if floatingHasWindow then
        s.intoScrolling activate
          (s.scrolling.addTile g none tile.toFloating.toTile activate width isFullWidth)
      else
        s.intoScrolling activate
          (s.scrolling.addTileRightOf g nextTo tile.toFloating.toTile activate width isFullWidth)

def addTileToColumn (colIdx : Nat) (tileIdx : Option Nat) (tile : FullTile W F) (activate : Bool) :
    Option (Workspace W F) :=
  let s := s.keep tile.id tile.kept
  s.intoScrolling activate
    (s.scrolling.addTileToColumn env.geometry colIdx tileIdx tile.toFloating.toTile activate)

/-- `add_column`, with what the tiles of the column keep -/
def addColumn (column : Column W F) (kept : W → Kept) (activate : Bool) : Option (Workspace W F) :=
  let s := { s with kept := fun id => if id ∈ column.ids then kept id else s.kept id }
  s.intoScrolling activate (s.scrolling.addColumn env.geometry none column activate)

/-! ## Removing -/

/-- A tile that comes out of the floating layout. -/
def outOfFloating (tile : Floating.Tile W F) : RemovedTile W F where
  tile := { tile with restoreToFloating := (s.kept tile.id).restoreToFloating }
  width := .fixed (env.tileWidth tile.id)
  isFullWidth := false
  isFloating := true

def outOfScrolling (removed : Layout.RemovedTile W F) : RemovedTile W F where
  tile := env.tile (s.kept removed.tile.id) removed.tile
  width := removed.width
  isFullWidth := removed.isFullWidth
  isFloating := removed.isFloating

def removeTile (id : W) : Option (RemovedTile W F × Workspace W F) :=
  if s.floating.hasWindow id then do
    let (tile, floating) ← s.floating.removeTile id
    return (s.outOfFloating env tile,
      { s with floating := floating }.updateFocusFloatingTilingAfterRemoving true)
  else do
    let (removed, scrolling) ← s.scrolling.removeTile env.geometry id
    return (s.outOfScrolling env removed,
      { s with scrolling := scrolling }.updateFocusFloatingTilingAfterRemoving false)

def removeActiveTile : Option (Option (RemovedTile W F) × Workspace W F) :=
  if s.floatingIsActive.get then do
    let (tile, floating) ← s.floating.removeActiveTile
    match tile with
    | none => return (none, s)
    | some tile =>
        return (some (s.outOfFloating env tile),
          { s with floating := floating }.updateFocusFloatingTilingAfterRemoving true)
  else do
    let (removed, scrolling) ← s.scrolling.removeActiveTile env.geometry
    match removed with
    | none => return (none, s)
    | some removed =>
        return (some (s.outOfScrolling env removed),
          { s with scrolling := scrolling }.updateFocusFloatingTilingAfterRemoving false)

def removeActiveColumn : Option (Option (Column W F) × Workspace W F) :=
  if s.floatingIsActive.get then some (none, s)
  else do
    let (column, scrolling) ← s.scrolling.removeActiveColumn env.geometry
    match column with
    | none => return (none, s)
    | some column =>
        return (some column,
          { s with scrolling := scrolling }.updateFocusFloatingTilingAfterRemoving false)

/-! ## Floating and tiling -/

/-- A tile that leaves the scrolling layout gets a floating position close to where it
    was, unless it has one. -/
def placed (tile : Floating.Tile W F) : Floating.Tile W F :=
  match s.floating.storedOrDefaultTilePos tile with
  | some _ => tile
  | none =>
      let offset : Rat := if s.scrolling.options.centerFocusedColumn = .always then 0 else 50
      let renderPos := env.renderPos tile.id
      let pos := s.floating.clampWithinWorkingArea ⟨renderPos.x + offset, renderPos.y + offset⟩
        tile.tileSize
      { tile with floatingPos := some (s.floating.logicalToSizeFrac pos) }

def toggleWindowFloating (id : Option W) : Option (Workspace W F) :=
  let activeId := s.activeWindow
  let targetIsActive := id.all fun id => some id = activeId
  match id.orElse fun _ => activeId with
  | none => some s
  | some id =>
      if s.hasWindow id then
        if s.floating.hasWindow id then do
          let (tile, floating) ← s.floating.removeTile id
          let removed := s.outOfFloating env tile
          let s := { s with floating := floating }.keep id removed.tile.kept
          s.intoScrolling targetIsActive
            (s.scrolling.addTile env.geometry none tile.toTile targetIsActive removed.width
              removed.isFullWidth)
        else do
          let (removed, scrolling) ← s.scrolling.removeTile env.geometry id
          let s := { s with scrolling := scrolling }
          let tile := s.placed env (env.tile (s.kept id) removed.tile).toFloating
          let floating ← s.floating.addTile (Floating.isChildOf env.parent) tile targetIsActive
          return { s with
            floating := floating
            floatingIsActive := if targetIsActive then .yes else s.floatingIsActive }
      else none

def setWindowFloating (id : Option W) (floating : Bool) : Option (Workspace W F) :=
  if s.inFloating id = floating then some s
  else s.toggleWindowFloating env id

/-! ## Fullscreen and maximized -/

/-- A window of the scrolling layout gets the mode.  Where it was normal and is not any
    more, its tile keeps whether it is to float again. -/
def applySizing (window : W) (restoreToFloating : Bool)
    (set : ScrollingSpace W F → Option (ScrollingSpace W F × Bool)) : Option (Workspace W F) := do
  let tile ← s.scrollingTile window
  let wasNormal := tile.pendingSizingMode = .normal
  let (scrolling, _) ← set s.scrolling
  let s := { s with scrolling := scrolling }
  let tile ← s.scrollingTile window
  if wasNormal ∧ tile.pendingSizingMode ≠ .normal then
    return s.keep window { s.kept window with restoreToFloating := restoreToFloating }
  else return s

def setFullscreen (window : W) (isFullscreen : Bool) : Option (Workspace W F) :=
  if s.floating.hasWindow window then
    if isFullscreen then do
      let s ← s.toggleWindowFloating env (some window)
      s.applySizing window true fun scrolling => scrolling.setFullscreen env.after window isFullscreen
    else some s
  else if !isFullscreen then do
    let col ← s.scrolling.columns.find? fun col => col.contains window
    -- From fullscreen to maximized it does not float yet.
    if col.isPendingFullscreen && !col.isPendingMaximized && (s.kept window).restoreToFloating then
      s.toggleWindowFloating env (some window)
    else
      s.applySizing window false fun scrolling =>
        scrolling.setFullscreen env.geometry window isFullscreen
  else
    s.applySizing window false fun scrolling =>
      scrolling.setFullscreen env.geometry window isFullscreen

def toggleFullscreen (window : W) : Option (Workspace W F) := do
  let tile ← (s.scrollingTiles ++ s.floating.tiles.map fun tile => tile.toTile).find? fun tile =>
    tile.id == window
  s.setFullscreen env window (tile.pendingSizingMode ≠ .fullscreen)

def setMaximized (window : W) (maximize : Bool) : Option (Workspace W F) :=
  if s.floating.hasWindow window then
    if maximize then do
      let s ← s.toggleWindowFloating env (some window)
      s.applySizing window true fun scrolling => scrolling.setMaximized env.after window maximize
    else some s
  else if !maximize then do
    let tile ← s.scrollingTile window
    -- A tile cannot go from maximized to fullscreen.
    if tile.pendingSizingMode = .maximized ∧ (s.kept window).restoreToFloating = true then
      s.toggleWindowFloating env (some window)
    else
      s.applySizing window false fun scrolling => scrolling.setMaximized env.geometry window maximize
  else
    s.applySizing window false fun scrolling => scrolling.setMaximized env.geometry window maximize

def toggleMaximized (window : W) : Option (Workspace W F) :=
  let current := (s.scrolling.columns.find? fun col => col.contains window).any fun col =>
    col.isPendingMaximized
  s.setMaximized env window !current

/-! ## Activation -/

/-- `activate_window` of the scrolling layout, and whether it has the window. -/
def activateScrolling (window : W) (active : FloatingActive) : Option (Workspace W F × Bool) :=
  if s.scrolling.columns.any fun col => col.contains window then do
    let scrolling ← s.scrolling.activateWindow env.geometry window
    return ({ s with scrolling := scrolling, floatingIsActive := active }, true)
  else some (s, false)

def activateWindow (window : W) : Option (Workspace W F × Bool) := do
  let (floating, found) ← s.floating.activateWindow (Floating.isChildOf env.parent) window
  if found then return ({ s with floating := floating, floatingIsActive := .yes }, true)
  else s.activateScrolling env window .no

def activateWindowWithoutRaising (window : W) : Option (Workspace W F × Bool) :=
  let (floating, found) := s.floating.activateWindowWithoutRaising window
  if found then some ({ s with floating := floating, floatingIsActive := .yes }, true)
  else
    s.activateScrolling env window
      (match s.floatingIsActive with
      | .no => .no
      | .noButRaised => .noButRaised
      | .yes => .noButRaised)

/-! ## The floating position of a tiled window -/

def PositionChange.sets : PositionChange → Bool
  | .setFixed _ | .setProportion _ => true
  | _ => false

/-- What `move_floating_window` stores in a tile of the scrolling layout. -/
def movedPos (tile : Layout.Tile W F) (x y : PositionChange) : Option Floating.SizeFrac := do
  let stored := s.floating.storedOrDefaultTilePos (env.tile (s.kept tile.id) tile).toFloating
  let pos ← stored.orElse fun _ =>
    if PositionChange.sets x && PositionChange.sets y then some ⟨0, 0⟩ else none
  let area := s.floating.workingArea
  return s.floating.logicalToSizeFrac
    ⟨x.apply area.size.w area.loc.x pos.x, y.apply area.size.h area.loc.y pos.y⟩

def moveFloatingWindow (id : Option W) (x y : PositionChange) : Option (Workspace W F) :=
  if s.inFloating id then do
    let floating ← s.floating.moveWindow id x y
    return { s with floating := floating }
  else
    match id.orElse fun _ => s.scrollingActive with
    | none => some s
    | some id => do
        let tile ← s.scrollingTile id
        match s.movedPos env tile x y with
        | none => return s
        | some pos => return s.keep id { s.kept id with floatingPos := some pos }

end Workspace

end Cidre
