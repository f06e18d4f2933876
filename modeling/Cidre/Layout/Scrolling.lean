/-
  Cidre.Layout.Scrolling

  The operations of the scrolling layout (`src/layout/scrolling.rs`, `impl
  ScrollingSpace`), in the order of the source.

  An operation that panics answers `none`: an index out of bounds, a window
  that is looked up and not there, an assertion that fails.  `column_x(idx)`
  panics past the right end of the last column.
-/

import Cidre.Layout.Column

namespace Cidre.Layout

open Cidre.Panic

variable {W F : Type}

namespace ViewOffset

def isGesture : ViewOffset → Bool
  | .gesture _ _ => true
  | _ => false

def isDndScroll : ViewOffset → Bool
  | .gesture _ dnd => dnd
  | _ => false

def cancelGesture : ViewOffset → ViewOffset
  | .gesture _ _ => .static
  | v => v

/-- A new target: a drag keeps scrolling the view, anything else gives way to an
    animation. -/
def animated : ViewOffset → ViewOffset
  | .gesture isTouchpad true => .gesture isTouchpad true
  | _ => .animation

end ViewOffset

/-- `cancel_resize_for_column`, as far as the layout keeps the resize. -/
def cancelResizeForColumn [DecidableEq W] (resize : Option (InteractiveResize W))
    (col : Column W F) : Option (InteractiveResize W) :=
  match resize with
  | some r => if col.contains r.window then none else some r
  | none => none

/-- The column beside the one at `idx`. -/
def ScrollDirection.shift (direction : ScrollDirection) (idx : Nat) : Nat :=
  match direction with
  | .left => idx - 1
  | .right => idx + 1

namespace ScrollingSpace

def new (options : Options F) : ScrollingSpace W F :=
  { columns := []
    data := []
    activeColumnIdx := 0
    interactiveResize := none
    viewOffset := .static
    activatePrevColumnOnRemoval := none
    viewOffsetToRestore := none
    options := options }

variable [One F] [BEq F] [LT F] [DecidableLT F] [LE F] [DecidableLE F] [DecidableEq W]
  (g : Geometry W F) (s : ScrollingSpace W F)

def isCenteringFocusedColumn : Bool :=
  s.options.centerFocusedColumn == .always ||
    (s.options.alwaysCenterSingleColumn && s.columns.length ≤ 1)

/-! ## The view -/

def animateViewOffset (idx : Nat) (offset : F) : Option (ScrollingSpace W F) :=
  if idx ≤ s.data.length ∧ s.activeColumnIdx ≤ s.data.length then
    if g.settled s idx offset then some s
    else some { s with viewOffset := s.viewOffset.animated }
  else none

def animateViewOffsetToColumn (idx : Nat) (prevIdx : Option Nat) : Option (ScrollingSpace W F) := do
  let _ ← Vec.check true s.columns idx
  s.animateViewOffset g idx (g.newViewOffset s idx prevIdx)

def animateViewOffsetToColumnCentered (idx : Nat) : Option (ScrollingSpace W F) := do
  let _ ← Vec.check true s.columns idx
  s.animateViewOffset g idx (g.centeredViewOffset s idx)

def activateColumn (idx : Nat) : Option (ScrollingSpace W F) :=
  if s.activeColumnIdx = idx ∧ (s.columns = [] ∨ s.viewOffset.isDndScroll = false) then some s
  else do
    let s ← s.animateViewOffsetToColumn g idx (some s.activeColumnIdx)
    if s.activeColumnIdx ≠ idx then
      return { s with
        activeColumnIdx := idx
        activatePrevColumnOnRemoval := none
        viewOffsetToRestore := none
        interactiveResize := none }
    else return s

def updateConfig (options : Options F) : Option (ScrollingSpace W F) := do
  let columns ← s.columns.mapM fun col => col.updateConfig g options
  let s := { s with
    columns := columns
    data := (s.data.zip columns).map fun p => ⟨g.columnWidth p.2⟩
    options := options }
  if s.columns ≠ [] ∧ s.viewOffset.isGesture = false then
    s.animateViewOffsetToColumn g s.activeColumnIdx none
  else return s

def advanceAnimations : ScrollingSpace W F :=
  if s.viewOffset = .animation ∧ g.animationDone = true then { s with viewOffset := .static }
  else s

/-! ## Adding and removing -/

def addColumn (idx : Option Nat) (column : Column W F) (activate : Bool) :
    Option (ScrollingSpace W F) := do
  let wasEmpty := s.columns.isEmpty
  let idx := idx.getD (if wasEmpty then 0 else s.activeColumnIdx + 1)
  let column ← column.updateConfig g s.options
  let data ← Vec.insert s.data idx ⟨g.columnWidth column⟩
  let columns ← Vec.insert s.columns idx column
  let s := { s with
    data := data
    columns := columns
    activeColumnIdx :=
      if !wasEmpty && idx ≤ s.activeColumnIdx then s.activeColumnIdx + 1 else s.activeColumnIdx }
  if activate then
    let s := { s with viewOffset := if wasEmpty then .static else s.viewOffset }
    let prevOffset :=
      if !wasEmpty && idx = s.activeColumnIdx + 1 then some (g.stationary s) else none
    let s ← s.activateColumn g idx
    return { s with activatePrevColumnOnRemoval := prevOffset }
  else return s

def addTile (colIdx : Option Nat) (tile : Tile W F) (activate : Bool) (width : ColumnWidth F)
    (isFullWidth : Bool) : Option (ScrollingSpace W F) := do
  let column ← Column.newWithTile g tile width isFullWidth
  s.addColumn g colIdx column activate

/-- The active tile of a column moves down with a tile inserted above it. -/
def shiftActive (col : Column W F) (tileIdx prevActive : Nat) : Column W F :=
  if tileIdx ≤ prevActive then { col with activeTileIdx := col.activeTileIdx + 1 } else col

def addTileToColumn (colIdx : Nat) (tileIdx : Option Nat) (tile : Tile W F) (activate : Bool) :
    Option (ScrollingSpace W F) := do
  let col ← s.columns[colIdx]?
  let tileIdx := tileIdx.getD col.tiles.length
  let prevActive := col.activeTileIdx
  let col ← col.addTileAt tileIdx tile
  let _ ← Vec.check true s.data colIdx
  let data := s.data.set colIdx ⟨g.columnWidth col⟩
  let col := shiftActive col tileIdx prevActive
  let col ← applyIf activate (fun col => (col.activateIdx tileIdx).map Prod.fst) col
  let s := { s with columns := s.columns.set colIdx col, data := data }
  if activate ∧ s.activeColumnIdx ≠ colIdx then s.activateColumn g colIdx else return s

def addTileRightOf (rightOf : W) (tile : Tile W F) (activate : Bool) (width : ColumnWidth F)
    (isFullWidth : Bool) : Option (ScrollingSpace W F) := do
  let rightOfIdx ← s.columns.findIdx? fun col => col.contains rightOf
  s.addTile g (some (rightOfIdx + 1)) tile activate width isFullWidth

/-- The column that is active once the one at `columnIdx` is gone. -/
def activateAfterRemoval (columnIdx : Nat) : Option (ScrollingSpace W F) :=
  if s.columns = [] then some s
  else if columnIdx < s.activeColumnIdx then
    some { s with
      activeColumnIdx := s.activeColumnIdx - 1
      activatePrevColumnOnRemoval := none }
  else if columnIdx = s.activeColumnIdx ∧ s.activatePrevColumnOnRemoval.isSome then
    if 0 < columnIdx then do
      let prevOffset ← s.activatePrevColumnOnRemoval
      let s ← s.activateColumn g (s.activeColumnIdx - 1)
      let s ← s.animateViewOffset g s.activeColumnIdx prevOffset
      s.animateViewOffsetToColumn g s.activeColumnIdx none
    else some s
  else s.activateColumn g (min s.activeColumnIdx (s.columns.length - 1))

def removeColumnByIdx (columnIdx : Nat) : Option (Column W F × ScrollingSpace W F) := do
  let (column, columns) ← Vec.remove s.columns columnIdx
  let (_, data) ← Vec.remove s.data columnIdx
  let s := { s with
    columns := columns
    data := data
    interactiveResize := cancelResizeForColumn s.interactiveResize column
    activatePrevColumnOnRemoval :=
      if columnIdx + 1 = s.activeColumnIdx then none else s.activatePrevColumnOnRemoval
    viewOffsetToRestore :=
      if columnIdx = s.activeColumnIdx then none else s.viewOffsetToRestore }
  let s ← s.activateAfterRemoval g columnIdx
  return (column, s)

def removeActiveColumn : Option (Option (Column W F) × ScrollingSpace W F) :=
  if s.columns = [] then some (none, s)
  else do
    let (column, s) ← s.removeColumnByIdx g s.activeColumnIdx
    return (some column, s)

/-- The resize of the window `id` is over. -/
def stopResizeOf (resize : Option (InteractiveResize W)) (id : W) : Option (InteractiveResize W) :=
  match resize with
  | some r => if id = r.window then none else some r
  | none => none

def removeTileByIdx (columnIdx tileIdx : Nat) : Option (RemovedTile W F × ScrollingSpace W F) := do
  let column ← s.columns[columnIdx]?
  if column.tiles.length = 1 then
    let (column, s) ← s.removeColumnByIdx g columnIdx
    let (tile, _) ← Vec.remove column.tiles tileIdx
    return (⟨tile, column.width, column.isFullWidth, false⟩, s)
  else
    let wasNormal := column.sizingMode = .normal
    let (tile, column) ← column.removeTileAt tileIdx
    let _ ← Vec.check true s.data columnIdx
    let s := { s with
      columns := s.columns.set columnIdx column
      data := s.data.set columnIdx ⟨g.columnWidth column⟩
      interactiveResize := stopResizeOf s.interactiveResize tile.id
      viewOffsetToRestore :=
        if columnIdx = s.activeColumnIdx ∧ ¬ wasNormal ∧ column.sizingMode = .normal then none
        else s.viewOffsetToRestore }
    return (⟨tile, column.width, column.isFullWidth, false⟩, s)

/-- The column and the tile of a window. -/
def locate (window : W) : Option (Nat × Nat) := do
  let columnIdx ← s.columns.findIdx? fun col => col.contains window
  let column ← s.columns[columnIdx]?
  let tileIdx ← column.position window
  return (columnIdx, tileIdx)

def removeTile (window : W) : Option (RemovedTile W F × ScrollingSpace W F) := do
  let (columnIdx, tileIdx) ← s.locate window
  s.removeTileByIdx g columnIdx tileIdx

def removeActiveTile : Option (Option (RemovedTile W F) × ScrollingSpace W F) :=
  if s.columns = [] then some (none, s)
  else do
    let column ← s.columns[s.activeColumnIdx]?
    let (removed, s) ← s.removeTileByIdx g s.activeColumnIdx column.activeTileIdx
    return (some removed, s)

/-! ## Commits and focus -/

/-- The part of `update_window` that concerns the view, for the active column. -/
def updateViewAfterCommit (colIdx : Nat) (wasNormal isNormal : Bool) :
    Option (ScrollingSpace W F) := do
  let s := { s with
    viewOffset :=
      if g.widthChanged && g.windowResizing then s.viewOffset.cancelGesture else s.viewOffset }
  let restored := if !wasNormal && isNormal then s.viewOffsetToRestore else none
  let s := { s with
    viewOffsetToRestore :=
      if wasNormal && !isNormal then some (g.stationary s)
      else if !wasNormal && isNormal then none
      else s.viewOffsetToRestore }
  if s.interactiveResize.isNone && !s.viewOffset.isGesture then
    let s ← restored.elim (some s) fun offset => s.animateViewOffset g colIdx offset
    s.animateViewOffsetToColumn g colIdx none
  else return s

/-- `update_window` after a commit of the window, which is now in `mode`. -/
def updateWindow (window : W) (mode : SizingMode) : Option (ScrollingSpace W F) := do
  let colIdx ← s.columns.findIdx? fun col => col.contains window
  let column ← s.columns[colIdx]?
  let wasNormal := decide (column.sizingMode = .normal)
  let column ← column.updateWindow window mode
  let _ ← Vec.check true s.data colIdx
  let data := s.data.set colIdx ⟨g.columnWidth column⟩
  let column ← column.updateTileSizes
  let s := { s with columns := s.columns.set colIdx column, data := data }
  if colIdx = s.activeColumnIdx then
    s.updateViewAfterCommit g colIdx wasNormal (decide (column.sizingMode = .normal))
  else return s

/-- Replaces the column at `colIdx` by what `f` makes of it. -/
def onColumn (colIdx : Nat) (f : Column W F → Option (Column W F)) : Option (ScrollingSpace W F) := do
  let col ← s.columns[colIdx]?
  let col ← f col
  return { s with columns := s.columns.set colIdx col }

/-- The same on the active column, if there is one. -/
def onActiveColumn (f : Column W F → Option (Column W F)) : Option (ScrollingSpace W F) :=
  if s.columns = [] then some s else s.onColumn s.activeColumnIdx f

def activateWindow (window : W) : Option (ScrollingSpace W F) :=
  match s.columns.findIdx? fun col => col.contains window with
  | none => some s
  | some columnIdx => do
      let s ← s.onColumn columnIdx fun col => col.activateWindow window
      s.activateColumn g columnIdx

def focusLeft : Option (ScrollingSpace W F) :=
  if s.activeColumnIdx = 0 then some s else s.activateColumn g (s.activeColumnIdx - 1)

def focusRight : Option (ScrollingSpace W F) :=
  if s.activeColumnIdx + 1 ≥ s.columns.length then some s
  else s.activateColumn g (s.activeColumnIdx + 1)

def focusColumnFirst : Option (ScrollingSpace W F) :=
  s.activateColumn g 0

def focusColumnLast : Option (ScrollingSpace W F) :=
  if s.columns = [] then some s else s.activateColumn g (s.columns.length - 1)

def focusColumn (index : Nat) : Option (ScrollingSpace W F) :=
  if s.columns = [] then some s
  else s.activateColumn g (min (index - 1) (s.columns.length - 1))

def focusWindowInColumn (index : Nat) : Option (ScrollingSpace W F) :=
  s.onActiveColumn fun col => col.focusIndex index

def focusDown : Option (ScrollingSpace W F) :=
  s.onActiveColumn fun col => col.focusDown.map Prod.fst

def focusUp : Option (ScrollingSpace W F) :=
  s.onActiveColumn fun col => col.focusUp.map Prod.fst

def focusTop : Option (ScrollingSpace W F) :=
  s.onActiveColumn Column.focusTop

def focusBottom : Option (ScrollingSpace W F) :=
  s.onActiveColumn Column.focusBottom

/-- `focus_down_or_left` and its siblings: focus another tile of the active
    column with `inColumn`, or else another column with `across`. -/
def focusTileOr (inColumn : Column W F → Option (Column W F × Bool))
    (across : ScrollingSpace W F → Option (ScrollingSpace W F)) : Option (ScrollingSpace W F) :=
  if s.columns = [] then some s
  else do
    let col ← s.columns[s.activeColumnIdx]?
    let (col, moved) ← inColumn col
    let s := { s with columns := s.columns.set s.activeColumnIdx col }
    if moved then return s else across s

def focusDownOrLeft : Option (ScrollingSpace W F) :=
  s.focusTileOr Column.focusDown (focusLeft g)

def focusDownOrRight : Option (ScrollingSpace W F) :=
  s.focusTileOr Column.focusDown (focusRight g)

def focusUpOrLeft : Option (ScrollingSpace W F) :=
  s.focusTileOr Column.focusUp (focusLeft g)

def focusUpOrRight : Option (ScrollingSpace W F) :=
  s.focusTileOr Column.focusUp (focusRight g)

/-! ## Moving -/

def moveColumnTo (newIdx : Nat) : Option (ScrollingSpace W F) :=
  if s.activeColumnIdx = newIdx then some s
  else do
    let (column, columns) ← Vec.remove s.columns s.activeColumnIdx
    let (d, data) ← Vec.remove s.data s.activeColumnIdx
    let resize := cancelResizeForColumn s.interactiveResize column
    let columns ← Vec.insert columns newIdx column
    let data ← Vec.insert data newIdx d
    activateColumn g { s with columns := columns, data := data, interactiveResize := resize } newIdx

def moveColumnToIndex (index : Nat) : Option (ScrollingSpace W F) :=
  if s.columns = [] then some s
  else s.moveColumnTo g (min (index - 1) (s.columns.length - 1))

def moveLeft : Option (ScrollingSpace W F) :=
  if s.activeColumnIdx = 0 then some s else s.moveColumnTo g (s.activeColumnIdx - 1)

def moveRight : Option (ScrollingSpace W F) :=
  if s.activeColumnIdx + 1 ≥ s.columns.length then some s
  else s.moveColumnTo g (s.activeColumnIdx + 1)

def moveColumnToFirst : Option (ScrollingSpace W F) :=
  s.moveColumnTo g 0

def moveColumnToLast : Option (ScrollingSpace W F) :=
  if s.columns = [] then some s else s.moveColumnTo g (s.columns.length - 1)

def moveDown : Option (ScrollingSpace W F) :=
  s.onActiveColumn fun col => col.moveDown.map Prod.fst

def moveUp : Option (ScrollingSpace W F) :=
  s.onActiveColumn fun col => col.moveUp.map Prod.fst

/-- The tile an operation moves: that of the window, or the active one. -/
def sourceTile (window : Option W) : Option (Nat × Nat) :=
  match window with
  | some window => s.locate window
  | none => do
      let column ← s.columns[s.activeColumnIdx]?
      return (s.activeColumnIdx, column.activeTileIdx)

def consumeOrExpelWindowLeft (window : Option W) : Option (ScrollingSpace W F) :=
  if s.columns = [] then some s
  else do
    let (sourceColIdx, sourceTileIdx) ← s.sourceTile window
    let source ← s.columns[sourceColIdx]?
    let wasActive :=
      decide (s.activeColumnIdx = sourceColIdx) && decide (source.activeTileIdx = sourceTileIdx)
    if source.tiles.length = 1 then
      if sourceColIdx = 0 then return s
      else
        let targetColIdx := sourceColIdx - 1
        -- The target column is activated by the removal of the source column.
        let prev := s.activatePrevColumnOnRemoval.getD
          (g.stationaryFrom s sourceColIdx targetColIdx)
        let s := { s with
          activatePrevColumnOnRemoval :=
            if wasActive then some prev else s.activatePrevColumnOnRemoval }
        let (removed, s) ← s.removeTileByIdx g sourceColIdx 0
        s.addTileToColumn g targetColIdx none removed.tile wasActive
    else
      let (removed, s) ← s.removeTileByIdx g sourceColIdx sourceTileIdx
      let s ← s.addTile g (some sourceColIdx) removed.tile wasActive removed.width
        removed.isFullWidth
      -- The new column is on the left: no further left on its removal.
      return { s with
        activatePrevColumnOnRemoval :=
          if wasActive then none else s.activatePrevColumnOnRemoval }

def consumeOrExpelWindowRight (window : Option W) : Option (ScrollingSpace W F) :=
  if s.columns = [] then some s
  else do
    let (sourceColIdx, sourceTileIdx) ← s.sourceTile window
    let source ← s.columns[sourceColIdx]?
    let wasActive :=
      decide (s.activeColumnIdx = sourceColIdx) && decide (source.activeTileIdx = sourceTileIdx)
    if source.tiles.length = 1 then
      if sourceColIdx + 1 = s.columns.length then return s
      else
        let s := { s with
          activatePrevColumnOnRemoval :=
            if wasActive then none else s.activatePrevColumnOnRemoval }
        let (removed, s) ← s.removeTileByIdx g sourceColIdx 0
        s.addTileToColumn g sourceColIdx none removed.tile wasActive
    else
      let (removed, s) ← s.removeTileByIdx g sourceColIdx sourceTileIdx
      s.addTile g (some (sourceColIdx + 1)) removed.tile wasActive removed.width
        removed.isFullWidth

def consumeIntoColumn : Option (ScrollingSpace W F) :=
  if s.columns.length < 2 then some s
  else if s.activeColumnIdx = s.columns.length - 1 then some s
  else do
    let targetColIdx := s.activeColumnIdx
    let (removed, s) ← s.removeTileByIdx g (s.activeColumnIdx + 1) 0
    s.addTileToColumn g targetColIdx none removed.tile false

def expelFromColumn : Option (ScrollingSpace W F) :=
  if s.columns = [] then some s
  else do
    let sourceColIdx := s.activeColumnIdx
    let source ← s.columns[sourceColIdx]?
    if source.tiles.length = 1 then return s
    else
      let (removed, s) ← s.removeTileByIdx g sourceColIdx (source.tiles.length - 1)
      s.addTile g (some (sourceColIdx + 1)) removed.tile false removed.width removed.isFullWidth

/-- `self.columns[colIdx].active_tile_idx = tileIdx`. -/
def setActiveTile (colIdx tileIdx : Nat) : Option (ScrollingSpace W F) :=
  s.onColumn colIdx fun col => some { col with activeTileIdx := tileIdx }

/-- Puts a tile in front of another and takes that one out. -/
def replaceTile (colIdx tileIdx : Nat) (tile : Tile W F) :
    Option (RemovedTile W F × ScrollingSpace W F) := do
  let s ← s.addTileToColumn g colIdx (some tileIdx) tile false
  s.removeTileByIdx g colIdx (tileIdx + 1)

/-- Where the target column is once the source tile is taken out. -/
def adjustedTarget (direction : ScrollDirection) (targetColIdx : Nat) (sourceDrained : Bool) : Nat :=
  if direction = .right ∧ sourceDrained = true then targetColIdx - 1 else targetColIdx

/-- The exchange of two tiles in `swap_window_in_direction`: the source tile goes
    in front of the target tile, which goes where the source tile was.  A source
    column that had no other tile is gone in between and is created anew. -/
def swapTiles (direction : ScrollDirection)
    (sourceColIdx sourceTileIdx targetColIdx targetTileIdx : Nat) (sourceDrained : Bool) :
    Option (ScrollingSpace W F) := do
  let (sourceRemoved, s) ← s.removeTileByIdx g sourceColIdx sourceTileIdx
  let adjusted := adjustedTarget direction targetColIdx sourceDrained
  let (targetRemoved, s) ← s.replaceTile g adjusted targetTileIdx sourceRemoved.tile
  if sourceDrained then
    s.addTile g (some sourceColIdx) targetRemoved.tile true sourceRemoved.width
      sourceRemoved.isFullWidth
  else s.addTileToColumn g sourceColIdx (some sourceTileIdx) targetRemoved.tile false

def swapWindowInDirection (direction : ScrollDirection) : Option (ScrollingSpace W F) :=
  if s.columns = [] then some s
  else if direction = .left ∧ s.activeColumnIdx = 0 then some s
  else if direction = .right ∧ s.activeColumnIdx = s.columns.length - 1 then some s
  else do
    let sourceColIdx := s.activeColumnIdx
    let targetColIdx := direction.shift s.activeColumnIdx
    let source ← s.columns[sourceColIdx]?
    let target ← s.columns[targetColIdx]?
    if source.tiles.length = 1 ∧ target.tiles.length = 1 then s.moveColumnTo g targetColIdx
    else
      let sourceTileIdx := source.activeTileIdx
      let targetTileIdx := target.activeTileIdx
      let s ← s.swapTiles g direction sourceColIdx sourceTileIdx targetColIdx targetTileIdx
        (source.tiles.length = 1)
      let s ← s.setActiveTile sourceColIdx sourceTileIdx
      let s ← s.setActiveTile targetColIdx targetTileIdx
      s.activateColumn g targetColIdx

/-! ## Display and size -/

/-- `set_fullscreen` and `set_maximized`: `pending` is the flag of the column and
    `set` what sets it.  A window that shares a normal column gets one of its own. -/
def setSizing (pending : Column W F → Bool) (set : Column W F → Bool → Option (Column W F))
    (window : W) (value : Bool) : Option (ScrollingSpace W F × Bool) := do
  let colIdx ← s.columns.findIdx? fun col => col.contains window
  let col ← s.columns[colIdx]?
  if value = pending col then return (s, false)
  else
    let s := { s with interactiveResize := cancelResizeForColumn s.interactiveResize col }
    let extract := decide (value = true ∧ col.tiles.length > 1 ∧ col.displayMode ≠ .tabbed)
    let s ← applyIf extract (fun s => s.consumeOrExpelWindowRight g (some window)) s
    let colIdx := if extract then colIdx + 1 else colIdx
    let col ← s.columns[colIdx]?
    let col ← set col value
    let _ ← Vec.check true s.data colIdx
    return ({ s with
      columns := s.columns.set colIdx col
      data := s.data.set colIdx ⟨g.columnWidth col⟩ }, true)

def setFullscreen (window : W) (isFullscreen : Bool) : Option (ScrollingSpace W F × Bool) :=
  s.setSizing g Column.isPendingFullscreen Column.setFullscreen window isFullscreen

def setMaximized (window : W) (maximize : Bool) : Option (ScrollingSpace W F × Bool) :=
  s.setSizing g Column.isPendingMaximized Column.setMaximized window maximize

def setColumnDisplay (display : ColumnDisplay) : Option (ScrollingSpace W F) :=
  if s.columns = [] then some s
  else do
    let col ← s.columns[s.activeColumnIdx]?
    if col.displayMode = display then return s
    else
      let resize := cancelResizeForColumn s.interactiveResize col
      let col ← col.setColumnDisplay display
      let _ ← Vec.check true s.data s.activeColumnIdx
      let data := s.data.set s.activeColumnIdx ⟨g.columnWidth col⟩
      let col ← col.updateTileSizes
      let s := { s with
        columns := s.columns.set s.activeColumnIdx col
        data := data
        interactiveResize := resize }
      -- A normal column of several windows is neither fullscreen nor maximized.
      if col.displayMode ≠ .tabbed ∧ col.tiles.length > 1 then
        let tile ← col.tiles[col.activeTileIdx]?
        let (s, _) ← s.setFullscreen g tile.id false
        let (s, _) ← s.setMaximized g tile.id false
        return s
      else return s

def toggleColumnTabbedDisplay : Option (ScrollingSpace W F) :=
  if s.columns = [] then some s
  else do
    let col ← s.columns[s.activeColumnIdx]?
    match col.displayMode with
    | .normal => s.setColumnDisplay g .tabbed
    | .tabbed => s.setColumnDisplay g .normal

def centerColumn : Option (ScrollingSpace W F) :=
  if s.columns = [] then some s
  else do
    let s ← s.animateViewOffsetToColumnCentered g s.activeColumnIdx
    let col ← s.columns[s.activeColumnIdx]?
    return { s with interactiveResize := cancelResizeForColumn s.interactiveResize col }

def centerWindow (window : Option W) : Option (ScrollingSpace W F) :=
  if s.columns = [] then some s
  else do
    let colIdx ← window.elim (some s.activeColumnIdx) fun window =>
      s.columns.findIdx? fun col => col.contains window
    if colIdx ≠ s.activeColumnIdx then return s else s.centerColumn g

/-- The columns that are fully inside the working area, from the left. -/
def visibleColumns : List Nat :=
  ((List.range s.columns.length).filter fun idx => !g.offLeft s idx).takeWhile fun idx =>
    !g.offRight s idx

def centerVisibleColumns : Option (ScrollingSpace W F) :=
  if s.columns = [] ∨ s.isCenteringFocusedColumn = true then some s
  else if s.activeColumnIdx ∉ s.visibleColumns g then some s
  else do
    let col ← s.columns[s.activeColumnIdx]?
    let s := { s with interactiveResize := cancelResizeForColumn s.interactiveResize col }
    let s ← s.animateViewOffset g s.activeColumnIdx (g.spreadViewOffset s)
    s.animateViewOffsetToColumn g s.activeColumnIdx none

/-- A change of the size of a column or of one of its windows: that of the given
    window or of the active one. -/
def resizeColumn (window : Option W) (f : Column W F → Option Nat → Option (Column W F)) :
    Option (ScrollingSpace W F) :=
  if s.columns = [] then some s
  else do
    let (colIdx, tileIdx) ← window.elim (some (s.activeColumnIdx, none)) fun window =>
      (s.locate window).map fun p => (p.1, some p.2)
    let col ← s.columns[colIdx]?
    let col ← f col tileIdx
    return { s with
      columns := s.columns.set colIdx col
      interactiveResize := cancelResizeForColumn s.interactiveResize col }

def toggleWidth (forwards : Bool) : Option (ScrollingSpace W F) :=
  s.resizeColumn none fun col tileIdx => col.toggleWidth g tileIdx forwards

def toggleFullWidth : Option (ScrollingSpace W F) :=
  s.resizeColumn none fun col _ => col.toggleFullWidth

def setWindowWidth (window : Option W) (change : SizeChange F) : Option (ScrollingSpace W F) :=
  s.resizeColumn window fun col tileIdx => col.setColumnWidth g change tileIdx

def setWindowHeight (window : Option W) (change : SizeChange F) : Option (ScrollingSpace W F) :=
  s.resizeColumn window fun col tileIdx => col.setWindowHeight g change tileIdx

def resetWindowHeight (window : Option W) : Option (ScrollingSpace W F) :=
  s.resizeColumn window fun col tileIdx => col.resetWindowHeight tileIdx

def toggleWindowWidth (window : Option W) (forwards : Bool) : Option (ScrollingSpace W F) :=
  s.resizeColumn window fun col tileIdx => col.toggleWidth g tileIdx forwards

def toggleWindowHeight (window : Option W) (forwards : Bool) : Option (ScrollingSpace W F) :=
  s.resizeColumn window fun col tileIdx => col.toggleWindowHeight g tileIdx forwards

def expandColumnToAvailableWidth : Option (ScrollingSpace W F) :=
  if s.columns = [] then some s
  else do
    let col ← s.columns[s.activeColumnIdx]?
    if col.pendingSizingMode ≠ .normal ∨ col.isFullWidth = true then return s
    else if s.isCenteringFocusedColumn then s.toggleFullWidth
    else if s.activeColumnIdx ∉ s.visibleColumns g ∨ g.noRoom s = true then return s
    else if ∀ idx ∈ s.visibleColumns g, idx = s.activeColumnIdx then s.toggleFullWidth
    else
      let expanded := { col with
        width := .fixed (g.expandedWidth s), presetWidthIdx := none, isFullWidth := false }
      let expanded ← expanded.updateTileSizes
      let s := { s with
        columns := s.columns.set s.activeColumnIdx expanded
        interactiveResize := cancelResizeForColumn s.interactiveResize col }
      let s ← s.animateViewOffset g s.activeColumnIdx (g.spreadViewOffset s)
      s.animateViewOffsetToColumn g s.activeColumnIdx none

/-! ## Gestures -/

def viewOffsetGestureBegin (isTouchpad : Bool) : ScrollingSpace W F :=
  if s.columns = [] then s
  else if s.interactiveResize.isSome then s
  else { s with viewOffset := .gesture isTouchpad false }

def dndScrollGestureBegin : ScrollingSpace W F :=
  if s.viewOffset.isDndScroll then s
  else { s with viewOffset := .gesture false true, interactiveResize := none }

/-- `view_offset_gesture_update`: only the position of the view changes. -/
def viewOffsetGestureUpdate (isTouchpad : Bool) : ScrollingSpace W F × Option Bool :=
  match s.viewOffset with
  | .gesture touchpad dnd => (s, if touchpad ≠ isTouchpad ∨ dnd = true then none else some true)
  | _ => (s, none)

/-- `dnd_scroll_gesture_scroll`, by a `delta` that is zero or not. -/
def dndScrollGestureScroll (zero : Bool) : ScrollingSpace W F × Bool :=
  (s, s.viewOffset.isDndScroll && !zero)

/-- The points the view snaps to, with the column each of them activates. -/
def snappingPoints : List (F × Nat) :=
  let len := s.columns.length
  if s.isCenteringFocusedColumn then
    (List.range len).map fun idx => (g.centerSnap s idx, idx)
  else
    let leftmost := g.leftSnap s 0
    let rightmost := g.rightSnap s (len - 1)
    let inside := fun (pos : F) => decide (leftmost < pos) && decide (pos < rightmost)
    [(leftmost, 0), (rightmost, len - 1)] ++
      (List.range len).flatMap fun idx =>
        ([g.leftSnap s idx, g.rightSnap s idx].filter inside).map fun pos => (pos, idx)

/-- The furthest column towards the direction of the gesture that is fully in
    view at the snapping point. -/
def furthestInView (snap : F × Nat) : Nat :=
  let inView := fun idx => !g.notInView s snap.1 idx
  if s.isCenteringFocusedColumn then snap.2
  else if g.towardsRight then
    ((List.range' (snap.2 + 1) (s.columns.length - (snap.2 + 1))).takeWhile inView).getLastD snap.2
  else ((List.range snap.2).reverse.takeWhile inView).getLastD snap.2

def viewOffsetGestureEnd (isTouchpad : Option Bool) : Option (ScrollingSpace W F × Bool) :=
  match s.viewOffset with
  | .gesture touchpad _ =>
      if isTouchpad.any fun x => touchpad != x then some (s, false)
      else if s.columns = [] then some ({ s with viewOffset := .static }, true)
      else do
        let points := (s.snappingPoints g).mergeSort fun a b => decide (a.1 ≤ b.1)
        let snap ← Vec.minByKey points fun point => g.snapDistance point.1
        let newColIdx := s.furthestInView g snap
        let s := { s with
          viewOffsetToRestore :=
            if s.activeColumnIdx ≠ newColIdx then none else s.viewOffsetToRestore
          activeColumnIdx := newColIdx
          viewOffset := .animation }
        let s ← s.animateViewOffsetToColumn g newColIdx none
        return (s, true)
  | _ => some (s, false)

def dndScrollGestureEnd : Option (ScrollingSpace W F) :=
  match s.viewOffset with
  | .gesture _ dnd =>
      if dnd = true ∧ g.unscrolled = true then
        let s := { s with viewOffset := if g.dragAnimated then .animation else .static }
        if s.columns = [] then some s
        else s.animateViewOffsetToColumn g s.activeColumnIdx none
      else (s.viewOffsetGestureEnd g none).map Prod.fst
  | _ => some s

def interactiveResizeBegin (window : W) (edges : ResizeEdge) : Option (ScrollingSpace W F × Bool) :=
  if s.interactiveResize.isSome then some (s, false)
  else do
    let col ← s.columns.find? fun col => col.contains window
    if col.pendingSizingMode ≠ .normal then return (s, false)
    else
      return ({ s with interactiveResize := some ⟨window, edges⟩, viewOffset := .static }, true)

/-- What `interactive_resize_update` does to the column of the window. -/
def resizeByEdges (edges : ResizeEdge) (tileIdx : Nat) (col : Column W F) : Option (Column W F) := do
  let col ← applyIf (edges.left || edges.right)
    (fun col => col.setColumnWidth g (.setFixed g.draggedSize.1) (some tileIdx)) col
  applyIf ((edges.top || edges.bottom) && !(edges.top && tileIdx == 0))
    (fun col => col.setWindowHeight g (.setFixed g.draggedSize.2) (some tileIdx)) col

def interactiveResizeUpdate (window : W) : Option (ScrollingSpace W F × Bool) :=
  match s.interactiveResize with
  | none => some (s, false)
  | some resize =>
      if window ≠ resize.window then some (s, false)
      else do
        let (colIdx, tileIdx) ← s.locate window
        let s ← s.onColumn colIdx (resizeByEdges g resize.edges tileIdx)
        return (s, true)

def interactiveResizeEnd (window : Option W) : Option (ScrollingSpace W F) :=
  match s.interactiveResize, window with
  | none, _ => some s
  | some _, none => some { s with interactiveResize := none }
  | some resize, some window =>
      if window ≠ resize.window then some s
      else do
        let col ← s.columns[s.activeColumnIdx]?
        let s ← applyIf (col.contains window)
          (fun s => s.animateViewOffsetToColumn g s.activeColumnIdx none) s
        return { s with interactiveResize := none }

end ScrollingSpace

end Cidre.Layout
