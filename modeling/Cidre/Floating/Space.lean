/-
  Cidre.Floating.Space

  The floating layout of a workspace (`src/layout/floating.rs`, `impl FloatingSpace`).

  Which window is a child of which is not part of the layout: it is asked of the
  windows, and comes with the call as `isChildOf`.  What the size of a tile is comes
  with the tile.  An operation that panics answers `none`.
-/

import Cidre.Floating.Data
import Cidre.Layout.Column

namespace Cidre.Floating

open Cidre.Panic
open Cidre.Utils.Logical

variable {W F : Type}

/-! ## Data -/

inductive RelativeTo where
  | topLeft
  | topRight
  | bottomLeft
  | bottomRight
  | top
  | bottom
  | left
  | right
deriving DecidableEq, Repr

structure FloatingPosition where
  x : Rat
  y : Rat
  relativeTo : RelativeTo
deriving DecidableEq, Repr

/-- `Size<i32, Logical>` -/
structure WindowSize where
  w : Int
  h : Int
deriving DecidableEq, Repr

/-- A tile, with what the floating layout reads and stores of it and of its window. -/
structure Tile (W F : Type) extends Layout.Tile W F where
  /-- `tile_size()`, under the view and the options of the space -/
  tileSize : Size
  expectedSize : Option WindowSize
  minSize : WindowSize
  maxSize : WindowSize
  /-- the size the window was last asked for once -/
  requestedSize : Option WindowSize
  /-- of the window rules -/
  defaultFloatingPosition : Option FloatingPosition
  floatingWindowSize : Option WindowSize
  floatingPos : Option SizeFrac

structure FloatingSpace (W F : Type) where
  /-- from the top to the bottom -/
  tiles : List (Tile W F)
  data : List Data
  /-- not necessarily the topmost window -/
  activeWindowId : Option W
  workingArea : Rectangle
  options : Layout.Options F

inductive PositionChange where
  | setFixed (px : Rat)
  | setProportion (percent : Rat)
  | adjustFixed (px : Rat)
  | adjustProportion (percent : Rat)
deriving DecidableEq, Repr

/-! ## Sizes and positions -/

def ensureMinMaxSize (x minSize maxSize : Int) : Int :=
  let x := if 0 < maxSize then min x maxSize else x
  if 0 < minSize then max x minSize else x

def ensureMinMaxSizeMaybeZero (x minSize maxSize : Int) : Int :=
  if x ≠ 0 then ensureMinMaxSize x minSize maxSize
  else if 0 < minSize ∧ minSize = maxSize then minSize
  else 0

def centerPreferringTopLeftInArea (area : Rectangle) (size : Size) : Point :=
  ⟨area.loc.x + max ((area.size.w - size.w) / 2) 0, area.loc.y + max ((area.size.h - size.h) / 2) 0⟩

def clampPreferringTopLeftInArea (area rect : Rectangle) : Rectangle :=
  { rect with
    loc :=
      ⟨max (min rect.loc.x (area.loc.x + area.size.w - rect.size.w)) area.loc.x,
        max (min rect.loc.y (area.loc.y + area.size.h - rect.size.h)) area.loc.y⟩ }

def Tile.updateConfig (options : Layout.Options F) (tile : Tile W F) : Tile W F :=
  { tile with toTile := tile.toTile.updateConfig options }

/-- The size a window is asked for as it is added: the floating one it had, or else its
    own, unless it was fullscreen or maximized. -/
def Tile.restoredSize (tile : Tile W F) : WindowSize :=
  let size :=
    if tile.pendingSizingMode ≠ .normal then tile.floatingWindowSize.getD ⟨0, 0⟩
    else tile.floatingWindowSize.getD (tile.expectedSize.getD ⟨0, 0⟩)
  ⟨ensureMinMaxSizeMaybeZero size.w tile.minSize.w tile.maxSize.w,
    ensureMinMaxSizeMaybeZero size.h tile.minSize.h tile.maxSize.h⟩

/-- `request_size_once`, which also asks for the normal mode -/
def Tile.requestSizeOnce (size : WindowSize) (tile : Tile W F) : Tile W F :=
  { tile with requestedSize := some size, pendingSizingMode := .normal }

/-- A coordinate of the area that `relative_to` is at the far end of, in the middle of,
    or at the start of. -/
def placeAlong (area size pos : Rat) (far middle : Bool) : Rat :=
  let pos := if far then area - size - pos else pos
  if middle then pos + (area / 2 - size / 2) else pos

/-- A change of one coordinate, in an area that starts at `loc`. -/
def PositionChange.apply (available loc pos : Rat) : PositionChange → Rat
  | setFixed x => x + loc
  | setProportion prop => available * clampTo (prop / 100) 0 10000 + loc
  | adjustFixed x => pos + x
  | adjustProportion prop =>
      available * clampTo ((pos - loc) / max available 1 + prop / 100) 0 10000 + loc

namespace FloatingSpace

def new (workingArea : Rectangle) (options : Layout.Options F) : FloatingSpace W F where
  tiles := []
  data := []
  activeWindowId := none
  workingArea := workingArea
  options := options

variable [DecidableEq W] (isChildOf : W → W → Bool) (s : FloatingSpace W F)

def ids : List W := s.tiles.map fun tile => tile.id

def isEmpty : Bool := s.tiles.isEmpty

def scaleByWorkingArea (pos : SizeFrac) : Point :=
  Data.scaleByWorkingArea s.workingArea pos

def logicalToSizeFrac (logicalPos : Point) : SizeFrac :=
  Data.logicalToSizeFracInWorkingArea s.workingArea logicalPos

def clampWithinWorkingArea (pos : Point) (size : Size) : Point :=
  (clampPreferringTopLeftInArea s.workingArea ⟨pos, size⟩).loc

def storedOrDefaultTilePos (tile : Tile W F) : Option Point :=
  match tile.floatingPos with
  | some pos => some (s.scaleByWorkingArea pos)
  | none => tile.defaultFloatingPosition.map fun pos =>
      let area := s.workingArea
      let relativeTo := pos.relativeTo
      let x := placeAlong area.size.w tile.tileSize.w pos.x
        (relativeTo = .topRight || relativeTo = .bottomRight || relativeTo = .right)
        (relativeTo = .top || relativeTo = .bottom)
      let y := placeAlong area.size.h tile.tileSize.h pos.y
        (relativeTo = .bottomLeft || relativeTo = .bottomRight || relativeTo = .bottom)
        (relativeTo = .left || relativeTo = .right)
      ⟨x + area.loc.x, y + area.loc.y⟩

/-! ## Stacking -/

def idxOf (id : W) : Option Nat := s.tiles.findIdx? fun tile => tile.id == id

def hasWindow (id : W) : Bool := s.tiles.any fun tile => tile.id == id

def raiseWindow (fromIdx toIdx : Nat) : Option (FloatingSpace W F) :=
  if toIdx ≤ fromIdx then do
    let (tile, tiles) ← Vec.remove s.tiles fromIdx
    let (d, data) ← Vec.remove s.data fromIdx
    let tiles ← Vec.insert tiles toIdx tile
    let data ← Vec.insert data toIdx d
    return { s with tiles := tiles, data := data }
  else none

/-- The indexes of the descendants of `win` among the tiles below it, from the back. -/
def collectDescendants (tiles : List (Tile W F)) (win : W) (below : List (Tile W F × Nat)) :
    List Nat :=
  below.foldl (fun descendants p =>
    if isChildOf p.1.id win ||
        descendants.any fun idx => tiles[idx]?.any fun tile => isChildOf p.1.id tile.id then
      descendants ++ [p.2]
    else descendants) []

/-- The windows at the indexes go, one after the other, to `idx`, `idx + 1` and so on. -/
def raiseAll : List Nat → Nat → FloatingSpace W F → Option (FloatingSpace W F)
  | [], _, s => some s
  | descendantIdx :: descendants, idx, s => do
      let s ← s.raiseWindow descendantIdx idx
      raiseAll descendants (idx + 1) s

def bringUpDescendantsOf (idx : Nat) : Option (FloatingSpace W F) := do
  let tile ← s.tiles[idx]?
  let descendants := collectDescendants isChildOf s.tiles tile.id
    (s.tiles.zipIdx.drop (idx + 1)).reverse
  raiseAll descendants.reverse idx s

/-! ## Adding and removing -/

def addTileAt (idx : Nat) (tile : Tile W F) (activate : Bool) : Option (FloatingSpace W F) := do
  let tile := tile.updateConfig s.options
  let tile := tile.requestSizeOnce tile.restoredSize
  let active := if activate || s.tiles.isEmpty then some tile.id else s.activeWindowId
  -- The tile does not go below its parent.
  let idx := ((s.tiles.take idx).findIdx? fun tileAbove => isChildOf tile.id tileAbove.id).getD idx
  let pos := (s.storedOrDefaultTilePos tile).getD
    (centerPreferringTopLeftInArea s.workingArea tile.tileSize)
  let data ← Vec.insert s.data idx (Data.new s.workingArea tile.tileSize pos)
  let tiles ← Vec.insert s.tiles idx tile
  { s with tiles := tiles, data := data, activeWindowId := active }.bringUpDescendantsOf isChildOf idx

def addTile (tile : Tile W F) (activate : Bool) : Option (FloatingSpace W F) :=
  s.addTileAt isChildOf 0 tile activate

def addTileAbove (above : W) (tile : Tile W F) (activate : Bool) : Option (FloatingSpace W F) := do
  let idx ← s.idxOf above
  let d ← s.data[idx]?
  let pos : Point :=
    ⟨d.logicalPos.x + (d.size.w - tile.tileSize.w) / 2,
      d.logicalPos.y + (d.size.h - tile.tileSize.h) / 2⟩
  let pos := s.clampWithinWorkingArea pos tile.tileSize
  s.addTileAt isChildOf idx { tile with floatingPos := some (s.logicalToSizeFrac pos) } activate

def removeTileByIdx (idx : Nat) : Option (Tile W F × FloatingSpace W F) := do
  let (tile, tiles) ← Vec.remove s.tiles idx
  let (d, data) ← Vec.remove s.data idx
  let active :=
    match tiles with
    | [] => none
    -- The topmost tile is active once the active one is gone.
    | top :: _ => if some tile.id = s.activeWindowId then some top.id else s.activeWindowId
  let tile := { tile with
    floatingWindowSize := tile.expectedSize.orElse fun _ => tile.floatingWindowSize
    floatingPos := some d.pos }
  return (tile, { s with tiles := tiles, data := data, activeWindowId := active })

def removeTile (id : W) : Option (Tile W F × FloatingSpace W F) := do
  let idx ← s.idxOf id
  s.removeTileByIdx idx

def removeActiveTile : Option (Option (Tile W F) × FloatingSpace W F) :=
  match s.activeWindowId with
  | none => some (none, s)
  | some id => do
      let (tile, s) ← s.removeTile id
      return (some tile, s)

/-! ## Focus -/

def activeWindow : Option (Tile W F) := do
  let id ← s.activeWindowId
  s.tiles.find? fun tile => tile.id == id

def activateWindowWithoutRaising (id : W) : FloatingSpace W F × Bool :=
  if s.hasWindow id then ({ s with activeWindowId := some id }, true) else (s, false)

def activateWindow (id : W) : Option (FloatingSpace W F × Bool) :=
  match s.idxOf id with
  | none => some (s, false)
  | some idx => do
      let s ← s.raiseWindow idx 0
      let s ← { s with activeWindowId := some id }.bringUpDescendantsOf isChildOf 0
      return (s, true)

/-- A direction the focus moves in: how far a center is from the one that has it. -/
inductive Direction where
  | left
  | right
  | up
  | down
deriving DecidableEq, Repr

def Direction.distance (focus other : Point) : Direction → Rat
  | left => focus.x - other.x
  | right => other.x - focus.x
  | up => focus.y - other.y
  | down => other.y - focus.y

/-- An edge of the space. -/
inductive Edge where
  | leftmost
  | rightmost
  | topmost
  | bottommost
deriving DecidableEq, Repr

def Edge.key (pos : Point) : Edge → Rat
  | leftmost => pos.x
  | rightmost => -pos.x
  | topmost => pos.y
  | bottommost => -pos.y

/-- The window `focus_left` and its siblings go to: the first of the nearest. -/
def directionalTarget (direction : Direction) (s : FloatingSpace W F) : Option (Option W) :=
  match s.activeWindowId with
  | none => some none
  | some activeId => do
      let activeIdx ← s.idxOf activeId
      let d ← s.data[activeIdx]?
      let others := (s.tiles.zip s.data).filter fun p => p.1.id != activeId
      let distances := others.map fun p => (p.1.id, direction.distance d.center p.2.center)
      return (Vec.minByKey (distances.filter fun p => 0 < p.2) Prod.snd).map Prod.fst

/-- The window `focus_leftmost` and its siblings go to: the first of those nearest to
    the left or the top, and the last of those nearest to the right or the bottom. -/
def edgeTarget (edge : Edge) (s : FloatingSpace W F) : Option W :=
  let tiles := s.tiles.zip s.data
  let inOrder := match edge with
    | .leftmost | .topmost => tiles
    | .rightmost | .bottommost => tiles.reverse
  (Vec.minByKey inOrder fun p => edge.key p.2.logicalPos).map fun p => p.1.id

def focusDirectional (direction : Direction) (s : FloatingSpace W F) :
    Option (FloatingSpace W F × Bool) := do
  let target ← s.directionalTarget direction
  match target with
  | some id => do
      let (s, _) ← s.activateWindow isChildOf id
      return (s, true)
  | none => return (s, false)

def focusEdge (edge : Edge) (s : FloatingSpace W F) : Option (FloatingSpace W F) :=
  match s.edgeTarget edge with
  | some id => do
      let (s, _) ← s.activateWindow isChildOf id
      return s
  | none => some s

def descendantsAdded (id : W) : Option (FloatingSpace W F × Bool) :=
  match s.idxOf id with
  | none => some (s, false)
  | some idx => do
      let s ← s.bringUpDescendantsOf isChildOf idx
      return (s, true)

/-- A window has got `newParent`: `parent_changed` of its toplevel. -/
def parentChanged (newParent : Option W) : Option (FloatingSpace W F) :=
  match newParent with
  | none => some s
  | some id => do
      let (s, _) ← s.descendantsAdded isChildOf id
      return s

/-! ## Positions -/

/-- What is done to the tiles through `tiles_mut`, and to a window that is asked for a
    size: the client has not answered yet. -/
def tilesMut (f : Tile W F → Tile W F) : FloatingSpace W F :=
  { s with tiles := s.tiles.map f }

/-- `update_config`; `tileSize` is the size of a tile under the new view and options. -/
def updateConfig (workingArea : Rectangle) (options : Layout.Options F)
    (tileSize : Tile W F → Size) (s : FloatingSpace W F) : FloatingSpace W F :=
  { s with
    tiles := s.tiles.map fun tile => { tile.updateConfig options with tileSize := tileSize tile }
    data := List.zipWith (fun tile d => (d.update (tileSize tile)).updateConfig workingArea)
      s.tiles s.data
    workingArea := workingArea
    options := options }

/-- `update_window` of a client that has committed `mode`, and whose tile has come to
    `tileSize`; a window that is resized by its top or left edge moves along. -/
def updateWindow (id : W) (mode : Layout.SizingMode) (tileSize : Size)
    (edges : Option Layout.ResizeEdge) : Option (FloatingSpace W F × Bool) :=
  match s.idxOf id with
  | none => some (s, false)
  | some idx => do
      let tile ← s.tiles[idx]?
      let d ← s.data[idx]?
      let updated := d.update tileSize
      let offset (edges : Layout.ResizeEdge) : Point :=
        ⟨updated.logicalPos.x + if edges.left then d.size.w - updated.size.w else 0,
          updated.logicalPos.y + if edges.top then d.size.h - updated.size.h else 0⟩
      let updated := match edges with
        | some edges => updated.setLogicalPos (offset edges)
        | none => updated
      return ({ s with
        tiles := s.tiles.set idx { tile with tileSize := tileSize, sizingMode := mode }
        data := s.data.set idx updated }, true)

def moveTo (idx : Nat) (newPos : Point) : Option (FloatingSpace W F) := do
  let d ← s.data[idx]?
  return { s with data := s.data.set idx (d.setLogicalPos newPos) }

/-- The window `id`, or the active one, is moved to where `newPos` says. -/
def moveTarget (id : Option W) (newPos : Data → Point) : Option (FloatingSpace W F) :=
  match id.orElse fun _ => s.activeWindowId with
  | none => some s
  | some id => do
      let idx ← s.idxOf id
      let d ← s.data[idx]?
      s.moveTo idx (newPos d)

/-- `move_left` and its siblings, by `amount`. -/
def moveBy (amount : Point) : Option (FloatingSpace W F) :=
  s.moveTarget none fun d => ⟨d.logicalPos.x + amount.x, d.logicalPos.y + amount.y⟩

def moveWindow (id : Option W) (x y : PositionChange) : Option (FloatingSpace W F) :=
  let area := s.workingArea
  s.moveTarget id fun d =>
    ⟨x.apply area.size.w area.loc.x d.logicalPos.x, y.apply area.size.h area.loc.y d.logicalPos.y⟩

def centerWindow (id : Option W) : Option (FloatingSpace W F) :=
  s.moveTarget id fun d => centerPreferringTopLeftInArea s.workingArea d.size

end FloatingSpace

end Cidre.Floating
