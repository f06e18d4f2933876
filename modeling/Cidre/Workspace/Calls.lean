/-
  Cidre.Workspace.Calls

  The functions of a workspace that only ask its layouts to do something.

  Most ask the one that has the window they are about, or else the one that is active.
  A gesture goes to the scrolling layout whatever is active, and a change of the
  configuration to both.
-/

import Cidre.Workspace.Operations

namespace Cidre

open Cidre.Floating (FloatingSpace)
open Cidre.Floating.FloatingSpace (Direction Edge)
open Cidre.Layout (ScrollingSpace SizingMode ColumnDisplay ScrollDirection SizeChange ResizeEdge)
open Cidre.Utils.Logical

variable {W F : Type}

namespace Workspace

inductive Call (W F : Type) where
  | focusLeft
  | focusRight
  | focusColumnFirst
  | focusColumnLast
  | focusWindowInColumn (index : Nat)
  | focusDown
  | focusUp
  | focusDownOrLeft
  | focusDownOrRight
  | focusUpOrLeft
  | focusUpOrRight
  | focusWindowTop
  | focusWindowBottom
  | moveLeft
  | moveRight
  | moveColumnToFirst
  | moveColumnToLast
  | moveColumnToIndex (index : Nat)
  | moveDown
  | moveUp
  | consumeOrExpelWindowLeft (window : Option W)
  | consumeOrExpelWindowRight (window : Option W)
  | consumeIntoColumn
  | expelFromColumn
  | swapWindowInDirection (direction : ScrollDirection)
  | toggleColumnTabbedDisplay
  | setColumnDisplay (display : ColumnDisplay)
  | centerColumn
  | centerWindow (window : Option W)
  | centerVisibleColumns
  | toggleWidth (forwards : Bool)
  | toggleFullWidth
  | setColumnWidth (change : SizeChange F)
  | setWindowWidth (window : Option W) (change : SizeChange F)
  | setWindowHeight (window : Option W) (change : SizeChange F)
  | resetWindowHeight (window : Option W)
  | toggleWindowWidth (window : Option W) (forwards : Bool)
  | toggleWindowHeight (window : Option W) (forwards : Bool)
  | expandColumnToAvailableWidth
  | updateWindow (window : W) (mode : SizingMode) (tileSize : Size) (edges : Option ResizeEdge)
  | interactiveResizeBegin (window : W) (edges : ResizeEdge)
  | interactiveResizeUpdate (window : W)
  | interactiveResizeEnd (window : W)

namespace Call

/-- The window the call is about, if it is not about what is active. -/
def window : Call W F → Option W
  | consumeOrExpelWindowLeft window
  | consumeOrExpelWindowRight window
  | centerWindow window
  | setWindowWidth window _
  | setWindowHeight window _
  | resetWindowHeight window
  | toggleWindowWidth window _
  | toggleWindowHeight window _ => window
  | updateWindow window _ _ _
  | interactiveResizeBegin window _
  | interactiveResizeUpdate window
  | interactiveResizeEnd window => some window
  | _ => none

/-- How far `move_left` and its siblings move a floating window. -/
def directionalMovePx : Rat := 50

/-- What the floating layout is asked for, if it changes anything here.  For a size it
    only asks the client, which is one of the changes of `tilesMut`. -/
def floating : Call W F → Option (Floating.Op W F)
  | focusLeft => some (.focusDirectional .left)
  | focusRight => some (.focusDirectional .right)
  | focusColumnFirst => some (.focusEdge .leftmost)
  | focusColumnLast => some (.focusEdge .rightmost)
  | focusDown => some (.focusDirectional .down)
  | focusUp => some (.focusDirectional .up)
  | focusDownOrLeft => some (.focusDirectional .down)
  | focusDownOrRight => some (.focusDirectional .down)
  | focusUpOrLeft => some (.focusDirectional .up)
  | focusUpOrRight => some (.focusDirectional .up)
  | focusWindowTop => some (.focusEdge .topmost)
  | focusWindowBottom => some (.focusEdge .bottommost)
  | moveLeft => some (.moveBy ⟨-directionalMovePx, 0⟩)
  | moveRight => some (.moveBy ⟨directionalMovePx, 0⟩)
  | moveDown => some (.moveBy ⟨0, directionalMovePx⟩)
  | moveUp => some (.moveBy ⟨0, -directionalMovePx⟩)
  | centerColumn => some (.centerWindow none)
  | centerWindow window => some (.centerWindow window)
  | updateWindow window mode tileSize edges => some (.updateWindow window mode tileSize edges)
  | _ => none

def scrolling : Call W F → Layout.Op W F
  | focusLeft => .focusLeft
  | focusRight => .focusRight
  | focusColumnFirst => .focusColumnFirst
  | focusColumnLast => .focusColumnLast
  | focusWindowInColumn index => .focusWindowInColumn index
  | focusDown => .focusDown
  | focusUp => .focusUp
  | focusDownOrLeft => .focusDownOrLeft
  | focusDownOrRight => .focusDownOrRight
  | focusUpOrLeft => .focusUpOrLeft
  | focusUpOrRight => .focusUpOrRight
  | focusWindowTop => .focusTop
  | focusWindowBottom => .focusBottom
  | moveLeft => .moveLeft
  | moveRight => .moveRight
  | moveColumnToFirst => .moveColumnToFirst
  | moveColumnToLast => .moveColumnToLast
  | moveColumnToIndex index => .moveColumnToIndex index
  | moveDown => .moveDown
  | moveUp => .moveUp
  | consumeOrExpelWindowLeft window => .consumeOrExpelWindowLeft window
  | consumeOrExpelWindowRight window => .consumeOrExpelWindowRight window
  | consumeIntoColumn => .consumeIntoColumn
  | expelFromColumn => .expelFromColumn
  | swapWindowInDirection direction => .swapWindowInDirection direction
  | toggleColumnTabbedDisplay => .toggleColumnTabbedDisplay
  | setColumnDisplay display => .setColumnDisplay display
  | centerColumn => .centerColumn
  | centerWindow window => .centerWindow window
  | centerVisibleColumns => .centerVisibleColumns
  | toggleWidth forwards => .toggleWidth forwards
  | toggleFullWidth => .toggleFullWidth
  | setColumnWidth change => .setWindowWidth none change
  | setWindowWidth window change => .setWindowWidth window change
  | setWindowHeight window change => .setWindowHeight window change
  | resetWindowHeight window => .resetWindowHeight window
  | toggleWindowWidth window forwards => .toggleWindowWidth window forwards
  | toggleWindowHeight window forwards => .toggleWindowHeight window forwards
  | expandColumnToAvailableWidth => .expandColumnToAvailableWidth
  | updateWindow window mode _ _ => .updateWindow window mode
  | interactiveResizeBegin window edges => .interactiveResizeBegin window edges
  | interactiveResizeUpdate window => .interactiveResizeUpdate window
  | interactiveResizeEnd window => .interactiveResizeEnd (some window)

end Call

variable [One F] [BEq F] [LT F] [DecidableLT F] [LE F] [DecidableLE F] [DecidableEq W]

def call (env : Env W F) (s : Workspace W F) (c : Call W F) : Option (Workspace W F) :=
  if s.inFloating c.window then
    match c.floating with
    | none => some s
    | some op => do
        let floating ← op.run env.parent s.floating
        return { s with floating := floating }
  else do
    let scrolling ← s.scrolling.step env.geometry c.scrolling
    return { s with scrolling := scrolling }

/-- Whether `focus_left` and its siblings answer that they went somewhere. -/
def focuses (s : Workspace W F) (direction : Direction) : Bool :=
  if s.floatingIsActive.get then (s.floating.directionalTarget direction).any Option.isSome
  else
    match direction with
    | .left => s.scrolling.activeColumnIdx != 0
    | .right => s.scrolling.activeColumnIdx + 1 < s.scrolling.columns.length
    | .down => (s.scrolling.columns[s.scrolling.activeColumnIdx]?).any fun col =>
        (col.focusDown.map Prod.snd).any id
    | .up => (s.scrolling.columns[s.scrolling.activeColumnIdx]?).any fun col =>
        (col.focusUp.map Prod.snd).any id

/-- `focus_column_right_or_first` and its siblings -/
def focusOr (env : Env W F) (s : Workspace W F) (direction : Direction) (towards otherwise : Call W F) :
    Option (Workspace W F) :=
  if s.focuses direction then s.call env towards else s.call env otherwise

def focusColumnRightOrFirst (env : Env W F) (s : Workspace W F) : Option (Workspace W F) :=
  s.focusOr env .right .focusRight .focusColumnFirst

def focusColumnLeftOrLast (env : Env W F) (s : Workspace W F) : Option (Workspace W F) :=
  s.focusOr env .left .focusLeft .focusColumnLast

def focusWindowDownOrTop (env : Env W F) (s : Workspace W F) : Option (Workspace W F) :=
  s.focusOr env .down .focusDown .focusWindowTop

def focusWindowUpOrBottom (env : Env W F) (s : Workspace W F) : Option (Workspace W F) :=
  s.focusOr env .up .focusUp .focusWindowBottom

def focusColumn (env : Env W F) (s : Workspace W F) (index : Nat) : Option (Workspace W F) := do
  let s := s.focusTiling
  let scrolling ← s.scrolling.focusColumn env.geometry index
  return { s with scrolling := scrolling }

/-! ## Whatever is active -/

/-- What goes to the scrolling layout whatever is active.  Where the floating one is told
    as well, it is about a resize or an animation there. -/
inductive Gesture where
  | advanceAnimations
  | viewOffsetGestureBegin (isTouchpad : Bool)
  | viewOffsetGestureUpdate (isTouchpad : Bool)
  | viewOffsetGestureEnd (isTouchpad : Option Bool)
  | dndScrollGestureBegin
  | dndScrollGestureScroll (zero : Bool)
  | dndScrollGestureEnd
  /-- `interactive_resize_end(None)` -/
  | interactiveResizeEnd

def Gesture.scrolling : Gesture → Layout.Op W F
  | advanceAnimations => .advanceAnimations
  | viewOffsetGestureBegin isTouchpad => .viewOffsetGestureBegin isTouchpad
  | viewOffsetGestureUpdate isTouchpad => .viewOffsetGestureUpdate isTouchpad
  | viewOffsetGestureEnd isTouchpad => .viewOffsetGestureEnd isTouchpad
  | dndScrollGestureBegin => .dndScrollGestureBegin
  | dndScrollGestureScroll zero => .dndScrollGestureScroll zero
  | dndScrollGestureEnd => .dndScrollGestureEnd
  | interactiveResizeEnd => .interactiveResizeEnd none

def gesture (env : Env W F) (s : Workspace W F) (g : Gesture) : Option (Workspace W F) := do
  let scrolling ← s.scrolling.step env.geometry g.scrolling
  return { s with scrolling := scrolling }

/-- `update_config`, and `set_view_size`, with the sizes of the floating tiles after it -/
def updateConfig (env : Env W F) (s : Workspace W F) (options : Layout.Options F)
    (workingArea : Rectangle) (tileSize : Floating.Tile W F → Size) : Option (Workspace W F) := do
  let scrolling ← s.scrolling.updateConfig env.geometry options
  return { s with
    scrolling := scrolling
    floating := s.floating.updateConfig workingArea options tileSize }

/-- `tiles_mut`, `f` for the tiles of the one and `g` for those of the other layout -/
def tilesMut (s : Workspace W F) (f : Layout.Tile W F → Layout.Tile W F)
    (g : Floating.Tile W F → Floating.Tile W F) : Workspace W F :=
  { s with scrolling := s.scrolling.tilesMut f, floating := s.floating.tilesMut g }

/-- A window has got a parent, and `descendants_added` of it. -/
def parentChanged (env : Env W F) (s : Workspace W F) (newParent : Option W) :
    Option (Workspace W F) := do
  let floating ← s.floating.parentChanged (Floating.isChildOf env.parent) newParent
  return { s with floating := floating }

end Workspace

end Cidre
