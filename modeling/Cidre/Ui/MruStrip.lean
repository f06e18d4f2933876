/-
  Cidre.Ui.MruStrip

  `Inner` of `ui/mru.rs`: the strip of previews of the open switcher, the position it is
  viewed from, and the previews that are moving.

  Positions are rationals, and rounding to pixels leaves them as they are.  An animation
  that is new or restarted is at its start.  Opening a preview (its opacity), the times,
  and the panels are left out.
-/

import Mathlib.Algebra.Order.Ring.Rat
import Mathlib.Data.NNRat.Defs
import Mathlib.Data.PNat.Basic
import Cidre.Ui.WindowMru

namespace Cidre.Ui

open Partial

/-! ## Data -/

inductive ViewPos where
  | static (pos : ℚ)
  /-- `value()` and `to()` of the animation -/
  | animation (value goal : ℚ)
deriving DecidableEq

namespace ViewPos

def current : ViewPos → ℚ
  | static pos => pos
  | animation value _ => value

def target : ViewPos → ℚ
  | static pos => pos
  | animation _ goal => goal

def offset (delta : ℚ) : ViewPos → ViewPos
  | static pos => static (pos + delta)
  | animation value goal => animation (value + delta) (goal + delta)

@[simp] theorem current_offset (delta : ℚ) (pos : ViewPos) :
    (pos.offset delta).current = pos.current + delta := by
  cases pos <;> rfl

end ViewPos

structure MoveAnimation where
  /-- `anim.value()` -/
  value : ℚ
  /-- `from` -/
  start : ℚ
deriving DecidableEq

/-- The size of a window. -/
structure WindowSize where
  w : ℕ+
  h : ℕ+
deriving DecidableEq

structure Size where
  w : ℚ
  h : ℚ
deriving DecidableEq

structure MruPreviews where
  maxHeight : ℚ
  maxScale : ℚ
deriving DecidableEq

/-- The horizontal part of the rectangle of a preview. -/
structure Span where
  x : ℚ
  w : ℚ
deriving DecidableEq

/-- `size` and `move_animation` of a thumbnail are found by its id. -/
structure Inner where
  wmru : WindowMru
  viewPos : ViewPos
  size : ℕ → WindowSize
  moveAnimation : ℕ → Option MoveAnimation
  previews : MruPreviews
  /-- `highlight.padding` -/
  padding : ℚ≥0
  outputSize : Size

def previewMinSize : ℚ := 16

def border : ℚ := 2

def gapSize : ℚ := 16

def strut : ℚ := 192

/-! ## Thumbnails -/

def renderOffset : Option MoveAnimation → ℚ
  | some animation => animation.start * animation.value
  | none => 0

def animateMoveFrom (start : ℚ) (animation : Option MoveAnimation) : Option MoveAnimation :=
  some ⟨1, start + renderOffset animation⟩

@[simp] theorem renderOffset_animateMoveFrom (start : ℚ) (animation : Option MoveAnimation) :
    renderOffset (animateMoveFrom start animation) = start + renderOffset animation :=
  mul_one _

def MruPreviews.previewSize (config : MruPreviews) (outputSize : Size) (size : WindowSize) : Size :=
  let maxHeight := max 1 config.maxHeight
  let maxScale := max (1 / 1000) config.maxScale
  let maxHeight := min maxHeight (outputSize.h * maxScale)
  let outputRatio := outputSize.w / outputSize.h
  let maxWidth := maxHeight * outputRatio
  let minScale := min 1 (previewMinSize / max (size.w : ℚ) size.h)
  let thumbScale := min (maxWidth / size.w) (maxHeight / size.h)
  let thumbScale := min maxScale thumbScale
  let thumbScale := max minScale thumbScale
  ⟨size.w * thumbScale, size.h * thumbScale⟩

namespace WindowMru

variable (m : WindowMru)

def idxOf (id : ℕ) : Option ℕ := m.thumbnails.findIdx? fun t => t.id == id

/-- The loop of `thumbnail_left_of_current`. -/
def leftOf (currentId : Option ℕ) (id : ℕ) : List Thumbnail → Option Thumbnail
  | [] => none
  | t :: thumbnails =>
      if some t.id = currentId then none
      else if t.id = id then some t
      else leftOf currentId id thumbnails

def thumbnailLeftOfCurrent (id : ℕ) : Option Thumbnail := leftOf m.currentId id m.visible

end WindowMru

/-! ## The strip -/

namespace Inner

variable (i : Inner)

def previewWidth (t : Thumbnail) : ℚ := (i.previews.previewSize i.outputSize (i.size t.id)).w

def gap : ℚ :=
  let padding := i.padding + border
  padding + gapSize + padding

/-- How much room a preview takes on the strip. -/
def room (t : Thumbnail) : ℚ := i.previewWidth t + i.gap

/-- Previews in a row, from `x` on. -/
def placeFrom : ℚ → List Thumbnail → List (Thumbnail × Span)
  | _, [] => []
  | x, t :: thumbnails => (t, ⟨x, i.previewWidth t⟩) :: placeFrom (x + i.room t) thumbnails

def thumbnails : List (Thumbnail × Span) := i.placeFrom 0 i.wmru.visible

/-- `loc.x` in `thumbnails_in_view_render`, before those out of view are left out. -/
def screenX (id : ℕ) : Option ℚ :=
  (i.thumbnails.find? fun p => p.1.id == id).map fun p =>
    p.2.x - i.viewPos.current + renderOffset (i.moveAnimation id)

/-! ## The view -/

def computeViewOffset (curX workingWidth newColX newColWidth : ℚ) : ℚ :=
  let newRightX := newColX + newColWidth
  if curX ≤ newColX ∧ newRightX ≤ curX + workingWidth then -(newColX - curX)
  else
    let distToLeft := |curX - newColX|
    let distToRight := |curX + workingWidth - newRightX|
    if distToLeft ≤ distToRight then 0 else -(workingWidth - newColWidth)

/-- The loop of `compute_view_pos`: the span of the current preview, and the width of
    the strip as far as it is needed. -/
def scanStrip (currentId : ℕ) (workingWidth : ℚ) : Span → ℚ → List (Thumbnail × Span) → Span × ℚ
  | current, stripWidth, [] => (current, stripWidth)
  | current, _, (t, geo) :: thumbnails =>
      let current := if t.id = currentId then geo else current
      let stripWidth := geo.x + geo.w
      if current.w ≠ 0 ∧ workingWidth < stripWidth then (current, stripWidth)
      else scanStrip currentId workingWidth current stripWidth thumbnails

def computeViewPos : ℚ :=
  match i.wmru.currentId with
  | none => 0
  | some currentId =>
      let workingX := strut + gapSize
      let workingWidth := max (i.outputSize.w - workingX * 2) 0
      let (current, stripWidth) := scanStrip currentId workingWidth ⟨0, 0⟩ 0 i.thumbnails
      -- A strip that fits on the screen is centered.
      if stripWidth ≤ workingWidth then -(i.outputSize.w - stripWidth) / 2
      else
        computeViewOffset (i.viewPos.target + workingX) workingWidth current.x current.w +
          current.x - workingX

/-! ## Removal -/

/-- `animate_move_from_with_config` of each of the thumbnails. -/
def animateAll (start : ℚ) (thumbnails : List Thumbnail)
    (animation : ℕ → Option MoveAnimation) : ℕ → Option MoveAnimation :=
  thumbnails.foldl (fun animation t =>
    Function.update animation t.id (animateMoveFrom start (animation t.id))) animation

/-- The room of the thumbnail is closed, from the side that the current one is not on. -/
def closeUp (t : Thumbnail) : Inner :=
  let delta := i.room t
  if (i.wmru.thumbnailLeftOfCurrent t.id).isSome then
    { i with
      viewPos := i.viewPos.offset (-delta)
      moveAnimation :=
        animateAll (-delta) (i.wmru.visible.takeWhile fun u => u.id ≠ t.id) i.moveAnimation }
  else
    { i with
      moveAnimation :=
        animateAll delta (i.wmru.visible.reverse.takeWhile fun u => u.id ≠ t.id)
          i.moveAnimation }

def removeWindow (id : ℕ) : Except Panic (Inner × Option Thumbnail) :=
  match i.wmru.idxOf id with
  | none => .ok (i, none)
  | some idx => do
      let removingLastVisible := i.wmru.visible.getLast?.any fun t => t.id == id
      let t ← orThrow i.wmru.thumbnails[idx]? .indexOutOfBounds
      let i := if removingLastVisible then i else i.closeUp t
      let (wmru, removed) ← i.wmru.removeByIdx idx
      pure ({ i with wmru := wmru }, removed)

/-! ## Scope and filter -/

/-- One of the two loops of `animate_scope_filter_change`, away from the current
    thumbnail; `sign` is the direction the others come from. -/
def makeRoom (matchesOld matchesNew : Thumbnail → Bool) (sign : ℚ) :
    List Thumbnail → ℚ → (ℕ → Option MoveAnimation) → ℚ × (ℕ → Option MoveAnimation)
  | [], delta, animation => (delta, animation)
  | t :: thumbnails, delta, animation =>
      match matchesOld t, matchesNew t with
      | true, true =>
          makeRoom matchesOld matchesNew sign thumbnails delta
            (Function.update animation t.id (animateMoveFrom (sign * delta) (animation t.id)))
      | true, false => makeRoom matchesOld matchesNew sign thumbnails (delta + i.room t) animation
      | false, true => makeRoom matchesOld matchesNew sign thumbnails (delta - i.room t) animation
      | false, false => makeRoom matchesOld matchesNew sign thumbnails delta animation

/-- Both loops, from the thumbnail at `idx`; the view makes up for those left of it. -/
def moveAround (idx : ℕ) (matchesOld matchesNew : Thumbnail → Bool) : Inner :=
  let right := i.makeRoom matchesOld matchesNew 1 (i.wmru.thumbnails.drop (idx + 1)) 0
    i.moveAnimation
  let left := i.makeRoom matchesOld matchesNew (-1) (i.wmru.thumbnails.take idx).reverse 0 right.2
  { i with moveAnimation := left.2, viewPos := i.viewPos.offset (-left.1) }

def animateScopeFilterChange (wasEmpty : Bool) (oldScope : MruScope)
    (oldFilter : Option (Option String)) : Except Panic Inner :=
  match i.wmru.currentId with
  | none => .ok i
  | some id => do
      let idx ← orThrow (i.wmru.idxOf id) .unwrap
      let matchesOld := matchFilter oldScope (oldFilter.getD i.wmru.appIdFilter)
      let matchesNew := matchFilter i.wmru.scope i.wmru.appIdFilter
      if wasEmpty then pure { i with viewPos := .static i.computeViewPos }
      else pure (i.moveAround idx matchesOld matchesNew)

def setScope (scope : MruScope) : Except Panic Inner := do
  let wasEmpty := i.wmru.currentId.isNone
  let (wmru, old) ← i.wmru.setScope scope
  let i := { i with wmru := wmru }
  match old with
  | some oldScope => i.animateScopeFilterChange wasEmpty oldScope none
  | none => pure i

def setFilter (filter : MruFilter) : Except Panic Inner := do
  let wasEmpty := i.wmru.currentId.isNone
  let (wmru, old) ← i.wmru.setFilter filter
  let i := { i with wmru := wmru }
  match old with
  | some oldFilter => i.animateScopeFilterChange wasEmpty i.wmru.scope (some oldFilter)
  | none => pure i

end Inner

/-- What changes the thumbnails that are visible. -/
inductive StripOp where
  | removeWindow (id : ℕ)
  | setScope (scope : MruScope)
  | setFilter (filter : MruFilter)
deriving DecidableEq

def Inner.apply (i : Inner) : StripOp → Except Panic Inner
  | .removeWindow id => Prod.fst <$> i.removeWindow id
  | .setScope scope => i.setScope scope
  | .setFilter filter => i.setFilter filter

end Cidre.Ui
