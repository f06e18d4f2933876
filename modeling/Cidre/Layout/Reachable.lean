/-
  Cidre.Layout.Reachable

  The runs of the scrolling layout: every space that the operations of
  `ScrollingSpace` can lead to, from a new one.

  An operation is called with windows that are in the layout, and with tiles and
  columns that are not.  A column is handed over from one space to another: its
  type is private to the layout, so there is no other way to come by one.
-/

import Mathlib.Algebra.Group.Nat.Defs
import Cidre.Layout.Operations

namespace Cidre.Layout

open Cidre.Panic

variable {W F : Type}

/-- The operations on a scrolling space, but for `add_column`. -/
inductive Op (W F : Type) where
  | updateConfig (options : Options F)
  | advanceAnimations
  | tilesMut (f : Tile W F → Tile W F)
  | addTile (colIdx : Option Nat) (tile : Tile W F) (activate : Bool) (width : ColumnWidth F)
      (isFullWidth : Bool)
  | addTileToColumn (colIdx : Nat) (tileIdx : Option Nat) (tile : Tile W F) (activate : Bool)
  | addTileRightOf (rightOf : W) (tile : Tile W F) (activate : Bool) (width : ColumnWidth F)
      (isFullWidth : Bool)
  | removeActiveTile
  | removeTile (window : W)
  | removeTileByIdx (columnIdx tileIdx : Nat)
  | removeActiveColumn
  | removeColumnByIdx (columnIdx : Nat)
  | updateWindow (window : W) (mode : SizingMode)
  | activateWindow (window : W)
  | focusLeft
  | focusRight
  | focusColumnFirst
  | focusColumnLast
  | focusColumn (index : Nat)
  | focusWindowInColumn (index : Nat)
  | focusDown
  | focusUp
  | focusDownOrLeft
  | focusDownOrRight
  | focusUpOrLeft
  | focusUpOrRight
  | focusTop
  | focusBottom
  | moveColumnToIndex (index : Nat)
  | moveLeft
  | moveRight
  | moveColumnToFirst
  | moveColumnToLast
  | moveDown
  | moveUp
  | consumeOrExpelWindowLeft (window : Option W)
  | consumeOrExpelWindowRight (window : Option W)
  | consumeIntoColumn
  | expelFromColumn
  | swapWindowInDirection (direction : ScrollDirection)
  | toggleColumnTabbedDisplay
  | setColumnDisplay (display : ColumnDisplay)
  | centerColumn
  | centerWindow (window : Option W)
  | centerVisibleColumns
  | toggleWidth (forwards : Bool)
  | toggleFullWidth
  | setWindowWidth (window : Option W) (change : SizeChange F)
  | setWindowHeight (window : Option W) (change : SizeChange F)
  | resetWindowHeight (window : Option W)
  | toggleWindowWidth (window : Option W) (forwards : Bool)
  | toggleWindowHeight (window : Option W) (forwards : Bool)
  | expandColumnToAvailableWidth
  | setFullscreen (window : W) (isFullscreen : Bool)
  | setMaximized (window : W) (maximize : Bool)
  | viewOffsetGestureBegin (isTouchpad : Bool)
  | viewOffsetGestureUpdate (isTouchpad : Bool)
  | viewOffsetGestureEnd (isTouchpad : Option Bool)
  | dndScrollGestureBegin
  | dndScrollGestureScroll (zero : Bool)
  | dndScrollGestureEnd
  | interactiveResizeBegin (window : W) (edges : ResizeEdge)
  | interactiveResizeUpdate (window : W)
  | interactiveResizeEnd (window : Option W)

/-- Whether the windows stay the same. -/
def Op.rearranges : Op W F → Bool
  | addTile _ _ _ _ _ | addTileToColumn _ _ _ _ | addTileRightOf _ _ _ _ _ => false
  | removeActiveTile | removeTile _ | removeTileByIdx _ _ => false
  | removeActiveColumn | removeColumnByIdx _ => false
  | _ => true

namespace ScrollingSpace

/-- What is done to the tiles through `tiles_mut`, `active_tile_mut` and
    `active_window_mut`: a window rule is applied, a client is asked for a size. -/
def tilesMut (s : ScrollingSpace W F) (f : Tile W F → Tile W F) : ScrollingSpace W F :=
  { s with columns := s.columns.map fun col => { col with tiles := col.tiles.map f } }

/-- The windows of the operation are in the layout, a tile to be added is not,
    and the indices are indices of the layout. -/
def Valid (s : ScrollingSpace W F) : Op W F → Prop
  | .tilesMut f => ∀ tile, (f tile).id = tile.id
  | .addTile colIdx tile _ _ _ => (∀ i ∈ colIdx, i ≤ s.columns.length) ∧ tile.id ∉ s.windowIds
  | .addTileToColumn colIdx tileIdx tile _ =>
      (∃ col, s.columns[colIdx]? = some col ∧ ∀ i ∈ tileIdx, i ≤ col.tiles.length) ∧
        tile.id ∉ s.windowIds
  | .addTileRightOf rightOf tile _ _ _ => rightOf ∈ s.windowIds ∧ tile.id ∉ s.windowIds
  | .removeTileByIdx columnIdx tileIdx =>
      ∃ col, s.columns[columnIdx]? = some col ∧ tileIdx < col.tiles.length
  | .removeColumnByIdx columnIdx => columnIdx < s.columns.length
  | .removeTile window
  | .updateWindow window _
  | .setFullscreen window _
  | .setMaximized window _
  | .interactiveResizeBegin window _ => window ∈ s.windowIds
  | .consumeOrExpelWindowLeft window
  | .consumeOrExpelWindowRight window
  | .centerWindow window
  | .setWindowWidth window _
  | .setWindowHeight window _
  | .resetWindowHeight window
  | .toggleWindowWidth window _
  | .toggleWindowHeight window _ => ∀ w ∈ window, w ∈ s.windowIds
  | _ => True

section Step

variable [One F] [BEq F] [LT F] [DecidableLT F] [LE F] [DecidableLE F] [DecidableEq W]

/-- One operation; `none` when it panics. -/
def step (g : Geometry W F) (s : ScrollingSpace W F) : Op W F → Option (ScrollingSpace W F)
  | .updateConfig options => s.updateConfig g options
  | .advanceAnimations => some (s.advanceAnimations g)
  | .tilesMut f => some (s.tilesMut f)
  | .addTile colIdx tile activate width isFullWidth =>
      s.addTile g colIdx tile activate width isFullWidth
  | .addTileToColumn colIdx tileIdx tile activate =>
      s.addTileToColumn g colIdx tileIdx tile activate
  | .addTileRightOf rightOf tile activate width isFullWidth =>
      s.addTileRightOf g rightOf tile activate width isFullWidth
  | .removeActiveTile => (s.removeActiveTile g).map Prod.snd
  | .removeTile window => (s.removeTile g window).map Prod.snd
  | .removeTileByIdx columnIdx tileIdx => (s.removeTileByIdx g columnIdx tileIdx).map Prod.snd
  | .removeActiveColumn => (s.removeActiveColumn g).map Prod.snd
  | .removeColumnByIdx columnIdx => (s.removeColumnByIdx g columnIdx).map Prod.snd
  | .updateWindow window mode => s.updateWindow g window mode
  | .activateWindow window => s.activateWindow g window
  | .focusLeft => s.focusLeft g
  | .focusRight => s.focusRight g
  | .focusColumnFirst => s.focusColumnFirst g
  | .focusColumnLast => s.focusColumnLast g
  | .focusColumn index => s.focusColumn g index
  | .focusWindowInColumn index => s.focusWindowInColumn index
  | .focusDown => s.focusDown
  | .focusUp => s.focusUp
  | .focusDownOrLeft => s.focusDownOrLeft g
  | .focusDownOrRight => s.focusDownOrRight g
  | .focusUpOrLeft => s.focusUpOrLeft g
  | .focusUpOrRight => s.focusUpOrRight g
  | .focusTop => s.focusTop
  | .focusBottom => s.focusBottom
  | .moveColumnToIndex index => s.moveColumnToIndex g index
  | .moveLeft => s.moveLeft g
  | .moveRight => s.moveRight g
  | .moveColumnToFirst => s.moveColumnToFirst g
  | .moveColumnToLast => s.moveColumnToLast g
  | .moveDown => s.moveDown
  | .moveUp => s.moveUp
  | .consumeOrExpelWindowLeft window => s.consumeOrExpelWindowLeft g window
  | .consumeOrExpelWindowRight window => s.consumeOrExpelWindowRight g window
  | .consumeIntoColumn => s.consumeIntoColumn g
  | .expelFromColumn => s.expelFromColumn g
  | .swapWindowInDirection direction => s.swapWindowInDirection g direction
  | .toggleColumnTabbedDisplay => s.toggleColumnTabbedDisplay g
  | .setColumnDisplay display => s.setColumnDisplay g display
  | .centerColumn => s.centerColumn g
  | .centerWindow window => s.centerWindow g window
  | .centerVisibleColumns => s.centerVisibleColumns g
  | .toggleWidth forwards => s.toggleWidth g forwards
  | .toggleFullWidth => s.toggleFullWidth
  | .setWindowWidth window change => s.setWindowWidth g window change
  | .setWindowHeight window change => s.setWindowHeight g window change
  | .resetWindowHeight window => s.resetWindowHeight window
  | .toggleWindowWidth window forwards => s.toggleWindowWidth g window forwards
  | .toggleWindowHeight window forwards => s.toggleWindowHeight g window forwards
  | .expandColumnToAvailableWidth => s.expandColumnToAvailableWidth g
  | .setFullscreen window isFullscreen => (s.setFullscreen g window isFullscreen).map Prod.fst
  | .setMaximized window maximize => (s.setMaximized g window maximize).map Prod.fst
  | .viewOffsetGestureBegin isTouchpad => some (s.viewOffsetGestureBegin isTouchpad)
  | .viewOffsetGestureUpdate isTouchpad => some (s.viewOffsetGestureUpdate isTouchpad).1
  | .viewOffsetGestureEnd isTouchpad => (s.viewOffsetGestureEnd g isTouchpad).map Prod.fst
  | .dndScrollGestureBegin => some s.dndScrollGestureBegin
  | .dndScrollGestureScroll zero => some (s.dndScrollGestureScroll zero).1
  | .dndScrollGestureEnd => s.dndScrollGestureEnd g
  | .interactiveResizeBegin window edges => (s.interactiveResizeBegin window edges).map Prod.fst
  | .interactiveResizeUpdate window => (s.interactiveResizeUpdate g window).map Prod.fst
  | .interactiveResizeEnd window => s.interactiveResizeEnd g window

/-- The spaces that a run of the operations leads to.  Every operation is called
    under a geometry of its own. -/
inductive Reachable : ScrollingSpace W F → Prop where
  | new (options : Options F) : Reachable (new options)
  | step {s s' : ScrollingSpace W F} (g : Geometry W F) (op : Op W F) :
      Reachable s → s.Valid op → s.step g op = some s' → Reachable s'
  | addColumn {s s' t t' : ScrollingSpace W F} {column : Column W F} {columnIdx : Nat}
      (g g' : Geometry W F) (idx : Option Nat) (activate : Bool) :
      Reachable t → t.removeColumnByIdx g columnIdx = some (column, t') →
      Reachable s → (∀ i ∈ idx, i ≤ s.columns.length) → (∀ id ∈ column.ids, id ∉ s.windowIds) →
      s.addColumn g' idx column activate = some s' → Reachable s'

/-! ## One operation -/

variable {s : ScrollingSpace W F}

omit [One F] [BEq F] [LT F] [DecidableLT F] [LE F] [DecidableLE F] [DecidableEq W] in
theorem tilesMut_rearranged (h : s.WellFormed) {f : Tile W F → Tile W F}
    (hid : ∀ tile, (f tile).id = tile.id) : Rearranged s (s.tilesMut f) := by
  have hids : ((s.tilesMut f).columns.map Column.ids) = s.columns.map Column.ids := by
    simp [tilesMut, Column.ids, Function.comp_def, hid]
  refine ⟨⟨?_, ?_, ?_, ?_, ?_⟩, ?_⟩
  · simpa [tilesMut] using h.data_length
  · simpa [tilesMut] using h.active_lt
  · intro col' hcol'
    obtain ⟨col, hcol, rfl⟩ := List.mem_map.mp hcol'
    have hcoherent := h.coherent col hcol
    exact { hcoherent with
      data_length := by simpa using hcoherent.data_length
      active_lt := by simpa using hcoherent.active_lt
      pending := by simpa using hcoherent.pending }
  · rw [hids]
    exact h.nodup
  · rw [hids]
    exact h.resize_mem
  · rw [windowIds, arrangement, hids]
    exact List.Perm.refl _

omit [One F] [BEq F] [LT F] [DecidableLT F] [LE F] [DecidableLE F] [DecidableEq W] in
theorem viewOffsetGestureUpdate_fst (isTouchpad : Bool) :
    (s.viewOffsetGestureUpdate isTouchpad).1 = s := by
  rw [viewOffsetGestureUpdate]
  split <;> rfl

omit [LT F] [DecidableLT F] [LE F] [DecidableLE F] in
theorem addTileRightOf_returns (g : Geometry W F) (h : s.WellFormed) {rightOf : W}
    (hmem : rightOf ∈ s.windowIds) {tile : Tile W F} (hfresh : tile.id ∉ s.windowIds)
    (activate : Bool) (width : ColumnWidth F) (isFullWidth : Bool) :
    Returns (s.addTileRightOf g rightOf tile activate width isFullWidth) (Added [tile.id] s) := by
  refine (findColumn_returns hmem).bind ?_
  rintro i ⟨-, col, hcol, -⟩
  have hlt : i < s.columns.length := (List.getElem?_eq_some_iff.mp hcol).1
  refine (addTile_returns g h ?_ hfresh activate width isFullWidth).mono fun _ hadd => hadd.1
  rintro _ ⟨⟩
  exact hlt

/-- A valid operation that leaves the windows the same rearranges them. -/
theorem step_rearranged (g : Geometry W F) (h : s.WellFormed) {op : Op W F} (hvalid : s.Valid op)
    (hre : op.rearranges = true) : Returns (s.step g op) (Rearranged s) := by
  cases op with
  | updateConfig options => exact updateConfig_returns g h options
  | advanceAnimations => exact returns_some (advanceAnimations_rearranged g h)
  | tilesMut f => exact returns_some (tilesMut_rearranged h hvalid)
  | addTile colIdx tile activate width isFullWidth
  | addTileToColumn colIdx tileIdx tile activate
  | addTileRightOf rightOf tile activate width isFullWidth | removeActiveTile
  | removeTile window | removeTileByIdx columnIdx tileIdx | removeActiveColumn
  | removeColumnByIdx columnIdx => cases hre
  | updateWindow window mode => exact updateWindow_returns g h hvalid mode
  | activateWindow window => exact activateWindow_returns g h window
  | focusLeft => exact focusLeft_returns g h
  | focusRight => exact focusRight_returns g h
  | focusColumnFirst => exact focusColumnFirst_returns g h
  | focusColumnLast => exact focusColumnLast_returns g h
  | focusColumn index => exact focusColumn_returns g h index
  | focusWindowInColumn index => exact focusWindowInColumn_returns h index
  | focusDown => exact focusDown_returns h
  | focusUp => exact focusUp_returns h
  | focusDownOrLeft => exact focusDownOrLeft_returns g h
  | focusDownOrRight => exact focusDownOrRight_returns g h
  | focusUpOrLeft => exact focusUpOrLeft_returns g h
  | focusUpOrRight => exact focusUpOrRight_returns g h
  | focusTop => exact focusTop_returns h
  | focusBottom => exact focusBottom_returns h
  | moveColumnToIndex index => exact moveColumnToIndex_returns g h index
  | moveLeft => exact moveLeft_returns g h
  | moveRight => exact moveRight_returns g h
  | moveColumnToFirst => exact moveColumnToFirst_returns g h
  | moveColumnToLast => exact moveColumnToLast_returns g h
  | moveDown => exact moveDown_returns h
  | moveUp => exact moveUp_returns h
  | consumeOrExpelWindowLeft window => exact consumeOrExpelWindowLeft_returns g h hvalid
  | consumeOrExpelWindowRight window =>
    exact (consumeOrExpelWindowRight_returns g h hvalid).mono fun _ hre => hre.1
  | consumeIntoColumn => exact consumeIntoColumn_returns g h
  | expelFromColumn => exact expelFromColumn_returns g h
  | swapWindowInDirection direction => exact swapWindowInDirection_returns g h direction
  | toggleColumnTabbedDisplay => exact toggleColumnTabbedDisplay_returns g h
  | setColumnDisplay display => exact setColumnDisplay_returns g h display
  | centerColumn => exact centerColumn_returns g h
  | centerWindow window => exact centerWindow_returns g h hvalid
  | centerVisibleColumns => exact centerVisibleColumns_returns g h
  | toggleWidth forwards => exact toggleWidth_returns g h forwards
  | toggleFullWidth => exact toggleFullWidth_returns h
  | setWindowWidth window change => exact setWindowWidth_returns g h hvalid change
  | setWindowHeight window change => exact setWindowHeight_returns g h hvalid change
  | resetWindowHeight window => exact resetWindowHeight_returns h hvalid
  | toggleWindowWidth window forwards => exact toggleWindowWidth_returns g h hvalid forwards
  | toggleWindowHeight window forwards => exact toggleWindowHeight_returns g h hvalid forwards
  | expandColumnToAvailableWidth => exact expandColumnToAvailableWidth_returns g h
  | setFullscreen window isFullscreen =>
    exact (setFullscreen_returns g h hvalid isFullscreen).map fun _ hre => hre
  | setMaximized window maximize =>
    exact (setMaximized_returns g h hvalid maximize).map fun _ hre => hre
  | viewOffsetGestureBegin isTouchpad =>
    exact returns_some (viewOffsetGestureBegin_rearranged h isTouchpad)
  | viewOffsetGestureUpdate isTouchpad =>
    refine returns_some ?_
    rw [viewOffsetGestureUpdate_fst]
    exact Rearranged.refl h
  | viewOffsetGestureEnd isTouchpad =>
    exact (viewOffsetGestureEnd_returns g h isTouchpad).map fun _ hre => hre
  | dndScrollGestureBegin => exact returns_some (dndScrollGestureBegin_rearranged h)
  | dndScrollGestureScroll zero => exact returns_some (Rearranged.refl h)
  | dndScrollGestureEnd => exact dndScrollGestureEnd_returns g h
  | interactiveResizeBegin window edges =>
    exact (interactiveResizeBegin_returns h hvalid edges).map fun _ hre => hre
  | interactiveResizeUpdate window =>
    exact (interactiveResizeUpdate_returns g h window).map fun _ hre => hre
  | interactiveResizeEnd window => exact interactiveResizeEnd_returns g h window

/-- A valid operation on a well-formed space does not panic, and leaves a
    well-formed space. -/
theorem step_returns (g : Geometry W F) (h : s.WellFormed) {op : Op W F} (hvalid : s.Valid op) :
    Returns (s.step g op) WellFormed := by
  have hre : op.rearranges = true → Returns (s.step g op) WellFormed := fun hre =>
    (step_rearranged g h hvalid hre).mono fun _ hre => hre.wellFormed
  cases op with
  | addTile colIdx tile activate width isFullWidth =>
    obtain ⟨hidx, hfresh⟩ := hvalid
    exact (addTile_returns g h hidx hfresh activate width isFullWidth).mono
      fun _ hadd => hadd.1.wellFormed
  | addTileToColumn colIdx tileIdx tile activate =>
    obtain ⟨⟨col, hcol, hidx⟩, hfresh⟩ := hvalid
    exact (addTileToColumn_returns g h hcol hidx hfresh activate).mono
      fun _ hadd => hadd.1.wellFormed
  | addTileRightOf rightOf tile activate width isFullWidth =>
    obtain ⟨hmem, hfresh⟩ := hvalid
    exact (addTileRightOf_returns g h hmem hfresh activate width isFullWidth).mono
      fun _ hadd => hadd.wellFormed
  | removeActiveTile => exact (removeActiveTile_returns g h).map fun _ hrem => hrem.wellFormed
  | removeTile window => exact (removeTile_returns g h hvalid).map fun _ hrem => hrem.2.wellFormed
  | removeTileByIdx columnIdx tileIdx =>
    obtain ⟨col, hcol, hlt⟩ := hvalid
    exact (removeTileByIdx_returns g h col hcol hlt).map fun _ hrem => hrem.1.wellFormed
  | removeActiveColumn => exact (removeActiveColumn_returns g h).map fun _ hrem => hrem.1.wellFormed
  | removeColumnByIdx columnIdx =>
    have hcol : s.columns[columnIdx]? = some s.columns[columnIdx] :=
      List.getElem?_eq_getElem hvalid
    exact (removeColumnByIdx_returns g h hcol).map fun _ hrem => hrem.2.1.wellFormed
  | _ => exact hre rfl

/-! ## Runs -/

/-- A column that was taken out of a space and can be given to another. -/
def Handed (column : Column W F) : Prop :=
  ∃ (t t' : ScrollingSpace W F) (g : Geometry W F) (columnIdx : Nat),
    t.Reachable ∧ t.removeColumnByIdx g columnIdx = some (column, t')

omit [One F] [BEq F] [LT F] [DecidableLT F] [LE F] [DecidableLE F] in
theorem mem_of_removed {g : Geometry W F} (h : s.WellFormed) {columnIdx : Nat}
    {column : Column W F} {s' : ScrollingSpace W F}
    (hrem : s.removeColumnByIdx g columnIdx = some (column, s')) : column ∈ s.columns := by
  have hlt : columnIdx < s.columns.length := by
    by_contra hge
    have hnone : Vec.remove s.columns columnIdx = none := by
      rw [Vec.remove, List.getElem?_eq_none (Nat.le_of_not_lt hge)]
      rfl
    rw [removeColumnByIdx, hnone] at hrem
    exact absurd hrem (by simp)
  have hcol : s.columns[columnIdx]? = some s.columns[columnIdx] := List.getElem?_eq_getElem hlt
  obtain ⟨p, hp, heq, -⟩ := removeColumnByIdx_returns g h hcol
  obtain rfl : p = (column, s') := Option.some.inj (hp.symm.trans hrem)
  subst heq
  exact List.mem_of_getElem? hcol

omit [One F] [LT F] [DecidableLT F] [LE F] [DecidableLE F] in
/-- A column of one well-formed space can be added to another. -/
theorem addHanded_returns (g : Geometry W F) (h : s.WellFormed) {idx : Option Nat}
    (hidx : ∀ i ∈ idx, i ≤ s.columns.length) {t t' : ScrollingSpace W F} (ht : t.WellFormed)
    {gt : Geometry W F} {columnIdx : Nat} {column : Column W F}
    (hrem : t.removeColumnByIdx gt columnIdx = some (column, t'))
    (hfresh : ∀ id ∈ column.ids, id ∉ s.windowIds) (activate : Bool) :
    Returns (s.addColumn g idx column activate) WellFormed := by
  have hmem := mem_of_removed ht hrem
  have hnodup : column.ids.Nodup :=
    (List.nodup_flatten.mp ht.nodup).1 _ (List.mem_map_of_mem hmem)
  have hnew : (column.ids ++ s.windowIds).Nodup :=
    List.nodup_append.mpr ⟨hnodup, h.nodup, fun a ha b hb heq => hfresh a ha (heq ▸ hb)⟩
  exact (addColumn_returns g h hidx (ht.coherent column hmem) hnew activate).mono
    fun _ hadd => hadd.1.wellFormed

theorem reachable_wellFormed (h : s.Reachable) : s.WellFormed := by
  induction h with
  | new options => exact new_wellFormed options
  | step g op _ hvalid hstep ih => exact (step_returns g ih hvalid).of_eq hstep
  | addColumn g g' idx activate _ hrem _ hidx hfresh hadd iht ihs =>
    exact (addHanded_returns g' ihs hidx iht hrem hfresh activate).of_eq hadd

end Step

/-! ## What `verify_invariants` asserts -/

/-- The assertions of `Column::verify_invariants` on the structure of a column,
    under the options of the space. -/
structure ColumnInvariants (options : Options F) (col : Column W F) : Prop where
  tiles_ne : col.tiles ≠ []
  data_length : col.data.length = col.tiles.length
  active_lt : col.activeTileIdx < col.tiles.length
  pending : col.isPendingFullscreen = true ∨ col.isPendingMaximized = true →
    col.displayMode = .tabbed ∨ col.tiles.length = 1
  one_height : (col.data.filter fun d => !d.height.isAuto).length ≤ 1
  presetHeight : ∀ d ∈ col.data, ∀ idx, d.height = .preset idx →
    idx < options.presetWindowHeights.length
  presetWidth : ∀ idx, col.presetWidthIdx = some idx → idx < options.presetColumnWidths.length

/-- The assertions of `ScrollingSpace::verify_invariants` on the structure. -/
structure Invariants [DecidableEq W] (s : ScrollingSpace W F) : Prop where
  data_length : s.columns.length = s.data.length
  active_lt : s.columns ≠ [] → s.activeColumnIdx < s.columns.length
  active_zero : s.columns = [] → s.activeColumnIdx = 0
  columns : ∀ col ∈ s.columns, ColumnInvariants s.options col
  resize : ∀ r, s.interactiveResize = some r → ∃ col ∈ s.columns, col.contains r.window = true

theorem columnInvariants_of_coherent {options : Options F} {col : Column W F}
    (h : col.Coherent options) : ColumnInvariants options col where
  tiles_ne := h.tiles_ne
  data_length := h.data_length
  active_lt := h.active_lt
  pending := h.pending
  one_height := by
    rw [← List.countP_eq_length_filter]
    exact h.one_height
  presetHeight := by
    intro d hd idx hidx
    have hresolves := h.presetHeights d hd
    rw [hidx] at hresolves
    exact hresolves
  presetWidth := h.presetWidth

theorem WellFormed.invariants [DecidableEq W] {s : ScrollingSpace W F} (h : s.WellFormed) :
    s.Invariants where
  data_length := h.data_length.symm
  active_lt := h.active_lt_of_ne
  active_zero := by
    intro hempty
    simpa [hempty] using h.active_lt
  columns := fun col hcol => columnInvariants_of_coherent (h.coherent col hcol)
  resize := by
    intro r hr
    obtain ⟨ids, hids, hin⟩ := List.mem_flatten.mp (h.resize_mem r hr)
    obtain ⟨col, hcol, rfl⟩ := List.mem_map.mp hids
    exact ⟨col, hcol, Column.contains_iff.mpr hin⟩

section Runs

variable [One F] [BEq F] [LT F] [DecidableLT F] [LE F] [DecidableLE F] [DecidableEq W]

/-- Along every run the structure of the layout is intact, and the next
    operation does not panic. -/
theorem invariants_of_reachable (s : ScrollingSpace W F) (h : s.Reachable) :
    s.Invariants ∧
      (∀ (g : Geometry W F) (op : Op W F), s.Valid op → ∃ s', s.step g op = some s') ∧
      ∀ (g : Geometry W F) (idx : Option Nat) (column : Column W F) (activate : Bool),
        Handed column → (∀ i ∈ idx, i ≤ s.columns.length) →
        (∀ id ∈ column.ids, id ∉ s.windowIds) →
        ∃ s', s.addColumn g idx column activate = some s' := by
  have hwf := reachable_wellFormed h
  refine ⟨hwf.invariants, fun g op hvalid => ?_, ?_⟩
  · obtain ⟨s', hs', -⟩ := step_returns g hwf hvalid
    exact ⟨s', hs'⟩
  · rintro g idx column activate ⟨t, t', gt, columnIdx, ht, hrem⟩ hidx hfresh
    obtain ⟨s', hs', -⟩ :=
      addHanded_returns g hwf hidx (reachable_wellFormed ht) hrem hfresh activate
    exact ⟨s', hs'⟩

/-- A screen 1000 wide on which every column is 300 wide and nothing moves. -/
def wideScreen : Geometry Nat Nat where
  columnWidth := fun _ => 300
  widthOfPreset := fun
    | .proportion p => .proportion p
    | .fixed px => .fixed px.toNat
  changeOfPreset := fun
    | .proportion p => .setProportion (100 * p)
    | .fixed px => .setFixed px
  areaChanged := false
  weight := fun _ _ => 1
  newWidth := fun col _ _ => col.width
  newHeight := fun _ _ _ => 400
  narrower := fun _ _ _ => false
  wider := fun _ _ _ => false
  lower := fun _ _ _ => true
  higher := fun _ _ _ => false
  stationary := fun _ => 0
  stationaryFrom := fun _ _ _ => 0
  newViewOffset := fun _ _ _ => 0
  centeredViewOffset := fun _ _ => 0
  spreadViewOffset := fun _ => 0
  settled := fun _ _ _ => true
  animationDone := true
  offLeft := fun _ _ => false
  offRight := fun _ _ => false
  noRoom := fun _ => false
  expandedWidth := fun _ => 700
  widthChanged := false
  windowResizing := false
  centerSnap := fun _ idx => 300 * idx
  leftSnap := fun _ idx => 300 * idx
  rightSnap := fun _ idx => 300 * idx
  snapDistance := fun pos => pos
  towardsRight := false
  notInView := fun _ _ _ => false
  unscrolled := true
  dragAnimated := false
  draggedSize := (300, 400)

def onePreset : Options Nat where
  presetColumnWidths := [.fixed 300]
  presetWindowHeights := [.fixed 400]
  defaultColumnDisplay := .normal
  centerFocusedColumn := .never
  alwaysCenterSingleColumn := false
  presetColumnWidths_ne := by decide
  presetWindowHeights_ne := by decide

/-- A window that was just mapped. -/
def mapped (id : Nat) : Tile Nat Nat where
  id := id
  sizingMode := .normal
  pendingSizingMode := .normal
  defaultColumnDisplay := none
  options := onePreset

theorem invariants_of_two_windows :
    ∃ s : ScrollingSpace Nat Nat, s.Reachable ∧ s.arrangement = [[7, 8]] ∧ s.Invariants := by
  have h₁ : Reachable _ := Reachable.step wideScreen
    (.addTile none (mapped 7) true (.fixed 300) false) (Reachable.new onePreset)
    ⟨by simp, by decide⟩ rfl
  have h₂ : Reachable _ := Reachable.step wideScreen
    (.addTile none (mapped 8) true (.fixed 300) false) h₁ ⟨by simp, by decide⟩ rfl
  have h₃ : Reachable _ := Reachable.step wideScreen
    (.consumeOrExpelWindowLeft none) h₂ (by intro w hw; cases hw) rfl
  exact ⟨_, h₃, rfl, (invariants_of_reachable _ h₃).1⟩

end Runs

end ScrollingSpace

end Cidre.Layout
