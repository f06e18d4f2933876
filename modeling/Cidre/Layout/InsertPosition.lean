/-
  Cidre.Layout.InsertPosition

  Where a dragged window would be inserted into the scrolling layout, and the rectangle
  that hints at it (`insert_position` and `insert_hint_area` of `layout/scrolling.rs`).

  The hint is asked for with a position that may have been computed before columns or
  tiles went away.  `none` is a panic of `insert_hint_area`, `some none` its `None`.
-/

import Cidre.Layout.Sizes
import Cidre.Layout.Structure
import Cidre.Layout.ViewOffset

namespace Cidre.Layout

open Panic Utils.Logical

variable {W : Type}

/-! ## Tiles -/

inductive InsertPosition where
  | newColumn (columnIdx : Nat)
  | inColumn (columnIdx tileIdx : Nat)
  | floating
deriving DecidableEq, Repr

def TabIndicator.contentOffset (t : TabIndicator) (tabCount : Nat) (scale : Rat) : Point :=
  match t.position with
  | .left | .top => ⟨(t.extraSize tabCount scale).w, (t.extraSize tabCount scale).h⟩
  | .right | .bottom => ⟨0, 0⟩

/-- What positions on the screen depend on. -/
structure DropArea (W : Type) where
  metrics : Metrics W
  /-- the type of `gaps` in the configuration -/
  gaps_nonneg : 0 ≤ metrics.gaps
  parentLoc : Point
  workingLoc : Point
  viewPos : Rat
  targetViewPos : Rat
  interactivelyResizingByLeftEdge : W → Bool

/-- The data of a tile that its position depends on. -/
structure TileBox where
  size : Size
  interactivelyResizingByLeftEdge : Bool

namespace DropArea

variable (a : DropArea W)

def boxes (col : Column W Rat) : List TileBox :=
  (col.tiles.zip col.data).map fun cell =>
    ⟨a.metrics.tileSize cell.1, a.interactivelyResizingByLeftEdge cell.1.id⟩

def tilesOrigin (col : Column W Rat) : Point :=
  match col.sizingMode with
  | .fullscreen => ⟨0, 0⟩
  | .maximized => ⟨0, a.parentLoc.y⟩
  | .normal =>
      let offset := match col.displayMode with
        | .tabbed => a.metrics.tabIndicator.contentOffset col.tiles.length a.metrics.scale
        | .normal => ⟨0, 0⟩
      ⟨offset.x, a.workingLoc.y + a.metrics.gaps + offset.y⟩

/-- The positions of tiles one below the other, from `origin`. -/
def offsetsFrom (col : Column W Rat) (tilesWidth : Rat) : Point → List TileBox → List Point
  | _, [] => []
  | origin, box :: boxes =>
      let x :=
        if col.options.centerFocusedColumn = .always then origin.x + (tilesWidth - box.size.w) / 2
        else if box.interactivelyResizingByLeftEdge then origin.x + (tilesWidth - box.size.w)
        else origin.x
      let next :=
        if col.displayMode = .tabbed then origin
        else ⟨origin.x, origin.y + (box.size.h + a.metrics.gaps)⟩
      ⟨x, origin.y⟩ :: offsetsFrom col tilesWidth next boxes

/-- The positions of the tiles, and of one past them. -/
def tileOffsets (col : Column W Rat) : List Point :=
  let tilesWidth := ((a.boxes col).map fun box => box.size.w).max?.getD 0
  a.offsetsFrom col tilesWidth (a.tilesOrigin col) (a.boxes col ++ [⟨⟨0, 0⟩, false⟩])

def tileOffset (col : Column W Rat) (tileIdx : Nat) : Option Point := (a.tileOffsets col)[tileIdx]?

/-- The top and the bottom of the visible tile of a tabbed column. -/
def activeExtent (col : Column W Rat) : Option (Rat × Rat) := do
  let top := (← a.tileOffset col col.activeTileIdx).y
  let bottom := top + (← (a.boxes col)[col.activeTileIdx]?).size.h
  return (top, bottom)

/-- The closest gap between tiles: where it is, and the index of the tile below it. -/
def closestTileGap (col : Column W Rat) (y : Rat) : Option (Rat × Nat) :=
  match col.displayMode with
  | .tabbed => do
      let (top, bottom) ← a.activeExtent col
      return if |top - y| ≤ |bottom - y| then (top, col.activeTileIdx)
        else (bottom, col.activeTileIdx + 1)
  | .normal =>
      Vec.minByKey ((a.tileOffsets col).map Point.y).zipIdx fun gap => |gap.1 - y|

end DropArea

/-! ## The position -/

namespace ScrollingSpace

variable (s : ScrollingSpace W Rat) (a : DropArea W)

/-- The positions of the columns, and of one past them. -/
def columnOffsets : List Rat := columnXs a.metrics.gaps 0 (s.data.map ColumnData.width)

def columnX (columnIdx : Nat) : Option Rat := (s.columnOffsets a)[columnIdx]?

/-- The column that contains a position, or one past the last one, and where it begins. -/
def containingColumn (x : Rat) : Rat × Nat :=
  ((s.columnOffsets a).zipIdx.takeWhile fun gap => decide (gap.1 ≤ x)).getLast?.getD (0, 0)

def insertPosition (pos : Point) : Option InsertPosition :=
  if s.columns.isEmpty then some (.newColumn 0)
  else
    -- the middle of a gap is aimed at
    let x := pos.x + a.viewPos + a.metrics.gaps / 2
    let y := pos.y + a.metrics.gaps / 2
    if x < 0 then some (.newColumn 0)
    else do
      let closest ← Vec.minByKey (s.columnOffsets a).zipIdx fun gap => |gap.1 - x|
      let colIdx := (s.containingColumn a x).2
      if colIdx = s.columns.length then
        -- past the last column
        return .newColumn closest.2
      else
        let col ← s.columns[colIdx]?
        let tileGap ← a.closestTileGap col y
        return if |closest.1 - x| ≤ |tileGap.1 - y| then .newColumn closest.2
          else .inColumn colIdx tileGap.2

/-! ## The hint -/

/-- The hint at a new column, before the view is taken into account. -/
def newColumnHint (columnIdx : Nat) : Option (Option Rectangle) :=
  let size : Size := ⟨300, a.metrics.workingArea.h - a.metrics.gaps * 2⟩
  let y := a.workingLoc.y + a.metrics.gaps
  if columnIdx = 0 ∨ columnIdx = s.columns.length then do
    let x ← s.columnX a columnIdx
    let x := if columnIdx = 0 ∧ ¬s.columns.isEmpty then x - (size.w + a.metrics.gaps) else x
    return some ⟨⟨x, y⟩, size⟩
  else if columnIdx > s.columns.length then
    return none
  else do
    let x ← s.columnX a columnIdx
    return some ⟨⟨x - size.w / 2 - a.metrics.gaps / 2, y⟩, size⟩

/-- The height of the hint in a column, and where it is. -/
def tileHint (col : Column W Rat) (tileIdx : Nat) : Option (Rat × Rat) :=
  match col.displayMode with
  | .tabbed => do
      let (top, bottom) ← a.activeExtent col
      return if tileIdx ≤ col.activeTileIdx then (150, top) else (150, bottom - 150)
  | .normal => do
      let top := (← a.tileOffset col tileIdx).y
      return if tileIdx = 0 then (150, top)
        else if tileIdx = col.tiles.length then (150, top - a.metrics.gaps - 150)
        else (300, top - a.metrics.gaps / 2 - 150)

def inColumnHint (columnIdx tileIdx : Nat) : Option (Option Rectangle) :=
  if columnIdx > s.columns.length then some none
  else do
    let col ← s.columns[columnIdx]?
    if tileIdx > col.tiles.length then
      return none
    else
      let hint ← tileHint a col tileIdx
      let extraW :=
        if col.displayMode = .tabbed ∧ col.sizingMode = .normal then
          (a.metrics.tabIndicator.extraSize col.tiles.length a.metrics.scale).w
        else 0
      let width := (← s.data[columnIdx]?).width - extraW
      let x := (← s.columnX a columnIdx) + (a.tilesOrigin col).x
      return some ⟨⟨x, hint.2⟩, ⟨width, hint.1⟩⟩

/-- What the position of the view in an empty layout depends on. -/
def scrollView : ScrollView where
  columns := (s.columns.zip s.data).map fun c => ⟨c.2.width, c.1.sizingMode⟩
  parentArea := ⟨a.parentLoc.x, a.metrics.parentArea.w⟩
  workingArea := ⟨a.workingLoc.x, a.metrics.workingArea.w⟩
  gaps := a.metrics.gaps
  centerFocusedColumn := s.options.centerFocusedColumn
  alwaysCenterSingleColumn := s.options.alwaysCenterSingleColumn
  targetViewPos := a.targetViewPos

/-- Where the left edge of the output is. -/
def hintOrigin (width : Rat) : Option Rat :=
  if s.columns.isEmpty then
    -- as the first window on an empty workspace cancels out any view offset
    if s.isCenteringFocusedColumn then
      (s.scrollView a).computeNewViewOffsetCentered (some 0) 0 width .normal
    else
      (s.scrollView a).computeNewViewOffsetFit (some 0) 0 width .normal
  else
    some a.viewPos

/-- The hint as it is seen from where the view is. -/
def hintInView : Option Rectangle → Option (Option Rectangle)
  | none => some none
  | some area => do
      let origin ← s.hintOrigin a area.size.w
      return some { area with loc := ⟨area.loc.x - origin, area.loc.y⟩ }

def insertHintArea : InsertPosition → Option (Option Rectangle)
  | .newColumn columnIdx => do s.hintInView a (← s.newColumnHint a columnIdx)
  | .inColumn columnIdx tileIdx => do s.hintInView a (← s.inColumnHint a columnIdx tileIdx)
  | .floating => some none

end ScrollingSpace

/-! ## Offsets -/

namespace DropArea

variable {a : DropArea W} {options : Options Rat} {col : Column W Rat}

@[simp] theorem offsetsFrom_length (tilesWidth : Rat) (origin : Point) (boxes : List TileBox) :
    (a.offsetsFrom col tilesWidth origin boxes).length = boxes.length := by
  induction boxes generalizing origin with
  | nil => rfl
  | cons box boxes ih => rw [offsetsFrom, List.length_cons, ih, List.length_cons]

theorem boxes_length (h : col.Sound options) : (a.boxes col).length = col.tiles.length := by
  rw [boxes, List.length_map, List.length_zip, h.data_length, Nat.min_self]

/-- One more than there are tiles. -/
theorem tileOffsets_length (h : col.Sound options) :
    (a.tileOffsets col).length = col.tiles.length + 1 := by
  rw [tileOffsets, offsetsFrom_length, List.length_append, boxes_length h]
  rfl

theorem tileOffset_returns (h : col.Sound options) {tileIdx : Nat}
    (hidx : tileIdx ≤ col.tiles.length) : Returns (a.tileOffset col tileIdx) fun _ => True := by
  have hlt : tileIdx < (a.tileOffsets col).length := by
    rw [tileOffsets_length h]
    omega
  exact ⟨_, List.getElem?_eq_getElem hlt, trivial⟩

theorem activeExtent_returns (h : col.Sound options) :
    Returns (a.activeExtent col) fun _ => True := by
  refine (tileOffset_returns h h.active_lt.le).bind fun top _ => ?_
  have hlt : col.activeTileIdx < (a.boxes col).length := by
    rw [boxes_length h]
    exact h.active_lt
  exact (Vec.getElem?_returns hlt).bind fun box _ => returns_pure trivial

theorem closestTileGap_returns (h : col.Sound options) (y : Rat) :
    Returns (a.closestTileGap col y) fun gap => gap.2 ≤ col.tiles.length := by
  have hactive : col.activeTileIdx < col.tiles.length := h.active_lt
  unfold closestTileGap
  cases col.displayMode with
  | tabbed =>
    refine (activeExtent_returns h).bind fun extent _ => returns_pure ?_
    split
    · exact hactive.le
    · exact hactive
  | normal =>
    -- the position past the tiles is always there
    have hne : ((a.tileOffsets col).map Point.y).zipIdx ≠ [] := by
      refine List.ne_nil_of_length_pos ?_
      rw [List.length_zipIdx, List.length_map, tileOffsets_length h]
      omega
    refine (Vec.minByKey_returns _ hne).mono fun gap hgap => ?_
    have hlt := List.snd_lt_of_mem_zipIdx hgap
    rw [List.length_map, tileOffsets_length h] at hlt
    omega

end DropArea

namespace ScrollingSpace

variable {s : ScrollingSpace W Rat} {a : DropArea W}

theorem columnOffsets_length (h : s.WellFormed) :
    (s.columnOffsets a).length = s.columns.length + 1 := by
  rw [columnOffsets, columnXs_length, List.length_map, h.data_length]

theorem columnX_returns (h : s.WellFormed) {columnIdx : Nat} (hidx : columnIdx ≤ s.columns.length) :
    Returns (s.columnX a columnIdx) fun _ => True := by
  have hlt : columnIdx < (s.columnOffsets a).length := by
    rw [columnOffsets_length h]
    omega
  exact ⟨_, List.getElem?_eq_getElem hlt, trivial⟩

/-- An index into the offsets is one of a column, or one past them. -/
theorem le_of_mem_offsets (h : s.WellFormed) {gap : Rat × Nat}
    (hgap : gap ∈ (s.columnOffsets a).zipIdx) : gap.2 ≤ s.columns.length := by
  have hlt := List.snd_lt_of_mem_zipIdx hgap
  rw [columnOffsets_length h] at hlt
  omega

theorem containingColumn_le (h : s.WellFormed) (x : Rat) :
    (s.containingColumn a x).2 ≤ s.columns.length := by
  unfold containingColumn
  cases hlast : ((s.columnOffsets a).zipIdx.takeWhile fun gap => decide (gap.1 ≤ x)).getLast? with
  | none => exact Nat.zero_le _
  | some gap =>
    have hmem := List.mem_of_getLast? hlast
    exact le_of_mem_offsets h (List.takeWhile_sublist _ |>.subset hmem)

/-! ## The position is valid -/

/-- A position between columns, or between the tiles of one. -/
def Insertable (s : ScrollingSpace W Rat) : InsertPosition → Prop
  | .newColumn columnIdx => columnIdx ≤ s.columns.length
  | .inColumn columnIdx tileIdx =>
      ∃ col, s.columns[columnIdx]? = some col ∧ tileIdx ≤ col.tiles.length
  | .floating => False

theorem insertPosition_returns (h : s.WellFormed) (pos : Point) :
    Returns (s.insertPosition a pos) s.Insertable := by
  refine returns_early (Nat.zero_le _) fun _ => ?_
  refine returns_early (Nat.zero_le _) fun _ => ?_
  have hne : (s.columnOffsets a).zipIdx ≠ [] := by
    refine List.ne_nil_of_length_pos ?_
    rw [List.length_zipIdx, columnOffsets_length h]
    omega
  refine (Vec.minByKey_returns _ hne).bind fun closest hclosest => ?_
  have hnew : closest.2 ≤ s.columns.length := le_of_mem_offsets h hclosest
  have hcontaining := containingColumn_le (a := a) h (pos.x + a.viewPos + a.metrics.gaps / 2)
  refine returns_early hnew fun hlast => ?_
  refine (Vec.getElem?_returns (lt_of_le_of_ne hcontaining hlast)).bind fun col hcol => ?_
  have hsound : col.Sound s.options := (Structured.getElem?_coherent h hcol).toSound
  refine (DropArea.closestTileGap_returns hsound _).bind fun tileGap htile => returns_pure ?_
  split
  · exact hnew
  · exact ⟨col, hcol, htile⟩

/-! ## The hint is total -/

theorem hintOrigin_returns (width : Rat) : Returns (s.hintOrigin a width) fun _ => True := by
  have hgaps : 0 ≤ (s.scrollView a).gaps := a.gaps_nonneg
  refine returns_ite (fun _ => ?_) fun _ => returns_some trivial
  refine returns_ite (fun _ => ?_) fun _ => ?_
  · exact (ScrollView.computeNewViewOffsetCentered_shows hgaps ⟨width, .normal⟩ 0).mono
      fun _ _ => trivial
  · exact (ScrollView.computeNewViewOffsetFit_shows hgaps ⟨width, .normal⟩ 0).mono
      fun _ _ => trivial

theorem newColumnHint_returns (h : s.WellFormed) (columnIdx : Nat) :
    Returns (s.newColumnHint a columnIdx) fun hint =>
      columnIdx ≤ s.columns.length → hint ≠ none := by
  refine returns_ite (fun hend => ?_) fun hinner => ?_
  · have hidx : columnIdx ≤ s.columns.length := by omega
    exact (columnX_returns h hidx).bind fun x _ => returns_pure fun _ => Option.some_ne_none _
  refine returns_ite (fun hgt => returns_pure fun hle => absurd hle (by omega)) fun hle => ?_
  exact (columnX_returns h (by omega)).bind fun x _ => returns_pure fun _ => Option.some_ne_none _

theorem tileHint_returns {col : Column W Rat} (hsound : col.Sound s.options) {tileIdx : Nat}
    (htile : tileIdx ≤ col.tiles.length) : Returns (tileHint a col tileIdx) fun _ => True := by
  unfold tileHint
  cases col.displayMode with
  | tabbed =>
    exact (DropArea.activeExtent_returns hsound).bind fun extent _ => returns_pure trivial
  | normal =>
    exact (DropArea.tileOffset_returns hsound htile).bind fun top _ => returns_pure trivial

/-- The guard lets the index one past the last column through. -/
theorem inColumnHint_returns (h : s.WellFormed) {columnIdx tileIdx : Nat}
    (hne : columnIdx ≠ s.columns.length) :
    Returns (s.inColumnHint a columnIdx tileIdx) fun hint =>
      s.Insertable (.inColumn columnIdx tileIdx) → hint ≠ none := by
  -- with `hne`, what passes the guard is a column
  refine returns_ite (fun hgt => returns_some ?_) fun hle => ?_
  · rintro ⟨col, hcol, -⟩
    have hlt : columnIdx < s.columns.length := (List.getElem?_eq_some_iff.mp hcol).1
    omega
  have hlt : columnIdx < s.columns.length := by omega
  refine (Vec.getElem?_returns hlt).bind fun col hcol => ?_
  have hsound : col.Sound s.options := (Structured.getElem?_coherent h hcol).toSound
  refine returns_ite (fun hgt => returns_pure ?_) fun hle => ?_
  · rintro ⟨col', hcol', hle⟩
    obtain rfl : col = col' := Option.some.inj (hcol.symm.trans hcol')
    omega
  refine (tileHint_returns hsound (by omega)).bind fun hint _ => ?_
  have hdata : columnIdx < s.data.length := by
    rw [h.data_length]
    exact hlt
  refine (Vec.getElem?_returns hdata).bind fun data _ => ?_
  exact (columnX_returns h hlt.le).bind fun x _ => returns_pure fun _ => Option.some_ne_none _

theorem inColumnHint_panics (tileIdx : Nat) :
    s.inColumnHint a s.columns.length tileIdx = none := by
  rw [inColumnHint, if_neg (by omega), List.getElem?_eq_none le_rfl]
  rfl

theorem hintInView_returns (hint : Option Rectangle) :
    Returns (s.hintInView a hint) fun viewed => hint ≠ none → viewed ≠ none := by
  cases hint with
  | none => exact returns_some fun hne => hne
  | some area =>
    exact (hintOrigin_returns area.size.w).bind fun origin _ =>
      returns_pure fun _ => Option.some_ne_none _

theorem insertHintArea_returns (h : s.WellFormed) {position : InsertPosition}
    (hne : ∀ tileIdx, position ≠ .inColumn s.columns.length tileIdx) :
    Returns (s.insertHintArea a position) fun hint => s.Insertable position → hint ≠ none := by
  cases position with
  | newColumn columnIdx =>
    exact (newColumnHint_returns h columnIdx).bind fun hint hsome =>
      (hintInView_returns hint).mono fun _ hviewed hinsert => hviewed (hsome hinsert)
  | inColumn columnIdx tileIdx =>
    have hcolumn : columnIdx ≠ s.columns.length := fun heq => hne tileIdx (heq ▸ rfl)
    exact (inColumnHint_returns h hcolumn).bind fun hint hsome =>
      (hintInView_returns hint).mono fun _ hviewed hinsert => hviewed (hsome hinsert)
  | floating => exact returns_some fun hfloating => hfloating.elim

theorem insertHintArea_panics (tileIdx : Nat) :
    s.insertHintArea a (.inColumn s.columns.length tileIdx) = none := by
  rw [insertHintArea, inColumnHint_panics]
  rfl

/-- A window can be dropped where the pointer is: the position is valid and has a hint; and
for the position of a hint that is still shown nothing panics. -/
structure DropsAt (s : ScrollingSpace W Rat) (a : DropArea W) (pos : Point)
    (position : InsertPosition) : Prop where
  valid : Returns (s.insertPosition a pos) fun found =>
    s.Insertable found ∧ Returns (s.insertHintArea a found) (· ≠ none)
  total : s.insertHintArea a position ≠ none

/-- The hint panics for a position in the column one past the last, and for no other. -/
theorem dropsAt_iff (h : s.WellFormed) (a : DropArea W) (pos : Point) (position : InsertPosition) :
    s.DropsAt a pos position ↔ ∀ tileIdx, position ≠ .inColumn s.columns.length tileIdx := by
  constructor
  · rintro hdrops tileIdx rfl
    exact hdrops.total (insertHintArea_panics tileIdx)
  · intro hne
    refine ⟨(insertPosition_returns h pos).mono fun found hfound => ⟨hfound, ?_⟩, ?_⟩
    · -- a position that was found is in a column that there is
      have hlt : ∀ tileIdx, found ≠ .inColumn s.columns.length tileIdx := by
        rintro tileIdx rfl
        obtain ⟨col, hcol, -⟩ := hfound
        exact absurd (List.getElem?_eq_some_iff.mp hcol).1 (lt_irrefl _)
      exact (insertHintArea_returns h hlt).mono fun hint hsome => hsome hfound
    · obtain ⟨hint, hhint, -⟩ := insertHintArea_returns (a := a) h hne
      rw [hhint]
      exact Option.some_ne_none hint

/-- A column of one window. -/
def loneColumn : Column Nat Rat :=
  let options : Options Rat :=
    { presetColumnWidths := [.proportion (1 / 2)]
      presetWindowHeights := [.proportion (1 / 2)]
      defaultColumnDisplay := .normal
      centerFocusedColumn := .never
      alwaysCenterSingleColumn := false
      presetColumnWidths_ne := by simp
      presetWindowHeights_ne := by simp }
  { tiles := [⟨1, .normal, .normal, none, options⟩]
    data := [⟨.auto 1⟩]
    activeTileIdx := 0
    width := .proportion (1 / 2)
    presetWidthIdx := none
    isFullWidth := false
    isPendingFullscreen := false
    isPendingMaximized := false
    displayMode := .normal
    options }

/-- What is left of two columns after the second one is closed. -/
def oneLeft : ScrollingSpace Nat Rat :=
  { new loneColumn.options with columns := [loneColumn], data := [⟨500⟩] }

def fullHd : DropArea Nat where
  metrics :=
    { viewSize := ⟨1920, 1080⟩
      parentArea := ⟨1920, 1080⟩
      workingArea := ⟨1920, 1080⟩
      scale := 1
      gaps := 16
      tabIndicator := ⟨false, false, false, 4, 5, .left⟩
      tile := fun _ => ⟨none, ⟨0, 0⟩, ⟨0, 0⟩, ⟨500, 1000⟩⟩ }
  gaps_nonneg := by decide
  parentLoc := ⟨0, 0⟩
  workingLoc := ⟨0, 0⟩
  viewPos := 0
  targetViewPos := 0
  interactivelyResizingByLeftEdge := fun _ => false

theorem oneLeft_wellFormed : oneLeft.WellFormed where
  data_length := rfl
  active_lt := .inl (by decide)
  coherent := by
    intro col hcol
    obtain rfl : col = loneColumn := List.mem_singleton.mp hcol
    exact
      { data_length := rfl
        one_height := by decide
        presetHeights := by
          intro d hd
          obtain rfl := List.mem_singleton.mp hd
          exact trivial
        presetWidth := by simp [loneColumn]
        options_eq := rfl
        active_lt := by decide
        pending := by simp [loneColumn] }
  nodup := by decide
  resize_mem := by
    intro r hr
    cases hr

theorem dropsAt_oneLeft :
    oneLeft.DropsAt fullHd ⟨100, 100⟩ (.inColumn 2 0) ↔
      ∀ tileIdx, InsertPosition.inColumn 2 0 ≠ .inColumn oneLeft.columns.length tileIdx :=
  dropsAt_iff oneLeft_wellFormed fullHd ⟨100, 100⟩ (.inColumn 2 0)

/-- The hint was in the column that was closed. -/
theorem closedColumn_panics :
    oneLeft.WellFormed ∧ oneLeft.insertHintArea fullHd (.inColumn 1 0) = none ∧
      ¬oneLeft.DropsAt fullHd ⟨100, 100⟩ (.inColumn 1 0) :=
  ⟨oneLeft_wellFormed, insertHintArea_panics 0, fun hdrops => hdrops.total (insertHintArea_panics 0)⟩

end ScrollingSpace

end Cidre.Layout
