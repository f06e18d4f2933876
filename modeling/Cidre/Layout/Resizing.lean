/-
  Cidre.Layout.Resizing

  Relative changes of sizes (`src/layout/scrolling.rs`, `set_column_width` and
  `set_window_height`).

  A change by a proportion goes from pixels to a proportion and back.  For widths the two
  directions agree.  For heights the tab indicator is taken off on the way back, and not
  added on the way there: a column whose tab indicator takes some of the height gets lower
  with each change (`steady_iff`).
-/

import Cidre.Layout.AutoHeights

namespace Cidre.Layout

open Cidre.Panic
open Cidre.Utils.Logical (clampTo)

variable {W : Type} {m : Metrics W} {col col' : Column W Rat} {tile : Tile W Rat}

namespace Metrics

/-! ## What the sizes depend on -/

/-- Two columns that differ in nothing that the limits of a size depend on. -/
structure Alike (col col' : Column W Rat) : Prop where
  ids_eq : col'.ids = col.ids
  displayMode_eq : col'.displayMode = col.displayMode
  active_eq : col'.activeTileIdx = col.activeTileIdx

theorem Alike.refl (col : Column W Rat) : Alike col col := ⟨rfl, rfl, rfl⟩

theorem Alike.trans {col'' : Column W Rat} (h : Alike col col') (h' : Alike col' col'') :
    Alike col col'' :=
  ⟨h'.ids_eq.trans h.ids_eq, h'.displayMode_eq.trans h.displayMode_eq,
    h'.active_eq.trans h.active_eq⟩

theorem Alike.length_eq (h : Alike col col') : col'.tiles.length = col.tiles.length := by
  rw [← Column.length_ids, h.ids_eq, Column.length_ids]

theorem Alike.extraSize_eq (h : Alike col col') : m.extraSize col' = m.extraSize col := by
  unfold extraSize
  rw [h.displayMode_eq, h.length_eq]

theorem Alike.heightLeftFor_eq (h : Alike col col') (tile : Tile W Rat) (idx : Nat) :
    m.heightLeftFor col' tile idx = m.heightLeftFor col tile idx := by
  have hmins : ∀ c : Column W Rat, ((c.tiles.eraseIdx idx).map fun tile =>
      max 1 (m.tile tile.id).minSizeNonfullscreen.h + m.gaps) =
        (c.ids.eraseIdx idx).map fun id => max 1 (m.tile id).minSizeNonfullscreen.h + m.gaps := by
    intro c
    rw [Column.ids, List.eraseIdx_map, List.map_map]
    rfl
  unfold heightLeftFor
  rw [h.displayMode_eq, h.extraSize_eq, hmins, hmins, h.ids_eq]

theorem Alike.clampHeight_eq (h : Alike col col') (tile : Tile W Rat) (idx : Nat) (px : Rat) :
    m.clampHeight col' tile idx px = m.clampHeight col tile idx px := by
  unfold clampHeight
  rw [h.heightLeftFor_eq]

theorem Alike.changedHeight_eq (h : Alike col col') (tile : Tile W Rat)
    (current : WindowHeight Rat) (change : SizeChange Rat) :
    m.changedHeight col' tile current change = m.changedHeight col tile current change := by
  unfold changedHeight
  rw [h.extraSize_eq]

theorem changedHeight_congr {current current' : WindowHeight Rat}
    (h : m.currentWindowHeight tile current = m.currentWindowHeight tile current')
    (change : SizeChange Rat) :
    m.changedHeight col tile current change = m.changedHeight col tile current' change := by
  unfold changedHeight
  rw [h]

theorem clampTo_eq_self {x lo hi : Rat} (hlo : lo ≤ x) (hhi : x ≤ hi) : clampTo x lo hi = x := by
  rw [clampTo, min_eq_left hhi, max_eq_right hlo]

/-! ## Widths -/

/-- The width of the column in pixels. -/
def resolvedWidth (m : Metrics W) (col : Column W Rat) : Rat :=
  m.resolveColumnWidth col (currentWidth col)

/-- The width of the column as a proportion. -/
def widthProportion (m : Metrics W) (col : Column W Rat) : Rat :=
  match currentWidth col with
  | .proportion p => p
  | .fixed width =>
      let full := m.workingArea.w - m.gaps
      if full = 0 then 1 else (width + m.gaps + (m.extraSize col).w) / full

theorem newWidth_adjustFixed (m : Metrics W) (col : Column W Rat) (delta : Int) (idx : Nat) :
    m.newWidth col (.adjustFixed delta) idx =
      .fixed (clampTo (m.resolvedWidth col + delta) 1 maxPx) := by
  unfold newWidth resolvedWidth
  cases currentWidth col with
  | proportion p => rfl
  | fixed width => rfl

theorem newWidth_adjustProportion (m : Metrics W) (col : Column W Rat) (delta : Rat) (idx : Nat) :
    m.newWidth col (.adjustProportion delta) idx =
      .proportion (clampTo (m.widthProportion col + delta / 100) 0 maxF) := by
  unfold newWidth widthProportion
  cases currentWidth col with
  | proportion p => rfl
  | fixed width => rfl

/-- From pixels to a proportion and back. -/
theorem resolve_widthProportion (hfull : m.gaps < m.workingArea.w) :
    (m.workingArea.w - m.gaps) * m.widthProportion col - m.gaps - (m.extraSize col).w =
      m.resolvedWidth col := by
  unfold widthProportion resolvedWidth resolveColumnWidth
  have hne : m.workingArea.w - m.gaps ≠ 0 := (sub_pos.mpr hfull).ne'
  cases currentWidth col with
  | proportion p => rfl
  | fixed width =>
    simp only [if_neg hne]
    field_simp
    ring

/-- `set_column_width` leaves the column at the new width. -/
theorem setColumnWidth_width {options : Options Rat} (hcol : col.Coherent options)
    (g : Geometry W Rat) (change : SizeChange Rat) {tileIdx : Option Nat}
    (hidx : ∀ idx ∈ tileIdx, idx < col.tiles.length) :
    Returns (col.setColumnWidth (m.geometry g) change tileIdx) fun col' =>
      col'.Coherent options ∧ Alike col col' ∧
        currentWidth col' = m.newWidth col change (tileIdx.getD col.activeTileIdx) := by
  have hlt := Column.tileIdx_lt hcol.toSound hidx
  refine (Vec.check_returns _ hlt).bind fun _ _ => ?_
  refine (Column.updateTileSizes_sound (hcol.resized _ false).toSound).mono ?_
  rintro _ ⟨mode, rfl⟩
  exact ⟨(hcol.resized _ false).request mode, ⟨Column.ids_request col mode, rfl, rfl⟩, rfl⟩

/-- A proportion that is not clamped. -/
def WidthFree (m : Metrics W) (col : Column W Rat) (delta : Rat) : Prop :=
  0 ≤ m.widthProportion col + delta / 100 ∧ m.widthProportion col + delta / 100 ≤ maxF

instance (m : Metrics W) (col : Column W Rat) (delta : Rat) : Decidable (m.WidthFree col delta) :=
  inferInstanceAs (Decidable (_ ∧ _))

theorem adjustWidth_returns {options : Options Rat} (hcol : col.Coherent options)
    (g : Geometry W Rat) {delta : Rat} (hfree : m.WidthFree col delta) {tileIdx : Option Nat}
    (hidx : ∀ idx ∈ tileIdx, idx < col.tiles.length) (hfull : m.gaps < m.workingArea.w) :
    Returns (col.setColumnWidth (m.geometry g) (.adjustProportion delta) tileIdx) fun col' =>
      col'.Coherent options ∧ Alike col col' ∧
        m.widthProportion col' = m.widthProportion col + delta / 100 ∧
        m.resolvedWidth col' =
          m.resolvedWidth col + (m.workingArea.w - m.gaps) * (delta / 100) := by
  refine (setColumnWidth_width hcol g _ hidx).mono ?_
  rintro col' ⟨hcol', halike, hwidth⟩
  rw [newWidth_adjustProportion, clampTo_eq_self hfree.1 hfree.2] at hwidth
  refine ⟨hcol', halike, ?_, ?_⟩
  · simp only [widthProportion, hwidth]
  · have hbefore : _ = m.resolvedWidth col := resolve_widthProportion hfull
    have hafter : m.resolvedWidth col' = (m.workingArea.w - m.gaps) *
        (m.widthProportion col + delta / 100) - m.gaps - (m.extraSize col).w := by
      rw [resolvedWidth, hwidth, resolveColumnWidth, halike.extraSize_eq]
    rw [hafter, ← hbefore]
    ring

/-! ## Heights -/

/-- The height of a window, as far as the column knows: the stored one if it is fixed. -/
def windowHeightAt (m : Metrics W) (col : Column W Rat) (idx : Nat) : Option Rat :=
  (cells col)[idx]?.map fun cell => m.currentWindowHeight cell.1 cell.2.height

theorem freeHeights_cell {options : Options Rat} (hcol : col.Coherent options)
    (g : Geometry W Rat) {idx : Nat} {d : TileData Rat}
    (hcell : (cells col)[idx]? = some (tile, d)) :
    Returns (col.freeHeights (m.geometry g) idx) fun col' => col'.tiles = col.tiles ∧
      Alike col col' ∧ ∃ d', col'.data[idx]? = some d' ∧
        ∀ tile, m.currentWindowHeight tile d'.height = m.currentWindowHeight tile d.height := by
  obtain ⟨htile, hd⟩ := List.getElem?_zip_eq_some.mp hcell
  unfold Column.freeHeights
  rw [hd, Option.bind_eq_bind, Option.bind_some]
  refine returns_ite (fun hauto => ?_) (fun _ => ?_)
  · obtain ⟨weight, hweight⟩ := exists_auto hauto
    rw [convertHeightsToAuto_eq g hcol.toSound.tiles_ne hcol.data_length]
    refine returns_some ⟨rfl, ⟨rfl, rfl, rfl⟩,
      ⟨.auto ((m.tileSize tile).h / m.medianHeight col)⟩, ?_, fun tile => ?_⟩
    · show (List.map _ col.tiles)[idx]? = _
      rw [List.getElem?_map, htile]
      rfl
    · rw [hweight]
      rfl
  · exact returns_some ⟨rfl, Alike.refl col, d, hd, fun _ => rfl⟩

/-- `set_window_height` stores the height it arrives at. -/
theorem setWindowHeight_height {options : Options Rat} (hcol : col.Coherent options)
    (g : Geometry W Rat) (change : SizeChange Rat) {tileIdx : Option Nat} {d : TileData Rat}
    (hcell : (cells col)[tileIdx.getD col.activeTileIdx]? = some (tile, d)) :
    Returns (col.setWindowHeight (m.geometry g) change tileIdx) fun col' =>
      col'.Coherent options ∧ Alike col col' ∧ ∃ mode,
        (cells col')[tileIdx.getD col.activeTileIdx]? = some (tile.requestSize mode,
          ⟨.fixed (m.clampHeight col tile (tileIdx.getD col.activeTileIdx)
            (m.changedHeight col tile d.height change))⟩) := by
  obtain ⟨htile, -⟩ := List.getElem?_zip_eq_some.mp hcell
  have hidx : tileIdx.getD col.activeTileIdx < col.tiles.length :=
    (List.getElem?_eq_some_iff.mp htile).1
  unfold Column.setWindowHeight
  generalize tileIdx.getD col.activeTileIdx = idx at hcell htile hidx ⊢
  refine ((Column.freeHeights_returns (m.geometry g) hcol hidx).and
    (freeHeights_cell hcol g hcell)).bind ?_
  rintro col₁ ⟨⟨hkept, hset⟩, htiles, halike, d₁, hd₁, hheight⟩
  refine (Vec.check_returns true (htiles.symm ▸ hidx)).bind fun _ _ => ?_
  have hcoherent := (hset (.fixed ((m.geometry g).newHeight col₁ change idx)) trivial).unmaximized
  refine (Column.updateTileSizes_sound hcoherent.toSound).mono ?_
  rintro _ ⟨mode, rfl⟩
  refine ⟨hcoherent.request mode, halike.trans ⟨Column.ids_request _ mode, rfl, rfl⟩, mode, ?_⟩
  have hcell₁ : (cells col₁)[idx]? = some (tile, d₁) :=
    List.getElem?_zip_eq_some.mpr ⟨htiles ▸ htile, hd₁⟩
  have hnew : (m.geometry g).newHeight col₁ change idx =
      m.clampHeight col tile idx (m.changedHeight col tile d.height change) := by
    show m.newHeight col₁ change idx = _
    unfold newHeight
    rw [hcell₁]
    show m.clampHeight col₁ tile idx (m.changedHeight col₁ tile d₁.height change) = _
    rw [halike.clampHeight_eq, halike.changedHeight_eq, changedHeight_congr (hheight tile)]
  refine List.getElem?_zip_eq_some.mpr ⟨?_, ?_⟩
  · show (col₁.tiles.map _)[idx]? = _
    rw [htiles, List.getElem?_map, htile]
    rfl
  · show (col₁.data.set idx _)[idx]? = _
    rw [List.getElem?_set_self (List.getElem?_eq_some_iff.mp hd₁).1, hnew]

theorem changedHeight_adjustFixed_zero (m : Metrics W) (col : Column W Rat) (tile : Tile W Rat)
    (current : WindowHeight Rat) :
    m.changedHeight col tile current (.adjustFixed 0) = m.currentWindowHeight tile current := by
  show _ + ((0 : Int) : Rat) = _
  rw [Int.cast_zero, add_zero]

/-- The indicator is taken off though it was not added. -/
theorem changedHeight_adjustProportion (hfull : m.gaps < m.workingArea.h)
    (current : WindowHeight Rat) (delta : Rat) :
    m.changedHeight col tile current (.adjustProportion delta) =
      m.currentWindowHeight tile current + (m.workingArea.h - m.gaps) * (delta / 100) -
        (m.extraSize col).h := by
  have hne : m.workingArea.h - m.gaps ≠ 0 := (sub_pos.mpr hfull).ne'
  simp only [changedHeight, if_neg hne, TileMetrics.windowHeightForTileHeight,
    TileMetrics.tileHeightForWindowHeight]
  field_simp
  ring

/-- A height that is not clamped. -/
def HeightFree (m : Metrics W) (col : Column W Rat) (tile : Tile W Rat) (idx : Nat)
    (current : WindowHeight Rat) (change : SizeChange Rat) : Prop :=
  m.clampHeight col tile idx (m.changedHeight col tile current change) =
    m.changedHeight col tile current change

instance (m : Metrics W) (col : Column W Rat) (tile : Tile W Rat) (idx : Nat)
    (current : WindowHeight Rat) (change : SizeChange Rat) :
    Decidable (m.HeightFree col tile idx current change) := inferInstanceAs (Decidable (_ = _))

theorem windowHeightAt_eq {idx : Nat} {d : TileData Rat}
    (hcell : (cells col)[idx]? = some (tile, d)) :
    m.windowHeightAt col idx = some (m.currentWindowHeight tile d.height) := by
  rw [windowHeightAt, hcell]
  rfl

theorem changeHeight_returns {options : Options Rat} (hcol : col.Coherent options)
    (g : Geometry W Rat) (change : SizeChange Rat) {tileIdx : Option Nat} {d : TileData Rat}
    (hcell : (cells col)[tileIdx.getD col.activeTileIdx]? = some (tile, d))
    (hfree : m.HeightFree col tile (tileIdx.getD col.activeTileIdx) d.height change) :
    Returns (col.setWindowHeight (m.geometry g) change tileIdx) fun col' =>
      col'.Coherent options ∧ Alike col col' ∧ ∃ mode,
        (cells col')[tileIdx.getD col.activeTileIdx]? = some (tile.requestSize mode,
          ⟨.fixed (m.changedHeight col tile d.height change)⟩) := by
  refine (setWindowHeight_height hcol g change hcell).mono ?_
  rintro col' ⟨hcol', halike, mode, hcell'⟩
  rw [hfree] at hcell'
  exact ⟨hcol', halike, mode, hcell'⟩

/-! ## Both -/

/-- Changes by nothing change nothing, and two changes are one by their sum. -/
structure Steady (m : Metrics W) (g : Geometry W Rat) (col : Column W Rat)
    (tileIdx : Option Nat) (a b : Rat) : Prop where
  width_fixed : Returns (col.setColumnWidth (m.geometry g) (.adjustFixed 0) tileIdx) fun col' =>
    m.resolvedWidth col' = m.resolvedWidth col
  width_zero : Returns (col.setColumnWidth (m.geometry g) (.adjustProportion 0) tileIdx)
    fun col' => m.resolvedWidth col' = m.resolvedWidth col
  width_add : Returns (do
      let col ← col.setColumnWidth (m.geometry g) (.adjustProportion a) tileIdx
      col.setColumnWidth (m.geometry g) (.adjustProportion b) tileIdx) fun col₁ =>
    Returns (col.setColumnWidth (m.geometry g) (.adjustProportion (a + b)) tileIdx) fun col₂ =>
      m.resolvedWidth col₁ = m.resolvedWidth col₂
  height_fixed : Returns (col.setWindowHeight (m.geometry g) (.adjustFixed 0) tileIdx) fun col' =>
    m.windowHeightAt col' (tileIdx.getD col.activeTileIdx) =
      m.windowHeightAt col (tileIdx.getD col.activeTileIdx)
  height_zero : Returns (col.setWindowHeight (m.geometry g) (.adjustProportion 0) tileIdx)
    fun col' => m.windowHeightAt col' (tileIdx.getD col.activeTileIdx) =
      m.windowHeightAt col (tileIdx.getD col.activeTileIdx)
  height_add : Returns (do
      let col ← col.setWindowHeight (m.geometry g) (.adjustProportion a) tileIdx
      col.setWindowHeight (m.geometry g) (.adjustProportion b) tileIdx) fun col₁ =>
    Returns (col.setWindowHeight (m.geometry g) (.adjustProportion (a + b)) tileIdx) fun col₂ =>
      m.windowHeightAt col₁ (tileIdx.getD col.activeTileIdx) =
        m.windowHeightAt col₂ (tileIdx.getD col.activeTileIdx)

/-- No clamp is active in any of these changes. -/
structure Free (m : Metrics W) (col : Column W Rat) (tile : Tile W Rat) (idx : Nat)
    (current : WindowHeight Rat) (a b : Rat) : Prop where
  widthPx : 1 ≤ m.resolvedWidth col ∧ m.resolvedWidth col ≤ maxPx
  width : ∀ delta ∈ [0, a, a + b], m.WidthFree col delta
  height : ∀ change ∈ [.adjustFixed 0, .adjustProportion 0, .adjustProportion a,
    .adjustProportion (a + b)], m.HeightFree col tile idx current change
  heightTwice : m.HeightFree col tile idx
    (.fixed (m.changedHeight col tile current (.adjustProportion a))) (.adjustProportion b)

variable {options : Options Rat} {tileIdx : Option Nat} {d : TileData Rat} {a b : Rat}

theorem tileIdx_of_cell
    (hcell : (cells col)[tileIdx.getD col.activeTileIdx]? = some (tile, d)) :
    ∀ idx ∈ tileIdx, idx < col.tiles.length := by
  rintro idx ⟨⟩
  exact (List.getElem?_eq_some_iff.mp (List.getElem?_zip_eq_some.mp hcell).1).1

theorem width_steady (hcol : col.Coherent options) (g : Geometry W Rat)
    (hidx : ∀ idx ∈ tileIdx, idx < col.tiles.length) (hfull : m.gaps < m.workingArea.w)
    (hfree : ∀ delta ∈ [0, a, a + b], m.WidthFree col delta) :
    (Returns (col.setColumnWidth (m.geometry g) (.adjustProportion 0) tileIdx)
      fun col' => m.resolvedWidth col' = m.resolvedWidth col) ∧
    Returns (do
      let col ← col.setColumnWidth (m.geometry g) (.adjustProportion a) tileIdx
      col.setColumnWidth (m.geometry g) (.adjustProportion b) tileIdx) fun col₁ =>
    Returns (col.setColumnWidth (m.geometry g) (.adjustProportion (a + b)) tileIdx) fun col₂ =>
      m.resolvedWidth col₁ = m.resolvedWidth col₂ := by
  refine ⟨?_, ?_⟩
  · refine (adjustWidth_returns hcol g (hfree 0 (by simp)) hidx hfull).mono ?_
    rintro col' ⟨-, -, -, hwidth⟩
    rw [hwidth, zero_div, mul_zero, add_zero]
  · refine (adjustWidth_returns hcol g (hfree a (by simp)) hidx hfull).bind ?_
    rintro col₁ ⟨hcol₁, halike, hproportion, hwidth⟩
    have hsum : m.widthProportion col₁ + b / 100 = m.widthProportion col + (a + b) / 100 := by
      rw [hproportion]
      ring
    have hfree₁ : m.WidthFree col₁ b := by
      unfold WidthFree
      rw [hsum]
      exact hfree (a + b) (by simp)
    have hidx₁ : ∀ idx ∈ tileIdx, idx < col₁.tiles.length :=
      fun idx h => halike.length_eq ▸ hidx idx h
    refine (adjustWidth_returns hcol₁ g hfree₁ hidx₁ hfull).mono ?_
    rintro col₂ ⟨-, -, -, hwidth₂⟩
    refine (adjustWidth_returns hcol g (hfree (a + b) (by simp)) hidx hfull).mono ?_
    rintro col₃ ⟨-, -, -, hwidth₃⟩
    rw [hwidth₂, hwidth, hwidth₃]
    ring

/-- The height after a change by a proportion. -/
theorem adjustHeight_returns (hcol : col.Coherent options) (g : Geometry W Rat)
    (hcell : (cells col)[tileIdx.getD col.activeTileIdx]? = some (tile, d))
    (hfull : m.gaps < m.workingArea.h) {delta : Rat}
    (hfree : m.HeightFree col tile (tileIdx.getD col.activeTileIdx) d.height
      (.adjustProportion delta)) :
    Returns (col.setWindowHeight (m.geometry g) (.adjustProportion delta) tileIdx) fun col' =>
      m.windowHeightAt col' (tileIdx.getD col.activeTileIdx) =
        some (m.currentWindowHeight tile d.height +
          (m.workingArea.h - m.gaps) * (delta / 100) - (m.extraSize col).h) := by
  refine (changeHeight_returns hcol g _ hcell hfree).mono ?_
  rintro col' ⟨-, -, mode, hcell'⟩
  rw [windowHeightAt_eq hcell', ← changedHeight_adjustProportion hfull]
  rfl

/-- The height after two of them. -/
theorem adjustHeight_twice (hcol : col.Coherent options) (g : Geometry W Rat)
    (hcell : (cells col)[tileIdx.getD col.activeTileIdx]? = some (tile, d))
    (hfull : m.gaps < m.workingArea.h)
    (hfree : m.HeightFree col tile (tileIdx.getD col.activeTileIdx) d.height (.adjustProportion a))
    (htwice : m.HeightFree col tile (tileIdx.getD col.activeTileIdx)
      (.fixed (m.changedHeight col tile d.height (.adjustProportion a))) (.adjustProportion b)) :
    Returns (do
      let col ← col.setWindowHeight (m.geometry g) (.adjustProportion a) tileIdx
      col.setWindowHeight (m.geometry g) (.adjustProportion b) tileIdx) fun col' =>
      m.windowHeightAt col' (tileIdx.getD col.activeTileIdx) =
        some (m.currentWindowHeight tile d.height +
          (m.workingArea.h - m.gaps) * ((a + b) / 100) - (m.extraSize col).h * 2) := by
  refine (changeHeight_returns hcol g _ hcell hfree).bind ?_
  rintro col₁ ⟨hcol₁, halike, mode, hcell₁⟩
  rw [← halike.active_eq] at hcell₁ htwice
  have hfree₁ : m.HeightFree col₁ (tile.requestSize mode) (tileIdx.getD col₁.activeTileIdx)
      (.fixed (m.changedHeight col tile d.height (.adjustProportion a))) (.adjustProportion b) := by
    unfold HeightFree
    rw [halike.clampHeight_eq, halike.changedHeight_eq]
    exact htwice
  refine (adjustHeight_returns hcol₁ g hcell₁ hfull hfree₁).mono fun col₂ hheight => ?_
  rw [halike.active_eq, halike.extraSize_eq] at hheight
  rw [hheight]
  refine congrArg some ?_
  show m.changedHeight col tile d.height (.adjustProportion a) + _ - _ = _
  rw [changedHeight_adjustProportion hfull]
  ring

/-- The changes are consistent if and only if the tab indicator takes no height. -/
theorem steady_iff (hcol : col.Coherent options) (g : Geometry W Rat)
    (hcell : (cells col)[tileIdx.getD col.activeTileIdx]? = some (tile, d))
    (hwidth : m.gaps < m.workingArea.w) (hheight : m.gaps < m.workingArea.h)
    (hfree : m.Free col tile (tileIdx.getD col.activeTileIdx) d.height a b) :
    m.Steady g col tileIdx a b ↔ (m.extraSize col).h = 0 := by
  have hidx := tileIdx_of_cell hcell
  have hfree_zero : m.HeightFree col tile (tileIdx.getD col.activeTileIdx) d.height
      (.adjustProportion 0) := hfree.height _ (by simp)
  have hzero := adjustHeight_returns hcol g hcell hheight hfree_zero
  constructor
  · intro h
    obtain ⟨col', -, hsame, hafter⟩ := h.height_zero.and hzero
    rw [hafter, windowHeightAt_eq hcell, Option.some_inj] at hsame
    linarith
  · intro hextra
    obtain ⟨hwidth_zero, hwidth_add⟩ := width_steady hcol g hidx hwidth hfree.width
    refine ⟨?_, hwidth_zero, hwidth_add, ?_, ?_, ?_⟩
    · refine (setColumnWidth_width hcol g _ hidx).mono ?_
      rintro col' ⟨-, -, hwidth'⟩
      have hnew : m.newWidth col (.adjustFixed 0) (tileIdx.getD col.activeTileIdx) =
          .fixed (m.resolvedWidth col) := by
        rw [newWidth_adjustFixed, Int.cast_zero, add_zero,
          clampTo_eq_self hfree.widthPx.1 hfree.widthPx.2]
      rw [resolvedWidth, hwidth', hnew]
      rfl
    · refine (changeHeight_returns hcol g _ hcell (hfree.height _ (by simp))).mono ?_
      rintro col' ⟨-, -, mode, hcell'⟩
      rw [windowHeightAt_eq hcell', windowHeightAt_eq hcell, changedHeight_adjustFixed_zero]
      rfl
    · refine hzero.mono fun col' hafter => ?_
      rw [hafter, windowHeightAt_eq hcell, hextra]
      ring_nf
    · refine (adjustHeight_twice hcol g hcell hheight (hfree.height _ (by simp))
        hfree.heightTwice).mono fun col₁ hafter => ?_
      refine (adjustHeight_returns hcol g hcell hheight (hfree.height _ (by simp))).mono
        fun col₂ hafter₂ => ?_
      rw [hafter, hafter₂, hextra]
      ring_nf

/-! ## A tab indicator -/

/-- The tab indicator above the tabs takes 9 pixels. -/
def indicatorAt (position : TabIndicatorPosition) : Metrics Nat :=
  let m := onScreen fun _ => bordered 1 500
  { m with tabIndicator := { m.tabIndicator with position := position } }

/-- Two tabs, the first of which is of 500 pixels. -/
def tabs : Column Nat Rat :=
  { columnOf [.fixed 500, .auto 1] with displayMode := .tabbed }

theorem tabs_coherent : tabs.Coherent userPresets where
  data_length := rfl
  one_height := by decide
  presetHeights := by decide
  presetWidth := by decide
  options_eq := rfl
  active_lt := by decide
  pending _ := Or.inl rfl

theorem tabs_cell : (cells tabs)[(none : Option Nat).getD tabs.activeTileIdx]? =
    some (⟨0, .normal, .normal, none, userPresets⟩, ⟨.fixed 500⟩) := rfl

theorem tabs_free (position : TabIndicatorPosition) :
    (indicatorAt position).Free tabs ⟨0, .normal, .normal, none, userPresets⟩ 0 (.fixed 500) 5
      (-3) := by
  cases position with
  | left | right | top | bottom =>
    exact ⟨by decide +kernel, by decide +kernel, by decide +kernel, by decide +kernel⟩

theorem tabs_steady : (indicatorAt .left).Steady default tabs none 5 (-3) :=
  (steady_iff tabs_coherent default tabs_cell (by decide +kernel) (by decide +kernel)
    (tabs_free .left)).mpr (by decide +kernel)

/-- The window gets lower by the height of the tab indicator though nothing is to change. -/
theorem tabs_not_steady :
    ¬∀ (m : Metrics Nat) (options : Options Rat) (col : Column Nat Rat) (g : Geometry Nat Rat)
      (tileIdx : Option Nat) (tile : Tile Nat Rat) (d : TileData Rat) (a b : Rat),
      col.Coherent options →
      (cells col)[tileIdx.getD col.activeTileIdx]? = some (tile, d) →
      m.gaps < m.workingArea.w → m.gaps < m.workingArea.h →
      m.Free col tile (tileIdx.getD col.activeTileIdx) d.height a b →
        m.Steady g col tileIdx a b := by
  intro hclaim
  have hgaps : (indicatorAt .top).gaps < (indicatorAt .top).workingArea.h := by decide +kernel
  have hsteady := hclaim (indicatorAt .top) userPresets tabs default none _ _ 5 (-3)
    tabs_coherent tabs_cell (by decide +kernel) hgaps (tabs_free .top)
  obtain ⟨col', -, hsame, hafter⟩ := hsteady.height_zero.and (adjustHeight_returns tabs_coherent
    default tabs_cell hgaps ((tabs_free .top).height _ (by simp)))
  rw [hafter, windowHeightAt_eq tabs_cell] at hsame
  exact absurd hsame (by decide +kernel)

end Metrics

end Cidre.Layout
