/-
  Cidre.Layout.Row

  The row of columns of a scrolling layout, as far as it matters for where the
  focus goes once the active column is gone: the windows of each column, which
  column is active, and the view offset that marks the one on its left as the one
  to follow it.

  Most operations are steady: they leave the row as it is, and the windows of a
  column in the mode of the column.  The lemmas are about an operation that
  returns; that it returns is said elsewhere.  An operation that can also do more
  has a hypothesis that says when it does not: the focus stays in its column, no
  window is taken out of one.
-/

import Cidre.Layout.Cells
import Cidre.Layout.Reachable
import Cidre.Lib.Ensures

namespace Cidre.Layout

open Cidre.Panic

variable {W F : Type} (g : Geometry W F)

/-! ## Columns -/

namespace Column

/-- `Column::verify_invariants`: the tiles have the pending mode of the column. -/
def Uniform (col : Column W F) : Prop :=
  ∀ tile ∈ col.tiles, tile.pendingSizingMode = col.pendingSizingMode

/-- The column keeps its windows, and stays uniform if it is. -/
structure Steady (col col' : Column W F) : Prop where
  ids : col'.ids = col.ids
  uniform : col.Uniform → col'.Uniform

variable {col col₁ : Column W F}

theorem Steady.refl (col : Column W F) : col.Steady col := ⟨rfl, id⟩

theorem Steady.trans {col₂ : Column W F} (h₁ : col.Steady col₁) (h₂ : col₁.Steady col₂) :
    col.Steady col₂ :=
  ⟨h₂.ids.trans h₁.ids, fun h => h₂.uniform (h₁.uniform h)⟩

theorem Uniform.mono (h : col.Uniform) {col' : Column W F}
    (htiles : ∀ tile ∈ col'.tiles, ∃ tile₀ ∈ col.tiles,
      tile.pendingSizingMode = tile₀.pendingSizingMode)
    (hmode : col'.pendingSizingMode = col.pendingSizingMode) : col'.Uniform := by
  intro tile htile
  obtain ⟨tile₀, htile₀, heq⟩ := htiles tile htile
  rw [heq, hmode]
  exact h tile₀ htile₀

theorem request_uniform (col : Column W F) : (col.request col.pendingSizingMode).Uniform := by
  intro tile htile
  obtain ⟨tile₀, -, rfl⟩ := List.mem_map.mp htile
  rfl

theorem updateTileSizes_ensures (col : Column W F) :
    Ensures col.updateTileSizes fun col' => col' = col.request col.pendingSizingMode := by
  refine ensures_ite (fun _ => ?_) (fun _ => ensures_some rfl)
  refine ensures_ite (fun _ => ensures_none) (fun _ => ?_)
  exact ensures_early rfl (fun _ => ensures_none)

theorem updateTileSizes_uniform (col : Column W F) : Ensures col.updateTileSizes Uniform :=
  (updateTileSizes_ensures col).mono fun _ heq => heq ▸ request_uniform col

/-- The tiles are asked for the mode of the column, whatever was done to it. -/
theorem updateTileSizes_steady (hids : col₁.ids = col.ids) :
    Ensures col₁.updateTileSizes col.Steady := by
  refine (updateTileSizes_uniform col₁).and (ensures_self _) |>.mono ?_
  rintro col₂ ⟨huniform, h⟩
  exact ⟨(congrArg Prod.fst (updateTileSizes_cell h)).trans hids, fun _ => huniform⟩

theorem convertHeightsToAuto_mode (col : Column W F) :
    Ensures (col.convertHeightsToAuto g) fun col' =>
      col'.tiles = col.tiles ∧ col'.pendingSizingMode = col.pendingSizingMode :=
  ensures_ite (fun _ => ensures_none) (fun _ => ensures_some ⟨rfl, rfl⟩)

theorem dropPresetWidth_mode [BEq F] (col : Column W F) (options : Options F) :
    (col.dropPresetWidth options).tiles = col.tiles ∧
      (col.dropPresetWidth options).pendingSizingMode = col.pendingSizingMode := by
  rw [dropPresetWidth]
  split
  · exact ⟨rfl, rfl⟩
  · exact ⟨rfl, rfl⟩

/-- A column that gets another configuration stays uniform, in its mode. -/
theorem updateConfig_uniform [BEq F] (h : col.Uniform) (options : Options F) :
    Ensures (col.updateConfig g options) fun col' =>
      col'.Uniform ∧ col'.pendingSizingMode = col.pendingSizingMode := by
  obtain ⟨hdropped, hdropMode⟩ := dropPresetWidth_mode col options
  have hconvert : ∀ changed : Bool, Ensures
      (applyIf changed (convertHeightsToAuto g) (col.dropPresetWidth options)) fun col' =>
        col'.tiles = col.tiles ∧ col'.pendingSizingMode = col.pendingSizingMode := fun changed =>
    applyIf_ensures
      (fun _ => (convertHeightsToAuto_mode g _).mono fun _ hkept =>
        ⟨hkept.1.trans hdropped, hkept.2.trans hdropMode⟩)
      (fun _ => ⟨hdropped, hdropMode⟩)
  refine (hconvert _).bind ?_
  rintro col₁ ⟨htiles, hmode⟩
  refine applyIf_ensures (fun _ => ?_) (fun _ => ⟨?_, hmode⟩)
  · refine (updateTileSizes_ensures _).mono ?_
    rintro _ rfl
    exact ⟨request_uniform _, hmode⟩
  · refine h.mono (fun tile htile => ?_) hmode
    obtain ⟨tile₀, htile₀, rfl⟩ := List.mem_map.mp htile
    exact ⟨tile₀, htiles ▸ htile₀, rfl⟩

theorem updateConfig_steady [BEq F] (col : Column W F) (options : Options F) :
    Ensures (col.updateConfig g options) col.Steady := fun col' h =>
  ⟨congrArg Prod.fst (updateConfig_cell h), fun huniform =>
    (updateConfig_uniform g huniform options col' h).1⟩

theorem updateWindow_ids [DecidableEq W] (col : Column W F) (window : W) (mode : SizingMode) :
    Ensures (col.updateWindow window mode) fun col' => col'.ids = col.ids := by
  refine (ensures_true _).bind fun idx _ => (ensures_self _).bind fun tile htile => ?_
  exact ensures_pure (Vec.map_set_of_eq Tile.id htile rfl)

theorem activateIdx_steady (col : Column W F) (idx : Nat) :
    Ensures (col.activateIdx idx) fun p => col.Steady p.1 := by
  refine ensures_early (.refl col) fun _ => ?_
  exact (ensures_true _).bind fun _ _ => ensures_pure ⟨rfl, id⟩

theorem activateWindow_steady [DecidableEq W] (col : Column W F) (window : W) :
    Ensures (col.activateWindow window) col.Steady :=
  (ensures_true _).bind fun idx _ => (activateIdx_steady col idx).bind fun _ h => ensures_pure h

/-- The focus is moved to a tile of the column. -/
theorem focusIndex_steady (col : Column W F) (index : Nat) :
    Ensures (do
      let (col, _) ← col.activateIdx index
      pure col) col.Steady :=
  (activateIdx_steady col index).bind fun _ h => ensures_pure h

theorem setFullscreen_steady (col : Column W F) (isFullscreen : Bool) :
    Ensures (col.setFullscreen isFullscreen) col.Steady := by
  refine ensures_early (.refl col) fun _ => ?_
  exact ensures_ite (fun _ => ensures_none) (fun _ => updateTileSizes_steady rfl)

theorem setMaximized_steady (col : Column W F) (maximize : Bool) :
    Ensures (col.setMaximized maximize) col.Steady := by
  refine ensures_early (.refl col) fun _ => ?_
  exact ensures_ite (fun _ => ensures_none) (fun _ => updateTileSizes_steady rfl)

theorem setColumnWidth_steady (col : Column W F) (change : SizeChange F) (tileIdx : Option Nat) :
    Ensures (col.setColumnWidth g change tileIdx) col.Steady :=
  (ensures_true _).bind fun _ _ => updateTileSizes_steady rfl

theorem toggleWidth_steady (col : Column W F) (tileIdx : Option Nat) (forwards : Bool) :
    Ensures (col.toggleWidth g tileIdx forwards) col.Steady := by
  refine (ensures_true _).bind fun _ _ => (ensures_true _).bind fun preset _ => ?_
  exact (setColumnWidth_steady g col _ _).bind fun _ h => ensures_pure ⟨h.ids, h.uniform⟩

theorem toggleFullWidth_steady (col : Column W F) : Ensures col.toggleFullWidth col.Steady := by
  rw [toggleFullWidth]
  split
  · exact updateTileSizes_steady rfl
  · exact updateTileSizes_steady rfl

theorem freeHeights_ids (col : Column W F) (idx : Nat) :
    Ensures (col.freeHeights g idx) fun col' => col'.ids = col.ids := by
  refine (ensures_true _).bind fun d _ => ensures_ite (fun _ => ?_) (fun _ => ensures_some rfl)
  exact ensures_ite (fun _ => ensures_none) (fun _ => ensures_some rfl)

theorem setWindowHeight_steady (col : Column W F) (change : SizeChange F) (tileIdx : Option Nat) :
    Ensures (col.setWindowHeight g change tileIdx) col.Steady := by
  refine (freeHeights_ids g col _).bind fun col₁ h₁ => (ensures_true _).bind fun _ _ => ?_
  exact updateTileSizes_steady h₁

theorem resetWindowHeight_steady [One F] (col : Column W F) (tileIdx : Option Nat) :
    Ensures (col.resetWindowHeight tileIdx) col.Steady := by
  refine ensures_ite (fun _ => updateTileSizes_steady rfl) (fun _ => ?_)
  exact (ensures_true _).bind fun _ _ => updateTileSizes_steady rfl

theorem toggleWindowHeight_steady (col : Column W F) (tileIdx : Option Nat) (forwards : Bool) :
    Ensures (col.toggleWindowHeight g tileIdx forwards) col.Steady := by
  refine (freeHeights_ids g col _).bind fun col₁ h₁ => (ensures_true _).bind fun d _ => ?_
  exact (ensures_true _).bind fun _ _ => updateTileSizes_steady h₁

theorem setColumnDisplay_ids (col : Column W F) (display : ColumnDisplay) :
    Ensures (col.setColumnDisplay display) fun col' => col'.ids = col.ids :=
  ensures_early rfl
    (fun _ => (updateTileSizes_steady rfl).mono fun _ h => h.ids)

/-- A tile that is not at the end of the column is left for the next one. -/
theorem activateIdx_moved {col : Column W F} {idx : Nat} (hne : col.activeTileIdx ≠ idx) :
    Ensures (col.activateIdx idx) fun p => p.2 = true := by
  rw [activateIdx, if_neg hne]
  exact (ensures_true _).bind fun _ _ => ensures_pure rfl

end Column

/-- The columns, the active one, and the view offset of the one on its left if that
    one is to follow it. -/
@[ext] structure Row (W F : Type) where
  columns : List (List W)
  active : Nat
  prev : Option F

namespace Row

def set (r : Row W F) (i : Nat) (ids : List W) : Row W F :=
  { r with columns := r.columns.set i ids }

end Row

namespace ScrollingSpace

def row (s : ScrollingSpace W F) : Row W F :=
  { columns := s.arrangement
    active := s.activeColumnIdx
    prev := s.activatePrevColumnOnRemoval }

def Uniform (s : ScrollingSpace W F) : Prop := ∀ col ∈ s.columns, col.Uniform

/-- The space keeps its row, and stays uniform if it is. -/
structure Steady (s s' : ScrollingSpace W F) : Prop where
  row : s'.row = s.row
  uniform : s.Uniform → s'.Uniform

variable {s s₁ : ScrollingSpace W F}

theorem Steady.refl (s : ScrollingSpace W F) : s.Steady s := ⟨rfl, id⟩

theorem Steady.trans {s₂ : ScrollingSpace W F} (h₁ : s.Steady s₁) (h₂ : s₁.Steady s₂) :
    s.Steady s₂ :=
  ⟨h₂.row.trans h₁.row, fun h => h₂.uniform (h₁.uniform h)⟩

theorem length_row (s : ScrollingSpace W F) : s.row.columns.length = s.columns.length :=
  length_arrangement s

theorem Uniform.set (h : s.Uniform) {i : Nat} {col : Column W F} (hcol : col.Uniform)
    (heq : s₁.columns = s.columns.set i col) : s₁.Uniform := by
  intro col' hcol'
  rw [heq] at hcol'
  rcases List.mem_or_eq_of_mem_set hcol' with hcol' | rfl
  · exact h col' hcol'
  · exact hcol

/-- A column is replaced. -/
theorem row_set {i : Nat} {col' : Column W F} (hcolumns : s₁.columns = s.columns.set i col')
    (hactive : s₁.activeColumnIdx = s.activeColumnIdx)
    (hprev : s₁.activatePrevColumnOnRemoval = s.activatePrevColumnOnRemoval) :
    s₁.row = s.row.set i col'.ids := by
  rw [row, arrangement, hcolumns, hactive, hprev, List.map_set]
  rfl

/-- A column is replaced by one with the same windows. -/
theorem steady_of_set {i : Nat} {col col' : Column W F} (hcol : s.columns[i]? = some col)
    (hsteady : col.Steady col') (hcolumns : s₁.columns = s.columns.set i col')
    (hactive : s₁.activeColumnIdx = s.activeColumnIdx)
    (hprev : s₁.activatePrevColumnOnRemoval = s.activatePrevColumnOnRemoval) :
    s.Steady s₁ := by
  refine ⟨?_, fun h => h.set (hsteady.uniform (h col (List.mem_of_getElem? hcol))) hcolumns⟩
  rw [row, arrangement, hcolumns, hactive, hprev, Vec.map_set_of_eq Column.ids hcol hsteady.ids]
  rfl

/-! ## The view -/

theorem animateViewOffset_steady (s : ScrollingSpace W F) (idx : Nat) (offset : F) :
    Ensures (s.animateViewOffset g idx offset) s.Steady := by
  intro s' h
  obtain ⟨v, rfl⟩ := animateViewOffset_eq h
  exact ⟨rfl, id⟩

theorem animateViewOffsetToColumn_steady (s : ScrollingSpace W F) (idx : Nat)
    (prevIdx : Option Nat) : Ensures (s.animateViewOffsetToColumn g idx prevIdx) s.Steady :=
  (ensures_true _).bind fun _ _ => animateViewOffset_steady g s idx _

theorem animateViewOffsetToColumnCentered_steady (s : ScrollingSpace W F) (idx : Nat) :
    Ensures (s.animateViewOffsetToColumnCentered g idx) s.Steady :=
  (ensures_true _).bind fun _ _ => animateViewOffset_steady g s idx _

theorem animateTwice_steady (s : ScrollingSpace W F) (idx : Nat) (offset : F)
    (idx' : ScrollingSpace W F → Nat) :
    Ensures (do
      let s ← s.animateViewOffset g idx offset
      s.animateViewOffsetToColumn g (idx' s) none) s.Steady := by
  refine (animateViewOffset_steady g s _ offset).bind fun s₁ h₁ => ?_
  exact (animateViewOffsetToColumn_steady g s₁ _ none).mono fun _ h₂ => h₁.trans h₂

/-- The active column is activated. -/
theorem activateColumn_row {idx : Nat} (hactive : s.activeColumnIdx = idx) :
    Ensures (s.activateColumn g idx) fun s' => s'.row = s.row := by
  refine ensures_early rfl fun _ => ?_
  refine (animateViewOffsetToColumn_steady g s idx _).bind fun s₁ h₁ => ?_
  refine ensures_ite (fun hne => ?_) (fun _ => ensures_pure h₁.row)
  exact absurd ((congrArg Row.active h₁.row).trans hactive) hne

theorem updateConfig_steady [BEq F] (s : ScrollingSpace W F) (options : Options F) :
    Ensures (s.updateConfig g options) s.Steady := by
  have hids := mapM_map_ensures Column.ids fun col (_ : col ∈ s.columns) =>
    (Column.updateConfig_steady g col options).mono fun _ h => h.ids
  have huniform : s.Uniform → Ensures (s.columns.mapM fun col => col.updateConfig g options)
      fun columns => ∀ col ∈ columns, col.Uniform := fun h => mapM_ensures fun col hcol =>
    (Column.updateConfig_uniform g (h col hcol) options).mono fun _ hpost => hpost.1
  refine (hids.and (ensures_self _)).bind ?_
  rintro columns ⟨hids, hcolumns⟩
  have hsteady : ∀ data : List (ColumnData F),
      s.Steady { s with columns := columns, data := data, options := options } := by
    refine fun data => ⟨?_, fun h => huniform h columns hcolumns⟩
    rw [row, arrangement, hids]
    rfl
  refine ensures_ite (fun _ => ?_) (fun _ => ensures_pure (hsteady _))
  exact (animateViewOffsetToColumn_steady g _ _ none).mono fun _ h => (hsteady _).trans h

theorem advanceAnimations_steady (s : ScrollingSpace W F) : s.Steady (s.advanceAnimations g) := by
  rw [advanceAnimations]
  split
  · exact ⟨rfl, id⟩
  · exact .refl s

theorem tilesMut_row (s : ScrollingSpace W F) {f : Tile W F → Tile W F}
    (hid : ∀ tile, (f tile).id = tile.id) : (s.tilesMut f).row = s.row := by
  simp [row, arrangement, tilesMut, Column.ids, Function.comp_def, hid]

/-! ## Commits -/

theorem updateViewAfterCommit_steady (s : ScrollingSpace W F) (colIdx : Nat)
    (wasNormal isNormal : Bool) :
    Ensures (s.updateViewAfterCommit g colIdx wasNormal isNormal) s.Steady := by
  refine ensures_ite (fun _ => ?_) (fun _ => ensures_pure ⟨rfl, id⟩)
  cases (if !wasNormal && isNormal then s.viewOffsetToRestore else none) with
  | none =>
    exact (animateViewOffsetToColumn_steady g _ colIdx none).mono fun _ h => ⟨h.row, h.uniform⟩
  | some offset =>
    exact (animateTwice_steady g _ colIdx offset fun _ => colIdx).mono fun _ h => ⟨h.row, h.uniform⟩

theorem updateWindow_steady [DecidableEq W] (s : ScrollingSpace W F) (window : W)
    (mode : SizingMode) : Ensures (s.updateWindow g window mode) s.Steady := by
  refine (ensures_true _).bind fun colIdx _ => (ensures_self _).bind fun column hcolumn => ?_
  refine (Column.updateWindow_ids column window mode).bind fun column₁ hids => ?_
  refine (ensures_true _).bind fun _ _ => ?_
  refine (Column.updateTileSizes_steady hids).bind fun column₂ hsteady => ?_
  have hset : s.Steady { s with
      columns := s.columns.set colIdx column₂
      data := s.data.set colIdx ⟨g.columnWidth column₁⟩ } :=
    steady_of_set hcolumn hsteady rfl rfl rfl
  refine ensures_ite (fun _ => ?_) (fun _ => ensures_pure hset)
  exact (updateViewAfterCommit_steady g _ colIdx _ _).mono fun _ h => hset.trans h

/-! ## One column -/

theorem onColumn_steady (s : ScrollingSpace W F) (colIdx : Nat)
    {f : Column W F → Option (Column W F)}
    (hf : ∀ col : Column W F, Ensures (f col) col.Steady) :
    Ensures (s.onColumn colIdx f) s.Steady := by
  refine (ensures_self _).bind fun col hcol => (hf col).bind fun col' hsteady => ?_
  exact ensures_pure (steady_of_set hcol hsteady rfl rfl rfl)

theorem onActiveColumn_steady (s : ScrollingSpace W F) {f : Column W F → Option (Column W F)}
    (hf : ∀ col : Column W F, Ensures (f col) col.Steady) :
    Ensures (s.onActiveColumn f) s.Steady :=
  ensures_early (.refl s) (fun _ => onColumn_steady s _ hf)

theorem resizeColumn_steady [DecidableEq W] (s : ScrollingSpace W F) (window : Option W)
    {f : Column W F → Option Nat → Option (Column W F)}
    (hf : ∀ (col : Column W F) (tileIdx : Option Nat), Ensures (f col tileIdx) col.Steady) :
    Ensures (s.resizeColumn window f) s.Steady := by
  refine ensures_early (.refl s) fun _ => ?_
  refine (ensures_true _).bind fun p _ => (ensures_self _).bind fun col hcol => ?_
  exact (hf col p.2).bind fun col' hsteady =>
    ensures_pure (steady_of_set hcol hsteady rfl rfl rfl)

/-! ## Focus -/

theorem activateWindow_row [DecidableEq W] {window : W}
    (hactive : ∀ i ∈ s.columns.findIdx? fun col => col.contains window, i = s.activeColumnIdx) :
    Ensures (s.activateWindow g window) fun s' => s'.row = s.row := by
  rw [activateWindow]
  cases hfind : s.columns.findIdx? fun col => col.contains window with
  | none => exact ensures_some rfl
  | some i =>
    obtain rfl := hactive i hfind
    refine (onColumn_steady s _ fun col => Column.activateWindow_steady col window).bind ?_
    intro s₁ h₁
    exact (activateColumn_row g (congrArg Row.active h₁.row)).mono fun _ h₂ => h₂.trans h₁.row

theorem focusLeft_row (hzero : s.activeColumnIdx = 0) :
    Ensures (s.focusLeft g) fun s' => s'.row = s.row :=
  ensures_early rfl (fun hne => absurd hzero hne)

theorem focusRight_row (hlast : s.columns.length ≤ s.activeColumnIdx + 1) :
    Ensures (s.focusRight g) fun s' => s'.row = s.row :=
  ensures_early rfl (fun hne => absurd hlast hne)

/-- The tile at the end of the column is not left for another column. -/
theorem focusTileOr_row {inColumn : Column W F → Option (Column W F × Bool)}
    {across : ScrollingSpace W F → Option (ScrollingSpace W F)}
    (hin : ∀ col : Column W F, Ensures (inColumn col) fun p => col.Steady p.1)
    (hstay : (∀ col, s.columns[s.activeColumnIdx]? = some col →
        Ensures (inColumn col) fun p => p.2 = true) ∨
      ∀ s₁ : ScrollingSpace W F, s₁.row = s.row →
        Ensures (across s₁) fun s' => s'.row = s₁.row) :
    Ensures (s.focusTileOr inColumn across) fun s' => s'.row = s.row := by
  refine ensures_early rfl fun _ => ?_
  refine (ensures_self _).bind fun col hcol => ?_
  refine ((hin col).and (ensures_self _)).bind fun p hp => ?_
  have hset : s.Steady { s with columns := s.columns.set s.activeColumnIdx p.1 } :=
    steady_of_set hcol hp.1 rfl rfl rfl
  refine ensures_early hset.row fun hmoved => ?_
  rcases hstay with hmoves | hacross
  · exact absurd (hmoves col hcol p hp.2) hmoved
  · exact (hacross _ hset.row).mono fun _ h => h.trans hset.row

/-! ## Display and size -/

/-- The window keeps its column. -/
theorem setSizing_steady [One F] [BEq F] [DecidableEq W]
    {pending : Column W F → Bool} {set : Column W F → Bool → Option (Column W F)} {window : W}
    {value : Bool} (hset : ∀ col : Column W F, Ensures (set col value) col.Steady)
    (hkeeps : ∀ i ∈ s.columns.findIdx? fun col => col.contains window,
      ∀ col ∈ s.columns[i]?, value ≠ pending col →
        ¬ (value = true ∧ col.tiles.length > 1 ∧ col.displayMode ≠ .tabbed)) :
    Ensures (s.setSizing g pending set window value) fun p => s.Steady p.1 := by
  refine (ensures_self _).bind fun i hi => (ensures_self _).bind fun col hcol => ?_
  refine ensures_early (.refl s) fun hne => ?_
  have hext := hkeeps i hi col hcol hne
  simp only [decide_eq_false hext, applyIf, Bool.false_eq_true, if_false, Option.bind_eq_bind,
    Option.bind_some, hcol]
  refine (hset col).bind fun col' hsteady => (ensures_true _).bind fun _ _ => ?_
  exact ensures_pure (steady_of_set hcol hsteady rfl rfl rfl)

theorem setColumnDisplay_steady [One F] [BEq F] [DecidableEq W] (s : ScrollingSpace W F)
    (display : ColumnDisplay) : Ensures (s.setColumnDisplay g display) s.Steady := by
  refine ensures_early (.refl s) fun _ => ?_
  refine (ensures_self _).bind fun col hcol => ?_
  refine ensures_early (.refl s) fun _ => ?_
  refine (Column.setColumnDisplay_ids col display).bind fun col₁ hids => ?_
  refine (ensures_true _).bind fun _ _ => ?_
  refine (Column.updateTileSizes_steady hids).bind fun col₂ hsteady => ?_
  have hset : s.Steady { s with
      columns := s.columns.set s.activeColumnIdx col₂
      data := s.data.set s.activeColumnIdx ⟨g.columnWidth col₁⟩
      interactiveResize := cancelResizeForColumn s.interactiveResize col } :=
    steady_of_set hcol hsteady rfl rfl rfl
  refine ensures_ite (fun _ => (ensures_true _).bind fun tile _ => ?_) (fun _ => ensures_pure hset)
  refine (setSizing_steady g (fun col => Column.setFullscreen_steady col false) (by simp)).bind
    fun p hp => ?_
  refine (setSizing_steady g (fun col => Column.setMaximized_steady col false) (by simp)).bind
    fun q hq => ?_
  exact ensures_pure (hset.trans (hp.trans hq))

theorem toggleColumnTabbedDisplay_steady [One F] [BEq F] [DecidableEq W] (s : ScrollingSpace W F) :
    Ensures (s.toggleColumnTabbedDisplay g) s.Steady := by
  refine ensures_early (.refl s) fun _ => ?_
  refine (ensures_true _).bind fun col _ => ?_
  cases col.displayMode with
  | normal => exact setColumnDisplay_steady g s .tabbed
  | tabbed => exact setColumnDisplay_steady g s .normal

theorem centerColumn_steady [DecidableEq W] (s : ScrollingSpace W F) :
    Ensures (s.centerColumn g) s.Steady := by
  refine ensures_early (.refl s) fun _ => ?_
  refine (animateViewOffsetToColumnCentered_steady g s _).bind fun s₁ h₁ => ?_
  exact (ensures_true _).bind fun _ _ => ensures_pure ⟨h₁.row, h₁.uniform⟩

theorem centerWindow_steady [DecidableEq W] (s : ScrollingSpace W F) (window : Option W) :
    Ensures (s.centerWindow g window) s.Steady := by
  refine ensures_early (.refl s) fun _ => ?_
  refine (ensures_true _).bind fun colIdx _ => ?_
  exact ensures_early (.refl s) (fun _ => centerColumn_steady g s)

theorem centerVisibleColumns_steady [DecidableEq W] (s : ScrollingSpace W F) :
    Ensures (s.centerVisibleColumns g) s.Steady := by
  refine ensures_early (.refl s) fun _ => ?_
  refine ensures_early (.refl s) fun _ => ?_
  refine (ensures_true _).bind fun col _ => ?_
  exact (animateTwice_steady g _ _ _ activeColumnIdx).mono fun _ h => ⟨h.row, h.uniform⟩

theorem toggleFullWidth_steady [DecidableEq W] (s : ScrollingSpace W F) :
    Ensures s.toggleFullWidth s.Steady :=
  resizeColumn_steady s none fun col _ => Column.toggleFullWidth_steady col

theorem expandColumnToAvailableWidth_steady [DecidableEq W] (s : ScrollingSpace W F) :
    Ensures (s.expandColumnToAvailableWidth g) s.Steady := by
  refine ensures_early (.refl s) fun _ => ?_
  refine (ensures_self _).bind fun col hcol => ?_
  refine ensures_early (.refl s) fun _ => ?_
  refine ensures_ite (fun _ => toggleFullWidth_steady s) (fun _ => ?_)
  refine ensures_early (.refl s) fun _ => ?_
  refine ensures_ite (fun _ => toggleFullWidth_steady s) (fun _ => ?_)
  refine (@Column.updateTileSizes_steady _ _ col _ (by rfl)).bind fun col' hsteady => ?_
  have hset : s.Steady { s with
      columns := s.columns.set s.activeColumnIdx col'
      interactiveResize := cancelResizeForColumn s.interactiveResize col } :=
    steady_of_set hcol hsteady rfl rfl rfl
  exact (animateTwice_steady g _ _ _ activeColumnIdx).mono fun _ h => hset.trans h

/-! ## Gestures -/

theorem viewOffsetGestureBegin_steady (s : ScrollingSpace W F) (isTouchpad : Bool) :
    s.Steady (s.viewOffsetGestureBegin isTouchpad) := by
  rw [viewOffsetGestureBegin]
  split
  · exact .refl s
  · split
    · exact .refl s
    · exact ⟨rfl, id⟩

theorem dndScrollGestureBegin_steady (s : ScrollingSpace W F) :
    s.Steady s.dndScrollGestureBegin := by
  rw [dndScrollGestureBegin]
  split
  · exact .refl s
  · exact ⟨rfl, id⟩

section Snapping

variable [LT F] [DecidableLT F] [LE F] [DecidableLE F]

/-- A gesture may end at another column, but the columns stay. -/
theorem viewOffsetGestureEnd_steady (s : ScrollingSpace W F) (isTouchpad : Option Bool) :
    Ensures (s.viewOffsetGestureEnd g isTouchpad) fun p =>
      (p.1.activeColumnIdx = s.activeColumnIdx → p.1.row = s.row) ∧
        (s.Uniform → p.1.Uniform) := by
  rw [viewOffsetGestureEnd]
  split
  · refine ensures_early ⟨fun _ => rfl, id⟩ fun _ => ?_
    refine ensures_early ⟨fun _ => rfl, id⟩ fun _ => ?_
    refine (ensures_true _).bind fun snap _ => ?_
    refine (animateViewOffsetToColumn_steady g _ _ none).bind fun s₁ h₁ => ?_
    have hcolumns : s₁.row.columns = s.row.columns := (congrArg Row.columns h₁.row).trans rfl
    have hprev : s₁.row.prev = s.row.prev := (congrArg Row.prev h₁.row).trans rfl
    exact ensures_pure ⟨fun hactive => Row.ext hcolumns hactive hprev, h₁.uniform⟩
  · exact ensures_some ⟨fun _ => rfl, id⟩

theorem dndScrollGestureEnd_steady (s : ScrollingSpace W F) :
    Ensures (s.dndScrollGestureEnd g) fun s' =>
      (s'.activeColumnIdx = s.activeColumnIdx → s'.row = s.row) ∧ (s.Uniform → s'.Uniform) := by
  rw [dndScrollGestureEnd]
  split
  · refine ensures_ite (fun _ => ?_) (fun _ => (viewOffsetGestureEnd_steady g s none).map
      fun _ h => h)
    refine ensures_early ⟨fun _ => rfl, id⟩ fun _ => ?_
    exact (animateViewOffsetToColumn_steady g _ _ none).mono fun _ h => ⟨fun _ => h.row, h.uniform⟩
  · exact ensures_some ⟨fun _ => rfl, id⟩

end Snapping

/-! ## Interactive resize -/

theorem interactiveResizeBegin_steady [DecidableEq W] (s : ScrollingSpace W F) (window : W)
    (edges : ResizeEdge) :
    Ensures (s.interactiveResizeBegin window edges) fun p => s.Steady p.1 := by
  refine ensures_early (.refl s) fun _ => ?_
  refine (ensures_true _).bind fun col _ => ?_
  exact ensures_early (.refl s) (fun _ => ensures_pure ⟨rfl, id⟩)

theorem resizeByEdges_steady (edges : ResizeEdge) (tileIdx : Nat) (col : Column W F) :
    Ensures (resizeByEdges g edges tileIdx col) col.Steady := by
  have hwidth : Ensures (applyIf (edges.left || edges.right)
      (fun col => col.setColumnWidth g (.setFixed g.draggedSize.1) (some tileIdx)) col)
      col.Steady :=
    applyIf_ensures (fun _ => Column.setColumnWidth_steady g col _ _) (fun _ => .refl col)
  refine hwidth.bind fun col₁ h₁ => applyIf_ensures (fun _ => ?_) (fun _ => h₁)
  exact (Column.setWindowHeight_steady g col₁ _ _).mono fun _ h₂ => h₁.trans h₂

theorem interactiveResizeUpdate_steady [DecidableEq W] (s : ScrollingSpace W F) (window : W) :
    Ensures (s.interactiveResizeUpdate g window) fun p => s.Steady p.1 := by
  rw [interactiveResizeUpdate]
  cases s.interactiveResize with
  | none => exact ensures_some (.refl s)
  | some resize =>
    refine ensures_early (.refl s) fun _ => ?_
    refine (ensures_true _).bind fun p _ => ?_
    exact (onColumn_steady s p.1 fun col => resizeByEdges_steady g resize.edges p.2 col).bind
      fun _ h => ensures_pure h

theorem interactiveResizeEnd_steady [DecidableEq W] (s : ScrollingSpace W F) (window : Option W) :
    Ensures (s.interactiveResizeEnd g window) s.Steady := by
  unfold interactiveResizeEnd
  split
  · exact ensures_some (.refl s)
  · exact ensures_some ⟨rfl, id⟩
  · refine ensures_early (.refl s) fun _ => ?_
    refine (ensures_true _).bind fun col _ => ?_
    have hanimate : ∀ c : Bool, Ensures
        (applyIf c (fun s => s.animateViewOffsetToColumn g s.activeColumnIdx none) s) s.Steady :=
      fun c => applyIf_ensures (fun _ => animateViewOffsetToColumn_steady g s _ none)
        (fun _ => .refl s)
    refine (hanimate _).bind fun s₁ h₁ => ?_
    exact ensures_pure ⟨h₁.row, h₁.uniform⟩

end ScrollingSpace

/-! ## One operation -/

/-- The operations that leave the row as it is, whatever it is. -/
def Op.steady : Op W F → Bool
  | updateConfig _ | advanceAnimations | updateWindow _ _ => true
  | focusWindowInColumn _ | focusDown | focusUp | focusTop | focusBottom => true
  | toggleColumnTabbedDisplay | setColumnDisplay _ => true
  | centerColumn | centerWindow _ | centerVisibleColumns => true
  | toggleWidth _ | toggleFullWidth | setWindowWidth _ _ | setWindowHeight _ _ => true
  | resetWindowHeight _ | toggleWindowWidth _ _ | toggleWindowHeight _ _ => true
  | expandColumnToAvailableWidth => true
  | viewOffsetGestureBegin _ | viewOffsetGestureUpdate _ => true
  | dndScrollGestureBegin | dndScrollGestureScroll _ => true
  | interactiveResizeBegin _ _ | interactiveResizeUpdate _ | interactiveResizeEnd _ => true
  | _ => false

theorem ScrollingSpace.step_steady [One F] [BEq F] [LT F] [DecidableLT F] [LE F] [DecidableLE F]
    [DecidableEq W] (s : ScrollingSpace W F) {op : Op W F} (hsteady : op.steady = true) :
    Ensures (s.step g op) s.Steady := by
  cases op with
  | updateConfig options => exact updateConfig_steady g s options
  | advanceAnimations => exact ensures_some (advanceAnimations_steady g s)
  | updateWindow window mode => exact updateWindow_steady g s window mode
  | focusWindowInColumn index =>
    exact onActiveColumn_steady s fun col => Column.focusIndex_steady col _
  | focusDown | focusUp =>
    exact onActiveColumn_steady s fun col => (Column.activateIdx_steady col _).map fun _ h => h
  | focusTop | focusBottom =>
    exact onActiveColumn_steady s fun col => Column.focusIndex_steady col _
  | toggleColumnTabbedDisplay => exact toggleColumnTabbedDisplay_steady g s
  | setColumnDisplay display => exact setColumnDisplay_steady g s display
  | centerColumn => exact centerColumn_steady g s
  | centerWindow window => exact centerWindow_steady g s window
  | centerVisibleColumns => exact centerVisibleColumns_steady g s
  | toggleWidth forwards =>
    exact resizeColumn_steady s none fun col _ => Column.toggleWidth_steady g col _ forwards
  | toggleFullWidth => exact toggleFullWidth_steady s
  | setWindowWidth window change =>
    exact resizeColumn_steady s window fun col _ => Column.setColumnWidth_steady g col change _
  | setWindowHeight window change =>
    exact resizeColumn_steady s window fun col _ => Column.setWindowHeight_steady g col change _
  | resetWindowHeight window =>
    exact resizeColumn_steady s window fun col _ => Column.resetWindowHeight_steady col _
  | toggleWindowWidth window forwards =>
    exact resizeColumn_steady s window fun col tileIdx =>
      Column.toggleWidth_steady g col tileIdx forwards
  | toggleWindowHeight window forwards =>
    exact resizeColumn_steady s window fun col tileIdx =>
      Column.toggleWindowHeight_steady g col tileIdx forwards
  | expandColumnToAvailableWidth => exact expandColumnToAvailableWidth_steady g s
  | viewOffsetGestureBegin isTouchpad =>
    exact ensures_some (viewOffsetGestureBegin_steady s isTouchpad)
  | viewOffsetGestureUpdate isTouchpad =>
    refine ensures_some ?_
    rw [viewOffsetGestureUpdate_fst]
    exact .refl s
  | dndScrollGestureBegin => exact ensures_some (dndScrollGestureBegin_steady s)
  | dndScrollGestureScroll zero => exact ensures_some (.refl s)
  | interactiveResizeBegin window edges =>
    exact (interactiveResizeBegin_steady s window edges).map fun _ h => h
  | interactiveResizeUpdate window =>
    exact (interactiveResizeUpdate_steady g s window).map fun _ h => h
  | interactiveResizeEnd window => exact interactiveResizeEnd_steady g s window
  | _ => cases hsteady

end Cidre.Layout
