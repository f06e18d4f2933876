/-
  Cidre.Layout.Modes

  The windows of a column are all to be in the mode of the column, whatever the layout is
  asked to do.

  A column that changes asks its tiles for its mode once more.  What does not ask leaves
  both the modes of the tiles and that of the column.  What is left to say is about the
  operations that are not steady: a tile is put into a column, or taken out of one.
-/

import Cidre.Layout.Row

namespace Cidre.Layout

open Cidre.Panic

variable {W F : Type} (g : Geometry W F)

namespace Column

variable {col : Column W F}

/-! ## What asks the tiles -/

theorem addTileAt_uniform [One F] (col : Column W F) (idx : Nat) (tile : Tile W F) :
    Ensures (col.addTileAt idx tile) Uniform :=
  (ensures_true _).bind fun _ _ => (ensures_true _).bind fun _ _ => updateTileSizes_uniform _

theorem removeTileAt_uniform [One F] (col : Column W F) (tileIdx : Nat) :
    Ensures (col.removeTileAt tileIdx) fun p => p.2.Uniform := by
  refine (ensures_true _).bind fun p _ => (ensures_true _).bind fun q _ => ?_
  refine (ensures_true _).bind fun col₁ _ => ?_
  exact (updateTileSizes_uniform col₁).bind fun _ h => ensures_pure h

/-- A column that is to be fullscreen no more is maximized if it is to be that. -/
theorem setFullscreen_false_mode (col : Column W F) :
    Ensures (col.setFullscreen false) fun col' => col'.ids = col.ids ∧
      (col.isPendingMaximized = true → col'.pendingSizingMode = .maximized) := by
  refine ensures_ite (fun hfalse => ensures_some ⟨rfl, fun hmaximized => ?_⟩) (fun _ => ?_)
  · rw [pendingSizingMode, hfalse, hmaximized]
    rfl
  · rw [if_neg fun h => Bool.false_ne_true h.1]
    refine (updateTileSizes_ensures _).mono ?_
    rintro _ rfl
    refine ⟨ids_request _ _, fun hmaximized => ?_⟩
    show (if col.isPendingMaximized then SizingMode.maximized else .normal) = .maximized
    rw [if_pos hmaximized]

theorem setMaximized_false_mode (col : Column W F) :
    Ensures (col.setMaximized false) fun col' => col'.ids = col.ids ∧
      (col.isPendingFullscreen = true → col'.pendingSizingMode = .fullscreen) := by
  refine ensures_early ⟨rfl, fun hfullscreen => ?_⟩ fun _ => ?_
  · rw [pendingSizingMode, if_pos hfullscreen]
  · rw [if_neg fun h => Bool.false_ne_true h.1]
    refine (updateTileSizes_ensures _).mono ?_
    rintro _ rfl
    refine ⟨ids_request _ _, fun hfullscreen => ?_⟩
    show (if col.isPendingFullscreen then SizingMode.fullscreen else _) = .fullscreen
    rw [if_pos hfullscreen]

/-! ## What leaves the modes -/

theorem moveTo_uniform (h : col.Uniform) (newIdx : Nat) :
    Ensures (col.moveTo newIdx) fun p => p.1.Uniform := by
  refine ensures_early h fun _ => ?_
  refine (Vec.swap_ensures _ _ _).bind fun tiles htiles => (ensures_true _).bind fun data _ => ?_
  exact ensures_pure fun tile htile => h tile (htiles tile htile)

/-! ## A new column -/

/-- Where a tile is put into a column that is alone or not to be in a mode, the mode of the
    column is none or stays. -/
theorem addTileAt_mode [One F] (col : Column W F) (idx : Nat) (tile : Tile W F)
    (hnormal : col.isPendingFullscreen = false ∧ col.isPendingMaximized = false) :
    Ensures (col.addTileAt idx tile) fun col' =>
      col'.isPendingFullscreen = false ∧ col'.isPendingMaximized = false := by
  refine (ensures_true _).bind fun data _ => (ensures_true _).bind fun tiles _ => ?_
  refine (updateTileSizes_ensures _).mono ?_
  rintro _ rfl
  rw [dropPending]
  split
  · exact ⟨rfl, rfl⟩
  · exact hnormal

/-- The column of a new tile is in the mode the tile is to be in. -/
theorem newWithTile_uniform [One F] [BEq F] (tile : Tile W F) (width : ColumnWidth F)
    (isFullWidth : Bool) :
    Ensures (newWithTile g tile width isFullWidth) fun col =>
      col.Uniform ∧ col.pendingSizingMode = tile.pendingSizingMode := by
  refine ((addTileAt_uniform _ _ _).and (addTileAt_mode _ _ _ ⟨rfl, rfl⟩)).bind ?_
  rintro col ⟨huniform, hfullscreen, hmaximized⟩
  cases tile.pendingSizingMode with
  | normal =>
    refine ensures_some ⟨huniform, ?_⟩
    rw [pendingSizingMode, hfullscreen, hmaximized]
    rfl
  | maximized =>
    refine ((setMaximized_steady col true).mono fun _ h => h.uniform huniform).and ?_
    rw [setMaximized, if_neg (by rw [hmaximized]; exact Bool.false_ne_true)]
    refine ensures_ite (fun _ => ensures_none) (fun _ => ?_)
    refine (updateTileSizes_ensures _).mono ?_
    rintro _ rfl
    show (if col.isPendingFullscreen then _ else _) = SizingMode.maximized
    rw [hfullscreen]
    rfl
  | fullscreen =>
    refine ((setFullscreen_steady col true).mono fun _ h => h.uniform huniform).and ?_
    rw [setFullscreen, if_neg (by rw [hfullscreen]; exact Bool.false_ne_true)]
    refine ensures_ite (fun _ => ensures_none) (fun _ => ?_)
    refine (updateTileSizes_ensures _).mono ?_
    rintro _ rfl
    rfl

end Column

namespace ScrollingSpace

variable {s : ScrollingSpace W F}

/-! ## The view -/

theorem Uniform.of_columns (h : s.Uniform) {s' : ScrollingSpace W F} (heq : s'.columns = s.columns) :
    s'.Uniform := fun col hcol => h col (heq ▸ hcol)

theorem animateViewOffset_columns (s : ScrollingSpace W F) (idx : Nat) (offset : F) :
    Ensures (s.animateViewOffset g idx offset) fun s' => s'.columns = s.columns := by
  refine ensures_ite (fun _ => ?_) (fun _ => ensures_none)
  exact ensures_early rfl (fun _ => ensures_some rfl)

theorem animateViewOffsetToColumn_columns (s : ScrollingSpace W F) (idx : Nat)
    (prevIdx : Option Nat) :
    Ensures (s.animateViewOffsetToColumn g idx prevIdx) fun s' => s'.columns = s.columns :=
  (ensures_true _).bind fun _ _ => animateViewOffset_columns g s idx _

theorem activateColumn_columns (s : ScrollingSpace W F) (idx : Nat) :
    Ensures (s.activateColumn g idx) fun s' => s'.columns = s.columns := by
  refine ensures_early rfl fun _ => ?_
  refine (animateViewOffsetToColumn_columns g s idx _).bind fun s₁ heq => ?_
  exact ensures_early heq (fun _ => ensures_pure heq)

theorem activateColumn_uniform (h : s.Uniform) (idx : Nat) :
    Ensures (s.activateColumn g idx) Uniform :=
  (activateColumn_columns g s idx).mono fun _ heq => h.of_columns heq

/-! ## Adding and removing -/

/-- A column that was there, or a uniform one in the mode. -/
def ThereOrIn (s : ScrollingSpace W F) (mode : SizingMode) (s' : ScrollingSpace W F) : Prop :=
  ∀ col ∈ s'.columns, col ∈ s.columns ∨ col.Uniform ∧ col.pendingSizingMode = mode

theorem ThereOrIn.uniform {s' : ScrollingSpace W F} {mode : SizingMode} (h : ThereOrIn s mode s')
    (hs : s.Uniform) : s'.Uniform := fun col hcol =>
  (h col hcol).elim (hs col) fun hnew => hnew.1

theorem addColumn_modes [BEq F] (s : ScrollingSpace W F) (idx : Option Nat) {column : Column W F}
    (hcolumn : column.Uniform) (activate : Bool) :
    Ensures (s.addColumn g idx column activate) (ThereOrIn s column.pendingSizingMode) := by
  refine (Column.updateConfig_uniform g hcolumn s.options).bind fun col hcol => ?_
  refine (ensures_true _).bind fun data _ => ?_
  refine (Vec.insert_ensures _ _ col).bind fun columns hcolumns => ?_
  have hmodes : ∀ col' ∈ columns,
      col' ∈ s.columns ∨ col'.Uniform ∧ col'.pendingSizingMode = column.pendingSizingMode := by
    intro col' hcol'
    rcases hcolumns col' hcol' with rfl | hold
    · exact Or.inr hcol
    · exact Or.inl hold
  refine ensures_ite (fun _ => ?_) (fun _ => ensures_pure hmodes)
  refine (activateColumn_columns g _ _).bind fun s₁ heq => ensures_pure fun col' hcol' => ?_
  have hcolumns₁ : s₁.columns = columns := heq
  exact hmodes col' (hcolumns₁ ▸ hcol')

theorem addTile_modes [One F] [BEq F] (s : ScrollingSpace W F) (colIdx : Option Nat)
    (tile : Tile W F) (activate : Bool) (width : ColumnWidth F) (isFullWidth : Bool) :
    Ensures (s.addTile g colIdx tile activate width isFullWidth)
      (ThereOrIn s tile.pendingSizingMode) := by
  refine (Column.newWithTile_uniform g tile width isFullWidth).bind ?_
  rintro column ⟨huniform, hmode⟩
  rw [← hmode]
  exact addColumn_modes g s colIdx huniform activate

theorem addTile_uniform [One F] [BEq F] (h : s.Uniform) (colIdx : Option Nat) (tile : Tile W F)
    (activate : Bool) (width : ColumnWidth F) (isFullWidth : Bool) :
    Ensures (s.addTile g colIdx tile activate width isFullWidth) Uniform :=
  (addTile_modes g s colIdx tile activate width isFullWidth).mono fun _ hmodes => hmodes.uniform h

theorem addTileRightOf_uniform [One F] [BEq F] [DecidableEq W] (h : s.Uniform) (rightOf : W)
    (tile : Tile W F) (activate : Bool) (width : ColumnWidth F) (isFullWidth : Bool) :
    Ensures (s.addTileRightOf g rightOf tile activate width isFullWidth) Uniform :=
  (ensures_true _).bind fun _ _ => addTile_uniform g h _ tile activate width isFullWidth

theorem shiftActive_uniform {col : Column W F} (h : col.Uniform) (tileIdx prevActive : Nat) :
    (shiftActive col tileIdx prevActive).Uniform := by
  rw [shiftActive]
  split
  · exact h
  · exact h

theorem addTileToColumn_uniform [One F] (h : s.Uniform) (colIdx : Nat) (tileIdx : Option Nat)
    (tile : Tile W F) (activate : Bool) :
    Ensures (s.addTileToColumn g colIdx tileIdx tile activate) Uniform := by
  refine (ensures_true _).bind fun col₀ _ => ?_
  refine (Column.addTileAt_uniform col₀ _ tile).bind fun col hcol => ?_
  refine (ensures_true _).bind fun _ _ => ?_
  have hshifted := shiftActive_uniform hcol (tileIdx.getD col₀.tiles.length) col₀.activeTileIdx
  have hactivated : Ensures (applyIf activate
      (fun col => (col.activateIdx (tileIdx.getD col₀.tiles.length)).map Prod.fst)
      (shiftActive col (tileIdx.getD col₀.tiles.length) col₀.activeTileIdx)) Column.Uniform :=
    applyIf_ensures (fun _ => (Column.activateIdx_steady _ _).map fun _ h => h.uniform hshifted)
      (fun _ => hshifted)
  refine hactivated.bind fun col' hcol' => ?_
  refine ensures_ite (fun _ => ?_) (fun _ => ensures_pure (h.set hcol' rfl))
  exact activateColumn_uniform g (h.set hcol' rfl) colIdx

theorem activateAfterRemoval_columns (s : ScrollingSpace W F) (columnIdx : Nat) :
    Ensures (s.activateAfterRemoval g columnIdx) fun s' => s'.columns = s.columns := by
  refine ensures_early rfl fun _ => ?_
  refine ensures_early rfl fun _ => ?_
  refine ensures_ite (fun _ => ?_) (fun _ => activateColumn_columns g s _)
  refine ensures_ite (fun _ => ?_) (fun _ => ensures_some rfl)
  refine (ensures_true _).bind fun offset _ => ?_
  refine (activateColumn_columns g s _).bind fun s₁ h₁ => ?_
  refine (animateViewOffset_columns g s₁ _ offset).bind fun s₂ h₂ => ?_
  exact (animateViewOffsetToColumn_columns g s₂ _ none).mono fun _ h₃ => h₃.trans (h₂.trans h₁)

section

variable (h : s.Uniform)
include h

theorem removeColumnByIdx_uniform [DecidableEq W] (columnIdx : Nat) :
    Ensures (s.removeColumnByIdx g columnIdx) fun p => p.1.Uniform ∧ p.2.Uniform := by
  refine (Vec.remove_ensures _ _).bind ?_
  rintro ⟨column, columns⟩ ⟨hcolumn, hcolumns⟩
  refine (ensures_true _).bind fun data _ => ?_
  refine (activateAfterRemoval_columns g _ columnIdx).bind fun s₁ heq => ?_
  have hcolumns₁ : s₁.columns = columns := heq
  refine ensures_pure ⟨h column hcolumn, fun col hcol => ?_⟩
  exact h col (hcolumns col (hcolumns₁ ▸ hcol))

theorem removeActiveColumn_uniform [DecidableEq W] :
    Ensures (s.removeActiveColumn g) fun p => (∀ col ∈ p.1, col.Uniform) ∧ p.2.Uniform := by
  refine ensures_early ⟨fun _ hcol => (by cases hcol), h⟩ fun _ => ?_
  refine (removeColumnByIdx_uniform g h _).bind ?_
  rintro ⟨column, s₁⟩ ⟨hcolumn, hs₁⟩
  refine ensures_pure ⟨?_, hs₁⟩
  rintro _ ⟨⟩
  exact hcolumn

theorem removeTileByIdx_uniform [One F] [DecidableEq W] (columnIdx tileIdx : Nat) :
    Ensures (s.removeTileByIdx g columnIdx tileIdx) fun p => p.2.Uniform := by
  refine (ensures_true _).bind fun column _ => ensures_ite (fun _ => ?_) (fun _ => ?_)
  · refine (removeColumnByIdx_uniform g h columnIdx).bind ?_
    rintro ⟨column, s₁⟩ ⟨-, hs₁⟩
    exact (ensures_true _).bind fun _ _ => ensures_pure hs₁
  · refine (Column.removeTileAt_uniform column tileIdx).bind ?_
    rintro ⟨tile, column'⟩ hcolumn'
    exact (ensures_true _).bind fun _ _ => ensures_pure (h.set hcolumn' rfl)

theorem removeTile_uniform [One F] [DecidableEq W] (window : W) :
    Ensures (s.removeTile g window) fun p => p.2.Uniform :=
  (ensures_true _).bind fun p _ => removeTileByIdx_uniform g h p.1 p.2

theorem removeActiveTile_uniform [One F] [DecidableEq W] :
    Ensures (s.removeActiveTile g) fun p => p.2.Uniform := by
  refine ensures_early h fun _ => ?_
  refine (ensures_true _).bind fun column _ => ?_
  exact (removeTileByIdx_uniform g h _ _).bind fun p hp => ensures_pure hp

/-! ## Focus -/

theorem onColumn_uniform (colIdx : Nat) {f : Column W F → Option (Column W F)}
    (hf : ∀ col : Column W F, col.Uniform → Ensures (f col) Column.Uniform) :
    Ensures (s.onColumn colIdx f) Uniform := by
  refine (ensures_self _).bind fun col hcol => ?_
  refine (hf col (h col (List.mem_of_getElem? hcol))).bind fun col' hcol' => ?_
  exact ensures_pure (h.set hcol' rfl)

theorem activateWindow_uniform [DecidableEq W] (window : W) :
    Ensures (s.activateWindow g window) Uniform := by
  rw [activateWindow]
  cases s.columns.findIdx? fun col => col.contains window with
  | none => exact ensures_some h
  | some columnIdx =>
    refine (onColumn_steady s columnIdx fun col =>
      Column.activateWindow_steady col window).bind fun s₁ h₁ => ?_
    exact activateColumn_uniform g (h₁.uniform h) columnIdx

theorem focusLeft_uniform : Ensures (s.focusLeft g) Uniform :=
  ensures_early h (fun _ => activateColumn_uniform g h _)

theorem focusRight_uniform : Ensures (s.focusRight g) Uniform :=
  ensures_early h (fun _ => activateColumn_uniform g h _)

theorem focusTileOr_uniform {inColumn : Column W F → Option (Column W F × Bool)}
    {across : ScrollingSpace W F → Option (ScrollingSpace W F)}
    (hin : ∀ col : Column W F, Ensures (inColumn col) fun p => col.Steady p.1)
    (hacross : ∀ s : ScrollingSpace W F, s.Uniform → Ensures (across s) Uniform) :
    Ensures (s.focusTileOr inColumn across) Uniform := by
  refine ensures_early h fun _ => ?_
  refine (ensures_self _).bind fun col hcol => (hin col).bind fun p hp => ?_
  have hset : Uniform { s with columns := s.columns.set s.activeColumnIdx p.1 } :=
    h.set (hp.uniform (h col (List.mem_of_getElem? hcol))) rfl
  exact ensures_early hset (fun _ => hacross _ hset)

/-! ## Moving -/

theorem moveColumnTo_uniform [DecidableEq W] (newIdx : Nat) :
    Ensures (s.moveColumnTo g newIdx) Uniform := by
  refine ensures_early h fun _ => ?_
  refine (Vec.remove_ensures _ _).bind ?_
  rintro ⟨column, columns⟩ ⟨hcolumn, hcolumns⟩
  refine (ensures_true _).bind fun d _ => ?_
  refine (Vec.insert_ensures columns newIdx column).bind fun columns' hcolumns' => ?_
  refine (ensures_true _).bind fun data _ => ?_
  refine activateColumn_uniform g (fun col hcol => ?_) newIdx
  rcases hcolumns' col hcol with rfl | hold
  · exact h _ hcolumn
  · exact h col (hcolumns col hold)

theorem consumeOrExpelWindowLeft_uniform [One F] [BEq F] [DecidableEq W] (window : Option W) :
    Ensures (s.consumeOrExpelWindowLeft g window) Uniform := by
  refine ensures_early h fun _ => ?_
  refine (ensures_true _).bind fun p _ => (ensures_true _).bind fun source _ => ?_
  refine ensures_ite (fun _ => ?_) (fun _ => ?_)
  · -- a lone tile joins the column beside it
    have hprev : ∀ prev : Option F, Uniform { s with activatePrevColumnOnRemoval := prev } :=
      fun _ => h
    refine ensures_early h fun _ => ?_
    refine (removeTileByIdx_uniform g (hprev _) p.1 0).bind fun q hq => ?_
    exact addTileToColumn_uniform g hq _ none _ _
  · -- one of several gets a column of its own
    refine (removeTileByIdx_uniform g h p.1 p.2).bind fun q hq => ?_
    exact (addTile_uniform g hq _ _ _ _ _).bind fun _ h => ensures_pure h

theorem consumeOrExpelWindowRight_uniform [One F] [BEq F] [DecidableEq W] (window : Option W) :
    Ensures (s.consumeOrExpelWindowRight g window) Uniform := by
  refine ensures_early h fun _ => ?_
  refine (ensures_true _).bind fun p _ => (ensures_true _).bind fun source _ => ?_
  refine ensures_ite (fun _ => ?_) (fun _ => ?_)
  · have hprev : ∀ prev : Option F, Uniform { s with activatePrevColumnOnRemoval := prev } :=
      fun _ => h
    refine ensures_early h fun _ => ?_
    refine (removeTileByIdx_uniform g (hprev _) p.1 0).bind fun q hq => ?_
    exact addTileToColumn_uniform g hq _ none _ _
  · refine (removeTileByIdx_uniform g h p.1 p.2).bind fun q hq => ?_
    exact addTile_uniform g hq _ _ _ _ _

theorem consumeIntoColumn_uniform [One F] [DecidableEq W] :
    Ensures (s.consumeIntoColumn g) Uniform := by
  refine ensures_early h fun _ => ?_
  refine ensures_early h fun _ => ?_
  refine (removeTileByIdx_uniform g h _ 0).bind fun q hq => ?_
  exact addTileToColumn_uniform g hq _ none _ _

theorem expelFromColumn_uniform [One F] [BEq F] [DecidableEq W] :
    Ensures (s.expelFromColumn g) Uniform := by
  refine ensures_early h fun _ => ?_
  refine (ensures_true _).bind fun source _ => ensures_early h fun _ => ?_
  refine (removeTileByIdx_uniform g h _ _).bind fun q hq => ?_
  exact addTile_uniform g hq _ _ _ _ _

theorem swapTiles_uniform [One F] [BEq F] [DecidableEq W] (direction : ScrollDirection)
    (sourceColIdx sourceTileIdx targetColIdx targetTileIdx : Nat) (sourceDrained : Bool) :
    Ensures (s.swapTiles g direction sourceColIdx sourceTileIdx targetColIdx targetTileIdx
      sourceDrained) Uniform := by
  refine (removeTileByIdx_uniform g h _ _).bind fun p hp => ?_
  have hreplaced : Ensures (p.2.replaceTile g (adjustedTarget direction targetColIdx sourceDrained)
      targetTileIdx p.1.tile) fun q => q.2.Uniform :=
    (addTileToColumn_uniform g hp _ _ _ _).bind fun _ h => removeTileByIdx_uniform g h _ _
  -- a source column that is drained comes back as a new one
  refine hreplaced.bind fun q hq => ensures_ite (fun _ => ?_) (fun _ => ?_)
  · exact addTile_uniform g hq _ _ _ _ _
  · exact addTileToColumn_uniform g hq _ _ _ _

theorem setActiveTile_uniform (colIdx tileIdx : Nat) :
    Ensures (s.setActiveTile colIdx tileIdx) Uniform :=
  onColumn_uniform h colIdx fun _ hcol => ensures_some hcol

theorem swapWindowInDirection_uniform [One F] [BEq F] [DecidableEq W]
    (direction : ScrollDirection) : Ensures (s.swapWindowInDirection g direction) Uniform := by
  refine ensures_early h fun _ => ?_
  refine ensures_early h fun _ => ?_
  refine ensures_early h fun _ => ?_
  refine (ensures_true _).bind fun source _ => (ensures_true _).bind fun target _ => ?_
  refine ensures_ite (fun _ => moveColumnTo_uniform g h _) (fun _ => ?_)
  refine (swapTiles_uniform g h _ _ _ _ _ _).bind fun s₁ h₁ => ?_
  refine (setActiveTile_uniform h₁ _ _).bind fun s₂ h₂ => ?_
  exact (setActiveTile_uniform h₂ _ _).bind fun s₃ h₃ => activateColumn_uniform g h₃ _

/-! ## Display and size -/

theorem setSizing_uniform [One F] [BEq F] [DecidableEq W] (pending : Column W F → Bool)
    {set : Column W F → Bool → Option (Column W F)} (window : W) (value : Bool)
    (hset : ∀ col : Column W F, Ensures (set col value) col.Steady) :
    Ensures (s.setSizing g pending set window value) fun p => p.1.Uniform := by
  refine (ensures_true _).bind fun colIdx _ => (ensures_true _).bind fun col _ => ?_
  refine ensures_early h fun _ => ?_
  have hextract : ∀ (extract : Bool) (resize : Option (InteractiveResize W)),
      Ensures (applyIf extract (fun s => s.consumeOrExpelWindowRight g (some window))
        { s with interactiveResize := resize }) Uniform := by
    intro extract resize
    have hresize : Uniform { s with interactiveResize := resize } := h
    exact applyIf_ensures (fun _ => consumeOrExpelWindowRight_uniform g hresize _) (fun _ => hresize)
  refine (hextract _ _).bind fun s₁ h₁ => ?_
  refine (ensures_self _).bind fun col₁ hcol₁ => ?_
  refine (hset col₁).bind fun col₂ hcol₂ => (ensures_true _).bind fun _ _ => ?_
  exact ensures_pure (h₁.set (hcol₂.uniform (h₁ col₁ (List.mem_of_getElem? hcol₁))) rfl)

theorem setFullscreen_uniform [One F] [BEq F] [DecidableEq W] (window : W) (isFullscreen : Bool) :
    Ensures (s.setFullscreen g window isFullscreen) fun p => p.1.Uniform :=
  setSizing_uniform g h _ window _ fun col => Column.setFullscreen_steady col _

theorem setMaximized_uniform [One F] [BEq F] [DecidableEq W] (window : W) (maximize : Bool) :
    Ensures (s.setMaximized g window maximize) fun p => p.1.Uniform :=
  setSizing_uniform g h _ window _ fun col => Column.setMaximized_steady col _

end

/-- Where the windows are in one column each, the column of the window is replaced. -/
theorem setSizing_false_column [One F] [BEq F] [DecidableEq W] {pending : Column W F → Bool}
    {set : Column W F → Bool → Option (Column W F)} {window : W} {col : Column W F}
    (hunique : ∀ col' ∈ s.columns, window ∈ col'.ids → col' = col) {post : Column W F → Prop}
    (hsame : pending col = false → post col)
    (hset : pending col = true → Ensures (set col false) post) :
    Ensures (s.setSizing g pending set window false) fun p => ∃ col' ∈ p.1.columns, post col' := by
  refine (ensures_self _).bind fun i hi => (ensures_self _).bind fun col₁ hcol₁ => ?_
  have hmem : col₁ ∈ s.columns := List.mem_of_getElem? hcol₁
  have hlt : i < s.columns.length := (List.getElem?_eq_some_iff.mp hcol₁).1
  have hin : window ∈ col₁.ids := by
    obtain ⟨_, hcontains, -⟩ := List.findIdx?_eq_some_iff_getElem.mp hi
    rw [(List.getElem?_eq_some_iff.mp hcol₁).2] at hcontains
    exact Column.contains_iff.mp hcontains
  obtain rfl := hunique col₁ hmem hin
  refine ensures_ite (fun hfalse => ensures_pure ⟨col₁, hmem, hsame hfalse.symm⟩) (fun hne => ?_)
  simp only [Bool.false_eq_true, false_and, decide_false, applyIf, if_false, Option.bind_eq_bind,
    Option.bind_some]
  refine (ensures_self _).bind fun col₂ hcol₂ => ?_
  obtain rfl := Option.some.inj (hcol₁.symm.trans hcol₂)
  refine (hset (eq_true_of_ne_false (Ne.symm hne))).bind fun col' hpost => ?_
  exact (ensures_true _).bind fun _ _ => ensures_pure ⟨col', List.mem_set hlt col', hpost⟩

/-- A column that leaves the one mode and is to be in the other does not become normal. -/
theorem setFullscreen_false_column [One F] [BEq F] [DecidableEq W] {window : W} {col : Column W F}
    (hunique : ∀ col' ∈ s.columns, window ∈ col'.ids → col' = col) (hmem : window ∈ col.ids)
    (hother : ¬ (col.isPendingFullscreen = true ∧ col.isPendingMaximized = false)) :
    Ensures (s.setFullscreen g window false) fun p => ∃ col' ∈ p.1.columns, window ∈ col'.ids ∧
      (col'.pendingSizingMode = .normal → col.pendingSizingMode = .normal) := by
  refine setSizing_false_column g hunique (fun _ => ⟨hmem, id⟩) fun hpending => ?_
  refine (Column.setFullscreen_false_mode col).mono ?_
  rintro col' ⟨hids, hmode⟩
  refine ⟨hids ▸ hmem, fun hnormal => ?_⟩
  rw [hmode (by_contra fun hnot => hother ⟨hpending, eq_false_of_ne_true hnot⟩)] at hnormal
  cases hnormal

theorem setMaximized_false_column [One F] [BEq F] [DecidableEq W] {window : W} {col : Column W F}
    (hunique : ∀ col' ∈ s.columns, window ∈ col'.ids → col' = col) (hmem : window ∈ col.ids)
    (hother : col.pendingSizingMode ≠ .maximized) :
    Ensures (s.setMaximized g window false) fun p => ∃ col' ∈ p.1.columns, window ∈ col'.ids ∧
      (col'.pendingSizingMode = .normal → col.pendingSizingMode = .normal) := by
  refine setSizing_false_column g hunique (fun _ => ⟨hmem, id⟩) fun hpending => ?_
  refine (Column.setMaximized_false_mode col).mono ?_
  rintro col' ⟨hids, hmode⟩
  refine ⟨hids ▸ hmem, fun hnormal => ?_⟩
  have hfullscreen : col.isPendingFullscreen = true := by
    by_contra hnot
    rw [Column.pendingSizingMode, if_neg hnot, if_pos hpending] at hother
    exact hother rfl
  rw [hmode hfullscreen] at hnormal
  cases hnormal

/-! ## One operation -/

theorem tilesMut_uniform (h : s.Uniform) {f : Tile W F → Tile W F}
    (hf : ∀ tile, (f tile).pendingSizingMode = tile.pendingSizingMode) : (s.tilesMut f).Uniform := by
  intro col hcol
  obtain ⟨col₀, hcol₀, rfl⟩ := List.mem_map.mp hcol
  refine (h col₀ hcol₀).mono (fun tile htile => ?_) rfl
  obtain ⟨tile₀, htile₀, rfl⟩ := List.mem_map.mp htile
  exact ⟨tile₀, htile₀, hf tile₀⟩

theorem step_uniform [One F] [BEq F] [LT F] [DecidableLT F] [LE F] [DecidableLE F] [DecidableEq W]
    (h : s.Uniform) {op : Op W F}
    (hkeeps : ∀ f, op = .tilesMut f → ∀ tile, (f tile).pendingSizingMode = tile.pendingSizingMode) :
    Ensures (s.step g op) Uniform := by
  have hsteady : op.steady = true → Ensures (s.step g op) Uniform := fun hop =>
    (step_steady g s hop).mono fun _ h' => h'.uniform h
  cases op with
  | tilesMut f => exact ensures_some (tilesMut_uniform h (hkeeps f rfl))
  | addTile colIdx tile activate width isFullWidth => exact addTile_uniform g h _ _ _ _ _
  | addTileToColumn colIdx tileIdx tile activate => exact addTileToColumn_uniform g h _ _ _ _
  | addTileRightOf rightOf tile activate width isFullWidth =>
    exact addTileRightOf_uniform g h _ _ _ _ _
  | removeActiveTile => exact (removeActiveTile_uniform g h).map fun _ hp => hp
  | removeTile window => exact (removeTile_uniform g h window).map fun _ hp => hp
  | removeTileByIdx columnIdx tileIdx => exact (removeTileByIdx_uniform g h _ _).map fun _ hp => hp
  | removeActiveColumn => exact (removeActiveColumn_uniform g h).map fun _ hp => hp.2
  | removeColumnByIdx columnIdx => exact (removeColumnByIdx_uniform g h _).map fun _ hp => hp.2
  | activateWindow window => exact activateWindow_uniform g h window
  | focusLeft => exact focusLeft_uniform g h
  | focusRight => exact focusRight_uniform g h
  | focusColumnFirst => exact activateColumn_uniform g h 0
  | focusColumnLast | focusColumn =>
    exact ensures_early h (fun _ => activateColumn_uniform g h _)
  | focusDownOrLeft | focusUpOrLeft =>
    exact focusTileOr_uniform h (fun col => Column.activateIdx_steady col _)
      fun _ h => focusLeft_uniform g h
  | focusDownOrRight | focusUpOrRight =>
    exact focusTileOr_uniform h (fun col => Column.activateIdx_steady col _)
      fun _ h => focusRight_uniform g h
  | moveColumnToFirst => exact moveColumnTo_uniform g h 0
  | moveColumnToIndex | moveLeft | moveRight | moveColumnToLast =>
    exact ensures_early h (fun _ => moveColumnTo_uniform g h _)
  | moveDown | moveUp =>
    refine ensures_early h (fun _ => onColumn_uniform h _ fun _ hcol => ?_)
    exact (Column.moveTo_uniform hcol _).map fun _ h => h
  | consumeOrExpelWindowLeft window => exact consumeOrExpelWindowLeft_uniform g h window
  | consumeOrExpelWindowRight window => exact consumeOrExpelWindowRight_uniform g h window
  | consumeIntoColumn => exact consumeIntoColumn_uniform g h
  | expelFromColumn => exact expelFromColumn_uniform g h
  | swapWindowInDirection direction => exact swapWindowInDirection_uniform g h direction
  | setFullscreen window isFullscreen => exact (setFullscreen_uniform g h _ _).map fun _ hp => hp
  | setMaximized window maximize => exact (setMaximized_uniform g h _ _).map fun _ hp => hp
  | viewOffsetGestureEnd isTouchpad =>
    exact (viewOffsetGestureEnd_steady g s isTouchpad).map fun _ hp => hp.2 h
  | dndScrollGestureEnd => exact (dndScrollGestureEnd_steady g s).mono fun _ hp => hp.2 h
  | _ => exact hsteady rfl

end ScrollingSpace

end Cidre.Layout
