/-
  Cidre.Layout.Cells

  What the operations of the scrolling layout do to its columns, exactly.

  A column is seen as its windows and the index of the active one (`Column.cell`),
  a layout as its cells and the index of the active one.  The lemmas say what an
  operation that returns has done to them; that it returns is said elsewhere.
-/

import Cidre.Layout.Operations

namespace Cidre.Layout

open Cidre.Panic

variable {W F : Type}

namespace Vec

theorem insert_eq {α : Type} {l l' : List α} {i : Nat} {a : α}
    (h : Vec.insert l i a = some l') : i ≤ l.length ∧ l' = l.insertIdx i a := by
  obtain ⟨hle, heq⟩ := Option.ite_none_right_eq_some.mp h
  exact ⟨hle, (Option.some.inj heq).symm⟩

theorem remove_eq {α : Type} {l l' : List α} {i : Nat} {a : α}
    (h : Vec.remove l i = some (a, l')) : l[i]? = some a ∧ l' = l.eraseIdx i := by
  obtain ⟨b, hb, heq⟩ := Option.map_eq_some_iff.mp h
  obtain ⟨rfl, rfl⟩ := Prod.mk.inj heq
  exact ⟨hb, rfl⟩

end Vec

/-! ## Columns -/

namespace Column

/-- The windows of the column, and which one is active. -/
def cell (col : Column W F) : List W × Nat := (col.ids, col.activeTileIdx)

variable {col col' : Column W F}

theorem updateTileSizes_cell (h : col.updateTileSizes = some col') : col'.cell = col.cell := by
  have hcell : ∀ mode, (col.request mode).cell = col.cell :=
    fun mode => congrArg (fun ids => (ids, col.activeTileIdx)) (ids_request col mode)
  unfold updateTileSizes at h
  dsimp only at h
  split at h
  · split at h
    · cases h
    · obtain ⟨-, heq⟩ := Option.ite_none_right_eq_some.mp h
      obtain rfl := Option.some.inj heq
      exact hcell _
  · obtain rfl := Option.some.inj h
    exact hcell _

theorem addTileAt_cell [One F] {idx : Nat} {tile : Tile W F}
    (h : col.addTileAt idx tile = some col') :
    col'.cell = (col.ids.insertIdx idx tile.id, col.activeTileIdx) := by
  obtain ⟨data, -, h⟩ := Option.bind_eq_some_iff.mp h
  obtain ⟨tiles, htiles, h⟩ := Option.bind_eq_some_iff.mp h
  obtain ⟨-, rfl⟩ := Vec.insert_eq htiles
  rw [updateTileSizes_cell h]
  refine Prod.ext ?_ (dropPending_active col)
  show (List.insertIdx _ idx _).map Tile.id = _
  rw [dropPending_tiles, List.map_insertIdx]
  rfl

theorem activateIdx_cell {idx : Nat} {moved : Bool} (h : col.activateIdx idx = some (col', moved)) :
    col'.cell = (col.ids, idx) := by
  unfold activateIdx at h
  split at h
  · next heq =>
    obtain ⟨rfl, -⟩ := Prod.mk.inj (Option.some.inj h)
    exact congrArg _ heq
  · obtain ⟨-, -, h⟩ := Option.bind_eq_some_iff.mp h
    obtain ⟨rfl, -⟩ := Prod.mk.inj (Option.some.inj h)
    rfl

theorem setMaximized_cell {value : Bool} (h : col.setMaximized value = some col') :
    col'.cell = col.cell := by
  unfold setMaximized at h
  split at h
  · obtain rfl := Option.some.inj h
    rfl
  · split at h
    · cases h
    · have hcell := updateTileSizes_cell h
      exact hcell

theorem setFullscreen_cell {value : Bool} (h : col.setFullscreen value = some col') :
    col'.cell = col.cell := by
  unfold setFullscreen at h
  split at h
  · obtain rfl := Option.some.inj h
    rfl
  · split at h
    · cases h
    · have hcell := updateTileSizes_cell h
      exact hcell

theorem newWithTile_cell [One F] [BEq F] {g : Geometry W F} {tile : Tile W F}
    {width : ColumnWidth F} {isFullWidth : Bool}
    (h : newWithTile g tile width isFullWidth = some col) : col.cell = ([tile.id], 0) := by
  obtain ⟨col₀, hcol₀, h⟩ := Option.bind_eq_some_iff.mp h
  have hcell : col₀.cell = ([tile.id], 0) := addTileAt_cell hcol₀
  cases hmode : tile.pendingSizingMode with
  | normal =>
    rw [hmode] at h
    obtain rfl := Option.some.inj h
    exact hcell
  | maximized =>
    rw [hmode] at h
    exact (setMaximized_cell h).trans hcell
  | fullscreen =>
    rw [hmode] at h
    exact (setFullscreen_cell h).trans hcell

theorem updateConfig_cell [BEq F] {g : Geometry W F} {options : Options F}
    (h : col.updateConfig g options = some col') : col'.cell = col.cell := by
  obtain ⟨col₁, hcol₁, h⟩ := Option.bind_eq_some_iff.mp h
  have hdrop : (col.dropPresetWidth options).cell = col.cell := by
    unfold dropPresetWidth
    split <;> rfl
  have hcell₁ : col₁.cell = col.cell := by
    rw [← hdrop]
    unfold applyIf at hcol₁
    split at hcol₁
    · unfold convertHeightsToAuto at hcol₁
      split at hcol₁
      · cases hcol₁
      · obtain rfl := Option.some.inj hcol₁
        rfl
    · obtain rfl := Option.some.inj hcol₁
      rfl
  have hoptions : ({ col₁ with
      tiles := col₁.tiles.map (Tile.updateConfig options), options } : Column W F).cell =
      col₁.cell := by
    refine Prod.ext ?_ rfl
    show (List.map _ _).map Tile.id = _
    rw [List.map_map]
    rfl
  rw [← hcell₁, ← hoptions]
  unfold applyIf at h
  split at h
  · exact updateTileSizes_cell h
  · obtain rfl := Option.some.inj h
    rfl

/-- The active tile once the one at `idx` of `len + 1` tiles is gone. -/
def activeAfter (active idx len : Nat) : Nat :=
  if idx < active then active - 1 else if idx = active ∧ idx = len then idx - 1 else active

theorem activateAfterRemoval_cell {idx : Nat} (h : col.activateAfterRemoval idx = some col') :
    col'.cell = (col.ids, activeAfter col.activeTileIdx idx col.tiles.length) := by
  unfold activateAfterRemoval at h
  unfold activeAfter
  split at h
  · next hlt =>
    obtain rfl := Option.some.inj h
    rw [if_pos hlt]
    rfl
  · next hlt =>
    rw [if_neg hlt]
    split at h
    · next heq =>
      split at h
      · next hlast =>
        obtain ⟨⟨col₁, moved⟩, hact, h⟩ := Option.bind_eq_some_iff.mp h
        obtain rfl := Option.some.inj h
        rw [if_pos ⟨heq, hlast⟩]
        exact activateIdx_cell hact
      · next hlast =>
        obtain ⟨-, -, h⟩ := Option.bind_eq_some_iff.mp h
        obtain rfl := Option.some.inj h
        rw [if_neg fun hc => hlast hc.2]
        rfl
    · next hne =>
      obtain rfl := Option.some.inj h
      rw [if_neg fun hc => hne hc.1]
      rfl

theorem removeTileAt_cell [One F] {idx : Nat} {tile : Tile W F}
    (h : col.removeTileAt idx = some (tile, col')) :
    col.ids[idx]? = some tile.id ∧
      col'.cell = (col.ids.eraseIdx idx, activeAfter col.activeTileIdx idx (col.tiles.length - 1)) := by
  obtain ⟨⟨tile', tiles⟩, htiles, h⟩ := Option.bind_eq_some_iff.mp h
  obtain ⟨hget, rfl⟩ := Vec.remove_eq htiles
  obtain ⟨⟨_, data⟩, -, h⟩ := Option.bind_eq_some_iff.mp h
  obtain ⟨col₁, hcol₁, h⟩ := Option.bind_eq_some_iff.mp h
  obtain ⟨col₂, hcol₂, h⟩ := Option.bind_eq_some_iff.mp h
  obtain ⟨rfl, rfl⟩ := Prod.mk.inj (Option.some.inj h)
  have hlt : idx < col.tiles.length := (List.getElem?_eq_some_iff.mp hget).1
  refine ⟨?_, ?_⟩
  · rw [ids, List.getElem?_map, hget]
    rfl
  · rw [updateTileSizes_cell hcol₂, activateAfterRemoval_cell hcol₁]
    refine Prod.ext ?_ ?_
    · show (List.eraseIdx _ _).map Tile.id = _
      rw [← List.eraseIdx_map]
      rfl
    · show activeAfter _ _ (List.eraseIdx _ _).length = _
      rw [List.length_eraseIdx_of_lt hlt]

theorem moveTo_cell {idx : Nat} {moved : Bool} (h : col.moveTo idx = some (col', moved)) :
    (col.activeTileIdx = idx ∧ col' = col) ∨
      (col.activeTileIdx ≠ idx ∧ ∃ a b, col.ids[col.activeTileIdx]? = some a ∧
        col.ids[idx]? = some b ∧ col'.cell = ((col.ids.set col.activeTileIdx b).set idx a, idx)) := by
  unfold moveTo at h
  split at h
  · next heq =>
    obtain ⟨rfl, -⟩ := Prod.mk.inj (Option.some.inj h)
    exact Or.inl ⟨heq, rfl⟩
  · next hne =>
    obtain ⟨tiles, htiles, h⟩ := Option.bind_eq_some_iff.mp h
    obtain ⟨data, -, h⟩ := Option.bind_eq_some_iff.mp h
    obtain ⟨rfl, -⟩ := Prod.mk.inj (Option.some.inj h)
    obtain ⟨a, ha, htiles⟩ := Option.bind_eq_some_iff.mp htiles
    obtain ⟨b, hb, htiles⟩ := Option.bind_eq_some_iff.mp htiles
    obtain rfl := Option.some.inj htiles
    refine Or.inr ⟨hne, a.id, b.id, ?_, ?_, Prod.ext ?_ rfl⟩
    · rw [ids, List.getElem?_map, ha]
      rfl
    · rw [ids, List.getElem?_map, hb]
      rfl
    · show ((col.tiles.set _ _).set _ _).map Tile.id = _
      rw [List.map_set, List.map_set]
      rfl

end Column

/-! ## The layout -/

namespace ScrollingSpace

def cells (s : ScrollingSpace W F) : List (List W × Nat) := s.columns.map Column.cell

/-- The focused window. -/
def focus (s : ScrollingSpace W F) : Option W :=
  s.cells[s.activeColumnIdx]?.bind fun c => c.1[c.2]?

variable {s s' : ScrollingSpace W F}

theorem arrangement_eq (s : ScrollingSpace W F) : s.arrangement = s.cells.map Prod.fst := by
  rw [arrangement, cells, List.map_map]
  rfl

theorem cells_getElem? {i : Nat} {col : Column W F} (h : s.columns[i]? = some col) :
    s.cells[i]? = some col.cell := by
  rw [cells, List.getElem?_map, h]
  rfl

theorem length_cells (s : ScrollingSpace W F) : s.cells.length = s.columns.length :=
  List.length_map _

theorem animateViewOffset_eq {g : Geometry W F} {idx : Nat} {offset : F}
    (h : s.animateViewOffset g idx offset = some s') : ∃ v, s' = { s with viewOffset := v } := by
  unfold animateViewOffset at h
  split at h
  · split at h
    · exact ⟨s.viewOffset, (Option.some.inj h).symm⟩
    · exact ⟨_, (Option.some.inj h).symm⟩
  · cases h

theorem animateViewOffsetToColumn_eq {g : Geometry W F} {idx : Nat} {prev : Option Nat}
    (h : s.animateViewOffsetToColumn g idx prev = some s') :
    ∃ v, s' = { s with viewOffset := v } := by
  obtain ⟨-, -, h⟩ := Option.bind_eq_some_iff.mp h
  exact animateViewOffset_eq h

theorem activateColumn_cells {g : Geometry W F} {idx : Nat}
    (h : s.activateColumn g idx = some s') : s'.cells = s.cells ∧ s'.activeColumnIdx = idx := by
  unfold activateColumn at h
  split at h
  · next heq =>
    obtain rfl := Option.some.inj h
    exact ⟨rfl, heq.1⟩
  · obtain ⟨s₁, hs₁, h⟩ := Option.bind_eq_some_iff.mp h
    obtain ⟨v, rfl⟩ := animateViewOffsetToColumn_eq hs₁
    split at h
    · obtain rfl := Option.some.inj h
      exact ⟨rfl, rfl⟩
    · next heq =>
      obtain rfl := Option.some.inj h
      exact ⟨rfl, not_not.mp heq⟩

theorem addColumn_cells [BEq F] {g : Geometry W F} {idx : Nat} {column : Column W F}
    {activate : Bool} (h : s.addColumn g (some idx) column activate = some s') :
    idx ≤ s.cells.length ∧ s'.cells = s.cells.insertIdx idx column.cell ∧
      s'.activeColumnIdx = if activate then idx
        else if s.columns ≠ [] ∧ idx ≤ s.activeColumnIdx then s.activeColumnIdx + 1
        else s.activeColumnIdx := by
  obtain ⟨column₁, hcolumn₁, h⟩ := Option.bind_eq_some_iff.mp h
  obtain ⟨data, -, h⟩ := Option.bind_eq_some_iff.mp h
  obtain ⟨columns, hcolumns, h⟩ := Option.bind_eq_some_iff.mp h
  obtain ⟨hle, rfl⟩ := Vec.insert_eq hcolumns
  have hcells : (s.columns.insertIdx idx column₁).map Column.cell =
      s.cells.insertIdx idx column.cell := by
    rw [List.map_insertIdx, Column.updateConfig_cell hcolumn₁]
    rfl
  refine ⟨(length_cells s).symm ▸ hle, ?_⟩
  cases activate with
  | true =>
    obtain ⟨s₁, hs₁, h⟩ := Option.bind_eq_some_iff.mp h
    obtain rfl := Option.some.inj h
    obtain ⟨hcells₁, hactive⟩ := activateColumn_cells hs₁
    exact ⟨hcells₁.trans hcells, hactive⟩
  | false =>
    obtain rfl := Option.some.inj h
    refine ⟨hcells, ?_⟩
    show (if (!s.columns.isEmpty && decide (idx ≤ s.activeColumnIdx)) = true then _ else _) = _
    rw [if_neg Bool.false_ne_true]
    simp only [Bool.and_eq_true, Bool.not_eq_true', List.isEmpty_eq_false_iff,
      decide_eq_true_eq]

theorem addTile_cells [One F] [BEq F] {g : Geometry W F} {idx : Nat} {tile : Tile W F}
    {activate isFullWidth : Bool} {width : ColumnWidth F}
    (h : s.addTile g (some idx) tile activate width isFullWidth = some s') :
    idx ≤ s.cells.length ∧ s'.cells = s.cells.insertIdx idx ([tile.id], 0) ∧
      s'.activeColumnIdx = if activate then idx
        else if s.columns ≠ [] ∧ idx ≤ s.activeColumnIdx then s.activeColumnIdx + 1
        else s.activeColumnIdx := by
  obtain ⟨column, hcolumn, h⟩ := Option.bind_eq_some_iff.mp h
  have hadd := addColumn_cells h
  rwa [Column.newWithTile_cell hcolumn] at hadd

/-- A tile inserted at `idx` in front of the active one moves it down. -/
def shifted (active idx : Nat) : Nat := if idx ≤ active then active + 1 else active

theorem addTileToColumn_cells [One F] {g : Geometry W F} {colIdx : Nat} {tileIdx : Option Nat}
    {tile : Tile W F} {activate : Bool}
    (h : s.addTileToColumn g colIdx tileIdx tile activate = some s') :
    ∃ c, s.cells[colIdx]? = some c ∧ s'.cells = s.cells.set colIdx
        (c.1.insertIdx (tileIdx.getD c.1.length) tile.id,
          if activate then tileIdx.getD c.1.length else shifted c.2 (tileIdx.getD c.1.length)) ∧
      s'.activeColumnIdx = if activate then colIdx else s.activeColumnIdx := by
  obtain ⟨col, hcol, h⟩ := Option.bind_eq_some_iff.mp h
  obtain ⟨col₁, hcol₁, h⟩ := Option.bind_eq_some_iff.mp h
  obtain ⟨-, -, h⟩ := Option.bind_eq_some_iff.mp h
  obtain ⟨col₂, hcol₂, h⟩ := Option.bind_eq_some_iff.mp h
  have hlen : col.cell.1.length = col.tiles.length := Column.length_ids col
  refine ⟨col.cell, cells_getElem? hcol, ?_⟩
  rw [hlen]
  generalize tileIdx.getD col.tiles.length = idx at hcol₁ hcol₂ ⊢
  have hcell₁ := Column.addTileAt_cell hcol₁
  have hids₁ : col₁.ids = col.ids.insertIdx idx tile.id := congrArg Prod.fst hcell₁
  have hactive₁ : col₁.activeTileIdx = col.activeTileIdx := congrArg Prod.snd hcell₁
  have hshift : (shiftActive col₁ idx col.activeTileIdx).cell =
      (col.ids.insertIdx idx tile.id, shifted col.activeTileIdx idx) := by
    unfold shiftActive shifted
    split
    · exact Prod.ext hids₁ (congrArg (· + 1) hactive₁)
    · exact Prod.ext hids₁ hactive₁
  have hcell₂ : col₂.cell = (col.ids.insertIdx idx tile.id,
      if activate then idx else shifted col.activeTileIdx idx) := by
    cases activate with
    | false =>
      obtain rfl := Option.some.inj hcol₂
      exact hshift
    | true =>
      obtain ⟨⟨col₃, moved⟩, hact, rfl⟩ := Option.map_eq_some_iff.mp hcol₂
      rw [if_pos rfl]
      have hids : (shiftActive col₁ idx col.activeTileIdx).ids = col.ids.insertIdx idx tile.id :=
        congrArg Prod.fst hshift
      rw [Column.activateIdx_cell hact, hids]
  have hcells : (s.columns.set colIdx col₂).map Column.cell = s.cells.set colIdx
      (col.ids.insertIdx idx tile.id, if activate then idx else shifted col.activeTileIdx idx) := by
    rw [List.map_set, hcell₂]
    rfl
  dsimp only at h
  split at h
  · next hact =>
    obtain ⟨hcells', hactive⟩ := activateColumn_cells h
    exact ⟨hcells'.trans hcells, hactive.trans (if_pos hact.1).symm⟩
  · next hact =>
    obtain rfl := Option.some.inj h
    refine ⟨hcells, ?_⟩
    cases activate with
    | false => rfl
    | true => exact not_not.mp fun hne => hact ⟨rfl, hne⟩

/-- The active column once the one at `idx` is gone; `prev` says that the one on
    the left was to follow it. -/
def activeAfterColumn (prev : Bool) (active idx len : Nat) : Nat :=
  if len = 0 then active
  else if idx < active then active - 1
  else if idx = active ∧ prev = true then active - 1
  else min active (len - 1)

theorem activateAfterRemoval_cells {g : Geometry W F} {idx : Nat}
    (h : s.activateAfterRemoval g idx = some s') : s'.cells = s.cells ∧
      s'.activeColumnIdx = activeAfterColumn s.activatePrevColumnOnRemoval.isSome
        s.activeColumnIdx idx s.cells.length := by
  unfold activateAfterRemoval at h
  unfold activeAfterColumn
  rw [length_cells]
  split at h
  · next hempty =>
    obtain rfl := Option.some.inj h
    exact ⟨rfl, (if_pos (by rw [hempty]; rfl)).symm⟩
  · next hne =>
    have hlen : s.columns.length ≠ 0 := fun hlen => hne (List.eq_nil_of_length_eq_zero hlen)
    rw [if_neg hlen]
    split at h
    · next hlt =>
      obtain rfl := Option.some.inj h
      exact ⟨rfl, (if_pos hlt).symm⟩
    · next hlt =>
      rw [if_neg hlt]
      split at h
      · next hprev =>
        rw [if_pos hprev]
        split at h
        · obtain ⟨offset, -, h⟩ := Option.bind_eq_some_iff.mp h
          obtain ⟨s₁, hs₁, h⟩ := Option.bind_eq_some_iff.mp h
          obtain ⟨s₂, hs₂, h⟩ := Option.bind_eq_some_iff.mp h
          obtain ⟨hcells, hactive⟩ := activateColumn_cells hs₁
          obtain ⟨v, rfl⟩ := animateViewOffset_eq hs₂
          obtain ⟨v', rfl⟩ := animateViewOffsetToColumn_eq h
          exact ⟨hcells, hactive⟩
        · obtain rfl := Option.some.inj h
          exact ⟨rfl, by omega⟩
      · next hprev =>
        rw [if_neg hprev]
        exact activateColumn_cells h

theorem removeColumnByIdx_cells [DecidableEq W] {g : Geometry W F} {idx : Nat}
    {column : Column W F} (h : s.removeColumnByIdx g idx = some (column, s')) :
    s.columns[idx]? = some column ∧ s'.cells = s.cells.eraseIdx idx ∧
      s'.activeColumnIdx = activeAfterColumn
        (decide (idx + 1 ≠ s.activeColumnIdx) && s.activatePrevColumnOnRemoval.isSome)
        s.activeColumnIdx idx (s.cells.length - 1) := by
  obtain ⟨⟨column₁, columns⟩, hcolumns, h⟩ := Option.bind_eq_some_iff.mp h
  obtain ⟨hget, rfl⟩ := Vec.remove_eq hcolumns
  obtain ⟨⟨_, data⟩, -, h⟩ := Option.bind_eq_some_iff.mp h
  obtain ⟨s₁, hs₁, h⟩ := Option.bind_eq_some_iff.mp h
  obtain ⟨rfl, rfl⟩ := Prod.mk.inj (Option.some.inj h)
  obtain ⟨hcells, hactive⟩ := activateAfterRemoval_cells hs₁
  have herase : (s.columns.eraseIdx idx).map Column.cell = s.cells.eraseIdx idx := by
    rw [← List.eraseIdx_map]
    rfl
  have hlt : idx < s.cells.length := by
    rw [length_cells]
    exact (List.getElem?_eq_some_iff.mp hget).1
  refine ⟨hget, hcells.trans herase, ?_⟩
  rw [hactive]
  show activeAfterColumn (Option.isSome (if _ then _ else _)) _ _ (List.length (List.map _ _)) = _
  rw [herase, List.length_eraseIdx_of_lt hlt]
  congr 1
  by_cases hidx : idx + 1 = s.activeColumnIdx <;> simp [hidx]

/-- A tile is taken out: with its column when it is alone there. -/
theorem removeTileByIdx_cells [One F] [DecidableEq W] {g : Geometry W F} {i j : Nat}
    {removed : RemovedTile W F} (h : s.removeTileByIdx g i j = some (removed, s')) :
    ∃ c, s.cells[i]? = some c ∧ c.1[j]? = some removed.tile.id ∧
      ((c.1.length = 1 ∧ s'.cells = s.cells.eraseIdx i ∧
        s'.activeColumnIdx = activeAfterColumn
          (decide (i + 1 ≠ s.activeColumnIdx) && s.activatePrevColumnOnRemoval.isSome)
          s.activeColumnIdx i (s.cells.length - 1)) ∨
       (c.1.length ≠ 1 ∧ s'.cells = s.cells.set i
          (c.1.eraseIdx j, Column.activeAfter c.2 j (c.1.length - 1)) ∧
        s'.activeColumnIdx = s.activeColumnIdx)) := by
  obtain ⟨col, hcol, h⟩ := Option.bind_eq_some_iff.mp h
  have hlen : col.cell.1.length = col.tiles.length := Column.length_ids col
  refine ⟨col.cell, cells_getElem? hcol, ?_⟩
  rw [hlen]
  split at h
  · next hone =>
    obtain ⟨⟨col₁, s₁⟩, hs₁, h⟩ := Option.bind_eq_some_iff.mp h
    obtain ⟨⟨tile, _⟩, htile, h⟩ := Option.bind_eq_some_iff.mp h
    obtain ⟨rfl, rfl⟩ := Prod.mk.inj (Option.some.inj h)
    obtain ⟨hcol₁, hcells, hactive⟩ := removeColumnByIdx_cells hs₁
    obtain rfl := Option.some.inj (hcol.symm.trans hcol₁)
    obtain ⟨hget, -⟩ := Vec.remove_eq htile
    refine ⟨?_, Or.inl ⟨hone, hcells, hactive⟩⟩
    show (col.tiles.map Tile.id)[j]? = _
    rw [List.getElem?_map, hget]
    rfl
  · next hmany =>
    obtain ⟨⟨tile, col₁⟩, hcol₁, h⟩ := Option.bind_eq_some_iff.mp h
    obtain ⟨-, -, h⟩ := Option.bind_eq_some_iff.mp h
    obtain ⟨rfl, rfl⟩ := Prod.mk.inj (Option.some.inj h)
    obtain ⟨hid, hcell⟩ := Column.removeTileAt_cell hcol₁
    refine ⟨hid, Or.inr ⟨hmany, ?_, rfl⟩⟩
    show (s.columns.set i col₁).map Column.cell = _
    rw [List.map_set, hcell]
    rfl

theorem onColumn_cells {i : Nat} {f : Column W F → Option (Column W F)}
    (h : s.onColumn i f = some s') : ∃ col col', s.columns[i]? = some col ∧ f col = some col' ∧
      s'.cells = s.cells.set i col'.cell ∧ s'.activeColumnIdx = s.activeColumnIdx := by
  obtain ⟨col, hcol, h⟩ := Option.bind_eq_some_iff.mp h
  obtain ⟨col', hcol', h⟩ := Option.bind_eq_some_iff.mp h
  obtain rfl := Option.some.inj h
  exact ⟨col, col', hcol, hcol', List.map_set, rfl⟩

theorem setActiveTile_cells {i j : Nat} (h : s.setActiveTile i j = some s') :
    ∃ c, s.cells[i]? = some c ∧ s'.cells = s.cells.set i (c.1, j) ∧
      s'.activeColumnIdx = s.activeColumnIdx := by
  obtain ⟨col, col', hcol, hcol', hcells, hactive⟩ := onColumn_cells h
  obtain rfl := Option.some.inj hcol'
  exact ⟨col.cell, cells_getElem? hcol, hcells, hactive⟩

theorem moveColumnTo_cells [DecidableEq W] {g : Geometry W F} {idx : Nat}
    (h : s.moveColumnTo g idx = some s') (hne : s.activeColumnIdx ≠ idx) :
    ∃ c, s.cells[s.activeColumnIdx]? = some c ∧
      s'.cells = (s.cells.eraseIdx s.activeColumnIdx).insertIdx idx c ∧
      s'.activeColumnIdx = idx := by
  rw [moveColumnTo, if_neg hne] at h
  obtain ⟨⟨col, columns⟩, hcolumns, h⟩ := Option.bind_eq_some_iff.mp h
  obtain ⟨hget, rfl⟩ := Vec.remove_eq hcolumns
  obtain ⟨⟨d, data⟩, -, h⟩ := Option.bind_eq_some_iff.mp h
  obtain ⟨columns, hcolumns, h⟩ := Option.bind_eq_some_iff.mp h
  obtain ⟨-, rfl⟩ := Vec.insert_eq hcolumns
  obtain ⟨data, -, h⟩ := Option.bind_eq_some_iff.mp h
  obtain ⟨hcells, hactive⟩ := activateColumn_cells h
  refine ⟨col.cell, cells_getElem? hget, hcells.trans ?_, hactive⟩
  show (List.insertIdx _ _ _).map Column.cell = _
  rw [List.map_insertIdx, ← List.eraseIdx_map]
  rfl

end ScrollingSpace

end Cidre.Layout
