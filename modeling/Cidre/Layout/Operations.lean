/-
  Cidre.Layout.Operations

  Every operation of the scrolling layout returns on a well-formed layout and
  leaves a well-formed layout.  Those that neither add nor remove a window keep
  the windows (`Rearranged`).
-/

import Mathlib.Data.List.Nodup
import Cidre.Layout.Structure

namespace Cidre.Layout.ScrollingSpace

open Cidre.Panic

variable {W F : Type} {s s' : ScrollingSpace W F} (g : Geometry W F)

/-! ## Configuration and commits -/

theorem kept_columns {options : Options F} {columns columns' : List (Column W F)}
    (h : List.Forall₂ (Column.Kept options) columns columns') :
    columns'.map Column.ids = columns.map Column.ids ∧ ∀ col ∈ columns', col.Coherent options := by
  induction h with
  | nil => exact ⟨rfl, by simp⟩
  | cons hkept _ ih =>
    refine ⟨?_, ?_⟩
    · rw [List.map_cons, List.map_cons, hkept.ids_eq, ih.1]
    · intro col hcol
      rcases List.mem_cons.mp hcol with rfl | hmem
      · exact hkept.coherent
      · exact ih.2 col hmem

section

variable (h : s.WellFormed)
include h

theorem updateConfig_returns [BEq F] (options : Options F) :
    Returns (s.updateConfig g options) (Rearranged s) := by
  refine (mapM_returns fun col hcol =>
    Column.updateConfig_returns g (h.coherent col hcol) options).bind fun columns hkept => ?_
  have hlen : s.columns.length = columns.length := hkept.length_eq
  obtain ⟨hids, hcoherent⟩ := kept_columns hkept
  have hwf : Structured columns ((s.data.zip columns).map fun p => ⟨g.columnWidth p.2⟩)
      s.activeColumnIdx s.interactiveResize options :=
    { data_length := by
        rw [List.length_map, List.length_zip, h.data_length, hlen, Nat.min_self]
      active_lt := by
        rw [← List.length_eq_zero_iff, ← hlen, List.length_eq_zero_iff]
        exact h.active_lt
      coherent := hcoherent
      nodup := hids ▸ h.nodup
      resize_mem := hids ▸ h.resize_mem }
  have hperm : (columns.map Column.ids).flatten.Perm s.windowIds := by
    rw [hids]
    exact List.Perm.refl _
  refine returns_ite (fun hview => ?_) (fun _ => returns_pure ⟨hwf, hperm⟩)
  refine (animateViewOffsetToColumn_returns g none ?_ ?_ ?_).mono ?_
  · exact hwf.data_length
  · exact hwf.active_lt_of_ne hview.1
  · exact Nat.le_of_lt (hwf.active_lt_of_ne hview.1)
  rintro _ ⟨v, rfl⟩
  exact ⟨hwf, hperm⟩

theorem advanceAnimations_rearranged : Rearranged s (s.advanceAnimations g) := by
  rw [advanceAnimations]
  split
  · exact ⟨h, List.Perm.refl _⟩
  · exact Rearranged.refl h

theorem updateViewAfterCommit_returns {colIdx : Nat} (hlt : colIdx < s.columns.length)
    (wasNormal isNormal : Bool) :
    Returns (s.updateViewAfterCommit g colIdx wasNormal isNormal) (Rearranged s) := by
  have hactive := h.active_le
  have hdata := h.data_length
  refine returns_ite (fun _ => ?_) (fun _ => returns_pure ⟨h, List.Perm.refl _⟩)
  refine (animateToRestored_returns g _ ?_ ?_).bind ?_
  · show colIdx ≤ s.data.length
    omega
  · show s.activeColumnIdx ≤ s.data.length
    omega
  rintro _ ⟨v, rfl⟩
  refine (animateViewOffsetToColumn_returns g none ?_ ?_ ?_).mono ?_
  · exact hdata
  · exact hlt
  · exact hactive
  rintro _ ⟨v', rfl⟩
  exact ⟨h, List.Perm.refl _⟩

theorem updateWindow_returns [DecidableEq W] {window : W} (hmem : window ∈ s.windowIds)
    (mode : SizingMode) : Returns (s.updateWindow g window mode) (Rearranged s) := by
  refine (findColumn_returns hmem).bind ?_
  rintro i ⟨-, col, hcol, hin⟩
  have hlt : i < s.columns.length := (List.getElem?_eq_some_iff.mp hcol).1
  refine (returns_of_eq hcol).bind ?_
  rintro _ rfl
  refine (Column.updateWindow_returns (h.getElem?_coherent hcol) hin mode).bind fun col' hkept => ?_
  refine (Vec.check_returns true (h.data_length ▸ hlt)).bind fun _ _ => ?_
  refine (Column.updateTileSizes_returns hkept.coherent).bind fun col'' hkept' => ?_
  have hids : col''.ids.Perm col.ids :=
    List.Perm.of_eq (hkept'.ids_eq.trans hkept.ids_eq)
  have hdata : (s.data.set i ⟨g.columnWidth col'⟩).length = s.data.length := List.length_set
  obtain ⟨hwf, hperm⟩ := Structured.setColumn h hcol hkept'.coherent hids hdata
  refine returns_ite (fun _ => ?_) (fun _ => returns_pure ⟨hwf, hperm⟩)
  refine (updateViewAfterCommit_returns g ?_ ?_ _ _).mono fun s' hre =>
    ⟨hre.wellFormed, hre.perm.trans hperm⟩
  · exact hwf
  · rw [List.length_set]
    exact hlt

/-! ## Focus -/

theorem activateColumn_rearranged {idx : Nat} (hidx : idx < s.columns.length) :
    Returns (s.activateColumn g idx) (Rearranged s) :=
  (activateColumn_returns g h hidx).mono fun _ hre => hre.1

theorem activateWindow_returns [DecidableEq W] (window : W) :
    Returns (s.activateWindow g window) (Rearranged s) := by
  rw [activateWindow]
  cases hfind : s.columns.findIdx? fun col => col.contains window with
  | none => exact returns_some (Rearranged.refl h)
  | some i =>
    obtain ⟨hlt, hcontains, -⟩ := List.findIdx?_eq_some_iff_getElem.mp hfind
    have hcol : s.columns[i]? = some s.columns[i] := List.getElem?_eq_getElem hlt
    have hact := Column.activateWindow_returns (h.getElem?_coherent hcol)
      (Column.contains_iff.mp hcontains)
    refine (onColumn_returns h hcol (hact.mono fun _ hkept =>
      ⟨hkept.coherent, List.Perm.of_eq hkept.ids_eq⟩)).bind ?_
    rintro s' ⟨hre, hlen⟩
    exact (activateColumn_rearranged g hre.wellFormed (hlen ▸ hlt)).mono fun _ hre' =>
      hre.trans hre'

theorem focusLeft_returns : Returns (s.focusLeft g) (Rearranged s) := by
  rw [focusLeft]
  refine returns_early (Rearranged.refl h) fun hne => ?_
  have hactive := h.active_le
  exact activateColumn_rearranged g h (by omega)

theorem focusRight_returns : Returns (s.focusRight g) (Rearranged s) := by
  rw [focusRight]
  refine returns_early (Rearranged.refl h) fun hlt => ?_
  exact activateColumn_rearranged g h (by omega)

theorem focusColumnFirst_returns : Returns (s.focusColumnFirst g) (Rearranged s) := by
  by_cases hempty : s.columns = []
  · have hzero : s.activeColumnIdx = 0 := by simpa [hempty] using h.active_le
    rw [focusColumnFirst, activateColumn, if_pos ⟨hzero, Or.inl hempty⟩]
    exact returns_some (Rearranged.refl h)
  · exact activateColumn_rearranged g h (List.length_pos_iff.mpr hempty)

theorem focusColumnLast_returns : Returns (s.focusColumnLast g) (Rearranged s) := by
  rw [focusColumnLast]
  refine returns_early (Rearranged.refl h) fun hne => ?_
  have hpos := List.length_pos_iff.mpr hne
  exact activateColumn_rearranged g h (by omega)

theorem focusColumn_returns (index : Nat) : Returns (s.focusColumn g index) (Rearranged s) := by
  rw [focusColumn]
  refine returns_early (Rearranged.refl h) fun hne => ?_
  have hpos := List.length_pos_iff.mpr hne
  exact activateColumn_rearranged g h (by omega)

theorem focusWindowInColumn_returns (index : Nat) :
    Returns (s.focusWindowInColumn index) (Rearranged s) :=
  onActiveColumn_returns h fun _ hcol =>
    (Column.focusIndex_returns hcol index).mono fun _ hkept => hkept.coherent_perm

theorem focusDown_returns : Returns s.focusDown (Rearranged s) :=
  onActiveColumn_returns h fun _ hcol =>
    (Column.focusDown_returns hcol).map fun _ hkept => hkept.coherent_perm

theorem focusUp_returns : Returns s.focusUp (Rearranged s) :=
  onActiveColumn_returns h fun _ hcol =>
    (Column.focusUp_returns hcol).map fun _ hkept => hkept.coherent_perm

theorem focusTop_returns : Returns s.focusTop (Rearranged s) :=
  onActiveColumn_returns h fun _ hcol =>
    (Column.focusTop_returns hcol).mono fun _ hkept => hkept.coherent_perm

theorem focusBottom_returns : Returns s.focusBottom (Rearranged s) :=
  onActiveColumn_returns h fun _ hcol =>
    (Column.focusBottom_returns hcol).mono fun _ hkept => hkept.coherent_perm

theorem focusTileOr_returns {inColumn : Column W F → Option (Column W F × Bool)}
    {across : ScrollingSpace W F → Option (ScrollingSpace W F)}
    (hin : ∀ col : Column W F, col.Coherent s.options →
      Returns (inColumn col) fun p => Column.Kept s.options col p.1)
    (hacross : ∀ s' : ScrollingSpace W F, s'.WellFormed → Returns (across s') (Rearranged s')) :
    Returns (s.focusTileOr inColumn across) (Rearranged s) := by
  rw [focusTileOr]
  refine returns_early (Rearranged.refl h) fun hne => ?_
  obtain ⟨col, hcol, hcoherent⟩ := h.activeColumn hne
  refine (returns_of_eq hcol).bind ?_
  rintro _ rfl
  refine (hin col hcoherent).bind ?_
  rintro ⟨col', moved⟩ hkept
  obtain ⟨hwf, hperm⟩ := Structured.setColumn h hcol hkept.coherent hkept.coherent_perm.2 rfl
  refine returns_early ⟨hwf, hperm⟩ fun _ => ?_
  refine (hacross _ ?_).mono fun _ hre => ⟨hre.wellFormed, hre.perm.trans hperm⟩
  exact hwf

theorem focusDownOrLeft_returns : Returns (s.focusDownOrLeft g) (Rearranged s) :=
  focusTileOr_returns h (fun _ => Column.focusDown_returns) fun _ => focusLeft_returns g

theorem focusDownOrRight_returns : Returns (s.focusDownOrRight g) (Rearranged s) :=
  focusTileOr_returns h (fun _ => Column.focusDown_returns) fun _ => focusRight_returns g

theorem focusUpOrLeft_returns : Returns (s.focusUpOrLeft g) (Rearranged s) :=
  focusTileOr_returns h (fun _ => Column.focusUp_returns) fun _ => focusLeft_returns g

theorem focusUpOrRight_returns : Returns (s.focusUpOrRight g) (Rearranged s) :=
  focusTileOr_returns h (fun _ => Column.focusUp_returns) fun _ => focusRight_returns g

/-! ## Moving columns and tiles -/

theorem moveColumnTo_returns [DecidableEq W] {newIdx : Nat} (hidx : newIdx < s.columns.length) :
    Returns (s.moveColumnTo g newIdx) (Rearranged s) := by
  rw [moveColumnTo]
  refine returns_early (Rearranged.refl h) fun _ => ?_
  have hne : s.columns ≠ [] := List.ne_nil_of_length_pos (by omega)
  have hlt := h.active_lt_of_ne hne
  have hdata : s.activeColumnIdx < s.data.length := h.data_length ▸ hlt
  refine (Vec.remove_returns hlt).bind ?_
  rintro ⟨col, _⟩ ⟨hcol, rfl⟩
  refine (Vec.remove_returns hdata).bind ?_
  rintro ⟨d, _⟩ ⟨-, rfl⟩
  have hlen : (s.columns.eraseIdx s.activeColumnIdx).length = s.columns.length - 1 :=
    List.length_eraseIdx_of_lt hlt
  have hdlen : (s.data.eraseIdx s.activeColumnIdx).length = s.data.length - 1 :=
    List.length_eraseIdx_of_lt hdata
  have hdl := h.data_length
  have hinsert : newIdx ≤ (s.columns.eraseIdx s.activeColumnIdx).length := by omega
  have hdinsert : newIdx ≤ (s.data.eraseIdx s.activeColumnIdx).length := by omega
  refine (Vec.insert_returns _ hinsert).bind ?_
  rintro _ rfl
  refine (Vec.insert_returns _ hdinsert).bind ?_
  rintro _ rfl
  have hwf := (Structured.eraseColumn h hcol hdlen
    (show 0 < s.columns.length - 1 ∨ s.columns.length = 1 ∧ 0 = 0 by omega)
    (fun r hr => cancelResizeForColumn_mem hr)).insertColumn hinsert (h.getElem?_coherent hcol)
    ((Structured.flatten_perm hcol).nodup_iff.mp h.nodup)
    (List.length_insertIdx_of_le_length hdinsert d) (show s.activeColumnIdx < _ by omega)
  have hperm := (Structured.flatten_insert_perm hinsert col).trans
    (Structured.flatten_perm hcol).symm
  refine (activateColumn_rearranged g ?_ ?_).mono fun _ hre =>
    ⟨hre.wellFormed, hre.perm.trans hperm⟩
  · exact hwf
  · show newIdx < ((s.columns.eraseIdx s.activeColumnIdx).insertIdx newIdx col).length
    rw [List.length_insertIdx_of_le_length hinsert]
    omega

theorem moveColumnToIndex_returns [DecidableEq W] (index : Nat) :
    Returns (s.moveColumnToIndex g index) (Rearranged s) := by
  rw [moveColumnToIndex]
  refine returns_early (Rearranged.refl h) fun hne => ?_
  have hpos := List.length_pos_iff.mpr hne
  exact moveColumnTo_returns g h (by omega)

theorem moveLeft_returns [DecidableEq W] : Returns (s.moveLeft g) (Rearranged s) := by
  rw [moveLeft]
  refine returns_early (Rearranged.refl h) fun _ => ?_
  have hactive := h.active_le
  exact moveColumnTo_returns g h (by omega)

theorem moveRight_returns [DecidableEq W] : Returns (s.moveRight g) (Rearranged s) := by
  rw [moveRight]
  refine returns_early (Rearranged.refl h) fun _ => ?_
  exact moveColumnTo_returns g h (by omega)

theorem moveColumnToFirst_returns [DecidableEq W] :
    Returns (s.moveColumnToFirst g) (Rearranged s) := by
  by_cases hempty : s.columns = []
  · have hzero : s.activeColumnIdx = 0 := by simpa [hempty] using h.active_le
    rw [moveColumnToFirst, moveColumnTo, if_pos hzero]
    exact returns_some (Rearranged.refl h)
  · exact moveColumnTo_returns g h (List.length_pos_iff.mpr hempty)

theorem moveColumnToLast_returns [DecidableEq W] :
    Returns (s.moveColumnToLast g) (Rearranged s) := by
  rw [moveColumnToLast]
  refine returns_early (Rearranged.refl h) fun hne => ?_
  have hpos := List.length_pos_iff.mpr hne
  exact moveColumnTo_returns g h (by omega)

theorem moveDown_returns : Returns s.moveDown (Rearranged s) :=
  onActiveColumn_returns h fun _ hcol => (Column.moveDown_returns hcol).map fun _ hmoved => hmoved

theorem moveUp_returns : Returns s.moveUp (Rearranged s) :=
  onActiveColumn_returns h fun _ hcol => (Column.moveUp_returns hcol).map fun _ hmoved => hmoved

end

/-! ## Moving tiles between columns -/

/-- A tile that is taken out and put back leaves the same windows. -/
theorem Removed.added {id : W} {s₁ s₂ : ScrollingSpace W F} (hrem : Removed [id] s s₁)
    (hadd : Added [id] s₁ s₂) : Rearranged s s₂ :=
  ⟨hadd.wellFormed, hadd.perm.trans hrem.perm.symm⟩

section

variable (h : s.WellFormed)
include h

/-- A tile that was taken out is not in the layout. -/
theorem Removed.fresh {id : W} {s₁ : ScrollingSpace W F} (hrem : Removed [id] s s₁) :
    id ∉ s₁.windowIds :=
  (List.nodup_cons.mp (hrem.perm.nodup_iff.mp h.nodup)).1

/-- The tile an operation is about: the one of a window of the layout, or the active one. -/
theorem sourceTile_returns [DecidableEq W] (hne : s.columns ≠ []) {window : Option W}
    (hmem : ∀ w ∈ window, w ∈ s.windowIds) :
    Returns (s.sourceTile window) fun p =>
      ∃ col, s.columns[p.1]? = some col ∧ p.2 < col.tiles.length ∧
        ∀ w ∈ window, (s.columns.findIdx? fun col => col.contains w) = some p.1 ∧
          col.ids[p.2]? = some w := by
  cases window with
  | some w =>
    refine (locate_returns (hmem w rfl)).mono ?_
    rintro p ⟨hfind, col, hcol, hlt, hid⟩
    refine ⟨col, hcol, hlt, ?_⟩
    rintro _ ⟨⟩
    exact ⟨hfind, hid⟩
  | none =>
    obtain ⟨col, hcol, hcoherent⟩ := h.activeColumn hne
    refine (returns_of_eq hcol).bind ?_
    rintro _ rfl
    exact returns_pure ⟨col, hcol, hcoherent.active_lt, by simp⟩

/-- A tile that was taken out goes to the end of a column. -/
theorem addLast_returns [One F] {tile : Tile W F} {s₁ : ScrollingSpace W F}
    (hrem : Removed [tile.id] s s₁) {i : Nat} (hi : i < s₁.columns.length) (activate : Bool) :
    Returns (s₁.addTileToColumn g i none tile activate) (Rearranged s) := by
  have hcol : s₁.columns[i]? = some s₁.columns[i] := List.getElem?_eq_getElem hi
  refine (addTileToColumn_returns g hrem.wellFormed hcol (by simp) (hrem.fresh h) activate).mono ?_
  rintro s₂ ⟨hadd, -⟩
  exact hrem.added hadd

/-- A tile that was taken out gets a column of its own. -/
theorem addAlone_returns [One F] [BEq F] {tile : Tile W F} {s₁ : ScrollingSpace W F}
    (hrem : Removed [tile.id] s s₁) {i : Nat} (hi : i ≤ s₁.columns.length) (activate : Bool)
    (width : ColumnWidth F) (isFullWidth : Bool) :
    Returns (s₁.addTile g (some i) tile activate width isFullWidth) fun s₂ =>
      Rearranged s s₂ ∧ s₂.arrangement = s₁.arrangement.insertIdx i [tile.id] := by
  refine (addTile_returns g hrem.wellFormed ?_ (hrem.fresh h) activate width isFullWidth).mono ?_
  · rintro _ ⟨⟩
    exact hi
  · rintro s₂ ⟨hadd, harr⟩
    exact ⟨hrem.added hadd, harr⟩

end

theorem length_of_removed {s₁ : ScrollingSpace W F} {i : Nat} {ids : List W}
    (harr : s₁.arrangement = s.arrangement.set i ids) : s₁.columns.length = s.columns.length := by
  rw [← length_arrangement, harr, List.length_set, length_arrangement]

theorem length_of_drained {s₁ : ScrollingSpace W F} {i : Nat} (hi : i < s.columns.length)
    (harr : s₁.arrangement = s.arrangement.eraseIdx i) :
    s₁.columns.length = s.columns.length - 1 := by
  rw [← length_arrangement, harr, List.length_eraseIdx_of_lt (by rwa [length_arrangement]),
    length_arrangement]

section

variable (h : s.WellFormed)
include h

theorem consumeOrExpelWindowLeft_returns [One F] [BEq F] [DecidableEq W] {window : Option W}
    (hmem : ∀ w ∈ window, w ∈ s.windowIds) :
    Returns (s.consumeOrExpelWindowLeft g window) (Rearranged s) := by
  rw [consumeOrExpelWindowLeft]
  refine returns_early (Rearranged.refl h) fun hne => ?_
  refine (sourceTile_returns h hne hmem).bind ?_
  rintro ⟨i, j⟩ ⟨col, hcol, hj, -⟩
  have hi : i < s.columns.length := (List.getElem?_eq_some_iff.mp hcol).1
  refine (returns_of_eq hcol).bind ?_
  rintro _ rfl
  refine returns_ite (fun hone => returns_early (Rearranged.refl h)
    (fun hpos => ?_)) (fun hmany => ?_)
  · refine (removeTileByIdx_returns g ?_ col ?_ ?_).bind ?_
    · exact h
    · exact hcol
    · omega
    rintro ⟨removed, s₁⟩ ⟨hrem, -, harr⟩
    rw [if_pos hone] at harr
    have hlen : s₁.columns.length = s.columns.length - 1 := length_of_drained hi harr
    exact addLast_returns g h ⟨hrem.wellFormed, hrem.perm⟩
      (show i - 1 < s₁.columns.length by omega) _
  · refine (removeTileByIdx_returns g h col hcol hj).bind ?_
    rintro ⟨removed, s₁⟩ ⟨hrem, -, harr⟩
    rw [if_neg hmany] at harr
    have hlen : s₁.columns.length = s.columns.length := length_of_removed harr
    refine (addAlone_returns g h hrem (show i ≤ s₁.columns.length by omega) _ _ _).bind ?_
    rintro s₂ ⟨hre, -⟩
    exact returns_pure ⟨hre.wellFormed, hre.perm⟩

/-- A window that is not alone in its column is alone in the next one afterwards. -/
theorem consumeOrExpelWindowRight_returns [One F] [BEq F] [DecidableEq W] {window : Option W}
    (hmem : ∀ w ∈ window, w ∈ s.windowIds) :
    Returns (s.consumeOrExpelWindowRight g window) fun s' =>
      Rearranged s s' ∧ ∀ w ∈ window, ∀ i col,
        (s.columns.findIdx? fun col => col.contains w) = some i → s.columns[i]? = some col →
        col.tiles.length ≠ 1 → s'.arrangement[i + 1]? = some [w] := by
  rw [consumeOrExpelWindowRight]
  refine returns_ite (fun hempty => returns_some ⟨Rearranged.refl h, ?_⟩) (fun hne => ?_)
  · intro w _ i col _ hcol
    simp [hempty] at hcol
  refine (sourceTile_returns h hne hmem).bind ?_
  rintro ⟨i, j⟩ ⟨col, hcol, hj, hsource⟩
  have hi : i < s.columns.length := (List.getElem?_eq_some_iff.mp hcol).1
  -- The column a window is found in is the source column.
  have hsame : ∀ w ∈ window, ∀ i' col',
      (s.columns.findIdx? fun col => col.contains w) = some i' → s.columns[i']? = some col' →
      i' = i ∧ col' = col := by
    intro w hw i' col' hfind hcol'
    obtain rfl : i = i' := Option.some.inj ((hsource w hw).1.symm.trans hfind)
    exact ⟨rfl, Option.some.inj (hcol'.symm.trans hcol)⟩
  refine (returns_of_eq hcol).bind ?_
  rintro _ rfl
  refine returns_ite (fun hone => ?_) (fun hmany => ?_)
  · have halone : ∀ w ∈ window, ∀ i' col',
        (s.columns.findIdx? fun col => col.contains w) = some i' → s.columns[i']? = some col' →
        ¬ col'.tiles.length ≠ 1 := by
      intro w hw i' col' hfind hcol' hne
      obtain ⟨-, rfl⟩ := hsame w hw i' col' hfind hcol'
      exact hne hone
    refine returns_early ⟨Rearranged.refl h, ?_⟩ fun hlast => ?_
    · exact fun w hw i' col' hfind hcol' hne => absurd hne (halone w hw i' col' hfind hcol')
    · refine (removeTileByIdx_returns g ?_ col ?_ ?_).bind ?_
      · exact h
      · exact hcol
      · omega
      rintro ⟨removed, s₁⟩ ⟨hrem, -, harr⟩
      rw [if_pos hone] at harr
      have hlen : s₁.columns.length = s.columns.length - 1 := length_of_drained hi harr
      refine (addLast_returns g h ⟨hrem.wellFormed, hrem.perm⟩
        (show i < s₁.columns.length by omega) _).mono fun s₂ hre => ⟨hre, ?_⟩
      exact fun w hw i' col' hfind hcol' hne => absurd hne (halone w hw i' col' hfind hcol')
  · refine (removeTileByIdx_returns g h col hcol hj).bind ?_
    rintro ⟨removed, s₁⟩ ⟨hrem, hid, harr⟩
    rw [if_neg hmany] at harr
    have hlen : s₁.columns.length = s.columns.length := length_of_removed harr
    have hle : i + 1 ≤ s₁.columns.length := by omega
    refine (addAlone_returns g h hrem hle _ _ _).mono ?_
    rintro s₂ ⟨hre, harr₂⟩
    refine ⟨hre, fun w hw i' col' hfind hcol' _ => ?_⟩
    obtain ⟨rfl, rfl⟩ := hsame w hw i' col' hfind hcol'
    obtain rfl : w = removed.tile.id :=
      Option.some.inj ((hsource w hw).2.symm.trans hid)
    rw [harr₂, List.getElem?_insertIdx_self, if_pos]
    exact (length_arrangement s₁).symm ▸ hle

theorem consumeIntoColumn_returns [One F] [DecidableEq W] :
    Returns (s.consumeIntoColumn g) (Rearranged s) := by
  rw [consumeIntoColumn]
  refine returns_early (Rearranged.refl h) fun htwo => ?_
  refine returns_early (Rearranged.refl h) fun hlast => ?_
  have hactive := h.active_lt_of_ne (List.ne_nil_of_length_pos (by omega))
  have hlt : s.activeColumnIdx + 1 < s.columns.length := by omega
  have hcol : s.columns[s.activeColumnIdx + 1]? = some s.columns[s.activeColumnIdx + 1] :=
    List.getElem?_eq_getElem hlt
  have hpos : 0 < s.columns[s.activeColumnIdx + 1].tiles.length :=
    List.length_pos_iff.mpr (h.getElem?_coherent hcol).tiles_ne
  refine (removeTileByIdx_returns g h _ hcol hpos).bind ?_
  rintro ⟨removed, s₁⟩ ⟨hrem, -, harr⟩
  have hlen : s.columns.length - 1 ≤ s₁.columns.length := by
    split at harr
    · exact Nat.le_of_eq (length_of_drained hlt harr).symm
    · have : s₁.columns.length = s.columns.length := length_of_removed harr
      omega
  exact addLast_returns g h hrem (show s.activeColumnIdx < s₁.columns.length by omega) false

theorem expelFromColumn_returns [One F] [BEq F] [DecidableEq W] :
    Returns (s.expelFromColumn g) (Rearranged s) := by
  rw [expelFromColumn]
  refine returns_early (Rearranged.refl h) fun hne => ?_
  obtain ⟨col, hcol, hcoherent⟩ := h.activeColumn hne
  have hactive := h.active_lt_of_ne hne
  refine (returns_of_eq hcol).bind ?_
  rintro _ rfl
  refine returns_early (Rearranged.refl h) fun hmany => ?_
  have hlast : col.tiles.length - 1 < col.tiles.length := by
    have := hcoherent.active_lt
    omega
  refine (removeTileByIdx_returns g h col hcol hlast).bind ?_
  rintro ⟨removed, s₁⟩ ⟨hrem, -, harr⟩
  rw [if_neg hmany] at harr
  have hlen : s₁.columns.length = s.columns.length := length_of_removed harr
  exact (addAlone_returns g h hrem (show s.activeColumnIdx + 1 ≤ s₁.columns.length by omega)
    _ _ _).mono fun _ hre => hre.1

/-! ## Exchanging two tiles -/

theorem replaceTile_returns [One F] [DecidableEq W] {colIdx tileIdx : Nat} {col : Column W F}
    (hcol : s.columns[colIdx]? = some col) (hlt : tileIdx < col.tiles.length) {tile : Tile W F}
    (hfresh : tile.id ∉ s.windowIds) :
    Returns (s.replaceTile g colIdx tileIdx tile) fun p =>
      (∃ s₁, Added [tile.id] s s₁ ∧ Removed [p.1.tile.id] s₁ p.2) ∧
        ∃ ids : List W, ids.length = col.tiles.length ∧
          p.2.arrangement = s.arrangement.set colIdx ids := by
  have hidx : colIdx < s.arrangement.length := by
    rw [length_arrangement]
    exact (List.getElem?_eq_some_iff.mp hcol).1
  refine (addTileToColumn_returns g h hcol (fun i hi => ?_) hfresh false).bind ?_
  · obtain rfl : tileIdx = i := by simpa using hi
    exact Nat.le_of_lt hlt
  rintro s₁ ⟨hadd, harr⟩
  have hget : s₁.arrangement[colIdx]? = some (col.ids.insertIdx tileIdx tile.id) := by
    rw [harr, List.getElem?_set_self hidx]
    rfl
  obtain ⟨col₁, hcol₁, hids⟩ := getElem?_of_arrangement hget
  have hlen : col₁.tiles.length = col.tiles.length + 1 := by
    rw [← Column.length_ids, hids, List.length_insertIdx_of_le_length, Column.length_ids]
    rw [Column.length_ids]
    exact Nat.le_of_lt hlt
  refine (removeTileByIdx_returns g hadd.wellFormed col₁ hcol₁ (by omega)).mono ?_
  rintro ⟨removed, s₂⟩ ⟨hrem, -, harr₂⟩
  rw [if_neg (by omega), harr, List.set_set] at harr₂
  refine ⟨⟨s₁, hadd, hrem⟩, col₁.ids.eraseIdx (tileIdx + 1), ?_, harr₂⟩
  rw [List.length_eraseIdx_of_lt, Column.length_ids, hlen]
  · omega
  · rw [Column.length_ids, hlen]
    omega

end

/-- Where the two columns of an exchange are: side by side. -/
def Beside (direction : ScrollDirection) (source target : Nat) : Prop :=
  match direction with
  | .left => target + 1 = source
  | .right => target = source + 1

/-- What an exchange leaves: the two columns have as many tiles as before. -/
structure Exchanged (s s' : ScrollingSpace W F) (i i' : Nat) (source target : Column W F) :
    Prop where
  rearranged : Rearranged s s'
  source_length : ∃ ids, s'.arrangement[i]? = some ids ∧ ids.length = source.tiles.length
  target_length : ∃ ids, s'.arrangement[i']? = some ids ∧ ids.length = target.tiles.length

section Exchange

variable [One F] [BEq F] [DecidableEq W] {direction : ScrollDirection} {i j i' j' : Nat}
  {source target : Column W F}

section

variable (h : s.WellFormed)
include h

/-- The source column has other tiles: both columns stay where they are. -/
theorem swapTiles_returns_of_many (hbeside : Beside direction i i')
    (hsource : s.columns[i]? = some source) (hj : j < source.tiles.length)
    (hmany : source.tiles.length ≠ 1) (htarget : s.columns[i']? = some target)
    (hj' : j' < target.tiles.length) :
    Returns (s.swapTiles g direction i j i' j' false) fun s' =>
      Exchanged s s' i i' source target := by
  have hi : i < s.arrangement.length := by
    rw [length_arrangement]
    exact (List.getElem?_eq_some_iff.mp hsource).1
  have hi' : i' < s.arrangement.length := by
    rw [length_arrangement]
    exact (List.getElem?_eq_some_iff.mp htarget).1
  have hne : i ≠ i' := by
    cases direction with
    | left | right => exact fun heq => absurd hbeside (by simp only [Beside]; omega)
  refine (removeTileByIdx_returns g h source hsource hj).bind ?_
  rintro ⟨removed, s₁⟩ ⟨hrem, -, harr⟩
  rw [if_neg hmany] at harr
  replace harr : s₁.arrangement = s.arrangement.set i (source.ids.eraseIdx j) := harr
  have hget : s₁.arrangement[i']? = some target.ids := by
    rw [harr, List.getElem?_set_ne hne]
    exact arrangement_getElem? htarget
  obtain ⟨target₁, htarget₁, hids⟩ := getElem?_of_arrangement hget
  have hlen : target₁.tiles.length = target.tiles.length := by
    rw [← Column.length_ids, hids, Column.length_ids]
  have hadjusted : adjustedTarget direction i' false = i' := by simp [adjustedTarget]
  simp only [hadjusted, Bool.false_eq_true, if_false]
  refine (replaceTile_returns g hrem.wellFormed htarget₁ (hlen ▸ hj') (hrem.fresh h)).bind ?_
  rintro ⟨removed', s₃⟩ ⟨⟨s₂, hadd, hrem'⟩, ids, hidslen, harr₃⟩
  replace harr₃ : s₃.arrangement = s₁.arrangement.set i' ids := harr₃
  have hget₃ : s₃.arrangement[i]? = some (source.ids.eraseIdx j) := by
    rw [harr₃, List.getElem?_set_ne hne.symm, harr, List.getElem?_set_self hi]
  obtain ⟨source₃, hsource₃, hids₃⟩ := getElem?_of_arrangement hget₃
  have hlen₃ : source₃.tiles.length = source.tiles.length - 1 := by
    rw [← Column.length_ids, hids₃, List.length_eraseIdx_of_lt (by simpa using hj),
      Column.length_ids]
  refine (addTileToColumn_returns g hrem'.wellFormed hsource₃ (fun k hk => ?_)
    (hrem'.fresh hadd.wellFormed) false).mono ?_
  · obtain rfl : j = k := by simpa using hk
    omega
  rintro s₄ ⟨hadd', harr₄⟩
  replace harr₄ : s₄.arrangement =
    s₃.arrangement.set i (source₃.ids.insertIdx j removed'.tile.id) := harr₄
  have hi₃ : i < s₃.arrangement.length := by
    rw [harr₃, harr, List.length_set, List.length_set]
    exact hi
  refine ⟨(hrem.added hadd).trans (hrem'.added hadd'),
    ⟨source₃.ids.insertIdx j removed'.tile.id, ?_, ?_⟩, ids, ?_, hidslen.trans hlen⟩
  · rw [harr₄, List.getElem?_set_self hi₃]
  · rw [List.length_insertIdx_of_le_length, Column.length_ids, hlen₃]
    · omega
    · rw [Column.length_ids, hlen₃]
      omega
  · rw [harr₄, List.getElem?_set_ne hne, harr₃, harr, List.getElem?_set_self]
    rw [List.length_set]
    exact hi'

/-- The source column is gone in between: a target on its right moves one to the
    left and back. -/
theorem swapTiles_returns_of_one (hbeside : Beside direction i i')
    (hsource : s.columns[i]? = some source) (hj : j < source.tiles.length)
    (hone : source.tiles.length = 1) (htarget : s.columns[i']? = some target)
    (hj' : j' < target.tiles.length) :
    Returns (s.swapTiles g direction i j i' j' true) fun s' =>
      Exchanged s s' i i' source target := by
  have hi : i < s.columns.length := (List.getElem?_eq_some_iff.mp hsource).1
  have hi' : i' < s.columns.length := (List.getElem?_eq_some_iff.mp htarget).1
  refine (removeTileByIdx_returns g h source hsource hj).bind ?_
  rintro ⟨removed, s₁⟩ ⟨hrem, -, harr⟩
  rw [if_pos hone] at harr
  replace harr : s₁.arrangement = s.arrangement.eraseIdx i := harr
  have hlen₁ : s₁.columns.length = s.columns.length - 1 := length_of_drained hi harr
  -- The target column is at `k` while the source column is gone.
  obtain ⟨k, hk, hadjusted, hget⟩ : ∃ k, k < s₁.columns.length ∧
      adjustedTarget direction i' true = k ∧
      s₁.arrangement[k]? = some target.ids := by
    have hids := arrangement_getElem? htarget
    cases direction with
    | left =>
      have hlt : i' + 1 = i := hbeside
      refine ⟨i', by omega, rfl, ?_⟩
      rw [harr, List.getElem?_eraseIdx_of_lt (by omega)]
      exact hids
    | right =>
      have heq : i' = i + 1 := hbeside
      refine ⟨i, by omega, by simp [adjustedTarget, heq], ?_⟩
      rw [harr, List.getElem?_eraseIdx_of_ge (Nat.le_refl i), ← heq]
      exact hids
  simp only [hadjusted, if_true]
  obtain ⟨target₁, htarget₁, hids⟩ := getElem?_of_arrangement hget
  have hlen : target₁.tiles.length = target.tiles.length := by
    rw [← Column.length_ids, hids, Column.length_ids]
  refine (replaceTile_returns g hrem.wellFormed htarget₁ (hlen ▸ hj') (hrem.fresh h)).bind ?_
  rintro ⟨removed', s₃⟩ ⟨⟨s₂, hadd, hrem'⟩, ids, hidslen, harr₃⟩
  replace harr₃ : s₃.arrangement = s₁.arrangement.set k ids := harr₃
  have hlen₃ : s₃.columns.length = s₁.columns.length := length_of_removed harr₃
  refine (addAlone_returns g hadd.wellFormed hrem' (show i ≤ s₃.columns.length by omega)
    _ _ _).mono ?_
  rintro s₄ ⟨hre, harr₄⟩
  replace harr₄ : s₄.arrangement = s₃.arrangement.insertIdx i [removed'.tile.id] := harr₄
  have hget₃ : s₃.arrangement[k]? = some ids := by
    rw [harr₃, List.getElem?_set_self]
    rw [length_arrangement]
    exact hk
  refine ⟨(hrem.added hadd).trans hre, ⟨[removed'.tile.id], ?_, hone.symm⟩, ids, ?_,
    hidslen.trans hlen⟩
  · rw [harr₄, List.getElem?_insertIdx_self, if_pos]
    rw [length_arrangement]
    omega
  · rw [harr₄]
    cases direction with
    | left =>
      have hlt : i' + 1 = i := hbeside
      obtain rfl : i' = k := hadjusted
      rw [List.getElem?_insertIdx_of_lt (by omega)]
      exact hget₃
    | right =>
      have heq : i' = i + 1 := hbeside
      obtain rfl : i = k := by simpa [adjustedTarget, heq] using hadjusted
      rw [List.getElem?_insertIdx_of_gt (by omega), heq]
      exact hget₃

theorem swapTiles_returns (hbeside : Beside direction i i') (hsource : s.columns[i]? = some source)
    (hj : j < source.tiles.length) (htarget : s.columns[i']? = some target)
    (hj' : j' < target.tiles.length) :
    Returns (s.swapTiles g direction i j i' j' (source.tiles.length = 1)) fun s' =>
      Exchanged s s' i i' source target := by
  by_cases hone : source.tiles.length = 1
  · rw [decide_eq_true hone]
    exact swapTiles_returns_of_one g h hbeside hsource hj hone htarget hj'
  · rw [decide_eq_false hone]
    exact swapTiles_returns_of_many g h hbeside hsource hj hone htarget hj'

omit [One F] [BEq F] [DecidableEq W] in
theorem setActiveTile_returns {ids : List W} (hids : s.arrangement[i]? = some ids)
    (hj : j < ids.length) :
    Returns (s.setActiveTile i j) fun s' => Rearranged s s' ∧ s'.arrangement = s.arrangement := by
  obtain ⟨col, hcol, rfl⟩ := getElem?_of_arrangement hids
  have hcoherent := (h.getElem?_coherent hcol).withActive (by simpa using hj)
  obtain ⟨hwf, hperm⟩ := Structured.setColumn h hcol hcoherent (List.Perm.refl _) rfl
  refine (returns_of_eq hcol).bind ?_
  rintro _ rfl
  exact returns_pure ⟨⟨hwf, hperm⟩, Vec.map_set_of_eq Column.ids hcol rfl⟩

theorem swapWindowInDirection_returns (direction : ScrollDirection) :
    Returns (s.swapWindowInDirection g direction) (Rearranged s) := by
  rw [swapWindowInDirection]
  refine returns_early (Rearranged.refl h) fun hne => ?_
  refine returns_early (Rearranged.refl h) fun hleft => ?_
  refine returns_early (Rearranged.refl h) fun hright => ?_
  have hactive := h.active_lt_of_ne hne
  obtain ⟨hbeside, hlt⟩ : Beside direction s.activeColumnIdx (direction.shift s.activeColumnIdx) ∧
      direction.shift s.activeColumnIdx < s.columns.length := by
    cases direction with
    | left =>
      have hpos : s.activeColumnIdx ≠ 0 := by simpa using hleft
      exact ⟨Nat.succ_pred_eq_of_ne_zero hpos, show s.activeColumnIdx - 1 < _ by omega⟩
    | right =>
      have hlast : s.activeColumnIdx ≠ s.columns.length - 1 := by simpa using hright
      exact ⟨rfl, show s.activeColumnIdx + 1 < _ by omega⟩
  refine (Vec.getElem?_returns hactive).bind fun source hsource => ?_
  refine (Vec.getElem?_returns hlt).bind fun target htarget => ?_
  refine returns_ite (fun _ => moveColumnTo_returns g h hlt) (fun _ => ?_)
  refine (swapTiles_returns g h hbeside hsource (h.getElem?_coherent hsource).active_lt htarget
    (h.getElem?_coherent htarget).active_lt).bind ?_
  rintro s₁ ⟨hre₁, ⟨ids, hids, hlen⟩, ids', hids', hlen'⟩
  refine (setActiveTile_returns hre₁.wellFormed hids ?_).bind ?_
  · exact hlen ▸ (h.getElem?_coherent hsource).active_lt
  rintro s₂ ⟨hre₂, harr₂⟩
  refine (setActiveTile_returns hre₂.wellFormed (harr₂ ▸ hids') ?_).bind ?_
  · exact hlen' ▸ (h.getElem?_coherent htarget).active_lt
  rintro s₃ ⟨hre₃, harr₃⟩
  refine (activateColumn_rearranged g hre₃.wellFormed ?_).mono fun _ hre₄ =>
    ((hre₁.trans hre₂).trans hre₃).trans hre₄
  rw [← length_arrangement, harr₃, harr₂]
  exact (List.getElem?_eq_some_iff.mp hids').1

end

end Exchange

/-! ## Sizing mode and display -/

/-- One column was replaced, and a resize may be over. -/
structure ColumnSet (s s' : ScrollingSpace W F) (i : Nat) (col' : Column W F) : Prop where
  columns_eq : s'.columns = s.columns.set i col'
  data_length : s'.data.length = s.data.length
  active_eq : s'.activeColumnIdx = s.activeColumnIdx
  options_eq : s'.options = s.options
  resize_sub : ∀ r ∈ s'.interactiveResize, r ∈ s.interactiveResize

theorem ColumnSet.trans {s₁ s₂ : ScrollingSpace W F} {i : Nat} {col₁ col₂ : Column W F}
    (h₁ : ColumnSet s s₁ i col₁) (h₂ : ColumnSet s₁ s₂ i col₂) : ColumnSet s s₂ i col₂ where
  columns_eq := by rw [h₂.columns_eq, h₁.columns_eq, List.set_set]
  data_length := h₂.data_length.trans h₁.data_length
  active_eq := h₂.active_eq.trans h₁.active_eq
  options_eq := h₂.options_eq.trans h₁.options_eq
  resize_sub := fun r hr => h₁.resize_sub r (h₂.resize_sub r hr)

theorem ColumnSet.rearranged {i : Nat} {col col' : Column W F} (h : s.WellFormed)
    (hset : ColumnSet s s' i col') (hcol : s.columns[i]? = some col)
    (hcoherent : col'.Coherent s.options) (hids : col'.ids = col.ids) : Rearranged s s' := by
  obtain ⟨hcolumns, hdata, hactive, hoptions, hresize⟩ := hset
  obtain ⟨hwf, hperm⟩ := Structured.setColumn h hcol hcoherent (List.Perm.of_eq hids) hdata
  refine ⟨?_, ?_⟩
  · rw [WellFormed, hcolumns, hactive, hoptions]
    exact hwf.withResize hresize
  · rw [windowIds, arrangement, hcolumns]
    exact hperm

/-- A window of the layout is found in the column that has it. -/
theorem findColumn_eq [DecidableEq W] {columns : List (Column W F)}
    (hnodup : (columns.map Column.ids).flatten.Nodup) {i : Nat} {col : Column W F}
    (hcol : columns[i]? = some col) {window : W} (hmem : window ∈ col.ids) :
    (columns.findIdx? fun col => col.contains window) = some i := by
  obtain ⟨hi, rfl⟩ := List.getElem?_eq_some_iff.mp hcol
  refine List.findIdx?_eq_some_iff_getElem.mpr ⟨hi, Column.contains_iff.mpr hmem, fun k hk hc => ?_⟩
  have hmem' := Column.contains_iff.mp hc
  have hpair := (List.nodup_flatten.mp hnodup).2
  rw [List.pairwise_map] at hpair
  exact List.disjoint_left.mp (List.pairwise_iff_getElem.mp hpair k i _ hi hk) hmem' hmem

/-- The replaced column is found by any of its windows. -/
theorem ColumnSet.find [DecidableEq W] {i : Nat} {col col' : Column W F} (h : s.WellFormed)
    (hset : ColumnSet s s' i col') (hcol : s.columns[i]? = some col) (hids : col'.ids = col.ids)
    {window : W} (hmem : window ∈ col'.ids) :
    s'.columns[i]? = some col' ∧
      (s'.columns.findIdx? fun col => col.contains window) = some i ∧
      s'.data.length = s'.columns.length := by
  have hi : i < s.columns.length := (List.getElem?_eq_some_iff.mp hcol).1
  have hcol' : s'.columns[i]? = some col' := by
    rw [hset.columns_eq, List.getElem?_set_self hi]
  have hsame : s'.columns.map Column.ids = s.columns.map Column.ids := by
    rw [hset.columns_eq]
    exact Vec.map_set_of_eq Column.ids hcol hids
  refine ⟨hcol', findColumn_eq (hsame ▸ h.nodup) hcol' hmem, ?_⟩
  rw [hset.data_length, hset.columns_eq, List.length_set, h.data_length]

section Sizing

variable [One F] [BEq F] [DecidableEq W] {pending : Column W F → Bool}
  {set : Column W F → Bool → Option (Column W F)} {window : W}

theorem setSizing_returns (h : s.WellFormed) (hmem : window ∈ s.windowIds) {value : Bool}
    (hset : ∀ (options : Options F) (col : Column W F), col.Coherent options →
      (value = true → col.displayMode = .tabbed ∨ col.tiles.length = 1) →
      Returns (set col value) (Column.Kept options col)) :
    Returns (s.setSizing g pending set window value) fun p => Rearranged s p.1 := by
  refine (findColumn_returns hmem).bind ?_
  rintro i ⟨hfind, col, hcol, hin⟩
  have hi : i < s.columns.length := (List.getElem?_eq_some_iff.mp hcol).1
  refine (returns_of_eq hcol).bind ?_
  rintro _ rfl
  refine returns_early (Rearranged.refl h) fun _ => ?_
  have hwf : WellFormed
      { s with interactiveResize := cancelResizeForColumn s.interactiveResize col } :=
    Structured.withResize h fun r hr => (cancelResizeForColumn_mem hr).1
  by_cases hext : value = true ∧ col.tiles.length > 1 ∧ col.displayMode ≠ .tabbed
  · simp only [decide_eq_true hext, applyIf, if_true]
    refine (consumeOrExpelWindowRight_returns g hwf ?_).bind ?_
    · rintro _ ⟨⟩
      exact hmem
    rintro s₁ ⟨hre, hnext⟩
    have harr := hnext window rfl i col hfind hcol (by omega)
    obtain ⟨col₁, hcol₁, hids⟩ := getElem?_of_arrangement harr
    have hone : col₁.tiles.length = 1 := by
      rw [← Column.length_ids, hids]
      rfl
    have hi₁ : i + 1 < s₁.data.length := by
      rw [hre.wellFormed.data_length]
      exact (List.getElem?_eq_some_iff.mp hcol₁).1
    refine (returns_of_eq hcol₁).bind ?_
    rintro _ rfl
    refine (hset _ col₁ (hre.wellFormed.getElem?_coherent hcol₁) fun _ => Or.inr hone).bind
      fun col₂ hkept => ?_
    refine (Vec.check_returns true hi₁).bind fun _ _ => returns_pure ?_
    have hcs : ColumnSet s₁ { s₁ with
        columns := s₁.columns.set (i + 1) col₂
        data := s₁.data.set (i + 1) ⟨g.columnWidth col₂⟩ } (i + 1) col₂ :=
      ⟨rfl, List.length_set, rfl, rfl, fun _ hr => hr⟩
    have hre₂ := hcs.rearranged hre.wellFormed hcol₁ hkept.coherent hkept.ids_eq
    exact ⟨hre₂.wellFormed, hre₂.perm.trans hre.perm⟩
  · simp only [decide_eq_false hext, applyIf, Bool.false_eq_true, if_false, Option.bind_eq_bind,
      Option.bind_some]
    have hcoherent := h.getElem?_coherent hcol
    have hone : value = true → col.displayMode = .tabbed ∨ col.tiles.length = 1 := by
      intro hvalue
      by_cases htabbed : col.displayMode = .tabbed
      · exact Or.inl htabbed
      · have hle : ¬ col.tiles.length > 1 := fun hgt => hext ⟨hvalue, hgt, htabbed⟩
        have hpos := hcoherent.active_lt
        exact Or.inr (by omega)
    refine (returns_of_eq hcol).bind ?_
    rintro _ rfl
    refine (hset _ col hcoherent hone).bind fun col₂ hkept => ?_
    refine (Vec.check_returns true ?_).bind fun _ _ => returns_pure ?_
    · show i < s.data.length
      exact h.data_length ▸ hi
    · refine ColumnSet.rearranged (i := i) h ?_ hcol hkept.coherent hkept.ids_eq
      exact ⟨rfl, List.length_set, rfl, rfl, fun r hr => (cancelResizeForColumn_mem hr).1⟩

end Sizing

theorem setFullscreen_returns [One F] [BEq F] [DecidableEq W] (h : s.WellFormed) {window : W}
    (hmem : window ∈ s.windowIds) (isFullscreen : Bool) :
    Returns (s.setFullscreen g window isFullscreen) fun p => Rearranged s p.1 :=
  setSizing_returns g h hmem fun _ _ hcol hone => Column.setFullscreen_returns hcol hone

theorem setMaximized_returns [One F] [BEq F] [DecidableEq W] (h : s.WellFormed) {window : W}
    (hmem : window ∈ s.windowIds) (maximize : Bool) :
    Returns (s.setMaximized g window maximize) fun p => Rearranged s p.1 :=
  setSizing_returns g h hmem fun _ _ hcol hone => Column.setMaximized_returns hcol hone

/-- Leaving a sizing mode replaces the column of the window, also where the
    column is not coherent. -/
theorem setSizing_false_returns [One F] [BEq F] [DecidableEq W] {pending : Column W F → Bool}
    {set : Column W F → Bool → Option (Column W F)} {window : W} {i : Nat} {col : Column W F}
    (hcol : s.columns[i]? = some col)
    (hfind : (s.columns.findIdx? fun col => col.contains window) = some i)
    (hdata : s.data.length = s.columns.length) {post : Column W F → Prop}
    (hsame : pending col = false → post col) (hset : Returns (set col false) post) :
    Returns (s.setSizing g pending set window false) fun p =>
      ∃ col', ColumnSet s p.1 i col' ∧ post col' := by
  have hi : i < s.data.length := hdata ▸ (List.getElem?_eq_some_iff.mp hcol).1
  refine (returns_of_eq hfind).bind ?_
  rintro _ rfl
  refine (returns_of_eq hcol).bind ?_
  rintro _ rfl
  refine returns_ite (fun heq => ?_) (fun _ => ?_)
  · refine returns_pure ⟨col, ⟨?_, rfl, rfl, rfl, fun _ hr => hr⟩, hsame heq.symm⟩
    obtain ⟨hlt, rfl⟩ := List.getElem?_eq_some_iff.mp hcol
    exact (List.set_getElem_self hlt).symm
  · simp only [Bool.false_eq_true, false_and, decide_false, applyIf, if_false,
      Option.bind_eq_bind, Option.bind_some]
    refine (returns_of_eq hcol).bind ?_
    rintro _ rfl
    refine hset.bind fun col' hpost => ?_
    refine (Vec.check_returns true hi).bind fun _ _ => returns_pure ⟨col', ?_, hpost⟩
    exact ⟨rfl, List.length_set, rfl, rfl, fun r hr => (cancelResizeForColumn_mem hr).1⟩

section

variable (h : s.WellFormed)
include h

/-- A tabbed column that becomes a normal one of several windows leaves its sizing
    mode. -/
theorem setColumnDisplay_returns [One F] [BEq F] [DecidableEq W] (display : ColumnDisplay) :
    Returns (s.setColumnDisplay g display) (Rearranged s) := by
  rw [setColumnDisplay]
  refine returns_early (Rearranged.refl h) fun hne => ?_
  obtain ⟨col, hcol, hcoherent⟩ := h.activeColumn hne
  have hi : s.activeColumnIdx < s.data.length := h.data_length ▸ h.active_lt_of_ne hne
  refine (returns_of_eq hcol).bind ?_
  rintro _ rfl
  refine returns_early (Rearranged.refl h) fun _ => ?_
  refine (Column.setColumnDisplay_sound hcoherent display).bind ?_
  rintro col₁ ⟨hsound₁, hids₁, -⟩
  refine (Vec.check_returns true hi).bind fun _ _ => ?_
  refine (Column.updateTileSizes_sound hsound₁).bind ?_
  rintro _ ⟨mode, rfl⟩
  have hsound₂ := hsound₁.request mode
  have hids₂ : (col₁.request mode).ids = col.ids := (Column.ids_request col₁ mode).trans hids₁
  generalize col₁.request mode = col₂ at hsound₂ hids₂ ⊢
  have hset₁ : ColumnSet s { s with
      columns := s.columns.set s.activeColumnIdx col₂
      data := s.data.set s.activeColumnIdx ⟨g.columnWidth col₁⟩
      interactiveResize := cancelResizeForColumn s.interactiveResize col }
      s.activeColumnIdx col₂ :=
    ⟨rfl, List.length_set, rfl, rfl, fun r hr => (cancelResizeForColumn_mem hr).1⟩
  generalize ({ s with
      columns := s.columns.set s.activeColumnIdx col₂
      data := s.data.set s.activeColumnIdx ⟨g.columnWidth col₁⟩
      interactiveResize := cancelResizeForColumn s.interactiveResize col } :
      ScrollingSpace W F) = s₁ at hset₁ ⊢
  refine returns_ite (fun hnormal => ?_) (fun hkeep => returns_pure ?_)
  · refine (Vec.getElem?_returns hsound₂.active_lt).bind fun tile htile => ?_
    have hmem : tile.id ∈ col₂.ids := List.mem_map_of_mem (List.mem_of_getElem? htile)
    obtain ⟨hcol₂, hfind₂, hdata₂⟩ := hset₁.find h hcol hids₂ hmem
    refine (setSizing_false_returns g hcol₂ hfind₂ hdata₂ (fun hno => ⟨hsound₂, rfl, hno⟩)
      (Column.setFullscreen_false_sound hsound₂)).bind ?_
    rintro ⟨s₂, _⟩ ⟨col₃, hset₂, hsound₃, hids₃, hfull⟩
    have hset₃ := hset₁.trans hset₂
    have hids₃' : col₃.ids = col.ids := hids₃.trans hids₂
    obtain ⟨hcol₃, hfind₃, hdata₃⟩ := hset₃.find h hcol hids₃' (hids₃ ▸ hmem)
    refine (setSizing_false_returns g hcol₃ hfind₃ hdata₃
      (fun hno => ⟨{ hsound₃ with pending := by simp [hfull, hno] }, rfl⟩)
      (Column.setMaximized_false_sound hsound₃ hfull)).bind ?_
    rintro ⟨s₃, _⟩ ⟨col₄, hset₄, hkept⟩
    exact returns_pure ((hset₃.trans hset₄).rearranged h hcol hkept.coherent
      (hkept.ids_eq.trans hids₃'))
  · have hpos := hsound₂.active_lt
    refine hset₁.rearranged h hcol { hsound₂ with pending := fun _ => ?_ } hids₂
    by_cases htabbed : col₂.displayMode = .tabbed
    · exact Or.inl htabbed
    · have hle : ¬ col₂.tiles.length > 1 := fun hgt => hkeep ⟨htabbed, hgt⟩
      exact Or.inr (by omega)

theorem toggleColumnTabbedDisplay_returns [One F] [BEq F] [DecidableEq W] :
    Returns (s.toggleColumnTabbedDisplay g) (Rearranged s) := by
  rw [toggleColumnTabbedDisplay]
  refine returns_early (Rearranged.refl h) fun hne => ?_
  refine (Vec.getElem?_returns (h.active_lt_of_ne hne)).bind fun col _ => ?_
  cases col.displayMode with
  | normal => exact setColumnDisplay_returns g h .tabbed
  | tabbed => exact setColumnDisplay_returns g h .normal

/-! ## Centering -/

/-- The view moves, and a resize in the column may be over. -/
theorem rearranged_of_cancel [DecidableEq W] (v : ViewOffset) (col : Column W F) :
    Rearranged s { s with
      viewOffset := v
      interactiveResize := cancelResizeForColumn s.interactiveResize col } :=
  ⟨Structured.withResize h fun _ hr => (cancelResizeForColumn_mem hr).1, List.Perm.refl _⟩

theorem centerColumn_returns [DecidableEq W] : Returns (s.centerColumn g) (Rearranged s) := by
  rw [centerColumn]
  refine returns_early (Rearranged.refl h) fun hne => ?_
  have hlt := h.active_lt_of_ne hne
  refine (animateViewOffsetToColumnCentered_returns g h.data_length hlt (Nat.le_of_lt hlt)).bind ?_
  rintro _ ⟨v, rfl⟩
  refine (Vec.getElem?_returns ?_).bind fun col _ => returns_pure (rearranged_of_cancel h v col)
  exact hlt

theorem centerWindow_returns [DecidableEq W] {window : Option W}
    (hmem : ∀ w ∈ window, w ∈ s.windowIds) : Returns (s.centerWindow g window) (Rearranged s) := by
  rw [centerWindow]
  refine returns_early (Rearranged.refl h) fun _ => ?_
  have hfound : Returns (window.elim (some s.activeColumnIdx) fun window =>
      s.columns.findIdx? fun col => col.contains window) fun _ => True := by
    cases window with
    | none => exact returns_some trivial
    | some w => exact (findColumn_returns (hmem w rfl)).mono fun _ _ => trivial
  refine hfound.bind fun i _ => ?_
  exact returns_early (Rearranged.refl h) (fun _ => centerColumn_returns g h)

theorem animateTwice_returns (hne : s.columns ≠ []) (offset : F) :
    Returns (do
      let s ← s.animateViewOffset g s.activeColumnIdx offset
      s.animateViewOffsetToColumn g s.activeColumnIdx none) (Rearranged s) := by
  have hlt := h.active_lt_of_ne hne
  have hdata := h.data_length
  refine (animateViewOffset_returns g offset (by omega) (by omega)).bind ?_
  rintro _ ⟨v, rfl⟩
  refine (animateViewOffsetToColumn_returns g none ?_ ?_ ?_).mono ?_
  · exact hdata
  · exact hlt
  · exact Nat.le_of_lt hlt
  rintro _ ⟨v', rfl⟩
  exact ⟨h, List.Perm.refl _⟩

theorem centerVisibleColumns_returns [DecidableEq W] :
    Returns (s.centerVisibleColumns g) (Rearranged s) := by
  rw [centerVisibleColumns]
  refine returns_early (Rearranged.refl h) fun hcond => ?_
  refine returns_early (Rearranged.refl h) fun _ => ?_
  have hne : s.columns ≠ [] := fun hempty => hcond (Or.inl hempty)
  refine (Vec.getElem?_returns (h.active_lt_of_ne hne)).bind fun col _ => ?_
  have hre := rearranged_of_cancel h s.viewOffset col
  exact (animateTwice_returns g hre.wellFormed hne _).mono fun _ hre' => hre.trans hre'

/-! ## Sizes -/

theorem resizeColumn_returns [DecidableEq W] {window : Option W}
    (hmem : ∀ w ∈ window, w ∈ s.windowIds)
    {f : Column W F → Option Nat → Option (Column W F)}
    (hf : ∀ (col : Column W F) (tileIdx : Option Nat), col.Coherent s.options →
      (∀ idx ∈ tileIdx, idx < col.tiles.length) →
      Returns (f col tileIdx) (Column.Kept s.options col)) :
    Returns (s.resizeColumn window f) (Rearranged s) := by
  rw [resizeColumn]
  refine returns_early (Rearranged.refl h) fun hne => ?_
  have htarget : Returns (window.elim (some (s.activeColumnIdx, none)) fun window =>
      (s.locate window).map fun p => (p.1, some p.2)) fun p : Nat × Option Nat =>
      ∃ col, s.columns[p.1]? = some col ∧ ∀ idx ∈ p.2, idx < col.tiles.length := by
    cases window with
    | none =>
      obtain ⟨col, hcol, -⟩ := h.activeColumn hne
      exact returns_some ⟨col, hcol, by simp⟩
    | some w =>
      refine (locate_returns (hmem w rfl)).map ?_
      rintro ⟨i, j⟩ ⟨-, col, hcol, hlt, -⟩
      refine ⟨col, hcol, ?_⟩
      rintro _ ⟨⟩
      exact hlt
  refine htarget.bind ?_
  rintro ⟨i, tileIdx⟩ ⟨col, hcol, hidx⟩
  refine (returns_of_eq hcol).bind ?_
  rintro _ rfl
  refine (hf col tileIdx (h.getElem?_coherent hcol) hidx).bind fun col' hkept => ?_
  refine returns_pure (ColumnSet.rearranged h ?_ hcol hkept.coherent hkept.ids_eq)
  exact ⟨rfl, rfl, rfl, rfl, fun r hr => (cancelResizeForColumn_mem hr).1⟩

theorem toggleWidth_returns [DecidableEq W] (forwards : Bool) :
    Returns (s.toggleWidth g forwards) (Rearranged s) :=
  resizeColumn_returns h (by simp) fun _ _ hcol hidx =>
    Column.toggleWidth_returns g hcol forwards hidx

theorem toggleFullWidth_returns [DecidableEq W] : Returns s.toggleFullWidth (Rearranged s) :=
  resizeColumn_returns h (by simp) fun _ _ hcol _ => Column.toggleFullWidth_returns hcol

theorem setWindowWidth_returns [DecidableEq W] {window : Option W}
    (hmem : ∀ w ∈ window, w ∈ s.windowIds) (change : SizeChange F) :
    Returns (s.setWindowWidth g window change) (Rearranged s) :=
  resizeColumn_returns h hmem fun _ _ hcol hidx =>
    Column.setColumnWidth_returns g hcol change hidx

theorem setWindowHeight_returns [DecidableEq W] {window : Option W}
    (hmem : ∀ w ∈ window, w ∈ s.windowIds) (change : SizeChange F) :
    Returns (s.setWindowHeight g window change) (Rearranged s) :=
  resizeColumn_returns h hmem fun _ _ hcol hidx =>
    Column.setWindowHeight_returns g hcol change hidx

theorem resetWindowHeight_returns [One F] [DecidableEq W] {window : Option W}
    (hmem : ∀ w ∈ window, w ∈ s.windowIds) : Returns (s.resetWindowHeight window) (Rearranged s) :=
  resizeColumn_returns h hmem fun _ _ hcol hidx => Column.resetWindowHeight_returns hcol hidx

theorem toggleWindowWidth_returns [DecidableEq W] {window : Option W}
    (hmem : ∀ w ∈ window, w ∈ s.windowIds) (forwards : Bool) :
    Returns (s.toggleWindowWidth g window forwards) (Rearranged s) :=
  resizeColumn_returns h hmem fun _ _ hcol hidx =>
    Column.toggleWidth_returns g hcol forwards hidx

theorem toggleWindowHeight_returns [DecidableEq W] {window : Option W}
    (hmem : ∀ w ∈ window, w ∈ s.windowIds) (forwards : Bool) :
    Returns (s.toggleWindowHeight g window forwards) (Rearranged s) :=
  resizeColumn_returns h hmem fun _ _ hcol hidx =>
    Column.toggleWindowHeight_returns g hcol forwards hidx

theorem expandColumnToAvailableWidth_returns [DecidableEq W] :
    Returns (s.expandColumnToAvailableWidth g) (Rearranged s) := by
  rw [expandColumnToAvailableWidth]
  refine returns_early (Rearranged.refl h) fun hne => ?_
  obtain ⟨col, hcol, hcoherent⟩ := h.activeColumn hne
  refine (returns_of_eq hcol).bind ?_
  rintro _ rfl
  refine returns_early (Rearranged.refl h) fun _ => ?_
  refine returns_ite (fun _ => toggleFullWidth_returns h) (fun _ => ?_)
  refine returns_early (Rearranged.refl h) fun _ => ?_
  refine returns_ite (fun _ => toggleFullWidth_returns h) (fun _ => ?_)
  have hexpanded : Column.Coherent s.options { col with
      width := .fixed (g.expandedWidth s), presetWidthIdx := none, isFullWidth := false } :=
    { hcoherent with presetWidth := by simp }
  refine (Column.updateTileSizes_returns hexpanded).bind fun col' hkept => ?_
  have hcs : ColumnSet s { s with
      columns := s.columns.set s.activeColumnIdx col'
      interactiveResize := cancelResizeForColumn s.interactiveResize col } s.activeColumnIdx col' :=
    ⟨rfl, rfl, rfl, rfl, fun r hr => (cancelResizeForColumn_mem hr).1⟩
  have hre := hcs.rearranged h hcol hkept.coherent hkept.ids_eq
  have hne' : s.columns.set s.activeColumnIdx col' ≠ [] := by
    rw [ne_eq, List.set_eq_nil_iff]
    exact hne
  exact (animateTwice_returns g hre.wellFormed hne' _).mono fun _ hre' => hre.trans hre'

/-! ## Gestures -/

theorem viewOffsetGestureBegin_rearranged (isTouchpad : Bool) :
    Rearranged s (s.viewOffsetGestureBegin isTouchpad) := by
  rw [viewOffsetGestureBegin]
  split
  · exact Rearranged.refl h
  · split
    · exact Rearranged.refl h
    · exact ⟨h, List.Perm.refl _⟩

theorem dndScrollGestureBegin_rearranged : Rearranged s s.dndScrollGestureBegin := by
  rw [dndScrollGestureBegin]
  split
  · exact Rearranged.refl h
  · exact ⟨Structured.withResize h (by simp), List.Perm.refl _⟩

end

section Snapping

variable [LT F] [DecidableLT F]

/-- A snapping point activates a column of the layout. -/
theorem snappingPoints_lt (hne : s.columns ≠ []) {snap : F × Nat}
    (hmem : snap ∈ s.snappingPoints g) : snap.2 < s.columns.length := by
  have hpos := List.length_pos_iff.mpr hne
  simp only [snappingPoints] at hmem
  split at hmem
  · obtain ⟨idx, hidx, rfl⟩ := List.mem_map.mp hmem
    exact List.mem_range.mp hidx
  · rcases List.mem_append.mp hmem with hends | hinside
    · rcases List.mem_pair.mp hends with rfl | rfl
      · exact hpos
      · exact Nat.sub_lt hpos Nat.one_pos
    · obtain ⟨idx, hidx, hmem⟩ := List.mem_flatMap.mp hinside
      obtain ⟨pos, -, rfl⟩ := List.mem_map.mp hmem
      exact List.mem_range.mp hidx

theorem snappingPoints_ne (hne : s.columns ≠ []) : s.snappingPoints g ≠ [] := by
  have hpos := List.length_pos_iff.mpr hne
  simp only [snappingPoints]
  split
  · rw [ne_eq, List.map_eq_nil_iff, List.range_eq_nil]
    omega
  · exact List.cons_ne_nil _ _

omit [LT F] [DecidableLT F] in
/-- The walk from the snapping point stays inside the layout. -/
theorem furthestInView_lt {snap : F × Nat} (hlt : snap.2 < s.columns.length) :
    s.furthestInView g snap < s.columns.length := by
  have hlast : ∀ l : List Nat, (∀ idx ∈ l, idx < s.columns.length) →
      (l.takeWhile fun idx => !g.notInView s snap.1 idx).getLastD snap.2 < s.columns.length := by
    intro l hl
    rcases List.mem_cons.mp (@List.getLastD_mem_cons _
      (l.takeWhile fun idx => !g.notInView s snap.1 idx) snap.2) with heq | hmem
    · rw [heq]
      exact hlt
    · exact hl _ ((List.takeWhile_sublist _).subset hmem)
  simp only [furthestInView]
  split
  · exact hlt
  · split
    · refine hlast _ fun idx hidx => ?_
      obtain ⟨-, hidx⟩ := List.mem_range'_1.mp hidx
      omega
    · refine hlast _ fun idx hidx => ?_
      have := List.mem_range.mp (List.mem_reverse.mp hidx)
      omega

theorem viewOffsetGestureEnd_returns [LE F] [DecidableLE F] (h : s.WellFormed)
    (isTouchpad : Option Bool) :
    Returns (s.viewOffsetGestureEnd g isTouchpad) fun p => Rearranged s p.1 := by
  rw [viewOffsetGestureEnd]
  split
  · refine returns_early (Rearranged.refl h) fun _ => ?_
    refine returns_early ⟨h, List.Perm.refl _⟩ fun hne => ?_
    have hpoints : ((s.snappingPoints g).mergeSort fun a b => decide (a.1 ≤ b.1)) ≠ [] := by
      intro hnil
      have hperm := List.mergeSort_perm (s.snappingPoints g) fun a b => decide (a.1 ≤ b.1)
      rw [hnil] at hperm
      exact snappingPoints_ne g hne hperm.symm.eq_nil
    refine (Vec.minByKey_returns _ hpoints).bind fun snap hsnap => ?_
    have hlt := furthestInView_lt g (snappingPoints_lt g hne (List.mem_mergeSort.mp hsnap))
    refine (animateViewOffsetToColumn_returns g none ?_ ?_ ?_).bind ?_
    · exact h.data_length
    · exact hlt
    · exact Nat.le_of_lt hlt
    rintro _ ⟨v, rfl⟩
    exact returns_pure ⟨Structured.withActive h hlt, List.Perm.refl _⟩
  · exact returns_some (Rearranged.refl h)

theorem dndScrollGestureEnd_returns [LE F] [DecidableLE F] (h : s.WellFormed) :
    Returns (s.dndScrollGestureEnd g) (Rearranged s) := by
  rw [dndScrollGestureEnd]
  split
  · refine returns_ite (fun _ => ?_) (fun _ => ?_)
    · refine returns_early ⟨h, List.Perm.refl _⟩ fun hne => ?_
      have hlt := h.active_lt_of_ne hne
      refine (animateViewOffsetToColumn_returns g none ?_ ?_ ?_).mono ?_
      · exact h.data_length
      · exact hlt
      · exact Nat.le_of_lt hlt
      rintro _ ⟨v, rfl⟩
      exact ⟨h, List.Perm.refl _⟩
    · exact (viewOffsetGestureEnd_returns g h none).map fun _ hre => hre
  · exact returns_some (Rearranged.refl h)

end Snapping

/-! ## Interactive resize -/

theorem interactiveResizeBegin_returns [DecidableEq W] (h : s.WellFormed) {window : W}
    (hmem : window ∈ s.windowIds) (edges : ResizeEdge) :
    Returns (s.interactiveResizeBegin window edges) fun p => Rearranged s p.1 := by
  rw [interactiveResizeBegin]
  refine returns_early (Rearranged.refl h) fun _ => ?_
  have hfound : Returns (s.columns.find? fun col => col.contains window) fun _ => True := by
    obtain ⟨i, -, -, col, hcol, hin⟩ := findColumn_returns hmem
    have hsome : (s.columns.find? fun col => col.contains window).isSome := by
      rw [List.find?_isSome]
      exact ⟨col, List.mem_of_getElem? hcol, Column.contains_iff.mpr hin⟩
    obtain ⟨found, hfound⟩ := Option.isSome_iff_exists.mp hsome
    exact ⟨found, hfound, trivial⟩
  refine hfound.bind fun col _ => ?_
  refine returns_early (Rearranged.refl h) (fun _ => returns_pure ?_)
  refine ⟨{ h with resize_mem := ?_ }, List.Perm.refl _⟩
  rintro _ ⟨⟩
  exact hmem

theorem resizeByEdges_returns (edges : ResizeEdge) {options : Options F} {col : Column W F}
    (hcol : col.Coherent options) {tileIdx : Nat} (hidx : tileIdx < col.tiles.length) :
    Returns (resizeByEdges g edges tileIdx col) fun col' =>
      col'.Coherent options ∧ col'.ids.Perm col.ids := by
  have hwidth : Returns (applyIf (edges.left || edges.right)
      (fun col => col.setColumnWidth g (.setFixed g.draggedSize.1) (some tileIdx)) col)
      (Column.Kept options col) :=
    applyIf_returns (fun _ => Column.setColumnWidth_returns g hcol _ (by simpa using hidx))
      fun _ => ⟨hcol, rfl⟩
  refine hwidth.bind fun col₁ hkept => ?_
  have hidx₁ : tileIdx < col₁.tiles.length := hkept.length_eq ▸ hidx
  refine applyIf_returns (fun _ => ?_) (fun _ => hkept.coherent_perm)
  exact (Column.setWindowHeight_returns g hkept.coherent _ (by simpa using hidx₁)).mono
    fun _ hkept' => ⟨hkept'.coherent, List.Perm.of_eq (hkept'.ids_eq.trans hkept.ids_eq)⟩

theorem interactiveResizeUpdate_returns [DecidableEq W] (h : s.WellFormed) (window : W) :
    Returns (s.interactiveResizeUpdate g window) fun p => Rearranged s p.1 := by
  rw [interactiveResizeUpdate]
  split
  · exact returns_some (Rearranged.refl h)
  · next resize hresize =>
    refine returns_early (Rearranged.refl h) fun hsame => ?_
    have hmem : window ∈ s.windowIds := by
      rw [not_not.mp hsame]
      exact h.resize_mem resize hresize
    refine (locate_returns hmem).bind ?_
    rintro ⟨i, j⟩ ⟨-, col, hcol, hlt, -⟩
    refine (onColumn_returns h hcol
      (resizeByEdges_returns g _ (h.getElem?_coherent hcol) hlt)).bind ?_
    rintro s' ⟨hre, -⟩
    exact returns_pure hre

theorem interactiveResizeEnd_returns [DecidableEq W] (h : s.WellFormed) (window : Option W) :
    Returns (s.interactiveResizeEnd g window) (Rearranged s) := by
  have hnone : ∀ v, Rearranged s { s with viewOffset := v, interactiveResize := none } :=
    fun _ => ⟨Structured.withResize h (by simp), List.Perm.refl _⟩
  unfold interactiveResizeEnd
  split
  · exact returns_some (Rearranged.refl h)
  · exact returns_some (hnone s.viewOffset)
  · next resize window hresize =>
    refine returns_early (Rearranged.refl h) fun _ => ?_
    have hne : s.columns ≠ [] := by
      intro hempty
      have hmem := h.resize_mem resize hresize
      simp [hempty] at hmem
    have hlt := h.active_lt_of_ne hne
    refine (Vec.getElem?_returns hlt).bind fun col _ => ?_
    have hview : Returns (applyIf (col.contains window)
        (fun s => s.animateViewOffsetToColumn g s.activeColumnIdx none) s)
        fun s' => ∃ v, s' = { s with viewOffset := v } :=
      applyIf_returns (fun _ => animateViewOffsetToColumn_returns g none h.data_length hlt
        (Nat.le_of_lt hlt)) fun _ => ⟨s.viewOffset, rfl⟩
    refine hview.bind ?_
    rintro _ ⟨v, rfl⟩
    exact returns_pure (hnone v)

end Cidre.Layout.ScrollingSpace
