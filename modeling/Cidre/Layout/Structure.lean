/-
  Cidre.Layout.Structure

  The structure of the scrolling layout and its operations.

  `WellFormed` is what every operation keeps.  It is stated of the parts the
  structure consists of, so that a change of the view alone is no change of it,
  and it says more than the indices need: no window is in the layout twice,
  without which a lookup by window could find another column than the one that
  was just changed.

  `arrangement` is what a layout shows: the windows, column by column.  The
  operations that add and remove are described by what they do to it.
-/

import Cidre.Layout.Scrolling

namespace Cidre.Layout

open Cidre.Panic

variable {W F : Type} (g : Geometry W F)

namespace ScrollingSpace

/-- The windows of the layout, column by column. -/
def arrangement (s : ScrollingSpace W F) : List (List W) := s.columns.map Column.ids

def windowIds (s : ScrollingSpace W F) : List W := s.arrangement.flatten

structure Structured (columns : List (Column W F)) (data : List (ColumnData F)) (active : Nat)
    (resize : Option (InteractiveResize W)) (options : Options F) : Prop where
  data_length : data.length = columns.length
  active_lt : active < columns.length ∨ (columns = [] ∧ active = 0)
  coherent : ∀ col ∈ columns, col.Coherent options
  nodup : (columns.map Column.ids).flatten.Nodup
  resize_mem : ∀ r ∈ resize, r.window ∈ (columns.map Column.ids).flatten

def WellFormed (s : ScrollingSpace W F) : Prop :=
  Structured s.columns s.data s.activeColumnIdx s.interactiveResize s.options

/-- The layout is well-formed and has the windows it had. -/
structure Rearranged (s s' : ScrollingSpace W F) : Prop where
  wellFormed : s'.WellFormed
  perm : s'.windowIds.Perm s.windowIds

variable {columns : List (Column W F)} {data : List (ColumnData F)} {active : Nat}
  {resize : Option (InteractiveResize W)} {options : Options F}

/-! ## Changes of the parts -/

namespace Structured

theorem active_lt_of_ne (h : Structured columns data active resize options) (hne : columns ≠ []) :
    active < columns.length :=
  h.active_lt.resolve_right fun hempty => hne hempty.1

theorem withResize (h : Structured columns data active resize options)
    {resize' : Option (InteractiveResize W)} (hsub : ∀ r ∈ resize', r ∈ resize) :
    Structured columns data active resize' options :=
  { h with resize_mem := fun r hr => h.resize_mem r (hsub r hr) }

theorem withActive (h : Structured columns data active resize options) {active' : Nat}
    (hlt : active' < columns.length) : Structured columns data active' resize options :=
  { h with active_lt := Or.inl hlt }

theorem getElem?_coherent (h : Structured columns data active resize options) {i : Nat}
    {col : Column W F} (hcol : columns[i]? = some col) : col.Coherent options :=
  h.coherent col (List.mem_of_getElem? hcol)

/-- The windows of a column beside those of the other columns. -/
theorem flatten_perm {i : Nat} {col : Column W F} (hcol : columns[i]? = some col) :
    (columns.map Column.ids).flatten.Perm
      (col.ids ++ ((columns.eraseIdx i).map Column.ids).flatten) := by
  have hget : (columns.map Column.ids)[i]? = some col.ids := by
    rw [List.getElem?_map, hcol]
    rfl
  rw [← List.eraseIdx_map]
  exact Vec.flatten_eraseIdx_perm hget

theorem flatten_set_perm {i : Nat} (hi : i < columns.length) (col' : Column W F) :
    ((columns.set i col').map Column.ids).flatten.Perm
      (col'.ids ++ ((columns.eraseIdx i).map Column.ids).flatten) := by
  rw [List.map_set, ← List.eraseIdx_map]
  exact Vec.flatten_set_perm (by simpa using hi) col'.ids

theorem flatten_insert_perm {i : Nat} (hi : i ≤ columns.length) (col : Column W F) :
    ((columns.insertIdx i col).map Column.ids).flatten.Perm
      (col.ids ++ (columns.map Column.ids).flatten) := by
  rw [List.map_insertIdx]
  exact Vec.flatten_insertIdx_perm (by simpa using hi) col.ids

theorem replaceColumn (h : Structured columns data active resize options) {i : Nat}
    {col' : Column W F} (hcoherent : col'.Coherent options) {data' : List (ColumnData F)}
    (hdata : data'.length = data.length) {resize' : Option (InteractiveResize W)}
    (hnodup : ((columns.set i col').map Column.ids).flatten.Nodup)
    (hresize : ∀ r ∈ resize', r.window ∈ ((columns.set i col').map Column.ids).flatten) :
    Structured (columns.set i col') data' active resize' options := by
  refine ⟨?_, ?_, ?_, hnodup, hresize⟩
  · rw [List.length_set, hdata, h.data_length]
  · rw [List.length_set, List.set_eq_nil_iff]
    exact h.active_lt
  · intro c hc
    rcases List.mem_or_eq_of_mem_set hc with hmem | rfl
    · exact h.coherent c hmem
    · exact hcoherent

/-- A column is replaced by one with the same windows. -/
theorem setColumn (h : Structured columns data active resize options) {i : Nat}
    {col col' : Column W F} (hcol : columns[i]? = some col) (hcoherent : col'.Coherent options)
    (hids : col'.ids.Perm col.ids) {data' : List (ColumnData F)}
    (hdata : data'.length = data.length) :
    Structured (columns.set i col') data' active resize options ∧
      ((columns.set i col').map Column.ids).flatten.Perm (columns.map Column.ids).flatten := by
  have hi := (List.getElem?_eq_some_iff.mp hcol).1
  have hperm := (flatten_set_perm hi col').trans
    ((hids.append_right _).trans (flatten_perm hcol).symm)
  exact ⟨h.replaceColumn hcoherent hdata (hperm.nodup_iff.mpr h.nodup)
    fun r hr => hperm.mem_iff.mpr (h.resize_mem r hr), hperm⟩

/-- A column gets a window the layout does not have. -/
theorem growColumn (h : Structured columns data active resize options) {i : Nat}
    {col col' : Column W F} (hcol : columns[i]? = some col) (hcoherent : col'.Coherent options)
    {window : W} (hids : col'.ids.Perm (window :: col.ids))
    (hfresh : window ∉ (columns.map Column.ids).flatten) {data' : List (ColumnData F)}
    (hdata : data'.length = data.length) :
    Structured (columns.set i col') data' active resize options ∧
      ((columns.set i col').map Column.ids).flatten.Perm
        (window :: (columns.map Column.ids).flatten) := by
  have hi := (List.getElem?_eq_some_iff.mp hcol).1
  have hperm := (flatten_set_perm hi col').trans
    ((hids.append_right _).trans ((flatten_perm hcol).symm.cons window))
  exact ⟨h.replaceColumn hcoherent hdata
    (hperm.nodup_iff.mpr (List.nodup_cons.mpr ⟨hfresh, h.nodup⟩))
    fun r hr => hperm.mem_iff.mpr (List.mem_cons_of_mem _ (h.resize_mem r hr)), hperm⟩

/-- A column loses a window, and with it goes its resize. -/
theorem shrinkColumn (h : Structured columns data active resize options) {i : Nat}
    {col col' : Column W F} (hcol : columns[i]? = some col) (hcoherent : col'.Coherent options)
    {window : W} (hids : col.ids.Perm (window :: col'.ids)) {data' : List (ColumnData F)}
    (hdata : data'.length = data.length) {resize' : Option (InteractiveResize W)}
    (hresize : ∀ r ∈ resize', r ∈ resize ∧ r.window ≠ window) :
    Structured (columns.set i col') data' active resize' options ∧
      (columns.map Column.ids).flatten.Perm
        (window :: ((columns.set i col').map Column.ids).flatten) := by
  have hi := (List.getElem?_eq_some_iff.mp hcol).1
  have hperm := (flatten_perm hcol).trans
    ((hids.append_right _).trans ((flatten_set_perm hi col').symm.cons window))
  refine ⟨h.replaceColumn hcoherent hdata
    (List.nodup_cons.mp (hperm.nodup_iff.mp h.nodup)).2 fun r hr => ?_, hperm⟩
  obtain ⟨hmem, hne⟩ := hresize r hr
  exact (List.mem_cons.mp (hperm.mem_iff.mp (h.resize_mem r hmem))).resolve_left hne

/-- A column with new windows is put in. -/
theorem insertColumn (h : Structured columns data active resize options) {i : Nat}
    {col : Column W F} (hi : i ≤ columns.length) (hcoherent : col.Coherent options)
    (hfresh : (col.ids ++ (columns.map Column.ids).flatten).Nodup)
    {data' : List (ColumnData F)} (hdata : data'.length = data.length + 1) {active' : Nat}
    (hactive : active' < columns.length + 1) :
    Structured (columns.insertIdx i col) data' active' resize options := by
  have hlen := List.length_insertIdx_of_le_length hi col
  have hperm := flatten_insert_perm hi col
  refine ⟨?_, Or.inl ?_, ?_, ?_, ?_⟩
  · rw [hdata, hlen, h.data_length]
  · rw [hlen]
    exact hactive
  · intro c hc
    rcases List.eq_or_mem_of_mem_insertIdx hc with rfl | hmem
    · exact hcoherent
    · exact h.coherent c hmem
  · exact hperm.nodup_iff.mpr hfresh
  · exact fun r hr => hperm.mem_iff.mpr (List.mem_append_right _ (h.resize_mem r hr))

/-- A column is taken out, and with it the resize of one of its windows. -/
theorem eraseColumn (h : Structured columns data active resize options) {i : Nat}
    {col : Column W F} (hcol : columns[i]? = some col) {data' : List (ColumnData F)}
    (hdata : data'.length = data.length - 1) {active' : Nat}
    (hactive : active' < columns.length - 1 ∨ (columns.length = 1 ∧ active' = 0))
    {resize' : Option (InteractiveResize W)}
    (hresize : ∀ r ∈ resize', r ∈ resize ∧ r.window ∉ col.ids) :
    Structured (columns.eraseIdx i) data' active' resize' options := by
  have hi := (List.getElem?_eq_some_iff.mp hcol).1
  have hlen := List.length_eraseIdx_of_lt hi
  have hperm := flatten_perm hcol
  refine ⟨?_, ?_, ?_, ?_, ?_⟩
  · rw [hdata, hlen, h.data_length]
  · rcases hactive with hlt | ⟨hone, hzero⟩
    · exact Or.inl (hlen ▸ hlt)
    · exact Or.inr ⟨List.eq_nil_of_length_eq_zero (by omega), hzero⟩
  · exact fun c hc => h.coherent c (List.mem_of_mem_eraseIdx hc)
  · exact (List.nodup_append.mp (hperm.nodup_iff.mp h.nodup)).2.1
  · intro r hr
    obtain ⟨hmem, hnot⟩ := hresize r hr
    exact (List.mem_append.mp (hperm.mem_iff.mp (h.resize_mem r hmem))).resolve_left hnot

end Structured

variable {s s' : ScrollingSpace W F}

theorem Rearranged.refl (h : s.WellFormed) : Rearranged s s := ⟨h, List.Perm.refl _⟩

theorem Rearranged.trans {s'' : ScrollingSpace W F} (h : Rearranged s s')
    (h' : Rearranged s' s'') : Rearranged s s'' :=
  ⟨h'.wellFormed, h'.perm.trans h.perm⟩

theorem length_arrangement (s : ScrollingSpace W F) : s.arrangement.length = s.columns.length :=
  List.length_map _

theorem arrangement_getElem? {i : Nat} {col : Column W F} (hcol : s.columns[i]? = some col) :
    s.arrangement[i]? = some col.ids := by
  rw [arrangement, List.getElem?_map, hcol]
  rfl

theorem getElem?_of_arrangement {i : Nat} {ids : List W} (h : s.arrangement[i]? = some ids) :
    ∃ col, s.columns[i]? = some col ∧ col.ids = ids := by
  rw [arrangement, List.getElem?_map] at h
  exact Option.map_eq_some_iff.mp h

theorem new_wellFormed (options : Options F) : (new options : ScrollingSpace W F).WellFormed where
  data_length := rfl
  active_lt := Or.inr ⟨rfl, rfl⟩
  coherent := fun _ hcol => absurd hcol List.not_mem_nil
  nodup := List.nodup_nil
  resize_mem := fun _ hr => absurd hr (by simp [new])

/-! ## The view -/

theorem animateViewOffset_returns {idx : Nat} (offset : F) (hidx : idx ≤ s.data.length)
    (hactive : s.activeColumnIdx ≤ s.data.length) :
    Returns (s.animateViewOffset g idx offset) fun s' => ∃ v, s' = { s with viewOffset := v } := by
  rw [animateViewOffset, if_pos ⟨hidx, hactive⟩]
  exact returns_early ⟨s.viewOffset, rfl⟩ (fun _ => returns_some ⟨_, rfl⟩)

theorem animateViewOffsetToColumn_returns {idx : Nat} (prevIdx : Option Nat)
    (hdata : s.data.length = s.columns.length) (hidx : idx < s.columns.length)
    (hactive : s.activeColumnIdx ≤ s.columns.length) :
    Returns (s.animateViewOffsetToColumn g idx prevIdx) fun s' =>
      ∃ v, s' = { s with viewOffset := v } := by
  refine (Vec.check_returns true hidx).bind fun _ _ => ?_
  exact animateViewOffset_returns g _ (by omega) (by omega)

theorem animateViewOffsetToColumnCentered_returns {idx : Nat}
    (hdata : s.data.length = s.columns.length) (hidx : idx < s.columns.length)
    (hactive : s.activeColumnIdx ≤ s.columns.length) :
    Returns (s.animateViewOffsetToColumnCentered g idx) fun s' =>
      ∃ v, s' = { s with viewOffset := v } := by
  refine (Vec.check_returns true hidx).bind fun _ _ => ?_
  exact animateViewOffset_returns g _ (by omega) (by omega)

theorem animateToRestored_returns {idx : Nat} (restored : Option F)
    (hidx : idx ≤ s.data.length) (hactive : s.activeColumnIdx ≤ s.data.length) :
    Returns (restored.elim (some s) fun offset => s.animateViewOffset g idx offset) fun s' =>
      ∃ v, s' = { s with viewOffset := v } := by
  cases restored with
  | none => exact returns_some ⟨s.viewOffset, rfl⟩
  | some offset => exact animateViewOffset_returns g offset hidx hactive

/-- Only the focus and the view may have changed, and a resize may be over. -/
structure Refocused (s s' : ScrollingSpace W F) : Prop where
  columns_eq : s'.columns = s.columns
  data_eq : s'.data = s.data
  options_eq : s'.options = s.options
  resize_sub : ∀ r ∈ s'.interactiveResize, r ∈ s.interactiveResize

theorem Structured.refocused {a : Nat}
    (h : Structured s.columns s.data a s.interactiveResize s.options) (hr : Refocused s s')
    (hlt : s'.activeColumnIdx < s.columns.length) : Rearranged s s' := by
  obtain ⟨hcolumns, hdata, hoptions, hresize⟩ := hr
  refine ⟨?_, ?_⟩
  · rw [WellFormed, hcolumns, hdata, hoptions]
    exact (h.withActive hlt).withResize hresize
  · rw [windowIds, windowIds, arrangement, hcolumns]
    exact List.Perm.refl _

theorem activateColumn_refocused {idx : Nat} (hdata : s.data.length = s.columns.length)
    (hidx : idx < s.columns.length) (hactive : s.activeColumnIdx ≤ s.columns.length) :
    Returns (s.activateColumn g idx) fun s' => Refocused s s' ∧ s'.activeColumnIdx = idx := by
  rw [activateColumn]
  refine returns_ite (fun hsame => ?_) (fun _ => ?_)
  · exact returns_some ⟨⟨rfl, rfl, rfl, fun _ hr => hr⟩, hsame.1⟩
  · refine (animateViewOffsetToColumn_returns g _ hdata hidx hactive).bind ?_
    rintro _ ⟨v, rfl⟩
    refine returns_ite (fun _ => ?_) (fun hsame => ?_)
    · exact returns_pure ⟨⟨rfl, rfl, rfl, fun _ hr => absurd hr (by simp)⟩, rfl⟩
    · exact returns_pure ⟨⟨rfl, rfl, rfl, fun _ hr => hr⟩, not_not.mp hsame⟩

theorem activateColumn_returns (h : s.WellFormed) {idx : Nat} (hidx : idx < s.columns.length) :
    Returns (s.activateColumn g idx) fun s' =>
      Rearranged s s' ∧ s'.arrangement = s.arrangement := by
  have hactive : s.activeColumnIdx ≤ s.columns.length := by
    rcases h.active_lt with hlt | ⟨-, hzero⟩
    · exact Nat.le_of_lt hlt
    · exact hzero ▸ Nat.zero_le _
  refine (activateColumn_refocused g h.data_length hidx hactive).mono ?_
  rintro s' ⟨hr, rfl⟩
  exact ⟨Structured.refocused h hr hidx, congrArg (List.map Column.ids) hr.columns_eq⟩

/-! ## Adding and removing -/

/-- The layout is well-formed, and has `ids` besides the windows it had. -/
structure Added (ids : List W) (s s' : ScrollingSpace W F) : Prop where
  wellFormed : s'.WellFormed
  perm : s'.windowIds.Perm (ids ++ s.windowIds)

/-- The layout is well-formed, and has the windows it had but for `ids`. -/
structure Removed (ids : List W) (s s' : ScrollingSpace W F) : Prop where
  wellFormed : s'.WellFormed
  perm : s.windowIds.Perm (ids ++ s'.windowIds)

theorem WellFormed.active_le (h : s.WellFormed) : s.activeColumnIdx ≤ s.columns.length := by
  rcases h.active_lt with hlt | ⟨-, hzero⟩
  · exact Nat.le_of_lt hlt
  · exact hzero ▸ Nat.zero_le _

/-- Where a new column goes, when the caller does not say. -/
theorem newColumnIdx_le (h : s.WellFormed) {idx : Option Nat}
    (hidx : ∀ i ∈ idx, i ≤ s.columns.length) :
    idx.getD (if s.columns.isEmpty then 0 else s.activeColumnIdx + 1) ≤ s.columns.length := by
  cases idx with
  | some i => exact hidx i rfl
  | none =>
    by_cases hempty : s.columns = []
    · simp [hempty]
    · have hlt := h.active_lt_of_ne hempty
      simp only [Option.getD_none, List.isEmpty_iff, if_neg hempty]
      omega

/-- The active column stays active when a column is put in. -/
theorem shifted_active_lt (h : s.WellFormed) (i : Nat) :
    (if (!s.columns.isEmpty && decide (i ≤ s.activeColumnIdx)) = true then s.activeColumnIdx + 1
      else s.activeColumnIdx) < s.columns.length + 1 := by
  by_cases hempty : s.columns = []
  · have hzero : s.activeColumnIdx = 0 := by
      rcases h.active_lt with hlt | ⟨-, hzero⟩
      · simp [hempty] at hlt
      · exact hzero
    simp [hempty, hzero]
  · have hlt := h.active_lt_of_ne hempty
    split <;> omega

theorem addColumn_returns [BEq F] (h : s.WellFormed) {idx : Option Nat}
    (hidx : ∀ i ∈ idx, i ≤ s.columns.length) {column : Column W F} {options : Options F}
    (hcolumn : column.Coherent options) (hfresh : (column.ids ++ s.windowIds).Nodup)
    (activate : Bool) :
    Returns (s.addColumn g idx column activate) fun s' =>
      Added column.ids s s' ∧
        s'.arrangement = s.arrangement.insertIdx
          (idx.getD (if s.columns.isEmpty then 0 else s.activeColumnIdx + 1)) column.ids := by
  have hile := newColumnIdx_le h hidx
  rw [addColumn]
  generalize idx.getD (if s.columns.isEmpty then 0 else s.activeColumnIdx + 1) = i at hile ⊢
  have hdata : i ≤ s.data.length := h.data_length ▸ hile
  refine (Column.updateConfig_returns g hcolumn s.options).bind fun col hkept => ?_
  refine (Vec.insert_returns _ hdata).bind ?_
  rintro _ rfl
  refine (Vec.insert_returns _ hile).bind ?_
  rintro _ rfl
  have harr : (s.columns.insertIdx i col).map Column.ids = s.arrangement.insertIdx i column.ids := by
    rw [List.map_insertIdx, hkept.ids_eq]
    rfl
  have hperm := hkept.ids_eq ▸ Structured.flatten_insert_perm hile col
  have hwf := Structured.insertColumn h hile hkept.coherent (by rw [hkept.ids_eq]; exact hfresh)
    (List.length_insertIdx_of_le_length hdata ⟨g.columnWidth col⟩) (shifted_active_lt h i)
  refine returns_ite (fun _ => ?_) (fun _ => ?_)
  · refine (activateColumn_returns g ?_ ?_).bind ?_
    · exact hwf
    · show i < (s.columns.insertIdx i col).length
      rw [List.length_insertIdx_of_le_length hile]
      omega
    · rintro s' ⟨hre, heq⟩
      exact returns_pure ⟨⟨hre.wellFormed, hre.perm.trans hperm⟩, heq.trans harr⟩
  · exact returns_pure ⟨⟨hwf, hperm⟩, harr⟩

theorem addTile_returns [One F] [BEq F] (h : s.WellFormed) {colIdx : Option Nat}
    (hidx : ∀ i ∈ colIdx, i ≤ s.columns.length) {tile : Tile W F} (hfresh : tile.id ∉ s.windowIds)
    (activate : Bool) (width : ColumnWidth F) (isFullWidth : Bool) :
    Returns (s.addTile g colIdx tile activate width isFullWidth) fun s' =>
      Added [tile.id] s s' ∧
        s'.arrangement = s.arrangement.insertIdx
          (colIdx.getD (if s.columns.isEmpty then 0 else s.activeColumnIdx + 1)) [tile.id] := by
  refine (Column.newWithTile_returns g tile width isFullWidth).bind ?_
  rintro column ⟨hcolumn, hids⟩
  rw [← hids]
  refine addColumn_returns g h hidx hcolumn ?_ activate
  rw [hids]
  exact List.nodup_cons.mpr ⟨hfresh, h.nodup⟩

@[simp] theorem shiftActive_tiles (col : Column W F) (tileIdx prevActive : Nat) :
    (shiftActive col tileIdx prevActive).tiles = col.tiles := by
  rw [shiftActive]
  split <;> rfl

/-- The active tile stays active, and the new tile can be activated. -/
theorem shiftActive_coherent {options : Options F} {col : Column W F} {prevActive : Nat}
    (h : col.Coherent options) (tileIdx : Nat) (hprev : prevActive + 1 < col.tiles.length)
    (hactive : col.activeTileIdx = prevActive) :
    (shiftActive col tileIdx prevActive).Coherent options := by
  rw [shiftActive]
  split
  · exact h.withActive (hactive ▸ hprev)
  · exact h

theorem addTileToColumn_returns [One F] (h : s.WellFormed) {colIdx : Nat} {col : Column W F}
    (hcol : s.columns[colIdx]? = some col) {tileIdx : Option Nat}
    (hidx : ∀ i ∈ tileIdx, i ≤ col.tiles.length) {tile : Tile W F} (hfresh : tile.id ∉ s.windowIds)
    (activate : Bool) :
    Returns (s.addTileToColumn g colIdx tileIdx tile activate) fun s' =>
      Added [tile.id] s s' ∧
        s'.arrangement = s.arrangement.set colIdx
          (col.ids.insertIdx (tileIdx.getD col.tiles.length) tile.id) := by
  have hcoherent := Structured.getElem?_coherent h hcol
  have hlt : colIdx < s.columns.length := (List.getElem?_eq_some_iff.mp hcol).1
  have ht : tileIdx.getD col.tiles.length ≤ col.tiles.length := by
    cases tileIdx with
    | none => exact Nat.le_refl _
    | some i => exact hidx i rfl
  rw [addTileToColumn]
  refine (returns_of_eq hcol).bind ?_
  rintro _ rfl
  generalize tileIdx.getD col.tiles.length = t at ht ⊢
  refine (Column.addTileAt_returns hcoherent.toFits tile ht (Nat.le_of_lt hcoherent.active_lt)).bind ?_
  rintro col' ⟨hcol', hids, hactive⟩
  have hlen : col'.tiles.length = col.tiles.length + 1 := by
    rw [← Column.length_ids, hids, List.length_insertIdx_of_le_length (by simpa using ht),
      Column.length_ids]
  have hshift := shiftActive_coherent hcol' t
    (by have := hcoherent.active_lt; omega) hactive
  refine (Vec.check_returns true (h.data_length ▸ hlt)).bind fun _ _ => ?_
  have hshiftIds : (shiftActive col' t col.activeTileIdx).ids = col.ids.insertIdx t tile.id := by
    rw [Column.ids, shiftActive_tiles]
    exact hids
  have hact : Returns (applyIf activate (fun col => (col.activateIdx t).map Prod.fst)
      (shiftActive col' t col.activeTileIdx))
      fun col'' => col''.Coherent s.options ∧ col''.ids = col.ids.insertIdx t tile.id := by
    refine applyIf_returns (fun _ => ?_) (fun _ => ⟨hshift, hshiftIds⟩)
    refine (Column.activateIdx_returns hshift ?_).map fun p hkept =>
      ⟨hkept.coherent, hkept.ids_eq.trans hshiftIds⟩
    rw [shiftActive_tiles]
    omega
  refine hact.bind ?_
  rintro col'' ⟨hcol'', hids''⟩
  have hgrow : col''.ids.Perm (tile.id :: col.ids) :=
    hids'' ▸ List.perm_insertIdx tile.id col.ids (by simpa using ht)
  have hdata : (s.data.set colIdx ⟨g.columnWidth col'⟩).length = s.data.length := List.length_set
  obtain ⟨hwf, hperm⟩ := Structured.growColumn h hcol hcol'' hgrow hfresh hdata
  have harr : (s.columns.set colIdx col'').map Column.ids =
      s.arrangement.set colIdx (col.ids.insertIdx t tile.id) := by
    rw [List.map_set, hids'']
    rfl
  refine returns_ite (fun _ => ?_) (fun _ => ?_)
  · refine (activateColumn_returns g ?_ ?_).mono ?_
    · exact hwf
    · rw [List.length_set]
      exact hlt
    · rintro s' ⟨hre, heq⟩
      exact ⟨⟨hre.wellFormed, hre.perm.trans hperm⟩, heq.trans harr⟩
  · exact returns_pure ⟨⟨hwf, hperm⟩, harr⟩

theorem Structured.withFocus {a : Nat}
    (h : Structured s.columns s.data a s.interactiveResize s.options) (hr : Refocused s s')
    (hlt : s'.activeColumnIdx < s.columns.length) :
    Rearranged s s' ∧ s'.arrangement = s.arrangement :=
  ⟨Structured.refocused h hr hlt, congrArg (List.map Column.ids) hr.columns_eq⟩

/-- After a removal the active index may be one past the columns that are left. -/
theorem activateAfterRemoval_returns {a columnIdx : Nat}
    (h : Structured s.columns s.data a s.interactiveResize s.options)
    (hactive : s.activeColumnIdx ≤ s.columns.length) :
    Returns (s.activateAfterRemoval g columnIdx) fun s' =>
      Rearranged s s' ∧ s'.arrangement = s.arrangement := by
  have hdata := h.data_length
  rw [activateAfterRemoval]
  refine returns_ite (fun hempty => ?_) (fun hne => ?_)
  · have hzero : s.activeColumnIdx = 0 := by simpa [hempty] using hactive
    exact returns_some ⟨⟨{ h with active_lt := Or.inr ⟨hempty, hzero⟩ }, List.Perm.refl _⟩, rfl⟩
  have hpos : 0 < s.columns.length := List.length_pos_iff.mpr hne
  refine returns_ite (fun hlt => ?_) (fun _ => returns_ite (fun hprev => ?_) (fun _ => ?_))
  · refine returns_some (h.withFocus ⟨rfl, rfl, rfl, fun _ hr => hr⟩ ?_)
    show s.activeColumnIdx - 1 < _
    omega
  · refine returns_ite (fun hgt => ?_) (fun hzero => ?_)
    · obtain ⟨prevOffset, hsome⟩ := Option.isSome_iff_exists.mp hprev.2
      refine (returns_of_eq hsome).bind ?_
      rintro _ rfl
      refine (activateColumn_refocused g hdata (by omega) hactive).bind ?_
      rintro s₁ ⟨hr, hs₁⟩
      refine (animateViewOffset_returns g prevOffset ?_ ?_).bind ?_
      · rw [hr.data_eq]
        omega
      · rw [hr.data_eq]
        omega
      rintro _ ⟨v, rfl⟩
      refine (animateViewOffsetToColumn_returns g none ?_ ?_ ?_).mono ?_
      · show s₁.data.length = s₁.columns.length
        rw [hr.data_eq, hr.columns_eq, hdata]
      · show s₁.activeColumnIdx < s₁.columns.length
        rw [hr.columns_eq]
        omega
      · show s₁.activeColumnIdx ≤ s₁.columns.length
        rw [hr.columns_eq]
        omega
      rintro _ ⟨v', rfl⟩
      refine h.withFocus ⟨hr.columns_eq, hr.data_eq, hr.options_eq, hr.resize_sub⟩ ?_
      show s₁.activeColumnIdx < _
      omega
    · refine returns_some (h.withFocus ⟨rfl, rfl, rfl, fun _ hr => hr⟩ ?_)
      omega
  · have hlt : min s.activeColumnIdx (s.columns.length - 1) < s.columns.length := by omega
    refine (activateColumn_refocused g hdata hlt hactive).mono ?_
    rintro s' ⟨hr, hidx⟩
    exact h.withFocus hr (hidx ▸ hlt)

theorem cancelResizeForColumn_mem [DecidableEq W] {resize : Option (InteractiveResize W)}
    {col : Column W F} {r : InteractiveResize W} (hr : r ∈ cancelResizeForColumn resize col) :
    r ∈ resize ∧ r.window ∉ col.ids := by
  cases resize with
  | none => exact absurd hr (by simp [cancelResizeForColumn])
  | some r' =>
    by_cases hc : col.contains r'.window = true
    · exact absurd hr (by simp [cancelResizeForColumn, hc])
    · obtain rfl : r' = r := by simpa [cancelResizeForColumn, hc] using hr
      exact ⟨rfl, fun hmem => hc (Column.contains_iff.mpr hmem)⟩

theorem stopResizeOf_mem [DecidableEq W] {resize : Option (InteractiveResize W)} {id : W}
    {r : InteractiveResize W} (hr : r ∈ stopResizeOf resize id) : r ∈ resize ∧ r.window ≠ id := by
  cases resize with
  | none => exact absurd hr (by simp [stopResizeOf])
  | some r' =>
    by_cases hid : id = r'.window
    · exact absurd hr (by simp [stopResizeOf, hid])
    · obtain rfl : r' = r := by simpa [stopResizeOf, hid] using hr
      exact ⟨rfl, fun heq => hid heq.symm⟩

theorem removeColumnByIdx_returns [DecidableEq W] (h : s.WellFormed) {columnIdx : Nat}
    {col : Column W F} (hcol : s.columns[columnIdx]? = some col) :
    Returns (s.removeColumnByIdx g columnIdx) fun p =>
      col = p.1 ∧ Removed col.ids s p.2 ∧
        p.2.arrangement = s.arrangement.eraseIdx columnIdx := by
  have hlt : columnIdx < s.columns.length := (List.getElem?_eq_some_iff.mp hcol).1
  have hdata : columnIdx < s.data.length := h.data_length ▸ hlt
  refine (Vec.remove_returns hlt).bind ?_
  rintro ⟨col', _⟩ ⟨hcol', rfl⟩
  obtain rfl : col = col' := Option.some.inj (hcol.symm.trans hcol')
  refine (Vec.remove_returns hdata).bind ?_
  rintro ⟨d, _⟩ ⟨-, rfl⟩
  have hlen : (s.columns.eraseIdx columnIdx).length = s.columns.length - 1 :=
    List.length_eraseIdx_of_lt hlt
  have hactive := h.active_lt_of_ne (List.ne_nil_of_length_pos (by omega))
  have hwf := Structured.eraseColumn h hcol (List.length_eraseIdx_of_lt hdata)
    (show 0 < s.columns.length - 1 ∨ s.columns.length = 1 ∧ 0 = 0 by omega)
    (fun r hr => cancelResizeForColumn_mem hr)
  refine (activateAfterRemoval_returns g (a := 0) ?_ ?_).bind ?_
  · exact hwf
  · show s.activeColumnIdx ≤ (s.columns.eraseIdx columnIdx).length
    omega
  rintro s' ⟨hre, heq⟩
  refine returns_pure ⟨rfl, ⟨hre.wellFormed, ?_⟩, heq.trans ?_⟩
  · exact (Structured.flatten_perm hcol).trans (hre.perm.symm.append_left col.ids)
  · show (s.columns.eraseIdx columnIdx).map Column.ids = _
    rw [← List.eraseIdx_map]
    rfl

theorem removeTileByIdx_returns [One F] [DecidableEq W] (h : s.WellFormed) {columnIdx tileIdx : Nat}
    (col : Column W F) (hcol : s.columns[columnIdx]? = some col)
    (htile : tileIdx < col.tiles.length) :
    Returns (s.removeTileByIdx g columnIdx tileIdx) fun p =>
      Removed [p.1.tile.id] s p.2 ∧ col.ids[tileIdx]? = some p.1.tile.id ∧
        p.2.arrangement =
          if col.tiles.length = 1 then s.arrangement.eraseIdx columnIdx
          else s.arrangement.set columnIdx (col.ids.eraseIdx tileIdx) := by
  have hlt : columnIdx < s.columns.length := (List.getElem?_eq_some_iff.mp hcol).1
  rw [removeTileByIdx]
  refine (returns_of_eq hcol).bind ?_
  rintro _ rfl
  refine returns_ite (fun hone => ?_) (fun hmany => ?_)
  · refine (removeColumnByIdx_returns g h hcol).bind ?_
    rintro ⟨_, s'⟩ ⟨rfl, hrem, heq⟩
    refine (Vec.remove_returns htile).bind ?_
    rintro ⟨tile, _⟩ ⟨hget, -⟩
    have hid : col.ids[tileIdx]? = some tile.id := by
      rw [Column.ids, List.getElem?_map, hget]
      rfl
    have hids : col.ids = [tile.id] := by
      obtain ⟨id, hsingle⟩ := List.length_eq_one_iff.mp ((Column.length_ids col).trans hone)
      rw [hsingle, List.getElem?_singleton] at hid
      split at hid
      · rw [hsingle, Option.some.inj hid]
      · exact absurd hid (by simp)
    refine returns_pure ⟨⟨hrem.wellFormed, ?_⟩, hid, ?_⟩
    · exact hids ▸ hrem.perm
    · rw [if_pos hone]
      exact heq
  · refine (Column.removeTileAt_returns (h.getElem?_coherent hcol) htile hmany).bind ?_
    rintro ⟨tile, col'⟩ ⟨hcol', hid, hids⟩
    refine (Vec.check_returns true (h.data_length ▸ hlt)).bind fun _ _ => ?_
    have hperm : col.ids.Perm (tile.id :: col'.ids) := by
      obtain ⟨hget, heq⟩ := List.getElem?_eq_some_iff.mp hid
      rw [hids, ← heq]
      exact (List.getElem_cons_eraseIdx_perm hget).symm
    have hdata : (s.data.set columnIdx ⟨g.columnWidth col'⟩).length = s.data.length :=
      List.length_set
    obtain ⟨hwf, hflat⟩ := Structured.shrinkColumn h hcol hcol' hperm hdata
      (fun r hr => stopResizeOf_mem hr)
    refine returns_pure ⟨⟨hwf, hflat⟩, hid, ?_⟩
    rw [if_neg hmany, ← hids]
    exact List.map_set

/-- A window of the layout is found in the column it is in. -/
theorem findColumn_returns [DecidableEq W] {window : W} (hmem : window ∈ s.windowIds) :
    Returns (s.columns.findIdx? fun col => col.contains window) fun i =>
      (s.columns.findIdx? fun col => col.contains window) = some i ∧
        ∃ col, s.columns[i]? = some col ∧ window ∈ col.ids := by
  obtain ⟨ids, hids, hin⟩ := List.mem_flatten.mp hmem
  obtain ⟨col, hcol, rfl⟩ := List.mem_map.mp hids
  have hsome : (s.columns.findIdx? fun col => col.contains window).isSome := by
    rw [List.findIdx?_isSome, List.any_eq_true]
    exact ⟨col, hcol, Column.contains_iff.mpr hin⟩
  obtain ⟨i, hi⟩ := Option.isSome_iff_exists.mp hsome
  obtain ⟨hlt, hcontains, -⟩ := List.findIdx?_eq_some_iff_getElem.mp hi
  exact ⟨i, hi, hi, s.columns[i], List.getElem?_eq_getElem hlt, Column.contains_iff.mp hcontains⟩

theorem locate_returns [DecidableEq W] {window : W} (hmem : window ∈ s.windowIds) :
    Returns (s.locate window) fun p =>
      (s.columns.findIdx? fun col => col.contains window) = some p.1 ∧
        ∃ col, s.columns[p.1]? = some col ∧ p.2 < col.tiles.length ∧ col.ids[p.2]? = some window := by
  refine (findColumn_returns hmem).bind ?_
  rintro i ⟨hfind, col, hcol, hin⟩
  refine (returns_of_eq hcol).bind ?_
  rintro _ rfl
  refine (Column.position_returns hin).bind fun j hj => ?_
  exact returns_pure ⟨hfind, col, hcol, hj⟩

theorem removeTile_returns [One F] [DecidableEq W] (h : s.WellFormed) {window : W}
    (hmem : window ∈ s.windowIds) :
    Returns (s.removeTile g window) fun p => p.1.tile.id = window ∧ Removed [window] s p.2 := by
  refine (locate_returns hmem).bind ?_
  rintro ⟨i, j⟩ ⟨-, col, hcol, hlt, hid⟩
  refine (removeTileByIdx_returns g h col hcol hlt).mono ?_
  rintro ⟨removed, s'⟩ ⟨hrem, hid', -⟩
  obtain rfl : window = removed.tile.id := Option.some.inj (hid.symm.trans hid')
  exact ⟨rfl, hrem⟩

/-- The active column, where there are columns. -/
theorem WellFormed.activeColumn (h : s.WellFormed) (hne : s.columns ≠ []) :
    ∃ col, s.columns[s.activeColumnIdx]? = some col ∧ col.Coherent s.options := by
  have hlt := h.active_lt_of_ne hne
  have hcol : s.columns[s.activeColumnIdx]? = some s.columns[s.activeColumnIdx] :=
    List.getElem?_eq_getElem hlt
  exact ⟨_, hcol, h.getElem?_coherent hcol⟩

theorem removeActiveTile_returns [One F] [DecidableEq W] (h : s.WellFormed) :
    Returns (s.removeActiveTile g) fun p =>
      Removed (p.1.map fun removed => removed.tile.id).toList s p.2 := by
  rw [removeActiveTile]
  refine returns_early ⟨h, List.Perm.refl _⟩ fun hne => ?_
  obtain ⟨col, hcol, hcoherent⟩ := h.activeColumn hne
  refine (returns_of_eq hcol).bind ?_
  rintro _ rfl
  refine (removeTileByIdx_returns g h col hcol hcoherent.active_lt).bind ?_
  rintro ⟨removed, s'⟩ ⟨hrem, -⟩
  exact returns_pure hrem

theorem removeActiveColumn_returns [DecidableEq W] (h : s.WellFormed) :
    Returns (s.removeActiveColumn g) fun p =>
      Removed ((p.1.map Column.ids).getD []) s p.2 ∧ ∀ col ∈ p.1, col ∈ s.columns := by
  rw [removeActiveColumn]
  refine returns_early ⟨⟨h, List.Perm.refl _⟩, by simp⟩ fun hne => ?_
  obtain ⟨col, hcol, -⟩ := h.activeColumn hne
  refine (removeColumnByIdx_returns g h hcol).bind ?_
  rintro ⟨_, s'⟩ ⟨rfl, hrem, -⟩
  refine returns_pure ⟨hrem, ?_⟩
  rintro _ ⟨⟩
  exact List.mem_of_getElem? hcol

/-! ## Operations on one column -/

theorem onColumn_returns (h : s.WellFormed) {colIdx : Nat} {col : Column W F}
    (hcol : s.columns[colIdx]? = some col) {f : Column W F → Option (Column W F)}
    (hf : Returns (f col) fun col' => col'.Coherent s.options ∧ col'.ids.Perm col.ids) :
    Returns (s.onColumn colIdx f) fun s' =>
      Rearranged s s' ∧ s'.columns.length = s.columns.length := by
  refine (returns_of_eq hcol).bind ?_
  rintro _ rfl
  refine hf.bind ?_
  rintro col' ⟨hcol', hids⟩
  obtain ⟨hwf, hperm⟩ := Structured.setColumn h hcol hcol' hids rfl
  exact returns_pure ⟨⟨hwf, hperm⟩, List.length_set⟩

theorem onActiveColumn_returns (h : s.WellFormed) {f : Column W F → Option (Column W F)}
    (hf : ∀ col : Column W F, col.Coherent s.options →
      Returns (f col) fun col' => col'.Coherent s.options ∧ col'.ids.Perm col.ids) :
    Returns (s.onActiveColumn f) (Rearranged s) := by
  rw [onActiveColumn]
  refine returns_early (Rearranged.refl h) fun hne => ?_
  obtain ⟨col, hcol, hcoherent⟩ := h.activeColumn hne
  exact (onColumn_returns h hcol (hf col hcoherent)).mono fun _ hre => hre.1

end ScrollingSpace

end Cidre.Layout
