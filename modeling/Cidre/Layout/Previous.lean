/-
  Cidre.Layout.Previous

  Closing a column that was just opened goes back to the column it was opened
  from.

  That column is remembered by a flag only: it is the one on the left of the
  active column.  `edit` says where an operation puts a column in or takes one
  out, and so where every other column is afterwards (`RowEdit.index`); an
  operation is calm if it leaves the active column active and touches the row
  neither between the two columns nor on their left by a removal.  A calm
  operation keeps the flag and the two columns side by side; a run of them ends
  in a removal that activates the column on the left.
-/

import Cidre.Layout.Editing
import Cidre.Layout.Modes
import Cidre.Lib.Paired

namespace Cidre.Layout

open Cidre.Panic

variable {W F : Type} (g : Geometry W F)

/-! ## Edits of a row -/

/-- A column only gains windows, or it only loses some and keeps others. -/
def Evolves (ids ids' : List W) : Prop := ids ⊆ ids' ∨ ids' ≠ [] ∧ ids' ⊆ ids

theorem Evolves.refl (ids : List W) : Evolves ids ids := Or.inl (List.Subset.refl ids)

/-- The column that an operation puts in or takes out. -/
inductive RowEdit where
  | keep
  | insert (idx : Nat)
  | erase (idx : Nat)

namespace RowEdit

/-- Where the column at `i` is afterwards. -/
def index : RowEdit → Nat → Nat
  | keep, i => i
  | insert idx, i => if idx ≤ i then i + 1 else i
  | erase idx, i => if idx < i then i - 1 else i

/-- Neither the active column nor one on its left is taken out, and none is put
    in on the left of the active column and beside it. -/
def Spares (active : Nat) : RowEdit → Prop
  | keep => True
  | insert idx => idx ≠ active
  | erase idx => active < idx

/-- The row `columns'` is `columns` after the edit. -/
def Made (e : RowEdit) (columns columns' : List (List W)) : Prop :=
  ∃ kept, List.Forall₂ Evolves columns kept ∧
    match e with
    | keep => columns' = kept
    | insert idx => idx ≤ kept.length ∧ ∃ new, columns' = kept.insertIdx idx new
    | erase idx => idx < kept.length ∧ columns' = kept.eraseIdx idx

/-- The row is edited, the active column stays active, and whether the column on
    its left is to follow it stays as it is. -/
structure Follows (e : RowEdit) (r r' : Row W F) : Prop where
  made : e.Made r.columns r'.columns
  active_eq : r'.active = e.index r.active
  prev_eq : r'.prev = r.prev

/-- The column on the left of a spared one stays on its left. -/
theorem Spares.index_succ {e : RowEdit} {i : Nat} (h : e.Spares (i + 1)) :
    e.index (i + 1) = e.index i + 1 := by
  cases e with
  | keep => rfl
  | insert idx =>
    have hne : idx ≠ i + 1 := h
    simp only [index]
    split <;> split <;> omega
  | erase idx =>
    have hlt : i + 1 < idx := h
    simp only [index]
    rw [if_neg (by omega), if_neg (by omega)]

end RowEdit

namespace Row

def insert (r : Row W F) (i : Nat) (ids : List W) : Row W F :=
  { r with
    columns := r.columns.insertIdx i ids
    active := if i ≤ r.active then r.active + 1 else r.active }

/-- The column at `i`, on the right of the active one, is taken out. -/
def erase (r : Row W F) (i : Nat) : Row W F :=
  { r with columns := r.columns.eraseIdx i }

/-- One column has evolved. -/
def Changed (r r' : Row W F) (i : Nat) : Prop :=
  ∃ ids ids', r.columns[i]? = some ids ∧ Evolves ids ids' ∧ r' = r.set i ids'

variable {r r₁ r₂ : Row W F} {i j : Nat}

theorem forall₂_set {columns : List (List W)} {ids ids' : List W} (hi : columns[i]? = some ids)
    (h : Evolves ids ids') : List.Forall₂ Evolves columns (columns.set i ids') :=
  Paired.set Evolves.refl hi h

theorem follows_refl (r : Row W F) : RowEdit.keep.Follows r r :=
  ⟨⟨r.columns, List.forall₂_same.mpr fun ids _ => Evolves.refl ids, rfl⟩, rfl, rfl⟩

theorem follows_insert (hi : i ≤ r.columns.length) (ids : List W) :
    (RowEdit.insert i).Follows r (r.insert i ids) :=
  ⟨⟨r.columns, List.forall₂_same.mpr fun ids _ => Evolves.refl ids, hi, ids, rfl⟩, rfl, rfl⟩

theorem follows_erase (hi : i < r.columns.length) (hactive : r.active < i) :
    (RowEdit.erase i).Follows r (r.erase i) :=
  ⟨⟨r.columns, List.forall₂_same.mpr fun ids _ => Evolves.refl ids, hi, rfl⟩,
    (if_neg (Nat.not_lt_of_lt hactive)).symm, rfl⟩

theorem Changed.length_eq (h : Changed r r₁ i) : r₁.columns.length = r.columns.length := by
  obtain ⟨ids, ids', -, -, rfl⟩ := h
  exact List.length_set

theorem Changed.follows (h : Changed r r₁ i) : RowEdit.keep.Follows r r₁ := by
  obtain ⟨ids, ids', hi, hevolves, rfl⟩ := h
  exact ⟨⟨_, forall₂_set hi hevolves, rfl⟩, rfl, rfl⟩

/-- A window leaves a column for one of its own. -/
theorem Changed.insert (h : Changed r r₁ i) (hj : j ≤ r.columns.length) (ids : List W) :
    (RowEdit.insert j).Follows r (r₁.insert j ids) := by
  obtain ⟨old, new, hi, hevolves, rfl⟩ := h
  refine ⟨⟨r.columns.set i new, forall₂_set hi hevolves, ?_, ids, rfl⟩, rfl, rfl⟩
  rw [List.length_set]
  exact hj

/-- A window leaves a column for another one. -/
theorem Changed.changed (h₁ : Changed r r₁ i) (h₂ : Changed r₁ r₂ j) (hne : i ≠ j) :
    RowEdit.keep.Follows r r₂ := by
  obtain ⟨old, new, hi, hevolves, rfl⟩ := h₁
  obtain ⟨old', new', hj, hevolves', rfl⟩ := h₂
  have hj' : r.columns[j]? = some old' := by
    rw [← hj]
    exact (List.getElem?_set_ne hne).symm
  have hset := Paired.set_right (forall₂_set hi hevolves) hj' hevolves'
  exact ⟨⟨_, hset, rfl⟩, rfl, rfl⟩

/-- A column is taken out, and its window goes to another one. -/
theorem Changed.erase (h : Changed (r.erase i) r₁ j) (hi : i < r.columns.length)
    (hactive : r.active < i) : (RowEdit.erase i).Follows r r₁ := by
  obtain ⟨old, new, hj, hevolves, rfl⟩ := h
  have hindex : r.active = (RowEdit.erase i).index r.active :=
    (if_neg (Nat.not_lt_of_lt hactive)).symm
  -- `k` is where the other column was before.
  obtain ⟨k, hk, hset⟩ : ∃ k, r.columns[k]? = some old ∧
      (r.columns.eraseIdx i).set j new = (r.columns.set k new).eraseIdx i := by
    rcases Nat.lt_or_ge j i with hlt | hge
    · refine ⟨j, ?_, List.set_eraseIdx_gt hlt⟩
      rw [← hj]
      exact (List.getElem?_eraseIdx_of_lt hlt).symm
    · refine ⟨j + 1, ?_, List.set_eraseIdx_le hge⟩
      rw [← hj]
      exact (List.getElem?_eraseIdx_of_ge hge).symm
  refine ⟨⟨r.columns.set k new, forall₂_set hk hevolves, ?_, hset⟩, hindex, rfl⟩
  rw [List.length_set]
  exact hi

end Row

namespace Column

theorem addTileAt_ids [One F] (col : Column W F) (idx : Nat) (tile : Tile W F) :
    Ensures (col.addTileAt idx tile) fun col' => col'.ids = col.ids.insertIdx idx tile.id :=
  fun _ h => congrArg Prod.fst (addTileAt_cell h)

theorem ids_shiftActive (col : Column W F) (tileIdx prevActive : Nat) :
    (ScrollingSpace.shiftActive col tileIdx prevActive).ids = col.ids := by
  rw [ids, ScrollingSpace.shiftActive_tiles]
  rfl

/-- A column that keeps other tiles evolves when one is taken out. -/
theorem removeTileAt_evolves [One F] (col : Column W F) (tileIdx : Nat)
    (hmany : col.tiles.length ≠ 1) :
    Ensures (col.removeTileAt tileIdx) fun p => Evolves col.ids p.2.ids := by
  rintro ⟨tile, col'⟩ h
  obtain ⟨hget, hcell⟩ := removeTileAt_cell h
  have hids : col'.ids = col.ids.eraseIdx tileIdx := congrArg Prod.fst hcell
  have hlt : tileIdx < col.ids.length := (List.getElem?_eq_some_iff.mp hget).1
  have hlen : (col.ids.eraseIdx tileIdx).length = col.ids.length - 1 :=
    List.length_eraseIdx_of_lt hlt
  have hmany' : col.ids.length ≠ 1 := by rwa [length_ids]
  refine Or.inr ⟨?_, ?_⟩
  · show col'.ids ≠ []
    rw [hids]
    exact List.ne_nil_of_length_pos (by omega)
  · show col'.ids ⊆ col.ids
    rw [hids]
    exact List.eraseIdx_subset

/-- The tiles of a column change places. -/
theorem moveTo_evolves (col : Column W F) (newIdx : Nat) :
    Ensures (col.moveTo newIdx) fun p => Evolves col.ids p.1.ids := by
  rintro ⟨col', moved⟩ h
  rcases moveTo_cell h with ⟨-, rfl⟩ | ⟨-, a, b, ha, hb, hcell⟩
  · exact Evolves.refl _
  · have hids : col'.ids = (col.ids.set col.activeTileIdx b).set newIdx a := congrArg Prod.fst hcell
    have hlt : newIdx < col.ids.length := (List.getElem?_eq_some_iff.mp hb).1
    refine Or.inr ⟨?_, fun w hw => ?_⟩
    · show col'.ids ≠ []
      rw [hids]
      exact List.ne_nil_of_length_pos (by rw [List.length_set, List.length_set]; omega)
    · have hw' : w ∈ (col.ids.set col.activeTileIdx b).set newIdx a := hids ▸ hw
      rcases List.mem_or_eq_of_mem_set hw' with hw' | rfl
      · rcases List.mem_or_eq_of_mem_set hw' with hw' | rfl
        · exact hw'
        · exact List.mem_of_getElem? hb
      · exact List.mem_of_getElem? ha

end Column

namespace ScrollingSpace

/-! ## Where an operation puts a column in or takes one out -/

/-- Where `add_column` puts a column. -/
def newColumnIdx (s : ScrollingSpace W F) (idx : Option Nat) : Nat :=
  idx.getD (if s.columns.isEmpty then 0 else s.activeColumnIdx + 1)

/-- The column at `i` has one tile. -/
def alone (s : ScrollingSpace W F) (i : Nat) : Bool :=
  s.columns[i]?.any fun col => col.tiles.length == 1

/-- A tile is taken out of the column at `i`. -/
def removal (s : ScrollingSpace W F) (i : Nat) : RowEdit :=
  if s.alone i then .erase i else .keep

/-- What `set_fullscreen` and `set_maximized` do: a window that shares a normal
    column gets one of its own. -/
def extraction [DecidableEq W] (s : ScrollingSpace W F) (pending : Column W F → Bool) (window : W)
    (value : Bool) : RowEdit :=
  match s.columns.findIdx? fun col => col.contains window with
  | none => .keep
  | some i =>
      if s.columns[i]?.any fun col => value != pending col && value &&
          decide (1 < col.tiles.length) && decide (col.displayMode ≠ .tabbed) then .insert (i + 1)
      else .keep

/-- The column that an operation puts in or takes out, where it is not one that
    moves columns. -/
def edit [DecidableEq W] (s : ScrollingSpace W F) : Op W F → RowEdit
  | .addTile colIdx _ _ _ _ => .insert (s.newColumnIdx colIdx)
  | .addTileRightOf rightOf _ _ _ _ =>
      match s.columns.findIdx? fun col => col.contains rightOf with
      | none => .keep
      | some i => .insert (i + 1)
  | .removeActiveTile => s.removal s.activeColumnIdx
  | .removeTile window =>
      match s.locate window with
      | none => .keep
      | some p => s.removal p.1
  | .removeTileByIdx columnIdx _ => s.removal columnIdx
  | .removeActiveColumn => if s.columns.isEmpty then .keep else .erase s.activeColumnIdx
  | .removeColumnByIdx columnIdx => .erase columnIdx
  | .consumeOrExpelWindowLeft window =>
      match s.sourceTile window with
      | none => .keep
      | some p =>
          if !s.alone p.1 then .insert p.1 else if p.1 = 0 then .keep else .erase p.1
  | .consumeOrExpelWindowRight window =>
      match s.sourceTile window with
      | none => .keep
      | some p =>
          if !s.alone p.1 then .insert (p.1 + 1)
          else if p.1 + 1 = s.columns.length then .keep else .erase p.1
  | .consumeIntoColumn =>
      if s.activeColumnIdx + 1 < s.columns.length then s.removal (s.activeColumnIdx + 1) else .keep
  | .expelFromColumn =>
      if s.columns.isEmpty || s.alone s.activeColumnIdx then .keep
      else .insert (s.activeColumnIdx + 1)
  | .setFullscreen window isFullscreen =>
      s.extraction Column.isPendingFullscreen window isFullscreen
  | .setMaximized window maximize => s.extraction Column.isPendingMaximized window maximize
  | _ => .keep

theorem alone_eq {s : ScrollingSpace W F} {i : Nat} {col : Column W F}
    (hcol : s.columns[i]? = some col) : s.alone i = decide (col.tiles.length = 1) := by
  rw [alone, hcol]
  rfl

/-! ## Adding and removing -/

variable {s : ScrollingSpace W F}

theorem addColumn_row [BEq F] (hne : s.columns ≠ []) (idx : Option Nat) (column : Column W F) :
    Ensures (s.addColumn g idx column false) fun s' =>
      s.newColumnIdx idx ≤ s.row.columns.length ∧
        s'.row = s.row.insert (s.newColumnIdx idx) column.ids := by
  refine (Column.updateConfig_steady g column s.options).bind fun col hsteady => ?_
  refine (ensures_true _).bind fun data _ => (ensures_self _).bind fun columns hcolumns => ?_
  obtain ⟨hle, rfl⟩ := Vec.insert_eq hcolumns
  have hempty : s.columns.isEmpty = false := List.isEmpty_eq_false_iff.mpr hne
  refine ensures_pure ⟨?_, ?_⟩
  · rw [length_row]
    exact hle
  · refine Row.ext ?_ ?_ rfl
    · show List.map _ (List.insertIdx _ _ _) = _
      rw [List.map_insertIdx, hsteady.ids]
      rfl
    · show (if (!s.columns.isEmpty && decide (s.newColumnIdx idx ≤ s.activeColumnIdx)) = true
        then _ else _) = _
      simp only [hempty, Bool.not_false, Bool.true_and, decide_eq_true_eq]
      rfl

theorem addTile_row [One F] [BEq F] (hne : s.columns ≠ []) (colIdx : Option Nat) (tile : Tile W F)
    (width : ColumnWidth F) (isFullWidth : Bool) :
    Ensures (s.addTile g colIdx tile false width isFullWidth) fun s' =>
      s.newColumnIdx colIdx ≤ s.row.columns.length ∧
        ∃ ids, s'.row = s.row.insert (s.newColumnIdx colIdx) ids :=
  (ensures_true _).bind fun column _ => (addColumn_row g hne colIdx column).mono
    fun _ h => ⟨h.1, column.ids, h.2⟩

theorem addTileToColumn_changed [One F] {colIdx : Nat} (tileIdx : Option Nat) (tile : Tile W F)
    {activate : Bool} (hactive : activate = true → colIdx = s.activeColumnIdx) :
    Ensures (s.addTileToColumn g colIdx tileIdx tile activate) fun s' =>
      s.row.Changed s'.row colIdx := by
  refine (ensures_self _).bind fun col hcol => ?_
  refine (Column.addTileAt_ids col _ tile).bind fun col₁ hids₁ => (ensures_true _).bind fun _ _ => ?_
  have hshifted : (shiftActive col₁ (tileIdx.getD col.tiles.length) col.activeTileIdx).ids =
      col₁.ids := Column.ids_shiftActive _ _ _
  have hactivated : Ensures (applyIf activate
      (fun col' => (col'.activateIdx (tileIdx.getD col.tiles.length)).map Prod.fst)
      (shiftActive col₁ (tileIdx.getD col.tiles.length) col.activeTileIdx))
      fun col' => col'.ids = col₁.ids :=
    applyIf_ensures (fun _ => (Column.activateIdx_steady _ _).map fun _ h => h.ids.trans hshifted)
      (fun _ => hshifted)
  refine hactivated.bind fun col₂ hids₂ => ?_
  refine ensures_ite (fun hne => absurd (hactive hne.1).symm hne.2) (fun _ => ?_)
  refine ensures_pure ⟨col.ids, col₂.ids, arrangement_getElem? hcol, Or.inl ?_, ?_⟩
  · rw [hids₂, hids₁]
    exact List.subset_insertIdx _ _ _
  · exact row_set rfl rfl rfl

theorem removeColumnByIdx_row [DecidableEq W] {i : Nat} (hactive : s.activeColumnIdx < i) :
    Ensures (s.removeColumnByIdx g i) fun p =>
      i < s.row.columns.length ∧ p.2.row = s.row.erase i := by
  refine (ensures_self _).bind ?_
  rintro ⟨column, columns⟩ hcolumns
  obtain ⟨hget, rfl⟩ := Vec.remove_eq hcolumns
  have hlt : i < s.columns.length := (List.getElem?_eq_some_iff.mp hget).1
  have hlen : (s.columns.eraseIdx i).length = s.columns.length - 1 := List.length_eraseIdx_of_lt hlt
  refine (ensures_true _).bind fun data _ => ?_
  have hafter : Ensures (activateAfterRemoval g { s with
      columns := s.columns.eraseIdx i
      data := data.2
      interactiveResize := cancelResizeForColumn s.interactiveResize column
      activatePrevColumnOnRemoval :=
        if i + 1 = s.activeColumnIdx then none else s.activatePrevColumnOnRemoval
      viewOffsetToRestore := if i = s.activeColumnIdx then none else s.viewOffsetToRestore } i)
      fun s' => s'.row = s.row.erase i := by
    have hrow : ∀ s₁ : ScrollingSpace W F, s₁.columns = s.columns.eraseIdx i →
        s₁.activeColumnIdx = s.activeColumnIdx → s₁.activatePrevColumnOnRemoval =
          (if i + 1 = s.activeColumnIdx then none else s.activatePrevColumnOnRemoval) →
        s₁.row = s.row.erase i := by
      intro s₁ hcolumns₁ hactive₁ hprev₁
      rw [if_neg (by omega)] at hprev₁
      rw [row, arrangement, hcolumns₁, hactive₁, hprev₁, ← List.eraseIdx_map]
      rfl
    refine ensures_early (hrow _ rfl rfl rfl) fun _ => ?_
    refine ensures_ite (fun hleft => ?_) (fun _ => ?_)
    · exact absurd hleft (Nat.not_lt_of_lt hactive)
    refine ensures_ite (fun hsame => ?_) (fun _ => ?_)
    · exact absurd hsame.1 (Nat.ne_of_gt hactive)
    refine (activateColumn_row g ?_).mono fun s' h => h.trans (hrow _ rfl rfl rfl)
    show s.activeColumnIdx = min s.activeColumnIdx ((s.columns.eraseIdx i).length - 1)
    omega
  refine hafter.bind fun s' h => ensures_pure ⟨?_, h⟩
  rw [length_row]
  exact hlt

theorem removeTileByIdx_row [One F] [DecidableEq W] {i : Nat} (j : Nat) (halone : s.alone i = true)
    (hactive : s.activeColumnIdx < i) :
    Ensures (s.removeTileByIdx g i j) fun p =>
      i < s.row.columns.length ∧ p.2.row = s.row.erase i := by
  refine (ensures_self _).bind fun column hcolumn => ?_
  rw [alone_eq hcolumn] at halone
  refine ensures_ite (fun _ => ?_) (fun hmany => absurd (of_decide_eq_true halone) hmany)
  refine (removeColumnByIdx_row g hactive).bind fun p hp => ?_
  exact (ensures_true _).bind fun _ _ => ensures_pure hp

theorem removeTileByIdx_changed [One F] [DecidableEq W] {i : Nat} (j : Nat)
    (hmany : s.alone i = false) :
    Ensures (s.removeTileByIdx g i j) fun p => s.row.Changed p.2.row i := by
  refine (ensures_self _).bind fun column hcolumn => ?_
  rw [alone_eq hcolumn] at hmany
  refine ensures_ite (fun hone => absurd hone (of_decide_eq_false hmany)) (fun hmany => ?_)
  refine (Column.removeTileAt_evolves column j hmany).bind fun p hp => ?_
  refine (ensures_true _).bind fun _ _ => ensures_pure ?_
  exact ⟨column.ids, p.2.ids, arrangement_getElem? hcolumn, hp, row_set rfl rfl rfl⟩

theorem removeTileByIdx_follows [One F] [DecidableEq W] {i : Nat} (j : Nat)
    (hspares : (s.removal i).Spares s.activeColumnIdx) :
    Ensures (s.removeTileByIdx g i j) fun p => (s.removal i).Follows s.row p.2.row := by
  unfold removal at hspares ⊢
  by_cases halone : s.alone i = true
  · rw [if_pos halone] at hspares ⊢
    refine (removeTileByIdx_row g j halone hspares).mono ?_
    rintro p ⟨hi, hrow⟩
    rw [hrow]
    exact Row.follows_erase hi hspares
  · rw [if_neg halone]
    exact (removeTileByIdx_changed g j (Bool.eq_false_iff.mpr halone)).mono fun _ h => h.follows

theorem removeTile_follows [One F] [DecidableEq W] {window : W}
    (hspares : (s.edit (.removeTile window : Op W F)).Spares s.activeColumnIdx) :
    Ensures (s.removeTile g window) fun p =>
      (s.edit (.removeTile window : Op W F)).Follows s.row p.2.row := by
  refine (ensures_self _).bind fun p hp => ?_
  have hedit : s.edit (.removeTile window : Op W F) = s.removal p.1 := by
    simp only [edit, hp]
  rw [hedit] at hspares ⊢
  exact removeTileByIdx_follows g p.2 hspares

theorem removeActiveTile_follows [One F] [DecidableEq W]
    (hspares : (s.removal s.activeColumnIdx).Spares s.activeColumnIdx) :
    Ensures (s.removeActiveTile g) fun p =>
      (s.removal s.activeColumnIdx).Follows s.row p.2.row := by
  refine ensures_ite (fun hempty => ?_) (fun _ => ?_)
  · have hkeep : s.removal s.activeColumnIdx = .keep := by simp [removal, alone, hempty]
    rw [hkeep]
    exact ensures_some (Row.follows_refl _)
  · refine (ensures_true _).bind fun column _ => ?_
    exact (removeTileByIdx_follows g _ hspares).bind fun p h => ensures_pure h

/-! ## From one column to another -/

/-- A window that was taken out of its column gets one of its own. -/
theorem addAlone_follows [One F] [BEq F] (hne : s.columns ≠ []) {s₁ : ScrollingSpace W F} {i : Nat}
    (hchanged : s.row.Changed s₁.row i) (k : Nat) (tile : Tile W F) (width : ColumnWidth F)
    (isFullWidth : Bool) :
    Ensures (s₁.addTile g (some k) tile false width isFullWidth) fun s₂ =>
      (RowEdit.insert k).Follows s.row s₂.row := by
  have hlen := hchanged.length_eq
  have hne₁ : s₁.columns ≠ [] := by
    rw [length_row, length_row] at hlen
    rw [← List.length_pos_iff, hlen]
    exact List.length_pos_iff.mpr hne
  refine (addTile_row g hne₁ (some k) tile width isFullWidth).mono ?_
  rintro s₂ ⟨hk, ids, hrow⟩
  rw [hrow]
  exact hchanged.insert (hlen ▸ hk) ids

/-- The source tile is not the focused one. -/
theorem wasActive_eq_false [DecidableEq W] {window : Option W} {p : Nat × Nat}
    {source : Column W F} (hp : s.sourceTile window = some p)
    (hsource : s.columns[p.1]? = some source)
    (hne : s.sourceTile window ≠ s.sourceTile none) :
    (decide (s.activeColumnIdx = p.1) && decide (source.activeTileIdx = p.2)) = false := by
  rw [Bool.and_eq_false_iff, decide_eq_false_iff_not, decide_eq_false_iff_not]
  by_contra hboth
  obtain ⟨hcolumn, htile⟩ := not_or.mp hboth
  refine hne ?_
  rw [hp, sourceTile, not_not.mp hcolumn, hsource]
  exact congrArg some (Prod.ext rfl (not_not.mp htile).symm)

theorem sourceTile_of_empty [DecidableEq W] (hempty : s.columns = []) (window : Option W) :
    s.sourceTile window = none := by
  cases window with
  | none => simp [sourceTile, hempty]
  | some w => simp [sourceTile, locate, hempty]

/-- The only tile of a column goes to another column. -/
theorem drained_follows [One F] [DecidableEq W] {i : Nat}
    (halone : s.alone i = true) (hspares : s.activeColumnIdx < i) (k : Nat) :
    Ensures (do
      let (removed, s) ← s.removeTileByIdx g i 0
      s.addTileToColumn g k none removed.tile false) fun s' =>
      (RowEdit.erase i).Follows s.row s'.row := by
  refine (removeTileByIdx_row g 0 halone hspares).bind ?_
  rintro ⟨removed, s₁⟩ ⟨hlt, hrow⟩
  refine (addTileToColumn_changed g none removed.tile
    fun hactivate => absurd hactivate Bool.false_ne_true).mono fun s₂ hchanged => ?_
  rw [hrow] at hchanged
  exact hchanged.erase hlt hspares

theorem consumeOrExpelWindowLeft_follows [One F] [BEq F] [DecidableEq W] {window : Option W}
    (hfocus : s.edit (.consumeOrExpelWindowLeft window : Op W F) = .keep ∨
      s.sourceTile window ≠ s.sourceTile none)
    (hspares : (s.edit (.consumeOrExpelWindowLeft window : Op W F)).Spares s.activeColumnIdx) :
    Ensures (s.consumeOrExpelWindowLeft g window) fun s' =>
      (s.edit (.consumeOrExpelWindowLeft window : Op W F)).Follows s.row s'.row := by
  refine ensures_ite (fun hempty => ?_) (fun hne => ?_)
  · simp only [edit, sourceTile_of_empty hempty]
    exact ensures_some (Row.follows_refl _)
  refine (ensures_self _).bind fun p hp => (ensures_self _).bind fun source hsource => ?_
  have hedit : s.edit (.consumeOrExpelWindowLeft window : Op W F) =
      if source.tiles.length ≠ 1 then .insert p.1 else if p.1 = 0 then .keep else .erase p.1 := by
    simp only [edit, hp, alone_eq hsource]
    simp
  rw [hedit] at hfocus hspares ⊢
  refine ensures_ite (fun hone => ensures_ite (fun hzero => ?_) (fun hpos => ?_)) (fun hmany => ?_)
  · rw [if_neg (not_not.mpr hone), if_pos hzero]
    exact ensures_pure (Row.follows_refl _)
  · -- a lone tile: its column goes
    rw [if_neg (not_not.mpr hone), if_neg hpos] at hfocus hspares ⊢
    have hwas := wasActive_eq_false hp hsource (hfocus.resolve_left nofun)
    simp only [hwas, Bool.false_eq_true, if_false]
    have halone : s.alone p.1 = true := by rw [alone_eq hsource, decide_eq_true hone]
    exact drained_follows g halone hspares _
  · -- one of several: a column comes
    rw [if_pos hmany] at hfocus hspares ⊢
    have hwas := wasActive_eq_false hp hsource (hfocus.resolve_left nofun)
    simp only [hwas, Bool.false_eq_true, if_false]
    have halone : s.alone p.1 = false := by rw [alone_eq hsource, decide_eq_false hmany]
    refine (removeTileByIdx_changed g p.2 halone).bind fun q hchanged => ?_
    exact (addAlone_follows g hne hchanged p.1 _ _ _).bind fun s₂ h => ensures_pure h

theorem consumeOrExpelWindowRight_follows [One F] [BEq F] [DecidableEq W] {window : Option W}
    (hfocus : s.edit (.consumeOrExpelWindowRight window : Op W F) = .keep ∨
      s.sourceTile window ≠ s.sourceTile none)
    (hspares : (s.edit (.consumeOrExpelWindowRight window : Op W F)).Spares s.activeColumnIdx) :
    Ensures (s.consumeOrExpelWindowRight g window) fun s' =>
      (s.edit (.consumeOrExpelWindowRight window : Op W F)).Follows s.row s'.row := by
  refine ensures_ite (fun hempty => ?_) (fun hne => ?_)
  · simp only [edit, sourceTile_of_empty hempty]
    exact ensures_some (Row.follows_refl _)
  refine (ensures_self _).bind fun p hp => (ensures_self _).bind fun source hsource => ?_
  have hedit : s.edit (.consumeOrExpelWindowRight window : Op W F) =
      if source.tiles.length ≠ 1 then .insert (p.1 + 1)
      else if p.1 + 1 = s.columns.length then .keep else .erase p.1 := by
    simp only [edit, hp, alone_eq hsource]
    simp
  rw [hedit] at hfocus hspares ⊢
  refine ensures_ite (fun hone => ensures_ite (fun hlast => ?_) (fun hnext => ?_)) (fun hmany => ?_)
  · rw [if_neg (not_not.mpr hone), if_pos hlast]
    exact ensures_pure (Row.follows_refl _)
  · rw [if_neg (not_not.mpr hone), if_neg hnext] at hfocus hspares ⊢
    have hwas := wasActive_eq_false hp hsource (hfocus.resolve_left nofun)
    simp only [hwas, Bool.false_eq_true, if_false]
    have halone : s.alone p.1 = true := by rw [alone_eq hsource, decide_eq_true hone]
    exact drained_follows g halone hspares _
  · rw [if_pos hmany] at hfocus hspares ⊢
    have hwas := wasActive_eq_false hp hsource (hfocus.resolve_left nofun)
    simp only [hwas]
    have halone : s.alone p.1 = false := by rw [alone_eq hsource, decide_eq_false hmany]
    refine (removeTileByIdx_changed g p.2 halone).bind fun q hchanged => ?_
    exact addAlone_follows g hne hchanged (p.1 + 1) _ _ _

/-- A tile of the next column comes to the active one. -/
theorem consumeIntoColumn_follows [One F] [DecidableEq W] :
    Ensures (s.consumeIntoColumn g) fun s' =>
      (s.edit (.consumeIntoColumn : Op W F)).Follows s.row s'.row := by
  refine ensures_ite (fun hone => ?_) (fun _ => ensures_ite (fun hlast => ?_) (fun hnext => ?_))
  · rw [edit, if_neg (by omega)]
    exact ensures_some (Row.follows_refl _)
  · rw [edit, if_neg (by omega)]
    exact ensures_some (Row.follows_refl _)
  by_cases hlt : s.activeColumnIdx + 1 < s.columns.length
  · rw [edit, if_pos hlt]
    by_cases halone : s.alone (s.activeColumnIdx + 1) = true
    · rw [removal, if_pos halone]
      exact drained_follows g halone (Nat.lt_succ_self _) _
    · refine (removeTileByIdx_changed g 0 (Bool.eq_false_iff.mpr halone)).bind fun q hchanged => ?_
      refine (addTileToColumn_changed g none q.1.tile
        fun hactivate => absurd hactivate Bool.false_ne_true).mono fun s₂ hchanged' => ?_
      rw [removal, if_neg halone]
      exact hchanged.changed hchanged' (Nat.succ_ne_self _)
  · have hnone : Ensures (s.removeTileByIdx g (s.activeColumnIdx + 1) 0) fun _ => False := by
      intro p hp
      obtain ⟨column, hcolumn, -⟩ := Option.bind_eq_some_iff.mp hp
      exact hlt (List.getElem?_eq_some_iff.mp hcolumn).1
    exact hnone.bind fun _ h => h.elim

theorem expelFromColumn_follows [One F] [BEq F] [DecidableEq W] :
    Ensures (s.expelFromColumn g) fun s' =>
      (s.edit (.expelFromColumn : Op W F)).Follows s.row s'.row := by
  refine ensures_ite (fun hempty => ?_) (fun hne => ?_)
  · simp only [edit, hempty, List.isEmpty_nil, Bool.true_or, if_true]
    exact ensures_some (Row.follows_refl _)
  have hempty : s.columns.isEmpty = false := List.isEmpty_eq_false_iff.mpr hne
  refine (ensures_self _).bind fun source hsource => ?_
  simp only [edit, hempty, alone_eq hsource, Bool.false_or, decide_eq_true_eq]
  refine ensures_ite (fun hone => ?_) (fun hmany => ?_)
  · rw [if_pos hone]
    exact ensures_pure (Row.follows_refl _)
  · rw [if_neg hmany]
    have halone : s.alone s.activeColumnIdx = false := by
      rw [alone_eq hsource, decide_eq_false hmany]
    refine (removeTileByIdx_changed g _ halone).bind fun q hchanged => ?_
    exact addAlone_follows g hne hchanged (s.activeColumnIdx + 1) _ _ _

/-- A window that shares its column is expelled to the right; a resize is no matter. -/
theorem expelRight_follows [One F] [BEq F] [DecidableEq W] {window : W} {i : Nat} {col : Column W F}
    (hi : (s.columns.findIdx? fun col => col.contains window) = some i)
    (hcol : s.columns[i]? = some col) (hmany : 1 < col.tiles.length)
    (hfocus : s.sourceTile (some window) ≠ s.sourceTile none) (hspares : i + 1 ≠ s.activeColumnIdx)
    (resize : Option (InteractiveResize W)) :
    Ensures (consumeOrExpelWindowRight g { s with interactiveResize := resize } (some window))
      fun s₁ => (RowEdit.insert (i + 1)).Follows s.row s₁.row := by
  obtain ⟨hlt, hcontains, -⟩ := List.findIdx?_eq_some_iff_getElem.mp hi
  obtain rfl : s.columns[i] = col :=
    Option.some.inj ((List.getElem?_eq_getElem hlt).symm.trans hcol)
  obtain ⟨j, hj, -⟩ := Column.position_returns (Column.contains_iff.mp hcontains)
  have hsource : s.sourceTile (some window) = some (i, j) := by
    rw [sourceTile, locate, hi, Option.bind_eq_bind, Option.bind_some, hcol,
      Option.bind_eq_bind, Option.bind_some, hj]
    rfl
  have hshares : s.alone i = false := by
    rw [alone_eq hcol]
    exact decide_eq_false (by omega)
  have hedit : s.edit (.consumeOrExpelWindowRight (some window) : Op W F) = .insert (i + 1) := by
    simp only [edit, hsource, hshares, Bool.not_false, if_true]
  have hspares' : (s.edit (.consumeOrExpelWindowRight (some window) : Op W F)).Spares
      s.activeColumnIdx := by
    rw [hedit]
    exact hspares
  have hfollows := @consumeOrExpelWindowRight_follows W F g { s with interactiveResize := resize }
    _ _ _ (some window) (Or.inr hfocus) hspares'
  exact hedit ▸ hfollows

theorem setSizing_follows [One F] [BEq F] [DecidableEq W]
    {pending : Column W F → Bool} {set : Column W F → Bool → Option (Column W F)} {window : W}
    {value : Bool}
    (hset : ∀ col : Column W F, Ensures (set col value) col.Steady)
    (hfocus : s.extraction pending window value = .keep ∨
      s.sourceTile (some window) ≠ s.sourceTile none)
    (hspares : (s.extraction pending window value).Spares s.activeColumnIdx) :
    Ensures (s.setSizing g pending set window value) fun p =>
      (s.extraction pending window value).Follows s.row p.1.row := by
  refine (ensures_self _).bind fun i hi => (ensures_self _).bind fun col hcol => ?_
  have hextract : s.extraction pending window value =
      if value ≠ pending col ∧ value = true ∧ 1 < col.tiles.length ∧ col.displayMode ≠ .tabbed then
        .insert (i + 1) else .keep := by
    simp only [extraction, hi, hcol]
    simp [and_assoc]
  rw [hextract] at hfocus hspares ⊢
  refine ensures_ite (fun heq => ?_) (fun hne => ?_)
  · rw [if_neg fun h => h.1 heq]
    exact ensures_pure (Row.follows_refl _)
  -- a window that shares its column gets one of its own first
  by_cases hshared : value = true ∧ 1 < col.tiles.length ∧ col.displayMode ≠ .tabbed
  · rw [if_pos ⟨hne, hshared⟩] at hfocus hspares ⊢
    have hext : decide (value = true ∧ col.tiles.length > 1 ∧ col.displayMode ≠ .tabbed) = true :=
      decide_eq_true hshared
    simp only [hext, applyIf, if_true]
    have hother := hfocus.resolve_left (fun h => by cases h)
    have hright := expelRight_follows g hi hcol hshared.2.1 hother hspares
      (cancelResizeForColumn s.interactiveResize col)
    refine hright.bind fun s₁ hfollows => (ensures_self _).bind fun col₁ hcol₁ => ?_
    refine (hset col₁).bind fun col₂ hsteady => (ensures_true _).bind fun _ _ => ensures_pure ?_
    have hrow : ∀ s₂ : ScrollingSpace W F, s₁.Steady s₂ →
        (RowEdit.insert (i + 1)).Follows s.row s₂.row := fun s₂ h => h.row ▸ hfollows
    exact hrow _ (steady_of_set hcol₁ hsteady rfl rfl rfl)
  · rw [if_neg fun h => hshared h.2]
    have hext : decide (value = true ∧ col.tiles.length > 1 ∧ col.displayMode ≠ .tabbed) = false :=
      decide_eq_false hshared
    simp only [hext, applyIf, Bool.false_eq_true, if_false, Option.bind_eq_bind, Option.bind_some,
      hcol]
    refine (hset col).bind fun col' hsteady => (ensures_true _).bind fun _ _ => ensures_pure ?_
    have hrow : ∀ s₁ : ScrollingSpace W F, s.Steady s₁ → RowEdit.keep.Follows s.row s₁.row :=
      fun s₁ h => h.row ▸ Row.follows_refl _
    exact hrow _ (steady_of_set hcol hsteady rfl rfl rfl)

/-- The tiles of the active column change places. -/
theorem moveTile_follows {f : Column W F → Option (Column W F × Bool)}
    (hf : ∀ col : Column W F, Ensures (f col) fun p => Evolves col.ids p.1.ids) :
    Ensures (s.onActiveColumn fun col => (f col).map Prod.fst) fun s' =>
      RowEdit.keep.Follows s.row s'.row := by
  refine ensures_early (Row.follows_refl _) fun _ => ?_
  refine (ensures_self _).bind fun col hcol => ?_
  have hmoved : Ensures ((f col).map Prod.fst) fun col' => Evolves col.ids col'.ids :=
    (hf col).map fun _ h => h
  refine hmoved.bind fun col' hevolves => ensures_pure ?_
  have hchanged : s.row.Changed (row { s with
      columns := s.columns.set s.activeColumnIdx col' }) s.activeColumnIdx :=
    ⟨col.ids, col'.ids, arrangement_getElem? hcol, hevolves, row_set rfl rfl rfl⟩
  exact hchanged.follows

/-! ## The focus stays -/

theorem follows_of_row {x : Option (ScrollingSpace W F)} (h : Ensures x fun s' => s'.row = s.row) :
    Ensures x fun s' => RowEdit.keep.Follows s.row s'.row :=
  h.mono fun _ heq => heq ▸ Row.follows_refl _

theorem moveColumnTo_row [DecidableEq W] {idx : Nat} (hactive : s.activeColumnIdx = idx) :
    Ensures (s.moveColumnTo g idx) fun s' => s'.row = s.row :=
  ensures_early rfl (fun hne => absurd hactive hne)

theorem focusDown_moved (hlt : ∀ col ∈ s.columns[s.activeColumnIdx]?,
    col.activeTileIdx + 1 < col.tiles.length) :
    ∀ col, s.columns[s.activeColumnIdx]? = some col →
      Ensures col.focusDown fun p => p.2 = true := by
  intro col hcol
  have := hlt col hcol
  exact Column.activateIdx_moved (by omega)

theorem focusUp_moved (hpos : ∀ col ∈ s.columns[s.activeColumnIdx]?, 0 < col.activeTileIdx) :
    ∀ col, s.columns[s.activeColumnIdx]? = some col →
      Ensures col.focusUp fun p => p.2 = true := by
  intro col hcol
  have := hpos col hcol
  exact Column.activateIdx_moved (by omega)

theorem focusLeft_across (hzero : s.activeColumnIdx = 0) :
    ∀ s₁ : ScrollingSpace W F, s₁.row = s.row →
      Ensures (s₁.focusLeft g) fun s' => s'.row = s₁.row :=
  fun _ hrow => focusLeft_row g ((congrArg Row.active hrow).trans hzero)

theorem focusRight_across (hlast : s.columns.length ≤ s.activeColumnIdx + 1) :
    ∀ s₁ : ScrollingSpace W F, s₁.row = s.row →
      Ensures (s₁.focusRight g) fun s' => s'.row = s₁.row := by
  intro s₁ hrow
  have hlen : s₁.columns.length = s.columns.length := by
    rw [← length_row, hrow, length_row]
  have hactive : s₁.activeColumnIdx = s.activeColumnIdx := congrArg Row.active hrow
  exact focusRight_row g (by omega)

/-! ## Calm operations -/

section Calm

variable [One F] [BEq F] [LT F] [DecidableLT F] [LE F] [DecidableLE F] [DecidableEq W]

/-- The active column stays the active one. -/
def KeepsFocus (g : Geometry W F) (s : ScrollingSpace W F) : Op W F → Prop
  | .addTile _ _ activate _ _ => activate = false
  | .addTileToColumn colIdx _ _ activate => activate = true → colIdx = s.activeColumnIdx
  | .addTileRightOf _ _ activate _ _ => activate = false
  | .activateWindow window =>
      ∀ i ∈ s.columns.findIdx? fun col => col.contains window, i = s.activeColumnIdx
  | .focusLeft | .focusColumnFirst | .moveLeft | .moveColumnToFirst
  | .swapWindowInDirection .left => s.activeColumnIdx = 0
  | .focusRight | .focusColumnLast | .moveRight | .moveColumnToLast
  | .swapWindowInDirection .right => s.columns.length ≤ s.activeColumnIdx + 1
  | .focusColumn index | .moveColumnToIndex index =>
      s.columns = [] ∨ min (index - 1) (s.columns.length - 1) = s.activeColumnIdx
  | .focusDownOrLeft =>
      (∀ col ∈ s.columns[s.activeColumnIdx]?, col.activeTileIdx + 1 < col.tiles.length) ∨
        s.activeColumnIdx = 0
  | .focusDownOrRight =>
      (∀ col ∈ s.columns[s.activeColumnIdx]?, col.activeTileIdx + 1 < col.tiles.length) ∨
        s.columns.length ≤ s.activeColumnIdx + 1
  | .focusUpOrLeft =>
      (∀ col ∈ s.columns[s.activeColumnIdx]?, 0 < col.activeTileIdx) ∨ s.activeColumnIdx = 0
  | .focusUpOrRight =>
      (∀ col ∈ s.columns[s.activeColumnIdx]?, 0 < col.activeTileIdx) ∨
        s.columns.length ≤ s.activeColumnIdx + 1
  -- The focused tile takes the focus with it.
  | .consumeOrExpelWindowLeft window =>
      s.edit (.consumeOrExpelWindowLeft window : Op W F) = .keep ∨
        s.sourceTile window ≠ s.sourceTile none
  | .consumeOrExpelWindowRight window =>
      s.edit (.consumeOrExpelWindowRight window : Op W F) = .keep ∨
        s.sourceTile window ≠ s.sourceTile none
  | .setFullscreen window isFullscreen =>
      s.extraction Column.isPendingFullscreen window isFullscreen = .keep ∨
        s.sourceTile (some window) ≠ s.sourceTile none
  | .setMaximized window maximize =>
      s.extraction Column.isPendingMaximized window maximize = .keep ∨
        s.sourceTile (some window) ≠ s.sourceTile none
  | .viewOffsetGestureEnd isTouchpad =>
      ∀ p ∈ s.viewOffsetGestureEnd g isTouchpad, p.1.activeColumnIdx = s.activeColumnIdx
  | .dndScrollGestureEnd =>
      ∀ s' ∈ s.dndScrollGestureEnd g, s'.activeColumnIdx = s.activeColumnIdx
  | _ => True

def Calm (g : Geometry W F) (s : ScrollingSpace W F) (op : Op W F) : Prop :=
  s.KeepsFocus g op ∧ (s.edit op).Spares s.activeColumnIdx

/-- A calm operation edits the row where `edit` says, and keeps the rest. -/
theorem step_follows (h : s.WellFormed) (hne : s.columns ≠ []) {op : Op W F} (hvalid : s.Valid op)
    (hcalm : s.Calm g op) : Ensures (s.step g op) fun s' => (s.edit op).Follows s.row s'.row := by
  obtain ⟨hfocus, hspares⟩ := hcalm
  have hlt := h.active_lt_of_ne hne
  have hsteady : op.steady = true →
      Ensures (s.step g op) fun s' => RowEdit.keep.Follows s.row s'.row := fun hop =>
    follows_of_row ((step_steady g s hop).mono fun _ h => h.row)
  cases op with
  | tilesMut f => exact follows_of_row (ensures_some (tilesMut_row s hvalid))
  | addTile colIdx tile activate width isFullWidth =>
    obtain rfl : activate = false := hfocus
    refine (addTile_row g hne colIdx tile width isFullWidth).mono ?_
    rintro s' ⟨hle, ids, hrow⟩
    rw [hrow]
    exact Row.follows_insert hle ids
  | addTileToColumn colIdx tileIdx tile activate =>
    exact (addTileToColumn_changed g tileIdx tile hfocus).mono fun _ hc => hc.follows
  | addTileRightOf rightOf tile activate width isFullWidth =>
    obtain rfl : activate = false := hfocus
    refine (ensures_self _).bind fun i hi => ?_
    refine (addTile_row g hne (some (i + 1)) tile width isFullWidth).mono ?_
    rintro s' ⟨hle, ids, hrow⟩
    have hedit : s.edit (.addTileRightOf rightOf tile false width isFullWidth) =
        .insert (i + 1) := by simp only [edit, hi]
    rw [hedit, hrow]
    exact Row.follows_insert hle ids
  | removeActiveTile => exact (removeActiveTile_follows g hspares).map fun _ hf => hf
  | removeTile window => exact (removeTile_follows g hspares).map fun _ hf => hf
  | removeTileByIdx columnIdx tileIdx =>
    exact (removeTileByIdx_follows g tileIdx hspares).map fun _ hf => hf
  | removeActiveColumn =>
    have hedit : s.edit (.removeActiveColumn : Op W F) = .erase s.activeColumnIdx := by
      simp only [edit, List.isEmpty_eq_false_iff.mpr hne, Bool.false_eq_true, if_false]
    rw [hedit] at hspares
    exact absurd hspares (Nat.lt_irrefl _)
  | removeColumnByIdx columnIdx =>
    refine (removeColumnByIdx_row g hspares).map ?_
    rintro p ⟨hle, hrow⟩
    rw [hrow]
    exact Row.follows_erase hle hspares
  | activateWindow window => exact follows_of_row (activateWindow_row g hfocus)
  | focusLeft => exact follows_of_row (focusLeft_row g hfocus)
  | focusRight => exact follows_of_row (focusRight_row g hfocus)
  | focusColumnFirst => exact follows_of_row (activateColumn_row g hfocus)
  | focusColumnLast =>
    have hlast : s.columns.length ≤ s.activeColumnIdx + 1 := hfocus
    exact follows_of_row (ensures_early rfl
      fun _ => activateColumn_row g (by omega))
  | focusColumn index =>
    exact follows_of_row (ensures_early rfl
      fun _ => activateColumn_row g (hfocus.resolve_left hne).symm)
  | focusDownOrLeft =>
    exact follows_of_row (focusTileOr_row (fun col => Column.activateIdx_steady col _)
      (hfocus.imp focusDown_moved (focusLeft_across g)))
  | focusDownOrRight =>
    exact follows_of_row (focusTileOr_row (fun col => Column.activateIdx_steady col _)
      (hfocus.imp focusDown_moved (focusRight_across g)))
  | focusUpOrLeft =>
    exact follows_of_row (focusTileOr_row (fun col => Column.activateIdx_steady col _)
      (hfocus.imp focusUp_moved (focusLeft_across g)))
  | focusUpOrRight =>
    exact follows_of_row (focusTileOr_row (fun col => Column.activateIdx_steady col _)
      (hfocus.imp focusUp_moved (focusRight_across g)))
  | moveColumnToIndex index =>
    exact follows_of_row (ensures_early rfl
      fun _ => moveColumnTo_row g (hfocus.resolve_left hne).symm)
  | moveLeft =>
    exact follows_of_row (ensures_early rfl fun hpos => absurd hfocus hpos)
  | moveRight =>
    exact follows_of_row (ensures_early rfl fun hnext => absurd hfocus hnext)
  | moveColumnToFirst => exact follows_of_row (moveColumnTo_row g hfocus)
  | moveColumnToLast =>
    have hlast : s.columns.length ≤ s.activeColumnIdx + 1 := hfocus
    exact follows_of_row (ensures_early rfl
      fun _ => moveColumnTo_row g (by omega))
  | moveDown | moveUp => exact moveTile_follows fun col => Column.moveTo_evolves col _
  | consumeOrExpelWindowLeft window => exact consumeOrExpelWindowLeft_follows g hfocus hspares
  | consumeOrExpelWindowRight window => exact consumeOrExpelWindowRight_follows g hfocus hspares
  | consumeIntoColumn => exact consumeIntoColumn_follows g
  | expelFromColumn => exact expelFromColumn_follows g
  | swapWindowInDirection direction =>
    refine follows_of_row (ensures_early rfl fun _ => ?_)
    cases direction with
    | left =>
      exact ensures_early rfl fun hpos => absurd ⟨rfl, hfocus⟩ hpos
    | right =>
      have hlast : s.columns.length ≤ s.activeColumnIdx + 1 := hfocus
      refine ensures_early rfl fun _ => ?_
      exact ensures_early rfl
        fun hnext => absurd ⟨rfl, by omega⟩ hnext
  | setFullscreen window isFullscreen =>
    exact (setSizing_follows g (fun col => Column.setFullscreen_steady col _) hfocus hspares).map
      fun _ hf => hf
  | setMaximized window maximize =>
    exact (setSizing_follows g (fun col => Column.setMaximized_steady col _) hfocus hspares).map
      fun _ hf => hf
  | viewOffsetGestureEnd isTouchpad =>
    have hrow : Ensures (s.viewOffsetGestureEnd g isTouchpad) fun p => p.1.row = s.row :=
      fun p hp => (viewOffsetGestureEnd_steady g s isTouchpad p hp).1 (hfocus p hp)
    exact follows_of_row (hrow.map fun _ heq => heq)
  | dndScrollGestureEnd =>
    exact follows_of_row fun s' hs' => (dndScrollGestureEnd_steady g s s' hs').1 (hfocus s' hs')
  | _ => exact hsteady rfl

/-! ## Runs -/

/-- A column that `add_column` can be called with: a new one for a window, or one
    that was taken out of a space. -/
def NewColumn (column : Column W F) : Prop :=
  Handed column ∨ ∃ (g : Geometry W F) (tile : Tile W F) (width : ColumnWidth F)
    (isFullWidth : Bool), Column.newWithTile g tile width isFullWidth = some column

/-- The column is new, its windows are not in the layout, and the index is one of
    the layout. -/
structure CanAdd (s : ScrollingSpace W F) (idx : Option Nat) (column : Column W F) : Prop where
  new : NewColumn column
  idx_le : ∀ i ∈ idx, i ≤ s.columns.length
  fresh : ∀ id ∈ column.ids, id ∉ s.windowIds

/-- A run of calm operations, with the index of one column before and after it.
    Every operation is called under a geometry of its own. -/
inductive CalmRun : ScrollingSpace W F → Nat → ScrollingSpace W F → Nat → Prop where
  | refl (s : ScrollingSpace W F) (i : Nat) : CalmRun s i s i
  | step {s s₁ s₂ : ScrollingSpace W F} {i j : Nat} (g : Geometry W F) (op : Op W F) :
      CalmRun s i s₁ j → s₁.Valid op → s₁.Calm g op → s₁.step g op = some s₂ →
      CalmRun s i s₂ ((s₁.edit op).index j)
  | addColumn {s s₁ s₂ : ScrollingSpace W F} {i j : Nat} (g : Geometry W F) (idx : Option Nat)
      (column : Column W F) :
      CalmRun s i s₁ j → s₁.CanAdd idx column → s₁.newColumnIdx idx ≠ s₁.activeColumnIdx →
      s₁.addColumn g idx column false = some s₂ →
      CalmRun s i s₂ ((RowEdit.insert (s₁.newColumnIdx idx)).index j)

theorem NewColumn.coherent {column : Column W F} (h : NewColumn column) :
    (∃ options, column.Coherent options) ∧ column.ids.Nodup := by
  rcases h with ⟨t, t', g, columnIdx, ht, hrem⟩ | ⟨g, tile, width, isFullWidth, hnew⟩
  · have hwf := reachable_wellFormed ht
    have hmem := mem_of_removed hwf hrem
    exact ⟨⟨_, hwf.coherent column hmem⟩,
      (List.nodup_flatten.mp hwf.nodup).1 _ (List.mem_map_of_mem hmem)⟩
  · obtain ⟨hcoherent, hids⟩ := (Column.newWithTile_returns g tile width isFullWidth).of_eq hnew
    refine ⟨⟨_, hcoherent⟩, ?_⟩
    rw [hids]
    exact List.nodup_singleton _

theorem CanAdd.addColumn_returns {idx : Option Nat} {column : Column W F} (h : s.WellFormed)
    (hcan : s.CanAdd idx column) (g : Geometry W F) (activate : Bool) :
    Returns (s.addColumn g idx column activate) WellFormed := by
  obtain ⟨⟨options, hcoherent⟩, hnodup⟩ := hcan.new.coherent
  have hfresh : (column.ids ++ s.windowIds).Nodup :=
    List.nodup_append.mpr ⟨hnodup, h.nodup, fun a ha b hb heq => hcan.fresh a ha (heq ▸ hb)⟩
  exact (ScrollingSpace.addColumn_returns g h hcan.idx_le hcoherent hfresh activate).mono
    fun _ hadd => hadd.1.wellFormed

/-- The column on the right of `p` is active, and `p` is to follow it. -/
structure Remembers (s : ScrollingSpace W F) (p : Nat) (offset : F) : Prop where
  wellFormed : s.WellFormed
  active_eq : s.activeColumnIdx = p + 1
  prev_eq : s.activatePrevColumnOnRemoval = some offset

variable {s₁ s₂ : ScrollingSpace W F} {p : Nat} {offset : F}

omit [One F] [BEq F] [LT F] [DecidableLT F] [LE F] [DecidableLE F] [DecidableEq W] in
theorem Remembers.active_lt (h : s.Remembers p offset) : p + 1 < s.columns.length := by
  have hactive := h.active_eq
  rcases h.wellFormed.active_lt with hlt | ⟨-, hzero⟩
  · omega
  · omega

omit [One F] [BEq F] [LT F] [DecidableLT F] [LE F] [DecidableLE F] [DecidableEq W] in
theorem Remembers.columns_ne (h : s.Remembers p offset) : s.columns ≠ [] :=
  List.ne_nil_of_length_pos (Nat.lt_of_le_of_lt (Nat.zero_le _) h.active_lt)

omit [One F] [BEq F] [LT F] [DecidableLT F] [LE F] [DecidableLE F] [DecidableEq W] in
theorem Remembers.follow {e : RowEdit} (h : s.Remembers p offset) (hwf : s₁.WellFormed)
    (hspares : e.Spares s.activeColumnIdx) (hfollows : e.Follows s.row s₁.row) :
    s₁.Remembers (e.index p) offset := by
  rw [h.active_eq] at hspares
  refine ⟨hwf, ?_, hfollows.prev_eq.trans h.prev_eq⟩
  calc s₁.activeColumnIdx = e.index s.activeColumnIdx := hfollows.active_eq
    _ = e.index (p + 1) := by rw [h.active_eq]
    _ = e.index p + 1 := hspares.index_succ

/-- One calm operation. -/
theorem step_remembers {g : Geometry W F} {op : Op W F} (h : s.Remembers p offset)
    (hvalid : s.Valid op) (hcalm : s.Calm g op) (hstep : s.step g op = some s₁) :
    s₁.Remembers ((s.edit op).index p) offset :=
  h.follow ((step_returns g h.wellFormed hvalid).of_eq hstep) hcalm.2
    (step_follows g h.wellFormed h.columns_ne hvalid hcalm s₁ hstep)

theorem addColumn_remembers {g : Geometry W F} {idx : Option Nat} {column : Column W F}
    (h : s.Remembers p offset) (hcan : s.CanAdd idx column)
    (hbeside : s.newColumnIdx idx ≠ s.activeColumnIdx)
    (hadd : s.addColumn g idx column false = some s₁) :
    s₁.Remembers ((RowEdit.insert (s.newColumnIdx idx)).index p) offset := by
  refine h.follow ((hcan.addColumn_returns h.wellFormed g false).of_eq hadd) hbeside ?_
  obtain ⟨hle, hrow⟩ := addColumn_row g h.columns_ne idx column s₁ hadd
  rw [hrow]
  exact Row.follows_insert hle column.ids

/-- A whole run. -/
theorem CalmRun.remembers {j : Nat} (hrun : CalmRun s₁ p s₂ j) (h : s₁.Remembers p offset) :
    s₂.Remembers j offset := by
  induction hrun with
  | refl s => exact h
  | step g op _ hvalid hcalm hstep ih => exact step_remembers (ih h) hvalid hcalm hstep
  | addColumn g idx column _ hcan hbeside hadd ih =>
    exact addColumn_remembers (ih h) hcan hbeside hadd

/-! ## From the opening of a column to its removal -/

end Calm

/-! ## Four windows -/

end ScrollingSpace

end Cidre.Layout
