/-
  Cidre.Link.Columns

  No tile is lost from the global layout.

  `tile_geometries` walks `columns`, so a tile is shown if and only if its column
  is listed there.  `InsertTile` and `MoveTile` list the column they put a tile
  in; `ChangeTileMetadata` takes over the sender's tile, column included, and
  does not.  The layout is complete after every operation of a run exactly when
  each `ChangeTileMetadata` names a column that is listed at that time.
-/

import Mathlib.Data.List.Perm.Basic
import Cidre.Lib.Run
import Cidre.Link.LayoutSync

namespace Cidre.Link

open Cidre.Run

/-- Every column once, and every tile in one of them. -/
structure LayoutView.Housed (v : LayoutView) : Prop where
  nodup : v.columns.Nodup
  mem : ∀ id t, v.tiles.get id = some t → t.columnId ∈ v.columns

/-- `columns` lists every column once and every tile's column, and
`tile_geometries` every tile once. -/
structure Complete (ws : GlobalWorkspace) : Prop where
  housed : ws.view.Housed
  listed : ((tileGeometries ws).map TileGeometry.tileId).Perm ws.tiles.keys

/-! ## tile_geometries lists the tiles of the listed columns -/

section Geometries

variable {ws : GlobalWorkspace}

theorem map_tileId_stackTiles (c : ColumnId) (x width y : Int) (tiles : List TileMetadata) :
    (stackTiles c x width y tiles).map TileGeometry.tileId = tiles.map (·.tileId) := by
  induction tiles generalizing y with
  | nil => rfl
  | cons t tiles ih => rw [stackTiles, List.map_cons, List.map_cons, ih]

theorem map_tileId_columnGeometries (ws : GlobalWorkspace)
    (ordered : SortedMap ColumnId (List TileId)) (x : Int) (columns : List ColumnId) :
    (columnGeometries ws ordered x columns).map TileGeometry.tileId =
      columns.flatMap fun c =>
        (((ordered.get c).getD []).filterMap ws.tiles.get).map (·.tileId) := by
  induction columns generalizing x with
  | nil => rfl
  | cons c columns ih =>
    rw [columnGeometries, List.flatMap_cons]
    cases ordered.get c with
    | none => exact ih x
    | some tileIds =>
      dsimp only [Option.getD_some]
      rw [List.map_append, map_tileId_stackTiles, ih]

/-- The ids of a column are looked up in vain nowhere. -/
theorem GlobalWorkspace.Keyed.filterMap_columnTileIds (h : ws.Keyed) (c : ColumnId) :
    (columnTileIds ws c).filterMap ws.tiles.get = columnTiles ws c := by
  rw [columnTileIds_eq, List.filterMap_map]
  have hsome : ∀ t ∈ columnTiles ws c, (ws.tiles.get ∘ (·.tileId)) t = some t :=
    fun t ht => (h.mem_columnTiles.mp ht).1
  rw [List.filterMap_congr hsome, List.filterMap_some]

theorem GlobalWorkspace.Keyed.map_tileId_tileGeometries (h : ws.Keyed) :
    (tileGeometries ws).map TileGeometry.tileId = ws.columns.flatMap (columnTileIds ws) := by
  rw [tileGeometries, map_tileId_columnGeometries]
  refine List.flatMap_congr fun c _ => ?_
  have hids := h.filterMap_columnTileIds c
  rw [columnTileIds] at hids
  rw [hids, columnTileIds_eq]

theorem GlobalWorkspace.Keyed.mem_columnTileIds_iff (h : ws.Keyed) {id : TileId} {c : ColumnId} :
    id ∈ columnTileIds ws c ↔ ∃ t, ws.tiles.get id = some t ∧ t.columnId = c := by
  constructor
  · exact h.mem_columnTileIds
  · rintro ⟨t, ht, hc⟩
    have hid := h id t ht
    subst hid
    rw [columnTileIds_eq]
    exact List.mem_map_of_mem (h.mem_columnTiles.mpr ⟨ht, hc⟩)

theorem GlobalWorkspace.Keyed.nodup_columnTileIds (h : ws.Keyed) (c : ColumnId) :
    (columnTileIds ws c).Nodup := by
  rw [columnTileIds_eq]
  refine List.Nodup.map_on (fun a ha b hb hab => ?_) ?_
  · have hga := (h.mem_columnTiles.mp ha).1
    rw [hab, (h.mem_columnTiles.mp hb).1] at hga
    exact (Option.some.inj hga).symm
  · exact (h.columnTiles_sorted c).imp fun hlt heq => absurd (heq ▸ hlt) (lt_irrefl _)

/-- A housed layout is shown completely. -/
theorem LayoutView.Housed.complete (h : ws.Keyed) (hhoused : ws.view.Housed) : Complete ws := by
  refine ⟨hhoused, ?_⟩
  have hnodup : (ws.columns.flatMap (columnTileIds ws)).Nodup := by
    rw [List.nodup_flatMap]
    refine ⟨fun c _ => h.nodup_columnTileIds c, ?_⟩
    refine hhoused.nodup.imp fun {c d} hcd => ?_
    -- a tile is in one column only
    show List.Disjoint (columnTileIds ws c) (columnTileIds ws d)
    rw [List.disjoint_left]
    intro id hc hd
    obtain ⟨t, ht, htc⟩ := h.mem_columnTileIds hc
    obtain ⟨t', ht', htd⟩ := h.mem_columnTileIds hd
    rw [ht] at ht'
    rw [← Option.some.inj ht', htc] at htd
    exact hcd htd
  rw [h.map_tileId_tileGeometries, List.perm_ext_iff_of_nodup hnodup ws.tiles.keys_nodup]
  intro id
  rw [List.mem_flatMap, SortedMap.mem_keys_iff]
  constructor
  · rintro ⟨c, -, hid⟩
    obtain ⟨t, ht, -⟩ := h.mem_columnTileIds hid
    rw [ht]
    exact Option.some_ne_none t
  · intro hne
    obtain ⟨t, ht⟩ := Option.ne_none_iff_exists'.mp hne
    exact ⟨t.columnId, hhoused.mem id t ht, h.mem_columnTileIds_iff.mpr ⟨t, ht, rfl⟩⟩

end Geometries

/-! ## Operations -/

/-- `ChangeTileMetadata` names a listed column. -/
def ListsColumn (v : LayoutView) : LayoutOpKind → Prop
  | .changeTileMetadata tile => tile.columnId ∈ v.columns
  | _ => True

namespace LayoutView.Housed

variable {v : LayoutView}

theorem pushColumn (h : v.Housed) (c : ColumnId) : (v.pushColumn c).Housed := by
  constructor
  · rw [LayoutView.pushColumn]
    split
    · exact h.nodup
    · rename_i hc
      have hnot : c ∉ v.columns := by simpa using hc
      have hconcat := h.nodup.concat hnot
      rw [List.concat_eq_append] at hconcat
      exact hconcat
  · intro id t ht
    rw [LayoutView.tiles_pushColumn] at ht
    exact mem_columns_pushColumn.mpr (Or.inl (h.mem id t ht))

theorem insert (h : v.Housed) {tile : TileMetadata} (hc : tile.columnId ∈ v.columns) :
    { v with tiles := v.tiles.insert tile.tileId tile }.Housed := by
  refine ⟨h.nodup, fun id t ht => ?_⟩
  dsimp only at ht
  rw [SortedMap.get_insert] at ht
  split at ht
  · rw [← Option.some.inj ht]
    exact hc
  · exact h.mem id t ht

theorem modify (h : v.Housed) (id : TileId) {f : TileMetadata → TileMetadata}
    (hf : ∀ t, v.tiles.get id = some t → (f t).columnId ∈ v.columns) : (v.modify id f).Housed := by
  refine ⟨h.nodup, fun id' t ht => ?_⟩
  rw [LayoutView.modify] at ht
  dsimp only at ht
  rw [SortedMap.get_modify] at ht
  split at ht
  · obtain ⟨t₀, ht₀, rfl⟩ := Option.map_eq_some_iff.mp ht
    exact hf t₀ ht₀
  · exact h.mem id' t ht

theorem remove (h : v.Housed) (id : TileId) : { v with tiles := v.tiles.remove id }.Housed := by
  refine ⟨h.nodup, fun id' t ht => ?_⟩
  dsimp only at ht
  rw [SortedMap.get_remove] at ht
  split at ht
  · cases ht
  · exact h.mem id' t ht

theorem unfocus (h : v.Housed) (id : TileId) : (v.unfocus id).Housed := by
  refine ⟨?_, fun id' t ht => ?_⟩
  · rw [LayoutView.columns_unfocus]
    exact h.nodup
  · rw [LayoutView.tiles_unfocus] at ht
    rw [LayoutView.columns_unfocus]
    exact h.mem id' t ht

theorem moveColumn (h : v.Housed) (c : ColumnId) (index : Nat) :
    (v.apply (.moveColumn c index)).Housed := by
  rw [LayoutView.apply]
  refine ⟨?_, fun id t ht => ?_⟩
  · rw [(List.perm_insertIdx c _ (min_le_right _ _)).nodup_iff, List.nodup_cons]
    exact ⟨by simp, h.nodup.filter _⟩
  · rw [List.mem_insertIdx (min_le_right _ _)]
    by_cases hc : t.columnId = c
    · exact Or.inl hc
    · exact Or.inr (List.mem_filter.mpr ⟨h.mem id t ht, by simpa using hc⟩)

/-- Every operation that lists its column keeps the tiles housed. -/
theorem apply (h : v.Housed) {kind : LayoutOpKind} (hlists : ListsColumn v kind) :
    (v.apply kind).Housed := by
  cases kind with
  | insertTile tile index =>
    have hpush := h.pushColumn tile.columnId
    have hc : tile.columnId ∈ (v.pushColumn tile.columnId).columns :=
      mem_columns_pushColumn.mpr (Or.inr rfl)
    have hinsert := hpush.insert hc
    rw [LayoutView.tiles_pushColumn] at hinsert
    exact hinsert
  | removeTile id => exact (h.remove id).unfocus id
  | moveTile id columnId index =>
    rw [LayoutView.apply]
    split
    · exact (h.pushColumn columnId).modify id fun _ _ => mem_columns_pushColumn.mpr (Or.inr rfl)
    · exact h
  | moveColumn c index => exact h.moveColumn c index
  | changeTileState id change =>
    refine h.modify id fun t ht => ?_
    have hcol : (change.apply t).columnId = t.columnId := by cases change <;> rfl
    rw [hcol]
    exact h.mem id t ht
  | changeTileMetadata tile => exact h.insert hlists
  | setFullscreen id value => exact h.modify id fun t ht => h.mem id t ht
  | setFloating id value => exact h.modify id fun t ht => h.mem id t ht
  | resizeColumn c width | scrollViewport node output x | setViewport viewport | enterOverview
  | leaveOverview | enableLink | disableLink => exact h
  | focusTile id => exact ⟨h.nodup, h.mem⟩
  | focusColumn c => exact ⟨h.nodup, h.mem⟩

/-- An operation that does not list its column puts a tile out of sight. -/
theorem listsColumn {kind : LayoutOpKind} (h : (v.apply kind).Housed) : ListsColumn v kind := by
  cases kind with
  | changeTileMetadata tile =>
    refine h.mem tile.tileId tile ?_
    rw [LayoutView.apply, SortedMap.get_insert, if_pos rfl]
  | _ => trivial

end LayoutView.Housed

/-! ## Runs of operations -/

/-- `apply_op` as a step. -/
def opStep (ws : GlobalWorkspace) (op : LayoutOp) : Option GlobalWorkspace := some (applyOp ws op)

theorem complete_applyOp_iff {ws : GlobalWorkspace} (h : ws.Keyed) (hhoused : ws.view.Housed)
    (op : LayoutOp) : Complete (applyOp ws op) ↔ ListsColumn ws.view op.kind := by
  constructor
  · intro hcomplete
    have hview := hcomplete.housed
    rw [h.view_applyOp] at hview
    exact hview.listsColumn
  · intro hlists
    refine LayoutView.Housed.complete (h.applyOp op) ?_
    rw [h.view_applyOp]
    exact hhoused.apply hlists

/-- From an empty workspace the layout stays complete exactly along the runs in
which every `ChangeTileMetadata` names a listed column. -/
theorem operations_complete_iff (sessionId : SessionId) (localNodeId : NodeId)
    (hostname fingerprint : String) (ops : List LayoutOp) :
    StepsMeet opStep (fun ws op => Complete (applyOp ws op))
        (GlobalWorkspace.empty sessionId localNodeId hostname fingerprint) ops ↔
      StepsMeet opStep (fun ws op => ListsColumn ws.view op.kind)
        (GlobalWorkspace.empty sessionId localNodeId hostname fingerprint) ops := by
  refine @stepsMeet_iff _ _ _ _ _ (fun ws => ws.Keyed ∧ ws.view.Housed) ?_ ?_ _ _ ?_
  · rintro ws op ⟨hkeyed, hhoused⟩
    exact complete_applyOp_iff hkeyed hhoused op
  · rintro ws op ws' ⟨hkeyed, -⟩ hcomplete hstep
    obtain rfl : applyOp ws op = ws' := Option.some.inj hstep
    exact ⟨hkeyed.applyOp op, hcomplete.housed⟩
  · exact ⟨keyed_empty, List.nodup_nil, fun id t ht => by cases ht⟩

/-- One `ChangeTileMetadata` on the empty workspace: a tile in no column. -/
theorem changeTileMetadata_not_complete :
    ¬ StepsMeet opStep (fun ws op => Complete (applyOp ws op))
        (GlobalWorkspace.empty 1 1 "host" "fp")
        [⟨1, 1, 0, .changeTileMetadata (sampleTile 2 1 7)⟩] := by
  rintro ⟨hcomplete, -⟩
  have hmem := hcomplete.housed.mem 2 (sampleTile 2 1 7) rfl
  exact absurd hmem List.not_mem_nil

end Cidre.Link
