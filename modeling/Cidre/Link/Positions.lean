/-
  Cidre.Link.Positions

  Where `InsertTile` and `MoveTile` put a tile.

  Both compute the new list of the destination column and hand it to
  `rewrite_column_membership`, which writes the column of every tile and not its
  `column_tile_index`.  The list is therefore lost: the next reader sorts the
  tiles again, and a tile comes after those of a smaller rank, whatever `index`
  was (`columnTiles_place`).  The operation means what it says exactly when that
  place is the requested one.
-/

import Mathlib.Data.List.InsertIdx
import Cidre.Link.LayoutSync

namespace Cidre.Link

/-! ## Insertion into a sorted list -/

section Sorted

variable {α β : Type*} [LinearOrder β] {f : α → β} {x : α} {l : List α}

/-- A new element of a sorted list stands behind the smaller ones. -/
theorem pairwise_insertIdx_countP (hl : l.Pairwise fun a b => f a < f b)
    (hx : ∀ a ∈ l, f a ≠ f x) :
    (l.insertIdx (l.countP fun a => f a < f x) x).Pairwise fun a b => f a < f b := by
  induction l with
  | nil => simp
  | cons b l ih =>
    obtain ⟨hhead, htail⟩ := List.pairwise_cons.mp hl
    have hxl : ∀ a ∈ l, f a ≠ f x := fun a ha => hx a (List.mem_cons_of_mem b ha)
    rcases lt_or_gt_of_ne (hx b List.mem_cons_self) with hlt | hgt
    · rw [List.countP_cons_of_pos (by simpa using hlt), List.insertIdx_succ_cons]
      refine List.pairwise_cons.mpr ⟨fun a ha => ?_, ih htail hxl⟩
      rcases (List.mem_insertIdx List.countP_le_length).mp ha with rfl | hmem
      · exact hlt
      · exact hhead a hmem
    · -- nothing further on is smaller than the new element
      have hzero : (b :: l).countP (fun a => f a < f x) = 0 := by
        rw [List.countP_eq_zero]
        intro a ha
        have hle : f x < f a := by
          rcases List.mem_cons.mp ha with rfl | hmem
          · exact hgt
          · exact hgt.trans (hhead a hmem)
        simpa using hle.le
      rw [hzero, List.insertIdx_zero]
      refine List.pairwise_cons.mpr ⟨fun a ha => ?_, hl⟩
      rcases List.mem_cons.mp ha with rfl | hmem
      · exact hgt
      · exact hgt.trans (hhead a hmem)

end Sorted

/-- A new element tells where it was inserted. -/
theorem insertIdx_eq_insertIdx_iff {α : Type*} {l : List α} {x : α} {i j : Nat} (hx : x ∉ l)
    (hi : i ≤ l.length) (hj : j ≤ l.length) : l.insertIdx i x = l.insertIdx j x ↔ i = j := by
  have hfind : ∀ k ≤ l.length, ∀ n, (l.insertIdx k x)[n]? = some x → n = k := by
    intro k hk n hn
    rw [List.getElem?_insertIdx] at hn
    split at hn
    · exact absurd (List.mem_of_getElem? hn) hx
    · split at hn
      · assumption
      · exact absurd (List.mem_of_getElem? hn) hx
  constructor
  · intro h
    refine hfind j hj i ?_
    rw [← h, List.getElem?_insertIdx_self, if_pos hi]
  · intro h
    rw [h]

/-! ## The place of a tile -/

/-- The ids of `ids` other than `id`. -/
def without (id : TileId) (ids : List TileId) : List TileId := ids.filter fun i => i ≠ id

/-- The tiles of the column that sort before `tile`, itself apart. -/
def position (ws : GlobalWorkspace) (tile : TileMetadata) : Nat :=
  ((columnTiles ws tile.columnId).filter fun t => t.tileId ≠ tile.tileId).countP
    fun t => t.rank < tile.rank

/-- The tile is at `index` of column `c`, or at its end, and nothing else moved. -/
def PlacedAt (before after : ColumnId → List TileId) (c : ColumnId) (index : Nat) (id : TileId) :
    Prop :=
  after c = (before c).insertIdx (min index (before c).length) id ∧
    ∀ c', c' ≠ c → after c' = before c'

section Place

variable {ws ws' : GlobalWorkspace} {tile : TileMetadata}

theorem position_le (ws : GlobalWorkspace) (tile : TileMetadata) :
    position ws tile ≤
      ((columnTiles ws tile.columnId).filter fun t => t.tileId ≠ tile.tileId).length :=
  List.countP_le_length

theorem without_columnTileIds (ws : GlobalWorkspace) (id : TileId) (c : ColumnId) :
    without id (columnTileIds ws c) =
      ((columnTiles ws c).filter fun t => t.tileId ≠ id).map (·.tileId) := by
  rw [without, columnTileIds_eq, List.filter_map]
  rfl

/-- Setting one tile: the other columns lose it, its own has it at `position`. -/
theorem columnTiles_place (h : ws.Keyed) (h' : ws'.Keyed)
    (hget : ws'.tiles.get tile.tileId = some tile)
    (hother : ∀ id, id ≠ tile.tileId → ws'.tiles.get id = ws.tiles.get id) (c : ColumnId) :
    columnTiles ws' c =
      if c = tile.columnId then
        ((columnTiles ws c).filter fun t => t.tileId ≠ tile.tileId).insertIdx
          (position ws tile) tile
      else (columnTiles ws c).filter fun t => t.tileId ≠ tile.tileId := by
  have hsorted : ((columnTiles ws c).filter fun t => t.tileId ≠ tile.tileId).Pairwise
      fun a b => a.rank < b.rank := (h.columnTiles_sorted c).filter _
  -- the other tiles of the column are the same before and after
  have hmem : ∀ t, t ∈ (columnTiles ws c).filter (fun t => t.tileId ≠ tile.tileId) ↔
      (ws'.tiles.get t.tileId = some t ∧ t.columnId = c) ∧ t.tileId ≠ tile.tileId := by
    intro t
    rw [List.mem_filter, h.mem_columnTiles, decide_eq_true_eq]
    constructor
    · rintro ⟨⟨hgett, hcol⟩, hne⟩
      exact ⟨⟨(hother _ hne).trans hgett, hcol⟩, hne⟩
    · rintro ⟨⟨hgett, hcol⟩, hne⟩
      exact ⟨⟨(hother _ hne).symm.trans hgett, hcol⟩, hne⟩
  have hself : ∀ t, ws'.tiles.get t.tileId = some t → t.tileId = tile.tileId → t = tile := by
    intro t hgett hid
    rw [hid, hget] at hgett
    exact (Option.some.inj hgett).symm
  split
  · rename_i hc
    subst hc
    refine h'.columnTiles_eq ?_ fun t => ?_
    · rw [position]
      refine pairwise_insertIdx_countP hsorted fun t ht heq => ?_
      have hid : t.tileId = tile.tileId := congrArg (fun r => (ofLex r).2) heq
      exact ((hmem t).mp ht).2 hid
    · rw [List.mem_insertIdx (position_le ws tile), hmem]
      constructor
      · rintro (rfl | ⟨hin, -⟩)
        · exact ⟨hget, rfl⟩
        · exact hin
      · rintro ⟨hgett, hcol⟩
        by_cases hid : t.tileId = tile.tileId
        · exact Or.inl (hself t hgett hid)
        · exact Or.inr ⟨⟨hgett, hcol⟩, hid⟩
  · rename_i hc
    refine h'.columnTiles_eq hsorted fun t => ?_
    rw [hmem]
    constructor
    · exact And.left
    · rintro ⟨hgett, hcol⟩
      refine ⟨⟨hgett, hcol⟩, fun hid => hc ?_⟩
      rw [← hcol, hself t hgett hid]

/-- Setting one tile places it where its rank says. -/
theorem placedAt_iff (tile : TileMetadata) (h : ws.Keyed) (h' : ws'.Keyed)
    (hget : ws'.tiles.get tile.tileId = some tile)
    (hother : ∀ id, id ≠ tile.tileId → ws'.tiles.get id = ws.tiles.get id) (index : Nat) :
    PlacedAt (fun c => without tile.tileId (columnTileIds ws c)) (columnTileIds ws') tile.columnId
        index tile.tileId ↔
      position ws tile =
        min index (without tile.tileId (columnTileIds ws tile.columnId)).length := by
  have hplace := columnTiles_place h h' hget hother
  have hown : columnTileIds ws' tile.columnId =
      (without tile.tileId (columnTileIds ws tile.columnId)).insertIdx (position ws tile)
        tile.tileId := by
    rw [columnTileIds_eq, hplace, if_pos rfl, List.map_insertIdx, without_columnTileIds]
  have hothers : ∀ c, c ≠ tile.columnId →
      columnTileIds ws' c = without tile.tileId (columnTileIds ws c) := by
    intro c hc
    rw [columnTileIds_eq, hplace, if_neg hc, without_columnTileIds]
  have hfresh : tile.tileId ∉ without tile.tileId (columnTileIds ws tile.columnId) := by
    simp [without]
  have hle : position ws tile ≤ (without tile.tileId (columnTileIds ws tile.columnId)).length := by
    rw [without_columnTileIds, List.length_map]
    exact position_le ws tile
  rw [PlacedAt, hown, insertIdx_eq_insertIdx_iff hfresh hle (min_le_right _ _)]
  exact and_iff_left hothers

end Place

/-! ## InsertTile and MoveTile -/

section Operations

variable {ws : GlobalWorkspace}

theorem without_of_get_none (h : ws.Keyed) {id : TileId} (hid : ws.tiles.get id = none)
    (c : ColumnId) : without id (columnTileIds ws c) = columnTileIds ws c := by
  rw [without, List.filter_eq_self]
  intro i hi
  obtain ⟨t, ht, -⟩ := h.mem_columnTileIds hi
  have hne : i ≠ id := by
    rintro rfl
    rw [hid] at ht
    cases ht
  simpa using hne

theorem insertTile_placedAt_iff (h : ws.Keyed) {op : LayoutOp} {tile : TileMetadata} {index : Nat}
    (hop : op.kind = .insertTile tile index) (hfresh : ws.tiles.get tile.tileId = none) :
    PlacedAt (columnTileIds ws) (columnTileIds (applyOp ws op)) tile.columnId index tile.tileId ↔
      position ws tile = min index (columnTileIds ws tile.columnId).length := by
  have htiles : (applyOp ws op).tiles = ws.tiles.insert tile.tileId tile := by
    have hview := congrArg LayoutView.tiles (h.view_applyOp op)
    rw [hop] at hview
    exact hview
  have hiff := placedAt_iff tile h (h.applyOp op)
    (by rw [htiles, SortedMap.get_insert, if_pos rfl])
    (fun id hid => by rw [htiles, SortedMap.get_insert, if_neg hid]) index
  simp only [without_of_get_none h hfresh] at hiff
  exact hiff

theorem moveTile_placedAt_iff (h : ws.Keyed) {op : LayoutOp} {tile : TileMetadata}
    {columnId : ColumnId} {index : Nat} (hop : op.kind = .moveTile tile.tileId columnId index)
    (hget : ws.tiles.get tile.tileId = some tile) :
    PlacedAt (fun c => without tile.tileId (columnTileIds ws c)) (columnTileIds (applyOp ws op))
        columnId index tile.tileId ↔
      position ws { tile with columnId } =
        min index (without tile.tileId (columnTileIds ws columnId)).length := by
  have htiles : (applyOp ws op).tiles =
      ws.tiles.modify tile.tileId fun t => { t with columnId } := by
    have hview := congrArg LayoutView.tiles (h.view_applyOp op)
    have hmem : ws.view.tiles.contains tile.tileId = true := by
      rw [SortedMap.contains]
      exact Option.isSome_iff_exists.mpr ⟨tile, hget⟩
    rw [hop, LayoutView.apply, if_pos hmem, LayoutView.modify, LayoutView.tiles_pushColumn] at hview
    exact hview
  exact placedAt_iff { tile with columnId } h (h.applyOp op)
    (by rw [htiles, SortedMap.get_modify, if_pos rfl, hget, Option.map_some])
    (fun id hid => by rw [htiles, SortedMap.get_modify, if_neg hid]) index

/-- The operations put a tile at the requested place if and only if its rank
puts it there: `index` itself is never stored. -/
theorem insert_move_placed_iff (h : ws.Keyed) :
    (∀ op tile index, op.kind = .insertTile tile index → ws.tiles.get tile.tileId = none →
      (PlacedAt (columnTileIds ws) (columnTileIds (applyOp ws op)) tile.columnId index tile.tileId ↔
        position ws tile = min index (columnTileIds ws tile.columnId).length)) ∧
    (∀ op tile columnId index, op.kind = .moveTile tile.tileId columnId index →
      ws.tiles.get tile.tileId = some tile →
      (PlacedAt (fun c => without tile.tileId (columnTileIds ws c))
          (columnTileIds (applyOp ws op)) columnId index tile.tileId ↔
        position ws { tile with columnId } =
          min index (without tile.tileId (columnTileIds ws columnId)).length)) :=
  ⟨fun _ _ _ hop hfresh => insertTile_placedAt_iff h hop hfresh,
    fun _ _ _ _ hop hget => moveTile_placedAt_iff h hop hget⟩

end Operations

/-! ## A column of one tile -/

/-- Tile 1 in column 7. -/
def oneTile : GlobalWorkspace :=
  { GlobalWorkspace.empty 1 1 "host" "fp" with
    columns := [7]
    tiles := SortedMap.empty.insert 1 (sampleTile 1 1 7) }

theorem oneTile_keyed : oneTile.Keyed :=
  SortedMap.KeyedBy.insert SortedMap.keyedBy_empty (sampleTile 1 1 7)

theorem columnTiles_oneTile : columnTiles oneTile 7 = [sampleTile 1 1 7] := by
  have hvalues : oneTile.tiles.values = [sampleTile 1 1 7] := rfl
  rw [columnTiles, sortedTiles, hvalues, List.mergeSort_singleton]
  rfl

/-- Tile 2 sorts after tile 1: it can be appended, and the theorem applies. -/
theorem insert_move_placed_append :
    let op : LayoutOp := ⟨1, 1, 0, .insertTile (sampleTile 2 1 7) 1⟩
    PlacedAt (columnTileIds oneTile) (columnTileIds (applyOp oneTile op)) 7 1 2 := by
  refine ((insert_move_placed_iff oneTile_keyed).1 ⟨1, 1, 0, .insertTile (sampleTile 2 1 7) 1⟩
    (sampleTile 2 1 7) 1 rfl rfl).mpr ?_
  rw [columnTileIds_eq, position]
  dsimp only [sampleTile]
  rw [columnTiles_oneTile]
  decide

/-- An insertion at index 0 puts tile 2 behind tile 1 all the same. -/
theorem insert_at_front_not_placed :
    let op : LayoutOp := ⟨1, 1, 0, .insertTile (sampleTile 2 1 7) 0⟩
    ¬ PlacedAt (columnTileIds oneTile) (columnTileIds (applyOp oneTile op)) 7 0 2 := by
  intro op hplaced
  have hpos := (insertTile_placedAt_iff oneTile_keyed (rfl : op.kind = .insertTile _ 0) rfl).mp
    hplaced
  rw [columnTileIds_eq, position] at hpos
  dsimp only [sampleTile] at hpos
  rw [columnTiles_oneTile] at hpos
  revert hpos
  decide

end Cidre.Link
