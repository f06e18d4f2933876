/-
  Cidre.Link.Geometry

  The rectangles of the shared workspace and the tile under a point.

  `tile_geometries` goes through the columns from left to right and through the
  tiles of a column from top to bottom; both loops only move forward, by a size of
  at least one.  So a rectangle that comes later starts where an earlier one has
  ended, to the right of its column or below it, and a point lies in one at most:
  `hit_test_tile` and `owner_for_hit` find it in whatever order they look.

  Points have rational coordinates, as finite floating-point numbers do.
-/

import Mathlib.Data.Rat.Cast.Order
import Cidre.Link.Columns
import Cidre.Link.Positions

namespace Cidre.Link

/-! ## Points and hits -/

structure Point where
  x : ℚ
  y : ℚ
deriving DecidableEq

namespace TileGeometry

/-- The test of `hit_test_tile` and `owner_for_hit`. -/
def contains (g : TileGeometry) (p : Point) : Bool :=
  (g.logicalX : ℚ) ≤ p.x && (g.logicalY : ℚ) ≤ p.y &&
    p.x < (g.logicalX : ℚ) + g.logicalWidth && p.y < (g.logicalY : ℚ) + g.logicalHeight

/-- `b` starts to the right of `a` or below it. -/
def Before (a b : TileGeometry) : Prop :=
  a.logicalX + a.logicalWidth ≤ b.logicalX ∨ a.logicalY + a.logicalHeight ≤ b.logicalY

/-- No point is in both. -/
def Disjoint (a b : TileGeometry) : Prop := ∀ p, ¬ (a.contains p = true ∧ b.contains p = true)

theorem contains_iff {g : TileGeometry} {p : Point} :
    g.contains p = true ↔
      ((g.logicalX : ℚ) ≤ p.x ∧ (g.logicalY : ℚ) ≤ p.y) ∧
        p.x < (g.logicalX : ℚ) + g.logicalWidth ∧ p.y < (g.logicalY : ℚ) + g.logicalHeight := by
  simp only [contains, Bool.and_eq_true, decide_eq_true_eq, and_assoc]

theorem Before.disjoint {a b : TileGeometry} (h : a.Before b) : a.Disjoint b := by
  rintro p ⟨ha, hb⟩
  obtain ⟨-, hright, hbottom⟩ := contains_iff.mp ha
  obtain ⟨⟨hleft, htop⟩, -⟩ := contains_iff.mp hb
  rcases h with hx | hy
  · have hcast : (a.logicalX : ℚ) + a.logicalWidth ≤ b.logicalX := by exact_mod_cast hx
    exact absurd hright (not_lt.mpr (hcast.trans hleft))
  · have hcast : (a.logicalY : ℚ) + a.logicalHeight ≤ b.logicalY := by exact_mod_cast hy
    exact absurd hbottom (not_lt.mpr (hcast.trans htop))

end TileGeometry

/-- `hit_test_tile`. -/
def hitTestTile (ws : GlobalWorkspace) (p : Point) : Option TileGeometry :=
  (tileGeometries ws).find? fun g => g.contains p

/-- `owner_for_hit`. -/
def ownerForHit (tiles : List TileGeometry) (p : Point) : Option (TileId × NodeId) :=
  (tiles.find? fun g => g.contains p).map fun g => (g.tileId, g.ownerNodeId)

/-! ## Searches with one hit -/

section Find

variable {α : Type*} {p : α → Bool} {l l' : List α}

/-- Where at most one element has the property, the search returns it. -/
theorem find?_eq_some_iff_of_pairwise (h : l.Pairwise fun a b => ¬ (p a = true ∧ p b = true))
    {a : α} : l.find? p = some a ↔ a ∈ l ∧ p a = true := by
  constructor
  · intro hfind
    exact ⟨List.mem_of_find?_eq_some hfind, List.find?_some hfind⟩
  · rintro ⟨hmem, hpa⟩
    induction l with
    | nil => cases hmem
    | cons b l ih =>
      obtain ⟨hhead, htail⟩ := List.pairwise_cons.mp h
      rcases List.mem_cons.mp hmem with rfl | hmem
      · exact List.find?_cons_of_pos hpa
      · have hpb : ¬ p b = true := fun hpb => hhead a hmem ⟨hpb, hpa⟩
        rw [List.find?_cons_of_neg hpb]
        exact ih htail hmem

/-- Such a search does not depend on the order. -/
theorem find?_perm_of_pairwise (h : l.Pairwise fun a b => ¬ (p a = true ∧ p b = true))
    (hperm : l'.Perm l) : l'.find? p = l.find? p := by
  have h' : l'.Pairwise fun a b => ¬ (p a = true ∧ p b = true) :=
    hperm.symm.pairwise h fun hab hba => hab hba.symm
  refine Option.ext fun a => ?_
  rw [find?_eq_some_iff_of_pairwise h', find?_eq_some_iff_of_pairwise h, hperm.mem_iff]

end Find

/-! ## A column -/

/-- One rectangle after the other from `y` on, with nothing in between. -/
def Stacked : Int → List TileGeometry → Prop
  | _, [] => True
  | y, g :: gs => g.logicalY = y ∧ Stacked (y + g.logicalHeight) gs

/-- The rectangles of column `c`. -/
structure ColumnLaid (ws : GlobalWorkspace) (c : ColumnId) (col : List TileGeometry) : Prop where
  ids : col.map (·.tileId) = columnTileIds ws c
  aligned : ∃ x width, ∀ g ∈ col, g.logicalX = x ∧ g.logicalWidth = width
  stacked : Stacked 0 col
  sized : ∀ g ∈ col, ∃ t, ws.tiles.get g.tileId = some t ∧ g.logicalHeight = tileHeight t ∧
    tileWidth t ≤ g.logicalWidth

theorem tileHeight_pos (t : TileMetadata) : 1 ≤ tileHeight t := le_max_left _ _

theorem columnWidth_pos (tiles : List TileMetadata) : 1 ≤ columnWidth tiles := by
  have hfold : ∀ (tiles : List TileMetadata) (w : Int), 1 ≤ w →
      1 ≤ tiles.foldl (fun width t => max width (tileWidth t)) w := by
    intro tiles
    induction tiles with
    | nil => exact fun w hw => hw
    | cons t tiles ih => exact fun w hw => ih _ (hw.trans (le_max_left _ _))
  exact hfold tiles 1 le_rfl

/-- No tile is wider than its column. -/
theorem tileWidth_le_columnWidth {tiles : List TileMetadata} {t : TileMetadata} (ht : t ∈ tiles) :
    tileWidth t ≤ columnWidth tiles := by
  have hmono : ∀ (tiles : List TileMetadata) (w : Int),
      w ≤ tiles.foldl (fun width t => max width (tileWidth t)) w := by
    intro tiles
    induction tiles with
    | nil => exact fun w => le_rfl
    | cons t tiles ih => exact fun w => (le_max_left _ _).trans (ih _)
  have hfold : ∀ (tiles : List TileMetadata) (w : Int), t ∈ tiles →
      tileWidth t ≤ tiles.foldl (fun width t => max width (tileWidth t)) w := by
    intro tiles
    induction tiles with
    | nil => exact fun w h => absurd h List.not_mem_nil
    | cons t' tiles ih =>
      intro w h
      rcases List.mem_cons.mp h with rfl | h
      · exact (le_max_right _ _).trans (hmono tiles _)
      · exact ih _ h
  exact hfold tiles 1 ht

section Stack

variable {c : ColumnId} {x width y : Int} {tiles : List TileMetadata} {g : TileGeometry}

theorem mem_stackTiles (h : g ∈ stackTiles c x width y tiles) :
    g.columnId = c ∧ g.logicalX = x ∧ g.logicalWidth = width ∧ y ≤ g.logicalY := by
  induction tiles generalizing y with
  | nil => cases h
  | cons t tiles ih =>
    rw [stackTiles] at h
    rcases List.mem_cons.mp h with rfl | h
    · exact ⟨rfl, rfl, rfl, le_rfl⟩
    · obtain ⟨hc, hx, hw, hy⟩ := ih h
      have hpos := tileHeight_pos t
      exact ⟨hc, hx, hw, by omega⟩

theorem exists_of_mem_stackTiles (h : g ∈ stackTiles c x width y tiles) :
    ∃ t ∈ tiles, g.tileId = t.tileId ∧ g.logicalHeight = tileHeight t := by
  induction tiles generalizing y with
  | nil => cases h
  | cons t tiles ih =>
    rw [stackTiles] at h
    rcases List.mem_cons.mp h with rfl | h
    · exact ⟨t, List.mem_cons_self, rfl, rfl⟩
    · obtain ⟨t', ht', heq⟩ := ih h
      exact ⟨t', List.mem_cons_of_mem t ht', heq⟩

theorem stacked_stackTiles (c : ColumnId) (x width y : Int) (tiles : List TileMetadata) :
    Stacked y (stackTiles c x width y tiles) := by
  induction tiles generalizing y with
  | nil => exact trivial
  | cons t tiles ih => exact ⟨rfl, ih (y + tileHeight t)⟩

/-- Each tile of a column lies above the ones that follow. -/
theorem stackTiles_before (c : ColumnId) (x width y : Int) (tiles : List TileMetadata) :
    (stackTiles c x width y tiles).Pairwise TileGeometry.Before := by
  induction tiles generalizing y with
  | nil => exact .nil
  | cons t tiles ih =>
    refine .cons (fun g hg => Or.inr ?_) (ih _)
    exact (mem_stackTiles hg).2.2.2

end Stack

/-! ## The columns -/

section Plane

variable {ws : GlobalWorkspace} {ordered : SortedMap ColumnId (List TileId)}

theorem mem_columnGeometries {x : Int} {columns : List ColumnId} {g : TileGeometry}
    (h : g ∈ columnGeometries ws ordered x columns) : g.columnId ∈ columns ∧ x ≤ g.logicalX := by
  induction columns generalizing x with
  | nil => cases h
  | cons c columns ih =>
    rw [columnGeometries] at h
    cases hget : ordered.get c with
    | none =>
      rw [hget] at h
      obtain ⟨hmem, hx⟩ := ih h
      exact ⟨List.mem_cons_of_mem c hmem, hx⟩
    | some tileIds =>
      rw [hget] at h
      rcases List.mem_append.mp h with h | h
      · obtain ⟨hc, hx, -⟩ := mem_stackTiles h
        rw [hc, hx]
        exact ⟨List.mem_cons_self, le_rfl⟩
      · obtain ⟨hmem, hx⟩ := ih h
        have hpos := columnWidth_pos (tileIds.filterMap ws.tiles.get)
        exact ⟨List.mem_cons_of_mem c hmem, by omega⟩

/-- A rectangle comes before the ones that follow it in the list. -/
theorem columnGeometries_before (ws : GlobalWorkspace)
    (ordered : SortedMap ColumnId (List TileId)) (x : Int) (columns : List ColumnId) :
    (columnGeometries ws ordered x columns).Pairwise TileGeometry.Before := by
  induction columns generalizing x with
  | nil => exact .nil
  | cons c columns ih =>
    rw [columnGeometries]
    cases ordered.get c with
    | none => exact ih x
    | some tileIds =>
      refine List.pairwise_append.mpr ⟨stackTiles_before _ _ _ _ _, ih _, fun a ha b hb => ?_⟩
      obtain ⟨-, hx, hw, -⟩ := mem_stackTiles ha
      have hb' := (mem_columnGeometries hb).2
      left
      rw [hx, hw]
      exact hb'

/-- The rectangles of a listed column, among all of them. -/
theorem filter_columnGeometries (ws : GlobalWorkspace)
    (ordered : SortedMap ColumnId (List TileId)) {columns : List ColumnId} {c : ColumnId}
    (hnodup : columns.Nodup) (hc : c ∈ columns) (x : Int) :
    ∃ x', (columnGeometries ws ordered x columns).filter (fun g => g.columnId = c) =
      stackTiles c x' (columnWidth (((ordered.get c).getD []).filterMap ws.tiles.get)) 0
        (((ordered.get c).getD []).filterMap ws.tiles.get) := by
  have hnone : ∀ (x : Int) (columns : List ColumnId), c ∉ columns →
      (columnGeometries ws ordered x columns).filter (fun g => g.columnId = c) = [] := by
    intro x columns hnot
    rw [List.filter_eq_nil_iff]
    intro g hg hcol
    have hmem := (mem_columnGeometries hg).1
    rw [of_decide_eq_true hcol] at hmem
    exact hnot hmem
  induction columns generalizing x with
  | nil => cases hc
  | cons d columns ih =>
    obtain ⟨hnot, hnodup⟩ := List.nodup_cons.mp hnodup
    rw [columnGeometries]
    by_cases hdc : d = c
    · subst hdc
      cases hget : ordered.get d with
      | none => exact ⟨x, hnone x columns hnot⟩
      | some tileIds =>
        refine ⟨x, ?_⟩
        dsimp only [Option.getD_some]
        rw [List.filter_append, hnone _ columns hnot, List.append_nil, List.filter_eq_self]
        intro g hg
        exact decide_eq_true (mem_stackTiles hg).1
    · have hmem : c ∈ columns := by
        rcases List.mem_cons.mp hc with rfl | hmem
        · exact absurd rfl hdc
        · exact hmem
      cases hget : ordered.get d with
      | none => exact ih hnodup hmem x
      | some tileIds =>
        obtain ⟨x', hx'⟩ := ih hnodup hmem (x + columnWidth (tileIds.filterMap ws.tiles.get))
        refine ⟨x', ?_⟩
        dsimp only
        rw [List.filter_append, hx', List.filter_eq_nil_iff.mpr, List.nil_append]
        intro g hg hcol
        rw [(mem_stackTiles hg).1] at hcol
        exact hdc (of_decide_eq_true hcol)

theorem columnLaid (hkeyed : ws.Keyed) (hnodup : ws.columns.Nodup) {c : ColumnId}
    (hc : c ∈ ws.columns) :
    ColumnLaid ws c ((tileGeometries ws).filter fun g => g.columnId = c) := by
  obtain ⟨x, hx⟩ := filter_columnGeometries ws (orderedColumnTiles ws) hnodup hc 0
  have htiles := hkeyed.filterMap_columnTileIds c
  rw [columnTileIds] at htiles
  rw [tileGeometries, hx, htiles]
  refine ⟨?_, ⟨x, columnWidth (columnTiles ws c), fun g hg => ?_⟩, stacked_stackTiles _ _ _ _ _,
    fun g hg => ?_⟩
  · rw [map_tileId_stackTiles, columnTileIds_eq]
  · obtain ⟨-, hgx, hgw, -⟩ := mem_stackTiles hg
    exact ⟨hgx, hgw⟩
  · obtain ⟨t, ht, hid, hheight⟩ := exists_of_mem_stackTiles hg
    obtain ⟨-, -, hgw, -⟩ := mem_stackTiles hg
    refine ⟨t, ?_, hheight, ?_⟩
    · rw [hid]
      exact (hkeyed.mem_columnTiles.mp ht).1
    · rw [hgw]
      exact tileWidth_le_columnWidth ht

theorem tileGeometries_disjoint (ws : GlobalWorkspace) :
    (tileGeometries ws).Pairwise TileGeometry.Disjoint :=
  (columnGeometries_before ws _ 0 ws.columns).imp TileGeometry.Before.disjoint

/-- At most one rectangle contains the point. -/
theorem tileGeometries_exclusive (ws : GlobalWorkspace) (p : Point) :
    (tileGeometries ws).Pairwise fun a b => ¬ (a.contains p = true ∧ b.contains p = true) :=
  (tileGeometries_disjoint ws).imp fun h => h p

end Plane

/-- The rectangles are disjoint, the tiles of a column are stacked in their order,
and the tile under a point is the one whose rectangle contains it, in whatever
order the rectangles are searched. -/
theorem geometries_tile_plane {ws : GlobalWorkspace} (hkeyed : ws.Keyed)
    (hnodup : ws.columns.Nodup) :
    (tileGeometries ws).Pairwise TileGeometry.Disjoint ∧
      (∀ c ∈ ws.columns, ColumnLaid ws c ((tileGeometries ws).filter fun g => g.columnId = c)) ∧
      ∀ p,
        (∀ g, hitTestTile ws p = some g ↔ g ∈ tileGeometries ws ∧ g.contains p = true) ∧
          (hitTestTile ws p = none ↔ ∀ g ∈ tileGeometries ws, g.contains p = false) ∧
          ∀ l, l.Perm (tileGeometries ws) →
            l.find? (fun g => g.contains p) = hitTestTile ws p ∧
              ownerForHit l p = (hitTestTile ws p).map fun g => (g.tileId, g.ownerNodeId) := by
  refine ⟨tileGeometries_disjoint ws, fun c hc => columnLaid hkeyed hnodup hc, fun p => ?_⟩
  have hexclusive := tileGeometries_exclusive ws p
  refine ⟨fun g => find?_eq_some_iff_of_pairwise hexclusive, ?_, fun l hl => ?_⟩
  · rw [hitTestTile, List.find?_eq_none]
    simp
  · have hfind := find?_perm_of_pairwise hexclusive hl
    exact ⟨hfind, by rw [ownerForHit, hfind, hitTestTile]⟩

/-- Tiles 1 and 2 in column 7, tile 3 in the column on its right. -/
def twoColumns : GlobalWorkspace :=
  { GlobalWorkspace.empty 1 1 "host" "fp" with
    columns := [7, 8]
    tiles := ((SortedMap.empty.insert 1 (sampleTile 1 1 7)).insert 2 (sampleTile 2 2 7)).insert 3
      (sampleTile 3 1 8) }

theorem twoColumns_keyed : twoColumns.Keyed :=
  ((SortedMap.keyedBy_empty.insert (sampleTile 1 1 7)).insert (sampleTile 2 2 7)).insert
    (sampleTile 3 1 8)

theorem tileGeometries_twoColumns : tileGeometries twoColumns =
    [⟨1, 1, 7, 0, 0, 800, 600⟩, ⟨2, 2, 7, 0, 600, 800, 600⟩, ⟨3, 1, 8, 800, 0, 800, 600⟩] := by
  rw [tileGeometries, orderedColumnTiles, sortedTiles, List.mergeSort_of_pairwise (by decide)]
  decide

/-- A point below the first tile of column 7 is in the second one; below both columns
there is no tile. -/
theorem geometries_of_twoColumns :
    (tileGeometries twoColumns).Pairwise TileGeometry.Disjoint ∧
      (∃ col, ColumnLaid twoColumns 7 col ∧ col.map (·.tileId) = [1, 2]) ∧
      hitTestTile twoColumns ⟨100, 700⟩ = some ⟨2, 2, 7, 0, 600, 800, 600⟩ ∧
      hitTestTile twoColumns ⟨100, 1200⟩ = none := by
  obtain ⟨hdisjoint, hlaid, hhit⟩ :=
    geometries_tile_plane twoColumns_keyed (by decide : twoColumns.columns.Nodup)
  refine ⟨hdisjoint, ⟨_, hlaid 7 (by decide), ?_⟩, ?_, ?_⟩
  · rw [tileGeometries_twoColumns]
    rfl
  · refine ((hhit ⟨100, 700⟩).1 _).mpr ?_
    rw [tileGeometries_twoColumns]
    decide +kernel
  · refine (hhit ⟨100, 1200⟩).2.1.mpr ?_
    rw [tileGeometries_twoColumns]
    decide +kernel

end Cidre.Link
