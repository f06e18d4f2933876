/-
  Cidre.Link.LayoutSync

  Layout operations on the global workspace (`src/link/layout_sync.rs`).

  The order of the tiles of a column is not stored: `orderedColumnTiles` sorts
  all tiles by (column, index in the column, id).  `columnTiles` is the same for
  one column, and the lemmas below say of it what a sorted list is determined
  by: it is strictly increasing in the rank of a tile and holds the tiles of the
  column (`columnTiles_eq`).

  `rewrite_column_membership` writes the column of the listed tiles and nothing
  else.  In a workspace that files every tile under its own id (`Keyed`, which
  every operation keeps) the tiles it is given are in that column already, so
  the operations have the short forms `insertTile_eq`, `removeTile_eq` and
  `moveTile_eq`.  `LayoutView` is what they then act on: the tiles by id, the
  columns and the focus, with no list of the tiles of a column anywhere.

  Logical positions are sums of 32-bit sizes and are kept as integers.
-/

import Mathlib.Data.Prod.Lex
import Cidre.Link.Protocol

namespace Cidre.Link

/-! ## The operation log -/

structure SequencedOp where
  seq : U64
  op : LayoutOp
deriving DecidableEq

structure OperationLog where
  ops : List SequencedOp
deriving DecidableEq

namespace OperationLog

def default : OperationLog := ⟨[]⟩

def push (log : OperationLog) (op : LayoutOp) : OperationLog := ⟨log.ops ++ [⟨op.seq, op⟩]⟩

def lastSeq (log : OperationLog) : U64 := (log.ops.getLast?.map SequencedOp.seq).getD 0

@[simp] theorem lastSeq_push (log : OperationLog) (op : LayoutOp) :
    (log.push op).lastSeq = op.seq := by
  simp [lastSeq, push]

/-- `has_gap_after`: the first entry that is not below the expected number. -/
def hasGapAfter (log : OperationLog) (expectedNextSeq : U64) : Bool :=
  (log.ops.dropWhile fun it => it.seq < expectedNextSeq).head?.any fun it =>
    it.seq ≠ expectedNextSeq

/-- What the pushes of a run leave. -/
def received (ops : List LayoutOp) : OperationLog := ops.foldl push .default

/-- An operation above `n` was received, and `n` was not. -/
def Missing (log : OperationLog) (n : U64) : Prop :=
  (∃ it ∈ log.ops, n < it.seq) ∧ ¬ ∃ it ∈ log.ops, it.seq = n

/-- If operation `n` was received at all, those received before it are below it. -/
def InTurn (log : OperationLog) (n : U64) : Prop :=
  (∃ it ∈ log.ops, it.seq = n) → ∀ it ∈ log.ops.takeWhile (fun it => it.seq ≠ n), it.seq < n

theorem gap_iff_missing_iff (l : List SequencedOp) (n : U64) :
    (((l.dropWhile fun it => it.seq < n).head?.any fun it => it.seq ≠ n) = true ↔
        Missing ⟨l⟩ n) ↔ InTurn ⟨l⟩ n := by
  induction l with
  | nil => simp [Missing, InTurn]
  | cons o l ih =>
    rcases lt_trichotomy o.seq n with hlt | heq | hgt
    · -- below `n` the scan goes on, and the entry counts for nothing
      have hne : o.seq ≠ n := ne_of_lt hlt
      have hnot : ¬ n < o.seq := not_lt_of_gt hlt
      rw [List.dropWhile_cons_of_pos (by simpa using hlt)]
      have hmissing : Missing ⟨o :: l⟩ n ↔ Missing ⟨l⟩ n := by simp [Missing, hne, hnot]
      have hturn : InTurn ⟨o :: l⟩ n ↔ InTurn ⟨l⟩ n := by simp [InTurn, hne, hlt]
      rw [hmissing, hturn]
      exact ih
    · -- `n` itself: no gap, and nothing came before it
      rw [List.dropWhile_cons_of_neg (by simp [heq])]
      simp [Missing, InTurn, heq]
    · -- above `n` the scan stops with a gap, also when `n` comes later
      have hne : o.seq ≠ n := ne_of_gt hgt
      have hnot : ¬ o.seq < n := not_lt_of_gt hgt
      rw [List.dropWhile_cons_of_neg (by simpa using hnot)]
      simp [Missing, InTurn, hne, hgt, hnot]

/-- Gap detection is right about `n` exactly when no operation above `n` overtook it. -/
theorem hasGapAfter_iff (ops : List LayoutOp) (n : U64) :
    ((received ops).hasGapAfter n = true ↔ (received ops).Missing n) ↔ (received ops).InTurn n :=
  gap_iff_missing_iff _ n

/-- Operation 5 overtakes operation 3: a gap is reported after 3 was received. -/
theorem overtaken_operation_gap :
    ¬ ∀ (ops : List LayoutOp) (n : U64),
      (received ops).hasGapAfter n = true ↔ (received ops).Missing n := by
  intro h
  have hgap := (h [⟨5, 1, 0, .enterOverview⟩, ⟨3, 1, 0, .enterOverview⟩] 3).mp (by decide)
  exact hgap.2 ⟨⟨3, ⟨3, 1, 0, .enterOverview⟩⟩, by decide, rfl⟩

end OperationLog

/-- `next_generation`. -/
def nextGeneration (current : U64) : U64 := current.saturatingSucc

/-! ## The tiles of a column -/

/-- Where a tile comes among the tiles of its column. -/
def TileMetadata.rank (t : TileMetadata) : ℕ ×ₗ TileId := toLex (t.columnTileIndex, t.tileId)

/-- The sort key of `ordered_column_tiles`. -/
def TileMetadata.key (t : TileMetadata) : ColumnId ×ₗ ℕ ×ₗ TileId := toLex (t.columnId, t.rank)

section Operations

variable (ws : GlobalWorkspace)

def sortedTiles : List TileMetadata :=
  ws.tiles.values.mergeSort fun a b => decide (a.key ≤ b.key)

def orderedColumnTiles : SortedMap ColumnId (List TileId) :=
  let byColumn : SortedMap ColumnId (List TileId) :=
    ws.columns.foldl (fun m c => m.insert c ((m.get c).getD [])) .empty
  (sortedTiles ws).foldl
    (fun m t => m.insert t.columnId ((m.get t.columnId).getD [] ++ [t.tileId])) byColumn

/-- `ordered.get(column_id).cloned().unwrap_or_default()`. -/
def columnTileIds (columnId : ColumnId) : List TileId :=
  ((orderedColumnTiles ws).get columnId).getD []

def rewriteColumnMembership (columnId : ColumnId) (tileIds : List TileId) : GlobalWorkspace :=
  let tiles := (tileIds.filterMap ws.tiles.get).map fun t => { t with columnId }
  { ws with tiles := tiles.foldl (fun m t => m.insert t.tileId t) ws.tiles }

/-! ## apply_op -/

/-- Assigns to the first element with the property. -/
def updateFirst {α : Type*} (p : α → Bool) (f : α → α) : List α → List α
  | [] => []
  | a :: l => if p a then f a :: l else a :: updateFirst p f l

def pushColumn (columnId : ColumnId) : GlobalWorkspace :=
  if ws.columns.contains columnId then ws else { ws with columns := ws.columns ++ [columnId] }

def insertTile (tile : TileMetadata) (index : Nat) : GlobalWorkspace :=
  let ws := pushColumn ws tile.columnId
  let next := columnTileIds ws tile.columnId
  let next := next.insertIdx (min index next.length) tile.tileId
  let ws := { ws with tiles := ws.tiles.insert tile.tileId tile }
  rewriteColumnMembership ws tile.columnId next

def unfocus (tileId : TileId) : GlobalWorkspace :=
  if ws.focusedTile = some tileId then { ws with focusedTile := none } else ws

def removeTile (tileId : TileId) : GlobalWorkspace :=
  match ws.tiles.get tileId with
  | some tile =>
      let ws := { ws with tiles := ws.tiles.remove tileId }
      let next := (columnTileIds ws tile.columnId).filter fun id => id ≠ tileId
      unfocus (rewriteColumnMembership ws tile.columnId next) tileId
  | none => unfocus ws tileId

def moveTile (tileId : TileId) (columnId : ColumnId) (index : Nat) : GlobalWorkspace :=
  match ws.tiles.get tileId with
  | some tile =>
      let oldColumn := tile.columnId
      let ws := { ws with tiles := ws.tiles.modify tileId fun t => { t with columnId } }
      let old := (columnTileIds ws oldColumn).filter fun id => id ≠ tileId
      let new := columnTileIds ws columnId
      let ws := rewriteColumnMembership ws oldColumn old
      let new := new.insertIdx (min index new.length) tileId
      let ws := rewriteColumnMembership ws columnId new
      pushColumn ws columnId
  | none => ws

def moveColumn (columnId : ColumnId) (index : Nat) : GlobalWorkspace :=
  let columns := ws.columns.filter fun id => id ≠ columnId
  { ws with columns := columns.insertIdx (min index columns.length) columnId }

def modifyTile (tileId : TileId) (f : TileMetadata → TileMetadata) : GlobalWorkspace :=
  { ws with tiles := ws.tiles.modify tileId f }

def scrollViewport (nodeId : NodeId) (outputName : String) (globalX : F64) : GlobalWorkspace :=
  { ws with
    perNodeViewports := ws.perNodeViewports.modify nodeId
      (updateFirst (fun v => v.outputName = outputName) fun v => { v with globalX }) }

def setViewport (viewport : Viewport) : GlobalWorkspace :=
  let entry := (ws.perNodeViewports.get viewport.nodeId).getD []
  let sameOutput : Viewport → Bool := fun v => v.outputName = viewport.outputName
  let entry :=
    if entry.any sameOutput then updateFirst sameOutput (fun _ => viewport) entry
    else entry ++ [viewport]
  { ws with perNodeViewports := ws.perNodeViewports.insert viewport.nodeId entry }

def TileStateChange.apply (change : TileStateChange) (t : TileMetadata) : TileMetadata :=
  match change with
  | .fullscreen value => { t with fullscreen := value }
  | .floating value => { t with floating := value }
  | .maximized value => { t with maximized := value }

/-- What an operation does besides setting the counters. -/
def applyKind : LayoutOpKind → GlobalWorkspace
  | .insertTile tile index => insertTile ws tile index
  | .removeTile tileId => removeTile ws tileId
  | .moveTile tileId columnId index => moveTile ws tileId columnId index
  | .moveColumn columnId index => moveColumn ws columnId index
  | .resizeColumn _ _ => ws
  | .focusTile tileId => { ws with focusedTile := tileId }
  | .focusColumn columnId =>
      { ws with
        focusedTile := (ws.tiles.values.find? fun t => t.columnId = columnId).map (·.tileId) }
  | .scrollViewport nodeId outputName globalX => scrollViewport ws nodeId outputName globalX
  | .setViewport viewport => setViewport ws viewport
  | .changeTileState tileId change => modifyTile ws tileId change.apply
  | .changeTileMetadata tile => { ws with tiles := ws.tiles.insert tile.tileId tile }
  | .setFullscreen tileId value => modifyTile ws tileId fun t => { t with fullscreen := value }
  | .setFloating tileId value => modifyTile ws tileId fun t => { t with floating := value }
  | .enterOverview | .leaveOverview | .enableLink | .disableLink => ws

def applyOp (op : LayoutOp) : GlobalWorkspace :=
  applyKind { ws with operationSeq := op.seq, generation := op.generation } op.kind

end Operations

/-! ## tile_geometries -/

structure TileGeometry where
  tileId : TileId
  ownerNodeId : NodeId
  columnId : ColumnId
  logicalX : Int
  logicalY : Int
  logicalWidth : Int
  logicalHeight : Int
deriving DecidableEq, Repr

def tileWidth (t : TileMetadata) : Int := max 1 t.currentLogicalSize.1

def tileHeight (t : TileMetadata) : Int := max 1 t.currentLogicalSize.2

def columnWidth (tiles : List TileMetadata) : Int :=
  tiles.foldl (fun width t => max width (tileWidth t)) 1

/-- The tiles of a column from `y` on, before their width is set. -/
def stackTiles (columnId : ColumnId) (x width : Int) : Int → List TileMetadata → List TileGeometry
  | _, [] => []
  | y, t :: tiles =>
      { tileId := t.tileId
        ownerNodeId := t.ownerNodeId
        columnId
        logicalX := x
        logicalY := y
        logicalWidth := width
        logicalHeight := tileHeight t } :: stackTiles columnId x width (y + tileHeight t) tiles

/-- The columns from `x` on. -/
def columnGeometries (ws : GlobalWorkspace) (ordered : SortedMap ColumnId (List TileId)) :
    Int → List ColumnId → List TileGeometry
  | _, [] => []
  | x, columnId :: columns =>
      match ordered.get columnId with
      | none => columnGeometries ws ordered x columns
      | some tileIds =>
          let tiles := tileIds.filterMap ws.tiles.get
          let width := columnWidth tiles
          stackTiles columnId x width 0 tiles ++ columnGeometries ws ordered (x + width) columns

def tileGeometries (ws : GlobalWorkspace) : List TileGeometry :=
  columnGeometries ws (orderedColumnTiles ws) 0 ws.columns

/-! ## Columns as sorted lists -/

/-- The tiles of a column, in their order. -/
def columnTiles (ws : GlobalWorkspace) (columnId : ColumnId) : List TileMetadata :=
  (sortedTiles ws).filter fun t => t.columnId = columnId

/-- Every tile is filed under its own id. -/
def GlobalWorkspace.Keyed (ws : GlobalWorkspace) : Prop := ws.tiles.KeyedBy TileMetadata.tileId

section Columns

variable {ws : GlobalWorkspace} {c : ColumnId}

theorem getD_foldl_columns (columns : List ColumnId) (m : SortedMap ColumnId (List TileId))
    (hm : ∀ c, (m.get c).getD [] = []) (c : ColumnId) :
    ((columns.foldl (fun m c => m.insert c ((m.get c).getD [])) m).get c).getD [] = [] := by
  induction columns generalizing m with
  | nil => exact hm c
  | cons d columns ih =>
    refine ih _ fun c' => ?_
    rw [SortedMap.get_insert, hm d]
    split
    · rfl
    · exact hm c'

theorem getD_foldl_tiles (tiles : List TileMetadata) (m : SortedMap ColumnId (List TileId))
    (c : ColumnId) :
    ((tiles.foldl (fun m t => m.insert t.columnId ((m.get t.columnId).getD [] ++ [t.tileId]))
        m).get c).getD [] =
      (m.get c).getD [] ++ (tiles.filter fun t => t.columnId = c).map (·.tileId) := by
  induction tiles generalizing m with
  | nil => simp
  | cons t tiles ih =>
    rw [List.foldl_cons, ih, SortedMap.get_insert]
    by_cases ht : t.columnId = c
    · subst ht
      simp
    · have hne : c ≠ t.columnId := fun h => ht h.symm
      simp [ht, hne]

theorem columnTileIds_eq (ws : GlobalWorkspace) (c : ColumnId) :
    columnTileIds ws c = (columnTiles ws c).map (·.tileId) := by
  rw [columnTileIds, orderedColumnTiles, getD_foldl_tiles,
    getD_foldl_columns _ _ (fun _ => rfl), List.nil_append, columnTiles]

theorem mem_sortedTiles {t : TileMetadata} : t ∈ sortedTiles ws ↔ ∃ id, ws.tiles.get id = some t := by
  rw [sortedTiles, List.mem_mergeSort, SortedMap.mem_values_iff]

theorem GlobalWorkspace.Keyed.mem_sortedTiles (h : ws.Keyed) {t : TileMetadata} :
    t ∈ sortedTiles ws ↔ ws.tiles.get t.tileId = some t := by
  rw [Link.mem_sortedTiles]
  constructor
  · rintro ⟨id, hid⟩
    rw [h id t hid]
    exact hid
  · exact fun ht => ⟨t.tileId, ht⟩

theorem GlobalWorkspace.Keyed.mem_columnTiles (h : ws.Keyed) {t : TileMetadata} :
    t ∈ columnTiles ws c ↔ ws.tiles.get t.tileId = some t ∧ t.columnId = c := by
  rw [columnTiles, List.mem_filter, h.mem_sortedTiles, decide_eq_true_eq]

/-- The tiles of a column are strictly increasing in rank. -/
theorem GlobalWorkspace.Keyed.columnTiles_sorted (h : ws.Keyed) (c : ColumnId) :
    (columnTiles ws c).Pairwise fun a b => a.rank < b.rank := by
  have hle : (sortedTiles ws).Pairwise fun a b => decide (a.key ≤ b.key) = true :=
    List.pairwise_mergeSort (by simpa using fun a b c => le_trans)
      (by simpa using fun a b : TileMetadata => le_total a.key b.key) ws.tiles.values
  have hnodup : ((sortedTiles ws).map (·.tileId)).Nodup := by
    have hperm := (List.mergeSort_perm ws.tiles.values
      fun a b => decide (a.key ≤ b.key)).map (·.tileId)
    rw [sortedTiles, hperm.nodup_iff, SortedMap.KeyedBy.map_values h]
    exact ws.tiles.keys_nodup
  have hne : (sortedTiles ws).Pairwise fun a b => a.tileId ≠ b.tileId :=
    List.pairwise_map.mp hnodup
  have hboth := (hle.and hne).filter fun t => decide (t.columnId = c)
  refine hboth.imp_of_mem fun {a b} ha hb hab => ?_
  have hac : a.columnId = c := by simpa using (List.mem_filter.mp ha).2
  have hbc : b.columnId = c := by simpa using (List.mem_filter.mp hb).2
  have hkey : a.key ≤ b.key := by simpa using hab.1
  rw [TileMetadata.key, TileMetadata.key, hac, hbc] at hkey
  have hrank : a.rank ≤ b.rank := by
    rcases Prod.Lex.le_iff.mp hkey with hlt | ⟨-, hle⟩
    · exact absurd hlt (lt_irrefl c)
    · exact hle
  refine lt_of_le_of_ne hrank fun heq => hab.2 ?_
  exact congrArg (fun r => (ofLex r).2) heq

/-- A sorted list of the tiles of the column is the list of the column. -/
theorem GlobalWorkspace.Keyed.columnTiles_eq (h : ws.Keyed) {l : List TileMetadata}
    (hl : l.Pairwise fun a b => a.rank < b.rank)
    (hmem : ∀ t, t ∈ l ↔ ws.tiles.get t.tileId = some t ∧ t.columnId = c) :
    columnTiles ws c = l := by
  have hnodup : ∀ l : List TileMetadata, (l.Pairwise fun a b => a.rank < b.rank) → l.Nodup :=
    fun l hl => hl.imp fun hlt heq => absurd (heq ▸ hlt) (lt_irrefl _)
  have hperm : (columnTiles ws c).Perm l := by
    rw [List.perm_ext_iff_of_nodup (hnodup _ (h.columnTiles_sorted c)) (hnodup _ hl)]
    intro t
    rw [h.mem_columnTiles, hmem]
  refine hperm.eq_of_pairwise (fun a b _ _ h₁ h₂ => ?_) (h.columnTiles_sorted c) hl
  exact absurd (h₁.trans h₂) (lt_irrefl _)

end Columns

/-! ## Short forms of the operations -/

theorem foldl_insert_self (m : SortedMap TileId TileMetadata) (tiles : List TileMetadata)
    (h : ∀ t ∈ tiles, m.get t.tileId = some t) :
    tiles.foldl (fun m t => m.insert t.tileId t) m = m := by
  induction tiles with
  | nil => rfl
  | cons t tiles ih =>
    rw [List.foldl_cons, SortedMap.insert_eq_self_iff.mpr (h t List.mem_cons_self)]
    exact ih fun t' ht' => h t' (List.mem_cons_of_mem t ht')

section ShortForms

variable {ws : GlobalWorkspace} {c : ColumnId}

/-- Rewriting the membership of tiles that are in the column changes nothing. -/
theorem rewriteColumnMembership_self (h : ws.Keyed) {ids : List TileId}
    (hids : ∀ id ∈ ids, ∀ t, ws.tiles.get id = some t → t.columnId = c) :
    rewriteColumnMembership ws c ids = ws := by
  have hget : ∀ t ∈ (ids.filterMap ws.tiles.get).map fun t => { t with columnId := c },
      ws.tiles.get t.tileId = some t := by
    intro t ht
    obtain ⟨t₀, ht₀, rfl⟩ := List.mem_map.mp ht
    obtain ⟨id, hid, hgetid⟩ := List.mem_filterMap.mp ht₀
    have hcol := hids id hid t₀ hgetid
    have hsame : { t₀ with columnId := c } = t₀ := by rw [← hcol]
    rw [hsame, h id t₀ hgetid]
    exact hgetid
  rw [rewriteColumnMembership, foldl_insert_self _ _ hget]

@[simp] theorem tiles_pushColumn (ws : GlobalWorkspace) (c : ColumnId) :
    (pushColumn ws c).tiles = ws.tiles := by
  rw [pushColumn]
  split <;> rfl

theorem GlobalWorkspace.Keyed.mem_columnTileIds (h : ws.Keyed) {id : TileId}
    (hid : id ∈ columnTileIds ws c) : ∃ t, ws.tiles.get id = some t ∧ t.columnId = c := by
  rw [columnTileIds_eq, List.mem_map] at hid
  obtain ⟨t, ht, rfl⟩ := hid
  exact ⟨t, h.mem_columnTiles.mp ht⟩

theorem keyed_empty {sessionId : SessionId} {node : NodeId} {hostname fingerprint : String} :
    (GlobalWorkspace.empty sessionId node hostname fingerprint).Keyed := by
  intro id t ht
  cases ht

theorem GlobalWorkspace.Keyed.insert (h : ws.Keyed) (t : TileMetadata) :
    { ws with tiles := ws.tiles.insert t.tileId t }.Keyed :=
  SortedMap.KeyedBy.insert h t

theorem GlobalWorkspace.Keyed.remove (h : ws.Keyed) (tileId : TileId) :
    { ws with tiles := ws.tiles.remove tileId }.Keyed :=
  SortedMap.KeyedBy.remove h tileId

theorem GlobalWorkspace.Keyed.modify (h : ws.Keyed) (tileId : TileId)
    {f : TileMetadata → TileMetadata} (hf : ∀ t, (f t).tileId = t.tileId) :
    { ws with tiles := ws.tiles.modify tileId f }.Keyed :=
  SortedMap.KeyedBy.modify h tileId hf

/-- Inserting a tile files it, and adds its column if it is new. -/
theorem GlobalWorkspace.Keyed.insertTile_eq (h : ws.Keyed) (tile : TileMetadata) (index : Nat) :
    insertTile ws tile index =
      { pushColumn ws tile.columnId with tiles := ws.tiles.insert tile.tileId tile } := by
  have hpush : (pushColumn ws tile.columnId).Keyed := by
    rw [Keyed, tiles_pushColumn]
    exact h
  have hkeyed := hpush.insert tile
  rw [tiles_pushColumn] at hkeyed
  rw [insertTile, tiles_pushColumn]
  refine rewriteColumnMembership_self hkeyed fun id hid t ht => ?_
  dsimp only at ht
  rw [SortedMap.get_insert] at ht
  split at ht
  · rw [← Option.some.inj ht]
  · rename_i hne
    rw [List.mem_insertIdx (min_le_right _ _)] at hid
    rcases hid with hid | hid
    · exact absurd hid hne
    · obtain ⟨t', ht', hcol⟩ := hpush.mem_columnTileIds hid
      rw [tiles_pushColumn, ht] at ht'
      rw [Option.some.inj ht', hcol]

theorem GlobalWorkspace.Keyed.removeTile_eq (h : ws.Keyed) (tileId : TileId) :
    removeTile ws tileId = unfocus { ws with tiles := ws.tiles.remove tileId } tileId := by
  rw [removeTile]
  cases hget : ws.tiles.get tileId with
  | none =>
    rw [SortedMap.remove_eq_self_iff.mpr hget]
  | some tile =>
    dsimp only
    have hkeyed := h.remove tileId
    have hself : rewriteColumnMembership { ws with tiles := ws.tiles.remove tileId } tile.columnId
        ((columnTileIds { ws with tiles := ws.tiles.remove tileId } tile.columnId).filter
          fun id => id ≠ tileId) = { ws with tiles := ws.tiles.remove tileId } := by
      refine rewriteColumnMembership_self hkeyed fun id hid t ht => ?_
      obtain ⟨t', ht', hcol⟩ := hkeyed.mem_columnTileIds (List.mem_filter.mp hid).1
      rw [ht] at ht'
      rw [Option.some.inj ht', hcol]
    rw [hself]

/-- Moving a tile changes its column, and adds that column if it is new. -/
theorem GlobalWorkspace.Keyed.moveTile_eq (h : ws.Keyed) (tileId : TileId) (columnId : ColumnId)
    (index : Nat) :
    moveTile ws tileId columnId index =
      if ws.tiles.contains tileId then
        { pushColumn ws columnId with
          tiles := ws.tiles.modify tileId fun t => { t with columnId } }
      else ws := by
  rw [moveTile, SortedMap.contains]
  cases hget : ws.tiles.get tileId with
  | none => rfl
  | some tile =>
    dsimp only
    have hkeyed := h.modify tileId (f := fun t => { t with columnId }) fun _ => rfl
    generalize hws : { ws with tiles := ws.tiles.modify tileId fun t => { t with columnId } } =
      ws' at hkeyed
    have hold : rewriteColumnMembership ws' tile.columnId
        ((columnTileIds ws' tile.columnId).filter fun id => id ≠ tileId) = ws' := by
      refine rewriteColumnMembership_self hkeyed fun id hid t ht => ?_
      obtain ⟨t', ht', hcol⟩ := hkeyed.mem_columnTileIds (List.mem_filter.mp hid).1
      rw [ht] at ht'
      rw [Option.some.inj ht', hcol]
    have hnew : rewriteColumnMembership ws' columnId
        ((columnTileIds ws' columnId).insertIdx
          (min index (columnTileIds ws' columnId).length) tileId) = ws' := by
      refine rewriteColumnMembership_self hkeyed fun id hid t ht => ?_
      rw [List.mem_insertIdx (min_le_right _ _)] at hid
      rcases hid with rfl | hid
      · rw [← hws] at ht
        dsimp only at ht
        rw [SortedMap.get_modify, if_pos rfl, hget] at ht
        rw [← Option.some.inj ht]
      · obtain ⟨t', ht', hcol⟩ := hkeyed.mem_columnTileIds hid
        rw [ht] at ht'
        rw [Option.some.inj ht', hcol]
    rw [hold, hnew, ← hws, pushColumn, pushColumn]
    dsimp only
    split <;> rfl

end ShortForms

/-! ## What an operation does to the layout -/

/-- The part of the workspace the two nodes show. -/
structure LayoutView where
  columns : List ColumnId
  tiles : SortedMap TileId TileMetadata
  focusedTile : Option TileId
deriving DecidableEq

def GlobalWorkspace.view (ws : GlobalWorkspace) : LayoutView where
  columns := ws.columns
  tiles := ws.tiles
  focusedTile := ws.focusedTile

namespace LayoutView

def pushColumn (v : LayoutView) (c : ColumnId) : LayoutView :=
  if v.columns.contains c then v else { v with columns := v.columns ++ [c] }

def unfocus (v : LayoutView) (id : TileId) : LayoutView :=
  if v.focusedTile = some id then { v with focusedTile := none } else v

def modify (v : LayoutView) (id : TileId) (f : TileMetadata → TileMetadata) : LayoutView :=
  { v with tiles := v.tiles.modify id f }

/-- The operations in short form. -/
def apply (v : LayoutView) : LayoutOpKind → LayoutView
  | .insertTile tile _ =>
      { v.pushColumn tile.columnId with tiles := v.tiles.insert tile.tileId tile }
  | .removeTile id => unfocus { v with tiles := v.tiles.remove id } id
  | .moveTile id columnId _ =>
      if v.tiles.contains id then (v.pushColumn columnId).modify id fun t => { t with columnId }
      else v
  | .moveColumn columnId index =>
      let columns := v.columns.filter fun id => id ≠ columnId
      { v with columns := columns.insertIdx (min index columns.length) columnId }
  | .focusTile id => { v with focusedTile := id }
  | .focusColumn columnId =>
      { v with focusedTile := (v.tiles.values.find? fun t => t.columnId = columnId).map (·.tileId) }
  | .changeTileState id change => v.modify id change.apply
  | .changeTileMetadata tile => { v with tiles := v.tiles.insert tile.tileId tile }
  | .setFullscreen id value => v.modify id fun t => { t with fullscreen := value }
  | .setFloating id value => v.modify id fun t => { t with floating := value }
  | _ => v

@[simp] theorem tiles_pushColumn (v : LayoutView) (c : ColumnId) :
    (v.pushColumn c).tiles = v.tiles := by
  rw [pushColumn]
  split <;> rfl

@[simp] theorem tiles_unfocus (v : LayoutView) (id : TileId) : (v.unfocus id).tiles = v.tiles := by
  rw [unfocus]
  split <;> rfl

@[simp] theorem columns_unfocus (v : LayoutView) (id : TileId) :
    (v.unfocus id).columns = v.columns := by
  rw [unfocus]
  split <;> rfl

theorem mem_columns_pushColumn {v : LayoutView} {c d : ColumnId} :
    d ∈ (v.pushColumn c).columns ↔ d ∈ v.columns ∨ d = c := by
  rw [pushColumn]
  split
  · rename_i hc
    have hmem : c ∈ v.columns := by simpa using hc
    constructor
    · exact Or.inl
    · rintro (h | rfl)
      · exact h
      · exact hmem
  · simp

end LayoutView

section View

variable {ws : GlobalWorkspace}

theorem view_pushColumn (ws : GlobalWorkspace) (c : ColumnId) :
    (pushColumn ws c).view = ws.view.pushColumn c := by
  rw [pushColumn, LayoutView.pushColumn]
  split <;> split <;> first | rfl | contradiction

theorem view_unfocus (ws : GlobalWorkspace) (id : TileId) :
    (unfocus ws id).view = ws.view.unfocus id := by
  rw [unfocus, LayoutView.unfocus]
  split <;> split <;> first | rfl | contradiction

/-- An operation acts on the view by its short form. -/
theorem GlobalWorkspace.Keyed.view_applyOp (h : ws.Keyed) (op : LayoutOp) :
    (applyOp ws op).view = ws.view.apply op.kind := by
  generalize hws : { ws with operationSeq := op.seq, generation := op.generation } = ws'
  have hview : ws'.view = ws.view := by rw [← hws]; rfl
  have hkeyed : ws'.Keyed := by rw [← hws]; exact h
  rw [applyOp, hws, ← hview]
  cases op.kind with
  | insertTile tile index =>
    rw [applyKind, hkeyed.insertTile_eq, LayoutView.apply, ← view_pushColumn]
    rfl
  | removeTile id =>
    rw [applyKind, hkeyed.removeTile_eq, LayoutView.apply, view_unfocus]
    rfl
  | moveTile id columnId index =>
    rw [applyKind, hkeyed.moveTile_eq, LayoutView.apply, ← view_pushColumn]
    have htiles : ws'.view.tiles = ws'.tiles := rfl
    rw [htiles]
    split
    · rw [LayoutView.modify, view_pushColumn, LayoutView.tiles_pushColumn, ← view_pushColumn]
      rfl
    · rfl
  | _ => rfl

/-- Operations keep tiles filed under their ids. -/
theorem GlobalWorkspace.Keyed.applyOp (h : ws.Keyed) (op : LayoutOp) : (applyOp ws op).Keyed := by
  have htiles : (Link.applyOp ws op).tiles = (ws.view.apply op.kind).tiles :=
    congrArg LayoutView.tiles (h.view_applyOp op)
  rw [Keyed, htiles]
  cases op.kind with
  | insertTile tile index => exact h.insert tile
  | removeTile id =>
    rw [LayoutView.apply, LayoutView.tiles_unfocus]
    exact h.remove id
  | moveTile id columnId index =>
    rw [LayoutView.apply]
    split
    · rw [LayoutView.modify, LayoutView.tiles_pushColumn]
      exact h.modify id fun _ => rfl
    · exact h
  | changeTileState id change => exact h.modify id fun t => by cases change <;> rfl
  | changeTileMetadata tile => exact h.insert tile
  | setFullscreen id value => exact h.modify id fun _ => rfl
  | setFloating id value => exact h.modify id fun _ => rfl
  | _ => exact h

end View

/-! ## The counters -/

/-- The session id and the counters of a workspace. -/
def GlobalWorkspace.counters (ws : GlobalWorkspace) : SessionId × U64 × U64 :=
  (ws.sessionId, ws.operationSeq, ws.generation)

theorem counters_pushColumn (ws : GlobalWorkspace) (c : ColumnId) :
    (pushColumn ws c).counters = ws.counters := by
  rw [pushColumn]
  split <;> rfl

theorem counters_unfocus (ws : GlobalWorkspace) (id : TileId) :
    (unfocus ws id).counters = ws.counters := by
  rw [unfocus]
  split <;> rfl

theorem counters_rewriteColumnMembership (ws : GlobalWorkspace) (c : ColumnId) (ids : List TileId) :
    (rewriteColumnMembership ws c ids).counters = ws.counters := rfl

/-- Besides setting the counters an operation leaves them alone. -/
theorem counters_applyKind (ws : GlobalWorkspace) (kind : LayoutOpKind) :
    (applyKind ws kind).counters = ws.counters := by
  cases kind with
  | insertTile tile index =>
    rw [applyKind, insertTile, counters_rewriteColumnMembership]
    exact counters_pushColumn ws tile.columnId
  | removeTile id =>
    rw [applyKind, removeTile]
    split
    · rw [counters_unfocus, counters_rewriteColumnMembership]
      rfl
    · exact counters_unfocus ws id
  | moveTile id columnId index =>
    rw [applyKind, moveTile]
    split
    · rw [counters_pushColumn, counters_rewriteColumnMembership, counters_rewriteColumnMembership]
      rfl
    · rfl
  | _ => rfl

theorem counters_applyOp (ws : GlobalWorkspace) (op : LayoutOp) :
    (applyOp ws op).counters = (ws.sessionId, op.seq, op.generation) := by
  rw [applyOp, counters_applyKind]
  rfl

end Cidre.Link
