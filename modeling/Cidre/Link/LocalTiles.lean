/-
  Cidre.Link.LocalTiles

  `sync_local_tiles`: the shared workspace mirrors the local layout.

  The call removes the local tiles that the list no longer has (`Gone`), files the
  tiles of the list under their ids, and rebuilds the columns only when one of the
  two changed a tile.  A layout that merely lists its columns in another order
  changes none, and the old order stays.  What the call writes it writes under the
  ids of the list, whoever had a tile there.
-/

import Cidre.Lib.Occurrences
import Cidre.Link.Session

namespace Cidre.Link

/-! ## The tiles after the call -/

/-- A local tile with this id is filed, and the list has none. -/
def Gone (held : SortedMap TileId TileMetadata) (localNodeId : NodeId) (tiles : List TileMetadata)
    (id : TileId) : Prop :=
  (∃ k t, held.get k = some t ∧ t.ownerNodeId = localNodeId ∧ t.tileId = id) ∧
    id ∉ tiles.map (·.tileId)

section Tiles

variable {m : LinkManager} {ws : GlobalWorkspace} {tiles : List TileMetadata} {id : TileId}

theorem mem_goneTileIds : id ∈ m.goneTileIds ws tiles ↔ Gone ws.tiles m.localNodeId tiles id := by
  rw [LinkManager.goneTileIds, Gone, List.mem_filter, List.mem_map]
  simp only [List.mem_filter, SortedMap.mem_values_iff, decide_eq_true_eq, Bool.not_eq_true',
    List.contains_eq_mem, decide_eq_false_iff_not]
  refine and_congr_left fun _ => ?_
  constructor
  · rintro ⟨t, ⟨⟨k, hk⟩, howner⟩, hid⟩
    exact ⟨k, t, hk, howner, hid⟩
  · rintro ⟨k, t, hk, howner, hid⟩
    exact ⟨t, ⟨⟨k, hk⟩, howner⟩, hid⟩

theorem get_foldl_dropTile (ids : List TileId) (ws : GlobalWorkspace) (id : TileId) :
    (ids.foldl LinkManager.dropTile ws).tiles.get id =
      if id ∈ ids then none else ws.tiles.get id := by
  have hdrop : ∀ (ws : GlobalWorkspace) (id' : TileId),
      (LinkManager.dropTile ws id').tiles = ws.tiles.remove id' := by
    intro ws id'
    rw [LinkManager.dropTile, unfocus]
    split <;> rfl
  induction ids generalizing ws with
  | nil => simp
  | cons d ids ih =>
    rw [List.foldl_cons, ih, hdrop, SortedMap.get_remove]
    by_cases hd : id = d
    · simp [hd]
    · simp [hd]

theorem columns_foldl_dropTile (ids : List TileId) (ws : GlobalWorkspace) :
    (ids.foldl LinkManager.dropTile ws).columns = ws.columns := by
  induction ids generalizing ws with
  | nil => rfl
  | cons d ids ih =>
    rw [List.foldl_cons, ih, LinkManager.dropTile, unfocus]
    split <;> rfl

/-- The last tile of the list with an id is the one that is filed. -/
theorem get_fileLocalTiles (ws : GlobalWorkspace) (tiles : List TileMetadata) (changed : Bool)
    (id : TileId) :
    (LinkManager.fileLocalTiles ws tiles changed).1.tiles.get id =
      (tiles.reverse.find? fun t => t.tileId = id).or (ws.tiles.get id) := by
  rw [LinkManager.fileLocalTiles]
  induction tiles generalizing ws changed with
  | nil => rfl
  | cons t tiles ih =>
    have hfiled : ((if ws.tiles.get t.tileId = some t then (ws, changed)
        else ({ ws with tiles := ws.tiles.insert t.tileId t }, true)).1.tiles.get id) =
        if id = t.tileId then some t else ws.tiles.get id := by
      split
      · rename_i heq
        split
        · rename_i hid
          rw [hid]
          exact heq
        · rfl
      · exact SortedMap.get_insert _ _ _ _
    rw [List.foldl_cons, List.reverse_cons, List.find?_append]
    have hrest := ih (if ws.tiles.get t.tileId = some t then (ws, changed)
        else ({ ws with tiles := ws.tiles.insert t.tileId t }, true)).1
      (if ws.tiles.get t.tileId = some t then (ws, changed)
        else ({ ws with tiles := ws.tiles.insert t.tileId t }, true)).2
    rw [hfiled] at hrest
    refine hrest.trans ?_
    cases tiles.reverse.find? fun t => t.tileId = id with
    | some t' => rfl
    | none =>
      by_cases hid : id = t.tileId
      · simp [hid]
      · have hne : ¬ t.tileId = id := fun h => hid h.symm
        simp [hid, hne]

theorem columns_fileLocalTiles (ws : GlobalWorkspace) (tiles : List TileMetadata) (changed : Bool) :
    (LinkManager.fileLocalTiles ws tiles changed).1.columns = ws.columns := by
  rw [LinkManager.fileLocalTiles]
  induction tiles generalizing ws changed with
  | nil => rfl
  | cons t tiles ih =>
    have hstep : (if ws.tiles.get t.tileId = some t then (ws, changed)
        else ({ ws with tiles := ws.tiles.insert t.tileId t }, true)).1.columns = ws.columns := by
      split <;> rfl
    rw [List.foldl_cons]
    exact (ih _ _).trans hstep

/-- With distinct ids no tile of the list is compared with another of the list. -/
theorem changed_fileLocalTiles (ws : GlobalWorkspace) (tiles : List TileMetadata) (changed : Bool)
    (hids : (tiles.map (·.tileId)).Nodup) :
    (LinkManager.fileLocalTiles ws tiles changed).2 = true ↔
      changed = true ∨ ∃ t ∈ tiles, ws.tiles.get t.tileId ≠ some t := by
  rw [LinkManager.fileLocalTiles]
  induction tiles generalizing ws changed with
  | nil => simp
  | cons t tiles ih =>
    obtain ⟨ht, hids⟩ := List.nodup_cons.mp hids
    rw [List.foldl_cons]
    by_cases heq : ws.tiles.get t.tileId = some t
    · rw [if_pos heq, ih ws changed hids]
      simp [heq]
    · rw [if_neg heq, ih _ _ hids]
      simp [heq]

/-- The call removes a tile, or files one that was not filed. -/
def Rewrites (ws : GlobalWorkspace) (localNodeId : NodeId) (tiles : List TileMetadata) : Prop :=
  (∃ id, Gone ws.tiles localNodeId tiles id) ∨ ∃ t ∈ tiles, ws.tiles.get t.tileId ≠ some t

/-- The columns of the filed tiles that satisfy `p`. -/
def GlobalWorkspace.columnsWhere (ws : GlobalWorkspace) (p : TileMetadata → Bool) : List ColumnId :=
  (ws.tiles.values.filter p).map (·.columnId)

theorem mem_columnsWhere {p : TileMetadata → Bool} {c : ColumnId} :
    c ∈ ws.columnsWhere p ↔ ∃ id t, ws.tiles.get id = some t ∧ p t = true ∧ t.columnId = c := by
  simp only [GlobalWorkspace.columnsWhere, List.mem_map, List.mem_filter, SortedMap.mem_values_iff]
  constructor
  · rintro ⟨t, ⟨⟨id, ht⟩, hp⟩, hc⟩
    exact ⟨id, t, ht, hp, hc⟩
  · rintro ⟨id, t, ht, hp, hc⟩
    exact ⟨t, ⟨⟨id, ht⟩, hp⟩, hc⟩

theorem tiles_syncWorkspaceTiles (m : LinkManager) (ws : GlobalWorkspace)
    (tiles : List TileMetadata) :
    (m.syncWorkspaceTiles ws tiles).tiles =
      (LinkManager.fileLocalTiles ((m.goneTileIds ws tiles).foldl LinkManager.dropTile ws) tiles
        (!(m.goneTileIds ws tiles).isEmpty)).1.tiles := by
  rw [LinkManager.syncWorkspaceTiles]
  split <;> rfl

/-- What is filed under an id of the list. -/
theorem get_sync_of_mem (hids : (tiles.map (·.tileId)).Nodup) {t : TileMetadata} (ht : t ∈ tiles) :
    (m.syncWorkspaceTiles ws tiles).tiles.get t.tileId = some t := by
  have hfind : (tiles.reverse.find? fun t' => t'.tileId = t.tileId) = some t := by
    cases h : tiles.reverse.find? fun t' => t'.tileId = t.tileId with
    | none =>
      rw [List.find?_eq_none] at h
      exact absurd (decide_eq_true rfl) (h t (List.mem_reverse.mpr ht))
    | some t' =>
      have hmem := List.mem_reverse.mp (List.mem_of_find?_eq_some h)
      have hid : t'.tileId = t.tileId := by simpa using List.find?_some h
      rw [List.inj_on_of_nodup_map hids hmem ht hid]
  rw [tiles_syncWorkspaceTiles, get_fileLocalTiles, hfind]
  rfl

/-- Elsewhere the call only removes. -/
theorem get_sync_of_notMem (hid : id ∉ tiles.map (·.tileId)) {t : TileMetadata} :
    (m.syncWorkspaceTiles ws tiles).tiles.get id = some t ↔
      ws.tiles.get id = some t ∧ ¬ Gone ws.tiles m.localNodeId tiles id := by
  have hfind : (tiles.reverse.find? fun t' => t'.tileId = id) = none := by
    rw [List.find?_eq_none]
    intro t' ht' heq
    exact hid (List.mem_map.mpr ⟨t', List.mem_reverse.mp ht', by simpa using heq⟩)
  rw [tiles_syncWorkspaceTiles, get_fileLocalTiles, hfind, Option.none_or, get_foldl_dropTile,
    ← mem_goneTileIds]
  split
  · rename_i hgone
    simp [hgone]
  · rename_i hgone
    simp [hgone]

/-- The flag remembers whether the call rewrites anything. -/
theorem changed_sync (hids : (tiles.map (·.tileId)).Nodup) :
    (LinkManager.fileLocalTiles ((m.goneTileIds ws tiles).foldl LinkManager.dropTile ws) tiles
        (!(m.goneTileIds ws tiles).isEmpty)).2 = true ↔ Rewrites ws m.localNodeId tiles := by
  rw [changed_fileLocalTiles _ _ _ hids, Rewrites]
  refine or_congr ?_ (exists_congr fun t => and_congr_right fun ht => ?_)
  · constructor
    · intro h
      have hne : m.goneTileIds ws tiles ≠ [] := by simpa using h
      obtain ⟨id, hid⟩ := List.exists_mem_of_ne_nil _ hne
      exact ⟨id, mem_goneTileIds.mp hid⟩
    · rintro ⟨id, hid⟩
      have hne := List.ne_nil_of_mem (mem_goneTileIds (m := m).mpr hid)
      simpa using hne
  · -- a listed tile is not dropped
    have hnot : t.tileId ∉ m.goneTileIds ws tiles := fun h =>
      (mem_goneTileIds.mp h).2 (List.mem_map_of_mem ht)
    rw [get_foldl_dropTile, if_neg hnot]

theorem columns_sync_of_not_rewrites (hids : (tiles.map (·.tileId)).Nodup)
    (h : ¬ Rewrites ws m.localNodeId tiles) :
    (m.syncWorkspaceTiles ws tiles).columns = ws.columns := by
  rw [LinkManager.syncWorkspaceTiles]
  rw [if_neg (fun hchanged => h ((changed_sync hids).mp hchanged)), columns_fileLocalTiles,
    columns_foldl_dropTile]

/-- The columns of foreign tiles stay in their order, and the new columns follow. -/
theorem columns_sync_of_rewrites (hids : (tiles.map (·.tileId)).Nodup)
    (h : Rewrites ws m.localNodeId tiles) :
    (m.syncWorkspaceTiles ws tiles).columns =
      (firstOccurrences (tiles.map (·.columnId))).foldl appendNew
        (ws.columns.filter ((m.syncWorkspaceTiles ws tiles).columnsWhere
          fun t => t.ownerNodeId ≠ m.localNodeId).contains) := by
  have hpush : ∀ (l acc : List ColumnId),
      l.foldl LinkManager.pushNew acc = l.foldl appendNew acc := fun _ _ => rfl
  rw [GlobalWorkspace.columnsWhere, tiles_syncWorkspaceTiles, LinkManager.syncWorkspaceTiles]
  rw [if_pos ((changed_sync hids).mpr h), LinkManager.rebuildColumns]
  dsimp only
  rw [hpush, hpush, foldl_appendNew _ [], columns_fileLocalTiles, columns_foldl_dropTile]
  simp

end Tiles

/-! ## The workspace mirrors the list -/

/-- The column holds local tiles and no other. -/
def GlobalWorkspace.onlyLocal (ws : GlobalWorkspace) (localNodeId : NodeId) (c : ColumnId) : Bool :=
  (ws.columnsWhere fun t => t.ownerNodeId = localNodeId).contains c &&
    !(ws.columnsWhere fun t => t.ownerNodeId ≠ localNodeId).contains c

/-- The workspace `ws'` shows the local tiles as the list has them, and of `ws`
what the other nodes own. -/
structure Mirrors (localNodeId : NodeId) (tiles : List TileMetadata) (ws ws' : GlobalWorkspace) :
    Prop where
  listed : ∀ id t, (ws'.tiles.get id = some t ∧ t.ownerNodeId = localNodeId) ↔
    (t ∈ tiles ∧ t.tileId = id)
  foreign : ∀ id t, t.ownerNodeId ≠ localNodeId →
    (ws'.tiles.get id = some t ↔ ws.tiles.get id = some t)
  nodup : ws'.columns.Nodup
  housed : ∀ id t, ws'.tiles.get id = some t → t.columnId ∈ ws'.columns
  ordered : ws'.columns.filter (ws'.onlyLocal localNodeId) =
    (firstOccurrences (tiles.map (·.columnId))).filter (ws'.onlyLocal localNodeId)

/-- The column is named by the list and holds no tile of another node. -/
def GlobalWorkspace.namedOnly (ws : GlobalWorkspace) (localNodeId : NodeId)
    (tiles : List TileMetadata) (c : ColumnId) : Bool :=
  (tiles.map (·.columnId)).contains c &&
    !(ws.columnsWhere fun t => t.ownerNodeId ≠ localNodeId).contains c

/-- What the call needs of the workspace it finds. -/
structure Mirrorable (localNodeId : NodeId) (tiles : List TileMetadata) (ws : GlobalWorkspace) :
    Prop where
  /-- What is filed under a listed or a dropped id is local, and nothing else is. -/
  apart : ∀ id t, ws.tiles.get id = some t →
    ((id ∈ tiles.map (·.tileId) ∨ Gone ws.tiles localNodeId tiles id) ↔
      t.ownerNodeId = localNodeId)
  /-- Rebuilding keeps the columns of foreign tiles as they are. -/
  rebuilt : Rewrites ws localNodeId tiles →
    (ws.columns.filter
      (ws.columnsWhere fun t => t.ownerNodeId ≠ localNodeId).contains).Nodup ∧
    ∀ c ∈ ws.columnsWhere fun t => t.ownerNodeId ≠ localNodeId,
      c ∈ ws.columns ∨ c ∈ tiles.map (·.columnId)
  /-- A call that changes no tile keeps every column where it is. -/
  untouched : ¬ Rewrites ws localNodeId tiles →
    ws.columns.Nodup ∧ (∀ id t, ws.tiles.get id = some t → t.columnId ∈ ws.columns) ∧
      ws.columns.filter (ws.namedOnly localNodeId tiles) =
        (firstOccurrences (tiles.map (·.columnId))).filter (ws.namedOnly localNodeId tiles)

section Mirrors

variable {m : LinkManager} {ws : GlobalWorkspace} {tiles : List TileMetadata}

theorem tiles_mirror_iff (ws : GlobalWorkspace) (hids : (tiles.map (·.tileId)).Nodup)
    (howner : ∀ t ∈ tiles, t.ownerNodeId = m.localNodeId) :
    ((∀ id t, ((m.syncWorkspaceTiles ws tiles).tiles.get id = some t ∧
          t.ownerNodeId = m.localNodeId) ↔ (t ∈ tiles ∧ t.tileId = id)) ∧
      ∀ id t, t.ownerNodeId ≠ m.localNodeId →
        ((m.syncWorkspaceTiles ws tiles).tiles.get id = some t ↔ ws.tiles.get id = some t)) ↔
    ∀ id t, ws.tiles.get id = some t →
      ((id ∈ tiles.map (·.tileId) ∨ Gone ws.tiles m.localNodeId tiles id) ↔
        t.ownerNodeId = m.localNodeId) := by
  have hsync : ∀ t ∈ tiles, (m.syncWorkspaceTiles ws tiles).tiles.get t.tileId = some t :=
    fun t => get_sync_of_mem hids
  constructor
  · rintro ⟨hlisted, hforeign⟩ id t ht
    constructor
    · intro hid
      by_contra hne
      have hkept := (hforeign id t hne).mpr ht
      by_cases hmem : id ∈ tiles.map (·.tileId)
      · obtain ⟨t', ht', rfl⟩ := List.mem_map.mp hmem
        rw [hsync t' ht'] at hkept
        exact hne (Option.some.inj hkept ▸ howner t' ht')
      · exact ((get_sync_of_notMem hmem).mp hkept).2 (hid.resolve_left hmem)
    · intro hlocal
      by_contra hid
      obtain ⟨hmem, hgone⟩ := not_or.mp hid
      obtain ⟨hin, heq⟩ := (hlisted id t).mp ⟨(get_sync_of_notMem hmem).mpr ⟨ht, hgone⟩, hlocal⟩
      exact hmem (heq ▸ List.mem_map_of_mem hin)
  · intro h
    constructor
    · intro id t
      constructor
      · rintro ⟨ht, hlocal⟩
        by_cases hmem : id ∈ tiles.map (·.tileId)
        · obtain ⟨t', ht', rfl⟩ := List.mem_map.mp hmem
          rw [hsync t' ht'] at ht
          obtain rfl := Option.some.inj ht
          exact ⟨ht', rfl⟩
        · obtain ⟨ht, hgone⟩ := (get_sync_of_notMem hmem).mp ht
          exact absurd ((h id t ht).mpr hlocal) (not_or.mpr ⟨hmem, hgone⟩)
      · rintro ⟨ht, rfl⟩
        exact ⟨hsync t ht, howner t ht⟩
    · intro id t hne
      by_cases hmem : id ∈ tiles.map (·.tileId)
      · -- under a listed id there is a local tile before and after
        constructor
        · intro ht
          obtain ⟨t', ht', rfl⟩ := List.mem_map.mp hmem
          rw [hsync t' ht'] at ht
          exact absurd (Option.some.inj ht ▸ howner t' ht') hne
        · intro ht
          exact absurd ((h id t ht).mp (Or.inl hmem)) hne
      · rw [get_sync_of_notMem hmem]
        exact ⟨fun ht => ht.1, fun ht => ⟨ht, fun hgone => hne ((h id t ht).mp (Or.inr hgone))⟩⟩

/-- The tiles of two workspaces that agree about the foreign ones stand in the
same columns. -/
theorem mem_foreign_iff {ws' : GlobalWorkspace} {n : NodeId}
    (h : ∀ id t, t.ownerNodeId ≠ n → (ws'.tiles.get id = some t ↔ ws.tiles.get id = some t))
    (c : ColumnId) :
    c ∈ (ws'.columnsWhere fun t => t.ownerNodeId ≠ n) ↔
      c ∈ ws.columnsWhere fun t => t.ownerNodeId ≠ n := by
  rw [mem_columnsWhere, mem_columnsWhere]
  constructor
  · rintro ⟨id, t, ht, hne, hc⟩
    exact ⟨id, t, (h id t (of_decide_eq_true hne)).mp ht, hne, hc⟩
  · rintro ⟨id, t, ht, hne, hc⟩
    exact ⟨id, t, (h id t (of_decide_eq_true hne)).mpr ht, hne, hc⟩

theorem onlyLocal_eq_namedOnly {ws' : GlobalWorkspace} {n : NodeId}
    (hlisted : ∀ id t, (ws'.tiles.get id = some t ∧ t.ownerNodeId = n) ↔
      (t ∈ tiles ∧ t.tileId = id))
    (hforeign : ∀ id t, t.ownerNodeId ≠ n →
      (ws'.tiles.get id = some t ↔ ws.tiles.get id = some t)) :
    ws'.onlyLocal n = ws.namedOnly n tiles := by
  have hlocal : ∀ c, c ∈ (ws'.columnsWhere fun t => t.ownerNodeId = n) ↔
      c ∈ tiles.map (·.columnId) := by
    intro c
    rw [mem_columnsWhere, List.mem_map]
    constructor
    · rintro ⟨id, t, ht, howner, hc⟩
      exact ⟨t, ((hlisted id t).mp ⟨ht, of_decide_eq_true howner⟩).1, hc⟩
    · rintro ⟨t, ht, hc⟩
      obtain ⟨hget, howner⟩ := (hlisted t.tileId t).mpr ⟨ht, rfl⟩
      exact ⟨t.tileId, t, hget, decide_eq_true howner, hc⟩
  funext c
  rw [GlobalWorkspace.onlyLocal, GlobalWorkspace.namedOnly, List.contains_eq_mem,
    List.contains_eq_mem, List.contains_eq_mem, List.contains_eq_mem,
    decide_eq_decide.mpr (hlocal c), decide_eq_decide.mpr (mem_foreign_iff hforeign c)]

/-- After a rebuild the columns are as they should be, as far as those of the
foreign tiles were. -/
theorem columns_rebuilt_iff {ws' : GlobalWorkspace} {n : NodeId}
    (hlisted : ∀ id t, (ws'.tiles.get id = some t ∧ t.ownerNodeId = n) ↔
      (t ∈ tiles ∧ t.tileId = id))
    (hforeign : ∀ id t, t.ownerNodeId ≠ n →
      (ws'.tiles.get id = some t ↔ ws.tiles.get id = some t))
    (hcolumns : ws'.columns =
      (firstOccurrences (tiles.map (·.columnId))).foldl appendNew
        (ws.columns.filter (ws'.columnsWhere fun t => t.ownerNodeId ≠ n).contains)) :
    (ws'.columns.Nodup ∧ (∀ id t, ws'.tiles.get id = some t → t.columnId ∈ ws'.columns) ∧
      ws'.columns.filter (ws'.onlyLocal n) =
        (firstOccurrences (tiles.map (·.columnId))).filter (ws'.onlyLocal n)) ↔
    ((ws.columns.filter (ws.columnsWhere fun t => t.ownerNodeId ≠ n).contains).Nodup ∧
      ∀ c ∈ ws.columnsWhere fun t => t.ownerNodeId ≠ n,
        c ∈ ws.columns ∨ c ∈ tiles.map (·.columnId)) := by
  have hsame : (ws'.columnsWhere fun t => t.ownerNodeId ≠ n).contains =
      (ws.columnsWhere fun t => t.ownerNodeId ≠ n).contains := by
    funext c
    rw [List.contains_eq_mem, List.contains_eq_mem,
      decide_eq_decide.mpr (mem_foreign_iff hforeign c)]
  rw [hsame] at hcolumns
  generalize hkept : ws.columns.filter (ws.columnsWhere fun t => t.ownerNodeId ≠ n).contains = kept
    at hcolumns ⊢
  have hmemkept : ∀ c, c ∈ kept ↔
      c ∈ ws.columns ∧ c ∈ ws.columnsWhere fun t => t.ownerNodeId ≠ n := by
    intro c
    rw [← hkept, List.mem_filter, List.contains_iff_mem]
  rw [foldl_appendNew, firstOccurrences_of_nodup (nodup_firstOccurrences _)] at hcolumns
  have hmem : ∀ c, c ∈ ws'.columns ↔ c ∈ kept ∨ c ∈ tiles.map (·.columnId) := by
    intro c
    rw [hcolumns, List.mem_append, List.mem_filter, mem_firstOccurrences]
    by_cases hc : c ∈ kept
    · simp [hc]
    · simp [hc]
  -- a column of local tiles only is not among those kept
  have hordered : ws'.columns.filter (ws'.onlyLocal n) =
      (firstOccurrences (tiles.map (·.columnId))).filter (ws'.onlyLocal n) := by
    have hnone : ∀ c ∈ kept, ws'.onlyLocal n c = false := by
      intro c hc
      rw [GlobalWorkspace.onlyLocal, hsame, List.contains_iff_mem.mpr ((hmemkept c).mp hc).2]
      exact Bool.and_false _
    rw [hcolumns, List.filter_append, List.filter_eq_nil_iff.mpr fun c hc => by simp [hnone c hc],
      List.nil_append, List.filter_filter]
    refine List.filter_congr fun c _ => ?_
    by_cases hc : c ∈ kept
    · simp [hnone c hc]
    · simp [hc]
  constructor
  · rintro ⟨hnodup, hhoused, -⟩
    constructor
    · rw [hcolumns] at hnodup
      exact (List.nodup_append.mp hnodup).1
    · intro c hc
      obtain ⟨id, t, ht, hne, rfl⟩ := mem_columnsWhere.mp hc
      have ht' := (hforeign id t (of_decide_eq_true hne)).mpr ht
      exact ((hmem _).mp (hhoused id t ht')).imp_left fun h => ((hmemkept _).mp h).1
  · rintro ⟨hnodup, hforeigncol⟩
    refine ⟨?_, ?_, hordered⟩
    · rw [hcolumns, List.nodup_append]
      refine ⟨hnodup, (nodup_firstOccurrences _).filter _, ?_⟩
      rintro c hc d hd rfl
      exact of_decide_eq_true (List.mem_filter.mp hd).2 hc
    · intro id t ht
      rw [hmem]
      by_cases howner : t.ownerNodeId = n
      · exact Or.inr (List.mem_map_of_mem ((hlisted id t).mp ⟨ht, howner⟩).1)
      · have hc : t.columnId ∈ ws.columnsWhere fun t => t.ownerNodeId ≠ n :=
          mem_columnsWhere.mpr ⟨id, t, (hforeign id t howner).mp ht, decide_eq_true howner, rfl⟩
        exact (hforeigncol _ hc).imp_left fun h => (hmemkept _).mpr ⟨h, hc⟩

theorem mirrors_syncWorkspaceTiles_iff (m : LinkManager) (ws : GlobalWorkspace)
    (hids : (tiles.map (·.tileId)).Nodup) (howner : ∀ t ∈ tiles, t.ownerNodeId = m.localNodeId) :
    Mirrors m.localNodeId tiles ws (m.syncWorkspaceTiles ws tiles) ↔
      Mirrorable m.localNodeId tiles ws := by
  have htiles := tiles_mirror_iff ws hids howner
  by_cases hrewrites : Rewrites ws m.localNodeId tiles
  · have hcolumns := columns_sync_of_rewrites hids hrewrites
    constructor
    · intro h
      exact ⟨htiles.mp ⟨h.listed, h.foreign⟩,
        fun _ => (columns_rebuilt_iff h.listed h.foreign hcolumns).mp
          ⟨h.nodup, h.housed, h.ordered⟩,
        fun hnot => absurd hrewrites hnot⟩
    · intro h
      obtain ⟨hlisted, hforeign⟩ := htiles.mpr h.apart
      obtain ⟨hnodup, hhoused, hordered⟩ :=
        (columns_rebuilt_iff hlisted hforeign hcolumns).mpr (h.rebuilt hrewrites)
      exact ⟨hlisted, hforeign, hnodup, hhoused, hordered⟩
  · have hcolumns := columns_sync_of_not_rewrites hids hrewrites
    -- nothing is dropped and every listed tile is filed already
    have hget : ∀ id t, (m.syncWorkspaceTiles ws tiles).tiles.get id = some t ↔
        ws.tiles.get id = some t := by
      obtain ⟨hgone, hfiled⟩ := not_or.mp hrewrites
      intro id t
      by_cases hmem : id ∈ tiles.map (·.tileId)
      · obtain ⟨t', ht', rfl⟩ := List.mem_map.mp hmem
        have hheld : ws.tiles.get t'.tileId = some t' := by
          by_contra hne
          exact hfiled ⟨t', ht', hne⟩
        rw [get_sync_of_mem hids ht', hheld]
      · rw [get_sync_of_notMem hmem]
        exact ⟨fun ht => ht.1, fun ht => ⟨ht, fun h => hgone ⟨id, h⟩⟩⟩
    constructor
    · intro h
      have honly := onlyLocal_eq_namedOnly h.listed h.foreign
      have hordered := h.ordered
      rw [honly, hcolumns] at hordered
      exact ⟨htiles.mp ⟨h.listed, h.foreign⟩, fun hre => absurd hre hrewrites,
        fun _ => ⟨hcolumns ▸ h.nodup,
          fun id t ht => hcolumns ▸ h.housed id t ((hget id t).mpr ht), hordered⟩⟩
    · intro h
      obtain ⟨hlisted, hforeign⟩ := htiles.mpr h.apart
      obtain ⟨hnodup, hhoused, hordered⟩ := h.untouched hrewrites
      refine ⟨hlisted, hforeign, hcolumns ▸ hnodup, fun id t ht => ?_, ?_⟩
      · rw [hcolumns]
        exact hhoused id t ((hget id t).mp ht)
      · rw [onlyLocal_eq_namedOnly hlisted hforeign, hcolumns]
        exact hordered

end Mirrors

/-! ## sync_local_tiles -/

namespace LinkManager

/-- The call mirrors the local layout exactly in a workspace that is `Mirrorable`. -/
theorem syncLocalTiles_mirrors_iff (env : Env) (m : LinkManager) (tiles : List TileMetadata)
    (henabled : m.enabled = true) (hids : (tiles.map (·.tileId)).Nodup)
    (howner : ∀ t ∈ tiles, t.ownerNodeId = m.localNodeId) :
    (∃ s, (m.syncLocalTiles env tiles).currentSession = some s ∧
      Mirrors m.localNodeId tiles (m.sharedWorkspace env) s.workspace) ↔
    Mirrorable m.localNodeId tiles (m.sharedWorkspace env) := by
  obtain ⟨participants, log, hsession⟩ := m.ensureLocalParticipant_session env
  have hlocal : (m.ensureLocalParticipant env).localNodeId = m.localNodeId := rfl
  have hsync : (m.syncLocalTiles env tiles).currentSession =
      some ⟨(m.ensureLocalParticipant env).syncWorkspaceTiles
        { m.sharedWorkspace env with participants } tiles, log⟩ := by
    rw [syncLocalTiles, if_pos henabled]
    dsimp only
    rw [hsession]
  have hmirrors := mirrors_syncWorkspaceTiles_iff (m.ensureLocalParticipant env)
    { m.sharedWorkspace env with participants } hids howner
  rw [hlocal] at hmirrors
  -- the participants count for neither side
  constructor
  · rintro ⟨s, hs, h⟩
    rw [hsync] at hs
    obtain rfl := Option.some.inj hs
    have hm := hmirrors.mp ⟨h.listed, h.foreign, h.nodup, h.housed, h.ordered⟩
    exact ⟨hm.apart, hm.rebuilt, hm.untouched⟩
  · intro h
    have hm := hmirrors.mpr ⟨h.apart, h.rebuilt, h.untouched⟩
    exact ⟨_, hsync, ⟨hm.listed, hm.foreign, hm.nodup, hm.housed, hm.ordered⟩⟩

/-- A session that has nothing yet takes the list over. -/
theorem syncLocalTiles_mirrors_two :
    ∃ s, (newManager.syncLocalTiles ⟨0, 0, 0⟩ [sampleTile 1 1 7, sampleTile 2 1 8]).currentSession =
      some s ∧
      Mirrors 1 [sampleTile 1 1 7, sampleTile 2 1 8] (newManager.sharedWorkspace ⟨0, 0, 0⟩)
        s.workspace := by
  have hnone : ∀ id t, (newManager.sharedWorkspace ⟨0, 0, 0⟩).tiles.get id ≠ some t :=
    fun _ t => (Option.some_ne_none t).symm
  refine (syncLocalTiles_mirrors_iff ⟨0, 0, 0⟩ newManager [sampleTile 1 1 7, sampleTile 2 1 8]
    rfl (by decide) (by decide)).mpr
      ⟨fun id t ht => absurd ht (hnone id t), fun _ => ⟨List.nodup_nil, fun c hc => ?_⟩,
        fun h => ?_⟩
  · obtain ⟨id, t, ht, -⟩ := mem_columnsWhere.mp hc
    exact absurd ht (hnone id t)
  · exact absurd (Or.inr ⟨sampleTile 1 1 7, List.mem_cons_self, by decide⟩) h

/-- Two local tiles in columns 7 and 8, listed in this order. -/
def mirroredManager : LinkManager :=
  newManager.syncLocalTiles ⟨0, 0, 0⟩ [sampleTile 1 1 7, sampleTile 2 1 8]

/-- Listed the other way round, the two columns stay as they are. -/
theorem reordered_columns_stay :
    ¬ ∀ (env : Env) (m : LinkManager) (tiles : List TileMetadata),
      m.enabled = true → (tiles.map (·.tileId)).Nodup →
      (∀ t ∈ tiles, t.ownerNodeId = m.localNodeId) →
      ∃ s, (m.syncLocalTiles env tiles).currentSession = some s ∧
        Mirrors m.localNodeId tiles (m.sharedWorkspace env) s.workspace := by
  intro h
  obtain ⟨s, hs, hmirrors⟩ := h ⟨0, 0, 0⟩ mirroredManager [sampleTile 2 1 8, sampleTile 1 1 7]
    (by decide +kernel) (by decide) (by decide)
  have hordered : (mirroredManager.syncLocalTiles ⟨0, 0, 0⟩
      [sampleTile 2 1 8, sampleTile 1 1 7]).currentSession.map
        (fun s => (s.workspace.columns.filter (s.workspace.onlyLocal 1),
          [(8 : ColumnId), 7].filter (s.workspace.onlyLocal 1))) = some ([7, 8], [8, 7]) := by
    decide +kernel
  rw [hs] at hordered
  obtain ⟨hcolumns, hlisted⟩ := Prod.mk.inj (Option.some.inj hordered)
  have heq := hmirrors.ordered
  have hfirst :
      firstOccurrences ([sampleTile 2 1 8, sampleTile 1 1 7].map (·.columnId)) = [8, 7] := by
    decide
  rw [hfirst] at heq
  have hbad := hcolumns.symm.trans (heq.trans hlisted)
  exact absurd hbad (by decide)

end LinkManager

end Cidre.Link
