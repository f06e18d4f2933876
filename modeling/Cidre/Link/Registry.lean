/-
  Cidre.Link.Registry

  The registered remote tiles and the tiles of the workspace agree.

  The two maps are written by separate paths, most of which write only one of them:
  layout operations, the mirroring of local tiles and a restored session write the
  workspace, `disable` clears the registry, and a snapshot replaces the workspace but
  only adds to the registry.  `Registry` is what these paths read and write, a
  `RegistryChange` is what one of them does, and `Agrees` says what it must find or
  bring so that the maps agree afterwards.

  In a workspace that files every tile under its own id an operation writes one
  entry at most (`LayoutOpKind.entry`).
-/

import Cidre.Link.Influence
import Cidre.Link.LocalTiles

namespace Cidre.Link

open Cidre.Run LinkManager

/-! ## The two maps -/

/-- What one id has in the registry and in the workspace. -/
structure AgreesAt (enabled : Bool) (localNodeId : NodeId) (held : Option RemoteTile)
    (filed : Option TileMetadata) : Prop where
  /-- A registered tile is the one in the workspace, and not a local one. -/
  registered : ∀ r, held = some r → filed = some r.metadata ∧ r.metadata.ownerNodeId ≠ localNodeId
  /-- While the link is enabled, the tiles of other nodes are registered. -/
  visible : enabled = true → ∀ t, filed = some t → t.ownerNodeId ≠ localNodeId → held ≠ none

/-- While a session exists, its tiles and the registry agree about every id. -/
def LinkManager.Coherent (m : LinkManager) : Prop :=
  ∀ s, m.currentSession = some s → ∀ id,
    AgreesAt m.enabled m.localNodeId (m.remoteTiles.get id) (s.workspace.tiles.get id)

/-- The state of the two maps, as functions. -/
structure Registry where
  enabled : Bool
  localNodeId : NodeId
  held : TileId → Option RemoteTile
  filed : Option (TileId → Option TileMetadata)

def LinkManager.registry (m : LinkManager) : Registry where
  enabled := m.enabled
  localNodeId := m.localNodeId
  held := m.remoteTiles.get
  filed := m.currentSession.map fun s => s.workspace.tiles.get

/-- The entry an operation writes, and from what. -/
def LayoutOpKind.entry :
    LayoutOpKind → Option (TileId × (Option TileMetadata → Option TileMetadata))
  | .insertTile tile _ | .changeTileMetadata tile => some (tile.tileId, fun _ => some tile)
  | .removeTile id => some (id, fun _ => none)
  | .moveTile id columnId _ => some (id, Option.map fun t => { t with columnId })
  | .changeTileState id change => some (id, Option.map change.apply)
  | .setFullscreen id value => some (id, Option.map fun t => { t with fullscreen := value })
  | .setFloating id value => some (id, Option.map fun t => { t with floating := value })
  | _ => none

def LayoutOpKind.edit (kind : LayoutOpKind) (filed : TileId → Option TileMetadata) :
    TileId → Option TileMetadata :=
  match kind.entry with
  | some (k, f) => fun id => if id = k then f (filed id) else filed id
  | none => filed

/-- What a step does to the two maps. -/
inductive RegistryChange where
  | same
  /-- The link is enabled, in a new session if there is none. -/
  | enable
  | disable
  | leave
  | restore (tiles : SortedMap TileId TileMetadata)
  | operate (kind : LayoutOpKind)
  /-- A local tile is inserted, and the link enabled. -/
  | upsert (tile : TileMetadata)
  | close (id : TileId)
  /-- The tile of another node is registered and filed, and the link enabled. -/
  | file (tile : TileMetadata)
  | snapshot (tiles : SortedMap TileId TileMetadata)
  /-- `sync_local_tiles` of an enabled link. -/
  | mirror (tiles : List TileMetadata)

namespace RegistryChange

/-- The local tile filed under the id is not in the list. -/
def drops (localNodeId : NodeId) (tiles : List TileMetadata) (id : TileId) :
    Option TileMetadata → Bool
  | some t => t.ownerNodeId = localNodeId && !(tiles.map (·.tileId)).contains id
  | none => false

def run (r : Registry) : RegistryChange → Registry
  | .same => r
  | .enable => { r with enabled := true, filed := some (r.filed.getD fun _ => none) }
  | .disable => { r with enabled := false, held := fun _ => none }
  | .leave => { r with enabled := false, held := fun _ => none, filed := none }
  | .restore tiles => { r with enabled := true, filed := some tiles.get }
  | .operate kind => { r with filed := r.filed.map kind.edit }
  | .upsert tile =>
      { r with
        enabled := true
        filed := some ((LayoutOpKind.changeTileMetadata tile).edit (r.filed.getD fun _ => none)) }
  | .close id =>
      { r with
        held := fun id' => if id' = id then none else r.held id'
        filed := r.filed.map (LayoutOpKind.removeTile id).edit }
  | .file tile =>
      { r with
        enabled := true
        held := fun id => if id = tile.tileId then some ⟨tile⟩ else r.held id
        filed := some ((LayoutOpKind.changeTileMetadata tile).edit (r.filed.getD fun _ => none)) }
  | .snapshot tiles =>
      match r.filed with
      | none => r
      | some _ =>
          { r with
            held := fun id => (r.held id).or
              (((tiles.get id).filter fun t => t.ownerNodeId ≠ r.localNodeId).map RemoteTile.mk)
            filed := some tiles.get }
  | .mirror tiles =>
      let filed := r.filed.getD fun _ => none
      { r with
        enabled := true
        held := fun id => if drops r.localNodeId tiles id (filed id) then none else r.held id
        filed := some fun id =>
          (tiles.reverse.find? fun t => t.tileId = id).or
            (if drops r.localNodeId tiles id (filed id) then none else filed id) }

end RegistryChange

namespace Registry

def Coherent (r : Registry) : Prop :=
  ∀ filed, r.filed = some filed → ∀ id, AgreesAt r.enabled r.localNodeId (r.held id) (filed id)

/-- Without a session nothing is registered. -/
def Idle (r : Registry) : Prop := r.filed = none → ∀ id, r.held id = none

/-- Every tile is filed under its own id. -/
def Keyed (r : Registry) : Prop :=
  ∀ filed, r.filed = some filed → ∀ id t, filed id = some t → t.tileId = id

/-- The tiles of other nodes are registered, whether or not the link is enabled;
those under the ids `but` are left out. -/
def VisibleBut (r : Registry) (but : List TileId) : Prop :=
  ∀ filed, r.filed = some filed → ∀ id t, id ∉ but → filed id = some t →
    t.ownerNodeId ≠ r.localNodeId → r.held id ≠ none

end Registry

/-- Snapshots and restored layouts file every tile under its own id. -/
def RegistryChange.Keyed : RegistryChange → Prop
  | .restore tiles | .snapshot tiles => tiles.KeyedBy TileMetadata.tileId
  | _ => True

/-- What a change must find or bring, so that the maps agree afterwards. -/
def RegistryChange.Agrees (r : Registry) : RegistryChange → Prop
  | .same | .disable | .leave | .close _ => True
  | .enable => r.VisibleBut []
  | .restore tiles => ∀ id, AgreesAt true r.localNodeId (r.held id) (tiles.get id)
  | .operate kind => ∀ k f, kind.entry = some (k, f) → ∀ filed, r.filed = some filed →
      AgreesAt r.enabled r.localNodeId (r.held k) (f (filed k))
  | .upsert tile =>
      AgreesAt true r.localNodeId (r.held tile.tileId) (some tile) ∧ r.VisibleBut [tile.tileId]
  | .file tile => tile.ownerNodeId ≠ r.localNodeId ∧ r.VisibleBut [tile.tileId]
  | .snapshot tiles => r.filed ≠ none → ∀ id t, r.held id = some t → tiles.get id = some t.metadata
  | .mirror tiles =>
      (∀ id t, (tiles.reverse.find? fun t => t.tileId = id) = some t →
        AgreesAt true r.localNodeId (r.held id) (some t)) ∧ r.VisibleBut (tiles.map (·.tileId))

/-! ## One change -/

section OneId

variable {b : Bool} {l : NodeId} {held : Option RemoteTile} {filed : Option TileMetadata}

theorem agreesAt_nothing : AgreesAt b l none none :=
  ⟨fun r h => absurd h.symm (Option.some_ne_none r),
    fun _ t h => absurd h.symm (Option.some_ne_none t)⟩

theorem agreesAt_cleared : AgreesAt false l none filed :=
  ⟨fun r h => absurd h.symm (Option.some_ne_none r), fun h => absurd h Bool.false_ne_true⟩

theorem AgreesAt.enabled_iff (h : AgreesAt b l held filed) :
    AgreesAt true l held filed ↔ ∀ t, filed = some t → t.ownerNodeId ≠ l → held ≠ none :=
  ⟨fun h' => h'.visible rfl, fun hvisible => ⟨h.registered, fun _ => hvisible⟩⟩

theorem agreesAt_filed_iff {tile : TileMetadata} :
    AgreesAt b l (some ⟨tile⟩) (some tile) ↔ tile.ownerNodeId ≠ l := by
  constructor
  · exact fun h => (h.registered ⟨tile⟩ rfl).2
  · intro howner
    refine ⟨fun r hr => ?_, fun _ _ _ _ => Option.some_ne_none _⟩
    obtain rfl := Option.some.inj hr
    exact ⟨rfl, howner⟩

/-- Registering what is new makes the id agree, unless something else is registered. -/
theorem agreesAt_snapshot_iff (howner : ∀ r, held = some r → r.metadata.ownerNodeId ≠ l) :
    AgreesAt b l (held.or ((filed.filter fun t => t.ownerNodeId ≠ l).map RemoteTile.mk)) filed ↔
      ∀ r, held = some r → filed = some r.metadata := by
  cases held with
  | some r =>
    constructor
    · intro h r' hr'
      exact (h.registered r' hr').1
    · intro h
      exact ⟨fun r' hr' => ⟨h r' hr', howner r' hr'⟩, fun _ _ _ _ => Option.some_ne_none _⟩
  | none =>
    refine iff_of_true ?_ fun r hr => absurd hr.symm (Option.some_ne_none r)
    rw [Option.none_or]
    cases filed with
    | none => exact agreesAt_nothing
    | some t =>
      by_cases ht : t.ownerNodeId = l
      · simp only [Option.filter_some, ht, ne_eq, not_true_eq_false, decide_false]
        exact ⟨fun r h => absurd h.symm (Option.some_ne_none r),
          fun _ t' ht' hne => absurd (Option.some.inj ht' ▸ ht) hne⟩
      · simp only [Option.filter_some, ht, ne_eq, not_false_eq_true, decide_true]
        exact agreesAt_filed_iff.mpr ht

end OneId

section Change

variable {r : Registry}

/-- The tiles of the session, or of the one that would be opened. -/
def Registry.opened (r : Registry) : TileId → Option TileMetadata := r.filed.getD fun _ => none

theorem Registry.Coherent.opened (h : r.Coherent) (hidle : r.Idle) (id : TileId) :
    AgreesAt r.enabled r.localNodeId (r.held id) (r.opened id) := by
  rw [Registry.opened]
  cases hfiled : r.filed with
  | none =>
    rw [hidle hfiled id]
    exact agreesAt_nothing
  | some filed => exact h filed hfiled id

theorem visibleBut_iff {but : List TileId} : r.VisibleBut but ↔
    ∀ id t, id ∉ but → r.opened id = some t → t.ownerNodeId ≠ r.localNodeId → r.held id ≠ none := by
  rw [Registry.VisibleBut, Registry.opened]
  cases r.filed with
  | none =>
    exact iff_of_true (fun _ h => absurd h.symm (Option.some_ne_none _))
      fun _ t _ h => absurd h.symm (Option.some_ne_none t)
  | some filed =>
    constructor
    · exact fun h => h filed rfl
    · intro h filed' hfiled'
      obtain rfl := Option.some.inj hfiled'
      exact h

theorem coherent_of_filed {e : Bool} {l : NodeId} {held : TileId → Option RemoteTile}
    {filed : TileId → Option TileMetadata} :
    (Registry.mk e l held (some filed)).Coherent ↔ ∀ id, AgreesAt e l (held id) (filed id) := by
  constructor
  · exact fun h => h filed rfl
  · intro h filed' hfiled'
    obtain rfl := Option.some.inj hfiled'
    exact h

/-- The link is enabled and one entry written in both maps. -/
theorem agreesAt_write_iff (h : r.Coherent) (hidle : r.Idle) (k : TileId) (held : Option RemoteTile)
    (filed : Option TileMetadata) :
    (∀ id, AgreesAt true r.localNodeId (if id = k then held else r.held id)
        (if id = k then filed else r.opened id)) ↔
      AgreesAt true r.localNodeId held filed ∧ r.VisibleBut [k] := by
  rw [visibleBut_iff]
  constructor
  · intro hall
    have hk := hall k
    rw [if_pos rfl, if_pos rfl] at hk
    refine ⟨hk, fun id t hid ht howner => ?_⟩
    have hne : id ≠ k := fun heq => hid (List.mem_singleton.mpr heq)
    have hother := hall id
    rw [if_neg hne, if_neg hne] at hother
    exact hother.visible rfl t ht howner
  · rintro ⟨hk, hvisible⟩ id
    by_cases hid : id = k
    · rw [if_pos hid, if_pos hid]
      exact hk
    · rw [if_neg hid, if_neg hid, (h.opened hidle id).enabled_iff]
      exact fun t => hvisible id t fun hmem => hid (List.mem_singleton.mp hmem)

theorem coherent_operate_iff (h : r.Coherent) (kind : LayoutOpKind) :
    (RegistryChange.run r (.operate kind)).Coherent ↔ (RegistryChange.operate kind).Agrees r := by
  rw [RegistryChange.run, RegistryChange.Agrees]
  obtain ⟨enabled, localNodeId, held, filed⟩ := r
  cases filed with
  | none =>
    exact iff_of_true (fun _ h => absurd h.symm (Option.some_ne_none _))
      fun _ _ _ _ h => absurd h.symm (Option.some_ne_none _)
  | some filed =>
    have hid := coherent_of_filed.mp h
    dsimp only [Option.map_some]
    rw [coherent_of_filed, LayoutOpKind.edit]
    cases kind.entry with
    | none => exact iff_of_true hid fun _ _ h => absurd h.symm (Option.some_ne_none _)
    | some e =>
      obtain ⟨k, f⟩ := e
      dsimp only
      constructor
      · intro hall k' f' hentry filed' hfiled'
        obtain ⟨rfl, rfl⟩ := Prod.mk.inj (Option.some.inj hentry)
        obtain rfl := Option.some.inj hfiled'
        have hk := hall k
        rw [if_pos rfl] at hk
        exact hk
      · intro hk id
        split
        · rename_i heq
          rw [heq]
          exact hk k f rfl filed rfl
        · exact hid id

theorem coherent_close (h : r.Coherent) (id : TileId) :
    (RegistryChange.run r (.close id)).Coherent := by
  rw [RegistryChange.run]
  obtain ⟨enabled, localNodeId, held, filed⟩ := r
  cases filed with
  | none => exact fun _ h => absurd h.symm (Option.some_ne_none _)
  | some filed =>
    refine coherent_of_filed.mpr fun id' => ?_
    show AgreesAt enabled localNodeId (if id' = id then none else held id')
      (if id' = id then none else filed id')
    split
    · exact agreesAt_nothing
    · exact coherent_of_filed.mp h id'

theorem coherent_snapshot_iff (h : r.Coherent) (tiles : SortedMap TileId TileMetadata) :
    (RegistryChange.run r (.snapshot tiles)).Coherent ↔
      (RegistryChange.snapshot tiles).Agrees r := by
  rw [RegistryChange.run, RegistryChange.Agrees]
  obtain ⟨enabled, localNodeId, held, filed⟩ := r
  cases filed with
  | none => exact iff_of_true h fun hne => absurd rfl hne
  | some filed =>
    have howner : ∀ id r, held id = some r → r.metadata.ownerNodeId ≠ localNodeId :=
      fun id r hr => ((coherent_of_filed.mp h id).registered r hr).2
    dsimp only
    rw [coherent_of_filed]
    constructor
    · exact fun hall _ id => (agreesAt_snapshot_iff (howner id)).mp (hall id)
    · exact fun hagrees id =>
        (agreesAt_snapshot_iff (howner id)).mpr (hagrees (Option.some_ne_none filed) id)

theorem coherent_mirror_iff (h : r.Coherent) (hidle : r.Idle) (tiles : List TileMetadata) :
    (RegistryChange.run r (.mirror tiles)).Coherent ↔ (RegistryChange.mirror tiles).Agrees r := by
  have hlisted : ∀ id t, (tiles.reverse.find? fun t => t.tileId = id) = some t →
      RegistryChange.drops r.localNodeId tiles id (r.opened id) = false := by
    intro id t ht
    have hid : id ∈ tiles.map (·.tileId) := List.mem_map.mpr
      ⟨t, List.mem_reverse.mp (List.mem_of_find?_eq_some ht), by simpa using List.find?_some ht⟩
    cases r.opened id with
    | none => rfl
    | some t' =>
      rw [RegistryChange.drops, List.contains_iff_mem.mpr hid]
      exact Bool.and_false _
  have hunlisted : ∀ id, (tiles.reverse.find? fun t => t.tileId = id) = none ↔
      id ∉ tiles.map (·.tileId) := by
    intro id
    rw [List.find?_eq_none]
    constructor
    · rintro hnone hmem
      obtain ⟨t, ht, heq⟩ := List.mem_map.mp hmem
      exact hnone t (List.mem_reverse.mpr ht) (decide_eq_true heq)
    · intro hmem t ht heq
      exact hmem (List.mem_map.mpr ⟨t, List.mem_reverse.mp ht, by simpa using heq⟩)
  rw [RegistryChange.run, RegistryChange.Agrees, visibleBut_iff, coherent_of_filed]
  change (∀ id, AgreesAt true r.localNodeId
    (if RegistryChange.drops r.localNodeId tiles id (r.opened id) then none else r.held id)
    ((tiles.reverse.find? fun t => t.tileId = id).or
      (if RegistryChange.drops r.localNodeId tiles id (r.opened id) then none
      else r.opened id))) ↔ _
  constructor
  · intro hall
    refine ⟨fun id t ht => ?_, fun id t hid ht howner => ?_⟩
    · have hid := hall id
      rw [hlisted id t ht, ht] at hid
      exact hid
    · have hagrees := hall id
      have hkept : RegistryChange.drops r.localNodeId tiles id (r.opened id) = false := by
        rw [ht, RegistryChange.drops]
        simp [howner]
      rw [hkept, (hunlisted id).mpr hid] at hagrees
      exact hagrees.visible rfl t ht howner
  · rintro ⟨hfiled, hvisible⟩ id
    cases hfind : tiles.reverse.find? fun t => t.tileId = id with
    | some t =>
      rw [hlisted id t hfind]
      exact hfiled id t hfind
    | none =>
      rw [Option.none_or]
      split
      · exact agreesAt_nothing
      · rw [(h.opened hidle id).enabled_iff]
        exact fun t => hvisible id t ((hunlisted id).mp hfind)

/-- A change leaves the maps in agreement exactly if what it brings agrees. -/
theorem coherent_run_iff (h : r.Coherent) (hidle : r.Idle) (c : RegistryChange) :
    (c.run r).Coherent ↔ c.Agrees r := by
  cases c with
  | same => exact iff_of_true h trivial
  | enable =>
    rw [RegistryChange.run, RegistryChange.Agrees, coherent_of_filed, visibleBut_iff]
    exact forall_congr' fun id => ((h.opened hidle id).enabled_iff).trans
      (forall_congr' fun t => ⟨fun hv _ => hv, fun hv => hv List.not_mem_nil⟩)
  | disable =>
    refine iff_of_true (fun filed hfiled id => ?_) trivial
    exact agreesAt_cleared
  | leave => exact iff_of_true (fun _ h => absurd h.symm (Option.some_ne_none _)) trivial
  | restore tiles => exact coherent_of_filed
  | operate kind => exact coherent_operate_iff h kind
  | upsert tile =>
    rw [RegistryChange.run, RegistryChange.Agrees, ← agreesAt_write_iff h hidle,
      coherent_of_filed]
    refine forall_congr' fun id => ?_
    by_cases hid : id = tile.tileId
    · subst hid
      rw [if_pos rfl]
      exact Iff.rfl
    · rw [if_neg hid]
      exact Iff.rfl
  | close id => exact iff_of_true (coherent_close h id) trivial
  | file tile =>
    rw [RegistryChange.run, RegistryChange.Agrees, coherent_of_filed,
      ← agreesAt_filed_iff (b := true) (l := r.localNodeId), ← agreesAt_write_iff h hidle]
    exact Iff.rfl
  | snapshot tiles => exact coherent_snapshot_iff h tiles
  | mirror tiles => exact coherent_mirror_iff h hidle tiles

theorem idle_run (hidle : r.Idle) (c : RegistryChange) : (c.run r).Idle := by
  cases c with
  | same => exact hidle
  | disable => exact fun _ _ => rfl
  | leave => exact fun _ _ => rfl
  | operate kind => exact fun hnone => hidle (Option.map_eq_none_iff.mp hnone)
  | close id =>
    intro hnone id'
    rw [RegistryChange.run]
    dsimp only
    split
    · rfl
    · exact hidle (Option.map_eq_none_iff.mp hnone) id'
  | snapshot tiles =>
    rw [RegistryChange.run]
    split
    · exact hidle
    · exact fun hnone => absurd hnone (Option.some_ne_none _)
  | _ => exact fun hnone => absurd hnone (Option.some_ne_none _)

/-- An operation writes a tile under the tile's own id. -/
theorem tileId_edit {filed : TileId → Option TileMetadata}
    (h : ∀ id t, filed id = some t → t.tileId = id) (kind : LayoutOpKind) {id : TileId}
    {t : TileMetadata} (ht : kind.edit filed id = some t) : t.tileId = id := by
  have hmap : ∀ (k : TileId) (f : TileMetadata → TileMetadata), (∀ t, (f t).tileId = t.tileId) →
      (if id = k then (filed id).map f else filed id) = some t → t.tileId = id := by
    intro k f hf ht
    split at ht
    · obtain ⟨t', ht', rfl⟩ := Option.map_eq_some_iff.mp ht
      exact (hf t').trans (h id t' ht')
    · exact h id t ht
  have hset : ∀ tile : TileMetadata, (if id = tile.tileId then some tile else filed id) = some t →
      t.tileId = id := by
    intro tile ht
    split at ht
    · rename_i heq
      rw [← Option.some.inj ht, heq]
    · exact h id t ht
  cases kind with
  | insertTile tile index => exact hset tile ht
  | changeTileMetadata tile => exact hset tile ht
  | removeTile k =>
    have ht : (if id = k then none else filed id) = some t := ht
    split at ht
    · exact absurd ht.symm (Option.some_ne_none t)
    · exact h id t ht
  | moveTile k columnId index => exact hmap k (fun t => { t with columnId }) (fun _ => rfl) ht
  | changeTileState k change => exact hmap k change.apply (fun t => by cases change <;> rfl) ht
  | setFullscreen k value =>
    exact hmap k (fun t => { t with fullscreen := value }) (fun _ => rfl) ht
  | setFloating k value => exact hmap k (fun t => { t with floating := value }) (fun _ => rfl) ht
  | _ => exact h id t ht

theorem Registry.Keyed.opened (h : r.Keyed) (id : TileId) (t : TileMetadata)
    (ht : r.opened id = some t) : t.tileId = id := by
  rw [Registry.opened] at ht
  cases hfiled : r.filed with
  | none =>
    rw [hfiled] at ht
    exact absurd ht.symm (Option.some_ne_none t)
  | some filed =>
    rw [hfiled] at ht
    exact h filed hfiled id t ht

theorem keyed_run (h : r.Keyed) {c : RegistryChange} (hc : c.Keyed) : (c.run r).Keyed := by
  have hmap : ∀ kind : LayoutOpKind, ∀ filed, r.filed.map kind.edit = some filed →
      ∀ id t, filed id = some t → t.tileId = id := by
    intro kind filed hfiled id t ht
    obtain ⟨filed', hfiled', rfl⟩ := Option.map_eq_some_iff.mp hfiled
    exact tileId_edit (h filed' hfiled') kind ht
  cases c with
  | same => exact h
  | disable => exact h
  | leave => exact fun _ h => absurd h.symm (Option.some_ne_none _)
  | operate kind => exact hmap kind
  | close id => exact hmap (.removeTile id)
  | enable =>
    intro filed hfiled id t ht
    obtain rfl := Option.some.inj hfiled
    exact h.opened id t ht
  | upsert tile | file tile =>
    intro filed hfiled id t ht
    obtain rfl := Option.some.inj hfiled
    exact tileId_edit h.opened (.changeTileMetadata tile) ht
  | restore tiles =>
    intro filed hfiled id t ht
    obtain rfl := Option.some.inj hfiled
    exact hc id t ht
  | snapshot tiles =>
    rw [RegistryChange.run]
    split
    · exact h
    · intro filed hfiled id t ht
      obtain rfl := Option.some.inj hfiled
      exact hc id t ht
  | mirror tiles =>
    intro filed hfiled id t ht
    obtain rfl := Option.some.inj hfiled
    rcases Option.or_eq_some_iff.mp ht with ht | ⟨-, ht⟩
    · simpa using List.find?_some ht
    · split at ht
      · exact absurd ht.symm (Option.some_ne_none t)
      · exact h.opened id t ht

end Change

/-! ## The steps of the manager -/

section Steps

variable {m m' : LinkManager}

/-- In a workspace that is keyed, an operation writes its entry and no other. -/
theorem get_applyOp {ws : GlobalWorkspace} (h : ws.Keyed) (op : LayoutOp) :
    (applyOp ws op).tiles.get = op.kind.edit ws.tiles.get := by
  have htiles : (applyOp ws op).tiles = (ws.view.apply op.kind).tiles :=
    congrArg LayoutView.tiles (h.view_applyOp op)
  rw [htiles]
  funext id
  have hmodify : ∀ (k : TileId) (f : TileMetadata → TileMetadata),
      (ws.tiles.modify k f).get id =
        if id = k then (ws.tiles.get id).map f else ws.tiles.get id := by
    intro k f
    rw [SortedMap.get_modify]
    split
    · rename_i heq
      rw [heq]
    · rfl
  cases op.kind with
  | insertTile tile index => exact SortedMap.get_insert _ _ _ _
  | changeTileMetadata tile => exact SortedMap.get_insert _ _ _ _
  | removeTile k =>
    rw [LayoutView.apply, LayoutView.tiles_unfocus]
    exact SortedMap.get_remove _ _ _
  | moveTile k columnId index =>
    rw [LayoutView.apply]
    split
    · rw [LayoutView.modify, LayoutView.tiles_pushColumn]
      exact hmodify k _
    · -- a tile that is not filed is not moved
      rename_i hnone
      have hget : ws.tiles.get k = none := by
        simpa [SortedMap.contains, GlobalWorkspace.view] using hnone
      rw [LayoutOpKind.edit, LayoutOpKind.entry]
      dsimp only
      split
      · rename_i heq
        rw [heq, hget, Option.map_none]
        exact hget
      · rfl
  | changeTileState k change => exact hmodify k _
  | setFullscreen k value => exact hmodify k _
  | setFloating k value => exact hmodify k _
  | _ => rfl

end Steps

/-- The restored session, if one was found. -/
def RegistryChange.ofFound : Option PersistedSession → RegistryChange
  | some found => .restore found.globalLayout.tiles
  | none => .same

def RegistryChange.ofMessage : MessageKind → RegistryChange
  | .tileMetadataUpdate tile => .file tile
  | .tileClosed id => .close id
  | .layoutOp op => .operate op.kind
  | .globalSnapshot ws => .snapshot ws.tiles
  | .disableLink _ => .disable
  | _ => .same

def LinkManager.registryChangeOfCall (m : LinkManager) : Call → RegistryChange
  | .enable | .joinAddr _ | .upsertLocalViewport _ | .ensureLocalParticipant => .enable
  | .disable => .disable
  | .toggle => if m.enabled then .disable else .enable
  | .leave => .leave
  | .restoreSession sessions sessionId =>
      .ofFound ((sessions.getD []).find? fun it => it.sessionId = sessionId)
  | .restoreBestSession sessions =>
      .ofFound (restoreCandidate (sessions.getD []) (m.peers.keys ++ [m.localNodeId]))
  | .applyLayoutOp kind => .operate kind
  | .upsertLocalTile tile _ => .upsert tile
  | .closeTile id => .close id
  | .updateRemoteTile tile => .file tile
  | .syncLocalViewports _ | .syncFocusedTile _ => if m.enabled then .enable else .same
  | .syncLocalTiles tiles => if m.enabled then .mirror tiles else .same
  | _ => .same

/-- What an event does to the two maps. -/
def LinkManager.registryChange (m : LinkManager) : Event → RegistryChange
  | .received d => .ofMessage d.msg.envelope.kind
  | .called _ c => m.registryChangeOfCall c

section Changes

variable {m m' : LinkManager}

theorem registry_eq {r : Registry} (he : m'.enabled = r.enabled)
    (hl : m'.localNodeId = r.localNodeId) (hheld : ∀ id, m'.remoteTiles.get id = r.held id)
    (hfiled : (m'.currentSession.map fun s => s.workspace.tiles.get) = r.filed) :
    m'.registry = r := by
  obtain ⟨enabled, localNodeId, held, filed⟩ := r
  rw [LinkManager.registry, he, hl, hfiled, funext hheld]

theorem registry_modifyWorkspace {f : GlobalWorkspace → GlobalWorkspace}
    (hf : ∀ ws, (f ws).tiles = ws.tiles) : (m.modifyWorkspace f).registry = m.registry := by
  refine registry_eq rfl rfl (fun _ => rfl) ?_
  rw [modifyWorkspace, Option.map_map, LinkManager.registry]
  exact Option.map_congr fun s _ => congrArg SortedMap.get (hf s.workspace)

theorem registry_enable (env : Env) (m : LinkManager) :
    (m.enable env).registry = RegistryChange.enable.run m.registry := by
  refine registry_eq rfl rfl (fun _ => rfl) ?_
  rw [RegistryChange.run, LinkManager.registry, enable]
  cases m.currentSession with
  | none => rfl
  | some s => rfl

theorem registry_ensureLocalParticipant (env : Env) (m : LinkManager) :
    (m.ensureLocalParticipant env).registry = RegistryChange.enable.run m.registry := by
  rw [ensureLocalParticipant, registry_modifyWorkspace, registry_enable]
  exact fun _ => rfl

/-- What is filed stays under its id. -/
theorem keyed_registry_iff : m.registry.Keyed ↔
    ∀ s, m.currentSession = some s → s.workspace.Keyed := by
  rw [Registry.Keyed, LinkManager.registry]
  constructor
  · intro h s hs
    exact h _ (by rw [hs]; rfl)
  · intro h filed hfiled
    obtain ⟨s, hs, rfl⟩ := Option.map_eq_some_iff.mp hfiled
    exact h s hs

theorem map_apply_get {f : LinkedSession → LayoutOp} {kind : LayoutOpKind}
    (hkind : ∀ s, (f s).kind = kind) (hkeyed : m.registry.Keyed) :
    ((m.currentSession.map fun s => s.apply (f s)).map fun s => s.workspace.tiles.get) =
      m.registry.filed.map kind.edit := by
  rw [LinkManager.registry, Option.map_map, Option.map_map]
  refine Option.map_congr fun s hs => ?_
  show (applyOp s.workspace (f s)).tiles.get = kind.edit s.workspace.tiles.get
  rw [get_applyOp (keyed_registry_iff.mp hkeyed s hs), hkind]

theorem registry_applyLayoutOp (hkeyed : m.registry.Keyed) (kind : LayoutOpKind) :
    (m.applyLayoutOp kind).registry = (RegistryChange.operate kind).run m.registry :=
  registry_eq rfl rfl (fun _ => rfl) (map_apply_get (fun _ => rfl) hkeyed)

theorem registry_closeTile (hkeyed : m.registry.Keyed) (id : TileId) :
    (m.closeTile id).registry = (RegistryChange.close id).run m.registry :=
  registry_eq rfl rfl (fun id' => SortedMap.get_remove _ id id')
    (map_apply_get (fun _ => rfl) hkeyed)

theorem registry_updateRemoteTile (env : Env) (m : LinkManager) (tile : TileMetadata) :
    (m.updateRemoteTile env tile).registry = (RegistryChange.file tile).run m.registry := by
  have hfile : ∀ ws : GlobalWorkspace, (fileRemoteTile ws tile).tiles.get =
      (LayoutOpKind.changeTileMetadata tile).edit ws.tiles.get := by
    intro ws
    funext id
    rw [fileRemoteTile]
    dsimp only
    rw [tiles_pushColumn]
    exact SortedMap.get_insert _ _ _ _
  refine registry_eq rfl rfl (fun id => SortedMap.get_insert _ _ _ _) ?_
  rw [RegistryChange.run, LinkManager.registry, updateRemoteTile, enable]
  cases m.currentSession with
  | none => exact congrArg some (hfile _)
  | some s => exact congrArg some (hfile s.workspace)

theorem registry_receiveSnapshot (m : LinkManager) (ws : GlobalWorkspace) :
    (m.receiveSnapshot ws).registry = (RegistryChange.snapshot ws.tiles).run m.registry := by
  rw [receiveSnapshot, RegistryChange.run]
  cases hs : m.currentSession with
  | none =>
    have hfiled : m.registry.filed = none := by rw [LinkManager.registry, hs]; rfl
    rw [hfiled]
  | some s =>
    have hfiled : m.registry.filed = some s.workspace.tiles.get := by
      rw [LinkManager.registry, hs]
      rfl
    rw [hfiled]
    exact registry_eq rfl rfl (get_mergeRemoteTiles m ws) rfl

theorem mem_goneTileIds_iff (m : LinkManager) {ws : GlobalWorkspace} (h : ws.Keyed)
    (tiles : List TileMetadata) (id : TileId) : id ∈ m.goneTileIds ws tiles ↔
      RegistryChange.drops m.localNodeId tiles id (ws.tiles.get id) = true := by
  rw [mem_goneTileIds]
  constructor
  · rintro ⟨⟨k, t, ht, howner, rfl⟩, hid⟩
    rw [h k t ht, ht, RegistryChange.drops]
    rw [h k t ht] at hid
    simp only [howner, decide_true, Bool.true_and, Bool.not_eq_true', List.contains_eq_mem,
      decide_eq_false_iff_not]
    exact hid
  · intro hdrops
    cases ht : ws.tiles.get id with
    | none =>
      rw [ht] at hdrops
      exact absurd hdrops Bool.false_ne_true
    | some t =>
      rw [ht, RegistryChange.drops] at hdrops
      obtain ⟨howner, hid⟩ := Bool.and_eq_true_iff.mp hdrops
      refine ⟨⟨id, t, ht, of_decide_eq_true howner, h id t ht⟩, ?_⟩
      simpa using hid

theorem registry_syncLocalTiles (env : Env) (m : LinkManager) (hkeyed : m.registry.Keyed)
    (tiles : List TileMetadata) (henabled : m.enabled = true) :
    (m.syncLocalTiles env tiles).registry = (RegistryChange.mirror tiles).run m.registry := by
  obtain ⟨participants, log, hsession⟩ := m.ensureLocalParticipant_session env
  have hopened : m.registry.opened = (m.sharedWorkspace env).tiles.get := by
    rw [Registry.opened, LinkManager.registry, sharedWorkspace]
    cases m.currentSession with
    | none => rfl
    | some s => rfl
  have hshared : (m.sharedWorkspace env).Keyed := fun id t ht =>
    hkeyed.opened id t (by rw [hopened]; exact ht)
  have hgone : ∀ id, (id ∈ (m.ensureLocalParticipant env).goneTileIds
      { m.sharedWorkspace env with participants } tiles) ↔
        RegistryChange.drops m.localNodeId tiles id (m.registry.opened id) = true := by
    intro id
    rw [hopened]
    have hkeyed' : ({ m.sharedWorkspace env with participants } : GlobalWorkspace).Keyed := hshared
    exact mem_goneTileIds_iff (m.ensureLocalParticipant env) hkeyed' tiles id
  rw [syncLocalTiles, if_pos henabled]
  dsimp only
  rw [hsession]
  refine registry_eq rfl rfl (fun id => ?_) (congrArg some (funext fun id => ?_))
  · show ((LinkManager.goneTileIds _ _ tiles).foldl SortedMap.remove m.remoteTiles).get id =
      if RegistryChange.drops m.localNodeId tiles id (m.registry.opened id) then none
      else m.remoteTiles.get id
    rw [SortedMap.get_foldl_remove]
    exact if_congr (hgone id) rfl rfl
  · show (LinkManager.syncWorkspaceTiles _ _ tiles).tiles.get id =
      (tiles.reverse.find? fun t => t.tileId = id).or
        (if RegistryChange.drops m.localNodeId tiles id (m.registry.opened id) then none
        else m.registry.opened id)
    rw [tiles_syncWorkspaceTiles, get_fileLocalTiles, get_foldl_dropTile, hopened]
    rw [hopened] at hgone
    exact congrArg _ (if_congr (hgone id) rfl rfl)

theorem registry_broadcast (env : Env) (m : LinkManager) (kind : MessageKind) :
    (m.broadcast env kind).registry = m.registry := by
  have hposts : ∀ (addrs : List String) (m : LinkManager),
      (addrs.foldl (fun m addr => m.post env addr kind) m).registry = m.registry := by
    intro addrs
    induction addrs with
    | nil => exact fun _ => rfl
    | cons addr addrs ih => exact fun m => ih (m.post env addr kind)
  exact hposts m.connectedAddrs m

/-- What a received message does to the two maps. -/
theorem registry_receive (hkeyed : m.registry.Keyed) {d : LinkManager.Delivery}
    (h : m.receive d = some m') :
    m'.registry = (RegistryChange.ofMessage d.msg.envelope.kind).run m.registry := by
  rw [LinkManager.receive, LinkManager.processMessage] at h
  cases hkind : d.msg.envelope.kind with
  | heartbeat seq generation =>
    rw [hkind] at h
    have hkeep : ((m.connect d.msg.envelope.senderNodeId).touchParticipant d.env
        d.msg.envelope.senderNodeId).registry = m.registry :=
      registry_modifyWorkspace (m := m.connect d.msg.envelope.senderNodeId) fun _ => rfl
    dsimp only [LinkManager.receiveHeartbeat] at h
    split at h
    · exact Option.some.inj h ▸ hkeep
    · split at h
      · exact Option.some.inj h ▸ hkeep
      · cases h
  | joinAccept leader generation seq | viewportUpdate viewport | focusUpdate focused =>
    rw [hkind] at h
    exact Option.some.inj h ▸ registry_modifyWorkspace fun _ => rfl
  | globalSnapshot ws =>
    rw [hkind] at h
    exact Option.some.inj h ▸ registry_receiveSnapshot m ws
  | layoutOp op =>
    rw [hkind] at h
    exact Option.some.inj h ▸
      registry_eq rfl rfl (fun _ => rfl) (map_apply_get (f := fun _ => op) (fun _ => rfl) hkeyed)
  | tileMetadataUpdate tile =>
    rw [hkind] at h
    exact Option.some.inj h ▸ registry_updateRemoteTile d.env m tile
  | tileClosed id =>
    rw [hkind] at h
    exact Option.some.inj h ▸ registry_closeTile hkeyed id
  | hello hostname fingerprint | joinRequest hostname token | disableLink persist
  | unhandled kind =>
    rw [hkind] at h
    exact Option.some.inj h ▸ rfl

/-- What a call does to the two maps. -/
theorem registry_call (env : Env) (m : LinkManager) (hkeyed : m.registry.Keyed) (c : Call) :
    (m.call env c).registry = (m.registryChangeOfCall c).run m.registry := by
  have henabled : (m.enable env).registry.Keyed := by
    rw [registry_enable]
    exact keyed_run hkeyed trivial
  cases c with
  | enable => exact registry_enable env m
  | joinAddr addr => exact registry_enable env m
  | toggle =>
    show (m.toggle env).registry =
      (if m.enabled then RegistryChange.disable else .enable).run m.registry
    rw [LinkManager.toggle]
    split
    · rfl
    · exact registry_enable env m
  | restoreSession sessions sessionId =>
    show (m.restoreSession sessions sessionId).registry = (RegistryChange.ofFound
      ((sessions.getD []).find? fun it => it.sessionId = sessionId)).run m.registry
    rw [LinkManager.restoreSession]
    split
    · rename_i found hfound
      rw [hfound]
      rfl
    · rename_i hfound
      rw [hfound]
      rfl
  | restoreBestSession sessions =>
    show (m.restoreBestSession sessions).registry = (RegistryChange.ofFound
      (restoreCandidate (sessions.getD []) (m.peers.keys ++ [m.localNodeId]))).run m.registry
    rw [LinkManager.restoreBestSession]
    split
    · rename_i found hfound
      rw [hfound]
      rfl
    · rename_i hfound
      rw [hfound]
      rfl
  | applyLayoutOp kind => exact registry_applyLayoutOp hkeyed kind
  | upsertLocalViewport viewport =>
    show ((m.enable env).applyLayoutOp (.setViewport viewport)).registry =
      RegistryChange.enable.run m.registry
    rw [registry_applyLayoutOp henabled, registry_enable]
    rfl
  | upsertLocalTile tile index =>
    show ((m.enable env).applyLayoutOp (.insertTile tile index)).registry =
      (RegistryChange.upsert tile).run m.registry
    rw [registry_applyLayoutOp henabled, registry_enable]
    rfl
  | closeTile id => exact registry_closeTile hkeyed id
  | updateRemoteTile tile => exact registry_updateRemoteTile env m tile
  | setLeader node | refreshLeader | touchParticipant id =>
    exact registry_modifyWorkspace fun _ => rfl
  | broadcastTileUpdate tile => exact registry_broadcast env m _
  | sendHeartbeat =>
    show (m.sendHeartbeat env).registry = m.registry
    rw [LinkManager.sendHeartbeat]
    split
    · exact registry_broadcast env m _
    · rfl
  | checkPeerTimeouts timeoutMillis =>
    show (m.checkPeerTimeouts env timeoutMillis).registry = m.registry
    rw [LinkManager.checkPeerTimeouts]
    split <;> rfl
  | ensureLocalParticipant => exact registry_ensureLocalParticipant env m
  | syncLocalViewports viewports =>
    show (m.syncLocalViewports env viewports).registry =
      (if m.enabled then RegistryChange.enable else .same).run m.registry
    rw [LinkManager.syncLocalViewports]
    split
    · rw [registry_modifyWorkspace, registry_ensureLocalParticipant]
      intro ws
      split <;> rfl
    · rfl
  | syncLocalTiles tiles =>
    show (m.syncLocalTiles env tiles).registry =
      (if m.enabled then RegistryChange.mirror tiles else .same).run m.registry
    by_cases hon : m.enabled = true
    · rw [if_pos hon, registry_syncLocalTiles env m hkeyed tiles hon]
    · rw [if_neg hon, LinkManager.syncLocalTiles, if_neg hon]
      rfl
  | syncFocusedTile focused =>
    show (m.syncFocusedTile env focused).registry =
      (if m.enabled then RegistryChange.enable else .same).run m.registry
    rw [LinkManager.syncFocusedTile]
    split
    · rw [registry_modifyWorkspace, registry_ensureLocalParticipant]
      exact fun _ => rfl
    · rfl
  | pair node => cases node <;> rfl
  | disable | leave | unpair | trustNode | sendHello => rfl

theorem step_registry (hkeyed : m.registry.Keyed) {e : Event} (h : m.step e = some m') :
    m'.registry = (m.registryChange e).run m.registry := by
  cases e with
  | received d => exact registry_receive hkeyed h
  | called env c => exact Option.some.inj h ▸ registry_call env m hkeyed c

end Changes

/-! ## Runs -/

theorem coherent_registry_iff {m : LinkManager} : m.registry.Coherent ↔ m.Coherent := by
  rw [Registry.Coherent, LinkManager.registry, LinkManager.Coherent]
  constructor
  · intro h s hs
    exact h _ (by rw [hs]; rfl)
  · intro h filed hfiled
    obtain ⟨s, hs, rfl⟩ := Option.map_eq_some_iff.mp hfiled
    exact h s hs

/-- An event that fails would touch neither map. -/
theorem registryChange_of_step_none {m : LinkManager} {e : Event} (h : m.step e = none) :
    m.registryChange e = .same := by
  obtain ⟨d, operationSeq, generation, rfl, hkind⟩ := m.heartbeat_of_step_none h
  rw [LinkManager.registryChange, hkind]
  rfl

/-- While snapshots and restored layouts are keyed, the registry and the workspace
agree after every event of a run exactly if what each event brings agrees with what
it finds. -/
theorem registry_coherent_iff (enabled pairingMode : Bool) (localNodeId : NodeId)
    (hostname fingerprint : String) (trustStore : TrustStore) (es : List Event) :
    StepsMeet LinkManager.step
        (fun m e => (m.registryChange e).Keyed ∧ ∀ m', m.step e = some m' → m'.Coherent)
        (.new enabled pairingMode localNodeId hostname fingerprint trustStore) es ↔
      StepsMeet LinkManager.step
        (fun m e => (m.registryChange e).Keyed ∧ (m.registryChange e).Agrees m.registry)
        (.new enabled pairingMode localNodeId hostname fingerprint trustStore) es := by
  have hnew : ∀ filed,
      (LinkManager.new enabled pairingMode localNodeId hostname fingerprint
        trustStore).registry.filed = some filed → False :=
    fun filed h => absurd h.symm (Option.some_ne_none filed)
  refine stepsMeet_iff
    (fun m e (hm : m.registry.Keyed ∧ m.registry.Idle ∧ m.registry.Coherent) =>
      and_congr_right fun _ => ?_)
    (fun m e m' hm hgood hstep => ?_) ?_
  · obtain ⟨hkeyed, hidle, hcoherent⟩ := hm
    rw [← coherent_run_iff hcoherent hidle]
    constructor
    · intro hall
      cases hstep : m.step e with
      | none =>
        rw [registryChange_of_step_none hstep]
        exact hcoherent
      | some m' =>
        rw [← step_registry hkeyed hstep]
        exact coherent_registry_iff.mpr (hall m' hstep)
    · intro hrun m' hstep
      rw [← coherent_registry_iff, step_registry hkeyed hstep]
      exact hrun
  · obtain ⟨hkeyed, hidle, -⟩ := hm
    have hregistry := step_registry hkeyed hstep
    exact ⟨hregistry ▸ keyed_run hkeyed hgood.1, hregistry ▸ idle_run hidle _,
      coherent_registry_iff.mpr (hgood.2 m' hstep)⟩
  · exact ⟨fun filed h => (hnew filed h).elim, fun _ _ => rfl, fun filed h => (hnew filed h).elim⟩

/-- After `disable` and `enable` the tile of node 2 is in the workspace and shown
nowhere. -/
theorem reenabled_tile_unregistered :
    ¬ ∀ es : List Event,
      StepsMeet LinkManager.step (fun m e => ∀ m', m.step e = some m' → m'.Coherent)
        newManager es := by
  intro h
  obtain ⟨-, hrest⟩ :=
    h [.received tileUpdate, .called ⟨0, 0, 0⟩ .disable, .called ⟨0, 0, 0⟩ .enable]
  obtain ⟨-, hrest⟩ := hrest _ rfl
  obtain ⟨hcoherent, -⟩ := hrest _ rfl
  exact (hcoherent _ rfl _ rfl 5).visible rfl (sampleTile 5 2 7) rfl (by decide) rfl

end Cidre.Link
