/-
  Cidre.Link.Focus

  The focused tile is a tile of the workspace.

  Every path that removes a tile clears a focus on it, and the paths that file tiles
  only add to them.  The paths that set the focus do not look it up: `FocusTile` and
  a received `FocusUpdate` take the id as it comes, `FocusColumn` takes the id that a
  tile of the column says it has, and a snapshot brings its own focus.
-/

import Cidre.Link.LocalTiles

namespace Cidre.Link

open Cidre.Run LinkManager

/-- No tile is focused, or one that is filed. -/
def GlobalWorkspace.FocusPresent (ws : GlobalWorkspace) : Prop :=
  ∀ id, ws.focusedTile = some id → ws.tiles.get id ≠ none

def LinkManager.FocusPresent (m : LinkManager) : Prop :=
  ∀ s, m.currentSession = some s → s.workspace.FocusPresent

/-! ## Paths that leave the focus alone -/

/-- The same focus, and no tile lost. -/
structure Grows (ws ws' : GlobalWorkspace) : Prop where
  focus : ws'.focusedTile = ws.focusedTile
  held : ∀ id, ws.tiles.get id ≠ none → ws'.tiles.get id ≠ none

section Grows

variable {ws ws' ws'' : GlobalWorkspace}

theorem Grows.refl (ws : GlobalWorkspace) : Grows ws ws := ⟨rfl, fun _ h => h⟩

theorem Grows.trans (h : Grows ws ws') (h' : Grows ws' ws'') : Grows ws ws'' :=
  ⟨h'.focus.trans h.focus, fun id hid => h'.held id (h.held id hid)⟩

theorem Grows.focusPresent (h : Grows ws ws') (hfocus : ws.FocusPresent) : ws'.FocusPresent :=
  fun id hid => h.held id (hfocus id (h.focus ▸ hid))

theorem get_insert_ne_none {m : SortedMap TileId TileMetadata} {k id : TileId} {t : TileMetadata}
    (h : m.get id ≠ none) : (m.insert k t).get id ≠ none := by
  rw [SortedMap.get_insert]
  split
  · exact Option.some_ne_none t
  · exact h

theorem grows_insert (ws : GlobalWorkspace) (k : TileId) (t : TileMetadata) :
    Grows ws { ws with tiles := ws.tiles.insert k t } :=
  ⟨rfl, fun _ h => get_insert_ne_none h⟩

theorem grows_modifyTile (ws : GlobalWorkspace) (k : TileId) (f : TileMetadata → TileMetadata) :
    Grows ws (modifyTile ws k f) := by
  refine ⟨rfl, fun id h => ?_⟩
  rw [modifyTile, SortedMap.get_modify]
  split
  · rename_i heq
    subst heq
    simpa using h
  · exact h

theorem grows_pushColumn (ws : GlobalWorkspace) (c : ColumnId) : Grows ws (pushColumn ws c) := by
  rw [pushColumn]
  split <;> exact ⟨rfl, fun _ h => h⟩

theorem grows_rewriteColumnMembership (ws : GlobalWorkspace) (c : ColumnId) (ids : List TileId) :
    Grows ws (rewriteColumnMembership ws c ids) := by
  refine ⟨rfl, fun id h => ?_⟩
  rw [rewriteColumnMembership]
  dsimp only
  generalize (ids.filterMap ws.tiles.get).map (fun t => { t with columnId := c }) = tiles
  generalize ws.tiles = held at h ⊢
  induction tiles generalizing held with
  | nil => exact h
  | cons t tiles ih => exact ih _ (get_insert_ne_none h)

theorem grows_insertTile (ws : GlobalWorkspace) (tile : TileMetadata) (index : Nat) :
    Grows ws (insertTile ws tile index) :=
  ((grows_pushColumn ws _).trans (grows_insert _ _ _)).trans (grows_rewriteColumnMembership _ _ _)

theorem grows_moveTile (ws : GlobalWorkspace) (id : TileId) (c : ColumnId) (index : Nat) :
    Grows ws (moveTile ws id c index) := by
  rw [moveTile]
  split
  · exact (((grows_modifyTile ws id _).trans (grows_rewriteColumnMembership _ _ _)).trans
      (grows_rewriteColumnMembership _ _ _)).trans (grows_pushColumn _ _)
  · exact Grows.refl ws

end Grows

/-! ## Paths that remove a tile -/

section Removal

variable {ws ws' : GlobalWorkspace} {id : TileId}

/-- What a tile's removal must keep: the focus, and every other tile. -/
theorem focusPresent_unfocus (h : ws.FocusPresent) (hfocus : ws'.focusedTile = ws.focusedTile)
    (hheld : ∀ id', id' ≠ id → ws.tiles.get id' ≠ none → ws'.tiles.get id' ≠ none) :
    (unfocus ws' id).FocusPresent := by
  rw [unfocus]
  split
  · exact fun _ h => absurd h.symm (Option.some_ne_none _)
  · rename_i hother
    intro id' hid'
    have hne : id' ≠ id := fun heq => hother (heq ▸ hid')
    exact hheld id' hne (h id' (hfocus ▸ hid'))

theorem get_remove_ne_none {m : SortedMap TileId TileMetadata} {id' : TileId} (hne : id' ≠ id)
    (h : m.get id' ≠ none) : (m.remove id).get id' ≠ none := by
  rw [SortedMap.get_remove, if_neg hne]
  exact h

theorem focusPresent_removeTile (h : ws.FocusPresent) (id : TileId) :
    (removeTile ws id).FocusPresent := by
  rw [removeTile]
  split
  · have hgrows := grows_rewriteColumnMembership { ws with tiles := ws.tiles.remove id }
    exact focusPresent_unfocus h (hgrows _ _).focus
      fun id' hne hget => (hgrows _ _).held id' (get_remove_ne_none hne hget)
  · exact focusPresent_unfocus h rfl fun _ _ hget => hget

theorem focusPresent_foldl_dropTile (ids : List TileId) (h : ws.FocusPresent) :
    (ids.foldl dropTile ws).FocusPresent := by
  induction ids generalizing ws with
  | nil => exact h
  | cons id ids ih =>
    exact ih (focusPresent_unfocus h rfl fun _ hne hget => get_remove_ne_none hne hget)

theorem grows_fileLocalTiles (ws : GlobalWorkspace) (tiles : List TileMetadata) (changed : Bool) :
    Grows ws (fileLocalTiles ws tiles changed).1 := by
  rw [fileLocalTiles]
  induction tiles generalizing ws changed with
  | nil => exact Grows.refl ws
  | cons t tiles ih =>
    have hstep : Grows ws (if ws.tiles.get t.tileId = some t then (ws, changed)
        else ({ ws with tiles := ws.tiles.insert t.tileId t }, true)).1 := by
      split
      · exact Grows.refl ws
      · exact grows_insert ws _ _
    rw [List.foldl_cons]
    exact hstep.trans (ih _ _)

/-- `sync_local_tiles` clears a focus on a tile that is gone. -/
theorem focusPresent_syncWorkspaceTiles (m : LinkManager) (tiles : List TileMetadata)
    (h : ws.FocusPresent) : (m.syncWorkspaceTiles ws tiles).FocusPresent := by
  have hfiled := (grows_fileLocalTiles _ tiles (!(m.goneTileIds ws tiles).isEmpty)).focusPresent
    (focusPresent_foldl_dropTile (m.goneTileIds ws tiles) h)
  rw [syncWorkspaceTiles]
  split
  · exact hfiled
  · exact hfiled

end Removal

/-! ## Paths that set the focus -/

/-- The tile an operation focuses is filed; `FocusColumn` means the first tile of
the column by the id that the tile itself has. -/
def LayoutOpKind.FocusKnown (ws : GlobalWorkspace) : LayoutOpKind → Prop
  | .focusTile tileId => ∀ id, tileId = some id → ws.tiles.get id ≠ none
  | .focusColumn columnId => ∀ t, (ws.tiles.values.find? fun t => t.columnId = columnId) = some t →
      ws.tiles.get t.tileId ≠ none
  | _ => True

theorem focusPresent_applyOp_iff {ws : GlobalWorkspace} (h : ws.FocusPresent) (op : LayoutOp) :
    (applyOp ws op).FocusPresent ↔ op.kind.FocusKnown ws := by
  have hcounted : ({ ws with operationSeq := op.seq, generation := op.generation } :
    GlobalWorkspace).FocusPresent := h
  rw [applyOp]
  cases op.kind with
  | focusTile tileId => exact Iff.rfl
  | focusColumn columnId =>
    constructor
    · intro hfocus t ht
      exact hfocus t.tileId (congrArg (Option.map TileMetadata.tileId) ht)
    · intro hknown id hid
      obtain ⟨t, ht, rfl⟩ := Option.map_eq_some_iff.mp hid
      exact hknown t ht
  | insertTile tile index =>
    exact iff_of_true ((grows_insertTile _ tile index).focusPresent hcounted) trivial
  | removeTile id => exact iff_of_true (focusPresent_removeTile hcounted id) trivial
  | moveTile id columnId index =>
    exact iff_of_true ((grows_moveTile _ id columnId index).focusPresent hcounted) trivial
  | changeTileState id change | setFullscreen id value | setFloating id value =>
    exact iff_of_true ((grows_modifyTile _ id _).focusPresent hcounted) trivial
  | changeTileMetadata tile =>
    exact iff_of_true ((grows_insert _ tile.tileId tile).focusPresent hcounted) trivial
  | _ => exact iff_of_true hcounted trivial

/-! ## Runs -/

/-- The layout operations, the messages that close tiles, set the focus or replace
the workspace, and `sync_local_tiles`. -/
def Event.ActsOnFocus : Event → Prop
  | .received d =>
      match d.msg.envelope.kind with
      | .layoutOp _ | .tileClosed _ | .focusUpdate _ | .globalSnapshot _ => True
      | _ => False
  | .called _ c =>
      match c with
      | .applyLayoutOp _ | .closeTile _ | .upsertLocalTile _ _ | .syncLocalTiles _ => True
      | _ => False

/-- What the event focuses is a tile of the workspace it comes to, or of the
workspace it brings. -/
def Event.FocusKnown (m : LinkManager) : Event → Prop
  | .received d =>
      match d.msg.envelope.kind with
      | .layoutOp op => ∀ s, m.currentSession = some s → op.kind.FocusKnown s.workspace
      | .focusUpdate focusedTile => ∀ s, m.currentSession = some s →
          ∀ id, focusedTile = some id → s.workspace.tiles.get id ≠ none
      | .globalSnapshot ws => m.currentSession ≠ none → ws.FocusPresent
      | _ => True
  | .called _ (.applyLayoutOp kind) => ∀ s, m.currentSession = some s → kind.FocusKnown s.workspace
  | _ => True

section Steps

variable {m m' : LinkManager}

theorem focusPresent_apply_iff {f : LinkedSession → LayoutOp} (h : m.FocusPresent)
    (hm' : m'.currentSession = m.currentSession.map fun s => s.apply (f s)) :
    m'.FocusPresent ↔ ∀ s, m.currentSession = some s → (f s).kind.FocusKnown s.workspace := by
  rw [LinkManager.FocusPresent, hm']
  cases hs : m.currentSession with
  | none =>
    refine iff_of_true (fun s hs => ?_) (fun s hs => ?_)
    · exact absurd hs.symm (Option.some_ne_none _)
    · exact absurd hs.symm (Option.some_ne_none _)
  | some s =>
    have hiff := focusPresent_applyOp_iff (h s hs) (f s)
    constructor
    · intro hfocus s' hs'
      obtain rfl := Option.some.inj hs'
      exact hiff.mp (hfocus _ rfl)
    · intro hknown s' hs'
      obtain rfl := Option.some.inj hs'
      exact hiff.mpr (hknown s rfl)

theorem focusPresent_enable (env : Env) (h : m.FocusPresent) : (m.enable env).FocusPresent := by
  intro s hs
  rw [enable] at hs
  cases hold : m.currentSession with
  | none =>
    rw [hold] at hs
    obtain rfl := Option.some.inj hs
    exact fun _ h => absurd h.symm (Option.some_ne_none _)
  | some s' =>
    rw [hold] at hs
    obtain rfl := Option.some.inj hs
    exact h s' hold

theorem focusPresent_closeTile (h : m.FocusPresent) (id : TileId) :
    (m.closeTile id).FocusPresent :=
  (focusPresent_apply_iff (f := fun s => m.nextOp s (.removeTile id)) h rfl).mpr
    fun _ _ => trivial

theorem focusPresent_syncLocalTiles (env : Env) (tiles : List TileMetadata) (h : m.FocusPresent) :
    (m.syncLocalTiles env tiles).FocusPresent := by
  rw [syncLocalTiles]
  split
  · obtain ⟨participants, log, hsession⟩ := m.ensureLocalParticipant_session env
    dsimp only
    rw [hsession]
    intro s hs
    obtain rfl := Option.some.inj hs
    obtain ⟨log', henable⟩ := m.enable_session env
    have hfocus : (m.sharedWorkspace env).FocusPresent := focusPresent_enable env h _ henable
    exact focusPresent_syncWorkspaceTiles _ tiles hfocus
  · exact h

/-- One step: the focus stays on a tile of the workspace exactly if what the event
focuses is one. -/
theorem step_focusPresent_iff {e : Event} (hacts : e.ActsOnFocus) (h : m.FocusPresent) :
    (∀ m', m.step e = some m' → m'.FocusPresent) ↔ e.FocusKnown m := by
  have hone : ∀ m', m.step e = some m' →
      ((∀ m', m.step e = some m' → m'.FocusPresent) ↔ m'.FocusPresent) := by
    intro m' hm'
    constructor
    · exact fun hall => hall m' hm'
    · intro hfocus m'' hm''
      obtain rfl := Option.some.inj (hm'.symm.trans hm'')
      exact hfocus
  cases e with
  | received d =>
    obtain ⟨env, peer, envelope⟩ := d
    rw [Event.ActsOnFocus] at hacts
    rw [Event.FocusKnown]
    dsimp only at hacts ⊢
    have hstep : m.step (.received ⟨env, peer, envelope⟩) =
      m.processMessage env ⟨peer, envelope⟩ := rfl
    rw [processMessage] at hstep
    dsimp only at hstep
    cases hkind : envelope.kind with
    | layoutOp op =>
      rw [hkind] at hstep
      rw [hone _ hstep]
      exact focusPresent_apply_iff (f := fun _ => op) h rfl
    | tileClosed id =>
      rw [hkind] at hstep
      rw [hone _ hstep]
      exact iff_of_true (focusPresent_closeTile h id) trivial
    | focusUpdate focusedTile =>
      rw [hkind] at hstep
      rw [hone _ hstep]
      constructor
      · intro hfocus s hs
        exact hfocus _ (modifyWorkspace_session hs _)
      · intro hknown s' hs'
        obtain ⟨s, hs, rfl⟩ := Option.map_eq_some_iff.mp hs'
        exact hknown s hs
    | globalSnapshot ws =>
      rw [hkind] at hstep
      rw [hone _ hstep]
      cases hs : m.currentSession with
      | none =>
        rw [receiveSnapshot, hs]
        exact iff_of_true h fun hne => absurd rfl hne
      | some s =>
        rw [receiveSnapshot, hs]
        constructor
        · exact fun hfocus _ => hfocus _ rfl
        · intro hknown s' hs'
          obtain rfl := Option.some.inj hs'
          exact hknown (Option.some_ne_none s)
    | _ =>
      rw [hkind] at hacts
      exact hacts.elim
  | called env c =>
    rw [hone _ rfl]
    cases c with
    | applyLayoutOp kind =>
      exact focusPresent_apply_iff (f := fun s => m.nextOp s kind) h rfl
    | closeTile id => exact iff_of_true (focusPresent_closeTile h id) trivial
    | upsertLocalTile tile index =>
      exact iff_of_true ((focusPresent_apply_iff
        (f := fun s => (m.enable env).nextOp s (.insertTile tile index))
        (focusPresent_enable env h) rfl).mpr fun _ _ => trivial) trivial
    | syncLocalTiles tiles => exact iff_of_true (focusPresent_syncLocalTiles env tiles h) trivial
    | _ => exact hacts.elim

end Steps

/-- The focus never dangles along a run exactly if every event focuses a tile of the
workspace at that time. -/
theorem focus_never_dangles_iff (m : LinkManager) (es : List Event) (h : m.FocusPresent)
    (hacts : ∀ e ∈ es, e.ActsOnFocus) :
    StepsMeet LinkManager.step (fun m e => ∀ m', m.step e = some m' → m'.FocusPresent) m es ↔
      StepsMeet LinkManager.step (fun m e => e.FocusKnown m) m es := by
  refine stepsMeet_iff_of_mem (fun e he m hm => ?_) (fun e _ m m' _ hgood hstep => ?_) h
  · exact step_focusPresent_iff (hacts e he) hm
  · exact hgood m' hstep

theorem focusPresent_empty (env : Env) : (newManager.enable env).FocusPresent :=
  focusPresent_enable env fun s hs => absurd hs.symm (Option.some_ne_none s)

/-- A tile is inserted, focused and closed. -/
theorem focus_inserted_tile :
    StepsMeet LinkManager.step (fun m e => ∀ m', m.step e = some m' → m'.FocusPresent)
      (newManager.enable ⟨0, 0, 0⟩)
      [.called ⟨0, 0, 0⟩ (.applyLayoutOp (.changeTileMetadata (sampleTile 5 2 7))),
        .called ⟨0, 0, 0⟩ (.applyLayoutOp (.focusTile (some 5))),
        .called ⟨0, 0, 0⟩ (.closeTile 5)] := by
  refine (focus_never_dangles_iff _ _ (focusPresent_empty _) ?_).mpr
    ⟨fun _ _ => trivial, fun m hm =>
      ⟨fun s hs id hid => ?_, fun _ _ => ⟨trivial, fun _ _ => trivial⟩⟩⟩
  · intro e he
    simp only [List.mem_cons, List.not_mem_nil, or_false] at he
    rcases he with rfl | rfl | rfl
    · trivial
    · trivial
    · trivial
  · obtain rfl := Option.some.inj hm
    obtain rfl := Option.some.inj hs
    obtain rfl := Option.some.inj hid
    decide +kernel

/-- A node sets the focus to a tile that the session never had. -/
def focusUnknown : Event :=
  .received ⟨⟨0, 0, 0⟩, ⟨"peer", ⟨1, 0, 2, 0, 0, .focusUpdate (some 5)⟩⟩⟩

theorem unknown_focus_dangles :
    ¬ ∀ (m : LinkManager) (es : List Event), m.FocusPresent → (∀ e ∈ es, e.ActsOnFocus) →
      StepsMeet LinkManager.step (fun m e => ∀ m', m.step e = some m' → m'.FocusPresent) m es := by
  intro h
  have hacts : ∀ e ∈ [focusUnknown], e.ActsOnFocus := by
    intro e he
    obtain rfl := List.mem_singleton.mp he
    trivial
  obtain ⟨hfocus, -⟩ := h (newManager.enable ⟨0, 0, 0⟩) _ (focusPresent_empty _) hacts
  exact hfocus _ rfl _ rfl 5 rfl rfl

end Cidre.Link
