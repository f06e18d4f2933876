/-
  Cidre.Workspace.Sound

  The invariant of a workspace, and that its operations keep it.

  The layouts are sound and have no window in common.  The floating layout is active only
  if it has windows, and it is active if only it has windows.
-/

import Cidre.Workspace.Calls

namespace Cidre

open Cidre.Panic
open Cidre.Floating (FloatingSpace PositionChange)
open Cidre.Layout (ScrollingSpace Column ColumnWidth Geometry)
open Cidre.Layout.ScrollingSpace (Added Removed Rearranged)
open Cidre.Utils.Logical
open Cidre.Workspaces (ActivateWindow)

variable {W F : Type}

/-! ## The layouts -/

theorem Floating.FloatingSpace.ids_eq_nil {s : FloatingSpace W F} : s.ids = [] ↔ s.tiles = [] :=
  List.map_eq_nil_iff

theorem Floating.FloatingSpace.hasWindow_iff [DecidableEq W] {s : FloatingSpace W F} {id : W} :
    s.hasWindow id = true ↔ id ∈ s.ids := by
  rw [Floating.FloatingSpace.hasWindow, List.any_eq_true, Floating.FloatingSpace.ids, List.mem_map]
  simp only [beq_iff_eq]

theorem Layout.ScrollingSpace.WellFormed.windowIds_eq_nil {s : ScrollingSpace W F}
    (h : s.WellFormed) : s.windowIds = [] ↔ s.columns = [] := by
  constructor
  · intro hnil
    by_contra hne
    obtain ⟨col, hcol, hcoherent⟩ := h.activeColumn hne
    obtain ⟨tile, htile⟩ := List.exists_mem_of_ne_nil _ hcoherent.tiles_ne
    have hmem : tile.id ∈ s.windowIds :=
      List.mem_flatten.mpr ⟨col.ids, List.mem_map_of_mem (List.mem_of_getElem? hcol),
        List.mem_map_of_mem htile⟩
    rw [hnil] at hmem
    cases hmem
  · intro hnil
    rw [ScrollingSpace.windowIds, ScrollingSpace.arrangement, hnil]
    rfl

namespace Workspace

variable {s : Workspace W F}

theorem scrollingTiles_ids (s : Workspace W F) :
    (s.scrollingTiles.map fun tile => tile.id) = s.scrolling.windowIds := by
  rw [scrollingTiles, List.map_flatMap, ScrollingSpace.windowIds, ScrollingSpace.arrangement,
    List.flatMap_def]
  rfl

theorem windows_eq (s : Workspace W F) : s.windows = s.scrolling.windowIds ++ s.floating.ids := by
  rw [windows, scrollingTiles_ids]

/-! ## The invariant -/

variable [DecidableEq W] {parent : W → Option W}

/-- The layouts are sound, and have no window in common. -/
structure Intact (parent : W → Option W) (s : Workspace W F) : Prop where
  scrolling : s.scrolling.WellFormed
  floating : s.floating.Sound parent
  disjoint : ∀ id ∈ s.floating.ids, id ∉ s.scrolling.windowIds

structure Sound (parent : W → Option W) (s : Workspace W F) : Prop extends Intact parent s where
  active : s.floatingIsActive.get = true → s.floating.ids ≠ []
  only : s.scrolling.windowIds = [] → s.floating.ids ≠ [] → s.floatingIsActive.get = true

theorem hasWindow_iff {id : W} : s.hasWindow id = true ↔ id ∈ s.windows := by
  rw [hasWindow, Bool.or_eq_true, windows, List.mem_append, FloatingSpace.hasWindow_iff,
    List.any_eq_true, List.mem_map]
  simp only [beq_iff_eq]

theorem find_returns {α : Type} (key : α → W) {l : List α} {id : W} (h : id ∈ l.map key) :
    Returns (l.find? fun a => key a == id) fun a => a ∈ l ∧ key a = id := by
  obtain ⟨a, ha, hid⟩ := List.mem_map.mp h
  have hsome : (l.find? fun a => key a == id).isSome := by
    rw [List.find?_isSome]
    exact ⟨a, ha, beq_iff_eq.mpr hid⟩
  obtain ⟨found, hfound⟩ := Option.isSome_iff_exists.mp hsome
  have hkey := List.find?_some hfound
  exact ⟨found, hfound, List.mem_of_find?_eq_some hfound, beq_iff_eq.mp hkey⟩

theorem scrollingTile_returns {id : W} (h : id ∈ s.scrolling.windowIds) :
    Returns (s.scrollingTile id) fun tile => tile ∈ s.scrollingTiles ∧ tile.id = id :=
  find_returns (fun tile : Layout.Tile W F => tile.id) (by rwa [scrollingTiles_ids])

theorem activateWindow_of_sound {f : FloatingSpace W F} (h : f.Sound parent) :
    (f.activeWindow.map fun tile => tile.id) = f.activeWindowId := by
  cases hactive : f.activeWindowId with
  | none =>
    rw [FloatingSpace.activeWindow, hactive]
    rfl
  | some id =>
    obtain ⟨tile, hfound, -, hid⟩ :=
      find_returns (fun tile : Floating.Tile W F => tile.id) (h.mem_of_active hactive)
    rw [FloatingSpace.activeWindow, hactive]
    show ((f.tiles.find? fun tile => tile.id == id).map fun tile => tile.id) = some id
    rw [hfound]
    exact congrArg some hid

theorem Intact.scrollingActive (h : s.Intact parent) (hne : s.scrolling.windowIds ≠ []) :
    ∃ id ∈ s.scrolling.windowIds, s.scrollingActive = some id := by
  have hcols : s.scrolling.columns ≠ [] := fun hnil =>
    hne (h.scrolling.windowIds_eq_nil.mpr hnil)
  obtain ⟨col, hcol, hcoherent⟩ := h.scrolling.activeColumn hcols
  obtain ⟨tile, htile⟩ : ∃ tile, col.tiles[col.activeTileIdx]? = some tile :=
    ⟨_, List.getElem?_eq_getElem hcoherent.active_lt⟩
  refine ⟨tile.id, ?_, ?_⟩
  · exact List.mem_flatten.mpr ⟨col.ids, List.mem_map_of_mem (List.mem_of_getElem? hcol),
      List.mem_map_of_mem (List.mem_of_getElem? htile)⟩
  · rw [Workspace.scrollingActive, hcol]
    show (do
      let tile ← col.tiles[col.activeTileIdx]?
      return tile.id) = _
    rw [htile]
    rfl

theorem Intact.scrollingActive_none (h : s.Intact parent) (hnil : s.scrolling.windowIds = []) :
    s.scrollingActive = none := by
  rw [Workspace.scrollingActive, h.scrolling.windowIds_eq_nil.mp hnil]
  rfl

theorem Intact.mem_of_scrollingActive (h : s.Intact parent) {id : W}
    (hactive : s.scrollingActive = some id) : id ∈ s.scrolling.windowIds := by
  by_cases hnil : s.scrolling.windowIds = []
  · rw [h.scrollingActive_none hnil] at hactive
    cases hactive
  · obtain ⟨id', hmem, hactive'⟩ := h.scrollingActive hnil
    rw [hactive] at hactive'
    obtain rfl := Option.some.inj hactive'
    exact hmem

theorem Sound.floatingActive (h : s.Sound parent) (hactive : s.floatingIsActive.get = true) :
    ∃ id ∈ s.floating.ids, s.floating.activeWindowId = some id := by
  have hne := h.active hactive
  rw [Ne, FloatingSpace.ids_eq_nil] at hne
  exact h.floating.exists_active hne

/-- The window that is active is in the layout that is. -/
theorem Sound.activeWindow_eq (h : s.Sound parent) : s.activeWindow =
    if s.floatingIsActive.get then s.floating.activeWindowId else s.scrollingActive := by
  rw [activeWindow, activateWindow_of_sound h.floating]

theorem Sound.activeWindow_isSome_iff (h : s.Sound parent) :
    s.activeWindow.isSome = true ↔ s.windows ≠ [] := by
  rw [h.activeWindow_eq, windows_eq, Ne, List.append_eq_nil_iff, not_and_or]
  cases hactive : s.floatingIsActive.get with
  | true =>
    obtain ⟨id, hid, hsome⟩ := h.floatingActive hactive
    rw [if_pos rfl, hsome]
    exact iff_of_true rfl (Or.inr (List.ne_nil_of_mem hid))
  | false =>
    rw [if_neg Bool.false_ne_true]
    by_cases hnil : s.scrolling.windowIds = []
    · rw [h.scrollingActive_none hnil]
      refine iff_of_false Bool.false_ne_true ?_
      rintro (hne | hne)
      · exact hne hnil
      · rw [h.only hnil hne] at hactive
        cases hactive
    · obtain ⟨id, -, hsome⟩ := h.scrollingActive hnil
      rw [hsome]
      exact iff_of_true rfl (Or.inl hnil)

theorem Sound.mem_of_activeWindow (h : s.Sound parent) {id : W} (hactive : s.activeWindow = some id) :
    id ∈ s.windows := by
  rw [h.activeWindow_eq] at hactive
  rw [windows_eq, List.mem_append]
  split at hactive
  · exact Or.inr (h.floating.mem_of_active hactive)
  · exact Or.inl (h.mem_of_scrollingActive hactive)

end Workspace

end Cidre
