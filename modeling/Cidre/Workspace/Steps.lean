/-
  Cidre.Workspace.Steps

  Each operation of a workspace returns, keeps its invariant, and loses and doubles no
  window: what leaves one layout arrives in the other (`Moves`).

  Where a window changes the layout, the focus is in between on a layout that may have no
  window.  What holds there is only that the layouts are sound and apart; the focus is
  dealt with once the window has arrived.
-/

import Cidre.Workspace.Sound

namespace Cidre

open Cidre.Panic
open Cidre.Floating (FloatingSpace PositionChange Acyclic)
open Cidre.Layout (ScrollingSpace Column ColumnWidth Geometry)
open Cidre.Layout.ScrollingSpace (Added Removed Rearranged)
open Cidre.Utils.Logical
open Cidre.Workspaces (ActivateWindow)

variable {W F : Type} [DecidableEq W]

namespace Workspace

variable {parent : W → Option W} {s : Workspace W F}

/-! ## One layout -/

theorem Intact.withScrolling (h : s.Intact parent) {t : ScrollingSpace W F}
    (hre : Rearranged s.scrolling t) : ({ s with scrolling := t }).Intact parent :=
  ⟨hre.wellFormed, h.floating, fun id hid hmem => h.disjoint id hid (hre.perm.mem_iff.mp hmem)⟩

theorem Sound.withScrolling (h : s.Sound parent) {t : ScrollingSpace W F}
    (hre : Rearranged s.scrolling t) : ({ s with scrolling := t }).Sound parent :=
  ⟨h.toIntact.withScrolling hre, h.active, fun hnil hne =>
    h.only (List.perm_nil.mp (hre.perm.symm.trans (List.Perm.of_eq hnil))) hne⟩

theorem Sound.withFloating (h : s.Sound parent) {newParent : W → Option W} {f : FloatingSpace W F}
    (hsound : f.Sound newParent) (hids : f.ids.Perm s.floating.ids) :
    ({ s with floating := f }).Sound newParent := by
  have hnil : f.ids = [] ↔ s.floating.ids = [] :=
    ⟨fun hf => List.perm_nil.mp (hids.symm.trans (List.Perm.of_eq hf)),
      fun hf => List.perm_nil.mp (hids.trans (List.Perm.of_eq hf))⟩
  refine ⟨⟨h.scrolling, hsound, fun id hid => h.disjoint id (hids.mem_iff.mp hid)⟩, ?_, ?_⟩
  · exact fun hactive hf => h.active hactive (hnil.mp hf)
  · exact fun hs hf => h.only hs fun hf' => hf (hnil.mpr hf')

/-- The invariant holds, and the windows are what they were without `removed` and with
    `added`. -/
structure Moves (parent : W → Option W) (removed added : List W) (s s' : Workspace W F) :
    Prop where
  sound : s'.Sound parent
  windows : (removed ++ s'.windows).Perm (added ++ s.windows)

theorem Moves.of_windows {s' : Workspace W F} (hsound : s'.Sound parent)
    (hwindows : s'.windows = s.windows) : Moves parent [] [] s s' :=
  ⟨hsound, List.Perm.of_eq hwindows⟩

theorem Sound.moves_refl (h : s.Sound parent) : Moves parent [] [] s s := .of_windows h rfl

theorem Sound.moves_scrolling (h : s.Sound parent) {t : ScrollingSpace W F}
    (hre : Rearranged s.scrolling t) : Moves parent [] [] s { s with scrolling := t } := by
  refine ⟨h.withScrolling hre, ?_⟩
  rw [windows_eq, windows_eq]
  exact hre.perm.append_right _

theorem Sound.moves_floating (h : s.Sound parent) {newParent : W → Option W}
    {f : FloatingSpace W F} (hsound : f.Sound newParent) (hids : f.ids.Perm s.floating.ids) :
    Moves newParent [] [] s { s with floating := f } := by
  refine ⟨h.withFloating hsound hids, ?_⟩
  rw [windows_eq, windows_eq]
  exact hids.append_left _

theorem Intact.withActive (h : s.Intact parent) (active : FloatingActive) :
    ({ s with floatingIsActive := active }).Intact parent :=
  ⟨h.scrolling, h.floating, h.disjoint⟩

theorem Intact.keep (h : s.Intact parent) (id : W) (kept : Kept) : (s.keep id kept).Intact parent :=
  ⟨h.scrolling, h.floating, h.disjoint⟩

theorem Moves.of_keep {removed added : List W} {s' : Workspace W F} {id : W} {kept : Kept}
    (h : Moves parent removed added (s.keep id kept) s') : Moves parent removed added s s' :=
  ⟨h.sound, h.windows⟩

theorem Sound.keep (h : s.Sound parent) (id : W) (kept : Kept) : (s.keep id kept).Sound parent :=
  ⟨h.toIntact.keep id kept, h.active, h.only⟩

/-! ## The focus -/

theorem Sound.switchFocusFloatingTiling (h : s.Sound parent) :
    s.switchFocusFloatingTiling.Sound parent := by
  rw [Workspace.switchFocusFloatingTiling]
  split
  · exact h
  · next hfloating =>
    split
    · exact h
    · next hscrolling =>
      refine ⟨⟨h.scrolling, h.floating, h.disjoint⟩, fun _ hnil => ?_, fun hnil _ => ?_⟩
      · exact hfloating (FloatingSpace.ids_eq_nil.mp hnil)
      · exact absurd (h.scrolling.windowIds_eq_nil.mp hnil) hscrolling

theorem Sound.focusFloating (h : s.Sound parent) : s.focusFloating.Sound parent := by
  rw [Workspace.focusFloating]
  split
  · exact h.switchFocusFloatingTiling
  · exact h

theorem Sound.focusTiling (h : s.Sound parent) : s.focusTiling.Sound parent := by
  rw [Workspace.focusTiling]
  split
  · exact h.switchFocusFloatingTiling
  · exact h

omit [DecidableEq W] in
theorem windows_switchFocusFloatingTiling (s : Workspace W F) :
    s.switchFocusFloatingTiling.windows = s.windows := by
  unfold Workspace.switchFocusFloatingTiling
  split
  · rfl
  · split <;> rfl

omit [DecidableEq W] in
theorem windows_focusTiling (s : Workspace W F) : s.focusTiling.windows = s.windows := by
  unfold Workspace.focusTiling
  split
  · exact windows_switchFocusFloatingTiling s
  · rfl

omit [DecidableEq W] in
theorem windows_focusFloating (s : Workspace W F) : s.focusFloating.windows = s.windows := by
  unfold Workspace.focusFloating
  split
  · exact windows_switchFocusFloatingTiling s
  · rfl

omit [DecidableEq W] in
theorem windows_updateFocus (s : Workspace W F) (removedFromFloating : Bool) :
    (s.updateFocusFloatingTilingAfterRemoving removedFromFloating).windows = s.windows := by
  unfold updateFocusFloatingTilingAfterRemoving
  split <;> split <;> rfl

/-- Once a window is out of the floating layout, the focus is where windows are. -/
theorem Intact.afterRemovingFloating (h : s.Intact parent)
    (honly : s.scrolling.windowIds = [] → s.floating.ids ≠ [] → s.floatingIsActive.get = true) :
    (s.updateFocusFloatingTilingAfterRemoving true).Sound parent := by
  rw [updateFocusFloatingTilingAfterRemoving, if_pos rfl]
  split
  · next hnil =>
    refine ⟨⟨h.scrolling, h.floating, h.disjoint⟩, fun hactive => ?_, fun _ hne => ?_⟩
    · cases hactive
    · exact absurd (FloatingSpace.ids_eq_nil.mpr hnil) hne
  · next hne =>
    exact ⟨h, fun _ hnil => hne (FloatingSpace.ids_eq_nil.mp hnil), honly⟩

theorem Intact.afterRemovingScrolling (h : s.Intact parent)
    (hactive : s.floatingIsActive.get = true → s.floating.ids ≠ []) :
    (s.updateFocusFloatingTilingAfterRemoving false).Sound parent := by
  rw [updateFocusFloatingTilingAfterRemoving, if_neg Bool.false_ne_true]
  split
  · next hempty =>
    exact ⟨⟨h.scrolling, h.floating, h.disjoint⟩,
      fun _ hnil => hempty.2 (FloatingSpace.ids_eq_nil.mp hnil), fun _ _ => rfl⟩
  · next hempty =>
    refine ⟨h, hactive, fun hnil hne => absurd ⟨?_, ?_⟩ hempty⟩
    · exact h.scrolling.windowIds_eq_nil.mp hnil
    · exact fun htiles => hne (FloatingSpace.ids_eq_nil.mpr htiles)

/-! ## Arrival and departure -/

theorem Intact.intoFloating (h : s.Intact parent) {id : W} (hnew : id ∉ s.scrolling.windowIds)
    (activate : Bool) {x : Option (FloatingSpace W F)}
    (hx : Returns x fun f => f.Sound parent ∧ f.ids.Perm (id :: s.floating.ids)) :
    Returns (s.intoFloating activate x) (Moves parent [] [id] s) := by
  refine hx.bind fun f hf => ?_
  obtain ⟨hsound, hids⟩ := hf
  have hne : f.ids ≠ [] := List.ne_nil_of_mem (hids.mem_iff.mpr List.mem_cons_self)
  refine returns_pure ⟨⟨⟨h.scrolling, hsound, fun id' hid' => ?_⟩, fun _ => hne, fun hnil _ => ?_⟩,
    ?_⟩
  · rcases List.mem_cons.mp (hids.mem_iff.mp hid') with rfl | hmem
    · exact hnew
    · exact h.disjoint id' hmem
  · have hcols := h.scrolling.windowIds_eq_nil.mp hnil
    show FloatingActive.get (if activate || s.scrolling.columns.isEmpty then _ else _) = true
    rw [hcols, List.isEmpty_nil, Bool.or_true, if_pos rfl]
    rfl
  · rw [windows_eq, windows_eq]
    exact (hids.append_left _).trans List.perm_middle

/-- Something arrives in the scrolling layout.  If it is not activated, the floating
    layout stays active only as far as it has windows. -/
theorem Intact.intoScrolling (h : s.Intact parent) {ids : List W} (hne : ids ≠ [])
    (hnew : ∀ id ∈ ids, id ∉ s.floating.ids) (activate : Bool)
    (hactive : activate = false → s.floatingIsActive.get = true → s.floating.ids ≠ [])
    {x : Option (ScrollingSpace W F)} (hx : Returns x (Added ids s.scrolling)) :
    Returns (s.intoScrolling activate x) fun s' => Moves parent [] ids s s' ∧
      s'.scrolling.windowIds.Perm (ids ++ s.scrolling.windowIds) := by
  refine hx.bind fun t ht => ?_
  refine returns_pure ⟨⟨⟨⟨ht.wellFormed, h.floating, fun id hid hmem => ?_⟩, ?_, fun hnil _ => ?_⟩,
    ?_⟩, ht.perm⟩
  · rcases List.mem_append.mp (ht.perm.mem_iff.mp hmem) with hmem | hmem
    · exact hnew id hmem hid
    · exact h.disjoint id hid hmem
  · cases activate with
    | true => exact fun hget => by cases hget
    | false => exact hactive rfl
  · have happend := List.perm_nil.mp (ht.perm.symm.trans (List.Perm.of_eq hnil))
    exact absurd (List.append_eq_nil_iff.mp happend).1 hne
  · rw [windows_eq, windows_eq]
    exact (ht.perm.append_right s.floating.ids).trans (List.Perm.of_eq (List.append_assoc ..))

theorem Intact.withoutFloating (h : s.Intact parent) {id : W} {f : FloatingSpace W F}
    (hsound : f.Sound parent) (hids : s.floating.ids.Perm (id :: f.ids)) :
    ({ s with floating := f }).Intact parent ∧ id ∉ f.ids ∧ id ∉ s.scrolling.windowIds := by
  have hnodup := (hids.nodup_iff.mp h.floating.nodup_ids)
  refine ⟨⟨h.scrolling, hsound, fun id' hid' => ?_⟩, (List.nodup_cons.mp hnodup).1, ?_⟩
  · exact h.disjoint id' (hids.mem_iff.mpr (List.mem_cons_of_mem id hid'))
  · exact h.disjoint id (hids.mem_iff.mpr List.mem_cons_self)

theorem Intact.withoutScrolling (h : s.Intact parent) {ids : List W} {t : ScrollingSpace W F}
    (hrem : Removed ids s.scrolling t) : ({ s with scrolling := t }).Intact parent := by
  refine ⟨hrem.wellFormed, h.floating, fun id hid hmem => ?_⟩
  exact h.disjoint id hid (hrem.perm.mem_iff.mpr (List.mem_append_right ids hmem))

theorem Intact.not_mem_of_removed (h : s.Intact parent) {id : W} {t : ScrollingSpace W F}
    (hrem : Removed [id] s.scrolling t) : id ∉ t.windowIds ∧ id ∉ s.floating.ids := by
  have hnodup := hrem.perm.nodup_iff.mp h.scrolling.nodup
  refine ⟨(List.nodup_cons.mp hnodup).1, fun hmem => ?_⟩
  exact h.disjoint id hmem (hrem.perm.mem_iff.mpr List.mem_cons_self)

/-! ## Removing -/

omit [DecidableEq W] in
theorem perm_of_removed (scrolling : List W) {ids ids' : List W} {id : W}
    (h : ids.Perm (id :: ids')) :
    (id :: (scrolling ++ ids')).Perm (scrolling ++ ids) :=
  List.perm_middle.symm.trans (h.symm.append_left scrolling)

theorem moves_withoutFloating {id : W} {f : FloatingSpace W F}
    (hids : s.floating.ids.Perm (id :: f.ids))
    (hsound : ({ s with floating := f }.updateFocusFloatingTilingAfterRemoving true).Sound parent) :
    Moves parent [id] [] s ({ s with floating := f }.updateFocusFloatingTilingAfterRemoving true) := by
  refine ⟨hsound, ?_⟩
  rw [windows_updateFocus, windows_eq, windows_eq]
  exact perm_of_removed s.scrolling.windowIds hids

theorem Intact.moves_withoutScrolling (h : s.Intact parent) {ids : List W}
    {t : ScrollingSpace W F} (hrem : Removed ids s.scrolling t)
    (hactive : s.floatingIsActive.get = true → s.floating.ids ≠ []) :
    Moves parent ids [] s
      ({ s with scrolling := t }.updateFocusFloatingTilingAfterRemoving false) := by
  refine ⟨(h.withoutScrolling hrem).afterRemovingScrolling hactive, ?_⟩
  rw [windows_updateFocus, windows_eq, windows_eq]
  exact (List.Perm.of_eq (List.append_assoc ..).symm).trans
    (hrem.perm.symm.append_right s.floating.ids)

omit [DecidableEq W] in
theorem mem_cases {id : W} (hid : id ∈ s.windows) (hfloating : id ∉ s.floating.ids) :
    id ∈ s.scrolling.windowIds := by
  rw [windows_eq, List.mem_append] at hid
  exact hid.resolve_right hfloating

theorem mem_of_not_inFloating {id : Option W} {w : W} (hid : id = some w)
    (hin : ¬ s.inFloating id = true) (hmem : w ∈ s.windows) : w ∈ s.scrolling.windowIds := by
  subst hid
  exact mem_cases hmem fun hfloating => hin (FloatingSpace.hasWindow_iff.mpr hfloating)

theorem mem_of_inFloating {id : Option W} {w : W} (hid : id = some w)
    (hin : s.inFloating id = true) : w ∈ s.floating.ids := by
  subst hid
  exact FloatingSpace.hasWindow_iff.mp hin

theorem find_column_returns {window : W} (hmem : window ∈ s.scrolling.windowIds) :
    Returns (s.scrolling.columns.find? fun col => col.contains window) fun col =>
      col ∈ s.scrolling.columns ∧ col.contains window = true := by
  obtain ⟨ids, hids, hin⟩ := List.mem_flatten.mp hmem
  obtain ⟨col, hcol, rfl⟩ := List.mem_map.mp hids
  have hsome : (s.scrolling.columns.find? fun col => col.contains window).isSome := by
    rw [List.find?_isSome]
    exact ⟨col, hcol, Column.contains_iff.mpr hin⟩
  obtain ⟨found, hfound⟩ := Option.isSome_iff_exists.mp hsome
  have hcontains := List.find?_some hfound
  exact ⟨found, hfound, List.mem_of_find?_eq_some hfound, hcontains⟩

omit [DecidableEq W] in
theorem id_placed (env : Env W F) (s : Workspace W F) (tile : Floating.Tile W F) :
    (s.placed env tile).id = tile.id := by
  rw [placed]
  split <;> rfl

variable [One F] [BEq F] {env : Env W F}

omit [BEq F] in
theorem removeTile_returns (h : s.Sound env.parent) {id : W} (hid : id ∈ s.windows) :
    Returns (s.removeTile env id) fun p => p.1.tile.id = id ∧ Moves env.parent [id] [] s p.2 := by
  rw [removeTile]
  refine returns_ite (fun hin => ?_) (fun hout => ?_)
  · have hmem := FloatingSpace.hasWindow_iff.mp hin
    refine ((h.floating.removeTile hmem).and (h.floating.removeTile_ids hmem)).bind ?_
    rintro ⟨tile, f⟩ ⟨⟨htile, hsound⟩, hids⟩
    subst htile
    refine returns_pure ⟨rfl, moves_withoutFloating hids
      ((h.withoutFloating hsound hids).1.afterRemovingFloating ?_)⟩
    exact fun hnil _ => h.only hnil (List.ne_nil_of_mem hmem)
  · rw [FloatingSpace.hasWindow_iff] at hout
    refine (ScrollingSpace.removeTile_returns env.geometry h.scrolling (mem_cases hid hout)).bind ?_
    rintro ⟨removed, t⟩ ⟨htile, hrem⟩
    exact returns_pure ⟨htile, h.moves_withoutScrolling hrem h.active⟩

omit [BEq F] in
/-- The active tile of the active column is taken out. -/
theorem scrolling_removeActiveTile_returns (h : s.Sound env.parent) (g : Geometry W F) :
    Returns (s.scrolling.removeActiveTile g) fun p =>
      (p.1.map fun removed => removed.tile.id) = s.scrollingActive ∧
        Removed (p.1.map fun removed => removed.tile.id).toList s.scrolling p.2 := by
  refine Returns.and ?_ (ScrollingSpace.removeActiveTile_returns g h.scrolling)
  rw [ScrollingSpace.removeActiveTile]
  refine returns_ite (fun hnil => ?_) (fun hne => ?_)
  · refine returns_some ?_
    rw [h.scrollingActive_none (h.scrolling.windowIds_eq_nil.mpr hnil)]
    rfl
  · obtain ⟨col, hcol, hcoherent⟩ := h.scrolling.activeColumn hne
    refine (returns_of_eq hcol).bind ?_
    rintro _ rfl
    refine (ScrollingSpace.removeTileByIdx_returns g h.scrolling col hcol hcoherent.active_lt).bind ?_
    rintro ⟨removed, t⟩ ⟨-, hid, -⟩
    refine returns_pure ?_
    rw [Column.ids, List.getElem?_map] at hid
    obtain ⟨tile, htile, hid⟩ := Option.map_eq_some_iff.mp hid
    rw [scrollingActive, hcol]
    show some removed.tile.id = (do
      let tile ← col.tiles[col.activeTileIdx]?
      return tile.id)
    rw [htile]
    exact congrArg some hid.symm

omit [BEq F] in
theorem removeActiveTile_returns (h : s.Sound env.parent) :
    Returns (s.removeActiveTile env) fun p =>
      (p.1.map fun removed => removed.tile.id) = s.activeWindow ∧
        Moves env.parent s.activeWindow.toList [] s p.2 := by
  rw [removeActiveTile, h.activeWindow_eq]
  refine returns_ite (fun hactive => ?_) (fun hinactive => ?_)
  · obtain ⟨id, hmem, hid⟩ := h.floatingActive hactive
    rw [if_pos hactive, hid, FloatingSpace.removeActiveTile, hid]
    have hremove := (h.floating.removeTile hmem).and (h.floating.removeTile_ids hmem)
    obtain ⟨⟨tile, f⟩, hrun, ⟨htile, hsound⟩, hids⟩ := hremove
    simp only [hrun, Option.bind_eq_bind, Option.bind_some, Option.pure_def]
    refine returns_some ⟨congrArg some htile, moves_withoutFloating hids
      ((h.withoutFloating hsound hids).1.afterRemovingFloating ?_)⟩
    exact fun hnil _ => h.only hnil (List.ne_nil_of_mem hmem)
  · rw [if_neg hinactive]
    refine (scrolling_removeActiveTile_returns h env.geometry).bind ?_
    rintro ⟨removed, t⟩ ⟨hid, hrem⟩
    rw [← hid]
    cases removed with
    | none => exact returns_pure ⟨rfl, h.moves_refl⟩
    | some removed => exact returns_pure ⟨rfl, h.moves_withoutScrolling hrem h.active⟩

omit [One F] [BEq F] in
theorem removeActiveColumn_returns (h : s.Sound env.parent) :
    Returns (s.removeActiveColumn env) fun p =>
      Moves env.parent (p.1.elim [] Column.ids) [] s p.2 ∧
        ∀ col ∈ p.1, col ∈ s.scrolling.columns := by
  rw [removeActiveColumn]
  refine returns_early ⟨h.moves_refl, by simp⟩ fun _ => ?_
  refine (ScrollingSpace.removeActiveColumn_returns env.geometry h.scrolling).bind ?_
  rintro ⟨column, t⟩ ⟨hrem, hcol⟩
  cases column with
  | none => exact returns_pure ⟨h.moves_refl, by simp⟩
  | some column => exact returns_pure ⟨h.moves_withoutScrolling hrem h.active, hcol⟩

/-! ## Floating and tiling -/

/-- The window, or the active one, is in the other layout. -/
theorem toggleWindowFloating_returns (h : s.Sound env.parent) (hacyclic : Acyclic env.parent)
    {id : Option W} (hid : ∀ w, id = some w → w ∈ s.windows) :
    Returns (s.toggleWindowFloating env id) fun s' => Moves env.parent [] [] s s' ∧
      ∀ w, id = some w → w ∈ s.floating.ids → w ∈ s'.scrolling.windowIds := by
  rw [toggleWindowFloating]
  generalize hactivates : (id.all fun id => decide (some id = s.activeWindow)) = targetIsActive
  cases htarget : id.orElse fun _ => s.activeWindow with
  | none =>
    refine returns_some ⟨h.moves_refl, ?_⟩
    rintro w rfl
    cases htarget
  | some target =>
    have hsame : ∀ w, id = some w → w = target := by
      rintro w rfl
      exact Option.some.inj htarget
    have hmem : target ∈ s.windows := by
      cases hid' : id with
      | none =>
        rw [hid'] at htarget
        exact h.mem_of_activeWindow htarget
      | some w =>
        rw [← hsame w hid']
        exact hid w hid'
    -- A window that is not activated is not the active one.
    have hother : targetIsActive = false → ∀ a, s.activeWindow = some a → a ≠ target := by
      rintro hfalse a ha rfl
      cases hid' : id with
      | none =>
        rw [hid', hfalse] at hactivates
        cases hactivates
      | some w =>
        rw [hid', hfalse, hsame w hid', ha] at hactivates
        simp at hactivates
    refine returns_ite (fun _ => ?_) (fun hnot => absurd (hasWindow_iff.mpr hmem) hnot)
    refine returns_ite (fun hin => ?_) (fun hout => ?_)
    · have hin := FloatingSpace.hasWindow_iff.mp hin
      refine ((h.floating.removeTile hin).and (h.floating.removeTile_ids hin)).bind ?_
      rintro ⟨tile, f⟩ ⟨⟨htile, hsound⟩, hids⟩
      obtain ⟨hintact, hnotf, hnots⟩ := h.withoutFloating hsound hids
      have hadd := ScrollingSpace.addTile_returns env.geometry h.scrolling
        (fun i (hi : i ∈ none) => nomatch hi)
        (show tile.toTile.id ∉ s.scrolling.windowIds from htile ▸ hnots) targetIsActive
        (s.outOfFloating env tile).width (s.outOfFloating env tile).isFullWidth
      have hinto := (hintact.keep target (s.outOfFloating env tile).tile.kept).intoScrolling
        (List.cons_ne_nil _ _) ?_ targetIsActive ?_ (hadd.mono fun _ hadd => hadd.1)
      · refine hinto.mono fun s' hs' => ⟨⟨hs'.1.sound, hs'.1.windows.trans ?_⟩, fun w hw _ => ?_⟩
        · rw [← show tile.id = target from htile] at hids
          rw [windows_eq, windows_eq]
          exact perm_of_removed s.scrolling.windowIds hids
        · rw [hsame w hw, ← show tile.id = target from htile]
          exact hs'.2.mem_iff.mpr List.mem_cons_self
      · intro id' hid'
        rw [List.mem_singleton.mp hid']
        exact htile ▸ hnotf
      · intro hfalse hget
        have hget' : s.floatingIsActive.get = true := hget
        obtain ⟨a, ha, hactive⟩ := h.floatingActive hget'
        have hne := hother hfalse a (by rw [h.activeWindow_eq, if_pos hget', hactive])
        exact List.ne_nil_of_mem (List.mem_of_ne_of_mem hne (hids.mem_iff.mp ha))
    · rw [FloatingSpace.hasWindow_iff] at hout
      have hin := mem_cases hmem hout
      refine (ScrollingSpace.removeTile_returns env.geometry h.scrolling hin).bind ?_
      rintro ⟨removed, t⟩ ⟨htile, hrem⟩
      have hplaced : (({ s with scrolling := t } : Workspace W F).placed env
          (env.tile (s.kept target) removed.tile).toFloating).id = target := by
        rw [id_placed]
        exact htile
      obtain ⟨hnott, -⟩ := h.not_mem_of_removed hrem
      have hnew : (({ s with scrolling := t } : Workspace W F).placed env
          (env.tile (s.kept target) removed.tile).toFloating).id ∉ s.floating.ids := by
        rw [hplaced]
        exact hout
      refine ((h.floating.addTileAt hacyclic (Nat.zero_le _) _ hnew targetIsActive).and
        (h.floating.addTileAt_ids (Nat.zero_le _) _ targetIsActive)).bind ?_
      rintro f ⟨hsound, hids⟩
      rw [hplaced] at hids
      have hne : f.ids ≠ [] := List.ne_nil_of_mem (hids.mem_iff.mpr List.mem_cons_self)
      refine returns_pure ⟨⟨⟨⟨hrem.wellFormed, hsound, fun id' hid' => ?_⟩, fun _ => hne,
        fun hnil _ => ?_⟩, ?_⟩, fun w hw hmem' => absurd (hsame w hw ▸ hmem') hout⟩
      · rcases List.mem_cons.mp (hids.mem_iff.mp hid') with rfl | hid'
        · exact hnott
        · exact (h.withoutScrolling hrem).disjoint id' hid'
      · show FloatingActive.get (if targetIsActive then .yes else s.floatingIsActive) = true
        cases htrue : targetIsActive with
        | true => rfl
        | false =>
          by_contra hget
          have hget' : ¬ s.floatingIsActive.get = true := hget
          obtain ⟨a, ha, hactive⟩ := h.scrollingActive (List.ne_nil_of_mem hin)
          have hne := hother htrue a (by rw [h.activeWindow_eq, if_neg hget', hactive])
          have hmem' := List.mem_of_ne_of_mem hne (hrem.perm.mem_iff.mp ha)
          rw [show t.windowIds = [] from hnil] at hmem'
          cases hmem'
      · rw [windows_eq, windows_eq]
        exact (hids.append_left t.windowIds).trans
          (List.perm_middle.trans (hrem.perm.symm.append_right s.floating.ids))

theorem setWindowFloating_returns (h : s.Sound env.parent) (hacyclic : Acyclic env.parent)
    {id : Option W} (hid : ∀ w, id = some w → w ∈ s.windows) (floating : Bool) :
    Returns (s.setWindowFloating env id floating) (Moves env.parent [] [] s) := by
  rw [setWindowFloating]
  refine returns_early h.moves_refl fun _ => ?_
  exact (toggleWindowFloating_returns h hacyclic hid).mono fun _ hpost => hpost.1

/-! ## Fullscreen and maximized -/

omit [One F] [BEq F] in
theorem applySizing_returns (h : s.Sound parent) {window : W}
    (hmem : window ∈ s.scrolling.windowIds) (restoreToFloating : Bool)
    (set : ScrollingSpace W F → Option (ScrollingSpace W F × Bool))
    (hset : Returns (set s.scrolling) fun p => Rearranged s.scrolling p.1) :
    Returns (s.applySizing window restoreToFloating set) (Moves parent [] [] s) := by
  rw [applySizing]
  refine (scrollingTile_returns hmem).bind fun tile _ => ?_
  refine hset.bind ?_
  rintro ⟨t, answer⟩ hre
  have hmoves := h.moves_scrolling hre
  have hmem' : window ∈ t.windowIds := hre.perm.mem_iff.mpr hmem
  refine (scrollingTile_returns (s := { s with scrolling := t }) hmem').bind fun tile' _ => ?_
  exact returns_early ⟨hmoves.sound.keep _ _, hmoves.windows⟩ (fun _ => returns_pure hmoves)

/-- A floating window that is to be fullscreen or maximized is tiled first. -/
theorem tiledFirst_returns (h : s.Sound env.parent) (hacyclic : Acyclic env.parent) {window : W}
    (hin : window ∈ s.floating.ids) (restoreToFloating : Bool)
    {set : ScrollingSpace W F → Option (ScrollingSpace W F × Bool)}
    (hset : ∀ t : ScrollingSpace W F, t.WellFormed → window ∈ t.windowIds →
      Returns (set t) fun p => Rearranged t p.1) :
    Returns (do
      let s ← s.toggleWindowFloating env (some window)
      s.applySizing window restoreToFloating set) (Moves env.parent [] [] s) := by
  have hmem : ∀ w, some window = some w → w ∈ s.windows := by
    rintro w heq
    obtain rfl := Option.some.inj heq
    rw [windows_eq]
    exact List.mem_append_right _ hin
  refine (toggleWindowFloating_returns h hacyclic hmem).bind ?_
  rintro s₁ ⟨⟨hsound, hwindows⟩, htiled⟩
  have hmem₁ := htiled window rfl hin
  exact (applySizing_returns hsound hmem₁ _ _ (hset _ hsound.scrolling hmem₁)).mono
    fun _ hmoves => ⟨hmoves.sound, hmoves.windows.trans hwindows⟩

theorem setFullscreen_returns (h : s.Sound env.parent) (hacyclic : Acyclic env.parent) {window : W}
    (hmem : window ∈ s.windows) (isFullscreen : Bool) :
    Returns (s.setFullscreen env window isFullscreen) (Moves env.parent [] [] s) := by
  have htoggle := toggleWindowFloating_returns h hacyclic
    (fun w (hw : some window = some w) => Option.some.inj hw ▸ hmem)
  rw [setFullscreen]
  refine returns_ite (fun hin => ?_) (fun hout => ?_)
  · refine returns_ite (fun _ => ?_) (fun _ => returns_some h.moves_refl)
    exact tiledFirst_returns h hacyclic (FloatingSpace.hasWindow_iff.mp hin) true
      fun t ht hmem₁ => ScrollingSpace.setFullscreen_returns env.after ht hmem₁ isFullscreen
  · have hmem₁ := mem_of_not_inFloating rfl hout hmem
    have hset := ScrollingSpace.setFullscreen_returns env.geometry h.scrolling hmem₁ isFullscreen
    have happly := applySizing_returns h hmem₁ false
      (fun t => t.setFullscreen env.geometry window isFullscreen) hset
    refine returns_ite (fun _ => ?_) (fun _ => happly)
    refine (find_column_returns hmem₁).bind fun col _ => ?_
    exact returns_ite (fun _ => htoggle.mono fun _ hpost => hpost.1) (fun _ => happly)

theorem setMaximized_returns (h : s.Sound env.parent) (hacyclic : Acyclic env.parent) {window : W}
    (hmem : window ∈ s.windows) (maximize : Bool) :
    Returns (s.setMaximized env window maximize) (Moves env.parent [] [] s) := by
  have htoggle := toggleWindowFloating_returns h hacyclic
    (fun w (hw : some window = some w) => Option.some.inj hw ▸ hmem)
  rw [setMaximized]
  refine returns_ite (fun hin => ?_) (fun hout => ?_)
  · refine returns_ite (fun _ => ?_) (fun _ => returns_some h.moves_refl)
    exact tiledFirst_returns h hacyclic (FloatingSpace.hasWindow_iff.mp hin) true
      fun t ht hmem₁ => ScrollingSpace.setMaximized_returns env.after ht hmem₁ maximize
  · have hmem₁ := mem_of_not_inFloating rfl hout hmem
    have hset := ScrollingSpace.setMaximized_returns env.geometry h.scrolling hmem₁ maximize
    have happly := applySizing_returns h hmem₁ false
      (fun t => t.setMaximized env.geometry window maximize) hset
    refine returns_ite (fun _ => ?_) (fun _ => happly)
    refine (scrollingTile_returns hmem₁).bind fun tile _ => ?_
    exact returns_ite (fun _ => htoggle.mono fun _ hpost => hpost.1) (fun _ => happly)

theorem toggleFullscreen_returns (h : s.Sound env.parent) (hacyclic : Acyclic env.parent)
    {window : W} (hmem : window ∈ s.windows) :
    Returns (s.toggleFullscreen env window) (Moves env.parent [] [] s) := by
  rw [toggleFullscreen]
  refine (find_returns (fun tile : Layout.Tile W F => tile.id) ?_).bind fun tile _ =>
    setFullscreen_returns h hacyclic hmem _
  rw [List.map_append, List.map_map]
  exact hmem

theorem toggleMaximized_returns (h : s.Sound env.parent) (hacyclic : Acyclic env.parent)
    {window : W} (hmem : window ∈ s.windows) :
    Returns (s.toggleMaximized env window) (Moves env.parent [] [] s) :=
  setMaximized_returns h hacyclic hmem _

/-! ## Activation -/

omit [One F] [BEq F] in
theorem activateScrolling_returns (h : s.Sound env.parent) (window : W) {active : FloatingActive}
    (hactive : active.get = false) :
    Returns (s.activateScrolling env window active) fun p => Moves env.parent [] [] s p.1 := by
  rw [activateScrolling]
  refine returns_ite (fun hany => ?_) (fun _ => returns_some h.moves_refl)
  obtain ⟨col, hcol, hcontains⟩ := List.any_eq_true.mp hany
  have hmem : window ∈ s.scrolling.windowIds :=
    List.mem_flatten.mpr ⟨col.ids, List.mem_map_of_mem hcol, Column.contains_iff.mp hcontains⟩
  refine (ScrollingSpace.activateWindow_returns env.geometry h.scrolling window).bind fun t hre => ?_
  refine returns_pure ⟨⟨(h.toIntact.withScrolling hre).withActive active, fun hget => ?_,
    fun hnil _ => ?_⟩, (h.moves_scrolling hre).windows⟩
  · rw [hactive] at hget
    cases hget
  · have hmem' := hre.perm.mem_iff.mpr hmem
    rw [show t.windowIds = [] from hnil] at hmem'
    cases hmem'

omit [One F] [BEq F] in
theorem Sound.activateFloating (h : s.Sound parent) {f : FloatingSpace W F} (hsound : f.Sound parent)
    (hids : f.ids.Perm s.floating.ids) {window : W} (hmem : window ∈ s.floating.ids) :
    Moves parent [] [] s { s with floating := f, floatingIsActive := .yes } :=
  ⟨⟨(h.withFloating hsound hids).toIntact.withActive .yes, fun _ =>
    List.ne_nil_of_mem (hids.mem_iff.mpr hmem), fun _ _ => rfl⟩, (h.moves_floating hsound hids).windows⟩

omit [One F] [BEq F] in
theorem activateWindow_returns (h : s.Sound env.parent) (hacyclic : Acyclic env.parent)
    (window : W) : Returns (s.activateWindow env window) fun p => Moves env.parent [] [] s p.1 := by
  rw [activateWindow]
  refine ((h.floating.activateWindow hacyclic window).and
    (h.floating.activateWindow_ids window)).bind ?_
  rintro ⟨f, found⟩ ⟨hsound, hids, hfound⟩
  refine returns_ite (fun hyes => ?_) (fun _ => activateScrolling_returns h window rfl)
  exact returns_pure (h.activateFloating hsound hids (hfound hyes))

omit [One F] [BEq F] in
theorem activateWindowWithoutRaising_returns (h : s.Sound env.parent) (window : W) :
    Returns (s.activateWindowWithoutRaising env window) fun p =>
      Moves env.parent [] [] s p.1 := by
  have hsound := h.floating.activateWindowWithoutRaising window
  have hids := (FloatingSpace.activateWindowWithoutRaising_keeps (s := s.floating) window
    fun _ => False).ids_eq
  rw [activateWindowWithoutRaising]
  refine returns_ite (fun hyes => ?_) (fun _ => ?_)
  · have hin : window ∈ s.floating.ids := by
      by_contra hout
      have hno : (s.floating.activateWindowWithoutRaising window).2 = true := hyes
      rw [FloatingSpace.activateWindowWithoutRaising,
        if_neg fun hhas => hout (FloatingSpace.hasWindow_iff.mp hhas)] at hno
      cases hno
    exact returns_some (h.activateFloating hsound (List.Perm.of_eq hids) hin)
  · refine activateScrolling_returns h window ?_
    cases s.floatingIsActive <;> rfl

omit [One F] [BEq F] in
theorem moveFloatingWindow_returns (h : s.Sound env.parent) {id : Option W}
    (hid : ∀ w, id = some w → w ∈ s.windows) (x y : PositionChange) :
    Returns (s.moveFloatingWindow env id x y) (Moves env.parent [] [] s) := by
  rw [moveFloatingWindow]
  refine returns_ite (fun hin => ?_) (fun hout => ?_)
  · have hmem := h.floating.mem_of_target fun w hw => mem_of_inFloating hw hin
    refine ((h.floating.moveTarget _ hmem).and
      (h.floating.moveTarget_keeps _ hmem fun _ => False)).bind ?_
    rintro f ⟨hsound, hkeeps⟩
    exact returns_pure (h.moves_floating hsound (List.Perm.of_eq hkeeps.ids_eq))
  · cases htarget : id.orElse fun _ => s.scrollingActive with
    | none => exact returns_some h.moves_refl
    | some target =>
      have hmem : target ∈ s.scrolling.windowIds := by
        cases hid' : id with
        | none =>
          rw [hid'] at htarget
          exact h.mem_of_scrollingActive htarget
        | some w =>
          obtain rfl : w = target := by
            rw [hid'] at htarget
            exact Option.some.inj htarget
          exact mem_of_not_inFloating hid' hout (hid w hid')
      refine (scrollingTile_returns hmem).bind fun tile _ => ?_
      cases s.movedPos env tile x y with
      | none => exact returns_pure h.moves_refl
      | some pos => exact returns_pure (.of_windows (h.keep _ _) rfl)

/-! ## Adding -/

/-- The place is in the workspace. -/
def WorkspaceAddWindowTarget.Valid (s : Workspace W F) : WorkspaceAddWindowTarget W → Prop
  | auto => True
  | newColumnAt colIdx => colIdx ≤ s.scrolling.columns.length
  | nextTo id => id ∈ s.windows

omit [DecidableEq W] [One F] [BEq F] in
theorem not_mem_windows {id : W} (hnew : id ∉ s.windows) :
    id ∉ s.scrolling.windowIds ∧ id ∉ s.floating.ids := by
  rw [windows_eq, List.mem_append, not_or] at hnew
  exact hnew

omit [One F] [BEq F] in
/-- A new tile comes to the floating layout, above all others or above one of them. -/
theorem Sound.intoFloating (h : s.Sound parent) {id : W} (hnew : id ∉ s.windows) (activate : Bool)
    {x : Option (FloatingSpace W F)}
    (hx : Returns x fun f => f.Sound parent ∧ f.ids.Perm (id :: s.floating.ids)) :
    Returns (s.intoFloating activate x) (Moves parent [] [id] s) :=
  h.toIntact.intoFloating (not_mem_windows hnew).1 activate hx

omit [One F] [BEq F] in
theorem Sound.intoScrolling (h : s.Sound parent) {ids : List W} (hne : ids ≠ [])
    (hnew : ∀ id ∈ ids, id ∉ s.windows) (activate : Bool) {x : Option (ScrollingSpace W F)}
    (hx : Returns x (Added ids s.scrolling)) :
    Returns (s.intoScrolling activate x) (Moves parent [] ids s) := by
  have hinto := h.toIntact.intoScrolling hne (fun id hid => (not_mem_windows (hnew id hid)).2)
    activate (fun _ => h.active) hx
  exact hinto.mono fun _ hpost => hpost.1

omit [One F] [BEq F] in
theorem Sound.addTileAbove_ids (h : s.Sound parent) {above : W} (habove : above ∈ s.floating.ids)
    (tile : Floating.Tile W F) (activate : Bool) :
    Returns (s.floating.addTileAbove (Floating.isChildOf parent) above tile activate) fun f =>
      f.ids.Perm (tile.id :: s.floating.ids) := by
  obtain ⟨idx, hidx⟩ := FloatingSpace.idxOf_of_mem habove
  have hlt := (FloatingSpace.mem_of_idxOf hidx).2
  refine (returns_of_eq hidx).bind ?_
  rintro _ rfl
  refine (Vec.getElem?_returns (by rw [h.floating.length_eq]; exact hlt)).bind fun d _ => ?_
  exact h.floating.addTileAt_ids (Nat.le_of_lt hlt) { tile with floatingPos := _ } activate

omit [One F] [BEq F] in
theorem activatesNextTo_returns (h : s.Sound parent) {nextTo : W} (hmem : nextTo ∈ s.windows)
    (activate : ActivateWindow) : Returns (s.activatesNextTo activate nextTo) fun _ => True := by
  cases activate with
  | yes => exact returns_some trivial
  | no => exact returns_some trivial
  | smart =>
    have hsome := h.activeWindow_isSome_iff.mpr (List.ne_nil_of_mem hmem)
    obtain ⟨active, hactive⟩ := Option.isSome_iff_exists.mp hsome
    exact (returns_of_eq hactive).bind fun _ _ => returns_pure trivial

omit [One F] [BEq F] in
theorem besideScrolling_returns {nextTo : W} (hmem : nextTo ∈ s.scrolling.windowIds)
    (env : Env W F) (tile : Floating.Tile W F) :
    Returns (s.besideScrolling env nextTo tile) fun tile' => tile'.id = tile.id :=
  (scrollingTile_returns hmem).bind fun _ _ => returns_pure rfl

theorem addTile_returns (h : s.Sound env.parent) (hacyclic : Acyclic env.parent)
    {tile : FullTile W F} (hnew : tile.id ∉ s.windows) {target : WorkspaceAddWindowTarget W}
    (htarget : target.Valid s) (activate : ActivateWindow) (width : ColumnWidth F)
    (isFullWidth isFloating : Bool) :
    Returns (s.addTile env tile target activate width isFullWidth isFloating)
      (Moves env.parent [] [tile.id] s) := by
  have hkept := h.keep tile.id { tile with restoreToFloating := isFloating }.kept
  have hsingle : ∀ id ∈ [tile.id], id ∉ s.windows := by
    intro id hid
    rw [List.mem_singleton.mp hid]
    exact hnew
  have hfloating : ∀ (tile' : Floating.Tile W F) (activate : Bool), tile'.id = tile.id →
      Returns (s.floating.addTile (Floating.isChildOf env.parent) tile' activate) fun f =>
        f.Sound env.parent ∧ f.ids.Perm (tile.id :: s.floating.ids) := by
    intro tile' activate hid
    have hnew' : tile'.id ∉ s.floating.ids := hid ▸ (not_mem_windows hnew).2
    rw [← hid]
    exact (h.floating.addTileAt hacyclic (Nat.zero_le _) tile' hnew' activate).and
      (h.floating.addTileAt_ids (Nat.zero_le _) tile' activate)
  have hscrolling : ∀ (colIdx : Option Nat) (activate : Bool),
      (∀ i ∈ colIdx, i ≤ s.scrolling.columns.length) →
      Returns (s.scrolling.addTile env.geometry colIdx tile.toFloating.toTile activate width
        isFullWidth) (Added [tile.id] s.scrolling) := fun colIdx activate hidx =>
    (ScrollingSpace.addTile_returns env.geometry h.scrolling hidx (not_mem_windows hnew).1 activate
      width isFullWidth).mono fun _ hadd => hadd.1
  have hnone : ∀ i ∈ (none : Option Nat), i ≤ s.scrolling.columns.length := nofun
  suffices hadded : Returns (s.addTile env tile target activate width isFullWidth isFloating)
      (Moves env.parent [] [tile.id] (s.keep tile.id { tile with restoreToFloating := isFloating }.kept))
    from hadded.mono fun _ => Moves.of_keep
  cases target with
  | auto =>
    refine returns_ite (fun _ => ?_) (fun _ => ?_)
    · exact hkept.intoFloating hnew _ (hfloating _ _ rfl)
    · exact hkept.intoScrolling (List.cons_ne_nil _ _) hsingle _ (hscrolling none _ hnone)
  | newColumnAt colIdx =>
    refine hkept.intoScrolling (List.cons_ne_nil _ _) hsingle _ (hscrolling (some colIdx) _ ?_)
    rintro _ ⟨⟩
    exact htarget
  | nextTo nextTo =>
    refine (activatesNextTo_returns hkept htarget activate).bind fun activate _ => ?_
    refine returns_ite (fun _ => ?_) (fun _ => ?_)
    · refine returns_ite (fun hin => ?_) (fun hout => ?_)
      · have hin := FloatingSpace.hasWindow_iff.mp hin
        refine hkept.intoFloating hnew _ (Returns.and ?_ (h.addTileAbove_ids hin _ _))
        exact (h.floating.addTileAbove hacyclic hin (not_mem_windows hnew).2 activate).mono
          fun _ hpost => hpost.1
      · have hmem := mem_cases htarget fun hin => hout (FloatingSpace.hasWindow_iff.mpr hin)
        refine (besideScrolling_returns hmem env _).bind fun tile' hid => ?_
        exact hkept.intoFloating hnew _ (hfloating tile' _ hid)
    · refine returns_ite (fun _ => ?_) (fun hout => ?_)
      · exact hkept.intoScrolling (List.cons_ne_nil _ _) hsingle _ (hscrolling none _ hnone)
      · have hmem := mem_cases htarget fun hin => hout (FloatingSpace.hasWindow_iff.mpr hin)
        exact hkept.intoScrolling (List.cons_ne_nil _ _) hsingle _
          (ScrollingSpace.addTileRightOf_returns env.geometry h.scrolling hmem
            (not_mem_windows hnew).1 activate width isFullWidth)

omit [BEq F] in
theorem addTileToColumn_returns (h : s.Sound env.parent) {tile : FullTile W F}
    (hnew : tile.id ∉ s.windows) {colIdx : Nat} {col : Column W F}
    (hcol : s.scrolling.columns[colIdx]? = some col) {tileIdx : Option Nat}
    (hidx : ∀ i ∈ tileIdx, i ≤ col.tiles.length) (activate : Bool) :
    Returns (s.addTileToColumn env colIdx tileIdx tile activate)
      (Moves env.parent [] [tile.id] s) := by
  have hadd := ScrollingSpace.addTileToColumn_returns env.geometry h.scrolling hcol hidx
    (not_mem_windows hnew).1 activate
  refine ((h.keep tile.id tile.kept).intoScrolling (List.cons_ne_nil _ _) ?_ activate
    (hadd.mono fun _ hpost => hpost.1)).mono fun _ => Moves.of_keep
  intro id hid
  rw [List.mem_singleton.mp hid]
  exact hnew

omit [One F] in
theorem addColumn_returns (h : s.Sound env.parent) {column : Column W F} {options : Layout.Options F}
    (hcolumn : column.Coherent options) (hnodup : column.ids.Nodup)
    (hnew : ∀ id ∈ column.ids, id ∉ s.windows) (kept : W → Kept) (activate : Bool) :
    Returns (s.addColumn env column kept activate) (Moves env.parent [] column.ids s) := by
  have hfresh : (column.ids ++ s.scrolling.windowIds).Nodup :=
    List.nodup_append.mpr ⟨hnodup, h.scrolling.nodup, fun a ha b hb heq =>
      (not_mem_windows (hnew a ha)).1 (heq ▸ hb)⟩
  have hadd := ScrollingSpace.addColumn_returns env.geometry h.scrolling
    (fun i (hi : i ∈ none) => nomatch hi) hcolumn hfresh activate
  have hkept : ({ s with kept := fun id => if id ∈ column.ids then kept id else s.kept id } :
      Workspace W F).Sound env.parent := ⟨⟨h.scrolling, h.floating, h.disjoint⟩, h.active, h.only⟩
  refine (hkept.intoScrolling ?_ hnew activate (hadd.mono fun _ hpost => hpost.1)).mono
    fun _ hmoves => ⟨hmoves.sound, hmoves.windows⟩
  rw [Column.ids, Ne, List.map_eq_nil_iff]
  exact hcolumn.tiles_ne

end Workspace

end Cidre
