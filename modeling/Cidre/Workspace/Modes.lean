/-
  Cidre.Workspace.Modes

  The mode that a window of a workspace is to be in, and what each operation leaves of it
  and of what the tiles keep.

  A window that is tiled is to be in the mode of its column, and one that floats in the
  normal mode.  Other than by a request for another mode, or to float or not to, a window
  stays in its layout and its tile keeps what it keeps.
-/

import Mathlib.Data.List.Pairwise
import Cidre.Floating.Modes
import Cidre.Layout.Modes
import Cidre.Workspace.Run

namespace Cidre

open Cidre.Panic
open Cidre.Floating (FloatingSpace PositionChange)
open Cidre.Layout (ScrollingSpace Column ColumnWidth SizingMode)
open Cidre.Layout.ScrollingSpace (Added Removed Rearranged)
open Cidre.Utils.Logical
open Cidre.Workspaces (ActivateWindow)

variable {W F : Type} [DecidableEq W]

namespace Workspace

variable {parent : W → Option W} {s s' : Workspace W F}

/-- The pending sizing mode of a window of the workspace. -/
def pendingMode (s : Workspace W F) (window : W) : Option SizingMode :=
  ((s.scrollingTiles ++ s.floating.tiles.map fun tile => tile.toTile).find? fun tile =>
    tile.id == window).map fun tile => tile.pendingSizingMode

/-- Whether the tile is to float once its window is normal again. -/
def restores (s : Workspace W F) (window : W) : Bool := (s.kept window).restoreToFloating

/-- The modes the layouts see to. -/
structure Modes (s : Workspace W F) : Prop where
  scrolling : s.scrolling.Uniform
  floating : s.floating.Normal

/-! ## The mode of a window -/

theorem pendingMode_of_tile {window : W} {tile : Layout.Tile W F}
    (hfound : s.scrollingTile window = some tile) :
    s.pendingMode window = some tile.pendingSizingMode := by
  rw [scrollingTile] at hfound
  rw [pendingMode, List.find?_append, hfound]
  rfl

theorem Intact.column_unique (h : s.Intact parent) {col col' : Column W F} {window : W}
    (hcol : col ∈ s.scrolling.columns) (hcol' : col' ∈ s.scrolling.columns) (hmem : window ∈ col.ids)
    (hmem' : window ∈ col'.ids) : col = col' := by
  by_contra hne
  have hdisjoint := List.pairwise_map.mp (List.nodup_flatten.mp h.scrolling.nodup).2
  have hsymm : Std.Symm fun a b : Column W F => a.ids.Disjoint b.ids := ⟨fun _ _ h _ hw hw' => h hw' hw⟩
  exact hdisjoint.forall hcol hcol' hne hmem hmem'

/-- A window that is tiled is to be in the mode of its column. -/
theorem Intact.pendingMode_of_column (h : s.Intact parent) (hm : s.Modes) {col : Column W F}
    {window : W} (hcol : col ∈ s.scrolling.columns) (hmem : window ∈ col.ids) :
    s.pendingMode window = some col.pendingSizingMode := by
  have htiled : window ∈ s.scrolling.windowIds :=
    List.mem_flatten.mpr ⟨col.ids, List.mem_map_of_mem hcol, hmem⟩
  obtain ⟨tile, hfound, htile, hid⟩ := scrollingTile_returns htiled
  obtain ⟨col', hcol', hin⟩ := List.mem_flatMap.mp htile
  have hmem' : window ∈ col'.ids := hid ▸ List.mem_map_of_mem hin
  obtain rfl := h.column_unique hcol hcol' hmem hmem'
  rw [pendingMode_of_tile hfound, hm.scrolling col hcol tile hin]

theorem Intact.pendingMode_of_floating (h : s.Intact parent) (hm : s.Modes) {window : W}
    (hmem : window ∈ s.floating.ids) : s.pendingMode window = some .normal := by
  have hnone : (s.scrollingTiles.find? fun tile => tile.id == window) = none := by
    rw [List.find?_eq_none]
    intro tile htile hid
    refine h.disjoint window hmem ?_
    rw [← scrollingTiles_ids, ← beq_iff_eq.mp hid]
    exact List.mem_map_of_mem htile
  have hmem' : window ∈ (s.floating.tiles.map fun tile => tile.toTile).map fun tile => tile.id := by
    rw [List.map_map]
    exact hmem
  obtain ⟨tile, hfound, htile, -⟩ := find_returns (fun tile : Layout.Tile W F => tile.id) hmem'
  obtain ⟨tile, hin, rfl⟩ := List.mem_map.mp htile
  rw [pendingMode, List.find?_append, hnone, Option.none_or, hfound]
  exact congrArg some (hm.floating tile hin)

/-- A window that is not to be normal is tiled. -/
theorem Intact.not_floating (h : s.Intact parent) (hm : s.Modes) {window : W}
    (hmode : s.pendingMode window ≠ some .normal) : window ∉ s.floating.ids := fun hmem =>
  hmode (h.pendingMode_of_floating hm hmem)

/-! ## What an operation leaves -/

/-- The modes are seen to.  A window that is none of `except` does not leave the floating
    layout but with the workspace, and its tile keeps what it keeps. -/
structure Settled (except : W → Prop) (s s' : Workspace W F) : Prop where
  modes : s'.Modes
  restores : ∀ window ∈ s.windows, ¬ except window → s'.restores window = s.restores window
  floating : ∀ window ∈ s.floating.ids, ¬ except window → window ∈ s'.windows →
    window ∈ s'.floating.ids

omit [DecidableEq W] in
theorem Settled.of_kept {except : W → Prop} (hmodes : s'.Modes)
    (hkept : ∀ window ∈ s.windows, s'.restores window = s.restores window)
    (hids : ∀ window ∈ s.floating.ids, window ∈ s'.floating.ids) : Settled except s s' :=
  ⟨hmodes, fun window hmem _ => hkept window hmem, fun window hmem _ _ => hids window hmem⟩

omit [DecidableEq W] in
theorem Settled.refl (except : W → Prop) (hm : s.Modes) : Settled except s s :=
  Settled.of_kept hm (fun _ _ => rfl) fun _ hmem => hmem

omit [DecidableEq W] in
theorem Settled.withActive {except : W → Prop} (h : Settled except s s') (active : FloatingActive) :
    Settled except s { s' with floatingIsActive := active } :=
  ⟨⟨h.modes.scrolling, h.modes.floating⟩, h.restores, h.floating⟩

omit [DecidableEq W] in
theorem Settled.withScrolling (except : W → Prop) (hm : s.Modes) {t : ScrollingSpace W F}
    (ht : t.Uniform) : Settled except s { s with scrolling := t } :=
  Settled.of_kept ⟨ht, hm.floating⟩ (fun _ _ => rfl) fun _ hmem => hmem

omit [DecidableEq W] in
theorem Settled.withFloating (except : W → Prop) (hm : s.Modes) {f : FloatingSpace W F}
    (hf : f.Normal) (hids : ∀ window ∈ s.floating.ids, window ∈ f.ids) :
    Settled except s { s with floating := f } :=
  Settled.of_kept ⟨hm.scrolling, hf⟩ (fun _ _ => rfl) hids

omit [DecidableEq W] in
theorem updateFocus_eq (s : Workspace W F) (removedFromFloating : Bool) :
    ∃ active, s.updateFocusFloatingTilingAfterRemoving removedFromFloating =
      { s with floatingIsActive := active } := by
  rw [updateFocusFloatingTilingAfterRemoving]
  split
  · split
    · exact ⟨_, rfl⟩
    · exact ⟨_, rfl⟩
  · split
    · exact ⟨_, rfl⟩
    · exact ⟨_, rfl⟩

omit [DecidableEq W] in
theorem switchFocus_eq (s : Workspace W F) :
    ∃ active, s.switchFocusFloatingTiling = { s with floatingIsActive := active } := by
  rw [switchFocusFloatingTiling]
  split
  · exact ⟨_, rfl⟩
  · split
    · exact ⟨_, rfl⟩
    · exact ⟨_, rfl⟩

omit [DecidableEq W] in
theorem Settled.updateFocus {except : W → Prop} (h : Settled except s s')
    (removedFromFloating : Bool) :
    Settled except s (s'.updateFocusFloatingTilingAfterRemoving removedFromFloating) := by
  obtain ⟨active, heq⟩ := updateFocus_eq s' removedFromFloating
  rw [heq]
  exact h.withActive active

omit [DecidableEq W] in
theorem switchFocus_settled (except : W → Prop) (hm : s.Modes) :
    Settled except s s.switchFocusFloatingTiling := by
  obtain ⟨active, heq⟩ := switchFocus_eq s
  rw [heq]
  exact (Settled.refl except hm).withActive active

omit [DecidableEq W] in
theorem focusFloating_settled (except : W → Prop) (hm : s.Modes) :
    Settled except s s.focusFloating := by
  rw [focusFloating]
  split
  · exact switchFocus_settled except hm
  · exact Settled.refl except hm

omit [DecidableEq W] in
theorem focusTiling_eq (s : Workspace W F) :
    ∃ active, s.focusTiling = { s with floatingIsActive := active } := by
  rw [focusTiling]
  split
  · exact switchFocus_eq s
  · exact ⟨_, rfl⟩

omit [DecidableEq W] in
theorem focusTiling_settled (except : W → Prop) (hm : s.Modes) :
    Settled except s s.focusTiling := by
  obtain ⟨active, heq⟩ := focusTiling_eq s
  rw [heq]
  exact (Settled.refl except hm).withActive active

/-! ## Arrival and departure -/

/-- What a tile that is new keeps is its own. -/
theorem restores_keep {id window : W} {kept : Kept} (hne : window ≠ id) :
    (s.keep id kept).restores window = s.restores window := by
  show (Function.update s.kept id kept window).restoreToFloating = _
  rw [Function.update_of_ne hne]
  rfl

/-- Something arrived, and what the tiles that were there keep is what they kept. -/
structure Arrived (s s' : Workspace W F) : Prop where
  modes : s'.Modes
  kept : s'.kept = s.kept
  floating : ∀ window ∈ s.floating.ids, window ∈ s'.floating.ids

theorem Arrived.settled (except : W → Prop) {id : W} {kept : Kept} (hnew : id ∉ s.windows)
    (h : Arrived (s.keep id kept) s') : Settled except s s' := by
  refine Settled.of_kept h.modes (fun window hmem => ?_) h.floating
  have hne : window ≠ id := fun heq => hnew (heq ▸ hmem)
  rw [restores, h.kept]
  exact restores_keep hne

omit [DecidableEq W] in
theorem intoFloating_arrived (hm : s.Modes) (activate : Bool) {x : Option (FloatingSpace W F)}
    (hx : Ensures x fun f => f.Normal ∧ ∀ window ∈ s.floating.ids, window ∈ f.ids) :
    Ensures (s.intoFloating activate x) (Arrived s) := by
  refine hx.bind ?_
  rintro f ⟨hnormal, hids⟩
  exact ensures_pure ⟨⟨hm.scrolling, hnormal⟩, rfl, hids⟩

omit [DecidableEq W] in
theorem intoScrolling_arrived (hm : s.Modes) (activate : Bool) {x : Option (ScrollingSpace W F)}
    (hx : Ensures x ScrollingSpace.Uniform) :
    Ensures (s.intoScrolling activate x) (Arrived s) :=
  hx.bind fun _ ht => ensures_pure ⟨⟨ht, hm.floating⟩, rfl, fun _ hmem => hmem⟩

omit [DecidableEq W] in
theorem Modes.withKept (hm : s.Modes) (kept : W → Kept) : ({ s with kept := kept }).Modes :=
  ⟨hm.scrolling, hm.floating⟩

variable [One F] [BEq F] {env : Env W F} (except : W → Prop)

theorem addTile_settled (h : s.Sound env.parent) (hm : s.Modes) {tile : FullTile W F}
    (hnew : tile.id ∉ s.windows) (target : WorkspaceAddWindowTarget W) (activate : ActivateWindow)
    (width : ColumnWidth F) (isFullWidth isFloating : Bool) :
    Ensures (s.addTile env tile target activate width isFullWidth isFloating)
      (Settled except s) := by
  suffices harrived : Ensures (s.addTile env tile target activate width isFullWidth isFloating)
      (Arrived (s.keep tile.id { tile with restoreToFloating := isFloating }.kept)) from
    harrived.mono fun _ h => h.settled except hnew
  have hkept : (s.keep tile.id { tile with restoreToFloating := isFloating }.kept).Modes :=
    hm.withKept _
  have hids : ∀ {id : W} {f : FloatingSpace W F}, f.ids.Perm (id :: s.floating.ids) →
      ∀ window ∈ s.floating.ids, window ∈ f.ids := fun hperm window hmem =>
    hperm.mem_iff.mpr (List.mem_cons_of_mem _ hmem)
  have hfloating : ∀ (tile' : Floating.Tile W F) (activate : Bool),
      Ensures (s.floating.addTile (Floating.isChildOf env.parent) tile' activate) fun f =>
        f.Normal ∧ ∀ window ∈ s.floating.ids, window ∈ f.ids := fun tile' activate =>
    (FloatingSpace.addTileAt_normal hm.floating 0 tile' activate).and
      ((h.floating.addTileAt_ids (Nat.zero_le _) tile' activate).ensures.mono fun _ => hids)
  cases target with
  | auto =>
    refine ensures_ite (fun _ => ?_) (fun _ => ?_)
    · exact intoFloating_arrived hkept _ (hfloating _ _)
    · exact intoScrolling_arrived hkept _
        (ScrollingSpace.addTile_uniform env.geometry hm.scrolling _ _ _ _ _)
  | newColumnAt colIdx =>
    exact intoScrolling_arrived hkept _
      (ScrollingSpace.addTile_uniform env.geometry hm.scrolling _ _ _ _ _)
  | nextTo nextTo =>
    refine (ensures_true _).bind fun activate _ => ensures_ite (fun _ => ?_) (fun _ => ?_)
    · refine ensures_ite (fun hin => ?_) (fun _ => (ensures_true _).bind fun tile' _ => ?_)
      · have hin := FloatingSpace.hasWindow_iff.mp hin
        exact intoFloating_arrived hkept _
          ((FloatingSpace.addTileAbove_normal hm.floating nextTo _ activate).and
            ((h.addTileAbove_ids hin _ activate).ensures.mono fun _ => hids))
      · exact intoFloating_arrived hkept _ (hfloating tile' _)
    · refine ensures_ite (fun _ => ?_) (fun _ => ?_)
      · exact intoScrolling_arrived hkept _
          (ScrollingSpace.addTile_uniform env.geometry hm.scrolling _ _ _ _ _)
      · exact intoScrolling_arrived hkept _
          (ScrollingSpace.addTileRightOf_uniform env.geometry hm.scrolling _ _ _ _ _)

omit [BEq F] in
theorem addTileToColumn_settled (hm : s.Modes) {tile : FullTile W F} (hnew : tile.id ∉ s.windows)
    (colIdx : Nat) (tileIdx : Option Nat) (activate : Bool) :
    Ensures (s.addTileToColumn env colIdx tileIdx tile activate) (Settled except s) :=
  (intoScrolling_arrived (hm.withKept _) activate
    (ScrollingSpace.addTileToColumn_uniform env.geometry hm.scrolling colIdx tileIdx _ _)).mono
      fun _ (h : Arrived (s.keep tile.id tile.kept) _) => h.settled except hnew

omit [One F] in
theorem addColumn_settled (hm : s.Modes) {column : Column W F} (hcolumn : column.Uniform)
    (hnew : ∀ id ∈ column.ids, id ∉ s.windows) (kept : W → Kept) (activate : Bool) :
    Ensures (s.addColumn env column kept activate) (Settled except s) := by
  have hadd : Ensures (s.scrolling.addColumn env.geometry none column activate)
      ScrollingSpace.Uniform :=
    (ScrollingSpace.addColumn_modes env.geometry s.scrolling none hcolumn activate).mono
      fun _ hmodes => hmodes.uniform hm.scrolling
  refine (intoScrolling_arrived (hm.withKept _) activate hadd).mono fun s' harrived => ?_
  refine Settled.of_kept harrived.modes (fun window hmem => ?_) harrived.floating
  have hout : window ∉ column.ids := fun hin => hnew window hin hmem
  rw [restores, harrived.kept]
  show (if window ∈ column.ids then kept window else s.kept window).restoreToFloating = _
  rw [if_neg hout]
  rfl

omit [One F] [BEq F] in
/-- A window that is taken out of the floating layout is gone. -/
theorem Sound.settled_without (h : s.Sound parent) (hm : s.Modes) {f : FloatingSpace W F}
    (hnormal : f.Normal) :
    Settled except s { s with floating := f } := by
  refine ⟨⟨hm.scrolling, hnormal⟩, fun _ _ _ => rfl, fun window hmem _ hin => ?_⟩
  rw [windows_eq, List.mem_append] at hin
  exact hin.resolve_left (h.disjoint window hmem)

omit [BEq F] in
theorem removeTile_settled (h : s.Sound env.parent) (hm : s.Modes) (id : W) :
    Ensures (s.removeTile env id) fun p => Settled except s p.2 := by
  refine ensures_ite (fun _ => ?_) (fun _ => ?_)
  · refine (FloatingSpace.removeTile_normal hm.floating id).bind ?_
    rintro ⟨tile, f⟩ ⟨-, hnormal⟩
    exact ensures_pure ((h.settled_without except hm hnormal).updateFocus true)
  · refine (ScrollingSpace.removeTile_uniform env.geometry hm.scrolling id).bind ?_
    rintro ⟨removed, t⟩ ht
    exact ensures_pure ((Settled.withScrolling except hm ht).updateFocus false)

omit [BEq F] in
theorem removeActiveTile_settled (h : s.Sound env.parent) (hm : s.Modes) :
    Ensures (s.removeActiveTile env) fun p => Settled except s p.2 := by
  refine ensures_ite (fun _ => ?_) (fun _ => ?_)
  · refine (FloatingSpace.removeActiveTile_normal hm.floating).bind ?_
    rintro ⟨tile, f⟩ hnormal
    cases tile with
    | none => exact ensures_pure (Settled.refl except hm)
    | some tile => exact ensures_pure ((h.settled_without except hm hnormal).updateFocus true)
  · refine (ScrollingSpace.removeActiveTile_uniform env.geometry hm.scrolling).bind ?_
    rintro ⟨removed, t⟩ ht
    cases removed with
    | none => exact ensures_pure (Settled.refl except hm)
    | some removed => exact ensures_pure ((Settled.withScrolling except hm ht).updateFocus false)

omit [One F] [BEq F] in
theorem removeActiveColumn_settled (hm : s.Modes) :
    Ensures (s.removeActiveColumn env) fun p =>
      (∀ col ∈ p.1, col.Uniform) ∧ Settled except s p.2 := by
  refine ensures_early ⟨fun _ hcol => (by cases hcol), Settled.refl except hm⟩ fun _ => ?_
  refine (ScrollingSpace.removeActiveColumn_uniform env.geometry hm.scrolling).bind ?_
  rintro ⟨column, t⟩ ⟨hcolumn, ht⟩
  cases column with
  | none => exact ensures_pure ⟨fun _ hcol => (by cases hcol), Settled.refl except hm⟩
  | some column =>
    exact ensures_pure ⟨hcolumn, (Settled.withScrolling except hm ht).updateFocus false⟩

/-! ## Floating and tiling -/

/-- The target is in the other layout, in the normal mode, and nothing else has changed. -/
structure Toggled (target : Option W) (s s' : Workspace W F) : Prop where
  modes : s'.Modes
  restores : ∀ window, s'.restores window = s.restores window
  floating : ∀ window, target ≠ some window → (window ∈ s'.floating.ids ↔ window ∈ s.floating.ids)
  tiled : ∀ window, target = some window → window ∈ s.floating.ids →
    ∀ col ∈ s'.scrolling.columns, window ∈ col.ids → col.pendingSizingMode = .normal
  floats : ∀ window, target = some window → window ∉ s.floating.ids → window ∈ s'.floating.ids

omit [DecidableEq W] [One F] [BEq F] in
theorem Toggled.settled {target : Option W} (h : Toggled target s s')
    (htarget : ∀ window, target = some window → except window) : Settled except s s' :=
  ⟨h.modes, fun window _ _ => h.restores window, fun window hmem hnot _ =>
    (h.floating window fun heq => hnot (htarget window heq)).mpr hmem⟩

theorem toggleWindowFloating_toggled (h : s.Sound env.parent) (hm : s.Modes) (id : Option W) :
    Ensures (s.toggleWindowFloating env id) (Toggled (id.orElse fun _ => s.activeWindow) s) := by
  rw [toggleWindowFloating]
  cases htarget : id.orElse fun _ => s.activeWindow with
  | none =>
    refine ensures_some ⟨hm, fun _ => rfl, fun _ _ => Iff.rfl, ?_, ?_⟩
    · rintro window ⟨⟩
    · rintro window ⟨⟩
  | some target =>
    refine ensures_ite (fun hhas => ?_) (fun _ => ensures_none)
    refine ensures_ite (fun hin => ?_) (fun hout => ?_)
    · have hin := FloatingSpace.hasWindow_iff.mp hin
      have hremove := ((h.floating.removeTile hin).and (h.floating.removeTile_ids hin)).ensures.and
        (FloatingSpace.removeTile_normal hm.floating target)
      refine hremove.bind ?_
      rintro ⟨tile, f⟩ ⟨⟨⟨htile, hsound⟩, hids⟩, hmode, hnormal⟩
      obtain ⟨-, -, hnots⟩ := h.withoutFloating hsound hids
      refine (ScrollingSpace.addTile_modes env.geometry s.scrolling none tile.toTile _ _ _).bind
        fun t ht => ensures_pure ⟨⟨ht.uniform hm.scrolling, hnormal⟩, ?_, ?_, ?_, ?_⟩
      · intro window
        show (Function.update s.kept target _ window).restoreToFloating = _
        by_cases heq : window = target
        · subst heq
          rw [Function.update_self, restores, ← show tile.id = window from htile]
          rfl
        · rw [Function.update_of_ne heq]
          rfl
      · intro window hne
        have hne' : window ≠ target := fun heq => hne (congrArg some heq.symm)
        exact ⟨fun hmem => hids.mem_iff.mpr (List.mem_cons_of_mem target hmem),
          fun hmem => List.mem_of_ne_of_mem hne' (hids.mem_iff.mp hmem)⟩
      · rintro window ⟨⟩ - col hcol hwin
        rcases ht col hcol with hold | ⟨-, hnew⟩
        · exact absurd (List.mem_flatten.mpr ⟨col.ids, List.mem_map_of_mem hold, hwin⟩) hnots
        · exact hnew.trans hmode
      · rintro window ⟨⟩ hnot
        exact absurd hin hnot
    · rw [FloatingSpace.hasWindow_iff] at hout
      have hin := mem_cases (hasWindow_iff.mp hhas) hout
      refine ((ScrollingSpace.removeTile_returns env.geometry h.scrolling hin).ensures.and
        (ScrollingSpace.removeTile_uniform env.geometry hm.scrolling target)).bind ?_
      rintro ⟨removed, t⟩ ⟨⟨htile, -⟩, ht⟩
      have hplaced : (({ s with scrolling := t } : Workspace W F).placed env
          (env.tile (s.kept target) removed.tile).toFloating).id = target := by
        rw [id_placed]
        exact htile
      refine ((FloatingSpace.addTileAt_normal hm.floating 0 _ _).and
        (h.floating.addTileAt_ids (Nat.zero_le _) _ _).ensures).bind ?_
      rintro f ⟨hnormal, hids⟩
      rw [hplaced] at hids
      refine ensures_pure ⟨⟨ht, hnormal⟩, fun _ => rfl, ?_, ?_, ?_⟩
      · intro window hne
        have hne' : window ≠ target := fun heq => hne (congrArg some heq.symm)
        exact ⟨fun hmem => List.mem_of_ne_of_mem hne' (hids.mem_iff.mp hmem),
          fun hmem => hids.mem_iff.mpr (List.mem_cons_of_mem target hmem)⟩
      · rintro window ⟨⟩ hmem
        exact absurd hmem hout
      · rintro window ⟨⟩ -
        exact hids.mem_iff.mpr List.mem_cons_self
theorem setWindowFloating_settled (h : s.Sound env.parent) (hm : s.Modes) (id : Option W)
    (floating : Bool)
    (htarget : s.inFloating id ≠ floating → ∀ window,
      (id.orElse fun _ => s.activeWindow) = some window → except window) :
    Ensures (s.setWindowFloating env id floating) (Settled except s) :=
  ensures_early (Settled.refl except hm) fun hne =>
    (toggleWindowFloating_toggled h hm id).mono fun _ htoggled =>
      htoggled.settled except (htarget hne)

/-! ## Whatever else -/

omit [One F] [BEq F] in
theorem activateScrolling_settled (hm : s.Modes) (window : W) (active : FloatingActive) :
    Ensures (s.activateScrolling env window active) fun p => Settled except s p.1 := by
  refine ensures_ite (fun _ => ?_) (fun _ => ensures_some (Settled.refl except hm))
  exact (ScrollingSpace.activateWindow_uniform env.geometry hm.scrolling window).bind fun t ht =>
    ensures_pure ((Settled.withScrolling except hm ht).withActive active)

omit [One F] [BEq F] in
theorem activateWindow_settled (h : s.Sound env.parent) (hm : s.Modes) (window : W) :
    Ensures (s.activateWindow env window) fun p => Settled except s p.1 := by
  refine ((FloatingSpace.activateWindow_normal hm.floating window).and
    (h.floating.activateWindow_ids window).ensures).bind ?_
  rintro ⟨f, found⟩ ⟨hnormal, hids, -⟩
  refine ensures_early (?_) (fun _ => activateScrolling_settled except hm _ _)
  exact (Settled.withFloating except hm hnormal fun _ hmem => hids.mem_iff.mpr hmem).withActive .yes

omit [One F] [BEq F] in
theorem activateWindowWithoutRaising_settled (hm : s.Modes) (window : W) :
    Ensures (s.activateWindowWithoutRaising env window) fun p => Settled except s p.1 := by
  have hids := (FloatingSpace.activateWindowWithoutRaising_keeps (s := s.floating) window
    fun _ => False).ids_eq
  refine ensures_early (?_) (fun _ => activateScrolling_settled except hm _ _)
  have hnormal := FloatingSpace.activateWindowWithoutRaising_normal hm.floating window
  exact (Settled.withFloating except hm hnormal fun _ hmem => hids ▸ hmem).withActive .yes

omit [One F] [BEq F] in
theorem moveFloatingWindow_settled (h : s.Sound env.parent) (hm : s.Modes) (id : Option W)
    (x y : PositionChange) :
    Ensures (s.moveFloatingWindow env id x y) (Settled except s) := by
  refine ensures_ite (fun hin => ?_) (fun _ => ?_)
  · have hmem := h.floating.mem_of_target fun w hw => mem_of_inFloating hw hin
    refine ((FloatingSpace.moveTarget_normal hm.floating id _).and
      (h.floating.moveTarget_keeps _ hmem fun _ => False).ensures).bind ?_
    rintro f ⟨hnormal, hkeeps⟩
    exact ensures_pure (Settled.withFloating except hm hnormal fun _ hmem => hkeeps.ids_eq ▸ hmem)
  · cases id.orElse fun _ => s.scrollingActive with
    | none => exact ensures_some (Settled.refl except hm)
    | some target =>
      refine (ensures_true _).bind fun tile _ => ?_
      cases s.movedPos env tile x y with
      | none => exact ensures_pure (Settled.refl except hm)
      | some pos =>
        refine ensures_pure (Settled.of_kept (hm.withKept _) (fun window _ => ?_) fun _ h => h)
        show (Function.update s.kept target _ window).restoreToFloating = _
        by_cases heq : window = target
        · subst heq
          rw [Function.update_self]
          rfl
        · rw [Function.update_of_ne heq]
          rfl

section Calls

variable [LT F] [DecidableLT F] [LE F] [DecidableLE F]

theorem call_settled (h : s.Sound env.parent) (hm : s.Modes) {c : Call W F} :
    Ensures (s.call env c) (Settled except s) := by
  refine ensures_ite (fun hin => ?_) (fun _ => ?_)
  · cases hop : c.floating with
    | none => exact ensures_some (Settled.refl except hm)
    | some op =>
      obtain ⟨hvalid, hrearranges, hparents⟩ := Call.floating_valid hop hin env.parent
      have hids := (Floating.Op.run_ids h.floating hvalid hrearranges).ensures
      rw [hparents] at hids
      refine ((Floating.Op.run_normal hm.floating hvalid env.parent).and hids).bind ?_
      rintro f ⟨hnormal, hids⟩
      exact ensures_pure
        (Settled.withFloating except hm hnormal fun _ hmem => hids.mem_iff.mpr hmem)
  · refine (ScrollingSpace.step_uniform env.geometry hm.scrolling ?_).bind fun t ht =>
      ensures_pure (Settled.withScrolling except hm ht)
    intro f hf
    cases c <;> cases hf

theorem focusOr_settled (h : s.Sound env.parent) (hm : s.Modes)
    (direction : FloatingSpace.Direction) (towards otherwise : Call W F) :
    Ensures (s.focusOr env direction towards otherwise) (Settled except s) :=
  ensures_ite (fun _ => call_settled except h hm) (fun _ => call_settled except h hm)

omit [DecidableEq W] [One F] [BEq F] [LT F] [DecidableLT F] [LE F] [DecidableLE F] in
theorem focusColumn_settled (hm : s.Modes) (index : Nat) :
    Ensures (s.focusColumn env index) (Settled except s) := by
  obtain ⟨active, heq⟩ := focusTiling_eq s
  have hfocus : Ensures (s.scrolling.focusColumn env.geometry index) ScrollingSpace.Uniform :=
    ensures_early hm.scrolling (fun _ =>
      ScrollingSpace.activateColumn_uniform env.geometry hm.scrolling _)
  rw [focusColumn, heq]
  exact hfocus.bind fun t ht =>
    ensures_pure ((Settled.withScrolling except hm ht).withActive active)

theorem gesture_settled (hm : s.Modes) (g : Gesture) :
    Ensures (s.gesture env g) (Settled except s) := by
  refine (ScrollingSpace.step_uniform env.geometry hm.scrolling ?_).bind fun t ht =>
    ensures_pure (Settled.withScrolling except hm ht)
  intro f hf
  cases g <;> cases hf

omit [One F] [LT F] [DecidableLT F] [LE F] [DecidableLE F] in
theorem updateConfig_settled (h : s.Sound env.parent) (hm : s.Modes) (options : Layout.Options F)
    (workingArea : Rectangle) (tileSize : Floating.Tile W F → Size) :
    Ensures (s.updateConfig env options workingArea tileSize) (Settled except s) := by
  obtain ⟨-, hids⟩ := h.floating.updateConfig workingArea options tileSize
  refine (ScrollingSpace.updateConfig_steady env.geometry s.scrolling options).bind fun t ht => ?_
  refine ensures_pure (Settled.of_kept ⟨ht.uniform hm.scrolling, ?_⟩ (fun _ _ => rfl) fun _ hmem => hids ▸ hmem)
  exact FloatingSpace.updateConfig_normal hm.floating workingArea options tileSize

end Calls

end Workspace

end Cidre
