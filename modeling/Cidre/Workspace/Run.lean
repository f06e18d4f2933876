/-
  Cidre.Workspace.Run

  Runs of a workspace: any sequence of its public operations, whatever is active.

  A column is handed over from one workspace to another, as columns are only ever taken
  out of a workspace to be added to the next.
-/

import Cidre.Workspace.Steps

namespace Cidre

open Cidre.Panic
open Cidre.Floating (FloatingSpace PositionChange Acyclic acyclic_none)
open Cidre.Layout (ScrollingSpace Column ColumnWidth Geometry)
open Cidre.Utils.Logical
open Cidre.Workspaces (ActivateWindow)

variable {W F : Type}

namespace Workspace

/-- The operations of a workspace, but for `add_column`. -/
inductive Op (W F : Type) where
  | addTile (tile : FullTile W F) (target : WorkspaceAddWindowTarget W) (activate : ActivateWindow)
      (width : ColumnWidth F) (isFullWidth isFloating : Bool)
  | addTileToColumn (colIdx : Nat) (tileIdx : Option Nat) (tile : FullTile W F) (activate : Bool)
  | removeTile (id : W)
  | removeActiveTile
  | removeActiveColumn
  | toggleWindowFloating (id : Option W)
  | setWindowFloating (id : Option W) (floating : Bool)
  | setFullscreen (window : W) (isFullscreen : Bool)
  | toggleFullscreen (window : W)
  | setMaximized (window : W) (maximize : Bool)
  | toggleMaximized (window : W)
  | focusFloating
  | focusTiling
  | switchFocusFloatingTiling
  | activateWindow (window : W)
  | activateWindowWithoutRaising (window : W)
  | moveFloatingWindow (id : Option W) (x y : PositionChange)
  | call (c : Call W F)
  | focusColumnRightOrFirst
  | focusColumnLeftOrLast
  | focusWindowDownOrTop
  | focusWindowUpOrBottom
  | focusColumn (index : Nat)
  | gesture (g : Gesture)
  | setParent (window : W) (newParent : Option W)
  | updateConfig (options : Layout.Options F) (workingArea : Rectangle)
      (tileSize : Floating.Tile W F → Size)
  | tilesMut (f : Layout.Tile W F → Layout.Tile W F) (g : Floating.Tile W F → Floating.Tile W F)

namespace Op

variable [DecidableEq W]

/-- The parents of the windows at the time of the call. -/
def parents (parent : W → Option W) : Op W F → W → Option W
  | setParent window newParent => Function.update parent window newParent
  | _ => parent

/-- A window is added once, is there when it is named, and never hangs on itself.  What
    is done to the tiles between the calls leaves what they are. -/
def Valid (env : Env W F) (s : Workspace W F) : Op W F → Prop
  | addTile tile target _ _ _ _ => tile.id ∉ s.windows ∧ target.Valid s
  | addTileToColumn colIdx tileIdx tile _ => tile.id ∉ s.windows ∧
      ∃ col, s.scrolling.columns[colIdx]? = some col ∧ ∀ i ∈ tileIdx, i ≤ col.tiles.length
  | removeTile id => id ∈ s.windows
  | toggleWindowFloating id | setWindowFloating id _ | moveFloatingWindow id _ _ =>
      ∀ w, id = some w → w ∈ s.windows
  | setFullscreen window _ | toggleFullscreen window | setMaximized window _
  | toggleMaximized window => window ∈ s.windows
  | call c => ∀ w, c.window = some w → w ∈ s.windows
  | setParent _ _ => Acyclic env.parent
  | tilesMut f g =>
      (∀ tile, (f tile).id = tile.id ∧ (f tile).pendingSizingMode = tile.pendingSizingMode) ∧
      ∀ tile, (g tile).id = tile.id ∧ (g tile).tileSize = tile.tileSize ∧
        (g tile).pendingSizingMode = tile.pendingSizingMode
  | _ => True

/-- The window that comes. -/
def added : Op W F → List W
  | addTile tile _ _ _ _ _ | addTileToColumn _ _ tile _ => [tile.id]
  | _ => []

/-- The windows that are handed out. -/
def removed (env : Env W F) (s : Workspace W F) : Op W F → List W
  | removeTile id => [id]
  | removeActiveTile => s.activeWindow.toList
  | removeActiveColumn => (s.removeActiveColumn env).elim [] fun p => p.1.elim [] Column.ids
  | _ => []

variable [One F] [BEq F] [LT F] [DecidableLT F] [LE F] [DecidableLE F]

/-- One operation; `none` when it panics. -/
def run (env : Env W F) (s : Workspace W F) : Op W F → Option (Workspace W F)
  | addTile tile target activate width isFullWidth isFloating =>
      s.addTile env tile target activate width isFullWidth isFloating
  | addTileToColumn colIdx tileIdx tile activate => s.addTileToColumn env colIdx tileIdx tile activate
  | removeTile id => (s.removeTile env id).map Prod.snd
  | removeActiveTile => (s.removeActiveTile env).map Prod.snd
  | removeActiveColumn => (s.removeActiveColumn env).map Prod.snd
  | toggleWindowFloating id => s.toggleWindowFloating env id
  | setWindowFloating id floating => s.setWindowFloating env id floating
  | setFullscreen window isFullscreen => s.setFullscreen env window isFullscreen
  | toggleFullscreen window => s.toggleFullscreen env window
  | setMaximized window maximize => s.setMaximized env window maximize
  | toggleMaximized window => s.toggleMaximized env window
  | focusFloating => some s.focusFloating
  | focusTiling => some s.focusTiling
  | switchFocusFloatingTiling => some s.switchFocusFloatingTiling
  | activateWindow window => (s.activateWindow env window).map Prod.fst
  | activateWindowWithoutRaising window =>
      (s.activateWindowWithoutRaising env window).map Prod.fst
  | moveFloatingWindow id x y => s.moveFloatingWindow env id x y
  | call c => s.call env c
  | focusColumnRightOrFirst => s.focusColumnRightOrFirst env
  | focusColumnLeftOrLast => s.focusColumnLeftOrLast env
  | focusWindowDownOrTop => s.focusWindowDownOrTop env
  | focusWindowUpOrBottom => s.focusWindowUpOrBottom env
  | focusColumn index => s.focusColumn env index
  | gesture g => s.gesture env g
  | setParent _ newParent => s.parentChanged env newParent
  | updateConfig options workingArea tileSize => s.updateConfig env options workingArea tileSize
  | tilesMut f g => some (s.tilesMut f g)

end Op

variable [DecidableEq W] [One F] [BEq F] [LT F] [DecidableLT F] [LE F] [DecidableLE F]
  {parent : W → Option W} {s : Workspace W F} {env : Env W F}

/-! ## Calls -/

omit [One F] [BEq F] [LT F] [DecidableLT F] [LE F] [DecidableLE F] in
theorem Call.floating_valid {c : Call W F} {op : Floating.Op W F} (hop : c.floating = some op)
    (hin : s.inFloating c.window = true) (parent : W → Option W) :
    op.Valid parent s.floating ∧ op.rearranges = true ∧ op.parents parent = parent := by
  cases c with
  | centerWindow window =>
    cases hop
    exact ⟨fun w hw => mem_of_inFloating hw hin, rfl, rfl⟩
  | centerColumn =>
    cases hop
    exact ⟨fun w hw => (nomatch hw), rfl, rfl⟩
  | _ =>
    cases hop <;> exact ⟨trivial, rfl, rfl⟩

omit [DecidableEq W] [One F] [BEq F] [LT F] [DecidableLT F] [LE F] [DecidableLE F] in
theorem Call.scrolling_valid {c : Call W F} {t : ScrollingSpace W F}
    (hmem : ∀ w, c.window = some w → w ∈ t.windowIds) :
    t.Valid c.scrolling ∧ c.scrolling.rearranges = true := by
  cases c with
  | updateWindow window mode tileSize edges => exact ⟨hmem window rfl, rfl⟩
  | interactiveResizeBegin window edges => exact ⟨hmem window rfl, rfl⟩
  | setColumnWidth change => exact ⟨fun w hw => (nomatch hw), rfl⟩
  | consumeOrExpelWindowLeft window | consumeOrExpelWindowRight window | centerWindow window
  | setWindowWidth window change | setWindowHeight window change | resetWindowHeight window
  | toggleWindowWidth window forwards | toggleWindowHeight window forwards => exact ⟨hmem, rfl⟩
  | _ => exact ⟨trivial, rfl⟩

theorem call_returns (h : s.Sound env.parent) (hacyclic : Acyclic env.parent) {c : Call W F}
    (hmem : ∀ w, c.window = some w → w ∈ s.windows) :
    Returns (s.call env c) (Moves env.parent [] [] s) := by
  rw [call]
  refine returns_ite (fun hin => ?_) (fun hout => ?_)
  · cases hop : c.floating with
    | none => exact returns_some h.moves_refl
    | some op =>
      obtain ⟨hvalid, hrearranges, hparents⟩ := Call.floating_valid hop hin env.parent
      have hrun := (Floating.Op.run_returns h.floating hacyclic hvalid).and
        (Floating.Op.run_ids h.floating hvalid hrearranges)
      rw [hparents] at hrun
      refine hrun.bind ?_
      rintro f ⟨⟨hsound, -⟩, hids⟩
      exact returns_pure (h.moves_floating hsound hids)
  · obtain ⟨hvalid, hrearranges⟩ := Call.scrolling_valid (c := c) (t := s.scrolling)
      fun w hw => mem_of_not_inFloating hw hout (hmem w hw)
    refine (ScrollingSpace.step_rearranged env.geometry h.scrolling hvalid hrearranges).bind ?_
    exact fun t hre => returns_pure (h.moves_scrolling hre)

theorem focusOr_returns (h : s.Sound env.parent) (hacyclic : Acyclic env.parent)
    (direction : FloatingSpace.Direction) {towards otherwise : Call W F}
    (htowards : towards.window = none) (hotherwise : otherwise.window = none) :
    Returns (s.focusOr env direction towards otherwise) (Moves env.parent [] [] s) := by
  have hcall : ∀ {c : Call W F}, c.window = none →
      Returns (s.call env c) (Moves env.parent [] [] s) :=
    fun hnone => call_returns h hacyclic fun w hw => nomatch hnone.symm.trans hw
  exact returns_ite (fun _ => hcall htowards) (fun _ => hcall hotherwise)

omit [One F] [BEq F] [LT F] [DecidableLT F] [LE F] [DecidableLE F] in
theorem focusColumn_returns (h : s.Sound env.parent) (index : Nat) :
    Returns (s.focusColumn env index) (Moves env.parent [] [] s) := by
  have htiling := h.focusTiling
  refine (ScrollingSpace.focusColumn_returns env.geometry htiling.scrolling index).bind ?_
  intro t hre
  have hmoves := htiling.moves_scrolling hre
  exact returns_pure ⟨hmoves.sound, hmoves.windows.trans (.of_eq (windows_focusTiling s))⟩

theorem gesture_returns (h : s.Sound env.parent) (g : Gesture) :
    Returns (s.gesture env g) (Moves env.parent [] [] s) := by
  have hvalid : s.scrolling.Valid g.scrolling ∧ (g.scrolling : Layout.Op W F).rearranges = true := by
    cases g <;> exact ⟨trivial, rfl⟩
  refine (ScrollingSpace.step_rearranged env.geometry h.scrolling hvalid.1 hvalid.2).bind ?_
  exact fun t hre => returns_pure (h.moves_scrolling hre)

omit [One F] [LT F] [DecidableLT F] [LE F] [DecidableLE F] in
theorem updateConfig_returns (h : s.Sound env.parent) (options : Layout.Options F)
    (workingArea : Rectangle) (tileSize : Floating.Tile W F → Size) :
    Returns (s.updateConfig env options workingArea tileSize) (Moves env.parent [] [] s) := by
  obtain ⟨hsound, hids⟩ := h.floating.updateConfig workingArea options tileSize
  refine (ScrollingSpace.updateConfig_returns env.geometry h.scrolling options).bind ?_
  intro t hre
  have hmoves := (h.withScrolling hre).moves_floating hsound (List.Perm.of_eq hids)
  exact returns_pure ⟨hmoves.sound, hmoves.windows.trans (h.moves_scrolling hre).windows⟩

/-! ## One operation -/

/-- A valid operation does not panic, keeps the invariant, and loses and doubles no window. -/
theorem Op.run_moves {op : Op W F} (h : s.Sound parent) (hacyclic : Acyclic env.parent)
    (hparent : env.parent = op.parents parent) (hvalid : op.Valid env s) :
    Returns (op.run env s) (Moves env.parent (op.removed env s) op.added s) := by
  cases op with
  | setParent window newParent =>
    have hnew : env.parent = Function.update parent window newParent := hparent
    have hchanged := (h.floating.parentChanged (hnew ▸ hacyclic)).and
      (h.floating.parentChanged_ids (Function.update parent window newParent) newParent)
    rw [← hnew] at hchanged
    refine hchanged.bind ?_
    rintro f ⟨hsound, hids⟩
    exact returns_pure (h.moves_floating hsound hids)
  | addTile tile target activate width isFullWidth isFloating =>
    exact addTile_returns (hparent ▸ h) hacyclic hvalid.1 hvalid.2 activate width isFullWidth
      isFloating
  | addTileToColumn colIdx tileIdx tile activate =>
    obtain ⟨hnew, col, hcol, hidx⟩ := hvalid
    exact addTileToColumn_returns (hparent ▸ h) hnew hcol hidx activate
  | removeTile id => exact (removeTile_returns (hparent ▸ h) hvalid).map fun _ hpost => hpost.2
  | removeActiveTile => exact (removeActiveTile_returns (hparent ▸ h)).map fun _ hpost => hpost.2
  | removeActiveColumn =>
    have hsound : s.Sound env.parent := hparent ▸ h
    obtain ⟨p, hp, hmoves, -⟩ := removeActiveColumn_returns hsound
    exact ⟨p.2, congrArg (Option.map Prod.snd) hp, by rwa [Op.removed, hp]⟩
  | toggleWindowFloating id =>
    exact (toggleWindowFloating_returns (hparent ▸ h) hacyclic hvalid).mono fun _ hpost => hpost.1
  | setWindowFloating id floating =>
    exact setWindowFloating_returns (hparent ▸ h) hacyclic hvalid floating
  | setFullscreen window isFullscreen =>
    exact setFullscreen_returns (hparent ▸ h) hacyclic hvalid isFullscreen
  | toggleFullscreen window => exact toggleFullscreen_returns (hparent ▸ h) hacyclic hvalid
  | setMaximized window maximize =>
    exact setMaximized_returns (hparent ▸ h) hacyclic hvalid maximize
  | toggleMaximized window => exact toggleMaximized_returns (hparent ▸ h) hacyclic hvalid
  | focusFloating => exact returns_some (.of_windows (hparent ▸ h.focusFloating) (windows_focusFloating s))
  | focusTiling => exact returns_some (.of_windows (hparent ▸ h.focusTiling) (windows_focusTiling s))
  | switchFocusFloatingTiling =>
    exact returns_some (.of_windows (hparent ▸ h.switchFocusFloatingTiling)
      (windows_switchFocusFloatingTiling s))
  | activateWindow window =>
    exact (activateWindow_returns (hparent ▸ h) hacyclic window).map fun _ hpost => hpost
  | activateWindowWithoutRaising window =>
    exact (activateWindowWithoutRaising_returns (hparent ▸ h) window).map fun _ hpost => hpost
  | moveFloatingWindow id x y => exact moveFloatingWindow_returns (hparent ▸ h) hvalid x y
  | call c => exact call_returns (hparent ▸ h) hacyclic hvalid
  | focusColumnRightOrFirst | focusColumnLeftOrLast | focusWindowDownOrTop
  | focusWindowUpOrBottom => exact focusOr_returns (hparent ▸ h) hacyclic _ rfl rfl
  | focusColumn index => exact focusColumn_returns (hparent ▸ h) index
  | gesture g => exact gesture_returns (hparent ▸ h) g
  | updateConfig options workingArea tileSize =>
    exact updateConfig_returns (hparent ▸ h) options workingArea tileSize
  | tilesMut f g =>
    obtain ⟨hf, hg⟩ := hvalid
    obtain ⟨hsound, hids⟩ :=
      h.floating.tilesMut (fun tile => (hg tile).1) fun tile => (hg tile).2.1
    have hre := ScrollingSpace.tilesMut_rearranged h.scrolling fun tile => (hf tile).1
    have hmoves := (h.withScrolling hre).moves_floating hsound (List.Perm.of_eq hids)
    exact returns_some (hparent ▸
      ⟨hmoves.sound, hmoves.windows.trans (h.moves_scrolling hre).windows⟩)

theorem Op.run_returns {op : Op W F} (h : s.Sound parent) (hacyclic : Acyclic env.parent)
    (hparent : env.parent = op.parents parent) (hvalid : op.Valid env s) :
    Returns (op.run env s) (Sound env.parent) :=
  (Op.run_moves h hacyclic hparent hvalid).mono fun _ => Moves.sound

/-! ## Runs -/

/-- The workspaces, with the parents of the windows, that operations lead to. -/
inductive Reachable : (W → Option W) → Workspace W F → Prop where
  | new {parent : W → Option W} (options : Layout.Options F) (workingArea : Rectangle)
      (kept : W → Kept) (hacyclic : Acyclic parent) : Reachable parent (new options workingArea kept)
  | step {parent : W → Option W} {s s' : Workspace W F} (env : Env W F) (op : Op W F)
      (h : Reachable parent s) (hparent : env.parent = op.parents parent) (hvalid : op.Valid env s)
      (hrun : op.run env s = some s') : Reachable env.parent s'
  | addColumn {parent : W → Option W} {s s' t t' : Workspace W F} {column : Column W F}
      (env env' : Env W F) (activate : Bool) (ht : Reachable env'.parent t)
      (hrem : t.removeActiveColumn env' = some (some column, t')) (h : Reachable parent s)
      (hparent : env.parent = parent) (hnew : ∀ id ∈ column.ids, id ∉ s.windows)
      (hrun : s.addColumn env column t.kept activate = some s') : Reachable env.parent s'

omit [One F] [BEq F] [LT F] [DecidableLT F] [LE F] [DecidableLE F] in
theorem new_sound (parent : W → Option W) (options : Layout.Options F) (workingArea : Rectangle)
    (kept : W → Kept) : (new options workingArea kept).Sound parent where
  scrolling := ScrollingSpace.new_wellFormed options
  floating := FloatingSpace.new_sound parent workingArea options
  disjoint := fun _ hid => (List.not_mem_nil hid).elim
  active := nofun
  only := fun _ hne => absurd rfl hne

omit [One F] [BEq F] [LT F] [DecidableLT F] [LE F] [DecidableLE F] in
theorem Op.Valid.acyclic {op : Op W F} (hvalid : op.Valid env s) (h : Acyclic parent)
    (hparent : env.parent = op.parents parent) : Acyclic env.parent := by
  cases op with
  | setParent window newParent => exact hvalid
  | _ => exact hparent ▸ h

theorem Reachable.sound (h : Reachable parent s) : Acyclic parent ∧ s.Sound parent := by
  induction h with
  | new options workingArea kept hacyclic => exact ⟨hacyclic, new_sound _ _ _ _⟩
  | step env op _ hparent hvalid hrun ih =>
    have hacyclic := hvalid.acyclic ih.1 hparent
    exact ⟨hacyclic, (Op.run_returns ih.2 hacyclic hparent hvalid).of_eq hrun⟩
  | addColumn env env' activate _ hrem _ hparent hnew hrun iht ih =>
    subst hparent
    have hmem := ((removeActiveColumn_returns iht.2).of_eq hrem).2 _ rfl
    have hnodup := (List.nodup_flatten.mp iht.2.scrolling.nodup).1 _ (List.mem_map_of_mem hmem)
    exact ⟨ih.1, (addColumn_returns ih.2 (iht.2.scrolling.coherent _ hmem) hnodup hnew _
      activate).of_eq hrun |>.sound⟩

end Workspace

end Cidre
