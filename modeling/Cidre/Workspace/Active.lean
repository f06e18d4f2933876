/-
  Cidre.Workspace.Active

  Which windows a workspace has, which of them is the active one, and who agrees.

  The layout that is active has windows, if any has.  The active window of the floating
  layout need not be its topmost one, and the visual rectangle is that of the topmost one.
-/

import Cidre.Workspace.Run

namespace Cidre

open Cidre.Panic
open Cidre.Floating (FloatingSpace acyclic_none)
open Cidre.Layout (ScrollingSpace)
open Cidre.Utils.Logical

variable {W F : Type} [DecidableEq W]

namespace Workspace

variable {parent : W → Option W} {s : Workspace W F}

/-- The active floating window is on top of the others. -/
def ActiveOnTop (s : Workspace W F) : Prop :=
  s.floatingIsActive.get = true → s.floating.activeWindowId = s.floating.ids.head?

instance (s : Workspace W F) : Decidable s.ActiveOnTop :=
  inferInstanceAs (Decidable (_ → _))

theorem Sound.visualWindow_eq_iff (h : s.Sound parent) :
    s.visualWindow = s.activeWindow ↔ s.ActiveOnTop := by
  rw [h.activeWindow_eq, visualWindow, ActiveOnTop, ← List.head?_map]
  by_cases hactive : s.floatingIsActive.get = true
  · rw [if_pos hactive, if_pos hactive, forall_prop_of_true hactive]
    exact eq_comm
  · rw [if_neg hactive, if_neg hactive]
    exact iff_of_true rfl fun hget => absurd hget hactive

/-- The layout that is active has windows, if any has, and the active window is the one
    that is removed as such.  The rectangle is that of the active window as long as a
    floating one is on top. -/
theorem Reachable.active_coherent [One F] [BEq F] [LT F] [DecidableLT F] [LE F] [DecidableLE F]
    (h : Reachable parent s) :
    (s.floating.tiles = [] → s.floatingIsActive.get = false) ∧
      (s.scrolling.columns = [] → s.floating.tiles ≠ [] → s.floatingIsActive.get = true) ∧
      (s.activeWindow.isSome = true ↔ s.windows ≠ []) ∧
      (∀ env : Env W F, env.parent = parent → Returns (s.removeActiveTile env) fun p =>
        (p.1.map fun removed => removed.tile.id) = s.activeWindow) ∧
      ∀ (intersection : Rectangle → Rectangle → Option Rectangle) (windowRect : W → Rectangle)
        (view : Rectangle),
        (s.activeWindowVisualRectangle intersection windowRect view).isSome = true →
          (s.visualWindow = s.activeWindow ↔ s.ActiveOnTop) := by
  obtain ⟨-, hsound⟩ := h.sound
  refine ⟨fun hnil => ?_, fun hnil hne => ?_, hsound.activeWindow_isSome_iff, fun env henv => ?_,
    fun _ _ _ _ => hsound.visualWindow_eq_iff⟩
  · by_contra hactive
    exact hsound.active (eq_true_of_ne_false hactive) (FloatingSpace.ids_eq_nil.mpr hnil)
  · exact hsound.only (hsound.scrolling.windowIds_eq_nil.mpr hnil)
      fun hids => hne (FloatingSpace.ids_eq_nil.mp hids)
  · exact (removeActiveTile_returns (henv ▸ hsound)).mono fun _ hpost => hpost.1

/-! ## All windows -/

theorem Sound.windows_nodup (h : s.Sound parent) : s.windows.Nodup := by
  rw [windows_eq]
  exact List.nodup_append.mpr ⟨h.scrolling.nodup, h.floating.nodup_ids,
    fun a ha b hb heq => h.disjoint b hb (heq ▸ ha)⟩

section Windows

variable [One F] [BEq F] [LT F] [DecidableLT F] [LE F] [DecidableLE F]

/-- No operation panics, and none loses or doubles a window: with what is handed out, the
    workspace has the windows it had and the one that comes. -/
theorem Reachable.windows_kept (h : Reachable parent s) (env : Env W F) {op : Op W F}
    (hparent : env.parent = op.parents parent) (hvalid : op.Valid env s) :
    s.windows.Nodup ∧ Returns (op.run env s) fun s' => Reachable env.parent s' ∧
      (op.removed env s ++ s'.windows).Perm (op.added ++ s.windows) := by
  obtain ⟨hacyclic, hsound⟩ := h.sound
  obtain ⟨s', hrun, hmoves⟩ := Op.run_moves hsound (hvalid.acyclic hacyclic hparent) hparent hvalid
  exact ⟨hsound.windows_nodup, s', hrun, h.step env op hparent hvalid hrun, hmoves.windows⟩

/-- The column that is taken out of a workspace arrives in another one, with all its
    windows. -/
theorem Reachable.column_handed_over {t : Workspace W F} {env env' : Env W F}
    (ht : Reachable env'.parent t) (h : Reachable env.parent s)
    (hapart : ∀ id ∈ t.windows, id ∉ s.windows) (activate : Bool) :
    Returns (t.removeActiveColumn env') fun p => Reachable env'.parent p.2 ∧
      ∀ column ∈ p.1, Returns (s.addColumn env column t.kept activate) fun s' =>
        Reachable env.parent s' ∧ (p.2.windows ++ s'.windows).Perm (t.windows ++ s.windows) := by
  obtain ⟨⟨column, t'⟩, hrem, hleft, hcolumn⟩ := removeActiveColumn_returns ht.sound.2
  refine ⟨_, hrem, ht.step env' .removeActiveColumn rfl trivial (congrArg (Option.map Prod.snd) hrem),
    ?_⟩
  rintro column rfl
  have hmem := hcolumn column rfl
  -- its windows are those of `t`, so none is in the other workspace
  have hnodup := (List.nodup_flatten.mp ht.sound.2.scrolling.nodup).1 _ (List.mem_map_of_mem hmem)
  have hnew : ∀ id ∈ column.ids, id ∉ s.windows := fun id hid => hapart id
    (hleft.windows.mem_iff.mp (List.mem_append_left _ hid))
  obtain ⟨s', hrun, hmoves⟩ := addColumn_returns h.sound.2 (ht.sound.2.scrolling.coherent _ hmem)
    hnodup hnew t.kept activate
  refine ⟨s', hrun, .addColumn env env' activate ht hrem h rfl hnew hrun, ?_⟩
  -- what left `t` is what arrived in `s`
  have harrived : (t'.windows ++ s'.windows).Perm (t'.windows ++ (column.ids ++ s.windows)) :=
    hmoves.windows.append_left _
  have hboth : (t'.windows ++ column.ids).Perm t.windows :=
    List.perm_append_comm.trans hleft.windows
  exact harrived.trans ((List.Perm.of_eq (List.append_assoc ..).symm).trans
    (hboth.append_right _))

end Windows

/-! ## A window under another one -/

/-- Nothing was asked for, and nothing moved. -/
def desk : Env Nat Nat where
  geometry := ScrollingSpace.wideScreen
  after := ScrollingSpace.wideScreen
  parent := fun _ => none
  info := fun _ => ⟨⟨300, 200⟩, none, ⟨0, 0⟩, ⟨0, 0⟩, none, none⟩
  renderPos := fun _ => ⟨0, 0⟩
  tileWidth := fun _ => 300

def empty : Workspace Nat Nat :=
  new ScrollingSpace.onePreset Floating.screen fun _ => ⟨false, none, none⟩

/-- A window that was just mapped. -/
def mapped (id : Nat) (tileSize : Size) : FullTile Nat Nat :=
  ⟨Floating.mapped id tileSize, false⟩

def mapFloating (id : Nat) (tileSize : Size) : Op Nat Nat :=
  .addTile (mapped id tileSize) .auto .yes (.fixed 300) false true

def mapTiled (id : Nat) : Op Nat Nat :=
  .addTile (mapped id ⟨300, 200⟩) .auto .yes (.fixed 300) false false

/-- An empty workspace after these operations. -/
def after (ops : List (Op Nat Nat)) : Workspace Nat Nat :=
  (ops.foldlM (Op.run desk) empty).getD empty

theorem reachable_empty : Reachable (fun _ => none) empty := Reachable.new _ _ _ acyclic_none

/-- The window 8 was mapped on top of the window 7. -/
def covered : Workspace Nat Nat := after [mapFloating 7 ⟨300, 200⟩, mapFloating 8 ⟨600, 400⟩]

theorem reachable_covered : Reachable (fun _ => none) covered := by
  have h₁ : Reachable _ _ := Reachable.step desk (mapFloating 7 ⟨300, 200⟩) reachable_empty rfl
    ⟨List.not_mem_nil, trivial⟩ rfl
  exact Reachable.step desk (mapFloating 8 ⟨600, 400⟩) h₁ rfl
    ⟨show 8 ∉ [7] by decide, trivial⟩ rfl

/-- The window 7 is tiled, and the window 8 is not. -/
theorem windows_kept_of_tiled :
    ∃ s s' : Workspace Nat Nat, s.windows = [8, 7] ∧
      (Op.toggleWindowFloating (some 7)).run desk s = some s' ∧ s'.windows.Perm [8, 7] := by
  have hparent : desk.parent = (Op.toggleWindowFloating (some 7) : Op Nat Nat).parents _ := rfl
  obtain ⟨-, s', hrun, -, hwindows⟩ := reachable_covered.windows_kept desk hparent
    fun w hw => Option.some.inj hw ▸ show 7 ∈ [8, 7] by decide
  exact ⟨_, s', rfl, hrun, hwindows⟩

/-- The column of the window 8 goes to the workspace of the window 9. -/
theorem column_handed_over_to_tiled :
    ∃ t s t' s' : Workspace Nat Nat, ∃ column, t.windows = [7, 8] ∧ s.windows = [9] ∧
      t.removeActiveColumn desk = some (some column, t') ∧ column.ids = [8] ∧
      s.addColumn desk column t.kept true = some s' ∧
      (t'.windows ++ s'.windows).Perm [7, 8, 9] := by
  have h₁ : Reachable _ _ := Reachable.step desk (mapTiled 7) reachable_empty rfl
    ⟨List.not_mem_nil, trivial⟩ rfl
  have ht : Reachable desk.parent _ := Reachable.step desk (mapTiled 8) h₁ rfl
    ⟨show 8 ∉ [7] by decide, trivial⟩ rfl
  have hs : Reachable desk.parent _ := Reachable.step desk (mapTiled 9) reachable_empty rfl
    ⟨List.not_mem_nil, trivial⟩ rfl
  obtain ⟨p, hremoved, -, hadded⟩ := ht.column_handed_over hs
    (show ∀ id ∈ [7, 8], id ∉ [9] by decide) true
  obtain rfl := Option.some.inj hremoved
  obtain ⟨s', hs', -, hwindows⟩ := hadded _ rfl
  exact ⟨_, _, _, s', _, rfl, rfl, rfl, rfl, hs', hwindows⟩

/-- The mouse is on the window 7, which is focused where it is, below the window 8. -/
theorem rectangle_of_covering_window :
    ∃ s : Workspace Nat Nat, Reachable (fun _ => none) s ∧ s.activeWindow = some 7 ∧
      s.visualWindow = some 8 ∧
      s.activeWindowVisualRectangle (fun _ rect => some rect)
        (fun id : Nat => ⟨⟨0, 0⟩, if id = 8 then ⟨600, 400⟩ else ⟨300, 200⟩⟩) Floating.screen =
          some ⟨⟨0, 0⟩, ⟨600, 400⟩⟩ := by
  have h : Reachable _ _ := Reachable.step desk (.activateWindowWithoutRaising 7) reachable_covered
    rfl trivial rfl
  exact ⟨_, h, rfl, rfl, by decide +kernel⟩

/-- The window 7 that is clicked on is raised. -/
theorem active_coherent_of_raised_window :
    ∃ s : Workspace Nat Nat, Reachable (fun _ => none) s ∧ s.windows = [7, 8] ∧
      s.activeWindow.isSome = true ∧ s.visualWindow = s.activeWindow := by
  have h : Reachable _ _ := Reachable.step desk (.activateWindow 7) reachable_covered rfl
    trivial rfl
  obtain ⟨-, -, hisSome, -, hrectangle⟩ := h.active_coherent
  exact ⟨_, h, rfl, hisSome.mpr (List.cons_ne_nil _ _),
    (hrectangle (fun _ rect => some rect) (fun _ => Floating.screen) Floating.screen rfl).mpr
      fun _ => rfl⟩

end Workspace

end Cidre
