/-
  Cidre.Workspaces.LayoutLineage

  What every operation on the layout keeps of the identities and the names of
  workspaces.  Each gives no name, or one.
-/

import Cidre.Workspaces.Lineage

namespace Cidre.Workspaces

open Cidre.Counter
open Cidre.Panic (Vec.remove)

variable {W : Type}

namespace Layout

/-! ## Looking up -/

theorem placeWhere_eq_some {p : Workspace W → Bool} {strips : List (List (Workspace W))}
    {place : Place} (h : placeWhere p strips = some place) :
    ∃ strip ws, strips[place.mon]? = some strip ∧ strip[place.idx]? = some ws ∧ p ws = true := by
  induction strips generalizing place with
  | nil => cases h
  | cons strip strips ih =>
    rw [placeWhere] at h
    split at h
    · next idx hidx =>
      obtain rfl := Option.some.inj h
      obtain ⟨hlt, hp, -⟩ := List.findIdx?_eq_some_iff_getElem.mp hidx
      exact ⟨strip, _, rfl, List.getElem?_eq_getElem hlt, hp⟩
    · obtain ⟨place', hplace', rfl⟩ := Option.map_eq_some_iff.mp h
      exact ih hplace'

theorem placeWhere_eq_none {p : Workspace W → Bool} {strips : List (List (Workspace W))}
    (h : placeWhere p strips = none) : ∀ ws ∈ strips.flatten, p ws = false := by
  induction strips with
  | nil => intro ws hws; cases hws
  | cons strip strips ih =>
    rw [placeWhere] at h
    split at h
    · cases h
    · next hidx =>
      intro ws hws
      rw [List.flatten_cons, List.mem_append] at hws
      rcases hws with hws | hws
      · exact Bool.eq_false_iff.mpr
          (List.findIdx?_eq_none_iff.mp hidx ws hws ▸ Bool.false_ne_true)
      · exact ih (Option.map_eq_none_iff.mp h) ws hws

theorem free_of_not_found {l : Layout W} {name : String} (h : l.findWorkspaceByName name = none) :
    ∀ ws ∈ l.workspaces, ws.isNamed name = false :=
  placeWhere_eq_none h

/-! ## Parts -/

/-- `l'`, at the counter `n'`, is what has become of the layout `l`. -/
abbrev Kept (l : Layout W) (n : Nat) (l' : Layout W) (n' : Nat) : Prop :=
  Descends l.workspaces n l'.workspaces n'

variable {l l₁ : Layout W} {n n₁ : Nat}

theorem kept_then {x : Counted (Layout W)} (h : Kept l n l₁ n₁) (hx : Yields x n₁ (Kept l₁ n₁)) :
    Yields x n₁ (Kept l n) :=
  hx.mono fun _ _ h' => h.trans h'

/-- The layout with other monitors. -/
abbrev withMonitors (l : Layout W) (monitors : List (Monitor W)) (primary active : Nat) :
    Layout W :=
  { l with monitorSet := .normal monitors primary active }

theorem workspaces_of_normal {monitors : List (Monitor W)} {primary active : Nat}
    (h : l.monitorSet = .normal monitors primary active) :
    l.workspaces = (monitors.map Monitor.workspaces).flatten := by
  rw [workspaces, strips, h]

theorem workspaces_of_noOutputs {workspaces : List (Workspace W)}
    (h : l.monitorSet = .noOutputs workspaces) : l.workspaces = workspaces := by
  rw [Layout.workspaces, strips, h]
  exact List.flatten_singleton

variable (c : Readings W) (l : Layout W)

theorem workspaces_setActiveMonitor (idx : Nat) :
    (l.setActiveMonitor idx).workspaces = l.workspaces := by
  rw [setActiveMonitor]
  split
  · next h => exact (workspaces_of_normal h).symm
  · rfl

theorem workspaces_focusOutput (output : Output) :
    (l.focusOutput output).workspaces = l.workspaces := by
  rw [focusOutput]
  split
  · exact workspaces_setActiveMonitor l _
  · rfl

/-- A call on one of the monitors, which keeps it. -/
theorem set_kept {monitors : List (Monitor W)} {idx : Nat} {m m' : Monitor W}
    (hget : monitors[idx]? = some m) (h : Descends m.workspaces n m'.workspaces n₁) :
    Descends (monitors.map Monitor.workspaces).flatten n
      ((monitors.set idx m').map Monitor.workspaces).flatten n₁ := by
  rw [List.map_set]
  refine Descends.flatten_set ?_ h
  rw [List.getElem?_map, hget]
  rfl

theorem onMonitor_kept (idx : Nat) {f : Monitor W → Counted (Monitor W)} {n : Nat}
    (hf : ∀ m, l.monitors[idx]? = some m →
      Yields (f m) n fun m' n' => Descends m.workspaces n m'.workspaces n') :
    Yields (l.onMonitor idx f) n (Kept l n) := by
  rw [onMonitor]
  split
  · next monitors primary active h =>
    refine yields_bounds_bind fun m hget => ?_
    have hm : l.monitors[idx]? = some m := by
      rw [Layout.monitors, h]
      exact hget
    refine (hf m hm).bind fun m' n' h' => yields_pure ?_
    rw [Kept, workspaces_of_normal h]
    exact set_kept hget h'
  · exact yields_pure (.refl _ n)

/-- An operation that keeps whatever monitor it is applied to. -/
def Keeps (f : Monitor W → Counted (Monitor W)) : Prop := ∀ m n, Yields (f m) n (Monitor.Kept m n)

theorem onMonitor_keeps (idx : Nat) {f : Monitor W → Counted (Monitor W)} (hf : Keeps f) (n : Nat) :
    Yields (l.onMonitor idx f) n (Kept l n) :=
  l.onMonitor_kept idx fun m _ => (hf m n).mono fun _ _ h => h.descends

theorem onActiveMonitor_keeps {f : Monitor W → Counted (Monitor W)} (hf : Keeps f) (n : Nat) :
    Yields (l.onActiveMonitor f) n (Kept l n) := by
  rw [onActiveMonitor]
  split
  · exact l.onMonitor_keeps _ hf n
  · exact yields_pure (.refl _ n)

theorem each_keeps {f : Monitor W → Counted (Monitor W)} (hf : Keeps f) :
    ∀ (monitors : List (Monitor W)) (n : Nat), Yields (each f monitors) n fun monitors' n' =>
      Descends (monitors.map Monitor.workspaces).flatten n
        (monitors'.map Monitor.workspaces).flatten n'
  | [], n => yields_pure (.refl _ n)
  | m :: monitors, n => by
      refine (hf m n).bind fun m' n' h => ?_
      refine (each_keeps hf monitors n').bind fun monitors' n'' h' => yields_pure ?_
      exact h.descends.append h'

theorem onMonitors_keeps {f : Monitor W → Counted (Monitor W)} (hf : Keeps f) (n : Nat) :
    Yields (l.onMonitors f) n (Kept l n) := by
  rw [onMonitors]
  split
  · next monitors primary active h =>
    refine (each_keeps hf monitors n).bind fun monitors' n' h' => yields_pure ?_
    rw [Kept, workspaces_of_normal h]
    exact h'
  · exact yields_pure (.refl _ n)

theorem untilSome_keeps {β : Type} {f : Monitor W → Counted (Monitor W × Option β)}
    (hf : ∀ m n, Yields (f m) n fun p n' => Monitor.Kept m n p.1 n') :
    ∀ (monitors : List (Monitor W)) (n : Nat), Yields (untilSome f monitors) n fun p n' =>
      Descends (monitors.map Monitor.workspaces).flatten n
        (p.1.map Monitor.workspaces).flatten n'
  | [], n => yields_pure (.refl _ n)
  | m :: monitors, n => by
      refine (hf m n).bind ?_
      rintro ⟨m', answer⟩ n' h
      refine yields_early (h.descends.append (.refl _ n')) fun _ => ?_
      refine (untilSome_keeps hf monitors n').bind ?_
      rintro ⟨monitors', answer'⟩ n'' h'
      exact yields_pure (h.descends.append h')

theorem onMonitorsUntil_keeps {β : Type} {f : Monitor W → Counted (Monitor W × Option β)}
    (hf : ∀ m n, Yields (f m) n fun p n' => Monitor.Kept m n p.1 n') (n : Nat) :
    Yields (l.onMonitorsUntil f) n fun p n' => Kept l n p.1 n' := by
  rw [onMonitorsUntil]
  split
  · next monitors primary active h =>
    refine (untilSome_keeps hf monitors n).bind ?_
    rintro ⟨monitors', answer⟩ n' h'
    refine yields_pure ?_
    rw [Kept, workspaces_of_normal h]
    exact h'
  · exact yields_pure (.refl _ n)

/-! ## Outputs -/

theorem reclaimAt_kept (output : Output) (i : Nat) (r : Reclaim W) (n : Nat) :
    Yields (reclaimAt output i r) n fun r' n' => r'.primary.output = r.primary.output ∧
      Descends (r.workspaces ++ r.primary.workspaces) n
        (r'.workspaces ++ r'.primary.workspaces) n' := by
  refine yields_bounds_bind fun ws hget => ?_
  refine yields_ite (fun _ => ?_) (fun _ => yields_pure ⟨rfl, .refl _ n⟩)
  refine yields_bounds_bind ?_
  rintro ⟨ws', workspaces⟩ hremove
  refine yields_pure ⟨rfl, ?_⟩
  have hperm : (r.workspaces ++ r.primary.workspaces).Perm
      ((ws' :: r.workspaces) ++ workspaces) :=
    ((Monitor.remove_eq_some hremove).append_left r.workspaces).trans List.perm_middle
  dsimp only
  refine Descends.of_perm_left hperm ?_
  split
  · exact .refl _ n
  · exact .of_sublist ((List.sublist_cons_self ws' r.workspaces).append_right workspaces) n

theorem reclaimFrom_kept (output : Output) : ∀ (i : Nat) (r : Reclaim W) (n : Nat),
    Yields (reclaimFrom output i r) n fun r' n' => r'.primary.output = r.primary.output ∧
      Descends (r.workspaces ++ r.primary.workspaces) n
        (r'.workspaces ++ r'.primary.workspaces) n'
  | 0, r, n => yields_pure ⟨rfl, .refl _ n⟩
  | i + 1, r, n => by
      refine (reclaimAt_kept output i r n).bind fun r₁ n₁ h₁ => ?_
      refine (reclaimFrom_kept output i r₁ n₁).mono fun r₂ n₂ h₂ => ?_
      exact ⟨h₂.1.trans h₁.1, h₁.2.trans h₂.2⟩

theorem reclaim_kept (output : Output) (primary : Monitor W) (n : Nat) :
    Yields (reclaim output primary) n fun p n' => p.2.output = primary.output ∧
      Descends primary.workspaces n (p.1 ++ p.2.workspaces) n' := by
  refine (reclaimFrom_kept output _ _ n).bind fun r n₁ h => ?_
  have hclean : Yields (applyIf (r.stoppedPrimaryWsSwitch ||
      (r.primary.above && r.primary.workspaces.length == 2)) Monitor.cleanUpWorkspaces r.primary)
      n₁ (Monitor.Kept r.primary n₁) :=
    yields_applyIf (Monitor.cleanUpWorkspaces_kept r.primary n₁) (.refl r.primary n₁)
  refine hclean.bind fun primary' n₂ h' => yields_pure ⟨h'.output_eq.trans h.1, ?_⟩
  exact h.2.trans ((Descends.refl r.workspaces n₁).append h'.descends)

theorem newMonitor_kept (output : Output) (workspaces : List (Workspace W))
    (layoutConfig : Option LayoutPart) (n : Nat) :
    Yields (l.newMonitor output workspaces layoutConfig) n fun m n' =>
      m.output = output ∧ Descends workspaces n m.workspaces n' :=
  (Monitor.new_descends output workspaces _ l.options layoutConfig n).bind fun _ _ h =>
    yields_pure h

theorem addOutput_kept (output : Output) (layoutConfig : Option LayoutPart) (n : Nat) :
    Yields (l.addOutput output layoutConfig) n (Kept l n) := by
  rw [addOutput]
  split
  · next monitors primaryIdx active h =>
    refine yields_bounds_bind fun primary hget => ?_
    refine (reclaim_kept output primary n).bind ?_
    rintro ⟨workspaces, primary'⟩ n₁ ⟨-, h₁⟩
    refine (newMonitor_kept l output workspaces layoutConfig n₁).bind fun m n₂ h₂ => yields_pure ?_
    have hi := (List.getElem?_eq_some_iff.mp hget).1
    have hget' : (monitors.map Monitor.workspaces)[primaryIdx]? = some primary.workspaces := by
      rw [List.getElem?_map, hget]
      rfl
    generalize hrest : ((monitors.map Monitor.workspaces).eraseIdx primaryIdx).flatten = rest
    have hparts : Descends (primary.workspaces ++ rest) n
        (m.workspaces ++ (primary'.workspaces ++ rest)) n₂ := by
      have hreclaimed := h₁.append (.refl rest n₁)
      rw [List.append_assoc] at hreclaimed
      exact hreclaimed.trans (h₂.2.append (.refl _ n₂))
    rw [Kept, workspaces_of_normal h]
    refine (hparts.of_perm_left (hrest ▸ Panic.Vec.flatten_eraseIdx_perm hget')).of_perm_right ?_
    show ((monitors.set primaryIdx primary' ++ [m]).map Monitor.workspaces).flatten.Perm _
    rw [List.map_append, List.map_set, List.flatten_append, List.map_singleton,
      List.flatten_singleton]
    refine List.perm_append_comm.trans (List.Perm.append_left m.workspaces ?_)
    rw [← hrest]
    exact Panic.Vec.flatten_set_perm (by simpa using hi) primary'.workspaces
  · next workspaces h =>
    refine (newMonitor_kept l output workspaces layoutConfig n).bind fun m n₁ h₁ => yields_pure ?_
    rw [Kept, workspaces_of_noOutputs h]
    refine h₁.2.of_perm_right ?_
    show (List.map Monitor.workspaces [m]).flatten.Perm m.workspaces
    rw [List.map_singleton, List.flatten_singleton]

theorem removeOutput_kept (output : Output) (n : Nat) :
    Yields (l.removeOutput output) n (Kept l n) := by
  rw [removeOutput]
  split
  · next monitors primaryIdx active h =>
    refine yields_lookup_bind fun idx _ => yields_bounds_bind ?_
    rintro ⟨m, rest⟩ hremove
    refine yields_bounds_bind fun ws _ => ?_
    have hperm : (monitors.map Monitor.workspaces).flatten.Perm
        (m.workspaces ++ (rest.map Monitor.workspaces).flatten) := by
      rw [Vec.remove] at hremove
      obtain ⟨m', hget, heq⟩ := Option.map_eq_some_iff.mp hremove
      obtain ⟨rfl, rfl⟩ := Prod.mk.inj heq
      rw [← List.eraseIdx_map]
      exact Panic.Vec.flatten_eraseIdx_perm (by rw [List.getElem?_map, hget]; rfl)
    have hinto : Descends m.workspaces n m.intoWorkspaces n :=
      .of_sublist List.filter_sublist n
    show Yields _ n fun (l' : Layout W) n' => Descends l.workspaces n l'.workspaces n'
    rw [workspaces_of_normal h]
    refine yields_ite (fun hnil => yields_pure ?_) (fun _ => ?_)
    · refine Descends.of_perm_left hperm ?_
      obtain rfl := List.isEmpty_iff.mp hnil
      rw [List.map_nil, List.flatten_nil, List.append_nil]
      exact hinto.of_perm_right (List.Perm.of_eq List.flatten_singleton)
    · refine yields_bounds_bind fun primary hget => ?_
      refine (Monitor.appendWorkspaces_descends primary m.intoWorkspaces n).bind
        fun primary' n₁ h₁ => yields_pure ?_
      have hi := (List.getElem?_eq_some_iff.mp hget).1
      have hget' : (rest.map Monitor.workspaces)[idxAfterRemoval idx primaryIdx]? =
          some primary.workspaces := by
        rw [List.getElem?_map, hget]
        rfl
      have hrest := Panic.Vec.flatten_eraseIdx_perm hget'
      have hset : ((rest.set (idxAfterRemoval idx primaryIdx) primary').map
          Monitor.workspaces).flatten.Perm (primary'.workspaces ++
            ((rest.map Monitor.workspaces).eraseIdx (idxAfterRemoval idx primaryIdx)).flatten) := by
        rw [List.map_set]
        exact Panic.Vec.flatten_set_perm (by simpa using hi) primary'.workspaces
      refine Descends.of_perm_left (hperm.trans (hrest.append_left m.workspaces)) ?_
      rw [← List.append_assoc]
      exact ((hinto.append (.refl primary.workspaces n)).append (.refl _ n) |>.trans
        (h₁.2.append (.refl _ n₁))).of_perm_right hset
  · exact yields_lookup_none

/-! ## Windows -/

/-- The workspaces without outputs. -/
abbrev withWorkspaces (l : Layout W) (workspaces : List (Workspace W)) : Layout W :=
  { l with monitorSet := .noOutputs workspaces }

theorem kept_noOutputs {l : Layout W} {workspaces workspaces' : List (Workspace W)}
    (h : l.monitorSet = .noOutputs workspaces) (hd : Descends workspaces n workspaces' n₁)
    (hl₁ : l₁.monitorSet = .noOutputs workspaces') : Kept l n l₁ n₁ := by
  rw [Kept, workspaces_of_noOutputs h, workspaces_of_noOutputs hl₁]
  exact hd

theorem firstWorkspace_kept (workspaces : List (Workspace W)) (n : Nat) :
    Yields (firstWorkspace workspaces) n (Descends workspaces n) := by
  refine yields_ite (fun hnil => ?_) (fun _ => yields_pure (.refl _ n))
  obtain rfl := List.isEmpty_iff.mp hnil
  exact yields_fresh_bind (yields_pure (.cons_new (Workspace.newNoOutputs n) rfl rfl []))

theorem resolveTargetNoOutputs_kept [DecidableEq W] (workspaces : List (Workspace W))
    (target : AddWindowTarget W) (n : Nat) :
    Yields (l.resolveTargetNoOutputs workspaces target) n
      fun p n' => Descends workspaces n p.1 n' := by
  cases target with
  | auto =>
    exact (firstWorkspace_kept workspaces n).bind fun _ _ h => yields_pure h
  | output output => exact yields_lookup_none
  | workspace id => exact yields_lookup_bind fun _ _ => yields_pure (.refl _ n)
  | nextTo window =>
    refine yields_ite (fun _ => ?_) (fun _ => ?_)
    · exact (firstWorkspace_kept workspaces n).bind fun _ _ h => yields_pure h
    · exact yields_lookup_bind fun _ _ => yields_pure (.refl _ n)

theorem resolveTarget_yields [DecidableEq W] (monitors : List (Monitor W)) (active : Nat)
    (target : AddWindowTarget W) (n : Nat) :
    Yields (l.resolveTarget monitors active target) n fun _ n' => n' = n := by
  cases target with
  | auto => exact yields_pure rfl
  | output output => exact yields_lookup_bind fun _ _ => yields_pure rfl
  | workspace id => exact yields_lookup_bind fun _ _ => yields_pure rfl
  | nextTo window =>
    rw [resolveTarget]
    split
    · exact yields_early rfl
        (fun _ => yields_lookup_bind fun _ _ => yields_pure rfl)
    · exact yields_lookup_bind fun _ _ => yields_pure rfl

/-- The active monitor may change afterwards. -/
theorem activated_kept {l : Layout W} (h : Kept l n l₁ n₁) (activate : Bool) (idx : Nat) :
    Kept l n (if activate then l₁.setActiveMonitor idx else l₁) n₁ := by
  split
  · rw [Kept, workspaces_setActiveMonitor]
    exact h
  · exact h

theorem addWindow_kept [DecidableEq W] (window : W) (target : AddWindowTarget W)
    (activate : ActivateWindow) (n : Nat) :
    Yields (l.addWindow window target activate) n (Kept l n) := by
  rw [addWindow]
  split
  · next monitors primary active h =>
    refine (resolveTarget_yields l monitors active target n).bind ?_
    rintro ⟨idx, target'⟩ _ rfl
    refine (l.onMonitor_keeps idx (fun m n => Monitor.addTile_kept m window target' activate true n)
      _).bind fun l' n' h' => yields_pure (activated_kept h' _ idx)
  · next workspaces h =>
    refine (resolveTargetNoOutputs_kept l workspaces target n).bind ?_
    rintro ⟨workspaces', idx⟩ n' h'
    refine yields_bounds_bind fun ws hget => yields_pure ?_
    have hset : Descends workspaces' n' (workspaces'.set idx (ws.addTile window)) n' :=
      .set hget rfl (Or.inr rfl)
    exact kept_noOutputs h (h'.trans hset) rfl

theorem cancelMove_kept (n : Nat) : Yields (l.cancelMove c) n (Kept l n) :=
  onMonitors_keeps { l with interactiveMove := none }
    (fun m n => Monitor.dndScrollGestureEnd_kept c.toContents m n) n

theorem removeWindowAt_kept [DecidableEq W] (window : W) (idx : Nat) :
    Keeps (removeWindowAt window idx) := by
  intro m n
  refine yields_bounds_bind fun ws hget => ?_
  have hset : Monitor.Kept m n (m.setWorkspace idx (ws.removeTile window)) n :=
    .setWorkspace hget rfl (Or.inr rfl)
  dsimp only
  generalize hdrop : (!(ws.removeTile window).hasWindowsOrName &&
    idx != (m.setWorkspace idx (ws.removeTile window)).activeWorkspaceIdx &&
    idx != (m.setWorkspace idx (ws.removeTile window)).workspaces.length - 1 &&
    (m.setWorkspace idx (ws.removeTile window)).workspaceSwitch.isNone) = drop
  cases drop with
  | false => exact yields_applyIf (hset.then (Monitor.mergeEnds_kept _ n)) hset
  | true =>
    have herase := hset.trans (.eraseIdx _ idx
      (if idx < m.activeWorkspaceIdx then m.activeWorkspaceIdx - 1 else m.activeWorkspaceIdx) n)
    exact yields_applyIf (herase.then (Monitor.mergeEnds_kept _ n)) herase

theorem removeFromWorkspace_kept [DecidableEq W] (window : W) (n : Nat) :
    Yields (l.removeFromWorkspace window) n fun p n' => Kept l n p.1 n' := by
  rw [removeFromWorkspace]
  split
  · exact yields_pure (.refl _ n)
  · split
    · exact (l.onMonitor_keeps _ (removeWindowAt_kept window _) n).bind fun l' n' h =>
        yields_pure h
    · next workspaces h =>
      refine yields_bounds_bind fun ws hget => yields_pure (kept_noOutputs h ?_ rfl)
      split
      · exact .set hget rfl (Or.inr rfl)
      · exact .of_sublist (List.eraseIdx_sublist _ _) n

theorem removeWindow_kept [DecidableEq W] (window : W) (n : Nat) :
    Yields (l.removeWindow c window) n fun p n' => Kept l n p.1 n' := by
  rw [removeWindow]
  split
  · refine yields_ite (fun _ => ?_) (fun _ => removeFromWorkspace_kept l window n)
    refine (cancelMove_kept c l n).bind fun l₁ n₁ h₁ => ?_
    exact (removeFromWorkspace_kept l₁ window n₁).mono fun _ _ h₂ => h₁.trans h₂
  · refine yields_ite (fun _ => ?_) (fun _ => removeFromWorkspace_kept l window n)
    exact (cancelMove_kept c l n).bind fun l₁ n₁ h₁ => yields_pure h₁
  · exact removeFromWorkspace_kept l window n

theorem activateWindow_kept [DecidableEq W] (window : W) (n : Nat) :
    Yields (l.activateWindow window) n (Kept l n) := by
  refine yields_early (.refl _ n) fun _ => ?_
  split
  · exact yields_pure (.refl _ n)
  · split
    · exact yields_pure (.refl _ n)
    · next place _ =>
      have hkeeps : Keeps fun m : Monitor W =>
          if seenInGesture m place.idx then pure m else m.switchWorkspace place.idx :=
        fun m n => yields_early (.refl m n)
          (fun _ => Monitor.activateWorkspace_kept m _ n)
      refine ((l.setActiveMonitor place.mon).onMonitor_keeps place.mon hkeeps n).mono
        fun l' n' h => ?_
      rw [Kept, workspaces_setActiveMonitor] at h
      exact h

theorem moveToWorkspace_kept [DecidableEq W] (window : Option W) (idx : Nat)
    (activate : ActivateWindow) (n : Nat) :
    Yields (l.moveToWorkspace c window idx activate) n (Kept l n) := by
  refine yields_early (.refl _ n) fun _ => ?_
  cases window with
  | none =>
    exact l.onActiveMonitor_keeps
      (fun m n => Monitor.moveToWorkspace_kept c.toContents m none idx activate n) n
  | some window =>
    dsimp only
    split
    · exact yields_pure (.refl _ n)
    · exact yields_lookup_bind fun mon _ => l.onMonitor_keeps mon
        (fun m n => Monitor.moveToWorkspace_kept c.toContents m (some window) idx activate n) n

/-- A workspace of a monitor is replaced by one that comes from it. -/
theorem setOn_kept (mon idx : Nat) {m₀ : Monitor W} {ws ws' : Workspace W}
    (hm : l.monitors[mon]? = some m₀) (hget : m₀.workspaces[idx]? = some ws) (hid : ws'.id = ws.id)
    (hname : ws'.name = none ∨ ws'.name = ws.name) (n : Nat) :
    Yields (l.onMonitor mon fun m => pure (m.setWorkspace idx ws')) n (Kept l n) := by
  refine l.onMonitor_kept mon fun m hm' => yields_pure ?_
  obtain rfl : m₀ = m := Option.some.inj (hm.symm.trans hm')
  exact .set hget hid hname

theorem monitors_of_normal {l : Layout W} {monitors : List (Monitor W)} {primary active : Nat}
    (h : l.monitorSet = .normal monitors primary active) : l.monitors = monitors := by
  rw [Layout.monitors, h]

theorem sourcePlace_yields [DecidableEq W] (window : Option W) (n : Nat) :
    Yields (l.sourcePlace window) n fun _ n' => n' = n := by
  cases window with
  | some window => exact yields_lookup fun _ _ => rfl
  | none =>
    intro a n' h
    cases hplace : l.activePlace with
    | none =>
      rw [sourcePlace, hplace] at h
      cases h
    | some place =>
      rw [sourcePlace, hplace] at h
      exact (Prod.mk.inj (Except.ok.inj h)).2.symm

theorem moveToOutput_kept [DecidableEq W] (window : Option W) (output : Output)
    (targetWsIdx : Option Nat) (activate : ActivateWindow) (n : Nat) :
    Yields (l.moveToOutput c window output targetWsIdx activate) n (Kept l n) := by
  refine yields_early (.refl _ n) fun _ => ?_
  split
  · exact yields_pure (.refl _ n)
  · next monitors primary active h =>
    refine yields_lookup_bind fun newIdx _ => yields_bounds_bind fun new _ => ?_
    refine (sourcePlace_yields l window n).bind ?_
    rintro source _ rfl
    refine yields_early (.refl _ _) fun _ => ?_
    refine yields_early (.refl _ _) fun _ => ?_
    refine yields_bounds_bind fun target _ => yields_bounds_bind fun m hm => ?_
    refine yields_bounds_bind fun shown _ => yields_bounds_bind fun ws hget => ?_
    split
    · exact yields_pure (.refl _ _)
    · next tile ws' heq =>
      obtain ⟨hid, hname, -⟩ := Monitor.takeTile_eq heq
      have hm' : l.monitors[source.mon]? = some m := by rwa [monitors_of_normal h]
      refine (setOn_kept l source.mon source.idx hm' hget hid (Or.inr hname) _).bind
        fun l₁ n₁ h₁ => ?_
      refine (kept_then h₁ (l₁.onMonitor_keeps newIdx
        (fun m n => Monitor.addTile_kept m tile _ _ true n) n₁)).bind fun l₂ n₂ h₂ => ?_
      refine kept_then (activated_kept h₂ _ newIdx) (onMonitor_keeps _ _ (fun m n => ?_) n₂)
      exact yields_applyIf (Monitor.cleanUpWorkspaces_kept m n) (.refl m n)

theorem addColumnByIdx_kept (monitorIdx workspaceIdx : Nat) (column : List W) (activate : Bool)
    (n : Nat) : Yields (l.addColumnByIdx monitorIdx workspaceIdx column activate) n (Kept l n) := by
  rw [addColumnByIdx]
  split
  · exact (l.onMonitor_keeps monitorIdx
      (fun m n => Monitor.addWindows_kept m workspaceIdx column activate n) n).bind
      fun _ _ h => yields_pure (activated_kept h activate monitorIdx)
  · exact yields_lookup_none

theorem moveColumnToOutput_kept [DecidableEq W] (output : Output) (targetWsIdx : Option Nat)
    (activate : Bool) (n : Nat) :
    Yields (l.moveColumnToOutput c output targetWsIdx activate) n (Kept l n) := by
  rw [moveColumnToOutput]
  split
  · exact yields_pure (.refl _ n)
  · next monitors primary active h =>
    refine yields_lookup_bind fun newIdx _ => yields_bounds_bind fun current hm => ?_
    refine yields_bounds_bind fun ws hget => ?_
    refine yields_ite (fun _ => moveToOutput_kept c l none output none .smart n) (fun _ => ?_)
    split
    · exact yields_pure (.refl _ n)
    · next column ws' heq =>
      obtain ⟨hid, hname, -⟩ := Monitor.removeActiveColumn_eq heq
      refine yields_bounds_bind fun new _ => ?_
      have hset : Yields (l.onMonitor active fun m =>
          pure (m.setWorkspace m.activeWorkspaceIdx ws')) n (Kept l n) := by
        refine l.onMonitor_kept active fun m hm' => yields_pure ?_
        rw [monitors_of_normal h] at hm'
        obtain rfl : current = m := Option.some.inj (hm.symm.trans hm')
        exact .set hget hid (Or.inr hname)
      exact hset.bind fun l₁ n₁ h₁ =>
        kept_then h₁ (addColumnByIdx_kept l₁ newIdx _ column activate n₁)

theorem moveColumnOrToOutput_kept [DecidableEq W] (output : Output) (n : Nat) :
    Yields (l.moveColumnOrToOutput c output) n fun p n' => Kept l n p.1 n' := by
  refine yields_early (.refl _ n) fun _ => ?_
  exact (moveColumnToOutput_kept c l output none true n).bind fun l₁ n₁ h => yields_pure h

theorem workspaces_focusOrOutput (output : Output) :
    (l.focusOrOutput c output).1.workspaces = l.workspaces := by
  rw [focusOrOutput]
  split
  · rfl
  · exact workspaces_focusOutput l output

/-! ## Names -/

/-- `l'` is what has become of the layout `l`, but that one workspace may have been
    given the name. -/
abbrev Christened (name : String) (l : Layout W) (n : Nat) (l' : Layout W) (n' : Nat) : Prop :=
  Christens name l.workspaces n l'.workspaces n'

/-- A call on one of the monitors that names a workspace. -/
theorem set_christened {monitors : List (Monitor W)} {idx : Nat} {m m' : Monitor W} {name : String}
    (hget : monitors[idx]? = some m) (h : Christens name m.workspaces n m'.workspaces n₁) :
    Christens name (monitors.map Monitor.workspaces).flatten n
      ((monitors.set idx m').map Monitor.workspaces).flatten n₁ := by
  rw [List.map_set]
  refine Christens.flatten_set ?_ h
  rw [List.getElem?_map, hget]
  rfl

theorem nameLast_christens (name : String) (m : Monitor W) (n : Nat) :
    Yields (nameLast name m) n fun p n' => Christens name m.workspaces n p.1.workspaces n' := by
  refine yields_early (.of_descends (.refl _ n) name) fun _ => ?_
  refine yields_bounds_bind fun ws _ => ?_
  refine (yields_applyIf (Monitor.addWorkspaceAt_kept m m.workspaces.length n) (.refl m n)).bind
    fun m₁ n₁ h₁ => ?_
  refine yields_bounds_bind fun ws₁ hget => ?_
  have hnamed : Christens name m.workspaces n
      (m₁.setWorkspace (m₁.workspaces.length - 1) (ws₁.rename name)).workspaces n₁ :=
    .of_descends_trans h₁.descends (.set hget name n₁)
  refine (Monitor.addWorkspaceAt_kept _ _ n₁).bind fun m₂ n₂ h₂ => ?_
  refine (yields_applyIf (Monitor.addWorkspaceAt_kept m₂ 0 n₂) (.refl m₂ n₂)).bind
    fun m₃ n₃ h₃ => yields_pure ?_
  exact hnamed.trans_descends (h₂.descends.trans h₃.descends)

theorem nameLastOn_christened (idx : Nat) (name : String) (n : Nat) :
    Yields (l.nameLastOn idx name) n fun p n' => Christened name l n p.1 n' := by
  rw [nameLastOn]
  split
  · exact yields_pure (.of_descends (.refl _ n) name)
  · next monitors primary active h =>
    refine yields_bounds_bind fun m hget => ?_
    refine (nameLast_christens name m n).bind ?_
    rintro ⟨m', wsIdx⟩ n₁ h₁
    refine yields_pure ?_
    rw [Christened, workspaces_of_normal h]
    exact set_christened hget h₁

/-- The name is given only if no workspace of the active monitor has it. -/
theorem ensureNamedWorkspaceOnActiveMonitor_christened (name : String) (n : Nat) :
    Yields (l.ensureNamedWorkspaceOnActiveMonitor name) n fun p n' => Kept l n p.1 n' ∨
      (∀ m, l.activeMonitor = some m → m.findNamedWorkspaceIndex name = none) ∧
        Christened name l n p.1 n' := by
  rw [ensureNamedWorkspaceOnActiveMonitor]
  split
  · exact yields_pure (Or.inl (.refl _ n))
  · next monitors primary active h =>
    refine yields_bounds_bind fun m hget => ?_
    split
    · exact yields_pure (Or.inl (.refl _ n))
    · next hnone =>
      refine (nameLastOn_christened l active name n).mono fun p n' h' => Or.inr ⟨?_, h'⟩
      intro m' hm'
      rw [activeMonitor, h] at hm'
      obtain rfl : m = m' := Option.some.inj (hget.symm.trans hm')
      exact hnone

/-- The name is given only if no workspace has it. -/
theorem ensureNamedWorkspaceOnMonitor_christened (name : String) (outputName : Option String)
    (n : Nat) :
    Yields (l.ensureNamedWorkspaceOnMonitor name outputName) n fun p n' => Kept l n p.1 n' ∨
      l.findWorkspaceByName name = none ∧ Christened name l n p.1 n' := by
  rw [ensureNamedWorkspaceOnMonitor]
  split
  · exact yields_pure (Or.inl (.refl _ n))
  · next hnone =>
    split
    · exact yields_pure (Or.inl (.refl _ n))
    · exact (nameLastOn_christened l _ name n).mono fun p n' h => Or.inr ⟨hnone, h⟩

theorem ensureNamedWorkspace_christened (config : WorkspaceConfig) (n : Nat) :
    Yields (l.ensureNamedWorkspace config) n fun l' n' => Kept l n l' n' ∨
      l.findWorkspaceByName config.name = none ∧ Christened config.name l n l' n' := by
  refine yields_early (Or.inl (.refl _ n)) fun hnone => ?_
  have hnone' : l.findWorkspaceByName config.name = none := by simpa using hnone
  split
  · next monitors primary active h =>
    refine yields_fresh_bind ?_
    rw [onMonitor, h]
    refine yields_bounds_bind fun m hget => ?_
    refine (Monitor.insertWorkspace_descends m (Workspace.newWithConfig m.output config n) 0 false
      (n + 1)).bind fun m' n' h' => yields_pure (Or.inr ⟨hnone', ?_⟩)
    rw [Christened, workspaces_of_normal h]
    have hnew : Christens config.name m.workspaces n
        (Workspace.newWithConfig m.output config n :: m.workspaces) (n + 1) :=
      .cons (Workspace.newWithConfig m.output config n) rfl rfl _
    exact set_christened hget (hnew.trans_descends h'.2)
  · next workspaces h =>
    refine yields_fresh_bind (yields_pure (Or.inr ⟨hnone', ?_⟩))
    rw [Christened, workspaces_of_noOutputs h]
    exact (Christens.cons (Workspace.newWithConfigNoOutputs config n) rfl rfl workspaces).of_perm
      (List.Perm.refl _) (List.Perm.of_eq List.flatten_singleton)

theorem surroundNamed_keeps (id : WorkspaceId) : Keeps (surroundNamed (W := W) id) := by
  intro m n
  refine (yields_applyIf (Monitor.addWorkspaceAt_kept m 0 n) (.refl m n)).bind fun m₁ n₁ h₁ => ?_
  exact yields_applyIf (h₁.then (Monitor.addWorkspaceAt_kept m₁ m₁.workspaces.length n₁)) h₁

theorem workspaceAt_eq_some {l : Layout W} {place : Place} {ws : Workspace W} (h : l.workspaceAt place = some ws) :
    ∃ strip, l.strips[place.mon]? = some strip ∧ strip[place.idx]? = some ws :=
  Option.bind_eq_some_iff.mp h

theorem setWorkspaceAt_christened {l : Layout W} {place : Place} {ws : Workspace W}
    (hget : l.workspaceAt place = some ws) (name : String) (n : Nat) :
    Yields (l.setWorkspaceAt place (ws.rename name)) n (Christened name l n) := by
  obtain ⟨strip, hstrip, hws⟩ := workspaceAt_eq_some hget
  rw [setWorkspaceAt]
  split
  · next monitors primary active h =>
    rw [onMonitor, h]
    refine yields_bounds_bind fun m hm => yields_pure ?_
    rw [strips, h, List.getElem?_map, hm] at hstrip
    obtain rfl : m.workspaces = strip := Option.some.inj hstrip
    rw [Christened, workspaces_of_normal h]
    exact set_christened hm (.set hws name n)
  · next workspaces h =>
    refine yields_pure ?_
    rw [strips, h] at hstrip
    obtain rfl : workspaces = strip := by
      cases hmon : place.mon with
      | zero =>
        rw [hmon] at hstrip
        exact Option.some.inj hstrip
      | succ k =>
        rw [hmon] at hstrip
        cases hstrip
    rw [Christened, workspaces_of_noOutputs h]
    exact (Christens.set hws name n).of_perm (List.Perm.refl _)
      (List.Perm.of_eq List.flatten_singleton)

/-- The name is given only if no workspace has it. -/
theorem setWorkspaceName_christened (name : String) (reference : Option WorkspaceReference)
    (n : Nat) :
    Yields (l.setWorkspaceName name reference) n fun l' n' => Kept l n l' n' ∨
      l.findWorkspaceByName name = none ∧ Christened name l n l' n' := by
  refine yields_early (Or.inl (.refl _ n)) fun hnone => ?_
  have hnone' : l.findWorkspaceByName name = none := by simpa using hnone
  split
  · exact yields_pure (Or.inl (.refl _ n))
  · refine yields_bounds_bind fun ws hget => ?_
    refine (setWorkspaceAt_christened hget name n).bind fun l₁ n₁ h₁ => ?_
    refine (l₁.onActiveMonitor_keeps (surroundNamed_keeps ws.id) n₁).mono fun l₂ n₂ h₂ => ?_
    exact Or.inr ⟨hnone', h₁.trans_descends h₂⟩

theorem unnameOn_kept (id : WorkspaceId) : ∀ (monitors : List (Monitor W)) (n : Nat),
    Yields (unnameOn id monitors) n fun monitors' n' =>
      Descends (monitors.map Monitor.workspaces).flatten n
        (monitors'.map Monitor.workspaces).flatten n'
  | [], n => yields_pure (.refl _ n)
  | m :: monitors, n => by
      refine (Monitor.unnameWorkspace_kept m id n).bind ?_
      rintro ⟨m', found⟩ n' h
      refine yields_early (h.descends.append (.refl _ n')) fun _ => ?_
      exact (unnameOn_kept id monitors n').bind fun monitors' n'' h' =>
        yields_pure (h.descends.append h')

theorem unnameWorkspaceById_kept (id : WorkspaceId) (n : Nat) :
    Yields (l.unnameWorkspaceById id) n (Kept l n) := by
  rw [unnameWorkspaceById]
  split
  · next monitors primary active h =>
    refine (unnameOn_kept id monitors n).bind fun monitors' n' h' => yields_pure ?_
    rw [Kept, workspaces_of_normal h]
    exact h'
  · next workspaces h =>
    split
    · exact yields_pure (.refl _ n)
    · refine yields_bounds_bind fun ws hget => yields_pure (kept_noOutputs h ?_ rfl)
      split
      · exact .set hget rfl (Or.inl rfl)
      · exact .of_sublist (List.eraseIdx_sublist _ _) n

theorem unsetWorkspaceName_kept (reference : Option WorkspaceReference) (n : Nat) :
    Yields (l.unsetWorkspaceName reference) n (Kept l n) := by
  rw [unsetWorkspaceName]
  split
  · exact yields_pure (.refl _ n)
  · exact yields_bounds_bind fun ws _ => unnameWorkspaceById_kept l ws.id n

/-! ## Moving workspaces -/

theorem monitorIdxOr_yields (monitors : List (Monitor W)) (active : Nat) (output : Option Output)
    (n : Nat) : Yields (monitorIdxOr monitors active output) n fun _ n' => n' = n := by
  cases output with
  | none => exact yields_pure rfl
  | some output => exact yields_lookup fun _ _ => rfl

theorem moveWorkspaceToOutputById_kept (oldIdx : Nat) (oldOutput : Option Output)
    (newOutput : Output) (n : Nat) :
    Yields (l.moveWorkspaceToOutputById oldIdx oldOutput newOutput) n
      fun p n' => Kept l n p.1 n' := by
  rw [moveWorkspaceToOutputById]
  split
  · exact yields_pure (.refl _ n)
  · next monitors primary active h =>
    refine (monitorIdxOr_yields monitors active oldOutput n).bind ?_
    rintro currentIdx n' rfl
    refine yields_lookup_bind fun targetIdx _ => yields_bounds_bind fun current hget => ?_
    refine yields_early (.refl _ _) fun _ => ?_
    refine yields_ite (fun _ => ?_) (fun hne => ?_)
    · refine yields_bounds_bind fun ws hws => yields_pure ?_
      rw [Kept, workspaces_of_normal h]
      refine set_kept hget ?_
      exact .set hws rfl (Or.inr rfl)
    · refine (Monitor.removeWorkspaceByIdx_descends current oldIdx _).bind ?_
      rintro ⟨ws, current'⟩ n₁ ⟨-, h₁⟩
      refine yields_bounds_bind fun target hget' => ?_
      refine (Monitor.insertWorkspace_descends target _ _ _ n₁).bind
        fun target' n₂ h₂ => yields_pure ?_
      rw [Kept, workspaces_of_normal h]
      -- The workspace leaves one part, and comes into another.
      have hcur : (monitors.map Monitor.workspaces)[currentIdx]? = some current.workspaces := by
        rw [List.getElem?_map, hget]
        rfl
      have hlt := (List.getElem?_eq_some_iff.mp hcur).1
      generalize hrest : ((monitors.map Monitor.workspaces).eraseIdx currentIdx).flatten = rest
      have hremoved : Descends (monitors.map Monitor.workspaces).flatten n'
          ([ws] ++ ((monitors.set currentIdx current').map Monitor.workspaces).flatten) n₁ := by
        rw [List.map_set]
        refine ((h₁.append (.refl rest n₁)).of_perm_left
          (hrest ▸ Panic.Vec.flatten_eraseIdx_perm hcur)).of_perm_right ?_
        show (ws :: _).Perm (ws :: (current'.workspaces ++ rest))
        exact (hrest ▸ Panic.Vec.flatten_set_perm hlt current'.workspaces).cons ws
      have htar : ((monitors.set currentIdx current').map Monitor.workspaces)[targetIdx]? =
          some target.workspaces := by
        rw [List.getElem?_map, List.getElem?_set_ne hne, hget']
        rfl
      have hlt' := (List.getElem?_eq_some_iff.mp htar).1
      generalize hrest' : (((monitors.set currentIdx current').map
        Monitor.workspaces).eraseIdx targetIdx).flatten = rest'
      have hnamed : Descends [ws] n₁ [{ ws with originalOutput := OutputId.new newOutput }] n₁ :=
        .map (fun ws => { ws with originalOutput := OutputId.new newOutput }) (fun _ => rfl)
          (fun _ => Or.inr rfl) [ws] n₁
      refine hremoved.trans ?_
      have hinserted := (hnamed.append (.refl target.workspaces n₁)).trans h₂.2
      have hparts := hinserted.append (.refl rest' n₂)
      rw [List.append_assoc] at hparts
      refine (hparts.of_perm_left ?_).of_perm_right ?_
      · exact (hrest' ▸ Panic.Vec.flatten_eraseIdx_perm htar).append_left [ws]
      · show ((List.set _ targetIdx target').map Monitor.workspaces).flatten.Perm _
        rw [List.map_set]
        exact hrest' ▸ Panic.Vec.flatten_set_perm hlt' target'.workspaces

theorem moveWorkspaceToOutput_kept (output : Output) (n : Nat) :
    Yields (l.moveWorkspaceToOutput output) n fun p n' => Kept l n p.1 n' := by
  rw [moveWorkspaceToOutput]
  split
  · exact moveWorkspaceToOutputById_kept l _ none output n
  · exact yields_pure (.refl _ n)

theorem moveWorkspaceToIdx_kept (reference : Option (Option Output × Nat)) (newIdx n : Nat) :
    Yields (l.moveWorkspaceToIdx reference newIdx) n (Kept l n) := by
  rcases reference with _ | ⟨_ | output, oldIdx⟩
  · exact l.onActiveMonitor_keeps (fun m n => Monitor.moveWorkspaceToIdx_kept m _ newIdx n) n
  · exact l.onActiveMonitor_keeps (fun m n => Monitor.moveWorkspaceToIdx_kept m oldIdx newIdx n) n
  · rw [moveWorkspaceToIdx]
    split
    · exact l.onMonitor_keeps _ (fun m n => Monitor.moveWorkspaceToIdx_kept m oldIdx newIdx n) n
    · exact yields_pure (.refl _ n)

/-! ## Overview, configuration and gestures -/

theorem workspaces_setOverview (isOpen : Bool) :
    (l.setOverview isOpen).workspaces = l.workspaces := by
  rw [setOverview]
  split
  · next monitors primary active h =>
    rw [workspaces_of_normal h]
    show ((monitors.map fun m => { m with overviewOpen := isOpen }).map
      Monitor.workspaces).flatten = _
    rw [List.map_map]
    rfl
  · next workspaces h =>
    rw [workspaces_of_noOutputs h]
    exact workspaces_of_noOutputs h

theorem workspaces_openOverview : l.openOverview.1.workspaces = l.workspaces := by
  rw [openOverview]
  split
  · rfl
  · exact workspaces_setOverview l _

theorem workspaces_closeOverview : l.closeOverview.1.workspaces = l.workspaces := by
  rw [closeOverview]
  split
  · exact workspaces_setOverview l _
  · rfl

theorem toggleOverviewToWorkspace_kept (wsIdx n : Nat) :
    Yields (l.toggleOverviewToWorkspace wsIdx) n (Kept l n) := by
  refine (l.onActiveMonitor_keeps (fun m n => Monitor.activateWorkspace_kept m wsIdx n) n).bind
    fun l₁ n₁ h => yields_pure ?_
  rw [Kept, toggleOverview, workspaces_setOverview]
  exact h

theorem updateConfig_kept (options : Options) (n : Nat) :
    Yields (l.updateConfig options) n (Kept l n) :=
  (l.onMonitors_keeps (fun m n => Monitor.updateConfig_kept m options n) n).bind
    fun _ _ h => yields_pure h

theorem updateLayoutConfig_kept (output : Output) (layoutConfig : Option LayoutPart) (n : Nat) :
    Yields (l.updateLayoutConfig output layoutConfig) n (Kept l n) := by
  rw [updateLayoutConfig]
  split
  · exact l.onMonitor_keeps _ (fun m n => Monitor.updateLayoutConfig_kept m layoutConfig n) n
  · exact yields_pure (.refl _ n)

theorem workspaceSwitchGestureBegin_kept (output : Output) (isTouchpad : Bool) (n : Nat) :
    Yields (l.workspaceSwitchGestureBegin c output isTouchpad) n (Kept l n) := by
  rw [workspaceSwitchGestureBegin]
  split
  · refine l.onMonitors_keeps (fun m n => ?_) n
    refine yields_early (.of_eq rfl rfl) fun _ => ?_
    exact (Monitor.workspaceSwitchGestureEnd_kept c.toContents m none n).bind
      fun p n' h => yields_pure h
  · exact yields_lookup_none

theorem workspaceSwitchGestureUpdate_kept (isTouchpad : Bool) (excess : Rat) (n : Nat) :
    Yields (l.workspaceSwitchGestureUpdate c isTouchpad excess) n fun p n' => Kept l n p.1 n' := by
  refine l.onMonitorsUntil_keeps (fun m n => ?_) n
  refine (Monitor.workspaceSwitchGestureUpdate_kept c.toContents m isTouchpad excess n).bind ?_
  rintro ⟨m', refresh⟩ n' h
  exact yields_pure h

theorem workspaceSwitchGestureEnd_kept (isTouchpad : Option Bool) (n : Nat) :
    Yields (l.workspaceSwitchGestureEnd c isTouchpad) n fun p n' => Kept l n p.1 n' := by
  refine l.onMonitorsUntil_keeps (fun m n => ?_) n
  refine (Monitor.workspaceSwitchGestureEnd_kept c.toContents m isTouchpad n).bind ?_
  rintro ⟨m', ended⟩ n' h
  exact yields_pure h

theorem dndScrollGestureBegin_kept (n : Nat) : Yields (l.dndScrollGestureBegin c) n (Kept l n) :=
  l.onMonitors_keeps (fun m n =>
    yields_pure (Monitor.dndScrollGestureBegin_kept c.toContents m n)) n

theorem dndScrollGestureEnd_kept (n : Nat) : Yields (l.dndScrollGestureEnd c) n (Kept l n) :=
  l.onMonitors_keeps (fun m n => Monitor.dndScrollGestureEnd_kept c.toContents m n) n

theorem dndUpdate_kept (output : Output) (n : Nat) : Yields (l.dndUpdate c output) n (Kept l n) :=
  yields_applyIf (dndScrollGestureBegin_kept c { l with dnd := some output } n)
    (.refl l.workspaces n)

theorem dndEnd_kept (n : Nat) : Yields (l.dndEnd c) n (Kept l n) :=
  yields_early (.refl _ n)
    (fun _ => dndScrollGestureEnd_kept c { l with dnd := none } n)

theorem refresh_kept (n : Nat) : Yields (l.refresh c) n (Kept l n) :=
  yields_ite (fun _ => dndScrollGestureBegin_kept c l n) (fun _ =>
    yields_ite (fun _ => dndScrollGestureEnd_kept c l n) (fun _ => yields_pure (.refl _ n)))

/-! ## Interactive moves -/

theorem interactiveMoveBegin_kept [DecidableEq W] (window : W) (output : Output) (n : Nat) :
    Yields (l.interactiveMoveBegin c window output) n fun p n' => Kept l n p.1 n' := by
  refine yields_early (.refl _ n) fun _ => ?_
  split
  · exact yields_pure (.refl _ n)
  · refine yields_early (.refl _ n) fun _ => ?_
    exact (dndScrollGestureBegin_kept c { l with interactiveMove := some (.starting window) }
      n).bind fun l₁ n₁ h => yields_pure h

theorem interactiveMoveUpdate_kept [DecidableEq W] (window : W) (output : Output)
    (isFloating : Bool) (n : Nat) :
    Yields (l.interactiveMoveUpdate c window output isFloating) n fun p n' => Kept l n p.1 n' := by
  rw [interactiveMoveUpdate]
  split
  · exact yields_pure (.refl _ n)
  · refine yields_early (.refl _ n) fun _ => ?_
    refine yields_lookup_bind fun place _ => ?_
    refine yields_ite (fun _ => ?_) (fun _ => yields_pure (.refl _ n))
    refine (removeFromWorkspace_kept { l with interactiveMove := none } window n).bind ?_
    rintro ⟨l₁, removed⟩ n₁ h₁
    exact yields_lookup_bind fun _ _ => yields_pure h₁
  · next moved movedOutput floating _ =>
    refine yields_early (.refl _ n) (fun _ => yields_pure ?_)
    have hfocus : Kept l n (if output ≠ movedOutput then l.focusOutput output else l) n := by
      split
      · rw [Kept, workspaces_focusOutput]
        exact .refl _ n
      · exact .refl _ n
    exact hfocus

theorem insertTarget_kept (m : Monitor W) (insertWs : InsertWorkspace) (n : Nat) :
    Yields (insertTarget m insertWs) n fun p n' => Monitor.Kept m n p.1 n' := by
  cases insertWs with
  | existing id => exact yields_lookup_bind fun _ _ => yields_pure (.refl m n)
  | newAt idx =>
    refine yields_early (.refl m n) fun _ => ?_
    refine yields_early (.refl m n) fun _ => ?_
    exact (Monitor.addWorkspaceAt_kept m idx n).bind fun m₁ n₁ h => yields_pure h

theorem insertMoved_keeps [DecidableEq W] (window : W) (isFloating allowToActivate : Bool)
    (insertWs : Monitor W → InsertWorkspace) :
    Keeps fun m => insertMoved c window isFloating allowToActivate (insertWs m) m := by
  intro m n
  refine (insertTarget_kept m (insertWs m) n).bind ?_
  rintro ⟨m₁, idx⟩ n₁ h₁
  refine yields_bounds_bind fun ws _ => ?_
  refine yields_ite (fun _ => ?_) (fun _ => ?_)
  · exact h₁.then (Monitor.addTileToColumn_kept m₁ idx window true allowToActivate n₁)
  · exact h₁.then (Monitor.addTile_kept m₁ window _ _ allowToActivate n₁)

theorem interactiveMoveEnd_kept [DecidableEq W] (window : W) (n : Nat) :
    Yields (l.interactiveMoveEnd c window) n (Kept l n) := by
  rw [interactiveMoveEnd]
  split
  · exact yields_pure (.refl _ n)
  · exact yields_ite (fun _ => cancelMove_kept c l n) (fun _ => yields_pure (.refl _ n))
  · refine yields_early (.refl _ n) fun _ => ?_
    refine (cancelMove_kept c l n).bind fun l₁ n₁ h₁ => kept_then h₁ ?_
    split
    · split
      · exact l₁.onMonitor_keeps _ (insertMoved_keeps c window _ _ c.insertPosition) n₁
      · refine l₁.onMonitor_keeps _ (fun m n => ?_) n₁
        refine yields_bounds_bind fun ws _ => ?_
        exact insertMoved_keeps c window _ _ (fun _ => .existing ws.id) m n
    · next workspaces h =>
      refine (firstWorkspace_kept workspaces n₁).bind fun workspaces' n₂ h₂ => ?_
      refine yields_bounds_bind fun ws hget => yields_pure ?_
      have hset : Descends workspaces' n₂ (workspaces'.set 0 (ws.addTile window)) n₂ :=
        .set hget rfl (Or.inr rfl)
      exact kept_noOutputs h (h₂.trans hset) rfl

theorem workspaces_toggleMovedFloating : l.toggleMovedFloating.workspaces = l.workspaces := by
  rw [toggleMovedFloating]
  split
  · rfl
  · rfl

/-! ## Ticks -/

theorem holdOver_keeps [DecidableEq W] (target : DndHoldTarget W) : Keeps (holdOver c target) := by
  intro m n
  refine yields_lookup_bind fun idx _ => ?_
  refine (Monitor.dndScrollGestureEnd_kept c.toContents m n).bind fun m₁ n₁ h₁ => ?_
  exact h₁.then (Monitor.activateWorkspace_kept m₁ idx n₁)

theorem advanceDnd_kept [DecidableEq W] (n : Nat) : Yields (l.advanceDnd c) n (Kept l n) := by
  rw [advanceDnd]
  split
  · exact yields_pure (.refl _ n)
  · split
    · exact yields_pure (.refl _ n)
    · next idx _ =>
      refine (l.onMonitor_keeps idx (fun m n =>
        Monitor.dndScrollGestureScroll_kept c.toContents m n) n).bind fun l₁ n₁ h₁ => ?_
      split
      · refine (l₁.onMonitor_keeps idx (holdOver_keeps c _) n₁).bind
          fun l₂ n₂ h₂ => yields_pure ?_
        rw [Kept, workspaces_closeOverview, workspaces_focusOutput]
        exact h₁.trans h₂
      · exact yields_pure h₁

theorem advanceAnimations_kept [DecidableEq W] (n : Nat) :
    Yields (l.advanceAnimations c) n (Kept l n) := by
  refine (advanceDnd_kept c l n).bind fun l₁ n₁ h₁ => kept_then h₁ ?_
  exact l₁.onMonitors_keeps (fun m n => Monitor.advanceAnimations_kept c.toContents m n) n₁

end Layout

end Cidre.Workspaces
