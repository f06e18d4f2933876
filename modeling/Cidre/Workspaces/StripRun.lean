/-
  Cidre.Workspaces.StripRun

  The strips of every layout that is reached are in order.

  `set_workspace_name` puts an empty workspace beside the one that got a name only
  where it finds it at an end of the strip of the active monitor.  A workspace that
  is referred to by its identity may be at an end of another strip, which then has a
  named workspace for its last one; every run without such a call keeps all strips
  in order.
-/

import Cidre.Workspaces.Identity
import Cidre.Workspaces.LayoutStripOps

namespace Cidre.Workspaces

open Cidre.Counter

variable {W : Type}

/-! ## What is asserted -/

/-- `Monitor::verify_invariants`, of the workspaces of a monitor -/
structure Monitor.Verified (m : Monitor W) : Prop where
  nonempty : m.workspaces ≠ []
  active_lt : m.activeWorkspaceIdx < m.workspaces.length
  last : ∀ ws ∈ m.workspaces.getLast?, ws.hasWindowsOrName = false
  first : m.above = true → ∀ ws ∈ m.workspaces.head?, ws.hasWindowsOrName = false
  count : m.above = true → m.workspaces.length ≠ 2
  used : m.workspaceSwitch = none → ∀ i ws, m.workspaces[i]? = some ws →
    ws.hasWindowsOrName = false → i = m.activeWorkspaceIdx ∨ i + 1 = m.workspaces.length ∨
      (m.above = true ∧ i = 0)

/-- `Layout::verify_invariants`, of the monitors and their workspaces -/
def Layout.Verified (l : Layout W) : Prop :=
  match l.monitorSet with
  | .normal monitors primary active =>
      primary < monitors.length ∧ active < monitors.length ∧ ∀ m ∈ monitors, m.Verified
  | .noOutputs workspaces => ∀ ws ∈ workspaces, ws.hasWindowsOrName = true

theorem Monitor.InOrder.verified {m : Monitor W} {n : Nat} (h : m.InOrder n) : m.Verified := by
  have hactive := h.active_lt
  refine ⟨List.ne_nil_of_length_pos (by omega), hactive, ?_, ?_, h.two, ?_⟩
  · obtain ⟨last, hlast, hspare⟩ := h.last
    intro ws hws
    rw [List.getLast?_eq_getElem?, hlast] at hws
    obtain rfl := Option.some.inj hws
    exact spare_not_full hspare
  · intro habove ws hws
    obtain ⟨first, hfirst, hspare⟩ := h.first habove
    rw [List.head?_eq_getElem?, hfirst] at hws
    obtain rfl := Option.some.inj hws
    exact spare_not_full hspare
  · intro hnone i ws hget hempty
    by_contra hnot
    obtain ⟨hne, hlast, hfirst⟩ := by simpa only [not_or] using hnot
    have hlt : i < m.workspaces.length := (List.getElem?_eq_some_iff.mp hget).1
    have hfull := h.tidy hnone i ws hget hne (by omega) fun habove =>
      Nat.pos_of_ne_zero fun hzero => hfirst ⟨habove, hzero⟩
    rw [hfull] at hempty
    cases hempty

theorem Layout.InOrder.verified {l : Layout W} {n : Nat} (h : l.InOrder n) : l.Verified := by
  unfold Layout.InOrder at h
  unfold Layout.Verified
  split
  · next monitors primary active hset =>
    rw [hset] at h
    exact ⟨h.primary_lt, h.active_lt, fun m hm => (h.inOrder m hm).verified⟩
  · next workspaces hset =>
    rw [hset] at h
    exact h

/-! ## Calls -/

namespace Op

/-- What a caller has to see to: a new output is told apart from those there are (their
    names are made to be), a column has a window, and the workspace of the active
    monitor that the overview is left to is there. -/
def valid (l : Layout W) : Op W → Bool
  | addOutput output _ => l.monitors.all fun m => !(OutputId.new m.output).isOf output
  | addColumnByIdx _ _ column _ => !column.isEmpty
  | toggleOverviewToWorkspace wsIdx =>
      l.activeMonitor.all fun m => wsIdx < m.workspaces.length
  | _ => true

/-- The operation gives a name to the workspace at an end of the strip of a monitor that
    is not the active one. -/
def namesEnd (l : Layout W) : Op W → Bool
  | setWorkspaceName name (some (.id id)) =>
      (l.findWorkspaceByName name).isNone && (l.findWorkspaceById id).any l.strayEnd
  | _ => false

/-- The operation is about an output, or makes a workspace for one. -/
def resettles : Op W → Bool
  | addOutput _ _ | removeOutput _ | ensureNamedWorkspace _ => true
  | _ => false

end Op

namespace Layout

variable {l : Layout W} {n : Nat}

/-- A column that goes past the monitors or past the workspaces is refused. -/
theorem addColumnByIdx_upholds (h : l.InOrder n) (monitorIdx workspaceIdx : Nat) {column : List W}
    (hne : column ≠ []) (activate : Bool) :
    Upholds (l.addColumnByIdx monitorIdx workspaceIdx column activate) n (After l n) := by
  cases hset : l.monitorSet with
  | noOutputs workspaces =>
    rw [addColumnByIdx, hset]
    exact safe_lookup_none.upholds
  | normal monitors primary active =>
    have hrefused : ∀ {f : Layout W → Counted (Layout W)},
        (Upholds (l.onMonitor monitorIdx fun m => m.addColumn workspaceIdx column activate) n
          fun _ _ => False) →
        Upholds ((l.onMonitor monitorIdx fun m => m.addColumn workspaceIdx column activate) >>= f)
          n (After l n) :=
      fun hrefused => hrefused.bind fun _ _ h => h.elim
    cases hm : monitors[monitorIdx]? with
    | none =>
      rw [addColumnByIdx, hset]
      refine hrefused ?_
      simp only [onMonitor, hset, hm]
      exact upholds_bounds_none_bind
    | some m =>
      have hm' : l.monitors[monitorIdx]? = some m := by rw [monitors_of_normal hset, hm]
      by_cases hidx : workspaceIdx < m.workspaces.length
      · exact (addColumnByIdx_after h hm' hidx hne activate).upholds
      · have hnone : m.workspaces[workspaceIdx]? = none :=
          List.getElem?_eq_none (Nat.le_of_not_lt hidx)
        have hcolumn : Upholds (m.addColumn workspaceIdx column activate) n
            fun _ _ => False := by
          rw [Monitor.addColumn, Monitor.addWindows, hnone]
          exact upholds_bounds_none_bind
        rw [addColumnByIdx, hset]
        refine hrefused ?_
        simp only [onMonitor, hset]
        exact upholds_bounds_bind hm (hcolumn.bind fun _ _ h => h.elim)

/-- All strips are in order after the operation, and unless it resettles workspaces the
    monitors and their workspaces stay at home. -/
def Leaves (op : Op W) (l : Layout W) (n : Nat) (l' : Layout W) (n' : Nat) : Prop :=
  l'.InOrder n' ∧ (op.resettles = false → After l n l' n')

theorem run_leaves [DecidableEq W] (c : Readings W) (op : Op W) (hvalid : op.valid l = true)
    (hends : op.namesEnd l = false) (h : l.InOrder n) (hd : Distinct l.workspaces n) :
    Upholds (op.run c l) n (Leaves op l n) := by
  have hupholds : ∀ {x : Counted (Layout W)}, Upholds x n (After l n) →
      Upholds x n (Leaves op l n) :=
    fun hx => hx.mono fun _ _ h' => ⟨h'.inOrder, fun _ => h'⟩
  have hsafe : ∀ {x : Counted (Layout W)}, Safe x n (After l n) → Upholds x n (Leaves op l n) :=
    fun hx => hupholds hx.upholds
  have hanswer : ∀ {β : Type} {x : Counted (Layout W × β)},
      (Safe x n fun p n' => After l n p.1 n') → Upholds (Op.unanswered x) n (Leaves op l n) :=
    fun hx => hsafe (Op.safe_unanswered hx)
  have hpure : ∀ {l' : Layout W}, After l n l' n → Upholds (pure l') n (Leaves op l n) :=
    fun h' => hsafe (safe_pure h')
  have hactive : ∀ {f : Monitor W → Counted (Monitor W)},
      (∀ m n, m.InOrder n → Safe (f m) n (Monitor.Good m.workspaces m.output n)) →
      Upholds (l.onActiveMonitor f) n (Leaves op l n) :=
    fun hf => hsafe (onActiveMonitor_after h (Monitor.keepsOrder_of_safe hf))
  cases op with
  | addOutput output layoutConfig =>
    refine (addOutput_inOrder h hd (fun m hm => ?_) layoutConfig).upholds.mono
      fun _ _ h' => ⟨h', fun hstays => nomatch hstays⟩
    have hm' := List.all_eq_true.mp hvalid m hm
    simpa using hm'
  | removeOutput output =>
    exact (removeOutput_inOrder h hd output).upholds.mono
      fun _ _ h' => ⟨h', fun hstays => nomatch hstays⟩
  | focusOutput output => exact hpure (focusOutput_after h output)
  | addWindow window target activate => exact hsafe (addWindow_after h window target activate)
  | removeWindow window => exact hanswer (removeWindow_after c h window)
  | activateWindow window => exact hsafe (activateWindow_after h window)
  | moveToWorkspace window idx activate =>
    exact hsafe (moveToWorkspace_after c h window idx activate)
  | moveToWorkspaceUp focus =>
    exact hactive fun _ _ hm => Monitor.moveToWorkspaceUp_safe c.toContents hm focus
  | moveToWorkspaceDown focus =>
    exact hactive fun _ _ hm => Monitor.moveToWorkspaceDown_safe c.toContents hm focus
  | moveColumnToWorkspace idx activate =>
    exact hactive fun _ _ hm => Monitor.moveColumnToWorkspace_safe c.toContents hm idx activate
  | moveColumnToWorkspaceUp activate =>
    exact hactive fun _ _ hm => Monitor.moveColumnToWorkspaceUp_safe c.toContents hm activate
  | moveColumnToWorkspaceDown activate =>
    exact hactive fun _ _ hm => Monitor.moveColumnToWorkspaceDown_safe c.toContents hm activate
  | moveDownOrToWorkspaceDown =>
    exact hactive fun _ _ hm => Monitor.moveDownOrToWorkspaceDown_safe c.toContents hm
  | moveUpOrToWorkspaceUp =>
    exact hactive fun _ _ hm => Monitor.moveUpOrToWorkspaceUp_safe c.toContents hm
  | moveToOutput window output idx activate =>
    exact hsafe (moveToOutput_after c h window output idx activate)
  | moveColumnToOutput output idx activate =>
    exact hsafe (moveColumnToOutput_after c h output idx activate)
  | moveColumnOrToOutput output => exact hanswer (moveColumnOrToOutput_after c h output)
  | addColumnByIdx monitorIdx workspaceIdx column activate =>
    refine hupholds (addColumnByIdx_upholds h monitorIdx workspaceIdx ?_ activate)
    rintro rfl
    cases hvalid
  | focusOrOutput output => exact hpure (focusOrOutput_after c h output)
  | focusWindowOrWorkspaceDown =>
    exact hactive fun _ _ hm => Monitor.focusWindowOrWorkspaceDown_safe c.toContents hm
  | focusWindowOrWorkspaceUp =>
    exact hactive fun _ _ hm => Monitor.focusWindowOrWorkspaceUp_safe c.toContents hm
  | switchWorkspaceUp => exact hactive fun _ _ hm => Monitor.switchWorkspaceUp_safe hm
  | switchWorkspaceDown => exact hactive fun _ _ hm => Monitor.switchWorkspaceDown_safe hm
  | switchWorkspace idx => exact hactive fun _ _ hm => Monitor.switchWorkspace_safe hm idx
  | switchWorkspaceAutoBackAndForth idx =>
    exact hactive fun _ _ hm => Monitor.switchWorkspaceAutoBackAndForth_safe hm idx
  | switchWorkspacePrevious => exact hactive fun _ _ hm => Monitor.switchWorkspacePrevious_safe hm
  | ensureNamedWorkspaceOnActiveMonitor name =>
    exact hanswer (ensureNamedWorkspaceOnActiveMonitor_after h name)
  | ensureNamedWorkspaceOnMonitor name outputName =>
    exact hanswer (ensureNamedWorkspaceOnMonitor_after h name outputName)
  | ensureNamedWorkspace config =>
    exact (ensureNamedWorkspace_inOrder h config).upholds.mono
      fun _ _ h' => ⟨h', fun hstays => nomatch hstays⟩
  | setWorkspaceName name reference =>
    refine hsafe (setWorkspaceName_after h hd name reference
      fun id place href hfree hplace => ?_)
    subst href
    rw [Op.namesEnd, hfree, hplace] at hends
    exact hends
  | unsetWorkspaceName reference => exact hsafe (unsetWorkspaceName_after h reference)
  | unnameWorkspaceById id => exact hsafe (unnameWorkspaceById_after h id)
  | moveWorkspaceDown => exact hactive fun _ _ hm => Monitor.moveWorkspaceDown_safe hm
  | moveWorkspaceUp => exact hactive fun _ _ hm => Monitor.moveWorkspaceUp_safe hm
  | moveWorkspaceToIdx reference newIdx =>
    exact hsafe (moveWorkspaceToIdx_after h reference newIdx)
  | moveWorkspaceToOutput output => exact hanswer (moveWorkspaceToOutput_after h hd output)
  | moveWorkspaceToOutputById oldIdx oldOutput newOutput =>
    exact hanswer (moveWorkspaceToOutputById_after h hd oldIdx oldOutput newOutput)
  | toggleOverview | overviewGestureBegin | overviewGestureEnd =>
    exact hpure (setOverview_after h _)
  | openOverview => exact hpure (openOverview_after h)
  | closeOverview => exact hpure (closeOverview_after h)
  | toggleOverviewToWorkspace wsIdx =>
    refine hsafe (toggleOverviewToWorkspace_after h fun m hm => ?_)
    rw [Op.valid, hm] at hvalid
    exact of_decide_eq_true hvalid
  | updateConfig options => exact hsafe (updateConfig_after h options)
  | updateLayoutConfig output layoutConfig =>
    exact hsafe (updateLayoutConfig_after h output layoutConfig)
  | workspaceSwitchGestureBegin output isTouchpad =>
    exact hsafe (workspaceSwitchGestureBegin_after c h output isTouchpad)
  | workspaceSwitchGestureUpdate isTouchpad excess =>
    exact hanswer (workspaceSwitchGestureUpdate_after c h isTouchpad excess)
  | workspaceSwitchGestureEnd isTouchpad =>
    exact hanswer (workspaceSwitchGestureEnd_after c h isTouchpad)
  | dndUpdate output => exact hsafe (dndUpdate_after c h output)
  | dndEnd => exact hsafe (dndEnd_after c h)
  | interactiveMoveBegin window output =>
    exact hanswer (interactiveMoveBegin_after c h window output)
  | interactiveMoveUpdate window output isFloating =>
    exact hanswer (interactiveMoveUpdate_after c h window output isFloating)
  | interactiveMoveEnd window => exact hsafe (interactiveMoveEnd_after c h window)
  | toggleMovedFloating => exact hpure (toggleMovedFloating_after h)
  | advanceAnimations => exact hsafe (advanceAnimations_after c h)
  | refresh => exact hsafe (refresh_after c h)
  | inside => exact hpure h.after

/-! ## Runs -/

/-- A call is what its caller has to see to, and names no end of another strip. -/
def Proper (l : Layout W) (op : Op W) : Prop := op.valid l = true ∧ op.namesEnd l = false

theorem Reachable.inOrder [DecidableEq W] {options : Options} {configs : List WorkspaceConfig}
    (h : Reachable Proper options configs l n) : l.InOrder n ∧ Distinct l.workspaces n := by
  induction h with
  | @new n n' l h =>
    obtain ⟨workspaces, hset, -, hdistinct, -, hnames⟩ :=
      new_yields (newWorkspaces_distinct configs n) options l n' h
    rw [workspaces_of_noOutputs hset]
    refine ⟨(inOrder_of_noOutputs hset).mpr fun ws hws => ?_, hdistinct⟩
    have hname := List.mem_map_of_mem (f := Workspace.name) hws
    rw [hnames] at hname
    obtain ⟨config, -, hname⟩ := List.mem_map.mp hname
    rw [Workspace.hasWindowsOrName, ← hname]
    exact Bool.or_true _
  | step c _ hop hrun ih =>
    exact ⟨((run_leaves c _ hop.1 hop.2 ih.1 ih.2).of_ok hrun).1,
      run_distinct c _ ih.2 _ _ hrun⟩

/-- In every run in which no call names an end of another strip than the active one, the
    strips are in order, and no assertion of the next such call fails. -/
theorem Reachable.strips_verified [DecidableEq W] {options : Options}
    {configs : List WorkspaceConfig} (h : Reachable Proper options configs l n) :
    l.Verified ∧ ∀ (c : Readings W) (op : Op W), Proper l op →
      op.run c l n ≠ .error .assertion := by
  obtain ⟨hordered, hdistinct⟩ := h.inOrder
  refine ⟨hordered.verified, fun c op hop => ?_⟩
  exact (run_leaves c op hop.1 hop.2 hordered hdistinct).ne_assertion

theorem proper_of_check (l : Layout W) (op : Op W)
    (h : (op.valid l && !op.namesEnd l) = true) : Proper l op := by
  rw [Bool.and_eq_true, Bool.not_eq_true'] at h
  exact h

/-- Workspaces of both monitors get names, and one monitor goes. -/
theorem strips_verified_unplugged : ∃ (l : Layout Nat) (n : Nat),
    Reachable Proper ⟨true⟩ [⟨"chat", none⟩] l n ∧ l.Verified ∧ l.workspaces.length = 4 := by
  obtain ⟨l, n, hl, hlen⟩ := exists_reachable ⟨true⟩ [⟨"chat", none⟩]
    [(quiet, .addOutput (plainOutput 0 "A") none), (quiet, .addOutput (plainOutput 1 "B") none),
      (quiet, .addWindow 7 (.output (plainOutput 1 "B")) .yes),
      (quiet, .setWorkspaceName "web" none),
      (quiet, .setWorkspaceName "mail" (some (.id 0))),
      (quiet, .removeOutput (plainOutput 1 "B"))]
    (fun l => l.workspaces.length == 4) proper_of_check (by decide +kernel)
  exact ⟨l, n, hl, hl.strips_verified.1, beq_iff_eq.mp hlen⟩

/-- The last workspace of the second monitor gets a name while the first is active. -/
theorem last_workspace_named : ∃ (l : Layout Nat) (n : Nat),
    Reachable (fun l op => op.valid l = true) ⟨false⟩ [] l n ∧ ¬ l.Verified := by
  have hcheck : ∀ (l : Layout Nat) (op : Op Nat), (fun l op => op.valid l) l op = true →
      op.valid l = true := fun _ _ h => h
  obtain ⟨l, n, hl, hq⟩ := exists_reachable ⟨false⟩ []
    [(quiet, .addOutput (plainOutput 0 "A") none), (quiet, .addOutput (plainOutput 1 "B") none),
      (quiet, .setWorkspaceName "web" (some (.id 1)))]
    (fun l => l.monitors.any fun m => m.workspaces.getLast?.any Workspace.hasWindowsOrName)
    hcheck (by decide +kernel)
  refine ⟨l, n, hl, fun hverified => ?_⟩
  obtain ⟨m, hm, hlast⟩ := List.any_eq_true.mp hq
  obtain ⟨ws, hws, hfull⟩ := (Option.any_eq_true _ _).mp hlast
  unfold Verified at hverified
  cases hset : l.monitorSet with
  | noOutputs workspaces =>
    rw [Layout.monitors, hset] at hm
    cases hm
  | normal monitors primary active =>
    rw [hset] at hverified
    rw [monitors_of_normal hset] at hm
    have hempty := (hverified.2.2 m hm).last ws hws
    rw [hempty] at hfull
    cases hfull

end Layout

end Cidre.Workspaces
