/-
  Cidre.Workspaces.SwitchRun

  Runs of one monitor: any sequence of calls of its functions, and of the changes the
  layout makes to it itself.

  A gesture that is half-way or past an end of the strip is not where the active
  workspace is.  What comes in between them moves one and not the other, and from then
  on the gesture is centered on another workspace than the active one.
-/

import Cidre.Workspaces.SwitchSync

namespace Cidre.Workspaces

open Cidre.Counter

variable {W : Type}

/-! ## Operations -/

inductive MonitorOp (W : Type) where
  | addWorkspaceAt (idx : Nat)
  | addColumn (workspaceIdx : Nat) (column : List W) (activate : Bool)
  | addTile (tile : W) (target : MonitorAddWindowTarget W) (activate : ActivateWindow)
      (allowToActivateWorkspace : Bool)
  | addTileToColumn (workspaceIdx : Nat) (tile : W) (activate allowToActivateWorkspace : Bool)
  | activateWorkspace (idx : Nat)
  | cleanUpWorkspaces
  | unnameWorkspace (id : WorkspaceId)
  | removeWorkspaceByIdx (idx : Nat)
  | insertWorkspace (ws : Workspace W) (idx : Nat) (activate : Bool)
  | appendWorkspaces (workspaces : List (Workspace W))
  | moveToWorkspaceUp (focus : Bool)
  | moveToWorkspaceDown (focus : Bool)
  | moveToWorkspace (window : Option W) (idx : Nat) (activate : ActivateWindow)
  | moveColumnToWorkspaceUp (activate : Bool)
  | moveColumnToWorkspaceDown (activate : Bool)
  | moveColumnToWorkspace (idx : Nat) (activate : Bool)
  | switchWorkspaceUp
  | switchWorkspaceDown
  | switchWorkspace (idx : Nat)
  | switchWorkspacePrevious
  | switchWorkspaceAutoBackAndForth (idx : Nat)
  | moveDownOrToWorkspaceDown
  | moveUpOrToWorkspaceUp
  | focusWindowOrWorkspaceDown
  | focusWindowOrWorkspaceUp
  | advanceAnimations
  | updateConfig (baseOptions : Options)
  | updateLayoutConfig (layoutConfig : Option LayoutPart)
  | moveWorkspaceDown
  | moveWorkspaceUp
  | moveWorkspaceToIdx (oldIdx newIdx : Nat)
  | workspaceSwitchGestureBegin (isTouchpad : Bool)
  | dndScrollGestureBegin
  | workspaceSwitchGestureUpdate (isTouchpad : Bool) (excess : Rat)
  | dndScrollGestureScroll
  | workspaceSwitchGestureEnd (isTouchpad : Option Bool)
  | dndScrollGestureEnd
  /-- a workspace gets a name, or its windows change -/
  | setWorkspace (idx : Nat) (ws : Workspace W)
  | removeWindowAt (window : W) (idx : Nat)
  /-- a new output takes its workspaces -/
  | reclaim (output : Output)
  | setOverview (isOpen : Bool)

namespace MonitorOp

variable [DecidableEq W]

def run (c : Contents W) (m : Monitor W) : MonitorOp W → Counted (Monitor W)
  | addWorkspaceAt idx => m.addWorkspaceAt idx
  | addColumn workspaceIdx column activate => m.addColumn workspaceIdx column activate
  | addTile tile target activate allow => m.addTile tile target activate allow
  | addTileToColumn workspaceIdx tile activate allow =>
      m.addTileToColumn workspaceIdx tile activate allow
  | activateWorkspace idx => m.activateWorkspace idx
  | cleanUpWorkspaces => m.cleanUpWorkspaces
  | unnameWorkspace id => do
      let p ← m.unnameWorkspace id
      return p.1
  | removeWorkspaceByIdx idx => do
      let p ← m.removeWorkspaceByIdx idx
      return p.2
  | insertWorkspace ws idx activate => m.insertWorkspace ws idx activate
  | appendWorkspaces workspaces => m.appendWorkspaces workspaces
  | moveToWorkspaceUp focus => m.moveToWorkspaceUp c focus
  | moveToWorkspaceDown focus => m.moveToWorkspaceDown c focus
  | moveToWorkspace window idx activate => m.moveToWorkspace c window idx activate
  | moveColumnToWorkspaceUp activate => m.moveColumnToWorkspaceUp c activate
  | moveColumnToWorkspaceDown activate => m.moveColumnToWorkspaceDown c activate
  | moveColumnToWorkspace idx activate => m.moveColumnToWorkspace c idx activate
  | switchWorkspaceUp => m.switchWorkspaceUp
  | switchWorkspaceDown => m.switchWorkspaceDown
  | switchWorkspace idx => m.switchWorkspace idx
  | switchWorkspacePrevious => m.switchWorkspacePrevious
  | switchWorkspaceAutoBackAndForth idx => m.switchWorkspaceAutoBackAndForth idx
  | moveDownOrToWorkspaceDown => m.moveDownOrToWorkspaceDown c
  | moveUpOrToWorkspaceUp => m.moveUpOrToWorkspaceUp c
  | focusWindowOrWorkspaceDown => m.focusWindowOrWorkspaceDown c
  | focusWindowOrWorkspaceUp => m.focusWindowOrWorkspaceUp c
  | advanceAnimations => m.advanceAnimations c
  | updateConfig baseOptions => m.updateConfig baseOptions
  | updateLayoutConfig layoutConfig => m.updateLayoutConfig layoutConfig
  | moveWorkspaceDown => m.moveWorkspaceDown
  | moveWorkspaceUp => m.moveWorkspaceUp
  | moveWorkspaceToIdx oldIdx newIdx => m.moveWorkspaceToIdx oldIdx newIdx
  | workspaceSwitchGestureBegin isTouchpad => pure (m.workspaceSwitchGestureBegin c isTouchpad)
  | dndScrollGestureBegin => pure (m.dndScrollGestureBegin c)
  | workspaceSwitchGestureUpdate isTouchpad excess => do
      let p ← m.workspaceSwitchGestureUpdate c isTouchpad excess
      return p.1
  | dndScrollGestureScroll => m.dndScrollGestureScroll c
  | workspaceSwitchGestureEnd isTouchpad => do
      let p ← m.workspaceSwitchGestureEnd c isTouchpad
      return p.1
  | dndScrollGestureEnd => m.dndScrollGestureEnd c
  | setWorkspace idx ws => pure (m.setWorkspace idx ws)
  | removeWindowAt window idx => Layout.removeWindowAt window idx m
  | reclaim output => do
      let p ← Layout.reclaim output m
      return p.2
  | setOverview isOpen => pure { m with overviewOpen := isOpen }

/-- Where workspaces come while the switch in progress goes on.  An operation that stops
    the switch, or that then leads it to the workspace it activates, does not count. -/
def insertions (c : Contents W) (m : Monitor W) : MonitorOp W → List Nat
  | addWorkspaceAt idx => [idx]
  | addColumn workspaceIdx _ activate => m.windowInsertions workspaceIdx activate
  | addTile _ target activate allow => m.tileInsertions target (allow && activate.mapSmart false)
  | moveToWorkspaceUp focus => m.moveInsertions c (m.activeWorkspaceIdx - 1) focus
  | moveToWorkspaceDown focus =>
      m.moveInsertions c (min (m.activeWorkspaceIdx + 1) (m.workspaces.length - 1)) focus
  | moveToWorkspace window idx activate => m.moveToInsertions c window idx activate
  | moveColumnToWorkspaceUp activate =>
      m.columnInsertions c (m.activeWorkspaceIdx - 1) activate
        (m.moveInsertions c (m.activeWorkspaceIdx - 1) activate)
  | moveColumnToWorkspaceDown activate =>
      m.columnInsertions c (min (m.activeWorkspaceIdx + 1) (m.workspaces.length - 1)) activate
        (m.moveInsertions c (min (m.activeWorkspaceIdx + 1) (m.workspaces.length - 1)) activate)
  | moveColumnToWorkspace idx activate =>
      m.columnInsertions c (min idx (m.workspaces.length - 1)) activate
        (m.moveToInsertions c none idx (if activate then .smart else .no))
  | moveDownOrToWorkspaceDown =>
      if m.workspaces[m.activeWorkspaceIdx]?.any c.movedInside then []
      else m.moveInsertions c (min (m.activeWorkspaceIdx + 1) (m.workspaces.length - 1)) true
  | moveUpOrToWorkspaceUp =>
      if m.workspaces[m.activeWorkspaceIdx]?.any c.movedInside then []
      else m.moveInsertions c (m.activeWorkspaceIdx - 1) true
  | updateConfig baseOptions => m.configInsertions baseOptions
  | updateLayoutConfig layoutConfig =>
      if m.layoutConfig = layoutConfig then []
      else { m with layoutConfig := layoutConfig }.configInsertions m.baseOptions
  | _ => []

/-- No workspace comes between the gesture in progress and the active workspace. -/
def Steady (c : Contents W) (m : Monitor W) (op : MonitorOp W) : Prop :=
  ∀ i ∈ op.insertions c m, m.Level i

instance (c : Contents W) (m : Monitor W) (op : MonitorOp W) : Decidable (op.Steady c m) :=
  inferInstanceAs (Decidable (∀ i ∈ op.insertions c m, m.Level i))

end MonitorOp

/-! ## Steps -/

namespace Monitor

theorem new_switch (output : Output) (workspaces : List (Workspace W)) (id : Option WorkspaceId)
    (baseOptions : Options) (layoutConfig : Option LayoutPart) (n : Nat) :
    Yields (Monitor.new output workspaces id baseOptions layoutConfig) n fun m _ =>
      m.workspaceSwitch = none :=
  yields_require_bind fun _ => Yields.bind (fun _ _ _ => trivial) fun _ _ _ =>
    yields_fresh_bind (yields_pure rfl)

/-- Where the gesture in progress began. -/
def gestureCenter (m : Monitor W) : Option Nat :=
  match m.workspaceSwitch with
  | some (.gesture g) => some g.centerIdx
  | _ => none

theorem InSync.gestureCenter_eq {m : Monitor W} (h : m.InSync) {idx : Nat}
    (hcenter : m.gestureCenter = some idx) : idx = m.activeWorkspaceIdx := by
  rw [gestureCenter] at hcenter
  split at hcenter
  · next g hg =>
    rw [InSync, hg] at h
    rw [← Option.some.inj hcenter]
    exact h
  · cases hcenter

variable [DecidableEq W] {m : Monitor W}

/-- From a monitor that is in sync an operation leads to one that is exactly where it is
    steady. -/
theorem run_inSync_iff (c : Contents W) (h : m.InSync) (op : MonitorOp W) (n : Nat) :
    Yields (op.run c m) n fun m' _ => (m'.InSync ↔ op.Steady c m) := by
  have hkeeps : ∀ {x : Counted (Monitor W)}, op.insertions c m = [] →
      (Yields x n fun m' _ => m'.InSync) → Yields x n fun m' _ => (m'.InSync ↔ op.Steady c m) := by
    intro x hnone hx
    refine hx.mono fun m' _ h' => iff_of_true h' fun i hi => ?_
    rw [hnone] at hi
    cases hi
  have hpure : ∀ {m' : Monitor W}, op.insertions c m = [] → m'.InSync →
      Yields (pure m' : Counted (Monitor W)) n fun m' _ => (m'.InSync ↔ op.Steady c m) :=
    fun hnone h' => hkeeps hnone (yields_pure h')
  cases op with
  | addWorkspaceAt idx =>
    refine (addWorkspaceAt_yields m idx n).mono ?_
    rintro m' _ ⟨_, hactive, hswitch⟩
    rw [inSync_congr hactive hswitch, carry_inSync_iff h]
    simp [MonitorOp.Steady, MonitorOp.insertions]
  | addColumn workspaceIdx column activate =>
    exact addWindows_inSync_iff h workspaceIdx column activate n
  | addTile tile target activate allow => exact addTile_inSync_iff h tile target activate allow n
  | addTileToColumn workspaceIdx tile activate allow =>
    exact hkeeps rfl (addTileToColumn_inSync h workspaceIdx tile activate allow n)
  | activateWorkspace idx => exact hkeeps rfl (activateWorkspace_inSync h idx n)
  | cleanUpWorkspaces => exact hkeeps rfl (cleanUpWorkspaces_inSync m n)
  | unnameWorkspace id =>
    exact hkeeps rfl ((unnameWorkspace_inSync h id n).bind fun _ _ h' => yields_pure h')
  | removeWorkspaceByIdx idx =>
    exact hkeeps rfl ((removeWorkspaceByIdx_inSync m idx n).bind fun _ _ h' => yields_pure h')
  | insertWorkspace ws idx activate =>
    exact hkeeps rfl (insertWorkspace_inSync m ws idx activate n)
  | appendWorkspaces workspaces => exact hkeeps rfl (appendWorkspaces_inSync h workspaces n)
  | moveToWorkspaceUp focus => exact moveActiveTileTo_inSync_iff c h _ focus n
  | moveToWorkspaceDown focus => exact moveActiveTileTo_inSync_iff c h _ focus n
  | moveToWorkspace window idx activate => exact moveToWorkspace_inSync_iff c h window idx activate n
  | moveColumnToWorkspaceUp activate | moveColumnToWorkspaceDown activate =>
    exact moveActiveColumnTo_inSync_iff c h _ activate (moveActiveTileTo_inSync_iff c h _ activate n)
  | moveColumnToWorkspace idx activate =>
    exact moveActiveColumnTo_inSync_iff c h _ activate (moveToWorkspace_inSync_iff c h none idx _ n)
  | switchWorkspaceUp => exact hkeeps rfl (switchWorkspaceUp_inSync h n)
  | switchWorkspaceDown => exact hkeeps rfl (switchWorkspaceDown_inSync h n)
  | switchWorkspace idx => exact hkeeps rfl (switchWorkspace_inSync h idx n)
  | switchWorkspacePrevious => exact hkeeps rfl (switchWorkspacePrevious_inSync h n)
  | switchWorkspaceAutoBackAndForth idx =>
    exact hkeeps rfl (switchWorkspaceAutoBackAndForth_inSync h idx n)
  | moveDownOrToWorkspaceDown | moveUpOrToWorkspaceUp =>
    refine yields_bounds_bind fun ws hws => ?_
    rw [MonitorOp.Steady, MonitorOp.insertions, hws, Option.any_some]
    refine yields_ite (fun hmoved => yields_pure ?_) fun hmoved => ?_
    · simpa [hmoved] using h
    · rw [if_neg hmoved]
      exact moveActiveTileTo_inSync_iff c h _ true n
  | focusWindowOrWorkspaceDown => exact hkeeps rfl (focusWindowOrWorkspaceDown_inSync c h n)
  | focusWindowOrWorkspaceUp => exact hkeeps rfl (focusWindowOrWorkspaceUp_inSync c h n)
  | advanceAnimations => exact hkeeps rfl (advanceAnimations_inSync c h n)
  | updateConfig baseOptions => exact updateConfig_inSync_iff h baseOptions n
  | updateLayoutConfig layoutConfig => exact updateLayoutConfig_inSync_iff h layoutConfig n
  | moveWorkspaceDown => exact hkeeps rfl (moveWorkspaceDown_inSync h n)
  | moveWorkspaceUp => exact hkeeps rfl (moveWorkspaceUp_inSync h n)
  | moveWorkspaceToIdx oldIdx newIdx => exact hkeeps rfl (moveWorkspaceToIdx_inSync h oldIdx newIdx n)
  | workspaceSwitchGestureBegin isTouchpad => exact hpure rfl rfl
  | dndScrollGestureBegin => exact hpure rfl (dndScrollGestureBegin_inSync c h)
  | workspaceSwitchGestureUpdate isTouchpad excess =>
    exact hkeeps rfl ((workspaceSwitchGestureUpdate_inSync c h isTouchpad excess n).bind
      fun _ _ h' => yields_pure h')
  | dndScrollGestureScroll => exact hkeeps rfl (dndScrollGestureScroll_inSync c h n)
  | workspaceSwitchGestureEnd isTouchpad =>
    exact hkeeps rfl ((workspaceSwitchGestureEnd_inSync c h isTouchpad n).bind
      fun _ _ h' => yields_pure h')
  | dndScrollGestureEnd => exact hkeeps rfl (dndScrollGestureEnd_inSync c h n)
  | setWorkspace idx ws => exact hpure rfl (h.of_eq rfl rfl)
  | removeWindowAt window idx => exact hkeeps rfl (removeWindowAt_inSync window h idx n)
  | reclaim output =>
    exact hkeeps rfl ((reclaim_inSync output h n).bind fun _ _ h' => yields_pure h')
  | setOverview isOpen => exact hpure rfl (h.of_eq rfl rfl)

/-! ## Runs -/

/-- The monitors a new one may come to by operations that are `allowed` where they are
    called.  In between, other monitors may have taken any number of new identities. -/
inductive Reached (allowed : Contents W → Monitor W → MonitorOp W → Prop) : Monitor W → Prop where
  | new {output : Output} {workspaces : List (Workspace W)} {id : Option WorkspaceId}
      {baseOptions : Options} {layoutConfig : Option LayoutPart} {n n' : Nat} {m : Monitor W}
      (h : Monitor.new output workspaces id baseOptions layoutConfig n = .ok (m, n')) :
      Reached allowed m
  | step {m m' : Monitor W} {n n' : Nat} (c : Contents W) {op : MonitorOp W}
      (h : Reached allowed m) (hallowed : allowed c m op) (hrun : op.run c m n = .ok (m', n')) :
      Reached allowed m'

theorem Reached.inSync (h : Reached (fun c m op => MonitorOp.Steady c m op) m) : m.InSync := by
  induction h with
  | new h => exact inSync_of_none (new_switch _ _ _ _ _ _ _ _ h)
  | step c _ hsteady hrun ih => exact (run_inSync_iff c ih _ _ _ _ hrun).mpr hsteady

/-- In a run whose operations are steady the switch leads to the active workspace, or
    began there, in every state, and the first operation that is not steady ends that. -/
theorem Reached.switch_in_sync_iff (h : Reached (fun c m op => MonitorOp.Steady c m op) m) :
    m.InSync ∧ ∀ (c : Contents W) (op : MonitorOp W) (n n' : Nat) (m' : Monitor W),
      op.run c m n = .ok (m', n') → (m'.InSync ↔ op.Steady c m) :=
  ⟨h.inSync, fun c op n _ _ hrun => run_inSync_iff c h.inSync op n _ _ hrun⟩

/-- One steady operation after the other. -/
def runSteady (c : Contents W) : List (MonitorOp W) → Monitor W → Counted (Monitor W)
  | [], m => pure m
  | op :: ops, m => do
      require (op.Steady c m)
      let m ← op.run c m
      runSteady c ops m

theorem Reached.runSteady (c : Contents W) : ∀ (ops : List (MonitorOp W)) {m : Monitor W} (n : Nat),
    Reached (fun c m op => MonitorOp.Steady c m op) m →
    Yields (runSteady c ops m) n fun m' _ => Reached (fun c m op => MonitorOp.Steady c m op) m'
  | [], _, _, h => yields_pure h
  | op :: ops, m, n, h => by
      refine yields_require_bind fun hsteady => ?_
      have hstep : Yields (op.run c m) n fun m' _ =>
          Reached (fun c m op => MonitorOp.Steady c m op) m' :=
        fun _ _ hrun => h.step c (of_decide_eq_true hsteady) hrun
      exact hstep.bind fun m₁ n₁ h₁ => Reached.runSteady c ops n₁ h₁

theorem Reached.of_steady (output : Output) (baseOptions : Options) (c : Contents W)
    (ops : List (MonitorOp W)) :
    Yields (Monitor.new output [] none baseOptions none >>= Monitor.runSteady c ops) 0 fun m _ =>
      Reached (fun c m op => MonitorOp.Steady c m op) m := by
  have hnew : Yields (Monitor.new output [] none baseOptions none) 0 fun (m : Monitor W) _ =>
      Reached (fun c m op => MonitorOp.Steady c m op) m := fun _ _ h => .new h
  exact hnew.bind fun m₁ n₁ h₁ => Reached.runSteady c ops n₁ h₁

/-- A window opens on the last workspace while a gesture is in progress, and a workspace
    comes at the top. -/
theorem switch_in_sync_gesture : ∃ m : Monitor Nat,
    Reached (fun c m op => MonitorOp.Steady c m op) m ∧ m.InSync ∧ m.activeWorkspaceIdx = 1 ∧
      m.workspaceSwitch.isSome := by
  have hreached := Reached.of_steady (Layout.plainOutput 0 "A") ⟨false⟩
    (Layout.quiet (W := Nat)).toContents
    [.workspaceSwitchGestureBegin true, .addTile 7 .auto .no true, .addWorkspaceAt 0]
  have hends : ∃ m n, (Monitor.new (Layout.plainOutput 0 "A") [] none ⟨false⟩ none >>=
      Monitor.runSteady (Layout.quiet (W := Nat)).toContents
        [.workspaceSwitchGestureBegin true, .addTile 7 .auto .no true, .addWorkspaceAt 0]) 0 =
      .ok (m, n) ∧ m.activeWorkspaceIdx = 1 ∧ m.workspaceSwitch.isSome := ⟨_, _, rfl, rfl, rfl⟩
  obtain ⟨m, n, hrun, hactive, hswitch⟩ := hends
  have hm := hreached m n hrun
  exact ⟨m, hm, hm.switch_in_sync_iff.1, hactive, hswitch⟩

/-- The only workspace of a monitor is pulled down past its end as a window opens on it. -/
theorem gesture_off_center : ∃ (l : Layout Nat) (n : Nat),
    Layout.Reachable Layout.Proper ⟨true⟩ [] l n ∧ ¬ ∀ m ∈ l.monitors, m.InSync := by
  obtain ⟨l, n, hl, hq⟩ := Layout.exists_reachable ⟨true⟩ []
    [(Layout.quiet, .addOutput (Layout.plainOutput 0 "A") none),
      (Layout.quiet, .workspaceSwitchGestureBegin (Layout.plainOutput 0 "A") true),
      (Layout.quiet, .workspaceSwitchGestureUpdate true (-1 / 50)),
      (Layout.quiet, .addWindow 7 .auto .yes)]
    (fun l => l.monitors.any fun m => m.activeWorkspaceIdx == 1 && m.gestureCenter == some 0)
    Layout.proper_of_check (by decide +kernel)
  refine ⟨l, n, hl, fun hall => ?_⟩
  obtain ⟨m, hm, hm'⟩ := List.any_eq_true.mp hq
  rw [Bool.and_eq_true, beq_iff_eq, beq_iff_eq] at hm'
  have hcenter := (hall m hm).gestureCenter_eq hm'.2
  omega

end Monitor

end Cidre.Workspaces
