/-
  Cidre.Workspaces.LayoutRun

  Runs of the layout: any sequence of its public operations, each with what it
  reads.
-/

import Cidre.Workspaces.Layout

namespace Cidre.Workspaces

open Cidre.Counter

/-! ## Operations -/

/-- The public operations that do more than rearrange a workspace. -/
inductive Op (W : Type) where
  | addOutput (output : Output) (layoutConfig : Option LayoutPart)
  | removeOutput (output : Output)
  | focusOutput (output : Output)
  | addWindow (window : W) (target : AddWindowTarget W) (activate : ActivateWindow)
  | removeWindow (window : W)
  | activateWindow (window : W)
  | moveToWorkspace (window : Option W) (idx : Nat) (activate : ActivateWindow)
  | moveToWorkspaceUp (focus : Bool)
  | moveToWorkspaceDown (focus : Bool)
  | moveColumnToWorkspace (idx : Nat) (activate : Bool)
  | moveColumnToWorkspaceUp (activate : Bool)
  | moveColumnToWorkspaceDown (activate : Bool)
  | moveDownOrToWorkspaceDown
  | moveUpOrToWorkspaceUp
  | moveToOutput (window : Option W) (output : Output) (targetWsIdx : Option Nat)
      (activate : ActivateWindow)
  | moveColumnToOutput (output : Output) (targetWsIdx : Option Nat) (activate : Bool)
  | moveColumnOrToOutput (output : Output)
  | addColumnByIdx (monitorIdx workspaceIdx : Nat) (column : List W) (activate : Bool)
  | focusOrOutput (output : Output)
  | focusWindowOrWorkspaceDown
  | focusWindowOrWorkspaceUp
  | switchWorkspaceUp
  | switchWorkspaceDown
  | switchWorkspace (idx : Nat)
  | switchWorkspaceAutoBackAndForth (idx : Nat)
  | switchWorkspacePrevious
  | ensureNamedWorkspaceOnActiveMonitor (name : String)
  | ensureNamedWorkspaceOnMonitor (name : String) (outputName : Option String)
  | ensureNamedWorkspace (config : WorkspaceConfig)
  | setWorkspaceName (name : String) (reference : Option WorkspaceReference)
  | unsetWorkspaceName (reference : Option WorkspaceReference)
  | unnameWorkspaceById (id : WorkspaceId)
  | moveWorkspaceDown
  | moveWorkspaceUp
  | moveWorkspaceToIdx (reference : Option (Option Output × Nat)) (newIdx : Nat)
  | moveWorkspaceToOutput (output : Output)
  | moveWorkspaceToOutputById (oldIdx : Nat) (oldOutput : Option Output) (newOutput : Output)
  | toggleOverview
  | openOverview
  | closeOverview
  | toggleOverviewToWorkspace (wsIdx : Nat)
  | overviewGestureBegin
  | overviewGestureEnd
  | updateConfig (options : Options)
  | updateLayoutConfig (output : Output) (layoutConfig : Option LayoutPart)
  | workspaceSwitchGestureBegin (output : Output) (isTouchpad : Bool)
  | workspaceSwitchGestureUpdate (isTouchpad : Bool) (excess : Rat)
  | workspaceSwitchGestureEnd (isTouchpad : Option Bool)
  | dndUpdate (output : Output)
  | dndEnd
  | interactiveMoveBegin (window : W) (output : Output)
  | interactiveMoveUpdate (window : W) (output : Output) (isFloating : Bool)
  | interactiveMoveEnd (window : W)
  | toggleMovedFloating
  | advanceAnimations
  | refresh
  /-- an operation on the inside of a workspace -/
  | inside

variable {W : Type}

namespace Op

/-- A call whose answer is for its caller. -/
def unanswered {β : Type} (x : Counted (Layout W × β)) : Counted (Layout W) := do
  let p ← x
  return p.1

theorem yields_unanswered {β : Type} {x : Counted (Layout W × β)} {n : Nat}
    {post : Layout W → Nat → Prop} (h : Yields x n fun p n' => post p.1 n') :
    Yields (unanswered x) n post :=
  h.bind fun _ _ hp => yields_pure hp

theorem safe_unanswered {β : Type} {x : Counted (Layout W × β)} {n : Nat}
    {post : Layout W → Nat → Prop} (h : Safe x n fun p n' => post p.1 n') :
    Safe (unanswered x) n post :=
  h.bind fun _ _ hp => safe_pure hp

variable [DecidableEq W]

def run (c : Readings W) (l : Layout W) : Op W → Counted (Layout W)
  | addOutput output layoutConfig => l.addOutput output layoutConfig
  | removeOutput output => l.removeOutput output
  | focusOutput output => pure (l.focusOutput output)
  | addWindow window target activate => l.addWindow window target activate
  | removeWindow window => unanswered (l.removeWindow c window)
  | activateWindow window => l.activateWindow window
  | moveToWorkspace window idx activate => l.moveToWorkspace c window idx activate
  | moveToWorkspaceUp focus => l.moveToWorkspaceUp c focus
  | moveToWorkspaceDown focus => l.moveToWorkspaceDown c focus
  | moveColumnToWorkspace idx activate => l.moveColumnToWorkspace c idx activate
  | moveColumnToWorkspaceUp activate => l.moveColumnToWorkspaceUp c activate
  | moveColumnToWorkspaceDown activate => l.moveColumnToWorkspaceDown c activate
  | moveDownOrToWorkspaceDown => l.moveDownOrToWorkspaceDown c
  | moveUpOrToWorkspaceUp => l.moveUpOrToWorkspaceUp c
  | moveToOutput window output idx activate => l.moveToOutput c window output idx activate
  | moveColumnToOutput output idx activate => l.moveColumnToOutput c output idx activate
  | moveColumnOrToOutput output => unanswered (l.moveColumnOrToOutput c output)
  | addColumnByIdx monitorIdx workspaceIdx column activate =>
      l.addColumnByIdx monitorIdx workspaceIdx column activate
  | focusOrOutput output => pure (l.focusOrOutput c output).1
  | focusWindowOrWorkspaceDown => l.focusWindowOrWorkspaceDown c
  | focusWindowOrWorkspaceUp => l.focusWindowOrWorkspaceUp c
  | switchWorkspaceUp => l.switchWorkspaceUp
  | switchWorkspaceDown => l.switchWorkspaceDown
  | switchWorkspace idx => l.switchWorkspace idx
  | switchWorkspaceAutoBackAndForth idx => l.switchWorkspaceAutoBackAndForth idx
  | switchWorkspacePrevious => l.switchWorkspacePrevious
  | ensureNamedWorkspaceOnActiveMonitor name =>
      unanswered (l.ensureNamedWorkspaceOnActiveMonitor name)
  | ensureNamedWorkspaceOnMonitor name outputName =>
      unanswered (l.ensureNamedWorkspaceOnMonitor name outputName)
  | ensureNamedWorkspace config => l.ensureNamedWorkspace config
  | setWorkspaceName name reference => l.setWorkspaceName name reference
  | unsetWorkspaceName reference => l.unsetWorkspaceName reference
  | unnameWorkspaceById id => l.unnameWorkspaceById id
  | moveWorkspaceDown => l.moveWorkspaceDown
  | moveWorkspaceUp => l.moveWorkspaceUp
  | moveWorkspaceToIdx reference newIdx => l.moveWorkspaceToIdx reference newIdx
  | moveWorkspaceToOutput output => unanswered (l.moveWorkspaceToOutput output)
  | moveWorkspaceToOutputById oldIdx oldOutput newOutput =>
      unanswered (l.moveWorkspaceToOutputById oldIdx oldOutput newOutput)
  | toggleOverview => pure l.toggleOverview
  | openOverview => pure l.openOverview.1
  | closeOverview => pure l.closeOverview.1
  | toggleOverviewToWorkspace wsIdx => l.toggleOverviewToWorkspace wsIdx
  | overviewGestureBegin => pure l.overviewGestureBegin
  | overviewGestureEnd => pure (l.overviewGestureEnd c)
  | updateConfig options => l.updateConfig options
  | updateLayoutConfig output layoutConfig => l.updateLayoutConfig output layoutConfig
  | workspaceSwitchGestureBegin output isTouchpad =>
      l.workspaceSwitchGestureBegin c output isTouchpad
  | workspaceSwitchGestureUpdate isTouchpad excess =>
      unanswered (l.workspaceSwitchGestureUpdate c isTouchpad excess)
  | workspaceSwitchGestureEnd isTouchpad => unanswered (l.workspaceSwitchGestureEnd c isTouchpad)
  | dndUpdate output => l.dndUpdate c output
  | dndEnd => l.dndEnd c
  | interactiveMoveBegin window output => unanswered (l.interactiveMoveBegin c window output)
  | interactiveMoveUpdate window output isFloating =>
      unanswered (l.interactiveMoveUpdate c window output isFloating)
  | interactiveMoveEnd window => l.interactiveMoveEnd c window
  | toggleMovedFloating => pure l.toggleMovedFloating
  | advanceAnimations => l.advanceAnimations c
  | refresh => l.refresh c
  | inside => pure l

end Op

/-! ## Runs -/

namespace Layout

variable [DecidableEq W]

/-- The layouts, with the counter, that a new one may come to by operations that are
    `allowed` where they are called. -/
inductive Reachable (allowed : Layout W → Op W → Prop) (options : Options)
    (configs : List WorkspaceConfig) : Layout W → Nat → Prop where
  | new {n n' : Nat} {l : Layout W} (h : Layout.new options configs n = .ok (l, n')) :
      Reachable allowed options configs l n'
  | step {l l' : Layout W} {n n' : Nat} (c : Readings W) {op : Op W}
      (h : Reachable allowed options configs l n) (hallowed : allowed l op)
      (hrun : op.run c l n = .ok (l', n')) : Reachable allowed options configs l' n'

/-- What is reached by operations that are allowed is reached by those that are allowed
    under weaker rules. -/
theorem Reachable.mono {allowed allowed' : Layout W → Op W → Prop} {options : Options}
    {configs : List WorkspaceConfig} {l : Layout W} {n : Nat}
    (h : Reachable allowed options configs l n) (hallowed : ∀ l op, allowed l op → allowed' l op) :
    Reachable allowed' options configs l n := by
  induction h with
  | new h => exact .new h
  | step c _ hop hrun ih => exact ih.step c (hallowed _ _ hop) hrun

/-- Nothing is read. -/
def quiet : Readings W where
  activeTile := fun _ => none
  activeColumn := fun _ => []
  floatingIsActive := fun _ => false
  movedInside := fun _ => false
  renderIdx := fun _ => 0
  gesturePos := fun _ => 0
  scrolls := fun _ => false
  switchDone := fun _ => false
  insertPosition := fun _ => .newAt 0
  insertInColumn := fun _ => false
  farEnough := false
  dndHold := fun _ => none
  overviewEnd := false

/-- One operation after the other, as long as they are allowed. -/
def runAll (allowed : Layout W → Op W → Bool) :
    List (Readings W × Op W) → Layout W → Counted (Layout W)
  | [], l => pure l
  | (c, op) :: ops, l => do
      require (allowed l op)
      let l ← op.run c l
      runAll allowed ops l

theorem Reachable.runAll {allowed : Layout W → Op W → Prop} {check : Layout W → Op W → Bool}
    (hcheck : ∀ l op, check l op = true → allowed l op) {options : Options}
    {configs : List WorkspaceConfig} : ∀ (ops : List (Readings W × Op W)) {l : Layout W} {n : Nat},
    Reachable allowed options configs l n →
    Yields (runAll check ops l) n (Reachable allowed options configs)
  | [], _, _, h => yields_pure h
  | (c, op) :: ops, l, n, h => by
      refine yields_require_bind fun hallowed => ?_
      have hstep : Yields (op.run c l) n (Reachable allowed options configs) :=
        fun l' n' hrun => h.step c (hcheck l op hallowed) hrun
      exact hstep.bind fun l' n' h' => Reachable.runAll hcheck ops h'

/-- A new layout comes to one with `q`, which is told the counter too. -/
def endsAt (check : Layout W → Op W → Bool) (options : Options) (configs : List WorkspaceConfig)
    (ops : List (Readings W × Op W)) (q : Layout W → Nat → Bool) : Bool :=
  match (Layout.new options configs >>= runAll check ops) 0 with
  | .ok (l, n) => q l n
  | .error _ => false

/-- A new layout comes to one with `q`. -/
def endsWith (check : Layout W → Op W → Bool) (options : Options) (configs : List WorkspaceConfig)
    (ops : List (Readings W × Op W)) (q : Layout W → Bool) : Bool :=
  match (Layout.new options configs >>= runAll check ops) 0 with
  | .ok (l, _) => q l
  | .error _ => false

theorem exists_reachable_at (options : Options) (configs : List WorkspaceConfig)
    (ops : List (Readings W × Op W)) (q : Layout W → Nat → Bool)
    {allowed : Layout W → Op W → Prop} {check : Layout W → Op W → Bool}
    (hcheck : ∀ l op, check l op = true → allowed l op)
    (h : endsAt check options configs ops q = true) :
    ∃ l n, Reachable allowed options configs l n ∧ q l n = true := by
  have hyields : Yields (Layout.new options configs >>= Layout.runAll check ops) 0
      (Reachable allowed options configs) := by
    have hnew : Yields (Layout.new options configs) 0 (Reachable allowed options configs) :=
      fun _ _ h => .new h
    exact hnew.bind fun _ _ h => Reachable.runAll hcheck ops h
  rw [endsAt] at h
  split at h
  · next l n hrun => exact ⟨l, n, hyields l n hrun, h⟩
  · cases h

theorem exists_reachable (options : Options) (configs : List WorkspaceConfig)
    (ops : List (Readings W × Op W)) (q : Layout W → Bool) {allowed : Layout W → Op W → Prop}
    {check : Layout W → Op W → Bool} (hcheck : ∀ l op, check l op = true → allowed l op)
    (h : endsWith check options configs ops q = true) :
    ∃ l n, Reachable allowed options configs l n ∧ q l = true :=
  exists_reachable_at options configs ops (fun l _ => q l) hcheck h

end Layout

end Cidre.Workspaces
