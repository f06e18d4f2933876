/-
  Cidre.Workspaces.Layout

  The monitors and their workspaces (`src/layout/mod.rs`): outputs come and go,
  windows are added, removed and moved, workspaces are named and moved.

  What a call reads of the layouts inside the workspaces, of the pointer and of the
  clock comes with it, as `Readings`.  A window that is being moved interactively
  is in no workspace.
-/

import Cidre.Workspaces.Monitor

namespace Cidre.Workspaces

open Cidre.Counter
open Cidre.Panic (Vec.insert Vec.remove)

/-! ## Data -/

inductive MonitorSet (W : Type) where
  /-- At least one output is connected. -/
  | normal (monitors : List (Monitor W)) (primaryIdx activeMonitorIdx : Nat)
  /-- No outputs are connected, and these are the workspaces. -/
  | noOutputs (workspaces : List (Workspace W))

inductive InteractiveMove (W : Type) where
  /-- the window is still in its workspace -/
  | starting (window : W)
  | moving (window : W) (output : Output) (isFloating : Bool)

structure Layout (W : Type) where
  monitorSet : MonitorSet W
  /-- by the connector of a removed monitor -/
  lastActiveWorkspaceId : String → Option WorkspaceId
  interactiveMove : Option (InteractiveMove W)
  /-- the output a drag-and-drop is on -/
  dnd : Option Output
  overviewOpen : Bool
  options : Options

inductive AddWindowTarget (W : Type) where
  | auto
  | output (output : Output)
  | workspace (id : WorkspaceId)
  | nextTo (window : W)

inductive WorkspaceReference where
  | id (id : WorkspaceId)
  | index (index : Nat)
  | name (name : String)
deriving DecidableEq, Repr

structure WorkspaceConfig where
  name : String
  openOnOutput : Option String

inductive DndHoldTarget (W : Type) where
  | window (window : W)
  | workspace (id : WorkspaceId)

/-- What a call reads. -/
structure Readings (W : Type) extends Contents W where
  /-- `insert_position` at the pointer -/
  insertPosition : Monitor W → InsertWorkspace
  /-- `scrolling_insert_position` is inside a column -/
  insertInColumn : Workspace W → Bool
  /-- the pointer has gone far enough for the interactive move to start -/
  farEnough : Bool
  /-- what the drag-and-drop has been held over for long enough -/
  dndHold : Monitor W → Option (DndHoldTarget W)
  /-- the overview is open where the gesture ends -/
  overviewEnd : Bool

/-- Where a workspace is: the monitor, and the index on its strip.  Without
    outputs, the workspaces are those of a monitor 0. -/
structure Place where
  mon : Nat
  idx : Nat
deriving DecidableEq, Repr

variable {W : Type}

namespace Workspace

/-- `new_with_config` -/
def newWithConfig (output : Output) (config : WorkspaceConfig) (id : WorkspaceId) :
    Workspace W where
  id := id
  name := some config.name
  originalOutput := config.openOnOutput.getD (OutputId.new output)
  windows := []

/-- `new_with_config_no_outputs` -/
def newWithConfigNoOutputs (config : WorkspaceConfig) (id : WorkspaceId) : Workspace W where
  id := id
  name := some config.name
  originalOutput := config.openOnOutput.getD ""
  windows := []

/-- `add_tile`, without outputs -/
def addTile (ws : Workspace W) (window : W) : Workspace W :=
  { ws with windows := ws.windows ++ [window] }

def rename (ws : Workspace W) (name : String) : Workspace W := { ws with name := some name }

end Workspace

namespace Layout

/-! ## Parts -/

variable [DecidableEq W] (c : Readings W) (l : Layout W)

def monitors : List (Monitor W) :=
  match l.monitorSet with
  | .normal monitors _ _ => monitors
  | .noOutputs _ => []

/-- The strips of workspaces, monitor by monitor. -/
def strips : List (List (Workspace W)) :=
  match l.monitorSet with
  | .normal monitors _ _ => monitors.map Monitor.workspaces
  | .noOutputs workspaces => [workspaces]

def workspaces : List (Workspace W) := l.strips.flatten

def activeMonitor : Option (Monitor W) :=
  match l.monitorSet with
  | .normal monitors _ active => monitors[active]?
  | .noOutputs _ => none

def activeWorkspace : Option (Workspace W) := do
  let m ← l.activeMonitor
  m.workspaces[m.activeWorkspaceIdx]?

/-- A call on the monitor at `idx`. -/
def onMonitor (idx : Nat) (f : Monitor W → Counted (Monitor W)) : Counted (Layout W) :=
  match l.monitorSet with
  | .normal monitors primary active => do
      let m ← bounds monitors[idx]?
      let m ← f m
      return { l with monitorSet := .normal (monitors.set idx m) primary active }
  | .noOutputs _ => pure l

def onActiveMonitor (f : Monitor W → Counted (Monitor W)) : Counted (Layout W) :=
  match l.monitorSet with
  | .normal _ _ active => l.onMonitor active f
  | .noOutputs _ => pure l

/-- A call on each of the monitors. -/
def onMonitors (f : Monitor W → Counted (Monitor W)) : Counted (Layout W) :=
  match l.monitorSet with
  | .normal monitors primary active => do
      let monitors ← each f monitors
      return { l with monitorSet := .normal monitors primary active }
  | .noOutputs _ => pure l

def setActiveMonitor (idx : Nat) : Layout W :=
  match l.monitorSet with
  | .normal monitors primary _ => { l with monitorSet := .normal monitors primary idx }
  | .noOutputs _ => l

def monitorIdx (output : Output) : Option Nat :=
  l.monitors.findIdx? fun m => m.output == output

/-! ## Looking up -/

/-- The first workspace with `p`. -/
def placeWhere (p : Workspace W → Bool) : List (List (Workspace W)) → Option Place
  | [] => none
  | strip :: strips =>
      match strip.findIdx? p with
      | some idx => some ⟨0, idx⟩
      | none => (placeWhere p strips).map fun place => { place with mon := place.mon + 1 }

def workspaceAt (place : Place) : Option (Workspace W) := do
  let strip ← l.strips[place.mon]?
  strip[place.idx]?

def findWorkspaceById (id : WorkspaceId) : Option Place :=
  placeWhere (fun ws => ws.id == id) l.strips

def findWorkspaceByName (name : String) : Option Place :=
  placeWhere (fun ws => ws.isNamed name) l.strips

def activePlace : Option Place :=
  match l.monitorSet with
  | .normal monitors _ active => monitors[active]?.map fun m => ⟨active, m.activeWorkspaceIdx⟩
  | .noOutputs _ => none

def findWorkspaceByRef : WorkspaceReference → Option Place
  | .index index =>
      match l.monitorSet with
      | .normal monitors _ active => do
          let m ← monitors[active]?
          if index - 1 < m.workspaces.length then some ⟨active, index - 1⟩ else none
      | .noOutputs _ => none
  | .name name => l.findWorkspaceByName name
  | .id id => l.findWorkspaceById id

/-- The workspace an operation is about: the one referred to, or the active one. -/
def findWorkspace (reference : Option WorkspaceReference) : Option Place :=
  match reference with
  | some reference => l.findWorkspaceByRef reference
  | none => l.activePlace

def findWindow (window : W) : Option Place :=
  placeWhere (fun ws => ws.hasWindow window) l.strips

/-- The window is being moved interactively. -/
def isMoving (window : W) : Bool :=
  match l.interactiveMove with
  | some (.moving moved _ _) => window == moved
  | _ => false

/-- An operation on `window`, or on the active one, has nothing to do while that
    window is being moved. -/
def movingInstead (window : Option W) : Bool :=
  match l.interactiveMove with
  | some (.moving moved _ _) => window.isNone || window == some moved
  | _ => false

/-! ## Outputs -/

/-- In the middle of the loop of `add_output`. -/
structure Reclaim (W : Type) where
  primary : Monitor W
  workspaces : List (Workspace W)
  stoppedPrimaryWsSwitch : Bool

/-- The workspace at `i` goes to its own output; an empty one is dropped.  Taken
    from the end, in front of those taken before, they are in order. -/
def reclaimAt (output : Output) (i : Nat) (r : Reclaim W) : Counted (Reclaim W) := do
  let ws ← bounds r.primary.workspaces[i]?
  if ws.originalOutput.isOf output then
    let (ws, workspaces) ← bounds (Vec.remove r.primary.workspaces i)
    let active := r.primary.activeWorkspaceIdx
    return {
      primary := { r.primary with
        workspaces := workspaces
        workspaceSwitch := none
        activeWorkspaceIdx :=
          if i ≤ active ∧ ¬ (r.primary.above = true ∧ active = 1) then active - 1 else active }
      workspaces := if ws.hasWindowsOrName then ws :: r.workspaces else r.workspaces
      stoppedPrimaryWsSwitch := r.stoppedPrimaryWsSwitch || r.primary.workspaceSwitch.isSome }
  else return r

def reclaimFrom (output : Output) : Nat → Reclaim W → Counted (Reclaim W)
  | 0, r => pure r
  | i + 1, r => do
      let r ← reclaimAt output i r
      reclaimFrom output i r

/-- The workspaces `output` gets from the primary monitor, and what that keeps. -/
def reclaim (output : Output) (primary : Monitor W) :
    Counted (List (Workspace W) × Monitor W) := do
  let r ← reclaimFrom output primary.workspaces.length ⟨primary, [], false⟩
  let primary ← applyIf (r.stoppedPrimaryWsSwitch ||
    (r.primary.above && r.primary.workspaces.length == 2)) Monitor.cleanUpWorkspaces r.primary
  return (r.workspaces, primary)

/-- The monitor of a new output. -/
def newMonitor (output : Output) (workspaces : List (Workspace W))
    (layoutConfig : Option LayoutPart) : Counted (Monitor W) := do
  let m ← Monitor.new output workspaces (l.lastActiveWorkspaceId output.name.connector) l.options
    layoutConfig
  return { m with overviewOpen := l.overviewOpen }

def forgetActive (output : Output) : String → Option WorkspaceId :=
  Function.update l.lastActiveWorkspaceId output.name.connector none

def addOutput (output : Output) (layoutConfig : Option LayoutPart) : Counted (Layout W) :=
  match l.monitorSet with
  | .normal monitors primaryIdx active => do
      let primary ← bounds monitors[primaryIdx]?
      let (workspaces, primary) ← reclaim output primary
      let m ← l.newMonitor output workspaces layoutConfig
      return { l with
        monitorSet := .normal (monitors.set primaryIdx primary ++ [m]) primaryIdx active
        lastActiveWorkspaceId := l.forgetActive output }
  | .noOutputs workspaces => do
      let m ← l.newMonitor output workspaces layoutConfig
      return { l with
        monitorSet := .normal [m] 0 0
        lastActiveWorkspaceId := l.forgetActive output }

/-- An index of the monitors once the one at `idx` is removed. -/
def idxAfterRemoval (idx i : Nat) : Nat := if idx ≤ i then i - 1 else i

def removeOutput (output : Output) : Counted (Layout W) :=
  match l.monitorSet with
  | .normal monitors primaryIdx active => do
      let idx ← lookup (monitors.findIdx? fun m => m.output == output)
      let (m, monitors) ← bounds (Vec.remove monitors idx)
      let ws ← bounds m.workspaces[m.activeWorkspaceIdx]?
      let lastActive := Function.update l.lastActiveWorkspaceId m.output.name.connector (some ws.id)
      if monitors.isEmpty then
        return { l with
          monitorSet := .noOutputs m.intoWorkspaces
          lastActiveWorkspaceId := lastActive }
      else
        let primaryIdx := idxAfterRemoval idx primaryIdx
        let primary ← bounds monitors[primaryIdx]?
        let primary ← primary.appendWorkspaces m.intoWorkspaces
        return { l with
          monitorSet := .normal (monitors.set primaryIdx primary) primaryIdx
            (idxAfterRemoval idx active)
          lastActiveWorkspaceId := lastActive }
  | .noOutputs _ => lookup none

def focusOutput (output : Output) : Layout W :=
  match l.monitorIdx output with
  | some idx => l.setActiveMonitor idx
  | none => l

/-! ## Windows -/

/-- The monitor and the target on it of a window to add. -/
def resolveTarget (monitors : List (Monitor W)) (active : Nat) :
    AddWindowTarget W → Counted (Nat × MonitorAddWindowTarget W)
  | .auto => pure (active, .auto)
  | .output output => do
      let idx ← lookup (monitors.findIdx? fun m => m.output == output)
      return (idx, .auto)
  | .workspace id => do
      let idx ← lookup (monitors.findIdx? fun m => m.workspaces.any fun ws => ws.id == id)
      return (idx, .workspace id)
  | .nextTo window =>
      match l.interactiveMove with
      | some (.moving moved output _) =>
          if window = moved then
            pure ((monitors.findIdx? fun m => m.output == output).getD active, .auto)
          else do
            let idx ← lookup (monitors.findIdx? fun m => m.hasWindow window)
            return (idx, .nextTo window)
      | _ => do
          let idx ← lookup (monitors.findIdx? fun m => m.hasWindow window)
          return (idx, .nextTo window)

/-- Without outputs, there may be no workspace at all. -/
def firstWorkspace (workspaces : List (Workspace W)) : Counted (List (Workspace W)) :=
  if workspaces.isEmpty then do
    let id ← fresh
    return [Workspace.newNoOutputs id]
  else pure workspaces

/-- The workspaces without outputs, and the one among them a window is added to. -/
def resolveTargetNoOutputs (workspaces : List (Workspace W)) :
    AddWindowTarget W → Counted (List (Workspace W) × Nat)
  | .auto => do
      let workspaces ← firstWorkspace workspaces
      return (workspaces, 0)
  | .output _ => lookup none
  | .workspace id => do
      let idx ← lookup (workspaces.findIdx? fun ws => ws.id == id)
      return (workspaces, idx)
  | .nextTo window =>
      if l.isMoving window then do
        let workspaces ← firstWorkspace workspaces
        return (workspaces, 0)
      else do
        let idx ← lookup (workspaces.findIdx? fun ws => ws.hasWindow window)
        return (workspaces, idx)

def addWindow (window : W) (target : AddWindowTarget W) (activate : ActivateWindow) :
    Counted (Layout W) :=
  match l.monitorSet with
  | .normal monitors _ active => do
      let (idx, target) ← l.resolveTarget monitors active target
      let l ← l.onMonitor idx fun m => m.addTile window target activate true
      return if activate.mapSmart false then l.setActiveMonitor idx else l
  | .noOutputs workspaces => do
      let (workspaces, idx) ← l.resolveTargetNoOutputs workspaces target
      let ws ← bounds workspaces[idx]?
      return { l with monitorSet := .noOutputs (workspaces.set idx (ws.addTile window)) }

/-- `interactive_move_end` of a move that has not started yet. -/
def cancelMove : Counted (Layout W) :=
  { l with interactiveMove := none }.onMonitors fun m => m.dndScrollGestureEnd c.toContents

/-- A window is removed from the workspace at `idx`, and the strip is tidied. -/
def removeWindowAt (window : W) (idx : Nat) (m : Monitor W) : Counted (Monitor W) := do
  let ws ← bounds m.workspaces[idx]?
  let m := m.setWorkspace idx (ws.removeTile window)
  let drop := !(ws.removeTile window).hasWindowsOrName && idx != m.activeWorkspaceIdx &&
    idx != m.workspaces.length - 1 && m.workspaceSwitch.isNone
  let m := if drop then { m with
      workspaces := m.workspaces.eraseIdx idx
      activeWorkspaceIdx :=
        if idx < m.activeWorkspaceIdx then m.activeWorkspaceIdx - 1 else m.activeWorkspaceIdx }
    else m
  applyIf m.workspaceSwitch.isNone Monitor.mergeEnds m

/-- `remove_window`, of a window that is not being moved interactively. -/
def removeFromWorkspace (window : W) : Counted (Layout W × Bool) :=
  match l.findWindow window with
  | none => pure (l, false)
  | some place =>
      match l.monitorSet with
      | .normal _ _ _ => do
          let l ← l.onMonitor place.mon (removeWindowAt window place.idx)
          return (l, true)
      | .noOutputs workspaces => do
          let ws ← bounds workspaces[place.idx]?
          let ws := ws.removeTile window
          let workspaces := if ws.hasWindowsOrName then workspaces.set place.idx ws
            else workspaces.eraseIdx place.idx
          return ({ l with monitorSet := .noOutputs workspaces }, true)

def removeWindow (window : W) : Counted (Layout W × Bool) :=
  match l.interactiveMove with
  | some (.starting moved) =>
      if moved = window then do
        let l ← l.cancelMove c
        l.removeFromWorkspace window
      else l.removeFromWorkspace window
  | some (.moving moved _ _) =>
      if moved = window then do
        let l ← l.cancelMove c
        return (l, true)
      else l.removeFromWorkspace window
  | none => l.removeFromWorkspace window

/-- The switch is in the middle of a gesture by which the workspace is seen. -/
def seenInGesture (m : Monitor W) (idx : Nat) : Bool :=
  match m.workspaceSwitch with
  | some (.gesture g) => g.currentIdx.floor == (idx : Int) || g.currentIdx.ceil == (idx : Int)
  | _ => false

/-- `activate_window` and `activate_window_without_raising` -/
def activateWindow (window : W) : Counted (Layout W) :=
  if l.isMoving window then pure l
  else
    match l.monitorSet with
    | .noOutputs _ => pure l
    | .normal _ _ _ =>
        match l.findWindow window with
        | none => pure l
        | some place =>
            (l.setActiveMonitor place.mon).onMonitor place.mon fun m =>
              if seenInGesture m place.idx then pure m else m.switchWorkspace place.idx

def moveToWorkspace (window : Option W) (idx : Nat) (activate : ActivateWindow) :
    Counted (Layout W) :=
  if l.movingInstead window then pure l
  else
    match window with
    | none => l.onActiveMonitor fun m => m.moveToWorkspace c.toContents none idx activate
    | some window =>
        match l.monitorSet with
        | .noOutputs _ => pure l
        | .normal monitors _ _ => do
            let mon ← lookup (monitors.findIdx? fun m => m.hasWindow window)
            l.onMonitor mon fun m => m.moveToWorkspace c.toContents (some window) idx activate

/-- The workspace `move_to_output` takes a window from. -/
def sourcePlace (window : Option W) : Counted Place :=
  match window with
  | some window => lookup (l.findWindow window)
  | none => bounds l.activePlace

def moveToOutput (window : Option W) (output : Output) (targetWsIdx : Option Nat)
    (activate : ActivateWindow) : Counted (Layout W) :=
  if l.movingInstead window then pure l
  else
    match l.monitorSet with
    | .noOutputs _ => pure l
    | .normal monitors _ active => do
        let newIdx ← lookup (monitors.findIdx? fun m => m.output == output)
        let new ← bounds monitors[newIdx]?
        let source ← l.sourcePlace window
        let workspaceIdx := targetWsIdx.getD new.activeWorkspaceIdx
        if source.mon = newIdx ∧ source.idx = workspaceIdx then return l
        else if new.workspaces.length ≤ workspaceIdx then return l
        else
          let target ← bounds new.workspaces[workspaceIdx]?
          let m ← bounds monitors[source.mon]?
          let shown ← bounds m.workspaces[m.activeWorkspaceIdx]?
          let activate := activate.mapSmart (window.all fun window =>
            source.mon == active && c.activeTile shown == some window)
          let ws ← bounds m.workspaces[source.idx]?
          match Monitor.takeTile c.toContents ws window with
          | none => return l
          | some (tile, ws) =>
              let l ← l.onMonitor source.mon fun m => pure (m.setWorkspace source.idx ws)
              let l ← l.onMonitor newIdx fun m =>
                m.addTile tile (.workspace target.id) (if activate then .yes else .no) true
              let l := if activate then l.setActiveMonitor newIdx else l
              l.onMonitor source.mon fun m =>
                applyIf m.workspaceSwitch.isNone Monitor.cleanUpWorkspaces m

def addColumnByIdx (monitorIdx workspaceIdx : Nat) (column : List W) (activate : Bool) :
    Counted (Layout W) :=
  match l.monitorSet with
  | .normal _ _ _ => do
      let l ← l.onMonitor monitorIdx fun m => m.addColumn workspaceIdx column activate
      return if activate then l.setActiveMonitor monitorIdx else l
  | .noOutputs _ => lookup none

def moveColumnToOutput (output : Output) (targetWsIdx : Option Nat) (activate : Bool) :
    Counted (Layout W) :=
  match l.monitorSet with
  | .noOutputs _ => pure l
  | .normal monitors _ active => do
      let newIdx ← lookup (monitors.findIdx? fun m => m.output == output)
      let current ← bounds monitors[active]?
      let ws ← bounds current.workspaces[current.activeWorkspaceIdx]?
      if c.floatingIsActive ws then l.moveToOutput c none output none .smart
      else
        match ws.removeActiveColumn c.toContents with
        | none => return l
        | some (column, ws) =>
            let new ← bounds monitors[newIdx]?
            let workspaceIdx :=
              min (targetWsIdx.getD new.activeWorkspaceIdx) (new.workspaces.length - 1)
            let l ← l.onMonitor active fun m => pure (m.setWorkspace m.activeWorkspaceIdx ws)
            l.addColumnByIdx newIdx workspaceIdx column activate

/-- Where the focus, or the column, may move inside the active workspace. -/
def movesInside : Bool := l.activeWorkspace.any c.movedInside

/-- `move_column_left_or_to_output` and `move_column_right_or_to_output` -/
def moveColumnOrToOutput (output : Output) : Counted (Layout W × Bool) :=
  if l.movesInside c then pure (l, false)
  else do
    let l ← l.moveColumnToOutput c output none true
    return (l, true)

/-- `focus_window_up_or_output`, `focus_window_down_or_output`,
    `focus_column_left_or_output` and `focus_column_right_or_output` -/
def focusOrOutput (output : Output) : Layout W × Bool :=
  if l.movesInside c then (l, false) else (l.focusOutput output, true)

/-! ## Names -/

/-- The last workspace of the strip gets a name, and is surrounded; its index. -/
def nameLast (name : String) (m : Monitor W) : Counted (Monitor W × Option Nat) :=
  if m.workspaces = [] then pure (m, none)
  else do
    let ws ← bounds m.workspaces[m.workspaces.length - 1]?
    let m ← applyIf ws.hasWindowsOrName Monitor.addWorkspaceBottom m
    let idx := m.workspaces.length - 1
    let ws ← bounds m.workspaces[idx]?
    let m := m.setWorkspace idx (ws.rename name)
    let top := m.above && idx == 0
    let m ← m.addWorkspaceBottom
    let m ← applyIf top Monitor.addWorkspaceTop m
    return (m, some (if top then idx + 1 else idx))

def nameLastOn (idx : Nat) (name : String) : Counted (Layout W × Option Nat) :=
  match l.monitorSet with
  | .noOutputs _ => pure (l, none)
  | .normal monitors primary active => do
      let m ← bounds monitors[idx]?
      let (m, wsIdx) ← nameLast name m
      return ({ l with monitorSet := .normal (monitors.set idx m) primary active }, wsIdx)

/-- Only the active monitor is searched. -/
def ensureNamedWorkspaceOnActiveMonitor (name : String) : Counted (Layout W × Option Nat) :=
  match l.monitorSet with
  | .noOutputs _ => pure (l, none)
  | .normal monitors _ active => do
      let m ← bounds monitors[active]?
      match m.findNamedWorkspaceIndex name with
      | some idx => return (l, some idx)
      | none => l.nameLastOn active name

def ensureNamedWorkspaceOnMonitor (name : String) (outputName : Option String) :
    Counted (Layout W × Option Nat) :=
  match l.findWorkspaceByName name with
  | some place => pure (l, some place.idx)
  | none =>
      match l.monitorSet with
      | .noOutputs _ => pure (l, none)
      | .normal monitors _ active =>
          let target := (outputName.bind fun name =>
            monitors.findIdx? fun m => m.output.name.connector == name).getD active
          l.nameLastOn target name

/-- The monitor a configured workspace is to be on. -/
def configuredMonitorIdx (monitors : List (Monitor W)) (primaryIdx active : Nat)
    (openOnOutput : Option String) : Nat :=
  match openOnOutput with
  | some name =>
      (monitors.findIdx? fun m => m.output.name.matchesTarget name).getD primaryIdx
  | none => active

def ensureNamedWorkspace (config : WorkspaceConfig) : Counted (Layout W) :=
  if (l.findWorkspaceByName config.name).isSome then pure l
  else
    match l.monitorSet with
    | .normal monitors primaryIdx active => do
        let idx := configuredMonitorIdx monitors primaryIdx active config.openOnOutput
        let id ← fresh
        l.onMonitor idx fun m =>
          m.insertWorkspace (Workspace.newWithConfig m.output config id) 0 false
    | .noOutputs workspaces => do
        let id ← fresh
        return { l with
          monitorSet := .noOutputs (Workspace.newWithConfigNoOutputs config id :: workspaces) }

/-- The end of `set_workspace_name`: the workspace `id` is surrounded if it is at an
    end of the active strip. -/
def surroundNamed (id : WorkspaceId) (m : Monitor W) : Counted (Monitor W) := do
  let m ← applyIf (m.above && m.workspaces.head?.any fun ws => ws.id == id)
    Monitor.addWorkspaceTop m
  applyIf (m.workspaces.getLast?.any fun ws => ws.id == id) Monitor.addWorkspaceBottom m

/-- The workspace at `place` is replaced. -/
def setWorkspaceAt (place : Place) (ws : Workspace W) : Counted (Layout W) :=
  match l.monitorSet with
  | .normal _ _ _ => l.onMonitor place.mon fun m => pure (m.setWorkspace place.idx ws)
  | .noOutputs workspaces =>
      pure { l with monitorSet := .noOutputs (workspaces.set place.idx ws) }

def setWorkspaceName (name : String) (reference : Option WorkspaceReference) : Counted (Layout W) :=
  -- The name is not to be that of another workspace.
  if (l.findWorkspaceByName name).isSome then pure l
  else
    match l.findWorkspace reference with
    | none => pure l
    | some place => do
        let ws ← bounds (l.workspaceAt place)
        let l ← l.setWorkspaceAt place (ws.rename name)
        l.onActiveMonitor (surroundNamed ws.id)

/-- The loop of `unname_workspace_by_id`, over the monitors. -/
def unnameOn (id : WorkspaceId) : List (Monitor W) → Counted (List (Monitor W))
  | [] => pure []
  | m :: monitors => do
      let (m, found) ← m.unnameWorkspace id
      if found then return m :: monitors
      else
        let monitors ← unnameOn id monitors
        return m :: monitors

def unnameWorkspaceById (id : WorkspaceId) : Counted (Layout W) :=
  match l.monitorSet with
  | .normal monitors primary active => do
      let monitors ← unnameOn id monitors
      return { l with monitorSet := .normal monitors primary active }
  | .noOutputs workspaces =>
      match workspaces.findIdx? fun ws => ws.id == id with
      | none => pure l
      | some idx => do
          let ws ← bounds workspaces[idx]?
          let workspaces := if ws.hasWindows then workspaces.set idx ws.unname
            else workspaces.eraseIdx idx
          return { l with monitorSet := .noOutputs workspaces }

/-- The workspace referred to, or the active one, loses its name:
    `unname_workspace_by_ref` and `unset_workspace_name`. -/
def unsetWorkspaceName (reference : Option WorkspaceReference) : Counted (Layout W) :=
  match l.findWorkspace reference with
  | none => pure l
  | some place => do
      let ws ← bounds (l.workspaceAt place)
      l.unnameWorkspaceById ws.id

def unnameWorkspace (name : String) : Counted (Layout W) :=
  l.unsetWorkspaceName (some (.name name))

/-! ## Moving workspaces -/

/-- The monitor of `output`, or the active one. -/
def monitorIdxOr (monitors : List (Monitor W)) (active : Nat) : Option Output → Counted Nat
  | some output => lookup (monitors.findIdx? fun m => m.output == output)
  | none => pure active

def moveWorkspaceToOutputById (oldIdx : Nat) (oldOutput : Option Output) (newOutput : Output) :
    Counted (Layout W × Bool) :=
  match l.monitorSet with
  | .noOutputs _ => pure (l, false)
  | .normal monitors primaryIdx active => do
      let currentIdx ← monitorIdxOr monitors active oldOutput
      let targetIdx ← lookup (monitors.findIdx? fun m => m.output == newOutput)
      let current ← bounds monitors[currentIdx]?
      if current.workspaces.length ≤ oldIdx then return (l, false)
      else if currentIdx = targetIdx then
        let ws ← bounds current.workspaces[oldIdx]?
        let current := current.setWorkspace oldIdx
          { ws with originalOutput := OutputId.new current.output }
        return ({ l with
          monitorSet := .normal (monitors.set currentIdx current) primaryIdx active }, false)
      else
        let activate := currentIdx == active && oldIdx == current.activeWorkspaceIdx
        let (ws, current) ← current.removeWorkspaceByIdx oldIdx
        let ws := { ws with originalOutput := OutputId.new newOutput }
        let target ← bounds monitors[targetIdx]?
        let target ← target.insertWorkspace ws (target.activeWorkspaceIdx + 1) activate
        return ({ l with
          monitorSet := .normal ((monitors.set currentIdx current).set targetIdx target) primaryIdx
            (if activate then targetIdx else active) }, activate)

def moveWorkspaceToOutput (output : Output) : Counted (Layout W × Bool) :=
  match l.activeMonitor with
  | some m => l.moveWorkspaceToOutputById m.activeWorkspaceIdx none output
  | none => pure (l, false)

def moveWorkspaceToIdx (reference : Option (Option Output × Nat)) (newIdx : Nat) :
    Counted (Layout W) :=
  match reference with
  | some (some output, oldIdx) =>
      match l.monitorIdx output with
      | some idx => l.onMonitor idx fun m => m.moveWorkspaceToIdx oldIdx newIdx
      | none => pure l
  | some (none, oldIdx) => l.onActiveMonitor fun m => m.moveWorkspaceToIdx oldIdx newIdx
  | none => l.onActiveMonitor fun m => m.moveWorkspaceToIdx m.activeWorkspaceIdx newIdx

/-! ## Calls on the active monitor -/

def switchWorkspaceUp : Counted (Layout W) :=
  l.onActiveMonitor Monitor.switchWorkspaceUp

def switchWorkspaceDown : Counted (Layout W) :=
  l.onActiveMonitor Monitor.switchWorkspaceDown

def switchWorkspace (idx : Nat) : Counted (Layout W) :=
  l.onActiveMonitor fun m => m.switchWorkspace idx

def switchWorkspaceAutoBackAndForth (idx : Nat) : Counted (Layout W) :=
  l.onActiveMonitor fun m => m.switchWorkspaceAutoBackAndForth idx

def switchWorkspacePrevious : Counted (Layout W) :=
  l.onActiveMonitor Monitor.switchWorkspacePrevious

def moveDownOrToWorkspaceDown : Counted (Layout W) :=
  l.onActiveMonitor (Monitor.moveDownOrToWorkspaceDown c.toContents)

def moveUpOrToWorkspaceUp : Counted (Layout W) :=
  l.onActiveMonitor (Monitor.moveUpOrToWorkspaceUp c.toContents)

def focusWindowOrWorkspaceDown : Counted (Layout W) :=
  l.onActiveMonitor (Monitor.focusWindowOrWorkspaceDown c.toContents)

def focusWindowOrWorkspaceUp : Counted (Layout W) :=
  l.onActiveMonitor (Monitor.focusWindowOrWorkspaceUp c.toContents)

def moveToWorkspaceUp (focus : Bool) : Counted (Layout W) :=
  l.onActiveMonitor fun m => m.moveToWorkspaceUp c.toContents focus

def moveToWorkspaceDown (focus : Bool) : Counted (Layout W) :=
  l.onActiveMonitor fun m => m.moveToWorkspaceDown c.toContents focus

def moveColumnToWorkspaceUp (activate : Bool) : Counted (Layout W) :=
  l.onActiveMonitor fun m => m.moveColumnToWorkspaceUp c.toContents activate

def moveColumnToWorkspaceDown (activate : Bool) : Counted (Layout W) :=
  l.onActiveMonitor fun m => m.moveColumnToWorkspaceDown c.toContents activate

def moveColumnToWorkspace (idx : Nat) (activate : Bool) : Counted (Layout W) :=
  l.onActiveMonitor fun m => m.moveColumnToWorkspace c.toContents idx activate

def moveWorkspaceDown : Counted (Layout W) :=
  l.onActiveMonitor Monitor.moveWorkspaceDown

def moveWorkspaceUp : Counted (Layout W) :=
  l.onActiveMonitor Monitor.moveWorkspaceUp

/-! ## Overview and configuration -/

/-- `set_monitors_overview_state` -/
def setOverview (isOpen : Bool) : Layout W :=
  match l.monitorSet with
  | .normal monitors primary active =>
      { l with
        overviewOpen := isOpen
        monitorSet :=
          .normal (monitors.map fun m => { m with overviewOpen := isOpen }) primary active }
  | .noOutputs _ => { l with overviewOpen := isOpen }

def toggleOverview : Layout W := l.setOverview !l.overviewOpen

def openOverview : Layout W × Bool :=
  if l.overviewOpen then (l, false) else (l.toggleOverview, true)

def closeOverview : Layout W × Bool :=
  if l.overviewOpen then (l.toggleOverview, true) else (l, false)

def overviewGestureBegin : Layout W := l.setOverview true

/-- The end of a gesture that is in progress. -/
def overviewGestureEnd : Layout W := l.setOverview c.overviewEnd

def toggleOverviewToWorkspace (wsIdx : Nat) : Counted (Layout W) := do
  let l ← l.onActiveMonitor fun m => m.activateWorkspace wsIdx
  return l.toggleOverview

def updateConfig (options : Options) : Counted (Layout W) := do
  let l ← l.onMonitors fun m => m.updateConfig options
  return { l with options := options }

/-- The layout part of an output's configuration has changed. -/
def updateLayoutConfig (output : Output) (layoutConfig : Option LayoutPart) : Counted (Layout W) :=
  match l.monitorIdx output with
  | some idx => l.onMonitor idx fun m => m.updateLayoutConfig layoutConfig
  | none => pure l

/-! ## Gestures -/

def workspaceSwitchGestureBegin (output : Output) (isTouchpad : Bool) : Counted (Layout W) :=
  match l.monitorSet with
  | .normal _ _ _ => l.onMonitors fun m =>
      if m.output = output then pure (m.workspaceSwitchGestureBegin c.toContents isTouchpad)
      else do
        let (m, _) ← m.workspaceSwitchGestureEnd c.toContents none
        return m
  | .noOutputs _ => lookup none

/-- A call on the monitors, up to the first that answers. -/
def untilSome {β : Type} (f : Monitor W → Counted (Monitor W × Option β)) :
    List (Monitor W) → Counted (List (Monitor W) × Option β)
  | [] => pure ([], none)
  | m :: monitors => do
      let (m, answer) ← f m
      if answer.isSome then return (m :: monitors, answer)
      else
        let (monitors, answer) ← untilSome f monitors
        return (m :: monitors, answer)

def onMonitorsUntil {β : Type} (f : Monitor W → Counted (Monitor W × Option β)) :
    Counted (Layout W × Option β) :=
  match l.monitorSet with
  | .normal monitors primary active => do
      let (monitors, answer) ← untilSome f monitors
      return ({ l with monitorSet := .normal monitors primary active }, answer)
  | .noOutputs _ => pure (l, none)

def workspaceSwitchGestureUpdate (isTouchpad : Bool) (excess : Rat) :
    Counted (Layout W × Option (Option Output)) :=
  l.onMonitorsUntil fun m => do
    let (m, refresh) ← m.workspaceSwitchGestureUpdate c.toContents isTouchpad excess
    return (m, refresh.map fun refresh => if refresh then some m.output else none)

def workspaceSwitchGestureEnd (isTouchpad : Option Bool) : Counted (Layout W × Option Output) :=
  l.onMonitorsUntil fun m => do
    let (m, ended) ← m.workspaceSwitchGestureEnd c.toContents isTouchpad
    return (m, if ended then some m.output else none)

/-- The drags that scroll the strips begin. -/
def dndScrollGestureBegin : Counted (Layout W) :=
  l.onMonitors fun m => pure (m.dndScrollGestureBegin c.toContents)

def dndScrollGestureEnd : Counted (Layout W) :=
  l.onMonitors fun m => m.dndScrollGestureEnd c.toContents

def dndUpdate (output : Output) : Counted (Layout W) :=
  applyIf l.dnd.isNone (dndScrollGestureBegin c) { l with dnd := some output }

def dndEnd : Counted (Layout W) :=
  if l.dnd.isNone then pure l else { l with dnd := none }.dndScrollGestureEnd c

/-! ## Interactive moves -/

def interactiveMoveBegin (window : W) (output : Output) : Counted (Layout W × Bool) :=
  if l.interactiveMove.isSome then pure (l, false)
  else
    match l.monitors.find? fun m => m.hasWindow window with
    | none => pure (l, false)
    | some m =>
        if m.output ≠ output then pure (l, false)
        else do
          let l ← { l with interactiveMove := some (.starting window) }.dndScrollGestureBegin c
          return (l, true)

/-- `interactive_move_update`; `isFloating` is where the removed tile was. -/
def interactiveMoveUpdate (window : W) (output : Output) (isFloating : Bool) :
    Counted (Layout W × Bool) :=
  match l.interactiveMove with
  | none => pure (l, false)
  | some (.starting moved) =>
      if moved ≠ window then pure (l, false)
      else do
        let _ ← lookup (l.findWindow window)
        if c.farEnough then
          let (l, removed) ← { l with interactiveMove := none }.removeFromWorkspace window
          let _ ← lookup (if removed then some () else none)
          return ({ l with interactiveMove := some (.moving window output isFloating) }, true)
        else return (l, true)
  | some (.moving moved movedOutput floating) =>
      if window ≠ moved then pure (l, false)
      else
        let l' := if output ≠ movedOutput then l.focusOutput output else l
        pure ({ l' with interactiveMove := some (.moving moved output floating) }, true)

/-- The workspace the moved tile is inserted into: a new one, or one that is there. -/
def insertTarget (m : Monitor W) : InsertWorkspace → Counted (Monitor W × Nat)
  | .existing id => do
      let idx ← lookup (m.workspaces.findIdx? fun ws => ws.id == id)
      return (m, idx)
  | .newAt idx =>
      if m.above = true ∧ idx = 0 then pure (m, 0)
      else if m.workspaces.length - 1 ≤ idx then pure (m, m.workspaces.length - 1)
      else do
        let m ← m.addWorkspaceAt idx
        return (m, idx)

/-- The moved tile is put down; a workspace without windows has no column. -/
def insertMoved (window : W) (isFloating allowToActivate : Bool) (insertWs : InsertWorkspace)
    (m : Monitor W) : Counted (Monitor W) := do
  let (m, idx) ← insertTarget m insertWs
  let ws ← bounds m.workspaces[idx]?
  let existing := match insertWs with
    | .existing _ => true
    | .newAt _ => false
  if !isFloating && existing && ws.hasWindows && c.insertInColumn ws then
    m.addTileToColumn idx window true allowToActivate
  else m.addTile window (.workspace ws.id) .yes allowToActivate

def interactiveMoveEnd (window : W) : Counted (Layout W) :=
  match l.interactiveMove with
  | none => pure l
  | some (.starting moved) => if moved = window then l.cancelMove c else pure l
  | some (.moving moved output isFloating) =>
      if window ≠ moved then pure l
      else do
        let l ← l.cancelMove c
        match l.monitorSet with
        | .normal monitors _ active =>
            match monitors.findIdx? fun m => m.output == output with
            | some idx =>
                l.onMonitor idx fun m =>
                  insertMoved c window isFloating (!l.overviewOpen) (c.insertPosition m) m
            | none =>
                l.onMonitor active fun m => do
                  let ws ← bounds m.workspaces[0]?
                  insertMoved c window isFloating (!l.overviewOpen) (.existing ws.id) m
        | .noOutputs workspaces => do
            let workspaces ← firstWorkspace workspaces
            let ws ← bounds workspaces[0]?
            return { l with monitorSet := .noOutputs (workspaces.set 0 (ws.addTile window)) }

/-- `toggle_window_floating`, of the window being moved -/
def toggleMovedFloating : Layout W :=
  match l.interactiveMove with
  | some (.moving window output isFloating) =>
      { l with interactiveMove := some (.moving window output (!isFloating)) }
  | _ => l

/-! ## Ticks -/

/-- Where a drag may scroll a strip: that of the drag-and-drop, or of the window
    being moved. -/
def scrollOutput : Option Output :=
  match l.dnd, l.interactiveMove with
  | some output, _ => some output
  | none, some (.moving _ output _) => some output
  | none, _ => none

/-- The workspace a drag-and-drop was held over is activated. -/
def holdOver (target : DndHoldTarget W) (m : Monitor W) : Counted (Monitor W) := do
  let idx ← lookup (m.workspaces.findIdx? fun ws =>
    match target with
    | .window window => ws.hasWindow window
    | .workspace id => ws.id == id)
  let m ← m.dndScrollGestureEnd c.toContents
  m.activateWorkspace idx

/-- The start of `advance_animations`: the drag scrolls the strip, or is held. -/
def advanceDnd : Counted (Layout W) :=
  match l.scrollOutput with
  | none => pure l
  | some output =>
      match l.monitorIdx output with
      | none => pure l
      | some idx => do
          let l ← l.onMonitor idx fun m => m.dndScrollGestureScroll c.toContents
          match l.dnd, l.monitors[idx]?.bind c.dndHold with
          | some _, some target =>
              let l ← l.onMonitor idx (holdOver c target)
              return ((l.focusOutput output).closeOverview).1
          | _, _ => return l

def advanceAnimations : Counted (Layout W) := do
  let l ← l.advanceDnd c
  l.onMonitors fun m => m.advanceAnimations c.toContents

def refresh : Counted (Layout W) :=
  let ongoing := l.dnd.isSome || l.interactiveMove.isSome
  if ongoing && l.overviewOpen then l.dndScrollGestureBegin c
  else if !l.overviewOpen then l.dndScrollGestureEnd c
  else pure l

/-! ## New layouts -/

/-- The workspaces of the configuration. -/
def newWorkspaces : List WorkspaceConfig → Counted (List (Workspace W))
  | [] => pure []
  | config :: configs => do
      let id ← fresh
      let workspaces ← newWorkspaces configs
      return Workspace.newWithConfigNoOutputs config id :: workspaces

def new (options : Options) (configs : List WorkspaceConfig) : Counted (Layout W) := do
  let workspaces ← newWorkspaces configs
  return {
    monitorSet := .noOutputs workspaces
    lastActiveWorkspaceId := fun _ => none
    interactiveMove := none
    dnd := none
    overviewOpen := false
    options := options }

end Layout

end Cidre.Workspaces
