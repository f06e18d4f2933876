/-
  Cidre.Workspaces.Monitor

  The strip of workspaces of one monitor (`src/layout/monitor.rs`).

  A workspace is its identity, its name, the output it belongs to and the windows
  it has.  How the windows are arranged inside it is the matter of its scrolling
  and floating layouts; what those answer during a call comes with the call, as
  `Contents`.  Positions on the strip are exact rationals.
-/

import Mathlib.Data.Rat.Floor
import Cidre.Lib.Counter
import Cidre.Lib.Panic

namespace Cidre.Workspaces

open Cidre.Counter

/-! ## Outputs -/

def eqIgnoreAsciiCase (a b : String) : Bool :=
  a.toList.map Char.toLower == b.toList.map Char.toLower

/-- `niri_config::OutputName`. -/
structure OutputName where
  connector : String
  make : Option String
  model : Option String
  serial : Option String
deriving DecidableEq, Repr

namespace OutputName

def isUnnamed (name : OutputName) : Bool :=
  name.make.isNone && name.model.isNone && name.serial.isNone

def formatMakeModelSerial (name : OutputName) : String :=
  name.make.getD "Unknown" ++ " " ++ name.model.getD "Unknown" ++ " " ++
    name.serial.getD "Unknown"

def formatMakeModelSerialOrConnector (name : OutputName) : String :=
  if name.isUnnamed then name.connector else name.formatMakeModelSerial

/-- `matches`: the parts are compared one by one in the source, with the case of
    ASCII letters ignored and the blanks between them exact. -/
def matchesTarget (name : OutputName) (target : String) : Bool :=
  eqIgnoreAsciiCase target name.connector ||
    (!name.isUnnamed && eqIgnoreAsciiCase target name.formatMakeModelSerial)

end OutputName

/-- An output: what it is called, and which of the outputs so called it is. -/
structure Output where
  handle : Nat
  name : OutputName
deriving DecidableEq, Repr

abbrev OutputId := String

def OutputId.new (output : Output) : OutputId := output.name.formatMakeModelSerialOrConnector

/-- `OutputId::matches` -/
def OutputId.isOf (id : OutputId) (output : Output) : Bool := output.name.matchesTarget id

/-! ## Data -/

/-- The options the strip depends on. -/
structure Options where
  emptyWorkspaceAboveFirst : Bool
deriving DecidableEq, Repr

structure LayoutPart where
  emptyWorkspaceAboveFirst : Option Bool
deriving DecidableEq, Repr

def Options.withMergedLayout (options : Options) (part : Option LayoutPart) : Options :=
  ⟨(part.bind LayoutPart.emptyWorkspaceAboveFirst).getD options.emptyWorkspaceAboveFirst⟩

inductive ActivateWindow where
  | yes
  | smart
  | no
deriving DecidableEq, Repr

def ActivateWindow.mapSmart (activate : ActivateWindow) (f : Bool) : Bool :=
  match activate with
  | .yes => true
  | .smart => f
  | .no => false

abbrev WorkspaceId := Nat

structure Workspace (W : Type) where
  id : WorkspaceId
  name : Option String
  originalOutput : OutputId
  windows : List W

structure WorkspaceSwitchGesture where
  centerIdx : Nat
  startIdx : Rat
  currentIdx : Rat
  isTouchpad : Bool
  isClamped : Bool
  /-- the gesture is a drag-and-drop scroll -/
  dnd : Bool

/-- An animation is known by where it ends. -/
inductive WorkspaceSwitch where
  | animation (target : Rat)
  | gesture (gesture : WorkspaceSwitchGesture)

structure Monitor (W : Type) where
  output : Output
  workspaces : List (Workspace W)
  activeWorkspaceIdx : Nat
  previousWorkspaceId : Option WorkspaceId
  workspaceSwitch : Option WorkspaceSwitch
  overviewOpen : Bool
  baseOptions : Options
  options : Options
  layoutConfig : Option LayoutPart

inductive MonitorAddWindowTarget (W : Type) where
  | auto
  | workspace (id : WorkspaceId)
  | nextTo (window : W)

inductive InsertWorkspace where
  | existing (id : WorkspaceId)
  | newAt (idx : Nat)

/-- What the layouts inside the workspaces answer, and where the strip is. -/
structure Contents (W : Type) where
  /-- the tile `remove_active_tile` takes -/
  activeTile : Workspace W → Option W
  /-- the windows of the column `remove_active_column` takes -/
  activeColumn : Workspace W → List W
  floatingIsActive : Workspace W → Bool
  /-- the focus or the window moved inside the workspace -/
  movedInside : Workspace W → Bool
  /-- `workspace_render_idx` -/
  renderIdx : Monitor W → Rat
  /-- how far the gesture is from where it started -/
  gesturePos : Monitor W → Rat
  /-- the pointer is where a drag scrolls the strip -/
  scrolls : Monitor W → Bool
  /-- the animation of the switch is over -/
  switchDone : Monitor W → Bool

/-! ## Workspaces -/

namespace Workspace

variable {W : Type}

def new (output : Output) (id : WorkspaceId) : Workspace W where
  id := id
  name := none
  originalOutput := OutputId.new output
  windows := []

def newNoOutputs (id : WorkspaceId) : Workspace W where
  id := id
  name := none
  originalOutput := ""
  windows := []

def hasWindows (ws : Workspace W) : Bool := !ws.windows.isEmpty

def hasWindowsOrName (ws : Workspace W) : Bool := ws.hasWindows || ws.name.isSome

def hasWindow [DecidableEq W] (ws : Workspace W) (window : W) : Bool := window ∈ ws.windows

def unname (ws : Workspace W) : Workspace W := { ws with name := none }

def isNamed (ws : Workspace W) (name : String) : Bool :=
  ws.name.any fun n => eqIgnoreAsciiCase n name

/-- `set_output(Some(output))` -/
def setOutput (ws : Workspace W) (output : Output) : Workspace W :=
  { ws with
    originalOutput :=
      if ws.originalOutput.isOf output then OutputId.new output else ws.originalOutput }

def removeTile [DecidableEq W] (ws : Workspace W) (window : W) : Workspace W :=
  { ws with windows := ws.windows.erase window }

/-- The tile `remove_active_tile` takes, and the workspace without it. -/
def removeActiveTile [DecidableEq W] (c : Contents W) (ws : Workspace W) :
    Option (W × Workspace W) :=
  match c.activeTile ws with
  | some window => if window ∈ ws.windows then some (window, ws.removeTile window) else none
  | none => none

/-- The windows of the column `remove_active_column` takes, and the workspace
    without them. -/
def removeActiveColumn [DecidableEq W] (c : Contents W) (ws : Workspace W) :
    Option (List W × Workspace W) :=
  let column := (c.activeColumn ws).filter fun window => window ∈ ws.windows
  if c.floatingIsActive ws || column.isEmpty then none
  else some (column, { ws with windows := ws.windows.filter fun window => window ∉ column })

/-- The workspace with new windows on the monitor of `output`.  An unnamed
    workspace becomes this output's own. -/
def receive (ws : Workspace W) (windows : List W) (output : Output) : Workspace W :=
  { ws with
    windows := ws.windows ++ windows
    originalOutput := if ws.name.isNone then OutputId.new output else ws.originalOutput }

end Workspace

/-! ## Switching -/

namespace WorkspaceSwitch

def targetIdx : WorkspaceSwitch → Rat
  | animation target => target
  | gesture g => g.currentIdx

def offset (delta : Int) : WorkspaceSwitch → WorkspaceSwitch
  | animation target => animation (target + delta)
  | gesture g =>
      gesture { g with
        centerIdx := (g.centerIdx + delta).toNat
        startIdx := g.startIdx + delta
        currentIdx := g.currentIdx + delta }

/-- The switch after `activate_workspace`, from the workspace at `prev`. -/
def activate (switch : Option WorkspaceSwitch) (prev idx : Nat) : Option WorkspaceSwitch :=
  let animated := if prev = idx then switch else some (animation idx)
  match switch with
  | some (gesture g) =>
      if g.dnd then
        some (gesture { g with
          centerIdx := idx
          startIdx := idx - (g.currentIdx - g.startIdx)
          currentIdx := idx })
      else animated
  | _ => animated

end WorkspaceSwitch

namespace WorkspaceSwitchGesture

def minMax (g : WorkspaceSwitchGesture) (workspaceCount : Nat) : Nat × Nat :=
  if g.isClamped then (g.centerIdx - 1, min (g.centerIdx + 1) (workspaceCount - 1))
  else (0, workspaceCount - 1)

end WorkspaceSwitchGesture

/-- `f64::clamp`, which panics on an empty range. -/
def clamp (x : Rat) (range : Nat × Nat) : Counted Rat :=
  bounds (if range.1 ≤ range.2 then some (max (range.1 : Rat) (min x range.2)) else none)

/-- `x.round() as usize`, of a position that is not negative. -/
def roundIdx (x : Rat) : Nat := (x + 1 / 2).floor.toNat

/-! ## Monitors -/

namespace Monitor

variable {W : Type} [DecidableEq W] (c : Contents W) (m : Monitor W)

abbrev above : Bool := m.options.emptyWorkspaceAboveFirst

/-- The index of the workspace to activate, among those a monitor starts with. -/
def activateIdx (workspaces : List (Workspace W)) (wsIdToActivate : Option WorkspaceId) : Nat :=
  match wsIdToActivate with
  | some id => (Panic.Vec.rposition workspaces fun ws => ws.id == id).getD 0
  | none => 0

def new (output : Output) (workspaces : List (Workspace W))
    (wsIdToActivate : Option WorkspaceId) (baseOptions : Options)
    (layoutConfig : Option LayoutPart) : Counted (Monitor W) := do
  let options := baseOptions.withMergedLayout layoutConfig
  require (workspaces.all Workspace.hasWindowsOrName)
  let active := activateIdx workspaces wsIdToActivate
  let workspaces := workspaces.map fun ws => ws.setOutput output
  let top := options.emptyWorkspaceAboveFirst && !workspaces.isEmpty
  let workspaces ← applyIf top
    (fun workspaces => do
      let id ← fresh
      return Workspace.new output id :: workspaces) workspaces
  let id ← fresh
  return {
    output := output
    workspaces := workspaces ++ [Workspace.new output id]
    activeWorkspaceIdx := if top then active + 1 else active
    previousWorkspaceId := none
    workspaceSwitch := none
    overviewOpen := false
    baseOptions := baseOptions
    options := options
    layoutConfig := layoutConfig }

def intoWorkspaces : List (Workspace W) :=
  m.workspaces.filter Workspace.hasWindowsOrName

def hasWindow (window : W) : Bool :=
  m.workspaces.any fun ws => ws.hasWindow window

def findNamedWorkspaceIndex (name : String) : Option Nat :=
  m.workspaces.findIdx? fun ws => ws.isNamed name

def setWorkspace (idx : Nat) (ws : Workspace W) : Monitor W :=
  { m with workspaces := m.workspaces.set idx ws }

def addWorkspaceAt (idx : Nat) : Counted (Monitor W) := do
  let id ← fresh
  let workspaces ← bounds (Panic.Vec.insert m.workspaces idx (Workspace.new m.output id))
  return { m with
    workspaces := workspaces
    activeWorkspaceIdx :=
      if idx ≤ m.activeWorkspaceIdx then m.activeWorkspaceIdx + 1 else m.activeWorkspaceIdx
    workspaceSwitch := m.workspaceSwitch.map fun switch =>
      if (idx : Rat) ≤ switch.targetIdx then switch.offset 1 else switch }

def addWorkspaceTop : Counted (Monitor W) := m.addWorkspaceAt 0

def addWorkspaceBottom : Counted (Monitor W) := m.addWorkspaceAt m.workspaces.length

/-- An empty workspace goes below the one at `last` if that is the last one, and,
    where there is to be one, above the one at `first` if that is the first. -/
def surround (last first : Nat) : Counted (Monitor W) := do
  let m ← applyIf (last == m.workspaces.length - 1) addWorkspaceBottom m
  applyIf (m.above && first == 0) addWorkspaceTop m

/-- Where the workspace at `idx` is once the strip is surrounded. -/
def surroundedIdx (first idx : Nat) : Nat :=
  if m.above && first == 0 then idx + 1 else idx

/-- The active workspace is the previous one once the one at `idx` is active. -/
def rememberActive (idx : Nat) : Counted (Monitor W) :=
  if m.activeWorkspaceIdx ≠ idx then do
    let ws ← bounds m.workspaces[m.activeWorkspaceIdx]?
    return { m with previousWorkspaceId := some ws.id }
  else pure m

def activateWorkspace (idx : Nat) : Counted (Monitor W) := do
  let m ← m.rememberActive idx
  return { m with
    activeWorkspaceIdx := idx
    workspaceSwitch := WorkspaceSwitch.activate m.workspaceSwitch m.activeWorkspaceIdx idx }

/-! ## Windows -/

def resolveAddWindowTarget : MonitorAddWindowTarget W → Counted Nat
  | .auto => pure m.activeWorkspaceIdx
  | .workspace id => lookup (m.workspaces.findIdx? fun ws => ws.id == id)
  | .nextTo window => lookup (m.workspaces.findIdx? fun ws => ws.hasWindow window)

/-- What `add_column` and `add_tile` share: the workspace at `idx` gets windows,
    and there are empty workspaces around it again. -/
def addWindows (idx : Nat) (windows : List W) (activate : Bool) : Counted (Monitor W) := do
  let ws ← bounds m.workspaces[idx]?
  let newIdx := m.surroundedIdx idx idx
  let m ← (m.setWorkspace idx (ws.receive windows m.output)).surround idx idx
  applyIf activate (fun m => m.activateWorkspace newIdx) m

def addColumn (workspaceIdx : Nat) (column : List W) (activate : Bool) : Counted (Monitor W) :=
  m.addWindows workspaceIdx column activate

def addTile (tile : W) (target : MonitorAddWindowTarget W) (activate : ActivateWindow)
    (allowToActivateWorkspace : Bool) : Counted (Monitor W) := do
  let workspaceIdx ← m.resolveAddWindowTarget target
  m.addWindows workspaceIdx [tile] (allowToActivateWorkspace && activate.mapSmart false)

/-- `add_tile_to_column`: the workspace has a column already, and so is not the
    last one. -/
def addTileToColumn (workspaceIdx : Nat) (tile : W) (activate : Bool)
    (allowToActivateWorkspace : Bool) : Counted (Monitor W) := do
  let ws ← bounds m.workspaces[workspaceIdx]?
  let m := m.setWorkspace workspaceIdx (ws.receive [tile] m.output)
  applyIf (allowToActivateWorkspace && activate) (fun m => m.activateWorkspace workspaceIdx) m

/-! ## Cleaning up -/

def cleanUpAt (idx : Nat) : Counted (Monitor W) :=
  if m.activeWorkspaceIdx = idx then pure m
  else do
    let ws ← bounds m.workspaces[idx]?
    if ws.hasWindowsOrName then return m
    else
      return { m with
        workspaces := m.workspaces.eraseIdx idx
        activeWorkspaceIdx :=
          if idx < m.activeWorkspaceIdx then m.activeWorkspaceIdx - 1 else m.activeWorkspaceIdx }

/-- The loop of `clean_up_workspaces`, from the index below `idx` down to `start`. -/
def cleanUpFrom (start : Nat) : Nat → Monitor W → Counted (Monitor W)
  | 0, m => pure m
  | idx + 1, m =>
      if idx < start then pure m
      else do
        let m ← m.cleanUpAt idx
        cleanUpFrom start idx m

/-- Of an empty first and an empty last workspace with nothing between them, only
    one is kept. -/
def mergeEnds : Counted (Monitor W) :=
  if m.above && m.workspaces.length == 2 then do
    let first ← bounds m.workspaces[0]?
    require (!first.hasWindowsOrName)
    let last ← bounds m.workspaces[1]?
    require (!last.hasWindowsOrName)
    return { m with workspaces := m.workspaces.eraseIdx 1, activeWorkspaceIdx := 0 }
  else pure m

def cleanUpWorkspaces : Counted (Monitor W) := do
  require m.workspaceSwitch.isNone
  let m ← cleanUpFrom (if m.above then 1 else 0) (m.workspaces.length - 1) m
  m.mergeEnds

def unnameWorkspace (id : WorkspaceId) : Counted (Monitor W × Bool) :=
  match m.workspaces.findIdx? fun ws => ws.id == id with
  | none => pure (m, false)
  | some idx => do
      let ws ← bounds m.workspaces[idx]?
      let m := m.setWorkspace idx ws.unname
      let m ← applyIf m.workspaceSwitch.isNone cleanUpWorkspaces m
      return (m, true)

/-! ## Workspaces that come and go -/

def removeWorkspaceByIdx (idx : Nat) : Counted (Workspace W × Monitor W) := do
  let newIdx := m.surroundedIdx idx idx
  let m ← m.surround idx idx
  let (ws, workspaces) ← bounds (Panic.Vec.remove m.workspaces newIdx)
  let m := { m with
    workspaces := workspaces
    activeWorkspaceIdx :=
      if newIdx ≤ m.activeWorkspaceIdx ∧ 0 < m.activeWorkspaceIdx then m.activeWorkspaceIdx - 1
      else m.activeWorkspaceIdx
    workspaceSwitch := none }
  let m ← m.cleanUpWorkspaces
  return (ws, m)

def insertWorkspace (ws : Workspace W) (idx : Nat) (activate : Bool) : Counted (Monitor W) := do
  let ws := ws.setOutput m.output
  -- Not past the last, empty workspace.
  let idx := if idx = m.workspaces.length then idx - 1 else idx
  let top := idx == 0 && m.above
  let m ← applyIf top addWorkspaceTop m
  let idx := if top then idx + 1 else idx
  let workspaces ← bounds (Panic.Vec.insert m.workspaces idx ws)
  let m := { m with
    workspaces := workspaces
    activeWorkspaceIdx :=
      if idx ≤ m.activeWorkspaceIdx then m.activeWorkspaceIdx + 1 else m.activeWorkspaceIdx }
  let m ← applyIf activate (fun m => { m with workspaceSwitch := none }.activateWorkspace idx) m
  { m with workspaceSwitch := none }.cleanUpWorkspaces

def appendWorkspaces (workspaces : List (Workspace W)) : Counted (Monitor W) :=
  if workspaces = [] then pure m
  else do
    let workspaces := workspaces.map fun ws => ws.setOutput m.output
    let emptyWasFocused := m.activeWorkspaceIdx == m.workspaces.length - 1
    let (empty, rest) ← bounds (Panic.Vec.remove m.workspaces (m.workspaces.length - 1))
    let m := { m with workspaces := rest ++ workspaces ++ [empty] }
    let first ← bounds m.workspaces[0]?
    let m ← applyIf (m.above && first.hasWindowsOrName) addWorkspaceTop m
    let m := { m with
      activeWorkspaceIdx :=
        if emptyWasFocused then m.workspaces.length - 1 else m.activeWorkspaceIdx
      workspaceSwitch := none }
    m.cleanUpWorkspaces

/-! ## Windows between workspaces -/

/-- `move_to_workspace_up` and `move_to_workspace_down`, to the workspace at
    `newIdx`. -/
def moveActiveTileTo (newIdx : Nat) (focus : Bool) : Counted (Monitor W) :=
  if newIdx = m.activeWorkspaceIdx then pure m
  else do
    let target ← bounds m.workspaces[newIdx]?
    let source ← bounds m.workspaces[m.activeWorkspaceIdx]?
    match source.removeActiveTile c with
    | none => return m
    | some (tile, source) =>
        let m := m.setWorkspace m.activeWorkspaceIdx source
        m.addTile tile (.workspace target.id) (if focus then .yes else .smart) true

def moveToWorkspaceUp (focus : Bool) : Counted (Monitor W) :=
  m.moveActiveTileTo c (m.activeWorkspaceIdx - 1) focus

def moveToWorkspaceDown (focus : Bool) : Counted (Monitor W) :=
  m.moveActiveTileTo c (min (m.activeWorkspaceIdx + 1) (m.workspaces.length - 1)) focus

/-- The workspace an operation on `window`, or on the active window, is about. -/
def sourceWorkspaceIdx (window : Option W) : Counted Nat :=
  match window with
  | some window => lookup (m.workspaces.findIdx? fun ws => ws.hasWindow window)
  | none => pure m.activeWorkspaceIdx

/-- The tile of `window`, or the active one, and the workspace without it. -/
def takeTile (ws : Workspace W) (window : Option W) : Option (W × Workspace W) :=
  match window with
  | some window => some (window, ws.removeTile window)
  | none => ws.removeActiveTile c

def moveToWorkspace (window : Option W) (idx : Nat) (activate : ActivateWindow) :
    Counted (Monitor W) := do
  let sourceIdx ← m.sourceWorkspaceIdx window
  let newIdx := min idx (m.workspaces.length - 1)
  if newIdx = sourceIdx then return m
  else
    let target ← bounds m.workspaces[newIdx]?
    let active ← bounds m.workspaces[m.activeWorkspaceIdx]?
    let activate := activate.mapSmart (window.isNone || window == c.activeTile active)
    let source ← bounds m.workspaces[sourceIdx]?
    match takeTile c source window with
    | none => return m
    | some (tile, source) =>
        let m := m.setWorkspace sourceIdx source
        let m ← m.addTile tile (.workspace target.id) (if activate then .yes else .no) true
        applyIf m.workspaceSwitch.isNone cleanUpWorkspaces m

/-- `move_column_to_workspace_up`, `move_column_to_workspace_down` and
    `move_column_to_workspace`, to the workspace at `newIdx`; `floating` moves the
    active window when it is a floating one. -/
def moveActiveColumnTo (newIdx : Nat) (activate : Bool) (floating : Counted (Monitor W)) :
    Counted (Monitor W) :=
  if newIdx = m.activeWorkspaceIdx then pure m
  else do
    let source ← bounds m.workspaces[m.activeWorkspaceIdx]?
    if c.floatingIsActive source then floating
    else
      match source.removeActiveColumn c with
      | none => return m
      | some (column, source) =>
          (m.setWorkspace m.activeWorkspaceIdx source).addColumn newIdx column activate

def moveColumnToWorkspaceUp (activate : Bool) : Counted (Monitor W) :=
  m.moveActiveColumnTo c (m.activeWorkspaceIdx - 1) activate (m.moveToWorkspaceUp c activate)

def moveColumnToWorkspaceDown (activate : Bool) : Counted (Monitor W) :=
  m.moveActiveColumnTo c (min (m.activeWorkspaceIdx + 1) (m.workspaces.length - 1)) activate
    (m.moveToWorkspaceDown c activate)

def moveColumnToWorkspace (idx : Nat) (activate : Bool) : Counted (Monitor W) :=
  m.moveActiveColumnTo c (min idx (m.workspaces.length - 1)) activate
    (m.moveToWorkspace c none idx (if activate then .smart else .no))

/-! ## Switching -/

/-- The gesture of a drag-and-drop scroll. -/
def dndGesture : Option WorkspaceSwitchGesture :=
  match m.workspaceSwitch with
  | some (.gesture g) => if g.dnd then some g else none
  | _ => none

/-- An apparent position, as an index of the strip. -/
def apparentIdx (x : Int) : Nat :=
  (max 0 (min x ((m.workspaces.length : Int) - 1))).toNat

def switchWorkspaceUp : Counted (Monitor W) :=
  m.activateWorkspace <|
    match m.dndGesture with
    | some g => m.apparentIdx (g.currentIdx.ceil - 1)
    | none => m.activeWorkspaceIdx - 1

def switchWorkspaceDown : Counted (Monitor W) :=
  m.activateWorkspace <|
    match m.dndGesture with
    | some g => m.apparentIdx (g.currentIdx.floor + 1)
    | none => min (m.activeWorkspaceIdx + 1) (m.workspaces.length - 1)

def previousWorkspaceIdx : Option Nat := do
  let id ← m.previousWorkspaceId
  m.workspaces.findIdx? fun ws => ws.id == id

def switchWorkspace (idx : Nat) : Counted (Monitor W) :=
  m.activateWorkspace (min idx (m.workspaces.length - 1))

def switchWorkspacePrevious : Counted (Monitor W) :=
  match m.previousWorkspaceIdx with
  | some idx => m.switchWorkspace idx
  | none => pure m

def switchWorkspaceAutoBackAndForth (idx : Nat) : Counted (Monitor W) :=
  let idx := min idx (m.workspaces.length - 1)
  if idx = m.activeWorkspaceIdx then m.switchWorkspacePrevious else m.switchWorkspace idx

def moveDownOrToWorkspaceDown : Counted (Monitor W) := do
  let ws ← bounds m.workspaces[m.activeWorkspaceIdx]?
  if c.movedInside ws then return m else m.moveToWorkspaceDown c true

def moveUpOrToWorkspaceUp : Counted (Monitor W) := do
  let ws ← bounds m.workspaces[m.activeWorkspaceIdx]?
  if c.movedInside ws then return m else m.moveToWorkspaceUp c true

def focusWindowOrWorkspaceDown : Counted (Monitor W) := do
  let ws ← bounds m.workspaces[m.activeWorkspaceIdx]?
  if c.movedInside ws then return m else m.switchWorkspaceDown

def focusWindowOrWorkspaceUp : Counted (Monitor W) := do
  let ws ← bounds m.workspaces[m.activeWorkspaceIdx]?
  if c.movedInside ws then return m else m.switchWorkspaceUp

def advanceAnimations : Counted (Monitor W) :=
  match m.workspaceSwitch with
  | some (.animation _) =>
      if c.switchDone m then { m with workspaceSwitch := none }.cleanUpWorkspaces else pure m
  | _ => pure m

/-! ## Configuration -/

def updateConfig (baseOptions : Options) : Counted (Monitor W) := do
  let options := baseOptions.withMergedLayout m.layoutConfig
  let toggled := m.above != options.emptyWorkspaceAboveFirst && 1 < m.workspaces.length
  let m ← applyIf (toggled && options.emptyWorkspaceAboveFirst) addWorkspaceTop m
  let drop := toggled && !options.emptyWorkspaceAboveFirst && m.workspaceSwitch.isNone &&
    m.activeWorkspaceIdx != 0
  return { m with
    workspaces := if drop then m.workspaces.eraseIdx 0 else m.workspaces
    activeWorkspaceIdx := if drop then m.activeWorkspaceIdx - 1 else m.activeWorkspaceIdx
    baseOptions := baseOptions
    options := options }

def updateLayoutConfig (layoutConfig : Option LayoutPart) : Counted (Monitor W) :=
  if m.layoutConfig = layoutConfig then pure m
  else { m with layoutConfig := layoutConfig }.updateConfig m.baseOptions

/-! ## Moving workspaces -/

/-- The end of `move_workspace_down` and `move_workspace_up`. -/
def settleAt (idx : Nat) : Counted (Monitor W) := do
  let previous := m.previousWorkspaceId
  let m ← m.activateWorkspace idx
  { m with workspaceSwitch := none, previousWorkspaceId := previous }.cleanUpWorkspaces

def moveWorkspaceDown : Counted (Monitor W) :=
  let newIdx := min (m.activeWorkspaceIdx + 1) (m.workspaces.length - 1)
  if newIdx = m.activeWorkspaceIdx then pure m
  else do
    let workspaces ← bounds (Panic.Vec.swap m.workspaces m.activeWorkspaceIdx newIdx)
    let landed := m.surroundedIdx m.activeWorkspaceIdx newIdx
    let m ← { m with workspaces := workspaces }.surround newIdx m.activeWorkspaceIdx
    m.settleAt landed

def moveWorkspaceUp : Counted (Monitor W) :=
  let newIdx := m.activeWorkspaceIdx - 1
  if newIdx = m.activeWorkspaceIdx then pure m
  else do
    let workspaces ← bounds (Panic.Vec.swap m.workspaces m.activeWorkspaceIdx newIdx)
    let landed := m.surroundedIdx newIdx newIdx
    let m ← { m with workspaces := workspaces }.surround m.activeWorkspaceIdx newIdx
    m.settleAt landed

/-- The active index once a workspace moved from `oldIdx` to `newIdx`. -/
def activeAfterMove (active oldIdx newIdx : Nat) : Nat :=
  if active = oldIdx then newIdx
  else if newIdx ≤ active ∧ active < oldIdx then active + 1
  else if active ≤ newIdx ∧ oldIdx < active then active - 1
  else active

def moveWorkspaceToIdx (oldIdx newIdx : Nat) : Counted (Monitor W) :=
  let newIdx := min newIdx (m.workspaces.length - 1)
  if m.workspaces.length ≤ oldIdx ∨ oldIdx = newIdx then pure m
  else do
    let (ws, workspaces) ← bounds (Panic.Vec.remove m.workspaces oldIdx)
    let workspaces ← bounds (Panic.Vec.insert workspaces newIdx ws)
    let landed := m.surroundedIdx (min oldIdx newIdx) newIdx
    let m ← { m with workspaces := workspaces }.surround (max oldIdx newIdx) (min oldIdx newIdx)
    { m with
      activeWorkspaceIdx := activeAfterMove m.activeWorkspaceIdx oldIdx landed
      workspaceSwitch := none }.cleanUpWorkspaces

/-! ## Gestures -/

def gestureFrom (isTouchpad isClamped dnd : Bool) : Monitor W :=
  { m with
    workspaceSwitch := some (.gesture {
      centerIdx := m.activeWorkspaceIdx
      startIdx := c.renderIdx m
      currentIdx := c.renderIdx m
      isTouchpad := isTouchpad
      isClamped := isClamped
      dnd := dnd }) }

def workspaceSwitchGestureBegin (isTouchpad : Bool) : Monitor W :=
  m.gestureFrom c isTouchpad (!m.overviewOpen) false

def dndScrollGestureBegin : Monitor W :=
  if m.dndGesture.isSome || !m.overviewOpen then m else m.gestureFrom c false false true

/-- `workspace_switch_gesture_update`; the rubber band lets the strip go `excess`
    beyond its end. -/
def workspaceSwitchGestureUpdate (isTouchpad : Bool) (excess : Rat) :
    Counted (Monitor W × Option Bool) :=
  match m.workspaceSwitch with
  | some (.gesture g) =>
      if g.isTouchpad ≠ isTouchpad ∨ g.dnd = true then pure (m, none)
      else do
        let x ← clamp (g.startIdx + c.gesturePos m) (g.minMax m.workspaces.length)
        let newIdx := x + excess
        if g.currentIdx = newIdx then return (m, some false)
        else
          let g := { g with currentIdx := newIdx }
          return ({ m with workspaceSwitch := some (.gesture g) }, some true)
  | _ => pure (m, none)

def dndScrollGestureScroll : Counted (Monitor W) :=
  match m.dndGesture with
  | some g =>
      if c.scrolls m then do
        let unclamped := g.startIdx + c.gesturePos m
        let clamped ← clamp unclamped (g.minMax m.workspaces.length)
        let g := { g with startIdx := g.startIdx + (clamped - unclamped), currentIdx := clamped }
        return { m with workspaceSwitch := some (.gesture g) }
      else pure m
  | none => pure m

def workspaceSwitchGestureEnd (isTouchpad : Option Bool) : Counted (Monitor W × Bool) :=
  match m.workspaceSwitch with
  | some (.gesture g) =>
      if isTouchpad.any fun x => g.isTouchpad != x then pure (m, false)
      else do
        let x ← clamp (g.startIdx + c.gesturePos m) (g.minMax m.workspaces.length)
        let newIdx := roundIdx x
        let m ← m.rememberActive newIdx
        return ({ m with
          activeWorkspaceIdx := newIdx
          workspaceSwitch := some (.animation newIdx) }, true)
  | _ => pure (m, false)

def dndScrollGestureEnd : Counted (Monitor W) :=
  if m.dndGesture.isSome then do
    let (m, _) ← m.workspaceSwitchGestureEnd c none
    return m
  else pure m

end Monitor

end Cidre.Workspaces
